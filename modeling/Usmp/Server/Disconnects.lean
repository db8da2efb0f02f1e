import Usmp.Handshake.Server
import Usmp.Server.Blame

/-!
# Disconnects and failures of `server_handshake`

The coroutine with its `except` clauses, from the lockout check to its end.  A peer that
disconnects is not to be charged, and one that breaks the protocol once.
-/

namespace Usmp

/-- What resumes `server_handshake`. -/
inductive HandshakeEvent where
  | read (result : Except Exn USMPFrame) (entropy : Entropy)
  | resolved (result : Except Exn (Option Bytes)) (entropy : Entropy)
  | wrote (failure : Option Exn)

namespace HandshakeEvent

/-- The peer disconnects, or the transport fails. -/
def disconnects : HandshakeEvent → Bool
  | .read (.error exn) _ | .wrote (some exn) =>
      exn.caughtBy [.incompleteReadError, .connectionResetError, .eofError, .osError]
  | .read (.ok _) _ | .resolved _ _ | .wrote none => false

/-- `read_frame` raises an `IncompleteReadError`. -/
def endsRead : HandshakeEvent → Bool
  | .read (.error exn) _ => exn.caughtBy [.incompleteReadError]
  | .read (.ok _) _ | .resolved _ _ | .wrote _ => false

end HandshakeEvent

namespace ServerHandshake

def resume (P : Primitives) (X : KeyExchange) (run : ServerHandshake) :
    HandshakeEvent → Option ServerHandshake
  | .read result entropy => (run.read P X result entropy).map Prod.fst
  | .resolved result entropy => (run.resolved X result entropy).map Prod.fst
  | .wrote failure => run.wrote P X failure

end ServerHandshake

/-- A call of `server_handshake`, and the server with the table that it reads and writes. -/
structure HandshakeTask where
  server : Server
  limiterKey : String
  run : ServerHandshake

namespace HandshakeTask

/-- The call up to its first await.  `remaining` is the text of the seconds that a lockout
has left. -/
def start (server : Server) (limiterKey : String) (psk : PskInput) (now : Rat)
    (remaining : String) : HandshakeTask :=
  { server, limiterKey
    run := .start psk
      (if isLockedOut server.failedHandshakes limiterKey now then some remaining else none) }

/-- `_failed_handshakes.pop(limiter_key, None)`, when SESSION_OK is written. -/
def popFailures (task : HandshakeTask) (event : HandshakeEvent) : Server :=
  match task.run.stage, event with
  | .writingSessionOk _, .wrote none =>
      { task.server with
        failedHandshakes := task.server.failedHandshakes.erase task.limiterKey }
  | _, _ => task.server

/-- From one await to the next, or through the `except` clauses. -/
def step (P : Primitives) (X : KeyExchange) (task : HandshakeTask)
    (resumed : HandshakeEvent × Rat) : Option HandshakeTask :=
  match task.run.resume P X resumed.1 with
  | none => none
  | some run =>
      let server := task.popFailures resumed.1
      match run.stage with
      | .raised exn =>
          let (server, exn) := server.handshakeExcept task.limiterKey resumed.2 exn
          some { task with server, run := run.goto (.raised exn) }
      | .created | .readingHello | .resolving _ _ | .writingChallenge _ | .readingHelloAck _ _
      | .writingSessionOk _ | .returned _ => some { task with server, run }

end HandshakeTask

/-! ## Failures of the protocol -/

/-- The PSK of the device is found at once to be missing, of the wrong type or too short. -/
def PskInput.unresolved (input : PskInput) (deviceId : Bytes) : Bool :=
  match input with
  | .bytes psk => psk.length < 16
  | .table entries =>
      match (entries.get? deviceId).or (entries.get? []) with
      | some psk => psk.length < 16
      | none => true
  | .callable resolve =>
      match resolve deviceId with
      | .bytes psk => psk.length < 16
      | .other => true
      | .awaitable | .raises _ => false

/-- A malformed frame, a wrong type or length, an unresolved PSK, a bad key or a failed HMAC. -/
inductive ProtocolFailure (P : Primitives) (X : KeyExchange) (run : ServerHandshake) :
    HandshakeEvent → Prop where
  | malformed (exn : Exn) (entropy : Entropy) (isFrame : exn.caughtBy [.frameError] = true) :
      ProtocolFailure P X run (.read (.error exn) entropy)
  | hello (frame : USMPFrame) (entropy : Entropy) (reading : run.stage = .readingHello)
      (wrong : frame.type ≠ .hello ∨ frame.length ≠ 38 ∧ frame.length ≠ 54) :
      ProtocolFailure P X run (.read (.ok frame) entropy)
  | psk (frame : USMPFrame) (entropy : Entropy) (reading : run.stage = .readingHello)
      (isHello : frame.type = .hello) (size : frame.length = 38 ∨ frame.length = 54)
      (unresolved : run.psk.unresolved (payloadSlice frame 0 usmpDeviceIdLen) = true) :
      ProtocolFailure P X run (.read (.ok frame) entropy)
  | awaitedPsk (deviceId pubC : Bytes) (result : Option Bytes) (entropy : Entropy)
      (resolving : run.stage = .resolving deviceId pubC)
      (short : ∀ psk, result = some psk → psk.length < 16) :
      ProtocolFailure P X run (.resolved (.ok result) entropy)
  | badKey (hello : ServerHello) (exn : Exn) (writing : run.stage = .writingChallenge hello)
      (underivable : deriveSessionKeys P X hello.priv hello.pubC hello.nonce.1 hello.pubC
        (X.publicKey hello.priv).1 = .error exn) :
      ProtocolFailure P X run (.wrote none)
  | helloAck (frame : USMPFrame) (entropy : Entropy) (hello : ServerHello) (keys : Key × Key)
      (reading : run.stage = .readingHelloAck hello keys)
      (wrong : frame.type ≠ .helloAck ∨ frame.length ≠ usmpHmacLen) :
      ProtocolFailure P X run (.read (.ok frame) entropy)
  | hmac (frame : USMPFrame) (entropy : Entropy) (hello : ServerHello) (keys : Key × Key)
      (reading : run.stage = .readingHelloAck hello keys) (isAck : frame.type = .helloAck)
      (size : frame.length = usmpHmacLen)
      (mismatch : (P.hmacSha256 hello.psk (clientMacMessage hello.nonce.1 hello.deviceId
        hello.pubC (X.publicKey hello.priv).1)).1 ≠ payloadSlice frame 0 usmpHmacLen) :
      ProtocolFailure P X run (.read (.ok frame) entropy)

section Raising

open Server

variable {P : Primitives} {X : KeyExchange} {run next : ServerHandshake}

/-- The coroutine raises what counts as a failure. -/
def RaisesFailure (next : ServerHandshake) : Prop :=
  ∃ exn, next.stage = .raised exn ∧ countsAsFailure exn = true

theorem raisesFailure_handshakeError (run : ServerHandshake) (message : String) :
    RaisesFailure (run.raise ⟨.handshakeError, message⟩).1 := ⟨_, rfl, rfl⟩

theorem countsAsFailure_of_frameError {exn : Exn} (isFrame : exn.caughtBy [.frameError] = true) :
    countsAsFailure exn = true ∧ exn.caughtBy [.incompleteReadError] = false := by
  rcases exn with ⟨cls, message⟩
  cases cls <;> first | exact ⟨rfl, rfl⟩ | cases isFrame

theorem countsAsFailure_of_disconnect {exn : Exn}
    (disconnects : exn.caughtBy [.incompleteReadError, .connectionResetError, .eofError,
      .osError] = true) : countsAsFailure exn = false := by
  rcases exn with ⟨cls, message⟩
  cases cls <;> first | rfl | cases disconnects

theorem countsAsFailure_of_underivable {privKey : PrivateKey} {peerPub nonce pubC pubS : Bytes}
    {exn : Exn}
    (underivable : deriveSessionKeys P X privKey peerPub nonce pubC pubS = .error exn) :
    countsAsFailure exn = true := by
  unfold deriveSessionKeys at underivable
  split at underivable
  · split at underivable
    · cases underivable
      rfl
    · split at underivable <;> cases underivable
      rfl
  · cases underivable
    rfl

theorem raisesFailure_of_unresolved (run : ServerHandshake) (frame : USMPFrame)
    (entropy : Entropy) (isHello : frame.type = .hello)
    (size : frame.length = 38 ∨ frame.length = 54)
    (unresolved : run.psk.unresolved (payloadSlice frame 0 usmpDeviceIdLen) = true) :
    RaisesFailure (run.onHello X frame entropy).1 := by
  have short : ∀ deviceId pubC psk, decide (psk.length < 16) = true →
      RaisesFailure (run.challenge X deviceId pubC psk entropy).1 := by
    intro deviceId pubC psk short
    rw [ServerHandshake.challenge, if_pos (of_decide_eq_true short)]
    exact raisesFailure_handshakeError run _
  have fits : ¬ (frame.length ≠ 38 ∧ frame.length ≠ 54) := fun wrong =>
    size.elim wrong.1 wrong.2
  rw [ServerHandshake.onHello, if_neg (not_not.mpr isHello), if_neg fits]
  unfold PskInput.unresolved at unresolved
  unfold PskInput.lookup
  cases isInput : run.psk with
  | bytes psk =>
      rw [isInput] at unresolved
      exact short _ _ psk unresolved
  | table entries =>
      simp only [isInput] at unresolved ⊢
      cases found : (entries.get? (payloadSlice frame 0 usmpDeviceIdLen)).or (entries.get? []) with
      | some psk =>
          rw [found] at unresolved
          exact short _ _ psk unresolved
      | none => exact raisesFailure_handshakeError run _
  | callable resolve =>
      simp only [isInput] at unresolved ⊢
      cases found : resolve (payloadSlice frame 0 usmpDeviceIdLen) with
      | bytes psk =>
          rw [found] at unresolved
          exact short _ _ psk unresolved
      | other => exact raisesFailure_handshakeError run _
      | awaitable | raises exn =>
          rw [found] at unresolved
          cases unresolved

theorem resume_readError {exn : Exn} {entropy : Entropy}
    (resumed : run.resume P X (.read (.error exn) entropy) = some next) :
    ∃ message, next = (run.raise (readExcept exn message)).1 := by
  rcases run with ⟨psk, stage⟩
  cases stage with
  | readingHello => exact ⟨_, (Option.some.inj resumed).symm⟩
  | readingHelloAck hello keys => exact ⟨_, (Option.some.inj resumed).symm⟩
  | created | resolving _ _ | writingChallenge _ | writingSessionOk _ | returned _ | raised _ =>
      cases resumed

theorem resume_writeError {exn : Exn} (resumed : run.resume P X (.wrote (some exn)) = some next) :
    next = run.goto (.raised exn) := by
  rcases run with ⟨psk, stage⟩
  cases stage with
  | writingChallenge hello => exact (Option.some.inj resumed).symm
  | writingSessionOk locals => exact (Option.some.inj resumed).symm
  | created | readingHello | resolving _ _ | readingHelloAck _ _ | returned _ | raised _ =>
      cases resumed

theorem raisesFailure_of_protocolFailure {event : HandshakeEvent}
    (failure : ProtocolFailure P X run event) (resumed : run.resume P X event = some next) :
    RaisesFailure next := by
  cases failure with
  | malformed exn entropy isFrame =>
      rcases countsAsFailure_of_frameError isFrame with ⟨counts, notEnd⟩
      rcases resume_readError resumed with ⟨message, rfl⟩
      rw [readExcept, notEnd, if_neg Bool.false_ne_true]
      exact ⟨exn, rfl, counts⟩
  | hello frame entropy reading wrong =>
      simp only [ServerHandshake.resume, ServerHandshake.read, reading, Option.map_some,
        Option.some.injEq] at resumed
      subst resumed
      unfold ServerHandshake.onHello
      split
      · exact raisesFailure_handshakeError run _
      · rename_i isHello
        rw [if_pos (wrong.resolve_left isHello)]
        exact raisesFailure_handshakeError run _
  | psk frame entropy reading isHello size unresolved =>
      simp only [ServerHandshake.resume, ServerHandshake.read, reading, Option.map_some,
        Option.some.injEq] at resumed
      subst resumed
      exact raisesFailure_of_unresolved run frame entropy isHello size unresolved
  | awaitedPsk deviceId pubC result entropy resolving short =>
      cases result with
      | none =>
          simp only [ServerHandshake.resume, ServerHandshake.resolved, resolving,
            Option.map_some, Option.some.injEq] at resumed
          subst resumed
          exact raisesFailure_handshakeError run _
      | some psk =>
          simp only [ServerHandshake.resume, ServerHandshake.resolved, resolving,
            Option.map_some, Option.some.injEq] at resumed
          subst resumed
          rw [ServerHandshake.challenge, if_pos (short psk rfl)]
          exact raisesFailure_handshakeError run _
  | badKey hello exn writing underivable =>
      simp only [ServerHandshake.resume, ServerHandshake.wrote, writing, underivable,
        Option.some.injEq] at resumed
      subst resumed
      exact ⟨exn, rfl, countsAsFailure_of_underivable underivable⟩
  | helloAck frame entropy hello keys reading wrong =>
      simp only [ServerHandshake.resume, ServerHandshake.read, reading, Option.map_some,
        Option.some.injEq] at resumed
      subst resumed
      unfold ServerHandshake.onHelloAck
      split
      · exact raisesFailure_handshakeError run _
      · rename_i isAck
        rw [if_pos (wrong.resolve_left isAck)]
        exact raisesFailure_handshakeError run _
  | hmac frame entropy hello keys reading isAck size mismatch =>
      simp only [ServerHandshake.resume, ServerHandshake.read, reading, Option.map_some,
        Option.some.injEq] at resumed
      subst resumed
      rw [ServerHandshake.onHelloAck, if_neg (not_not.mpr isAck), if_neg (not_not.mpr size)]
      dsimp only
      rw [if_pos mismatch]
      exact ⟨_, rfl, rfl⟩

end Raising

/-! ## The table at the end of a call -/

namespace HandshakeTask

open Server

variable {P : Primitives} {X : KeyExchange} {task next : HandshakeTask}
  {resumed : HandshakeEvent × Rat}

/-- Only the end of the handshake pops the failures. -/
theorem popFailures_eq (event : HandshakeEvent)
    (notLast : event = .wrote none → ∀ locals, task.run.stage ≠ .writingSessionOk locals) :
    task.popFailures event = task.server := by
  unfold popFailures
  split
  · rename_i locals writing
    exact absurd writing (notLast rfl locals)
  · rfl

/-- The table after a step in which the coroutine raises. -/
theorem table_of_raises (stepped : task.step P X resumed = some next)
    (unpopped : task.popFailures resumed.1 = task.server) {run : ServerHandshake}
    (isRun : task.run.resume P X resumed.1 = some run) {exn : Exn}
    (isRaised : run.stage = .raised exn) :
    (∃ raised, next.run.stage = .raised raised) ∧
      next.server.failedHandshakes =
        if countsAsFailure exn then
          afterFailure task.server.failedHandshakes task.limiterKey resumed.2
        else task.server.failedHandshakes := by
  unfold step at stepped
  rw [isRun] at stepped
  dsimp only at stepped
  rw [isRaised, unpopped] at stepped
  cases stepped
  refine ⟨⟨_, rfl⟩, ?_⟩
  rw [handshakeExcept_eq]
  cases countsAsFailure exn with
  | true => exact recordFailure_table _ _ _ _
  | false => rfl

theorem resume_hasEnded {run : ServerHandshake} (isOver : run.hasEnded = true)
    (event : HandshakeEvent) : run.resume P X event = none := by
  rcases run with ⟨psk, stage⟩
  cases stage with
  | returned info =>
      cases event with
      | read result entropy => rfl
      | resolved result entropy => rfl
      | wrote failure => rfl
  | raised exn =>
      cases event with
      | read result entropy => rfl
      | resolved result entropy => rfl
      | wrote failure => rfl
  | created | readingHello | resolving _ _ | writingChallenge _ | readingHelloAck _ _
  | writingSessionOk _ => cases isOver

theorem waits_of_step (stepped : task.step P X resumed = some next) :
    task.run.hasEnded = false := by
  by_contra isOver
  rw [step, resume_hasEnded (by simpa using isOver)] at stepped
  cases stepped

/-- The handshake ends with the SESSION_OK. -/
theorem hasEnded_of_sessionOk {run after : ServerHandshake} {locals : ServerLocals}
    (writing : run.stage = .writingSessionOk locals)
    (resumed : run.resume P X (.wrote none) = some after) : after.hasEnded = true := by
  rcases run with ⟨psk, stage⟩
  cases writing
  simp only [ServerHandshake.resume, ServerHandshake.wrote] at resumed
  split at resumed <;> cases resumed <;> rfl

/-- A call that waits has not touched the table. -/
structure Untouched (server : Server) (limiterKey : String) (task : HandshakeTask) : Prop where
  limiterKey : task.limiterKey = limiterKey
  server : task.run.hasEnded = false → task.server = server

theorem Untouched.step {server : Server} {limiterKey : String}
    (untouched : Untouched server limiterKey task) (stepped : task.step P X resumed = some next) :
    Untouched server limiterKey next := by
  have same := untouched.server (waits_of_step stepped)
  unfold HandshakeTask.step at stepped
  split at stepped
  · cases stepped
  rename_i run isRun
  dsimp only at stepped
  have kept : run.hasEnded = false → task.popFailures resumed.1 = server := by
    intro notOver
    rw [popFailures_eq, same]
    intro isWrite locals writing
    rw [isWrite] at isRun
    rw [hasEnded_of_sessionOk writing isRun] at notOver
    cases notOver
  split at stepped
  · cases stepped
    exact ⟨untouched.limiterKey, nofun⟩
  all_goals
    cases stepped
    exact ⟨untouched.limiterKey, kept⟩

theorem untouched_of_run {server : Server} {limiterKey : String} {psk : PskInput} {now : Rat}
    {remaining : String} {events : List (HandshakeEvent × Rat)}
    (reached : Machine.run (step P X) (start server limiterKey psk now remaining) events =
      some task) : Untouched server limiterKey task :=
  Machine.run_invariant' (Untouched server limiterKey)
    (fun _ _ _ untouched stepped => untouched.step stepped) ⟨rfl, fun _ => rfl⟩ reached

/-- The call raises, and leaves the table as it was. -/
def Spares (server : Server) (next : HandshakeTask) : Prop :=
  (∃ exn, next.run.stage = .raised exn) ∧
    next.server.failedHandshakes = server.failedHandshakes

/-- The call raises, and adds one failure for the key. -/
def ChargesOne (server : Server) (limiterKey : String) (next : HandshakeTask) : Prop :=
  (∃ exn, next.run.stage = .raised exn) ∧
    failsOf next.server.failedHandshakes limiterKey =
      failsOf server.failedHandshakes limiterKey + 1

theorem spares_iff_of_disconnects {server : Server} {limiterKey : String}
    (untouched : Untouched server limiterKey task) (stepped : task.step P X resumed = some next)
    (disconnects : resumed.1.disconnects = true) :
    Spares server next ↔
      (resumed.1.endsRead = true → 1028 ≤ failsOf server.failedHandshakes limiterKey) := by
  have same := untouched.server (waits_of_step stepped)
  -- an exception that leaves `server_handshake` uncounted
  have uncounted : ∀ run exn, task.run.resume P X resumed.1 = some run →
      run.stage = .raised exn → countsAsFailure exn = false →
      task.popFailures resumed.1 = task.server → Spares server next := by
    intro run exn isRun isRaised uncounted unpopped
    rcases table_of_raises stepped unpopped isRun isRaised with ⟨raises, table⟩
    rw [uncounted, if_neg Bool.false_ne_true, same] at table
    exact ⟨raises, table⟩
  cases isRun : task.run.resume P X resumed.1 with
  | none =>
      rw [step, isRun] at stepped
      cases stepped
  | some run =>
      rcases resumed with ⟨event, now⟩
      cases event with
      | resolved result entropy => cases disconnects
      | wrote failure =>
          cases failure with
          | none => cases disconnects
          | some exn =>
              have raised := resume_writeError isRun
              subst raised
              exact iff_of_true (uncounted _ exn isRun rfl
                (countsAsFailure_of_disconnect disconnects) (popFailures_eq _ nofun)) nofun
      | read result entropy =>
          cases result with
          | ok frame => cases disconnects
          | error exn =>
              have unpopped : task.popFailures (.read (.error exn) entropy) = task.server :=
                popFailures_eq _ nofun
              rcases resume_readError isRun with ⟨message, rfl⟩
              cases isEnd : exn.caughtBy [.incompleteReadError] with
              | false =>
                  have kept : readExcept exn message = exn := by
                    rw [readExcept, isEnd, if_neg Bool.false_ne_true]
                  have spared := uncounted _ exn isRun (by rw [kept]; rfl)
                    (countsAsFailure_of_disconnect disconnects) unpopped
                  refine iff_of_true spared fun ends => ?_
                  rw [HandshakeEvent.endsRead, isEnd] at ends
                  cases ends
              | true =>
                  -- the inner `except` clause makes a `HandshakeError` of it
                  have converted : readExcept exn message = ⟨.handshakeError, message⟩ := by
                    rw [readExcept, isEnd, if_pos rfl]
                  rcases table_of_raises stepped unpopped isRun rfl with ⟨raises, table⟩
                  have counts : countsAsFailure ⟨.handshakeError, message⟩ = true := rfl
                  rw [converted, counts, if_pos rfl, same, untouched.limiterKey] at table
                  constructor
                  · intro spared _
                    by_contra few
                    exact afterFailure_ne (Nat.not_le.mp few) now (table.symm.trans spared.2)
                  · intro full
                    exact ⟨raises, table.trans (afterFailure_full (full isEnd) now)⟩

theorem chargesOne_iff_of_failure {server : Server} {limiterKey : String}
    (untouched : Untouched server limiterKey task) (stepped : task.step P X resumed = some next)
    (failure : ProtocolFailure P X task.run resumed.1) :
    ChargesOne server limiterKey next ↔ failsOf server.failedHandshakes limiterKey < 1028 := by
  have same := untouched.server (waits_of_step stepped)
  have unpopped : task.popFailures resumed.1 = task.server := by
    apply popFailures_eq
    intro isWrite locals writing
    rw [isWrite] at failure
    cases failure with
    | badKey hello exn isChallenge underivable =>
        rw [writing] at isChallenge
        cases isChallenge
  cases isRun : task.run.resume P X resumed.1 with
  | none =>
      rw [step, isRun] at stepped
      cases stepped
  | some run =>
      rcases raisesFailure_of_protocolFailure failure isRun with ⟨exn, isRaised, counts⟩
      rcases table_of_raises stepped unpopped isRun isRaised with ⟨raises, table⟩
      rw [counts, if_pos rfl, same, untouched.limiterKey] at table
      rw [ChargesOne, table, failsOf_afterFailure]
      constructor
      · intro charged
        by_contra full
        rw [if_neg full] at charged
        exact absurd charged.2 (Nat.ne_of_lt (Nat.lt_succ_self _))
      · intro few
        exact ⟨raises, if_pos few⟩

/-- In every run of `server_handshake`, a disconnect leaves the table as it was and a failure
of the protocol adds one failure, exactly when the disconnect is no `IncompleteReadError` at
a read, as far as this is still counted, and the failure is. -/
theorem disconnects_spared_iff (P : Primitives) (X : KeyExchange) (server : Server)
    (limiterKey : String) (psk : PskInput) (now : Rat) (remaining : String)
    (events : List (HandshakeEvent × Rat)) (task next : HandshakeTask)
    (resumed : HandshakeEvent × Rat)
    (reached : Machine.run (step P X) (start server limiterKey psk now remaining) events =
      some task)
    (stepped : task.step P X resumed = some next) :
    ((resumed.1.disconnects = true → Spares server next) ∧
        (ProtocolFailure P X task.run resumed.1 → ChargesOne server limiterKey next)) ↔
      (resumed.1.disconnects = true → resumed.1.endsRead = true →
          1028 ≤ failsOf server.failedHandshakes limiterKey) ∧
        (ProtocolFailure P X task.run resumed.1 →
          failsOf server.failedHandshakes limiterKey < 1028) := by
  have untouched := untouched_of_run reached
  apply and_congr
  · exact forall_congr' (spares_iff_of_disconnects untouched stepped)
  · exact forall_congr' (chargesOne_iff_of_failure untouched stepped)

/-- A call with a fresh table. -/
def sampleCall : HandshakeTask := start (.new {}) "192.0.2.1" (.bytes samplePsk) 0 ""

/-- The HELLO of a device. -/
def sampleHelloRead : HandshakeEvent × Rat :=
  (.read (.ok (sentFrame .hello (sampleDeviceId.1 ++ (samplePrivate 1).1) 0)) (sampleEntropy 2), 1)

/-- The peer resets the connection before its HELLO_ACK. -/
theorem disconnects_spared_iff_sampleCall :
    ∃ task next, Machine.run (step samplePrimitives sampleKeyExchange) sampleCall
        [sampleHelloRead, (.wrote none, 2)] = some task ∧
      task.step samplePrimitives sampleKeyExchange
        (.read (.error ⟨.connectionResetError, ""⟩) (sampleEntropy 2), 3) = some next ∧
      Spares (.new {}) next := by
  rcases Machine.exists_run (step samplePrimitives sampleKeyExchange) sampleCall
    [sampleHelloRead, (.wrote none, 2)]
    (fun task => (task.step samplePrimitives sampleKeyExchange
      (.read (.error ⟨.connectionResetError, ""⟩) (sampleEntropy 2), 3)).isSome = true)
    (by decide +kernel) with ⟨task, reached, isSome⟩
  rcases Option.isSome_iff_exists.mp isSome with ⟨next, stepped⟩
  have spared := (disconnects_spared_iff samplePrimitives sampleKeyExchange (.new {}) "192.0.2.1"
    (.bytes samplePsk) 0 "" _ task next _ reached stepped).mpr
    ⟨fun _ ends => (nomatch ends), fun _ => by decide⟩
  exact ⟨task, next, reached, stepped, spared.1 rfl⟩

/-- The peer closes the connection before its HELLO. -/
theorem disconnect_charged_sampleCall :
    ∃ next, sampleCall.step samplePrimitives sampleKeyExchange
        (.read (.error ⟨.incompleteReadError, ""⟩) (sampleEntropy 2), 1) = some next ∧
      failsOf next.server.failedHandshakes "192.0.2.1" = 1 ∧ ¬ Spares (.new {}) next := by
  refine ⟨_, rfl, by decide +kernel, fun spared => ?_⟩
  have counted := congrArg (failsOf · "192.0.2.1") spared.2
  revert counted
  decide +kernel

end HandshakeTask

end Usmp
