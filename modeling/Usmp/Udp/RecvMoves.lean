import Usmp.Session.Exceptions
import Usmp.Udp.Feed
import Usmp.Udp.Steps
import Usmp.Session.Receiver

/-!
# What a step makes of a `recv` over UDP

A step that resumes a `recv` leaves it waiting, makes it count a control frame, or ends it.
`EndCause` and the budget of control frames are all that ends it with an exception.
-/

namespace Usmp

namespace UdpPeer

/-! ## Causes -/

/-- The `recv` reads this frame whole, and the frame passes the window and is authentic. -/
structure Opens (P : Primitives) (peer : UdpPeer) (task : Nat) (locals : RecvLocals)
    (frame : USMPFrame) (plaintext : Bytes) : Prop where
  read : ∃ pending rest, peer.session.tasks task = some (.reading locals pending) ∧
    readFrame true pending peer.stream.readBuffer = (.finished (.ok frame), rest)
  opened : openFrame P peer.session.reliable peer.session.info (.ok frame) =
    .ok (some (frame, plaintext))

/-- A cause for which one step ends a `recv`, and the exception. -/
inductive EndCause (P : Primitives) (peer : UdpPeer) (task : Nat) : UdpAction → Exn → Prop where
  | bye (now : Rat) (locals : RecvLocals) (frame : USMPFrame) (plaintext : Bytes)
      (opens : Opens P peer task locals frame plaintext) (inRange : frame.seq < maxSeq)
      (isBye : frame.type = .bye) :
      EndCause P peer task (.resume task now) ⟨.connectionClosedError, "Remote sent BYE"⟩
  | spent (now : Rat) (locals : RecvLocals) (frame : USMPFrame) (plaintext : Bytes)
      (opens : Opens P peer task locals frame plaintext) (isLast : frame.seq = maxSeq) :
      EndCause P peer task (.resume task now) ⟨.sequenceError, "RX sequence overflowed"⟩
  | closed (now : Rat) (isClosed : peer.stream.closed = true) :
      EndCause P peer task (.resume task now) ⟨.incompleteReadError, "stream closed"⟩
  | closedWrite (isClosed : peer.stream.closed = true) :
      EndCause P peer task (.acquire task) ⟨.osError, "Stream is closed"⟩
  /-- No attempt to send the PONG was acknowledged. -/
  | pongFailed (now : Rat) (arq : Arq) (locals : RecvLocals) (inFlight : peer.arq = some arq)
      (isTask : arq.task = task) (lastAttempt : maxAttempts ≤ arq.attempt + 1)
      (isPong : peer.session.tasks task = some (.writing (.pong locals))) :
      EndCause P peer task (.timeout now) ⟨.osError, "UDP transmission failed"⟩

/-- The `recv` that a step makes count a control frame, and when: it accepted a PONG, or its
answer to a PING was acknowledged. -/
def counts (P : Primitives) (peer : UdpPeer) : UdpAction → Option (Nat × Rat)
  | .resume task now =>
      match peer.session.tasks task with
      | some (.reading locals pending) =>
          match (readFrame true pending peer.stream.readBuffer).1 with
          | .finished result =>
              match openFrame P peer.session.reliable peer.session.info result with
              | .ok (some (frame, _)) =>
                  if frame.seq < maxSeq ∧ frame.type = .pong ∧ locals.assembledPayload = [] then
                    some (task, now)
                  else
                    none
              | .ok none | .error _ => none
          | .suspended _ => none
      | _ => none
  | .acked now =>
      match peer.arq with
      | some arq =>
          match peer.session.tasks arq.task with
          | some (.writing (.pong _)) => some (arq.task, now)
          | _ => none
      | none => none
  | _ => none

/-- A violation that the second `except` clause of `recv` drops. -/
inductive Violates (P : Primitives) (peer : UdpPeer) (task : Nat) : UdpAction → Exn → Prop where
  /-- The handling of an authentic frame raised it. -/
  | frame (now : Rat) (locals : RecvLocals) (frame : USMPFrame) (plaintext : Bytes)
      (marked : SessionInfo) (calls : List TransportCall) (exn : Exn)
      (opens : Opens P peer task locals frame plaintext)
      (accepted : acceptSeq peer.session.reliable peer.session.info frame.seq = .ok (marked, calls))
      (refused : handleFrame P marked locals now frame plaintext = .error exn)
      (violation : exn.Violation) :
      Violates P peer task (.resume task now) exn
  /-- The send sequence is spent when a PING is to be answered. -/
  | spentPong (locals : RecvLocals)
      (waiting : peer.session.tasks task = some (.lockWait (.pong locals)))
      (spent : maxSeq ≤ peer.session.info.txSeq) :
      Violates P peer task (.acquire task) ⟨.sequenceError, "TX sequence overflowed"⟩
  /-- The PONG does not fit a frame. -/
  | oversizedPong (locals : RecvLocals) (exn : Exn)
      (waiting : peer.session.tasks task = some (.lockWait (.pong locals)))
      (unspent : peer.session.info.txSeq < maxSeq)
      (failed : encodeFrame .pong
          (encryptedFrame P peer.session.info task (.pong locals)).payload
          peer.session.info.txSeq = .error exn) :
      Violates P peer task (.acquire task) exn

/-- What becomes of a `recv` with these locals in a step that resumes it. -/
inductive RecvMove (P : Primitives) (peer : UdpPeer) (task : Nat) (locals : RecvLocals)
    (action : UdpAction) : Fate → Prop where
  | kept (at_ : Task) (after : RecvLocals) (isLocals : at_.locals? = some after)
      (count : after.ctrlCount = locals.ctrlCount)
      (window : after.ctrlWindowStart = locals.ctrlWindowStart)
      (uncounted : counts P peer action = none) :
      RecvMove P peer task locals action (.suspended at_)
  | counted (now : Rat) (after : RecvLocals) (isCounted : counts P peer action = some (task, now))
      (next : countControl locals now = .ok after) :
      RecvMove P peer task locals action (.suspended (.reading after none))
  | crowded (now : Rat) (isCounted : counts P peer action = some (task, now))
      (tooMany : countControl locals now = .error tooManyControls) :
      RecvMove P peer task locals action (.ended (.raised tooManyControls))
  | finished (outcome : Outcome) (notRaised : ∀ exn, outcome ≠ .raised exn) :
      RecvMove P peer task locals action (.ended outcome)
  | raised (exn : Exn) (cause : EndCause P peer task action exn) :
      RecvMove P peer task locals action (.ended (.raised exn))

/-! ## One step -/

/-- What `read_frame` returns has a sequence of four bytes. -/
theorem seq_le_of_readFrame {verifyCrc : Bool} {pending : Option Bytes} {buffer rest : Bytes}
    {frame : USMPFrame}
    (read : readFrame verifyCrc pending buffer = (.finished (.ok frame), rest)) :
    frame.seq ≤ maxSeq := by
  have decoded : ∃ data, decodeFrame data verifyCrc = .ok frame := by
    have payload : ∀ {header buffer left length},
        readFramePayload verifyCrc header length buffer = (.finished (.ok frame), left) →
        ∃ data, decodeFrame data verifyCrc = .ok frame := by
      intro header buffer left length finished
      unfold readFramePayload at finished
      split at finished
      · cases finished
      · have progress := congrArg Prod.fst finished
        simp only [ReadProgress.finished.injEq] at progress
        exact ⟨_, progress⟩
    unfold readFrame at read
    split at read
    · exact payload read
    split at read
    · cases read
    dsimp only at read
    split at read
    · cases read
    · exact payload read
  rcases decoded with ⟨data, decoded⟩
  rw [(decodeFrame_fields decoded).2.1]
  have bound := fieldAt_lt data 4 4
  simp only [maxSeq]
  omega

/-- What one result of `read_frame` makes of a `recv`. -/
theorem recvMove_turn {P : Primitives} {peer : UdpPeer} {task : Nat} {locals : RecvLocals}
    {pending : Option Bytes} {result : Except Exn USMPFrame} {rest : Bytes} (now : Rat)
    (unreliable : peer.session.reliable = false)
    (reading : peer.session.tasks task = some (.reading locals pending))
    (read : readFrame true pending peer.stream.readBuffer = (.finished result, rest)) :
    RecvMove P peer task locals (.resume task now)
      (recvTurn P false peer.session.info locals now result).step.fate := by
  have isKept : ∀ after : RecvLocals, after.ctrlCount = locals.ctrlCount →
      after.ctrlWindowStart = locals.ctrlWindowStart →
      counts P peer (.resume task now) = none →
      RecvMove P peer task locals (.resume task now) (RecvStep.next after).fate :=
    fun after count window uncounted => .kept _ after rfl count window uncounted
  unfold recvTurn
  split
  · rename_i exn failed
    have malformed : exn.Malformed := by
      rcases openFrame_error failed with isResult | malformed
      · rw [isResult] at read
        exact readFrame_error read
      · exact malformed
    rw [if_pos (by simpa using malformed)]
    apply isKept locals rfl rfl
    simp [counts, reading, read, unreliable, failed]
  · rename_i dropped
    apply isKept locals rfl rfl
    simp [counts, reading, read, unreliable, dropped]
  rename_i frame plaintext opened
  have isResult := result_of_openFrame opened
  subst isResult
  have opens : Opens P peer task locals frame plaintext :=
    ⟨⟨pending, rest, reading, read⟩, by rw [unreliable]; exact opened⟩
  split
  · rename_i exn rejected
    rcases acceptSeq_error rejected with ⟨spent, rfl⟩
    have bound := seq_le_of_readFrame read
    exact .raised _ (.spent now locals frame plaintext opens (by omega))
  rename_i marked calls accepted
  have inRange := (acceptSeq_ok accepted).1
  by_cases isCount : frame.type = .pong ∧ locals.assembledPayload = []
  · have isCounted : counts P peer (.resume task now) = some (task, now) := by
      simp [counts, reading, read, unreliable, opened, inRange, isCount]
    rw [handleFrame_pong isCount.1 isCount.2]
    cases next : countControl locals now with
    | ok after => exact .counted now after isCounted next
    | error exn =>
        have tooMany := (countControl_error next).1
        subst tooMany
        simp only [Except.map]
        rw [onViolation_of_not_violation locals (by decide)]
        exact .crowded now isCounted next
  · have uncounted : counts P peer (.resume task now) = none := by
      simp only [counts, reading, read, unreliable, opened, inRange, true_and, isCount, if_false]
    split
    · rename_i exn refused
      rcases handleFrame_error refused with ⟨isBye, rfl⟩ | pong | violation
      · rw [onViolation_of_not_violation locals (by decide)]
        exact .raised _ (.bye now locals frame plaintext opens inRange isBye)
      · exact absurd ⟨pong.1, pong.2.1⟩ isCount
      · rw [onViolation_of_violation locals violation]
        exact isKept locals.dropPartial rfl rfl uncounted
    · rename_i after moreCalls step handled
      rcases handleFrame_controls handled isCount with rfl | ⟨payload, rfl⟩ | ⟨next, rfl, same⟩
      · exact .kept _ locals rfl rfl rfl uncounted
      · exact .finished _ (by simp)
      · exact isKept next same.1 same.2 uncounted

/-- Within the sequence space a frame only fails to be encoded for its size. -/
theorem encodeFrame_error {type : PacketType} {payload : Bytes} {seq : Nat} {exn : Exn}
    (failed : encodeFrame type payload seq = .error exn) (inRange : seq ≤ maxSeq) :
    exn.Violation := by
  unfold encodeFrame at failed
  split at failed
  · cases failed
    rfl
  split at failed
  · rename_i large
    exact absurd inRange (Nat.not_le.mpr large)
  split at failed
  · rename_i version
    exact absurd version (by decide)
  · cases failed

/-- A coroutine after it was settled, and the results of its call. -/
theorem settled {before base : Session} (outcomes : base.outcomes = before.outcomes) (task : Nat)
    (fate : Fate) :
    (base.settle task fate).tasks task = fate.await ∧
      ∀ outcome, (task, outcome) ∈ (base.settle task fate).outcomes →
        (task, outcome) ∈ before.outcomes ∨ fate.outcome = some outcome := by
  refine ⟨by rw [Session.settle_tasks, Function.update_self], ?_⟩
  intro outcome member
  rw [Session.settle_outcomes, outcomes] at member
  rcases List.mem_append.mp member with old | new
  · exact .inl old
  · rcases List.mem_map.mp new with ⟨other, isOutcome, equal⟩
    cases equal
    exact .inr (Option.mem_toList.mp isOutcome)

theorem Performed.of_silent {peer : UdpPeer} {result : Session × Effects} {after : Session}
    (done : Performed peer result after) (silent : result.2.write = none) : after = result.1 := by
  cases done with
  | plain => rfl
  | notSent sent locked exn write writing why =>
      rw [silent] at write
      cases write

/-- What a step makes of the `recv` that it resumes. -/
def Moves (P : Primitives) (peer next : UdpPeer) (task : Nat) (locals : RecvLocals)
    (action : UdpAction) : Prop :=
  ∃ fate, RecvMove P peer task locals action fate ∧ next.session.tasks task = fate.await ∧
    ∀ outcome, (task, outcome) ∈ next.session.outcomes →
      (task, outcome) ∈ peer.session.outcomes ∨ fate.outcome = some outcome

/-- A settled coroutine that ended up as a move allows. -/
theorem RecvMove.settle {P : Primitives} {peer next : UdpPeer} {task : Nat}
    {locals : RecvLocals} {action : UdpAction} {fate : Fate}
    (move : RecvMove P peer task locals action fate) (base : Session)
    (outcomes : base.outcomes = peer.session.outcomes)
    (isNext : next.session = base.settle task fate) : Moves P peer next task locals action := by
  refine ⟨fate, move, ?_⟩
  rw [isNext]
  exact settled outcomes task fate

/-- The lock admits a `recv` that is to answer a PING: it drops the partial message if the send
sequence is spent, and else it encrypts the PONG and writes. -/
theorem acquire_pong {P : Primitives} {session : Session} {task : Nat} {locals : RecvLocals}
    {result : Session × Effects} (unreliable : session.reliable = false)
    (waiting : session.tasks task = some (.lockWait (.pong locals)))
    (stepped : session.step P (.acquire task) = some result) :
    (maxSeq ≤ session.info.txSeq ∧ ∃ base : Session, base.outcomes = session.outcomes ∧
        result = (base.settle task (.suspended (.reading locals.dropPartial none)), {})) ∨
      (session.info.txSeq < maxSeq ∧ ∃ base : Session, base.outcomes = session.outcomes ∧
        result = (base.settle task (.suspended (.writing (.pong locals))),
          { write := some (encryptedFrame P session.info task (.pong locals)) })) := by
  simp only [Session.step, waiting] at stepped
  split at stepped <;> cases stepped
  rename_i free isLocked
  cases isLocked
  rcases Nat.lt_or_ge session.info.txSeq maxSeq with unspent | spent
  · right
    refine ⟨unspent, ?_⟩
    rcases Session.emit_cases P
        ({ session with admitted := session.admitted ++ [(task, .pong locals)] } : Session) task
        (.pong locals) with ⟨spent, _⟩ | ⟨_, wrote⟩
    · exact absurd unspent (Nat.not_lt.mpr spent)
    · rw [wrote]
      refine ⟨_, ?_, rfl⟩
      rfl
  · left
    refine ⟨spent, ?_⟩
    have isSpent : session.info.txSeq ≥ maxSeq ∧ (Locked.pong locals).frame.1 ≠ .bye :=
      ⟨spent, by simp [Locked.frame]⟩
    simp only [Session.emit, sendEncryptedLocked, if_pos isSpent, Session.raiseLocked_eq,
      Locked.raisedFate, unreliable]
    rw [onViolation_of_violation locals rfl]
    refine ⟨_, ?_, rfl⟩
    rfl

theorem moves_acquire {P : Primitives} {peer next : UdpPeer} {task : Nat} {locals : RecvLocals}
    (unreliable : peer.session.reliable = false)
    (waiting : peer.session.tasks task = some (.lockWait (.pong locals)))
    (stepped : peer.step P (.acquire task) = some next) :
    Moves P peer next task locals (.acquire task) := by
  have isKept : ∀ (at_ : Task) (after : RecvLocals), at_.locals? = some after →
      after.ctrlCount = locals.ctrlCount → after.ctrlWindowStart = locals.ctrlWindowStart →
      RecvMove P peer task locals (.acquire task) (.suspended at_) :=
    fun at_ after isLocals count window => .kept at_ after isLocals count window rfl
  rcases Option.map_eq_some_iff.mp stepped with ⟨result, onSession, rfl⟩
  have done := performed peer result
  rcases acquire_pong unreliable waiting onSession with
    ⟨spent, base, outcomes, rfl⟩ | ⟨unspent, base, outcomes, rfl⟩
  · have isNext := done.of_silent rfl
    exact (isKept _ locals.dropPartial rfl rfl rfl).settle _ outcomes isNext
  generalize isNext : (peer.perform _).session = after at done
  cases done with
  | plain => exact (isKept _ locals rfl rfl rfl).settle _ outcomes isNext
  | notSent sent locked exn write writing why =>
      cases write
      have isLocked : locked = .pong locals := by
        have same : some (Task.writing (.pong locals)) = some (.writing locked) := by
          rw [← writing]
          simp [encryptedFrame, Fate.await]
        simpa using same.symm
      subst isLocked
      rw [Session.raiseLocked_eq] at isNext
      have sameOutcomes : (base.settle task (.suspended (.writing (.pong locals)))).outcomes =
          peer.session.outcomes := by
        rw [Session.settle_outcomes, outcomes]
        simp [Fate.outcome]
      have stillUnreliable : (base.settle task (.suspended (.writing (.pong locals)))).reliable =
          false := (Session.step_reliable onSession).trans unreliable
      rw [stillUnreliable] at isNext
      simp only [Locked.raisedFate] at isNext
      cases why with
      | encode exn failed =>
          have violation := encodeFrame_error failed (Nat.le_of_lt unspent)
          rw [onViolation_of_violation locals violation] at isNext
          have move : RecvMove P peer task locals (.acquire task)
              (RecvStep.next locals.dropPartial).fate := isKept _ locals.dropPartial rfl rfl rfl
          exact move.settle _ (by exact sameOutcomes) isNext
      | closed isClosed =>
          rw [onViolation_of_not_violation locals (by decide)] at isNext
          have move : RecvMove P peer task locals (.acquire task)
              (RecvStep.raised ⟨.osError, "Stream is closed"⟩).fate :=
            .raised _ (.closedWrite isClosed)
          exact move.settle _ (by exact sameOutcomes) isNext

theorem moves_acked {P : Primitives} {peer next : UdpPeer} {task : Nat} {locals : RecvLocals}
    {now : Rat} {arq : Arq} (unreliable : peer.session.reliable = false)
    (inFlight : peer.arq = some arq) (isTask : arq.task = task)
    (writing : peer.session.tasks task = some (.writing (.pong locals)))
    (stepped : peer.step P (.acked now) = some next) :
    Moves P peer next task locals (.acked now) := by
  subst isTask
  have isCounted : counts P peer (.acked now) = some (arq.task, now) := by
    simp [counts, inFlight, writing]
  simp only [step, inFlight] at stepped
  split at stepped <;> try cases stepped
  rcases Option.map_eq_some_iff.mp stepped with ⟨result, onSession, rfl⟩
  have done := performed ({ peer with arq := none } : UdpPeer) result
  simp only [Session.step, writing, Session.wroteFrame, Session.resumeRecv_eq, unreliable]
    at onSession
  rcases pongSent_cases locals now with ⟨after, counted, sent⟩ | ⟨tooMany, sent⟩
  · rw [sent] at onSession
    cases onSession
    have isNext := done.of_silent rfl
    have move : RecvMove P peer arq.task locals (.acked now) (RecvStep.next after).fate :=
      .counted now after isCounted counted
    exact move.settle _ (by rfl) isNext
  · rw [sent] at onSession
    cases onSession
    have isNext := done.of_silent rfl
    have move : RecvMove P peer arq.task locals (.acked now)
        (RecvStep.raised tooManyControls).fate :=
      .crowded now isCounted tooMany
    exact move.settle _ (by rfl) isNext

theorem moves_timeout {P : Primitives} {peer next : UdpPeer} {task : Nat} {locals : RecvLocals}
    {now : Rat} {arq : Arq} (unreliable : peer.session.reliable = false)
    (inFlight : peer.arq = some arq) (isTask : arq.task = task)
    (writing : peer.session.tasks task = some (.writing (.pong locals)))
    (stepped : peer.step P (.timeout now) = some next) :
    Moves P peer next task locals (.timeout now) := by
  subst isTask
  simp only [step, inFlight] at stepped
  split at stepped
  · cases stepped
    exact ⟨.suspended (.writing (.pong locals)), .kept _ locals rfl rfl rfl rfl, writing,
      fun _ old => .inl old⟩
  rename_i lastAttempt
  rcases Option.map_eq_some_iff.mp stepped with ⟨result, onSession, rfl⟩
  have done := performed ({ peer with arq := none } : UdpPeer) result
  simp only [Session.step, writing, Session.raiseLocked_eq, Locked.raisedFate, unreliable]
    at onSession
  rw [onViolation_of_not_violation locals (by decide)] at onSession
  cases onSession
  have isNext := done.of_silent rfl
  have move : RecvMove P peer arq.task locals (.timeout now)
      (RecvStep.raised ⟨.osError, "UDP transmission failed"⟩).fate :=
    .raised _ (.pongFailed now arq locals inFlight rfl (Nat.not_lt.mp lastAttempt) writing)
  exact move.settle _ (by rfl) isNext

theorem moves_resume {P : Primitives} {peer next : UdpPeer} {task : Nat} {locals : RecvLocals}
    {pending : Option Bytes} {now : Rat} (unreliable : peer.session.reliable = false)
    (reading : peer.session.tasks task = some (.reading locals pending))
    (stepped : peer.step P (.resume task now) = some next) :
    Moves P peer next task locals (.resume task now) := by
  have isKept : ∀ header, (∀ result rest,
        readFrame true pending peer.stream.readBuffer ≠ (.finished result, rest)) →
      RecvMove P peer task locals (.resume task now) (.suspended (.reading locals header)) := by
    intro header waits
    refine .kept _ locals rfl rfl rfl ?_
    simp only [counts, reading]
    split
    · rename_i result finished
      exact (waits result _ (Prod.ext finished rfl)).elim
    · rfl
  simp only [step, resumeRead, reading] at stepped
  split at stepped
  · rename_i result rest read
    rcases Option.map_eq_some_iff.mp stepped with ⟨performedStep, onSession, rfl⟩
    have done := performed
      ({ peer with stream := { peer.stream with readBuffer := rest } } : UdpPeer) performedStep
    simp only [Session.step, reading, Session.readFrame, Session.resumeRecv_eq, unreliable]
      at onSession
    cases onSession
    have isNext := done.of_silent rfl
    exact (recvMove_turn now unreliable reading read).settle _ (by rfl) isNext
  rename_i header rest read
  have waits : ∀ result rest,
      readFrame true pending peer.stream.readBuffer ≠ (.finished result, rest) := by
    intro result rest finished
    rw [read] at finished
    cases finished
  split at stepped
  · rename_i isClosed
    rcases Option.map_eq_some_iff.mp stepped with ⟨performedStep, onSession, rfl⟩
    have done := performed peer performedStep
    simp only [Session.step, reading, Session.readFrame, Session.resumeRecv_eq, unreliable,
      recvTurn, openFrame] at onSession
    cases onSession
    have isNext := done.of_silent rfl
    have move : RecvMove P peer task locals (.resume task now)
        (RecvStep.raised ⟨.incompleteReadError, "stream closed"⟩).fate :=
      .raised _ (.closed now isClosed)
    exact move.settle _ (by rfl) isNext
  split at stepped
  · cases stepped
    exact ⟨.suspended (.reading locals pending), isKept pending waits, reading,
      fun _ old => .inl old⟩
  · rename_i taken
    rcases Option.map_eq_some_iff.mp stepped with ⟨performedStep, onSession, rfl⟩
    have done := performed
      ({ peer with stream := { peer.stream with readBuffer := rest } } : UdpPeer) performedStep
    simp only [Session.step, reading] at onSession
    split at onSession <;> cases onSession
    rename_i same
    cases same
    have isNext := done.of_silent rfl
    exact (isKept (some taken) waits).settle peer.session rfl isNext

/-- What a step makes of the `recv` that it resumes. -/
theorem moves_of_step {P : Primitives} {peer next : UdpPeer} {action : UdpAction} {task : Nat}
    {at_ : Task} {locals : RecvLocals} (unreliable : peer.session.reliable = false)
    (calls : peer.session.CallInv) (isAt : peer.session.tasks task = some at_)
    (isLocals : at_.locals? = some locals) (resumed : peer.resumed action = some task)
    (stepped : peer.step P action = some next) : Moves P peer next task locals action := by
  have known := calls.known task at_ isAt
  cases action with
  | call other op now =>
      cases resumed
      rcases Option.map_eq_some_iff.mp stepped with ⟨result, onSession, rfl⟩
      have called : task ∈ peer.session.calls.map Prod.fst := List.mem_map_of_mem known
      simp only [Session.step, if_pos called] at onSession
      cases onSession
  | acquire other =>
      cases resumed
      rcases Option.map_eq_some_iff.mp stepped with ⟨result, onSession, isNext⟩
      simp only [Session.step, isAt] at onSession
      split at onSession <;> cases onSession
      rename_i locked free isLocked
      cases isLocked
      cases locked with
      | pong before =>
          cases isLocals
          exact moves_acquire unreliable isAt stepped
      | send data offset | ping | rekey salt | bye => cases isLocals
  | acked now =>
      rcases Option.map_eq_some_iff.mp resumed with ⟨arq, inFlight, isTask⟩
      have writes : ∃ locked, at_ = .writing locked := by
        simp only [step, inFlight] at stepped
        split at stepped <;> try cases stepped
        rcases Option.map_eq_some_iff.mp stepped with ⟨result, onSession, isNext⟩
        simp only [Session.step, isTask, isAt] at onSession
        split at onSession <;> cases onSession
        rename_i locked isLocked
        cases isLocked
        exact ⟨locked, rfl⟩
      rcases writes with ⟨locked, rfl⟩
      cases locked with
      | pong before =>
          cases isLocals
          exact moves_acked unreliable inFlight isTask isAt stepped
      | send data offset | ping | rekey salt | bye => cases isLocals
  | timeout now =>
      rcases Option.map_eq_some_iff.mp resumed with ⟨arq, inFlight, isTask⟩
      by_cases again : arq.attempt + 1 < maxAttempts
      · simp only [step, inFlight, again, if_true] at stepped
        cases stepped
        exact ⟨.suspended at_, .kept at_ locals isLocals rfl rfl rfl, isAt, fun _ old => .inl old⟩
      have writes : ∃ locked, at_ = .writing locked := by
        simp only [step, inFlight, again, if_false] at stepped
        rcases Option.map_eq_some_iff.mp stepped with ⟨result, onSession, isNext⟩
        simp only [Session.step, isTask, isAt] at onSession
        split at onSession <;> cases onSession
        rename_i locked isLocked
        cases isLocked
        exact ⟨locked, rfl⟩
      rcases writes with ⟨locked, rfl⟩
      cases locked with
      | pong before =>
          cases isLocals
          exact moves_timeout unreliable inFlight isTask isAt stepped
      | send data offset | ping | rekey salt | bye => cases isLocals
  | resume other now =>
      cases resumed
      have reads : ∃ before pending, at_ = .reading before pending := by
        simp only [step, resumeRead, isAt] at stepped
        split at stepped
        · rename_i before pending isReading
          cases isReading
          exact ⟨before, pending, rfl⟩
        · cases stepped
      rcases reads with ⟨before, pending, rfl⟩
      cases isLocals
      exact moves_resume unreliable isAt stepped
  | cancel other =>
      cases resumed
      rcases Option.map_eq_some_iff.mp stepped with ⟨result, onSession, rfl⟩
      have done := performed
        ({ peer with arq := if peer.session.lock = some task then none else peer.arq } : UdpPeer)
        result
      rcases Session.progress_of_step onSession with ⟨base, fate, progress, isResult⟩
      rcases result with ⟨after, effects⟩
      have move : RecvMove P peer task locals (.cancel task) (.ended .cancelled) :=
        .finished .cancelled (by simp)
      cases progress with
      | encrypted task action locked admitted ready unspent => cases ready
      | refused task action locked admitted ready spent notBye exn => cases ready
      | abandoned task at' isAt' unlocked =>
          exact move.settle peer.session rfl ((done.of_silent rfl).trans isResult)
      | interrupted task locked writing =>
          exact move.settle _ (by rfl) ((done.of_silent rfl).trans isResult)
  | feed data => cases resumed

/-! ## Dropped violations -/

/-- The `recv` goes on reading and holds no part of a message. -/
def Cleared (session : Session) (task : Nat) : Prop :=
  ∃ locals, session.tasks task = some (.reading locals none) ∧ locals.assembledPayload = [] ∧
    locals.frameCount = 0 ∧ locals.expectedFragSeq = 0

theorem cleared_settle (base : Session) (task : Nat) (locals : RecvLocals) :
    Cleared (base.settle task (RecvStep.next locals.dropPartial).fate) task :=
  ⟨locals.dropPartial, by simp [RecvStep.fate, Fate.await], rfl, rfl, rfl⟩

/-- After a dropped violation nothing is left of the partial message. -/
theorem cleared_of_violates {P : Primitives} {peer next : UdpPeer} {task : Nat}
    {action : UdpAction} {exn : Exn} (unreliable : peer.session.reliable = false)
    (violates : Violates P peer task action exn) (stepped : peer.step P action = some next) :
    Cleared next.session task := by
  cases violates with
  | frame now locals frame plaintext marked calls exn opens accepted refused violation =>
      rcases opens.read with ⟨pending, rest, reading, read⟩
      have opened := opens.opened
      rw [unreliable] at opened accepted
      have turn : (recvTurn P false peer.session.info locals now (.ok frame)).step =
          .next locals.dropPartial := by
        simp only [recvTurn, opened, accepted, refused]
        exact onViolation_of_violation locals violation
      simp only [step, resumeRead, reading, read] at stepped
      rcases Option.map_eq_some_iff.mp stepped with ⟨result, onSession, rfl⟩
      have done := performed
        ({ peer with stream := { peer.stream with readBuffer := rest } } : UdpPeer) result
      simp only [Session.step, reading, Session.readFrame, Session.resumeRecv_eq, unreliable,
        turn] at onSession
      cases onSession
      rw [done.of_silent rfl]
      exact cleared_settle _ task locals
  | spentPong locals waiting spent =>
      rcases Option.map_eq_some_iff.mp stepped with ⟨result, onSession, rfl⟩
      have done := performed peer result
      rcases acquire_pong unreliable waiting onSession with
        ⟨_, base, _, rfl⟩ | ⟨unspent, _⟩
      · rw [done.of_silent rfl]
        exact cleared_settle base task locals
      · exact absurd unspent (Nat.not_lt.mpr spent)
  | oversizedPong locals exn waiting unspent failed =>
      rcases Option.map_eq_some_iff.mp stepped with ⟨result, onSession, rfl⟩
      have violation := encodeFrame_error failed (Nat.le_of_lt unspent)
      rcases acquire_pong unreliable waiting onSession with
        ⟨spent, _⟩ | ⟨_, base, _, rfl⟩
      · exact absurd unspent (Nat.not_lt.mpr spent)
      have stillUnreliable : base.reliable = false := by
        have same := Session.step_reliable onSession
        rw [(Session.settle_frame _ _ _).1] at same
        exact same.trans unreliable
      have writing : (base.settle task (.suspended (.writing (.pong locals)))).tasks task =
          some (.writing (.pong locals)) := by
        simp [Fate.await]
      have unsent : encodeFrame (encryptedFrame P peer.session.info task (.pong locals)).type
          (encryptedFrame P peer.session.info task (.pong locals)).payload
          (encryptedFrame P peer.session.info task (.pong locals)).seq = .error exn := failed
      have isTask : (encryptedFrame P peer.session.info task (.pong locals)).task = task := rfl
      simp only [perform, startWrite, unsent, failWrite, isTask, (applyStep_frame _ _).1, writing,
        Session.raiseLocked_eq, Locked.raisedFate, (Session.settle_frame _ _ _).1, stillUnreliable]
      rw [onViolation_of_violation locals violation]
      exact cleared_settle _ task locals

end UdpPeer

end Usmp
