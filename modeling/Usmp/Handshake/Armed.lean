import Usmp.Handshake.ClientOrder
import Usmp.Handshake.ServerOrder

/-!
# Writes in progress have their ARQ

A coroutine of a handshake that waits for a write has the ARQ that sends its frame again, and
only the answer to a datagram is a UTACK.
-/

namespace Usmp

def ClientHandshake.writing (run : ClientHandshake) : Bool :=
  match run.stage with
  | .writingHello | .writingRetry | .writingHelloAck _ => true
  | .readingChallenge | .readingChallengeAgain | .readingSessionOk _ | .returned _ | .raised _ =>
      false

def ServerHandshake.writing (run : ServerHandshake) : Bool :=
  match run.stage with
  | .writingChallenge _ | .writingSessionOk _ => true
  | .created | .readingHello | .resolving _ _ | .readingHelloAck _ _ | .returned _
  | .raised _ => false

/-- A write in progress has its ARQ, and the ARQ has a frame to send. -/
structure Armed {Run : Type} (writing : Run → Bool) (side : HandshakeEnd Run) : Prop where
  arq : writing side.run = true → side.arq.isSome = true
  frame : ∀ resend, side.arq = some resend → IsFrame resend.data

/-- What an end sends of its own accord is no UTACK. -/
def NoUtack (out : List Bytes) : Prop := ∀ data ∈ out, UDPStream.isUtack data = false

theorem NoUtack.nil : NoUtack [] := fun _ member => nomatch member

section

variable {Run : Type} {C : Coroutine Run} {writing : Run → Bool} {self : HandshakeEnd Run}

/-- A read goes on with what the coroutine makes of its result, or it waits. -/
theorem resume_steps {result : HandshakeEnd Run × List Bytes}
    (stepped : self.resume C = some result) :
    C.reading self.run = true ∧
      ((∃ (base : HandshakeEnd Run) (outcome : Except Exn USMPFrame)
          (taken : Run × List HandshakeCall),
        base.arq = self.arq ∧ C.read self.run outcome = some taken ∧
          result = base.goOn C taken) ∨
      ∃ readBuffer pending, result =
        ({ self with stream := { self.stream with readBuffer }, pending }, [])) := by
  unfold HandshakeEnd.resume at stepped
  split at stepped
  · rename_i reading
    refine ⟨reading, ?_⟩
    split at stepped
    · rcases Option.map_eq_some_iff.mp stepped with ⟨taken, read, rfl⟩
      refine .inl ⟨_, _, taken, ?_, read, rfl⟩
      rfl
    · split at stepped
      · rcases Option.map_eq_some_iff.mp stepped with ⟨taken, read, rfl⟩
        exact .inl ⟨_, _, taken, rfl, read, rfl⟩
      · cases stepped
        exact .inr ⟨_, _, rfl⟩
  · cases stepped

/-- A coroutine that goes on has its ARQ if it asks for a write when it goes on to one. -/
theorem Armed.goOn {taken : Run × List HandshakeCall}
    (frame : ∀ resend, self.arq = some resend → IsFrame resend.data)
    (fails : ∀ run exn, writing ((C.wrote run (some exn)).getD run) = false)
    (asks : writing taken.1 = true → ∃ type payload seq, .writeFrame type payload seq ∈ taken.2) :
    Armed writing (self.goOn C taken).1 ∧ NoUtack (self.goOn C taken).2 := by
  have performed := HandshakeEnd.goOn_cases C self taken
  generalize self.goOn C taken = result at performed
  cases performed with
  | quiet stream same noWrite =>
      refine ⟨⟨?_, frame⟩, .nil⟩
      intro isWriting
      rcases asks isWriting with ⟨type, payload, seq, write⟩
      exact absurd write (noWrite type payload seq)
  | failed stream same exn notHandshake write =>
      refine ⟨⟨?_, frame⟩, .nil⟩
      intro isWriting
      rw [fails] at isWriting
      cases isWriting
  | sent stream same write seqBound fits last unacked =>
      rename_i type payload seq
      have isFrame := (isFrame_frameBytes type seqBound fits).1
      refine ⟨⟨fun _ => rfl, ?_⟩, ?_⟩
      · intro resend isArq
        cases isArq
        exact isFrame
      · intro data member
        rw [List.mem_singleton.mp member]
        exact isFrame.notUtack

theorem Armed.resume {result : HandshakeEnd Run × List Bytes} (armed : Armed writing self)
    (fails : ∀ run exn, writing ((C.wrote run (some exn)).getD run) = false)
    (asks : ∀ outcome taken, C.read self.run outcome = some taken → writing taken.1 = true →
      ∃ type payload seq, .writeFrame type payload seq ∈ taken.2)
    (stepped : self.resume C = some result) : Armed writing result.1 ∧ NoUtack result.2 := by
  rcases (resume_steps stepped).2 with
    ⟨base, outcome, taken, sameArq, read, rfl⟩ | ⟨readBuffer, pending, rfl⟩
  · exact Armed.goOn (sameArq ▸ armed.frame) fails (asks outcome taken read)
  · exact ⟨⟨armed.arq, armed.frame⟩, .nil⟩

theorem Armed.acked {after : HandshakeEnd Run}
    (returns : ∀ run next, C.wrote run none = some next → writing next = false)
    (stepped : self.acked C = some after) : Armed writing after := by
  rcases HandshakeNet.acked_cases stepped with ⟨run, wrote, _, _, rfl⟩
  refine ⟨?_, nofun⟩
  intro isWriting
  rw [returns _ _ wrote] at isWriting
  cases isWriting

theorem Armed.timeout {result : HandshakeEnd Run × List Bytes} (armed : Armed writing self)
    (fails : ∀ run exn, writing ((C.wrote run (some exn)).getD run) = false)
    (stepped : self.timeout C = some result) :
    Armed writing result.1 ∧ NoUtack result.2 := by
  rcases HandshakeNet.timeout_cases stepped with ⟨resend, isArq, rfl⟩ | ⟨run, wrote, rfl⟩
  · have isFrame := armed.frame resend isArq
    refine ⟨⟨fun _ => rfl, ?_⟩, ?_⟩
    · intro found isFound
      cases isFound
      exact isFrame
    · intro data member
      rw [List.mem_singleton.mp member]
      exact isFrame.notUtack
  · refine ⟨⟨?_, nofun⟩, .nil⟩
    intro isWriting
    have stops := fails self.run ⟨.osError, "UDP transmission failed"⟩
    rw [wrote, Option.getD_some, isWriting] at stops
    cases stops

/-- What a coroutine asks of its transport brings it no UTACK. -/
theorem ackReceived_perform (self : HandshakeEnd Run) (calls : List HandshakeCall)
    (received : (self.perform C calls).1.stream.ackReceived = true) :
    self.stream.ackReceived = true := by
  induction calls generalizing self with
  | nil => exact received
  | cons call rest ih =>
      cases call with
      | setSessionKeys txKey rxKey =>
          exact ih { self with stream := self.stream.setSessionKeys txKey rxKey } received
      | writeFrame type payload seq =>
          rw [HandshakeEnd.perform, HandshakeEnd.startWrite] at received
          split at received
          · exact received
          split at received
          · exact received
          · cases received

end

/-! ## The client -/

section

variable {P : Primitives} {X : KeyExchange}

theorem client_fails (run : ClientHandshake) (exn : Exn) :
    ((run.wrote (some exn)).getD run).writing = false := by
  unfold ClientHandshake.wrote
  cases isStage : run.stage <;>
    simp [ClientHandshake.writing, ClientHandshake.goto, isStage]

theorem client_returns (run next : ClientHandshake) (wrote : run.wrote none = some next) :
    next.writing = false := by
  unfold ClientHandshake.wrote at wrote
  cases isStage : run.stage <;> rw [isStage] at wrote <;> cases wrote <;> rfl

/-- A read of the client ends the handshake or goes on to a write. -/
theorem client_read_next {run : ClientHandshake} {outcome : Except Exn USMPFrame}
    {taken : ClientHandshake × List HandshakeCall} (read : run.read P X outcome = some taken) :
    taken.1.hasEnded = true ∧ taken.1.writing = false ∨ taken.1.writing = true ∧
      ∃ type payload seq, taken.2 = [.writeFrame type payload seq] := by
  have challenge : ∀ frame, (run.onChallenge P X frame).1.hasEnded = true ∧
      (run.onChallenge P X frame).1.writing = false ∨
      (run.onChallenge P X frame).1.writing = true ∧
        ∃ type payload seq, (run.onChallenge P X frame).2 = [.writeFrame type payload seq] := by
    intro frame
    unfold ClientHandshake.onChallenge
    split
    · exact .inl ⟨rfl, rfl⟩
    split
    · exact .inl ⟨rfl, rfl⟩
    dsimp only
    split
    · exact .inl ⟨rfl, rfl⟩
    · exact .inr ⟨rfl, _, _, _, rfl⟩
  have first : ∀ frame, (run.onFirst P X frame).1.hasEnded = true ∧
      (run.onFirst P X frame).1.writing = false ∨
      (run.onFirst P X frame).1.writing = true ∧
        ∃ type payload seq, (run.onFirst P X frame).2 = [.writeFrame type payload seq] := by
    intro frame
    unfold ClientHandshake.onFirst
    split
    · split
      · exact .inl ⟨rfl, rfl⟩
      · exact .inr ⟨rfl, _, _, _, rfl⟩
    · exact challenge frame
  have sessionOk : ∀ locals frame, (run.onSessionOk P X locals frame).1.hasEnded = true ∧
      (run.onSessionOk P X locals frame).1.writing = false := by
    intro locals frame
    unfold ClientHandshake.onSessionOk
    dsimp only
    repeat' split
    all_goals exact ⟨rfl, rfl⟩
  unfold ClientHandshake.read at read
  cases isStage : run.stage with
  | writingHello | writingRetry | writingHelloAck locals | returned info | raised exn =>
      rw [isStage] at read
      cases read
  | readingChallenge =>
      rw [isStage] at read
      cases outcome with
      | ok frame =>
          cases read
          exact first frame
      | error exn =>
          cases read
          exact .inl ⟨rfl, rfl⟩
  | readingChallengeAgain =>
      rw [isStage] at read
      cases outcome with
      | ok frame =>
          cases read
          exact challenge frame
      | error exn =>
          cases read
          exact .inl ⟨rfl, rfl⟩
  | readingSessionOk locals =>
      rw [isStage] at read
      cases outcome with
      | ok frame =>
          cases read
          exact .inl (sessionOk locals frame)
      | error exn =>
          cases read
          exact .inl ⟨rfl, rfl⟩

theorem client_asks {run : ClientHandshake} (outcome : Except Exn USMPFrame)
    (taken : ClientHandshake × List HandshakeCall) (read : run.read P X outcome = some taken)
    (isWriting : taken.1.writing = true) :
    ∃ type payload seq, .writeFrame type payload seq ∈ taken.2 := by
  rcases client_read_next read with ⟨_, notWriting⟩ | ⟨_, type, payload, seq, asks⟩
  · rw [notWriting] at isWriting
    cases isWriting
  · exact ⟨type, payload, seq, by rw [asks]; exact List.mem_singleton.mpr rfl⟩

theorem ClientMove.armed {self after : HandshakeEnd ClientHandshake} {out : List Bytes}
    (armed : Armed ClientHandshake.writing self) (move : ClientMove P X self after out) :
    Armed ClientHandshake.writing after := by
  cases move with
  | resumed stepped => exact (armed.resume client_fails client_asks stepped).1
  | acked stepped => exact .acked client_returns stepped
  | timeout stepped => exact (armed.timeout client_fails stepped).1
  | aborted stepped =>
      unfold HandshakeNet.abortClient at stepped
      split at stepped <;> cases stepped <;> exact ⟨nofun, nofun⟩
  | closed => exact ⟨armed.arq, armed.frame⟩
  | served info returned stream sent =>
      refine ⟨?_, nofun⟩
      intro isWriting
      simp [HandshakeEnd.serve, ClientHandshake.writing, returned] at isWriting

/-- After a read the handshake has ended, or it waits for the UTACK of a new frame. -/
theorem ended_or_unacked {run : ClientHandshake} {outcome : Except Exn USMPFrame}
    {taken : ClientHandshake × List HandshakeCall} (base : HandshakeEnd ClientHandshake)
    (read : run.read P X outcome = some taken)
    (goesOn : (base.goOn (clientCoroutine P X) taken).1.run.hasEnded = false) :
    ¬ (base.goOn (clientCoroutine P X) taken).1.stream.ackReceived = true := by
  have performed := HandshakeEnd.goOn_cases (clientCoroutine P X) base taken
  generalize base.goOn (clientCoroutine P X) taken = result at performed goesOn ⊢
  cases performed with
  | sent stream same write seqBound fits last unacked => exact Bool.eq_false_iff.mp unacked
  | quiet stream same noWrite =>
      rcases client_read_next read with ⟨hasEnded, _⟩ | ⟨_, type, payload, seq, asks⟩
      · exact absurd hasEnded (Bool.eq_false_iff.mp goesOn)
      · exact absurd (asks ▸ List.mem_singleton.mpr rfl) (noWrite type payload seq)
  | failed stream same exn notHandshake write =>
      have ends : ((taken.1.wrote (some exn)).getD taken.1).hasEnded = true := by
        rcases client_read_next read with ⟨hasEnded, _⟩ | ⟨isWriting, _⟩
        · revert hasEnded
          unfold ClientHandshake.wrote ClientHandshake.hasEnded
          cases isStage : taken.1.stage <;> simp [isStage]
        · revert isWriting
          unfold ClientHandshake.wrote ClientHandshake.hasEnded ClientHandshake.writing
          cases isStage : taken.1.stage <;> simp [ClientHandshake.goto]
      exact absurd ends (Bool.eq_false_iff.mp goesOn)

/-- A step of the client brings it no UTACK. -/
theorem ClientMove.ackReceived {self after : HandshakeEnd ClientHandshake} {out : List Bytes}
    (move : ClientMove P X self after out) (goesOn : after.run.hasEnded = false)
    (received : after.stream.ackReceived = true) {type seq : Nat}
    (last : after.stream.LastWrite type seq) :
    self.stream.ackReceived = true ∧ self.stream.LastWrite type seq := by
  cases move with
  | resumed stepped =>
      rcases (resume_steps stepped).2 with
        ⟨base, outcome, taken, sameArq, read, rfl⟩ | ⟨readBuffer, pending, rfl⟩
      · exact absurd received (ended_or_unacked base read goesOn)
      · exact ⟨received, last⟩
  | acked stepped =>
      rcases HandshakeNet.acked_cases stepped with ⟨run, _, _, _, rfl⟩
      exact ⟨received, last⟩
  | timeout stepped =>
      rcases HandshakeNet.timeout_cases stepped with ⟨resend, _, rfl⟩ | ⟨run, _, rfl⟩ <;>
        exact ⟨received, last⟩
  | aborted stepped =>
      unfold HandshakeNet.abortClient at stepped
      split at stepped <;> cases stepped <;> exact ⟨received, last⟩
  | closed => exact ⟨received, last⟩
  | served info returned stream sent =>
      simp [HandshakeEnd.serve, ClientHandshake.hasEnded, returned] at goesOn

end

/-! ## The server -/

section

variable {P : Primitives} {X : KeyExchange} {setup : HandshakeSetup}

theorem server_fails (run : ServerHandshake) (exn : Exn) :
    ((run.wrote P X (some exn)).getD run).writing = false := by
  unfold ServerHandshake.wrote
  cases isStage : run.stage <;>
    simp [ServerHandshake.writing, ServerHandshake.goto, isStage]

theorem server_returns (run next : ServerHandshake) (wrote : run.wrote P X none = some next) :
    next.writing = false := by
  unfold ServerHandshake.wrote at wrote
  cases isStage : run.stage with
  | writingChallenge hello | writingSessionOk locals =>
      rw [isStage] at wrote
      dsimp only at wrote
      split at wrote <;> cases wrote <;> rfl
  | created | readingHello | resolving deviceId pubC | readingHelloAck hello keys | returned info
  | raised exn =>
      rw [isStage] at wrote
      cases wrote

theorem server_asks {run : ServerHandshake} {entropy : Entropy} (outcome : Except Exn USMPFrame)
    (taken : ServerHandshake × List HandshakeCall)
    (read : run.read P X outcome entropy = some taken) (isWriting : taken.1.writing = true) :
    ∃ type payload seq, .writeFrame type payload seq ∈ taken.2 := by
  cases server_reads read with
  | fails | resolves => cases isWriting
  | challenges frame isHello reading hello payload size =>
      exact ⟨.challenge, payload, 0, List.mem_singleton.mpr rfl⟩
  | accepts frame isHelloAck reading locals txKey rxKey payload size =>
      exact ⟨.sessionOk, payload, 0, List.mem_cons_of_mem _ (List.mem_singleton.mpr rfl)⟩

/-- A PSK that was waited for. -/
theorem resolved_asks {run : ServerHandshake} {entropy : Entropy}
    {outcome : Except Exn (Option Bytes)} {taken : ServerHandshake × List HandshakeCall}
    (resolved : run.resolved X outcome entropy = some taken) (isWriting : taken.1.writing = true) :
    ∃ type payload seq, .writeFrame type payload seq ∈ taken.2 := by
  unfold ServerHandshake.resolved at resolved
  split at resolved <;> cases resolved
  · rename_i deviceId pubC psk isStage
    rcases challenge_cases X run deviceId pubC psk entropy with
      ⟨exn, failed⟩ | ⟨hello, payload, size, sent⟩
    · rw [failed] at isWriting
      cases isWriting
    · rw [sent]
      exact ⟨.challenge, payload, 0, List.mem_singleton.mpr rfl⟩
  · cases isWriting
  · cases isWriting

/-- What is fed to an end leaves its ARQ alone. -/
theorem Armed.fed {Run : Type} {writing : Run → Bool} {self : HandshakeEnd Run}
    (armed : Armed writing self) (data : Bytes) : Armed writing (self.feed P data).1 := by
  rcases HandshakeNet.feed_frame (P := P) self data with ⟨run, _, arq, _⟩
  constructor
  · rw [run, arq]
    exact armed.arq
  · rw [arq]
    exact armed.frame

/-- A step of a server's end keeps its ARQ, and sends no UTACK. -/
theorem InstanceMove.armed {out : List Bytes} {self after : HandshakeEnd ServerHandshake}
    (armed : Armed ServerHandshake.writing self)
    (move : InstanceMove P X setup self after out) :
    Armed ServerHandshake.writing after ∧ NoUtack out := by
  cases move with
  | started lockedOut created =>
      refine ⟨⟨?_, armed.frame⟩, .nil⟩
      intro isWriting
      cases lockedOut <;> cases isWriting
  | resumed entropy stepped => exact armed.resume server_fails server_asks stepped
  | resolved outcome entropy stepped =>
      exact Armed.goOn (C := serverCoroutine P X entropy) armed.frame server_fails
        (resolved_asks stepped)
  | acked stepped => exact ⟨.acked server_returns stepped, .nil⟩
  | timeout stepped => exact armed.timeout server_fails stepped
  | aborted =>
      refine ⟨?_, .nil⟩
      unfold HandshakeNet.abortServer
      split
      · exact armed
      · exact armed
      all_goals exact ⟨nofun, nofun⟩
  | served info returned stream sent served session =>
      refine ⟨⟨?_, nofun⟩, ?_⟩
      · intro isWriting
        simp [HandshakeEnd.serve, ServerHandshake.writing, returned] at isWriting
      · intro data member
        exact (isSessionDatagram_iff (List.all_eq_true.mp session data member)).1
  | closed => exact ⟨⟨armed.arq, armed.frame⟩, .nil⟩

end

end Usmp
