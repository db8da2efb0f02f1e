import Usmp.Lib.Machine
import Usmp.Sample
import Usmp.Tcp.Link
import Usmp.Udp.Noise

/-!
# Acknowledged frames

Two streams, each with the `write_frame` that it waits in, and a network that delivers any
datagrams.  A UTACK names a type and a sequence.  The receiver sends one for every datagram
that looks like a frame, so the sender learns that some datagram with these arrived.  If nobody
injects such a datagram it was the frame itself, and a frame that is waited for is never too old.
-/

namespace Usmp

open LittleEndian UDPStream

/-- A stream, the `write_frame` in progress, and what became of the datagrams. -/
structure StreamEnd where
  stream : UDPStream
  /-- The frame that waits for its UTACK, and the attempt. -/
  inFlight : Option (Bytes × Nat) := none
  /-- Everything passed to `sendto`. -/
  outbox : List Bytes := []
  /-- Everything passed to `write`. -/
  written : List Bytes := []
  /-- The frames whose `write_frame` returned. -/
  returned : List Bytes := []
  /-- Everything passed to `feed_packet`. -/
  fed : List Bytes := []
  answered : List Bytes := []
  buffered : List Bytes := []

inductive StreamAction where
  | writeFrame (type : PacketType) (payload : Bytes) (seq : Nat)
  /-- The wait for the UTACK returns. -/
  | acked
  /-- The wait for the UTACK times out. -/
  | timeout
  | cancel
  | feedPacket (data : Bytes)
  /-- `readexactly(count)` returns. -/
  | read (count : Nat)
  | confirmAuthenticated (seq : Nat)
  | close
  deriving DecidableEq, Repr

namespace StreamEnd

/-- `write_frame` up to its first wait.  It may raise before that. -/
def writeFrame (self : StreamEnd) (type : PacketType) (payload : Bytes) (seq : Nat) : StreamEnd :=
  match encodeFrame type payload seq with
  | .error _ => self
  | .ok data =>
      match self.stream.write data with
      | .error _ => self
      | .ok stream =>
          { self with
            stream := stream.startDrain
            inFlight := some (data, 0)
            outbox := self.outbox ++ [data]
            written := self.written ++ [data] }

def feed (P : Primitives) (self : StreamEnd) (data : Bytes) : StreamEnd :=
  let (stream, replies) := self.stream.feedPacket P data
  { self with
    stream
    outbox := self.outbox ++ replies
    fed := self.fed ++ [data]
    answered := if replies = [] then self.answered else self.answered ++ [data]
    buffered :=
      if stream.readBuffer.length > self.stream.readBuffer.length then self.buffered ++ [data]
      else self.buffered }

def step (P : Primitives) (self : StreamEnd) : StreamAction → Option StreamEnd
  | .writeFrame type payload seq =>
      -- the callers of `write_frame` hold the send lock
      if self.inFlight.isSome then none else some (self.writeFrame type payload seq)
  | .acked =>
      match self.inFlight with
      | none => none
      | some (data, _) =>
          if self.stream.ackReceived then
            some { self with inFlight := none, returned := self.returned ++ [data] }
          else
            none
  | .timeout =>
      match self.inFlight with
      | none => none
      | some (data, attempt) =>
          if attempt + 1 < maxAttempts then
            some { self with
              inFlight := some (data, attempt + 1)
              outbox := self.outbox ++ [data] }
          else
            some { self with inFlight := none }
  | .cancel => if self.inFlight.isSome then some { self with inFlight := none } else none
  | .feedPacket data => some (self.feed P data)
  | .read count =>
      if self.stream.readBuffer.length < count then
        none
      else
        some { self with
          stream := { self.stream with readBuffer := self.stream.readBuffer.drop count } }
  | .confirmAuthenticated seq =>
      some { self with stream := self.stream.confirmAuthenticated seq }
  | .close => some { self with stream := self.stream.close }

/-- Other bytes that pass for a session-phase frame with the type and the sequence of this one. -/
def LooksLike (data frame : Bytes) : Prop :=
  isFrame data = true ∧ 5 ≤ typeOf frame ∧ typeOf data = typeOf frame ∧
    seqOf data = seqOf frame ∧ data ≠ frame

/-- The MAC of a UTACK is not forged: the other end sent the UTACK. -/
def Unforged (P : Primitives) (self other : StreamEnd) : StreamAction → Prop
  | .feedPacket data =>
      isUtack data = true → fieldAt data 2 1 ≥ 5 → self.stream.utackAuthentic P data = true →
        ∃ utack ∈ other.outbox,
          utack.take (utackHeaderLen + utackMacLen) = data.take (utackHeaderLen + utackMacLen)
  | _ => True

/-- What the sessions do.  Their sequences increase, and a sequence is confirmed when a frame of
the other end with it was authentic. -/
def Orderly (self other : StreamEnd) : StreamAction → Prop
  | .writeFrame type _ seq =>
      -- the listener sends a HELLO_RETRY by itself
      type ≠ .helloRetry ∧ (5 ≤ type.toNat →
        ∀ frame ∈ self.written, 5 ≤ typeOf frame → seqOf frame < seq)
  | .confirmAuthenticated seq => ∃ frame ∈ other.written, 5 ≤ typeOf frame ∧ seqOf frame = seq
  | _ => True

/-- Nobody injects a look-alike of a frame while its `write_frame` waits, nor has before.  The
action is one of the other end. -/
def Undeceived (far : StreamEnd) : StreamAction → Prop
  | .feedPacket data => ∀ pending ∈ far.inFlight, ¬ LooksLike data pending.1
  | .writeFrame type payload seq =>
      -- the answer to an earlier datagram may still arrive
      ∀ data ∈ far.fed, ¬ LooksLike data (frameBytes type payload seq)
  | _ => True

instance (data frame : Bytes) : Decidable (LooksLike data frame) :=
  inferInstanceAs (Decidable (_ ∧ _))

instance (P : Primitives) (self other : StreamEnd) :
    (action : StreamAction) → Decidable (self.Unforged P other action)
  | .feedPacket data =>
      inferInstanceAs (Decidable (isUtack data = true → fieldAt data 2 1 ≥ 5 →
        self.stream.utackAuthentic P data = true → ∃ utack ∈ other.outbox,
          utack.take (utackHeaderLen + utackMacLen) = data.take (utackHeaderLen + utackMacLen)))
  | .writeFrame _ _ _ | .acked | .timeout | .cancel | .read _ | .confirmAuthenticated _ | .close =>
      inferInstanceAs (Decidable True)

instance (self other : StreamEnd) : (action : StreamAction) → Decidable (self.Orderly other action)
  | .writeFrame type _ seq =>
      inferInstanceAs (Decidable (type ≠ .helloRetry ∧ (5 ≤ type.toNat →
        ∀ frame ∈ self.written, 5 ≤ typeOf frame → seqOf frame < seq)))
  | .confirmAuthenticated seq =>
      inferInstanceAs (Decidable (∃ frame ∈ other.written, 5 ≤ typeOf frame ∧ seqOf frame = seq))
  | .acked | .timeout | .cancel | .feedPacket _ | .read _ | .close =>
      inferInstanceAs (Decidable True)

instance (far : StreamEnd) : (action : StreamAction) → Decidable (far.Undeceived action)
  | .feedPacket data =>
      inferInstanceAs (Decidable (∀ pending ∈ far.inFlight, ¬ LooksLike data pending.1))
  | .writeFrame type payload seq =>
      inferInstanceAs (Decidable (∀ data ∈ far.fed,
        ¬ LooksLike data (frameBytes type payload seq)))
  | .acked | .timeout | .cancel | .read _ | .confirmAuthenticated _ | .close =>
      inferInstanceAs (Decidable True)

end StreamEnd

structure StreamLink where
  client : StreamEnd
  server : StreamEnd

namespace StreamLink

def streamEnd (link : StreamLink) : Side → StreamEnd
  | .client => link.client
  | .server => link.server

def withEnd (link : StreamLink) (side : Side) (self : StreamEnd) : StreamLink :=
  match side with
  | .client => { link with client := self }
  | .server => { link with server := self }

@[simp] theorem streamEnd_withEnd (link : StreamLink) (side : Side) (self : StreamEnd) :
    (link.withEnd side self).streamEnd side = self := by
  cases side <;> rfl

@[simp] theorem streamEnd_withEnd_other (link : StreamLink) (side : Side) (self : StreamEnd) :
    (link.withEnd side self).streamEnd side.other = link.streamEnd side.other := by
  cases side <;> rfl

def step (P : Primitives) (link : StreamLink) (action : Side × StreamAction) :
    Option StreamLink :=
  ((link.streamEnd action.1).step P action.2).map (link.withEnd action.1)

def Unforged (P : Primitives) (link : StreamLink) (action : Side × StreamAction) : Prop :=
  (link.streamEnd action.1).Unforged P (link.streamEnd action.1.other) action.2

def Orderly (link : StreamLink) (action : Side × StreamAction) : Prop :=
  (link.streamEnd action.1).Orderly (link.streamEnd action.1.other) action.2

def Undeceived (link : StreamLink) (action : Side × StreamAction) : Prop :=
  (link.streamEnd action.1.other).Undeceived action.2

end StreamLink

instance (P : Primitives) (link : StreamLink) (action : Side × StreamAction) :
    Decidable (StreamLink.Unforged P link action) :=
  inferInstanceAs (Decidable (StreamEnd.Unforged _ _ _ _))

instance (link : StreamLink) (action : Side × StreamAction) :
    Decidable (StreamLink.Orderly link action) :=
  inferInstanceAs (Decidable (StreamEnd.Orderly _ _ _))

instance (link : StreamLink) (action : Side × StreamAction) :
    Decidable (StreamLink.Undeceived link action) :=
  inferInstanceAs (Decidable (StreamEnd.Undeceived _ _))

/-! ## One direction -/

namespace StreamEnd

/-- What holds between a sender and its receiver. -/
structure Acknowledges (sender receiver : StreamEnd) : Prop where
  sends : ∀ data attempt, receiver.inFlight = some (data, attempt) → IsFrame data
  /-- A UTACK names a datagram that was answered. -/
  utacks : ∀ utack ∈ receiver.outbox, isUtack utack = true →
    ∃ data ∈ receiver.answered,
      fieldAt utack 2 1 = typeOf data ∧ fieldAt utack 3 4 = seqOf data
  answered : ∀ seen ∈ receiver.answered, IsFrame seen ∧ seen ∈ receiver.fed
  /-- What was answered came into the buffer, if it was not too old. -/
  kept : ∀ seen ∈ receiver.answered, isHandshakeType (typeOf seen) = false →
    seen ∈ receiver.buffered ∨ (seqOf seen : Int) ≤ receiver.stream.lastRxSeq - 64
  confirmed : receiver.stream.lastRxSeq = -1 ∨
    ∃ frame ∈ sender.written, 5 ≤ typeOf frame ∧ receiver.stream.lastRxSeq = seqOf frame
  pending : ∀ data attempt, sender.inFlight = some (data, attempt) →
    sender.stream.pendingSendType = some (typeOf data) ∧
      sender.stream.pendingSendSeq = some (seqOf data)
  /-- The frame in flight is the newest. -/
  newest : ∀ data attempt, sender.inFlight = some (data, attempt) → 5 ≤ typeOf data →
    isHandshakeType (typeOf data) = false ∧
      ∀ frame ∈ sender.written, 5 ≤ typeOf frame → seqOf frame ≤ seqOf data
  genuine : ∀ data attempt, sender.inFlight = some (data, attempt) →
    ∀ seen ∈ receiver.fed, ¬ LooksLike seen data
  acked : ∀ data attempt, sender.inFlight = some (data, attempt) →
    sender.stream.ackReceived = true → 5 ≤ typeOf data → data ∈ receiver.buffered
  returned : ∀ data ∈ sender.returned, 5 ≤ typeOf data → data ∈ receiver.buffered

/-- A frame in flight that was answered came into the buffer.  It is not too old, since only
sequences of the sender were confirmed, and it has the highest. -/
theorem Acknowledges.arrived {sender receiver : StreamEnd}
    (acknowledges : Acknowledges sender receiver) {data seen : Bytes} {attempt : Nat}
    (inFlight : sender.inFlight = some (data, attempt)) (session : 5 ≤ typeOf data)
    (isAnswered : seen ∈ receiver.answered) (type : typeOf seen = typeOf data)
    (seq : seqOf seen = seqOf data) : data ∈ receiver.buffered := by
  rcases acknowledges.answered seen isAnswered with ⟨frame, isFed⟩
  have same : seen = data := by
    by_contra other
    exact acknowledges.genuine data attempt inFlight seen isFed
      ⟨(isFrame_iff seen).mpr frame, session, type, seq, other⟩
  subst same
  rcases acknowledges.newest seen attempt inFlight session with ⟨notHandshake, highest⟩
  rcases acknowledges.kept seen isAnswered notHandshake with buffered | tooOld
  · exact buffered
  · exfalso
    rcases acknowledges.confirmed with none | ⟨frame, isWritten, isSession, last⟩
    · omega
    · have bound := highest frame isWritten isSession
      omega

/-- What `write_frame` does to the end before its first wait. -/
theorem writeFrame_cases (self : StreamEnd) (type : PacketType) (payload : Bytes) (seq : Nat) :
    self.writeFrame type payload seq = self ∨
      ∃ data stream, data = frameBytes type payload seq ∧ IsFrame data ∧
        typeOf data = type.toNat ∧ seqOf data = seq ∧
        stream.lastRxSeq = self.stream.lastRxSeq ∧
        stream.pendingSendType = some (typeOf data) ∧
        stream.pendingSendSeq = some (seqOf data) ∧ stream.ackReceived = false ∧
        self.writeFrame type payload seq =
          { self with
            stream
            inFlight := some (data, 0)
            outbox := self.outbox ++ [data]
            written := self.written ++ [data] } := by
  unfold writeFrame
  split
  · exact .inl rfl
  rename_i data encoded
  split
  · exact .inl rfl
  rename_i stream wrote
  rcases frameBytes_of_encodeFrame encoded with ⟨isBytes, inRange, fits⟩
  rcases isFrame_frameBytes type inRange fits with ⟨frame, isType, isSeq, _⟩
  rw [← isBytes] at frame isType isSeq
  have long : data.length ≥ 8 := by
    rw [frame.size]
    simp only [usmpHeaderSize]
    omega
  unfold UDPStream.write at wrote
  split at wrote <;> cases wrote
  refine .inr ⟨data, _, isBytes, frame, isType, isSeq, ?_, ?_, ?_, ?_, rfl⟩ <;> rfl

/-- A UTACK that was sent and one that agrees with it name the same datagram. -/
theorem fields_of_utack {left right : Bytes}
    (same : left.take (utackHeaderLen + utackMacLen) = right.take (utackHeaderLen + utackMacLen))
    (isAck : isUtack right = true) :
    isUtack left = true ∧ fieldAt left 2 1 = fieldAt right 2 1 ∧
      fieldAt left 3 4 = fieldAt right 3 4 := by
  have field : ∀ offset width, offset + width ≤ utackHeaderLen + utackMacLen →
      fieldAt left offset width = fieldAt right offset width := by
    intro offset width inside
    rw [← fieldAt_take inside, same, fieldAt_take inside]
  have start := congrArg (List.take 2) same
  rw [List.take_take, List.take_take] at start
  have size := congrArg List.length same
  rw [List.length_take, List.length_take] at size
  rw [isUtack, Bool.and_eq_true] at isAck ⊢
  have long := of_decide_eq_true isAck.1
  have magic := of_decide_eq_true isAck.2
  simp only [utackHeaderLen, utackMacLen] at long size
  refine ⟨⟨decide_eq_true ?_, decide_eq_true ?_⟩, field 2 1 (by decide), field 3 4 (by decide)⟩
  · simp only [utackHeaderLen]
    omega
  · exact start.trans magic

/-- The parts of the UTACK for a datagram. -/
theorem fields_of_buildUtack (P : Primitives) (stream : UDPStream) (data : Bytes) :
    fieldAt (stream.buildUtack P (typeOf data) (seqOf data)) 2 1 = typeOf data ∧
      fieldAt (stream.buildUtack P (typeOf data) (seqOf data)) 3 4 = seqOf data := by
  have typeBound : typeOf data < 256 := fieldAt_lt data 3 1
  have seqBound : seqOf data ≤ maxSeq := Nat.le_of_lt_succ (fieldAt_lt data 4 4)
  have bare := isUtack_utackHeader (typeOf data) (seqOf data) [] typeBound seqBound
  rw [List.append_nil] at bare
  unfold buildUtack
  dsimp only
  split
  · split
    · exact (isUtack_utackHeader _ _ _ typeBound seqBound).2
    · exact bare.2
  · exact bare.2

/-- What comes into the read buffer is recorded, and so is what is answered. -/
theorem feed_cases (P : Primitives) (receiver : StreamEnd) (data : Bytes) :
    (receiver.feed P data).stream.lastRxSeq = receiver.stream.lastRxSeq ∧
      (((receiver.feed P data).outbox = receiver.outbox ∧
          (receiver.feed P data).answered = receiver.answered ∧
          (receiver.feed P data).buffered = receiver.buffered) ∨
        IsFrame data ∧
          (receiver.feed P data).outbox =
            receiver.outbox ++ [receiver.stream.buildUtack P (typeOf data) (seqOf data)] ∧
          (receiver.feed P data).answered = receiver.answered ++ [data] ∧
          ((receiver.stream.seenBefore data = true ∧
              (receiver.feed P data).buffered = receiver.buffered) ∨
            (receiver.feed P data).buffered = receiver.buffered ++ [data])) := by
  have fed := feedPacket_cases P receiver.stream data
  unfold feed
  generalize receiver.stream.feedPacket P data = result at fed ⊢
  have noted : (receiver.stream.noteType data).readBuffer = receiver.stream.readBuffer ∧
      (receiver.stream.noteType data).lastRxSeq = receiver.stream.lastRxSeq := by
    unfold noteType
    split <;> exact ⟨rfl, rfl⟩
  cases fed with
  | closed | noAck | ack | garbage => exact ⟨rfl, .inl ⟨by simp, by simp, by simp⟩⟩
  | full => exact ⟨noted.2, .inl ⟨by simp, by simp, by simp [noted.1]⟩⟩
  | old _ frame seen => exact ⟨rfl, .inr ⟨frame, rfl, by simp, .inl ⟨seen, by simp⟩⟩⟩
  | buffered _ frame =>
      have long : 0 < data.length := by
        rw [frame.size]
        simp only [usmpHeaderSize]
        omega
      exact ⟨noted.2, .inr ⟨frame, rfl, by simp, .inr (by simp [long])⟩⟩

theorem Acknowledges.fed {P : Primitives} {sender receiver : StreamEnd} {data : Bytes}
    (acknowledges : Acknowledges sender receiver)
    (undeceived : sender.Undeceived (.feedPacket data)) :
    Acknowledges sender (receiver.feed P data) := by
  rcases feed_cases P receiver data with ⟨lastRxSeq, fed⟩
  have more : receiver.buffered ⊆ (receiver.feed P data).buffered := by
    rcases fed with ⟨_, _, buffered⟩ | ⟨_, _, _, ⟨_, buffered⟩ | buffered⟩
    · rw [buffered]
      exact List.Subset.refl _
    · rw [buffered]
      exact List.Subset.refl _
    · rw [buffered]
      exact List.subset_append_left _ _
  refine {
    sends := acknowledges.sends
    utacks := ?_
    answered := ?_
    kept := ?_
    confirmed := by rw [lastRxSeq]; exact acknowledges.confirmed
    pending := acknowledges.pending
    newest := acknowledges.newest
    genuine := ?_
    acked := fun frame attempt inFlight isAcked session =>
      more (acknowledges.acked frame attempt inFlight isAcked session)
    returned := fun frame member session => more (acknowledges.returned frame member session) }
  · intro utack member isAck
    rcases fed with ⟨outbox, answered, _⟩ | ⟨_, outbox, answered, _⟩
    · rw [outbox] at member
      rw [answered]
      exact acknowledges.utacks utack member isAck
    · rw [outbox] at member
      rw [answered]
      rcases List.mem_append.mp member with old | new
      · rcases acknowledges.utacks utack old isAck with ⟨frame, isAnswered, fields⟩
        exact ⟨frame, List.mem_append_left _ isAnswered, fields⟩
      · rw [List.mem_singleton.mp new]
        exact ⟨data, by simp, fields_of_buildUtack P receiver.stream data⟩
  · have old : ∀ seen ∈ receiver.answered, IsFrame seen ∧ seen ∈ receiver.fed ++ [data] :=
      fun seen member => (acknowledges.answered seen member).imp_right (List.mem_append_left _)
    intro seen member
    rcases fed with ⟨_, answered, _⟩ | ⟨frame, _, answered, _⟩
    · rw [answered] at member
      exact old seen member
    · rw [answered] at member
      rcases List.mem_append.mp member with before | new
      · exact old seen before
      · rw [List.mem_singleton.mp new]
        exact ⟨frame, List.mem_append_right _ List.mem_cons_self⟩
  · rw [lastRxSeq]
    intro seen member notHandshake
    rcases fed with ⟨_, answered, buffered⟩ | ⟨_, _, answered, buffered⟩
    · rw [answered] at member
      rw [buffered]
      exact acknowledges.kept seen member notHandshake
    rw [answered] at member
    rcases List.mem_append.mp member with before | new
    · exact (acknowledges.kept seen before notHandshake).imp_left fun isBuffered =>
        more isBuffered
    · rw [List.mem_singleton.mp new] at notHandshake ⊢
      rcases buffered with ⟨isOld, _⟩ | buffered
      · right
        rw [seenBefore, notHandshake, if_neg Bool.false_ne_true, isStale, Bool.and_eq_true] at isOld
        exact of_decide_eq_true isOld.2
      · rw [buffered]
        exact .inl (List.mem_append_right _ List.mem_cons_self)
  · intro frame attempt inFlight seen member
    rcases List.mem_append.mp member with old | new
    · exact acknowledges.genuine frame attempt inFlight seen old
    · rw [List.mem_singleton.mp new]
      exact undeceived (frame, attempt) inFlight

/-- What the receiver does keeps its promise to the sender. -/
theorem Acknowledges.receiver {P : Primitives} {sender receiver next : StreamEnd}
    {action : StreamAction} (acknowledges : Acknowledges sender receiver)
    (orderly : receiver.Orderly sender action) (undeceived : sender.Undeceived action)
    (stepped : receiver.step P action = some next) : Acknowledges sender next := by
  have same : ∀ {next : StreamEnd},
      (∀ data attempt, next.inFlight = some (data, attempt) → IsFrame data) →
      next.fed = receiver.fed → next.answered = receiver.answered →
      next.buffered = receiver.buffered → next.stream.lastRxSeq = receiver.stream.lastRxSeq →
      (∀ utack ∈ next.outbox, isUtack utack = true → utack ∈ receiver.outbox) →
      Acknowledges sender next := by
    intro next sends fed answered buffered lastRxSeq sentBefore
    refine { acknowledges with
      sends := sends
      utacks := ?_
      answered := by rw [answered, fed]; exact acknowledges.answered
      kept := by rw [answered, buffered, lastRxSeq]; exact acknowledges.kept
      confirmed := by rw [lastRxSeq]; exact acknowledges.confirmed
      genuine := by rw [fed]; exact acknowledges.genuine
      acked := by rw [buffered]; exact acknowledges.acked
      returned := by rw [buffered]; exact acknowledges.returned }
    intro utack member isAck
    rw [answered]
    exact acknowledges.utacks utack (sentBefore utack member isAck) isAck
  have withFrame : ∀ {data : Bytes}, IsFrame data →
      ∀ utack ∈ receiver.outbox ++ [data], isUtack utack = true → utack ∈ receiver.outbox := by
    intro data frame utack member isAck
    rcases List.mem_append.mp member with old | new
    · exact old
    · rw [List.mem_singleton.mp new, frame.notUtack] at isAck
      cases isAck
  cases action with
  | writeFrame type payload seq =>
      simp only [step] at stepped
      split at stepped <;> cases stepped
      rcases receiver.writeFrame_cases type payload seq with
        unchanged | ⟨data, stream, _, frame, _, _, lastRxSeq, _, _, _, started⟩
      · rw [unchanged]
        exact acknowledges
      · rw [started]
        refine same ?_ rfl rfl rfl lastRxSeq (withFrame frame)
        intro other attempt isOther
        cases isOther
        exact frame
  | acked =>
      simp only [step] at stepped
      split at stepped <;> try cases stepped
      split at stepped <;> cases stepped
      exact same nofun rfl rfl rfl rfl fun _ member _ => member
  | timeout =>
      simp only [step] at stepped
      split at stepped <;> try cases stepped
      rename_i data attempt inFlight
      have frame := acknowledges.sends data attempt inFlight
      split at stepped <;> cases stepped
      · refine same ?_ rfl rfl rfl rfl (withFrame frame)
        intro other attempt isOther
        cases isOther
        exact frame
      · exact same nofun rfl rfl rfl rfl fun _ member _ => member
  | cancel =>
      simp only [step] at stepped
      split at stepped <;> cases stepped
      exact same nofun rfl rfl rfl rfl fun _ member _ => member
  | read count =>
      simp only [step] at stepped
      split at stepped <;> cases stepped
      exact same acknowledges.sends rfl rfl rfl rfl fun _ member _ => member
  | close =>
      cases stepped
      exact same acknowledges.sends rfl rfl rfl rfl fun _ member _ => member
  | confirmAuthenticated seq =>
      cases stepped
      unfold UDPStream.confirmAuthenticated
      split
      · rename_i higher
        rcases orderly with ⟨frame, isWritten, session, isSeq⟩
        refine { acknowledges with kept := ?_, confirmed := ?_ }
        · intro seen member notHandshake
          refine (acknowledges.kept seen member notHandshake).imp_right fun tooOld => ?_
          dsimp only
          omega
        · exact .inr ⟨frame, isWritten, session, congrArg Int.ofNat isSeq.symm⟩
      · exact acknowledges
  | feedPacket data =>
      cases stepped
      exact acknowledges.fed undeceived

/-- A sender that goes on waiting for the same UTACK. -/
theorem Acknowledges.waiting {sender receiver next : StreamEnd}
    (acknowledges : Acknowledges sender receiver)
    (inFlight : ∀ data attempt, next.inFlight = some (data, attempt) →
      ∃ before, sender.inFlight = some (data, before))
    (type : next.stream.pendingSendType = sender.stream.pendingSendType)
    (seq : next.stream.pendingSendSeq = sender.stream.pendingSendSeq)
    (acked : ∀ data attempt, sender.inFlight = some (data, attempt) →
      next.stream.ackReceived = true → 5 ≤ typeOf data →
      sender.stream.ackReceived = true ∨ data ∈ receiver.buffered)
    (written : next.written = sender.written) (returned : next.returned = sender.returned) :
    Acknowledges next receiver := by
  refine {
    sends := acknowledges.sends
    utacks := acknowledges.utacks
    answered := acknowledges.answered
    kept := acknowledges.kept
    confirmed := by rw [written]; exact acknowledges.confirmed
    pending := ?_
    newest := ?_
    genuine := ?_
    acked := ?_
    returned := by rw [returned]; exact acknowledges.returned }
  · intro data attempt isData
    rcases inFlight data attempt isData with ⟨before, wasData⟩
    rw [type, seq]
    exact acknowledges.pending data before wasData
  · intro data attempt isData
    rcases inFlight data attempt isData with ⟨before, wasData⟩
    rw [written]
    exact acknowledges.newest data before wasData
  · intro data attempt isData
    rcases inFlight data attempt isData with ⟨before, wasData⟩
    exact acknowledges.genuine data before wasData
  · intro data attempt isData isAcked session
    rcases inFlight data attempt isData with ⟨before, wasData⟩
    rcases acked data before wasData isAcked session with wasAcked | buffered
    · exact acknowledges.acked data before wasData wasAcked session
    · exact buffered

/-- A UTACK that sets the event is for a datagram that was answered. -/
theorem Acknowledges.hears {P : Primitives} {sender receiver : StreamEnd} {data : Bytes}
    (acknowledges : Acknowledges sender receiver)
    (unforged : sender.Unforged P receiver (.feedPacket data)) :
    Acknowledges (sender.feed P data) receiver := by
  have core := feedPacket_core P sender.stream data
  have type := congrArg UDPStream.pendingSendType core
  have seq := congrArg UDPStream.pendingSendSeq core
  refine acknowledges.waiting (fun frame attempt inFlight => ⟨attempt, inFlight⟩) type seq ?_ rfl
    rfl
  intro frame attempt inFlight isAcked session
  have fed := feedPacket_cases P sender.stream data
  change (sender.stream.feedPacket P data).1.ackReceived = true at isAcked
  generalize sender.stream.feedPacket P data = result at fed isAcked
  cases fed with
  | closed | noAck | garbage | old => exact .inl isAcked
  | full | buffered =>
      left
      unfold noteType at isAcked
      split at isAcked <;> exact isAcked
  | ack utack authentic isSeq isType =>
      right
      have pending := acknowledges.pending frame attempt inFlight
      have sameType : fieldAt data 2 1 = typeOf frame :=
        Option.some.inj (isType.symm.trans pending.1)
      have sameSeq : fieldAt data 3 4 = seqOf frame :=
        Option.some.inj (isSeq.symm.trans pending.2)
      have isSession : fieldAt data 2 1 ≥ 5 := by
        rw [sameType]
        exact session
      rcases unforged utack isSession (authentic isSession) with ⟨sent, member, agree⟩
      rcases fields_of_utack agree utack with ⟨isAck, typeField, seqField⟩
      rcases acknowledges.utacks sent member isAck with ⟨seen, isAnswered, seenType, seenSeq⟩
      apply acknowledges.arrived inFlight session isAnswered
      · rw [← seenType, typeField, sameType]
      · rw [← seenSeq, seqField, sameSeq]

/-- The sender starts to wait for the UTACK of a new frame. -/
theorem Acknowledges.starts {sender receiver : StreamEnd} {data : Bytes} {stream : UDPStream}
    (acknowledges : Acknowledges sender receiver)
    (pendingType : stream.pendingSendType = some (typeOf data))
    (pendingSeq : stream.pendingSendSeq = some (seqOf data))
    (notAcked : stream.ackReceived = false)
    (notHandshake : 5 ≤ typeOf data → isHandshakeType (typeOf data) = false)
    (increases : 5 ≤ typeOf data →
      ∀ frame ∈ sender.written, 5 ≤ typeOf frame → seqOf frame < seqOf data)
    (genuine : ∀ seen ∈ receiver.fed, ¬ LooksLike seen data) :
    Acknowledges
      { sender with
        stream
        inFlight := some (data, 0)
        outbox := sender.outbox ++ [data]
        written := sender.written ++ [data] }
      receiver := by
  refine { acknowledges with
    confirmed := ?_, pending := ?_, newest := ?_, genuine := ?_, acked := ?_ }
  · refine acknowledges.confirmed.imp_right ?_
    rintro ⟨frame, isWritten, session⟩
    exact ⟨frame, List.mem_append_left _ isWritten, session⟩
  · intro other attempt isOther
    cases isOther
    exact ⟨pendingType, pendingSeq⟩
  · intro other attempt isOther session
    cases isOther
    refine ⟨notHandshake session, ?_⟩
    intro frame isWritten isSession
    rcases List.mem_append.mp isWritten with old | new
    · exact Nat.le_of_lt (increases session frame old isSession)
    · rw [List.mem_singleton.mp new]
  · intro other attempt isOther
    cases isOther
    exact genuine
  · intro other attempt isOther isAcked
    rw [notAcked] at isAcked
    cases isAcked

/-- What the sender does keeps what it was promised. -/
theorem Acknowledges.sender {P : Primitives} {sender receiver next : StreamEnd}
    {action : StreamAction} (acknowledges : Acknowledges sender receiver)
    (unforged : sender.Unforged P receiver action) (orderly : sender.Orderly receiver action)
    (undeceived : receiver.Undeceived action)
    (stepped : sender.step P action = some next) : Acknowledges next receiver := by
  have idle : Acknowledges { sender with inFlight := none } receiver :=
    acknowledges.waiting nofun rfl rfl (fun _ _ _ isAcked _ => .inl isAcked) rfl rfl
  have goesOn : ∀ {stream : UDPStream},
      stream.pendingSendType = sender.stream.pendingSendType →
      stream.pendingSendSeq = sender.stream.pendingSendSeq →
      stream.ackReceived = sender.stream.ackReceived →
      Acknowledges { sender with stream } receiver := by
    intro stream type seq acked
    exact acknowledges.waiting (fun _ attempt same => ⟨attempt, same⟩) type seq
      (fun _ _ _ isAcked _ => .inl (acked ▸ isAcked)) rfl rfl
  cases action with
  | writeFrame type payload seq =>
      simp only [step] at stepped
      split at stepped <;> cases stepped
      rcases sender.writeFrame_cases type payload seq with
        unchanged | ⟨data, stream, isBytes, _, isType, isSeq, _, pendingType, pendingSeq, notAcked,
          started⟩
      · rw [unchanged]
        exact acknowledges
      · rw [started]
        apply acknowledges.starts pendingType pendingSeq notAcked
        · intro session
          rw [isType] at session ⊢
          have notRetry := orderly.1
          revert notRetry session
          cases type <;> decide
        · rw [isType, isSeq]
          exact orderly.2
        · rw [isBytes]
          exact undeceived
  | acked =>
      simp only [step] at stepped
      split at stepped <;> try cases stepped
      rename_i data attempt inFlight
      split at stepped <;> cases stepped
      rename_i isAcked
      refine { idle with returned := ?_ }
      intro frame member session
      rcases List.mem_append.mp member with old | new
      · exact acknowledges.returned frame old session
      · cases List.mem_singleton.mp new
        exact acknowledges.acked data attempt inFlight isAcked session
  | timeout =>
      simp only [step] at stepped
      split at stepped <;> try cases stepped
      rename_i data attempt inFlight
      split at stepped <;> cases stepped
      · refine acknowledges.waiting ?_ rfl rfl (fun _ _ _ isAcked _ => .inl isAcked) rfl rfl
        intro other after isOther
        cases isOther
        exact ⟨attempt, inFlight⟩
      · exact idle
  | cancel =>
      simp only [step] at stepped
      split at stepped <;> cases stepped
      exact idle
  | read count =>
      simp only [step] at stepped
      split at stepped <;> cases stepped
      exact goesOn rfl rfl rfl
  | confirmAuthenticated seq =>
      cases stepped
      unfold UDPStream.confirmAuthenticated
      split
      · exact goesOn rfl rfl rfl
      · exact acknowledges
  | close =>
      cases stepped
      exact goesOn rfl rfl rfl
  | feedPacket data =>
      cases stepped
      exact acknowledges.hears unforged

end StreamEnd

namespace StreamLink

/-! ## Every run -/

/-- What holds between the ends of every link. -/
def Acknowledges (link : StreamLink) : Prop :=
  ∀ side, (link.streamEnd side).Acknowledges (link.streamEnd side.other)

theorem Acknowledges.step {P : Primitives} {link next : StreamLink}
    {action : Side × StreamAction} (acknowledges : Acknowledges link)
    (unforged : link.Unforged P action) (orderly : link.Orderly action)
    (undeceived : link.Undeceived action) (stepped : link.step P action = some next) :
    Acknowledges next := by
  rcases Option.map_eq_some_iff.mp stepped with ⟨self, moved, rfl⟩
  rcases action with ⟨side, action⟩
  have sender := (acknowledges side).sender unforged orderly undeceived moved
  have back := acknowledges side.other
  rw [Side.other_other] at back
  have receiver := back.receiver orderly undeceived moved
  intro other
  by_cases same : other = side
  · subst same
    rw [streamEnd_withEnd, streamEnd_withEnd_other]
    exact sender
  · have isOther : other = side.other := by
      cases other <;> cases side <;> first | rfl | exact absurd rfl same
    subst isOther
    rw [streamEnd_withEnd_other, Side.other_other, streamEnd_withEnd]
    exact receiver

/-- An established link on which nothing was sent yet. -/
def new (client server : UDPStream) : StreamLink :=
  { client := { stream := client }, server := { stream := server } }

/-- In every run in which nobody injects a look-alike of a frame that an end writes, `write_frame`
returns only after the frame came into the read buffer of the other end. -/
theorem returned_buffered (P : Primitives) (client server : UDPStream)
    (clientFresh : client.lastRxSeq = -1) (serverFresh : server.lastRxSeq = -1)
    (actions : List (Side × StreamAction)) (final : StreamLink)
    (reached : Machine.run (step P) (new client server) actions = some final)
    (unforged : Machine.Along (step P) (Unforged P) (new client server) actions)
    (orderly : Machine.Along (step P) Orderly (new client server) actions)
    (undeceived : Machine.Along (step P) Undeceived (new client server) actions) :
    ∀ side, ∀ data ∈ (final.streamEnd side).returned, 5 ≤ typeOf data →
      data ∈ (final.streamEnd side.other).buffered := by
  have initially : Acknowledges (new client server) := by
    have fresh : ∀ sender receiver : UDPStream, receiver.lastRxSeq = -1 →
        StreamEnd.Acknowledges { stream := sender } { stream := receiver } := by
      intro sender receiver isFresh
      exact ⟨nofun, nofun, nofun, nofun, .inl isFresh, nofun, nofun, nofun, nofun, nofun⟩
    intro side
    cases side with
    | client => exact fresh client server serverFresh
    | server => exact fresh server client clientFresh
  have acknowledges : Acknowledges final :=
    Machine.run_invariant Acknowledges
      (fun _ _ _ holds conditions stepped =>
        holds.step conditions.1 conditions.2.1 conditions.2.2 stepped)
      initially (Machine.along_and unforged (Machine.along_and orderly undeceived)) reached
  exact fun side => (acknowledges side).returned

/-- Two streams with mirrored keys. -/
def sampleLink : StreamLink :=
  new
    { isServer := false
      txKey := some (sampleInfo 3 4).txKey
      rxKey := some (sampleInfo 3 4).rxKey }
    { isServer := true, txKey := some (sampleInfo 4 3).txKey, rxKey := some (sampleInfo 4 3).rxKey }

/-- The UTACK that the server sends for a DATA frame with sequence 0. -/
def sampleUtack : Bytes :=
  sampleLink.server.stream.buildUtack samplePrimitives PacketType.data.toNat 0

/-- The first copy of the frame is lost. -/
def sampleDelivery : List (Side × StreamAction) :=
  [(.client, .writeFrame .data [7, 8] 0), (.client, .timeout),
    (.server, .feedPacket (frameBytes .data [7, 8] 0)), (.client, .feedPacket sampleUtack),
    (.client, .acked)]

/-- A header with the type and the sequence of the frame arrives in its place. -/
def sampleSpoof : List (Side × StreamAction) :=
  [(.client, .writeFrame .data [7, 8] 0), (.server, .feedPacket (frameBytes .data [] 0)),
    (.client, .feedPacket sampleUtack), (.client, .acked)]

theorem returned_buffered_sampleDelivery :
    ∃ final,
      Machine.run (step samplePrimitives) sampleLink sampleDelivery = some final ∧
        frameBytes .data [7, 8] 0 ∈ final.server.buffered := by
  rcases Machine.exists_run (step samplePrimitives) sampleLink sampleDelivery
    (fun final => frameBytes .data [7, 8] 0 ∈ final.client.returned) (by decide +kernel) with
    ⟨final, reached, returned⟩
  exact ⟨final, reached, returned_buffered samplePrimitives _ _ rfl rfl sampleDelivery final
    reached (by decide +kernel) (by decide +kernel) (by decide +kernel) .client _ returned
    (by decide)⟩

/-- The UTACK is genuine, and `write_frame` returns for a frame that never arrived. -/
theorem returned_unbuffered :
    ∃ final,
      Machine.run (step samplePrimitives) sampleLink sampleSpoof = some final ∧
        Machine.Along (step samplePrimitives) (Unforged samplePrimitives) sampleLink sampleSpoof ∧
        Machine.Along (step samplePrimitives) Orderly sampleLink sampleSpoof ∧
        frameBytes .data [7, 8] 0 ∈ final.client.returned ∧
        5 ≤ typeOf (frameBytes .data [7, 8] 0) ∧
        frameBytes .data [7, 8] 0 ∉ final.server.buffered := by
  rcases Machine.exists_run (step samplePrimitives) sampleLink sampleSpoof
    (fun final => frameBytes .data [7, 8] 0 ∈ final.client.returned ∧
      frameBytes .data [7, 8] 0 ∉ final.server.buffered) (by decide +kernel) with
    ⟨final, reached, returned, lost⟩
  exact ⟨final, reached, by decide +kernel, by decide +kernel, returned, by decide, lost⟩

end StreamLink

end Usmp
