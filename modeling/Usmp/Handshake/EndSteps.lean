import Usmp.Handshake.End
import Usmp.Udp.Feed

/-!
# What an end of a handshake does next

The outcomes of the calls that a coroutine makes, and of a read from a buffer of whole
datagrams.
-/

namespace Usmp

/-- A stream whose receiving side did not change. -/
structure SameInput (before after : UDPStream) : Prop where
  isServer : after.isServer = before.isServer
  readBuffer : after.readBuffer = before.readBuffer
  lastRxType : after.lastRxType = before.lastRxType
  closed : after.closed = before.closed

theorem SameInput.refl (stream : UDPStream) : SameInput stream stream := ⟨rfl, rfl, rfl, rfl⟩

theorem SameInput.trans {first second third : UDPStream} (left : SameInput first second)
    (right : SameInput second third) : SameInput first third :=
  ⟨right.isServer.trans left.isServer, right.readBuffer.trans left.readBuffer,
    right.lastRxType.trans left.lastRxType, right.closed.trans left.closed⟩

/-- Whether the last write is a frame with this type and number. -/
def UDPStream.LastWrite (stream : UDPStream) (type seq : Nat) : Prop :=
  stream.pendingSendType = some type ∧ stream.pendingSendSeq = some seq

namespace HandshakeEnd

variable {Run : Type}

/-- The outcome of the calls of a coroutine. -/
inductive Performed (C : Coroutine Run) (self : HandshakeEnd Run) (calls : List HandshakeCall) :
    HandshakeEnd Run × List Bytes → Prop where
  | quiet (stream : UDPStream) (same : SameInput self.stream stream)
      (noWrite : ∀ type payload seq, .writeFrame type payload seq ∉ calls) :
      Performed C self calls ({ self with stream }, [])
  | failed (stream : UDPStream) (same : SameInput self.stream stream) (exn : Exn)
      (notHandshake : exn.cls ≠ .handshakeError)
      {type : PacketType} {payload : Bytes} {seq : Nat}
      (write : .writeFrame type payload seq ∈ calls) :
      Performed C self calls
        ({ self with run := (C.wrote self.run (some exn)).getD self.run, stream }, [])
  | sent (stream : UDPStream) (same : SameInput self.stream stream)
      {type : PacketType} {payload : Bytes} {seq : Nat}
      (write : .writeFrame type payload seq ∈ calls)
      (seqBound : seq ≤ maxSeq) (fits : payload.length ≤ usmpMaxPayload)
      (last : stream.LastWrite type.toNat seq) (unacked : stream.ackReceived = false) :
      Performed C self calls
        ({ self with stream, arq := some { data := frameBytes type payload seq } },
          [frameBytes type payload seq])

theorem startWrite_cases (C : Coroutine Run) (self : HandshakeEnd Run) (type : PacketType)
    (payload : Bytes) (seq : Nat) (calls : List HandshakeCall)
    (write : .writeFrame type payload seq ∈ calls) :
    Performed C self calls (self.startWrite C type payload seq) := by
  unfold startWrite
  split
  · rename_i exn encoded
    refine .failed self.stream (.refl _) exn ?_ write
    unfold encodeFrame at encoded
    repeat' split at encoded
    all_goals cases encoded
    all_goals exact nofun
  rename_i data encoded
  have sizes : payload.length ≤ usmpMaxPayload ∧ seq ≤ maxSeq ∧
      data = frameBytes type payload seq := by
    unfold encodeFrame at encoded
    repeat' split at encoded
    all_goals cases encoded
    rename_i fits seqBound _
    exact ⟨Nat.not_lt.mp fits, Nat.not_lt.mp seqBound, rfl⟩
  rcases sizes with ⟨fits, seqBound, rfl⟩
  rcases isFrame_frameBytes type seqBound fits with ⟨_, isType, isSeq, _⟩
  split
  · rename_i exn written
    refine .failed self.stream (.refl _) exn ?_ write
    unfold UDPStream.write at written
    split at written <;> cases written
    decide
  · rename_i stream written
    have last : stream.startDrain.LastWrite type.toNat seq ∧
        SameInput self.stream stream.startDrain := by
      unfold UDPStream.write at written
      split at written <;> cases written
      exact ⟨⟨congrArg some isType, congrArg some isSeq⟩, rfl, rfl, rfl, rfl⟩
    exact .sent _ last.2 write seqBound fits last.1 rfl

theorem Performed.mono {C : Coroutine Run} (self : HandshakeEnd Run) (stream : UDPStream)
    (same : SameInput self.stream stream) {rest : List HandshakeCall} {call : HandshakeCall}
    (notWrite : ∀ type payload seq, call ≠ .writeFrame type payload seq)
    {result : HandshakeEnd Run × List Bytes}
    (performed : Performed C { self with stream } rest result) :
    Performed C self (call :: rest) result := by
  cases performed with
  | quiet after keeps noWrite =>
      refine .quiet after (same.trans keeps) ?_
      intro type payload seq member
      rcases List.mem_cons.mp member with isCall | later
      · exact notWrite _ _ _ isCall.symm
      · exact noWrite _ _ _ later
  | failed after keeps exn notHandshake write =>
      exact .failed after (same.trans keeps) exn notHandshake (List.mem_cons_of_mem _ write)
  | sent after keeps write seqBound fits last unacked =>
      exact .sent after (same.trans keeps) (List.mem_cons_of_mem _ write) seqBound fits last
        unacked

theorem perform_cases (C : Coroutine Run) (self : HandshakeEnd Run)
    (calls : List HandshakeCall) : Performed C self calls (self.perform C calls) := by
  induction calls generalizing self with
  | nil => exact .quiet self.stream (.refl _) fun _ _ _ member => nomatch member
  | cons call rest ih =>
      cases call with
      | setSessionKeys txKey rxKey =>
          have keyed := ih { self with stream := self.stream.setSessionKeys txKey rxKey }
          exact keyed.mono self (self.stream.setSessionKeys txKey rxKey)
            ⟨rfl, rfl, rfl, rfl⟩ fun _ _ _ => HandshakeCall.noConfusion
      | writeFrame type payload seq =>
          exact startWrite_cases C self type payload seq _ List.mem_cons_self

theorem goOn_cases (C : Coroutine Run) (self : HandshakeEnd Run)
    (taken : Run × List HandshakeCall) :
    Performed C { self with run := taken.1 } taken.2 (self.goOn C taken) :=
  perform_cases C _ _

/-! ## Reading whole datagrams -/

/-- An end that has read the first datagram of its buffer. -/
def took (self : HandshakeEnd Run) (data : Bytes) (rest : List Bytes) : HandshakeEnd Run :=
  { self with
    stream := { self.stream with readBuffer := rest.flatten }
    pending := none
    handed :=
      match decodeFrame data false with
      | .ok frame => self.handed ++ [frame.type]
      | .error _ => self.handed }

/-- The outcome of a read from whole datagrams. -/
inductive Resumed (C : Coroutine Run) (self : HandshakeEnd Run) (frames : List Bytes) :
    HandshakeEnd Run × List Bytes → Prop where
  | waits (empty : frames = []) (isOpen : self.stream.closed = false) :
      Resumed C self frames (self, [])
  | ends (empty : frames = []) (isClosed : self.stream.closed = true)
      {taken : Run × List HandshakeCall}
      (read : C.read self.run (.error ⟨.incompleteReadError, "stream closed"⟩) = some taken) :
      Resumed C self frames (self.goOn C taken)
  | takes {data : Bytes} {rest : List Bytes} (isFirst : frames = data :: rest)
      {taken : Run × List HandshakeCall}
      (read : C.read self.run (decodeFrame data false) = some taken) :
      Resumed C self frames ((self.took data rest).goOn C taken)

theorem resume_cases {C : Coroutine Run} {self : HandshakeEnd Run} {frames : List Bytes}
    (buffer : self.stream.readBuffer = frames.flatten) (whole : ∀ data ∈ frames, IsFrame data)
    (pending : self.pending = none) {result : HandshakeEnd Run × List Bytes}
    (stepped : self.resume C = some result) :
    C.reading self.run = true ∧ Resumed C self frames result := by
  unfold resume at stepped
  split at stepped
  · rename_i reading
    refine ⟨reading, ?_⟩
    rw [pending, buffer] at stepped
    rcases readFrame_flatten false whole with ⟨rfl, waiting⟩ | ⟨data, rest, rfl, taking⟩
    · rw [waiting] at stepped
      dsimp only at stepped
      split at stepped
      · rename_i isClosed
        rcases Option.map_eq_some_iff.mp stepped with ⟨taken, read, rfl⟩
        exact .ends rfl isClosed read
      · rename_i isOpen
        cases stepped
        have same : ({ self with
            stream := { self.stream with readBuffer := [] }, pending := none } :
              HandshakeEnd Run) = self := by
          rw [← pending, show ([] : Bytes) = self.stream.readBuffer by rw [buffer]; rfl]
        rw [same]
        exact .waits rfl (Bool.eq_false_iff.mpr isOpen)
    · rw [taking] at stepped
      rcases Option.map_eq_some_iff.mp stepped with ⟨taken, read, rfl⟩
      exact .takes rfl read
  · cases stepped

end HandshakeEnd

end Usmp
