import Usmp.Udp.Stream

/-!
# What one datagram does to a stream

The outcomes of `feed_packet`, and the read buffer as a sequence of whole datagrams.
-/

namespace Usmp

open LittleEndian UDPStream

/-! ## The parts of a datagram -/

/-- `data[3]`. -/
abbrev typeOf (data : Bytes) : Nat := fieldAt data 3 1

/-- `struct.unpack("<I", data[4:8])`. -/
abbrev seqOf (data : Bytes) : Nat := fieldAt data 4 4

/-- `struct.unpack("<H", data[8:10])`. -/
abbrev lengthOf (data : Bytes) : Nat := fieldAt data 8 2

/-- The types whose duplicates are told by `_last_rx_type`. -/
def isHandshakeType (type : Nat) : Bool := type < 5 || type = 0x0A

structure IsFrame (data : Bytes) : Prop where
  magic : fieldAt data 0 2 = usmpMagic
  fits : lengthOf data ≤ usmpMaxPayload
  size : data.length = usmpHeaderSize + lengthOf data

theorem isFrame_iff (data : Bytes) : isFrame data = true ↔ IsFrame data := by
  simp only [isFrame, Bool.and_eq_true, Bool.not_eq_true', decide_eq_false_iff_not,
    decide_eq_true_eq, Nat.not_lt]
  constructor
  · intro holds
    exact ⟨holds.1.1.2, holds.1.2, holds.2⟩
  · intro frame
    refine ⟨⟨⟨?_, frame.magic⟩, frame.fits⟩, frame.size⟩
    rw [frame.size]
    omega

/-- The magic numbers of UTACKs and frames differ. -/
theorem IsFrame.notUtack {data : Bytes} (frame : IsFrame data) : isUtack data = false := by
  apply Bool.eq_false_iff.mpr
  intro utack
  simp only [isUtack, Bool.and_eq_true, decide_eq_true_eq] at utack
  have magic := frame.magic
  rw [fieldAt, List.drop_zero, utack.2] at magic
  revert magic
  decide

theorem isFrame_frameBytes (type : PacketType) {payload : Bytes} {seq : Nat}
    (seqBound : seq ≤ maxSeq) (fits : payload.length ≤ usmpMaxPayload) :
    IsFrame (frameBytes type payload seq) ∧ typeOf (frameBytes type payload seq) = type.toNat ∧
      seqOf (frameBytes type payload seq) = seq ∧
      lengthOf (frameBytes type payload seq) = payload.length := by
  rcases fieldAt_frameBytes type payload [] seqBound fits with
    ⟨magic, _, isType, isSeq, length, _, _⟩
  rw [List.append_nil] at magic isType isSeq length
  refine ⟨⟨magic, Nat.le_trans (Nat.le_of_eq length) fits, ?_⟩, isType, isSeq, length⟩
  rw [length_frameBytes, ← length]

/-- The parts of a UTACK. -/
theorem isUtack_utackHeader (type seq : Nat) (rest : Bytes) (typeBound : type < 256)
    (seqBound : seq ≤ maxSeq) :
    isUtack (utackHeader type seq ++ rest) = true ∧
      fieldAt (utackHeader type seq ++ rest) 2 1 = type ∧
      fieldAt (utackHeader type seq ++ rest) 3 4 = seq := by
  have magicSize : utackMagic.length = 2 := rfl
  simp only [maxSeq] at seqBound
  refine ⟨?_, ?_, ?_⟩
  · simp [isUtack, utackHeader, utackHeaderLen, magicSize]
    omega
  · rw [utackHeader, List.append_assoc, List.append_assoc, fieldAt_skip _ _ (by simp [magicSize]),
      magicSize, fieldAt_leBytes _ (by omega)]
  · rw [utackHeader, List.append_assoc, List.append_assoc, fieldAt_skip _ _ (by simp [magicSize]),
      magicSize, fieldAt_skip _ _ (by simp), length_leBytes, fieldAt_leBytes _ (by omega)]

theorem fieldAt_lt (data : Bytes) (offset width : Nat) :
    fieldAt data offset width < 256 ^ width := by
  have bound := leNat_lt ((data.drop offset).take width)
  apply Nat.lt_of_lt_of_le bound
  apply Nat.pow_le_pow_right (by decide)
  rw [List.length_take]
  exact Nat.min_le_left _ _

/-! ## Whole datagrams in the buffer -/

/-- A datagram at the front of the buffer is read as a whole. -/
theorem readFrame_datagram (verifyCrc : Bool) {data : Bytes} (frame : IsFrame data)
    (rest : Bytes) :
    readFrame verifyCrc none (data ++ rest) =
      (.finished (decodeFrame data verifyCrc), rest) := by
  have size := frame.size
  have long : ¬ (data ++ rest).length < usmpHeaderSize := by
    rw [List.length_append]
    omega
  have head : (data ++ rest).take usmpHeaderSize = data.take usmpHeaderSize :=
    List.take_append_of_le_length (by omega)
  have tail : (data ++ rest).drop usmpHeaderSize = data.drop usmpHeaderSize ++ rest :=
    List.drop_append_of_le_length (by omega)
  have magic : fieldAt (data.take usmpHeaderSize) 0 2 = usmpMagic := by
    rw [fieldAt_take (by decide)]
    exact frame.magic
  have length : fieldAt (data.take usmpHeaderSize) 8 2 = lengthOf data :=
    fieldAt_take (by decide)
  have checked : readFrameLength (data.take usmpHeaderSize) = .ok (lengthOf data) := by
    rw [readFrameLength, magic, length]
    simp [Nat.not_lt.mpr frame.fits]
  have bodySize : (data.drop usmpHeaderSize).length = lengthOf data := by
    rw [List.length_drop]
    omega
  have enough : ¬ (data.drop usmpHeaderSize ++ rest).length < lengthOf data := by
    rw [List.length_append, bodySize]
    omega
  have body : (data.drop usmpHeaderSize ++ rest).take (lengthOf data) =
      data.drop usmpHeaderSize := List.take_left' bodySize
  have left : (data.drop usmpHeaderSize ++ rest).drop (lengthOf data) = rest :=
    List.drop_left' bodySize
  simp only [readFrame, long, if_false, head, tail, checked, readFramePayload, enough, body,
    left, List.take_append_drop]

/-- An empty buffer makes the reader wait, and a buffer of whole datagrams yields the first. -/
theorem readFrame_flatten (verifyCrc : Bool) {datagrams : List Bytes}
    (frames : ∀ data ∈ datagrams, IsFrame data) :
    (datagrams = [] ∧ readFrame verifyCrc none datagrams.flatten = (.suspended none, [])) ∨
      ∃ data rest, datagrams = data :: rest ∧
        readFrame verifyCrc none datagrams.flatten =
          (.finished (decodeFrame data verifyCrc), rest.flatten) := by
  cases datagrams with
  | nil => exact .inl ⟨rfl, rfl⟩
  | cons data rest =>
      right
      refine ⟨data, rest, rfl, ?_⟩
      rw [List.flatten_cons]
      exact readFrame_datagram verifyCrc (frames data List.mem_cons_self) rest.flatten

/-! ## The outcomes of `feed_packet` -/

/-- A frame that the stream takes for an old one. -/
def UDPStream.seenBefore (stream : UDPStream) (data : Bytes) : Bool :=
  if isHandshakeType (typeOf data) then stream.isDuplicateHandshake (typeOf data)
  else stream.isStale (seqOf data)

/-- The stream after the type of a frame was noted. -/
def UDPStream.noteType (stream : UDPStream) (data : Bytes) : UDPStream :=
  if isHandshakeType (typeOf data) then { stream with lastRxType := typeOf data } else stream

inductive Fed (P : Primitives) (stream : UDPStream) (data : Bytes) :
    UDPStream × List Bytes → Prop where
  | closed (isClosed : stream.closed = true) : Fed P stream data (stream, [])
  /-- A UTACK that is not for the frame in flight, or not authentic. -/
  | noAck (utack : isUtack data = true) : Fed P stream data (stream, [])
  | ack (utack : isUtack data = true)
      (authentic : fieldAt data 2 1 ≥ 5 → stream.utackAuthentic P data = true)
      (isSeq : stream.pendingSendSeq = some (fieldAt data 3 4))
      (isType : stream.pendingSendType = some (fieldAt data 2 1)) :
      Fed P stream data ({ stream with ackReceived := true }, [])
  | garbage (notUtack : isUtack data = false) (notFrame : ¬ IsFrame data) :
      Fed P stream data (stream, [])
  | old (isOpen : stream.closed = false) (frame : IsFrame data)
      (seen : stream.seenBefore data = true) :
      Fed P stream data (stream, [stream.buildUtack P (typeOf data) (seqOf data)])
  /-- No room: the type is noted all the same. -/
  | full (isOpen : stream.closed = false) (frame : IsFrame data)
      (new : stream.seenBefore data = false)
      (noRoom : stream.readBuffer.length + data.length > maxReadBuffer) :
      Fed P stream data (stream.noteType data, [])
  | buffered (isOpen : stream.closed = false) (frame : IsFrame data)
      (new : stream.seenBefore data = false)
      (room : stream.readBuffer.length + data.length ≤ maxReadBuffer) :
      Fed P stream data
        ({ stream.noteType data with readBuffer := stream.readBuffer ++ data },
          [stream.buildUtack P (typeOf data) (seqOf data)])

theorem feedPacket_cases (P : Primitives) (stream : UDPStream) (data : Bytes) :
    Fed P stream data (stream.feedPacket P data) := by
  unfold feedPacket
  split
  · rename_i isClosed
    exact .closed isClosed
  rename_i isOpen
  have isOpen : stream.closed = false := Bool.eq_false_iff.mpr isOpen
  split
  · rename_i utack
    simp only [feedUtack]
    split
    · exact .noAck utack
    rename_i authentic
    split
    · rename_i pending
      refine .ack utack ?_ pending.1.symm pending.2.symm
      intro session
      simpa [session] using authentic
    · exact .noAck utack
  rename_i notUtack
  split
  · rename_i notFrame
    refine .garbage (by simpa using notUtack) ?_
    rw [← isFrame_iff]
    simpa using notFrame
  rename_i isFrame
  have frame : IsFrame data := (isFrame_iff data).mp (by simpa using isFrame)
  have handshake : isHandshakeType (typeOf data) = true ↔ typeOf data < 5 ∨ typeOf data = 0x0A := by
    simp [isHandshakeType]
  dsimp only
  split
  · rename_i isHandshake
    have isHandshake := handshake.mpr isHandshake
    split
    · rename_i duplicate
      exact .old isOpen frame (by rw [seenBefore, if_pos isHandshake]; exact duplicate)
    · rename_i new
      have new : stream.seenBefore data = false := by
        rw [seenBefore, if_pos isHandshake]
        exact Bool.eq_false_iff.mpr new
      have noted : stream.noteType data = { stream with lastRxType := typeOf data } := by
        rw [noteType, if_pos isHandshake]
      unfold bufferPacket
      split
      · rename_i noRoom
        rw [← noted]
        exact .full isOpen frame new noRoom
      · rename_i room
        have kept := Fed.buffered (P := P) isOpen frame new (Nat.not_lt.mp room)
        rw [noted] at kept
        exact kept
  · rename_i isSession
    have isSession : ¬ isHandshakeType (typeOf data) = true := fun is => isSession (handshake.mp is)
    split
    · rename_i stale
      exact .old isOpen frame (by rw [seenBefore, if_neg isSession]; exact stale)
    · rename_i new
      have new : stream.seenBefore data = false := by
        rw [seenBefore, if_neg isSession]
        exact Bool.eq_false_iff.mpr new
      have noted : stream.noteType data = stream := by
        rw [noteType, if_neg isSession]
      unfold bufferPacket
      split
      · rename_i noRoom
        have kept := Fed.full (P := P) isOpen frame new noRoom
        rw [noted] at kept
        exact kept
      · rename_i room
        have kept := Fed.buffered (P := P) isOpen frame new (Nat.not_lt.mp room)
        rw [noted] at kept
        exact kept

/-- A datagram comes into the read buffer as a whole, or not at all. -/
theorem feedPacket_readBuffer (P : Primitives) (stream : UDPStream) (data : Bytes) :
    (stream.feedPacket P data).1.readBuffer = stream.readBuffer ∨
      IsFrame data ∧
        (stream.feedPacket P data).1.readBuffer = stream.readBuffer ++ data := by
  have fed := feedPacket_cases P stream data
  generalize stream.feedPacket P data = result at fed ⊢
  cases fed with
  | closed | noAck | ack | garbage | old => exact .inl rfl
  | full =>
      left
      unfold noteType
      split <;> rfl
  | buffered isOpen frame => exact .inr ⟨frame, rfl⟩

/-- An open stream answers a frame that it has seen, and does nothing else. -/
theorem feedPacket_seen (P : Primitives) {stream : UDPStream} {data : Bytes}
    (isOpen : stream.closed = false) (frame : IsFrame data)
    (seen : stream.seenBefore data = true) :
    stream.feedPacket P data = (stream, [stream.buildUtack P (typeOf data) (seqOf data)]) := by
  have fed := feedPacket_cases P stream data
  generalize stream.feedPacket P data = result at fed ⊢
  cases fed with
  | closed isClosed =>
      rw [isOpen] at isClosed
      cases isClosed
  | noAck utack =>
      rw [frame.notUtack] at utack
      cases utack
  | ack utack =>
      rw [frame.notUtack] at utack
      cases utack
  | garbage notUtack notFrame => exact absurd frame notFrame
  | old => rfl
  | full _ _ new =>
      rw [new] at seen
      cases seen
  | buffered _ _ new =>
      rw [new] at seen
      cases seen

/-- An open stream buffers and answers a new frame for which it has room. -/
theorem feedPacket_new (P : Primitives) {stream : UDPStream} {data : Bytes}
    (isOpen : stream.closed = false) (frame : IsFrame data)
    (new : stream.seenBefore data = false)
    (room : stream.readBuffer.length + data.length ≤ maxReadBuffer) :
    stream.feedPacket P data =
      ({ stream.noteType data with readBuffer := stream.readBuffer ++ data },
        [stream.buildUtack P (typeOf data) (seqOf data)]) := by
  have fed := feedPacket_cases P stream data
  generalize stream.feedPacket P data = result at fed ⊢
  cases fed with
  | closed isClosed =>
      rw [isOpen] at isClosed
      cases isClosed
  | noAck utack =>
      rw [frame.notUtack] at utack
      cases utack
  | ack utack =>
      rw [frame.notUtack] at utack
      cases utack
  | garbage notUtack notFrame => exact absurd frame notFrame
  | old _ _ seen =>
      rw [new] at seen
      cases seen
  | full _ _ _ noRoom => exact absurd room (Nat.not_le.mpr noRoom)
  | buffered => rfl

/-- An open stream drops a new frame for which it has no room, but notes its type. -/
theorem feedPacket_full (P : Primitives) {stream : UDPStream} {data : Bytes}
    (isOpen : stream.closed = false) (frame : IsFrame data)
    (new : stream.seenBefore data = false)
    (noRoom : stream.readBuffer.length + data.length > maxReadBuffer) :
    stream.feedPacket P data = (stream.noteType data, []) := by
  have fed := feedPacket_cases P stream data
  generalize stream.feedPacket P data = result at fed ⊢
  cases fed with
  | closed isClosed =>
      rw [isOpen] at isClosed
      cases isClosed
  | noAck utack =>
      rw [frame.notUtack] at utack
      cases utack
  | ack utack =>
      rw [frame.notUtack] at utack
      cases utack
  | garbage notUtack notFrame => exact absurd frame notFrame
  | old _ _ seen =>
      rw [new] at seen
      cases seen
  | full => rfl
  | buffered _ _ _ room => exact absurd room (Nat.not_le.mpr noRoom)

/-- An open stream answers the frames that it has seen and those that it has room for. -/
theorem feedPacket_reply (P : Primitives) {stream : UDPStream} {data : Bytes}
    (isOpen : stream.closed = false) (frame : IsFrame data) :
    (stream.feedPacket P data).2 =
      if stream.seenBefore data = true ∨
          stream.readBuffer.length + data.length ≤ maxReadBuffer then
        [stream.buildUtack P (typeOf data) (seqOf data)]
      else [] := by
  have fed := feedPacket_cases P stream data
  generalize stream.feedPacket P data = result at fed ⊢
  cases fed with
  | closed isClosed =>
      rw [isOpen] at isClosed
      cases isClosed
  | noAck utack =>
      rw [frame.notUtack] at utack
      cases utack
  | ack utack =>
      rw [frame.notUtack] at utack
      cases utack
  | garbage notUtack notFrame => exact absurd frame notFrame
  | old _ _ seen => rw [if_pos (.inl seen)]
  | full _ _ new noRoom =>
      rw [if_neg]
      intro answers
      rcases answers with seen | room
      · rw [new] at seen
        cases seen
      · exact Nat.not_le.mpr noRoom room
  | buffered _ _ _ room => rw [if_pos (.inr room)]

/-- Whatever becomes of a handshake frame, an open stream has come to its type. -/
theorem feedPacket_handshake (P : Primitives) {stream : UDPStream} {data : Bytes}
    (isOpen : stream.closed = false) (frame : IsFrame data)
    (isHandshake : isHandshakeType (typeOf data) = true) :
    (stream.isDuplicateHandshake (typeOf data) = true ∧ (stream.feedPacket P data).1 = stream) ∨
      (stream.feedPacket P data).1.lastRxType = typeOf data := by
  have noted : (stream.noteType data).lastRxType = typeOf data := by
    rw [noteType, if_pos isHandshake]
  have fed := feedPacket_cases P stream data
  generalize stream.feedPacket P data = result at fed ⊢
  cases fed with
  | closed isClosed =>
      rw [isOpen] at isClosed
      cases isClosed
  | noAck utack =>
      rw [frame.notUtack] at utack
      cases utack
  | ack utack =>
      rw [frame.notUtack] at utack
      cases utack
  | garbage notUtack notFrame => exact absurd frame notFrame
  | old _ _ seen =>
      rw [seenBefore, if_pos isHandshake] at seen
      exact .inl ⟨seen, rfl⟩
  | full | buffered => exact .inr noted

end Usmp
