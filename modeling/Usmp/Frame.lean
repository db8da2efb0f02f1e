import Usmp.Lib.LittleEndian
import Usmp.Types
import Usmp.Errors
import Mathlib.Logic.Function.Iterate

/-!
# The frame codec

A frame is a 12-byte header followed by its payload.  `encodeFrame` and
`decodeFrame` are the two directions on whole byte strings; `readFrame` is the
stream reader, which asks for the header and the payload separately and can be
suspended at either request.
-/

namespace Usmp

open LittleEndian

/-! ## Checksum -/

/-- One turn of the inner loop of `crc16`. -/
def crcBit (crc : Nat) : Nat :=
  if crc &&& 1 ≠ 0 then (crc >>> 1) ^^^ 0xA001 else crc >>> 1

def crcByte (crc : Nat) (byte : UInt8) : Nat :=
  crcBit^[8] (crc ^^^ byte.toNat)

/-- CRC-16/IBM, polynomial 0xA001, initial value 0xFFFF. -/
def crc16 (data : Bytes) : Nat :=
  data.foldl crcByte 0xFFFF

theorem crcBit_lt {crc : Nat} (bound : crc < 2 ^ 16) : crcBit crc < 2 ^ 16 := by
  have shifted : crc >>> 1 < 2 ^ 16 := by
    rw [Nat.shiftRight_eq_div_pow]
    omega
  unfold crcBit
  split
  · exact Nat.xor_lt_two_pow shifted (by decide)
  · exact shifted

theorem crcByte_lt {crc : Nat} (byte : UInt8) (bound : crc < 2 ^ 16) :
    crcByte crc byte < 2 ^ 16 := by
  have mixed : crc ^^^ byte.toNat < 2 ^ 16 := by
    have := byte.toNat_lt
    exact Nat.xor_lt_two_pow bound (by omega)
  have steps : ∀ turns value, value < 2 ^ 16 → crcBit^[turns] value < 2 ^ 16 := by
    intro turns
    induction turns with
    | zero => exact fun _ small => small
    | succ turns ih => exact fun _ small => ih _ (crcBit_lt small)
  exact steps 8 _ mixed

theorem crc16_lt (data : Bytes) : crc16 data < 2 ^ 16 := by
  have folded : ∀ (bytes : Bytes) (crc : Nat), crc < 2 ^ 16 →
      bytes.foldl crcByte crc < 2 ^ 16 := by
    intro bytes
    induction bytes with
    | nil => exact fun _ small => small
    | cons byte rest ih => exact fun _ small => ih _ (crcByte_lt byte small)
  exact folded data 0xFFFF (by decide)

/-- `struct.pack("<HBBI", magic, version, type_, seq)`. -/
def packHeader (magic version type seq : Nat) : Bytes :=
  leBytes 2 magic ++ leBytes 1 version ++ leBytes 1 type ++ leBytes 4 seq

/-- CRC over header bytes 0 to 9 and the payload. -/
def computeFrameCrc (magic version type seq length : Nat) (payload : Bytes) : Nat :=
  crc16 (packHeader magic version type seq ++ leBytes 2 length ++ payload)

/-! ## Encoding -/

/-- Upper-case hexadecimal with at least four digits, Python's `:04X`. -/
def hex4 (value : Nat) : String :=
  String.ofList (List.leftpad 4 '0' ((Nat.toDigits 16 value).map Char.toUpper))

/-- The bytes of a frame whose fields are in range. -/
def frameBytes (type : PacketType) (payload : Bytes) (seq : Nat)
    (version : Nat := usmpVersion) : Bytes :=
  let length := payload.length
  let crc := computeFrameCrc usmpMagic version type.toNat seq length payload
  packHeader usmpMagic version type.toNat seq ++ leBytes 2 length ++ leBytes 2 crc ++ payload

def encodeFrame (type : PacketType) (payload : Bytes) (seq : Nat := 0)
    (version : Nat := usmpVersion) : Except Exn Bytes :=
  if payload.length > usmpMaxPayload then
    .error ⟨.payloadError, s!"Payload too large: {payload.length} bytes, max {usmpMaxPayload}"⟩
  else if seq > maxSeq then
    .error ⟨.structError, "argument out of range"⟩
  else if version > 255 then
    .error ⟨.structError, "ubyte format requires 0 <= number <= 255"⟩
  else
    .ok (frameBytes type payload seq version)

/-! ## Decoding -/

/-- `struct.unpack_from` of one little-endian field. -/
def fieldAt (data : Bytes) (offset width : Nat) : Nat :=
  leNat ((data.drop offset).take width)

def decodeFrame (data : Bytes) (verifyCrc : Bool := true) : Except Exn USMPFrame :=
  if data.length < usmpHeaderSize then
    .error ⟨.frameError, s!"Frame too short: {data.length} bytes, need {usmpHeaderSize}"⟩
  else
    let magic := fieldAt data 0 2
    let version := fieldAt data 2 1
    let type := fieldAt data 3 1
    let seq := fieldAt data 4 4
    let length := fieldAt data 8 2
    let crc := fieldAt data 10 2
    if magic ≠ usmpMagic then
      .error ⟨.magicError, s!"Bad magic: 0x{hex4 magic}, expected 0x{hex4 usmpMagic}"⟩
    else if version ≠ usmpVersion then
      .error ⟨.versionError, s!"Unsupported version: {version}"⟩
    else if length > usmpMaxPayload then
      .error ⟨.payloadError, s!"Payload too large: {length} bytes"⟩
    else if data.length < usmpHeaderSize + length then
      .error ⟨.payloadError,
        s!"Payload truncated: have {data.length - usmpHeaderSize}, need {length}"⟩
    else
      let payload := (data.drop usmpHeaderSize).take length
      let expectedCrc := computeFrameCrc magic version type seq length payload
      if verifyCrc ∧ crc ≠ expectedCrc then
        .error ⟨.crcError, s!"CRC mismatch: got 0x{hex4 crc}, expected 0x{hex4 expectedCrc}"⟩
      else
        match PacketType.ofNat? type with
        | none => .error ⟨.frameError, s!"Unknown packet type: {type}"⟩
        | some packetType =>
            .ok { magic, version, type := packetType, seq, length, crc, payload }

/-! ## Round trip -/

theorem length_packHeader (magic version type seq : Nat) :
    (packHeader magic version type seq).length = 8 := by
  simp [packHeader]

theorem length_frameBytes (type : PacketType) (payload : Bytes) (seq version : Nat) :
    (frameBytes type payload seq version).length = usmpHeaderSize + payload.length := by
  simp only [frameBytes, List.length_append, length_packHeader, length_leBytes]
  rfl

theorem fieldAt_skip {before : Bytes} {offset : Nat} (rest : Bytes) (width : Nat)
    (covers : before.length ≤ offset) :
    fieldAt (before ++ rest) offset width = fieldAt rest (offset - before.length) width := by
  rw [fieldAt, fieldAt, List.drop_append, List.drop_eq_nil_of_le covers, List.nil_append]

theorem fieldAt_leBytes {width value : Nat} (rest : Bytes) (bound : value < 256 ^ width) :
    fieldAt (leBytes width value ++ rest) 0 width = value := by
  have taken : (leBytes width value ++ rest).take width = leBytes width value := by
    rw [List.take_append_of_le_length (by simp), List.take_of_length_le (by simp)]
  rw [fieldAt, List.drop_zero, taken, leNat_leBytes bound]

/-- The six header fields of an encoded frame, and what follows them. -/
theorem fieldAt_frameBytes (type : PacketType) (payload rest : Bytes) {seq : Nat}
    (seqBound : seq ≤ maxSeq) (fits : payload.length ≤ usmpMaxPayload) :
    let data := frameBytes type payload seq ++ rest
    fieldAt data 0 2 = usmpMagic ∧ fieldAt data 2 1 = usmpVersion ∧
      fieldAt data 3 1 = type.toNat ∧ fieldAt data 4 4 = seq ∧
      fieldAt data 8 2 = payload.length ∧
      fieldAt data 10 2 =
        computeFrameCrc usmpMagic usmpVersion type.toNat seq payload.length payload ∧
      data.drop usmpHeaderSize = payload ++ rest := by
  have crcBound := crc16_lt (packHeader usmpMagic usmpVersion type.toNat seq ++
    leBytes 2 payload.length ++ payload)
  have typeBound := type.toNat_lt
  simp only [usmpMaxPayload] at fits
  simp only [maxSeq] at seqBound
  simp only [frameBytes, packHeader, List.append_assoc]
  refine ⟨?_, ?_, ?_, ?_, ?_, ?_, ?_⟩
  · rw [fieldAt_leBytes _ (by decide)]
  · rw [fieldAt_skip _ _ (by simp), length_leBytes, fieldAt_leBytes _ (by decide)]
  · rw [fieldAt_skip _ _ (by simp), length_leBytes, fieldAt_skip _ _ (by simp), length_leBytes,
      fieldAt_leBytes _ (by omega)]
  · rw [fieldAt_skip _ _ (by simp), length_leBytes, fieldAt_skip _ _ (by simp), length_leBytes,
      fieldAt_skip _ _ (by simp), length_leBytes, fieldAt_leBytes _ (by omega)]
  · rw [fieldAt_skip _ _ (by simp), length_leBytes, fieldAt_skip _ _ (by simp), length_leBytes,
      fieldAt_skip _ _ (by simp), length_leBytes, fieldAt_skip _ _ (by simp), length_leBytes,
      fieldAt_leBytes _ (by omega)]
  · rw [fieldAt_skip _ _ (by simp), length_leBytes, fieldAt_skip _ _ (by simp), length_leBytes,
      fieldAt_skip _ _ (by simp), length_leBytes, fieldAt_skip _ _ (by simp), length_leBytes,
      fieldAt_skip _ _ (by simp), length_leBytes, fieldAt_leBytes]
    simpa [computeFrameCrc, packHeader] using crcBound
  · rw [← List.append_assoc, ← List.append_assoc, ← List.append_assoc, ← List.append_assoc,
      ← List.append_assoc]
    exact List.drop_left' (by simp [usmpHeaderSize])

/-- The frame that `encodeFrame` describes. -/
def sentFrame (type : PacketType) (payload : Bytes) (seq : Nat) : USMPFrame :=
  { magic := usmpMagic
    version := usmpVersion
    type := type
    seq := seq
    length := payload.length
    crc := computeFrameCrc usmpMagic usmpVersion type.toNat seq payload.length payload
    payload := payload }

/-- Decoding an encoded frame, whatever bytes follow it, gives the frame back. -/
theorem decodeFrame_frameBytes (type : PacketType) (payload rest : Bytes) {seq : Nat}
    (verifyCrc : Bool) (seqBound : seq ≤ maxSeq) (fits : payload.length ≤ usmpMaxPayload) :
    decodeFrame (frameBytes type payload seq ++ rest) verifyCrc =
      .ok (sentFrame type payload seq) := by
  obtain ⟨magic, version, typeByte, seqField, length, crc, body⟩ :=
    fieldAt_frameBytes type payload rest seqBound fits
  have size : (frameBytes type payload seq ++ rest).length =
      usmpHeaderSize + payload.length + rest.length := by
    rw [List.length_append, length_frameBytes]
  have longEnough : ¬ usmpHeaderSize + payload.length + rest.length < usmpHeaderSize := by omega
  have complete :
      ¬ usmpHeaderSize + payload.length + rest.length < usmpHeaderSize + payload.length := by
    omega
  have notLarge : ¬ payload.length > usmpMaxPayload := by omega
  simp only [decodeFrame, magic, version, typeByte, seqField, length, crc, body, size,
    longEnough, complete, notLarge, if_false, ne_eq, not_true_eq_false, List.take_left,
    and_false, PacketType.ofNat?_toNat]
  rfl

theorem encodeFrame_ok {type : PacketType} {payload : Bytes} {seq : Nat}
    (seqBound : seq ≤ maxSeq) (fits : payload.length ≤ usmpMaxPayload) :
    encodeFrame type payload seq = .ok (frameBytes type payload seq) := by
  have notLarge : ¬ payload.length > usmpMaxPayload := by omega
  have inRange : ¬ seq > maxSeq := by omega
  have version : ¬ usmpVersion > 255 := by decide
  simp only [encodeFrame, notLarge, inRange, version, if_false]

/-- What `decode_frame` returns has the fields of the header. -/
theorem decodeFrame_fields {data : Bytes} {verifyCrc : Bool} {frame : USMPFrame}
    (decoded : decodeFrame data verifyCrc = .ok frame) :
    frame.type.toNat = fieldAt data 3 1 ∧ frame.seq = fieldAt data 4 4 ∧
      frame.length = fieldAt data 8 2 ∧ frame.payload.length = frame.length := by
  simp only [decodeFrame] at decoded
  repeat' split at decoded
  all_goals cases decoded
  rename_i short _ _ _ isType
  rw [Nat.not_lt] at short
  refine ⟨PacketType.toNat_of_ofNat? isType, rfl, rfl, ?_⟩
  simp only [List.length_take, List.length_drop]
  omega

/-! ## Reading from a stream -/

/-- What `read_frame` checks on the 12 header bytes before it asks for the
payload: the declared payload length, or the exception. -/
def readFrameLength (header : Bytes) : Except Exn Nat :=
  let magic := fieldAt header 0 2
  let length := fieldAt header 8 2
  if magic ≠ usmpMagic then
    .error ⟨.magicError, s!"Bad magic: 0x{hex4 magic}"⟩
  else if length > usmpMaxPayload then
    .error ⟨.payloadError, s!"Payload too large: {length}"⟩
  else
    .ok length

/-- Where a call of `read_frame` is after it used what the buffer holds. -/
inductive ReadProgress where
  /-- Suspended in `readexactly`: for the header, or for the payload that
  belongs to the header it has taken. -/
  | suspended (pending : Option Bytes)
  | finished (result : Except Exn USMPFrame)

/-- The second `readexactly` and the decoding.  A declared length of 0 asks for
nothing. -/
def readFramePayload (verifyCrc : Bool) (header : Bytes) (length : Nat) (buffer : Bytes) :
    ReadProgress × Bytes :=
  if buffer.length < length then
    (.suspended (some header), buffer)
  else
    (.finished (decodeFrame (header ++ buffer.take length) verifyCrc), buffer.drop length)

/-- Resume `read_frame` where it is suspended and run it as far as the buffer
allows.  The second component is what is left of the buffer. -/
def readFrame (verifyCrc : Bool) (pending : Option Bytes) (buffer : Bytes) :
    ReadProgress × Bytes :=
  match pending with
  | some header => readFramePayload verifyCrc header (fieldAt header 8 2) buffer
  | none =>
      if buffer.length < usmpHeaderSize then
        (.suspended none, buffer)
      else
        let header := buffer.take usmpHeaderSize
        let rest := buffer.drop usmpHeaderSize
        match readFrameLength header with
        | .error exn => (.finished (.error exn), rest)
        | .ok length => readFramePayload verifyCrc header length rest

theorem fieldAt_take {data : Bytes} {offset width size : Nat} (inside : offset + width ≤ size) :
    fieldAt (data.take size) offset width = fieldAt data offset width := by
  rw [fieldAt, fieldAt, List.drop_take, List.take_take, Nat.min_eq_left (by omega)]

/-- The header check on the header of an encoded frame. -/
theorem readFrameLength_frameBytes (type : PacketType) (payload : Bytes) {seq : Nat}
    (seqBound : seq ≤ maxSeq) (fits : payload.length ≤ usmpMaxPayload) :
    readFrameLength ((frameBytes type payload seq).take usmpHeaderSize) = .ok payload.length ∧
      fieldAt ((frameBytes type payload seq).take usmpHeaderSize) 8 2 = payload.length := by
  obtain ⟨magic, _, _, _, length, _, _⟩ := fieldAt_frameBytes type payload [] seqBound fits
  simp only [List.append_nil] at magic length
  have isMagic : fieldAt ((frameBytes type payload seq).take usmpHeaderSize) 0 2 = usmpMagic := by
    rw [fieldAt_take (by decide), magic]
  have isLength : fieldAt ((frameBytes type payload seq).take usmpHeaderSize) 8 2 =
      payload.length := by
    rw [fieldAt_take (by decide), length]
  have notLarge : ¬ payload.length > usmpMaxPayload := by omega
  exact ⟨by simp [readFrameLength, isMagic, isLength, notLarge], isLength⟩

/-- The payload part of `read_frame` on a stream that begins with an encoded frame. -/
theorem readFramePayload_frameBytes (verifyCrc : Bool) (type : PacketType)
    {payload buffer more rest : Bytes}
    {seq : Nat} (seqBound : seq ≤ maxSeq) (fits : payload.length ≤ usmpMaxPayload)
    (stream : (frameBytes type payload seq).take usmpHeaderSize ++ buffer ++ more =
      frameBytes type payload seq ++ rest) :
    (∃ left, readFramePayload verifyCrc ((frameBytes type payload seq).take usmpHeaderSize)
          payload.length buffer = (.finished (.ok (sentFrame type payload seq)), left) ∧
        left ++ more = rest) ∨
      buffer.length < payload.length ∧ more ≠ [] ∧
        readFramePayload verifyCrc ((frameBytes type payload seq).take usmpHeaderSize)
          payload.length buffer =
            (.suspended (some ((frameBytes type payload seq).take usmpHeaderSize)), buffer) := by
  have size := length_frameBytes type payload seq usmpVersion
  have headSize : ((frameBytes type payload seq).take usmpHeaderSize).length =
      usmpHeaderSize := by
    rw [List.length_take, size]
    omega
  by_cases short : buffer.length < payload.length
  · refine .inr ⟨short, ?_, by simp [readFramePayload, short]⟩
    rintro rfl
    have lengths := congrArg List.length stream
    simp only [List.length_append, headSize, size, List.length_nil] at lengths
    omega
  · left
    have body : (frameBytes type payload seq).take usmpHeaderSize ++ buffer.take payload.length =
        frameBytes type payload seq := by
      have prefixes := congrArg (List.take (usmpHeaderSize + payload.length)) stream
      rw [List.append_assoc, List.take_append, headSize, List.take_of_length_le (by omega),
        Nat.add_sub_cancel_left, List.take_append_of_le_length (by omega), ← size,
        List.take_left] at prefixes
      exact prefixes
    refine ⟨buffer.drop payload.length, ?_, ?_⟩
    · have decoded := decodeFrame_frameBytes type payload [] verifyCrc seqBound fits
      rw [List.append_nil] at decoded
      simp [readFramePayload, short, body, decoded]
    · rw [← List.take_append_drop payload.length buffer, ← List.append_assoc, body,
        List.append_assoc] at stream
      exact List.append_cancel_left stream

/-- Reading from a stream that begins with an encoded frame, of which a header may
have been taken: either the frame comes out, or the reader waits and nothing is
lost. -/
theorem readFrame_frameBytes (verifyCrc : Bool) (type : PacketType) {header : Option Bytes}
    {payload buffer more rest : Bytes} {seq : Nat} (seqBound : seq ≤ maxSeq)
    (fits : payload.length ≤ usmpMaxPayload)
    (taken : ∀ bytes, header = some bytes → bytes.length = usmpHeaderSize)
    (stream : header.getD [] ++ buffer ++ more = frameBytes type payload seq ++ rest) :
    (∃ left, readFrame verifyCrc header buffer =
          (.finished (.ok (sentFrame type payload seq)), left) ∧ left ++ more = rest) ∨
      more ≠ [] ∧ ∃ header' left, readFrame verifyCrc header buffer = (.suspended header', left) ∧
        (∀ bytes, header' = some bytes → bytes.length = usmpHeaderSize) ∧
        header'.getD [] ++ left = header.getD [] ++ buffer := by
  have size := length_frameBytes type payload seq usmpVersion
  obtain ⟨lengthOk, lengthField⟩ := readFrameLength_frameBytes type payload seqBound fits
  have headSize : ((frameBytes type payload seq).take usmpHeaderSize).length =
      usmpHeaderSize := by
    rw [List.length_take, size]
    omega
  cases header with
  | some bytes =>
      have bytesSize := taken bytes rfl
      have isHead : bytes = (frameBytes type payload seq).take usmpHeaderSize := by
        have heads := congrArg (List.take usmpHeaderSize) stream
        simp only [Option.getD_some, List.append_assoc] at heads
        rw [List.take_append_of_le_length (by omega), List.take_of_length_le (by omega),
          List.take_append_of_le_length (by omega)] at heads
        exact heads
      simp only [Option.getD_some] at stream ⊢
      rw [isHead] at stream ⊢
      simp only [readFrame, lengthField]
      rcases readFramePayload_frameBytes verifyCrc type seqBound fits stream with
        finished | ⟨_, waits, suspended⟩
      · exact .inl finished
      · refine .inr ⟨waits, _, _, suspended, ?_, rfl⟩
        rintro bytes ⟨⟩
        exact headSize
  | none =>
      simp only [Option.getD_none, List.nil_append] at stream ⊢
      simp only [readFrame]
      by_cases short : buffer.length < usmpHeaderSize
      · refine .inr ⟨?_, none, buffer, by simp [short], by simp, by simp⟩
        rintro rfl
        have lengths := congrArg List.length stream
        simp only [List.length_append, size, List.length_nil] at lengths
        omega
      · have isHead : buffer.take usmpHeaderSize =
            (frameBytes type payload seq).take usmpHeaderSize := by
          have heads := congrArg (List.take usmpHeaderSize) stream
          rw [List.take_append_of_le_length (by omega), List.take_append_of_le_length (by omega)]
            at heads
          exact heads
        rw [← List.take_append_drop usmpHeaderSize buffer, isHead] at stream
        rw [if_neg short, isHead, lengthOk]
        simp only
        rcases readFramePayload_frameBytes verifyCrc type seqBound fits stream with
          finished | ⟨_, waits, suspended⟩
        · exact .inl finished
        · refine .inr ⟨waits, _, _, suspended, ?_, ?_⟩
          · rintro bytes ⟨⟩
            exact headSize
          · simp only [Option.getD_some]
            rw [← isHead, List.take_append_drop]

/-- A header that the reader takes is the beginning of what it had. -/
theorem readFrame_takes_header {verifyCrc : Bool} {buffer taken left : Bytes}
    (read : readFrame verifyCrc none buffer = (.suspended (some taken), left)) :
    taken ++ left = buffer ∧ taken.length = usmpHeaderSize := by
  simp only [readFrame] at read
  split at read
  · cases read
  rename_i long
  split at read
  · cases read
  · simp only [readFramePayload] at read
    split at read <;> cases read
    refine ⟨List.take_append_drop _ _, ?_⟩
    rw [List.length_take]
    omega

/-- An empty stream makes the reader wait. -/
theorem readFrame_nil (verifyCrc : Bool) : readFrame verifyCrc none [] = (.suspended none, []) :=
  rfl

end Usmp
