import Usmp.Frame

/-!
# The frame format

`encode_frame` and `decode_frame` are inverse to each other, trailing bytes apart, and
`read_frame` takes from a stream what `decode_frame` takes from the front of its bytes.
-/

namespace Usmp

open LittleEndian

/-- The arguments that `encode_frame` accepts. -/
structure FrameFields where
  type : PacketType
  payload : Bytes
  seq : Nat
  fits : payload.length ≤ usmpMaxPayload
  inRange : seq < 2 ^ 32

namespace FrameFields

theorem seq_le (fields : FrameFields) : fields.seq ≤ maxSeq :=
  Nat.le_of_lt_succ fields.inRange

def bytes (fields : FrameFields) : Bytes :=
  frameBytes fields.type fields.payload fields.seq

/-- What a receiver of these fields gets. -/
def frame (fields : FrameFields) : USMPFrame :=
  sentFrame fields.type fields.payload fields.seq

theorem encodeFrame_eq (fields : FrameFields) :
    encodeFrame fields.type fields.payload fields.seq = .ok fields.bytes :=
  encodeFrame_ok fields.seq_le fields.fits

theorem decodeFrame_append (fields : FrameFields) (rest : Bytes) (verifyCrc : Bool) :
    decodeFrame (fields.bytes ++ rest) verifyCrc = .ok fields.frame :=
  decodeFrame_frameBytes fields.type fields.payload rest verifyCrc fields.seq_le fields.fits

end FrameFields

/-! ## Every field is in the bytes -/

/-- A field of a byte string is packed to the bytes that it was read from. -/
theorem leBytes_fieldAt {data : Bytes} {offset width : Nat}
    (inside : offset + width ≤ data.length) :
    leBytes width (fieldAt data offset width) = (data.drop offset).take width := by
  have size : ((data.drop offset).take width).length = width := by
    rw [List.length_take, List.length_drop]
    omega
  have whole := leBytes_leNat ((data.drop offset).take width)
  rw [size] at whole
  exact whole

/-- The header of a byte string, field by field. -/
theorem take_header {data : Bytes} (long : usmpHeaderSize ≤ data.length) :
    data.take usmpHeaderSize =
      packHeader (fieldAt data 0 2) (fieldAt data 2 1) (fieldAt data 3 1) (fieldAt data 4 4) ++
        leBytes 2 (fieldAt data 8 2) ++ leBytes 2 (fieldAt data 10 2) := by
  have next : ∀ offset width, data.take (offset + width) =
      data.take offset ++ (data.drop offset).take width := fun offset width => List.take_add
  have size : 12 ≤ data.length := long
  rw [packHeader, leBytes_fieldAt (by omega), leBytes_fieldAt (by omega),
    leBytes_fieldAt (by omega), leBytes_fieldAt (by omega), leBytes_fieldAt (by omega),
    leBytes_fieldAt (by omega), List.drop_zero, ← next 2 1, ← next 3 1, ← next 4 4, ← next 8 2,
    ← next 10 2]
  rfl

/-- What `decode_frame` accepts satisfies its checks. -/
structure Decoded (data : Bytes) (verifyCrc : Bool) (frame : USMPFrame) : Prop where
  magic : fieldAt data 0 2 = usmpMagic ∧ frame.magic = usmpMagic
  version : fieldAt data 2 1 = usmpVersion ∧ frame.version = usmpVersion
  type : fieldAt data 3 1 = frame.type.toNat
  seq : fieldAt data 4 4 = frame.seq
  length : fieldAt data 8 2 = frame.length
  crc : fieldAt data 10 2 = frame.crc
  fits : frame.length ≤ usmpMaxPayload
  complete : usmpHeaderSize + frame.length ≤ data.length
  payload : frame.payload = (data.drop usmpHeaderSize).take frame.length
  verified : verifyCrc = true → frame.crc =
    computeFrameCrc usmpMagic usmpVersion frame.type.toNat frame.seq frame.length frame.payload

theorem decoded_of_decodeFrame {data : Bytes} {verifyCrc : Bool} {frame : USMPFrame}
    (decoded : decodeFrame data verifyCrc = .ok frame) : Decoded data verifyCrc frame := by
  simp only [decodeFrame] at decoded
  split at decoded
  · cases decoded
  split at decoded
  · cases decoded
  rename_i isMagic
  split at decoded
  · cases decoded
  rename_i isVersion
  split at decoded
  · cases decoded
  rename_i fits
  split at decoded
  · cases decoded
  rename_i complete
  split at decoded
  · cases decoded
  rename_i verified
  split at decoded
  · cases decoded
  rename_i type isType
  cases decoded
  have sameType := PacketType.toNat_of_ofNat? isType
  have magic := not_not.mp isMagic
  have version := not_not.mp isVersion
  constructor
  case magic => exact ⟨magic, magic⟩
  case version => exact ⟨version, version⟩
  case type => exact sameType.symm
  case fits => exact Nat.not_lt.mp fits
  case complete => exact Nat.not_lt.mp complete
  case verified =>
    intro verifies
    have same : fieldAt data 10 2 = _ := not_not.mp fun differs => verified ⟨verifies, differs⟩
    rw [magic, version] at same
    dsimp only
    rw [sameType]
    exact same
  all_goals rfl

theorem Decoded.length_payload {data : Bytes} {verifyCrc : Bool} {frame : USMPFrame}
    (decoded : Decoded data verifyCrc frame) : frame.payload.length = frame.length := by
  have complete := decoded.complete
  rw [decoded.payload, List.length_take, List.length_drop]
  omega

theorem Decoded.seq_lt {data : Bytes} {verifyCrc : Bool} {frame : USMPFrame}
    (decoded : Decoded data verifyCrc frame) : frame.seq < 2 ^ 32 := by
  have bound := leNat_lt ((data.drop 4).take 4)
  have size : ((data.drop 4).take 4).length = 4 := by
    have complete := decoded.complete
    simp only [usmpHeaderSize] at complete
    rw [List.length_take, List.length_drop]
    omega
  rw [size] at bound
  rw [← decoded.seq]
  exact bound

/-- The front of what `decode_frame` accepts is the encoding of what it returns. -/
theorem Decoded.take_eq {data : Bytes} {frame : USMPFrame} (decoded : Decoded data true frame) :
    data.take (usmpHeaderSize + frame.length) =
      frameBytes frame.type frame.payload frame.seq := by
  have complete := decoded.complete
  have header := take_header (Nat.le_trans (Nat.le_add_right _ _) complete)
  rw [decoded.magic.1, decoded.version.1, decoded.type, decoded.seq, decoded.length,
    decoded.crc, decoded.verified rfl] at header
  calc data.take (usmpHeaderSize + frame.length)
      = data.take usmpHeaderSize ++ (data.drop usmpHeaderSize).take frame.length :=
        List.take_add
    _ = frameBytes frame.type frame.payload frame.seq := by
        rw [header, ← decoded.payload, frameBytes, decoded.length_payload]

theorem Decoded.encodeFrame_eq {data : Bytes} {frame : USMPFrame}
    (decoded : Decoded data true frame) :
    encodeFrame frame.type frame.payload frame.seq =
      .ok (data.take (usmpHeaderSize + frame.length)) := by
  rw [decoded.take_eq]
  apply encodeFrame_ok
  · exact Nat.le_of_lt_succ decoded.seq_lt
  · rw [decoded.length_payload]
    exact decoded.fits

/-- Decoding undoes encoding, whatever follows the frame, and what decodes under the CRC check
is the encoding of what it decodes to: each frame has exactly one encoding. -/
theorem codec_exact :
    (∀ fields : FrameFields, ∃ data,
        encodeFrame fields.type fields.payload fields.seq = .ok data ∧
          ∀ rest verifyCrc, ∃ frame, decodeFrame (data ++ rest) verifyCrc = .ok frame ∧
            frame.type = fields.type ∧ frame.payload = fields.payload ∧ frame.seq = fields.seq ∧
            frame.length = fields.payload.length ∧ frame.magic = usmpMagic ∧
            frame.version = usmpVersion) ∧
      (∀ data frame, decodeFrame data true = .ok frame →
        encodeFrame frame.type frame.payload frame.seq =
          .ok (data.take (usmpHeaderSize + frame.length))) ∧
      ∀ data data' frame, decodeFrame data true = .ok frame → decodeFrame data' true = .ok frame →
        data.take (usmpHeaderSize + frame.length) =
          data'.take (usmpHeaderSize + frame.length) := by
  constructor
  · intro fields
    exact ⟨fields.bytes, fields.encodeFrame_eq, fun rest verifyCrc =>
      ⟨fields.frame, fields.decodeFrame_append rest verifyCrc, rfl, rfl, rfl, rfl, rfl, rfl⟩⟩
  constructor
  · intro data frame decoded
    exact (decoded_of_decodeFrame decoded).encodeFrame_eq
  · intro data data' frame decoded decoded'
    rw [(decoded_of_decodeFrame decoded).take_eq, (decoded_of_decodeFrame decoded').take_eq]

-- a DATA frame that is followed by a byte of something else
example : ((encodeFrame .data [0x70, 0x69] 7).bind fun data => decodeFrame (data ++ [0xCD])).map
    USMPFrame.payload = .ok [0x70, 0x69] := by
  decide +kernel

/-! ## The stream reader -/

/-- The two checks that `read_frame` makes on the header are checks of `decode_frame`, and what
it hands to `decode_frame` is the front of the stream. -/
theorem readFrame_complete {data : Bytes} (verifyCrc : Bool)
    (magic : fieldAt data 0 2 = usmpMagic) (fits : fieldAt data 8 2 ≤ usmpMaxPayload)
    (complete : usmpHeaderSize + fieldAt data 8 2 ≤ data.length) :
    readFrame verifyCrc none data =
      (.finished (decodeFrame (data.take (usmpHeaderSize + fieldAt data 8 2)) verifyCrc),
        data.drop (usmpHeaderSize + fieldAt data 8 2)) := by
  have long : ¬ data.length < usmpHeaderSize := by omega
  have checked : readFrameLength (data.take usmpHeaderSize) = .ok (fieldAt data 8 2) := by
    rw [readFrameLength, fieldAt_take (by decide), fieldAt_take (by decide)]
    simp only [magic, ne_eq, not_true_eq_false, if_false, Nat.not_lt.mpr fits]
  have enough : ¬ (data.drop usmpHeaderSize).length < fieldAt data 8 2 := by
    rw [List.length_drop]
    omega
  simp only [readFrame, long, if_false, checked, readFramePayload, enough, ← List.take_add,
    List.drop_drop]

/-- What `read_frame` raises on a header, having taken nothing else. -/
theorem readFrame_badHeader {data : Bytes} (verifyCrc : Bool) {exn : Exn}
    (long : usmpHeaderSize ≤ data.length)
    (bad : readFrameLength (data.take usmpHeaderSize) = .error exn) :
    readFrame verifyCrc none data = (.finished (.error exn), data.drop usmpHeaderSize) := by
  simp only [readFrame, Nat.not_lt.mpr long, if_false, bad]

theorem readFrame_badMagic {data : Bytes} (verifyCrc : Bool) (long : usmpHeaderSize ≤ data.length)
    (bad : fieldAt data 0 2 ≠ usmpMagic) :
    readFrame verifyCrc none data =
      (.finished (.error ⟨.magicError, s!"Bad magic: 0x{hex4 (fieldAt data 0 2)}"⟩),
        data.drop usmpHeaderSize) := by
  apply readFrame_badHeader verifyCrc long
  rw [readFrameLength, fieldAt_take (by decide)]
  exact if_pos bad

theorem readFrame_badLength {data : Bytes} (verifyCrc : Bool)
    (long : usmpHeaderSize ≤ data.length) (magic : fieldAt data 0 2 = usmpMagic)
    (bad : fieldAt data 8 2 > usmpMaxPayload) :
    readFrame verifyCrc none data =
      (.finished (.error ⟨.payloadError, s!"Payload too large: {fieldAt data 8 2}"⟩),
        data.drop usmpHeaderSize) := by
  apply readFrame_badHeader verifyCrc long
  rw [readFrameLength, fieldAt_take (by decide), fieldAt_take (by decide)]
  simp only [magic, ne_eq, not_true_eq_false, if_false, if_pos bad]

/-- A frame comes out only of a header that passes both checks and a complete payload. -/
theorem complete_of_readFrame {verifyCrc : Bool} {data left : Bytes} {frame : USMPFrame}
    (read : readFrame verifyCrc none data = (.finished (.ok frame), left)) :
    fieldAt data 0 2 = usmpMagic ∧ fieldAt data 8 2 ≤ usmpMaxPayload ∧
      usmpHeaderSize + fieldAt data 8 2 ≤ data.length := by
  by_cases long : data.length < usmpHeaderSize
  · simp only [readFrame, if_pos long] at read
    cases read
  rw [Nat.not_lt] at long
  by_cases magic : fieldAt data 0 2 = usmpMagic
  swap
  · rw [readFrame_badMagic verifyCrc long magic] at read
    cases read
  by_cases fits : fieldAt data 8 2 > usmpMaxPayload
  · rw [readFrame_badLength verifyCrc long magic fits] at read
    cases read
  rw [Nat.not_lt] at fits
  refine ⟨magic, fits, ?_⟩
  by_cases enough : (data.drop usmpHeaderSize).length < fieldAt data 8 2
  · have checked : readFrameLength (data.take usmpHeaderSize) = .ok (fieldAt data 8 2) := by
      rw [readFrameLength, fieldAt_take (by decide), fieldAt_take (by decide)]
      simp only [magic, ne_eq, not_true_eq_false, if_false, Nat.not_lt.mpr fits]
    simp only [readFrame, Nat.not_lt.mpr long, if_false, checked, readFramePayload,
      if_pos enough] at read
    cases read
  · rw [List.length_drop] at enough
    omega

/-- A frame that `read_frame` returns is the one that `decode_frame` finds in the bytes that
were taken for it, and conversely. -/
theorem readFrame_eq_ok_iff {verifyCrc : Bool} {data : Bytes} {frame : USMPFrame} {taken : Nat} :
    (readFrame verifyCrc none data = (.finished (.ok frame), data.drop taken) ∧
        taken ≤ data.length) ↔
      taken = usmpHeaderSize + frame.length ∧
        decodeFrame (data.take taken) verifyCrc = .ok frame := by
  constructor
  · intro result
    rcases result with ⟨read, inside⟩
    rcases complete_of_readFrame read with ⟨magic, fits, complete⟩
    rw [readFrame_complete verifyCrc magic fits complete] at read
    injection read with decoded left
    injection decoded with decoded
    have declared : frame.length = fieldAt data 8 2 := by
      rw [(decodeFrame_fields decoded).2.2.1, fieldAt_take]
      exact Nat.le_add_right_of_le (by decide)
    have lengths := congrArg List.length left
    rw [List.length_drop, List.length_drop] at lengths
    have isTaken : taken = usmpHeaderSize + fieldAt data 8 2 := by omega
    rw [isTaken, declared]
    exact ⟨rfl, decoded⟩
  · intro result
    rcases result with ⟨isTaken, decoded⟩
    have accepted := decoded_of_decodeFrame decoded
    have complete := accepted.complete
    rw [List.length_take] at complete
    have within : ∀ offset width, offset + width ≤ usmpHeaderSize →
        fieldAt (data.take taken) offset width = fieldAt data offset width := by
      intro offset width inside
      apply fieldAt_take
      omega
    have declared : fieldAt data 8 2 = frame.length := by
      rw [← within 8 2 (by decide)]
      exact accepted.length
    have magic : fieldAt data 0 2 = usmpMagic := by
      rw [← within 0 2 (by decide)]
      exact accepted.magic.1
    have fits : fieldAt data 8 2 ≤ usmpMaxPayload := by
      rw [declared]
      exact accepted.fits
    have inside : taken ≤ data.length := by omega
    rw [readFrame_complete verifyCrc magic fits (by omega), declared, ← isTaken, decoded]
    exact ⟨rfl, inside⟩

/-- Read that many frames, one after the other. -/
def readFrames (verifyCrc : Bool) : Nat → Bytes → Option (List USMPFrame × Bytes)
  | 0, buffer => some ([], buffer)
  | count + 1, buffer =>
      match readFrame verifyCrc none buffer with
      | (.finished (.ok frame), left) =>
          match readFrames verifyCrc count left with
          | some (frames, rest) => some (frame :: frames, rest)
          | none => none
      | _ => none

theorem FrameFields.readFrame_append (fields : FrameFields) (rest : Bytes) (verifyCrc : Bool) :
    readFrame verifyCrc none (fields.bytes ++ rest) = (.finished (.ok fields.frame), rest) := by
  have decoded := fields.decodeFrame_append [] verifyCrc
  rw [List.append_nil] at decoded
  have size : fields.bytes.length = usmpHeaderSize + fields.frame.length :=
    length_frameBytes fields.type fields.payload fields.seq usmpVersion
  have front : decodeFrame ((fields.bytes ++ rest).take fields.bytes.length) verifyCrc =
      .ok fields.frame := by
    rw [List.take_left]
    exact decoded
  have read := (readFrame_eq_ok_iff.mpr ⟨size, front⟩).1
  rw [List.drop_left] at read
  exact read

theorem readFrames_flatMap (verifyCrc : Bool) (all : List FrameFields) (rest : Bytes) :
    readFrames verifyCrc all.length (all.flatMap FrameFields.bytes ++ rest) =
      some (all.map FrameFields.frame, rest) := by
  induction all with
  | nil => rfl
  | cons fields others ih =>
      rw [List.flatMap_cons, List.append_assoc, List.length_cons, readFrames,
        fields.readFrame_append]
      simp only [ih, List.map_cons]

/-- `read_frame` returns a frame exactly where `decode_frame` finds one in the bytes that it
takes, it takes only the header when that is bad, and it splits a stream of frames as they were
encoded. -/
theorem reader_agrees :
    (∀ verifyCrc data frame taken,
        (readFrame verifyCrc none data = (.finished (.ok frame), data.drop taken) ∧
            taken ≤ data.length) ↔
          taken = usmpHeaderSize + frame.length ∧
            decodeFrame (data.take taken) verifyCrc = .ok frame) ∧
      (∀ verifyCrc data, usmpHeaderSize ≤ data.length →
        (fieldAt data 0 2 ≠ usmpMagic →
          ∃ text, readFrame verifyCrc none data =
            (.finished (.error ⟨.magicError, text⟩), data.drop usmpHeaderSize)) ∧
        (fieldAt data 0 2 = usmpMagic → fieldAt data 8 2 > usmpMaxPayload →
          ∃ text, readFrame verifyCrc none data =
            (.finished (.error ⟨.payloadError, text⟩), data.drop usmpHeaderSize))) ∧
      (∀ fields : FrameFields,
        encodeFrame fields.type fields.payload fields.seq = .ok fields.bytes) ∧
      ∀ verifyCrc (all : List FrameFields),
        readFrames verifyCrc all.length (all.flatMap FrameFields.bytes) =
          some (all.map FrameFields.frame, []) := by
  constructor
  · intro verifyCrc data frame taken
    exact readFrame_eq_ok_iff
  constructor
  · intro verifyCrc data long
    constructor
    · intro bad
      exact ⟨_, readFrame_badMagic verifyCrc long bad⟩
    · intro magic bad
      exact ⟨_, readFrame_badLength verifyCrc long magic bad⟩
  constructor
  · exact FrameFields.encodeFrame_eq
  · intro verifyCrc all
    have read := readFrames_flatMap verifyCrc all []
    rw [List.append_nil] at read
    exact read

end Usmp
