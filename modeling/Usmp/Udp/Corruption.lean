import Usmp.Lib.Crc
import Usmp.Codec
import Usmp.Udp.Feed
import Usmp.Sample

/-!
# Corrupted datagrams

A short change of an encoded frame is caught: in the length by the size check of `feed_packet`,
in the magic or version by the checks on them, and everywhere else by the checksum.
-/

namespace Usmp

open LittleEndian Crc

/-! ## The checksum of a frame -/

theorem crc16_eq_foldl (data : Bytes) : crc16 data = data.foldl (absorb 0xA001) 0xFFFF := rfl

theorem crc16_generator : Generator 15 0xA001 := ⟨by decide, by decide⟩

theorem crc16_ne_of_burst {left right : Bytes} (burst : Burst 16 left right) :
    crc16 left ≠ crc16 right := by
  rw [crc16_eq_foldl, crc16_eq_foldl]
  exact crc16_generator.foldl_absorb_ne burst 0xFFFF

/-- The first ten bytes of a header, their checksum with the payload, and the payload. -/
def sealBytes (head payload : Bytes) : Bytes :=
  head ++ (leBytes 2 (crc16 (head ++ payload)) ++ payload)

theorem frameBytes_eq_sealBytes (type : PacketType) (payload : Bytes) (seq version : Nat) :
    ∃ head, head.length = 10 ∧ frameBytes type payload seq version = sealBytes head payload := by
  refine ⟨packHeader usmpMagic version type.toNat seq ++ leBytes 2 payload.length, ?_, ?_⟩
  · rw [List.length_append, length_packHeader, length_leBytes]
  · rw [frameBytes, sealBytes, computeFrameCrc, List.append_assoc _ (leBytes 2 _) payload]

theorem sealBytes_of_encodeFrame {type : PacketType} {payload data : Bytes} {seq version : Nat}
    (encoded : encodeFrame type payload seq version = .ok data) :
    ∃ head, head.length = 10 ∧ data = sealBytes head payload := by
  simp only [encodeFrame] at encoded
  split at encoded
  · cases encoded
  split at encoded
  · cases encoded
  split at encoded
  · cases encoded
  cases encoded
  exact frameBytes_eq_sealBytes type payload seq version

/-! ## Corruption -/

inductive Region where
  | header
  | crc
  | payload
  deriving DecidableEq, Repr

/-- The bytes of a frame that a region consists of.  Its header ends before the checksum. -/
def Region.Covers : Region → Nat → Prop
  | .header, byte => byte < 10
  | .crc, byte => 10 ≤ byte ∧ byte < 12
  | .payload, byte => 12 ≤ byte

/-- A change that keeps the size and is confined to 16 consecutive bits of one region. -/
structure Corruption (data changed : Bytes) : Prop where
  burst : Burst 16 data changed
  oneRegion : ∃ region : Region, ∀ i, bitAt data i ≠ bitAt changed i → region.Covers (i / 8)

/-- A burst in the payload alone. -/
theorem Corruption.of_payload {header payload payload' : Bytes}
    (size : header.length = usmpHeaderSize) (burst : Burst 16 payload payload') :
    Corruption (header ++ payload) (header ++ payload') := by
  refine ⟨burst.append_left header, .payload, ?_⟩
  intro i differs
  rw [bitAt_append, bitAt_append] at differs
  split at differs
  · exact absurd rfl differs
  · rename_i outside
    simp only [usmpHeaderSize] at size
    rw [size] at outside
    simp only [Region.Covers]
    omega

/-- No corruption leads from one sealed frame to another. -/
theorem not_corruption_sealBytes {head head' payload payload' : Bytes}
    (headSize : head.length = 10) (headSize' : head'.length = 10)
    (corruption : Corruption (sealBytes head payload) (sealBytes head' payload')) : False := by
  have burst := corruption.burst
  rcases corruption.oneRegion with ⟨region, covers⟩
  have same : ∀ i, ¬ region.Covers (i / 8) →
      bitAt (sealBytes head payload) i = bitAt (sealBytes head' payload') i := fun i outside =>
    not_not.mp fun differs => outside (covers i differs)
  have size := burst.size
  simp only [sealBytes, List.length_append, length_leBytes, headSize, headSize'] at size
  have payloadSize : payload.length = payload'.length := by omega
  have sums : leBytes 2 (crc16 (head ++ payload)) = leBytes 2 (crc16 (head' ++ payload')) →
      crc16 (head ++ payload) = crc16 (head' ++ payload') :=
    leBytes_inj (crc16_lt _) (crc16_lt _)
  have frontSize : (head ++ leBytes 2 (crc16 (head ++ payload))).length =
      (head' ++ leBytes 2 (crc16 (head' ++ payload'))).length := by
    rw [List.length_append, List.length_append, length_leBytes, length_leBytes, headSize, headSize']
  cases region with
  | header =>
      have rest := rest_eq_of_bitAt (headSize.trans headSize'.symm)
        (by simp only [List.length_append, length_leBytes, payloadSize])
        fun i high => same i (by simp only [Region.Covers]; omega)
      rcases List.append_inj rest rfl with ⟨sum, rfl⟩
      rw [sealBytes, sealBytes, ← rest] at burst
      exact crc16_ne_of_burst (burst.of_append_right.append_right payload) (sums sum)
  | crc =>
      have sameHead := front_eq_of_bitAt (headSize.trans headSize'.symm)
        fun i low => same i (by simp only [Region.Covers]; omega)
      subst sameHead
      rw [sealBytes, sealBytes, ← List.append_assoc, ← List.append_assoc] at same
      have samePayload := rest_eq_of_bitAt frontSize payloadSize
        fun i high => same i (by
          rw [List.length_append, length_leBytes] at high
          simp only [Region.Covers]
          omega)
      exact burst.differ (by rw [samePayload])
  | payload =>
      rw [sealBytes, sealBytes, ← List.append_assoc, ← List.append_assoc] at same burst
      have front := front_eq_of_bitAt frontSize fun i low => same i (by
        rw [List.length_append, length_leBytes] at low
        simp only [Region.Covers]
        omega)
      rcases List.append_inj front (headSize.trans headSize'.symm) with ⟨rfl, sum⟩
      rw [← sum] at burst
      exact crc16_ne_of_burst (burst.of_append_left.append_left head) (sums sum)

/-- A frame that is read from a fresh stream is the datagram that was fed. -/
theorem decoded_of_fresh {P : Primitives} {isServer : Bool} {data left : Bytes}
    {frame : USMPFrame}
    (read : readFrame true none (({ isServer } : UDPStream).feedPacket P data).1.readBuffer =
      (.finished (.ok frame), left)) :
    data = frameBytes frame.type frame.payload frame.seq := by
  rcases feedPacket_readBuffer P { isServer } data with kept | ⟨isFrame, buffered⟩
  · rw [kept] at read
    cases read
  · have whole := readFrame_datagram true isFrame []
    rw [List.append_nil] at whole
    rw [buffered, List.nil_append, whole] at read
    injection read with decoded _
    injection decoded with decoded
    have accepted := decoded_of_decodeFrame decoded
    have size : data.length = usmpHeaderSize + frame.length := by
      rw [isFrame.size, lengthOf, accepted.length]
    rw [← accepted.take_eq, ← size, List.take_length]

/-- A corrupted frame is never read as a frame. -/
theorem corrupted_rejected (P : Primitives) (isServer : Bool) {type : PacketType}
    {payload data changed : Bytes} {seq version : Nat}
    (encoded : encodeFrame type payload seq version = .ok data)
    (corruption : Corruption data changed) (frame : USMPFrame) (left : Bytes) :
    readFrame true none (({ isServer } : UDPStream).feedPacket P changed).1.readBuffer ≠
      (.finished (.ok frame), left) := by
  intro read
  rcases sealBytes_of_encodeFrame encoded with ⟨head, headSize, isData⟩
  rcases frameBytes_eq_sealBytes frame.type frame.payload frame.seq usmpVersion with
    ⟨head', headSize', isFrame⟩
  have isChanged := (decoded_of_fresh read).trans isFrame
  subst isData isChanged
  exact not_corruption_sealBytes headSize headSize' corruption

/-- The header of a DATA frame with the payload `[0x70]`. -/
def sampleHeader : Bytes := [0xCD, 0xAB, 2, 5, 7, 0, 0, 0, 1, 0, 73, 151]

/-- One bit of the payload is flipped. -/
theorem corrupted_rejected_bitFlip :
    readFrame true none (({ isServer := true } : UDPStream).feedPacket samplePrimitives
      (sampleHeader ++ [0x78])).1.readBuffer ≠
        (.finished (.ok (sentFrame .data [0x78] 7)), []) := by
  have encoded : encodeFrame .data [0x70] 7 = .ok (sampleHeader ++ [0x70]) := by
    decide +kernel
  have burst : Burst 16 [0x70] [0x78] := Burst.of_length_le rfl (by decide) (by decide)
  have corruption : Corruption (sampleHeader ++ [0x70]) (sampleHeader ++ [0x78]) :=
    Corruption.of_payload rfl burst
  exact corrupted_rejected samplePrimitives true encoded corruption _ _

end Usmp
