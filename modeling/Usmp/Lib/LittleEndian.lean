import Mathlib.Data.List.Basic
import Mathlib.Algebra.GroupWithZero.Nat

/-!
# Little-endian integers

`leBytes width value` is the value's low `width` bytes, least significant byte
first, and `leNat` reads any byte string back.  On values below `256 ^ width`
and on strings of `width` bytes the two are inverse to each other.
-/

namespace LittleEndian

/-- The `width` low bytes of a value, least significant first. -/
def leBytes : Nat → Nat → List UInt8
  | 0, _ => []
  | width + 1, value => UInt8.ofNat value :: leBytes width (value / 256)

/-- The value of a byte string, least significant byte first. -/
def leNat : List UInt8 → Nat
  | [] => 0
  | byte :: rest => byte.toNat + 256 * leNat rest

@[simp] theorem length_leBytes (width value : Nat) : (leBytes width value).length = width := by
  induction width generalizing value with
  | zero => rfl
  | succ width ih => simp [leBytes, ih]

theorem leNat_leBytes {width value : Nat} (bound : value < 256 ^ width) :
    leNat (leBytes width value) = value := by
  induction width generalizing value with
  | zero => simp [leBytes, leNat]; omega
  | succ width ih =>
      rw [Nat.pow_succ] at bound
      have rest : value / 256 < 256 ^ width := by omega
      simp only [leBytes, leNat, ih rest, UInt8.toNat_ofNat']
      omega

theorem leBytes_leNat (bytes : List UInt8) : leBytes bytes.length (leNat bytes) = bytes := by
  induction bytes with
  | nil => rfl
  | cons byte rest ih =>
      have low : UInt8.ofNat (byte.toNat + 256 * leNat rest) = byte := by
        apply UInt8.toNat_inj.mp
        have := byte.toNat_lt
        simp only [UInt8.toNat_ofNat']
        omega
      have high : (byte.toNat + 256 * leNat rest) / 256 = leNat rest := by
        have := byte.toNat_lt
        omega
      simp only [List.length_cons, leBytes, leNat, low, high, ih]

theorem leNat_lt (bytes : List UInt8) : leNat bytes < 256 ^ bytes.length := by
  induction bytes with
  | nil => simp [leNat]
  | cons byte rest ih =>
      have := byte.toNat_lt
      simp only [leNat, List.length_cons, Nat.pow_succ]
      omega

/-- Equal encodings of values in range come from equal values. -/
theorem leBytes_inj {width left right : Nat} (leftBound : left < 256 ^ width)
    (rightBound : right < 256 ^ width) (equal : leBytes width left = leBytes width right) :
    left = right := by
  rw [← leNat_leBytes leftBound, equal, leNat_leBytes rightBound]

end LittleEndian
