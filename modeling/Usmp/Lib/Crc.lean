import Usmp.Lib.LittleEndian
import Mathlib.Logic.Function.Iterate
import Mathlib.Data.Nat.Bitwise

/-!
# Reflected cyclic redundancy checks

A reflected CRC shifts its register to the right once for each bit and mixes the polynomial in
when a one falls out.  Each shift is linear, so the registers after two messages differ by the
shifts of their difference, and a difference as short as the register is never lost.
-/

namespace Crc

open LittleEndian

/-! ## Bits of byte strings -/

/-- Bit `i` of a byte string, the least significant bit of a byte first. -/
def bitAt (bytes : List UInt8) (i : Nat) : Bool :=
  (bytes.getD (i / 8) 0).toNat.testBit (i % 8)

theorem testBit_leNat (bytes : List UInt8) (i : Nat) :
    (leNat bytes).testBit i = bitAt bytes i := by
  induction bytes generalizing i with
  | nil =>
      rw [leNat, Nat.zero_testBit, bitAt, List.getD_nil]
      exact (Nat.zero_testBit _).symm
  | cons byte rest ih =>
      have value : leNat (byte :: rest) = 2 ^ 8 * leNat rest + byte.toNat := by
        rw [leNat]
        omega
      rw [value, Nat.testBit_two_pow_mul_add _ byte.toNat_lt]
      split
      · rename_i low
        rw [bitAt, Nat.div_eq_of_lt low, Nat.mod_eq_of_lt low]
        rfl
      · rename_i high
        rw [Nat.not_lt] at high
        have index : i / 8 = (i - 8) / 8 + 1 := by omega
        have bit : i % 8 = (i - 8) % 8 := by omega
        rw [ih, bitAt, bitAt, index, bit, List.getD_cons_succ]

theorem bitAt_append (front rest : List UInt8) (i : Nat) :
    bitAt (front ++ rest) i =
      if i < 8 * front.length then bitAt front i else bitAt rest (i - 8 * front.length) := by
  unfold bitAt
  split
  · rename_i inside
    rw [List.getD_append _ _ _ _ (by omega)]
  · rename_i outside
    have index : i / 8 - front.length = (i - 8 * front.length) / 8 := by omega
    have bit : i % 8 = (i - 8 * front.length) % 8 := by omega
    rw [List.getD_append_right _ _ _ _ (by omega), index, bit]

theorem bitAt_of_length_le {bytes : List UInt8} {i : Nat} (outside : 8 * bytes.length ≤ i) :
    bitAt bytes i = false := by
  rw [bitAt, List.getD_eq_default _ _ (by omega)]
  exact Nat.zero_testBit _

theorem eq_of_bitAt {left right : List UInt8} (size : left.length = right.length)
    (bits : ∀ i, bitAt left i = bitAt right i) : left = right := by
  have values : leNat left = leNat right := by
    apply Nat.eq_of_testBit_eq
    intro i
    rw [testBit_leNat, testBit_leNat, bits]
  rw [← leBytes_leNat left, ← leBytes_leNat right, size, values]

theorem front_eq_of_bitAt {front front' rest rest' : List UInt8}
    (size : front.length = front'.length)
    (bits : ∀ i, i < 8 * front.length → bitAt (front ++ rest) i = bitAt (front' ++ rest') i) :
    front = front' := by
  apply eq_of_bitAt size
  intro i
  by_cases inside : i < 8 * front.length
  · have same := bits i inside
    rw [bitAt_append, bitAt_append, if_pos inside, if_pos (size ▸ inside)] at same
    exact same
  · rw [Nat.not_lt] at inside
    rw [bitAt_of_length_le inside, bitAt_of_length_le (size ▸ inside)]

theorem rest_eq_of_bitAt {front front' rest rest' : List UInt8}
    (size : front.length = front'.length) (restSize : rest.length = rest'.length)
    (bits : ∀ i, 8 * front.length ≤ i → bitAt (front ++ rest) i = bitAt (front' ++ rest') i) :
    rest = rest' := by
  apply eq_of_bitAt restSize
  intro i
  have same := bits (8 * front.length + i) (Nat.le_add_right _ _)
  rw [bitAt_append, bitAt_append, ← size, if_neg (by omega), if_neg (by omega),
    Nat.add_sub_cancel_left] at same
  exact same

/-- The differing bits of two strings of one length lie in a range of `width` bits. -/
structure Burst (width : Nat) (left right : List UInt8) : Prop where
  size : left.length = right.length
  differ : left ≠ right
  narrow : ∃ start, ∀ i, bitAt left i ≠ bitAt right i → start ≤ i ∧ i < start + width

/-- Strings of at most `width` bits can only differ in a burst. -/
theorem Burst.of_length_le {width : Nat} {left right : List UInt8}
    (size : left.length = right.length) (differ : left ≠ right) (short : 8 * left.length ≤ width) :
    Burst width left right := by
  refine ⟨size, differ, 0, ?_⟩
  intro i differs
  refine ⟨Nat.zero_le i, ?_⟩
  by_cases inside : i < 8 * left.length
  · omega
  · rw [Nat.not_lt] at inside
    rw [bitAt_of_length_le inside, bitAt_of_length_le (size ▸ inside)] at differs
    exact absurd rfl differs

theorem Burst.append_right {width : Nat} {left right : List UInt8}
    (burst : Burst width left right) (rest : List UInt8) :
    Burst width (left ++ rest) (right ++ rest) := by
  constructor
  · rw [List.length_append, List.length_append, burst.size]
  · intro same
    exact burst.differ (List.append_cancel_right same)
  · rcases burst.narrow with ⟨start, narrow⟩
    refine ⟨start, ?_⟩
    intro i differs
    apply narrow
    intro same
    apply differs
    rw [bitAt_append, bitAt_append, ← burst.size, same]

theorem Burst.append_left {width : Nat} {left right : List UInt8}
    (burst : Burst width left right) (front : List UInt8) :
    Burst width (front ++ left) (front ++ right) := by
  constructor
  · rw [List.length_append, List.length_append, burst.size]
  · intro same
    exact burst.differ (List.append_cancel_left same)
  · rcases burst.narrow with ⟨start, narrow⟩
    refine ⟨start + 8 * front.length, ?_⟩
    intro i differs
    rw [bitAt_append, bitAt_append] at differs
    split at differs
    · exact absurd rfl differs
    · have inside := narrow _ differs
      omega

theorem Burst.of_append_right {width : Nat} {left right rest : List UInt8}
    (burst : Burst width (left ++ rest) (right ++ rest)) : Burst width left right := by
  have size : left.length = right.length := by
    have whole := burst.size
    rw [List.length_append, List.length_append] at whole
    omega
  refine ⟨size, fun same => burst.differ (by rw [same]), ?_⟩
  rcases burst.narrow with ⟨start, narrow⟩
  refine ⟨start, ?_⟩
  intro i differs
  apply narrow
  rw [bitAt_append, bitAt_append, ← size]
  by_cases inside : i < 8 * left.length
  · rw [if_pos inside, if_pos inside]
    exact differs
  · rw [Nat.not_lt] at inside
    rw [bitAt_of_length_le inside, bitAt_of_length_le (size ▸ inside)] at differs
    exact absurd rfl differs

theorem Burst.of_append_left {width : Nat} {left right front : List UInt8}
    (burst : Burst width (front ++ left) (front ++ right)) : Burst width left right := by
  have size : left.length = right.length := by
    have whole := burst.size
    rw [List.length_append, List.length_append] at whole
    omega
  refine ⟨size, fun same => burst.differ (by rw [same]), ?_⟩
  rcases burst.narrow with ⟨start, narrow⟩
  refine ⟨start - 8 * front.length, ?_⟩
  intro i differs
  have placed := narrow (8 * front.length + i)
  rw [bitAt_append, bitAt_append, if_neg (by omega), if_neg (by omega),
    Nat.add_sub_cancel_left] at placed
  have inside := placed differs
  omega

/-- A burst, as a number: a short pattern that is shifted to its place in the message. -/
theorem Burst.pattern {width : Nat} {left right : List UInt8} (burst : Burst width left right) :
    ∃ start pattern, leNat left ^^^ leNat right = 2 ^ start * pattern ∧ pattern ≠ 0 ∧
      pattern < 2 ^ width ∧ start ≤ 8 * left.length := by
  rcases burst.narrow with ⟨start, narrow⟩
  have outside : ∀ i, i < start ∨ start + width ≤ i →
      (leNat left ^^^ leNat right).testBit i = false := by
    intro i out
    rw [Nat.testBit_xor, testBit_leNat, testBit_leNat]
    by_cases same : bitAt left i = bitAt right i
    · rw [same, Bool.xor_self]
    · have := narrow i same
      omega
  have nonzero : leNat left ^^^ leNat right ≠ 0 := by
    intro zero
    apply burst.differ
    rw [← leBytes_leNat left, ← leBytes_leNat right, burst.size, Nat.xor_eq_zero_iff.mp zero]
  have lowerSize : leNat left < 2 ^ (8 * left.length) := by
    rw [Nat.pow_mul]
    exact leNat_lt left
  have upperSize : leNat right < 2 ^ (8 * left.length) := by
    rw [Nat.pow_mul, burst.size]
    exact leNat_lt right
  have size := Nat.xor_lt_two_pow lowerSize upperSize
  generalize leNat left ^^^ leNat right = difference at outside nonzero size ⊢
  have shifted : difference = 2 ^ start * (difference >>> start) := by
    apply Nat.eq_of_testBit_eq
    intro i
    rw [Nat.testBit_two_pow_mul, Nat.testBit_shiftRight]
    by_cases low : i < start
    · simp [outside i (.inl low), Nat.not_le.mpr low]
    · rw [Nat.not_lt] at low
      simp [low]
  have kept : difference >>> start ≠ 0 := by
    intro zero
    rw [zero, Nat.mul_zero] at shifted
    exact nonzero shifted
  refine ⟨start, difference >>> start, shifted, kept, ?_, ?_⟩
  · apply Nat.lt_pow_two_of_testBit
    intro i high
    rw [Nat.testBit_shiftRight]
    exact outside _ (.inr (by omega))
  · have least : 2 ^ start ≤ difference := by
      rw [shifted]
      exact Nat.le_mul_of_pos_right _ (Nat.pos_of_ne_zero kept)
    apply Nat.le_of_lt
    apply (Nat.pow_lt_pow_iff_right (by decide : 1 < 2)).mp
    exact Nat.lt_of_le_of_lt least size

/-! ## The register -/

/-- One shift of the register. -/
def turn (poly register : Nat) : Nat :=
  if register &&& 1 ≠ 0 then (register >>> 1) ^^^ poly else register >>> 1

/-- Eight shifts, after a byte was mixed in. -/
def absorb (poly register : Nat) (byte : UInt8) : Nat :=
  (turn poly)^[8] (register ^^^ byte.toNat)

theorem turn_eq (poly register : Nat) :
    turn poly register = register >>> 1 ^^^ (if register.testBit 0 then poly else 0) := by
  have lowest : (register &&& 1 ≠ 0) = (register.testBit 0 = true) := by
    rw [Nat.and_one_is_mod, Nat.testBit_zero, decide_eq_true_eq, eq_iff_iff]
    omega
  rw [turn]
  simp only [lowest]
  split
  · rfl
  · rw [Nat.xor_zero]

/-- The shift is linear. -/
theorem turn_xor (poly left right : Nat) :
    turn poly (left ^^^ right) = turn poly left ^^^ turn poly right := by
  rw [turn_eq, turn_eq, turn_eq, Nat.shiftRight_xor_distrib, Nat.testBit_xor]
  cases left.testBit 0 <;> cases right.testBit 0
  · simp
  · simp [Nat.xor_assoc]
  · simp only [Bool.xor_false, if_true, Bool.false_eq_true, if_false, Nat.xor_zero]
    ac_rfl
  · have cancel : left >>> 1 ^^^ poly ^^^ (right >>> 1 ^^^ poly) =
        left >>> 1 ^^^ right >>> 1 ^^^ (poly ^^^ poly) := by
      ac_rfl
    simp only [Bool.xor_self, Bool.false_eq_true, if_false, if_true, cancel, Nat.xor_self]

theorem iterate_turn_xor (poly turns left right : Nat) :
    (turn poly)^[turns] (left ^^^ right) =
      (turn poly)^[turns] left ^^^ (turn poly)^[turns] right := by
  induction turns generalizing left right with
  | zero => rfl
  | succ turns ih => rw [Function.iterate_succ_apply, turn_xor, ih]; rfl

/-- As long as zeros fall out, the register only moves. -/
theorem iterate_turn_two_pow_mul (poly turns register : Nat) :
    (turn poly)^[turns] (2 ^ turns * register) = register := by
  induction turns generalizing register with
  | zero => exact Nat.one_mul register
  | succ turns ih =>
      have moved : turn poly (2 ^ (turns + 1) * register) = 2 ^ turns * register := by
        have double : 2 ^ (turns + 1) * register = 2 * (2 ^ turns * register) := by
          rw [Nat.pow_succ, Nat.mul_comm (2 ^ turns) 2, Nat.mul_assoc]
        rw [double, turn_eq, Nat.testBit_zero, Nat.mul_mod_right, Nat.shiftRight_eq_div_pow]
        simp
      rw [Function.iterate_succ_apply, moved, ih]

/-- A message is a number that is mixed in at once. -/
theorem foldl_absorb (poly register : Nat) (bytes : List UInt8) :
    bytes.foldl (absorb poly) register =
      (turn poly)^[8 * bytes.length] (register ^^^ leNat bytes) := by
  induction bytes generalizing register with
  | nil =>
      rw [leNat, Nat.xor_zero]
      rfl
  | cons byte rest ih =>
      have apart : leNat (byte :: rest) = byte.toNat ^^^ 2 ^ 8 * leNat rest := by
        have value : leNat (byte :: rest) = 2 ^ 8 * leNat rest + byte.toNat := by
          rw [leNat]
          omega
        apply Nat.eq_of_testBit_eq
        intro i
        rw [value, Nat.testBit_two_pow_mul_add _ byte.toNat_lt, Nat.testBit_xor,
          Nat.testBit_two_pow_mul]
        split
        · rename_i low
          simp [Nat.not_le.mpr low]
        · rename_i high
          rw [Nat.not_lt] at high
          have small : byte.toNat.testBit i = false :=
            Nat.testBit_lt_two_pow
              (Nat.lt_of_lt_of_le byte.toNat_lt (Nat.pow_le_pow_right (by decide) high))
          simp [small, high]
      have turns : 8 * (byte :: rest).length = 8 * rest.length + 8 := rfl
      rw [List.foldl_cons, ih, turns, Function.iterate_add_apply, apart, ← Nat.xor_assoc,
        iterate_turn_xor poly 8, iterate_turn_two_pow_mul]
      rfl

/-! ## Bursts are detected -/

/-- A polynomial as wide as the register, whose highest bit is set. -/
structure Generator (width poly : Nat) : Prop where
  top : 2 ^ width ≤ poly
  bound : poly < 2 ^ (width + 1)

namespace Generator

variable {width poly : Nat}

theorem turn_lt (generator : Generator width poly) {register : Nat}
    (small : register < 2 ^ (width + 1)) : turn poly register < 2 ^ (width + 1) := by
  rw [turn_eq]
  apply Nat.xor_lt_two_pow
  · rw [Nat.shiftRight_eq_div_pow]
    omega
  · split
    · exact generator.bound
    · exact Nat.two_pow_pos _

/-- The highest bit of the polynomial shows that a one fell out. -/
theorem turn_ne_zero (generator : Generator width poly) {register : Nat}
    (small : register < 2 ^ (width + 1)) (nonzero : register ≠ 0) : turn poly register ≠ 0 := by
  have top := generator.top
  intro zero
  rw [turn_eq, Nat.xor_eq_zero_iff, Nat.shiftRight_eq_div_pow] at zero
  rw [Nat.pow_succ] at small
  rw [Nat.testBit_zero] at zero
  split at zero
  · omega
  · rename_i even
    rw [decide_eq_true_eq] at even
    omega

theorem iterate_turn_ne_zero (generator : Generator width poly) (turns : Nat) {register : Nat}
    (small : register < 2 ^ (width + 1)) (nonzero : register ≠ 0) :
    (turn poly)^[turns] register ≠ 0 := by
  induction turns generalizing register with
  | zero => exact nonzero
  | succ turns ih => exact ih (generator.turn_lt small) (generator.turn_ne_zero small nonzero)

/-- Messages that differ in a burst as long as the register leave different registers. -/
theorem foldl_absorb_ne (generator : Generator width poly) {left right : List UInt8}
    (burst : Burst (width + 1) left right) (register : Nat) :
    left.foldl (absorb poly) register ≠ right.foldl (absorb poly) register := by
  rcases burst.pattern with ⟨start, pattern, isPattern, nonzero, small, inside⟩
  intro same
  rw [foldl_absorb, foldl_absorb, ← burst.size] at same
  have gone : (turn poly)^[8 * left.length] (2 ^ start * pattern) = 0 := by
    have cancel : register ^^^ leNat left ^^^ (register ^^^ leNat right) =
        register ^^^ register ^^^ (leNat left ^^^ leNat right) := by
      ac_rfl
    rw [Nat.xor_self, Nat.zero_xor, isPattern] at cancel
    rw [← cancel, iterate_turn_xor, same, Nat.xor_self]
  -- the first bit of the burst falls out before the message ends
  have turns : 8 * left.length = 8 * left.length - start + start := by omega
  rw [turns, Function.iterate_add_apply, iterate_turn_two_pow_mul] at gone
  exact generator.iterate_turn_ne_zero _ small nonzero gone

end Generator

end Crc
