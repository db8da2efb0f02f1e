import Mathlib.Data.Nat.Bitwise

/-!
# Sliding windows over sequence numbers

A window of `width` bits below the largest number that was accepted.  Bit `i` stands for
the number `i` below the largest.  A number is dropped when it lies below the window or
its bit is set.
-/

namespace SlidingWindow

variable {width top bitmap seq : Nat} {accepted : List Nat}

/-- The largest of the numbers, or 0. -/
def largest (accepted : List Nat) : Nat := accepted.foldr max 0

theorem le_largest {number : Nat} (member : number ∈ accepted) : number ≤ largest accepted := by
  induction accepted with
  | nil => cases member
  | cons first rest ih =>
      rcases List.mem_cons.mp member with rfl | member
      · exact Nat.le_max_left _ _
      · exact (ih member).trans (Nat.le_max_right _ _)

theorem largest_le {bound : Nat} (bounded : ∀ number ∈ accepted, number ≤ bound) :
    largest accepted ≤ bound := by
  induction accepted with
  | nil => exact Nat.zero_le bound
  | cons first rest ih =>
      apply Nat.max_le.mpr
      exact ⟨bounded first List.mem_cons_self,
        ih fun number member => bounded number (List.mem_cons_of_mem first member)⟩

/-- Whether a number is too old, or marked. -/
def drops (width top bitmap seq : Nat) : Bool :=
  if seq + width ≤ top then true
  else if seq ≤ top then bitmap.testBit (top - seq)
  else false

/-- The window after a number was accepted. -/
def mark (width top bitmap seq : Nat) : Nat × Nat :=
  if seq > top then
    (seq, if seq - top < width then (bitmap <<< (seq - top)) % 2 ^ width ||| 1 else 1)
  else
    (top, bitmap ||| 1 <<< (top - seq))

/-- The window says which of the latest numbers were accepted. -/
structure Represents (width top bitmap : Nat) (accepted : List Nat) : Prop where
  isTop : top = largest accepted
  bound : bitmap < 2 ^ width
  bit : ∀ i, i < width → (bitmap.testBit i = true ↔ i ≤ top ∧ top - i ∈ accepted)

namespace Represents

/-- A window in which nothing was accepted. -/
theorem empty (width : Nat) : Represents width 0 0 [] where
  isTop := rfl
  bound := Nat.two_pow_pos width
  bit i _ := by simp

theorem le_top (represents : Represents width top bitmap accepted) {number : Nat}
    (member : number ∈ accepted) : number ≤ top := by
  rw [represents.isTop]
  exact le_largest member

/-- What passes is what is new and not below the window. -/
theorem drops_eq_false_iff (represents : Represents width top bitmap accepted) (seq : Nat) :
    drops width top bitmap seq = false ↔ seq ∉ accepted ∧ top < seq + width := by
  unfold drops
  split
  · rename_i old
    exact iff_of_false Bool.true_eq_false.mp (fun both => Nat.not_le.mpr both.2 old)
  rename_i recent
  split
  · rename_i below
    have bit := represents.bit (top - seq) (by omega)
    rw [Nat.sub_sub_self below] at bit
    rw [Bool.eq_false_iff, ne_eq, bit]
    constructor
    · intro unmarked
      exact ⟨fun member => unmarked ⟨Nat.sub_le _ _, member⟩, Nat.not_le.mp recent⟩
    · intro new marked
      exact new.1 marked.2
  · rename_i above
    refine iff_of_true rfl ⟨fun member => above (represents.le_top member), ?_⟩
    exact Nat.not_le.mp recent

/-- A bit of a window that moved up. -/
theorem testBit_shifted (bitmap : Nat) {shift i : Nat}
    (inside : i < width) :
    ((bitmap <<< shift) % 2 ^ width ||| 1).testBit i = true ↔
      i = 0 ∨ shift ≤ i ∧ bitmap.testBit (i - shift) = true := by
  rw [Nat.testBit_or, Nat.testBit_mod_two_pow, Nat.testBit_shiftLeft, Bool.or_eq_true,
    Nat.testBit_one_eq_true_iff_self_eq_zero]
  simp only [inside, decide_true, Bool.true_and, Bool.and_eq_true, decide_eq_true_eq]
  exact Or.comm

/-- The window after a number above it was accepted. -/
theorem raise (represents : Represents width top bitmap accepted) (wide : 0 < width)
    (above : seq > top) :
    Represents width seq
      (if seq - top < width then (bitmap <<< (seq - top)) % 2 ^ width ||| 1 else 1)
      (seq :: accepted) := by
  have one : 1 < 2 ^ width := Nat.one_lt_two_pow (Nat.ne_of_gt wide)
  constructor
  · have isTop := represents.isTop
    rw [largest, List.foldr_cons, ← largest, ← isTop]
    omega
  · split
    · exact Nat.or_lt_two_pow (Nat.mod_lt _ (Nat.two_pow_pos width)) one
    · exact one
  · intro i inside
    have marked : seq - i ∈ seq :: accepted ↔ i = 0 ∨ seq - i ∈ accepted := by
      rw [List.mem_cons]
      apply or_congr_left
      omega
    rw [marked]
    split
    · rename_i near
      rw [testBit_shifted bitmap inside]
      by_cases isFirst : i = 0
      · simp [isFirst]
      by_cases reaches : seq - top ≤ i
      · have bit := represents.bit (i - (seq - top)) (by omega)
        rw [bit]
        by_cases inRange : i ≤ seq
        · have same : top - (i - (seq - top)) = seq - i := by omega
          have small : i - (seq - top) ≤ top := by omega
          simp [isFirst, reaches, inRange, same, small]
        · have large : ¬ i - (seq - top) ≤ top := by omega
          simp [isFirst, inRange, large]
      · have newer : seq - i ∉ accepted := by
          intro member
          have notAbove := represents.le_top member
          omega
        simp [isFirst, reaches, newer]
    · rename_i far
      rw [Nat.testBit_one_eq_true_iff_self_eq_zero]
      have newer : seq - i ∉ accepted := by
        intro member
        have notAbove := represents.le_top member
        omega
      simp only [newer, or_false]
      omega

/-- The window after a number below its top was accepted. -/
theorem fill (represents : Represents width top bitmap accepted) (below : seq ≤ top)
    (recent : top < seq + width) :
    Represents width top (bitmap ||| 1 <<< (top - seq)) (seq :: accepted) := by
  constructor
  · have isTop := represents.isTop
    rw [largest, List.foldr_cons, ← largest, ← isTop]
    omega
  · apply Nat.or_lt_two_pow represents.bound
    rw [Nat.one_shiftLeft]
    exact Nat.pow_lt_pow_right (by decide) (by omega)
  · intro i inside
    have bit := represents.bit i inside
    rw [Nat.testBit_or, Bool.or_eq_true, bit, Nat.one_shiftLeft, Nat.testBit_two_pow,
      decide_eq_true_eq, List.mem_cons]
    constructor
    · intro old
      rcases old with old | same
      · exact ⟨old.1, .inr old.2⟩
      · exact ⟨by omega, .inl (by omega)⟩
    · intro marked
      rcases marked with ⟨inRange, same | old⟩
      · exact .inr (by omega)
      · exact .inl ⟨inRange, old⟩

/-- To accept what passes keeps the window right. -/
theorem mark (represents : Represents width top bitmap accepted) (wide : 0 < width)
    (recent : top < seq + width) :
    Represents width (mark width top bitmap seq).1 (mark width top bitmap seq).2
      (seq :: accepted) := by
  unfold SlidingWindow.mark
  split
  · rename_i above
    exact represents.raise wide above
  · rename_i below
    exact represents.fill (Nat.not_lt.mp below) recent

end Represents

end SlidingWindow
