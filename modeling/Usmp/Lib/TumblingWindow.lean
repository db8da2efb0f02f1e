import Usmp.Lib.Machine
import Mathlib.Tactic.Linarith
import Mathlib.Algebra.Order.Field.Basic
import Mathlib.Data.List.Induction

/-!
# Tumbling windows

A guard counts events in a window that begins at the guard's first reading of the clock or at
the first event after the window before it expired.  It raises at an event that is one too many
for its window.  Against intervals that slide, it admits up to twice its limit.
-/

namespace TumblingWindow

variable {Time : Type} [LinearOrder Time]

structure Window (Time : Type) where
  start : Time
  count : Nat

/-- How many of these times are in a closed interval. -/
def within (times : List Time) (first last : Time) : Nat :=
  times.countP fun time => decide (first ≤ time ∧ time ≤ last)

theorem within_append (left right : List Time) (first last : Time) :
    within (left ++ right) first last = within left first last + within right first last :=
  List.countP_append

theorem within_le_length (times : List Time) (first last : Time) :
    within times first last ≤ times.length :=
  List.countP_le_length

theorem within_eq_length {times : List Time} {first last : Time}
    (inside : ∀ time ∈ times, first ≤ time ∧ time ≤ last) :
    within times first last = times.length := by
  apply List.countP_eq_length.mpr
  intro time member
  exact decide_eq_true (inside time member)

theorem within_eq_zero {times : List Time} {first last : Time}
    (outside : ∀ time ∈ times, time < first) : within times first last = 0 := by
  apply List.countP_eq_zero.mpr
  intro time member inside
  exact absurd (of_decide_eq_true inside).1 (not_le.mpr (outside time member))

/-- An interval that ends before an event does not count it. -/
theorem within_singleton_of_not {time first last : Time}
    (outside : ¬ (first ≤ time ∧ time ≤ last)) : within [time] first last = 0 := by
  simp [within, outside]

/-- Widening an interval to the left counts no less. -/
theorem within_mono {times : List Time} {first first' last : Time} (le : first' ≤ first) :
    within times first last ≤ within times first' last := by
  apply List.countP_mono_left
  intro time _ inside
  have both := of_decide_eq_true inside
  exact decide_eq_true ⟨le.trans both.1, both.2⟩

variable [Field Time]

/-- One event: the window after it, or nothing if the guard raises. -/
def tick (limit : Nat) (length : Time) (window : Window Time) (now : Time) :
    Option (Window Time) :=
  let window := if now - window.start > length then ⟨now, 0⟩ else window
  if window.count + 1 > limit then none else some { window with count := window.count + 1 }

/-- Events, one after the other. -/
abbrev ticks (limit : Nat) (length : Time) : Window Time → List Time → Option (Window Time) :=
  Machine.run (tick limit length)

variable {limit : Nat} {length : Time}

theorem tick_some {window next : Window Time} {now : Time}
    (ticked : tick limit length window now = some next) :
    (now - window.start ≤ length ∧ next = ⟨window.start, window.count + 1⟩ ∨
        length < now - window.start ∧ next = ⟨now, 1⟩) ∧
      next.count ≤ limit := by
  by_cases expired : now - window.start > length
  · simp only [tick, expired, if_true] at ticked
    split at ticked <;> cases ticked
    rename_i room
    exact ⟨.inr ⟨expired, rfl⟩, Nat.not_lt.mp room⟩
  · simp only [tick, expired, if_false] at ticked
    split at ticked <;> cases ticked
    rename_i room
    exact ⟨.inl ⟨not_lt.mp expired, rfl⟩, Nat.not_lt.mp room⟩

theorem tick_none {window : Window Time} {now : Time}
    (raised : tick limit length window now = none) :
    (now - window.start ≤ length ∧ limit ≤ window.count) ∨ limit = 0 := by
  by_cases expired : now - window.start > length
  · simp only [tick, expired, if_true] at raised
    split at raised <;> cases raised
    omega
  · simp only [tick, expired, if_false] at raised
    split at raised <;> cases raised
    exact .inl ⟨not_lt.mp expired, by omega⟩

variable [IsStrictOrderedRing Time]

/-- The events before the current window and those in it, and how close together they can be.
Of the windows before the current one only the last comes near it. -/
structure Filled (limit : Nat) (length origin : Time) (earlier current : List Time)
    (window : Window Time) : Prop where
  size : current.length = window.count
  bounded : window.count ≤ limit
  inside : ∀ time ∈ current, window.start ≤ time ∧ time ≤ window.start + length
  before : ∀ time ∈ earlier, time < window.start
  begun : window.start ∈ origin :: (earlier ++ current)
  previous : ∀ last, within earlier (window.start - length) last ≤ limit
  sparse : ∀ first, within (earlier ++ current) first (first + length) ≤ 2 * limit

theorem Filled.new (limit : Nat) (length origin : Time) :
    Filled limit length origin [] [] ⟨origin, 0⟩ := by
  constructor <;> simp [within]

theorem Filled.tick (nonneg : 0 ≤ length) {origin now : Time} {earlier current : List Time}
    {window next : Window Time} (filled : Filled limit length origin earlier current window)
    (later : ∀ time ∈ origin :: (earlier ++ current), time ≤ now)
    (ticked : tick limit length window now = some next) :
    ∃ earlier' current', earlier' ++ current' = earlier ++ current ++ [now] ∧
      Filled limit length origin earlier' current' next := by
  have started := later _ filled.begun
  rcases tick_some ticked with ⟨⟨isOpen, rfl⟩ | ⟨expired, rfl⟩, room⟩
  · have room : window.count + 1 ≤ limit := room
    refine ⟨earlier, current ++ [now], (List.append_assoc ..).symm, ?_⟩
    constructor
    case size => rw [List.length_append, filled.size]; rfl
    case bounded => exact room
    case inside =>
      intro time member
      rcases List.mem_append.mp member with old | new
      · exact filled.inside time old
      · cases List.mem_singleton.mp new
        exact ⟨started, by linarith⟩
    case before => exact filled.before
    case begun =>
      rw [← List.append_assoc, ← List.cons_append]
      exact List.mem_append_left _ filled.begun
    case previous => exact filled.previous
    case sparse =>
      intro first
      by_cases counted : first ≤ now ∧ now ≤ first + length
      · have previous : within earlier first (first + length) ≤ limit :=
          (within_mono (by linarith)).trans (filled.previous (first + length))
        have few := within_le_length (current ++ [now]) first (first + length)
        rw [List.length_append, filled.size, List.length_singleton] at few
        rw [within_append]
        omega
      · rw [← List.append_assoc, within_append, within_singleton_of_not counted]
        exact filled.sparse first
  · have old : ∀ time ∈ earlier, time < now - length := by
      intro time member
      have := filled.before time member
      linarith
    refine ⟨earlier ++ current, [now], rfl, ?_⟩
    constructor
    case size => rfl
    case bounded => exact room
    case inside =>
      intro time member
      cases List.mem_singleton.mp member
      exact ⟨le_refl now, by linarith⟩
    case before =>
      intro time member
      rcases List.mem_append.mp member with before | during
      · exact lt_of_lt_of_le (filled.before time before) started
      · have := (filled.inside time during).2
        linarith
    case begun => simp
    case previous =>
      intro last
      have few := within_le_length current (now - length) last
      rw [filled.size] at few
      rw [within_append, within_eq_zero old]
      exact (Nat.zero_add _).trans_le (few.trans filled.bounded)
    case sparse =>
      intro first
      by_cases counted : first ≤ now ∧ now ≤ first + length
      · have none : within earlier first (first + length) = 0 := by
          apply within_eq_zero
          intro time member
          have := old time member
          linarith
        have few := within_le_length current first (first + length)
        have one := within_le_length [now] first (first + length)
        have bounded := filled.bounded
        have room : 1 ≤ limit := room
        rw [filled.size] at few
        rw [List.length_singleton] at one
        rw [within_append, within_append, none]
        omega
      · rw [within_append, within_singleton_of_not counted]
        exact filled.sparse first

/-- Events at times that do not decrease leave the guard in a window that it has filled. -/
theorem filled_of_ticks (nonneg : 0 ≤ length) {origin : Time} {times : List Time}
    {window : Window Time} (ordered : (origin :: times).Pairwise (· ≤ ·))
    (reached : ticks limit length ⟨origin, 0⟩ times = some window) :
    ∃ earlier current, earlier ++ current = times ∧
      Filled limit length origin earlier current window := by
  induction times using List.reverseRecOn generalizing window with
  | nil =>
      cases reached
      exact ⟨[], [], rfl, Filled.new limit length origin⟩
  | append_singleton times now ih =>
      rcases Machine.run_append_some.mp reached with ⟨middle, before, last⟩
      rcases Machine.run_cons_some.mp last with ⟨next, ticked, done⟩
      cases done
      rw [← List.cons_append, List.pairwise_append] at ordered
      rcases ih ordered.1 before with ⟨earlier, current, rfl, filled⟩
      exact filled.tick nonneg (fun time member => ordered.2.2 time member now (by simp)) ticked

/-- A guard that has not raised has seen at most twice its limit in any interval. -/
theorem within_of_ticks (nonneg : 0 ≤ length) {origin : Time} {times : List Time}
    {window : Window Time} (ordered : (origin :: times).Pairwise (· ≤ ·))
    (reached : ticks limit length ⟨origin, 0⟩ times = some window) (first : Time) :
    within times first (first + length) ≤ 2 * limit := by
  rcases filled_of_ticks nonneg ordered reached with ⟨earlier, current, rfl, filled⟩
  exact filled.sparse first

/-- When the guard raises, more events than its limit lie in one interval. -/
theorem crowded_of_tick_none (nonneg : 0 ≤ length) {origin now : Time} {times : List Time}
    {window : Window Time} (ordered : (origin :: (times ++ [now])).Pairwise (· ≤ ·))
    (reached : ticks limit length ⟨origin, 0⟩ times = some window)
    (raised : tick limit length window now = none) :
    ∃ first, limit < within (times ++ [now]) first (first + length) := by
  rw [← List.cons_append, List.pairwise_append] at ordered
  rcases filled_of_ticks nonneg ordered.1 reached with ⟨earlier, current, rfl, filled⟩
  have later : ∀ time ∈ origin :: (earlier ++ current), time ≤ now := fun time member =>
    ordered.2.2 time member now (by simp)
  rcases tick_none raised with ⟨isOpen, full⟩ | noLimit
  · refine ⟨window.start, ?_⟩
    have inside := within_eq_length filled.inside
    have last : within [now] window.start (window.start + length) = 1 := by
      apply within_eq_length
      intro time member
      cases List.mem_singleton.mp member
      exact ⟨later _ filled.begun, by linarith⟩
    rw [within_append, within_append, inside, last, filled.size]
    omega
  · refine ⟨now, ?_⟩
    have last : within [now] now (now + length) = 1 := by
      apply within_eq_length
      intro time member
      cases List.mem_singleton.mp member
      exact ⟨le_refl now, by linarith⟩
    rw [within_append, last]
    omega

end TumblingWindow
