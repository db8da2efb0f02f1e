import Mathlib.Algebra.Order.Field.Basic
import Mathlib.Logic.Relation
import Mathlib.Tactic.Linarith
import Mathlib.Tactic.Ring

/-!
# Lockouts

A gate lets up to `width` callers in at a time.  From the `threshold`-th failure on, every
failure locks it for `pause`.  Callers that were let in before can still guess while the gate
is locked; so the wrong guesses of a window are at most those of the failures that lock nothing,
and `width` more for every `pause`.
-/

namespace Lockout

structure Policy (Time : Type) [Zero Time] [LT Time] where
  threshold : Nat
  width : Nat
  pause : Time
  positive : 0 < pause

/-- A gate as one of its callers sees it. -/
structure Gate (Time : Type) where
  now : Time
  /-- How often the caller is inside. -/
  inside : Nat
  failures : Nat
  lockedUntil : Time
  /-- When a guess was wrong, the latest first. -/
  guesses : List Time

variable {Time : Type} [LinearOrder Time] {since : Time}

/-- The wrong guesses since a time. -/
def recent (since : Time) (guesses : List Time) : Nat := guesses.countP (since ≤ ·)

theorem recent_le_length (since : Time) (guesses : List Time) :
    recent since guesses ≤ guesses.length :=
  List.countP_le_length

theorem recent_future {guesses : List Time} {now : Time} (past : ∀ time ∈ guesses, time ≤ now)
    (future : now < since) : recent since guesses = 0 := by
  rw [recent, List.countP_eq_zero]
  intro time member
  simpa using (past time member).trans_lt future

theorem recent_cons_le (since now : Time) (guesses : List Time) :
    recent since (now :: guesses) ≤ recent since guesses + 1 := by
  rw [recent, List.countP_cons, ← recent]
  split <;> omega

variable [Field Time]

inductive Move (policy : Policy Time) (gate : Gate Time) : Gate Time → Prop where
  | tick {now : Time} (later : gate.now ≤ now) : Move policy gate { gate with now }
  | enter (room : gate.inside < policy.width)
      (unlocked : policy.threshold ≤ gate.failures → gate.lockedUntil ≤ gate.now) :
      Move policy gate { gate with inside := gate.inside + 1 }
  | leave {inside : Nat} (fewer : inside ≤ gate.inside) : Move policy gate { gate with inside }
  | fail {lockedUntil : Time}
      (locks : policy.threshold ≤ gate.failures + 1 → lockedUntil = gate.now + policy.pause) :
      Move policy gate { gate with failures := gate.failures + 1, lockedUntil }
  | guess {inside : Nat} {lockedUntil : Time} (one : inside < gate.inside)
      (locks : policy.threshold ≤ gate.failures + 1 → lockedUntil = gate.now + policy.pause) :
      Move policy gate
        { gate with
          inside, failures := gate.failures + 1, lockedUntil
          guesses := gate.now :: gate.guesses }

/-- What a lock that ends at a time leaves room for. -/
def allowance (policy : Policy Time) (since unlocks : Time) : Time :=
  (max (policy.threshold - 1) policy.width : Nat) +
    policy.width * ((max unlocks since - since) / policy.pause)

structure Bounded (policy : Policy Time) (since : Time) (gate : Gate Time) : Prop where
  past : ∀ time ∈ gate.guesses, time ≤ gate.now
  counted : gate.guesses.length ≤ gate.failures
  room : gate.inside ≤ policy.width
  ends : policy.threshold ≤ gate.failures → gate.lockedUntil ≤ gate.now + policy.pause
  spent : policy.threshold ≤ gate.failures →
    (recent since gate.guesses : Time) ≤ allowance policy since gate.lockedUntil
  locked : policy.threshold ≤ gate.failures → gate.now < gate.lockedUntil →
    (recent since gate.guesses + gate.inside : Time) ≤ allowance policy since gate.lockedUntil

variable [IsStrictOrderedRing Time] {policy : Policy Time}

theorem allowance_mono {unlocks later : Time} (ordered : unlocks ≤ later) :
    allowance policy since unlocks ≤ allowance policy since later := by
  have gained : max unlocks since - since ≤ max later since - since :=
    sub_le_sub_right (max_le_max_right since ordered) since
  have divided : (max unlocks since - since) / policy.pause ≤
      (max later since - since) / policy.pause :=
    div_le_div_of_nonneg_right gained policy.positive.le
  unfold allowance
  have wide : (0 : Time) ≤ policy.width := Nat.cast_nonneg _
  linarith [mul_le_mul_of_nonneg_left divided wide]

theorem free_le_allowance (unlocks : Time) :
    ((max (policy.threshold - 1) policy.width : Nat) : Time) ≤ allowance policy since unlocks := by
  have long : 0 ≤ (max unlocks since - since) / policy.pause :=
    div_nonneg (sub_nonneg.mpr (le_max_right _ _)) policy.positive.le
  have wide : (0 : Time) ≤ policy.width := Nat.cast_nonneg _
  exact le_add_of_nonneg_right (mul_nonneg wide long)

/-- A lock makes room for one guess of everyone inside. -/
theorem allowance_pause {now : Time} (started : since ≤ now) :
    allowance policy since (now + policy.pause) =
      allowance policy since now + policy.width := by
  have later : since ≤ now + policy.pause :=
    started.trans (le_add_of_nonneg_right policy.positive.le)
  rw [allowance, allowance, max_eq_left started, max_eq_left later, add_sub_right_comm, add_div,
    div_self policy.positive.ne']
  ring

namespace Bounded

variable {gate next : Gate Time}

/-- The guesses so far and those under way fit into what the next lock leaves room for. -/
theorem fits (bounded : Bounded policy since gate) (locks : policy.threshold ≤ gate.failures + 1) :
    (recent since gate.guesses + gate.inside : Time) ≤
      allowance policy since (gate.now + policy.pause) := by
  have room : (gate.inside : Time) ≤ policy.width := Nat.cast_le.mpr bounded.room
  rcases lt_or_ge gate.now since with future | started
  · rw [recent_future bounded.past future, Nat.cast_zero, zero_add]
    apply (room.trans _).trans (free_le_allowance _)
    exact Nat.cast_le.mpr (le_max_right _ _)
  · rcases locks.lt_or_eq with early | first
    · have locks : policy.threshold ≤ gate.failures := Nat.le_of_lt_succ early
      rcases lt_or_ge gate.now gate.lockedUntil with locked | unlocked
      · exact (bounded.locked locks locked).trans (allowance_mono (bounded.ends locks))
      · rw [allowance_pause started]
        exact add_le_add ((bounded.spent locks).trans (allowance_mono unlocked)) room
    · -- the first failure that locks: every guess so far was counted
      rw [allowance_pause started]
      have few : recent since gate.guesses ≤ max (policy.threshold - 1) policy.width := by
        have all := (recent_le_length since gate.guesses).trans bounded.counted
        omega
      exact add_le_add ((Nat.cast_le.mpr few).trans (free_le_allowance _)) room

theorem move (bounded : Bounded policy since gate) (moved : Move policy gate next) :
    Bounded policy since next := by
  cases moved with
  | tick later =>
      constructor
      · intro time member
        exact (bounded.past time member).trans later
      · exact bounded.counted
      · exact bounded.room
      · intro locks
        exact (bounded.ends locks).trans (add_le_add_left later _)
      · exact bounded.spent
      · intro locks locked
        exact bounded.locked locks (later.trans_lt locked)
  | enter room unlocked =>
      constructor
      · exact bounded.past
      · exact bounded.counted
      · exact room
      · exact bounded.ends
      · exact bounded.spent
      · intro locks locked
        exact absurd (unlocked locks) (not_le.mpr locked)
  | leave fewer =>
      constructor
      · exact bounded.past
      · exact bounded.counted
      · exact fewer.trans bounded.room
      · exact bounded.ends
      · exact bounded.spent
      · intro locks locked
        have fewer : ((_ : Nat) : Time) ≤ gate.inside := Nat.cast_le.mpr fewer
        exact (add_le_add_right fewer _).trans (bounded.locked locks locked)
  | fail locks =>
      constructor
      · exact bounded.past
      · exact Nat.le_succ_of_le bounded.counted
      · exact bounded.room
      · intro enough
        exact (locks enough).le
      · intro enough
        rw [locks enough]
        exact (le_add_of_nonneg_right (Nat.cast_nonneg _)).trans (bounded.fits enough)
      · intro enough _
        rw [locks enough]
        exact bounded.fits enough
  | guess one locks =>
      rename_i inside lockedUntil
      have moves : recent since (gate.now :: gate.guesses) + inside ≤
          recent since gate.guesses + gate.inside := by
        have counted := recent_cons_le since gate.now gate.guesses
        omega
      have fits : policy.threshold ≤ gate.failures + 1 →
          (recent since (gate.now :: gate.guesses) + inside : Time) ≤
            allowance policy since (gate.now + policy.pause) := by
        intro enough
        apply le_trans _ (bounded.fits enough)
        exact_mod_cast moves
      constructor
      · intro time member
        rcases List.mem_cons.mp member with rfl | member
        · exact le_rfl
        · exact bounded.past time member
      · exact Nat.succ_le_succ bounded.counted
      · exact one.le.trans bounded.room
      · intro enough
        exact (locks enough).le
      · intro enough
        rw [locks enough]
        exact (le_add_of_nonneg_right (Nat.cast_nonneg _)).trans (fits enough)
      · intro enough _
        rw [locks enough]
        exact fits enough

end Bounded

/-- A gate that nobody guessed at yet. -/
structure Fresh (policy : Policy Time) (gate : Gate Time) : Prop where
  noGuess : gate.guesses = []
  room : gate.inside ≤ policy.width
  ends : policy.threshold ≤ gate.failures → gate.lockedUntil ≤ gate.now + policy.pause

theorem Fresh.bounded {gate : Gate Time} (fresh : Fresh policy gate) :
    Bounded policy since gate := by
  have room : (gate.inside : Time) ≤ allowance policy since gate.lockedUntil :=
    (Nat.cast_le.mpr (fresh.room.trans (le_max_right _ _))).trans (free_le_allowance _)
  constructor
  · simp [fresh.noGuess]
  · simp [fresh.noGuess]
  · exact fresh.room
  · exact fresh.ends
  · intro _
    simpa [fresh.noGuess, recent] using (Nat.cast_nonneg _).trans room
  · intro _ _
    simpa [fresh.noGuess, recent] using room

theorem Fresh.bounded_of_moves {start gate : Gate Time} (fresh : Fresh policy start)
    (reached : Relation.ReflTransGen (Move policy) start gate) : Bounded policy since gate := by
  induction reached with
  | refl => exact fresh.bounded
  | tail _ moved ih => exact ih.move moved

/-- The wrong guesses of any window that ends now. -/
theorem Fresh.recent_le {start gate : Gate Time} (fresh : Fresh policy start)
    (reached : Relation.ReflTransGen (Move policy) start gate) (started : since ≤ gate.now) :
    (recent since gate.guesses : Time) ≤
      (max (policy.threshold - 1) policy.width : Nat) +
        policy.width * ((gate.now - since) / policy.pause + 1) := by
  have bounded : Bounded policy since gate := fresh.bounded_of_moves reached
  have whole : allowance policy since (gate.now + policy.pause) =
      (max (policy.threshold - 1) policy.width : Nat) +
        policy.width * ((gate.now - since) / policy.pause + 1) := by
    rw [allowance_pause started, allowance, max_eq_left started]
    ring
  rw [← whole]
  by_cases locks : policy.threshold ≤ gate.failures
  · exact (bounded.spent locks).trans (allowance_mono (bounded.ends locks))
  · have few : recent since gate.guesses ≤ max (policy.threshold - 1) policy.width := by
      have all := (recent_le_length since gate.guesses).trans bounded.counted
      omega
    exact (Nat.cast_le.mpr few).trans (free_le_allowance _)

end Lockout
