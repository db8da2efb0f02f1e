import Usmp.Lib.Machine
import Usmp.Lib.Service
import Usmp.Server.Limiter
import Mathlib.Tactic.Linarith

/-!
# The backoff of failed handshakes

What `record_failed_handshake` does to the entry of one key: its own failures count on
from the stored number, up to the power that no float can hold, and the failures of
other keys prune it when it is expired.
-/

namespace Usmp

/-- The number of failures stored for a key. -/
def failsOf (table : FailedHandshakes) (key : String) : Nat :=
  ((table.get? key).map FailedEntry.fails).getD 0

/-- The lockout of exponential backoff after a number of failures. -/
def backoffUntil (fails : Nat) (now : Rat) : Rat :=
  if fails < 5 then 0 else now + min 60 (2 ^ (fails - 5))

theorem lockoutAfter_of_le {fails : Nat} (few : fails ≤ 1028) (now : Rat) :
    lockoutAfter fails now = .ok (backoffUntil fails now) := by
  unfold lockoutAfter backoffUntil
  by_cases locked : fails ≥ 5
  · have small : ¬ fails - 5 ≥ 1024 := by omega
    rw [if_pos locked, if_neg (Nat.not_lt.mpr locked), floatPowTwo, if_neg small]
  · rw [if_neg locked, if_pos (Nat.not_le.mp locked)]

theorem lockoutAfter_of_gt {fails : Nat} (many : 1028 < fails) (now : Rat) :
    lockoutAfter fails now =
      .error ⟨.overflowError, "(34, 'Numerical result out of range')"⟩ := by
  have locked : fails ≥ 5 := by omega
  have large : fails - 5 ≥ 1024 := by omega
  rw [lockoutAfter, if_pos locked, floatPowTwo, if_pos large]

/-- What a recorded failure leaves of its own key. -/
theorem fresh_not_expired (fails : Nat) (now : Rat) :
    FailedEntry.expired ⟨fails, backoffUntil fails now, now⟩ now = false := by
  unfold FailedEntry.expired backoffUntil
  have powers : (0 : Rat) < 2 ^ (fails - 5) := by positivity
  have later : now < now + min 60 (2 ^ (fails - 5)) :=
    lt_add_of_pos_right now (lt_min (by decide) powers)
  split
  · simp
  · simp [not_lt.mpr later.le]

theorem recordFailedHandshake_of_lt {table : FailedHandshakes} {key : String}
    (few : failsOf table key < 1028) (now : Rat) :
    recordFailedHandshake table key now =
      .ok (((evictOldest table key).set key
        ⟨failsOf table key + 1, backoffUntil (failsOf table key + 1) now, now⟩).filter
          fun _ entry => !entry.expired now) := by
  rw [recordFailedHandshake]
  dsimp only
  rw [← failsOf, lockoutAfter_of_le few]

/-- An overflow comes before any change of the table. -/
theorem recordFailedHandshake_of_ge {table : FailedHandshakes} {key : String}
    (many : 1028 ≤ failsOf table key) (now : Rat) :
    recordFailedHandshake table key now =
      .error ⟨.overflowError, "(34, 'Numerical result out of range')"⟩ := by
  rw [recordFailedHandshake]
  dsimp only
  rw [← failsOf, lockoutAfter_of_gt (Nat.lt_succ_of_le many)]

/-- The table after a failure: what raises leaves it as it was. -/
def afterFailure (table : FailedHandshakes) (key : String) (now : Rat) : FailedHandshakes :=
  match recordFailedHandshake table key now with
  | .ok next => next
  | .error _ => table

/-- The entry of a key after a failure of its own. -/
def ownFailure (entry : Option FailedEntry) (now : Rat) : Option FailedEntry :=
  let fails := (entry.map FailedEntry.fails).getD 0
  if fails < 1028 then some ⟨fails + 1, backoffUntil (fails + 1) now, now⟩ else entry

theorem get?_afterFailure_self (table : FailedHandshakes) (key : String) (now : Rat) :
    (afterFailure table key now).get? key = ownFailure (table.get? key) now := by
  rw [ownFailure, ← failsOf]
  by_cases few : failsOf table key < 1028
  · rw [if_pos few, afterFailure, recordFailedHandshake_of_lt few]
    dsimp only
    rw [Dict.get?_filter, Dict.get?_set, if_pos rfl]
    simp [Option.filter, fresh_not_expired]
  · rw [if_neg few, afterFailure, recordFailedHandshake_of_ge (Nat.not_lt.mp few)]

/-- A failure of another key prunes an entry that is expired. -/
theorem get?_afterFailure_other {table : FailedHandshakes} {key other : String}
    (distinct : key ≠ other) (room : table.size < 1000) (now : Rat) :
    (afterFailure table other now).get? key =
      if failsOf table other < 1028 then
        (table.get? key).filter fun entry => !entry.expired now
      else table.get? key := by
  have noEviction : evictOldest table other = table :=
    if_neg (fun full => absurd full.1 (Nat.not_le.mpr room))
  by_cases few : failsOf table other < 1028
  · rw [if_pos few, afterFailure, recordFailedHandshake_of_lt few, noEviction]
    dsimp only
    rw [Dict.get?_filter, Dict.get?_set, if_neg distinct]
  · rw [if_neg few, afterFailure, recordFailedHandshake_of_ge (Nat.not_lt.mp few)]

theorem get?_evictOldest (table : FailedHandshakes) (key other : String) :
    (evictOldest table other).get? key = table.get? key ∨
      (evictOldest table other).get? key = none := by
  unfold evictOldest
  split
  · split
    · rw [Dict.get?_erase]
      split
      · exact .inr rfl
      · exact .inl rfl
    · exact .inl rfl
  · exact .inl rfl

/-- A failure of another key keeps an entry as it is, or prunes or evicts it. -/
theorem get?_afterFailure_other_cases {key other : String} (distinct : key ≠ other)
    (table : FailedHandshakes) (now : Rat) :
    (afterFailure table other now).get? key = table.get? key ∨
      (afterFailure table other now).get? key = none := by
  by_cases few : failsOf table other < 1028
  · rw [afterFailure, recordFailedHandshake_of_lt few]
    dsimp only
    rw [Dict.get?_filter, Dict.get?_set, if_neg distinct]
    rcases get?_evictOldest table key other with same | gone
    · rw [same]
      cases found : table.get? key with
      | none => exact .inl rfl
      | some entry => cases isExpired : entry.expired now <;> simp [Option.filter, isExpired]
    · rw [gone]
      exact .inr rfl
  · rw [afterFailure, recordFailedHandshake_of_ge (Nat.not_lt.mp few)]
    exact .inl rfl

/-! ## A run of failures and successes -/

inductive FailureEvent where
  /-- `record_failed_handshake`. -/
  | failure (key : String) (now : Rat)
  /-- `_failed_handshakes.pop`. -/
  | success (key : String)
  deriving DecidableEq, Repr

def failureStep (table : FailedHandshakes) : FailureEvent → Option FailedHandshakes
  | .failure key now => some (afterFailure table key now)
  | .success key => some (table.erase key)

/-- The number of times a key's failure is recorded. -/
def failuresOf (key : String) (events : List FailureEvent) : Nat :=
  events.countP fun
    | .failure other _ => other = key
    | .success _ => false

/-- The event leaves an entry of the key where there is one. -/
def keepsEntry (key : String) (table : FailedHandshakes) (event : FailureEvent) : Prop :=
  table.get? key ≠ none → ∀ next, failureStep table event = some next → next.get? key ≠ none

instance (key : String) (table : FailedHandshakes) (event : FailureEvent) :
    Decidable (keepsEntry key table event) :=
  match event with
  | .failure other now =>
      decidable_of_iff (table.get? key ≠ none → (afterFailure table other now).get? key ≠ none)
        ⟨fun keeps found next stepped => by cases stepped; exact keeps found,
          fun keeps found => keeps found _ rfl⟩
  | .success other =>
      decidable_of_iff (table.get? key ≠ none → (table.erase other).get? key ≠ none)
        ⟨fun keeps found next stepped => by cases stepped; exact keeps found,
          fun keeps found => keeps found _ rfl⟩

/-- The entry of a key after a number of failures that nothing took away.  The count stops
where the backoff overflows. -/
structure Counted (table : FailedHandshakes) (key : String) (failures : Nat) : Prop where
  fails : failsOf table key = min failures 1028
  found : table.get? key ≠ none ↔ 0 < failures

theorem failsOf_congr {before after : FailedHandshakes} {key : String}
    (same : after.get? key = before.get? key) : failsOf after key = failsOf before key := by
  rw [failsOf, failsOf, same]

theorem counted_new {table : FailedHandshakes} {key : String} (isNew : table.get? key = none) :
    Counted table key 0 where
  fails := by rw [failsOf, isNew]; rfl
  found := by simp [isNew]

namespace Counted

variable {table next : FailedHandshakes} {key : String} {failures : Nat}

theorem congr (counted : Counted table key failures) (same : next.get? key = table.get? key) :
    Counted next key failures where
  fails := (failsOf_congr same).trans counted.fails
  found := by rw [same]; exact counted.found

theorem ownFailure (counted : Counted table key failures) (now : Rat) :
    Counted (afterFailure table key now) key (failures + 1) := by
  have entry := get?_afterFailure_self table key now
  rw [Usmp.ownFailure, ← failsOf] at entry
  have fails := counted.fails
  by_cases few : failsOf table key < 1028
  · rw [if_pos few] at entry
    constructor
    · rw [failsOf, entry]
      simp only [Option.map_some, Option.getD_some]
      omega
    · simp [entry]
  · rw [if_neg few] at entry
    have some : 0 < failures := by omega
    constructor
    · rw [failsOf_congr entry]
      omega
    · rw [entry]
      exact iff_of_true (counted.found.mpr some) (Nat.succ_pos _)

/-- An event of another key that keeps the entry, or one that finds none. -/
theorem other (counted : Counted table key failures)
    (cases : next.get? key = table.get? key ∨ next.get? key = none)
    (keeps : table.get? key ≠ none → next.get? key ≠ none) : Counted next key failures := by
  rcases cases with same | gone
  · exact counted.congr same
  · apply counted.congr
    by_contra differs
    rw [gone] at differs
    exact keeps (Ne.symm differs) gone

end Counted

theorem counted_step {table next : FailedHandshakes} {key : String} {failures : Nat}
    (counted : Counted table key failures) {event : FailureEvent}
    (keeps : keepsEntry key table event) (stepped : failureStep table event = some next) :
    Counted next key (failures + failuresOf key [event]) := by
  have kept : table.get? key ≠ none → next.get? key ≠ none := fun found => keeps found next stepped
  cases event with
  | failure other now =>
      cases stepped
      by_cases same : other = key
      · subst same
        simpa [failuresOf] using counted.ownFailure now
      · simpa [failuresOf, same] using
          counted.other (get?_afterFailure_other_cases (Ne.symm same) table now) kept
  | success other =>
      cases stepped
      have cases : (table.erase other).get? key = table.get? key ∨
          (table.erase other).get? key = none := by
        rw [Dict.get?_erase]
        split
        · exact .inr rfl
        · exact .inl rfl
      simpa [failuresOf] using counted.other cases kept

theorem counted_run {table final : FailedHandshakes} {key : String} {failures : Nat}
    (counted : Counted table key failures) {events : List FailureEvent}
    (kept : Machine.Along failureStep (keepsEntry key) table events)
    (reached : Machine.run failureStep table events = some final) :
    Counted final key (failures + failuresOf key events) := by
  induction events generalizing table failures with
  | nil =>
      cases reached
      exact counted
  | cons event rest ih =>
      rcases Machine.run_cons_some.mp reached with ⟨next, stepped, reached⟩
      have later := ih (counted_step counted kept.1 stepped) (kept.2 next stepped) reached
      have split : failuresOf key ([event] ++ rest) =
          failuresOf key [event] + failuresOf key rest := List.countP_append
      rw [List.singleton_append] at split
      rwa [split, ← Nat.add_assoc]

/-- The failure of a key after earlier ones, with no success, prune or eviction of its entry
in between, is recorded with its backoff as long as a float can hold the power of two. -/
theorem backoff_recorded_iff {table final : FailedHandshakes} {key : String}
    {events : List FailureEvent} (isNew : table.get? key = none)
    (kept : Machine.Along failureStep (keepsEntry key) table events)
    (reached : Machine.run failureStep table events = some final) (now : Rat) :
    (∃ next, recordFailedHandshake final key now = .ok next ∧
      next.get? key = some
        ⟨failuresOf key events + 1, backoffUntil (failuresOf key events + 1) now, now⟩) ↔
      failuresOf key events + 1 ≤ 1028 := by
  have counted := counted_run (counted_new isNew) kept reached
  rw [Nat.zero_add] at counted
  have fails := counted.fails
  constructor
  · intro recorded
    rcases recorded with ⟨next, recorded, _⟩
    by_contra many
    have full : 1028 ≤ failsOf final key := by omega
    have overflows := recordFailedHandshake_of_ge full now
    rw [recorded] at overflows
    cases overflows
  · intro few
    have some : failsOf final key = failuresOf key events := by omega
    have room : failsOf final key < 1028 := by omega
    have recorded := recordFailedHandshake_of_lt room now
    have entry := get?_afterFailure_self final key now
    rw [afterFailure, recorded, ownFailure, ← failsOf, if_pos room] at entry
    refine ⟨_, recorded, ?_⟩
    rw [← some]
    exact entry

/-- A key that nobody else interferes with keeps its entry. -/
theorem keepsEntry_own (table : FailedHandshakes) (key : String) (now : Rat) :
    keepsEntry key table (.failure key now) := by
  intro found next stepped
  cases stepped
  rw [get?_afterFailure_self, ownFailure]
  split
  · exact Option.some_ne_none _
  · exact found

/-- Failures of one address, a minute and a second apart. -/
def samplePersistent (count : Nat) : List FailureEvent :=
  ((List.range count).map fun index : Nat => 61 * (index : Rat)).map (.failure "192.0.2.1")

/-- The sixth failure. -/
theorem backoff_recorded_iff_samplePersistent :
    ∃ final, Machine.run failureStep {} (samplePersistent 5) = some final ∧
      ((∃ next, recordFailedHandshake final "192.0.2.1" 305 = .ok next ∧
        next.get? "192.0.2.1" = some ⟨6, backoffUntil 6 305, 305⟩) ↔ 6 ≤ 1028) := by
  rcases Machine.exists_run failureStep {} (samplePersistent 5) (fun _ => True)
    (by decide +kernel) with ⟨final, reached, _⟩
  exact ⟨final, reached, backoff_recorded_iff rfl (by decide +kernel) reached 305⟩

theorem along_own (table : FailedHandshakes) (key : String) (times : List Rat) :
    Machine.Along failureStep (keepsEntry key) table (times.map (.failure key)) ∧
      ∃ final, Machine.run failureStep table (times.map (.failure key)) = some final := by
  induction times generalizing table with
  | nil => exact ⟨trivial, table, rfl⟩
  | cons now rest ih =>
      constructor
      · refine ⟨keepsEntry_own table key now, ?_⟩
        intro next _
        exact (ih next).1
      · rcases (ih (afterFailure table key now)).2 with ⟨final, reached⟩
        exact ⟨final, Machine.run_cons_some.mpr ⟨_, rfl, reached⟩⟩

theorem failuresOf_samplePersistent (count : Nat) :
    failuresOf "192.0.2.1" (samplePersistent count) = count := by
  rw [failuresOf, List.countP_eq_length.mpr]
  · rw [samplePersistent, List.length_map, List.length_map, List.length_range]
  · intro event member
    rcases List.mem_map.mp member with ⟨now, _, rfl⟩
    rfl

/-- The failure after 1028 or more others is not recorded: the call raises. -/
theorem overflows_samplePersistent {count : Nat} (many : 1028 ≤ count) (now : Rat) :
    ∃ final, Machine.run failureStep {} (samplePersistent count) = some final ∧
      Machine.Along failureStep (keepsEntry "192.0.2.1") {} (samplePersistent count) ∧
      failuresOf "192.0.2.1" (samplePersistent count) = count ∧
      recordFailedHandshake final "192.0.2.1" now =
        .error ⟨.overflowError, "(34, 'Numerical result out of range')"⟩ := by
  rcases along_own {} "192.0.2.1" ((List.range count).map fun index : Nat => 61 * (index : Rat))
    with ⟨kept, final, reached⟩
  have counted := counted_run (counted_new (Dict.get?_empty _)) kept reached
  rw [Nat.zero_add] at counted
  have fails := counted.fails
  rw [← samplePersistent, failuresOf_samplePersistent, min_eq_right many] at fails
  exact ⟨final, reached, kept, failuresOf_samplePersistent count,
    recordFailedHandshake_of_ge fails.ge now⟩

/-- The 1029th failure. -/
theorem not_recorded_samplePersistent :
    ∃ final, Machine.run failureStep {} (samplePersistent 1028) = some final ∧
      Machine.Along failureStep (keepsEntry "192.0.2.1") {} (samplePersistent 1028) ∧
      failuresOf "192.0.2.1" (samplePersistent 1028) = 1028 ∧
      recordFailedHandshake final "192.0.2.1" 62708 =
        .error ⟨.overflowError, "(34, 'Numerical result out of range')"⟩ :=
  overflows_samplePersistent le_rfl 62708

end Usmp
