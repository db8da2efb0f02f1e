import Usmp.Server.Backoff

/-!
# The failures of different keys

Every recorded failure prunes the whole table, so the failures of one key can take away
the count of another.  The entry that a key has after each of its failures is the one
that its own failures alone give exactly when that never comes before a failure of it.
-/

namespace Usmp

/-- `record_failed_handshake` as a service: the answer is what is stored for the key. -/
def serveFailure (table : FailedHandshakes) (call : String × Rat) :
    FailedHandshakes × Option (Nat × Rat) :=
  let table := afterFailure table call.1 call.2
  (table, (table.get? call.1).map fun entry => (entry.fails, entry.lockoutUntil))

def failureLog (table : FailedHandshakes) (calls : List (String × Rat)) :
    List ((String × Rat) × Option (Nat × Rat)) :=
  Service.log serveFailure table calls

/-- The failures of one key in a log. -/
def ofKey (key : String) (log : List ((String × Rat) × Option (Nat × Rat))) :
    List ((String × Rat) × Option (Nat × Rat)) :=
  log.filter fun entry => entry.1.1 = key

/-- A failure of another key that is recorded finds the entry of the key expired. -/
def prunesEntry (key : String) (table : FailedHandshakes) (call : String × Rat) : Prop :=
  key ≠ call.1 ∧ failsOf table call.1 < 1028 ∧
    ∃ entry, table.get? key = some entry ∧ entry.expired call.2 = true

/-- No other key's failure prunes the entry of the key before its next failure. -/
def Undisturbed (key : String) : FailedHandshakes → List (String × Rat) → Prop
  | _, [] => True
  | table, call :: rest =>
      (key ∈ rest.map Prod.fst → ¬ prunesEntry key table call) ∧
        Undisturbed key (serveFailure table call).1 rest

/-- The step of the table, for conditions along a list of failures. -/
def recordStep (table : FailedHandshakes) (call : String × Rat) : Option FailedHandshakes :=
  some (serveFailure table call).1

/-- There is room for one more key. -/
def hasRoom (table : FailedHandshakes) (_ : String × Rat) : Prop := table.size < 1000

instance (table : FailedHandshakes) (call : String × Rat) : Decidable (hasRoom table call) :=
  inferInstanceAs (Decidable (table.size < 1000))

/-- The calls for one key. -/
def ownCalls (key : String) (calls : List (String × Rat)) : List (String × Rat) :=
  calls.filter fun call => call.1 = key

section Steps

variable {key other : String} {table solo : FailedHandshakes} {calls : List (String × Rat)}

theorem ownCalls_self (key : String) (now : Rat) (calls : List (String × Rat)) :
    ownCalls key ((key, now) :: calls) = (key, now) :: ownCalls key calls := by
  simp [ownCalls]

theorem ownCalls_other (distinct : key ≠ other) (now : Rat) (calls : List (String × Rat)) :
    ownCalls key ((other, now) :: calls) = ownCalls key calls := by
  simp [ownCalls, Ne.symm distinct]

theorem failureLog_cons (table : FailedHandshakes) (call : String × Rat)
    (rest : List (String × Rat)) :
    failureLog table (call :: rest) =
      (call, (serveFailure table call).2) :: failureLog (serveFailure table call).1 rest := rfl

theorem ofKey_self (key : String) (now : Rat) (table : FailedHandshakes)
    (calls : List (String × Rat)) :
    ofKey key (failureLog table ((key, now) :: calls)) =
      ((key, now), (serveFailure table (key, now)).2) ::
        ofKey key (failureLog (serveFailure table (key, now)).1 calls) := by
  simp [ofKey, failureLog]

theorem ofKey_other (distinct : key ≠ other) (now : Rat) (table : FailedHandshakes)
    (calls : List (String × Rat)) :
    ofKey key (failureLog table ((other, now) :: calls)) =
      ofKey key (failureLog (serveFailure table (other, now)).1 calls) := by
  simp [ofKey, failureLog, Ne.symm distinct]

/-- What is stored for a key after a failure of its own. -/
theorem serveFailure_own (table : FailedHandshakes) (key : String) (now : Rat) :
    (serveFailure table (key, now)).2 =
      (ownFailure (table.get? key) now).map fun entry => (entry.fails, entry.lockoutUntil) := by
  rw [← get?_afterFailure_self]
  rfl

/-- A failure of another key that does not prune the entry leaves it alone. -/
theorem get?_serve_kept (distinct : key ≠ other) (room : table.size < 1000) {now : Rat}
    (kept : ¬ prunesEntry key table (other, now)) :
    (serveFailure table (other, now)).1.get? key = table.get? key := by
  have entry := get?_afterFailure_other distinct room now
  rw [serveFailure]
  dsimp only
  rw [entry]
  split
  · rename_i few
    cases found : table.get? key with
    | none => rfl
    | some entry =>
        have fresh : entry.expired now = false := by
          by_contra expired
          exact kept ⟨distinct, few, entry, found, by simpa using expired⟩
        simp [Option.filter, fresh]
  · rfl

theorem get?_serve_pruned (room : table.size < 1000) {now : Rat}
    (pruned : prunesEntry key table (other, now)) :
    (serveFailure table (other, now)).1.get? key = none := by
  rcases pruned with ⟨distinct, few, entry, found, expired⟩
  have after := get?_afterFailure_other distinct room now
  rw [if_pos few, found] at after
  rw [serveFailure]
  dsimp only
  rw [after]
  simp [Option.filter, expired]

/-- Without a later failure of the key the answers for it are the same, and nothing is lost. -/
theorem ofKey_absent (absent : key ∉ calls.map Prod.fst) (table : FailedHandshakes) :
    ofKey key (failureLog table calls) = [] ∧ ownCalls key calls = [] ∧
      Undisturbed key table calls := by
  induction calls generalizing table with
  | nil => exact ⟨rfl, rfl, trivial⟩
  | cons call rest ih =>
      rcases call with ⟨other, now⟩
      rw [List.map_cons, List.mem_cons, not_or] at absent
      rw [ofKey_other absent.1, ownCalls_other absent.1]
      rcases ih absent.2 (serveFailure table (other, now)).1 with ⟨log, own, undisturbed⟩
      exact ⟨log, own, fun later => absurd later absent.2, undisturbed⟩

/-- The count of a key without an entry starts again. -/
theorem ofKey_lost (gone : table.get? key = none) (later : key ∈ calls.map Prod.fst)
    (room : Machine.Along recordStep hasRoom table calls) :
    ∃ now rest, ofKey key (failureLog table calls) = ((key, now), some (1, 0)) :: rest := by
  induction calls generalizing table with
  | nil => cases later
  | cons call rest ih =>
      rcases call with ⟨other, now⟩
      by_cases same : key = other
      · subst same
        rw [ofKey_self, serveFailure_own, gone]
        exact ⟨now, _, rfl⟩
      · rw [ofKey_other same]
        have unpruned : ¬ prunesEntry key table (other, now) := by
          intro pruned
          rcases pruned with ⟨_, _, entry, found, _⟩
          rw [gone] at found
          cases found
        have stillGone := (get?_serve_kept same room.1 unpruned).trans gone
        have laterRest : key ∈ rest.map Prod.fst := by
          rw [List.map_cons, List.mem_cons] at later
          exact later.resolve_left same
        exact ih stillGone laterRest (room.2 _ rfl)

/-- A count of at least one goes on. -/
theorem ownFailure_continues {entry : FailedEntry} (counted : 1 ≤ entry.fails) (now : Rat) :
    ∃ next, ownFailure (some entry) now = some next ∧ 1 < next.fails := by
  rw [ownFailure]
  simp only [Option.map_some, Option.getD_some]
  split
  · exact ⟨_, rfl, Nat.lt_succ_of_le counted⟩
  · rename_i many
    exact ⟨entry, rfl, by omega⟩

theorem ownFailure_counted {before : Option FailedEntry} {after : FailedEntry} {now : Rat}
    (counted : ∀ entry, before = some entry → 1 ≤ entry.fails)
    (isAfter : ownFailure before now = some after) : 1 ≤ after.fails := by
  rw [ownFailure] at isAfter
  split at isAfter
  · cases isAfter
    exact Nat.le_add_left _ _
  · exact counted after isAfter

/-- Alone, a key with a count does not start again. -/
theorem failureLog_continues {entry : FailedEntry} (found : solo.get? key = some entry)
    (counted : 1 ≤ entry.fails) (calls : List (String × Rat)) (now : Rat)
    (rest : List ((String × Rat) × Option (Nat × Rat))) :
    failureLog solo (ownCalls key calls) ≠ ((key, now), some (1, 0)) :: rest := by
  cases isOwn : ownCalls key calls with
  | nil => exact nofun
  | cons call own =>
      have isKey : call.1 = key := by
        have member : call ∈ ownCalls key calls := isOwn ▸ List.mem_cons_self
        simpa [ownCalls] using (List.mem_filter.mp member).2
      rcases call with ⟨other, time⟩
      dsimp only at isKey
      subst isKey
      rcases ownFailure_continues counted time with ⟨next, isNext, more⟩
      intro same
      rw [failureLog, Service.log_cons, serveFailure_own, found, isNext] at same
      have heads := congrArg Prod.snd (List.cons.inj same).1
      have fails := congrArg Prod.fst (Option.some.inj heads)
      exact absurd fails (Nat.ne_of_gt more)

/-- A run of all keys beside one of the key alone, from the same entry. -/
theorem ofKey_eq_iff (same : table.get? key = solo.get? key)
    (counted : ∀ entry, solo.get? key = some entry → 1 ≤ entry.fails)
    (room : Machine.Along recordStep hasRoom table calls) :
    ofKey key (failureLog table calls) = failureLog solo (ownCalls key calls) ↔
      Undisturbed key table calls := by
  induction calls generalizing table solo with
  | nil => exact iff_of_true rfl trivial
  | cons call rest ih =>
      rcases call with ⟨other, now⟩
      by_cases isKey : key = other
      · subst isKey
        have answers : (serveFailure table (key, now)).2 = (serveFailure solo (key, now)).2 := by
          rw [serveFailure_own, serveFailure_own, same]
        have after : (serveFailure solo (key, now)).1.get? key = ownFailure (solo.get? key) now :=
          get?_afterFailure_self solo key now
        have next : (serveFailure table (key, now)).1.get? key =
            (serveFailure solo (key, now)).1.get? key := by
          rw [after, ← same]
          exact get?_afterFailure_self table key now
        have later := ih next (fun entry found => ownFailure_counted counted (after ▸ found))
          (room.2 _ rfl)
        rw [ofKey_self, ownCalls_self, failureLog_cons, answers, List.cons.injEq, later]
        constructor
        · intro undisturbed
          exact ⟨fun _ pruned => pruned.1 rfl, undisturbed.2⟩
        · intro undisturbed
          exact ⟨rfl, undisturbed.2⟩
      · rw [ofKey_other isKey, ownCalls_other isKey, Undisturbed]
        by_cases pruned : prunesEntry key table (other, now)
        · have gone := get?_serve_pruned room.1 pruned
          rcases id pruned with ⟨_, _, entry, found, _⟩
          by_cases later : key ∈ rest.map Prod.fst
          · -- the next failure of the key counts from one again
            rcases ofKey_lost gone later (room.2 _ rfl) with ⟨time, lost, isLost⟩
            rw [isLost]
            have found := same.symm.trans found
            have continues := failureLog_continues found (counted entry found) rest time lost
            exact iff_of_false (Ne.symm continues)
              (fun undisturbed => undisturbed.1 later pruned)
          · rcases ofKey_absent later (serveFailure table (other, now)).1 with
              ⟨log, own, undisturbed⟩
            rw [log, own]
            exact iff_of_true rfl ⟨fun again => absurd again later, undisturbed⟩
        · have next := (get?_serve_kept isKey room.1 pruned).trans same
          rw [ih next counted (room.2 _ rfl)]
          constructor
          · intro undisturbed
            exact ⟨fun _ => pruned, undisturbed⟩
          · intro undisturbed
            exact undisturbed.2

end Steps

/-- What is stored for a key after its failures depends on these alone exactly when no
other key's failure prunes its entry in between. -/
theorem failures_independent_iff (key : String) (calls : List (String × Rat))
    (room : Machine.Along recordStep hasRoom {} calls) :
    ofKey key (failureLog {} calls) = failureLog {} (ownCalls key calls) ↔
      Undisturbed key {} calls :=
  ofKey_eq_iff rfl (fun _ found => by cases found) room

/-- Five failures of one address, and a sixth when its lockout has just expired. -/
def sampleLocked : List (String × Rat) :=
  List.replicate 5 ("192.0.2.1", 0) ++ [("192.0.2.1", 3)]

/-- Another address fails before the lockout expires. -/
def sampleNeighbour : List (String × Rat) :=
  List.replicate 5 ("192.0.2.1", 0) ++ [("192.0.2.2", 1), ("192.0.2.1", 3)]

theorem failures_independent_iff_sampleNeighbour :
    ofKey "192.0.2.1" (failureLog {} sampleNeighbour) =
        failureLog {} (ownCalls "192.0.2.1" sampleNeighbour) ↔
      Undisturbed "192.0.2.1" {} sampleNeighbour :=
  failures_independent_iff "192.0.2.1" sampleNeighbour (by decide +kernel)

/-- Another address fails when the lockout has expired. -/
def sampleReset : List (String × Rat) :=
  List.replicate 5 ("192.0.2.1", 0) ++ [("192.0.2.2", 2), ("192.0.2.1", 3)]

/-- Two runs with the same failures of one key that leave different entries for it. -/
theorem failures_not_independent_sampleReset :
    ¬ ∀ (key : String) (left right : List (String × Rat)),
        ownCalls key left = ownCalls key right →
        left.Pairwise (fun earlier later => earlier.2 ≤ later.2) →
        right.Pairwise (fun earlier later => earlier.2 ≤ later.2) →
        (ownCalls key left).IsChain (fun earlier later => later.2 < earlier.2 + 600) →
        Machine.Along recordStep hasRoom {} left →
        Machine.Along recordStep hasRoom {} right →
        ofKey key (failureLog {} left) = ofKey key (failureLog {} right) := by
  intro independent
  have same := independent "192.0.2.1" sampleReset sampleLocked (by decide +kernel)
    (by decide +kernel) (by decide +kernel) (by decide +kernel) (by decide +kernel)
    (by decide +kernel)
  have differs : ofKey "192.0.2.1" (failureLog {} sampleReset) ≠
      ofKey "192.0.2.1" (failureLog {} sampleLocked) := by decide +kernel
  exact differs same

end Usmp
