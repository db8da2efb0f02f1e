import Mathlib.Data.List.Nodup
import Mathlib.Algebra.GroupWithZero.Nat

/-!
# Dictionaries

A dictionary in insertion order with one entry for each key.  Setting a key that
is there keeps its place.
-/

structure Dict (Key Value : Type) where
  entries : List (Key × Value) := []
  nodup : (entries.map Prod.fst).Nodup := by exact List.nodup_nil

namespace Dict

variable {Key Value : Type}

/-- `len(dict)`. -/
def size (dict : Dict Key Value) : Nat := dict.entries.length

/-- Keep the entries that satisfy a condition. -/
def filter (dict : Dict Key Value) (keep : Key → Value → Bool) : Dict Key Value where
  entries := dict.entries.filter fun entry => keep entry.1 entry.2
  nodup := dict.nodup.sublist (List.filter_sublist.map Prod.fst)

/-- The sum of a weight over the entries. -/
def total (dict : Dict Key Value) (weight : Key → Value → Nat) : Nat :=
  (dict.entries.map fun entry => weight entry.1 entry.2).sum

/-- The number of entries that satisfy a condition. -/
def count (dict : Dict Key Value) (accept : Key → Value → Bool) : Nat :=
  dict.total fun key value => if accept key value then 1 else 0

theorem count_eq_length_filter (dict : Dict Key Value) (accept : Key → Value → Bool) :
    dict.count accept =
      (dict.entries.filter fun entry => accept entry.1 entry.2).length := by
  rw [count, total]
  induction dict.entries with
  | nil => rfl
  | cons entry rest ih =>
      cases accepted : accept entry.1 entry.2 <;> simp [accepted, ih, Nat.add_comm]

theorem size_eq_count (dict : Dict Key Value) : dict.size = dict.count fun _ _ => true := by
  simp [size, count, total]

variable [DecidableEq Key]

/-- `dict.get(key)`. -/
def get? (dict : Dict Key Value) (key : Key) : Option Value := dict.entries.lookup key

/-- Give the entry of a key that is there another value. -/
def replaced (entries : List (Key × Value)) (key : Key) (value : Value) :
    List (Key × Value) :=
  entries.map fun entry => if entry.1 = key then (key, value) else entry

theorem keys_replaced (entries : List (Key × Value)) (key : Key) (value : Value) :
    (replaced entries key value).map Prod.fst = entries.map Prod.fst := by
  rw [replaced, List.map_map]
  apply List.map_congr_left
  intro entry _
  by_cases same : entry.1 = key <;> simp [same]

/-- `dict[key] = value`. -/
def set (dict : Dict Key Value) (key : Key) (value : Value) : Dict Key Value where
  entries :=
    if key ∈ dict.entries.map Prod.fst then replaced dict.entries key value
    else dict.entries ++ [(key, value)]
  nodup := by
    split
    · rw [keys_replaced]
      exact dict.nodup
    · rename_i isNew
      rw [List.map_append]
      apply List.nodup_append.mpr
      refine ⟨dict.nodup, by simp, ?_⟩
      intro old member new isKey equal
      rw [List.map_singleton, List.mem_singleton] at isKey
      subst isKey
      subst equal
      exact isNew member

/-- `dict.pop(key, None)`. -/
def erase (dict : Dict Key Value) (key : Key) : Dict Key Value :=
  dict.filter fun other _ => other ≠ key

theorem entries_erase (dict : Dict Key Value) (key : Key) :
    (dict.erase key).entries = dict.entries.filter fun entry => decide (entry.1 ≠ key) := rfl

theorem entries_set_old {dict : Dict Key Value} {key : Key} (value : Value)
    (isOld : key ∈ dict.entries.map Prod.fst) :
    (dict.set key value).entries = replaced dict.entries key value := if_pos isOld

theorem entries_set_new {dict : Dict Key Value} {key : Key} (value : Value)
    (isNew : key ∉ dict.entries.map Prod.fst) :
    (dict.set key value).entries = dict.entries ++ [(key, value)] := if_neg isNew

/-! ## Looking up -/

theorem lookup_cons_ne {entries : List (Key × Value)} {entry : Key × Value} {key : Key}
    (distinct : key ≠ entry.1) : (entry :: entries).lookup key = entries.lookup key := by
  rcases entry with ⟨first, value⟩
  rw [List.lookup_cons, beq_eq_false_iff_ne.mpr distinct]

theorem lookup_cons_self (entries : List (Key × Value)) (entry : Key × Value) :
    (entry :: entries).lookup entry.1 = some entry.2 := by
  rcases entry with ⟨first, value⟩
  rw [List.lookup_cons, beq_self_eq_true]

theorem lookup_eq_none {entries : List (Key × Value)} {key : Key} :
    entries.lookup key = none ↔ key ∉ entries.map Prod.fst := by
  induction entries with
  | nil => simp
  | cons entry rest ih =>
      by_cases same : key = entry.1
      · subst same
        simp [lookup_cons_self]
      · simp only [lookup_cons_ne same, ih, List.map_cons, List.mem_cons, same, false_or]

theorem lookup_replaced (entries : List (Key × Value)) (key other : Key) (value : Value) :
    (replaced entries key value).lookup other =
      if other = key then (entries.lookup key).map fun _ => value else entries.lookup other := by
  induction entries with
  | nil => simp [replaced]
  | cons entry rest ih =>
      rw [replaced] at ih ⊢
      rcases entry with ⟨first, old⟩
      by_cases isKey : first = key
      · subst isKey
        by_cases same : other = first
        · simp [same]
        · simp [List.lookup_cons, same, beq_eq_false_iff_ne.mpr same, ih]
      · have unequal := beq_eq_false_iff_ne.mpr (Ne.symm isKey)
        by_cases same : other = first
        · simp [isKey, same]
        · simp [List.lookup_cons, isKey, unequal, beq_eq_false_iff_ne.mpr same, ih]

theorem lookup_filter {entries : List (Key × Value)} (nodup : (entries.map Prod.fst).Nodup)
    (keep : Key → Value → Bool) (key : Key) :
    (entries.filter fun entry => keep entry.1 entry.2).lookup key =
      (entries.lookup key).filter (keep key) := by
  induction entries with
  | nil => rfl
  | cons entry rest ih =>
      rw [List.map_cons, List.nodup_cons] at nodup
      by_cases same : key = entry.1
      · subst same
        have absent := lookup_eq_none.mpr nodup.1
        cases kept : keep entry.1 entry.2 <;>
          simp [kept, ih nodup.2, absent, lookup_cons_self, Option.filter]
      · cases kept : keep entry.1 entry.2 <;>
          simp [kept, lookup_cons_ne same, ih nodup.2]

@[simp] theorem get?_empty (key : Key) : ({} : Dict Key Value).get? key = none := rfl

theorem get?_filter (dict : Dict Key Value) (keep : Key → Value → Bool) (key : Key) :
    (dict.filter keep).get? key = (dict.get? key).filter (keep key) :=
  lookup_filter dict.nodup keep key

theorem get?_erase (dict : Dict Key Value) (key other : Key) :
    (dict.erase key).get? other = if other = key then none else dict.get? other := by
  rw [erase, get?_filter]
  by_cases same : other = key <;> cases dict.get? other <;> simp [same, Option.filter]

theorem get?_set (dict : Dict Key Value) (key other : Key) (value : Value) :
    (dict.set key value).get? other = if other = key then some value else dict.get? other := by
  rw [get?]
  by_cases isOld : key ∈ dict.entries.map Prod.fst
  · rw [entries_set_old value isOld, lookup_replaced]
    by_cases same : other = key
    · cases found : dict.entries.lookup key with
      | none => exact absurd isOld (lookup_eq_none.mp found)
      | some old => simp [same]
    · simp [same, get?]
  · rw [entries_set_new value isOld, List.lookup_append]
    by_cases same : other = key
    · simp [same, lookup_eq_none.mpr isOld]
    · simp [List.lookup_cons, same, beq_eq_false_iff_ne.mpr same, get?]

/-! ## Counting -/

/-- What a key contributes to a total. -/
def share (dict : Dict Key Value) (key : Key) (weight : Key → Value → Nat) : Nat :=
  match dict.get? key with
  | some value => weight key value
  | none => 0

theorem share_of_get? {dict : Dict Key Value} {key : Key} {value : Value}
    (found : dict.get? key = some value) (weight : Key → Value → Nat) :
    dict.share key weight = weight key value := by
  simp [share, found]

theorem share_of_absent {dict : Dict Key Value} {key : Key} (absent : dict.get? key = none)
    (weight : Key → Value → Nat) : dict.share key weight = 0 := by
  simp [share, absent]

/-- An entry stands between others that do not have its key. -/
theorem split_of_get? {dict : Dict Key Value} {key : Key} {value : Value}
    (found : dict.get? key = some value) :
    ∃ front back, dict.entries = front ++ (key, value) :: back ∧
      key ∉ front.map Prod.fst ∧ key ∉ back.map Prod.fst := by
  have nodup := dict.nodup
  rw [get?] at found
  generalize dict.entries = entries at found nodup
  induction entries with
  | nil => cases found
  | cons entry rest ih =>
      rw [List.map_cons, List.nodup_cons] at nodup
      by_cases same : key = entry.1
      · subst same
        rw [lookup_cons_self] at found
        cases found
        exact ⟨[], rest, rfl, by simp, nodup.1⟩
      · rw [lookup_cons_ne same] at found
        rcases ih found nodup.2 with ⟨front, back, rfl, before, after⟩
        refine ⟨entry :: front, back, rfl, ?_, after⟩
        simp only [List.map_cons, List.mem_cons, not_or]
        exact ⟨same, before⟩

theorem filter_ne_of_absent {entries : List (Key × Value)} {key : Key}
    (absent : key ∉ entries.map Prod.fst) :
    (entries.filter fun entry => decide (entry.1 ≠ key)) = entries := by
  apply List.filter_eq_self.mpr
  intro entry member
  apply decide_eq_true
  intro same
  exact absent (same ▸ List.mem_map_of_mem member)

theorem replaced_of_absent {entries : List (Key × Value)} {key : Key} {value : Value}
    (absent : key ∉ entries.map Prod.fst) : replaced entries key value = entries := by
  rw [replaced]
  apply (List.map_congr_left _).trans (List.map_id entries)
  intro entry member
  have distinct : entry.1 ≠ key := fun same => absent (same ▸ List.mem_map_of_mem member)
  simp [distinct]

theorem total_erase (dict : Dict Key Value) (key : Key) (weight : Key → Value → Nat) :
    (dict.erase key).total weight + dict.share key weight = dict.total weight := by
  cases found : dict.get? key with
  | none =>
      rw [share_of_absent found, total, entries_erase,
        filter_ne_of_absent (lookup_eq_none.mp found)]
      rfl
  | some value =>
      rcases split_of_get? found with ⟨front, back, isSplit, before, after⟩
      rw [share_of_get? found]
      simp only [total, entries_erase, isSplit, List.filter_append, filter_ne_of_absent before,
        List.filter_cons, ne_eq, not_true_eq_false, decide_false, Bool.false_eq_true, if_false,
        filter_ne_of_absent after, List.map_append, List.map_cons, List.sum_append, List.sum_cons]
      omega

theorem total_set (dict : Dict Key Value) (key : Key) (value : Value)
    (weight : Key → Value → Nat) :
    (dict.set key value).total weight + dict.share key weight =
      dict.total weight + weight key value := by
  cases found : dict.get? key with
  | none =>
      rw [total, entries_set_new value (lookup_eq_none.mp found), share_of_absent found]
      simp [total]
  | some old =>
      rcases split_of_get? found with ⟨front, back, isSplit, before, after⟩
      have isOld : key ∈ dict.entries.map Prod.fst := by simp [isSplit]
      have outcome : replaced dict.entries key value = front ++ (key, value) :: back := by
        rw [isSplit, replaced, List.map_append, List.map_cons, ← replaced, ← replaced,
          replaced_of_absent before, replaced_of_absent after]
        simp
      have entries : (dict.set key value).entries = front ++ (key, value) :: back := by
        rw [entries_set_old value isOld, outcome]
      rw [share_of_get? found]
      simp only [total, entries, isSplit, List.map_append, List.map_cons, List.sum_append,
        List.sum_cons]
      omega

/-- The number of entries that satisfy a condition, around one of them. -/
theorem count_erase {dict : Dict Key Value} {key : Key} {value : Value}
    (found : dict.get? key = some value) (accept : Key → Value → Bool) :
    (dict.erase key).count accept + (if accept key value then 1 else 0) = dict.count accept := by
  have split := dict.total_erase key fun key value => if accept key value then 1 else 0
  rwa [share_of_get? found] at split

theorem count_set_new {dict : Dict Key Value} {key : Key} (isNew : dict.get? key = none)
    (value : Value) (accept : Key → Value → Bool) :
    (dict.set key value).count accept =
      dict.count accept + (if accept key value then 1 else 0) := by
  have split := dict.total_set key value fun key value => if accept key value then 1 else 0
  rwa [share_of_absent isNew] at split

theorem count_set_le (dict : Dict Key Value) (key : Key) (value : Value)
    (accept : Key → Value → Bool) :
    (dict.set key value).count accept ≤
      dict.count accept + (if accept key value then 1 else 0) := by
  have split := dict.total_set key value fun key value => if accept key value then 1 else 0
  rw [count, count, ← split]
  exact Nat.le_add_right _ _

theorem size_set_old {dict : Dict Key Value} {key : Key} {old : Value}
    (found : dict.get? key = some old) (value : Value) :
    (dict.set key value).size = dict.size := by
  have split := dict.total_set key value fun _ _ => 1
  rw [share_of_get? found] at split
  rw [size_eq_count, size_eq_count]
  exact Nat.add_right_cancel split

theorem size_erase {dict : Dict Key Value} {key : Key} {value : Value}
    (found : dict.get? key = some value) : (dict.erase key).size + 1 = dict.size := by
  rw [size_eq_count, size_eq_count]
  exact count_erase found fun _ _ => true

/-- Erasing keys that are there, each of them once. -/
theorem size_foldl_erase {keys : List Key} (dict : Dict Key Value) (nodup : keys.Nodup)
    (present : ∀ key ∈ keys, key ∈ dict.entries.map Prod.fst) :
    (keys.foldl erase dict).size + keys.length = dict.size := by
  induction keys generalizing dict with
  | nil => rfl
  | cons key rest ih =>
      rw [List.nodup_cons] at nodup
      cases found : dict.get? key with
      | none => exact absurd (present key List.mem_cons_self) (lookup_eq_none.mp found)
      | some value =>
          have stillThere : ∀ other ∈ rest, other ∈ (dict.erase key).entries.map Prod.fst := by
            intro other member
            by_contra absent
            have gone := lookup_eq_none.mpr absent
            have distinct : other ≠ key := fun same => nodup.1 (same ▸ member)
            rw [← get?, get?_erase, if_neg distinct] at gone
            exact lookup_eq_none.mp gone (present other (List.mem_cons_of_mem _ member))
          have rest := ih (dict.erase key) nodup.2 stillThere
          rw [List.foldl_cons, List.length_cons, ← size_erase found, ← rest]
          rfl

end Dict
