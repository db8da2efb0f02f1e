import Mathlib.Tactic.Linarith
import Mathlib.Tactic.Ring
import Mathlib.Algebra.Order.Field.Basic
import Usmp.Lib.Service

/-!
# Token buckets

A bucket holds up to `capacity` tokens and gains `rate` of them in a unit of time; a
call takes one token or is refused.  Refill is lazy: a bucket is the number of tokens
at the time of its last call, and that time.  An unbounded table has one bucket for
each key, full until the key's first call.
-/

namespace TokenBucket

variable {Key Time : Type} [LinearOrder Time]

/-- The number of calls for a key that are allowed from one time to another. -/
def allowedIn [DecidableEq Key] (log : List ((Key × Time) × Bool)) (key : Key)
    (start stop : Time) : Nat :=
  log.countP fun entry =>
    entry.2 && decide (entry.1.1 = key ∧ start ≤ entry.1.2 ∧ entry.1.2 ≤ stop)

theorem allowedIn_cons_skip [DecidableEq Key] {entry : (Key × Time) × Bool} {key : Key}
    {start stop : Time}
    (outside : ¬ (entry.1.1 = key ∧ start ≤ entry.1.2 ∧ entry.1.2 ≤ stop))
    (log : List ((Key × Time) × Bool)) :
    allowedIn (entry :: log) key start stop = allowedIn log key start stop := by
  simp only [allowedIn, List.countP_cons, outside, decide_false, Bool.and_false,
    Bool.false_eq_true, if_false, Nat.add_zero]

theorem allowedIn_cons_le [DecidableEq Key] (entry : (Key × Time) × Bool)
    (log : List ((Key × Time) × Bool)) (key : Key) (start stop : Time) :
    allowedIn (entry :: log) key start stop ≤
      allowedIn log key start stop + (if entry.2 then 1 else 0) := by
  simp only [allowedIn, List.countP_cons]
  apply Nat.add_le_add_left
  cases entry.2
  · simp
  · split <;> simp

/-- No call after `stop` counts. -/
theorem allowedIn_late [DecidableEq Key] {State : Type} {serve : State → Key × Time → State × Bool}
    (state : State) {calls : List (Key × Time)} {key : Key}
    {start stop : Time} (late : ∀ call ∈ calls, stop < call.2) :
    allowedIn (Service.log serve state calls) key start stop = 0 := by
  induction calls generalizing state with
  | nil => rfl
  | cons call rest ih =>
      have here : stop < call.2 := late call List.mem_cons_self
      have later : ∀ call ∈ rest, stop < call.2 :=
        fun call member => late call (List.mem_cons_of_mem _ member)
      rw [Service.log_cons, allowedIn_cons_skip (fun inside => absurd here (not_lt.mpr inside.2.2))]
      exact ih _ later

variable [Field Time]

/-- The tokens of a bucket at a later time. -/
def refill (capacity rate : Time) (bucket : Time × Time) (now : Time) : Time :=
  min capacity (bucket.1 + (now - bucket.2) * rate)

/-- The tokens that a call finds. -/
def tokensAt (capacity rate : Time) (bucket : Option (Time × Time)) (now : Time) : Time :=
  refill capacity rate (bucket.getD (capacity, now)) now

/-- A call for a key: the table afterwards, and whether the call is allowed. -/
def serve [DecidableEq Key] (capacity rate : Time) (buckets : Key → Option (Time × Time))
    (call : Key × Time) : (Key → Option (Time × Time)) × Bool :=
  let tokens := tokensAt capacity rate (buckets call.1) call.2
  if tokens < 1 then
    (Function.update buckets call.1 (some (tokens, call.2)), false)
  else
    (Function.update buckets call.1 (some (tokens - 1, call.2)), true)

variable {capacity rate : Time}

theorem refill_le_capacity (bucket : Time × Time) (now : Time) :
    refill capacity rate bucket now ≤ capacity := min_le_left _ _

theorem refill_le (bucket : Time × Time) (now : Time) :
    refill capacity rate bucket now ≤ bucket.1 + (now - bucket.2) * rate := min_le_right _ _

theorem tokensAt_none (now : Time) : tokensAt capacity rate none now = capacity := by
  simp [tokensAt, refill]

theorem serve_other [DecidableEq Key] (capacity rate : Time)
    (buckets : Key → Option (Time × Time)) (call : Key × Time) {key : Key}
    (distinct : key ≠ call.1) :
    (serve capacity rate buckets call).1 key = buckets key := by
  unfold serve
  dsimp only
  split <;> exact Function.update_of_ne distinct _ _

variable [IsStrictOrderedRing Time]

/-- A bucket that is full stays full until its next call. -/
theorem refill_full (slow : 0 ≤ rate) {bucket : Time × Time} {now later : Time}
    (full : refill capacity rate bucket now = capacity) (ordered : now ≤ later) :
    refill capacity rate bucket later = capacity := by
  rw [refill, min_eq_left_iff] at full ⊢
  have gained : (now - bucket.2) * rate ≤ (later - bucket.2) * rate :=
    mul_le_mul_of_nonneg_right (by linarith) slow
  linarith

/-- A bucket holds no debt, and the calls to come are later than its last one. -/
def Held (bucket : Option (Time × Time)) (calls : List (Key × Time)) : Prop :=
  ∀ tokens last, bucket = some (tokens, last) → 0 ≤ tokens ∧ ∀ call ∈ calls, last ≤ call.2

theorem tokensAt_nonneg (whole : 0 ≤ capacity) (slow : 0 ≤ rate)
    {bucket : Option (Time × Time)} {key : Key} {now : Time} {rest : List (Key × Time)}
    (held : Held bucket ((key, now) :: rest)) : 0 ≤ tokensAt capacity rate bucket now := by
  cases found : bucket with
  | none => rwa [tokensAt_none]
  | some entry =>
      rcases held entry.1 entry.2 found with ⟨noDebt, later⟩
      have ordered : entry.2 ≤ now := later (key, now) List.mem_cons_self
      have gained : 0 ≤ (now - entry.2) * rate := mul_nonneg (by linarith) slow
      exact le_min whole (add_nonneg noDebt gained)

variable [DecidableEq Key]

/-- A call for a key takes the token that it is allowed. -/
theorem serve_self (capacity rate : Time) (buckets : Key → Option (Time × Time)) (key : Key)
    (now : Time) :
    ∃ left, (serve capacity rate buckets (key, now)).1 key = some (left, now) ∧
      left + (if (serve capacity rate buckets (key, now)).2 then 1 else 0) =
        tokensAt capacity rate (buckets key) now ∧
      (0 ≤ tokensAt capacity rate (buckets key) now → 0 ≤ left) := by
  unfold serve
  dsimp only
  split
  · exact ⟨_, Function.update_self _ _ _, by simp, id⟩
  · rename_i enough
    refine ⟨_, Function.update_self _ _ _, by simp, fun _ => ?_⟩
    linarith

theorem held_serve (whole : 0 ≤ capacity) (slow : 0 ≤ rate)
    {buckets : Key → Option (Time × Time)} {key : Key} {call : Key × Time}
    {rest : List (Key × Time)} (held : Held (buckets key) (call :: rest))
    (ordered : ∀ later ∈ rest, call.2 ≤ later.2) :
    Held ((serve capacity rate buckets call).1 key) rest := by
  rcases call with ⟨other, now⟩
  by_cases same : key = other
  · subst same
    rcases serve_self capacity rate buckets key now with
      ⟨left, isLeft, _, noDebt⟩
    intro tokens last found
    rw [isLeft] at found
    cases found
    exact ⟨noDebt (tokensAt_nonneg whole slow held), ordered⟩
  · rw [serve_other capacity rate buckets (other, now) same]
    intro tokens last found
    rcases held tokens last found with ⟨noDebt, later⟩
    exact ⟨noDebt, fun call member => later call (List.mem_cons_of_mem _ member)⟩

/-! ## How much a bucket allows -/

/-- A call that counts has taken a token. -/
theorem allowedIn_serve_self (capacity rate : Time) (buckets : Key → Option (Time × Time))
    (key : Key) (now start stop : Time) (rest : List (Key × Time)) :
    ∃ left, (serve capacity rate buckets (key, now)).1 key = some (left, now) ∧
      left + (allowedIn (Service.log (serve capacity rate) buckets ((key, now) :: rest))
          key start stop : Time) ≤
        tokensAt capacity rate (buckets key) now +
          allowedIn (Service.log (serve capacity rate)
            (serve capacity rate buckets (key, now)).1 rest) key start stop ∧
      (0 ≤ tokensAt capacity rate (buckets key) now → 0 ≤ left) := by
  rcases serve_self capacity rate buckets key now with
    ⟨left, isLeft, taken, noDebt⟩
  refine ⟨left, isLeft, ?_, noDebt⟩
  have counted := allowedIn_cons_le ((key, now), (serve capacity rate buckets (key, now)).2)
    (Service.log (serve capacity rate) (serve capacity rate buckets (key, now)).1 rest)
    key start stop
  rw [← Service.log_cons] at counted
  have counted : (_ : Time) ≤ _ := Nat.cast_le.mpr counted
  rw [← taken]
  push_cast at counted
  linarith

/-- What a bucket allows until `stop`: its tokens and what it gains. -/
theorem allowedIn_le_tokens (whole : 0 ≤ capacity) (slow : 0 ≤ rate)
    {buckets : Key → Option (Time × Time)} {calls : List (Key × Time)}
    (sorted : calls.Pairwise fun earlier later => earlier.2 ≤ later.2) {key : Key}
    {tokens last stop : Time} (start : Time) (isBucket : buckets key = some (tokens, last))
    (held : Held (buckets key) calls) (enough : 0 ≤ tokens) (ordered : last ≤ stop) :
    (allowedIn (Service.log (serve capacity rate) buckets calls) key start stop : Time) ≤
      tokens + (stop - last) * rate := by
  have gained : 0 ≤ (stop - last) * rate := mul_nonneg (by linarith) slow
  induction calls generalizing buckets tokens last with
  | nil => simpa [allowedIn] using add_nonneg enough gained
  | cons call rest ih =>
      rcases List.pairwise_cons.mp sorted with ⟨first, sortedRest⟩
      have heldNext := held_serve whole slow held first
      rcases call with ⟨other, now⟩
      by_cases same : key = other
      · subst same
        by_cases late : stop < now
        · have allLate : ∀ call ∈ (key, now) :: rest, stop < call.2 := by
            intro call member
            rcases List.mem_cons.mp member with rfl | member
            · exact late
            · exact lt_of_lt_of_le late (first call member)
          rw [allowedIn_late buckets allLate, Nat.cast_zero]
          exact add_nonneg enough gained
        · rcases allowedIn_serve_self capacity rate buckets key now start
            stop rest with ⟨left, isLeft, counted, noDebt⟩
          have found : tokensAt capacity rate (buckets key) now ≤ tokens + (now - last) * rate := by
            rw [isBucket]
            exact refill_le _ _
          have later := ih sortedRest isLeft heldNext
            (noDebt (tokensAt_nonneg whole slow held)) (not_lt.mp late)
            (mul_nonneg (by linarith) slow)
          have split : (stop - last) * rate = (now - last) * rate + (stop - now) * rate := by ring
          linarith
      · rw [Service.log_cons, allowedIn_cons_skip (fun inside => same inside.1.symm)]
        have kept := serve_other capacity rate buckets (other, now) same
        exact ih sortedRest (kept.trans isBucket) heldNext enough ordered gained

/-- A key is allowed its capacity and what its bucket gains in the time. -/
theorem allowedIn_le (capacity rate : Time) (whole : 0 ≤ capacity) (slow : 0 ≤ rate)
    (buckets : Key → Option (Time × Time)) {calls : List (Key × Time)}
    (sorted : calls.Pairwise fun earlier later => earlier.2 ≤ later.2) (key : Key)
    {start stop : Time} (held : Held (buckets key) calls) (ordered : start ≤ stop) :
    (allowedIn (Service.log (serve capacity rate) buckets calls) key start stop : Time) ≤
      capacity + (stop - start) * rate := by
  have gained : 0 ≤ (stop - start) * rate := mul_nonneg (by linarith) slow
  induction calls generalizing buckets with
  | nil => simpa [allowedIn] using add_nonneg whole gained
  | cons call rest ih =>
      rcases List.pairwise_cons.mp sorted with ⟨first, sortedRest⟩
      have later := ih _ sortedRest (held_serve whole slow held first)
      rcases call with ⟨other, now⟩
      by_cases inside : other = key ∧ start ≤ now ∧ now ≤ stop
      · rcases inside with ⟨rfl, started, notStopped⟩
        rcases allowedIn_serve_self capacity rate buckets other now start
          stop rest with ⟨left, isLeft, counted, noDebt⟩
        have found : tokensAt capacity rate (buckets other) now ≤ capacity :=
          refill_le_capacity _ _
        have rest := allowedIn_le_tokens whole slow sortedRest start isLeft
          (held_serve whole slow held first) (noDebt (tokensAt_nonneg whole slow held)) notStopped
        have shorter : (stop - now) * rate ≤ (stop - start) * rate :=
          mul_le_mul_of_nonneg_right (by linarith) slow
        linarith
      · rw [Service.log_cons, allowedIn_cons_skip inside]
        exact later

end TokenBucket
