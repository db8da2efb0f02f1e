import Usmp.Lib.Machine
import Usmp.Lib.TokenBucket
import Usmp.Server.Limiter
import Mathlib.Data.List.Sort

/-!
# The cookie limiter as token buckets

The table of `_allow_udp_cookie` forgets the buckets that are full again.  A bucket that
is missing answers like a full one, so until the table has to evict, its answers are
those of an unbounded table with one bucket for each IP.
-/

namespace Usmp

open TokenBucket

/-- `_allow_udp_cookie` as a service: a call is an IP and its time. -/
def serveCookie (limiter : CookieLimiter) (call : String × Rat) : CookieLimiter × Bool :=
  allowUdpCookie limiter call.1 call.2

/-- Whether a call has to evict: more than 1000 buckets are left that are not full. -/
def evictsCookie (limiter : CookieLimiter) (call : String × Rat) : Bool :=
  let tokens := refilled ((limiter.get? call.1).getD (10, call.2)) call.2
  let limiter := limiter.set call.1 (tokens - 1, call.2)
  !(tokens < 1) && limiter.size > 1000 &&
    (limiter.filter fun _ bucket => refilled bucket call.2 < 10).size > 1000

/-- A bucket of the table is the key's, and a bucket that is not there is full. -/
structure Remembered (limiter : CookieLimiter) (buckets : String → Option (Rat × Rat))
    (calls : List (String × Rat)) : Prop where
  held : ∀ ip bucket, limiter.get? ip = some bucket → buckets ip = some bucket
  full : ∀ ip, limiter.get? ip = none → ∀ call ∈ calls, tokensAt 10 5 (buckets ip) call.2 = 10

namespace Remembered

variable {limiter : CookieLimiter} {buckets : String → Option (Rat × Rat)}
  {calls : List (String × Rat)}

theorem nothing (calls : List (String × Rat)) : Remembered {} (fun _ => none) calls where
  held _ _ found := by cases found
  full _ _ _ _ := tokensAt_none _

theorem tokens_eq {ip : String} {now : Rat}
    (remembered : Remembered limiter buckets ((ip, now) :: calls)) :
    refilled ((limiter.get? ip).getD (10, now)) now = tokensAt 10 5 (buckets ip) now := by
  cases found : limiter.get? ip with
  | some bucket =>
      rw [remembered.held ip bucket found]
      rfl
  | none =>
      rw [remembered.full ip found (ip, now) List.mem_cons_self]
      exact tokensAt_none now

theorem set {call : String × Rat} (remembered : Remembered limiter buckets (call :: calls))
    (ip : String) (bucket : Rat × Rat) :
    Remembered (limiter.set ip bucket) (Function.update buckets ip (some bucket)) calls where
  held other found isFound := by
    rw [Dict.get?_set] at isFound
    by_cases same : other = ip
    · subst same
      rw [Function.update_self]
      rwa [if_pos rfl] at isFound
    · rw [Function.update_of_ne same]
      rw [if_neg same] at isFound
      exact remembered.held other found isFound
  full other absent later member := by
    rw [Dict.get?_set] at absent
    by_cases same : other = ip
    · rw [if_pos same] at absent
      cases absent
    · rw [if_neg same] at absent
      rw [Function.update_of_ne same]
      exact remembered.full other absent later (List.mem_cons_of_mem _ member)

/-- To drop the buckets that are full again loses nothing. -/
theorem dropFull (remembered : Remembered limiter buckets calls) {now : Rat}
    (ordered : ∀ call ∈ calls, now ≤ call.2) :
    Remembered (limiter.filter fun _ bucket => refilled bucket now < 10) buckets calls where
  held ip bucket found := by
    rw [Dict.get?_filter] at found
    exact remembered.held ip bucket (Option.eq_some_of_filter_eq_some found)
  full ip absent call member := by
    rw [Dict.get?_filter] at absent
    cases found : limiter.get? ip with
    | none => exact remembered.full ip found call member
    | some bucket =>
        rw [found, Option.filter_eq_none_iff] at absent
        have notLess := absent bucket rfl
        rw [decide_eq_true_eq, not_lt] at notLess
        have full : refill 10 5 bucket now = 10 :=
          le_antisymm (refill_le_capacity bucket now) notLess
        rw [remembered.held ip bucket found]
        exact refill_full (by decide) full (ordered call member)

end Remembered

/-- Without an eviction the table drops full buckets or nothing. -/
theorem pruneCookieLimiter_cases {limiter : CookieLimiter} {now : Rat}
    (noEviction : ¬ (limiter.size > 1000 ∧
      (limiter.filter fun _ bucket => refilled bucket now < 10).size > 1000)) :
    pruneCookieLimiter limiter now = limiter ∨
      pruneCookieLimiter limiter now = limiter.filter fun _ bucket => refilled bucket now < 10 := by
  unfold pruneCookieLimiter
  dsimp only
  split
  · rename_i crowded
    rw [if_neg (fun stillCrowded => noEviction ⟨crowded, stillCrowded⟩)]
    exact .inr rfl
  · exact .inl rfl

/-- One call: the same answer, and the bucket of every IP is still remembered. -/
theorem remembered_serve {limiter : CookieLimiter} {buckets : String → Option (Rat × Rat)}
    {call : String × Rat} {calls : List (String × Rat)}
    (remembered : Remembered limiter buckets (call :: calls))
    (ordered : ∀ later ∈ calls, call.2 ≤ later.2)
    (noEviction : evictsCookie limiter call = false) :
    (serveCookie limiter call).2 = (serve 10 5 buckets call).2 ∧
      Remembered (serveCookie limiter call).1 (serve 10 5 buckets call).1 calls := by
  rcases call with ⟨ip, now⟩
  have tokens := remembered.tokens_eq
  have set := remembered.set ip
  simp only [evictsCookie, tokens] at noEviction
  simp only [serveCookie, allowUdpCookie, serve, tokens]
  generalize tokensAt 10 5 (buckets ip) now = found at noEviction
  by_cases empty : found < 1
  · rw [if_pos empty, if_pos empty]
    exact ⟨rfl, set _⟩
  · rw [if_neg empty, if_neg empty]
    refine ⟨rfl, ?_⟩
    have fits : ¬ ((limiter.set ip (found - 1, now)).size > 1000 ∧
        ((limiter.set ip (found - 1, now)).filter
          fun _ bucket => refilled bucket now < 10).size > 1000) := by
      simpa [empty] using noEviction
    rcases pruneCookieLimiter_cases fits with same | dropped
    · rw [same]
      exact set _
    · rw [dropped]
      exact (set _).dropFull ordered

/-! ## The size of the table -/

theorem size_evict (limiter : CookieLimiter) (excess : Nat) (enough : excess ≤ limiter.size)
    (older : String × Rat × Rat → String × Rat × Rat → Bool) :
    (((limiter.entries.mergeSort older).take excess).foldl
      (fun limiter entry => limiter.erase entry.1) limiter).size = limiter.size - excess := by
  have sorted : (limiter.entries.mergeSort older).Perm limiter.entries :=
    List.mergeSort_perm _ _
  have gone : (((limiter.entries.mergeSort older).take excess).map Prod.fst).Nodup :=
    ((sorted.map Prod.fst).nodup_iff.mpr limiter.nodup).sublist
      ((List.take_sublist _ _).map Prod.fst)
  have present : ∀ key ∈ ((limiter.entries.mergeSort older).take excess).map Prod.fst,
      key ∈ limiter.entries.map Prod.fst := fun key member =>
    (sorted.map Prod.fst).subset (((List.take_sublist _ _).map Prod.fst).subset member)
  have count := limiter.size_foldl_erase gone present
  rw [List.foldl_map, List.length_map, List.length_take, sorted.length_eq] at count
  rw [Dict.size] at enough count ⊢
  rw [min_eq_left enough] at count
  exact Nat.eq_sub_of_add_eq count

theorem size_prune (limiter : CookieLimiter) (now : Rat) :
    (pruneCookieLimiter limiter now).size ≤ 1000 := by
  unfold pruneCookieLimiter
  dsimp only
  split
  · split
    · rename_i crowded
      rw [size_evict _ _ (Nat.sub_le _ _)]
      omega
    · rename_i fits
      exact Nat.not_lt.mp fits
  · rename_i fits
    exact Nat.not_lt.mp fits

theorem size_serve {limiter : CookieLimiter} (size : limiter.size ≤ 1000)
    (call : String × Rat) : (serveCookie limiter call).1.size ≤ 1000 := by
  rcases call with ⟨ip, now⟩
  unfold serveCookie allowUdpCookie
  dsimp only
  split
  · rename_i empty
    cases found : limiter.get? ip with
    | none =>
        -- a bucket that is not there is full
        simp [found, refilled] at empty
    | some bucket =>
        rw [Dict.size_set_old found]
        exact size
  · exact size_prune _ now

/-- The step of the table, for conditions along a run of calls. -/
def cookieStep (limiter : CookieLimiter) (call : String × Rat) : Option CookieLimiter :=
  some (serveCookie limiter call).1

/-- Until it evicts, the limiter answers like one bucket for each IP; so an IP is allowed
no more than its capacity and the refill of the time.  The table never exceeds its bound. -/
theorem cookieLimiter_tokenBuckets (calls : List (String × Rat)) :
    (calls.Pairwise (fun earlier later => earlier.2 ≤ later.2) →
      Machine.Along cookieStep (fun limiter call => evictsCookie limiter call = false) {} calls →
      Service.log serveCookie {} calls = Service.log (serve 10 5) (fun _ => none) calls ∧
        ∀ ip start span, 0 ≤ span →
          (allowedIn (Service.log serveCookie {} calls) ip start (start + span) : Rat) ≤
            10 + 5 * span) ∧
      (Service.after serveCookie {} calls).size ≤ 1000 := by
  constructor
  · intro ordered noEviction
    have same : Service.log serveCookie {} calls =
        Service.log (serve 10 5) (fun _ => none) calls := by
      apply Service.log_eq_log fun limiter buckets calls =>
        Remembered limiter buckets calls ∧
          calls.Pairwise (fun earlier later => earlier.2 ≤ later.2) ∧
          Machine.Along cookieStep (fun limiter call => evictsCookie limiter call = false)
            limiter calls
      · intro limiter buckets call rest related
        rcases related with ⟨remembered, ordered, noEviction⟩
        rcases List.pairwise_cons.mp ordered with ⟨first, orderedRest⟩
        rcases remembered_serve remembered first noEviction.1 with ⟨answer, remembered⟩
        exact ⟨answer, remembered, orderedRest, noEviction.2 _ rfl⟩
      · exact ⟨.nothing calls, ordered, noEviction⟩
    refine ⟨same, ?_⟩
    intro ip start span isSpan
    have noDebt : Held (none : Option (Rat × Rat)) calls := by
      intro tokens last impossible
      cases impossible
    have bound := allowedIn_le 10 5 (by decide) (by decide) (fun _ => none) ordered ip noDebt
      (le_add_of_nonneg_right isSpan : start ≤ start + span)
    rw [same]
    linarith
  · exact Service.after_invariant (fun limiter => Dict.size limiter ≤ 1000)
      (fun _ call size => size_serve size call) (Nat.zero_le _) calls

/-- Eleven calls of one IP at once, and a second later one of another and one more. -/
def sampleCookieCalls : List (String × Rat) :=
  List.replicate 11 ("192.0.2.1", 0) ++ [("192.0.2.2", 1), ("192.0.2.1", 1)]

theorem cookieLimiter_tokenBuckets_sampleCookieCalls :
    Service.log serveCookie {} sampleCookieCalls =
        Service.log (serve 10 5) (fun _ => none) sampleCookieCalls ∧
      allowedIn (Service.log serveCookie {} sampleCookieCalls) "192.0.2.1" 0 1 = 11 ∧
      (allowedIn (Service.log serveCookie {} sampleCookieCalls) "192.0.2.1" 0 (0 + 1) : Rat) ≤
        10 + 5 * 1 := by
  have buckets := (cookieLimiter_tokenBuckets sampleCookieCalls).1 (by decide +kernel)
    (by decide +kernel)
  exact ⟨buckets.1, by decide +kernel, buckets.2 "192.0.2.1" 0 1 (by decide)⟩

end Usmp
