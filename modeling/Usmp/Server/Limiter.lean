import Usmp.Errors
import Usmp.Lib.Dict
import Mathlib.Data.Rat.Floor

/-!
# The two limiters

`record_failed_handshake` with the table of failed handshakes, and the token bucket of
the cookie path.  Both tables are keyed by the text of an IP address; times are readings
of `time.monotonic`, as exact rationals.
-/

namespace Usmp

/-- `(fail_count, lockout_until, last_attempt_time)`. -/
structure FailedEntry where
  fails : Nat
  lockoutUntil : Rat
  lastAttempt : Rat
  deriving DecidableEq, Repr

abbrev FailedHandshakes := Dict String FailedEntry

/-- `2.0 ** exponent`. -/
def floatPowTwo (exponent : Nat) : Except Exn Rat :=
  if exponent ≥ 1024 then
    .error ⟨.overflowError, "(34, 'Numerical result out of range')"⟩
  else
    .ok (2 ^ exponent)

/-- The lockout after a failure, given the number of failures. -/
def lockoutAfter (fails : Nat) (now : Rat) : Except Exn Rat :=
  if fails ≥ 5 then
    match floatPowTwo (fails - 5) with
    | .error exn => .error exn
    | .ok power => .ok (now + min 60 power)
  else
    .ok 0

/-- `min(keys, key=last_attempt_time)`: the first key among the oldest. -/
def oldestKey : List (String × FailedEntry) → Option String
  | [] => none
  | first :: rest =>
      some (rest.foldl (fun oldest entry =>
        if entry.2.lastAttempt < oldest.2.lastAttempt then entry else oldest) first).1

/-- Make room for one more key. -/
def evictOldest (table : FailedHandshakes) (limiterKey : String) : FailedHandshakes :=
  if table.size ≥ 1000 ∧ table.get? limiterKey = none then
    match oldestKey table.entries with
    | some oldest => table.erase oldest
    | none => table
  else
    table

def FailedEntry.expired (entry : FailedEntry) (now : Rat) : Bool :=
  now - entry.lastAttempt > 600 || (entry.lockoutUntil > 0 && entry.lockoutUntil < now)

def recordFailedHandshake (table : FailedHandshakes) (limiterKey : String) (now : Rat) :
    Except Exn FailedHandshakes :=
  let fails := ((table.get? limiterKey).map FailedEntry.fails).getD 0 + 1
  match lockoutAfter fails now with
  | .error exn => .error exn
  | .ok lockoutUntil =>
      let table := (evictOldest table limiterKey).set limiterKey ⟨fails, lockoutUntil, now⟩
      .ok (table.filter fun _ entry => !entry.expired now)

/-- The check for an active lockout. -/
def isLockedOut (table : FailedHandshakes) (limiterKey : String) (now : Rat) : Bool :=
  match table.get? limiterKey with
  | some entry => entry.lockoutUntil > now
  | none => false

/-! ## The cookie path -/

abbrev CookieLimiter := Dict String (Rat × Rat)

/-- The tokens of a bucket after its refill. -/
def refilled (bucket : Rat × Rat) (now : Rat) : Rat :=
  min 10 (bucket.1 + (now - bucket.2) * 5)

/-- Drop the buckets that are full again, and then the oldest ones beyond 1000. -/
def pruneCookieLimiter (limiter : CookieLimiter) (now : Rat) : CookieLimiter :=
  if limiter.size > 1000 then
    let limiter := limiter.filter fun _ bucket => refilled bucket now < 10
    if limiter.size > 1000 then
      let oldest := limiter.entries.mergeSort fun left right => left.2.2 ≤ right.2.2
      (oldest.take (limiter.size - 1000)).foldl (fun limiter entry => limiter.erase entry.1) limiter
    else
      limiter
  else
    limiter

/-- `_allow_udp_cookie`. -/
def allowUdpCookie (limiter : CookieLimiter) (ip : String) (now : Rat) :
    CookieLimiter × Bool :=
  let tokens := refilled ((limiter.get? ip).getD (10, now)) now
  if tokens < 1 then
    (limiter.set ip (tokens, now), false)
  else
    (pruneCookieLimiter (limiter.set ip (tokens - 1, now)) now, true)

end Usmp
