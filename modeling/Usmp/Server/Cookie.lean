import Usmp.Crypto
import Mathlib.Data.Rat.Floor
import Mathlib.Tactic.Linarith

/-!
# Return-routability cookies

A cookie is a truncated HMAC over the text `ip:port:bucket`, where the bucket counts
intervals of 30 seconds.  The text determines all three parts, whatever the address
looks like, and a cookie lives in its own bucket and the next.
-/

namespace Usmp

/-- `(ip, port)`. -/
abbrev Addr := String × Nat

/-- `int(time.time() // 30)`. -/
def timeBucket (wall : Rat) : Int := ⌊wall / 30⌋

/-- `f"{ip}:{port}:{bucket}"`. -/
def cookieText (addr : Addr) (bucket : Int) : String :=
  addr.1 ++ ":" ++ addr.2.repr ++ ":" ++ bucket.repr

/-- `text.encode()`. -/
def cookieMessage (addr : Addr) (bucket : Int) : Bytes :=
  (cookieText addr bucket).toUTF8.data.toList

/-- `hmac.new(secret, message, sha256).digest()[:16]`. -/
def cookieTag (P : Primitives) (secret message : Bytes) : Bytes :=
  (P.hmacSha256 secret message).1.take 16

/-- The cookie that the listener sends at a time. -/
def issueCookie (P : Primitives) (secret : Bytes) (addr : Addr) (wall : Rat) : Bytes :=
  cookieTag P secret (cookieMessage addr (timeBucket wall))

theorem length_issueCookie (P : Primitives) (secret : Bytes) (addr : Addr) (wall : Rat) :
    (issueCookie P secret addr wall).length = 16 := by
  simp [issueCookie, cookieTag, (P.hmacSha256 secret _).2]

/-- The comparison with the cookies of the current and the previous bucket. -/
def cookieValid (P : Primitives) (secret : Bytes) (addr : Addr) (wall : Rat) (cookie : Bytes) :
    Bool :=
  cookie = cookieTag P secret (cookieMessage addr (timeBucket wall)) ||
    cookie = cookieTag P secret (cookieMessage addr (timeBucket wall - 1))

/-! ## The text -/

/-- A separator that the last field does not contain splits a text in one way. -/
theorem append_separator_inj {separator : Char} {left right left' right' : List Char}
    (absent : separator ∉ right) (absent' : separator ∉ right')
    (equal : left ++ separator :: right = left' ++ separator :: right') :
    left = left' ∧ right = right' := by
  induction left generalizing left' with
  | nil =>
      cases left' with
      | nil => exact ⟨rfl, (List.cons.inj equal).2⟩
      | cons first rest =>
          apply absurd _ absent
          rw [(List.cons.inj equal).2]
          simp
  | cons first rest ih =>
      cases left' with
      | nil =>
          apply absurd _ absent'
          rw [← (List.cons.inj equal).2]
          simp
      | cons first' rest' =>
          rw [List.cons_append, List.cons_append] at equal
          rcases List.cons.inj equal with ⟨sameFirst, sameRest⟩
          rcases ih sameRest with ⟨sameLeft, sameRight⟩
          exact ⟨by rw [sameFirst, sameLeft], sameRight⟩

theorem not_mem_natRepr {char : Char} (notDigit : char.isDigit = false) (number : Nat) :
    char ∉ number.repr.toList := by
  intro member
  rw [Nat.toList_repr] at member
  have digit := Nat.isDigit_of_mem_toDigits (by decide) (by decide) member
  rw [notDigit] at digit
  cases digit

theorem natRepr_inj {left right : Nat} (equal : left.repr = right.repr) : left = right := by
  have digits := congrArg (fun text => Nat.ofDigitChars 10 text.toList 0) equal
  simpa only [Nat.toList_repr, Nat.ofDigitChars_ten_toDigits] using digits

theorem intRepr_toList (number : Int) :
    number.repr.toList =
      if 0 ≤ number then number.toNat.repr.toList else '-' :: (-number).toNat.repr.toList := by
  rw [Int.repr_eq_if]
  split
  · rfl
  · simp

theorem colon_not_mem_intRepr (number : Int) : ':' ∉ number.repr.toList := by
  rw [intRepr_toList]
  split
  · exact not_mem_natRepr rfl _
  · simp only [List.mem_cons, not_or]
    exact ⟨by decide, not_mem_natRepr rfl _⟩

theorem intRepr_inj {left right : Int} (equal : left.repr = right.repr) : left = right := by
  have texts := congrArg String.toList equal
  rw [intRepr_toList, intRepr_toList] at texts
  split at texts <;> split at texts
  · have same := natRepr_inj (String.toList_inj.mp texts)
    omega
  · apply absurd _ (not_mem_natRepr (rfl : '-'.isDigit = false) left.toNat)
    rw [texts]
    simp
  · apply absurd _ (not_mem_natRepr (rfl : '-'.isDigit = false) right.toNat)
    rw [← texts]
    simp
  · have same := natRepr_inj (String.toList_inj.mp (List.cons.inj texts).2)
    omega

theorem cookieText_toList (addr : Addr) (bucket : Int) :
    (cookieText addr bucket).toList =
      (addr.1.toList ++ ':' :: addr.2.repr.toList) ++ ':' :: bucket.repr.toList := by
  simp [cookieText, String.toList_append]

/-- The text of a cookie determines the address and the bucket. -/
theorem cookieMessage_inj {addr addr' : Addr} {bucket bucket' : Int}
    (equal : cookieMessage addr bucket = cookieMessage addr' bucket') :
    addr = addr' ∧ bucket = bucket' := by
  have texts : cookieText addr bucket = cookieText addr' bucket' :=
    String.toByteArray_inj.mp (ByteArray.ext (Array.toList_inj.mp equal))
  have chars := congrArg String.toList texts
  rw [cookieText_toList, cookieText_toList] at chars
  rcases append_separator_inj (colon_not_mem_intRepr _) (colon_not_mem_intRepr _) chars with
    ⟨fronts, buckets⟩
  rcases append_separator_inj (not_mem_natRepr rfl _) (not_mem_natRepr rfl _) fronts with
    ⟨ips, ports⟩
  have samePort := natRepr_inj (String.toList_inj.mp ports)
  exact ⟨Prod.ext (String.toList_inj.mp ips) samePort, intRepr_inj (String.toList_inj.mp buckets)⟩

/-! ## The life of a cookie -/

/-- A moment lies in its bucket. -/
theorem timeBucket_bounds (wall : Rat) :
    (timeBucket wall : Rat) * 30 ≤ wall ∧ wall < (timeBucket wall + 1) * 30 := by
  have below := Int.floor_le (wall / 30)
  have above := Int.lt_floor_add_one (wall / 30)
  rw [le_div_iff₀ (by norm_num)] at below
  rw [div_lt_iff₀ (by norm_num)] at above
  exact ⟨below, above⟩

theorem timeBucket_mono {earlier later : Rat} (ordered : earlier ≤ later) :
    timeBucket earlier ≤ timeBucket later :=
  Int.floor_le_floor (by linarith)

/-- 30 seconds reach into the next bucket at most. -/
theorem timeBucket_within {issued wall : Rat} (ordered : issued ≤ wall)
    (recent : wall ≤ issued + 30) :
    timeBucket wall = timeBucket issued ∨ timeBucket wall = timeBucket issued + 1 := by
  have start := timeBucket_mono ordered
  have bound : timeBucket wall ≤ timeBucket (issued + 30) := timeBucket_mono recent
  have next : timeBucket (issued + 30) = timeBucket issued + 1 := by
    rw [timeBucket, timeBucket, ← Int.floor_add_one]
    congr 1
    ring
  omega

/-- A cookie is valid for 30 seconds at least. -/
theorem cookieValid_within (P : Primitives) (secret : Bytes) (addr : Addr) {issued wall : Rat}
    (ordered : issued ≤ wall) (recent : wall ≤ issued + 30) :
    cookieValid P secret addr wall (issueCookie P secret addr issued) = true := by
  rw [cookieValid, issueCookie, Bool.or_eq_true]
  rcases timeBucket_within ordered recent with same | next
  · left
    rw [same]
    exact decide_eq_true rfl
  · right
    rw [next, Int.add_sub_cancel]
    exact decide_eq_true rfl

/-- The messages whose cookies the comparison accepts. -/
def checkedMessages (addr : Addr) (wall : Rat) : List Bytes :=
  [cookieMessage addr (timeBucket wall), cookieMessage addr (timeBucket wall - 1)]

theorem cookieValid_iff (P : Primitives) (secret : Bytes) (addr : Addr) (wall : Rat)
    (cookie : Bytes) :
    cookieValid P secret addr wall cookie = true ↔
      ∃ message ∈ checkedMessages addr wall, cookie = cookieTag P secret message := by
  simp [cookieValid, checkedMessages]

/-- A cookie that is valid was issued for the address, less than 60 seconds before, unless
it collides with that of another message. -/
theorem recent_of_cookieValid {P : Primitives} {secret : Bytes} {addr addr' : Addr}
    {issued wall : Rat}
    (distinct : ∀ message ∈ checkedMessages addr wall,
      issueCookie P secret addr' issued = cookieTag P secret message →
        cookieMessage addr' (timeBucket issued) = message)
    (valid : cookieValid P secret addr wall (issueCookie P secret addr' issued) = true) :
    addr' = addr ∧ wall < issued + 60 := by
  rcases (cookieValid_iff _ _ _ _ _).mp valid with ⟨message, isChecked, sameTag⟩
  have sameMessage := distinct message isChecked sameTag
  have start := (timeBucket_bounds issued).1
  have finish := (timeBucket_bounds wall).2
  simp only [checkedMessages, List.mem_cons, List.not_mem_nil, or_false] at isChecked
  rcases isChecked with rfl | rfl
  · rcases cookieMessage_inj sameMessage with ⟨sameAddr, sameBucket⟩
    rw [sameBucket] at start
    exact ⟨sameAddr, by linarith⟩
  · rcases cookieMessage_inj sameMessage with ⟨sameAddr, sameBucket⟩
    have cast : (timeBucket issued : Rat) = timeBucket wall - 1 := by
      rw [sameBucket]
      push_cast
      rfl
    rw [cast] at start
    exact ⟨sameAddr, by linarith⟩

end Usmp
