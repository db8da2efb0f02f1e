import Mathlib.Data.List.Basic

/-!
# Reading results off a stream

A reader gives the first result of a stream and what is left of it, or `none` as long as the
stream ends before its first result.  `Reads stream results rest` says that the reader takes
`results` off the stream, one after the other, and leaves `rest`.
-/

namespace StreamReader

universe u v

variable {Symbol : Type u} {Result : Type v}

inductive Reads (next : List Symbol → Option (Result × List Symbol)) :
    List Symbol → List Result → List Symbol → Prop where
  | nil (stream : List Symbol) : Reads next stream [] stream
  | cons {stream left rest : List Symbol} {result : Result} {results : List Result}
      (first : next stream = some (result, left)) (later : Reads next left results rest) :
      Reads next stream (result :: results) rest

/-- What arrives later does not change the first result. -/
def Steady (next : List Symbol → Option (Result × List Symbol)) : Prop :=
  ∀ stream left result more, next stream = some (result, left) →
    next (stream ++ more) = some (result, left ++ more)

namespace Reads

variable {next : List Symbol → Option (Result × List Symbol)} {stream rest rest' : List Symbol}
  {results results' : List Result}

theorem append (steady : Steady next) (reads : Reads next stream results rest)
    (more : List Symbol) : Reads next (stream ++ more) results (rest ++ more) := by
  induction reads with
  | nil stream => exact .nil _
  | cons first later ih => exact .cons (steady _ _ _ more first) ih

/-- The next result. -/
theorem snoc (reads : Reads next stream results rest) {result : Result} {left : List Symbol}
    (read : next rest = some (result, left)) :
    Reads next stream (results ++ [result]) left := by
  induction reads with
  | nil stream => exact .cons read (.nil left)
  | cons first later ih => exact .cons first (ih read)

/-- Of two readers of the same stream one is ahead. -/
theorem comparable (reads : Reads next stream results rest)
    (reads' : Reads next stream results' rest') :
    results <+: results' ∨ results' <+: results := by
  induction reads generalizing results' with
  | nil stream => exact .inl (List.nil_prefix)
  | cons first later ih =>
      cases reads' with
      | nil => exact .inr (List.nil_prefix)
      | cons first' later' =>
          cases first.symm.trans first'
          rcases ih later' with ahead | behind
          · exact .inl ((List.prefix_append_right_inj [_]).mpr ahead)
          · exact .inr ((List.prefix_append_right_inj [_]).mpr behind)

/-- No reader is ahead of one that cannot go on. -/
theorem behind_stuck (reads : Reads next stream results rest)
    (reads' : Reads next stream results' rest') (stuck : next rest' = none) :
    results <+: results' := by
  induction reads generalizing results' with
  | nil stream => exact List.nil_prefix
  | cons first later ih =>
      cases reads' with
      | nil =>
          rw [stuck] at first
          cases first
      | cons first' later' =>
          cases first.symm.trans first'
          exact (List.prefix_append_right_inj [_]).mpr (ih later')

end Reads

end StreamReader
