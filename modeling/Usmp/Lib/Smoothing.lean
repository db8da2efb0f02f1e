import Mathlib.Algebra.Order.Field.Basic
import Mathlib.Tactic.Linarith
import Mathlib.Tactic.Ring
import Mathlib.Tactic.Positivity

/-!
# Smoothed estimates

An estimator keeps a smoothed mean of its samples and a smoothed mean of their distances from it.
Each sample moves a mean a fixed fraction, the gain, of the way to itself.
-/

namespace Smoothing

variable {Value : Type} [Field Value]

/-- A mean after a sample. -/
def smooth (gain mean sample : Value) : Value := mean + gain * (sample - mean)

theorem smooth_sub (gain mean sample target : Value) :
    smooth gain mean sample - target =
      (1 - gain) * (mean - target) + gain * (sample - target) := by
  unfold smooth
  ring

variable [LinearOrder Value]

section smooth

variable [IsStrictOrderedRing Value] {gain mean sample : Value}

theorem le_smooth {low : Value} (nonneg : 0 ≤ gain) (le_one : gain ≤ 1) (mean_ge : low ≤ mean)
    (sample_ge : low ≤ sample) : low ≤ smooth gain mean sample := by
  have apart := smooth_sub gain mean sample low
  have old : 0 ≤ (1 - gain) * (mean - low) :=
    mul_nonneg (sub_nonneg.mpr le_one) (sub_nonneg.mpr mean_ge)
  have new : 0 ≤ gain * (sample - low) := mul_nonneg nonneg (sub_nonneg.mpr sample_ge)
  linarith

theorem smooth_le {high : Value} (nonneg : 0 ≤ gain) (le_one : gain ≤ 1) (mean_le : mean ≤ high)
    (sample_le : sample ≤ high) : smooth gain mean sample ≤ high := by
  have apart := smooth_sub gain mean sample high
  have old : 0 ≤ (1 - gain) * (high - mean) :=
    mul_nonneg (sub_nonneg.mpr le_one) (sub_nonneg.mpr mean_le)
  have new : 0 ≤ gain * (high - sample) := mul_nonneg nonneg (sub_nonneg.mpr sample_le)
  linarith

/-- The distance from a target shrinks as far as the sample allows. -/
theorem abs_smooth_sub_le (nonneg : 0 ≤ gain) (le_one : gain ≤ 1) (target : Value) :
    |smooth gain mean sample - target| ≤
      (1 - gain) * |mean - target| + gain * |sample - target| := by
  rw [smooth_sub]
  calc
    |(1 - gain) * (mean - target) + gain * (sample - target)|
        ≤ |(1 - gain) * (mean - target)| + |gain * (sample - target)| := abs_add_le _ _
    _ = (1 - gain) * |mean - target| + gain * |sample - target| := by
      rw [abs_mul, abs_mul, abs_of_nonneg nonneg, abs_of_nonneg (sub_nonneg.mpr le_one)]

end smooth

/-- A smoothed mean and the smoothed distance of the samples from it. -/
structure Estimate (Value : Type) where
  mean : Value
  deviation : Value
  deriving DecidableEq, Repr

namespace Estimate

/-- The estimate after a sample, whose distance is taken from the old mean. -/
def observe (meanGain deviationGain : Value) (estimate : Estimate Value) (sample : Value) :
    Estimate Value :=
  { mean := smooth meanGain estimate.mean sample
    deviation := smooth deviationGain estimate.deviation |sample - estimate.mean| }

variable [IsStrictOrderedRing Value] {meanGain deviationGain : Value}
  {estimate : Estimate Value} {samples : List Value}

/-- The mean stays between bounds of the samples, the deviation below their distance. -/
theorem observe_within {low high spread : Value} (mean_nonneg : 0 ≤ meanGain)
    (mean_le : meanGain ≤ 1) (deviation_nonneg : 0 ≤ deviationGain)
    (deviation_le : deviationGain ≤ 1) (wide : high - low ≤ spread)
    (meanWithin : low ≤ estimate.mean ∧ estimate.mean ≤ high)
    (deviationWithin : 0 ≤ estimate.deviation ∧ estimate.deviation ≤ spread) {sample : Value}
    (within : low ≤ sample ∧ sample ≤ high) :
    let next := estimate.observe meanGain deviationGain sample
    (low ≤ next.mean ∧ next.mean ≤ high) ∧ (0 ≤ next.deviation ∧ next.deviation ≤ spread) := by
  have apart : |sample - estimate.mean| ≤ spread :=
    abs_sub_le_iff.mpr ⟨by linarith, by linarith⟩
  exact ⟨⟨le_smooth mean_nonneg mean_le meanWithin.1 within.1,
      smooth_le mean_nonneg mean_le meanWithin.2 within.2⟩,
    le_smooth deviation_nonneg deviation_le deviationWithin.1 (abs_nonneg _),
    smooth_le deviation_nonneg deviation_le deviationWithin.2 apart⟩

/-- A margin of enough deviations covers the sample just taken. -/
theorem le_margin {factor : Value} (mean_nonneg : 0 ≤ meanGain) (mean_le : meanGain ≤ 1)
    (deviation_le : deviationGain ≤ 1) (factor_nonneg : 0 ≤ factor)
    (covers : 1 ≤ factor * deviationGain) (deviation : 0 ≤ estimate.deviation) (sample : Value) :
    let next := estimate.observe meanGain deviationGain sample
    sample ≤ next.mean + factor * next.deviation := by
  intro next
  have margin : next.mean + factor * next.deviation =
      estimate.mean + meanGain * (sample - estimate.mean) +
        factor * ((1 - deviationGain) * estimate.deviation) +
        factor * deviationGain * |sample - estimate.mean| := by
    simp only [next, observe, smooth]
    ring
  have old : 0 ≤ factor * ((1 - deviationGain) * estimate.deviation) :=
    mul_nonneg factor_nonneg (mul_nonneg (sub_nonneg.mpr deviation_le) deviation)
  have new : |sample - estimate.mean| ≤ factor * deviationGain * |sample - estimate.mean| :=
    le_mul_of_one_le_left (abs_nonneg _) covers
  rw [margin]
  rcases le_total estimate.mean sample with above | below
  · have grows : 0 ≤ meanGain * (sample - estimate.mean) :=
      mul_nonneg mean_nonneg (sub_nonneg.mpr above)
    have reach := (le_abs_self _).trans new
    linarith
  · have shrinks : (1 - meanGain) * (estimate.mean - sample) ≥ 0 :=
      mul_nonneg (sub_nonneg.mpr mean_le) (sub_nonneg.mpr below)
    have reach := (neg_le_abs _).trans new
    linarith

/-- How far an estimate is from samples that lie around a target: `apart` and `wide` shrink
with every sample, `spread` stays. -/
structure Near (target spread apart wide : Value) (estimate : Estimate Value) : Prop where
  mean : |estimate.mean - target| ≤ apart + spread
  deviation : estimate.deviation ≤ wide + 2 * spread

theorem Near.observe {target spread apart wide : Value}
    (near : Near target spread apart wide estimate) (mean_nonneg : 0 ≤ meanGain)
    (mean_le : meanGain ≤ 1) (deviation_nonneg : 0 ≤ deviationGain)
    (deviation_le : deviationGain ≤ 1)
    (wider : deviationGain * apart ≤ (deviationGain - meanGain) * wide) {sample : Value}
    (close : |sample - target| ≤ spread) :
    Near target spread ((1 - meanGain) * apart) ((1 - meanGain) * wide)
      (estimate.observe meanGain deviationGain sample) := by
  constructor
  · have step := @abs_smooth_sub_le Value _ _ _ meanGain estimate.mean sample mean_nonneg mean_le
      target
    have old := mul_le_mul_of_nonneg_left near.mean (sub_nonneg.mpr mean_le)
    have new := mul_le_mul_of_nonneg_left close mean_nonneg
    have total : (1 - meanGain) * (apart + spread) + meanGain * spread =
        (1 - meanGain) * apart + spread := by ring
    exact (step.trans (add_le_add old new)).trans_eq total
  · have distance : |sample - estimate.mean| ≤ apart + 2 * spread := by
      calc
        |sample - estimate.mean| ≤ |sample - target| + |target - estimate.mean| :=
          abs_sub_le _ _ _
        _ ≤ spread + (apart + spread) := by
          rw [abs_sub_comm target]
          exact add_le_add close near.mean
        _ = apart + 2 * spread := by ring
    have old := mul_le_mul_of_nonneg_left near.deviation (sub_nonneg.mpr deviation_le)
    have new := mul_le_mul_of_nonneg_left distance deviation_nonneg
    have step : (estimate.observe meanGain deviationGain sample).deviation =
        (1 - deviationGain) * estimate.deviation +
          deviationGain * |sample - estimate.mean| := by
      simp only [Estimate.observe, smooth]
      ring
    rw [step]
    linarith

/-- Samples around a target draw the estimate towards it, geometrically. -/
theorem Near.foldl {target spread apart wide : Value}
    (near : Near target spread apart wide estimate) (mean_nonneg : 0 ≤ meanGain)
    (mean_le : meanGain ≤ 1) (deviation_nonneg : 0 ≤ deviationGain)
    (deviation_le : deviationGain ≤ 1)
    (wider : deviationGain * apart ≤ (deviationGain - meanGain) * wide)
    (close : ∀ sample ∈ samples, |sample - target| ≤ spread) :
    Near target spread ((1 - meanGain) ^ samples.length * apart)
      ((1 - meanGain) ^ samples.length * wide)
      (samples.foldl (Estimate.observe meanGain deviationGain) estimate) := by
  induction samples generalizing estimate apart wide with
  | nil => simpa using near
  | cons sample rest ih =>
      have first := near.observe mean_nonneg mean_le deviation_nonneg deviation_le wider
        (close sample List.mem_cons_self)
      have stillWider : deviationGain * ((1 - meanGain) * apart) ≤
          (deviationGain - meanGain) * ((1 - meanGain) * wide) := by
        have scaled := mul_le_mul_of_nonneg_left wider (sub_nonneg.mpr mean_le)
        linarith
      have later := ih first stillWider fun other member =>
        close other (List.mem_cons_of_mem _ member)
      rw [List.length_cons, pow_succ, mul_assoc, mul_assoc]
      exact later

end Estimate

end Smoothing
