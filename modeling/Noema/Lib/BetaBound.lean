import Mathlib.Analysis.Real.Sqrt
import Mathlib.Tactic.FieldSimp
import Mathlib.Tactic.Ring

/-!
# A lower bound of a beta distribution

The mean of a beta distribution less some of its standard deviations, cut off at zero.
Written as the mean times a factor, both of which move the same way, it is seen to
grow with the first count and to fall with the second.
-/
namespace BetaBound

variable {a a' b b' k : ℝ}

/-- The mean of the distribution with the counts `a` and `b`. -/
noncomputable def mean (a b : ℝ) : ℝ := a / (a + b)

/-- Its variance. -/
noncomputable def variance (a b : ℝ) : ℝ := a * b / ((a + b) * (a + b) * (a + b + 1))

/-- The mean less `k` standard deviations, at least zero. -/
noncomputable def lowerBound (k a b : ℝ) : ℝ := max 0 (mean a b - k * √(variance a b))

theorem mean_nonneg (ha : 0 ≤ a) (hb : 0 ≤ b) : 0 ≤ mean a b := by
  unfold mean
  positivity

/-- The variance is the square of the mean times what one unit of the mean deviates. -/
theorem variance_eq (ha : 0 < a) (hb : 0 ≤ b) :
    variance a b = mean a b ^ 2 * (b / (a * (a + b + 1))) := by
  unfold variance mean
  field_simp

theorem sqrt_variance (ha : 0 < a) (hb : 0 ≤ b) :
    √(variance a b) = mean a b * √(b / (a * (a + b + 1))) := by
  rw [variance_eq ha hb, Real.sqrt_mul (sq_nonneg _), Real.sqrt_sq (mean_nonneg ha.le hb)]

theorem lowerBound_eq (ha : 0 < a) (hb : 0 ≤ b) :
    lowerBound k a b = mean a b * max 0 (1 - k * √(b / (a * (a + b + 1)))) := by
  have hmean : 0 ≤ mean a b := mean_nonneg ha.le hb
  rw [lowerBound, sqrt_variance ha hb, mul_max_of_nonneg _ _ hmean, mul_zero]
  congr 1
  ring

theorem mean_mono_left (ha : 0 < a) (hb : 0 ≤ b) (h : a ≤ a') : mean a b ≤ mean a' b := by
  have ha' : 0 < a' := lt_of_lt_of_le ha h
  unfold mean
  rw [div_le_div_iff₀ (by positivity) (by positivity)]
  have hstep : a * b ≤ a' * b := mul_le_mul_of_nonneg_right h hb
  linarith [mul_comm a a']

theorem mean_anti_right (ha : 0 < a) (hb : 0 ≤ b) (h : b ≤ b') : mean a b' ≤ mean a b := by
  unfold mean
  gcongr

/-- A greater first count leaves less to deviate. -/
theorem spread_anti_left (ha : 0 < a) (hb : 0 ≤ b) (h : a ≤ a') :
    b / (a' * (a' + b + 1)) ≤ b / (a * (a + b + 1)) := by
  have ha' : 0 < a' := lt_of_lt_of_le ha h
  gcongr

/-- A greater second count leaves more. -/
theorem spread_mono_right (ha : 0 < a) (hb : 0 ≤ b) (h : b ≤ b') :
    b / (a * (a + b + 1)) ≤ b' / (a * (a + b' + 1)) := by
  have hb' : 0 ≤ b' := hb.trans h
  rw [div_le_div_iff₀ (by positivity) (by positivity)]
  have hstep : b * (a * (a + 1)) ≤ b' * (a * (a + 1)) :=
    mul_le_mul_of_nonneg_right h (by positivity)
  calc b * (a * (a + b' + 1)) = b * (a * (a + 1)) + a * b * b' := by ring
    _ ≤ b' * (a * (a + 1)) + a * b * b' := by linarith
    _ = b' * (a * (a + b + 1)) := by ring

/-- **The bound grows with the first count.** -/
theorem lowerBound_mono_left (hk : 0 ≤ k) (ha : 0 < a) (hb : 0 ≤ b) (h : a ≤ a') :
    lowerBound k a b ≤ lowerBound k a' b := by
  have ha' : 0 < a' := lt_of_lt_of_le ha h
  rw [lowerBound_eq ha hb, lowerBound_eq ha' hb]
  have hspread := Real.sqrt_le_sqrt (spread_anti_left ha hb h)
  refine mul_le_mul (mean_mono_left ha hb h) ?_ (le_max_left _ _) (mean_nonneg ha'.le hb)
  exact max_le_max le_rfl (sub_le_sub_left (mul_le_mul_of_nonneg_left hspread hk) 1)

/-- **The bound falls with the second count.** -/
theorem lowerBound_anti_right (hk : 0 ≤ k) (ha : 0 < a) (hb : 0 ≤ b) (h : b ≤ b') :
    lowerBound k a b' ≤ lowerBound k a b := by
  have hb' : 0 ≤ b' := hb.trans h
  rw [lowerBound_eq ha hb, lowerBound_eq ha hb']
  have hspread := Real.sqrt_le_sqrt (spread_mono_right ha hb h)
  refine mul_le_mul (mean_anti_right ha hb h) ?_ (le_max_left _ _) (mean_nonneg ha.le hb)
  exact max_le_max le_rfl (sub_le_sub_left (mul_le_mul_of_nonneg_left hspread hk) 1)

end BetaBound
