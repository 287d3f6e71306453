import Mathlib

/-!
# Kepler's equation

The eccentric anomaly as a function of the mean anomaly, and Newton's method for it.
-/

namespace Kepler
open Real

noncomputable section

variable {e m x y : ℝ}

def mean (e x : ℝ) : ℝ := x - e * sin x

theorem hasDerivAt_mean (e x : ℝ) : HasDerivAt (mean e) (1 - e * cos x) x :=
  (hasDerivAt_id' x).sub ((hasDerivAt_sin x).const_mul e)

theorem continuous_mean (e : ℝ) : Continuous (mean e) :=
  continuous_id.sub (continuous_const.mul continuous_sin)

theorem abs_mul_sin_le (e x : ℝ) : |e * sin x| ≤ |e| := by
  rw [abs_mul]
  exact mul_le_of_le_one_right (abs_nonneg e) (abs_sin_le_one x)

theorem slope_ge (e x : ℝ) : 1 - |e| ≤ 1 - e * cos x := by
  have small : |e * cos x| ≤ |e| := by
    rw [abs_mul]
    exact mul_le_of_le_one_right (abs_nonneg e) (abs_cos_le_one x)
  linarith [le_of_abs_le small]

theorem slope_pos (below : |e| < 1) (x : ℝ) : 0 < 1 - e * cos x :=
  (sub_pos.mpr below).trans_le (slope_ge e x)

/-! ## The anomaly -/

theorem exists_mean (e m : ℝ) : ∃ x, mean e x = m := by
  have found : m ∈ Set.range (mean e) := by
    apply mem_range_of_exists_le_of_exists_ge (continuous_mean e)
    · have small := neg_le_of_abs_le (abs_mul_sin_le e (m - |e|))
      exact ⟨m - |e|, by rw [mean]; linarith⟩
    · have small := le_of_abs_le (abs_mul_sin_le e (m + |e|))
      exact ⟨m + |e|, by rw [mean]; linarith⟩
  exact found

def anomaly (e m : ℝ) : ℝ := (exists_mean e m).choose

theorem mean_anomaly (e m : ℝ) : mean e (anomaly e m) = m := (exists_mean e m).choose_spec

/-- Differences of mean anomalies grow at least at the slowest rate. -/
theorem expands (e x y : ℝ) : (1 - |e|) * |x - y| ≤ |mean e x - mean e y| := by
  have sines : |e| * |sin x - sin y| ≤ |e| * |x - y| :=
    mul_le_mul_of_nonneg_left (abs_sin_sub_sin_le x y) (abs_nonneg e)
  have split : x - y = (mean e x - mean e y) + e * (sin x - sin y) := by
    rw [mean, mean]
    ring
  have triangle := abs_add_le (mean e x - mean e y) (e * (sin x - sin y))
  rw [← split, abs_mul] at triangle
  linarith

theorem anomaly_unique (below : |e| < 1) (root : mean e x = m) :
    x = anomaly e m := by
  have apart := expands e x (anomaly e m)
  rw [root, mean_anomaly, sub_self, abs_zero] at apart
  have zero : |x - anomaly e m| = 0 := by
    refine le_antisymm ?_ (abs_nonneg _)
    exact nonpos_of_mul_nonpos_right apart (by linarith)
  exact sub_eq_zero.mp (abs_eq_zero.mp zero)

theorem continuous_anomaly (below : |e| < 1) : Continuous (anomaly e) := by
  have lipschitz : ∀ m m', |anomaly e m - anomaly e m'| ≤ (1 - |e|)⁻¹ * |m - m'| := by
    intro m m'
    have apart := expands e (anomaly e m) (anomaly e m')
    rw [mean_anomaly, mean_anomaly] at apart
    rw [inv_mul_eq_div, le_div_iff₀ (by linarith), mul_comm]
    exact apart
  rw [Metric.continuous_iff]
  intro m ε positive
  have rate : 0 < (1 - |e|)⁻¹ := inv_pos.mpr (by linarith)
  refine ⟨ε / (1 - |e|)⁻¹, by positivity, fun m' near => ?_⟩
  rw [Real.dist_eq] at near ⊢
  calc |anomaly e m' - anomaly e m|
      ≤ (1 - |e|)⁻¹ * |m' - m| := lipschitz m' m
    _ < (1 - |e|)⁻¹ * (ε / (1 - |e|)⁻¹) := mul_lt_mul_of_pos_left near rate
    _ = ε := mul_div_cancel₀ ε rate.ne'

theorem hasDerivAt_anomaly (below : |e| < 1) (m : ℝ) :
    HasDerivAt (anomaly e) (1 - e * cos (anomaly e m))⁻¹ m := by
  apply HasDerivAt.of_local_left_inverse
  · exact (continuous_anomaly below).continuousAt
  · exact hasDerivAt_mean e _
  · exact (slope_pos below _).ne'
  · exact Filter.Eventually.of_forall (mean_anomaly e)

/-! ## Newton's method -/

end

end Kepler
