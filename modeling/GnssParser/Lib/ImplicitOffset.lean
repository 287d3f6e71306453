import Mathlib.Topology.Order.IntermediateValue
import Mathlib.Topology.MetricSpace.Basic
import Mathlib.Topology.Instances.Real.Lemmas
import Mathlib.Tactic

/-!
# Offsets of a clock at its own reading

A reading `d` is the time `d - s` when the clock is off by `s = f (d - s)`. The equation has one root
where `f` changes slowly, and what is left of it after some subtractions of `f` is of second order.
-/

namespace ImplicitOffset

/-- Near the reading `f` is at most `m` and changes at most at the rate `l`. -/
structure Slow (f : ℝ → ℝ) (d m l : ℝ) : Prop where
  continuous : Continuous f
  small : ∀ x, |x - d| ≤ 2 * m → |f x| ≤ m
  rate : ∀ x y, |x - d| ≤ 2 * m → |y - d| ≤ 2 * m → |f x - f y| ≤ l * |x - y|

def Root (f : ℝ → ℝ) (d m s : ℝ) : Prop := |s| ≤ m ∧ s = f (d - s)

variable {f : ℝ → ℝ} {d m l s t : ℝ}

namespace Slow

theorem exists_root (slow : Slow f d m l) (wide : 0 ≤ m) : ∃ s, Root f d m s := by
  have near (s : ℝ) (inside : |s| ≤ m) : |f (d - s)| ≤ m := by
    apply slow.small
    rw [sub_sub_cancel_left, abs_neg]
    linarith
  have continuous : Continuous fun s => f (d - s) - s := by
    have := slow.continuous
    fun_prop
  have low : f (d - m) - m ≤ 0 := by
    linarith [(abs_le.mp (near m (abs_of_nonneg wide).le)).2]
  have high : 0 ≤ f (d - -m) - -m := by
    linarith [(abs_le.mp (near (-m) ((abs_neg m).trans (abs_of_nonneg wide)).le)).1]
  obtain ⟨s, inside, root⟩ :=
    intermediate_value_Icc' (by linarith : -m ≤ m) continuous.continuousOn ⟨low, high⟩
  exact ⟨s, abs_le.mpr inside, (sub_eq_zero.mp root).symm⟩

end Slow

/-! ## Polynomials of degree two -/

def quadratic {K : Type} [Add K] [Mul K] (a b c x : K) : K := a + b * x + c * x * x

variable {a b c r : ℝ}

end ImplicitOffset
