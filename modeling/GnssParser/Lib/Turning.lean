import Mathlib

/-!
# Turning angles

The rate of an angle that may jump by whole turns: the rate at which its sine and cosine move.
-/

open Real

structure Turning (θ : ℝ → ℝ) (rate t : ℝ) : Prop where
  cos : HasDerivAt (fun t => Real.cos (θ t)) (-(Real.sin (θ t) * rate)) t
  sin : HasDerivAt (fun t => Real.sin (θ t)) (Real.cos (θ t) * rate) t

namespace Turning

variable {θ φ x y : ℝ → ℝ} {rate rate' x' y' t : ℝ}

theorem of_hasDerivAt (moves : HasDerivAt θ rate t) : Turning θ rate t where
  cos := by simpa using moves.cos
  sin := moves.sin

theorem congr_rate (turns : Turning θ rate t) (same : rate = rate') : Turning θ rate' t :=
  same ▸ turns

theorem add (turns : Turning θ rate t) (turns' : Turning φ rate' t) :
    Turning (fun t => θ t + φ t) (rate + rate') t where
  cos := by
    simp only [cos_add]
    refine ((turns.cos.mul turns'.cos).sub (turns.sin.mul turns'.sin)).congr_deriv ?_
    rw [sin_add]
    ring
  sin := by
    simp only [sin_add]
    refine ((turns.sin.mul turns'.cos).add (turns.cos.mul turns'.sin)).congr_deriv ?_
    rw [cos_add]
    ring

theorem double (turns : Turning θ rate t) : Turning (fun t => 2 * θ t) (2 * rate) t := by
  simpa only [two_mul] using turns.add turns

/-- The direction of a moving point of the plane. -/
theorem arg (moves : HasDerivAt x x' t) (moves' : HasDerivAt y y' t)
    (away : 0 < x t * x t + y t * y t) :
    Turning (fun t => Complex.arg ⟨x t, y t⟩) ((x t * y' - y t * x') / (x t * x t + y t * y t)) t := by
  have square : HasDerivAt (fun s => x s * x s + y s * y s) (2 * (x t * x' + y t * y')) t :=
    ((moves.mul moves).add (moves'.mul moves')).congr_deriv (by ring)
  have radius := square.sqrt away.ne'
  have norm (s : ℝ) : ‖(⟨x s, y s⟩ : ℂ)‖ = √(x s * x s + y s * y s) := by
    rw [Complex.norm_def, Complex.normSq_mk]
  have cosine (s : ℝ) (away : 0 < x s * x s + y s * y s) :
      Real.cos (Complex.arg ⟨x s, y s⟩) = x s / √(x s * x s + y s * y s) := by
    have nonzero : (⟨x s, y s⟩ : ℂ) ≠ 0 := by
      intro zero
      obtain ⟨first, second⟩ : x s = 0 ∧ y s = 0 := Complex.ext_iff.mp zero
      simp [first, second] at away
    rw [Complex.cos_arg nonzero, norm]
  have sine (s : ℝ) : Real.sin (Complex.arg ⟨x s, y s⟩) = y s / √(x s * x s + y s * y s) := by
    rw [Complex.sin_arg, norm]
  have near : ∀ᶠ s in nhds t, 0 < x s * x s + y s * y s :=
    square.continuousAt.eventually (lt_mem_nhds away)
  have positive : 0 < √(x t * x t + y t * y t) := sqrt_pos.mpr away
  have root := sq_sqrt away.le
  constructor
  · have ratio := moves.div radius positive.ne'
    refine (ratio.congr_of_eventuallyEq (near.mono cosine)).congr_deriv ?_
    rw [sine]
    generalize √(x t * x t + y t * y t) = r at root positive ⊢
    rw [← root]
    field_simp
    linear_combination x' * root
  · have ratio := moves'.div radius positive.ne'
    simp only [sine]
    refine ratio.congr_deriv ?_
    rw [cosine t away]
    generalize √(x t * x t + y t * y t) = r at root positive ⊢
    rw [← root]
    field_simp
    linear_combination y' * root

end Turning
