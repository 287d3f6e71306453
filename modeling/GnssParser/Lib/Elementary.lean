import Mathlib.Analysis.SpecialFunctions.Complex.Arg
import Mathlib.Analysis.SpecialFunctions.Pow.Real
import Mathlib.Analysis.SpecialFunctions.Trigonometric.Arctan
import Mathlib.Analysis.SpecialFunctions.Trigonometric.Inverse

/-!
# Elementary functions

The functions of a mathematical library over any number type, and the real ones.
-/

structure Elementary (K : Type) where
  sin : K → K
  cos : K → K
  sqrt : K → K
  atan : K → K
  atan2 : K → K → K
  asin : K → K
  exp : K → K
  pow : K → K → K

namespace Elementary

noncomputable def real : Elementary ℝ where
  sin := Real.sin
  cos := Real.cos
  sqrt := Real.sqrt
  atan := Real.arctan
  atan2 y x := Complex.arg ⟨x, y⟩
  asin := Real.arcsin
  exp := Real.exp
  pow x y := x ^ y

@[simp] theorem real_sin (x : ℝ) : real.sin x = Real.sin x := rfl

@[simp] theorem real_cos (x : ℝ) : real.cos x = Real.cos x := rfl

@[simp] theorem real_sqrt (x : ℝ) : real.sqrt x = √x := rfl

@[simp] theorem real_atan (x : ℝ) : real.atan x = Real.arctan x := rfl

@[simp] theorem real_atan2 (y x : ℝ) : real.atan2 y x = Complex.arg ⟨x, y⟩ := rfl

@[simp] theorem real_asin (x : ℝ) : real.asin x = Real.arcsin x := rfl

@[simp] theorem real_exp (x : ℝ) : real.exp x = Real.exp x := rfl

@[simp] theorem real_pow (x y : ℝ) : real.pow x y = x ^ y := rfl

end Elementary
