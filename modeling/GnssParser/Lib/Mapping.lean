import Mathlib.Tactic

/-!
# Mapping functions

The continued fraction of the sine of an elevation that maps a delay at the zenith to the elevation.
-/

namespace Mapping

variable {K : Type*} [Field K] [LinearOrder K] [IsStrictOrderedRing K] {k a b c s t : K}

def inner (b c s : K) : K := s + b / (s + c)

def outer (a b c s : K) : K := s + a / inner b c s

/-- Coefficients for which the fraction grows with the sine. -/
structure Admissible (k a b c : K) : Prop where
  k_pos : 0 < k
  a_pos : 0 < a
  b_pos : 0 < b
  c_pos : 0 < c
  a_le : a ≤ k * k
  discriminant : (c + k) * (c + k) ≤ b + b + (b + b)

theorem Admissible.cast {k a b c : ℚ} (ok : Admissible k a b c) :
    Admissible (k : K) (a : K) (b : K) (c : K) where
  k_pos := by exact_mod_cast ok.k_pos
  a_pos := by exact_mod_cast ok.a_pos
  b_pos := by exact_mod_cast ok.b_pos
  c_pos := by exact_mod_cast ok.c_pos
  a_le := by exact_mod_cast ok.a_le
  discriminant := by exact_mod_cast ok.discriminant

/-! ## The fraction -/

variable (ok : Admissible k a b c)
include ok

end Mapping
