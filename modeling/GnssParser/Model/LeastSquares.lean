import GnssParser.Lib.LeastSquares
import GnssParser.Model.Positioning

/-!
# The correction of an iteration

`-(good_G.transpose()*good_W*good_G).inverse() * good_G.transpose() * good_W * good_b`
-/

namespace GnssParser
open Matrix

/-- A row whose entries are all finite numbers. -/
structure FiniteRow (n : Nat) where
  g : Fin n → ℚ
  b : ℚ
  w : ℚ

def Equation.finite? {n : Nat} (e : Equation n) : Option (FiniteRow n) :=
  match e.g, e.b, e.w with
  | some g, some (.finite b), some w => some ⟨g, b, w⟩
  | _, _, _ => none

variable {n : Nat} (rows : List (FiniteRow n))

def goodG : Matrix (Fin rows.length) (Fin n) ℚ := .of fun i => rows[i].g
def goodB : Fin rows.length → ℚ := fun i => rows[i].b
def goodW : Fin rows.length → ℚ := fun i => rows[i].w

/-- `none` where an entry or the inverse is no number. -/
def leastSquares (rows : List (Equation n)) : Option (Fin n → ℚ) := do
  let rows ← rows.mapM Equation.finite?
  let inverse ← LeastSquares.inverse (LeastSquares.normal (goodG rows) (goodW rows))
  some (LeastSquares.correction inverse (goodG rows) (goodW rows) (goodB rows))

/-- Eigen computes the correction where there is one. -/
structure Geometry.Solves (g : Geometry) : Prop where
  solve : ∀ {n : Nat} {rows : List (Equation n)} {dx : Fin n → ℚ}, leastSquares rows = some dx →
    g.solve rows = dx

end GnssParser
