import Mathlib

/-!
# Weighted least squares

The correction by the normal equations, for rows `g`, weights `w` and offsets `b`.
-/

namespace LeastSquares
open Matrix

variable {K : Type*} [Field K] {m n : Type*} [Fintype m] [Fintype n] [DecidableEq m]
  {g : Matrix m n K} {w b : m → K} {x y : n → K}

def normal (g : Matrix m n K) (w : m → K) : Matrix n n K := gᵀ * diagonal w * g

/-- The gradient of the cost at offsets `r`. -/
def pull (g : Matrix m n K) (w r : m → K) : n → K := (gᵀ * diagonal w) *ᵥ r

def cost (w r : m → K) : K := ∑ i, w i * (r i * r i)

omit [Fintype n] in
theorem pull_apply (g : Matrix m n K) (w r : m → K) (j : n) :
    pull g w r j = ∑ i, g i j * w i * r i := by
  simp [pull, mulVec, dotProduct, mul_diagonal]

omit [Fintype n] in
theorem normal_apply (g : Matrix m n K) (w : m → K) (j k : n) :
    normal g w j k = ∑ i, g i j * w i * g i k := by
  rw [normal, mul_apply]
  exact Finset.sum_congr rfl fun i _ => by rw [mul_diagonal, transpose_apply]

omit [Fintype n] in
theorem pull_add (g : Matrix m n K) (w r s : m → K) : pull g w (r + s) = pull g w r + pull g w s :=
  mulVec_add _ r s

omit [Fintype n] in
theorem pull_neg (g : Matrix m n K) (w r : m → K) : pull g w (-r) = -pull g w r :=
  mulVec_neg r _

theorem normal_mulVec (g : Matrix m n K) (w : m → K) (x : n → K) :
    normal g w *ᵥ x = pull g w (g *ᵥ x) :=
  (mulVec_mulVec x _ g).symm

theorem dot_pull (g : Matrix m n K) (w r : m → K) (x : n → K) :
    x ⬝ᵥ pull g w r = ∑ i, w i * ((g *ᵥ x) i * r i) := by
  rw [dotProduct]
  simp only [pull_apply, mulVec, dotProduct, Finset.mul_sum, Finset.sum_mul]
  rw [Finset.sum_comm]
  refine Finset.sum_congr rfl fun i _ => Finset.sum_congr rfl fun j _ => ?_
  ring

theorem dot_normal (g : Matrix m n K) (w : m → K) (x : n → K) :
    x ⬝ᵥ (normal g w *ᵥ x) = cost w (g *ᵥ x) := by
  rw [normal_mulVec, dot_pull, cost]

/-- The offsets left after `x` are orthogonal to all columns. -/
def Balances (g : Matrix m n K) (w b : m → K) (x : n → K) : Prop := pull g w (b + g *ᵥ x) = 0

theorem balances_iff : Balances g w b x ↔ normal g w *ᵥ x = -pull g w b := by
  rw [Balances, pull_add, normal_mulVec, eq_neg_iff_add_eq_zero, add_comm]

theorem Balances.cost_add (balances : Balances g w b x) (y : n → K) :
    cost w (b + g *ᵥ y) = cost w (b + g *ᵥ x) + cost w (g *ᵥ (y - x)) := by
  have cross : ∑ i, w i * ((g *ᵥ (y - x)) i * (b + g *ᵥ x) i) = 0 := by
    rw [← dot_pull, balances, dotProduct_zero]
  have split : b + g *ᵥ y = b + g *ᵥ x + g *ᵥ (y - x) := by
    rw [mulVec_sub]
    abel
  have expand (r s : m → K) :
      cost w (r + s) = cost w r + cost w s + 2 * ∑ i, w i * (s i * r i) := by
    rw [cost, cost, cost, Finset.mul_sum, ← Finset.sum_add_distrib, ← Finset.sum_add_distrib]
    refine Finset.sum_congr rfl fun i _ => ?_
    rw [Pi.add_apply]
    ring
  rw [split, expand, cross, mul_zero, add_zero]

/-! ## The correction -/

section
variable [DecidableEq n]

/-- The inverse, if there is one. -/
def inverse [DecidableEq K] (a : Matrix n n K) : Option (Matrix n n K) :=
  if a.det = 0 then none else some (a.det⁻¹ • a.adjugate)

theorem inverse_eq_some [DecidableEq K] {a c : Matrix n n K} :
    inverse a = some c ↔ IsUnit a ∧ c = a⁻¹ := by
  rw [inverse, isUnit_iff_isUnit_det, isUnit_iff_ne_zero]
  split_ifs with singular
  · simp [singular]
  · rw [Option.some.injEq, inv_def, Ring.inverse_eq_inv', eq_comm]
    exact (and_iff_right singular).symm

/-- The correction in the order of operations of matrix arithmetic. -/
def correction (inverse : Matrix n n K) (g : Matrix m n K) (w b : m → K) : n → K :=
  (-inverse * gᵀ * diagonal w) *ᵥ b

omit [DecidableEq n] in
theorem correction_eq (a : Matrix n n K) (g : Matrix m n K) (w b : m → K) :
    correction a g w b = -(a *ᵥ pull g w b) := by
  rw [correction, pull, mulVec_mulVec, ← neg_mulVec, Matrix.mul_assoc, Matrix.neg_mul]

theorem eq_correction_iff (regular : IsUnit (normal g w)) :
    x = correction (normal g w)⁻¹ g w b ↔ Balances g w b x := by
  have unit := (isUnit_iff_isUnit_det _).mp regular
  rw [balances_iff, correction_eq]
  constructor
  · rintro rfl
    rw [mulVec_neg, mulVec_mulVec, mul_nonsing_inv _ unit, one_mulVec]
  · intro solved
    rw [← mulVec_neg, ← solved, mulVec_mulVec, nonsing_inv_mul _ unit, one_mulVec]

theorem full_of_regular (regular : IsUnit (normal g w)) (zero : g *ᵥ x = 0) : x = 0 := by
  have image : normal g w *ᵥ x = normal g w *ᵥ 0 := by
    rw [normal_mulVec, zero, mulVec_zero, pull, mulVec_zero]
  exact mulVec_injective_iff_isUnit.mpr regular image

end

/-! ## Positive weights -/

section
variable [LinearOrder K] [IsStrictOrderedRing K]

omit [DecidableEq m] in
theorem cost_nonneg (nonneg : ∀ i, 0 ≤ w i) (r : m → K) : 0 ≤ cost w r :=
  Finset.sum_nonneg fun i _ => mul_nonneg (nonneg i) (mul_self_nonneg (r i))

omit [DecidableEq m] in
theorem cost_eq_zero (pos : ∀ i, 0 < w i) {r : m → K} (zero : cost w r = 0) : r = 0 := by
  funext i
  have nonneg (i : m) (_ : i ∈ Finset.univ) : 0 ≤ w i * (r i * r i) :=
    mul_nonneg (pos i).le (mul_self_nonneg (r i))
  have each := (Finset.sum_eq_zero_iff_of_nonneg nonneg).mp zero i (Finset.mem_univ i)
  exact mul_self_eq_zero.mp ((mul_eq_zero.mp each).resolve_left (pos i).ne')

theorem Balances.cost_le (balances : Balances g w b x) (nonneg : ∀ i, 0 ≤ w i) :
    cost w (g *ᵥ x) ≤ cost w b := by
  have whole := balances.cost_add (x - x)
  rw [sub_self, mulVec_zero, add_zero, zero_sub, mulVec_neg] at whole
  have left := cost_nonneg nonneg (b + g *ᵥ x)
  have even : cost w (-(g *ᵥ x)) = cost w (g *ᵥ x) := by simp [cost]
  linarith

variable [DecidableEq n]

/-- With positive weights there is a correction exactly if the rows determine the unknowns. -/
theorem regular_iff (pos : ∀ i, 0 < w i) :
    IsUnit (normal g w) ↔ ∀ x, g *ᵥ x = 0 → x = 0 := by
  refine ⟨fun regular x => full_of_regular regular, fun full => ?_⟩
  rw [← mulVec_injective_iff_isUnit]
  intro x y same
  have zero : normal g w *ᵥ (x - y) = 0 := by
    rw [mulVec_sub]
    exact sub_eq_zero.mpr same
  have flat : cost w (g *ᵥ (x - y)) = 0 := by
    rw [← dot_normal, zero, dotProduct_zero]
  exact sub_eq_zero.mp (full _ (cost_eq_zero pos flat))

theorem Balances.unique (balances : Balances g w b x) (pos : ∀ i, 0 < w i)
    (regular : IsUnit (normal g w)) (least : cost w (b + g *ᵥ y) ≤ cost w (b + g *ᵥ x)) : y = x := by
  rw [balances.cost_add y] at least
  have nonpos : cost w (g *ᵥ (y - x)) ≤ 0 := by linarith
  have flat := le_antisymm nonpos (cost_nonneg (fun i => (pos i).le) _)
  exact sub_eq_zero.mp (full_of_regular regular (cost_eq_zero pos flat))

/-- An unknown that all its rows hold at 0 is not corrected. -/
theorem Balances.pinned (balances : Balances g w b x) (nonneg : ∀ i, 0 ≤ w i) {k : n}
    (held : ∀ i, g i k ≠ 0 → g i = Pi.single k 1 ∧ b i = 0) {i : m} (entry : g i k ≠ 0)
    (weighted : 0 < w i) : x k = 0 := by
  have column : normal g w k k * x k = 0 := by
    refine Eq.trans ?_ (congrFun balances k)
    rw [normal_apply, Finset.sum_mul, pull_apply]
    refine Finset.sum_congr rfl fun l _ => ?_
    by_cases zero : g l k = 0
    · rw [zero]
      ring
    · obtain ⟨row, offset⟩ := held l zero
      have value : (g *ᵥ x) l = x k := by
        rw [mulVec, row, single_one_dotProduct]
      rw [Pi.add_apply, value, offset, row, Pi.single_eq_same]
      ring
  have pos : 0 < normal g w k k := by
    rw [normal_apply]
    refine Finset.sum_pos' (fun l _ => ?_) ⟨i, Finset.mem_univ i, ?_⟩
    · rw [mul_right_comm]
      exact mul_nonneg (mul_self_nonneg _) (nonneg l)
    · rw [mul_right_comm]
      exact mul_pos (mul_self_pos.mpr entry) weighted
  exact (mul_eq_zero.mp column).resolve_left pos.ne'

/-! ## Rows that are not the whole derivative -/

variable {s : Matrix m n K}

omit [DecidableEq n] in
/-- Corrections by the rows `g` of offsets that change by `g + s` have the roots of these as limits. -/
theorem error_cost_le (nonneg : ∀ i, 0 ≤ w i) (root : pull g w (b + (g + s) *ᵥ y) = 0)
    {dx : n → K} (step : Balances g w (b + (g + s) *ᵥ x) dx) :
    cost w (g *ᵥ (x + dx - y)) ≤ cost w (s *ᵥ (x - y)) := by
  refine Balances.cost_le ?_ nonneg
  have split : s *ᵥ (x - y) + g *ᵥ (x + dx - y) =
      b + (g + s) *ᵥ x + g *ᵥ dx + -(b + (g + s) *ᵥ y) := by
    simp only [add_mulVec, mulVec_sub, mulVec_add]
    abel
  rw [Balances, split, pull_add, pull_neg, root, neg_zero, add_zero]
  exact step

theorem exists_root (nonneg : ∀ i, 0 ≤ w i)
    (small : ∀ x, x ≠ 0 → cost w (s *ᵥ x) < cost w (g *ᵥ x)) (b : m → K) :
    ∃ y, pull g w (b + (g + s) *ᵥ y) = 0 := by
  let a : Matrix n n K := gᵀ * diagonal w * (g + s)
  have image (x : n → K) : a *ᵥ x = pull g w ((g + s) *ᵥ x) := (mulVec_mulVec x _ _).symm
  have injective : Function.Injective a.mulVec := by
    intro x y same
    by_contra differ
    have balances : Balances g w (s *ᵥ (x - y)) (x - y) := by
      rw [Balances, ← add_mulVec, add_comm s g, ← image, mulVec_sub]
      exact sub_eq_zero.mpr same
    exact (balances.cost_le nonneg).not_gt (small _ (sub_ne_zero.mpr differ))
  obtain ⟨y, solved⟩ := mulVec_surjective_iff_isUnit.mpr (mulVec_injective_iff_isUnit.mp injective)
    (-pull g w b)
  refine ⟨y, ?_⟩
  rw [pull_add, ← image, solved, add_neg_cancel]

end

end LeastSquares
