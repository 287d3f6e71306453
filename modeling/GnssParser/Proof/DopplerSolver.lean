import GnssParser.Proof.LeastSquares

/-!
# Convergence of the velocity solver

The rows leave out how the Sagnac term depends on the velocity. The iterations converge all the same.
-/

namespace GnssParser
open Checked Matrix

/-! ## Rows -/

/-- The residual of a satellite as a function of the state. -/
structure VelocityRow where
  g : Fin 4 → ℚ
  /-- what the row leaves out of the derivative -/
  sagnac : Fin 4 → ℚ
  base : ℚ
  w : ℚ

def VelocityRow.at (row : VelocityRow) (xyztDot : Fin 4 → ℚ) : FiniteRow 4 where
  g := row.g
  b := row.base + (row.g + row.sagnac) ⬝ᵥ xyztDot
  w := row.w

variable {g : Geometry} {tracked : List Tracked} {refEcef : Vector3d}

def directionRow (g : Geometry) (refEcef : Vector3d) (t : Tracked) : Fin 4 → ℚ :=
  Fin.append (-sight g refEcef t) (1 : Fin 1 → ℚ)

def sagnacRow (t : Tracked) : Fin 4 → ℚ :=
  (earthOmgGps / lightSpeed) • ![-t.state.pos 1, t.state.pos 0, 0, 0]

theorem directionRow_dotProduct (g : Geometry) (refEcef : Vector3d) (t : Tracked) (v : Fin 4 → ℚ) :
    directionRow g refEcef t ⬝ᵥ v = v 3 - sight g refEcef t ⬝ᵥ fun i => v (Fin.castAdd 1 i) := by
  have split := Fin.sum_univ_add (a := 3) (b := 1) fun i =>
    Fin.append (-sight g refEcef t) (1 : Fin 1 → ℚ) i * v i
  simp only [Fin.append_left, Fin.append_right, Fin.sum_univ_one, Pi.one_apply, one_mul] at split
  refine split.trans ?_
  rw [add_comm, sub_eq_add_neg, ← neg_dotProduct]
  rfl

theorem sagnacRow_dotProduct (t : Tracked) (v : Fin 4 → ℚ) : sagnacRow t ⬝ᵥ v =
    earthOmgGps / lightSpeed * (t.state.pos 0 * v 1 - t.state.pos 1 * v 0) := by
  simp [sagnacRow, dotProduct, Fin.sum_univ_four]
  ring

def Above (g : Geometry) (refEcef : Vector3d) (t : Tracked) : Prop :=
  cutOff < (g.satAzel refEcef t.state.pos).2

instance (g : Geometry) (refEcef : Vector3d) (t : Tracked) : Decidable (Above g refEcef t) :=
  inferInstanceAs (Decidable (_ < _))

/-- The row of a satellite in all iterations. -/
structure VelocityRow.Of (g : Geometry) (refEcef : Vector3d) (t : Tracked) (row : VelocityRow) : Prop where
  direction : row.g = directionRow g refEcef t
  sagnac : row.sagnac = sagnacRow t
  weight : ∃ std ∈ t.obs.doppStd,
    weightDopp std (g.sin (g.satAzel refEcef t.state.pos).2) t.sys t.ephem.base.ura = some row.w
  weighted : 0 < row.w
  values : ∀ xyztDot r e, doppResOf g xyztDot refEcef (g.satAzel refEcef t.state.pos) t = some r →
    doppEquation g r = some e → e.finite? = some (row.at xyztDot)

theorem velocityRow_exists (sines : g.UsedSines) {t : Tracked} (measured : t.Measured)
    (above : Above g refEcef t) : ∃ row, VelocityRow.Of g refEcef t row := by
  obtain ⟨i, k, valid⟩ := measured.valid
  have inside : i < t.obs.dopp.length := by
    rw [valid.aligned.dopp]
    exact l1Freq_some valid.l1
  have insideStd : i < t.obs.doppStd.length := by
    rw [valid.aligned.doppStd]
    exact l1Freq_some valid.l1
  obtain ⟨dopp, finite⟩ := measured.dopp _ (List.getElem_mem inside)
  have positive : HasWeight (weightDopp t.obs.doppStd[i] (g.sin (g.satAzel refEcef t.state.pos).2)
      t.sys t.ephem.base.ura) :=
    (weight_hasWeight (by norm_num) (by norm_num) (sines.above _ _ above) measured.indexed).mpr
      measured.accurate
  obtain ⟨w, weight, pos⟩ := positive
  refine ⟨{
    g := directionRow g refEcef t
    sagnac := sagnacRow t
    base := t.state.vel ⬝ᵥ sight g refEcef t + earthOmgGps / lightSpeed *
      (t.state.vel 0 * refEcef 1 - t.state.vel 1 * refEcef 0) - t.state.ddt * lightSpeed +
      lightSpeed / (l1Freq t.obs).1 * dopp
    w }, rfl, rfl, ⟨_, List.getElem_mem insideStd, weight⟩, pos, ?_⟩
  intro xyztDot r e residual equation
  rw [doppResOf] at residual
  dsimp only at residual
  rw [if_neg valid.freq, valid.l1] at residual
  simp only [List.getElem?_eq_getElem inside, finite, Option.bind_eq_bind, Option.bind_some,
    affine] at residual
  cases residual
  rw [doppEquation, valid.l1] at equation
  simp only [List.getElem?_eq_getElem insideStd, Option.bind_eq_bind, Option.bind_some] at equation
  rw [Tracked.sys] at weight
  rw [weight] at equation
  cases equation
  refine congrArg (fun b => some (FiniteRow.mk (directionRow g refEcef t) b w)) ?_
  rw [add_dotProduct, directionRow_dotProduct, sagnacRow_dotProduct]
  simp only [sight, dotProduct, Fin.sum_univ_three, Pi.sub_apply]
  ring

/-! ## Systems -/

theorem finite_rows {n : Nat} {residual : Tracked → Option (Residual n)}
    {equation : Residual n → Option (Equation n)} {all : List (Residual n)}
    {equations : List (Equation n)} {used : Tracked → Bool}
    {row : Tracked → FiniteRow n}
    (related : List.Forall₂ (fun t r => residual t = some r) tracked all)
    (written : List.Forall₂ (fun r e => equation r = some e) (all.filter Residual.good) equations)
    (good : ∀ t ∈ tracked, ∀ r, residual t = some r → (r.good ↔ used t))
    (each : ∀ t ∈ tracked, used t → ∀ r e, residual t = some r → equation r = some e →
      e.finite? = some (row t)) :
    equations.mapM Equation.finite? = some ((tracked.filter used).map row) := by
  induction related generalizing equations with
  | nil =>
      cases written
      rfl
  | @cons t r tracked all first _ ih =>
      have later {equations : List (Equation n)} (written : List.Forall₂ (fun r e => equation r = some e)
          (all.filter Residual.good) equations) := ih written
        (fun t mem => good t (List.mem_cons_of_mem _ mem))
        fun t mem => each t (List.mem_cons_of_mem _ mem)
      have isUsed := good t List.mem_cons_self r first
      by_cases isGood : r.good
      · rw [List.filter_cons_of_pos isGood] at written
        rw [List.filter_cons_of_pos (isUsed.mp isGood)]
        cases written with
        | cons computed rest =>
            rw [List.mapM_cons, later rest,
              each t List.mem_cons_self (isUsed.mp isGood) r _ first computed]
            rfl
      · rw [List.filter_cons_of_neg isGood] at written
        rw [List.filter_cons_of_neg (fun here => isGood (isUsed.mpr here))]
        exact later written

/-- The satellites in use and their rows are the same in all iterations. -/
theorem doppSystem_rows (sines : g.UsedSines) (measured : ∀ t ∈ tracked, t.Measured)
    (refEcef : Vector3d) : ∃ row : Tracked → VelocityRow,
      (∀ t ∈ tracked, Above g refEcef t → (row t).Of g refEcef t) ∧
      ∀ xyztDot, ∃ rows, doppSystem g refEcef tracked xyztDot = some rows ∧
        rows.mapM Equation.finite? =
          some (((tracked.filter (Above g refEcef ·)).map row).map fun row => row.at xyztDot) := by
  have rowOf : ∀ t, ∃ row : VelocityRow, t ∈ tracked → Above g refEcef t → row.Of g refEcef t := by
    intro t
    by_cases here : t ∈ tracked ∧ Above g refEcef t
    · obtain ⟨row, is⟩ := velocityRow_exists sines (measured t here.1) here.2
      exact ⟨row, fun _ _ => is⟩
    · exact ⟨⟨0, 0, 0, 0⟩, fun mem above => absurd ⟨mem, above⟩ here⟩
  choose row is using rowOf
  refine ⟨row, is, fun xyztDot => ?_⟩
  obtain ⟨all, equations, related, written, computed⟩ :=
    doppSystem_eq g refEcef xyztDot fun t mem => (measured t mem).valid
  refine ⟨equations, computed, ?_⟩
  rw [List.map_map]
  refine finite_rows related written (fun t mem r residual => ?_) fun t mem above r e residual written =>
    (is t mem (of_decide_eq_true above)).values xyztDot r e residual written
  obtain ⟨i, k, valid⟩ := (measured t mem).valid
  obtain ⟨r', residual', -, -, good⟩ :=
    doppResOf_valid g xyztDot refEcef (g.satAzel refEcef t.state.pos) valid
  cases residual.symm.trans residual'
  exact good.trans decide_eq_true_iff.symm

/-! ## Contraction -/

section
variable (used : List VelocityRow)

def velocityG : Matrix (Fin used.length) (Fin 4) ℚ := .of fun i => used[i].g
def velocitySagnac : Matrix (Fin used.length) (Fin 4) ℚ := .of fun i => used[i].sagnac
def velocityBase : Fin used.length → ℚ := fun i => used[i].base
def velocityW : Fin used.length → ℚ := fun i => used[i].w

/-- The offsets of the rows at a state. -/
def velocityB (xyztDot : Fin 4 → ℚ) : Fin used.length → ℚ :=
  velocityBase used + (velocityG used + velocitySagnac used) *ᵥ xyztDot

variable {used}

theorem balances_at (xyztDot dx : Fin 4 → ℚ) :
    LeastSquares.Balances (goodG (used.map fun row => row.at xyztDot))
      (goodW (used.map fun row => row.at xyztDot)) (goodB (used.map fun row => row.at xyztDot)) dx ↔
    LeastSquares.Balances (velocityG used) (velocityW used) (velocityB used xyztDot) dx := by
  rw [LeastSquares.Balances, LeastSquares.Balances, funext_iff, funext_iff]
  refine forall_congr' fun j => ?_
  rw [LeastSquares.pull_apply, LeastSquares.pull_apply]
  have left := Fin.sum_univ_fun_getElem (used.map fun row => row.at xyztDot)
    fun row => row.g j * row.w * (row.b + row.g ⬝ᵥ dx)
  have right := Fin.sum_univ_fun_getElem used
    fun row => row.g j * row.w * (row.base + (row.g + row.sagnac) ⬝ᵥ xyztDot + row.g ⬝ᵥ dx)
  rw [List.map_map] at left
  exact Iff.of_eq (congrArg (· = 0) (left.trans right.symm))

/-- How far the satellites in use are spread over the sky. -/
structure Spread (used : List VelocityRow) : Prop where
  nonempty : used ≠ []
  wide : ∀ v : Fin 4 → ℚ, 1.1e-4 * (used.map VelocityRow.w).sum * squaredNorm v ≤
    LeastSquares.cost (velocityW used) (velocityG used *ᵥ v)

variable (weighted : ∀ row ∈ used, 0 < row.w)
  (slow : ∀ row ∈ used, ∀ v : Fin 4 → ℚ,
    (row.sagnac ⬝ᵥ v) * (row.sagnac ⬝ᵥ v) ≤ 1.1e-10 * squaredNorm v)
  (spread : Spread used)
include weighted

theorem velocityW_pos (i : Fin used.length) : 0 < velocityW used i :=
  weighted _ (List.getElem_mem i.isLt)

theorem weights_pos (nonempty : used ≠ []) : 0 < (used.map VelocityRow.w).sum := by
  refine List.sum_pos _ (fun w mem => ?_) (by simpa using nonempty)
  obtain ⟨row, inside, rfl⟩ := List.mem_map.mp mem
  exact weighted row inside

include slow in
theorem sagnac_cost_le (v : Fin 4 → ℚ) :
    LeastSquares.cost (velocityW used) (velocitySagnac used *ᵥ v) ≤
      1.1e-10 * (used.map VelocityRow.w).sum * squaredNorm v := by
  rw [LeastSquares.cost, ← Fin.sum_univ_fun_getElem, Finset.mul_sum, Finset.sum_mul]
  refine Finset.sum_le_sum fun i _ => ?_
  have mem : used[i] ∈ used := List.getElem_mem i.isLt
  have each := mul_le_mul_of_nonneg_left (slow _ mem v) (weighted _ mem).le
  refine each.trans_eq ?_
  simp only [Fin.getElem_fin]
  ring

include slow spread in
/-- A correction leaves at most a thousandth of the distance to the root. -/
theorem velocity_contracts {x y dx : Fin 4 → ℚ}
    (root : LeastSquares.pull (velocityG used) (velocityW used) (velocityB used y) = 0)
    (step : LeastSquares.Balances (velocityG used) (velocityW used) (velocityB used x) dx) :
    squaredNorm (x + dx - y) ≤ 1e-6 * squaredNorm (x - y) := by
  have total := weights_pos weighted spread.nonempty
  have chain := (spread.wide (x + dx - y)).trans
    ((LeastSquares.error_cost_le (fun i => (velocityW_pos weighted i).le) root step).trans
      (sagnac_cost_le weighted slow (x - y)))
  have scaled : 1.1e-4 * (used.map VelocityRow.w).sum * squaredNorm (x + dx - y) ≤
      1.1e-4 * (used.map VelocityRow.w).sum * (1e-6 * squaredNorm (x - y)) := by
    refine chain.trans_eq ?_
    ring
  exact le_of_mul_le_mul_left scaled (mul_pos (by norm_num) total)

include slow spread in
theorem velocity_root : ∃ y,
    LeastSquares.pull (velocityG used) (velocityW used) (velocityB used y) = 0 := by
  refine LeastSquares.exists_root (fun i => (velocityW_pos weighted i).le) (fun x nonzero => ?_) _
  obtain ⟨i, entry⟩ := Function.ne_iff.mp nonzero
  have total := weights_pos weighted spread.nonempty
  have size := squaredNorm_pos entry
  refine (sagnac_cost_le weighted slow x).trans_lt (lt_of_lt_of_le ?_ (spread.wide x))
  have positive := mul_pos total size
  rw [mul_assoc, mul_assoc]
  linarith

include spread in
theorem velocity_regular (xyztDot : Fin 4 → ℚ) :
    Determines (used.map fun row => row.at xyztDot) := by
  intro v unseen
  by_contra nonzero
  obtain ⟨i, entry⟩ := Function.ne_iff.mp nonzero
  have flat : velocityG used *ᵥ v = 0 := funext fun i =>
    unseen _ (List.mem_map_of_mem (List.getElem_mem i.isLt))
  have wide := spread.wide v
  rw [flat, LeastSquares.cost] at wide
  simp only [Pi.zero_apply, mul_zero, Finset.sum_const_zero] at wide
  have positive := mul_pos (weights_pos weighted spread.nonempty) (squaredNorm_pos entry)
  linarith

end

/-! ## Runs -/

theorem sagnac_slow {t : Tracked} (orbit : t.state.pos 0 ^ 2 + t.state.pos 1 ^ 2 ≤ 4.3e7 ^ 2)
    (v : Fin 4 → ℚ) : (sagnacRow t ⬝ᵥ v) * (sagnacRow t ⬝ᵥ v) ≤ 1.1e-10 * squaredNorm v := by
  have cross : (t.state.pos 0 * v 1 - t.state.pos 1 * v 0) ^ 2 ≤
      (t.state.pos 0 ^ 2 + t.state.pos 1 ^ 2) * (v 0 ^ 2 + v 1 ^ 2) := by
    nlinarith [sq_nonneg (t.state.pos 0 * v 0 + t.state.pos 1 * v 1)]
  have part : v 0 ^ 2 + v 1 ^ 2 ≤ squaredNorm v := by
    rw [squaredNorm, Fin.sum_univ_four]
    nlinarith [mul_self_nonneg (v 2), mul_self_nonneg (v 3)]
  have bound := cross.trans (mul_le_mul orbit part (by positivity) (by norm_num))
  have rate : (earthOmgGps / lightSpeed) ^ 2 * 4.3e7 ^ 2 ≤ 1.1e-10 := by
    norm_num [earthOmgGps, lightSpeed]
  have size : 0 ≤ squaredNorm v := Finset.sum_nonneg fun i _ => mul_self_nonneg (v i)
  rw [sagnacRow_dotProduct, ← sq, mul_pow]
  calc (earthOmgGps / lightSpeed) ^ 2 * (t.state.pos 0 * v 1 - t.state.pos 1 * v 0) ^ 2
      ≤ (earthOmgGps / lightSpeed) ^ 2 * (4.3e7 ^ 2 * squaredNorm v) :=
        mul_le_mul_of_nonneg_left bound (sq_nonneg _)
    _ = (earthOmgGps / lightSpeed) ^ 2 * 4.3e7 ^ 2 * squaredNorm v := (mul_assoc _ _ _).symm
    _ ≤ 1.1e-10 * squaredNorm v := mul_le_mul_of_nonneg_right rate size

/-- The satellites in use are spread over the sky: the eigenvalues of the normal matrix are not below
0.00011 of the sum of the weights. -/
def WellSpread (g : Geometry) (position : Vector3d) (tracked : List Tracked) : Prop :=
  ∃ equations rows, doppSystem g position tracked 0 = some equations ∧
    equations.mapM Equation.finite? = some rows ∧ rows ≠ [] ∧
    ∀ v : Fin 4 → ℚ, 1.1e-4 * (rows.map FiniteRow.w).sum * squaredNorm v ≤
      (rows.map fun row => row.w * ((row.g ⬝ᵥ v) * (row.g ⬝ᵥ v))).sum

/-- Each iteration is one step of a contraction. -/
def Contracts (g : Geometry) (position : Vector3d) (tracked : List Tracked) (limit : Fin 4 → ℚ) : Prop :=
  ∀ xyztDot, ∃ dx, doppNext g position tracked xyztDot =
      some (xyztDot + dx, decide (squaredNorm dx > epsilonPvt * epsilonPvt)) ∧
    squaredNorm (xyztDot + dx - limit) ≤ 1e-6 * squaredNorm (xyztDot - limit)

/-- The rows of the iterations from a reference position. -/
structure VelocityRows (g : Geometry) (position : Vector3d) (tracked : List Tracked)
    (used : List VelocityRow) : Prop where
  weighted : ∀ row ∈ used, 0 < row.w
  slow : ∀ row ∈ used, ∀ v : Fin 4 → ℚ, (row.sagnac ⬝ᵥ v) * (row.sagnac ⬝ᵥ v) ≤ 1.1e-10 * squaredNorm v
  spread : Spread used
  systems : ∀ xyztDot, ∃ rows, doppSystem g position tracked xyztDot = some rows ∧
    rows.mapM Equation.finite? = some (used.map fun row => row.at xyztDot)

theorem velocityRows_exist (sines : g.UsedSines) (measured : ∀ t ∈ tracked, t.Measured)
    {position : Vector3d} (orbits : ∀ t ∈ tracked, t.state.pos 0 ^ 2 + t.state.pos 1 ^ 2 ≤ 4.3e7 ^ 2)
    (spread : WellSpread g position tracked) : ∃ used, VelocityRows g position tracked used := by
  obtain ⟨rowOf, is, systems⟩ := doppSystem_rows sines measured position
  have sources : ∀ row ∈ (tracked.filter (Above g position ·)).map rowOf, ∃ t ∈ tracked,
      row.Of g position t := by
    intro _ mem
    obtain ⟨t, kept, rfl⟩ := List.mem_map.mp mem
    obtain ⟨inside, above⟩ := List.mem_filter.mp kept
    exact ⟨t, inside, is t inside (of_decide_eq_true above)⟩
  generalize (tracked.filter (Above g position ·)).map rowOf = used at systems sources
  refine ⟨used, fun row mem => ?_, fun row mem v => ?_, ?_, systems⟩
  · obtain ⟨t, -, is⟩ := sources row mem
    exact is.weighted
  · obtain ⟨t, inside, is⟩ := sources row mem
    rw [is.sagnac]
    exact sagnac_slow (orbits t inside) v
  · obtain ⟨equations, rows, computed, finite, nonempty, wide⟩ := spread
    obtain ⟨equations', computed', finite'⟩ := systems 0
    cases computed.symm.trans computed'
    cases finite.symm.trans finite'
    refine ⟨fun empty => nonempty (by rw [empty]; rfl), fun v => ?_⟩
    have cost := Fin.sum_univ_fun_getElem used fun row => row.w * ((row.g ⬝ᵥ v) * (row.g ⬝ᵥ v))
    have bound := wide v
    rw [List.map_map, List.map_map] at bound
    exact bound.trans_eq cost.symm

variable {position : Vector3d} {used : List VelocityRow}

theorem VelocityRows.correction (velocityRows : VelocityRows g position tracked used)
    (xyztDot : Fin 4 → ℚ) : ∃ rows dx, doppSystem g position tracked xyztDot = some rows ∧
      leastSquares rows = some dx ∧
      LeastSquares.Balances (velocityG used) (velocityW used) (velocityB used xyztDot) dx := by
  obtain ⟨rows, computed, finite⟩ := velocityRows.systems xyztDot
  have weighted : ∀ row ∈ used.map fun row => row.at xyztDot, 0 < row.w := by
    intro _ mem
    obtain ⟨row, inside, rfl⟩ := List.mem_map.mp mem
    exact velocityRows.weighted row inside
  obtain ⟨dx, some⟩ := Option.isSome_iff_exists.mp ((leastSquares_isSome finite weighted).mpr
    (velocity_regular velocityRows.weighted velocityRows.spread xyztDot))
  obtain ⟨-, balances⟩ := (leastSquares_eq_some finite).mp some
  exact ⟨rows, dx, computed, some, (balances_at xyztDot dx).mp balances⟩

theorem VelocityRows.contracts (velocityRows : VelocityRows g position tracked used)
    (solves : g.Solves) : ∃ limit, Contracts g position tracked limit := by
  obtain ⟨limit, root⟩ :=
    velocity_root velocityRows.weighted velocityRows.slow velocityRows.spread
  refine ⟨limit, fun xyztDot => ?_⟩
  obtain ⟨rows, dx, computed, some, balances⟩ := velocityRows.correction xyztDot
  refine ⟨dx, ?_, velocity_contracts velocityRows.weighted velocityRows.slow velocityRows.spread root
    balances⟩
  rw [doppNext, computed]
  simp only [Option.bind_eq_bind, Option.bind_some, solves.solve some]

/-- Where a correction is within the tolerance, the state is much closer to the limit. -/
theorem close_of_stop {x y dx : Fin 4 → ℚ}
    (contracted : squaredNorm (x + dx - y) ≤ 1e-6 * squaredNorm (x - y))
    (stop : squaredNorm dx ≤ epsilonPvt * epsilonPvt) : squaredNorm (x + dx - y) ≤ 1e-21 := by
  have parallelogram : squaredNorm (x - y) ≤ 2 * squaredNorm dx + 2 * squaredNorm (x + dx - y) := by
    rw [squaredNorm, squaredNorm, squaredNorm, Finset.mul_sum, Finset.mul_sum, ← Finset.sum_add_distrib]
    refine Finset.sum_le_sum fun i _ => ?_
    simp only [Pi.sub_apply, Pi.add_apply]
    nlinarith [sq_nonneg (x i + dx i - y i + dx i)]
  norm_num [epsilonPvt] at stop contracted parallelogram ⊢
  linarith

theorem doppLoop_close {limit : Fin 4 → ℚ}
    (contracts : Contracts g position tracked limit) (left : Nat) (xyztDot : Fin 4 → ℚ) :
    ∃ result, doppLoop g position tracked left xyztDot = some result ∧
      (squaredNorm (result - limit) ≤ 1e-21 ∨
        squaredNorm (result - limit) ≤ 1e-6 ^ left * squaredNorm (xyztDot - limit)) := by
  induction left generalizing xyztDot with
  | zero => exact ⟨xyztDot, rfl, .inr (by rw [pow_zero, one_mul])⟩
  | succ left ih =>
      obtain ⟨dx, step, contracted⟩ := contracts xyztDot
      rw [doppLoop, step]
      simp only [Option.bind_eq_bind, Option.bind_some]
      split_ifs with continues
      · obtain ⟨result, ran, close | close⟩ := ih (xyztDot + dx)
        · exact ⟨result, ran, .inl close⟩
        · refine ⟨result, ran, .inr (close.trans ?_)⟩
          rw [pow_succ, mul_assoc]
          exact mul_le_mul_of_nonneg_left contracted (by positivity)
      · exact ⟨_, rfl, .inl (close_of_stop contracted (not_lt.mp (by simpa using continues)))⟩

variable (input : MeasuredInput)

/-- The velocity converges from every start, by a factor of 1000 in each iteration, and what
`dopp_vel` returns is the limit but for the tolerance. -/
theorem doppVel_converges (solves : g.Solves) (sines : g.UsedSines)
    (reference : doppReference g input.obs refEcef = some position)
    (nonzero : squaredNorm position ≠ 0) (enough : 4 ≤ (filterL1 input.obs).length)
    (states : satStates g (filterL1 input.obs) = some tracked)
    (orbits : ∀ t ∈ tracked, t.state.pos 0 ^ 2 + t.state.pos 1 ^ 2 ≤ 4.3e7 ^ 2)
    (spread : WellSpread g position tracked) : ∃ limit result,
      Contracts g position tracked limit ∧ doppVel g input.obs refEcef = some (result, position) ∧
      (squaredNorm (result - limit) ≤ 1e-21 ∨
        squaredNorm (result - limit) ≤ 1e-180 * squaredNorm limit) := by
  obtain ⟨used, velocityRows⟩ := velocityRows_exist sines (input.measured states) orbits spread
  obtain ⟨limit, contracts⟩ := velocityRows.contracts solves
  obtain ⟨result, ran, close⟩ := doppLoop_close contracts maxIterPvt 0
  refine ⟨limit, result, contracts, ?_, close.imp_right fun close => close.trans_eq ?_⟩
  · rw [doppVel, reference]
    simp only [Option.bind_eq_bind, Option.bind_some, if_neg nonzero, if_neg (not_lt.mpr enough), states,
      ran]
  · have even : squaredNorm (0 - limit) = squaredNorm limit := by simp [squaredNorm]
    rw [even, maxIterPvt]
    norm_num

/-! The four Galileo satellites, from a reference position on the first axis. -/

def aloft : Vector3d := ![8000000, 0, 0]

theorem aloft_sight : ∀ svid ∈ [1, 2, 3, 4], sight centreGeometry aloft (centreTracked svid) =
    if svid = 1 then ![1, 0, 0] else if svid = 2 then ![5 / 13, 12 / 13, 0]
    else if svid = 3 then ![5 / 13, 0, 12 / 13] else ![5 / 13, -12 / 13, 0] := by
  decide +kernel

theorem aloft_angle : ∀ svid ∈ [1, 2, 3, 4],
    (centreGeometry.satAzel aloft (centreTracked svid).state.pos).2 =
      if svid = 1 then mPi / 2 else 0.3948 := by
  decide +kernel

theorem aloft_above {svid : Nat} (sent : svid ∈ [1, 2, 3, 4]) :
    Above centreGeometry aloft (centreTracked svid) := by
  rw [Above, aloft_angle svid sent]
  split_ifs <;> norm_num [cutOff, cutOffDegree, mPi]

theorem aloft_weight {svid : Nat} (sent : svid ∈ [1, 2, 3, 4]) {row : VelocityRow}
    (is : row.Of centreGeometry aloft (centreTracked svid)) :
    row.w = (if svid = 1 then 1 else 25 / 169) * (0.256 / (uraOfSisa 107 - 2)) := by
  obtain ⟨std, mem, weight⟩ := is.weight
  cases List.mem_singleton.mp mem
  have ura : (centreTracked svid).ephem.base.ura = uraOfSisa 107 := galEphem_ura svid sent 107 (by simp)
  have sys : (centreTracked svid).sys = sysGal := centreObs_sys svid sent
  have sine : centreGeometry.sin (if svid = 1 then mPi / 2 else 0.3948) =
      if svid = 1 then 1 else 5 / 13 := by
    split_ifs <;> norm_num [centreGeometry, mPi]
  have accurate : uraOfSisa 107 - 2 ≠ 0 := (sub_pos.mpr ((two_lt_uraOfSisa (by simp)).mpr (by simp))).ne'
  rw [aloft_angle svid sent, sine, ura, sys, weightDopp, GnssParser.weight, if_pos one_pos] at weight
  have scaled (x : ℚ) : divide x (1 / 0.256) = some (x * 0.256) := by
    rw [divide, if_neg (by norm_num)]
    exact congrArg some (by ring)
  rw [scaled] at weight
  simp only [Option.bind_eq_bind, Option.bind_some] at weight
  rw [if_neg (by decide), if_pos trivial, divide, if_neg accurate] at weight
  rw [← Option.some.inj weight]
  split_ifs <;> ring

theorem spread_of_directions (a b c d : ℚ) : 1.1e-4 * (1 + 3 * (25 / 169)) *
    (a * a + b * b + c * c + d * d) ≤ (d - a) ^ 2 + 25 / 169 * (d - (5 / 13 * a + 12 / 13 * b)) ^ 2 +
      25 / 169 * (d - (5 / 13 * a + 12 / 13 * c)) ^ 2 +
      25 / 169 * (d - (5 / 13 * a - 12 / 13 * b)) ^ 2 := by
  -- in terms of the first row, the mean of the second and fourth, and the third
  obtain ⟨p, first⟩ : ∃ p, p = d - a := ⟨_, rfl⟩
  obtain ⟨q, mean⟩ : ∃ q, q = d - 5 / 13 * a := ⟨_, rfl⟩
  obtain ⟨r, third⟩ : ∃ r, r = q - 12 / 13 * c := ⟨_, rfl⟩
  have x : a = 13 / 8 * (q - p) := by linarith
  have z : c = 13 / 12 * (q - r) := by linarith
  have clock : d = 13 / 8 * q - 5 / 8 * p := by linarith
  rw [x, z, clock]
  nlinarith [sq_nonneg (p + q), sq_nonneg (q + r), sq_nonneg (p - q), sq_nonneg (q - r), sq_nonneg b,
    sq_nonneg p, sq_nonneg q, sq_nonneg r]

theorem aloft_spread : WellSpread centreGeometry aloft ([1, 2, 3, 4].map centreTracked) := by
  obtain ⟨row, is, systems⟩ := doppSystem_rows centreSines centreTracked_measured aloft
  obtain ⟨rows, computed, finite⟩ := systems 0
  have each : ∀ svid ∈ [1, 2, 3, 4],
      (row (centreTracked svid)).Of centreGeometry aloft (centreTracked svid) :=
    fun svid sent => is _ (List.mem_map_of_mem sent) (aloft_above sent)
  have all : ([1, 2, 3, 4].map centreTracked).filter (Above centreGeometry aloft ·) =
      [1, 2, 3, 4].map centreTracked := by
    refine List.filter_eq_self.mpr fun t mem => ?_
    obtain ⟨svid, sent, rfl⟩ := List.mem_map.mp mem
    exact decide_eq_true (aloft_above sent)
  rw [all] at finite
  refine ⟨rows, _, computed, finite, by simp, fun v => ?_⟩
  have dot : ∀ svid ∈ [1, 2, 3, 4], (row (centreTracked svid)).g ⬝ᵥ v =
      v 3 - sight centreGeometry aloft (centreTracked svid) ⬝ᵥ ![v 0, v 1, v 2] := by
    intro svid sent
    have position : (fun i => v (Fin.castAdd 1 i)) = ![v 0, v 1, v 2] := by
      funext i
      fin_cases i <;> rfl
    rw [(each svid sent).direction, directionRow_dotProduct, position]
  have first := dot 1 (by simp)
  have second := dot 2 (by simp)
  have third := dot 3 (by simp)
  have fourth := dot 4 (by simp)
  rw [aloft_sight _ (by simp)] at first second third fourth
  simp at first second third fourth
  have positive : 0 < 0.256 / (uraOfSisa 107 - 2) :=
    div_pos (by norm_num) (sub_pos.mpr ((two_lt_uraOfSisa (by simp)).mpr (by simp)))
  have wide := mul_le_mul_of_nonneg_right (spread_of_directions (v 0) (v 1) (v 2) (v 3)) positive.le
  simp only [List.map_cons, List.map_nil, List.sum_cons, List.sum_nil, VelocityRow.at]
  rw [first, second, third, fourth, aloft_weight (by simp) (each 1 (by simp)),
    aloft_weight (by simp) (each 2 (by simp)), aloft_weight (by simp) (each 3 (by simp)),
    aloft_weight (by simp) (each 4 (by simp)), squaredNorm, Fin.sum_univ_four]
  refine le_trans (le_of_eq ?_) (wide.trans_eq ?_)
  · norm_num
    ring
  · norm_num
    ring

theorem aloft_orbits : ∀ t ∈ [1, 2, 3, 4].map centreTracked,
    t.state.pos 0 ^ 2 + t.state.pos 1 ^ 2 ≤ 4.3e7 ^ 2 := by
  have each : ∀ svid ∈ [1, 2, 3, 4], (centreTracked svid).state.pos 0 ^ 2 +
      (centreTracked svid).state.pos 1 ^ 2 ≤ 4.3e7 ^ 2 := by decide +kernel
  intro t mem
  obtain ⟨svid, sent, rfl⟩ := List.mem_map.mp mem
  exact each svid sent

theorem doppVel_converges_aloft : ∃ limit result,
    Contracts centreGeometry aloft ([1, 2, 3, 4].map centreTracked) limit ∧
    doppVel centreGeometry centreInput.obs aloft = some (result, aloft) ∧
    (squaredNorm (result - limit) ≤ 1e-21 ∨
      squaredNorm (result - limit) ≤ 1e-180 * squaredNorm limit) := by
  have nonzero : squaredNorm aloft ≠ 0 := by decide +kernel
  exact doppVel_converges centreInput centreSolves centreSines (if_neg nonzero) nonzero
    (by rw [centreInput_kept]; exact le_rfl) centreStates aloft_orbits aloft_spread

end GnssParser
