import GnssParser.Proof.DopplerSolver

/-!
# The order of the observations

Neither solver depends on it.
-/

namespace GnssParser
open Checked Matrix

/-! ## Least squares -/

section
variable {n : Nat}

theorem normal_eq_sum (rows : List (FiniteRow n)) :
    LeastSquares.normal (goodG rows) (goodW rows) =
      .of fun j k => (rows.map fun row => row.g j * row.w * row.g k).sum := by
  funext j k
  rw [LeastSquares.normal_apply, of_apply, ← Fin.sum_univ_fun_getElem]
  rfl

theorem pull_eq_sum (rows : List (FiniteRow n)) :
    LeastSquares.pull (goodG rows) (goodW rows) (goodB rows) =
      fun j => (rows.map fun row => row.g j * row.w * row.b).sum := by
  funext j
  rw [LeastSquares.pull_apply, ← Fin.sum_univ_fun_getElem]
  rfl

theorem leastSquares_perm {equations equations' : List (Equation n)} (perm : equations'.Perm equations) :
    leastSquares equations' = leastSquares equations := by
  cases finite : equations.mapM Equation.finite? with
  | none =>
      rw [leastSquares, leastSquares, finite, Table.mapM_perm_none perm finite]
  | some rows =>
      obtain ⟨rows', finite', same⟩ := Table.mapM_perm perm finite
      rw [leastSquares, leastSquares, finite, finite']
      simp only [Option.bind_eq_bind, Option.bind_some, LeastSquares.correction_eq, normal_eq_sum,
        pull_eq_sum]
      have sums (f : FiniteRow n → ℚ) : (rows'.map f).sum = (rows.map f).sum := (same.map f).sum_eq
      simp only [sums]

end

/-! ## Systems -/

variable {g : Geometry} {ionoParams : List ℚ} {tracked tracked' : List Tracked}

theorem missing_perm (perm : tracked'.Perm tracked) : missing tracked' = missing tracked := by
  refine List.filter_congr fun k _ => ?_
  simp only [perm.mem_iff]

theorem rows_perm {n : Nat} {residual : Tracked → Option (Residual n)}
    {equation : Residual n → Option (Equation n)} {all all' : List (Residual n)}
    {equations equations' : List (Equation n)} (perm : tracked'.Perm tracked)
    (related : List.Forall₂ (fun t r => residual t = some r) tracked all)
    (written : List.Forall₂ (fun r e => equation r = some e) (all.filter Residual.good) equations)
    (related' : List.Forall₂ (fun t r => residual t = some r) tracked' all')
    (written' : List.Forall₂ (fun r e => equation r = some e) (all'.filter Residual.good) equations') :
    equations'.Perm equations := by
  obtain ⟨other, mapped, same⟩ := Table.mapM_perm perm (Table.mapM_of_forall₂ related)
  cases mapped.symm.trans (Table.mapM_of_forall₂ related')
  obtain ⟨other, mapped, same⟩ := Table.mapM_perm (same.filter _) (Table.mapM_of_forall₂ written)
  cases mapped.symm.trans (Table.mapM_of_forall₂ written')
  exact same

theorem psrSystem_perm (ionoParams : List ℚ) (valid : ∀ t ∈ tracked, ∃ i k, t.Valid i k)
    (nonempty : tracked ≠ []) (perm : tracked'.Perm tracked) (xyzt : Fin 7 → ℚ) : ∃ system system',
      psrSystem g ionoParams tracked xyzt = some system ∧
      psrSystem g ionoParams tracked' xyzt = some system' ∧ system'.rows.Perm system.rows := by
  have valid' : ∀ t ∈ tracked', ∃ i k, t.Valid i k := fun t mem => valid t (perm.mem_iff.mp mem)
  have nonempty' : tracked' ≠ [] := fun empty => nonempty (empty ▸ perm).symm.eq_nil
  obtain ⟨all, equations, related, written, computed⟩ := psrSystem_eq g xyzt ionoParams valid nonempty
  obtain ⟨all', equations', related', written', computed'⟩ :=
    psrSystem_eq g xyzt ionoParams valid' nonempty'
  refine ⟨_, _, computed, computed', ?_⟩
  rw [missing_perm perm]
  exact (rows_perm perm related written related' written').append_right _

theorem doppSystem_perm (valid : ∀ t ∈ tracked, ∃ i k, t.Valid i k) (perm : tracked'.Perm tracked)
    (refEcef : Vector3d) (xyztDot : Fin 4 → ℚ) : ∃ rows rows',
      doppSystem g refEcef tracked xyztDot = some rows ∧
      doppSystem g refEcef tracked' xyztDot = some rows' ∧ rows'.Perm rows := by
  have valid' : ∀ t ∈ tracked', ∃ i k, t.Valid i k := fun t mem => valid t (perm.mem_iff.mp mem)
  obtain ⟨all, equations, related, written, computed⟩ := doppSystem_eq g refEcef xyztDot valid
  obtain ⟨all', equations', related', written', computed'⟩ := doppSystem_eq g refEcef xyztDot valid'
  exact ⟨_, _, computed, computed', rows_perm perm related written related' written'⟩

theorem Geometry.Solves.perm (solves : g.Solves) {n : Nat} {rows rows' : List (Equation n)}
    (perm : rows'.Perm rows) (defined : (leastSquares rows).isSome) : g.solve rows' = g.solve rows := by
  obtain ⟨dx, some⟩ := Option.isSome_iff_exists.mp defined
  rw [solves.solve some, solves.solve ((leastSquares_perm perm).trans some)]

/-! ## Runs -/

/-- Every iteration of `psr_pos` has a correction. -/
def PsrRegular (g : Geometry) (ionoParams : List ℚ) (obs : List (Obs × EphemObject)) : Prop :=
  ∀ tracked rcvState, Iterates g ionoParams obs tracked rcvState →
    ∃ system, psrSystem g ionoParams tracked rcvState = some system ∧ (leastSquares system.rows).isSome

/-- Every iteration of `dopp_vel` has a correction. -/
def DoppRegular (g : Geometry) (obs : List (Obs × EphemObject)) (refEcef : Vector3d) : Prop :=
  ∀ position tracked xyztDot, DoppIterates g obs refEcef position tracked xyztDot →
    ∃ rows, doppSystem g position tracked xyztDot = some rows ∧ (leastSquares rows).isSome

theorem psrLoop_perm (solves : g.Solves) (valid : ∀ t ∈ tracked, ∃ i k, t.Valid i k)
    (nonempty : tracked ≠ []) (perm : tracked'.Perm tracked)
    (regular : ∀ left xyzt, PsrVisits g ionoParams tracked (left + 1) xyzt → ∃ system,
      psrSystem g ionoParams tracked xyzt = some system ∧ (leastSquares system.rows).isSome)
    {left : Nat} {xyzt : Fin 7 → ℚ} (visits : PsrVisits g ionoParams tracked left xyzt) :
    psrLoop g ionoParams tracked' left xyzt = psrLoop g ionoParams tracked left xyzt := by
  induction left generalizing xyzt with
  | zero => rfl
  | succ left ih =>
      obtain ⟨system, system', computed, computed', rows⟩ :=
        psrSystem_perm ionoParams valid nonempty perm xyzt
      obtain ⟨_, again, defined⟩ := regular left xyzt visits
      cases computed.symm.trans again
      have same : psrNext g ionoParams tracked' xyzt = psrNext g ionoParams tracked xyzt := by
        rw [psrNext, psrNext, computed, computed']
        simp only [Option.bind_eq_bind, Option.bind_some, solves.perm rows defined]
      rw [psrLoop, psrLoop, same]
      refine Option.bind_congr fun result step => ?_
      obtain ⟨after, continues⟩ := result
      cases continues with
      | true => exact ih (visits.next step)
      | false => rfl

theorem doppLoop_perm (solves : g.Solves) (valid : ∀ t ∈ tracked, ∃ i k, t.Valid i k)
    (perm : tracked'.Perm tracked) {position : Vector3d}
    (regular : ∀ left xyztDot, DoppVisits g position tracked (left + 1) xyztDot → ∃ rows,
      doppSystem g position tracked xyztDot = some rows ∧ (leastSquares rows).isSome)
    {left : Nat} {xyztDot : Fin 4 → ℚ} (visits : DoppVisits g position tracked left xyztDot) :
    doppLoop g position tracked' left xyztDot = doppLoop g position tracked left xyztDot := by
  induction left generalizing xyztDot with
  | zero => rfl
  | succ left ih =>
      obtain ⟨rows, rows', computed, computed', same⟩ := doppSystem_perm valid perm position xyztDot
      obtain ⟨_, again, defined⟩ := regular left xyztDot visits
      cases computed.symm.trans again
      have same : doppNext g position tracked' xyztDot = doppNext g position tracked xyztDot := by
        rw [doppNext, doppNext, computed, computed']
        simp only [Option.bind_eq_bind, Option.bind_some, solves.perm same defined]
      rw [doppLoop, doppLoop, same]
      refine Option.bind_congr fun result step => ?_
      obtain ⟨after, continues⟩ := result
      cases continues with
      | true => exact ih (visits.next step)
      | false => rfl

variable {obs : List (Obs × EphemObject)}

theorem psrPos_perm (solves : g.Solves) (input : SppInput) (perm : obs.Perm input.obs)
    (regular : PsrRegular g ionoParams input.obs) :
    psrPos g ionoParams obs = psrPos g ionoParams input.obs := by
  have kept : (filterL1 obs).Perm (filterL1 input.obs) := perm.filter _
  rw [psrPos, psrPos]
  dsimp only
  rw [kept.length_eq]
  split_ifs with few
  · rfl
  cases states : satStates g (filterL1 input.obs) with
  | none =>
      have failed : satStates g (filterL1 obs) = none := Table.mapM_perm_none kept states
      rw [failed]
  | some tracked =>
      obtain ⟨tracked', states', same⟩ := Table.mapM_perm kept states
      have iterates {left : Nat} {xyzt : Fin 7 → ℚ}
          (visits : PsrVisits g ionoParams tracked (left + 1) xyzt) :
          Iterates g ionoParams input.obs tracked xyzt := ⟨not_lt.mp few, states, left, visits⟩
      obtain ⟨nonempty, valid⟩ := (iterates .start).valid
      have loop := psrLoop_perm solves valid nonempty same
        (fun left xyzt visits => regular tracked xyzt (iterates visits)) .start
      rw [satStates, states']
      simp only [Option.bind_eq_bind, Option.bind_some, loop]

theorem doppVel_perm (solves : g.Solves) (input : SppInput) (perm : obs.Perm input.obs)
    {refEcef : Vector3d} (psrRegular : PsrRegular g (List.replicate 8 0) input.obs)
    (regular : DoppRegular g input.obs refEcef) :
    doppVel g obs refEcef = doppVel g input.obs refEcef := by
  have kept : (filterL1 obs).Perm (filterL1 input.obs) := perm.filter _
  have reference : doppReference g obs refEcef = doppReference g input.obs refEcef := by
    rw [doppReference, doppReference, psrPos_perm solves input perm psrRegular]
  rw [doppVel, doppVel, reference]
  refine Option.bind_congr fun position referred => ?_
  dsimp only
  rw [kept.length_eq]
  split_ifs with zero few
  · rfl
  · rfl
  cases states : satStates g (filterL1 input.obs) with
  | none =>
      have failed : satStates g (filterL1 obs) = none := Table.mapM_perm_none kept states
      rw [failed]
  | some tracked =>
      obtain ⟨tracked', states', same⟩ := Table.mapM_perm kept states
      have valid := (satStates_valid input.aligned states).2
      have loop := doppLoop_perm solves (fun t mem => (valid t mem).2) same
        (fun left xyztDot visits => regular position tracked xyztDot
          ⟨referred, zero, not_lt.mp few, states, left, visits⟩) .start
      rw [satStates, states']
      simp only [Option.bind_eq_bind, Option.bind_some, loop]

/-- The order of the observations, with their ephemerides, does not change the position and the
velocity, where each correction exists. -/
theorem spp_order (solves : g.Solves) (input : SppInput) (perm : obs.Perm input.obs) (ionoParams : List ℚ)
    (refEcef : Vector3d)
    (regular : ∀ params ∈ [ionoParams, List.replicate 8 0], PsrRegular g params input.obs)
    (doppRegular : DoppRegular g input.obs refEcef) :
    psrPos g ionoParams obs = psrPos g ionoParams input.obs ∧
      doppVel g obs refEcef = doppVel g input.obs refEcef :=
  ⟨psrPos_perm solves input perm (regular _ (by simp)),
    doppVel_perm solves input perm (regular _ (by simp)) doppRegular⟩

theorem spp_order_reversed :
    psrPos centreGeometry [] centreInput.obs.reverse = psrPos centreGeometry [] centreInput.obs ∧
      doppVel centreGeometry centreInput.obs.reverse aloft =
        doppVel centreGeometry centreInput.obs aloft := by
  have nonzero : squaredNorm aloft ≠ 0 := by decide +kernel
  obtain ⟨used, velocityRows⟩ :=
    velocityRows_exist centreSines centreTracked_measured aloft_orbits aloft_spread
  refine spp_order centreSolves centreInput.toSppInput (List.reverse_perm _) [] aloft
    (fun params _ tracked rcvState iterates => ?_) fun position tracked xyztDot iterates => ?_
  · obtain ⟨rfl, rfl⟩ := centre_iterates iterates
    obtain ⟨system, rows, is⟩ :=
      psrRows_exist centreSines centreTracked_measured iterates.valid.1 params 0
    exact ⟨system, is.computed,
      (leastSquares_isSome is.finite is.weighted).mpr (is.determines.mpr centre_spans)⟩
  · have given : aloft = position := Option.some.inj ((if_neg nonzero).symm.trans iterates.reference)
    cases given
    cases iterates.states.symm.trans centreStates
    obtain ⟨rows, dx, computed, some, -⟩ := velocityRows.correction xyztDot
    exact ⟨rows, computed, Option.isSome_iff_exists.mpr ⟨dx, some⟩⟩

end GnssParser
