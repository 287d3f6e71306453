import GnssParser.Model.LeastSquares
import GnssParser.Proof.Weights

/-!
# Corrections of the position solver

Each correction is the one of least squares, and the clocks of constellations without an observation
stay 0.
-/

namespace GnssParser
open Checked Matrix

/-! ## Rows -/

section
variable {n : Nat} {rows : List (FiniteRow n)} {equations : List (Equation n)} {dx y : Fin n → ℚ}

theorem forall_goodW (weighted : ∀ row ∈ rows, 0 < row.w) (i : Fin rows.length) : 0 < goodW rows i :=
  weighted _ (List.getElem_mem i.isLt)

/-- The weighted squares of the residuals a correction leaves, as far as they are linear. -/
def lineCost (rows : List (FiniteRow n)) (dx : Fin n → ℚ) : ℚ :=
  (rows.map fun row => row.w * ((row.b + row.g ⬝ᵥ dx) * (row.b + row.g ⬝ᵥ dx))).sum

theorem lineCost_eq (rows : List (FiniteRow n)) (dx : Fin n → ℚ) :
    lineCost rows dx = LeastSquares.cost (goodW rows) (goodB rows + goodG rows *ᵥ dx) := by
  rw [lineCost, ← Fin.sum_univ_fun_getElem]
  rfl

theorem leastSquares_eq_some (finite : equations.mapM Equation.finite? = some rows) :
    leastSquares equations = some dx ↔ IsUnit (LeastSquares.normal (goodG rows) (goodW rows)) ∧
      LeastSquares.Balances (goodG rows) (goodW rows) (goodB rows) dx := by
  rw [leastSquares, finite]
  simp only [Option.bind_eq_bind, Option.bind_some, Option.bind_eq_some_iff, Option.some.injEq,
    LeastSquares.inverse_eq_some]
  constructor
  · rintro ⟨_, ⟨regular, rfl⟩, same⟩
    exact ⟨regular, (LeastSquares.eq_correction_iff regular).mp same.symm⟩
  · rintro ⟨regular, balances⟩
    exact ⟨_, ⟨regular, rfl⟩, ((LeastSquares.eq_correction_iff regular).mpr balances).symm⟩

/-- The rows determine the unknowns. -/
def Determines (rows : List (FiniteRow n)) : Prop := ∀ v, (∀ row ∈ rows, row.g ⬝ᵥ v = 0) → v = 0

theorem regular_iff_determines (weighted : ∀ row ∈ rows, 0 < row.w) :
    IsUnit (LeastSquares.normal (goodG rows) (goodW rows)) ↔ Determines rows := by
  rw [LeastSquares.regular_iff (forall_goodW weighted)]
  refine forall_congr' fun v => imp_congr_left ?_
  rw [funext_iff, List.forall_mem_iff_getElem, Fin.forall_iff]
  rfl

theorem leastSquares_isSome (finite : equations.mapM Equation.finite? = some rows)
    (weighted : ∀ row ∈ rows, 0 < row.w) : (leastSquares equations).isSome ↔ Determines rows := by
  rw [← regular_iff_determines weighted, Option.isSome_iff_exists]
  constructor
  · rintro ⟨dx, some⟩
    exact ((leastSquares_eq_some finite).mp some).1
  · intro regular
    exact ⟨_, (leastSquares_eq_some finite).mpr
      ⟨regular, (LeastSquares.eq_correction_iff regular).mp rfl⟩⟩

theorem lineCost_lt (finite : equations.mapM Equation.finite? = some rows)
    (weighted : ∀ row ∈ rows, 0 < row.w) (some : leastSquares equations = some dx)
    (other : y ≠ dx) : lineCost rows dx < lineCost rows y := by
  obtain ⟨regular, balances⟩ := (leastSquares_eq_some finite).mp some
  by_contra least
  rw [lineCost_eq, lineCost_eq] at least
  exact other (balances.unique (forall_goodW weighted) regular (not_lt.mp least))

end

/-! ## Systems of the position solver -/

/-- Arguments with finite measurements, and accuracies above the divisor of their system. -/
structure MeasuredInput extends DecodedInput where
  psr : ∀ p ∈ filterL1 obs, ∀ x ∈ p.1.psr, ∃ q, x = .finite q
  dopp : ∀ p ∈ filterL1 obs, ∀ x ∈ p.1.dopp, ∃ q, x = .finite q
  accurate : ∀ p ∈ filterL1 obs, (satsys p.1.sat).1 = sysGal → 2 < p.2.base.ura

/-- A satellite with finite measurements and a positive weight. -/
structure Tracked.Measured (t : Tracked) : Prop where
  valid : ∃ i k, t.Valid i k
  psr : ∀ x ∈ t.obs.psr, ∃ q, x = .finite q
  dopp : ∀ x ∈ t.obs.dopp, ∃ q, x = .finite q
  indexed : t.sys = sysGps ∨ t.sys = sysBds → 1 < t.ephem.base.ura
  accurate : t.sys = sysGal → 2 < t.ephem.base.ura

variable {g : Geometry} {ionoParams : List ℚ} {tracked : List Tracked} {rcvState : Fin 7 → ℚ}

theorem MeasuredInput.measured (input : MeasuredInput)
    (states : satStates g (filterL1 input.obs) = some tracked) : ∀ t ∈ tracked, t.Measured := by
  intro t mem
  obtain ⟨inside, produced⟩ := input.kept states t mem
  exact {
    valid := ((satStates_valid input.aligned states).2 t mem).2
    psr := input.psr _ inside
    dopp := input.dopp _ inside
    indexed := produced.one_lt_ura
    accurate := input.accurate _ inside }

/-- The direction from the receiver to a satellite. -/
def sight (g : Geometry) (rcv : Vector3d) (t : Tracked) : Vector3d := g.normalized (t.state.pos - rcv)

def constraintRow (k : Fin 4) : FiniteRow 7 where
  g := Fin.append (0 : Vector3d) (Pi.single k 1)
  b := 0
  w := 1000

theorem constraintRow_g (k : Fin 4) : (constraintRow k).g = Pi.single (Fin.natAdd 3 k) 1 := by
  refine funext (Fin.addCases (m := 3) (n := 4) (fun i => ?_) fun i => ?_)
  · have other : Fin.castAdd 4 i ≠ Fin.natAdd 3 k := Fin.ne_of_val_ne (by simp; omega)
    refine (Fin.append_left _ _ i).trans ?_
    rw [Pi.single_eq_of_ne other, Pi.zero_apply]
  · refine (Fin.append_right _ _ i).trans ?_
    rw [Pi.single_apply, Pi.single_apply]
    exact if_congr (Fin.natAdd_injective 4 3).eq_iff.symm rfl rfl

structure PsrRow (g : Geometry) (rcvState : Fin 7 → ℚ) (t : Tracked) (row : FiniteRow 7) : Prop where
  direction : ∃ k, t.clock = some k ∧
    row.g = Fin.append (-sight g (rcvPos rcvState) t) (Pi.single k 1)
  weighted : 0 < row.w

theorem psrRow_of (sines : g.UsedSines) {t : Tracked} (measured : t.Measured) {r : Residual 7}
    {e : Equation 7} (residual : psrResOf g rcvState ionoParams t = some r)
    (used : cutOff < elevation g rcvState t) (equation : psrEquation g r = some e) :
    ∃ row, e.finite? = some row ∧ PsrRow g rcvState t row := by
  obtain ⟨i, k, valid⟩ := measured.valid
  obtain ⟨r', residual', same, azel, -⟩ := psrResOf_valid g rcvState ionoParams valid
  cases residual.symm.trans residual'
  obtain ⟨e', equation', j, b, std, weighted⟩ := psrEquation_valid g (same.symm ▸ valid)
  cases equation.symm.trans equation'
  have positive : HasWeight (weightPsr std (g.sin (elevation g rcvState t)) t.sys t.ephem.base.ura) :=
    (weight_hasWeight (by norm_num) (by norm_num) (sines.elevation used) measured.indexed).mpr
      measured.accurate
  obtain ⟨w, weight, pos⟩ := positive
  rw [same, azel, weight] at weighted
  have inside : i < t.obs.psr.length := by
    rw [valid.aligned.psr]
    exact l1Freq_some valid.l1
  have clock : sys2idx (satsys t.state.satId).1 = some k := by
    rw [valid.satId]
    exact valid.clock
  obtain ⟨q, finite⟩ := measured.psr _ (List.getElem_mem inside)
  rw [psrResOf, valid.l1] at residual
  simp only [clock, List.getElem?_eq_getElem inside, finite, Option.bind_eq_bind,
    Option.bind_some, affine] at residual
  cases residual
  rw [Equation.finite?, j, b, weighted]
  exact ⟨_, rfl, ⟨k, valid.clock, rfl⟩, pos⟩

/-- The rows of the satellites in use come before those of the missing clocks. -/
theorem psrSystem_rows (sines : g.UsedSines) (measured : ∀ t ∈ tracked, t.Measured)
    (nonempty : tracked ≠ []) : ∃ system used,
      psrSystem g ionoParams tracked rcvState = some system ∧
      system.rows.mapM Equation.finite? = some (used ++ (missing tracked).map constraintRow) ∧
      (∀ row ∈ used, ∃ t ∈ tracked, cutOff < elevation g rcvState t ∧ PsrRow g rcvState t row) ∧
      ∀ t ∈ tracked, cutOff < elevation g rcvState t → ∃ row ∈ used, PsrRow g rcvState t row := by
  obtain ⟨all, equations, related, rows, computed⟩ :=
    psrSystem_eq g rcvState ionoParams (fun t mem => (measured t mem).valid) nonempty
  have each : ∀ r ∈ all.filter Residual.good, ∀ e, psrEquation g r = some e → ∃ t ∈ tracked,
      psrResOf g rcvState ionoParams t = some r ∧ cutOff < elevation g rcvState t ∧
      ∃ row, e.finite? = some row ∧ PsrRow g rcvState t row := by
    intro r kept e equation
    obtain ⟨inAll, good⟩ := List.mem_filter.mp kept
    obtain ⟨t, mem, residual⟩ := exists_left related inAll
    obtain ⟨i, k, valid⟩ := (measured t mem).valid
    have above := (good_iff valid residual).mp good
    exact ⟨t, mem, residual, above, psrRow_of sines (measured t mem) residual above equation⟩
  have numbers : ∀ e ∈ equations, ∃ row, e.finite? = some row := by
    intro e mem
    obtain ⟨r, kept, equation⟩ := exists_left rows mem
    obtain ⟨t, -, -, -, row, is, -⟩ := each r kept e equation
    exact ⟨row, is⟩
  obtain ⟨used, finite, same⟩ := Table.mapM_some numbers
  have constraints : ((missing tracked).map extraConstraint).mapM Equation.finite? =
      some ((missing tracked).map constraintRow) := by
    rw [List.mapM_map]
    exact List.mapM_pure
  refine ⟨_, used, computed, ?_, ?_, ?_⟩
  · rw [List.mapM_append, finite, constraints]
    rfl
  · intro row mem
    obtain ⟨e, inside, is⟩ := exists_left same mem
    obtain ⟨r, kept, equation⟩ := exists_left rows inside
    obtain ⟨t, mem, -, above, row', is', psrRow⟩ := each r kept e equation
    cases is.symm.trans is'
    exact ⟨t, mem, above, psrRow⟩
  · intro t mem above
    obtain ⟨r, inAll, residual⟩ := exists_right related mem
    obtain ⟨i, k, valid⟩ := (measured t mem).valid
    have kept := List.mem_filter.mpr ⟨inAll, (good_iff valid residual).mpr above⟩
    obtain ⟨e, inside, equation⟩ := exists_right rows kept
    obtain ⟨row, memUsed, is⟩ := exists_right same inside
    obtain ⟨row', is', psrRow⟩ := psrRow_of sines (measured t mem) residual above equation
    cases is.symm.trans is'
    exact ⟨row, memUsed, psrRow⟩

/-- No shift of the receiver and of the clocks is unseen by all satellites above the cut-off. -/
def Spans (g : Geometry) (tracked : List Tracked) (rcvState : Fin 7 → ℚ) : Prop :=
  ∀ v : Fin 7 → ℚ,
    (∀ t ∈ tracked, cutOff < elevation g rcvState t → ∀ k, t.clock = some k →
      v (Fin.natAdd 3 k) = sight g (rcvPos rcvState) t ⬝ᵥ rcvPos v) →
    (∀ k ∈ missing tracked, v (Fin.natAdd 3 k) = 0) → v = 0

theorem append_dotProduct (u : Vector3d) (k : Fin 4) (v : Fin 7 → ℚ) :
    Fin.append u (Pi.single k 1) ⬝ᵥ v = u ⬝ᵥ rcvPos v + v (Fin.natAdd 3 k) := by
  have split := Fin.sum_univ_add (a := 3) (b := 4) fun i => Fin.append u (Pi.single k (1 : ℚ)) i * v i
  simp only [Fin.append_left, Fin.append_right] at split
  exact split.trans (congrArg _ (single_one_dotProduct k fun i => v (Fin.natAdd 3 i)))

theorem clock_of_entry {u : Vector3d} {k l : Fin 4} {row : Fin 7 → ℚ}
    (direction : row = Fin.append u (Pi.single l 1)) (entry : row (Fin.natAdd 3 k) ≠ 0) : k = l := by
  rw [direction, Fin.append_right] at entry
  by_contra differ
  exact entry (Pi.single_eq_of_ne differ 1)

theorem PsrRow.unseen_iff {t : Tracked} {row : FiniteRow 7} (psrRow : PsrRow g rcvState t row)
    (v : Fin 7 → ℚ) : row.g ⬝ᵥ v = 0 ↔ ∀ k, t.clock = some k →
      v (Fin.natAdd 3 k) = sight g (rcvPos rcvState) t ⬝ᵥ rcvPos v := by
  obtain ⟨k, clock, direction⟩ := psrRow.direction
  rw [direction, append_dotProduct, neg_dotProduct, neg_add_eq_zero, eq_comm, clock]
  simp

theorem constraintRow_dotProduct (k : Fin 4) (v : Fin 7 → ℚ) :
    (constraintRow k).g ⬝ᵥ v = v (Fin.natAdd 3 k) := by
  rw [constraintRow, append_dotProduct, zero_dotProduct, zero_add]

/-- The rows of an iteration, all of them with positive weights. -/
structure PsrRows (g : Geometry) (ionoParams : List ℚ) (tracked : List Tracked)
    (rcvState : Fin 7 → ℚ) (system : PsrSystem) (rows : List (FiniteRow 7)) : Prop where
  computed : psrSystem g ionoParams tracked rcvState = some system
  finite : system.rows.mapM Equation.finite? = some rows
  weighted : ∀ row ∈ rows, 0 < row.w
  determines : Determines rows ↔ Spans g tracked rcvState
  held : ∀ k ∈ missing tracked, constraintRow k ∈ rows ∧
    ∀ row ∈ rows, row.g (Fin.natAdd 3 k) ≠ 0 → row = constraintRow k

theorem psrRows_exist (sines : g.UsedSines) (measured : ∀ t ∈ tracked, t.Measured)
    (nonempty : tracked ≠ []) (ionoParams : List ℚ) (rcvState : Fin 7 → ℚ) :
    ∃ system rows, PsrRows g ionoParams tracked rcvState system rows := by
  obtain ⟨system, used, computed, finite, sources, covers⟩ := psrSystem_rows sines measured nonempty
  refine ⟨system, _, computed, finite, ?_, ?_, ?_⟩
  · intro row mem
    rcases List.mem_append.mp mem with inside | extra
    · obtain ⟨t, -, -, psrRow⟩ := sources row inside
      exact psrRow.weighted
    · obtain ⟨k, -, rfl⟩ := List.mem_map.mp extra
      norm_num [constraintRow]
  · refine forall_congr' fun v => ?_
    rw [← and_imp]
    refine imp_congr_left ?_
    rw [List.forall_mem_append, List.forall_mem_map]
    refine and_congr ⟨fun all t mem above => ?_, fun all row inside => ?_⟩ ?_
    · obtain ⟨row, inside, psrRow⟩ := covers t mem above
      exact (psrRow.unseen_iff v).mp (all row inside)
    · obtain ⟨t, mem, above, psrRow⟩ := sources row inside
      exact (psrRow.unseen_iff v).mpr (all t mem above)
    · simp only [constraintRow_dotProduct]
  · intro k absent
    refine ⟨List.mem_append_right _ (List.mem_map_of_mem absent), fun row mem entry => ?_⟩
    rcases List.mem_append.mp mem with inside | extra
    · obtain ⟨t, memT, -, psrRow⟩ := sources row inside
      obtain ⟨l, clock, direction⟩ := psrRow.direction
      rw [clock_of_entry direction entry] at absent
      exact absurd ⟨t, memT, clock⟩ (mem_missing.mp absent)
    · obtain ⟨l, -, rfl⟩ := List.mem_map.mp extra
      rw [clock_of_entry rfl entry]

/-! ## Runs -/

variable (input : MeasuredInput)

theorem Iterates.measured {input : MeasuredInput}
    (iterates : Iterates g ionoParams input.obs tracked rcvState) :
    tracked ≠ [] ∧ ∀ t ∈ tracked, t.Measured :=
  ⟨iterates.valid.1, input.measured iterates.states⟩

/-- There is a correction exactly if the satellites in use determine the receiver, and it is the only
one that leaves the least residuals. -/
theorem psr_corrections (solves : g.Solves) (sines : g.UsedSines) (ionoParams : List ℚ) :
    ∀ tracked rcvState, Iterates g ionoParams input.obs tracked rcvState → ∃ system rows,
      psrSystem g ionoParams tracked rcvState = some system ∧
      system.rows.mapM Equation.finite? = some rows ∧
      ((leastSquares system.rows).isSome ↔ Spans g tracked rcvState) ∧
      (Spans g tracked rcvState → ∀ dx, dx ≠ g.solve system.rows →
        lineCost rows (g.solve system.rows) < lineCost rows dx) := by
  intro tracked rcvState iterates
  obtain ⟨nonempty, measured⟩ := iterates.measured
  obtain ⟨system, rows, is⟩ := psrRows_exist sines measured nonempty ionoParams rcvState
  have defined := (leastSquares_isSome is.finite is.weighted).trans is.determines
  refine ⟨system, rows, is.computed, is.finite, defined, fun spans dx other => ?_⟩
  obtain ⟨solution, some⟩ := Option.isSome_iff_exists.mp (defined.mpr spans)
  rw [solves.solve some] at other ⊢
  exact lineCost_lt is.finite is.weighted some other

/-- The clocks of constellations without an observation are as at the start. -/
def AbsentClocks (tracked : List Tracked) (xyzt : Fin 7 → ℚ) : Prop :=
  ∀ k ∈ missing tracked, xyzt (Fin.natAdd 3 k) = 0

theorem AbsentClocks.next {xyzt after : Fin 7 → ℚ} {continues : Bool} (solves : g.Solves)
    (sines : g.UsedSines) (measured : ∀ t ∈ tracked, t.Measured) (nonempty : tracked ≠ [])
    (spans : Spans g tracked xyzt) (absent : AbsentClocks tracked xyzt)
    (ran : psrNext g ionoParams tracked xyzt = some (after, continues)) :
    AbsentClocks tracked after := by
  obtain ⟨system, rows, is⟩ := psrRows_exist sines measured nonempty ionoParams xyzt
  rw [psrNext, is.computed] at ran
  cases ran
  obtain ⟨dx, some⟩ := Option.isSome_iff_exists.mp
    ((leastSquares_isSome is.finite is.weighted).mpr (is.determines.mpr spans))
  obtain ⟨-, balances⟩ := (leastSquares_eq_some is.finite).mp some
  intro k missing
  obtain ⟨mem, only⟩ := is.held k missing
  obtain ⟨i, inside, here⟩ := List.getElem_of_mem mem
  have pinned : dx (Fin.natAdd 3 k) = 0 := by
    refine balances.pinned (fun i => (forall_goodW is.weighted i).le) (fun l entry => ?_)
      (i := ⟨i, inside⟩) ?_ (forall_goodW is.weighted _)
    · have same := only _ (List.getElem_mem l.isLt) entry
      refine ⟨(congrArg FiniteRow.g same).trans (constraintRow_g k), congrArg FiniteRow.b same⟩
    · have row : goodG rows ⟨i, inside⟩ = Pi.single (Fin.natAdd 3 k) 1 :=
        (congrArg FiniteRow.g here).trans (constraintRow_g k)
      rw [row, Pi.single_eq_same]
      exact one_ne_zero
  rw [solves.solve some, Pi.add_apply, absent k missing, pinned, add_zero]

theorem PsrVisits.absentClocks {left : Nat} {xyzt : Fin 7 → ℚ} (solves : g.Solves)
    (sines : g.UsedSines) (measured : ∀ t ∈ tracked, t.Measured) (nonempty : tracked ≠ [])
    (spans : ∀ left xyzt, PsrVisits g ionoParams tracked (left + 1) xyzt → Spans g tracked xyzt)
    (visits : PsrVisits g ionoParams tracked left xyzt) : AbsentClocks tracked xyzt := by
  induction visits with
  | start => exact fun k _ => rfl
  | next before continues ih =>
      exact ih.next solves sines measured nonempty (spans _ _ before) continues

/-- What holds of all states visited and is kept by each step holds at the end. -/
theorem psrLoop_ends {P : (Fin 7 → ℚ) → Prop} {left rest : Nat} {xyzt result : Fin 7 → ℚ}
    (visits : PsrVisits g ionoParams tracked left xyzt) (holds : P xyzt)
    (next : ∀ left xyzt after continues, PsrVisits g ionoParams tracked (left + 1) xyzt →
      psrNext g ionoParams tracked xyzt = some (after, continues) → P after)
    (ran : psrLoop g ionoParams tracked left xyzt = some (rest, result)) : P result := by
  induction left generalizing xyzt with
  | zero =>
      cases ran
      exact holds
  | succ left ih =>
      obtain ⟨⟨after, continues⟩, step, ran⟩ := Option.bind_eq_some_iff.mp ran
      have kept := next left xyzt after continues visits step
      cases continues with
      | true => exact ih (visits.next step) kept ran
      | false =>
          cases ran
          exact kept

/-- The clock of a constellation without an observation is 0 in the result. -/
theorem psr_absent_clocks (solves : g.Solves) (sines : g.UsedSines) (ionoParams : List ℚ)
    (spans : ∀ tracked rcvState, Iterates g ionoParams input.obs tracked rcvState →
      Spans g tracked rcvState) {xyzt : Fin 7 → ℚ}
    (ran : psrPos g ionoParams input.obs = some xyzt) {k : Fin 4}
    (absent : ∀ p ∈ filterL1 input.obs, sys2idx (satsys p.1.sat).1 ≠ some k) :
    xyzt (Fin.natAdd 3 k) = 0 := by
  rw [psrPos] at ran
  dsimp only at ran
  split_ifs at ran with few
  · cases ran
    rfl
  obtain ⟨tracked, states, ran⟩ := Option.bind_eq_some_iff.mp ran
  obtain ⟨⟨rest, result⟩, ended, ran⟩ := Option.bind_eq_some_iff.mp ran
  have iterates {left : Nat} {xyzt : Fin 7 → ℚ} (visits : PsrVisits g ionoParams tracked (left + 1) xyzt) :
      Iterates g ionoParams input.obs tracked xyzt := ⟨not_lt.mp few, states, left, visits⟩
  obtain ⟨nonempty, measured⟩ := (iterates .start).measured
  have missing : k ∈ missing tracked := by
    refine mem_missing.mpr ?_
    rintro ⟨t, mem, clock⟩
    exact absent _ ((satStates_valid input.aligned states).2 t mem).1 clock
  have kept : AbsentClocks tracked result := by
    refine psrLoop_ends .start (fun k _ => rfl) (fun left xyzt after continues visits step => ?_) ended
    have before := visits.absentClocks solves sines measured nonempty
      fun left xyzt visits => spans tracked xyzt (iterates visits)
    exact before.next solves sines measured nonempty (spans tracked _ (iterates visits)) step
  cases ran
  dsimp only
  split_ifs
  · rfl
  · exact kept k missing

/-! Four Galileo satellites that are equally far from the start. -/

def centreDirection (sat : Nat) : Vector3d :=
  if sat = satNo sysGal 1 then ![1, 0, 0]
  else if sat = satNo sysGal 2 then ![3 / 5, 4 / 5, 0]
  else if sat = satNo sysGal 3 then ![3 / 5, 0, 4 / 5]
  else ![3 / 5, -4 / 5, 0]

/-- The distances of the satellites from the centre and from (8000000, 0, 0). -/
def centreNorm (v : Vector3d) : ℚ :=
  if squaredNorm v = 30000000 ^ 2 then 30000000
  else if squaredNorm v = 26000000 ^ 2 then 26000000
  else 22000000

/-- The angles are those at (8000000, 0, 0). -/
def centreGeometry : Geometry where
  norm := centreNorm
  normalized v := (centreNorm v)⁻¹ • v
  sin el := if el = 0.3948 then 5 / 13 else 1
  motion obs _ := { pos := (30000000 : ℚ) • centreDirection obs.sat }
  satAzel _ svPos := (0, if svPos 0 = 18000000 then 0.3948 else mPi / 2)
  calculateTropDelay _ _ _ := 0
  calculateIonDelay _ _ _ _ := 0
  solve rows := (leastSquares rows).getD 0

theorem centreSolves : centreGeometry.Solves where
  solve some := by
    rw [centreGeometry]
    exact congrArg (fun solution => solution.getD 0) some

theorem centreSines : centreGeometry.UsedSines := by
  have nonzero : ∀ el, centreGeometry.sin el ≠ 0 := by
    intro el
    simp only [centreGeometry]
    split_ifs <;> norm_num
  exact ⟨nonzero _, fun _ _ _ => nonzero _⟩

theorem centreNorm_direction : ∀ svid ∈ [1, 2, 3, 4],
    centreNorm ((30000000 : ℚ) • centreDirection (satNo sysGal svid)) = 30000000 := by
  decide +kernel

def centreObs (svid : Nat) : Obs :=
  equatorObs (satNo sysGal svid) freq1
    (30000000 + getElem (galEphem svid 107).tgd 0 Nat.two_pos * lightSpeed)

theorem centreObs_l1 : ∀ svid ∈ [1, 2, 3, 4], l1Freq (centreObs svid) = (freq1, some 0) := by
  decide +kernel

theorem centreObs_sys : ∀ svid ∈ [1, 2, 3, 4], (satsys (satNo sysGal svid)).1 = sysGal := by
  decide +kernel

def centreInput : MeasuredInput where
  obs := [1, 2, 3, 4].map fun svid => (centreObs svid, .ephem (galEphem svid 107))
  aligned := by
    intro p mem
    obtain ⟨svid, -, rfl⟩ := List.mem_map.mp mem
    exact ⟨rfl, rfl, rfl, rfl⟩
  decoded := by
    intro p mem
    obtain ⟨svid, sent, rfl⟩ := List.mem_map.mp (mem_filterL1 mem).1
    exact galEphem_produced sent (by decide)
  psr := by
    intro p mem x inside
    obtain ⟨svid, -, rfl⟩ := List.mem_map.mp (mem_filterL1 mem).1
    exact ⟨_, List.mem_singleton.mp inside⟩
  dopp := by
    intro p mem x inside
    obtain ⟨svid, -, rfl⟩ := List.mem_map.mp (mem_filterL1 mem).1
    exact ⟨_, List.mem_singleton.mp inside⟩
  accurate := by
    intro p mem _
    obtain ⟨svid, sent, rfl⟩ := List.mem_map.mp (mem_filterL1 mem).1
    change 2 < (galEphem svid 107).ura
    rw [galEphem_ura svid sent 107 (by decide)]
    exact (two_lt_uraOfSisa (by decide)).mpr (by decide)

theorem centreInput_kept : filterL1 centreInput.obs = centreInput.obs := by
  refine List.filter_eq_self.mpr fun p mem => ?_
  obtain ⟨svid, here, rfl⟩ := List.mem_map.mp mem
  refine decide_eq_true ⟨.inr (.inr (.inr (centreObs_sys svid here))), ?_⟩
  rw [centreObs_l1 svid here]
  norm_num [freq1]

def centreTracked (svid : Nat) : Tracked where
  obs := centreObs svid
  ephem := .ephem (galEphem svid 107)
  state := {
    satId := satNo sysGal svid
    pos := (30000000 : ℚ) • centreDirection (satNo sysGal svid)
    tgd := getElem (galEphem svid 107).tgd 0 Nat.two_pos }

theorem centreStates : satStates centreGeometry (filterL1 centreInput.obs) =
    some ([1, 2, 3, 4].map centreTracked) := by
  have each : ∀ svid ∈ [1, 2, 3, 4], satState centreGeometry
      (centreObs svid, .ephem (galEphem svid 107)) = some (centreTracked svid) := by
    intro svid sent
    rw [satState, centreObs_l1 svid sent]
    exact if_neg (by rw [centreObs, equatorObs, centreObs_sys svid sent]; decide)
  rw [centreInput_kept, satStates, centreInput, List.mapM_map]
  simp only [List.mapM_cons, List.mapM_nil, each 1 (by decide), each 2 (by decide), each 3 (by decide),
    each 4 (by decide), Function.comp_apply, Option.bind_eq_bind, Option.bind_some, Option.pure_def,
    List.map_cons, List.map_nil]

theorem centreTracked_measured : ∀ t ∈ [1, 2, 3, 4].map centreTracked, t.Measured :=
  centreInput.measured centreStates

theorem centre_residual {svid : Nat} (sent : svid ∈ [1, 2, 3, 4]) {r : Residual 7}
    (residual : psrResOf centreGeometry 0 ionoParams (centreTracked svid) = some r) :
    r.res = .finite 0 ∧ r.tracked = centreTracked svid := by
  have still : ¬ squaredNorm (rcvPos 0) > 0 := by simp [squaredNorm, rcvPos]
  have clock : sys2idx (satsys (satNo sysGal svid)).1 = some 2 := by
    rw [centreObs_sys svid sent]
    rfl
  rw [psrResOf, centreTracked, centreObs_l1 svid sent] at residual
  simp only [if_neg still, clock, Option.bind_eq_bind, Option.bind_some] at residual
  cases residual
  refine ⟨congrArg Ieee.finite ?_, rfl⟩
  have distance : centreGeometry.norm ((30000000 : ℚ) • centreDirection (satNo sysGal svid) -
      rcvPos 0) = 30000000 := by
    have start : rcvPos 0 = 0 := rfl
    rw [start, sub_zero]
    exact centreNorm_direction svid sent
  rw [distance]
  simp [rcvPos]

theorem centre_spans : Spans centreGeometry ([1, 2, 3, 4].map centreTracked) 0 := by
  intro v seen absent
  have clock : ∀ svid ∈ [1, 2, 3, 4], (centreTracked svid).clock = some 2 := by
    intro svid sent
    rw [Tracked.clock, Tracked.sys, centreTracked, centreObs, equatorObs, centreObs_sys svid sent]
    rfl
  have each : ∀ svid ∈ [1, 2, 3, 4],
      v 5 = centreDirection (satNo sysGal svid) ⬝ᵥ rcvPos v := by
    intro svid sent
    have same := seen _ (List.mem_map_of_mem sent) (elevation_start _ _) 2 (clock svid sent)
    have direction : sight centreGeometry (rcvPos 0) (centreTracked svid) =
        centreDirection (satNo sysGal svid) := by
      have start : rcvPos 0 = 0 := rfl
      rw [sight, centreTracked, centreGeometry, start, sub_zero]
      dsimp only
      rw [centreNorm_direction svid sent]
      exact inv_smul_smul₀ (by norm_num) _
    rwa [direction] at same
  have others : ∀ k : Fin 4, k ≠ 2 → v (Fin.natAdd 3 k) = 0 := by
    intro k differ
    refine absent k (mem_missing.mpr ?_)
    rintro ⟨t, mem, found⟩
    obtain ⟨svid, sent, rfl⟩ := List.mem_map.mp mem
    exact differ (Option.some.inj (found.symm.trans (clock svid sent)))
  have gps := others 0 (by decide)
  have glo := others 1 (by decide)
  have bds := others 3 (by decide)
  have first := each 1 (by decide)
  have second := each 2 (by decide)
  have third := each 3 (by decide)
  have fourth := each 4 (by decide)
  have numbers : satNo sysGal 2 ≠ satNo sysGal 1 ∧ satNo sysGal 3 ≠ satNo sysGal 1 ∧
      satNo sysGal 3 ≠ satNo sysGal 2 ∧ satNo sysGal 4 ≠ satNo sysGal 1 ∧
      satNo sysGal 4 ≠ satNo sysGal 2 ∧ satNo sysGal 4 ≠ satNo sysGal 3 := by decide
  simp [centreDirection, numbers, dotProduct, Fin.sum_univ_three, rcvPos] at first second third fourth
  have y : v 1 = 0 := by linarith
  have x : v 0 = 0 := by linarith
  have z : v 2 = 0 := by linarith
  funext i
  fin_cases i
  exacts [x, y, z, gps, glo, first.trans x, bds]

theorem centre_correction {system : PsrSystem}
    (computed : psrSystem centreGeometry ionoParams ([1, 2, 3, 4].map centreTracked) 0 = some system) :
    centreGeometry.solve system.rows = 0 := by
  obtain ⟨all, equations, related, written, computed'⟩ := psrSystem_eq centreGeometry 0 ionoParams
    (fun t mem => (centreTracked_measured t mem).valid) (by simp)
  cases computed.symm.trans computed'
  have zero : ∀ e ∈ equations ++ (missing ([1, 2, 3, 4].map centreTracked)).map extraConstraint,
      e.b = some (.finite 0) := by
    intro e mem
    rcases List.mem_append.mp mem with inside | extra
    · obtain ⟨r, kept, equation⟩ := exists_left written inside
      obtain ⟨t, mem, residual⟩ := exists_left related (List.mem_filter.mp kept).1
      obtain ⟨svid, sent, rfl⟩ := List.mem_map.mp mem
      obtain ⟨value, same⟩ := centre_residual sent residual
      obtain ⟨i, k, valid⟩ := (centreTracked_measured _ mem).valid
      obtain ⟨e', equation', -, b, -⟩ := psrEquation_valid centreGeometry (same.symm ▸ valid)
      cases equation.symm.trans equation'
      rw [b, value]
    · obtain ⟨k, -, rfl⟩ := List.mem_map.mp extra
      rfl
  obtain ⟨system, rows, is⟩ := psrRows_exist centreSines centreTracked_measured (by simp) ionoParams 0
  cases computed.symm.trans is.computed
  have offsets : ∀ row ∈ rows, row.b = 0 := by
    intro row mem
    obtain ⟨e, inside, finite⟩ := exists_left (Table.forall₂_of_mapM is.finite) mem
    rw [Equation.finite?, zero e inside] at finite
    split at finite
    case h_1 g b w _ same _ =>
      cases same
      cases finite
      rfl
    case h_2 => cases finite
  have flat : goodB rows = 0 := funext fun i => offsets _ (List.getElem_mem i.isLt)
  obtain ⟨dx, some⟩ := Option.isSome_iff_exists.mp
    ((leastSquares_isSome is.finite is.weighted).mpr (is.determines.mpr centre_spans))
  rw [centreSolves.solve some]
  obtain ⟨regular, balances⟩ := (leastSquares_eq_some is.finite).mp some
  refine (LeastSquares.eq_correction_iff regular).mpr balances |>.trans ?_
  rw [flat, LeastSquares.correction, mulVec_zero]

theorem centre_iterates {tracked : List Tracked} {rcvState : Fin 7 → ℚ}
    (iterates : Iterates centreGeometry ionoParams centreInput.obs tracked rcvState) :
    tracked = [1, 2, 3, 4].map centreTracked ∧ rcvState = 0 := by
  obtain ⟨-, states, left, visits⟩ := iterates
  cases states.symm.trans centreStates
  refine ⟨rfl, ?_⟩
  generalize left + 1 = left at visits
  induction visits with
  | start => rfl
  | next before continues ih =>
      rw [ih, psrNext] at continues
      obtain ⟨system, computed, step⟩ := Option.bind_eq_some_iff.mp continues
      dsimp only at step
      rw [centre_correction computed] at step
      have stops : ¬ squaredNorm (0 : Fin 7 → ℚ) > epsilonPvt * epsilonPvt := by
        norm_num [squaredNorm, epsilonPvt]
      rw [decide_eq_false stops] at step
      cases step

theorem psr_corrections_start : ∃ system rows,
    psrSystem centreGeometry [] ([1, 2, 3, 4].map centreTracked) 0 = some system ∧
    system.rows.mapM Equation.finite? = some rows ∧ (leastSquares system.rows).isSome ∧
    ∀ dx, dx ≠ centreGeometry.solve system.rows →
      lineCost rows (centreGeometry.solve system.rows) < lineCost rows dx := by
  have start : Iterates centreGeometry [] centreInput.obs ([1, 2, 3, 4].map centreTracked) 0 :=
    ⟨by rw [centreInput_kept]; exact le_rfl, centreStates, 29, .start⟩
  obtain ⟨system, rows, computed, finite, defined, least⟩ :=
    psr_corrections centreInput centreSolves centreSines [] _ _ start
  exact ⟨system, rows, computed, finite, defined.mpr centre_spans, least centre_spans⟩

theorem psr_absent_clocks_galileo : ∃ xyzt, psrPos centreGeometry [] centreInput.obs = some xyzt ∧
    ∀ k : Fin 4, k ≠ 2 → xyzt (Fin.natAdd 3 k) = 0 := by
  have ends : (psrPos centreGeometry [] centreInput.obs).isSome := by
    obtain ⟨result, ran⟩ := Option.isSome_iff_exists.mp
      (psrLoop_isSome (fun t mem => (centreTracked_measured t mem).valid) (by simp) maxIterPvt 0)
    rw [psrPos]
    dsimp only
    split_ifs
    · rfl
    · rw [centreStates, Option.bind_eq_bind, Option.bind_some, ran]
      rfl
  obtain ⟨xyzt, ran⟩ := Option.isSome_iff_exists.mp ends
  have spans : ∀ tracked rcvState, Iterates centreGeometry [] centreInput.obs tracked rcvState →
      Spans centreGeometry tracked rcvState := by
    intro tracked rcvState iterates
    obtain ⟨rfl, rfl⟩ := centre_iterates iterates
    exact centre_spans
  have absent : ∀ k : Fin 4, k ≠ 2 → ∀ p ∈ filterL1 centreInput.obs,
      sys2idx (satsys p.1.sat).1 ≠ some k := by
    intro k differ p mem found
    obtain ⟨svid, sent, rfl⟩ := List.mem_map.mp (mem_filterL1 mem).1
    have galileo : sys2idx (satsys (satNo sysGal svid)).1 = some 2 := by
      rw [centreObs_sys svid sent]
      rfl
    exact differ (Option.some.inj (found.symm.trans galileo))
  exact ⟨xyzt, ran, fun k differ =>
    psr_absent_clocks centreInput centreSolves centreSines [] spans ran (absent k differ)⟩

end GnssParser
