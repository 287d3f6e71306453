import GnssParser.Model.GloOrbit

/-!
# The steps of a GLONASS orbit
-/

namespace GnssParser

/-! ## Steps -/

/-- The steps of the loop of `geph2pos` and `geph2vel`. -/
def gephSteps (fuel : Nat) (dt : ℚ) : Option (List ℚ) :=
  integrate (fun tt steps => steps ++ [tt]) fuel (firstStep dt) dt []

theorem integrate_foldl {σ : Type} (orbit : ℚ → σ → σ) (fuel : Nat) (tt dt : ℚ) (steps : List ℚ)
    (state : σ) :
    integrate orbit fuel tt dt (steps.foldl (fun state tt => orbit tt state) state) =
      (integrate (fun tt steps => steps ++ [tt]) fuel tt dt steps).map
        (List.foldl (fun state tt => orbit tt state) state) := by
  induction fuel generalizing tt dt steps with
  | zero => rfl
  | succ fuel ih =>
      rw [integrate, integrate]
      split
      · rw [← ih, List.foldl_append]
        rfl
      · rfl

theorem integrate_eq {σ : Type} (orbit : ℚ → σ → σ) (fuel : Nat) (dt : ℚ) (state : σ) :
    integrate orbit fuel (firstStep dt) dt state =
      (gephSteps fuel dt).map (List.foldl (fun state tt => orbit tt state) state) :=
  integrate_foldl orbit fuel (firstStep dt) dt [] state

/-- What the full steps leave of an interval. -/
def leftOver (dt : ℚ) : ℚ := |dt| - tStep * ⌊|dt| / tStep⌋₊

theorem leftOver_nonneg (dt : ℚ) : 0 ≤ leftOver dt := by
  have floor := Nat.floor_le (show 0 ≤ |dt| / tStep by unfold tStep; positivity)
  rw [le_div_iff₀ (by unfold tStep; norm_num)] at floor
  rw [leftOver]
  linarith

theorem leftOver_lt (dt : ℚ) : leftOver dt < tStep := by
  have floor := Nat.lt_floor_add_one (|dt| / tStep)
  rw [div_lt_iff₀ (by unfold tStep; norm_num)] at floor
  rw [leftOver]
  linarith

def signOf (dt : ℚ) : ℚ := if dt < 0 then -1 else 1

theorem signOf_cases (dt : ℚ) : signOf dt = 1 ∨ signOf dt = -1 := by
  rw [signOf]
  split
  · exact .inr rfl
  · exact .inl rfl

theorem abs_signOf (dt : ℚ) : |signOf dt| = 1 := by
  rcases signOf_cases dt with sign | sign <;> rw [sign] <;> simp

theorem signOf_mul_abs (dt : ℚ) : signOf dt * |dt| = dt := by
  rw [signOf]
  split
  · next negative => rw [abs_of_neg negative]; ring
  · next nonneg => rw [abs_of_nonneg (not_lt.mp nonneg), one_mul]

theorem firstStep_eq (dt : ℚ) : firstStep dt = signOf dt * tStep := by
  rw [firstStep, signOf]
  split <;> ring

theorem dt_eq (dt : ℚ) : dt = signOf dt * (tStep * ⌊|dt| / tStep⌋₊ + leftOver dt) := by
  rw [leftOver, add_sub_cancel, signOf_mul_abs]

section
variable {sign rest : ℚ} (unit : |sign| = 1) (nonneg : 0 ≤ rest)
include unit nonneg

/-- The full steps, by induction on their number. -/
theorem integrate_full (k fuel : Nat) (steps : List ℚ) :
    integrate (fun tt steps => steps ++ [tt]) (k + fuel) (sign * tStep) (sign * (tStep * k + rest))
        steps =
      integrate (fun tt steps => steps ++ [tt]) fuel (sign * tStep) (sign * rest)
        (steps ++ List.replicate k (sign * tStep)) := by
  induction k generalizing steps with
  | zero => simp
  | succ k ih =>
      have long : tStep ≤ |sign * (tStep * (k + 1 : Nat) + rest)| := by
        rw [abs_mul, unit, one_mul, abs_of_nonneg (by unfold tStep; positivity), tStep]
        push_cast
        have : (0 : ℚ) ≤ k := Nat.cast_nonneg k
        linarith
      have left : sign * (tStep * (k + 1 : Nat) + rest) - sign * tStep = sign * (tStep * k + rest) := by
        push_cast
        ring
      rw [Nat.succ_add, integrate, if_pos (lt_of_lt_of_le (by unfold tStep; norm_num) long)]
      dsimp only
      rw [if_neg (not_lt.mpr long), left, ih, List.append_assoc, List.singleton_append,
        List.replicate_succ]

theorem integrate_rest (short : rest < tStep) (fuel : Nat) (tt : ℚ) (steps : List ℚ) :
    integrate (fun tt steps => steps ++ [tt]) (fuel + if rest > 1e-9 then 2 else 1) tt (sign * rest)
        steps =
      some (steps ++ if rest > 1e-9 then [sign * rest] else []) := by
  have length : |sign * rest| = rest := by rw [abs_mul, unit, one_mul, abs_of_nonneg nonneg]
  by_cases more : rest > 1e-9
  · rw [if_pos more, if_pos more, integrate, if_pos (by rw [length]; exact more)]
    dsimp only
    rw [if_pos (by rw [length]; exact short), sub_self, integrate, if_neg (by norm_num)]
  · rw [if_neg more, if_neg more, integrate, if_neg (by rw [length]; exact more), List.append_nil]

end

def stepList (dt : ℚ) : List ℚ :=
  List.replicate ⌊|dt| / tStep⌋₊ (signOf dt * tStep) ++
    if leftOver dt > 1e-9 then [signOf dt * leftOver dt] else []

theorem gephSteps_eq (dt : ℚ) {fuel : Nat} (enough : (stepList dt).length < fuel) :
    gephSteps fuel dt = some (stepList dt) := by
  have length : (stepList dt).length = ⌊|dt| / tStep⌋₊ + if leftOver dt > 1e-9 then 1 else 0 := by
    rw [stepList, List.length_append, List.length_replicate]
    split <;> rfl
  obtain ⟨extra, rfl⟩ : ∃ extra, fuel = ⌊|dt| / tStep⌋₊ + (extra + if leftOver dt > 1e-9 then 2 else 1) := by
    refine ⟨fuel - ⌊|dt| / tStep⌋₊ - if leftOver dt > 1e-9 then 2 else 1, ?_⟩
    split_ifs at length ⊢ <;> omega
  have full := integrate_full (abs_signOf dt) (leftOver_nonneg dt) ⌊|dt| / tStep⌋₊
    (extra + if leftOver dt > 1e-9 then 2 else 1) []
  rw [← dt_eq dt, ← firstStep_eq] at full
  rw [gephSteps, full, List.nil_append,
    integrate_rest (abs_signOf dt) (leftOver_nonneg dt) (leftOver_lt dt), stepList, firstStep_eq]

theorem stepList_sum (dt : ℚ) :
    (stepList dt).sum = signOf dt * (tStep * ⌊|dt| / tStep⌋₊ +
      if leftOver dt > 1e-9 then leftOver dt else 0) := by
  rw [stepList, List.sum_append, List.sum_replicate, nsmul_eq_mul]
  split
  · rw [List.sum_singleton]
    ring
  · rw [List.sum_nil]
    ring

/-! ## The interval -/

/-- The interval exceeds full steps by no more than the tolerance of the loop. -/
def Dropped (dt : ℚ) : Prop := 0 < leftOver dt ∧ leftOver dt ≤ 1e-9

structure CoversInterval (dt : ℚ) (steps : List ℚ) : Prop where
  bounds : ∀ tt ∈ steps, 0 < tt * dt ∧ |tt| ≤ tStep
  count : ¬ Dropped dt → steps.length = ⌈|dt| / tStep⌉₊
  sum : ¬ Dropped dt → steps.sum = dt
  countDropped : Dropped dt → steps.length = ⌊|dt| / tStep⌋₊
  sumDropped : Dropped dt → |dt - steps.sum| = leftOver dt

theorem ceil_eq (dt : ℚ) :
    ⌈|dt| / tStep⌉₊ = ⌊|dt| / tStep⌋₊ + if 0 < leftOver dt then 1 else 0 := by
  have value : |dt| / tStep = ⌊|dt| / tStep⌋₊ + leftOver dt / tStep := by
    rw [leftOver]
    unfold tStep
    ring
  have lower := leftOver_nonneg dt
  have upper := leftOver_lt dt
  have positive : 0 < tStep := by unfold tStep; norm_num
  have fraction : leftOver dt / tStep ≤ 1 := (div_le_one positive).mpr upper.le
  split
  · next some =>
      have above : 0 < leftOver dt / tStep := div_pos some positive
      rw [Nat.ceil_eq_iff (by omega)]
      push_cast
      exact ⟨by linarith, by linarith⟩
  · next none =>
      have zero : leftOver dt = 0 := le_antisymm (not_lt.mp none) lower
      rw [zero, zero_div, add_zero] at value
      rw [value, Nat.ceil_natCast, Nat.floor_natCast, add_zero]

theorem stepList_covers (dt : ℚ) : CoversInterval dt (stepList dt) := by
  have nonneg := leftOver_nonneg dt
  have positive : 0 < tStep := by unfold tStep; norm_num
  have tolerance : (0 : ℚ) < 1e-9 := by norm_num
  have length : (stepList dt).length = ⌊|dt| / tStep⌋₊ + if leftOver dt > 1e-9 then 1 else 0 := by
    rw [stepList, List.length_append, List.length_replicate]
    split <;> rfl
  have forward : ∀ x, 0 < x → 0 < |dt| → 0 < signOf dt * x * dt := by
    intro x above apart
    have square : signOf dt * signOf dt = 1 := by
      rcases signOf_cases dt with sign | sign <;> rw [sign] <;> norm_num
    calc 0 < x * |dt| := mul_pos above apart
      _ = signOf dt * signOf dt * (x * |dt|) := by rw [square, one_mul]
      _ = signOf dt * x * (signOf dt * |dt|) := by ring
      _ = signOf dt * x * dt := by rw [signOf_mul_abs]
  refine ⟨?_, fun kept => ?_, fun kept => ?_, fun dropped => ?_, fun dropped => ?_⟩
  · intro tt mem
    rw [stepList, List.mem_append] at mem
    rcases mem with full | last
    · obtain ⟨some, rfl⟩ := List.mem_replicate.mp full
      have apart : 0 < |dt| := by
        refine abs_pos.mpr fun zero => some ?_
        rw [zero, abs_zero, zero_div, Nat.floor_zero]
      refine ⟨forward tStep positive apart, ?_⟩
      rw [abs_mul, abs_signOf, one_mul, abs_of_pos positive]
    · split at last
      · next more =>
          rw [List.mem_singleton.mp last]
          have above : 0 < leftOver dt := tolerance.trans more
          have apart : 0 < |dt| := by
            have whole : 0 ≤ tStep * (⌊|dt| / tStep⌋₊ : ℚ) := by positivity
            rw [leftOver] at above
            linarith
          refine ⟨forward _ above apart, ?_⟩
          rw [abs_mul, abs_signOf, one_mul, abs_of_nonneg nonneg]
          exact (leftOver_lt dt).le
      · cases last
  · rw [length, ceil_eq]
    congr 1
    refine if_congr ⟨fun more => tolerance.trans more, fun some => ?_⟩ rfl rfl
    exact not_le.mp fun small => kept ⟨some, small⟩
  · rw [stepList_sum]
    have whole : (if leftOver dt > 1e-9 then leftOver dt else 0) = leftOver dt := by
      split
      · rfl
      · next less =>
          exact le_antisymm nonneg (not_lt.mp fun some => kept ⟨some, not_lt.mp less⟩)
    rw [whole, ← dt_eq]
  · rw [length, if_neg (not_lt.mpr dropped.2), add_zero]
  · rw [stepList_sum, if_neg (not_lt.mpr dropped.2), add_zero]
    have rest : dt - signOf dt * (tStep * ⌊|dt| / tStep⌋₊) = signOf dt * leftOver dt := by
      linear_combination dt_eq dt
    rw [rest, abs_mul, abs_signOf, one_mul, abs_of_nonneg nonneg]

/-- Both functions go through the interval by the same steps. -/
theorem geph_steps (sqrt : ℚ → ℚ) (currTime : GTime) (gephPtr : GloEphem) :
    ∃ steps, CoversInterval (timeDiff currTime gephPtr.toe) steps ∧ ∀ fuel, steps.length < fuel →
      gephSteps fuel (timeDiff currTime gephPtr.toe) = some steps ∧
      ∃ last, last = steps.foldl (fun state tt => gloOrbit sqrt tt gephPtr.acc.get state) gephPtr.start ∧
        geph2pos sqrt fuel currTime gephPtr = some (last.1,
          -gephPtr.tauN + gephPtr.gamma * timeDiff currTime gephPtr.toe) ∧
        geph2vel sqrt fuel currTime gephPtr = some (last.2, gephPtr.gamma) := by
  refine ⟨_, stepList_covers _, fun fuel enough => ?_⟩
  have steps := gephSteps_eq (timeDiff currTime gephPtr.toe) enough
  refine ⟨steps, _, rfl, ?_, ?_⟩
  · rw [geph2pos, integrate_eq, steps]
    rfl
  · rw [geph2vel, integrate_eq, steps]
    rfl

theorem integrate_fuel {σ : Type} {orbit : ℚ → σ → σ} {fuel : Nat} {tt dt : ℚ} {state last : σ}
    (ran : integrate orbit fuel tt dt state = some last) (extra : Nat) :
    integrate orbit (fuel + extra) tt dt state = some last := by
  induction fuel generalizing tt dt state with
  | zero => cases ran
  | succ fuel ih =>
      rw [Nat.succ_add, integrate]
      rw [integrate] at ran
      split
      · next on => rw [if_pos on] at ran; exact ih ran
      · next off => rwa [if_neg off] at ran

theorem gephSteps_unique {dt : ℚ} {fuel : Nat} {steps : List ℚ}
    (taken : gephSteps fuel dt = some steps) : steps = stepList dt := by
  have longer := integrate_fuel taken ((stepList dt).length + 1)
  have all := gephSteps_eq dt (show (stepList dt).length < fuel + ((stepList dt).length + 1) by omega)
  exact Option.some.inj (longer.symm.trans all)

/-- A minute and half a nanosecond. -/
theorem gephSteps_minute :
    ¬ ∃ fuel steps, gephSteps fuel (60 + 5e-10) = some steps ∧ steps.sum = 60 + 5e-10 := by
  rintro ⟨fuel, steps, taken, sum⟩
  have floor : ⌊|(60 + 5e-10 : ℚ)| / tStep⌋₊ = 1 := by
    rw [Nat.floor_eq_iff (by unfold tStep; positivity), tStep]
    norm_num [abs_of_pos]
  have rest : leftOver (60 + 5e-10) = 5e-10 := by
    rw [leftOver, floor, tStep]
    norm_num [abs_of_pos]
  have dropped : Dropped (60 + 5e-10) := by
    rw [Dropped, rest]
    norm_num
  have missing := (stepList_covers (60 + 5e-10)).sumDropped dropped
  rw [← gephSteps_unique taken, sum, rest] at missing
  norm_num at missing

end GnssParser
