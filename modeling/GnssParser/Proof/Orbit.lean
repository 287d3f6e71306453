import GnssParser.Lib.Kepler
import GnssParser.Lib.Turning
import GnssParser.Model.Orbit
import GnssParser.Proof.LeapSeconds
import Mathlib

/-!
# Velocities of Keplerian orbits

`eph2vel` beside the derivative of `eph2pos`, over the reals and with Kepler's equation solved
exactly.
-/

namespace GnssParser
open Elementary Filter Topology

noncomputable section

def exactKepler (mk es : ℝ) : ℝ := Kepler.anomaly es mk

namespace Ephem

/-- A closed orbit. -/
def Elliptic (ephem : Ephem) : Prop := |ephem.e| < 1

/-- The orbital plane at `tk`. -/
abbrev plane (ephem : Ephem) (tk : ℝ) : Plane ℝ := orbitalPlane real exactKepler ephem tk

abbrev rate (ephem : Ephem) (tk : ℝ) : PlaneRate ℝ := planeRate real ephem (ephem.plane tk)

def meanMotion (ephem : Ephem) : ℝ := √(ephem.mu / (ephem.a : ℝ) ^ 3) + ephem.deltaN

def ykPrime (ephem : Ephem) (tk : ℝ) : ℝ := (ephem.plane tk).rk * Real.sin (ephem.plane tk).uk

def xkPrimeDot (ephem : Ephem) (tk : ℝ) : ℝ :=
  (ephem.rate tk).rkDot * Real.cos (ephem.plane tk).uk -
    (ephem.plane tk).rk * (ephem.rate tk).ukDot * Real.sin (ephem.plane tk).uk

def ykPrimeDot (ephem : Ephem) (tk : ℝ) : ℝ :=
  (ephem.rate tk).rkDot * Real.sin (ephem.plane tk).uk +
    (ephem.plane tk).rk * (ephem.rate tk).ukDot * Real.cos (ephem.plane tk).uk

/-- The argument of latitude before its correction. -/
def phi (ephem : Ephem) (tk : ℝ) : ℝ :=
  Complex.arg ⟨(ephem.plane tk).cosEk - ephem.e,
    √(1 - ephem.e * ephem.e : ℝ) * (ephem.plane tk).sinEk⟩ + ephem.omg

def vkDot (ephem : Ephem) (tk : ℝ) : ℝ :=
  √(1 - ephem.e * ephem.e : ℝ) * (ephem.rate tk).ekDot / (1 - ephem.e * (ephem.plane tk).cosEk)

end Ephem

/-! ## Motion in the plane -/

section
variable {ephem : Ephem} (elliptic : ephem.Elliptic) (tk : ℝ)
include elliptic

theorem Ephem.Elliptic.cast : |(ephem.e : ℝ)| < 1 := by
  exact_mod_cast elliptic

theorem slope_cosEk_pos : 0 < 1 - ephem.e * (ephem.plane tk).cosEk :=
  Kepler.slope_pos elliptic.cast _

theorem hasDerivAt_ek :
    HasDerivAt (fun tk => exactKepler (ephem.m0 + ephem.meanMotion * tk) ephem.e)
      (ephem.rate tk).ekDot tk := by
  have mean : HasDerivAt (fun tk : ℝ => ephem.m0 + ephem.meanMotion * tk) ephem.meanMotion tk := by
    simpa using ((hasDerivAt_id' tk).const_mul ephem.meanMotion).const_add (ephem.m0 : ℝ)
  have anomaly := Kepler.hasDerivAt_anomaly elliptic.cast (ephem.m0 + ephem.meanMotion * tk)
  exact (anomaly.comp tk mean).congr_deriv (inv_mul_eq_div _ _)

theorem hasDerivAt_sinEk :
    HasDerivAt (fun tk => (ephem.plane tk).sinEk)
      ((ephem.plane tk).cosEk * (ephem.rate tk).ekDot) tk :=
  (hasDerivAt_ek elliptic tk).sin

theorem hasDerivAt_cosEk :
    HasDerivAt (fun tk => (ephem.plane tk).cosEk)
      (-((ephem.plane tk).sinEk * (ephem.rate tk).ekDot)) tk :=
  (hasDerivAt_ek elliptic tk).cos.congr_deriv (neg_mul _ _)

theorem turning_phi : Turning (ephem.phi) (ephem.vkDot tk) tk := by
  have slope := slope_cosEk_pos elliptic tk
  have circle : (ephem.plane tk).sinEk ^ 2 + (ephem.plane tk).cosEk ^ 2 = 1 := Real.sin_sq_add_cos_sq _
  have root : √(1 - ephem.e * ephem.e : ℝ) ^ 2 = 1 - ephem.e * ephem.e := by
    have square := (sq_lt_one_iff_abs_lt_one _).mpr elliptic.cast
    exact Real.sq_sqrt (by linarith)
  have first := (hasDerivAt_cosEk elliptic tk).sub_const (ephem.e : ℝ)
  have second := (hasDerivAt_sinEk elliptic tk).const_mul √(1 - ephem.e * ephem.e : ℝ)
  have norm : ((ephem.plane tk).cosEk - ephem.e) * ((ephem.plane tk).cosEk - ephem.e) +
      √(1 - ephem.e * ephem.e : ℝ) * (ephem.plane tk).sinEk *
        (√(1 - ephem.e * ephem.e : ℝ) * (ephem.plane tk).sinEk) =
      (1 - ephem.e * (ephem.plane tk).cosEk) ^ 2 := by
    linear_combination (ephem.plane tk).sinEk ^ 2 * root + (1 - (ephem.e : ℝ) ^ 2) * circle
  have anomaly := Turning.arg first second (by rw [norm]; positivity)
  have node := Turning.of_hasDerivAt (hasDerivAt_const tk (ephem.omg : ℝ))
  refine (anomaly.add node).congr_rate ?_
  rw [norm, Ephem.vkDot, add_zero, div_eq_div_iff (by positivity) slope.ne']
  generalize √(1 - ephem.e * ephem.e : ℝ) = q
  linear_combination
    q * (ephem.rate tk).ekDot * (1 - ephem.e * (ephem.plane tk).cosEk) * circle

theorem hasDerivAt_correction (s c : ℚ) :
    HasDerivAt (fun tk => s * (ephem.plane tk).sin2phi + c * (ephem.plane tk).cos2phi)
      (2 * ephem.vkDot tk * (s * (ephem.plane tk).cos2phi - c * (ephem.plane tk).sin2phi)) tk := by
  have turns := (turning_phi elliptic tk).double
  have moves := (turns.sin.const_mul (s : ℝ)).add (turns.cos.const_mul (c : ℝ))
  refine moves.congr_deriv ?_
  change s * ((ephem.plane tk).cos2phi * _) + c * -((ephem.plane tk).sin2phi * _) = _
  ring

theorem turning_uk : Turning (fun tk => (ephem.plane tk).uk) (ephem.rate tk).ukDot tk :=
  (turning_phi elliptic tk).add (.of_hasDerivAt (hasDerivAt_correction elliptic tk _ _))

theorem hasDerivAt_rk : HasDerivAt (fun tk => (ephem.plane tk).rk) (ephem.rate tk).rkDot tk := by
  have radius := (((hasDerivAt_cosEk elliptic tk).const_mul (ephem.e : ℝ)).const_sub 1).const_mul
    (ephem.a : ℝ)
  refine (radius.add (hasDerivAt_correction elliptic tk _ _)).congr_deriv ?_
  change _ = ephem.a * ephem.e * (ephem.rate tk).ekDot * (ephem.plane tk).sinEk + _
  congr 1
  ring

theorem hasDerivAt_ik : HasDerivAt (fun tk => (ephem.plane tk).ik) (ephem.rate tk).ikDot tk := by
  have linear := ((hasDerivAt_id' tk).const_mul (ephem.iDot : ℝ)).const_add (ephem.i0 : ℝ)
  rw [mul_one] at linear
  exact linear.add (hasDerivAt_correction elliptic tk _ _)

theorem hasDerivAt_xkPrime :
    HasDerivAt (fun tk => (ephem.plane tk).rk * Real.cos (ephem.plane tk).uk) (ephem.xkPrimeDot tk) tk := by
  refine ((hasDerivAt_rk elliptic tk).mul (turning_uk elliptic tk).cos).congr_deriv ?_
  rw [Ephem.xkPrimeDot]
  ring

theorem hasDerivAt_ykPrime : HasDerivAt ephem.ykPrime (ephem.ykPrimeDot tk) tk := by
  refine ((hasDerivAt_rk elliptic tk).mul (turning_uk elliptic tk).sin).congr_deriv ?_
  rw [Ephem.ykPrimeDot]
  ring

end

/-! ## Motion in space -/

/-- `nodeVelocity` has `ykPrimeDot` where the derivative of the third coordinate has `ykPrime`. -/
theorem hasDerivAt_nodeFrame {x y ik omgK : ℝ → ℝ} {x' y' ik' omgK' t : ℝ}
    (first : HasDerivAt x x' t) (second : HasDerivAt y y' t) (tilts : HasDerivAt ik ik' t)
    (node : HasDerivAt omgK omgK' t) :
    HasDerivAt (fun t => nodeFrame real (x t) (y t) (ik t) (omgK t))
      (nodeVelocity real (x t) (y t) x' y' (ik t) ik' (omgK t) omgK' +
        ![0, 0, (y t - y') * ik' * Real.cos (ik t)]) t := by
  have height := second.mul tilts.cos
  rw [hasDerivAt_pi]
  intro axis
  fin_cases axis
  · refine ((first.mul node.cos).sub (height.mul node.sin)).congr_deriv ?_
    simp [nodeVelocity]
    ring
  · refine ((first.mul node.sin).add (height.mul node.cos)).congr_deriv ?_
    simp [nodeVelocity]
    ring
  · refine (second.mul tilts.sin).congr_deriv ?_
    simp [nodeVelocity]
    ring

namespace Ephem
variable (ephem : Ephem)

/-- The error of the velocity along the third axis of `nodeFrame`. -/
def heightError (tk : ℝ) : ℝ :=
  (ephem.ykPrime tk - ephem.ykPrimeDot tk) * (ephem.rate tk).ikDot * Real.cos (ephem.plane tk).ik

/-- The third axis of `nodeFrame` in the frame of the position. -/
def heightAxis (tk : ℝ) : Fin 3 → ℝ :=
  if ephem.geo then
    ![Real.sin (ephem.earthOmg * tk) * sinN5, Real.cos (ephem.earthOmg * tk) * sinN5, cosN5]
  else ![0, 0, 1]

theorem heightAxis_ne_zero (tk : ℝ) : ephem.heightAxis tk ≠ 0 := by
  intro zero
  have third := congrFun zero 2
  unfold heightAxis at third
  split at third
  · simp [cosN5] at third
    norm_num at third
  · simp at third

end Ephem

theorem hasDerivAt_node (start rate shift tk : ℝ) :
    HasDerivAt (fun tk => start + rate * tk - shift) rate tk := by
  simpa using (((hasDerivAt_id' tk).const_mul rate).const_add start).sub_const shift

/-- The turn of the frame of a geostationary orbit, with the cosine and sine of its tilt. -/
theorem hasDerivAt_geoFrame {g : ℝ → Fin 3 → ℝ} {v : Fin 3 → ℝ} {height t : ℝ} (omg c s : ℝ)
    (moves : HasDerivAt g (v + ![0, 0, height]) t) :
    HasDerivAt
      (fun t => ![
        g t 0 * Real.cos (omg * t) + g t 1 * Real.sin (omg * t) * c + g t 2 * Real.sin (omg * t) * s,
        -g t 0 * Real.sin (omg * t) + g t 1 * Real.cos (omg * t) * c + g t 2 * Real.cos (omg * t) * s,
        -g t 1 * s + g t 2 * c])
      (![v 0 * Real.cos (omg * t) + g t 0 * (-omg * Real.sin (omg * t)) +
            v 1 * Real.sin (omg * t) * c + g t 1 * (omg * Real.cos (omg * t)) * c +
            v 2 * Real.sin (omg * t) * s + g t 2 * (omg * Real.cos (omg * t)) * s,
          -v 0 * Real.sin (omg * t) - g t 0 * (omg * Real.cos (omg * t)) +
            v 1 * Real.cos (omg * t) * c + g t 1 * (-omg * Real.sin (omg * t)) * c +
            v 2 * Real.cos (omg * t) * s + g t 2 * (-omg * Real.sin (omg * t)) * s,
          -v 1 * s + v 2 * c] +
        height • ![Real.sin (omg * t) * s, Real.cos (omg * t) * s, c]) t := by
  have axes := hasDerivAt_pi.mp moves
  have first : HasDerivAt (fun t => g t 0) (v 0) t := (axes 0).congr_deriv (by simp)
  have second : HasDerivAt (fun t => g t 1) (v 1) t := (axes 1).congr_deriv (by simp)
  have third : HasDerivAt (fun t => g t 2) (v 2 + height) t := (axes 2).congr_deriv (by simp)
  have spin := (hasDerivAt_id' t).const_mul omg
  rw [hasDerivAt_pi]
  intro axis
  fin_cases axis
  · refine (((first.mul spin.cos).add ((second.mul spin.sin).mul_const c)).add
      ((third.mul spin.sin).mul_const s)).congr_deriv ?_
    simp
    ring
  · refine (((first.neg.mul spin.sin).add ((second.mul spin.cos).mul_const c)).add
      ((third.mul spin.cos).mul_const s)).congr_deriv ?_
    simp
    ring
  · refine ((second.neg.mul_const s).add (third.mul_const c)).congr_deriv ?_
    simp
    ring

theorem hasDerivAt_svPos {ephem : Ephem} (elliptic : ephem.Elliptic) (tk : ℝ) :
    HasDerivAt (svPos real exactKepler ephem)
      (svVel real exactKepler ephem tk + ephem.heightError tk • ephem.heightAxis tk) tk := by
  have frame (start rate shift : ℝ) := hasDerivAt_nodeFrame (hasDerivAt_xkPrime elliptic tk)
    (hasDerivAt_ykPrime elliptic tk) (hasDerivAt_ik elliptic tk) (hasDerivAt_node start rate shift tk)
  unfold svPos svVel Ephem.heightAxis
  by_cases geo : ephem.geo
  · simp only [geo, if_true]
    exact hasDerivAt_geoFrame ephem.earthOmg cosN5 sinN5
      (frame ephem.omg0 ephem.omgDot (ephem.earthOmg * ephem.orbitTow))
  · simp only [geo]
    refine (frame ephem.omg0 (ephem.omgDot - ephem.earthOmg)
      (ephem.earthOmg * ephem.orbitTow)).congr_deriv ?_
    have axis : ephem.heightError tk • ![(0 : ℝ), 0, 1] = ![0, 0, ephem.heightError tk] := by
      simp
    exact congrArg _ axis.symm

/-! ## Motion in time -/

/-- The difference quotient of `F` at a time over rational steps. -/
def difference {E : Type} [AddCommGroup E] [Module ℝ E] (F : GTime → E) (currTime : GTime) (h : ℚ) :
    E :=
  (h : ℝ)⁻¹ • (F (timeAdd currTime h) - F currTime)

theorem tendsto_cast_ne : Tendsto ((↑) : ℚ → ℝ) (𝓝[≠] 0) (𝓝[≠] 0) := by
  apply tendsto_nhdsWithin_of_tendsto_nhds_of_eventually_within
  · have continuous := Rat.continuous_coe_real.tendsto 0
    rw [Rat.cast_zero] at continuous
    exact continuous.mono_left nhdsWithin_le_nhds
  · filter_upwards [self_mem_nhdsWithin] with h nonzero
    exact Rat.cast_ne_zero.mpr nonzero

theorem timeDiff_timeAdd (t u : GTime) (h : ℚ) : timeDiff (timeAdd t h) u = timeDiff t u + h := by
  rw [timeDiff_eq, timeDiff_eq, timeAdd_value]
  ring

theorem weekDiff_timeAdd {currTime toe : GTime}
    (inside : |timeDiff currTime toe| ≠ weekSeconds / 2) :
    ∀ᶠ h in 𝓝 0, weekDiff (timeAdd currTime h) toe = weekDiff currTime toe + h := by
  have start : Tendsto (fun h : ℚ => timeDiff currTime toe + h) (𝓝 0) (𝓝 (timeDiff currTime toe)) := by
    have continuous := (continuous_const_add (timeDiff currTime toe)).tendsto (0 : ℚ)
    rwa [add_zero] at continuous
  obtain above | near | below : weekSeconds / 2 < timeDiff currTime toe ∨
      |timeDiff currTime toe| < weekSeconds / 2 ∨ timeDiff currTime toe < -weekSeconds / 2 := by
    rcases lt_or_gt_of_ne inside with near | far
    · exact .inr (.inl near)
    · rcases lt_abs.mp far with above | below
      · exact .inl above
      · exact .inr (.inr (by linarith))
  · filter_upwards [start.eventually (lt_mem_nhds above)] with h stays
    rw [weekDiff, weekDiff, timeDiff_timeAdd, if_pos stays, if_pos above]
    ring
  · have bounds := abs_lt.mp near
    filter_upwards [start.eventually (lt_mem_nhds bounds.1), start.eventually (gt_mem_nhds bounds.2)]
      with h low high
    rw [weekDiff, weekDiff, timeDiff_timeAdd, if_neg high.le.not_gt, if_neg (by linarith),
      if_neg bounds.2.le.not_gt, if_neg (by linarith)]
  · have unlike (x : ℚ) (below : x < -weekSeconds / 2) : ¬ x > weekSeconds / 2 := by
      norm_num [weekSeconds] at below ⊢
      linarith
    filter_upwards [start.eventually (gt_mem_nhds below)] with h stays
    rw [weekDiff, weekDiff, timeDiff_timeAdd, if_neg (unlike _ stays), if_pos stays, if_neg (unlike _ below),
      if_pos below]
    ring

theorem tendsto_difference {E : Type} [NormedAddCommGroup E] [NormedSpace ℝ E] {F : GTime → E}
    {G : ℝ → E} {G' : E} {currTime : GTime}
    (same : ∀ᶠ h : ℚ in 𝓝 0, F (timeAdd currTime h) = G h) (here : F currTime = G 0)
    (moves : HasDerivAt G G' 0) : Tendsto (difference F currTime) (𝓝[≠] 0) (𝓝 G') := by
  have slope := moves.tendsto_slope_zero.comp tendsto_cast_ne
  refine slope.congr' ?_
  filter_upwards [same.filter_mono nhdsWithin_le_nhds] with h same
  rw [Function.comp_apply, difference, same, here, zero_add]

section
variable {ephem : Ephem} (elliptic : ephem.Elliptic) {currTime : GTime}
  (inside : |timeDiff currTime ephem.toe| ≠ weekSeconds / 2)
include elliptic inside

theorem tendsto_position :
    Tendsto (difference (fun t => (eph2posWith real exactKepler t ephem).1) currTime) (𝓝[≠] 0)
      (𝓝 ((eph2velWith real exactKepler currTime ephem).1 +
        ephem.heightError ↑(weekDiff currTime ephem.toe) •
          ephem.heightAxis ↑(weekDiff currTime ephem.toe))) := by
  generalize start : ((weekDiff currTime ephem.toe : ℚ) : ℝ) = tk
  have moves := hasDerivAt_svPos elliptic (tk + 0)
  have moved := moves.comp_const_add tk 0
  rw [add_zero] at moved
  refine tendsto_difference (G := fun h => svPos real exactKepler ephem (tk + h)) ?_ ?_ ?_
  · filter_upwards [weekDiff_timeAdd inside] with h later
    rw [eph2posWith, later, Rat.cast_add, start]
  · rw [eph2posWith, start, add_zero]
  · rw [eph2velWith, start]
    exact moved

theorem tendsto_clock :
    Tendsto (difference (fun t => (eph2posWith real exactKepler t ephem).2) currTime) (𝓝[≠] 0)
      (𝓝 (eph2velWith real exactKepler currTime ephem).2) := by
  generalize start : ((weekDiff currTime ephem.toe : ℚ) : ℝ) = tk
  generalize clock : ((timeDiff currTime ephem.toc : ℚ) : ℝ) = dt
  refine tendsto_difference (G := fun h => svdtOf real exactKepler ephem (tk + h) (dt + h)) ?_ ?_ ?_
  · filter_upwards [weekDiff_timeAdd inside] with h later
    rw [eph2posWith, later, timeDiff_timeAdd, Rat.cast_add, Rat.cast_add, start, clock]
  · rw [eph2posWith, start, clock, add_zero, add_zero]
  · rw [eph2velWith, start, clock]
    have shift : HasDerivAt (fun h : ℝ => dt + h) 1 0 := (hasDerivAt_id' 0).const_add dt
    have anomaly := (hasDerivAt_sinEk elliptic (tk + 0)).comp_const_add tk 0
    have polynomial := ((shift.const_mul (ephem.af1 : ℝ)).const_add (ephem.af0 : ℝ)).add
      ((shift.const_mul (ephem.af2 : ℝ)).mul shift)
    have relativity := ((anomaly.const_mul (2 * √(ephem.mu * ephem.a : ℝ) * ephem.e)).div_const
      (lightSpeed : ℝ)).div_const (lightSpeed : ℝ)
    refine (polynomial.sub relativity).congr_deriv ?_
    simp only [svddtOf, real_sqrt, add_zero]
    ring

/-- The drift is the rate of the clock; the velocity is the rate of the position but for the
height error. -/
theorem eph2vel_rate :
    Tendsto (difference (fun t => (eph2posWith real exactKepler t ephem).2) currTime) (𝓝[≠] 0)
        (𝓝 (eph2velWith real exactKepler currTime ephem).2) ∧
      Tendsto (difference (fun t => (eph2posWith real exactKepler t ephem).1) currTime) (𝓝[≠] 0)
        (𝓝 ((eph2velWith real exactKepler currTime ephem).1 +
          ephem.heightError ↑(weekDiff currTime ephem.toe) •
            ephem.heightAxis ↑(weekDiff currTime ephem.toe))) ∧
      (Tendsto (difference (fun t => (eph2posWith real exactKepler t ephem).1) currTime) (𝓝[≠] 0)
          (𝓝 (eph2velWith real exactKepler currTime ephem).1) ↔
        ephem.heightError ↑(weekDiff currTime ephem.toe) = 0) := by
  have position := tendsto_position elliptic inside
  refine ⟨tendsto_clock elliptic inside, position, fun exact => ?_, fun zero => ?_⟩
  · have same := tendsto_nhds_unique exact position
    have error := left_eq_add.mp same
    exact (smul_eq_zero.mp error).resolve_right (ephem.heightAxis_ne_zero _)
  · rwa [zero, zero_smul, add_zero] at position

end

def circularEphem : Ephem := { sat := 1, a := 26560000, iDot := 1e-10 }

theorem circularEphem_meanMotion : 0 < circularEphem.meanMotion := by
  have mu : (circularEphem.mu : ℝ) = 398600500000000 := by
    have value : circularEphem.mu = 398600500000000 := by decide +kernel
    rw [value]
    norm_num
  rw [Ephem.meanMotion, mu]
  norm_num [circularEphem]

theorem circularEphem_heightError :
    circularEphem.heightError 0 = -(26560000 * circularEphem.meanMotion) * 1e-10 := by
  have still : exactKepler 0 0 = 0 :=
    (Kepler.anomaly_unique (by norm_num) (by simp [Kepler.mean])).symm
  have plane : circularEphem.plane 0 =
      { n := circularEphem.meanMotion, sinEk := 0, cosEk := 1, cos2phi := 1, sin2phi := 0, uk := 0,
        rk := 26560000, ik := 0 } := by
    have axis : Complex.arg ⟨1, 0⟩ = 0 := Complex.arg_one
    simp [Ephem.plane, Ephem.meanMotion, orbitalPlane, circularEphem, still, axis]
  simp [Ephem.heightError, Ephem.ykPrime, Ephem.ykPrimeDot, Ephem.rate, planeRate, plane]
  simp [circularEphem]

/-- A satellite at its node on a circular orbit whose inclination changes. -/
theorem eph2vel_rate_circular :
    Tendsto (difference (fun t => (eph2posWith real exactKepler t circularEphem).2) ⟨0, 0⟩) (𝓝[≠] 0)
        (𝓝 (eph2velWith real exactKepler ⟨0, 0⟩ circularEphem).2) ∧
      ¬ Tendsto (difference (fun t => (eph2posWith real exactKepler t circularEphem).1) ⟨0, 0⟩)
          (𝓝[≠] 0) (𝓝 (eph2velWith real exactKepler ⟨0, 0⟩ circularEphem).1) := by
  have elliptic : circularEphem.Elliptic := by norm_num [Ephem.Elliptic, circularEphem]
  have rate := @eph2vel_rate circularEphem elliptic ⟨0, 0⟩
    (by norm_num [timeDiff, circularEphem, weekSeconds])
  refine ⟨rate.1, fun exact => ?_⟩
  have zero := rate.2.2.mp exact
  have start : weekDiff ⟨0, 0⟩ circularEphem.toe = 0 := by decide +kernel
  rw [start, Rat.cast_zero, circularEphem_heightError] at zero
  have motion := circularEphem_meanMotion
  norm_num at zero
  exact motion.ne' zero

end

end GnssParser
