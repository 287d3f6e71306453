import Mathlib
import GnssParser.Lib.Mapping
import GnssParser.Model.Atmosphere
import GnssParser.Proof.GnssTime

/-!
# Size and shape of the delays

Over the reals: the tropospheric delay falls with the elevation, and the ionospheric one stays within
bounds and has the period of a day.
-/

namespace GnssParser
open Real

/-! ## Coefficients -/

section
variable (time : GTime)

end

/-- Times a whole number of days apart. -/
structure DaysApart (t t' : GTime) : Prop where
  day : ∃ k : Int, t'.time = t.time + 86400 * k
  sec : t'.sec = t.sec

theorem time2gpst_day {t t' : GTime} (span : t.InGpsSpan) (span' : t'.InGpsSpan)
    (apart : DaysApart t t') : ∃ m : Int, (time2gpst t').1 = (time2gpst t).1 + 86400 * m := by
  obtain ⟨n, small, same⟩ := span.eq_week
  obtain ⟨n', small', same'⟩ := span'.eq_week
  obtain ⟨⟨k, day⟩, sec⟩ := apart
  rw [same, same'] at day
  dsimp only at day
  refine ⟨k - 7 * (n' / 604800 : Nat) + 7 * (n / 604800 : Nat), ?_⟩
  rw [same, same', time2gpst_nat (by omega), time2gpst_nat (by omega), sec]
  dsimp only
  have rest : ((n' % 604800 : Nat) : Int) = (n % 604800 : Nat) +
      86400 * (k - 7 * (n' / 604800 : Nat) + 7 * (n / 604800 : Nat)) := by omega
  have rest' : ((n' % 604800 : Nat) : ℚ) = (n % 604800 : Nat) +
      86400 * ((k - 7 * (n' / 604800 : Nat) + 7 * (n / 604800 : Nat) : Int) : ℚ) := by
    have cast := congrArg (fun x : Int => (x : ℚ)) rest
    push_cast at cast ⊢
    exact cast
  rw [rest']
  ring

theorem localTime_day {t t' : GTime} {m : Int} (tow : (time2gpst t').1 = (time2gpst t).1 + 86400 * m)
    (lam : ℝ) : localTime t' lam = localTime t lam := by
  have day : ((86400.0 : ℚ) : ℝ) = 86400 := by norm_num
  obtain ⟨tt, same⟩ : ∃ tt, tt = ((43200.0 : ℚ) : ℝ) * lam + (((time2gpst t).1 : ℚ) : ℝ) := ⟨_, rfl⟩
  have later : ((43200.0 : ℚ) : ℝ) * lam + (((time2gpst t').1 : ℚ) : ℝ) = tt + m * 86400 := by
    rw [tow, same, Rat.cast_add, add_assoc]
    push_cast
    rw [mul_comm (m : ℝ)]
  have days : (tt + m * 86400) / 86400 = tt / 86400 + m := by
    rw [add_div, mul_div_cancel_right₀ _ (by norm_num)]
  rw [localTime, localTime, later, ← same, day, days, Int.floor_add_intCast]
  push_cast
  ring

theorem subionospheric_bound (revLla : Fin 3 → ℝ) (azel : ℝ × ℝ) :
    |(subionospheric Elementary.real revLla azel).1| ≤ 0.416 := by
  rw [subionospheric]
  dsimp only
  rw [abs_le]
  split_ifs with high low
  · norm_num
  · norm_num
  · norm_num at high low ⊢
    exact ⟨low, high⟩

theorem abs_cubic_le (c0 c1 c2 c3 : ℝ) {phi : ℝ} (small : |phi| ≤ 1) :
    |cubic c0 c1 c2 c3 phi| ≤ |c0| + |c1| + |c2| + |c3| := by
  have shrink (x y : ℝ) : |x + phi * y| ≤ |x| + |y| := by
    refine (abs_add_le _ _).trans (add_le_add le_rfl ?_)
    rw [abs_mul]
    exact mul_le_of_le_one_left (abs_nonneg y) small
  rw [cubic]
  have outer := shrink c0 (c1 + phi * (c2 + phi * c3))
  have middle := shrink c1 (c2 + phi * c3)
  have inner := shrink c2 c3
  linarith

/-- The slant factor at an elevation. -/
theorem slant_bound {el : ℝ} (above : 0 < el) (top : el ≤ π / 2) :
    1 ≤ 1 + ((16.0 : ℚ) : ℝ) * (((0.53 : ℚ) : ℝ) - el / (mPi : ℝ)) ^ 3 ∧
      1 + ((16.0 : ℚ) : ℝ) * (((0.53 : ℚ) : ℝ) - el / (mPi : ℝ)) ^ 3 ≤ 3.4 := by
  have mPi_pos : (0 : ℝ) < mPi := by norm_num [mPi]
  have most : el / (mPi : ℝ) ≤ 0.53 := by
    rw [div_le_iff₀ mPi_pos]
    have bound := pi_lt_d2
    norm_num [mPi]
    linarith
  have least : 0 < el / (mPi : ℝ) := div_pos above mPi_pos
  have low : 0 ≤ ((0.53 : ℚ) : ℝ) - el / (mPi : ℝ) := by
    norm_num at most ⊢
    exact most
  have high : ((0.53 : ℚ) : ℝ) - el / (mPi : ℝ) ≤ 0.53 := by
    norm_num
    exact least.le
  have cube := pow_le_pow_left₀ low high 3
  have nonneg := pow_nonneg low 3
  constructor
  · norm_num at nonneg ⊢
    exact nonneg
  · norm_num at cube ⊢
    linarith

/-- The truncated cosine of the day is between 0 and 1 as long as it is used. -/
theorem day_bound {x : ℝ} (near : |x| < ((1.57 : ℚ) : ℝ)) :
    0 ≤ 1 + x * x * (((-0.5 : ℚ) : ℝ) + x * x / ((24.0 : ℚ) : ℝ)) ∧
      1 + x * x * (((-0.5 : ℚ) : ℝ) + x * x / ((24.0 : ℚ) : ℝ)) ≤ 1 := by
  have square : x * x ≤ 2.4649 := by
    have bound := mul_self_le_mul_self (abs_nonneg x) near.le
    rw [abs_mul_abs_self] at bound
    norm_num at bound ⊢
    exact bound
  have nonneg := mul_self_nonneg x
  norm_num at square ⊢
  constructor <;> nlinarith

theorem eight_of_length {params : List ℝ} (enough : 8 ≤ params.length) :
    ∃ a0 a1 a2 a3 b0 b1 b2 b3 rest, params = a0 :: a1 :: a2 :: a3 :: b0 :: b1 :: b2 :: b3 :: rest := by
  refine ⟨params[0], params[1], params[2], params[3], params[4], params[5], params[6], params[7],
    params.drop 8, ?_⟩
  simp only [List.getElem_cons_drop]
  rfl

/-- The delay of a positive amplitude at a phase of the day. -/
noncomputable def dayDelay (slant amp x : ℝ) : ℝ :=
  lightSpeed * slant * (if |x| < ((1.57 : ℚ) : ℝ) then
    ((5e-9 : ℚ) : ℝ) + amp * (1 + x * x * (((-0.5 : ℚ) : ℝ) + x * x / ((24.0 : ℚ) : ℝ)))
  else ((5e-9 : ℚ) : ℝ))

theorem dayDelay_bounds {slant amp most : ℝ} (slant_ge : 1 ≤ slant) (slant_le : slant ≤ 3.4)
    (amp_nonneg : 0 ≤ amp) (amp_le : amp ≤ most) (x : ℝ) :
    lightSpeed * 5e-9 ≤ dayDelay slant amp x ∧ dayDelay slant amp x ≤ lightSpeed * 3.4 * (5e-9 + most) := by
  have speed : (0 : ℝ) < lightSpeed := by norm_num [lightSpeed]
  obtain ⟨seconds, same⟩ : ∃ seconds, seconds = if |x| < ((1.57 : ℚ) : ℝ) then
      ((5e-9 : ℚ) : ℝ) + amp * (1 + x * x * (((-0.5 : ℚ) : ℝ) + x * x / ((24.0 : ℚ) : ℝ)))
    else ((5e-9 : ℚ) : ℝ) := ⟨_, rfl⟩
  have night : ((5e-9 : ℚ) : ℝ) = 5e-9 := by norm_num
  have between : 5e-9 ≤ seconds ∧ seconds ≤ 5e-9 + most := by
    rw [same, night]
    split_ifs with near
    · obtain ⟨low, high⟩ := day_bound near
      have least := mul_nonneg amp_nonneg low
      have greatest := mul_le_of_le_one_right amp_nonneg high
      exact ⟨by linarith, by linarith⟩
    · exact ⟨le_rfl, by linarith⟩
  obtain ⟨low, high⟩ := between
  rw [dayDelay, ← same, mul_assoc, mul_assoc]
  constructor
  · refine mul_le_mul_of_nonneg_left ?_ speed.le
    nlinarith
  · refine mul_le_mul_of_nonneg_left ?_ speed.le
    exact mul_le_mul slant_le high (by linarith) (by norm_num)

/-- The geomagnetic latitude where the signal crosses the ionosphere. -/
noncomputable def geomagnetic (revLla : Fin 3 → ℝ) (azel : ℝ × ℝ) : ℝ :=
  (subionospheric Elementary.real revLla azel).1 + ((0.064 : ℚ) : ℝ) *
    cos (((subionospheric Elementary.real revLla azel).2 - ((1.617 : ℚ) : ℝ)) * mPi)

theorem geomagnetic_bound (revLla : Fin 3 → ℝ) (azel : ℝ × ℝ) : |geomagnetic revLla azel| ≤ 1 := by
  have latitude := subionospheric_bound revLla azel
  have cosine := abs_cos_le_one
    (((subionospheric Elementary.real revLla azel).2 - ((1.617 : ℚ) : ℝ)) * mPi)
  have small : |((0.064 : ℚ) : ℝ)| ≤ 0.064 := by norm_num
  refine (abs_add_le _ _).trans ?_
  rw [abs_mul]
  have product := mul_le_mul small cosine (abs_nonneg _) (by norm_num)
  norm_num at product latitude ⊢
  linarith

theorem calculateIonDelay_eq {revLla : Fin 3 → ℝ} (height : -1000 ≤ revLla 2) {azel : ℝ × ℝ}
    (above : 0 < azel.2) (t : GTime) (a0 a1 a2 a3 b0 b1 b2 b3 : ℝ) (rest : List ℝ) :
    calculateIonDelay Elementary.real t (a0 :: a1 :: a2 :: a3 :: b0 :: b1 :: b2 :: b3 :: rest) revLla azel =
      let phi := geomagnetic revLla azel
      let amp := cubic a0 a1 a2 a3 phi
      let per := cubic b0 b1 b2 b3 phi
      some (dayDelay (1 + ((16.0 : ℚ) : ℝ) * (((0.53 : ℚ) : ℝ) - azel.2 / (mPi : ℝ)) ^ 3)
        (if amp < 0 then 0 else amp)
        (((2.0 * mPi : ℚ) : ℝ) *
          (localTime t (subionospheric Elementary.real revLla azel).2 - ((50400.0 : ℚ) : ℝ)) /
            (if per < ((72000.0 : ℚ) : ℝ) then ((72000.0 : ℚ) : ℝ) else per))) := by
  have used : ¬ (revLla 2 < ((-1e3 : ℚ) : ℝ) ∨ azel.2 ≤ 0) := by
    rw [not_or, not_lt, not_le]
    refine ⟨?_, above⟩
    norm_num
    exact height
  rw [calculateIonDelay, if_neg (by simp), if_neg used]
  rfl

/-- With eight parameters the delay is at least that of the night and at most a multiple of the
amplitudes, and it repeats each day. -/
theorem calculateIonDelay_spec {params : List ℝ} (enough : 8 ≤ params.length) {revLla : Fin 3 → ℝ}
    (height : -1000 ≤ revLla 2) {azel : ℝ × ℝ} (above : 0 < azel.2) (top : azel.2 ≤ π / 2) (t : GTime) :
    ∃ d, calculateIonDelay Elementary.real t params revLla azel = some d ∧ lightSpeed * 5e-9 ≤ d ∧
      d ≤ lightSpeed * 3.4 * (5e-9 + ((params.take 4).map fun a => |a|).sum) ∧
      (t.InGpsSpan → ∀ t', t'.InGpsSpan → DaysApart t t' →
        calculateIonDelay Elementary.real t' params revLla azel = some d) := by
  obtain ⟨a0, a1, a2, a3, b0, b1, b2, b3, rest, rfl⟩ := eight_of_length enough
  obtain ⟨slant_ge, slant_le⟩ := slant_bound above top
  have computed := calculateIonDelay_eq height above
  refine ⟨_, computed t a0 a1 a2 a3 b0 b1 b2 b3 rest, ?_⟩
  rw [← and_assoc]
  constructor
  · refine dayDelay_bounds slant_ge slant_le ?_ ?_ _
    · split_ifs with negative
      · exact le_rfl
      · exact not_lt.mp negative
    · have most := abs_cubic_le a0 a1 a2 a3 (geomagnetic_bound revLla azel)
      have total : (((a0 :: a1 :: a2 :: a3 :: b0 :: b1 :: b2 :: b3 :: rest).take 4).map fun a => |a|).sum =
          |a0| + |a1| + |a2| + |a3| := by
        simp
        ring
      rw [total]
      split_ifs
      · positivity
      · exact (le_abs_self _).trans most
  · intro span t' span' apart
    obtain ⟨m, tow⟩ := time2gpst_day span span' apart
    rw [computed, localTime_day tow]

theorem calculateIonDelay_tomorrow : ∃ d,
    calculateIonDelay Elementary.real ⟨1700000000, 0⟩
      [1e-8, 2e-8, -6e-8, -1e-7, 9e4, 1e5, -6e4, -5e5] ![45, 8, 300] (0, 1) = some d ∧
    lightSpeed * 5e-9 ≤ d ∧
    calculateIonDelay Elementary.real ⟨1700086400, 0⟩
      [1e-8, 2e-8, -6e-8, -1e-7, 9e4, 1e5, -6e4, -5e5] ![45, 8, 300] (0, 1) = some d := by
  have enough : 8 ≤ ([1e-8, 2e-8, -6e-8, -1e-7, 9e4, 1e5, -6e4, -5e5] : List ℝ).length := by simp
  have height : -1000 ≤ (![45, 8, 300] : Fin 3 → ℝ) 2 := by
    simp
    norm_num
  have above : 0 < ((0, 1) : ℝ × ℝ).2 := one_pos
  have top : ((0, 1) : ℝ × ℝ).2 ≤ π / 2 := by linarith [pi_gt_three]
  obtain ⟨d, some, low, -, daily⟩ :=
    calculateIonDelay_spec enough height above top ⟨1700000000, 0⟩
  have span (n : Int) (first : 315964800 ≤ n) (last : n < 4102444800) : GTime.InGpsSpan ⟨n, 0⟩ :=
    ⟨⟨le_rfl, one_pos⟩, by rw [epoch2time_gpst0]; exact first, last⟩
  exact ⟨d, some, low, daily (span _ (by simp) (by simp)) _ (span _ (by simp) (by simp)) ⟨⟨1, by simp⟩, rfl⟩⟩

end GnssParser
