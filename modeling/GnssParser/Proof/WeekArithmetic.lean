import GnssParser.Proof.GnssTime

/-!
# Week arithmetic

The week conversions multiply in 32 bits, although the sum goes into a 64-bit time.
-/

namespace GnssParser

/-- `t` is `tow` seconds into the week of its epoch, and `back` is what it is converted back to. -/
structure ExactWeek (t epoch : GTime) (back : ℚ × Int) (week : Nat) (tow : ℚ) : Prop
    extends t.Normal where
  elapsed : timeDiff t epoch = 604800 * week + tow
  back : back = (tow, (week : Int))

theorem admitTow_ofWeek {tow : ℚ} (nonneg : 0 ≤ tow) (below : tow < 604800) :
    admitTow tow = tow := by
  rw [admitTow, if_neg (by rw [not_or]; constructor <;> norm_num <;> linarith)]

theorem normal_floor (time : Int) (tow : ℚ) : GTime.Normal ⟨time, tow - ⌊tow⌋⟩ :=
  ⟨Int.fract_nonneg tow, Int.fract_lt_one tow⟩

theorem floor_bounds {tow : ℚ} (nonneg : 0 ≤ tow) (below : tow < 604800) :
    0 ≤ ⌊tow⌋ ∧ ⌊tow⌋ < 604800 :=
  ⟨Int.floor_nonneg.mpr nonneg, Int.floor_lt.mpr (by exact_mod_cast below)⟩

theorem timeDiff_eq_iff {t0 n : Int} {week : Nat} {tow : ℚ} :
    timeDiff ⟨t0 + n, tow - ⌊tow⌋⟩ ⟨t0, 0⟩ = 604800 * week + tow ↔ n = 604800 * week + ⌊tow⌋ := by
  rw [timeDiff]
  dsimp only
  constructor
  · intro same
    have whole : (n : ℚ) = ((604800 * week + ⌊tow⌋ : Int) : ℚ) := by
      push_cast at same ⊢
      linarith
    exact_mod_cast whole
  · rintro rfl
    push_cast
    ring

/-! ## Signed weeks -/

theorem wrapInt_eq_self_iff {x : Int} (nonneg : 0 ≤ x) (small : x < 2 ^ 33) :
    wrapInt x = x ↔ x < 2 ^ 31 := by
  rw [wrapInt, Int.bmod_def]
  constructor
  · intro same
    split at same <;> omega
  · intro below
    split <;> omega

theorem signedWeekTime_ofWeek {epoch : CalendarTime} {t0 : Int}
    (start : epoch2time epoch = ⟨t0, 0⟩) (week : Int) {tow : ℚ} (nonneg : 0 ≤ tow)
    (below : tow < 604800) :
    signedWeekTime epoch week tow = ⟨t0 + wrapInt (604800 * week + ⌊tow⌋), tow - ⌊tow⌋⟩ := by
  rw [signedWeekTime, start]
  dsimp only
  rw [admitTow_ofWeek nonneg below, truncate_eq_floor nonneg, wrapInt_wrapInt_add]
  rfl

theorem signedTimeWeek_ofWeek {epoch : CalendarTime} {t0 : Int}
    (start : epoch2time epoch = ⟨t0, 0⟩) {week : Nat} {second : Int} (sec : ℚ)
    (nonneg : 0 ≤ second) (below : second < 604800) (small : 604800 * week + second < 2 ^ 31) :
    signedTimeWeek epoch ⟨t0 + (604800 * week + second), sec⟩ = (second + sec, (week : Int)) := by
  have quotient : (604800 * week + second : Int).tdiv 604800 = week := by
    rw [Int.tdiv_eq_ediv_of_nonneg (by omega)]
    omega
  rw [signedTimeWeek, start]
  dsimp only
  rw [add_sub_cancel_left, show (86400 * 7 : Int) = 604800 from rfl, quotient,
    wrapInt_of_lt (x := week) (by omega) (by omega)]
  rw [wrapInt_of_lt (x := (week : Int) * 86400) (by omega) (by omega),
    wrapInt_of_lt (by omega) (by omega), Prod.mk.injEq]
  refine ⟨?_, rfl⟩
  rw [show (604800 * week + second - week * 86400 * 7 : Int) = second by ring]

theorem signedWeek_exact_iff {epoch : CalendarTime} {t0 : Int}
    (start : epoch2time epoch = ⟨t0, 0⟩) {week : Nat} (bits : week < 2 ^ 13) {tow : ℚ}
    (nonneg : 0 ≤ tow) (below : tow < 604800) :
    ExactWeek (signedWeekTime epoch week tow) (epoch2time epoch)
        (signedTimeWeek epoch (signedWeekTime epoch week tow)) week tow ↔
      604800 * week + ⌊tow⌋ < 2 ^ 31 := by
  obtain ⟨towNonneg, towBelow⟩ := floor_bounds nonneg below
  have wraps := wrapInt_eq_self_iff (x := 604800 * week + ⌊tow⌋) (by omega) (by omega)
  rw [signedWeekTime_ofWeek start week nonneg below, ← wraps]
  constructor
  · intro exact
    have elapsed := exact.elapsed
    rwa [start, timeDiff_eq_iff] at elapsed
  · intro fits
    have small := wraps.mp fits
    rw [fits]
    refine ⟨normal_floor _ tow, ?_, ?_⟩
    · rw [start, timeDiff_eq_iff]
    · rw [signedTimeWeek_ofWeek start _ towNonneg towBelow small, add_sub_cancel]

/-! ## GPS weeks -/

theorem gpst2time_ofWeek {week : Nat} {tow : ℚ} (nonneg : 0 ≤ tow) (below : tow < 604800) :
    gpst2time (UInt32.ofNat week) tow =
      ⟨315964800 + (604800 * week + ⌊tow⌋) % 2 ^ 32, tow - ⌊tow⌋⟩ := by
  rw [gpst2time, epoch2time_gpst0]
  dsimp only
  rw [admitTow_ofWeek nonneg below, truncate_eq_floor nonneg, GTime.mk.injEq]
  refine ⟨?_, rfl⟩
  have offset := ofInt_toNat ⌊tow⌋
  rw [UInt32.toNat_add, UInt32.toNat_mul, UInt32.toNat_ofNat',
    show (86400 * 7 : UInt32).toNat = 604800 from rfl]
  push_cast
  rw [offset]
  omega

def time2gpstWeek (t : GTime) : ℚ × Int := ((time2gpst t).1, (time2gpst t).2.toNat)

theorem gpsWeek_exact_iff {week : Nat} (bits : week < 2 ^ 16) {tow : ℚ} (nonneg : 0 ≤ tow)
    (below : tow < 604800) :
    ExactWeek (gpst2time (UInt32.ofNat week) tow) (epoch2time gpst0)
        (time2gpstWeek (gpst2time (UInt32.ofNat week) tow)) week tow ↔
      604800 * week + ⌊tow⌋ < 2 ^ 32 := by
  obtain ⟨towNonneg, towBelow⟩ := floor_bounds nonneg below
  rw [gpst2time_ofWeek nonneg below]
  constructor
  · intro exact
    have elapsed := exact.elapsed
    rw [epoch2time_gpst0, timeDiff_eq_iff] at elapsed
    omega
  · intro fits
    rw [Int.emod_eq_of_lt (by omega) fits]
    refine ⟨normal_floor _ tow, ?_, ?_⟩
    · rw [epoch2time_gpst0, timeDiff_eq_iff]
    · have fraction : (⌊tow⌋ : ℚ) + (tow - ⌊tow⌋) = tow := add_sub_cancel _ _
      obtain ⟨q, whole⟩ := Int.eq_ofNat_of_zero_le towNonneg
      rw [whole, Int.cast_natCast] at fraction
      rw [whole] at fits towBelow ⊢
      rw [time2gpstWeek, show (604800 * week + q : Int) = (604800 * week + q : Nat) by push_cast; rfl,
        time2gpst_nat (by omega), Nat.mul_add_mod, Nat.mod_eq_of_lt (by omega),
        Nat.mul_add_div (by decide), Nat.div_eq_of_lt (by omega), add_zero, UInt32.toNat_ofNat',
        Nat.mod_eq_of_lt (by omega), Int.cast_natCast, fraction]

/-- The conversions are exact exactly where `86400 * 7 * week + (int)tow` fits into its type, an
unsigned one for GPS weeks and an `int` for Galileo and BeiDou weeks. -/
theorem week_exact_iff {week : Nat} {tow : ℚ} (nonneg : 0 ≤ tow) (below : tow < 604800) :
    (week < 2 ^ 16 → (ExactWeek (gpst2time (UInt32.ofNat week) tow) (epoch2time gpst0)
      (time2gpstWeek (gpst2time (UInt32.ofNat week) tow)) week tow ↔
        604800 * week + ⌊tow⌋ < 2 ^ 32)) ∧
    (week < 2 ^ 12 → (ExactWeek (gst2time week tow) (epoch2time gst0)
      (time2gst (gst2time week tow)) week tow ↔ 604800 * week + ⌊tow⌋ < 2 ^ 31)) ∧
    (week < 2 ^ 13 → (ExactWeek (bdt2time week tow) (epoch2time bdt0)
      (time2bdt (bdt2time week tow)) week tow ↔ 604800 * week + ⌊tow⌋ < 2 ^ 31)) :=
  ⟨fun bits => gpsWeek_exact_iff bits nonneg below,
    fun bits => signedWeek_exact_iff epoch2time_gst0 (bits.trans (by decide)) nonneg below,
    fun bits => signedWeek_exact_iff epoch2time_bdt0 bits nonneg below⟩

theorem week_exact_iff_leap :
    ExactWeek (bdt2time (1042 : Nat) (86399 + 1 / 2)) (epoch2time bdt0)
      (time2bdt (bdt2time (1042 : Nat) (86399 + 1 / 2))) 1042 (86399 + 1 / 2) ↔
        604800 * (1042 : Nat) + ⌊(86399 + 1 / 2 : ℚ)⌋ < 2 ^ 31 :=
  (week_exact_iff (by norm_num) (by norm_num)).2.2 (by decide)

/-- BeiDou week 3551 begins before 1970. -/
theorem bdt2time_wraps : ¬ ∀ week < 2 ^ 13, ∀ tow : ℚ, 0 ≤ tow → tow < 604800 →
    ExactWeek (bdt2time (week : Nat) tow) (epoch2time bdt0) (time2bdt (bdt2time week tow)) week
      tow := by
  intro claimed
  have elapsed := (claimed 3551 (by decide) 0 (by norm_num) (by norm_num)).elapsed
  revert elapsed
  decide +kernel

end GnssParser
