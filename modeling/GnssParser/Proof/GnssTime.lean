import GnssParser.Model.Beidou

/-!
# GNSS time

The conversions of weeks and times of week on whole seconds in range.
-/

namespace GnssParser

theorem admitTow_nat {tow : Nat} (small : tow ≤ 1000000000) : admitTow (tow : ℚ) = tow := by
  have upper : (tow : ℚ) ≤ 1000000000 := by exact_mod_cast small
  have lower : (0 : ℚ) ≤ tow := Nat.cast_nonneg _
  rw [admitTow, if_neg (by rw [not_or]; constructor <;> norm_num <;> linarith)]

theorem wrapInt_wrapInt_add (x y : Int) : wrapInt (wrapInt x + y) = wrapInt (x + y) :=
  Int.bmod_add_bmod

theorem wrapInt_of_lt {x : Int} (lower : -2 ^ 31 ≤ x) (upper : x < 2 ^ 31) : wrapInt x = x := by
  rw [wrapInt, Int.bmod_def]
  split <;> omega

theorem signedWeekTime_nat {epoch : CalendarTime} {t0 : Int} (start : epoch2time epoch = ⟨t0, 0⟩)
    (week : Int) {tow : Nat} (small : tow ≤ 1000000000) :
    signedWeekTime epoch week tow = ⟨t0 + wrapInt (604800 * week + tow), 0⟩ := by
  rw [signedWeekTime, start]
  dsimp only
  rw [admitTow_nat small, truncate_natCast, wrapInt_wrapInt_add, Int.cast_natCast, sub_self,
    show (86400 * 7 : Int) = 604800 by norm_num]

theorem bdt2time_nat (week : Int) {tow : Nat} (small : tow ≤ 1000000000) :
    bdt2time week tow = ⟨1136073600 + wrapInt (604800 * week + tow), 0⟩ :=
  signedWeekTime_nat epoch2time_bdt0 week small

theorem gst2time_nat (week : Int) {tow : Nat} (small : tow ≤ 1000000000) :
    gst2time week tow = ⟨935280000 + wrapInt (604800 * week + tow), 0⟩ :=
  signedWeekTime_nat epoch2time_gst0 week small

/-- No week of 12 bits and time of week of 20 bits wraps around to 1970. -/
theorem gst2time_sent {week tow : Nat} (weekBits : week < 2 ^ 12) (towBits : tow < 2 ^ 20) :
    (gst2time week tow).time ≠ 0 := by
  have whole : (604800 * week + tow : Int) % (2 ^ 32 : Nat) = 604800 * week + tow :=
    Int.emod_eq_of_lt (by omega) (by omega)
  rw [gst2time_nat _ (by omega), wrapInt, Int.bmod_def, whole]
  dsimp only
  split <;> omega

@[simp] theorem truncate_intCast (n : Int) : truncate n = n := by simp [truncate]

theorem ofInt_toNat (n : Int) : ((UInt32.ofInt n).toNat : Int) = n % 2 ^ 32 := by
  rw [UInt32.ofInt, UInt32.toNat_ofNat']
  omega

theorem ofInt_natCast (n : Nat) : UInt32.ofInt n = UInt32.ofNat n := by
  have value := ofInt_toNat n
  rw [← UInt32.toNat_inj, UInt32.toNat_ofNat']
  omega

/-- The unsigned sum is exact also where the time of week is negative. -/
theorem gpst2time_of_truncate {week : Nat} {tow : ℚ} {n : Int} (whole : truncate tow = n)
    (lower : -1000000000 ≤ tow) (upper : tow ≤ 1000000000) (after : 0 ≤ 604800 * week + n)
    (before : 604800 * week + n < 2 ^ 32) :
    gpst2time (UInt32.ofNat week) tow = ⟨315964800 + (604800 * week + n), tow - n⟩ := by
  have admitted : admitTow tow = tow := by
    rw [admitTow, if_neg (by rw [not_or]; constructor <;> norm_num <;> linarith)]
  rw [gpst2time, epoch2time_gpst0]
  dsimp only
  rw [admitted, whole, GTime.mk.injEq]
  refine ⟨?_, rfl⟩
  have sum : ((86400 * 7 * UInt32.ofNat week + UInt32.ofInt n).toNat : Int) = 604800 * week + n := by
    have offset := ofInt_toNat n
    rw [UInt32.toNat_add, UInt32.toNat_mul, UInt32.toNat_ofNat',
      show (86400 * 7 : UInt32).toNat = 604800 from rfl]
    push_cast
    rw [offset]
    omega
  rw [sum]

theorem time2gpst_nat {n : Nat} (small : n < 604800 * 7102) (sec : ℚ) :
    time2gpst ⟨315964800 + n, sec⟩ = ((n % 604800 : Nat) + sec, UInt32.ofNat (n / 604800)) := by
  have quotient : (n : Int).tdiv 604800 = (n / 604800 : Nat) := by
    rw [Int.tdiv_eq_ediv_of_nonneg (by omega)]
    rfl
  have weeks : (UInt32.ofNat (n / 604800) * 86400 * 7).toNat = n / 604800 * 604800 := by
    rw [UInt32.mul_assoc, UInt32.toNat_mul, UInt32.toNat_ofNat',
      show (86400 * 7 : UInt32).toNat = 604800 from rfl]
    omega
  rw [time2gpst, epoch2time_gpst0]
  dsimp only
  rw [show 315964800 + (n : Int) - 315964800 = n by ring, show (86400 * 7 : Int) = 604800 from rfl,
    quotient, ofInt_natCast, weeks]
  rw [Prod.mk.injEq]
  refine ⟨?_, rfl⟩
  rw [show (n : Int) - (n / 604800 * 604800 : Nat) = (n % 604800 : Nat) by omega]
  rfl

theorem truncate_eq_floor {x : ℚ} (nonneg : 0 ≤ x) : truncate x = ⌊x⌋ := by
  rw [truncate, Rat.floor_def', Int.tdiv_eq_ediv_of_nonneg (Rat.num_nonneg.mpr nonneg)]

structure GTime.Normal (t : GTime) : Prop where
  nonneg : 0 ≤ t.sec
  below : t.sec < 1

theorem GTime.Normal.truncate_add {t : GTime} (normal : t.Normal) (n : Nat) :
    truncate (n + t.sec) = n := by
  rw [truncate_eq_floor (add_nonneg (Nat.cast_nonneg n) normal.nonneg), Int.floor_natCast_add,
    Int.floor_eq_zero_iff.mpr ⟨normal.nonneg, normal.below⟩, add_zero]

def endOf2099 : Int := 4102444800

structure GTime.InGpsSpan (t : GTime) : Prop extends t.Normal where
  first : (epoch2time gpst0).time ≤ t.time
  last : t.time < endOf2099

theorem GTime.InGpsSpan.eq_week {t : GTime} (span : t.InGpsSpan) :
    ∃ n : Nat, n < 604800 * 6261 ∧ t = ⟨315964800 + n, t.sec⟩ := by
  have first := span.first
  have last := span.last
  rw [epoch2time_gpst0] at first
  rw [endOf2099] at last
  dsimp only at first
  refine ⟨(t.time - 315964800).toNat, by omega, ?_⟩
  rw [Int.toNat_of_nonneg (by omega), add_sub_cancel]

theorem gpst2time_time2gpst {t : GTime} (span : t.InGpsSpan) :
    gpst2time (time2gpst t).2 (time2gpst t).1 = t := by
  obtain ⟨n, small, same⟩ := span.eq_week
  have towBelow : n % 604800 < 604800 := Nat.mod_lt _ (by decide)
  have nonneg := span.nonneg
  have below := span.below
  rw [same, time2gpst_nat (by omega)]
  dsimp only
  have upper : ((n % 604800 : Nat) : ℚ) ≤ 604800 := by exact_mod_cast towBelow.le
  have lower : (0 : ℚ) ≤ (n % 604800 : Nat) := Nat.cast_nonneg _
  rw [gpst2time_of_truncate (span.truncate_add (n % 604800)) (by linarith) (by linarith) (by omega)
    (by omega), GTime.mk.injEq]
  constructor
  · omega
  · rw [Int.cast_natCast, add_sub_cancel_left]

theorem timeAdd_whole (t : Int) (s : Nat) : timeAdd ⟨t, 0⟩ s = ⟨t + s, 0⟩ := by
  rw [timeAdd]
  dsimp only
  rw [zero_add, Int.floor_natCast, Int.cast_natCast, sub_self]

theorem doubleOfUInt_ofNat {n : Nat} (h : n < 2 ^ 32) : doubleOfUInt (UInt32.ofNat n) = n := by
  rw [doubleOfUInt, UInt32.toNat_ofNat', Nat.mod_eq_of_lt h]

theorem toInt32_toInt_ofNat {n : Nat} (h : n < 2 ^ 31) : (UInt32.ofNat n).toInt32.toInt = n := by
  rw [UInt32.toInt32_ofNat', Int32.toInt_ofNat_of_lt h]

theorem bdsTimes_ttr (e : Ephem) {week sow : Nat} (weekBits : week < 2 ^ 13) (sowBits : sow < 2 ^ 20)
    (toeWeek toes : UInt32) (tocBds : ℚ) :
    (bdsTimes e (UInt32.ofNat week) toeWeek (UInt32.ofNat sow) toes tocBds).ttr =
      ⟨1136073614 + wrapInt (604800 * week + sow), 0⟩ := by
  have sent : timeAdd (bdt2time (UInt32.ofNat week).toInt32.toInt (doubleOfUInt (UInt32.ofNat sow)))
      14 = ⟨1136073614 + wrapInt (604800 * week + sow), 0⟩ := by
    rw [toInt32_toInt_ofNat (by omega), doubleOfUInt_ofNat (by omega), bdt2time_nat _ (by omega),
      show (14 : ℚ) = ((14 : Nat) : ℚ) by norm_num, timeAdd_whole]
    rw [GTime.mk.injEq]
    exact ⟨by push_cast; ring, rfl⟩
  exact sent

/-- The only week and time of week that wrap around to 1970. -/
theorem bdsTtr_eq_zero_iff {week sow : Nat} (weekBits : week < 2 ^ 13) (sowBits : sow < 2 ^ 20) :
    1136073614 + wrapInt (604800 * week + sow) = 0 ↔ 604800 * week + sow = 3158893682 := by
  rw [wrapInt, Int.bmod_def]
  constructor
  · intro zero
    split at zero <;> omega
  · intro value
    have value' : (604800 * week + sow : Int) = 3158893682 := by exact_mod_cast value
    rw [value']
    decide

end GnssParser
