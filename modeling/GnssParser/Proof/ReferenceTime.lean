import GnssParser.Proof.D2Completeness
import GnssParser.Proof.GalileoFrames
import GnssParser.Proof.GpsFrames

/-!
# Reference times

A set sends its reference time as a time of week. The decoders choose the week in which it is nearest
to the transmission time; D2 chooses the wrong one near the end of a week.
-/

namespace GnssParser
open Checked BitView

/-! ## Encoded times -/

/-- The times a set sends, in whole seconds, and the start of week 0. -/
structure EncodedTimes where
  epoch : Nat
  week : Nat
  tow : Nat
  toe : Nat

namespace EncodedTimes

def sent (t : EncodedTimes) : Int := 604800 * t.week + t.tow

/-- The week in which the reference time is nearest to the transmission time. -/
def toeWeek (t : EncodedTimes) : Int :=
  if t.toe > t.tow + 302400 then t.week - 1
  else if t.toe + 302400 < t.tow then t.week + 1
  else t.week

def Fits (t : EncodedTimes) : Prop := t.sent < 2 ^ 31 ∧ 604800 * t.toeWeek + t.toe < 2 ^ 31

end EncodedTimes

/-- The times of an ephemeris are those sent, with the reference time nearest to the transmission
time. -/
structure NearestReference (t : EncodedTimes) (e : Ephem) : Prop where
  ttr : e.ttr = ⟨t.epoch + t.sent, 0⟩
  near : |timeDiff e.toe e.ttr| ≤ 302400
  congruent : ∃ week : Int, e.toe = ⟨t.epoch + (604800 * week + t.toe), 0⟩
  toeTow : 0 ≤ e.toeTow ∧ e.toeTow < 604800
  week : 315964800 + 604800 * (e.week.toNat : ℚ) + e.toeTow = e.toe.time + e.toe.sec

theorem timeDiff_whole (a b : Int) : timeDiff ⟨a, 0⟩ ⟨b, 0⟩ = ((a - b : Int) : ℚ) := by
  rw [timeDiff, add_zero, sub_zero]

theorem near_iff (a b : Int) :
    |timeDiff ⟨a, 0⟩ ⟨b, 0⟩| ≤ 302400 ↔ |a - b| ≤ 302400 := by
  rw [timeDiff_whole]
  norm_cast

section
variable {t : EncodedTimes} {e : Ephem} {week : Int}

theorem nearestReference_of (ttr : e.ttr = ⟨t.epoch + t.sent, 0⟩)
    (toe : e.toe = ⟨t.epoch + (604800 * week + t.toe), 0⟩)
    (near : |604800 * week + t.toe - t.sent| ≤ 302400)
    (gpst : (e.toeTow, e.week) = time2gpst e.toe) (after : 315964800 ≤ t.epoch + (604800 * week + t.toe))
    (before : t.epoch + (604800 * week + t.toe) < 4611254400) : NearestReference t e := by
  obtain ⟨n, count⟩ : ∃ n : Nat, t.epoch + (604800 * week + t.toe) = 315964800 + n :=
    ⟨(t.epoch + (604800 * week + t.toe) - 315964800).toNat, by omega⟩
  have split : (e.toeTow, e.week) = (((n % 604800 : Nat) : ℚ), UInt32.ofNat (n / 604800)) := by
    rw [gpst, toe, count, time2gpst_nat (by omega), add_zero]
  obtain ⟨tow, number⟩ := Prod.mk.inj split
  refine ⟨ttr, ?_, ⟨week, toe⟩, ?_, ?_⟩
  · rw [ttr, toe, near_iff]
    rwa [add_sub_add_left_eq_sub]
  · rw [tow]
    have small : n % 604800 < 604800 := Nat.mod_lt _ (by omega)
    exact ⟨by positivity, by exact_mod_cast small⟩
  · have whole : (604800 : ℚ) * (n / 604800 : Nat) + (n % 604800 : Nat) = n := by
      exact_mod_cast Nat.div_add_mod n 604800
    rw [tow, number, toe, count, UInt32.toNat_ofNat', Nat.mod_eq_of_lt (by omega), add_assoc, whole]
    push_cast
    ring

theorem wrapInt_high {x : Int} (lower : 2 ^ 31 ≤ x) (upper : x < 2 ^ 32 + 2 ^ 31) :
    wrapInt x = x - 2 ^ 32 := by
  rw [wrapInt, Int.bmod_def]
  split <;> omega

theorem wrapped_iff (epoch : 935280000 ≤ t.epoch ∧ t.epoch ≤ 1136073614) (weekBits : t.week < 2 ^ 13)
    (tow : t.tow < 604800) (toe : t.toe < 604800) (beside : |week - t.week| ≤ 1)
    (sent : e.ttr = ⟨t.epoch + wrapInt t.sent, 0⟩)
    (reference : e.toe = ⟨t.epoch + wrapInt (604800 * week + t.toe), 0⟩)
    (gpst : (e.toeTow, e.week) = time2gpst e.toe) :
    NearestReference t e ↔ t.sent < 2 ^ 31 ∧ 604800 * week + t.toe < 2 ^ 31 ∧
      |604800 * week + t.toe - t.sent| ≤ 302400 := by
  have value : t.sent = 604800 * t.week + t.tow := rfl
  rw [abs_le] at beside
  constructor
  · intro nearest
    have start := congrArg GTime.time (sent.symm.trans nearest.ttr)
    have near := nearest.near
    rw [sent, reference, near_iff, abs_le] at near
    have fits : t.sent < 2 ^ 31 := by
      by_contra high
      rw [wrapInt_high (by omega) (by omega)] at start
      dsimp only at start
      omega
    rw [wrapInt_of_lt (by omega) fits] at near
    have whole : 604800 * week + t.toe < 2 ^ 31 := by
      by_contra high
      rw [wrapInt_high (by omega) (by omega)] at near
      omega
    rw [wrapInt_of_lt (by omega) whole] at near
    rw [abs_le]
    exact ⟨fits, whole, by omega, by omega⟩
  · rintro ⟨fits, whole, near⟩
    rw [wrapInt_of_lt (by omega) fits] at sent
    rw [wrapInt_of_lt (by omega) whole] at reference
    exact nearestReference_of sent reference near gpst (by omega) (by omega)

end

/-! ## The decoders -/

inductive EphemDecoder where
  | gps
  | bdsD1
  | bdsD2
  | gal

namespace EphemDecoder

def decode (d : EphemDecoder) (st : Processor) (ephem : Ephem) (ionoParams : List ℚ) :
    Checked Ephem :=
  match d with
  | gps => do
      let (_, _, e) ← decodeGpsEphem st ephem
      pure e
  | bdsD1 => do
      let (_, _, e, _) ← decodeBdsD1Ephem st ephem ionoParams
      pure e
  | bdsD2 => do
      let (_, _, e) ← decodeBdsD2Ephem st ephem
      pure e
  | gal => do
      let (_, _, e) ← decodeGalEphem st ephem
      pure e

def Passes (d : EphemDecoder) (sat : Nat) (row : Row) : Prop :=
  match d with
  | gps => GpsConsistent row
  | bdsD1 => D1Consistent row
  | bdsD2 => D2Consistent row
  | gal => GalConsistent sat row

def encoded (d : EphemDecoder) (row : Row) : EncodedTimes :=
  match d with
  | gps => ⟨315964800, gpsField row 0 48 10 + 2048, gpsField row 0 24 17 * 6,
      gpsField row 1 216 16 * 16⟩
  | bdsD1 => ⟨1136073614, bdsField row 0 60 13, bdsSow row 0, d1Toe row * 8⟩
  | bdsD2 => ⟨1136073614, bdsField row 0 64 13, bdsSow row 0, d2Toe row * 8⟩
  | gal => ⟨935280000, galField row 0 96 12, galField row 0 108 20, galField row 1 16 14 * 60⟩

/-- The times for which the decoder finds the nearest reference time. -/
def FindsNearest (d : EphemDecoder) (t : EncodedTimes) : Prop :=
  match d with
  | gps => True
  | bdsD1 => t.Fits
  | bdsD2 => t.Fits ∧ t.toe ≤ t.tow + 302400 ∧ t.tow ≤ t.toe + 302400
  | gal => t.Fits ∧ 604800 * t.week + t.toe < 2 ^ 31

end EphemDecoder

/-! ## GPS -/

theorem gpst2time_whole {week : Nat} {n : Int} (lower : -1000000000 ≤ n) (upper : n ≤ 1000000000)
    (after : 0 ≤ 604800 * week + n) (before : 604800 * week + n < 2 ^ 32) :
    gpst2time (UInt32.ofNat week) n = ⟨315964800 + (604800 * week + n), 0⟩ := by
  have lower' : (-1000000000 : ℚ) ≤ n := by exact_mod_cast lower
  have upper' : (n : ℚ) ≤ 1000000000 := by exact_mod_cast upper
  rw [gpst2time_of_truncate (truncate_intCast n) lower' upper' after before, sub_self]

theorem nearestReference_gps {week tow toe k : Nat} {n : Int} (weekBits : k < 2 ^ 12)
    (small : toe < 604800) (range : -604800 ≤ n ∧ n ≤ 1209600)
    (sum : 604800 * (k : Int) + n = 604800 * week + tow)
    (near : |(604800 * k + toe : Int) - (604800 * week + tow)| ≤ 302400) {e : Ephem}
    (weekNumber : e.week = UInt32.ofNat k) (toeTow : e.toeTow = (toe : ℚ))
    (ttr : e.ttr = gpst2time (UInt32.ofNat k) (n : ℚ))
    (reference : e.toe = gpst2time (UInt32.ofNat k) (toe : ℚ)) :
    NearestReference ⟨315964800, week, tow, toe⟩ e := by
  have sent : e.ttr = ⟨315964800 + (604800 * week + tow), 0⟩ := by
    rw [ttr, gpst2time_whole (by omega) (by omega) (by omega) (by omega), sum]
  have whole : e.toe = ⟨315964800 + (604800 * k + toe), 0⟩ := by
    rw [reference, ← Int.cast_natCast toe,
      gpst2time_whole (by omega) (by omega) (by omega) (by omega)]
  have gpst : (e.toeTow, e.week) = time2gpst e.toe := by
    have count : (315964800 + (604800 * k + toe) : Int) = 315964800 + (604800 * k + toe : Nat) := by
      push_cast
      ring
    rw [toeTow, weekNumber, whole, count, time2gpst_nat (by omega), add_zero,
      show (604800 * k + toe) % 604800 = toe by omega, show (604800 * k + toe) / 604800 = k by omega]
  refine nearestReference_of sent whole near gpst ?_ ?_
  · change (315964800 : Int) ≤ (315964800 : Nat) + (604800 * k + toe)
    omega
  · change ((315964800 : Nat) : Int) + (604800 * k + toe) < 4611254400
    omega

theorem gpsHandover_nearest {week tow toe : Nat} (weekBits : 1 ≤ week ∧ week < 4000)
    (small : tow < 604800) (small' : toe < 604800) {e : Ephem}
    (ttr : e.ttr = gpst2time (UInt32.ofNat week) (tow : ℚ)) (toeTow : e.toeTow = (toe : ℚ)) :
    NearestReference ⟨315964800, week, tow, toe⟩ (gpsHandover e) := by
  have split : time2gpst e.ttr = ((tow : ℚ), UInt32.ofNat week) := by
    have count : (315964800 + (604800 * week + tow) : Int) =
        315964800 + (604800 * week + tow : Nat) := by
      push_cast
      ring
    rw [ttr, ← Int.cast_natCast tow, gpst2time_whole (by omega) (by omega) (by omega) (by omega),
      count, time2gpst_nat (by omega), add_zero, show (604800 * week + tow) % 604800 = tow by omega,
      show (604800 * week + tow) / 604800 = week by omega, Int.cast_natCast]
  have after : e.toeTow < (tow : ℚ) - 302400 ↔ toe + 302400 < tow := by
    rw [toeTow, lt_sub_iff_add_lt]
    norm_cast
  have before : e.toeTow > (tow : ℚ) + 302400 ↔ toe > tow + 302400 := by
    rw [toeTow]
    norm_cast
  rw [gpsHandover, split]
  dsimp only
  simp only [after, before]
  have next : UInt32.ofNat week + 1 = UInt32.ofNat (week + 1) := (UInt32.ofNat_add week 1).symm
  have previous : UInt32.ofNat week - 1 = UInt32.ofNat (week - 1) := by
    rw [← UInt32.toNat_inj, UInt32.toNat_sub, UInt32.toNat_ofNat', UInt32.toNat_ofNat',
      show (1 : UInt32).toNat = 1 from rfl]
    omega
  by_cases late : toe + 302400 < tow
  · simp only [if_pos late, next]
    exact nearestReference_gps (k := week + 1) (n := tow - 604800) (by omega) small' (by omega)
      (by omega) (by rw [abs_le]; omega) rfl toeTow (by push_cast; rfl)
      (congrArg (gpst2time _) toeTow)
  by_cases early : toe > tow + 302400
  · simp only [if_neg late, if_pos early, previous]
    exact nearestReference_gps (k := week - 1) (n := tow + 604800) (by omega) small' (by omega)
      (by omega) (by rw [abs_le]; omega) rfl toeTow (by push_cast; rfl)
      (congrArg (gpst2time _) toeTow)
  · simp only [if_neg late, if_neg early]
    exact nearestReference_gps (k := week) (n := tow) (by omega) small' (by omega) (by omega)
      (by rw [abs_le]; omega) rfl toeTow (by push_cast; rfl) (congrArg (gpst2time _) toeTow)

/-! ## BeiDou -/

theorem toInt32_week {week : Nat} (bits : week < 2 ^ 13) :
    (UInt32.ofNat week).toInt32.toInt = week ∧ (UInt32.ofNat week + 1).toInt32.toInt = week + 1 ∧
      (UInt32.ofNat week - 1).toInt32.toInt = week - 1 := by
  refine ⟨toInt32_toInt_ofNat (by omega), ?_, ?_⟩
  · rw [toInt32_toInt, UInt32.toNat_add, UInt32.toNat_ofNat', show (1 : UInt32).toNat = 1 from rfl,
      Int.bmod_def]
    split <;> omega
  · rw [toInt32_toInt, UInt32.toNat_sub, UInt32.toNat_ofNat', show (1 : UInt32).toNat = 1 from rfl,
      Int.bmod_def]
    split <;> omega

section
variable {week sow toe : Nat} (weekBits : week < 2 ^ 13) (sowBits : sow < 604800)
  (toeBits : toe < 604800) {e : Ephem} {toeWeek : UInt32}
  (ttr : e.ttr = (bdsTimes { sat := 0 } (UInt32.ofNat week) toeWeek (UInt32.ofNat sow)
    (UInt32.ofNat toe) 0).ttr)
  (reference : e.toe = (bdsTimes { sat := 0 } (UInt32.ofNat week) toeWeek (UInt32.ofNat sow)
    (UInt32.ofNat toe) 0).toe)
  (gpst : (e.toeTow, e.week) = time2gpst e.toe)
include weekBits sowBits toeBits ttr reference gpst

theorem bdsTimes_iff {k : Int} (number : toeWeek.toInt32.toInt = k) (beside : |k - week| ≤ 1) :
    NearestReference ⟨1136073614, week, sow, toe⟩ e ↔
      (604800 * week + sow : Int) < 2 ^ 31 ∧ 604800 * k + toe < 2 ^ 31 ∧
        |604800 * k + toe - (604800 * week + sow : Int)| ≤ 302400 := by
  have sent : e.ttr = ⟨1136073614 + wrapInt (604800 * week + sow), 0⟩ := by
    rw [ttr]
    exact bdsTimes_ttr { sat := 0 } weekBits (by omega) toeWeek (UInt32.ofNat toe) 0
  have whole : e.toe = ⟨1136073614 + wrapInt (604800 * k + toe), 0⟩ := by
    have time : timeAdd (bdt2time toeWeek.toInt32.toInt (doubleOfUInt (UInt32.ofNat toe))) 14 =
        ⟨1136073614 + wrapInt (604800 * k + toe), 0⟩ := by
      rw [number, doubleOfUInt_ofNat (by omega), bdt2time_nat _ (by omega),
        show (14 : ℚ) = ((14 : Nat) : ℚ) by norm_num, timeAdd_whole, GTime.mk.injEq]
      exact ⟨by push_cast; ring, rfl⟩
    exact reference.trans time
  exact wrapped_iff (t := ⟨1136073614, week, sow, toe⟩) (by dsimp only; omega) weekBits sowBits
    toeBits beside sent whole gpst

end

section
variable {sow toe : Nat} (sowBits : sow < 604800) (toeBits : toe < 604800)
include sowBits toeBits

theorem toeLate_iff :
    doubleOfUInt (UInt32.ofNat toe) > doubleOfUInt (UInt32.ofNat sow) + 302400 ↔
      toe > sow + 302400 := by
  rw [doubleOfUInt_ofNat (by omega), doubleOfUInt_ofNat (by omega)]
  norm_cast

theorem toeEarly_iff :
    doubleOfUInt (UInt32.ofNat toe) < doubleOfUInt (UInt32.ofNat sow) - 302400 ↔
      toe + 302400 < sow := by
  rw [doubleOfUInt_ofNat (by omega), doubleOfUInt_ofNat (by omega), lt_sub_iff_add_lt]
  norm_cast

end

section
variable {row : Row} {e : Ephem} (gpst : (e.toeTow, e.week) = time2gpst e.toe)
include gpst

theorem d1_nearest_iff (times : e.times = d1SetTimes row) (sow : bdsSow row 0 < 604800)
    (toe : d1Toe row * 8 < 604800) :
    NearestReference (EphemDecoder.bdsD1.encoded row) e ↔
      (EphemDecoder.bdsD1.encoded row).Fits := by
  have weekBits := bdsField_lt row 0 60 13
  obtain ⟨same, next, previous⟩ := toInt32_week weekBits
  have number : (d1ToeWeek (d1LocalsOf row)).toInt32.toInt =
      if d1Toe row * 8 > bdsSow row 0 + 302400 then (bdsField row 0 60 13 : Int) - 1
      else if d1Toe row * 8 + 302400 < bdsSow row 0 then (bdsField row 0 60 13 : Int) + 1
      else bdsField row 0 60 13 := by
    rw [d1ToeWeek]
    simp only [d1LocalsOf, toeLate_iff sow toe, toeEarly_iff sow toe]
    split_ifs
    · exact previous
    · exact next
    · exact same
  have right := bdsTimes_iff weekBits sow toe (congrArg SetTimes.ttr times)
    (congrArg SetTimes.toe times) gpst number (by rw [abs_le]; split_ifs <;> omega)
  refine right.trans ?_
  simp only [EncodedTimes.Fits, EncodedTimes.toeWeek, EncodedTimes.sent, EphemDecoder.encoded,
    abs_le]
  split_ifs <;> omega

/-- The week of D2 is moved away from the transmission time. -/
theorem d2_nearest_iff (times : e.times = d2SetTimes row) (sow : bdsSow row 0 < 604800)
    (toe : d2Toe row * 8 < 604800) :
    NearestReference (EphemDecoder.bdsD2.encoded row) e ↔
      EphemDecoder.bdsD2.FindsNearest (EphemDecoder.bdsD2.encoded row) := by
  have weekBits := bdsField_lt row 0 64 13
  obtain ⟨same, next, previous⟩ := toInt32_week weekBits
  have number : (d2ToeWeek (d2LocalsOf row)).toInt32.toInt =
      if d2Toe row * 8 > bdsSow row 0 + 302400 then (bdsField row 0 64 13 : Int) + 1
      else if d2Toe row * 8 + 302400 < bdsSow row 0 then (bdsField row 0 64 13 : Int) - 1
      else bdsField row 0 64 13 := by
    rw [d2ToeWeek]
    simp only [d2LocalsOf, toeLate_iff sow toe, toeEarly_iff sow toe]
    split_ifs
    · exact next
    · exact previous
    · exact same
  have right := bdsTimes_iff weekBits sow toe (congrArg SetTimes.ttr times)
    (congrArg SetTimes.toe times) gpst number (by rw [abs_le]; split_ifs <;> omega)
  refine right.trans ?_
  simp only [EphemDecoder.FindsNearest, EncodedTimes.Fits, EncodedTimes.toeWeek, EncodedTimes.sent,
    EphemDecoder.encoded, abs_le]
  split_ifs <;> omega

end

/-! ## Galileo -/

theorem galTimes_iff {week tow toe : Nat} (weekBits : week < 2 ^ 12) (towBits : tow < 604800)
    (toeBits : toe < 604800) {e : Ephem} (gpst : (e.toeTow, e.week) = time2gpst e.toe)
    (ttr : e.ttr = gst2time week tow) {k : Int}
    (chosen : k = if timeDiff (gst2time week toe) (gst2time week tow) > 302400 then (week : Int) - 1
      else if timeDiff (gst2time week toe) (gst2time week tow) < -302400 then (week : Int) + 1
      else week)
    (reference : e.toe = gst2time k toe) :
    NearestReference ⟨935280000, week, tow, toe⟩ e ↔
      EphemDecoder.gal.FindsNearest ⟨935280000, week, tow, toe⟩ := by
  rw [gst2time_nat _ (by omega)] at ttr reference
  rw [gst2time_nat _ (by omega), gst2time_nat _ (by omega), timeDiff_whole, add_sub_add_left_eq_sub]
    at chosen
  have beside : |k - week| ≤ 1 := by
    rw [chosen, abs_le]
    split_ifs <;> omega
  have right := wrapped_iff (t := ⟨935280000, week, tow, toe⟩) (by dsimp only; omega)
    (show week < 2 ^ 13 by omega) towBits toeBits beside ttr reference gpst
  have late : (((wrapInt (604800 * week + toe) - wrapInt (604800 * week + tow) : Int) : ℚ) > 302400) ↔
      wrapInt (604800 * week + toe) - wrapInt (604800 * week + tow) > 302400 := by norm_cast
  have early : (((wrapInt (604800 * week + toe) - wrapInt (604800 * week + tow) : Int) : ℚ) < -302400) ↔
      wrapInt (604800 * week + toe) - wrapInt (604800 * week + tow) < -302400 := by norm_cast
  simp only [late, early] at chosen
  refine right.trans ?_
  simp only [EphemDecoder.FindsNearest, EncodedTimes.Fits, EncodedTimes.toeWeek, EncodedTimes.sent,
    abs_le]
  by_cases sent : (604800 * week + tow : Int) < 2 ^ 31
  · rw [wrapInt_of_lt (x := 604800 * week + tow) (by omega) sent] at chosen
    by_cases whole : (604800 * week + toe : Int) < 2 ^ 31
    · rw [wrapInt_of_lt (by omega) whole] at chosen
      split_ifs at chosen ⊢ <;> omega
    · rw [wrapInt_high (by omega) (by omega), if_neg (by omega), if_pos (by omega)] at chosen
      omega
  · omega

theorem gal_nearest_iff (row : Row) (ephem : Ephem) (tow : galField row 0 108 20 < 604800)
    (toe : galField row 1 16 14 * 60 < 604800) :
    NearestReference (EphemDecoder.gal.encoded row) (galSet (bufferBit row) ephem) ↔
      EphemDecoder.gal.FindsNearest (EphemDecoder.gal.encoded row) := by
  have toes : (galLocalsAt (bufferBit row)).toes = ((galField row 1 16 14 * 60 : Nat) : ℚ) := by
    rw [galLocalsAt, galField]
    push_cast
    rfl
  have week : ((galLocalsAt (bufferBit row)).week.toNat : Int) = galField row 0 96 12 :=
    congrArg Nat.cast (bitsU_toNat (bufferBit row) 96 (show 12 ≤ 32 by omega))
  have reference : (galSet (bufferBit row) ephem).toe = gst2time
      (if timeDiff (gst2time (galLocalsAt (bufferBit row)).week.toNat
          (galLocalsAt (bufferBit row)).toes) (galSet (bufferBit row) ephem).ttr > 302400 then
        ((galLocalsAt (bufferBit row)).week.toNat : Int) - 1
      else if timeDiff (gst2time (galLocalsAt (bufferBit row)).week.toNat
          (galLocalsAt (bufferBit row)).toes) (galSet (bufferBit row) ephem).ttr < -302400 then
        ((galLocalsAt (bufferBit row)).week.toNat : Int) + 1
      else (galLocalsAt (bufferBit row)).week.toNat) (galLocalsAt (bufferBit row)).toes := rfl
  rw [week, toes, galSet_ttr] at reference
  exact galTimes_iff (field_lt _ _ _) tow toe rfl (galSet_ttr _ _) rfl reference

/-! ## All decoders -/

theorem gps_nearest (row : Row) (ephem : Ephem) (tow : gpsField row 0 24 17 * 6 < 604800)
    (toe : gpsField row 1 216 16 * 16 < 604800) :
    NearestReference (EphemDecoder.gps.encoded row) (gpsSet (gpsBits row) ephem) := by
  have weekBits : gpsField row 0 48 10 < 2 ^ 10 := field_lt _ _ _
  refine gpsHandover_nearest (by omega) tow toe ?_ ?_
  · change gpst2time (UInt32.ofNat (field (gpsBits row 0) 48 10) + 1024 * gpsWeekRolloverN)
      ((field (gpsBits row 0) 24 17 : ℚ) * 6) = _
    rw [field_gps, field_gps, UInt32.ofNat_add, Nat.cast_mul]
    rfl
  · change (field (gpsBits row 1) 216 16 : ℚ) * 16 = _
    rw [field_gps, Nat.cast_mul]
    rfl

section
variable {st : Processor} {ephem : Ephem} {row : Row} {flags : UInt8}
  (valid : ValidSat ephem.sat) (holds : st.Holds ephem.sat row flags) (ionoParams : List ℚ)
include valid holds

theorem d1_reference (passed : D1Consistent row) (tow : bdsSow row 0 < 604800)
    (toe : d1Toe row * 8 < 604800) :
    ∃ e, EphemDecoder.bdsD1.decode st ephem ionoParams = .ok e ∧
      (NearestReference (EphemDecoder.bdsD1.encoded row) e ↔
        (EphemDecoder.bdsD1.encoded row).Fits) := by
  obtain ⟨rc, e, iono, time, _, outcome, _, _, gpst, ran⟩ := decodeBdsD1Ephem_ok valid row ionoParams
  refine ⟨e, by rw [EphemDecoder.decode, ran st row flags (.refl row) holds]; rfl, ?_⟩
  cases outcome with
  | rejected failed => exact absurd passed failed
  | leaked failed => exact absurd passed failed
  | decoded _ _ times => exact d1_nearest_iff (gpst passed) times tow toe

theorem d2_reference (passed : D2Consistent row) (tow : bdsSow row 0 < 604800)
    (toe : d2Toe row * 8 < 604800) :
    ∃ e, EphemDecoder.bdsD2.decode st ephem ionoParams = .ok e ∧
      (NearestReference (EphemDecoder.bdsD2.encoded row) e ↔
        EphemDecoder.bdsD2.FindsNearest (EphemDecoder.bdsD2.encoded row)) := by
  obtain ⟨rc, e, time, _, outcome, _, _, gpst, ran⟩ := decodeBdsD2Ephem_ok valid row
  refine ⟨e, by rw [EphemDecoder.decode, ran st flags holds]; rfl, ?_⟩
  cases outcome with
  | rejected failed => exact absurd passed failed
  | leaked failed => exact absurd passed failed
  | decoded _ _ times => exact d2_nearest_iff (gpst passed) times tow toe

end

theorem reference_time_iff (d : EphemDecoder) (st : Processor) (ephem : Ephem) (row : Row)
    (ionoParams : List ℚ) (valid : ValidSat ephem.sat) (buffered : st.row ephem.sat = .ok row)
    (passed : d.Passes ephem.sat row) (tow : (d.encoded row).tow < 604800)
    (toe : (d.encoded row).toe < 604800) :
    ∃ e, d.decode st ephem ionoParams = .ok e ∧
      (NearestReference (d.encoded row) e ↔ d.FindsNearest (d.encoded row)) := by
  obtain ⟨row', flags, holds⟩ := st.holds_exists valid
  obtain rfl : row' = row := Except.ok.inj (holds.row.symm.trans buffered)
  cases d with
  | gps =>
      obtain ⟨rc, e, time, _, _, _, set, ran⟩ := decodeGpsEphem_ok valid row'
      refine ⟨e, by rw [EphemDecoder.decode, ran st flags holds]; rfl, ?_⟩
      rw [set passed]
      exact iff_of_true (gps_nearest row' ephem tow toe) trivial
  | bdsD1 => exact d1_reference valid holds ionoParams passed tow toe
  | bdsD2 => exact d2_reference valid holds ionoParams passed tow toe
  | gal =>
      obtain ⟨rc, e, row'', time, _, _, set, ran⟩ := decodeGalEphem_ok valid row'
      refine ⟨e, by rw [EphemDecoder.decode, ran st flags holds]; rfl, ?_⟩
      rw [(set passed).2.1]
      exact gal_nearest_iff row' ephem tow toe

/-! ## A D2 set early in the week -/

def geoEphem : Ephem := { sat := satNo sysBds 1 }

theorem geoEphem_valid : ValidSat geoEphem.sat :=
  validSat_satNo (show satNo sysBds 1 ≠ 0 by decide)

theorem d2Set_buffered (sample : D2Sample) :
    ∃ row, HoldsD2 (d2Set sample) 11 row ∧ D2Consistent row ∧
      (Processor.init.update geoEphem.sat row 0 none).Holds geoEphem.sat row 0 := by
  have scenario := d2Scenario_init sample
  obtain ⟨_, _, _, row, _, full, _⟩ := scenario.decoded
  exact ⟨row, full, scenario.consistent full,
    Processor.init.holds_update geoEphem_valid row 0 none⟩

theorem d2Set_times {sample : D2Sample} {row : Row} (full : HoldsD2 (d2Set sample) 11 row) :
    bdsSow row 0 = 0 ∧ d2Toe row * 8 = if sample = .toe then 524288 else 0 := by
  rw [full.bdsSow_eq (by omega), d2Toe, full.bdsField_eq (by omega) (by omega),
    full.bdsField_eq (by omega) (by omega)]
  cases sample <;> decide +kernel

theorem reference_time_iff_d2 :
    ∃ row e, EphemDecoder.bdsD2.decode (Processor.init.update geoEphem.sat row 0 none) geoEphem [] =
        .ok e ∧
      (NearestReference (EphemDecoder.bdsD2.encoded row) e ↔
        EphemDecoder.bdsD2.FindsNearest (EphemDecoder.bdsD2.encoded row)) := by
  obtain ⟨row, full, passed, holds⟩ := d2Set_buffered .plain
  obtain ⟨sow, toe⟩ := d2Set_times full
  exact ⟨row, reference_time_iff .bdsD2 _ geoEphem row [] geoEphem_valid holds.row passed
    (sow.trans_lt (by decide)) (toe.trans_lt (by decide))⟩

/-- A set sent more than half a week before the reference time of its week is dated to the week
after instead of the week before. -/
theorem d2_wrong_week :
    ¬ ∀ (d : EphemDecoder) (st : Processor) (ephem : Ephem) (row : Row) (ionoParams : List ℚ),
      ValidSat ephem.sat → st.row ephem.sat = .ok row → d.Passes ephem.sat row →
      (d.encoded row).tow < 604800 → (d.encoded row).toe < 604800 →
      ∃ e, d.decode st ephem ionoParams = .ok e ∧ NearestReference (d.encoded row) e := by
  intro nearest
  obtain ⟨row, full, passed, holds⟩ := d2Set_buffered .toe
  obtain ⟨sow, toe⟩ := d2Set_times full
  have sowBits : bdsSow row 0 < 604800 := by omega
  have toeBits : d2Toe row * 8 < 604800 := toe.trans_lt (by decide)
  obtain ⟨e, ran, right⟩ :=
    nearest .bdsD2 _ geoEphem row [] geoEphem_valid holds.row passed sowBits toeBits
  obtain ⟨e', ran', finds⟩ := d2_reference geoEphem_valid holds [] passed sowBits toeBits
  rw [ran] at ran'
  cases ran'
  have early : d2Toe row * 8 ≤ bdsSow row 0 + 302400 := (finds.mp right).2.1
  rw [toe, sow] at early
  exact absurd early (by decide)

end GnssParser
