import GnssParser.Proof.BeidouSets
import GnssParser.Proof.RinexNav

/-!
# The two sources of BeiDou ephemerides

The transmission time of a record of a navigation file against the one of a D1 set.
-/

namespace GnssParser
open Text BitView

/-! ## Whole numbers as read -/

/-- An integer that is read in another way has lost its trailing zeros. -/
theorem readReal_natCast {field : RealField} {n : Nat} (value : field.value = n) :
    0 ≤ readReal field ∧ readReal field ≤ n ∧
      ∀ m : Int, readReal field = m → (9 : Int) ∣ n - m := by
  have nonneg : 0 ≤ field.mantissa := RealField.mantissa_nonneg (by rw [value]; positivity)
  rw [readReal]
  split
  · rw [RealField.value] at value
    cases scale : field.scale with
    | ofNat k =>
        rw [scale, Int.ofNat_eq_natCast, zpow_natCast] at value
        have power : (1 : ℚ) ≤ 10 ^ k := one_le_pow₀ (by norm_num)
        refine ⟨nonneg, by nlinarith, ?_⟩
        intro m same
        rw [same] at value
        have whole : m * 10 ^ k = (n : Int) := by exact_mod_cast value
        rw [← whole, show m * 10 ^ k - m = m * (10 ^ k - 1) by ring]
        have nines : (10 - 1 : Int) ∣ 10 ^ k - 1 ^ k := sub_dvd_pow_sub_pow 10 1 k
        rw [one_pow] at nines
        exact nines.mul_left m
    | negSucc k =>
        -- a mantissa below ten with a negative exponent is below one
        rw [scale, zpow_negSucc] at value
        have power : (10 : ℚ) ≤ 10 ^ (k + 1) := le_self_pow₀ (by norm_num) (by omega)
        have below := (abs_lt.mp field.mantissa_lt).2
        have zero : n = 0 := by
          have less : (n : ℚ) < 1 := by
            rw [← value, ← div_eq_mul_inv, div_lt_one (by positivity)]
            linarith
          have : n < 1 := by exact_mod_cast less
          omega
        have none : field.mantissa = 0 := by
          rw [zero, Nat.cast_zero, mul_eq_zero] at value
          exact value.resolve_right (by positivity)
        rw [none, zero]
        refine ⟨le_rfl, by simp, fun m same => ?_⟩
        have : m = 0 := by exact_mod_cast same.symm
        simp [this]
  · rw [value]
    refine ⟨by positivity, le_rfl, fun m same => ?_⟩
    have : (n : Int) = m := by exact_mod_cast same
    simp [this]

theorem bdt2time_of_le {tow : ℚ} {n : Nat} (nonneg : 0 ≤ tow) (upper : tow ≤ n)
    (small : n ≤ 1000000000) (week : Int) :
    bdt2time week tow = ⟨1136073600 + wrapInt (604800 * week + ⌊tow⌋), tow - ⌊tow⌋⟩ := by
  have bound : (n : ℚ) ≤ 1000000000 := by exact_mod_cast small
  have admitted : admitTow tow = tow := by
    rw [admitTow, if_neg (by rw [not_or]; constructor <;> norm_num <;> linarith)]
  rw [bdt2time, signedWeekTime, epoch2time_bdt0]
  dsimp only
  rw [admitted, truncate_eq_floor nonneg, wrapInt_wrapInt_add,
    show (86400 * 7 : Int) = 604800 by norm_num]

theorem wrapInt_exists (x : Int) : ∃ turns : Int, wrapInt x = x + 2 ^ 32 * turns := by
  rw [wrapInt, Int.bmod_def]
  split
  · exact ⟨-(x / 2 ^ 32), by omega⟩
  · exact ⟨-(x / 2 ^ 32) - 1, by omega⟩

/-- 604800 is a multiple of 9, and 2 ^ 32 - 14 is not. -/
theorem weeks_ne_turns {k weeks turns : Int} (least : 0 ≤ weeks) (most : weeks < 8192)
    (lower : 0 ≤ 9 * k) (upper : 9 * k < 1048576) :
    604800 * weeks + 9 * k + 14 ≠ 4294967296 * turns := by
  intro sum
  have some : 0 < turns := by
    by_contra none
    linarith
  have few : turns < 2 := by
    by_contra more
    linarith
  have once : turns = 1 := le_antisymm (Int.lt_add_one_iff.mp few) some
  have nines : (9 : Int) ∣ 4294967282 := ⟨67200 * weeks + k, by linarith⟩
  exact absurd nines (by decide)

theorem fourteen_lost {week tow : Int} {w s : Nat} (weekBits : w < 2 ^ 13) (sowBits : s < 2 ^ 20)
    (weekNonneg : 0 ≤ week) (weekUpper : week ≤ w) (towNonneg : 0 ≤ tow) (towUpper : tow ≤ s)
    (nines : (9 : Int) ∣ s - tow) :
    1136073600 + wrapInt (604800 * week + tow) ≠ 1136073614 + wrapInt (604800 * w + s) := by
  obtain ⟨k, rest⟩ := nines
  have fewWeeks : (w : Int) - week < 8192 := by omega
  have later : 0 ≤ 9 * k := by omega
  have fewSeconds : 9 * k < 1048576 := by omega
  intro same
  obtain ⟨turns, wrapped⟩ := wrapInt_exists (604800 * week + tow)
  obtain ⟨turns', wrapped'⟩ := wrapInt_exists (604800 * w + s)
  rw [wrapped, wrapped'] at same
  have sum : 604800 * ((w : Int) - week) + 9 * k + 14 = 4294967296 * (turns - turns') := by linarith
  exact weeks_ne_turns (sub_nonneg.mpr weekUpper) fewWeeks later fewSeconds sum

/-! ## The transmission times -/

/-- A record and a broadcast set in the row of its satellite that state the same week, transmission
time and reference times; the date of the clock is any date.
-/
structure BdsSources where
  record : NavRecord
  st : Processor
  ephem : Ephem
  row : Row
  flags : UInt8
  ionoParams : List ℚ
  beidou : record.sysChar = 'C'
  valid : ValidSat ephem.sat
  holds : st.Holds ephem.sat row flags
  consistent : D1Consistent row
  week : (record.real 5 42).value = bdsField row 0 60 13
  sow : (record.real 7 4).value = bdsSow row 0
  toe : (record.real 3 4).value = (d1Toe row * 8 : Nat)
  near : |(d1Toe row * 8 : Int) - bdsSow row 0| ≤ 302400

namespace BdsSources

/-- What `rinex_line2ephem` and an accepted `decode_BDS_D1_ephem` store. -/
def Yields (sources : BdsSources) (stored decoded : Ephem) : Prop :=
  rinexLine2ephem sources.record.lines = .ok stored ∧
    ∃ st' ionoParams', decodeBdsD1Ephem sources.st sources.ephem sources.ionoParams =
      .ok (0, st', decoded, ionoParams')

structure SameTimes (stored decoded : Ephem) : Prop where
  toe : stored.toe = decoded.toe
  toc : stored.toc = decoded.toc
  ttr : stored.ttr = decoded.ttr
  toeTow : stored.toeTow = decoded.toeTow
  week : stored.week = decoded.week

variable (sources : BdsSources)

theorem decoded_ttr {decoded : Ephem} {st' : Processor} {ionoParams' : List ℚ}
    (read : decodeBdsD1Ephem sources.st sources.ephem sources.ionoParams =
      .ok (0, st', decoded, ionoParams')) :
    decoded.ttr = ⟨1136073614 + wrapInt (604800 * bdsField sources.row 0 60 13 +
      bdsSow sources.row 0), 0⟩ := by
  obtain ⟨rc, e, io, time, -, outcome, -, -, -, ran⟩ :=
    decodeBdsD1Ephem_ok sources.valid sources.row sources.ionoParams
  have same := ran sources.st sources.row sources.flags (SameD1.refl _) sources.holds
  rw [read] at same
  cases same
  cases outcome with
  | rejected failed => exact absurd sources.consistent failed
  | leaked failed => exact absurd sources.consistent failed
  | decoded _ _ times =>
      have sent := congrArg SetTimes.ttr times
      exact sent.trans (bdsTimes_ttr { sat := 0 } (bdsField_lt sources.row 0 60 13)
        (bdsSow_lt sources.row 0) (d1ToeWeek (d1LocalsOf sources.row))
        (d1LocalsOf sources.row).toes (d1LocalsOf sources.row).tocBds)

theorem yields : ∃ stored decoded, sources.Yields stored decoded := by
  have other : sources.record.sysChar ≠ 'R' := by rw [sources.beidou]; decide
  obtain ⟨stored, read, -⟩ := NavRecord.rinexLine2ephem_lines other
  obtain ⟨rc, e, io, time, -, -, accepted, -, -, ran⟩ :=
    decodeBdsD1Ephem_ok sources.valid sources.row sources.ionoParams
  have run := ran sources.st sources.row sources.flags (SameD1.refl _) sources.holds
  rw [accepted.mpr sources.consistent] at run
  exact ⟨stored, e, read, _, _, run⟩

theorem stored_ttr {stored : Ephem} (read : rinexLine2ephem sources.record.lines = .ok stored) :
    ∃ week tow : Int, 0 ≤ week ∧ week ≤ bdsField sources.row 0 60 13 ∧ 0 ≤ tow ∧
      tow ≤ bdsSow sources.row 0 ∧
      stored.ttr = ⟨1136073600 + wrapInt (604800 * week + tow), readReal (sources.record.real 7 4) - tow⟩ ∧
      (readReal (sources.record.real 7 4) = tow → (9 : Int) ∣ bdsSow sources.row 0 - tow) := by
  have other : sources.record.sysChar ≠ 'R' := by rw [sources.beidou]; decide
  obtain ⟨same, found, -, -, sent⟩ := NavRecord.rinexLine2ephem_lines other
  rw [read] at found
  cases found
  obtain ⟨weekNonneg, weekUpper, -⟩ := readReal_natCast sources.week
  obtain ⟨sowNonneg, sowUpper, nines⟩ := readReal_natCast sources.sow
  have weekBits := bdsField_lt sources.row 0 60 13
  have sowBits := bdsSow_lt sources.row 0
  have floorWeek : ⌊readReal (sources.record.real 5 42)⌋ ≤ bdsField sources.row 0 60 13 := by
    have := Int.floor_le_floor weekUpper
    rwa [Int.floor_natCast] at this
  have floorSow : ⌊readReal (sources.record.real 7 4)⌋ ≤ bdsSow sources.row 0 := by
    have := Int.floor_le_floor sowUpper
    rwa [Int.floor_natCast] at this
  have floorNonneg := Int.floor_nonneg.mpr weekNonneg
  refine ⟨⌊readReal (sources.record.real 5 42)⌋, ⌊readReal (sources.record.real 7 4)⌋,
    floorNonneg, floorWeek, Int.floor_nonneg.mpr sowNonneg, floorSow, ?_, nines _⟩
  have count : (readCount (sources.record.real 5 42)).toInt32.toInt =
      ⌊readReal (sources.record.real 5 42)⌋ := by
    rw [readCount, truncate_eq_floor weekNonneg, toInt32_toInt_ofNat (by omega)]
    omega
  rw [sent (by rw [sources.beidou]; decide), NavRecord.sentTime, if_pos sources.beidou, count,
    bdt2time_of_le sowNonneg sowUpper (by omega)]

theorem ttr_ne {stored decoded : Ephem} (yields : sources.Yields stored decoded) :
    stored.ttr ≠ decoded.ttr := by
  obtain ⟨read, st', ionoParams', decode⟩ := yields
  obtain ⟨week, tow, weekNonneg, weekUpper, towNonneg, towUpper, sent, nines⟩ :=
    sources.stored_ttr read
  rw [sent, sources.decoded_ttr decode, ne_eq, GTime.mk.injEq, sub_eq_zero]
  rintro ⟨time, whole⟩
  exact fourteen_lost (bdsField_lt sources.row 0 60 13) (bdsSow_lt sources.row 0) weekNonneg weekUpper
    towNonneg towUpper (nines whole) time

end BdsSources

/-- The transmission time of a record stays in BDT. -/
theorem bdsSources_differ (sources : BdsSources) :
    (∃ stored decoded, sources.Yields stored decoded) ∧
      ∀ stored decoded, sources.Yields stored decoded → ¬ BdsSources.SameTimes stored decoded :=
  ⟨sources.yields, fun _ _ yields same => sources.ttr_ne yields same.ttr⟩

def bdsWeek0Record : NavRecord where
  sysChar := 'C'
  prn := 6
  line := zeroLine "C06 2006 01 01 00 00 00".toList
  real _ _ := zeroField
  system := by decide
  single := zeroLine_single (by decide)
  start := rfl
  prnColumns := ⟨0, ['0', '6'], by decide, by decide, List.all_eq_true.mp (by decide), rfl, by decide⟩
  epoch := zeroLine_epoch (by decide +kernel)
  reals := by
    unfold RealAt
    decide +kernel
  counts column _ := by rw [zeroField_value]; norm_num
  channel bds := absurd bds (by decide)

/-- Subframes 1 to 3 with seconds of week 0, 6 and 12 and zeros otherwise. -/
def bdsWeek0Row : Row :=
  Vector.ofFn fun i => match i.val with
    | 2 => 0x40
    | 40 => 0x80
    | 42 => 0x01
    | 43 => 0x80
    | 78 => 0xC0
    | 80 => 0x03
    | _ => 0

def bdsWeek0Byte : Nat → UInt8
  | 2 => 0x40
  | 40 => 0x80
  | 42 => 0x01
  | 43 => 0x80
  | 78 => 0xC0
  | 80 => 0x03
  | _ => 0

theorem bdsWeek0Row_bits : bufferBit bdsWeek0Row =
    fun i => decide (i / 8 < 380) && byteBit (bdsWeek0Byte (i / 8)) (i % 8) :=
  bufferBit_ofFn bdsWeek0Byte

theorem bdsWeek0Row_consistent : D1Consistent bdsWeek0Row where
  ids := by
    simp only [bdsField, bdsWeek0Row_bits]
    decide +kernel
  sows := by
    simp only [bdsSow, bdsField, bdsWeek0Row_bits]
    decide +kernel
  toc := by
    simp only [d1Toc, d1Toe, bdsField, bdsWeek0Row_bits]
    decide +kernel

theorem bdsWeek0Row_zero : bdsField bdsWeek0Row 0 60 13 = 0 ∧ bdsSow bdsWeek0Row 0 = 0 ∧
    d1Toe bdsWeek0Row = 0 := by
  simp only [bdsSow, d1Toe, bdsField, bdsWeek0Row_bits]
  decide +kernel

def bdsWeek0 : BdsSources where
  record := bdsWeek0Record
  st := Processor.init.update (satNo sysBds 6) bdsWeek0Row 0 none
  ephem := { sat := satNo sysBds 6 }
  row := bdsWeek0Row
  flags := 0
  ionoParams := []
  beidou := rfl
  valid := validSat_satNo (show satNo sysBds 6 ≠ 0 by decide)
  holds := Processor.init.holds_update (validSat_satNo (show satNo sysBds 6 ≠ 0 by decide)) bdsWeek0Row
    0 none
  consistent := bdsWeek0Row_consistent
  week := by rw [bdsWeek0Row_zero.1]; exact zeroField_value.trans (by simp)
  sow := by rw [bdsWeek0Row_zero.2.1]; exact zeroField_value.trans (by simp)
  toe := by rw [bdsWeek0Row_zero.2.2]; exact zeroField_value.trans (by simp)
  near := by rw [bdsWeek0Row_zero.2.1, bdsWeek0Row_zero.2.2]; decide

theorem bdsWeek0_differs :
    ¬ ∀ stored decoded, bdsWeek0.Yields stored decoded → BdsSources.SameTimes stored decoded := by
  intro same
  obtain ⟨stored, decoded, yields⟩ := bdsWeek0.yields
  exact bdsWeek0.ttr_ne yields (same stored decoded yields).ttr

end GnssParser
