import Mathlib.Algebra.Order.Floor.Semifield
import GnssParser.Lib.Nmea
import GnssParser.Model.Nmea
import GnssParser.Proof.Calendar
import GnssParser.Proof.LeapSeconds
import GnssParser.Proof.PvtWeek

/-!
# GGA sentences read back

The angles of a solution are multiples of 1e-7 degrees and its times of a millisecond, so no rounding
of minutes or seconds reaches 60.
-/

namespace GnssParser
open Checked Text

/-! ## Solutions -/

/-- The grids of the fields of a NAV-PVT message. -/
structure PvtGrid (pvt : PVTSolution) : Prop where
  time : ∃ reference itow, pvt.time = pvtTime reference itow
  lat : ∃ k : Int, pvt.lat = k * 1e-7
  lon : ∃ k : Int, pvt.lon = k * 1e-7
  hgt : ∃ k : Int, pvt.hgt = k * 1e-3
  hgtMsl : ∃ k : Int, pvt.hgtMsl = k * 1e-3

theorem parsePvt_grid {st : Processor} {msg : List UInt8} {pvt : PVTSolution}
    (parsed : parsePvt st msg = .ok (some pvt)) : PvtGrid pvt := by
  rw [parsePvt] at parsed
  split_ifs at parsed
  · cases parsed
  · cases parsed
  · simp only [bind_eq_ok, pure_eq, Except.ok.injEq, Option.some.injEq] at parsed
    obtain ⟨itow, -, flags, -, fixType, -, numSv, -, lat, -, lon, -, hgt, -, hgtMsl, -, hAcc, -,
      vAcc, -, pDop, -, velN, -, velE, -, velD, -, velAcc, -, rfl⟩ := parsed
    exact ⟨⟨_, _, rfl⟩, ⟨_, rfl⟩, ⟨_, rfl⟩, ⟨_, rfl⟩, ⟨_, rfl⟩⟩

theorem pvtTime_millisecond (reference : GTime) (itow : UInt32) :
    ∃ n k : Nat, k < 1000 ∧ pvtTime reference itow = ⟨315964800 + n, (k : ℚ) / 1000⟩ := by
  obtain ⟨week, same⟩ : ∃ week, pvtTime reference itow =
      gpst2time week ((itow.toNat : ℚ) * 1e-3) := ⟨_, rfl⟩
  have small : (itow.toNat : ℚ) ≤ 4294967296 := by exact_mod_cast itow.toNat_lt.le
  have nonneg : (0 : ℚ) ≤ itow.toNat := Nat.cast_nonneg _
  have admitted : admitTow ((itow.toNat : ℚ) * 1e-3) = (itow.toNat : ℚ) * 1e-3 := by
    rw [admitTow, if_neg]
    rintro (low | high) <;> linarith
  have parts : (1000 * (itow.toNat / 1000 : Nat) + (itow.toNat % 1000 : Nat) : ℚ) = itow.toNat := by
    exact_mod_cast Nat.div_add_mod itow.toNat 1000
  rw [same, gpst2time, epoch2time_gpst0]
  dsimp only
  rw [admitted, truncate_milliseconds]
  refine ⟨(86400 * 7 * week + UInt32.ofInt (itow.toNat / 1000 : Nat)).toNat, itow.toNat % 1000,
    Nat.mod_lt _ (by decide), ?_⟩
  rw [GTime.mk.injEq]
  refine ⟨rfl, ?_⟩
  rw [Int.cast_natCast, ← parts]
  ring

/-! ## Time -/

/-- The UTC of a GPS time, in seconds. -/
def utcSeconds (t : GTime) : ℚ := StepOffsets.retreat leapRows t.value

theorem leaps_whole : ∀ row ∈ leaps, ∃ n < 19, row.2 = -((n : Nat) : ℚ) := by decide +kernel

/-- `gpst2utc` subtracts whole seconds. -/
theorem gpst2utc_whole {t : GTime} (normal : t.Normal) :
    ∃ n : Nat, n < 19 ∧ gpst2utc t = ⟨t.time - n, t.sec⟩ := by
  rw [gpst2utc]
  cases found : leaps.findSome? fun row =>
      if timeDiff (timeAdd t row.2) (epoch2time row.1) ≥ 0 then some (timeAdd t row.2) else none with
  | none => exact ⟨0, by decide, by simp⟩
  | some tu =>
      obtain ⟨row, mem, own⟩ := List.exists_of_findSome?_eq_some found
      obtain ⟨n, few, offset⟩ := leaps_whole row mem
      split_ifs at own
      cases own
      refine ⟨n, few, ?_⟩
      have floor : ⌊t.sec + -(n : ℚ)⌋ = -n := by
        rw [← sub_eq_add_neg, Int.floor_sub_natCast, Int.floor_eq_zero_iff.mpr ⟨normal.nonneg, normal.below⟩,
          zero_sub]
      rw [Option.getD_some, timeAdd, offset, floor, GTime.mk.injEq]
      constructor
      · ring
      · push_cast
        ring

/-! ## Text -/

theorem appendNmeaChecksum_eq (sentenceBody : List Char) :
    appendNmeaChecksum sentenceBody = Nmea.sentence sentenceBody := by
  have digits : ∀ n < 256, List.replicate (2 - ((Nat.toDigits 16 n).map Char.toUpper).length) '0' ++
      (Nat.toDigits 16 n).map Char.toUpper = [Nmea.hexDigit (n / 16), Nmea.hexDigit (n % 16)] := by
    decide +kernel
  have small := (Nmea.checksum sentenceBody).toNat_lt
  have value : (((Nmea.checksum sentenceBody).toNat : Int) % 2 ^ 32).toNat =
      (Nmea.checksum sentenceBody).toNat := by omega
  rw [appendNmeaChecksum, ← Nmea.checksum]
  simp only [OStream.put, OStream.int, OStream.upper, OStream.hex, OStream.setw, OStream.setfill,
    if_neg (show ¬ 16 = 10 by decide), if_true, value, digits _ small]
  simp [Nmea.sentence]

/-- The digits of an epoch, filled up to `hhmmss.sss`. -/
def timeField (epoch : CalendarTime) : List Char :=
  let filled (width : Nat) (text : List Char) := List.replicate (width - text.length) '0' ++ text
  filled 2 (intText (truncate epoch.hour)) ++ filled 2 (intText (truncate epoch.min)) ++
    filled 6 (fixedText 3 epoch.sec)

def ggaFields (pvt : PVTSolution) : List (List Char) :=
  ["GPGGA".toList, timeField (time2epoch (gpst2utc pvt.time)),
    formatNmeaDegrees pvt.lat true, [if pvt.lat ≥ 0 then 'N' else 'S'],
    formatNmeaDegrees pvt.lon false, [if pvt.lon ≥ 0 then 'E' else 'W'],
    intText (getNmeaFixQuality pvt),
    List.replicate (2 - (natText pvt.numSv.toNat).length) '0' ++ natText pvt.numSv.toNat,
    fixedText 1 (if pvt.pDop > 0 then pvt.pDop else 0),
    fixedText 3 pvt.hgtMsl, ['M'], fixedText 3 (pvt.hgt - pvt.hgtMsl), ['M'], [], []]

theorem buildNmeaGgaSentence_fields {pvt : PVTSolution} (fix : getNmeaFixQuality pvt ≠ 0) :
    buildNmeaGgaSentence pvt = Nmea.sentence ([','].intercalate (ggaFields pvt)) := by
  rw [buildNmeaGgaSentence]
  dsimp only
  rw [if_neg fix, appendNmeaChecksum_eq]
  have talker : "GPGGA,".toList = "GPGGA".toList ++ [','] := rfl
  have metres : ",M,".toList = [',', 'M', ','] := rfl
  have lastMetres : ",M,,".toList = [',', 'M', ',', ','] := rfl
  rw [talker, metres, lastMetres]
  refine congrArg Nmea.sentence ?_
  simp only [OStream.put, OStream.int, OStream.double, OStream.setw, OStream.setfill,
    OStream.setprecision, if_true, Nat.zero_sub, List.replicate_zero, List.nil_append, ggaFields,
    timeField, List.intercalate_cons_cons, List.intercalate_singleton, List.append_assoc,
    List.cons_append, intText_natCast]

/-! ## Angles -/

theorem formatNmeaDegrees_eq {value : ℚ} (isLatitude : Bool) :
    formatNmeaDegrees value isLatitude =
      zeroPad (if isLatitude then 2 else 3) (natText ⌊|value|⌋₊) ++
        (zeroPad 2 (natText (roundHalfEven ((|value| - ⌊|value|⌋₊) * 60 * 10 ^ 5) / 10 ^ 5)) ++
          '.' :: zeroPad 5 (natText (roundHalfEven ((|value| - ⌊|value|⌋₊) * 60 * 10 ^ 5) % 10 ^ 5))) := by
  have whole : truncate |value| = ⌊|value|⌋₊ := by
    rw [truncate_eq_floor (abs_nonneg value), Int.natCast_floor_eq_floor (abs_nonneg value)]
  have minutes : 0 ≤ (|value| - ⌊|value|⌋₊) * 60 :=
    mul_nonneg (sub_nonneg.mpr (Nat.floor_le (abs_nonneg value))) (by norm_num)
  rw [← fill_fixedText 2 minutes (show 0 < 5 by decide), zeroPad_natText, formatNmeaDegrees, whole]
  simp only [OStream.put, OStream.int, OStream.double, OStream.setw, OStream.setfill,
    OStream.setprecision, if_true, List.nil_append, List.append_assoc, intText_natCast, Int.cast_natCast]

/-- Degrees on the grid of 1e-7 are off by at most half a digit, and the minutes stay below 60. -/
theorem angle_formatNmeaDegrees {value : ℚ} {isLatitude : Bool} {k : Int} (grid : value = k * 1e-7)
    (bound : |value| < 10 ^ (if isLatitude then 2 else 3)) :
    ∃ (degrees : Nat) (minutes : ℚ),
      Nmea.angle (if isLatitude then 2 else 3) (formatNmeaDegrees value isLatitude) =
        some (degrees, minutes) ∧ minutes < 60 ∧
      |degrees + minutes / 60 - abs value| ≤ 1 / 2 * (1e-5 / 60) := by
  obtain ⟨q, r, small, parts⟩ : ∃ q r, r < 10000000 ∧ k.natAbs = 10000000 * q + r :=
    ⟨_, _, Nat.mod_lt k.natAbs (by decide), (Nat.div_add_mod k.natAbs 10000000).symm⟩
  have size : |value| = ((10000000 * q + r : Nat) : ℚ) / (10000000 : Nat) := by
    rw [grid, abs_mul, ← parts, Nat.cast_natAbs, Int.cast_abs,
      abs_of_pos (show (0 : ℚ) < 1e-7 by norm_num)]
    push_cast
    ring
  have whole : ⌊|value|⌋₊ = q := by
    rw [size, Nat.floor_div_eq_div]
    omega
  have rest : (r : ℚ) ≤ 9999999 := by exact_mod_cast Nat.le_of_lt_succ small
  have scaled : (|value| - ⌊|value|⌋₊) * 60 * 10 ^ 5 = r * (6 / 10) := by
    rw [whole, size]
    push_cast
    ring
  have near := roundHalfEven_near (show 0 ≤ (|value| - ⌊|value|⌋₊) * 60 * 10 ^ 5 by
    rw [scaled]
    positivity)
  rw [formatNmeaDegrees_eq]
  generalize roundHalfEven ((|value| - ⌊|value|⌋₊) * 60 * 10 ^ 5) = n at near ⊢
  rw [scaled, abs_le] at near
  obtain ⟨lower, upper⟩ := near
  have below : n < 6000000 := by
    have : (n : ℚ) < 6000000 := by linarith
    exact_mod_cast this
  have inside : ⌊|value|⌋₊ < 10 ^ (if isLatitude then 2 else 3) := by
    rw [Nat.floor_lt (abs_nonneg value)]
    exact_mod_cast bound
  refine ⟨⌊|value|⌋₊, n / 10 ^ 5, Nmea.angle_append (by split <;> decide) inside below, ?_, ?_⟩
  · have minutes : (n : ℚ) < 6000000 := by exact_mod_cast below
    linarith
  · rw [whole, size, abs_le]
    push_cast
    constructor <;> linarith

/-- The field and its letter are read as an angle within half of the last digit. -/
def AngleReads (width : Nat) (positive negative : Char) (field letter : List Char) (value : ℚ) : Prop :=
  ∃ degrees minutes x, Nmea.angle width field = some (degrees, minutes) ∧ minutes < 60 ∧
    Nmea.coordinate width positive negative field letter = some x ∧ |x - value| ≤ 1 / 2 * (1e-5 / 60)

theorem angleReads_format {value : ℚ} (isLatitude : Bool) {k : Int} (grid : value = k * 1e-7)
    (bound : |value| < 10 ^ (if isLatitude then 2 else 3)) {positive negative : Char}
    (letters : negative ≠ positive) :
    AngleReads (if isLatitude then 2 else 3) positive negative (formatNmeaDegrees value isLatitude)
      [if value ≥ 0 then positive else negative] value := by
  obtain ⟨degrees, minutes, read, below, near⟩ := angle_formatNmeaDegrees grid bound
  by_cases nonneg : value ≥ 0
  · rw [abs_of_nonneg nonneg] at near
    refine ⟨degrees, minutes, _, read, below, ?_, near⟩
    rw [Nmea.coordinate, read, if_pos nonneg]
    exact if_pos rfl
  · rw [abs_of_neg (not_le.mp nonneg)] at near
    refine ⟨degrees, minutes, -(degrees + minutes / 60), read, below, ?_, ?_⟩
    · rw [Nmea.coordinate, read, if_neg nonneg]
      exact (if_neg (by simpa using letters)).trans (if_pos rfl)
    · rw [show -(degrees + minutes / 60) - value = -(degrees + minutes / 60 - -value) by ring, abs_neg]
      exact near

/-! ## Sentences -/

theorem timeOfDay_timeField {hour min n : Nat} (hours : hour < 24) (mins : min < 60)
    (secs : n < 60000) {epoch : CalendarTime} (hourOf : epoch.hour = hour) (minOf : epoch.min = min)
    (secOf : epoch.sec * 10 ^ 3 = n) :
    Nmea.timeOfDay (timeField epoch) = some (hour, min, epoch.sec) := by
  have nonneg : 0 ≤ epoch.sec := by
    have : (0 : ℚ) ≤ n := Nat.cast_nonneg n
    linarith
  have text : timeField epoch = zeroPad 2 (natText hour) ++ zeroPad 2 (natText min) ++
      (zeroPad 2 (natText (n / 10 ^ 3)) ++ '.' :: zeroPad 3 (natText (n % 10 ^ 3))) := by
    have sec := fill_fixedText 2 nonneg (show 0 < 3 by decide)
    rw [secOf, roundHalfEven_natCast] at sec
    rw [timeField, hourOf, minOf, truncate_natCast, truncate_natCast]
    dsimp only
    rw [← sec, intText_natCast, intText_natCast, zeroPad_natText, zeroPad_natText]
  rw [text, Nmea.timeOfDay_append hours mins secs, ← secOf, mul_div_assoc,
    div_self (by norm_num), mul_one]

structure GgaReads (pvt : PVTSolution) (fields : List (List Char)) : Prop where
  time : ∃ (day hour min : Nat) (sec : ℚ),
    Nmea.timeOfDay (fields.getD 1 []) = some (hour, min, sec) ∧
    hour < 24 ∧ min < 60 ∧ sec < 60 ∧
    utcSeconds pvt.time = 86400 * day + 3600 * hour + 60 * min + sec
  lat : AngleReads 2 'N' 'S' (fields.getD 2 []) (fields.getD 3 []) pvt.lat
  lon : AngleReads 3 'E' 'W' (fields.getD 4 []) (fields.getD 5 []) pvt.lon
  altitude : decimal 3 (fields.getD 9 []) = some pvt.hgtMsl
  geoid : decimal 3 (fields.getD 11 []) = some (pvt.hgt - pvt.hgtMsl)

theorem timeReads {pvt : PVTSolution} (grid : PvtGrid pvt) (last : utcSeconds pvt.time < endOf2099) :
    ∃ (day hour min : Nat) (sec : ℚ),
      Nmea.timeOfDay (timeField (time2epoch (gpst2utc pvt.time))) = some (hour, min, sec) ∧
      hour < 24 ∧ min < 60 ∧ sec < 60 ∧
      utcSeconds pvt.time = 86400 * day + 3600 * hour + 60 * min + sec := by
  obtain ⟨reference, itow, time⟩ := grid.time
  obtain ⟨n, k, thousandth, millisecond⟩ := pvtTime_millisecond reference itow
  rw [← time] at millisecond
  have kNonneg : (0 : ℚ) ≤ (k : ℚ) / 1000 := by positivity
  have kBelow : (k : ℚ) / 1000 < 1 := by
    have : (k : ℚ) < 1000 := by exact_mod_cast thousandth
    linarith
  have normal : pvt.time.Normal := by
    rw [millisecond]
    exact ⟨kNonneg, kBelow⟩
  obtain ⟨leap, few, utc⟩ := gpst2utc_whole normal
  have seconds : utcSeconds pvt.time = ((315964800 + n - leap : Int) : ℚ) + (k : ℚ) / 1000 := by
    rw [utcSeconds, ← gpst2utc_value, utc, millisecond, GTime.value]
  have before : (315964800 + n - leap : Int) < endOf2099 := by
    have : ((315964800 + n - leap : Int) : ℚ) < endOf2099 := by linarith
    exact_mod_cast this
  obtain ⟨c, valid, whole⟩ := CycleTime.exists_seconds (by omega) before
  have utcTime : gpst2utc pvt.time = ⟨c.seconds, (k : ℚ) / 1000⟩ := by
    rw [utc, millisecond, whole]
  have days : 0 ≤ (mday.take c.month).sum := (CycleTime.day_lt valid).1
  have sec := valid.sec
  rw [utcTime, c.time2epoch_seconds valid]
  refine ⟨(1461 * c.cycle + (mday.take c.month).sum + c.day).toNat, c.hour, c.min, _,
    timeOfDay_timeField valid.hour valid.min (show 1000 * c.sec + k < 60000 by omega) rfl rfl ?_,
    valid.hour, valid.min, ?_, ?_⟩
  · rw [CycleTime.calendar]
    push_cast
    ring
  · have : (c.sec : ℚ) + 1 ≤ 60 := by exact_mod_cast sec
    rw [CycleTime.calendar]
    linarith
  · have dayCast : (((1461 * c.cycle + (mday.take c.month).sum + c.day).toNat : Int) : ℚ) =
        ((1461 * c.cycle + (mday.take c.month).sum + c.day : Int) : ℚ) := by
      rw [Int.toNat_of_nonneg (by omega)]
    rw [Int.cast_natCast] at dayCast
    rw [seconds, whole, dayCast, CycleTime.seconds, CycleTime.calendar]
    push_cast
    ring

theorem numeric_formatNmeaDegrees (value : ℚ) (isLatitude : Bool) :
    Numeric (formatNmeaDegrees value isLatitude) := by
  rw [formatNmeaDegrees_eq]
  exact (numeric_zeroPad _ _).append
    ((numeric_zeroPad _ _).append ((numeric_zeroPad _ _).cons (.inr rfl)))

theorem numeric_timeField (epoch : CalendarTime) : Numeric (timeField epoch) := by
  have filled : ∀ {text : List Char} (n : Nat), Numeric text →
      Numeric (List.replicate n '0' ++ text) := fun n numeric => (numeric_zeros n).append numeric
  exact ((filled _ (numeric_intText _)).append (filled _ (numeric_intText _))).append
    (filled _ (numeric_fixedText _ _))

theorem ggaFields_plain (pvt : PVTSolution) : ∀ text ∈ ggaFields pvt, ',' ∉ text := by
  have letter : ∀ (c : Prop) [Decidable c] (a b : Char), a ≠ ',' → b ≠ ',' →
      ',' ∉ [if c then a else b] := by
    intro c _ a b first second
    rw [List.mem_singleton]
    split
    · exact first.symm
    · exact second.symm
  simp only [ggaFields, List.forall_mem_cons, List.not_mem_nil, not_false_eq_true, and_true,
    false_implies, implies_true]
  exact ⟨by decide, (numeric_timeField _).notMem, (numeric_formatNmeaDegrees _ _).notMem,
    letter _ _ _ (by decide) (by decide), (numeric_formatNmeaDegrees _ _).notMem,
    letter _ _ _ (by decide) (by decide), (numeric_intText _).notMem,
    ((numeric_zeros _).append (numeric_natText _)).notMem, (numeric_fixedText _ _).notMem,
    (numeric_fixedText _ _).notMem, by decide, (numeric_fixedText _ _).notMem, by decide⟩

/-- A GGA sentence is a well-formed frame around fields that read back as the solution. -/
theorem buildNmeaGgaSentence_reads {st : Processor} {msg : List UInt8} {pvt : PVTSolution}
    (parsed : parsePvt st msg = .ok (some pvt)) (latitude : |pvt.lat| ≤ 90)
    (longitude : |pvt.lon| ≤ 180) (last : utcSeconds pvt.time < endOf2099)
    (fix : getNmeaFixQuality pvt ≠ 0) :
    ∃ body, buildNmeaGgaSentence pvt = Nmea.sentence body ∧ body.count ',' = 14 ∧
      GgaReads pvt (Nmea.fields body) := by
  have grid := parsePvt_grid parsed
  have plain := ggaFields_plain pvt
  refine ⟨_, buildNmeaGgaSentence_fields fix, Nmea.count_intercalate plain, ?_⟩
  rw [Nmea.fields_intercalate plain (by simp [ggaFields])]
  obtain ⟨lat, latGrid⟩ := grid.lat
  obtain ⟨lon, lonGrid⟩ := grid.lon
  obtain ⟨hgt, hgtGrid⟩ := grid.hgt
  obtain ⟨hgtMsl, hgtMslGrid⟩ := grid.hgtMsl
  constructor
  case time => exact timeReads grid last
  case lat =>
    exact angleReads_format true latGrid (latitude.trans_lt (by norm_num)) (by decide)
  case lon =>
    exact angleReads_format false lonGrid (longitude.trans_lt (by norm_num)) (by decide)
  case altitude =>
    refine decimal_fixedText (by decide) (k := hgtMsl) ?_
    rw [hgtMslGrid]
    ring
  case geoid =>
    refine decimal_fixedText (by decide) (k := hgt - hgtMsl) ?_
    rw [hgtGrid, hgtMslGrid]
    push_cast
    ring

/-- NAV-PVT of a fix south of the equator, a thousandth before a full minute of latitude. -/
def equatorPvtMsg : List UInt8 :=
  [0xB5, 0x62, 0x01, 0x07, 92, 0] ++ [0xE7, 0x03, 0, 0] ++ List.replicate 16 0 ++ [3, 0x81, 0, 7] ++
    [0, 0, 0, 0, 0x81, 0x72, 0xA4, 0xFF, 0xC7, 0xCF, 0xFF, 0xFF, 0x57, 0xC3, 0, 0] ++
    List.replicate 54 0

def equatorProcessor : Processor :=
  { Processor.init with currTime := ⟨315964800 + 604800 * 2000, 1 / 2⟩ }

theorem buildNmeaGgaSentence_reads_equator :
    ∃ pvt, parsePvt equatorProcessor equatorPvtMsg = .ok (some pvt) ∧ ∃ body,
      buildNmeaGgaSentence pvt = Nmea.sentence body ∧ body.count ',' = 14 ∧
        GgaReads pvt (Nmea.fields body) :=
  ⟨_, rfl, buildNmeaGgaSentence_reads
    (show parsePvt equatorProcessor equatorPvtMsg = .ok (some _) from rfl) (by decide +kernel)
    (by decide +kernel) (by decide +kernel) (by decide +kernel)⟩

end GnssParser
