import GnssParser.Proof.GnssTime

/-!
# Calendar times

`epoch2time` counts days with a table of twelve months, `time2epoch` walks a table of 48. Both are
compared to the months of a four-year cycle.
-/

namespace GnssParser

/-! ## Months -/

theorem sum_nonneg {months : List Int} (nonneg : ∀ days ∈ months, 0 ≤ days) : 0 ≤ months.sum := by
  induction months with
  | nil => exact le_rfl
  | cons days months ih =>
      rw [List.sum_cons]
      exact add_nonneg (nonneg _ List.mem_cons_self)
        (ih fun days mem => nonneg days (List.mem_cons_of_mem _ mem))

theorem dayAndMonth_take {months : List Int} (nonneg : ∀ days ∈ months, 0 ≤ days) {m : Nat} {d : Int}
    (inside : m < months.length) (first : 0 ≤ d) (last : d < months.getD m 0) (mon : Int) :
    dayAndMonth months ((months.take m).sum + d) mon = (d, mon + m) := by
  induction m generalizing months mon with
  | zero =>
      cases months with
      | nil => cases inside
      | cons days months =>
          rw [List.getD_cons_zero] at last
          rw [List.take_zero, List.sum_nil, zero_add, dayAndMonth, if_neg (by omega), Nat.cast_zero,
            add_zero]
  | succ m ih =>
      cases months with
      | nil => cases inside
      | cons days months =>
          have others : ∀ days ∈ months, 0 ≤ days := fun days mem =>
            nonneg days (List.mem_cons_of_mem _ mem)
          have before : 0 ≤ (months.take m).sum :=
            sum_nonneg fun days mem => others days (List.mem_of_mem_take mem)
          rw [List.getD_cons_succ] at last
          rw [List.take_succ_cons, List.sum_cons, dayAndMonth, if_pos (by omega),
            show days + (months.take m).sum + d - days = (months.take m).sum + d by ring,
            ih others (Nat.lt_of_succ_lt_succ inside) last, Nat.cast_succ, add_assoc,
            add_comm (m : Int)]

theorem exists_month (months : List Int) {day : Int} (first : 0 ≤ day) (last : day < months.sum) :
    ∃ m d, m < months.length ∧ 0 ≤ d ∧ d < months.getD m 0 ∧ day = (months.take m).sum + d := by
  induction months generalizing day with
  | nil => exact absurd last (not_lt.mpr first)
  | cons days months ih =>
      rw [List.sum_cons] at last
      by_cases early : day < days
      · exact ⟨0, day, Nat.succ_pos _, first, early, (zero_add day).symm⟩
      · obtain ⟨m, d, inside, nonneg, below, same⟩ :=
          ih (show 0 ≤ day - days by omega) (by omega)
        refine ⟨m + 1, d, Nat.succ_lt_succ inside, nonneg, below, ?_⟩
        rw [List.take_succ_cons, List.sum_cons]
        omega

/-! ## Four-year cycles -/

/-- A second from 1970 on: the four-year cycle, its month, and day, hour, minute and second counted
from zero. -/
structure CycleTime where
  cycle : Nat
  month : Nat
  day : Nat
  hour : Nat
  min : Nat
  sec : Nat

namespace CycleTime

/-- A second before 2100. -/
structure Valid (c : CycleTime) : Prop where
  month : c.month < 48
  day : (c.day : Int) < mday.getD c.month 0
  hour : c.hour < 24
  min : c.min < 60
  sec : c.sec < 60
  year : 4 * c.cycle + c.month / 12 < 130

def seconds (c : CycleTime) : Int :=
  (1461 * c.cycle + (mday.take c.month).sum + c.day) * 86400 + c.hour * 3600 + c.min * 60 + c.sec

def calendar (c : CycleTime) (fraction : ℚ) : CalendarTime where
  year := (1970 + 4 * c.cycle + c.month / 12 : Nat)
  mon := (c.month % 12 + 1 : Nat)
  day := (c.day + 1 : Nat)
  hour := c.hour
  min := c.min
  sec := c.sec + fraction

theorem day_lt {c : CycleTime} (valid : c.Valid) :
    0 ≤ (mday.take c.month).sum ∧ (mday.take c.month).sum + c.day < 1461 := by
  have months : ∀ m < 48, 0 ≤ (mday.take m).sum ∧ (mday.take m).sum + mday.getD m 0 ≤ 1461 := by
    decide +kernel
  obtain ⟨nonneg, small⟩ := months c.month valid.month
  exact ⟨nonneg, (Int.add_lt_add_left valid.day _).trans_le small⟩

theorem time2epoch_seconds {c : CycleTime} (valid : c.Valid) (fraction : ℚ) :
    time2epoch ⟨c.seconds, fraction⟩ = c.calendar fraction := by
  obtain ⟨nonneg, small⟩ := day_lt valid
  have hour := valid.hour
  have min := valid.min
  have sec := valid.sec
  have year := valid.year
  have walked : dayAndMonth mday ((mday.take c.month).sum + c.day) 0 =
      ((c.day : Int), 0 + (c.month : Int)) :=
    dayAndMonth_take (by decide) valid.month (Int.natCast_nonneg _) valid.day 0
  rw [zero_add] at walked
  set dayOfCycle := (mday.take c.month).sum + c.day with dayOfCycle_eq
  have dayNonneg : 0 ≤ dayOfCycle := add_nonneg nonneg (Int.natCast_nonneg _)
  have whole : c.seconds = (1461 * c.cycle + dayOfCycle) * 86400 +
      (c.hour * 3600 + c.min * 60 + c.sec : Nat) := by
    rw [seconds, dayOfCycle_eq]
    push_cast
    ring
  have secondsBelow : c.hour * 3600 + c.min * 60 + c.sec < 86400 := by omega
  have days : wrapInt (c.seconds.tdiv 86400) = 1461 * c.cycle + dayOfCycle := by
    rw [Int.tdiv_eq_ediv_of_nonneg (by omega), wrapInt_of_lt (by omega) (by omega)]
    omega
  have secondOfDay : wrapInt (c.seconds - (1461 * c.cycle + dayOfCycle) * 86400) =
      (c.hour * 3600 + c.min * 60 + c.sec : Nat) := by
    rw [wrapInt_of_lt (by omega) (by omega)]
    omega
  have cycle : (1461 * c.cycle + dayOfCycle).tdiv 1461 = c.cycle := by
    rw [Int.tdiv_eq_ediv_of_nonneg (by omega)]
    omega
  have dayInCycle : (1461 * c.cycle + dayOfCycle).tmod 1461 = dayOfCycle := by
    rw [Int.tmod_eq_emod_of_nonneg (by omega)]
    omega
  have hourOfDay : ((c.hour * 3600 + c.min * 60 + c.sec : Nat) : Int).tdiv 3600 = c.hour := by
    rw [Int.tdiv_eq_ediv_of_nonneg (by omega)]
    omega
  have minOfHour : (((c.hour * 3600 + c.min * 60 + c.sec : Nat) : Int).tmod 3600).tdiv 60 =
      c.min := by
    rw [Int.tmod_eq_emod_of_nonneg (by omega), Int.tdiv_eq_ediv_of_nonneg (by omega)]
    omega
  have secOfMin : ((c.hour * 3600 + c.min * 60 + c.sec : Nat) : Int).tmod 60 = c.sec := by
    rw [Int.tmod_eq_emod_of_nonneg (by omega)]
    omega
  have yearOfCycle : (c.month : Int).tdiv 12 = (c.month / 12 : Nat) :=
    (Int.ofNat_tdiv c.month 12).symm
  have monthOfYear : (c.month : Int).tmod 12 = (c.month % 12 : Nat) :=
    (Int.ofNat_tmod c.month 12).symm
  rw [time2epoch]
  dsimp only
  rw [days, secondOfDay, dayInCycle, walked, cycle, calendar]
  dsimp only
  rw [hourOfDay, minOfHour, secOfMin, yearOfCycle, monthOfYear, CalendarTime.mk.injEq]
  refine ⟨?_, ?_, ?_, ?_, ?_, ?_⟩
  · rw [mul_comm (c.cycle : Int)]
    exact_mod_cast rfl
  · exact_mod_cast rfl
  · exact_mod_cast rfl
  · exact_mod_cast rfl
  · exact_mod_cast rfl
  · exact_mod_cast rfl

/-- The table of twelve months and the leap-year terms give the first days of the 48 months. -/
theorem doy_month {m : Nat} (month : m < 48) :
    365 * (m / 12 : Nat) + ((m / 12 : Nat) + 1 : Int).tdiv 4 +
      [1, 32, 60, 91, 121, 152, 182, 213, 244, 274, 305, 335].getD (m % 12) (0 : Int) - 1 +
      (if m / 12 = 2 ∧ m % 12 ≥ 2 then 1 else 0) = (mday.take m).sum := by
  have months : ∀ m < 48, 365 * (m / 12 : Nat) + ((m / 12 : Nat) + 1 : Int).tdiv 4 +
      [1, 32, 60, 91, 121, 152, 182, 213, 244, 274, 305, 335].getD (m % 12) (0 : Int) - 1 +
      (if m / 12 = 2 ∧ m % 12 ≥ 2 then 1 else 0) = (mday.take m).sum := by
    decide +kernel
  exact months m month

theorem epoch2time_calendar {c : CycleTime} (valid : c.Valid) {fraction : ℚ} (nonneg : 0 ≤ fraction)
    (below : fraction < 1) : epoch2time (c.calendar fraction) = ⟨c.seconds, fraction⟩ := by
  have month := valid.month
  have year := valid.year
  have table := doy_month month
  have floor : ⌊(c.sec : ℚ) + fraction⌋ = c.sec := by
    rw [Int.floor_natCast_add, Int.floor_eq_zero_iff.mpr ⟨nonneg, below⟩, add_zero]
  have leapYears : (((1970 + 4 * c.cycle + c.month / 12 : Nat) : Int) - 1969).tdiv 4 =
      c.cycle + ((c.month / 12 : Nat) + 1 : Int).tdiv 4 := by
    rw [Int.tdiv_eq_ediv_of_nonneg (by omega), Int.tdiv_eq_ediv_of_nonneg (by omega)]
    omega
  have leap : (((1970 + 4 * c.cycle + c.month / 12 : Nat) : Int).tmod 4 = 0 ∧
      ((c.month % 12 + 1 : Nat) : Int) ≥ 3) ↔ c.month / 12 = 2 ∧ c.month % 12 ≥ 2 := by
    rw [Int.tmod_eq_emod_of_nonneg (by omega)]
    omega
  have index : (((c.month % 12 + 1 : Nat) : Int) - 1).toNat = c.month % 12 := by omega
  rw [epoch2time, calendar]
  simp only [truncate_natCast]
  rw [if_neg (by omega), floor, leapYears, index, GTime.mk.injEq]
  simp only [leap]
  constructor
  · rw [seconds, ← table]
    push_cast
    ring
  · rw [Int.cast_natCast, add_sub_cancel_left]

theorem exists_seconds {n : Int} (first : 0 ≤ n) (last : n < endOf2099) :
    ∃ c : CycleTime, c.Valid ∧ n = c.seconds := by
  rw [endOf2099] at last
  obtain ⟨m, d, month, dayNonneg, day, dayOfCycle⟩ :=
    exists_month mday (show 0 ≤ n / 86400 % 1461 by omega)
      ((show n / 86400 % 1461 < 1461 by omega).trans_le (by decide))
  have secondCycles : ∀ m < 48, m / 12 < 2 ∨ 730 ≤ (mday.take m).sum := by decide +kernel
  have years := secondCycles m month
  refine ⟨⟨(n / 86400 / 1461).toNat, m, d.toNat, (n % 86400 / 3600).toNat,
    (n % 3600 / 60).toNat, (n % 60).toNat⟩, ⟨month, ?_, ?_, ?_, ?_, ?_⟩, ?_⟩
  · rwa [Int.toNat_of_nonneg dayNonneg]
  · dsimp only
    omega
  · dsimp only
    omega
  · dsimp only
    omega
  · dsimp only
    change m < 48 at month
    omega
  · rw [seconds]
    dsimp only
    omega

end CycleTime

/-! ## Valid calendar times -/

def daysInMonth (year mon : Nat) : Nat :=
  let leap := year % 4 = 0 ∧ (year % 100 ≠ 0 ∨ year % 400 = 0)
  [31, if leap then 29 else 28, 31, 30, 31, 30, 31, 31, 30, 31, 30, 31].getD (mon - 1) 0

/-- A calendar date and a time of day. -/
structure CalendarTime.IsDate (ep : CalendarTime) (year mon day hour min : Nat) : Prop where
  fields : ep = ⟨year, mon, day, hour, min, ep.sec⟩
  ofYear : 1 ≤ mon ∧ mon ≤ 12
  ofMonth : 1 ≤ day ∧ day ≤ daysInMonth year mon
  ofDay : hour < 24
  ofHour : min < 60
  ofMin : 0 ≤ ep.sec ∧ ep.sec < 60

theorem daysInMonth_cycle {c m : Nat} (month : m < 48) (year : 4 * c + m / 12 < 130) :
    (daysInMonth (1970 + 4 * c + m / 12) (m % 12 + 1) : Int) = mday.getD m 0 := by
  have leap : ((1970 + 4 * c + m / 12) % 4 = 0 ∧ ((1970 + 4 * c + m / 12) % 100 ≠ 0 ∨
      (1970 + 4 * c + m / 12) % 400 = 0)) ↔ m / 12 = 2 := by omega
  have months : ∀ m < 48, (([31, if m / 12 = 2 then 29 else 28, 31, 30, 31, 30, 31, 31, 30, 31, 30,
      31].getD (m % 12) 0 : Nat) : Int) = mday.getD m 0 := by
    decide +kernel
  rw [daysInMonth]
  simp only [leap, Nat.add_sub_cancel]
  exact months m month

theorem CycleTime.calendar_isDate {c : CycleTime} (valid : c.Valid) {fraction : ℚ}
    (nonneg : 0 ≤ fraction) (below : fraction < 1) :
    (c.calendar fraction).IsDate (1970 + 4 * c.cycle + c.month / 12) (c.month % 12 + 1) (c.day + 1)
      c.hour c.min := by
  have day := valid.day
  rw [← daysInMonth_cycle valid.month valid.year] at day
  have sec : (c.sec : ℚ) + 1 ≤ 60 := by exact_mod_cast valid.sec
  have secNonneg : (0 : ℚ) ≤ c.sec := Nat.cast_nonneg _
  refine ⟨rfl, by omega, by omega, valid.hour, valid.min, ?_, ?_⟩
  · exact add_nonneg secNonneg nonneg
  · rw [calendar]
    linarith

theorem CycleTime.exists_calendar {ep : CalendarTime} {year mon day hour min : Nat}
    (date : ep.IsDate year mon day hour min) (first : 1970 ≤ year) (last : year ≤ 2099) :
    ∃ (c : CycleTime) (fraction : ℚ), c.Valid ∧ 0 ≤ fraction ∧ fraction < 1 ∧
      ep = c.calendar fraction := by
  obtain ⟨monFirst, monLast⟩ := date.ofYear
  obtain ⟨dayFirst, dayLast⟩ := date.ofMonth
  obtain ⟨secNonneg, secBelow⟩ := date.ofMin
  obtain ⟨cycle, k, small, rfl⟩ : ∃ cycle k, k < 4 ∧ year = 1970 + 4 * cycle + k :=
    ⟨(year - 1970) / 4, (year - 1970) % 4, by omega, by omega⟩
  obtain ⟨m, within, rfl⟩ : ∃ m, m < 12 ∧ mon = m + 1 := ⟨mon - 1, by omega, by omega⟩
  obtain ⟨day, rfl⟩ : ∃ d, day = d + 1 := ⟨day - 1, by omega⟩
  have yearOfCycle : (12 * k + m) / 12 = k := by omega
  have monthOfYear : (12 * k + m) % 12 = m := by omega
  have days := daysInMonth_cycle (c := cycle) (m := 12 * k + m) (by omega) (by omega)
  rw [yearOfCycle, monthOfYear] at days
  obtain ⟨sec, whole⟩ := Int.eq_ofNat_of_zero_le (Int.floor_nonneg.mpr secNonneg)
  have minute : ⌊ep.sec⌋ < 60 := Int.floor_lt.mpr (by exact_mod_cast secBelow)
  refine ⟨⟨cycle, 12 * k + m, day, hour, min, sec⟩, ep.sec - ⌊ep.sec⌋,
    ⟨by dsimp only; omega, by dsimp only; omega, date.ofDay, date.ofHour, by dsimp only; omega,
      by dsimp only; omega⟩, Int.fract_nonneg ep.sec, Int.fract_lt_one ep.sec, ?_⟩
  rw [date.fields, calendar]
  dsimp only
  rw [yearOfCycle, monthOfYear, whole, Int.cast_natCast, add_sub_cancel]

/-- From 1970 to the end of 2099 calendar times and times determine each other. -/
theorem calendar_round_trip :
    (∀ t : GTime, 0 ≤ t.time → t.time < endOf2099 → t.Normal →
      epoch2time (time2epoch t) = t ∧
        ∃ year mon day hour min, (time2epoch t).IsDate year mon day hour min) ∧
    ∀ (ep : CalendarTime) (year mon day hour min : Nat), ep.IsDate year mon day hour min →
      1970 ≤ year → year ≤ 2099 → time2epoch (epoch2time ep) = ep := by
  refine ⟨fun t first last normal => ?_, fun ep year mon day hour min date first last => ?_⟩
  · obtain ⟨time, fraction⟩ := t
    obtain ⟨c, valid, rfl⟩ := CycleTime.exists_seconds first last
    rw [c.time2epoch_seconds valid]
    exact ⟨c.epoch2time_calendar valid normal.nonneg normal.below,
      _, _, _, _, _, c.calendar_isDate valid normal.nonneg normal.below⟩
  · obtain ⟨c, fraction, valid, nonneg, below, rfl⟩ := CycleTime.exists_calendar date first last
    rw [c.epoch2time_calendar valid nonneg below, c.time2epoch_seconds valid]

theorem calendar_round_trip_leapDay :
    time2epoch (epoch2time ⟨2000, 2, 29, 23, 59, 59 + 1 / 2⟩) = ⟨2000, 2, 29, 23, 59, 59 + 1 / 2⟩ :=
  calendar_round_trip.2 _ 2000 2 29 23 59
    ⟨rfl, by decide, by decide, by decide, by decide, by norm_num, by norm_num⟩ (by decide) (by decide)

end GnssParser
