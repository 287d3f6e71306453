import Mathlib.Tactic

/-!
# GNSS time

The time type and conversions of `gnss_utility.cpp`, with doubles as exact rationals.
-/

namespace GnssParser

/-- `gtime_t`: whole seconds since 1970 and a fraction. -/
structure GTime where
  time : Int
  sec : ℚ
  deriving DecidableEq

/-- The six doubles `{year, month, day, hour, min, sec}` of a calendar time. -/
structure CalendarTime where
  year : ℚ
  mon : ℚ
  day : ℚ
  hour : ℚ
  min : ℚ
  sec : ℚ

/-- The conversion `(int)x` of a double. -/
def truncate (x : ℚ) : Int := x.num.tdiv x.den

/-- Two's complement wrap of an `int` result. -/
def wrapInt (x : Int) : Int := x.bmod (2 ^ 32)

def gpst0 : CalendarTime := ⟨1980, 1, 6, 0, 0, 0⟩
def gst0 : CalendarTime := ⟨1999, 8, 22, 0, 0, 0⟩
def bdt0 : CalendarTime := ⟨2006, 1, 1, 0, 0, 0⟩

def epoch2time (ep : CalendarTime) : GTime :=
  let doy : List Int := [1, 32, 60, 91, 121, 152, 182, 213, 244, 274, 305, 335]
  let year := truncate ep.year
  let mon := truncate ep.mon
  let day := truncate ep.day
  if year < 1970 ∨ year > 2099 ∨ mon < 1 ∨ mon > 12 then ⟨0, 0⟩
  else
    -- leap year if year % 4 = 0 in 1901-2099
    let days := (year - 1970) * 365 + (year - 1969).tdiv 4 + doy.getD (mon - 1).toNat 0 + day - 2 +
      (if year.tmod 4 = 0 ∧ mon ≥ 3 then 1 else 0)
    let sec := ⌊ep.sec⌋
    ⟨days * 86400 + truncate ep.hour * 3600 + truncate ep.min * 60 + sec, ep.sec - sec⟩

/-- The days of the months of four years. -/
def mday : List Int := [
  31, 28, 31, 30, 31, 30, 31, 31, 30, 31, 30, 31, 31, 28, 31, 30, 31, 30, 31, 31, 30, 31, 30, 31,
  31, 29, 31, 30, 31, 30, 31, 31, 30, 31, 30, 31, 31, 28, 31, 30, 31, 30, 31, 31, 30, 31, 30, 31]

/-- The day and the month after the full months of a number of days. -/
def dayAndMonth : List Int → Int → Int → Int × Int
  | [], day, mon => (day, mon)
  | days :: months, day, mon =>
      if day ≥ days then dayAndMonth months (day - days) (mon + 1) else (day, mon)

def time2epoch (t : GTime) : CalendarTime :=
  let days := wrapInt (t.time.tdiv 86400)
  let sec := wrapInt (t.time - days * 86400)
  let (day, mon) := dayAndMonth mday (days.tmod 1461) 0
  { year := (1970 + days.tdiv 1461 * 4 + mon.tdiv 12 : Int)
    mon := (mon.tmod 12 + 1 : Int)
    day := (day + 1 : Int)
    hour := (sec.tdiv 3600 : Int)
    min := ((sec.tmod 3600).tdiv 60 : Int)
    sec := (sec.tmod 60 : Int) + t.sec }

/-- Only times of week in `[-1E9, 1E9]` are used. -/
def admitTow (tow : ℚ) : ℚ := if tow < -1E9 ∨ tow > 1E9 then 0 else tow

def gpst2time (week : UInt32) (tow : ℚ) : GTime :=
  let t := epoch2time gpst0
  let tow := admitTow tow
  -- `week` is unsigned, and so is the sum
  ⟨t.time + (86400 * 7 * week + UInt32.ofInt (truncate tow)).toNat, tow - truncate tow⟩

/-- The time of week in GPS time and the week. -/
def time2gpst (t : GTime) : ℚ × UInt32 :=
  let t0 := epoch2time gpst0
  let sec := t.time - t0.time
  let w := UInt32.ofInt (sec.tdiv (86400 * 7))
  (((sec - (w * 86400 * 7).toNat : Int) : ℚ) + t.sec, w)

/-- `gst2time` and `bdt2time` add a signed week count to their own epoch. -/
def signedWeekTime (epoch : CalendarTime) (week : Int) (tow : ℚ) : GTime :=
  let t := epoch2time epoch
  let tow := admitTow tow
  ⟨t.time + wrapInt (wrapInt (86400 * 7 * week) + truncate tow), tow - truncate tow⟩

def gst2time (week : Int) (tow : ℚ) : GTime := signedWeekTime gst0 week tow

def bdt2time (week : Int) (tow : ℚ) : GTime := signedWeekTime bdt0 week tow

/-- `time2gst` and `time2bdt`: the time of week and a signed week count from their epoch. -/
def signedTimeWeek (epoch : CalendarTime) (t : GTime) : ℚ × Int :=
  let t0 := epoch2time epoch
  let sec := t.time - t0.time
  let w := wrapInt (sec.tdiv (86400 * 7))
  (((sec - wrapInt (wrapInt (w * 86400) * 7) : Int) : ℚ) + t.sec, w)

def time2gst (t : GTime) : ℚ × Int := signedTimeWeek gst0 t

def time2bdt (t : GTime) : ℚ × Int := signedTimeWeek bdt0 t

def timeDiff (t1 t2 : GTime) : ℚ := ((t1.time - t2.time : Int) : ℚ) + t1.sec - t2.sec

/-- The source casts the floor to `int`, which keeps it while `t.sec + sec` is in [-2 ^ 31, 2 ^ 31). -/
def timeAdd (t : GTime) (sec : ℚ) : GTime :=
  let s := t.sec + sec
  ⟨t.time + ⌊s⌋, s - ⌊s⌋⟩

/-! ## Leap seconds -/

/-- The rows of `leaps` before its zero row: a date and `utc - gpst`. -/
def leaps : List (CalendarTime × ℚ) := [
  (⟨2017, 1, 1, 0, 0, 0⟩, -18),
  (⟨2015, 7, 1, 0, 0, 0⟩, -17),
  (⟨2012, 7, 1, 0, 0, 0⟩, -16),
  (⟨2009, 1, 1, 0, 0, 0⟩, -15),
  (⟨2006, 1, 1, 0, 0, 0⟩, -14),
  (⟨1999, 1, 1, 0, 0, 0⟩, -13),
  (⟨1997, 7, 1, 0, 0, 0⟩, -12),
  (⟨1996, 1, 1, 0, 0, 0⟩, -11),
  (⟨1994, 7, 1, 0, 0, 0⟩, -10),
  (⟨1993, 7, 1, 0, 0, 0⟩, -9),
  (⟨1992, 7, 1, 0, 0, 0⟩, -8),
  (⟨1991, 1, 1, 0, 0, 0⟩, -7),
  (⟨1990, 1, 1, 0, 0, 0⟩, -6),
  (⟨1988, 1, 1, 0, 0, 0⟩, -5),
  (⟨1985, 7, 1, 0, 0, 0⟩, -4),
  (⟨1983, 7, 1, 0, 0, 0⟩, -3),
  (⟨1982, 7, 1, 0, 0, 0⟩, -2),
  (⟨1981, 7, 1, 0, 0, 0⟩, -1)]

def gpst2utc (t : GTime) : GTime :=
  (leaps.findSome? fun (date, offset) =>
    let tu := timeAdd t offset
    if timeDiff tu (epoch2time date) ≥ 0 then some tu else none).getD t

def utc2gpst (t : GTime) : GTime :=
  (leaps.findSome? fun (date, offset) =>
    if timeDiff t (epoch2time date) ≥ 0 then some (timeAdd t (-offset)) else none).getD t

/-! ## The reference epochs -/

theorem epoch2time_gpst0 : epoch2time gpst0 = ⟨315964800, 0⟩ := by decide +kernel

theorem epoch2time_gst0 : epoch2time gst0 = ⟨935280000, 0⟩ := by decide +kernel

theorem epoch2time_bdt0 : epoch2time bdt0 = ⟨1136073600, 0⟩ := by decide +kernel

@[simp] theorem truncate_natCast (n : Nat) : truncate n = n := by simp [truncate]

end GnssParser
