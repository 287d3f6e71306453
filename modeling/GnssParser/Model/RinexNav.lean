import GnssParser.Lib.Text
import GnssParser.Model.Ephemeris

/-!
# RINEX navigation files

`rinex2ephems`: the ephemerides of a navigation file, by satellite number.
-/

namespace GnssParser
open Text Text.Run

/-! ## Numbers -/

/-- The number of a text, with `e` for its first `D`; infinities and NaNs are outside the model. -/
def str2double (numStr : List Char) : Run ℚ := do
  let tmpStr :=
    match find ['D'] numStr with
    | some dPos => numStr.take dPos ++ 'e' :: numStr.drop (dPos + 1)
    | none => numStr
  match ← throwing (stod tmpStr) with
  | .finite x => pure x
  | _ => .error (.undefined .badConversion)

def doubleAt (line : List Char) (pos : Nat) : Run ℚ := do
  str2double (← throwing (substr line pos 19))

def intAt (line : List Char) (pos count : Nat) : Run Int := do
  throwing (stoi (← throwing (substr line pos count)))

/-- `static_cast<uint32_t>(x)`, undefined where the whole part does not fit. -/
def castUInt32 (x : ℚ) : Run UInt32 :=
  if -1 < x ∧ x < 2 ^ 32 then pure (UInt32.ofNat (truncate x).toNat)
  else .error (.undefined .badConversion)

def uintAt (line : List Char) (pos : Nat) : Run UInt32 := do castUInt32 (← doubleAt line pos)

def epochAt (line : List Char) : Run CalendarTime := do
  let year ← intAt line 4 4
  let mon ← intAt line 9 2
  let day ← intAt line 12 2
  let hour ← intAt line 15 2
  let min ← intAt line 18 2
  let sec ← intAt line 21 2
  pure { year, mon, day, hour, min, sec }

def prnAt (line : List Char) : Run Nat := do
  pure (UInt32.ofInt (← intAt line 1 2)).toNat

/-! ## GLONASS records -/

def ephemSys (sysChar : Char) : Nat :=
  if sysChar = 'G' then sysGps
  else if sysChar = 'C' then sysBds
  else if sysChar = 'E' then sysGal
  else sysNone

/-- The first line of a record. -/
def ephemClock (sys : Nat) (line : List Char) : Run Ephem := do
  let prn ← prnAt line
  let toc := epoch2time (← epochAt line)
  let toc := if sys = sysBds then ⟨toc.time + 14, toc.sec⟩ else toc
  let af0 ← doubleAt line 23
  let af1 ← doubleAt line 42
  let af2 ← doubleAt line 61
  pure { sat := satNo sys prn, toc, af0, af1, af2 }

/-- The second to fifth line. -/
def ephemOrbit (sys : Nat) (line1 line2 line3 line4 : List Char) (ephem : Ephem) : Run Ephem := do
  let iode ← if sys = sysGps then uintAt line1 4 else pure ephem.iode
  let crs ← doubleAt line1 23
  let deltaN ← doubleAt line1 42
  let m0 ← doubleAt line1 61
  let cuc ← doubleAt line2 4
  let e ← doubleAt line2 23
  let cus ← doubleAt line2 42
  let sqrtA ← doubleAt line2 61
  let toeTow ← doubleAt line3 4
  let cic ← doubleAt line3 23
  let omg0 ← doubleAt line3 42
  let cis ← doubleAt line3 61
  let i0 ← doubleAt line4 4
  let crc ← doubleAt line4 23
  let omg ← doubleAt line4 42
  let omgDot ← doubleAt line4 61
  let a := sqrtA * sqrtA
  pure { ephem with iode, crs, deltaN, m0, cuc, e, cus, a, toeTow, cic, omg0, cis, i0, crc, omg, omgDot }

/-- The week of the sixth line and the last two lines. -/
def ephemTimes (sys : Nat) (line5 line6 line7 : List Char) (ephem : Ephem) : Run Ephem := do
  let week ← uintAt line5 42
  let toe :=
    if sys = sysGps ∨ sys = sysGal then gpst2time week ephem.toeTow
    else if sys = sysBds then bdt2time week.toInt32.toInt (ephem.toeTow + 14)
    else ephem.toe
  let ura ← doubleAt line6 4
  let health ← uintAt line6 23
  let tgd0 ← doubleAt line6 42
  let tgd1 ← if sys = sysBds ∨ sys = sysGal then doubleAt line6 61 else pure (getElem ephem.tgd 1 Nat.one_lt_two)
  let iodc ← if sys = sysGps then uintAt line6 61 else pure ephem.iodc
  let ttrTow ← doubleAt line7 4
  let ttr :=
    if sys = sysGps ∨ sys = sysGal then gpst2time week ttrTow
    else if sys = sysBds then bdt2time week.toInt32.toInt ttrTow
    else ephem.ttr
  let (toeTow, week) := if sys = sysBds then time2gpst toe else (ephem.toeTow, week)
  pure { ephem with week, toe, ura, health, tgd := #v[tgd0, tgd1], iodc, ttr, toeTow }

def rinexLine2ephem (ephemLines : List (List Char)) : Run Ephem :=
  match ephemLines with
  | [line0, line1, line2, line3, line4, line5, line6, line7] => do
      let sys := ephemSys (← throwing (charAt line0 0))
      fatalIf (sys = sysNone)
      let ephem ← ephemClock sys line0
      let ephem ← ephemOrbit sys line1 line2 line3 line4 ephem
      let iDot ← doubleAt line5 4
      let ephem := { ephem with iDot }
      if sys = sysGal then
        -- only I/NAV E1-B ephemerides are read to their end
        let ephemSource ← uintAt line5 23
        if ephemSource &&& 0x01 = 0 then pure ephem else ephemTimes sys line5 line6 line7 ephem
      else ephemTimes sys line5 line6 line7 ephem
  | _ => .error .aborted

/-! ## Files -/

/-- `std::map<uint32_t, std::vector<EphemBasePtr>>` -/
abbrev Sat2Ephem := Nat → Option (List EphemObject)

/-- `emplace` and `push_back` under the satellite of an ephemeris. -/
def Sat2Ephem.push (sat2ephem : Sat2Ephem) (ephem : EphemObject) : Sat2Ephem :=
  Function.update sat2ephem ephem.base.sat
    (some ((sat2ephem ephem.base.sat).getD [] ++ [ephem]))

end GnssParser
