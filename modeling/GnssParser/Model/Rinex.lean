import GnssParser.Lib.Text
import GnssParser.Model.Measurement

/-!
# RINEX observation files

`obs2rinex` and `rinex2obs`: the text of an observation file, written and read.
-/

namespace GnssParser
open Text Text.Run

/-! ## Bands -/

/-- The smallest and the largest frequency of a band of a system. -/
def bandLimits (sys bandIdx : Nat) : ℚ × ℚ :=
  if sys = sysGps ∧ bandIdx = 0 then (freq1, freq1)
  else if sys = sysGps ∧ bandIdx = 1 then (freq2, freq2)
  else if sys = sysGlo ∧ bandIdx = 0 then (freq1Glo - 7 * dfrq1Glo, freq1Glo + 6 * dfrq1Glo)
  else if sys = sysGlo ∧ bandIdx = 1 then (freq2Glo - 7 * dfrq2Glo, freq2Glo + 6 * dfrq2Glo)
  else if sys = sysGal ∧ bandIdx = 0 then (freq1, freq1)
  else if sys = sysGal ∧ bandIdx = 1 then (freq7, freq7)
  else if sys = sysBds ∧ bandIdx = 0 then (freq1Bds, freq1Bds)
  else if sys = sysBds ∧ bandIdx = 1 then (freq2Bds, freq2Bds)
  else (0, 0)

def InBand (sys bandIdx : Nat) (freq : ℚ) : Prop :=
  (bandLimits sys bandIdx).1 ≤ freq ∧ freq ≤ (bandLimits sys bandIdx).2

instance (sys bandIdx : Nat) (freq : ℚ) : Decidable (InBand sys bandIdx freq) :=
  inferInstanceAs (Decidable (_ ∧ _))

/-- The first frequency of the observation in a band and its index, -1 and none without one. -/
def indexFreq (obs : Obs) (bandIdx : Nat) : ℚ × Option Nat :=
  let sys := (satsys obs.sat).1
  match obs.freqs.findIdx? fun freq => InBand sys bandIdx freq with
  | some i => (obs.freqs.getD i 0, some i)
  | none => (-1, none)

/-! ## Writing -/

def sat2str (sat : Nat) : List Char :=
  let (sys, prn) := satsys sat
  let number := zeroPad 2 (natText prn)
  if sys = sysGps then 'G' :: number
  else if sys = sysGlo then 'R' :: number
  else if sys = sysBds then 'C' :: number
  else if sys = sysGal then 'E' :: number
  else if sys = sysSbs then 'S' :: number
  else if sys = sysQzs then 'J' :: number
  else []

/-- `round`, away from zero at a half. -/
def roundAway (x : ℚ) : Int := if x < 0 then -⌊-x + 1 / 2⌋ else ⌊x + 1 / 2⌋

/-- Adds the GLONASS channel of one frequency unless the satellite has one. -/
def addFreqo (sat : Nat) (sat2freqo : List (Nat × Int)) (freq : ℚ) : List (Nat × Int) :=
  let emplace (freqo : Int) :=
    if sat2freqo.any fun entry => entry.1 = sat then sat2freqo
    else sat2freqo.orderedInsert (fun a b => a.1 ≤ b.1) (sat, freqo)
  if freq > freq1Glo - 8 * dfrq1Glo ∧ freq < freq1Glo + 7 * dfrq1Glo then
    emplace (roundAway ((freq - freq1Glo) / dfrq1Glo))
  else if freq > freq2Glo - 8 * dfrq2Glo ∧ freq < freq2Glo + 7 * dfrq2Glo then
    emplace (roundAway ((freq - freq2Glo) / dfrq2Glo))
  else sat2freqo

def getGloFreqo (gnssMeas : List (List Obs)) : List (Nat × Int) :=
  gnssMeas.flatten.foldl (fun sat2freqo obs =>
    if (satsys obs.sat).1 ≠ sysGlo then sat2freqo
    else obs.freqs.foldl (addFreqo obs.sat) sat2freqo) []

/-- What `gmtime` gives. -/
structure UtcDate where
  year : Int
  mon : Int
  mday : Int
  hour : Int
  min : Int
  sec : Int

def blanks (n : Nat) : List Char := List.replicate n ' '

def headerLine (text : List Char) (label : String) : List Char :=
  padRight 60 text ++ padRight 20 label.toList

def dateStr (now : UtcDate) : List Char :=
  padLeft 4 (intText now.year) ++ zeroPad 2 (intText now.mon) ++ zeroPad 2 (intText now.mday) ++
    [' '] ++ zeroPad 2 (intText now.hour) ++ zeroPad 2 (intText now.min) ++
    zeroPad 2 (intText now.sec) ++ " UTC".toList

def obsTypesLine (sysChar : Char) (types : List String) : List Char :=
  sysChar :: blanks 2 ++ padLeft 3 (natText types.length) ++
    (types.flatMap fun type => ' ' :: padLeft 3 type.toList) ++ blanks 20 ++ blanks 2 ++
    padRight 20 "SYS / # / OBS TYPES ".toList

def timeLine (t : GTime) (label : String) : List Char :=
  let ep := time2epoch t
  blanks 2 ++ zeroPad 4 (fixedText 0 ep.year) ++ padLeft 6 (fixedText 0 ep.mon) ++
    padLeft 6 (fixedText 0 ep.day) ++ padLeft 6 (fixedText 0 ep.hour) ++
    padLeft 6 (fixedText 0 ep.min) ++ padLeft 13 (fixedText 7 ep.sec) ++ blanks 5 ++
    padRight 12 "GPS".toList ++ padRight 20 label.toList

/-- The search for the first epoch that is not empty; it runs off the end if there is none. -/
def firstObs (gnssMeas : List (List Obs)) : Checked Obs :=
  match gnssMeas.find? fun meas => !meas.isEmpty with
  | some (obs :: _) => .ok obs
  | _ => .error (.outOfBounds gnssMeas.length gnssMeas.length)

/-- The GLONASS slot lines, eight satellites a line. -/
def slotLines (sat2freqo : List (Nat × Int)) : List (List Char) :=
  let count := sat2freqo.length
  (List.range (if count = 0 then 1 else (count - 1) / 8 + 1)).map fun i =>
    (if i = 0 then padLeft 3 (natText count) else blanks 3) ++
    ((List.range 8).flatMap fun j =>
      match sat2freqo[i * 8 + j]? with
      | some (sat, freqo) => ' ' :: padLeft 3 (sat2str sat) ++ ' ' :: padLeft 2 (intText freqo)
      | none => ' ' :: blanks 6) ++
    ' ' :: padRight 20 "GLONASS SLOT / FRQ #".toList

def versionLine : List Char :=
  padLeft 9 (fixedText 2 3.04) ++ blanks 11 ++ padRight 20 "OBSERVATION DATA".toList ++
    padRight 20 "M: Mixed".toList ++ padRight 20 "RINEX VERSION / TYPE".toList

def dateLine (now : UtcDate) : List Char :=
  padRight 20 "gnss_comm obs2rinex".toList ++ blanks 20 ++ padRight 20 ((dateStr now).take 20) ++
    padRight 20 "PGM / RUN BY / DATE".toList

/-- The header after the date around the lines of the times and of the GLONASS channels. -/
def headerAround (times slots : List (List Char)) : List (List Char) :=
  [headerLine [] "MARKER NAME",
    headerLine [] "MARKER NUMBER",
    headerLine [] "MARKER TYPE",
    headerLine [] "OBSERVER / AGENCY",
    headerLine [] "REC # / TYPE / VERS",
    headerLine [] "ANT # / TYPE",
    headerLine [] "APPROX POSITION XYZ",
    headerLine [] "ANTENNA: DELTA H/E/N",
    obsTypesLine 'G' ["C1C", "L1C", "D1C", "S1C", "C2S", "L2S", "D2S", "S2S"],
    obsTypesLine 'R' ["C1C", "L1C", "D1C", "S1C", "C2C", "L2C", "D2C", "S2C"],
    obsTypesLine 'E' ["C1C", "L1C", "D1C", "S1C", "C7Q", "L7Q", "D7Q", "S7Q"],
    obsTypesLine 'C' ["C2I", "L2I", "D2I", "S2I", "C7I", "L7I", "D7I", "S7I"]] ++
  times ++
  [headerLine ['G'] "SYS / PHASE SHIFT",
    headerLine ['R'] "SYS / PHASE SHIFT",
    headerLine ['E'] "SYS / PHASE SHIFT",
    headerLine ['C'] "SYS / PHASE SHIFT"] ++
  slots ++
  [" C1C    0.000 C1P    0.000 C2C    0.000 C2P    0.000        GLONASS COD/PHS/BIS ".toList,
    headerLine [] "END OF HEADER"]

def headerAfterDate (times : List (List Char)) (sat2freqo : List (Nat × Int)) : List (List Char) :=
  headerAround times (slotLines sat2freqo)

def obsHeader (now : UtcDate) (gnssMeas : List (List Obs)) : Checked (List (List Char)) := do
  let times ←
    if gnssMeas.isEmpty then pure []
    else do
      let front ← firstObs gnssMeas
      let back ← firstObs gnssMeas.reverse
      pure [timeLine front.time "TIME OF FIRST OBS", timeLine back.time "TIME OF LAST OBS"]
  pure (versionLine :: dateLine now :: headerAfterDate times (getGloFreqo gnssMeas))

def epochLine (t : GTime) (count : Nat) : List Char :=
  let ep := time2epoch t
  "> ".toList ++ zeroPad 4 (fixedText 0 ep.year) ++ ' ' :: padLeft 2 (fixedText 0 ep.mon) ++
    ' ' :: padLeft 2 (fixedText 0 ep.day) ++ ' ' :: padLeft 2 (fixedText 0 ep.hour) ++
    ' ' :: padLeft 2 (fixedText 0 ep.min) ++ padLeft 11 (fixedText 7 ep.sec) ++ blanks 2 ++
    intText 0 ++ padLeft 3 (natText count) ++ blanks 21

/-- `"%14.3f%2s"` -/
def valueText (value : Ieee) : List Char := padLeft 14 (doubleText 3 value) ++ blanks 2

def signalText (psr cp dopp : Ieee) (cn0 : ℚ) : List Char :=
  valueText psr ++ valueText cp ++ valueText dopp ++ valueText (.finite cn0)

def bandColumns (obs : Obs) (k : Nat) : Checked (List Char) :=
  match indexFreq obs k with
  | (freq, freqIdx) =>
      if freq < 0 then pure (blanks 64)
      else do
        let i := freqIdx.getD 0
        pure (signalText (← Checked.loadAt obs.psr i) (← Checked.loadAt obs.cp i)
          (← Checked.loadAt obs.dopp i) (← Checked.loadAt obs.cn0 i))

def dataLine (obs : Obs) : Checked (List Char) := do
  pure (padLeft 3 (sat2str obs.sat) ++ (← bandColumns obs 0) ++ (← bandColumns obs 1))

/-- The lines of an epoch, sorted by satellite number. -/
def epochLines (meas : List Obs) : Checked (List (List Char)) :=
  match meas with
  | [] => pure []
  | first :: _ => do
      let data ← (meas.insertionSort fun a b => a.sat ≤ b.sat).mapM dataLine
      pure (epochLine first.time meas.length :: data)

def obs2rinex (now : UtcDate) (gnssMeas : List (List Obs)) : Checked (List Char) := do
  let header ← obsHeader now gnssMeas
  let data ← gnssMeas.mapM epochLines
  pure (unlines (header ++ data.flatten))

/-! ## Reading -/

def char2sys (c : Char) : Option Nat :=
  if c = 'G' then some sysGps
  else if c = 'C' then some sysBds
  else if c = 'R' then some sysGlo
  else if c = 'E' then some sysGal
  else none

def type2freq : List (List Char × ℚ) := [
  (['G', '1'], freq1), (['G', '2'], freq2), (['G', '5'], freq5),
  (['R', '1'], freq1Glo), (['R', '2'], freq2Glo), (['R', '3'], 1.202025E9),
  (['R', '4'], 1.600995E9), (['R', '6'], 1.248060E9),
  (['E', '1'], freq1), (['E', '5'], freq5), (['E', '6'], freq6), (['E', '7'], freq7),
  (['E', '8'], freq8),
  (['C', '1'], freq1), (['C', '2'], freq1Bds), (['C', '5'], freq5), (['C', '6'], freq3Bds),
  (['C', '7'], freq2Bds), (['C', '8'], freq8)]

/-- `map.at(key)` -/
def mapAt {α β : Type} [DecidableEq α] (map : List (α × β)) (key : α) : Except Exception β :=
  match map.lookup key with
  | some value => .ok value
  | none => .error .outOfRange

/-- `list[i] = value` -/
def storeAt {α : Type} (list : List α) (i : Nat) (value : α) : Checked (List α) :=
  if i < list.length then .ok (list.set i value) else .error (.outOfBounds i list.length)

/-- The observation of a line and the index of every frequency it has. -/
structure LineState where
  obs : Obs
  freq2idx : List (ℚ × Nat) := []
  lineOffset : Nat := 3

/-- The index of a frequency, added if it is new. -/
def LineState.freqIndex (s : LineState) (freq : ℚ) : LineState × Nat :=
  match s.freq2idx.lookup freq with
  | some i => (s, i)
  | none =>
      let i := s.obs.freqs.length
      ({ s with
        obs := { s.obs with freqs := s.obs.freqs ++ [freq] }
        freq2idx := (freq, i) :: s.freq2idx }, i)

/-- Stores a value in the vector its type names. -/
def Obs.store (obs : Obs) (kind : Char) (i : Nat) (value : Ieee) : Run Obs :=
  if kind = 'L' then do
    pure { obs with cp := (← checked (storeAt obs.cp i value)) }
  else if kind = 'C' then do
    pure { obs with psr := (← checked (storeAt obs.psr i value)) }
  else if kind = 'D' then do
    pure { obs with dopp := (← checked (storeAt obs.dopp i value)) }
  else if kind = 'S' then do
    -- a C/N0 is kept as an exact rational
    pure { obs with cn0 := (← checked (storeAt obs.cn0 i value.toRat)) }
  else .error .aborted

/-- One field of a data line. -/
def readField (sysChar : Char) (line : List Char) (s : LineState) (type : List Char) :
    Run LineState := do
  let field ← throwing (substr line s.lineOffset 14)
  let s := { s with lineOffset := s.lineOffset + 14 + 2 }
  if field.all fun c => c = ' ' then pure s
  else do
    let value ← throwing (stod field)
    let freq ← throwing (mapAt type2freq [sysChar, ← throwing (charAt type 1)])
    let (s, freqIdx) := s.freqIndex freq
    let obs ← s.obs.store (← throwing (charAt type 0)) freqIdx value
    pure { s with obs }

/-- Fills a vector with a default up to the number of frequencies. -/
def fillTo {α : Type} (numFreqs : Nat) (value : α) (list : List α) : Run (List α) := do
  fatalIf (numFreqs < list.length)
  pure (list ++ List.replicate (numFreqs - list.length) value)

abbrev Sys2Type := List (Char × List (List Char))

/-- The observation of a data line; none for another system. -/
def rinexLine2obs (line : List Char) (sys2type : Sys2Type) : Run (Option Obs) := do
  let sysChar ← throwing (charAt line 0)
  match char2sys sysChar with
  | none => pure none
  | some sys => do
      let prn ← throwing (stoi (← throwing (substr line 1 2)))
      let types ← throwing (mapAt sys2type sysChar)
      let s ← types.foldlM (readField sysChar line)
        { obs := { time := ⟨0, 0⟩, sat := satNo sys (UInt32.ofInt prn).toNat } }
      let obs := s.obs
      let n := obs.freqs.length
      let cn0 ← fillTo n 0 obs.cn0
      let lli ← fillTo n 0 obs.lli
      let code ← fillTo n 0 obs.code
      let psr ← fillTo n (.finite 0) obs.psr
      let psrStd ← fillTo n 0 obs.psrStd
      let cp ← fillTo n (.finite 0) obs.cp
      let cpStd ← fillTo n 0 obs.cpStd
      let dopp ← fillTo n (.finite 0) obs.dopp
      let doppStd ← fillTo n 0 obs.doppStd
      let status ← fillTo n 0x0F obs.status
      pure (some { obs with cn0, lli, code, psr, psrStd, cp, cpStd, dopp, doppStd, status })

/-- The observation types of one header line, for the system it or an earlier line names. -/
def readObsTypes (line : List Char) (sys2type : Sys2Type) (sysChar : Char) :
    Run (Sys2Type × Char) := do
  let first ← throwing (charAt line 0)
  let (sys2type, sysChar) :=
    if first ≠ ' ' then
      (if (sys2type.lookup first).isNone then (first, []) :: sys2type else sys2type, first)
    else (sys2type, sysChar)
  let sys2type ← (List.range 13).foldlM (fun sys2type i => do
    let type ← throwing (substr line (7 + 4 * i) 3)
    if type ≠ blanks 3 then do
      let types ← throwing (mapAt sys2type sysChar)
      pure (sys2type.map fun entry => if entry.1 = sysChar then (sysChar, types ++ [type]) else entry)
    else pure sys2type) sys2type
  pure (sys2type, sysChar)

/-- The header of a file and the lines after it; none for another version. -/
def readHeader : List (List Char) → Sys2Type → Char → Run (Option (Sys2Type × List (List Char)))
  | [], sys2type, _ => pure (some (sys2type, []))
  | line :: rest, sys2type, sysChar => do
      if contains "RINEX VERSION / TYPE".toList line ∧ ¬ contains "3.04".toList line then pure none
      else if contains "SYS / # / OBS TYPES".toList line then do
        let (sys2type, sysChar) ← readObsTypes line sys2type sysChar
        readHeader rest sys2type sysChar
      else if contains "END OF HEADER".toList line then pure (some (sys2type, rest))
      else readHeader rest sys2type sysChar

def readEpochTime (line : List Char) : Run GTime := do
  let double (pos count : Nat) : Run ℚ := do
    match ← throwing (stod (← throwing (substr line pos count))) with
    | .finite x => pure x
    | _ => .error (.undefined .badConversion)
  let year ← double 2 4
  let mon ← double 7 2
  let day ← double 10 2
  let hour ← double 13 2
  let min ← double 16 2
  let sec ← double 18 11
  pure (epoch2time { year, mon, day, hour, min, sec })

/-- The observations of the next lines of an epoch, and the lines after them. -/
def readObs (sys2type : Sys2Type) (obsTime : GTime) :
    Nat → List (List Char) → List Obs → Run (List Obs × List (List Char))
  | 0, rest, meas => pure (meas, rest)
  | _ + 1, [], _ => .error .aborted
  | n + 1, line :: rest, meas => do
      match ← rinexLine2obs line sys2type with
      | none => readObs sys2type obsTime n rest meas
      | some obs =>
          if obs.freqs.isEmpty then readObs sys2type obsTime n rest meas
          else readObs sys2type obsTime n rest (meas ++ [{ obs with time := obsTime }])

/-- The epochs of the lines after the header; every epoch takes one line or more. -/
def readEpochs (sys2type : Sys2Type) :
    Nat → List (List Char) → List (List Obs) → Run (List (List Obs))
  | _, [], rinexMeas => pure rinexMeas
  | 0, _ :: _, rinexMeas => pure rinexMeas
  | fuel + 1, line :: rest, rinexMeas => do
      fatalIf ((← throwing (charAt line 0)) ≠ '>')
      fatalIf ((← throwing (charAt line 31)) ≠ '0')
      let obsTime ← readEpochTime line
      let numObs ← throwing (stoi (← throwing (substr line 32 3)))
      let (meas, rest) ← readObs sys2type obsTime numObs.toNat rest []
      readEpochs sys2type fuel rest (rinexMeas ++ [meas])

def rinex2obs (file : List Char) : Run (List (List Obs)) := do
  match ← readHeader (lines file) [] '\x00' with
  | none => pure []
  | some (sys2type, rest) => readEpochs sys2type rest.length rest []

end GnssParser
