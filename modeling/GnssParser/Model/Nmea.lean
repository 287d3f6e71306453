import GnssParser.Lib.Decimal
import GnssParser.Model.Navigation

/-!
# GGA sentences

The sentence the driver sends to the NTRIP caster for a solution.
-/

namespace GnssParser
open Text

def getNmeaFixQuality (pvtSoln : PVTSolution) : Int :=
  if ¬ pvtSoln.validFix ∨ pvtSoln.fixType < 2 then 0
  else if pvtSoln.carrSoln = 2 then 4
  else if pvtSoln.carrSoln = 1 then 5
  else if pvtSoln.diffSoln then 2
  else 1

def formatNmeaDegrees (value : ℚ) (isLatitude : Bool) : List Char :=
  let absValue := |value|
  let degrees := truncate absValue
  let minutes := (absValue - degrees) * 60
  let oss : OStream := {}
  (oss.setfill '0' |>.setw (if isLatitude then 2 else 3) |>.int degrees |>.setprecision 5
    |>.setw 8 |>.double minutes).str

def appendNmeaChecksum (sentenceBody : List Char) : List Char :=
  let checksum := sentenceBody.foldl (fun checksum ch => checksum ^^^ UInt8.ofNat ch.toNat) 0
  let oss : OStream := {}
  (oss.put ['$'] |>.put sentenceBody |>.put ['*'] |>.upper |>.hex |>.setw 2 |>.setfill '0'
    |>.int checksum.toNat |>.put ['\r', '\n']).str

def buildNmeaGgaSentence (pvtSoln : PVTSolution) : List Char :=
  let fixQuality := getNmeaFixQuality pvtSoln
  if fixQuality = 0 then []
  else
    let epoch := time2epoch (gpst2utc pvtSoln.time)
    let geoidSeparation := pvtSoln.hgt - pvtSoln.hgtMsl
    let oss : OStream := {}
    let body := oss.put "GPGGA,".toList |>.setfill '0' |>.setw 2 |>.int (truncate epoch.hour)
      |>.setw 2 |>.int (truncate epoch.min) |>.setprecision 3 |>.setw 6 |>.double epoch.sec
      |>.put [','] |>.put (formatNmeaDegrees pvtSoln.lat true)
      |>.put [','] |>.put [if pvtSoln.lat ≥ 0 then 'N' else 'S']
      |>.put [','] |>.put (formatNmeaDegrees pvtSoln.lon false)
      |>.put [','] |>.put [if pvtSoln.lon ≥ 0 then 'E' else 'W']
      |>.put [','] |>.int fixQuality
      |>.put [','] |>.setw 2 |>.int pvtSoln.numSv.toNat
      |>.put [','] |>.setprecision 1 |>.double (if pvtSoln.pDop > 0 then pvtSoln.pDop else 0)
      |>.put [','] |>.setprecision 3 |>.double pvtSoln.hgtMsl
      |>.put ",M,".toList |>.double geoidSeparation |>.put ",M,,".toList
    appendNmeaChecksum body.str

end GnssParser
