import GnssParser.Model.Subframe

/-!
# Time pulse and position messages
-/

namespace GnssParser
open Checked

structure TimePulseInfo where
  time : GTime
  utcBased : Bool
  timeSys : Nat

def parseTimePulse (msg : List UInt8) : Checked (Option TimePulseInfo) := do
  if msg.length ≠ 24 then pure none
  else do
    let payload := (msgData msg).add 6
    let towMs := doubleOfUInt (← u32 payload)
    let towSubMs := doubleOfUInt (← u32 (payload.add 4))
    let tow := towMs * 1.0e-3 + towSubMs * 1.0e-3 * (1 / 2 ^ 32)
    let week ← u16 (payload.add 12)
    let flags ← payload 14
    let refSystem := ((← payload 15) &&& 0x0F).toNat
    let timeSys :=
      if refSystem = sysGps then sysGps
      else if refSystem = sysBds then sysBds
      else if refSystem = sysGlo then sysGlo
      else if refSystem = sysGal then sysGal
      else sysNone
    pure (some {
      time := gpst2time week.toUInt32 tow
      utcBased := flags &&& 0x01 ≠ 0
      timeSys })

structure PVTSolution where
  time : GTime
  fixType : UInt8
  validFix : Bool
  diffSoln : Bool
  carrSoln : UInt8
  numSv : UInt8
  lat : ℚ
  lon : ℚ
  hgt : ℚ
  hgtMsl : ℚ
  hAcc : ℚ
  vAcc : ℚ
  pDop : ℚ
  velN : ℚ
  velE : ℚ
  velD : ℚ
  velAcc : ℚ

def ubxPvtPayloadLen : Nat := 92
def ubxMsgHeaderLen : Nat := 6

def i32 (p : BytePtr) : Checked Int32 := do
  pure (← u32 p).toInt32

/-- The time of `iTOW` in the week nearest to the reference time. -/
def pvtTime (currTime : GTime) (itow : UInt32) : GTime :=
  let (tow, week) := time2gpst currTime
  let week :=
    if doubleOfUInt itow * 1e-3 > tow + 302400 then week - 1
    else if doubleOfUInt itow * 1e-3 < tow - 302400 then week + 1
    else week
  gpst2time week (doubleOfUInt itow * 1e-3)

def parsePvt (st : Processor) (msg : List UInt8) : Checked (Option PVTSolution) := do
  if msg.length ≠ ubxMsgHeaderLen + ubxPvtPayloadLen + 2 then pure none
  else if st.currTime.time = 0 then pure none
  else do
    let payload := (msgData msg).add 6
    let itow ← u32 payload
    let flags ← payload 21
    pure (some {
      time := pvtTime st.currTime itow
      fixType := (← payload 20)
      validFix := flags &&& 0x01 ≠ 0
      diffSoln := (flags &&& 0x02) >>> 1 ≠ 0
      carrSoln := (flags &&& 0xC0) >>> 6
      numSv := (← payload 23)
      lat := doubleOfInt (← i32 (payload.add 28)) * 1e-7
      lon := doubleOfInt (← i32 (payload.add 24)) * 1e-7
      hgt := doubleOfInt (← i32 (payload.add 32)) * 1e-3
      hgtMsl := doubleOfInt (← i32 (payload.add 36)) * 1e-3
      hAcc := doubleOfUInt (← u32 (payload.add 40)) * 1e-3
      vAcc := doubleOfUInt (← u32 (payload.add 44)) * 1e-3
      pDop := ((← u16 (payload.add 76)).toNat : ℚ) * 1e-2
      velN := doubleOfInt (← i32 (payload.add 48)) * 1e-3
      velE := doubleOfInt (← i32 (payload.add 52)) * 1e-3
      velD := doubleOfInt (← i32 (payload.add 56)) * 1e-3
      velAcc := doubleOfUInt (← u32 (payload.add 68)) * 1e-3 })

end GnssParser
