import GnssParser.Model.Subframe

/-!
# GPS subframes
-/

namespace GnssParser
open Checked

def gpsWeekRolloverN : UInt32 := 2
def preambCnav : UInt32 := 0x8B

/-- One round of the check that subframes 1, 2 and 3 are received: 0 to go on. -/
def checkGpsSubframe (frameBuf : BytePtr) (i : Nat) : Checked Int := do
  if (← getbitu (frameBuf.add (30 * i)) 43 3) ≠ UInt32.ofNat i + 1 then pure (i + 1)
  else if i ≠ 0 then
    -- z count discontinue
    if (← getbitu (frameBuf.add (30 * i - 30)) 24 17) + 1 ≠
        (← getbitu (frameBuf.add (30 * i)) 24 17) then pure (-2)
    else pure 0
  else pure 0

def gpsSubframe1 (frameBuf : BytePtr) (ephem : Ephem) : Checked Ephem := do
  let tow := doubleOfUInt (← getbitu frameBuf 24 17) * 6
  let week ← getbitu frameBuf 48 10
  let urai := (← getbitu frameBuf 60 4).toUInt8
  let ephem := { ephem with ura := uraOfIndex urai }
  let ephem := { ephem with health := (← getbitu frameBuf 64 6) }
  let iodc0 ← getbitu frameBuf 70 2
  let tgd ← getbits frameBuf 160 8
  let iodc1 ← getbitu frameBuf 168 8
  let toc := doubleOfUInt (← getbitu frameBuf 176 16) * 16
  let ephem := { ephem with
    af2 := doubleOfInt (← getbits frameBuf 192 8) * p2_55
    af1 := doubleOfInt (← getbits frameBuf 200 16) * p2_43
    af0 := doubleOfInt (← getbits frameBuf 216 22) * p2_31 }
  let week := week + 1024 * gpsWeekRolloverN
  pure { ephem with
    tgd := ephem.tgd.set 0 (if tgd = -128 then 0 else doubleOfInt tgd * p2_31) Nat.two_pos
    iodc := (iodc0 <<< 8) + iodc1
    week
    ttr := gpst2time week tow
    toc := gpst2time week toc }

def gpsSubframe2 (frameBuf : BytePtr) (ephem : Ephem) : Checked Ephem := do
  let ephem := { ephem with
    iode := (← getbitu frameBuf 48 8)
    crs := doubleOfInt (← getbits frameBuf 56 16) * p2_5
    deltaN := doubleOfInt (← getbits frameBuf 72 16) * p2_43 * sc2rad
    m0 := doubleOfInt (← getbits frameBuf 88 32) * p2_31 * sc2rad
    cuc := doubleOfInt (← getbits frameBuf 120 16) * p2_29
    e := doubleOfUInt (← getbitu frameBuf 136 32) * p2_33
    cus := doubleOfInt (← getbits frameBuf 168 16) * p2_29 }
  let sqrtA := doubleOfUInt (← getbitu frameBuf 184 32) * p2_19
  pure { ephem with
    toeTow := doubleOfUInt (← getbitu frameBuf 216 16) * 16
    a := sqrtA * sqrtA }

/-- The IODE of subframe 3 and the ephemeris. -/
def gpsSubframe3 (frameBuf : BytePtr) (ephem : Ephem) : Checked (UInt32 × Ephem) := do
  let ephem := { ephem with
    cic := doubleOfInt (← getbits frameBuf 48 16) * p2_29
    omg0 := doubleOfInt (← getbits frameBuf 64 32) * p2_31 * sc2rad
    cis := doubleOfInt (← getbits frameBuf 96 16) * p2_29
    i0 := doubleOfInt (← getbits frameBuf 112 32) * p2_31 * sc2rad
    crc := doubleOfInt (← getbits frameBuf 144 16) * p2_5
    omg := doubleOfInt (← getbits frameBuf 160 32) * p2_31 * sc2rad
    omgDot := doubleOfInt (← getbits frameBuf 192 24) * p2_43 * sc2rad }
  let iode ← getbitu frameBuf 216 8
  pure (iode, { ephem with iDot := doubleOfInt (← getbits frameBuf 224 14) * p2_43 * sc2rad })

/-- Adjustment for week handover. -/
def gpsHandover (ephem : Ephem) : Ephem :=
  let (tow, week) := time2gpst ephem.ttr
  let (toc, _) := time2gpst ephem.toc
  let (week, tow) :=
    if ephem.toeTow < tow - 302400 then (week + 1, tow - 604800)
    else if ephem.toeTow > tow + 302400 then (week - 1, tow + 604800)
    else (week, tow)
  { ephem with
    week
    toe := gpst2time week ephem.toeTow
    toc := gpst2time week toc
    ttr := gpst2time week tow }

def decodeGpsEphem (st : Processor) (ephem : Ephem) : Checked (Int × Processor × Ephem) := do
  let row ← st.row ephem.sat
  let frameBuf := readAt row
  let missing ← forRange (fun i rc => if rc ≠ 0 then pure rc else checkGpsSubframe frameBuf i) 0 3 0
  if missing ≠ 0 then pure (missing, st, ephem)
  else do
    let ephem ← gpsSubframe1 frameBuf ephem
    let ephem ← gpsSubframe2 (BytePtr.add frameBuf 30) ephem
    let (iode, ephem) ← gpsSubframe3 (BytePtr.add frameBuf 60) ephem
    -- check iode and iodc consistency; ttr and toc are set already
    if iode ≠ ephem.iode ∨ iode ≠ ephem.iodc &&& 0xFF then pure (-1, st, ephem)
    else
      let ephem := gpsHandover ephem
      pure (0, { st with currTime := ephem.ttr }, ephem)

def decodeGpsSubframe (st : Processor) (msg : List UInt8) (ephem : Ephem) :
    Checked (Int × Processor × Ephem) := do
  if msg.length < 56 then pure (-1, st, ephem)
  else if (← u32 ((msgData msg).add 14)) >>> 24 = preambCnav then pure (-1, st, ephem)
  else do
    -- 24 bits without parity
    let words ← navWords (· >>> 6) msg
    let subframeId := ((← readAt words 1) >>> 2) &&& 0x07
    if subframeId < 1 ∨ subframeId > 5 then pure (-1, st, ephem)
    else do
      let row ← storeWords (← st.row ephem.sat) ((subframeId.toNat - 1) * 30) 24 words
      let st ← st.setRow ephem.sat row
      if subframeId = 3 then do
        let (_, st, ephem) ← decodeGpsEphem st ephem
        pure (0, st, ephem)
      else pure (0, st, ephem)

end GnssParser
