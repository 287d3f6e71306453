import GnssParser.Model.Subframe

/-!
# Galileo I/NAV pages

Words 0 to 6 of a satellite lie in 16-byte slots of its row; byte 112 collects which are received.
-/

namespace GnssParser
open Checked

/-- The locals of `decode_GAL_ephem` that its checks and times use. -/
structure GalLocals where
  type0 : UInt32
  type1 : UInt32
  type2 : UInt32
  type3 : UInt32
  type4 : UInt32
  type5 : UInt32
  timeF : UInt32
  week : UInt32
  tow : UInt32
  iodNav0 : UInt32
  iodNav1 : UInt32
  iodNav2 : UInt32
  iodNav3 : UInt32
  svid : UInt32
  toes : ℚ
  toc : ℚ

def galLocals (buff : BytePtr) : Checked GalLocals := do
  pure {
    type0 := (← getbitu buff 0 6)
    type1 := (← getbitu buff 128 6)
    type2 := (← getbitu buff (128 * 2) 6)
    type3 := (← getbitu buff (128 * 3) 6)
    type4 := (← getbitu buff (128 * 4) 6)
    type5 := (← getbitu buff (128 * 5) 6)
    timeF := (← getbitu buff 6 2)
    week := (← getbitu buff 96 12)
    tow := (← getbitu buff 108 20)
    iodNav0 := (← getbitu buff (128 + 6) 10)
    iodNav1 := (← getbitu buff (128 * 2 + 6) 10)
    iodNav2 := (← getbitu buff (128 * 3 + 6) 10)
    iodNav3 := (← getbitu buff (128 * 4 + 6) 10)
    svid := (← getbitu buff (128 * 4 + 16) 6)
    toes := doubleOfUInt (← getbitu buff (128 + 16) 14) * 60
    toc := doubleOfUInt (← getbitu buff (128 * 4 + 54) 14) * 60 }

/-- The accuracy in metres of a signal-in-space accuracy index. -/
def uraOfSisa (sisa : UInt32) : ℚ :=
  if sisa < 50 then 0.01 * doubleOfUInt sisa
  else if sisa < 75 then 0.5 + 0.02 * doubleOfUInt (sisa - 50)
  else if sisa < 100 then 1.0 + 0.04 * doubleOfUInt (sisa - 75)
  else if sisa < 125 then 2.0 + 0.16 * doubleOfUInt (sisa - 100)
  else -1

/-- Words 1 to 5: the square root of the axis, the health bits and the fields set before the
checks. -/
def galFields (buff : BytePtr) (ephem : Ephem) : Checked (ℚ × UInt32 × Ephem) := do
  let i := 128
  let ephem := { ephem with
    m0 := doubleOfInt (← getbits buff (i + 30) 32) * p2_31 * sc2rad
    e := doubleOfUInt (← getbitu buff (i + 62) 32) * p2_33 }
  let sqrtA := doubleOfUInt (← getbitu buff (i + 94) 32) * p2_19
  let i := 128 * 2
  let ephem := { ephem with
    omg0 := doubleOfInt (← getbits buff (i + 16) 32) * p2_31 * sc2rad
    i0 := doubleOfInt (← getbits buff (i + 48) 32) * p2_31 * sc2rad
    omg := doubleOfInt (← getbits buff (i + 80) 32) * p2_31 * sc2rad
    iDot := doubleOfInt (← getbits buff (i + 112) 14) * p2_43 * sc2rad }
  let i := 128 * 3
  let ephem := { ephem with
    omgDot := doubleOfInt (← getbits buff (i + 16) 24) * p2_43 * sc2rad
    deltaN := doubleOfInt (← getbits buff (i + 40) 16) * p2_43 * sc2rad
    cuc := doubleOfInt (← getbits buff (i + 56) 16) * p2_29
    cus := doubleOfInt (← getbits buff (i + 72) 16) * p2_29
    crc := doubleOfInt (← getbits buff (i + 88) 16) * p2_5
    crs := doubleOfInt (← getbits buff (i + 104) 16) * p2_5
    ura := uraOfSisa (← getbitu buff (i + 120) 8) }
  let i := 128 * 4
  let ephem := { ephem with
    cic := doubleOfInt (← getbits buff (i + 22) 16) * p2_29
    cis := doubleOfInt (← getbits buff (i + 38) 16) * p2_29
    af0 := doubleOfInt (← getbits buff (i + 68) 31) * p2_34
    af1 := doubleOfInt (← getbits buff (i + 99) 21) * p2_46
    af2 := doubleOfInt (← getbits buff (i + 120) 6) * p2_59 }
  let i := 128 * 5
  let ephem := { ephem with
    tgd := #v[doubleOfInt (← getbits buff (i + 47) 10) * p2_32,
      doubleOfInt (← getbits buff (i + 57) 10) * p2_32] }
  let e5bHs ← getbitu buff (i + 67) 2
  let e1bHs ← getbitu buff (i + 69) 2
  let e5bDvs ← getbitu buff (i + 71) 1
  let e1bDvs ← getbitu buff (i + 72) 1
  pure (sqrtA, (e5bHs <<< 7) ||| (e5bDvs <<< 6) ||| (e1bHs <<< 1) ||| e1bDvs, ephem)

def galTimes (l : GalLocals) (ephem : Ephem) : Ephem :=
  let week : Int := l.week.toNat
  let ttr := gst2time week (doubleOfUInt l.tow)
  let tt := timeDiff (gst2time week l.toes) ttr
  let week := if tt > 302400 then week - 1 else if tt < -302400 then week + 1 else week
  let toe := gst2time week l.toes
  let toc := gst2time week l.toc
  let (toeTow, gpsWeek) := time2gpst toe
  ephem.withTimes ttr toe toc toeTow gpsWeek

def galDecoded (l : GalLocals) (sqrtA : ℚ) (health : UInt32) (ephem : Ephem) : Ephem :=
  { galTimes l { ephem with a := sqrtA * sqrtA, iode := l.iodNav0, iodc := l.iodNav0, health } with
    -- data source = i/nav e1b, af0-2,toc,sisa for e5b-e1
    code := ((1 : UInt32) <<< 0) ||| ((1 : UInt32) <<< 9) }

def decodeGalEphem (st : Processor) (ephem : Ephem) : Checked (Int × Processor × Ephem) := do
  let row ← st.row ephem.sat
  let buff := readAt row
  let l ← galLocals buff
  let (sqrtA, health, ephem) ← galFields buff ephem
  -- test word types
  if l.type0 ≠ 0 ∨ l.type1 ≠ 1 ∨ l.type2 ≠ 2 ∨ l.type3 ≠ 3 ∨ l.type4 ≠ 4 ∨ l.type5 ≠ 5 then
    pure (-1, st, ephem)
  -- test word type 0 time field
  else if l.timeF ≠ 2 then pure (-1, st, ephem)
  -- test consistency of iod_nav
  else if l.iodNav0 ≠ l.iodNav1 ∨ l.iodNav0 ≠ l.iodNav2 ∨ l.iodNav0 ≠ l.iodNav3 then
    pure (0, st, ephem)
  else if ephem.sat ≠ satNo sysGal l.svid.toNat then pure (0, st, ephem)
  else do
    let ephem := galDecoded l sqrtA health ephem
    let st := { st with currTime := ephem.ttr }
    let row ← forRange (fun i (row : Row) => writeAt row i 0) 0 380 (← st.row ephem.sat)
    let st ← st.setRow ephem.sat row
    pure (0, st, ephem)

/-- The CRC of the pad, the even part and the start of the odd part. -/
def galCrc (buff : Vector UInt8 32) : Checked UInt32 := do
  let crcBuff : Vector UInt8 26 := Vector.replicate 26 0
  let crcBuff ← forRange (fun i crcBuff => do
    setbitu crcBuff 0 (4 + 8 * i) 8 (← getbitu (readAt buff) (i * 8) 8)) 0 15 crcBuff
  let crcBuff ← forRange (fun i crcBuff => do
    setbitu crcBuff 0 (118 + 8 * i) 8 (← getbitu (BytePtr.add (readAt buff) 16) (i * 8) 8))
    0 11 crcBuff
  crc24q (readAt crcBuff) 25

/-- Saves the page data (112 + 16 bits) of word `type`. -/
def galSave (buff : Vector UInt8 32) (type : Nat) (row : Row) : Checked Row := do
  let row ← forRange (fun i row => do
    writeAt row (type * 16 + i) (← getbitu (readAt buff) (2 + 8 * i) 8).toUInt8) 0 14 row
  forRange (fun i row => do
    writeAt row (type * 16 + 14 + i)
      (← getbitu (BytePtr.add (readAt buff) 16) (2 + 8 * i) 8).toUInt8) 0 2 row

/-- Saves word `type` and its flag; word 2 starts a new set. -/
def galStore (buff : Vector UInt8 32) (type : Nat) (row : Row) : Checked Row := do
  -- clear word 0-6 flags
  let row ← if type = 2 then writeAt row 112 0 else pure row
  let row ← galSave buff type row
  writeAt row 112 ((← readAt row 112) ||| (1 <<< UInt8.ofNat type))

def decodeGalSubframe (st : Processor) (msg : List UInt8) (ephem : Ephem) :
    Checked (Int × Processor × Ephem) := do
  if msg.length < 48 then pure (-1, st, ephem)
  else do
    let buff ← navBytes 8 msg (Vector.replicate 32 0)
    let part1 ← getbitu (readAt buff) 0 1
    let page1 ← getbitu (readAt buff) 1 1
    let part2 ← getbitu (BytePtr.add (readAt buff) 16) 0 1
    let page2 ← getbitu (BytePtr.add (readAt buff) 16) 1 1
    -- skip alert page
    if page1 = 1 ∨ page2 = 1 then pure (0, st, ephem)
    -- test even-odd parts
    else if part1 ≠ 0 ∨ part2 ≠ 1 then pure (-1, st, ephem)
    else if (← galCrc buff) ≠ (← getbitu (BytePtr.add (readAt buff) 16) 82 24) then
      pure (-1, st, ephem)
    else do
      let type := (← getbitu (readAt buff) 2 6).toNat
      -- skip word except for ephemeris, iono, utc parameters
      if type > 6 then pure (0, st, ephem)
      else do
        let row ← galStore buff type (← st.row ephem.sat)
        let st ← st.setRow ephem.sat row
        -- test word 0-6 flags
        if (← readAt row 112) ≠ 0x7F then pure (0, st, ephem)
        else do
          let (_, st, ephem) ← decodeGalEphem st ephem
          pure (0, st, ephem)

end GnssParser
