import GnssParser.Model.Subframe

/-!
# BeiDou subframes

D1 subframes of IGSO and MEO satellites and D2 pages of GEO satellites, each in a slot of 38 bytes.
-/

namespace GnssParser
open Checked

/-- The conversion of a double to `uint32_t`. -/
def uintOfDouble (x : ℚ) : UInt32 := UInt32.ofInt (truncate x)

def sowOf (buff : BytePtr) (i : Nat) : Checked UInt32 := getbitu2 buff (i + 18) 8 (i + 30) 12

/-! ## D1 -/

/-- The locals of `decode_BDS_D1_ephem` that its checks and times use. -/
structure D1Locals where
  frn1 : UInt32
  frn2 : UInt32
  frn3 : UInt32
  sow1 : UInt32
  sow2 : UInt32
  sow3 : UInt32
  bdtWeek : UInt32
  tocBds : ℚ
  toes : UInt32

/-- Clock, accuracy and ionosphere parameters of subframe 1. -/
def d1Subframe1 (buff : BytePtr) (ephem : Ephem) : Checked (Ephem × List ℚ) := do
  let ephem := { ephem with
    health := (← getbitu buff 42 1)
    iodc := (← getbitu buff 43 5)
    ura := uraOfIndex (← getbitu buff 48 4).toUInt8
    tgd := #v[doubleOfInt (← getbits buff 98 10) * 0.1 * 1E-9,
      doubleOfInt (← getbits2 buff 108 4 120 6) * 0.1 * 1E-9] }
  let ionoParams := [
    doubleOfInt (← getbits buff 126 8) * p2_30,
    doubleOfInt (← getbits buff 134 8) * p2_27,
    doubleOfInt (← getbits buff 150 8) * p2_24,
    doubleOfInt (← getbits buff 158 8) * p2_24,
    doubleOfInt ((← getbits2 buff 166 6 180 2) * ((1 : Int32) <<< 11)),
    doubleOfInt ((← getbits buff 182 8) * ((1 : Int32) <<< 14)),
    doubleOfInt ((← getbits buff 190 8) * ((1 : Int32) <<< 16)),
    doubleOfInt ((← getbits2 buff 198 4 210 4) * ((1 : Int32) <<< 16))]
  pure ({ ephem with
    af2 := doubleOfInt (← getbits buff 214 11) * p2_66
    af0 := doubleOfInt (← getbits2 buff 225 7 240 17) * p2_33
    af1 := doubleOfInt (← getbits2 buff 257 5 270 17) * p2_50
    iode := (← getbitu buff 287 5) }, ionoParams)

def d1Subframe2 (buff : BytePtr) (ephem : Ephem) : Checked Ephem := do
  let i := 8 * 38 * 1
  let ephem := { ephem with
    deltaN := doubleOfInt (← getbits2 buff (i + 42) 10 (i + 60) 6) * p2_43 * sc2rad
    cuc := doubleOfInt (← getbits2 buff (i + 66) 16 (i + 90) 2) * p2_31
    m0 := doubleOfInt (← getbits2 buff (i + 92) 20 (i + 120) 12) * p2_31 * sc2rad
    e := doubleOfUInt (← getbitu2 buff (i + 132) 10 (i + 150) 22) * p2_33
    cus := doubleOfInt (← getbits buff (i + 180) 18) * p2_31
    crc := doubleOfInt (← getbits2 buff (i + 198) 4 (i + 210) 14) * p2_6
    crs := doubleOfInt (← getbits2 buff (i + 224) 8 (i + 240) 10) * p2_6 }
  let sqrtA := doubleOfUInt (← getbitu2 buff (i + 250) 12 (i + 270) 20) * p2_19
  pure { ephem with a := sqrtA * sqrtA }

def d1Subframe3 (buff : BytePtr) (ephem : Ephem) : Checked Ephem := do
  let i := 8 * 38 * 2
  pure { ephem with
    i0 := doubleOfInt (← getbits2 buff (i + 65) 17 (i + 90) 15) * p2_31 * sc2rad
    cic := doubleOfInt (← getbits2 buff (i + 105) 7 (i + 120) 11) * p2_31
    omgDot := doubleOfInt (← getbits2 buff (i + 131) 11 (i + 150) 13) * p2_43 * sc2rad
    cis := doubleOfInt (← getbits2 buff (i + 163) 9 (i + 180) 9) * p2_31
    iDot := doubleOfInt (← getbits2 buff (i + 189) 13 (i + 210) 1) * p2_43 * sc2rad
    omg0 := doubleOfInt (← getbits2 buff (i + 211) 21 (i + 240) 11) * p2_31 * sc2rad
    omg := doubleOfInt (← getbits2 buff (i + 251) 11 (i + 270) 21) * p2_31 * sc2rad }

def d1Locals (buff : BytePtr) : Checked D1Locals := do
  let frn1 ← getbitu buff 15 3
  let sow1 ← sowOf buff 0
  let bdtWeek ← getbitu buff 60 13
  let tocBds := doubleOfUInt (← getbitu2 buff 73 9 90 8) * 8
  let i := 8 * 38 * 1
  let frn2 ← getbitu buff (i + 15) 3
  let sow2 ← sowOf buff i
  let toe1 ← getbitu buff (i + 290) 2
  let i := 8 * 38 * 2
  let frn3 ← getbitu buff (i + 15) 3
  let sow3 ← sowOf buff i
  let toe2 ← getbitu2 buff (i + 42) 10 (i + 60) 5
  let toes := uintOfDouble (doubleOfUInt (mergeTwoU toe1 toe2 15) * 8)
  pure { frn1, frn2, frn3, sow1, sow2, sow3, bdtWeek, tocBds, toes }

/-- The times of a D1 or D2 set, once `bdtWeek` is corrected for the reference time. -/
def bdsTimes (ephem : Ephem) (ttrWeek toeWeek sow toes : UInt32) (tocBds : ℚ) : Ephem :=
  let ttr := timeAdd (bdt2time ttrWeek.toInt32.toInt (doubleOfUInt sow)) 14
  let toe := timeAdd (bdt2time toeWeek.toInt32.toInt (doubleOfUInt toes)) 14
  let (toeTow, week) := time2gpst toe
  let toc := timeAdd (bdt2time toeWeek.toInt32.toInt tocBds) 14
  { ephem with ttr, toe, toeTow, week, toc, code := 0 }

def d1ToeWeek (l : D1Locals) : UInt32 :=
  if doubleOfUInt l.toes > doubleOfUInt l.sow1 + 302400 then l.bdtWeek - 1
  else if doubleOfUInt l.toes < doubleOfUInt l.sow1 - 302400 then l.bdtWeek + 1
  else l.bdtWeek

def decodeBdsD1Ephem (st : Processor) (ephem : Ephem) (ionoParams : List ℚ) :
    Checked (Int × Processor × Ephem × List ℚ) := do
  let row ← st.row ephem.sat
  let buff := readAt row
  let (ephem, tmpIonoParams) ← d1Subframe1 buff ephem
  let ephem ← d1Subframe2 buff ephem
  let ephem ← d1Subframe3 buff ephem
  let l ← d1Locals buff
  -- check consistency of subframe numbers, sows and toe/toc
  if l.frn1 ≠ 1 ∨ l.frn2 ≠ 2 ∨ l.frn3 ≠ 3 then pure (-1, st, ephem, ionoParams)
  else if l.sow2 ≠ l.sow1 + 6 ∨ l.sow3 ≠ l.sow2 + 6 then pure (-1, st, ephem, ionoParams)
  else if l.tocBds ≠ doubleOfUInt l.toes then pure (-1, st, ephem, ionoParams)
  else
    let ephem := bdsTimes ephem l.bdtWeek (d1ToeWeek l) l.sow1 l.toes l.tocBds
    pure (0, { st with currTime := ephem.ttr }, ephem, tmpIonoParams)

/-! ## D2 -/

/-- The halves of the fields that D2 sends in two pages. -/
structure D2Halves where
  f1p3 : Int32
  f1p4 : UInt32
  cucp4 : Int32
  cucp5 : UInt32
  ep5 : Int32
  ep6 : UInt32
  cicp6 : Int32
  cicp7 : UInt32
  i0p7 : Int32
  i0p8 : UInt32
  omgDp8 : Int32
  omgDp9 : UInt32
  omgp9 : Int32
  omgp10 : UInt32

/-- The locals of `decode_BDS_D2_ephem` that its checks and times use. -/
structure D2Locals where
  pgn1 : UInt32
  pgn3 : UInt32
  pgn4 : UInt32
  pgn5 : UInt32
  pgn6 : UInt32
  pgn7 : UInt32
  pgn8 : UInt32
  pgn9 : UInt32
  pgn10 : UInt32
  sow1 : UInt32
  sow3 : UInt32
  sow4 : UInt32
  sow5 : UInt32
  sow6 : UInt32
  sow7 : UInt32
  sow8 : UInt32
  sow9 : UInt32
  sow10 : UInt32
  bdtWeek : UInt32
  tocBds : ℚ
  toes : UInt32

def d2Page (page : Nat) : Nat := 8 * 38 * (page - 1)

def pgnOf (buff : BytePtr) (i : Nat) : Checked UInt32 := getbitu buff (i + 42) 4

def d2Locals (buff : BytePtr) : Checked D2Locals := do
  let i := d2Page 1
  let bdtWeek ← getbitu buff (i + 64) 13
  let tocBds := doubleOfUInt (← getbitu2 buff (i + 77) 5 (i + 90) 12) * 8
  let i := d2Page 7
  let toes := uintOfDouble (doubleOfUInt (← getbitu2 buff (i + 80) 2 (i + 90) 15) * 8)
  pure {
    pgn1 := (← pgnOf buff (d2Page 1))
    pgn3 := (← pgnOf buff (d2Page 3))
    pgn4 := (← pgnOf buff (d2Page 4))
    pgn5 := (← pgnOf buff (d2Page 5))
    pgn6 := (← pgnOf buff (d2Page 6))
    pgn7 := (← pgnOf buff (d2Page 7))
    pgn8 := (← pgnOf buff (d2Page 8))
    pgn9 := (← pgnOf buff (d2Page 9))
    pgn10 := (← pgnOf buff (d2Page 10))
    sow1 := (← sowOf buff (d2Page 1))
    sow3 := (← sowOf buff (d2Page 3))
    sow4 := (← sowOf buff (d2Page 4))
    sow5 := (← sowOf buff (d2Page 5))
    sow6 := (← sowOf buff (d2Page 6))
    sow7 := (← sowOf buff (d2Page 7))
    sow8 := (← sowOf buff (d2Page 8))
    sow9 := (← sowOf buff (d2Page 9))
    sow10 := (← sowOf buff (d2Page 10))
    bdtWeek, tocBds, toes }

def d2Halves (buff : BytePtr) : Checked D2Halves := do
  let i := d2Page 3
  let f1p3 ← getbits buff (i + 132) 4
  let i := d2Page 4
  let f1p4 ← getbitu2 buff (i + 46) 6 (i + 60) 12
  let cucp4 ← getbits buff (i + 120) 14
  let i := d2Page 5
  let cucp5 ← getbitu buff (i + 46) 4
  let ep5 ← getbits buff (i + 124) 10
  let i := d2Page 6
  let ep6 ← getbitu2 buff (i + 46) 6 (i + 60) 16
  let cicp6 ← getbits buff (i + 124) 10
  let i := d2Page 7
  let cicp7 ← getbitu2 buff (i + 46) 6 (i + 60) 2
  let i0p7 ← getbits2 buff (i + 105) 7 (i + 120) 14
  let i := d2Page 8
  let i0p8 ← getbitu2 buff (i + 46) 6 (i + 60) 5
  let omgDp8 ← getbits2 buff (i + 109) 3 (i + 120) 16
  let i := d2Page 9
  let omgDp9 ← getbitu buff (i + 46) 5
  let omgp9 ← getbits2 buff (i + 99) 13 (i + 120) 14
  let i := d2Page 10
  let omgp10 ← getbitu buff (i + 46) 5
  pure ⟨f1p3, f1p4, cucp4, cucp5, ep5, ep6, cicp6, cicp7, i0p7, i0p8, omgDp8, omgDp9, omgp9,
    omgp10⟩

/-- The fields that D2 sends in one page. -/
def d2Fields (buff : BytePtr) (ephem : Ephem) : Checked Ephem := do
  let i := d2Page 1
  let ephem := { ephem with
    health := (← getbitu buff (i + 46) 1)
    iodc := (← getbitu buff (i + 47) 5)
    ura := uraOfIndex (← getbitu buff (i + 60) 4).toUInt8
    tgd := #v[doubleOfInt (← getbits buff (i + 102) 10) * 0.1 * 1E-9,
      doubleOfInt (← getbits buff (i + 120) 10) * 0.1 * 1E-9] }
  let i := d2Page 3
  let ephem := { ephem with
    af0 := doubleOfInt (← getbits2 buff (i + 100) 12 (i + 120) 12) * p2_33 }
  let i := d2Page 4
  let ephem := { ephem with
    af2 := doubleOfInt (← getbits2 buff (i + 72) 10 (i + 90) 1) * p2_66
    iode := (← getbitu buff (i + 91) 5)
    deltaN := doubleOfInt (← getbits buff (i + 96) 16) * p2_43 * sc2rad }
  let i := d2Page 5
  let ephem := { ephem with
    m0 := doubleOfInt (← getbits3 buff (i + 50) 2 (i + 60) 22 (i + 90) 8) * p2_31 * sc2rad
    cus := doubleOfInt (← getbits2 buff (i + 98) 14 (i + 120) 4) * p2_31 }
  let i := d2Page 6
  let sqrtA := doubleOfUInt (← getbitu3 buff (i + 76) 6 (i + 90) 22 (i + 120) 4) * p2_19
  let ephem := { ephem with a := sqrtA * sqrtA }
  let i := d2Page 7
  let ephem := { ephem with cis := doubleOfInt (← getbits buff (i + 62) 18) * p2_31 }
  let i := d2Page 8
  let ephem := { ephem with
    crc := doubleOfInt (← getbits2 buff (i + 65) 17 (i + 90) 1) * p2_6
    crs := doubleOfInt (← getbits buff (i + 91) 18) * p2_6 }
  let i := d2Page 9
  let ephem := { ephem with
    omg0 := doubleOfInt (← getbits3 buff (i + 51) 1 (i + 60) 22 (i + 90) 9) * p2_31 * sc2rad }
  let i := d2Page 10
  pure { ephem with
    iDot := doubleOfInt (← getbits2 buff (i + 51) 1 (i + 60) 13) * p2_43 * sc2rad }

def d2Merge (h : D2Halves) (ephem : Ephem) : Ephem :=
  { ephem with
    af1 := doubleOfInt (mergeTwoS h.f1p3 h.f1p4.toUInt8 18) * p2_50
    cuc := doubleOfInt (mergeTwoS h.cucp4 h.cucp5.toUInt8 4) * p2_31
    e := doubleOfInt (mergeTwoS h.ep5 h.ep6.toUInt8 22) * p2_33
    cic := doubleOfInt (mergeTwoS h.cicp6 h.cicp7.toUInt8 8) * p2_31
    i0 := doubleOfInt (mergeTwoS h.i0p7 h.i0p8.toUInt8 11) * p2_31 * sc2rad
    omgDot := doubleOfInt (mergeTwoS h.omgDp8 h.omgDp9.toUInt8 5) * p2_43 * sc2rad
    omg := doubleOfInt (mergeTwoS h.omgp9 h.omgp10.toUInt8 5) * p2_31 * sc2rad }

def d2ToeWeek (l : D2Locals) : UInt32 :=
  if doubleOfUInt l.toes > doubleOfUInt l.sow1 + 302400 then l.bdtWeek + 1
  else if doubleOfUInt l.toes < doubleOfUInt l.sow1 - 302400 then l.bdtWeek - 1
  else l.bdtWeek

def decodeBdsD2Ephem (st : Processor) (ephem : Ephem) : Checked (Int × Processor × Ephem) := do
  let row ← st.row ephem.sat
  let buff := readAt row
  let ephem ← d2Fields buff ephem
  let h ← d2Halves buff
  let l ← d2Locals buff
  -- check consistency of page numbers, sows and toe/toc
  if l.pgn1 ≠ 1 ∨ l.pgn3 ≠ 3 ∨ l.pgn4 ≠ 4 ∨ l.pgn5 ≠ 5 ∨ l.pgn6 ≠ 6 ∨ l.pgn7 ≠ 7 ∨ l.pgn8 ≠ 8 ∨
      l.pgn9 ≠ 9 ∨ l.pgn10 ≠ 10 then pure (-1, st, ephem)
  else if l.sow3 ≠ l.sow1 + 6 ∨ l.sow4 ≠ l.sow3 + 3 ∨ l.sow5 ≠ l.sow4 + 3 ∨ l.sow6 ≠ l.sow5 + 3 ∨
      l.sow7 ≠ l.sow6 + 3 ∨ l.sow8 ≠ l.sow7 + 3 ∨ l.sow9 ≠ l.sow8 + 3 ∨ l.sow10 ≠ l.sow9 + 3 then
    pure (-1, st, ephem)
  else if l.tocBds ≠ doubleOfUInt l.toes then pure (-1, st, ephem)
  else
    let ephem := d2Merge h ephem
    let ephem := bdsTimes ephem l.bdtWeek (d2ToeWeek l) l.sow1 l.toes l.tocBds
    pure (0, { st with currTime := ephem.ttr }, ephem)

/-! ## Storing -/

def decodeBdsSubframe (st : Processor) (msg : List UInt8) (ephem : Ephem) (ionoParams : List ℚ) :
    Checked (Int × Processor × Ephem × List ℚ) := do
  if msg.length < 56 then pure (-1, st, ephem, ionoParams)
  else do
    -- 30 bits
    let words ← navWords (· &&& 0x3FFFFFFF) msg
    let (_, prn) := satsys ephem.sat
    let id := ((← readAt words 0) >>> 12) &&& 0x07
    if id < 1 ∨ 5 < id then pure (-1, st, ephem, ionoParams)
    else if prn > 5 ∧ prn < 59 then do
      -- IGSO/MEO
      let row ← storeWords (← st.row ephem.sat) ((id.toNat - 1) * 38) 30 words
      let st ← st.setRow ephem.sat row
      let st ← st.setFlags ephem.sat ((← st.flags ephem.sat) ||| (1 <<< (id - 1)).toUInt8)
      if (← st.flags ephem.sat) ≠ 0x07 then pure (0, st, ephem, ionoParams)
      else do
        let (rc, st, ephem, ionoParams) ← decodeBdsD1Ephem st ephem ionoParams
        let st ← st.setFlags ephem.sat 0
        if rc ≠ 0 then do
          let row ← forRange (fun i (row : Row) => writeAt row i 0) 0 (38 * 3) (← st.row ephem.sat)
          let st ← st.setRow ephem.sat row
          pure (rc, st, ephem, ionoParams)
        else pure (rc, st, ephem, ionoParams)
    else if id ≠ 1 then pure (-1, st, ephem, ionoParams)
    else do
      -- GEO (C01-05, C59-63), subframe 1
      let pgn := ((← readAt words 1) >>> 14) &&& 0x0F
      if pgn < 1 ∨ 10 < pgn then pure (-1, st, ephem, ionoParams)
      else do
        let row ← storeWords (← st.row ephem.sat) ((pgn.toNat - 1) * 38) 30 words
        let st ← st.setRow ephem.sat row
        if pgn ≠ 10 then pure (-1, st, ephem, ionoParams)
        else do
          let (rc, st, ephem) ← decodeBdsD2Ephem st ephem
          pure (rc, st, ephem, ionoParams)

end GnssParser
