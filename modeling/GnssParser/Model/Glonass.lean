import GnssParser.Model.Subframe

/-!
# GLONASS strings
-/

namespace GnssParser
open Checked

def fmod (x y : ℚ) : ℚ := x - y * truncate (x / y)

/-- The locals of `decode_GLO_ephem` that its checks and times use. -/
structure GloLocals where
  frn1 : UInt32
  frn2 : UInt32
  frn3 : UInt32
  frn4 : UInt32
  tkH : UInt32
  tkM : UInt32
  tkS : UInt32
  tb : UInt32
  slot : UInt32

/-- The accuracy in metres of the factor `F_T`. -/
def uraOfFt (ft : UInt32) : ℚ :=
  if ft = 2 then 2.5
  else if ft < 5 then doubleOfUInt ft + 1
  else if ft = 5 then 7
  else if ft < 10 then 10 + doubleOfUInt (ft - 6) * 2
  else if ft < 15 then ((1 <<< (ft.toNat - 5) : Nat) : ℚ)
  else -1

/-- One axis of position, velocity and acceleration, read from bit `i` on. -/
def gloAxis (buff : BytePtr) (i axis : Nat) (h : axis ≤ 2) (eph : GloEphem) : Checked GloEphem := do
  let vel := (← getbitg buff i 24) * p2_20 * 1E3
  let acc := (← getbitg buff (i + 24) 5) * p2_30 * 1E3
  let pos := (← getbitg buff (i + 29) 27) * p2_11 * 1E3
  pure { eph with
    vel := eph.vel.set axis vel
    acc := eph.acc.set axis acc
    pos := eph.pos.set axis pos }

def gloFields (buff : BytePtr) (eph : GloEphem) : Checked (GloLocals × GloEphem) := do
  -- frame 1
  let frn1 ← getbitu buff 1 4
  let _ ← getbitu buff 7 2
  let tkH ← getbitu buff 9 5
  let tkM ← getbitu buff 14 6
  let tkS := (← getbitu buff 20 1) * 30
  let eph ← gloAxis buff 21 0 (by decide) eph
  -- frame 2
  let frn2 ← getbitu buff 81 4
  let eph := { eph with health := (← getbitu buff 85 3) }
  let _ ← getbitu buff 88 1
  let tb ← getbitu buff 89 7
  let eph ← gloAxis buff 101 1 (by decide) eph
  -- frame 3
  let frn3 ← getbitu buff 161 4
  let _ ← getbitu buff 165 1
  let eph := { eph with gamma := (← getbitg buff 166 11) * p2_40 }
  let _ ← getbitu buff 178 2
  let _ ← getbitu buff 180 1
  let eph ← gloAxis buff 181 2 (by decide) eph
  -- frame 4
  let frn4 ← getbitu buff 241 4
  let eph := { eph with
    tauN := (← getbitg buff 245 22) * p2_30
    deltaTauN := (← getbitg buff 267 5) * p2_30
    age := (← getbitu buff 272 5) }
  let _ ← getbitu buff 291 1
  let ft ← getbitu buff 292 4
  let _ ← getbitu buff 299 11
  let slot ← getbitu buff 310 5
  let _ ← getbitu buff 315 2
  pure ({ frn1, frn2, frn3, frn4, tkH, tkM, tkS, tb, slot }, { eph with ura := uraOfFt ft })

/-- A time of day on the day of `tod`, moved to the nearest one. -/
def nearTod (x tod : ℚ) : ℚ :=
  if x < tod - 43200 then x + 86400 else if x > tod + 43200 then x - 86400 else x

def gloTimes (currTime : GTime) (l : GloLocals) (eph : GloEphem) : GloEphem :=
  let (tow, week) := time2gpst (gpst2utc currTime)
  let tod := fmod tow 86400
  let tow := tow - tod
  -- lt->utc
  let tof := doubleOfUInt l.tkH * 3600 + doubleOfUInt l.tkM * 60 + doubleOfUInt l.tkS - 10800
  let toe := doubleOfUInt l.tb * 900 - 10800
  { eph with
    iode := l.tb
    ttr := utc2gpst (gpst2time week (tow + nearTod tof tod))
    -- utc->gpst
    toe := utc2gpst (gpst2time week (tow + nearTod toe tod)) }

def decodeGloEphem (st : Processor) (gloEphem : GloEphem) : Checked (Int × GloEphem) := do
  let row ← st.row gloEphem.sat
  let (l, gloEphem) ← gloFields (readAt row) gloEphem
  if l.frn1 ≠ 1 ∨ l.frn2 ≠ 2 ∨ l.frn3 ≠ 3 ∨ l.frn4 ≠ 4 then pure (-1, gloEphem)
  else if gloEphem.sat ≠ satNo sysGlo l.slot.toNat then pure (-1, gloEphem)
  else pure (0, gloTimes st.currTime l gloEphem)

/-- Flushes the frame buffer of a satellite if the frame id in a string changed. -/
def flushGlo (row : Row) (buff : Vector UInt8 64) : Checked Row := do
  if (← readAt row 150) ≠ (← readAt buff 12) ∨ (← readAt row 151) ≠ (← readAt buff 13) then do
    let row ← forRange (fun i (row : Row) => writeAt row i 0) 0 40 row
    let row ← writeAt row 150 (← readAt buff 12)
    writeAt row 151 (← readAt buff 13)
  else pure row

/-- Stores the ten bytes of string `m`. -/
def storeGlo (row : Row) (m : Nat) (buff : Vector UInt8 64) : Checked Row :=
  forRange (fun i row => do writeAt row ((m - 1) * 10 + i) (← readAt buff i)) 0 10 row

def decodeGloSubframe (st : Processor) (msg : List UInt8) (gloEphem : Option GloEphem) :
    Checked (Int × Processor × Option GloEphem) := do
  if msg.length < 32 then pure (-1, st, gloEphem)
  else do
    let eph ← deref gloEphem
    let eph := { eph with freqo := (← msgData msg 9).toNat - 7 }
    let buff ← navBytes 4 msg (Vector.replicate 64 0)
    -- test hamming of glonass string
    if (← testGlostr (readAt buff)) = 0 then pure (-1, st, some eph)
    else do
      let m ← getbitu (readAt buff) 1 4
      if m < 1 ∨ 15 < m then pure (-1, st, some eph)
      else do
        let row ← flushGlo (← st.row eph.sat) buff
        let st ← st.setRow eph.sat (← storeGlo row m.toNat buff)
        if m ≠ 4 then pure (0, st, some eph)
        else do
          let (_, eph) ← decodeGloEphem st eph
          pure (0, st, some eph)

end GnssParser
