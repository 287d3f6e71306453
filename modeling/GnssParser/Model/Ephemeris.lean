import GnssParser.Lib.Checked
import GnssParser.Model.GnssTime
import GnssParser.Model.Satellite

/-!
# Ephemerides and the processor state
-/

namespace GnssParser
open Checked

/-! ## Scale factors -/

def p2_5 : ℚ := 0.03125
def p2_6 : ℚ := 0.015625
def p2_11 : ℚ := 4.882812500000000E-04
def p2_19 : ℚ := 1.907348632812500E-06
def p2_20 : ℚ := 9.536743164062500E-07
def p2_24 : ℚ := 5.960464477539063E-08
def p2_27 : ℚ := 7.450580596923828E-09
def p2_29 : ℚ := 1.862645149230957E-09
def p2_30 : ℚ := 9.313225746154785E-10
def p2_31 : ℚ := 4.656612873077393E-10
def p2_32 : ℚ := 2.328306436538696E-10
def p2_33 : ℚ := 1.164153218269348E-10
def p2_34 : ℚ := 5.820766091346740E-11
def p2_40 : ℚ := 9.094947017729280E-13
def p2_43 : ℚ := 1.136868377216160E-13
def p2_46 : ℚ := 1.421085471520200E-14
def p2_50 : ℚ := 8.881784197001252E-16
def p2_55 : ℚ := 2.775557561562891E-17
def p2_59 : ℚ := 1.734723475976810E-18
def p2_66 : ℚ := 1.355252715606881E-20
def sc2rad : ℚ := 3.1415926535898

/-- `std::pow(2, x / 2.0 + 1)` for the accuracy indices 0 to 5: the nearest doubles. -/
def pow2Half : Nat → ℚ
  | 0 => 2
  | 1 => 6369051672525773 / 2 ^ 51
  | 2 => 4
  | 3 => 6369051672525773 / 2 ^ 50
  | 4 => 8
  | _ => 6369051672525773 / 2 ^ 49

/-- The accuracy of a GPS or BeiDou index, a four-bit field. -/
def uraOfIndex (urai : UInt8) : ℚ :=
  if urai < 6 then pow2Half urai.toNat else ((1 <<< (urai.toNat - 2) : Nat) : ℚ)

def doubleOfInt (x : Int32) : ℚ := x.toInt

def doubleOfUInt (x : UInt32) : ℚ := x.toNat

/-! ## Ephemerides -/

structure EphemBase where
  sat : Nat
  ttr : GTime := ⟨0, 0⟩
  toe : GTime := ⟨0, 0⟩
  health : UInt32 := 0
  ura : ℚ := 0
  iode : UInt32 := 0

structure GloEphem extends EphemBase where
  freqo : Int := 0
  age : UInt32 := 0
  pos : Vector ℚ 3 := .replicate 3 0
  vel : Vector ℚ 3 := .replicate 3 0
  acc : Vector ℚ 3 := .replicate 3 0
  tauN : ℚ := 0
  gamma : ℚ := 0
  deltaTauN : ℚ := 0

structure Ephem extends EphemBase where
  toc : GTime := ⟨0, 0⟩
  toeTow : ℚ := 0
  week : UInt32 := 0
  iodc : UInt32 := 0
  code : UInt32 := 0
  a : ℚ := 0
  e : ℚ := 0
  i0 : ℚ := 0
  omg : ℚ := 0
  omg0 : ℚ := 0
  m0 : ℚ := 0
  deltaN : ℚ := 0
  omgDot : ℚ := 0
  iDot : ℚ := 0
  cuc : ℚ := 0
  cus : ℚ := 0
  crc : ℚ := 0
  crs : ℚ := 0
  cic : ℚ := 0
  cis : ℚ := 0
  af0 : ℚ := 0
  af1 : ℚ := 0
  af2 : ℚ := 0
  tgd : Vector ℚ 2 := .replicate 2 0
  aDot : ℚ := 0
  nDot : ℚ := 0

def Ephem.withTimes (ephem : Ephem) (ttr toe toc : GTime) (toeTow : ℚ) (week : UInt32) : Ephem :=
  { ephem with ttr, toe, toc, toeTow, week }

@[simp] theorem Ephem.withTimes_sat (ephem : Ephem) (ttr toe toc : GTime) (toeTow : ℚ)
    (week : UInt32) : (ephem.withTimes ttr toe toc toeTow week).sat = ephem.sat := rfl

/-- The object behind an `EphemBasePtr`. -/
inductive EphemObject where
  | ephem (e : Ephem)
  | gloEphem (e : GloEphem)

namespace EphemObject

def base : EphemObject → EphemBase
  | .ephem e => e.toEphemBase
  | .gloEphem e => e.toEphemBase

/-- `std::dynamic_pointer_cast<Ephem>`. -/
def asEphem : EphemObject → Option Ephem
  | .ephem e => some e
  | .gloEphem _ => none

/-- `std::dynamic_pointer_cast<GloEphem>`. -/
def asGloEphem : EphemObject → Option GloEphem
  | .ephem _ => none
  | .gloEphem e => some e

end EphemObject

/-! ## State -/

/-- The subframe buffer of one satellite. -/
abbrev Row := Vector UInt8 380

structure Processor where
  currTime : GTime
  /-- Lock times in seconds by satellite and signal slot; an absent satellite has no slots. -/
  signalTrackLockTimes : UInt8 → UInt8 → Option ℚ
  signalTrackState : UInt8 → UInt8 → Option UInt8
  subfrm : Vector Row maxSat
  bdsD1SubfrmFlags : Vector UInt8 maxSat

def Processor.init : Processor where
  currTime := ⟨0, 0⟩
  signalTrackLockTimes := fun _ _ => none
  signalTrackState := fun _ _ => none
  subfrm := Vector.replicate maxSat (Vector.replicate 380 0)
  bdsD1SubfrmFlags := Vector.replicate maxSat 0

/-- The array index `x - 1` of an unsigned `x`: 0 wraps around. -/
@[irreducible] def predIndex (x : Nat) : Nat := (x + 0xFFFFFFFF) % 0x100000000

namespace Processor

def row (st : Processor) (sat : Nat) : Checked Row := readAt st.subfrm (predIndex sat)

def setRow (st : Processor) (sat : Nat) (buff : Row) : Checked Processor := do
  let subfrm ← writeAt st.subfrm (predIndex sat) buff
  pure { st with subfrm }

def flags (st : Processor) (sat : Nat) : Checked UInt8 :=
  readAt st.bdsD1SubfrmFlags (predIndex sat)

def setFlags (st : Processor) (sat : Nat) (flags : UInt8) : Checked Processor := do
  let bdsD1SubfrmFlags ← writeAt st.bdsD1SubfrmFlags (predIndex sat) flags
  pure { st with bdsD1SubfrmFlags }

end Processor

theorem predIndex_eq {x : Nat} (pos : 0 < x) (le : x ≤ maxSat) : predIndex x = x - 1 := by
  unfold maxSat at le
  unfold predIndex
  omega

end GnssParser
