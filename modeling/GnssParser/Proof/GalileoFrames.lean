import GnssParser.Proof.SatelliteState
import GnssParser.Proof.Crc24q
import GnssParser.Proof.Subframe

/-!
# Galileo frames

Word `type` lies in bits `128 * type` to `128 * type + 127` of a row, and byte 112 holds the flags.
-/

namespace GnssParser
open Checked BitView

def galField (row : Row) (type pos len : Nat) : Nat := field (bufferBit row) (128 * type + pos) len

/-- The consistency of words 0 to 5 for a satellite. -/
structure GalConsistent (sat : Nat) (row : Row) : Prop where
  types : ∀ i < 6, galField row i 0 6 = i
  timeField : galField row 0 6 2 = 2
  issues : ∀ i < 5, 1 ≤ i → galField row i 6 10 = galField row 1 6 10
  svid : sat = satNo sysGal (galField row 4 16 6)

def galLocalsOf (row : Row) : GalLocals where
  type0 := UInt32.ofNat (galField row 0 0 6)
  type1 := UInt32.ofNat (galField row 1 0 6)
  type2 := UInt32.ofNat (galField row 2 0 6)
  type3 := UInt32.ofNat (galField row 3 0 6)
  type4 := UInt32.ofNat (galField row 4 0 6)
  type5 := UInt32.ofNat (galField row 5 0 6)
  timeF := UInt32.ofNat (galField row 0 6 2)
  week := UInt32.ofNat (galField row 0 96 12)
  tow := UInt32.ofNat (galField row 0 108 20)
  iodNav0 := UInt32.ofNat (galField row 1 6 10)
  iodNav1 := UInt32.ofNat (galField row 2 6 10)
  iodNav2 := UInt32.ofNat (galField row 3 6 10)
  iodNav3 := UInt32.ofNat (galField row 4 6 10)
  svid := UInt32.ofNat (galField row 4 16 6)
  toes := (galField row 1 16 14 : ℚ) * 60
  toc := (galField row 4 54 14 : ℚ) * 60

def galSetTimes (row : Row) : SetTimes := (galTimes (galLocalsOf row) { sat := 0 }).times

theorem galField_lt (row : Row) (type pos len : Nat) : galField row type pos len < 2 ^ len :=
  field_lt _ _ _

theorem galLocals_ok (row : Row) : galLocals (readAt row) = .ok (galLocalsOf row) := by
  have view := exposes_readAt row
  have toes : doubleOfUInt (UInt32.ofNat (galField row 1 16 14)) = galField row 1 16 14 :=
    doubleOfUInt_ofNat (by have := galField_lt row 1 16 14; omega)
  have toc : doubleOfUInt (UInt32.ofNat (galField row 4 54 14)) = galField row 4 54 14 :=
    doubleOfUInt_ofNat (by have := galField_lt row 4 54 14; omega)
  simp (disch := omega) only [galLocals, getbitu_ok view, ok_bind, bitsU]
  change Except.ok (GalLocals.mk _ _ _ _ _ _ _ _ _ _ _ _ _ _
    (doubleOfUInt (UInt32.ofNat (galField row 1 16 14)) * 60)
    (doubleOfUInt (UInt32.ofNat (galField row 4 54 14)) * 60)) = _
  rw [toes, toc]
  rfl

structure GalPasses (sat : Nat) (l : GalLocals) : Prop where
  types : ¬ (l.type0 ≠ 0 ∨ l.type1 ≠ 1 ∨ l.type2 ≠ 2 ∨ l.type3 ≠ 3 ∨ l.type4 ≠ 4 ∨ l.type5 ≠ 5)
  timeField : ¬ l.timeF ≠ 2
  issues : ¬ (l.iodNav0 ≠ l.iodNav1 ∨ l.iodNav0 ≠ l.iodNav2 ∨ l.iodNav0 ≠ l.iodNav3)
  svid : ¬ sat ≠ satNo sysGal l.svid.toNat

theorem galPasses_iff (sat : Nat) (row : Row) :
    GalPasses sat (galLocalsOf row) ↔ GalConsistent sat row := by
  have type := fun i (h : i < 6) => (ofNat_inj (a := galField row i 0 6) (b := i)
    (by have := galField_lt row i 0 6; omega) (by omega))
  have time := ofNat_inj (a := galField row 0 6 2) (b := 2)
    (by have := galField_lt row 0 6 2; omega) (by omega)
  have issue := fun i => ofNat_inj (a := galField row 1 6 10) (b := galField row i 6 10)
    (by have := galField_lt row 1 6 10; omega) (by have := galField_lt row i 6 10; omega)
  have svid : (UInt32.ofNat (galField row 4 16 6)).toNat = galField row 4 16 6 := by
    have := galField_lt row 4 16 6
    rw [UInt32.toNat_ofNat', Nat.mod_eq_of_lt (by omega)]
  constructor
  · rintro ⟨types, timeField, issues, number⟩
    simp only [not_or, not_not] at types issues
    obtain ⟨t0, t1, t2, t3, t4, t5⟩ := types
    obtain ⟨i2, i3, i4⟩ := issues
    refine ⟨fun i h => ?_, time.mp (not_not.mp timeField), fun i h lower => ?_, ?_⟩
    · refine (type i h).mp ?_
      interval_cases i <;> assumption
    · interval_cases i
      · rfl
      · exact ((issue 2).mp i2).symm
      · exact ((issue 3).mp i3).symm
      · exact ((issue 4).mp i4).symm
    · rw [← svid]
      exact not_not.mp number
  · rintro ⟨types, timeField, issues, number⟩
    refine ⟨?_, not_not.mpr (time.mpr timeField), ?_, ?_⟩
    · simp only [not_or, not_not]
      exact ⟨(type 0 (by omega)).mpr (types 0 (by omega)),
        (type 1 (by omega)).mpr (types 1 (by omega)), (type 2 (by omega)).mpr (types 2 (by omega)),
        (type 3 (by omega)).mpr (types 3 (by omega)), (type 4 (by omega)).mpr (types 4 (by omega)),
        (type 5 (by omega)).mpr (types 5 (by omega))⟩
    · simp only [not_or, not_not]
      exact ⟨(issue 2).mpr (issues 2 (by omega) (by omega)).symm,
        (issue 3).mpr (issues 3 (by omega) (by omega)).symm,
        (issue 4).mpr (issues 4 (by omega) (by omega)).symm⟩
    · rw [not_not]
      exact number.trans (congrArg (satNo sysGal) svid.symm)

def galLocalsAt (bit : Nat → Bool) : GalLocals where
  type0 := bitsU bit 0 6
  type1 := bitsU bit 128 6
  type2 := bitsU bit (128 * 2) 6
  type3 := bitsU bit (128 * 3) 6
  type4 := bitsU bit (128 * 4) 6
  type5 := bitsU bit (128 * 5) 6
  timeF := bitsU bit 6 2
  week := bitsU bit 96 12
  tow := bitsU bit 108 20
  iodNav0 := bitsU bit (128 + 6) 10
  iodNav1 := bitsU bit (128 * 2 + 6) 10
  iodNav2 := bitsU bit (128 * 3 + 6) 10
  iodNav3 := bitsU bit (128 * 4 + 6) 10
  svid := bitsU bit (128 * 4 + 16) 6
  toes := (field bit (128 + 16) 14 : ℚ) * 60
  toc := (field bit (128 * 4 + 54) 14 : ℚ) * 60

def galSqrtA (bit : Nat → Bool) : ℚ := field bit (128 + 94) 32 * p2_19

def galHealth (bit : Nat → Bool) : UInt32 :=
  (bitsU bit (128 * 5 + 67) 2 <<< 7) ||| (bitsU bit (128 * 5 + 71) 1 <<< 6) |||
    (bitsU bit (128 * 5 + 69) 2 <<< 1) ||| bitsU bit (128 * 5 + 72) 1

def galRead (bit : Nat → Bool) (ephem : Ephem) : Ephem :=
  { ephem with
    m0 := signedField bit (128 + 30) 32 * p2_31 * sc2rad
    e := field bit (128 + 62) 32 * p2_33
    omg0 := signedField bit (128 * 2 + 16) 32 * p2_31 * sc2rad
    i0 := signedField bit (128 * 2 + 48) 32 * p2_31 * sc2rad
    omg := signedField bit (128 * 2 + 80) 32 * p2_31 * sc2rad
    iDot := signedField bit (128 * 2 + 112) 14 * p2_43 * sc2rad
    omgDot := signedField bit (128 * 3 + 16) 24 * p2_43 * sc2rad
    deltaN := signedField bit (128 * 3 + 40) 16 * p2_43 * sc2rad
    cuc := signedField bit (128 * 3 + 56) 16 * p2_29
    cus := signedField bit (128 * 3 + 72) 16 * p2_29
    crc := signedField bit (128 * 3 + 88) 16 * p2_5
    crs := signedField bit (128 * 3 + 104) 16 * p2_5
    ura := uraOfSisa (bitsU bit (128 * 3 + 120) 8)
    cic := signedField bit (128 * 4 + 22) 16 * p2_29
    cis := signedField bit (128 * 4 + 38) 16 * p2_29
    af0 := signedField bit (128 * 4 + 68) 31 * p2_34
    af1 := signedField bit (128 * 4 + 99) 21 * p2_46
    af2 := signedField bit (128 * 4 + 120) 6 * p2_59
    tgd := #v[signedField bit (128 * 5 + 47) 10 * p2_32,
      signedField bit (128 * 5 + 57) 10 * p2_32] }

/-- The ephemeris that words 0 to 5 encode in a row with bits `bit`. -/
def galSet (bit : Nat → Bool) (ephem : Ephem) : Ephem :=
  galDecoded (galLocalsAt bit) (galSqrtA bit) (galHealth bit) (galRead bit ephem)

theorem galFields_ok {p : BytePtr} {bit : Nat → Bool} (view : Exposes p bit 380) (ephem : Ephem) :
    galFields p ephem = .ok (galSqrtA bit, galHealth bit, galRead bit ephem) := by
  have tgd : (#v[doubleOfInt (bitsS bit (128 * 5 + 47) 10) * p2_32,
      doubleOfInt (bitsS bit (128 * 5 + 57) 10) * p2_32] : Vector ℚ 2) =
      #v[signedField bit (128 * 5 + 47) 10 * p2_32, signedField bit (128 * 5 + 57) 10 * p2_32] := by
    rw [doubleOfInt_bitsS _ _ (by omega) (by omega), doubleOfInt_bitsS _ _ (by omega) (by omega)]
  simp (disch := omega) only [galFields, getbitu_ok view, getbits_ok view, ok_bind, pure_eq]
  rw [tgd]
  simp (disch := omega) only [doubleOfUInt_bitsU, doubleOfInt_bitsS]
  rfl

section
variable {bit bit' : Nat → Bool} (same : ∀ j < 896, bit j = bit' j)
include same

theorem field_galCongr {pos len : Nat} (inside : pos + len ≤ 896) :
    field bit pos len = field bit' pos len :=
  field_congr fun j _ upper => same j (by omega)

theorem bitsU_galCongr {pos len : Nat} (inside : pos + len ≤ 896) :
    bitsU bit pos len = bitsU bit' pos len := by
  rw [bitsU, bitsU, field_galCongr same inside]

theorem signedField_galCongr {pos len : Nat} (inside : pos + len ≤ 896) :
    signedField bit pos len = signedField bit' pos len := by
  rw [signedField, signedField, field_galCongr same inside]

theorem galLocalsAt_congr : galLocalsAt bit = galLocalsAt bit' := by
  simp (disch := omega) only [galLocalsAt, field_galCongr same, bitsU_galCongr same]

theorem galHealth_congr : galHealth bit = galHealth bit' := by
  simp (disch := omega) only [galHealth, bitsU_galCongr same]

theorem galRead_congr (ephem : Ephem) : galRead bit ephem = galRead bit' ephem := by
  have tgd : (#v[signedField bit (128 * 5 + 47) 10 * p2_32,
      signedField bit (128 * 5 + 57) 10 * p2_32] : Vector ℚ 2) =
      #v[signedField bit' (128 * 5 + 47) 10 * p2_32, signedField bit' (128 * 5 + 57) 10 * p2_32] := by
    rw [signedField_galCongr same (by omega), signedField_galCongr same (by omega)]
  rw [galRead, tgd]
  simp (disch := omega) only [galRead, field_galCongr same, bitsU_galCongr same,
    signedField_galCongr same]

theorem galSet_congr (ephem : Ephem) : galSet bit ephem = galSet bit' ephem := by
  have sqrtA : galSqrtA bit = galSqrtA bit' := by
    rw [galSqrtA, galSqrtA, field_galCongr same (by omega)]
  rw [galSet, galSet, galLocalsAt_congr same, galHealth_congr same, galRead_congr same, sqrtA]

end

theorem galTimes_sat (l : GalLocals) (ephem : Ephem) : (galTimes l ephem).sat = ephem.sat := by
  rw [galTimes]
  exact Ephem.withTimes_sat _ _ _ _ _ _

theorem galDecoded_sat (l : GalLocals) (sqrtA : ℚ) (health : UInt32) (ephem : Ephem) :
    (galDecoded l sqrtA health ephem).sat = ephem.sat := by
  rw [galDecoded]
  exact galTimes_sat l _

theorem galSet_ttr (bit : Nat → Bool) (ephem : Ephem) :
    (galSet bit ephem).ttr = gst2time (field bit 96 12) (field bit 108 20) := by
  change gst2time ((bitsU bit 96 12).toNat : Int) (doubleOfUInt (bitsU bit 108 20)) = _
  rw [doubleOfUInt_bitsU _ _ (by omega), bitsU_toNat _ _ (by omega)]

theorem galSet_sent (bit : Nat → Bool) (ephem : Ephem) : (galSet bit ephem).ttr.time ≠ 0 := by
  rw [galSet_ttr]
  exact gst2time_sent (field_lt bit 96 12) (field_lt bit 108 20)

theorem galDecoded_times (row : Row) (sqrtA : ℚ) (health : UInt32) (ephem : Ephem) :
    (galDecoded (galLocalsOf row) sqrtA health ephem).times = galSetTimes row := rfl

def galSpec (sat : Nat) : SetSpec where
  consistent := GalConsistent sat
  leaks := fun _ => False
  times := galSetTimes

theorem decodeGalEphem_ok {ephem : Ephem} (valid : ValidSat ephem.sat) (row : Row) :
    ∃ rc e row' time, e.sat = ephem.sat ∧
      SetOutcome (galSpec ephem.sat) ephem (some row) e ∧
      (GalConsistent ephem.sat row →
        rc = 0 ∧ e = galSet (bufferBit row) ephem ∧ row' = Vector.replicate 380 0) ∧
      ∀ st flags, st.Holds ephem.sat row flags → decodeGalEphem st ephem =
        .ok (rc, st.update ephem.sat row' flags time, e) := by
  have read := galFields_ok (exposes_readAt row) ephem
  have checks := galPasses_iff ephem.sat row
  have locals := galLocals_ok row
  have set : galSet (bufferBit row) ephem = galDecoded (galLocalsOf row) (galSqrtA (bufferBit row))
    (galHealth (bufferBit row)) (galRead (bufferBit row) ephem) := rfl
  have times := galDecoded_times row (galSqrtA (bufferBit row)) (galHealth (bufferBit row))
    (galRead (bufferBit row) ephem)
  have sat : (galRead (bufferBit row) ephem).sat = ephem.sat := rfl
  have ttr : (galRead (bufferBit row) ephem).ttr = ephem.ttr := rfl
  generalize galRead (bufferBit row) ephem = e1 at read set times sat ttr
  generalize galSqrtA (bufferBit row) = sqrtA at read set times
  generalize galHealth (bufferBit row) = health at read set times
  generalize galLocalsOf row = l at checks times locals set
  obtain ⟨cleared, wiped, zeros⟩ := clearRow_ok row (show 380 ≤ 380 by omega)
  have zero : cleared = Vector.replicate 380 0 := by
    ext i h
    rw [zeros i h, if_pos h, Vector.getElem_replicate]
  have entered : ∀ st flags, st.Holds ephem.sat row flags → decodeGalEphem st ephem =
      if l.type0 ≠ 0 ∨ l.type1 ≠ 1 ∨ l.type2 ≠ 2 ∨ l.type3 ≠ 3 ∨ l.type4 ≠ 4 ∨ l.type5 ≠ 5 then
        .ok (-1, st, e1)
      else if l.timeF ≠ 2 then .ok (-1, st, e1)
      else if l.iodNav0 ≠ l.iodNav1 ∨ l.iodNav0 ≠ l.iodNav2 ∨ l.iodNav0 ≠ l.iodNav3 then
        .ok (0, st, e1)
      else if e1.sat ≠ satNo sysGal l.svid.toNat then .ok (0, st, e1)
      else .ok (0, st.update ephem.sat cleared flags (some (galDecoded l sqrtA health e1).ttr),
        galDecoded l sqrtA health e1) := by
    intro st flags holds
    have stamped := st.holds_update valid row flags (some (galDecoded l sqrtA health e1).ttr)
    rw [decodeGalEphem, holds.row, ok_bind]
    dsimp only
    rw [locals, ok_bind, read, ok_bind]
    dsimp only
    rw [galDecoded_sat, sat, st.update_time valid holds, stamped.row, ok_bind, wiped, ok_bind,
      Processor.setRow_ok valid stamped, ok_bind, st.update_update]
    rfl
  by_cases passed : GalConsistent ephem.sat row
  · obtain ⟨types, timeField, issues, svid⟩ := checks.mpr passed
    refine ⟨0, galDecoded l sqrtA health e1, cleared, some (galDecoded l sqrtA health e1).ttr,
      (galDecoded_sat _ _ _ _).trans sat, .decoded passed id times, fun _ => ⟨rfl, set.symm, zero⟩,
      fun st flags holds => ?_⟩
    rw [entered st flags holds, if_neg types, if_neg timeField, if_neg issues,
      if_neg (by rwa [sat])]
  · have rejected : ∃ rc : Int, ∀ st flags, st.Holds ephem.sat row flags →
        decodeGalEphem st ephem = .ok (rc, st, e1) := by
      by_cases types : l.type0 ≠ 0 ∨ l.type1 ≠ 1 ∨ l.type2 ≠ 2 ∨ l.type3 ≠ 3 ∨ l.type4 ≠ 4 ∨
          l.type5 ≠ 5
      · exact ⟨-1, fun st flags holds => by rw [entered st flags holds, if_pos types]⟩
      by_cases timeField : l.timeF ≠ 2
      · exact ⟨-1, fun st flags holds => by
          rw [entered st flags holds, if_neg types, if_pos timeField]⟩
      by_cases issues : l.iodNav0 ≠ l.iodNav1 ∨ l.iodNav0 ≠ l.iodNav2 ∨ l.iodNav0 ≠ l.iodNav3
      · exact ⟨0, fun st flags holds => by
          rw [entered st flags holds, if_neg types, if_neg timeField, if_pos issues]⟩
      by_cases svid : e1.sat ≠ satNo sysGal l.svid.toNat
      · exact ⟨0, fun st flags holds => by
          rw [entered st flags holds, if_neg types, if_neg timeField, if_neg issues,
            if_pos svid]⟩
      · exact absurd (checks.mp ⟨types, timeField, issues, by rwa [← sat]⟩) passed
    obtain ⟨rc, ran⟩ := rejected
    refine ⟨rc, e1, row, none, sat, .rejected passed id ttr, fun set => absurd set passed,
      fun st flags holds => ?_⟩
    rw [ran st flags holds, st.update_self valid holds]

/-! ## Pages -/

/-- The bits of a page that its CRC covers: a pad, the even part and the start of the odd part. -/
def galCheckBits (bit : Nat → Bool) : List Bool :=
  List.replicate 4 false ++ (List.range 114).map bit ++ (List.range 82).map fun j => bit (128 + j)

/-- Bit `k` of the word in a page: 112 bits of the even part and 16 bits of the odd part. -/
def galWordBit (bit : Nat → Bool) (k : Nat) : Bool :=
  if k < 112 then bit (2 + k) else bit (128 + 2 + (k - 112))

section
variable {buff : Vector UInt8 32}

def oddBit (buff : Vector UInt8 32) (i : Nat) : Bool := bufferBit buff (8 * 16 + i)

theorem exposes_odd (buff : Vector UInt8 32) :
    Exposes (BytePtr.add (readAt buff) 16) (oddBit buff) 16 :=
  Exposes.add (m := 16) (exposes_readAt buff)

theorem copyBits_ok {p : BytePtr} {bit : Nat → Bool} {m : Nat} (view : Exposes p bit m)
    (crcBuff : Vector UInt8 26) {base count : Nat} (inside : count ≤ m)
    (fits : base + 8 * count ≤ 208) :
    ∃ crcBuff', forRange (fun i (crcBuff : Vector UInt8 26) => do
        setbitu crcBuff 0 (base + 8 * i) 8 (← getbitu p (i * 8) 8)) 0 count crcBuff =
          .ok crcBuff' ∧
      ∀ j, bufferBit crcBuff' j =
        if base ≤ j ∧ j < base + 8 * count then bit (j - base) else bufferBit crcBuff j := by
  obtain ⟨crcBuff', ran, bits⟩ := forRange_invariant
    (fun i (crcBuff : Vector UInt8 26) => do
      setbitu crcBuff 0 (base + 8 * i) 8 (← getbitu p (i * 8) 8))
    (fun i (now : Vector UInt8 26) => ∀ j, bufferBit now j =
      if base ≤ j ∧ j < base + 8 * i then bit (j - base) else bufferBit crcBuff j)
    0 count crcBuff (fun j => by rw [if_neg (by omega)]) <| by
      intro i now _ upper bits
      obtain ⟨next, wrote, changed⟩ := setbitu_ok now 0 (base + 8 * i) (bitsU bit (i * 8) 8)
        (show 0 < 8 by omega) (by omega) (by omega)
      refine ⟨next, by rw [getbitu_ok view (by omega), ok_bind, wrote], fun j => ?_⟩
      rw [changed]
      by_cases here : base + 8 * i ≤ j ∧ j < base + 8 * i + 8
      · rw [if_pos (by omega), if_pos (by omega), bitsU_toNat _ _ (by omega),
          show 8 * 0 + (base + 8 * i) + 8 - 1 - j = 8 - 1 - (j - (base + 8 * i)) by omega,
          testBit_field bit (i * 8) (by omega)]
        congr 1
        omega
      · rw [if_neg (by omega), bits]
        simp only [show (base ≤ j ∧ j < base + 8 * (i + 1)) ↔ (base ≤ j ∧ j < base + 8 * i) by omega]
  exact ⟨crcBuff', ran, fun j => by rw [bits, Nat.zero_add]⟩

def galCrcBuff (buff : Vector UInt8 32) : Checked (Vector UInt8 26) := do
  let crcBuff ← forRange (fun i crcBuff => do
    setbitu crcBuff 0 (4 + 8 * i) 8 (← getbitu (readAt buff) (i * 8) 8)) 0 15 (Vector.replicate 26 0)
  forRange (fun i crcBuff => do
    setbitu crcBuff 0 (118 + 8 * i) 8 (← getbitu (BytePtr.add (readAt buff) 16) (i * 8) 8))
    0 11 crcBuff

theorem galCrc_eq (buff : Vector UInt8 32) :
    galCrc buff = galCrcBuff buff >>= fun crcBuff => crc24q (readAt crcBuff) 25 := by
  rw [galCrc, galCrcBuff, bind_assoc]

theorem bufferBit_zero (j : Nat) : bufferBit (Vector.replicate 26 (0 : UInt8)) j = false := by
  unfold bufferBit
  split
  · rw [Vector.getElem_replicate]
    simp [byteBit]
  · rfl

theorem galCrcBuff_ok (buff : Vector UInt8 32) :
    ∃ crcBuff, galCrcBuff buff = .ok crcBuff ∧
      (crcBuff.toList.take 25).flatMap byteBits = galCheckBits (bufferBit buff) := by
  obtain ⟨first, ran, bits⟩ := copyBits_ok (exposes_readAt buff) (Vector.replicate 26 0)
    (show 15 ≤ 32 by omega) (show 4 + 8 * 15 ≤ 208 by omega)
  obtain ⟨second, ran', bits'⟩ := copyBits_ok (exposes_odd buff) first
    (show 11 ≤ 16 by omega) (show 118 + 8 * 11 ≤ 208 by omega)
  refine ⟨second, by rw [galCrcBuff, ran, ok_bind, ran'], ?_⟩
  refine (flatMap_bits second (k := 25) (by omega)).trans ?_
  refine List.ext_getElem (by simp [galCheckBits]) fun j h h' => ?_
  have inside : j < 200 := by simpa using h
  rw [List.getElem_map, List.getElem_range, bits']
  by_cases odd : 118 ≤ j
  · rw [if_pos (by omega)]
    simp only [galCheckBits]
    rw [List.getElem_append_right (by simp; omega)]
    simp [oddBit]
  · rw [if_neg (by omega), bits]
    simp only [galCheckBits]
    rw [List.getElem_append_left (by simp; omega)]
    by_cases even : 4 ≤ j
    · rw [if_pos (by omega), List.getElem_append_right (by simpa using even)]
      simp
    · rw [if_neg (by omega), bufferBit_zero, List.getElem_append_left (by simpa using even),
        List.getElem_replicate]

theorem galCrc_ok (buff : Vector UInt8 32) :
    ∃ crc, galCrc buff = .ok crc ∧
      crc.toNat = Crc.remainder crc24qPoly 24 (galCheckBits (bufferBit buff)) := by
  obtain ⟨crcBuff, assembled, checked⟩ := galCrcBuff_ok buff
  have size : (crcBuff.toList.take 25).length = 25 := by simp
  have reads : ∀ i (h : i < (crcBuff.toList.take 25).length),
      readAt crcBuff i = .ok (crcBuff.toList.take 25)[i] := by
    intro i h
    have bound : i < 26 := by omega
    rw [readAt_ok bound, List.getElem_take, Vector.getElem_toList]
  obtain ⟨crc, computed, value⟩ := crc24q_ok (crcBuff.toList.take 25) reads
  rw [size] at computed
  refine ⟨crc, by rw [galCrc_eq, assembled, ok_bind, computed], ?_⟩
  rw [value, crc24qOf, checked]

theorem copyBytes_ok {p : BytePtr} {bit : Nat → Bool} {m : Nat} (view : Exposes p bit m)
    (row : Row) {base count : Nat} (inside : 2 + 8 * count ≤ 8 * m) (fits : base + count ≤ 380) :
    ∃ row', forRange (fun i (row : Row) => do
        writeAt row (base + i) (← getbitu p (2 + 8 * i) 8).toUInt8) 0 count row = .ok row' ∧
      ∀ j, bufferBit row' j =
        if 8 * base ≤ j ∧ j < 8 * base + 8 * count then bit (2 + (j - 8 * base))
        else bufferBit row j := by
  obtain ⟨row', ran, bits⟩ := forRange_invariant
    (fun i (row : Row) => do
      writeAt row (base + i) (← getbitu p (2 + 8 * i) 8).toUInt8)
    (fun i (now : Row) => ∀ j, bufferBit now j =
      if 8 * base ≤ j ∧ j < 8 * base + 8 * i then bit (2 + (j - 8 * base)) else bufferBit row j)
    0 count row (fun j => by rw [if_neg (by omega)]) <| by
      intro i now _ upper bits
      refine ⟨_, by rw [getbitu_ok view (by omega), ok_bind, writeAt_ok (by omega)], fun j => ?_⟩
      rw [bufferBit_set, bits]
      by_cases here : j / 8 = base + i
      · rw [if_pos here, if_pos (by omega), byteBit_bitsU _ _ (by omega)]
        congr 1
        omega
      · rw [if_neg here]
        simp only [show (8 * base ≤ j ∧ j < 8 * base + 8 * (i + 1)) ↔
          (8 * base ≤ j ∧ j < 8 * base + 8 * i) by omega]
  exact ⟨row', ran, fun j => by rw [bits, Nat.zero_add]⟩

def galSavedBit (row : Row) (bit : Nat → Bool) (type j : Nat) : Bool :=
  if 128 * type ≤ j ∧ j < 128 * type + 128 then galWordBit bit (j - 128 * type)
  else bufferBit row j

theorem galSave_ok (buff : Vector UInt8 32) {type : Nat} (small : type ≤ 6) (row : Row) :
    ∃ row', galSave buff type row = .ok row' ∧
      ∀ j, bufferBit row' j = galSavedBit row (bufferBit buff) type j := by
  obtain ⟨first, ran, bits⟩ := copyBytes_ok (exposes_readAt buff) row
    (show 2 + 8 * 14 ≤ 8 * 32 by omega) (show type * 16 + 14 ≤ 380 by omega)
  obtain ⟨second, ran', bits'⟩ := copyBytes_ok (exposes_odd buff) first
    (show 2 + 8 * 2 ≤ 8 * 16 by omega) (show type * 16 + 14 + 2 ≤ 380 by omega)
  refine ⟨second, by rw [galSave, ran, ok_bind, ran'], fun j => ?_⟩
  rw [bits', bits, galSavedBit, galWordBit]
  by_cases odd : 8 * (type * 16 + 14) ≤ j ∧ j < 8 * (type * 16 + 14) + 8 * 2
  · rw [if_pos odd, if_pos (by omega), if_neg (by omega), oddBit]
    congr 1
    omega
  · rw [if_neg odd]
    by_cases even : 8 * (type * 16) ≤ j ∧ j < 8 * (type * 16) + 8 * 14
    · rw [if_pos even, if_pos (by omega), if_pos (by omega)]
      congr 1
      omega
    · rw [if_neg even, if_neg (by omega)]

def galFlags (flags : UInt8) (type : Nat) : UInt8 :=
  (if type = 2 then 0 else flags) ||| (1 <<< UInt8.ofNat type)

theorem galStore_ok (buff : Vector UInt8 32) {type : Nat} (small : type ≤ 6) (row : Row) :
    ∃ row', galStore buff type row = .ok row' ∧ row'[112] = galFlags row[112] type ∧
      ∀ j < 896, bufferBit row' j = galSavedBit row (bufferBit buff) type j := by
  have flagged : ∀ fresh : Row, ∃ row', (do
      let row ← galSave buff type fresh
      writeAt row 112 ((← readAt row 112) ||| (1 <<< UInt8.ofNat type))) = .ok row' ∧
      row'[112] = fresh[112] ||| (1 <<< UInt8.ofNat type) ∧
      ∀ j < 896, bufferBit row' j = galSavedBit fresh (bufferBit buff) type j := by
    intro fresh
    obtain ⟨saved, stored, bits⟩ := galSave_ok buff small fresh
    have kept : saved[112] = fresh[112] := by
      refine byte_ext fun k h => ?_
      have bit := bits (8 * 112 + k)
      rw [galSavedBit, if_neg (by omega), bufferBit_byte _ (by omega) h,
        bufferBit_byte _ (by omega) h] at bit
      exact bit
    refine ⟨saved.set 112 (saved[112] ||| (1 <<< UInt8.ofNat type)),
      by rw [stored, ok_bind, readAt_ok (by omega), ok_bind, writeAt_ok (by omega)], ?_,
      fun j inside => ?_⟩
    · rw [Vector.getElem_set_self, kept]
    · rw [bufferBit_set, if_neg (by omega), bits]
  by_cases second : type = 2
  · obtain ⟨row', stored, flag, bits⟩ := flagged (row.set 112 0)
    refine ⟨row', by rw [galStore, if_pos second, writeAt_ok (by omega), ok_bind]; exact stored,
      ?_, fun j inside => ?_⟩
    · rw [flag, Vector.getElem_set_self, galFlags, if_pos second]
    · have other : bufferBit (row.set 112 0) j = bufferBit row j := by
        rw [bufferBit_set, if_neg (by omega)]
      rw [bits j inside, galSavedBit, galSavedBit, other]
  · obtain ⟨row', stored, flag, bits⟩ := flagged row
    refine ⟨row', by rw [galStore, if_neg second, pure_eq, ok_bind]; exact stored, ?_, bits⟩
    rw [flag, galFlags, if_neg second]

end

/-- The bytes and the word type of a frame whose page the decoder stores. -/
def galPage (msg : List UInt8) : Checked (Option (Vector UInt8 32 × Nat)) := do
  if msg.length < 48 then pure none
  else do
    let buff ← navBytes 8 msg (Vector.replicate 32 0)
    let part1 ← getbitu (readAt buff) 0 1
    let page1 ← getbitu (readAt buff) 1 1
    let part2 ← getbitu (BytePtr.add (readAt buff) 16) 0 1
    let page2 ← getbitu (BytePtr.add (readAt buff) 16) 1 1
    if page1 = 1 ∨ page2 = 1 ∨ part1 ≠ 0 ∨ part2 ≠ 1 then pure none
    else if (← galCrc buff) ≠ (← getbitu (BytePtr.add (readAt buff) 16) 82 24) then pure none
    else do
      let type := (← getbitu (readAt buff) 2 6).toNat
      if type > 6 then pure none else pure (some (buff, type))

def galStoreWord (st : Processor) (ephem : Ephem) (buff : Vector UInt8 32) (type : Nat) :
    Checked (Int × Processor × Ephem) := do
  let row ← galStore buff type (← st.row ephem.sat)
  let st ← st.setRow ephem.sat row
  if (← readAt row 112) ≠ 0x7F then pure (0, st, ephem)
  else do
    let (_, st, ephem) ← decodeGalEphem st ephem
    pure (0, st, ephem)

theorem galPage_eq {msg : List UInt8} (long : 48 ≤ msg.length) {buff : Vector UInt8 32}
    (loaded : navBytes 8 msg (Vector.replicate 32 0) = .ok buff) {crc : UInt32}
    (computed : galCrc buff = .ok crc) : galPage msg =
      if bitsU (bufferBit buff) 1 1 = 1 ∨ bitsU (oddBit buff) 1 1 = 1 ∨
        bitsU (bufferBit buff) 0 1 ≠ 0 ∨ bitsU (oddBit buff) 0 1 ≠ 1 then .ok none
      else if crc ≠ bitsU (oddBit buff) 82 24 then .ok none
      else if (bitsU (bufferBit buff) 2 6).toNat > 6 then .ok none
      else .ok (some (buff, (bitsU (bufferBit buff) 2 6).toNat)) := by
  have even := exposes_readAt buff
  have odd := exposes_odd buff
  rw [galPage, if_neg (by omega), loaded, ok_bind]
  simp (disch := omega) only [getbitu_ok even, getbitu_ok odd, computed, ok_bind, pure_eq]

/-- A nominal page with both its parts and a correct CRC. -/
structure GalNominal (bit : Nat → Bool) : Prop where
  evenType : bit 1 = false
  oddType : bit 129 = false
  even : bit 0 = false
  odd : bit 128 = true
  crc : Crc.remainder crc24qPoly 24 (galCheckBits bit) = field bit (128 + 82) 24

instance (bit : Nat → Bool) : Decidable (GalNominal bit) :=
  decidable_of_iff (bit 1 = false ∧ bit 129 = false ∧ bit 0 = false ∧ bit 128 = true ∧
      Crc.remainder crc24qPoly 24 (galCheckBits bit) = field bit (128 + 82) 24)
    ⟨fun ⟨evenType, oddType, even, odd, crc⟩ => ⟨evenType, oddType, even, odd, crc⟩,
      fun h => ⟨h.evenType, h.oddType, h.even, h.odd, h.crc⟩⟩

theorem galCheckBits_congr {bit bit' : Nat → Bool} (same : ∀ j < 256, bit j = bit' j) :
    galCheckBits bit = galCheckBits bit' := by
  rw [galCheckBits, galCheckBits]
  congr 1
  · congr 1
    refine List.map_congr_left fun j mem => same j ?_
    have := List.mem_range.mp mem
    omega
  · refine List.map_congr_left fun j mem => same (128 + j) ?_
    have := List.mem_range.mp mem
    omega

theorem galPage_ok {msg : List UInt8} (long : 48 ≤ msg.length) :
    ∃ buff, (∀ j < 256, bufferBit buff j = navBit msg j) ∧
      galPage msg = .ok (if GalNominal (navBit msg) ∧ field (navBit msg) 2 6 ≤ 6 then
        some (buff, field (navBit msg) 2 6) else none) := by
  obtain ⟨buff, loaded, bytes⟩ := navBytes_ok (Vector.replicate 32 0)
    (show 14 + 4 * 8 ≤ msg.length by omega) (by omega)
  obtain ⟨crc, computed, value⟩ := galCrc_ok buff
  have same : ∀ j < 256, bufferBit buff j = navBit msg j := by
    intro j h
    rw [bufferBit_of_lt buff (by omega), bytes _ _ (by omega), navBit]
  refine ⟨buff, same, ?_⟩
  have odd : ∀ i len, i + len ≤ 128 → bitsU (oddBit buff) i len = bitsU (navBit msg) (128 + i) len := by
    intro i len inside
    rw [bitsU, bitsU, ← field_shift (navBit msg)]
    refine congrArg UInt32.ofNat (field_congr fun j _ upper => ?_)
    exact same (128 + j) (by omega)
  have even : ∀ i len, i + len ≤ 128 → bitsU (bufferBit buff) i len = bitsU (navBit msg) i len := by
    intro i len inside
    rw [bitsU, bitsU, field_congr fun j _ upper => same j (by omega)]
  have checked : crc = bitsU (navBit msg) (128 + 82) 24 ↔
      Crc.remainder crc24qPoly 24 (galCheckBits (navBit msg)) = field (navBit msg) (128 + 82) 24 := by
    rw [← galCheckBits_congr same, ← value, ← UInt32.toNat_inj, bitsU_toNat _ _ (by omega)]
  have kept : GalNominal (navBit msg) ↔ ¬ (bitsU (bufferBit buff) 1 1 = 1 ∨
      bitsU (oddBit buff) 1 1 = 1 ∨ bitsU (bufferBit buff) 0 1 ≠ 0 ∨ bitsU (oddBit buff) 0 1 ≠ 1) ∧
      crc = bitsU (oddBit buff) 82 24 := by
    rw [odd 82 24 (by omega), odd 1 1 (by omega), odd 0 1 (by omega), even 1 1 (by omega),
      even 0 1 (by omega), checked, bitsU_one_iff, bitsU_one_iff, not_or, not_or, not_or, ne_eq,
      ne_eq, not_not, not_not, bitsU_zero_iff, bitsU_one_iff, Bool.not_eq_true, Bool.not_eq_true]
    constructor
    · exact fun h => ⟨⟨h.evenType, h.oddType, h.even, h.odd⟩, h.crc⟩
    · rintro ⟨⟨evenType, oddType, even, odd⟩, crc⟩
      exact ⟨evenType, oddType, even, odd, crc⟩
  rw [galPage_eq long loaded computed]
  by_cases parts : bitsU (bufferBit buff) 1 1 = 1 ∨ bitsU (oddBit buff) 1 1 = 1 ∨
      bitsU (bufferBit buff) 0 1 ≠ 0 ∨ bitsU (oddBit buff) 0 1 ≠ 1
  · rw [if_pos parts, if_neg fun h => (kept.mp h.1).1 parts]
  rw [if_neg parts]
  by_cases damaged : crc ≠ bitsU (oddBit buff) 82 24
  · rw [if_pos damaged, if_neg fun h => damaged (kept.mp h.1).2]
  rw [if_neg damaged, even 2 6 (by omega), bitsU_toNat _ _ (by omega)]
  have nominal := kept.mpr ⟨parts, not_not.mp damaged⟩
  by_cases unused : field (navBit msg) 2 6 > 6
  · rw [if_pos unused, if_neg fun h => absurd h.2 (by omega)]
  · rw [if_neg unused, if_pos ⟨nominal, by omega⟩]

theorem decodeGalSubframe_eq (msg : List UInt8) :
    ∃ rc page, galPage msg = .ok page ∧ (∀ buff type, page = some (buff, type) → type ≤ 6) ∧
      ∀ st ephem, decodeGalSubframe st msg ephem = match page with
        | none => .ok (rc, st, ephem)
        | some (buff, type) => galStoreWord st ephem buff type := by
  by_cases short : msg.length < 48
  · exact ⟨-1, none, by rw [galPage, if_pos short]; rfl, by simp, fun st ephem => by
      rw [decodeGalSubframe, if_pos short]; rfl⟩
  obtain ⟨buff, loaded, _⟩ := navBytes_ok (Vector.replicate 32 0)
    (show 14 + 4 * 8 ≤ msg.length by omega) (by omega)
  obtain ⟨crc, computed, _⟩ := galCrc_ok buff
  have even := exposes_readAt buff
  have odd := exposes_odd buff
  have page := galPage_eq (by omega) loaded computed
  have ran : ∀ st ephem, decodeGalSubframe st msg ephem =
      if bitsU (bufferBit buff) 1 1 = 1 ∨ bitsU (oddBit buff) 1 1 = 1 then
        .ok (0, st, ephem)
      else if bitsU (bufferBit buff) 0 1 ≠ 0 ∨
        bitsU (oddBit buff) 0 1 ≠ 1 then .ok (-1, st, ephem)
      else if crc ≠ bitsU (oddBit buff) 82 24 then .ok (-1, st, ephem)
      else if (bitsU (bufferBit buff) 2 6).toNat > 6 then .ok (0, st, ephem)
      else galStoreWord st ephem buff (bitsU (bufferBit buff) 2 6).toNat := by
    intro st ephem
    rw [decodeGalSubframe, if_neg short, loaded, ok_bind]
    simp (disch := omega) only [getbitu_ok even, getbitu_ok odd, computed, ok_bind]
    rfl
  by_cases alert : bitsU (bufferBit buff) 1 1 = 1 ∨
      bitsU (oddBit buff) 1 1 = 1
  · refine ⟨0, none, ?_, by simp, fun st ephem => by rw [ran, if_pos alert]⟩
    rw [page, if_pos (by rcases alert with h | h <;> simp [h])]
  by_cases parts : bitsU (bufferBit buff) 0 1 ≠ 0 ∨
      bitsU (oddBit buff) 0 1 ≠ 1
  · refine ⟨-1, none, ?_, by simp, fun st ephem => by rw [ran, if_neg alert, if_pos parts]⟩
    rw [page, if_pos (.inr (.inr parts))]
  have nominal : ¬ (bitsU (bufferBit buff) 1 1 = 1 ∨
      bitsU (oddBit buff) 1 1 = 1 ∨ bitsU (bufferBit buff) 0 1 ≠ 0 ∨
      bitsU (oddBit buff) 0 1 ≠ 1) := by
    rintro (h | h | h)
    · exact alert (.inl h)
    · exact alert (.inr h)
    · exact parts h
  by_cases damaged : crc ≠ bitsU (oddBit buff) 82 24
  · exact ⟨-1, none, by rw [page, if_neg nominal, if_pos damaged], by simp, fun st ephem => by
      rw [ran, if_neg alert, if_neg parts, if_pos damaged]⟩
  by_cases unused : (bitsU (bufferBit buff) 2 6).toNat > 6
  · exact ⟨0, none, by rw [page, if_neg nominal, if_neg damaged, if_pos unused], by simp,
      fun st ephem => by rw [ran, if_neg alert, if_neg parts, if_neg damaged, if_pos unused]⟩
  · refine ⟨0, _, by rw [page, if_neg nominal, if_neg damaged, if_neg unused],
      fun buff type same => ?_, fun st ephem => by
        rw [ran, if_neg alert, if_neg parts, if_neg damaged, if_neg unused]⟩
    obtain ⟨rfl, rfl⟩ := Prod.mk.inj (Option.some.inj same)
    omega

def galCompletes (row : Row) (msg : List UInt8) : Checked (Option Row) := do
  match ← galPage msg with
  | none => pure none
  | some (buff, type) => do
      let row ← galStore buff type row
      if (← readAt row 112) = 0x7F then pure (some row) else pure none

theorem decodeGalSubframe_ok (ephem : Ephem) (valid : ValidSat ephem.sat) (msg : List UInt8)
    (row : Row) (flags : UInt8) :
    ∃ rc e row' time set, e.sat = ephem.sat ∧ galCompletes row msg = .ok set ∧
      SetOutcome (galSpec ephem.sat) ephem set e ∧
      ∀ st : Processor, st.Holds ephem.sat row flags →
        decodeGalSubframe st msg ephem = .ok (rc, st.update ephem.sat row' flags time, e) := by
  obtain ⟨rc, page, paged, range, entered⟩ := decodeGalSubframe_eq msg
  cases page with
  | none =>
      refine ⟨rc, ephem, row, none, none, rfl, by rw [galCompletes, paged, ok_bind]; rfl, .stored,
        fun st holds => ?_⟩
      rw [entered, st.update_self valid holds]
  | some stored =>
      obtain ⟨buff, type⟩ := stored
      obtain ⟨row', wrote, _⟩ := galStore_ok buff (range buff type rfl) row
      have flag : readAt row' 112 = .ok row'[112] := readAt_ok (by omega)
      have completes : galCompletes row msg = if row'[112] = 0x7F then .ok (some row') else .ok none := by
        rw [galCompletes, paged, ok_bind]
        dsimp only
        rw [wrote, ok_bind, flag, ok_bind]
        rfl
      have ran : ∀ st : Processor, st.Holds ephem.sat row flags →
          decodeGalSubframe st msg ephem =
            if row'[112] ≠ 0x7F then .ok (0, st.update ephem.sat row' flags none, ephem)
            else (do
              let (_, st, ephem) ← decodeGalEphem (st.update ephem.sat row' flags none) ephem
              pure (0, st, ephem)) := by
        intro st holds
        rw [entered]
        dsimp only
        rw [galStoreWord, holds.row, ok_bind, wrote, ok_bind, st.setRow_ok valid holds, ok_bind,
          flag, ok_bind]
        rfl
      by_cases complete : row'[112] = 0x7F
      · obtain ⟨rc, e, row'', time, sat, outcome, _, decoded⟩ := decodeGalEphem_ok valid row'
        refine ⟨0, e, row'', time, some row', sat, by rw [completes, if_pos complete], outcome,
          fun st holds => ?_⟩
        rw [ran st holds, if_neg (not_not.mpr complete),
          decoded _ _ (st.holds_update valid row' flags none), ok_bind, st.update_update,
          Option.or_none]
        rfl
      · refine ⟨0, ephem, row', none, none, rfl, by rw [completes, if_neg complete], .stored,
          fun st holds => ?_⟩
        rw [ran st holds, if_pos complete]

/-! ## Integrity -/

/-- Unless the page is nominal and its CRC is right, nothing is changed; the CRC is taken of the bits
that it covers. -/
theorem gal_page_integrity {msg : List UInt8} (long : 48 ≤ msg.length) :
    (∃ buff crcBuff, navBytes 8 msg (Vector.replicate 32 0) = .ok buff ∧
      galCrcBuff buff = .ok crcBuff ∧
      (crcBuff.toList.take 25).flatMap byteBits = galCheckBits (navBit msg)) ∧
    (¬ GalNominal (navBit msg) →
      ∃ rc, ∀ st ephem, decodeGalSubframe st msg ephem = .ok (rc, st, ephem)) := by
  constructor
  · obtain ⟨buff, loaded, bytes⟩ := navBytes_ok (Vector.replicate 32 0)
      (show 14 + 4 * 8 ≤ msg.length by omega) (by omega)
    obtain ⟨crcBuff, assembled, checked⟩ := galCrcBuff_ok buff
    refine ⟨buff, crcBuff, loaded, assembled, checked.trans (galCheckBits_congr fun j h => ?_)⟩
    rw [bufferBit_of_lt buff (by omega), bytes _ _ (by omega), navBit]
  · intro damaged
    obtain ⟨buff, _, page⟩ := galPage_ok long
    obtain ⟨rc, found, same, _, ran⟩ := decodeGalSubframe_eq msg
    rw [page, if_neg fun h => damaged h.1] at same
    cases same
    exact ⟨rc, fun st ephem => ran st ephem⟩

/-- Word 1 of satellite 3. -/
def galPage1 : List UInt8 :=
  [0xB5, 0x62, 0x02, 0x13, 0x28, 0x00, 0x02, 0x03, 0x00, 0x00, 0x08, 0x00, 0x02, 0x00, 0x80, 0x56,
    0x02, 0x01, 0x00, 0x00, 0x00, 0x00, 0x00, 0x00, 0x00, 0x00, 0x00, 0x00, 0x00, 0x00, 0x00, 0x00,
    0x00, 0x80, 0x00, 0x00, 0x00, 0x00, 0x3B, 0x1F, 0x00, 0x00, 0x00, 0x00, 0x00, 0x6A, 0x69, 0xA0]

/-- The frame with another bit in the CRC of its page, and the UBX checksum for it. -/
def wrongCrcPage : List UInt8 := ((galPage1.set 38 0x3A).set 46 0x68).set 47 0x98

theorem gal_page_integrity_wrongCrc :
    GalNominal (navBit galPage1) ∧
      ∃ rc, ∀ st ephem, decodeGalSubframe st wrongCrcPage ephem = .ok (rc, st, ephem) :=
  ⟨by decide +kernel, (gal_page_integrity (by decide)).2 (by decide +kernel)⟩

end GnssParser
