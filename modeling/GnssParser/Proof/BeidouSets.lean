import GnssParser.Proof.SatelliteState
import GnssParser.Proof.Subframe

/-!
# BeiDou sets

D1 subframe `i + 1` and D2 page `i + 1` lie in bits `304 * i` to `304 * i + 299` of a row.
-/

namespace GnssParser
open Checked BitView

def bdsField (row : Row) (i pos len : Nat) : Nat := field (bufferBit row) (304 * i + pos) len

def bdsSow (row : Row) (i : Nat) : Nat := 2 ^ 12 * bdsField row i 18 8 + bdsField row i 30 12

theorem bdsField_lt (row : Row) (i pos len : Nat) : bdsField row i pos len < 2 ^ len :=
  field_lt _ _ _

theorem bdsSow_lt (row : Row) (i : Nat) : bdsSow row i < 2 ^ 20 := by
  have high := bdsField_lt row i 18 8
  have low := bdsField_lt row i 30 12
  rw [bdsSow]
  omega

theorem uintOfDouble_nat (n : Nat) : uintOfDouble ((n : ℚ) * 8) = UInt32.ofNat (n * 8) := by
  rw [uintOfDouble, show (n : ℚ) * 8 = ((n * 8 : Nat) : ℚ) by push_cast; ring, truncate_natCast,
    UInt32.ofInt, ← UInt32.toNat_inj, UInt32.toNat_ofNat', UInt32.toNat_ofNat']
  omega

/-! ## D1 sets -/

def d1Toc (row : Row) : Nat := 2 ^ 8 * bdsField row 0 73 9 + bdsField row 0 90 8

def d1Toe (row : Row) : Nat :=
  2 ^ 15 * bdsField row 1 290 2 + (2 ^ 5 * bdsField row 2 42 10 + bdsField row 2 60 5)

structure D1Consistent (row : Row) : Prop where
  ids : ∀ i < 3, bdsField row i 15 3 = i + 1
  sows : ∀ i < 2, bdsSow row (i + 1) = bdsSow row i + 6
  toc : d1Toc row = d1Toe row

def d1LocalsOf (row : Row) : D1Locals where
  frn1 := UInt32.ofNat (bdsField row 0 15 3)
  frn2 := UInt32.ofNat (bdsField row 1 15 3)
  frn3 := UInt32.ofNat (bdsField row 2 15 3)
  sow1 := UInt32.ofNat (bdsSow row 0)
  sow2 := UInt32.ofNat (bdsSow row 1)
  sow3 := UInt32.ofNat (bdsSow row 2)
  bdtWeek := UInt32.ofNat (bdsField row 0 60 13)
  tocBds := (d1Toc row : ℚ) * 8
  toes := UInt32.ofNat (d1Toe row * 8)

def d1SetTimes (row : Row) : SetTimes :=
  let l := d1LocalsOf row
  (bdsTimes { sat := 0 } l.bdtWeek (d1ToeWeek l) l.sow1 l.toes l.tocBds).times

theorem d1Toc_lt (row : Row) : d1Toc row < 2 ^ 17 := by
  have high := bdsField_lt row 0 73 9
  have low := bdsField_lt row 0 90 8
  rw [d1Toc]
  omega

theorem d1Toe_lt (row : Row) : d1Toe row < 2 ^ 17 := by
  have high := bdsField_lt row 1 290 2
  have middle := bdsField_lt row 2 42 10
  have low := bdsField_lt row 2 60 5
  rw [d1Toe]
  omega

theorem d1Locals_ok (row : Row) : d1Locals (readAt row) = .ok (d1LocalsOf row) := by
  have view := exposes_readAt row
  have toc : doubleOfUInt (UInt32.ofNat (d1Toc row)) = d1Toc row :=
    doubleOfUInt_ofNat (by have := d1Toc_lt row; omega)
  have toe : doubleOfUInt (UInt32.ofNat (d1Toe row)) = d1Toe row :=
    doubleOfUInt_ofNat (by have := d1Toe_lt row; omega)
  simp (disch := omega) only [d1Locals, sowOf, getbitu_ok view, getbitu2_ok view, ok_bind, mergeTwoU,
    bitsU2_eq, bitsU, ofNat_shift_add]
  change Except.ok (D1Locals.mk _ _ _ _ _ _ _ (doubleOfUInt (UInt32.ofNat (d1Toc row)) * 8)
    (uintOfDouble (doubleOfUInt (UInt32.ofNat (d1Toe row)) * 8))) = _
  rw [toc, toe, uintOfDouble_nat]
  rfl

theorem bdsId_iff (row : Row) (i pos : Nat) {len id : Nat} (small : len ≤ 4) (value : id ≤ 10) :
    UInt32.ofNat (bdsField row i pos len) ≠ UInt32.ofNat id ↔ bdsField row i pos len ≠ id := by
  have bound := bdsField_lt row i pos len
  have power : 2 ^ len ≤ 2 ^ 4 := Nat.pow_le_pow_right (by omega) small
  rw [ne_eq, ofNat_inj (by omega) (by omega)]

theorem bdsSow_iff (row : Row) (i j : Nat) {step : Nat} (small : step ≤ 6) :
    UInt32.ofNat (bdsSow row j) ≠ UInt32.ofNat (bdsSow row i) + UInt32.ofNat step ↔
      bdsSow row j ≠ bdsSow row i + step := by
  have bound := bdsSow_lt row i
  have bound' := bdsSow_lt row j
  rw [ne_eq, ← UInt32.ofNat_add, ofNat_inj (by omega) (by omega)]

theorem d1Checks_iff (row : Row) :
    D1Consistent row ↔
      ¬ ((d1LocalsOf row).frn1 ≠ 1 ∨ (d1LocalsOf row).frn2 ≠ 2 ∨ (d1LocalsOf row).frn3 ≠ 3) ∧
      ¬ ((d1LocalsOf row).sow2 ≠ (d1LocalsOf row).sow1 + 6 ∨
        (d1LocalsOf row).sow3 ≠ (d1LocalsOf row).sow2 + 6) ∧
      ¬ (d1LocalsOf row).tocBds ≠ doubleOfUInt (d1LocalsOf row).toes := by
  have bound := d1Toe_lt row
  have time : (d1LocalsOf row).tocBds = doubleOfUInt (d1LocalsOf row).toes ↔
      d1Toc row = d1Toe row := by
    change (d1Toc row : ℚ) * 8 = doubleOfUInt (UInt32.ofNat (d1Toe row * 8)) ↔ _
    rw [doubleOfUInt_ofNat (by omega)]
    norm_cast
    omega
  have id := fun i (h : i < 3) => bdsId_iff row i 15 (show 3 ≤ 4 by omega)
    (show i + 1 ≤ 10 by omega)
  rw [ne_eq, not_not, time]
  change _ ↔ ¬ (UInt32.ofNat (bdsField row 0 15 3) ≠ UInt32.ofNat (0 + 1) ∨
    UInt32.ofNat (bdsField row 1 15 3) ≠ UInt32.ofNat (1 + 1) ∨
    UInt32.ofNat (bdsField row 2 15 3) ≠ UInt32.ofNat (2 + 1)) ∧
    ¬ (UInt32.ofNat (bdsSow row 1) ≠ UInt32.ofNat (bdsSow row 0) + UInt32.ofNat 6 ∨
    UInt32.ofNat (bdsSow row 2) ≠ UInt32.ofNat (bdsSow row 1) + UInt32.ofNat 6) ∧ _
  rw [id 0 (by omega), id 1 (by omega), id 2 (by omega), bdsSow_iff row 0 1 (by omega),
    bdsSow_iff row 1 2 (by omega)]
  constructor
  · intro set
    have := set.ids 0 (by omega)
    have := set.ids 1 (by omega)
    have := set.ids 2 (by omega)
    have : bdsSow row 1 = bdsSow row 0 + 6 := set.sows 0 (by omega)
    have : bdsSow row 2 = bdsSow row 1 + 6 := set.sows 1 (by omega)
    exact ⟨by omega, by omega, set.toc⟩
  · rintro ⟨ids, sows, toc⟩
    refine ⟨fun i h => ?_, fun i h => ?_, toc⟩
    · interval_cases i <;> omega
    · interval_cases i <;> simp only [Nat.reduceAdd] <;> omega

section
variable {p : BytePtr} {bit : Nat → Bool}

theorem d1Subframe1_ok (view : Exposes p bit 380) (ephem : Ephem) :
    ∃ e ionoParams, d1Subframe1 p ephem = .ok (e, ionoParams) ∧ e.sat = ephem.sat ∧
      e.ttr = ephem.ttr ∧ ionoParams.length = 8 := by
  simp (disch := omega) only [d1Subframe1, getbitu_ok view, getbits_ok view, getbits2_ok view,
    ok_bind, pure_eq]
  exact ⟨_, _, rfl, rfl, rfl, rfl⟩

theorem d1Subframe2_ok (view : Exposes p bit 380) (ephem : Ephem) :
    ∃ e, d1Subframe2 p ephem = .ok e ∧ e.sat = ephem.sat ∧ e.ttr = ephem.ttr := by
  simp (disch := omega) only [d1Subframe2, getbitu2_ok view, getbits_ok view, getbits2_ok view,
    ok_bind, pure_eq]
  exact ⟨_, rfl, rfl, rfl⟩

theorem d1Subframe3_ok (view : Exposes p bit 380) (ephem : Ephem) :
    ∃ e, d1Subframe3 p ephem = .ok e ∧ e.sat = ephem.sat ∧ e.ttr = ephem.ttr := by
  simp (disch := omega) only [d1Subframe3, getbits2_ok view, ok_bind, pure_eq]
  exact ⟨_, rfl, rfl, rfl⟩

end

/-! A D1 set is read from the 300 bits of each of its subframes. -/

def SameD1 (row row' : Row) : Prop :=
  ∀ i < 3, ∀ j < 300, bufferBit row (304 * i + j) = bufferBit row' (304 * i + j)

theorem SameD1.refl (row : Row) : SameD1 row row := fun _ _ _ _ => rfl

section
variable {row row' : Row} {pos len p1 l1 p2 l2 : Nat}

theorem SameD1.bit (same : SameD1 row row') {k : Nat} (among : k < 912) (inside : k % 304 < 300) :
    bufferBit row k = bufferBit row' k := by
  have place := same (k / 304) (by omega) (k % 304) inside
  rwa [Nat.div_add_mod] at place

theorem SameD1.getbitu_eq (same : SameD1 row row') (among : pos < 912)
    (inside : pos % 304 + len ≤ 300) :
    getbitu (readAt row') pos len = getbitu (readAt row) pos len :=
  getbitu_congr (exposes_readAt row') (exposes_readAt row) (by omega) fun k lower upper =>
    (same.bit (by omega) (by omega)).symm

theorem SameD1.getbits_eq (same : SameD1 row row') (among : pos < 912)
    (inside : pos % 304 + len ≤ 300) :
    getbits (readAt row') pos len = getbits (readAt row) pos len := by
  rw [getbits, getbits, same.getbitu_eq among inside]

theorem SameD1.getbitu2_eq (same : SameD1 row row') (among1 : p1 < 912)
    (inside1 : p1 % 304 + l1 ≤ 300) (among2 : p2 < 912) (inside2 : p2 % 304 + l2 ≤ 300) :
    getbitu2 (readAt row') p1 l1 p2 l2 = getbitu2 (readAt row) p1 l1 p2 l2 := by
  rw [getbitu2, getbitu2, same.getbitu_eq among1 inside1, same.getbitu_eq among2 inside2]

theorem SameD1.getbits2_eq (same : SameD1 row row') (some : 0 < l1) (among1 : p1 < 912)
    (inside1 : p1 % 304 + l1 ≤ 300) (among2 : p2 < 912) (inside2 : p2 % 304 + l2 ≤ 300) :
    getbits2 (readAt row') p1 l1 p2 l2 = getbits2 (readAt row) p1 l1 p2 l2 := by
  rw [getbits2, getbits2, same.getbitu_eq among1 (by omega), same.getbits_eq among1 inside1,
    same.getbitu_eq among2 inside2, same.getbitu2_eq among1 inside1 among2 inside2]

theorem SameD1.subframe1_eq (same : SameD1 row row') (ephem : Ephem) :
    d1Subframe1 (readAt row') ephem = d1Subframe1 (readAt row) ephem := by
  simp (disch := omega) only [d1Subframe1, same.getbitu_eq, same.getbits_eq, same.getbits2_eq]

theorem SameD1.subframe2_eq (same : SameD1 row row') (ephem : Ephem) :
    d1Subframe2 (readAt row') ephem = d1Subframe2 (readAt row) ephem := by
  simp (disch := omega) only [d1Subframe2, same.getbits_eq, same.getbitu2_eq, same.getbits2_eq]

theorem SameD1.subframe3_eq (same : SameD1 row row') (ephem : Ephem) :
    d1Subframe3 (readAt row') ephem = d1Subframe3 (readAt row) ephem := by
  simp (disch := omega) only [d1Subframe3, same.getbits2_eq]

theorem SameD1.locals_eq (same : SameD1 row row') :
    d1Locals (readAt row') = d1Locals (readAt row) := by
  simp (disch := omega) only [d1Locals, sowOf, same.getbitu_eq, same.getbitu2_eq]

end

theorem bdsTimes_times (e e' : Ephem) (ttrWeek toeWeek sow toes : UInt32) (tocBds : ℚ) :
    (bdsTimes e ttrWeek toeWeek sow toes tocBds).times =
      (bdsTimes e' ttrWeek toeWeek sow toes tocBds).times := rfl

theorem bdsTimes_gpst (e : Ephem) (ttrWeek toeWeek sow toes : UInt32) (tocBds : ℚ) :
    ((bdsTimes e ttrWeek toeWeek sow toes tocBds).toeTow,
        (bdsTimes e ttrWeek toeWeek sow toes tocBds).week) =
      time2gpst (bdsTimes e ttrWeek toeWeek sow toes tocBds).toe := rfl

def d1Spec : SetSpec where
  consistent := D1Consistent
  leaks := fun _ => False
  times := d1SetTimes

theorem decodeBdsD1Ephem_ok {ephem : Ephem} (valid : ValidSat ephem.sat) (row : Row)
    (ionoParams : List ℚ) :
    ∃ rc e ionoParams' time, e.sat = ephem.sat ∧
      SetOutcome d1Spec ephem (some row) e ∧
      (rc = 0 ↔ D1Consistent row) ∧ (D1Consistent row → ionoParams'.length = 8) ∧
      (D1Consistent row → (e.toeTow, e.week) = time2gpst e.toe) ∧
      ∀ st row' flags, SameD1 row row' → st.Holds ephem.sat row' flags →
        decodeBdsD1Ephem st ephem ionoParams =
          .ok (rc, st.update ephem.sat row' flags time, e, ionoParams') := by
  have view := exposes_readAt row
  obtain ⟨e1, io, read1, sat1, ttr1, eight⟩ := d1Subframe1_ok view ephem
  obtain ⟨e2, read2, sat2, ttr2⟩ := d1Subframe2_ok view e1
  obtain ⟨e3, read3, sat3, ttr3⟩ := d1Subframe3_ok view e2
  have sat : e3.sat = ephem.sat := by rw [sat3, sat2, sat1]
  have ttr : e3.ttr = ephem.ttr := by rw [ttr3, ttr2, ttr1]
  have checks := d1Checks_iff row
  generalize lv : d1LocalsOf row = l at checks
  have ran : ∀ st row' flags, SameD1 row row' → st.Holds ephem.sat row' flags →
      decodeBdsD1Ephem st ephem ionoParams =
      if l.frn1 ≠ 1 ∨ l.frn2 ≠ 2 ∨ l.frn3 ≠ 3 then .ok (-1, st, e3, ionoParams)
      else if l.sow2 ≠ l.sow1 + 6 ∨ l.sow3 ≠ l.sow2 + 6 then .ok (-1, st, e3, ionoParams)
      else if l.tocBds ≠ doubleOfUInt l.toes then .ok (-1, st, e3, ionoParams)
      else .ok (0, { st with
          currTime := (bdsTimes e3 l.bdtWeek (d1ToeWeek l) l.sow1 l.toes l.tocBds).ttr },
        bdsTimes e3 l.bdtWeek (d1ToeWeek l) l.sow1 l.toes l.tocBds, io) := by
    intro st row' flags same holds
    rw [decodeBdsD1Ephem, holds.row, ok_bind]
    dsimp only
    rw [same.subframe1_eq, read1, ok_bind]
    dsimp only
    rw [same.subframe2_eq, read2, ok_bind, same.subframe3_eq, read3, ok_bind, same.locals_eq,
      d1Locals_ok, ok_bind, lv]
    rfl
  by_cases passed : D1Consistent row
  · obtain ⟨ids, sows, toc⟩ := checks.mp passed
    have times : (bdsTimes e3 l.bdtWeek (d1ToeWeek l) l.sow1 l.toes l.tocBds).times =
        d1SetTimes row := by
      rw [d1SetTimes, lv]
      exact bdsTimes_times _ _ _ _ _ _ _
    have sat : (bdsTimes e3 l.bdtWeek (d1ToeWeek l) l.sow1 l.toes l.tocBds).sat = ephem.sat := sat
    have gpst := bdsTimes_gpst e3 l.bdtWeek (d1ToeWeek l) l.sow1 l.toes l.tocBds
    generalize bdsTimes e3 l.bdtWeek (d1ToeWeek l) l.sow1 l.toes l.tocBds = e
      at ran times sat gpst
    refine ⟨0, e, io, some e.ttr, sat, .decoded passed id times, by simp [passed], fun _ => eight,
      fun _ => gpst, fun st row' flags same holds => ?_⟩
    rw [ran st row' flags same holds, if_neg ids, if_neg sows, if_neg toc,
      st.update_time valid holds]
  · refine ⟨-1, e3, ionoParams, none, sat, .rejected passed id ttr, by simp [passed],
      fun h => absurd h passed, fun h => absurd h passed, fun st row' flags same holds => ?_⟩
    rw [ran st row' flags same holds, st.update_self valid holds]
    by_cases ids : l.frn1 ≠ 1 ∨ l.frn2 ≠ 2 ∨ l.frn3 ≠ 3
    · rw [if_pos ids]
    rw [if_neg ids]
    by_cases sows : l.sow2 ≠ l.sow1 + 6 ∨ l.sow3 ≠ l.sow2 + 6
    · rw [if_pos sows]
    rw [if_neg sows, if_pos fun toc => passed (checks.mpr ⟨ids, sows, fun h => h toc⟩)]

/-! ## D2 sets -/

def d2Toc (row : Row) : Nat := 2 ^ 12 * bdsField row 0 77 5 + bdsField row 0 90 12

def d2Toe (row : Row) : Nat := 2 ^ 15 * bdsField row 6 80 2 + bdsField row 6 90 15

/-- Page 2 is not used. -/
structure D2Consistent (row : Row) : Prop where
  pages : ∀ i < 10, i ≠ 1 → bdsField row i 42 4 = i + 1
  start : bdsSow row 2 = bdsSow row 0 + 6
  sows : ∀ i < 9, 2 ≤ i → bdsSow row (i + 1) = bdsSow row i + 3
  toc : d2Toc row = d2Toe row

theorem d2Toc_lt (row : Row) : d2Toc row < 2 ^ 17 := by
  have high := bdsField_lt row 0 77 5
  have low := bdsField_lt row 0 90 12
  rw [d2Toc]
  omega

theorem d2Toe_lt (row : Row) : d2Toe row < 2 ^ 17 := by
  have high := bdsField_lt row 6 80 2
  have low := bdsField_lt row 6 90 15
  rw [d2Toe]
  omega

def d2LocalsOf (row : Row) : D2Locals where
  pgn1 := UInt32.ofNat (bdsField row 0 42 4)
  pgn3 := UInt32.ofNat (bdsField row 2 42 4)
  pgn4 := UInt32.ofNat (bdsField row 3 42 4)
  pgn5 := UInt32.ofNat (bdsField row 4 42 4)
  pgn6 := UInt32.ofNat (bdsField row 5 42 4)
  pgn7 := UInt32.ofNat (bdsField row 6 42 4)
  pgn8 := UInt32.ofNat (bdsField row 7 42 4)
  pgn9 := UInt32.ofNat (bdsField row 8 42 4)
  pgn10 := UInt32.ofNat (bdsField row 9 42 4)
  sow1 := UInt32.ofNat (bdsSow row 0)
  sow3 := UInt32.ofNat (bdsSow row 2)
  sow4 := UInt32.ofNat (bdsSow row 3)
  sow5 := UInt32.ofNat (bdsSow row 4)
  sow6 := UInt32.ofNat (bdsSow row 5)
  sow7 := UInt32.ofNat (bdsSow row 6)
  sow8 := UInt32.ofNat (bdsSow row 7)
  sow9 := UInt32.ofNat (bdsSow row 8)
  sow10 := UInt32.ofNat (bdsSow row 9)
  bdtWeek := UInt32.ofNat (bdsField row 0 64 13)
  tocBds := (d2Toc row : ℚ) * 8
  toes := UInt32.ofNat (d2Toe row * 8)

def d2SetTimes (row : Row) : SetTimes :=
  let l := d2LocalsOf row
  (bdsTimes { sat := 0 } l.bdtWeek (d2ToeWeek l) l.sow1 l.toes l.tocBds).times

theorem d2Locals_ok (row : Row) : d2Locals (readAt row) = .ok (d2LocalsOf row) := by
  have view := exposes_readAt row
  have toc : doubleOfUInt (UInt32.ofNat (d2Toc row)) = d2Toc row :=
    doubleOfUInt_ofNat (by have := d2Toc_lt row; omega)
  have toe : doubleOfUInt (UInt32.ofNat (d2Toe row)) = d2Toe row :=
    doubleOfUInt_ofNat (by have := d2Toe_lt row; omega)
  simp (disch := omega) only [d2Locals, sowOf, pgnOf, d2Page, getbitu_ok view, getbitu2_ok view,
    ok_bind, bitsU2_eq, bitsU]
  change Except.ok (D2Locals.mk _ _ _ _ _ _ _ _ _ _ _ _ _ _ _ _ _ _ _
    (doubleOfUInt (UInt32.ofNat (d2Toc row)) * 8)
    (uintOfDouble (doubleOfUInt (UInt32.ofNat (d2Toe row)) * 8))) = _
  rw [toc, toe, uintOfDouble_nat]
  rfl

section
variable {p : BytePtr} {bit : Nat → Bool}

theorem d2Fields_ok (view : Exposes p bit 380) (ephem : Ephem) :
    ∃ e, d2Fields p ephem = .ok e ∧ e.sat = ephem.sat ∧ e.ttr = ephem.ttr := by
  simp (disch := omega) only [d2Fields, d2Page, getbitu_ok view, getbitu3_ok view, getbits_ok view,
    getbits2_ok view, getbits3_ok view, ok_bind, pure_eq]
  exact ⟨_, rfl, rfl, rfl⟩

def d2HalvesOf (bit : Nat → Bool) : D2Halves where
  f1p3 := bitsS bit (d2Page 3 + 132) 4
  f1p4 := bitsU2 bit (d2Page 4 + 46) 6 (d2Page 4 + 60) 12
  cucp4 := bitsS bit (d2Page 4 + 120) 14
  cucp5 := bitsU bit (d2Page 5 + 46) 4
  ep5 := bitsS bit (d2Page 5 + 124) 10
  ep6 := bitsU2 bit (d2Page 6 + 46) 6 (d2Page 6 + 60) 16
  cicp6 := bitsS bit (d2Page 6 + 124) 10
  cicp7 := bitsU2 bit (d2Page 7 + 46) 6 (d2Page 7 + 60) 2
  i0p7 := bitsS2 bit (d2Page 7 + 105) 7 (d2Page 7 + 120) 14
  i0p8 := bitsU2 bit (d2Page 8 + 46) 6 (d2Page 8 + 60) 5
  omgDp8 := bitsS2 bit (d2Page 8 + 109) 3 (d2Page 8 + 120) 16
  omgDp9 := bitsU bit (d2Page 9 + 46) 5
  omgp9 := bitsS2 bit (d2Page 9 + 99) 13 (d2Page 9 + 120) 14
  omgp10 := bitsU bit (d2Page 10 + 46) 5

theorem d2Halves_ok (view : Exposes p bit 380) : d2Halves p = .ok (d2HalvesOf bit) := by
  simp (disch := omega) only [d2Halves, d2Page, getbitu_ok view, getbitu2_ok view, getbits_ok view,
    getbits2_ok view, ok_bind, pure_eq]
  rfl

end

/-- The locals whose page numbers and seconds of the week are out of order. -/
def d2Unordered (l : D2Locals) : Prop :=
  (l.pgn1 ≠ 1 ∨ l.pgn3 ≠ 3 ∨ l.pgn4 ≠ 4 ∨ l.pgn5 ≠ 5 ∨ l.pgn6 ≠ 6 ∨ l.pgn7 ≠ 7 ∨ l.pgn8 ≠ 8 ∨
    l.pgn9 ≠ 9 ∨ l.pgn10 ≠ 10) ∨
  (l.sow3 ≠ l.sow1 + 6 ∨ l.sow4 ≠ l.sow3 + 3 ∨ l.sow5 ≠ l.sow4 + 3 ∨ l.sow6 ≠ l.sow5 + 3 ∨
    l.sow7 ≠ l.sow6 + 3 ∨ l.sow8 ≠ l.sow7 + 3 ∨ l.sow9 ≠ l.sow8 + 3 ∨ l.sow10 ≠ l.sow9 + 3)

theorem d2Unordered_iff (row : Row) :
    d2Unordered (d2LocalsOf row) ↔
      ¬ ((∀ i < 10, i ≠ 1 → bdsField row i 42 4 = i + 1) ∧ bdsSow row 2 = bdsSow row 0 + 6 ∧
        ∀ i < 9, 2 ≤ i → bdsSow row (i + 1) = bdsSow row i + 3) := by
  have page := fun i (h : i < 10) => bdsId_iff row i 42 (show 4 ≤ 4 by omega)
    (show i + 1 ≤ 10 by omega)
  have sow := fun i => bdsSow_iff row i (i + 1) (show 3 ≤ 6 by omega)
  have listed : d2Unordered (d2LocalsOf row) ↔
      (bdsField row 0 42 4 ≠ 1 ∨ bdsField row 2 42 4 ≠ 3 ∨ bdsField row 3 42 4 ≠ 4 ∨
        bdsField row 4 42 4 ≠ 5 ∨ bdsField row 5 42 4 ≠ 6 ∨ bdsField row 6 42 4 ≠ 7 ∨
        bdsField row 7 42 4 ≠ 8 ∨ bdsField row 8 42 4 ≠ 9 ∨ bdsField row 9 42 4 ≠ 10) ∨
      (bdsSow row 2 ≠ bdsSow row 0 + 6 ∨ bdsSow row 3 ≠ bdsSow row 2 + 3 ∨
        bdsSow row 4 ≠ bdsSow row 3 + 3 ∨ bdsSow row 5 ≠ bdsSow row 4 + 3 ∨
        bdsSow row 6 ≠ bdsSow row 5 + 3 ∨ bdsSow row 7 ≠ bdsSow row 6 + 3 ∨
        bdsSow row 8 ≠ bdsSow row 7 + 3 ∨ bdsSow row 9 ≠ bdsSow row 8 + 3) := by
    refine or_congr ?_ ?_
    · exact or_congr (page 0 (by omega)) <| or_congr (page 2 (by omega)) <|
        or_congr (page 3 (by omega)) <| or_congr (page 4 (by omega)) <|
        or_congr (page 5 (by omega)) <| or_congr (page 6 (by omega)) <|
        or_congr (page 7 (by omega)) <| or_congr (page 8 (by omega)) (page 9 (by omega))
    · exact or_congr (bdsSow_iff row 0 2 (show 6 ≤ 6 by omega)) <| or_congr (sow 2) <| or_congr (sow 3) <|
        or_congr (sow 4) <| or_congr (sow 5) <| or_congr (sow 6) <| or_congr (sow 7) (sow 8)
  rw [listed]
  constructor
  · rintro (unordered | unordered) ⟨pages, start, sows⟩
    · rcases unordered with h | h | h | h | h | h | h | h | h <;>
        exact h (pages _ (by omega) (by omega))
    · rcases unordered with h | h | h | h | h | h | h | h
      · exact h start
      all_goals exact h (sows _ (by omega) (by omega))
  · intro wrong
    by_contra ordered
    refine wrong ⟨fun i h used => ?_, by omega, fun i h lower => ?_⟩
    · interval_cases i <;> omega
    · interval_cases i <;> simp only [Nat.reduceAdd] <;> omega

theorem d2Checks_iff (row : Row) :
    D2Consistent row ↔ ¬ d2Unordered (d2LocalsOf row) ∧
      (d2LocalsOf row).tocBds = doubleOfUInt (d2LocalsOf row).toes := by
  have bound := d2Toe_lt row
  have time : (d2LocalsOf row).tocBds = doubleOfUInt (d2LocalsOf row).toes ↔
      d2Toc row = d2Toe row := by
    change (d2Toc row : ℚ) * 8 = doubleOfUInt (UInt32.ofNat (d2Toe row * 8)) ↔ _
    rw [doubleOfUInt_ofNat (by omega)]
    norm_cast
    omega
  rw [d2Unordered_iff, not_not, time]
  exact ⟨fun set => ⟨⟨set.pages, set.start, set.sows⟩, set.toc⟩,
    fun ⟨⟨pages, start, sows⟩, toc⟩ => ⟨pages, start, sows, toc⟩⟩

def d2Spec : SetSpec where
  consistent := D2Consistent
  leaks := fun _ => False
  times := d2SetTimes

@[ext]
structure SplitValues where
  af1 : ℚ
  cuc : ℚ
  e : ℚ
  cic : ℚ
  i0 : ℚ
  omgDot : ℚ
  omg : ℚ

def Ephem.split (ephem : Ephem) : SplitValues :=
  ⟨ephem.af1, ephem.cuc, ephem.e, ephem.cic, ephem.i0, ephem.omgDot, ephem.omg⟩

def d2SetSplit (row : Row) : SplitValues :=
  (d2Merge (d2HalvesOf (bufferBit row)) { sat := 0 }).split

theorem decodeBdsD2Ephem_ok {ephem : Ephem} (valid : ValidSat ephem.sat) (row : Row) :
    ∃ rc e time, e.sat = ephem.sat ∧
      SetOutcome d2Spec ephem (some row) e ∧ (rc = 0 ↔ D2Consistent row) ∧
      (D2Consistent row → e.split = d2SetSplit row) ∧
      (D2Consistent row → (e.toeTow, e.week) = time2gpst e.toe) ∧
      ∀ st flags, st.Holds ephem.sat row flags → decodeBdsD2Ephem st ephem =
        .ok (rc, st.update ephem.sat row flags time, e) := by
  have view := exposes_readAt row
  obtain ⟨e1, read1, sat, ttr⟩ := d2Fields_ok view ephem
  have read2 := d2Halves_ok view
  generalize hv : d2HalvesOf (bufferBit row) = h at read2
  have checks := d2Checks_iff row
  have fixed : d2SetTimes row = (bdsTimes (d2Merge h e1) (d2LocalsOf row).bdtWeek
    (d2ToeWeek (d2LocalsOf row)) (d2LocalsOf row).sow1 (d2LocalsOf row).toes
    (d2LocalsOf row).tocBds).times := bdsTimes_times _ _ _ _ _ _ _
  have merged : ∀ w w' s t c, (bdsTimes (d2Merge h e1) w w' s t c).split = d2SetSplit row := by
    intros
    rw [d2SetSplit, hv]
    rfl
  have read3 := d2Locals_ok row
  generalize d2LocalsOf row = l at checks fixed read3
  have entered : ∀ st flags, st.Holds ephem.sat row flags → decodeBdsD2Ephem st ephem =
      if l.pgn1 ≠ 1 ∨ l.pgn3 ≠ 3 ∨ l.pgn4 ≠ 4 ∨ l.pgn5 ≠ 5 ∨ l.pgn6 ≠ 6 ∨ l.pgn7 ≠ 7 ∨ l.pgn8 ≠ 8 ∨
          l.pgn9 ≠ 9 ∨ l.pgn10 ≠ 10 then .ok (-1, st, e1)
      else if l.sow3 ≠ l.sow1 + 6 ∨ l.sow4 ≠ l.sow3 + 3 ∨ l.sow5 ≠ l.sow4 + 3 ∨
          l.sow6 ≠ l.sow5 + 3 ∨ l.sow7 ≠ l.sow6 + 3 ∨ l.sow8 ≠ l.sow7 + 3 ∨ l.sow9 ≠ l.sow8 + 3 ∨
          l.sow10 ≠ l.sow9 + 3 then .ok (-1, st, e1)
      else if l.tocBds ≠ doubleOfUInt l.toes then .ok (-1, st, e1)
      else
        let e := bdsTimes (d2Merge h e1) l.bdtWeek (d2ToeWeek l) l.sow1 l.toes l.tocBds
        .ok (0, { st with currTime := e.ttr }, e) := by
    intro st flags holds
    rw [decodeBdsD2Ephem, holds.row, ok_bind]
    dsimp only
    rw [read1, ok_bind, read2, ok_bind, read3, ok_bind]
    rfl
  by_cases passed : D2Consistent row
  · obtain ⟨ordered, toc⟩ := checks.mp passed
    obtain ⟨pages, sows⟩ := not_or.mp ordered
    have sat : (bdsTimes (d2Merge h e1) l.bdtWeek (d2ToeWeek l) l.sow1 l.toes l.tocBds).sat =
      ephem.sat := sat
    have merged := merged l.bdtWeek (d2ToeWeek l) l.sow1 l.toes l.tocBds
    have gpst := bdsTimes_gpst (d2Merge h e1) l.bdtWeek (d2ToeWeek l) l.sow1 l.toes l.tocBds
    generalize bdsTimes (d2Merge h e1) l.bdtWeek (d2ToeWeek l) l.sow1 l.toes l.tocBds = e
      at entered fixed sat merged gpst
    refine ⟨0, e, some e.ttr, sat, .decoded passed id fixed.symm, by simp [passed], fun _ => merged,
      fun _ => gpst, fun st flags holds => ?_⟩
    rw [entered st flags holds, if_neg pages, if_neg sows, if_neg (not_not.mpr toc)]
    dsimp only
    rw [st.update_time valid holds]
  · refine ⟨-1, e1, none, sat, .rejected passed id ttr, by simp [passed],
      fun set => absurd set passed, fun set => absurd set passed, fun st flags holds => ?_⟩
    rw [entered st flags holds, st.update_self valid holds]
    split_ifs with pages sows toc
    · rfl
    · rfl
    · rfl
    · exact absurd (checks.mpr ⟨not_or.mpr ⟨pages, sows⟩, not_not.mp toc⟩) passed

end GnssParser
