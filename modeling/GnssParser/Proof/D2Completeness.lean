import GnssParser.Proof.D1Completeness

/-!
# Completeness of BeiDou D2

Pages 1 to 10 of a GEO satellite are decoded whatever the row held before. Of the parameters sent in
two pages only those whose second part fits in a byte come out right.
-/

namespace GnssParser
open Checked BitView

/-! ## D2 frames -/

structure D2PageFrame (prn page : Nat) (msg : List UInt8) : Prop where
  frame : SfrbxFrame msg
  long : 56 ≤ msg.length
  gnssId : msg.getD 6 0 = 3
  svid : (msg.getD 7 0).toNat = prn
  id : sentField msg 15 3 = 1
  page : sentField msg 42 4 = page

/-- The ten pages of a set. The decoder does not use page 2. -/
structure D2Scenario (st : Processor) (prn : Nat) (pages : Nat → List UInt8) : Prop where
  reachable : Reachable st
  geo : 1 ≤ prn ∧ prn ≤ 5 ∨ 59 ≤ prn ∧ prn ≤ 63
  frames : ∀ i, 1 ≤ i → i ≤ 10 → D2PageFrame prn i (pages i)
  start : sentSow (pages 3) = sentSow (pages 1) + 6
  sows : ∀ i, 3 ≤ i → i < 10 → sentSow (pages (i + 1)) = sentSow (pages i) + 3
  /-- `toc = toe`, in units of 8 s. -/
  toc : 2 ^ 12 * sentField (pages 1) 77 5 + sentField (pages 1) 90 12 =
    2 ^ 15 * sentField (pages 7) 80 2 + sentField (pages 7) 90 15

/-! ## Parameters sent in two pages -/

/-- Fields of the pages, each with its page, position and length. -/
abbrev SentParts := List (Nat × Nat × Nat)

def sentConcat (pages : Nat → List UInt8) : SentParts → Nat
  | [] => 0
  | (i, pos, len) :: rest =>
      2 ^ (rest.map fun part => part.2.2).sum * sentField (pages i) pos len + sentConcat pages rest

def sentWidth (parts : SentParts) : Nat := (parts.map fun part => part.2.2).sum

structure SplitParts where
  high : SentParts
  low : SentParts

def d2Af1 : SplitParts := ⟨[(3, 132, 4)], [(4, 46, 6), (4, 60, 12)]⟩
def d2Cuc : SplitParts := ⟨[(4, 120, 14)], [(5, 46, 4)]⟩
def d2E : SplitParts := ⟨[(5, 124, 10)], [(6, 46, 6), (6, 60, 16)]⟩
def d2Cic : SplitParts := ⟨[(6, 124, 10)], [(7, 46, 6), (7, 60, 2)]⟩
def d2I0 : SplitParts := ⟨[(7, 105, 7), (7, 120, 14)], [(8, 46, 6), (8, 60, 5)]⟩
def d2OmgDot : SplitParts := ⟨[(8, 109, 3), (8, 120, 16)], [(9, 46, 5)]⟩
def d2Omg : SplitParts := ⟨[(9, 99, 13), (9, 120, 14)], [(10, 46, 5)]⟩

def sentSigned (pages : Nat → List UInt8) (parts : SplitParts) : Int :=
  Int.bmod (sentConcat pages (parts.high ++ parts.low)) (2 ^ sentWidth (parts.high ++ parts.low))

def sentSplit (pages : Nat → List UInt8) : SplitValues where
  af1 := sentSigned pages d2Af1 * p2_50
  cuc := sentSigned pages d2Cuc * p2_31
  e := sentSigned pages d2E * p2_33
  cic := sentSigned pages d2Cic * p2_31
  i0 := sentSigned pages d2I0 * p2_31 * sc2rad
  omgDot := sentSigned pages d2OmgDot * p2_43 * sc2rad
  omg := sentSigned pages d2Omg * p2_31 * sc2rad

/-- The call for page 10 returns an ephemeris with the parameters as sent. -/
def D2Completes (st : Processor) (pages : Nat → List UInt8) : Prop :=
  ∃ before e ionoParams st', parseSubframes st ((List.range' 1 10).map pages) =
      .ok (before ++ [(some (.ephem e), ionoParams)], st') ∧
    e.ttr.time ≠ 0 ∧ e.split = sentSplit pages

theorem sentWidth_append (high low : SentParts) :
    sentWidth (high ++ low) = sentWidth high + sentWidth low := by
  rw [sentWidth, List.map_append, List.sum_append]
  rfl

section
variable (pages : Nat → List UInt8)

theorem sentConcat_append (high low : SentParts) :
    sentConcat pages (high ++ low) =
      2 ^ sentWidth low * sentConcat pages high + sentConcat pages low := by
  induction high with
  | nil => simp [sentConcat]
  | cons part rest ih =>
      obtain ⟨i, pos, len⟩ := part
      rw [List.cons_append, sentConcat, sentConcat, ih, List.map_append, List.sum_append, pow_add,
        sentWidth]
      ring

theorem sentConcat_lt (parts : SentParts) : sentConcat pages parts < 2 ^ sentWidth parts := by
  induction parts with
  | nil => simp [sentConcat, sentWidth]
  | cons part rest ih =>
      obtain ⟨i, pos, len⟩ := part
      have bound : sentField (pages i) pos len < 2 ^ len := field_lt _ _ _
      have width : sentWidth ((i, pos, len) :: rest) = sentWidth rest + len := by
        rw [sentWidth, List.map_cons, List.sum_cons, Nat.add_comm]
        rfl
      calc sentConcat pages ((i, pos, len) :: rest)
          < 2 ^ sentWidth rest * (sentField (pages i) pos len + 1) := by
            rw [sentConcat, Nat.mul_add, Nat.mul_one]
            exact Nat.add_lt_add_left ih _
        _ ≤ 2 ^ sentWidth rest * 2 ^ len := Nat.mul_le_mul_left _ bound
        _ = 2 ^ sentWidth ((i, pos, len) :: rest) := by rw [width, pow_add]

theorem sentSigned_halves {parts : SplitParts} (some : 0 < sentWidth parts.high) :
    sentSigned pages parts = 2 ^ sentWidth parts.low *
      Int.bmod (sentConcat pages parts.high) (2 ^ sentWidth parts.high) +
        sentConcat pages parts.low := by
  rw [sentSigned, sentConcat_append, sentWidth_append]
  exact bmod_concat some (sentConcat_lt pages _) (sentConcat_lt pages _)

variable (parts : SplitParts) (some : 0 < sentWidth parts.high)
  (word : sentWidth parts.high + sentWidth parts.low ≤ 32) {a : Int32} {b : UInt32}
  (high : a.toInt = Int.bmod (sentConcat pages parts.high) (2 ^ sentWidth parts.high))
  (low : b.toNat = sentConcat pages parts.low)
include some word high low

theorem mergeTwoS_sent :
    (mergeTwoS a b.toUInt8 (sentWidth parts.low)).toInt =
      sentSigned pages parts - sentConcat pages parts.low + (sentConcat pages parts.low % 256 : Nat) := by
  have byte : b.toUInt8.toNat = sentConcat pages parts.low % 256 := by
    rw [UInt32.toNat_toUInt8, low]
  have whole := sentSigned_halves pages some
  rw [← high] at whole
  have least : -2 ^ 31 ≤ 2 ^ sentWidth parts.low * a.toInt := by
    have half := (bmod_bounds (sentConcat pages parts.high) some).1
    rw [← high] at half
    have power : 2 ^ (sentWidth parts.low + (sentWidth parts.high - 1)) ≤ (2 : Int) ^ 31 :=
      pow_le_pow_right₀ (by omega) (by omega)
    have scaled := mul_le_mul_of_nonneg_left half (show (0 : Int) ≤ 2 ^ sentWidth parts.low by positivity)
    rw [pow_add] at power
    linarith
  have greatest : sentSigned pages parts < 2 ^ 31 := by
    have width := sentWidth_append parts.high parts.low
    have half := (bmod_bounds (sentConcat pages (parts.high ++ parts.low))
      (show 0 < sentWidth (parts.high ++ parts.low) by omega)).2
    exact half.trans_le (pow_le_pow_right₀ (by omega) (by omega))
  rw [mergeTwoS_toInt a _ (by omega) least (by omega), byte, whole]
  ring

theorem merged_iff {scale : ℚ} (scaled : scale ≠ 0) :
    doubleOfInt (mergeTwoS a b.toUInt8 (sentWidth parts.low)) * scale =
        sentSigned pages parts * scale ↔ sentConcat pages parts.low < 256 := by
  rw [mul_left_inj' scaled, doubleOfInt, Int.cast_inj, mergeTwoS_sent pages parts some word high low]
  omega

end

/-! ## One frame -/

section
variable {prn page : Nat} {msg : List UInt8}

theorem sentPage_eq (msg : List UInt8) :
    sentField msg 42 4 = ((getElem (bdsWords msg) 1 (by decide) >>> 14) &&& 0x0F).toNat := by
  have word : wordField 30 (bdsWords msg) (30 * 1 + 12) 4 =
      (bdsWords msg)[1].toNat / 2 ^ 14 % 2 ^ 4 :=
    wordField_word (bdsWords msg) (by omega) (by omega)
  rw [sentField, show (42 : Nat) = 30 * 1 + 12 from rfl, word, UInt32.toNat_and,
    UInt32.toNat_shiftRight, show (14 : UInt32).toNat % 32 = 14 from rfl,
    show (0x0F : UInt32).toNat = 2 ^ 4 - 1 from rfl, Nat.and_two_pow_sub_one_eq_mod,
    Nat.shiftRight_eq_div_pow]

theorem D2PageFrame.number (frame : D2PageFrame prn page msg) (lower : 1 ≤ page)
    (upper : page ≤ 10) : d2PageNumber msg = some page := by
  have first : bdsSubframeId msg = some 1 := by
    rw [bdsSubframeId_eq frame.long (by rw [frame.id]) (by rw [frame.id]; omega), frame.id]
  have value := sentPage_eq msg
  rw [frame.page] at value
  rw [d2PageNumber, if_neg (not_not.mpr first)]
  dsimp only
  rw [if_neg, value]
  rw [UInt32.lt_iff_toNat_lt, UInt32.lt_iff_toNat_lt, ← value,
    show (1 : UInt32).toNat = 1 from rfl, show (10 : UInt32).toNat = 10 from rfl]
  omega

variable (geo : 1 ≤ prn ∧ prn ≤ 5 ∨ 59 ≤ prn ∧ prn ≤ 63)
include geo

theorem geoSat_ne_zero : satNo sysBds prn ≠ 0 := by
  rw [satNo_bds, if_pos (by omega)]
  omega

theorem geoSat_notD1 : ¬ IsD1 (satNo sysBds prn) := by
  rw [IsD1, satsys_satNo (geoSat_ne_zero geo)]
  dsimp only
  omega

theorem parseSubframe_d2 (frame : D2PageFrame prn page msg) (lower : 1 ≤ page) (upper : page ≤ 10)
    (st : Processor) :
    parseSubframe st msg [] = (do
      let (_, st, e, ionoParams) ←
        d2Store st { sat := satNo sysBds prn } page (bdsWords msg) []
      pure (some (.ephem e), st, ionoParams)) := by
  have sat : frameSat msg = satNo sysBds prn := by
    rw [frameSat, frameSys, frame.gnssId, frame.svid]
    rfl
  have sys : frameSys msg = sysBds := by
    rw [frameSys, frame.gnssId]
    rfl
  rw [parseSubframe_some frame.frame.long (sat.trans_ne (geoSat_ne_zero geo)), sys,
    if_neg (by decide), if_pos rfl, sat, decodeBdsSubframe_d2 (geoSat_notD1 geo),
    frame.number lower upper]

section
variable {st : Processor} {row : Row} {flags : UInt8}
  (holds : st.Holds (satNo sysBds prn) row flags)
include holds

theorem d2Frame_stored (frame : D2PageFrame prn page msg) (lower : 1 ≤ page) (before : page < 10) :
    ∃ row', (∀ j, bufferBit row' j = storedBit row ((page - 1) * 38) 30 (bdsWords msg) j) ∧
      parseSubframe st msg [] = .ok (some (.ephem { sat := satNo sysBds prn }),
        st.update (satNo sysBds prn) row' flags none, []) := by
  obtain ⟨row', wrote, bits⟩ := storeBds_ok row (bdsWords msg) (show page ≤ 10 by omega)
  refine ⟨row', bits, ?_⟩
  rw [parseSubframe_d2 geo frame lower (by omega), d2Store, holds.row, ok_bind, wrote, ok_bind,
    st.setRow_ok (validSat_satNo (geoSat_ne_zero geo)) holds, ok_bind, if_pos (by omega)]
  rfl

theorem d2Frame_decoded (frame : D2PageFrame prn 10 msg) :
    ∃ row', (∀ j, bufferBit row' j = storedBit row (9 * 38) 30 (bdsWords msg) j) ∧
      (D2Consistent row' → ∃ e time, e.times = d2SetTimes row' ∧ e.split = d2SetSplit row' ∧
        parseSubframe st msg [] = .ok (some (.ephem e),
          st.update (satNo sysBds prn) row' flags time, [])) := by
  obtain ⟨row', wrote, bits⟩ := storeBds_ok row (bdsWords msg) (show 10 ≤ 10 by omega)
  have valid : ValidSat ({ sat := satNo sysBds prn } : Ephem).sat :=
    validSat_satNo (geoSat_ne_zero geo)
  obtain ⟨rc, e, time, _, outcome, _, split, _, ran⟩ := decodeBdsD2Ephem_ok valid row'
  refine ⟨row', bits, fun passed => ⟨e, time, ?_, split passed, ?_⟩⟩
  · cases outcome with
    | rejected failed => exact absurd passed failed
    | leaked failed => exact absurd passed failed
    | decoded _ _ assigned => exact assigned
  · rw [parseSubframe_d2 geo frame (by omega) (by omega), d2Store, holds.row, ok_bind, wrote,
      ok_bind, st.setRow_ok valid holds, ok_bind, if_neg (by omega),
      ran _ flags (st.holds_update valid row' flags none), ok_bind, st.update_update, Option.or_none]
    rfl

end

end

/-! ## The row -/

def HoldsD2 (pages : Nat → List UInt8) (k : Nat) (row : Row) : Prop :=
  ∀ i < k - 1, HoldsWords row (38 * i) 30 (bdsWords (pages (i + 1)))

section
variable {pages : Nat → List UInt8} {row row' : Row}

theorem HoldsD2.step {k : Nat} (holds : HoldsD2 pages k row) (some : 1 ≤ k)
    (bits : ∀ j, bufferBit row' j = storedBit row ((k - 1) * 38) 30 (bdsWords (pages k)) j) :
    HoldsD2 pages (k + 1) row' := by
  intro i h
  by_cases last : i = k - 1
  · subst last
    rw [Nat.mul_comm, Nat.sub_add_cancel some]
    exact holdsWords_stored bits
  · exact (holds i (by omega)).keep bits (by omega)

variable (holds : HoldsD2 pages 11 row)
include holds

theorem HoldsD2.bdsField_eq {i pos len : Nat} (h : i < 10) (inside : pos + len ≤ 300) :
    bdsField row i pos len = sentField (pages (i + 1)) pos len :=
  (holds i h).bdsField_eq inside

theorem HoldsD2.bdsSow_eq {i : Nat} (h : i < 10) : bdsSow row i = sentSow (pages (i + 1)) :=
  (holds i h).bdsSow_eq

theorem HoldsD2.signed {i pos len : Nat} (h : i < 10) (inside : pos + len ≤ 300)
    (some : 0 < len) (word : len ≤ 32) :
    (bitsS (bufferBit row) (304 * i + pos) len).toInt =
      Int.bmod (sentConcat pages [(i + 1, pos, len)]) (2 ^ sentWidth [(i + 1, pos, len)]) := by
  rw [bitsS_toInt _ _ some word, signedField, ← bdsField, holds.bdsField_eq h inside]
  simp [sentConcat, sentWidth]

theorem HoldsD2.signed2 {i p1 l1 p2 l2 : Nat} (h : i < 10) (inside1 : p1 + l1 ≤ 300)
    (inside2 : p2 + l2 ≤ 300) (some : 0 < l1) (word : l1 + l2 < 32) :
    (bitsS2 (bufferBit row) (304 * i + p1) l1 (304 * i + p2) l2).toInt =
      Int.bmod (sentConcat pages [(i + 1, p1, l1), (i + 1, p2, l2)])
        (2 ^ sentWidth [(i + 1, p1, l1), (i + 1, p2, l2)]) := by
  rw [bitsS2_toInt _ _ _ some word.le, ← bdsField, ← bdsField, holds.bdsField_eq h inside1,
    holds.bdsField_eq h inside2]
  simp [sentConcat, sentWidth]

theorem HoldsD2.unsigned {i pos len : Nat} (h : i < 10) (inside : pos + len ≤ 300)
    (word : len ≤ 32) :
    (bitsU (bufferBit row) (304 * i + pos) len).toNat = sentConcat pages [(i + 1, pos, len)] := by
  rw [bitsU_toNat _ _ word, ← bdsField, holds.bdsField_eq h inside]
  simp [sentConcat]

theorem HoldsD2.unsigned2 {i p1 l1 p2 l2 : Nat} (h : i < 10) (inside1 : p1 + l1 ≤ 300)
    (inside2 : p2 + l2 ≤ 300) (word : l1 + l2 < 32) :
    (bitsU2 (bufferBit row) (304 * i + p1) l1 (304 * i + p2) l2).toNat =
      sentConcat pages [(i + 1, p1, l1), (i + 1, p2, l2)] := by
  have bound := sentConcat_lt pages [(i + 1, p1, l1), (i + 1, p2, l2)]
  have power : 2 ^ (l1 + l2) ≤ 2 ^ 31 := Nat.pow_le_pow_right (by omega) (by omega)
  have value : 2 ^ l2 * bdsField row i p1 l1 + bdsField row i p2 l2 =
      sentConcat pages [(i + 1, p1, l1), (i + 1, p2, l2)] := by
    rw [holds.bdsField_eq h inside1, holds.bdsField_eq h inside2]
    simp [sentConcat]
  rw [bitsU2_eq _ _ _ _ (by omega), ← bdsField, ← bdsField, value, UInt32.toNat_ofNat',
    Nat.mod_eq_of_lt]
  simp [sentWidth] at bound
  omega

theorem HoldsD2.split_iff :
    d2SetSplit row = sentSplit pages ↔ sentConcat pages d2Af1.low < 256 ∧
      sentConcat pages d2E.low < 256 ∧ sentConcat pages d2I0.low < 256 := by
  have angle : p2_31 * sc2rad ≠ 0 := by norm_num [p2_31, sc2rad]
  have rate : p2_43 * sc2rad ≠ 0 := by norm_num [p2_43, sc2rad]
  have cosine : p2_31 ≠ 0 := by norm_num [p2_31]
  have clock : p2_50 ≠ 0 := by norm_num [p2_50]
  have shape : p2_33 ≠ 0 := by norm_num [p2_33]
  have af1 := merged_iff pages d2Af1 (by decide) (by decide)
    (holds.signed (i := 2) (by omega) (by omega) (by omega) (by omega))
    (holds.unsigned2 (i := 3) (by omega) (by omega) (by omega) (by omega)) clock
  have cuc := merged_iff pages d2Cuc (by decide) (by decide)
    (holds.signed (i := 3) (by omega) (by omega) (by omega) (by omega))
    (holds.unsigned (i := 4) (by omega) (by omega) (by omega)) cosine
  have e := merged_iff pages d2E (by decide) (by decide)
    (holds.signed (i := 4) (by omega) (by omega) (by omega) (by omega))
    (holds.unsigned2 (i := 5) (by omega) (by omega) (by omega) (by omega)) shape
  have cic := merged_iff pages d2Cic (by decide) (by decide)
    (holds.signed (i := 5) (by omega) (by omega) (by omega) (by omega))
    (holds.unsigned2 (i := 6) (by omega) (by omega) (by omega) (by omega)) cosine
  have i0 := merged_iff pages d2I0 (by decide) (by decide)
    (holds.signed2 (i := 6) (by omega) (by omega) (by omega) (by omega) (by omega))
    (holds.unsigned2 (i := 7) (by omega) (by omega) (by omega) (by omega)) angle
  have omgDot := merged_iff pages d2OmgDot (by decide) (by decide)
    (holds.signed2 (i := 7) (by omega) (by omega) (by omega) (by omega) (by omega))
    (holds.unsigned (i := 8) (by omega) (by omega) (by omega)) rate
  have omg := merged_iff pages d2Omg (by decide) (by decide)
    (holds.signed2 (i := 8) (by omega) (by omega) (by omega) (by omega) (by omega))
    (holds.unsigned (i := 9) (by omega) (by omega) (by omega)) angle
  simp only [← mul_assoc] at i0 omgDot omg
  constructor
  · intro same
    exact ⟨af1.mp (congrArg SplitValues.af1 same), e.mp (congrArg SplitValues.e same),
      i0.mp (congrArg SplitValues.i0 same)⟩
  · rintro ⟨af1Low, eLow, i0Low⟩
    have cucLow := sentConcat_lt pages d2Cuc.low
    have cicLow := sentConcat_lt pages d2Cic.low
    have omgDotLow := sentConcat_lt pages d2OmgDot.low
    have omgLow := sentConcat_lt pages d2Omg.low
    have small : (2 : Nat) ^ 4 < 256 ∧ (2 : Nat) ^ 5 < 256 := by decide
    exact SplitValues.ext (af1.mpr af1Low) (cuc.mpr (cucLow.trans small.1)) (e.mpr eLow)
      (cic.mpr cicLow) (i0.mpr i0Low) (omgDot.mpr (omgDotLow.trans small.2))
      (omg.mpr (omgLow.trans small.2))

theorem D2Scenario.consistent {st : Processor} {prn : Nat} (scenario : D2Scenario st prn pages) :
    D2Consistent row := by
  have field := fun i (h : i < 10) pos len (inside : pos + len ≤ 300) =>
    holds.bdsField_eq h inside
  refine ⟨fun i h _ => ?_, ?_, fun i h lower => ?_, ?_⟩
  · rw [holds.bdsField_eq h (by omega)]
    exact (scenario.frames (i + 1) (by omega) (by omega)).page
  · rw [holds.bdsSow_eq (by omega), holds.bdsSow_eq (by omega)]
    exact scenario.start
  · rw [holds.bdsSow_eq (by omega), holds.bdsSow_eq (by omega)]
    exact scenario.sows (i + 1) (by omega) (by omega)
  · rw [d2Toc, d2Toe, holds.bdsField_eq (by omega) (by omega),
      holds.bdsField_eq (by omega) (by omega), holds.bdsField_eq (by omega) (by omega),
      holds.bdsField_eq (by omega) (by omega)]
    exact scenario.toc

theorem HoldsD2.ttr_iff :
    (d2SetTimes row).ttr.time ≠ 0 ↔
      604800 * sentField (pages 1) 64 13 + sentSow (pages 1) ≠ 3158893682 := by
  have week := bdsField_lt row 0 64 13
  have sow := bdsSow_lt row 0
  have ttr : (d2SetTimes row).ttr =
      ⟨1136073614 + wrapInt (604800 * bdsField row 0 64 13 + bdsSow row 0), 0⟩ :=
    bdsTimes_ttr { sat := 0 } week sow (d2ToeWeek (d2LocalsOf row)) (d2LocalsOf row).toes
      (d2LocalsOf row).tocBds
  rw [ttr, ← holds.bdsField_eq (i := 0) (by omega) (by omega), ← holds.bdsSow_eq (i := 0) (by omega)]
  exact not_congr (bdsTtr_eq_zero_iff week sow)

end

/-! ## The calls -/

section
variable {st : Processor} {prn : Nat} {pages : Nat → List UInt8} (scenario : D2Scenario st prn pages)
include scenario

theorem D2Scenario.decoded :
    ∃ before e st' row, parseSubframes st ((List.range' 1 10).map pages) =
        .ok (before ++ [(some (.ephem e), [])], st') ∧
      HoldsD2 pages 11 row ∧ e.times = d2SetTimes row ∧ e.split = d2SetSplit row := by
  have geo := scenario.geo
  have valid := validSat_satNo (geoSat_ne_zero geo)
  obtain ⟨row, flags, holds⟩ := st.holds_exists valid
  have start : st.Sees (satNo sysBds prn) fun row _ => HoldsD2 pages 1 row :=
    ⟨row, flags, holds, fun i h => by omega⟩
  have step : ∀ k, 1 ≤ k → k < 1 + 9 → ∀ st : Processor,
      st.Sees (satNo sysBds prn) (fun row _ => HoldsD2 pages k row) → ∃ st',
        parseSubframe st (pages k) [] =
          .ok (some (.ephem { sat := satNo sysBds prn }), st', []) ∧
        st'.Sees (satNo sysBds prn) fun row _ => HoldsD2 pages (k + 1) row := by
    rintro k lower upper st ⟨row, flags, holds, kept⟩
    obtain ⟨row', bits, ran⟩ :=
      d2Frame_stored geo holds (scenario.frames k lower (by omega)) lower (by omega)
    exact ⟨_, ran, row', flags, st.holds_update valid _ _ _, kept.step lower bits⟩
  obtain ⟨mid, stored, row, flags, holds, kept⟩ := parseSubframes_steps
    (fun k row _ => HoldsD2 pages k row)
    (fun _ => (some (.ephem { sat := satNo sysBds prn }), [])) step start
  obtain ⟨row', bits, completed⟩ := d2Frame_decoded geo holds (scenario.frames 10 (by omega) (by omega))
  have full : HoldsD2 pages 11 row' := kept.step (by omega) bits
  obtain ⟨e, time, times, split, ran⟩ := completed (scenario.consistent full)
  have last : parseSubframes mid [pages 10] = .ok ([(some (.ephem e), [])],
      mid.update (satNo sysBds prn) row' flags time) := by
    rw [parseSubframes, ran]
    rfl
  have whole := parseSubframes_append st ((List.range' 1 9).map pages) [pages 10]
  rw [stored, ok_bind] at whole
  dsimp only at whole
  rw [last, ok_bind] at whole
  exact ⟨_, e, _, row', whole, full, times, split⟩

theorem D2Scenario.completes_row :
    ∃ row, HoldsD2 pages 11 row ∧
      (D2Completes st pages ↔
        (d2SetTimes row).ttr.time ≠ 0 ∧ d2SetSplit row = sentSplit pages) := by
  obtain ⟨before, e, st', row, ran, full, times, split⟩ := scenario.decoded
  have ttr : e.ttr = (d2SetTimes row).ttr := congrArg SetTimes.ttr times
  refine ⟨row, full, ?_⟩
  rw [← split, ← ttr]
  constructor
  · rintro ⟨before', e', ionoParams', st'', ran', sent, right⟩
    rw [ran] at ran'
    obtain ⟨same, _⟩ := Prod.mk.inj (Except.ok.inj ran')
    obtain ⟨_, last⟩ := List.append_inj' same rfl
    cases last
    exact ⟨sent, right⟩
  · rintro ⟨sent, right⟩
    exact ⟨before, e, [], st', ran, sent, right⟩

theorem d2_completes_iff :
    D2Completes st pages ↔
      (sentConcat pages d2Af1.low < 256 ∧ sentConcat pages d2E.low < 256 ∧
        sentConcat pages d2I0.low < 256) ∧
      604800 * sentField (pages 1) 64 13 + sentSow (pages 1) ≠ 3158893682 := by
  obtain ⟨row, full, completes⟩ := scenario.completes_row
  rw [completes, full.ttr_iff, full.split_iff, and_comm]

end

/-! ## A wide second part -/

/-- A page of PRN 1, all zero but for its first three words. -/
def d2Msg (word1 word2 checksum : List UInt8) : List UInt8 :=
  [0xB5, 0x62, 0x02, 0x13, 0x30, 0x00, 0x03, 0x01, 0x00, 0x00, 0x0A, 0x00, 0x02, 0x00, 0x00, 0x10,
    0x00, 0x00] ++ word1 ++ word2 ++ List.replicate 28 0 ++ checksum

/-- What is not zero in a set: nothing, bit 12 of `af1`, or the reference time, which is 524288. -/
inductive D2Sample where
  | plain
  | clock
  | toe
  deriving DecidableEq

def d2Set (sample : D2Sample) (page : Nat) : List UInt8 :=
  let zero : List UInt8 := [0x00, 0x00, 0x00, 0x00]
  match page, sample with
  | 1, .toe => d2Msg [0x00, 0x40, 0x00, 0x00] [0x00, 0x10, 0x00, 0x00] [0xB5, 0x7C]
  | 1, _ => d2Msg [0x00, 0x40, 0x00, 0x00] zero [0xA5, 0x8C]
  | 2, _ => d2Msg [0x00, 0x80, 0x0C, 0x00] zero [0xF1, 0xE4]
  | 3, _ => d2Msg [0x00, 0xC0, 0x18, 0x00] zero [0x3D, 0x3C]
  | 4, .clock => d2Msg [0x00, 0x01, 0x25, 0x00] zero [0x8B, 0xD9]
  | 4, _ => d2Msg [0x00, 0x00, 0x25, 0x00] zero [0x8A, 0xB6]
  | 5, _ => d2Msg [0x00, 0x40, 0x31, 0x00] zero [0xD6, 0x0E]
  | 6, _ => d2Msg [0x00, 0x80, 0x3D, 0x00] zero [0x22, 0x66]
  | 7, .toe => d2Msg [0x00, 0xC0, 0x49, 0x00] [0x00, 0x02, 0x00, 0x00] [0x70, 0xFC]
  | 7, _ => d2Msg [0x00, 0xC0, 0x49, 0x00] zero [0x6E, 0xBE]
  | 8, _ => d2Msg [0x00, 0x00, 0x56, 0x00] zero [0xBB, 0x38]
  | 9, _ => d2Msg [0x00, 0x40, 0x62, 0x00] zero [0x07, 0x90]
  | _, _ => d2Msg [0x00, 0x80, 0x6E, 0x00] zero [0x53, 0xE8]

instance (prn page : Nat) (msg : List UInt8) : Decidable (D2PageFrame prn page msg) :=
  decidable_of_iff (SfrbxFrame msg ∧ 56 ≤ msg.length ∧ msg.getD 6 0 = 3 ∧
      (msg.getD 7 0).toNat = prn ∧ sentField msg 15 3 = 1 ∧ sentField msg 42 4 = page)
    ⟨fun ⟨frame, long, gnssId, svid, id, page⟩ => ⟨frame, long, gnssId, svid, id, page⟩,
      fun h => ⟨h.frame, h.long, h.gnssId, h.svid, h.id, h.page⟩⟩

theorem d2Scenario_init (sample : D2Sample) :
    D2Scenario Processor.init 1 (d2Set sample) := by
  have frames : ∀ i < 10, D2PageFrame 1 (i + 1) (d2Set sample (i + 1)) := by
    cases sample <;> decide +kernel
  have start : sentSow (d2Set sample 3) = sentSow (d2Set sample 1) + 6 := by
    cases sample <;> decide +kernel
  have sows : ∀ i < 10, 3 ≤ i →
      sentSow (d2Set sample (i + 1)) = sentSow (d2Set sample i) + 3 := by
    cases sample <;> decide +kernel
  have toc : 2 ^ 12 * sentField (d2Set sample 1) 77 5 + sentField (d2Set sample 1) 90 12 =
      2 ^ 15 * sentField (d2Set sample 7) 80 2 + sentField (d2Set sample 7) 90 15 := by
    cases sample <;> decide +kernel
  refine ⟨⟨none, [], rfl⟩, by omega, fun i lower upper => ?_, start,
    fun i lower upper => sows i upper lower, toc⟩
  have frame := frames (i - 1) (by omega)
  rwa [Nat.sub_add_cancel lower] at frame

theorem d2_completes_iff_init :
    D2Completes Processor.init (d2Set .plain) ↔
      (sentConcat (d2Set .plain) d2Af1.low < 256 ∧ sentConcat (d2Set .plain) d2E.low < 256 ∧
        sentConcat (d2Set .plain) d2I0.low < 256) ∧
      604800 * sentField (d2Set .plain 1) 64 13 + sentSow (d2Set .plain 1) ≠ 3158893682 :=
  d2_completes_iff (d2Scenario_init .plain)

/-- Of an `af1` with only bit 12 nothing is left. -/
theorem d2_wide_clock :
    ¬ ∀ st prn pages, D2Scenario st prn pages → D2Completes st pages := by
  intro complete
  have scenario := d2Scenario_init .clock
  obtain ⟨row, full, completes⟩ := scenario.completes_row
  have right := (completes.mp (complete _ _ _ scenario)).2
  have narrow := (full.split_iff.mp right).1
  exact absurd narrow (by decide +kernel)

end GnssParser
