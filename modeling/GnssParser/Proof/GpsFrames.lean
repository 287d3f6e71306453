import GnssParser.Proof.SatelliteState
import GnssParser.Proof.Subframe

/-!
# GPS frames

Subframe `i + 1` lies in bits `240 * i` to `240 * i + 239` of a row.
-/

namespace GnssParser
open Checked BitView

/-! ## Consistent sets -/

def gpsField (row : Row) (i pos len : Nat) : Nat := field (bufferBit row) (240 * i + pos) len

/-- Subframes 1, 2 and 3 with consecutive z-counts. -/
structure GpsOrdered (row : Row) : Prop where
  ids : ∀ i < 3, gpsField row i 43 3 = i + 1
  zCounts : ∀ i < 2, gpsField row (i + 1) 24 17 = gpsField row i 24 17 + 1

/-- Subframes 2 and 3 have one IODE, the low byte of the IODC. -/
structure GpsIssue (row : Row) : Prop where
  iode : gpsField row 1 48 8 = gpsField row 2 216 8
  iodc : (256 * gpsField row 0 70 2 + gpsField row 0 168 8) % 256 = gpsField row 2 216 8

structure GpsConsistent (row : Row) : Prop where
  ordered : GpsOrdered row
  issue : GpsIssue row

def gpsWeek (row : Row) : UInt32 := UInt32.ofNat (gpsField row 0 48 10) + 1024 * gpsWeekRolloverN

def gpsSetTimes (row : Row) : SetTimes :=
  (gpsHandover {
    sat := 0
    ttr := gpst2time (gpsWeek row) ((gpsField row 0 24 17 : ℚ) * 6)
    toc := gpst2time (gpsWeek row) ((gpsField row 0 176 16 : ℚ) * 16)
    toeTow := (gpsField row 1 216 16 : ℚ) * 16 }).times

/-! ## Subframes -/

def gpsSub1 (bit : Nat → Bool) (ephem : Ephem) : Ephem :=
  let week := UInt32.ofNat (field bit 48 10) + 1024 * gpsWeekRolloverN
  let tgd := signedField bit 160 8
  { ephem with
    ura := uraOfIndex (UInt8.ofNat (field bit 60 4))
    health := UInt32.ofNat (field bit 64 6)
    af2 := signedField bit 192 8 * p2_55
    af1 := signedField bit 200 16 * p2_43
    af0 := signedField bit 216 22 * p2_31
    tgd := ephem.tgd.set 0 (if tgd = -128 then 0 else tgd * p2_31) Nat.two_pos
    iodc := UInt32.ofNat (2 ^ 8 * field bit 70 2 + field bit 168 8)
    week
    ttr := gpst2time week (field bit 24 17 * 6)
    toc := gpst2time week (field bit 176 16 * 16) }

def gpsSub2 (bit : Nat → Bool) (ephem : Ephem) : Ephem :=
  let sqrtA : ℚ := field bit 184 32 * p2_19
  { ephem with
    iode := UInt32.ofNat (field bit 48 8)
    crs := signedField bit 56 16 * p2_5
    deltaN := signedField bit 72 16 * p2_43 * sc2rad
    m0 := signedField bit 88 32 * p2_31 * sc2rad
    cuc := signedField bit 120 16 * p2_29
    e := field bit 136 32 * p2_33
    cus := signedField bit 168 16 * p2_29
    toeTow := field bit 216 16 * 16
    a := sqrtA * sqrtA }

def gpsSub3 (bit : Nat → Bool) (ephem : Ephem) : Ephem :=
  { ephem with
    cic := signedField bit 48 16 * p2_29
    omg0 := signedField bit 64 32 * p2_31 * sc2rad
    cis := signedField bit 96 16 * p2_29
    i0 := signedField bit 112 32 * p2_31 * sc2rad
    crc := signedField bit 144 16 * p2_5
    omg := signedField bit 160 32 * p2_31 * sc2rad
    omgDot := signedField bit 192 24 * p2_43 * sc2rad
    iDot := signedField bit 224 14 * p2_43 * sc2rad }

section
variable {p : BytePtr} {bit : Nat → Bool}

theorem gpsTgd_iff (bit : Nat → Bool) :
    bitsS bit 160 8 = -128 ↔ signedField bit 160 8 = -128 := by
  rw [← Int32.toInt_inj, bitsS_toInt bit 160 (by omega) (by omega)]
  rfl

theorem gpsIodc_eq (bit : Nat → Bool) : (bitsU bit 70 2 <<< 8) + bitsU bit 168 8 =
    UInt32.ofNat (2 ^ 8 * field bit 70 2 + field bit 168 8) :=
  ofNat_shift_add (k := 8) _ _ (by omega)

theorem gpsUrai_eq (bit : Nat → Bool) : (bitsU bit 60 4).toUInt8 = UInt8.ofNat (field bit 60 4) :=
  UInt32.toUInt8_ofNat' ..

theorem gpsSubframe1_ok (view : Exposes p bit 30) (ephem : Ephem) :
    gpsSubframe1 p ephem = .ok (gpsSub1 bit ephem) := by
  simp (disch := omega) only [gpsSubframe1, getbitu_ok view, getbits_ok view, ok_bind, pure_eq,
    doubleOfUInt_bitsU, gpsTgd_iff, gpsIodc_eq, gpsUrai_eq, doubleOfInt_bitsS]
  rfl

theorem gpsSubframe2_ok (view : Exposes p bit 30) (ephem : Ephem) :
    gpsSubframe2 p ephem = .ok (gpsSub2 bit ephem) := by
  simp (disch := omega) only [gpsSubframe2, getbitu_ok view, getbits_ok view, ok_bind, pure_eq,
    doubleOfUInt_bitsU, doubleOfInt_bitsS]
  rfl

theorem gpsSubframe3_ok (view : Exposes p bit 30) (ephem : Ephem) :
    gpsSubframe3 p ephem = .ok (bitsU bit 216 8, gpsSub3 bit ephem) := by
  simp (disch := omega) only [gpsSubframe3, getbitu_ok view, getbits_ok view, ok_bind, pure_eq,
    doubleOfInt_bitsS]
  rfl

end

/-- The ephemeris that subframes 1, 2 and 3 encode; `sub i` are the bits of subframe `i + 1`. -/
def gpsSet (sub : Nat → Nat → Bool) (ephem : Ephem) : Ephem :=
  gpsHandover (gpsSub3 (sub 2) (gpsSub2 (sub 1) (gpsSub1 (sub 0) ephem)))

section
variable {bit bit' : Nat → Bool} (same : ∀ j < 240, bit j = bit' j)
include same

theorem field_gpsCongr {pos len : Nat} (inside : pos + len ≤ 240) :
    field bit pos len = field bit' pos len :=
  field_congr fun j _ upper => same j (by omega)

theorem signedField_gpsCongr {pos len : Nat} (inside : pos + len ≤ 240) :
    signedField bit pos len = signedField bit' pos len := by
  rw [signedField, signedField, field_gpsCongr same inside]

theorem gpsSub1_congr (ephem : Ephem) : gpsSub1 bit ephem = gpsSub1 bit' ephem := by
  simp (disch := omega) only [gpsSub1, field_gpsCongr same, signedField_gpsCongr same]

theorem gpsSub2_congr (ephem : Ephem) : gpsSub2 bit ephem = gpsSub2 bit' ephem := by
  simp (disch := omega) only [gpsSub2, field_gpsCongr same, signedField_gpsCongr same]

theorem gpsSub3_congr (ephem : Ephem) : gpsSub3 bit ephem = gpsSub3 bit' ephem := by
  simp (disch := omega) only [gpsSub3, signedField_gpsCongr same]

end

theorem gpsSet_congr {sub sub' : Nat → Nat → Bool} (same : ∀ i < 3, ∀ j < 240, sub i j = sub' i j)
    (ephem : Ephem) : gpsSet sub ephem = gpsSet sub' ephem := by
  rw [gpsSet, gpsSet, gpsSub1_congr (same 0 (by omega)), gpsSub2_congr (same 1 (by omega)),
    gpsSub3_congr (same 2 (by omega))]

def gpsBits (row : Row) (i j : Nat) : Bool := bufferBit row (240 * i + j)

theorem exposes_gps (row : Row) {i : Nat} (h : i < 3) :
    Exposes (BytePtr.add (readAt row) (30 * i)) (gpsBits row i) 30 := by
  have whole : Exposes (readAt row) (bufferBit row) (30 * i + 30) :=
    fun j hj => exposes_readAt row j (by omega)
  have view := whole.add
  simp only [show ∀ j, 8 * (30 * i) + j = 240 * i + j by intro j; ring] at view
  exact view

theorem field_gps (row : Row) (i pos len : Nat) :
    field (gpsBits row i) pos len = gpsField row i pos len :=
  field_shift (bufferBit row) (240 * i) pos len

theorem bitsU_gps (row : Row) (i pos : Nat) {len : Nat} (word : len ≤ 32) :
    (bitsU (gpsBits row i) pos len).toNat = gpsField row i pos len := by
  rw [bitsU_toNat _ _ word, field_gps]

/-! ## Checks -/

theorem gpsField_lt (row : Row) (i pos len : Nat) : gpsField row i pos len < 2 ^ len :=
  field_lt _ _ _

theorem gpsId_iff (row : Row) {i : Nat} (h : i < 3) :
    bitsU (gpsBits row i) 43 3 = UInt32.ofNat i + 1 ↔ gpsField row i 43 3 = i + 1 := by
  rw [← UInt32.toNat_inj, bitsU_gps row i 43 (by omega), UInt32.toNat_add, UInt32.toNat_ofNat',
    show (1 : UInt32).toNat = 1 from rfl, show (i % 2 ^ 32 + 1) % 2 ^ 32 = i + 1 by omega]

theorem gpsZCount_iff (row : Row) (i : Nat) :
    bitsU (gpsBits row i) 24 17 + 1 = bitsU (gpsBits row (i + 1)) 24 17 ↔
      gpsField row (i + 1) 24 17 = gpsField row i 24 17 + 1 := by
  have bound := gpsField_lt row i 24 17
  rw [← UInt32.toNat_inj, UInt32.toNat_add, bitsU_gps row i 24 (by omega),
    bitsU_gps row (i + 1) 24 (by omega), show (1 : UInt32).toNat = 1 from rfl,
    Nat.mod_eq_of_lt (by omega), eq_comm]

def gpsCode (row : Row) : Nat → Int
  | 0 => if gpsField row 0 43 3 = 0 + 1 then 0 else 1
  | i + 1 =>
      if gpsField row (i + 1) 43 3 = i + 1 + 1 then
        if gpsField row (i + 1) 24 17 = gpsField row i 24 17 + 1 then 0 else -2
      else i + 2

theorem checkGpsSubframe_ok (row : Row) {i : Nat} (h : i < 3) :
    checkGpsSubframe (readAt row) i = .ok (gpsCode row i) := by
  rw [checkGpsSubframe, getbitu_ok (exposes_gps row h) (by omega), ok_bind]
  cases i with
  | zero =>
      by_cases id : gpsField row 0 43 3 = 0 + 1
      · rw [if_neg (not_not.mpr ((gpsId_iff row h).mpr id)), gpsCode, if_pos id]
        rfl
      · rw [if_pos (mt (gpsId_iff row h).mp id), gpsCode, if_neg id]
        rfl
  | succ i =>
      by_cases id : gpsField row (i + 1) 43 3 = i + 1 + 1
      · rw [if_neg (not_not.mpr ((gpsId_iff row h).mpr id)), if_pos (by omega), gpsCode, if_pos id,
          show 30 * (i + 1) - 30 = 30 * i by omega,
          getbitu_ok (exposes_gps row (by omega)) (by omega),
          getbitu_ok (exposes_gps row h) (by omega), ok_bind, ok_bind]
        by_cases next : gpsField row (i + 1) 24 17 = gpsField row i 24 17 + 1
        · rw [if_neg (not_not.mpr ((gpsZCount_iff row i).mpr next)), if_pos next]
          rfl
        · rw [if_pos (mt (gpsZCount_iff row i).mp next), if_neg next]
          rfl
      · rw [if_pos (mt (gpsId_iff row h).mp id), gpsCode, if_neg id]
        push_cast
        rw [add_assoc]
        rfl

theorem gpsCode_zero_iff (row : Row) : (∀ i < 3, gpsCode row i = 0) ↔ GpsOrdered row := by
  have next : ∀ i, gpsCode row (i + 1) = 0 ↔ gpsField row (i + 1) 43 3 = i + 1 + 1 ∧
      gpsField row (i + 1) 24 17 = gpsField row i 24 17 + 1 := by
    intro i
    rw [gpsCode]
    split_ifs <;> simp_all
    omega
  have first : gpsCode row 0 = 0 ↔ gpsField row 0 43 3 = 0 + 1 := by
    rw [gpsCode]
    split_ifs <;> simp_all
  constructor
  · intro zero
    refine ⟨fun i h => ?_, fun i h => ((next i).mp (zero (i + 1) (by omega))).2⟩
    cases i with
    | zero => exact first.mp (zero 0 h)
    | succ i => exact ((next i).mp (zero (i + 1) h)).1
  · intro ordered i h
    cases i with
    | zero => exact first.mpr (ordered.ids 0 h)
    | succ i => exact (next i).mpr ⟨ordered.ids (i + 1) h, ordered.zCounts i (by omega)⟩

theorem gpsCheck_ok (row : Row) :
    ∃ missing, forRange (fun i rc =>
        if rc ≠ 0 then pure rc else checkGpsSubframe (readAt row) i) 0 3 0 = .ok missing ∧
      (missing = 0 ↔ GpsOrdered row) := by
  obtain ⟨missing, ran, zero⟩ := forRange_firstNonzero fun i h => checkGpsSubframe_ok row h
  exact ⟨missing, ran, zero.trans (gpsCode_zero_iff row)⟩

theorem gpsIssue_iff (row : Row) :
    (bitsU (gpsBits row 2) 216 8 ≠ bitsU (gpsBits row 1) 48 8 ∨
      bitsU (gpsBits row 2) 216 8 ≠
        ((bitsU (gpsBits row 0) 70 2 <<< 8) + bitsU (gpsBits row 0) 168 8) &&& 0xFF) ↔
      ¬ GpsIssue row := by
  have high := gpsField_lt row 0 70 2
  have low := gpsField_lt row 0 168 8
  have iode : bitsU (gpsBits row 2) 216 8 = bitsU (gpsBits row 1) 48 8 ↔
      gpsField row 1 48 8 = gpsField row 2 216 8 := by
    rw [← UInt32.toNat_inj, bitsU_gps _ _ _ (by omega), bitsU_gps _ _ _ (by omega), eq_comm]
  have iodc : bitsU (gpsBits row 2) 216 8 =
      ((bitsU (gpsBits row 0) 70 2 <<< 8) + bitsU (gpsBits row 0) 168 8) &&& 0xFF ↔
      (256 * gpsField row 0 70 2 + gpsField row 0 168 8) % 256 = gpsField row 2 216 8 := by
    rw [← UInt32.toNat_inj, UInt32.toNat_and, UInt32.toNat_add, UInt32.toNat_shiftLeft,
      bitsU_gps _ _ _ (by omega), bitsU_gps _ _ _ (by omega), bitsU_gps _ _ _ (by omega),
      show (0xFF : UInt32).toNat = 2 ^ 8 - 1 from rfl, Nat.and_two_pow_sub_one_eq_mod,
      show (8 : UInt32).toNat % 32 = 8 from rfl, Nat.shiftLeft_eq]
    omega
  rw [ne_eq, ne_eq, iode, iodc, ← not_and_or, not_iff_not]
  exact ⟨fun ⟨a, b⟩ => ⟨a, b⟩, fun ⟨a, b⟩ => ⟨a, b⟩⟩

/-! ## Sets -/

theorem gpsHandover_times {e e' : Ephem} (ttr : e.ttr = e'.ttr) (toc : e.toc = e'.toc)
    (toeTow : e.toeTow = e'.toeTow) : (gpsHandover e).times = (gpsHandover e').times := by
  simp only [gpsHandover, Ephem.times, ttr, toc, toeTow]

theorem gpst2time_ne_zero (week : UInt32) (tow : ℚ) : (gpst2time week tow).time ≠ 0 := by
  rw [gpst2time]
  simp only [epoch2time_gpst0]
  omega

theorem gpsHandover_sent (e : Ephem) : (gpsHandover e).ttr.time ≠ 0 := by
  rw [gpsHandover]
  dsimp only
  exact gpst2time_ne_zero _ _

/-- The set leaves the decoder with its transmission time although its issues differ. -/
structure GpsLeaks (row : Row) : Prop where
  ordered : GpsOrdered row
  mismatch : ¬ GpsIssue row

def gpsSpec : SetSpec where
  consistent := GpsConsistent
  leaks := GpsLeaks
  times := gpsSetTimes

theorem gpsSet_times (row : Row) (ephem : Ephem) :
    (gpsSet (gpsBits row) ephem).times = gpsSetTimes row := by
  refine gpsHandover_times ?_ ?_ ?_
  all_goals simp only [gpsSub1, gpsSub2, gpsSub3, gpsWeek, field_gps]

theorem decodeGpsEphem_ok {ephem : Ephem} (valid : ValidSat ephem.sat) (row : Row) :
    ∃ rc e time, e.sat = ephem.sat ∧
      SetOutcome gpsSpec ephem (some row) e ∧ (rc = 0 ↔ GpsConsistent row) ∧
      (GpsConsistent row → e = gpsSet (gpsBits row) ephem) ∧
      ∀ st flags, st.Holds ephem.sat row flags →
        decodeGpsEphem st ephem = .ok (rc, st.update ephem.sat row flags time, e) := by
  obtain ⟨missing, checked, zero⟩ := gpsCheck_ok row
  have exposed : ∀ i < 3, Exposes (BytePtr.add (readAt row) (30 * i)) (gpsBits row i) 30 :=
    fun i h => exposes_gps row h
  have read1 := gpsSubframe1_ok (exposed 0 (by omega)) ephem
  have read2 := gpsSubframe2_ok (exposed 1 (by omega)) (gpsSub1 (gpsBits row 0) ephem)
  have read3 := gpsSubframe3_ok (exposed 2 (by omega))
    (gpsSub2 (gpsBits row 1) (gpsSub1 (gpsBits row 0) ephem))
  rw [Nat.mul_zero, BytePtr.add_zero] at read1
  rw [Nat.mul_one] at read2
  rw [show 30 * 2 = 60 from rfl] at read3
  -- the ephemeris before the handover
  generalize read : gpsSub3 (gpsBits row 2)
    (gpsSub2 (gpsBits row 1) (gpsSub1 (gpsBits row 0) ephem)) = e3 at read3
  have sat : e3.sat = ephem.sat := by rw [← read]; rfl
  have issue : (bitsU (gpsBits row 2) 216 8 ≠ e3.iode ∨
      bitsU (gpsBits row 2) 216 8 ≠ e3.iodc &&& 0xFF) ↔ ¬ GpsIssue row := by
    rw [← gpsIssue_iff, ← read]
    rw [gpsIodc_eq]
    rfl
  have set : gpsSet (gpsBits row) ephem = gpsHandover e3 := by rw [gpsSet, read]
  have ran : ∀ st flags, st.Holds ephem.sat row flags → decodeGpsEphem st ephem =
      if missing ≠ 0 then .ok (missing, st, ephem)
      else if bitsU (gpsBits row 2) 216 8 ≠ e3.iode ∨
        bitsU (gpsBits row 2) 216 8 ≠ e3.iodc &&& 0xFF then .ok (-1, st, e3)
      else .ok (0, { st with currTime := (gpsHandover e3).ttr }, gpsHandover e3) := by
    intro st flags holds
    simp only [decodeGpsEphem, holds.row, ok_bind, checked, read1, read2, read3]
    rfl
  by_cases ordered : GpsOrdered row
  · by_cases same : GpsIssue row
    · refine ⟨0, gpsHandover e3, some (gpsHandover e3).ttr, sat,
        .decoded ⟨ordered, same⟩ (fun leak => leak.mismatch same) ?_,
        iff_of_true rfl ⟨ordered, same⟩, fun _ => set.symm, fun st flags holds => ?_⟩
      · rw [← set]
        exact gpsSet_times row ephem
      · rw [ran st flags holds, if_neg (not_not.mpr (zero.mpr ordered)),
          if_neg (mt issue.mp (not_not.mpr same)), st.update_time valid holds]
    · refine ⟨-1, e3, none, sat, .leaked (fun passed => same passed.issue) ⟨ordered, same⟩ ?_,
        iff_of_false (by decide) fun passed => same passed.issue, fun passed => absurd passed.issue same, fun st flags holds => ?_⟩
      · rw [← read]
        exact gpst2time_ne_zero _ _
      · rw [ran st flags holds, if_neg (not_not.mpr (zero.mpr ordered)), if_pos (issue.mpr same),
          st.update_self valid holds]
  · refine ⟨missing, ephem, none, rfl, .rejected (fun passed => ordered passed.ordered)
      (fun leak => ordered leak.ordered) rfl,
      iff_of_false (mt zero.mp ordered) fun passed => ordered passed.ordered, fun passed => absurd passed.ordered ordered,
      fun st flags holds => ?_⟩
    rw [ran st flags holds, if_pos (mt zero.mp ordered), st.update_self valid holds]

/-! ## Frames -/

def gpsUnit (msg : List UInt8) : Option (Nat × Vector UInt32 10) :=
  if msg.length < 56 then none
  else if navWord msg 0 >>> 24 = preambCnav then none
  else
    let words := Vector.ofFn fun i : Fin 10 => navWord msg i >>> 6
    let subframeId := (words.get 1 >>> 2) &&& 0x07
    if subframeId < 1 ∨ subframeId > 5 then none else some (subframeId.toNat, words)

theorem gpsUnit_range {msg : List UInt8} {id : Nat} {words : Vector UInt32 10}
    (unit : gpsUnit msg = some (id, words)) : id ≤ 5 := by
  rw [gpsUnit] at unit
  dsimp only at unit
  split_ifs at unit with _ _ unknown
  have upper := (not_or.mp unknown).2
  rw [gt_iff_lt, UInt32.not_lt, UInt32.le_iff_toNat_le] at upper
  obtain ⟨rfl, _⟩ := Prod.mk.inj (Option.some.inj unit)
  exact upper

def gpsStore (st : Processor) (ephem : Ephem) (id : Nat) (words : Vector UInt32 10) :
    Checked (Int × Processor × Ephem) := do
  let row ← storeWords (← st.row ephem.sat) ((id - 1) * 30) 24 words
  let st ← st.setRow ephem.sat row
  if id = 3 then do
    let (_, st, ephem) ← decodeGpsEphem st ephem
    pure (0, st, ephem)
  else pure (0, st, ephem)

theorem decodeGpsSubframe_eq (st : Processor) (msg : List UInt8) (ephem : Ephem) :
    decodeGpsSubframe st msg ephem = match gpsUnit msg with
      | none => pure (-1, st, ephem)
      | some (id, words) => gpsStore st ephem id words := by
  by_cases short : msg.length < 56
  · simp only [decodeGpsSubframe, gpsUnit, if_pos short]
  have first : u32 ((msgData msg).add (14 + 4 * 0)) = .ok (navWord msg 0) :=
    loadWord_ok (by omega)
  by_cases cnav : navWord msg 0 >>> 24 = preambCnav
  · rw [decodeGpsSubframe, gpsUnit, if_neg short, if_neg short, first, ok_bind, if_pos cnav,
      if_pos cnav]
  rw [decodeGpsSubframe, gpsUnit, if_neg short, if_neg short, first, ok_bind, if_neg cnav,
    if_neg cnav, navWords_ok _ (by omega), ok_bind, readAt_ok (by omega), ok_bind]
  generalize (Vector.ofFn fun i : Fin 10 => navWord msg i >>> 6) = words
  dsimp only
  rw [show words.get 1 = words[1] from rfl]
  generalize (words[1] >>> 2) &&& 0x07 = subframeId
  by_cases unknown : subframeId < 1 ∨ subframeId > 5
  · rw [if_pos unknown, if_pos unknown]
  · have third : subframeId.toNat = 3 ↔ subframeId = 3 := UInt32.toNat_inj (b := 3)
    rw [if_neg unknown, if_neg unknown]
    simp only [gpsStore, third]

def gpsCompletes (row : Row) (msg : List UInt8) : Checked (Option Row) :=
  match gpsUnit msg with
  | none => pure none
  | some (id, words) =>
      if id = 3 then do pure (some (← storeWords row ((id - 1) * 30) 24 words)) else pure none

theorem decodeGpsSubframe_ok (ephem : Ephem) (valid : ValidSat ephem.sat) (msg : List UInt8)
    (row : Row) (flags : UInt8) :
    ∃ rc e row' time set, e.sat = ephem.sat ∧ gpsCompletes row msg = .ok set ∧
      SetOutcome gpsSpec ephem set e ∧
      ∀ st : Processor, st.Holds ephem.sat row flags →
        decodeGpsSubframe st msg ephem = .ok (rc, st.update ephem.sat row' flags time, e) := by
  cases unit : gpsUnit msg with
  | none =>
      refine ⟨-1, ephem, row, none, none, rfl, by rw [gpsCompletes, unit]; rfl, .stored,
        fun st holds => ?_⟩
      rw [decodeGpsSubframe_eq, unit, st.update_self valid holds]
      rfl
  | some stored =>
      obtain ⟨id, words⟩ := stored
      have range := gpsUnit_range unit
      obtain ⟨row', wrote, _⟩ := storeWords_ok row words (show 0 < 24 by omega) (by omega)
        (show 8 * ((id - 1) * 30) + 10 * 24 ≤ 8 * 380 by omega)
      by_cases third : id = 3
      · obtain ⟨rc, e, time, sat, outcome, _, _, ran⟩ := decodeGpsEphem_ok valid row'
        refine ⟨0, e, row', time, some row', sat, ?_, outcome, fun st holds => ?_⟩
        · rw [gpsCompletes, unit]
          simp only [if_pos third, wrote, ok_bind, pure_eq]
        · have now := st.holds_update valid row' flags none
          rw [decodeGpsSubframe_eq, unit]
          dsimp only
          rw [gpsStore, holds.row, ok_bind, wrote, ok_bind, st.setRow_ok valid holds, ok_bind,
            if_pos third, ran _ flags now, ok_bind, st.update_update, Option.or_none]
          rfl
      · refine ⟨0, ephem, row', none, none, rfl, ?_, .stored, fun st holds => ?_⟩
        · rw [gpsCompletes, unit]
          simp only [if_neg third, pure_eq]
        · rw [decodeGpsSubframe_eq, unit]
          dsimp only
          rw [gpsStore, holds.row, ok_bind, wrote, ok_bind, st.setRow_ok valid holds, ok_bind,
            if_neg third]
          rfl

end GnssParser
