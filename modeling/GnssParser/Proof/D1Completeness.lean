import GnssParser.Proof.MeasBlocks

/-!
# Completeness of BeiDou D1

Subframes 1, 2 and 3 of a satellite are decoded unless a flag of another subframe is still set: the
flags are compared with those of the three, and only a decoded set resets them.
-/

namespace GnssParser
open Checked BitView

/-! ## Messages in between -/

/-- A measurement message whose time of week is no number, which has no value as a `time_t`. -/
structure NanRawx (msg : List UInt8) : Prop where
  verified : verifyMsg msg = .ok true
  type : msgType msg = .ok ubxRxmrawxId
  passes : FramePasses msg
  tow : rawxTow msg = .nan

/-- The messages whose processing is undefined. -/
def Breaks (msg : List UInt8) : Prop := SfrbxFrame msg ∧ NullGlonass msg ∨ NanRawx msg

section
variable {handler : Option UbloxRosHandler} {st st' : Processor} {msg : List UInt8}

theorem publishEphemeris_ok (h : UbloxRosHandler) (long : 8 ≤ msg.length) {ephem : Option EphemObject}
    {ionoParams : List ℚ} (parsed : parseSubframe st msg [] = .ok (ephem, st', ionoParams)) :
    ∃ published, h.publishEphemeris ephem = .ok published := by
  by_cases none : frameSat msg = 0
  · rw [parseSubframe_none long none] at parsed
    cases parsed
    exact ⟨[], rfl⟩
  by_cases glo : frameSys msg = sysGlo
  · rw [parseSubframe_glonass long none glo] at parsed
    split at parsed
    case isTrue short =>
      cases parsed
      exact ⟨[], rfl⟩
    case isFalse enough => cases parsed
  · obtain ⟨row, flags, holds⟩ := st.holds_exists (frameSat_valid none)
    obtain ⟨e, iono, row', flags', time, set, sat, _, _, ran⟩ :=
      parseSubframe_ok long none glo [] row flags
    rw [ran st holds] at parsed
    cases parsed
    have sys : (satsys e.sat).1 ≠ sysGlo := by
      rw [sat, show (satsys (frameSat msg)).1 = frameSys msg from
        congrArg Prod.fst (satsys_satNo none)]
      exact glo
    by_cases unset : e.ttr.time = 0
    · exact ⟨[], if_pos unset⟩
    by_cases masked : (satsys e.sat).1 &&& h.ephemerisSystemMask = 0
    · exact ⟨[], (if_neg unset).trans (if_pos masked)⟩
    · exact ⟨[.ephem e], (if_neg unset).trans ((if_neg masked).trans (if_neg sys))⟩

theorem processData_nan (nan : NanRawx msg) (st : Processor) :
    processData handler st msg = .error .badConversion := by
  have undefined : rawxTime msg = .error .badConversion := by
    rw [rawxTime, nan.tow]
    rfl
  rw [processData, nan.verified, ok_bind, if_neg (by decide), nan.type, ok_bind, if_pos rfl,
    parseMeasMsg_passes st nan.passes, undefined]
  rfl

theorem processData_null (frame : SfrbxFrame msg) (null : NullGlonass msg) (st : Processor) :
    processData handler st msg = .error .nullPointer := by
  rw [processData, frame.verified, ok_bind, if_neg (by decide), frame.type, ok_bind,
    if_neg (by decide), if_pos rfl, parseSubframe_null null]
  rfl

theorem processData_rawx (verified : verifyMsg msg = .ok true)
    (type : msgType msg = .ok ubxRxmrawxId) (safe : ¬ NanRawx msg) (st : Processor) :
    ∃ r, processData handler st msg = .ok r := by
  have parsed : ∃ r, parseMeasMsg st msg = .ok r := by
    by_cases passes : FramePasses msg
    · exact (parseMeasMsg_gathered st passes).1 fun nan => safe ⟨verified, type, passes, nan⟩
    · exact ⟨_, parseMeasMsg_fails st passes⟩
  obtain ⟨⟨meas, next⟩, ran⟩ := parsed
  rw [processData, verified, ok_bind, if_neg (by decide), type, ok_bind, if_pos rfl, ran]
  cases handler <;> exact ⟨_, rfl⟩

theorem processData_sfrbx (frame : SfrbxFrame msg) (safe : ¬ NullGlonass msg) (st : Processor) :
    ∃ r, processData handler st msg = .ok r := by
  obtain ⟨ephem, next, ionoParams, ran⟩ := parseSubframe_defined frame.long safe st
  rw [processData, frame.verified, ok_bind, if_neg (by decide), frame.type, ok_bind,
    if_neg (by decide), if_pos rfl, ran]
  cases handler with
  | none => exact ⟨_, rfl⟩
  | some h =>
      obtain ⟨published, sent⟩ := publishEphemeris_ok h frame.long ran
      rw [ok_bind]
      dsimp only
      rw [sent]
      cases ephem <;> exact ⟨_, rfl⟩

theorem processData_ok_iff (st : Processor) (msg : List UInt8) :
    (∃ r, processData handler st msg = .ok r) ↔ ¬ Breaks msg := by
  constructor
  · rintro ⟨r, ran⟩ (⟨frame, null⟩ | nan)
    · rw [processData_null frame null] at ran
      cases ran
    · rw [processData_nan nan] at ran
      cases ran
  · intro safe
    obtain ⟨sfrbxSafe, rawxSafe⟩ := not_or.mp safe
    obtain ⟨verified, checked⟩ := verifyMsg_ok msg
    cases verified with
    | false => exact ⟨([], st), by rw [processData, checked]; rfl⟩
    | true =>
        have long := verifyMsg_length checked
        obtain ⟨type, typed⟩ := msgType_ok (show 4 ≤ msg.length by omega)
        by_cases rawx : type = ubxRxmrawxId
        · exact processData_rawx checked (rawx ▸ typed) rawxSafe st
        by_cases sfrbx : type = ubxRxmsfrbxId
        · have frame : SfrbxFrame msg := ⟨checked, sfrbx ▸ typed⟩
          exact processData_sfrbx frame (fun null => sfrbxSafe ⟨frame, null⟩) st
        rw [processData, checked, ok_bind, if_neg (by decide), typed, ok_bind, if_neg rawx,
          if_neg sfrbx]
        obtain ⟨tp, pulse⟩ := parseTimePulse_ok msg
        obtain ⟨pvt, position⟩ := parsePvt_returns st msg
        rw [pulse, position]
        split_ifs <;> exact ⟨_, rfl⟩

theorem feed_ok_iff (st : Processor) (msgs : List (List UInt8)) :
    (∃ st', feed handler st msgs = .ok st') ↔ ∀ msg ∈ msgs, ¬ Breaks msg := by
  induction msgs generalizing st with
  | nil => simp [feed]
  | cons msg rest ih =>
      have head : (∃ r, processData handler st msg = .ok r) ↔ ¬ Breaks msg :=
        processData_ok_iff st msg
      rw [List.forall_mem_cons, ← head]
      constructor
      · rintro ⟨st', fed⟩
        rw [feed] at fed
        obtain ⟨⟨published, next⟩, ran, fed⟩ := bind_eq_ok.mp fed
        exact ⟨⟨_, ran⟩, (ih next).mp ⟨st', fed⟩⟩
      · rintro ⟨⟨⟨published, next⟩, ran⟩, safe⟩
        obtain ⟨st', fed⟩ := (ih next).mpr safe
        exact ⟨st', by rw [feed, ran]; exact fed⟩

end

/-! ## D1 frames -/

def sentField (msg : List UInt8) (pos len : Nat) : Nat := wordField 30 (bdsWords msg) pos len

def sentSow (msg : List UInt8) : Nat := 2 ^ 12 * sentField msg 18 8 + sentField msg 30 12

structure D1Frame (prn id : Nat) (msg : List UInt8) : Prop where
  frame : SfrbxFrame msg
  long : 56 ≤ msg.length
  gnssId : msg.getD 6 0 = 3
  svid : (msg.getD 7 0).toNat = prn
  id : sentField msg 15 3 = id

def CarriesD1 (prn : Nat) (msg : List UInt8) : Prop := ∃ id, 1 ≤ id ∧ id ≤ 5 ∧ D1Frame prn id msg

/-- Subframes 1, 2 and 3 of one set, with other messages before the second and the third. -/
structure D1Scenario (st : Processor) (prn : Nat) (f1 f2 f3 : List UInt8)
    (between12 between23 : List (List UInt8)) : Prop where
  reachable : Reachable st
  igso : 6 ≤ prn ∧ prn ≤ 58
  first : D1Frame prn 1 f1
  second : D1Frame prn 2 f2
  third : D1Frame prn 3 f3
  sow2 : sentSow f2 = sentSow f1 + 6
  sow3 : sentSow f3 = sentSow f1 + 12
  /-- `toc = toe`, in units of 8 s. -/
  toc : 2 ^ 8 * sentField f1 73 9 + sentField f1 90 8 =
    2 ^ 15 * sentField f2 290 2 + (2 ^ 5 * sentField f3 42 10 + sentField f3 60 5)
  quiet : ∀ msg ∈ between12 ++ between23, ¬ CarriesD1 prn msg

structure HoldsD1 (row : Row) (f1 f2 f3 : List UInt8) : Prop where
  first : HoldsWords row 0 30 (bdsWords f1)
  second : HoldsWords row 38 30 (bdsWords f2)
  third : HoldsWords row 76 30 (bdsWords f3)

def DecodedFromD1 (sat : Nat) (f1 f2 f3 : List UInt8) (e : Ephem) (ionoParams : List ℚ) : Prop :=
  ∀ (st : Processor) row flags, st.Holds sat row flags → HoldsD1 row f1 f2 f3 →
    ∃ st', decodeBdsD1Ephem st { sat } [] = .ok (0, st', e, ionoParams)

/-- All messages are processed, and the third subframe gives the ephemeris of the three. -/
def D1Completes (handler : Option UbloxRosHandler) (st : Processor) (prn : Nat)
    (f1 f2 f3 : List UInt8) (between12 between23 : List (List UInt8)) : Prop :=
  ∃ st' e ionoParams next, feed handler st (f1 :: between12 ++ f2 :: between23) = .ok st' ∧
    parseSubframe st' f3 [] = .ok (some (.ephem e), next, ionoParams) ∧ e.ttr.time ≠ 0 ∧
    DecodedFromD1 (satNo sysBds prn) f1 f2 f3 e ionoParams ∧ ionoParams.length = 8

/-! ## One frame -/

section
variable {prn id : Nat} {msg : List UInt8}

theorem sentId_eq (msg : List UInt8) :
    sentField msg 15 3 = ((getElem (bdsWords msg) 0 (by decide) >>> 12) &&& 0x07).toNat := by
  have word : wordField 30 (bdsWords msg) (30 * 0 + 15) 3 =
      (bdsWords msg)[0].toNat / 2 ^ 12 % 2 ^ 3 :=
    wordField_word (bdsWords msg) (by omega) (by omega)
  rw [sentField, show (15 : Nat) = 30 * 0 + 15 from rfl, word, UInt32.toNat_and,
    UInt32.toNat_shiftRight, show (12 : UInt32).toNat % 32 = 12 from rfl,
    show (0x07 : UInt32).toNat = 2 ^ 3 - 1 from rfl, Nat.and_two_pow_sub_one_eq_mod,
    Nat.shiftRight_eq_div_pow]

theorem bdsSubframeId_eq (long : 56 ≤ msg.length) (lower : 1 ≤ sentField msg 15 3)
    (upper : sentField msg 15 3 ≤ 5) : bdsSubframeId msg = some (sentField msg 15 3) := by
  rw [sentId_eq] at lower upper ⊢
  rw [bdsSubframeId, if_neg (by omega)]
  refine if_neg (not_or.mpr ⟨?_, ?_⟩)
  · rw [UInt32.not_lt, UInt32.le_iff_toNat_le]
    exact lower
  · rw [UInt32.not_lt, UInt32.le_iff_toNat_le]
    exact upper

theorem bdsSubframeId_sent (sent : bdsSubframeId msg = some id) :
    56 ≤ msg.length ∧ 1 ≤ id ∧ id ≤ 5 ∧ sentField msg 15 3 = id := by
  obtain ⟨long, lower, upper⟩ := bdsSubframeId_range sent
  refine ⟨long, lower, upper, ?_⟩
  rw [bdsSubframeId, if_neg (by omega)] at sent
  dsimp only at sent
  split_ifs at sent
  rw [sentId_eq]
  exact Option.some.inj sent

theorem ubxSys_bds {gnssid : Nat} (bds : ubxSys gnssid = sysBds) : gnssid = 3 := by
  unfold ubxSys at bds
  split at bds <;> first | rfl | cases bds

theorem D1Frame.sat_eq (frame : D1Frame prn id msg) : frameSat msg = satNo sysBds prn := by
  rw [frameSat, frameSys, frame.gnssId, frame.svid]
  rfl

section
variable (igso : 6 ≤ prn ∧ prn ≤ 58)
include igso

theorem bdsSat_ne_zero : satNo sysBds prn ≠ 0 := by
  rw [satNo_bds, if_pos (by omega)]
  omega

theorem bdsSat_isD1 : IsD1 (satNo sysBds prn) := by
  rw [IsD1, satsys_satNo (bdsSat_ne_zero igso)]
  dsimp only
  omega

theorem carriesD1_of_sent (frame : IsFrameOf (satNo sysBds prn) msg)
    (sent : bdsSubframeId msg = some id) : CarriesD1 prn msg := by
  obtain ⟨long, lower, upper, value⟩ := bdsSubframeId_sent sent
  have valid : frameSat msg ≠ 0 := frame.2.trans_ne (bdsSat_ne_zero igso)
  have numbered : (frameSys msg, (msg.getD 7 0).toNat) = (sysBds, prn) := by
    rw [← satsys_satNo valid, ← satsys_satNo (bdsSat_ne_zero igso)]
    exact congrArg satsys frame.2
  obtain ⟨sys, svid⟩ := Prod.mk.inj numbered
  exact ⟨id, lower, upper, frame.1, long, UInt8.toNat_inj.mp (ubxSys_bds sys), svid, value⟩

theorem parseSubframe_bds (frame : SfrbxFrame msg) (sat : frameSat msg = satNo sysBds prn)
    (st : Processor) :
    parseSubframe st msg [] = (do
      let (_, st, e, ionoParams) ← decodeBdsSubframe st msg { sat := satNo sysBds prn } []
      pure (some (.ephem e), st, ionoParams)) := by
  have valid : frameSat msg ≠ 0 := sat.trans_ne (bdsSat_ne_zero igso)
  have sys : frameSys msg = sysBds := by
    have same := satsys_satNo valid
    rw [← frameSat, sat, satsys_satNo (bdsSat_ne_zero igso)] at same
    exact (Prod.mk.inj same).1.symm
  rw [parseSubframe_some frame.long valid, sys, if_neg (by decide), if_pos rfl, sat]

theorem parseSubframe_d1 (frame : D1Frame prn id msg) (range : 1 ≤ id ∧ id ≤ 5) (st : Processor) :
    parseSubframe st msg [] = (do
      let (_, st, e, ionoParams) ←
        d1Store st { sat := satNo sysBds prn } id (bdsWords msg) []
      pure (some (.ephem e), st, ionoParams)) := by
  have sent : bdsSubframeId msg = some id := by
    rw [bdsSubframeId_eq frame.long (by rw [frame.id]; exact range.1)
      (by rw [frame.id]; exact range.2), frame.id]
  rw [parseSubframe_bds igso frame.frame frame.sat_eq,
    decodeBdsSubframe_d1 (bdsSat_isD1 igso), sent]

theorem parseSubframe_notD1 (frame : IsFrameOf (satNo sysBds prn) msg) (quiet : ¬ CarriesD1 prn msg)
    {st st' : Processor} {ephem : Option EphemObject} {ionoParams : List ℚ}
    (parsed : parseSubframe st msg [] = .ok (ephem, st', ionoParams)) : st' = st := by
  have none : bdsSubframeId msg = none := by
    cases sent : bdsSubframeId msg with
    | none => rfl
    | some id => exact absurd (carriesD1_of_sent igso frame sent) quiet
  rw [parseSubframe_bds igso frame.1 frame.2,
    decodeBdsSubframe_d1 (bdsSat_isD1 igso), none] at parsed
  cases parsed
  rfl

section
variable {st : Processor} {row : Row} {flags : UInt8}
  (holds : st.Holds (satNo sysBds prn) row flags)
include holds

theorem d1Frame_pending (frame : D1Frame prn id msg) (range : 1 ≤ id ∧ id ≤ 5)
    (pending : flags ||| d1Flag id ≠ 0x07) :
    ∃ row', (∀ j, bufferBit row' j = storedBit row ((id - 1) * 38) 30 (bdsWords msg) j) ∧
      parseSubframe st msg [] = .ok (some (.ephem { sat := satNo sysBds prn }),
        st.update (satNo sysBds prn) row' (flags ||| d1Flag id) none, []) := by
  obtain ⟨row', wrote, bits⟩ := storeBds_ok row (bdsWords msg) (show id ≤ 10 by omega)
  refine ⟨row', bits, ?_⟩
  have valid : ValidSat ({ sat := satNo sysBds prn } : Ephem).sat :=
    validSat_satNo (bdsSat_ne_zero igso)
  rw [parseSubframe_d1 igso frame range, d1Store_pending valid wrote [] pending holds]
  rfl

theorem d1Frame_complete (frame : D1Frame prn id msg) (range : 1 ≤ id ∧ id ≤ 5)
    (complete : flags ||| d1Flag id = 0x07) :
    ∃ row' rc e ionoParams row'' time,
      (∀ j, bufferBit row' j = storedBit row ((id - 1) * 38) 30 (bdsWords msg) j) ∧
      SetOutcome d1Spec { sat := satNo sysBds prn } (some row') e ∧
      (rc = 0 ↔ D1Consistent row') ∧ (D1Consistent row' → ionoParams.length = 8) ∧
      (∀ (st : Processor) set flags, SameD1 row' set → st.Holds (satNo sysBds prn) set flags →
        decodeBdsD1Ephem st { sat := satNo sysBds prn } [] =
          .ok (rc, st.update (satNo sysBds prn) set flags time, e, ionoParams)) ∧
      parseSubframe st msg [] = .ok (some (.ephem e),
        st.update (satNo sysBds prn) row'' 0 time, ionoParams) := by
  have valid : ValidSat ({ sat := satNo sysBds prn } : Ephem).sat :=
    validSat_satNo (bdsSat_ne_zero igso)
  obtain ⟨row', wrote, bits⟩ := storeBds_ok row (bdsWords msg) (show id ≤ 10 by omega)
  obtain ⟨rc, e, ionoParams, time, sat, outcome, code, eight, _, decoded⟩ :=
    decodeBdsD1Ephem_ok valid row' []
  obtain ⟨row'', _, ran⟩ := d1Store_complete valid wrote [] complete
    (fun st flags => decoded st row' flags (.refl row')) sat
  refine ⟨row', rc, e, ionoParams, row'', time, bits, outcome, code, eight, decoded, ?_⟩
  rw [parseSubframe_d1 igso frame range, ran st holds]
  rfl

end

end

end

/-! ## The flags -/

def d1NextFlags (flags : UInt8) (id : Nat) : UInt8 :=
  if flags ||| d1Flag id = 0x07 then 0 else flags ||| d1Flag id

theorem d1Flags_low {flags : UInt8} (low : flags < 4) :
    flags ||| d1Flag 1 ≠ 0x07 ∧ (flags ||| d1Flag 1) ||| d1Flag 2 ≠ 0x07 ∧
      ((flags ||| d1Flag 1) ||| d1Flag 2) ||| d1Flag 3 = 0x07 := by
  have all : ∀ n < 256, UInt8.ofNat n < 4 → UInt8.ofNat n ||| d1Flag 1 ≠ 0x07 ∧
      (UInt8.ofNat n ||| d1Flag 1) ||| d1Flag 2 ≠ 0x07 ∧
      ((UInt8.ofNat n ||| d1Flag 1) ||| d1Flag 2) ||| d1Flag 3 = 0x07 := by decide +kernel
  have this := all flags.toNat (UInt8.toNat_lt flags)
  rw [UInt8.ofNat_toNat] at this
  exact this low

/-- Any other flags are incomplete when subframe 3 comes: a set was decoded too early, or the flag
of subframe 4 or 5 stays. -/
theorem d1Flags_high {flags : UInt8} (high : ¬ flags < 4) :
    d1NextFlags (d1NextFlags flags 1) 2 ||| d1Flag 3 ≠ 0x07 := by
  have all : ∀ n < 256, ¬ UInt8.ofNat n < 4 →
      d1NextFlags (d1NextFlags (UInt8.ofNat n) 1) 2 ||| d1Flag 3 ≠ 0x07 := by decide +kernel
  have this := all flags.toNat (UInt8.toNat_lt flags)
  rw [UInt8.ofNat_toNat] at this
  exact this high

theorem d1Frame_flags {prn id : Nat} {msg : List UInt8} (igso : 6 ≤ prn ∧ prn ≤ 58)
    {st st' : Processor} {flags : UInt8} (sees : st.Sees (satNo sysBds prn) fun _ fl => fl = flags)
    (frame : D1Frame prn id msg) (range : 1 ≤ id ∧ id ≤ 5) {ephem : Option EphemObject}
    {ionoParams : List ℚ} (parsed : parseSubframe st msg [] = .ok (ephem, st', ionoParams)) :
    st'.Sees (satNo sysBds prn) fun _ fl => fl = d1NextFlags flags id := by
  obtain ⟨row, now, holds, rfl⟩ := sees
  have valid := validSat_satNo (bdsSat_ne_zero igso)
  rw [d1NextFlags]
  by_cases complete : now ||| d1Flag id = 0x07
  · obtain ⟨_, rc, e, iono, row', time, _, _, _, _, _, ran⟩ :=
      d1Frame_complete igso holds frame range complete
    rw [ran] at parsed
    cases parsed
    rw [if_pos complete]
    exact ⟨row', 0, st.holds_update valid _ _ _, rfl⟩
  · obtain ⟨row', _, ran⟩ := d1Frame_pending igso holds frame range complete
    rw [ran] at parsed
    cases parsed
    rw [if_neg complete]
    exact ⟨row', _, st.holds_update valid _ _ _, rfl⟩

/-! ## The set in the row -/

theorem HoldsWords.bdsField_eq {row : Row} {msg : List UInt8} {i pos len : Nat}
    (holds : HoldsWords row (38 * i) 30 (bdsWords msg)) (inside : pos + len ≤ 300) :
    bdsField row i pos len = sentField msg pos len := by
  rw [bdsField, show 304 * i = 8 * (38 * i) by ring]
  exact holds.field_eq inside

theorem HoldsWords.bdsSow_eq {row : Row} {msg : List UInt8} {i : Nat}
    (holds : HoldsWords row (38 * i) 30 (bdsWords msg)) : bdsSow row i = sentSow msg := by
  rw [bdsSow, sentSow, holds.bdsField_eq (by omega), holds.bdsField_eq (by omega)]

section
variable {row row' : Row} {f1 f2 f3 : List UInt8}

theorem HoldsD1.same (holds : HoldsD1 row f1 f2 f3) (holds' : HoldsD1 row' f1 f2 f3) :
    SameD1 row row' := by
  intro i h j inside
  interval_cases i
  · exact (holds.first j inside).trans (holds'.first j inside).symm
  · exact (holds.second j inside).trans (holds'.second j inside).symm
  · exact (holds.third j inside).trans (holds'.third j inside).symm

theorem HoldsD1.ttr_iff (holds : HoldsD1 row f1 f2 f3) :
    (d1SetTimes row).ttr.time ≠ 0 ↔ 604800 * sentField f1 60 13 + sentSow f1 ≠ 3158893682 := by
  have first : HoldsWords row (38 * 0) 30 (bdsWords f1) := holds.first
  have week := bdsField_lt row 0 60 13
  have sow := bdsSow_lt row 0
  have ttr : (d1SetTimes row).ttr =
      ⟨1136073614 + wrapInt (604800 * bdsField row 0 60 13 + bdsSow row 0), 0⟩ :=
    bdsTimes_ttr { sat := 0 } week sow (d1ToeWeek (d1LocalsOf row)) (d1LocalsOf row).toes
      (d1LocalsOf row).tocBds
  rw [ttr, ← first.bdsField_eq (by omega), ← first.bdsSow_eq]
  exact not_congr (bdsTtr_eq_zero_iff week sow)

variable {handler : Option UbloxRosHandler} {st st' : Processor} {prn : Nat}

/-! ## Runs -/

theorem feed_quietD1 (igso : 6 ≤ prn ∧ prn ≤ 58) {msgs : List (List UInt8)}
    (quiet : ∀ msg ∈ msgs, ¬ CarriesD1 prn msg) {inv : Row → UInt8 → Prop}
    (sees : st.Sees (satNo sysBds prn) inv) (fed : feed handler st msgs = .ok st') :
    st'.Sees (satNo sysBds prn) inv := by
  refine feed_sees (validSat_satNo (bdsSat_ne_zero igso)) ?_ sees fed
  intro msg mem frame st st' ephem ionoParams sees parsed
  rw [parseSubframe_notD1 igso frame (quiet msg mem) parsed]
  exact sees

theorem D1Frame.safe {id : Nat} {msg : List UInt8} (frame : D1Frame prn id msg) : ¬ Breaks msg := by
  rintro (⟨_, null⟩ | nan)
  · have sys := null.sys
    rw [frameSys, frame.gnssId] at sys
    cases sys
  · have type := nan.type
    rw [frame.frame.type] at type
    cases type

variable {between12 between23 : List (List UInt8)}
  (scenario : D1Scenario st prn f1 f2 f3 between12 between23)
include scenario

theorem D1Scenario.fed_iff :
    (∃ st', feed handler st (f1 :: between12 ++ f2 :: between23) = .ok st') ↔
      ∀ msg ∈ between12 ++ between23, ¬ Breaks msg := by
  have first := scenario.first.safe
  have second := scenario.second.safe
  rw [feed_ok_iff, List.cons_append, List.forall_mem_cons, List.forall_mem_append,
    List.forall_mem_cons, List.forall_mem_append]
  exact ⟨fun h => ⟨h.2.1, h.2.2.2⟩, fun h => ⟨first, h.1, second, h.2⟩⟩

theorem D1Scenario.consistent (holds : HoldsD1 row f1 f2 f3) : D1Consistent row := by
  have first : HoldsWords row (38 * 0) 30 (bdsWords f1) := holds.first
  have second : HoldsWords row (38 * 1) 30 (bdsWords f2) := holds.second
  have third : HoldsWords row (38 * 2) 30 (bdsWords f3) := holds.third
  refine ⟨fun i h => ?_, fun i h => ?_, ?_⟩
  · interval_cases i
    · exact (first.bdsField_eq (by omega)).trans scenario.first.id
    · exact (second.bdsField_eq (by omega)).trans scenario.second.id
    · exact (third.bdsField_eq (by omega)).trans scenario.third.id
  · interval_cases i
    · rw [second.bdsSow_eq, first.bdsSow_eq, scenario.sow2]
    · rw [third.bdsSow_eq, second.bdsSow_eq, scenario.sow3, scenario.sow2]
  · rw [d1Toc, d1Toe, first.bdsField_eq (by omega), first.bdsField_eq (by omega),
      second.bdsField_eq (by omega), third.bdsField_eq (by omega), third.bdsField_eq (by omega)]
    exact scenario.toc

theorem D1Scenario.decoded (fed : feed handler st (f1 :: between12 ++ f2 :: between23) = .ok st')
    {row : Row} {flags : UInt8} (low : flags < 4) (holds : st.Holds (satNo sysBds prn) row flags) :
    ∃ e ionoParams next set, parseSubframe st' f3 [] = .ok (some (.ephem e), next, ionoParams) ∧
      HoldsD1 set f1 f2 f3 ∧ e.times = d1SetTimes set ∧
      DecodedFromD1 (satNo sysBds prn) f1 f2 f3 e ionoParams ∧ ionoParams.length = 8 := by
  have igso := scenario.igso
  have valid := validSat_satNo (bdsSat_ne_zero igso)
  obtain ⟨pending1, pending2, complete⟩ := d1Flags_low low
  obtain ⟨mid, fed1, fed2⟩ := feed_append fed
  -- subframe 1
  obtain ⟨_, _, st1, parsed1, rest1⟩ := feed_frame scenario.first.frame fed1
  obtain ⟨row1, bits1, ran1⟩ := d1Frame_pending igso holds scenario.first (by omega) pending1
  rw [ran1] at parsed1
  cases parsed1
  have sees1 : (st.update (satNo sysBds prn) row1 (flags ||| d1Flag 1) none).Sees (satNo sysBds prn)
      fun row fl => HoldsWords row 0 30 (bdsWords f1) ∧ fl = flags ||| d1Flag 1 :=
    ⟨row1, _, st.holds_update valid _ _ _, holdsWords_stored bits1, rfl⟩
  obtain ⟨row, _, holds, first, rfl⟩ :=
    feed_quietD1 igso (fun msg mem => scenario.quiet msg (List.mem_append_left _ mem)) sees1 rest1
  -- subframe 2
  obtain ⟨_, _, st2, parsed2, rest2⟩ := feed_frame scenario.second.frame fed2
  obtain ⟨row2, bits2, ran2⟩ := d1Frame_pending igso holds scenario.second (by omega) pending2
  rw [ran2] at parsed2
  cases parsed2
  have sees2 : (mid.update (satNo sysBds prn) row2 (flags ||| d1Flag 1 ||| d1Flag 2) none).Sees
      (satNo sysBds prn) fun row fl => (HoldsWords row 0 30 (bdsWords f1) ∧
        HoldsWords row 38 30 (bdsWords f2)) ∧ fl = flags ||| d1Flag 1 ||| d1Flag 2 :=
    ⟨row2, _, mid.holds_update valid _ _ _, ⟨first.keep bits2 (by omega), holdsWords_stored bits2⟩,
      rfl⟩
  obtain ⟨row, _, holds, ⟨first, second⟩, rfl⟩ :=
    feed_quietD1 igso (fun msg mem => scenario.quiet msg (List.mem_append_right _ mem)) sees2 rest2
  -- subframe 3
  obtain ⟨set, rc, e, ionoParams, row3, time, bits3, outcome, code, eight, decoded, ran3⟩ :=
    d1Frame_complete igso holds scenario.third (by omega) complete
  have found : HoldsD1 set f1 f2 f3 :=
    ⟨first.keep bits3 (by omega), second.keep bits3 (by omega), holdsWords_stored bits3⟩
  have passed := scenario.consistent found
  obtain rfl := code.mpr passed
  refine ⟨e, ionoParams, _, set, ran3, found, ?_, ?_, eight passed⟩
  · cases outcome with
    | rejected failed => exact absurd passed failed
    | leaked failed => exact absurd passed failed
    | decoded _ _ assigned => exact assigned
  · intro other row flags holds same
    exact ⟨_, decoded other row flags (found.same same) holds⟩

theorem D1Scenario.undecoded (fed : feed handler st (f1 :: between12 ++ f2 :: between23) = .ok st')
    {row : Row} {flags : UInt8} (high : ¬ flags < 4) (holds : st.Holds (satNo sysBds prn) row flags) :
    ∃ next, parseSubframe st' f3 [] =
      .ok (some (.ephem { sat := satNo sysBds prn }), next, []) := by
  have igso := scenario.igso
  obtain ⟨mid, fed1, fed2⟩ := feed_append fed
  obtain ⟨_, _, st1, parsed1, rest1⟩ := feed_frame scenario.first.frame fed1
  have sees1 := d1Frame_flags igso ⟨row, flags, holds, rfl⟩ scenario.first (by omega) parsed1
  have later1 :=
    feed_quietD1 igso (fun msg mem => scenario.quiet msg (List.mem_append_left _ mem)) sees1 rest1
  obtain ⟨_, _, st2, parsed2, rest2⟩ := feed_frame scenario.second.frame fed2
  have sees2 := d1Frame_flags igso later1 scenario.second (by omega) parsed2
  obtain ⟨row, _, holds, rfl⟩ :=
    feed_quietD1 igso (fun msg mem => scenario.quiet msg (List.mem_append_right _ mem)) sees2 rest2
  obtain ⟨row', _, ran⟩ :=
    d1Frame_pending igso holds scenario.third (by omega) (d1Flags_high high)
  exact ⟨_, ran⟩

/-- The set is decoded if no flag of subframes 3, 4 and 5 is left from before, its transmission time
does not wrap around to 0, and the messages in between are processed. -/
theorem d1_completes_iff :
    D1Completes handler st prn f1 f2 f3 between12 between23 ↔
      (∃ flags, st.flags (satNo sysBds prn) = .ok flags ∧ flags < 4) ∧
        604800 * sentField f1 60 13 + sentSow f1 ≠ 3158893682 ∧
        ∀ msg ∈ between12 ++ between23, ¬ Breaks msg := by
  obtain ⟨row, flags, holds⟩ :=
    st.holds_exists (validSat_satNo (bdsSat_ne_zero scenario.igso))
  have returns : (∃ st', feed handler st (f1 :: between12 ++ f2 :: between23) = .ok st') ↔
      ∀ msg ∈ between12 ++ between23, ¬ Breaks msg := scenario.fed_iff
  rw [← returns]
  by_cases low : flags < 4
  · constructor
    · rintro ⟨st', e, ionoParams, next, fed, ran, sent, _⟩
      obtain ⟨_, _, _, set, ran', found, assigned, _⟩ := scenario.decoded fed low holds
      rw [ran] at ran'
      cases ran'
      have ttr : e.ttr = (d1SetTimes set).ttr := congrArg SetTimes.ttr assigned
      rw [ttr, found.ttr_iff] at sent
      exact ⟨⟨flags, holds.flags, low⟩, sent, st', fed⟩
    · rintro ⟨_, sent, st', fed⟩
      obtain ⟨e, ionoParams, next, set, ran, found, assigned, decoded, eight⟩ :=
        scenario.decoded fed low holds
      have ttr : e.ttr = (d1SetTimes set).ttr := congrArg SetTimes.ttr assigned
      refine ⟨st', e, ionoParams, next, fed, ran, ?_, decoded, eight⟩
      rw [ttr, found.ttr_iff]
      exact sent
  · constructor
    · rintro ⟨st', e, ionoParams, next, fed, ran, sent, _⟩
      obtain ⟨_, ran'⟩ := scenario.undecoded fed low holds
      rw [ran] at ran'
      cases ran'
      exact absurd rfl sent
    · rintro ⟨⟨flags', same, low'⟩, _⟩
      rw [holds.flags] at same
      cases same
      exact absurd low' low

end

/-! ## A set after subframe 4 -/

/-! Subframes 1 to 4 of PRN 6, all zero but for their ids and seconds of the week. -/

def d1Msg1 : List UInt8 :=
  [0xB5, 0x62, 0x02, 0x13, 0x30, 0x00, 0x03, 0x06, 0x00, 0x00, 0x0A, 0x00, 0x02, 0x00, 0x00, 0x10,
    0x00, 0x00, 0x00, 0x00, 0x00, 0x00, 0x00, 0x00, 0x00, 0x00, 0x00, 0x00, 0x00, 0x00, 0x00, 0x00,
    0x00, 0x00, 0x00, 0x00, 0x00, 0x00, 0x00, 0x00, 0x00, 0x00, 0x00, 0x00, 0x00, 0x00, 0x00, 0x00,
    0x00, 0x00, 0x00, 0x00, 0x00, 0x00, 0x6A, 0xB7]

def d1Msg2 : List UInt8 :=
  [0xB5, 0x62, 0x02, 0x13, 0x30, 0x00, 0x03, 0x06, 0x00, 0x00, 0x0A, 0x00, 0x02, 0x00, 0x00, 0x20,
    0x00, 0x00, 0x00, 0x00, 0x18, 0x00, 0x00, 0x00, 0x00, 0x00, 0x00, 0x00, 0x00, 0x00, 0x00, 0x00,
    0x00, 0x00, 0x00, 0x00, 0x00, 0x00, 0x00, 0x00, 0x00, 0x00, 0x00, 0x00, 0x00, 0x00, 0x00, 0x00,
    0x00, 0x00, 0x00, 0x00, 0x00, 0x00, 0x92, 0x57]

def d1Msg3 : List UInt8 :=
  [0xB5, 0x62, 0x02, 0x13, 0x30, 0x00, 0x03, 0x06, 0x00, 0x00, 0x0A, 0x00, 0x02, 0x00, 0x00, 0x30,
    0x00, 0x00, 0x00, 0x00, 0x30, 0x00, 0x00, 0x00, 0x00, 0x00, 0x00, 0x00, 0x00, 0x00, 0x00, 0x00,
    0x00, 0x00, 0x00, 0x00, 0x00, 0x00, 0x00, 0x00, 0x00, 0x00, 0x00, 0x00, 0x00, 0x00, 0x00, 0x00,
    0x00, 0x00, 0x00, 0x00, 0x00, 0x00, 0xBA, 0xF7]

def d1Msg4 : List UInt8 :=
  [0xB5, 0x62, 0x02, 0x13, 0x30, 0x00, 0x03, 0x06, 0x00, 0x00, 0x0A, 0x00, 0x02, 0x00, 0x00, 0x40,
    0x00, 0x00, 0x00, 0x00, 0x48, 0x00, 0x00, 0x00, 0x00, 0x00, 0x00, 0x00, 0x00, 0x00, 0x00, 0x00,
    0x00, 0x00, 0x00, 0x00, 0x00, 0x00, 0x00, 0x00, 0x00, 0x00, 0x00, 0x00, 0x00, 0x00, 0x00, 0x00,
    0x00, 0x00, 0x00, 0x00, 0x00, 0x00, 0xE2, 0x97]

instance (prn id : Nat) (msg : List UInt8) : Decidable (D1Frame prn id msg) :=
  decidable_of_iff (SfrbxFrame msg ∧ 56 ≤ msg.length ∧ msg.getD 6 0 = 3 ∧
      (msg.getD 7 0).toNat = prn ∧ sentField msg 15 3 = id)
    ⟨fun ⟨frame, long, gnssId, svid, id⟩ => ⟨frame, long, gnssId, svid, id⟩,
      fun h => ⟨h.frame, h.long, h.gnssId, h.svid, h.id⟩⟩

theorem d1Scenario_msgs {st : Processor} {between12 : List (List UInt8)} (reachable : Reachable st)
    (others : ∀ msg ∈ between12, msg.getD 6 0 ≠ 3) :
    D1Scenario st 6 d1Msg1 d1Msg2 d1Msg3 between12 [] where
  reachable := reachable
  igso := by omega
  first := by decide +kernel
  second := by decide +kernel
  third := by decide +kernel
  sow2 := by decide +kernel
  sow3 := by decide +kernel
  toc := by decide +kernel
  quiet := by
    rw [List.append_nil]
    rintro msg mem ⟨id, _, _, carried⟩
    exact others msg mem carried.gnssId

theorem d1_completes_iff_among :
    D1Scenario Processor.init 6 d1Msg1 d1Msg2 d1Msg3 [gpsSetMsg1] [] ∧
      (D1Completes none Processor.init 6 d1Msg1 d1Msg2 d1Msg3 [gpsSetMsg1] [] ↔
        (∃ flags, Processor.init.flags (satNo sysBds 6) = .ok flags ∧ flags < 4) ∧
          604800 * sentField d1Msg1 60 13 + sentSow d1Msg1 ≠ 3158893682 ∧
          ∀ msg ∈ [gpsSetMsg1] ++ [], ¬ Breaks msg) := by
  have scenario : D1Scenario Processor.init 6 d1Msg1 d1Msg2 d1Msg3 [gpsSetMsg1] [] :=
    d1Scenario_msgs ⟨none, [], rfl⟩ (by decide)
  exact ⟨scenario, d1_completes_iff scenario⟩

theorem d1Msgs_undecoded :
    (do
      let st ← feed none Processor.init [d1Msg4]
      let st' ← feed none st [d1Msg1, d1Msg2]
      let (obj, _, _) ← parseSubframe st' d1Msg3 []
      pure (obj.map fun obj : EphemObject => obj.base.ttr.time)) = .ok (some 0) := by
  decide +kernel

/-- After subframe 4 the flags of the next set are never those of subframes 1, 2 and 3 alone. -/
theorem d1_stale_flag :
    ¬ ∀ handler st prn f1 f2 f3 between12 between23,
      D1Scenario st prn f1 f2 f3 between12 between23 →
        D1Completes handler st prn f1 f2 f3 between12 between23 := by
  intro complete
  obtain ⟨st, history, rest⟩ := bind_eq_ok.mp d1Msgs_undecoded
  obtain ⟨st', fed, rest⟩ := bind_eq_ok.mp rest
  obtain ⟨⟨obj, next, iono⟩, ran, rest⟩ := bind_eq_ok.mp rest
  obtain ⟨mid, e, ionoParams, next', fed', decoded, sent, _⟩ :=
    complete none st 6 _ _ _ [] _ (d1Scenario_msgs ⟨none, _, history⟩ (by simp))
  rw [show d1Msg1 :: [] ++ d1Msg2 :: [] = [d1Msg1, d1Msg2] from rfl, fed] at fed'
  cases fed'
  rw [ran] at decoded
  cases decoded
  exact sent (Option.some.inj (Except.ok.inj rest))

end GnssParser
