import GnssParser.Proof.BeidouSets

/-!
# BeiDou frames

A D1 frame adds its flag to those of the satellite, and the set is decoded when the flags are those
of subframes 1, 2 and 3; a D2 set is decoded after page 10.
-/

namespace GnssParser
open Checked BitView

/-! ## Units of a frame -/

def bdsWords (msg : List UInt8) : Vector UInt32 10 :=
  Vector.ofFn fun i => navWord msg i &&& 0x3FFFFFFF

def bdsSubframeId (msg : List UInt8) : Option Nat :=
  if msg.length < 56 then none
  else
    let id := ((bdsWords msg)[0] >>> 12) &&& 0x07
    if id < 1 ∨ 5 < id then none else some id.toNat

theorem bdsSubframeId_range {msg : List UInt8} {id : Nat} (sent : bdsSubframeId msg = some id) :
    56 ≤ msg.length ∧ 1 ≤ id ∧ id ≤ 5 := by
  rw [bdsSubframeId] at sent
  dsimp only at sent
  split_ifs at sent with short unknown
  obtain ⟨lower, upper⟩ := not_or.mp unknown
  rw [UInt32.not_lt, UInt32.le_iff_toNat_le] at lower upper
  obtain rfl := Option.some.inj sent
  exact ⟨by omega, lower, upper⟩

def d1Flag (id : Nat) : UInt8 := ((1 : UInt32) <<< (UInt32.ofNat id - 1)).toUInt8

def d1Store (st : Processor) (ephem : Ephem) (id : Nat) (words : Vector UInt32 10)
    (ionoParams : List ℚ) : Checked (Int × Processor × Ephem × List ℚ) := do
  let row ← storeWords (← st.row ephem.sat) ((id - 1) * 38) 30 words
  let st ← st.setRow ephem.sat row
  let st ← st.setFlags ephem.sat ((← st.flags ephem.sat) ||| d1Flag id)
  if (← st.flags ephem.sat) ≠ 0x07 then pure (0, st, ephem, ionoParams)
  else do
    let (rc, st, ephem, ionoParams) ← decodeBdsD1Ephem st ephem ionoParams
    let st ← st.setFlags ephem.sat 0
    if rc ≠ 0 then do
      let row ← forRange (fun i (row : Row) => writeAt row i 0) 0 (38 * 3) (← st.row ephem.sat)
      let st ← st.setRow ephem.sat row
      pure (rc, st, ephem, ionoParams)
    else pure (rc, st, ephem, ionoParams)

def d2PageNumber (msg : List UInt8) : Option Nat :=
  if bdsSubframeId msg ≠ some 1 then none
  else
    let pgn := ((bdsWords msg)[1] >>> 14) &&& 0x0F
    if pgn < 1 ∨ 10 < pgn then none else some pgn.toNat

theorem d2PageNumber_le {msg : List UInt8} {page : Nat} (sent : d2PageNumber msg = some page) :
    page ≤ 10 := by
  rw [d2PageNumber] at sent
  dsimp only at sent
  split_ifs at sent with other unknown
  have upper := (not_or.mp unknown).2
  rw [UInt32.not_lt, UInt32.le_iff_toNat_le] at upper
  obtain rfl := Option.some.inj sent
  exact upper

def d2Store (st : Processor) (ephem : Ephem) (page : Nat) (words : Vector UInt32 10)
    (ionoParams : List ℚ) : Checked (Int × Processor × Ephem × List ℚ) := do
  let row ← storeWords (← st.row ephem.sat) ((page - 1) * 38) 30 words
  let st ← st.setRow ephem.sat row
  if page ≠ 10 then pure (-1, st, ephem, ionoParams)
  else do
    let (rc, st, ephem) ← decodeBdsD2Ephem st ephem
    pure (rc, st, ephem, ionoParams)

/-- An IGSO or MEO satellite, which sends D1 subframes. -/
def IsD1 (sat : Nat) : Prop := (satsys sat).2 > 5 ∧ (satsys sat).2 < 59

theorem bdsWords_ok {msg : List UInt8} (long : ¬ msg.length < 56) :
    navWords (· &&& 0x3FFFFFFF) msg = .ok (bdsWords msg) := navWords_ok _ (by omega)

theorem decodeBdsSubframe_d1 {ephem : Ephem} (igso : IsD1 ephem.sat) (st : Processor)
    (msg : List UInt8) (ionoParams : List ℚ) :
    decodeBdsSubframe st msg ephem ionoParams = match bdsSubframeId msg with
      | none => pure (-1, st, ephem, ionoParams)
      | some id => d1Store st ephem id (bdsWords msg) ionoParams := by
  by_cases short : msg.length < 56
  · rw [decodeBdsSubframe, bdsSubframeId, if_pos short, if_pos short]
  rw [decodeBdsSubframe, bdsSubframeId, if_neg short, if_neg short, bdsWords_ok short, ok_bind,
    readAt_ok (by omega)]
  rw [IsD1] at igso
  generalize satsys ephem.sat = numbered at igso
  obtain ⟨sys, prn⟩ := numbered
  dsimp only at igso ⊢
  rw [ok_bind]
  generalize ((bdsWords msg)[0] >>> 12) &&& 0x07 = id
  by_cases unknown : id < 1 ∨ 5 < id
  · rw [if_pos unknown, if_pos unknown]
  · rw [if_neg unknown, if_neg unknown, if_pos igso]
    simp only [d1Store, d1Flag, UInt32.ofNat_toNat]

theorem decodeBdsSubframe_d2 {ephem : Ephem} (geo : ¬ IsD1 ephem.sat) (st : Processor)
    (msg : List UInt8) (ionoParams : List ℚ) :
    decodeBdsSubframe st msg ephem ionoParams = match d2PageNumber msg with
      | none => pure (-1, st, ephem, ionoParams)
      | some page => d2Store st ephem page (bdsWords msg) ionoParams := by
  by_cases short : msg.length < 56
  · rw [decodeBdsSubframe, d2PageNumber, bdsSubframeId, if_pos short, if_pos short]
    rfl
  rw [decodeBdsSubframe, d2PageNumber, bdsSubframeId, if_neg short, if_neg short, bdsWords_ok short,
    ok_bind, readAt_ok (by omega), readAt_ok (by omega)]
  rw [IsD1] at geo
  generalize satsys ephem.sat = numbered at geo
  obtain ⟨sys, prn⟩ := numbered
  dsimp only at geo ⊢
  simp only [ok_bind]
  generalize ((bdsWords msg)[0] >>> 12) &&& 0x07 = id
  generalize ((bdsWords msg)[1] >>> 14) &&& 0x0F = pgn
  have first : some id.toNat = some 1 ↔ id = 1 := by
    rw [Option.some.injEq, ← UInt32.toNat_inj]
    rfl
  by_cases unknown : id < 1 ∨ 5 < id
  · rw [if_pos unknown, if_pos unknown, if_pos (by simp)]
  rw [if_neg unknown, if_neg unknown, if_neg geo]
  by_cases other : id = 1
  · rw [if_neg (not_not.mpr other), if_neg (not_not.mpr (first.mpr other))]
    by_cases none : pgn < 1 ∨ 10 < pgn
    · rw [if_pos none, if_pos none]
    · have last : pgn.toNat ≠ 10 ↔ pgn ≠ 10 := by
        rw [ne_eq, ne_eq, ← UInt32.toNat_inj]
        rfl
      rw [if_neg none, if_neg none]
      simp only [d2Store, last]
  · rw [if_pos other, if_pos (mt first.mp other)]

/-! ## What a frame changes -/

section
variable {ephem : Ephem} {row row' : Row} {flags : UInt8} {id : Nat} {words : Vector UInt32 10}

theorem storeBds_ok (row : Row) (words : Vector UInt32 10) (slot : id ≤ 10) :
    ∃ row', storeWords row ((id - 1) * 38) 30 words = .ok row' ∧
      ∀ j, bufferBit row' j = storedBit row ((id - 1) * 38) 30 words j :=
  storeWords_ok row words (by omega) (by omega) (by omega)

theorem d1Store_pending (valid : ValidSat ephem.sat)
    (wrote : storeWords row ((id - 1) * 38) 30 words = .ok row') (ionoParams : List ℚ)
    (pending : flags ||| d1Flag id ≠ 0x07) {st : Processor} (holds : st.Holds ephem.sat row flags) :
    d1Store st ephem id words ionoParams =
      .ok (0, st.update ephem.sat row' (flags ||| d1Flag id) none, ephem, ionoParams) := by
  have stored := st.holds_update valid row' flags none
  have flagged := st.holds_update valid row' (flags ||| d1Flag id) none
  rw [d1Store, holds.row, ok_bind, wrote, ok_bind, st.setRow_ok valid holds, ok_bind, stored.flags,
    ok_bind, Processor.setFlags_ok valid stored, ok_bind, st.update_update, Option.or_none,
    flagged.flags, ok_bind, if_pos pending]
  rfl

theorem d1Store_complete (valid : ValidSat ephem.sat)
    (wrote : storeWords row ((id - 1) * 38) 30 words = .ok row') (ionoParams : List ℚ)
    (complete : flags ||| d1Flag id = 0x07) {rc : Int} {e : Ephem} {ionoParams' : List ℚ}
    {time : Option GTime}
    (decoded : ∀ st flags, st.Holds ephem.sat row' flags →
      decodeBdsD1Ephem st ephem ionoParams =
        .ok (rc, st.update ephem.sat row' flags time, e, ionoParams'))
    (sat : e.sat = ephem.sat) :
    ∃ row'', (rc = 0 → row'' = row') ∧ ∀ st, st.Holds ephem.sat row flags →
      d1Store st ephem id words ionoParams =
        .ok (rc, st.update ephem.sat row'' 0 time, e, ionoParams') := by
  obtain ⟨cleared, wiped, _⟩ := clearRow_ok row' (show 38 * 3 ≤ 380 by omega)
  refine ⟨if rc = 0 then row' else cleared, fun ok => if_pos ok, fun st holds => ?_⟩
  have stored := st.holds_update valid row' flags none
  have flagged := st.holds_update valid row' (flags ||| d1Flag id) none
  have done := st.holds_update valid row' (flags ||| d1Flag id) time
  have reset := st.holds_update valid row' 0 time
  have entered : d1Store st ephem id words ionoParams =
      if rc ≠ 0 then do
        let row ← forRange (fun i (row : Row) => writeAt row i 0) 0 (38 * 3) row'
        let st ← (st.update ephem.sat row' 0 time).setRow ephem.sat row
        pure (rc, st, e, ionoParams')
      else .ok (rc, st.update ephem.sat row' 0 time, e, ionoParams') := by
    rw [d1Store, holds.row, ok_bind, wrote, ok_bind, st.setRow_ok valid holds, ok_bind,
      stored.flags, ok_bind, Processor.setFlags_ok valid stored, ok_bind, st.update_update,
      Option.or_none, flagged.flags, ok_bind, if_neg (not_not.mpr complete), decoded _ _ flagged,
      ok_bind, st.update_update, Option.or_none]
    dsimp only
    rw [sat, Processor.setFlags_ok valid done, ok_bind, st.update_update, Option.none_or,
      reset.row, ok_bind]
    rfl
  rw [entered]
  by_cases ok : rc = 0
  · rw [if_neg (not_not.mpr ok), if_pos ok]
  · rw [if_pos ok, if_neg ok, wiped, ok_bind, Processor.setRow_ok valid reset, ok_bind,
      st.update_update, Option.none_or]
    rfl

end

def d1Completes (row : Row) (flags : UInt8) (msg : List UInt8) : Checked (Option Row) :=
  match bdsSubframeId msg with
  | none => pure none
  | some id =>
      if flags ||| d1Flag id = 0x07 then do
        pure (some (← storeWords row ((id - 1) * 38) 30 (bdsWords msg)))
      else pure none

def d2Completes (row : Row) (msg : List UInt8) : Checked (Option Row) :=
  match d2PageNumber msg with
  | none => pure none
  | some page =>
      if page = 10 then do
        pure (some (← storeWords row ((page - 1) * 38) 30 (bdsWords msg)))
      else pure none

theorem decodeBdsSubframe_d1_ok (ephem : Ephem) (valid : ValidSat ephem.sat)
    (igso : IsD1 ephem.sat) (msg : List UInt8) (ionoParams : List ℚ) (row : Row) (flags : UInt8) :
    ∃ rc e ionoParams' row' flags' time set, e.sat = ephem.sat ∧
      d1Completes row flags msg = .ok set ∧
      SetOutcome d1Spec ephem set e ∧
      ∀ st : Processor, st.Holds ephem.sat row flags →
        decodeBdsSubframe st msg ephem ionoParams =
          .ok (rc, st.update ephem.sat row' flags' time, e, ionoParams') := by
  cases sent : bdsSubframeId msg with
  | none =>
      refine ⟨-1, ephem, ionoParams, row, flags, none, none, rfl, by rw [d1Completes, sent]; rfl,
        .stored, fun st holds => ?_⟩
      rw [decodeBdsSubframe_d1 igso, sent, st.update_self valid holds]
      rfl
  | some id =>
      obtain ⟨_, _, upper⟩ := bdsSubframeId_range sent
      obtain ⟨row', wrote, _⟩ := storeBds_ok row (bdsWords msg) (show id ≤ 10 by omega)
      by_cases complete : flags ||| d1Flag id = 0x07
      · obtain ⟨rc, e, ionoParams', time, sat, outcome, _, _, _, decoded⟩ :=
          decodeBdsD1Ephem_ok valid row' ionoParams
        obtain ⟨row'', _, ran⟩ := d1Store_complete valid wrote ionoParams complete
          (fun st flags => decoded st row' flags (.refl row')) sat
        refine ⟨rc, e, ionoParams', row'', 0, time, some row', sat, ?_, outcome, fun st holds => ?_⟩
        · rw [d1Completes, sent]
          dsimp only
          rw [if_pos complete, wrote]
          rfl
        · rw [decodeBdsSubframe_d1 igso, sent]
          exact ran st holds
      · refine ⟨0, ephem, ionoParams, row', flags ||| d1Flag id, none, none, rfl, ?_, .stored,
          fun st holds => ?_⟩
        · rw [d1Completes, sent]
          exact if_neg complete
        · rw [decodeBdsSubframe_d1 igso, sent]
          exact d1Store_pending valid wrote ionoParams complete holds

theorem decodeBdsSubframe_d2_ok (ephem : Ephem) (valid : ValidSat ephem.sat)
    (geo : ¬ IsD1 ephem.sat) (msg : List UInt8) (ionoParams : List ℚ) (row : Row) (flags : UInt8) :
    ∃ rc e row' time set, e.sat = ephem.sat ∧ d2Completes row msg = .ok set ∧
      SetOutcome d2Spec ephem set e ∧
      ∀ st : Processor, st.Holds ephem.sat row flags →
        decodeBdsSubframe st msg ephem ionoParams =
          .ok (rc, st.update ephem.sat row' flags time, e, ionoParams) := by
  cases sent : d2PageNumber msg with
  | none =>
      refine ⟨-1, ephem, row, none, none, rfl, by rw [d2Completes, sent]; rfl, .stored,
        fun st holds => ?_⟩
      rw [decodeBdsSubframe_d2 geo, sent, st.update_self valid holds]
      rfl
  | some page =>
      have upper := d2PageNumber_le sent
      obtain ⟨row', wrote, _⟩ := storeBds_ok row (bdsWords msg) upper
      by_cases last : page = 10
      · obtain ⟨rc, e, time, sat, outcome, _, _, _, ran⟩ := decodeBdsD2Ephem_ok valid row'
        refine ⟨rc, e, row', time, some row', sat, ?_, outcome, fun st holds => ?_⟩
        · rw [d2Completes, sent]
          dsimp only
          rw [if_pos last, wrote]
          rfl
        · have stored := st.holds_update valid row' flags none
          rw [decodeBdsSubframe_d2 geo, sent]
          dsimp only
          rw [d2Store, holds.row, ok_bind, wrote, ok_bind, st.setRow_ok valid holds, ok_bind,
            if_neg (not_not.mpr last), ran _ _ stored, ok_bind, st.update_update, Option.or_none]
          rfl
      · refine ⟨-1, ephem, row', none, none, rfl, ?_, .stored, fun st holds => ?_⟩
        · rw [d2Completes, sent]
          exact if_neg last
        · rw [decodeBdsSubframe_d2 geo, sent]
          dsimp only
          rw [d2Store, holds.row, ok_bind, wrote, ok_bind, st.setRow_ok valid holds, ok_bind,
            if_pos last]
          rfl

end GnssParser
