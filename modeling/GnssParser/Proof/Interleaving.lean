import GnssParser.Proof.Satellites

/-!
# Interleaved messages

What the messages between the frames of a satellite leave of its row and flags.
-/

namespace GnssParser
open Checked

def IsFrameOf (sat : Nat) (msg : List UInt8) : Prop := SfrbxFrame msg ∧ frameSat msg = sat

def Processor.Sees (st : Processor) (sat : Nat) (inv : Row → UInt8 → Prop) : Prop :=
  ∃ row flags, st.Holds sat row flags ∧ inv row flags

section
variable {handler : Option UbloxRosHandler} {st st' : Processor} {msg : List UInt8}
  {msgs : List (List UInt8)} {published : List Publication} {sat : Nat} {row : Row} {flags : UInt8}
  {inv : Row → UInt8 → Prop}

/-! ## Other messages -/

/-- What a block does if it is not skipped. -/
theorem measBlock_ran {time : GTime} {b : MeasBlock} {s s' : MeasState}
    (ran : measBlock time b s = .ok s') :
    s' = s ∨ ∃ sat obsMeas idx obs freq lli code psr cp,
      (obsMeas = s.obsMeas ∨ obsMeas = s.obsMeas ++ [{ time := time, sat := sat }]) ∧
      loadAt obsMeas idx = .ok obs ∧
      s'.obsMeas = obsMeas.set idx (obs.push b freq lli code psr cp) ∧
      ∃ satKey sidKey lockTime state, s'.st = s.st.setTrack satKey sidKey lockTime state := by
  rw [measBlock] at ran
  dsimp only at ran
  by_cases unknown : ubxSys b.gnssId.toNat = 0
  · rw [if_pos unknown] at ran
    cases ran
    exact .inl rfl
  rw [if_neg unknown] at ran
  by_cases none : satNo (ubxSys b.gnssId.toNat) b.svid.toNat = 0
  · rw [if_pos none] at ran
    cases ran
    exact .inl rfl
  rw [if_neg none] at ran
  split at ran
  · cases ran
    exact .inl rfl
  · obtain ⟨obs, loaded, ran⟩ := bind_eq_ok.mp ran
    obtain ⟨freq, _, ran⟩ := bind_eq_ok.mp ran
    cases ran
    refine .inr ⟨satNo (ubxSys b.gnssId.toNat) b.svid.toNat, _, _, obs, freq, _, _, _, _, ?_, loaded,
      rfl, _, _, _, _, rfl⟩
    split
    · exact .inl rfl
    · exact .inr rfl

/-- An invariant of the blocks holds of the state a measurement message leaves. -/
theorem parseMeasMsg_keeps (inv : MeasState → Prop)
    (step : ∀ time b s s', inv s → measBlock time b s = .ok s' → inv s')
    (start : inv { st, obsMeas := [], sat2idx := fun _ => none }) {meas : List Obs}
    (ran : parseMeasMsg st msg = .ok (meas, st')) :
    ∃ s, inv s ∧ meas = s.obsMeas ∧ (st' = s.st ∨ ∃ time, st' = { s.st with currTime := time }) := by
  rw [parseMeasMsg] at ran
  dsimp only at ran
  by_cases short : msg.length ≤ 24
  · rw [if_pos short] at ran
    cases ran
    exact ⟨_, start, rfl, .inl rfl⟩
  rw [if_neg short] at ran
  obtain ⟨tow, _, ran⟩ := bind_eq_ok.mp ran
  obtain ⟨week, _, ran⟩ := bind_eq_ok.mp ran
  obtain ⟨numMeas, _, ran⟩ := bind_eq_ok.mp ran
  split_ifs at ran
  · cases ran; exact ⟨_, start, rfl, .inl rfl⟩
  · cases ran; exact ⟨_, start, rfl, .inl rfl⟩
  · obtain ⟨time, _, ran⟩ := bind_eq_ok.mp ran
    obtain ⟨s, looped, ran⟩ := bind_eq_ok.mp ran
    have kept : inv s := by
      refine forRange_keeps inv ?_ start looped
      intro i s s' before ran
      obtain ⟨b, _, ran⟩ := bind_eq_ok.mp ran
      exact step time b s s' before ran
    split_ifs at ran
    · cases ran; exact ⟨s, kept, rfl, .inl rfl⟩
    · cases ran; exact ⟨s, kept, rfl, .inr ⟨time, rfl⟩⟩

theorem parseMeasMsg_buffers {meas : List Obs} (ran : parseMeasMsg st msg = .ok (meas, st')) :
    st'.subfrm = st.subfrm ∧ st'.bdsD1SubfrmFlags = st.bdsD1SubfrmFlags := by
  obtain ⟨s, kept, -, same⟩ := parseMeasMsg_keeps
    (fun s => s.st.subfrm = st.subfrm ∧ s.st.bdsD1SubfrmFlags = st.bdsD1SubfrmFlags)
    (fun time b s s' before ran => by
      rcases measBlock_ran ran with rfl | ⟨_, _, _, _, _, _, _, _, _, _, _, _, _, _, _, _, tracks⟩
      · exact before
      · rw [tracks]
        exact before)
    ⟨rfl, rfl⟩ ran
  rcases same with rfl | ⟨time, rfl⟩
  · exact kept
  · exact kept

theorem Processor.Holds.of_buffers (holds : st.Holds sat row flags)
    (same : st'.subfrm = st.subfrm ∧ st'.bdsD1SubfrmFlags = st.bdsD1SubfrmFlags) :
    st'.Holds sat row flags := by
  refine ⟨?_, ?_⟩
  · rw [Processor.row, same.1]; exact holds.row
  · rw [Processor.flags, same.2]; exact holds.flags

theorem parseSubframe_other (valid : ValidSat sat) (long : 8 ≤ msg.length)
    (other : frameSat msg ≠ sat) {ephem : Option EphemObject} {ionoParams ionoParams' : List ℚ}
    (ran : parseSubframe st msg ionoParams = .ok (ephem, st', ionoParams'))
    (holds : st.Holds sat row flags) : st'.Holds sat row flags := by
  by_cases none : frameSat msg = 0
  · rw [parseSubframe_none long none] at ran
    cases ran
    exact holds
  by_cases glo : frameSys msg = sysGlo
  · rw [parseSubframe_glonass long none glo] at ran
    split at ran
    case isTrue short =>
      cases ran
      exact holds
    case isFalse enough => cases ran
  · have number := frameSat_valid none
    obtain ⟨row₀, flags₀, holds₀⟩ := st.holds_exists number
    obtain ⟨e, iono, row', flags', time, set, _, _, _, parsed⟩ :=
      parseSubframe_ok long none glo ionoParams row₀ flags₀
    rw [parsed st holds₀] at ran
    cases ran
    exact ⟨(Processor.row_update_other number valid other).trans holds.row,
      (Processor.flags_update_other number valid other).trans holds.flags⟩

theorem processData_frame (frame : SfrbxFrame msg)
    (ran : processData handler st msg = .ok (published, st')) :
    ∃ ephem ionoParams, parseSubframe st msg [] = .ok (ephem, st', ionoParams) := by
  rw [processData, frame.verified, ok_bind, if_neg (by decide), frame.type, ok_bind,
    if_neg (by decide), if_pos rfl] at ran
  obtain ⟨⟨ephem, next, ionoParams⟩, parsed, ran⟩ := bind_eq_ok.mp ran
  cases handler with
  | none =>
      cases ran
      exact ⟨_, _, parsed⟩
  | some h =>
      obtain ⟨list, _, ran⟩ := bind_eq_ok.mp ran
      cases ephem <;> (cases ran; exact ⟨_, _, parsed⟩)

theorem processData_other (valid : ValidSat sat) (other : ¬ IsFrameOf sat msg)
    (ran : processData handler st msg = .ok (published, st')) (holds : st.Holds sat row flags) :
    st'.Holds sat row flags := by
  by_cases frame : SfrbxFrame msg
  · obtain ⟨ephem, ionoParams, parsed⟩ := processData_frame frame ran
    exact parseSubframe_other valid frame.long (fun same => other ⟨frame, same⟩) parsed holds
  rw [processData] at ran
  obtain ⟨verified, checked, ran⟩ := bind_eq_ok.mp ran
  cases verified with
  | false =>
      cases ran
      exact holds
  | true =>
      rw [if_neg (by decide)] at ran
      obtain ⟨type, typed, ran⟩ := bind_eq_ok.mp ran
      have sfrbx : type ≠ ubxRxmsfrbxId := by
        rintro rfl
        exact frame ⟨checked, typed⟩
      by_cases rawx : type = ubxRxmrawxId
      · rw [if_pos rawx] at ran
        obtain ⟨⟨meas, next⟩, parsed, ran⟩ := bind_eq_ok.mp ran
        have kept := holds.of_buffers (parseMeasMsg_buffers parsed)
        cases handler <;> (cases ran; exact kept)
      rw [if_neg rawx, if_neg sfrbx] at ran
      by_cases pulse : type = ubxTimTpId
      · rw [if_pos pulse] at ran
        obtain ⟨tp, _, ran⟩ := bind_eq_ok.mp ran
        cases ran
        exact holds
      rw [if_neg pulse] at ran
      by_cases navpos : type = ubxNavposId
      · rw [if_pos navpos] at ran
        obtain ⟨pvt, _, ran⟩ := bind_eq_ok.mp ran
        cases ran
        exact holds
      · rw [if_neg navpos] at ran
        cases ran
        exact holds

/-! ## Runs -/

theorem processData_sees (valid : ValidSat sat) (other : ¬ IsFrameOf sat msg)
    (ran : processData handler st msg = .ok (published, st')) (sees : st.Sees sat inv) :
    st'.Sees sat inv := by
  obtain ⟨row, flags, holds, kept⟩ := sees
  exact ⟨row, flags, processData_other valid other ran holds, kept⟩

theorem feed_sees (valid : ValidSat sat)
    (own : ∀ msg ∈ msgs, IsFrameOf sat msg → ∀ st st' ephem ionoParams, st.Sees sat inv →
      parseSubframe st msg [] = .ok (ephem, st', ionoParams) → st'.Sees sat inv)
    (sees : st.Sees sat inv) (fed : feed handler st msgs = .ok st') : st'.Sees sat inv := by
  induction msgs generalizing st with
  | nil =>
      cases fed
      exact sees
  | cons msg rest ih =>
      rw [feed] at fed
      obtain ⟨⟨published, next⟩, ran, fed⟩ := bind_eq_ok.mp fed
      refine ih (fun m mem => own m (.tail _ mem)) ?_ fed
      by_cases frame : IsFrameOf sat msg
      · obtain ⟨ephem, ionoParams, parsed⟩ := processData_frame frame.1 ran
        exact own msg (.head _) frame _ _ _ _ sees parsed
      · exact processData_sees valid frame ran sees

theorem feed_append {more : List (List UInt8)} (fed : feed handler st (msgs ++ more) = .ok st') :
    ∃ mid, feed handler st msgs = .ok mid ∧ feed handler mid more = .ok st' := by
  induction msgs generalizing st with
  | nil => exact ⟨st, rfl, fed⟩
  | cons msg rest ih =>
      rw [List.cons_append, feed] at fed
      obtain ⟨⟨published, next⟩, ran, fed⟩ := bind_eq_ok.mp fed
      obtain ⟨mid, first, second⟩ := ih fed
      refine ⟨mid, ?_, second⟩
      rw [feed, ran]
      exact first

theorem feed_frame (frame : SfrbxFrame msg) (fed : feed handler st (msg :: msgs) = .ok st') :
    ∃ ephem ionoParams mid, parseSubframe st msg [] = .ok (ephem, mid, ionoParams) ∧
      feed handler mid msgs = .ok st' := by
  rw [feed] at fed
  obtain ⟨⟨published, mid⟩, ran, fed⟩ := bind_eq_ok.mp fed
  obtain ⟨ephem, ionoParams, parsed⟩ := processData_frame frame ran
  exact ⟨ephem, ionoParams, mid, parsed, fed⟩

end

/-! ## Calls -/

/-- A frame on which `parse_subframe` dereferences a null pointer. -/
structure NullGlonass (msg : List UInt8) : Prop where
  sys : frameSys msg = sysGlo
  sat : frameSat msg ≠ 0
  long : 32 ≤ msg.length

theorem parseSubframe_null {msg : List UInt8} (null : NullGlonass msg) (st : Processor)
    (ionoParams : List ℚ) : parseSubframe st msg ionoParams = .error .nullPointer := by
  have long := null.long
  rw [parseSubframe_glonass (by omega) null.sat null.sys, if_neg (by omega)]

theorem parseSubframe_defined {msg : List UInt8} (long : 8 ≤ msg.length) (safe : ¬ NullGlonass msg)
    (st : Processor) : ∃ ephem st' ionoParams,
      parseSubframe st msg [] = .ok (ephem, st', ionoParams) := by
  by_cases none : frameSat msg = 0
  · exact ⟨_, _, _, parseSubframe_none long none st []⟩
  by_cases glo : frameSys msg = sysGlo
  · have short : msg.length < 32 := by
      by_contra enough
      exact safe ⟨glo, none, by omega⟩
    exact ⟨_, _, _, (parseSubframe_glonass long none glo st []).trans (if_pos short)⟩
  · obtain ⟨row, flags, holds⟩ := st.holds_exists (frameSat_valid none)
    obtain ⟨e, iono, row', flags', time, set, _, _, _, parsed⟩ :=
      parseSubframe_ok long none glo [] row flags
    exact ⟨_, _, _, parsed st holds⟩

/-- The results of `parse_subframe` for some frames, with calls for other frames before each. -/
def parseAmong (st : Processor) : List (List (List UInt8) × List UInt8) →
    Checked (List (Option EphemObject) × Processor)
  | [] => pure ([], st)
  | (others, msg) :: rest => do
      let (_, st) ← parseSubframes st others
      let (ephem, st, _) ← parseSubframe st msg []
      let (results, st) ← parseAmong st rest
      pure (ephem :: results, st)

section
variable {st : Processor} {sat : Nat} {inv : Row → UInt8 → Prop}

/-- The frame of the satellite keeps what the satellite's row and flags satisfy. -/
def FrameKeeps (sat : Nat) (inv : Row → UInt8 → Prop) (msg : List UInt8) : Prop :=
  ∀ st st' ephem ionoParams, st.Sees sat inv →
    parseSubframe st msg [] = .ok (ephem, st', ionoParams) → st'.Sees sat inv

theorem parseSubframes_sees (valid : ValidSat sat) {msgs : List (List UInt8)}
    (frames : ∀ msg ∈ msgs, SfrbxFrame msg) (safe : ∀ msg ∈ msgs, ¬ NullGlonass msg)
    (own : ∀ msg ∈ msgs, frameSat msg = sat → FrameKeeps sat inv msg) (sees : st.Sees sat inv) :
    ∃ results st', parseSubframes st msgs = .ok (results, st') ∧ st'.Sees sat inv := by
  induction msgs generalizing st with
  | nil => exact ⟨_, _, rfl, sees⟩
  | cons msg rest ih =>
      have long := (frames msg (.head _)).long
      obtain ⟨ephem, next, ionoParams, parsed⟩ :=
        parseSubframe_defined long (safe msg (.head _)) st
      have kept : next.Sees sat inv := by
        by_cases same : frameSat msg = sat
        · exact own msg (.head _) same _ _ _ _ sees parsed
        · obtain ⟨row, flags, holds, kept⟩ := sees
          exact ⟨row, flags, parseSubframe_other valid long same parsed holds, kept⟩
      obtain ⟨results, st', ran, sees'⟩ := ih (fun m mem => frames m (.tail _ mem))
        (fun m mem => safe m (.tail _ mem)) (fun m mem => own m (.tail _ mem)) kept
      refine ⟨(ephem, ionoParams) :: results, st', ?_, sees'⟩
      rw [parseSubframes, parsed, ok_bind]
      dsimp only
      rw [ran]
      rfl

theorem parseSubframes_null {msgs : List (List UInt8)} {msg : List UInt8} (mem : msg ∈ msgs)
    (null : NullGlonass msg) (st : Processor) {r : List (Option EphemObject × List ℚ) × Processor} :
    parseSubframes st msgs ≠ .ok r := by
  induction msgs generalizing st r with
  | nil => cases mem
  | cons first rest ih =>
      intro ran
      rw [parseSubframes] at ran
      obtain ⟨⟨ephem, next, ionoParams⟩, parsed, ran⟩ := bind_eq_ok.mp ran
      cases mem with
      | head =>
          rw [parseSubframe_null null] at parsed
          cases parsed
      | tail _ mem =>
          obtain ⟨after, ran, _⟩ := bind_eq_ok.mp ran
          exact ih mem next ran

variable {i n : Nat} {between : Nat → List (List UInt8)} {frame : Nat → List UInt8}

theorem parseSubframes_append (st : Processor) (msgs more : List (List UInt8)) :
    parseSubframes st (msgs ++ more) = (do
      let (first, st) ← parseSubframes st msgs
      let (second, st) ← parseSubframes st more
      pure (first ++ second, st)) := by
  induction msgs generalizing st with
  | nil =>
      rw [List.nil_append, parseSubframes, pure_eq, ok_bind]
      dsimp only
      cases parseSubframes st more <;> rfl
  | cons msg rest ih => simp [parseSubframes, ih]

theorem parseSubframes_steps (inv : Nat → Row → UInt8 → Prop)
    (result : Nat → Option EphemObject × List ℚ)
    (step : ∀ k, i ≤ k → k < i + n → ∀ st : Processor, st.Sees sat (inv k) → ∃ st',
      parseSubframe st (frame k) [] = .ok ((result k).1, st', (result k).2) ∧
        st'.Sees sat (inv (k + 1)))
    (sees : st.Sees sat (inv i)) :
    ∃ st', parseSubframes st ((List.range' i n).map frame) =
      .ok ((List.range' i n).map result, st') ∧ st'.Sees sat (inv (i + n)) := by
  induction n generalizing i st with
  | zero => exact ⟨st, rfl, sees⟩
  | succ n ih =>
      obtain ⟨next, parsed, sees'⟩ := step i (by omega) (by omega) st sees
      obtain ⟨st', rest, last⟩ := ih (fun k lower upper => step k (by omega) (by omega)) sees'
      refine ⟨st', ?_, by rw [show i + (n + 1) = i + 1 + n by omega]; exact last⟩
      rw [List.range'_succ, List.map_cons, List.map_cons, parseSubframes, parsed, ok_bind]
      dsimp only
      rw [rest]
      rfl

theorem parseAmong_steps (inv : Nat → Row → UInt8 → Prop) (result : Nat → Option EphemObject)
    (valid : ValidSat sat)
    (frames : ∀ k, i ≤ k → k < i + n → ∀ msg ∈ between k, SfrbxFrame msg)
    (safe : ∀ k, i ≤ k → k < i + n → ∀ msg ∈ between k, ¬ NullGlonass msg)
    (own : ∀ k, i ≤ k → k < i + n → ∀ msg ∈ between k, frameSat msg = sat → FrameKeeps sat (inv k) msg)
    (step : ∀ k, i ≤ k → k < i + n → ∀ st : Processor, st.Sees sat (inv k) → ∃ st' ionoParams,
      parseSubframe st (frame k) [] = .ok (result k, st', ionoParams) ∧
        st'.Sees sat (inv (k + 1)))
    (sees : st.Sees sat (inv i)) :
    ∃ st', parseAmong st ((List.range' i n).map fun k => (between k, frame k)) =
      .ok ((List.range' i n).map result, st') ∧ st'.Sees sat (inv (i + n)) := by
  induction n generalizing i st with
  | zero => exact ⟨st, rfl, sees⟩
  | succ n ih =>
      obtain ⟨results, mid, ran, seen⟩ := parseSubframes_sees valid
        (frames i (by omega) (by omega)) (safe i (by omega) (by omega))
        (own i (by omega) (by omega)) sees
      obtain ⟨next, ionoParams, parsed, sees'⟩ := step i (by omega) (by omega) mid seen
      obtain ⟨st', rest, last⟩ := ih (fun k lower upper => frames k (by omega) (by omega))
        (fun k lower upper => safe k (by omega) (by omega))
        (fun k lower upper => own k (by omega) (by omega))
        (fun k lower upper => step k (by omega) (by omega)) sees'
      refine ⟨st', ?_, by rw [show i + (n + 1) = i + 1 + n by omega]; exact last⟩
      rw [List.range'_succ, List.map_cons, List.map_cons, parseAmong, ran, ok_bind]
      dsimp only
      rw [parsed, ok_bind]
      dsimp only
      rw [rest]
      rfl

theorem parseAmong_null {k : Nat} {msg : List UInt8} (lower : i ≤ k) (upper : k < i + n)
    (mem : msg ∈ between k) (null : NullGlonass msg) (st : Processor)
    {r : List (Option EphemObject) × Processor} :
    parseAmong st ((List.range' i n).map fun k => (between k, frame k)) ≠ .ok r := by
  induction n generalizing i st r with
  | zero => omega
  | succ n ih =>
      intro ran
      rw [List.range'_succ, List.map_cons, parseAmong] at ran
      obtain ⟨before, others, ran⟩ := bind_eq_ok.mp ran
      obtain ⟨after, _, ran⟩ := bind_eq_ok.mp ran
      obtain ⟨last, ran, _⟩ := bind_eq_ok.mp ran
      by_cases first : k = i
      · subst first
        exact parseSubframes_null mem null st others
      · exact ih (by omega) (by omega) _ ran

end

end GnssParser
