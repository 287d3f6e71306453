import GnssParser.Lib.Separation
import GnssParser.Proof.Published

/-!
# Satellites do not interfere

A satellite owns its frames and sees its row and its flags.
-/

namespace GnssParser
open Checked Separation

/-- An SFRBX frame of a constellation that the decoders can decode. -/
structure DecodableFrame (msg : List UInt8) : Prop where
  frame : SfrbxFrame msg
  sys : frameSys msg = sysGps ∨ frameSys msg = sysBds ∨ frameSys msg = sysGal

theorem DecodableFrame.ne_glo {msg : List UInt8} (frame : DecodableFrame msg) :
    frameSys msg ≠ sysGlo := by
  rcases frame.sys with h | h | h <;> rw [h] <;> decide

def parseStep (st : Processor) (msg : List UInt8) :
    Checked ((Option EphemObject × List ℚ) × Processor) := do
  let (ephem, st, ionoParams) ← parseSubframe st msg []
  pure ((ephem, ionoParams), st)

theorem parseSubframes_eq (st : Processor) (msgs : List (List UInt8)) :
    parseSubframes st msgs = trace parseStep st msgs := by
  induction msgs generalizing st with
  | nil => rw [parseSubframes, trace, pure_eq]
  | cons msg rest ih =>
      rw [parseSubframes, trace, parseStep]
      cases parseSubframe st msg [] with
      | error e => rfl
      | ok parsed =>
          obtain ⟨ephem, next, ionoParams⟩ := parsed
          simp only [ok_bind, pure_eq, ih next]

def seeSatellite (sat : Nat) (st : Processor) : Checked Row × Checked UInt8 :=
  (st.row sat, st.flags sat)

theorem Processor.Holds.of_same {st st' : Processor} {sat : Nat} {row : Row} {flags : UInt8}
    (holds : st.Holds sat row flags) (same : seeSatellite sat st = seeSatellite sat st') :
    st'.Holds sat row flags := by
  obtain ⟨sameRow, sameFlags⟩ := Prod.mk.inj same
  exact ⟨sameRow ▸ holds.row, sameFlags ▸ holds.flags⟩

theorem seeSatellite_holds {st : Processor} {sat : Nat} {row : Row} {flags : UInt8}
    (holds : st.Holds sat row flags) : seeSatellite sat st = (.ok row, .ok flags) := by
  rw [seeSatellite, holds.row, holds.flags]

theorem satellites_separated {sat : Nat} (valid : ValidSat sat) :
    Separated parseStep frameSat DecodableFrame sat (seeSatellite sat) where
  reads msg st st' frame owned same := by
    subst owned
    have known : frameSat msg ≠ 0 := valid.pos.ne'
    obtain ⟨row, flags, holds⟩ := st.holds_exists valid
    obtain ⟨e, ionoParams, row', flags', time, _, _, _, _, ran⟩ :=
      parseSubframe_ok frame.frame.long known frame.ne_glo [] row flags
    refine ⟨(some (.ephem e), ionoParams), _, _, by rw [parseStep, ran st holds]; rfl,
      by rw [parseStep, ran st' (holds.of_same same)]; rfl, ?_⟩
    rw [seeSatellite_holds (st.holds_update valid row' flags' time),
      seeSatellite_holds (st'.holds_update valid row' flags' time)]
  keeps msg st frame other := by
    by_cases known : frameSat msg = 0
    · exact ⟨(none, []), st, by
        rw [parseStep, parseSubframe_none frame.frame.long known]; rfl, rfl⟩
    · have number := frameSat_valid known
      obtain ⟨row, flags, holds⟩ := st.holds_exists number
      obtain ⟨e, ionoParams, row', flags', time, _, _, _, _, ran⟩ :=
        parseSubframe_ok frame.frame.long known frame.ne_glo [] row flags
      refine ⟨(some (.ephem e), ionoParams), _, by rw [parseStep, ran st holds]; rfl, ?_⟩
      rw [seeSatellite, seeSatellite, Processor.row_update_other number valid other,
        Processor.flags_update_other number valid other]

def framesOf (sat : Nat) (msgs : List (List UInt8)) : List (List UInt8) :=
  inputsOf frameSat sat msgs

def resultsOf (sat : Nat) (msgs : List (List UInt8)) (results : List (Option EphemObject × List ℚ)) :
    List (Option EphemObject × List ℚ) := outputsOf frameSat sat msgs results

/-- The results, the row and the flags of a satellite depend on its own frames only. -/
theorem satellites_do_not_interfere {sat : Nat} (valid : ValidSat sat)
    {msgs msgs' : List (List UInt8)} (frames : ∀ msg ∈ msgs, DecodableFrame msg)
    (frames' : ∀ msg ∈ msgs', DecodableFrame msg) (same : framesOf sat msgs = framesOf sat msgs') :
    ∃ results st results' st', parseSubframes Processor.init msgs = .ok (results, st) ∧
      parseSubframes Processor.init msgs' = .ok (results', st') ∧
      resultsOf sat msgs results = resultsOf sat msgs' results' ∧
      st.row sat = st'.row sat ∧ st.flags sat = st'.flags sat := by
  obtain ⟨results, st, results', st', ran, ran', outputs, seen⟩ :=
    (satellites_separated valid).trace_eq frames frames' same Processor.init
  obtain ⟨rows, flags⟩ := Prod.mk.inj seen
  rw [← parseSubframes_eq] at ran ran'
  exact ⟨results, st, results', st', ran, ran', outputs, rows, flags⟩

instance (msg : List UInt8) : Decidable (DecodableFrame msg) :=
  decidable_of_iff (SfrbxFrame msg ∧
      (frameSys msg = sysGps ∨ frameSys msg = sysBds ∨ frameSys msg = sysGal))
    ⟨fun h => ⟨h.1, h.2⟩, fun h => ⟨h.frame, h.sys⟩⟩

def otherMsg : List UInt8 :=
  [0xB5, 0x62, 0x02, 0x13, 0x30, 0x00, 0x00, 0x02, 0x00, 0x00, 0x0A, 0x00, 0x02, 0x00, 0x00, 0x00,
    0x00, 0x00, 0x00, 0x01, 0x00, 0x00, 0x00, 0x00, 0x00, 0x00, 0x00, 0x00, 0x00, 0x00, 0x00, 0x00,
    0x00, 0x00, 0x00, 0x00, 0x00, 0x00, 0x00, 0x00, 0x00, 0x00, 0x00, 0x00, 0x00, 0x00, 0x00, 0x00,
    0x00, 0x00, 0x00, 0x00, 0x00, 0x00, 0x54, 0x1E]

theorem satellites_do_not_interfere_insert :
    ∃ results st results' st',
      parseSubframes Processor.init [gpsMsg1, gpsMsg2, gpsMsg3] = .ok (results, st) ∧
      parseSubframes Processor.init [gpsMsg1, otherMsg, gpsMsg2, gpsMsg3] = .ok (results', st') ∧
      resultsOf 1 [gpsMsg1, gpsMsg2, gpsMsg3] results =
        resultsOf 1 [gpsMsg1, otherMsg, gpsMsg2, gpsMsg3] results' ∧
      st.row 1 = st'.row 1 ∧ st.flags 1 = st'.flags 1 :=
  satellites_do_not_interfere ⟨by decide, by decide⟩ (by decide +kernel) (by decide +kernel)
    (by decide +kernel)

end GnssParser
