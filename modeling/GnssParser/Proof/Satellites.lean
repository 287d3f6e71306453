import GnssParser.Model.Processor
import GnssParser.Proof.BeidouFrames
import GnssParser.Proof.GalileoFrames
import GnssParser.Proof.GpsFrames

/-!
# SFRBX frames

What `parse_subframe` returns and changes for a frame of a GPS, BeiDou or Galileo satellite.
-/

namespace GnssParser
open Checked

structure SfrbxFrame (msg : List UInt8) : Prop where
  verified : verifyMsg msg = .ok true
  type : msgType msg = .ok ubxRxmsfrbxId

instance (msg : List UInt8) : Decidable (SfrbxFrame msg) :=
  decidable_of_iff (verifyMsg msg = .ok true ∧ msgType msg = .ok ubxRxmsfrbxId)
    ⟨fun h => ⟨h.1, h.2⟩, fun h => ⟨h.verified, h.type⟩⟩

theorem verifyMsg_length {msg : List UInt8} (verified : verifyMsg msg = .ok true) :
    8 ≤ msg.length := by
  by_contra short
  rw [verifyMsg, if_pos (by omega)] at verified
  cases verified

theorem SfrbxFrame.long {msg : List UInt8} (frame : SfrbxFrame msg) : 8 ≤ msg.length :=
  verifyMsg_length frame.verified

/-! ## The satellite of a frame -/

def frameSys (msg : List UInt8) : Nat := ubxSys (msg.getD 6 0).toNat

def frameSat (msg : List UInt8) : Nat := satNo (frameSys msg) (msg.getD 7 0).toNat

theorem frameSat_valid {msg : List UInt8} (valid : frameSat msg ≠ 0) : ValidSat (frameSat msg) :=
  validSat_satNo valid

instance (sat : Nat) : Decidable (IsD1 sat) := inferInstanceAs (Decidable (_ ∧ _))

/-! ## Sets by constellation -/

/-- The checks and times of the decoder of a satellite. -/
def setSpec (sat : Nat) : SetSpec :=
  if (satsys sat).1 = sysGps then gpsSpec
  else if (satsys sat).1 = sysGal then galSpec sat
  else if IsD1 sat then d1Spec
  else d2Spec

def completes (sat : Nat) (row : Row) (flags : UInt8) (msg : List UInt8) : Checked (Option Row) :=
  if (satsys sat).1 = sysGps then gpsCompletes row msg
  else if (satsys sat).1 = sysGal then galCompletes row msg
  else if (satsys sat).1 ≠ sysBds then pure none
  else if IsD1 sat then d1Completes row flags msg
  else d2Completes row msg

/-! ## Results -/

section
variable {msg : List UInt8}

theorem gnssId_ok (long : 8 ≤ msg.length) : (msgData msg).add 6 0 = .ok (msg.getD 6 0) :=
  msgData_ok (by omega)

theorem svid_ok (long : 8 ≤ msg.length) : (msgData msg).add 6 1 = .ok (msg.getD 7 0) :=
  msgData_ok (by omega)

theorem parseSubframe_none (long : 8 ≤ msg.length) (none : frameSat msg = 0) (st : Processor)
    (ionoParams : List ℚ) : parseSubframe st msg ionoParams = .ok (.none, st, ionoParams) := by
  rw [parseSubframe]
  dsimp only
  rw [gnssId_ok long, ok_bind]
  by_cases unknown : frameSys msg = 0
  · exact if_pos unknown
  · rw [show ubxSys (msg.getD 6 0).toNat = frameSys msg from rfl, if_neg unknown, svid_ok long,
      ok_bind]
    exact if_pos none

theorem parseSubframe_some (long : 8 ≤ msg.length) (valid : frameSat msg ≠ 0) (st : Processor)
    (ionoParams : List ℚ) : parseSubframe st msg ionoParams =
      if frameSys msg = sysGps then do
        let (_, st, e) ← decodeGpsSubframe st msg { sat := frameSat msg }
        pure (some (.ephem e), st, ionoParams)
      else if frameSys msg = sysBds then do
        let (_, st, e, ionoParams) ← decodeBdsSubframe st msg { sat := frameSat msg } ionoParams
        pure (some (.ephem e), st, ionoParams)
      else if frameSys msg = sysGal then do
        let (_, st, e) ← decodeGalSubframe st msg { sat := frameSat msg }
        pure (some (.ephem e), st, ionoParams)
      else if frameSys msg = sysGlo then do
        let (_, st, e) ← decodeGloSubframe st msg none
        match e with
        | some e => pure (some (.gloEphem e), st, ionoParams)
        | none => pure (some (.ephem { sat := frameSat msg }), st, ionoParams)
      else pure (none, st, ionoParams) := by
  have known : frameSys msg ≠ 0 := by
    intro none
    rw [frameSat, none] at valid
    rcases satNo_cases valid with ⟨h, _⟩ | ⟨h, _⟩ | ⟨h, _⟩ | ⟨h, _⟩ <;> cases h
  rw [parseSubframe]
  dsimp only
  rw [gnssId_ok long, ok_bind, show ubxSys (msg.getD 6 0).toNat = frameSys msg from rfl,
    if_neg known, svid_ok long, ok_bind,
    show satNo (frameSys msg) (msg.getD 7 0).toNat = frameSat msg from rfl, if_neg valid]
  rfl

/-- The downcast of the ephemeris is null, and only too short a frame returns before it is used. -/
theorem parseSubframe_glonass (long : 8 ≤ msg.length) (valid : frameSat msg ≠ 0)
    (glo : frameSys msg = sysGlo) (st : Processor) (ionoParams : List ℚ) :
    parseSubframe st msg ionoParams =
      if msg.length < 32 then .ok (some (.ephem { sat := frameSat msg }), st, ionoParams)
      else .error .nullPointer := by
  rw [parseSubframe_some long valid, glo, if_neg (by decide), if_neg (by decide),
    if_neg (by decide), if_pos rfl, decodeGloSubframe]
  by_cases short : msg.length < 32
  · rw [if_pos short, if_pos short]
    rfl
  · rw [if_neg short, if_neg short]
    rfl

theorem parseSubframe_ok (long : 8 ≤ msg.length) (valid : frameSat msg ≠ 0)
    (decodable : frameSys msg ≠ sysGlo) (ionoParams : List ℚ) (row : Row) (flags : UInt8) :
    ∃ e ionoParams' row' flags' time set, e.sat = frameSat msg ∧
      completes (frameSat msg) row flags msg = .ok set ∧
      SetOutcome (setSpec (frameSat msg)) { sat := frameSat msg } set e ∧
      ∀ st : Processor, st.Holds (frameSat msg) row flags →
        parseSubframe st msg ionoParams =
          .ok (some (.ephem e), st.update (frameSat msg) row' flags' time, ionoParams') := by
  have number := frameSat_valid valid
  have sys : (satsys (frameSat msg)).1 = frameSys msg := congrArg Prod.fst (satsys_satNo valid)
  have entered := fun st => parseSubframe_some long valid st ionoParams
  rw [completes, setSpec, sys]
  rcases satNo_cases valid with ⟨gps, _⟩ | ⟨glo, _⟩ | ⟨gal, _⟩ | ⟨bds, _⟩
  · obtain ⟨rc, e, row', time, set, sat, completed, outcome, ran⟩ :=
      decodeGpsSubframe_ok { sat := frameSat msg } number msg row flags
    rw [if_pos gps, if_pos gps]
    refine ⟨e, ionoParams, row', flags, time, set, sat, completed, outcome, fun st holds => ?_⟩
    rw [entered, if_pos gps, ran st holds]
    rfl
  · exact absurd glo decodable
  · have other : ¬ sysGal = sysGps := by decide
    obtain ⟨rc, e, row', time, set, sat, completed, outcome, ran⟩ :=
      decodeGalSubframe_ok { sat := frameSat msg } number msg row flags
    rw [gal, if_neg other, if_pos rfl, if_neg other, if_pos rfl]
    refine ⟨e, ionoParams, row', flags, time, set, sat, completed, outcome, fun st holds => ?_⟩
    rw [entered, gal, if_neg other, if_neg (by decide), if_pos rfl, ran st holds]
    rfl
  · have other : ¬ sysBds = sysGps := by decide
    have other' : ¬ sysBds = sysGal := by decide
    rw [bds, if_neg other, if_neg other', if_neg other, if_neg other', if_neg (by decide)]
    by_cases igso : IsD1 (frameSat msg)
    · obtain ⟨rc, e, ionoParams', row', flags', time, set, sat, completed, outcome, ran⟩ :=
        decodeBdsSubframe_d1_ok { sat := frameSat msg } number igso msg ionoParams row flags
      rw [if_pos igso, if_pos igso]
      refine ⟨e, ionoParams', row', flags', time, set, sat, completed, outcome, fun st holds => ?_⟩
      rw [entered, bds, if_neg other, if_pos rfl, ran st holds]
      rfl
    · obtain ⟨rc, e, row', time, set, sat, completed, outcome, ran⟩ :=
        decodeBdsSubframe_d2_ok { sat := frameSat msg } number igso msg ionoParams row flags
      rw [if_neg igso, if_neg igso]
      refine ⟨e, ionoParams, row', flags, time, set, sat, completed, outcome, fun st holds => ?_⟩
      rw [entered, bds, if_neg other, if_pos rfl, ran st holds]
      rfl

end

end GnssParser
