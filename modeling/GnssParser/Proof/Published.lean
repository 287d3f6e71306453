import GnssParser.Proof.Satellites

/-!
# Published ephemerides

`parse_subframe` ignores the codes of the decoders: what a handler publishes is decided by the
transmission time that they leave in the ephemeris.
-/

namespace GnssParser
open Checked

/-- The set that a frame completes in a state, when a decoder looks at one. -/
def completedSet (st : Processor) (msg : List UInt8) : Checked (Option Row) := do
  completes (frameSat msg) (← st.row (frameSat msg)) (← st.flags (frameSat msg)) msg

def FromConsistentSet (st : Processor) (msg : List UInt8) (obj : EphemObject) : Prop :=
  ∃ e set, obj = .ephem e ∧ completedSet st msg = .ok (some set) ∧
    (setSpec (frameSat msg)).consistent set ∧ e.times = (setSpec (frameSat msg)).times set

/-- Every ephemeris that is not dropped for its transmission time comes from a consistent set. -/
def PublishedConsistent (st : Processor) (msg : List UInt8) : Prop :=
  ∀ ionoParams ionoParams' st' obj,
    parseSubframe st msg ionoParams = .ok (some obj, st', ionoParams') →
    obj.base.ttr.time ≠ 0 → FromConsistentSet st msg obj

/-- Subframe 3 of a GPS satellite completes three consecutive subframes of different issues. -/
def GpsIssuesDiffer (st : Processor) (msg : List UInt8) : Prop :=
  frameSys msg = sysGps ∧
    ∃ set, completedSet st msg = .ok (some set) ∧ GpsOrdered set ∧ ¬ GpsIssue set

theorem completedSet_ok {st : Processor} {msg : List UInt8} {row : Row} {flags : UInt8}
    (holds : st.Holds (frameSat msg) row flags) :
    completedSet st msg = completes (frameSat msg) row flags msg := by
  rw [completedSet, holds.row, ok_bind, holds.flags, ok_bind]

theorem leaks_iff {msg : List UInt8} (valid : frameSat msg ≠ 0) (set : Row) :
    (setSpec (frameSat msg)).leaks set ↔ frameSys msg = sysGps ∧ GpsLeaks set := by
  rw [setSpec, show (satsys (frameSat msg)).1 = frameSys msg from
    congrArg Prod.fst (satsys_satNo valid)]
  by_cases gps : frameSys msg = sysGps
  · rw [if_pos gps]
    exact (and_iff_right gps).symm
  · rw [if_neg gps]
    simp only [gps, false_and, iff_false]
    split_ifs <;> exact id

theorem parseSubframe_glo_ttr {st st' : Processor} {msg : List UInt8} {obj : EphemObject}
    {ionoParams ionoParams' : List ℚ} (long : 8 ≤ msg.length) (valid : frameSat msg ≠ 0)
    (glo : frameSys msg = sysGlo)
    (parsed : parseSubframe st msg ionoParams = .ok (some obj, st', ionoParams')) :
    obj.base.ttr.time = 0 := by
  rw [parseSubframe_glonass long valid glo] at parsed
  split at parsed
  case isTrue short =>
    cases parsed
    rfl
  case isFalse enough => cases parsed

theorem completedSet_none {st : Processor} {msg : List UInt8} (none : frameSat msg = 0) (set : Row) :
    completedSet st msg ≠ .ok (some set) := by
  intro found
  rw [completedSet, none] at found
  obtain ⟨row, _, found⟩ := bind_eq_ok.mp found
  obtain ⟨flags, _, found⟩ := bind_eq_ok.mp found
  cases found

/-- The check of the issues comes after the assignment of the transmission time. -/
theorem GpsIssuesDiffer.inconsistent {st : Processor} {msg : List UInt8} (long : 8 ≤ msg.length)
    (valid : frameSat msg ≠ 0) (differ : GpsIssuesDiffer st msg) : ¬ PublishedConsistent st msg := by
  obtain ⟨gps, set, found, ordered, issues⟩ := differ
  intro consistent
  obtain ⟨row, flags, holds⟩ := st.holds_exists (frameSat_valid valid)
  obtain ⟨e, ionoParams', row', flags', time, set', _, completed, outcome, ran⟩ :=
    parseSubframe_ok long valid (by rw [gps]; decide) [] row flags
  rw [completedSet_ok holds, completed] at found
  obtain rfl := Except.ok.inj found
  have leaks := (leaks_iff valid set).mpr ⟨gps, ordered, issues⟩
  cases outcome with
  | rejected _ kept _ => exact kept leaks
  | decoded _ kept _ => exact kept leaks
  | leaked failed _ ttr =>
      obtain ⟨e', set', _, found, passed, _⟩ := consistent _ _ _ _ (ran st holds) ttr
      rw [completedSet_ok holds, completed] at found
      obtain rfl := Option.some.inj (Except.ok.inj found)
      exact failed passed

/-- Only a GPS set whose issues differ is returned with a transmission time after a failed check. -/
theorem published_consistent_iff (st : Processor) {msg : List UInt8} (frame : SfrbxFrame msg) :
    PublishedConsistent st msg ↔ ¬ GpsIssuesDiffer st msg := by
  by_cases valid : frameSat msg = 0
  · constructor
    · rintro _ ⟨_, set, found, _⟩
      exact completedSet_none valid set found
    · intro _ ionoParams ionoParams' st' obj parsed
      rw [parseSubframe_none frame.long valid] at parsed
      cases parsed
  by_cases glo : frameSys msg = sysGlo
  · constructor
    · rintro _ ⟨gps, _⟩
      rw [glo] at gps
      cases gps
    · intro _ ionoParams ionoParams' st' obj parsed published
      exact absurd (parseSubframe_glo_ttr frame.long valid glo parsed) published
  obtain ⟨row, flags, holds⟩ := st.holds_exists (frameSat_valid valid)
  have parse := fun ionoParams => parseSubframe_ok frame.long valid glo ionoParams row flags
  constructor
  · exact fun consistent differ => differ.inconsistent frame.long valid consistent
  · intro same ionoParams ionoParams'' st' obj parsed published
    obtain ⟨e, ionoParams', row', flags', time, set, _, completed, outcome, ran⟩ := parse ionoParams
    rw [ran st holds] at parsed
    obtain ⟨found, _⟩ := Prod.mk.inj (Except.ok.inj parsed)
    obtain rfl := Option.some.inj found
    rw [← completedSet_ok holds] at completed
    cases outcome with
    | stored => exact absurd rfl published
    | rejected _ _ ttr => exact absurd (congrArg GTime.time ttr) published
    | leaked _ leaks _ =>
        obtain ⟨gps, ordered, differ⟩ := (leaks_iff valid _).mp leaks
        exact absurd ⟨gps, _, completed, ordered, differ⟩ same
    | decoded passed _ assigned => exact ⟨e, _, rfl, completed, passed, assigned⟩

/-! ## Subframes of two issues -/

/-! Subframes 1 to 3 of satellite 1, all zero but for the ids, the z-counts and the IODE of the last. -/

def gpsMsg1 : List UInt8 :=
  [0xB5, 0x62, 0x02, 0x13, 0x30, 0x00, 0x00, 0x01, 0x00, 0x00, 0x0A, 0x00, 0x02, 0x00, 0x00, 0x00,
    0x00, 0x00, 0x00, 0x01, 0x00, 0x00, 0x00, 0x00, 0x00, 0x00, 0x00, 0x00, 0x00, 0x00, 0x00, 0x00,
    0x00, 0x00, 0x00, 0x00, 0x00, 0x00, 0x00, 0x00, 0x00, 0x00, 0x00, 0x00, 0x00, 0x00, 0x00, 0x00,
    0x00, 0x00, 0x00, 0x00, 0x00, 0x00, 0x53, 0xEF]

def gpsMsg2 : List UInt8 :=
  [0xB5, 0x62, 0x02, 0x13, 0x30, 0x00, 0x00, 0x01, 0x00, 0x00, 0x0A, 0x00, 0x02, 0x00, 0x00, 0x00,
    0x00, 0x00, 0x00, 0x22, 0x00, 0x00, 0x00, 0x00, 0x00, 0x00, 0x00, 0x00, 0x00, 0x00, 0x00, 0x00,
    0x00, 0x00, 0x00, 0x00, 0x00, 0x00, 0x00, 0x00, 0x00, 0x00, 0x00, 0x00, 0x00, 0x00, 0x00, 0x00,
    0x00, 0x00, 0x00, 0x00, 0x00, 0x00, 0x74, 0x72]

def gpsMsg3 : List UInt8 :=
  [0xB5, 0x62, 0x02, 0x13, 0x30, 0x00, 0x00, 0x01, 0x00, 0x00, 0x0A, 0x00, 0x02, 0x00, 0x00, 0x00,
    0x00, 0x00, 0x00, 0x43, 0x00, 0x00, 0x00, 0x00, 0x00, 0x00, 0x00, 0x00, 0x00, 0x00, 0x00, 0x00,
    0x00, 0x00, 0x00, 0x00, 0x00, 0x00, 0x00, 0x00, 0x00, 0x00, 0x00, 0x00, 0x00, 0x00, 0x00, 0x00,
    0x00, 0x00, 0x00, 0x00, 0x40, 0x00, 0xD5, 0x75]

instance (row : Row) : Decidable (GpsOrdered row) :=
  decidable_of_iff ((∀ i < 3, gpsField row i 43 3 = i + 1) ∧
      ∀ i < 2, gpsField row (i + 1) 24 17 = gpsField row i 24 17 + 1)
    ⟨fun h => ⟨h.1, h.2⟩, fun h => ⟨h.ids, h.zCounts⟩⟩

instance (row : Row) : Decidable (GpsIssue row) :=
  decidable_of_iff (gpsField row 1 48 8 = gpsField row 2 216 8 ∧
      (256 * gpsField row 0 70 2 + gpsField row 0 168 8) % 256 = gpsField row 2 216 8)
    ⟨fun h => ⟨h.1, h.2⟩, fun h => ⟨h.iode, h.iodc⟩⟩

theorem gpsMsgs_differ :
    (do
      let st ← feed none Processor.init [gpsMsg1, gpsMsg2]
      let set ← completedSet st gpsMsg3
      pure (set.map fun set => decide (GpsOrdered set ∧ ¬ GpsIssue set))) = .ok (some true) := by
  decide +kernel

theorem gpsMsg3_frame : SfrbxFrame gpsMsg3 := by decide +kernel

/-- After subframes 1 and 2, subframe 3 of another issue is published with their times. -/
theorem published_mixed_issues :
    ¬ ∀ st msg, Reachable st → SfrbxFrame msg → PublishedConsistent st msg := by
  intro consistent
  obtain ⟨st, fed, rest⟩ := bind_eq_ok.mp gpsMsgs_differ
  obtain ⟨completed, found, differ⟩ := bind_eq_ok.mp rest
  obtain ⟨set, rfl, checked⟩ := Option.map_eq_some_iff.mp (Except.ok.inj differ)
  obtain ⟨ordered, issues⟩ := of_decide_eq_true checked
  have differ : GpsIssuesDiffer st gpsMsg3 := ⟨by decide, set, found, ordered, issues⟩
  exact differ.inconsistent (by decide) (by decide)
    (consistent st gpsMsg3 ⟨none, _, fed⟩ gpsMsg3_frame)

theorem published_consistent_iff_gps :
    SfrbxFrame gpsMsg3 ∧ (PublishedConsistent Processor.init gpsMsg3 ↔
      ¬ GpsIssuesDiffer Processor.init gpsMsg3) :=
  ⟨gpsMsg3_frame, published_consistent_iff Processor.init gpsMsg3_frame⟩

end GnssParser
