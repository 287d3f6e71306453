import GnssParser.Proof.Interleaving

/-!
# Completeness of GPS

Subframes 1, 2 and 3 of a satellite are decoded whatever its row held before: subframes 4 and 5 lie
behind them, and the decoder keeps no flags.
-/

namespace GnssParser
open Checked BitView

/-! ## GPS frames -/

def gpsWords (msg : List UInt8) : Vector UInt32 10 := Vector.ofFn fun i => navWord msg i >>> 6

def gpsSentBit (msg : List UInt8) : Nat → Bool := wordBit 24 (gpsWords msg)

def gpsSent (msg : List UInt8) (pos len : Nat) : Nat := field (gpsSentBit msg) pos len

structure GpsFrame (prn id : Nat) (msg : List UInt8) : Prop where
  frame : SfrbxFrame msg
  long : 56 ≤ msg.length
  gnssId : msg.getD 6 0 = 0
  svid : (msg.getD 7 0).toNat = prn
  notCnav : navWord msg 0 >>> 24 ≠ preambCnav
  id : gpsSent msg 43 3 = id

def CarriesGps (prn : Nat) (msg : List UInt8) : Prop := ∃ id, 1 ≤ id ∧ id ≤ 3 ∧ GpsFrame prn id msg

/-- Subframes 1, 2 and 3 of one set, and other frames before each: `frame i` is subframe `i + 1`. -/
structure GpsScenario (prn : Nat) (frame : Nat → List UInt8) (between : Nat → List (List UInt8)) :
    Prop where
  range : 1 ≤ prn ∧ prn ≤ 32
  frames : ∀ i < 3, GpsFrame prn (i + 1) (frame i)
  zCounts : ∀ i < 2, gpsSent (frame (i + 1)) 24 17 = gpsSent (frame i) 24 17 + 1
  iode : gpsSent (frame 1) 48 8 = gpsSent (frame 2) 216 8
  iodc : gpsSent (frame 0) 168 8 = gpsSent (frame 2) 216 8
  others : ∀ i < 3, ∀ msg ∈ between i, SfrbxFrame msg
  quiet : ∀ i < 3, ∀ msg ∈ between i, ¬ CarriesGps prn msg

def gpsCalls (st : Processor) (frame : Nat → List UInt8) (between : Nat → List (List UInt8)) :
    Checked (List (Option EphemObject) × Processor) :=
  parseAmong st ((List.range 3).map fun i => (between i, frame i))

def gpsSentSet (prn : Nat) (frame : Nat → List UInt8) : Ephem :=
  gpsSet (fun i => gpsSentBit (frame i)) { sat := satNo sysGps prn }

def GpsCompletes (st : Processor) (prn : Nat) (frame : Nat → List UInt8)
    (between : Nat → List (List UInt8)) : Prop :=
  ∃ first second st', gpsCalls st frame between =
      .ok ([first, second, some (.ephem (gpsSentSet prn frame))], st') ∧
    (gpsSentSet prn frame).ttr.time ≠ 0

/-! ## One frame -/

section
variable {prn id : Nat} {msg : List UInt8}

theorem gpsSentId_eq (msg : List UInt8) :
    gpsSent msg 43 3 = (((gpsWords msg).get 1 >>> 2) &&& 0x07).toNat := by
  have word : wordField 24 (gpsWords msg) (24 * 1 + 19) 3 = (gpsWords msg)[1].toNat / 2 ^ 2 % 2 ^ 3 :=
    wordField_word (gpsWords msg) (by omega) (by omega)
  rw [UInt32.toNat_and, UInt32.toNat_shiftRight, show (2 : UInt32).toNat % 32 = 2 from rfl,
    show (0x07 : UInt32).toNat = 2 ^ 3 - 1 from rfl, Nat.and_two_pow_sub_one_eq_mod,
    Nat.shiftRight_eq_div_pow]
  exact word

theorem gpsUnit_eq (long : 56 ≤ msg.length) (notCnav : navWord msg 0 >>> 24 ≠ preambCnav) :
    gpsUnit msg = if 1 ≤ gpsSent msg 43 3 ∧ gpsSent msg 43 3 ≤ 5 then
      some (gpsSent msg 43 3, gpsWords msg) else none := by
  rw [gpsUnit, if_neg (by omega), if_neg notCnav, gpsSentId_eq]
  dsimp only
  rw [show (Vector.ofFn fun i : Fin 10 => navWord msg i >>> 6) = gpsWords msg from rfl]
  generalize ((gpsWords msg).get 1 >>> 2) &&& 0x07 = subframeId
  have known : subframeId < 1 ∨ subframeId > 5 ↔
      ¬ (1 ≤ subframeId.toNat ∧ subframeId.toNat ≤ 5) := by
    rw [gt_iff_lt, UInt32.lt_iff_toNat_lt, UInt32.lt_iff_toNat_lt,
      show (1 : UInt32).toNat = 1 from rfl, show (5 : UInt32).toNat = 5 from rfl]
    omega
  simp only [known, ite_not]

theorem ubxSys_gps {gnssid : Nat} (gps : ubxSys gnssid = sysGps) : gnssid = 0 := by
  unfold ubxSys at gps
  split at gps <;> first | rfl | cases gps

theorem GpsFrame.sat_eq (frame : GpsFrame prn id msg) : frameSat msg = satNo sysGps prn := by
  rw [frameSat, frameSys, frame.gnssId, frame.svid]
  rfl

section
variable (range : 1 ≤ prn ∧ prn ≤ 32)
include range

theorem gpsSat_ne_zero : satNo sysGps prn ≠ 0 := by
  rw [satNo_gps, if_pos range]
  omega

theorem frameSys_gps (sat : frameSat msg = satNo sysGps prn) : frameSys msg = sysGps := by
  have valid : frameSat msg ≠ 0 := sat.trans_ne (gpsSat_ne_zero range)
  have same := satsys_satNo valid
  rw [← frameSat, sat, satsys_satNo (gpsSat_ne_zero range)] at same
  exact (Prod.mk.inj same).1.symm

theorem parseSubframe_gps (frame : SfrbxFrame msg) (sat : frameSat msg = satNo sysGps prn)
    (st : Processor) :
    parseSubframe st msg [] = (do
      let (_, st, e) ← decodeGpsSubframe st msg { sat := satNo sysGps prn }
      pure (some (.ephem e), st, [])) := by
  rw [parseSubframe_some frame.long (sat.trans_ne (gpsSat_ne_zero range)),
    if_pos (frameSys_gps range sat), sat]

theorem carriesGps_of_unit (frame : IsFrameOf (satNo sysGps prn) msg) {words : Vector UInt32 10}
    (unit : gpsUnit msg = some (id, words)) :
    GpsFrame prn id msg ∧ words = gpsWords msg ∧ 1 ≤ id ∧ id ≤ 5 := by
  have long : 56 ≤ msg.length := by
    by_contra short
    rw [gpsUnit, if_pos (by omega)] at unit
    cases unit
  have notCnav : navWord msg 0 >>> 24 ≠ preambCnav := by
    intro cnav
    rw [gpsUnit, if_neg (by omega), if_pos cnav] at unit
    cases unit
  rw [gpsUnit_eq long notCnav] at unit
  split_ifs at unit with known
  obtain ⟨rfl, rfl⟩ := Prod.mk.inj (Option.some.inj unit)
  have valid : frameSat msg ≠ 0 := frame.2.trans_ne (gpsSat_ne_zero range)
  have numbered : (frameSys msg, (msg.getD 7 0).toNat) = (sysGps, prn) := by
    rw [← satsys_satNo valid, ← satsys_satNo (gpsSat_ne_zero range)]
    exact congrArg satsys frame.2
  obtain ⟨sys, svid⟩ := Prod.mk.inj numbered
  exact ⟨⟨frame.1, long, UInt8.toNat_inj.mp (ubxSys_gps sys), svid, notCnav, rfl⟩, rfl, known⟩

section
variable {st : Processor} {row : Row} {flags : UInt8}
  (holds : st.Holds (satNo sysGps prn) row flags)
include holds

theorem gpsFrame_stored (frame : GpsFrame prn id msg) (lower : 1 ≤ id) (upper : id ≤ 5)
    (other : id ≠ 3) :
    ∃ row', (∀ j, bufferBit row' j = storedBit row ((id - 1) * 30) 24 (gpsWords msg) j) ∧
      parseSubframe st msg [] = .ok (some (.ephem { sat := satNo sysGps prn }),
        st.update (satNo sysGps prn) row' flags none, []) := by
  obtain ⟨row', wrote, bits⟩ := storeWords_ok row (gpsWords msg) (show 0 < 24 by omega) (by omega)
    (show 8 * ((id - 1) * 30) + 10 * 24 ≤ 8 * 380 by omega)
  have valid := validSat_satNo (gpsSat_ne_zero range)
  have unit : gpsUnit msg = some (id, gpsWords msg) := by
    rw [gpsUnit_eq frame.long frame.notCnav, frame.id, if_pos ⟨lower, upper⟩]
  refine ⟨row', bits, ?_⟩
  rw [parseSubframe_gps range frame.frame frame.sat_eq, decodeGpsSubframe_eq, unit]
  dsimp only
  rw [gpsStore, holds.row, ok_bind, wrote, ok_bind, st.setRow_ok valid holds, ok_bind,
    if_neg other]
  rfl

theorem gpsFrame_decoded (frame : GpsFrame prn 3 msg) :
    ∃ row', (∀ j, bufferBit row' j = storedBit row 60 24 (gpsWords msg) j) ∧
      (GpsConsistent row' → ∃ time, parseSubframe st msg [] =
        .ok (some (.ephem (gpsSet (gpsBits row') { sat := satNo sysGps prn })),
          st.update (satNo sysGps prn) row' flags time, [])) := by
  obtain ⟨row', wrote, bits⟩ := storeWords_ok row (gpsWords msg) (show 0 < 24 by omega) (by omega)
    (show 8 * 60 + 10 * 24 ≤ 8 * 380 by omega)
  have valid : ValidSat ({ sat := satNo sysGps prn } : Ephem).sat :=
    validSat_satNo (gpsSat_ne_zero range)
  have unit : gpsUnit msg = some (3, gpsWords msg) := by
    rw [gpsUnit_eq frame.long frame.notCnav, frame.id, if_pos ⟨by omega, by omega⟩]
  obtain ⟨rc, e, time, _, outcome, _, set, ran⟩ := decodeGpsEphem_ok valid row'
  refine ⟨row', bits, fun passed => ⟨time, ?_⟩⟩
  rw [parseSubframe_gps range frame.frame frame.sat_eq, decodeGpsSubframe_eq, unit]
  dsimp only
  rw [gpsStore, holds.row, ok_bind, wrote, ok_bind, st.setRow_ok valid holds, ok_bind,
    if_pos rfl, ran _ flags (st.holds_update valid row' flags none), ok_bind, st.update_update,
    set passed, Option.or_none]
  rfl

end

end

end

/-! ## The row -/

def HoldsGps (frame : Nat → List UInt8) (k : Nat) (row : Row) : Prop :=
  ∀ i < k, HoldsWords row (30 * i) 24 (gpsWords (frame i))

section
variable {frame : Nat → List UInt8} {row row' : Row}

theorem HoldsGps.field_eq (holds : HoldsGps frame 3 row) {i pos len : Nat} (h : i < 3)
    (inside : pos + len ≤ 240) : gpsField row i pos len = gpsSent (frame i) pos len := by
  rw [gpsField, show 240 * i = 8 * (30 * i) by ring]
  exact (holds i h).field_eq inside

theorem HoldsGps.set_eq (holds : HoldsGps frame 3 row) (ephem : Ephem) :
    gpsSet (gpsBits row) ephem = gpsSet (fun i => gpsSentBit (frame i)) ephem := by
  have same : ∀ i < 3, ∀ j < 240, gpsBits row i j = gpsSentBit (frame i) j := by
    intro i h j inside
    rw [gpsBits, show 240 * i + j = 8 * (30 * i) + j by ring]
    exact holds i h j inside
  exact gpsSet_congr same ephem

theorem HoldsGps.step {k : Nat} (holds : HoldsGps frame k row)
    (bits : ∀ j, bufferBit row' j = storedBit row (k * 30) 24 (gpsWords (frame k)) j) :
    HoldsGps frame (k + 1) row' := by
  intro i h
  by_cases last : i = k
  · subst last
    rw [Nat.mul_comm]
    exact holdsWords_stored bits
  · exact (holds i (by omega)).keep bits (by omega)

theorem HoldsGps.keep {k id : Nat} {words : Vector UInt32 10} (holds : HoldsGps frame k row)
    (first : k ≤ 3) (later : 4 ≤ id)
    (bits : ∀ j, bufferBit row' j = storedBit row ((id - 1) * 30) 24 words j) :
    HoldsGps frame k row' :=
  fun i h => (holds i h).keep bits (by omega)

end

/-! ## Calls -/

section
variable {prn : Nat} {frame : Nat → List UInt8} {between : Nat → List (List UInt8)}

theorem keeps_quietGps (range : 1 ≤ prn ∧ prn ≤ 32) {k : Nat} (first : k ≤ 3) {msg : List UInt8}
    (frames : SfrbxFrame msg) (sat : frameSat msg = satNo sysGps prn)
    (quiet : ¬ CarriesGps prn msg) :
    FrameKeeps (satNo sysGps prn) (fun row _ => HoldsGps frame k row) msg := by
  rintro st st' ephem ionoParams ⟨row, flags, holds, kept⟩ parsed
  cases unit : gpsUnit msg with
  | none =>
      rw [parseSubframe_gps range frames sat, decodeGpsSubframe_eq, unit] at parsed
      cases parsed
      exact ⟨row, flags, holds, kept⟩
  | some stored =>
      obtain ⟨id, words⟩ := stored
      obtain ⟨carried, rfl, lower, upper⟩ := carriesGps_of_unit range ⟨frames, sat⟩ unit
      have later : 4 ≤ id := by
        by_contra early
        exact quiet ⟨id, lower, by omega, carried⟩
      obtain ⟨row', bits, ran⟩ := gpsFrame_stored range holds carried lower upper (by omega)
      rw [ran] at parsed
      cases parsed
      exact ⟨row', flags, st.holds_update (validSat_satNo (gpsSat_ne_zero range)) _ _ _,
        kept.keep first later bits⟩

variable (scenario : GpsScenario prn frame between)
include scenario

theorem GpsScenario.consistent {row : Row} (holds : HoldsGps frame 3 row) : GpsConsistent row := by
  have id : ∀ i < 3, gpsSent (frame i) 43 3 = i + 1 := fun i h => (scenario.frames i h).id
  refine ⟨⟨fun i h => ?_, fun i h => ?_⟩, ⟨?_, ?_⟩⟩
  · rw [holds.field_eq h (by omega), id i h]
  · rw [holds.field_eq (by omega) (by omega), holds.field_eq (by omega) (by omega),
      scenario.zCounts i h]
  · rw [holds.field_eq (by omega) (by omega), holds.field_eq (by omega) (by omega), scenario.iode]
  · have low : gpsSent (frame 0) 168 8 < 2 ^ 8 := field_lt _ _ _
    rw [holds.field_eq (by omega) (by omega), holds.field_eq (by omega) (by omega),
      holds.field_eq (by omega) (by omega), ← scenario.iodc]
    omega

def gpsResult (prn : Nat) (frame : Nat → List UInt8) (k : Nat) : Option EphemObject :=
  some (.ephem (if k < 2 then { sat := satNo sysGps prn } else gpsSentSet prn frame))

theorem GpsScenario.step {k : Nat} (h : k < 3) {st : Processor}
    (sees : st.Sees (satNo sysGps prn) fun row _ => HoldsGps frame k row) :
    ∃ st' ionoParams, parseSubframe st (frame k) [] = .ok (gpsResult prn frame k, st', ionoParams) ∧
      st'.Sees (satNo sysGps prn) fun row _ => HoldsGps frame (k + 1) row := by
  obtain ⟨row, flags, holds, kept⟩ := sees
  have valid := validSat_satNo (gpsSat_ne_zero scenario.range)
  have carried := scenario.frames k h
  by_cases last : k = 2
  · subst last
    obtain ⟨row', bits, decoded⟩ := gpsFrame_decoded scenario.range holds carried
    have found : HoldsGps frame 3 row' := kept.step bits
    obtain ⟨time, ran⟩ := decoded (scenario.consistent found)
    refine ⟨_, [], ?_, row', flags, st.holds_update valid row' flags time, found⟩
    rw [ran, found.set_eq]
    rfl
  · obtain ⟨row', bits, ran⟩ := gpsFrame_stored scenario.range holds carried (by omega) (by omega)
      (by omega)
    refine ⟨_, [], ?_, row', flags, st.holds_update valid row' flags none, kept.step bits⟩
    rw [ran, gpsResult, if_pos (by omega)]

/-- The third call returns the ephemeris of the three subframes, unless an earlier call fails on a
GLONASS frame. -/
theorem gps_completes_iff (st : Processor) :
    GpsCompletes st prn frame between ↔ ∀ i < 3, ∀ msg ∈ between i, ¬ NullGlonass msg := by
  have valid := validSat_satNo (gpsSat_ne_zero scenario.range)
  constructor
  · rintro ⟨first, second, st', ran, _⟩ i h msg mem null
    rw [gpsCalls, List.range_eq_range'] at ran
    exact parseAmong_null (Nat.zero_le i) (by omega) mem null st ran
  · intro safe
    obtain ⟨row, flags, holds⟩ := st.holds_exists valid
    obtain ⟨st', ran, _⟩ := parseAmong_steps (i := 0) (n := 3)
      (fun k row _ => HoldsGps frame k row) (gpsResult prn frame) valid
      (fun k _ h => scenario.others k (by omega)) (fun k _ h => safe k (by omega))
      (fun k _ h msg mem sat => keeps_quietGps scenario.range (by omega)
        (scenario.others k (by omega) msg mem) sat (scenario.quiet k (by omega) msg mem))
      (fun k _ h st sees => scenario.step (by omega) sees)
      ⟨row, flags, holds, fun i h => absurd h (by omega)⟩
    refine ⟨gpsResult prn frame 0, gpsResult prn frame 1, st', ?_, gpsHandover_sent _⟩
    rw [gpsCalls, List.range_eq_range', ran]
    rfl

end

/-! ## A set with a GLONASS string in between -/

/-! Subframes 1, 2 and 3 of satellite 5 in week 252 with z-counts 100, 101 and 102 and issue 7. -/

def gpsSetMsg1 : List UInt8 :=
  [0xB5, 0x62, 0x02, 0x13, 0x30, 0x00, 0x00, 0x05, 0x00, 0x00, 0x0A, 0x00, 0x02, 0x00, 0x00, 0x00,
    0x00, 0x00, 0x00, 0x81, 0x0C, 0x00, 0x00, 0x00, 0xC0, 0x0F, 0x00, 0x00, 0x00, 0x00, 0x00, 0x00,
    0x00, 0x00, 0x00, 0x00, 0x00, 0x00, 0x00, 0x00, 0x00, 0x00, 0x40, 0x09, 0xC0, 0x01, 0x00, 0x00,
    0x00, 0x00, 0x00, 0x05, 0x00, 0x00, 0xC1, 0xF1]

def gpsSetMsg2 : List UInt8 :=
  [0xB5, 0x62, 0x02, 0x13, 0x30, 0x00, 0x00, 0x05, 0x00, 0x00, 0x0A, 0x00, 0x02, 0x00, 0x00, 0x00,
    0x00, 0x00, 0x00, 0xA2, 0x0C, 0x00, 0x00, 0x00, 0xC0, 0x01, 0x00, 0x00, 0x00, 0x00, 0x00, 0x00,
    0x00, 0x00, 0x00, 0x00, 0x00, 0x00, 0x00, 0x00, 0x00, 0x00, 0x40, 0x28, 0x00, 0x00, 0x00, 0x00,
    0x40, 0x03, 0x00, 0x40, 0x09, 0x00, 0xB9, 0xFC]

def gpsSetMsg3 : List UInt8 :=
  [0xB5, 0x62, 0x02, 0x13, 0x30, 0x00, 0x00, 0x05, 0x00, 0x00, 0x0A, 0x00, 0x02, 0x00, 0x00, 0x00,
    0x00, 0x00, 0x00, 0xC3, 0x0C, 0x00, 0x00, 0x00, 0x00, 0x00, 0x00, 0x00, 0x00, 0x00, 0x00, 0x00,
    0x00, 0x00, 0x00, 0x00, 0x00, 0x00, 0x00, 0x00, 0x00, 0x00, 0x00, 0x00, 0x00, 0x00, 0x00, 0x00,
    0x00, 0x00, 0x00, 0x00, 0xC0, 0x01, 0xE6, 0x4A]

def gloStringMsg : List UInt8 :=
  [0xB5, 0x62, 0x02, 0x13, 0x18, 0x00, 0x06, 0x01, 0x00, 0x00, 0x04, 0x00, 0x02, 0x00, 0x00, 0x00,
    0x00, 0x08, 0x00, 0x00, 0x00, 0x00, 0x00, 0x00, 0x00, 0x80, 0x06, 0x00, 0x00, 0x00, 0xC8, 0xC4]

def gpsSetMsgs (i : Nat) : List UInt8 := [gpsSetMsg1, gpsSetMsg2, gpsSetMsg3].getD i []

def gloBeforeSecond (i : Nat) : List (List UInt8) := if i = 1 then [gloStringMsg] else []

instance (prn id : Nat) (msg : List UInt8) : Decidable (GpsFrame prn id msg) :=
  decidable_of_iff (SfrbxFrame msg ∧ 56 ≤ msg.length ∧ msg.getD 6 0 = 0 ∧
      (msg.getD 7 0).toNat = prn ∧ navWord msg 0 >>> 24 ≠ preambCnav ∧ gpsSent msg 43 3 = id)
    ⟨fun ⟨frame, long, gnssId, svid, notCnav, id⟩ => ⟨frame, long, gnssId, svid, notCnav, id⟩,
      fun h => ⟨h.frame, h.long, h.gnssId, h.svid, h.notCnav, h.id⟩⟩

theorem gpsSetMsgs_scenario {between : Nat → List (List UInt8)}
    (others : ∀ i < 3, ∀ msg ∈ between i, SfrbxFrame msg)
    (quiet : ∀ i < 3, ∀ msg ∈ between i, ¬ CarriesGps 5 msg) :
    GpsScenario 5 gpsSetMsgs between where
  range := by omega
  frames := by decide +kernel
  zCounts := by decide +kernel
  iode := by decide +kernel
  iodc := by decide +kernel
  others := others
  quiet := quiet

theorem gps_completes_iff_alone :
    GpsCompletes Processor.init 5 gpsSetMsgs (fun _ => []) ↔
      ∀ i < 3, ∀ msg ∈ (fun _ => [] : Nat → List (List UInt8)) i, ¬ NullGlonass msg :=
  gps_completes_iff (gpsSetMsgs_scenario (by simp) (by simp)) Processor.init

/-- The string of the other satellite ends the calls. -/
theorem gps_lost_glonass :
    ¬ ∀ st prn frame between, Reachable st → GpsScenario prn frame between →
      GpsCompletes st prn frame between := by
  intro complete
  have other : ∀ i < 3, ∀ msg ∈ gloBeforeSecond i, msg = gloStringMsg := by
    intro i _ msg mem
    rw [gloBeforeSecond] at mem
    split at mem
    · exact List.mem_singleton.mp mem
    · cases mem
  have scenario : GpsScenario 5 gpsSetMsgs gloBeforeSecond :=
    gpsSetMsgs_scenario (fun i h msg mem => by rw [other i h msg mem]; decide +kernel)
      (fun i h msg mem => by
        rintro ⟨id, _, _, carried⟩
        rw [other i h msg mem] at carried
        exact absurd carried.gnssId (by decide))
  obtain ⟨first, second, st', ran, _⟩ :=
    complete Processor.init 5 _ _ ⟨none, [], rfl⟩ scenario
  rw [gpsCalls, List.range_eq_range'] at ran
  have mem : gloStringMsg ∈ gloBeforeSecond 1 := .head _
  exact parseAmong_null (k := 1) (by omega) (by omega) mem ⟨by decide, by decide, by decide⟩ _ ran

end GnssParser
