import GnssParser.Proof.Interleaving

/-!
# GLONASS frames

`parse_subframe` allocates an `Ephem` for a GLONASS satellite as for the others, and the downcast to
`GloEphem` is null.
-/

namespace GnssParser
open Checked BitView

/-! ## Strings -/

/-- Byte `i` of the string in an SFRBX frame: its words hold their bytes in reverse. -/
def gloByte (msg : List UInt8) (i : Nat) : UInt8 := msg.getD (14 + 4 * (i / 4) + (3 - i % 4)) 0

def oddBits (b : UInt8) : Bool := (List.range 8).foldl (fun odd k => odd ^^ byteBit b k) false

def gloParity (msg : List UInt8) (mask : Vector UInt8 12) : Bool :=
  (List.range 11).foldl (fun odd j => odd ^^ oddBits (gloByte msg j &&& mask.toList.getD j 0)) false

structure GloString (slot number : Nat) (msg : List UInt8) : Prop where
  frame : SfrbxFrame msg
  long : 32 ≤ msg.length
  gnssId : msg.getD 6 0 = 6
  svid : (msg.getD 7 0).toNat = slot
  number : (gloByte msg 0).toNat / 8 % 16 = number
  parity : ∀ mask ∈ maskHamming.toList, gloParity msg mask = false

/-- Strings 1 to 4 of one frame of a satellite, for a processor that knows the time. -/
structure GloScenario (st : Processor) (slot : Nat) (s1 s2 s3 s4 : List UInt8) : Prop where
  reachable : Reachable st
  currTime : st.currTime.time ≠ 0
  slots : 1 ≤ slot ∧ slot ≤ 27
  first : GloString slot 1 s1
  second : GloString slot 2 s2
  third : GloString slot 3 s3
  fourth : GloString slot 4 s4
  frameId : ∀ s ∈ [s2, s3, s4], gloByte s 12 = gloByte s1 12 ∧ gloByte s 13 = gloByte s1 13
  slotNumber : (gloByte s4 8).toNat % 4 * 8 + (gloByte s4 9).toNat / 32 = slot

/-- The calls are defined, and the last one returns the ephemeris of the satellite. -/
def GloDecodes (st : Processor) (slot : Nat) (s1 s2 s3 s4 : List UInt8) : Prop :=
  ∃ r1 r2 r3 e ionoParams st',
    parseSubframes st [s1, s2, s3, s4] =
      .ok ([r1, r2, r3, (some (.gloEphem e), ionoParams)], st') ∧
    e.sat = satNo sysGlo slot ∧ e.ttr.time ≠ 0 ∧ e.toe.time ≠ 0

/-! ## The null downcast -/

/-- Whatever the state and the string, a GLONASS frame dereferences a null pointer. -/
theorem parseSubframe_glo (st : Processor) {msg : List UInt8} (ionoParams : List ℚ)
    (long : 32 ≤ msg.length) (gnssId : msg.getD 6 0 = 6)
    (svid : 1 ≤ (msg.getD 7 0).toNat ∧ (msg.getD 7 0).toNat ≤ 27) :
    parseSubframe st msg ionoParams = .error .nullPointer := by
  have sys : frameSys msg = sysGlo := by
    rw [frameSys, gnssId]
    rfl
  have sat : frameSat msg ≠ 0 := by
    rw [frameSat, sys, satNo_glo, if_pos svid]
    omega
  exact parseSubframe_null ⟨sys, sat, long⟩ st ionoParams

/-- No GLONASS satellite is ever decoded. -/
theorem glonass_never_decodes {st : Processor} {slot : Nat} {s1 s2 s3 s4 : List UInt8}
    (scenario : GloScenario st slot s1 s2 s3 s4) : ¬ GloDecodes st slot s1 s2 s3 s4 := by
  rintro ⟨r1, r2, r3, e, ionoParams, st', parsed, _⟩
  have null := parseSubframe_glo st [] scenario.first.long scenario.first.gnssId
    (by rw [scenario.first.svid]; exact scenario.slots)
  rw [parseSubframes, null] at parsed
  cases parsed

/-! ## A satellite in view -/

/-- A UBX-RXM-RAWX message of GPS week 2000 with one block. -/
def rawxMsg : List UInt8 :=
  [0xB5, 0x62, 0x02, 0x15, 0x30, 0x00, 0x00, 0x00, 0x00, 0x00, 0x00, 0x00, 0x00, 0x00, 0xD0, 0x07,
    0x12, 0x01, 0x00, 0x00, 0x00, 0x00, 0x00, 0x00, 0x00, 0x00, 0x00, 0x00, 0x00, 0x00, 0x00, 0x00,
    0x00, 0x00, 0x00, 0x00, 0x00, 0x00, 0x00, 0x00, 0x00, 0x00, 0x00, 0x01, 0x00, 0x00, 0x00, 0x00,
    0x00, 0x00, 0x00, 0x00, 0x00, 0x00, 0x32, 0x64]

theorem rawxMsg_time :
    (feed none Processor.init [rawxMsg]).map (fun st => st.currTime.time) = .ok 1525564800 := by
  decide +kernel

/-! Strings 1 to 4 of slot 1, all zero but for their number, the slot number and the check bits. -/

def gloMsg1 : List UInt8 :=
  [0xB5, 0x62, 0x02, 0x13, 0x18, 0x00, 0x06, 0x01, 0x00, 0x07, 0x04, 0x00, 0x02, 0x00, 0x00, 0x00,
    0x00, 0x08, 0x00, 0x00, 0x00, 0x00, 0x00, 0x80, 0x06, 0x00, 0x00, 0x00, 0x00, 0x00, 0xCF, 0x63]

def gloMsg2 : List UInt8 :=
  [0xB5, 0x62, 0x02, 0x13, 0x18, 0x00, 0x06, 0x01, 0x00, 0x07, 0x04, 0x00, 0x02, 0x00, 0x00, 0x00,
    0x00, 0x10, 0x00, 0x00, 0x00, 0x00, 0x00, 0x88, 0x02, 0x00, 0x00, 0x00, 0x00, 0x00, 0xDB, 0xEB]

def gloMsg3 : List UInt8 :=
  [0xB5, 0x62, 0x02, 0x13, 0x18, 0x00, 0x06, 0x01, 0x00, 0x07, 0x04, 0x00, 0x02, 0x00, 0x00, 0x00,
    0x00, 0x18, 0x00, 0x00, 0x00, 0x00, 0x00, 0x08, 0x04, 0x00, 0x00, 0x00, 0x00, 0x00, 0x65, 0xDF]

def gloMsg4 : List UInt8 :=
  [0xB5, 0x62, 0x02, 0x13, 0x18, 0x00, 0x06, 0x01, 0x00, 0x07, 0x04, 0x00, 0x02, 0x00, 0x00, 0x00,
    0x00, 0x20, 0x00, 0x00, 0x00, 0x00, 0x00, 0xA0, 0x26, 0x00, 0x00, 0x00, 0x00, 0x00, 0x27, 0x3B]

theorem gloParity_all {msg : List UInt8}
    (even : (maskHamming.toList.all fun mask => !gloParity msg mask) = true) :
    ∀ mask ∈ maskHamming.toList, gloParity msg mask = false := by
  intro mask mem
  have passed := List.all_eq_true.mp even mask mem
  rwa [Bool.not_eq_true_eq_eq_false] at passed

theorem gloMsg1_string : GloString 1 1 gloMsg1 :=
  ⟨by decide +kernel, by decide, rfl, rfl, by decide +kernel, gloParity_all (by decide +kernel)⟩

theorem gloMsg2_string : GloString 1 2 gloMsg2 :=
  ⟨by decide +kernel, by decide, rfl, rfl, by decide +kernel, gloParity_all (by decide +kernel)⟩

theorem gloMsg3_string : GloString 1 3 gloMsg3 :=
  ⟨by decide +kernel, by decide, rfl, rfl, by decide +kernel, gloParity_all (by decide +kernel)⟩

theorem gloMsg4_string : GloString 1 4 gloMsg4 :=
  ⟨by decide +kernel, by decide, rfl, rfl, by decide +kernel, gloParity_all (by decide +kernel)⟩

theorem gloScenario_exists : ∃ st, GloScenario st 1 gloMsg1 gloMsg2 gloMsg3 gloMsg4 := by
  have time := rawxMsg_time
  cases fed : feed none Processor.init [rawxMsg] with
  | error e => rw [fed] at time; cases time
  | ok st =>
      rw [fed] at time
      have known : st.currTime.time = 1525564800 := Except.ok.inj time
      exact ⟨st, ⟨none, [rawxMsg], fed⟩, by rw [known]; decide, by decide, gloMsg1_string,
        gloMsg2_string, gloMsg3_string, gloMsg4_string, by decide +kernel, by decide +kernel⟩

theorem glonass_never_decodes_slot1 :
    ∃ st, GloScenario st 1 gloMsg1 gloMsg2 gloMsg3 gloMsg4 ∧
      ¬ GloDecodes st 1 gloMsg1 gloMsg2 gloMsg3 gloMsg4 := by
  obtain ⟨st, scenario⟩ := gloScenario_exists
  exact ⟨st, scenario, glonass_never_decodes scenario⟩

/-- The strings of slot 1 are not decoded. -/
theorem glonass_incomplete :
    ¬ ∀ st slot s1 s2 s3 s4, GloScenario st slot s1 s2 s3 s4 → GloDecodes st slot s1 s2 s3 s4 := by
  intro complete
  obtain ⟨st, scenario⟩ := gloScenario_exists
  obtain ⟨r1, r2, r3, e, ionoParams, st', parsed, _⟩ := complete st 1 _ _ _ _ scenario
  rw [parseSubframes, parseSubframe_glo st [] (by decide) rfl (by decide)] at parsed
  cases parsed

end GnssParser
