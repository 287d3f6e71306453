import GnssParser.Proof.Checksum
import GnssParser.Proof.GpsCompleteness

/-!
# Accesses in bounds

Whatever the type, the length and the contents of a verified message, no access of the processor is
out of bounds: the tests of the lengths guard the reads of the message, the number of the satellite
and of the unit guard the rows, and literal positions stay in the local buffers and tables.
-/

namespace GnssParser
open Checked BitView

variable {msg : List UInt8}

/-! ## Loads from a message -/

theorem loadByte_ok {k : Nat} (h : k < msg.length) : ∃ b, msgData msg k = .ok b :=
  ⟨_, msgData_ok h⟩

theorem load16_ok {k : Nat} (h : k + 2 ≤ msg.length) : ∃ x, u16 ((msgData msg).add k) = .ok x :=
  ⟨_, u16_ok (b := fun i => msg.getD (k + i) 0) fun _ _ => msgData_ok (by omega)⟩

theorem load32_ok {k : Nat} (h : k + 4 ≤ msg.length) : ∃ x, u32 ((msgData msg).add k) = .ok x :=
  ⟨_, u32_ok (b := fun i => msg.getD (k + i) 0) fun _ _ => msgData_ok (by omega)⟩

theorem load64_ok {k : Nat} (h : k + 8 ≤ msg.length) : ∃ x, u64 ((msgData msg).add k) = .ok x :=
  ⟨_, u64_ok (b := fun i => msg.getD (k + i) 0) fun _ _ => msgData_ok (by omega)⟩

/-! ## Message check -/

theorem verifyMsg_ok (msg : List UInt8) : ∃ verified, verifyMsg msg = .ok verified := by
  rw [verifyMsg]
  by_cases short : msg.length < 8
  · exact ⟨false, if_pos short⟩
  obtain ⟨b0, first⟩ := loadByte_ok (show 0 < msg.length by omega)
  obtain ⟨b1, second⟩ := loadByte_ok (show 1 < msg.length by omega)
  obtain ⟨payloadLen, length⟩ := load16_ok (show 4 + 2 ≤ msg.length by omega)
  rw [if_neg short, first, ok_bind, second, ok_bind]
  by_cases sync : b0 ≠ ubxSync1 ∨ b1 ≠ ubxSync2
  · exact ⟨false, if_pos sync⟩
  rw [if_neg sync, length, ok_bind]
  by_cases wrong : msg.length ≠ payloadLen.toNat + ubxMsgHeaderLen + 2
  · exact ⟨false, if_pos wrong⟩
  · rw [if_neg wrong]
    exact ⟨_, checkChecksum_eq (by omega)⟩

theorem msgType_ok (long : 4 ≤ msg.length) : ∃ type, msgType msg = .ok type := by
  obtain ⟨cls, first⟩ := loadByte_ok (show 2 < msg.length by omega)
  obtain ⟨id, second⟩ := loadByte_ok (show 3 < msg.length by omega)
  exact ⟨_, by rw [msgType, first, ok_bind, second]; rfl⟩

/-! ## Raw measurements -/

/-- The fields of the block that begins at byte `k`, at their offsets. -/
def blockAt (msg : List UInt8) (k : Nat) : MeasBlock :=
  let byte (i : Nat) : UInt8 := msg.getD (k + i) 0
  { psr := Ieee.ofBits64 (u64Of byte)
    cp := Ieee.ofBits64 (u64Of fun i => byte (8 + i))
    dopp := Ieee.ofBits32 (u32Of fun i => byte (16 + i))
    gnssId := byte 20
    svid := byte 21
    sigId := byte 22
    freqId := byte 23
    lockTime := u16Of fun i => byte (24 + i)
    cn0 := byte 26
    psrStd := byte 27 &&& 0x0F
    cpStd := byte 28 &&& 0x0F
    doppStd := byte 29 &&& 0x0F
    tckSta := byte 30 }

theorem readMeasBlock_eq {k : Nat} (h : k + 31 ≤ msg.length) :
    readMeasBlock ((msgData msg).add k) = .ok (blockAt msg k) := by
  have bytes : ∀ j < 31, (msgData msg).add k j = .ok (msg.getD (k + j) 0) := fun j below =>
    msgData_ok (by omega)
  have psr : u64 ((msgData msg).add k) = .ok (u64Of fun i => msg.getD (k + i) 0) :=
    u64_ok fun i below => bytes i (by omega)
  have cp : u64 (((msgData msg).add k).add 8) = .ok (u64Of fun i => msg.getD (k + (8 + i)) 0) :=
    u64_ok fun i below => bytes (8 + i) (by omega)
  have dopp : u32 (((msgData msg).add k).add 16) = .ok (u32Of fun i => msg.getD (k + (16 + i)) 0) :=
    u32_ok fun i below => bytes (16 + i) (by omega)
  have lockTime : u16 (((msgData msg).add k).add 24) =
      .ok (u16Of fun i => msg.getD (k + (24 + i)) 0) :=
    u16_ok fun i below => bytes (24 + i) (by omega)
  rw [readMeasBlock, psr, cp, dopp, lockTime]
  simp (disch := omega) only [ok_bind, bytes, pure_eq]
  rfl

theorem sigFreq_ok {sid : Nat} (pos : sid ≠ 0) (slot : sid ≤ nFreq) (sys : Nat) (fcn : Int) :
    ∃ freq, sigFreq sys sid fcn = .ok freq := by
  unfold nFreq at slot
  have index : predIndex sid = sid - 1 := predIndex_eq (Nat.pos_of_ne_zero pos) (by unfold maxSat; omega)
  rw [sigFreq, index, readAt_ok (by omega), readAt_ok (by omega), readAt_ok (by omega),
    readAt_ok (by omega)]
  by_cases glo : sys = sysGlo
  · rw [if_pos glo]; exact ⟨_, rfl⟩
  rw [if_neg glo]
  by_cases bds : sys = sysBds
  · rw [if_pos bds]; exact ⟨_, rfl⟩
  · rw [if_neg bds]; exact ⟨_, rfl⟩

def MeasState.Indexed (s : MeasState) : Prop :=
  ∀ sat idx, s.sat2idx sat = some idx → idx < s.obsMeas.length

theorem measPlace_inBounds {s : MeasState} (indexed : s.Indexed) {obsMeas : List Obs} {idx sid : Nat}
    (within : idx < obsMeas.length) (kept : s.obsMeas.length ≤ obsMeas.length) (pos : sid ≠ 0)
    (slot : sid ≤ nFreq) (st : Processor) (sat sys : Nat) (fcn : Int) (push : Obs → ℚ → Obs) :
    InBounds MeasState.Indexed (do
      let obs ← loadAt obsMeas idx
      let freq ← sigFreq sys sid fcn
      pure {
        st
        obsMeas := obsMeas.set idx (push obs freq)
        sat2idx := Function.update s.sat2idx sat (some idx) }) := by
  obtain ⟨freq, computed⟩ := sigFreq_ok pos slot sys fcn
  rw [loadAt_getElem within, ok_bind, computed, ok_bind]
  intro other i found
  dsimp only at found
  rw [List.length_set]
  by_cases same : other = sat
  · rw [same, Function.update_self] at found
    exact Option.some.inj found ▸ within
  · rw [Function.update_of_ne same] at found
    exact (indexed other i found).trans_le kept

theorem measBlock_inBounds (time : GTime) (b : MeasBlock) {s : MeasState} (indexed : s.Indexed) :
    InBounds MeasState.Indexed (measBlock time b s) := by
  rw [measBlock]
  dsimp only
  refine .ite (fun _ => indexed) fun _ => .ite (fun _ => indexed) fun _ =>
    .ite (fun _ => indexed) fun slot => ?_
  obtain ⟨pos, le⟩ := not_or.mp slot
  cases found : s.sat2idx (satNo (ubxSys b.gnssId.toNat) b.svid.toNat) with
  | some idx =>
      exact measPlace_inBounds indexed (indexed _ _ found) le_rfl pos (by omega) _ _ _ _ _
  | none =>
      exact measPlace_inBounds indexed (by simp) (by simp) pos (by omega) _ _ _ _ _

theorem measBlocks_inBounds {numMeas : Nat} (long : 24 + 32 * numMeas ≤ msg.length) (time : GTime)
    {s : MeasState} (indexed : s.Indexed) :
    InBounds MeasState.Indexed (measBlocks ((msgData msg).add 6) numMeas time s) := by
  refine InBounds.forRange (fun _ (s : MeasState) => s.Indexed) indexed fun i s _ upper indexed => ?_
  rw [BytePtr.add_add]
  rw [readMeasBlock_eq (show 6 + (16 + 32 * i) + 31 ≤ msg.length by omega), ok_bind]
  exact measBlock_inBounds time _ indexed

theorem gpst2timeDouble_inBounds (week : UInt32) (tow : Ieee) :
    InBounds (fun _ => True) (gpst2timeDouble week tow) := by
  cases tow <;> trivial

theorem parseMeasMsg_inBounds (st : Processor) (msg : List UInt8) :
    InBounds (fun _ => True) (parseMeasMsg st msg) := by
  rw [parseMeasMsg]
  refine .ite (fun _ => trivial) fun long => ?_
  obtain ⟨tow, hTow⟩ := load64_ok (show 6 + 8 ≤ msg.length by omega)
  obtain ⟨week, hWeek⟩ := load16_ok (show 6 + 8 + 2 ≤ msg.length by omega)
  obtain ⟨numMeas, hNum⟩ := loadByte_ok (show 6 + 11 < msg.length by omega)
  dsimp only
  rw [hTow, ok_bind, BytePtr.add_add, hWeek, ok_bind,
    show (msgData msg).add 6 11 = .ok numMeas from hNum, ok_bind]
  refine .ite (fun _ => trivial) fun enough => .ite (fun _ => trivial) fun _ => ?_
  refine (gpst2timeDouble_inBounds _ _).bind fun time _ => ?_
  refine (measBlocks_inBounds (by omega) time fun _ _ none => by cases none).bind fun s _ => ?_
  exact .ite (fun _ => trivial) fun _ => trivial

/-! ## Time pulse and position -/

theorem parseTimePulse_ok (msg : List UInt8) : ∃ tp, parseTimePulse msg = .ok tp := by
  rw [parseTimePulse]
  by_cases length : msg.length ≠ 24
  · rw [if_pos length]
    exact ⟨none, rfl⟩
  obtain ⟨towMs, h0⟩ := load32_ok (show 6 + 4 ≤ msg.length by omega)
  obtain ⟨towSubMs, h4⟩ := load32_ok (show 6 + 4 + 4 ≤ msg.length by omega)
  obtain ⟨week, h12⟩ := load16_ok (show 6 + 12 + 2 ≤ msg.length by omega)
  obtain ⟨flags, h14⟩ := loadByte_ok (show 6 + 14 < msg.length by omega)
  obtain ⟨refInfo, h15⟩ := loadByte_ok (show 6 + 15 < msg.length by omega)
  rw [if_neg length]
  dsimp only
  rw [h0, ok_bind, BytePtr.add_add, h4, ok_bind, BytePtr.add_add, h12, ok_bind,
    show (msgData msg).add 6 14 = .ok flags from h14, ok_bind,
    show (msgData msg).add 6 15 = .ok refInfo from h15]
  exact ⟨_, rfl⟩

theorem parseTimePulse_inBounds (msg : List UInt8) :
    InBounds (fun _ => True) (parseTimePulse msg) := by
  obtain ⟨tp, ran⟩ := parseTimePulse_ok msg
  exact .of_ok ⟨tp, ran, trivial⟩

theorem parsePvt_ok {st : Processor} {msg : List UInt8}
    (length : msg.length = ubxMsgHeaderLen + ubxPvtPayloadLen + 2)
    (referenced : st.currTime.time ≠ 0) :
    ∃ pvt, parsePvt st msg = .ok (some pvt) ∧
      pvt.time = pvtTime st.currTime (u32Of fun k => msg.getD (6 + k) 0) := by
  have long : msg.length = 100 := length
  have bytes : ∀ j < 94, (msgData msg).add 6 j = .ok (msg.getD (6 + j) 0) := fun j below =>
    msgData_ok (by omega)
  have words : ∀ j < 90, u32 (((msgData msg).add 6).add j) =
      .ok (u32Of fun i => msg.getD (6 + j + i) 0) := fun j below =>
    BytePtr.add_add _ _ _ ▸ u32_ok fun _ _ => msgData_ok (by omega)
  have itow : u32 ((msgData msg).add 6) = .ok (u32Of fun k => msg.getD (6 + k) 0) :=
    u32_ok fun i below => bytes i (by omega)
  obtain ⟨pDop, h76⟩ := load16_ok (show 6 + 76 + 2 ≤ msg.length by omega)
  rw [← BytePtr.add_add] at h76
  rw [parsePvt, if_neg (not_not.mpr length), if_neg referenced]
  dsimp only
  rw [itow, ok_bind]
  simp (disch := omega) only [i32, ok_bind, bytes, words, h76, pure_eq]
  exact ⟨_, rfl, rfl⟩

theorem parsePvt_returns (st : Processor) (msg : List UInt8) : ∃ pvt, parsePvt st msg = .ok pvt := by
  by_cases length : msg.length = ubxMsgHeaderLen + ubxPvtPayloadLen + 2
  · by_cases unset : st.currTime.time = 0
    · rw [parsePvt, if_neg (not_not.mpr length), if_pos unset]
      exact ⟨none, rfl⟩
    · obtain ⟨pvt, ran, _⟩ := parsePvt_ok length unset
      exact ⟨some pvt, ran⟩
  · rw [parsePvt, if_pos length]
    exact ⟨none, rfl⟩

theorem parsePvt_inBounds (st : Processor) (msg : List UInt8) :
    InBounds (fun _ => True) (parsePvt st msg) := by
  obtain ⟨pvt, ran⟩ := parsePvt_returns st msg
  exact .of_ok ⟨pvt, ran, trivial⟩

/-! ## GLONASS strings -/

/-- The parities of a string never reach the outer `cs`. -/
theorem testGlostr_accepts {data : BytePtr} (reads : ∀ j < 11, ∃ b, data j = .ok b) :
    testGlostr data = .ok 1 := by
  obtain ⟨n, ran, none⟩ := forRange_invariant
    (fun i (n : Int) => do
      let _ ← forRange (fun j cs => do
        let b ← data j
        let mask ← readAt maskHamming i
        let bits ← readAt mask j
        let parity ← readAt xor8bit (b &&& bits).toNat
        pure (cs ^^^ parity.toUInt32)) 0 11 (0 : UInt32)
      pure (if (0 : UInt8) ≠ 0 then n + 1 else n)) (fun _ n => n = 0) 0 8 0 rfl <| by
      rintro i n _ row rfl
      obtain ⟨cs, ran, _⟩ := forRange_invariant
        (fun j (cs : UInt32) => do
          let b ← data j
          let mask ← readAt maskHamming i
          let bits ← readAt mask j
          let parity ← readAt xor8bit (b &&& bits).toNat
          pure (cs ^^^ parity.toUInt32)) (fun _ _ => True) 0 11 0 trivial <| by
          intro j cs _ column _
          obtain ⟨b, read⟩ := reads j (by omega)
          rw [read, ok_bind, readAt_ok (show i < 8 by omega), ok_bind,
            readAt_ok (show j < 12 by omega), ok_bind, readAt_ok (UInt8.toNat_lt _)]
          exact ⟨_, rfl, trivial⟩
      exact ⟨_, by rw [ran]; rfl, rfl⟩
  rw [testGlostr, ran, none]
  rfl

theorem gloFields_ok {buff : BytePtr} {bit : Nat → Bool} (view : Exposes buff bit 380)
    (eph : GloEphem) : ∃ fields, gloFields buff eph = .ok fields := by
  simp (disch := omega) only [gloFields, gloAxis, getbitu_ok view, getbitg_ok view, ok_bind, pure_eq]
  exact ⟨_, rfl⟩

theorem decodeGloEphem_inBounds (st : Processor) {eph : GloEphem} (valid : ValidSat eph.sat) :
    InBounds (fun _ => True) (decodeGloEphem st eph) := by
  obtain ⟨row, flags, holds⟩ := st.holds_exists valid
  obtain ⟨⟨l, e⟩, read⟩ := gloFields_ok (exposes_readAt row) eph
  rw [decodeGloEphem, holds.row, ok_bind, read, ok_bind]
  exact .ite (fun _ => trivial) fun _ => .ite (fun _ => trivial) fun _ => trivial

theorem flushGlo_ok (row : Row) (buff : Vector UInt8 64) :
    ∃ row', flushGlo row buff = .ok row' := by
  obtain ⟨cleared, ran, _⟩ := clearRow_ok row (show 40 ≤ 380 by omega)
  rw [flushGlo, readAt_ok (show 150 < 380 by omega), ok_bind, readAt_ok (show 12 < 64 by omega),
    ok_bind, readAt_ok (show 151 < 380 by omega), ok_bind, readAt_ok (show 13 < 64 by omega), ok_bind,
    ran, ok_bind, ok_bind, writeAt_ok (show 150 < 380 by omega), ok_bind, ok_bind,
    writeAt_ok (show 151 < 380 by omega)]
  by_cases changed : row[150] ≠ buff[12] ∨ row[151] ≠ buff[13]
  · exact ⟨_, if_pos changed⟩
  · exact ⟨_, if_neg changed⟩

/-- String `m` goes to bytes `10 * (m - 1)` to `10 * m - 1`, below the frame id at 150. -/
theorem storeGlo_ok (row : Row) (buff : Vector UInt8 64) {m : Nat} (string : m ≤ 15) :
    ∃ row', storeGlo row m buff = .ok row' := by
  obtain ⟨row', ran, _⟩ := forRange_invariant
    (fun i (row : Row) => do writeAt row ((m - 1) * 10 + i) (← readAt buff i))
    (fun _ _ => True) 0 10 row trivial <| by
      intro i now _ upper _
      rw [readAt_ok (show i < 64 by omega), ok_bind, writeAt_ok (by omega)]
      exact ⟨_, rfl, trivial⟩
  exact ⟨row', ran⟩

theorem decodeGloSubframe_inBounds (st : Processor) (msg : List UInt8) {eph : GloEphem}
    (valid : ValidSat eph.sat) :
    InBounds (fun _ => True) (decodeGloSubframe st msg (some eph)) := by
  rw [decodeGloSubframe]
  refine .ite (fun _ => trivial) fun long => ?_
  obtain ⟨slot, svid⟩ := loadByte_ok (show 9 < msg.length by omega)
  obtain ⟨buff, stored, _⟩ := navBytes_ok (Vector.replicate 64 0)
    (show 14 + 4 * 4 ≤ msg.length by omega) (show 4 * 4 ≤ 64 by omega)
  have tested : testGlostr (readAt buff) = .ok 1 :=
    testGlostr_accepts fun j h => ⟨_, readAt_ok (show j < 64 by omega)⟩
  rw [deref, ok_bind, svid, ok_bind]
  have valid : ValidSat ({ eph with freqo := (slot.toNat : Int) - 7 } : GloEphem).sat := valid
  generalize ({ eph with freqo := (slot.toNat : Int) - 7 } : GloEphem) = eph at valid ⊢
  rw [stored, ok_bind, tested, ok_bind]
  refine .ite (fun _ => trivial) fun _ => ?_
  rw [getbitu_ok (exposes_readAt buff) (by omega), ok_bind]
  refine .ite (fun _ => trivial) fun number => ?_
  obtain ⟨row, flags, holds⟩ := st.holds_exists valid
  obtain ⟨flushed, flush⟩ := flushGlo_ok row buff
  obtain ⟨row', store⟩ := storeGlo_ok flushed buff
    (UInt32.le_iff_toNat_le.mp (UInt32.not_lt.mp (not_or.mp number).2))
  rw [holds.row, ok_bind, flush, ok_bind, store, ok_bind, Processor.setRow_ok valid holds, ok_bind]
  exact .ite (fun _ => trivial) fun _ =>
    (decodeGloEphem_inBounds _ valid).bind fun _ _ => trivial

/-! ## Subframes -/

section
variable {ephem : Ephem} (valid : ValidSat ephem.sat) (st : Processor) (msg : List UInt8)
include valid

theorem decodeGpsSubframe_inBounds : InBounds (fun _ => True) (decodeGpsSubframe st msg ephem) := by
  obtain ⟨row, flags, holds⟩ := st.holds_exists valid
  obtain ⟨rc, e, row', time, set, _, _, _, ran⟩ := decodeGpsSubframe_ok ephem valid msg row flags
  rw [ran st holds]
  trivial

theorem decodeGalSubframe_inBounds : InBounds (fun _ => True) (decodeGalSubframe st msg ephem) := by
  obtain ⟨row, flags, holds⟩ := st.holds_exists valid
  obtain ⟨rc, e, row', time, set, _, _, _, ran⟩ := decodeGalSubframe_ok ephem valid msg row flags
  rw [ran st holds]
  trivial

theorem decodeBdsSubframe_inBounds (ionoParams : List ℚ) :
    InBounds (fun _ => True) (decodeBdsSubframe st msg ephem ionoParams) := by
  obtain ⟨row, flags, holds⟩ := st.holds_exists valid
  by_cases igso : IsD1 ephem.sat
  · obtain ⟨rc, e, ionoParams', row', flags', time, set, _, _, _, ran⟩ :=
      decodeBdsSubframe_d1_ok ephem valid igso msg ionoParams row flags
    rw [ran st holds]
    trivial
  · obtain ⟨rc, e, row', time, set, _, _, _, ran⟩ :=
      decodeBdsSubframe_d2_ok ephem valid igso msg ionoParams row flags
    rw [ran st holds]
    trivial

end

theorem parseSubframe_inBounds (long : 8 ≤ msg.length) (st : Processor) (ionoParams : List ℚ) :
    InBounds (fun _ => True) (parseSubframe st msg ionoParams) := by
  by_cases none : frameSat msg = 0
  · rw [parseSubframe_none long none]
    trivial
  by_cases glo : frameSys msg = sysGlo
  · rw [parseSubframe_glonass long none glo]
    split <;> trivial
  · obtain ⟨row, flags, holds⟩ := st.holds_exists (frameSat_valid none)
    obtain ⟨e, ionoParams', row', flags', time, set, _, _, _, ran⟩ :=
      parseSubframe_ok long none glo ionoParams row flags
    rw [ran st holds]
    trivial

/-! ## Every message -/

theorem publishEphemeris_inBounds (h : UbloxRosHandler) (ephem : Option EphemObject) :
    InBounds (fun _ => True) (h.publishEphemeris ephem) := by
  cases ephem with
  | none => trivial
  | some obj =>
      rw [UbloxRosHandler.publishEphemeris]
      refine .ite (fun _ => trivial) fun _ => .ite (fun _ => trivial) fun _ =>
        .ite (fun _ => ?_) fun _ => ?_
      · cases obj <;> trivial
      · cases obj <;> trivial

theorem processData_inBounds (handler : Option UbloxRosHandler) (st : Processor) (msg : List UInt8) :
    InBounds (fun _ => True) (processData handler st msg) := by
  obtain ⟨verified, checked⟩ := verifyMsg_ok msg
  rw [processData, checked, ok_bind]
  refine .ite (fun _ => trivial) fun passed => ?_
  have long : 8 ≤ msg.length := verifyMsg_length (by simpa [checked] using passed)
  obtain ⟨type, read⟩ := msgType_ok (show 4 ≤ msg.length by omega)
  rw [read, ok_bind]
  refine .ite (fun _ => ?_) fun _ => .ite (fun _ => ?_) fun _ => .ite (fun _ => ?_) fun _ =>
    .ite (fun _ => ?_) fun _ => trivial
  · refine (parseMeasMsg_inBounds st msg).bind fun _ _ => ?_
    cases handler <;> trivial
  · refine (parseSubframe_inBounds long st []).bind fun parsed _ => ?_
    obtain ⟨ephem, next, ionoParams⟩ := parsed
    cases handler with
    | none => trivial
    | some h =>
        refine (publishEphemeris_inBounds h ephem).bind fun _ _ => ?_
        cases ephem <;> trivial
  · exact (parseTimePulse_inBounds msg).bind fun _ _ => trivial
  · exact (parsePvt_inBounds st msg).bind fun _ _ => trivial

/-- No access that a message leads to is out of bounds, whichever function makes it. -/
structure AccessesInBounds (st : Processor) (msg : List UInt8) : Prop where
  process : ∀ handler, InBounds (fun _ => True) (processData handler st msg)
  checksum : InBounds (fun _ => True) (checkChecksum (msgData msg) msg.length)
  meas : InBounds (fun _ => True) (parseMeasMsg st msg)
  /-- Also where the time of week is no number. -/
  measBlocks : ∀ time numMeas, 24 + 32 * numMeas ≤ msg.length → InBounds (fun _ => True)
    (measBlocks ((msgData msg).add 6) numMeas time { st, obsMeas := [], sat2idx := fun _ => none })
  subframe : ∀ ionoParams, InBounds (fun _ => True) (parseSubframe st msg ionoParams)
  timePulse : InBounds (fun _ => True) (parseTimePulse msg)
  pvt : InBounds (fun _ => True) (parsePvt st msg)
  gps : ∀ ephem : Ephem, ValidSat ephem.sat →
    InBounds (fun _ => True) (decodeGpsSubframe st msg ephem)
  bds : ∀ (ephem : Ephem) ionoParams, ValidSat ephem.sat →
    InBounds (fun _ => True) (decodeBdsSubframe st msg ephem ionoParams)
  gal : ∀ ephem : Ephem, ValidSat ephem.sat →
    InBounds (fun _ => True) (decodeGalSubframe st msg ephem)
  glo : ∀ ephem : GloEphem, ValidSat ephem.sat →
    InBounds (fun _ => True) (decodeGloSubframe st msg (some ephem))

theorem verified_accessesInBounds (st : Processor) {msg : List UInt8}
    (verified : verifyMsg msg = .ok true) : AccessesInBounds st msg where
  process handler := processData_inBounds handler st msg
  checksum := .of_ok <| by
    have long := verifyMsg_length verified
    exact ⟨_, checkChecksum_eq (show 4 ≤ msg.length by omega), trivial⟩
  meas := parseMeasMsg_inBounds st msg
  measBlocks time numMeas long :=
    (measBlocks_inBounds long time fun _ _ none => by cases none).mono fun _ _ => trivial
  subframe := parseSubframe_inBounds (verifyMsg_length verified) st
  timePulse := parseTimePulse_inBounds msg
  pvt := parsePvt_inBounds st msg
  gps _ valid := decodeGpsSubframe_inBounds valid st msg
  bds _ ionoParams valid := decodeBdsSubframe_inBounds valid st msg ionoParams
  gal _ valid := decodeGalSubframe_inBounds valid st msg
  glo _ valid := decodeGloSubframe_inBounds st msg valid

/-- The frame that completes a set: the row of the satellite is written, read back and decoded. -/
theorem verified_accessesInBounds_set :
    ∃ st, Reachable st ∧ (∃ e st', parseSubframe st gpsSetMsg3 [] = .ok (some (.ephem e), st', []) ∧
        e.ttr.time = 1707005400) ∧
      verifyMsg gpsSetMsg3 = .ok true ∧ AccessesInBounds st gpsSetMsg3 := by
  have decoded : (do
      let st ← feed none Processor.init [gpsSetMsg1, gpsSetMsg2]
      let parsed ← parseSubframe st gpsSetMsg3 []
      pure (parsed.1.map fun obj : EphemObject => (obj.asEphem.map fun e : Ephem => e.ttr.time),
        parsed.2.2)) = .ok (some (some 1707005400), []) := by decide +kernel
  obtain ⟨st, fed, rest⟩ := bind_eq_ok.mp decoded
  obtain ⟨⟨obj, st', ionoParams⟩, ran, rest⟩ := bind_eq_ok.mp rest
  obtain ⟨some, none⟩ := Prod.mk.inj (Except.ok.inj rest)
  obtain ⟨obj, rfl, found⟩ := Option.map_eq_some_iff.mp some
  obtain rfl : ionoParams = [] := none
  cases obj with
  | gloEphem e => cases found
  | ephem e =>
      exact ⟨st, ⟨Option.none, _, fed⟩, ⟨e, st', ran, Option.some.inj found⟩, by decide +kernel,
        verified_accessesInBounds st (by decide +kernel)⟩

end GnssParser
