import GnssParser.Proof.RtcmFraming

/-!
# Bursts in RTCM frames

A frame and its check are a multiple of the generator, and no burst as short as the check leads from
one multiple to another.
-/

namespace GnssParser
open Checked

def frameBits (frame : List UInt8) : List Bool := frame.flatMap byteBits

/-- The CRC test of `drainRtcmLogBuffer`, on the bytes of one frame. -/
def crcMatches (frame : List UInt8) : Checked Bool := do
  let c0 ← loadAt frame (frame.length - 3)
  let c1 ← loadAt frame (frame.length - 2)
  let c2 ← loadAt frame (frame.length - 1)
  let expectedCrc := (c0.toUInt32 <<< 16) ||| (c1.toUInt32 <<< 8) ||| c2.toUInt32
  let computedCrc ← computeRtcmCrc24q (loadAt frame) (frame.length - 3)
  pure (computedCrc == expectedCrc)

theorem crcMatches_iff {frame : List UInt8} (long : 3 ≤ frame.length) :
    crcMatches frame = .ok true ↔ crc24qOf (frame.take (frame.length - 3)) =
      65536 * byteAt frame (frame.length - 3) + 256 * byteAt frame (frame.length - 2) +
        byteAt frame (frame.length - 1) := by
  obtain ⟨c0, read0, value0⟩ := loadAt_byteAt (l := frame) (i := frame.length - 3) (by omega)
  obtain ⟨c1, read1, value1⟩ := loadAt_byteAt (l := frame) (i := frame.length - 2) (by omega)
  obtain ⟨c2, read2, value2⟩ := loadAt_byteAt (l := frame) (i := frame.length - 1) (by omega)
  have computed := computeRtcmCrc24q_ok (l := frame) (k := frame.length - 3) (by omega)
  simp only [crcMatches, read0, read1, read2, computed, ok_bind, pure_eq]
  rw [← value0, ← value1, ← value2, ← crc_toNat, ← rtcmCrc_toNat, UInt32.toNat_inj,
    Except.ok.injEq, beq_iff_eq]

/-- A frame of the length its header gives is cut out of the buffer if and only if it passes. -/
theorem rtcmLook_emit_iff {frame : List UInt8} (preamble : byteAt frame 0 = 0xD3)
    (reserved : byteAt frame 1 / 4 = 0) (whole : frame.length = rtcmLength frame + 6) :
    rtcmLook frame = .emit frame.length ↔ crcMatches frame = .ok true := by
  have nonempty : frame ≠ [] := by
    rintro rfl
    simp at whole
  rw [crcMatches_iff (by omega), rtcmLook, if_neg nonempty, if_neg (not_not.mpr preamble),
    if_neg (by omega), if_neg (not_not.mpr reserved), whole]
  simp only [lt_irrefl, if_false]
  rw [show rtcmLength frame + 6 - 3 = rtcmLength frame + 3 by omega,
    show rtcmLength frame + 6 - 2 = rtcmLength frame + 4 by omega,
    show rtcmLength frame + 6 - 1 = rtcmLength frame + 5 by omega]
  split
  · next matched => simp [matched]
  · next other => simp [other]

/-! ## Frames as bit strings -/

theorem length_frameBits (frame : List UInt8) : (frameBits frame).length = 8 * frame.length := by
  induction frame with
  | nil => rfl
  | cons b frame ih =>
      rw [frameBits, List.flatMap_cons, List.length_append, length_byteBits, List.length_cons,
        ← frameBits, ih]
      omega

theorem frameBits_append (front back : List UInt8) :
    frameBits (front ++ back) = frameBits front ++ frameBits back := List.flatMap_append

theorem value_frameBits_cons (b : UInt8) (frame : List UInt8) :
    Crc.value (frameBits (b :: frame)) =
      b.toNat * 2 ^ (8 * frame.length) + Crc.value (frameBits frame) := by
  rw [frameBits, List.flatMap_cons, Crc.value_append, value_byteBits, ← frameBits,
    length_frameBits]

theorem frameBits_inj {a b : List UInt8} (same : frameBits a = frameBits b) : a = b := by
  induction a generalizing b with
  | nil =>
      have lengths := congrArg List.length same
      rw [length_frameBits, length_frameBits] at lengths
      exact (List.length_eq_zero_iff.mp (by simpa using lengths.symm)).symm
  | cons x a ih =>
      cases b with
      | nil =>
          have lengths := congrArg List.length same
          rw [length_frameBits, length_frameBits] at lengths
          simp at lengths
      | cons y b =>
          rw [frameBits, frameBits, List.flatMap_cons, List.flatMap_cons] at same
          obtain ⟨first, rest⟩ := List.append_inj same (by rw [length_byteBits, length_byteBits])
          have bytes := congrArg Crc.value first
          rw [value_byteBits, value_byteBits] at bytes
          rw [UInt8.toNat_inj.mp bytes, ih rest]

/-- The test accepts the multiples of the generator. -/
theorem crcMatches_iff_divide {frame : List UInt8} (long : 3 ≤ frame.length) :
    crcMatches frame = .ok true ↔ Crc.divide crc24qPoly 24 0 (frameBits frame) = 0 := by
  obtain ⟨c0, c1, c2, tail⟩ : ∃ c0 c1 c2, frame.drop (frame.length - 3) = [c0, c1, c2] :=
    List.length_eq_three.mp (by rw [List.length_drop]; omega)
  have parts := List.take_append_drop (frame.length - 3) frame
  have width : (frameBits [c0, c1, c2]).length = 24 := length_frameBits _
  have check : Crc.value (frameBits [c0, c1, c2]) =
      65536 * c0.toNat + 256 * c1.toNat + c2.toNat := by
    rw [value_frameBits_cons, value_frameBits_cons, value_frameBits_cons]
    simp [frameBits, Crc.value]
    omega
  have last : ∀ k, byteAt frame (frame.length - 3 + k) = byteAt [c0, c1, c2] k := by
    intro k
    rw [← tail, byteAt, byteAt, List.getD_eq_getElem?_getD, List.getD_eq_getElem?_getD,
      List.getElem?_drop]
  rw [crcMatches_iff long, show frame.length - 2 = frame.length - 3 + 1 by omega,
    show frame.length - 1 = frame.length - 3 + 2 by omega, last 1, last 2,
    show byteAt frame (frame.length - 3) = byteAt [c0, c1, c2] 0 from last 0]
  conv_rhs => rw [← parts, tail, frameBits_append]
  rw [Crc.divide_eq_zero_iff _ _ (by decide) _ width, check]
  rfl

/-- Of two frames that differ in a burst of at most 24 bits one fails the test. -/
theorem burst_detected {a b : List UInt8} (long : 3 ≤ a.length) (lengths : a.length = b.length)
    (differ : a ≠ b) (burst : Burst 24 (frameBits a) (frameBits b)) :
    ¬ (crcMatches a = .ok true ∧ crcMatches b = .ok true) := by
  rw [crcMatches_iff_divide long, crcMatches_iff_divide (lengths ▸ long)]
  rintro ⟨first, second⟩
  have odd : crc24qPoly.testBit 0 = true := by decide
  exact differ (frameBits_inj (Crc.eq_of_burst _ _ odd (by decide) burst (first.trans second.symm)))

/-- Message 1005, the position of a reference station. -/
def stationFrame : List UInt8 :=
  [0xD3, 0x00, 0x13, 0x3E, 0xD7, 0xD3, 0x02, 0x02, 0x98, 0x0E, 0xDE, 0xEF, 0x34, 0xB4, 0xBD, 0x62,
    0xAC, 0x09, 0x41, 0x98, 0x6F, 0x33, 0x36, 0x0B, 0x98]

/-- The frame with three bytes of its position inverted. -/
def damagedStation : List UInt8 :=
  [0xD3, 0x00, 0x13, 0x3E, 0xD7, 0xD3, 0x02, 0x02, 0x98, 0x0E, 0x21, 0x10, 0xCB, 0xB4, 0xBD, 0x62,
    0xAC, 0x09, 0x41, 0x98, 0x6F, 0x33, 0x36, 0x0B, 0x98]

theorem burst_detected_station :
    crcMatches stationFrame = .ok true ∧ crcMatches damagedStation ≠ .ok true ∧
      rtcmLook stationFrame = .emit 25 ∧ rtcmLook damagedStation ≠ .emit 25 := by
  have cut : rtcmLook stationFrame = .emit 25 ↔ crcMatches stationFrame = .ok true :=
    rtcmLook_emit_iff (by decide) (by decide) (by decide)
  have cut' : rtcmLook damagedStation = .emit 25 ↔ crcMatches damagedStation = .ok true :=
    rtcmLook_emit_iff (by decide) (by decide) (by decide)
  have passes : crcMatches stationFrame = .ok true := by decide +kernel
  suffices fails : crcMatches damagedStation ≠ .ok true from
    ⟨passes, fails, cut.mpr passes, mt cut'.mp fails⟩
  intro damaged
  refine burst_detected (a := stationFrame) (b := damagedStation) (by decide) rfl (by decide)
    ⟨rfl, 80, fun i differ => ?_⟩ ⟨passes, damaged⟩
  have among : ∀ i < 200, (frameBits stationFrame)[i]? ≠ (frameBits damagedStation)[i]? →
      80 ≤ i ∧ i < 80 + 24 := by decide +kernel
  refine among i ?_ differ
  by_contra high
  have past : ∀ l : List UInt8, l.length = 25 → (frameBits l)[i]? = none := fun l length =>
    List.getElem?_eq_none (by rw [length_frameBits, length]; omega)
  exact differ (by rw [past _ rfl, past _ rfl])

end GnssParser
