import GnssParser.Proof.ReferenceTime

/-!
# Sets across the end of the week

The sequence checks compare raw counters, which restart at the end of the week.
-/

namespace GnssParser
open Checked BitView

/-- The decoders that check the time tags of a set. -/
inductive TaggedDecoder where
  | gps
  | bdsD1
  | bdsD2

namespace TaggedDecoder

def code (d : TaggedDecoder) (st : Processor) (ephem : Ephem) (ionoParams : List ℚ) : Checked Int :=
  match d with
  | gps => do
      let (rc, _, _) ← decodeGpsEphem st ephem
      pure rc
  | bdsD1 => do
      let (rc, _, _, _) ← decodeBdsD1Ephem st ephem ionoParams
      pure rc
  | bdsD2 => do
      let (rc, _, _) ← decodeBdsD2Ephem st ephem
      pure rc

def modulus : TaggedDecoder → Nat
  | gps => 100800
  | _ => 604800

def offsets : TaggedDecoder → List Nat
  | gps => [0, 1, 2]
  | bdsD1 => [0, 6, 12]
  | bdsD2 => [0, 6, 9, 12, 15, 18, 21, 24, 27]

def lastOffset : TaggedDecoder → Nat
  | gps => 2
  | bdsD1 => 12
  | bdsD2 => 27

def tags (d : TaggedDecoder) (row : Row) : List Nat :=
  match d with
  | gps => [0, 1, 2].map fun i => gpsField row i 24 17
  | bdsD1 => [0, 1, 2].map (bdsSow row)
  | bdsD2 => [0, 2, 3, 4, 5, 6, 7, 8, 9].map (bdsSow row)

/-- The tags are consecutive on the weekly clock. -/
def Consecutive (d : TaggedDecoder) (row : Row) (start : Nat) : Prop :=
  d.tags row = d.offsets.map fun offset => (start + offset) % d.modulus

def OtherwiseConsistent (d : TaggedDecoder) (row : Row) : Prop :=
  match d with
  | gps => (∀ i < 3, gpsField row i 43 3 = i + 1) ∧ GpsIssue row
  | bdsD1 => (∀ i < 3, bdsField row i 15 3 = i + 1) ∧ d1Toc row = d1Toe row
  | bdsD2 => (∀ i < 10, i ≠ 1 → bdsField row i 42 4 = i + 1) ∧ d2Toc row = d2Toe row

def Passes (d : TaggedDecoder) (row : Row) : Prop :=
  match d with
  | gps => GpsConsistent row
  | bdsD1 => D1Consistent row
  | bdsD2 => D2Consistent row

theorem code_eq_zero_iff (d : TaggedDecoder) {st : Processor} {ephem : Ephem} {row : Row}
    (ionoParams : List ℚ) (valid : ValidSat ephem.sat) (buffered : st.row ephem.sat = .ok row) :
    d.code st ephem ionoParams = .ok 0 ↔ d.Passes row := by
  obtain ⟨row', flags, holds⟩ := st.holds_exists valid
  obtain rfl : row' = row := Except.ok.inj (holds.row.symm.trans buffered)
  cases d with
  | gps =>
      obtain ⟨rc, e, time, _, _, zero, _, ran⟩ := decodeGpsEphem_ok valid row'
      rw [code, ran st flags holds, Passes, ← zero]
      simp
  | bdsD1 =>
      obtain ⟨rc, e, iono, time, _, _, zero, _, _, ran⟩ := decodeBdsD1Ephem_ok valid row' ionoParams
      rw [code, ran st row' flags (.refl row') holds, Passes, ← zero]
      simp
  | bdsD2 =>
      obtain ⟨rc, e, time, _, _, zero, _, _, ran⟩ := decodeBdsD2Ephem_ok valid row'
      rw [code, ran st flags holds, Passes, ← zero]
      simp

theorem inside_of_mod {start k m : Nat} (early : start < m)
    (rises : (start + k) % m = (start + 0) % m + k) : start + k < m := by
  rw [Nat.add_zero, Nat.mod_eq_of_lt early] at rises
  rw [← rises]
  exact Nat.mod_lt _ (Nat.zero_lt_of_lt early)

theorem passes_iff (d : TaggedDecoder) {row : Row} {start : Nat} (early : start < d.modulus)
    (others : d.OtherwiseConsistent row) (clock : d.Consecutive row start) :
    d.Passes row ↔ start + d.lastOffset < d.modulus := by
  have plain : start + d.lastOffset < d.modulus → ∀ offset ≤ d.lastOffset,
      (start + offset) % d.modulus = start + offset := fun inside offset among =>
    Nat.mod_eq_of_lt ((Nat.add_le_add_left among start).trans_lt inside)
  cases d with
  | gps =>
      simp only [Consecutive, tags, offsets, modulus, List.map_cons, List.map_nil, List.cons.injEq,
        and_true] at clock
      obtain ⟨z0, z1, z2⟩ := clock
      constructor
      · intro passed
        have second : gpsField row 1 24 17 = gpsField row 0 24 17 + 1 :=
          passed.ordered.zCounts 0 (by decide)
        have third : gpsField row 2 24 17 = gpsField row 1 24 17 + 1 :=
          passed.ordered.zCounts 1 (by decide)
        rw [second, z2, z0] at third
        exact inside_of_mod early third
      · intro inside
        have same := plain inside
        simp only [modulus, lastOffset] at same
        refine ⟨⟨others.1, fun i h => ?_⟩, others.2⟩
        obtain rfl | rfl : i = 0 ∨ i = 1 := by omega
        · rw [z0, z1, same 0 (by decide), same 1 (by decide)]
        · rw [z1, z2, same 1 (by decide), same 2 (by decide)]
  | bdsD1 =>
      simp only [Consecutive, tags, offsets, modulus, List.map_cons, List.map_nil, List.cons.injEq,
        and_true] at clock
      obtain ⟨s0, s1, s2⟩ := clock
      constructor
      · intro passed
        have second : bdsSow row 1 = bdsSow row 0 + 6 := passed.sows 0 (by decide)
        have third : bdsSow row 2 = bdsSow row 1 + 6 := passed.sows 1 (by decide)
        rw [second, s2, s0] at third
        exact inside_of_mod early third
      · intro inside
        have same := plain inside
        simp only [modulus, lastOffset] at same
        refine ⟨others.1, fun i h => ?_, others.2⟩
        obtain rfl | rfl : i = 0 ∨ i = 1 := by omega
        · rw [s0, s1, same 0 (by decide), same 6 (by decide)]
        · rw [s1, s2, same 6 (by decide), same 12 (by decide)]
  | bdsD2 =>
      simp only [Consecutive, tags, offsets, modulus, List.map_cons, List.map_nil, List.cons.injEq,
        and_true] at clock
      obtain ⟨s0, s2, s3, s4, s5, s6, s7, s8, s9⟩ := clock
      constructor
      · intro passed
        have steps : ∀ i < 9, 2 ≤ i → bdsSow row (i + 1) = bdsSow row i + 3 := passed.sows
        have last : bdsSow row 9 = bdsSow row 0 + 27 := by
          rw [steps 8 (by decide) (by decide), steps 7 (by decide) (by decide),
            steps 6 (by decide) (by decide), steps 5 (by decide) (by decide),
            steps 4 (by decide) (by decide), steps 3 (by decide) (by decide),
            steps 2 (by decide) (by decide), passed.start]
        rw [s9, s0] at last
        exact inside_of_mod early last
      · intro inside
        have same := plain inside
        simp only [modulus, lastOffset] at same
        refine ⟨others.1, ?_, fun i h later => ?_, others.2⟩
        · rw [s0, s2, same 0 (by decide), same 6 (by decide)]
        · obtain rfl | rfl | rfl | rfl | rfl | rfl | rfl :
              i = 2 ∨ i = 3 ∨ i = 4 ∨ i = 5 ∨ i = 6 ∨ i = 7 ∨ i = 8 := by
            clear s0 s2 s3 s4 s5 s6 s7 s8 s9 same plain
            omega
          · rw [s2, s3, same 6 (by decide), same 9 (by decide)]
          · rw [s3, s4, same 9 (by decide), same 12 (by decide)]
          · rw [s4, s5, same 12 (by decide), same 15 (by decide)]
          · rw [s5, s6, same 15 (by decide), same 18 (by decide)]
          · rw [s6, s7, same 18 (by decide), same 21 (by decide)]
          · rw [s7, s8, same 21 (by decide), same 24 (by decide)]
          · rw [s8, s9, same 24 (by decide), same 27 (by decide)]

end TaggedDecoder

/-- A set with consecutive tags is accepted exactly if it does not straddle the end of the week. -/
theorem week_rollover_iff (d : TaggedDecoder) (st : Processor) (ephem : Ephem) (row : Row)
    (ionoParams : List ℚ) (start : Nat) (valid : ValidSat ephem.sat)
    (buffered : st.row ephem.sat = .ok row) (early : start < d.modulus)
    (others : d.OtherwiseConsistent row) (clock : d.Consecutive row start) :
    d.code st ephem ionoParams = .ok 0 ↔ start + d.lastOffset < d.modulus := by
  rw [d.code_eq_zero_iff ionoParams valid buffered, d.passes_iff early others clock]

/-! ## GPS sets of zeros -/

/-- Byte `k` of subframes 1 to 3 from a z-count on, with every other field zero. -/
def gpsClockByte (start k : Nat) : UInt8 :=
  let z := (start + k / 30) % 100800
  if k / 30 < 3 then
    match k % 30 with
    | 3 => UInt8.ofNat (z / 512)
    | 4 => UInt8.ofNat (z / 2)
    | 5 => UInt8.ofNat (z % 2 * 128 + (k / 30 + 1) * 4)
    | _ => 0
  else 0

def gpsClockRow (start : Nat) : Row := Vector.ofFn fun k => gpsClockByte start k

theorem gpsClockRow_bit (start : Nat) : bufferBit (gpsClockRow start) =
    fun i => if i / 8 < 380 then byteBit (gpsClockByte start (i / 8)) (i % 8) else false := by
  funext i
  simp [bufferBit, gpsClockRow]

def gpsEphem : Ephem := { sat := satNo sysGps 1 }

theorem gpsEphem_valid : ValidSat gpsEphem.sat :=
  validSat_satNo (show satNo sysGps 1 ≠ 0 by decide)

def gpsClockState (start : Nat) : Processor :=
  Processor.init.update gpsEphem.sat (gpsClockRow start) 0 none

theorem gpsClockState_row (start : Nat) :
    (gpsClockState start).row gpsEphem.sat = .ok (gpsClockRow start) :=
  (Processor.init.holds_update gpsEphem_valid (gpsClockRow start) 0 none).row

theorem gpsClockRow_others {start : Nat} (among : start = 100797 ∨ start = 100799) :
    TaggedDecoder.gps.OtherwiseConsistent (gpsClockRow start) := by
  have ids : ∀ i < 3, gpsField (gpsClockRow start) i 43 3 = i + 1 := by
    simp only [gpsField, gpsClockRow_bit]
    obtain rfl | rfl := among <;> decide +kernel
  have issue : GpsIssue (gpsClockRow start) := by
    constructor <;> simp only [gpsField, gpsClockRow_bit] <;>
      obtain rfl | rfl := among <;> decide +kernel
  exact ⟨ids, issue⟩

theorem gpsClockRow_clock {start : Nat} (among : start = 100797 ∨ start = 100799) :
    TaggedDecoder.gps.Consecutive (gpsClockRow start) start := by
  simp only [TaggedDecoder.Consecutive, TaggedDecoder.tags, gpsField, gpsClockRow_bit]
  obtain rfl | rfl := among <;> decide +kernel

theorem week_rollover_iff_lastSet :
    TaggedDecoder.gps.code (gpsClockState 100797) gpsEphem [] = .ok 0 ↔ 100797 + 2 < 100800 :=
  week_rollover_iff .gps _ gpsEphem _ [] 100797 gpsEphem_valid (gpsClockState_row _) (by decide)
    (gpsClockRow_others (.inl rfl)) (gpsClockRow_clock (.inl rfl))

/-- The set from the last z-count of the week on is refused. -/
theorem week_rollover_lost :
    ¬ ∀ (d : TaggedDecoder) (st : Processor) (ephem : Ephem) (row : Row) (ionoParams : List ℚ)
      (start : Nat), ValidSat ephem.sat → st.row ephem.sat = .ok row → start < d.modulus →
      d.OtherwiseConsistent row → d.Consecutive row start → d.code st ephem ionoParams = .ok 0 := by
  intro accepts
  have others := gpsClockRow_others (show 100799 = 100797 ∨ 100799 = 100799 from .inr rfl)
  have clock := gpsClockRow_clock (show 100799 = 100797 ∨ 100799 = 100799 from .inr rfl)
  have accepted := accepts .gps _ gpsEphem _ [] 100799 gpsEphem_valid (gpsClockState_row _)
    (by decide) others clock
  have passed := (TaggedDecoder.gps.code_eq_zero_iff [] gpsEphem_valid (gpsClockState_row _)).mp
    accepted
  exact absurd ((TaggedDecoder.gps.passes_iff (by decide) others clock).mp passed) (by decide)

end GnssParser
