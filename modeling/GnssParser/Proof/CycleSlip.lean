import GnssParser.Proof.MeasBlocks

/-!
# Cycle slips

What the loss of lock indicators of a run say of its blocks.
-/

namespace GnssParser
open Checked

/-- The indicator of a block after others: bit 0 for a slip, bit 1 for an unresolved half cycle. -/
structure LliFor (hist : List MeasBlock) (b : MeasBlock) (lli : UInt8) : Prop where
  slip : lli.toNat.testBit 0 ↔ ∃ p, latest hist b = some p ∧
    (b.lockTime = 0 ∨ b.lockTime < p.lockTime ∨
      p.tckSta.toNat.testBit 1 ≠ b.tckSta.toNat.testBit 1 ∨
      p.tckSta.toNat.testBit 3 ≠ b.tckSta.toNat.testBit 3)
  halfCycle : lli.toNat.testBit 1 ↔ b.tckSta.toNat.testBit 2 = false
  noOther : ∀ k, 2 ≤ k → lli.toNat.testBit k = false

theorem masked_iff {m : UInt8} {k : Nat} (mask : m.toNat = 2 ^ k) (x : UInt8) :
    x &&& m = 0 ↔ x.toNat.testBit k = false := by
  rw [← UInt8.toNat_inj, UInt8.toNat_and, mask, Nat.and_two_pow, UInt8.toNat_zero]
  cases x.toNat.testBit k <;> simp

theorem low_testBit (x : UInt8) {k : Nat} (low : k < 4) :
    (x &&& 0x0F).toNat.testBit k = x.toNat.testBit k := by
  rw [UInt8.toNat_and, Nat.testBit_and]
  have set : ∀ k < 4, Nat.testBit (0x0F : UInt8).toNat k = true := by decide
  rw [set k low, Bool.and_true]

theorem lockTimes_lt (a b : UInt16) : (a.toNat : ℚ) * 1e-3 < (b.toNat : ℚ) * 1e-3 ↔ a < b := by
  rw [mul_lt_mul_iff_left₀ (by norm_num), Nat.cast_lt, UInt16.lt_iff_toNat_lt]

theorem slipDetected_iff (p b : MeasBlock) :
    slipDetected (some p.track) b.lockTime b.track.1 b.track.2 = true ↔
      b.lockTime = 0 ∨ b.lockTime < p.lockTime ∨
        p.tckSta.toNat.testBit 1 ≠ b.tckSta.toNat.testBit 1 ∨
        p.tckSta.toNat.testBit 3 ≠ b.tckSta.toNat.testBit 3 := by
  have phase : ∀ x : UInt8, x &&& 0x0F &&& 0x02 = 0 ↔ x.toNat.testBit 1 = false := by
    intro x
    rw [masked_iff (k := 1) rfl, low_testBit x (by decide)]
  have halfCycle : (p.tckSta &&& 0x0F ^^^ b.tckSta &&& 0x0F) &&& 0x08 = 0 ↔
      p.tckSta.toNat.testBit 3 = b.tckSta.toNat.testBit 3 := by
    rw [masked_iff (k := 3) rfl, UInt8.toNat_xor, Nat.testBit_xor, low_testBit _ (by decide),
      low_testBit _ (by decide), bne_eq_false_iff_eq]
  rw [slipDetected]
  simp [MeasBlock.track, phase, halfCycle, lockTimes_lt, or_assoc]

theorem flags_testBit (slip halfv : Bool) :
    let lli := (if slip then lliSlip else 0) ||| (if !halfv then lliHalfc else 0)
    lli.toNat.testBit 0 = slip ∧ lli.toNat.testBit 1 = !halfv ∧
      ∀ k, 2 ≤ k → lli.toNat.testBit k = false := by
  have small : ((if slip then lliSlip else 0) ||| (if !halfv then lliHalfc else 0)).toNat < 2 ^ 2 := by
    cases slip <;> cases halfv <;> decide
  refine ⟨?_, ?_, fun k above => Nat.testBit_lt_two_pow ?_⟩
  · cases slip <;> cases halfv <;> rfl
  · cases slip <;> cases halfv <;> rfl
  · exact lt_of_lt_of_le small (Nat.pow_le_pow_right (by decide) above)

theorem lliAfter_spec (hist : List MeasBlock) (b : MeasBlock) : LliFor hist b (lliAfter hist b) := by
  obtain ⟨slip, halfCycle, other⟩ := flags_testBit
    (slipDetected ((latest hist b).map MeasBlock.track) b.lockTime b.track.1 b.track.2)
    (decide (b.tckSta &&& 0x04 ≠ 0))
  refine ⟨?_, ?_, other⟩
  · rw [lliAfter, slip]
    cases before : latest hist b with
    | none => simp [slipDetected]
    | some p =>
        rw [Option.map_some, slipDetected_iff]
        simp
  · rw [lliAfter, halfCycle]
    have bit := masked_iff (m := 0x04) (k := 2) rfl b.tckSta
    simp [bit]

theorem lliAfter_slot (hist : List MeasBlock) (b : MeasBlock) :
    lliAfter hist b = lliAfter (hist.filter fun p => p.slot = b.slot) b := by
  rw [lliAfter, lliAfter, latest, latest, List.filter_filter]
  simp only [Bool.and_self]

def framesBefore (msgs : List (List UInt8)) (j : Nat) : List MeasBlock :=
  (msgs.take j).flatMap frameBlocks

section
variable {past : List MeasBlock} {st : Processor}

theorem parseMeasMsgs_returns (tracks : Tracks past st) (msgs : List (List UInt8))
    (numbers : ∀ msg ∈ msgs, rawxTow msg ≠ .nan) : ∃ r, parseMeasMsgs st msgs = .ok r := by
  induction msgs generalizing past st with
  | nil => exact ⟨_, rfl⟩
  | cons msg rest ih =>
      obtain ⟨returns, kept⟩ := parseMeasMsg_ok tracks msg
      obtain ⟨⟨obsMeas, st'⟩, first⟩ := returns (numbers msg List.mem_cons_self)
      obtain ⟨tracks', _⟩ := kept obsMeas st' first
      obtain ⟨r, others⟩ := ih tracks' fun msg mem => numbers msg (List.mem_cons_of_mem _ mem)
      rw [parseMeasMsgs, first, ok_bind]
      dsimp only
      rw [others]
      exact ⟨_, rfl⟩

theorem parseMeasMsgs_frames (tracks : Tracks past st) (msgs : List (List UInt8))
    {results : List (List Obs)} {st' : Processor} (ran : parseMeasMsgs st msgs = .ok (results, st')) :
    results.length = msgs.length ∧
      ∀ (j : Nat) obsMeas msg, results[j]? = some obsMeas → msgs[j]? = some msg →
        ∃ time, FrameObs time (past ++ framesBefore msgs j) (frameBlocks msg) obsMeas := by
  induction msgs generalizing past st results with
  | nil =>
      rw [parseMeasMsgs] at ran
      cases ran
      exact ⟨rfl, nofun⟩
  | cons first rest ih =>
      rw [parseMeasMsgs] at ran
      obtain ⟨⟨obsMeas, st₁⟩, one, ran⟩ := bind_eq_ok.mp ran
      obtain ⟨⟨others, st₂⟩, more, ran⟩ := bind_eq_ok.mp ran
      cases ran
      obtain ⟨tracks', time, grouped⟩ := (parseMeasMsg_ok tracks first).2 obsMeas st₁ one
      obtain ⟨sameLength, frames⟩ := ih tracks' more
      refine ⟨by simp [sameLength], fun j => ?_⟩
      cases j with
      | zero =>
          intro obsMeas' msg result message
          cases result
          cases message
          rw [framesBefore, List.take_zero, List.flatMap_nil, List.append_nil]
          exact ⟨time, grouped⟩
      | succ j =>
          intro obsMeas' msg result message
          rw [framesBefore, List.take_succ_cons, List.flatMap_cons, ← List.append_assoc]
          exact frames j obsMeas' msg result message

end

/-- The indicators of a run: every observation has those of its satellite's accepted blocks, in
order, each decided by the blocks before it on its own satellite and slot. -/
theorem rawx_slips (msgs : List (List UInt8)) :
    ((∀ msg ∈ msgs, rawxTow msg ≠ .nan) → ∃ r, parseMeasMsgs Processor.init msgs = .ok r) ∧
    ∀ results st', parseMeasMsgs Processor.init msgs = .ok (results, st') →
      results.length = msgs.length ∧
      ∀ (j : Nat) obsMeas msg, results[j]? = some obsMeas → msgs[j]? = some msg →
        (obsMeas.map Obs.sat).Nodup ∧
        ∀ sat,
          let own := ownBlocks (framesBefore msgs j) (frameBlocks msg) sat
          (own ≠ [] → ∃ obs ∈ obsMeas, obs.sat = sat) ∧
          ∀ obs ∈ obsMeas, obs.sat = sat →
            List.Forall₂ (fun p lli => LliFor p.1 p.2 lli ∧
              ∀ hist, (hist.filter fun q => q.slot = p.2.slot) =
                  (p.1.filter fun q => q.slot = p.2.slot) → lli = lliAfter hist p.2)
              own obs.lli := by
  refine ⟨parseMeasMsgs_returns tracks_init msgs, fun results st' ran => ?_⟩
  obtain ⟨sameLength, frames⟩ := parseMeasMsgs_frames tracks_init msgs ran
  refine ⟨sameLength, fun j obsMeas msg result message => ?_⟩
  obtain ⟨time, grouped⟩ := frames j obsMeas msg result message
  rw [List.nil_append] at grouped
  refine ⟨grouped.distinct, fun sat => ⟨fun some => ?_, fun obs mem onSat => ?_⟩⟩
  · exact ⟨_, grouped.placed sat some, obsOf_sat _ _ _⟩
  · subst onSat
    rw [congrArg Obs.lli (grouped.own obs mem),
      obsOf_field Obs.lli lliAfter (fun _ _ _ => rfl) (fun _ _ => rfl), List.forall₂_map_right_iff,
      List.forall₂_same]
    refine fun p _ => ⟨lliAfter_spec p.1 p.2, fun hist same => ?_⟩
    rw [lliAfter_slot, ← same, ← lliAfter_slot]

end GnssParser
