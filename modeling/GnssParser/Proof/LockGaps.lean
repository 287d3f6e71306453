import GnssParser.Proof.RawxGrouping

/-!
# Lock times across gaps

The slip decision between two blocks of a signal that the frames in between lack.
-/

namespace GnssParser
open Checked

/-- A block of frame `i` and a block of frame `j`, after others of its frame, with no block of their
satellite and slot in between. -/
structure Consecutive (msgs : List (List UInt8)) (i : Nat) (p : MeasBlock) (j : Nat)
    (hist : List MeasBlock) (b : MeasBlock) : Prop where
  accepted : b.slot.isSome
  same : p.slot = b.slot
  order : i < j
  first : ∃ msg before after, msgs[i]? = some msg ∧ frameBlocks msg = before ++ p :: after ∧
    ∀ q ∈ after, q.slot ≠ b.slot
  between : ∀ k, i < k → k < j → ∀ msg, msgs[k]? = some msg → ∀ q ∈ frameBlocks msg, q.slot ≠ b.slot
  second : ∃ msg later, msgs[j]? = some msg ∧ frameBlocks msg = hist ++ b :: later
  fresh : ∀ q ∈ hist, q.slot ≠ b.slot

/-- The receiver lost the lock between the blocks: the counter of the second is not saturated, and
shorter than the time between the frames. -/
structure LockGap (msgs : List (List UInt8)) (i : Nat) (p : MeasBlock) (j : Nat)
    (hist : List MeasBlock) (b : MeasBlock) : Prop extends Consecutive msgs i p j hist b where
  unsaturated : b.lockTime.toNat < 64500
  younger : ∃ msg₁ msg₂ t₁ t₂, msgs[i]? = some msg₁ ∧ msgs[j]? = some msg₂ ∧
    rawxTime msg₁ = .ok t₁ ∧ rawxTime msg₂ = .ok t₂ ∧
    0 < timeDiff t₂ t₁ ∧ (b.lockTime.toNat : ℚ) * 1e-3 < timeDiff t₂ t₁

/-- The observations of a frame mark a slip on a block after others of the frame. -/
def MarksSlip (obsMeas : List Obs) (hist : List MeasBlock) (b : MeasBlock) : Prop :=
  ∃ obs ∈ obsMeas, b.On obs.sat ∧
    ∃ lli, obs.lli[countOn obs.sat hist]? = some lli ∧ lli &&& lliSlip ≠ 0

section
variable {msgs : List (List UInt8)} {i j : Nat} {p b : MeasBlock} {hist : List MeasBlock}

theorem latest_none (others : ∀ q ∈ hist, q.slot ≠ b.slot) : latest hist b = none := by
  rw [latest, List.getLast?_eq_none_iff, List.filter_eq_nil_iff]
  intro q mem same
  exact others q mem (of_decide_eq_true same)

theorem framesBefore_split {msg : List UInt8} (first : msgs[i]? = some msg) (order : i < j) :
    framesBefore msgs j = framesBefore msgs i ++
      (frameBlocks msg ++ ((msgs.take j).drop (i + 1)).flatMap frameBlocks) := by
  have there : (msgs.take j)[i]? = some msg := by rw [List.getElem?_take, if_pos order, first]
  obtain ⟨below, at_i⟩ := List.getElem?_eq_some_iff.mp there
  have split : msgs.take j = msgs.take i ++ msg :: (msgs.take j).drop (i + 1) := by
    calc msgs.take j = (msgs.take j).take i ++ (msgs.take j).drop i := (List.take_append_drop i _).symm
      _ = msgs.take i ++ msg :: (msgs.take j).drop (i + 1) := by
        rw [List.take_take, Nat.min_eq_left order.le, List.drop_eq_getElem_cons below, at_i]
  calc framesBefore msgs j
      = (msgs.take i ++ msg :: (msgs.take j).drop (i + 1)).flatMap frameBlocks :=
        congrArg (List.flatMap frameBlocks) split
    _ = framesBefore msgs i ++
          (frameBlocks msg ++ ((msgs.take j).drop (i + 1)).flatMap frameBlocks) := by
        rw [List.flatMap_append, List.flatMap_cons]
        rfl

theorem Consecutive.latest_eq (pair : Consecutive msgs i p j hist b) :
    latest (framesBefore msgs j ++ hist) b = some p := by
  obtain ⟨msg, before, after, first, blocks, rest⟩ := pair.first
  have absent : ∀ q ∈ ((msgs.take j).drop (i + 1)).flatMap frameBlocks, q.slot ≠ b.slot := by
    intro q mem
    obtain ⟨frame, mem, block⟩ := List.mem_flatMap.mp mem
    obtain ⟨k, there⟩ := List.mem_iff_getElem?.mp mem
    rw [List.getElem?_drop, List.getElem?_take] at there
    split_ifs at there with below
    exact pair.between (i + 1 + k) (by omega) below frame there q block
  rw [latest_append_list, latest_none pair.fresh, Option.none_or, framesBefore_split first pair.order,
    latest_append_list, latest_append_list, latest_none absent, Option.none_or, blocks,
    List.append_cons, latest_append_list, latest_none rest, Option.none_or, latest_append,
    if_pos pair.same, Option.some_or]

theorem FrameObs.marksSlip_iff {time : GTime} {past later : List MeasBlock} {obsMeas : List Obs}
    (grouped : FrameObs time past (hist ++ b :: later) obsMeas) (accepted : b.slot.isSome) :
    MarksSlip obsMeas hist b ↔ (lliAfter (past ++ hist) b).toNat.testBit 0 = true := by
  obtain ⟨⟨sat, sid⟩, slot⟩ := Option.isSome_iff_exists.mp accepted
  have held : ∀ obs ∈ obsMeas, b.On obs.sat →
      obs.lli[countOn obs.sat hist]? = some (lliAfter (past ++ hist) b) := by
    intro obs mem on
    rw [congrArg Obs.lli (grouped.own obs mem),
      obsOf_field Obs.lli lliAfter (fun _ _ _ => rfl) (fun _ _ => rfl), List.getElem?_map,
      ownBlocks_at on]
    rfl
  have bit : lliAfter (past ++ hist) b &&& lliSlip ≠ 0 ↔
      (lliAfter (past ++ hist) b).toNat.testBit 0 = true := by
    rw [Ne, masked_iff (m := lliSlip) (k := 0) rfl, Bool.not_eq_false]
  constructor
  · rintro ⟨obs, mem, on, lli, there, marked⟩
    rw [held obs mem on] at there
    cases there
    exact bit.mp marked
  · intro marked
    have on : b.On sat := (on_iff slot sat).mpr rfl
    have some : ownBlocks past (hist ++ b :: later) sat ≠ [] := by
      intro none
      have there := ownBlocks_at on past hist later
      rw [none] at there
      cases there
    have mem := grouped.placed sat some
    have onSat : b.On (obsOf time sat (ownBlocks past (hist ++ b :: later) sat)).sat := by
      rw [obsOf_sat]
      exact on
    exact ⟨_, mem, onSat, _, held _ mem onSat, bit.mpr marked⟩

theorem Consecutive.marksSlip_iff (pair : Consecutive msgs i p j hist b) {results : List (List Obs)}
    {st' : Processor} (ran : parseMeasMsgs Processor.init msgs = .ok (results, st'))
    {obsMeas : List Obs} (result : results[j]? = some obsMeas) :
    MarksSlip obsMeas hist b ↔
      b.lockTime = 0 ∨ b.lockTime < p.lockTime ∨
        p.tckSta.toNat.testBit 1 ≠ b.tckSta.toNat.testBit 1 ∨
        p.tckSta.toNat.testBit 3 ≠ b.tckSta.toNat.testBit 3 := by
  obtain ⟨msg, later, second, blocks⟩ := pair.second
  obtain ⟨time, grouped⟩ :=
    (parseMeasMsgs_frames tracks_init msgs ran).2 j obsMeas msg result second
  rw [List.nil_append, blocks] at grouped
  rw [grouped.marksSlip_iff pair.accepted, (lliAfter_spec _ b).slip, pair.latest_eq]
  simp

end

/-- Across a gap a slip is marked when the lock time is zero or has fallen, or a phase bit of the
tracking status has changed. The length of the gap does not count. -/
theorem lock_gap_slip_iff {msgs : List (List UInt8)} {results : List (List Obs)} {st' : Processor}
    (ran : parseMeasMsgs Processor.init msgs = .ok (results, st')) {i j : Nat} {p b : MeasBlock}
    {hist : List MeasBlock} (gap : LockGap msgs i p j hist b) {obsMeas : List Obs}
    (result : results[j]? = some obsMeas) :
    MarksSlip obsMeas hist b ↔
      b.lockTime = 0 ∨ b.lockTime < p.lockTime ∨
        p.tckSta.toNat.testBit 1 ≠ b.tckSta.toNat.testBit 1 ∨
        p.tckSta.toNat.testBit 3 ≠ b.tckSta.toNat.testBit 3 :=
  gap.toConsecutive.marksSlip_iff ran result

def shortLockMsg : List UInt8 :=
  [0xB5, 0x62, 0x02, 0x15, 0x30, 0x00, 0x00, 0x00, 0x00, 0x00, 0x00, 0x40, 0x8F, 0x40, 0xFC, 0x08,
    0x12, 0x01, 0x01, 0x01, 0x00, 0x00, 0x00, 0x00, 0x00, 0x00, 0x84, 0xD7, 0x77, 0x41, 0x00, 0x00,
    0x00, 0x00, 0x65, 0xCD, 0x9D, 0x41, 0x00, 0x00, 0x80, 0xC4, 0x00, 0x05, 0x00, 0x00, 0x64, 0x00,
    0x2D, 0x01, 0x01, 0x01, 0x0F, 0x00, 0x7E, 0xA2]

/-- The satellite a minute later, after 5 s of lock. -/
def longRelockMsg : List UInt8 :=
  [0xB5, 0x62, 0x02, 0x15, 0x30, 0x00, 0x00, 0x00, 0x00, 0x00, 0x00, 0x90, 0x90, 0x40, 0xFC, 0x08,
    0x12, 0x01, 0x01, 0x01, 0x00, 0x00, 0x00, 0x00, 0x00, 0x00, 0x84, 0xD7, 0x77, 0x41, 0x00, 0x00,
    0x00, 0x00, 0x65, 0xCD, 0x9D, 0x41, 0x00, 0x00, 0x80, 0xC4, 0x00, 0x05, 0x00, 0x00, 0x88, 0x13,
    0x2D, 0x01, 0x01, 0x01, 0x0F, 0x00, 0x06, 0xE1]

/-- The satellite a minute later, after 0.05 s of lock. -/
def shortRelockMsg : List UInt8 :=
  [0xB5, 0x62, 0x02, 0x15, 0x30, 0x00, 0x00, 0x00, 0x00, 0x00, 0x00, 0x90, 0x90, 0x40, 0xFC, 0x08,
    0x12, 0x01, 0x01, 0x01, 0x00, 0x00, 0x00, 0x00, 0x00, 0x00, 0x84, 0xD7, 0x77, 0x41, 0x00, 0x00,
    0x00, 0x00, 0x65, 0xCD, 0x9D, 0x41, 0x00, 0x00, 0x80, 0xC4, 0x00, 0x05, 0x00, 0x00, 0x32, 0x00,
    0x2D, 0x01, 0x01, 0x01, 0x0F, 0x00, 0x9D, 0xAC]

theorem lockGap_pair {first second : List UInt8} {p b : MeasBlock} (one : frameBlocks first = [p])
    (two : frameBlocks second = [b]) (accepted : b.slot.isSome) (same : p.slot = b.slot)
    (unsaturated : b.lockTime.toNat < 64500) {t₁ t₂ : GTime} (timed₁ : rawxTime first = .ok t₁)
    (timed₂ : rawxTime second = .ok t₂)
    (younger : (b.lockTime.toNat : ℚ) * 1e-3 < timeDiff t₂ t₁) :
    LockGap [first, second] 0 p 1 [] b where
  accepted := accepted
  same := same
  order := Nat.one_pos
  first := ⟨first, [], [], rfl, one, List.forall_mem_nil _⟩
  between k after before := by omega
  second := ⟨second, [], rfl, two⟩
  fresh := List.forall_mem_nil _
  unsaturated := unsaturated
  younger := ⟨first, second, t₁, t₂, rfl, rfl, timed₁, timed₂,
    lt_of_le_of_lt (by positivity) younger, younger⟩

theorem shortLockMsg_time : rawxTime shortLockMsg = .ok ⟨1707005800, 0⟩ := by decide +kernel

theorem longRelockMsg_time : rawxTime longRelockMsg = .ok ⟨1707005860, 0⟩ := by decide +kernel

theorem shortRelockMsg_time : rawxTime shortRelockMsg = .ok ⟨1707005860, 0⟩ := by decide +kernel

theorem exists_block {msg : List UInt8} {holds : MeasBlock → Prop}
    (one : (frameBlocks msg).length = 1) (every : ∀ b ∈ frameBlocks msg, holds b) :
    ∃ b, frameBlocks msg = [b] ∧ holds b := by
  obtain ⟨b, one⟩ := List.length_eq_one_iff.mp one
  exact ⟨b, one, every b (one ▸ List.mem_singleton_self b)⟩

theorem shortLockMsg_block : ∃ p, frameBlocks shortLockMsg = [p] ∧
    p.slot = some (5, 1) ∧ p.lockTime = 100 ∧ p.tckSta = 15 :=
  exists_block (by decide +kernel) (by decide +kernel)

theorem longRelockMsg_block : ∃ b, frameBlocks longRelockMsg = [b] ∧
    b.slot = some (5, 1) ∧ b.lockTime = 5000 ∧ b.tckSta = 15 :=
  exists_block (by decide +kernel) (by decide +kernel)

theorem shortRelockMsg_block : ∃ b, frameBlocks shortRelockMsg = [b] ∧
    b.slot = some (5, 1) ∧ b.lockTime = 50 ∧ b.tckSta = 15 :=
  exists_block (by decide +kernel) (by decide +kernel)

theorem pair_runs {first second : List UInt8} (number₁ : rawxTow first ≠ .nan)
    (number₂ : rawxTow second ≠ .nan) :
    ∃ results st' obsMeas, parseMeasMsgs Processor.init [first, second] = .ok (results, st') ∧
      results[1]? = some obsMeas := by
  obtain ⟨⟨results, st'⟩, ran⟩ := parseMeasMsgs_returns tracks_init [first, second]
    (by simp [number₁, number₂])
  have length := (parseMeasMsgs_frames tracks_init _ ran).1
  exact ⟨results, st', _, ran, List.getElem?_eq_getElem (by rw [length]; exact Nat.one_lt_two)⟩

/-- The lock was lost for most of a minute, and no slip is marked. -/
theorem lock_gap_unmarked :
    ¬ ∀ msgs results st', parseMeasMsgs Processor.init msgs = .ok (results, st') →
      ∀ i p j hist b, LockGap msgs i p j hist b →
        ∀ obsMeas, results[j]? = some obsMeas → MarksSlip obsMeas hist b := by
  intro always
  obtain ⟨p, one, slot₁, lock₁, status₁⟩ := shortLockMsg_block
  obtain ⟨b, two, slot₂, lock₂, status₂⟩ := longRelockMsg_block
  obtain ⟨results, st', obsMeas, ran, result⟩ :=
    pair_runs (show rawxTow shortLockMsg ≠ .nan by decide +kernel)
      (show rawxTow longRelockMsg ≠ .nan by decide +kernel)
  have gap := lockGap_pair one two (by rw [slot₂]; rfl) (slot₁.trans slot₂.symm)
    (by rw [lock₂]; decide) shortLockMsg_time longRelockMsg_time (by rw [lock₂]; decide +kernel)
  have marked := always _ _ _ ran _ _ _ _ _ gap _ result
  rw [gap.toConsecutive.marksSlip_iff ran result, lock₁, lock₂, status₁, status₂] at marked
  exact absurd marked (by decide)

theorem lock_gap_slip_iff_relock :
    ∃ results st' obsMeas,
      parseMeasMsgs Processor.init [shortLockMsg, shortRelockMsg] = .ok (results, st') ∧
      results[1]? = some obsMeas ∧
      ∃ p b, LockGap [shortLockMsg, shortRelockMsg] 0 p 1 [] b ∧ MarksSlip obsMeas [] b := by
  obtain ⟨p, one, slot₁, lock₁, status₁⟩ := shortLockMsg_block
  obtain ⟨b, two, slot₂, lock₂, status₂⟩ := shortRelockMsg_block
  obtain ⟨results, st', obsMeas, ran, result⟩ :=
    pair_runs (show rawxTow shortLockMsg ≠ .nan by decide +kernel)
      (show rawxTow shortRelockMsg ≠ .nan by decide +kernel)
  have gap := lockGap_pair one two (by rw [slot₂]; rfl) (slot₁.trans slot₂.symm)
    (by rw [lock₂]; decide) shortLockMsg_time shortRelockMsg_time (by rw [lock₂]; decide +kernel)
  exact ⟨results, st', obsMeas, ran, result, p, b, gap,
    (lock_gap_slip_iff ran gap result).mpr (.inr (.inl (by rw [lock₁, lock₂]; decide)))⟩

end GnssParser
