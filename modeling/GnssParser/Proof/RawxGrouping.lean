import GnssParser.Proof.CycleSlip

/-!
# Grouping of a frame

What the observations made of a RAWX frame hold of its accepted blocks.
-/

namespace GnssParser
open Checked Grouping

def acceptedSats (blocks : List MeasBlock) : List Nat :=
  blocks.filterMap fun b => b.slot.map Prod.fst

def countOn (sat : Nat) (blocks : List MeasBlock) : Nat := blocks.countP fun b => b.On sat

def Obs.lengths (obs : Obs) : List Nat :=
  [obs.freqs.length, obs.cn0.length, obs.lli.length, obs.code.length, obs.psr.length,
    obs.psrStd.length, obs.cp.length, obs.cpStd.length, obs.dopp.length, obs.doppStd.length,
    obs.status.length]

/-- The entries of an observation at one position are those of a block. -/
structure Obs.HoldsAt (obs : Obs) (k : Nat) (lli : UInt8) (b : MeasBlock) : Prop where
  freqs : ∃ sat sid freq, b.slot = some (sat, sid) ∧
    sigFreq (ubxSys b.gnssId.toNat) sid ((b.freqId.toNat : Int) - 7) = .ok freq ∧
    obs.freqs[k]? = some freq
  cn0 : obs.cn0[k]? = some (b.cn0.toNat : ℚ)
  lli : obs.lli[k]? = some lli
  code : obs.code[k]? = some (UInt8.ofNat (ubxSig (ubxSys b.gnssId.toNat) b.sigId.toNat))
  psr : ∃ psr, obs.psr[k]? = some psr ∧ (psr ≠ .finite 0 → psr = b.psr) ∧
    (psr = .finite 0 ↔ b.tckSta.toNat.testBit 0 = false ∨ b.psr = .finite 0)
  psrStd : obs.psrStd[k]? = some (0.01 * 2 ^ b.psrStd.toNat)
  cp : ∃ cp, obs.cp[k]? = some cp ∧ (cp ≠ .finite 0 → cp = b.cp) ∧
    (cp = .finite 0 ↔ b.tckSta.toNat.testBit 1 = false ∨ b.cp = .finite (-0.5) ∨
      b.cp = .finite 0 ∨ cpstdValid < b.cpStd)
  cpStd : obs.cpStd[k]? = some (0.004 * (b.cpStd.toNat : ℚ))
  dopp : obs.dopp[k]? = some b.dopp
  doppStd : obs.doppStd[k]? = some (0.002 * 2 ^ b.doppStd.toNat)
  status : obs.status[k]? = some (b.tckSta &&& 0x0F)

/-- The observations lose and duplicate no accepted block: every block is at the position that
counts the blocks of its satellite before it. -/
structure BlocksGrouped (st : Processor) (blocks : List MeasBlock) (obsMeas : List Obs) : Prop where
  distinct : (obsMeas.map Obs.sat).Nodup
  complete : ∀ sat, sat ∈ obsMeas.map Obs.sat ↔ sat ∈ acceptedSats blocks
  ordered : (obsMeas.map Obs.sat).Pairwise fun a b =>
    (acceptedSats blocks).idxOf a < (acceptedSats blocks).idxOf b
  lengths : ∀ obs ∈ obsMeas, 1 ≤ countOn obs.sat blocks ∧
    ∀ n ∈ obs.lengths, n = countOn obs.sat blocks
  entries : ∀ hist b later, blocks = hist ++ b :: later → ∀ obs ∈ obsMeas, b.On obs.sat →
    obs.HoldsAt (countOn obs.sat hist) (lliFrom st hist b) b
  total : (obsMeas.map fun obs => countOn obs.sat blocks).sum = (acceptedSats blocks).length

section
variable {b : MeasBlock} {sat : Nat}

theorem usedPsr_zero (b : MeasBlock) : b.usedPsr = .finite 0 ↔
    b.tckSta.toNat.testBit 0 = false ∨ b.psr = .finite 0 := by
  rw [MeasBlock.usedPsr, ← masked_iff (m := 0x01) (k := 0) rfl]
  split_ifs with invalid <;> simp [invalid]

theorem usedCp_zero (b : MeasBlock) : b.usedCp = .finite 0 ↔
    b.tckSta.toNat.testBit 1 = false ∨ b.cp = .finite (-0.5) ∨ b.cp = .finite 0 ∨
      cpstdValid < b.cpStd := by
  rw [MeasBlock.usedCp, ← masked_iff (m := 0x02) (k := 1) rfl]
  split_ifs with invalid
  · rcases invalid with bit | half | imprecise
    · simp [bit]
    · simp [half]
    · simp [imprecise]
  · simp only [not_or] at invalid
    simp [invalid]

theorem gather_field {α : Type} (list : Obs → List α) (value : UInt8 × MeasBlock → α)
    (added : ∀ obs (p : UInt8 × MeasBlock),
      list (obs.push p.2 p.2.freq p.1 p.2.code p.2.usedPsr p.2.usedCp) = list obs ++ [value p])
    (none : ∀ time sat, list { time, sat } = [])
    (time : GTime) (sat : Nat) (signals : List (UInt8 × MeasBlock)) :
    list (Obs.gather time sat signals) = signals.map value := by
  rw [Obs.gather, foldl_field list _ value added, none, List.nil_append]

theorem gather_lengths (time : GTime) (sat : Nat) (signals : List (UInt8 × MeasBlock)) :
    ∀ n ∈ (Obs.gather time sat signals).lengths, n = signals.length := by
  induction signals using List.reverseRecOn with
  | nil => simp [Obs.gather, Obs.lengths]
  | append_singleton signals p ih =>
      rw [Obs.gather, List.foldl_append, ← Obs.gather]
      simpa [Obs.lengths, Obs.push] using ih

theorem gather_holds (time : GTime) (sat : Nat) {signals : List (UInt8 × MeasBlock)} {k : Nat}
    {lli : UInt8} (there : signals[k]? = some (lli, b)) (accepted : b.slot.isSome) :
    (Obs.gather time sat signals).HoldsAt k lli b := by
  have held : ∀ {α : Type} (list : Obs → List α) (value : UInt8 × MeasBlock → α),
      (∀ obs (p : UInt8 × MeasBlock),
        list (obs.push p.2 p.2.freq p.1 p.2.code p.2.usedPsr p.2.usedCp) = list obs ++ [value p]) →
      (∀ time sat, list { time, sat } = []) →
      (list (Obs.gather time sat signals))[k]? = some (value (lli, b)) := by
    intro α list value added none
    rw [gather_field list value added none, List.getElem?_map, there]
    rfl
  have shifted : ∀ n : UInt8, ((1 <<< n.toNat : Nat) : ℚ) = 2 ^ n.toNat := by
    intro n
    rw [Nat.one_shiftLeft]
    exact_mod_cast rfl
  obtain ⟨⟨on, sid⟩, slot⟩ := Option.isSome_iff_exists.mp accepted
  refine ⟨⟨on, sid, b.freq, slot, sigFreq_block slot, ?_⟩, ?_, ?_, ?_,
    ⟨b.usedPsr, ?_, ?_, usedPsr_zero b⟩, ?_, ⟨b.usedCp, ?_, ?_, usedCp_zero b⟩, ?_, ?_, ?_, ?_⟩
  · exact held Obs.freqs (fun p => p.2.freq) (fun _ _ => rfl) fun _ _ => rfl
  · exact held Obs.cn0 (fun p => (p.2.cn0.toNat : ℚ)) (fun _ _ => rfl) fun _ _ => rfl
  · exact held Obs.lli Prod.fst (fun _ _ => rfl) fun _ _ => rfl
  · exact held Obs.code (fun p => UInt8.ofNat p.2.code) (fun _ _ => rfl) fun _ _ => rfl
  · exact held Obs.psr (fun p => p.2.usedPsr) (fun _ _ => rfl) fun _ _ => rfl
  · rw [MeasBlock.usedPsr]
    split_ifs <;> simp
  · rw [← shifted]
    exact held Obs.psrStd (fun p => (0.01 : ℚ) * ((1 <<< p.2.psrStd.toNat : Nat) : ℚ)) (fun _ _ => rfl)
      fun _ _ => rfl
  · exact held Obs.cp (fun p => p.2.usedCp) (fun _ _ => rfl) fun _ _ => rfl
  · rw [MeasBlock.usedCp]
    split_ifs <;> simp
  · exact held Obs.cpStd (fun p => (0.004 : ℚ) * (p.2.cpStd.toNat : ℚ)) (fun _ _ => rfl) fun _ _ => rfl
  · exact held Obs.dopp (fun p => p.2.dopp) (fun _ _ => rfl) fun _ _ => rfl
  · rw [← shifted]
    exact held Obs.doppStd (fun p => (0.002 : ℚ) * ((1 <<< p.2.doppStd.toNat : Nat) : ℚ)) (fun _ _ => rfl)
      fun _ _ => rfl
  · exact held Obs.status (fun p => p.2.tckSta &&& 0x0F) (fun _ _ => rfl) fun _ _ => rfl

theorem countOn_eq (past blocks : List MeasBlock) (sat : Nat) :
    (ownBlocks past blocks sat).length = countOn sat blocks := by
  rw [countOn, List.countP_eq_length_filter, ← ownBlocks_blocks past, List.length_map]

theorem ownBlocks_at (on : b.On sat) (past hist later : List MeasBlock) :
    (ownBlocks past (hist ++ b :: later) sat)[countOn sat hist]? = some (past ++ hist, b) := by
  rw [ownBlocks_append, ← countOn_eq past, List.getElem?_append_right le_rfl, Nat.sub_self,
    ownBlocks, withHistory, List.filter_cons_of_pos (by simpa using on)]
  rfl

theorem sats_signals (st : Processor) (blocks : List MeasBlock) :
    (signals st blocks).map Prod.fst = acceptedSats blocks := by
  have sats : ∀ past, (withHistory past blocks).filterMap (fun p => p.2.slot.map Prod.fst) =
      acceptedSats blocks := by
    intro past
    conv_rhs => rw [← withHistory_blocks past blocks]
    rw [acceptedSats, List.filterMap_map]
    rfl
  rw [signals, List.map_filterMap, ← sats []]
  simp only [Option.map_map]
  rfl

theorem Gathered.blocksGrouped {time : GTime} {st : Processor} {blocks : List MeasBlock}
    {s : MeasState} (gathered : Gathered time st blocks s) : BlocksGrouped st blocks s.obsMeas := by
  have groups := groups_group (signals st blocks)
  have sats : s.obsMeas.map Obs.sat = keys (group (signals st blocks)) := by
    rw [gathered.keeps.list, List.map_map, keys]
    exact List.map_congr_left fun g _ => gather_sat time g.1 g.2
  have sizes : ∀ g ∈ group (signals st blocks), g.2.length = countOn g.1 blocks := by
    intro g mem
    rw [groups.values g mem, valuesOf_signals, List.length_map, countOn_eq]
  have made : ∀ obs ∈ s.obsMeas, ∃ g ∈ group (signals st blocks),
      obs = Obs.gather time g.1 g.2 ∧ obs.sat = g.1 := by
    intro obs mem
    rw [gathered.keeps.list] at mem
    obtain ⟨g, there, rfl⟩ := List.mem_map.mp mem
    exact ⟨g, there, rfl, gather_sat _ _ _⟩
  refine ⟨?_, fun sat => ?_, ?_, fun obs mem => ?_, fun hist b later split obs mem on => ?_, ?_⟩
  · rw [sats]
    exact groups.nodup
  · rw [sats, groups.complete, sats_signals]
  · rw [sats, ← sats_signals st]
    exact groups.ordered
  · obtain ⟨g, there, rfl, sat⟩ := made obs mem
    rw [sat, ← sizes g there]
    exact ⟨List.length_pos_iff.mpr (groups.ne_nil there), gather_lengths time g.1 g.2⟩
  · obtain ⟨g, member, rfl, sat⟩ := made obs mem
    rw [sat] at on ⊢
    have there : g.2[countOn g.1 hist]? = some (lliFrom st hist b, b) := by
      rw [groups.values g member, valuesOf_signals, split, List.getElem?_map, ownBlocks_at on]
      rfl
    obtain ⟨key, accepted, _⟩ := Option.map_eq_some_iff.mp on
    exact gather_holds time g.1 there (Option.isSome_of_eq_some accepted)
  · rw [gathered.keeps.list, List.map_map, ← sats_signals st, List.length_map, ← groups.total]
    refine congrArg List.sum (List.map_congr_left fun g mem => ?_)
    rw [Function.comp_apply, gather_sat, sizes g mem]

end

/-- Every frame that passes the length and week checks is grouped without loss. -/
theorem rawx_grouping (st : Processor) {msg : List UInt8} (passes : FramePasses msg) :
    (frameBlocks msg).length = rawxNumMeas msg ∧
      (rawxTow msg ≠ .nan → ∃ r, parseMeasMsg st msg = .ok r) ∧
      ∀ obsMeas st', parseMeasMsg st msg = .ok (obsMeas, st') →
        BlocksGrouped st (frameBlocks msg) obsMeas := by
  obtain ⟨returns, grouped⟩ := parseMeasMsg_gathered st passes
  refine ⟨?_, returns, fun obsMeas st' ran => ?_⟩
  · rw [frameBlocks, if_pos passes, blocksUpTo_length]
  · obtain ⟨time, s', _, gathered, rfl, _⟩ := grouped obsMeas st' ran
    exact gathered.blocksGrouped

/-- Two signals of a satellite, around one of another and one of no known system. -/
def interleavedMsg : List UInt8 :=
  [0xB5, 0x62, 0x02, 0x15, 0x90, 0x00, 0x00, 0x00, 0x00, 0x00, 0x00, 0x40, 0x8F, 0x40, 0xFC, 0x08,
    0x12, 0x04, 0x01, 0x01, 0x00, 0x00, 0x00, 0x00, 0x00, 0x00, 0x84, 0xD7, 0x77, 0x41, 0x00, 0x00,
    0x00, 0x00, 0x65, 0xCD, 0x9D, 0x41, 0x00, 0x00, 0x80, 0xC4, 0x00, 0x05, 0x00, 0x00, 0xE8, 0x03,
    0x2D, 0x01, 0x01, 0x01, 0x0F, 0x00, 0x00, 0x00, 0x00, 0x00, 0x2A, 0x75, 0x75, 0x41, 0x00, 0x00,
    0x00, 0x00, 0x00, 0x00, 0xE0, 0xBF, 0x00, 0x00, 0x00, 0x44, 0x00, 0x07, 0x00, 0x00, 0xF4, 0x01,
    0x28, 0x01, 0x01, 0x01, 0x07, 0x00, 0x00, 0x00, 0x00, 0x00, 0x84, 0xD7, 0x77, 0x41, 0x00, 0x00,
    0x00, 0x00, 0x84, 0xD7, 0x97, 0x41, 0x00, 0x00, 0x00, 0x00, 0x04, 0x01, 0x00, 0x00, 0xE8, 0x03,
    0x28, 0x01, 0x01, 0x01, 0x0F, 0x00, 0x00, 0x00, 0x00, 0x00, 0x84, 0xD7, 0x77, 0x41, 0x00, 0x00,
    0x00, 0x80, 0xED, 0x3E, 0x97, 0x41, 0x00, 0x00, 0x00, 0xC4, 0x00, 0x05, 0x03, 0x00, 0xE8, 0x03,
    0x28, 0x01, 0x01, 0x01, 0x0E, 0x00, 0xC4, 0xCA]

theorem rawx_grouping_interleaved :
    ∃ obsMeas st', parseMeasMsg Processor.init interleavedMsg = .ok (obsMeas, st') ∧
      acceptedSats (frameBlocks interleavedMsg) = [5, 7, 5] ∧
      BlocksGrouped Processor.init (frameBlocks interleavedMsg) obsMeas := by
  obtain ⟨_, returns, grouped⟩ :=
    rawx_grouping Processor.init (show FramePasses interleavedMsg by decide +kernel)
  obtain ⟨⟨obsMeas, st'⟩, ran⟩ := returns (by decide +kernel)
  exact ⟨obsMeas, st', ran, by decide +kernel, grouped obsMeas st' ran⟩

end GnssParser
