import GnssParser.Proof.CycleSlip
import GnssParser.Model.Rinex

/-!
# Signals in the columns of a data line

Which accepted blocks of a frame the RINEX writer finds again by their frequency.
-/

namespace GnssParser
open Checked

/-! ## Frequencies -/

def MeasBlock.IsE5b (b : MeasBlock) : Prop := b.gnssId = 2 ∧ (b.sigId = 5 ∨ b.sigId = 6)

instance (b : MeasBlock) : Decidable b.IsE5b :=
  inferInstanceAs (Decidable (b.gnssId = 2 ∧ (b.sigId = 5 ∨ b.sigId = 6)))

theorem sigFreq_eq {sid : Nat} (slot : sid = 1 ∨ sid = 2) (sys : Nat) (fcn : Int) :
    sigFreq sys sid fcn = .ok (
      if sys = sysGlo then (if sid = 1 then freq1Glo + dfrq1Glo * fcn else freq2Glo + dfrq2Glo * fcn)
      else if sys = sysBds then (if sid = 1 then freq1Bds else freq2Bds)
      else (if sid = 1 then freq1 else freq2)) := by
  have index : predIndex sid = sid - 1 := predIndex_eq (by omega) (by unfold maxSat; omega)
  have light : lightSpeed ≠ 0 := by norm_num [lightSpeed]
  rw [sigFreq, index]
  by_cases glo : sys = sysGlo
  · rw [if_pos glo, if_pos glo]
    rcases slot with rfl | rfl <;> rfl
  rw [if_neg glo, if_neg glo]
  by_cases bds : sys = sysBds
  · rw [if_pos bds, if_pos bds]
    rcases slot with rfl | rfl <;> rfl
  rw [if_neg bds, if_neg bds]
  rcases slot with rfl | rfl
  · exact congrArg Except.ok (div_div_cancel₀ light)
  · exact congrArg Except.ok (div_div_cancel₀ light)

section
variable {b : MeasBlock} {sat sid : Nat}

theorem sigIdx_cases (sys code : Nat) : sigIdx sys code ∈ [0, 1, 2, nFreq + 1] := by
  rw [sigIdx]
  repeat' split
  all_goals simp

theorem slot_sid (accepted : b.slot = some (sat, sid)) : sid = 1 ∨ sid = 2 := by
  obtain ⟨_, _, _, slot, pos, le⟩ := b.slot_eq accepted
  have cases := sigIdx_cases (ubxSys b.gnssId.toNat) (ubxSig (ubxSys b.gnssId.toNat) b.sigId.toNat)
  rw [slot] at cases
  unfold nFreq at le cases
  simp only [List.mem_cons, List.not_mem_nil, or_false] at cases
  omega

theorem slot_sys (accepted : b.slot = some (sat, sid)) :
    ubxSys b.gnssId.toNat = sysGps ∨ ubxSys b.gnssId.toNat = sysGlo ∨
      ubxSys b.gnssId.toNat = sysGal ∨ ubxSys b.gnssId.toNat = sysBds := by
  obtain ⟨_, number, valid, _⟩ := b.slot_eq accepted
  rw [← number] at valid
  rcases satNo_cases valid with ⟨h, _⟩ | ⟨h, _⟩ | ⟨h, _⟩ | ⟨h, _⟩ <;> simp [h]

theorem satsys_slot (accepted : b.slot = some (sat, sid)) :
    (satsys sat).1 = ubxSys b.gnssId.toNat := by
  obtain ⟨_, rfl, valid, _⟩ := b.slot_eq accepted
  rw [satsys_satNo valid]

theorem ubxSys_eq_gal (id : UInt8) : ubxSys id.toNat = sysGal ↔ id = 2 := by
  constructor
  · intro gal
    unfold ubxSys at gal
    split at gal
    case h_3 same => exact UInt8.toNat_inj.mp same
    all_goals cases gal
  · rintro rfl
    rfl

theorem sigIdx_gal (sigid : Nat) :
    sigIdx sysGal (ubxSig sysGal sigid) = 2 ↔ sigid = 5 ∨ sigid = 6 := by
  have code : ubxSig sysGal sigid =
      if sigid = 0 then codeL1C else if sigid = 1 then codeL1B
      else if sigid = 5 then codeL7I else if sigid = 6 then codeL7Q else codeNone := rfl
  rw [code]
  split_ifs with e1c e1b e5bI e5bQ
  · exact iff_of_false (by decide) (by omega)
  · exact iff_of_false (by decide) (by omega)
  · exact iff_of_true (by decide) (.inl e5bI)
  · exact iff_of_true (by decide) (.inr e5bQ)
  · exact iff_of_false (by decide) (by omega)

theorem isE5b_iff (accepted : b.slot = some (sat, sid)) :
    b.IsE5b ↔ ubxSys b.gnssId.toNat = sysGal ∧ sid = 2 := by
  obtain ⟨_, _, _, slot, _, _⟩ := b.slot_eq accepted
  rw [MeasBlock.IsE5b, ubxSys_eq_gal]
  refine and_congr_right fun gal => ?_
  rw [(ubxSys_eq_gal b.gnssId).mpr gal] at slot
  rw [← slot, sigIdx_gal, ← UInt8.toNat_inj, ← UInt8.toNat_inj]
  rfl

theorem glo_inBand {n : Nat} (channel : n ≤ 13) {k sid : Nat} (band : k < 2)
    (slot : sid = 1 ∨ sid = 2) :
    InBand sysGlo k (if sid = 1 then freq1Glo + dfrq1Glo * ((n : Int) - 7 : Int)
      else freq2Glo + dfrq2Glo * ((n : Int) - 7 : Int)) ↔ k + 1 = sid := by
  have lower : (0 : ℚ) ≤ n := n.cast_nonneg
  have upper : (n : ℚ) ≤ 13 := by exact_mod_cast channel
  have first : bandLimits sysGlo 0 = (freq1Glo - 7 * dfrq1Glo, freq1Glo + 6 * dfrq1Glo) := rfl
  have second : bandLimits sysGlo 1 = (freq2Glo - 7 * dfrq2Glo, freq2Glo + 6 * dfrq2Glo) := rfl
  obtain rfl | rfl : k = 0 ∨ k = 1 := by omega
  · rw [InBand, first]
    unfold freq1Glo dfrq1Glo freq2Glo dfrq2Glo
    push_cast
    rcases slot with rfl | rfl
    · rw [if_pos rfl]
      exact iff_of_true ⟨by linarith, by linarith⟩ rfl
    · rw [if_neg (by decide)]
      exact iff_of_false (fun inside => by linarith [inside.1]) (by decide)
  · rw [InBand, second]
    unfold freq1Glo dfrq1Glo freq2Glo dfrq2Glo
    push_cast
    rcases slot with rfl | rfl
    · rw [if_pos rfl]
      exact iff_of_false (fun inside => by linarith [inside.2]) (by decide)
    · rw [if_neg (by decide)]
      exact iff_of_true ⟨by linarith, by linarith⟩ rfl

theorem fixed_inBand : ∀ sys ∈ [sysGps, sysGal, sysBds], ∀ sid ∈ [1, 2], ∀ k ∈ [0, 1],
    InBand sys k (if sys = sysBds then (if sid = 1 then freq1Bds else freq2Bds)
      else (if sid = 1 then freq1 else freq2)) ↔ k + 1 = sid ∧ ¬ (sys = sysGal ∧ sid = 2) := by
  decide +kernel

/-- The writer knows the frequency of every slot but that of E5b, in its own band only. -/
theorem inBand_iff (accepted : b.slot = some (sat, sid))
    (channel : ubxSys b.gnssId.toNat = sysGlo → b.freqId.toNat ≤ 13) {k : Nat} (band : k < 2) :
    InBand (satsys sat).1 k b.freq ↔ k + 1 = sid ∧ ¬ b.IsE5b := by
  have freq := sigFreq_block accepted
  have slot := slot_sid accepted
  rw [sigFreq_eq slot] at freq
  have freq := Except.ok.inj freq
  rw [isE5b_iff accepted, satsys_slot accepted, ← freq]
  by_cases glo : ubxSys b.gnssId.toNat = sysGlo
  · rw [glo, if_pos rfl, glo_inBand (channel glo) band slot]
    exact (and_iff_left (by simp [sysGlo, sysGal])).symm
  · rw [if_neg glo]
    refine fixed_inBand _ ?_ sid (by simpa using slot) k (by simp; omega)
    simpa [glo] using slot_sys accepted

end

/-! ## Columns -/

/-- The entry of a block is found by its frequency in one of the two bands, and the data line has
its values in the columns of that band. -/
def LineHas (obs : Obs) (b : MeasBlock) : Prop :=
  ∃ k < 2, ∃ i first second, indexFreq obs k = (b.freq, some i) ∧
    obs.psr[i]? = some b.usedPsr ∧ obs.cp[i]? = some b.usedCp ∧ obs.dopp[i]? = some b.dopp ∧
    obs.cn0[i]? = some (b.cn0.toNat : ℚ) ∧
    dataLine obs = .ok (Text.padLeft 3 (sat2str obs.sat) ++ first ++ second) ∧
    (if k = 0 then first else second) = signalText b.usedPsr b.usedCp b.dopp b.cn0.toNat

section
variable {obs : Obs} {blocks : List MeasBlock} {k i : Nat} {freq : ℚ}

theorem indexFreq_found (found : indexFreq obs k = (freq, some i)) :
    InBand (satsys obs.sat).1 k freq ∧ obs.freqs[i]? = some freq := by
  rw [indexFreq] at found
  split at found
  case h_1 index position =>
    obtain ⟨below, inside, _⟩ := List.findIdx?_eq_some_iff_getElem.mp position
    obtain ⟨rfl, same⟩ := Prod.mk.inj found
    obtain rfl := Option.some.inj same
    rw [List.getD_eq_getElem _ _ below, List.getElem?_eq_getElem below]
    exact ⟨of_decide_eq_true inside, rfl⟩
  case h_2 => cases found

theorem indexFreq_cases (obs : Obs) (k : Nat) :
    indexFreq obs k = (-1, none) ∨ ∃ freq i, indexFreq obs k = (freq, some i) := by
  rw [indexFreq]
  split
  · exact .inr ⟨_, _, rfl⟩
  · exact .inl rfl

theorem bandLimits_nonneg (sys k : Nat) : 0 ≤ (bandLimits sys k).1 := by
  unfold bandLimits
  repeat' split
  all_goals
    norm_num [freq1, freq2, freq7, freq1Glo, dfrq1Glo, freq2Glo, dfrq2Glo, freq1Bds, freq2Bds]

structure SignalsOf (obs : Obs) (blocks : List MeasBlock) : Prop where
  freqs : obs.freqs = blocks.map MeasBlock.freq
  psr : obs.psr = blocks.map MeasBlock.usedPsr
  cp : obs.cp = blocks.map MeasBlock.usedCp
  dopp : obs.dopp = blocks.map MeasBlock.dopp
  cn0 : obs.cn0 = blocks.map fun b => (b.cn0.toNat : ℚ)

theorem obsOf_signals (time : GTime) (past blocks : List MeasBlock) (sat : Nat) :
    SignalsOf (obsOf time sat (ownBlocks past blocks sat)) (blocks.filter fun b => b.On sat) := by
  rw [← ownBlocks_blocks past blocks sat]
  constructor
  all_goals rw [List.map_map]
  · exact obsOf_field Obs.freqs (fun _ b => b.freq) (fun _ _ _ => rfl) (fun _ _ => rfl) ..
  · exact obsOf_field Obs.psr (fun _ b => b.usedPsr) (fun _ _ _ => rfl) (fun _ _ => rfl) ..
  · exact obsOf_field Obs.cp (fun _ b => b.usedCp) (fun _ _ _ => rfl) (fun _ _ => rfl) ..
  · exact obsOf_field Obs.dopp (fun _ b => b.dopp) (fun _ _ _ => rfl) (fun _ _ => rfl) ..
  · exact obsOf_field Obs.cn0 (fun _ b => (b.cn0.toNat : ℚ)) (fun _ _ _ => rfl) (fun _ _ => rfl) ..

theorem bandColumns_found (signals : SignalsOf obs blocks) {b : MeasBlock}
    (found : indexFreq obs k = (freq, some i)) (entry : blocks[i]? = some b) :
    bandColumns obs k = .ok (signalText b.usedPsr b.usedCp b.dopp b.cn0.toNat) := by
  have inside := (indexFreq_found found).1
  have nonneg : ¬ freq < 0 := not_lt.mpr ((bandLimits_nonneg _ _).trans inside.1)
  unfold bandColumns
  simp only [found, if_neg nonneg, Option.getD_some, signals.psr, signals.cp, signals.dopp,
    signals.cn0, loadAt, List.getElem?_map, entry, Option.map_some]
  rfl

theorem bandColumns_ok (signals : SignalsOf obs blocks) (k : Nat) :
    ∃ columns, bandColumns obs k = .ok columns := by
  rcases indexFreq_cases obs k with none | ⟨freq, i, found⟩
  · refine ⟨Text.padLeft 64 [], ?_⟩
    unfold bandColumns
    simp only [none]
    rfl
  · have entry := (indexFreq_found found).2
    rw [signals.freqs, List.getElem?_map] at entry
    obtain ⟨b, entry, _⟩ := Option.map_eq_some_iff.mp entry
    exact ⟨_, bandColumns_found signals found entry⟩

theorem indexFreq_block {sat sid : Nat} {before after : List MeasBlock} {b : MeasBlock}
    (signals : SignalsOf obs (before ++ b :: after)) (onSat : obs.sat = sat)
    (accepted : b.slot = some (sat, sid)) (known : ¬ b.IsE5b)
    (channels : ∀ c ∈ before ++ b :: after, ubxSys c.gnssId.toNat = sysGlo → c.freqId.toNat ≤ 13)
    (others : ∀ c ∈ before, ∃ sid', c.slot = some (sat, sid') ∧ sid' ≠ sid) :
    indexFreq obs (sid - 1) = (b.freq, some before.length) := by
  have slot := slot_sid accepted
  have own : InBand (satsys obs.sat).1 (sid - 1) b.freq := by
    rw [onSat, inBand_iff accepted (channels b (by simp)) (by omega)]
    exact ⟨by omega, known⟩
  have other : ∀ c ∈ before, ¬ InBand (satsys obs.sat).1 (sid - 1) c.freq := by
    intro c mem
    obtain ⟨sid', acceptedC, ne⟩ := others c mem
    rw [onSat, inBand_iff acceptedC (channels c (by simp [mem])) (by omega)]
    omega
  have position : obs.freqs.findIdx? (fun freq => InBand (satsys obs.sat).1 (sid - 1) freq) =
      some before.length := by
    rw [signals.freqs, List.map_append, List.map_cons, List.findIdx?_append,
      List.findIdx?_eq_none_iff.mpr (by simpa using other), List.findIdx?_cons, if_pos (by simpa using own)]
    simp
  unfold indexFreq
  simp only [position]
  rw [signals.freqs]
  simp

theorem lineHas_known {sat sid : Nat} {b : MeasBlock} (onSat : obs.sat = sat)
    (accepted : b.slot = some (sat, sid))
    (channel : ubxSys b.gnssId.toNat = sysGlo → b.freqId.toNat ≤ 13) (kept : LineHas obs b) :
    ¬ b.IsE5b := by
  obtain ⟨k, band, i, _, _, found, _⟩ := kept
  have inside := (indexFreq_found found).1
  rw [onSat, inBand_iff accepted channel band] at inside
  exact inside.2

theorem lineHas_block {sat sid : Nat} {before after : List MeasBlock} {b : MeasBlock}
    (signals : SignalsOf obs (before ++ b :: after)) (onSat : obs.sat = sat)
    (accepted : b.slot = some (sat, sid)) (known : ¬ b.IsE5b)
    (channels : ∀ c ∈ before ++ b :: after, ubxSys c.gnssId.toNat = sysGlo → c.freqId.toNat ≤ 13)
    (others : ∀ c ∈ before, ∃ sid', c.slot = some (sat, sid') ∧ sid' ≠ sid) : LineHas obs b := by
  have found := indexFreq_block signals onSat accepted known channels others
  have entry : (before ++ b :: after)[before.length]? = some b := by simp
  have columns := bandColumns_found signals found entry
  obtain ⟨first, one⟩ := bandColumns_ok signals 0
  obtain ⟨second, two⟩ := bandColumns_ok signals 1
  have slot := slot_sid accepted
  refine ⟨sid - 1, by omega, before.length, first, second, found, ?_, ?_, ?_, ?_, ?_, ?_⟩
  · rw [signals.psr, List.getElem?_map, entry]; rfl
  · rw [signals.cp, List.getElem?_map, entry]; rfl
  · rw [signals.dopp, List.getElem?_map, entry]; rfl
  · rw [signals.cn0, List.getElem?_map, entry]; rfl
  · rw [dataLine, one, ok_bind, two, ok_bind]; rfl
  · rcases slot with rfl | rfl
    · rw [Nat.sub_self] at columns ⊢
      rw [one] at columns
      rw [if_pos rfl]
      exact Except.ok.inj columns
    · rw [show 2 - 1 = 1 from rfl] at columns ⊢
      rw [two] at columns
      rw [if_neg one_ne_zero]
      exact Except.ok.inj columns

end

/-! ## Frames -/

def KeepsBlock (obsMeas : List Obs) (sat : Nat) (b : MeasBlock) : Prop :=
  ∃ obs ∈ obsMeas, obs.sat = sat ∧ LineHas obs b

/-- The channels of GLONASS are known and no two blocks share a satellite and slot. -/
structure SingleSignals (blocks : List MeasBlock) : Prop where
  channels : ∀ b ∈ blocks, ubxSys b.gnssId.toNat = sysGlo → b.freqId.toNat ≤ 13
  distinct : (blocks.filterMap MeasBlock.slot).Nodup

theorem SingleSignals.others {blocks before after : List MeasBlock} {b : MeasBlock} {sat sid : Nat}
    (single : SingleSignals blocks) (accepted : b.slot = some (sat, sid))
    (split : (blocks.filter fun b => b.On sat) = before ++ b :: after) :
    ∀ c ∈ before, ∃ sid', c.slot = some (sat, sid') ∧ sid' ≠ sid := by
  intro c mem
  have on : c ∈ blocks.filter fun b => b.On sat := by
    rw [split]
    exact List.mem_append_left _ mem
  have on := of_decide_eq_true (List.mem_filter.mp on).2
  obtain ⟨⟨sat', sid'⟩, acceptedC, same⟩ := Option.map_eq_some_iff.mp on
  obtain rfl : sat' = sat := same
  refine ⟨sid', acceptedC, ?_⟩
  rintro rfl
  have distinct : ((before ++ b :: after).filterMap MeasBlock.slot).Nodup := by
    rw [← split]
    exact single.distinct.sublist ((List.filter_sublist).filterMap MeasBlock.slot)
  rw [List.filterMap_append, List.filterMap_cons_some accepted, List.nodup_append] at distinct
  exact distinct.2.2 _ (List.mem_filterMap.mpr ⟨c, mem, acceptedC⟩) _ List.mem_cons_self rfl

theorem FrameObs.keepsBlock_iff {time : GTime} {past blocks : List MeasBlock} {obsMeas : List Obs}
    (grouped : FrameObs time past blocks obsMeas) (single : SingleSignals blocks) {b : MeasBlock}
    (mem : b ∈ blocks) {sat sid : Nat} (accepted : b.slot = some (sat, sid)) :
    KeepsBlock obsMeas sat b ↔ ¬ b.IsE5b := by
  constructor
  · rintro ⟨obs, _, onSat, kept⟩
    exact lineHas_known onSat accepted (single.channels b mem) kept
  · intro known
    have own : b ∈ blocks.filter fun b => b.On sat :=
      List.mem_filter.mpr ⟨mem, decide_eq_true ((on_iff accepted sat).mpr rfl)⟩
    have some : ownBlocks past blocks sat ≠ [] := by
      intro none
      rw [← ownBlocks_blocks past blocks sat, none] at own
      cases own
    obtain ⟨before, after, split⟩ := List.append_of_mem own
    refine ⟨_, grouped.placed sat some, obsOf_sat _ _ _, ?_⟩
    have signals := obsOf_signals time past blocks sat
    rw [split] at signals
    refine lineHas_block signals (obsOf_sat _ _ _) accepted known (fun c memC => ?_)
      (single.others accepted split)
    rw [← split] at memC
    exact single.channels c (List.mem_filter.mp memC).1

/-- In every frame of a run, every accepted block but those of E5b is on its data line. -/
theorem rawx_columns_iff {msgs : List (List UInt8)} {results : List (List Obs)} {st' : Processor}
    (ran : parseMeasMsgs Processor.init msgs = .ok (results, st')) {j : Nat} {obsMeas : List Obs}
    {msg : List UInt8} (result : results[j]? = some obsMeas) (message : msgs[j]? = some msg)
    (single : SingleSignals (frameBlocks msg)) {b : MeasBlock} (mem : b ∈ frameBlocks msg)
    {sat sid : Nat} (accepted : b.slot = some (sat, sid)) :
    KeepsBlock obsMeas sat b ↔ ¬ b.IsE5b := by
  obtain ⟨time, grouped⟩ := (parseMeasMsgs_frames tracks_init msgs ran).2 j obsMeas msg result message
  exact grouped.keepsBlock_iff single mem accepted

def galPairMsg : List UInt8 :=
  [0xB5, 0x62, 0x02, 0x15, 0x50, 0x00, 0x00, 0x00, 0x00, 0x00, 0x00, 0x40, 0x8F, 0x40, 0xFC, 0x08,
    0x12, 0x02, 0x01, 0x01, 0x00, 0x00, 0x00, 0x00, 0x00, 0x00, 0x84, 0xD7, 0x77, 0x41, 0x00, 0x00,
    0x00, 0x00, 0x65, 0xCD, 0x9D, 0x41, 0x00, 0x00, 0x80, 0xC4, 0x02, 0x01, 0x00, 0x00, 0xE8, 0x03,
    0x2D, 0x01, 0x01, 0x01, 0x0F, 0x00, 0x00, 0x00, 0x00, 0x00, 0x84, 0xD7, 0x77, 0x41, 0x00, 0x00,
    0x00, 0x00, 0x84, 0xD7, 0x97, 0x41, 0x00, 0x00, 0x00, 0xC4, 0x02, 0x01, 0x05, 0x00, 0xE8, 0x03,
    0x28, 0x01, 0x01, 0x01, 0x0F, 0x00, 0x5B, 0x20]

theorem galPairMsg_blocks :
    verifyMsg galPairMsg = .ok true ∧ SingleSignals (frameBlocks galPairMsg) ∧
      (∃ b ∈ frameBlocks galPairMsg, b.slot = some (60, 1) ∧ ¬ b.IsE5b) ∧
      ∃ b ∈ frameBlocks galPairMsg, b.slot = some (60, 2) ∧ b.IsE5b := by
  have channels : ∀ b ∈ frameBlocks galPairMsg, ubxSys b.gnssId.toNat = sysGlo →
      b.freqId.toNat ≤ 13 := by
    decide +kernel
  exact ⟨by decide +kernel, ⟨channels, by decide +kernel⟩, by decide +kernel, by decide +kernel⟩

theorem galPairMsg_runs :
    ∃ obsMeas st', parseMeasMsgs Processor.init [galPairMsg] = .ok ([obsMeas], st') := by
  have number : ∀ msg ∈ [galPairMsg], rawxTow msg ≠ .nan := by decide +kernel
  obtain ⟨⟨results, st'⟩, ran⟩ := parseMeasMsgs_returns tracks_init [galPairMsg] number
  obtain ⟨obsMeas, rfl⟩ := List.length_eq_one_iff.mp (parseMeasMsgs_frames tracks_init _ ran).1
  exact ⟨obsMeas, st', ran⟩

/-- The E5b signal of the pair is on no column. -/
theorem rawx_loses_e5b :
    ¬ ∀ msgs results st', parseMeasMsgs Processor.init msgs = .ok (results, st') →
      ∀ (j : Nat) obsMeas msg, results[j]? = some obsMeas → msgs[j]? = some msg →
        verifyMsg msg = .ok true → SingleSignals (frameBlocks msg) →
          ∀ b ∈ frameBlocks msg, ∀ sat sid, b.slot = some (sat, sid) → KeepsBlock obsMeas sat b := by
  intro always
  obtain ⟨verified, single, _, b, mem, accepted, e5b⟩ := galPairMsg_blocks
  obtain ⟨obsMeas, st', ran⟩ := galPairMsg_runs
  obtain ⟨time, grouped⟩ :=
    (parseMeasMsgs_frames tracks_init _ ran).2 0 obsMeas galPairMsg rfl rfl
  have kept := always _ _ _ ran 0 obsMeas galPairMsg rfl rfl verified single b mem 60 2 accepted
  exact (grouped.keepsBlock_iff single mem accepted).mp kept e5b

theorem rawx_columns_iff_pair :
    ∃ obsMeas st', parseMeasMsgs Processor.init [galPairMsg] = .ok ([obsMeas], st') ∧
      ∃ b ∈ frameBlocks galPairMsg, b.slot = some (60, 1) ∧ KeepsBlock obsMeas 60 b := by
  obtain ⟨_, single, ⟨b, mem, accepted, known⟩, _⟩ := galPairMsg_blocks
  obtain ⟨obsMeas, st', ran⟩ := galPairMsg_runs
  exact ⟨obsMeas, st', ran, b, mem, accepted,
    (rawx_columns_iff ran (j := 0) rfl rfl single mem accepted).mpr known⟩

end GnssParser
