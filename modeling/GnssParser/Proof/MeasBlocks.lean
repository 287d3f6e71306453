import GnssParser.Lib.Grouping
import GnssParser.Proof.Bounds

/-!
# Measurement blocks

The observations of a frame and the tracks a run leaves, as functions of the blocks it accepts.
-/

namespace GnssParser
open Checked Grouping

/-! ## Accepted blocks -/

/-- The satellite and the slot of a block that is accepted. -/
def MeasBlock.slot (b : MeasBlock) : Option (Nat × Nat) :=
  let sys := ubxSys b.gnssId.toNat
  let sat := satNo sys b.svid.toNat
  let sid := sigIdx sys (ubxSig sys b.sigId.toNat)
  if sys = 0 ∨ sat = 0 ∨ sid = 0 ∨ sid > nFreq then none else some (sat, sid)

def MeasBlock.On (sat : Nat) (b : MeasBlock) : Prop := b.slot.map Prod.fst = some sat

instance (sat : Nat) (b : MeasBlock) : Decidable (b.On sat) :=
  inferInstanceAs (Decidable (b.slot.map Prod.fst = some sat))

theorem MeasBlock.slot_eq {b : MeasBlock} {sat sid : Nat} (accepted : b.slot = some (sat, sid)) :
    ubxSys b.gnssId.toNat ≠ 0 ∧ satNo (ubxSys b.gnssId.toNat) b.svid.toNat = sat ∧ sat ≠ 0 ∧
      sigIdx (ubxSys b.gnssId.toNat) (ubxSig (ubxSys b.gnssId.toNat) b.sigId.toNat) = sid ∧
      sid ≠ 0 ∧ sid ≤ nFreq := by
  rw [MeasBlock.slot] at accepted
  split_ifs at accepted with failed
  obtain ⟨rfl, rfl⟩ := Prod.mk.inj (Option.some.inj accepted)
  omega

def latest (hist : List MeasBlock) (b : MeasBlock) : Option MeasBlock :=
  (hist.filter fun p => p.slot = b.slot).getLast?

def MeasBlock.track (b : MeasBlock) : ℚ × UInt8 := ((b.lockTime.toNat : ℚ) * 1e-3, b.tckSta &&& 0x0F)

/-- The loss of lock indicator of a block after others. -/
def lliAfter (hist : List MeasBlock) (b : MeasBlock) : UInt8 :=
  let slip := slipDetected ((latest hist b).map MeasBlock.track) b.lockTime b.track.1 b.track.2
  let halfv : Bool := b.tckSta &&& 0x04 ≠ 0
  (if slip then lliSlip else 0) ||| (if !halfv then lliHalfc else 0)

def MeasBlock.usedPsr (b : MeasBlock) : Ieee := if b.tckSta &&& 0x01 = 0 then .finite 0 else b.psr

def MeasBlock.usedCp (b : MeasBlock) : Ieee :=
  if b.tckSta &&& 0x02 = 0 ∨ b.cp = .finite (-0.5) ∨ b.cpStd > cpstdValid then .finite 0 else b.cp

def MeasBlock.code (b : MeasBlock) : Nat :=
  ubxSig (ubxSys b.gnssId.toNat) b.sigId.toNat

def MeasBlock.freq (b : MeasBlock) : ℚ :=
  let sys := ubxSys b.gnssId.toNat
  match sigFreq sys (sigIdx sys b.code) ((b.freqId.toNat : Int) - 7) with
  | .ok freq => freq
  | .error _ => 0

def Obs.add (obs : Obs) (hist : List MeasBlock) (b : MeasBlock) : Obs :=
  obs.push b b.freq (lliAfter hist b) b.code b.usedPsr b.usedCp

/-- The observation of a satellite from its blocks, each with its loss of lock indicator. -/
def Obs.gather (time : GTime) (sat : Nat) (signals : List (UInt8 × MeasBlock)) : Obs :=
  signals.foldl (fun obs p => obs.push p.2 p.2.freq p.1 p.2.code p.2.usedPsr p.2.usedCp) { time, sat }

def withHistory (past : List MeasBlock) : List MeasBlock → List (List MeasBlock × MeasBlock)
  | [] => []
  | b :: rest => (past, b) :: withHistory (past ++ [b]) rest

theorem withHistory_append (past blocks more : List MeasBlock) :
    withHistory past (blocks ++ more) =
      withHistory past blocks ++ withHistory (past ++ blocks) more := by
  induction blocks generalizing past with
  | nil => simp [withHistory]
  | cons first rest ih => simp [withHistory, ih]

/-- The blocks on a satellite, each with all blocks before it. -/
def ownBlocks (past blocks : List MeasBlock) (sat : Nat) : List (List MeasBlock × MeasBlock) :=
  (withHistory past blocks).filter fun p => p.2.On sat

def obsOf (time : GTime) (sat : Nat) (own : List (List MeasBlock × MeasBlock)) : Obs :=
  own.foldl (fun obs p => obs.add p.1 p.2) { time, sat }

/-! ## Tracks -/

/-- The processor keeps the track of the last block on every satellite and slot. -/
def Tracks (hist : List MeasBlock) (st : Processor) : Prop :=
  ∀ b sat sid, b.slot = some (sat, sid) →
    st.signalTrackLockTimes (UInt8.ofNat sat) (UInt8.ofNat sid) =
        ((latest hist b).map fun p => p.track.1) ∧
      st.signalTrackState (UInt8.ofNat sat) (UInt8.ofNat sid) =
        ((latest hist b).map fun p => p.track.2)

theorem tracks_init : Tracks [] Processor.init := fun _ _ _ _ => ⟨rfl, rfl⟩

/-- The processor keeps the track of the last block on every satellite and slot, or what was there
before the blocks. -/
def TracksFrom (st : Processor) (hist : List MeasBlock) (st' : Processor) : Prop :=
  ∀ b sat sid, b.slot = some (sat, sid) →
    st'.signalTrackLockTimes (UInt8.ofNat sat) (UInt8.ofNat sid) =
        ((latest hist b).map fun p => p.track.1).or
          (st.signalTrackLockTimes (UInt8.ofNat sat) (UInt8.ofNat sid)) ∧
      st'.signalTrackState (UInt8.ofNat sat) (UInt8.ofNat sid) =
        ((latest hist b).map fun p => p.track.2).or
          (st.signalTrackState (UInt8.ofNat sat) (UInt8.ofNat sid))

theorem tracksFrom_nil (st : Processor) : TracksFrom st [] st := fun _ _ _ _ => ⟨rfl, rfl⟩

/-- The track a block is compared with, after the blocks of its frame before it. -/
def MeasBlock.prevTrack (st : Processor) (hist : List MeasBlock) (b : MeasBlock) :
    Option (ℚ × UInt8) :=
  match latest hist b with
  | some p => some p.track
  | none => do
      let (sat, sid) ← b.slot
      let lockTime ← st.signalTrackLockTimes (UInt8.ofNat sat) (UInt8.ofNat sid)
      let state ← st.signalTrackState (UInt8.ofNat sat) (UInt8.ofNat sid)
      pure (lockTime, state)

/-- The loss of lock indicator of a block in a processor state, after the blocks of its frame before
it. -/
def lliFrom (st : Processor) (hist : List MeasBlock) (b : MeasBlock) : UInt8 :=
  let slip := slipDetected (b.prevTrack st hist) b.lockTime b.track.1 b.track.2
  let halfv : Bool := b.tckSta &&& 0x04 ≠ 0
  (if slip then lliSlip else 0) ||| (if !halfv then lliHalfc else 0)

theorem latest_append (hist : List MeasBlock) (p b : MeasBlock) :
    latest (hist ++ [p]) b = if p.slot = b.slot then some p else latest hist b := by
  rw [latest, List.filter_append]
  split_ifs with same
  · simp [same]
  · simp [same, latest]

theorem slot_bounds {b : MeasBlock} {sat sid : Nat} (accepted : b.slot = some (sat, sid)) :
    ValidSat sat ∧ sid ≤ 3 := by
  obtain ⟨_, rfl, valid, _, _, slot⟩ := b.slot_eq accepted
  exact ⟨validSat_satNo valid, slot⟩

theorem ofNat8_inj {a b : Nat} (ha : a < 256) (hb : b < 256) :
    UInt8.ofNat a = UInt8.ofNat b ↔ a = b := by
  rw [← UInt8.toNat_inj, UInt8.toNat_ofNat', UInt8.toNat_ofNat', Nat.mod_eq_of_lt ha,
    Nat.mod_eq_of_lt hb]

theorem latest_append_list (past blocks : List MeasBlock) (b : MeasBlock) :
    latest (past ++ blocks) b = (latest blocks b).or (latest past b) := by
  rw [latest, List.filter_append, List.getLast?_append]
  rfl

theorem TracksFrom.skip {hist : List MeasBlock} {st st' : Processor} (tracks : TracksFrom st hist st')
    {p : MeasBlock} (skipped : p.slot = none) : TracksFrom st (hist ++ [p]) st' := by
  intro b sat sid accepted
  rw [latest_append, if_neg (by rw [skipped, accepted]; exact nofun)]
  exact tracks b sat sid accepted

/-- The keys are bytes, which tell all satellites and slots apart. -/
theorem TracksFrom.accept {hist : List MeasBlock} {st st' : Processor}
    (tracks : TracksFrom st hist st') {p : MeasBlock} {sat sid : Nat}
    (accepted : p.slot = some (sat, sid)) :
    TracksFrom st (hist ++ [p])
      (st'.setTrack (UInt8.ofNat sat) (UInt8.ofNat sid) p.track.1 p.track.2) := by
  intro b sat' sid' accepted'
  obtain ⟨valid, slot⟩ := slot_bounds accepted
  obtain ⟨valid', slot'⟩ := slot_bounds accepted'
  have le : sat ≤ 160 := valid.le
  have le' : sat' ≤ 160 := valid'.le
  obtain ⟨lockTime, state⟩ := tracks b sat' sid' accepted'
  rw [latest_append, accepted, accepted', Processor.setTrack]
  dsimp only
  by_cases sameSat : sat' = sat
  · subst sameSat
    rw [Function.update_self, Function.update_self]
    by_cases sameSid : sid' = sid
    · subst sameSid
      rw [Function.update_self, Function.update_self, if_pos rfl]
      exact ⟨rfl, rfl⟩
    · have other : UInt8.ofNat sid' ≠ UInt8.ofNat sid :=
        mt (ofNat8_inj (by omega) (by omega)).mp sameSid
      rw [Function.update_of_ne other, Function.update_of_ne other, if_neg (by simp [Ne.symm sameSid])]
      exact ⟨lockTime, state⟩
  · have other : UInt8.ofNat sat' ≠ UInt8.ofNat sat :=
      mt (ofNat8_inj (by omega) (by omega)).mp sameSat
    rw [Function.update_of_ne other, Function.update_of_ne other, if_neg (by simp [Ne.symm sameSat])]
    exact ⟨lockTime, state⟩

theorem Tracks.append {past blocks : List MeasBlock} {st st' : Processor} (tracks : Tracks past st)
    (after : TracksFrom st blocks st') : Tracks (past ++ blocks) st' := by
  intro b sat sid accepted
  obtain ⟨lockTime, state⟩ := after b sat sid accepted
  obtain ⟨lockTime', state'⟩ := tracks b sat sid accepted
  rw [lockTime, lockTime', state, state', latest_append_list, Option.map_or, Option.map_or]
  exact ⟨rfl, rfl⟩

theorem TracksFrom.prev {hist : List MeasBlock} {st st' : Processor} (tracks : TracksFrom st hist st')
    {b : MeasBlock} {sat sid : Nat} (accepted : b.slot = some (sat, sid)) :
    (do
      let lockTime ← st'.signalTrackLockTimes (UInt8.ofNat sat) (UInt8.ofNat sid)
      let state ← st'.signalTrackState (UInt8.ofNat sat) (UInt8.ofNat sid)
      pure (lockTime, state)) = b.prevTrack st hist := by
  obtain ⟨lockTime, state⟩ := tracks b sat sid accepted
  rw [lockTime, state, MeasBlock.prevTrack]
  cases latest hist b with
  | none => rw [accepted]; rfl
  | some p => rfl

theorem lliFrom_eq {past hist : List MeasBlock} {st : Processor} (tracks : Tracks past st)
    {b : MeasBlock} {sat sid : Nat} (accepted : b.slot = some (sat, sid)) :
    lliFrom st hist b = lliAfter (past ++ hist) b := by
  obtain ⟨lockTime, state⟩ := tracks b sat sid accepted
  have prev : b.prevTrack st hist = (latest (past ++ hist) b).map MeasBlock.track := by
    rw [latest_append_list, MeasBlock.prevTrack]
    cases latest hist b with
    | some p => rfl
    | none =>
        rw [accepted, Option.none_or]
        cases before : latest past b <;> simp [lockTime, state, before, MeasBlock.track]
  rw [lliFrom, lliAfter, prev]

/-! ## One block -/

section
variable {time : GTime} {past blocks : List MeasBlock} {b : MeasBlock} {s : MeasState}

theorem gather_sat (time : GTime) (sat : Nat) (signals : List (UInt8 × MeasBlock)) :
    (Obs.gather time sat signals).sat = sat := by
  induction signals using List.reverseRecOn with
  | nil => rfl
  | append_singleton signals p ih =>
      rw [Obs.gather, List.foldl_append, ← Obs.gather]
      exact ih

theorem obsOf_eq_gather (time : GTime) (sat : Nat) (own : List (List MeasBlock × MeasBlock)) :
    obsOf time sat own = Obs.gather time sat (own.map fun p => (lliAfter p.1 p.2, p.2)) := by
  rw [Obs.gather, List.foldl_map]
  rfl

theorem obsOf_sat (time : GTime) (sat : Nat) (own : List (List MeasBlock × MeasBlock)) :
    (obsOf time sat own).sat = sat := by
  rw [obsOf_eq_gather, gather_sat]

-- each list of an observation gets one value from each signal
theorem foldl_field {α γ : Type} (list : Obs → List α) (step : Obs → γ → Obs) (value : γ → α)
    (added : ∀ obs x, list (step obs x) = list obs ++ [value x]) (obs : Obs) (xs : List γ) :
    list (xs.foldl step obs) = list obs ++ xs.map value := by
  induction xs generalizing obs with
  | nil => simp
  | cons x xs ih =>
      rw [List.foldl_cons, ih, added, List.map_cons, List.append_assoc, List.singleton_append]

theorem obsOf_field {α : Type} (list : Obs → List α) (value : List MeasBlock → MeasBlock → α)
    (added : ∀ obs hist b, list (Obs.add obs hist b) = list obs ++ [value hist b])
    (none : ∀ time sat, list { time, sat } = [])
    (time : GTime) (sat : Nat) (own : List (List MeasBlock × MeasBlock)) :
    list (obsOf time sat own) = own.map fun p => value p.1 p.2 := by
  rw [obsOf, foldl_field list _ _ fun obs p => added obs p.1 p.2, none, List.nil_append]

theorem withHistory_blocks (past blocks : List MeasBlock) :
    (withHistory past blocks).map Prod.snd = blocks := by
  induction blocks generalizing past with
  | nil => rfl
  | cons b rest ih => rw [withHistory, List.map_cons, ih]

theorem ownBlocks_blocks (past blocks : List MeasBlock) (sat : Nat) :
    (ownBlocks past blocks sat).map Prod.snd = blocks.filter fun b => b.On sat := by
  calc (ownBlocks past blocks sat).map Prod.snd
      = ((withHistory past blocks).map Prod.snd).filter fun b => b.On sat := by
        rw [List.filter_map]
        rfl
    _ = blocks.filter fun b => b.On sat := by rw [withHistory_blocks]

theorem ownBlocks_append (past blocks more : List MeasBlock) (sat : Nat) :
    ownBlocks past (blocks ++ more) sat =
      ownBlocks past blocks sat ++ ownBlocks (past ++ blocks) more sat := by
  rw [ownBlocks, withHistory_append, List.filter_append]
  rfl

theorem on_iff {sat sid : Nat} (accepted : b.slot = some (sat, sid)) (other : Nat) :
    b.On other ↔ sat = other := by
  simp [MeasBlock.On, accepted]

theorem measBlock_skipped (skipped : b.slot = none) : measBlock time b s = .ok s := by
  rw [MeasBlock.slot] at skipped
  split_ifs at skipped with failed
  rw [measBlock]
  dsimp only
  by_cases unknown : ubxSys b.gnssId.toNat = 0
  · rw [if_pos unknown]; rfl
  rw [if_neg unknown]
  by_cases none : satNo (ubxSys b.gnssId.toNat) b.svid.toNat = 0
  · rw [if_pos none]; rfl
  rw [if_neg none, if_pos (by omega)]
  rfl

theorem sigFreq_block {sat sid : Nat} (accepted : b.slot = some (sat, sid)) :
    sigFreq (ubxSys b.gnssId.toNat) sid ((b.freqId.toNat : Int) - 7) = .ok b.freq := by
  obtain ⟨_, _, _, slot, pos, le⟩ := b.slot_eq accepted
  obtain ⟨freq, computed⟩ := sigFreq_ok pos le (ubxSys b.gnssId.toNat) ((b.freqId.toNat : Int) - 7)
  rw [MeasBlock.freq, MeasBlock.code, slot, computed]

theorem measBlock_accepted {sat sid : Nat} (accepted : b.slot = some (sat, sid)) {st : Processor}
    {hist : List MeasBlock} (tracks : TracksFrom st hist s.st) {obsMeas : List Obs} {idx : Nat}
    {obs : Obs}
    (place : s.sat2idx sat = some idx ∧ obsMeas = s.obsMeas ∨
      s.sat2idx sat = none ∧ idx = s.obsMeas.length ∧
        obsMeas = s.obsMeas ++ [{ time := time, sat := sat }])
    (found : obsMeas[idx]? = some obs) :
    measBlock time b s = .ok {
      st := s.st.setTrack (UInt8.ofNat sat) (UInt8.ofNat sid) b.track.1 b.track.2
      obsMeas := obsMeas.set idx (obs.push b b.freq (lliFrom st hist b) b.code b.usedPsr b.usedCp)
      sat2idx := Function.update s.sat2idx sat (some idx) } := by
  obtain ⟨known, number, valid, slot, pos, le⟩ := b.slot_eq accepted
  have read : loadAt obsMeas idx = .ok obs := by rw [loadAt, found]
  rw [measBlock]
  dsimp only
  rw [if_neg known, number, if_neg valid, slot, if_neg (by omega), tracks.prev accepted]
  rcases place with ⟨old, rfl⟩ | ⟨new, rfl, rfl⟩
  · rw [old]
    dsimp only
    rw [read, ok_bind, sigFreq_block accepted, ok_bind]
    rfl
  · rw [new]
    dsimp only
    rw [read, ok_bind, sigFreq_block accepted, ok_bind]
    rfl

def signals (st : Processor) (blocks : List MeasBlock) : List (Nat × UInt8 × MeasBlock) :=
  (withHistory [] blocks).filterMap fun p =>
    p.2.slot.map fun key => (key.1, lliFrom st p.1 p.2, p.2)

theorem signals_append (st : Processor) (blocks : List MeasBlock) (b : MeasBlock) :
    signals st (blocks ++ [b]) = signals st blocks ++
      (b.slot.map fun key => (key.1, lliFrom st blocks b, b)).toList := by
  rw [signals, withHistory_append, List.filterMap_append]
  cases slot : b.slot <;> simp [signals, withHistory, slot]

theorem valuesOf_signals (st : Processor) (blocks : List MeasBlock) (sat : Nat) :
    valuesOf (signals st blocks) sat =
      (ownBlocks [] blocks sat).map fun p => (lliFrom st p.1 p.2, p.2) := by
  rw [valuesOf, signals, ownBlocks]
  induction withHistory [] blocks with
  | nil => rfl
  | cons p rest ih =>
      rw [List.filterMap_cons, List.filter_cons]
      cases slot : p.2.slot with
      | none => simpa [MeasBlock.On, slot] using ih
      | some key =>
          by_cases same : key.1 = sat <;> simpa [MeasBlock.On, slot, same] using ih

/-- The loop after some blocks: the tracks, and the grouping of the accepted blocks. -/
structure Gathered (time : GTime) (st : Processor) (blocks : List MeasBlock) (s : MeasState) :
    Prop where
  tracks : TracksFrom st blocks s.st
  keeps : Keeps (Obs.gather time) (group (signals st blocks)) s.obsMeas s.sat2idx

theorem Gathered.step {st : Processor} (gathered : Gathered time st blocks s) (b : MeasBlock) :
    ∃ s', measBlock time b s = .ok s' ∧ Gathered time st (blocks ++ [b]) s' := by
  obtain ⟨tracks, keeps⟩ := gathered
  cases slot : b.slot with
  | none =>
      refine ⟨s, measBlock_skipped slot, tracks.skip slot, ?_⟩
      rw [signals_append, slot, Option.map_none, Option.toList_none, List.append_nil]
      exact keeps
  | some key =>
      obtain ⟨sat, sid⟩ := key
      obtain ⟨obsMeas, idx, own, place, found, kept⟩ :=
        keeps.insert (groups_group _).nodup sat (lliFrom st blocks b, b)
      refine ⟨_, measBlock_accepted slot tracks place found, tracks.accept slot, ?_⟩
      rw [signals_append, slot, Option.map_some, Option.toList_some, group_append]
      rw [Obs.gather, List.foldl_append] at kept
      exact kept

/-- The observations made of the blocks so far: one for each satellite, found by its index. -/
structure Grouped (time : GTime) (past blocks : List MeasBlock) (s : MeasState) : Prop where
  tracks : Tracks (past ++ blocks) s.st
  placed : ∀ sat idx, s.sat2idx sat = some idx →
    s.obsMeas[idx]? = some (obsOf time sat (ownBlocks past blocks sat))
  absent : ∀ sat, s.sat2idx sat = none → ownBlocks past blocks sat = []
  single : ∀ (k : Nat) obs, s.obsMeas[k]? = some obs → s.sat2idx obs.sat = some k

theorem withHistory_past (past hist blocks : List MeasBlock) :
    withHistory (past ++ hist) blocks =
      (withHistory hist blocks).map fun p => (past ++ p.1, p.2) := by
  induction blocks generalizing hist with
  | nil => rfl
  | cons b rest ih => rw [withHistory, withHistory, List.map_cons, List.append_assoc, ih]

theorem ownBlocks_past (past blocks : List MeasBlock) (sat : Nat) :
    ownBlocks past blocks sat =
      (ownBlocks [] blocks sat).map fun p => (past ++ p.1, p.2) := by
  have shifted := withHistory_past past [] blocks
  rw [List.append_nil] at shifted
  rw [ownBlocks, shifted, List.filter_map]
  rfl

theorem gather_signals {st : Processor} (tracks : Tracks past st) (time : GTime)
    (blocks : List MeasBlock) (sat : Nat) :
    Obs.gather time sat (valuesOf (signals st blocks) sat) =
      obsOf time sat (ownBlocks past blocks sat) := by
  have indicators : ∀ p ∈ ownBlocks [] blocks sat, lliFrom st p.1 p.2 = lliAfter (past ++ p.1) p.2 := by
    intro p mem
    have on : p.2.On sat := by simpa using (List.mem_filter.mp mem).2
    obtain ⟨key, accepted, _⟩ := Option.map_eq_some_iff.mp on
    exact lliFrom_eq tracks accepted
  rw [valuesOf_signals, obsOf_eq_gather, ownBlocks_past past, List.map_map]
  exact congrArg _ (List.map_congr_left fun p mem => by rw [indicators p mem]; rfl)

theorem Gathered.grouped {st : Processor} (gathered : Gathered time st blocks s)
    (tracks : Tracks past st) : Grouped time past blocks s := by
  obtain ⟨after, listed, indexed⟩ := gathered
  have groups := groups_group (signals st blocks)
  have summary : ∀ (k : Nat) sat, (keys (group (signals st blocks)))[k]? = some sat →
      s.obsMeas[k]? = some (obsOf time sat (ownBlocks past blocks sat)) := by
    intro k sat there
    rw [keys, List.getElem?_map, Option.map_eq_some_iff] at there
    obtain ⟨g, there, rfl⟩ := there
    rw [listed, List.getElem?_map, there, Option.map_some,
      groups.values g (List.mem_of_getElem? there), gather_signals tracks]
  refine ⟨tracks.append after, fun sat idx found => ?_, fun sat none => ?_, fun k obs there => ?_⟩
  · exact summary idx sat ((indexed sat idx).mp found)
  · have absent : sat ∉ (signals st blocks).map Prod.fst := by
      rw [← groups.complete]
      intro mem
      obtain ⟨i, there⟩ := List.mem_iff_getElem?.mp mem
      rw [(indexed sat i).mpr there] at none
      cases none
    have empty : (ownBlocks [] blocks sat).map (fun p => (lliFrom st p.1 p.2, p.2)) = [] := by
      rw [← valuesOf_signals, valuesOf, List.map_eq_nil_iff, List.filter_eq_nil_iff]
      intro e mem same
      rw [← of_decide_eq_true same] at absent
      exact absent (List.mem_map_of_mem mem)
    rw [ownBlocks_past, List.map_eq_nil_iff.mp empty, List.map_nil]
  · have below : k < (keys (group (signals st blocks))).length := by
      have below := (List.getElem?_eq_some_iff.mp there).1
      rw [listed, List.length_map] at below
      rw [keys, List.length_map]
      exact below
    have key := List.getElem?_eq_getElem below
    have same := summary k _ key
    rw [there] at same
    rw [indexed, Option.some.inj same, obsOf_sat]
    exact key

end

/-! ## Frames -/

/-- The bytes of a message, 0 past its end. -/
def msgBytes (msg : List UInt8) (k : Nat) : UInt8 := msg.getD k 0

def rawxTow (msg : List UInt8) : Ieee := Ieee.ofBits64 (u64Of fun k => msgBytes msg (6 + k))

def rawxWeek (msg : List UInt8) : UInt16 := u16Of fun k => msgBytes msg (14 + k)

def rawxNumMeas (msg : List UInt8) : Nat := (msgBytes msg 17).toNat

/-- The frame passes the checks of its length and its week. -/
def FramePasses (msg : List UInt8) : Prop :=
  24 < msg.length ∧ 24 + 32 * rawxNumMeas msg ≤ msg.length ∧ rawxWeek msg ≠ 0

instance (msg : List UInt8) : Decidable (FramePasses msg) :=
  inferInstanceAs (Decidable (24 < msg.length ∧ 24 + 32 * rawxNumMeas msg ≤ msg.length ∧
    rawxWeek msg ≠ 0))

/-- Block `i` follows the 6 bytes of the message header, the 16 of the frame and `i` blocks of 32. -/
def blocksUpTo (msg : List UInt8) (n : Nat) : List MeasBlock :=
  (List.range n).map fun i => blockAt msg (22 + 32 * i)

/-- The blocks of a frame that passes the checks. -/
def frameBlocks (msg : List UInt8) : List MeasBlock :=
  if FramePasses msg then blocksUpTo msg (rawxNumMeas msg) else []

/-- The observations of a frame: one for each satellite, with its accepted blocks. -/
structure FrameObs (time : GTime) (past blocks : List MeasBlock) (obsMeas : List Obs) : Prop where
  placed : ∀ sat, ownBlocks past blocks sat ≠ [] →
    obsOf time sat (ownBlocks past blocks sat) ∈ obsMeas
  own : ∀ obs ∈ obsMeas, obs = obsOf time obs.sat (ownBlocks past blocks obs.sat)
  distinct : (obsMeas.map Obs.sat).Nodup

section
variable {time : GTime} {past : List MeasBlock} {s : MeasState} {msg : List UInt8}

theorem Grouped.frameObs {blocks : List MeasBlock} (grouped : Grouped time past blocks s) :
    FrameObs time past blocks s.obsMeas := by
  refine ⟨fun sat some => ?_, fun obs mem => ?_, ?_⟩
  · cases index : s.sat2idx sat with
    | none => exact absurd (grouped.absent sat index) some
    | some idx => exact List.mem_of_getElem? (grouped.placed sat idx index)
  · obtain ⟨k, there⟩ := List.mem_iff_getElem?.mp mem
    have same := grouped.placed obs.sat k (grouped.single k obs there)
    rw [there] at same
    exact Option.some.inj same
  · rw [List.nodup_iff_getElem?_ne_getElem?]
    intro i j before below same
    rw [List.length_map] at below
    rw [List.getElem?_map, List.getElem?_map, List.getElem?_eq_getElem (by omega),
      List.getElem?_eq_getElem below] at same
    have first := grouped.single i _ (List.getElem?_eq_getElem (by omega))
    have second := grouped.single j _ (List.getElem?_eq_getElem below)
    rw [Option.some.inj same, second] at first
    exact absurd (Option.some.inj first) (by omega)

theorem blocksUpTo_succ (msg : List UInt8) (i : Nat) :
    blocksUpTo msg (i + 1) = blocksUpTo msg i ++ [blockAt msg (22 + 32 * i)] := by
  rw [blocksUpTo, List.range_succ, List.map_append, ← blocksUpTo, List.map_singleton]

theorem blocksUpTo_length (msg : List UInt8) (n : Nat) : (blocksUpTo msg n).length = n := by
  rw [blocksUpTo, List.length_map, List.length_range]

theorem measBlocks_ok {st : Processor} {n : Nat} (long : 24 + 32 * n ≤ msg.length)
    (start : Gathered time st [] s) :
    ∃ s', measBlocks ((msgData msg).add 6) n time s = .ok s' ∧
      Gathered time st (blocksUpTo msg n) s' := by
  obtain ⟨s', ran, gathered⟩ := forRange_invariant
    (fun i s => do
      let b ← readMeasBlock (((msgData msg).add 6).add (16 + 32 * i))
      measBlock time b s)
    (fun i s => Gathered time st (blocksUpTo msg i) s) 0 n s start <| by
      intro i s _ upper gathered
      obtain ⟨s', ran, next⟩ := gathered.step (blockAt msg (22 + 32 * i))
      refine ⟨s', ?_, ?_⟩
      · rw [BytePtr.add_add, show 6 + (16 + 32 * i) = 22 + 32 * i by omega,
          readMeasBlock_eq (by omega), ok_bind, ran]
      · rw [blocksUpTo_succ]
        exact next
  rw [Nat.zero_add] at gathered
  exact ⟨s', ran, gathered⟩

def rawxTime (msg : List UInt8) : Checked GTime :=
  gpst2timeDouble (rawxWeek msg).toUInt32 (rawxTow msg)

theorem rawxTime_ok (number : rawxTow msg ≠ .nan) : ∃ time, rawxTime msg = .ok time := by
  rw [rawxTime]
  cases value : rawxTow msg with
  | finite x => exact ⟨_, rfl⟩
  | infinite negative => exact ⟨_, rfl⟩
  | nan => exact absurd value number

theorem parseMeasMsg_long (st : Processor) (long : 24 < msg.length) :
    parseMeasMsg st msg =
      if msg.length < 24 + 32 * rawxNumMeas msg then .ok ([], st)
      else if rawxWeek msg = 0 then .ok ([], st)
      else (do
        let time ← rawxTime msg
        let s ← measBlocks ((msgData msg).add 6) (rawxNumMeas msg) time
          { st, obsMeas := [], sat2idx := fun _ => none }
        if s.obsMeas.isEmpty then pure (s.obsMeas, s.st)
        else pure (s.obsMeas, { s.st with currTime := time })) := by
  have tow : u64 ((msgData msg).add 6) = .ok (u64Of fun k => msgBytes msg (6 + k)) :=
    u64_ok fun k h => msgData_ok (by omega)
  have week : u16 (((msgData msg).add 6).add 8) = .ok (rawxWeek msg) := by
    rw [BytePtr.add_add]
    exact u16_ok fun k h => msgData_ok (by omega)
  have numMeas : (msgData msg).add 6 11 = .ok (msgBytes msg 17) := msgData_ok (by omega)
  rw [parseMeasMsg, if_neg (by omega)]
  dsimp only
  rw [tow, ok_bind, week, ok_bind, numMeas, ok_bind]
  rfl

theorem parseMeasMsg_fails (st : Processor) (fails : ¬ FramePasses msg) :
    parseMeasMsg st msg = .ok ([], st) := by
  by_cases short : msg.length ≤ 24
  · rw [parseMeasMsg, if_pos short]
    rfl
  rw [parseMeasMsg_long st (by omega)]
  split_ifs with many unset
  · rfl
  · rfl
  · exact absurd ⟨by omega, by omega, unset⟩ fails

theorem parseMeasMsg_passes (st : Processor) (passes : FramePasses msg) :
    parseMeasMsg st msg = (do
      let time ← rawxTime msg
      let s ← measBlocks ((msgData msg).add 6) (rawxNumMeas msg) time
        { st, obsMeas := [], sat2idx := fun _ => none }
      if s.obsMeas.isEmpty then pure (s.obsMeas, s.st)
      else pure (s.obsMeas, { s.st with currTime := time })) := by
  obtain ⟨long, blocks, set⟩ := passes
  rw [parseMeasMsg_long st long, if_neg (by omega), if_neg set]

theorem parseMeasMsg_gathered (st : Processor) (passes : FramePasses msg) :
    (rawxTow msg ≠ .nan → ∃ r, parseMeasMsg st msg = .ok r) ∧
    ∀ obsMeas st', parseMeasMsg st msg = .ok (obsMeas, st') →
      ∃ time s', rawxTime msg = .ok time ∧ Gathered time st (frameBlocks msg) s' ∧
        obsMeas = s'.obsMeas ∧ TracksFrom st (frameBlocks msg) st' := by
  -- the loop from no observations
  have looped : ∀ time, ∃ s', measBlocks ((msgData msg).add 6) (rawxNumMeas msg) time
      { st, obsMeas := [], sat2idx := fun _ => none } = .ok s' ∧
        Gathered time st (frameBlocks msg) s' := by
    intro time
    rw [frameBlocks, if_pos passes]
    exact measBlocks_ok passes.2.1 ⟨tracksFrom_nil st, keeps_nil⟩
  have finished : ∀ time, rawxTime msg = .ok time →
      ∃ s' st', parseMeasMsg st msg = .ok (s'.obsMeas, st') ∧
        Gathered time st (frameBlocks msg) s' ∧ TracksFrom st (frameBlocks msg) st' := by
    intro time timed
    obtain ⟨s', ran, gathered⟩ := looped time
    rw [parseMeasMsg_passes st passes, timed, ok_bind, ran, ok_bind]
    by_cases empty : s'.obsMeas.isEmpty = true
    · rw [if_pos empty]
      exact ⟨_, _, rfl, gathered, gathered.tracks⟩
    · rw [if_neg empty]
      exact ⟨_, _, rfl, gathered, gathered.tracks⟩
  refine ⟨fun number => ?_, fun obsMeas st' ran => ?_⟩
  · obtain ⟨time, timed⟩ := rawxTime_ok number
    obtain ⟨s', st', ran, _⟩ := finished time timed
    exact ⟨_, ran⟩
  · have entered := ran
    rw [parseMeasMsg_passes st passes] at entered
    obtain ⟨time, timed, _⟩ := bind_eq_ok.mp entered
    obtain ⟨s', st'', ran', gathered, tracks⟩ := finished time timed
    rw [ran] at ran'
    cases ran'
    exact ⟨time, s', timed, gathered, rfl, tracks⟩

theorem parseMeasMsg_ok {st : Processor} (tracks : Tracks past st) (msg : List UInt8) :
    (rawxTow msg ≠ .nan → ∃ r, parseMeasMsg st msg = .ok r) ∧
    ∀ obsMeas st', parseMeasMsg st msg = .ok (obsMeas, st') →
      Tracks (past ++ frameBlocks msg) st' ∧
        ∃ time, FrameObs time past (frameBlocks msg) obsMeas := by
  by_cases passes : FramePasses msg
  · obtain ⟨returns, grouped⟩ := parseMeasMsg_gathered st passes
    refine ⟨returns, fun obsMeas st' ran => ?_⟩
    obtain ⟨time, s', _, gathered, rfl, after⟩ := grouped obsMeas st' ran
    exact ⟨tracks.append after, time, (gathered.grouped tracks).frameObs⟩
  · have ran := parseMeasMsg_fails st passes
    refine ⟨fun _ => ⟨_, ran⟩, fun obsMeas st' same => ?_⟩
    rw [ran] at same
    cases same
    rw [frameBlocks, if_neg passes, List.append_nil]
    exact ⟨tracks, ⟨0, 0⟩, fun _ some => absurd rfl some, by simp, List.nodup_nil⟩

end

end GnssParser
