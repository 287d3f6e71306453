import GnssParser.Model.RinexWriter
import GnssParser.Proof.RinexColumns

/-!
# The RINEX writer

The searches of `obs2rinex` stop at an epoch if there is one with observations, and no other index of
the writer leaves its list.
-/

namespace GnssParser
open Checked Text

/-! ## The slot table -/

section
variable (sat2freqo : List (Nat × Int))

def slotEntry (k : Nat) : List Char :=
  match sat2freqo[k]? with
  | some (sat, freqo) => ' ' :: padLeft 3 (sat2str sat) ++ ' ' :: padLeft 2 (intText freqo)
  | none => ' ' :: blanks 6

def slotText (i : Nat) : List Char :=
  (if i = 0 then padLeft 3 (natText sat2freqo.length) else blanks 3) ++
    ((List.range 8).flatMap fun j => slotEntry sat2freqo (i * 8 + j)) ++
    ' ' :: padRight 20 "GLONASS SLOT / FRQ #".toList

/-- The iterator stands at the first satellite of the line. -/
theorem slotLine_eq (i : Nat) :
    slotLine sat2freqo i (min (i * 8) sat2freqo.length) =
      .ok (slotText sat2freqo i, min ((i + 1) * 8) sat2freqo.length) := by
  set head := if i = 0 then padLeft 3 (natText sat2freqo.length) else blanks 3 with head_eq
  obtain ⟨⟨line, it⟩, ran, rfl, rfl⟩ := forRange_invariant
    (fun j (s : List Char × Nat) => do
      if i * 8 + j < sat2freqo.length then
        let entry ← loadAt sat2freqo s.2
        pure (s.1 ++ (' ' :: padLeft 3 (sat2str entry.1) ++ ' ' :: padLeft 2 (intText entry.2)), s.2 + 1)
      else pure (s.1 ++ ' ' :: blanks 6, s.2))
    (fun j s => s.1 = head ++ ((List.range j).flatMap fun j => slotEntry sat2freqo (i * 8 + j)) ∧
      s.2 = min (i * 8 + j) sat2freqo.length)
    0 8 (head, min (i * 8) sat2freqo.length) (by simp) (by
      rintro j ⟨line, it⟩ - - ⟨rfl, rfl⟩
      dsimp only
      by_cases inside : i * 8 + j < sat2freqo.length
      · rw [if_pos inside, min_eq_left inside.le, loadAt_getElem inside, ok_bind]
        refine ⟨_, rfl, ?_, by dsimp only; omega⟩
        simp [List.range_succ, slotEntry, List.getElem?_eq_getElem inside]
      · rw [if_neg inside]
        refine ⟨_, rfl, ?_, by dsimp only; omega⟩
        simp [List.range_succ, slotEntry, List.getElem?_eq_none (not_lt.mp inside)])
  have loop : slotLine sat2freqo i (min (i * 8) sat2freqo.length) = (do
      let slots ← Except.ok (head ++ ((List.range 8).flatMap fun j => slotEntry sat2freqo (i * 8 + j)),
        min (i * 8 + 8) sat2freqo.length)
      pure (slots.1 ++ ' ' :: padRight 20 "GLONASS SLOT / FRQ #".toList, slots.2)) := by
    rw [← ran]
    rfl
  rw [loop, Nat.succ_mul]
  rfl

theorem slotTable_eq : slotTable sat2freqo = .ok (slotLines sat2freqo) := by
  set count := if sat2freqo.length = 0 then 1 else (sat2freqo.length - 1) / 8 + 1 with count_eq
  obtain ⟨⟨lines, it⟩, ran, same, -⟩ := forRange_invariant
    (fun i (s : List (List Char) × Nat) => do
      let next ← slotLine sat2freqo i s.2
      pure (s.1 ++ [next.1], next.2))
    (fun i s => s.1 = (List.range i).map (slotText sat2freqo) ∧
      s.2 = min (i * 8) sat2freqo.length)
    0 count ([], 0) (by simp) (by
      rintro i ⟨lines, it⟩ - - ⟨rfl, rfl⟩
      dsimp only
      rw [slotLine_eq, ok_bind]
      exact ⟨_, rfl, by rw [List.range_succ, List.map_append]; rfl, rfl⟩)
  rw [Nat.zero_add] at same
  have loop : slotTable sat2freqo = (do
      let table ← Except.ok (lines, it)
      pure table.1) := by
    rw [← ran]
    rfl
  rw [loop, slotLines, ok_bind, ← count_eq]
  exact congrArg Except.ok same

end

/-! ## First and last epoch -/

section
variable {gnssMeas : List (List Obs)}

/-- The search from the front finds the first epoch with observations. -/
theorem frontIdx_front (before rest : List (List Obs)) :
    (frontIdx before.length rest >>= epochFront (before ++ rest)) =
      match rest.find? fun meas => !meas.isEmpty with
      | some (obs :: _) => .ok obs
      | _ => .error (.outOfBounds (before ++ rest).length (before ++ rest).length) := by
  induction rest generalizing before with
  | nil => simp [frontIdx]
  | cons meas rest ih =>
      cases meas with
      | nil =>
          have next := ih (before ++ [[]])
          rw [List.length_append, List.append_assoc] at next
          exact next
      | cons obs others => simp [frontIdx, epochFront, loadAt]

/-- The search from the back finds the last epoch with observations. -/
theorem backIdx_back (front back : List (List Obs)) :
    (backIdx (front ++ back) front.length >>= epochFront (front ++ back)) =
      match front.reverse.find? fun meas => !meas.isEmpty with
      | some (obs :: _) => .ok obs
      | _ => .error (.outOfBounds (2 ^ 64 - 1) (front ++ back).length) := by
  induction front using List.reverseRecOn generalizing back with
  | nil => rfl
  | append_singleton front meas ih =>
      have here : loadAt (front ++ ([meas] ++ back)) front.length = .ok meas := by simp [loadAt]
      rw [List.append_assoc, List.length_append, List.length_singleton, backIdx, here, ok_bind,
        List.reverse_append]
      cases meas with
      | nil => exact ih ([[]] ++ back)
      | cons obs others => simp [epochFront, loadAt]

theorem firstObs_empty (empty : ∀ meas ∈ gnssMeas, meas = []) :
    firstObs gnssMeas = .error (.outOfBounds gnssMeas.length gnssMeas.length) := by
  have none : gnssMeas.find? (fun meas => !meas.isEmpty) = none := by simpa using empty
  rw [firstObs, none]

theorem firstObs_found {meas : List Obs} (mem : meas ∈ gnssMeas) (nonempty : meas ≠ []) :
    ∃ obs rest, gnssMeas.find? (fun meas => !meas.isEmpty) = some (obs :: rest) ∧
      firstObs gnssMeas = .ok obs := by
  cases found : gnssMeas.find? fun meas => !meas.isEmpty with
  | none =>
      have empty := List.find?_eq_none.mp found meas mem
      simp [nonempty] at empty
  | some first =>
      cases first with
      | nil => simpa using List.find?_some found
      | cons obs rest => exact ⟨obs, rest, rfl, by rw [firstObs, found]⟩

theorem timeLines_empty (empty : ∀ meas ∈ gnssMeas, meas = []) (listed : gnssMeas ≠ []) :
    timeLines gnssMeas = .error (.outOfBounds gnssMeas.length gnssMeas.length) := by
  have front : (frontIdx 0 gnssMeas >>= epochFront gnssMeas) = firstObs gnssMeas :=
    frontIdx_front [] gnssMeas
  rw [timeLines, if_neg (by simpa using listed), ← bind_assoc, front, firstObs_empty empty]
  rfl

theorem timeLines_found {meas : List Obs} (mem : meas ∈ gnssMeas) (nonempty : meas ≠ []) :
    ∃ start finish, firstObs gnssMeas = .ok start ∧ firstObs gnssMeas.reverse = .ok finish ∧
      timeLines gnssMeas =
        .ok [timeLine start.time "TIME OF FIRST OBS", timeLine finish.time "TIME OF LAST OBS"] := by
  obtain ⟨start, _, _, first⟩ := firstObs_found mem nonempty
  obtain ⟨finish, _, found, last⟩ := firstObs_found (List.mem_reverse.mpr mem) nonempty
  have front : (frontIdx 0 gnssMeas >>= epochFront gnssMeas) = .ok start :=
    (frontIdx_front [] gnssMeas).trans first
  have back : (backIdx gnssMeas gnssMeas.length >>= epochFront gnssMeas) = .ok finish := by
    have searched := backIdx_back gnssMeas []
    rw [found, List.append_nil] at searched
    exact searched
  refine ⟨start, finish, first, last, ?_⟩
  rw [timeLines, if_neg (by simpa using List.ne_nil_of_mem mem), ← bind_assoc, front, ok_bind,
    ← bind_assoc, back]
  rfl

end

/-- The indexed writer is `obs2rinex`. -/
theorem obs2rinexLoops_eq (now : UtcDate) (gnssMeas : List (List Obs)) :
    obs2rinexLoops now gnssMeas = obs2rinex now gnssMeas := by
  rw [obs2rinexLoops, obs2rinex, obsHeader, slotTable_eq]
  by_cases observed : ∃ meas ∈ gnssMeas, meas ≠ []
  · obtain ⟨meas, mem, nonempty⟩ := observed
    obtain ⟨start, finish, first, last, times⟩ := timeLines_found mem nonempty
    rw [times, first, last, if_neg (by simpa using List.ne_nil_of_mem mem)]
    rfl
  · push Not at observed
    cases gnssMeas with
    | nil => rfl
    | cons meas rest =>
        rw [timeLines_empty observed (List.cons_ne_nil _ _), firstObs_empty observed]
        rfl

/-! ## Epochs -/

structure Obs.Parallel (obs : Obs) : Prop where
  psr : obs.psr.length = obs.freqs.length
  cp : obs.cp.length = obs.freqs.length
  dopp : obs.dopp.length = obs.freqs.length
  cn0 : obs.cn0.length = obs.freqs.length

theorem Obs.Parallel.dataLine {obs : Obs} (parallel : obs.Parallel) :
    ∃ line, dataLine obs = .ok line := by
  have columns : ∀ k, ∃ text, bandColumns obs k = .ok text := by
    intro k
    rcases indexFreq_cases obs k with none | ⟨freq, i, found⟩
    · refine ⟨blanks 64, ?_⟩
      unfold bandColumns
      simp only [none]
      rfl
    · have inside := (List.getElem?_eq_some_iff.mp (indexFreq_found found).2).1
      have nonneg : ¬ freq < 0 :=
        not_lt.mpr ((bandLimits_nonneg _ _).trans (indexFreq_found found).1.1)
      unfold bandColumns
      simp only [found, if_neg nonneg, Option.getD_some]
      rw [loadAt_getElem (parallel.psr ▸ inside), loadAt_getElem (parallel.cp ▸ inside),
        loadAt_getElem (parallel.dopp ▸ inside), loadAt_getElem (parallel.cn0 ▸ inside)]
      exact ⟨_, rfl⟩
  obtain ⟨first, one⟩ := columns 0
  obtain ⟨second, two⟩ := columns 1
  exact ⟨_, by rw [GnssParser.dataLine, one, ok_bind, two, ok_bind]; rfl⟩

/-- The line of an epoch and a data line for each observation, in the order of satellites. -/
def EpochWritten (meas : List Obs) (lines : List (List Char)) : Prop :=
  ∃ first sorted data, meas.head? = some first ∧ sorted.Perm meas ∧
    sorted.Pairwise (fun a b => a.sat ≤ b.sat) ∧
    List.Forall₂ (fun obs line => dataLine obs = .ok line) sorted data ∧
    lines = epochLine first.time meas.length :: data

theorem epochLines_written {meas : List Obs} (parallel : ∀ obs ∈ meas, obs.Parallel)
    (nonempty : meas ≠ []) : ∃ lines, epochLines meas = .ok lines ∧ EpochWritten meas lines := by
  obtain ⟨first, rest, rfl⟩ := List.exists_cons_of_ne_nil nonempty
  have perm := List.perm_insertionSort (fun a b : Obs => a.sat ≤ b.sat) (first :: rest)
  obtain ⟨data, each⟩ := exists_forall₂ (fun obs line => dataLine obs = .ok line)
    ((first :: rest).insertionSort fun a b => a.sat ≤ b.sat)
    fun obs mem => (parallel obs (perm.mem_iff.mp mem)).dataLine
  refine ⟨epochLine first.time (first :: rest).length :: data, ?_, first, _, data, rfl, perm, ?_, each, rfl⟩
  · rw [epochLines, mapM_of_forall₂ each]
    rfl
  · have : Std.Total fun a b : Obs => a.sat ≤ b.sat := ⟨fun a b => le_total a.sat b.sat⟩
    have : IsTrans Obs fun a b => a.sat ≤ b.sat := ⟨fun _ _ _ => le_trans⟩
    exact List.pairwise_insertionSort (fun a b : Obs => a.sat ≤ b.sat) (first :: rest)

theorem epochs_written {gnssMeas : List (List Obs)}
    (parallel : ∀ meas ∈ gnssMeas, ∀ obs ∈ meas, obs.Parallel) :
    ∃ data epochs, gnssMeas.mapM epochLines = .ok data ∧ data.flatten = epochs.flatten ∧
      List.Forall₂ EpochWritten (gnssMeas.filter fun meas => !meas.isEmpty) epochs := by
  induction gnssMeas with
  | nil => exact ⟨[], [], rfl, rfl, .nil⟩
  | cons meas rest ih =>
      obtain ⟨data, epochs, ran, same, written⟩ :=
        ih fun other mem => parallel other (List.mem_cons_of_mem _ mem)
      cases meas with
      | nil =>
          refine ⟨[] :: data, epochs, ?_, same, written⟩
          rw [List.mapM_cons, epochLines, pure_eq, ok_bind, ran, ok_bind, pure_eq]
      | cons obs others =>
          obtain ⟨lines, first, epoch⟩ :=
            epochLines_written (parallel _ List.mem_cons_self) (List.cons_ne_nil obs others)
          refine ⟨lines :: data, lines :: epochs, ?_, congrArg (lines ++ ·) same, .cons epoch written⟩
          rw [List.mapM_cons, first, ok_bind, ran, ok_bind, pure_eq]

/-- The call ends without an access outside a list, and the file has every epoch with observations
once, in order. -/
def RinexWritten (now : UtcDate) (gnssMeas : List (List Obs)) : Prop :=
  ∃ times epochs, timeLines gnssMeas = .ok times ∧
    obs2rinexLoops now gnssMeas = .ok (unlines ((versionLine :: dateLine now ::
      headerAround times (slotLines (getGloFreqo gnssMeas))) ++ epochs.flatten)) ∧
    List.Forall₂ EpochWritten (gnssMeas.filter fun meas => !meas.isEmpty) epochs

/-- The search for the first epoch has no other end than an epoch with observations. -/
theorem not_rinexWritten (now : UtcDate) {gnssMeas : List (List Obs)} (listed : gnssMeas ≠ [])
    (empty : ∀ meas ∈ gnssMeas, meas = []) : ¬ RinexWritten now gnssMeas := by
  rintro ⟨times, epochs, ran, -⟩
  cases (timeLines_empty empty listed).symm.trans ran

theorem rinexWritten_iff (now : UtcDate) {gnssMeas : List (List Obs)}
    (parallel : ∀ meas ∈ gnssMeas, ∀ obs ∈ meas, obs.Parallel) :
    RinexWritten now gnssMeas ↔ gnssMeas = [] ∨ ∃ meas ∈ gnssMeas, meas ≠ [] := by
  constructor
  · intro written
    by_contra none
    push Not at none
    exact not_rinexWritten now none.1 none.2 written
  · intro observed
    obtain ⟨times, ran⟩ : ∃ times, timeLines gnssMeas = .ok times := by
      rcases observed with rfl | ⟨meas, mem, nonempty⟩
      · exact ⟨[], rfl⟩
      · obtain ⟨start, finish, -, -, found⟩ := timeLines_found mem nonempty
        exact ⟨_, found⟩
    obtain ⟨data, epochs, mapped, same, written⟩ := epochs_written parallel
    refine ⟨times, epochs, ran, ?_, written⟩
    rw [obs2rinexLoops, ran, ok_bind, slotTable_eq, ok_bind, mapped, ok_bind, same]
    rfl

/-- A satellite with the signal of one frequency. -/
def singleSignal (time : Int) (sat : Nat) (freq psr cp : ℚ) : Obs where
  time := ⟨time, 0⟩
  sat := sat
  freqs := [freq]
  cn0 := [45]
  psr := [.finite psr]
  cp := [.finite cp]
  dopp := [.finite (-1250)]

theorem rinexWritten_iff_twoEpochs :
    RinexWritten ⟨2026, 5, 1, 12, 30, 9⟩
      [[],
        [singleSignal 1777638600 3 freq1 22177400 116543210,
          singleSignal 1777638600 33 freq1Glo 20177400 107823450],
        [singleSignal 1777638601 3 freq1 22177650 116544460]] := by
  refine (rinexWritten_iff _ fun meas mem obs own => ?_).mpr (.inr ⟨_, .tail _ (.head _), by simp⟩)
  have parallel : ∀ time sat freq psr cp, (singleSignal time sat freq psr cp).Parallel :=
    fun _ _ _ _ _ => ⟨rfl, rfl, rfl, rfl⟩
  simp only [List.mem_cons, List.not_mem_nil, or_false] at mem
  rcases mem with rfl | rfl | rfl
  · cases own
  · simp only [List.mem_cons, List.not_mem_nil, or_false] at own
    rcases own with rfl | rfl <;> exact parallel _ _ _ _ _
  · cases List.mem_singleton.mp own
    exact parallel _ _ _ _ _

theorem emptyEpoch_outOfBounds : ¬ RinexWritten ⟨2026, 5, 1, 12, 30, 9⟩ [[]] :=
  not_rinexWritten _ (List.cons_ne_nil _ _) fun _ mem => List.mem_singleton.mp mem

end GnssParser
