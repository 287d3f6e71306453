import GnssParser.Model.Rinex
import Mathlib.Data.List.Forall2

/-!
# RINEX files written and read back

The reader stores into vectors that it never resizes, so that no file gives it a signal.
-/

namespace GnssParser
open Text Text.Run

/-! ## The round trip -/

/-- An observation with signals in the bands of its system that fit the columns. -/
structure RinexObs (obs : Obs) : Prop where
  sys : (satsys obs.sat).1 ∈ [sysGps, sysGal, sysBds]
  some : obs.freqs ≠ []
  distinct : obs.freqs.Nodup
  bands : ∀ freq ∈ obs.freqs, ∃ k < 2, freq = (bandLimits (satsys obs.sat).1 k).1
  parallel : obs.cn0.length = obs.freqs.length ∧ obs.lli.length = obs.freqs.length ∧
    obs.code.length = obs.freqs.length ∧ obs.psr.length = obs.freqs.length ∧
    obs.psrStd.length = obs.freqs.length ∧ obs.cp.length = obs.freqs.length ∧
    obs.cpStd.length = obs.freqs.length ∧ obs.dopp.length = obs.freqs.length ∧
    obs.doppStd.length = obs.freqs.length ∧ obs.status.length = obs.freqs.length
  fits : ∀ value ∈ obs.psr ++ obs.cp ++ obs.dopp ++ obs.cn0.map Ieee.finite,
    ∃ x, value = .finite x ∧ (fixedText 3 x).length ≤ 14

structure RinexEpoch (meas : List Obs) : Prop where
  some : meas ≠ []
  obs : ∀ obs ∈ meas, RinexObs obs
  distinct : (meas.map Obs.sat).Nodup

def SameValue (written read : Option Ieee) : Prop :=
  ∃ x y, written = some (.finite x) ∧ read = some (.finite y) ∧ |x - y| ≤ 1e-3

/-- The same frequencies, with the same values up to the printed decimals. -/
structure SameSignals (obs obs' : Obs) : Prop where
  freqs : ∀ freq, freq ∈ obs.freqs ↔ freq ∈ obs'.freqs
  values : ∀ (i j : Nat) freq, obs.freqs[i]? = some freq → obs'.freqs[j]? = some freq →
    SameValue obs.psr[i]? obs'.psr[j]? ∧ SameValue obs.cp[i]? obs'.cp[j]? ∧
      SameValue obs.dopp[i]? obs'.dopp[j]? ∧
      SameValue (obs.cn0[i]?.map Ieee.finite) (obs'.cn0[j]?.map Ieee.finite)

structure SameEpoch (meas meas' : List Obs) : Prop where
  time : ∀ first ∈ meas.head?, ∀ obs' ∈ meas', |timeDiff obs'.time first.time| ≤ 1e-7
  sats : ∀ sat, sat ∈ meas.map Obs.sat ↔ sat ∈ meas'.map Obs.sat
  signals : ∀ obs ∈ meas, ∀ obs' ∈ meas', obs.sat = obs'.sat → SameSignals obs obs'

def RoundTrips (now : UtcDate) (gnssMeas : List (List Obs)) : Prop :=
  ∃ file rinexMeas, obs2rinex now gnssMeas = .ok file ∧ rinex2obs file = .ok rinexMeas ∧
    List.Forall₂ SameEpoch gnssMeas rinexMeas

/-! ## The reader -/

structure NoSignals (obs : Obs) : Prop where
  freqs : obs.freqs = []
  cp : obs.cp = []
  psr : obs.psr = []
  dopp : obs.dopp = []
  cn0 : obs.cn0 = []

section
variable {sysChar : Char} {line : List Char} {sys2type : Sys2Type}

theorem storeAt_nil {α : Type} (i : Nat) (value : α) :
    storeAt [] i value = .error (.outOfBounds i 0) := by
  exact if_neg (Nat.not_lt_zero i)

theorem NoSignals.freqIndex {s : LineState} (none : NoSignals s.obs) (freq : ℚ) :
    (s.freqIndex freq).1.obs.cp = [] ∧ (s.freqIndex freq).1.obs.psr = [] ∧
      (s.freqIndex freq).1.obs.dopp = [] ∧ (s.freqIndex freq).1.obs.cn0 = [] := by
  rw [LineState.freqIndex]
  cases s.freq2idx.lookup freq with
  | none => exact ⟨none.cp, none.psr, none.dopp, none.cn0⟩
  | some i => exact ⟨none.cp, none.psr, none.dopp, none.cn0⟩

theorem store_fails {obs obs' : Obs} {kind : Char} {i : Nat} {value : Ieee}
    (empty : obs.cp = [] ∧ obs.psr = [] ∧ obs.dopp = [] ∧ obs.cn0 = []) :
    obs.store kind i value ≠ .ok obs' := by
  obtain ⟨cp, psr, dopp, cn0⟩ := empty
  intro stored
  rw [Obs.store, cp, psr, dopp, cn0, storeAt_nil, storeAt_nil] at stored
  split_ifs at stored
  all_goals cases stored

theorem readField_keeps {s s' : LineState} {type : List Char} (none : NoSignals s.obs)
    (read : readField sysChar line s type = .ok s') : s'.obs = s.obs := by
  rw [readField] at read
  obtain ⟨field, _, read⟩ := bind_eq_ok.mp read
  dsimp only at read
  split_ifs at read with blank
  · cases read
    rfl
  obtain ⟨value, _, read⟩ := bind_eq_ok.mp read
  obtain ⟨band, _, read⟩ := bind_eq_ok.mp read
  obtain ⟨freq, _, read⟩ := bind_eq_ok.mp read
  obtain ⟨kind, _, read⟩ := bind_eq_ok.mp read
  obtain ⟨obs, stored, _⟩ := bind_eq_ok.mp read
  have advanced : NoSignals ({ s with lineOffset := s.lineOffset + 14 + 2 } : LineState).obs := none
  exact absurd stored (store_fails (advanced.freqIndex freq))

theorem readFields_keep {types : List (List Char)} {s s' : LineState} (none : NoSignals s.obs)
    (read : types.foldlM (readField sysChar line) s = .ok s') : s'.obs = s.obs := by
  induction types generalizing s with
  | nil =>
      cases read
      rfl
  | cons type types ih =>
      rw [List.foldlM_cons] at read
      obtain ⟨s₁, first, rest⟩ := bind_eq_ok.mp read
      have same := readField_keeps none first
      rw [ih (by rw [same]; exact none) rest, same]

theorem rinexLine2obs_freqs {obs : Obs} (read : rinexLine2obs line sys2type = .ok (some obs)) :
    obs.freqs = [] := by
  rw [rinexLine2obs] at read
  obtain ⟨sysChar, _, read⟩ := bind_eq_ok.mp read
  cases known : char2sys sysChar with
  | none =>
      rw [known] at read
      cases read
  | some sys =>
      rw [known] at read
      obtain ⟨digits, _, read⟩ := bind_eq_ok.mp read
      obtain ⟨prn, _, read⟩ := bind_eq_ok.mp read
      obtain ⟨types, _, read⟩ := bind_eq_ok.mp read
      obtain ⟨s, fields, read⟩ := bind_eq_ok.mp read
      have same := readFields_keep ⟨rfl, rfl, rfl, rfl, rfl⟩ fields
      -- the vectors are filled up to no frequencies
      iterate 10 obtain ⟨_, _, read⟩ := bind_eq_ok.mp read
      cases read
      exact congrArg Obs.freqs same

theorem readObs_nothing {obsTime : GTime} {n : Nat} {rest rest' : List (List Char)}
    {meas meas' : List Obs} (read : readObs sys2type obsTime n rest meas = .ok (meas', rest')) :
    meas' = meas := by
  induction n generalizing rest meas with
  | zero =>
      rw [readObs] at read
      cases read
      rfl
  | succ n ih =>
      cases rest with
      | nil => cases read
      | cons line rest =>
          rw [readObs] at read
          obtain ⟨result, one, read⟩ := bind_eq_ok.mp read
          cases result with
          | none => exact ih read
          | some obs =>
              dsimp only at read
              rw [rinexLine2obs_freqs one, List.isEmpty_nil, if_pos rfl] at read
              exact ih read

theorem readEpochs_nothing {fuel : Nat} {rest : List (List Char)} {rinexMeas result : List (List Obs)}
    (read : readEpochs sys2type fuel rest rinexMeas = .ok result) :
    ∀ meas ∈ result, meas ∈ rinexMeas ∨ meas = [] := by
  induction fuel generalizing rest rinexMeas with
  | zero =>
      cases rest with
      | nil => cases read; exact fun meas => .inl
      | cons line rest => cases read; exact fun meas => .inl
  | succ fuel ih =>
      cases rest with
      | nil => cases read; exact fun meas => .inl
      | cons line rest =>
          rw [readEpochs] at read
          iterate 4 obtain ⟨_, _, read⟩ := bind_eq_ok.mp read
          obtain ⟨obsTime, _, read⟩ := bind_eq_ok.mp read
          obtain ⟨columns, _, read⟩ := bind_eq_ok.mp read
          obtain ⟨numObs, _, read⟩ := bind_eq_ok.mp read
          obtain ⟨⟨meas, others⟩, one, read⟩ := bind_eq_ok.mp read
          obtain rfl := readObs_nothing one
          intro meas mem
          rcases ih read meas mem with old | rfl
          · rw [List.mem_append, List.mem_singleton] at old
            exact old
          · exact .inr rfl

end

/-- Whatever file is read, no epoch has an observation. -/
theorem rinex2obs_nothing {file : List Char} {rinexMeas : List (List Obs)}
    (read : rinex2obs file = .ok rinexMeas) : ∀ meas ∈ rinexMeas, meas = [] := by
  rw [rinex2obs] at read
  obtain ⟨header, _, read⟩ := bind_eq_ok.mp read
  cases header with
  | none =>
      cases read
      simp
  | some header =>
      intro meas mem
      rcases readEpochs_nothing read meas mem with old | empty
      · cases old
      · exact empty

/-! ## The file of no epochs -/

theorem mem_zeroPad {width : Nat} {text : List Char} {c : Char} (mem : c ∈ zeroPad width text) :
    c ∈ text ∨ c = '0' := by
  unfold zeroPad at mem
  split at mem
  · rcases List.mem_cons.mp mem with rfl | mem
    · exact .inl List.mem_cons_self
    · rcases List.mem_append.mp mem with zero | digit
      · exact .inr (List.eq_of_mem_replicate zero)
      · exact .inl (List.mem_cons_of_mem _ digit)
  · rcases List.mem_append.mp mem with zero | digit
    · exact .inr (List.eq_of_mem_replicate zero)
    · exact .inl digit

theorem mem_padLeft {width : Nat} {text : List Char} {c : Char} (mem : c ∈ padLeft width text) :
    c = ' ' ∨ c ∈ text := by
  rcases List.mem_append.mp mem with blank | mem
  · exact .inl (List.eq_of_mem_replicate blank)
  · exact .inr mem

theorem mem_padRight {width : Nat} {text : List Char} {c : Char} (mem : c ∈ padRight width text) :
    c ∈ text ∨ c = ' ' := by
  rcases List.mem_append.mp mem with mem | blank
  · exact .inl mem
  · exact .inr (List.eq_of_mem_replicate blank)

theorem mem_intText {i : Int} {c : Char} (mem : c ∈ intText i) : c.isDigit ∨ c = '-' := by
  cases i with
  | ofNat n => exact .inl (Nat.isDigit_of_mem_toDigits (by decide) (by decide) mem)
  | negSucc n =>
      rcases List.mem_cons.mp mem with rfl | digit
      · exact .inr rfl
      · exact .inl (Nat.isDigit_of_mem_toDigits (by decide) (by decide) digit)

theorem mem_dateStr {now : UtcDate} {c : Char} (mem : c ∈ dateStr now) :
    c.isDigit ∨ c ∈ ['-', ' ', 'U', 'T', 'C'] := by
  have number : ∀ {width : Nat} {i : Int}, c ∈ zeroPad width (intText i) →
      c.isDigit ∨ c ∈ ['-', ' ', 'U', 'T', 'C'] := by
    intro width i mem
    rcases mem_zeroPad mem with mem | rfl
    · rcases mem_intText mem with digit | rfl
      · exact .inl digit
      · exact .inr (by decide)
    · exact .inl (by decide)
  simp only [dateStr, List.mem_append] at mem
  rcases mem with ((((((year | mon) | mday) | space) | hour) | min) | sec) | utc
  · rcases mem_padLeft year with rfl | mem
    · exact .inr (by decide)
    · exact (mem_intText mem).imp_right fun minus => by simp [minus]
  · exact number mon
  · exact number mday
  · exact .inr (by simp_all)
  · exact number hour
  · exact number min
  · exact number sec
  · exact .inr (List.mem_cons_of_mem _ utc)

theorem notMem_dateLine (now : UtcDate) {c : Char} (digit : c.isDigit = false)
    (other : c ∉ padRight 20 "gnss_comm obs2rinex".toList ++ padRight 20 "PGM / RUN BY / DATE".toList ++
      ['-', ' ', 'U', 'T', 'C']) : c ∉ dateLine now := by
  simp only [List.mem_append, not_or] at other
  obtain ⟨⟨program, label⟩, date⟩ := other
  have blank : c ≠ ' ' := fun same => date (by simp [same])
  simp only [dateLine, List.mem_append, not_or]
  refine ⟨⟨⟨program, fun mem => blank (List.eq_of_mem_replicate mem)⟩, fun mem => ?_⟩, label⟩
  rcases mem_padRight mem with mem | rfl
  · rcases mem_dateStr (List.mem_of_mem_take mem) with isDigit | mem
    · rw [digit] at isDigit
      cases isDigit
    · exact date mem
  · exact blank rfl

theorem contains_eq_false {needle text : List Char} {c : Char} (letter : c ∈ needle)
    (absent : c ∉ text) : contains needle text = false :=
  Bool.eq_false_iff.mpr fun found => absent (subset_of_contains found letter)

theorem readHeader_date (now : UtcDate) (rest : List (List Char)) (sys2type : Sys2Type) (c : Char) :
    readHeader (dateLine now :: rest) sys2type c = readHeader rest sys2type c := by
  have version : contains "RINEX VERSION / TYPE".toList (dateLine now) = false :=
    contains_eq_false (c := 'X') (by decide) (notMem_dateLine now (by decide) (by decide))
  have types : contains "SYS / # / OBS TYPES".toList (dateLine now) = false :=
    contains_eq_false (c := '#') (by decide) (notMem_dateLine now (by decide) (by decide))
  have header : contains "END OF HEADER".toList (dateLine now) = false :=
    contains_eq_false (c := 'H') (by decide) (notMem_dateLine now (by decide) (by decide))
  rw [readHeader, version, types, header]
  rfl

theorem rinex2obs_empty (now : UtcDate) :
    ∃ file, obs2rinex now [] = .ok file ∧ rinex2obs file = .ok [] := by
  have single : ∀ line ∈ versionLine :: dateLine now :: headerAfterDate [] [], '\n' ∉ line := by
    have fixed : ∀ line ∈ versionLine :: headerAfterDate [] [], '\n' ∉ line := by decide +kernel
    intro line mem
    rcases List.mem_cons.mp mem with rfl | mem
    · exact fixed _ List.mem_cons_self
    rcases List.mem_cons.mp mem with rfl | mem
    · exact notMem_dateLine now (by decide) (by decide)
    · exact fixed line (List.mem_cons_of_mem _ mem)
  have version : readHeader (versionLine :: dateLine now :: headerAfterDate [] []) [] '\x00' =
      readHeader (headerAfterDate [] []) [] '\x00' := by
    rw [readHeader, if_neg (by decide +kernel), if_neg (by decide +kernel),
      if_neg (by decide +kernel), readHeader_date]
  have noEpoch : (readHeader (headerAfterDate [] []) [] '\x00').map (Option.map Prod.snd) =
      .ok (some []) := by
    decide +kernel
  refine ⟨unlines (versionLine :: dateLine now :: headerAfterDate [] []), ?_, ?_⟩
  · simp [obs2rinex, obsHeader, getGloFreqo]
  rw [rinex2obs, lines_unlines single, version]
  cases header : readHeader (headerAfterDate [] []) [] '\x00' with
  | error halt =>
      rw [header] at noEpoch
      cases noEpoch
  | ok result =>
      rw [header] at noEpoch
      cases result with
      | none => rfl
      | some result =>
          obtain ⟨sys2type, others⟩ := result
          obtain rfl : others = [] := Option.some.inj (Except.ok.inj noEpoch)
          rfl

/-- The file of an epoch list is read back as that list if and only if the list is empty. -/
theorem rinex_round_trip_iff (now : UtcDate) {gnssMeas : List (List Obs)}
    (valid : ∀ meas ∈ gnssMeas, RinexEpoch meas) : RoundTrips now gnssMeas ↔ gnssMeas = [] := by
  constructor
  · rintro ⟨file, rinexMeas, _, read, same⟩
    cases same with
    | nil => rfl
    | @cons meas meas' _ _ first others =>
        have none := rinex2obs_nothing read meas' List.mem_cons_self
        obtain ⟨obs, others, some⟩ := List.exists_cons_of_ne_nil (valid meas List.mem_cons_self).some
        have mem := (first.sats obs.sat).mp (by simp [some])
        rw [none] at mem
        cases mem
  · rintro rfl
    obtain ⟨file, written, read⟩ := rinex2obs_empty now
    exact ⟨file, [], written, read, .nil⟩

def oneSignal : Obs where
  time := ⟨1700000000, 1 / 2⟩
  sat := 5
  freqs := [freq1]
  cn0 := [45]
  lli := [0]
  code := [1]
  psr := [.finite 20000000]
  psrStd := [1 / 2]
  cp := [.finite 105000000]
  cpStd := [1 / 250]
  dopp := [.finite (-1250)]
  doppStd := [1 / 500]
  status := [15]

theorem oneSignal_valid : RinexEpoch [oneSignal] := by
  refine ⟨nofun, fun obs mem => ?_, by simp⟩
  obtain rfl := List.mem_singleton.mp mem
  refine ⟨by decide, nofun, by simp [oneSignal], fun freq mem => ⟨0, by decide, ?_⟩, by decide, ?_⟩
  · obtain rfl := List.mem_singleton.mp mem
    have sys : (satsys oneSignal.sat).1 = sysGps := by decide
    rw [sys, bandLimits, if_pos ⟨rfl, rfl⟩]
  · have fits : ∀ x ∈ [(20000000 : ℚ), 105000000, -1250, 45], (fixedText 3 x).length ≤ 14 := by
      decide +kernel
    intro value mem
    obtain ⟨x, among, rfl⟩ : ∃ x ∈ [(20000000 : ℚ), 105000000, -1250, 45], Ieee.finite x = value := by
      simpa [oneSignal, eq_comm] using mem
    exact ⟨x, rfl, fits x among⟩

/-- The reader of the file of one signal writes outside a vector. -/
theorem rinex_stores_outside :
    (∃ file, obs2rinex ⟨2026, 5, 1, 12, 30, 9⟩ [[oneSignal]] = .ok file ∧
      rinex2obs file = .error (.undefined (.outOfBounds 0 0))) ∧
    ¬ ∀ now gnssMeas, (∀ meas ∈ gnssMeas, RinexEpoch meas) → RoundTrips now gnssMeas := by
  have fault : (match obs2rinex ⟨2026, 5, 1, 12, 30, 9⟩ [[oneSignal]] with
      | .ok file => (match rinex2obs file with
          | .ok _ => none
          | .error halt => some halt)
      | .error _ => none) = some (.undefined (.outOfBounds 0 0)) := by
    decide +kernel
  cases written : obs2rinex ⟨2026, 5, 1, 12, 30, 9⟩ [[oneSignal]] with
  | error _ =>
      rw [written] at fault
      cases fault
  | ok file =>
      rw [written] at fault
      cases read : rinex2obs file with
      | ok _ =>
          dsimp only at fault
          rw [read] at fault
          cases fault
      | error halt =>
          dsimp only at fault
          rw [read] at fault
          cases fault
          refine ⟨⟨file, rfl, read⟩, fun always => ?_⟩
          obtain ⟨file', rinexMeas, written', read', _⟩ :=
            always ⟨2026, 5, 1, 12, 30, 9⟩ [[oneSignal]] fun meas mem => by
              obtain rfl := List.mem_singleton.mp mem
              exact oneSignal_valid
          rw [written] at written'
          cases written'
          rw [read] at read'
          cases read'

theorem rinex_round_trip_iff_signal : ¬ RoundTrips ⟨2026, 5, 1, 12, 30, 9⟩ [[oneSignal]] := by
  rw [rinex_round_trip_iff _ fun meas mem => by
    obtain rfl := List.mem_singleton.mp mem
    exact oneSignal_valid]
  exact nofun

end GnssParser
