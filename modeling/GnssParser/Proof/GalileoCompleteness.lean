import GnssParser.Proof.Interleaving

/-!
# Completeness of Galileo

Word 2 starts a set, and the words that follow complete it in any order: each sets its own flag, and
only word 2 and a decoded set reset them.
-/

namespace GnssParser
open Checked BitView

/-! ## Galileo pages -/

def galSentBit (msg : List UInt8) (k : Nat) : Bool := galWordBit (navBit msg) k

def galSent (msg : List UInt8) (pos len : Nat) : Nat := field (galSentBit msg) pos len

structure GalFrame (prn type : Nat) (msg : List UInt8) : Prop where
  frame : SfrbxFrame msg
  long : 48 ≤ msg.length
  gnssId : msg.getD 6 0 = 2
  svid : (msg.getD 7 0).toNat = prn
  nominal : GalNominal (navBit msg)
  type : galSent msg 0 6 = type

def CarriesGal (prn : Nat) (msg : List UInt8) : Prop := ∃ type, type ≤ 6 ∧ GalFrame prn type msg

/-- Word 2 and then the others in some order, with other frames before each. -/
structure GalScenario (prn : Nat) (order : List Nat) (word : Nat → List UInt8)
    (between : Nat → List (List UInt8)) : Prop where
  range : 1 ≤ prn ∧ prn ≤ 38
  order : ∃ rest, order = 2 :: rest ∧ rest.Perm [0, 1, 3, 4, 5, 6]
  words : ∀ type ≤ 6, GalFrame prn type (word type)
  timeField : galSent (word 0) 6 2 = 2
  issues : ∀ i < 5, 1 ≤ i → galSent (word i) 6 10 = galSent (word 1) 6 10
  number : galSent (word 4) 16 6 = prn
  others : ∀ k < 7, ∀ msg ∈ between k, SfrbxFrame msg
  quiet : ∀ k < 7, ∀ msg ∈ between k, ¬ CarriesGal prn msg

def galCalls (st : Processor) (order : List Nat) (word : Nat → List UInt8)
    (between : Nat → List (List UInt8)) : Checked (List (Option EphemObject) × Processor) :=
  parseAmong st ((List.range 7).map fun k => (between k, word (order.getD k 0)))

def galSentSet (prn : Nat) (word : Nat → List UInt8) : Ephem :=
  galSet (fun j => galSentBit (word (j / 128)) (j % 128)) { sat := satNo sysGal prn }

/-- The last call returns the ephemeris of the words and clears the row, the calls before it return
nothing. -/
def GalCompletes (st : Processor) (prn : Nat) (order : List Nat) (word : Nat → List UInt8)
    (between : Nat → List (List UInt8)) : Prop :=
  ∃ st', galCalls st order word between =
      .ok (List.replicate 6 (some (.ephem { sat := satNo sysGal prn })) ++
        [some (.ephem (galSentSet prn word))], st') ∧
    (galSentSet prn word).ttr.time ≠ 0 ∧
    st'.row (satNo sysGal prn) = .ok (Vector.replicate 380 0)

/-! ## Flags -/

theorem galFlag_testBit (flags : UInt8) {type : Nat} (h : type < 8) (i : Nat) :
    (flags ||| (1 <<< UInt8.ofNat type)).toNat.testBit i =
      (flags.toNat.testBit i || decide (i = type)) := by
  have shifted : ((1 : UInt8) <<< UInt8.ofNat type).toNat = 2 ^ type := by
    have below : 2 ^ type < 2 ^ 8 := Nat.pow_lt_pow_right (by omega) h
    rw [UInt8.toNat_shiftLeft, UInt8.toNat_ofNat', show (1 : UInt8).toNat = 1 from rfl,
      show type % 2 ^ 8 % 8 = type by omega, Nat.one_shiftLeft, Nat.mod_eq_of_lt below]
  rw [UInt8.toNat_or, shifted, Nat.testBit_or, Nat.testBit_two_pow]
  simp only [eq_comm]

theorem galFlags_testBit {types : List Nat} (flags : UInt8) (range : ∀ t ∈ types, t ≤ 6)
    (later : 2 ∉ types) (i : Nat) :
    (types.foldl galFlags flags).toNat.testBit i =
      (flags.toNat.testBit i || decide (i ∈ types)) := by
  induction types generalizing flags with
  | nil => simp
  | cons type rest ih =>
      have first : type ≠ 2 := fun same => later (same ▸ .head _)
      have bound := range type (.head _)
      rw [List.foldl_cons, ih _ (fun t mem => range t (.tail _ mem)) (fun mem => later (.tail _ mem)),
        galFlags, if_neg first, galFlag_testBit flags (by omega) i, Bool.or_assoc]
      congr 1
      rw [← Bool.decide_or]
      simp only [List.mem_cons]

theorem galFlags_complete_iff {types : List Nat} (flags : UInt8) (range : ∀ t ∈ types, t ≤ 6)
    (later : 2 ∉ types) :
    (2 :: types).foldl galFlags flags = 0x7F ↔ ∀ i < 7, i ∈ 2 :: types := by
  have start : galFlags flags 2 = 4 := by rw [galFlags, if_pos rfl]; rfl
  have bits : ∀ i < 8, ((2 :: types).foldl galFlags flags).toNat.testBit i =
      decide (i ∈ 2 :: types) := by
    intro i hi
    rw [List.foldl_cons, start, galFlags_testBit 4 range later i]
    have four : (4 : UInt8).toNat.testBit i = decide (i = 2) := by
      interval_cases i <;> rfl
    rw [four, ← Bool.decide_or]
    simp only [List.mem_cons]
  have full : ∀ i < 8, (0x7F : UInt8).toNat.testBit i = decide (i < 7) := by decide
  constructor
  · intro complete i h
    have bit := bits i (by omega)
    rw [complete, full i (by omega), decide_eq_true h] at bit
    exact of_decide_eq_true bit.symm
  · intro all
    refine byte_ext fun k h => ?_
    rw [byteBit, byteBit, bits _ (by omega), full _ (by omega)]
    by_cases seen : 7 - k < 7
    · rw [decide_eq_true seen, decide_eq_true (all _ seen)]
    · rw [decide_eq_false seen, decide_eq_false]
      intro mem
      rcases List.mem_cons.mp mem with same | mem
      · omega
      · exact absurd (range _ mem) (by omega)

/-! ## One frame -/

structure GalStored (row : Row) (type : Nat) (msg : List UInt8) (row' : Row) : Prop where
  flags : row'[112] = galFlags row[112] type
  word : ∀ j < 128, bufferBit row' (128 * type + j) = galSentBit msg j
  others : ∀ t ≤ 6, t ≠ type → ∀ j < 128,
    bufferBit row' (128 * t + j) = bufferBit row (128 * t + j)

section
variable {prn type : Nat} {msg : List UInt8}

theorem galSentType_eq (msg : List UInt8) : galSent msg 0 6 = field (navBit msg) 2 6 := by
  rw [galSent, show (2 : Nat) = 2 + 0 from rfl, ← field_shift]
  refine field_congr fun j _ upper => ?_
  rw [galSentBit, galWordBit, if_pos (by omega)]

theorem ubxSys_gal {gnssid : Nat} (gal : ubxSys gnssid = sysGal) : gnssid = 2 := by
  unfold ubxSys at gal
  split at gal <;> first | rfl | cases gal

theorem GalFrame.sat_eq (frame : GalFrame prn type msg) : frameSat msg = satNo sysGal prn := by
  rw [frameSat, frameSys, frame.gnssId, frame.svid]
  rfl

section
variable (range : 1 ≤ prn ∧ prn ≤ 38)
include range

theorem galSat_ne_zero : satNo sysGal prn ≠ 0 := by
  rw [satNo_gal, if_pos range]
  omega

theorem parseSubframe_gal (frame : SfrbxFrame msg) (sat : frameSat msg = satNo sysGal prn)
    (st : Processor) :
    parseSubframe st msg [] = (do
      let (_, st, e) ← decodeGalSubframe st msg { sat := satNo sysGal prn }
      pure (some (.ephem e), st, [])) := by
  have valid : frameSat msg ≠ 0 := sat.trans_ne (galSat_ne_zero range)
  have sys : frameSys msg = sysGal := by
    have same := satsys_satNo valid
    rw [← frameSat, sat, satsys_satNo (galSat_ne_zero range)] at same
    exact (Prod.mk.inj same).1.symm
  rw [parseSubframe_some frame.long valid, sys, if_neg (by decide), if_neg (by decide),
    if_pos rfl, sat]

theorem parseSubframe_notGal (frame : SfrbxFrame msg) (sat : frameSat msg = satNo sysGal prn)
    (quiet : ¬ CarriesGal prn msg) {st st' : Processor} {ephem : Option EphemObject}
    {ionoParams : List ℚ} (parsed : parseSubframe st msg [] = .ok (ephem, st', ionoParams)) :
    st' = st := by
  have none : galPage msg = .ok none := by
    by_cases short : msg.length < 48
    · rw [galPage, if_pos short, pure_eq]
    obtain ⟨buff, _, paged⟩ := galPage_ok (show 48 ≤ msg.length by omega)
    have valid : frameSat msg ≠ 0 := sat.trans_ne (galSat_ne_zero range)
    have numbered : (frameSys msg, (msg.getD 7 0).toNat) = (sysGal, prn) := by
      rw [← satsys_satNo valid, ← satsys_satNo (galSat_ne_zero range)]
      exact congrArg satsys sat
    obtain ⟨sys, svid⟩ := Prod.mk.inj numbered
    rw [paged, if_neg]
    rintro ⟨nominal, small⟩
    exact quiet ⟨_, small, frame, by omega, UInt8.toNat_inj.mp (ubxSys_gal sys), svid, nominal,
      galSentType_eq msg⟩
  obtain ⟨rc, page, paged, _, entered⟩ := decodeGalSubframe_eq msg
  rw [none] at paged
  cases paged
  rw [parseSubframe_gal range frame sat, entered] at parsed
  cases parsed
  rfl

theorem parseSubframe_word (frame : GalFrame prn type msg) (small : type ≤ 6) {st : Processor}
    {row : Row} {flags : UInt8} (holds : st.Holds (satNo sysGal prn) row flags) :
    ∃ row', GalStored row type msg row' ∧ parseSubframe st msg [] =
      if row'[112] ≠ 0x7F then .ok (some (.ephem { sat := satNo sysGal prn }),
        st.update (satNo sysGal prn) row' flags none, [])
      else (do
        let (_, st, e) ← decodeGalEphem (st.update (satNo sysGal prn) row' flags none)
          { sat := satNo sysGal prn }
        pure (some (.ephem e), st, [])) := by
  have valid := validSat_satNo (galSat_ne_zero range)
  obtain ⟨buff, same, paged⟩ := galPage_ok frame.long
  obtain ⟨rc, page, paged', _, entered⟩ := decodeGalSubframe_eq msg
  have sent : field (navBit msg) 2 6 = type := (galSentType_eq msg).symm.trans frame.type
  rw [sent, if_pos ⟨frame.nominal, small⟩] at paged
  rw [paged] at paged'
  cases paged'
  obtain ⟨row', wrote, flag, bits⟩ := galStore_ok buff small row
  have word : ∀ j < 128, galWordBit (bufferBit buff) j = galSentBit msg j := by
    intro j h
    rw [galSentBit, galWordBit, galWordBit]
    split_ifs
    · exact same _ (by omega)
    · exact same _ (by omega)
  refine ⟨row', ⟨flag, fun j h => ?_, fun t le other j h => ?_⟩, ?_⟩
  · rw [bits _ (by omega), galSavedBit, if_pos (by omega), Nat.add_sub_cancel_left, word j h]
  · rw [bits _ (by omega), galSavedBit, if_neg (by omega)]
  · rw [parseSubframe_gal range frame.frame frame.sat_eq, entered]
    dsimp only
    rw [galStoreWord, holds.row, ok_bind, wrote, ok_bind, st.setRow_ok valid holds, ok_bind,
      readAt_ok (by omega), ok_bind]
    split_ifs
    · rfl
    · generalize decodeGalEphem (st.update (satNo sysGal prn) row' flags none)
        { sat := satNo sysGal prn } = decoded
      cases decoded <;> rfl

end

end

/-! ## The row -/

structure HoldsGal (word : Nat → List UInt8) (seen : List Nat) (row : Row) : Prop where
  flags : seen ≠ [] → row[112] = seen.foldl galFlags 0
  words : ∀ t ∈ seen, ∀ j < 128, bufferBit row (128 * t + j) = galSentBit (word t) j

section
variable {word : Nat → List UInt8} {seen : List Nat} {row row' : Row}

theorem HoldsGal.step (holds : HoldsGal word seen row) {type : Nat}
    (stored : GalStored row type (word type) row') (range : ∀ t ∈ seen, t ≤ 6)
    (first : seen = [] → type = 2) : HoldsGal word (seen ++ [type]) row' := by
  refine ⟨fun _ => ?_, fun t mem j h => ?_⟩
  · rw [stored.flags, List.foldl_append, List.foldl_cons, List.foldl_nil]
    by_cases fresh : seen = []
    · rw [first fresh, galFlags, galFlags, if_pos rfl, if_pos rfl]
    · rw [holds.flags fresh]
  · by_cases same : t = type
    · subst same
      exact stored.word j h
    · have earlier : t ∈ seen := by
        rcases List.mem_append.mp mem with earlier | last
        · exact earlier
        · exact absurd (List.mem_singleton.mp last) same
      rw [stored.others t (range t earlier) same j h, holds.words t earlier j h]

section
variable (all : ∀ t ≤ 6, t ∈ seen) (holds : HoldsGal word seen row)
include all holds

theorem HoldsGal.field_eq {type pos len : Nat} (h : type ≤ 6) (inside : pos + len ≤ 128) :
    galField row type pos len = galSent (word type) pos len := by
  rw [galField, galSent, ← field_shift]
  exact field_congr fun j _ upper => holds.words type (all type h) j (by omega)

theorem HoldsGal.set_eq (ephem : Ephem) : galSet (bufferBit row) ephem =
    galSet (fun j => galSentBit (word (j / 128)) (j % 128)) ephem := by
  have same : ∀ j < 896, bufferBit row j = galSentBit (word (j / 128)) (j % 128) := by
    intro j h
    rw [← holds.words _ (all _ (by omega)) _ (Nat.mod_lt _ (by omega)), Nat.div_add_mod]
  exact galSet_congr same ephem

end

end

/-! ## Calls -/

section
variable {order : List Nat} {word : Nat → List UInt8}

def GalInv (word : Nat → List UInt8) (order : List Nat) (k : Nat) (row : Row) : Prop :=
  if k = 7 then row = Vector.replicate 380 0 else HoldsGal word (order.take k) row

theorem galInv_of_lt {k : Nat} (h : k < 7) {row : Row} :
    GalInv word order k row ↔ HoldsGal word (order.take k) row := by
  rw [GalInv, if_neg (by omega)]

theorem galInv_last {row : Row} : GalInv word order 7 row ↔ row = Vector.replicate 380 0 := by
  rw [GalInv, if_pos rfl]

end

section
variable {prn : Nat} {order : List Nat} {word : Nat → List UInt8}
  {between : Nat → List (List UInt8)} (scenario : GalScenario prn order word between)
include scenario

theorem GalScenario.perm : order.Perm [2, 0, 1, 3, 4, 5, 6] := by
  obtain ⟨rest, same, perm⟩ := scenario.order
  rw [same]
  exact perm.cons 2

theorem GalScenario.mem_iff {t : Nat} : t ∈ order ↔ t ≤ 6 := by
  rw [scenario.perm.mem_iff]
  constructor
  · intro mem
    fin_cases mem <;> omega
  · intro h
    interval_cases t <;> decide

theorem GalScenario.length : order.length = 7 := scenario.perm.length_eq

theorem GalScenario.nodup : order.Nodup := scenario.perm.nodup_iff.mpr (by decide)

theorem GalScenario.take_succ (k : Nat) :
    ∃ types, order.take (k + 1) = 2 :: types ∧ 2 ∉ types ∧ ∀ t ∈ types, t ≤ 6 := by
  obtain ⟨rest, rfl, perm⟩ := scenario.order
  refine ⟨rest.take k, rfl, fun mem => ?_, fun t mem => ?_⟩
  · have two := perm.mem_iff.mp (List.mem_of_mem_take mem)
    exact absurd two (by decide)
  · exact scenario.mem_iff.mp (.tail _ (List.mem_of_mem_take mem))

theorem GalScenario.complete_iff {k : Nat} (h : k < 7) :
    (order.take (k + 1)).foldl galFlags 0 = 0x7F ↔ k = 6 := by
  obtain ⟨types, split, later, range⟩ := scenario.take_succ k
  rw [split, galFlags_complete_iff 0 range later, ← split]
  constructor
  · intro all
    by_contra early
    have length := scenario.length
    have bound : k + 1 < order.length := by omega
    have left : order[k + 1] ∈ order.drop (k + 1) := by
      rw [List.drop_eq_getElem_cons bound]
      exact .head _
    have seen : order[k + 1] ∈ order.take (k + 1) := by
      have range := scenario.mem_iff.mp (List.getElem_mem bound)
      exact all _ (by omega)
    exact List.disjoint_take_drop scenario.nodup le_rfl seen left
  · rintro rfl
    intro i h
    rw [List.take_of_length_le (by rw [scenario.length])]
    exact scenario.mem_iff.mpr (by omega)

theorem GalScenario.consistent {row : Row} {seen : List Nat} (all : ∀ t ≤ 6, t ∈ seen)
    (holds : HoldsGal word seen row) : GalConsistent (satNo sysGal prn) row := by
  refine ⟨fun i h => ?_, ?_, fun i h lower => ?_, ?_⟩
  · rw [holds.field_eq all (by omega) (by omega), (scenario.words i (by omega)).type]
  · rw [holds.field_eq all (by omega) (by omega), scenario.timeField]
  · rw [holds.field_eq all (by omega) (by omega), holds.field_eq all (by omega) (by omega),
      scenario.issues i h lower]
  · rw [holds.field_eq all (by omega) (by omega), scenario.number]

def galResult (prn : Nat) (word : Nat → List UInt8) (k : Nat) : Option EphemObject :=
  some (.ephem (if k < 6 then { sat := satNo sysGal prn } else galSentSet prn word))

theorem GalScenario.step {k : Nat} (h : k < 7) {st : Processor}
    (sees : st.Sees (satNo sysGal prn) fun row _ => GalInv word order k row) :
    ∃ st' ionoParams, parseSubframe st (word (order.getD k 0)) [] =
        .ok (galResult prn word k, st', ionoParams) ∧
      st'.Sees (satNo sysGal prn) fun row _ => GalInv word order (k + 1) row := by
  obtain ⟨row, flags, holds, kept⟩ := sees
  have valid : ValidSat ({ sat := satNo sysGal prn } : Ephem).sat :=
    validSat_satNo (galSat_ne_zero scenario.range)
  have length := scenario.length
  have bound : k < order.length := by omega
  have next : order.getD k 0 = order[k] := List.getD_eq_getElem _ _ bound
  have small : order[k] ≤ 6 := scenario.mem_iff.mp (List.getElem_mem bound)
  have kept := (galInv_of_lt h).mp kept
  rw [next]
  obtain ⟨row', stored, ran⟩ :=
    parseSubframe_word scenario.range (scenario.words _ small) small holds
  have found : HoldsGal word (order.take (k + 1)) row' := by
    rw [List.take_add_one, List.getElem?_eq_getElem bound]
    refine kept.step stored (fun t mem => scenario.mem_iff.mp (List.mem_of_mem_take mem)) ?_
    intro none
    obtain ⟨rest, split, _⟩ := scenario.order
    have start : k = 0 := by
      have empty := congrArg List.length none
      rw [List.length_take, List.length_nil] at empty
      omega
    subst start
    simp [split]
  have complete : row'[112] = 0x7F ↔ k = 6 := by
    obtain ⟨types, split, _⟩ := scenario.take_succ k
    rw [found.flags (by rw [split]; simp), scenario.complete_iff h]
  by_cases last : k = 6
  · subst last
    have all : ∀ t ≤ 6, t ∈ order.take (6 + 1) := by
      intro t h
      rw [List.take_of_length_le (by omega)]
      exact scenario.mem_iff.mpr h
    obtain ⟨rc, e, row'', time, _, _, set, decoded⟩ := decodeGalEphem_ok valid row'
    obtain ⟨-, rfl, rfl⟩ := set (scenario.consistent all found)
    refine ⟨_, [], ?_, Vector.replicate 380 0, flags,
      Processor.holds_update (st.update (satNo sysGal prn) row' flags none) valid _ flags time, galInv_last.mpr rfl⟩
    rw [ran, if_neg (not_not.mpr (complete.mpr rfl)),
      decoded _ flags (st.holds_update valid row' flags none), found.set_eq all]
    rfl
  · refine ⟨_, [], ?_, row', flags, st.holds_update valid row' flags none,
      (galInv_of_lt (by omega)).mpr found⟩
    rw [ran, if_pos (mt complete.mp last), galResult, if_pos (by omega)]

/-- The last call returns the ephemeris of the words, unless an earlier call fails on a GLONASS
frame. -/
theorem gal_completes_iff (st : Processor) :
    GalCompletes st prn order word between ↔ ∀ k < 7, ∀ msg ∈ between k, ¬ NullGlonass msg := by
  have valid := validSat_satNo (galSat_ne_zero scenario.range)
  constructor
  · rintro ⟨st', ran, _⟩ k h msg mem null
    rw [galCalls, List.range_eq_range'] at ran
    exact parseAmong_null (Nat.zero_le k) (by omega) mem null st ran
  · intro safe
    obtain ⟨row, flags, holds⟩ := st.holds_exists valid
    obtain ⟨st', ran, row', flags', holds', cleared⟩ := parseAmong_steps (i := 0) (n := 7)
      (fun k row _ => GalInv word order k row) (galResult prn word) valid
      (fun k _ h => scenario.others k (by omega)) (fun k _ h => safe k (by omega))
      (fun k _ h msg mem sat st st' ephem ionoParams sees parsed => by
        rw [parseSubframe_notGal scenario.range (scenario.others k (by omega) msg mem) sat
          (scenario.quiet k (by omega) msg mem) parsed]
        exact sees)
      (fun k _ h st sees => scenario.step (by omega) sees)
      ⟨row, flags, holds, (galInv_of_lt (by omega)).mpr
        ⟨fun some => absurd rfl some, fun t mem => absurd mem (by simp)⟩⟩
    refine ⟨st', ?_, galSet_sent _ _, ?_⟩
    · rw [galCalls, List.range_eq_range', ran]
      rfl
    · rw [holds'.row, galInv_last.mp cleared]

end

/-! ## A set with a GLONASS string in between -/

/-! Words 0 and 2 to 6 of satellite 3 in week 1200 with issue 9. -/

def galPage0 : List UInt8 :=
  [0xB5, 0x62, 0x02, 0x13, 0x28, 0x00, 0x02, 0x03, 0x00, 0x00, 0x08, 0x00, 0x02, 0x00, 0x00, 0x00,
    0x80, 0x00, 0x00, 0x00, 0x00, 0x00, 0x00, 0x00, 0x00, 0x00, 0x00, 0x40, 0xC1, 0x12, 0x00, 0x00,
    0x80, 0x91, 0x00, 0x00, 0x00, 0x00, 0x94, 0x22, 0x00, 0x00, 0x00, 0x00, 0xC0, 0xB7, 0x1D, 0xE8]

def galPage2 : List UInt8 :=
  [0xB5, 0x62, 0x02, 0x13, 0x28, 0x00, 0x02, 0x03, 0x00, 0x00, 0x08, 0x00, 0x02, 0x00, 0x00, 0x40,
    0x02, 0x02, 0x00, 0x00, 0x00, 0x00, 0x00, 0x00, 0x00, 0x00, 0x00, 0x00, 0x00, 0x00, 0x00, 0x00,
    0x00, 0x80, 0x00, 0x00, 0x00, 0x00, 0x8C, 0x13, 0x00, 0x00, 0x00, 0x00, 0x00, 0xC9, 0x78, 0xA6]

def galPage3 : List UInt8 :=
  [0xB5, 0x62, 0x02, 0x13, 0x28, 0x00, 0x02, 0x03, 0x00, 0x00, 0x08, 0x00, 0x02, 0x00, 0x00, 0x40,
    0x02, 0x03, 0x00, 0x00, 0x00, 0x00, 0x00, 0x00, 0x00, 0x00, 0x00, 0x00, 0x00, 0x00, 0x00, 0x00,
    0x00, 0x80, 0x00, 0x00, 0x00, 0x00, 0x87, 0x03, 0x00, 0x00, 0x00, 0x00, 0x40, 0x21, 0xFC, 0x03]

def galPage4 : List UInt8 :=
  [0xB5, 0x62, 0x02, 0x13, 0x28, 0x00, 0x02, 0x03, 0x00, 0x00, 0x08, 0x00, 0x02, 0x00, 0x00, 0x43,
    0x02, 0x04, 0x5A, 0x00, 0x00, 0x00, 0x00, 0x00, 0x00, 0x00, 0x00, 0x00, 0x00, 0x00, 0x00, 0x00,
    0x00, 0x80, 0x00, 0x00, 0x00, 0x00, 0xAE, 0x10, 0x00, 0x00, 0x00, 0x00, 0x80, 0x3B, 0xE8, 0x82]

def galPage5 : List UInt8 :=
  [0xB5, 0x62, 0x02, 0x13, 0x28, 0x00, 0x02, 0x03, 0x00, 0x00, 0x08, 0x00, 0x02, 0x00, 0x00, 0x00,
    0x00, 0x05, 0x00, 0x00, 0x00, 0x00, 0x00, 0x00, 0x00, 0x00, 0x00, 0x00, 0x00, 0x00, 0x00, 0x00,
    0x00, 0x80, 0x00, 0x00, 0x00, 0x00, 0x23, 0x0A, 0x00, 0x00, 0x00, 0x00, 0x00, 0xE2, 0xE0, 0x93]

def galPage6 : List UInt8 :=
  [0xB5, 0x62, 0x02, 0x13, 0x28, 0x00, 0x02, 0x03, 0x00, 0x00, 0x08, 0x00, 0x02, 0x00, 0x00, 0x00,
    0x00, 0x06, 0x00, 0x00, 0x00, 0x00, 0x00, 0x00, 0x00, 0x00, 0x00, 0x00, 0x00, 0x00, 0x00, 0x00,
    0x00, 0x80, 0x00, 0x00, 0x00, 0x00, 0x3F, 0x3A, 0x00, 0x00, 0x00, 0x00, 0xC0, 0xDA, 0xE5, 0x58]

def gloPage : List UInt8 :=
  [0xB5, 0x62, 0x02, 0x13, 0x18, 0x00, 0x06, 0x01, 0x00, 0x00, 0x04, 0x00, 0x02, 0x00, 0x00, 0x00,
    0x00, 0x08, 0x00, 0x00, 0x00, 0x00, 0x00, 0x00, 0x00, 0x80, 0x06, 0x00, 0x00, 0x00, 0xC8, 0xC4]

def galPages (type : Nat) : List UInt8 :=
  [galPage0, galPage1, galPage2, galPage3, galPage4, galPage5, galPage6].getD type []

def galOrder : List Nat := [2, 6, 0, 4, 1, 5, 3]

def gloBeforeLast (k : Nat) : List (List UInt8) := if k = 6 then [gloPage] else []

instance (prn type : Nat) (msg : List UInt8) : Decidable (GalFrame prn type msg) :=
  decidable_of_iff (SfrbxFrame msg ∧ 48 ≤ msg.length ∧ msg.getD 6 0 = 2 ∧
      (msg.getD 7 0).toNat = prn ∧ GalNominal (navBit msg) ∧ galSent msg 0 6 = type)
    ⟨fun ⟨frame, long, gnssId, svid, nominal, type⟩ => ⟨frame, long, gnssId, svid, nominal, type⟩,
      fun h => ⟨h.frame, h.long, h.gnssId, h.svid, h.nominal, h.type⟩⟩

theorem galPages_scenario {between : Nat → List (List UInt8)}
    (others : ∀ k < 7, ∀ msg ∈ between k, SfrbxFrame msg)
    (quiet : ∀ k < 7, ∀ msg ∈ between k, ¬ CarriesGal 3 msg) :
    GalScenario 3 galOrder galPages between where
  range := by omega
  order := ⟨[6, 0, 4, 1, 5, 3], rfl, by decide⟩
  words := by
    have each : ∀ type < 7, GalFrame 3 type (galPages type) := by decide +kernel
    exact fun type h => each type (by omega)
  timeField := by decide +kernel
  issues := by decide +kernel
  number := by decide +kernel
  others := others
  quiet := quiet

theorem gal_completes_iff_alone :
    GalCompletes Processor.init 3 galOrder galPages (fun _ => []) ↔
      ∀ k < 7, ∀ msg ∈ (fun _ => [] : Nat → List (List UInt8)) k, ¬ NullGlonass msg :=
  gal_completes_iff (galPages_scenario (by simp) (by simp)) Processor.init

/-- The string of the other satellite ends the calls. -/
theorem gal_lost_glonass :
    ¬ ∀ st prn order word between, Reachable st → GalScenario prn order word between →
      GalCompletes st prn order word between := by
  intro complete
  have other : ∀ k < 7, ∀ msg ∈ gloBeforeLast k, msg = gloPage := by
    intro k _ msg mem
    rw [gloBeforeLast] at mem
    split at mem
    · exact List.mem_singleton.mp mem
    · cases mem
  have scenario : GalScenario 3 galOrder galPages gloBeforeLast :=
    galPages_scenario (fun k h msg mem => by rw [other k h msg mem]; decide +kernel)
      (fun k h msg mem => by
        rintro ⟨type, _, carried⟩
        rw [other k h msg mem] at carried
        exact absurd carried.gnssId (by decide))
  obtain ⟨st', ran, _⟩ := complete Processor.init 3 _ _ _ ⟨none, [], rfl⟩ scenario
  rw [galCalls, List.range_eq_range'] at ran
  have mem : gloPage ∈ gloBeforeLast 6 := .head _
  exact parseAmong_null (k := 6) (by omega) (by omega) mem ⟨by decide, by decide, by decide⟩ _ ran

end GnssParser
