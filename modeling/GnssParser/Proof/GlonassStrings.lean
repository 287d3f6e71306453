import GnssParser.Proof.Bounds
import GnssParser.Proof.GlonassNull

/-!
# The check of GLONASS strings

The parities that `test_glostr` computes and the verdict that it does not take from them.
-/

namespace GnssParser
open Checked BitView

/-! ## Parities -/

theorem foldl_xor (f g : Nat → Bool) (l : List Nat) (a b : Bool) :
    l.foldl (fun odd k => odd ^^ (f k ^^ g k)) (a ^^ b) =
      (l.foldl (fun odd k => odd ^^ f k) a ^^ l.foldl (fun odd k => odd ^^ g k) b) := by
  induction l generalizing a b with
  | nil => rfl
  | cons k l ih =>
      rw [List.foldl_cons, List.foldl_cons, List.foldl_cons, ← ih]
      congr 1
      cases a <;> cases b <;> cases f k <;> cases g k <;> rfl

theorem oddBits_xor (a b : UInt8) : oddBits (a ^^^ b) = (oddBits a ^^ oddBits b) := by
  have bits : ∀ k, byteBit (a ^^^ b) k = (byteBit a k ^^ byteBit b k) := fun k => by
    rw [byteBit, UInt8.toNat_xor, Nat.testBit_xor, byteBit, byteBit]
  simp only [oddBits, bits]
  exact foldl_xor (byteBit a) (byteBit b) (List.range 8) false false

theorem and_xor_byte (a b m : UInt8) : (a ^^^ b) &&& m = (a &&& m) ^^^ (b &&& m) := by
  rw [← UInt8.toNat_inj, UInt8.toNat_xor, UInt8.toNat_and, UInt8.toNat_and, UInt8.toNat_and,
    UInt8.toNat_xor, Nat.and_xor_distrib_right]

def stringParity (data : List UInt8) (mask : Vector UInt8 12) : Bool :=
  (List.range 11).foldl (fun odd j => odd ^^ oddBits (data.getD j 0 &&& mask.toList.getD j 0)) false

def oddParities (data : List UInt8) : Nat :=
  (maskHamming.toList.filter (stringParity data)).length

/-- No parity is odd, or the one over the whole string and one other. -/
def WellChecked (data : List UInt8) : Prop :=
  oddParities data = 0 ∨ oddParities data = 2 ∧ stringParity data maskHamming[7] = true

instance (data : List UInt8) : Decidable (WellChecked data) :=
  inferInstanceAs (Decidable (_ ∨ _ ∧ _))

def xorStrings (data error : List UInt8) : List UInt8 :=
  (List.range 11).map fun j => data.getD j 0 ^^^ error.getD j 0

theorem stringParity_xor (data error : List UInt8) (mask : Vector UInt8 12) :
    stringParity (xorStrings data error) mask =
      (stringParity data mask ^^ stringParity error mask) := by
  rw [stringParity, stringParity, stringParity, ← foldl_xor, Bool.false_xor]
  refine List.foldl_ext _ _ _ fun odd j mem => ?_
  have bytes : (xorStrings data error).getD j 0 = data.getD j 0 ^^^ error.getD j 0 := by
    rw [xorStrings, List.getD_eq_getElem _ _ (by simpa using mem), List.getElem_map,
      List.getElem_range]
  rw [bytes, and_xor_byte, oddBits_xor]

/-! ## Single errors -/

/-- Bit `p` of a string, counted from its first one. -/
def singleBit (p : Nat) : List UInt8 :=
  (List.range 11).map fun j => if j = p / 8 then 0x80 >>> UInt8.ofNat (p % 8) else 0

theorem foldl_single (b : Bool) (i n : Nat) :
    (List.range n).foldl (fun odd j => odd ^^ (if j = i then b else false)) false =
      if i < n then b else false := by
  induction n with
  | zero => rfl
  | succ n ih =>
      rw [List.range_succ, List.foldl_append, ih, List.foldl_cons, List.foldl_nil]
      by_cases last : n = i
      · subst last
        rw [if_neg (lt_irrefl n), if_pos rfl, if_pos (Nat.lt_succ_self n), Bool.false_xor]
      · have same : i < n ↔ i < n + 1 := by omega
        simp only [if_neg last, same, Bool.xor_false]

theorem stringParity_singleBit {p : Nat} (bit : p < 88) (mask : Vector UInt8 12) :
    stringParity (singleBit p) mask =
      oddBits (0x80 >>> UInt8.ofNat (p % 8) &&& mask.toList.getD (p / 8) 0) := by
  have byte : p / 8 < 11 := by omega
  rw [stringParity]
  refine (List.foldl_ext _ _ _ fun odd j mem => ?_).trans
    ((foldl_single _ (p / 8) 11).trans (if_pos byte))
  have bytes : (singleBit p).getD j 0 = if j = p / 8 then 0x80 >>> UInt8.ofNat (p % 8) else 0 := by
    rw [singleBit, List.getD_eq_getElem _ _ (by simpa using mem), List.getElem_map,
      List.getElem_range]
  rw [bytes]
  split_ifs with own
  · rw [own]
  · rw [UInt8.zero_and]
    rfl

theorem oddParities_singleBit {p : Nat} (information : p < 77) :
    3 ≤ oddParities (singleBit p) := by
  have covers : ∀ p < 77, 3 ≤ (maskHamming.toList.filter fun mask =>
      oddBits (0x80 >>> UInt8.ofNat (p % 8) &&& mask.toList.getD (p / 8) 0)).length := by
    decide +kernel
  rw [oddParities, List.filter_congr fun mask _ => stringParity_singleBit (by omega) mask]
  exact covers p information

theorem flipped_not_wellChecked {data : List UInt8} (even : oddParities data = 0) {p : Nat}
    (information : p < 77) : ¬ WellChecked (xorStrings data (singleBit p)) := by
  have parities : ∀ mask ∈ maskHamming.toList,
      stringParity (xorStrings data (singleBit p)) mask = stringParity (singleBit p) mask := by
    intro mask mem
    have none := List.filter_eq_nil_iff.mp (List.eq_nil_of_length_eq_zero even) mask mem
    rw [stringParity_xor, Bool.eq_false_of_not_eq_true none, Bool.false_xor]
  have count : oddParities (xorStrings data (singleBit p)) = oddParities (singleBit p) := by
    rw [oddParities, List.filter_congr parities, oddParities]
  have odd := oddParities_singleBit information
  rw [WellChecked, count]
  omega

/-! ## The verdict -/

def gloString (msg : List UInt8) : List UInt8 := (List.range 11).map (gloByte msg)

/-- The test accepts the string if and only if its parities do. -/
def Tests (data : List UInt8) : Prop :=
  ∃ verdict, testGlostr (loadAt data) = .ok verdict ∧ (verdict ≠ 0 ↔ WellChecked data)

/-- No frame with the string is stored if one information bit of an even string is flipped in it. -/
def RejectsFlipped (data : List UInt8) : Prop :=
  ∀ (st : Processor) (msg : List UInt8) (eph : GloEphem) (even : List UInt8) (p : Nat),
    32 ≤ msg.length → ValidSat eph.sat → gloString msg = data → oddParities even = 0 → p < 77 →
      data = xorStrings even (singleBit p) →
        ∃ eph', decodeGloSubframe st msg (some eph) = .ok (-1, st, some eph')

theorem tests_iff {data : List UInt8} (length : data.length = 11) : Tests data ↔ WellChecked data := by
  have accepts : testGlostr (loadAt data) = .ok 1 :=
    testGlostr_accepts fun j below => ⟨_, loadAt_getElem (by omega)⟩
  constructor
  · rintro ⟨verdict, ran, same⟩
    rw [accepts] at ran
    cases ran
    exact same.mp (by decide)
  · intro checked
    exact ⟨1, accepts, fun _ => checked, fun _ => by decide⟩

/-- The test is right about the strings that it should accept, and no others. -/
theorem testGlostr_iff {data : List UInt8} (length : data.length = 11) :
    Tests data ∧ RejectsFlipped data ↔ WellChecked data := by
  rw [tests_iff length]
  refine ⟨fun both => both.1, fun checked => ⟨checked, ?_⟩⟩
  intro st msg eph even p _ _ _ noneOdd information flipped
  rw [flipped] at checked
  exact absurd checked (flipped_not_wellChecked noneOdd information)

theorem testGlostr_iff_zero :
    Tests (List.replicate 11 0) ∧ RejectsFlipped (List.replicate 11 0) ↔
      WellChecked (List.replicate 11 0) :=
  testGlostr_iff (by decide)

/-- A string with its first bit flipped. -/
theorem testGlostr_flipped :
    ¬ ∀ data : List UInt8, data.length = 11 → Tests data ∧ RejectsFlipped data := by
  intro claimed
  have checked := (tests_iff (by decide)).mp (claimed (singleBit 0) (by decide)).1
  have odd := oddParities_singleBit (show 0 < 77 by decide)
  rw [WellChecked] at checked
  omega

end GnssParser
