import GnssParser.Model.Processor
import GnssParser.Proof.BitField
import GnssParser.Proof.GnssTime

/-!
# Navigation words

The words of a frame and their places in a row.
-/

namespace GnssParser
open Checked BitView

/-! ## Messages -/

theorem msgData_ok {msg : List UInt8} {i : Nat} (h : i < msg.length) :
    msgData msg i = .ok (msg.getD i 0) := by
  rw [msgData, loadAt_ok h, List.getD_eq_getElem?_getD]
  rfl

def navWord (msg : List UInt8) (i : Nat) : UInt32 := u32Of fun k => msg.getD (14 + 4 * i + k) 0

theorem loadWord_ok {msg : List UInt8} {i : Nat} (h : 18 + 4 * i ≤ msg.length) :
    u32 ((msgData msg).add (14 + 4 * i)) = .ok (navWord msg i) :=
  u32_ok fun k hk => msgData_ok (by omega)

theorem navWords_ok (trim : UInt32 → UInt32) {msg : List UInt8} (long : 54 ≤ msg.length) :
    navWords trim msg = .ok (Vector.ofFn fun i => trim (navWord msg i)) := by
  have trimmed : ∀ i < 10, (u32 ((msgData msg).add (14 + 4 * i))).map trim =
      .ok (trim (navWord msg i)) := fun i h => by
    rw [loadWord_ok (by omega)]
    rfl
  rw [navWords, ← forRange_fill (Vector.replicate 10 0) trimmed]
  congr 1
  funext i words
  cases u32 ((msgData msg).add (14 + 4 * i)) <;> rfl

def navByte (msg : List UInt8) (j : Nat) : UInt8 := msg.getD (14 + 4 * (j / 4) + (3 - j % 4)) 0

theorem navBytes_ok {n count : Nat} {msg : List UInt8} (buff : Vector UInt8 n)
    (long : 14 + 4 * count ≤ msg.length) (fits : 4 * count ≤ n) :
    ∃ buff', navBytes count msg buff = .ok buff' ∧
      ∀ j (h : j < n), j < 4 * count → buff'[j] = navByte msg j := by
  obtain ⟨buff', ran, bytes⟩ := forRange_invariant
    (fun i (buff : Vector UInt8 n) =>
      forRange (fun j buff => do
        let b ← (msgData msg).add (14 + 4 * i) (3 - j)
        writeAt buff (4 * i + j) b) 0 4 buff)
    (fun i (now : Vector UInt8 n) => ∀ j (h : j < n), j < 4 * i → now[j] = navByte msg j)
    0 count buff (fun j _ h => by omega) <| by
      intro i now _ upper bytes
      obtain ⟨next, wrote, stored⟩ := forRange_invariant
        (fun j (buff : Vector UInt8 n) => do
          let b ← (msgData msg).add (14 + 4 * i) (3 - j)
          writeAt buff (4 * i + j) b)
        (fun k (now : Vector UInt8 n) => ∀ j (h : j < n), j < 4 * i + k → now[j] = navByte msg j)
        0 4 now (fun j h below => bytes j h (by omega)) <| by
          intro k now _ below stored
          refine ⟨now.set (4 * i + k) (msg.getD (14 + 4 * i + (3 - k)) 0) (by omega), ?_, ?_⟩
          · rw [BytePtr.add, msgData_ok (by omega), ok_bind, writeAt_ok (by omega)]
          · intro j h inside
            rw [Vector.getElem_set]
            by_cases here : 4 * i + k = j
            · rw [if_pos here, navByte, show j / 4 = i by omega, show j % 4 = k by omega]
            · rw [if_neg here, stored j h (by omega)]
      exact ⟨next, wrote, fun j h inside => stored j h (by omega)⟩
  exact ⟨buff', ran, fun j h inside => bytes j h (by omega)⟩

def navBit (msg : List UInt8) (j : Nat) : Bool := byteBit (navByte msg (j / 8)) (j % 8)

/-! ## Rows -/

/-- The bits of a row after `words` are stored from byte `base` on, `width` bits each. -/
def storedBit (row : Row) (base width : Nat) (words : Vector UInt32 10) (j : Nat) : Bool :=
  if 8 * base ≤ j ∧ j < 8 * base + 10 * width then
    (words.toList.getD ((j - 8 * base) / width) 0).toNat.testBit
      (width - 1 - (j - 8 * base) % width)
  else bufferBit row j

theorem storeWords_ok (row : Row) {base width : Nat} (words : Vector UInt32 10) (pos : 0 < width)
    (word : width ≤ 32) (fits : 8 * base + 10 * width ≤ 8 * 380) :
    ∃ row', storeWords row base width words = .ok row' ∧
      ∀ j, bufferBit row' j = storedBit row base width words j := by
  obtain ⟨row', ran, bits⟩ := forRange_invariant
    (fun i (row : Row) => do
      let word ← readAt words i
      setbitu row base (i * width) width word)
    (fun i (now : Row) => ∀ j, bufferBit now j =
      if 8 * base ≤ j ∧ j < 8 * base + i * width then
        (words.toList.getD ((j - 8 * base) / width) 0).toNat.testBit
          (width - 1 - (j - 8 * base) % width)
      else bufferBit row j) 0 10 row (fun j => by rw [if_neg (by omega)]) <| by
      intro i now _ upper bits
      have last : (i + 1) * width ≤ 10 * width := Nat.mul_le_mul_right _ (by omega)
      have next : (i + 1) * width = i * width + width := by ring
      obtain ⟨now', wrote, bits'⟩ := setbitu_ok now base (i * width) words[i]
        pos word (by omega)
      refine ⟨now', by rw [readAt_ok (by omega), ok_bind, wrote], fun j => ?_⟩
      rw [bits', bits]
      by_cases here : 8 * base + i * width ≤ j ∧ j < 8 * base + i * width + width
      · -- `j` is in word `i`
        have quotient : (j - 8 * base) / width = i :=
          Nat.div_eq_of_lt_le (by omega) (by rw [next]; omega)
        have remainder : (j - 8 * base) % width = j - 8 * base - i * width := by
          have := Nat.div_add_mod (j - 8 * base) width
          rw [quotient, Nat.mul_comm] at this
          omega
        rw [if_pos here, if_pos (by omega), quotient, remainder,
          List.getD_eq_getElem _ _ (by simpa using upper)]
        simp only [Vector.getElem_toList]
        congr 1
        omega
      · rw [if_neg here]
        have same : (8 * base ≤ j ∧ j < 8 * base + (i + 1) * width) ↔
            (8 * base ≤ j ∧ j < 8 * base + i * width) := by omega
        simp only [same]
  refine ⟨row', ran, fun j => ?_⟩
  rw [bits, storedBit]

def wordBit (width : Nat) (words : Vector UInt32 10) (j : Nat) : Bool :=
  (words.toList.getD (j / width) 0).toNat.testBit (width - 1 - j % width)

def wordField (width : Nat) (words : Vector UInt32 10) (pos len : Nat) : Nat :=
  field (wordBit width words) pos len

theorem wordField_word {width k pos len : Nat} (words : Vector UInt32 10) (h : k < 10)
    (inside : pos + len ≤ width) :
    wordField width words (width * k + pos) len =
      words[k].toNat / 2 ^ (width - pos - len) % 2 ^ len := by
  rw [wordField, ← field_shift, ← field_word _ _ _ inside]
  refine field_congr fun i lower upper => ?_
  have small : i < width := by omega
  rw [wordBit, Nat.mul_add_div (by omega), Nat.div_eq_of_lt small, Nat.mul_add_mod,
    Nat.mod_eq_of_lt small, Nat.add_zero, List.getD_eq_getElem _ _ (by simpa using h)]
  rfl

/-- The words lie in a row from byte `base` on, `width` bits each. -/
def HoldsWords (row : Row) (base width : Nat) (words : Vector UInt32 10) : Prop :=
  ∀ j < 10 * width, bufferBit row (8 * base + j) = wordBit width words j

theorem HoldsWords.field_eq {row : Row} {base width pos len : Nat} {words : Vector UInt32 10}
    (holds : HoldsWords row base width words) (inside : pos + len ≤ 10 * width) :
    field (bufferBit row) (8 * base + pos) len = wordField width words pos len := by
  rw [wordField, ← field_shift]
  exact field_congr fun i _ upper => holds i (by omega)

section
variable {row row' : Row} {base width : Nat} {words : Vector UInt32 10}
  (stored : ∀ j, bufferBit row' j = storedBit row base width words j)
include stored

theorem holdsWords_stored : HoldsWords row' base width words := by
  intro j h
  rw [stored, storedBit, if_pos (by omega), Nat.add_sub_cancel_left, wordBit]

theorem HoldsWords.keep {base' : Nat} {words' : Vector UInt32 10}
    (holds : HoldsWords row base' width words')
    (apart : 8 * base' + 10 * width ≤ 8 * base ∨ 8 * base + 10 * width ≤ 8 * base') :
    HoldsWords row' base' width words' := by
  intro j h
  rw [stored, storedBit, if_neg (by omega), holds j h]

end

theorem clearRow_ok (row : Row) {count : Nat} (fits : count ≤ 380) :
    ∃ row', forRange (fun i (row : Row) => writeAt row i 0) 0 count row = .ok row' ∧
      ∀ i (h : i < 380), row'[i] = if i < count then 0 else row[i] := by
  obtain ⟨row', ran, bytes⟩ := forRange_invariant
    (fun i (row : Row) => writeAt row i 0)
    (fun i (now : Row) => ∀ k (h : k < 380), now[k] = if k < i then 0 else row[k])
    0 count row (fun k h => by rw [if_neg (by omega)]) <| by
      intro i now _ upper bytes
      refine ⟨now.set i 0 (by omega), writeAt_ok (by omega), fun k h => ?_⟩
      rw [Vector.getElem_set]
      by_cases same : i = k
      · rw [if_pos same, if_pos (by omega)]
      · rw [if_neg same, bytes k h]
        simp only [show k < i + 1 ↔ k < i by omega]
  rw [Nat.zero_add] at bytes
  exact ⟨row', ran, bytes⟩

end GnssParser
