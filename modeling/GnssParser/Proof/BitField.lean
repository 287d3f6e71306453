import GnssParser.Lib.BitView
import GnssParser.Model.BitField
import GnssParser.Model.Ephemeris
import Mathlib.Data.Nat.Bitwise

/-!
# Bit fields

What the readers return and what `setbitu` changes, in terms of the bits of the buffer.
-/

namespace GnssParser
open Checked BitView

variable {n m : Nat} {p : BytePtr} {bit : Nat → Bool}

/-! ## Readers -/

theorem ofNat_shift_digit (x : Nat) (b : Bool) :
    (UInt32.ofNat x <<< 1) + UInt32.ofNat b.toNat = UInt32.ofNat (2 * x + b.toNat) := by
  have digit := Bool.toNat_lt b
  apply UInt32.toNat_inj.mp
  rw [UInt32.toNat_add, UInt32.toNat_shiftLeft, UInt32.toNat_ofNat', UInt32.toNat_ofNat',
    UInt32.toNat_ofNat', show (1 : UInt32).toNat % 32 = 1 from rfl, Nat.shiftLeft_eq]
  omega

def bitsU (bit : Nat → Bool) (pos len : Nat) : UInt32 := UInt32.ofNat (field bit pos len)

theorem getbitu_ok (view : Exposes p bit m) {pos len : Nat} (within : pos + len ≤ 8 * m) :
    getbitu p pos len = .ok (bitsU bit pos len) := by
  obtain ⟨bits, ran, value⟩ := forRange_invariant (getBit p)
    (fun i (bits : UInt32) => bits = UInt32.ofNat (field bit pos (i - pos))) pos len 0
    (by simp [field]) <| by
      rintro i bits lower upper rfl
      obtain ⟨b, read, agrees⟩ := view (i / 8) (by omega)
      have digit : byteBit b (i % 8) = bit i := by
        rw [agrees _ (Nat.mod_lt _ (by omega)), Nat.div_add_mod]
      refine ⟨_, by rw [getBit, read, ok_bind]; rfl, ?_⟩
      rw [byteBit_shift b (Nat.mod_lt _ (by omega)), ofNat_shift_digit, digit,
        Nat.succ_sub lower, field, Nat.add_sub_cancel' lower]
  rw [Nat.add_sub_cancel_left] at value
  rw [getbitu, ran, value, bitsU]

theorem getbitu_congr {q : BytePtr} {bit' : Nat → Bool} (view : Exposes p bit m)
    (view' : Exposes q bit' m) {pos len : Nat} (within : pos + len ≤ 8 * m)
    (same : ∀ i, pos ≤ i → i < pos + len → bit i = bit' i) :
    getbitu p pos len = getbitu q pos len := by
  rw [getbitu_ok view within, getbitu_ok view' within, bitsU, bitsU, field_congr same]

/-! ## Values of fields -/

def bitsS (bit : Nat → Bool) (pos len : Nat) : Int32 :=
  let bits := bitsU bit pos len
  if len = 0 ∨ len ≥ 32 ∨ bits &&& (1 <<< UInt32.ofNat (len - 1)) = 0 then bits.toInt32
  else (bits ||| (0xFFFFFFFF <<< UInt32.ofNat len)).toInt32

def bitsU2 (bit : Nat → Bool) (p1 l1 p2 l2 : Nat) : UInt32 :=
  (bitsU bit p1 l1 <<< UInt32.ofNat l2) + bitsU bit p2 l2

def bitsS2 (bit : Nat → Bool) (p1 l1 p2 l2 : Nat) : Int32 :=
  if bitsU bit p1 1 ≠ 0 then
    ((bitsS bit p1 l1 <<< Int32.ofNat l2).toUInt32 + bitsU bit p2 l2).toInt32
  else (bitsU2 bit p1 l1 p2 l2).toInt32

def bitsU3 (bit : Nat → Bool) (p1 l1 p2 l2 p3 l3 : Nat) : UInt32 :=
  (bitsU bit p1 l1 <<< UInt32.ofNat (l2 + l3)) + (bitsU bit p2 l2 <<< UInt32.ofNat l3) +
    bitsU bit p3 l3

def bitsS3 (bit : Nat → Bool) (p1 l1 p2 l2 p3 l3 : Nat) : Int32 :=
  if bitsU bit p1 1 ≠ 0 then
    ((bitsS bit p1 l1 <<< Int32.ofNat (l2 + l3)).toUInt32 +
      (bitsU bit p2 l2 <<< UInt32.ofNat l3) + bitsU bit p3 l3).toInt32
  else (bitsU3 bit p1 l1 p2 l2 p3 l3).toInt32

def bitsG (bit : Nat → Bool) (pos len : Nat) : ℚ :=
  if bitsU bit pos 1 ≠ 0 then -((bitsU bit (pos + 1) (len - 1)).toNat : ℚ)
  else ((bitsU bit (pos + 1) (len - 1)).toNat : ℚ)

theorem bitsU_toNat (bit : Nat → Bool) (pos : Nat) {len : Nat} (word : len ≤ 32) :
    (bitsU bit pos len).toNat = field bit pos len := by
  have bound := field_lt bit pos len
  have power : 2 ^ len ≤ 2 ^ 32 := Nat.pow_le_pow_right (by omega) word
  rw [bitsU, UInt32.toNat_ofNat', Nat.mod_eq_of_lt (by omega)]

theorem ofNat_shift_add (a b : Nat) {k : Nat} (small : k < 32) :
    (UInt32.ofNat a <<< UInt32.ofNat k) + UInt32.ofNat b = UInt32.ofNat (2 ^ k * a + b) := by
  rw [← UInt32.toNat_inj, UInt32.toNat_add, UInt32.toNat_shiftLeft, UInt32.toNat_ofNat',
    UInt32.toNat_ofNat', UInt32.toNat_ofNat', UInt32.toNat_ofNat',
    show k % 2 ^ 32 % 32 = k by omega, Nat.shiftLeft_eq, ← Nat.add_mod, Nat.mul_comm (2 ^ k)]
  exact Nat.ModEq.add_right b ((Nat.mod_modEq a _).mul_right _)

theorem bitsU2_eq (bit : Nat → Bool) (p1 l1 p2 : Nat) {l2 : Nat} (small : l2 < 32) :
    bitsU2 bit p1 l1 p2 l2 = UInt32.ofNat (2 ^ l2 * field bit p1 l1 + field bit p2 l2) :=
  ofNat_shift_add _ _ small

theorem ofNat_inj {a b : Nat} (ha : a < 2 ^ 32) (hb : b < 2 ^ 32) :
    UInt32.ofNat a = UInt32.ofNat b ↔ a = b := by
  rw [← UInt32.toNat_inj, UInt32.toNat_ofNat', UInt32.toNat_ofNat', Nat.mod_eq_of_lt ha,
    Nat.mod_eq_of_lt hb]

theorem getbits_ok (view : Exposes p bit m) {pos len : Nat} (within : pos + len ≤ 8 * m) :
    getbits p pos len = .ok (bitsS bit pos len) := by
  rw [getbits, getbitu_ok view within, ok_bind, bitsS, bitsU]
  split_ifs <;> rfl

theorem getbitu2_ok (view : Exposes p bit m) {p1 l1 p2 l2 : Nat} (first : p1 + l1 ≤ 8 * m)
    (second : p2 + l2 ≤ 8 * m) : getbitu2 p p1 l1 p2 l2 = .ok (bitsU2 bit p1 l1 p2 l2) := by
  rw [getbitu2, getbitu_ok view first, ok_bind, getbitu_ok view second]
  rfl

theorem getbits2_ok (view : Exposes p bit m) {p1 l1 p2 l2 : Nat} (some : 0 < l1)
    (first : p1 + l1 ≤ 8 * m) (second : p2 + l2 ≤ 8 * m) :
    getbits2 p p1 l1 p2 l2 = .ok (bitsS2 bit p1 l1 p2 l2) := by
  rw [getbits2, getbitu_ok view (by omega), ok_bind, bitsS2, getbits_ok view first,
    getbitu2_ok view first second, getbitu_ok view second]
  by_cases negative : bitsU bit p1 1 ≠ 0
  · rw [if_pos negative, if_pos negative]; rfl
  · rw [if_neg negative, if_neg negative]; rfl

theorem getbitu3_ok (view : Exposes p bit m) {p1 l1 p2 l2 p3 l3 : Nat} (first : p1 + l1 ≤ 8 * m)
    (second : p2 + l2 ≤ 8 * m) (third : p3 + l3 ≤ 8 * m) :
    getbitu3 p p1 l1 p2 l2 p3 l3 = .ok (bitsU3 bit p1 l1 p2 l2 p3 l3) := by
  rw [getbitu3, getbitu_ok view first, ok_bind, getbitu_ok view second, ok_bind,
    getbitu_ok view third]
  rfl

theorem getbits3_ok (view : Exposes p bit m) {p1 l1 p2 l2 p3 l3 : Nat} (some : 0 < l1)
    (first : p1 + l1 ≤ 8 * m) (second : p2 + l2 ≤ 8 * m) (third : p3 + l3 ≤ 8 * m) :
    getbits3 p p1 l1 p2 l2 p3 l3 = .ok (bitsS3 bit p1 l1 p2 l2 p3 l3) := by
  rw [getbits3, getbitu_ok view (by omega), ok_bind, bitsS3, getbits_ok view first,
    getbitu3_ok view first second third, getbitu_ok view second, getbitu_ok view third]
  by_cases negative : bitsU bit p1 1 ≠ 0
  · rw [if_pos negative, if_pos negative]; rfl
  · rw [if_neg negative, if_neg negative]; rfl

theorem getbitg_ok (view : Exposes p bit m) {pos len : Nat} (some : 0 < len)
    (within : pos + len ≤ 8 * m) : getbitg p pos len = .ok (bitsG bit pos len) := by
  rw [getbitg, getbitu_ok view (by omega), ok_bind, getbitu_ok view (by omega), ok_bind, bitsG]
  by_cases negative : bitsU bit pos 1 ≠ 0
  · rw [if_pos negative, if_pos negative]; rfl
  · rw [if_neg negative, if_neg negative]; rfl

/-! ## The writer -/

theorem and_mask_ne_zero (data mask : UInt32) {k : Nat} (one : mask.toNat = 2 ^ k) :
    data &&& mask ≠ 0 ↔ data.toNat.testBit k = true := by
  rw [ne_eq, ← UInt32.toNat_inj, UInt32.toNat_and, one, Nat.and_two_pow, UInt32.toNat_zero]
  cases data.toNat.testBit k <;> simp

theorem mask_step (mask : UInt32) {k : Nat} (one : mask.toNat = 2 ^ (k + 1)) :
    (mask >>> 1).toNat = 2 ^ k := by
  rw [UInt32.toNat_shiftRight, one, show (1 : UInt32).toNat % 32 = 1 from rfl,
    Nat.shiftRight_eq_div_pow, pow_succ, pow_one, Nat.mul_div_cancel _ (by omega)]

theorem setbitu_ok (buff : Vector UInt8 n) (base pos : Nat) {len : Nat} (data : UInt32)
    (nonempty : 0 < len) (word : len ≤ 32) (within : 8 * base + pos + len ≤ 8 * n) :
    ∃ buff', setbitu buff base pos len data = .ok buff' ∧ ∀ j, bufferBit buff' j =
      if 8 * base + pos ≤ j ∧ j < 8 * base + pos + len then
        data.toNat.testBit (8 * base + pos + len - 1 - j)
      else bufferBit buff j := by
  obtain ⟨⟨buff', mask⟩, ran, bits, _⟩ := forRange_invariant (setBit base data)
    (fun i s => (∀ j, bufferBit s.1 j =
      if 8 * base + pos ≤ j ∧ j < 8 * base + i then
        data.toNat.testBit (8 * base + pos + len - 1 - j)
      else bufferBit buff j) ∧ (i < pos + len → s.2.toNat = 2 ^ (pos + len - 1 - i)))
    pos len (buff, (1 : UInt32) <<< UInt32.ofNat (len - 1)) (by
      refine ⟨fun j => by rw [if_neg (by omega)], fun _ => ?_⟩
      have small : len - 1 < 32 := by omega
      have power : 2 ^ (len - 1) < 2 ^ 32 := Nat.pow_lt_pow_right (by omega) small
      rw [show pos + len - 1 - pos = len - 1 by omega, UInt32.toNat_shiftLeft,
        UInt32.toNat_ofNat', show (1 : UInt32).toNat = 1 from rfl,
        show (len - 1) % 2 ^ 32 % 32 = len - 1 by omega, Nat.one_shiftLeft,
        Nat.mod_eq_of_lt power]) <| by
      rintro i ⟨now, mask⟩ lower upper ⟨bits, one⟩
      have index : base + i / 8 < n := by omega
      have last : i % 8 < 8 := Nat.mod_lt _ (by omega)
      dsimp only [setBit]
      refine ⟨_, by rw [readAt_ok index, ok_bind, writeAt_ok index, ok_bind]; rfl, ?_, ?_⟩
      · intro j
        -- the byte of bit `8 * base + i` is the one stored
        have chosen := and_mask_ne_zero data mask (one upper)
        simp only
        rw [bufferBit_set _ index]
        by_cases inByte : j / 8 = base + i / 8
        · rw [if_pos inByte]
          have old : byteBit now[base + i / 8] (j % 8) = bufferBit now j := by
            rw [bufferBit_of_lt now (by omega)]
            simp only [inByte]
          have same : (8 * base + pos ≤ j ∧ j < 8 * base + (i + 1)) ↔
              j = 8 * base + i ∨ (8 * base + pos ≤ j ∧ j < 8 * base + i) := by omega
          rw [byteBit_assign _ _ last (by omega), old, bits j]
          by_cases hit : j = 8 * base + i
          · rw [if_pos (by omega), if_pos (same.mpr (.inl hit)), Bool.decide_congr chosen,
              Bool.decide_eq_true]
            congr 1
            omega
          · rw [if_neg (by omega)]
            simp only [same, hit, false_or]
        · rw [if_neg inByte, bits j]
          have same : (8 * base + pos ≤ j ∧ j < 8 * base + (i + 1)) ↔
              (8 * base + pos ≤ j ∧ j < 8 * base + i) := by omega
          simp only [same]
      · intro below
        exact mask_step mask (by rw [one upper]; congr 1; omega)
  refine ⟨buff', ?_, fun j => by rw [bits j, ← Nat.add_assoc]⟩
  rw [setbitu, if_neg (by omega), ran]
  rfl

theorem byteBit_bitsU (bit : Nat → Bool) (pos : Nat) {k : Nat} (h : k < 8) :
    byteBit (bitsU bit pos 8).toUInt8 k = bit (pos + k) := by
  have small := field_lt bit pos 8
  rw [byteBit, UInt32.toNat_toUInt8, bitsU_toNat bit pos (by omega), Nat.mod_eq_of_lt small,
    ← testBit_field bit pos h]

theorem bitsU_one_iff (bit : Nat → Bool) (pos : Nat) : bitsU bit pos 1 = 1 ↔ bit pos = true := by
  rw [bitsU, field, field, Nat.mul_zero, Nat.zero_add, Nat.add_zero]
  cases bit pos <;> decide

theorem bitsU_zero_iff (bit : Nat → Bool) (pos : Nat) : bitsU bit pos 1 = 0 ↔ bit pos = false := by
  rw [bitsU, field, field, Nat.mul_zero, Nat.zero_add, Nat.add_zero]
  cases bit pos <;> decide

/-! ## Signed values -/

theorem signBit_iff (bit : Nat → Bool) (pos : Nat) {len : Nat} (some : 0 < len) (word : len ≤ 32) :
    bitsU bit pos len &&& (1 <<< UInt32.ofNat (len - 1)) = 0 ↔
      field bit pos len < 2 ^ (len - 1) := by
  have one : ((1 : UInt32) <<< UInt32.ofNat (len - 1)).toNat = 2 ^ (len - 1) := by
    have power : 2 ^ (len - 1) < 2 ^ 32 := Nat.pow_lt_pow_right (by omega) (by omega)
    rw [UInt32.toNat_shiftLeft, UInt32.toNat_ofNat', show (1 : UInt32).toNat = 1 from rfl,
      show (len - 1) % 2 ^ 32 % 32 = len - 1 by omega, Nat.one_shiftLeft, Nat.mod_eq_of_lt power]
  have bound := field_lt bit pos len
  have half : 2 ^ len = 2 ^ (len - 1) * 2 := by rw [← pow_succ, Nat.sub_add_cancel some]
  rw [← not_iff_not, ← ne_eq, and_mask_ne_zero _ _ one, bitsU_toNat _ _ word, not_lt]
  constructor
  · exact Nat.ge_two_pow_of_testBit
  · intro high
    rw [Nat.testBit_eq_decide_div_mod_eq, decide_eq_true_eq,
      Nat.div_eq_of_lt_le (k := 1) (by omega) (by omega)]

theorem toInt32_toInt (x : UInt32) : x.toInt32.toInt = Int.bmod x.toNat (2 ^ 32) :=
  BitVec.toInt_eq_toNat_bmod x.toBitVec

theorem toInt_signExtend {x : UInt32} {len : Nat} (narrow : len < 32) (small : x.toNat < 2 ^ len) :
    (x ||| (0xFFFFFFFF <<< UInt32.ofNat len)).toInt32.toInt = x.toNat - 2 ^ len := by
  have whole : 2 ^ len * 2 ^ (32 - len) = 2 ^ 32 := by
    rw [← pow_add]
    congr 1
    omega
  have high : ((0xFFFFFFFF : UInt32) <<< UInt32.ofNat len).toNat = 2 ^ len * (2 ^ (32 - len) - 1) := by
    have pos : 0 < 2 ^ len := Nat.two_pow_pos len
    have below : 2 ^ len < 2 ^ 32 := Nat.pow_lt_pow_right (by omega) narrow
    have split : (2 ^ 32 - 1) * 2 ^ len = 2 ^ 32 * (2 ^ len - 1) + (2 ^ 32 - 2 ^ len) := by omega
    rw [UInt32.toNat_shiftLeft, UInt32.toNat_ofNat',
      show (0xFFFFFFFF : UInt32).toNat = 2 ^ 32 - 1 from rfl, show len % 2 ^ 32 % 32 = len by omega,
      Nat.shiftLeft_eq, split, Nat.mul_add_mod, Nat.mod_eq_of_lt (by omega), Nat.mul_sub_one, whole]
  have value : (x ||| (0xFFFFFFFF <<< UInt32.ofNat len)).toNat = 2 ^ 32 - 2 ^ len + x.toNat := by
    rw [UInt32.toNat_or, high, Nat.lor_comm, ← Nat.two_pow_add_eq_or_of_lt small, Nat.mul_sub_one, whole]
  have power : 2 ^ len ≤ 2 ^ 31 := Nat.pow_le_pow_right (by omega) (by omega)
  have cast : (2 : Int) ^ len = (2 ^ len : Nat) := by push_cast; rfl
  rw [toInt32_toInt, value, Int.bmod_def, cast]
  split <;> omega

theorem bitsS_toInt (bit : Nat → Bool) (pos : Nat) {len : Nat} (some : 0 < len) (word : len ≤ 32) :
    (bitsS bit pos len).toInt = signedField bit pos len := by
  have bound := field_lt bit pos len
  have value := bitsU_toNat bit pos word
  rw [bitsS, signedField, bmod_two_pow _ some bound]
  simp only [signBit_iff bit pos some word]
  by_cases positive : field bit pos len < 2 ^ (len - 1)
  · have power : 2 ^ (len - 1) ≤ 2 ^ 31 := Nat.pow_le_pow_right (by omega) (by omega)
    rw [if_pos (.inr (.inr positive)), if_pos positive, toInt32_toInt, value,
      bmod_two_pow _ (by omega) (by omega), if_pos (by omega)]
  rw [if_neg positive]
  by_cases full : len = 32
  · subst full
    rw [if_pos (.inr (.inl (by omega))), toInt32_toInt, value, bmod_two_pow _ (by omega) bound,
      if_neg positive]
  · rw [if_neg (by omega), toInt_signExtend (by omega) (by rw [value]; exact bound), value]

theorem toInt_shiftLeft (a : Int32) {k : Nat} (small : k < 32) :
    (a <<< Int32.ofNat k).toInt = Int.bmod (2 ^ k * a.toInt) (2 ^ 32) := by
  have amount : ∀ k < 32, ((Int32.ofNat k).toBitVec.smod 32).toNat = k := by decide
  have shifted : (a <<< Int32.ofNat k).toBitVec = a.toBitVec <<< k := by
    rw [Int32.toBitVec_shiftLeft, BitVec.shiftLeft_eq', amount k small]
  rw [Int32.toInt, shifted, BitVec.toInt_shiftLeft, Nat.shiftLeft_eq, Int32.toInt,
    BitVec.toInt_eq_toNat_bmod, Nat.mul_comm]
  push_cast
  rw [Int.mul_bmod_bmod]

/-- A wider second half would have lost its upper bits before. -/
theorem mergeTwoS_toInt (a : Int32) (b : UInt8) {k : Nat} (small : k < 32)
    (lower : -2 ^ 31 ≤ 2 ^ k * a.toInt) (upper : 2 ^ k * a.toInt + b.toNat < 2 ^ 31) :
    (mergeTwoS a b k).toInt = 2 ^ k * a.toInt + b.toNat := by
  have byte := UInt8.toNat_lt b
  have shifted : (a <<< Int32.ofNat k).toInt = 2 ^ k * a.toInt := by
    rw [toInt_shiftLeft a small]
    exact Int.bmod_eq_of_le (by omega) (by omega)
  rw [mergeTwoS, Int32.toInt_add, shifted, Int32.toInt_ofNat_of_lt (by omega)]
  exact Int.bmod_eq_of_le (by omega) (by omega)

theorem bitsS2_toInt (bit : Nat → Bool) (p1 p2 : Nat) {l1 l2 : Nat} (some : 0 < l1)
    (word : l1 + l2 ≤ 32) :
    (bitsS2 bit p1 l1 p2 l2).toInt =
      Int.bmod (2 ^ l2 * field bit p1 l1 + field bit p2 l2 : Nat) (2 ^ (l1 + l2)) := by
  have high := field_lt bit p1 l1
  have low := field_lt bit p2 l2
  rw [bitsS2]
  by_cases negative : bitsU bit p1 1 ≠ 0
  · rw [if_pos negative, UInt32.toInt32_add, Int32.toInt32_toUInt32, Int32.toInt_add,
      toInt_shiftLeft _ (by omega), bitsS_toInt bit p1 some (by omega), toInt32_toInt,
      bitsU_toNat bit p2 (by omega), ← Int.add_bmod, signedField, ← bmod_concat some high low]
    exact bmod_wider _ (by omega) word
  · have positive := (bitsU_zero_iff bit p1).mp (not_not.mp negative)
    have small := field_lt_half bit p1 some positive
    have hull := concat_lt high low
    have power : 2 ^ (l1 + l2) ≤ 2 ^ 32 := Nat.pow_le_pow_right (by omega) word
    have value := bmod_concat_positive some small low
    have wider := bmod_wider (2 ^ l2 * field bit p1 l1 + field bit p2 l2 : Nat)
      (show 0 < l1 + l2 by omega) word
    rw [if_neg negative, bitsU2_eq bit p1 l1 p2 (by omega), toInt32_toInt, UInt32.toNat_ofNat',
      Nat.mod_eq_of_lt (by omega), value]
    rwa [value] at wider

theorem bitsU3_eq (bit : Nat → Bool) (p1 l1 p2 p3 : Nat) {l2 l3 : Nat} (small : l2 + l3 < 32) :
    bitsU3 bit p1 l1 p2 l2 p3 l3 = UInt32.ofNat (2 ^ (l2 + l3) * field bit p1 l1 +
      (2 ^ l3 * field bit p2 l2 + field bit p3 l3)) := by
  rw [← ofNat_shift_add _ _ small, ← ofNat_shift_add (field bit p2 l2) _ (by omega), ← UInt32.add_assoc]
  rfl

theorem bitsS3_toInt (bit : Nat → Bool) (p1 p2 p3 : Nat) {l1 l2 l3 : Nat} (some : 0 < l1)
    (word : l1 + (l2 + l3) ≤ 32) :
    (bitsS3 bit p1 l1 p2 l2 p3 l3).toInt =
      Int.bmod (2 ^ (l2 + l3) * field bit p1 l1 + (2 ^ l3 * field bit p2 l2 + field bit p3 l3) : Nat)
        (2 ^ (l1 + (l2 + l3))) := by
  have high := field_lt bit p1 l1
  have low := concat_lt (field_lt bit p2 l2) (field_lt bit p3 l3)
  have lowPower : 2 ^ (l2 + l3) < 2 ^ 32 := Nat.pow_lt_pow_right (by omega) (by omega)
  have lower : (bitsU bit p2 l2 <<< UInt32.ofNat l3) + bitsU bit p3 l3 =
      UInt32.ofNat (2 ^ l3 * field bit p2 l2 + field bit p3 l3) := ofNat_shift_add _ _ (by omega)
  rw [bitsS3]
  by_cases negative : bitsU bit p1 1 ≠ 0
  · rw [if_pos negative, UInt32.add_assoc, lower, UInt32.toInt32_add, Int32.toInt32_toUInt32,
      Int32.toInt_add, toInt_shiftLeft _ (by omega), bitsS_toInt bit p1 some (by omega), toInt32_toInt,
      UInt32.toNat_ofNat', Nat.mod_eq_of_lt (by omega), ← Int.add_bmod, signedField,
      ← bmod_concat some high low]
    exact bmod_wider _ (by omega) word
  · have positive := (bitsU_zero_iff bit p1).mp (not_not.mp negative)
    have small := field_lt_half bit p1 some positive
    have hull := concat_lt high low
    have power : 2 ^ (l1 + (l2 + l3)) ≤ 2 ^ 32 := Nat.pow_le_pow_right (by omega) word
    have value := bmod_concat_positive some small low
    have wider := bmod_wider (2 ^ (l2 + l3) * field bit p1 l1 +
      (2 ^ l3 * field bit p2 l2 + field bit p3 l3) : Nat) (show 0 < l1 + (l2 + l3) by omega) word
    rw [if_neg negative, bitsU3_eq bit p1 l1 p2 p3 (by omega), toInt32_toInt, UInt32.toNat_ofNat',
      Nat.mod_eq_of_lt (by omega), value]
    rwa [value] at wider

/-! ## Positions of 32 bits -/

theorem rounds_eq {pos len : UInt32} (fits : pos.toNat + len.toNat < 2 ^ 32) :
    rounds pos len = len.toNat := by
  rw [rounds, UInt32.toNat_add, Nat.mod_eq_of_lt fits, Nat.add_sub_cancel_left]

/-- In a buffer below 2 ^ 29 bytes the sum of a position and a length does not wrap around. -/
theorem getbitu32_eq (p : BytePtr) {pos len : UInt32} (within : pos.toNat + len.toNat ≤ 8 * n)
    (small : 8 * n < 2 ^ 32) : getbitu32 p pos len = getbitu p pos.toNat len.toNat := by
  rw [getbitu32, rounds_eq (by omega), getbitu]

theorem setbitu32_eq (buff : Vector UInt8 n) (base : Nat) {pos len : UInt32} (data : UInt32)
    (within : pos.toNat + len.toNat ≤ 8 * n) (small : 8 * n < 2 ^ 32) :
    setbitu32 buff base pos len data = setbitu buff base pos.toNat len.toNat data := by
  have guard : (len = 0 ∨ len > 32) ↔ (len.toNat = 0 ∨ len.toNat > 32) := by
    rw [← UInt32.toNat_inj, gt_iff_lt, UInt32.lt_iff_toNat_lt]
    rfl
  rw [setbitu32, setbitu, rounds_eq (by omega)]
  by_cases skipped : len = 0 ∨ len > 32
  · rw [if_pos skipped, if_pos (guard.mp skipped)]
  · have some : 1 ≤ len.toNat := by have := not_or.mp (mt guard.mpr skipped); omega
    have one : (1 : UInt32) ≤ len := UInt32.le_iff_toNat_le.mpr some
    have last : len - 1 = UInt32.ofNat (len.toNat - 1) := by
      rw [← UInt32.toNat_inj, UInt32.toNat_sub_of_le _ _ one, UInt32.toNat_ofNat',
        Nat.mod_eq_of_lt (by omega)]
      rfl
    rw [if_neg skipped, if_neg (mt guard.mpr skipped), last]

/-! ## Values as doubles -/

theorem doubleOfUInt_bitsU (bit : Nat → Bool) (pos : Nat) {len : Nat} (word : len ≤ 32) :
    doubleOfUInt (bitsU bit pos len) = field bit pos len := by
  rw [doubleOfUInt, bitsU_toNat bit pos word]

theorem doubleOfInt_bitsS (bit : Nat → Bool) (pos : Nat) {len : Nat} (some : 0 < len)
    (word : len ≤ 32) : doubleOfInt (bitsS bit pos len) = signedField bit pos len := by
  rw [doubleOfInt, bitsS_toInt bit pos some word]

/-! ## Laws -/

/-- A field that is written reads back modulo its width, and no other bit changes. -/
theorem setbitu_getbitu (buff : Vector UInt8 n) {pos len : Nat} (data : UInt32) (nonempty : 1 ≤ len)
    (word : len ≤ 32) (inside : pos + len ≤ 8 * n) :
    ∃ buff', setbitu buff 0 pos len data = .ok buff' ∧
      (∃ bits, getbitu (readAt buff') pos len = .ok bits ∧ bits.toNat = data.toNat % 2 ^ len) ∧
      (∀ i, ¬ (pos ≤ i ∧ i < pos + len) → bufferBit buff' i = bufferBit buff i) ∧
      (∀ other width, other + width ≤ 8 * n → other + width ≤ pos ∨ pos + len ≤ other →
        getbitu (readAt buff') other width = getbitu (readAt buff) other width) ∧
      ∀ at' a b, a + b ≤ 32 → at' + a + b ≤ 8 * n → ∃ whole high low,
        getbitu (readAt buff) at' (a + b) = .ok whole ∧ getbitu (readAt buff) at' a = .ok high ∧
          getbitu (readAt buff) (at' + a) b = .ok low ∧
          whole.toNat = high.toNat * 2 ^ b + low.toNat := by
  obtain ⟨buff', wrote, bits⟩ := setbitu_ok buff 0 pos data nonempty word (by omega)
  have view := exposes_readAt buff
  have view' := exposes_readAt buff'
  have kept : ∀ i, ¬ (pos ≤ i ∧ i < pos + len) → bufferBit buff' i = bufferBit buff i := by
    intro i outside
    rw [bits i, if_neg (by omega)]
  refine ⟨buff', wrote, ⟨_, getbitu_ok view' inside, ?_⟩, kept, ?_, ?_⟩
  · have written : field (bufferBit buff') pos len =
        field (fun j => data.toNat.testBit (pos + len - 1 - j)) pos len := by
      refine field_congr fun i lower upper => ?_
      rw [bits i, if_pos (by omega)]
      congr 1
      omega
    rw [bitsU_toNat _ _ word, written, field_word _ _ _ le_rfl, show pos + len - pos - len = 0 by omega,
      pow_zero, Nat.div_one]
  · intro other width within disjoint
    refine getbitu_congr view' view within fun i lower upper => kept i ?_
    omega
  · intro at' a b small within
    refine ⟨_, _, _, getbitu_ok view (by omega), getbitu_ok view (by omega),
      getbitu_ok view (by omega), ?_⟩
    rw [bitsU_toNat _ _ small, bitsU_toNat _ _ (by omega), bitsU_toNat _ _ (by omega), field_append,
      Nat.mul_comm]

theorem setbitu_getbitu_unaligned :
    ∃ buff', setbitu (Vector.replicate 3 0xA5) 0 5 11 0x12345678 = .ok buff' ∧
      (∃ bits, getbitu (readAt buff') 5 11 = .ok bits ∧ bits.toNat = 0x678 % 2 ^ 11) := by
  obtain ⟨buff', wrote, read, -⟩ := setbitu_getbitu (Vector.replicate 3 0xA5) 0x12345678
    (show 1 ≤ 11 by decide) (by decide) (show 5 + 11 ≤ 8 * 3 by decide)
  exact ⟨buff', wrote, read⟩

/-- Readers of one field and of fields in two and three parts, unsigned and in two's complement. -/
theorem fields_decode (buff : Vector UInt8 n) :
    (∀ pos len, 1 ≤ len → len ≤ 32 → pos + len ≤ 8 * n → ∃ s,
      getbits (readAt buff) pos len = .ok s ∧
        s.toInt = Int.bmod (field (bufferBit buff) pos len) (2 ^ len)) ∧
    (∀ p1 l1 p2 l2, 1 ≤ l1 → 1 ≤ l2 → l1 + l2 ≤ 32 → p1 + l1 ≤ 8 * n → p2 + l2 ≤ 8 * n → ∃ u s,
      getbitu2 (readAt buff) p1 l1 p2 l2 = .ok u ∧ getbits2 (readAt buff) p1 l1 p2 l2 = .ok s ∧
        ∃ whole, whole = 2 ^ l2 * field (bufferBit buff) p1 l1 + field (bufferBit buff) p2 l2 ∧
          u.toNat = whole ∧ s.toInt = Int.bmod whole (2 ^ (l1 + l2))) ∧
    ∀ p1 l1 p2 l2 p3 l3, 1 ≤ l1 → 1 ≤ l2 → 1 ≤ l3 → l1 + l2 + l3 ≤ 32 → p1 + l1 ≤ 8 * n →
      p2 + l2 ≤ 8 * n → p3 + l3 ≤ 8 * n → ∃ u s,
      getbitu3 (readAt buff) p1 l1 p2 l2 p3 l3 = .ok u ∧
        getbits3 (readAt buff) p1 l1 p2 l2 p3 l3 = .ok s ∧
        ∃ whole, whole = 2 ^ (l2 + l3) * field (bufferBit buff) p1 l1 +
            (2 ^ l3 * field (bufferBit buff) p2 l2 + field (bufferBit buff) p3 l3) ∧
          u.toNat = whole ∧ s.toInt = Int.bmod whole (2 ^ (l1 + l2 + l3)) := by
  have view := exposes_readAt buff
  refine ⟨fun pos len some word inside => ?_, fun p1 l1 p2 l2 some _ word first second => ?_,
    fun p1 l1 p2 l2 p3 l3 some _ _ word first second third => ?_⟩
  · exact ⟨_, getbits_ok view inside, bitsS_toInt _ _ some word⟩
  · have hull := concat_lt (field_lt (bufferBit buff) p1 l1) (field_lt (bufferBit buff) p2 l2)
    have power : 2 ^ (l1 + l2) ≤ 2 ^ 32 := Nat.pow_le_pow_right (by omega) word
    refine ⟨_, _, getbitu2_ok view first second, getbits2_ok view some first second, _, rfl, ?_,
      bitsS2_toInt _ _ _ some word⟩
    rw [bitsU2_eq _ _ _ _ (by omega), UInt32.toNat_ofNat', Nat.mod_eq_of_lt (by omega)]
  · have low := concat_lt (field_lt (bufferBit buff) p2 l2) (field_lt (bufferBit buff) p3 l3)
    have hull := concat_lt (field_lt (bufferBit buff) p1 l1) low
    rw [Nat.add_assoc] at word
    have power : 2 ^ (l1 + (l2 + l3)) ≤ 2 ^ 32 := Nat.pow_le_pow_right (by omega) word
    refine ⟨_, _, getbitu3_ok view first second third, getbits3_ok view some first second third, _,
      rfl, ?_, by rw [Nat.add_assoc]; exact bitsS3_toInt _ _ _ _ some word⟩
    rw [bitsU3_eq _ _ _ _ _ (by omega), UInt32.toNat_ofNat', Nat.mod_eq_of_lt (by omega)]

theorem fields_decode_parts :
    (∃ s, getbits (readAt (Vector.replicate 3 0xF0)) 8 6 = .ok s ∧ s.toInt = -4) ∧
      ∃ u s, getbitu2 (readAt (Vector.replicate 3 0xF0)) 8 6 18 6 = .ok u ∧
        getbits2 (readAt (Vector.replicate 3 0xF0)) 8 6 18 6 = .ok s ∧
        u.toNat = 3888 ∧ s.toInt = -208 := by
  obtain ⟨one, two, -⟩ := fields_decode (Vector.replicate 3 0xF0)
  obtain ⟨s, read, value⟩ := one 8 6 (by decide) (by decide) (by decide)
  obtain ⟨u, s', readU, readS, whole, parts, unsigned, signed⟩ :=
    two 8 6 18 6 (by decide) (by decide) (by decide) (by decide) (by decide)
  have number : whole = 3888 := parts.trans (by decide +kernel)
  refine ⟨⟨s, read, value.trans (by decide +kernel)⟩, u, s', readU, readS, ?_, ?_⟩
  · rw [unsigned, number]
  · rw [signed, number]
    decide +kernel

end GnssParser
