import GnssParser.Lib.Checked

/-!
# Bit views of byte buffers

Bit `i` of a buffer is bit `7 - i % 8` of its byte `i / 8`: the first bit is the most significant
one of the first byte. A field is a run of bits read most significant first.
-/

namespace BitView
open Checked

variable {n : Nat}

/-! ## Fields -/

def field (bit : Nat → Bool) (pos : Nat) : Nat → Nat
  | 0 => 0
  | len + 1 => 2 * field bit pos len + (bit (pos + len)).toNat

theorem field_lt (bit : Nat → Bool) (pos len : Nat) : field bit pos len < 2 ^ len := by
  induction len with
  | zero => simp [field]
  | succ len ih =>
      have digit := Bool.toNat_lt (bit (pos + len))
      rw [field, pow_succ]
      omega

theorem field_congr {bit bit' : Nat → Bool} {pos len : Nat}
    (same : ∀ i, pos ≤ i → i < pos + len → bit i = bit' i) :
    field bit pos len = field bit' pos len := by
  induction len with
  | zero => rfl
  | succ len ih =>
      rw [field, field, ih fun i lower upper => same i lower (by omega),
        same (pos + len) (by omega) (by omega)]

theorem field_append (bit : Nat → Bool) (pos a b : Nat) :
    field bit pos (a + b) = 2 ^ b * field bit pos a + field bit (pos + a) b := by
  induction b with
  | zero => simp [field]
  | succ b ih =>
      rw [← Nat.add_assoc, field, field, ih, pow_succ, Nat.add_assoc pos]
      ring

theorem field_shift (bit : Nat → Bool) (base pos len : Nat) :
    field (fun i => bit (base + i)) pos len = field bit (base + pos) len := by
  induction len with
  | zero => rfl
  | succ len ih => rw [field, field, ih, Nat.add_assoc]

theorem field_word (x w pos : Nat) {len : Nat} (inside : pos + len ≤ w) :
    field (fun j => x.testBit (w - 1 - j)) pos len = x / 2 ^ (w - pos - len) % 2 ^ len := by
  induction len with
  | zero => rw [field, pow_zero, Nat.mod_one]
  | succ len ih =>
      have power : 2 ^ (w - pos - len) = 2 ^ (w - pos - (len + 1)) * 2 := by
        rw [← pow_succ]
        congr 1
        omega
      rw [field, ih (by omega), Nat.toNat_testBit, power, ← Nat.div_div_eq_div_mul, pow_succ',
        Nat.mod_mul, show w - 1 - (pos + len) = w - pos - (len + 1) by omega]
      omega

theorem testBit_field (bit : Nat → Bool) (pos : Nat) {len k : Nat} (h : k < len) :
    (field bit pos len).testBit (len - 1 - k) = bit (pos + k) := by
  induction len with
  | zero => omega
  | succ len ih =>
      have digit := Bool.toNat_lt (bit (pos + len))
      rw [field]
      by_cases last : k = len
      · subst last
        rw [Nat.add_sub_cancel, Nat.sub_self, Nat.testBit_zero, Nat.mul_add_mod,
          Nat.mod_eq_of_lt digit]
        cases bit (pos + k) <;> rfl
      · rw [show len + 1 - 1 - k = len - 1 - k + 1 by omega, Nat.testBit_succ,
          show (2 * field bit pos len + (bit (pos + len)).toNat) / 2 = field bit pos len by omega]
        exact ih (by omega)

theorem field_lt_half (bit : Nat → Bool) (pos : Nat) {len : Nat} (some : 0 < len)
    (positive : bit pos = false) : field bit pos len < 2 ^ (len - 1) := by
  have half : 2 ^ len = 2 * 2 ^ (len - 1) := by rw [← pow_succ', Nat.sub_add_cancel some]
  have bound := field_lt bit pos len
  by_contra high
  have top := testBit_field bit pos some
  rw [Nat.add_zero, Nat.sub_zero, positive, Nat.testBit_eq_decide_div_mod_eq,
    Nat.div_eq_of_lt_le (k := 1) (by omega) (by omega)] at top
  cases top

/-! ## Two's complement -/

def signedField (bit : Nat → Bool) (pos len : Nat) : Int :=
  Int.bmod (field bit pos len) (2 ^ len)

theorem bmod_two_pow (x : Nat) {len : Nat} (some : 0 < len) (small : x < 2 ^ len) :
    Int.bmod x (2 ^ len) = if x < 2 ^ (len - 1) then (x : Int) else x - 2 ^ len := by
  have half : 2 ^ len = 2 * 2 ^ (len - 1) := by rw [← pow_succ', Nat.sub_add_cancel some]
  have exact : (x : Int) % (2 ^ len : Nat) = x := by
    rw [Int.emod_eq_of_lt (by omega) (by exact_mod_cast small)]
  rw [Int.bmod, exact]
  have middle : (((2 ^ len : Nat) : Int) + 1) / 2 = (2 ^ (len - 1) : Nat) := by
    rw [half]
    push_cast
    omega
  rw [middle]
  simp only [Nat.cast_lt]
  push_cast
  rfl

theorem bmod_bounds (x : Int) {len : Nat} (some : 0 < len) :
    -2 ^ (len - 1) ≤ Int.bmod x (2 ^ len) ∧ Int.bmod x (2 ^ len) < 2 ^ (len - 1) := by
  obtain ⟨k, rfl⟩ : ∃ k, len = k + 1 := ⟨len - 1, by omega⟩
  have lower := Int.le_bmod (x := x) (Nat.two_pow_pos (k + 1))
  have upper := Int.bmod_lt (x := x) (Nat.two_pow_pos (k + 1))
  have half : ((2 ^ (k + 1) : Nat) : Int) = 2 * 2 ^ k := by
    push_cast
    ring
  rw [half] at lower upper
  rw [Nat.add_sub_cancel]
  omega

/-- The sign is that of the high part. -/
theorem bmod_concat {hi lo l1 l2 : Nat} (some : 0 < l1) (high : hi < 2 ^ l1) (low : lo < 2 ^ l2) :
    Int.bmod (2 ^ l2 * hi + lo : Nat) (2 ^ (l1 + l2)) = 2 ^ l2 * Int.bmod hi (2 ^ l1) + lo := by
  have power : 2 ^ (l1 + l2) = 2 ^ l2 * 2 ^ l1 := by rw [pow_add, Nat.mul_comm]
  have half : 2 ^ (l1 + l2 - 1) = 2 ^ l2 * 2 ^ (l1 - 1) := by
    rw [← pow_add]
    congr 1
    omega
  have bound : 2 ^ l2 * hi + lo < 2 ^ l2 * (hi + 1) := by rw [Nat.mul_add]; omega
  have whole : 2 ^ l2 * (hi + 1) ≤ 2 ^ l2 * 2 ^ l1 := Nat.mul_le_mul_left _ high
  rw [bmod_two_pow _ (by omega) (by omega), bmod_two_pow _ some high]
  have same : 2 ^ l2 * hi + lo < 2 ^ (l1 + l2 - 1) ↔ hi < 2 ^ (l1 - 1) := by
    rw [half]
    constructor
    · intro below
      exact Nat.lt_of_mul_lt_mul_left (Nat.lt_of_le_of_lt (Nat.le_add_right _ lo) below)
    · intro below
      exact Nat.lt_of_lt_of_le bound (Nat.mul_le_mul_left _ below)
  simp only [same]
  have wide : (2 : Int) ^ (l1 + l2) = 2 ^ l2 * 2 ^ l1 := by exact_mod_cast power
  split_ifs
  · push_cast; rfl
  · rw [wide]
    push_cast
    ring

theorem concat_lt {hi lo l1 l2 : Nat} (high : hi < 2 ^ l1) (low : lo < 2 ^ l2) :
    2 ^ l2 * hi + lo < 2 ^ (l1 + l2) := by
  rw [Nat.add_comm l1, pow_add]
  calc 2 ^ l2 * hi + lo < 2 ^ l2 * (hi + 1) := by rw [Nat.mul_add]; omega
    _ ≤ 2 ^ l2 * 2 ^ l1 := Nat.mul_le_mul_left _ high

/-- A narrower value is kept by wider arithmetic. -/
theorem bmod_wider (x : Int) {len width : Nat} (some : 0 < len) (fits : len ≤ width) :
    Int.bmod (Int.bmod x (2 ^ len)) (2 ^ width) = Int.bmod x (2 ^ len) := by
  obtain ⟨lower, upper⟩ := bmod_bounds x some
  have half : ((2 ^ width : Nat) : Int) = 2 * 2 ^ (width - 1) := by
    rw [← pow_succ', Nat.sub_add_cancel (by omega)]
    push_cast
    rfl
  have power : (2 : Int) ^ (len - 1) ≤ 2 ^ (width - 1) :=
    pow_le_pow_right₀ (by norm_num) (by omega)
  exact Int.bmod_eq_of_le (by omega) (by omega)

theorem bmod_concat_positive {hi lo l1 l2 : Nat} (some : 0 < l1) (high : hi < 2 ^ (l1 - 1))
    (low : lo < 2 ^ l2) :
    Int.bmod (2 ^ l2 * hi + lo : Nat) (2 ^ (l1 + l2)) = (2 ^ l2 * hi + lo : Nat) := by
  have full : hi < 2 ^ l1 := high.trans_le (Nat.pow_le_pow_right (by omega) (by omega))
  rw [bmod_concat some full low, bmod_two_pow _ some full, if_pos high]
  push_cast
  rfl

/-! ## Bytes -/

/-- Bit `k` of a byte, from the most significant. -/
def byteBit (b : UInt8) (k : Nat) : Bool := b.toNat.testBit (7 - k)

def bufferBit (v : Vector UInt8 n) (i : Nat) : Bool :=
  if h : i / 8 < n then byteBit v[i / 8] (i % 8) else false

theorem bufferBit_of_lt (v : Vector UInt8 n) {i : Nat} (h : i / 8 < n) :
    bufferBit v i = byteBit v[i / 8] (i % 8) := dif_pos h

/-- The bits of a buffer that is given by its bytes. -/
theorem bufferBit_ofFn (f : Nat → UInt8) : bufferBit (Vector.ofFn fun j : Fin n => f j) =
    fun i => decide (i / 8 < n) && byteBit (f (i / 8)) (i % 8) := by
  funext i
  by_cases h : i / 8 < n
  · simp [bufferBit, h]
  · simp [bufferBit, h]

theorem byteBit_shift (b : UInt8) {k : Nat} (h : k < 8) :
    (b.toUInt32 >>> UInt32.ofNat (7 - k)) &&& 1 = UInt32.ofNat (byteBit b k).toNat := by
  have small : (7 - k) % 2 ^ 32 % 32 = 7 - k := by omega
  have bit : b.toNat >>> (7 - k) &&& 1 = (byteBit b k).toNat := by
    rw [byteBit, Nat.toNat_testBit, Nat.shiftRight_eq_div_pow, Nat.and_one_is_mod]
  apply UInt32.toNat_inj.mp
  rw [UInt32.toNat_and, UInt32.toNat_shiftRight, UInt32.toNat_ofNat', small,
    UInt8.toNat_toUInt32, UInt32.toNat_ofNat', show (1 : UInt32).toNat = 1 from rfl, bit]
  cases byteBit b k <;> rfl

theorem byteBit_or (b : UInt8) {k j : Nat} (hk : k < 8) (hj : j < 8) :
    byteBit (b ||| (1 <<< UInt8.ofNat (7 - k))) j = (byteBit b j || decide (j = k)) := by
  have small : (7 - k) % 2 ^ 8 % 8 = 7 - k := by omega
  rw [byteBit, UInt8.toNat_or, UInt8.toNat_shiftLeft, UInt8.toNat_ofNat', small,
    Nat.testBit_or, Nat.testBit_mod_two_pow, show (1 : UInt8).toNat = 1 from rfl,
    Nat.one_shiftLeft, Nat.testBit_two_pow, byteBit]
  congr 1
  simp only [show 7 - j < 8 by omega, decide_true, Bool.true_and, decide_eq_decide]
  omega

theorem byteBit_and_not (b : UInt8) {k j : Nat} (hk : k < 8) (hj : j < 8) :
    byteBit (b &&& ~~~(1 <<< UInt8.ofNat (7 - k))) j = (byteBit b j && !decide (j = k)) := by
  have small : (7 - k) % 2 ^ 8 % 8 = 7 - k := by omega
  have below : 2 ^ (7 - k) < 2 ^ 8 := Nat.pow_lt_pow_right (by omega) (by omega)
  rw [byteBit, UInt8.toNat_and, UInt8.toNat_not, UInt8.toNat_shiftLeft, UInt8.toNat_ofNat', small,
    Nat.testBit_and, show (1 : UInt8).toNat = 1 from rfl, Nat.one_shiftLeft,
    Nat.mod_eq_of_lt below, byteBit]
  congr 1
  rw [show UInt8.size - 1 - 2 ^ (7 - k) = 2 ^ 8 - (2 ^ (7 - k) + 1) by
    rw [UInt8.size]; omega, Nat.testBit_two_pow_sub_succ below, Nat.testBit_two_pow]
  simp only [show 7 - j < 8 by omega, decide_true, Bool.true_and, Bool.not_inj_iff,
    decide_eq_decide]
  omega

theorem byteBit_assign (b : UInt8) (value : Prop) [Decidable value] {k j : Nat} (hk : k < 8)
    (hj : j < 8) :
    byteBit (if value then b ||| (1 <<< UInt8.ofNat (7 - k))
      else b &&& ~~~(1 <<< UInt8.ofNat (7 - k))) j =
      if j = k then decide value else byteBit b j := by
  by_cases set : value
  · rw [if_pos set, byteBit_or b hk hj]
    by_cases hit : j = k <;> simp [hit, set]
  · rw [if_neg set, byteBit_and_not b hk hj]
    by_cases hit : j = k <;> simp [hit, set]

theorem bufferBit_set (v : Vector UInt8 n) {q : Nat} (hq : q < n) (b : UInt8) (i : Nat) :
    bufferBit (v.set q b) i = if i / 8 = q then byteBit b (i % 8) else bufferBit v i := by
  by_cases h : i / 8 < n
  · rw [bufferBit_of_lt _ h, bufferBit_of_lt _ h, Vector.getElem_set]
    by_cases same : i / 8 = q
    · simp [same]
    · simp [same, Ne.symm same]
  · have other : i / 8 ≠ q := by omega
    simp [bufferBit, h, other]

theorem bufferBit_byte (v : Vector UInt8 n) {q k : Nat} (hq : q < n) (hk : k < 8) :
    bufferBit v (8 * q + k) = byteBit v[q] k := by
  rw [bufferBit_of_lt v (by omega)]
  simp only [show (8 * q + k) / 8 = q by omega, show (8 * q + k) % 8 = k by omega]

theorem byte_ext {a b : UInt8} (same : ∀ k < 8, byteBit a k = byteBit b k) : a = b := by
  apply UInt8.toNat_inj.mp
  apply Nat.eq_of_testBit_eq
  intro i
  by_cases h : i < 8
  · have bit := same (7 - i) (by omega)
    rwa [byteBit, byteBit, show 7 - (7 - i) = i by omega] at bit
  · have wide : 2 ^ 8 ≤ 2 ^ i := Nat.pow_le_pow_right (by omega) (by omega)
    rw [Nat.testBit_lt_two_pow (a.toNat_lt.trans_le wide),
      Nat.testBit_lt_two_pow (b.toNat_lt.trans_le wide)]

theorem flatMap_bits (v : Vector UInt8 n) {k : Nat} (h : k ≤ n) :
    (v.toList.take k).flatMap (fun b => (List.range 8).map (byteBit b)) =
      (List.range (8 * k)).map (bufferBit v) := by
  induction k with
  | zero => rfl
  | succ k ih =>
      have bound : k < v.toList.length := by simpa using h
      rw [List.take_add_one, List.getElem?_eq_getElem bound, Option.toList_some, List.flatMap_append,
        ih (by omega), List.flatMap_singleton, Nat.mul_succ, List.range_add, List.map_append,
        List.map_map]
      congr 1
      refine List.map_congr_left fun j mem => ?_
      have small : j < 8 := List.mem_range.mp mem
      rw [Function.comp, bufferBit_of_lt v (by omega), Vector.getElem_toList]
      simp only [show (8 * k + j) / 8 = k by omega, show (8 * k + j) % 8 = j by omega]

/-! ## Pointers -/

/-- The pointer `p` can be read for `n` bytes, whose bits are `bit`. -/
def Exposes (p : BytePtr) (bit : Nat → Bool) (n : Nat) : Prop :=
  ∀ i < n, ∃ b, p i = .ok b ∧ ∀ k < 8, byteBit b k = bit (8 * i + k)

theorem exposes_readAt (v : Vector UInt8 n) : Exposes (readAt v) (bufferBit v) n := by
  intro i h
  refine ⟨v[i], readAt_ok h, fun k hk => ?_⟩
  have quotient : (8 * i + k) / 8 = i := by omega
  have remainder : (8 * i + k) % 8 = k := by omega
  rw [bufferBit_of_lt v (by omega)]
  simp only [quotient, remainder]

theorem Exposes.add {p : BytePtr} {bit : Nat → Bool} {m k : Nat} (view : Exposes p bit (k + m)) :
    Exposes (p.add k) (fun i => bit (8 * k + i)) m := by
  intro i h
  obtain ⟨b, read, bits⟩ := view (k + i) (by omega)
  refine ⟨b, read, fun j hj => ?_⟩
  rw [bits j hj, Nat.mul_add, Nat.add_assoc]

theorem Exposes.congr {p : BytePtr} {bit bit' : Nat → Bool} {m : Nat} (view : Exposes p bit m)
    (same : ∀ i < 8 * m, bit i = bit' i) : Exposes p bit' m := by
  intro i h
  obtain ⟨b, read, bits⟩ := view i h
  exact ⟨b, read, fun k hk => (bits k hk).trans (same _ (by omega))⟩

end BitView
