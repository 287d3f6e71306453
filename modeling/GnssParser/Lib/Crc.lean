import GnssParser.Lib.Burst
import Mathlib.Data.LawfulXor.Basic
import Mathlib.Tactic

/-!
# Cyclic redundancy checks

Long division of bit strings over GF(2), the coefficients of a polynomial being the bits of a
natural number: the check of a message is the remainder, modulo a generator of degree `w`, of the
message followed by `w` zero bits. One division step is linear, so a byte may be added to the top of
the register at once.
-/

namespace Crc

variable (g w : Nat)

def reduce (r : Nat) : Nat := if r.testBit w then r ^^^ g else r

/-- Long division: each further bit of the message is brought down and the remainder reduced. -/
def divide (r : Nat) (bits : List Bool) : Nat :=
  bits.foldl (fun r b => reduce g w (2 * r + b.toNat)) r

def remainder (bits : List Bool) : Nat := divide g w 0 (bits ++ List.replicate w false)

/-- A zero bit brought down. -/
def shift (r : Nat) : Nat := reduce g w (2 * r)

/-- The number a bit string denotes. -/
def value (bits : List Bool) : Nat := bits.foldl (fun r b => 2 * r + b.toNat) 0

/-! ## Linearity -/

theorem two_mul_xor (a b : Nat) : 2 * (a ^^^ b) = 2 * a ^^^ 2 * b := by
  have double : ∀ n : Nat, 2 * n = n <<< 1 := fun n => by rw [Nat.shiftLeft_eq]; omega
  rw [double, double, double, Nat.shiftLeft_xor_distrib]

theorem two_mul_add_bit (r : Nat) (b : Bool) : 2 * r + b.toNat = 2 * r ^^^ b.toNat := by
  have half : (2 * r + 1) / 2 = r := by omega
  cases b with
  | false => simp
  | true =>
      apply Nat.eq_of_testBit_eq
      intro i
      cases i with
      | zero => simp
      | succ i =>
          rw [Nat.testBit_xor]
          simp [Nat.testBit_succ, half]

theorem reduce_xor (a b : Nat) : reduce g w (a ^^^ b) = reduce g w a ^^^ reduce g w b := by
  have cancel : a ^^^ g ^^^ (b ^^^ g) = a ^^^ b := by
    rw [Nat.xor_assoc, Nat.xor_comm b g, ← Nat.xor_assoc g g b, Nat.xor_self, Nat.zero_xor]
  simp only [reduce, Nat.testBit_xor]
  cases a.testBit w <;> cases b.testBit w
  · simp
  · simp [Nat.xor_assoc]
  · simp only [Bool.xor_false, if_true, Bool.false_eq_true, if_false]
    rw [Nat.xor_assoc, Nat.xor_comm b g, Nat.xor_assoc]
  · simp [cancel]

theorem shift_xor (a b : Nat) : shift g w (a ^^^ b) = shift g w a ^^^ shift g w b := by
  rw [shift, two_mul_xor, reduce_xor, shift, shift]

theorem iterate_shift_xor (n a b : Nat) :
    (shift g w)^[n] (a ^^^ b) = (shift g w)^[n] a ^^^ (shift g w)^[n] b := by
  induction n generalizing a b with
  | zero => rfl
  | succ n ih => rw [Function.iterate_succ_apply, shift_xor, ih]; rfl

theorem iterate_shift_zero (n : Nat) : (shift g w)^[n] 0 = 0 := by
  have fixed : shift g w 0 = 0 := by simp [shift, reduce]
  exact Function.iterate_fixed fixed n

theorem divide_eq (pos : 0 < w) (r : Nat) (bits : List Bool) :
    divide g w r bits = (shift g w)^[bits.length] r ^^^ divide g w 0 bits := by
  induction bits generalizing r with
  | nil => simp [divide]
  | cons b bits ih =>
      have digit : reduce g w b.toNat = b.toNat := by
        obtain ⟨k, rfl⟩ := Nat.exists_eq_succ_of_ne_zero pos.ne'
        cases b <;> simp [reduce, Nat.testBit_succ]
      have first : ∀ r, divide g w r (b :: bits) = divide g w (shift g w r ^^^ b.toNat) bits := by
        intro r
        rw [divide, List.foldl_cons, two_mul_add_bit, reduce_xor, digit]
        rfl
      have start : shift g w 0 = 0 := iterate_shift_zero g w 1
      rw [first, first, ih, ih (shift g w 0 ^^^ b.toNat), start, Nat.zero_xor, iterate_shift_xor,
        List.length_cons, Function.iterate_succ_apply, Nat.xor_assoc]

theorem divide_append (r : Nat) (bits more : List Bool) :
    divide g w r (bits ++ more) = divide g w (divide g w r bits) more := by
  rw [divide, List.foldl_append]
  rfl

theorem divide_zeros (r n : Nat) : divide g w r (List.replicate n false) = (shift g w)^[n] r := by
  induction n generalizing r with
  | zero => rfl
  | succ n ih => rw [List.replicate_succ, divide, List.foldl_cons]; exact ih _

/-! ## Below the generator -/

theorem reduce_of_lt {r : Nat} (small : r < 2 ^ w) : reduce g w r = r := by
  rw [reduce, Nat.testBit_lt_two_pow small]
  rfl

theorem iterate_shift_of_lt {r n : Nat} (small : r * 2 ^ n < 2 ^ w) :
    (shift g w)^[n] r = r * 2 ^ n := by
  induction n generalizing r with
  | zero => simp
  | succ n ih =>
      have step : r * 2 ^ (n + 1) = 2 * r * 2 ^ n := by ring
      have first : 2 * r < 2 ^ w :=
        (Nat.le_mul_of_pos_right _ (Nat.two_pow_pos n)).trans_lt (step ▸ small)
      rw [Function.iterate_succ_apply, shift, reduce_of_lt g w first, ih (step ▸ small), step]

theorem value_append_singleton (bits : List Bool) (b : Bool) :
    value (bits ++ [b]) = 2 * value bits + b.toNat := by
  rw [value, List.foldl_append]
  rfl

theorem value_append (bits more : List Bool) :
    value (bits ++ more) = value bits * 2 ^ more.length + value more := by
  induction more using List.reverseRecOn with
  | nil => simp [value]
  | append_singleton more b ih =>
      rw [← List.append_assoc, value_append_singleton, ih, value_append_singleton,
        List.length_append, List.length_singleton, pow_succ]
      ring

theorem value_inj {bits other : List Bool} (lengths : bits.length = other.length)
    (same : value bits = value other) : bits = other := by
  induction bits using List.reverseRecOn generalizing other with
  | nil => exact (List.length_eq_zero_iff.mp lengths.symm).symm
  | append_singleton bits b ih =>
      cases other using List.reverseRecOn with
      | nil => simp at lengths
      | append_singleton other c =>
          have digit := Bool.toNat_lt b
          have otherDigit := Bool.toNat_lt c
          rw [value_append_singleton, value_append_singleton] at same
          have last : b = c := by
            cases b <;> cases c <;> simp at same ⊢ <;> omega
          have front : bits = other := ih (by simpa using lengths) (by omega)
          rw [front, last]

theorem value_lt (bits : List Bool) : value bits < 2 ^ bits.length := by
  induction bits using List.reverseRecOn with
  | nil => simp [value]
  | append_singleton bits b ih =>
      have digit := Bool.toNat_lt b
      rw [value_append_singleton, List.length_append, List.length_singleton, pow_succ]
      omega

theorem divide_short {bits : List Bool} (short : bits.length ≤ w) :
    divide g w 0 bits = value bits := by
  induction bits using List.reverseRecOn with
  | nil => rfl
  | append_singleton bits b ih =>
      have below := (value_lt (bits ++ [b])).trans_le (Nat.pow_le_pow_right (by omega) short)
      rw [value_append_singleton] at below
      rw [List.length_append, List.length_singleton] at short
      rw [divide_append, ih (by omega), value_append_singleton]
      exact reduce_of_lt g w below

/-! ## Messages -/

theorem remainder_nil : remainder g w [] = 0 := by
  rw [remainder, List.nil_append, divide_zeros, iterate_shift_zero]

/-- Further bits enter at the top of the register, which is then shifted past them. -/
theorem remainder_append (pos : 0 < w) (bits more : List Bool)
    (short : more.length ≤ w) :
    remainder g w (bits ++ more) =
      (shift g w)^[more.length] (remainder g w bits ^^^ value more * 2 ^ (w - more.length)) := by
  have below : value more * 2 ^ (w - more.length) < 2 ^ w := by
    calc value more * 2 ^ (w - more.length)
        < 2 ^ more.length * 2 ^ (w - more.length) :=
          Nat.mul_lt_mul_of_pos_right (value_lt more) (Nat.two_pow_pos _)
      _ = 2 ^ w := by rw [← pow_add, Nat.add_sub_cancel' short]
  have top := iterate_shift_of_lt g w below
  have past : ∀ r, (shift g w)^[w] r =
      (shift g w)^[more.length] ((shift g w)^[w - more.length] r) := fun r => by
    rw [← Function.iterate_add_apply, Nat.add_sub_cancel' short]
  have swap : ∀ r, (shift g w)^[w] ((shift g w)^[more.length] r) =
      (shift g w)^[more.length] ((shift g w)^[w] r) := fun r =>
    (Function.Commute.iterate_iterate_self (shift g w) w more.length) r
  rw [remainder, divide_append, divide_append, divide_zeros, divide_eq g w pos, divide_short g w short,
    iterate_shift_xor, swap, past (value more), top, ← iterate_shift_xor, remainder, divide_append,
    divide_zeros]

/-- A message followed by its check is divisible, and only by its check. -/
theorem divide_eq_zero_iff (pos : 0 < w) (bits : List Bool) {check : List Bool}
    (width : check.length = w) :
    divide g w 0 (bits ++ check) = 0 ↔ remainder g w bits = value check := by
  have sum : divide g w 0 (bits ++ check) = remainder g w bits ^^^ value check := by
    rw [divide_append, divide_eq g w pos, divide_short g w width.le, width, remainder,
      divide_append, divide_zeros]
  rw [sum, xor_eq_zero_iff]

/-! ## Bursts -/

theorem shift_eq_zero (odd : g.testBit 0 = true) {r : Nat} (zero : shift g w r = 0) : r = 0 := by
  rw [shift, reduce] at zero
  split at zero
  · have generator : 2 * r = g := xor_eq_zero_iff.mp zero
    rw [← generator] at odd
    simp at odd
  · omega

theorem iterate_shift_eq_zero (odd : g.testBit 0 = true) {n r : Nat}
    (zero : (shift g w)^[n] r = 0) : r = 0 := by
  induction n generalizing r with
  | zero => exact zero
  | succ n ih => exact shift_eq_zero g w odd (ih zero)

theorem iterate_shift_inj (odd : g.testBit 0 = true) (n : Nat) {r s : Nat}
    (same : (shift g w)^[n] r = (shift g w)^[n] s) : r = s := by
  have difference : (shift g w)^[n] (r ^^^ s) = 0 := by
    rw [iterate_shift_xor, same, Nat.xor_self]
  exact xor_eq_zero_iff.mp (iterate_shift_eq_zero g w odd difference)

/-- Two strings of one remainder that differ in a burst no longer than the check are equal. -/
theorem eq_of_burst (odd : g.testBit 0 = true) (pos : 0 < w) {a b : List Bool}
    (burst : Burst w a b) (same : divide g w 0 a = divide g w 0 b) : a = b := by
  obtain ⟨before, inner, other, after, rfl, rfl, lengths, short⟩ := burst.split
  rw [divide_append, divide_append, divide_append, divide_append,
    divide_eq g w pos (divide g w (divide g w 0 before) inner) after,
    divide_eq g w pos (divide g w (divide g w 0 before) other) after] at same
  have window := iterate_shift_inj g w odd _ (xor_left_involutive _ |>.injective same)
  rw [divide_eq g w pos _ inner, divide_eq g w pos _ other, lengths] at window
  have values := xor_right_involutive _ |>.injective window
  rw [divide_short g w short, divide_short g w (lengths ▸ short)] at values
  rw [value_inj lengths values]

theorem reduce_lt {g w r : Nat} (monic : g.testBit w = true) (degree : g < 2 ^ (w + 1))
    (small : r < 2 ^ (w + 1)) : reduce g w r < 2 ^ w := by
  rw [reduce]
  apply Nat.lt_pow_two_of_testBit
  intro i le
  split
  · next set =>
      rcases le.eq_or_lt with rfl | lt
      · rw [Nat.testBit_xor, set, monic]; rfl
      · have high : ∀ {n}, n < 2 ^ (w + 1) → n.testBit i = false := fun below =>
          Nat.testBit_lt_two_pow (below.trans_le (Nat.pow_le_pow_right (by omega) lt))
        rw [Nat.testBit_xor, high small, high degree]; rfl
  · next clear =>
      rcases le.eq_or_lt with rfl | lt
      · simpa using clear
      · exact Nat.testBit_lt_two_pow (small.trans_le (Nat.pow_le_pow_right (by omega) lt))

theorem shift_lt {g w r : Nat} (monic : g.testBit w = true) (degree : g < 2 ^ (w + 1))
    (small : r < 2 ^ w) : shift g w r < 2 ^ w :=
  reduce_lt monic degree (by rw [pow_succ]; omega)

theorem iterate_shift_lt {g w r : Nat} (monic : g.testBit w = true) (degree : g < 2 ^ (w + 1))
    (n : Nat) (small : r < 2 ^ w) : (shift g w)^[n] r < 2 ^ w := by
  induction n generalizing r with
  | zero => exact small
  | succ n ih => exact ih (shift_lt monic degree small)

/-! ## Tables -/

theorem high_xor_low (r k : Nat) : r = (r / 2 ^ k) * 2 ^ k ^^^ r % 2 ^ k := by
  apply Nat.eq_of_testBit_eq
  intro i
  rw [Nat.testBit_xor, ← Nat.shiftLeft_eq, Nat.testBit_shiftLeft, Nat.testBit_mod_two_pow,
    Nat.testBit_div_two_pow]
  by_cases high : k ≤ i
  · have index : i - k + k = i := by omega
    simp [high, index, Nat.not_lt.mpr high]
  · simp [high, Nat.not_le.mp high]

theorem mul_two_pow_xor (a b k : Nat) : (a ^^^ b) * 2 ^ k = a * 2 ^ k ^^^ b * 2 ^ k := by
  rw [← Nat.shiftLeft_eq, ← Nat.shiftLeft_eq, ← Nat.shiftLeft_eq, Nat.shiftLeft_xor_distrib]

/-- A byte is looked up with the high byte of the register. -/
theorem iterate_shift_byte {g w k : Nat} (high : k + 8 = w) (r b : Nat) :
    (shift g w)^[8] (r ^^^ b * 2 ^ k) =
      (shift g w)^[8] ((r / 2 ^ k ^^^ b) * 2 ^ k) ^^^ r % 2 ^ k * 2 ^ 8 := by
  have low : r % 2 ^ k * 2 ^ 8 < 2 ^ w := by
    rw [← high, pow_add]
    exact Nat.mul_lt_mul_of_pos_right (Nat.mod_lt _ (Nat.two_pow_pos k)) (Nat.two_pow_pos 8)
  have parts : r ^^^ b * 2 ^ k = (r / 2 ^ k ^^^ b) * 2 ^ k ^^^ r % 2 ^ k := by
    conv_lhs => rw [high_xor_low r k]
    rw [mul_two_pow_xor, Nat.xor_assoc, Nat.xor_comm (r % 2 ^ k), ← Nat.xor_assoc]
  rw [parts, iterate_shift_xor, iterate_shift_of_lt g w low]

end Crc
