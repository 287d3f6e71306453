import Mathlib.Tactic

/-!
# Base64

The standard alphabet with padding: three bytes are four symbols of six bits, and a shorter last
group is filled with zero bits and padding. The decoder accepts zero fill bits only.
-/

namespace Base64

def symbol (v : Nat) : UInt8 :=
  if v < 26 then 0x41 + UInt8.ofNat v
  else if v < 52 then 0x61 + UInt8.ofNat (v - 26)
  else if v < 62 then 0x30 + UInt8.ofNat (v - 52)
  else if v = 62 then 0x2B else 0x2F

def symbolValue (c : UInt8) : Option Nat :=
  if 0x41 ≤ c ∧ c ≤ 0x5A then some (c - 0x41).toNat
  else if 0x61 ≤ c ∧ c ≤ 0x7A then some ((c - 0x61).toNat + 26)
  else if 0x30 ≤ c ∧ c ≤ 0x39 then some ((c - 0x30).toNat + 52)
  else if c = 0x2B then some 62
  else if c = 0x2F then some 63
  else none

def padding : UInt8 := 0x3D

theorem symbolValue_symbol : ∀ v < 64, symbolValue (symbol v) = some v := by decide

theorem symbolValue_padding : symbolValue padding = none := by decide

theorem symbol_ne_padding {v : Nat} (small : v < 64) : symbol v ≠ padding := fun same => by
  have value := symbolValue_symbol v small
  rw [same, symbolValue_padding] at value
  cases value

def encode : List UInt8 → List UInt8
  | [] => []
  | [a] => [symbol (a.toNat / 4), symbol (a.toNat % 4 * 16), padding, padding]
  | [a, b] =>
      [symbol (a.toNat / 4), symbol (a.toNat % 4 * 16 + b.toNat / 16), symbol (b.toNat % 16 * 4),
        padding]
  | a :: b :: c :: rest =>
      symbol (a.toNat / 4) :: symbol (a.toNat % 4 * 16 + b.toNat / 16) ::
        symbol (b.toNat % 16 * 4 + c.toNat / 64) :: symbol (c.toNat % 64) :: encode rest

/-- The byte that the sextets `i` and `j` have in common, `left` bits of it in the first. -/
def joined (left i j : Nat) : UInt8 := UInt8.ofNat (i * 2 ^ (8 - left) + j / 2 ^ (left - 2))

def decode : List UInt8 → Option (List UInt8)
  | [] => some []
  | [w, x, y, z] => do
      let i ← symbolValue w
      let j ← symbolValue x
      if y = padding then
        if z = padding ∧ j % 16 = 0 then some [joined 6 i j] else none
      else do
        let k ← symbolValue y
        if z = padding then
          if k % 4 = 0 then some [joined 6 i j, joined 4 j k] else none
        else do
          let l ← symbolValue z
          some [joined 6 i j, joined 4 j k, joined 2 k l]
  | w :: x :: y :: z :: rest => do
      let i ← symbolValue w
      let j ← symbolValue x
      let k ← symbolValue y
      let l ← symbolValue z
      let bytes ← decode rest
      some (joined 6 i j :: joined 4 j k :: joined 2 k l :: bytes)
  | _ => none

theorem joined_eq {left i j : Nat} {b : UInt8}
    (same : (i * 2 ^ (8 - left) + j / 2 ^ (left - 2)) % 256 = b.toNat) : joined left i j = b := by
  rw [joined, ← UInt8.toNat_inj, UInt8.toNat_ofNat', ← same]

section
variable (a b c : UInt8)

theorem joined_first : joined 6 (a.toNat / 4) (a.toNat % 4 * 16 + b.toNat / 16) = a := by
  have := a.toNat_lt
  have := b.toNat_lt
  exact joined_eq (by omega)

theorem joined_second (d : Nat) (small : d < 4) :
    joined 4 (a.toNat % 4 * 16 + b.toNat / 16) (b.toNat % 16 * 4 + d) = b := by
  have := b.toNat_lt
  exact joined_eq (by omega)

theorem joined_third : joined 2 (b.toNat % 16 * 4 + c.toNat / 64) (c.toNat % 64) = c := by
  have := c.toNat_lt
  exact joined_eq (by omega)

end

theorem decode_group {i j k l : Nat} (hi : i < 64) (hj : j < 64) (hk : k < 64) (hl : l < 64)
    (tail : List UInt8) :
    decode (symbol i :: symbol j :: symbol k :: symbol l :: tail) =
      (decode tail).map fun bytes => joined 6 i j :: joined 4 j k :: joined 2 k l :: bytes := by
  cases tail with
  | nil =>
      simp [decode, symbolValue_symbol i hi, symbolValue_symbol j hj, symbolValue_symbol k hk,
        symbolValue_symbol l hl, symbol_ne_padding hk, symbol_ne_padding hl]
  | cons c tail =>
      rw [decode, symbolValue_symbol i hi, symbolValue_symbol j hj, symbolValue_symbol k hk,
        symbolValue_symbol l hl]
      · cases decode (c :: tail) <;> rfl
      · simp

theorem decode_encode (bytes : List UInt8) : decode (encode bytes) = some bytes := by
  induction bytes using encode.induct with
  | case1 => rfl
  | case2 a =>
      have := a.toNat_lt
      have first : joined 6 (a.toNat / 4) (a.toNat % 4 * 16) = a := joined_eq (by omega)
      have clear : a.toNat % 4 * 16 % 16 = 0 := by omega
      simp [encode, decode, symbolValue_symbol (a.toNat / 4) (by omega),
        symbolValue_symbol (a.toNat % 4 * 16) (by omega), first, clear]
  | case3 a b =>
      have := a.toNat_lt
      have := b.toNat_lt
      have second : joined 4 (a.toNat % 4 * 16 + b.toNat / 16) (b.toNat % 16 * 4) = b :=
        joined_second a b 0 (by decide)
      have clear : b.toNat % 16 * 4 % 4 = 0 := by omega
      simp [encode, decode, symbolValue_symbol (a.toNat / 4) (by omega),
        symbolValue_symbol (a.toNat % 4 * 16 + b.toNat / 16) (by omega),
        symbolValue_symbol (b.toNat % 16 * 4) (by omega),
        symbol_ne_padding (v := b.toNat % 16 * 4) (by omega), joined_first, second, clear]
  | case4 a b c rest ih =>
      have := a.toNat_lt
      have := b.toNat_lt
      have := c.toNat_lt
      rw [encode, decode_group (by omega) (by omega) (by omega) (by omega), ih, Option.map_some,
        joined_first, joined_second a b _ (by omega), joined_third]

theorem encode_injective : Function.Injective encode := fun a b same => by
  have decoded := congrArg decode same
  rwa [decode_encode, decode_encode, Option.some.injEq] at decoded

theorem encode_length (bytes : List UInt8) :
    (encode bytes).length = 4 * ((bytes.length + 2) / 3) := by
  induction bytes using encode.induct with
  | case1 => rfl
  | case2 => simp [encode]
  | case3 => simp [encode]
  | case4 a b c rest ih =>
      simp only [encode, List.length_cons, ih]
      omega

/-- Padding fills the last group, and symbols of the alphabet are all there is before it. -/
theorem encode_padding (bytes : List UInt8) :
    ∃ body, encode bytes = body ++ List.replicate ((3 - bytes.length % 3) % 3) padding ∧
      ∀ c ∈ body, c ≠ padding := by
  induction bytes using encode.induct with
  | case1 => exact ⟨[], rfl, by simp⟩
  | case2 a =>
      have := a.toNat_lt
      refine ⟨[symbol (a.toNat / 4), symbol (a.toNat % 4 * 16)], rfl, ?_⟩
      simp [symbol_ne_padding (v := a.toNat / 4) (by omega),
        symbol_ne_padding (v := a.toNat % 4 * 16) (by omega)]
  | case3 a b =>
      have := a.toNat_lt
      have := b.toNat_lt
      refine ⟨[symbol (a.toNat / 4), symbol (a.toNat % 4 * 16 + b.toNat / 16),
        symbol (b.toNat % 16 * 4)], rfl, ?_⟩
      simp [symbol_ne_padding (v := a.toNat / 4) (by omega),
        symbol_ne_padding (v := a.toNat % 4 * 16 + b.toNat / 16) (by omega),
        symbol_ne_padding (v := b.toNat % 16 * 4) (by omega)]
  | case4 a b c rest ih =>
      have := a.toNat_lt
      have := b.toNat_lt
      have := c.toNat_lt
      obtain ⟨body, padded, clean⟩ := ih
      refine ⟨symbol (a.toNat / 4) :: symbol (a.toNat % 4 * 16 + b.toNat / 16) ::
        symbol (b.toNat % 16 * 4 + c.toNat / 64) :: symbol (c.toNat % 64) :: body, ?_, ?_⟩
      · have count : (3 - (a :: b :: c :: rest).length % 3) % 3 = (3 - rest.length % 3) % 3 := by
          simp only [List.length_cons]
          omega
        rw [encode, padded, count]
        rfl
      · simp only [List.mem_cons, forall_eq_or_imp]
        exact ⟨symbol_ne_padding (by omega), symbol_ne_padding (by omega),
          symbol_ne_padding (by omega), symbol_ne_padding (by omega), clean⟩

end Base64
