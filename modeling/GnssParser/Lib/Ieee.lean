import Mathlib.Tactic

/-!
# IEEE-754 patterns

The value a bit pattern of a binary floating-point format stands for.
-/

inductive Ieee where
  | finite (value : ℚ)
  | infinite (negative : Bool)
  | nan
  deriving DecidableEq

namespace Ieee

def decode (expBits fracBits bits : Nat) : Ieee :=
  let frac := bits % 2 ^ fracBits
  let exp := bits / 2 ^ fracBits % 2 ^ expBits
  let negative := bits.testBit (expBits + fracBits)
  let bias := 2 ^ (expBits - 1) - 1
  let sign : ℚ := if negative then -1 else 1
  if exp = 2 ^ expBits - 1 then
    if frac = 0 then .infinite negative else .nan
  else if exp = 0 then
    -- subnormal: no implicit leading bit
    .finite (sign * frac / 2 ^ (bias + fracBits - 1))
  else
    .finite (sign * (2 ^ fracBits + frac) * 2 ^ exp / 2 ^ (bias + fracBits))

/-- The value of a number, 0 of the others. -/
def toRat : Ieee → ℚ
  | .finite x => x
  | _ => 0

def ofBits64 (bits : UInt64) : Ieee := decode 11 52 bits.toNat

def ofBits32 (bits : UInt32) : Ieee := decode 8 23 bits.toNat

example : ofBits64 0xBFE0000000000000 = .finite (-1 / 2) := by decide +kernel

end Ieee
