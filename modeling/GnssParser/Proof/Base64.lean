import GnssParser.Lib.Base64
import GnssParser.Model.Ntrip

/-!
# Base64 credentials

The encoder of the NTRIP request is Base64: three bytes from an empty bit count leave an empty bit
count, and what is left in the accumulator from before lies above every bit that is looked at.
-/

namespace GnssParser

theorem alphabetAt_eq (bits : UInt32) : alphabetAt bits = Base64.symbol (bits.toNat % 64) := by
  have table : ∀ v < 64, kAlphabet.getD v 0 = Base64.symbol v := by decide +kernel
  have low : (bits &&& 0x3F).toNat = bits.toNat % 64 := by
    rw [UInt32.toNat_and]
    exact Nat.and_two_pow_sub_one_eq_mod _ 6
  rw [alphabetAt, low]
  exact table _ (Nat.mod_lt _ (by decide))

theorem emitSextets_eight (x : UInt32) : emitSextets x 8 = ([alphabetAt (x >>> 2)], 2) := rfl

theorem emitSextets_ten (x : UInt32) : emitSextets x 10 = ([alphabetAt (x >>> 4)], 4) := rfl

theorem emitSextets_twelve (x : UInt32) :
    emitSextets x 12 = ([alphabetAt (x >>> 6), alphabetAt (x >>> 0)], 0) := rfl

def pushByte (accumulator : UInt32) (ch : UInt8) : UInt32 := (accumulator <<< 8) ||| ch.toUInt32

theorem pushByte_toNat (accumulator : UInt32) (ch : UInt8) :
    (pushByte accumulator ch).toNat = 256 * (accumulator.toNat % 2 ^ 24) + ch.toNat := by
  have small := ch.toNat_lt
  have shifted : accumulator.toNat <<< 8 % 2 ^ 32 = (accumulator.toNat % 2 ^ 24) <<< 8 := by
    rw [Nat.shiftLeft_eq, Nat.shiftLeft_eq]
    omega
  rw [pushByte, UInt32.toNat_or, UInt32.toNat_shiftLeft, UInt8.toNat_toUInt32,
    show (8 : UInt32).toNat % 32 = 8 from rfl, shifted, ← Nat.shiftLeft_add_eq_or_of_lt small,
    Nat.shiftLeft_eq]
  omega

theorem shiftRight_toNat (x : UInt32) {k : UInt32} (small : k.toNat < 32) :
    (x >>> k).toNat = x.toNat / 2 ^ k.toNat := by
  rw [UInt32.toNat_shiftRight, Nat.mod_eq_of_lt small, Nat.shiftRight_eq_div_pow]

section
variable (output : List UInt8) (accumulator : UInt32) (a b c : UInt8)

theorem base64Step_first : base64Step ⟨output, accumulator, 0⟩ a =
    ⟨output ++ [Base64.symbol (a.toNat / 4)], pushByte accumulator a, 2⟩ := by
  have small := a.toNat_lt
  have bits : alphabetAt (pushByte accumulator a >>> 2) = Base64.symbol (a.toNat / 4) := by
    rw [alphabetAt_eq, shiftRight_toNat _ (by decide), pushByte_toNat]
    congr 1
    show (256 * (accumulator.toNat % 2 ^ 24) + a.toNat) / 4 % 64 = a.toNat / 4
    omega
  rw [base64Step]
  dsimp only
  rw [← pushByte, emitSextets_eight, bits]

theorem base64Step_second : base64Step ⟨output, pushByte accumulator a, 2⟩ b =
    ⟨output ++ [Base64.symbol (a.toNat % 4 * 16 + b.toNat / 16)],
      pushByte (pushByte accumulator a) b, 4⟩ := by
  have small := b.toNat_lt
  have bits : alphabetAt (pushByte (pushByte accumulator a) b >>> 4) =
      Base64.symbol (a.toNat % 4 * 16 + b.toNat / 16) := by
    rw [alphabetAt_eq, shiftRight_toNat _ (by decide), pushByte_toNat, pushByte_toNat]
    congr 1
    show (256 * ((256 * (accumulator.toNat % 2 ^ 24) + a.toNat) % 2 ^ 24) + b.toNat) / 16 % 64 = _
    omega
  rw [base64Step]
  dsimp only
  rw [← pushByte, emitSextets_ten, bits]

theorem base64Step_third : base64Step ⟨output, pushByte accumulator b, 4⟩ c =
    ⟨output ++ [Base64.symbol (b.toNat % 16 * 4 + c.toNat / 64), Base64.symbol (c.toNat % 64)],
      pushByte (pushByte accumulator b) c, 0⟩ := by
  have small := c.toNat_lt
  have high : alphabetAt (pushByte (pushByte accumulator b) c >>> 6) =
      Base64.symbol (b.toNat % 16 * 4 + c.toNat / 64) := by
    rw [alphabetAt_eq, shiftRight_toNat _ (by decide), pushByte_toNat, pushByte_toNat]
    congr 1
    show (256 * ((256 * (accumulator.toNat % 2 ^ 24) + b.toNat) % 2 ^ 24) + c.toNat) / 64 % 64 = _
    omega
  have low : alphabetAt (pushByte (pushByte accumulator b) c >>> 0) = Base64.symbol (c.toNat % 64) := by
    rw [alphabetAt_eq, shiftRight_toNat _ (by decide), pushByte_toNat]
    congr 1
    show (256 * ((pushByte accumulator b).toNat % 2 ^ 24) + c.toNat) / 1 % 64 = _
    omega
  rw [base64Step]
  dsimp only
  rw [← pushByte, emitSextets_twelve, high, low]

theorem shiftLeft_mod (x : UInt32) {k : UInt32} (small : k.toNat < 26) :
    (x <<< k).toNat % 64 = x.toNat * 2 ^ k.toNat % 64 := by
  rw [UInt32.toNat_shiftLeft, Nat.mod_eq_of_lt (show k.toNat < 32 by omega), Nat.shiftLeft_eq]
  omega

theorem base64Finish_two (whole : output.length % 4 = 1) :
    base64Finish ⟨output, pushByte accumulator a, 2⟩ =
      output ++ [Base64.symbol (a.toNat % 4 * 16), Base64.padding, Base64.padding] := by
  have bits : alphabetAt (pushByte accumulator a <<< 4) = Base64.symbol (a.toNat % 4 * 16) := by
    rw [alphabetAt_eq, shiftLeft_mod _ (by decide), pushByte_toNat]
    congr 1
    show (256 * (accumulator.toNat % 2 ^ 24) + a.toNat) * 16 % 64 = _
    omega
  have shift : UInt32.ofNat (6 - 2) = 4 := rfl
  have fill : (4 - (output ++ [Base64.symbol (a.toNat % 4 * 16)]).length % 4) % 4 = 2 := by
    rw [List.length_append, List.length_singleton]
    omega
  rw [base64Finish]
  dsimp only
  rw [if_pos (by decide), shift, bits, fill, List.append_assoc]
  rfl

theorem base64Finish_four (whole : output.length % 4 = 2) :
    base64Finish ⟨output, pushByte accumulator b, 4⟩ =
      output ++ [Base64.symbol (b.toNat % 16 * 4), Base64.padding] := by
  have bits : alphabetAt (pushByte accumulator b <<< 2) = Base64.symbol (b.toNat % 16 * 4) := by
    rw [alphabetAt_eq, shiftLeft_mod _ (by decide), pushByte_toNat]
    congr 1
    show (256 * (accumulator.toNat % 2 ^ 24) + b.toNat) * 4 % 64 = _
    omega
  have shift : UInt32.ofNat (6 - 4) = 2 := rfl
  have fill : (4 - (output ++ [Base64.symbol (b.toNat % 16 * 4)]).length % 4) % 4 = 1 := by
    rw [List.length_append, List.length_singleton]
    omega
  rw [base64Finish]
  dsimp only
  rw [if_pos (by decide), shift, bits, fill, List.append_assoc]
  rfl

end

/-- Whatever the accumulator holds, a group of three bytes is encoded by itself. -/
theorem base64Finish_foldl (input output : List UInt8) (accumulator : UInt32)
    (whole : output.length % 4 = 0) :
    base64Finish (input.foldl base64Step ⟨output, accumulator, 0⟩) = output ++ Base64.encode input := by
  induction input using Base64.encode.induct generalizing output accumulator with
  | case1 =>
      rw [List.foldl_nil, base64Finish]
      dsimp only
      rw [if_neg (by decide), whole]
      rfl
  | case2 a =>
      rw [List.foldl_cons, List.foldl_nil, base64Step_first, base64Finish_two _ _ _ (by simp; omega),
        Base64.encode, List.append_assoc]
      rfl
  | case3 a b =>
      rw [List.foldl_cons, List.foldl_cons, List.foldl_nil, base64Step_first, base64Step_second,
        base64Finish_four _ _ _ (by simp; omega), Base64.encode, List.append_assoc, List.append_assoc]
      rfl
  | case4 a b c rest ih =>
      rw [List.foldl_cons, List.foldl_cons, List.foldl_cons, base64Step_first, base64Step_second,
        base64Step_third, ih _ _ (by simp; omega), Base64.encode, List.append_assoc, List.append_assoc,
        List.append_assoc]
      rfl

theorem base64Encode_eq (input : List UInt8) : base64Encode input = Base64.encode input :=
  base64Finish_foldl input [] 0 rfl

/-- The encoder agrees with the standard, pads at the end alone and loses nothing. -/
theorem base64Encode_correct (input : List UInt8) :
    Base64.decode (base64Encode input) = some input ∧
      (base64Encode input).length = 4 * ((input.length + 2) / 3) ∧
      (∃ body count, base64Encode input = body ++ List.replicate count Base64.padding ∧ count ≤ 2 ∧
        ∀ c ∈ body, c ≠ Base64.padding) ∧
      ∀ other, base64Encode other = base64Encode input → other = input := by
  simp only [base64Encode_eq]
  refine ⟨Base64.decode_encode input, Base64.encode_length input, ?_, fun other same =>
    Base64.encode_injective same⟩
  obtain ⟨body, padded, clean⟩ := Base64.encode_padding input
  exact ⟨body, _, padded, by omega, clean⟩

example : buildRequest ⟨ascii "RTCM3", ascii "user", ascii "key"⟩ =
    requestHead ⟨ascii "/RTCM3", [], []⟩ ++ ascii "Authorization: Basic dXNlcjprZXk=" ++ crlf ++ crlf := by
  decide +kernel

end GnssParser
