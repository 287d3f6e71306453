import GnssParser.Lib.Crc
import GnssParser.Model.Rtcm
import GnssParser.Proof.BitField

/-!
# CRC-24Q

The bitwise check of RTCM frames is the remainder modulo the CRC-24Q generator.
-/

namespace GnssParser
open Checked BitView

def crc24qPoly : Nat := 0x1864CFB

def byteBits (b : UInt8) : List Bool := (List.range 8).map (byteBit b)

def crc24qOf (data : List UInt8) : Nat := Crc.remainder crc24qPoly 24 (data.flatMap byteBits)

theorem crc24qPoly_monic : crc24qPoly.testBit 24 = true := by decide

theorem crc24qPoly_degree : crc24qPoly < 2 ^ (24 + 1) := by decide

theorem value_byteBits (b : UInt8) : Crc.value (byteBits b) = b.toNat := by
  have bytes : ∀ n < 256, Crc.value ((List.range 8).map fun k => n.testBit (7 - k)) = n := by
    decide +kernel
  exact bytes b.toNat b.toNat_lt

theorem length_byteBits (b : UInt8) : (byteBits b).length = 8 := by simp [byteBits]

theorem crc24qOf_append_singleton (data : List UInt8) (b : UInt8) :
    crc24qOf (data ++ [b]) =
      (Crc.shift crc24qPoly 24)^[8] (crc24qOf data ^^^ b.toNat * 2 ^ 16) := by
  have last := Crc.remainder_append crc24qPoly 24 (by decide) (data.flatMap byteBits)
    (byteBits b) (by rw [length_byteBits]; decide)
  rw [length_byteBits, value_byteBits] at last
  rw [crc24qOf, List.flatMap_append, List.flatMap_singleton, last, crc24qOf]

/-! ## The bitwise register -/

def crcBit (crc : UInt32) : UInt32 :=
  let crc := crc <<< 1
  if crc &&& 0x1000000 ≠ 0 then crc ^^^ 0x1864CFB else crc

def crcByte (crc : UInt32) (b : UInt8) : UInt32 := crcBit^[8] (crc ^^^ (b.toUInt32 <<< 16))

def rtcmCrc (data : List UInt8) : UInt32 := data.foldl crcByte 0 &&& 0xFFFFFF

theorem crcBit_toNat {crc : UInt32} (small : crc.toNat < 2 ^ 24) :
    (crcBit crc).toNat = Crc.shift crc24qPoly 24 crc.toNat := by
  have doubled : (crc <<< 1).toNat = 2 * crc.toNat := by
    rw [UInt32.toNat_shiftLeft, show (1 : UInt32).toNat % 32 = 1 from rfl, Nat.shiftLeft_eq]
    omega
  have top := and_mask_ne_zero (crc <<< 1) 0x1000000 (k := 24) (by decide)
  rw [doubled] at top
  rw [Crc.shift, Crc.reduce, crcBit]
  by_cases set : (2 * crc.toNat).testBit 24 = true
  · rw [if_pos (top.mpr set), if_pos set, UInt32.toNat_xor, doubled]
    rfl
  · rw [if_neg (mt top.mp set), if_neg set, doubled]

theorem iterate_crcBit_toNat (n : Nat) {crc : UInt32} (small : crc.toNat < 2 ^ 24) :
    (crcBit^[n] crc).toNat = (Crc.shift crc24qPoly 24)^[n] crc.toNat := by
  induction n generalizing crc with
  | zero => rfl
  | succ n ih =>
      have step := crcBit_toNat small
      rw [Function.iterate_succ_apply, ih, step, Function.iterate_succ_apply]
      rw [step]
      exact Crc.shift_lt crc24qPoly_monic crc24qPoly_degree small

theorem foldl_crcByte_toNat (data : List UInt8) :
    (data.foldl crcByte 0).toNat = crc24qOf data ∧ crc24qOf data < 2 ^ 24 := by
  induction data using List.reverseRecOn with
  | nil =>
      rw [crc24qOf, List.flatMap_nil, Crc.remainder_nil]
      exact ⟨rfl, Nat.two_pow_pos 24⟩
  | append_singleton data b ih =>
      obtain ⟨register, small⟩ := ih
      have byte : (b.toUInt32 <<< 16).toNat = b.toNat * 2 ^ 16 := by
        have := b.toNat_lt
        rw [UInt32.toNat_shiftLeft, UInt8.toNat_toUInt32, show (16 : UInt32).toNat % 32 = 16 from rfl,
          Nat.shiftLeft_eq]
        omega
      have entered : crc24qOf data ^^^ b.toNat * 2 ^ 16 < 2 ^ 24 := by
        have := b.toNat_lt
        exact Nat.xor_lt_two_pow small (by omega)
      rw [crc24qOf_append_singleton]
      refine ⟨?_, Crc.iterate_shift_lt crc24qPoly_monic crc24qPoly_degree 8 entered⟩
      rw [List.foldl_append, List.foldl_cons, List.foldl_nil, crcByte, iterate_crcBit_toNat,
        UInt32.toNat_xor, byte, register]
      rw [UInt32.toNat_xor, byte, register]
      exact entered

theorem rtcmCrc_toNat (data : List UInt8) : (rtcmCrc data).toNat = crc24qOf data := by
  obtain ⟨register, small⟩ := foldl_crcByte_toNat data
  rw [rtcmCrc, UInt32.toNat_and, register, show (0xFFFFFF : UInt32).toNat = 2 ^ 24 - 1 from rfl,
    Nat.and_two_pow_sub_one_eq_mod, Nat.mod_eq_of_lt small]

theorem computeRtcmCrc24q_ok {l : List UInt8} {k : Nat} (within : k ≤ l.length) :
    computeRtcmCrc24q (loadAt l) k = .ok (rtcmCrc (l.take k)) := by
  obtain ⟨crc, ran, value⟩ := forRange_invariant
    (fun i (crc : UInt32) => do
      let crc := crc ^^^ ((← loadAt l i).toUInt32 <<< 16)
      forRange (fun _ crc =>
        let crc := crc <<< 1
        pure (if crc &&& 0x1000000 ≠ 0 then crc ^^^ 0x1864CFB else crc)) 0 8 crc)
    (fun i crc => crc = (l.take i).foldl crcByte 0) 0 k 0 (by simp) <| by
      rintro i crc _ upper rfl
      have bound : i < l.length := by omega
      refine ⟨_, by rw [loadAt_ok bound, ok_bind]; exact forRange_pure crcBit 0 8 _, ?_⟩
      rw [List.take_add_one, List.foldl_append, List.getElem?_eq_getElem bound]
      rfl
  rw [Nat.zero_add] at value
  rw [computeRtcmCrc24q, ran, value]
  rfl

/-! ## The table -/

theorem tblCrc24q_eq : ∀ i (h : i < 256),
    tblCrc24q[i].toNat = (Crc.shift crc24qPoly 24)^[8] (i * 2 ^ 16) := by decide +kernel

theorem crc24qOf_lt (data : List UInt8) : crc24qOf data < 2 ^ 24 := (foldl_crcByte_toNat data).2

def crc24qIndex (crc : UInt32) (b : UInt8) : Nat := ((crc >>> 16) ^^^ b.toUInt32).toNat

theorem crc24qIndex_eq (crc : UInt32) (b : UInt8) :
    crc24qIndex crc b = crc.toNat / 2 ^ 16 ^^^ b.toNat := by
  rw [crc24qIndex, UInt32.toNat_xor, UInt32.toNat_shiftRight, UInt8.toNat_toUInt32,
    show (16 : UInt32).toNat % 32 = 16 from rfl, Nat.shiftRight_eq_div_pow]

theorem crc24qIndex_lt {crc : UInt32} (small : crc.toNat < 2 ^ 24) (b : UInt8) :
    crc24qIndex crc b < 256 := by
  have byte := b.toNat_lt
  rw [crc24qIndex_eq]
  exact Nat.xor_lt_two_pow (n := 8) (by omega) (by omega)

theorem crc24q_ok {data : BytePtr} (bytes : List UInt8)
    (reads : ∀ i (h : i < bytes.length), data i = .ok bytes[i]) :
    ∃ crc, crc24q data bytes.length = .ok crc ∧ crc.toNat = crc24qOf bytes := by
  obtain ⟨crc, ran, value⟩ := forRange_invariant
    (fun i (crc : UInt32) => do
      let b ← data i
      let entry ← readAt tblCrc24q ((crc >>> 16) ^^^ b.toUInt32).toNat
      pure (((crc <<< 8) &&& 0xFFFFFF) ^^^ entry))
    (fun i (crc : UInt32) => crc.toNat = crc24qOf (bytes.take i)) 0 bytes.length 0
    (by rw [List.take_zero, crc24qOf, List.flatMap_nil, Crc.remainder_nil]; rfl) <| by
      intro i crc _ upper value
      have bound : i < bytes.length := by omega
      have small : crc.toNat < 2 ^ 24 := by rw [value]; exact crc24qOf_lt _
      have entry := crc24qIndex_lt small bytes[i]
      have low : ((crc <<< 8) &&& 0xFFFFFF).toNat = crc.toNat % 2 ^ 16 * 2 ^ 8 := by
        rw [UInt32.toNat_and, UInt32.toNat_shiftLeft, show (8 : UInt32).toNat % 32 = 8 from rfl,
          show (0xFFFFFF : UInt32).toNat = 2 ^ 24 - 1 from rfl, Nat.and_two_pow_sub_one_eq_mod,
          Nat.shiftLeft_eq]
        omega
      have shifted : crc24qOf (bytes.take (i + 1)) =
          (Crc.shift crc24qPoly 24)^[8] (crc24qIndex crc bytes[i] * 2 ^ 16) ^^^
            crc.toNat % 2 ^ 16 * 2 ^ 8 := by
        rw [List.take_add_one, List.getElem?_eq_getElem bound, Option.toList_some,
          crc24qOf_append_singleton, ← value, crc24qIndex_eq]
        exact Crc.iterate_shift_byte (show 16 + 8 = 24 by omega) _ _
      refine ⟨((crc <<< 8) &&& (0xFFFFFF : UInt32)) ^^^ tblCrc24q[crc24qIndex crc bytes[i]], ?_, ?_⟩
      · rw [reads i bound, ok_bind, ← crc24qIndex, readAt_ok entry]
        rfl
      · rw [UInt32.toNat_xor, low, tblCrc24q_eq _ entry, shifted, Nat.xor_comm]
  rw [Nat.zero_add, List.take_length] at value
  exact ⟨crc, ran, value⟩

theorem crc24q_take {data : List UInt8} {k : Nat} (within : k ≤ data.length) :
    ∃ crc, crc24q (loadAt data) k = .ok crc ∧ crc.toNat = crc24qOf (data.take k) := by
  have length := List.length_take_of_le within
  have found := crc24q_ok (data.take k) fun i (h : i < (data.take k).length) => by
    rw [List.getElem_take]
    exact loadAt_getElem (by omega)
  rwa [length] at found

/-- The table and the bitwise register compute the same check of every byte string. -/
theorem crc24q_eq_computeRtcmCrc24q (data : List UInt8) :
    ∃ crc, crc24q (loadAt data) data.length = .ok crc ∧
      computeRtcmCrc24q (loadAt data) data.length = .ok crc ∧ crc.toNat < 2 ^ 24 ∧
      ∀ k < data.length, ∃ register, crc24q (loadAt data) k = .ok register ∧
        crc24qIndex register (data.getD k 0) < 256 := by
  obtain ⟨crc, table, value⟩ := crc24q_take (le_refl data.length)
  rw [List.take_length] at value
  have bitwise := computeRtcmCrc24q_ok (le_refl data.length)
  rw [List.take_length] at bitwise
  have same : rtcmCrc data = crc := by
    rw [← UInt32.toNat_inj, rtcmCrc_toNat, value]
  refine ⟨crc, table, by rw [bitwise, same], by rw [value]; exact crc24qOf_lt data, fun k below => ?_⟩
  obtain ⟨register, ran, prefixValue⟩ := crc24q_take below.le
  exact ⟨register, ran, crc24qIndex_lt (by rw [prefixValue]; exact crc24qOf_lt _) _⟩

end GnssParser
