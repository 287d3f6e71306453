import GnssParser.Model.Processor
import GnssParser.Model.ReceiverConfig
import GnssParser.Proof.SerialReader

/-!
# Checksums

The messages that `verifyMsg` accepts, by their bytes.
-/

namespace GnssParser
open Checked

def checksumStep (sums : UInt8 × UInt8) (b : UInt8) : UInt8 × UInt8 :=
  (sums.1 + b, sums.2 + (sums.1 + b))

def checksum (bytes : List UInt8) : UInt8 × UInt8 := bytes.foldl checksumStep (0, 0)

theorem u16Of_toNat (b : Nat → UInt8) : (u16Of b).toNat = (b 0).toNat + 256 * (b 1).toNat := by
  have low := (b 0).toNat_lt
  have high := (b 1).toNat_lt
  rw [u16Of, UInt16.toNat_or, UInt16.toNat_shiftLeft, UInt8.toNat_toUInt16, UInt8.toNat_toUInt16,
    show (8 : UInt16).toNat % 16 = 8 from rfl, Nat.mod_eq_of_lt (by rw [Nat.shiftLeft_eq]; omega),
    Nat.or_comm, ← Nat.shiftLeft_add_eq_or_of_lt low, Nat.shiftLeft_eq]
  omega

theorem loadAt_getD {data : List UInt8} {i : Nat} (h : i < data.length) :
    loadAt data i = .ok (data.getD i 0) := by
  rw [loadAt_ok h, List.getD_eq_getElem?_getD]
  rfl

theorem checksumLoop_ok {data : List UInt8} {lo k : Nat} (within : lo + k ≤ data.length)
    (sums : UInt8 × UInt8) :
    forRange (fun i ((cka, ckb) : UInt8 × UInt8) => do
      let cka := cka + (← loadAt data i)
      pure (cka, ckb + cka)) lo k sums =
      .ok (((data.drop lo).take k).foldl checksumStep sums) := by
  induction k generalizing lo sums with
  | zero => simp [forRange]
  | succ k ih =>
      have below : lo < data.length := by omega
      obtain ⟨cka, ckb⟩ := sums
      rw [forRange, loadAt_getElem below]
      dsimp only
      rw [ok_bind, pure_eq, ok_bind, ih (by omega), List.drop_eq_getElem_cons below,
        List.take_succ_cons, List.foldl_cons]
      rfl

def summedBytes (msg : List UInt8) : List UInt8 := (msg.drop 2).take (msg.length - 2 - 2)

theorem checkChecksum_eq {msg : List UInt8} (long : 4 ≤ msg.length) :
    checkChecksum (msgData msg) msg.length =
      .ok (decide (checksum (summedBytes msg) =
        (msg.getD (msg.length - 2) 0, msg.getD (msg.length - 1) 0))) := by
  rw [checkChecksum, msgData, checksumLoop_ok (by omega), ok_bind, loadAt_getD (by omega),
    loadAt_getD (by omega)]
  simp [checksum, summedBytes, Prod.ext_iff]

theorem verifyMsg_iff (msg : List UInt8) :
    verifyMsg msg = .ok true ↔ 8 ≤ msg.length ∧ Preamble msg ∧ msg.length = ubxSize msg ∧
      checksum (summedBytes msg) = (msg.getD (msg.length - 2) 0, msg.getD (msg.length - 1) 0) := by
  by_cases short : msg.length < 8
  · rw [verifyMsg, if_pos short]
    exact iff_of_false nofun (by omega)
  have load : ∀ k < 8, msgData msg k = .ok (msg.getD k 0) := fun k h => loadAt_getD (by omega)
  have length : u16 ((msgData msg).add 4) = .ok (u16Of fun k => msg.getD (4 + k) 0) :=
    u16_ok fun k h => load (4 + k) (by omega)
  have size : ubxSize msg = (u16Of fun k => msg.getD (4 + k) 0).toNat + ubxMsgHeaderLen + 2 := by
    have shape : ubxSize msg =
        8 + ((msg.getD (4 + 0) 0).toNat + 256 * (msg.getD (4 + 1) 0).toNat) := rfl
    rw [u16Of_toNat, shape, ubxMsgHeaderLen]
    omega
  rw [verifyMsg, if_neg short, load 0 (by decide), ok_bind, load 1 (by decide), ok_bind, length,
    ok_bind, ← size, checkChecksum_eq (by omega)]
  by_cases sync : msg.getD 0 0 ≠ ubxSync1 ∨ msg.getD 1 0 ≠ ubxSync2
  · rw [if_pos sync]
    refine iff_of_false nofun fun accepted => ?_
    have preamble : msg.getD 0 0 = ubxSync1 ∧ msg.getD 1 0 = ubxSync2 := accepted.2.1
    exact sync.elim (absurd preamble.1) (absurd preamble.2)
  rw [if_neg sync]
  have preamble : Preamble msg := (not_or.mp sync).imp not_not.mp not_not.mp
  by_cases other : msg.length ≠ ubxSize msg
  · rw [if_pos other]
    exact iff_of_false nofun fun accepted => other accepted.2.2.1
  rw [if_neg other]
  have same := not_not.mp other
  simp [preamble, ← same]
  omega

/-! ## Messages built from their parts -/

def ubxBody (cls id : UInt8) (payload : List UInt8) : List UInt8 :=
  [cls, id] ++ littleEndian 2 payload.length ++ payload

def ubxMessage (cls id : UInt8) (payload : List UInt8) : List UInt8 :=
  [ubxSync1, ubxSync2] ++ ubxBody cls id payload ++
    [(checksum (ubxBody cls id payload)).1, (checksum (ubxBody cls id payload)).2]

section
variable (cls id : UInt8) (payload : List UInt8)

theorem ubxBody_length : (ubxBody cls id payload).length = payload.length + 4 := by
  simp [ubxBody, littleEndian]

theorem ubxMessage_length : (ubxMessage cls id payload).length = payload.length + 8 := by
  simp [ubxMessage, ubxBody_length]

theorem ubxMessage_size (fits : payload.length < 2 ^ 16) :
    ubxSize (ubxMessage cls id payload) = payload.length + 8 := by
  have shape : ubxSize (ubxMessage cls id payload) = 8 + ((UInt8.ofNat payload.length).toNat +
      256 * (UInt8.ofNat (payload.length / 256)).toNat) := rfl
  rw [shape, UInt8.toNat_ofNat', UInt8.toNat_ofNat']
  omega

theorem verifyMsg_ubxMessage (fits : payload.length < 2 ^ 16) :
    verifyMsg (ubxMessage cls id payload) = .ok true := by
  have length := ubxMessage_length cls id payload
  refine (verifyMsg_iff (ubxMessage cls id payload)).mpr ⟨by omega, ⟨rfl, rfl⟩, ?_, ?_⟩
  · rw [length, ubxMessage_size cls id payload fits]
  · have body : summedBytes (ubxMessage cls id payload) = ubxBody cls id payload := by
      rw [summedBytes, length, ubxMessage, List.append_assoc]
      have front : (ubxBody cls id payload).length = payload.length + 8 - 2 - 2 := by
        rw [ubxBody_length]
        omega
      exact List.take_left' front
    have front : ([ubxSync1, ubxSync2] ++ ubxBody cls id payload).length = payload.length + 6 := by
      simp [ubxBody_length]
    rw [body, length, ubxMessage, List.getD_append_right _ _ _ _ (by omega),
      List.getD_append_right _ _ _ _ (by omega), front,
      show payload.length + 8 - 2 - (payload.length + 6) = 0 by omega,
      show payload.length + 8 - 1 - (payload.length + 6) = 1 by omega]
    rfl

end

end GnssParser
