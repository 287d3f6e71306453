import GnssParser.Lib.Burst
import GnssParser.Proof.Bounds

/-!
# Errors the checksum detects

Two messages of one length that differ in two adjacent bytes at most are not both accepted.
-/

namespace GnssParser
open Checked

theorem checksumStep_inj {sums other : UInt8 × UInt8} {b : UInt8}
    (same : checksumStep sums b = checksumStep other b) : sums = other := by
  obtain ⟨first, second⟩ := Prod.mk.inj same
  have cka : sums.1 = other.1 := UInt8.add_left_inj b |>.mp first
  rw [cka] at second
  exact Prod.ext cka (UInt8.add_left_inj _ |>.mp second)

theorem foldl_checksumStep_inj {sums other : UInt8 × UInt8} (bytes : List UInt8)
    (same : bytes.foldl checksumStep sums = bytes.foldl checksumStep other) : sums = other := by
  induction bytes generalizing sums other with
  | nil => exact same
  | cons b bytes ih => exact checksumStep_inj (ih same)

/-- The second sum holds the first of two bytes once more. -/
theorem checksum_pair_inj {sums : UInt8 × UInt8} {inner other : List UInt8}
    (lengths : inner.length = other.length) (short : inner.length ≤ 2)
    (same : inner.foldl checksumStep sums = other.foldl checksumStep sums) : inner = other := by
  match inner, other, lengths with
  | [], [], _ => rfl
  | [x], [y], _ =>
      have first : x = y := UInt8.add_right_inj sums.1 |>.mp (Prod.mk.inj same).1
      rw [first]
  | [x, x'], [y, y'], _ =>
      obtain ⟨cka, ckb⟩ := Prod.mk.inj same
      simp only [checksumStep] at cka ckb
      rw [cka] at ckb
      have first : x = y := by
        have sum := UInt8.add_left_inj _ |>.mp ckb
        exact UInt8.add_right_inj _ |>.mp (UInt8.add_right_inj _ |>.mp sum)
      rw [first] at cka
      rw [first, UInt8.add_right_inj _ |>.mp cka]
  | _ :: _ :: _ :: _, _, _ => simp at short

theorem checksum_burst_inj {a b : List UInt8} (burst : Burst 2 a b)
    (same : checksum a = checksum b) : a = b := by
  obtain ⟨before, inner, other, after, rfl, rfl, lengths, short⟩ := burst.split
  simp only [checksum, List.foldl_append] at same
  rw [checksum_pair_inj lengths short (foldl_checksumStep_inj after same)]

/-- The second sum alone tells the last byte. -/
theorem checksum_last_inj {bytes : List UInt8} {x y : UInt8}
    (same : (checksum (bytes ++ [x])).2 = (checksum (bytes ++ [y])).2) : x = y := by
  simp only [checksum, List.foldl_append, List.foldl_cons, List.foldl_nil, checksumStep] at same
  exact UInt8.add_right_inj _ |>.mp (UInt8.add_right_inj _ |>.mp same)

def checksumBytes (bytes : List UInt8) : List UInt8 := [(checksum bytes).1, (checksum bytes).2]

/-- Where the two places reach into the checksum, one of its bytes or all summed ones remain. -/
theorem summed_burst_inj {a b : List UInt8}
    (burst : Burst 2 (a ++ checksumBytes a) (b ++ checksumBytes b)) : a = b := by
  have lengths : a.length = b.length := by
    have := burst.1
    simp only [List.length_append, checksumBytes, List.length_cons, List.length_nil] at this
    omega
  obtain ⟨start, window⟩ := burst.2
  by_cases inside : start + 2 ≤ a.length
  · have sums := Burst.drop_eq window inside
    have summed := burst.take a.length
    rw [List.drop_left, List.drop_left' lengths.symm] at sums
    rw [List.take_left, List.take_left' lengths.symm] at summed
    have first := List.cons.inj sums
    exact checksum_burst_inj summed (Prod.ext first.1 (List.cons.inj first.2).1)
  by_cases past : a.length ≤ start
  · have summed := Burst.take_eq window past
    rwa [List.take_left, List.take_left' lengths.symm] at summed
  cases a using List.reverseRecOn with
  | nil => exact absurd (Nat.zero_le start) past
  | append_singleton front x =>
      cases b using List.reverseRecOn with
      | nil => simp at lengths
      | append_singleton front' y =>
          simp only [List.length_append, List.length_singleton] at lengths inside past
          have before := Burst.take_eq window (k := front.length) (by omega)
          have after := Burst.drop_eq window (k := front.length + 2) (by omega)
          rw [List.append_assoc, List.append_assoc, List.take_left,
            List.take_left' (by omega)] at before
          subst before
          have second : (checksum (front ++ [x])).2 = (checksum (front ++ [y])).2 := by
            simpa [checksumBytes] using after
          rw [checksum_last_inj second]

theorem accepted_eq {msg : List UInt8} (accepted : verifyMsg msg = .ok true) :
    msg = [ubxSync1, ubxSync2] ++ (summedBytes msg ++ checksumBytes (summedBytes msg)) := by
  obtain ⟨long, preamble, -, sums⟩ := (verifyMsg_iff msg).mp accepted
  obtain ⟨sync1, sync2⟩ : msg.getD 0 0 = ubxSync1 ∧ msg.getD 1 0 = ubxSync2 := preamble
  obtain ⟨first, second, last⟩ : ∃ c0 c1, msg.drop (msg.length - 2) = [c0, c1] :=
    List.length_eq_two.mp (by rw [List.length_drop]; omega)
  have read : ∀ k, msg.getD (msg.length - 2 + k) 0 = [first, second].getD k 0 := fun k => by
    rw [← last, List.getD_eq_getElem?_getD, List.getD_eq_getElem?_getD, List.getElem?_drop]
  have sync : msg.take 2 = [ubxSync1, ubxSync2] := by
    rw [← sync1, ← sync2]
    match msg, long with
    | _ :: _ :: _, _ => rfl
  have summed : (msg.drop 2).take (msg.length - 2 - 2) ++ msg.drop (msg.length - 2) = msg.drop 2 := by
    conv_rhs => rw [← List.take_append_drop (msg.length - 2 - 2) (msg.drop 2), List.drop_drop]
    rw [show 2 + (msg.length - 2 - 2) = msg.length - 2 by omega]
  rw [checksumBytes, sums, show msg.length - 1 = msg.length - 2 + 1 by omega, read 1,
    show msg.getD (msg.length - 2) 0 = [first, second].getD 0 0 from read 0, summedBytes]
  conv_lhs => rw [← List.take_append_drop 2 msg, sync, ← summed, last]
  rfl

/-- No two messages of one length that differ in two adjacent bytes at most are both accepted. -/
theorem adjacent_errors_detected {msg msg' : List UInt8} (accepted : verifyMsg msg = .ok true)
    (differ : msg' ≠ msg) (burst : Burst 2 msg' msg) : verifyMsg msg' = .ok false := by
  obtain ⟨verified, ran⟩ := verifyMsg_ok msg'
  cases verified with
  | false => exact ran
  | true =>
      rw [accepted_eq ran, accepted_eq accepted] at burst
      have summed := summed_burst_inj (burst.drop 2)
      exact absurd (by rw [accepted_eq ran, summed, ← accepted_eq accepted]) differ

theorem adjacent_errors_detected_length :
    verifyMsg [0xB5, 0x62, 0, 0, 1, 0, 0, 0] = .ok false := by
  refine adjacent_errors_detected (show verifyMsg [0xB5, 0x62, 0, 0, 0, 0, 0, 0] = .ok true by decide)
    (by decide) ⟨rfl, 4, fun i differ => ?_⟩
  match i with
  | 0 | 1 | 2 | 3 => exact absurd rfl differ
  | 4 | 5 => decide
  | 6 | 7 | _ + 8 => exact absurd rfl differ

end GnssParser
