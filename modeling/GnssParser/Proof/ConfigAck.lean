import GnssParser.Lib.Transition
import GnssParser.Model.ConfigAck
import GnssParser.Proof.Checksum
import GnssParser.Proof.Bounds

/-!
# Configuration acknowledgements

Which acknowledgement decides the result of `configureReceiverAtStartup`.
-/

namespace GnssParser
open Checked

/-! ## Acknowledgements -/

/-- What a frame of class 05 acknowledges: `true` for 05 01 (ACK-ACK), `false` for 05 00 (ACK-NAK). -/
def ackVerdict (data : List UInt8) : Option Bool :=
  if verifyMsg data = .ok true ∧ data.getD 2 0 = 0x05 then
    if data.getD 3 0 = 0x01 then some true
    else if data.getD 3 0 = 0x00 then some false
    else none
  else none

def AckDelivery.verdict (d : AckDelivery) : Option Bool := ackVerdict d.data

/-- The payload names the class and id of UBX-CFG-VALSET. -/
def AckDelivery.IsOwn (d : AckDelivery) : Prop :=
  d.verdict ≠ none ∧ 10 ≤ d.data.length ∧ d.data.getD 6 0 = 0x06 ∧ d.data.getD 7 0 = 0x8A

instance (d : AckDelivery) : Decidable d.IsOwn :=
  inferInstanceAs (Decidable (_ ∧ _ ∧ _ ∧ _))

def firstOwn (delivered : List AckDelivery) : Option AckDelivery :=
  delivered.find? fun d => d.IsOwn ∧ d.written ∧ d.inTime

/-- The verdict of the last acknowledgement of any message. -/
def lastVerdict (delivered : List AckDelivery) : Option Bool :=
  (delivered.filterMap AckDelivery.verdict).getLast?

def Acknowledged (delivered : List AckDelivery) : Prop :=
  ∃ d, firstOwn delivered = some d ∧ d.verdict = some true

/-- The last acknowledgement has the verdict of the first one of the message in time; without the
latter it is not positive. -/
def LastAgrees (delivered : List AckDelivery) : Prop :=
  match firstOwn delivered with
  | some d => lastVerdict delivered = d.verdict
  | none => lastVerdict delivered ≠ some true

/-! ## The flag -/

def flagOf : Option Bool → Int
  | none => 0
  | some true => 1
  | some false => -1

theorem flagOf_eq_one {verdict : Option Bool} : flagOf verdict = 1 ↔ verdict = some true := by
  rcases verdict with _ | _ | _ <;> decide

theorem typeWord_inj (cls id cls' id' : UInt8) :
    (cls.toUInt16 <<< 8) ||| id.toUInt16 = (cls'.toUInt16 <<< 8) ||| id'.toUInt16 ↔
      cls = cls' ∧ id = id' := by
  have word : ∀ c i : UInt8, ((c.toUInt16 <<< 8) ||| i.toUInt16).toNat = i.toNat + 256 * c.toNat := by
    intro c i
    rw [UInt16.or_comm]
    exact u16Of_toNat fun k => if k = 0 then i else c
  have low := UInt8.toNat_lt id
  have low' := UInt8.toNat_lt id'
  rw [← UInt16.toNat_inj, word, word, ← UInt8.toNat_inj, ← UInt8.toNat_inj]
  omega

/-- `check_ack` returns the verdict of the bytes. -/
theorem checkAck_eq (data : List UInt8) : checkAck data = .ok (flagOf (ackVerdict data)) := by
  obtain ⟨verified, checked⟩ := verifyMsg_ok data
  rw [checkAck, checked, ok_bind, ackVerdict, checked]
  cases verified with
  | false => rfl
  | true =>
      have long := verifyMsg_length checked
      have ack : ∀ id : UInt8, (data.getD 2 0).toUInt16 <<< 8 ||| (data.getD 3 0).toUInt16 =
          (0x05 : UInt8).toUInt16 <<< 8 ||| id.toUInt16 ↔
            data.getD 2 0 = 0x05 ∧ data.getD 3 0 = id := fun id => typeWord_inj _ _ _ _
      have positive := ack 0x01
      have negative := ack 0x00
      rw [show (0x05 : UInt8).toUInt16 <<< 8 ||| (0x01 : UInt8).toUInt16 = ubxAckAckId from rfl]
        at positive
      rw [show (0x05 : UInt8).toUInt16 <<< 8 ||| (0x00 : UInt8).toUInt16 = ubxAckNakId from rfl]
        at negative
      rw [msgData, loadAt_getD (by omega), loadAt_getD (by omega)]
      dsimp only [Bool.not_true]
      rw [if_neg (by decide), ok_bind, ok_bind]
      simp only [positive, negative]
      generalize data.getD 2 0 = cls
      generalize data.getD 3 0 = id
      by_cases acks : cls = 0x05
      · subst acks
        by_cases one : id = 0x01
        · subst one
          rfl
        by_cases zero : id = 0x00
        · subst zero
          rfl
        · simp [one, zero, flagOf]
      · simp [acks, flagOf]

theorem lastVerdict_append (delivered : List AckDelivery) (d : AckDelivery) :
    lastVerdict (delivered ++ [d]) = d.verdict.or (lastVerdict delivered) := by
  rw [lastVerdict, List.filterMap_append, List.getLast?_append]
  cases verdict : d.verdict <;> simp [verdict, lastVerdict]

theorem handleConfigAck_eq (delivered : List AckDelivery) (d : AckDelivery) :
    handleConfigAck (flagOf (lastVerdict delivered)) d.data =
      .ok (flagOf (lastVerdict (delivered ++ [d]))) := by
  rw [handleConfigAck, checkAck_eq, ok_bind, lastVerdict_append, ← AckDelivery.verdict]
  rcases d.verdict with _ | _ | _ <;> rfl

/-- The flag is the verdict of the last acknowledgement, and so is the result. -/
structure AckInv (s : ConfigureState) : Prop where
  flag : s.ackFlag = flagOf (lastVerdict s.delivered)
  result : ∀ written result, s.pc = .done written result →
    result = (written && decide (lastVerdict s.delivered = some true))

theorem ackInv_step {s s' : ConfigureState} {a : ConfigureAction} (inv : AckInv s)
    (taken : configureStep a s = some s') : AckInv s' := by
  have unchanged : ∀ pc : ConfigurePc, (∀ written result, pc ≠ .done written result) →
      AckInv { s with pc } := fun pc open' => ⟨inv.flag, fun written result same =>
    absurd same (open' written result)⟩
  cases a with
  | deliver data =>
      have flag : ∀ written inTime, handleConfigAck s.ackFlag data =
          .ok (flagOf (lastVerdict (s.delivered ++ [({ data, written, inTime } : AckDelivery)]))) := by
        intro written inTime
        rw [inv.flag]
        exact handleConfigAck_eq s.delivered { data, written, inTime }
      cases pc : s.pc with
      | done => simp [configureStep, pc] at taken
      | writing =>
          simp only [configureStep, pc, flag false (!s.deadlinePassed)] at taken
          cases taken
          exact ⟨rfl, fun _ _ same => by cases same⟩
      | waiting =>
          simp only [configureStep, pc, flag true (!s.deadlinePassed)] at taken
          cases taken
          exact ⟨rfl, fun _ _ same => by cases same⟩
      | stopping written =>
          simp only [configureStep, pc, flag written (!s.deadlinePassed)] at taken
          cases taken
          cases written
          · exact ⟨rfl, fun _ _ same => by cases same⟩
          · exact ⟨rfl, fun _ _ same => by cases same⟩
  | writeRaw ok =>
      cases pc : s.pc <;> simp only [configureStep, pc] at taken <;> cases taken
      exact unchanged _ (by cases ok <;> simp)
  | testFlag =>
      cases pc : s.pc <;> simp only [configureStep, pc] at taken
      case waiting =>
        split_ifs at taken
        · cases taken
          exact inv
        · cases taken
          exact unchanged _ (by simp)
      all_goals cases taken
  | stopRead =>
      cases pc : s.pc <;> simp only [configureStep, pc] at taken <;> cases taken
      refine ⟨inv.flag, fun written result same => ?_⟩
      cases same
      simp only [inv.flag, flagOf_eq_one]
  | deadline =>
      cases pc : s.pc <;> simp only [configureStep, pc] at taken <;> cases taken
      · exact ⟨inv.flag, fun _ _ same => by cases same⟩
      · exact ⟨inv.flag, fun _ _ same => by cases same⟩
  | rosShutdown =>
      have any : some { s with shutdown := true } = some s' := by
        rw [← taken, configureStep.eq_def]
      cases any
      exact ⟨inv.flag, inv.result⟩

theorem ackInv_init : AckInv .init := ⟨rfl, fun _ _ same => by cases same⟩

theorem ackInv_reached {s : ConfigureState}
    (reached : Transition.Reaches configureStep (fun _ _ => True) .init s) : AckInv s :=
  reached.invariant AckInv ackInv_init fun _ _ _ inv _ taken => ackInv_step inv taken

theorem lastVerdict_ne_none {delivered : List AckDelivery} {d : AckDelivery} (mem : d ∈ delivered)
    (ack : d.verdict ≠ none) : lastVerdict delivered ≠ none := by
  obtain ⟨verdict, known⟩ := Option.ne_none_iff_exists'.mp ack
  have among : verdict ∈ delivered.filterMap AckDelivery.verdict :=
    List.mem_filterMap.mpr ⟨d, mem, known⟩
  rw [lastVerdict, List.getLast?_eq_some_getLast (List.ne_nil_of_mem among)]
  exact Option.some_ne_none _

/-! ## Runs -/

def singleAck (data : List UInt8) : List ConfigureAction :=
  [.writeRaw true, .deliver data, .testFlag, .stopRead]

/-- UBX-ACK-ACK of UBX-CFG-VALSET. -/
def valsetAck : List UInt8 := [0xB5, 0x62, 0x05, 0x01, 0x02, 0x00, 0x06, 0x8A, 0x98, 0xC1]

/-- UBX-ACK-ACK of UBX-CFG-MSG. -/
def otherAck : List UInt8 := [0xB5, 0x62, 0x05, 0x01, 0x02, 0x00, 0x06, 0x01, 0x0F, 0x38]

def afterSingleAck (data : List UInt8) : ConfigureState where
  pc := .done true true
  ackFlag := 1
  deadlinePassed := false
  shutdown := false
  delivered := [{ data, written := true, inTime := true }]

theorem singleAck_reached {data : List UInt8} (acked : checkAck data = .ok 1) :
    Transition.Reaches configureStep (fun _ _ => True) .init (afterSingleAck data) := by
  have ran : Transition.run configureStep (singleAck data) .init = some (afterSingleAck data) := by
    simp [singleAck, Transition.run, configureStep, handleConfigAck, acked, ok_bind,
      ConfigureState.init, afterSingleAck]
  exact Transition.Reaches.refl.run ran

/-! ## The result -/

/-- The result tells whether the message was acknowledged in time exactly if the last
acknowledgement agrees with the first one of the message. -/
theorem config_ack_iff {s : ConfigureState}
    (reached : Transition.Reaches configureStep (fun _ _ => True) .init s) {result : Bool}
    (ended : s.pc = .done true result) :
    (result = true ↔ Acknowledged s.delivered) ↔ LastAgrees s.delivered := by
  have same := (ackInv_reached reached).result true result ended
  rw [Bool.true_and] at same
  rw [same, decide_eq_true_iff, Acknowledged, LastAgrees]
  cases own : firstOwn s.delivered with
  | none => simp
  | some d =>
      have found := List.find?_some own
      have ack : d.verdict ≠ none := (of_decide_eq_true found).1.1
      have last := lastVerdict_ne_none (List.mem_of_find?_eq_some own) ack
      simp only [Option.some.injEq, exists_eq_left']
      -- two acknowledgements, each positive or negative
      generalize lastVerdict s.delivered = latest at last
      generalize d.verdict = own at ack
      rcases latest with _ | _ | _ <;> rcases own with _ | _ | _ <;> simp_all

theorem config_ack_of_valset :
    (true = true ↔ Acknowledged (afterSingleAck valsetAck).delivered) ↔
      LastAgrees (afterSingleAck valsetAck).delivered :=
  config_ack_iff (singleAck_reached (by decide +kernel)) rfl

/-- The acknowledgement of another message is taken for the one of this message. -/
theorem config_ack_other : ¬ ∀ s result,
    Transition.Reaches configureStep (fun _ _ => True) .init s → s.pc = .done true result →
      (result = true ↔ Acknowledged s.delivered) := by
  intro claimed
  obtain ⟨d, own, _⟩ := (claimed (afterSingleAck otherAck) true
    (singleAck_reached (by decide +kernel)) rfl).mp rfl
  have none_own : firstOwn (afterSingleAck otherAck).delivered = none := by decide +kernel
  rw [none_own] at own
  cases own

end GnssParser
