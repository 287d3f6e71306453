import GnssParser.Proof.ConfigEncoding

/-!
# Named records

A named record denotes a key of the table and the number its text spells; the encoder either writes
both or is expected to refuse the record.
-/

namespace GnssParser
open Text Checked

/-! ## What a record denotes -/

def portSuffixes : List (String × UInt32) := [("UART1", 0), ("UART2", 1), ("USB", 2)]

/-- The key a name stands for: an item of the table, or an output message on a port. -/
inductive Denotes : List Char → UInt32 → Prop where
  | plain {item : String} {key : UInt32} {dataType : String}
      (listed : (item, key, dataType) ∈ rcvConfigItem2code) : Denotes item.toList key
  | port {item : String} {key : UInt32} {dataType suffix : String} {offset : UInt32}
      (listed : (item, key, dataType) ∈ rcvConfigItem2code)
      (output : "CFG-MSGOUT-UBX_NAV_".toList.isPrefixOf item.toList = true)
      (known : (suffix, offset) ∈ portSuffixes) :
      Denotes (item.toList ++ '_' :: suffix.toList) (key + offset)

/-- The number a text of decimal digits spells. -/
def decimalNumber (text : List Char) : Option Nat := do
  let digits ← text.mapM (digitValue 10)
  if text = [] then none else some (ofDigits 10 digits)

/-- The key and the value bytes that a named record denotes. -/
inductive Denoted (record : RcvConfigRecord) : RcvConfigRecord → Prop where
  | intro {key : UInt32} {value : Nat} (name : Denotes record.keyName key)
      (number : decimalNumber record.valueText = some value)
      (fits : value < 256 ^ getValueByteCount key) :
      Denoted record (.raw key (littleEndian (getValueByteCount key) value))

theorem lookup_of_mem {α : Type} {table : List (String × α)} {name : String} {item : α}
    (distinct : (table.map Prod.fst).Nodup) (mem : (name, item) ∈ table) :
    table.lookup name = some item := by
  induction table with
  | nil => cases mem
  | cons entry rest ih =>
      rw [List.map_cons, List.nodup_cons] at distinct
      rcases List.mem_cons.mp mem with rfl | mem
      · exact List.lookup_cons_self
      · have other : (name == entry.1) = false := by
          rw [beq_eq_false_iff_ne]
          rintro rfl
          exact distinct.1 (List.mem_map.mpr ⟨_, mem, rfl⟩)
        rw [List.lookup_cons, other]
        exact ih distinct.2 mem

theorem items_distinct : (rcvConfigItem2code.map Prod.fst).Nodup := by decide +kernel

/-- No item of the table is a name with a port, or empty. -/
theorem items_plain : ∀ entry ∈ rcvConfigItem2code, entry.1 ≠ "" ∧
    portSuffixes.all (fun port => !('_' :: port.1.toList).isSuffixOf entry.1.toList) = true := by
  decide +kernel

theorem findItem_port {item suffix : String} {offset : UInt32}
    (known : (suffix, offset) ∈ portSuffixes) :
    findItem (item.toList ++ '_' :: suffix.toList) = none := by
  cases found : findItem (item.toList ++ '_' :: suffix.toList) with
  | none => rfl
  | some other =>
      have plain := (items_plain _ (mem_of_lookup found)).2
      have ends := List.all_eq_true.mp plain _ known
      rw [String.toList_ofList, Bool.not_eq_true', ← Bool.not_eq_true,
        List.isSuffixOf_iff_suffix] at ends
      exact absurd (List.suffix_append _ _) ends

section
variable {item : String} {key : UInt32} {dataType : String}
  (listed : (item, key, dataType) ∈ rcvConfigItem2code)
include listed

theorem findItem_listed : findItem item.toList = some (key, dataType) := by
  rw [findItem, String.ofList_toList]
  exact lookup_of_mem items_distinct listed

theorem recordCode_port {suffix : String} {offset : UInt32}
    (output : "CFG-MSGOUT-UBX_NAV_".toList.isPrefixOf item.toList = true)
    (known : (suffix, offset) ∈ portSuffixes) :
    recordCode (item.toList ++ '_' :: suffix.toList) = some (key + offset, dataType) := by
  have front : "CFG-MSGOUT-UBX_NAV_".toList.isPrefixOf (item.toList ++ '_' :: suffix.toList) = true := by
    rw [List.isPrefixOf_iff_prefix] at output ⊢
    exact output.trans (List.prefix_append _ _)
  have single : ∀ port ∈ portSuffixes, '_' ∉ port.1.toList := by decide
  have port : ((item.toList ++ '_' :: suffix.toList).reverse.takeWhile (· ≠ '_')).reverse =
      suffix.toList := by
    have clear : ∀ c ∈ suffix.toList.reverse, decide (c ≠ '_') = true := by
      intro c mem
      rw [decide_eq_true_eq]
      rintro rfl
      exact single _ known (List.mem_reverse.mp mem)
    rw [List.reverse_append, List.reverse_cons, List.append_assoc, List.takeWhile_append_of_pos clear,
      List.singleton_append, List.takeWhile_cons_of_neg (by decide), List.append_nil,
      List.reverse_reverse]
  have base : (item.toList ++ '_' :: suffix.toList).take
      ((item.toList ++ '_' :: suffix.toList).length - suffix.toList.length - 1) = item.toList :=
    List.take_left' (by rw [List.length_append, List.length_cons]; omega)
  rw [recordCode, findItem_port known]
  dsimp only
  rw [if_pos front, port, base, findItem_listed listed]
  dsimp only
  rcases List.mem_cons.mp known with same | known
  · cases same
    rw [if_pos rfl, UInt32.add_zero]
  rcases List.mem_cons.mp known with same | known
  · cases same
    rw [if_neg (by decide), if_pos rfl]
  · rw [List.mem_singleton] at known
    cases known
    rw [if_neg (by decide), if_neg (by decide), if_pos rfl]

end

theorem Denotes.recordCode {name : List Char} {key : UInt32} (denotes : Denotes name key) :
    name ≠ [] ∧ ∃ dataType, recordCode name = some (key, dataType) := by
  cases denotes with
  | @plain item _ dataType listed =>
      have entry := (items_plain _ listed).1
      refine ⟨mt String.toList_eq_nil_iff.mp entry, dataType, ?_⟩
      rw [GnssParser.recordCode, findItem_listed listed]
  | @port item key dataType suffix offset listed output known =>
      exact ⟨List.append_ne_nil_of_right_ne_nil _ (List.cons_ne_nil _ _), dataType,
        recordCode_port listed output known⟩

theorem Denotes.unique {name : List Char} {key other : UInt32} (first : Denotes name key)
    (second : Denotes name other) : key = other := by
  obtain ⟨-, _, code⟩ := first.recordCode
  obtain ⟨-, _, same⟩ := second.recordCode
  rw [code] at same
  cases same
  rfl

theorem littleEndian_take {n k : Nat} (within : n ≤ k) (value : Nat) :
    (littleEndian k value).take n = littleEndian n value := by
  induction n generalizing k value with
  | zero => rfl
  | succ n ih =>
      obtain ⟨k, rfl⟩ : ∃ j, k = j + 1 := ⟨k - 1, by omega⟩
      rw [littleEndian, littleEndian, List.take_succ_cons, ih (by omega)]

theorem stoull_decimal {text : List Char} {value : Nat} (number : decimalNumber text = some value)
    (small : value < 2 ^ 64) : stoull 10 text = .ok (UInt64.ofNat value) := by
  rw [decimalNumber, Option.bind_eq_bind, Option.bind_eq_some_iff] at number
  obtain ⟨digits, all, number⟩ := number
  split_ifs at number with empty
  cases number
  rw [stoull_digits (by decide) empty all, if_neg (by omega)]

theorem Denoted.rawOf {record raw : RcvConfigRecord} (named : record.useRawKeyValue = false)
    (denoted : Denoted record raw) : rawOf record = some raw := by
  cases denoted with
  | @intro key value name number fits =>
      obtain ⟨nonempty, dataType, supported⟩ := name.recordCode
      have narrow := (recordCode_ok supported).1
      have small : value < 2 ^ 64 := by
        calc value < 256 ^ getValueByteCount key := fits
          _ ≤ 256 ^ 4 := Nat.pow_le_pow_right (by decide) narrow
          _ ≤ 2 ^ 64 := by decide
      rw [rawOf_named named nonempty supported, stoull_decimal number small]
      dsimp only
      rw [UInt64.toNat_ofNat', Nat.mod_eq_of_lt small, littleEndian_take (by omega)]

/-! ## The message -/

/-- The records that a receiver reads from the first `msgLen` bytes of the buffer. -/
def decodeValset (buff : List UInt8) (msgLen : UInt32) : Run (List RcvConfigRecord × Nat) :=
  let area := (buff.take (msgLen.toNat - 2)).drop 10
  walkRecords area area.length area.length 0 []

/-- The call returns; success delivers what the records denote, and a record that denotes nothing
makes the call return -1. -/
structure EncodedFaithfully (records : List RcvConfigRecord) (buff : List UInt8)
    (msgLen : UInt32) : Prop where
  returns : ∃ code buff' msgLen', buildConfigMsg records buff msgLen = .ok (code, buff', msgLen')
  written : ∀ buff' msgLen', buildConfigMsg records buff msgLen = .ok (0, buff', msgLen') →
    ∃ raws, List.Forall₂ Denoted records raws ∧
      decodeValset buff' msgLen' = .ok (raws, areaLength raws)
  refused : (∃ record ∈ records, ∀ raw, ¬ Denoted record raw) →
    ∃ buff' msgLen', buildConfigMsg records buff msgLen = .ok (-1, buff', msgLen')

/-- All records denote something, and the message has room in the buffer. -/
def DenotedInRoom (records : List RcvConfigRecord) : Prop :=
  ∃ raws, List.Forall₂ Denoted records raws ∧ 12 + areaLength raws ≤ kReceiverConfigBufferCapacity

/-- The first record the call does not write has an unsupported name, and those before it fit. -/
def RefusedInTime (records : List RcvConfigRecord) : Prop :=
  (∃ record ∈ (refused records).head?, Unsupported record) ∧
    10 + areaLength (encoded records) ≤ kReceiverConfigBufferCapacity

theorem decodeValset_ok {raws : List RcvConfigRecord} (raw : ∀ record ∈ raws, record.Raw)
    (rest : List UInt8) (fits : 12 + areaLength raws ≤ kReceiverConfigBufferCapacity) :
    decodeValset (ubxMessage 0x06 0x8A (valsetPayload raws) ++ rest)
      (UInt32.ofNat (12 + areaLength raws)) = .ok (raws, areaLength raws) := by
  have area : ((ubxMessage 0x06 0x8A (valsetPayload raws) ++ rest).take
      ((UInt32.ofNat (12 + areaLength raws)).toNat - 2)).drop 10 = areaOf raws := by
    rw [configMsg_total fits, List.drop_take,
      show 12 + areaLength raws - 2 - 10 = areaLength raws by omega]
    exact valset_area raws rest
  have walked := walkRecords_area raw [] [] (areaOf raws).length (length_le_areaOf raws)
  rw [decodeValset, area, ← areaOf_length]
  exact walked

section
variable {records : List RcvConfigRecord} (named : ∀ record ∈ records, record.useRawKeyValue = false)
include named

theorem encoded_named : ∀ raw ∈ encoded records, raw.Raw := by
  intro raw mem
  obtain ⟨record, front, written⟩ := List.mem_filterMap.mp mem
  exact raw_of_rawOf (.inr (named record ((List.takeWhile_prefix _).subset front))) written

theorem encoded_denoted {raws : List RcvConfigRecord} (all : List.Forall₂ Denoted records raws) :
    encoded records = raws ∧ refused records = [] := by
  refine encoded_eq ?_
  induction all with
  | nil => exact .nil
  | cons denoted others ih =>
      exact .cons (denoted.rawOf (named _ List.mem_cons_self))
        (ih fun record mem => named record (List.mem_cons_of_mem _ mem))

variable {buff : List UInt8} (size : buff.length = kReceiverConfigBufferCapacity) {msgLen : UInt32}
include size

theorem refusedInTime_of_refused {buff' : List UInt8} {msgLen' : UInt32}
    (ran : buildConfigMsg records buff msgLen = .ok (-1, buff', msgLen')) : RefusedInTime records := by
  have raw := encoded_named named
  by_cases room : 10 + areaLength (encoded records) ≤ kReceiverConfigBufferCapacity
  · refine ⟨?_, room⟩
    cases ends : refused records with
    | nil =>
        by_cases fits : 12 + areaLength (encoded records) ≤ kReceiverConfigBufferCapacity
        · obtain ⟨rest, other⟩ := buildConfigMsg_encoded raw size msgLen ends fits
          cases ran.symm.trans other
        · obtain ⟨fault, other⟩ :=
            buildConfigMsg_checksum_overflow raw size msgLen ends room (by omega)
          cases ran.symm.trans other
    | cons record rest =>
        rcases buildConfigMsg_refused raw size msgLen room ends with
          ⟨unsupported, -⟩ | ⟨-, e, other⟩
        · exact ⟨record, rfl, unsupported⟩
        · cases ran.symm.trans other
  · obtain ⟨fault, other⟩ := buildConfigMsg_overflow raw size msgLen (by omega)
    cases ran.symm.trans other

theorem refused_of_refusedInTime (msgLen : UInt32) (inTime : RefusedInTime records) :
    ∃ buff', buildConfigMsg records buff msgLen = .ok (-1, buff', msgLen) := by
  obtain ⟨⟨record, head, unsupported⟩, room⟩ := inTime
  cases ends : refused records with
  | nil => simp [ends] at head
  | cons first rest =>
      rw [ends, List.head?_cons, Option.mem_some_iff] at head
      subst head
      rcases buildConfigMsg_refused (encoded_named named) size msgLen room ends with
        ⟨-, ran⟩ | ⟨supported, -⟩
      · exact ran
      · exact absurd unsupported supported

theorem fits_of_returns {raws : List RcvConfigRecord} (all : List.Forall₂ Denoted records raws)
    {result : Int × List UInt8 × UInt32} (ran : buildConfigMsg records buff msgLen = .ok result) :
    12 + areaLength raws ≤ kReceiverConfigBufferCapacity := by
  have raw := encoded_named named
  obtain ⟨rfl, whole⟩ := encoded_denoted named all
  by_contra long
  by_cases room : 10 + areaLength (encoded records) ≤ kReceiverConfigBufferCapacity
  · obtain ⟨fault, other⟩ :=
      buildConfigMsg_checksum_overflow raw size msgLen whole room (by omega)
    cases ran.symm.trans other
  · obtain ⟨fault, other⟩ := buildConfigMsg_overflow raw size msgLen (by omega)
    cases ran.symm.trans other

theorem written_of_denoted {raws : List RcvConfigRecord} (all : List.Forall₂ Denoted records raws)
    (msgLen : UInt32) (fits : 12 + areaLength raws ≤ kReceiverConfigBufferCapacity) :
    ∃ buff' msgLen', buildConfigMsg records buff msgLen = .ok (0, buff', msgLen') ∧
      decodeValset buff' msgLen' = .ok (raws, areaLength raws) := by
  have raw := encoded_named named
  obtain ⟨rfl, whole⟩ := encoded_denoted named all
  obtain ⟨rest, ran⟩ := buildConfigMsg_encoded raw size msgLen whole fits
  exact ⟨_, _, ran, decodeValset_ok raw rest fits⟩

end

/-- Records are encoded faithfully if all of them denote something and have room, or if the first one
that is not written is one the encoder refuses. -/
theorem encodedFaithfully_iff (items : List (List Char × List Char)) {buff : List UInt8}
    (size : buff.length = kReceiverConfigBufferCapacity) (msgLen : UInt32) :
    EncodedFaithfully (items.map fun item => .named item.1 item.2) buff msgLen ↔
      DenotedInRoom (items.map fun item => .named item.1 item.2) ∨
        RefusedInTime (items.map fun item => .named item.1 item.2) := by
  have named : ∀ record ∈ items.map fun item => RcvConfigRecord.named item.1 item.2,
      record.useRawKeyValue = false := by
    intro record mem
    obtain ⟨item, -, rfl⟩ := List.mem_map.mp mem
    rfl
  generalize items.map (fun item => RcvConfigRecord.named item.1 item.2) = records at named ⊢
  constructor
  · intro faithful
    by_cases all : ∀ record ∈ records, ∃ raw, Denoted record raw
    · obtain ⟨raws, denoted⟩ := Checked.exists_forall₂ Denoted records all
      obtain ⟨code, buff', msgLen', ran⟩ := faithful.returns
      exact .inl ⟨raws, denoted, fits_of_returns named size denoted ran⟩
    · push Not at all
      obtain ⟨record, mem, none⟩ := all
      obtain ⟨buff', msgLen', ran⟩ := faithful.refused ⟨record, mem, none⟩
      exact .inr (refusedInTime_of_refused named size ran)
  · rintro (⟨raws, denoted, fits⟩ | inTime)
    · obtain ⟨buff', msgLen', ran, decoded⟩ := written_of_denoted named size denoted msgLen fits
      refine ⟨⟨0, buff', msgLen', ran⟩, fun _ _ other => ?_, ?_⟩
      · cases ran.symm.trans other
        exact ⟨raws, denoted, decoded⟩
      · rintro ⟨record, mem, none⟩
        have each := denoted.imp fun record raw (found : Denoted record raw) =>
          (⟨⟨raw, found⟩, found⟩ : (∃ raw, Denoted record raw) ∧ Denoted record raw)
        obtain ⟨raw, found⟩ := (List.forall₂_and_left _ _ |>.mp each).1 record mem
        exact absurd found (none raw)
    · obtain ⟨buff', ran⟩ := refused_of_refusedInTime named size msgLen inTime
      refine ⟨⟨-1, buff', msgLen, ran⟩, fun _ _ other => ?_, fun _ => ⟨buff', msgLen, ran⟩⟩
      cases ran.symm.trans other

theorem encodedFaithfully_rate :
    EncodedFaithfully [.named "CFG-RATE-MEAS".toList "100".toList] configBuffer 0 := by
  have listed : ("CFG-RATE-MEAS", (0x30210001 : UInt32), "U2") ∈ rcvConfigItem2code := by
    simp [rcvConfigItem2code]
  have denoted : Denoted (.named "CFG-RATE-MEAS".toList "100".toList) (.raw 0x30210001 [100, 0]) :=
    .intro (.plain listed) (show decimalNumber "100".toList = some 100 by decide) (by decide)
  exact (encodedFaithfully_iff [("CFG-RATE-MEAS".toList, "100".toList)] configBuffer_length 0).mpr
    (.inl ⟨_, .cons denoted .nil, by decide⟩)

theorem Denotes.ne_zero {name : List Char} {key : UInt32} (denotes : Denotes name key) : key ≠ 0 := by
  have keys : ∀ entry ∈ rcvConfigItem2code, ∀ port ∈ portSuffixes, entry.2.1 + port.2 ≠ 0 := by
    decide +kernel
  cases denotes with
  | plain listed => exact UInt32.add_zero key ▸ keys _ listed ("UART1", 0) List.mem_cons_self
  | port listed output known => exact keys _ listed _ known

/-- A message of the table on a port that the encoder does not know. -/
def spiOutput : RcvConfigRecord := .named "CFG-MSGOUT-UBX_NAV_PVT_SPI".toList "1".toList

theorem spi_output_without_key :
    rawOf spiOutput = some (.raw 0 [1]) ∧ ¬ EncodedFaithfully [spiOutput] configBuffer 0 := by
  have code : recordCode spiOutput.keyName = some (0, "U1") := by decide +kernel
  have written : rawOf spiOutput = some (.raw 0 [1]) := by decide +kernel
  refine ⟨written, fun faithful => ?_⟩
  have none : ∀ raw, ¬ Denoted spiOutput raw := by
    rintro _ ⟨name, -, -⟩
    obtain ⟨-, dataType, same⟩ := name.recordCode
    cases code.symm.trans same
    exact name.ne_zero rfl
  obtain ⟨buff, msgLen, ran⟩ := faithful.refused ⟨spiOutput, List.mem_singleton_self _, none⟩
  obtain ⟨⟨record, head, -⟩, -⟩ := refusedInTime_of_refused (by simp [spiOutput, RcvConfigRecord.named])
    configBuffer_length ran
  rw [refused, List.dropWhile_cons_of_pos (by simp [written])] at head
  cases head

end GnssParser
