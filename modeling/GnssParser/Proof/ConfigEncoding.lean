import GnssParser.Proof.ConfigGrammar

/-!
# Named records and the configuration buffer

Every record up to the first one the encoder refuses is written as a key and its value bytes,
whether or not the buffer has room for it.
-/

namespace GnssParser
open Text Checked

/-! ## Records as keys and values -/

/-- What is written for a record; none if the call ends at it. -/
def rawOf (record : RcvConfigRecord) : Option RcvConfigRecord :=
  if record.useRawKeyValue then if record.valueBytes.isEmpty then none else some record
  else if record.keyName.isEmpty then none
  else do
    let (code, dataType) ← recordCode record.keyName
    match recordValue dataType record.valueText with
    | .ok value => some (.raw code (value.take (getValueByteCount code)))
    | .error _ => none

def encoded (records : List RcvConfigRecord) : List RcvConfigRecord :=
  (records.takeWhile fun record => (rawOf record).isSome).filterMap rawOf

/-- The records from the first one on at which the call ends. -/
def refused (records : List RcvConfigRecord) : List RcvConfigRecord :=
  records.dropWhile fun record => (rawOf record).isSome

/-! ## The table -/

theorem mem_of_lookup {α : Type} {table : List (String × α)} {name : String} {item : α}
    (found : table.lookup name = some item) : (name, item) ∈ table := by
  induction table with
  | nil => cases found
  | cons entry rest ih =>
      obtain ⟨key, value⟩ := entry
      rw [List.lookup_cons] at found
      cases same : name == key with
      | true =>
          rw [same] at found
          cases found
          rw [beq_iff_eq.mp same]
          exact List.mem_cons_self
      | false =>
          rw [same] at found
          exact List.mem_cons_of_mem _ (ih found)

/-- The widths of the keys of a table entry, and that its type is a number without sign. -/
def entryOk (item : UInt32 × String) : Bool :=
  [0, 1, 2].all (fun offset : UInt32 => getValueByteCount (item.1 + offset) ≤ 4) &&
    ((rcvConfigType2code.lookup item.2).any fun type => type ≤ 12)

theorem entries_ok : ∀ entry ∈ rcvConfigItem2code, entryOk entry.2 = true := by decide +kernel

theorem recordCode_ok {name : List Char} {code : UInt32} {dataType : String}
    (supported : recordCode name = some (code, dataType)) :
    getValueByteCount code ≤ 4 ∧
      ∃ type, rcvConfigType2code.lookup dataType = some type ∧ type ≤ 12 := by
  have entry : ∀ {name code dataType} (offset : UInt32), offset ∈ ([0, 1, 2] : List UInt32) →
      findItem name = some (code, dataType) → getValueByteCount (code + offset) ≤ 4 ∧
        ∃ type, rcvConfigType2code.lookup dataType = some type ∧ type ≤ 12 := by
    intro name code dataType offset mem found
    have ok := entries_ok _ (mem_of_lookup found)
    rw [entryOk, Bool.and_eq_true, List.all_eq_true] at ok
    have width := ok.1 offset mem
    obtain ⟨type, known, small⟩ := Option.any_eq_true _ _ |>.mp ok.2
    exact ⟨by simpa using width, type, known, by simpa using small⟩
  rw [recordCode] at supported
  cases plain : findItem name with
  | some item =>
      rw [plain] at supported
      cases supported
      have found := entry 0 (by decide) plain
      rwa [UInt32.add_zero] at found
  | none =>
      rw [plain] at supported
      dsimp only at supported
      split at supported
      · split at supported
        · cases supported
        · next base type found =>
            split_ifs at supported <;> cases supported
            · have first := entry 0 (by decide) found
              rwa [UInt32.add_zero] at first
            · exact entry 1 (by decide) found
            · exact entry 2 (by decide) found
            · exact ⟨by decide, (entry 0 (by decide) found).2⟩
      · cases supported

/-! ## One record -/

theorem recordValue_eq {dataType : String} {type : Nat}
    (known : rcvConfigType2code.lookup dataType = some type) (small : type ≤ 12)
    (valueText : List Char) :
    recordValue dataType valueText =
      (Run.throwing (stoull 10 valueText)).map fun value => littleEndian 8 value.toNat := by
  rw [recordValue, known]
  dsimp only
  rw [if_pos small]
  cases stoull 10 valueText <;> rfl

section
variable {record raw : RcvConfigRecord} {code : UInt32} {dataType : String}

theorem rawOf_named (named : record.useRawKeyValue = false) (nonempty : record.keyName ≠ [])
    (supported : recordCode record.keyName = some (code, dataType)) :
    rawOf record = match stoull 10 record.valueText with
      | .ok value => some (.raw code ((littleEndian 8 value.toNat).take (getValueByteCount code)))
      | .error _ => none := by
  obtain ⟨-, type, known, small⟩ := recordCode_ok supported
  rw [rawOf, if_neg (by simp [named]), if_neg (by simpa using nonempty), supported]
  simp only [Option.bind_eq_bind, Option.bind_some, recordValue_eq known small]
  cases stoull 10 record.valueText <;> rfl

theorem configRecord_named (named : record.useRawKeyValue = false) (nonempty : record.keyName ≠ [])
    (supported : recordCode record.keyName = some (code, dataType)) (s : ConfigBuffer) :
    configRecord s record = match stoull 10 record.valueText with
      | .ok value => do
          let n := UInt8.ofNat (getValueByteCount code)
          pure (some (← Run.checked (appendRecord s code (littleEndian 8 value.toNat) n)))
      | .error e => .error (.thrown e) := by
  obtain ⟨-, type, known, small⟩ := recordCode_ok supported
  rw [configRecord, if_neg (by simp [named]), if_neg (by simpa using nonempty), supported]
  simp only [recordValue_eq known small]
  cases stoull 10 record.valueText <;> rfl

end

/-- A record without name, or with one that stands for no command. -/
def Unsupported (record : RcvConfigRecord) : Prop :=
  if record.useRawKeyValue then record.valueBytes = []
  else record.keyName = [] ∨ recordCode record.keyName = none

theorem configRecord_unsupported {record : RcvConfigRecord} (none : Unsupported record)
    (s : ConfigBuffer) : configRecord s record = .ok .none := by
  rw [configRecord]
  rw [Unsupported] at none
  split_ifs at none with useRaw
  · rw [if_pos useRaw, none]
    rfl
  · rw [if_neg useRaw]
    split_ifs with empty
    · rfl
    · rw [none.resolve_left (by simpa using empty)]
      rfl

theorem appendRecord_take {value : List UInt8} {n : UInt8} {k : Nat} (enough : n.toNat ≤ k)
    (within : k ≤ value.length) (s : ConfigBuffer) (code : UInt32) :
    appendRecord s code (value.take k) n = appendRecord s code value n := by
  have long : (value.take k).length = k := List.length_take_of_le within
  rw [appendRecord, appendRecord, if_neg (by omega), if_neg (by omega), List.take_take, Nat.min_eq_left enough]

theorem configRecord_raw_take {code : UInt32} (narrow : getValueByteCount code ≤ 4) (s : ConfigBuffer)
    (value : Nat) :
    configRecord s (.raw code ((littleEndian 8 value).take (getValueByteCount code))) = (do
      let n := UInt8.ofNat (getValueByteCount code)
      pure (some (← Run.checked (appendRecord s code (littleEndian 8 value) n)))) := by
  have size := littleEndian_length 8 value
  have wide := (valueByteCount_bounds code).1
  have length : ((littleEndian 8 value).take (getValueByteCount code)).length =
      getValueByteCount code := List.length_take_of_le (by omega)
  have nonempty : ((littleEndian 8 value).take (getValueByteCount code)).isEmpty = false := by
    rw [← Bool.not_eq_true, List.isEmpty_iff_length_eq_zero]
    omega
  have count : (UInt8.ofNat (getValueByteCount code)).toNat ≤ getValueByteCount code := by
    rw [UInt8.toNat_ofNat']
    exact Nat.mod_le _ _
  have byBytes : configRecord s (.raw code ((littleEndian 8 value).take (getValueByteCount code))) =
      if ((littleEndian 8 value).take (getValueByteCount code)).isEmpty then pure none else (do
        let n := UInt8.ofNat ((littleEndian 8 value).take (getValueByteCount code)).length
        pure (some (← Run.checked (appendRecord s code
          ((littleEndian 8 value).take (getValueByteCount code)) n)))) := rfl
  rw [byBytes, nonempty, if_neg (by decide), length]
  dsimp only
  rw [appendRecord_take count (by omega)]

theorem rawOf_cases (record : RcvConfigRecord) :
    Unsupported record ∧ rawOf record = none ∨
    (∃ e, stoull 10 record.valueText = .error e) ∧ rawOf record = none ∧
      (∀ s, ∃ e, configRecord s record = .error (.thrown e)) ∨
    ∃ raw, rawOf record = some raw ∧ ∀ s, configRecord s record = configRecord s raw := by
  cases useRaw : record.useRawKeyValue with
  | true =>
      cases bytes : record.valueBytes with
      | nil => exact .inl ⟨by rw [Unsupported, if_pos useRaw, bytes], by simp [rawOf, useRaw, bytes]⟩
      | cons => exact .inr (.inr ⟨record, by simp [rawOf, useRaw, bytes], fun s => rfl⟩)
  | false =>
      have byName : ¬ record.useRawKeyValue = true := by simp [useRaw]
      by_cases empty : record.keyName = []
      · exact .inl ⟨by rw [Unsupported, if_neg byName]; exact .inl empty, by simp [rawOf, useRaw, empty]⟩
      cases supported : recordCode record.keyName with
      | none =>
          exact .inl ⟨by rw [Unsupported, if_neg byName]; exact .inr supported,
            by simp [rawOf, useRaw, supported]⟩
      | some item =>
          obtain ⟨code, dataType⟩ := item
          have written := rawOf_named useRaw empty supported
          have ran := configRecord_named useRaw empty supported
          cases read : stoull 10 record.valueText with
          | error e =>
              rw [read] at written ran
              exact .inr (.inl ⟨⟨e, rfl⟩, written, fun s => ⟨e, ran s⟩⟩)
          | ok value =>
              rw [read] at written ran
              refine .inr (.inr ⟨_, written, fun s => ?_⟩)
              rw [ran, configRecord_raw_take (recordCode_ok supported).1]

/-! ## All records -/

theorem configRecords_split (records : List RcvConfigRecord) (s : ConfigBuffer) :
    configRecords s records = (do
      match ← configRecords s (encoded records) with
      | none => pure none
      | some s => configRecords s (refused records)) := by
  induction records generalizing s with
  | nil => rfl
  | cons record rest ih =>
      cases written : rawOf record with
      | none =>
          rw [encoded, refused, List.takeWhile_cons_of_neg (by simp [written]),
            List.dropWhile_cons_of_neg (by simp [written])]
          rfl
      | some raw =>
          have same : configRecord s record = configRecord s raw := by
            rcases rawOf_cases record with ⟨-, none⟩ | ⟨-, none, -⟩ | ⟨raw', found, same⟩
            · rw [none] at written; cases written
            · rw [none] at written; cases written
            · rw [found] at written; cases written; exact same s
          have first : encoded (record :: rest) = raw :: encoded rest := by
            rw [encoded, List.takeWhile_cons_of_pos (by simp [written]), List.filterMap_cons_some written]
            rfl
          have others : refused (record :: rest) = refused rest :=
            List.dropWhile_cons_of_pos (by simp [written])
          rw [first, others, configRecords, configRecords, same, bind_assoc]
          congr 1
          funext outcome
          cases outcome with
          | none => rfl
          | some s => exact ih s

/-! ## The buffer -/

theorem copyTo_length {buff out bytes : List UInt8} {p : Nat} (copied : copyTo buff p bytes = .ok out) :
    p + bytes.length ≤ buff.length ∧ out.length = buff.length := by
  rw [copyTo] at copied
  split_ifs at copied with room
  cases copied
  refine ⟨room, ?_⟩
  rw [List.length_append, List.length_append, List.length_take, List.length_drop]
  omega

theorem appendRecord_overflow (s : ConfigBuffer) (key : UInt32) (value : List UInt8) (n : UInt8)
    (short : s.buff.length < s.p + 4 + n.toNat) : ∃ fault, appendRecord s key value n = .error fault := by
  cases ran : appendRecord s key value n with
  | error fault => exact ⟨fault, rfl⟩
  | ok out =>
      rw [appendRecord] at ran
      split_ifs at ran with few
      obtain ⟨keyed, first, ran⟩ := bind_eq_ok.mp ran
      obtain ⟨filled, second, -⟩ := bind_eq_ok.mp ran
      have same := (copyTo_length first).2
      have room := (copyTo_length second).1
      rw [List.length_take] at room
      omega

theorem configRecords_overflow {raws : List RcvConfigRecord} (raw : ∀ record ∈ raws, record.Raw)
    (pre tail : List UInt8) (payloadLen : UInt16) (short : tail.length < (areaOf raws).length) :
    ∃ fault, configRecords ⟨pre ++ tail, pre.length, payloadLen⟩ raws =
      .error (.undefined fault) := by
  induction raws generalizing pre tail payloadLen with
  | nil => simp [areaOf] at short
  | cons record rest ih =>
      have own := raw record List.mem_cons_self
      have split : areaOf (record :: rest) = recordBytes record ++ areaOf rest := rfl
      have size := recordBytes_length own
      rw [split, List.length_append] at short
      by_cases room : (recordBytes record).length ≤ tail.length
      · have first := configRecord_raw own pre (tail.take (recordBytes record).length)
          (tail.drop (recordBytes record).length) payloadLen (List.length_take_of_le room)
        rw [List.take_append_drop] at first
        obtain ⟨fault, others⟩ := ih (fun r mem => raw r (List.mem_cons_of_mem _ mem))
          (pre ++ recordBytes record) (tail.drop (recordBytes record).length)
          (payloadLen + UInt16.ofNat (recordBytes record).length)
          (by rw [List.length_drop]; omega)
        exact ⟨fault, by rw [configRecords, first, Run.ok_bind]; exact others⟩
      · have width := (valueByteCount_bounds record.keyId).2
        have count : (UInt8.ofNat record.valueBytes.length).toNat = getValueByteCount record.keyId := by
          rw [own.width, UInt8.toNat_ofNat', Nat.mod_eq_of_lt (by omega)]
        have useRaw : record.useRawKeyValue = true := by
          rw [own.raw]
          rfl
        obtain ⟨fault, failed⟩ := appendRecord_overflow ⟨pre ++ tail, pre.length, payloadLen⟩
          record.keyId record.valueBytes (UInt8.ofNat record.valueBytes.length)
          (show (pre ++ tail).length < pre.length + 4 + _ by rw [count, List.length_append]; omega)
        refine ⟨fault, ?_⟩
        rw [configRecords, configRecord, if_pos useRaw, raw_isEmpty own, if_neg (by decide)]
        dsimp only
        rw [failed]
        rfl

/-- The checksum stands in the last two bytes of the message. -/
theorem setChecksum_overflow (data : List UInt8) (size : Nat) (some : 1 ≤ size)
    (short : data.length < size) : ∃ fault, setChecksum data size = .error fault := by
  cases ran : setChecksum data size with
  | error fault => exact ⟨fault, rfl⟩
  | ok out =>
      rw [setChecksum] at ran
      obtain ⟨sums, -, ran⟩ := bind_eq_ok.mp ran
      obtain ⟨summed, first, ran⟩ := bind_eq_ok.mp ran
      have same := (copyTo_length first).2
      have room := (copyTo_length ran).1
      simp only [List.length_singleton] at room
      omega

/-! ## The call -/

theorem buildConfigMsg_start {buff : List UInt8} (room : 10 ≤ buff.length) :
    ∃ front, front.length = 10 ∧ ∀ records msgLen, buildConfigMsg records buff msgLen = (do
      match ← configRecords ⟨front ++ buff.drop 10, 10, 4⟩ records with
      | none => pure (-1, front ++ buff.drop 10, msgLen)
      | some s => do
          let buff ← Run.checked (copyTo s.buff 4 (littleEndian 2 s.payloadLen.toNat))
          let msgLen := 6 + s.payloadLen.toUInt32 + 2
          let buff ← Run.checked (setChecksum buff msgLen.toNat)
          pure (0, buff, msgLen)) := by
  obtain ⟨header, rest, rfl, headerSize⟩ := exists_split (show 4 ≤ buff.length by omega)
  rw [List.length_append] at room
  obtain ⟨len, rest, rfl, lenSize⟩ := exists_split (show 2 ≤ rest.length by omega)
  rw [List.length_append] at room
  obtain ⟨layer, rest, rfl, layerSize⟩ := exists_split (show 4 ≤ rest.length by omega)
  have one : copyTo (header ++ (len ++ (layer ++ rest))) 0 ubxCfgValsetHeader =
      .ok (ubxCfgValsetHeader ++ (len ++ (layer ++ rest))) := copyTo_middle [] _ _ _ headerSize
  have two : copyTo (ubxCfgValsetHeader ++ (len ++ (layer ++ rest))) 6 [0, 1, 0, 0] =
      .ok ((ubxCfgValsetHeader ++ len) ++ ([0, 1, 0, 0] ++ rest)) := by
    have copied := copyTo_middle (ubxCfgValsetHeader ++ len) layer [0, 1, 0, 0] rest layerSize
    rw [List.length_append, lenSize] at copied
    rw [← copied, List.append_assoc]
    rfl
  have tail : (header ++ (len ++ (layer ++ rest))).drop 10 = rest := by
    rw [← List.append_assoc, ← List.append_assoc]
    exact List.drop_left' (by rw [List.length_append, List.length_append]; omega)
  refine ⟨ubxCfgValsetHeader ++ len ++ [0, 1, 0, 0], ?_, fun records msgLen => ?_⟩
  · rw [List.length_append, List.length_append, lenSize]
    rfl
  · have entered : buildConfigMsg records (header ++ (len ++ (layer ++ rest))) msgLen =
        buildConfigMsg records (header ++ (len ++ (layer ++ rest))) msgLen := rfl
    conv_rhs at entered =>
      rw [buildConfigMsg, one, Run.checked_ok, Run.ok_bind, two, Run.checked_ok, Run.ok_bind]
    rw [tail, List.append_assoc (ubxCfgValsetHeader ++ len)]
    exact entered

section
variable {records : List RcvConfigRecord} {buff : List UInt8} {msgLen : UInt32}
  (raw : ∀ raw ∈ encoded records, raw.Raw) (size : buff.length = kReceiverConfigBufferCapacity)
include raw size

theorem buildConfigMsg_overflow (msgLen : UInt32)
    (long : kReceiverConfigBufferCapacity < 10 + areaLength (encoded records)) :
    ∃ fault, buildConfigMsg records buff msgLen = .error (.undefined fault) := by
  obtain ⟨front, ten, start⟩ :=
    buildConfigMsg_start (show 10 ≤ buff.length by rw [size]; decide)
  obtain ⟨fault, failed⟩ := configRecords_overflow raw front (buff.drop 10) 4 (by
    rw [List.length_drop, areaOf_length, size]
    have ten : 10 ≤ kReceiverConfigBufferCapacity := by decide
    omega)
  rw [ten] at failed
  exact ⟨fault, by rw [start, configRecords_split, failed]; rfl⟩

theorem buildConfigMsg_refused (msgLen : UInt32) {record : RcvConfigRecord}
    {rest : List RcvConfigRecord}
    (fits : 10 + areaLength (encoded records) ≤ kReceiverConfigBufferCapacity)
    (ends : refused records = record :: rest) :
    (Unsupported record ∧ ∃ buff', buildConfigMsg records buff msgLen = .ok (-1, buff', msgLen)) ∨
      (¬ Unsupported record ∧ ∃ e, buildConfigMsg records buff msgLen = .error (.thrown e)) := by
  obtain ⟨front, ten, start⟩ :=
    buildConfigMsg_start (show 10 ≤ buff.length by rw [size]; decide)
  rw [← areaOf_length] at fits
  have written := configRecords_raw raw front ((buff.drop 10).take (areaOf (encoded records)).length)
    ((buff.drop 10).drop (areaOf (encoded records)).length) 4
    (List.length_take_of_le (by rw [List.length_drop]; omega))
  rw [List.take_append_drop, ten] at written
  have stopped : (rawOf record).isSome = false := by
    have head := List.head?_dropWhile_not (fun record => (rawOf record).isSome) records
    rw [← refused, ends] at head
    simpa using head
  rcases rawOf_cases record with ⟨none, -⟩ | ⟨-, -, throws⟩ | ⟨raw', found, -⟩
  · refine .inl ⟨none, front ++ buff.drop 10, ?_⟩
    rw [start, configRecords_split, written, Run.ok_bind]
    dsimp only
    rw [ends, configRecords, configRecord_unsupported none]
    rfl
  · refine .inr ⟨fun unsupported => ?_, ?_⟩
    · obtain ⟨e, thrown⟩ := throws ⟨[], 0, 0⟩
      rw [configRecord_unsupported unsupported] at thrown
      cases thrown
    · obtain ⟨e, thrown⟩ := throws ⟨front ++ (areaOf (encoded records) ++
        (buff.drop 10).drop (areaOf (encoded records)).length),
        (front ++ areaOf (encoded records)).length,
        4 + UInt16.ofNat (areaOf (encoded records)).length⟩
      refine ⟨e, ?_⟩
      rw [start, configRecords_split, written, Run.ok_bind]
      dsimp only
      rw [ends, configRecords, thrown]
      rfl
  · rw [found] at stopped
    cases stopped

theorem buildConfigMsg_encoded (msgLen : UInt32) (whole : refused records = [])
    (fits : 12 + areaLength (encoded records) ≤ kReceiverConfigBufferCapacity) :
    ∃ rest, buildConfigMsg records buff msgLen =
      .ok (0, ubxMessage 0x06 0x8A (valsetPayload (encoded records)) ++ rest,
        UInt32.ofNat (12 + areaLength (encoded records))) := by
  obtain ⟨front, ten, start⟩ :=
    buildConfigMsg_start (show 10 ≤ buff.length by rw [size]; decide)
  have same : buildConfigMsg records buff msgLen = buildConfigMsg (encoded records) buff msgLen := by
    rw [start, start, configRecords_split, whole, bind_assoc]
    congr 1
    funext outcome
    cases outcome <;> rfl
  rw [same]
  exact buildConfigMsg_fits raw msgLen size fits

theorem buildConfigMsg_checksum_overflow (msgLen : UInt32) (whole : refused records = [])
    (fits : 10 + areaLength (encoded records) ≤ kReceiverConfigBufferCapacity)
    (long : kReceiverConfigBufferCapacity < 12 + areaLength (encoded records)) :
    ∃ fault, buildConfigMsg records buff msgLen = .error (.undefined fault) := by
  obtain ⟨front, ten, start⟩ :=
    buildConfigMsg_start (show 10 ≤ buff.length by rw [size]; decide)
  have capacity : kReceiverConfigBufferCapacity = 8192 := rfl
  rw [← areaOf_length] at fits long
  set area := areaOf (encoded records) with area_eq
  have written := configRecords_raw raw front ((buff.drop 10).take area.length)
    ((buff.drop 10).drop area.length) 4 (List.length_take_of_le (by rw [List.length_drop]; omega))
  rw [List.take_append_drop, ten, ← area_eq] at written
  have payloadLen : (4 + UInt16.ofNat area.length).toNat = 4 + area.length := by
    rw [UInt16.toNat_add, UInt16.toNat_ofNat', show (4 : UInt16).toNat = 4 from rfl]
    omega
  have total : (6 + (4 + UInt16.ofNat area.length).toUInt32 + 2).toNat = 12 + area.length := by
    rw [UInt32.toNat_add, UInt32.toNat_add, UInt16.toNat_toUInt32, payloadLen,
      show (6 : UInt32).toNat = 6 from rfl, show (2 : UInt32).toNat = 2 from rfl]
    omega
  have filled : (front ++ (area ++ (buff.drop 10).drop area.length)).length =
      kReceiverConfigBufferCapacity := by
    rw [List.length_append, List.length_append, List.length_drop, List.length_drop]
    omega
  obtain ⟨fault, failed⟩ : ∃ fault, (do
      let buff ← Run.checked (copyTo (front ++ (area ++ (buff.drop 10).drop area.length)) 4
        (littleEndian 2 (4 + UInt16.ofNat area.length).toNat))
      let msgLen := 6 + (4 + UInt16.ofNat area.length).toUInt32 + 2
      let buff ← Run.checked (setChecksum buff msgLen.toNat)
      pure ((0 : Int), buff, msgLen)) = .error (.undefined fault) := by
    cases copied : copyTo (front ++ (area ++ (buff.drop 10).drop area.length)) 4
        (littleEndian 2 (4 + UInt16.ofNat area.length).toNat) with
    | error fault => exact ⟨fault, rfl⟩
    | ok out =>
        obtain ⟨fault, failed⟩ := setChecksum_overflow out
          (6 + (4 + UInt16.ofNat area.length).toUInt32 + 2).toNat (by omega)
          (by rw [(copyTo_length copied).2, filled]; omega)
        refine ⟨fault, ?_⟩
        rw [Run.checked_ok, Run.ok_bind]
        dsimp only
        rw [failed]
        rfl
  refine ⟨fault, ?_⟩
  rw [start, configRecords_split, written, Run.ok_bind]
  dsimp only
  rw [whole, configRecords]
  exact failed

end

/-! ## Accepted configurations -/

/-- The records of a YAML map or of a configuration file. -/
inductive AcceptedConfig : List RcvConfigRecord → Prop where
  | yaml (items : List (List Char × List Char)) :
      AcceptedConfig (items.map fun item => .named item.1 item.2)
  | ucenter {file : List Char} {records : List RcvConfigRecord}
      (parsed : parseUCenterConfig file = .ok records) : AcceptedConfig records

theorem raw_of_rawOf {record raw : RcvConfigRecord}
    (form : record.Raw ∨ record.useRawKeyValue = false) (written : rawOf record = some raw) :
    raw.Raw := by
  rcases form with form | named
  · have useRaw : record.useRawKeyValue = true := by
      rw [form.raw]
      rfl
    rw [rawOf, if_pos useRaw, raw_isEmpty form, if_neg (by decide)] at written
    cases written
    exact form
  · have nonempty : record.keyName ≠ [] := by
      rintro empty
      simp [rawOf, named, empty] at written
    cases supported : recordCode record.keyName with
    | none => simp [rawOf, named, supported] at written
    | some item =>
        obtain ⟨code, dataType⟩ := item
        have narrow := (recordCode_ok supported).1
        rw [rawOf_named named nonempty supported] at written
        split at written
        · cases written
          refine ⟨rfl, ?_⟩
          rw [RcvConfigRecord.raw, List.length_take_of_le]
          rw [littleEndian_length]
          omega
        · cases written

theorem AcceptedConfig.raw {records : List RcvConfigRecord} (accepted : AcceptedConfig records) :
    ∀ raw ∈ encoded records, raw.Raw := by
  intro raw mem
  obtain ⟨record, front, written⟩ := List.mem_filterMap.mp mem
  have origin := (List.takeWhile_prefix _).subset front
  refine raw_of_rawOf ?_ written
  cases accepted with
  | yaml items =>
      obtain ⟨item, -, rfl⟩ := List.mem_map.mp origin
      exact .inr rfl
  | ucenter parsed => exact .inl ((parseUCenterConfig_sound parsed).1 record origin)

/-- No write goes past the end of the buffer, and where success is reported, the length field counts
the four fixed bytes and the keys and values. -/
structure ConfigMsgFits (records : List RcvConfigRecord) (buff : List UInt8) : Prop where
  inBounds : ∀ fault, buildConfigMsg records buff 0 ≠ .error (.undefined fault)
  length : ∀ buff' msgLen, buildConfigMsg records buff 0 = .ok (0, buff', msgLen) →
    byteAt buff' 4 + 256 * byteAt buff' 5 = 4 + areaLength (encoded records) ∧
      msgLen.toNat = 12 + areaLength (encoded records)

theorem not_configMsgFits {records : List RcvConfigRecord} {buff : List UInt8}
    (ran : ∃ fault, buildConfigMsg records buff 0 = .error (.undefined fault)) :
    ¬ ConfigMsgFits records buff := fun fits => by
  obtain ⟨fault, ran⟩ := ran
  exact fits.inBounds fault ran

theorem configMsg_length {raws : List RcvConfigRecord} (rest : List UInt8)
    (small : 12 + areaLength raws ≤ kReceiverConfigBufferCapacity) :
    byteAt (ubxMessage 0x06 0x8A (valsetPayload raws) ++ rest) 4 +
      256 * byteAt (ubxMessage 0x06 0x8A (valsetPayload raws) ++ rest) 5 = 4 + areaLength raws := by
  have capacity : kReceiverConfigBufferCapacity = 8192 := rfl
  have payload : (valsetPayload raws).length = 4 + areaLength raws := by
    rw [valsetPayload, List.length_append, areaOf_length]
    rfl
  have bytes : byteAt (ubxMessage 0x06 0x8A (valsetPayload raws) ++ rest) 4 +
      256 * byteAt (ubxMessage 0x06 0x8A (valsetPayload raws) ++ rest) 5 =
      (UInt8.ofNat (valsetPayload raws).length).toNat +
        256 * (UInt8.ofNat ((valsetPayload raws).length / 256)).toNat := rfl
  rw [bytes, payload, UInt8.toNat_ofNat', UInt8.toNat_ofNat']
  omega

theorem configMsg_total {n : Nat} (small : n ≤ kReceiverConfigBufferCapacity) :
    (UInt32.ofNat n).toNat = n := by
  have capacity : kReceiverConfigBufferCapacity = 8192 := rfl
  rw [UInt32.toNat_ofNat', Nat.mod_eq_of_lt (by omega)]

/-- What is written before the call ends fits the buffer, with the checksum if it ends well. -/
theorem configMsgFits_iff {records : List RcvConfigRecord} (accepted : AcceptedConfig records)
    {buff : List UInt8} (size : buff.length = kReceiverConfigBufferCapacity) :
    ConfigMsgFits records buff ↔
      (if refused records = [] then 12 else 10) + areaLength (encoded records) ≤
        kReceiverConfigBufferCapacity := by
  have raw := accepted.raw
  by_cases room : 10 + areaLength (encoded records) ≤ kReceiverConfigBufferCapacity
  · cases ends : refused records with
    | nil =>
        rw [if_pos rfl]
        by_cases fits : 12 + areaLength (encoded records) ≤ kReceiverConfigBufferCapacity
        · obtain ⟨rest, ran⟩ := buildConfigMsg_encoded raw size 0 ends fits
          refine iff_of_true ⟨fun fault => by rw [ran]; exact nofun, fun buff' msgLen same => ?_⟩ fits
          cases ran.symm.trans same
          exact ⟨configMsg_length rest fits, configMsg_total fits⟩
        · exact iff_of_false (not_configMsgFits
            (buildConfigMsg_checksum_overflow raw size _ ends room (by omega))) fits
    | cons record rest =>
        rw [if_neg (by simp)]
        refine iff_of_true ?_ room
        rcases buildConfigMsg_refused raw size _ room ends with ⟨-, buff', ran⟩ | ⟨-, e, ran⟩
        · refine ⟨fun fault => by rw [ran]; exact nofun, fun _ _ same => ?_⟩
          cases ran.symm.trans same
        · refine ⟨fun fault => by rw [ran]; exact nofun, fun _ _ same => ?_⟩
          cases ran.symm.trans same
  · refine iff_of_false (not_configMsgFits (buildConfigMsg_overflow raw size _ (by omega))) fun fits => ?_
    split_ifs at fits <;> omega

/-! A file that repeats the line of one setting. -/

def dynmodelLine : List Char := "CFG-VALSET - 06 8A 09 00 00 01 00 00 21 00 11 20 04".toList

def dynmodel : RcvConfigRecord := .raw 0x20110021 [4]

theorem rawOf_raw {record : RcvConfigRecord} (raw : record.Raw) : rawOf record = some record := by
  have useRaw : record.useRawKeyValue = true := by
    rw [raw.raw]
    rfl
  rw [rawOf, if_pos useRaw, raw_isEmpty raw]
  rfl

theorem encoded_eq {records raws : List RcvConfigRecord}
    (written : List.Forall₂ (fun record raw => rawOf record = some raw) records raws) :
    encoded records = raws ∧ refused records = [] := by
  induction written with
  | nil => exact ⟨rfl, rfl⟩
  | @cons record raw rest raws first others ih =>
      obtain ⟨own, none⟩ := ih
      rw [encoded] at own
      rw [refused] at none
      rw [encoded, refused, List.takeWhile_cons_of_pos (by simp [first]),
        List.dropWhile_cons_of_pos (by simp [first]), List.filterMap_cons_some first, own]
      exact ⟨rfl, none⟩

theorem encoded_replicate {record : RcvConfigRecord} (raw : record.Raw) (n : Nat) :
    encoded (List.replicate n record) = List.replicate n record ∧
      refused (List.replicate n record) = [] := by
  refine encoded_eq (List.forall₂_same.mpr fun other mem => ?_)
  rw [List.eq_of_mem_replicate mem, rawOf_raw raw]

theorem dynmodel_file (n : Nat) (pos : 0 < n) :
    parseUCenterConfig (unlines (List.replicate n dynmodelLine)) = .ok (List.replicate n dynmodel) := by
  have file : CfgFile stoulByte (List.replicate n dynmodelLine) (List.replicate n dynmodel) := by
    have payload : cfgPayload dynmodelLine = some (dynmodelLine.drop 13) := by decide +kernel
    have hex : (tokens (dynmodelLine.drop 13)).mapM stoulByte =
        some ([0x06, 0x8A, 9, 0] ++ [0, 1, 0, 0] ++ areaOf [dynmodel]) := by decide +kernel
    have message : CfgMessage ([0x06, 0x8A, 9, 0] ++ [0, 1, 0, 0] ++ areaOf [dynmodel]) [dynmodel] :=
      .intro (.inl rfl) rfl rfl (by simpa using ⟨rfl, rfl⟩)
    clear pos
    induction n with
    | zero => exact .nil
    | succ n ih => exact .message (cfgPayload_iff.mp payload) hex message ih
  have single : '\n' ∉ dynmodelLine := by decide
  refine parseUCenterConfig_iff.mpr ⟨?_, ?_⟩
  · simp only [ne_eq, List.replicate_eq_nil_iff]
    omega
  · rwa [lines_unlines fun line mem => by rwa [List.eq_of_mem_replicate mem]]

/-- Only the number of records decides, and no function bounds it. -/
theorem dynmodel_overflow {n : Nat} (long : 8182 < 5 * n) {buff : List UInt8}
    (size : buff.length = kReceiverConfigBufferCapacity) :
    ¬ ConfigMsgFits (List.replicate n dynmodel) buff := by
  have raw : dynmodel.Raw := ⟨rfl, rfl⟩
  obtain ⟨own, -⟩ := encoded_replicate raw n
  have total : areaLength (List.replicate n dynmodel) = 5 * n := by
    rw [areaLength, List.map_replicate, List.sum_replicate, smul_eq_mul, mul_comm]
    rfl
  have capacity : kReceiverConfigBufferCapacity = 8192 := rfl
  have fits : ∀ raw ∈ encoded (List.replicate n dynmodel), raw.Raw := by
    rw [own]
    intro other mem
    rwa [List.eq_of_mem_replicate mem]
  exact not_configMsgFits (buildConfigMsg_overflow fits size _ (by rw [own, total]; omega))

/-- The buffer of the caller. -/
def configBuffer : List UInt8 := List.replicate kReceiverConfigBufferCapacity 0

theorem configBuffer_length : configBuffer.length = kReceiverConfigBufferCapacity :=
  List.length_replicate

theorem long_config_overflows :
    parseUCenterConfig (unlines (List.replicate 1637 dynmodelLine)) =
        .ok (List.replicate 1637 dynmodel) ∧
      ¬ ConfigMsgFits (List.replicate 1637 dynmodel) configBuffer :=
  ⟨dynmodel_file 1637 (by decide), dynmodel_overflow (by decide) configBuffer_length⟩

theorem configMsgFits_dynmodel : ConfigMsgFits (List.replicate 3 dynmodel) configBuffer := by
  have parsed := dynmodel_file 3 (by decide)
  exact (configMsgFits_iff (.ucenter parsed) configBuffer_length).mpr (by decide +kernel)

end GnssParser
