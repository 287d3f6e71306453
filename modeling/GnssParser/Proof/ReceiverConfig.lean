import GnssParser.Proof.Checksum

/-!
# Configuration records

The records of a configuration file reach the receiver unchanged and in order.
-/

namespace GnssParser
open Text Checked

/-! ## Records as bytes -/

structure RcvConfigRecord.Raw (record : RcvConfigRecord) : Prop where
  raw : record = .raw record.keyId record.valueBytes
  width : record.valueBytes.length = getValueByteCount record.keyId

def recordBytes (record : RcvConfigRecord) : List UInt8 :=
  littleEndian 4 record.keyId.toNat ++ record.valueBytes

def areaOf (records : List RcvConfigRecord) : List UInt8 := records.flatMap recordBytes

def areaLength (records : List RcvConfigRecord) : Nat :=
  (records.map fun record => 4 + record.valueBytes.length).sum

theorem littleEndian_length (n value : Nat) : (littleEndian n value).length = n := by
  induction n generalizing value with
  | zero => rfl
  | succ n ih => rw [littleEndian, List.length_cons, ih]

theorem areaOf_length (records : List RcvConfigRecord) :
    (areaOf records).length = areaLength records := by
  simp [areaOf, areaLength, recordBytes, littleEndian_length, List.length_flatMap]

theorem valueByteCount_bounds (keyId : UInt32) :
    1 ≤ getValueByteCount keyId ∧ getValueByteCount keyId ≤ 32 := by
  have code : valueSize keyId ≤ 7 := by
    rw [valueSize, UInt32.toNat_and]
    exact Nat.and_le_right
  rw [getValueByteCount, Nat.shiftLeft_eq, one_mul]
  split_ifs with wide
  · exact ⟨Nat.one_le_two_pow, Nat.pow_le_pow_right (by decide) (show valueSize keyId - 2 ≤ 5 by omega)⟩
  · decide

theorem u32Of_toNat (b : Nat → UInt8) : (u32Of b).toNat =
    (b 0).toNat + 256 * (b 1).toNat + 65536 * ((b 2).toNat + 256 * (b 3).toNat) := by
  have low : (u16Of b).toNat < 2 ^ 16 := (u16Of b).toNat_lt
  have high := (u16Of fun i => b (2 + i)).toNat_lt
  rw [u32Of, UInt32.toNat_or, UInt32.toNat_shiftLeft, UInt16.toNat_toUInt32, UInt16.toNat_toUInt32,
    show (16 : UInt32).toNat % 32 = 16 from rfl, Nat.mod_eq_of_lt (by rw [Nat.shiftLeft_eq]; omega),
    Nat.or_comm, ← Nat.shiftLeft_add_eq_or_of_lt low, Nat.shiftLeft_eq, u16Of_toNat, u16Of_toNat,
    Nat.add_zero, show 2 + 1 = 3 from rfl]
  omega

theorem u32_littleEndian (pre rest : List UInt8) (key : UInt32) :
    u32 (BytePtr.add (loadAt (pre ++ (littleEndian 4 key.toNat ++ rest))) pre.length) = .ok key := by
  have reads : ∀ k < 4,
      BytePtr.add (loadAt (pre ++ (littleEndian 4 key.toNat ++ rest))) pre.length k =
        .ok ((littleEndian 4 key.toNat).getD k 0) := by
    intro k below
    have size := littleEndian_length 4 key.toNat
    rw [BytePtr.add, loadAt_getD (by simp [size]; omega), List.getD_append_right _ _ _ _ (by omega),
      Nat.add_sub_cancel_left, List.getD_append _ _ _ _ (by omega)]
  rw [u32_ok reads]
  congr 1
  rw [← UInt32.toNat_inj, u32Of_toNat]
  have bound : key.toNat < 2 ^ 32 := key.toNat_lt
  simp only [littleEndian, List.getD_cons_zero, List.getD_cons_succ, UInt8.toNat_ofNat']
  omega

theorem ofNat8_eq {x : Nat} {b : UInt8} (same : x % 256 = b.toNat) : UInt8.ofNat x = b := by
  rw [← UInt8.toNat_inj, UInt8.toNat_ofNat', ← same]

theorem littleEndian_four (a b c d : UInt8) :
    littleEndian 4 (a.toNat + 256 * b.toNat + 65536 * (c.toNat + 256 * d.toNat)) = [a, b, c, d] := by
  have := a.toNat_lt
  have := b.toNat_lt
  have := c.toNat_lt
  have := d.toNat_lt
  rw [littleEndian, littleEndian, littleEndian, littleEndian, littleEndian,
    ofNat8_eq (b := a) (by omega), ofNat8_eq (b := b) (by omega), ofNat8_eq (b := c) (by omega),
    ofNat8_eq (b := d) (by omega)]

theorem littleEndian_u32 {bytes : List UInt8} {offset : Nat} (within : offset + 4 ≤ bytes.length)
    {key : UInt32} (read : u32 (BytePtr.add (loadAt bytes) offset) = .ok key) :
    bytes.drop offset = littleEndian 4 key.toNat ++ bytes.drop (offset + 4) := by
  have reads : ∀ k < 4, BytePtr.add (loadAt bytes) offset k = .ok (bytes.getD (offset + k) 0) :=
    fun k below => loadAt_getD (by omega)
  rw [u32_ok reads] at read
  have parts := congrArg (fun key => littleEndian 4 (UInt32.toNat key)) (Except.ok.inj read)
  rw [u32Of_toNat, littleEndian_four] at parts
  rw [← parts]
  have step : ∀ k < 4, bytes.drop (offset + k) =
      bytes.getD (offset + k) 0 :: bytes.drop (offset + k + 1) := by
    intro k below
    rw [List.drop_eq_getElem_cons (by omega), List.getD_eq_getElem _ _ (by omega)]
  calc bytes.drop offset
      = bytes.getD (offset + 0) 0 :: bytes.drop (offset + 1) := step 0 (by decide)
    _ = _ := by rw [step 1 (by decide), step 2 (by decide), step 3 (by decide)]; rfl

/-! ## Writing -/

theorem copyTo_middle (pre old bytes suf : List UInt8) (same : old.length = bytes.length) :
    copyTo (pre ++ (old ++ suf)) pre.length bytes = .ok (pre ++ (bytes ++ suf)) := by
  have rest : (pre ++ (old ++ suf)).drop (pre.length + bytes.length) = suf := by
    rw [← List.append_assoc]
    exact List.drop_left' (by rw [List.length_append, same])
  rw [copyTo, if_pos (by simp; omega), List.take_left, rest, List.append_assoc]

theorem raw_isEmpty {record : RcvConfigRecord} (raw : record.Raw) :
    record.valueBytes.isEmpty = false := by
  have some := (valueByteCount_bounds record.keyId).1
  rw [← raw.width] at some
  cases bytes : record.valueBytes with
  | nil => simp [bytes] at some
  | cons => rfl

theorem appendRecord_ok {pre old value suf : List UInt8} {key : UInt32} (payloadLen : UInt16)
    (small : value.length < 256) (room : old.length = 4 + value.length) :
    appendRecord ⟨pre ++ (old ++ suf), pre.length, payloadLen⟩ key value (UInt8.ofNat value.length) =
      .ok ⟨pre ++ (littleEndian 4 key.toNat ++ value) ++ suf,
        pre.length + (4 + value.length), payloadLen + UInt16.ofNat (4 + value.length)⟩ := by
  have count : (UInt8.ofNat value.length).toNat = value.length := by
    rw [UInt8.toNat_ofNat', Nat.mod_eq_of_lt small]
  have size := littleEndian_length 4 key.toNat
  have keyCopied : copyTo (pre ++ (old ++ suf)) pre.length (littleEndian 4 key.toNat) =
      .ok ((pre ++ littleEndian 4 key.toNat) ++ (old.drop 4 ++ suf)) := by
    have copied := copyTo_middle pre (old.take 4) (littleEndian 4 key.toNat) (old.drop 4 ++ suf)
      (by rw [List.length_take, size]; omega)
    rw [← List.append_assoc (old.take 4), List.take_append_drop] at copied
    rw [copied, List.append_assoc]
  have valueCopied : copyTo ((pre ++ littleEndian 4 key.toNat) ++ (old.drop 4 ++ suf)) (pre.length + 4)
      value = .ok ((pre ++ littleEndian 4 key.toNat) ++ (value ++ suf)) := by
    have copied := copyTo_middle (pre ++ littleEndian 4 key.toNat) (old.drop 4) value suf
      (by rw [List.length_drop]; omega)
    rwa [List.length_append, size] at copied
  have width : (UInt8.ofNat value.length).toUInt16 = UInt16.ofNat value.length := by
    rw [← UInt16.toNat_inj, UInt8.toNat_toUInt16, count, UInt16.toNat_ofNat',
      Nat.mod_eq_of_lt (by omega)]
  rw [appendRecord]
  dsimp only
  rw [count, if_neg (lt_irrefl _), keyCopied, ok_bind, List.take_length, valueCopied, ok_bind, width]
  congr 2
  · simp
  · omega
  · rw [UInt16.ofNat_add, ← UInt16.add_assoc]
    rfl

theorem configRecord_raw {record : RcvConfigRecord} (raw : record.Raw) (pre old suf : List UInt8)
    (payloadLen : UInt16) (room : old.length = (recordBytes record).length) :
    configRecord ⟨pre ++ (old ++ suf), pre.length, payloadLen⟩ record =
      .ok (some ⟨(pre ++ recordBytes record) ++ suf, (pre ++ recordBytes record).length,
        payloadLen + UInt16.ofNat (recordBytes record).length⟩) := by
  have useRaw : record.useRawKeyValue = true := by
    rw [raw.raw]
    rfl
  have size : (recordBytes record).length = 4 + record.valueBytes.length := by
    rw [recordBytes, List.length_append, littleEndian_length]
  have width := (valueByteCount_bounds record.keyId).2
  rw [← raw.width] at width
  rw [size] at room
  rw [configRecord, if_pos useRaw, raw_isEmpty raw, if_neg (by decide)]
  dsimp only
  rw [appendRecord_ok payloadLen (by omega) room, size, List.length_append, size]
  rfl

theorem configRecords_raw {records : List RcvConfigRecord} (raw : ∀ record ∈ records, record.Raw)
    (pre old suf : List UInt8) (payloadLen : UInt16)
    (room : old.length = (areaOf records).length) :
    configRecords ⟨pre ++ (old ++ suf), pre.length, payloadLen⟩ records =
      .ok (some ⟨pre ++ (areaOf records ++ suf), (pre ++ areaOf records).length,
        payloadLen + UInt16.ofNat (areaOf records).length⟩) := by
  induction records generalizing pre old payloadLen with
  | nil =>
      obtain rfl := List.eq_nil_of_length_eq_zero (room.trans rfl)
      simp [configRecords, areaOf, Except.pure, pure]
  | cons record rest ih =>
      have split : areaOf (record :: rest) = recordBytes record ++ areaOf rest := rfl
      rw [split, List.length_append] at room
      have first := configRecord_raw (raw record List.mem_cons_self) pre
        (old.take (recordBytes record).length) (old.drop (recordBytes record).length ++ suf) payloadLen
        (by rw [List.length_take]; omega)
      rw [← List.append_assoc (old.take _), List.take_append_drop] at first
      have others := ih (fun r mem => raw r (List.mem_cons_of_mem _ mem)) (pre ++ recordBytes record)
        (old.drop (recordBytes record).length) (payloadLen + UInt16.ofNat (recordBytes record).length)
        (by rw [List.length_drop]; omega)
      rw [configRecords, first, Run.ok_bind]
      dsimp only
      rw [others, split]
      simp [UInt16.ofNat_add, UInt16.add_assoc]

/-! ## The message -/

/-- The payload of the message: version, layer and reserved bytes, and the area. -/
def valsetPayload (records : List RcvConfigRecord) : List UInt8 := [0, 1, 0, 0] ++ areaOf records

theorem setChecksum_ok (cls id : UInt8) (payload rest : List UInt8) {e : List UInt8} (room : e.length = 2) :
    setChecksum ([ubxSync1, ubxSync2] ++ (ubxBody cls id payload ++ (e ++ rest)))
      (payload.length + 8) = .ok (ubxMessage cls id payload ++ rest) := by
  have size := ubxBody_length cls id payload
  have body : (([ubxSync1, ubxSync2] ++ (ubxBody cls id payload ++ (e ++ rest))).drop 2).take
      (payload.length + 8 - 2 - 2) = ubxBody cls id payload :=
    List.take_left' (show (ubxBody cls id payload).length = _ by rw [size]; omega)
  obtain ⟨x, y, rfl⟩ := List.length_eq_two.mp room
  set front := [ubxSync1, ubxSync2] ++ ubxBody cls id payload with front_eq
  have frontSize : front.length = payload.length + 6 := by simp [front_eq, size]
  set sums := checksum (ubxBody cls id payload) with sums_eq
  have first : copyTo ([ubxSync1, ubxSync2] ++ (ubxBody cls id payload ++ ([x, y] ++ rest)))
      (payload.length + 8 - 2) [sums.1] = .ok (front ++ ([sums.1] ++ ([y] ++ rest))) := by
    have copied := copyTo_middle front [x] [sums.1] ([y] ++ rest) rfl
    rw [frontSize] at copied
    rw [← copied, front_eq]
    simp
  have second : copyTo (front ++ ([sums.1] ++ ([y] ++ rest))) (payload.length + 8 - 1) [sums.2] =
      .ok ((front ++ [sums.1]) ++ ([sums.2] ++ rest)) := by
    have copied := copyTo_middle (front ++ [sums.1]) [y] [sums.2] rest rfl
    rw [List.length_append, frontSize] at copied
    rw [← copied]
    simp
  rw [setChecksum, checksumLoop_ok (by simp [size]; omega), ok_bind, body]
  dsimp only
  rw [← checksum, ← sums_eq, first, ok_bind, second, ubxMessage, ← front_eq, ← sums_eq]
  simp

theorem exists_split {α : Type} {list : List α} {n : Nat} (long : n ≤ list.length) :
    ∃ front back, list = front ++ back ∧ front.length = n :=
  ⟨list.take n, list.drop n, (List.take_append_drop n list).symm, List.length_take_of_le long⟩

theorem buildConfigMsg_raw {records : List RcvConfigRecord}
    (raw : ∀ record ∈ records, record.Raw) {buff : List UInt8}
    (fits : 12 + (areaOf records).length ≤ buff.length) (small : buff.length < 2 ^ 16)
    (msgLen : UInt32) :
    ∃ rest, buildConfigMsg records buff msgLen =
      .ok (0, ubxMessage 0x06 0x8A (valsetPayload records) ++ rest,
        UInt32.ofNat (12 + (areaOf records).length)) := by
  obtain ⟨header, buff, rfl, headerSize⟩ := exists_split (show 4 ≤ buff.length by omega)
  rw [List.length_append] at fits small
  obtain ⟨len, buff, rfl, lenSize⟩ := exists_split (show 2 ≤ buff.length by omega)
  rw [List.length_append] at fits small
  obtain ⟨layer, buff, rfl, layerSize⟩ := exists_split (show 4 ≤ buff.length by omega)
  rw [List.length_append] at fits small
  obtain ⟨area, buff, rfl, areaSize⟩ :=
    exists_split (show (areaOf records).length ≤ buff.length by omega)
  rw [List.length_append] at fits small
  obtain ⟨sums, rest, rfl, sumsSize⟩ := exists_split (show 2 ≤ buff.length by omega)
  have payloadSize : (valsetPayload records).length = 4 + (areaOf records).length := by
    rw [valsetPayload, List.length_append]
    rfl
  have payloadLen : (4 : UInt16) + UInt16.ofNat (areaOf records).length =
      UInt16.ofNat (valsetPayload records).length := by
    rw [payloadSize, UInt16.ofNat_add]
    rfl
  have payloadNat : (UInt16.ofNat (valsetPayload records).length).toNat =
      (valsetPayload records).length := by
    rw [UInt16.toNat_ofNat', Nat.mod_eq_of_lt (by omega)]
  have one : copyTo (header ++ (len ++ (layer ++ (area ++ (sums ++ rest))))) 0 ubxCfgValsetHeader =
      .ok (ubxCfgValsetHeader ++ (len ++ (layer ++ (area ++ (sums ++ rest))))) :=
    copyTo_middle [] _ _ _ headerSize
  have two : copyTo (ubxCfgValsetHeader ++ (len ++ (layer ++ (area ++ (sums ++ rest))))) 6
      [0, 1, 0, 0] = .ok ((ubxCfgValsetHeader ++ len) ++ ([0, 1, 0, 0] ++ (area ++ (sums ++ rest)))) := by
    have copied := copyTo_middle (ubxCfgValsetHeader ++ len) layer [0, 1, 0, 0]
      (area ++ (sums ++ rest)) layerSize
    rw [List.length_append, lenSize] at copied
    rw [← copied, List.append_assoc]
    rfl
  have three := configRecords_raw raw ((ubxCfgValsetHeader ++ len) ++ [0, 1, 0, 0]) area
    (sums ++ rest) 4 areaSize
  have four : copyTo (((ubxCfgValsetHeader ++ len) ++ [0, 1, 0, 0]) ++
      (areaOf records ++ (sums ++ rest))) 4 (littleEndian 2 (valsetPayload records).length) =
      .ok ([ubxSync1, ubxSync2] ++
        (ubxBody 0x06 0x8A (valsetPayload records) ++ (sums ++ rest))) := by
    have copied := copyTo_middle ubxCfgValsetHeader len
      (littleEndian 2 (valsetPayload records).length)
      ([0, 1, 0, 0] ++ (areaOf records ++ (sums ++ rest))) (by rw [lenSize, littleEndian_length])
    rw [show ubxCfgValsetHeader.length = 4 from rfl] at copied
    rw [List.append_assoc, List.append_assoc, copied]
    simp [ubxBody, valsetPayload, ubxCfgValsetHeader]
  have five := setChecksum_ok 0x06 0x8A (valsetPayload records) rest sumsSize
  have length : (6 : UInt32) + (UInt16.ofNat (valsetPayload records).length).toUInt32 + 2 =
      UInt32.ofNat (12 + (areaOf records).length) := by
    rw [← UInt32.toNat_inj, UInt32.toNat_add, UInt32.toNat_add, UInt16.toNat_toUInt32, payloadNat,
      UInt32.toNat_ofNat', payloadSize, show (6 : UInt32).toNat = 6 from rfl,
      show (2 : UInt32).toNat = 2 from rfl]
    omega
  have lengthNat : (UInt32.ofNat (12 + (areaOf records).length)).toNat =
      (valsetPayload records).length + 8 := by
    rw [UInt32.toNat_ofNat', payloadSize]
    omega
  have start : ((ubxCfgValsetHeader ++ len) ++ [0, 1, 0, 0]).length = 10 := by
    rw [List.length_append, List.length_append, lenSize]
    rfl
  refine ⟨rest, ?_⟩
  rw [start, payloadLen] at three
  rw [buildConfigMsg, one, Run.checked_ok, Run.ok_bind, two, Run.checked_ok, Run.ok_bind,
    ← List.append_assoc (ubxCfgValsetHeader ++ len), three, Run.ok_bind]
  dsimp only
  rw [payloadNat, four, Run.checked_ok, Run.ok_bind, length, lengthNat, five, Run.checked_ok,
    Run.ok_bind]
  rfl

/-! ## Walking an area -/

theorem recordBytes_length {record : RcvConfigRecord} (raw : record.Raw) :
    (recordBytes record).length = 4 + getValueByteCount record.keyId := by
  rw [recordBytes, List.length_append, littleEndian_length, raw.width]

theorem walkRecords_area {records : List RcvConfigRecord} (raw : ∀ record ∈ records, record.Raw)
    (pre : List UInt8) (earlier : List RcvConfigRecord) (fuel : Nat) (enough : records.length ≤ fuel) :
    walkRecords (pre ++ areaOf records) (pre ++ areaOf records).length fuel pre.length earlier =
      .ok (earlier ++ records, (pre ++ areaOf records).length) := by
  induction records generalizing pre earlier fuel with
  | nil =>
      cases fuel with
      | zero => simp [walkRecords, areaOf, pure, Except.pure]
      | succ fuel => simp [walkRecords, areaOf, pure, Except.pure]
  | cons record rest ih =>
      obtain ⟨fuel, rfl⟩ : ∃ n, fuel = n + 1 := ⟨fuel - 1, by simp at enough; omega⟩
      have own := raw record List.mem_cons_self
      have split : areaOf (record :: rest) = recordBytes record ++ areaOf rest := rfl
      have size := recordBytes_length own
      have key : u32 (BytePtr.add (loadAt (pre ++ areaOf (record :: rest))) pre.length) =
          .ok record.keyId := by
        rw [split, recordBytes, List.append_assoc]
        exact u32_littleEndian pre (record.valueBytes ++ areaOf rest) record.keyId
      have value : ((pre ++ areaOf (record :: rest)).drop (pre.length + 4)).take
          (getValueByteCount record.keyId) = record.valueBytes := by
        rw [split, recordBytes, List.append_assoc, ← List.append_assoc,
          List.drop_left' (by rw [List.length_append, littleEndian_length]), ← own.width,
          List.take_left]
      have total : (pre ++ areaOf (record :: rest)).length =
          pre.length + (4 + getValueByteCount record.keyId) + (areaOf rest).length := by
        rw [split, List.length_append, List.length_append, size]
        omega
      have next : (pre ++ recordBytes record).length =
          pre.length + 4 + getValueByteCount record.keyId := by
        rw [List.length_append, size]
        omega
      have others := ih (fun r mem => raw r (List.mem_cons_of_mem _ mem)) (pre ++ recordBytes record)
        (earlier ++ [record]) fuel (by simpa using enough)
      rw [next, List.append_assoc, ← split, List.append_assoc] at others
      rw [walkRecords, if_pos (by omega), key, Run.checked_ok, Run.ok_bind]
      dsimp only
      rw [if_neg (by omega), value, ← own.raw, others]
      rfl

theorem walkRecords_sound {bytes : List UInt8} {payloadEnd fuel offset : Nat}
    {earlier records : List RcvConfigRecord} {last : Nat} (within : payloadEnd ≤ bytes.length)
    (walked : walkRecords bytes payloadEnd fuel offset earlier = .ok (records, last)) :
    ∃ own, records = earlier ++ own ∧ (∀ record ∈ own, record.Raw) ∧
      bytes.drop offset = areaOf own ++ bytes.drop last := by
  induction fuel generalizing offset earlier with
  | zero =>
      cases walked
      exact ⟨[], by simp, by simp, rfl⟩
  | succ fuel ih =>
      rw [walkRecords] at walked
      split_ifs at walked with more
      · obtain ⟨keyId, key, walked⟩ := Run.bind_eq_ok.mp walked
        dsimp only at walked
        split_ifs at walked with short
        obtain ⟨own, rfl, raw, area⟩ := ih walked
        have bytesOfKey := littleEndian_u32 (by omega) (Run.checked_eq_ok.mp key)
        set value := (bytes.drop (offset + 4)).take (getValueByteCount keyId) with value_eq
        have width : value.length = getValueByteCount keyId := by
          rw [value_eq, List.length_take, List.length_drop]
          omega
        refine ⟨.raw keyId value :: own, by simp, ?_, ?_⟩
        · intro record mem
          rcases List.mem_cons.mp mem with rfl | mem
          · exact ⟨rfl, width⟩
          · exact raw record mem
        · have tail : bytes.drop (offset + 4) =
              value ++ bytes.drop (offset + 4 + getValueByteCount keyId) := by
            have rest := List.take_append_drop (getValueByteCount keyId) (bytes.drop (offset + 4))
            rw [List.drop_drop] at rest
            exact rest.symm
          rw [bytesOfKey, tail, area]
          simp [areaOf, recordBytes, RcvConfigRecord.raw]
      · cases walked
        exact ⟨[], by simp, by simp, rfl⟩

/-! ## Files -/

def cfgBytes (line : List Char) : Option (List UInt8) :=
  (cfgPayload line).bind fun payload => (parseHexBytes payload).toOption

def fileArea (file : List Char) : List UInt8 :=
  ((lines file).filterMap cfgBytes).flatMap fun bytes => bytes.drop 8

theorem parseCfgLine_sound {line : List Char} {earlier records : List RcvConfigRecord}
    (parsed : parseCfgLine earlier line = .ok records) :
    ∃ own, records = earlier ++ own ∧ (∀ record ∈ own, record.Raw) ∧
      areaOf own = ((cfgBytes line).getD []).drop 8 := by
  rw [parseCfgLine] at parsed
  cases payload : cfgPayload line with
  | none =>
      rw [payload] at parsed
      cases parsed
      exact ⟨[], by simp, by simp, by simp [cfgBytes, payload, areaOf]⟩
  | some text =>
      rw [payload] at parsed
      obtain ⟨bytes, hex, parsed⟩ := Run.bind_eq_ok.mp parsed
      dsimp only at parsed
      have read : cfgBytes line = some bytes := by
        rw [cfgBytes, payload, Option.bind_some, Run.throwing_eq_ok.mp hex]
        rfl
      split_ifs at parsed with format length empty
      · omega
      · obtain ⟨⟨all, offset⟩, walked, parsed⟩ := Run.bind_eq_ok.mp parsed
        dsimp only at parsed
        split_ifs at parsed with trailing
        cases parsed
        obtain ⟨own, rfl, raw, area⟩ := walkRecords_sound (by omega) walked
        rw [not_not.mp trailing, not_not.mp length |>.symm, List.drop_length, List.append_nil] at area
        refine ⟨own, rfl, raw, ?_⟩
        rw [read, Option.getD_some, area]

theorem parseCfgLines_sound {fileLines : List (List Char)} {earlier records : List RcvConfigRecord}
    (parsed : fileLines.foldlM parseCfgLine earlier = .ok records) :
    ∃ own, records = earlier ++ own ∧ (∀ record ∈ own, record.Raw) ∧
      areaOf own = (fileLines.filterMap cfgBytes).flatMap fun bytes => bytes.drop 8 := by
  induction fileLines generalizing earlier with
  | nil =>
      cases parsed
      exact ⟨[], by simp, by simp, rfl⟩
  | cons line rest ih =>
      rw [List.foldlM_cons] at parsed
      obtain ⟨middle, first, parsed⟩ := Run.bind_eq_ok.mp parsed
      obtain ⟨own, rfl, raw, area⟩ := parseCfgLine_sound first
      obtain ⟨others, rfl, rawOthers, areaOthers⟩ := ih parsed
      refine ⟨own ++ others, by simp, ?_, ?_⟩
      · intro record mem
        rcases List.mem_append.mp mem with mem | mem
        · exact raw record mem
        · exact rawOthers record mem
      · rw [areaOf, List.flatMap_append, ← areaOf, ← areaOf, area, areaOthers]
        cases bytes : cfgBytes line <;> simp [bytes]

theorem parseUCenterConfig_sound {file : List Char} {records : List RcvConfigRecord}
    (parsed : parseUCenterConfig file = .ok records) :
    (∀ record ∈ records, record.Raw) ∧ areaOf records = fileArea file := by
  rw [parseUCenterConfig] at parsed
  obtain ⟨all, lines, parsed⟩ := Run.bind_eq_ok.mp parsed
  split_ifs at parsed with none
  cases parsed
  obtain ⟨own, rfl, raw, area⟩ := parseCfgLines_sound lines
  exact ⟨raw, area⟩

/-! ## The round trip -/

theorem valset_area (records : List RcvConfigRecord) (rest : List UInt8) :
    ((ubxMessage 0x06 0x8A (valsetPayload records) ++ rest).drop 10).take (areaLength records) =
      areaOf records := by
  rw [← areaOf_length]
  have split : (ubxMessage 0x06 0x8A (valsetPayload records) ++ rest).drop 10 =
      areaOf records ++ ([(checksum (ubxBody 0x06 0x8A (valsetPayload records))).1,
        (checksum (ubxBody 0x06 0x8A (valsetPayload records))).2] ++ rest) := by
    simp [ubxMessage, ubxBody, valsetPayload, littleEndian]
  rw [split, List.take_left]

section
variable {records : List RcvConfigRecord} {buff : List UInt8}

theorem buildConfigMsg_fits (raw : ∀ record ∈ records, record.Raw) (msgLen : UInt32)
    (size : buff.length = kReceiverConfigBufferCapacity)
    (fits : 12 + areaLength records ≤ kReceiverConfigBufferCapacity) :
    ∃ rest, buildConfigMsg records buff msgLen =
      .ok (0, ubxMessage 0x06 0x8A (valsetPayload records) ++ rest,
        UInt32.ofNat (12 + areaLength records)) := by
  rw [← areaOf_length] at fits ⊢
  exact buildConfigMsg_raw raw (by omega) (by rw [size]; decide) msgLen

end

/-- Records that fit the buffer are sent as a verified message from which they can be walked back,
and the records of a file are sent as the areas of its lines. -/
theorem config_survives :
    (∀ records : List RcvConfigRecord, (∀ record ∈ records, record.Raw) →
      ∀ (buff : List UInt8) (msgLen : UInt32), buff.length = kReceiverConfigBufferCapacity →
        12 + areaLength records ≤ kReceiverConfigBufferCapacity →
        ∃ buff', buildConfigMsg records buff msgLen =
            .ok (0, buff', UInt32.ofNat (12 + areaLength records)) ∧
          verifyMsg (buff'.take (12 + areaLength records)) = .ok true ∧
          let area := (buff'.drop 10).take (areaLength records)
          (∀ fuel, records.length ≤ fuel →
            walkRecords area area.length fuel 0 [] = .ok (records, area.length)) ∧
          buff'.take 6 = [ubxSync1, ubxSync2, 0x06, 0x8A] ++
            littleEndian 2 (4 + areaLength records)) ∧
    ∀ file records, parseUCenterConfig file = .ok records →
      (∀ record ∈ records, record.Raw) ∧
      ∀ (buff : List UInt8) (msgLen : UInt32), buff.length = kReceiverConfigBufferCapacity →
        12 + areaLength records ≤ kReceiverConfigBufferCapacity →
        ∃ buff', buildConfigMsg records buff msgLen =
            .ok (0, buff', UInt32.ofNat (12 + areaLength records)) ∧
          (buff'.drop 10).take (areaLength records) = fileArea file := by
  refine ⟨fun records raw buff msgLen size fits => ?_, fun file records parsed => ?_⟩
  · obtain ⟨rest, ran⟩ := buildConfigMsg_fits raw msgLen size fits
    have payload : (valsetPayload records).length = 4 + areaLength records := by
      rw [valsetPayload, List.length_append, areaOf_length]
      rfl
    have whole : (ubxMessage 0x06 0x8A (valsetPayload records) ++ rest).take
        (12 + areaLength records) = ubxMessage 0x06 0x8A (valsetPayload records) :=
      List.take_left' (by rw [ubxMessage_length, payload]; omega)
    refine ⟨_, ran, ?_, ?_, ?_⟩
    · rw [whole]
      refine verifyMsg_ubxMessage _ _ _ ?_
      unfold kReceiverConfigBufferCapacity at fits
      omega
    · intro fuel enough
      have walked := walkRecords_area raw [] [] fuel enough
      rw [List.nil_append, ← valset_area records rest] at walked
      exact walked
    · rw [← payload]
      rfl
  · obtain ⟨raw, same⟩ := parseUCenterConfig_sound parsed
    refine ⟨raw, fun buff msgLen size fits => ?_⟩
    obtain ⟨rest, ran⟩ := buildConfigMsg_fits raw msgLen size fits
    exact ⟨_, ran, (valset_area records rest).trans same⟩

/-- A measurement rate of 100 ms and the dynamic model 4. -/
def rateAndModel : List RcvConfigRecord := [.raw 0x30210001 [100, 0], .raw 0x20110021 [4]]

def rateAndModelFile : List Char :=
  "CFG-VALSET - 06 8A 0F 00 00 01 00 00 01 00 21 30 64 00 21 00 11 20 04".toList

theorem config_survives_rate : parseUCenterConfig rateAndModelFile = .ok rateAndModel ∧
    ∃ buff', buildConfigMsg rateAndModel (List.replicate kReceiverConfigBufferCapacity 0) 0 =
        .ok (0, buff', 23) ∧
      verifyMsg (buff'.take 23) = .ok true ∧
      (buff'.drop 10).take 11 = [0x01, 0x00, 0x21, 0x30, 0x64, 0x00, 0x21, 0x00, 0x11, 0x20, 0x04] := by
  have parsed : parseUCenterConfig rateAndModelFile = .ok rateAndModel := by decide +kernel
  have size : (List.replicate kReceiverConfigBufferCapacity (0 : UInt8)).length =
      kReceiverConfigBufferCapacity := List.length_replicate
  obtain ⟨encodes, reads⟩ := config_survives
  obtain ⟨raw, sent⟩ := reads rateAndModelFile rateAndModel parsed
  obtain ⟨buff', ran, verified, -⟩ := encodes rateAndModel raw _ 0 size (by decide)
  obtain ⟨same, ran', area⟩ := sent _ 0 size (by decide)
  cases ran.symm.trans ran'
  exact ⟨parsed, buff', ran, verified, area.trans (by decide +kernel)⟩

end GnssParser
