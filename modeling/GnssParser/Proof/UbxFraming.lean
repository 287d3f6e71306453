import GnssParser.Proof.Checksum

/-!
# UBX framing

The calls `read_loop` makes are the messages of the scanner, for every way the reads are split.
-/

namespace GnssParser
open Checked

variable {n : Nat} {ι : Type}

/-! ## Rounds -/

/-- The buffer holds the first header of the stream `l`, which starts at `p`. -/
structure Window (r : SerialReader n) (l : List UInt8) (p : Nat) : Prop where
  long : 6 ≤ l.length
  bytes : Shows r.dataBuf 6 l
  rest : r.pieces.flatten = l.drop 6
  position : r.position = p + 6

theorem readExact_ok {r : SerialReader n} {l : List UInt8} {k : Nat} (before : Shows r.dataBuf k l)
    (rest : r.pieces.flatten = l.drop k) (len : Nat) (fits : k + min len (l.length - k) ≤ n) :
    ∃ r', readExact k len r = .ok (decide (len ≤ l.length - k), r') ∧
      Shows r'.dataBuf (min (k + len) l.length) l ∧ r'.pieces.flatten = l.drop (k + len) ∧
      r'.position = r.position + min len (l.length - k) := by
  obtain ⟨pieces, ran, left⟩ := readExactFrom_ok k len r.pieces 0 r.position r.dataBuf
    (Nat.zero_le _) (by rw [rest, List.length_drop]; simpa using fits)
  rw [rest, Nat.add_zero, Nat.sub_zero, List.length_drop] at ran
  rw [rest, Nat.sub_zero, List.drop_drop] at left
  exact ⟨_, ran, shows_overlay before len, left, rfl⟩

theorem msgLen_ok {r : SerialReader n} {l : List UInt8} (header : 6 ≤ n) (shows : Shows r.dataBuf 6 l) :
    msgLen r = .ok (ubxSize l - 8) := by
  have load : u16 (BytePtr.add (readAt r.dataBuf) 4) = .ok (u16Of fun k => l.getD (4 + k) 0) := by
    apply u16_ok
    intro k h
    rw [BytePtr.add, readAt_ok (by omega), shows (4 + k) (by omega) (by omega)]
  rw [msgLen, load, ok_bind, u16Of_toNat, ubxSize]
  simp [byteAt]

section Rounds

variable {admits : Nat → Bool}

variable (admits) in
theorem searchHeader_ok (header : 6 ≤ n) {fuel : Nat} {r : SerialReader n} {l : List UInt8}
    {p : Nat} (window : Window r l p) (enough : l.length < fuel + 6) :
    ∃ r', searchHeader fuel r = .ok (some r') ∧
      ((∃ k, Window r' (l.drop k) (p + k) ∧ Preamble (l.drop k) ∧
        (ubxScanner admits).scan p l = (ubxScanner admits).scan (p + k) (l.drop k)) ∨
      (r'.pieces.flatten = [] ∧ ((ubxScanner admits).scan p l).1 = [] ∧
        ((ubxScanner admits).scan p l).2.length < 6)) := by
  induction fuel generalizing r l p with
  | zero =>
      have := window.long
      omega
  | succ fuel ih =>
      have long := window.long
      obtain ⟨j, found, _, upper, none, sync⟩ := preamIdx_ok window.bytes header 0 5 (by decide)
      rw [searchHeader, show msgHeaderLen - 1 = 5 from rfl, found, ok_bind]
      rcases Nat.eq_zero_or_pos j with rfl | pos
      · exact ⟨r, rfl, .inl ⟨0, window, sync (by omega), rfl⟩⟩
      -- the window moves to the first possible preamble
      obtain ⟨buf, moved, kept⟩ := moveDown_ok window.bytes header pos (by omega)
      have skips := scan_skips admits p (k := j) (by omega)
        fun t below => none t t.zero_le below
      have tail : (l.drop j).length = l.length - j := List.length_drop
      obtain ⟨next, ran, shows, rest, position⟩ := readExact_ok
        (r := { r with dataBuf := buf }) kept
        (by rw [window.rest, List.drop_drop]; congr 1; omega) j (by omega)
      rw [if_neg (by omega), show msgHeaderLen = 6 from rfl, moved, ok_bind, ran, ok_bind]
      by_cases refilled : j ≤ (l.drop j).length - (6 - j)
      · have window' : Window next (l.drop j) (p + j) :=
          ⟨by omega, shows.mono (by omega), by rw [rest]; congr 1; omega, by
            rw [position]
            have := window.position
            simp only
            omega⟩
        obtain ⟨r', searched, outcome⟩ := ih window' (by omega)
        refine ⟨r', by rw [decide_eq_true refilled]; exact searched, ?_⟩
        rw [skips]
        rcases outcome with ⟨k, at_k, sync, same⟩ | ended
        · refine .inl ⟨j + k, ?_, ?_, ?_⟩
          · rwa [List.drop_drop, Nat.add_assoc] at at_k
          · rwa [List.drop_drop] at sync
          · rw [same, List.drop_drop, Nat.add_assoc]
        · exact .inr ended
      · refine ⟨next, by rw [decide_eq_false refilled]; rfl, .inr ⟨?_, ?_⟩⟩
        · rw [rest]
          exact List.drop_of_length_le (by omega)
        · rw [skips]
          exact scan_short admits _ (by omega)

end Rounds

/-- The scanner of the messages a buffer of size `n` holds. -/
abbrev readerScanner (n : Nat) : Scanner UInt8 := ubxScanner fun size => size ≤ n

/-- The stream starts with a header of a message that runs over the buffer. -/
def Overflows (n : Nat) (l : List UInt8) : Prop :=
  Preamble l ∧ 6 ≤ l.length ∧ n < ubxSize l ∧ n < l.length

instance (n : Nat) (l : List UInt8) : Decidable (Overflows n l) := by
  unfold Overflows
  infer_instance

theorem look_emit {l : List UInt8} (sync : Preamble l) (whole : ubxSize l ≤ l.length)
    (fits : ubxSize l ≤ n) : (readerScanner n).look l = .emit (ubxSize l) :=
  ubxScanner_emit.mpr ⟨sync, rfl, whole, decide_eq_true fits⟩

theorem look_wait {l : List UInt8} (long : 6 ≤ l.length) (sync : Preamble l)
    (held : ¬ (ubxSize l ≤ l.length ∧ ubxSize l ≤ n)) : (readerScanner n).look l = .wait := by
  show ubxLook (fun size => size ≤ n) l = .wait
  rw [ubxLook, if_neg (by omega), if_neg (not_not.mpr sync), if_neg]
  simpa [long] using held

/-- A round is the next decision of the scanner other than skipping. -/
inductive RoundReads (p : Nat) (l : List UInt8) : Checked (ReadRound n) → Prop where
  | message (q : Nat) (l' : List UInt8) (r : SerialReader n)
      (emit : (readerScanner n).look l' = .emit (ubxSize l'))
      (scans : (readerScanner n).scan p l = (readerScanner n).scan q l')
      (shorter : l'.length ≤ l.length)
      (rest : r.pieces.flatten = l'.drop (ubxSize l'))
      (position : r.position = q + ubxSize l')
      (data : r.dataBuf.toList.take (ubxSize l') = l'.take (ubxSize l')) :
      RoundReads p l (.ok (.message (ubxSize l') r))
  | left (frames : ((readerScanner n).scan p l).1 = [])
      (fits : ¬ Overflows n ((readerScanner n).scan p l).2) : RoundReads p l (.ok .left)
  | overflow (frames : ((readerScanner n).scan p l).1 = [])
      (runs : Overflows n ((readerScanner n).scan p l).2) :
      RoundReads p l (.error (.outOfBounds n n))

theorem readRound_ok (header : 6 ≤ n) (fuel : Nat) {r : SerialReader n} {l : List UInt8} {p : Nat}
    (rest : r.pieces.flatten = l) (position : r.position = p) (enough : l.length < fuel + 6) :
    RoundReads p l (readRound fuel r) := by
  have small_fits : ∀ {l : List UInt8}, l.length < 6 → ¬ Overflows n l :=
    fun short runs => by have := runs.2.1; omega
  obtain ⟨first, ran, shows, left, advanced⟩ := readExact_ok (r := r) (l := l) (k := 0)
    (fun _ _ h => by omega) rest 6 (by omega)
  rw [readRound, show msgHeaderLen = 6 from rfl, ran, ok_bind]
  by_cases long : 6 ≤ l.length
  swap
  · rw [decide_eq_false (by omega)]
    obtain ⟨frames, short⟩ := scan_short (fun size => size ≤ n) p (by omega : l.length < 6)
    exact .left frames (small_fits short)
  have window : Window first l p := ⟨long, shows.mono (by omega), left, by omega⟩
  obtain ⟨found, searched, outcome⟩ := searchHeader_ok (fun size => size ≤ n) header window
    enough
  rw [decide_eq_true (by omega)]
  simp only [Bool.not_true, Bool.false_eq_true, if_false, searched, ok_bind]
  rcases outcome with ⟨k, at_k, sync, same⟩ | ⟨ended, frames, short⟩
  swap
  · -- the failed refill leaves a length of stale bytes, and the next read fails as well
    have stale : ∃ m, msgLen found = .ok m :=
      ⟨_, by
        rw [msgLen, u16_ok (b := fun k => found.dataBuf.toList.getD (4 + k) 0) fun k h => by
          rw [BytePtr.add, readAt_ok (by omega), List.getD_eq_getElem _ _ (by simp; omega)]
          simp]
        rfl⟩
    obtain ⟨m, stale⟩ := stale
    obtain ⟨_, failed, _⟩ := readExactFrom_ok 6 (m + 2) found.pieces 0 found.position
      found.dataBuf (Nat.zero_le _) (by rw [ended]; simpa using header)
    rw [stale, ok_bind, readExact, failed, ok_bind, ended]
    exact .left frames (small_fits short)
  -- the header at `q` announces `size` bytes
  generalize from_q : l.drop k = l' at at_k sync same
  have large : 8 ≤ ubxSize l' := by rw [ubxSize]; omega
  have long' := at_k.long
  rw [msgLen_ok header at_k.bytes, ok_bind]
  by_cases runs : Overflows n l'
  · have past := readExactFrom_overflow 6 (ubxSize l' - 8 + 2) found.pieces 0
      found.position found.dataBuf header (by
        rw [at_k.rest, List.length_drop]
        have := runs.2.2
        omega)
    have wait := look_wait (n := n) long' sync fun held => by have := runs.2.2.1; omega
    rw [readExact, past]
    have stops := same.trans (Scanner.scan_wait _ wait)
    exact .overflow (by rw [stops]) (by rw [stops]; exact runs)
  have fits : 6 + min (ubxSize l' - 8 + 2) (l'.length - 6) ≤ n := by
    by_contra past
    exact runs ⟨sync, long', by omega, by omega⟩
  obtain ⟨r', read, shows', rest', position'⟩ := readExact_ok at_k.bytes at_k.rest
    (ubxSize l' - 8 + 2) fits
  rw [read, ok_bind]
  have size : 6 + (ubxSize l' - 8 + 2) = ubxSize l' := by omega
  rw [size] at shows' rest'
  by_cases whole : ubxSize l' ≤ l'.length
  · have emit := look_emit (n := n) sync whole (by omega)
    have bytes := shows'.mono (m := ubxSize l') (by omega)
    rw [decide_eq_true (by omega)]
    simp only [Bool.not_true, Bool.false_eq_true, if_false,
      msgLen_ok header (bytes.mono (m := 6) (by omega)), ok_bind, pure_eq]
    rw [show 6 + (ubxSize l' - 8) + 2 = ubxSize l' by omega]
    refine .message (p + k) l' r' emit same ?_ rest' ?_ (bytes.take (by omega) whole)
    · rw [← from_q, List.length_drop]
      omega
    · rw [position', at_k.position]
      omega
  · have wait := look_wait (n := n) long' sync fun held => whole held.1
    have stops := same.trans (Scanner.scan_wait _ wait)
    rw [decide_eq_false (by omega)]
    exact .left (by rw [stops]) (by rw [stops]; exact runs)

/-! ## Runs -/

def deliveries (dataCallbacks : List ι) (f : Frame UInt8) : List (Delivery ι) :=
  dataCallbacks.map fun c => ⟨c, f.start, f.data⟩

theorem readLoop_ok (dataCallbacks : List ι) (header : 6 ≤ n) {fuel : Nat} {r : SerialReader n}
    {l : List UInt8} {p : Nat} (rest : r.pieces.flatten = l) (position : r.position = p)
    (enough : l.length < fuel) :
    readLoop dataCallbacks fuel r =
      (((readerScanner n).scan p l).1.flatMap (deliveries dataCallbacks),
        if Overflows n ((readerScanner n).scan p l).2 then .fault (.outOfBounds n n) else .left) := by
  induction fuel generalizing r l p with
  | zero => omega
  | succ fuel ih =>
      rw [readLoop]
      generalize round : readRound (fuel + 1) r = result
      have reads := readRound_ok header (fuel + 1) rest position (by omega)
      rw [round] at reads
      cases reads with
      | message q l' r' emit scans shorter rest position data =>
          have large : 8 ≤ ubxSize l' := by rw [ubxSize]; omega
          have whole := Scanner.emit_le _ _ _ emit
          have next := ih rest position (by rw [List.length_drop]; omega)
          show (_ ++ (readLoop dataCallbacks fuel r').1, (readLoop dataCallbacks fuel r').2) = _
          rw [next, scans, Scanner.scan_emit _ emit, List.flatMap_cons, data, position,
            Nat.add_sub_cancel]
          rfl
      | left frames fits => rw [frames, if_neg fits]; rfl
      | overflow frames runs => rw [frames, if_pos runs]; rfl

/-- The reference parser: messages of any size. -/
abbrev ubxReference : Scanner UInt8 := ubxScanner fun _ => true

/-- The reference parser takes the preamble at `p` for a header. -/
def HeaderAt (s : List UInt8) (p : Nat) : Prop :=
  ubxReference.Reaches s p ∧ Preamble (s.drop p) ∧ p + 6 ≤ s.length

section Streams

variable {s : List UInt8} {p : Nat}

theorem advances_reference {q : Nat} (step : (readerScanner n).Advances s p q) :
    ubxReference.Advances s p q := by
  rcases step with ⟨skip, rfl⟩ | ⟨k, emit, rfl⟩
  · exact .inl ⟨ubxScanner_skip.mpr (ubxScanner_skip.mp skip), rfl⟩
  · obtain ⟨sync, size, whole, _⟩ := ubxScanner_emit.mp emit
    exact .inr ⟨k, ubxScanner_emit.mpr ⟨sync, size, whole, rfl⟩, rfl⟩

theorem reaches_reference (reached : (readerScanner n).Reaches s p) : ubxReference.Reaches s p :=
  Relation.ReflTransGen.mono (fun _ _ => advances_reference) _ _ reached

theorem look_reference (fits : ¬ Overflows n s) :
    (readerScanner n).look s = ubxReference.look s := by
  cases verdict : ubxReference.look s with
  | skip => exact ubxScanner_skip.mpr (ubxScanner_skip.mp verdict)
  | emit k =>
      obtain ⟨sync, rfl, whole, _⟩ := ubxScanner_emit.mp verdict
      have large : 8 ≤ ubxSize s := by rw [ubxSize]; omega
      refine look_emit sync whole ?_
      by_contra past
      exact fits ⟨sync, by omega, by omega, by omega⟩
  | wait =>
      cases bounded : (readerScanner n).look s with
      | wait => rfl
      | skip =>
          have : ubxReference.look s = .skip := ubxScanner_skip.mpr (ubxScanner_skip.mp bounded)
          rw [verdict] at this
          cases this
      | emit k =>
          obtain ⟨sync, size, whole, _⟩ := ubxScanner_emit.mp bounded
          have : ubxReference.look s = .emit k := ubxScanner_emit.mpr ⟨sync, size, whole, rfl⟩
          rw [verdict] at this
          cases this

theorem reaches_reader
    (fits : ∀ p, (readerScanner n).Reaches s p → ¬ Overflows n (s.drop p))
    (reached : ubxReference.Reaches s p) : (readerScanner n).Reaches s p := by
  induction reached with
  | refl => exact .refl
  | @tail p q _ step ih =>
      have same := look_reference (fits p ih)
      refine ih.tail ?_
      rcases step with ⟨skip, rfl⟩ | ⟨k, emit, rfl⟩
      · exact .inl ⟨same.trans skip, rfl⟩
      · exact .inr ⟨k, same.trans emit, rfl⟩

/-- The headers whose messages run over the buffer, seen from the reader and from the reference. -/
theorem overflows_iff :
    Overflows n ((readerScanner n).scan 0 s).2 ↔
      ¬ ∀ p, HeaderAt s p → ubxSize (s.drop p) ≤ n ∨ s.length ≤ p + n := by
  constructor
  · intro runs fits
    obtain ⟨p, reached, rest⟩ := (readerScanner n).reaches_rest (l := s) (p := 0) .refl
    rw [List.drop_zero] at rest
    rw [rest] at runs
    obtain ⟨sync, long, big, past⟩ := runs
    rw [List.length_drop] at long past
    have := fits p ⟨reaches_reference reached, sync, by omega⟩
    omega
  · intro bad
    by_contra fits
    have held : ∀ p, (readerScanner n).Reaches s p → ¬ Overflows n (s.drop p) := by
      intro p reached runs
      have wait := look_wait (n := n) runs.2.1 runs.1 fun held => by have := runs.2.2.1; omega
      rw [Scanner.Reaches.stops _ reached wait] at fits
      exact fits runs
    apply bad
    rintro p ⟨reached, sync, long⟩
    by_contra past
    exact held p (reaches_reader held reached)
      ⟨sync, by rw [List.length_drop]; omega, by omega, by rw [List.length_drop]; omega⟩

theorem readStream_ok (dataCallbacks : List ι) (header : 6 ≤ n) (dataBuf : Vector UInt8 n)
    (pieces : List (List UInt8)) :
    readStream dataCallbacks dataBuf pieces =
      (((readerScanner n).scan 0 pieces.flatten).1.flatMap (deliveries dataCallbacks),
        if Overflows n ((readerScanner n).scan 0 pieces.flatten).2 then .fault (.outOfBounds n n)
        else .left) :=
  readLoop_ok dataCallbacks header rfl rfl (Nat.lt_succ_self _)

end Streams

/-- While the messages fit the buffer, the callbacks get exactly the messages of the reference
parser, however the reads are split. -/
theorem readStream_reference (dataCallbacks : List ι) (dataBuf : Vector UInt8 dataBufSize)
    (pieces : List (List UInt8))
    (fits : ∀ p, HeaderAt pieces.flatten p →
      ubxSize (pieces.flatten.drop p) ≤ dataBufSize ∨ pieces.flatten.length ≤ p + dataBufSize) :
    readStream dataCallbacks dataBuf pieces =
      ((ubxReference.scan 0 pieces.flatten).1.flatMap (deliveries dataCallbacks), .left) := by
  have holds : ¬ Overflows dataBufSize ((readerScanner dataBufSize).scan 0 pieces.flatten).2 :=
    fun runs => overflows_iff.mp runs fits
  have same : (readerScanner dataBufSize).scan 0 pieces.flatten =
      ubxReference.scan 0 pieces.flatten := by
    refine Scanner.scan_congr (p := 0) .refl fun q reached => look_reference fun runs => ?_
    have wait := look_wait (n := dataBufSize) runs.2.1 runs.1 fun held => by
      have := runs.2.2.1
      omega
    rw [Scanner.Reaches.stops _ reached wait] at holds
    exact holds runs
  rw [readStream_ok dataCallbacks (by decide) dataBuf pieces, if_neg holds, same]

/-- A poll request that arrives in three pieces. -/
theorem readStream_reference_poll :
    readStream [()] (Vector.replicate dataBufSize 0)
        [[0xB5], [0x62, 0x0A], [0x04, 0x00, 0x00, 0x0E, 0x34]] =
      ((ubxReference.scan 0 [0xB5, 0x62, 0x0A, 0x04, 0x00, 0x00, 0x0E, 0x34]).1.flatMap
        (deliveries [()]), .left) :=
  readStream_reference [()] _ [[0xB5], [0x62, 0x0A], [0x04, 0x00, 0x00, 0x0E, 0x34]]
    fun p _ => .inr (by simp [dataBufSize])

/-- The stores of `read_loop` stay inside `data_buf_` exactly when no header announces a message
that runs over it and has enough bytes after it to do so. -/
theorem readStream_inBounds_iff (dataCallbacks : List ι) (dataBuf : Vector UInt8 dataBufSize)
    (pieces : List (List UInt8)) :
    (∀ index size, (readStream dataCallbacks dataBuf pieces).2 ≠ .fault (.outOfBounds index size)) ↔
      ∀ p, HeaderAt pieces.flatten p →
        ubxSize (pieces.flatten.drop p) ≤ dataBufSize ∨ pieces.flatten.length ≤ p + dataBufSize := by
  rw [readStream_ok dataCallbacks (by decide) dataBuf pieces]
  by_cases runs : Overflows dataBufSize ((readerScanner dataBufSize).scan 0 pieces.flatten).2
  · rw [if_pos runs]
    exact ⟨fun none => absurd rfl (none _ _), fun fits => absurd fits (overflows_iff.mp runs)⟩
  · rw [if_neg runs]
    exact ⟨fun _ => not_not.mp (mt overflows_iff.mpr runs), fun _ _ _ => nofun⟩

/-- A header that announces the largest length, with one byte too many after it. -/
def overrunStream : List UInt8 := [0xB5, 0x62, 0x01, 0x07, 0xFF, 0xFF] ++ List.replicate 8187 0

theorem readStream_overrun :
    (readStream [()] (Vector.replicate dataBufSize 0) [overrunStream]).2 =
      .fault (.outOfBounds 8192 8192) := by
  have runs : Overflows dataBufSize
      ((readerScanner dataBufSize).scan 0 [overrunStream].flatten).2 := by
    refine overflows_iff.mpr fun fits => ?_
    have length : overrunStream.length = 8193 := by
      rw [overrunStream, List.length_append, List.length_replicate]
      rfl
    have sync : Preamble (overrunStream.drop 0) := by
      rw [List.drop_zero, overrunStream, preamble_append _ (by decide)]
      decide
    have size : ubxSize (overrunStream.drop 0) = 65543 := by
      rw [List.drop_zero, overrunStream, ubxSize_append _ (by decide)]
      decide
    have bound := fits 0 ⟨.refl, by simpa using sync, by simp [length]⟩
    simp only [List.flatten_cons, List.flatten_nil, List.append_nil, size, length, dataBufSize]
      at bound
    omega
  rw [readStream_ok [()] (by decide), if_pos runs]
  rfl

/-! ## Accepted messages -/

theorem verifyMsg_true {msg : List UInt8} (accepted : verifyMsg msg = .ok true) :
    8 ≤ msg.length ∧ Preamble msg ∧ msg.length = ubxSize msg := by
  obtain ⟨long, sync, size, _⟩ := (verifyMsg_iff msg).mp accepted
  exact ⟨long, sync, size⟩

/-- The `k` bytes of the stream from position `q` on are a message `verifyMsg` accepts. -/
def AcceptedAt (s : List UInt8) (q k : Nat) : Prop :=
  q + k ≤ s.length ∧ k ≤ dataBufSize ∧ verifyMsg ((s.drop q).take k) = .ok true

/-- No accepted message before `q` reaches past it. -/
def ClearAt (s : List UInt8) (q : Nat) : Prop := ∀ p k, p < q → AcceptedAt s p k → p + k ≤ q

/-- Every accepted message that no earlier one overlaps is among the calls of `c`. -/
def Keeps (c : ι) (s : List UInt8) (calls : List (Delivery ι)) : Prop :=
  ∀ q k, AcceptedAt s q k → ClearAt s q → ⟨c, q, (s.drop q).take k⟩ ∈ calls

theorem AcceptedAt.header {s : List UInt8} {q k : Nat} (accepted : AcceptedAt s q k) :
    8 ≤ k ∧ Preamble (s.drop q) ∧ k = ubxSize (s.drop q) := by
  obtain ⟨within, _, verified⟩ := accepted
  obtain ⟨long, sync, size⟩ := verifyMsg_true verified
  have length : ((s.drop q).take k).length = k := by rw [List.length_take, List.length_drop]; omega
  rw [length] at long size
  have byte : ∀ i < 8, ((s.drop q).take k).getD i 0 = (s.drop q).getD i 0 := by
    intro i h
    rw [List.getD_eq_getElem?_getD, List.getElem?_take_of_lt (by omega), List.getD_eq_getElem?_getD]
  rw [Preamble, byte 0 (by decide), byte 1 (by decide)] at sync
  rw [ubxSize, byteAt_take _ (by omega), byteAt_take _ (by omega)] at size
  exact ⟨long, sync, size⟩

theorem mem_deliveries {dataCallbacks : List ι} {frames : List (Frame UInt8)} {c : ι} {q : Nat}
    {data : List UInt8} (registered : c ∈ dataCallbacks) :
    ⟨c, q, data⟩ ∈ frames.flatMap (deliveries dataCallbacks) ↔ ⟨q, data⟩ ∈ frames := by
  simp only [List.mem_flatMap, deliveries, List.mem_map, Delivery.mk.injEq]
  constructor
  · rintro ⟨f, mem, _, _, rfl, rfl, rfl⟩
    exact mem
  · intro mem
    exact ⟨_, mem, c, registered, rfl, rfl, rfl⟩

/-- A header whose message neither reaches past `q` nor runs over the buffer. -/
def HeaderSpares (s : List UInt8) (p q : Nat) : Prop :=
  p + ubxSize (s.drop p) ≤ q ∧ ubxSize (s.drop p) ≤ dataBufSize

/-- Before every accepted message that no earlier one overlaps, all headers spare it. -/
def HeadersSpare (s : List UInt8) : Prop :=
  ∀ q k, AcceptedAt s q k → ClearAt s q → ∀ p < q, HeaderAt s p → HeaderSpares s p q

theorem reaches_before {s : List UInt8} {p q : Nat} (reference : ubxReference.Reaches s p)
    (reached : (readerScanner n).Reaches s q) (before : p < q) : (readerScanner n).Reaches s p := by
  induction reference with
  | refl => exact .refl
  | @tail r p _ step ih =>
      have lt := Scanner.Advances.lt _ step
      have at_r := ih (lt.trans before)
      obtain ⟨t, step', _⟩ := Scanner.Reaches.passes _ at_r reached (lt.trans before)
      have same : t = p := Scanner.advances_unique _ (advances_reference step') step
      exact at_r.tail (same ▸ step')

theorem reaches_iff_spared {s : List UInt8} {q : Nat} (room : q + 8 ≤ s.length) :
    (readerScanner dataBufSize).Reaches s q ↔ ∀ p < q, HeaderAt s p → HeaderSpares s p q := by
  constructor
  · rintro reached p before ⟨reference, sync, _⟩
    obtain ⟨r, step, short⟩ :=
      Scanner.Reaches.passes _ (reaches_before reference reached before) reached before
    rcases step with ⟨skip, rfl⟩ | ⟨k, emit, rfl⟩
    · exact absurd sync (ubxScanner_skip.mp skip).2
    · obtain ⟨_, rfl, _, fits⟩ := ubxScanner_emit.mp emit
      exact ⟨short, of_decide_eq_true fits⟩
  · intro spared
    refine Scanner.reaches_of_clear _ fun p before reached => ?_
    by_cases sync : Preamble (s.drop p)
    · obtain ⟨short, fits⟩ := spared p before ⟨reaches_reference reached, sync, by omega⟩
      exact ⟨_, .inr ⟨_, look_emit sync (by rw [List.length_drop]; omega) fits, rfl⟩, short⟩
    · exact ⟨p + 1, .inl ⟨ubxScanner_skip.mpr ⟨by rw [List.length_drop]; omega, sync⟩, rfl⟩, before⟩

/-- An accepted message is delivered exactly when every header before it spares it. -/
theorem delivered_iff {dataCallbacks : List ι} {c : ι} (registered : c ∈ dataCallbacks)
    (dataBuf : Vector UInt8 dataBufSize) (pieces : List (List UInt8)) {q k : Nat}
    (accepted : AcceptedAt pieces.flatten q k) :
    ⟨c, q, (pieces.flatten.drop q).take k⟩ ∈ (readStream dataCallbacks dataBuf pieces).1 ↔
      ∀ p < q, HeaderAt pieces.flatten p → HeaderSpares pieces.flatten p q := by
  obtain ⟨long, sync, rfl⟩ := accepted.header
  have room := accepted.1
  rw [readStream_ok dataCallbacks (by decide) dataBuf pieces, mem_deliveries registered,
    Scanner.mem_scan_iff, ← reaches_iff_spared (by omega)]
  refine ⟨fun mem => mem.1, fun reached => ⟨reached, _, ?_, rfl⟩⟩
  have whole : ubxSize (pieces.flatten.drop q) ≤ (pieces.flatten.drop q).length := by
    rw [List.length_drop]
    omega
  exact look_emit sync whole accepted.2.1

/-- The reader keeps the accepted messages of a stream exactly when its headers spare them. -/
theorem readStream_keeps_iff {dataCallbacks : List ι} {c : ι} (registered : c ∈ dataCallbacks)
    (dataBuf : Vector UInt8 dataBufSize) (pieces : List (List UInt8)) :
    Keeps c pieces.flatten (readStream dataCallbacks dataBuf pieces).1 ↔
      HeadersSpare pieces.flatten := by
  constructor
  · intro kept q k accepted clear
    exact (delivered_iff registered dataBuf pieces accepted).mp (kept q k accepted clear)
  · intro spared q k accepted clear
    exact (delivered_iff registered dataBuf pieces accepted).mpr (spared q k accepted clear)

/-- A poll request behind noise without a preamble. -/
theorem readStream_keeps_iff_poll :
    Keeps () [0x00, 0xB5, 0x62, 0x0A, 0x04, 0x00, 0x00, 0x0E, 0x34]
        (readStream [()] (Vector.replicate dataBufSize 0)
          [[0x00, 0xB5, 0x62, 0x0A, 0x04, 0x00, 0x00, 0x0E, 0x34]]).1 ↔
      HeadersSpare [0x00, 0xB5, 0x62, 0x0A, 0x04, 0x00, 0x00, 0x0E, 0x34] :=
  readStream_keeps_iff (List.mem_singleton_self ()) (Vector.replicate dataBufSize 0)
    [[0x00, 0xB5, 0x62, 0x0A, 0x04, 0x00, 0x00, 0x0E, 0x34]]

/-- Noise that ends like a header of ten bytes, then a valid poll request. -/
def falseSyncStream : List UInt8 :=
  [0xB5, 0x62, 0x00, 0x00, 0x0A, 0x00, 0xB5, 0x62, 0x0A, 0x04, 0x00, 0x00, 0x0E, 0x34]

theorem readStream_false_sync :
    ¬ Keeps () falseSyncStream
      (readStream [()] (Vector.replicate dataBufSize 0) [falseSyncStream]).1 := by
  intro kept
  have accepted : AcceptedAt falseSyncStream 6 8 := ⟨by decide, by decide, by rfl⟩
  have clear : ClearAt falseSyncStream 6 := by
    intro p k before earlier
    obtain ⟨_, sync, size⟩ := earlier.header
    have within := earlier.1
    have start : p = 0 := by
      by_contra later
      have none : ∀ p < 6, p ≠ 0 → ¬ Preamble (falseSyncStream.drop p) := by decide
      exact none p before later sync
    subst start
    have large : ubxSize (falseSyncStream.drop 0) = 18 := by decide
    have length : falseSyncStream.length = 14 := by decide
    omega
  have spared := (delivered_iff (List.mem_singleton_self ()) _ [falseSyncStream] accepted).mp
    (kept 6 8 accepted clear) 0 (by decide) ⟨.refl, by decide, by decide⟩
  exact absurd spared.1 (by decide)

end GnssParser
