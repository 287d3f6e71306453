import GnssParser.Model.Ntrip

/-!
# The NTRIP handshake

The bytes after the blank line that ends the header reach the callbacks, whatever they are, unless
the header ends in two line feeds and the other blank line is found behind it.
-/

namespace GnssParser
open Search

def streamOf (reads : List Read) : List UInt8 := reads.flatMap Read.bytes

/-- The bytes of the reads up to the one that brings their count to the limit. -/
def handshakeBytes : Nat → List Read → List UInt8
  | _, [] => []
  | count, read :: reads =>
      if count ≥ kMaxNtripHeaderBytes then []
      else read.bytes ++ handshakeBytes (count + read.bytes.length) reads

/-- A blank line of either form, with its width. -/
inductive BlankLine (stream : List UInt8) (position : Nat) : Nat → Prop where
  | carriageReturns (occurs : OccursAt headerEnd stream position) : BlankLine stream position 4
  | lineFeeds (occurs : OccursAt bareHeaderEnd stream position) : BlankLine stream position 2

structure FirstBlank (stream : List UInt8) (position width : Nat) : Prop where
  here : BlankLine stream position width
  first : ∀ j < position, ∀ other, ¬ BlankLine stream j other

def StatusOk (header : List UInt8) : Prop :=
  ∃ status ∈ ["ICY 200", "HTTP/1.0 200", "HTTP/1.1 200"], ascii status <+: header

/-- The handshake succeeds, and the bytes after the header are dispatched in order, each once. -/
def NoByteLost (reads : List Read) (headerLength : Nat) : Prop :=
  ∃ dispatched rest, onConnected true reads = (some dispatched, rest) ∧
    (dispatched ++ NtripClient.readLoop rest).flatten = (streamOf reads).drop headerLength

theorem headerEnd_ne_nil : headerEnd ≠ [] := by decide

theorem bareHeaderEnd_ne_nil : bareHeaderEnd ≠ [] := by decide

theorem readLoop_flatten (reads : List Read) :
    (NtripClient.readLoop reads).flatten = streamOf reads := by
  induction reads with
  | nil => rfl
  | cons read reads ih => rw [NtripClient.readLoop, List.flatten_cons, ih]; rfl

/-! ## Reading -/

theorem readUntil_stream (delimiter buffer : List UInt8) (maxBytes : Nat) (reads : List Read) :
    (readUntil delimiter maxBytes buffer reads).2.1 ++
      streamOf (readUntil delimiter maxBytes buffer reads).2.2 = buffer ++ streamOf reads := by
  induction reads generalizing buffer with
  | nil => rfl
  | cons read reads ih =>
      rw [readUntil]
      split_ifs
      · rfl
      · rfl
      · rw [ih, List.append_assoc]
        rfl

theorem readUntil_found (delimiter buffer : List UInt8) (maxBytes : Nat) (reads : List Read) :
    (readUntil delimiter maxBytes buffer reads).1 =
      (find delimiter (readUntil delimiter maxBytes buffer reads).2.1).isSome := by
  induction reads generalizing buffer with
  | nil => rfl
  | cons read reads ih =>
      rw [readUntil]
      split_ifs with found full
      · exact found.symm
      · simpa using found
      · exact ih _

theorem readUntil_stopped (delimiter buffer : List UInt8) (maxBytes : Nat) (reads : List Read)
    (stopped : (readUntil delimiter maxBytes buffer reads).1 = false) :
    maxBytes ≤ (readUntil delimiter maxBytes buffer reads).2.1.length ∨
      (readUntil delimiter maxBytes buffer reads).2.2 = [] := by
  induction reads generalizing buffer with
  | nil => exact .inr rfl
  | cons read reads ih =>
      rw [readUntil] at stopped ⊢
      split_ifs at stopped ⊢ with found full
      · exact .inl full
      · exact ih _ stopped

/-- The search succeeds if the delimiter is in the bytes that the limit lets in. -/
theorem readUntil_handshake {delimiter : List UInt8} (nonempty : delimiter ≠ [])
    (buffer : List UInt8) (reads : List Read) :
    (readUntil delimiter kMaxNtripHeaderBytes buffer reads).1 =
      (find delimiter (buffer ++ handshakeBytes buffer.length reads)).isSome := by
  induction reads generalizing buffer with
  | nil => rw [readUntil, handshakeBytes, List.append_nil]
  | cons read reads ih =>
      rw [readUntil, handshakeBytes]
      split_ifs with found full
      · obtain ⟨k, at_⟩ := Option.isSome_iff_exists.mp found
        rw [find_append nonempty at_]
        rfl
      · obtain ⟨k, at_⟩ := Option.isSome_iff_exists.mp found
        rw [find_append nonempty at_]
        rfl
      · rw [List.append_nil]
        simpa using found
      · rw [ih, List.append_assoc, List.length_append]

/-! ## The response -/

theorem prefix_takeWhile {α : Type} {pre list : List α} {keep : α → Bool}
    (front : pre <+: list) (kept : ∀ a ∈ pre, keep a = true) : pre <+: list.takeWhile keep := by
  obtain ⟨rest, rfl⟩ := front
  rw [List.takeWhile_append_of_pos kept]
  exact List.prefix_append _ _

theorem statusOk_firstLine {header : List UInt8} (ok : StatusOk header) :
    ¬ (¬ (ascii "ICY 200").isPrefixOf (header.takeWhile fun b => b ≠ 0x0D ∧ b ≠ 0x0A) ∧
      ¬ (ascii "HTTP/1.0 200").isPrefixOf (header.takeWhile fun b => b ≠ 0x0D ∧ b ≠ 0x0A) ∧
      ¬ (ascii "HTTP/1.1 200").isPrefixOf (header.takeWhile fun b => b ≠ 0x0D ∧ b ≠ 0x0A)) := by
  obtain ⟨status, mem, front⟩ := ok
  have single : ∀ status ∈ ["ICY 200", "HTTP/1.0 200", "HTTP/1.1 200"],
      ∀ b ∈ ascii status, decide (b ≠ 0x0D ∧ b ≠ 0x0A) = true := by decide +kernel
  have line := List.isPrefixOf_iff_prefix.mpr (prefix_takeWhile front (single status mem))
  rintro ⟨icy, http0, http1⟩
  rcases List.mem_cons.mp mem with rfl | mem
  · exact icy line
  rcases List.mem_cons.mp mem with rfl | mem
  · exact http0 line
  · rw [List.mem_singleton] at mem
    subst mem
    exact http1 line

theorem parseResponse_dispatched {response : List UInt8} {position width : Nat}
    (bounds : headerBounds response = some (position, width)) {dispatched : List (List UInt8)}
    (parsed : parseResponse response = some dispatched) :
    dispatched.flatten = response.drop (position + width) := by
  rw [parseResponse, bounds] at parsed
  dsimp only at parsed
  split_ifs at parsed with refused more
  · cases parsed
    simp
  · cases parsed
    rw [List.drop_eq_nil_of_le (by omega)]
    rfl

theorem parseResponse_ok {response : List UInt8} {position width : Nat}
    (bounds : headerBounds response = some (position, width))
    (ok : StatusOk (response.take position)) :
    ∃ dispatched, parseResponse response = some dispatched := by
  rw [parseResponse, bounds]
  dsimp only
  rw [if_neg (statusOk_firstLine ok)]
  split_ifs
  · exact ⟨_, rfl⟩
  · exact ⟨_, rfl⟩

/-! ## The handshake -/

section
variable {stream : List UInt8} {position width : Nat}

theorem FirstBlank.find_headerEnd (blank : FirstBlank stream position 4) :
    find headerEnd stream = some position := by
  refine (find_eq_some headerEnd_ne_nil).mpr ⟨?_, fun j lt occurs => ?_⟩
  · cases blank.here with
    | carriageReturns occurs => exact occurs
  · exact blank.first j lt 4 (.carriageReturns occurs)

theorem FirstBlank.find_bareHeaderEnd (blank : FirstBlank stream position 2) :
    find bareHeaderEnd stream = some position := by
  refine (find_eq_some bareHeaderEnd_ne_nil).mpr ⟨?_, fun j lt occurs => ?_⟩
  · cases blank.here with
    | lineFeeds occurs => exact occurs
  · exact blank.first j lt 2 (.lineFeeds occurs)

theorem FirstBlank.le_length (blank : FirstBlank stream position width) :
    position + width ≤ stream.length := by
  cases blank.here with
  | carriageReturns occurs => exact occurs.le headerEnd_ne_nil
  | lineFeeds occurs => exact occurs.le bareHeaderEnd_ne_nil

/-- The two forms of a blank line begin with different bytes. -/
theorem FirstBlank.lt_of_headerEnd (blank : FirstBlank stream position 2) {other : Nat}
    (found : find headerEnd stream = some other) : position < other := by
  obtain ⟨occurs, -⟩ := (find_eq_some headerEnd_ne_nil).mp found
  rcases lt_trichotomy other position with lt | rfl | lt
  · exact absurd (.carriageReturns occurs) (blank.first other lt 4)
  · cases blank.here with
    | lineFeeds here =>
        obtain ⟨rest, first⟩ := here
        obtain ⟨rest', second⟩ := occurs
        rw [← first] at second
        cases second
  · exact lt

end

theorem onConnected_first {reads rest : List Read} {response : List UInt8}
    (ran : readUntil headerEnd kMaxNtripHeaderBytes [] reads = (true, response, rest)) :
    onConnected true reads = (parseResponse response, rest) := by
  rw [onConnected, if_neg (by decide), ran]

/-- The second search needs no further bytes. -/
theorem onConnected_second {reads rest : List Read} {response : List UInt8}
    (ran : readUntil headerEnd kMaxNtripHeaderBytes [] reads = (false, response, rest))
    (found : (find bareHeaderEnd response).isSome = true) :
    onConnected true reads = (parseResponse response, rest) := by
  have again : readUntil bareHeaderEnd kMaxNtripHeaderBytes response rest = (true, response, rest) := by
    cases rest with
    | nil => rw [readUntil, found]
    | cons read rest => rw [readUntil, if_pos found]
  rw [onConnected, if_neg (by decide), ran]
  dsimp only
  rw [again]

theorem noByteLost_of_parsed {reads rest : List Read} {response : List UInt8} {position width : Nat}
    (ran : onConnected true reads = (parseResponse response, rest))
    (stream : response ++ streamOf rest = streamOf reads)
    (bounds : headerBounds response = some (position, width))
    (inside : position + width ≤ response.length)
    (ok : StatusOk ((streamOf reads).take position)) : NoByteLost reads (position + width) := by
  rw [← stream, List.take_append_of_le_length (by omega)] at ok
  obtain ⟨dispatched, parsed⟩ := parseResponse_ok bounds ok
  refine ⟨dispatched, rest, by rw [ran, parsed], ?_⟩
  rw [List.flatten_append, parseResponse_dispatched bounds parsed, readLoop_flatten, ← stream,
    List.drop_append_of_le_length inside]

/-- No byte is lost if the blank line found is the first one. -/
theorem noByteLost_iff {reads : List Read} {position width : Nat}
    (blank : FirstBlank (streamOf reads) position width)
    (within : position + width ≤ kMaxNtripHeaderBytes)
    (ok : StatusOk ((streamOf reads).take position)) :
    NoByteLost reads (position + width) ↔
      width = 4 ∨ find headerEnd (handshakeBytes 0 reads) = none := by
  obtain ⟨found, response, rest, ran⟩ :
      ∃ found response rest, readUntil headerEnd kMaxNtripHeaderBytes [] reads =
        (found, response, rest) := ⟨_, _, _, rfl⟩
  have stream := readUntil_stream headerEnd [] kMaxNtripHeaderBytes reads
  have search := readUntil_found headerEnd [] kMaxNtripHeaderBytes reads
  have handshake := readUntil_handshake headerEnd_ne_nil [] reads
  rw [ran, List.nil_append] at stream
  rw [ran] at search handshake
  dsimp only at stream search
  rw [List.nil_append, List.length_nil] at handshake
  cases found with
  | true =>
      obtain ⟨other, located⟩ := Option.isSome_iff_exists.mp search.symm
      have inStream := find_append headerEnd_ne_nil located (streamOf rest)
      rw [stream] at inStream
      have bounds : headerBounds response = some (other, 4) := by rw [headerBounds, located]
      have inside := ((find_eq_some headerEnd_ne_nil).mp located).1.le headerEnd_ne_nil
      cases blank.here with
      | carriageReturns occurs =>
          have same := blank.find_headerEnd.symm.trans inStream
          cases same
          exact iff_of_true
            (noByteLost_of_parsed (onConnected_first ran) stream bounds inside ok) (.inl rfl)
      | lineFeeds occurs =>
          have later := blank.lt_of_headerEnd inStream
          have length := congrArg List.length stream
          rw [List.length_append] at length
          have fits : other + 4 ≤ response.length := inside
          refine iff_of_false ?_ ?_
          · rintro ⟨dispatched, left, connected, same⟩
            rw [onConnected_first ran] at connected
            obtain ⟨parsed, rfl⟩ := Prod.mk.inj connected
            rw [List.flatten_append, parseResponse_dispatched bounds parsed, readLoop_flatten] at same
            have lengths := congrArg List.length same
            rw [List.length_append, List.length_drop, List.length_drop] at lengths
            omega
          · rintro (wide | none)
            · cases wide
            · rw [none] at handshake
              cases handshake
  | false =>
      have stopped := readUntil_stopped headerEnd [] kMaxNtripHeaderBytes reads (by rw [ran])
      rw [ran] at stopped
      dsimp only at stopped
      have covered : position + width ≤ response.length := by
        rcases stopped with full | rfl
        · omega
        · have fits := blank.le_length
          rw [← stream] at fits
          simpa [streamOf] using fits
      have none : find headerEnd response = none := by simpa using search.symm
      cases blank.here with
      | carriageReturns occurs =>
          have located := blank.find_headerEnd
          rw [← stream] at located
          rw [find_of_append headerEnd_ne_nil located covered] at none
          cases none
      | lineFeeds occurs =>
          have located := blank.find_bareHeaderEnd
          rw [← stream] at located
          have bare := find_of_append bareHeaderEnd_ne_nil located covered
          have bounds : headerBounds response = some (position, 2) := by
            rw [headerBounds, none, bare]
            rfl
          refine iff_of_true (noByteLost_of_parsed (onConnected_second ran (by rw [bare]; rfl)) stream
            bounds covered ok) (.inr ?_)
          simpa using handshake.symm

theorem firstBlank_of_forall {stream : List UInt8} {position width : Nat}
    (here : BlankLine stream position width)
    (first : ∀ j < position, ¬ OccursAt headerEnd stream j ∧ ¬ OccursAt bareHeaderEnd stream j) :
    FirstBlank stream position width := by
  refine ⟨here, fun j lt other blank => ?_⟩
  cases blank with
  | carriageReturns occurs => exact (first j lt).1 occurs
  | lineFeeds occurs => exact (first j lt).2 occurs

/-- A caster that ends its lines with a carriage return, and a blank line within the data. -/
def plainReads : List Read :=
  [⟨ascii "ICY 200 OK" ++ headerEnd, by decide⟩, ⟨[0xD3] ++ headerEnd ++ [1], by decide⟩]

theorem noByteLost_plain : NoByteLost plainReads 14 := by
  have blank : FirstBlank (streamOf plainReads) 10 4 :=
    firstBlank_of_forall (.carriageReturns (by decide)) (by decide)
  exact (noByteLost_iff blank (by decide) ⟨"ICY 200", by decide, by decide⟩).mpr (.inl rfl)

/-- The same data after a header that ends in two line feeds. -/
def lineFeedReads : List Read :=
  [⟨ascii "ICY 200 OK" ++ bareHeaderEnd ++ [0xD3] ++ headerEnd ++ [1], by decide⟩]

theorem lineFeed_bytes_lost :
    FirstBlank (streamOf lineFeedReads) 10 2 ∧ StatusOk ((streamOf lineFeedReads).take 10) ∧
      ¬ NoByteLost lineFeedReads 12 := by
  refine ⟨firstBlank_of_forall (.lineFeeds (by decide)) (by decide),
    ⟨"ICY 200", by decide, by decide⟩, ?_⟩
  rintro ⟨dispatched, rest, connected, same⟩
  have ran : onConnected true lineFeedReads = (some [[1]], []) := by rfl
  cases ran.symm.trans connected
  exact absurd same (by decide)

end GnssParser
