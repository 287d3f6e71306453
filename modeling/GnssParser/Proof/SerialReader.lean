import GnssParser.Lib.Scanner
import GnssParser.Model.SerialReader
import Mathlib.Data.List.GetD

/-!
# The serial reader

Reads of the port as overlays of the buffer, and the rounds of `read_loop` as decisions of a scanner
on the unread stream.
-/

namespace GnssParser
open Checked

variable {n : Nat} {ι : Type}

/-! ## Stores -/

def overlay (buf : Vector UInt8 n) (off : Nat) (bytes : List UInt8) : Vector UInt8 n :=
  Vector.ofFn fun i => if off ≤ i ∧ i < off + bytes.length then bytes.getD (i - off) 0 else buf[i]

theorem getElem_overlay (buf : Vector UInt8 n) (off : Nat) (bytes : List UInt8) {i : Nat}
    (h : i < n) :
    (overlay buf off bytes)[i] =
      if off ≤ i ∧ i < off + bytes.length then bytes.getD (i - off) 0 else buf[i] := by
  simp [overlay]

theorem overlay_nil (buf : Vector UInt8 n) (off : Nat) : overlay buf off [] = buf := by
  ext i h
  rw [getElem_overlay, if_neg (by simp)]

theorem overlay_append (buf : Vector UInt8 n) (off : Nat) (bytes more : List UInt8) :
    overlay (overlay buf off bytes) (off + bytes.length) more = overlay buf off (bytes ++ more) := by
  ext i h
  rw [getElem_overlay, getElem_overlay, getElem_overlay, List.length_append]
  by_cases late : off + bytes.length ≤ i
  · rw [if_neg (show ¬ (off ≤ i ∧ i < off + bytes.length) by omega),
      List.getD_append_right _ _ _ _ (by omega), Nat.sub_sub]
    simp only [late, true_and, show off ≤ i by omega, Nat.add_assoc]
  · rw [if_neg (show ¬ (off + bytes.length ≤ i ∧ i < off + bytes.length + more.length) by omega)]
    by_cases early : off ≤ i
    · rw [if_pos (by omega), if_pos (by omega), List.getD_append _ _ _ _ (by omega)]
    · rw [if_neg (by omega), if_neg (by omega)]

theorem storeBytes_ok (buf : Vector UInt8 n) {off : Nat} {bytes : List UInt8}
    (fits : off + bytes.length ≤ n) : storeBytes buf off bytes = .ok (overlay buf off bytes) := by
  induction bytes generalizing buf off with
  | nil => rw [overlay_nil]; rfl
  | cons b bytes ih =>
      rw [List.length_cons] at fits
      have first : buf.set off b (by omega) = overlay buf off [b] := by
        ext i h
        rw [getElem_overlay, Vector.getElem_set]
        by_cases same : off = i
        · subst same; simp
        · rw [if_neg same, if_neg (by simp; omega)]
      rw [storeBytes, writeAt_ok (by omega), ok_bind, ih _ (by omega), first]
      exact congrArg _ (overlay_append buf off [b] bytes)

theorem storeBytes_overflow (buf : Vector UInt8 n) {off : Nat} {bytes : List UInt8} (start : off ≤ n)
    (past : n < off + bytes.length) : storeBytes buf off bytes = .error (.outOfBounds n n) := by
  induction bytes generalizing buf off with
  | nil => simp at past; omega
  | cons b bytes ih =>
      rw [List.length_cons] at past
      rcases start.lt_or_eq with below | rfl
      · rw [storeBytes, writeAt_ok below, ok_bind, ih _ below (by omega)]
      · rw [storeBytes, writeAt, dif_neg (lt_irrefl _)]
        rfl

/-! ## Reads -/

/-- However the bytes arrive, a read that fits stores a run of them. -/
theorem readExactFrom_ok (off len : Nat) (pieces : List (List UInt8)) (total position : Nat)
    (buf : Vector UInt8 n) (within : total ≤ len)
    (fits : off + total + min (len - total) pieces.flatten.length ≤ n) :
    ∃ pieces', readExactFrom off len pieces total position buf =
        .ok (decide (len - total ≤ pieces.flatten.length),
          ⟨pieces', position + min (len - total) pieces.flatten.length,
            overlay buf (off + total) (pieces.flatten.take (len - total))⟩) ∧
      pieces'.flatten = pieces.flatten.drop (len - total) := by
  induction pieces generalizing total position buf with
  | nil =>
      refine ⟨[], ?_, by simp⟩
      have filled : total = len ↔ len - total ≤ 0 := by omega
      simp [readExactFrom, overlay_nil, filled]
  | cons piece pieces ih =>
      rw [List.flatten_cons, List.length_append] at fits
      rw [readExactFrom]
      by_cases more : total < len
      swap
      · have done : len - total = 0 := by omega
        refine ⟨piece :: pieces, ?_, by simp [done]⟩
        have filled : total = len := by omega
        simp [filled, overlay_nil]
      have stored : off + total + (piece.take (len - total)).length ≤ n := by
        rw [List.length_take]
        omega
      rw [if_pos more]
      simp only [storeBytes_ok buf stored, ok_bind, List.length_take]
      by_cases rest : len - total < piece.length
      · have part : min (len - total) piece.length = len - total := by omega
        refine ⟨piece.drop (len - total) :: pieces, ?_, ?_⟩
        · rw [if_pos (by omega), part, List.flatten_cons, List.length_append,
            List.take_append_of_le_length rest.le]
          have filled : total + (len - total) = len := by omega
          have whole : len - total ≤ piece.length + pieces.flatten.length := by omega
          simp only [filled, whole, Nat.min_eq_left whole, decide_true, pure_eq]
        · rw [List.flatten_cons, List.flatten_cons, List.drop_append_of_le_length rest.le]
      · have all : min (len - total) piece.length = piece.length := by omega
        obtain ⟨pieces', ran, left⟩ := ih (total + piece.length)
          (position + piece.length) (overlay buf (off + total) (piece.take (len - total))) (by omega)
          (by omega)
        have remaining : len - (total + piece.length) = len - total - piece.length := by omega
        refine ⟨pieces', ?_, ?_⟩
        · rw [if_neg (by omega), all, ran, List.take_of_length_le (by omega), ← Nat.add_assoc,
            overlay_append, remaining, List.flatten_cons, List.length_append]
          congr 2
          · rw [decide_eq_decide]
            omega
          · congr 1
            · omega
            · rw [List.take_append, List.take_of_length_le (i := len - total) (by omega)]
        · rw [left, remaining, List.flatten_cons, List.drop_append,
            List.drop_of_length_le (i := len - total) (by omega), List.nil_append]

theorem readExactFrom_overflow (off len : Nat) (pieces : List (List UInt8)) (total position : Nat)
    (buf : Vector UInt8 n) (start : off + total ≤ n)
    (past : n < off + total + min (len - total) pieces.flatten.length) :
    readExactFrom off len pieces total position buf = .error (.outOfBounds n n) := by
  induction pieces generalizing total position buf with
  | nil => simp at past; omega
  | cons piece pieces ih =>
      rw [List.flatten_cons, List.length_append] at past
      rw [readExactFrom, if_pos (by omega)]
      by_cases fits : off + total + (piece.take (len - total)).length ≤ n
      · rw [List.length_take] at fits
        have all : min (len - total) piece.length = piece.length := by omega
        simp only [storeBytes_ok buf (by rwa [List.length_take]), ok_bind, List.length_take, all,
          lt_irrefl, if_false]
        exact ih _ _ _ (by omega) (by omega)
      · have stores := storeBytes_overflow buf start
          (show n < off + total + (piece.take (len - total)).length by omega)
        simp only [stores, error_bind]

/-! ## Windows -/

def Shows (buf : Vector UInt8 n) (k : Nat) (l : List UInt8) : Prop :=
  ∀ i (h : i < n), i < k → buf[i] = l.getD i 0

theorem shows_overlay {buf : Vector UInt8 n} {k : Nat} {l : List UInt8} (before : Shows buf k l)
    (m : Nat) : Shows (overlay buf k ((l.drop k).take m)) (min (k + m) l.length) l := by
  intro i h below
  rw [getElem_overlay, List.length_take, List.length_drop]
  by_cases late : k ≤ i
  · rw [if_pos (by omega), List.getD_eq_getElem?_getD, List.getElem?_take_of_lt (by omega),
      List.getElem?_drop, Nat.add_sub_cancel' late, List.getD_eq_getElem?_getD]
  · rw [if_neg (by omega)]
    exact before i h (by omega)

theorem Shows.mono {buf : Vector UInt8 n} {k m : Nat} {l : List UInt8} (shows : Shows buf k l)
    (le : m ≤ k) : Shows buf m l := fun i h below => shows i h (by omega)

theorem Shows.take {buf : Vector UInt8 n} {k : Nat} {l : List UInt8} (shows : Shows buf k l)
    (fits : k ≤ n) (within : k ≤ l.length) : buf.toList.take k = l.take k := by
  apply List.ext_getElem
  · simp [fits, within]
  · intro i h h'
    have below : i < k := by simp at h; omega
    have value := shows i (by omega) below
    rw [List.getD_eq_getElem _ _ (by omega)] at value
    simpa using value

def Preamble (l : List UInt8) : Prop := l.getD 0 0 = 0xB5 ∧ l.getD 1 0 = 0x62

instance (l : List UInt8) : Decidable (Preamble l) := by
  unfold Preamble
  infer_instance

theorem getD_drop (l : List UInt8) (k i : Nat) : (l.drop k).getD i 0 = l.getD (k + i) 0 := by
  rw [List.getD_eq_getElem?_getD, List.getElem?_drop, List.getD_eq_getElem?_getD]

theorem preamIdx_ok {buf : Vector UInt8 n} {m : Nat} {l : List UInt8} (shows : Shows buf m l)
    (fits : m ≤ n) (i k : Nat) (inside : i + k < m) :
    ∃ j, preamIdx buf i k = .ok j ∧ i ≤ j ∧ j ≤ i + k ∧
      (∀ t, i ≤ t → t < j → ¬ Preamble (l.drop t)) ∧ (j < i + k → Preamble (l.drop j)) := by
  induction k generalizing i with
  | zero => exact ⟨i, rfl, le_rfl, le_rfl, fun t _ _ => by omega, fun h => by omega⟩
  | succ k ih =>
      have first : buf[i] = (l.drop i).getD 0 0 := by
        rw [getD_drop]
        exact shows i (by omega) (by omega)
      have second : buf[i + 1] = (l.drop i).getD 1 0 := by
        rw [getD_drop]
        exact shows (i + 1) (by omega) (by omega)
      rw [preamIdx, readAt_ok (show i < n by omega), ok_bind, readAt_ok (show i + 1 < n by omega),
        ok_bind, first, second]
      by_cases sync : Preamble (l.drop i)
      · exact ⟨i, by rw [if_pos sync.1, if_pos sync.2]; rfl, le_rfl, by omega,
          fun t _ _ => by omega, fun _ => sync⟩
      · obtain ⟨j, found, lower, upper, none, last⟩ := ih (i + 1) (by omega)
        refine ⟨j, ?_, by omega, by omega, ?_, fun h => last (by omega)⟩
        · by_cases b5 : (l.drop i).getD 0 0 = 0xB5
          · rw [if_pos b5, if_neg fun b62 => sync ⟨b5, b62⟩, found]
          · rw [if_neg b5, found]
        · intro t from_i below
          rcases from_i.eq_or_lt with rfl | later
          · exact sync
          · exact none t later below

theorem moveDown_ok {buf : Vector UInt8 n} {m k : Nat} {l : List UInt8} (shows : Shows buf m l)
    (fits : m ≤ n) (pos : 0 < k) (within : k ≤ m) :
    ∃ buf', moveDown buf k (m - k) = .ok buf' ∧ Shows buf' (m - k) (l.drop k) := by
  obtain ⟨buf', ran, moved, _⟩ := forRange_invariant
    (fun i (buf : Vector UInt8 n) => do
      let b ← readAt buf (k + i)
      writeAt buf i b)
    (fun i (now : Vector UInt8 n) => Shows now i (l.drop k) ∧
      ∀ j (h : j < n), i ≤ j → now[j] = buf[j]) 0 (m - k) buf ⟨fun _ _ h => by omega, fun _ _ _ => rfl⟩ <| by
      intro i now _ upper ⟨moved, still⟩
      have source : k + i < n := by omega
      have target : i < n := by omega
      refine ⟨now.set i now[k + i], by rw [readAt_ok source, ok_bind, writeAt_ok target], ?_, ?_⟩
      · intro j h below
        rw [Vector.getElem_set]
        by_cases same : i = j
        · subst same
          rw [if_pos rfl, still _ source (by omega), shows _ source (by omega), getD_drop]
        · rw [if_neg same]
          exact moved j h (by omega)
      · intro j h later
        rw [Vector.getElem_set, if_neg (by omega)]
        exact still j h (by omega)
  rw [Nat.zero_add] at moved
  exact ⟨buf', ran, moved⟩

/-! ## The scanner -/

def ubxSize (l : List UInt8) : Nat := 8 + (byteAt l 4 + 256 * byteAt l 5)

/-- Messages are taken at the first preamble, whatever they hold, when their size is admitted. -/
def ubxLook (admits : Nat → Bool) (l : List UInt8) : Verdict :=
  if l.length < 2 then .wait
  else if ¬ Preamble l then .skip
  else if 6 ≤ l.length ∧ ubxSize l ≤ l.length ∧ admits (ubxSize l) then .emit (ubxSize l)
  else .wait

theorem ubxLook_emit {admits : Nat → Bool} {l : List UInt8} {k : Nat} :
    ubxLook admits l = .emit k ↔
      Preamble l ∧ k = ubxSize l ∧ k ≤ l.length ∧ admits k = true := by
  have large : 8 ≤ ubxSize l := by rw [ubxSize]; omega
  constructor
  · intro emit
    simp only [ubxLook] at emit
    grind
  · rintro ⟨sync, rfl, whole, admitted⟩
    rw [ubxLook, if_neg (by omega), if_neg (not_not.mpr sync), if_pos ⟨by omega, whole, admitted⟩]

theorem ubxLook_skip {admits : Nat → Bool} {l : List UInt8} :
    ubxLook admits l = .skip ↔ 2 ≤ l.length ∧ ¬ Preamble l := by
  simp only [ubxLook]
  grind

theorem preamble_append {l : List UInt8} (more : List UInt8) (long : 2 ≤ l.length) :
    Preamble (l ++ more) ↔ Preamble l := by
  rw [Preamble, Preamble, List.getD_append _ _ _ _ (by omega), List.getD_append _ _ _ _ (by omega)]

theorem ubxSize_append {l : List UInt8} (more : List UInt8) (long : 6 ≤ l.length) :
    ubxSize (l ++ more) = ubxSize l := by
  rw [ubxSize, ubxSize, byteAt_append more (by omega), byteAt_append more (by omega)]

theorem ubxLook_stable (admits : Nat → Bool) (l more : List UInt8)
    (decided : ubxLook admits l ≠ .wait) : ubxLook admits (l ++ more) = ubxLook admits l := by
  cases verdict : ubxLook admits l with
  | wait => exact absurd verdict decided
  | skip =>
      obtain ⟨long, sync⟩ := ubxLook_skip.mp verdict
      rw [ubxLook_skip, List.length_append, preamble_append more long]
      exact ⟨by omega, sync⟩
  | emit k =>
      obtain ⟨sync, rfl, whole, admitted⟩ := ubxLook_emit.mp verdict
      have large : 8 ≤ ubxSize l := by rw [ubxSize]; omega
      rw [ubxLook_emit, List.length_append, preamble_append more (by omega),
        ubxSize_append more (by omega)]
      exact ⟨sync, rfl, by omega, admitted⟩

def ubxScanner (admits : Nat → Bool) : Scanner UInt8 where
  look := ubxLook admits
  look_nil := rfl
  emit_pos l k emit := by
    obtain ⟨_, rfl, _⟩ := ubxLook_emit.mp emit
    rw [ubxSize]
    omega
  emit_le l k emit := (ubxLook_emit.mp emit).2.2.1
  stable := ubxLook_stable admits

section Scanning

variable {admits : Nat → Bool}

theorem ubxScanner_emit {l : List UInt8} {k : Nat} :
    (ubxScanner admits).look l = .emit k ↔
      Preamble l ∧ k = ubxSize l ∧ k ≤ l.length ∧ admits k = true := ubxLook_emit

theorem ubxScanner_skip {l : List UInt8} :
    (ubxScanner admits).look l = .skip ↔ 2 ≤ l.length ∧ ¬ Preamble l := ubxLook_skip

variable (admits) in
theorem scan_skips (p : Nat) {l : List UInt8} {k : Nat} (long : k + 1 ≤ l.length)
    (none : ∀ t < k, ¬ Preamble (l.drop t)) :
    (ubxScanner admits).scan p l = (ubxScanner admits).scan (p + k) (l.drop k) := by
  induction k generalizing p l with
  | zero => rfl
  | succ k ih =>
      have skip : (ubxScanner admits).look l = .skip :=
        ubxScanner_skip.mpr ⟨by omega, none 0 (by omega)⟩
      rw [Scanner.scan_skip _ skip, ih (p + 1) (by rw [List.length_drop]; omega) (by
        intro t below
        rw [List.drop_drop]
        exact none _ (by omega)), List.drop_drop, Nat.add_comm 1 k, Nat.add_right_comm, Nat.add_assoc]

variable (admits) in
theorem scan_short (p : Nat) {l : List UInt8} (short : l.length < 6) :
    ((ubxScanner admits).scan p l).1 = [] ∧ ((ubxScanner admits).scan p l).2.length < 6 := by
  have left := ((ubxScanner admits).scan_rest p l).1.length_le
  refine ⟨?_, by omega⟩
  by_contra some
  obtain ⟨f, mem⟩ := List.exists_mem_of_ne_nil _ some
  have size : ∀ p l, l.length < 6 → f ∈ ((ubxScanner admits).scan p l).1 → False := by
    intro p l
    induction p, l using Scanner.scan.induct (ubxScanner admits) with
    | case1 p l wait => simp [Scanner.scan_wait _ wait]
    | case2 p l skip ih =>
        intro short mem
        rw [Scanner.scan_skip _ skip] at mem
        exact ih (by rw [List.length_drop]; omega) mem
    | case3 p l k emit ih =>
        intro short _
        obtain ⟨_, size, whole, _⟩ := ubxScanner_emit.mp emit
        rw [ubxSize] at size
        omega
  exact size p l short mem

end Scanning

end GnssParser
