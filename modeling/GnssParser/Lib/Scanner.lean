import Mathlib.Logic.Relation
import Mathlib.Tactic

/-!
# Incremental scanners

A scanner looks at the unread part of a stream and drops one element, waits for more, or takes a
frame. A decision other than waiting does not change when more elements arrive, so the frames of a
stream do not depend on the pieces it arrives in.
-/

inductive Verdict where
  | skip
  | wait
  | emit (size : Nat)
  deriving DecidableEq, Repr

structure Scanner (α : Type) where
  look : List α → Verdict
  look_nil : look [] = .wait
  emit_pos : ∀ l k, look l = .emit k → 0 < k
  emit_le : ∀ l k, look l = .emit k → k ≤ l.length
  stable : ∀ l more, look l ≠ .wait → look (l ++ more) = look l

/-- A run of elements and its position in the stream. -/
structure Frame (α : Type) where
  start : Nat
  data : List α
  deriving DecidableEq, Repr

namespace Scanner

variable {α : Type} (sc : Scanner α) {l : List α}

theorem pos_of_skip (skip : sc.look l = .skip) : 0 < l.length := by
  apply List.length_pos_iff.mpr
  rintro rfl
  rw [sc.look_nil] at skip
  cases skip

theorem pos_of_emit {k : Nat} (emit : sc.look l = .emit k) : 0 < l.length :=
  (sc.emit_pos l k emit).trans_le (sc.emit_le l k emit)

/-! ## Scanning -/

/-- The frames of `l`, whose first element has position `start`, and the unscanned suffix. -/
def scan (start : Nat) (l : List α) : List (Frame α) × List α :=
  match verdict : sc.look l with
  | .wait => ([], l)
  | .skip => scan (start + 1) (l.drop 1)
  | .emit k =>
      let next := scan (start + k) (l.drop k)
      (⟨start, l.take k⟩ :: next.1, next.2)
termination_by l.length
decreasing_by
  · have := sc.pos_of_skip verdict
    rw [List.length_drop]
    omega
  · have := sc.emit_pos l k verdict
    have := sc.pos_of_emit verdict
    rw [List.length_drop]
    omega

theorem scan_wait {start : Nat} (wait : sc.look l = .wait) : sc.scan start l = ([], l) := by
  rw [scan]
  split <;> simp_all

theorem scan_skip {start : Nat} (skip : sc.look l = .skip) :
    sc.scan start l = sc.scan (start + 1) (l.drop 1) := by
  rw [scan]
  split <;> simp_all

theorem scan_emit {start k : Nat} (emit : sc.look l = .emit k) :
    sc.scan start l =
      (⟨start, l.take k⟩ :: (sc.scan (start + k) (l.drop k)).1,
        (sc.scan (start + k) (l.drop k)).2) := by
  rw [scan]
  split <;> simp_all

theorem scan_rest (start : Nat) (l : List α) :
    (sc.scan start l).2 <:+ l ∧ sc.look (sc.scan start l).2 = .wait := by
  induction start, l using scan.induct sc with
  | case1 start l wait => rw [sc.scan_wait wait]; exact ⟨List.suffix_refl l, wait⟩
  | case2 start l skip ih =>
      rw [sc.scan_skip skip]
      exact ⟨ih.1.trans (List.drop_suffix 1 l), ih.2⟩
  | case3 start l k emit ih =>
      rw [sc.scan_emit emit]
      exact ⟨ih.1.trans (List.drop_suffix k l), ih.2⟩

/-- Scanning more of the stream continues at the suffix left. -/
theorem scan_append (start : Nat) (l more : List α) :
    sc.scan start (l ++ more) =
      let left := (sc.scan start l).2
      let next := sc.scan (start + (l.length - left.length)) (left ++ more)
      ((sc.scan start l).1 ++ next.1, next.2) := by
  induction start, l using scan.induct sc with
  | case1 start l wait => simp [sc.scan_wait wait]
  | case2 start l skip ih =>
      have pos := sc.pos_of_skip skip
      have same : sc.look (l ++ more) = .skip := by rw [sc.stable l more (by simp [skip]), skip]
      have shorter := (sc.scan_rest (start + 1) (l.drop 1)).1.length_le
      rw [List.length_drop] at shorter
      rw [sc.scan_skip same, sc.scan_skip skip, List.drop_append_of_le_length pos, ih]
      simp only [List.length_drop]
      rw [show ∀ r, r ≤ l.length - 1 → start + 1 + (l.length - 1 - r) = start + (l.length - r) by
        omega]
      exact shorter
  | case3 start l k emit ih =>
      have pos := sc.emit_pos l k emit
      have le := sc.emit_le l k emit
      have same : sc.look (l ++ more) = .emit k := by rw [sc.stable l more (by simp [emit]), emit]
      have shorter := (sc.scan_rest (start + k) (l.drop k)).1.length_le
      rw [List.length_drop] at shorter
      rw [sc.scan_emit same, sc.scan_emit emit, List.drop_append_of_le_length le,
        List.take_append_of_le_length le, ih]
      simp only [List.length_drop, List.cons_append]
      rw [show ∀ r, r ≤ l.length - k → start + k + (l.length - k - r) = start + (l.length - r) by
        omega]
      exact shorter

theorem scan_data (start start' : Nat) (l : List α) :
    (sc.scan start l).1.map Frame.data = (sc.scan start' l).1.map Frame.data ∧
      (sc.scan start l).2 = (sc.scan start' l).2 := by
  induction start, l using scan.induct sc generalizing start' with
  | case1 start l wait => simp [sc.scan_wait wait]
  | case2 start l skip ih => rw [sc.scan_skip skip, sc.scan_skip skip]; exact ih _
  | case3 start l k emit ih =>
      rw [sc.scan_emit emit, sc.scan_emit emit]
      exact ⟨by simp [(ih (start' + k)).1], (ih _).2⟩

/-! ## Positions -/

/-- One decision at position `p` of the stream `l`. -/
def Advances (l : List α) (p q : Nat) : Prop :=
  (sc.look (l.drop p) = .skip ∧ q = p + 1) ∨ ∃ k, sc.look (l.drop p) = .emit k ∧ q = p + k

/-- The positions at which a scan of `l` takes a decision. -/
def Reaches (l : List α) (p : Nat) : Prop := Relation.ReflTransGen (sc.Advances l) 0 p

theorem Advances.lt {p q : Nat} (h : sc.Advances l p q) : p < q := by
  rcases h with ⟨_, rfl⟩ | ⟨k, emit, rfl⟩
  · omega
  · have := sc.emit_pos _ k emit
    omega

theorem advances_unique {p q r : Nat} (h : sc.Advances l p q) (h' : sc.Advances l p r) : q = r := by
  rcases h with ⟨skip, rfl⟩ | ⟨k, emit, rfl⟩ <;> rcases h' with ⟨skip', rfl⟩ | ⟨k', emit', rfl⟩
  · rfl
  · rw [skip] at emit'; cases emit'
  · rw [emit] at skip'; cases skip'
  · rw [emit] at emit'; cases emit'; rfl

theorem le_of_reflTransGen {p q : Nat} (h : Relation.ReflTransGen (sc.Advances l) p q) : p ≤ q := by
  induction h with
  | refl => exact le_rfl
  | tail _ step ih => exact ih.trans (Advances.lt sc step).le

theorem Reaches.passes {p q : Nat} (hp : sc.Reaches l p) (hq : sc.Reaches l q) (lt : p < q) :
    ∃ r, sc.Advances l p r ∧ r ≤ q := by
  have unique : Relator.RightUnique (sc.Advances l) := fun _ _ _ h h' => sc.advances_unique h h'
  rcases Relation.ReflTransGen.total_of_right_unique unique hp hq with path | path
  · rcases path.cases_head with rfl | ⟨r, step, rest⟩
    · omega
    · exact ⟨r, step, sc.le_of_reflTransGen rest⟩
  · have := sc.le_of_reflTransGen path
    omega

theorem reaches_of_clear {q : Nat}
    (clear : ∀ p, p < q → sc.Reaches l p → ∃ r, sc.Advances l p r ∧ r ≤ q) : sc.Reaches l q := by
  suffices from_below : ∀ d p, q - p = d → p ≤ q → sc.Reaches l p → sc.Reaches l q from
    from_below q 0 rfl q.zero_le .refl
  intro d
  induction d using Nat.strong_induction_on with
  | h d ih =>
      intro p distance le reached
      rcases le.eq_or_lt with rfl | lt
      · exact reached
      · obtain ⟨r, step, short⟩ := clear p lt reached
        have := Advances.lt sc step
        exact ih (q - r) (by omega) r rfl short (reached.tail step)

theorem Reaches.scan_eq {p : Nat} (reached : sc.Reaches l p) :
    ∃ before, sc.scan 0 l =
      (before ++ (sc.scan p (l.drop p)).1, (sc.scan p (l.drop p)).2) := by
  induction reached with
  | refl => exact ⟨[], by simp⟩
  | @tail p q _ step ih =>
      obtain ⟨before, scanned⟩ := ih
      rcases step with ⟨skip, rfl⟩ | ⟨k, emit, rfl⟩
      · refine ⟨before, ?_⟩
        rw [scanned, sc.scan_skip skip, List.drop_drop]
      · refine ⟨before ++ [⟨p, (l.drop p).take k⟩], ?_⟩
        rw [scanned, sc.scan_emit emit, List.drop_drop]
        simp

theorem mem_scan {p : Nat} (reached : sc.Reaches l p) {f : Frame α}
    (mem : f ∈ (sc.scan p (l.drop p)).1) :
    sc.Reaches l f.start ∧ ∃ k, sc.look (l.drop f.start) = .emit k ∧
      f.data = (l.drop f.start).take k := by
  generalize tail : l.drop p = rest at mem
  induction p, rest using scan.induct sc with
  | case1 p rest wait => simp [sc.scan_wait wait] at mem
  | case2 p rest skip ih =>
      subst tail
      rw [sc.scan_skip skip] at mem
      exact ih (reached.tail (.inl ⟨skip, rfl⟩)) (by rw [List.drop_drop]) mem
  | case3 p rest k emit ih =>
      subst tail
      rw [sc.scan_emit emit, List.mem_cons] at mem
      rcases mem with rfl | mem
      · exact ⟨reached, k, emit, rfl⟩
      · exact ih (reached.tail (.inr ⟨k, emit, rfl⟩)) (by rw [List.drop_drop]) mem

/-- The frames of a stream are those taken at reached positions. -/
theorem mem_scan_iff {f : Frame α} :
    f ∈ (sc.scan 0 l).1 ↔ sc.Reaches l f.start ∧
      ∃ k, sc.look (l.drop f.start) = .emit k ∧ f.data = (l.drop f.start).take k := by
  constructor
  · intro mem
    exact sc.mem_scan (p := 0) .refl mem
  · rintro ⟨reached, k, emit, data⟩
    obtain ⟨before, scanned⟩ := Reaches.scan_eq sc reached
    rw [scanned, sc.scan_emit emit]
    apply List.mem_append_right
    rw [← data]
    exact List.mem_cons_self

theorem Reaches.le {p : Nat} (reached : sc.Reaches l p) : p ≤ l.length := by
  induction reached with
  | refl => exact Nat.zero_le _
  | @tail p q _ step _ =>
      rcases step with ⟨skip, rfl⟩ | ⟨k, emit, rfl⟩
      · have := sc.pos_of_skip skip
        rw [List.length_drop] at this
        omega
      · have le := sc.emit_le _ k emit
        have pos := sc.pos_of_emit emit
        rw [List.length_drop] at le pos
        omega

theorem Reaches.stops {p : Nat} (reached : sc.Reaches l p) (wait : sc.look (l.drop p) = .wait) :
    (sc.scan 0 l).2 = l.drop p := by
  obtain ⟨before, scanned⟩ := Reaches.scan_eq sc reached
  rw [scanned, sc.scan_wait wait]

theorem reaches_rest {p : Nat} (reached : sc.Reaches l p) :
    ∃ q, sc.Reaches l q ∧ (sc.scan p (l.drop p)).2 = l.drop q := by
  generalize tail : l.drop p = rest
  induction p, rest using scan.induct sc with
  | case1 p rest wait =>
      subst tail
      exact ⟨p, reached, by rw [sc.scan_wait wait]⟩
  | case2 p rest skip ih =>
      subst tail
      rw [sc.scan_skip skip]
      exact ih (reached.tail (.inl ⟨skip, rfl⟩)) (by rw [List.drop_drop])
  | case3 p rest k emit ih =>
      subst tail
      rw [sc.scan_emit emit]
      exact ih (reached.tail (.inr ⟨k, emit, rfl⟩)) (by rw [List.drop_drop])

theorem scan_congr {sc sc' : Scanner α} {p : Nat} (reached : sc.Reaches l p)
    (same : ∀ q, sc.Reaches l q → sc.look (l.drop q) = sc'.look (l.drop q)) :
    sc.scan p (l.drop p) = sc'.scan p (l.drop p) := by
  have here := same p reached
  generalize tail : l.drop p = rest at here
  induction p, rest using scan.induct sc with
  | case1 p rest wait => rw [sc.scan_wait wait, sc'.scan_wait (here ▸ wait)]
  | case2 p rest skip ih =>
      subst tail
      have next : sc.Reaches l (p + 1) := reached.tail (.inl ⟨skip, rfl⟩)
      rw [sc.scan_skip skip, sc'.scan_skip (here ▸ skip)]
      exact ih next (by rw [List.drop_drop]) (by rw [List.drop_drop, same _ next])
  | case3 p rest k emit ih =>
      subst tail
      have next : sc.Reaches l (p + k) := reached.tail (.inr ⟨k, emit, rfl⟩)
      rw [sc.scan_emit emit, sc'.scan_emit (here ▸ emit),
        ih next (by rw [List.drop_drop]) (by rw [List.drop_drop, same _ next])]

end Scanner
