import Mathlib.Tactic

/-!
# Checked execution

C++ statements whose undefined behaviour is a value: an expression either returns or names the
fault that makes it undefined. Loops are `for (i = lo; i < lo + n; ++i)`, pointers are functions
from an index to the checked byte behind it.
-/

/-- What makes a statement undefined. -/
inductive Fault where
  | outOfBounds (index size : Nat)
  | nullPointer
  | badConversion
  deriving DecidableEq, Repr

abbrev Checked := Except Fault

namespace Checked

variable {α β σ : Type} {n : Nat}

@[simp] theorem ok_bind (a : α) (f : α → Checked β) : ((.ok a : Checked α) >>= f) = f a := rfl

@[simp] theorem error_bind (e : Fault) (f : α → Checked β) :
    ((.error e : Checked α) >>= f) = .error e := rfl

@[simp] theorem pure_eq (a : α) : (pure a : Checked α) = .ok a := rfl

theorem bind_eq_ok {x : Checked α} {f : α → Checked β} {b : β} :
    x >>= f = .ok b ↔ ∃ a, x = .ok a ∧ f a = .ok b := by
  cases x with
  | ok a => simp
  | error e => simp

/-! ## Memory -/

def readAt (v : Vector α n) (i : Nat) : Checked α :=
  if h : i < n then .ok v[i] else .error (.outOfBounds i n)

def writeAt (v : Vector α n) (i : Nat) (a : α) : Checked (Vector α n) :=
  if h : i < n then .ok (v.set i a) else .error (.outOfBounds i n)

def loadAt (l : List α) (i : Nat) : Checked α :=
  match l[i]? with
  | some a => .ok a
  | none => .error (.outOfBounds i l.length)

/-- A `const uint8_t *`. -/
abbrev BytePtr := Nat → Checked UInt8

def BytePtr.add (p : BytePtr) (k : Nat) : BytePtr := fun i => p (k + i)

@[simp] theorem BytePtr.add_zero (p : BytePtr) : p.add 0 = p :=
  funext fun i => congrArg p (Nat.zero_add i)

theorem BytePtr.add_add (p : BytePtr) (j k : Nat) : (p.add j).add k = p.add (j + k) :=
  funext fun i => congrArg p (Nat.add_assoc j k i).symm

def u16 (p : BytePtr) : Checked UInt16 := do
  let b0 ← p 0
  let b1 ← p 1
  pure (b0.toUInt16 ||| (b1.toUInt16 <<< 8))

def u32 (p : BytePtr) : Checked UInt32 := do
  let lo ← u16 p
  let hi ← u16 (p.add 2)
  pure (lo.toUInt32 ||| (hi.toUInt32 <<< 16))

def u64 (p : BytePtr) : Checked UInt64 := do
  let lo ← u32 p
  let hi ← u32 (p.add 4)
  pure (lo.toUInt64 ||| (hi.toUInt64 <<< 32))

/-! The loads as functions of the bytes. -/

def u16Of (b : Nat → UInt8) : UInt16 := (b 0).toUInt16 ||| ((b 1).toUInt16 <<< 8)

def u32Of (b : Nat → UInt8) : UInt32 :=
  (u16Of b).toUInt32 ||| ((u16Of fun i => b (2 + i)).toUInt32 <<< 16)

def u64Of (b : Nat → UInt8) : UInt64 :=
  (u32Of b).toUInt64 ||| ((u32Of fun i => b (4 + i)).toUInt64 <<< 32)

theorem u16_ok {p : BytePtr} {b : Nat → UInt8} (reads : ∀ k < 2, p k = .ok (b k)) :
    u16 p = .ok (u16Of b) := by
  simp [u16, u16Of, reads]

theorem u32_ok {p : BytePtr} {b : Nat → UInt8} (reads : ∀ k < 4, p k = .ok (b k)) :
    u32 p = .ok (u32Of b) := by
  have lo : u16 p = .ok (u16Of b) := u16_ok fun k h => reads k (by omega)
  have hi : u16 (p.add 2) = .ok (u16Of fun i => b (2 + i)) :=
    u16_ok fun k h => reads (2 + k) (by omega)
  simp [u32, u32Of, lo, hi]

theorem u64_ok {p : BytePtr} {b : Nat → UInt8} (reads : ∀ k < 8, p k = .ok (b k)) :
    u64 p = .ok (u64Of b) := by
  have lo : u32 p = .ok (u32Of b) := u32_ok fun k h => reads k (by omega)
  have hi : u32 (p.add 4) = .ok (u32Of fun i => b (4 + i)) :=
    u32_ok fun k h => reads (4 + k) (by omega)
  simp [u64, u64Of, lo, hi]

/-- The object behind a possibly null pointer. -/
def deref : Option α → Checked α
  | some a => .ok a
  | none => .error .nullPointer

theorem readAt_ok {v : Vector α n} {i : Nat} (h : i < n) : readAt v i = .ok v[i] := dif_pos h

theorem writeAt_ok {v : Vector α n} {i : Nat} {a : α} (h : i < n) :
    writeAt v i a = .ok (v.set i a) := dif_pos h

theorem loadAt_getElem {l : List α} {i : Nat} (h : i < l.length) : loadAt l i = .ok l[i] := by
  rw [loadAt, List.getElem?_eq_getElem h]

theorem mem_of_loadAt {l : List α} {i : Nat} {a : α} (loaded : loadAt l i = .ok a) : a ∈ l := by
  rw [loadAt] at loaded
  split at loaded
  · next found =>
      cases loaded
      exact List.mem_of_getElem? found
  · cases loaded

theorem loadAt_ok [Inhabited α] {l : List α} {i : Nat} (h : i < l.length) :
    loadAt l i = .ok (l[i]?.getD default) := by
  simp [loadAt, h]

/-- The bytes of a list as numbers, 0 past its end. -/
def byteAt (l : List UInt8) (i : Nat) : Nat := (l.getD i 0).toNat

theorem byteAt_lt (l : List UInt8) (i : Nat) : byteAt l i < 256 := UInt8.toNat_lt _

theorem byteAt_append {l : List UInt8} (more : List UInt8) {i : Nat} (h : i < l.length) :
    byteAt (l ++ more) i = byteAt l i := by
  rw [byteAt, byteAt, List.getD_eq_getElem?_getD, List.getD_eq_getElem?_getD,
    List.getElem?_append_left h]

theorem byteAt_take (l : List UInt8) {i k : Nat} (h : i < k) : byteAt (l.take k) i = byteAt l i := by
  rw [byteAt, byteAt, List.getD_eq_getElem?_getD, List.getD_eq_getElem?_getD,
    List.getElem?_take_of_lt h]

theorem loadAt_byteAt {l : List UInt8} {i : Nat} (h : i < l.length) :
    ∃ b, loadAt l i = .ok b ∧ b.toNat = byteAt l i := by
  refine ⟨_, loadAt_ok h, ?_⟩
  rw [byteAt, List.getD_eq_getElem?_getD]
  rfl

/-! ## Loops -/

def forRange (body : Nat → σ → Checked σ) : Nat → Nat → σ → Checked σ
  | _, 0, s => pure s
  | lo, k + 1, s => do
      let s ← body lo s
      forRange body (lo + 1) k s

theorem forRange_invariant (body : Nat → σ → Checked σ) (inv : Nat → σ → Prop) (lo k : Nat) (s : σ)
    (start : inv lo s)
    (step : ∀ i s, lo ≤ i → i < lo + k → inv i s → ∃ s', body i s = .ok s' ∧ inv (i + 1) s') :
    ∃ s', forRange body lo k s = .ok s' ∧ inv (lo + k) s' := by
  induction k generalizing lo s with
  | zero => exact ⟨s, rfl, start⟩
  | succ k ih =>
      obtain ⟨s₁, ran, next⟩ := step lo s le_rfl (by omega) start
      obtain ⟨s₂, rest, last⟩ := ih (lo + 1) s₁ next fun i s lower upper => step i s (by omega) (by omega)
      refine ⟨s₂, ?_, ?_⟩
      · rw [forRange, ran, ok_bind, rest]
      · rwa [show lo + (k + 1) = lo + 1 + k by omega]

theorem forRange_keeps {body : Nat → σ → Checked σ} (inv : σ → Prop)
    (step : ∀ i s s', inv s → body i s = .ok s' → inv s') {lo k : Nat} {s s' : σ} (start : inv s)
    (ran : forRange body lo k s = .ok s') : inv s' := by
  induction k generalizing lo s with
  | zero =>
      cases ran
      exact start
  | succ k ih =>
      rw [forRange] at ran
      obtain ⟨s₁, first, rest⟩ := bind_eq_ok.mp ran
      exact ih (step lo s s₁ start first) rest

theorem forRange_pure (f : σ → σ) (lo k : Nat) (s : σ) :
    forRange (fun _ s => .ok (f s)) lo k s = .ok (f^[k] s) := by
  induction k generalizing lo s with
  | zero => rfl
  | succ k ih => rw [forRange, ok_bind, ih, Function.iterate_succ_apply]

theorem forRange_firstNonzero {check : Nat → Checked Int} {code : Nat → Int} {k : Nat}
    (computes : ∀ i < k, check i = .ok (code i)) :
    ∃ rc, forRange (fun i rc => if rc ≠ 0 then pure rc else check i) 0 k 0 = .ok rc ∧
      (rc = 0 ↔ ∀ i < k, code i = 0) := by
  obtain ⟨rc, ran, zero⟩ := forRange_invariant
    (fun i rc => if rc ≠ 0 then pure rc else check i)
    (fun i rc => rc = 0 ↔ ∀ j < i, code j = 0) 0 k 0 (by simp) <| by
      intro i rc _ upper before
      by_cases failed : rc ≠ 0
      · refine ⟨rc, if_pos failed, ?_⟩
        have earlier : ¬ ∀ j < i + 1, code j = 0 := fun all =>
          failed (before.mpr fun j h => all j (by omega))
        simp only [failed, earlier]
      · have passed := before.mp (not_not.mp failed)
        refine ⟨code i, by rw [if_neg failed, computes i (by omega)], fun h j below => ?_,
          fun all => all i (by omega)⟩
        rcases Nat.lt_succ_iff_lt_or_eq.mp below with below | rfl
        · exact passed j below
        · exact h
  rw [Nat.zero_add] at zero
  exact ⟨rc, ran, zero⟩

theorem forRange_fill {f : Nat → Checked α} {g : Nat → α} (v : Vector α n)
    (computes : ∀ i < n, f i = .ok (g i)) :
    forRange (fun i (v : Vector α n) => do let a ← f i; writeAt v i a) 0 n v =
      .ok (Vector.ofFn fun i => g i) := by
  obtain ⟨w, ran, filled⟩ := forRange_invariant
    (fun i (v : Vector α n) => do let a ← f i; writeAt v i a)
    (fun i w => ∀ j (h : j < n), j < i → w[j] = g j) 0 n v (by simp) <| by
      intro i w _ upper before
      have bound : i < n := by omega
      refine ⟨w.set i (g i), by rw [computes i bound, ok_bind, writeAt_ok bound], ?_⟩
      intro j h below
      by_cases same : i = j
      · subst same; simp
      · simpa [Vector.getElem_set, same] using before j h (by omega)
  rw [ran]
  congr 1
  ext j h
  simpa using filled j h (by omega)

/-! ## Lists -/

theorem exists_forall₂ (relation : α → β → Prop) (list : List α)
    (all : ∀ a ∈ list, ∃ b, relation a b) : ∃ others, List.Forall₂ relation list others := by
  induction list with
  | nil => exact ⟨[], .nil⟩
  | cons a list ih =>
      obtain ⟨b, first⟩ := all a List.mem_cons_self
      obtain ⟨others, rest⟩ := ih fun x mem => all x (List.mem_cons_of_mem _ mem)
      exact ⟨b :: others, .cons first rest⟩

theorem mapM_of_forall₂ {f : α → Checked β} {list : List α} {others : List β}
    (each : List.Forall₂ (fun a b => f a = .ok b) list others) : list.mapM f = .ok others := by
  induction each with
  | nil => rfl
  | cons first _ ih => rw [List.mapM_cons, first, ok_bind, ih, ok_bind, pure_eq]

theorem exists_right {relation : α → β → Prop} {list : List α} {others : List β}
    (related : List.Forall₂ relation list others) {a : α} (mem : a ∈ list) :
    ∃ b ∈ others, relation a b := by
  induction related with
  | nil => cases mem
  | cons first _ ih =>
      rcases List.mem_cons.mp mem with rfl | mem
      · exact ⟨_, List.mem_cons_self, first⟩
      · obtain ⟨b, other, found⟩ := ih mem
        exact ⟨b, List.mem_cons_of_mem _ other, found⟩

theorem exists_left {relation : α → β → Prop} {list : List α} {others : List β}
    (related : List.Forall₂ relation list others) {b : β} (mem : b ∈ others) :
    ∃ a ∈ list, relation a b :=
  exists_right related.flip mem

/-! ## Accesses in bounds -/

/-- No access of the statement is out of bounds, and what it returns satisfies `post`. -/
def InBounds (post : α → Prop) : Checked α → Prop
  | .ok a => post a
  | .error (.outOfBounds _ _) => False
  | .error _ => True

@[simp] theorem inBounds_ok {post : α → Prop} {a : α} : InBounds post (.ok a) ↔ post a := Iff.rfl

theorem InBounds.mono {post post' : α → Prop} {x : Checked α} (h : InBounds post x)
    (weaker : ∀ a, post a → post' a) : InBounds post' x := by
  cases x with
  | ok a => exact weaker a h
  | error e => cases e <;> simp_all [InBounds]

theorem InBounds.bind {post : α → Prop} {post' : β → Prop} {x : Checked α} {f : α → Checked β}
    (h : InBounds post x) (rest : ∀ a, post a → InBounds post' (f a)) :
    InBounds post' (x >>= f) := by
  cases x with
  | ok a => exact rest a h
  | error e => cases e <;> simp_all [InBounds]

theorem InBounds.forRange {body : Nat → σ → Checked σ} (inv : Nat → σ → Prop) {lo k : Nat} {s : σ}
    (start : inv lo s)
    (step : ∀ i s, lo ≤ i → i < lo + k → inv i s → InBounds (inv (i + 1)) (body i s)) :
    InBounds (inv (lo + k)) (forRange body lo k s) := by
  induction k generalizing lo s with
  | zero => exact start
  | succ k ih =>
      refine (step lo s le_rfl (by omega) start).bind fun s₁ next => ?_
      rw [show lo + (k + 1) = lo + 1 + k by omega]
      exact ih next fun i s lower upper => step i s (by omega) (by omega)

theorem InBounds.of_ok {post : α → Prop} {x : Checked α} (h : ∃ a, x = .ok a ∧ post a) :
    InBounds post x := by
  obtain ⟨a, rfl, ha⟩ := h
  exact ha

theorem InBounds.ite {c : Prop} [Decidable c] {post : α → Prop} {x y : Checked α}
    (yes : c → InBounds post x) (no : ¬ c → InBounds post y) :
    InBounds post (if c then x else y) := by
  by_cases h : c
  · rw [if_pos h]; exact yes h
  · rw [if_neg h]; exact no h

end Checked
