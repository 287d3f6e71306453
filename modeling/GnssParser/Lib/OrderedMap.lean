import Mathlib.Tactic

/-!
# Ordered maps

`std::map`: entries in the order of their keys.
-/

structure OrderedMap (κ ν : Type) [LinearOrder κ] where
  entries : List (κ × ν)
  sorted : entries.Pairwise fun a b => a.1 < b.1

namespace OrderedMap

variable {κ ν : Type} [LinearOrder κ]

/-! ## Operations -/

def empty : OrderedMap κ ν := ⟨[], .nil⟩

def get? (m : OrderedMap κ ν) (k : κ) : Option ν := (m.entries.find? fun e => e.1 = k).map Prod.snd

def place (k : κ) (v : ν) : List (κ × ν) → List (κ × ν)
  | [] => [(k, v)]
  | e :: rest =>
      if k < e.1 then (k, v) :: e :: rest
      else if k = e.1 then (k, v) :: rest
      else e :: place k v rest

theorem mem_place {k : κ} {v : ν} {list : List (κ × ν)} {e : κ × ν} (mem : e ∈ place k v list) :
    e = (k, v) ∨ e ∈ list := by
  induction list with
  | nil => exact .inl (List.mem_singleton.mp mem)
  | cons first rest ih =>
      rw [place] at mem
      split_ifs at mem with before same
      · exact List.mem_cons.mp mem
      · exact (List.mem_cons.mp mem).imp_right (List.mem_cons_of_mem _)
      · rcases List.mem_cons.mp mem with rfl | mem
        · exact .inr List.mem_cons_self
        · exact (ih mem).imp_right (List.mem_cons_of_mem _)

theorem sorted_place (k : κ) (v : ν) {list : List (κ × ν)}
    (sorted : list.Pairwise fun a b => a.1 < b.1) :
    (place k v list).Pairwise fun a b => a.1 < b.1 := by
  induction list with
  | nil => exact List.pairwise_singleton _ _
  | cons first rest ih =>
      obtain ⟨after, sorted'⟩ := List.pairwise_cons.mp sorted
      rw [place]
      split_ifs with before same
      · refine List.pairwise_cons.mpr ⟨fun e mem => ?_, sorted⟩
        rcases List.mem_cons.mp mem with rfl | mem
        · exact before
        · exact before.trans (after e mem)
      · refine List.pairwise_cons.mpr ⟨fun e mem => ?_, sorted'⟩
        rw [same]
        exact after e mem
      · refine List.pairwise_cons.mpr ⟨fun e mem => ?_, ih sorted'⟩
        rcases mem_place mem with rfl | mem
        · exact lt_of_le_of_ne (not_lt.mp before) (Ne.symm same)
        · exact after e mem

/-- `m[k] = v` -/
def set (m : OrderedMap κ ν) (k : κ) (v : ν) : OrderedMap κ ν :=
  ⟨place k v m.entries, sorted_place k v m.sorted⟩

/-- A loop over the entries that changes their values. -/
def mapValues (f : κ → ν → ν) (m : OrderedMap κ ν) : OrderedMap κ ν :=
  ⟨m.entries.map fun e => (e.1, f e.1 e.2), by
    rw [List.pairwise_map]
    exact m.sorted⟩

/-! ## Lookups -/

variable (m : OrderedMap κ ν) {k : κ}

theorem get?_empty : (empty : OrderedMap κ ν).get? k = none := rfl

theorem get?_set_self (v : ν) : (m.set k v).get? k = some v := by
  suffices found : ∀ list : List (κ × ν),
      (place k v list).find? (fun e => e.1 = k) = some (k, v) by
    rw [get?, set, found]
    rfl
  intro list
  induction list with
  | nil => simp [place]
  | cons first rest ih =>
      rw [place]
      split_ifs with before same
      · simp
      · simp
      · rw [List.find?_cons_of_neg (by simpa using Ne.symm same), ih]

theorem get?_set_other {other : κ} (ne : other ≠ k) (v : ν) : (m.set k v).get? other = m.get? other := by
  suffices found : ∀ list : List (κ × ν), (place k v list).find? (fun e => e.1 = other) =
      list.find? fun e => e.1 = other by
    rw [get?, get?, set, found]
  intro list
  induction list with
  | nil => simp [place, ne.symm]
  | cons first rest ih =>
      rw [place]
      split_ifs with before same
      · rw [List.find?_cons_of_neg (by simpa using ne.symm)]
      · rw [List.find?_cons_of_neg (by simpa using ne.symm),
          List.find?_cons_of_neg (by rw [← same]; simpa using ne.symm)]
      · by_cases here : first.1 = other
        · rw [List.find?_cons_of_pos (by simpa using here), List.find?_cons_of_pos (by simpa using here)]
        · rw [List.find?_cons_of_neg (by simpa using here),
            List.find?_cons_of_neg (by simpa using here), ih]

theorem get?_mapValues (f : κ → ν → ν) : (m.mapValues f).get? k = (m.get? k).map (f k) := by
  suffices found : ∀ list : List (κ × ν),
      (list.map fun e => (e.1, f e.1 e.2)).find? (fun e => e.1 = k) =
        (list.find? fun e => e.1 = k).map fun e => (e.1, f e.1 e.2) by
    rw [get?, get?, mapValues, found]
    cases at' : m.entries.find? fun e => e.1 = k with
    | none => rfl
    | some e =>
        have same := List.find?_some at'
        simp only [decide_eq_true_eq] at same
        simp [same]
  intro list
  induction list with
  | nil => rfl
  | cons first rest ih =>
      by_cases here : first.1 = k
      · rw [List.map_cons, List.find?_cons_of_pos (by simpa using here),
          List.find?_cons_of_pos (by simpa using here)]
        rfl
      · rw [List.map_cons, List.find?_cons_of_neg (by simpa using here),
          List.find?_cons_of_neg (by simpa using here), ih]

variable {m}

theorem nodup (m : OrderedMap κ ν) : m.entries.Nodup :=
  m.sorted.imp fun less same => by rw [same] at less; exact absurd less (lt_irrefl _)

/-- The entries with one key. -/
theorem filter_key : m.entries.filter (fun e => e.1 = k) = ((m.get? k).map fun v => (k, v)).toList := by
  have sorted := m.sorted
  rw [get?]
  generalize m.entries = list at sorted ⊢
  induction list with
  | nil => rfl
  | cons first rest ih =>
      obtain ⟨after, sorted⟩ := List.pairwise_cons.mp sorted
      by_cases here : first.1 = k
      · have absent : rest.filter (fun e => e.1 = k) = [] := by
          rw [List.filter_eq_nil_iff]
          intro e mem
          have := after e mem
          rw [here] at this
          simpa using this.ne'
        rw [List.filter_cons_of_pos (by simpa using here), List.find?_cons_of_pos (by simpa using here),
          absent, ← here]
        rfl
      · rw [List.filter_cons_of_neg (by simpa using here),
          List.find?_cons_of_neg (by simpa using here), ih sorted]

theorem mem_entries {v : ν} : (k, v) ∈ m.entries ↔ m.get? k = some v := by
  have same := filter_key (m := m) (k := k)
  constructor
  · intro mem
    have here : (k, v) ∈ m.entries.filter fun e => e.1 = k := List.mem_filter.mpr ⟨mem, by simp⟩
    rw [same] at here
    cases found : m.get? k with
    | none => simp [found] at here
    | some w => simpa [found, eq_comm] using here
  · intro found
    rw [found] at same
    exact List.mem_of_mem_filter (p := fun e => e.1 = k) (by rw [same]; simp)

/-! ## One entry among many -/

theorem foldl_quiet {α β : Type} {f : β → α → β} {list : List α} (quiet : ∀ a ∈ list, ∀ x, f x a = x)
    (x : β) : list.foldl f x = x := by
  induction list with
  | nil => rfl
  | cons a list ih =>
      rw [List.foldl_cons, quiet a List.mem_cons_self]
      exact ih fun b mem => quiet b (List.mem_cons_of_mem _ mem)

section
variable {α β : Type} {list : List α} {a : α} (mem : a ∈ list) (nodup : list.Nodup)
include mem nodup

theorem foldl_single {f : β → α → β} (others : ∀ b ∈ list, b ≠ a → ∀ x, f x b = x) (x : β) :
    list.foldl f x = f x a := by
  obtain ⟨before, after, rfl⟩ := List.append_of_mem mem
  have fresh := List.nodup_middle.mp nodup
  rw [List.nodup_cons, List.mem_append, not_or] at fresh
  rw [List.foldl_append, List.foldl_cons,
    foldl_quiet fun b inside => others b (List.mem_append_left _ inside) fun same =>
      fresh.1.1 (same ▸ inside),
    foldl_quiet fun b inside => others b (by simp [inside]) fun same => fresh.1.2 (same ▸ inside)]

theorem flatMap_single {f : α → List β} (others : ∀ b ∈ list, b ≠ a → f b = []) :
    list.flatMap f = f a := by
  obtain ⟨before, after, rfl⟩ := List.append_of_mem mem
  have fresh := List.nodup_middle.mp nodup
  rw [List.nodup_cons, List.mem_append, not_or] at fresh
  have first : before.flatMap f = [] := List.flatMap_eq_nil_iff.mpr fun b inside =>
    others b (List.mem_append_left _ inside) fun same => fresh.1.1 (same ▸ inside)
  have last : after.flatMap f = [] := List.flatMap_eq_nil_iff.mpr fun b inside =>
    others b (by simp [inside]) fun same => fresh.1.2 (same ▸ inside)
  rw [List.flatMap_append, List.flatMap_cons, first, last, List.nil_append, List.append_nil]

end

end OrderedMap
