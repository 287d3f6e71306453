import Mathlib.Tactic

/-!
# Grouping

The values of a list under their keys: one group for each key, in the order of the first
occurrences. A list of summaries with an index of the keys is one way to keep such groups.
-/

namespace Grouping

variable {κ ε β : Type} [DecidableEq κ]

/-- Adds a value to the group of its key, or opens a group at the end. -/
def insert (k : κ) (v : ε) : List (κ × List ε) → List (κ × List ε)
  | [] => [(k, [v])]
  | (key, vs) :: rest => if key = k then (key, vs ++ [v]) :: rest else (key, vs) :: insert k v rest

def group (entries : List (κ × ε)) : List (κ × List ε) :=
  entries.foldl (fun groups e => insert e.1 e.2 groups) []

def keys (groups : List (κ × List ε)) : List κ := groups.map Prod.fst

def valuesOf (entries : List (κ × ε)) (k : κ) : List ε :=
  (entries.filter fun e => e.1 = k).map Prod.snd

theorem group_append (entries : List (κ × ε)) (e : κ × ε) :
    group (entries ++ [e]) = insert e.1 e.2 (group entries) := by
  rw [group, List.foldl_append]
  rfl

theorem valuesOf_append (entries : List (κ × ε)) (e : κ × ε) (k : κ) :
    valuesOf (entries ++ [e]) k = valuesOf entries k ++ if e.1 = k then [e.2] else [] := by
  by_cases same : e.1 = k <;> simp [valuesOf, same]

/-! ## Insertion -/

section
variable {k : κ} {groups : List (κ × List ε)}

theorem insert_new (new : k ∉ keys groups) (v : ε) : insert k v groups = groups ++ [(k, [v])] := by
  induction groups with
  | nil => rfl
  | cons g rest ih =>
      simp only [keys, List.map_cons, List.mem_cons, not_or] at new
      rw [insert, if_neg (Ne.symm new.1), ih new.2, List.cons_append]

theorem insert_old (nodup : (keys groups).Nodup) {i : Nat} {vs : List ε}
    (there : groups[i]? = some (k, vs)) (v : ε) :
    insert k v groups = groups.set i (k, vs ++ [v]) := by
  induction groups generalizing i with
  | nil => cases there
  | cons g rest ih =>
      obtain ⟨fresh, nodup⟩ := List.nodup_cons.mp nodup
      cases i with
      | zero =>
          cases there
          rw [insert, if_pos rfl, List.set_cons_zero]
      | succ i =>
          rw [List.getElem?_cons_succ] at there
          have mem : k ∈ keys rest := List.mem_map_of_mem (List.mem_of_getElem? there)
          rw [insert, if_neg (by rintro rfl; exact fresh mem), ih nodup there, List.set_cons_succ]

theorem keys_insert_new (new : k ∉ keys groups) (v : ε) :
    keys (insert k v groups) = keys groups ++ [k] := by
  rw [insert_new new, keys, List.map_append]
  rfl

theorem keys_insert_old (old : k ∈ keys groups) (v : ε) : keys (insert k v groups) = keys groups := by
  induction groups with
  | nil => cases old
  | cons g rest ih =>
      rw [insert]
      split_ifs with same
      · rfl
      · have old : k ∈ keys rest := by simpa [keys, Ne.symm same] using old
        exact congrArg (g.1 :: ·) (ih old)

theorem sum_lengths_insert (k : κ) (v : ε) (groups : List (κ × List ε)) :
    ((insert k v groups).map fun g => g.2.length).sum =
      (groups.map fun g => g.2.length).sum + 1 := by
  induction groups with
  | nil => rfl
  | cons g rest ih =>
      rw [insert]
      split_ifs
      · simp [Nat.add_right_comm]
      · rw [List.map_cons, List.sum_cons, ih, List.map_cons, List.sum_cons, Nat.add_assoc]

end

/-! ## Groups -/

/-- The groups hold the values of the entries, each once and in order. -/
structure Groups (entries : List (κ × ε)) (groups : List (κ × List ε)) : Prop where
  nodup : (keys groups).Nodup
  complete : ∀ k, k ∈ keys groups ↔ k ∈ entries.map Prod.fst
  ordered : (keys groups).Pairwise fun a b =>
    (entries.map Prod.fst).idxOf a < (entries.map Prod.fst).idxOf b
  values : ∀ g ∈ groups, g.2 = valuesOf entries g.1
  total : (groups.map fun g => g.2.length).sum = entries.length

section
variable {entries : List (κ × ε)} {groups : List (κ × List ε)} {k : κ}

theorem Groups.ordered_append (grouped : Groups entries groups) (k : κ) :
    (keys groups).Pairwise fun a b =>
      (entries.map Prod.fst ++ [k]).idxOf a < (entries.map Prod.fst ++ [k]).idxOf b := by
  refine grouped.ordered.imp_of_mem fun {a b} ha hb before => ?_
  rw [List.idxOf_append_of_mem ((grouped.complete a).mp ha),
    List.idxOf_append_of_mem ((grouped.complete b).mp hb)]
  exact before

theorem Groups.total_insert (grouped : Groups entries groups) (k : κ) (v : ε) :
    ((insert k v groups).map fun g => g.2.length).sum = (entries ++ [(k, v)]).length := by
  rw [sum_lengths_insert, grouped.total, List.length_append, List.length_singleton]

theorem Groups.key_inj (grouped : Groups entries groups) {i j : Nat} {g h : κ × List ε}
    (at_i : groups[i]? = some g) (at_j : groups[j]? = some h) (same : g.1 = h.1) : i = j := by
  have keys_i : (keys groups)[i]? = some g.1 := by rw [keys, List.getElem?_map, at_i]; rfl
  have keys_j : (keys groups)[j]? = some g.1 := by rw [keys, List.getElem?_map, at_j, same]; rfl
  have below : i < (keys groups).length := (List.getElem?_eq_some_iff.mp keys_i).1
  exact (List.getElem?_inj below grouped.nodup).mp (keys_i.trans keys_j.symm)

theorem Groups.insert_old (grouped : Groups entries groups) (old : k ∈ keys groups) (v : ε) :
    Groups (entries ++ [(k, v)]) (insert k v groups) := by
  refine ⟨?_, fun a => ?_, ?_, fun g mem => ?_, grouped.total_insert k v⟩
  · rw [keys_insert_old old]
    exact grouped.nodup
  · have present := (grouped.complete k).mp old
    rw [keys_insert_old old, grouped.complete, List.map_append, List.mem_append]
    simp only [List.map_cons, List.map_nil, List.mem_singleton]
    exact ⟨.inl, fun either => either.elim id fun same => same ▸ present⟩
  · rw [keys_insert_old old, List.map_append]
    exact grouped.ordered_append k
  · obtain ⟨held, at_i, rfl⟩ := List.mem_map.mp old
    obtain ⟨i, at_i⟩ := List.mem_iff_getElem?.mp at_i
    rw [Grouping.insert_old grouped.nodup at_i] at mem
    obtain ⟨j, at_j⟩ := List.mem_iff_getElem?.mp mem
    by_cases same : i = j
    · subst same
      rw [List.getElem?_set_self (List.getElem?_eq_some_iff.mp at_i).1] at at_j
      cases at_j
      rw [valuesOf_append, if_pos rfl, grouped.values held (List.mem_of_getElem? at_i)]
    · rw [List.getElem?_set_ne same] at at_j
      have other : held.1 ≠ g.1 := fun equal => same (grouped.key_inj at_i at_j equal)
      rw [valuesOf_append, if_neg other, List.append_nil]
      exact grouped.values g (List.mem_of_getElem? at_j)

theorem Groups.insert_new (grouped : Groups entries groups) (new : k ∉ keys groups) (v : ε) :
    Groups (entries ++ [(k, v)]) (insert k v groups) := by
  have absent : k ∉ entries.map Prod.fst := mt (grouped.complete k).mpr new
  refine ⟨?_, fun a => ?_, ?_, fun g mem => ?_, grouped.total_insert k v⟩
  · rw [keys_insert_new new]
    exact grouped.nodup.append (List.nodup_singleton k) (by simpa using new)
  · rw [keys_insert_new new, List.map_append, List.mem_append, List.mem_append, grouped.complete]
    rfl
  · rw [keys_insert_new new, List.map_append]
    refine List.pairwise_append.mpr
      ⟨grouped.ordered_append k, List.pairwise_singleton _ _, fun a ha b hb => ?_⟩
    obtain rfl := List.mem_singleton.mp hb
    have before := (grouped.complete a).mp ha
    rw [List.map_cons, List.map_nil, List.idxOf_append_of_mem before,
      List.idxOf_append_of_notMem absent]
    exact Nat.lt_of_lt_of_le (List.idxOf_lt_length_of_mem before) (Nat.le_add_right _ _)
  · rw [Grouping.insert_new new, List.mem_append, List.mem_singleton] at mem
    rcases mem with before | rfl
    · have other : k ≠ g.1 := by
        rintro rfl
        exact new (List.mem_map_of_mem before)
      rw [valuesOf_append, if_neg other, List.append_nil]
      exact grouped.values g before
    · have none : valuesOf entries k = [] := by
        rw [valuesOf, List.map_eq_nil_iff, List.filter_eq_nil_iff]
        intro e mem same
        rw [← of_decide_eq_true same] at absent
        exact absent (List.mem_map_of_mem mem)
      rw [valuesOf_append, if_pos rfl, none, List.nil_append]

end

theorem groups_group (entries : List (κ × ε)) : Groups entries (group entries) := by
  induction entries using List.reverseRecOn with
  | nil => exact ⟨List.nodup_nil, fun _ => Iff.rfl, List.Pairwise.nil, nofun, rfl⟩
  | append_singleton entries e ih =>
      rw [group_append]
      by_cases old : e.1 ∈ keys (group entries)
      · exact ih.insert_old old e.2
      · exact ih.insert_new old e.2

theorem Groups.ne_nil {entries : List (κ × ε)} {groups : List (κ × List ε)}
    (grouped : Groups entries groups) {g : κ × List ε} (mem : g ∈ groups) : g.2 ≠ [] := by
  obtain ⟨e, present, same⟩ := List.mem_map.mp
    ((grouped.complete g.1).mp (List.mem_map_of_mem mem))
  rw [grouped.values g mem, valuesOf]
  exact List.ne_nil_of_mem (List.mem_map_of_mem (List.mem_filter.mpr ⟨present, by simpa using same⟩))

/-! ## Summaries with an index -/

/-- A list with one summary for each group and an index that finds the group of a key. -/
structure Keeps (summary : κ → List ε → β) (groups : List (κ × List ε)) (list : List β)
    (index : κ → Option Nat) : Prop where
  list : list = groups.map fun g => summary g.1 g.2
  index : ∀ k i, index k = some i ↔ (keys groups)[i]? = some k

variable {summary : κ → List ε → β} {groups : List (κ × List ε)} {list : List β}
  {index : κ → Option Nat}

omit [DecidableEq κ] in
theorem keeps_nil : Keeps summary [] [] fun _ => none := ⟨rfl, fun _ _ => by simp [keys]⟩

/-- The place of a key, old or new, and what the value makes of the summary there. -/
theorem Keeps.insert (kept : Keeps summary groups list index) (nodup : (keys groups).Nodup) (k : κ)
    (v : ε) :
    ∃ list' i vs,
      (index k = some i ∧ list' = list ∨
        index k = none ∧ i = list.length ∧ list' = list ++ [summary k []]) ∧
      list'[i]? = some (summary k vs) ∧
      Keeps summary (insert k v groups) (list'.set i (summary k (vs ++ [v])))
        (Function.update index k (some i)) := by
  obtain ⟨rfl, indexed⟩ := kept
  cases found : index k with
  | some i =>
      have at_i := (indexed k i).mp found
      rw [keys, List.getElem?_map, Option.map_eq_some_iff] at at_i
      obtain ⟨⟨_, vs⟩, at_i, rfl⟩ := at_i
      refine ⟨_, i, vs, .inl ⟨rfl, rfl⟩, ?_, ?_, ?_⟩
      · rw [List.getElem?_map, at_i]
        rfl
      · rw [insert_old nodup at_i, List.map_set]
      · rw [← found, Function.update_eq_self,
          keys_insert_old (List.mem_map_of_mem (List.mem_of_getElem? at_i))]
        exact indexed
  | none =>
      have new : k ∉ keys groups := by
        intro old
        obtain ⟨i, at_i⟩ := List.mem_iff_getElem?.mp old
        rw [(indexed k i).mpr at_i] at found
        cases found
      refine ⟨_, _, [], .inr ⟨rfl, rfl, rfl⟩, ?_, ?_, fun key i => ?_⟩
      · rw [List.getElem?_append_right le_rfl, Nat.sub_self]
        rfl
      · rw [insert_new new, List.set_append_right _ _ le_rfl, Nat.sub_self, List.map_append]
        rfl
      · have length : (groups.map fun g => summary g.1 g.2).length = (keys groups).length := by
          rw [keys, List.length_map, List.length_map]
        rw [keys_insert_new new, length, List.getElem?_append]
        by_cases same : key = k
        · subst same
          rw [Function.update_self, Option.some_inj]
          split_ifs with below
          · exact ⟨fun last => absurd last (Nat.ne_of_gt below),
              fun there => absurd (List.mem_of_getElem? there) new⟩
          · rw [List.getElem?_singleton]
            split_ifs <;> simp <;> omega
        · rw [Function.update_of_ne same, indexed]
          split_ifs with below
          · rfl
          · rw [List.getElem?_eq_none (Nat.le_of_not_lt below), List.getElem?_singleton]
            split_ifs <;> simp [Ne.symm same]

end Grouping
