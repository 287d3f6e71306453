import Mathlib.Tactic

/-!
# Tables filled from the front

A loop that writes one row after the other into a table of fixed size.
-/

namespace Table

variable {α β : Type}

/-- A write out of bounds ends the program. -/
def store (table : List β) (i : Nat) (b : β) : Option (List β) :=
  if i < table.length then some (table.set i b) else none

/-- The body of a loop over the elements with their indices. -/
def storeEach (f : α → Option β) (table : List β) : α × Nat → Option (List β)
  | (x, i) => do store table i (← f x)

/-- The body of a loop that counts its writes. -/
def storeIf (p : α → Prop) [DecidablePred p] (f : α → β) :
    List β × Nat → α → Option (List β × Nat)
  | (table, count), x => if p x then do pure (← store table count (f x), count + 1) else pure (table, count)

theorem store_next (done : List β) (old : β) (rest : List β) (b : β) :
    store (done ++ old :: rest) done.length b = some (done ++ [b] ++ rest) := by
  have inside : done.length < (done ++ old :: rest).length := by simp
  rw [store, if_pos inside, List.set_append_right _ _ le_rfl, Nat.sub_self, List.set_cons_zero,
    List.append_assoc]
  rfl

/-- Every element has a row. -/
theorem foldlM_storeEach {f : α → Option β} {xs : List α} {ys : List β}
    (each : List.Forall₂ (fun x y => f x = some y) xs ys) (done : List β) {rest : List β}
    (room : xs.length ≤ rest.length) :
    (xs.zipIdx done.length).foldlM (storeEach f) (done ++ rest) =
      some (done ++ ys ++ rest.drop xs.length) := by
  induction each generalizing done rest with
  | nil => simp
  | @cons x y xs ys first _ ih =>
      cases rest with
      | nil => simp at room
      | cons old rest =>
          have next := ih (done ++ [y]) (Nat.le_of_succ_le_succ room)
          rw [List.length_append, List.length_singleton] at next
          have here : storeEach f (done ++ old :: rest) (x, done.length) =
              some (done ++ [y] ++ rest) := by
            rw [storeEach, first]
            exact store_next done old rest y
          rw [List.zipIdx_cons, List.foldlM_cons, here]
          refine next.trans ?_
          rw [List.append_assoc done [y] ys, List.singleton_append, List.length_cons,
            List.drop_succ_cons]

theorem fill {f : α → Option β} {xs : List α} {ys : List β}
    (each : List.Forall₂ (fun x y => f x = some y) xs ys) (more : Nat) (blank : β) :
    xs.zipIdx.foldlM (storeEach f) (List.replicate (xs.length + more) blank) =
      some (ys ++ List.replicate more blank) := by
  have filled := foldlM_storeEach each [] (List.length_replicate.symm ▸ Nat.le_add_right _ more :
    xs.length ≤ (List.replicate (xs.length + more) blank).length)
  rwa [List.nil_append, List.nil_append, List.drop_replicate, Nat.add_sub_cancel_left] at filled

/-- The elements of a filter have rows. -/
theorem foldlM_storeIf {p : α → Prop} [DecidablePred p] (f : α → β) (xs : List α) (done : List β)
    {rest : List β} (room : (xs.filter p).length ≤ rest.length) :
    xs.foldlM (storeIf p f) (done ++ rest, done.length) =
      some (done ++ (xs.filter p).map f ++ rest.drop (xs.filter p).length,
        done.length + (xs.filter p).length) := by
  induction xs generalizing done rest with
  | nil => simp
  | cons x xs ih =>
      rw [List.foldlM_cons]
      by_cases holds : p x
      · rw [List.filter_cons_of_pos (by simpa using holds)] at room ⊢
        cases rest with
        | nil => simp at room
        | cons old rest =>
            have next := ih (done ++ [f x]) (Nat.le_of_succ_le_succ room)
            rw [List.length_append, List.length_singleton] at next
            have here : storeIf p f (done ++ old :: rest, done.length) x =
                some (done ++ [f x] ++ rest, done.length + 1) := by
              rw [storeIf, if_pos holds, store_next]
              rfl
            rw [here]
            refine next.trans ?_
            rw [List.append_assoc done [f x], List.singleton_append, List.map_cons, List.length_cons,
              List.drop_succ_cons, Nat.add_assoc done.length 1, Nat.add_comm 1]
      · rw [List.filter_cons_of_neg (by simpa using holds)] at room ⊢
        have here : storeIf p f (done ++ rest, done.length) x = some (done ++ rest, done.length) := by
          rw [storeIf, if_neg holds]
          rfl
        rw [here]
        exact ih done room

theorem fillIf {p : α → Prop} [DecidablePred p] (f : α → β) (xs : List α) (done : List β)
    (blank : β) :
    xs.foldlM (storeIf p f) (done ++ List.replicate (xs.filter p).length blank, done.length) =
      some (done ++ (xs.filter p).map f, done.length + (xs.filter p).length) := by
  have filled := foldlM_storeIf f xs done (List.length_replicate.ge :
    (xs.filter p).length ≤ (List.replicate (xs.filter p).length blank).length)
  rwa [List.drop_replicate, Nat.sub_self, List.replicate_zero, List.append_nil] at filled

/-- `mapM` keeps each element's value. -/
theorem mapM_some {f : α → Option β} {list : List α} (each : ∀ a ∈ list, ∃ b, f a = some b) :
    ∃ bs, list.mapM f = some bs ∧ List.Forall₂ (fun a b => f a = some b) list bs := by
  induction list with
  | nil => exact ⟨[], rfl, .nil⟩
  | cons a list ih =>
      obtain ⟨b, first⟩ := each a List.mem_cons_self
      obtain ⟨bs, rest, related⟩ := ih fun x mem => each x (List.mem_cons_of_mem _ mem)
      refine ⟨b :: bs, ?_, .cons first related⟩
      rw [List.mapM_cons, first, rest]
      rfl

theorem forall₂_of_mapM {f : α → Option β} {list : List α} {bs : List β}
    (mapped : list.mapM f = some bs) : List.Forall₂ (fun a b => f a = some b) list bs := by
  induction list generalizing bs with
  | nil =>
      cases mapped
      exact .nil
  | cons a list ih =>
      rw [List.mapM_cons] at mapped
      obtain ⟨b, first, rest⟩ := Option.bind_eq_some_iff.mp mapped
      obtain ⟨bs', tail, same⟩ := Option.bind_eq_some_iff.mp rest
      cases same
      exact .cons first (ih tail)

theorem mapM_of_forall₂ {f : α → Option β} {list : List α} {bs : List β}
    (each : List.Forall₂ (fun a b => f a = some b) list bs) : list.mapM f = some bs := by
  induction each with
  | nil => rfl
  | cons first _ ih =>
      rw [List.mapM_cons, first, ih]
      rfl

theorem mapM_perm {f : α → Option β} {list list' : List α} (perm : list'.Perm list) {bs : List β}
    (mapped : list.mapM f = some bs) : ∃ bs', list'.mapM f = some bs' ∧ bs'.Perm bs := by
  obtain ⟨bs', each, same⟩ := List.perm_comp_forall₂ perm (forall₂_of_mapM mapped)
  exact ⟨bs', mapM_of_forall₂ each, same⟩

theorem mapM_perm_none {f : α → Option β} {list list' : List α} (perm : list'.Perm list)
    (failed : list.mapM f = none) : list'.mapM f = none := by
  rw [Option.eq_none_iff_forall_ne_some]
  intro bs mapped
  obtain ⟨bs', mapped', -⟩ := mapM_perm perm.symm mapped
  cases failed.symm.trans mapped'

end Table
