import Mathlib.Tactic

/-!
# Searching

The first occurrence of a list in another one. An occurrence that ends within a prefix is an
occurrence in the prefix, so a search may stop at the first prefix in which it succeeds.
-/

namespace Search

variable {α : Type} [DecidableEq α] {needle text more : List α} {k : Nat}

def find (needle text : List α) : Option Nat := text.tails.findIdx? needle.isPrefixOf

def OccursAt (needle text : List α) (k : Nat) : Prop := needle <+: text.drop k

instance : Decidable (OccursAt needle text k) := inferInstanceAs (Decidable (needle <+: text.drop k))

omit [DecidableEq α] in
theorem OccursAt.le (occurs : OccursAt needle text k) (nonempty : needle ≠ []) :
    k + needle.length ≤ text.length := by
  have fits := occurs.length_le
  have pos := List.length_pos_iff.mpr nonempty
  rw [List.length_drop] at fits
  omega

omit [DecidableEq α] in
theorem OccursAt.append (occurs : OccursAt needle text k) (more : List α) :
    OccursAt needle (text ++ more) k := by
  rw [OccursAt, List.drop_append]
  exact occurs.trans (List.prefix_append _ _)

omit [DecidableEq α] in
theorem OccursAt.of_append (occurs : OccursAt needle (text ++ more) k)
    (within : k + needle.length ≤ text.length) : OccursAt needle text k := by
  rw [OccursAt, List.drop_append_of_le_length (by omega)] at occurs
  exact List.prefix_of_prefix_length_le occurs (List.prefix_append _ _)
    (by rw [List.length_drop]; omega)

theorem find_eq_some (nonempty : needle ≠ []) :
    find needle text = some k ↔
      OccursAt needle text k ∧ ∀ j < k, ¬ OccursAt needle text j := by
  have here : ∀ j (h : j < text.tails.length),
      needle.isPrefixOf text.tails[j] = true ↔ OccursAt needle text j := fun j h => by
    rw [List.getElem_tails, List.isPrefixOf_iff_prefix, OccursAt]
  rw [find, List.findIdx?_eq_some_iff_getElem]
  constructor
  · rintro ⟨below, found, first⟩
    exact ⟨(here k below).mp found, fun j lt occurs =>
      first j lt ((here j (lt.trans below)).mpr occurs)⟩
  · rintro ⟨occurs, first⟩
    have below : k < text.tails.length := by
      have := occurs.le nonempty
      rw [List.length_tails]
      omega
    exact ⟨below, (here k below).mpr occurs, fun j lt found =>
      first j lt ((here j (lt.trans below)).mp found)⟩

theorem find_append (nonempty : needle ≠ []) (found : find needle text = some k) (more : List α) :
    find needle (text ++ more) = some k := by
  obtain ⟨occurs, first⟩ := (find_eq_some nonempty).mp found
  refine (find_eq_some nonempty).mpr ⟨occurs.append more, fun j lt before => ?_⟩
  have fits := occurs.le nonempty
  exact first j lt (before.of_append (by omega))

theorem find_of_append (nonempty : needle ≠ []) (found : find needle (text ++ more) = some k)
    (within : k + needle.length ≤ text.length) : find needle text = some k := by
  obtain ⟨occurs, first⟩ := (find_eq_some nonempty).mp found
  exact (find_eq_some nonempty).mpr
    ⟨occurs.of_append within, fun j lt before => first j lt (before.append more)⟩

end Search
