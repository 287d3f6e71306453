import Mathlib.Tactic

/-!
# Bursts

Lists of one length that differ in few consecutive places.
-/

variable {α : Type*} {n : Nat} {a b : List α}

/-- The places at which the lists differ lie among `n` consecutive ones. -/
def Burst (n : Nat) (a b : List α) : Prop :=
  a.length = b.length ∧ ∃ start, ∀ i, a[i]? ≠ b[i]? → start ≤ i ∧ i < start + n

namespace Burst

theorem take_eq {start k : Nat} (window : ∀ i, a[i]? ≠ b[i]? → start ≤ i ∧ i < start + n)
    (low : k ≤ start) : a.take k = b.take k := by
  apply List.ext_getElem?
  intro i
  rw [List.getElem?_take, List.getElem?_take]
  split
  · exact not_not.mp fun differ => absurd (window i differ).1 (by omega)
  · rfl

theorem drop_eq {start k : Nat} (window : ∀ i, a[i]? ≠ b[i]? → start ≤ i ∧ i < start + n)
    (high : start + n ≤ k) : a.drop k = b.drop k := by
  apply List.ext_getElem?
  intro i
  rw [List.getElem?_drop, List.getElem?_drop]
  exact not_not.mp fun differ => absurd (window _ differ).2 (by omega)

/-- Outside a window of `n` places the lists are one. -/
theorem split (burst : Burst n a b) :
    ∃ before inner other after, a = before ++ (inner ++ after) ∧ b = before ++ (other ++ after) ∧
      inner.length = other.length ∧ inner.length ≤ n := by
  obtain ⟨lengths, start, window⟩ := burst
  have before := take_eq window (le_refl start)
  have after := drop_eq window (le_refl (start + n))
  refine ⟨a.take start, (a.drop start).take n, (b.drop start).take n, a.drop (start + n),
    ?_, ?_, ?_, ?_⟩
  · rw [← List.drop_drop, List.take_append_drop, List.take_append_drop]
  · rw [before, after, ← List.drop_drop, List.take_append_drop, List.take_append_drop]
  · simp [lengths]
  · simp

theorem take (burst : Burst n a b) (k : Nat) : Burst n (a.take k) (b.take k) := by
  obtain ⟨lengths, start, window⟩ := burst
  refine ⟨by simp [lengths], start, fun i differ => window i fun same => differ ?_⟩
  rw [List.getElem?_take, List.getElem?_take, same]

theorem drop (burst : Burst n a b) (k : Nat) : Burst n (a.drop k) (b.drop k) := by
  obtain ⟨lengths, start, window⟩ := burst
  refine ⟨by simp [lengths], start - k, fun i differ => ?_⟩
  rw [List.getElem?_drop, List.getElem?_drop] at differ
  have place := window _ differ
  omega

end Burst
