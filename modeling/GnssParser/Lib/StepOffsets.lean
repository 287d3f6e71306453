import Mathlib.Tactic

/-!
# Step offsets

A clock that steps forward at given dates, as a table of dates and offsets in descending order:
the first row that applies decides. One direction looks its own reading up, the other the reading
it is about to return.
-/

namespace StepOffsets

variable {α : Type} [AddCommGroup α] [LinearOrder α] [IsOrderedAddMonoid α]

/-- Adds the offset of the last date that has passed. -/
def advance : List (α × α) → α → α
  | [], u => u
  | (date, offset) :: rows, u => if date ≤ u then u + offset else advance rows u

/-- Subtracts the offset of the last date that has passed after the subtraction. -/
def retreat : List (α × α) → α → α
  | [], t => t
  | (date, offset) :: rows, t => if date ≤ t - offset then t - offset else retreat rows t

def top : List (α × α) → α
  | [] => 0
  | (_, offset) :: _ => offset

def Descending : List (α × α) → Prop
  | [] => True
  | (date, offset) :: rows => (∀ row ∈ rows, row.1 < date) ∧ top rows ≤ offset ∧ Descending rows

instance decidableDescending : (rows : List (α × α)) → Decidable (Descending rows)
  | [] => isTrue trivial
  | (date, offset) :: rows =>
      have := decidableDescending rows
      inferInstanceAs (Decidable ((∀ row ∈ rows, row.1 < date) ∧ top rows ≤ offset ∧ _))

def Even (step : α) : List (α × α) → Prop
  | [] => True
  | (_, offset) :: rows => offset = top rows + step ∧ Even step rows

instance decidableEven (step : α) : (rows : List (α × α)) → Decidable (Even step rows)
  | [] => isTrue trivial
  | (_, offset) :: rows =>
      have := decidableEven step rows
      inferInstanceAs (Decidable (offset = top rows + step ∧ _))

/-- What no reading is advanced to: the offset a step adds, before the step. -/
def InGap : List (α × α) → α → Prop
  | [], _ => False
  | (date, offset) :: rows, t => date + top rows ≤ t ∧ t < date + offset ∨ InGap rows t

variable {rows : List (α × α)}

theorem advance_le (descending : Descending rows) (u : α) : advance rows u ≤ u + top rows := by
  induction rows with
  | nil => exact (add_zero u).ge
  | cons row rows ih =>
      rw [advance]
      split_ifs
      · exact le_rfl
      · exact (ih descending.2.2).trans (add_le_add_right descending.2.1 u)

theorem retreat_advance (descending : Descending rows) (u : α) :
    retreat rows (advance rows u) = u := by
  induction rows with
  | nil => rfl
  | cons row rows ih =>
      obtain ⟨date, offset⟩ := row
      rw [advance]
      split_ifs with passed
      · rw [retreat, add_sub_cancel_right, if_pos passed]
      · have small : advance rows u - offset ≤ u :=
          sub_le_iff_le_add.mpr ((advance_le descending.2.2 u).trans
            (add_le_add_right descending.2.1 u))
        rw [retreat, if_neg fun reached => passed (reached.trans small), ih descending.2.2]

theorem advance_strictMono (descending : Descending rows) : StrictMono (advance rows) := by
  intro u v later
  induction rows with
  | nil => exact later
  | cons row rows ih =>
      obtain ⟨date, offset⟩ := row
      rw [advance, advance]
      split_ifs with first second second
      · exact add_lt_add_left later offset
      · exact absurd (first.trans later.le) second
      · calc advance rows u
            ≤ u + top rows := advance_le descending.2.2 u
          _ ≤ u + offset := add_le_add_right descending.2.1 u
          _ < v + offset := add_lt_add_left later offset
      · exact ih descending.2.2

theorem retreat_lt (descending : Descending rows) {t date : α} (outside : ¬ InGap rows t)
    (dates : ∀ row ∈ rows, row.1 < date) (before : t < date + top rows) :
    retreat rows t < date := by
  induction rows generalizing date with
  | nil => rwa [top, add_zero] at before
  | cons row rows ih =>
      obtain ⟨first, offset⟩ := row
      rw [InGap, not_or] at outside
      rw [retreat]
      split_ifs with passed
      · exact sub_lt_iff_lt_add.mpr before
      · have early : t < first + offset := sub_lt_iff_lt_add.mp (not_le.mp passed)
        have earlier : t < first + top rows :=
          not_le.mp fun reached => outside.1 ⟨reached, early⟩
        exact (ih descending.2.2 outside.2 descending.1 earlier).trans
          (dates _ List.mem_cons_self)

theorem advance_retreat (descending : Descending rows) {t : α} (outside : ¬ InGap rows t) :
    advance rows (retreat rows t) = t := by
  induction rows with
  | nil => rfl
  | cons row rows ih =>
      obtain ⟨date, offset⟩ := row
      rw [InGap, not_or] at outside
      rw [retreat]
      split_ifs with passed
      · rw [advance, if_pos passed, sub_add_cancel]
      · have early : t < date + offset := sub_lt_iff_lt_add.mp (not_le.mp passed)
        have earlier : t < date + top rows :=
          not_le.mp fun reached => outside.1 ⟨reached, early⟩
        have below := retreat_lt descending.2.2 outside.2 descending.1 earlier
        rw [advance, if_neg (not_le.mpr below), ih descending.2.2 outside.2]

omit [IsOrderedAddMonoid α] in
/-- The gaps are as long as the steps. -/
theorem InGap.exists_row {step t : α} (even : Even step rows) (gap : InGap rows t) :
    ∃ row ∈ rows, row.1 + (row.2 - step) ≤ t ∧ t < row.1 + row.2 := by
  induction rows with
  | nil => exact gap.elim
  | cons row rows ih =>
      obtain ⟨own, others⟩ := even
      rcases gap with ⟨reached, before⟩ | later
      · refine ⟨row, List.mem_cons_self, ?_, before⟩
        rwa [own, add_sub_cancel_right]
      · obtain ⟨row', mem, found⟩ := ih others later
        exact ⟨row', List.mem_cons_of_mem _ mem, found⟩

end StepOffsets
