import Mathlib.Tactic

/-!
# Labelled transitions

Runs of an executable step function, restricted to the steps a predicate allows.
-/

namespace Transition

variable {σ lab : Type} (step : lab → σ → Option σ)

/-- The states reached by steps that `allowed` admits in the state before them. -/
inductive Reaches (allowed : lab → σ → Prop) (init : σ) : σ → Prop where
  | refl : Reaches allowed init init
  | step {s s' : σ} {a : lab} (before : Reaches allowed init s) (admitted : allowed a s)
      (taken : step a s = some s') : Reaches allowed init s'

variable {step} {allowed : lab → σ → Prop} {init : σ}

/-- What holds initially and is kept by every allowed step holds throughout. -/
theorem Reaches.invariant (inv : σ → Prop) (start : inv init)
    (keeps : ∀ s s' a, inv s → allowed a s → step a s = some s' → inv s') {s : σ}
    (reached : Reaches step allowed init s) : inv s := by
  induction reached with
  | refl => exact start
  | step _ admitted taken ih => exact keeps _ _ _ ih admitted taken

variable (step) in
/-- A run of given labels. -/
def run : List lab → σ → Option σ
  | [], s => some s
  | a :: labels, s => (step a s).bind (run labels)

theorem run_append (labels more : List lab) (s : σ) :
    run step (labels ++ more) s = (run step labels s).bind (run step more) := by
  induction labels generalizing s with
  | nil => rfl
  | cons a labels ih =>
      rw [List.cons_append, run, run, Option.bind_assoc]
      exact Option.bind_congr fun next _ => ih next

theorem run_concat (labels : List lab) (a : lab) (s : σ) :
    run step (labels ++ [a]) s = (run step labels s).bind (step a) := by
  rw [run_append]
  refine Option.bind_congr fun next _ => ?_
  rw [run]
  cases step a next <;> rfl

theorem Reaches.run {labels : List lab} {s s' : σ} (reached : Reaches step (fun _ _ => True) init s)
    (ran : run step labels s = some s') : Reaches step (fun _ _ => True) init s' := by
  induction labels generalizing s with
  | nil =>
      cases ran
      exact reached
  | cons a labels ih =>
      obtain ⟨next, taken, rest⟩ := Option.bind_eq_some_iff.mp ran
      exact ih (reached.step trivial taken) rest

/-- A run of labels that are admitted in every state. -/
theorem Reaches.run_admitted {labels : List lab} {s s' : σ} (reached : Reaches step allowed init s)
    (admitted : ∀ a ∈ labels, ∀ s, allowed a s) (ran : Transition.run step labels s = some s') :
    Reaches step allowed init s' := by
  induction labels generalizing s with
  | nil =>
      cases ran
      exact reached
  | cons a labels ih =>
      obtain ⟨next, taken, rest⟩ := Option.bind_eq_some_iff.mp ran
      have first := admitted a (List.mem_cons_self ..) s
      exact ih (reached.step first taken) (fun b member => admitted b (List.mem_cons_of_mem a member))
        rest

end Transition
