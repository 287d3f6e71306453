import Mathlib.Tactic

/-!
# Separation

A machine whose inputs have owners, and each owner a view of the state. If the step of an input reads
and changes the view of its owner only, then what an owner sees of a run depends on its own inputs.
-/

namespace Separation

variable {σ lab own view out err : Type}

def trace (step : σ → lab → Except err (out × σ)) (s : σ) : List lab → Except err (List out × σ)
  | [] => .ok ([], s)
  | a :: inputs => do
      let (o, s) ← step s a
      let (outputs, s) ← trace step s inputs
      pure (o :: outputs, s)

section
variable [DecidableEq own] (owner : lab → own) (i : own)

def inputsOf (inputs : List lab) : List lab := inputs.filter fun a => owner a = i

def outputsOf (inputs : List lab) (outputs : List out) : List out :=
  ((inputs.zip outputs).filter fun p => owner p.1 = i).map Prod.snd

variable {owner i}

theorem inputsOf_own {a : lab} (owned : owner a = i) (inputs : List lab) :
    inputsOf owner i (a :: inputs) = a :: inputsOf owner i inputs :=
  List.filter_cons_of_pos (by simpa using owned)

theorem inputsOf_other {a : lab} (other : owner a ≠ i) (inputs : List lab) :
    inputsOf owner i (a :: inputs) = inputsOf owner i inputs :=
  List.filter_cons_of_neg (by simpa using other)

theorem outputsOf_own {a : lab} (owned : owner a = i) (inputs : List lab) (o : out)
    (outputs : List out) :
    outputsOf owner i (a :: inputs) (o :: outputs) = o :: outputsOf owner i inputs outputs := by
  rw [outputsOf, List.zip_cons_cons, List.filter_cons_of_pos (by simpa using owned)]
  rfl

theorem outputsOf_other {a : lab} (other : owner a ≠ i) (inputs : List lab) (o : out)
    (outputs : List out) :
    outputsOf owner i (a :: inputs) (o :: outputs) = outputsOf owner i inputs outputs := by
  rw [outputsOf, List.zip_cons_cons, List.filter_cons_of_neg (by simpa using other)]
  rfl

end

/-- The unwinding conditions on one step, for one owner and what it sees of the state. -/
structure Separated [DecidableEq own] (step : σ → lab → Except err (out × σ)) (owner : lab → own)
    (admits : lab → Prop) (i : own) (see : σ → view) : Prop where
  /-- The output and the next view are determined by the view. -/
  reads : ∀ a s s', admits a → owner a = i → see s = see s' →
    ∃ o t t', step s a = .ok (o, t) ∧ step s' a = .ok (o, t') ∧ see t = see t'
  /-- The inputs of others leave the view as it is. -/
  keeps : ∀ a s, admits a → owner a ≠ i → ∃ o t, step s a = .ok (o, t) ∧ see t = see s

variable {step : σ → lab → Except err (out × σ)} [DecidableEq own] {owner : lab → own}
  {admits : lab → Prop} {i : own} {see : σ → view}

theorem trace_cons {s t u : σ} {a : lab} {o : out} {inputs : List lab} {outputs : List out}
    (stepped : step s a = .ok (o, t)) (ran : trace step t inputs = .ok (outputs, u)) :
    trace step s (a :: inputs) = .ok (o :: outputs, u) := by
  simp [trace, stepped, ran, bind, Except.bind, pure, Except.pure]

theorem trace_concat {s t u : σ} {a : lab} {o : out} {inputs : List lab} {outputs : List out}
    (ran : trace step s inputs = .ok (outputs, t)) (stepped : step t a = .ok (o, u)) :
    trace step s (inputs ++ [a]) = .ok (outputs ++ [o], u) := by
  induction inputs generalizing s outputs with
  | nil =>
      cases ran
      exact trace_cons stepped rfl
  | cons b inputs ih =>
      rw [trace] at ran
      cases first : step s b with
      | error e => simp [first, bind, Except.bind] at ran
      | ok next =>
          obtain ⟨o', s'⟩ := next
          cases rest : trace step s' inputs with
          | error e => simp [first, rest, bind, Except.bind] at ran
          | ok last =>
              simp only [first, rest, bind, Except.bind, pure, Except.pure, Except.ok.injEq,
                Prod.mk.injEq] at ran
              obtain ⟨rfl, same⟩ := ran
              exact trace_cons first (ih (by rw [rest, ← same]))

/-- An owner sees the same of a run as of the run of its inputs alone. -/
theorem Separated.purge (sep : Separated step owner admits i see) {inputs : List lab}
    (admitted : ∀ a ∈ inputs, admits a) {s s' : σ} (same : see s = see s') :
    ∃ outputs t outputs' t', trace step s inputs = .ok (outputs, t) ∧
      trace step s' (inputsOf owner i inputs) = .ok (outputs', t') ∧
      outputsOf owner i inputs outputs = outputs' ∧ see t = see t' := by
  induction inputs generalizing s s' with
  | nil => exact ⟨[], s, [], s', rfl, rfl, rfl, same⟩
  | cons a inputs ih =>
      have head := admitted a List.mem_cons_self
      have tail := fun b h => admitted b (List.mem_cons_of_mem a h)
      by_cases owned : owner a = i
      · obtain ⟨o, t, t', stepped, stepped', next⟩ := sep.reads a s s' head owned same
        obtain ⟨outputs, u, outputs', u', ran, ran', rest, last⟩ := ih tail next
        refine ⟨o :: outputs, u, o :: outputs', u', trace_cons stepped ran, ?_, ?_, last⟩
        · rw [inputsOf_own owned]
          exact trace_cons stepped' ran'
        · rw [outputsOf_own owned, rest]
      · obtain ⟨o, t, stepped, kept⟩ := sep.keeps a s head owned
        obtain ⟨outputs, u, outputs', u', ran, ran', rest, last⟩ := ih tail (kept.trans same)
        refine ⟨o :: outputs, u, outputs', u', trace_cons stepped ran, ?_, ?_, last⟩
        · rw [inputsOf_other owned, ran']
        · rw [outputsOf_other owned, rest]

/-- Two runs with the same inputs of an owner look the same to it. -/
theorem Separated.trace_eq (sep : Separated step owner admits i see) {inputs inputs' : List lab}
    (admitted : ∀ a ∈ inputs, admits a) (admitted' : ∀ a ∈ inputs', admits a)
    (own : inputsOf owner i inputs = inputsOf owner i inputs') (s : σ) :
    ∃ outputs t outputs' t', trace step s inputs = .ok (outputs, t) ∧
      trace step s inputs' = .ok (outputs', t') ∧
      outputsOf owner i inputs outputs = outputsOf owner i inputs' outputs' ∧ see t = see t' := by
  obtain ⟨outputs, t, alone, u, ran, ranAlone, same, last⟩ := sep.purge admitted (rfl : see s = _)
  obtain ⟨outputs', t', alone', u', ran', ranAlone', same', last'⟩ :=
    sep.purge admitted' (rfl : see s = _)
  rw [own, ranAlone'] at ranAlone
  obtain ⟨rfl, rfl⟩ := Prod.mk.inj (Except.ok.inj ranAlone)
  exact ⟨outputs, t, outputs', t', ran, ran', same.trans same'.symm, last.trans last'.symm⟩

end Separation
