import GnssParser.Lib.Checked

/-!
# Partial correctness of checked execution

What holds of a value if it is returned.
-/

namespace Checked

variable {α β : Type} {P : α → Prop} {Q : β → Prop} {x : Checked α} {f : α → Checked β}

def Ensures (x : Checked α) (P : α → Prop) : Prop := ∀ a, x = .ok a → P a

namespace Ensures

theorem ok {a : α} (holds : P a) : Ensures (.ok a) P := by
  rintro _ ⟨⟩
  exact holds

theorem pure {a : α} (holds : P a) : Ensures (pure a) P := ok holds

theorem error {fault : Fault} : Ensures (.error fault) P := by
  rintro _ ⟨⟩

theorem bind (first : Ensures x P) (second : ∀ a, P a → Ensures (f a) Q) : Ensures (x >>= f) Q := by
  intro b returned
  obtain ⟨a, read, returned⟩ := bind_eq_ok.mp returned
  exact second a (first a read) b returned

theorem trivial (x : Checked α) : Ensures x fun _ => True := fun _ _ => True.intro

theorem ite {c : Prop} [Decidable c] {x y : Checked α} (first : c → Ensures x P)
    (second : ¬ c → Ensures y P) : Ensures (if c then x else y) P := by
  split
  case isTrue holds => exact first holds
  case isFalse fails => exact second fails

theorem mono {P' : α → Prop} (holds : Ensures x P) (weaker : ∀ a, P a → P' a) : Ensures x P' :=
  fun a returned => weaker a (holds a returned)

end Ensures

end Checked
