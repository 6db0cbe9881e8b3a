import MediaCenter.Library.ExceptList

/-!
# How a computation fails

`FailsOnly p x` says that the errors of `x` satisfy `p`.  A sequence fails as one of its steps
does.
-/

set_option autoImplicit false

namespace MediaCenter.Library

variable {ε α β : Type} {p : ε → Prop}

def FailsOnly (p : ε → Prop) (x : Except ε α) : Prop := ∀ e, x = .error e → p e

namespace FailsOnly

theorem ok (a : α) : FailsOnly p (.ok a : Except ε α) := by
  intro e h
  cases h

theorem error {e : ε} (h : p e) : FailsOnly p (.error e : Except ε α) := by
  intro e' he'
  cases he'
  exact h

theorem bind {x : Except ε α} {f : α → Except ε β} (hx : FailsOnly p x)
    (hf : ∀ a, FailsOnly p (f a)) : FailsOnly p (x >>= f) := by
  cases x with
  | error e =>
      intro e' he'
      cases he'
      exact hx e rfl
  | ok a => exact hf a

theorem bind_iff {x : Except ε α} {f : α → Except ε β} :
    FailsOnly p (x >>= f) ↔ FailsOnly p x ∧ ∀ a, x = .ok a → FailsOnly p (f a) := by
  cases x with
  | error e =>
      constructor
      · intro h
        exact ⟨error (h e rfl), by rintro a ⟨⟩⟩
      · rintro ⟨h, _⟩
        exact error (h e rfl)
  | ok a =>
      constructor
      · intro h
        exact ⟨ok a, by rintro _ ⟨⟩; exact h⟩
      · rintro ⟨_, h⟩
        exact h a rfl

theorem refuseIf {condition : Prop} [Decidable condition] {e : ε} (h : p e) :
    FailsOnly p (Library.refuseIf condition e) := by
  unfold Library.refuseIf
  split
  · exact error h
  · exact ok ()

end FailsOnly

end MediaCenter.Library
