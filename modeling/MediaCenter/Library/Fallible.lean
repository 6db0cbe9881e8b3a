import Mathlib.Data.List.Basic
import Mathlib.Tactic.Common

/-!
# Fallible programs that write

A program works on a state and may raise; what it wrote before stays.  The equations take a
program apart one statement at a time, and a loop goes by its invariant.
-/

set_option autoImplicit false

namespace MediaCenter.Library

def Fallible (σ ε α : Type) : Type := σ → Except ε α × σ

namespace Fallible

variable {σ ε α β : Type}

/-- Run a program: how it ended, and the state it left. -/
def exec (x : Fallible σ ε α) (s : σ) : Except ε α × σ := x s

protected def bind (x : Fallible σ ε α) (f : α → Fallible σ ε β) : Fallible σ ε β := fun s =>
  match x s with
  | (.ok a, s') => f a s'
  | (.error e, s') => (.error e, s')

instance : Monad (Fallible σ ε) where
  pure a := fun s => (.ok a, s)
  bind := Fallible.bind

/-- Read the state, or raise what the reading raises. -/
def inspect (f : σ → Except ε α) : Fallible σ ε α := fun s => (f s, s)

/-- Write the state. -/
def change (f : σ → σ) : Fallible σ ε Unit := fun s => (.ok (), f s)

/-- Raise what a pure computation raises, return what it returns. -/
def ofExcept (x : Except ε α) : Fallible σ ε α := fun s => (x, s)

/-! ## Symbolic execution -/

section Execution

@[simp] theorem exec_pure (a : α) (s : σ) :
    exec (pure a : Fallible σ ε α) s = (.ok a, s) := rfl

@[simp] theorem exec_inspect (f : σ → Except ε α) (s : σ) :
    exec (inspect f) s = (f s, s) := rfl

@[simp] theorem exec_change (f : σ → σ) (s : σ) :
    exec (change f : Fallible σ ε Unit) s = (.ok (), f s) := rfl

@[simp] theorem exec_ofExcept (x : Except ε α) (s : σ) :
    exec (ofExcept x : Fallible σ ε α) s = (x, s) := rfl

theorem exec_bind (x : Fallible σ ε α) (f : α → Fallible σ ε β) (s : σ) :
    exec (x >>= f) s = match exec x s with
      | (.ok a, s') => exec (f a) s'
      | (.error e, s') => (.error e, s') := rfl

theorem exec_bind_of_ok {x : Fallible σ ε α} {s s' : σ} {a : α} (h : exec x s = (.ok a, s'))
    (f : α → Fallible σ ε β) : exec (x >>= f) s = exec (f a) s' := by
  rw [exec_bind, h]

theorem exec_bind_of_error {x : Fallible σ ε α} {s s' : σ} {e : ε}
    (h : exec x s = (.error e, s')) (f : α → Fallible σ ε β) :
    exec (x >>= f) s = (.error e, s') := by
  rw [exec_bind, h]

theorem exec_ofExcept_bind (x : Except ε α) (f : α → Fallible σ ε β) (s : σ) :
    exec (ofExcept x >>= f) s = match x with
      | .ok a => exec (f a) s
      | .error e => (.error e, s) := by
  cases x <;> rfl

theorem exec_inspect_bind (g : σ → Except ε α) (f : α → Fallible σ ε β) (s : σ) :
    exec (inspect g >>= f) s = match g s with
      | .ok a => exec (f a) s
      | .error e => (.error e, s) := by
  rw [exec_bind, exec_inspect]
  cases g s <;> rfl

theorem exec_change_bind (g : σ → σ) (f : Unit → Fallible σ ε β) (s : σ) :
    exec (change g >>= f) s = exec (f ()) (g s) := rfl

/-- INTERNAL: a sequence returns exactly when its first statement does, and then its rest. -/
theorem exec_bind_eq_ok_iff {x : Fallible σ ε α} {f : α → Fallible σ ε β} {s s'' : σ} {b : β} :
    exec (x >>= f) s = (.ok b, s'') ↔
      ∃ a s', exec x s = (.ok a, s') ∧ exec (f a) s' = (.ok b, s'') := by
  rw [exec_bind]
  rcases exec x s with ⟨result, s'⟩
  cases result with
  | error e => simp
  | ok a =>
      constructor
      · intro h
        exact ⟨a, s', rfl, h⟩
      · rintro ⟨a', t, h, hrest⟩
        cases h
        exact hrest

end Execution

/-! ## What a program does to the state -/

section Relation

variable {R : σ → σ → Prop}

/-- Every run of the program relates the state it starts in to the state it ends in. -/
def Keeps (R : σ → σ → Prop) (x : Fallible σ ε α) : Prop := ∀ s, R s (exec x s).2

theorem keeps_pure (hrefl : ∀ s, R s s) (a : α) : Keeps R (pure a : Fallible σ ε α) :=
  hrefl

theorem keeps_inspect (hrefl : ∀ s, R s s) (f : σ → Except ε α) : Keeps R (inspect f) := hrefl

theorem keeps_ofExcept (hrefl : ∀ s, R s s) (x : Except ε α) :
    Keeps R (ofExcept x : Fallible σ ε α) := hrefl

theorem keeps_change {f : σ → σ} (h : ∀ s, R s (f s)) :
    Keeps R (change f : Fallible σ ε Unit) := h

theorem keeps_bind (htrans : ∀ s t u, R s t → R t u → R s u) {x : Fallible σ ε α}
    {f : α → Fallible σ ε β} (hx : Keeps R x) (hf : ∀ a, Keeps R (f a)) :
    Keeps R (x >>= f) := by
  intro s
  have hfirst := hx s
  rw [exec_bind]
  rcases hrun : exec x s with ⟨result, s'⟩
  rw [hrun] at hfirst
  cases result with
  | error e => exact hfirst
  | ok a => exact htrans _ _ _ hfirst (hf a s')

theorem keeps_foldlM (hrefl : ∀ s, R s s) (htrans : ∀ s t u, R s t → R t u → R s u)
    {f : β → α → Fallible σ ε β} (hf : ∀ b a, Keeps R (f b a)) (l : List α) (b : β) :
    Keeps R (l.foldlM f b) := by
  induction l generalizing b with
  | nil => exact keeps_pure hrefl b
  | cons a l ih => exact keeps_bind htrans (hf b a) ih

end Relation

/-! ## Loops -/

section Loops

variable {f : β → α → Fallible σ ε β}

theorem exec_foldlM_cons (a : α) (l : List α) (b : β) (s : σ) :
    exec ((a :: l).foldlM f b) s = match exec (f b a) s with
      | (.ok b', s') => exec (l.foldlM f b') s'
      | (.error e, s') => (.error e, s') := rfl

/-- The invariant of a loop that returns: `P done b s` holds once the items of `done` are
through. -/
theorem foldlM_invariant {P : List α → β → σ → Prop}
    (hstep : ∀ done a b s b' s', P done b s → exec (f b a) s = (.ok b', s') →
      P (done ++ [a]) b' s')
    {l : List α} {b b' : β} {s s' : σ} (hstart : P [] b s)
    (hrun : exec (l.foldlM f b) s = (.ok b', s')) : P l b' s' := by
  suffices h : ∀ rest done b s, P done b s → exec (rest.foldlM f b) s = (.ok b', s') →
      P (done ++ rest) b' s' from h l [] b s hstart hrun
  intro rest
  induction rest with
  | nil =>
      intro done b s hdone hrun
      cases hrun
      rw [List.append_nil]
      exact hdone
  | cons a rest ih =>
      intro done b s hdone hrun
      rw [exec_foldlM_cons] at hrun
      rcases hfirst : exec (f b a) s with ⟨result, t⟩
      rw [hfirst] at hrun
      cases result with
      | error e => cases hrun
      | ok b₁ =>
          rw [List.append_cons done a rest]
          exact ih (done ++ [a]) b₁ t (hstep done a b s b₁ t hdone hfirst) hrun

/-- A loop returns if no item fails in a state that meets the invariant. -/
theorem exists_exec_foldlM {P : List α → β → σ → Prop} {l : List α}
    (hstep : ∀ done a rest b s, l = done ++ a :: rest → P done b s →
      ∃ b' s', exec (f b a) s = (.ok b', s') ∧ P (done ++ [a]) b' s')
    {b : β} {s : σ} (hstart : P [] b s) :
    ∃ b' s', exec (l.foldlM f b) s = (.ok b', s') ∧ P l b' s' := by
  suffices h : ∀ rest done b s, l = done ++ rest → P done b s →
      ∃ b' s', exec (rest.foldlM f b) s = (.ok b', s') ∧ P l b' s' from
    h l [] b s rfl hstart
  intro rest
  induction rest with
  | nil =>
      intro done b s hsplit hdone
      rw [List.append_nil] at hsplit
      rw [hsplit]
      exact ⟨b, s, rfl, hdone⟩
  | cons a rest ih =>
      intro done b s hsplit hdone
      obtain ⟨b₁, s₁, hfirst, hnext⟩ := hstep done a rest b s hsplit hdone
      obtain ⟨b', s', hrun, hend⟩ := ih (done ++ [a]) b₁ s₁ (by simp [hsplit]) hnext
      refine ⟨b', s', ?_, hend⟩
      rw [exec_foldlM_cons, hfirst]
      exact hrun

end Loops

end Fallible

end MediaCenter.Library
