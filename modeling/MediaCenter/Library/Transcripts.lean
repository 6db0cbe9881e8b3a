import MediaCenter.Library.Coroutine

/-!
# Transcripts of a coroutine that runs alone

Nobody else runs: the state at an await is the state after it.  The transcript of a run lists
its awaits, each with the state it was made in, its request and the answer.

* `transcript` is the list, for given answers; `complete` is the end of the same run.
* `Alone x s Q`: every run of `x` from `s` has a transcript, a result and a last state in `Q`.

Like the calculus of `wp`, `Alone` is computed by one equation per way to build a coroutine.
-/

set_option autoImplicit false

namespace MediaCenter.Library

/-- An await: the state, the request and the answer. -/
structure Exchange (I : Interface) (σ : Type) where
  state : σ
  request : I.Request
  answer : I.Answer request

namespace Coroutine

variable {I : Interface} {σ ε α β : Type}

/-- The awaits of a run, in order; the `n`-th is answered by `answers n`. -/
def transcript : Coroutine I σ ε α → (ℕ → ∀ q, I.Answer q) → σ → List (Exchange I σ)
  | ret _, _, _ => []
  | raise _, _, _ => []
  | access f k, answers, s => (k s).transcript answers (f s)
  | await q k, answers, s =>
      ⟨s, q, answers 0 q⟩ :: (k (answers 0 q)).transcript (fun n => answers (n + 1)) s

/-- The weakest precondition of runs without interference, for postconditions that see the
transcript. -/
def Alone : Coroutine I σ ε α → σ → (List (Exchange I σ) → Except ε α → σ → Prop) → Prop
  | ret a, s, Q => Q [] (.ok a) s
  | raise e, s, Q => Q [] (.error e) s
  | access f k, s, Q => (k s).Alone (f s) Q
  | await q k, s, Q => ∀ a, (k a).Alone s fun l => Q (⟨s, q, a⟩ :: l)

section Calculus

variable {Q : List (Exchange I σ) → Except ε α → σ → Prop} {s : σ}

@[simp] theorem alone_pure (a : α) :
    (pure a : Coroutine I σ ε α).Alone s Q = Q [] (.ok a) s := rfl

@[simp] theorem alone_throw (e : ε) :
    (throw e : Coroutine I σ ε α).Alone s Q = Q [] (.error e) s := rfl

@[simp] theorem alone_ofExcept (x : Except ε α) :
    (ofExcept x : Coroutine I σ ε α).Alone s Q = Q [] x s := by
  cases x <;> rfl

@[simp] theorem alone_inspect (f : σ → Except ε α) :
    (inspect f : Coroutine I σ ε α).Alone s Q = Q [] (f s) s := by
  rw [inspect, Alone, alone_ofExcept, id]

theorem alone_update (f : σ → Except ε (α × σ)) :
    (update f : Coroutine I σ ε α).Alone s Q =
      match f s with
      | .ok (a, s') => Q [] (.ok a) s'
      | .error e => Q [] (.error e) s := by
  rw [update, Alone, alone_ofExcept]
  cases f s <;> rfl

theorem alone_perform (q : I.Request)
    {Q : List (Exchange I σ) → Except ε (I.Answer q) → σ → Prop} :
    (perform q : Coroutine I σ ε (I.Answer q)).Alone s Q = ∀ a, Q [⟨s, q, a⟩] (.ok a) s := rfl

theorem alone_attempt {Request : Type} {Result : Request → Type} (q : Request)
    {Q : List (Exchange (Interface.fallible Request ε Result) σ) → Except ε (Result q) →
      σ → Prop} :
    (attempt q : Coroutine (Interface.fallible Request ε Result) σ ε (Result q)).Alone s Q =
      ∀ a, Q [⟨s, q, a⟩] a s := by
  simp only [attempt, Alone, alone_ofExcept]

/-- The postcondition of the first half of a sequence: go on if it returned. -/
def andThenAlone (g : α → Coroutine I σ ε β)
    (Q : List (Exchange I σ) → Except ε β → σ → Prop) :
    List (Exchange I σ) → Except ε α → σ → Prop
  | l, .ok a, s => (g a).Alone s fun l' => Q (l ++ l')
  | l, .error e, s => Q l (.error e) s

@[simp] theorem andThenAlone_ok {g : α → Coroutine I σ ε β}
    {Q : List (Exchange I σ) → Except ε β → σ → Prop} (l : List (Exchange I σ)) (a : α) :
    andThenAlone g Q l (.ok a) s = (g a).Alone s fun l' => Q (l ++ l') := rfl

@[simp] theorem andThenAlone_error {g : α → Coroutine I σ ε β}
    {Q : List (Exchange I σ) → Except ε β → σ → Prop} (l : List (Exchange I σ)) (e : ε) :
    andThenAlone g Q l (.error e) s = Q l (.error e) s := rfl

theorem alone_bind' (x : Coroutine I σ ε α) (g : α → Coroutine I σ ε β)
    (Q : List (Exchange I σ) → Except ε β → σ → Prop) (s : σ) :
    (x.bind g).Alone s Q = x.Alone s (andThenAlone g Q) := by
  induction x generalizing s Q with
  | ret a => rfl
  | raise e => rfl
  | access f k ih => exact ih s Q (f s)
  | await q k ih =>
      simp only [Coroutine.bind, Alone]
      apply forall_congr
      intro a
      rw [ih]
      congr 1
      funext l res s'
      cases res <;> rfl

@[simp] theorem alone_bind (x : Coroutine I σ ε α) (g : α → Coroutine I σ ε β)
    {Q : List (Exchange I σ) → Except ε β → σ → Prop} :
    (x >>= g).Alone s Q = x.Alone s (andThenAlone g Q) :=
  alone_bind' x g Q s

@[simp] theorem alone_ite (c : Prop) [Decidable c] (x y : Coroutine I σ ε α) :
    (if c then x else y).Alone s Q = if c then x.Alone s Q else y.Alone s Q := by
  split <;> rfl

/-- The rule of consequence. -/
theorem alone_mono {Q' : List (Exchange I σ) → Except ε α → σ → Prop}
    (hQ : ∀ l res s', Q l res s' → Q' l res s') (x : Coroutine I σ ε α) (s : σ)
    (h : x.Alone s Q) : x.Alone s Q' := by
  induction x generalizing s Q Q' with
  | ret a => exact hQ _ _ _ h
  | raise e => exact hQ _ _ _ h
  | access f k ih => exact ih s hQ (f s) h
  | await q k ih => exact fun a => ih a (fun l => hQ _) s (h a)

/-- What the calculus shows holds of the run with any answers. -/
theorem Alone.complete {x : Coroutine I σ ε α} {s : σ} (h : x.Alone s Q)
    (answers : ℕ → ∀ q, I.Answer q) :
    Q (x.transcript answers s) (x.complete answers s).1 (x.complete answers s).2 := by
  induction x generalizing s Q answers with
  | ret a => exact h
  | raise e => exact h
  | access f k ih => exact ih s h answers
  | await q k ih => exact ih (answers 0 q) (h (answers 0 q)) fun n => answers (n + 1)

end Calculus

-- proofs about programs go through the equations above, never through the recursion
attribute [irreducible] Alone

end Coroutine

end MediaCenter.Library
