import Mathlib.Logic.Basic
import Mathlib.Tactic.Common

/-!
# Coroutines over a shared state

An `async` function touches the shared state, raises, returns, or awaits the answer to a
request.  `Coroutine I σ ε α` is the syntax of such programs: between two awaits
nothing else runs, at an await anything may.

* `advance` runs a coroutine up to its next await.
* `complete` runs it to the end, all awaits answered at once and nobody interfering.
* `wp R Φ` is the weakest precondition under interference: other programs change the
  state at an await by a step of `R`, and every segment of this one (from a call or an
  answer to the next await) must keep the guarantee `Φ`.

The calculus is computed by `simp`: one equation per way to build a coroutine.
-/

set_option autoImplicit false

namespace MediaCenter.Library

/-- What programs may await: the requests, and the type of each one's answer. -/
structure Interface where
  Request : Type
  Answer : Request → Type

/-- Requests that may fail: an answer is a result or an exception. -/
@[reducible] def Interface.fallible (Request : Type) (ε : Type)
    (Result : Request → Type) : Interface :=
  ⟨Request, fun q => Except ε (Result q)⟩

inductive Coroutine (I : Interface) (σ ε α : Type) : Type where
  | ret (a : α)
  | raise (e : ε)
  | access (f : σ → σ) (k : σ → Coroutine I σ ε α)
  | await (q : I.Request) (k : I.Answer q → Coroutine I σ ε α)

/-- How a segment of a coroutine was started: by its call, or by an answer. -/
abbrev Resumption (I : Interface) : Type := Option (Σ q : I.Request, I.Answer q)

namespace Coroutine

variable {I : Interface} {σ ε α β : Type}

protected def bind : Coroutine I σ ε α → (α → Coroutine I σ ε β) → Coroutine I σ ε β
  | ret a, g => g a
  | raise e, _ => raise e
  | access f k, g => access f fun s => (k s).bind g
  | await q k, g => await q fun a => (k a).bind g

/-- `try: x; except Exception as e: h e`. -/
protected def tryCatch : Coroutine I σ ε α → (ε → Coroutine I σ ε α) → Coroutine I σ ε α
  | ret a, _ => ret a
  | raise e, h => h e
  | access f k, h => access f fun s => (k s).tryCatch h
  | await q k, h => await q fun a => (k a).tryCatch h

instance : Monad (Coroutine I σ ε) where
  pure := ret
  bind := Coroutine.bind

instance : MonadExceptOf ε (Coroutine I σ ε) where
  throw := raise
  tryCatch := Coroutine.tryCatch

/-- Raise what a pure computation raises, return what it returns. -/
def ofExcept : Except ε α → Coroutine I σ ε α
  | .ok a => ret a
  | .error e => raise e

/-- Read the shared state. -/
def inspect (f : σ → Except ε α) : Coroutine I σ ε α :=
  access id fun s => ofExcept (f s)

/-- Change the shared state, unless the change itself raises. -/
def update (f : σ → Except ε (α × σ)) : Coroutine I σ ε α :=
  access (fun s => match f s with | .ok (_, s') => s' | .error _ => s)
    fun s => ofExcept ((f s).map Prod.fst)

/-- Await the answer to a request. -/
def perform (q : I.Request) : Coroutine I σ ε (I.Answer q) := await q ret

/-- Await a request that may fail, and raise what it raises. -/
def attempt {Request : Type} {Result : Request → Type} (q : Request) :
    Coroutine (Interface.fallible Request ε Result) σ ε (Result q) :=
  await q ofExcept

/-- How a block ended, for the code that runs after it either way (`try: x; finally: …`). -/
def settle (x : Coroutine I σ ε α) : Coroutine I σ ε (Except ε α) :=
  tryCatch (Except.ok <$> x) fun e => pure (.error e)

/-- A coroutine at rest: it has ended, or it waits for an answer. -/
inductive Pause (I : Interface) (σ ε α : Type) : Type where
  | finished (r : Except ε α)
  | suspended (q : I.Request) (k : I.Answer q → Coroutine I σ ε α)

/-- Run up to the next await. -/
def advance : Coroutine I σ ε α → σ → Pause I σ ε α × σ
  | ret a, s => (.finished (.ok a), s)
  | raise e, s => (.finished (.error e), s)
  | access f k, s => (k s).advance (f s)
  | await q k, s => (.suspended q k, s)

/-- Run to the end without interference; the `n`-th await is answered by `answers n`. -/
def complete : Coroutine I σ ε α → (ℕ → ∀ q, I.Answer q) → σ → Except ε α × σ
  | ret a, _, s => (.ok a, s)
  | raise e, _, s => (.error e, s)
  | access f k, answers, s => (k s).complete answers (f s)
  | await q k, answers, s => (k (answers 0 q)).complete (fun n => answers (n + 1)) s

/-! ## Symbolic execution

What `advance` and `complete` do with each way to build a coroutine. -/

section Execution

/-- What the first half of a sequence leaves to the second. -/
def Pause.andThen (g : α → Coroutine I σ ε β) : Pause I σ ε α × σ → Pause I σ ε β × σ
  | (.finished (.ok a), s) => (g a).advance s
  | (.finished (.error e), s) => (.finished (.error e), s)
  | (.suspended q k, s) => (.suspended q fun a => k a >>= g, s)

theorem advance_bind (x : Coroutine I σ ε α) (g : α → Coroutine I σ ε β) (s : σ) :
    (x >>= g).advance s = Pause.andThen g (x.advance s) := by
  induction x generalizing s with
  | ret a => rfl
  | raise e => rfl
  | access f k ih => exact ih s (f s)
  | await q k ih => rfl

def Pause.orElse (h : ε → Coroutine I σ ε α) : Pause I σ ε α × σ → Pause I σ ε α × σ
  | (.finished (.ok a), s) => (.finished (.ok a), s)
  | (.finished (.error e), s) => (h e).advance s
  | (.suspended q k, s) => (.suspended q fun a => tryCatch (k a) h, s)

theorem advance_tryCatch (x : Coroutine I σ ε α) (h : ε → Coroutine I σ ε α) (s : σ) :
    (tryCatch x h).advance s = Pause.orElse h (x.advance s) := by
  induction x generalizing s with
  | ret a => rfl
  | raise e => rfl
  | access f k ih => exact ih s (f s)
  | await q k ih => rfl

theorem advance_map (f : α → β) (x : Coroutine I σ ε α) (s : σ) :
    (f <$> x).advance s = Pause.andThen (fun a => pure (f a)) (x.advance s) :=
  advance_bind x (fun a => pure (f a)) s

/-- What is done with the result does not touch the state. -/
theorem snd_advance_map (f : α → β) (x : Coroutine I σ ε α) (s : σ) :
    ((f <$> x).advance s).2 = (x.advance s).2 := by
  rw [advance_map]
  rcases x.advance s with ⟨p, s'⟩
  cases p with
  | finished res =>
      cases res with
      | ok a => rfl
      | error e => rfl
  | suspended q k => rfl

theorem advance_map_of_suspended (f : α → β) {x : Coroutine I σ ε α} {s s' : σ}
    {q : I.Request} {k : I.Answer q → Coroutine I σ ε α}
    (h : x.advance s = (.suspended q k, s')) :
    (f <$> x).advance s = (.suspended q fun a => f <$> k a, s') := by
  rw [advance_map, h]
  rfl

theorem advance_settle_of_suspended {x : Coroutine I σ ε α} {s s' : σ} {q : I.Request}
    {k : I.Answer q → Coroutine I σ ε α} (h : x.advance s = (.suspended q k, s')) :
    x.settle.advance s = (.suspended q fun a => (k a).settle, s') := by
  rw [settle, advance_tryCatch, advance_map_of_suspended Except.ok h]
  rfl

@[simp] theorem settle_ofExcept (x : Except ε α) :
    (ofExcept x : Coroutine I σ ε α).settle = pure x := by
  cases x <;> rfl

@[simp] theorem advance_pure (a : α) (s : σ) :
    (pure a : Coroutine I σ ε α).advance s = (.finished (.ok a), s) := rfl

@[simp] theorem advance_throw (e : ε) (s : σ) :
    (throw e : Coroutine I σ ε α).advance s = (.finished (.error e), s) := rfl

@[simp] theorem advance_ofExcept (x : Except ε α) (s : σ) :
    (ofExcept x : Coroutine I σ ε α).advance s = (.finished x, s) := by
  cases x <;> rfl

@[simp] theorem advance_inspect (f : σ → Except ε α) (s : σ) :
    (inspect f : Coroutine I σ ε α).advance s = (.finished (f s), s) := by
  rw [inspect, advance, advance_ofExcept, id]

theorem advance_update (f : σ → Except ε (α × σ)) (s : σ) :
    (update f : Coroutine I σ ε α).advance s =
      match f s with
      | .ok (a, s') => (.finished (.ok a), s')
      | .error e => (.finished (.error e), s) := by
  rw [update, advance, advance_ofExcept]
  cases f s <;> rfl

theorem advance_ofExcept_bind (x : Except ε α) (g : α → Coroutine I σ ε β) (s : σ) :
    (ofExcept x >>= g).advance s =
      match x with
      | .ok a => (g a).advance s
      | .error e => (.finished (.error e), s) := by
  rw [advance_bind, advance_ofExcept]
  cases x <;> rfl

theorem advance_inspect_bind (f : σ → Except ε α) (g : α → Coroutine I σ ε β) (s : σ) :
    (inspect f >>= g).advance s =
      match f s with
      | .ok a => (g a).advance s
      | .error e => (.finished (.error e), s) := by
  rw [advance_bind, advance_inspect]
  cases f s <;> rfl

theorem advance_update_bind (f : σ → Except ε (α × σ)) (g : α → Coroutine I σ ε β) (s : σ) :
    (update f >>= g).advance s =
      match f s with
      | .ok (a, s') => (g a).advance s'
      | .error e => (.finished (.error e), s) := by
  rw [advance_bind, advance_update]
  cases f s <;> rfl

/-- A run to the end goes through the first pause. -/
theorem complete_eq (x : Coroutine I σ ε α) (answers : ℕ → ∀ q, I.Answer q) (s : σ) :
    x.complete answers s =
      match x.advance s with
      | (.finished res, s') => (res, s')
      | (.suspended q k, s') => (k (answers 0 q)).complete (fun n => answers (n + 1)) s' := by
  induction x generalizing s with
  | ret a => rfl
  | raise e => rfl
  | access f k ih => exact ih s (f s)
  | await q k ih => rfl

theorem complete_map (f : α → β) (x : Coroutine I σ ε α) (answers : ℕ → ∀ q, I.Answer q)
    (s : σ) : (f <$> x).complete answers s =
      ((x.complete answers s).1.map f, (x.complete answers s).2) := by
  induction x generalizing answers s with
  | ret a => rfl
  | raise e => rfl
  | access g k ih => exact ih s answers (g s)
  | await q k ih => exact ih (answers 0 q) (fun n => answers (n + 1)) s

end Execution

/-! ## The weakest precondition -/

/-- `x.wp R Φ Q r s₀ s`: a segment that was started by `r` in the state `s₀` and has
reached `s` may go on as `x`.  It keeps the guarantee `Φ` at every await, for every
answer and every interference by `R`, and ends in the postcondition `Q`. -/
def wp (R : σ → σ → Prop) (Φ : Resumption I → σ → σ → Prop) :
    Coroutine I σ ε α → (Except ε α → Resumption I → σ → σ → Prop) →
      Resumption I → σ → σ → Prop
  | ret a, Q, r, s₀, s => Q (.ok a) r s₀ s
  | raise e, Q, r, s₀, s => Q (.error e) r s₀ s
  | access f k, Q, r, s₀, s => (k s).wp R Φ Q r s₀ (f s)
  | await q k, Q, r, s₀, s =>
      Φ r s₀ s ∧ ∀ a s', R s s' → (k a).wp R Φ Q (some ⟨q, a⟩) s' s'

/-- The postcondition of the first half of a sequence: go on if it returned. -/
def andThen (R : σ → σ → Prop) (Φ : Resumption I → σ → σ → Prop)
    (g : α → Coroutine I σ ε β) (Q : Except ε β → Resumption I → σ → σ → Prop) :
    Except ε α → Resumption I → σ → σ → Prop
  | .ok a, r, s₀, s => (g a).wp R Φ Q r s₀ s
  | .error e, r, s₀, s => Q (.error e) r s₀ s

/-- The postcondition of a guarded block: go on with the handler if it raised. -/
def orElse (R : σ → σ → Prop) (Φ : Resumption I → σ → σ → Prop)
    (h : ε → Coroutine I σ ε α) (Q : Except ε α → Resumption I → σ → σ → Prop) :
    Except ε α → Resumption I → σ → σ → Prop
  | .ok a, r, s₀, s => Q (.ok a) r s₀ s
  | .error e, r, s₀, s => (h e).wp R Φ Q r s₀ s

section Calculus

variable {R : σ → σ → Prop} {Φ : Resumption I → σ → σ → Prop}
  {Q : Except ε α → Resumption I → σ → σ → Prop} {r : Resumption I} {s₀ s : σ}

@[simp] theorem andThen_ok {g : α → Coroutine I σ ε β}
    {Q : Except ε β → Resumption I → σ → σ → Prop} (a : α) :
    andThen R Φ g Q (.ok a) r s₀ s = (g a).wp R Φ Q r s₀ s := rfl

@[simp] theorem andThen_error {g : α → Coroutine I σ ε β}
    {Q : Except ε β → Resumption I → σ → σ → Prop} (e : ε) :
    andThen R Φ g Q (.error e) r s₀ s = Q (.error e) r s₀ s := rfl

@[simp] theorem orElse_ok {h : ε → Coroutine I σ ε α} (a : α) :
    orElse R Φ h Q (.ok a) r s₀ s = Q (.ok a) r s₀ s := rfl

@[simp] theorem orElse_error {h : ε → Coroutine I σ ε α} (e : ε) :
    orElse R Φ h Q (.error e) r s₀ s = (h e).wp R Φ Q r s₀ s := rfl

@[simp] theorem wp_pure (a : α) :
    (pure a : Coroutine I σ ε α).wp R Φ Q r s₀ s = Q (.ok a) r s₀ s := rfl

@[simp] theorem wp_throw (e : ε) :
    (throw e : Coroutine I σ ε α).wp R Φ Q r s₀ s = Q (.error e) r s₀ s := rfl

@[simp] theorem wp_ofExcept (x : Except ε α) :
    (ofExcept x : Coroutine I σ ε α).wp R Φ Q r s₀ s = Q x r s₀ s := by
  cases x <;> rfl

@[simp] theorem wp_inspect (f : σ → Except ε α) :
    (inspect f : Coroutine I σ ε α).wp R Φ Q r s₀ s = Q (f s) r s₀ s := by
  rw [inspect, wp, wp_ofExcept, id]

theorem wp_update (f : σ → Except ε (α × σ)) :
    (update f : Coroutine I σ ε α).wp R Φ Q r s₀ s =
      match f s with
      | .ok (a, s') => Q (.ok a) r s₀ s'
      | .error e => Q (.error e) r s₀ s := by
  rw [update, wp, wp_ofExcept]
  cases f s <;> rfl

/-- The rule of an await: the guarantee holds of the segment that ends here, and the next
one starts from any state the others may leave. -/
@[simp] theorem wp_perform (q : I.Request)
    {Q : Except ε (I.Answer q) → Resumption I → σ → σ → Prop} :
    (perform q : Coroutine I σ ε (I.Answer q)).wp R Φ Q r s₀ s =
      (Φ r s₀ s ∧ ∀ a s', R s s' → Q (.ok a) (some ⟨q, a⟩) s' s') := rfl

@[simp] theorem wp_attempt {Request : Type} {Result : Request → Type}
    {Φ : Resumption (Interface.fallible Request ε Result) → σ → σ → Prop} (q : Request)
    {r : Resumption (Interface.fallible Request ε Result)}
    {Q : Except ε (Result q) → Resumption (Interface.fallible Request ε Result) →
      σ → σ → Prop} :
    (attempt q : Coroutine (Interface.fallible Request ε Result) σ ε (Result q)).wp
        R Φ Q r s₀ s =
      (Φ r s₀ s ∧ ∀ a s', R s s' → Q a (some ⟨q, a⟩) s' s') := by
  simp only [attempt, wp, wp_ofExcept]

theorem wp_bind' (x : Coroutine I σ ε α) (g : α → Coroutine I σ ε β)
    (Q : Except ε β → Resumption I → σ → σ → Prop) (r : Resumption I) (s₀ s : σ) :
    (x.bind g).wp R Φ Q r s₀ s = x.wp R Φ (andThen R Φ g Q) r s₀ s := by
  induction x generalizing r s₀ s with
  | ret a => rfl
  | raise e => rfl
  | access f k ih => exact ih s r s₀ (f s)
  | await q k ih => simp only [Coroutine.bind, wp, ih]

@[simp] theorem wp_bind (x : Coroutine I σ ε α) (g : α → Coroutine I σ ε β)
    {Q : Except ε β → Resumption I → σ → σ → Prop} :
    (x >>= g).wp R Φ Q r s₀ s = x.wp R Φ (andThen R Φ g Q) r s₀ s :=
  wp_bind' x g Q r s₀ s

theorem wp_tryCatch' (x : Coroutine I σ ε α) (h : ε → Coroutine I σ ε α)
    (Q : Except ε α → Resumption I → σ → σ → Prop) (r : Resumption I) (s₀ s : σ) :
    (x.tryCatch h).wp R Φ Q r s₀ s = x.wp R Φ (orElse R Φ h Q) r s₀ s := by
  induction x generalizing r s₀ s with
  | ret a => rfl
  | raise e => rfl
  | access f k ih => exact ih s r s₀ (f s)
  | await q k ih => simp only [Coroutine.tryCatch, wp, ih]

@[simp] theorem wp_tryCatch (x : Coroutine I σ ε α) (h : ε → Coroutine I σ ε α) :
    (tryCatch x h).wp R Φ Q r s₀ s = x.wp R Φ (orElse R Φ h Q) r s₀ s :=
  wp_tryCatch' x h Q r s₀ s

@[simp] theorem wp_map (g : α → β) (x : Coroutine I σ ε α)
    {Q : Except ε β → Resumption I → σ → σ → Prop} :
    (g <$> x).wp R Φ Q r s₀ s =
      x.wp R Φ (andThen R Φ (fun a => pure (g a)) Q) r s₀ s :=
  wp_bind' x (fun a => pure (g a)) Q r s₀ s

@[simp] theorem wp_ite (c : Prop) [Decidable c] (x y : Coroutine I σ ε α) :
    (if c then x else y).wp R Φ Q r s₀ s =
      if c then x.wp R Φ Q r s₀ s else y.wp R Φ Q r s₀ s := by
  split <;> rfl

/-- The rule of consequence, for the guarantee and the postcondition at once. -/
theorem wp_mono {Φ' : Resumption I → σ → σ → Prop}
    {Q' : Except ε α → Resumption I → σ → σ → Prop}
    (hΦ : ∀ r s₀ s, Φ r s₀ s → Φ' r s₀ s)
    (hQ : ∀ res r s₀ s, Q res r s₀ s → Q' res r s₀ s)
    (x : Coroutine I σ ε α) (r : Resumption I) (s₀ s : σ) (h : x.wp R Φ Q r s₀ s) :
    x.wp R Φ' Q' r s₀ s := by
  induction x generalizing r s₀ s with
  | ret a => exact hQ _ _ _ _ h
  | raise e => exact hQ _ _ _ _ h
  | access f k ih => exact ih s r s₀ (f s) h
  | await q k ih => exact ⟨hΦ _ _ _ h.1, fun a s' hR => ih a _ _ _ (h.2 a s' hR)⟩

end Calculus

/-! ## What the precondition says of runs -/

/-- A program that satisfies its precondition pauses in its postcondition, or at an await
with the guarantee kept and the rest of the program ready for every interference. -/
theorem wp_advance {R : σ → σ → Prop} {Φ : Resumption I → σ → σ → Prop}
    {Q : Except ε α → Resumption I → σ → σ → Prop} (x : Coroutine I σ ε α)
    (r : Resumption I) (s₀ s : σ) (h : x.wp R Φ Q r s₀ s) :
    match x.advance s with
    | (.finished res, s') => Q res r s₀ s'
    | (.suspended q k, s') =>
        Φ r s₀ s' ∧ ∀ a s'', R s' s'' → (k a).wp R Φ Q (some ⟨q, a⟩) s'' s'' := by
  induction x generalizing s with
  | ret a => exact h
  | raise e => exact h
  | access f k ih => exact ih s (f s) h
  | await q k => exact h

/-- The other way: what holds at the first pause, and from there on, is the precondition. -/
theorem wp_of_advance {R : σ → σ → Prop} {Φ : Resumption I → σ → σ → Prop}
    {Q : Except ε α → Resumption I → σ → σ → Prop} (x : Coroutine I σ ε α)
    (r : Resumption I) (s₀ s : σ)
    (h : match x.advance s with
      | (.finished res, s') => Q res r s₀ s'
      | (.suspended q k, s') =>
          Φ r s₀ s' ∧ ∀ a s'', R s' s'' → (k a).wp R Φ Q (some ⟨q, a⟩) s'' s'') :
    x.wp R Φ Q r s₀ s := by
  induction x generalizing s with
  | ret a => exact h
  | raise e => exact h
  | access f k ih => exact ih s (f s) h
  | await q k => exact h

/-- A program that runs without interference runs through its segments: what each of them
establishes, the whole run does. -/
theorem complete_of_segments {T : σ → σ → Prop} (htrans : ∀ a b c, T a b → T b c → T a c)
    {Φ : Resumption I → σ → σ → Prop} {Q : Except ε α → Resumption I → σ → σ → Prop}
    (hΦ : ∀ r s₀ s, Φ r s₀ s → T s₀ s) (hQ : ∀ res r s₀ s, Q res r s₀ s → T s₀ s)
    (x : Coroutine I σ ε α) (answers : ℕ → ∀ q, I.Answer q) (r : Resumption I) (s₀ s : σ)
    (h : x.wp Eq Φ Q r s₀ s) : T s₀ (x.complete answers s).2 := by
  induction x generalizing answers r s₀ s with
  | ret a => exact hQ _ _ _ _ h
  | raise e => exact hQ _ _ _ _ h
  | access f k ih => exact ih s answers r s₀ (f s) h
  | await q k ih =>
      have hrest := ih (answers 0 q) (fun n => answers (n + 1)) _ s s (h.2 _ s rfl)
      exact htrans _ _ _ (hΦ _ _ _ h.1) hrest

-- proofs about programs go through the equations above, never through the recursion
attribute [irreducible] wp

end Coroutine

end MediaCenter.Library
