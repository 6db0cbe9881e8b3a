import MediaCenter.Library.Interleaving

/-!
# What a coroutine may ever do

`Within T P x`: whatever the answers and the states it meets, every change `x` makes to
the shared state is a `T` step, and every request it awaits is a `P` request.
`AfterFirst T P x` asks the latter of all requests but the first.  Both are closed under the
ways to build a coroutine, so a program is checked by reading it once.
-/

set_option autoImplicit false

namespace MediaCenter.Library

namespace Coroutine

variable {I : Interface} {σ ε α β : Type}

def Within (T : σ → σ → Prop) (P : I.Request → Prop) : Coroutine I σ ε α → Prop
  | ret _ => True
  | raise _ => True
  | access f k => ∀ s, T s (f s) ∧ (k s).Within T P
  | await q k => P q ∧ ∀ a, (k a).Within T P

def AfterFirst (T : σ → σ → Prop) (P : I.Request → Prop) : Coroutine I σ ε α → Prop
  | ret _ => True
  | raise _ => True
  | access f k => ∀ s, T s (f s) ∧ (k s).AfterFirst T P
  | await _ k => ∀ a, (k a).Within T P

section Within

variable {T : σ → σ → Prop} {P : I.Request → Prop}

theorem within_pure (a : α) : (pure a : Coroutine I σ ε α).Within T P := trivial

theorem within_throw (e : ε) : (throw e : Coroutine I σ ε α).Within T P := trivial

theorem within_ofExcept (x : Except ε α) : (ofExcept x : Coroutine I σ ε α).Within T P := by
  cases x with
  | ok a => trivial
  | error e => trivial

theorem within_inspect (hrefl : ∀ s, T s s) (f : σ → Except ε α) :
    (inspect f : Coroutine I σ ε α).Within T P := by
  intro s
  exact ⟨hrefl s, within_ofExcept _⟩

theorem within_update (hrefl : ∀ s, T s s) (f : σ → Except ε (α × σ))
    (hf : ∀ s a s', f s = .ok (a, s') → T s s') :
    (update f : Coroutine I σ ε α).Within T P := by
  unfold update
  intro s
  refine ⟨?_, within_ofExcept _⟩
  dsimp only
  cases h : f s with
  | ok p => exact hf s p.1 p.2 h
  | error e => exact hrefl s

theorem within_attempt {Request : Type} {Result : Request → Type}
    {P : Request → Prop} (q : Request) (hq : P q) :
    Within (I := Interface.fallible Request ε Result) T P (attempt q : Coroutine _ σ ε _) :=
  ⟨hq, fun a => within_ofExcept a⟩

theorem within_perform (q : I.Request) (hq : P q) :
    (perform q : Coroutine I σ ε (I.Answer q)).Within T P :=
  ⟨hq, fun _ => trivial⟩

theorem within_ite {c : Prop} [Decidable c] {x y : Coroutine I σ ε α} (hx : x.Within T P)
    (hy : y.Within T P) : (if c then x else y).Within T P := by
  split
  · exact hx
  · exact hy

theorem within_bind {x : Coroutine I σ ε α} {g : α → Coroutine I σ ε β}
    (hx : x.Within T P) (hg : ∀ a, (g a).Within T P) : (x >>= g).Within T P := by
  induction x with
  | ret a => exact hg a
  | raise e => trivial
  | access f k ih => exact fun s => ⟨(hx s).1, ih s (hx s).2⟩
  | await q k ih => exact ⟨hx.1, fun a => ih a (hx.2 a)⟩

theorem within_map (f : α → β) {x : Coroutine I σ ε α} (hx : x.Within T P) :
    (f <$> x).Within T P :=
  within_bind hx fun a => within_pure (f a)

theorem within_tryCatch {x : Coroutine I σ ε α} {h : ε → Coroutine I σ ε α}
    (hx : x.Within T P) (hh : ∀ e, (h e).Within T P) : (tryCatch x h).Within T P := by
  induction x with
  | ret a => trivial
  | raise e => exact hh e
  | access f k ih => exact fun s => ⟨(hx s).1, ih s (hx s).2⟩
  | await q k ih => exact ⟨hx.1, fun a => ih a (hx.2 a)⟩

theorem Within.complete (hrefl : ∀ s, T s s) (htrans : ∀ a b c, T a b → T b c → T a c)
    {x : Coroutine I σ ε α} (hx : x.Within T P) (answers : ℕ → ∀ q, I.Answer q) (s : σ) :
    T s (x.complete answers s).2 := by
  induction x generalizing answers s with
  | ret a => exact hrefl s
  | raise e => exact hrefl s
  | access f k ih => exact htrans _ _ _ (hx s).1 (ih s (hx s).2 answers (f s))
  | await q k ih => exact ih _ (hx.2 _) _ s

theorem Within.advance (hrefl : ∀ s, T s s) (htrans : ∀ a b c, T a b → T b c → T a c)
    {x : Coroutine I σ ε α} (hx : x.Within T P) (s : σ) : T s (x.advance s).2 := by
  induction x generalizing s with
  | ret a => exact hrefl s
  | raise e => exact hrefl s
  | access f k ih => exact htrans _ _ _ (hx s).1 (ih s (hx s).2 (f s))
  | await q k ih => exact hrefl s

/-- Where a program pauses, the rest of it is still within its bounds. -/
theorem Within.of_suspended {x : Coroutine I σ ε α} (hx : x.Within T P) {s s' : σ}
    {q : I.Request} {k : I.Answer q → Coroutine I σ ε α}
    (h : x.advance s = (.suspended q k, s')) : P q ∧ ∀ a, (k a).Within T P := by
  induction x generalizing s with
  | ret a => cases h
  | raise e => cases h
  | access f g ih => exact ih s (hx s).2 h
  | await q' g ih =>
      cases h
      exact hx

end Within

section AfterFirst

variable {T : σ → σ → Prop} {P : I.Request → Prop}

theorem Within.afterFirst {x : Coroutine I σ ε α} (hx : x.Within T P) : x.AfterFirst T P := by
  induction x with
  | ret a => trivial
  | raise e => trivial
  | access f k ih => exact fun s => ⟨(hx s).1, ih s (hx s).2⟩
  | await q k => exact hx.2

theorem Within.of_forall {P' : I.Request → Prop} (hP : ∀ q, P q → P' q)
    {x : Coroutine I σ ε α} (hx : x.Within T P) : x.Within T P' := by
  induction x with
  | ret a => trivial
  | raise e => trivial
  | access f k ih => exact fun s => ⟨(hx s).1, ih s (hx s).2⟩
  | await q k ih => exact ⟨hP q hx.1, fun a => ih a (hx.2 a)⟩

theorem AfterFirst.within {x : Coroutine I σ ε α} (hx : x.AfterFirst T P) :
    x.Within T fun _ => True := by
  induction x with
  | ret a => trivial
  | raise e => trivial
  | access f k ih => exact fun s => ⟨(hx s).1, ih s (hx s).2⟩
  | await q k => exact ⟨trivial, fun a => (hx a).of_forall fun _ _ => trivial⟩

/-- The first await is in the first half of a sequence. -/
theorem afterFirst_bind {x : Coroutine I σ ε α} {g : α → Coroutine I σ ε β}
    (hx : x.AfterFirst T P) (hg : ∀ a, (g a).Within T P) : (x >>= g).AfterFirst T P := by
  induction x with
  | ret a => exact (hg a).afterFirst
  | raise e => trivial
  | access f k ih => exact fun s => ⟨(hx s).1, ih s (hx s).2⟩
  | await q k => exact fun a => within_bind (hx a) hg

/-- The first half of a sequence does not await. -/
theorem afterFirst_bind_of_within {x : Coroutine I σ ε α} {g : α → Coroutine I σ ε β}
    (hx : x.Within T fun _ => False) (hg : ∀ a, (g a).AfterFirst T P) :
    (x >>= g).AfterFirst T P := by
  induction x with
  | ret a => exact hg a
  | raise e => trivial
  | access f k ih => exact fun s => ⟨(hx s).1, ih s (hx s).2⟩
  | await q k => exact hx.1.elim

theorem afterFirst_attempt {Request : Type} {Result : Request → Type} {P : Request → Prop}
    (q : Request) :
    AfterFirst (I := Interface.fallible Request ε Result) T P
      (attempt q : Coroutine _ σ ε _) :=
  fun a => within_ofExcept a

theorem afterFirst_map (f : α → β) {x : Coroutine I σ ε α} (hx : x.AfterFirst T P) :
    (f <$> x).AfterFirst T P :=
  afterFirst_bind hx fun a => within_pure (f a)

theorem afterFirst_tryCatch {x : Coroutine I σ ε α} {h : ε → Coroutine I σ ε α}
    (hx : x.AfterFirst T P) (hh : ∀ e, (h e).Within T P) : (tryCatch x h).AfterFirst T P := by
  induction x with
  | ret a => trivial
  | raise e => exact (hh e).afterFirst
  | access f k ih => exact fun s => ⟨(hx s).1, ih s (hx s).2⟩
  | await q k => exact fun a => within_tryCatch (hx a) hh

theorem AfterFirst.of_suspended {x : Coroutine I σ ε α} (hx : x.AfterFirst T P) {s s' : σ}
    {q : I.Request} {k : I.Answer q → Coroutine I σ ε α}
    (h : x.advance s = (.suspended q k, s')) : ∀ a, (k a).Within T P := by
  induction x generalizing s with
  | ret a => cases h
  | raise e => cases h
  | access f g ih => exact ih s (hx s).2 h
  | await q' g =>
      cases h
      exact hx

end AfterFirst

attribute [irreducible] Within AfterFirst

end Coroutine

/-! ## Requests in overlapping runs -/

namespace Config

open Coroutine

variable {κ : Type} {I : Interface} {σ ε α : Type}

/-- Some call waits for the answer to `q`. -/
def Awaits (c : Config κ I σ ε α) (q : I.Request) : Prop :=
  ∃ t ∈ c.tasks, ∃ rest, t.pause = .suspended q rest

/-- What is left of every call is within the bounds. -/
def Settled (T : σ → σ → Prop) (P : I.Request → Prop) (c : Config κ I σ ε α) : Prop :=
  ∀ t ∈ c.tasks, ∀ q rest, t.pause = .suspended q rest → ∀ a, (rest a).Within T P

theorem settled_initial (T : σ → σ → Prop) (P : I.Request → Prop) (s : σ) :
    Settled T P (initial s : Config κ I σ ε α) := by
  intro t ht
  cases ht

variable {program : κ → Coroutine I σ ε α} {T : σ → σ → Prop} {P : I.Request → Prop}
  {c : Config κ I σ ε α}

theorem Settled.step (hc : Settled T P c) (hprogram : ∀ k, (program k).AfterFirst T P)
    (a : Action κ I) : Settled T P (Config.step program c a) := by
  cases a with
  | call k =>
      intro t ht q rest hpause
      rw [step_call, List.mem_append, List.mem_singleton] at ht
      rcases ht with ht | rfl
      · exact hc t ht q rest hpause
      · exact (hprogram k).of_suspended (Prod.ext hpause rfl)
  | resume i answer =>
      cases hi : c.pending i with
      | none =>
          rw [step_resume_of_pending_eq_none program hi]
          exact hc
      | some q₀ =>
          obtain ⟨k, rest₀, htask⟩ := exists_task_of_pending hi
          intro t ht q rest hpause
          rw [step_resume program htask] at ht
          rcases List.mem_or_eq_of_mem_set ht with ht | rfl
          · exact hc t ht q rest hpause
          · have hrest := hc _ (List.mem_of_getElem? htask) q₀ rest₀ rfl (answer q₀)
            exact (hrest.of_suspended (Prod.ext hpause rfl)).2

/-- A request that is waited for after a step was waited for before, or a call has just
begun with it, or it is a `P` request. -/
theorem awaits_step (hc : Settled T P c) {a : Action κ I} {q : I.Request}
    (h : Awaits (Config.step program c a) q) :
    Awaits c q ∨ P q ∨
      ∃ k rest, a = .call k ∧ ((program k).advance c.shared).1 = .suspended q rest := by
  obtain ⟨t, ht, rest, hpause⟩ := h
  cases a with
  | call k =>
      rw [step_call, List.mem_append, List.mem_singleton] at ht
      rcases ht with ht | rfl
      · exact .inl ⟨t, ht, rest, hpause⟩
      · exact .inr (.inr ⟨k, rest, rfl, hpause⟩)
  | resume i answer =>
      cases hi : c.pending i with
      | none =>
          rw [step_resume_of_pending_eq_none program hi] at ht
          exact .inl ⟨t, ht, rest, hpause⟩
      | some q₀ =>
          obtain ⟨k, rest₀, htask⟩ := exists_task_of_pending hi
          rw [step_resume program htask] at ht
          rcases List.mem_or_eq_of_mem_set ht with ht | rfl
          · exact .inl ⟨t, ht, rest, hpause⟩
          · have hrest := hc _ (List.mem_of_getElem? htask) q₀ rest₀ rfl (answer q₀)
            exact .inr (.inl (hrest.of_suspended (Prod.ext hpause rfl)).1)

/-- One step of a run is within the bounds of the call it runs. -/
theorem Settled.shared_step (hrefl : ∀ s, T s s) (htrans : ∀ a b c, T a b → T b c → T a c)
    (hc : Settled T P c) (hprogram : ∀ k, (program k).AfterFirst T P) (a : Action κ I) :
    T c.shared (Config.step program c a).shared := by
  cases a with
  | call k => exact (hprogram k).within.advance hrefl htrans c.shared
  | resume i answer =>
      cases hi : c.pending i with
      | none =>
          rw [step_resume_of_pending_eq_none program hi]
          exact hrefl _
      | some q =>
          obtain ⟨k, rest, htask⟩ := exists_task_of_pending hi
          rw [step_resume program htask]
          have hrest := hc _ (List.mem_of_getElem? htask) q rest rfl (answer q)
          exact hrest.advance hrefl htrans c.shared

/-- The run rule for bounds. -/
theorem run_within (hrefl : ∀ s, T s s) (htrans : ∀ a b c, T a b → T b c → T a c)
    (hprogram : ∀ k, (program k).AfterFirst T P) (hc : Settled T P c)
    (actions : List (Action κ I)) :
    Settled T P (run program c actions) ∧ T c.shared (run program c actions).shared := by
  induction actions generalizing c with
  | nil => exact ⟨hc, hrefl _⟩
  | cons a actions ih =>
      obtain ⟨hsettled, hrest⟩ := ih (hc.step hprogram a)
      exact ⟨hsettled, htrans _ _ _ (hc.shared_step hrefl htrans hprogram a) hrest⟩

/-- What is answered after a step was answered before, or waited for. -/
theorem answered_step {a : Action κ I} {x : Σ q : I.Request, I.Answer q}
    (h : x ∈ (Config.step program c a).answered) : x ∈ c.answered ∨ Awaits c x.1 := by
  cases a with
  | call k => exact .inl h
  | resume i answer =>
      cases hi : c.pending i with
      | none =>
          rw [step_resume_of_pending_eq_none program hi] at h
          exact .inl h
      | some q =>
          obtain ⟨k, rest, htask⟩ := exists_task_of_pending hi
          rw [step_resume program htask, List.mem_append, List.mem_singleton] at h
          rcases h with h | rfl
          · exact .inl h
          · exact .inr ⟨_, List.mem_of_getElem? htask, rest, rfl⟩

end Config

end MediaCenter.Library
