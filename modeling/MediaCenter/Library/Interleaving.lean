import MediaCenter.Library.Coroutine

/-!
# Interleaved runs of coroutines

A service is a program for every call `κ`.  A configuration holds the shared state, the
calls made so far with where each of them rests, and the answers given so far.  An action
makes one more call, or answers the request a suspended call waits for; either runs one
segment, up to the next await.  A run is a list of actions: any number of calls, in any
order, overlapping at their awaits in any way.

`run_guarantee` is the parallel rule: programs that satisfy their preconditions one by one
keep their guarantees in every run.
-/

set_option autoImplicit false

namespace MediaCenter.Library

open Coroutine

/-- One call of a service: what was called, and where its program rests. -/
structure Task (κ : Type) (I : Interface) (σ ε α : Type) where
  call : κ
  pause : Pause I σ ε α

structure Config (κ : Type) (I : Interface) (σ ε α : Type) where
  shared : σ
  tasks : List (Task κ I σ ε α)
  /-- The requests answered so far with their answers, oldest first. -/
  answered : List (Σ q : I.Request, I.Answer q)

inductive Action (κ : Type) (I : Interface) : Type where
  | call (c : κ)
  | resume (i : ℕ) (answer : ∀ q : I.Request, I.Answer q)

namespace Config

variable {κ : Type} {I : Interface} {σ ε α : Type}

/-- The configuration before the first call. -/
def initial (s : σ) : Config κ I σ ε α := ⟨s, [], []⟩

/-- The request the `i`-th call waits for. -/
def pending (c : Config κ I σ ε α) (i : ℕ) : Option I.Request :=
  match c.tasks[i]? with
  | some ⟨_, .suspended q _⟩ => some q
  | _ => none

theorem exists_task_of_pending {c : Config κ I σ ε α} {i : ℕ} {q : I.Request}
    (h : c.pending i = some q) : ∃ k rest, c.tasks[i]? = some ⟨k, .suspended q rest⟩ := by
  simp only [pending] at h
  split at h
  · rename_i k q' rest hi
    cases h
    exact ⟨k, rest, hi⟩
  · cases h

/-- One segment.  Answering a call that does not wait changes nothing. -/
def step (program : κ → Coroutine I σ ε α) (c : Config κ I σ ε α) :
    Action κ I → Config κ I σ ε α
  | .call k =>
      let (p, s) := (program k).advance c.shared
      ⟨s, c.tasks ++ [⟨k, p⟩], c.answered⟩
  | .resume i answer =>
      match c.tasks[i]? with
      | some ⟨k, .suspended q rest⟩ =>
          let (p, s) := (rest (answer q)).advance c.shared
          ⟨s, c.tasks.set i ⟨k, p⟩, c.answered ++ [⟨q, answer q⟩]⟩
      | _ => c

def run (program : κ → Coroutine I σ ε α) (c : Config κ I σ ε α)
    (actions : List (Action κ I)) : Config κ I σ ε α :=
  actions.foldl (step program) c

section Runs

variable (program : κ → Coroutine I σ ε α)

@[simp] theorem run_nil (c : Config κ I σ ε α) : run program c [] = c := rfl

@[simp] theorem run_cons (c : Config κ I σ ε α) (a : Action κ I) (l : List (Action κ I)) :
    run program c (a :: l) = run program (step program c a) l := rfl

theorem run_append (c : Config κ I σ ε α) (l₁ l₂ : List (Action κ I)) :
    run program c (l₁ ++ l₂) = run program (run program c l₁) l₂ :=
  List.foldl_append

theorem step_call (c : Config κ I σ ε α) (k : κ) :
    step program c (.call k) =
      ⟨((program k).advance c.shared).2, c.tasks ++ [⟨k, ((program k).advance c.shared).1⟩],
        c.answered⟩ := rfl

theorem step_resume {c : Config κ I σ ε α} {i : ℕ} {k : κ} {q : I.Request}
    {rest : I.Answer q → Coroutine I σ ε α}
    (h : c.tasks[i]? = some ⟨k, .suspended q rest⟩) (answer : ∀ q : I.Request, I.Answer q) :
    step program c (.resume i answer) =
      ⟨((rest (answer q)).advance c.shared).2,
        c.tasks.set i ⟨k, ((rest (answer q)).advance c.shared).1⟩,
        c.answered ++ [⟨q, answer q⟩]⟩ := by
  simp only [step, h]

/-- What an answer does, when the next segment of the call it is for is known. -/
theorem step_resume_of_advance (answer : ∀ q : I.Request, I.Answer q) {c : Config κ I σ ε α}
    {i : ℕ} {k : κ} {q : I.Request} {rest : I.Answer q → Coroutine I σ ε α}
    {p : Pause I σ ε α} {s : σ} (h : c.tasks[i]? = some ⟨k, .suspended q rest⟩)
    (hadvance : (rest (answer q)).advance c.shared = (p, s)) :
    (step program c (.resume i answer)).shared = s ∧
      (step program c (.resume i answer)).tasks = c.tasks.set i ⟨k, p⟩ ∧
      (step program c (.resume i answer)).tasks[i]? = some ⟨k, p⟩ ∧
      (step program c (.resume i answer)).answered = c.answered ++ [⟨q, answer q⟩] := by
  have hi : i < c.tasks.length := (List.getElem?_eq_some_iff.mp h).1
  rw [step_resume program h answer, hadvance]
  exact ⟨rfl, rfl, List.getElem?_set_self hi, rfl⟩

/-- A call that is not waiting is not disturbed by an answer. -/
theorem step_resume_of_pending_eq_none {c : Config κ I σ ε α} {i : ℕ}
    {answer : ∀ q : I.Request, I.Answer q} (h : c.pending i = none) :
    step program c (.resume i answer) = c := by
  simp only [pending] at h
  simp only [step]
  split
  · rename_i k q rest hi
    simp [hi] at h
  · rfl

theorem tasks_step_call (c : Config κ I σ ε α) (k : κ) (j : ℕ) :
    (step program c (.call k)).tasks[j]? =
      if j = c.tasks.length then some ⟨k, ((program k).advance c.shared).1⟩
      else c.tasks[j]? := by
  rw [step_call]
  simp only
  by_cases hj : j = c.tasks.length
  · subst hj
    rw [if_pos rfl, List.getElem?_concat_length]
  · rw [if_neg hj]
    by_cases hlt : j < c.tasks.length
    · exact List.getElem?_append_left hlt
    · rw [List.getElem?_eq_none (by simp; omega), List.getElem?_eq_none (by omega)]

theorem tasks_step_resume {c : Config κ I σ ε α} {i : ℕ} {k : κ} {q : I.Request}
    {rest : I.Answer q → Coroutine I σ ε α}
    (h : c.tasks[i]? = some ⟨k, .suspended q rest⟩) (answer : ∀ q : I.Request, I.Answer q)
    (j : ℕ) : (step program c (.resume i answer)).tasks[j]? =
      if j = i then some ⟨k, ((rest (answer q)).advance c.shared).1⟩ else c.tasks[j]? := by
  have hi : i < c.tasks.length := (List.getElem?_eq_some_iff.mp h).1
  rw [step_resume program h answer]
  simp only
  by_cases hj : j = i
  · subst hj
    rw [if_pos rfl, List.getElem?_set_self hi]
  · rw [if_neg hj, List.getElem?_set_ne (Ne.symm hj)]

theorem pending_eq_some_iff {c : Config κ I σ ε α} {i : ℕ} {q : I.Request} :
    c.pending i = some q ↔ ∃ k rest, c.tasks[i]? = some ⟨k, .suspended q rest⟩ := by
  constructor
  · exact exists_task_of_pending
  · rintro ⟨k, rest, h⟩
    rw [pending, h]

/-- Every step of the run meets `P`, a condition on the configuration before it and the
action. -/
def EveryStep (P : Config κ I σ ε α → Action κ I → Prop) :
    Config κ I σ ε α → List (Action κ I) → Prop
  | _, [] => True
  | c, a :: l => P c a ∧ EveryStep P (step program c a) l

variable {program}

theorem everyStep_append_iff {P : Config κ I σ ε α → Action κ I → Prop}
    (c : Config κ I σ ε α) (l₁ l₂ : List (Action κ I)) :
    EveryStep program P c (l₁ ++ l₂) ↔
      EveryStep program P c l₁ ∧ EveryStep program P (run program c l₁) l₂ := by
  induction l₁ generalizing c with
  | nil => simp [EveryStep]
  | cons a l₁ ih =>
      rw [List.cons_append, EveryStep, EveryStep, ih, run_cons, and_assoc]

/-- INTERNAL: every step meets `P` exactly when the step at each place does. -/
theorem everyStep_iff {P : Config κ I σ ε α → Action κ I → Prop} (c : Config κ I σ ε α)
    (l : List (Action κ I)) :
    EveryStep program P c l ↔
      ∀ l₁ a l₂, l = l₁ ++ a :: l₂ → P (run program c l₁) a := by
  induction l generalizing c with
  | nil => simp [EveryStep]
  | cons b l ih =>
      rw [EveryStep, ih]
      constructor
      · rintro ⟨hb, hl⟩ l₁ a l₂ heq
        cases l₁ with
        | nil =>
            rw [List.nil_append, List.cons.injEq] at heq
            rw [← heq.1]
            exact hb
        | cons d l₁ =>
            rw [List.cons_append, List.cons.injEq] at heq
            rw [run_cons, ← heq.1]
            exact hl l₁ a l₂ heq.2
      · intro h
        refine ⟨h [] b l rfl, ?_⟩
        intro l₁ a l₂ heq
        exact h (b :: l₁) a l₂ (by rw [heq]; rfl)

/-- The run rule: what one admitted step preserves, a run of admitted steps preserves. -/
theorem run_induction {A : Config κ I σ ε α → Action κ I → Prop}
    {P : Config κ I σ ε α → Prop} (hstep : ∀ c a, A c a → P c → P (step program c a))
    (c : Config κ I σ ε α) (l : List (Action κ I)) (hl : EveryStep program A c l)
    (hc : P c) : P (run program c l) := by
  induction l generalizing c with
  | nil => exact hc
  | cons a l ih => exact ih _ hl.2 (hstep c a hl.1 hc)

end Runs

/-! ## The parallel rule -/

section Guarantee

variable (program : κ → Coroutine I σ ε α) (R : σ → σ → Prop)
  (Φ : κ → Resumption I → σ → σ → Prop)
  (Q : κ → Except ε α → Resumption I → σ → σ → Prop)

/-- A call at rest is sound if, answered in any state the others may leave, the rest of
its program satisfies its precondition. -/
def TaskSound (s : σ) (t : Task κ I σ ε α) : Prop :=
  match t.pause with
  | .finished _ => True
  | .suspended q k =>
      ∀ a s', R s s' → (k a).wp R (Φ t.call) (Q t.call) (some ⟨q, a⟩) s' s'

def Sound (c : Config κ I σ ε α) : Prop := ∀ t ∈ c.tasks, TaskSound R Φ Q c.shared t

/-- What an action does to the shared state: nothing, or one segment of one call. -/
def Segment (c : Config κ I σ ε α) (a : Action κ I) (s' : σ) : Prop :=
  match a with
  | .call k => Φ k none c.shared s'
  | .resume i answer =>
      match c.tasks[i]? with
      | some ⟨k, .suspended q _⟩ => Φ k (some ⟨q, answer q⟩) c.shared s'
      | _ => s' = c.shared

/-- INTERNAL: an answer moves the call it is for, or nothing. -/
theorem segment_resume {Φ : κ → Resumption I → σ → σ → Prop} {c : Config κ I σ ε α} {i : ℕ}
    {answer : ∀ q : I.Request, I.Answer q} {s' : σ}
    (h : Segment Φ c (.resume i answer) s') :
    (∃ k q rest, c.tasks[i]? = some ⟨k, .suspended q rest⟩ ∧
      Φ k (some ⟨q, answer q⟩) c.shared s') ∨ (c.pending i = none ∧ s' = c.shared) := by
  simp only [Segment, pending] at h ⊢
  cases hi : c.tasks[i]? with
  | none =>
      rw [hi] at h
      exact .inr ⟨rfl, h⟩
  | some t =>
      obtain ⟨k, p⟩ := t
      rw [hi] at h
      cases p with
      | finished res => exact .inr ⟨rfl, h⟩
      | suspended q rest => exact .inl ⟨k, q, rest, rfl, h⟩

theorem segment_call {Φ : κ → Resumption I → σ → σ → Prop} {c : Config κ I σ ε α} {k : κ}
    {s' : σ} (h : Segment Φ c (.call k) s') : Φ k none c.shared s' := h

theorem sound_initial (s : σ) : Sound R Φ Q (initial s : Config κ I σ ε α) := by
  simp [Sound, initial]

variable {program R Φ Q}

/-- Interference that the rely allows leaves the calls at rest sound. -/
theorem TaskSound.rely (htrans : ∀ a b c, R a b → R b c → R a c) {s s' : σ}
    {t : Task κ I σ ε α} (h : TaskSound R Φ Q s t) (hs : R s s') :
    TaskSound R Φ Q s' t := by
  unfold TaskSound at h ⊢
  split
  · trivial
  · rename_i q k hp
    simp only [hp] at h
    exact fun a s'' hR => h a s'' (htrans _ _ _ hs hR)

/-- Where a program that satisfies its precondition pauses, it is sound, and its segment
kept the guarantee. -/
theorem taskSound_advance (hQ : ∀ k res r s₀ s, Q k res r s₀ s → Φ k r s₀ s) (k : κ)
    (x : Coroutine I σ ε α) (r : Resumption I) (s : σ)
    (h : x.wp R (Φ k) (Q k) r s s) :
    Φ k r s (x.advance s).2 ∧ TaskSound R Φ Q (x.advance s).2 ⟨k, (x.advance s).1⟩ := by
  have hadv := wp_advance x r s s h
  rcases hx : x.advance s with ⟨p, s'⟩
  rw [hx] at hadv
  cases p with
  | finished res => exact ⟨hQ _ _ _ _ _ hadv, trivial⟩
  | suspended q rest => exact ⟨hadv.1, hadv.2⟩

section Rule

variable {A : Config κ I σ ε α → Action κ I → Prop} {J : σ → Prop}
  (hrefl : ∀ s, R s s) (htrans : ∀ a b c, R a b → R b c → R a c)
  (hInv : ∀ s s', R s s' → J s → J s')
  (hQ : ∀ k res r s₀ s, Q k res r s₀ s → Φ k r s₀ s)
  (hcall : ∀ k s, J s → (program k).wp R (Φ k) (Q k) none s s)
  (hguar : ∀ c a s', A c a → J c.shared → Segment Φ c a s' → R c.shared s')

include hrefl htrans hInv hQ hcall hguar

/-- One admitted action of a sound configuration: the segment keeps its guarantee, and the
new configuration is sound. -/
theorem step_guarantee (c : Config κ I σ ε α) (a : Action κ I) (ha : A c a)
    (hinv : J c.shared) (hc : Sound R Φ Q c) :
    Segment Φ c a (step program c a).shared ∧ R c.shared (step program c a).shared ∧
      J (step program c a).shared ∧ Sound R Φ Q (step program c a) := by
  have hfrom : ∀ s', Segment Φ c a s' → R c.shared s' ∧ J s' := fun s' hseg =>
    have hR := hguar c a s' ha hinv hseg
    ⟨hR, hInv _ _ hR hinv⟩
  cases a with
  | call k =>
      obtain ⟨hseg, hsound⟩ := taskSound_advance hQ k (program k) none c.shared
        (hcall k c.shared hinv)
      obtain ⟨hR, hinv'⟩ := hfrom _ hseg
      refine ⟨hseg, hR, hinv', ?_⟩
      intro t ht
      simp only [step, List.mem_append, List.mem_singleton] at ht
      rcases ht with ht | rfl
      · exact (hc t ht).rely htrans hR
      · exact hsound
  | resume i answer =>
      cases hi : c.tasks[i]? with
      | none =>
          simp only [Segment, step, hi]
          exact ⟨trivial, hrefl _, hinv, hc⟩
      | some t =>
          obtain ⟨k, p⟩ := t
          cases p with
          | finished res =>
              simp only [Segment, step, hi]
              exact ⟨trivial, hrefl _, hinv, hc⟩
          | suspended q rest =>
              have ht : TaskSound R Φ Q c.shared ⟨k, .suspended q rest⟩ :=
                hc _ (List.mem_of_getElem? hi)
              obtain ⟨hseg, hsound⟩ := taskSound_advance hQ k (rest (answer q))
                (some ⟨q, answer q⟩) c.shared (ht (answer q) c.shared (hrefl _))
              have hseg' : Segment Φ c (.resume i answer)
                  ((rest (answer q)).advance c.shared).2 := by
                simp only [Segment, hi]
                exact hseg
              obtain ⟨hR, hinv'⟩ := hfrom _ hseg'
              simp only [step, hi]
              refine ⟨hseg', hR, hinv', ?_⟩
              intro t' ht'
              rcases List.mem_or_eq_of_mem_set ht' with ht' | rfl
              · exact (hc t' ht').rely htrans hR
              · exact hsound

/-- **The parallel rule.**  If every call satisfies its precondition in every state that
meets the invariant, and the guarantees of the admitted steps are within the rely, then
each step of an admitted run keeps the guarantee of the call it runs. -/
theorem run_guarantee (c : Config κ I σ ε α) (hinv : J c.shared) (hc : Sound R Φ Q c)
    (l : List (Action κ I)) (hl : EveryStep program A c l) :
    J (run program c l).shared ∧ R c.shared (run program c l).shared ∧
      Sound R Φ Q (run program c l) := by
  refine run_induction (A := A)
    (P := fun c' => J c'.shared ∧ R c.shared c'.shared ∧ Sound R Φ Q c') ?_ c l hl
    ⟨hinv, hrefl _, hc⟩
  rintro c' a ha ⟨hinv', hR, hsound⟩
  obtain ⟨_, hR', hinv'', hsound'⟩ := step_guarantee hrefl htrans hInv hQ hcall hguar c' a ha
    hinv' hsound
  exact ⟨hinv'', htrans _ _ _ hR hR', hsound'⟩

/-- The same, between two points of a run that starts with no calls. -/
theorem run_guarantee_between (s : σ) (hs : J s) (l₁ l₂ : List (Action κ I))
    (hl : EveryStep program A (initial s) (l₁ ++ l₂)) :
    J (run program (initial s) l₁).shared ∧
      R (run program (initial s) l₁).shared (run program (initial s) (l₁ ++ l₂)).shared := by
  rw [everyStep_append_iff] at hl
  obtain ⟨hinv, _, hsound⟩ := run_guarantee hrefl htrans hInv hQ hcall hguar (initial s) hs
    (sound_initial R Φ Q s) l₁ hl.1
  obtain ⟨_, hR, _⟩ := run_guarantee hrefl htrans hInv hQ hcall hguar _ hinv hsound l₂ hl.2
  rw [run_append]
  exact ⟨hinv, hR⟩

/-- What the step after a run does. -/
theorem segment_of_run (s : σ) (hs : J s) (l : List (Action κ I)) (a : Action κ I)
    (hl : EveryStep program A (initial s) (l ++ [a])) :
    Segment Φ (run program (initial s) l) a
      (step program (run program (initial s) l) a).shared := by
  rw [everyStep_append_iff] at hl
  obtain ⟨hinv, _, hsound⟩ := run_guarantee hrefl htrans hInv hQ hcall hguar (initial s) hs
    (sound_initial R Φ Q s) l hl.1
  exact (step_guarantee hrefl htrans hInv hQ hcall hguar _ a hl.2.1 hinv hsound).1

end Rule

end Guarantee

end Config

end MediaCenter.Library
