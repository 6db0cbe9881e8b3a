import Mathlib.Algebra.Order.Field.Rat
import Mathlib.Tactic.Linarith
import MediaCenter.Library.Coroutine
import MediaCenter.Library.Dict
import MediaCenter.Library.Unwinding

/-!
# Coroutines that sleep

Programs whose only request is to be woken after a time, on a clock that does not go back.  The
sleepers are kept under their call and a name of the caller's, and a sleep lasts at least as long
as was asked for.
-/

set_option autoImplicit false

namespace MediaCenter.Library

/-- A program may ask to be woken after a time. -/
@[reducible] def Sleeping : Interface := ⟨ℚ, fun _ => Unit⟩

namespace Timed

structure Sleeper (σ ε α : Type) where
  since : ℚ
  duration : ℚ
  rest : Unit → Coroutine Sleeping σ ε α

def Sleeper.wakesAt {σ ε α : Type} (z : Sleeper σ ε α) : ℚ := z.since + z.duration

structure Completion (κ ε α : Type) where
  call : κ
  instant : ℚ
  result : Except ε α

structure Config (κ σ ε α : Type) where
  clock : ℚ
  shared : σ
  sleepers : Dict (κ × ℕ) (Sleeper σ ε α)
  /-- What has ended, oldest first. -/
  completions : List (Completion κ ε α)

inductive Event (κ : Type) : Type where
  | call (c : κ) (task : ℕ) (instant : ℚ)
  | wake (c : κ) (task : ℕ) (instant : ℚ)
  deriving DecidableEq

def Event.key {κ : Type} : Event κ → κ
  | .call c _ _ => c
  | .wake c _ _ => c

def Event.IsWake {κ : Type} : Event κ → Prop
  | .call _ _ _ => False
  | .wake _ _ _ => True

/-- How a segment of a program ended. -/
inductive Ending (ε α : Type) : Type where
  | finished (r : Except ε α)
  | sleeps (duration : ℚ)
  /-- Nobody was asleep under that name. -/
  | ignored

variable {κ σ ε α : Type} [DecidableEq κ]

def initial (start : ℚ) (s : σ) : Config κ σ ε α := ⟨start, s, .empty, []⟩

/-- Where a segment leaves its program. -/
def rest (c : κ) (task : ℕ) (instant : ℚ) (config : Config κ σ ε α) :
    Coroutine.Pause Sleeping σ ε α × σ → Ending ε α × Config κ σ ε α
  | (.finished r, s) =>
      (.finished r, ⟨instant, s, config.sleepers.erase (c, task),
        config.completions ++ [⟨c, instant, r⟩]⟩)
  | (.suspended duration k, s) =>
      (.sleeps duration, ⟨instant, s, config.sleepers.set (c, task) ⟨instant, duration, k⟩,
        config.completions⟩)

section Runs

variable (program : κ → ℚ → Coroutine Sleeping σ ε α)

/-- A call runs up to its first sleep, a sleeper up to its next one. -/
def step (config : Config κ σ ε α) : Event κ → Ending ε α × Config κ σ ε α
  | .call c task instant =>
      rest c task instant config ((program c instant).advance config.shared)
  | .wake c task instant =>
      match config.sleepers.get? (c, task) with
      | some z => rest c task instant config ((z.rest ()).advance config.shared)
      | none => (.ignored, config)

/-- The clock does not go back, a new call has a name of its own, and a sleeper is woken when
its time has passed. -/
def Possible (config : Config κ σ ε α) : Event κ → Prop
  | .call c task instant => config.clock ≤ instant ∧ config.sleepers.get? (c, task) = none
  | .wake c task instant =>
      config.clock ≤ instant ∧ ∃ z, config.sleepers.get? (c, task) = some z ∧ z.wakesAt ≤ instant

variable {program}

theorem rest_of_finished {c : κ} {task : ℕ} {instant : ℚ} {config : Config κ σ ε α}
    {segment : Coroutine.Pause Sleeping σ ε α × σ} {r : Except ε α} {s : σ}
    (h : segment = (.finished r, s)) :
    rest c task instant config segment = (.finished r,
      ⟨instant, s, config.sleepers.erase (c, task), config.completions ++ [⟨c, instant, r⟩]⟩) := by
  rw [h]
  rfl

theorem rest_of_suspended {c : κ} {task : ℕ} {instant : ℚ} {config : Config κ σ ε α}
    {segment : Coroutine.Pause Sleeping σ ε α × σ} {duration : ℚ}
    {k : Unit → Coroutine Sleeping σ ε α} {s : σ} (h : segment = (.suspended duration k, s)) :
    rest c task instant config segment = (.sleeps duration,
      ⟨instant, s, config.sleepers.set (c, task) ⟨instant, duration, k⟩, config.completions⟩) := by
  rw [h]
  rfl

theorem step_wake {config : Config κ σ ε α} {c : κ} {task : ℕ} {z : Sleeper σ ε α}
    (h : config.sleepers.get? (c, task) = some z) (instant : ℚ) :
    step program config (.wake c task instant) =
      rest c task instant config ((z.rest ()).advance config.shared) := by
  simp only [step, h]

theorem step_wake_of_none {config : Config κ σ ε α} {c : κ} {task : ℕ}
    (h : config.sleepers.get? (c, task) = none) (instant : ℚ) :
    step program config (.wake c task instant) = (.ignored, config) := by
  simp only [step, h]

/-- Nothing in a configuration is later than its clock. -/
structure Timely (config : Config κ σ ε α) : Prop where
  completions : ∀ d ∈ config.completions, d.instant ≤ config.clock
  sleepers : ∀ k z, config.sleepers.get? k = some z → z.since ≤ config.clock

theorem timely_initial (start : ℚ) (s : σ) : Timely (initial start s : Config κ σ ε α) := by
  constructor
  · intro d hd
    cases hd
  · intro k z hz
    cases hz

theorem Timely.rest {config : Config κ σ ε α} (h : Timely config) {c : κ} {task : ℕ} {instant : ℚ}
    (hclock : config.clock ≤ instant) (segment : Coroutine.Pause Sleeping σ ε α × σ) :
    Timely (Timed.rest c task instant config segment).2 := by
  rcases segment with ⟨pause, s⟩
  cases pause with
  | finished r =>
      constructor
      · intro d hd
        rcases List.mem_append.mp hd with hd | hd
        · exact le_trans (h.completions d hd) hclock
        · rw [List.mem_singleton.mp hd]
          exact le_refl instant
      · intro k z hz
        change (config.sleepers.erase (c, task)).get? k = some z at hz
        rw [Dict.get?_erase] at hz
        split at hz
        · cases hz
        · exact le_trans (h.sleepers k z hz) hclock
  | suspended duration k =>
      constructor
      · intro d hd
        exact le_trans (h.completions d hd) hclock
      · intro k' z hz
        change (config.sleepers.set (c, task) _).get? k' = some z at hz
        rw [Dict.get?_set] at hz
        split at hz
        · rw [Option.some.injEq] at hz
          rw [← hz]
          exact le_refl instant
        · exact le_trans (h.sleepers k' z hz) hclock

theorem Timely.step {config : Config κ σ ε α} (h : Timely config) {e : Event κ}
    (hpossible : Possible config e) : Timely (Timed.step program config e).2 := by
  cases e with
  | call c task instant => exact h.rest hpossible.1 _
  | wake c task instant =>
      obtain ⟨hclock, z, hz, _⟩ := hpossible
      rw [step_wake hz]
      exact h.rest hclock _

end Runs

end Timed

end MediaCenter.Library
