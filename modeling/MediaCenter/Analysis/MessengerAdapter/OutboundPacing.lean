import Mathlib.Data.List.Induction
import Mathlib.Order.CompleteBooleanAlgebra
import Mathlib.Order.CompletePartialOrder
import MediaCenter.Model.MessengerAdapter.RateLimiters

/-!
# Outbound pacing

Calls of one key keep their distance as long as none starts while another sleeps, and none
starts too early after one that has overslept: the entry of a key says when its last call was
due, and says it only once the call is over.
-/

set_option autoImplicit false

namespace MediaCenter.MessengerAdapter

open MediaCenter.Library

section Pacing

variable {κ : Type} {interval : ℚ}

/-! ## Distances -/

/-- Calls of one key are completed at least an interval apart. -/
def Spaced (interval : ℚ) (completions : List (Timed.Completion κ Empty ℚ)) : Prop :=
  completions.Pairwise fun a b => a.call = b.call → interval ≤ |b.instant - a.instant|

theorem Spaced.concat {completions : List (Timed.Completion κ Empty ℚ)}
    (h : Spaced interval completions) {d : Timed.Completion κ Empty ℚ}
    (hd : ∀ a ∈ completions, a.call = d.call → a.instant + interval ≤ d.instant) :
    Spaced interval (completions ++ [d]) := by
  unfold Spaced
  rw [List.pairwise_append]
  refine ⟨h, List.pairwise_singleton _ d, ?_⟩
  intro a ha b hb hkey
  rw [List.mem_singleton.mp hb] at hkey ⊢
  have hle := hd a ha hkey
  exact le_trans (by linarith) (le_abs_self _)

/-- INTERNAL: a call completed too early after another one of its key. -/
theorem not_spaced_concat {completions : List (Timed.Completion κ Empty ℚ)}
    {a d : Timed.Completion κ Empty ℚ} (ha : a ∈ completions) (hkey : a.call = d.call)
    (hle : a.instant ≤ d.instant) (hlt : d.instant < a.instant + interval) :
    ¬ Spaced interval (completions ++ [d]) := by
  intro h
  have hdistance := (List.pairwise_append.mp h).2.2 a ha d (List.mem_singleton_self d) hkey
  rw [abs_of_nonneg (by linarith)] at hdistance
  linarith

/-- INTERNAL: two calls of a key completed at once. -/
theorem not_spaced_pair (hpos : 0 < interval) {completions : List (Timed.Completion κ Empty ℚ)}
    {key : κ} {instant : ℚ} {r r' : Except Empty ℚ} :
    ¬ Spaced interval (completions ++ [⟨key, instant, r⟩] ++ [⟨key, instant, r'⟩]) :=
  not_spaced_concat (List.mem_append_right _ (List.mem_singleton_self _)) rfl (le_refl _)
    (lt_add_of_pos_right _ hpos)

variable [DecidableEq κ]

/-! ## Segments of a call -/

/-- What is left of a call after its sleep. -/
def afterSleep (key : κ) (requestedAt delay : ℚ) : Pacing κ ℚ := do
  Coroutine.update fun entries => .ok ((), entries.set key (requestedAt + delay))
  return delay

theorem advance_afterSleep (key : κ) (requestedAt delay : ℚ) (entries : LastCalls κ) :
    (afterSleep key requestedAt delay).advance entries =
      (.finished (.ok delay), entries.set key (requestedAt + delay)) := by
  unfold afterSleep
  rw [Coroutine.advance_update_bind]
  rfl

theorem advance_acquire (key : κ) (requestedAt : ℚ) (entries : LastCalls κ) :
    (acquire interval key requestedAt).advance entries =
      if 0 < delayOf interval (entries.get? key) requestedAt then
        (.suspended (delayOf interval (entries.get? key) requestedAt) fun _ =>
          afterSleep key requestedAt (delayOf interval (entries.get? key) requestedAt), entries)
      else
        (afterSleep key requestedAt
          (delayOf interval (entries.get? key) requestedAt)).advance entries := by
  unfold acquire
  rw [Coroutine.advance_inspect_bind]
  simp only
  by_cases hdelay : 0 < delayOf interval (entries.get? key) requestedAt
  · rw [if_pos hdelay, if_pos hdelay]
    rfl
  · rw [if_neg hdelay, if_neg hdelay]
    rfl

theorem delayOf_nonneg (last : Option ℚ) (requestedAt : ℚ) :
    0 ≤ delayOf interval last requestedAt := by
  unfold delayOf
  split
  · exact le_max_left _ _
  · exact le_refl 0

/-- A call that sleeps is due an interval after the last one. -/
theorem due_of_delay {last : Option ℚ} {requestedAt : ℚ}
    (h : 0 < delayOf interval last requestedAt) :
    ∃ slot, last = some slot ∧ requestedAt < slot + interval ∧
      requestedAt + delayOf interval last requestedAt = slot + interval := by
  cases last with
  | none => exact absurd h (lt_irrefl 0)
  | some slot =>
      unfold delayOf at h ⊢
      simp only at h ⊢
      rcases max_choice 0 (interval - (requestedAt - slot)) with hmax | hmax
      · rw [hmax] at h
        exact absurd h (lt_irrefl 0)
      · rw [hmax] at h ⊢
        exact ⟨slot, rfl, by linarith, by linarith⟩

/-- A call that does not sleep comes an interval after the last one. -/
theorem due_of_not_delay {slot requestedAt : ℚ}
    (h : ¬ 0 < delayOf interval (some slot) requestedAt) : slot + interval ≤ requestedAt := by
  unfold delayOf at h
  simp only [lt_max_iff, lt_irrefl, false_or, not_lt] at h
  linarith

/-! ## Events -/

abbrev PacingConfig (κ : Type) : Type := Timed.Config κ (LastCalls κ) Empty ℚ

/-- Sleepers are calls at their await. -/
def Resumable (config : PacingConfig κ) : Prop :=
  ∀ key task z, config.sleepers.get? (key, task) = some z →
    z.rest = fun _ => afterSleep key z.since z.duration

theorem step_call_of_delay {config : PacingConfig κ} {key : κ} {instant : ℚ}
    (h : 0 < delayOf interval (config.shared.get? key) instant) (task : ℕ) :
    Timed.step (acquire interval) config (.call key task instant) =
      (.sleeps (delayOf interval (config.shared.get? key) instant),
        ⟨instant, config.shared, config.sleepers.set (key, task)
          ⟨instant, delayOf interval (config.shared.get? key) instant, fun _ =>
            afterSleep key instant (delayOf interval (config.shared.get? key) instant)⟩,
          config.completions⟩) := by
  apply Timed.rest_of_suspended
  rw [advance_acquire, if_pos h]

theorem step_call_of_not_delay {config : PacingConfig κ} {key : κ} {instant : ℚ}
    (h : ¬ 0 < delayOf interval (config.shared.get? key) instant) (task : ℕ) :
    Timed.step (acquire interval) config (.call key task instant) =
      (.finished (.ok 0), ⟨instant, config.shared.set key instant,
        config.sleepers.erase (key, task), config.completions ++ [⟨key, instant, .ok 0⟩]⟩) := by
  have hzero : delayOf interval (config.shared.get? key) instant = 0 :=
    le_antisymm (not_lt.mp h) (delayOf_nonneg _ _)
  apply Timed.rest_of_finished
  rw [advance_acquire, if_neg h, advance_afterSleep, hzero, add_zero]

theorem step_wake (interval : ℚ) {config : PacingConfig κ} (hresumable : Resumable config) {key : κ} {task : ℕ}
    {z : Timed.Sleeper (LastCalls κ) Empty ℚ} (hz : config.sleepers.get? (key, task) = some z)
    (instant : ℚ) :
    Timed.step (acquire interval) config (.wake key task instant) =
      (.finished (.ok z.duration), ⟨instant, config.shared.set key z.wakesAt,
        config.sleepers.erase (key, task),
        config.completions ++ [⟨key, instant, .ok z.duration⟩]⟩) := by
  rw [Timed.step_wake hz]
  apply Timed.rest_of_finished
  rw [hresumable key task z hz, advance_afterSleep]
  rfl

theorem get?_erase_of_some {d : Dict (κ × ℕ) (Timed.Sleeper (LastCalls κ) Empty ℚ)}
    {k k' : κ × ℕ} {z : Timed.Sleeper (LastCalls κ) Empty ℚ}
    (h : (d.erase k).get? k' = some z) : k' ≠ k ∧ d.get? k' = some z := by
  rw [Dict.get?_erase] at h
  split at h
  · cases h
  · rename_i hne
    exact ⟨fun heq => hne heq, h⟩

theorem Resumable.step (interval : ℚ) {config : PacingConfig κ} (h : Resumable config) (e : Timed.Event κ) :
    Resumable (Timed.step (acquire interval) config e).2 := by
  cases e with
  | call key task instant =>
      by_cases hdelay : 0 < delayOf interval (config.shared.get? key) instant
      · rw [step_call_of_delay hdelay]
        intro key' task' z hz
        change (config.sleepers.set (key, task) _).get? (key', task') = some z at hz
        rw [Dict.get?_set] at hz
        split at hz
        · rename_i heq
          rw [Prod.mk.injEq] at heq
          rw [Option.some.injEq] at hz
          rw [← hz, heq.1]
        · exact h key' task' z hz
      · rw [step_call_of_not_delay hdelay]
        exact fun key' task' z hz => h key' task' z (get?_erase_of_some hz).2
  | wake key task instant =>
      cases hz : config.sleepers.get? (key, task) with
      | none =>
          rw [Timed.step_wake_of_none hz]
          exact h
      | some z =>
          rw [step_wake interval h hz]
          exact fun key' task' z' hz' => h key' task' z' (get?_erase_of_some hz').2

/-! ## The pace -/

/-- No other call of the key sleeps when one starts, and one that starts within an interval of
a completion finds that it was completed when it was due. -/
def KeepsPace (interval : ℚ) (config : PacingConfig κ) : Timed.Event κ → Prop
  | .call key _ instant =>
      (∀ task, config.sleepers.get? (key, task) = none) ∧
        ∀ d ∈ config.completions, d.call = key → instant < d.instant + interval →
          ∃ slot, config.shared.get? key = some slot ∧ d.instant ≤ slot
  | .wake _ _ _ => True

/-- Each key has at most one sleeper, whose turn is an interval after everything of its key. -/
structure InPace (interval : ℚ) (config : PacingConfig κ) : Prop where
  timely : Timed.Timely config
  resumable : Resumable config
  due : ∀ key task z, config.sleepers.get? (key, task) = some z →
    ∃ slot, config.shared.get? key = some slot ∧ z.wakesAt = slot + interval
  remembered : ∀ d ∈ config.completions, ∃ slot, config.shared.get? d.call = some slot
  reserved : ∀ key task z, config.sleepers.get? (key, task) = some z →
    ∀ d ∈ config.completions, d.call = key → d.instant + interval ≤ z.wakesAt
  single : ∀ key task task' z z', config.sleepers.get? (key, task) = some z →
    config.sleepers.get? (key, task') = some z' → task = task'
  spaced : Spaced interval config.completions

theorem inPace_initial (interval clock : ℚ) :
    InPace interval (Timed.initial clock Dict.empty : PacingConfig κ) where
  timely := Timed.timely_initial clock _
  resumable := fun _ _ _ hz => (by cases hz)
  due := fun _ _ _ hz => (by cases hz)
  remembered := fun _ hd => (by cases hd)
  reserved := fun _ _ _ hz => (by cases hz)
  single := fun _ _ _ _ _ hz => (by cases hz)
  spaced := List.Pairwise.nil

/-- INTERNAL: a call of a key is completed; the key has no sleeper left. -/
theorem InPace.complete {config : PacingConfig κ} (h : InPace interval config)
    {key : κ} {task : ℕ} {instant slot : ℚ} {result : Except Empty ℚ}
    (htimely : Timed.Timely (⟨instant, config.shared.set key slot,
      config.sleepers.erase (key, task), config.completions ++ [⟨key, instant, result⟩]⟩ :
        PacingConfig κ))
    (halone : ∀ task' z, config.sleepers.get? (key, task') = some z → task' = task)
    (hspaced : ∀ d ∈ config.completions, d.call = key → d.instant + interval ≤ instant) :
    InPace interval ⟨instant, config.shared.set key slot, config.sleepers.erase (key, task),
      config.completions ++ [⟨key, instant, result⟩]⟩ := by
  -- The sleepers that are left belong to other keys.
  have hleft : ∀ key' task' z, (config.sleepers.erase (key, task)).get? (key', task') = some z →
      key' ≠ key ∧ config.sleepers.get? (key', task') = some z := by
    intro key' task' z hz
    obtain ⟨hne, hold⟩ := get?_erase_of_some hz
    refine ⟨?_, hold⟩
    rintro rfl
    exact hne (by rw [halone task' z hold])
  refine ⟨htimely, ?_, ?_, ?_, ?_, ?_, ?_⟩
  · exact fun key' task' z hz => h.resumable key' task' z (hleft key' task' z hz).2
  · intro key' task' z hz
    obtain ⟨hne, hz⟩ := hleft key' task' z hz
    obtain ⟨slot', hslot, hdue⟩ := h.due key' task' z hz
    exact ⟨slot', (Dict.get?_set_of_ne _ hne _).trans hslot, hdue⟩
  · intro d hd
    by_cases hkey : d.call = key
    · refine ⟨slot, ?_⟩
      rw [hkey]
      exact Dict.get?_set_self _ _ _
    · rcases List.mem_append.mp hd with hd | hd
      · obtain ⟨slot', hslot⟩ := h.remembered d hd
        exact ⟨slot', (Dict.get?_set_of_ne _ hkey _).trans hslot⟩
      · rw [List.mem_singleton.mp hd] at hkey
        exact absurd rfl hkey
  · intro key' task' z hz d hd hkey
    obtain ⟨hne, hz⟩ := hleft key' task' z hz
    rcases List.mem_append.mp hd with hd | hd
    · exact h.reserved key' task' z hz d hd hkey
    · rw [List.mem_singleton.mp hd] at hkey
      exact absurd hkey.symm hne
  · intro key' task' task'' z z' hz hz'
    exact h.single key' task' task'' z z' (hleft key' task' z hz).2 (hleft key' task'' z' hz').2
  · exact h.spaced.concat hspaced

/-- **One event** keeps the pace. -/
theorem InPace.step {config : PacingConfig κ} (h : InPace interval config) {e : Timed.Event κ}
    (hpossible : Timed.Possible config e) (hkeeps : KeepsPace interval config e) :
    InPace interval (Timed.step (acquire interval) config e).2 := by
  have htimely : Timed.Timely (Timed.step (acquire interval) config e).2 :=
    h.timely.step hpossible
  cases e with
  | wake key task instant =>
      obtain ⟨_, z, hz, hwake⟩ := hpossible
      rw [step_wake interval h.resumable hz] at htimely ⊢
      apply h.complete htimely
      · exact fun task' z' hz' => h.single key task' task z' z hz' hz
      · exact fun d hd hkey => le_trans (h.reserved key task z hz d hd hkey) hwake
  | call key task instant =>
      obtain ⟨hnone, hdue⟩ := hkeeps
      by_cases hdelay : 0 < delayOf interval (config.shared.get? key) instant
      · obtain ⟨slot, hslot, hearly, hwakes⟩ := due_of_delay hdelay
        rw [step_call_of_delay hdelay] at htimely ⊢
        -- A sleeper is the new one, or one of another key.
        have hcases : ∀ key' task' z, (config.sleepers.set (key, task) ⟨instant,
            delayOf interval (config.shared.get? key) instant, fun _ => afterSleep key instant
              (delayOf interval (config.shared.get? key) instant)⟩).get? (key', task') = some z →
            (key' = key ∧ task' = task ∧ z.wakesAt = slot + interval ∧
              z.rest = fun _ => afterSleep key' z.since z.duration) ∨
            (key' ≠ key ∧ config.sleepers.get? (key', task') = some z) := by
          intro key' task' z hz
          rw [Dict.get?_set] at hz
          split at hz
          · rename_i heq
            rw [Prod.mk.injEq] at heq
            rw [Option.some.injEq] at hz
            refine .inl ⟨heq.1, heq.2, ?_, ?_⟩
            · rw [← hz]
              exact hwakes
            · rw [← hz, heq.1]
          · refine .inr ⟨?_, hz⟩
            rintro rfl
            rw [hnone task'] at hz
            cases hz
        refine ⟨htimely, ?_, ?_, h.remembered, ?_, ?_, h.spaced⟩
        · intro key' task' z hz
          rcases hcases key' task' z hz with ⟨_, _, _, hrest⟩ | ⟨_, hz⟩
          · exact hrest
          · exact h.resumable key' task' z hz
        · intro key' task' z hz
          rcases hcases key' task' z hz with ⟨rfl, _, hdue', _⟩ | ⟨_, hz⟩
          · exact ⟨slot, hslot, hdue'⟩
          · exact h.due key' task' z hz
        · intro key' task' z hz d hd hkey
          rcases hcases key' task' z hz with ⟨rfl, _, hdue', _⟩ | ⟨_, hz⟩
          · rw [hdue']
            by_cases hlt : instant < d.instant + interval
            · obtain ⟨slot', hslot', hle⟩ := hdue d hd hkey hlt
              rw [hslot, Option.some.injEq] at hslot'
              linarith
            · linarith
          · exact h.reserved key' task' z hz d hd hkey
        · intro key' task' task'' z z' hz hz'
          rcases hcases key' task' z hz with ⟨rfl, rfl, _⟩ | ⟨hne, hz⟩
          · rcases hcases key' task'' z' hz' with ⟨_, rfl, _⟩ | ⟨hne, _⟩
            · rfl
            · exact absurd rfl hne
          · rcases hcases key' task'' z' hz' with ⟨heq, _⟩ | ⟨_, hz'⟩
            · exact absurd heq hne
            · exact h.single key' task' task'' z z' hz hz'
      · rw [step_call_of_not_delay hdelay] at htimely ⊢
        apply h.complete htimely
        · intro task' z hz
          rw [hnone task'] at hz
          cases hz
        · intro d hd hkey
          obtain ⟨slot, hslot⟩ := h.remembered d hd
          rw [hkey] at hslot
          by_cases hlt : instant < d.instant + interval
          · obtain ⟨slot', hslot', hle⟩ := hdue d hd hkey hlt
            rw [hslot] at hdelay
            rw [hslot, Option.some.injEq] at hslot'
            have hslotted := due_of_not_delay hdelay
            linarith
          · exact not_lt.mp hlt

/-- INTERNAL: a call that does not keep the pace can end too close to another one. -/
theorem InPace.keepsPace_of_spaced {config : PacingConfig κ} (h : InPace interval config)
    (hpos : 0 < interval) {e : Timed.Event κ} (hpossible : Timed.Possible config e)
    (hspaced : ∀ wakes : List (Timed.Event κ), (∀ w ∈ wakes, w.IsWake) →
      EachMeets (Timed.step (acquire interval)) Timed.Possible
        (Timed.step (acquire interval) config e).2 wakes →
      Spaced interval (after (Timed.step (acquire interval))
        (Timed.step (acquire interval) config e).2 wakes).completions) :
    KeepsPace interval config e := by
  cases e with
  | wake key task instant => exact trivial
  | call key task instant =>
      obtain ⟨hclock, hnew⟩ := hpossible
      have hresumable := h.resumable.step interval (.call key task instant)
      constructor
      · intro task'
        by_contra hsleeps
        obtain ⟨z, hz⟩ := Option.ne_none_iff_exists'.mp hsleeps
        obtain ⟨slot, hslot, hdue⟩ := h.due key task' z hz
        have hne : task' ≠ task := by
          rintro rfl
          rw [hnew] at hz
          cases hz
        have hkeys : (key, task') ≠ (key, task) := fun heq => hne (congrArg Prod.snd heq)
        by_cases hdelay : 0 < delayOf interval (config.shared.get? key) instant
        · -- Both sleep for the same turn.
          obtain ⟨slot', hslot', hearly, hwakes⟩ := due_of_delay hdelay
          rw [hslot, Option.some.injEq] at hslot'
          rw [← hslot'] at hearly hwakes
          rw [step_call_of_delay hdelay] at hspaced hresumable
          have hfirst := step_wake interval hresumable
            (Dict.get?_set_self config.sleepers (key, task) _) (slot + interval)
          have hresumable' := hresumable.step interval
            (.wake key task (slot + interval))
          rw [hfirst] at hresumable'
          have hstill : ((config.sleepers.set (key, task) ⟨instant,
              delayOf interval (config.shared.get? key) instant, fun _ => afterSleep key instant
                (delayOf interval (config.shared.get? key) instant)⟩).erase
              (key, task)).get? (key, task') = some z := by
            rw [Dict.get?_erase, if_neg hkeys, Dict.get?_set_of_ne _ hkeys]
            exact hz
          have hsecond := step_wake interval hresumable' hstill (slot + interval)
          have hends := hspaced [.wake key task (slot + interval), .wake key task' (slot + interval)]
            ?_ ?_
          · rw [after, hfirst, after, hsecond, after] at hends
            exact not_spaced_pair hpos hends
          · intro w hw
            rcases List.mem_cons.mp hw with rfl | hw
            · exact trivial
            · rw [List.mem_singleton.mp hw]
              exact trivial
          · refine ⟨⟨le_of_lt hearly, _, Dict.get?_set_self _ _ _, le_of_eq hwakes⟩, ?_, trivial⟩
            rw [hfirst]
            exact ⟨le_refl _, z, hstill, le_of_eq hdue⟩
        · -- The new call is over before the sleeper's turn is taken.
          rw [hslot] at hdelay
          have hlate := due_of_not_delay hdelay
          rw [← hslot] at hdelay
          rw [step_call_of_not_delay hdelay] at hspaced hresumable
          have hstill : (config.sleepers.erase (key, task)).get? (key, task') = some z := by
            rw [Dict.get?_erase, if_neg hkeys]
            exact hz
          have hfirst := step_wake interval hresumable hstill instant
          have hends := hspaced [.wake key task' instant] ?_ ?_
          · rw [after, hfirst, after] at hends
            exact not_spaced_pair hpos hends
          · intro w hw
            rw [List.mem_singleton.mp hw]
            exact trivial
          · exact ⟨⟨le_refl _, z, hstill, le_of_eq_of_le hdue hlate⟩, trivial⟩
      · intro d hd hkey hlt
        obtain ⟨slot, hslot⟩ := h.remembered d hd
        rw [hkey] at hslot
        refine ⟨slot, hslot, ?_⟩
        by_contra hover
        rw [not_le] at hover
        by_cases hdelay : 0 < delayOf interval (config.shared.get? key) instant
        · obtain ⟨slot', hslot', hearly, hwakes⟩ := due_of_delay hdelay
          rw [hslot, Option.some.injEq] at hslot'
          rw [← hslot'] at hearly hwakes
          rw [step_call_of_delay hdelay] at hspaced hresumable
          have hfirst := step_wake interval hresumable
            (Dict.get?_set_self config.sleepers (key, task) _) (slot + interval)
          have hends := hspaced [.wake key task (slot + interval)] ?_ ?_
          · rw [after, hfirst, after] at hends
            have htimely := h.timely.completions d hd
            refine not_spaced_concat hd hkey ?_ ?_ hends
            · exact le_trans htimely (le_trans hclock (le_of_lt hearly))
            · exact add_lt_add_left hover interval
          · intro w hw
            rw [List.mem_singleton.mp hw]
            exact trivial
          · exact ⟨⟨le_of_lt hearly, _, Dict.get?_set_self _ _ _, le_of_eq hwakes⟩, trivial⟩
        · rw [step_call_of_not_delay hdelay] at hspaced
          have hends := hspaced [] (fun w hw => (by cases hw)) trivial
          exact not_spaced_concat hd hkey (le_trans (h.timely.completions d hd) hclock) hlt hends

/-! ## Calls of other keys -/

/-- What a configuration says about one key. -/
structure SameFor (key : κ) (c c' : PacingConfig κ) : Prop where
  resumable : Resumable c
  resumable' : Resumable c'
  entry : c.shared.get? key = c'.shared.get? key
  sleepers : ∀ task, c.sleepers.get? (key, task) = c'.sleepers.get? (key, task)

/-- An event of another key changes nothing about the key. -/
theorem step_of_other (interval : ℚ) {config : PacingConfig κ} (hresumable : Resumable config) {key : κ}
    {e : Timed.Event κ} (hne : e.key ≠ key) :
    (Timed.step (acquire interval) config e).2.shared.get? key = config.shared.get? key ∧
      ∀ task, (Timed.step (acquire interval) config e).2.sleepers.get? (key, task) =
        config.sleepers.get? (key, task) := by
  have hkeys : ∀ task task' : ℕ, (key, task) ≠ (e.key, task') :=
    fun task task' heq => hne (congrArg Prod.fst heq).symm
  cases e with
  | call key' task' instant =>
      by_cases hdelay : 0 < delayOf interval (config.shared.get? key') instant
      · rw [step_call_of_delay hdelay]
        exact ⟨rfl, fun task => Dict.get?_set_of_ne _ (hkeys task task') _⟩
      · rw [step_call_of_not_delay hdelay]
        refine ⟨Dict.get?_set_of_ne _ (Ne.symm hne) _, fun task => ?_⟩
        exact (Dict.get?_erase _ _ _).trans (if_neg (hkeys task task'))
  | wake key' task' instant =>
      cases hz : config.sleepers.get? (key', task') with
      | none =>
          rw [Timed.step_wake_of_none hz]
          exact ⟨rfl, fun _ => rfl⟩
      | some z =>
          rw [step_wake interval hresumable hz]
          refine ⟨Dict.get?_set_of_ne _ (Ne.symm hne) _, fun task => ?_⟩
          exact (Dict.get?_erase _ _ _).trans (if_neg (hkeys task task'))

/-- An event of the key does the same in both configurations. -/
theorem SameFor.own (interval : ℚ) {key : κ} {c c' : PacingConfig κ} (h : SameFor key c c')
    {e : Timed.Event κ} (hkey : e.key = key) :
    (Timed.step (acquire interval) c e).1 = (Timed.step (acquire interval) c' e).1 ∧
      (Timed.step (acquire interval) c e).2.shared.get? key =
        (Timed.step (acquire interval) c' e).2.shared.get? key ∧
      ∀ task, (Timed.step (acquire interval) c e).2.sleepers.get? (key, task) =
        (Timed.step (acquire interval) c' e).2.sleepers.get? (key, task) := by
  cases e with
  | call key' task' instant =>
      obtain rfl : key' = key := hkey
      by_cases hdelay : 0 < delayOf interval (c.shared.get? key') instant
      · have hdelay' := hdelay
        rw [h.entry] at hdelay'
        rw [step_call_of_delay hdelay, step_call_of_delay hdelay', h.entry]
        refine ⟨rfl, rfl, fun task => ?_⟩
        show (Dict.set _ _ _).get? _ = (Dict.set _ _ _).get? _
        rw [Dict.get?_set, Dict.get?_set, h.sleepers task]
      · have hdelay' := hdelay
        rw [h.entry] at hdelay'
        rw [step_call_of_not_delay hdelay, step_call_of_not_delay hdelay']
        refine ⟨rfl, ?_, fun task => ?_⟩
        · show (Dict.set _ _ _).get? _ = (Dict.set _ _ _).get? _
          rw [Dict.get?_set_self, Dict.get?_set_self]
        · show (Dict.erase _ _).get? _ = (Dict.erase _ _).get? _
          rw [Dict.get?_erase, Dict.get?_erase, h.sleepers task]
  | wake key' task' instant =>
      obtain rfl : key' = key := hkey
      cases hz : c.sleepers.get? (key', task') with
      | none =>
          have hz' := hz
          rw [h.sleepers task'] at hz'
          rw [Timed.step_wake_of_none hz, Timed.step_wake_of_none hz']
          exact ⟨rfl, h.entry, h.sleepers⟩
      | some z =>
          have hz' := hz
          rw [h.sleepers task'] at hz'
          rw [step_wake interval h.resumable hz, step_wake interval h.resumable' hz']
          refine ⟨rfl, ?_, fun task => ?_⟩
          · show (Dict.set _ _ _).get? _ = (Dict.set _ _ _).get? _
            rw [Dict.get?_set_self, Dict.get?_set_self]
          · show (Dict.erase _ _).get? _ = (Dict.erase _ _).get? _
            rw [Dict.get?_erase, Dict.get?_erase, h.sleepers task]

theorem unwinds_key (interval : ℚ) (key : κ) :
    Unwinds (Timed.step (acquire interval)) (fun _ : Timed.Event κ => ())
      (fun e => decide (e.key = key)) (fun _ _ => True) (fun _ => SameFor key) where
  wait := fun h _ => h
  other := by
    intro c c' e hown h
    obtain ⟨hentry, hsleepers⟩ := step_of_other interval h.resumable
      (of_decide_eq_false hown)
    exact ⟨h.resumable.step interval e, h.resumable', hentry.trans h.entry,
      fun task => (hsleepers task).trans (h.sleepers task)⟩
  answer := fun hown _ h => (h.own interval (of_decide_eq_true hown)).1
  next := by
    intro c c' e hown _ h
    obtain ⟨_, hentry, hsleepers⟩ := h.own interval (of_decide_eq_true hown)
    exact ⟨h.resumable.step interval e, h.resumable'.step interval e, hentry, hsleepers⟩

/-- **The calls of a key** are answered as if no others were made. -/
theorem answers_filter_key (interval clock : ℚ) (key : κ) (run : List (Timed.Event κ)) :
    (answers (Timed.step (acquire interval)) (Timed.initial clock Dict.empty) run).filter
        (fun p => decide (p.1.key = key)) =
      answers (Timed.step (acquire interval)) (Timed.initial clock Dict.empty)
        (run.filter fun e => decide (e.key = key)) := by
  have hempty : Resumable (Timed.initial clock Dict.empty : PacingConfig κ) :=
    (inPace_initial interval clock).resumable
  apply (unwinds_key interval key).answers_filter (n := ())
  · exact List.pairwise_of_forall fun _ _ => le_refl ()
  · exact fun _ _ => le_refl ()
  · exact ⟨hempty, hempty, rfl, fun _ => rfl⟩
  · exact eachMeets_of_forall _ _ (fun _ _ => trivial) _ _

/-! ## Runs -/

/-- What pacing promises of a run: however the sleeps end, calls of one key are completed at
least an interval apart, and calls of other keys make no difference. -/
structure Paced (program : κ → ℚ → Pacing κ ℚ) (interval clock : ℚ)
    (run : List (Timed.Event κ)) : Prop where
  spaced : ∀ earlier later wakes, run = earlier ++ later → (∀ w ∈ wakes, w.IsWake) →
    EachMeets (Timed.step program) Timed.Possible (Timed.initial clock Dict.empty)
      (earlier ++ wakes) →
    Spaced interval
      (after (Timed.step program) (Timed.initial clock Dict.empty) (earlier ++ wakes)).completions
  independent : ∀ key,
    (answers (Timed.step program) (Timed.initial clock Dict.empty) run).filter
        (fun p => decide (p.1.key = key)) =
      answers (Timed.step program) (Timed.initial clock Dict.empty)
        (run.filter fun e => decide (e.key = key))

theorem inPace_after {clock : ℚ} {run : List (Timed.Event κ)}
    (hpossible : EachMeets (Timed.step (acquire interval)) Timed.Possible
      (Timed.initial clock Dict.empty) run)
    (hkeeps : EachMeets (Timed.step (acquire interval)) (KeepsPace interval)
      (Timed.initial clock Dict.empty) run) :
    InPace interval (after (Timed.step (acquire interval)) (Timed.initial clock Dict.empty) run) :=
  after_induction (Timed.step (acquire interval))
    (fun c e => Timed.Possible c e ∧ KeepsPace interval c e)
    (fun _ _ h hfit => h.step hfit.1 hfit.2) (inPace_initial interval clock) (hpossible.and hkeeps)

theorem eachMeets_keepsPace_of_isWake (c : PacingConfig κ) {wakes : List (Timed.Event κ)}
    (hwakes : ∀ w ∈ wakes, w.IsWake) :
    EachMeets (Timed.step (acquire interval)) (KeepsPace interval) c wakes := by
  induction wakes generalizing c with
  | nil => exact trivial
  | cons w wakes ih =>
      refine ⟨?_, ih _ fun w' hw' => hwakes w' (List.mem_cons_of_mem w hw')⟩
      have hwake := hwakes w List.mem_cons_self
      cases w with
      | call key task instant => exact absurd hwake not_false
      | wake key task instant => exact trivial

theorem paced_acquire_iff (hpos : 0 < interval) (clock : ℚ) {run : List (Timed.Event κ)}
    (hpossible : EachMeets (Timed.step (acquire interval)) Timed.Possible
      (Timed.initial clock Dict.empty) run) :
    Paced (acquire interval) interval clock run ↔
      EachMeets (Timed.step (acquire interval)) (KeepsPace interval)
        (Timed.initial clock Dict.empty) run := by
  constructor
  · intro hpaced
    -- The first call that does not keep the pace is made when everything is still in pace.
    have hspaced := hpaced.spaced
    clear hpaced
    induction run using List.reverseRecOn with
    | nil => exact trivial
    | append_singleton run e ih =>
        rw [eachMeets_append] at hpossible ⊢
        have hearlier := ih hpossible.1 fun earlier later wakes hsplit =>
          hspaced earlier (later ++ [e]) wakes (by rw [hsplit, List.append_assoc])
        refine ⟨hearlier, ?_, trivial⟩
        apply (inPace_after hpossible.1 hearlier).keepsPace_of_spaced hpos hpossible.2.1
        intro wakes hwakes hends
        have hlast := hspaced (run ++ [e]) [] wakes (List.append_nil _).symm hwakes
        rw [eachMeets_append, after_append _ _ (run ++ [e]) wakes, after_concat] at hlast
        exact hlast ⟨(eachMeets_append _ _ _ _ _).mpr hpossible, hends⟩
  · intro hkeeps
    refine ⟨?_, fun key => answers_filter_key interval clock key run⟩
    intro earlier later wakes hsplit hwakes hends
    rw [hsplit, eachMeets_append] at hkeeps
    apply InPace.spaced
    apply inPace_after hends
    rw [eachMeets_append]
    exact ⟨hkeeps.1, eachMeets_keepsPace_of_isWake _ hwakes⟩

end Pacing

/-- **Outbound pacing** of either limiter, over every possible run of overlapping calls: calls
of one key keep their distance however the sleeps end, and calls of other keys make no
difference, if and only if every call keeps the pace when it starts. -/
theorem paced_iff (clock : ℚ) :
    (∀ (limit : VKAPIRateLimit) (run : List (Timed.Event VKAPIKey)),
      EachMeets (Timed.step limit.acquire) Timed.Possible (Timed.initial clock Dict.empty) run →
      (Paced limit.acquire limit.effectiveIntervalSeconds clock run ↔
        EachMeets (Timed.step limit.acquire) (KeepsPace limit.effectiveIntervalSeconds)
          (Timed.initial clock Dict.empty) run)) ∧
    ∀ (limit : TelegramTelethonRateLimit) (run : List (Timed.Event TelegramTelethonKey)),
      EachMeets (Timed.step limit.acquire) Timed.Possible (Timed.initial clock Dict.empty) run →
      (Paced limit.acquire limit.effectiveIntervalSeconds clock run ↔
        EachMeets (Timed.step limit.acquire) (KeepsPace limit.effectiveIntervalSeconds)
          (Timed.initial clock Dict.empty) run) := by
  constructor
  · intro limit run hpossible
    exact paced_acquire_iff limit.effectiveIntervalSeconds_pos clock hpossible
  · intro limit run hpossible
    exact paced_acquire_iff limit.effectiveIntervalSeconds_pos clock hpossible

/-! ### Two callers wait for the same turn -/

namespace PacingSample

def key : VKAPIKey := ("coop-alpha", "wall-1", "wall.post")

def calls : List (Timed.Event VKAPIKey) :=
  [.call key 0 0, .call key 1 (1 / 10), .call key 2 (2 / 10)]

theorem possible_calls : EachMeets (Timed.step VKAPIRateLimit.default.acquire) Timed.Possible
    (Timed.initial 0 Dict.empty) calls :=
  ⟨⟨le_refl 0, rfl⟩,
    ⟨by decide +kernel, Option.isNone_iff_eq_none.mp (by decide +kernel)⟩,
    ⟨by decide +kernel, Option.isNone_iff_eq_none.mp (by decide +kernel)⟩, trivial⟩

def sessionKey : TelegramTelethonKey := ("coop-alpha", "session-1", "@media", "send_message")

/-- A call, one that sleeps and wakes up when it is due, and one after both. -/
def turns {κ : Type} (key : κ) (interval : ℚ) : List (Timed.Event κ) :=
  [.call key 0 0, .call key 1 (interval / 2), .wake key 1 interval, .call key 2 (interval + 1)]

/-- INTERNAL: nobody sleeps, and everything was over when the last call was due. -/
theorem keepsPace_call {κ : Type} [DecidableEq κ] {interval instant slot : ℚ}
    {config : PacingConfig κ} {key : κ} {task : ℕ}
    (hsleepers : config.sleepers.entries.map Prod.fst = [])
    (hslot : config.shared.get? key = some slot)
    (hends : ∀ t ∈ config.completions.map Timed.Completion.instant, t ≤ slot) :
    KeepsPace interval config (.call key task instant) := by
  refine ⟨fun task' => ?_, fun d hd _ _ => ⟨slot, hslot, hends _ (List.mem_map_of_mem hd)⟩⟩
  unfold Dict.get?
  rw [List.map_eq_nil_iff.mp hsleepers]
  rfl

/-- INTERNAL: the sleeper is due. -/
theorem possible_wake {κ : Type} [DecidableEq κ] {instant due : ℚ} {config : PacingConfig κ}
    {key : κ} {task : ℕ} (hclock : config.clock ≤ instant)
    (hdue : (config.sleepers.get? (key, task)).map Timed.Sleeper.wakesAt = some due)
    (hle : due ≤ instant) : Timed.Possible config (.wake key task instant) := by
  obtain ⟨z, hz, rfl⟩ := Option.map_eq_some_iff.mp hdue
  exact ⟨hclock, z, hz, hle⟩

theorem possible_turns_wall : EachMeets (Timed.step VKAPIRateLimit.default.acquire)
    Timed.Possible (Timed.initial 0 Dict.empty) (turns key (34 / 100)) :=
  ⟨⟨le_refl 0, rfl⟩,
    ⟨by decide +kernel, Option.isNone_iff_eq_none.mp (by decide +kernel)⟩,
    possible_wake (by decide +kernel) (by decide +kernel) (le_refl (34 / 100)),
    ⟨by decide +kernel, Option.isNone_iff_eq_none.mp (by decide +kernel)⟩, trivial⟩

theorem keepsPace_turns_wall : EachMeets (Timed.step VKAPIRateLimit.default.acquire)
    (KeepsPace VKAPIRateLimit.default.effectiveIntervalSeconds) (Timed.initial 0 Dict.empty)
    (turns key (34 / 100)) := by
  refine ⟨⟨fun _ => rfl, fun _ hd => (by cases hd)⟩, ?_, trivial, ?_, trivial⟩
  · exact @keepsPace_call _ _ _ _ 0 _ _ _ (by decide +kernel) (by decide +kernel)
      (by decide +kernel)
  · exact @keepsPace_call _ _ _ _ (34 / 100) _ _ _ (by decide +kernel) (by decide +kernel)
      (by decide +kernel)

theorem possible_turns_session : EachMeets (Timed.step TelegramTelethonRateLimit.default.acquire)
    Timed.Possible (Timed.initial 0 Dict.empty) (turns sessionKey 1) :=
  ⟨⟨le_refl 0, rfl⟩,
    ⟨by decide +kernel, Option.isNone_iff_eq_none.mp (by decide +kernel)⟩,
    possible_wake (by decide +kernel) (by decide +kernel) (le_refl 1),
    ⟨by decide +kernel, Option.isNone_iff_eq_none.mp (by decide +kernel)⟩, trivial⟩

theorem keepsPace_turns_session : EachMeets (Timed.step TelegramTelethonRateLimit.default.acquire)
    (KeepsPace TelegramTelethonRateLimit.default.effectiveIntervalSeconds)
    (Timed.initial 0 Dict.empty) (turns sessionKey 1) := by
  refine ⟨⟨fun _ => rfl, fun _ hd => (by cases hd)⟩, ?_, trivial, ?_, trivial⟩
  · exact @keepsPace_call _ _ _ _ 0 _ _ _ (by decide +kernel) (by decide +kernel)
      (by decide +kernel)
  · exact @keepsPace_call _ _ _ _ 1 _ _ _ (by decide +kernel) (by decide +kernel)
      (by decide +kernel)

/-- The second caller sleeps when the third one starts. -/
theorem not_keepsPace_calls : ¬ EachMeets (Timed.step VKAPIRateLimit.default.acquire)
    (KeepsPace VKAPIRateLimit.default.effectiveIntervalSeconds) (Timed.initial 0 Dict.empty)
    calls := by
  rintro ⟨_, _, ⟨hnone, _⟩, _⟩
  have hawake := Option.isNone_iff_eq_none.mpr (hnone 1)
  revert hawake
  decide +kernel

end PacingSample

open PacingSample in
/-- Either limiter lets three callers take turns, an interval apart. -/
theorem paced_iff_turns :
    Paced VKAPIRateLimit.default.acquire VKAPIRateLimit.default.effectiveIntervalSeconds 0
      (turns key (34 / 100)) ∧
    Paced TelegramTelethonRateLimit.default.acquire
      TelegramTelethonRateLimit.default.effectiveIntervalSeconds 0 (turns sessionKey 1) :=
  ⟨((paced_iff 0).1 _ _ possible_turns_wall).mpr keepsPace_turns_wall,
    ((paced_iff 0).2 _ _ possible_turns_session).mpr keepsPace_turns_session⟩

open PacingSample in
/-- A call at 0 s, and two more before 0.34 s: both are completed at 0.34 s. -/
theorem not_paced_calls :
    ¬ ((∀ (limit : VKAPIRateLimit) (clock : ℚ) (run : List (Timed.Event VKAPIKey)),
        EachMeets (Timed.step limit.acquire) Timed.Possible (Timed.initial clock Dict.empty) run →
        Paced limit.acquire limit.effectiveIntervalSeconds clock run) ∧
      ∀ (limit : TelegramTelethonRateLimit) (clock : ℚ)
        (run : List (Timed.Event TelegramTelethonKey)),
        EachMeets (Timed.step limit.acquire) Timed.Possible (Timed.initial clock Dict.empty) run →
        Paced limit.acquire limit.effectiveIntervalSeconds clock run) := by
  rintro ⟨hall, _⟩
  have hpaced := hall VKAPIRateLimit.default 0 calls possible_calls
  exact not_keepsPace_calls ((paced_acquire_iff
    VKAPIRateLimit.default.effectiveIntervalSeconds_pos 0 possible_calls).mp hpaced)

end MediaCenter.MessengerAdapter
