import MediaCenter.Model.Shared.EventProcessing

/-!
# Events are processed once

An event is in progress exactly while a handler runs for it, unless a handler is cancelled:
the store then keeps the event in progress, and no later delivery starts a handler.
-/

set_option autoImplicit false

namespace MediaCenter.Shared.IdempotentEventProcessor

open MediaCenter.Library Coroutine

/-- Calls of `handle` on one store, in every order and overlapping in every way. -/
abbrev Processing : Type :=
  Config EventEnvelope handlerInterface InMemoryEventIdempotencyStore BaseException Bool

abbrev Delivery : Type := Action EventEnvelope handlerInterface

abbrev run (deliveries : List Delivery) : Processing :=
  Config.run handle (Config.initial InMemoryEventIdempotencyStore.empty) deliveries

/-- The id under which the store knows an event. -/
def storedId (envelope : EventEnvelope) : Except SharedException String :=
  normalizeToken envelope.eventId "event_id"

/-- The handler of the `i`-th call is running, for the event `id`. -/
def Running (c : Processing) (i : ℕ) (id : String) : Prop :=
  ∃ envelope, c.pending i = some envelope ∧ storedId envelope = .ok id

/-- A handler that was given the event `id` and returned. -/
def succeeded (id : String) : (Σ _ : EventEnvelope, Except BaseException Unit) → Bool
  | ⟨envelope, .ok ()⟩ => decide (storedId envelope = .ok id)
  | ⟨_, .error _⟩ => false

def successes (c : Processing) (id : String) : ℕ := c.answered.countP (succeeded id)

/-- No handler is cancelled. -/
def NotCancelled (c : Processing) : Delivery → Prop
  | .call _ => True
  | .resume i answer => ∀ envelope, c.pending i = some envelope →
      answer envelope ≠ .error .cancelled

structure ProcessedOnce (c : Processing) : Prop where
  succeeds_once : ∀ id, successes c id ≤ 1
  never_overlap : ∀ i j id, Running c i id → Running c j id → i = j
  inProgress_iff : ∀ id, id ∈ c.shared.inProgress ↔ ∃ i, Running c i id
  redelivers : ∀ envelope id, storedId envelope = .ok id → successes c id = 0 →
    (∀ i, ¬ Running c i id) →
    (Config.step handle c (.call envelope)).pending c.tasks.length = some envelope

/-! ## Segments -/

section Segments

variable {envelope : EventEnvelope} {store : InMemoryEventIdempotencyStore} {id : String}

/-- What is left of a call when its handler has ended. -/
def afterHandler (envelope : EventEnvelope) (ended : Except BaseException Unit) :
    EventProgram Bool := do
  tryCatch (Coroutine.ofExcept ended) (releaseAfter envelope)
  stored (InMemoryEventIdempotencyStore.complete envelope.eventId)
  return true

theorem advance_handle_of_error {e : SharedException} (h : storedId envelope = .error e) :
    (handle envelope).advance store = (.finished (.error (.exception e)), store) := by
  unfold storedId at h
  unfold handle stored
  rw [advance_update_bind]
  simp only [InMemoryEventIdempotencyStore.begin, h, bind, Except.bind, Except.mapError]

theorem begin_eq_ok (h : storedId envelope = .ok id) :
    InMemoryEventIdempotencyStore.begin envelope.eventId store =
      if id ∈ store.completed ∨ id ∈ store.inProgress then .ok (false, store)
      else .ok (true, { store with inProgress := insert id store.inProgress }) := by
  unfold storedId at h
  unfold InMemoryEventIdempotencyStore.begin
  rw [h]
  rfl

theorem advance_handle_of_seen (h : storedId envelope = .ok id)
    (hseen : id ∈ store.completed ∨ id ∈ store.inProgress) :
    (handle envelope).advance store = (.finished (.ok false), store) := by
  unfold handle stored
  rw [advance_update_bind, begin_eq_ok h, if_pos hseen]
  rfl

theorem advance_handle_of_new (h : storedId envelope = .ok id)
    (hnew : ¬ (id ∈ store.completed ∨ id ∈ store.inProgress)) :
    (handle envelope).advance store = (.suspended envelope (afterHandler envelope),
      { store with inProgress := insert id store.inProgress }) := by
  unfold handle stored
  rw [advance_update_bind, begin_eq_ok h, if_neg hnew]
  rfl

theorem complete_eq_ok (h : storedId envelope = .ok id) :
    InMemoryEventIdempotencyStore.complete envelope.eventId store =
      .ok ((), ⟨store.inProgress.erase id, insert id store.completed⟩) := by
  unfold storedId at h
  unfold InMemoryEventIdempotencyStore.complete
  rw [h]
  rfl

theorem fail_eq_ok (h : storedId envelope = .ok id) :
    InMemoryEventIdempotencyStore.fail envelope.eventId store =
      .ok ((), { store with inProgress := store.inProgress.erase id }) := by
  unfold storedId at h
  unfold InMemoryEventIdempotencyStore.fail
  rw [h]
  rfl

theorem advance_afterHandler_ok (h : storedId envelope = .ok id) :
    (afterHandler envelope (.ok ())).advance store =
      (.finished (.ok true), ⟨store.inProgress.erase id, insert id store.completed⟩) := by
  unfold afterHandler stored
  rw [advance_bind, advance_tryCatch, advance_ofExcept]
  simp only [Pause.orElse, Pause.andThen]
  rw [advance_update_bind, complete_eq_ok h]
  rfl

theorem advance_afterHandler_exception (e : SharedException) (h : storedId envelope = .ok id) :
    (afterHandler envelope (.error (.exception e))).advance store =
      (.finished (.error (.exception e)),
        { store with inProgress := store.inProgress.erase id }) := by
  unfold afterHandler
  rw [advance_bind, advance_tryCatch, advance_ofExcept]
  simp only [Pause.orElse, releaseAfter, stored]
  rw [advance_update_bind, fail_eq_ok h]
  rfl

/-- INTERNAL: nothing releases the event of a handler that was cancelled. -/
theorem advance_afterHandler_cancelled :
    (afterHandler envelope (.error .cancelled)).advance store =
      (.finished (.error .cancelled), store) := by
  unfold afterHandler
  rw [advance_bind, advance_tryCatch, advance_ofExcept]
  rfl

end Segments

/-! ## The invariant -/

section Running

variable {c : Processing} {i j : ℕ} {id id' : String} {envelope : EventEnvelope}

theorem running_iff : Running c i id ↔ ∃ call q rest,
    c.tasks[i]? = some ⟨call, .suspended q rest⟩ ∧ storedId q = .ok id := by
  unfold Running
  constructor
  · rintro ⟨q, hpending, hid⟩
    obtain ⟨call, rest, hi⟩ := Config.pending_eq_some_iff.mp hpending
    exact ⟨call, q, rest, hi, hid⟩
  · rintro ⟨call, q, rest, hi, hid⟩
    exact ⟨q, Config.pending_eq_some_iff.mpr ⟨call, rest, hi⟩, hid⟩

theorem not_running_length : ¬ Running c c.tasks.length id := by
  rw [running_iff]
  rintro ⟨call, q, rest, hi, _⟩
  rw [List.getElem?_eq_none (le_refl _)] at hi
  cases hi

theorem running_call_of_finished {r : Except BaseException Bool}
    {store : InMemoryEventIdempotencyStore}
    (h : (handle envelope).advance c.shared = (.finished r, store)) :
    Running (Config.step handle c (.call envelope)) j id ↔ Running c j id := by
  by_cases hj : j = c.tasks.length
  · subst hj
    constructor
    · rw [running_iff]
      rintro ⟨call, q, rest, hi, _⟩
      rw [Config.tasks_step_call, if_pos rfl, h] at hi
      cases hi
    · exact fun hrunning => absurd hrunning not_running_length
  · rw [running_iff, running_iff, Config.tasks_step_call, if_neg hj]

theorem running_call_of_suspended {store : InMemoryEventIdempotencyStore}
    {rest : Except BaseException Unit → EventProgram Bool} (hid : storedId envelope = .ok id)
    (h : (handle envelope).advance c.shared = (.suspended envelope rest, store)) :
    Running (Config.step handle c (.call envelope)) j id' ↔
      (j = c.tasks.length ∧ id' = id) ∨ Running c j id' := by
  by_cases hj : j = c.tasks.length
  · subst hj
    rw [running_iff, Config.tasks_step_call, if_pos rfl, h]
    constructor
    · rintro ⟨call, q, rest', hi, hq⟩
      cases hi
      rw [hid] at hq
      cases hq
      exact .inl ⟨rfl, rfl⟩
    · rintro (⟨_, rfl⟩ | hrunning)
      · exact ⟨envelope, envelope, rest, rfl, hid⟩
      · exact absurd hrunning not_running_length
  · rw [running_iff, running_iff, Config.tasks_step_call, if_neg hj]
    constructor
    · exact fun hrunning => .inr hrunning
    · rintro (⟨heq, _⟩ | hrunning)
      · exact absurd heq hj
      · exact hrunning

theorem running_resume_of_finished {call q : EventEnvelope}
    {rest : Except BaseException Unit → EventProgram Bool} {r : Except BaseException Bool}
    {store : InMemoryEventIdempotencyStore}
    {answer : ∀ q : handlerInterface.Request, handlerInterface.Answer q}
    (hi : c.tasks[i]? = some ⟨call, .suspended q rest⟩)
    (h : (rest (answer q)).advance c.shared = (.finished r, store)) :
    Running (Config.step handle c (.resume i answer)) j id ↔ j ≠ i ∧ Running c j id := by
  by_cases hj : j = i
  · subst hj
    constructor
    · rw [running_iff]
      rintro ⟨call', q', rest', hnext, _⟩
      rw [Config.tasks_step_resume handle hi, if_pos rfl, h] at hnext
      cases hnext
    · exact fun hrunning => absurd rfl hrunning.1
  · rw [running_iff, running_iff, Config.tasks_step_resume handle hi, if_neg hj]
    exact ⟨fun hrunning => ⟨hj, hrunning⟩, fun hrunning => hrunning.2⟩

end Running

/-- Between two segments the store knows which handlers run and which have succeeded. -/
structure Coherent (c : Processing) : Prop where
  suspended : ∀ (i : ℕ) (call q : EventEnvelope) (rest : Except BaseException Unit →
    EventProgram Bool), c.tasks[i]? = some ⟨call, .suspended q rest⟩ →
    rest = afterHandler q ∧ ∃ id, storedId q = .ok id
  never_overlap : ∀ i j id, Running c i id → Running c j id → i = j
  inProgress_iff : ∀ id, id ∈ c.shared.inProgress ↔ ∃ i, Running c i id
  successes_eq : ∀ id, successes c id = if id ∈ c.shared.completed then 1 else 0
  not_completed : ∀ id ∈ c.shared.inProgress, id ∉ c.shared.completed

section Coherence

variable {c : Processing}

theorem coherent_initial : Coherent (Config.initial InMemoryEventIdempotencyStore.empty) := by
  have hnone : ∀ i id, ¬ Running (Config.initial InMemoryEventIdempotencyStore.empty) i id := by
    intro i id
    rw [running_iff]
    rintro ⟨call, q, rest, hi, _⟩
    cases hi
  constructor
  · intro i call q rest hi
    cases hi
  · intro i j id hi
    exact absurd hi (hnone i id)
  · intro id
    constructor
    · intro hmem
      exact absurd hmem (Finset.notMem_empty id)
    · rintro ⟨i, hi⟩
      exact absurd hi (hnone i id)
  · intro id
    show 0 = if id ∈ (∅ : Finset String) then 1 else 0
    rw [if_neg (Finset.notMem_empty id)]
  · intro id hmem
    exact absurd hmem (Finset.notMem_empty id)

theorem successes_call (envelope : EventEnvelope) (id : String) :
    successes (Config.step handle c (.call envelope)) id = successes c id := by
  unfold successes
  rw [Config.step_call]

/-- INTERNAL: a call that starts no handler changes nothing. -/
theorem Coherent.call_of_finished (h : Coherent c) {envelope : EventEnvelope}
    {r : Except BaseException Bool}
    (hadvance : (handle envelope).advance c.shared = (.finished r, c.shared)) :
    Coherent (Config.step handle c (.call envelope)) := by
  have hshared : (Config.step handle c (.call envelope)).shared = c.shared := by
    rw [Config.step_call, hadvance]
  constructor
  · intro i call q rest hi
    rw [Config.tasks_step_call, hadvance] at hi
    split at hi
    · cases hi
    · exact h.suspended i call q rest hi
  · intro i j id
    rw [running_call_of_finished hadvance, running_call_of_finished hadvance]
    exact h.never_overlap i j id
  · intro id
    rw [hshared, h.inProgress_iff id]
    simp only [running_call_of_finished hadvance]
  · intro id
    rw [successes_call, hshared]
    exact h.successes_eq id
  · rw [hshared]
    exact h.not_completed

/-- INTERNAL: the call of an event that is neither completed nor in progress starts a handler. -/
theorem Coherent.call_of_new (h : Coherent c) {envelope : EventEnvelope} {id : String}
    (hid : storedId envelope = .ok id)
    (hnew : ¬ (id ∈ c.shared.completed ∨ id ∈ c.shared.inProgress)) :
    Coherent (Config.step handle c (.call envelope)) := by
  have hadvance := advance_handle_of_new hid hnew
  have hshared : (Config.step handle c (.call envelope)).shared =
      { c.shared with inProgress := insert id c.shared.inProgress } := by
    rw [Config.step_call, hadvance]
  rw [not_or] at hnew
  have hnone : ∀ i, ¬ Running c i id := by
    intro i hrunning
    exact hnew.2 ((h.inProgress_iff id).mpr ⟨i, hrunning⟩)
  constructor
  · intro i call q rest hi
    rw [Config.tasks_step_call, hadvance] at hi
    split at hi
    · cases hi
      exact ⟨rfl, id, hid⟩
    · exact h.suspended i call q rest hi
  · intro i j id'
    rw [running_call_of_suspended hid hadvance, running_call_of_suspended hid hadvance]
    rintro (⟨rfl, rfl⟩ | hi) (⟨rfl, heq⟩ | hj)
    · rfl
    · exact absurd hj (hnone j)
    · rw [heq] at hi
      exact absurd hi (hnone i)
    · exact h.never_overlap i j id' hi hj
  · intro id'
    rw [hshared]
    simp only [running_call_of_suspended hid hadvance, Finset.mem_insert]
    constructor
    · rintro (rfl | hmem)
      · exact ⟨c.tasks.length, .inl ⟨rfl, rfl⟩⟩
      · obtain ⟨i, hi⟩ := (h.inProgress_iff id').mp hmem
        exact ⟨i, .inr hi⟩
    · rintro ⟨i, ⟨_, rfl⟩ | hi⟩
      · exact .inl rfl
      · exact .inr ((h.inProgress_iff id').mpr ⟨i, hi⟩)
  · intro id'
    rw [successes_call, hshared]
    exact h.successes_eq id'
  · intro id'
    rw [hshared]
    simp only [Finset.mem_insert]
    rintro (rfl | hmem)
    · exact hnew.1
    · exact h.not_completed id' hmem

theorem Coherent.call (h : Coherent c) (envelope : EventEnvelope) :
    Coherent (Config.step handle c (.call envelope)) := by
  cases hid : storedId envelope with
  | error e => exact h.call_of_finished (advance_handle_of_error hid)
  | ok id =>
      by_cases hseen : id ∈ c.shared.completed ∨ id ∈ c.shared.inProgress
      · exact h.call_of_finished (advance_handle_of_seen hid hseen)
      · exact h.call_of_new hid hseen

theorem succeeded_iff {id : String} {q : EventEnvelope} {ended : Except BaseException Unit} :
    succeeded id ⟨q, ended⟩ = true ↔ ended = .ok () ∧ storedId q = .ok id := by
  cases ended with
  | ok u => simp [succeeded]
  | error e => simp [succeeded]

/-- INTERNAL: a handler that ends, but is not cancelled, leaves its event completed or free. -/
theorem Coherent.ended (h : Coherent c) (r : Except BaseException Bool)
    (completed : Finset String) {i : ℕ} {call q : EventEnvelope} {id : String}
    {answer : ∀ q : handlerInterface.Request, handlerInterface.Answer q}
    (hi : c.tasks[i]? = some ⟨call, .suspended q (afterHandler q)⟩) (hid : storedId q = .ok id)
    (hadvance : (afterHandler q (answer q)).advance c.shared =
      (.finished r, ⟨c.shared.inProgress.erase id, completed⟩))
    (hcompleted : ∀ id', id' ∈ completed ↔
      (succeeded id ⟨q, answer q⟩ = true ∧ id' = id) ∨ id' ∈ c.shared.completed) :
    Coherent (Config.step handle c (.resume i answer)) := by
  have hshared : (Config.step handle c (.resume i answer)).shared =
      ⟨c.shared.inProgress.erase id, completed⟩ := by
    rw [Config.step_resume handle hi, hadvance]
  have hrunning : Running c i id := running_iff.mpr ⟨call, q, _, hi, hid⟩
  have hmem : id ∈ c.shared.inProgress := (h.inProgress_iff id).mpr ⟨i, hrunning⟩
  constructor
  · intro j call' q' rest hj
    rw [Config.tasks_step_resume handle hi, hadvance] at hj
    split at hj
    · cases hj
    · exact h.suspended j call' q' rest hj
  · intro j k id'
    rw [running_resume_of_finished hi hadvance, running_resume_of_finished hi hadvance]
    rintro ⟨_, hj⟩ ⟨_, hk⟩
    exact h.never_overlap j k id' hj hk
  · intro id'
    rw [hshared]
    simp only [running_resume_of_finished hi hadvance, Finset.mem_erase]
    rw [h.inProgress_iff id']
    constructor
    · rintro ⟨hne, j, hj⟩
      refine ⟨j, ?_, hj⟩
      rintro rfl
      obtain ⟨_, q', _, hj', hq'⟩ := running_iff.mp hj
      rw [hi] at hj'
      cases hj'
      rw [hid] at hq'
      cases hq'
      exact hne rfl
    · rintro ⟨j, hne, hj⟩
      refine ⟨?_, j, hj⟩
      rintro rfl
      exact hne (h.never_overlap j i id' hj hrunning)
  · intro id'
    have hcount : successes (Config.step handle c (.resume i answer)) id' =
        successes c id' + if succeeded id' ⟨q, answer q⟩ = true then 1 else 0 := by
      unfold successes
      rw [Config.step_resume handle hi]
      simp only [List.countP_append, List.countP_singleton]
    rw [hcount, hshared, h.successes_eq id']
    by_cases hsame : id' = id
    · subst hsame
      rw [if_neg (h.not_completed id' hmem), Nat.zero_add]
      apply if_congr _ rfl rfl
      rw [hcompleted id']
      constructor
      · exact fun hsucceeded => .inl ⟨hsucceeded, rfl⟩
      · rintro (⟨hsucceeded, _⟩ | hdone)
        · exact hsucceeded
        · exact absurd hdone (h.not_completed id' hmem)
    · have hother : ¬ succeeded id' ⟨q, answer q⟩ = true := by
        rw [succeeded_iff, hid]
        rintro ⟨_, heq⟩
        cases heq
        exact hsame rfl
      rw [if_neg hother, Nat.add_zero]
      apply if_congr _ rfl rfl
      rw [hcompleted id']
      constructor
      · exact fun hdone => .inr hdone
      · rintro (⟨_, heq⟩ | hdone)
        · exact absurd heq hsame
        · exact hdone
  · intro id'
    rw [hshared]
    simp only [Finset.mem_erase]
    rintro ⟨hne, hmem'⟩ hdone
    rcases (hcompleted id').mp hdone with ⟨_, heq⟩ | hdone
    · exact hne heq
    · exact h.not_completed id' hmem' hdone

theorem Coherent.step (h : Coherent c) (a : Delivery) (ha : NotCancelled c a) :
    Coherent (Config.step handle c a) := by
  cases a with
  | call envelope => exact h.call envelope
  | resume i answer =>
      cases hpending : c.pending i with
      | none =>
          rw [Config.step_resume_of_pending_eq_none handle hpending]
          exact h
      | some q =>
          obtain ⟨call, rest, hi⟩ := Config.pending_eq_some_iff.mp hpending
          obtain ⟨rfl, id, hid⟩ := h.suspended i call q rest hi
          have hcancelled := ha q hpending
          cases hanswer : answer q with
          | ok u =>
              refine h.ended (.ok true) (insert id c.shared.completed) hi hid ?_ ?_
              · rw [hanswer]
                exact advance_afterHandler_ok hid
              · intro id'
                rw [succeeded_iff, hanswer, Finset.mem_insert]
                simp [hid]
          | error e =>
              cases e with
              | exception e =>
                  refine h.ended (.error (.exception e)) c.shared.completed hi hid ?_ ?_
                  · rw [hanswer]
                    exact advance_afterHandler_exception e hid
                  · intro id'
                    rw [succeeded_iff, hanswer]
                    simp
              | cancelled => exact absurd hanswer hcancelled

theorem Coherent.processedOnce (h : Coherent c) : ProcessedOnce c := by
  constructor
  · intro id
    rw [h.successes_eq id]
    split
    · exact le_refl 1
    · exact Nat.zero_le 1
  · exact h.never_overlap
  · exact h.inProgress_iff
  · intro envelope id hid hsuccesses hidle
    have hnew : ¬ (id ∈ c.shared.completed ∨ id ∈ c.shared.inProgress) := by
      rintro (hdone | hmem)
      · rw [h.successes_eq id, if_pos hdone] at hsuccesses
        cases hsuccesses
      · obtain ⟨i, hi⟩ := (h.inProgress_iff id).mp hmem
        exact hidle i hi
    rw [Config.pending_eq_some_iff]
    refine ⟨envelope, afterHandler envelope, ?_⟩
    rw [Config.tasks_step_call, if_pos rfl, advance_handle_of_new hid hnew]

/-- INTERNAL: an event stays in progress when its handler is cancelled. -/
theorem Coherent.not_processedOnce_of_cancelled (h : Coherent c) {i : ℕ} {q : EventEnvelope}
    {answer : ∀ q : handlerInterface.Request, handlerInterface.Answer q}
    (hpending : c.pending i = some q) (hanswer : answer q = .error .cancelled) :
    ¬ ProcessedOnce (Config.step handle c (.resume i answer)) := by
  obtain ⟨call, rest, hi⟩ := Config.pending_eq_some_iff.mp hpending
  obtain ⟨rfl, id, hid⟩ := h.suspended i call q rest hi
  have hadvance : (afterHandler q (answer q)).advance c.shared =
      (.finished (.error .cancelled), c.shared) := by
    rw [hanswer]
    exact advance_afterHandler_cancelled
  have hrunning : Running c i id := running_iff.mpr ⟨call, q, _, hi, hid⟩
  intro honce
  have hmem : id ∈ (Config.step handle c (.resume i answer)).shared.inProgress := by
    rw [Config.step_resume handle hi, hadvance]
    exact (h.inProgress_iff id).mpr ⟨i, hrunning⟩
  obtain ⟨j, hj⟩ := (honce.inProgress_iff id).mp hmem
  rw [running_resume_of_finished hi hadvance] at hj
  exact hj.1 (h.never_overlap j i id hj.2 hrunning)

end Coherence

/-! ## Runs -/

theorem coherent_run {deliveries : List Delivery}
    (h : Config.EveryStep handle NotCancelled
      (Config.initial InMemoryEventIdempotencyStore.empty) deliveries) :
    Coherent (run deliveries) :=
  Config.run_induction (fun _ a ha hc => hc.step a ha) _ deliveries h coherent_initial

/-- **Processed once.**  All along an interleaving of deliveries an event is completed at most
once, by one handler at a time, and handled again after a failure, exactly if no handler is
cancelled. -/
theorem processedOnce_iff_not_cancelled (deliveries : List Delivery) :
    (∀ earlier, earlier <+: deliveries → ProcessedOnce (run earlier)) ↔
      Config.EveryStep handle NotCancelled
        (Config.initial InMemoryEventIdempotencyStore.empty) deliveries := by
  constructor
  · intro honce
    -- The first cancellation meets a coherent store, and leaves one that is not.
    induction deliveries using List.reverseRecOn with
    | nil => exact trivial
    | append_singleton deliveries a ih =>
        have hearlier := ih fun earlier hle =>
          honce earlier (hle.trans (List.prefix_append deliveries [a]))
        rw [Config.everyStep_append_iff]
        refine ⟨hearlier, ?_, trivial⟩
        have hlast := honce _ (List.prefix_refl _)
        rw [run, Config.run_append] at hlast
        cases a with
        | call envelope => exact trivial
        | resume i answer =>
            intro q hpending hanswer
            exact (coherent_run hearlier).not_processedOnce_of_cancelled hpending hanswer hlast
  · intro h earlier hle
    obtain ⟨later, rfl⟩ := hle
    rw [Config.everyStep_append_iff] at h
    exact (coherent_run h.1).processedOnce

namespace EventSample

def envelope : EventEnvelope where
  eventId := "event-1"
  type := "contribution.recorded"
  schemaVersion := "1.0"
  tenantId := "media-center"
  source := "contribution-ledger"
  correlationId := "request-1"
  occurredAt := 0
  payload := []
  causationId := none

/-- The handler of the only delivery is cancelled. -/
def deliveries : List Delivery :=
  [.call envelope, .resume 0 fun _ => .error .cancelled]

end EventSample

/-- INTERNAL: a first delivery whose handler is cancelled. -/
theorem not_processedOnce_cancelled {envelope : EventEnvelope} {id : String}
    (hid : storedId envelope = .ok id) :
    ¬ ProcessedOnce (run [.call envelope, .resume 0 fun _ => .error .cancelled]) := by
  have hpending := coherent_initial.processedOnce.redelivers envelope id hid rfl
    fun i hi => by
      obtain ⟨_, _, _, hnone, _⟩ := running_iff.mp hi
      cases hnone
  have hcoherent := coherent_initial.call envelope
  unfold run
  rw [Config.run_cons, Config.run_cons, Config.run_nil]
  exact hcoherent.not_processedOnce_of_cancelled hpending rfl

/-- A cancelled handler leaves its event claimed: no later delivery is handled. -/
theorem not_processedOnce : ¬ ∀ deliveries, ProcessedOnce (run deliveries) := by
  intro h
  have hid : storedId EventSample.envelope = .ok "event-1" := by decide
  exact not_processedOnce_cancelled hid (h EventSample.deliveries)

end MediaCenter.Shared.IdempotentEventProcessor
