import Mathlib.Data.List.Induction
import MediaCenter.Library.Effects
import MediaCenter.Model.Shared.Resilience

/-!
# The circuit breaker over whole runs

Every change of the breaker is one of three operations, so the breaker of a run is what its
history leads to.  The facts below are proved for every history, whatever calls it comes
from: late successes and late failures are entries like any other.
-/

set_option autoImplicit false

namespace MediaCenter.Shared

open MediaCenter.Library Coroutine

variable (policy : CircuitBreakerPolicy)

/-- The breaker after a history of operations. -/
def breakerAfter (history : List BreakerOp) : CircuitBreaker :=
  history.foldl (BreakerOp.apply policy) .initial

theorem breakerAfter_append (history : List BreakerOp) (op : BreakerOp) :
    breakerAfter policy (history ++ [op]) = op.apply policy (breakerAfter policy history) := by
  rw [breakerAfter, List.foldl_append, List.foldl_cons, List.foldl_nil, ← breakerAfter]

/-- The representation invariant. -/
structure WellFormed (b : CircuitBreaker) : Prop where
  closed_iff : b.state = .closed ↔ b.openedAt = none
  failures_lt : b.state = .closed → b.consecutiveFailures < policy.failureThreshold
  recoveries_lt : b.recoverySuccesses < policy.recoverySuccessThreshold

section Operations

variable {policy} {b : CircuitBreaker}

theorem wellFormed_initial : WellFormed policy .initial where
  closed_iff := ⟨fun _ => rfl, fun _ => rfl⟩
  failures_lt := fun _ => policy.failureThreshold_pos
  recoveries_lt := policy.recoverySuccessThreshold_pos

theorem wellFormed_openCircuit (now : ℚ) (b : CircuitBreaker) :
    WellFormed policy (b.openCircuit now) where
  closed_iff := by
    constructor
    · intro hclosed
      cases hclosed
    · intro hnone
      cases hnone
  failures_lt := by
    intro hclosed
    cases hclosed
  recoveries_lt := policy.recoverySuccessThreshold_pos

theorem WellFormed.recordSuccess (h : WellFormed policy b) :
    WellFormed policy (b.recordSuccess policy).2 := by
  unfold CircuitBreaker.recordSuccess
  by_cases hstate : b.state = .halfOpen
  · rw [if_pos hstate]
    by_cases hclose : policy.recoverySuccessThreshold ≤ b.recoverySuccesses + 1
    · rw [if_pos hclose]
      exact wellFormed_initial
    · rw [if_neg hclose]
      refine ⟨h.closed_iff, h.failures_lt, ?_⟩
      show b.recoverySuccesses + 1 < policy.recoverySuccessThreshold
      omega
  · rw [if_neg hstate]
    refine ⟨h.closed_iff, fun _ => policy.failureThreshold_pos, ?_⟩
    exact policy.recoverySuccessThreshold_pos

theorem WellFormed.recordFailure (h : WellFormed policy b) (now : ℚ) :
    WellFormed policy (b.recordFailure policy now) := by
  unfold CircuitBreaker.recordFailure
  by_cases hstate : b.state = .halfOpen
  · rw [if_pos hstate]
    exact wellFormed_openCircuit now b
  · rw [if_neg hstate]
    by_cases hopen : policy.failureThreshold ≤ b.consecutiveFailures + 1
    · rw [if_pos hopen]
      exact wellFormed_openCircuit now _
    · rw [if_neg hopen]
      refine ⟨h.closed_iff, ?_, h.recoveries_lt⟩
      intro _
      show b.consecutiveFailures + 1 < policy.failureThreshold
      omega

/-- What `_transition_open_circuit_if_ready` can do. -/
theorem transition_cases (policy : CircuitBreakerPolicy) (b : CircuitBreaker) (now : ℚ) :
    b.transitionOpenCircuitIfReady policy now = b ∨
      (b.state = .opened ∧ b.openedAt ≠ none ∧
        b.transitionOpenCircuitIfReady policy now =
          { b with state := .halfOpen, recoverySuccesses := 0 }) := by
  unfold CircuitBreaker.transitionOpenCircuitIfReady
  split
  · rename_i openedAt hstate hopenedAt
    by_cases hready : policy.cooldownSeconds ≤ now - openedAt
    · right
      rw [if_pos hready, hopenedAt]
      exact ⟨hstate, Option.some_ne_none _, rfl⟩
    · left
      rw [if_neg hready]
  · exact .inl rfl

theorem WellFormed.transition (h : WellFormed policy b) (now : ℚ) :
    WellFormed policy (b.transitionOpenCircuitIfReady policy now) := by
  rcases transition_cases policy b now with hsame | ⟨_, hopenedAt, hready⟩
  · rw [hsame]
    exact h
  · rw [hready]
    refine ⟨⟨?_, ?_⟩, ?_, policy.recoverySuccessThreshold_pos⟩
    · intro hclosed
      cases hclosed
    · intro hnone
      exact absurd hnone hopenedAt
    · intro hclosed
      cases hclosed

theorem WellFormed.apply (h : WellFormed policy b) (op : BreakerOp) :
    WellFormed policy (op.apply policy b) := by
  cases op with
  | success => exact h.recordSuccess
  | failure now => exact h.recordFailure now
  | transition now => exact h.transition now

end Operations

theorem breakerAfter_wellFormed (history : List BreakerOp) :
    WellFormed policy (breakerAfter policy history) := by
  induction history using List.reverseRecOn with
  | nil => exact wellFormed_initial
  | append_singleton history op ih =>
      rw [breakerAfter_append]
      exact ih.apply op

/-! ## Recovery -/

/-- The history entered HALF_OPEN with this transition, and has recorded successes only,
and stayed there, since. -/
structure RecoversSince (entered : List BreakerOp) (now : ℚ) (since : List BreakerOp) :
    Prop where
  wasOpen : (breakerAfter policy entered).state = .opened
  stays : ∀ l, l <+: since →
    (breakerAfter policy (entered ++ .transition now :: l)).state = .halfOpen
  noFailure : ∀ t, BreakerOp.failure t ∉ since

section Recovery

variable {policy}

theorem RecoversSince.append {entered since : List BreakerOp} {now : ℚ} {op : BreakerOp}
    (h : RecoversSince policy entered now since) (hop : ∀ t, op ≠ .failure t)
    (hstate : (breakerAfter policy (entered ++ .transition now :: (since ++ [op]))).state =
      .halfOpen) : RecoversSince policy entered now (since ++ [op]) where
  wasOpen := h.wasOpen
  stays := by
    intro l hl
    rcases List.prefix_concat_iff.mp hl with rfl | hl
    · exact hstate
    · exact h.stays l hl
  noFailure := by
    intro t ht
    rw [List.mem_append, List.mem_singleton] at ht
    rcases ht with ht | ht
    · exact h.noFailure t ht
    · exact hop t ht.symm

/-- While the circuit is half open, the counter is the number of successes recorded since
it entered that state. -/
theorem recoversSince_of_halfOpen (history : List BreakerOp)
    (h : (breakerAfter policy history).state = .halfOpen) :
    ∃ entered now since, history = entered ++ .transition now :: since ∧
      RecoversSince policy entered now since ∧
      since.count .success = (breakerAfter policy history).recoverySuccesses := by
  induction history using List.reverseRecOn with
  | nil => cases h
  | append_singleton history op ih =>
      have happly := breakerAfter_append policy history op
      cases op with
      | success =>
          have hbefore : (breakerAfter policy history).state = .halfOpen := by
            by_contra hother
            rw [happly, BreakerOp.apply, CircuitBreaker.recordSuccess, if_neg hother] at h
            exact hother h
          obtain ⟨entered, now, since, rfl, hrecovers, hcount⟩ := ih hbefore
          have hsame : (entered ++ .transition now :: since) ++ [.success] =
            entered ++ .transition now :: (since ++ [.success]) := List.append_assoc _ _ _
          refine ⟨entered, now, since ++ [.success], hsame, ?_, ?_⟩
          · apply hrecovers.append
            · intro t ht
              cases ht
            · rw [← hsame]
              exact h
          · rw [List.count_append, List.count_singleton_self, hcount, happly]
            rw [happly, BreakerOp.apply, CircuitBreaker.recordSuccess, if_pos hbefore] at h
            rw [BreakerOp.apply, CircuitBreaker.recordSuccess, if_pos hbefore]
            by_cases hclose : policy.recoverySuccessThreshold ≤
                (breakerAfter policy (entered ++ .transition now :: since)).recoverySuccesses + 1
            · rw [if_pos hclose] at h
              cases h
            · rw [if_neg hclose]
      | failure now =>
          rw [happly, BreakerOp.apply, CircuitBreaker.recordFailure] at h
          by_cases hbefore : (breakerAfter policy history).state = .halfOpen
          · rw [if_pos hbefore] at h
            cases h
          · rw [if_neg hbefore] at h
            by_cases hopen : policy.failureThreshold ≤
                (breakerAfter policy history).consecutiveFailures + 1
            · rw [if_pos hopen] at h
              cases h
            · rw [if_neg hopen] at h
              exact absurd h hbefore
      | transition t =>
          rcases transition_cases policy (breakerAfter policy history) t with
            hkept | ⟨hopened, _, hready⟩
          · have hbreaker : breakerAfter policy (history ++ [.transition t]) =
              breakerAfter policy history := happly.trans hkept
            rw [hbreaker] at h
            obtain ⟨entered, now, since, rfl, hrecovers, hcount⟩ := ih h
            have hsame : (entered ++ .transition now :: since) ++ [.transition t] =
              entered ++ .transition now :: (since ++ [.transition t]) := List.append_assoc _ _ _
            refine ⟨entered, now, since ++ [.transition t], hsame, ?_, ?_⟩
            · apply hrecovers.append
              · intro t' ht
                cases ht
              · rw [← hsame, hbreaker]
                exact h
            · rw [hbreaker, List.count_append, hcount]
              rfl
          · refine ⟨history, t, [], rfl, ⟨hopened, ?_, ?_⟩, ?_⟩
            · intro l hl
              rw [List.prefix_nil.mp hl, happly]
              exact congrArg CircuitBreaker.state hready
            · intro t' ht
              cases ht
            · rw [happly]
              exact (congrArg CircuitBreaker.recoverySuccesses hready).symm

end Recovery

/-- Wherever the history closes the circuit, it was half open, and had recorded as many
successes as the policy asks for since it entered that state, and no failure. -/
def ClosesAfterRecovery (history : List BreakerOp) : Prop :=
  ∀ before op after, history = before ++ op :: after →
    (breakerAfter policy before).state ≠ .closed →
    (breakerAfter policy (before ++ [op])).state = .closed →
    (breakerAfter policy before).state = .halfOpen ∧ op = .success ∧
      ∃ entered now since, before = entered ++ .transition now :: since ∧
        RecoversSince policy entered now since ∧
        since.count .success + 1 = policy.recoverySuccessThreshold

theorem closesAfterRecovery (history : List BreakerOp) :
    ClosesAfterRecovery policy history := by
  intro before op after _ hnot hclosed
  rw [breakerAfter_append] at hclosed
  cases op with
  | failure now =>
      rw [BreakerOp.apply, CircuitBreaker.recordFailure] at hclosed
      by_cases hhalf : (breakerAfter policy before).state = .halfOpen
      · rw [if_pos hhalf] at hclosed
        cases hclosed
      · rw [if_neg hhalf] at hclosed
        by_cases hopen : policy.failureThreshold ≤
            (breakerAfter policy before).consecutiveFailures + 1
        · rw [if_pos hopen] at hclosed
          cases hclosed
        · rw [if_neg hopen] at hclosed
          exact absurd hclosed hnot
  | transition now =>
      rw [BreakerOp.apply] at hclosed
      rcases transition_cases policy (breakerAfter policy before) now with
        hkept | ⟨_, _, hready⟩
      · rw [hkept] at hclosed
        exact absurd hclosed hnot
      · rw [hready] at hclosed
        cases hclosed
  | success =>
      rw [BreakerOp.apply, CircuitBreaker.recordSuccess] at hclosed
      by_cases hhalf : (breakerAfter policy before).state = .halfOpen
      · rw [if_pos hhalf] at hclosed
        have hwell := (breakerAfter_wellFormed policy before).recoveries_lt
        obtain ⟨entered, now, since, hsplit, hrecovers, hcount⟩ :=
          recoversSince_of_halfOpen before hhalf
        refine ⟨hhalf, rfl, entered, now, since, hsplit, hrecovers, ?_⟩
        by_cases hclose : policy.recoverySuccessThreshold ≤
            (breakerAfter policy before).recoverySuccesses + 1
        · omega
        · rw [if_neg hclose] at hclosed
          exact absurd hclosed hnot
      · rw [if_neg hhalf] at hclosed
        exact absurd hclosed hnot

/-! ## Overlapping calls -/

/-- What calls do to the guard: they add to the history, and the breaker follows it. -/
def Follows (s s' : GuardState) : Prop :=
  ∃ ops, s'.history = s.history ++ ops ∧
    s'.breaker = ops.foldl (BreakerOp.apply policy) s.breaker

section Calls

variable {policy}

theorem Follows.refl (s : GuardState) : Follows policy s s :=
  ⟨[], (List.append_nil _).symm, rfl⟩

theorem Follows.trans (s s' s'' : GuardState) (h : Follows policy s s')
    (h' : Follows policy s' s'') : Follows policy s s'' := by
  obtain ⟨ops, hhistory, hbreaker⟩ := h
  obtain ⟨ops', hhistory', hbreaker'⟩ := h'
  refine ⟨ops ++ ops', ?_, ?_⟩
  · rw [hhistory', hhistory, List.append_assoc]
  · rw [hbreaker', hbreaker, List.foldl_append]

/-- INTERNAL: one operation on the breaker, recorded. -/
theorem follows_op {s s' : GuardState} (op : BreakerOp) (hhistory : s'.history = s.history ++ [op])
    (hbreaker : s'.breaker = op.apply policy s.breaker) : Follows policy s s' :=
  ⟨[op], hhistory, hbreaker⟩

/-- INTERNAL: a step that leaves breaker and history alone. -/
theorem follows_same {s s' : GuardState} (hhistory : s'.history = s.history)
    (hbreaker : s'.breaker = s.breaker) : Follows policy s s' :=
  ⟨[], hhistory.trans (List.append_nil _).symm, hbreaker⟩

end Calls

section Bounds

variable {T α : Type} {cfg : GuardConfig}

abbrev FollowsWithin (cfg : GuardConfig) (x : GuardProgram T α) : Prop :=
  x.Within (Follows cfg.circuitBreakerPolicy) fun _ => True

open GuardProgram

theorem breakerState_follows : FollowsWithin cfg (breakerState (T := T)) :=
  within_inspect Follows.refl _

theorem readClock_follows : FollowsWithin cfg (readClock (T := T) cfg) := by
  apply within_update Follows.refl
  intro s a s' h
  cases h
  exact follows_same rfl rfl

theorem startAttempt_follows : FollowsWithin cfg (startAttempt (T := T) cfg) := by
  apply within_update Follows.refl
  intro s a s' h
  cases h
  exact follows_same rfl rfl

theorem transition_follows : FollowsWithin cfg (transitionOpenCircuitIfReady (T := T) cfg) := by
  apply within_update Follows.refl
  intro s a s' h
  cases h
  exact follows_op (.transition (cfg.clock s.readings)) rfl rfl

theorem recordSuccess_follows : FollowsWithin cfg (recordSuccess (T := T) cfg) := by
  apply within_update Follows.refl
  intro s a s' h
  cases h
  exact follows_op .success rfl rfl

theorem recordFailure_follows : FollowsWithin cfg (recordFailure (T := T) cfg) := by
  apply within_update Follows.refl
  intro s a s' h
  cases h
  exact follows_op (.failure (cfg.clock s.readings)) rfl rfl

theorem callWithTimeout_follows : FollowsWithin cfg (callWithTimeout (T := T) cfg) := by
  unfold callWithTimeout
  apply within_bind
  · exact within_perform _ trivial
  intro answer
  cases answer with
  | ok value => exact within_pure _
  | error e =>
      cases e with
      | timeoutError => exact within_pure _
      | dependencyFailure failure => exact within_pure _
      | exception className text => exact within_pure _
      | assertionError => exact within_pure _
      | baseException className => exact within_throw _

theorem shouldRetry_follows (failure : DependencyFailure) (attempt maxAttempts : ℕ)
    (startedAt : ℚ) :
    FollowsWithin cfg (shouldRetry (T := T) cfg failure attempt maxAttempts startedAt) := by
  unfold shouldRetry
  apply within_bind breakerState_follows
  intro state
  refine within_ite (within_pure _) (within_ite (within_pure _) (within_ite (within_pure _) ?_))
  cases cfg.timeoutBudget.totalSeconds with
  | none => exact within_pure _
  | some totalSeconds =>
      apply within_bind readClock_follows
      intro now
      exact within_pure _

theorem fallbackOrRaise_follows (failure : DependencyFailure) (hasFallback : Bool) :
    FollowsWithin cfg (fallbackOrRaise (T := T) failure hasFallback) :=
  within_ite (within_attempt _ trivial) (within_throw _)

theorem degradedResult_follows (attempts : ℕ) (value : T) (failure : DependencyFailure)
    (reason : String) : FollowsWithin cfg (degradedResult cfg attempts value failure reason) := by
  unfold degradedResult
  apply within_bind breakerState_follows
  intro state
  exact within_pure _

theorem retryExhausted_follows (hasFallback : Bool) (attemptsUsed : ℕ)
    (lastFailure : Option DependencyFailure) :
    FollowsWithin cfg (retryExhausted (T := T) cfg hasFallback attemptsUsed lastFailure) := by
  cases lastFailure with
  | none => exact within_throw _
  | some failure =>
      apply within_bind (fallbackOrRaise_follows failure hasFallback)
      intro value
      exact degradedResult_follows _ _ _ _

theorem runAttempts_follows (hasFallback : Bool) (maxAttempts : ℕ) (startedAt : ℚ)
    (remaining : ℕ) (lastFailure : Option DependencyFailure) :
    FollowsWithin cfg (runAttempts (T := T) cfg hasFallback maxAttempts startedAt remaining
      lastFailure) := by
  induction remaining generalizing lastFailure with
  | zero => exact retryExhausted_follows _ _ _
  | succ remaining ih =>
      unfold runAttempts
      apply within_bind startAttempt_follows
      intro u
      apply within_bind callWithTimeout_follows
      intro outcome
      cases outcome with
      | ok value =>
          apply within_bind recordSuccess_follows
          intro recovered
          apply within_bind breakerState_follows
          intro state
          exact within_pure _
      | error failure =>
          apply within_bind recordFailure_follows
          intro u
          apply within_bind (shouldRetry_follows _ _ _ _)
          intro retry
          refine within_ite ?_ (retryExhausted_follows _ _ _)
          apply within_bind (within_attempt _ trivial)
          intro u
          exact ih _

theorem execute_follows (hasFallback : Bool) :
    FollowsWithin cfg (execute (T := T) cfg hasFallback) := by
  unfold execute
  apply within_bind transition_follows
  intro u
  apply within_bind breakerState_follows
  intro state
  refine within_ite ?_ ?_
  · apply within_bind (fallbackOrRaise_follows _ _)
    intro value
    exact degradedResult_follows _ _ _ _
  · apply within_bind readClock_follows
    intro startedAt
    exact runAttempts_follows _ _ _ _ _

end Bounds

/-- In every run of overlapping calls the breaker is what its history leads to. -/
theorem guardRun_breaker {T : Type} (cfg : GuardConfig)
    (actions : List (Action Bool (guardInterface T))) :
    (guardRun cfg actions).shared.breaker =
      breakerAfter cfg.circuitBreakerPolicy (guardRun cfg actions).shared.history := by
  have hprogram : ∀ hasFallback, (execute (T := T) cfg hasFallback).AfterFirst
      (Follows cfg.circuitBreakerPolicy) fun _ => True :=
    fun hasFallback => (execute_follows hasFallback).afterFirst
  obtain ⟨_, ops, hhistory, hbreaker⟩ := Config.run_within Follows.refl Follows.trans hprogram
    (Config.settled_initial _ _ GuardState.initial) actions
  have hops : (guardRun cfg actions).shared.history = ops := hhistory
  rw [hops]
  exact hbreaker

/-- **The representation invariant of the circuit breaker**, and how it closes, in every
state that overlapping calls can reach. -/
theorem guardRun_wellFormed {T : Type} (cfg : GuardConfig)
    (actions : List (Action Bool (guardInterface T))) :
    WellFormed cfg.circuitBreakerPolicy (guardRun cfg actions).shared.breaker ∧
      (guardRun cfg actions).shared.breaker =
        breakerAfter cfg.circuitBreakerPolicy (guardRun cfg actions).shared.history ∧
      ClosesAfterRecovery cfg.circuitBreakerPolicy (guardRun cfg actions).shared.history := by
  have hbreaker := guardRun_breaker cfg actions
  refine ⟨?_, hbreaker, closesAfterRecovery _ _⟩
  rw [hbreaker]
  exact breakerAfter_wellFormed _ _

end MediaCenter.Shared
