import Mathlib.Tactic.NormNum
import MediaCenter.Analysis.Shared.CircuitBreaker

/-!
# Attempts while the circuit is open

A call looks at the breaker when it begins and before it sleeps.  A circuit that others
open during the sleep is not seen: the next attempt starts all the same.
-/

set_option autoImplicit false

namespace MediaCenter.Shared

open MediaCenter.Library Coroutine

/-- At the time `now` the circuit is open, and its cooldown is not over. -/
def OpenInCooldown (policy : CircuitBreakerPolicy) (b : CircuitBreaker) (now : ℚ) : Prop :=
  b.state = .opened ∧ ∃ openedAt, b.openedAt = some openedAt ∧
    now - openedAt < policy.cooldownSeconds

/-- No attempt of any operation has started against an open circuit. -/
def ProtectsDependency (policy : CircuitBreakerPolicy) (attempts : List AttemptStart) : Prop :=
  ∀ a ∈ attempts, ¬ OpenInCooldown policy a.breaker a.startedAt

section Segments

variable {T : Type} {cfg : GuardConfig} {r : Resumption (guardInterface T)}
  {s₀ s : GuardState}

/-- The attempts that one segment of a call starts, by what started the segment: a new call
one at most, and not against an open circuit; the end of a sleep exactly one, whatever the
breaker says; anything else none. -/
def Attempts (cfg : GuardConfig) (r : Resumption (guardInterface T)) (s₀ s : GuardState) :
    Prop :=
  match r with
  | none => s.attempts = s₀.attempts ∨
      ∃ a, s.attempts = s₀.attempts ++ [a] ∧ a.breaker.state ≠ .opened
  | some ⟨.sleep _, .ok _⟩ =>
      s.attempts = s₀.attempts ++ [⟨s₀.breaker, cfg.clock s₀.readings⟩]
  | some _ => s.attempts = s₀.attempts

/-- The calculus, for segments that keep count of their attempts. -/
abbrev CountsAttempts {α : Type} (cfg : GuardConfig) (x : GuardProgram T α)
    (r : Resumption (guardInterface T)) (s₀ s : GuardState) : Prop :=
  x.wp (fun _ _ => True) (Attempts cfg) (fun _ => Attempts cfg) r s₀ s

open GuardProgram

theorem degradedResult_attempts (h : Attempts cfg r s₀ s) (attempts : ℕ) (value : T)
    (failure : DependencyFailure) (reason : String) :
    CountsAttempts cfg (degradedResult cfg attempts value failure reason) r s₀ s := by
  unfold degradedResult breakerState
  simp only [CountsAttempts, wp_bind, wp_inspect, andThen_ok, wp_pure]
  exact h

theorem retryExhausted_attempts (h : Attempts cfg r s₀ s) (hasFallback : Bool)
    (attemptsUsed : ℕ) (lastFailure : Option DependencyFailure) :
    CountsAttempts cfg (retryExhausted (T := T) cfg hasFallback attemptsUsed lastFailure) r
      s₀ s := by
  cases lastFailure with
  | none =>
      simp only [CountsAttempts, retryExhausted, wp_throw]
      exact h
  | some failure =>
      simp only [CountsAttempts, retryExhausted, wp_bind, fallbackOrRaise]
      by_cases hfallback : hasFallback = true
      · simp only [if_pos hfallback, wp_attempt]
        refine ⟨h, ?_⟩
        intro answer s' _
        cases answer with
        | ok value =>
            have hsame : Attempts cfg (some ⟨.fallback failure, .ok value⟩ :
              Resumption (guardInterface T)) s' s' := rfl
            exact degradedResult_attempts hsame _ _ _ _
        | error e => exact rfl
      · simp only [if_neg hfallback, wp_throw]
        exact h

/-- What `_should_retry` leaves: the breaker and the attempts, and room for one more. -/
theorem shouldRetry_wp {Φ : Resumption (guardInterface T) → GuardState → GuardState → Prop}
    {Q : Except GuardError Bool → Resumption (guardInterface T) → GuardState → GuardState → Prop}
    (failure : DependencyFailure) (attempt maxAttempts : ℕ) (startedAt : ℚ)
    (h : ∀ (retry : Bool) (s' : GuardState), s'.attempts = s.attempts →
      (retry = true → attempt < maxAttempts) → Q (.ok retry) r s₀ s') :
    (shouldRetry cfg failure attempt maxAttempts startedAt : GuardProgram T Bool).wp
      (fun _ _ => True) Φ Q r s₀ s := by
  have hfalse : ∀ s' : GuardState, s'.attempts = s.attempts → Q (.ok false) r s₀ s' :=
    fun s' hs' => h false s' hs' (by simp)
  simp only [shouldRetry, breakerState, wp_bind, wp_inspect, andThen_ok, wp_ite, wp_pure]
  by_cases hopened : s.breaker.state = .opened
  · rw [if_pos hopened]
    exact hfalse s rfl
  rw [if_neg hopened]
  by_cases hlast : maxAttempts ≤ attempt
  · rw [if_pos hlast]
    exact hfalse s rfl
  rw [if_neg hlast]
  by_cases hretryable : cfg.retryPolicy.isRetryable failure = false
  · rw [if_pos hretryable]
    exact hfalse s rfl
  rw [if_neg hretryable]
  cases cfg.timeoutBudget.totalSeconds with
  | none =>
      simp only [wp_pure]
      exact h true s rfl (fun _ => not_le.mp hlast)
  | some totalSeconds =>
      simp only [readClock, wp_bind, wp_update, andThen_ok, wp_pure]
      exact h _ _ rfl (fun _ => not_le.mp hlast)

/-- An attempt ends in an outcome, or its exception goes through. -/
theorem callWithTimeout_wp {Φ : Resumption (guardInterface T) → GuardState → GuardState → Prop}
    {Q : Except GuardError (Except DependencyFailure T) → Resumption (guardInterface T) →
      GuardState → GuardState → Prop} (hbefore : Φ r s₀ s)
    (h : ∀ res answer s', Q res
      (some ⟨.operation cfg.timeoutBudget.perAttemptSeconds, answer⟩) s' s') :
    (callWithTimeout cfg : GuardProgram T _).wp (fun _ _ => True) Φ Q r s₀ s := by
  simp only [callWithTimeout, wp_bind]
  rw [wp_perform]
  refine ⟨hbefore, ?_⟩
  intro answer s' _
  rw [andThen_ok]
  rcases answer with (_ | failure | ⟨className, text⟩ | className | _) | value
  · exact (wp_pure _).mpr (h _ _ _)
  · exact (wp_pure _).mpr (h _ _ _)
  · exact (wp_pure _).mpr (h _ _ _)
  · exact (wp_throw _).mpr (h _ _ _)
  · exact (wp_pure _).mpr (h _ _ _)
  · exact (wp_pure _).mpr (h _ _ _)

theorem runAttempts_attempts (hasFallback : Bool) (maxAttempts : ℕ) (startedAt : ℚ)
    (remaining : ℕ) (lastFailure : Option DependencyFailure) (hpos : 0 < remaining)
    (hmax : remaining ≤ maxAttempts) (r : Resumption (guardInterface T)) (s₀ s : GuardState)
    (h : ∀ s₁ : GuardState, s₁.attempts = s.attempts ++ [⟨s.breaker, cfg.clock s.readings⟩] →
      Attempts cfg r s₀ s₁) :
    CountsAttempts cfg (runAttempts (T := T) cfg hasFallback maxAttempts startedAt remaining
      lastFailure) r s₀ s := by
  induction remaining generalizing lastFailure r s₀ s with
  | zero => omega
  | succ remaining ih =>
      simp only [CountsAttempts, runAttempts, startAttempt, wp_bind, wp_update, andThen_ok]
      apply callWithTimeout_wp (h _ rfl)
      intro res answer s'
      -- from here to the next await no attempt starts
      have hquiet : ∀ s'' : GuardState, s''.attempts = s'.attempts → Attempts cfg
        (some ⟨.operation cfg.timeoutBudget.perAttemptSeconds, answer⟩ :
          Resumption (guardInterface T)) s' s'' := fun s'' hs'' => hs''
      cases res with
      | error e => exact hquiet s' rfl
      | ok outcome =>
          cases outcome with
          | ok value =>
              simp only [andThen_ok, recordSuccess, breakerState, wp_bind, wp_update, wp_inspect,
                wp_pure]
              exact hquiet _ rfl
          | error failure =>
              simp only [andThen_ok, recordFailure, wp_bind, wp_update]
              apply shouldRetry_wp
              intro retry s'' hsame hroom
              simp only [andThen_ok, wp_ite]
              by_cases hretry : retry = true
              · rw [if_pos hretry, wp_bind, wp_attempt]
                refine ⟨hquiet s'' hsame, ?_⟩
                intro slept s₃ _
                cases slept with
                | error e => exact rfl
                | ok u =>
                    have hmore := hroom hretry
                    have hpos' : 0 < remaining := by omega
                    have hmax' : remaining ≤ maxAttempts := by omega
                    exact ih _ hpos' hmax' _ _ _ fun s₁ hs₁ => hs₁
              · rw [if_neg hretry]
                exact retryExhausted_attempts (hquiet s'' hsame) _ _ _

theorem execute_attempts (hasFallback : Bool) (s : GuardState) :
    CountsAttempts cfg (execute (T := T) cfg hasFallback) none s s := by
  simp only [CountsAttempts, execute, transitionOpenCircuitIfReady, breakerState, wp_bind,
    wp_update, wp_inspect, andThen_ok, wp_ite]
  generalize hb : s.breaker.transitionOpenCircuitIfReady cfg.circuitBreakerPolicy
    (cfg.clock s.readings) = b
  by_cases hopened : b.state = .opened
  · rw [if_pos hopened]
    simp only [fallbackOrRaise]
    by_cases hfallback : hasFallback = true
    · simp only [if_pos hfallback, wp_attempt]
      refine ⟨.inl rfl, ?_⟩
      intro answer s' _
      cases answer with
      | ok value =>
          have hsame : Attempts cfg (some ⟨.fallback (circuitOpenFailure cfg), .ok value⟩ :
            Resumption (guardInterface T)) s' s' := rfl
          exact degradedResult_attempts hsame _ _ _ _
      | error e => exact rfl
    · simp only [if_neg hfallback, wp_throw]
      exact .inl rfl
  · rw [if_neg hopened]
    simp only [readClock, wp_update, andThen_ok]
    apply runAttempts_attempts
    · by_cases hhalf : b.state = .halfOpen
      · rw [if_pos hhalf]
        exact Nat.one_pos
      · rw [if_neg hhalf]
        exact cfg.retryPolicy.maxAttempts_pos
    · exact le_refl _
    · intro s₁ hs₁
      exact .inr ⟨_, hs₁, hopened⟩

end Segments

/-! ## Runs -/

/-- The step does not wake a call from its sleep while the circuit is open and its cooldown
is not over. -/
def NoWakeIntoOpen {T : Type} (cfg : GuardConfig) (c : GuardRun T) :
    Action Bool (guardInterface T) → Prop
  | .call _ => True
  | .resume i answer => ∀ delay u, c.pending i = some (.sleep delay) →
      answer (.sleep delay) = .ok u →
      ¬ OpenInCooldown cfg.circuitBreakerPolicy c.shared.breaker
        (cfg.clock c.shared.readings)

section Runs

variable {T : Type} {cfg : GuardConfig}

/-- The calls at rest keep count of their attempts. -/
abbrev Counting (cfg : GuardConfig) (c : GuardRun T) : Prop :=
  Config.Sound (fun _ _ => True) (fun _ => Attempts cfg) (fun _ _ => Attempts cfg) c

theorem protects_append (attempts : List AttemptStart) (a : AttemptStart) :
    ProtectsDependency cfg.circuitBreakerPolicy (attempts ++ [a]) ↔
      ProtectsDependency cfg.circuitBreakerPolicy attempts ∧
        ¬ OpenInCooldown cfg.circuitBreakerPolicy a.breaker a.startedAt := by
  unfold ProtectsDependency
  rw [List.forall_mem_append, List.forall_mem_singleton]

/-- INTERNAL: what one step starts, and that the calls at rest go on counting. -/
theorem Counting.step {c : GuardRun T} (hc : Counting cfg c)
    (a : Action Bool (guardInterface T)) :
    Config.Segment (fun _ => Attempts cfg) c a (Config.step (execute cfg) c a).shared ∧
      Counting cfg (Config.step (execute cfg) c a) := by
  obtain ⟨hsegment, _, _, hsound⟩ := Config.step_guarantee (R := fun _ _ => True)
    (A := fun _ _ => True) (J := fun _ => True) (Φ := fun _ => Attempts cfg)
    (Q := fun _ _ => Attempts cfg) (fun _ => trivial) (fun _ _ _ _ _ => trivial)
    (fun _ _ _ _ => trivial) (fun _ _ _ _ _ h => h)
    (fun hasFallback s _ => execute_attempts hasFallback s) (fun _ _ _ _ _ _ => trivial) c a
    trivial trivial hc
  exact ⟨hsegment, hsound⟩

theorem protects_step_iff {c : GuardRun T} (hc : Counting cfg c)
    (a : Action Bool (guardInterface T)) :
    ProtectsDependency cfg.circuitBreakerPolicy
        (Config.step (execute cfg) c a).shared.attempts ↔
      ProtectsDependency cfg.circuitBreakerPolicy c.shared.attempts ∧ NoWakeIntoOpen cfg c a := by
  have hsegment := (hc.step a).1
  generalize (Config.step (execute cfg) c a).shared = s' at hsegment
  cases a with
  | call hasFallback =>
      rcases hsegment with hsame | ⟨started, hsame, hstate⟩
      · rw [hsame]
        exact (and_iff_left trivial).symm
      · rw [hsame, protects_append]
        have hclosed : ¬ OpenInCooldown cfg.circuitBreakerPolicy started.breaker
            started.startedAt := fun hopen => hstate hopen.1
        exact and_congr_right fun _ => iff_of_true hclosed trivial
  | resume i answer =>
      rcases Config.segment_resume hsegment with ⟨hasFallback, q, rest, htask, hrun⟩ |
        ⟨hidle, hsame⟩
      · have hpending : c.pending i = some q := by
          rw [Config.pending, htask]
        -- nothing but the end of a sleep can start an attempt here
        have hquiet : s'.attempts = c.shared.attempts →
            (∀ delay u, q = .sleep delay → answer (.sleep delay) ≠ .ok u) →
            (ProtectsDependency cfg.circuitBreakerPolicy s'.attempts ↔
              ProtectsDependency cfg.circuitBreakerPolicy c.shared.attempts ∧
                NoWakeIntoOpen cfg c (.resume i answer)) := by
          intro hsame hawake
          rw [hsame]
          refine (and_iff_left ?_).symm
          intro delay u hsleep hanswer
          have hq := Option.some.inj (hpending.symm.trans hsleep)
          exact absurd hanswer (hawake delay u hq)
        cases q with
        | operation timeout =>
            apply hquiet hrun
            intro delay u hq
            cases hq
        | fallback failure =>
            apply hquiet hrun
            intro delay u hq
            cases hq
        | sleep delay =>
            cases hanswer : answer (.sleep delay) with
            | error e =>
                rw [hanswer] at hrun
                apply hquiet hrun
                intro delay' u hq hok
                cases hq
                rw [hanswer] at hok
                cases hok
            | ok u =>
                rw [hanswer] at hrun
                have hsame : s'.attempts = c.shared.attempts ++
                  [⟨c.shared.breaker, cfg.clock c.shared.readings⟩] := hrun
                rw [hsame, protects_append]
                refine and_congr_right fun _ => ⟨?_, ?_⟩
                · intro hclosed delay' u' _ _
                  exact hclosed
                · intro hwake
                  exact hwake delay u hpending hanswer
      · rw [hsame]
        refine (and_iff_left ?_).symm
        intro delay u hsleep
        rw [hidle] at hsleep
        cases hsleep

/-- **When the open circuit protects the dependency**: in exactly the runs in which no call
wakes from its sleep into an open circuit whose cooldown is not over. -/
theorem guardRun_protects_iff (cfg : GuardConfig) (actions : List (Action Bool (guardInterface T))) :
    ProtectsDependency cfg.circuitBreakerPolicy (guardRun cfg actions).shared.attempts ↔
      Config.EveryStep (execute cfg) (NoWakeIntoOpen cfg) (.initial .initial) actions := by
  have hgeneral : ∀ (c : GuardRun T), Counting cfg c →
      (ProtectsDependency cfg.circuitBreakerPolicy
          (Config.run (execute cfg) c actions).shared.attempts ↔
        ProtectsDependency cfg.circuitBreakerPolicy c.shared.attempts ∧
          Config.EveryStep (execute cfg) (NoWakeIntoOpen cfg) c actions) := by
    induction actions with
    | nil =>
        intro c _
        exact (and_iff_left trivial).symm
    | cons a actions ih =>
        intro c hc
        rw [Config.run_cons, ih _ (hc.step a).2, protects_step_iff hc, and_assoc]
        rfl
  have hstart := hgeneral (.initial .initial) (Config.sound_initial _ _ _ _)
  have hnone : ProtectsDependency cfg.circuitBreakerPolicy [] := by
    intro a ha
    cases ha
  exact hstart.trans (and_iff_right hnone)

end Runs

namespace Sample

/-- The default policies, with a circuit that opens on the second failure in a row. -/
def guard : GuardConfig where
  dependencyName := "postgresql"
  dependencyKind := .database
  retryPolicy :=
    { maxAttempts := 3
      initialBackoffSeconds := 1 / 20
      backoffMultiplier := 2
      maxBackoffSeconds := 1
      retryableErrorCodes := ["dependency_error", "dependency_timeout"]
      maxAttempts_pos := by decide
      initialBackoffSeconds_nonneg := by norm_num
      one_le_backoffMultiplier := by decide
      initial_le_max := by norm_num }
  timeoutBudget :=
    { perAttemptSeconds := some 1
      totalSeconds := some 3
      perAttemptSeconds_pos := by
        intro x hx
        cases hx
        decide
      totalSeconds_pos := by
        intro x hx
        cases hx
        decide
      perAttempt_le_total := by
        intro x y hx hy
        cases hx
        cases hy
        decide }
  circuitBreakerPolicy :=
    { failureThreshold := 2
      recoverySuccessThreshold := 1
      cooldownSeconds := 30
      failureThreshold_pos := by decide
      recoverySuccessThreshold_pos := by decide
      cooldownSeconds_nonneg := by decide }
  clock _ := 0

/-- The dependency is down; the sleeper sleeps. -/
def down : ∀ q : GuardRequest, Except GuardError (GuardResult Unit q)
  | .operation _ => .error (.exception "ConnectionError" "")
  | .sleep _ => .ok ()
  | .fallback _ => .ok ()

/-- Two calls fail; the first one sleeps before its retry, and the second failure opens the
circuit. -/
def lateRetry : List (Action Bool (guardInterface Unit)) :=
  [.call false, .call false, .resume 0 down, .resume 1 down, .resume 0 down]

end Sample

/-- The first call wakes up when the second has opened the circuit, and tries the dependency. -/
theorem execute_retriesIntoOpenCircuit : ¬ ProtectsDependency Sample.guard.circuitBreakerPolicy
    (guardRun Sample.guard Sample.lateRetry).shared.attempts := by
  have hattempts : (guardRun Sample.guard Sample.lateRetry).shared.attempts =
      [⟨⟨.closed, 0, 0, none⟩, 0⟩, ⟨⟨.closed, 0, 0, none⟩, 0⟩, ⟨⟨.opened, 2, 0, some 0⟩, 0⟩] := by
    decide +kernel
  intro h
  rw [hattempts] at h
  refine h ⟨⟨.opened, 2, 0, some 0⟩, 0⟩ (by simp) ⟨rfl, 0, rfl, ?_⟩
  show (0 : ℚ) - 0 < 30
  norm_num

end MediaCenter.Shared
