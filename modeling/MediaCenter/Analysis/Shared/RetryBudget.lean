import Mathlib.Data.List.Chain
import Mathlib.Tactic.Linarith
import MediaCenter.Analysis.Shared.OpenCircuit
import MediaCenter.Library.Transcripts

/-!
# The budget of one call

One call of `execute`, with no other call running.  The clock advances while the operation
runs or the sleeper sleeps, and the sleeper sleeps for the delay.  The loop counts its
attempts down, and before each sleep it checks that the next attempt starts in time.
-/

set_option autoImplicit false

namespace MediaCenter.Shared

open MediaCenter.Library Coroutine

section Statements

variable {T : Type} (cfg : GuardConfig)

/-- How an await moves the time. -/
def Passes : GuardRequest → ℚ → ℚ → Prop
  | .operation _, now, later => now ≤ later
  | .sleep delay, now, later => later = now + delay
  | .fallback _, now, later => later = now

/-- Between two awaits the clock stands still. -/
def Paced (clock : ℕ → ℚ) : ℚ → ℕ → List (Exchange (guardInterface T) GuardState) → Prop
  | _, _, [] => True
  | now, first, e :: l =>
      (∀ i, first ≤ i → i < e.state.readings → clock i = now) ∧
        ∃ later, Passes e.request now later ∧ Paced clock later e.state.readings l

def operationAnswer : Exchange (guardInterface T) GuardState → Option (Except GuardError T)
  | ⟨_, .operation _, answer⟩ => some answer
  | ⟨_, .sleep _, _⟩ => none
  | ⟨_, .fallback _, _⟩ => none

/-- The outcomes of the attempts of a call. -/
def operationAnswers (l : List (Exchange (guardInterface T) GuardState)) :
    List (Except GuardError T) :=
  l.filterMap operationAnswer

/-- The failure that the `except` clauses make of an outcome. -/
def failureOf : Except GuardError T → Option DependencyFailure
  | .ok _ => none
  | .error .timeoutError => some (GuardProgram.timeoutFailure cfg)
  | .error (.dependencyFailure failure) => some failure
  | .error (.exception className text) => some (GuardProgram.unknownFailure cfg className text)
  | .error .assertionError => some (GuardProgram.unknownFailure cfg "AssertionError" "")
  | .error (.baseException _) => none

/-- The second attempt is a retry of the first one: that failed, the failure is retryable, and
it did not open the circuit. -/
def Retries (first second : AttemptStart × Except GuardError T) : Prop :=
  ∃ failure now, failureOf cfg first.2 = some failure ∧
    cfg.retryPolicy.isRetryable failure = true ∧
    second.1.breaker = first.1.breaker.recordFailure cfg.circuitBreakerPolicy now ∧
    second.1.breaker.state ≠ .opened

/-- What a call spends: the attempts it starts, at most `limit` of them, the outcomes of these,
and its result after `used` attempts before them. -/
structure Spends (startedAt : ℚ) (used limit : ℕ) (starts : List AttemptStart)
    (outcomes : List (Except GuardError T)) (res : Except GuardError (DependencyCallResult T)) :
    Prop where
  counted : starts.length = outcomes.length
  bounded : starts.length ≤ limit
  inTime : ∀ total, cfg.timeoutBudget.totalSeconds = some total →
    ∀ a ∈ starts, a.startedAt - startedAt < total
  chained : List.IsChain (Retries cfg) (starts.zip outcomes)
  reported : ∀ result, res = .ok result → result.attempts = used + starts.length

end Statements

section Segments

open GuardProgram

variable {T : Type} {cfg : GuardConfig} {s : GuardState}

theorem Paced.reading {clock : ℕ → ℚ} {now : ℚ} {first : ℕ}
    {e : Exchange (guardInterface T) GuardState}
    {l : List (Exchange (guardInterface T) GuardState)} (h : Paced clock now first (e :: l))
    {i : ℕ} (hfirst : first ≤ i) (hi : i < e.state.readings) : clock i = now :=
  h.1 i hfirst hi

theorem degradedResult_alone {Q : List (Exchange (guardInterface T) GuardState) →
      Except GuardError (DependencyCallResult T) → GuardState → Prop}
    (attempts : ℕ) (value : T) (failure : DependencyFailure) (reason : String)
    (h : ∀ result : DependencyCallResult T, result.attempts = attempts → Q [] (.ok result) s) :
    (degradedResult cfg attempts value failure reason).Alone s Q := by
  simp only [degradedResult, breakerState, alone_bind, alone_inspect, andThenAlone_ok,
    alone_pure, List.append_nil]
  exact h _ rfl

/-- INTERNAL: the fallback makes no attempt. -/
theorem fallback_alone {Q : List (Exchange (guardInterface T) GuardState) →
      Except GuardError (DependencyCallResult T) → GuardState → Prop}
    (hasFallback : Bool) (attempts : ℕ) (failure : DependencyFailure) (reason : String)
    (h : ∀ l res, operationAnswers l = [] →
      (∀ result : DependencyCallResult T, res = .ok result → result.attempts = attempts) →
      Q l res s) :
    (fallbackOrRaise failure hasFallback >>= fun value =>
      degradedResult cfg attempts value failure reason).Alone s Q := by
  simp only [alone_bind, fallbackOrRaise]
  by_cases hfallback : hasFallback = true
  · rw [if_pos hfallback, alone_attempt]
    intro answer
    cases answer with
    | error e =>
        apply h
        · rfl
        · intro result hresult
          cases hresult
    | ok value =>
        apply degradedResult_alone
        intro result hattempts
        apply h
        · rfl
        · intro result' hresult'
          cases hresult'
          exact hattempts
  · rw [if_neg hfallback, alone_throw]
    apply h
    · rfl
    · intro result hresult
      cases hresult

theorem shouldRetry_alone {Q : List (Exchange (guardInterface T) GuardState) →
      Except GuardError Bool → GuardState → Prop}
    (failure : DependencyFailure) (attempt maxAttempts : ℕ) (startedAt : ℚ)
    (hstop : ∀ s' : GuardState, s'.attempts = s.attempts → Q [] (.ok false) s')
    (hgo : ∀ s' : GuardState, s'.attempts = s.attempts → s'.breaker = s.breaker →
      s.readings ≤ s'.readings → s.breaker.state ≠ .opened → attempt < maxAttempts →
      cfg.retryPolicy.isRetryable failure = true →
      (∀ total, cfg.timeoutBudget.totalSeconds = some total → s.readings < s'.readings ∧
        cfg.clock s.readings - startedAt + cfg.retryPolicy.delayForAttempt attempt < total) →
      Q [] (.ok true) s') :
    (shouldRetry cfg failure attempt maxAttempts startedAt : GuardProgram T Bool).Alone s Q := by
  simp only [shouldRetry, breakerState, alone_bind, alone_inspect, andThenAlone_ok,
    alone_ite, alone_pure, List.nil_append]
  by_cases hopened : s.breaker.state = .opened
  · rw [if_pos hopened]
    exact hstop s rfl
  rw [if_neg hopened]
  by_cases hlast : maxAttempts ≤ attempt
  · rw [if_pos hlast]
    exact hstop s rfl
  rw [if_neg hlast]
  by_cases hretryable : cfg.retryPolicy.isRetryable failure = false
  · rw [if_pos hretryable]
    exact hstop s rfl
  rw [if_neg hretryable]
  rw [Bool.not_eq_false] at hretryable
  cases htotal : cfg.timeoutBudget.totalSeconds with
  | none =>
      simp only [alone_pure]
      apply hgo s rfl rfl (le_refl _) hopened (not_le.mp hlast) hretryable
      intro total h
      rw [htotal] at h
      cases h
  | some totalSeconds =>
      simp only [readClock, alone_bind, alone_update, andThenAlone_ok, alone_pure,
        List.append_nil]
      by_cases hroom : cfg.clock s.readings - startedAt +
          cfg.retryPolicy.delayForAttempt attempt < totalSeconds
      · rw [decide_eq_true hroom]
        apply hgo { s with readings := s.readings + 1 } rfl rfl (Nat.le_succ _) hopened
          (not_le.mp hlast) hretryable
        intro total h
        rw [htotal, Option.some.injEq] at h
        rw [← h]
        exact ⟨Nat.lt_succ_self _, hroom⟩
      · rw [decide_eq_false hroom]
        exact hstop _ rfl

/-- INTERNAL: an attempt ends in its outcome: a value, a failure, or what goes through. -/
theorem callWithTimeout_alone {Q : List (Exchange (guardInterface T) GuardState) →
      Except GuardError (Except DependencyFailure T) → GuardState → Prop}
    (hok : ∀ value, Q [⟨s, .operation cfg.timeoutBudget.perAttemptSeconds, .ok value⟩]
      (.ok (.ok value)) s)
    (hfailure : ∀ answer failure, failureOf cfg answer = some failure →
      Q [⟨s, .operation cfg.timeoutBudget.perAttemptSeconds, answer⟩] (.ok (.error failure)) s)
    (hraise : ∀ answer e, Q [⟨s, .operation cfg.timeoutBudget.perAttemptSeconds, answer⟩]
      (.error e) s) :
    (callWithTimeout cfg : GuardProgram T _).Alone s Q := by
  simp only [callWithTimeout, alone_bind]
  rw [alone_perform]
  intro answer
  rw [andThenAlone_ok]
  rcases answer with (_ | failure | ⟨className, text⟩ | className | _) | value
  · exact (alone_pure _).mpr (hfailure (.error .timeoutError) _ rfl)
  · exact (alone_pure _).mpr (hfailure (.error (.dependencyFailure failure)) _ rfl)
  · exact (alone_pure _).mpr (hfailure (.error (.exception className text)) _ rfl)
  · exact (alone_throw _).mpr (hraise (.error (.baseException className)) _)
  · exact (alone_pure _).mpr (hfailure (.error .assertionError) _ rfl)
  · exact (alone_pure _).mpr (hok value)

/-! ## The loop -/

/-- INTERNAL: the attempts of the loop from here on, when the last one of them is over. -/
abbrev SpendsHere (cfg : GuardConfig) (startedAt now : ℚ) (used limit : ℕ) (s s' : GuardState)
    (l : List (Exchange (guardInterface T) GuardState))
    (res : Except GuardError (DependencyCallResult T)) : Prop :=
  ∃ rest, s'.attempts = s.attempts ++ ⟨s.breaker, now⟩ :: rest ∧
    Spends cfg startedAt used limit (⟨s.breaker, now⟩ :: rest) (operationAnswers l) res

/-- INTERNAL: an attempt that nothing follows. -/
theorem spends_single {startedAt now : ℚ} {used limit : ℕ} {breaker : CircuitBreaker}
    {outcome : Except GuardError T} {res : Except GuardError (DependencyCallResult T)}
    (hlimit : 0 < limit)
    (hnow : ∀ total, cfg.timeoutBudget.totalSeconds = some total → now - startedAt < total)
    (hres : ∀ result, res = .ok result → result.attempts = used + 1) :
    Spends cfg startedAt used limit [⟨breaker, now⟩] [outcome] res where
  counted := rfl
  bounded := hlimit
  inTime := by
    intro total htotal a ha
    rw [List.mem_singleton] at ha
    rw [ha]
    exact hnow total htotal
  chained := List.IsChain.singleton _
  reported := hres

/-- INTERNAL: an attempt before those of the rest of the loop. -/
theorem Spends.cons {startedAt now now' : ℚ} {used limit : ℕ} {breaker breaker' : CircuitBreaker}
    {rest : List AttemptStart} {outcome : Except GuardError T}
    {outcomes : List (Except GuardError T)}
    {res : Except GuardError (DependencyCallResult T)}
    (h : Spends cfg startedAt (used + 1) limit (⟨breaker', now'⟩ :: rest) outcomes res)
    (hnow : ∀ total, cfg.timeoutBudget.totalSeconds = some total → now - startedAt < total)
    (hretry : ∀ next, Retries cfg (⟨breaker, now⟩, outcome) (⟨breaker', now'⟩, next)) :
    Spends cfg startedAt used (limit + 1) (⟨breaker, now⟩ :: ⟨breaker', now'⟩ :: rest)
      (outcome :: outcomes) res where
  counted := by
    rw [List.length_cons, h.counted, List.length_cons]
  bounded := by
    rw [List.length_cons]
    exact Nat.succ_le_succ h.bounded
  inTime := by
    intro total htotal a ha
    rw [List.mem_cons] at ha
    rcases ha with rfl | ha
    · exact hnow total htotal
    · exact h.inTime total htotal a ha
  chained := by
    cases outcomes with
    | nil => exact List.IsChain.singleton _
    | cons next outcomes =>
        rw [List.zip_cons_cons, List.zip_cons_cons, List.isChain_cons_cons]
        exact ⟨hretry next, h.chained⟩
  reported := by
    intro result hresult
    have hattempts := h.reported result hresult
    rw [hattempts]
    simp only [List.length_cons]
    omega

/-- INTERNAL: induction on the attempts to go.  The time of the next start is checked against
the budget before the sleep that leads to it. -/
theorem runAttempts_alone (hasFallback : Bool) (maxAttempts : ℕ) (startedAt : ℚ)
    (used remaining : ℕ) (lastFailure : Option DependencyFailure) (hpos : 0 < remaining)
    (hused : used + remaining = maxAttempts) (s : GuardState) :
    (runAttempts (T := T) cfg hasFallback maxAttempts startedAt remaining lastFailure).Alone s
      fun l res s' => (∃ e rest, l = e :: rest ∧ e.state.readings = s.readings + 1) ∧ ∀ now,
        (∀ total, cfg.timeoutBudget.totalSeconds = some total → now - startedAt < total) →
        Paced cfg.clock now s.readings l →
        SpendsHere cfg startedAt now used remaining s s' l res := by
  induction remaining generalizing lastFailure used s with
  | zero => omega
  | succ remaining ih =>
      have hattempt : maxAttempts - remaining = used + 1 := by omega
      simp only [runAttempts, startAttempt, alone_bind, alone_update, andThenAlone_ok,
        List.nil_append, hattempt]
      -- the clock is read where the operation is called
      have hstart : ∀ {e : Exchange (guardInterface T) GuardState} {l now},
          e.state.readings = s.readings + 1 → Paced cfg.clock now s.readings (e :: l) →
          cfg.clock s.readings = now := by
        intro e l now he hpaced
        exact hpaced.reading (le_refl _) (by omega)
      apply callWithTimeout_alone
      · intro value
        simp only [andThenAlone_ok, recordSuccess, breakerState, alone_bind, alone_update,
          alone_inspect, alone_pure, List.append_nil]
        refine ⟨⟨_, _, rfl, rfl⟩, ?_⟩
        intro now hnow hpaced
        refine ⟨[], ?_, ?_⟩
        · rw [hstart rfl hpaced]
        · apply spends_single (Nat.succ_pos _) hnow
          intro result hresult
          cases hresult
          rfl
      · intro answer failure hanswer
        simp only [andThenAlone_ok, recordFailure, alone_bind, alone_update, List.nil_append]
        apply shouldRetry_alone
        · intro s' hsame
          simp only [andThenAlone_ok, Bool.false_eq_true, if_false]
          apply fallback_alone
          intro l res hl hres
          refine ⟨⟨_, _, rfl, rfl⟩, ?_⟩
          intro now hnow hpaced
          refine ⟨[], ?_, ?_⟩
          · rw [hsame, hstart rfl hpaced]
          · show Spends cfg startedAt used (remaining + 1) [⟨s.breaker, now⟩]
              (answer :: operationAnswers l) res
            rw [hl]
            exact spends_single (Nat.succ_pos _) hnow hres
        · intro s' hattempts hbreaker hreadings hopened hlt hretryable htime
          simp only [andThenAlone_ok, if_true, alone_bind]
          rw [alone_attempt]
          intro slept
          cases slept with
          | error e =>
              refine ⟨⟨_, _, rfl, rfl⟩, ?_⟩
              intro now hnow hpaced
              refine ⟨[], ?_, ?_⟩
              · rw [hattempts, hstart rfl hpaced]
              · apply spends_single (Nat.succ_pos _) hnow
                intro result hresult
                cases hresult
          | ok u =>
              rw [andThenAlone_ok]
              apply alone_mono _ _ _ (ih (used + 1) (some failure) (by omega) (by omega) s')
              intro l res s'' hrest
              refine ⟨⟨_, _, rfl, rfl⟩, ?_⟩
              intro now hnow hpaced
              have hclock := hstart rfl hpaced
              -- the operation ends at `later`, and the sleep after it
              obtain ⟨_, later, _, hpaced'⟩ := hpaced
              obtain ⟨hsteady, next, hnext, hpaced''⟩ := hpaced'
              have hbudget : ∀ total, cfg.timeoutBudget.totalSeconds = some total →
                  next - startedAt < total := by
                intro total htotal
                obtain ⟨hmore, hroom⟩ := htime total htotal
                have hlater := hsteady (s.readings + 1 + 1) (Nat.le_succ _) hmore
                rw [hlater] at hroom
                have hsleep : next = later +
                  cfg.retryPolicy.delayForAttempt (maxAttempts - remaining) := hnext
                rw [hattempt] at hsleep
                rw [hsleep]
                linarith
              obtain ⟨rest, happended, hspends⟩ := hrest.2 next hbudget hpaced''
              refine ⟨⟨s'.breaker, next⟩ :: rest, ?_, ?_⟩
              · rw [happended, hattempts, ← hclock, List.append_assoc]
                rfl
              · refine hspends.cons hnow fun _ => ⟨failure, _, hanswer, hretryable, hbreaker, ?_⟩
                rw [hbreaker]
                exact hopened
      · intro answer e
        simp only [andThenAlone_error]
        refine ⟨⟨_, _, rfl, rfl⟩, ?_⟩
        intro now hnow hpaced
        refine ⟨[], ?_, ?_⟩
        · rw [hstart rfl hpaced]
        · apply spends_single (Nat.succ_pos _) hnow
          intro result hresult
          cases hresult

/-! ## The call -/

/-- The state of the circuit that a call finds. -/
def enteredState (cfg : GuardConfig) (s : GuardState) : CircuitBreakerState :=
  (s.breaker.transitionOpenCircuitIfReady cfg.circuitBreakerPolicy (cfg.clock s.readings)).state

/-- The attempts a call may make, by the state it finds. -/
def attemptLimit (cfg : GuardConfig) : CircuitBreakerState → ℕ
  | .closed => cfg.retryPolicy.maxAttempts
  | .opened => 0
  | .halfOpen => 1

theorem execute_alone (hasFallback : Bool) (s : GuardState) :
    (execute (T := T) cfg hasFallback).Alone s fun l res s' => ∀ now,
      Paced cfg.clock now s.readings l → ∃ starts, s'.attempts = s.attempts ++ starts ∧
        (∀ a ∈ starts.head?, a.startedAt = now) ∧
        Spends cfg now 0 (attemptLimit cfg (enteredState cfg s)) starts (operationAnswers l)
          res := by
  simp only [execute, transitionOpenCircuitIfReady, breakerState, alone_bind, alone_update,
    alone_inspect, andThenAlone_ok, List.nil_append]
  unfold enteredState
  generalize hb : s.breaker.transitionOpenCircuitIfReady cfg.circuitBreakerPolicy
    (cfg.clock s.readings) = b
  by_cases hopened : b.state = .opened
  · rw [if_pos hopened, hopened]
    apply fallback_alone
    intro l res hl hres now _
    refine ⟨[], (List.append_nil _).symm, ?_, ?_⟩
    · intro a ha
      cases ha
    · rw [hl]
      exact ⟨rfl, le_refl _, fun _ _ a ha => (by cases ha), List.IsChain.nil, hres⟩
  · rw [if_neg hopened]
    simp only [readClock, alone_bind, alone_update, andThenAlone_ok, List.nil_append]
    have hlimit : attemptLimit cfg b.state =
        if b.state = .halfOpen then 1 else cfg.retryPolicy.maxAttempts := by
      cases hstate : b.state with
      | closed => rfl
      | opened => exact absurd hstate hopened
      | halfOpen => rfl
    have hpos : 0 < attemptLimit cfg b.state := by
      rw [hlimit]
      split
      · exact Nat.one_pos
      · exact cfg.retryPolicy.maxAttempts_pos
    rw [← hlimit]
    apply alone_mono _ _ _ (runAttempts_alone hasFallback _ _ 0 _ none hpos (Nat.zero_add _) _)
    rintro l res s' ⟨⟨e, rest, rfl, hreadings⟩, hrun⟩ now hpaced
    -- the budget starts at the reading before the loop
    have hstarted : cfg.clock (s.readings + 1) = now :=
      hpaced.reading (Nat.le_succ _) (by rw [hreadings]; exact Nat.lt_succ_of_lt (Nat.lt_succ_self _))
    rw [hstarted] at hrun
    have hpaced' : Paced cfg.clock now (s.readings + 1 + 1) (e :: rest) := by
      obtain ⟨hsteady, hlater⟩ := hpaced
      refine ⟨fun i hi => hsteady i ?_, hlater⟩
      omega
    obtain ⟨starts, happended, hspends⟩ := hrun now (fun total htotal => by
      rw [sub_self]
      exact cfg.timeoutBudget.totalSeconds_pos total htotal) hpaced'
    refine ⟨_, happended, ?_, hspends⟩
    intro a ha
    cases ha
    rfl

end Segments

/-! ## Main results -/

/-- **The budget.**  While nothing else runs and the clock advances only in the operation and the
sleeper, a call makes no more attempts than its policy and the circuit allow, starts each
retry in time, retries only after a retryable failure that left the circuit shut, and reports
the attempts it made. -/
theorem execute_keepsBudget {T : Type} (cfg : GuardConfig) (hasFallback : Bool)
    (answers : ℕ → ∀ q, (guardInterface T).Answer q) (s : GuardState) (now : ℚ)
    (hclock : Paced cfg.clock now s.readings
      ((execute (T := T) cfg hasFallback).transcript answers s)) :
    ∃ starts outcomes,
      ((execute (T := T) cfg hasFallback).complete answers s).2.attempts =
        s.attempts ++ starts ∧
      outcomes = operationAnswers ((execute (T := T) cfg hasFallback).transcript answers s) ∧
      starts.length = outcomes.length ∧
      starts.length ≤ cfg.retryPolicy.maxAttempts ∧
      (enteredState cfg s = .halfOpen → starts.length ≤ 1) ∧
      (enteredState cfg s = .opened → starts = []) ∧
      (∀ total first retries, cfg.timeoutBudget.totalSeconds = some total →
        starts = first :: retries → ∀ retry ∈ retries,
          retry.startedAt - first.startedAt < total) ∧
      List.IsChain (Retries cfg) (starts.zip outcomes) ∧
      ∀ result, ((execute (T := T) cfg hasFallback).complete answers s).1 = .ok result →
        result.attempts = starts.length := by
  obtain ⟨starts, happended, hfirst, hspends⟩ :=
    (@execute_alone T cfg hasFallback s).complete answers now hclock
  refine ⟨starts, _, happended, rfl, hspends.counted, ?_, ?_, ?_, ?_, hspends.chained, ?_⟩
  · refine le_trans hspends.bounded ?_
    cases enteredState cfg s with
    | closed => exact le_refl _
    | opened => exact Nat.zero_le _
    | halfOpen => exact cfg.retryPolicy.maxAttempts_pos
  · intro hhalf
    have hbound := hspends.bounded
    rw [hhalf] at hbound
    exact hbound
  · intro hopened
    have hbound := hspends.bounded
    rw [hopened] at hbound
    exact List.length_eq_zero_iff.mp (Nat.le_zero.mp hbound)
  · rintro total first retries htotal rfl retry hretry
    rw [hfirst first rfl]
    exact hspends.inTime total htotal retry (List.mem_cons_of_mem _ hretry)
  · intro result hresult
    rw [hspends.reported result hresult, Nat.zero_add]

namespace Sample

/-- The guard on a clock that moves in the first operation and in the sleep after it. -/
def movingGuard : GuardConfig :=
  { guard with clock := fun i => if i < 3 then 0 else if i < 5 then 1 / 10 else 3 / 20 }

/-- The dependency is down once. -/
def downOnce (n : ℕ) : ∀ q, (guardInterface Unit).Answer q
  | .operation _ => if n = 0 then .error (.exception "ConnectionError" "") else .ok ()
  | .sleep _ => .ok ()
  | .fallback _ => .ok ()

/-- How long an await lasts, where that is fixed. -/
def fixedDelay : GuardRequest → Option ℚ
  | .operation _ => none
  | .sleep delay => some delay
  | .fallback _ => some 0

theorem passes_of_none {q : GuardRequest} {now later : ℚ} (h : fixedDelay q = none)
    (hle : now ≤ later) : Passes q now later := by
  cases q with
  | operation timeout => exact hle
  | sleep delay => cases h
  | fallback failure => cases h

theorem passes_of_some {q : GuardRequest} {now delay : ℚ} (h : fixedDelay q = some delay) :
    Passes q now (now + delay) := by
  cases q with
  | operation timeout => cases h
  | sleep delay' =>
      cases h
      rfl
  | fallback failure =>
      cases h
      exact add_zero now

/-- An attempt, the sleep before its retry, and the retry. -/
theorem schedule_downOnce :
    ((execute (T := Unit) movingGuard false).transcript downOnce .initial).map
        (fun e => (e.state.readings, fixedDelay e.request)) =
      [(3, none), (5, some (1 / 20)), (6, none)] := by
  decide +kernel

theorem paced_downOnce : Paced movingGuard.clock 0 GuardState.initial.readings
    ((execute (T := Unit) movingGuard false).transcript downOnce .initial) := by
  have hschedule := schedule_downOnce
  generalize (execute (T := Unit) movingGuard false).transcript downOnce .initial = l at hschedule
  obtain ⟨attempt, l, rfl, hattempt, hschedule⟩ := List.map_eq_cons_iff.mp hschedule
  obtain ⟨sleep, l, rfl, hsleep, hschedule⟩ := List.map_eq_cons_iff.mp hschedule
  obtain ⟨retry, l, rfl, hretry, hschedule⟩ := List.map_eq_cons_iff.mp hschedule
  cases List.map_eq_nil_iff.mp hschedule
  rw [Prod.mk.injEq] at hattempt hsleep hretry
  have hafter : (3 / 20 : ℚ) = 1 / 10 + 1 / 20 := by norm_num
  refine ⟨?_, 1 / 10, passes_of_none hattempt.2 (by norm_num), ?_, 3 / 20,
    hafter ▸ passes_of_some hsleep.2, ?_, 3 / 20, passes_of_none hretry.2 (le_refl _), trivial⟩
  · intro i _ hi
    rw [hattempt.1] at hi
    exact if_pos hi
  · intro i hfirst hi
    rw [hattempt.1] at hfirst
    rw [hsleep.1] at hi
    exact (if_neg (not_lt.mpr hfirst)).trans (if_pos hi)
  · intro i hfirst _
    rw [hsleep.1] at hfirst
    exact (if_neg (by omega)).trans (if_neg (not_lt.mpr hfirst))

end Sample

open Sample in
/-- The theorem at a call that fails once: its retry starts after the sleep, in time, and the
call reports two attempts. -/
theorem execute_keepsBudget_downOnce :
    ∃ (first retry : AttemptStart) (failed succeeded : Except GuardError Unit)
      (result : DependencyCallResult Unit),
      ((execute (T := Unit) movingGuard false).complete downOnce .initial).2.attempts =
        [first, retry] ∧
      operationAnswers ((execute (T := Unit) movingGuard false).transcript downOnce .initial) =
        [failed, succeeded] ∧
      first.startedAt = 0 ∧ retry.startedAt = 3 / 20 ∧
      retry.startedAt - first.startedAt < 3 ∧
      Retries movingGuard (first, failed) (retry, succeeded) ∧
      ((execute (T := Unit) movingGuard false).complete downOnce .initial).1 = .ok result ∧
      result.attempts = 2 := by
  obtain ⟨starts, outcomes, happended, houtcomes, hcounted, _, _, _, htime, hchain, hreported⟩ :=
    execute_keepsBudget movingGuard false downOnce .initial 0 paced_downOnce
  have hattempts :
      ((execute (T := Unit) movingGuard false).complete downOnce .initial).2.attempts =
        [⟨⟨.closed, 0, 0, none⟩, 0⟩, ⟨⟨.closed, 1, 0, none⟩, 3 / 20⟩] := by
    decide +kernel
  have hstarts := happended.symm.trans hattempts
  rw [show GuardState.initial.attempts = [] from rfl, List.nil_append] at hstarts
  subst hstarts
  have hok : ((execute (T := Unit) movingGuard false).complete downOnce .initial).1.isOk =
      true := by
    decide +kernel
  obtain ⟨failed, succeeded, rfl⟩ := List.length_eq_two.mp hcounted.symm
  cases hresult : ((execute (T := Unit) movingGuard false).complete downOnce .initial).1 with
  | error e =>
      rw [hresult] at hok
      cases hok
  | ok result =>
      exact ⟨_, _, failed, succeeded, result, hattempts, houtcomes.symm, rfl, rfl,
        htime 3 _ _ rfl rfl _ List.mem_cons_self, List.isChain_pair.mp hchain, rfl,
        hreported result hresult⟩

end MediaCenter.Shared
