import Mathlib.Algebra.Order.Ring.Rat
import MediaCenter.Library.Interleaving

/-!
# The resilience guard

`DependencyResilienceGuard.execute` retries an operation, and stops calling a dependency
that keeps failing: the circuit breaker.  Any number of calls share one guard; they overlap
at the awaits on the operation, the sleeper and the fallback.  Times and delays are exact.
-/

set_option autoImplicit false

namespace MediaCenter.Shared

open MediaCenter.Library

inductive DependencyKind : Type where
  | database
  | messageBroker
  | externalApi
  | proxy
  deriving DecidableEq

inductive FailureMode : Type where
  | unavailable
  | timeout
  | rateLimited
  | degraded
  deriving DecidableEq

inductive DependencyCallStatus : Type where
  | succeeded
  | degraded
  | failed
  deriving DecidableEq

inductive CircuitBreakerState : Type where
  | closed
  | opened
  | halfOpen
  deriving DecidableEq

structure DependencyFailure where
  dependencyName : String
  dependencyKind : DependencyKind
  failureMode : FailureMode
  errorCode : String
  message : String
  retryable : Bool
  deriving DecidableEq

/-- What `execute`, or what it awaits, may raise.  `baseException` is what
`except Exception` lets through, such as a cancellation. -/
inductive GuardError : Type where
  | timeoutError
  | dependencyFailure (failure : DependencyFailure)
  | exception (className text : String)
  | baseException (className : String)
  | assertionError
  deriving DecidableEq

structure RetryPolicy where
  maxAttempts : ℕ
  initialBackoffSeconds : ℚ
  backoffMultiplier : ℚ
  maxBackoffSeconds : ℚ
  retryableErrorCodes : List String
  maxAttempts_pos : 0 < maxAttempts
  initialBackoffSeconds_nonneg : 0 ≤ initialBackoffSeconds
  one_le_backoffMultiplier : 1 ≤ backoffMultiplier
  initial_le_max : initialBackoffSeconds ≤ maxBackoffSeconds

namespace RetryPolicy

/-- `is_retryable`. -/
def isRetryable (policy : RetryPolicy) (failure : DependencyFailure) : Bool :=
  failure.retryable && policy.retryableErrorCodes.contains failure.errorCode

/-- `delay_for_attempt`; attempts are counted from 1. -/
def delayForAttempt (policy : RetryPolicy) (attempt : ℕ) : ℚ :=
  min (policy.initialBackoffSeconds * policy.backoffMultiplier ^ (attempt - 1))
    policy.maxBackoffSeconds

end RetryPolicy

structure TimeoutBudget where
  perAttemptSeconds : Option ℚ
  totalSeconds : Option ℚ
  perAttemptSeconds_pos : ∀ x, perAttemptSeconds = some x → 0 < x
  totalSeconds_pos : ∀ x, totalSeconds = some x → 0 < x
  perAttempt_le_total : ∀ x y, perAttemptSeconds = some x → totalSeconds = some y → x ≤ y

structure CircuitBreakerPolicy where
  failureThreshold : ℕ
  recoverySuccessThreshold : ℕ
  cooldownSeconds : ℚ
  failureThreshold_pos : 0 < failureThreshold
  recoverySuccessThreshold_pos : 0 < recoverySuccessThreshold
  cooldownSeconds_nonneg : 0 ≤ cooldownSeconds

/-! ## The circuit breaker -/

/-- The mutable fields of the guard. -/
structure CircuitBreaker where
  state : CircuitBreakerState
  consecutiveFailures : ℕ
  recoverySuccesses : ℕ
  openedAt : Option ℚ
  deriving DecidableEq

namespace CircuitBreaker

def initial : CircuitBreaker := ⟨.closed, 0, 0, none⟩

/-- `_record_success`; the result says whether the circuit has just closed. -/
def recordSuccess (policy : CircuitBreakerPolicy) (b : CircuitBreaker) :
    Bool × CircuitBreaker :=
  if b.state = .halfOpen then
    if policy.recoverySuccessThreshold ≤ b.recoverySuccesses + 1 then
      (true, ⟨.closed, 0, 0, none⟩)
    else (false, { b with recoverySuccesses := b.recoverySuccesses + 1 })
  else (false, { b with consecutiveFailures := 0, recoverySuccesses := 0 })

/-- `_open_circuit`. -/
def openCircuit (now : ℚ) (b : CircuitBreaker) : CircuitBreaker :=
  { b with state := .opened, openedAt := some now, recoverySuccesses := 0 }

/-- `_record_failure`. -/
def recordFailure (policy : CircuitBreakerPolicy) (now : ℚ) (b : CircuitBreaker) :
    CircuitBreaker :=
  if b.state = .halfOpen then b.openCircuit now
  else if policy.failureThreshold ≤ b.consecutiveFailures + 1 then
    { b with consecutiveFailures := b.consecutiveFailures + 1 }.openCircuit now
  else { b with consecutiveFailures := b.consecutiveFailures + 1 }

/-- `_transition_open_circuit_if_ready`. -/
def transitionOpenCircuitIfReady (policy : CircuitBreakerPolicy) (now : ℚ)
    (b : CircuitBreaker) : CircuitBreaker :=
  match b.state, b.openedAt with
  | .opened, some openedAt =>
      if policy.cooldownSeconds ≤ now - openedAt then
        { b with state := .halfOpen, recoverySuccesses := 0 }
      else b
  | _, _ => b

end CircuitBreaker

/-- The three ways in which calls change the breaker. -/
inductive BreakerOp : Type where
  | success
  | failure (now : ℚ)
  | transition (now : ℚ)
  deriving DecidableEq

def BreakerOp.apply (policy : CircuitBreakerPolicy) (b : CircuitBreaker) :
    BreakerOp → CircuitBreaker
  | .success => (b.recordSuccess policy).2
  | .failure now => b.recordFailure policy now
  | .transition now => b.transitionOpenCircuitIfReady policy now

/-! ## The guard -/

structure GuardConfig where
  dependencyName : String
  dependencyKind : DependencyKind
  retryPolicy : RetryPolicy
  timeoutBudget : TimeoutBudget
  circuitBreakerPolicy : CircuitBreakerPolicy
  /-- What the clock shows, reading by reading, wherever the code may look at it. -/
  clock : ℕ → ℚ

/-- The breaker and the time at which an attempt of an operation starts. -/
structure AttemptStart where
  breaker : CircuitBreaker
  startedAt : ℚ
  deriving DecidableEq

/-- The breaker, and how many clock readings were taken.  `attempts` and `history` are read
by no program; they record what the statements are about. -/
structure GuardState where
  breaker : CircuitBreaker
  readings : ℕ
  attempts : List AttemptStart
  history : List BreakerOp

def GuardState.initial : GuardState := ⟨.initial, 0, [], []⟩

inductive GuardRequest : Type where
  /-- `operation()`, under a time limit if there is one. -/
  | operation (timeout : Option ℚ)
  | sleep (delay : ℚ)
  | fallback (failure : DependencyFailure)

@[reducible] def GuardResult (T : Type) : GuardRequest → Type
  | .operation _ => T
  | .sleep _ => Unit
  | .fallback _ => T

abbrev guardInterface (T : Type) : Interface :=
  Interface.fallible GuardRequest GuardError (GuardResult T)

abbrev GuardProgram (T α : Type) : Type :=
  Coroutine (guardInterface T) GuardState GuardError α

structure DependencyCallResult (T : Type) where
  dependencyName : String
  dependencyKind : DependencyKind
  status : DependencyCallStatus
  attempts : ℕ
  value : T
  errorCode : Option String := none
  degradedReason : Option String := none
  circuitState : CircuitBreakerState
  recovered : Bool := false

namespace GuardProgram

open Coroutine

variable {T : Type} (cfg : GuardConfig)

/-- `self.clock()`. -/
def readClock : GuardProgram T ℚ :=
  update fun s => .ok (cfg.clock s.readings, { s with readings := s.readings + 1 })

def breakerState : GuardProgram T CircuitBreakerState :=
  inspect fun s => .ok s.breaker.state

def transitionOpenCircuitIfReady : GuardProgram T Unit :=
  update fun s =>
    let now := cfg.clock s.readings
    .ok ((), { s with
      breaker := s.breaker.transitionOpenCircuitIfReady cfg.circuitBreakerPolicy now
      readings := s.readings + 1
      history := s.history ++ [.transition now] })

def recordSuccess : GuardProgram T Bool :=
  update fun s =>
    .ok ((s.breaker.recordSuccess cfg.circuitBreakerPolicy).1, { s with
      breaker := (s.breaker.recordSuccess cfg.circuitBreakerPolicy).2
      history := s.history ++ [.success] })

def recordFailure : GuardProgram T Unit :=
  update fun s =>
    let now := cfg.clock s.readings
    .ok ((), { s with
      breaker := s.breaker.recordFailure cfg.circuitBreakerPolicy now
      readings := s.readings + 1
      history := s.history ++ [.failure now] })

/-- An attempt starts: `operation()` is about to be called. -/
def startAttempt : GuardProgram T Unit :=
  update fun s => .ok ((), { s with
    attempts := s.attempts ++ [⟨s.breaker, cfg.clock s.readings⟩]
    readings := s.readings + 1 })

/-- `_timeout_failure`. -/
def timeoutFailure : DependencyFailure where
  dependencyName := cfg.dependencyName
  dependencyKind := cfg.dependencyKind
  failureMode := .timeout
  errorCode := "dependency_timeout"
  message := "dependency call timed out"
  retryable := true

/-- `_unknown_failure`. -/
def unknownFailure (className text : String) : DependencyFailure where
  dependencyName := cfg.dependencyName
  dependencyKind := cfg.dependencyKind
  failureMode := .unavailable
  errorCode := "dependency_error"
  message := if text = "" then className else text
  retryable := true

/-- `_circuit_open_failure`. -/
def circuitOpenFailure : DependencyFailure where
  dependencyName := cfg.dependencyName
  dependencyKind := cfg.dependencyKind
  failureMode := .degraded
  errorCode := "circuit_open"
  message := "dependency circuit breaker is open"
  retryable := true

/-- `_call_with_timeout` and the `except` clauses around it. -/
def callWithTimeout : GuardProgram T (Except DependencyFailure T) := do
  match ← perform (I := guardInterface T)
      (GuardRequest.operation cfg.timeoutBudget.perAttemptSeconds) with
  | .ok value => return .ok value
  | .error .timeoutError => return .error (timeoutFailure cfg)
  | .error (.dependencyFailure failure) => return .error failure
  | .error (.exception className text) => return .error (unknownFailure cfg className text)
  | .error .assertionError => return .error (unknownFailure cfg "AssertionError" "")
  | .error (.baseException className) => throw (.baseException className)

/-- `_should_retry`. -/
def shouldRetry (failure : DependencyFailure) (attempt maxAttempts : ℕ) (startedAt : ℚ) :
    GuardProgram T Bool := do
  let state ← breakerState
  if state = .opened then return false
  else if maxAttempts ≤ attempt then return false
  else if cfg.retryPolicy.isRetryable failure = false then return false
  else match cfg.timeoutBudget.totalSeconds with
    | none => return true
    | some totalSeconds =>
        let now ← readClock cfg
        return decide (now - startedAt + cfg.retryPolicy.delayForAttempt attempt < totalSeconds)

/-- `_fallback_or_raise`. -/
def fallbackOrRaise (failure : DependencyFailure) (hasFallback : Bool) : GuardProgram T T :=
  if hasFallback = true then attempt (GuardRequest.fallback failure)
  else throw (.dependencyFailure failure)

/-- `_degraded_result`. -/
def degradedResult (attempts : ℕ) (value : T) (failure : DependencyFailure)
    (degradedReason : String) : GuardProgram T (DependencyCallResult T) := do
  let state ← breakerState
  return { dependencyName := cfg.dependencyName
           dependencyKind := cfg.dependencyKind
           status := .degraded
           attempts := attempts
           value := value
           errorCode := some failure.errorCode
           degradedReason := some degradedReason
           circuitState := state }

/-- After the loop: the fallback for the last failure. -/
def retryExhausted (hasFallback : Bool) (attemptsUsed : ℕ)
    (lastFailure : Option DependencyFailure) : GuardProgram T (DependencyCallResult T) :=
  match lastFailure with
  | none => throw .assertionError
  | some failure => do
      let value ← fallbackOrRaise failure hasFallback
      degradedResult cfg attemptsUsed value failure "retry_exhausted"

/-- The loop of `execute`, with `remaining` attempts to go. -/
def runAttempts (hasFallback : Bool) (maxAttempts : ℕ) (startedAt : ℚ) :
    ℕ → Option DependencyFailure → GuardProgram T (DependencyCallResult T)
  | 0, lastFailure => retryExhausted cfg hasFallback maxAttempts lastFailure
  | remaining + 1, _ => do
      let attempt := maxAttempts - remaining
      startAttempt cfg
      match ← callWithTimeout cfg with
      | .ok value =>
          let recovered ← recordSuccess cfg
          let state ← breakerState
          return { dependencyName := cfg.dependencyName
                   dependencyKind := cfg.dependencyKind
                   status := .succeeded
                   attempts := attempt
                   value := value
                   circuitState := state
                   recovered := recovered }
      | .error failure =>
          recordFailure cfg
          let retry ← shouldRetry cfg failure attempt maxAttempts startedAt
          if retry = true then
            let _ ← Coroutine.attempt
              (GuardRequest.sleep (cfg.retryPolicy.delayForAttempt attempt))
            runAttempts hasFallback maxAttempts startedAt remaining (some failure)
          else retryExhausted cfg hasFallback attempt (some failure)

end GuardProgram

open GuardProgram in
/-- `DependencyResilienceGuard.execute`, with or without a fallback. -/
def execute {T : Type} (cfg : GuardConfig) (hasFallback : Bool) :
    GuardProgram T (DependencyCallResult T) := do
  transitionOpenCircuitIfReady cfg
  let state ← breakerState
  if state = .opened then
    let value ← fallbackOrRaise (circuitOpenFailure cfg) hasFallback
    degradedResult cfg 0 value (circuitOpenFailure cfg) "circuit_open"
  else
    let maxAttempts := if state = .halfOpen then 1 else cfg.retryPolicy.maxAttempts
    let startedAt ← readClock cfg
    runAttempts cfg hasFallback maxAttempts startedAt maxAttempts none

/-- Runs of a guard: each call of `execute` says whether it has a fallback. -/
abbrev GuardRun (T : Type) : Type :=
  Config Bool (guardInterface T) GuardState GuardError (DependencyCallResult T)

def guardRun {T : Type} (cfg : GuardConfig) (actions : List (Action Bool (guardInterface T))) :
    GuardRun T :=
  Config.run (execute cfg) (.initial .initial) actions

end MediaCenter.Shared
