import MediaCenter.Library.Dict
import MediaCenter.Model.Shared.Models

/-!
# The rate limiter of the gateway (`libs/shared/gateway.py`)

`InMemoryRateLimiter` counts the requests of each key in windows of fixed length.
-/

set_option autoImplicit false

namespace MediaCenter.Shared

open MediaCenter.Library

structure RateLimitPolicy where
  limit : ℕ
  windowSeconds : ℕ
  limit_pos : 0 < limit
  windowSeconds_pos : 0 < windowSeconds

structure RateLimitDecision where
  allowed : Bool
  limit : ℕ
  remaining : ℕ
  resetAt : ℤ
  retryAfterSeconds : ℤ
  deriving DecidableEq, Repr

structure RateLimitWindow where
  startedAt : ℤ
  requestCount : ℕ
  deriving DecidableEq, Repr

abbrev RateLimitWindows : Type := Dict String RateLimitWindow

namespace InMemoryRateLimiter

/-- The window a request of a key falls into: the stored one, or a new one. -/
def currentWindow (policy : RateLimitPolicy) (now : ℤ) (window : Option RateLimitWindow) :
    RateLimitWindow :=
  let windowStartedAt := now - now % policy.windowSeconds
  match window with
  | none => ⟨windowStartedAt, 0⟩
  | some window =>
      if window.startedAt ≠ windowStartedAt then ⟨windowStartedAt, 0⟩ else window

/-- The decision on a request, and its window afterwards. -/
def decide (policy : RateLimitPolicy) (now : ℤ) (stored : Option RateLimitWindow) :
    RateLimitDecision × RateLimitWindow :=
  let resetAt := now - now % policy.windowSeconds + policy.windowSeconds
  let window := currentWindow policy now stored
  if policy.limit ≤ window.requestCount then
    (⟨false, policy.limit, 0, resetAt, max 1 (resetAt - now)⟩, window)
  else
    (⟨true, policy.limit, policy.limit - (window.requestCount + 1), resetAt, 0⟩,
      { window with requestCount := window.requestCount + 1 })

/-- `InMemoryRateLimiter.check`; `now` is `int(self._clock())`. -/
def check (policy : RateLimitPolicy) (now : ℤ) (key : String) (windows : RateLimitWindows) :
    Except SharedException (RateLimitDecision × RateLimitWindows) :=
  if Text.strip key = "" then
    .error (.valueError "rate limit key должен быть непустой строкой")
  else
    let (decision, window) := decide policy now (windows.get? key)
    .ok (decision, windows.set key window)

end InMemoryRateLimiter

/-- `context.subject or "anonymous"`. -/
def rateLimitSubject (subject : Option String) : String := orDefault subject "anonymous"

/-- `_rate_limit_key`. -/
def rateLimitKey (tenantId : String) (subject : Option String) (serviceName : String) :
    String :=
  "tenant:" ++ tenantId ++ ":subject:" ++ rateLimitSubject subject ++ ":service:" ++ serviceName

end MediaCenter.Shared
