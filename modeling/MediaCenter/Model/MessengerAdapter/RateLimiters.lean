import MediaCenter.Library.Timed

/-!
# Pacing of outbound calls (`vk_adapter.py`, `telegram_telethon.py`)

Two limiters with one algorithm: a call reads when the last one of its key was due, sleeps for
what is missing of the interval, and then writes when it was due itself.  Instants and delays
are exact seconds.
-/

set_option autoImplicit false

namespace MediaCenter.MessengerAdapter

open MediaCenter.Library

/-! ## Limits -/

structure VKAPIRateLimit where
  maxRequestsPerSecond : ℕ
  minIntervalSeconds : ℚ
  maxRequestsPerSecond_mem : 1 ≤ maxRequestsPerSecond ∧ maxRequestsPerSecond ≤ 1000
  minIntervalSeconds_mem : 0 ≤ minIntervalSeconds ∧ minIntervalSeconds ≤ 3600

/-- `effective_interval_seconds`. -/
def VKAPIRateLimit.effectiveIntervalSeconds (limit : VKAPIRateLimit) : ℚ :=
  max limit.minIntervalSeconds (1 / limit.maxRequestsPerSecond)

theorem VKAPIRateLimit.effectiveIntervalSeconds_pos (limit : VKAPIRateLimit) :
    0 < limit.effectiveIntervalSeconds := by
  apply lt_max_of_lt_right
  have hpos : (0 : ℚ) < limit.maxRequestsPerSecond :=
    Nat.cast_pos.mpr limit.maxRequestsPerSecond_mem.1
  exact one_div_pos.mpr hpos

/-- The defaults of the fields. -/
def VKAPIRateLimit.default : VKAPIRateLimit := ⟨3, 34 / 100, by decide, by norm_num⟩

structure TelegramTelethonRateLimit where
  maxMessagesPerMinute : ℕ
  minIntervalSeconds : ℚ
  maxMessagesPerMinute_mem : 1 ≤ maxMessagesPerMinute ∧ maxMessagesPerMinute ≤ 1200
  minIntervalSeconds_mem : 0 ≤ minIntervalSeconds ∧ minIntervalSeconds ≤ 3600

/-- `effective_interval_seconds`. -/
def TelegramTelethonRateLimit.effectiveIntervalSeconds (limit : TelegramTelethonRateLimit) : ℚ :=
  max limit.minIntervalSeconds (60 / limit.maxMessagesPerMinute)

theorem TelegramTelethonRateLimit.effectiveIntervalSeconds_pos (limit : TelegramTelethonRateLimit) :
    0 < limit.effectiveIntervalSeconds := by
  apply lt_max_of_lt_right
  have hpos : (0 : ℚ) < limit.maxMessagesPerMinute :=
    Nat.cast_pos.mpr limit.maxMessagesPerMinute_mem.1
  exact div_pos (by norm_num) hpos

/-- The defaults of the fields. -/
def TelegramTelethonRateLimit.default : TelegramTelethonRateLimit :=
  ⟨60, 1, by decide, by norm_num⟩

/-! ## Limiters -/

section Acquire

variable {κ : Type} [DecidableEq κ]

/-- The entry of each key: when its last call was due. -/
abbrev LastCalls (κ : Type) : Type := Dict κ ℚ

/-- A limiter's calls never raise. -/
abbrev Pacing (κ α : Type) : Type := Coroutine Sleeping (LastCalls κ) Empty α

/-- What is missing of the interval. -/
def delayOf (interval : ℚ) (last : Option ℚ) (requestedAt : ℚ) : ℚ :=
  match last with
  | some lastCalledAt => max 0 (interval - (requestedAt - lastCalledAt))
  | none => 0

/-- `acquire`, of either limiter. -/
def acquire (interval : ℚ) (key : κ) (requestedAt : ℚ) : Pacing κ ℚ := do
  let last ← Coroutine.inspect fun entries => .ok (entries.get? key)
  let delay := delayOf interval last requestedAt
  if 0 < delay then
    Coroutine.perform (I := Sleeping) delay
  Coroutine.update fun entries => .ok ((), entries.set key (requestedAt + delay))
  return delay

end Acquire

/-- The key of `_last_called_at`: tenant, target and action. -/
abbrev VKAPIKey : Type := String × String × String

/-- `VKAPIRateLimiter.acquire`, called at the instant `requestedAt`. -/
def VKAPIRateLimit.acquire (limit : VKAPIRateLimit) : VKAPIKey → ℚ → Pacing VKAPIKey ℚ :=
  MessengerAdapter.acquire limit.effectiveIntervalSeconds

/-- The key of `_last_sent_at`: tenant, session, target and action. -/
abbrev TelegramTelethonKey : Type := String × String × String × String

/-- `TelegramTelethonRateLimiter.acquire`, called at the instant `requestedAt`. -/
def TelegramTelethonRateLimit.acquire (limit : TelegramTelethonRateLimit) :
    TelegramTelethonKey → ℚ → Pacing TelegramTelethonKey ℚ :=
  MessengerAdapter.acquire limit.effectiveIntervalSeconds

end MediaCenter.MessengerAdapter
