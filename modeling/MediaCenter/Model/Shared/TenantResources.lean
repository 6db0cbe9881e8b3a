import MediaCenter.Library.Dict
import MediaCenter.Model.Shared.Tenant

/-!
# Tenant quotas (`libs/shared/tenant_resources.py`)

`InMemoryTenantResourceManager` counts, for each tenant, the requests of the current window
and the operations under way.  A clock reading is the integer `int(self._clock())`.
-/

set_option autoImplicit false

namespace MediaCenter.Shared

open MediaCenter.Library

structure TenantResourcePlan where
  name : String
  requestLimit : ℕ
  windowSeconds : ℕ
  concurrentOperations : ℕ
  storageBytes : ℕ
  queueDepth : ℕ
  name_ne : name ≠ ""
  strip_name : Text.strip name = name
  windowSeconds_pos : 0 < windowSeconds

structure TenantResourceSnapshot where
  tenantId : String
  planName : String
  windowStartedAt : ℤ
  windowSeconds : ℕ
  requestLimit : ℕ
  requestsUsed : ℕ
  concurrentOperationsLimit : ℕ
  concurrentOperations : ℕ
  storageBytesLimit : ℕ
  storageBytesUsed : ℕ
  queueDepthLimit : ℕ
  queueItems : ℕ
  deriving DecidableEq, Repr

structure TenantResourceDecision where
  allowed : Bool
  tenantId : String
  planName : String
  reason : Option String
  retryAfterSeconds : ℤ
  serviceName : Option String
  operation : Option String
  resourceType : String
  requestedAmount : ℕ
  snapshot : TenantResourceSnapshot
  deriving DecidableEq, Repr

/-- `_TenantResourceState`. -/
structure TenantResourceState where
  plan : TenantResourcePlan
  windowStartedAt : ℤ
  requestsUsed : ℕ
  concurrentOperations : ℕ
  storageBytesUsed : ℕ
  queueItems : ℕ

abbrev TenantResourceStates : Type := Dict String TenantResourceState

/-- The plans of `InMemoryTenantResourceManager`. -/
structure TenantResourcePlans where
  defaultPlan : TenantResourcePlan
  tenantPlans : Dict String TenantResourcePlan

namespace InMemoryTenantResourceManager

/-- `_validated_tenant_id` of `tenant_resources.py`. -/
def validatedTenantId (tenantId : String) : Except SharedException String :=
  let normalizedTenantId := Text.strip tenantId
  if tenantIdPattern normalizedTenantId = true then .ok normalizedTenantId
  else .error (.valueError "tenant_id имеет недопустимый формат")

/-- `_normalized_token`. -/
def normalizedToken (value label : String) : Except SharedException String :=
  let normalized := Text.strip value
  if normalized = "" then .error (.valueError (label ++ " должен быть непустой строкой"))
  else .ok normalized

/-- `_window_started_at`. -/
def windowStartedAt (plan : TenantResourcePlan) (now : ℤ) : ℤ := now - now % plan.windowSeconds

/-- `_roll_window_if_needed`. -/
def rollWindowIfNeeded (plan : TenantResourcePlan) (now : ℤ) (state : TenantResourceState) :
    TenantResourceState :=
  if state.windowStartedAt ≠ windowStartedAt plan now then
    { state with windowStartedAt := windowStartedAt plan now, requestsUsed := 0 }
  else state

/-- The state of a tenant under its plan at a point in time. -/
def currentState (plan : TenantResourcePlan) (now : ℤ) (stored : Option TenantResourceState) :
    TenantResourceState :=
  match stored with
  | none => ⟨plan, windowStartedAt plan now, 0, 0, 0, 0⟩
  | some state => rollWindowIfNeeded plan now { state with plan := plan }

/-- `_state_for_context`: the key of the tenant, and its state. -/
def stateForContext (plans : TenantResourcePlans) (now : ℤ) (context : TenantContext)
    (states : TenantResourceStates) : Except SharedException (String × TenantResourceState) := do
  let tenantId ← validatedTenantId context.tenantId
  let plan := (plans.tenantPlans.get? tenantId).getD plans.defaultPlan
  return (tenantId, currentState plan now (states.get? tenantId))

/-- `_snapshot`. -/
def snapshotOf (tenantId : String) (state : TenantResourceState) : TenantResourceSnapshot where
  tenantId := tenantId
  planName := state.plan.name
  windowStartedAt := state.windowStartedAt
  windowSeconds := state.plan.windowSeconds
  requestLimit := state.plan.requestLimit
  requestsUsed := state.requestsUsed
  concurrentOperationsLimit := state.plan.concurrentOperations
  concurrentOperations := state.concurrentOperations
  storageBytesLimit := state.plan.storageBytes
  storageBytesUsed := state.storageBytesUsed
  queueDepthLimit := state.plan.queueDepth
  queueItems := state.queueItems

/-- `_decision` on one unit of a resource. -/
def decision (allowed : Bool) (context : TenantContext) (state : TenantResourceState)
    (reason : Option String) (retryAfterSeconds : ℤ) (serviceName : Option String)
    (operation resourceType : String) : TenantResourceDecision where
  allowed := allowed
  tenantId := context.tenantId
  planName := state.plan.name
  reason := reason
  retryAfterSeconds := retryAfterSeconds
  serviceName := serviceName
  operation := some operation
  resourceType := resourceType
  requestedAmount := 1
  snapshot := snapshotOf context.tenantId state

/-- `admit_request`; the clock is read twice. -/
def admitRequest (plans : TenantResourcePlans) (now retryNow : ℤ) (context : TenantContext)
    (serviceName operation : String) (states : TenantResourceStates) :
    Except SharedException (TenantResourceDecision × TenantResourceStates) := do
  let normalizedService ← normalizedToken serviceName "service_name"
  let normalizedOperation ← normalizedToken operation "operation"
  let (tenantId, state) ← stateForContext plans now context states
  let resetAt := state.windowStartedAt + state.plan.windowSeconds
  let retryAfter := max 1 (resetAt - retryNow)
  if state.plan.requestLimit ≤ state.requestsUsed then
    return (decision false context state (some "request_limit_exceeded") retryAfter
      (some normalizedService) normalizedOperation "request", states.set tenantId state)
  else
    let used := { state with requestsUsed := state.requestsUsed + 1 }
    return (decision true context used none 0 (some normalizedService) normalizedOperation
      "request", states.set tenantId used)

/-- `acquire_operation_slot`. -/
def acquireOperationSlot (plans : TenantResourcePlans) (now : ℤ) (context : TenantContext)
    (operation : String) (states : TenantResourceStates) :
    Except SharedException (TenantResourceDecision × TenantResourceStates) := do
  let normalizedOperation ← normalizedToken operation "operation"
  let (tenantId, state) ← stateForContext plans now context states
  if state.plan.concurrentOperations ≤ state.concurrentOperations then
    return (decision false context state (some "concurrency_limit_exceeded") 1 none
      normalizedOperation "concurrent_operation", states.set tenantId state)
  else
    let used := { state with concurrentOperations := state.concurrentOperations + 1 }
    return (decision true context used none 0 none normalizedOperation
      "concurrent_operation", states.set tenantId used)

/-- `release_operation_slot`. -/
def releaseOperationSlot (plans : TenantResourcePlans) (now : ℤ) (context : TenantContext)
    (operation : String) (states : TenantResourceStates) :
    Except SharedException (TenantResourceSnapshot × TenantResourceStates) := do
  let _ ← normalizedToken operation "operation"
  let (tenantId, state) ← stateForContext plans now context states
  let released := { state with concurrentOperations := state.concurrentOperations - 1 }
  return (snapshotOf context.tenantId released, states.set tenantId released)

/-! ### Amounts -/

/-- `_positive_amount`. -/
def positiveAmount (value : ℤ) (label : String) : Except SharedException ℕ :=
  if value ≤ 0 then .error (.valueError (label ++ " должен быть положительным"))
  else .ok value.toNat

/-- `_decision` on an amount of a resource. -/
def amountDecision (allowed : Bool) (context : TenantContext) (state : TenantResourceState)
    (reason : Option String) (retryAfterSeconds : ℤ) (operation : Option String)
    (resourceType : String) (requestedAmount : ℕ) : TenantResourceDecision where
  allowed := allowed
  tenantId := context.tenantId
  planName := state.plan.name
  reason := reason
  retryAfterSeconds := retryAfterSeconds
  serviceName := none
  operation := operation
  resourceType := resourceType
  requestedAmount := requestedAmount
  snapshot := snapshotOf context.tenantId state

/-- `reserve_queue_items`. -/
def reserveQueueItems (plans : TenantResourcePlans) (now : ℤ) (context : TenantContext)
    (queueName : String) (amount : ℤ) (states : TenantResourceStates) :
    Except SharedException (TenantResourceDecision × TenantResourceStates) := do
  let normalizedQueue ← normalizedToken queueName "queue_name"
  let normalizedAmount ← positiveAmount amount "amount"
  let (tenantId, state) ← stateForContext plans now context states
  if state.plan.queueDepth < state.queueItems + normalizedAmount then
    return (amountDecision false context state (some "queue_depth_exceeded") 1
      (some normalizedQueue) "queue" normalizedAmount, states.set tenantId state)
  else
    let used := { state with queueItems := state.queueItems + normalizedAmount }
    return (amountDecision true context used none 0 (some normalizedQueue) "queue"
      normalizedAmount, states.set tenantId used)

/-- `release_queue_items`. -/
def releaseQueueItems (plans : TenantResourcePlans) (now : ℤ) (context : TenantContext)
    (queueName : String) (amount : ℤ) (states : TenantResourceStates) :
    Except SharedException (TenantResourceSnapshot × TenantResourceStates) := do
  let _ ← normalizedToken queueName "queue_name"
  let normalizedAmount ← positiveAmount amount "amount"
  let (tenantId, state) ← stateForContext plans now context states
  let released := { state with queueItems := state.queueItems - normalizedAmount }
  return (snapshotOf context.tenantId released, states.set tenantId released)

/-- `reserve_storage_bytes`; the amount is checked before the resource type. -/
def reserveStorageBytes (plans : TenantResourcePlans) (now : ℤ) (context : TenantContext)
    (amount : ℤ) (resourceType : String) (states : TenantResourceStates) :
    Except SharedException (TenantResourceDecision × TenantResourceStates) := do
  let normalizedAmount ← positiveAmount amount "amount"
  let normalizedResource ← normalizedToken resourceType "resource_type"
  let (tenantId, state) ← stateForContext plans now context states
  if state.plan.storageBytes < state.storageBytesUsed + normalizedAmount then
    return (amountDecision false context state (some "storage_quota_exceeded") 0 none
      normalizedResource normalizedAmount, states.set tenantId state)
  else
    let used := { state with storageBytesUsed := state.storageBytesUsed + normalizedAmount }
    return (amountDecision true context used none 0 none normalizedResource normalizedAmount,
      states.set tenantId used)

/-- `release_storage_bytes`; the resource type is checked before the amount. -/
def releaseStorageBytes (plans : TenantResourcePlans) (now : ℤ) (context : TenantContext)
    (amount : ℤ) (resourceType : String) (states : TenantResourceStates) :
    Except SharedException (TenantResourceSnapshot × TenantResourceStates) := do
  let _ ← normalizedToken resourceType "resource_type"
  let normalizedAmount ← positiveAmount amount "amount"
  let (tenantId, state) ← stateForContext plans now context states
  let released := { state with storageBytesUsed := state.storageBytesUsed - normalizedAmount }
  return (snapshotOf context.tenantId released, states.set tenantId released)

/-- `snapshot`. -/
def snapshot (plans : TenantResourcePlans) (now : ℤ) (context : TenantContext)
    (states : TenantResourceStates) :
    Except SharedException (TenantResourceSnapshot × TenantResourceStates) := do
  let (tenantId, state) ← stateForContext plans now context states
  return (snapshotOf context.tenantId state, states.set tenantId state)

/-! ### Plans -/

/-- `plan_for_tenant`. -/
def planForTenant (plans : TenantResourcePlans) (tenantId : String) :
    Except SharedException TenantResourcePlan := do
  let normalizedTenantId ← validatedTenantId tenantId
  return (plans.tenantPlans.get? normalizedTenantId).getD plans.defaultPlan

/-- `configure_tenant`: a record that exists gets the plan at once. -/
def configureTenant (plans : TenantResourcePlans) (now : ℤ) (tenantId : String)
    (plan : TenantResourcePlan) (states : TenantResourceStates) :
    Except SharedException (TenantResourcePlans × TenantResourceStates) := do
  let normalizedTenantId ← validatedTenantId tenantId
  let plans' := { plans with tenantPlans := plans.tenantPlans.set normalizedTenantId plan }
  match states.get? normalizedTenantId with
  | some state =>
      return (plans', states.set normalizedTenantId
        (rollWindowIfNeeded plan now { state with plan := plan }))
  | none => return (plans', states)

end InMemoryTenantResourceManager

/-- `InMemoryTenantResourceManager`: its plans, and the records it has made. -/
structure InMemoryTenantResourceManager where
  plans : TenantResourcePlans
  states : TenantResourceStates

end MediaCenter.Shared
