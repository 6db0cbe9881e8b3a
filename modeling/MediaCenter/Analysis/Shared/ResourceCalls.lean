import MediaCenter.Library.Unwinding
import MediaCenter.Model.Shared.TenantResources

/-!
# The calls of the tenant resource manager

A call makes the record of its tenant current, and then changes at most one of its counters.
One lemma says, for every call, all that it can do on any manager.
-/

set_option autoImplicit false

namespace MediaCenter.Shared

open MediaCenter.Library

/-! ## Calls -/

inductive ResourceCall : Type where
  | configureTenant (tenantId : String) (plan : TenantResourcePlan)
  | planForTenant (tenantId : String)
  | admitRequest (context : TenantContext) (serviceName operation : String)
  | acquireOperationSlot (context : TenantContext) (operation : String)
  | releaseOperationSlot (context : TenantContext) (operation : String)
  | reserveQueueItems (context : TenantContext) (queueName : String) (amount : ℤ)
  | releaseQueueItems (context : TenantContext) (queueName : String) (amount : ℤ)
  | reserveStorageBytes (context : TenantContext) (amount : ℤ) (resourceType : String)
  | releaseStorageBytes (context : TenantContext) (amount : ℤ) (resourceType : String)
  | snapshot (context : TenantContext)

/-- A call with the readings of the clock: `retryNow` is the second one of `admit_request`. -/
structure TimedCall where
  now : ℤ
  retryNow : ℤ
  call : ResourceCall

inductive ResourceAnswer : Type where
  | configured
  | plan (plan : TenantResourcePlan)
  | decision (decision : TenantResourceDecision)
  | snapshot (snapshot : TenantResourceSnapshot)
  | raised (e : SharedException)

/-- The tenant a call names, as the caller wrote it. -/
def ResourceCall.tenantName : ResourceCall → String
  | .configureTenant tenantId _ => tenantId
  | .planForTenant tenantId => tenantId
  | .admitRequest context _ _ => context.tenantId
  | .acquireOperationSlot context _ => context.tenantId
  | .releaseOperationSlot context _ => context.tenantId
  | .reserveQueueItems context _ _ => context.tenantId
  | .releaseQueueItems context _ _ => context.tenantId
  | .reserveStorageBytes context _ _ => context.tenantId
  | .releaseStorageBytes context _ _ => context.tenantId
  | .snapshot context => context.tenantId

/-! ## What one call does -/

/-- The counters that reservations and releases move. -/
inductive ResourceCounter : Type where
  | operations
  | queueItems
  | storageBytes
  deriving DecidableEq

def ResourceCounter.used (s : TenantResourceState) : ResourceCounter → ℕ
  | .operations => s.concurrentOperations
  | .queueItems => s.queueItems
  | .storageBytes => s.storageBytesUsed

def ResourceCounter.limit (plan : TenantResourcePlan) : ResourceCounter → ℕ
  | .operations => plan.concurrentOperations
  | .queueItems => plan.queueDepth
  | .storageBytes => plan.storageBytes

def ResourceCounter.update (s : TenantResourceState) (n : ℕ) : ResourceCounter → TenantResourceState
  | .operations => { s with concurrentOperations := n }
  | .queueItems => { s with queueItems := n }
  | .storageBytes => { s with storageBytesUsed := n }

theorem ResourceCounter.used_update (k k' : ResourceCounter) (s : TenantResourceState) (n : ℕ) :
    k'.used (k.update s n) = if k' = k then n else k'.used s := by
  cases k <;> cases k' <;> rfl

@[simp] theorem ResourceCounter.windowStartedAt_update (k : ResourceCounter) (s : TenantResourceState) (n : ℕ) :
    (k.update s n).windowStartedAt = s.windowStartedAt := by
  cases k <;> rfl

@[simp] theorem ResourceCounter.requestsUsed_update (k : ResourceCounter) (s : TenantResourceState) (n : ℕ) :
    (k.update s n).requestsUsed = s.requestsUsed := by
  cases k <;> rfl

@[simp] theorem ResourceCounter.plan_update (k : ResourceCounter) (s : TenantResourceState) (n : ℕ) :
    (k.update s n).plan = s.plan := by
  cases k <;> rfl

/-- What a call asks for. -/
inductive ResourceDemand : Type where
  | nothing
  | request
  | reserve (k : ResourceCounter) (amount : ℕ)
  | release (k : ResourceCounter) (amount : ℕ)
  deriving DecidableEq

def ResourceCall.demand : ResourceCall → ResourceDemand
  | .configureTenant _ _ => .nothing
  | .planForTenant _ => .nothing
  | .admitRequest _ _ _ => .request
  | .acquireOperationSlot _ _ => .reserve .operations 1
  | .releaseOperationSlot _ _ => .release .operations 1
  | .reserveQueueItems _ _ amount => .reserve .queueItems amount.toNat
  | .releaseQueueItems _ _ amount => .release .queueItems amount.toNat
  | .reserveStorageBytes _ amount _ => .reserve .storageBytes amount.toNat
  | .releaseStorageBytes _ amount _ => .release .storageBytes amount.toNat
  | .snapshot _ => .nothing

/-- The decision of an answer. -/
def ResourceAnswer.allowed? : ResourceAnswer → Option Bool
  | .decision d => some d.allowed
  | _ => none

def ResourceAnswer.isSnapshot : ResourceAnswer → Bool
  | .snapshot _ => true
  | _ => false

/-- How the current record of a tenant answers a demand, and what it becomes. -/
inductive Served (cur : TenantResourceState) :
    ResourceDemand → ResourceAnswer → TenantResourceState → Prop where
  | shown (a : ResourceAnswer) (ha : a.allowed? = none) : Served cur .nothing a cur
  | admitted (a : ResourceAnswer) (ha : a.allowed? = some true)
      (hlt : cur.requestsUsed < cur.plan.requestLimit) :
      Served cur .request a { cur with requestsUsed := cur.requestsUsed + 1 }
  | requestDenied (a : ResourceAnswer) (ha : a.allowed? = some false)
      (hle : cur.plan.requestLimit ≤ cur.requestsUsed) : Served cur .request a cur
  | granted (a : ResourceAnswer) (ha : a.allowed? = some true) (k : ResourceCounter) (n : ℕ)
      (hle : k.used cur + n ≤ k.limit cur.plan) :
      Served cur (.reserve k n) a (k.update cur (k.used cur + n))
  | denied (a : ResourceAnswer) (ha : a.allowed? = some false) (k : ResourceCounter) (n : ℕ) :
      Served cur (.reserve k n) a cur
  | released (a : ResourceAnswer) (ha : a.isSnapshot = true) (k : ResourceCounter) (n : ℕ) :
      Served cur (.release k n) a (k.update cur (k.used cur - n))

namespace InMemoryTenantResourceManager

/-- The tenant a call is made for, unless its name is refused. -/
def tenantOf (c : TimedCall) : Option String :=
  match validatedTenantId c.call.tenantName with
  | .ok tenantId => some tenantId
  | .error _ => none

/-- A new manager. -/
def fresh (plans : TenantResourcePlans) : InMemoryTenantResourceManager := ⟨plans, .empty⟩

/-- What a call on the records leaves: an exception is raised before any record changes. -/
def answered {α : Type} (m : InMemoryTenantResourceManager) (answer : α → ResourceAnswer) :
    Except SharedException (α × TenantResourceStates) →
      ResourceAnswer × InMemoryTenantResourceManager
  | .ok (a, states) => (answer a, { m with states := states })
  | .error e => (.raised e, m)

def step (m : InMemoryTenantResourceManager) (c : TimedCall) :
    ResourceAnswer × InMemoryTenantResourceManager :=
  match c.call with
  | .configureTenant tenantId plan =>
      match configureTenant m.plans c.now tenantId plan m.states with
      | .ok (plans, states) => (.configured, ⟨plans, states⟩)
      | .error e => (.raised e, m)
  | .planForTenant tenantId =>
      match planForTenant m.plans tenantId with
      | .ok plan => (.plan plan, m)
      | .error e => (.raised e, m)
  | .admitRequest context serviceName operation => answered m .decision
      (admitRequest m.plans c.now c.retryNow context serviceName operation m.states)
  | .acquireOperationSlot context operation => answered m .decision
      (acquireOperationSlot m.plans c.now context operation m.states)
  | .releaseOperationSlot context operation => answered m .snapshot
      (releaseOperationSlot m.plans c.now context operation m.states)
  | .reserveQueueItems context queueName amount => answered m .decision
      (reserveQueueItems m.plans c.now context queueName amount m.states)
  | .releaseQueueItems context queueName amount => answered m .snapshot
      (releaseQueueItems m.plans c.now context queueName amount m.states)
  | .reserveStorageBytes context amount resourceType => answered m .decision
      (reserveStorageBytes m.plans c.now context amount resourceType m.states)
  | .releaseStorageBytes context amount resourceType => answered m .snapshot
      (releaseStorageBytes m.plans c.now context amount resourceType m.states)
  | .snapshot context => answered m .snapshot (snapshot m.plans c.now context m.states)

/-! ## One lemma for every call -/

/-- The plan of a tenant. -/
def planOf (m : InMemoryTenantResourceManager) (tenantId : String) : TenantResourcePlan :=
  (m.plans.tenantPlans.get? tenantId).getD m.plans.defaultPlan

/-- The record of a tenant as a call at a point in time finds it. -/
def currentAt (m : InMemoryTenantResourceManager) (now : ℤ) (tenantId : String) :
    TenantResourceState :=
  currentState (m.planOf tenantId) now (m.states.get? tenantId)

/-- A manager whose tenant has been given a plan. -/
def withPlan (m : InMemoryTenantResourceManager) (now : ℤ) (tenantId : String)
    (plan : TenantResourcePlan) : InMemoryTenantResourceManager where
  plans := { m.plans with tenantPlans := m.plans.tenantPlans.set tenantId plan }
  states := match m.states.get? tenantId with
    | some s => m.states.set tenantId (currentState plan now (some s))
    | none => m.states

/-- INTERNAL: everything a call can do, for every manager it is made on. -/
inductive Behaviour (c : TimedCall) : Prop where
  | raises (e : SharedException) (h : ∀ m, step m c = (.raised e, m))
  | plans (tenantId : String) (htenant : tenantOf c = some tenantId)
      (h : ∀ m, step m c = (.plan (m.planOf tenantId), m))
  | configures (tenantId : String) (plan : TenantResourcePlan)
      (htenant : tenantOf c = some tenantId)
      (hcall : c.call = .configureTenant c.call.tenantName plan)
      (h : ∀ m, step m c = (.configured, m.withPlan c.now tenantId plan))
  | serves (tenantId : String) (htenant : tenantOf c = some tenantId)
      (f : TenantResourceState → ResourceAnswer × TenantResourceState)
      (hserved : ∀ cur, Served cur c.call.demand (f cur).1 (f cur).2)
      (h : ∀ m, step m c = ((f (m.currentAt c.now tenantId)).1,
        { m with states := m.states.set tenantId (f (m.currentAt c.now tenantId)).2 }))

section Behaviours

variable {now retryNow : ℤ} {context : TenantContext} {tenantId : String}

theorem tenantOf_eq_some_iff {c : TimedCall} :
    tenantOf c = some tenantId ↔ validatedTenantId c.call.tenantName = .ok tenantId := by
  unfold tenantOf
  cases validatedTenantId c.call.tenantName with
  | ok t => simp
  | error e => simp

theorem stateForContext_of_valid (hvalid : validatedTenantId context.tenantId = .ok tenantId)
    (m : InMemoryTenantResourceManager) :
    stateForContext m.plans now context m.states = .ok (tenantId, m.currentAt now tenantId) := by
  unfold stateForContext
  rw [hvalid]
  rfl

theorem stateForContext_of_error {e : SharedException}
    (hvalid : validatedTenantId context.tenantId = .error e)
    (m : InMemoryTenantResourceManager) :
    stateForContext m.plans now context m.states = .error e := by
  unfold stateForContext
  rw [hvalid]
  rfl

/-- INTERNAL: a call checks its arguments, finds the record of its tenant, and stores what it
makes of it. -/
theorem behaviour_of_checks {c : TimedCall} {α β : Type} (answer : β → ResourceAnswer)
    (checks : Except SharedException α) (f : α → TenantResourceState → β × TenantResourceState)
    (hname : c.call.tenantName = context.tenantId)
    (hstep : ∀ m, step m c = answered m answer (checks >>= fun a =>
      stateForContext m.plans c.now context m.states >>= fun r =>
        .ok ((f a r.2).1, m.states.set r.1 (f a r.2).2)))
    (hserved : ∀ a, checks = .ok a → ∀ cur,
      Served cur c.call.demand (answer (f a cur).1) (f a cur).2) : Behaviour c := by
  cases hchecks : checks with
  | error e =>
      apply Behaviour.raises e
      intro m
      rw [hstep, hchecks]
      rfl
  | ok a =>
      cases hvalid : validatedTenantId context.tenantId with
      | error e =>
          apply Behaviour.raises e
          intro m
          rw [hstep, hchecks]
          simp only [bind, Except.bind, stateForContext_of_error hvalid]
          rfl
      | ok t =>
          rw [← hname] at hvalid
          refine Behaviour.serves t (tenantOf_eq_some_iff.mpr hvalid)
            (fun cur => (answer (f a cur).1, (f a cur).2)) (hserved a hchecks) ?_
          intro m
          rw [hname] at hvalid
          rw [hstep, hchecks]
          simp only [bind, Except.bind, stateForContext_of_valid hvalid]
          rfl

theorem behaviour_admitRequest (serviceName operation : String) :
    Behaviour ⟨now, retryNow, .admitRequest context serviceName operation⟩ := by
  refine behaviour_of_checks .decision (do
      let service ← normalizedToken serviceName "service_name"
      let operation ← normalizedToken operation "operation"
      return (service, operation))
    (fun names cur =>
      if cur.plan.requestLimit ≤ cur.requestsUsed then
        (decision false context cur (some "request_limit_exceeded")
          (max 1 (cur.windowStartedAt + cur.plan.windowSeconds - retryNow)) (some names.1)
          names.2 "request", cur)
      else
        (decision true context { cur with requestsUsed := cur.requestsUsed + 1 } none 0
          (some names.1) names.2 "request", { cur with requestsUsed := cur.requestsUsed + 1 }))
    rfl (fun m => ?_) (fun names _ cur => ?_)
  · simp only [step, admitRequest]
    cases normalizedToken serviceName "service_name" with
    | error e => rfl
    | ok service =>
        cases normalizedToken operation "operation" with
        | error e => rfl
        | ok operation =>
            simp only [bind, Except.bind, pure, Except.pure]
            cases stateForContext m.plans now context m.states with
            | error e => rfl
            | ok r =>
                simp only
                split <;> rfl
  · by_cases hle : cur.plan.requestLimit ≤ cur.requestsUsed
    · simp only [if_pos hle]
      exact Served.requestDenied _ rfl hle
    · simp only [if_neg hle]
      exact Served.admitted _ rfl (Nat.lt_of_not_le hle)

theorem behaviour_acquireOperationSlot (operation : String) :
    Behaviour ⟨now, retryNow, .acquireOperationSlot context operation⟩ := by
  refine behaviour_of_checks .decision (normalizedToken operation "operation")
    (fun operation cur =>
      if cur.plan.concurrentOperations ≤ cur.concurrentOperations then
        (decision false context cur (some "concurrency_limit_exceeded") 1 none operation
          "concurrent_operation", cur)
      else
        (decision true context
          { cur with concurrentOperations := cur.concurrentOperations + 1 } none 0 none operation
          "concurrent_operation", { cur with concurrentOperations := cur.concurrentOperations + 1 }))
    rfl (fun m => ?_) (fun operation _ cur => ?_)
  · simp only [step, acquireOperationSlot]
    cases normalizedToken operation "operation" with
    | error e => rfl
    | ok operation =>
        simp only [bind, Except.bind, pure, Except.pure]
        cases stateForContext m.plans now context m.states with
        | error e => rfl
        | ok r =>
            simp only
            split <;> rfl
  · by_cases hle : cur.plan.concurrentOperations ≤ cur.concurrentOperations
    · simp only [if_pos hle]
      exact Served.denied _ rfl .operations 1
    · simp only [if_neg hle]
      exact Served.granted _ rfl .operations 1 (Nat.lt_of_not_le hle)

theorem behaviour_releaseOperationSlot (operation : String) :
    Behaviour ⟨now, retryNow, .releaseOperationSlot context operation⟩ := by
  refine behaviour_of_checks .snapshot (normalizedToken operation "operation")
    (fun _ cur =>
      (snapshotOf context.tenantId
        { cur with concurrentOperations := cur.concurrentOperations - 1 },
        { cur with concurrentOperations := cur.concurrentOperations - 1 }))
    rfl (fun m => ?_) (fun operation _ cur => Served.released _ rfl .operations 1)
  simp only [step, releaseOperationSlot]
  cases normalizedToken operation "operation" with
  | error e => rfl
  | ok operation => rfl

theorem positiveAmount_eq_ok {amount : ℤ} {label : String} {n : ℕ}
    (h : positiveAmount amount label = .ok n) : amount.toNat = n := by
  unfold positiveAmount at h
  split at h
  · cases h
  · cases h
    rfl

theorem behaviour_reserveQueueItems (queueName : String) (amount : ℤ) :
    Behaviour ⟨now, retryNow, .reserveQueueItems context queueName amount⟩ := by
  refine behaviour_of_checks .decision (do
      let queue ← normalizedToken queueName "queue_name"
      let n ← positiveAmount amount "amount"
      return (queue, n))
    (fun a cur =>
      if cur.plan.queueDepth < cur.queueItems + a.2 then
        (amountDecision false context cur (some "queue_depth_exceeded") 1 (some a.1) "queue" a.2,
          cur)
      else
        (amountDecision true context { cur with queueItems := cur.queueItems + a.2 } none 0
          (some a.1) "queue" a.2, { cur with queueItems := cur.queueItems + a.2 }))
    rfl (fun m => ?_) (fun a ha cur => ?_)
  · simp only [step, reserveQueueItems]
    cases normalizedToken queueName "queue_name" with
    | error e => rfl
    | ok queue =>
        cases positiveAmount amount "amount" with
        | error e => rfl
        | ok n =>
            simp only [bind, Except.bind, pure, Except.pure]
            cases stateForContext m.plans now context m.states with
            | error e => rfl
            | ok r =>
                simp only
                split <;> rfl
  · simp only [bind_eq_ok_iff] at ha
    obtain ⟨queue, _, n, hn, hpure⟩ := ha
    cases hpure
    have hamount : amount.toNat = n := positiveAmount_eq_ok hn
    simp only [ResourceCall.demand, hamount]
    by_cases hlt : cur.plan.queueDepth < cur.queueItems + n
    · simp only [if_pos hlt]
      exact Served.denied _ rfl .queueItems n
    · simp only [if_neg hlt]
      exact Served.granted _ rfl .queueItems n (Nat.le_of_not_lt hlt)

theorem behaviour_releaseQueueItems (queueName : String) (amount : ℤ) :
    Behaviour ⟨now, retryNow, .releaseQueueItems context queueName amount⟩ := by
  refine behaviour_of_checks .snapshot (do
      let _ ← normalizedToken queueName "queue_name"
      positiveAmount amount "amount")
    (fun n cur =>
      (snapshotOf context.tenantId { cur with queueItems := cur.queueItems - n },
        { cur with queueItems := cur.queueItems - n }))
    rfl (fun m => ?_) (fun n hn cur => ?_)
  · simp only [step, releaseQueueItems]
    cases normalizedToken queueName "queue_name" with
    | error e => rfl
    | ok queue => rfl
  · rw [bind_eq_ok_iff] at hn
    obtain ⟨_, _, hn⟩ := hn
    simp only [ResourceCall.demand, positiveAmount_eq_ok hn]
    exact Served.released _ rfl .queueItems n

theorem behaviour_reserveStorageBytes (amount : ℤ) (resourceType : String) :
    Behaviour ⟨now, retryNow, .reserveStorageBytes context amount resourceType⟩ := by
  refine behaviour_of_checks .decision (do
      let n ← positiveAmount amount "amount"
      let resource ← normalizedToken resourceType "resource_type"
      return (n, resource))
    (fun a cur =>
      if cur.plan.storageBytes < cur.storageBytesUsed + a.1 then
        (amountDecision false context cur (some "storage_quota_exceeded") 0 none a.2 a.1, cur)
      else
        (amountDecision true context { cur with storageBytesUsed := cur.storageBytesUsed + a.1 }
          none 0 none a.2 a.1, { cur with storageBytesUsed := cur.storageBytesUsed + a.1 }))
    rfl (fun m => ?_) (fun a ha cur => ?_)
  · simp only [step, reserveStorageBytes]
    cases positiveAmount amount "amount" with
    | error e => rfl
    | ok n =>
        cases normalizedToken resourceType "resource_type" with
        | error e => rfl
        | ok resource =>
            simp only [bind, Except.bind, pure, Except.pure]
            cases stateForContext m.plans now context m.states with
            | error e => rfl
            | ok r =>
                simp only
                split <;> rfl
  · simp only [bind_eq_ok_iff] at ha
    obtain ⟨n, hn, resource, _, hpure⟩ := ha
    cases hpure
    have hamount : amount.toNat = n := positiveAmount_eq_ok hn
    simp only [ResourceCall.demand, hamount]
    by_cases hlt : cur.plan.storageBytes < cur.storageBytesUsed + n
    · simp only [if_pos hlt]
      exact Served.denied _ rfl .storageBytes n
    · simp only [if_neg hlt]
      exact Served.granted _ rfl .storageBytes n (Nat.le_of_not_lt hlt)

theorem behaviour_releaseStorageBytes (amount : ℤ) (resourceType : String) :
    Behaviour ⟨now, retryNow, .releaseStorageBytes context amount resourceType⟩ := by
  refine behaviour_of_checks .snapshot (do
      let _ ← normalizedToken resourceType "resource_type"
      positiveAmount amount "amount")
    (fun n cur =>
      (snapshotOf context.tenantId { cur with storageBytesUsed := cur.storageBytesUsed - n },
        { cur with storageBytesUsed := cur.storageBytesUsed - n }))
    rfl (fun m => ?_) (fun n hn cur => ?_)
  · simp only [step, releaseStorageBytes]
    cases normalizedToken resourceType "resource_type" with
    | error e => rfl
    | ok resource => rfl
  · rw [bind_eq_ok_iff] at hn
    obtain ⟨_, _, hn⟩ := hn
    simp only [ResourceCall.demand, positiveAmount_eq_ok hn]
    exact Served.released _ rfl .storageBytes n

theorem behaviour_snapshot : Behaviour ⟨now, retryNow, .snapshot context⟩ := by
  apply behaviour_of_checks ResourceAnswer.snapshot (.ok ())
    (fun (_ : Unit) cur => (snapshotOf context.tenantId cur, cur)) rfl
  · intro m
    simp only [step, snapshot]
    cases stateForContext m.plans now context m.states with
    | error e => rfl
    | ok r => rfl
  · intro _ _ cur
    exact Served.shown _ rfl

theorem behaviour_planForTenant (name : String) :
    Behaviour ⟨now, retryNow, .planForTenant name⟩ := by
  cases hvalid : validatedTenantId name with
  | error e =>
      apply Behaviour.raises e
      intro m
      simp only [step, planForTenant, hvalid]
      rfl
  | ok t =>
      refine Behaviour.plans t (tenantOf_eq_some_iff.mpr hvalid) fun m => ?_
      simp only [step, planForTenant, hvalid]
      rfl

theorem behaviour_configureTenant (name : String) (plan : TenantResourcePlan) :
    Behaviour ⟨now, retryNow, .configureTenant name plan⟩ := by
  cases hvalid : validatedTenantId name with
  | error e =>
      apply Behaviour.raises e
      intro m
      simp only [step, configureTenant, hvalid]
      rfl
  | ok t =>
      refine Behaviour.configures t plan (tenantOf_eq_some_iff.mpr hvalid) rfl fun m => ?_
      simp only [step, configureTenant, hvalid, withPlan, bind, Except.bind]
      cases m.states.get? t with
      | none => rfl
      | some s => rfl

theorem behaviour (c : TimedCall) : Behaviour c := by
  obtain ⟨now, retryNow, call⟩ := c
  cases call with
  | configureTenant name plan => exact behaviour_configureTenant name plan
  | planForTenant name => exact behaviour_planForTenant name
  | admitRequest context serviceName operation =>
      exact behaviour_admitRequest serviceName operation
  | acquireOperationSlot context operation => exact behaviour_acquireOperationSlot operation
  | releaseOperationSlot context operation => exact behaviour_releaseOperationSlot operation
  | reserveQueueItems context queueName amount => exact behaviour_reserveQueueItems queueName amount
  | releaseQueueItems context queueName amount => exact behaviour_releaseQueueItems queueName amount
  | reserveStorageBytes context amount resourceType =>
      exact behaviour_reserveStorageBytes amount resourceType
  | releaseStorageBytes context amount resourceType =>
      exact behaviour_releaseStorageBytes amount resourceType
  | snapshot context => exact behaviour_snapshot

end Behaviours

end InMemoryTenantResourceManager

end MediaCenter.Shared
