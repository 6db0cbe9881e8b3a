import MediaCenter.Library.Interleaving
import MediaCenter.Model.Shared.Gateway

/-!
# The operation slots of the gateway

A request takes a slot before its downstream scope is built, and gives it back after the app
behind its route has ended.  Between the two it must reach that app.
-/

set_option autoImplicit false

namespace MediaCenter.Shared

open MediaCenter.Library

/-! ## What the resource manager counts -/

/-- `concurrent_operations` of a tenant. -/
def concurrentOperations (states : TenantResourceStates) (tenantId : String) : ℕ :=
  ((states.get? tenantId).map TenantResourceState.concurrentOperations).getD 0

theorem concurrentOperations_set (states : TenantResourceStates) (tenantId tenantId' : String)
    (state : TenantResourceState) :
    concurrentOperations (states.set tenantId state) tenantId' =
      if tenantId' = tenantId then state.concurrentOperations
      else concurrentOperations states tenantId' := by
  unfold concurrentOperations
  rw [Dict.get?_set]
  split <;> rfl

theorem concurrentOperations_currentState (plan : TenantResourcePlan) (now : ℤ)
    (states : TenantResourceStates) (tenantId : String) :
    (InMemoryTenantResourceManager.currentState plan now
      (states.get? tenantId)).concurrentOperations = concurrentOperations states tenantId := by
  unfold concurrentOperations InMemoryTenantResourceManager.currentState
  cases states.get? tenantId with
  | none => rfl
  | some state =>
      simp only [InMemoryTenantResourceManager.rollWindowIfNeeded]
      split <;> rfl

namespace InMemoryTenantResourceManager

theorem stateForContext_eq_ok {plans : TenantResourcePlans} {now : ℤ} {context : TenantContext}
    {states : TenantResourceStates} {tenantId : String} {state : TenantResourceState}
    (h : stateForContext plans now context states = .ok (tenantId, state)) :
    validatedTenantId context.tenantId = .ok tenantId ∧
      state.concurrentOperations = concurrentOperations states tenantId := by
  unfold stateForContext at h
  rw [bind_eq_ok_iff] at h
  obtain ⟨tenantId', hvalid, hpure⟩ := h
  cases hpure
  exact ⟨hvalid, concurrentOperations_currentState _ _ _ _⟩

/-- INTERNAL: admitting a request leaves the slots as they are. -/
theorem concurrentOperations_admitRequest {plans : TenantResourcePlans} {now retryNow : ℤ}
    {context : TenantContext} {serviceName operation : String}
    {states states' : TenantResourceStates} {d : TenantResourceDecision}
    (h : admitRequest plans now retryNow context serviceName operation states = .ok (d, states'))
    (t : String) : concurrentOperations states' t = concurrentOperations states t := by
  unfold admitRequest at h
  simp only [bind_eq_ok_iff, Prod.exists] at h
  obtain ⟨_, _, _, _, tenantId, state, hstate, hpure⟩ := h
  have hcount := (stateForContext_eq_ok hstate).2
  split at hpure
  · cases hpure
    rw [concurrentOperations_set]
    split
    · rename_i ht
      rw [ht, hcount]
    · rfl
  · cases hpure
    rw [concurrentOperations_set]
    split
    · rename_i ht
      rw [ht]
      exact hcount
    · rfl

/-- INTERNAL: a slot that is granted is counted for the tenant it is granted to. -/
theorem concurrentOperations_acquireOperationSlot {plans : TenantResourcePlans} {now : ℤ}
    {context : TenantContext} {operation : String} {states states' : TenantResourceStates}
    {d : TenantResourceDecision}
    (h : acquireOperationSlot plans now context operation states = .ok (d, states')) :
    (∃ normalized, normalizedToken operation "operation" = .ok normalized) ∧
      ∃ tenantId, validatedTenantId context.tenantId = .ok tenantId ∧
        ∀ t, concurrentOperations states' t = concurrentOperations states t +
          if d.allowed = true ∧ t = tenantId then 1 else 0 := by
  unfold acquireOperationSlot at h
  simp only [bind_eq_ok_iff, Prod.exists] at h
  obtain ⟨normalized, hnormalized, tenantId, state, hstate, hpure⟩ := h
  obtain ⟨hvalid, hcount⟩ := stateForContext_eq_ok hstate
  refine ⟨⟨normalized, hnormalized⟩, tenantId, hvalid, fun t => ?_⟩
  split at hpure
  · cases hpure
    simp only [decision, Bool.false_eq_true, false_and, if_false, Nat.add_zero]
    rw [concurrentOperations_set]
    split
    · rename_i ht
      rw [ht, hcount]
    · rfl
  · cases hpure
    simp only [decision, true_and]
    rw [concurrentOperations_set]
    by_cases ht : t = tenantId
    · rw [if_pos ht, if_pos ht, hcount, ht]
    · rw [if_neg ht, if_neg ht, Nat.add_zero]

/-- INTERNAL: what could be acquired can be released. -/
theorem releaseOperationSlot_eq_ok (plans : TenantResourcePlans) {context : TenantContext}
    {operation normalized tenantId : String}
    (hoperation : normalizedToken operation "operation" = .ok normalized)
    (hvalid : validatedTenantId context.tenantId = .ok tenantId) (now : ℤ)
    (states : TenantResourceStates) :
    ∃ snapshot states', releaseOperationSlot plans now context operation states =
        .ok (snapshot, states') ∧
      ∀ t, concurrentOperations states' t = concurrentOperations states t -
        if t = tenantId then 1 else 0 := by
  unfold releaseOperationSlot stateForContext
  rw [hoperation, hvalid]
  refine ⟨_, _, rfl, fun t => ?_⟩
  rw [concurrentOperations_set]
  split
  · rename_i ht
    rw [ht, concurrentOperations_currentState]
  · rw [Nat.sub_zero]

end InMemoryTenantResourceManager

/-! ## One request -/

/-- INTERNAL: a program that only sends messages, and returns what meets `P`. -/
inductive SendsOnly {α : Type} (P : α → Prop) : GatewayCoroutine α → Prop where
  | ret (a : α) (h : P a) : SendsOnly P (.ret a)
  | raise (e : GatewayException) : SendsOnly P (.raise e)
  | send (message : ASGIMessage) (k : GatewayInterface.Answer (.send message) → GatewayCoroutine α)
      (h : ∀ answer, SendsOnly P (k answer)) : SendsOnly P (.await (.send message) k)

abbrev GatewayPause : Type :=
  Coroutine.Pause GatewayInterface GatewayState GatewayException Unit

/-- A call at rest outside the downstream app, that only sends messages from then on. -/
def IsAnswering (p : GatewayPause) : Prop :=
  match p with
  | .finished _ => True
  | .suspended (.send _) k => ∀ answer, SendsOnly (fun _ => True) (k answer)
  | .suspended (.downstream _ _) _ => False

theorem SendsOnly.bind {α β : Type} {P : α → Prop} {Q : β → Prop} {x : GatewayCoroutine α}
    (hx : SendsOnly P x) {f : α → GatewayCoroutine β} (hf : ∀ a, P a → SendsOnly Q (f a)) :
    SendsOnly Q (x >>= f) := by
  induction hx with
  | ret a h => exact hf a h
  | raise e => exact .raise e
  | send message k _ ih => exact .send message _ ih

theorem SendsOnly.ofExcept {α : Type} (x : Except GatewayException α) :
    SendsOnly (fun _ => True) (Coroutine.ofExcept x) := by
  cases x with
  | error e => exact .raise e
  | ok a => exact .ret a trivial

/-- INTERNAL: such a program leaves the state as it is, and goes on as one. -/
theorem SendsOnly.advance {x : GatewayCoroutine Unit} (hx : SendsOnly (fun _ => True) x)
    (s : GatewayState) : (x.advance s).2 = s ∧ IsAnswering (x.advance s).1 := by
  cases hx with
  | ret a => exact ⟨rfl, trivial⟩
  | raise e => exact ⟨rfl, trivial⟩
  | send message k h => exact ⟨rfl, h⟩

theorem sendsOnly_sendError (py : Stdlib) (error : TenantCoreError) :
    SendsOnly (fun _ => True) (sendError py error) := by
  unfold sendError
  refine (SendsOnly.ofExcept _).bind fun response _ => ?_
  refine SendsOnly.bind (.send _ _ fun answer => .ofExcept answer) fun _ _ => ?_
  exact .send _ _ fun answer => .ofExcept answer

/-- INTERNAL: what the limits leave of a request: a slot taken for its tenant, or nothing. -/
def AdmissionSpec (gateway : APIGateway) (r : GatewayRequest)
    (result : Except GatewayException Admission) (s s' : GatewayState) : Prop :=
  match result with
  | .error _ => ∀ t, concurrentOperations s'.resources t = concurrentOperations s.resources t
  | .ok a => r.context = some a.context ∧ (gateway.resourceManager.isSome →
      a.operationSlotAcquired = true ∧
      (∃ normalized, InMemoryTenantResourceManager.normalizedToken a.operationName "operation" =
        .ok normalized) ∧
      ∃ tenantId, InMemoryTenantResourceManager.validatedTenantId a.context.tenantId =
          .ok tenantId ∧
        ∀ t, concurrentOperations s'.resources t = concurrentOperations s.resources t +
          if t = tenantId then 1 else 0)

section Admission

variable {α : Type} {R : GatewayState → GatewayState → Prop}
  {Φ : Resumption GatewayInterface → GatewayState → GatewayState → Prop}
  {started : Resumption GatewayInterface} {s₀ s : GatewayState}

theorem wp_withResources
    {f : TenantResourceStates → Except SharedException (α × TenantResourceStates)}
    {Q : Except GatewayException α → Resumption GatewayInterface → GatewayState →
      GatewayState → Prop}
    (hok : ∀ a resources, f s.resources = .ok (a, resources) →
      Q (.ok a) started s₀ { s with resources := resources })
    (herror : ∀ e, Q (.error e) started s₀ s) :
    (withResources f).wp R Φ Q started s₀ s := by
  unfold withResources
  rw [Coroutine.wp_update]
  cases hf : f s.resources with
  | error e => exact herror _
  | ok result => exact hok result.1 result.2 hf

theorem wp_checkRateLimit {gateway : APIGateway} {r : GatewayRequest} {context : TenantContext}
    {route : GatewayRoute}
    {Q : Except GatewayException RateLimitDecision → Resumption GatewayInterface →
      GatewayState → GatewayState → Prop}
    (hok : ∀ decision s', s'.resources = s.resources → Q (.ok decision) started s₀ s')
    (herror : ∀ e, Q (.error e) started s₀ s) :
    (gateway.checkRateLimit r context route).wp R Φ Q started s₀ s := by
  unfold APIGateway.checkRateLimit
  rw [Coroutine.wp_update]
  cases InMemoryRateLimiter.check gateway.rateLimitPolicy r.limiterNow
      (rateLimitKey context.tenantId context.subject route.serviceName) s.windows with
  | error e => exact herror _
  | ok result => exact hok result.1 _ rfl

/-- INTERNAL: the quotas of a tenant take a slot, or refuse the request. -/
theorem wp_admitResources {plans : TenantResourcePlans} {r : GatewayRequest}
    {context : TenantContext} {route : GatewayRoute} {operation : String}
    {Q : Except GatewayException Unit → Resumption GatewayInterface → GatewayState →
      GatewayState → Prop}
    (hok : ∀ s', (∃ normalized, InMemoryTenantResourceManager.normalizedToken operation
        "operation" = .ok normalized) →
      (∃ tenantId, InMemoryTenantResourceManager.validatedTenantId context.tenantId =
          .ok tenantId ∧
        ∀ t, concurrentOperations s'.resources t = concurrentOperations s.resources t +
          if t = tenantId then 1 else 0) → Q (.ok ()) started s₀ s')
    (herror : ∀ e s', (∀ t, concurrentOperations s'.resources t =
      concurrentOperations s.resources t) → Q (.error e) started s₀ s') :
    (APIGateway.admitResources r plans context route operation).wp R Φ Q started s₀ s := by
  unfold APIGateway.admitResources
  rw [Coroutine.wp_bind]
  refine wp_withResources (fun requestDecision resources hadmit => ?_)
    fun e => herror e s fun _ => rfl
  have hkept := InMemoryTenantResourceManager.concurrentOperations_admitRequest hadmit
  rw [Coroutine.andThen_ok]
  by_cases hrequest : requestDecision.allowed = false
  · rw [if_pos hrequest, Coroutine.wp_bind, Coroutine.wp_throw, Coroutine.andThen_error]
    exact herror _ { s with resources := resources } hkept
  · rw [if_neg hrequest, Coroutine.wp_bind]
    refine wp_withResources (fun operationDecision resources' hacquire => ?_)
      fun e => herror e { s with resources := resources } hkept
    obtain ⟨hoperation, tenantId, hvalid, hcount⟩ :=
      InMemoryTenantResourceManager.concurrentOperations_acquireOperationSlot hacquire
    rw [Coroutine.andThen_ok]
    by_cases hallowed : operationDecision.allowed = false
    · rw [if_pos hallowed, Coroutine.wp_throw]
      refine herror _ { s with resources := resources' } fun t => ?_
      show concurrentOperations resources' t = _
      rw [hcount, hallowed, if_neg (fun h => Bool.false_ne_true h.1), Nat.add_zero]
      exact hkept t
    · rw [if_neg hallowed, Coroutine.wp_pure]
      rw [Bool.not_eq_false] at hallowed
      refine hok { s with resources := resources' } hoperation ⟨tenantId, hvalid, fun t => ?_⟩
      show concurrentOperations resources' t = _
      rw [hcount, hallowed, ← hkept]
      simp only [true_and]

end Admission

theorem requireTenantContext_eq_ok {context : Option TenantContext} {verified : TenantContext}
    (h : requireTenantContext context = .ok verified) : context = some verified := by
  unfold requireTenantContext at h
  cases context with
  | none => cases h
  | some context =>
      cases h
      rfl

theorem admission_spec (py : Stdlib) (gateway : APIGateway) (r : GatewayRequest)
    (s : GatewayState) : ∃ result s', (gateway.admission py r).advance s =
      (.finished result, s') ∧ AdmissionSpec gateway r result s s' := by
  have hwp : (gateway.admission py r).wp Eq (fun _ _ _ => False)
      (fun result _ s₀ s => AdmissionSpec gateway r result s₀ s) none s s := by
    unfold APIGateway.admission
    rw [Coroutine.wp_bind, Coroutine.wp_ofExcept]
    cases hcontext : requireTenantContext r.context with
    | error e => exact fun _ => rfl
    | ok context =>
        have hverified := requireTenantContext_eq_ok hcontext
        rw [Coroutine.andThen_ok, Coroutine.wp_bind, Coroutine.wp_ofExcept]
        cases gateway.routeForScope r.scope context with
        | error e => exact fun _ => rfl
        | ok route =>
            rw [Coroutine.andThen_ok]
            simp only
            rw [Coroutine.wp_bind]
            refine wp_checkRateLimit (fun decision s' hs' => ?_) fun e _ => rfl
            rw [Coroutine.andThen_ok]
            have hkept : ∀ t, concurrentOperations s'.resources t =
                concurrentOperations s.resources t := fun t => by rw [hs']
            by_cases hallowed : decision.allowed = false
            · rw [if_pos hallowed, Coroutine.wp_bind, Coroutine.wp_throw,
                Coroutine.andThen_error]
              exact hkept
            · rw [if_neg hallowed]
              cases hmanager : gateway.resourceManager with
              | none =>
                  simp only
                  rw [Coroutine.wp_pure]
                  exact ⟨hverified, fun h => by rw [hmanager] at h; cases h⟩
              | some plans =>
                  simp only
                  rw [Coroutine.wp_bind]
                  refine wp_admitResources (fun s'' hoperation hslot => ?_)
                    fun e s'' hs'' t => ?_
                  · rw [Coroutine.andThen_ok, Coroutine.wp_pure]
                    simp only [hs'] at hslot
                    exact ⟨hverified, fun _ => ⟨rfl, hoperation, hslot⟩⟩
                  · rw [hs'', hs']
  have hadvance := Coroutine.wp_advance _ _ _ _ hwp
  rcases heq : (gateway.admission py r).advance s with ⟨p, s'⟩
  rw [heq] at hadvance
  cases p with
  | finished result => exact ⟨result, s', rfl, hadvance⟩
  | suspended q k => exact absurd hadvance.1 id

/-- Signing the request for the app behind its route raises. -/
def SigningFails (gateway : APIGateway) (r : GatewayRequest) (route : GatewayRoute) : Prop :=
  ∃ auth e, gateway.s2sAuth = some auth ∧
    auth.signRequest r.signing (scopeString r.scope.method)
      (route.downstreamPath (scopeString r.scope.path)) gateway.sourceServiceName = .error e

/-- INTERNAL: building the downstream scope fails exactly where signing does. -/
theorem downstreamScope_spec (py : Stdlib) (gateway : APIGateway) (r : GatewayRequest)
    (route : GatewayRoute) (context : TenantContext) :
    (SigningFails gateway r route ∧
      ∃ e, gateway.downstreamScope py r route context = .error e) ∨
    (¬ SigningFails gateway r route ∧
      ∃ scope, gateway.downstreamScope py r route context = .ok scope) := by
  unfold APIGateway.downstreamScope downstreamHeaders signedDownstreamHeaders SigningFails
  cases hauth : gateway.s2sAuth with
  | none =>
      refine .inr ⟨?_, _, rfl⟩
      rintro ⟨_, _, h, _⟩
      cases h
  | some auth =>
      cases hsign : auth.signRequest r.signing (scopeString r.scope.method)
          (route.downstreamPath (scopeString r.scope.path)) gateway.sourceServiceName with
      | error e =>
          refine .inl ⟨⟨auth, e, rfl, hsign⟩, e, ?_⟩
          simp only [hsign, bind, Except.bind]
      | ok headers =>
          obtain ⟨signed, hsigned, _⟩ := exists_signedHeaderBytes py (auth.names_mem _ _ _ _ _ hsign)
          refine .inr ⟨?_, ?_⟩
          · rintro ⟨auth', e, heq, herror⟩
            cases heq
            rw [hsign] at herror
            cases herror
          · simp only [hsign, hsigned, bind, Except.bind, pure, Except.pure]
            exact ⟨_, rfl⟩

/-- The request takes a slot, and then fails before it reaches the app. -/
def LosesSlot (py : Stdlib) (gateway : APIGateway) (r : GatewayRequest) (s : GatewayState) :
    Prop :=
  r.scope.type = some "http" ∧
    ∃ a s', (gateway.admission py r).advance s = (.finished (.ok a), s') ∧
      SigningFails gateway r a.route

/-- The request holds a slot of the tenant, which its `finally` will give back. -/
structure HoldsSlot (r : GatewayRequest) (a : Admission) (tenantId : String) : Prop where
  context : r.context = some a.context
  acquired : a.operationSlotAcquired = true
  operation : ∃ normalized, InMemoryTenantResourceManager.normalizedToken a.operationName
    "operation" = .ok normalized
  tenantId : InMemoryTenantResourceManager.validatedTenantId a.context.tenantId = .ok tenantId

/-- A call at rest in the downstream app. -/
def IsInside (gateway : APIGateway) (r : GatewayRequest) (tenantId : String) (p : GatewayPause) :
    Prop :=
  ∃ route scope k a, p = .suspended (.downstream route scope) k ∧ HoldsSlot r a tenantId ∧
    ∀ answer, k answer = (do
      gateway.releaseSlot r a
      Coroutine.ofExcept answer)

/-- INTERNAL: what the first segment of a request does. -/
inductive CallSpec (py : Stdlib) (gateway : APIGateway) (r : GatewayRequest)
    (s : GatewayState) : GatewayPause × GatewayState → Prop where
  /-- It is answered without a slot. -/
  | answered (p : GatewayPause) (s' : GatewayState) (hp : IsAnswering p)
      (hloses : ¬ LosesSlot py gateway r s)
      (hcount : ∀ t, concurrentOperations s'.resources t = concurrentOperations s.resources t) :
      CallSpec py gateway r s (p, s')
  /-- It takes a slot and reaches the app. -/
  | entered (p : GatewayPause) (s' : GatewayState) (tenantId : String)
      (hp : IsInside gateway r tenantId p) (hloses : ¬ LosesSlot py gateway r s)
      (hcount : ∀ t, concurrentOperations s'.resources t =
        concurrentOperations s.resources t + if t = tenantId then 1 else 0) :
      CallSpec py gateway r s (p, s')
  /-- It takes a slot and loses it. -/
  | lost (p : GatewayPause) (s' : GatewayState) (tenantId : String) (hp : IsAnswering p)
      (hloses : LosesSlot py gateway r s)
      (hcount : ∀ t, concurrentOperations s'.resources t =
        concurrentOperations s.resources t + if t = tenantId then 1 else 0) :
      CallSpec py gateway r s (p, s')

section Call

variable (py : Stdlib) {gateway : APIGateway} (r : GatewayRequest)

/-- INTERNAL: what the first `try` raises is answered, or ends the request. -/
theorem handled_advance (gateway : APIGateway) (e : GatewayException) (s : GatewayState) :
    ((APIGateway.answerCoreError py e >>= gateway.forward r).advance s).2 = s ∧
      IsAnswering ((APIGateway.answerCoreError py e >>= gateway.forward r).advance s).1 := by
  apply SendsOnly.advance
  have hnone : ∀ o, o = none → SendsOnly (fun _ => True) (gateway.forward r o) := by
    rintro o rfl
    exact .ret () trivial
  cases e with
  | core error =>
      exact ((sendsOnly_sendError py error).bind (Q := fun o => o = none)
        fun _ _ => .ret none rfl).bind hnone
  | shared e => exact .raise _
  | s2s e => exact .raise _
  | other name => exact .raise _

/-- INTERNAL: a request that reaches the app waits there, and gives its slot back then. -/
theorem forward_advance {a : Admission} {tenantId : String} (ha : HoldsSlot r a tenantId)
    (scope : ASGIScope) (s : GatewayState) :
    ((gateway.forward r (some (a, scope))).advance s).2 = s ∧
      IsInside gateway r tenantId ((gateway.forward r (some (a, scope))).advance s).1 := by
  have hsettle : (Coroutine.settle (Coroutine.attempt (.downstream a.route scope)) :
      GatewayCoroutine (Except GatewayException Unit)).advance s =
        (.suspended (.downstream a.route scope) fun answer =>
          (Coroutine.ofExcept answer : GatewayCoroutine Unit).settle, s) :=
    Coroutine.advance_settle_of_suspended rfl
  unfold APIGateway.forward
  rw [Coroutine.advance_bind, hsettle]
  refine ⟨rfl, a.route, scope, _, a, rfl, ha, fun answer => ?_⟩
  simp only [Coroutine.settle_ofExcept]
  rfl

theorem call_spec {plans : TenantResourcePlans} (hplans : gateway.resourceManager = some plans)
    (s : GatewayState) : CallSpec py gateway r s ((gateway.call py r).advance s) := by
  unfold APIGateway.call
  by_cases htype : r.scope.type ≠ some "http"
  · rw [if_pos htype]
    obtain ⟨hs, hp⟩ := (sendsOnly_sendError py
      (.routeNotFound (scopeString r.scope.path) none)).advance s
    exact .answered _ _ hp (fun hloses => htype hloses.1) fun t => by rw [hs]
  rw [if_neg htype, Coroutine.advance_bind]
  unfold APIGateway.enter
  rw [Coroutine.advance_tryCatch, Coroutine.advance_bind]
  obtain ⟨result, s', hadmission, hspec⟩ := admission_spec py gateway r s
  rw [hadmission]
  cases result with
  | error e =>
      have hloses : ¬ LosesSlot py gateway r s := by
        rintro ⟨_, a, s'', hok, _⟩
        rw [hadmission] at hok
        cases hok
      obtain ⟨hs, hp⟩ := handled_advance py r gateway e s'
      rw [Coroutine.advance_bind] at hs hp
      exact .answered _ _ hp hloses fun t =>
        (congrArg (fun s => concurrentOperations s.resources t) hs).trans (hspec t)
  | ok a =>
      obtain ⟨hcontext, hslot⟩ := hspec
      obtain ⟨hacquired, hoperation, tenantId, hvalid, hcount⟩ := hslot (by rw [hplans]; rfl)
      rcases downstreamScope_spec py gateway r a.route a.context with
        ⟨hfails, e, hscope⟩ | ⟨hsigns, scope, hscope⟩
      · have hloses : LosesSlot py gateway r s := ⟨not_not.mp htype, a, s', hadmission, hfails⟩
        obtain ⟨hs, hp⟩ := handled_advance py r gateway e s'
        rw [Coroutine.advance_bind] at hs hp
        simp only [Coroutine.Pause.andThen, hscope]
        exact .lost _ _ tenantId hp hloses fun t =>
          (congrArg (fun s => concurrentOperations s.resources t) hs).trans (hcount t)
      · have hloses : ¬ LosesSlot py gateway r s := by
          rintro ⟨_, a', s'', hok, hfails⟩
          rw [hadmission] at hok
          cases hok
          exact hsigns hfails
        obtain ⟨hs, hp⟩ := forward_advance r ⟨hcontext, hacquired, hoperation, hvalid⟩ scope s'
        simp only [Coroutine.Pause.andThen, hscope]
        exact .entered _ _ tenantId hp hloses fun t =>
          (congrArg (fun s => concurrentOperations s.resources t) hs).trans (hcount t)

/-- INTERNAL: leaving the app gives the slot back and ends the request. -/
theorem leave_advance {plans : TenantResourcePlans} (hplans : gateway.resourceManager = some plans)
    {a : Admission} {tenantId : String} (ha : HoldsSlot r a tenantId)
    (answer : Except GatewayException Unit) (s : GatewayState) :
    ∃ result s', (do
        gateway.releaseSlot r a
        Coroutine.ofExcept answer : GatewayCoroutine Unit).advance s = (.finished result, s') ∧
      ∀ t, concurrentOperations s'.resources t =
        concurrentOperations s.resources t - if t = tenantId then 1 else 0 := by
  obtain ⟨normalized, hoperation⟩ := ha.operation
  obtain ⟨snapshot, states, hok, hcount⟩ :=
    InMemoryTenantResourceManager.releaseOperationSlot_eq_ok plans hoperation ha.tenantId
      (r.managerNow 3) s.resources
  have hrelease : (gateway.releaseSlot r a).advance s =
      (.finished (.ok ()), { s with resources := states }) := by
    unfold APIGateway.releaseSlot withResources
    simp only [hplans, if_pos ha.acquired]
    rw [Coroutine.advance_bind, Coroutine.advance_update, hok]
    rfl
  refine ⟨answer, { s with resources := states }, ?_, hcount⟩
  rw [Coroutine.advance_bind, hrelease]
  simp only [Coroutine.Pause.andThen]
  exact Coroutine.advance_ofExcept answer _

end Call

/-! ## Runs -/

abbrev GatewayConfig : Type :=
  Config GatewayRequest GatewayInterface GatewayState GatewayException Unit

abbrev GatewayTask : Type :=
  Task GatewayRequest GatewayInterface GatewayState GatewayException Unit

/-- The task is a request of the tenant that is inside the downstream app. -/
def isInsideDownstream (tenantId : String) (task : GatewayTask) : Bool :=
  match task.pause with
  | .suspended (.downstream _ _) _ =>
      decide (task.call.context.map (fun context => Text.strip context.tenantId) = some tenantId)
  | _ => false

/-- For every tenant, `concurrent_operations` is the number of its requests inside the
downstream app. -/
def SlotsConserved (c : GatewayConfig) : Prop :=
  ∀ tenantId, concurrentOperations c.shared.resources tenantId =
    c.tasks.countP (isInsideDownstream tenantId)

/-- No request that the step starts takes a slot and then fails before it reaches the app. -/
def KeepsSlot (py : Stdlib) (gateway : APIGateway) (c : GatewayConfig)
    (action : Action GatewayRequest GatewayInterface) : Prop :=
  ∀ r, action = .call r → ¬ LosesSlot py gateway r c.shared

/-- INTERNAL: where a call may rest. -/
def TaskFits (gateway : APIGateway) (task : GatewayTask) : Prop :=
  IsAnswering task.pause ∨ ∃ tenantId, IsInside gateway task.call tenantId task.pause

theorem isInsideDownstream_of_isAnswering (task : GatewayTask) (h : IsAnswering task.pause)
    (t : String) : isInsideDownstream t task = false := by
  unfold isInsideDownstream
  unfold IsAnswering at h
  split
  · rename_i hpause
    rw [hpause] at h
    exact absurd h id
  · rfl

theorem isInsideDownstream_of_isInside {gateway : APIGateway} (task : GatewayTask)
    {tenantId : String} (h : IsInside gateway task.call tenantId task.pause) (t : String) :
    isInsideDownstream t task = decide (t = tenantId) := by
  obtain ⟨route, scope, k, a, hpause, ha, _⟩ := h
  have hstrip : Text.strip a.context.tenantId = tenantId := by
    have hvalid := ha.tenantId
    unfold InMemoryTenantResourceManager.validatedTenantId at hvalid
    simp only at hvalid
    split at hvalid
    · cases hvalid
      rfl
    · cases hvalid
  unfold isInsideDownstream
  rw [hpause]
  simp only [ha.context, Option.map_some, hstrip, Option.some.injEq, eq_comm]

section Step

variable {py : Stdlib} {gateway : APIGateway} {plans : TenantResourcePlans}
  (hplans : gateway.resourceManager = some plans)

include hplans

/-- INTERNAL: an answer lets a request leave the app, with its slot, or changes no slot. -/
theorem resume_spec {r : GatewayRequest} {q : GatewayAwait}
    {rest : GatewayInterface.Answer q → GatewayCoroutine Unit}
    (hfits : TaskFits gateway ⟨r, .suspended q rest⟩) (answer : GatewayInterface.Answer q)
    (s : GatewayState) :
    IsAnswering ((rest answer).advance s).1 ∧
      ∀ t, concurrentOperations ((rest answer).advance s).2.resources t =
        concurrentOperations s.resources t -
          if isInsideDownstream t ⟨r, .suspended q rest⟩ then 1 else 0 := by
  rcases hfits with hanswering | ⟨tenantId, hinside⟩
  · have hnot := isInsideDownstream_of_isAnswering ⟨r, .suspended q rest⟩ hanswering
    cases q with
    | downstream route scope => exact absurd hanswering id
    | send message =>
        obtain ⟨hs, hp⟩ := (hanswering answer).advance s
        refine ⟨hp, fun t => ?_⟩
        rw [hs, hnot]
        rfl
  · have hcounted := isInsideDownstream_of_isInside ⟨r, .suspended q rest⟩ hinside
    obtain ⟨route, scope, k, a, hpause, ha, hk⟩ := hinside
    cases hpause
    obtain ⟨result, s', hadvance, hcount⟩ := leave_advance r hplans ha answer s
    rw [hk, hadvance]
    refine ⟨trivial, fun t => ?_⟩
    rw [hcount, hcounted]
    simp only [decide_eq_true_eq]

/-- INTERNAL: one step keeps the slots conserved exactly when it loses none. -/
theorem step_slotsConserved (c : GatewayConfig) (hfits : ∀ task ∈ c.tasks, TaskFits gateway task)
    (hconserved : SlotsConserved c) (action : Action GatewayRequest GatewayInterface) :
    (∀ task ∈ (Config.step (gateway.call py) c action).tasks, TaskFits gateway task) ∧
      (SlotsConserved (Config.step (gateway.call py) c action) ↔ KeepsSlot py gateway c action) := by
  cases action with
  | call r =>
      rw [Config.step_call]
      have hspec := call_spec py r hplans c.shared
      rcases hadvance : (gateway.call py r).advance c.shared with ⟨p, s'⟩
      rw [hadvance] at hspec
      let started : GatewayTask := ⟨r, p⟩
      have hcountP : ∀ t, (c.tasks ++ [started]).countP (isInsideDownstream t) =
          c.tasks.countP (isInsideDownstream t) +
            if isInsideDownstream t started then 1 else 0 := by
        intro t
        rw [List.countP_append, List.countP_singleton]
      have hmem : TaskFits gateway started →
          ∀ task ∈ c.tasks ++ [started], TaskFits gateway task := by
        intro hp task htask
        rw [List.mem_append, List.mem_singleton] at htask
        rcases htask with htask | rfl
        · exact hfits task htask
        · exact hp
      cases hspec with
      | answered _ _ hp hloses hcount =>
          refine ⟨hmem (.inl hp), iff_of_true (fun t => ?_) ?_⟩
          · show concurrentOperations s'.resources t = _
            rw [hcount, hcountP, isInsideDownstream_of_isAnswering _ hp, hconserved t]
            rfl
          · rintro r' heq
            cases heq
            exact hloses
      | entered _ _ tenantId hp hloses hcount =>
          refine ⟨hmem (.inr ⟨tenantId, hp⟩), iff_of_true (fun t => ?_) ?_⟩
          · show concurrentOperations s'.resources t = _
            rw [hcount, hcountP, isInsideDownstream_of_isInside _ hp, hconserved t]
            simp only [decide_eq_true_eq]
          · rintro r' heq
            cases heq
            exact hloses
      | lost _ _ tenantId hp hloses hcount =>
          refine ⟨hmem (.inl hp), iff_of_false (fun h => ?_) fun h => h r rfl hloses⟩
          have hslots : concurrentOperations s'.resources tenantId =
              (c.tasks ++ [started]).countP (isInsideDownstream tenantId) := h tenantId
          rw [hcount, hcountP, isInsideDownstream_of_isAnswering _ hp, hconserved tenantId,
            if_pos rfl] at hslots
          simp at hslots
  | resume i answer =>
      have hkeeps : KeepsSlot py gateway c (.resume i answer) := by
        intro r heq
        cases heq
      cases hpending : c.pending i with
      | none =>
          rw [Config.step_resume_of_pending_eq_none _ hpending]
          exact ⟨hfits, iff_of_true hconserved hkeeps⟩
      | some q =>
          obtain ⟨r, rest, hi⟩ := Config.exists_task_of_pending hpending
          have hlt : i < c.tasks.length := (List.getElem?_eq_some_iff.mp hi).1
          have hget : c.tasks[i] = ⟨r, .suspended q rest⟩ := (List.getElem?_eq_some_iff.mp hi).2
          have hold := hfits _ (List.mem_of_getElem? hi)
          obtain ⟨hp, hcount⟩ := resume_spec hplans hold (answer q) c.shared
          rw [Config.step_resume _ hi]
          refine ⟨fun task htask => ?_, iff_of_true (fun t => ?_) hkeeps⟩
          · rcases List.mem_or_eq_of_mem_set htask with htask | rfl
            · exact hfits task htask
            · exact .inl hp
          · show concurrentOperations ((rest (answer q)).advance c.shared).2.resources t =
              (c.tasks.set i ⟨r, ((rest (answer q)).advance c.shared).1⟩).countP
                (isInsideDownstream t)
            rw [hcount, List.countP_set hlt, hget, hconserved t,
              isInsideDownstream_of_isAnswering ⟨r, ((rest (answer q)).advance c.shared).1⟩ hp]
            rfl

/-- INTERNAL: a run from conserved slots keeps them at every point exactly when each of its
steps loses none. -/
theorem run_slotsConserved (c : GatewayConfig) (hfits : ∀ task ∈ c.tasks, TaskFits gateway task)
    (hconserved : SlotsConserved c) (actions : List (Action GatewayRequest GatewayInterface)) :
    (∀ l₁ l₂, actions = l₁ ++ l₂ → SlotsConserved (Config.run (gateway.call py) c l₁)) ↔
      Config.EveryStep (gateway.call py) (KeepsSlot py gateway) c actions := by
  induction actions generalizing c with
  | nil =>
      refine iff_of_true (fun l₁ l₂ heq => ?_) trivial
      rw [(List.append_eq_nil_iff.mp heq.symm).1]
      exact hconserved
  | cons a l ih =>
      obtain ⟨hfits', hiff⟩ := step_slotsConserved hplans c hfits hconserved a
      rw [Config.EveryStep]
      constructor
      · intro h
        have hstep : SlotsConserved (Config.step (gateway.call py) c a) := h [a] l rfl
        refine ⟨hiff.mp hstep, (ih _ hfits' hstep).mp fun l₁ l₂ heq => ?_⟩
        exact h (a :: l₁) l₂ (by rw [heq]; rfl)
      · rintro ⟨ha, hl⟩ l₁ l₂ heq
        cases l₁ with
        | nil => exact hconserved
        | cons b l₁ =>
            rw [List.cons_append, List.cons.injEq] at heq
            rw [Config.run_cons, ← heq.1]
            exact (ih _ hfits' (hiff.mpr ha)).mpr hl l₁ l₂ heq.2

end Step

/-- At every point of a run, each tenant's `concurrent_operations` is the number of its requests
inside the downstream app, exactly when no request of the run takes a slot and then fails to
be signed. -/
theorem slotsConserved_iff (py : Stdlib) (gateway : APIGateway) (plans : TenantResourcePlans)
    (hplans : gateway.resourceManager = some plans)
    (actions : List (Action GatewayRequest GatewayInterface)) :
    (∀ l₁ l₂, actions = l₁ ++ l₂ →
      SlotsConserved (Config.run (gateway.call py) (Config.initial GatewayState.empty) l₁)) ↔
    Config.EveryStep (gateway.call py) (KeepsSlot py gateway)
      (Config.initial GatewayState.empty) actions :=
  run_slotsConserved hplans _ (fun _ htask => absurd htask List.not_mem_nil) (fun _ => rfl) actions

namespace SlotSample

def plan : TenantResourcePlan where
  name := "basic"
  requestLimit := 10
  windowSeconds := 60
  concurrentOperations := 2
  storageBytes := 0
  queueDepth := 0
  name_ne := by decide
  strip_name := by decide
  windowSeconds_pos := Reference.minute_pos

theorem tenRequests_pos : 0 < 10 := by decide

/-- A gateway with one route and two slots for each tenant. -/
def gateway (s2sAuth : Option S2SAuthenticator) : APIGateway where
  routes := [Reference.route]
  rateLimitPolicy := ⟨10, 60, tenRequests_pos, Reference.minute_pos⟩
  resourceManager := some ⟨plan, Dict.empty⟩
  s2sAuth := s2sAuth
  sourceServiceName := "api-gateway"
  routes_ne := by decide
  routes_sorted := List.pairwise_singleton _ _
  sourceServiceName_ne := by decide

def request : GatewayRequest where
  context := some ⟨"media-center", some "ana", ["council"], none⟩
  scope := ⟨some "http", some "/ledger/weights", some "GET", none, [], none⟩
  limiterNow := 1000
  managerNow _ := 1000
  signing := Reference.signingMoment
  uuid := Reference.uuid

end SlotSample

open Reference in
/-- A gateway that signs nothing serves a request and gives its slot back. -/
theorem slotsConserved_withoutSignature :
    SlotsConserved (Config.run ((SlotSample.gateway none).call stdlib)
      (Config.initial GatewayState.empty)
      [.call SlotSample.request, .resume 0 fun _ => .ok ()]) := by
  have hsigns : ∀ r s, ¬ LosesSlot stdlib (SlotSample.gateway none) r s := by
    rintro r s ⟨_, _, _, _, _, _, hauth, _⟩
    cases hauth
  have hkeeps : Config.EveryStep ((SlotSample.gateway none).call stdlib)
      (KeepsSlot stdlib (SlotSample.gateway none)) (Config.initial GatewayState.empty)
      [.call SlotSample.request, .resume 0 fun _ => .ok ()] :=
    ⟨fun r _ => hsigns r _, fun r _ => hsigns r _, trivial⟩
  exact (slotsConserved_iff stdlib (SlotSample.gateway none)
    ⟨SlotSample.plan, Dict.empty⟩ rfl _).mpr hkeeps _ [] (List.append_nil _).symm

/-- Without a shared secret signing raises `S2SAuthenticationError`: the request has ended, and
its slot is still counted. -/
theorem slotsConserved_withoutSecret :
    let gateway := SlotSample.gateway
      (some (S2SAuthenticator.sharedSecret Reference.stdlib ⟨none, 300, by decide⟩))
    let c := Config.run (gateway.call Reference.stdlib) (Config.initial GatewayState.empty)
      [.call SlotSample.request]
    c.tasks = [⟨SlotSample.request,
        .finished (.error (.s2s (.authentication "S2S shared secret не настроен")))⟩] ∧
      concurrentOperations c.shared.resources "media-center" = 1 ∧ ¬ SlotsConserved c := by
  intro gateway c
  have hslots : concurrentOperations c.shared.resources "media-center" = 1 ∧
      c.tasks.countP (isInsideDownstream "media-center") = 0 := by decide
  refine ⟨rfl, hslots.1, fun h => ?_⟩
  have heq := h "media-center"
  rw [hslots.1, hslots.2] at heq
  cases heq

end MediaCenter.Shared
