import MediaCenter.Analysis.NeuroAgentOrchestrator.ProxyPools
import MediaCenter.Model.Shared.Reference

/-!
# Runs of the proxy manager

A call changes its pool before it awaits its publisher, in one of three ways; whatever overlaps,
every stored pool is well-formed, and its revision counts the audited changes of it.
-/

set_option autoImplicit false

namespace MediaCenter.NeuroAgentOrchestrator

open MediaCenter.Library MediaCenter.Shared Coroutine

/-! ## What a call does before its event -/

/-- The audit record of a change of a pool. -/
def Recorded (eventType : String) (pool : ProxyPoolState) (record : AuditLogRecord) : Prop :=
  record.fields.eventType = eventType ∧ record.fields.tenantId = pool.tenantId ∧
    record.fields.metadata.head? = some ("pool_id", .str pool.poolId)

/-- The revision after a pool that may be missing. -/
def revisionAfter (existing : Option ProxyPoolState) : ℕ :=
  match existing with
  | none => 1
  | some pool => pool.revision + 1

/-- What one call may make of the state. -/
inductive Changes (py : Stdlib) (call : ProxyCall) (s : ProxyState) : ProxyState → Prop
  | refused : Changes py call s s
  | upserted (args : UpsertArgs) (pool : ProxyPoolState) (record : AuditLogRecord)
      (hcall : call.operation = .upsert args) (hpool : WellFormed pool)
      (hkey : pool.key = (args.tenantId, Text.trim args.poolId))
      (hrevision : pool.revision =
        revisionAfter (s.repository.getPool args.tenantId args.poolId))
      (hrecord : Recorded proxyPoolUpdatedEvent pool record) :
      Changes py call s ⟨s.repository.savePool pool, s.auditLog ++ [record]⟩
  | checked (args : CheckArgs) (old pool : ProxyPoolState) (record : AuditLogRecord)
      (hcall : call.operation = .check args)
      (hold : s.repository.getPool args.tenantId args.poolId = some old)
      (hchecked : WellFormed old → Checked old pool)
      (hrecord : WellFormed old → old.key = (args.tenantId, args.poolId) →
        Recorded proxyHealthCheckedEvent pool record) :
      Changes py call s ⟨s.repository.savePool pool, s.auditLog ++ [record]⟩
  | leased (args : LeaseArgs) (old : ProxyPoolState) (index : ℕ) (proxy : ProxyEndpointState)
      (log : List AuditLogRecord) (hcall : call.operation = .lease args)
      (hold : s.repository.getPool args.tenantId args.poolId = some old)
      (hselected : selectLiveProxy? old = some (index, proxy))
      (hlog : ∀ record ∈ log, record.fields.eventType = proxyLeasedEvent) :
      Changes py call s ⟨s.repository.savePool (old.leasedAt index), s.auditLog ++ log⟩

/-- A call that raises in its first segment, or only has its event to publish. -/
def Ends {α : Type} (p : Pause proxyInterface ProxyState ProxyRotationError α) : Prop :=
  match p with
  | .finished res => ∃ e, res = .error e
  | .suspended _ rest => ∃ res, ∀ answer s,
      (rest answer).advance s = (.finished (answer >>= fun _ => res), s)

/-- A call that awaits its publisher has written its audit record. -/
def Audits {α : Type} (s : ProxyState)
    (start : Pause proxyInterface ProxyState ProxyRotationError α × ProxyState) : Prop :=
  match start.1 with
  | .finished _ => True
  | .suspended _ _ => start.2.auditLog ≠ s.auditLog

section Starts

variable {py : Stdlib} {urls : Urllib}

theorem audits_of_append {α : Type} {s : ProxyState} {record : AuditLogRecord}
    {start : Pause proxyInterface ProxyState ProxyRotationError α × ProxyState}
    (h : start.2.auditLog = s.auditLog ++ [record]) : Audits s start := by
  unfold Audits
  split
  · trivial
  · rw [h]
    intro heq
    have hlength := congrArg List.length heq
    rw [List.length_append, List.length_singleton] at hlength
    omega

theorem ends_publishEvent {α : Type} {x : ProxyProgram α} {res : Except ProxyRotationError α}
    (hx : ∀ s, x.advance s = (.finished res, s)) (args : EventEnvelope) (s : ProxyState) :
    Ends ((ProxyProgram.publishEvent args >>= fun _ => x).advance s).1 ∧
      ((ProxyProgram.publishEvent args >>= fun _ => x).advance s).2 = s := by
  unfold ProxyProgram.publishEvent ProxyProgram.shared
  rw [advance_bind, advance_ofExcept_bind]
  cases eventEnvelope args with
  | error e => exact ⟨⟨_, rfl⟩, rfl⟩
  | ok event =>
      refine ⟨⟨res, ?_⟩, rfl⟩
      intro answer s'
      rw [advance_ofExcept_bind]
      cases answer with
      | error e => rfl
      | ok u => exact hx s'

/-- INTERNAL: a call that has stored its pool and only has its event to publish. -/
theorem storing_publishEvent {α : Type} {x : ProxyProgram α} {res : Except ProxyRotationError α}
    (hx : ∀ s, x.advance s = (.finished res, s)) (args : EventEnvelope) {call : ProxyCall}
    {s : ProxyState} {pool : ProxyPoolState} {record : AuditLogRecord}
    (hchanges : Changes py call s ⟨s.repository.savePool pool, s.auditLog ++ [record]⟩) :
    Ends ((ProxyProgram.publishEvent args >>= fun _ => x).advance
        ⟨s.repository.savePool pool, s.auditLog ++ [record]⟩).1 ∧
      Changes py call s ((ProxyProgram.publishEvent args >>= fun _ => x).advance
        ⟨s.repository.savePool pool, s.auditLog ++ [record]⟩).2 ∧
      Audits s ((ProxyProgram.publishEvent args >>= fun _ => x).advance
        ⟨s.repository.savePool pool, s.auditLog ++ [record]⟩) := by
  obtain ⟨hends, hstate⟩ := ends_publishEvent hx args
    ⟨s.repository.savePool pool, s.auditLog ++ [record]⟩
  generalize (ProxyProgram.publishEvent args >>= fun _ => x).advance
    ⟨s.repository.savePool pool, s.auditLog ++ [record]⟩ = start at hends hstate ⊢
  refine ⟨hends, ?_, audits_of_append (by rw [hstate])⟩
  rw [hstate]
  exact hchanges

theorem advance_recordAudit_bind {α : Type} (args : AuditArgs)
    (g : AuditLogRecord → ProxyProgram α) (s : ProxyState) :
    (ProxyProgram.recordAudit py args >>= g).advance s =
      match auditRecord py args with
      | .ok record => (g record).advance { s with auditLog := s.auditLog ++ [record] }
      | .error e => (.finished (.error (.shared e)), s) := by
  unfold ProxyProgram.recordAudit
  rw [advance_update_bind]
  cases auditRecord py args with
  | ok record => rfl
  | error e => rfl

theorem advance_shared_bind {α β : Type} (x : Except SharedException α)
    (g : α → ProxyProgram β) (s : ProxyState) :
    (ProxyProgram.shared x >>= g).advance s =
      match x with
      | .ok a => (g a).advance s
      | .error e => (.finished (.error (.shared e)), s) := by
  unfold ProxyProgram.shared
  rw [advance_ofExcept_bind]
  cases x with
  | ok a => rfl
  | error e => rfl

theorem advance_savePool_bind {α : Type} (pool : ProxyPoolState) (g : Unit → ProxyProgram α)
    (s : ProxyState) :
    (ProxyProgram.savePool pool >>= g).advance s =
      (g ()).advance { s with repository := s.repository.savePool pool } := by
  unfold ProxyProgram.savePool
  rw [advance_update_bind]

/-- The event types of the manager have no white space to strip. -/
theorem trim_eventTypes : Text.trim proxyPoolUpdatedEvent = proxyPoolUpdatedEvent ∧
    Text.trim proxyHealthCheckedEvent = proxyHealthCheckedEvent ∧
    Text.trim proxyLeasedEvent = proxyLeasedEvent := by
  refine ⟨?_, ?_, ?_⟩
  all_goals exact Text.trim_of_forall_visible (visible_of_eventTypePattern (by decide))

/-! ### Upserts -/

theorem WellFormed.withAuditHash {pool : ProxyPoolState} (h : WellFormed pool)
    (auditHash : String) : WellFormed { pool with auditHash := auditHash } :=
  ⟨h.trimmedTenantId, h.trimmedPoolId, h.trimmedProxyIds, h.cursor, h.distinct, h.sorted, h.guarded,
    ⟨h.counted.total, h.counted.healthy, h.counted.unhealthy, h.counted.disabled⟩⟩

theorem Checked.withAuditHash {old pool : ProxyPoolState} (h : Checked old pool)
    (auditHash : String) : Checked old { pool with auditHash := auditHash } :=
  ⟨h.wellFormed.withAuditHash auditHash, h.key, h.revision, h.cursor, h.proxies⟩

/-- INTERNAL: an upsert is refused, or stores a well-formed pool. -/
theorem changes_upsertPool (call : ProxyCall) (args : UpsertArgs)
    (hcall : call.operation = .upsert args) (s : ProxyState) :
    Ends ((upsertPool py urls call.env args).advance s).1 ∧
      Changes py call s ((upsertPool py urls call.env args).advance s).2 ∧
      Audits s ((upsertPool py urls call.env args).advance s) := by
  unfold upsertPool
  by_cases hempty : args.proxies = []
  · rw [if_pos hempty]
    exact ⟨⟨_, rfl⟩, .refused, trivial⟩
  rw [if_neg hempty, advance_inspect_bind]
  simp only
  rw [advance_shared_bind]
  cases resolveTime py call.env.now args.updatedAt with
  | error e => exact ⟨⟨_, rfl⟩, .refused, trivial⟩
  | ok changedAt =>
  simp only
  rw [advance_shared_bind]
  cases hstates : args.proxies.mapM (stateFromConfig py urls) with
  | error e => exact ⟨⟨_, rfl⟩, .refused, trivial⟩
  | ok proxyStates =>
  simp only
  rw [advance_ofExcept_bind]
  cases hunique : ensureUniqueProxyIds proxyStates with
  | error e => exact ⟨⟨_, rfl⟩, .refused, trivial⟩
  | ok u =>
  simp only
  rw [advance_ofExcept_bind]
  cases hbuild : args.pool py (s.repository.getPool args.tenantId args.poolId) changedAt
      proxyStates with
  | error e => exact ⟨⟨_, rfl⟩, .refused, trivial⟩
  | ok pool =>
  simp only
  rw [advance_recordAudit_bind]
  cases hrecord : auditRecord py (args.auditArgs py pool changedAt) with
  | error e => exact ⟨⟨_, rfl⟩, .refused, trivial⟩
  | ok record =>
  simp only
  rw [advance_savePool_bind]
  refine storing_publishEvent (s := s) (fun _ => rfl) _ ?_
  have hbuilt := built_of_buildProxyPoolState hbuild
  obtain ⟨htenant, htype, hrecordTenant, hmetadata, _⟩ := auditRecord_eq_ok hrecord
  have htrim : Text.trim args.tenantId = args.tenantId :=
    trim_of_tokenPattern (tokenPattern_of_tenantIdPattern htenant)
  have hpoolTenant : pool.tenantId = args.tenantId := by
    rw [hbuilt.tenantId]
    exact htrim
  have hdistinct : (proxyStates.map (·.proxyId)).Nodup := by
    unfold ensureUniqueProxyIds at hunique
    split at hunique
    · rename_i hnodup
      exact hnodup
    · cases hunique
  have hpool : WellFormed pool := by
    refine hbuilt.wellFormed ?_ hdistinct fun state hstate => (guarded_of_mapM hstates state hstate).2
    intro proxyId hmem
    obtain ⟨state, hstate, rfl⟩ := List.mem_map.mp hmem
    exact (guarded_of_mapM hstates state hstate).1
  refine .upserted args _ record hcall (hpool.withAuditHash _) ?_ ?_ ⟨?_, ?_, ?_⟩
  · unfold ProxyPoolState.key
    simp only [hpoolTenant, Prod.mk.injEq, true_and]
    exact hbuilt.poolId
  · exact hbuilt.revision
  · rw [htype]
    exact trim_eventTypes.1
  · rw [hrecordTenant]
    exact hpoolTenant.symm
  · rw [hmetadata]
    rfl

/-! ### Health checks -/

/-- INTERNAL: a batch of checks is refused, or stores the checked pool. -/
theorem changes_checkPoolHealth (call : ProxyCall) (args : CheckArgs)
    (hcall : call.operation = .check args) (s : ProxyState) :
    Ends ((checkPoolHealth py call.env args).advance s).1 ∧
      Changes py call s ((checkPoolHealth py call.env args).advance s).2 ∧
      Audits s ((checkPoolHealth py call.env args).advance s) := by
  unfold checkPoolHealth
  by_cases hempty : args.checks = []
  · rw [if_pos hempty]
    exact ⟨⟨_, rfl⟩, .refused, trivial⟩
  rw [if_neg hempty, ProxyProgram.requirePool, advance_inspect_bind]
  unfold InMemoryProxyPoolRepository.requirePool
  cases hold : s.repository.getPool args.tenantId args.poolId with
  | none => exact ⟨⟨_, rfl⟩, .refused, trivial⟩
  | some old =>
  simp only
  rw [advance_ofExcept_bind]
  cases happly : applyProxyHealthChecks py old args.checks args.checkedBy
      (args.updatedAt call.env.now) with
  | error e => exact ⟨⟨_, rfl⟩, .refused, trivial⟩
  | ok pool =>
  simp only
  rw [advance_recordAudit_bind]
  cases hrecord : auditRecord py (args.auditArgs py pool) with
  | error e => exact ⟨⟨_, rfl⟩, .refused, trivial⟩
  | ok record =>
  simp only
  rw [advance_savePool_bind]
  refine storing_publishEvent (s := s) (fun s => advance_ofExcept _ s) _ ?_
  obtain ⟨_, htype, hrecordTenant, hmetadata, _⟩ := auditRecord_eq_ok hrecord
  refine .checked args old _ record hcall hold ?_ ?_
  · intro hwf
    exact (checked_of_applyProxyHealthChecks hwf happly).withAuditHash _
  · intro hwf hkey
    have hchecked := checked_of_applyProxyHealthChecks hwf happly
    have hpoolKey := hchecked.key.trans hkey
    unfold ProxyPoolState.key at hpoolKey
    rw [Prod.mk.injEq] at hpoolKey
    refine ⟨?_, ?_, ?_⟩
    · rw [htype]
      exact trim_eventTypes.2.1
    · rw [hrecordTenant]
      exact hpoolKey.1.symm
    · rw [hmetadata]
      rfl

/-! ### Leases -/

/-- A lease of a proxy. -/
structure Names (lease : ProxyLease) (proxy : ProxyEndpointState) : Prop where
  proxyId : lease.fields.proxyId = Text.trim proxy.proxyId
  healthStatus : lease.fields.healthStatus = proxy.healthStatus

/-- What is left of a call that has selected a proxy: it raises what one of its contracts
raises, or returns the lease when its event is published. -/
def Delivers (proxy : ProxyEndpointState)
    (p : Pause proxyInterface ProxyState ProxyRotationError ProxyLease) : Prop :=
  match p with
  | .finished res => ∃ e, res = .error (.shared e)
  | .suspended _ rest => ∃ lease, Names lease proxy ∧ ∀ answer s,
      (rest answer).advance s = (.finished (answer >>= fun _ => .ok lease), s)

/-- The outcomes of the first segment of a lease, each with the condition for it. -/
inductive Leases (py : Stdlib) (env : Ambient) (args : LeaseArgs) (s : ProxyState) :
    Pause proxyInterface ProxyState ProxyRotationError ProxyLease × ProxyState → Prop
  | poolNotFound (message : String)
      (hpool : s.repository.getPool args.tenantId args.poolId = none) :
      Leases py env args s (.finished (.error (.proxyPoolNotFound message)), s)
  | invalidTime (pool : ProxyPoolState) (e : SharedException)
      (hpool : s.repository.getPool args.tenantId args.poolId = some pool)
      (htime : resolveTime py env.now args.selectedAt = .error e) :
      Leases py env args s (.finished (.error (.shared e)), s)
  | unavailable (pool : ProxyPoolState) (selectedAt : Instant) (message : String)
      (hpool : s.repository.getPool args.tenantId args.poolId = some pool)
      (htime : resolveTime py env.now args.selectedAt = .ok selectedAt)
      (hnone : selectLiveProxy? pool = none) :
      Leases py env args s (.finished (.error (.proxyUnavailable message)), s)
  | selected (pool : ProxyPoolState) (selectedAt : Instant) (index : ℕ)
      (proxy : ProxyEndpointState) (log : List AuditLogRecord)
      (p : Pause proxyInterface ProxyState ProxyRotationError ProxyLease)
      (hpool : s.repository.getPool args.tenantId args.poolId = some pool)
      (htime : resolveTime py env.now args.selectedAt = .ok selectedAt)
      (hselected : selectLiveProxy? pool = some (index, proxy))
      (hlog : ∀ record ∈ log, record.fields.eventType = proxyLeasedEvent)
      (hdelivers : Delivers proxy p) :
      Leases py env args s
        (p, ⟨s.repository.savePool (pool.leasedAt index), s.auditLog ++ log⟩)

theorem leases_leaseProxy (env : Ambient) (args : LeaseArgs) (s : ProxyState) :
    Leases py env args s ((leaseProxy py env args).advance s) := by
  unfold leaseProxy
  rw [ProxyProgram.requirePool, advance_inspect_bind]
  unfold InMemoryProxyPoolRepository.requirePool
  cases hpool : s.repository.getPool args.tenantId args.poolId with
  | none => exact .poolNotFound _ hpool
  | some pool =>
  simp only
  rw [advance_shared_bind]
  cases htime : resolveTime py env.now args.selectedAt with
  | error e => exact .invalidTime pool e hpool htime
  | ok selectedAt =>
  simp only
  rw [advance_ofExcept_bind]
  unfold selectLiveProxy
  cases hselected : selectLiveProxy? pool with
  | none => exact .unavailable pool selectedAt _ hpool htime hselected
  | some selection =>
  obtain ⟨index, proxy⟩ := selection
  simp only
  rw [advance_savePool_bind, advance_recordAudit_bind]
  cases hrecord : auditRecord py (args.auditArgs py pool proxy
      (newId "proxy-lease" (env.uuid 0)) selectedAt) with
  | error e =>
      have hstate : (⟨s.repository.savePool (pool.leasedAt index), s.auditLog⟩ : ProxyState) =
          ⟨s.repository.savePool (pool.leasedAt index), s.auditLog ++ []⟩ := by
        rw [List.append_nil]
      show Leases py env args s (.finished (.error (.shared e)),
        ⟨s.repository.savePool (pool.leasedAt index), s.auditLog⟩)
      rw [hstate]
      refine .selected pool selectedAt index proxy [] _ hpool htime hselected ?_ ⟨e, rfl⟩
      intro record hmem
      cases hmem
  | ok record =>
  have hlog : ∀ r ∈ [record], r.fields.eventType = proxyLeasedEvent := by
    intro r hr
    rw [List.mem_singleton] at hr
    rw [hr, (auditRecord_eq_ok hrecord).2.1]
    exact trim_eventTypes.2.2
  simp only
  rw [advance_shared_bind]
  cases hlease : args.lease pool proxy (newId "proxy-lease" (env.uuid 0)) selectedAt
      record.fields.auditHash with
  | error e => exact .selected pool selectedAt index proxy [record] _ hpool htime hselected hlog ⟨e, rfl⟩
  | ok lease =>
  have hnames : Names lease proxy := by
    unfold LeaseArgs.lease at hlease
    rw [Validated.make_eq_ok_iff] at hlease
    constructor
    all_goals rw [hlease]
  simp only
  unfold ProxyProgram.publishEvent
  rw [advance_bind, advance_shared_bind]
  cases eventEnvelope (args.event env pool proxy lease selectedAt) with
  | error e => exact .selected pool selectedAt index proxy [record] _ hpool htime hselected hlog ⟨e, rfl⟩
  | ok event =>
      refine .selected pool selectedAt index proxy [record] _ hpool htime hselected hlog
        ⟨lease, hnames, ?_⟩
      intro answer s'
      rw [advance_ofExcept_bind]
      cases answer with
      | error e => rfl
      | ok u => rfl

end Starts

/-! ## Calls -/

section Calls

variable {py : Stdlib} {urls : Urllib}

theorem ends_map {α β : Type} (f : α → β) {x : ProxyProgram α} {s : ProxyState}
    (h : Ends (x.advance s).1) : Ends ((f <$> x).advance s).1 := by
  rw [advance_map]
  rcases hx : x.advance s with ⟨p, s'⟩
  rw [hx] at h
  cases p with
  | finished res =>
      obtain ⟨e, rfl⟩ := h
      exact ⟨e, rfl⟩
  | suspended q rest =>
      obtain ⟨res, hrest⟩ := h
      refine ⟨res.map f, ?_⟩
      intro answer s''
      show ((rest answer >>= fun a => pure (f a)).advance s'') = _
      rw [advance_bind, hrest]
      cases answer with
      | error e => rfl
      | ok u =>
          cases res with
          | error e => rfl
          | ok a => rfl

theorem audits_map {α β : Type} (f : α → β) {x : ProxyProgram α} {s s₀ : ProxyState}
    (h : Audits s₀ (x.advance s)) : Audits s₀ ((f <$> x).advance s) := by
  rw [advance_map]
  rcases hx : x.advance s with ⟨p, s'⟩
  rw [hx] at h
  cases p with
  | finished res =>
      cases res with
      | ok a => trivial
      | error e => trivial
  | suspended q rest => exact h

theorem Leases.ends {env : Ambient} {args : LeaseArgs} {s : ProxyState}
    {start : Pause proxyInterface ProxyState ProxyRotationError ProxyLease × ProxyState}
    (h : Leases py env args s start) : Ends start.1 := by
  cases h with
  | poolNotFound message hpool => exact ⟨_, rfl⟩
  | invalidTime pool e hpool htime => exact ⟨_, rfl⟩
  | unavailable pool selectedAt message hpool htime hnone => exact ⟨_, rfl⟩
  | selected pool selectedAt index proxy log p hpool htime hselected hlog hdelivers =>
      cases p with
      | finished res =>
          obtain ⟨e, he⟩ := hdelivers
          exact ⟨_, he⟩
      | suspended q rest =>
          obtain ⟨lease, _, hrest⟩ := hdelivers
          exact ⟨_, hrest⟩

theorem Leases.changes {call : ProxyCall} {args : LeaseArgs} {s : ProxyState}
    {start : Pause proxyInterface ProxyState ProxyRotationError ProxyLease × ProxyState}
    (hcall : call.operation = .lease args) (h : Leases py call.env args s start) :
    Changes py call s start.2 := by
  cases h with
  | poolNotFound message hpool => exact .refused
  | invalidTime pool e hpool htime => exact .refused
  | unavailable pool selectedAt message hpool htime hnone => exact .refused
  | selected pool selectedAt index proxy log p hpool htime hselected hlog hdelivers =>
      exact .leased args pool index proxy log hcall hpool hselected hlog

/-- INTERNAL: the first segment of a call, whichever it is. -/
theorem changes_program (py : Stdlib) (urls : Urllib) (call : ProxyCall) (s : ProxyState) :
    Ends ((call.program py urls).advance s).1 ∧
      Changes py call s ((call.program py urls).advance s).2 ∧
      ((∀ args, call.operation ≠ .lease args) → Audits s ((call.program py urls).advance s)) := by
  unfold ProxyCall.program
  cases hcall : call.operation with
  | upsert args =>
      obtain ⟨hends, hchanges, haudits⟩ := changes_upsertPool call args hcall s
      simp only
      rw [snd_advance_map]
      exact ⟨ends_map _ hends, hchanges, fun _ => audits_map _ haudits⟩
  | check args =>
      obtain ⟨hends, hchanges, haudits⟩ := changes_checkPoolHealth call args hcall s
      simp only
      rw [snd_advance_map]
      exact ⟨ends_map _ hends, hchanges, fun _ => audits_map _ haudits⟩
  | lease args =>
      have hleases : Leases py call.env args s _ := leases_leaseProxy call.env args s
      simp only
      rw [snd_advance_map]
      exact ⟨ends_map _ hleases.ends, hleases.changes hcall, fun hother => absurd rfl (hother args)⟩

/-- What one segment of a call may do: only the first one changes anything. -/
def Guarantees (py : Stdlib) (call : ProxyCall) (r : Resumption proxyInterface)
    (s s' : ProxyState) : Prop :=
  match r with
  | none => Changes py call s s'
  | some _ => s' = s

theorem wp_program (R : ProxyState → ProxyState → Prop) (call : ProxyCall) (s : ProxyState) :
    (call.program py urls).wp R (Guarantees py call) (fun _ => Guarantees py call) none s s := by
  apply wp_of_advance
  obtain ⟨hends, hchanges, _⟩ := changes_program py urls call s
  rcases hstart : (call.program py urls).advance s with ⟨p, s'⟩
  rw [hstart] at hends hchanges
  cases p with
  | finished res => exact hchanges
  | suspended q rest =>
      obtain ⟨res, hrest⟩ := hends
      refine ⟨hchanges, ?_⟩
      intro answer s'' _
      apply wp_of_advance
      rw [hrest]
      rfl

end Calls

/-! ## Runs -/

section Runs

variable (py : Stdlib) (urls : Urllib)

abbrev ProxyAction : Type := Action ProxyCall proxyInterface

def proxyRun (actions : List ProxyAction) : ProxyRun :=
  Config.run (ProxyCall.program py urls) (.initial .initial) actions

def proxyStep (c : ProxyRun) (a : ProxyAction) : ProxyRun :=
  Config.step (ProxyCall.program py urls) c a

variable {py urls}

/-- What an action of a run does: one call changes the state, or nothing does. -/
inductive Steps (py : Stdlib) (s : ProxyState) : ProxyAction → ProxyState → Prop
  | call (call : ProxyCall) (s' : ProxyState) (h : Changes py call s s') :
      Steps py s (.call call) s'
  | resume (i : ℕ) (answer : ∀ q, proxyInterface.Answer q) : Steps py s (.resume i answer) s

theorem steps_of_segment {c : ProxyRun} {a : ProxyAction} {s' : ProxyState}
    (h : Config.Segment (Guarantees py) c a s') : Steps py c.shared a s' := by
  cases a with
  | call call =>
      have hguarantees : Guarantees py call none c.shared s' := Config.segment_call h
      exact .call call s' hguarantees
  | resume i answer =>
      have hsame : s' = c.shared := by
        rcases Config.segment_resume h with ⟨k, q, rest, _, hguarantees⟩ | ⟨_, hsame⟩
        · exact hguarantees
        · exact hsame
      rw [hsame]
      exact .resume i answer

/-- The run rule of the manager: what every step keeps holds in every state of a run, if it
holds at the start. -/
theorem proxyRun_invariant {J : ProxyState → Prop} {A : ProxyAction → Prop}
    (hJ : J .initial) (hstep : ∀ s a s', A a → J s → Steps py s a s' → J s')
    (actions : List ProxyAction) (hA : ∀ a ∈ actions, A a) :
    J (proxyRun py urls actions).shared := by
  have hall : Config.EveryStep (ProxyCall.program py urls) (fun _ a => A a) (.initial .initial)
      (actions ++ []) := by
    rw [List.append_nil, Config.everyStep_iff]
    intro before a after heq
    apply hA
    rw [heq]
    exact List.mem_append_right _ List.mem_cons_self
  exact (Config.run_guarantee_between (J := J) (R := fun s s' => J s → J s')
    (Φ := Guarantees py) (fun _ => id) (fun _ _ _ h h' hs => h' (h hs)) (fun _ _ h hs => h hs)
    (fun _ _ _ _ _ h => h) (fun call s _ => wp_program _ call s)
    (fun c a s' ha hs h _ => hstep _ a s' ha hs (steps_of_segment h)) .initial hJ actions [] hall).1

/-- What the action after a run does. -/
theorem steps_of_proxyRun (actions : List ProxyAction) (a : ProxyAction) :
    Steps py (proxyRun py urls actions).shared a
      (proxyStep py urls (proxyRun py urls actions) a).shared :=
  steps_of_segment (Config.segment_of_run (A := fun _ _ => True) (J := fun _ => True)
    (R := fun _ _ => True) (Φ := Guarantees py) (fun _ => trivial) (fun _ _ _ _ _ => trivial) (fun _ _ _ _ => trivial)
    (fun _ _ _ _ _ h => h) (fun call s _ => wp_program _ call s) (fun _ _ _ _ _ _ => trivial)
    .initial trivial actions a ((Config.everyStep_iff _ _).mpr fun _ _ _ _ => trivial))

/-! ## Every stored pool -/

/-- Every pool is well-formed and under its own key. -/
structure PoolsOk (s : ProxyState) : Prop where
  keyed : ∀ k pool, s.repository.pools.get? k = some pool → pool.key = k
  wellFormed : ∀ k pool, s.repository.pools.get? k = some pool → WellFormed pool

theorem get?_savePool (repository : InMemoryProxyPoolRepository) (pool : ProxyPoolState)
    (k : String × String) : (repository.savePool pool).pools.get? k =
      if k = pool.key then some pool else repository.pools.get? k :=
  Dict.get?_set _ _ _ _

theorem PoolsOk.savePool {s : ProxyState} (h : PoolsOk s) {pool : ProxyPoolState}
    (hpool : WellFormed pool) (log : List AuditLogRecord) :
    PoolsOk ⟨s.repository.savePool pool, log⟩ := by
  constructor
  · intro k pool' hget
    rw [get?_savePool] at hget
    split at hget
    · rename_i hk
      cases hget
      exact hk.symm
    · exact h.keyed k pool' hget
  · intro k pool' hget
    rw [get?_savePool] at hget
    split at hget
    · cases hget
      exact hpool
    · exact h.wellFormed k pool' hget

theorem PoolsOk.changes {call : ProxyCall} {s s' : ProxyState} (h : PoolsOk s)
    (hchanges : Changes py call s s') : PoolsOk s' := by
  cases hchanges with
  | refused => exact h
  | upserted args pool record hcall hpool hkey hrevision hrecord => exact h.savePool hpool _
  | checked args old pool record hcall hold hchecked hrecord =>
      exact h.savePool (hchecked (h.wellFormed _ _ hold)).wellFormed _
  | leased args old index proxy log hcall hold hselected hlog =>
      exact h.savePool ((h.wellFormed _ _ hold).leasedAt index) _

theorem poolsOk_initial : PoolsOk .initial := by
  constructor
  · intro k pool hget
    cases hget
  · intro k pool hget
    cases hget

theorem poolsOk_run (actions : List ProxyAction) : PoolsOk (proxyRun py urls actions).shared := by
  refine proxyRun_invariant (A := fun _ => True) poolsOk_initial ?_ actions (fun _ _ => trivial)
  intro s a s' _ h hstep
  cases hstep with
  | call call s' hchanges => exact h.changes hchanges
  | resume i answer => exact h

/-! ## Revisions -/

/-- The audit record of an upsert or a health check of the pool. -/
def isRevisionRecord (tenantId poolId : String) (record : AuditLogRecord) : Bool :=
  (record.fields.eventType == proxyPoolUpdatedEvent ||
    record.fields.eventType == proxyHealthCheckedEvent) &&
    record.fields.tenantId == tenantId &&
    match record.fields.metadata.head? with
    | some ("pool_id", .str id) => id == poolId
    | _ => false

/-- How many upserts and health checks of the pool have been audited. -/
def auditedRevisions (tenantId poolId : String) (log : List AuditLogRecord) : ℕ :=
  log.countP (isRevisionRecord tenantId poolId)

theorem auditedRevisions_append_of_recorded {eventType : String} {pool : ProxyPoolState}
    {record : AuditLogRecord} (h : Recorded eventType pool record)
    (htype : eventType = proxyPoolUpdatedEvent ∨ eventType = proxyHealthCheckedEvent)
    (k : String × String) (log : List AuditLogRecord) :
    auditedRevisions k.1 k.2 (log ++ [record]) =
      auditedRevisions k.1 k.2 log + if k = pool.key then 1 else 0 := by
  obtain ⟨hevent, htenant, hmetadata⟩ := h
  unfold auditedRevisions
  rw [List.countP_append, List.countP_singleton]
  congr 1
  have hiff : isRevisionRecord k.1 k.2 record = true ↔ k = pool.key := by
    unfold isRevisionRecord ProxyPoolState.key
    rw [hevent, htenant, hmetadata]
    simp only [Bool.and_eq_true, Bool.or_eq_true, beq_iff_eq]
    rw [Prod.ext_iff]
    constructor
    · rintro ⟨⟨_, h1⟩, h2⟩
      exact ⟨h1.symm, h2.symm⟩
    · rintro ⟨h1, h2⟩
      exact ⟨⟨htype, h1.symm⟩, h2.symm⟩
  simp only [hiff]

theorem auditedRevisions_append_of_leases {records : List AuditLogRecord}
    (h : ∀ record ∈ records, record.fields.eventType = proxyLeasedEvent) (tenantId poolId : String)
    (log : List AuditLogRecord) :
    auditedRevisions tenantId poolId (log ++ records) = auditedRevisions tenantId poolId log := by
  unfold auditedRevisions
  rw [List.countP_append, Nat.add_eq_left, List.countP_eq_zero]
  intro record hrecord
  unfold isRevisionRecord
  rw [h record hrecord]
  have hother : (proxyLeasedEvent == proxyPoolUpdatedEvent ||
      proxyLeasedEvent == proxyHealthCheckedEvent) = false := by decide
  rw [hother, Bool.false_and, Bool.false_and]
  exact Bool.false_ne_true

/-- The revision of a pool that may be missing. -/
def revisionOf (pool : Option ProxyPoolState) : ℕ :=
  match pool with
  | none => 0
  | some pool => pool.revision

/-- Every revision counts the audited changes of its pool. -/
def Revised (s : ProxyState) : Prop :=
  ∀ k : String × String,
    revisionOf (s.repository.pools.get? k) = auditedRevisions k.1 k.2 s.auditLog

/-- An upsert names its pool without white space around the name, as the API does. -/
def PlainPoolId (a : ProxyAction) : Prop :=
  match a with
  | .call call =>
      match call.operation with
      | .upsert args => Text.trim args.poolId = args.poolId
      | _ => True
  | .resume _ _ => True

theorem Revised.savePool {s : ProxyState} (h : Revised s) {pool : ProxyPoolState}
    {eventType : String} {record : AuditLogRecord} (hrecord : Recorded eventType pool record)
    (htype : eventType = proxyPoolUpdatedEvent ∨ eventType = proxyHealthCheckedEvent)
    (hrevision : pool.revision = revisionOf (s.repository.pools.get? pool.key) + 1) :
    Revised ⟨s.repository.savePool pool, s.auditLog ++ [record]⟩ := by
  intro k
  show revisionOf ((s.repository.savePool pool).pools.get? k) =
    auditedRevisions k.1 k.2 (s.auditLog ++ [record])
  rw [get?_savePool, auditedRevisions_append_of_recorded hrecord htype]
  by_cases hk : k = pool.key
  · rw [if_pos hk, if_pos hk, ← h k, hk]
    exact hrevision
  · rw [if_neg hk, if_neg hk, ← h k, Nat.add_zero]

theorem revised_changes {call : ProxyCall} {s s' : ProxyState} (hplain : PlainPoolId (.call call))
    (hok : PoolsOk s) (h : Revised s) (hchanges : Changes py call s s') : Revised s' := by
  cases hchanges with
  | refused => exact h
  | upserted args pool record hcall hpool hkey hrevision hrecord =>
      refine h.savePool hrecord (.inl rfl) ?_
      have htrim : Text.trim args.poolId = args.poolId := by
        unfold PlainPoolId at hplain
        simp only [hcall] at hplain
        exact hplain
      rw [hrevision, hkey, htrim]
      unfold InMemoryProxyPoolRepository.getPool revisionAfter revisionOf
      cases s.repository.pools.get? (args.tenantId, args.poolId) with
      | none => rfl
      | some existing => rfl
  | checked args old pool record hcall hold hchecked hrecord =>
      have hwf := hok.wellFormed _ _ hold
      have hkey := hok.keyed _ _ hold
      have hpool := hchecked hwf
      refine h.savePool (hrecord hwf hkey) (.inr rfl) ?_
      rw [hpool.key, hkey, hpool.revision]
      unfold InMemoryProxyPoolRepository.getPool at hold
      rw [hold]
      rfl
  | leased args old index proxy log hcall hold hselected hlog =>
      intro k
      show revisionOf ((s.repository.savePool (old.leasedAt index)).pools.get? k) =
        auditedRevisions k.1 k.2 (s.auditLog ++ log)
      rw [get?_savePool, auditedRevisions_append_of_leases hlog, ← h k]
      split
      · rename_i hk
        have hkey : (old.leasedAt index).key = (args.tenantId, args.poolId) := by
          rw [key_leasedAt]
          exact hok.keyed _ _ hold
        unfold InMemoryProxyPoolRepository.getPool at hold
        rw [hk, hkey, hold]
        rfl
      · rfl

theorem revised_run (py : Stdlib) (urls : Urllib) (actions : List ProxyAction) (hplain : ∀ a ∈ actions, PlainPoolId a) :
    Revised (proxyRun py urls actions).shared := by
  refine (proxyRun_invariant (J := fun s => PoolsOk s ∧ Revised s) (A := PlainPoolId) ?_ ?_ actions
    hplain).2
  · exact ⟨poolsOk_initial, fun k => rfl⟩
  · rintro s a s' ha ⟨hok, h⟩ hstep
    cases hstep with
    | call call s' hchanges => exact ⟨hok.changes hchanges, revised_changes ha hok h hchanges⟩
    | resume i answer => exact ⟨hok, h⟩

/-! ## The law of the pools -/

/-- What a call that leases returns, if it returns: the lease of a live proxy of the pool. -/
def LeasesLive (pool : ProxyPoolState)
    (p : Pause proxyInterface ProxyState ProxyRotationError ProxyResult) : Prop :=
  match p with
  | .finished res => ∃ e, res = .error e
  | .suspended _ rest => ∃ lease : ProxyLease, ∃ proxy ∈ pool.proxies,
      (proxy.enabled = true ∧ proxy.healthStatus = .healthy) ∧
      (lease.fields.proxyId = proxy.proxyId ∧ lease.fields.healthStatus = .healthy) ∧
      ∀ answer s, (rest answer).advance s = (.finished (answer >>= fun _ => .ok (.lease lease)), s)

/-- INTERNAL: what is left of a lease once it is a call of the manager. -/
theorem delivers_map {proxy : ProxyEndpointState} {pool : ProxyPoolState} {s s' : ProxyState}
    {p : Pause proxyInterface ProxyState ProxyRotationError ProxyLease} {x : ProxyProgram ProxyLease}
    (hx : x.advance s = (p, s')) (hdelivers : Delivers proxy p) (hpool : WellFormed pool)
    (hproxy : proxy ∈ pool.proxies) (hlive : proxy.isLeasable = true) :
    LeasesLive pool ((ProxyResult.lease <$> x).advance s).1 := by
  rw [advance_map, hx]
  cases p with
  | finished res =>
      obtain ⟨e, rfl⟩ := hdelivers
      exact ⟨_, rfl⟩
  | suspended q rest =>
      obtain ⟨lease, hnames, hrest⟩ := hdelivers
      obtain ⟨henabled, hhealthy⟩ := isLeasable_iff.mp hlive
      refine ⟨lease, proxy, hproxy, ⟨henabled, hhealthy⟩, ⟨?_, ?_⟩, ?_⟩
      · rw [hnames.proxyId]
        exact hpool.trimmedProxyIds _ (List.mem_map_of_mem hproxy)
      · rw [hnames.healthStatus]
        exact hhealthy
      · intro answer s''
        show ((rest answer >>= fun a => pure (ProxyResult.lease a)).advance s'') = _
        rw [advance_bind, hrest]
        cases answer with
        | error e => rfl
        | ok u => rfl

/-- INTERNAL: the outcomes of a lease, as a call of the manager. -/
theorem lease_law {call : ProxyCall} {args : LeaseArgs} (hcall : call.operation = .lease args)
    {s : ProxyState} (hok : PoolsOk s) :
    (∀ pool, s.repository.getPool args.tenantId args.poolId = some pool →
      LeasesLive pool ((call.program py urls).advance s).1) ∧
    ((∃ message, ((call.program py urls).advance s).1 =
        .finished (.error (.proxyUnavailable message))) ↔
      ∃ pool selectedAt, s.repository.getPool args.tenantId args.poolId = some pool ∧
        resolveTime py call.env.now args.selectedAt = .ok selectedAt ∧
        ∀ proxy ∈ pool.proxies, proxy.isLeasable = false) := by
  have hprogram : call.program py urls = ProxyResult.lease <$> leaseProxy py call.env args := by
    unfold ProxyCall.program
    rw [hcall]
  rw [hprogram]
  have hleases : Leases py call.env args s _ := leases_leaseProxy call.env args s
  generalize hstart : (leaseProxy py call.env args).advance s = start at hleases
  cases hleases with
  | poolNotFound message hpool =>
      rw [advance_map, hstart]
      refine ⟨fun pool _ => ⟨_, rfl⟩, ?_⟩
      constructor
      · rintro ⟨message', h⟩
        cases h
      · rintro ⟨pool, selectedAt, hpool', _⟩
        rw [hpool] at hpool'
        cases hpool'
  | invalidTime pool e hpool htime =>
      rw [advance_map, hstart]
      refine ⟨fun pool _ => ⟨_, rfl⟩, ?_⟩
      constructor
      · rintro ⟨message', h⟩
        cases h
      · rintro ⟨pool', selectedAt, _, htime', _⟩
        rw [htime] at htime'
        cases htime'
  | unavailable pool selectedAt message hpool htime hnone =>
      rw [advance_map, hstart]
      refine ⟨fun pool _ => ⟨_, rfl⟩, ?_⟩
      constructor
      · intro _
        exact ⟨pool, selectedAt, hpool, htime, selectLiveProxy?_eq_none_iff.mp hnone⟩
      · intro _
        exact ⟨message, rfl⟩
  | selected pool selectedAt index proxy log p hpool htime hselected hlog hdelivers =>
      obtain ⟨hproxy, hlive⟩ := mem_of_selectLiveProxy? hselected
      have hlease := delivers_map hstart hdelivers (hok.wellFormed _ _ hpool) hproxy hlive
      refine ⟨?_, ?_⟩
      · intro pool' hpool'
        rw [hpool, Option.some.injEq] at hpool'
        rw [← hpool']
        exact hlease
      · constructor
        · rintro ⟨message, h⟩
          rw [advance_map, hstart] at h
          cases p with
          | finished res =>
              obtain ⟨e, rfl⟩ := hdelivers
              cases h
          | suspended q rest => cases h
        · rintro ⟨pool', _, hpool', _, hdead⟩
          rw [hpool, Option.some.injEq] at hpool'
          rw [← hpool'] at hdead
          rw [hdead proxy hproxy] at hlive
          cases hlive

/-- INTERNAL: a batch that names an unknown proxy changes nothing. -/
theorem advance_check_unknown (py : Stdlib) (urls : Urllib) {call : ProxyCall} {args : CheckArgs}
    (hcall : call.operation = .check args) {s : ProxyState} (hok : PoolsOk s)
    {pool : ProxyPoolState} (hpool : s.repository.getPool args.tenantId args.poolId = some pool)
    (h : ∃ check ∈ args.checks, ∀ proxy ∈ pool.proxies, proxy.proxyId ≠ check.fields.proxyId) :
    ∃ message, (call.program py urls).advance s =
      (.finished (.error (.rotation message)), s) := by
  have hprogram : call.program py urls =
      ProxyResult.checked <$> checkPoolHealth py call.env args := by
    unfold ProxyCall.program
    rw [hcall]
  have hnonempty : args.checks ≠ [] := by
    obtain ⟨check, hcheck, _⟩ := h
    exact List.ne_nil_of_mem hcheck
  obtain ⟨message, happly⟩ : ∃ message, applyProxyHealthChecks py pool args.checks args.checkedBy
      (args.updatedAt call.env.now) = .error (.rotation message) :=
    applyProxyHealthChecks_unknown (hok.wellFormed _ _ hpool) h
  refine ⟨message, ?_⟩
  rw [hprogram, advance_map]
  unfold checkPoolHealth
  rw [if_neg hnonempty, ProxyProgram.requirePool, advance_inspect_bind]
  unfold InMemoryProxyPoolRepository.requirePool
  rw [hpool]
  simp only
  rw [advance_ofExcept_bind, happly]
  rfl

/-- An upsert or a health check of the pool. -/
def Revises (tenantId poolId : String) (call : ProxyCall) : Prop :=
  match call.operation with
  | .upsert args => args.tenantId = tenantId ∧ Text.trim args.poolId = poolId
  | .check args => args.tenantId = tenantId ∧ args.poolId = poolId
  | .lease _ => False

/-- INTERNAL: one that comes to publish its event is audited, once. -/
theorem auditedRevisions_of_pending {c : ProxyRun} (hok : PoolsOk c.shared) {call : ProxyCall}
    {tenantId poolId : String} (hrevises : Revises tenantId poolId call)
    (h : (proxyStep py urls c (.call call)).pending c.tasks.length ≠ none) :
    auditedRevisions tenantId poolId (proxyStep py urls c (.call call)).shared.auditLog =
      auditedRevisions tenantId poolId c.shared.auditLog + 1 := by
  obtain ⟨_, hchanges, haudits⟩ := changes_program py urls call c.shared
  have hlease : ∀ args, call.operation ≠ .lease args := by
    intro args hcall
    unfold Revises at hrevises
    rw [hcall] at hrevises
    exact hrevises
  have hlogged : (proxyStep py urls c (.call call)).shared.auditLog ≠ c.shared.auditLog := by
    have hmore := haudits hlease
    unfold proxyStep at h ⊢
    rw [Config.step_call] at h ⊢
    rcases hstart : (call.program py urls).advance c.shared with ⟨p, s'⟩
    rw [hstart] at h hmore
    cases p with
    | finished res =>
        unfold Config.pending at h
        simp at h
    | suspended q rest => exact hmore
  have hshared : (proxyStep py urls c (.call call)).shared =
      ((call.program py urls).advance c.shared).2 := rfl
  rw [hshared] at hlogged ⊢
  generalize ((call.program py urls).advance c.shared).2 = s' at hchanges hlogged ⊢
  cases hchanges with
  | refused => exact absurd rfl hlogged
  | upserted args pool record hcall hpool hkey hrevision hrecord =>
      unfold Revises at hrevises
      simp only [hcall] at hrevises
      have hsame : (tenantId, poolId) = pool.key := by
        rw [hkey, hrevises.1, hrevises.2]
      have happend := auditedRevisions_append_of_recorded hrecord (.inl rfl) (tenantId, poolId)
        c.shared.auditLog
      rw [if_pos hsame] at happend
      exact happend
  | checked args old pool record hcall hold hchecked hrecord =>
      unfold Revises at hrevises
      simp only [hcall] at hrevises
      have hwf := hok.wellFormed _ _ hold
      have hkey := hok.keyed _ _ hold
      have hsame : (tenantId, poolId) = pool.key := by
        rw [(hchecked hwf).key, hkey, hrevises.1, hrevises.2]
      have happend := auditedRevisions_append_of_recorded (hrecord hwf hkey) (.inr rfl)
        (tenantId, poolId) c.shared.auditLog
      rw [if_pos hsame] at happend
      exact happend
  | leased args old index proxy log hcall hold hselected hlog => exact absurd hcall (hlease args)

/-- INTERNAL: one that does not come to publish its event has raised. -/
theorem raised_of_not_pending {c : ProxyRun} (call : ProxyCall)
    (h : (proxyStep py urls c (.call call)).pending c.tasks.length = none) :
    ∃ e, (proxyStep py urls c (.call call)).tasks = c.tasks ++ [⟨call, .finished (.error e)⟩] := by
  obtain ⟨hends, _⟩ := changes_program py urls call c.shared
  unfold proxyStep at h ⊢
  rw [Config.step_call] at h ⊢
  rcases hstart : (call.program py urls).advance c.shared with ⟨p, s'⟩
  rw [hstart] at h hends
  cases p with
  | finished res =>
      obtain ⟨e, rfl⟩ := hends
      exact ⟨e, rfl⟩
  | suspended q rest =>
      unfold Config.pending at h
      simp at h

/-- **The pool invariant**: in every state of every run each stored pool has its cursor within its
proxies, these distinct, sorted, none healthy but disabled, and counted by the three counts;
its revision is the number of its audited upserts and health checks, one for each that comes to
publish its event; a call that does not has raised; a lease is of a live proxy, or there is none and the call says so; a batch
with an unknown proxy changes nothing. -/
theorem proxyPools_invariant (py : Stdlib) (urls : Urllib) (actions : List ProxyAction) :
    let c := proxyRun py urls actions
    (∀ tenantId poolId pool, c.shared.repository.getPool tenantId poolId = some pool →
      pool.rotationCursor < pool.proxies.length ∧
      (pool.proxies.map (·.proxyId)).Nodup ∧ pool.proxies.Pairwise ProxyEndpointState.before ∧
      (∀ proxy ∈ pool.proxies, ¬ (proxy.enabled = false ∧ proxy.healthStatus = .healthy)) ∧
      pool.healthyProxyCount + pool.unhealthyProxyCount + pool.disabledProxyCount =
        pool.totalProxyCount ∧
      pool.totalProxyCount = pool.proxies.length) ∧
    ((∀ a ∈ actions, PlainPoolId a) →
      ∀ tenantId poolId pool, c.shared.repository.getPool tenantId poolId = some pool →
        pool.revision = auditedRevisions tenantId poolId c.shared.auditLog) ∧
    (∀ call tenantId poolId, Revises tenantId poolId call →
      (proxyStep py urls c (.call call)).pending c.tasks.length ≠ none →
      auditedRevisions tenantId poolId (proxyStep py urls c (.call call)).shared.auditLog =
        auditedRevisions tenantId poolId c.shared.auditLog + 1) ∧
    (∀ call, (proxyStep py urls c (.call call)).pending c.tasks.length = none →
      ∃ e, (proxyStep py urls c (.call call)).tasks = c.tasks ++ [⟨call, .finished (.error e)⟩]) ∧
    (∀ (call : ProxyCall) args, call.operation = .lease args →
      (∀ pool, c.shared.repository.getPool args.tenantId args.poolId = some pool →
        LeasesLive pool ((call.program py urls).advance c.shared).1) ∧
      ((∃ message, ((call.program py urls).advance c.shared).1 =
          .finished (.error (.proxyUnavailable message))) ↔
        ∃ pool selectedAt, c.shared.repository.getPool args.tenantId args.poolId = some pool ∧
          resolveTime py call.env.now args.selectedAt = .ok selectedAt ∧
          ∀ proxy ∈ pool.proxies, proxy.isLeasable = false)) ∧
    ∀ (call : ProxyCall) args pool, call.operation = .check args →
      c.shared.repository.getPool args.tenantId args.poolId = some pool →
      (∃ check ∈ args.checks, ∀ proxy ∈ pool.proxies, proxy.proxyId ≠ check.fields.proxyId) →
      (proxyStep py urls c (.call call)).shared = c.shared := by
  intro c
  have hok : PoolsOk c.shared := poolsOk_run actions
  refine ⟨?_, ?_, ?_, raised_of_not_pending, ?_, ?_⟩
  · intro tenantId poolId pool hget
    have hpool := hok.wellFormed _ _ hget
    refine ⟨hpool.cursor, hpool.distinct, hpool.sorted, ?_, hpool.counts_add, hpool.counted.total⟩
    rintro proxy hproxy ⟨hdisabled, hhealthy⟩
    rw [hpool.guarded proxy hproxy hhealthy] at hdisabled
    cases hdisabled
  · intro hplain tenantId poolId pool hget
    have hrevised := revised_run py urls actions hplain (tenantId, poolId)
    unfold InMemoryProxyPoolRepository.getPool at hget
    rw [hget] at hrevised
    exact hrevised
  · intro call tenantId poolId hrevises hpending
    exact auditedRevisions_of_pending hok hrevises hpending
  · intro call args hcall
    exact lease_law hcall hok
  · intro call args pool hcall hpool hunknown
    obtain ⟨message, hadvance⟩ := advance_check_unknown py urls hcall hok hpool hunknown
    unfold proxyStep
    rw [Config.step_call, hadvance]

end Runs

/-! ## A pool of two proxies -/

namespace Sample

/-- `urlsplit` and `urlunsplit`, on the URLs below. -/
def urls : Urllib where
  urlsplit _ := .ok
    { scheme := "http"
      netloc := "proxy.example:8080"
      path := ""
      query := ""
      fragment := ""
      username := none
      password := none
      hostname := some "proxy.example"
      port := .ok (some 8080) }
  urlunsplit scheme netloc path query fragment :=
    scheme ++ "://" ++ netloc ++ path ++ (if query = "" then "" else "?" ++ query) ++
      (if fragment = "" then "" else "#" ++ fragment)

def env : Ambient :=
  ⟨0, Reference.epoch_nonneg, Reference.epoch_le_datetimeMax, fun _ => Reference.uuid⟩

def config (proxyId : String) : ProxyEndpointConfig where
  proxyId := proxyId
  protocol := .http
  url := "http://proxy.example:8080"

def upsertArgs : UpsertArgs where
  tenantId := "media-center"
  poolId := "telegram-main"
  platform := "telegram"
  proxies := [config "proxy-1", config "proxy-2"]
  updatedBy := "council-1"
  correlationId := "corr-1"

def upsert : ProxyCall := ⟨env, .upsert upsertArgs⟩

variable (py : Stdlib)

def state (proxyId : String) : ProxyEndpointState where
  proxyId := proxyId
  protocol := .http
  redactedUrl := "http://proxy.example:8080"
  urlHash := scopedProxyHash py "http://proxy.example:8080"
  secretRefHash := none
  priority := 100
  enabled := true
  healthStatus := .healthy
  metadata := []

def pool (revision cursor : ℕ) (auditHash : String) : ProxyPoolState where
  tenantId := "media-center"
  poolId := "telegram-main"
  platform := "telegram"
  rotationStrategy := .roundRobin
  revision := revision
  rotationCursor := cursor
  totalProxyCount := 2
  healthyProxyCount := 2
  unhealthyProxyCount := 0
  disabledProxyCount := 0
  proxies := [state py "proxy-1", state py "proxy-2"]
  updatedBy := "council-1"
  updatedAt := 0
  auditHash := auditHash
  metadata := []

theorem lower_eq {s : String} (h : ∀ c ∈ s.toList, c.toNat < 256)
    (hlower : String.ofList (s.toList.map Text.lowerLatin1) = s) : py.lower s = s :=
  (py.lower_latin1 s h).trans hlower

theorem stateFromConfig_config {proxyId : String} (h : tokenPattern proxyId = true) :
    stateFromConfig py urls (config proxyId) = .ok (state py proxyId) := by
  have hscheme : py.lower "http" = "http" := lower_eq py (by decide) (by decide)
  have hurl : redactedProxyUrl py urls "http://proxy.example:8080" =
      .ok "http://proxy.example:8080" := by
    have hparts : redactedProxyUrl py urls "http://proxy.example:8080" =
        .ok (urls.urlunsplit (py.lower "http") "proxy.example:8080" "" "" "") := rfl
    rw [hparts, hscheme]
    decide
  have htrim : Text.trim "http://proxy.example:8080" = "http://proxy.example:8080" := by
    decide
  have hvalid : ∀ c ∈ ProxyEndpointState.checks (state py proxyId), c.2 = true := by
    have hhash : refHashPattern (scopedProxyHash py "http://proxy.example:8080") = true :=
      refHashPattern_sha256 py _
    have hlength : hasLength 1 2048 "http://proxy.example:8080" = true := by decide
    have hpriority : decide (100 ≤ 10000) = true := by decide
    unfold ProxyEndpointState.checks
    simp only [List.forall_mem_cons]
    exact ⟨h, hlength, hhash, rfl, hpriority, rfl, fun c hc => absurd hc List.not_mem_nil⟩
  have hmade := Validated.make_of_valid "ProxyEndpointState" _ hvalid
  unfold stateFromConfig config
  simp only [hurl, bind, Except.bind, htrim, trim_of_tokenPattern h]
  have hstate := congrArg (fun made => made.map fun m => m.fields) hmade
  exact hstate

/-- INTERNAL: the pool an upsert builds, over whatever pool there is. -/
theorem pool_upsertArgs (existing : Option ProxyPoolState) :
    upsertArgs.pool py existing 0 [state py "proxy-1", state py "proxy-2"] =
      .ok (pool py (revisionAfter existing) 0 defaultProxyAuditHash) := by
  have hsorted : [state py "proxy-1", state py "proxy-2"].insertionSort
      ProxyEndpointState.before = [state py "proxy-1", state py "proxy-2"] := by
    apply List.Pairwise.insertionSort_eq
    rw [List.pairwise_pair]
    have horder : "proxy-1" ≤ "proxy-2" := by decide
    exact .inr ⟨rfl, horder⟩
  have hplatform : Text.trim (py.lower (Text.strip "telegram")) = "telegram" := by
    have hstrip : Text.strip "telegram" = "telegram" := by decide
    rw [hstrip, lower_eq py (by decide) (by decide)]
    decide
  have hvalid : ∀ c ∈ ProxyPoolState.checks
      (pool py (revisionAfter existing) 0 defaultProxyAuditHash), c.2 = true := by
    have hrevision : decide (1 ≤ revisionAfter existing) = true := by
      rw [decide_eq_true_eq]
      cases existing with
      | none => exact le_refl 1
      | some old => exact Nat.le_add_left 1 _
    have htenant : tenantIdPattern "media-center" = true := by decide
    have hpoolId : tokenPattern "telegram-main" = true := by decide
    have hplatformPattern : platformPattern "telegram" = true := by decide
    have htotal : decide (1 ≤ 2) = true := by decide
    have hupdatedBy : tokenPattern "council-1" = true := by decide
    have hhash : auditHashPattern defaultProxyAuditHash = true := by decide
    unfold ProxyPoolState.checks
    simp only [List.forall_mem_cons]
    exact ⟨htenant, hpoolId, hplatformPattern, hrevision, htotal, rfl, hupdatedBy, hhash,
      fun c hc => absurd hc List.not_mem_nil⟩
  have hmade := Validated.make_of_valid "ProxyPoolState" _ hvalid
  have htrim : Text.trim "media-center" = "media-center" ∧
      Text.trim "telegram-main" = "telegram-main" ∧ Text.trim "council-1" = "council-1" ∧
      Text.trim defaultProxyAuditHash = defaultProxyAuditHash := by decide
  unfold UpsertArgs.pool buildProxyPoolState upsertArgs
  simp only [hplatform, htrim.1, htrim.2.1, htrim.2.2.1, htrim.2.2.2, hsorted]
  have hstate := congrArg (fun made => (made.mapError ProxyRotationError.shared).map
    fun m => m.fields) hmade
  exact hstate

/-- What is left of a call that only waits for its publisher. -/
def Awaits (result : ProxyResult)
    (p : Pause proxyInterface ProxyState ProxyRotationError ProxyResult) : Prop :=
  match p with
  | .finished _ => False
  | .suspended _ rest => ∀ answer s,
      (rest answer).advance s = (.finished (answer >>= fun _ => .ok result), s)

theorem awaits_publishEvent {α : Type} {args event : EventEnvelope}
    (hevent : eventEnvelope args = .ok event) (f : α → ProxyResult) (a : α) (s : ProxyState) :
    Awaits (f a) (Pause.andThen (fun a => pure (f a))
        ((ProxyProgram.publishEvent args >>= fun _ => pure a).advance s)).1 ∧
      (Pause.andThen (fun a => pure (f a))
        ((ProxyProgram.publishEvent args >>= fun _ => pure a).advance s)).2 = s := by
  unfold ProxyProgram.publishEvent
  rw [advance_bind, advance_shared_bind, hevent]
  refine ⟨?_, rfl⟩
  intro answer s'
  cases answer with
  | error e => rfl
  | ok u => rfl

/-- INTERNAL: the record and the event of a call of this tenant are accepted. -/
theorem exists_auditRecord {args : AuditArgs} (htenant : args.tenantId = "media-center")
    (htype : isEventType (Text.trim args.eventType) = true)
    (hcorrelation : args.correlationId = some "corr-1") :
    ∃ record, auditRecord py args = .ok record := by
  rw [exists_auditRecord_eq_ok_iff, htenant, hcorrelation]
  refine ⟨by decide, htype, ?_⟩
  decide

theorem exists_event {eventId type : String} {occurredAt : Instant} {payload : JSONObject}
    (hid : tokenPattern eventId = true) (htype : normalizeEventType type = .ok type) :
    ∃ event, eventEnvelope (proxyEvent eventId type "media-center" "corr-1" occurredAt payload) =
      .ok event := by
  have hversion : normalizeSchemaVersion proxyRotationSchemaVersion =
      .ok proxyRotationSchemaVersion := by decide
  have htenant : tenantIdPattern "media-center" = true := by decide
  have hdot : "media-center".toList.contains '.' = false := by decide
  have hsource : tokenPattern proxyRotationSource = true := by decide
  have hcorrelation : tokenPattern "corr-1" = true := by decide
  exact ⟨_, eventEnvelope_of_tokens hid htype hversion htenant hdot hsource hcorrelation rfl⟩

theorem eventTypes : isEventType (Text.trim proxyPoolUpdatedEvent) = true ∧
    normalizeEventType proxyPoolUpdatedEvent = .ok proxyPoolUpdatedEvent ∧
    isEventType (Text.trim proxyLeasedEvent) = true ∧
    normalizeEventType proxyLeasedEvent = .ok proxyLeasedEvent := by
  decide

theorem eventIds : tokenPattern (newId "evt-proxy-pool-updated" Reference.uuid) = true ∧
    tokenPattern (newId "evt-proxy-leased" Reference.uuid) = true ∧
    tokenPattern (newId "proxy-lease" Reference.uuid) = true := by
  decide

/-- The sample's pool in a state. -/
def poolOf (s : ProxyState) : Option ProxyPoolState :=
  s.repository.getPool "media-center" "telegram-main"

/-- INTERNAL: the upsert stores its pool and awaits its publisher. -/
theorem advance_upsert (s : ProxyState) : ∃ auditHash record,
    Awaits (.pool (pool py (revisionAfter (poolOf s)) 0 auditHash))
        ((upsert.program py urls).advance s).1 ∧
      ((upsert.program py urls).advance s).2 =
        ⟨s.repository.savePool (pool py (revisionAfter (poolOf s)) 0 auditHash),
          s.auditLog ++ [record]⟩ := by
  have hstates : upsertArgs.proxies.mapM (stateFromConfig py urls) =
      .ok [state py "proxy-1", state py "proxy-2"] := by
    have hids : tokenPattern "proxy-1" = true ∧ tokenPattern "proxy-2" = true := by decide
    show [config "proxy-1", config "proxy-2"].mapM (stateFromConfig py urls) = _
    rw [List.mapM_cons, stateFromConfig_config py hids.1, List.mapM_cons,
      stateFromConfig_config py hids.2]
    rfl
  have hunique : ensureUniqueProxyIds [state py "proxy-1", state py "proxy-2"] = .ok () := by
    unfold ensureUniqueProxyIds
    rw [if_pos]
    show ["proxy-1", "proxy-2"].Nodup
    decide
  have hbuild := pool_upsertArgs py (poolOf s)
  obtain ⟨record, hrecord⟩ : ∃ record, auditRecord py (upsertArgs.auditArgs py
      (pool py (revisionAfter (poolOf s)) 0 defaultProxyAuditHash) 0) = .ok record :=
    exists_auditRecord py rfl eventTypes.1 rfl
  obtain ⟨event, hevent⟩ : ∃ event, eventEnvelope (upsertArgs.event env
      (pool py (revisionAfter (poolOf s)) 0 record.fields.auditHash) 0) = .ok event :=
    exists_event eventIds.1 eventTypes.2.1
  refine ⟨record.fields.auditHash, record, ?_⟩
  have hnonempty : upsertArgs.proxies ≠ [] := List.cons_ne_nil _ _
  have htime : resolveTime py env.now upsertArgs.updatedAt = .ok 0 := rfl
  show Awaits _ ((ProxyResult.pool <$> upsertPool py urls env upsertArgs).advance s).1 ∧
    ((ProxyResult.pool <$> upsertPool py urls env upsertArgs).advance s).2 = _
  rw [advance_map]
  unfold upsertPool
  rw [if_neg hnonempty, advance_inspect_bind]
  simp only
  rw [advance_shared_bind, htime]
  simp only
  rw [advance_shared_bind, hstates]
  simp only
  rw [advance_ofExcept_bind, hunique]
  simp only
  rw [advance_ofExcept_bind]
  have hbuild' : upsertArgs.pool py (s.repository.getPool upsertArgs.tenantId upsertArgs.poolId) 0
      [state py "proxy-1", state py "proxy-2"] = _ := hbuild
  rw [hbuild']
  simp only
  rw [advance_recordAudit_bind, hrecord]
  simp only
  rw [advance_savePool_bind]
  exact awaits_publishEvent hevent ProxyResult.pool _ _

def leaseArgs : LeaseArgs where
  tenantId := "media-center"
  poolId := "telegram-main"
  leasedBy := "council-1"
  correlationId := "corr-1"

def lease : ProxyCall := ⟨env, .lease leaseArgs⟩

/-- The proxy at a place of the pool. -/
def proxyAt (cursor : Fin 2) : String := if cursor = 0 then "proxy-1" else "proxy-2"

theorem selectLiveProxy?_pool (revision : ℕ) (cursor : Fin 2) (auditHash : String) :
    selectLiveProxy? (pool py revision cursor auditHash) =
      some (cursor.val, state py (proxyAt cursor)) := by
  match cursor with
  | 0 => rfl
  | 1 => rfl

theorem exists_lease (revision : ℕ) (hrevision : 1 ≤ revision) (cursor : Fin 2)
    (auditHash : String) {recordHash : String} (hhash : auditHashPattern recordHash = true) :
    ∃ lease, leaseArgs.lease (pool py revision cursor auditHash) (state py (proxyAt cursor))
        (newId "proxy-lease" Reference.uuid) 0 recordHash = .ok lease := by
  unfold LeaseArgs.lease
  rw [Validated.exists_make_eq_ok_iff]
  have htenant : tenantIdPattern (Text.trim "media-center") = true := by decide
  have hpoolId : tokenPattern (Text.trim "telegram-main") = true := by decide
  have hleaseId : tokenPattern (Text.trim (newId "proxy-lease" Reference.uuid)) = true := by
    rw [trim_of_tokenPattern eventIds.2.2]
    exact eventIds.2.2
  have hproxyId : ∀ i : Fin 2, tokenPattern (Text.trim (proxyAt i)) = true := by decide
  have hurl : hasLength 1 2048 (Text.trim "http://proxy.example:8080") = true := by
    decide
  have hurlHash : refHashPattern (Text.trim (scopedProxyHash py "http://proxy.example:8080")) =
      true := by
    have hpattern : refHashPattern (scopedProxyHash py "http://proxy.example:8080") = true :=
      refHashPattern_sha256 py _
    rw [trim_of_refHashPattern hpattern]
    exact hpattern
  have hrecordHash : auditHashPattern (Text.trim recordHash) = true := by
    have hvisible := hhash
    unfold auditHashPattern at hvisible
    rw [Bool.and_eq_true, List.all_eq_true] at hvisible
    rw [Text.trim_of_forall_visible fun c hc => visible_of_isHexChar (hvisible.2 c hc)]
    exact hhash
  unfold LeaseFields.checks
  simp only [List.forall_mem_cons]
  exact ⟨htenant, hpoolId, hleaseId, hproxyId cursor, hurl, hurlHash, rfl,
    decide_eq_true hrevision, hrecordHash, fun c hc => absurd hc List.not_mem_nil⟩

/-- INTERNAL: a lease takes the proxy at the cursor and awaits its publisher. -/
theorem advance_lease {s : ProxyState} {revision : ℕ} {cursor : Fin 2} {auditHash : String}
    (hpool : poolOf s = some (pool py revision cursor auditHash)) (hrevision : 1 ≤ revision) :
    ∃ lease log, lease.fields.proxyId = proxyAt cursor ∧
      Awaits (.lease lease) ((Sample.lease.program py urls).advance s).1 ∧
      ((Sample.lease.program py urls).advance s).2 =
        ⟨s.repository.savePool (pool py revision ((cursor + 1 : ℕ) % 2) auditHash), log⟩ := by
  have htime : resolveTime py env.now leaseArgs.selectedAt = .ok 0 := rfl
  obtain ⟨record, hrecord⟩ : ∃ record, auditRecord py (leaseArgs.auditArgs py
      (pool py revision cursor auditHash) (state py (proxyAt cursor))
      (newId "proxy-lease" Reference.uuid) 0) = .ok record :=
    exists_auditRecord py rfl eventTypes.2.2.1 rfl
  obtain ⟨made, hmade⟩ := exists_lease py revision hrevision cursor auditHash
    (auditHashPattern_auditHash record)
  obtain ⟨event, hevent⟩ : ∃ event, eventEnvelope (leaseArgs.event env
      (pool py revision cursor auditHash) (state py (proxyAt cursor)) made 0) = .ok event :=
    exists_event eventIds.2.1 eventTypes.2.2.2
  have hproxyId : made.fields.proxyId = proxyAt cursor := by
    have htrim : ∀ i : Fin 2, Text.trim (proxyAt i) = proxyAt i := by decide
    unfold LeaseArgs.lease at hmade
    rw [Validated.make_eq_ok_iff] at hmade
    rw [hmade]
    exact htrim cursor
  refine ⟨made, s.auditLog ++ [record], hproxyId, ?_⟩
  show Awaits _ ((ProxyResult.lease <$> leaseProxy py env leaseArgs).advance s).1 ∧
    ((ProxyResult.lease <$> leaseProxy py env leaseArgs).advance s).2 = _
  have hrequire : s.repository.requirePool leaseArgs.tenantId leaseArgs.poolId =
      .ok (pool py revision cursor auditHash) := by
    unfold InMemoryProxyPoolRepository.requirePool
    have hget : s.repository.getPool leaseArgs.tenantId leaseArgs.poolId = _ := hpool
    rw [hget]
  rw [advance_map]
  unfold leaseProxy
  rw [ProxyProgram.requirePool, advance_inspect_bind, hrequire]
  simp only
  rw [advance_shared_bind, htime]
  simp only
  rw [advance_ofExcept_bind, selectLiveProxy, selectLiveProxy?_pool]
  simp only
  rw [advance_savePool_bind, advance_recordAudit_bind]
  have hrecord' : auditRecord py (leaseArgs.auditArgs py (pool py revision cursor auditHash)
      (state py (proxyAt cursor)) (newId "proxy-lease" (env.uuid 0)) 0) = .ok record := hrecord
  rw [hrecord']
  simp only
  have hmade' : leaseArgs.lease (pool py revision cursor auditHash) (state py (proxyAt cursor))
      (newId "proxy-lease" (env.uuid 0)) 0 record.fields.auditHash = .ok made := hmade
  rw [advance_shared_bind, hmade']
  exact awaits_publishEvent hevent ProxyResult.lease _ _

/-- INTERNAL: a call whose publisher answers at once. -/
theorem run_call_answer {c : ProxyRun} {call : ProxyCall} {result : ProxyResult}
    {s' : ProxyState} (hawaits : Awaits result ((call.program py urls).advance c.shared).1)
    (hstate : ((call.program py urls).advance c.shared).2 = s')
    (answer : Except ProxyRotationError Unit) :
    Config.run (ProxyCall.program py urls) c
        [.call call, .resume c.tasks.length (fun _ => answer)] =
      ⟨s', c.tasks ++ [⟨call, .finished (answer >>= fun _ => .ok result)⟩],
        (Config.run (ProxyCall.program py urls) c
          [.call call, .resume c.tasks.length (fun _ => answer)]).answered⟩ := by
  rw [Config.run_cons, Config.run_cons, Config.run_nil, Config.step_call]
  rcases hstart : (call.program py urls).advance c.shared with ⟨p, s''⟩
  rw [hstart] at hawaits hstate
  cases p with
  | finished res => exact absurd hawaits id
  | suspended q rest =>
      have htask : (c.tasks ++ [(⟨call, .suspended q rest⟩ : Task ProxyCall proxyInterface
          ProxyState ProxyRotationError ProxyResult)])[c.tasks.length]? =
          some ⟨call, .suspended q rest⟩ := by
        rw [List.getElem?_append_right (le_refl _), Nat.sub_self]
        rfl
      rw [Config.step_resume (ProxyCall.program py urls) htask, hawaits]
      simp only at hstate
      simp only [hstate, List.set_append_right _ _ (le_refl c.tasks.length), Nat.sub_self,
        List.set_cons_zero]

theorem getPool_savePool (s : ProxyState) (revision cursor : ℕ) (auditHash : String)
    (log : List AuditLogRecord) :
    poolOf ⟨s.repository.savePool (pool py revision cursor auditHash), log⟩ =
      some (pool py revision cursor auditHash) := by
  show ((s.repository.savePool (pool py revision cursor auditHash)).pools.get? _) = _
  rw [get?_savePool, if_pos]
  rfl

/-- INTERNAL: the sample's pool is stored by its first upsert. -/
theorem run_upsert (answer : Except ProxyRotationError Unit) :
    ∃ auditHash, poolOf (proxyRun py urls [.call upsert, .resume 0 (fun _ => answer)]).shared =
        some (pool py 1 0 auditHash) ∧
      (proxyRun py urls [.call upsert, .resume 0 (fun _ => answer)]).tasks =
        [⟨upsert, .finished (answer >>= fun _ => .ok (.pool (pool py 1 0 auditHash)))⟩] := by
  obtain ⟨auditHash, record, hawaits, hstate⟩ := advance_upsert py .initial
  have hrun := run_call_answer py (c := .initial .initial) hawaits hstate answer
  have hrun' : proxyRun py urls [.call upsert, .resume 0 (fun _ => answer)] = _ := hrun
  refine ⟨auditHash, ?_, ?_⟩
  · rw [hrun']
    exact getPool_savePool py _ _ _ _ _
  · rw [hrun']
    rfl

/-- INTERNAL: the second upsert has stored its pool when its publisher fails. -/
theorem run_refusedEvent : ∃ first stored,
    (proxyRun py urls [.call upsert, .resume 0 (fun _ => .ok ()), .call upsert,
        .resume 1 (fun _ => .error (.rotation "publisher"))]).tasks.map (fun t => t.pause) =
      [.finished (.ok (.pool first)), .finished (.error (.rotation "publisher"))] ∧
    (proxyRun py urls [.call upsert, .resume 0 (fun _ => .ok ()), .call upsert,
        .resume 1 (fun _ => .error (.rotation "publisher"))]).shared.repository.getPool
      "media-center" "telegram-main" = some stored ∧
    stored.revision = 2 := by
  obtain ⟨firstHash, hpool, htasks⟩ := run_upsert py (.ok ())
  have hsplit : proxyRun py urls [.call upsert, .resume 0 (fun _ => .ok ()), .call upsert,
      .resume 1 (fun _ => .error (.rotation "publisher"))] =
    Config.run (ProxyCall.program py urls)
      (proxyRun py urls [.call upsert, .resume 0 (fun _ => .ok ())])
      [.call upsert, .resume 1 (fun _ => .error (.rotation "publisher"))] :=
    Config.run_append _ _ [_, _] _
  rw [hsplit]
  generalize proxyRun py urls [.call upsert, .resume 0 (fun _ => .ok ())] = before
    at hpool htasks
  obtain ⟨auditHash, record, hawaits, hstate⟩ := advance_upsert py before.shared
  have hrun := run_call_answer py hawaits hstate (.error (.rotation "publisher"))
  have hlength : before.tasks.length = 1 := by
    rw [htasks]
    rfl
  rw [hlength] at hrun
  rw [hpool] at hstate hrun
  have hstored := getPool_savePool py before.shared 2 0 auditHash
    (before.shared.auditLog ++ [record])
  unfold poolOf at hstored
  refine ⟨pool py 1 0 firstHash, pool py 2 0 auditHash, ?_, ?_, rfl⟩
  · rw [hrun]
    simp only [htasks]
    rfl
  · rw [hrun]
    exact hstored

/-- A health check of a proxy that the pool does not have. -/
def unknownCheck : ProxyCall := ⟨env, .check
  { tenantId := "media-center"
    poolId := "telegram-main"
    checks := [⟨{ proxyId := "proxy-9", alive := true }, by decide⟩]
    checkedBy := "council-1"
    correlationId := "corr-1" }⟩

end Sample

open Reference in
/-- The state after an upsert, a lease there, and a check of an unknown proxy. -/
theorem proxyPools_invariant_upsert :
    let c := proxyRun stdlib Sample.urls
      [.call Sample.upsert, .resume 0 (fun _ => .ok ())]
    ∃ pool, c.shared.repository.getPool "media-center" "telegram-main" = some pool ∧
      pool.rotationCursor < pool.proxies.length ∧
      pool.revision = auditedRevisions "media-center" "telegram-main" c.shared.auditLog ∧
      LeasesLive pool ((Sample.lease.program stdlib Sample.urls).advance c.shared).1 ∧
      (proxyStep stdlib Sample.urls c (.call Sample.unknownCheck)).shared =
        c.shared := by
  obtain ⟨auditHash, hpool, _⟩ := Sample.run_upsert stdlib (.ok ())
  unfold Sample.poolOf at hpool
  have hplain : ∀ a ∈ ([.call Sample.upsert, .resume 0 (fun _ => .ok ())] : List ProxyAction),
      PlainPoolId a := by
    intro a ha
    rcases List.mem_cons.mp ha with rfl | ha
    · show Text.trim "telegram-main" = "telegram-main"
      decide
    · rw [List.mem_singleton] at ha
      rw [ha]
      trivial
  obtain ⟨hstored, hrevision, _, _, hlease, hcheck⟩ := proxyPools_invariant stdlib
    Sample.urls [.call Sample.upsert, .resume 0 (fun _ => .ok ())]
  replace hrevision := hrevision hplain
  generalize proxyRun stdlib Sample.urls
    [.call Sample.upsert, .resume 0 (fun _ => .ok ())] = c
    at hpool hstored hrevision hlease hcheck ⊢
  have hunknown : ∀ proxy ∈ (Sample.pool stdlib 1 0 auditHash).proxies,
      proxy.proxyId ≠ "proxy-9" := by
    have hids : ∀ proxyId ∈ ["proxy-1", "proxy-2"], proxyId ≠ "proxy-9" := by decide
    exact fun proxy hproxy => hids proxy.proxyId (List.mem_map_of_mem hproxy)
  exact ⟨_, hpool, (hstored _ _ _ hpool).1, hrevision _ _ _ hpool,
    (hlease Sample.lease _ rfl).1 _ hpool,
    hcheck Sample.unknownCheck _ _ rfl hpool ⟨_, List.mem_singleton_self _, hunknown⟩⟩

/-- After the first upsert no call succeeds, and the revision is 2: the second upsert has stored
its pool before its event is refused. -/
theorem proxyPools_refusedEvent :
    let c := proxyRun Reference.stdlib Sample.urls
      [.call Sample.upsert, .resume 0 (fun _ => .ok ()), .call Sample.upsert,
        .resume 1 (fun _ => .error (.rotation "publisher"))]
    ∃ first stored, c.tasks.map (fun t => t.pause) =
        [.finished (.ok (.pool first)), .finished (.error (.rotation "publisher"))] ∧
      c.shared.repository.getPool "media-center" "telegram-main" = some stored ∧
      stored.revision = 2 := by
  exact Sample.run_refusedEvent Reference.stdlib

end MediaCenter.NeuroAgentOrchestrator
