import MediaCenter.Library.Dict
import MediaCenter.Library.Interleaving
import MediaCenter.Model.Shared.AuditLogger
import MediaCenter.Model.Shared.Events

/-!
# Proxy rotation (`neuro_agent_orchestrator/proxy_rotation.py`)

A pool keeps its proxies sorted, a cursor into them and three counts.  A lease moves the cursor,
a health check rebuilds the pool around it, an upsert replaces the pool.
-/

set_option autoImplicit false

namespace MediaCenter.NeuroAgentOrchestrator

open MediaCenter.Library MediaCenter.Shared

def proxyRotationSource : String := "neuro-agent-orchestrator"

def proxyRotationSchemaVersion : String := "1.0"

def proxyPoolUpdatedEvent : String := "neuro_agent.proxy_pool.updated"

def proxyHealthCheckedEvent : String := "neuro_agent.proxy_health.checked"

def proxyLeasedEvent : String := "neuro_agent.proxy.leased"

def defaultProxyAuditHash : String := String.ofList (List.replicate 64 '0')

inductive ProxyRotationError : Type where
  | shared (e : SharedException)
  | rotation (message : String)
  | proxyPoolNotFound (message : String)
  | proxyUnavailable (message : String)
  deriving DecidableEq, Repr

inductive ProxyProtocol : Type where
  | http
  | socks5
  | mtproto
  deriving DecidableEq, Repr

def ProxyProtocol.value : ProxyProtocol → String
  | .http => "http"
  | .socks5 => "socks5"
  | .mtproto => "mtproto"

inductive ProxyHealthStatus : Type where
  | healthy
  | unhealthy
  | disabled
  deriving DecidableEq, Repr

inductive ProxyRotationStrategy : Type where
  | roundRobin
  deriving DecidableEq, Repr

def ProxyRotationStrategy.value : ProxyRotationStrategy → String
  | .roundRobin => "round_robin"

/-! ## URLs -/

/-- The result of `urlsplit`, with the parts its properties read out of `netloc`. -/
structure SplitResult where
  scheme : String
  netloc : String
  path : String
  query : String
  fragment : String
  username : Option String
  password : Option String
  hostname : Option String
  /-- Reading the port raises `ValueError` where it is no number up to 65535. -/
  port : Except SharedException (Option ℕ)

/-- Functions of `urllib.parse`. -/
structure Urllib where
  urlsplit : String → Except SharedException SplitResult
  urlunsplit : (scheme netloc path query fragment : String) → String

/-- `_redacted_proxy_url`. -/
def redactedProxyUrl (py : Stdlib) (urls : Urllib) (value : String) :
    Except SharedException String := do
  let parts ← urls.urlsplit value
  let netloc ← if parts.username.isSome || parts.password.isSome then do
      let port ← parts.port
      let suffix := match port with
        | some p => ":" ++ toString p
        | none => ""
      pure (parts.hostname.getD "" ++ suffix)
    else pure parts.netloc
  return urls.urlunsplit (py.lower parts.scheme) netloc parts.path parts.query ""

/-- `_scoped_proxy_hash`. -/
def scopedProxyHash (py : Stdlib) (value : String) : String := "sha256:" ++ py.sha256Hex value

/-! ## Contracts -/

structure ProxyEndpointConfig where
  proxyId : String
  protocol : ProxyProtocol
  url : String
  secretRef : Option String := none
  priority : ℕ := 100
  enabled : Bool := true
  metadata : JSONObject := []

structure ProxyEndpointState where
  proxyId : String
  protocol : ProxyProtocol
  redactedUrl : String
  urlHash : String
  secretRefHash : Option String
  priority : ℕ
  enabled : Bool
  healthStatus : ProxyHealthStatus
  consecutiveFailures : ℕ := 0
  successCount : ℕ := 0
  lastCheckedAt : Option Instant := none
  lastLatencyMs : Option ℕ := none
  lastFailureReason : Option String := none
  metadata : JSONObject

namespace ProxyEndpointState

def checks (f : ProxyEndpointState) : List (String × Bool) :=
  [("proxy_id", tokenPattern f.proxyId),
    ("redacted_url", hasLength 1 2048 f.redactedUrl),
    ("url_hash", refHashPattern f.urlHash),
    ("secret_ref_hash", optionalField refHashPattern f.secretRefHash),
    ("priority", decide (f.priority ≤ 10000)),
    ("last_failure_reason", optionalField reasonCodePattern f.lastFailureReason)]

def isLeasable (proxy : ProxyEndpointState) : Bool :=
  proxy.enabled && decide (proxy.healthStatus = .healthy)

/-- The sort key `(item.priority, item.proxy_id)`, compared. -/
def before (a b : ProxyEndpointState) : Prop :=
  a.priority < b.priority ∨ (a.priority = b.priority ∧ a.proxyId ≤ b.proxyId)

instance : DecidableRel before := fun a b => by
  unfold before
  infer_instance

end ProxyEndpointState

/-- `^[a-z][a-z0-9_-]{0,63}$` (`_PLATFORM_PATTERN`). -/
def platformPattern (s : String) : Bool :=
  Text.matchesHeadTail Text.isAsciiLower
    (fun c => Text.isAsciiLower c || Text.isAsciiDigit c || c == '_' || c == '-') 63 s

structure ProxyPoolState where
  tenantId : String
  poolId : String
  platform : String
  rotationStrategy : ProxyRotationStrategy
  revision : ℕ
  rotationCursor : ℕ
  totalProxyCount : ℕ
  healthyProxyCount : ℕ
  unhealthyProxyCount : ℕ
  disabledProxyCount : ℕ
  proxies : List ProxyEndpointState
  updatedBy : String
  updatedAt : Instant
  auditHash : String
  metadata : JSONObject

def ProxyPoolState.checks (f : ProxyPoolState) : List (String × Bool) :=
  [("tenant_id", tenantIdPattern f.tenantId),
    ("pool_id", tokenPattern f.poolId),
    ("platform", platformPattern f.platform),
    ("revision", decide (1 ≤ f.revision)),
    ("total_proxy_count", decide (1 ≤ f.totalProxyCount)),
    ("proxies", !f.proxies.isEmpty),
    ("updated_by", tokenPattern f.updatedBy),
    ("audit_hash", auditHashPattern f.auditHash)]

def ProxyPoolState.key (pool : ProxyPoolState) : String × String := (pool.tenantId, pool.poolId)

structure SignalFields where
  proxyId : String
  alive : Bool
  checkedAt : Option Instant := none
  latencyMs : Option ℕ := none
  reasonCode : Option String := none

def SignalFields.checks (f : SignalFields) : List (String × Bool) :=
  [("proxy_id", tokenPattern f.proxyId),
    ("reason_code", optionalField reasonCodePattern f.reasonCode)]

abbrev ProxyHealthSignal : Type := Validated SignalFields.checks

structure CheckResultFields where
  tenantId : String
  poolId : String
  checkedProxyCount : ℕ
  healthyProxyCount : ℕ
  unhealthyProxyCount : ℕ
  auditHash : String
  pool : ProxyPoolState

def CheckResultFields.checks (f : CheckResultFields) : List (String × Bool) :=
  [("tenant_id", tenantIdPattern f.tenantId),
    ("pool_id", tokenPattern f.poolId),
    ("checked_proxy_count", decide (1 ≤ f.checkedProxyCount)),
    ("audit_hash", auditHashPattern f.auditHash)]

abbrev ProxyHealthCheckResult : Type := Validated CheckResultFields.checks

structure LeaseFields where
  tenantId : String
  poolId : String
  leaseId : String
  proxyId : String
  protocol : ProxyProtocol
  redactedUrl : String
  urlHash : String
  secretRefHash : Option String
  healthStatus : ProxyHealthStatus
  poolRevision : ℕ
  rotationStrategy : ProxyRotationStrategy
  selectedAt : Instant
  auditHash : String

def LeaseFields.checks (f : LeaseFields) : List (String × Bool) :=
  [("tenant_id", tenantIdPattern f.tenantId),
    ("pool_id", tokenPattern f.poolId),
    ("lease_id", tokenPattern f.leaseId),
    ("proxy_id", tokenPattern f.proxyId),
    ("redacted_url", hasLength 1 2048 f.redactedUrl),
    ("url_hash", refHashPattern f.urlHash),
    ("secret_ref_hash", optionalField refHashPattern f.secretRefHash),
    ("pool_revision", decide (1 ≤ f.poolRevision)),
    ("audit_hash", auditHashPattern f.auditHash)]

abbrev ProxyLease : Type := Validated LeaseFields.checks

/-! ## Building pools -/

/-- `_state_from_config`. -/
def stateFromConfig (py : Stdlib) (urls : Urllib) (config : ProxyEndpointConfig) :
    Except SharedException ProxyEndpointState := do
  let redactedUrl ← redactedProxyUrl py urls config.url
  let state ← Validated.make "ProxyEndpointState" ProxyEndpointState.checks
    { proxyId := Text.trim config.proxyId
      protocol := config.protocol
      redactedUrl := Text.trim redactedUrl
      urlHash := scopedProxyHash py config.url
      secretRefHash := config.secretRef.map (scopedProxyHash py)
      priority := config.priority
      enabled := config.enabled
      healthStatus := if config.enabled then .healthy else .disabled
      metadata := config.metadata }
  return state.fields

/-- `_ensure_unique_proxy_ids`. -/
def ensureUniqueProxyIds (proxies : List ProxyEndpointState) : Except ProxyRotationError Unit :=
  if (proxies.map (·.proxyId)).Nodup then .ok ()
  else .error (.rotation "proxy_id должен быть уникальным внутри пула")

/-- What `build_proxy_pool_state` is given. -/
structure PoolArgs where
  tenantId : String
  poolId : String
  platform : String
  rotationStrategy : ProxyRotationStrategy
  revision : ℕ
  rotationCursor : ℕ
  proxies : List ProxyEndpointState
  updatedBy : String
  updatedAt : Instant
  metadata : JSONObject
  auditHash : String := defaultProxyAuditHash

/-- `build_proxy_pool_state`. -/
def buildProxyPoolState (py : Stdlib) (args : PoolArgs) :
    Except ProxyRotationError ProxyPoolState := do
  if args.proxies = [] then
    throw (.rotation "Прокси-пул должен содержать хотя бы один proxy")
  let orderedProxies := args.proxies.insertionSort ProxyEndpointState.before
  let pool ← (Validated.make "ProxyPoolState" ProxyPoolState.checks
    { tenantId := Text.trim args.tenantId
      poolId := Text.trim args.poolId
      platform := Text.trim (py.lower (Text.strip args.platform))
      rotationStrategy := args.rotationStrategy
      revision := args.revision
      rotationCursor := args.rotationCursor % orderedProxies.length
      totalProxyCount := orderedProxies.length
      healthyProxyCount := orderedProxies.countP (·.isLeasable)
      unhealthyProxyCount := orderedProxies.countP fun p => decide (p.healthStatus = .unhealthy)
      disabledProxyCount := orderedProxies.countP fun p => decide (p.healthStatus = .disabled)
      proxies := orderedProxies
      updatedBy := Text.trim args.updatedBy
      updatedAt := args.updatedAt
      auditHash := Text.trim args.auditHash
      metadata := args.metadata }).mapError .shared
  return pool.fields

/-- What one health signal makes of a proxy. -/
def ProxyEndpointState.check (current : ProxyEndpointState) (check : ProxyHealthSignal)
    (updatedAt : Instant) : ProxyEndpointState :=
  let checkedAt := check.fields.checkedAt.getD updatedAt
  if check.fields.alive then
    { current with
      healthStatus := if current.enabled then .healthy else .disabled
      consecutiveFailures := 0
      successCount := current.successCount + 1
      lastCheckedAt := some checkedAt
      lastLatencyMs := check.fields.latencyMs
      lastFailureReason := none }
  else
    { current with
      healthStatus := .unhealthy
      consecutiveFailures := current.consecutiveFailures + 1
      lastCheckedAt := some checkedAt
      lastLatencyMs := check.fields.latencyMs
      lastFailureReason := some (orDefault check.fields.reasonCode "health_check_failed") }

/-- One round of the loop of `apply_proxy_health_checks`. -/
def applySignal (poolId : String) (updatedAt : Instant)
    (byProxyId : Dict String ProxyEndpointState) (check : ProxyHealthSignal) :
    Except ProxyRotationError (Dict String ProxyEndpointState) :=
  match byProxyId.get? check.fields.proxyId with
  | none =>
      .error (.rotation ("Прокси " ++ check.fields.proxyId ++ " не найден в пуле " ++ poolId))
  | some current => .ok (byProxyId.set check.fields.proxyId (current.check check updatedAt))

/-- `apply_proxy_health_checks`. -/
def applyProxyHealthChecks (py : Stdlib) (pool : ProxyPoolState)
    (checks : List ProxyHealthSignal) (updatedBy : String) (updatedAt : Instant) :
    Except ProxyRotationError ProxyPoolState := do
  let byProxyId ← checks.foldlM (applySignal pool.poolId updatedAt)
    (Dict.ofList (pool.proxies.map fun p => (p.proxyId, p)))
  buildProxyPoolState py
    { tenantId := pool.tenantId
      poolId := pool.poolId
      platform := pool.platform
      rotationStrategy := pool.rotationStrategy
      revision := pool.revision + 1
      rotationCursor := pool.rotationCursor
      proxies := byProxyId.entries.map Prod.snd
      updatedBy := updatedBy
      updatedAt := updatedAt
      metadata := pool.metadata
      auditHash := pool.auditHash }

/-- `select_live_proxy`: the index and the proxy, unless none is live. -/
def selectLiveProxy? (pool : ProxyPoolState) : Option (ℕ × ProxyEndpointState) :=
  (List.range pool.proxies.length).findSome? fun offset =>
    let index := (pool.rotationCursor + offset) % pool.proxies.length
    match pool.proxies[index]? with
    | some proxy => if proxy.isLeasable = true then some (index, proxy) else none
    | none => none

def selectLiveProxy (pool : ProxyPoolState) :
    Except ProxyRotationError (ℕ × ProxyEndpointState) :=
  match selectLiveProxy? pool with
  | some selected => .ok selected
  | none => .error (.proxyUnavailable "В прокси-пуле нет живых proxy")

/-! ## The repository and the manager -/

structure InMemoryProxyPoolRepository where
  pools : Dict (String × String) ProxyPoolState

namespace InMemoryProxyPoolRepository

def empty : InMemoryProxyPoolRepository := ⟨.empty⟩

/-- `get_pool`. -/
def getPool (repository : InMemoryProxyPoolRepository) (tenantId poolId : String) :
    Option ProxyPoolState :=
  repository.pools.get? (tenantId, poolId)

/-- `require_pool`. -/
def requirePool (repository : InMemoryProxyPoolRepository) (tenantId poolId : String) :
    Except ProxyRotationError ProxyPoolState :=
  match repository.getPool tenantId poolId with
  | some pool => .ok pool
  | none => .error (.proxyPoolNotFound "Прокси-пул не найден для tenant")

/-- `save_pool`. -/
def savePool (repository : InMemoryProxyPoolRepository) (pool : ProxyPoolState) :
    InMemoryProxyPoolRepository :=
  ⟨repository.pools.set pool.key pool⟩

end InMemoryProxyPoolRepository

structure ProxyState where
  repository : InMemoryProxyPoolRepository
  /-- The records of the audit sink, oldest first. -/
  auditLog : List AuditLogRecord

def ProxyState.initial : ProxyState := ⟨.empty, []⟩

/-- The manager awaits its publisher only. -/
abbrev proxyInterface : Interface :=
  Interface.fallible EventEnvelope ProxyRotationError fun _ => Unit

abbrev ProxyProgram (α : Type) : Type :=
  Coroutine proxyInterface ProxyState ProxyRotationError α

/-- `subject_ref_hash`. -/
def subjectRefHash (py : Stdlib) (tenantId subjectId : String) : String :=
  "sha256:" ++ py.sha256Hex (tenantId ++ ":" ++ subjectId)

/-- `sorted({proxy.protocol.value for proxy in pool.proxies})`. -/
def ProxyPoolState.protocols (pool : ProxyPoolState) : List String :=
  (pool.proxies.map (·.protocol.value)).dedup.insertionSort (· ≤ ·)

/-- `_json_string_list`. -/
def jsonStringList (values : List String) : JSONValue := .list (values.map .str)

/-- `_pool_audit_metadata`. -/
def poolAuditMetadata (pool : ProxyPoolState) : JSONObject :=
  [("pool_id", .str pool.poolId),
    ("platform", .str pool.platform),
    ("revision", .int pool.revision),
    ("rotation_strategy", .str pool.rotationStrategy.value),
    ("total_proxy_count", .int pool.totalProxyCount),
    ("healthy_proxy_count", .int pool.healthyProxyCount),
    ("unhealthy_proxy_count", .int pool.unhealthyProxyCount),
    ("disabled_proxy_count", .int pool.disabledProxyCount),
    ("proxy_ids", jsonStringList (pool.proxies.map (·.proxyId))),
    ("protocols", jsonStringList pool.protocols),
    ("metadata_keys", jsonStringList ((pool.metadata.map Prod.fst).insertionSort (· ≤ ·)))]

namespace ProxyProgram

open Coroutine

/-- Raise what a shared contract raises. -/
def shared {α : Type} (x : Except SharedException α) : ProxyProgram α :=
  Coroutine.ofExcept (x.mapError .shared)

/-- `audit_logger.record`: the record is built, then appended to the sink. -/
def recordAudit (py : Stdlib) (args : AuditArgs) : ProxyProgram AuditLogRecord :=
  update fun s => do
    let record ← (auditRecord py args).mapError .shared
    return (record, { s with auditLog := s.auditLog ++ [record] })

/-- `repository.require_pool`. -/
def requirePool (tenantId poolId : String) : ProxyProgram ProxyPoolState :=
  inspect fun s => s.repository.requirePool tenantId poolId

/-- `repository.save_pool`. -/
def savePool (pool : ProxyPoolState) : ProxyProgram Unit :=
  update fun s => .ok ((), { s with repository := s.repository.savePool pool })

/-- `await self.publisher.publish(EventEnvelope(…))`. -/
def publishEvent (args : EventEnvelope) : ProxyProgram Unit := do
  let event ← shared (eventEnvelope args)
  attempt event

end ProxyProgram

/-- The envelope of an event of the manager. -/
def proxyEvent (eventId type tenantId correlationId : String) (occurredAt : Instant)
    (payload : JSONObject) : EventEnvelope where
  eventId := eventId
  type := type
  schemaVersion := proxyRotationSchemaVersion
  tenantId := tenantId
  source := proxyRotationSource
  correlationId := correlationId
  occurredAt := occurredAt
  payload := payload
  causationId := none

/-! ## `upsert_pool` -/

structure UpsertArgs where
  tenantId : String
  poolId : String
  platform : String
  proxies : List ProxyEndpointConfig
  updatedBy : String
  correlationId : String
  rotationStrategy : ProxyRotationStrategy := .roundRobin
  metadata : Option JSONObject := none
  updatedAt : TimeArg := .omitted
  eventId : Option String := none

namespace UpsertArgs

/-- The pool an upsert builds over the existing one. -/
def pool (args : UpsertArgs) (py : Stdlib) (existing : Option ProxyPoolState)
    (changedAt : Instant) (proxyStates : List ProxyEndpointState) :
    Except ProxyRotationError ProxyPoolState :=
  buildProxyPoolState py
    { tenantId := args.tenantId
      poolId := args.poolId
      platform := args.platform
      rotationStrategy := args.rotationStrategy
      revision := match existing with
        | none => 1
        | some pool => pool.revision + 1
      rotationCursor := 0
      proxies := proxyStates
      updatedBy := args.updatedBy
      updatedAt := changedAt
      metadata := args.metadata.getD [] }

def auditArgs (args : UpsertArgs) (py : Stdlib) (pool : ProxyPoolState) (changedAt : Instant) :
    AuditArgs where
  eventType := proxyPoolUpdatedEvent
  tenantId := args.tenantId
  metadata := poolAuditMetadata pool
  timestamp := changedAt
  correlationId := some args.correlationId
  actorHash := some (subjectRefHash py args.tenantId args.updatedBy)
  source := some proxyRotationSource

def event (args : UpsertArgs) (env : Ambient) (pool : ProxyPoolState) (changedAt : Instant) :
    EventEnvelope :=
  proxyEvent (orDefault args.eventId (newId "evt-proxy-pool-updated" (env.uuid 0)))
    proxyPoolUpdatedEvent args.tenantId args.correlationId changedAt
    [("pool_id", .str pool.poolId),
      ("platform", .str pool.platform),
      ("revision", .int pool.revision),
      ("total_proxy_count", .int pool.totalProxyCount),
      ("healthy_proxy_count", .int pool.healthyProxyCount),
      ("unhealthy_proxy_count", .int pool.unhealthyProxyCount),
      ("protocols", jsonStringList pool.protocols),
      ("audit_hash", .str pool.auditHash)]

end UpsertArgs

/-- `ProxyRotationManager.upsert_pool`. -/
def upsertPool (py : Stdlib) (urls : Urllib) (env : Ambient) (args : UpsertArgs) :
    ProxyProgram ProxyPoolState := do
  if args.proxies = [] then
    throw (.rotation "Прокси-пул должен содержать хотя бы один proxy")
  let existing ← Coroutine.inspect fun s => .ok (s.repository.getPool args.tenantId args.poolId)
  let changedAt ← ProxyProgram.shared (resolveTime py env.now args.updatedAt)
  let proxyStates ← ProxyProgram.shared (args.proxies.mapM (stateFromConfig py urls))
  Coroutine.ofExcept (ensureUniqueProxyIds proxyStates)
  let pool ← Coroutine.ofExcept (args.pool py existing changedAt proxyStates)
  let record ← ProxyProgram.recordAudit py (args.auditArgs py pool changedAt)
  let pool := { pool with auditHash := record.fields.auditHash }
  ProxyProgram.savePool pool
  ProxyProgram.publishEvent (args.event env pool changedAt)
  return pool

/-! ## `check_pool_health` -/

structure CheckArgs where
  tenantId : String
  poolId : String
  checks : List ProxyHealthSignal
  checkedBy : String
  correlationId : String
  eventId : Option String := none

namespace CheckArgs

/-- The latest `checked_at` of the batch, the clock if it has none. -/
def updatedAt (args : CheckArgs) (now : Instant) : Instant :=
  (args.checks.filterMap (·.fields.checkedAt)).max?.getD now

def failedProxyIds (args : CheckArgs) : JSONValue :=
  jsonStringList ((args.checks.filter fun c => !c.fields.alive).map (·.fields.proxyId))

def auditArgs (args : CheckArgs) (py : Stdlib) (checkedPool : ProxyPoolState) : AuditArgs where
  eventType := proxyHealthCheckedEvent
  tenantId := args.tenantId
  metadata := poolAuditMetadata checkedPool ++
    [("checked_proxy_count", .int args.checks.length),
      ("checked_proxy_ids", jsonStringList (args.checks.map (·.fields.proxyId))),
      ("failed_proxy_ids", args.failedProxyIds)]
  timestamp := checkedPool.updatedAt
  correlationId := some args.correlationId
  actorHash := some (subjectRefHash py args.tenantId args.checkedBy)
  source := some proxyRotationSource

def event (args : CheckArgs) (env : Ambient) (checkedPool : ProxyPoolState) (auditHash : String) :
    EventEnvelope :=
  proxyEvent (orDefault args.eventId (newId "evt-proxy-health-checked" (env.uuid 0)))
    proxyHealthCheckedEvent args.tenantId args.correlationId checkedPool.updatedAt
    [("pool_id", .str checkedPool.poolId),
      ("revision", .int checkedPool.revision),
      ("checked_proxy_count", .int args.checks.length),
      ("healthy_proxy_count", .int checkedPool.healthyProxyCount),
      ("unhealthy_proxy_count", .int checkedPool.unhealthyProxyCount),
      ("failed_proxy_ids", args.failedProxyIds),
      ("audit_hash", .str auditHash)]

def result (args : CheckArgs) (checkedPool : ProxyPoolState) (auditHash : String) :
    Except SharedException ProxyHealthCheckResult :=
  Validated.make "ProxyHealthCheckResult" CheckResultFields.checks
    { tenantId := Text.trim args.tenantId
      poolId := Text.trim args.poolId
      checkedProxyCount := args.checks.length
      healthyProxyCount := checkedPool.healthyProxyCount
      unhealthyProxyCount := checkedPool.unhealthyProxyCount
      auditHash := Text.trim auditHash
      pool := checkedPool }

end CheckArgs

/-- `ProxyRotationManager.check_pool_health`. -/
def checkPoolHealth (py : Stdlib) (env : Ambient) (args : CheckArgs) :
    ProxyProgram ProxyHealthCheckResult := do
  if args.checks = [] then
    throw (.rotation "checks должен содержать хотя бы один результат")
  let pool ← ProxyProgram.requirePool args.tenantId args.poolId
  let checkedPool ← Coroutine.ofExcept
    (applyProxyHealthChecks py pool args.checks args.checkedBy (args.updatedAt env.now))
  let record ← ProxyProgram.recordAudit py (args.auditArgs py checkedPool)
  let checkedPool := { checkedPool with auditHash := record.fields.auditHash }
  ProxyProgram.savePool checkedPool
  ProxyProgram.publishEvent (args.event env checkedPool record.fields.auditHash)
  ProxyProgram.shared (args.result checkedPool record.fields.auditHash)

/-! ## `lease_proxy` -/

structure LeaseArgs where
  tenantId : String
  poolId : String
  leasedBy : String
  correlationId : String
  selectedAt : TimeArg := .omitted
  eventId : Option String := none

namespace LeaseArgs

def auditArgs (args : LeaseArgs) (py : Stdlib) (pool : ProxyPoolState)
    (proxy : ProxyEndpointState) (leaseId : String) (selectedAt : Instant) : AuditArgs where
  eventType := proxyLeasedEvent
  tenantId := args.tenantId
  metadata :=
    [("pool_id", .str pool.poolId),
      ("lease_id", .str leaseId),
      ("proxy_id", .str proxy.proxyId),
      ("protocol", .str proxy.protocol.value),
      ("url_hash", .str proxy.urlHash),
      ("pool_revision", .int pool.revision),
      ("rotation_strategy", .str pool.rotationStrategy.value)]
  timestamp := selectedAt
  correlationId := some args.correlationId
  actorHash := some (subjectRefHash py args.tenantId args.leasedBy)
  source := some proxyRotationSource

def lease (args : LeaseArgs) (pool : ProxyPoolState) (proxy : ProxyEndpointState)
    (leaseId : String) (selectedAt : Instant) (auditHash : String) :
    Except SharedException ProxyLease :=
  Validated.make "ProxyLease" LeaseFields.checks
    { tenantId := Text.trim args.tenantId
      poolId := Text.trim pool.poolId
      leaseId := Text.trim leaseId
      proxyId := Text.trim proxy.proxyId
      protocol := proxy.protocol
      redactedUrl := Text.trim proxy.redactedUrl
      urlHash := Text.trim proxy.urlHash
      secretRefHash := proxy.secretRefHash.map Text.trim
      healthStatus := proxy.healthStatus
      poolRevision := pool.revision
      rotationStrategy := pool.rotationStrategy
      selectedAt := selectedAt
      auditHash := Text.trim auditHash }

def event (args : LeaseArgs) (env : Ambient) (pool : ProxyPoolState)
    (proxy : ProxyEndpointState) (lease : ProxyLease) (selectedAt : Instant) : EventEnvelope :=
  proxyEvent (orDefault args.eventId (newId "evt-proxy-leased" (env.uuid 1)))
    proxyLeasedEvent args.tenantId args.correlationId selectedAt
    [("pool_id", .str pool.poolId),
      ("lease_id", .str lease.fields.leaseId),
      ("proxy_id", .str proxy.proxyId),
      ("protocol", .str proxy.protocol.value),
      ("url_hash", .str proxy.urlHash),
      ("pool_revision", .int pool.revision),
      ("audit_hash", .str lease.fields.auditHash)]

end LeaseArgs

/-- `ProxyRotationManager.lease_proxy`. -/
def leaseProxy (py : Stdlib) (env : Ambient) (args : LeaseArgs) : ProxyProgram ProxyLease := do
  let pool ← ProxyProgram.requirePool args.tenantId args.poolId
  let selectedAt ← ProxyProgram.shared (resolveTime py env.now args.selectedAt)
  let (selectedIndex, proxy) ← Coroutine.ofExcept (selectLiveProxy pool)
  ProxyProgram.savePool
    { pool with rotationCursor := (selectedIndex + 1) % pool.proxies.length }
  let leaseId := newId "proxy-lease" (env.uuid 0)
  let record ← ProxyProgram.recordAudit py (args.auditArgs py pool proxy leaseId selectedAt)
  let lease ← ProxyProgram.shared
    (args.lease pool proxy leaseId selectedAt record.fields.auditHash)
  ProxyProgram.publishEvent (args.event env pool proxy lease selectedAt)
  return lease

/-! ## Calls -/

inductive ProxyOperation : Type where
  | upsert (args : UpsertArgs)
  | check (args : CheckArgs)
  | lease (args : LeaseArgs)

/-- One call of the manager, and what it reads from outside. -/
structure ProxyCall where
  env : Ambient
  operation : ProxyOperation

inductive ProxyResult : Type where
  | pool (pool : ProxyPoolState)
  | checked (result : ProxyHealthCheckResult)
  | lease (lease : ProxyLease)

def ProxyCall.program (py : Stdlib) (urls : Urllib) (call : ProxyCall) :
    ProxyProgram ProxyResult :=
  match call.operation with
  | .upsert args => ProxyResult.pool <$> upsertPool py urls call.env args
  | .check args => ProxyResult.checked <$> checkPoolHealth py call.env args
  | .lease args => ProxyResult.lease <$> leaseProxy py call.env args

abbrev ProxyRun : Type :=
  Config ProxyCall proxyInterface ProxyState ProxyRotationError ProxyResult

end MediaCenter.NeuroAgentOrchestrator
