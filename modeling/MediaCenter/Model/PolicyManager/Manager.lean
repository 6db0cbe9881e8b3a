import MediaCenter.Library.Dict
import MediaCenter.Library.Interleaving
import MediaCenter.Model.Shared.AuditLogger
import MediaCenter.Model.Shared.Events

/-!
# Policy manager (`policy_manager/manager.py`)

A policy is a list of versions for each `(tenant_id, key)`.  The default policies have a first
version that is never stored: it is made anew by every read.
-/

set_option autoImplicit false

namespace MediaCenter.PolicyManager

open MediaCenter.Library MediaCenter.Shared

def policyManagerSource : String := "policy-manager"

def policyManagerSchemaVersion : String := "1.0"

def policyUpdatedEvent : String := "policy.updated"

def defaultPolicyAuditHash : String := String.ofList (List.replicate 64 '0')

inductive PolicyManagerError : Type where
  | shared (e : SharedException)
  | policyNotFound (message : String)
  deriving DecidableEq, Repr

/-- `^[a-z][a-z0-9_]*(\.[a-z][a-z0-9_]*){0,7}$` (`POLICY_KEY_PATTERN`). -/
def policyKeyPattern (s : String) : Bool :=
  let words := splitAtEvery '.' s.toList
  decide (words.length ≤ 8) && words.all wordPattern

/-! ## Records -/

structure PolicyFields where
  tenantId : String
  key : String
  value : JSONObject
  version : ℕ
  updatedBy : Option String
  updatedAt : Instant
  auditHash : String
  metadata : JSONObject

def PolicyFields.checks (f : PolicyFields) : List (String × Bool) :=
  [("tenant_id", tenantIdPattern f.tenantId),
    ("key", hasLength 1 128 f.key && policyKeyPattern f.key),
    ("version", decide (1 ≤ f.version)),
    ("updated_by", optionalField tokenPattern f.updatedBy),
    ("audit_hash", auditHashPattern f.auditHash)]

abbrev PolicyRecord : Type := Validated PolicyFields.checks

def policyRecord (f : PolicyFields) : Except SharedException PolicyRecord :=
  Validated.make "PolicyRecord" PolicyFields.checks
    { f with
      tenantId := Text.trim f.tenantId
      key := Text.trim f.key
      updatedBy := f.updatedBy.map Text.trim
      auditHash := Text.trim f.auditHash }

/-- `_policy_key`. -/
def policyKey (tenantId key : String) : String × String := (tenantId, key)

def PolicyRecord.storeKey (policy : PolicyRecord) : String × String :=
  policyKey policy.fields.tenantId policy.fields.key

/-- `normalize_policy_key`. -/
def normalizePolicyKey (key : String) : Except SharedException String :=
  let normalized := Text.strip key
  if policyKeyPattern normalized = true then .ok normalized
  else .error (.valueError "policy key должен быть dot-separated lower_snake_case")

/-- A threshold policy of `DEFAULT_POLICY_VALUES`: `limits` stands between the operator and the
reason. -/
def thresholdPolicy (target operator : String) (limits : JSONObject) (reason : String) :
    JSONObject :=
  [("kind", .str "threshold"), ("target", .str target), ("operator", .str operator)] ++ limits ++
    [("reason", .str reason), ("decision_on_violation", .str "escalate")]

def flagPolicy (target reason : String) : JSONObject :=
  [("kind", .str "flag"), ("target", .str target), ("expected", .bool true),
    ("reason", .str reason), ("decision_on_violation", .str "escalate")]

/-- `DEFAULT_POLICY_VALUES`. -/
def defaultPolicyValues : List (String × JSONObject) :=
  [("automation.max_autonomous_risk_score",
      thresholdPolicy "risk_score" "lte" [("threshold", .float (7 / 10))]
        "risk_score_above_threshold"),
    ("automation.min_agent_confidence",
      thresholdPolicy "agent_confidence" "gte" [("threshold", .float (65 / 100))]
        "confidence_below_threshold"),
    ("hitl.veto_window_hours",
      thresholdPolicy "veto_window_hours" "between"
        [("min", .int 4), ("max", .int 12), ("default", .int 8)] "veto_window_out_of_range"),
    ("rl_kpi.min_precision",
      thresholdPolicy "rl_precision" "gte" [("threshold", .float (75 / 100))]
        "rl_precision_below_threshold"),
    ("rl_kpi.window_days",
      thresholdPolicy "window_days" "between" [("min", .int 7), ("max", .int 30)]
        "rl_kpi_window_out_of_range"),
    ("rl_kpi.require_council_approval",
      flagPolicy "has_council_approval" "council_approval_required"),
    ("rl_kpi.min_effect_lift",
      thresholdPolicy "effect_lift" "gte" [("threshold", .float (2 / 100))]
        "effect_lift_below_threshold"),
    ("ethics.require_xai", flagPolicy "has_xai" "xai_required")]

/-- `key in DEFAULT_POLICY_VALUES`, with the value. -/
def defaultPolicyValue? (key : String) : Option JSONObject :=
  (defaultPolicyValues.find? fun e => e.1 = key).map Prod.snd

/-- `_default_policy_record`, of a key with the value given. -/
def defaultPolicyRecord (tenantId key : String) (value : JSONObject) :
    Except SharedException PolicyRecord :=
  policyRecord
    { tenantId := tenantId
      key := key
      value := value
      version := 1
      updatedBy := none
      updatedAt := 0
      auditHash := defaultPolicyAuditHash
      metadata := [("source", .str "default")] }

/-! ## The repository -/

abbrev PolicyHistory : Type := Dict (String × String) (List PolicyRecord)

structure InMemoryPolicyRepository where
  history : PolicyHistory

namespace InMemoryPolicyRepository

def empty : InMemoryPolicyRepository := ⟨.empty⟩

/-- One round of the second loop of `list_policies`. -/
def listLatest (tenantId : String) (records : Dict String PolicyRecord)
    (entry : (String × String) × List PolicyRecord) : Dict String PolicyRecord :=
  match entry.2.getLast? with
  | some latest => if entry.1.1 = tenantId then records.set entry.1.2 latest else records
  | none => records

def sortByKey (policies : List PolicyRecord) : List PolicyRecord :=
  policies.insertionSort fun a b => a.fields.key ≤ b.fields.key

/-- `list_policies`. -/
def listPolicies (repository : InMemoryPolicyRepository) (tenantId : String) :
    Except SharedException (List PolicyRecord) := do
  let defaults ← defaultPolicyValues.mapM fun e => do
    let record ← defaultPolicyRecord tenantId e.1 e.2
    return (e.1, record)
  let records := repository.history.entries.foldl (listLatest tenantId) (Dict.ofList defaults)
  return sortByKey (records.entries.map Prod.snd)

/-- `get_policy`. -/
def getPolicy (repository : InMemoryPolicyRepository) (tenantId key : String) :
    Except PolicyManagerError PolicyRecord := do
  let normalizedKey ← (normalizePolicyKey key).mapError .shared
  match (repository.history.get? (policyKey tenantId normalizedKey)).bind List.getLast? with
  | some latest => return latest
  | none =>
      match defaultPolicyValue? normalizedKey with
      | some value => (defaultPolicyRecord tenantId normalizedKey value).mapError .shared
      | none => throw (.policyNotFound ("Политика " ++ normalizedKey ++ " не найдена"))

/-- `get_history`. -/
def getHistory (repository : InMemoryPolicyRepository) (tenantId key : String) :
    Except PolicyManagerError (List PolicyRecord) := do
  let normalizedKey ← (normalizePolicyKey key).mapError .shared
  let history := (repository.history.get? (policyKey tenantId normalizedKey)).getD []
  match defaultPolicyValue? normalizedKey with
  | some value =>
      let first ← (defaultPolicyRecord tenantId normalizedKey value).mapError .shared
      return first :: history
  | none =>
      if history = [] then
        throw (.policyNotFound ("История политики " ++ normalizedKey ++ " не найдена"))
      else return history

/-- `save_policy`. -/
def savePolicy (repository : InMemoryPolicyRepository) (policy : PolicyRecord) :
    InMemoryPolicyRepository where
  history := repository.history.set policy.storeKey
    ((repository.history.get? policy.storeKey).getD [] ++ [policy])

end InMemoryPolicyRepository

/-- `_existing_or_none`. -/
def existingOrNone (repository : InMemoryPolicyRepository) (tenantId key : String) :
    Except PolicyManagerError (Option PolicyRecord) :=
  match repository.getPolicy tenantId key with
  | .ok policy => .ok (some policy)
  | .error (.policyNotFound _) => .ok none
  | .error e => .error e

/-! ## The manager -/

structure PolicyState where
  repository : InMemoryPolicyRepository
  /-- The records of the audit sink, oldest first. -/
  auditLog : List AuditLogRecord

def PolicyState.initial : PolicyState := ⟨.empty, []⟩

/-- The manager awaits its publisher only. -/
abbrev policyInterface : Interface :=
  Interface.fallible EventEnvelope PolicyManagerError fun _ => Unit

abbrev PolicyProgram (α : Type) : Type :=
  Coroutine policyInterface PolicyState PolicyManagerError α

/-- `subject_ref_hash`. -/
def subjectRefHash (py : Stdlib) (tenantId subjectId : String) : String :=
  "sha256:" ++ py.sha256Hex (tenantId ++ ":" ++ subjectId)

structure PolicyUpdateInput where
  value : JSONObject
  metadata : Option JSONObject := none

structure UpdateArgs where
  tenantId : String
  key : String
  updatedBy : String
  correlationId : String
  update : PolicyUpdateInput
  updatedAt : TimeArg := .omitted
  eventId : Option String := none

namespace UpdateArgs

/-- `update.metadata or {}`. -/
def metadata (args : UpdateArgs) : JSONObject := args.update.metadata.getD []

/-- The audit entry of an update. -/
def auditArgs (args : UpdateArgs) (py : Stdlib) (normalizedKey : String) (version : ℕ)
    (changedAt : Instant) : AuditArgs where
  eventType := policyUpdatedEvent
  tenantId := args.tenantId
  metadata :=
    [("key", .str normalizedKey),
      ("version", .int version),
      ("value", .dict args.update.value),
      ("metadata", .dict args.metadata)]
  timestamp := changedAt
  correlationId := some args.correlationId
  actorHash := some (subjectRefHash py args.tenantId args.updatedBy)
  source := some policyManagerSource

/-- The fields given to `PolicyRecord`. -/
def policyFields (args : UpdateArgs) (normalizedKey : String) (version : ℕ)
    (changedAt : Instant) (auditHash : String) : PolicyFields where
  tenantId := args.tenantId
  key := normalizedKey
  value := args.update.value
  version := version
  updatedBy := some args.updatedBy
  updatedAt := changedAt
  auditHash := auditHash
  metadata := args.metadata

/-- The event of an update. -/
def event (args : UpdateArgs) (env : Ambient) (changedAt : Instant) (policy : PolicyRecord) :
    EventEnvelope where
  eventId := orDefault args.eventId (newId "evt-policy-updated" (env.uuid 0))
  type := policyUpdatedEvent
  schemaVersion := policyManagerSchemaVersion
  tenantId := args.tenantId
  source := policyManagerSource
  correlationId := args.correlationId
  occurredAt := changedAt
  payload :=
    [("key", .str policy.fields.key),
      ("version", .int policy.fields.version),
      ("audit_hash", .str policy.fields.auditHash)]
  causationId := none

end UpdateArgs

namespace PolicyProgram

open Coroutine

/-- Raise what a shared contract raises. -/
def shared {α : Type} (x : Except SharedException α) : PolicyProgram α :=
  Coroutine.ofExcept (x.mapError .shared)

/-- `audit_logger.record`: the record is built, then appended to the sink. -/
def recordAudit (py : Stdlib) (args : AuditArgs) : PolicyProgram AuditLogRecord :=
  update fun s => do
    let record ← (auditRecord py args).mapError .shared
    return (record, { s with auditLog := s.auditLog ++ [record] })

/-- `repository.save_policy`. -/
def savePolicy (policy : PolicyRecord) : PolicyProgram Unit :=
  update fun s => .ok ((), { s with repository := s.repository.savePolicy policy })

end PolicyProgram

/-- `PolicyManager.update_policy`. -/
def updatePolicy (py : Stdlib) (env : Ambient) (args : UpdateArgs) :
    PolicyProgram PolicyRecord := do
  let normalizedKey ← PolicyProgram.shared (normalizePolicyKey args.key)
  let changedAt ← PolicyProgram.shared (resolveTime py env.now args.updatedAt)
  let existing ← Coroutine.inspect fun s =>
    existingOrNone s.repository args.tenantId normalizedKey
  let version := match existing with
    | none => 1
    | some policy => policy.fields.version + 1
  let record ← PolicyProgram.recordAudit py (args.auditArgs py normalizedKey version changedAt)
  let policy ← PolicyProgram.shared
    (policyRecord (args.policyFields normalizedKey version changedAt record.fields.auditHash))
  PolicyProgram.savePolicy policy
  let event ← PolicyProgram.shared (eventEnvelope (args.event env changedAt policy))
  Coroutine.attempt event
  return policy

/-- One call of `update_policy`, and what it reads from outside. -/
structure UpdateCall where
  env : Ambient
  args : UpdateArgs

def UpdateCall.program (py : Stdlib) (call : UpdateCall) : PolicyProgram PolicyRecord :=
  updatePolicy py call.env call.args

abbrev PolicyRun : Type :=
  Config UpdateCall policyInterface PolicyState PolicyManagerError PolicyRecord

end MediaCenter.PolicyManager
