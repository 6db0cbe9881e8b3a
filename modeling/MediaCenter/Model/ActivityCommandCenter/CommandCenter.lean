import MediaCenter.Library.Dict
import MediaCenter.Library.Fallible
import MediaCenter.Model.Shared.AuditLogger
import MediaCenter.Model.Shared.Events

/-!
# Activity command center (`activity_command_center/command_center.py`)

Tasks of a tenant go to a queue or to the council, by thresholds that the tenant revises.  Each
call writes its audit record, then stores, then publishes; the event publisher is a parameter.
-/

set_option autoImplicit false

namespace MediaCenter.ActivityCommandCenter

open MediaCenter.Library MediaCenter.Shared

def activityCommandCenterSource : String := "activity-command-center"
def activityCommandCenterSchemaVersion : String := "1.0"
def thresholdsUpdatedEvent : String := "activity.thresholds.updated"
def taskCreatedEvent : String := "activity.task.created"

def defaultMaxAutonomousRiskScore : ℚ := 7 / 10
def defaultMinAgentConfidence : ℚ := 65 / 100
def defaultOperationalQueueLimit : ℤ := 50
def defaultStrategicQueueLimit : ℤ := 25
def defaultAdaptiveQueueLimit : ℤ := 10

/-- `DEFAULT_THRESHOLD_AUDIT_HASH`. -/
def defaultThresholdAuditHash : String := String.ofList (List.replicate 64 '0')

inductive ActivityError : Type where
  | shared (e : SharedException)
  /-- `ActivityTaskAlreadyExistsError`. -/
  | taskAlreadyExists (message : String)
  /-- What the publisher raises. -/
  | publisher (exception : String)
  deriving DecidableEq, Repr

/-! ## Enumerations -/

inductive FeedbackLoop : Type where
  | operational
  | strategic
  | adaptive
  deriving DecidableEq, Repr

def FeedbackLoop.value : FeedbackLoop → String
  | .operational => "operational"
  | .strategic => "strategic"
  | .adaptive => "adaptive"

/-- The `window_hours` of `FEEDBACK_LOOP_CONFIGS`. -/
def FeedbackLoop.windowHours : FeedbackLoop → ℤ
  | .operational => 8
  | .strategic => 48
  | .adaptive => 336

inductive TaskStatus : Type where
  | queued
  | needsCouncilReview
  | completed
  | canceled
  deriving DecidableEq, Repr

def TaskStatus.value : TaskStatus → String
  | .queued => "queued"
  | .needsCouncilReview => "needs_council_review"
  | .completed => "completed"
  | .canceled => "canceled"

inductive PolicyDecision : Type where
  | allow
  | escalate
  deriving DecidableEq, Repr

def PolicyDecision.value : PolicyDecision → String
  | .allow => "allow"
  | .escalate => "escalate"

/-! ## Contracts -/

structure ThresholdFields where
  tenantId : String
  revision : ℤ
  maxAutonomousRiskScore : ℚ
  minAgentConfidence : ℚ
  operationalQueueLimit : ℤ
  strategicQueueLimit : ℤ
  adaptiveQueueLimit : ℤ
  updatedBy : Option String
  updatedAt : Instant
  auditHash : String
  metadata : JSONObject

/-- `Field(ge=0, le=1)`. -/
def unitInterval (x : ℚ) : Bool := decide (0 ≤ x ∧ x ≤ 1)

/-- `Field(ge=1, le=10_000)`. -/
def queueLimit (n : ℤ) : Bool := decide (1 ≤ n ∧ n ≤ 10000)

def ThresholdFields.checks (f : ThresholdFields) : List (String × Bool) :=
  [("tenant_id", tenantIdPattern f.tenantId),
    ("revision", decide (1 ≤ f.revision)),
    ("max_autonomous_risk_score", unitInterval f.maxAutonomousRiskScore),
    ("min_agent_confidence", unitInterval f.minAgentConfidence),
    ("operational_queue_limit", queueLimit f.operationalQueueLimit),
    ("strategic_queue_limit", queueLimit f.strategicQueueLimit),
    ("adaptive_queue_limit", queueLimit f.adaptiveQueueLimit),
    ("updated_by", optionalField tokenPattern f.updatedBy),
    ("audit_hash", auditHashPattern f.auditHash)]

abbrev ThresholdSettings : Type := Validated ThresholdFields.checks

/-- `queue_limit_for`. -/
def ThresholdFields.queueLimitFor (f : ThresholdFields) : FeedbackLoop → ℤ
  | .operational => f.operationalQueueLimit
  | .strategic => f.strategicQueueLimit
  | .adaptive => f.adaptiveQueueLimit

structure TaskFields where
  taskId : String
  tenantId : String
  taskType : String
  title : String
  payload : JSONObject
  status : TaskStatus
  assignee : String
  createdBy : String
  agentId : Option String
  riskScore : ℚ
  agentConfidence : ℚ
  feedbackLoop : FeedbackLoop
  policyDecision : PolicyDecision
  policyRevision : ℤ
  policyReasons : List String
  dueAt : Instant
  auditHash : String
  createdAt : Instant
  updatedAt : Instant

/-- `^[a-z][a-z0-9_]{0,63}$` (`_TASK_TYPE_PATTERN`). -/
def taskTypePattern (s : String) : Bool :=
  Text.matchesHeadTail Text.isAsciiLower
    (fun c => Text.isAsciiLower c || Text.isAsciiDigit c || c == '_') 63 s

def TaskFields.checks (f : TaskFields) : List (String × Bool) :=
  [("task_id", tokenPattern f.taskId),
    ("tenant_id", tenantIdPattern f.tenantId),
    ("task_type", taskTypePattern f.taskType),
    ("title", hasLength 1 256 f.title),
    ("assignee", tokenPattern f.assignee),
    ("created_by", tokenPattern f.createdBy),
    ("agent_id", optionalField tokenPattern f.agentId),
    ("risk_score", unitInterval f.riskScore),
    ("agent_confidence", unitInterval f.agentConfidence),
    ("policy_revision", decide (1 ≤ f.policyRevision)),
    ("policy_reasons", f.policyReasons.all fun reason => Text.strip reason != ""),
    ("audit_hash", auditHashPattern f.auditHash)]

abbrev ActivityTask : Type := Validated TaskFields.checks

structure ThresholdUpdateInput where
  maxAutonomousRiskScore : Option ℚ
  minAgentConfidence : Option ℚ
  operationalQueueLimit : Option ℤ
  strategicQueueLimit : Option ℤ
  adaptiveQueueLimit : Option ℤ
  metadata : Option JSONObject

structure TaskCreateInput where
  taskType : String
  title : String
  payload : JSONObject
  assignee : String
  riskScore : ℚ
  agentConfidence : ℚ
  feedbackLoop : FeedbackLoop
  taskId : Option String
  eventId : Option String
  agentId : Option String

/-! ## Repository -/

structure InMemoryActivityRepository where
  thresholds : Dict String ThresholdSettings
  tasks : Dict (String × String) ActivityTask

namespace InMemoryActivityRepository

def empty : InMemoryActivityRepository := ⟨Dict.empty, Dict.empty⟩

/-- `list_tasks`, of a tenant, with the filters given. -/
def listTasks (tenantId : String) (status : Option TaskStatus) (feedbackLoop : Option FeedbackLoop)
    (repository : InMemoryActivityRepository) : List ActivityTask :=
  (((repository.tasks.entries.filter fun e => e.1.1 == tenantId).map Prod.snd).filter fun task =>
    status.all (fun s => task.fields.status == s) &&
      feedbackLoop.all fun l => task.fields.feedbackLoop == l).mergeSort
        fun a b => decide (a.fields.createdAt ≤ b.fields.createdAt)

/-- `active_task_count`. -/
def activeTaskCount (tenantId : String) (feedbackLoop : FeedbackLoop)
    (repository : InMemoryActivityRepository) : ℕ :=
  (repository.listTasks tenantId none (some feedbackLoop)).countP fun task =>
    task.fields.status == .queued || task.fields.status == .needsCouncilReview

end InMemoryActivityRepository

/-- The thresholds of a tenant that has not revised them. -/
def defaultThresholds (tenantId : String) : Except SharedException ThresholdSettings :=
  Validated.make "ThresholdSettings" ThresholdFields.checks
    { tenantId := Text.trim tenantId
      revision := 1
      maxAutonomousRiskScore := defaultMaxAutonomousRiskScore
      minAgentConfidence := defaultMinAgentConfidence
      operationalQueueLimit := defaultOperationalQueueLimit
      strategicQueueLimit := defaultStrategicQueueLimit
      adaptiveQueueLimit := defaultAdaptiveQueueLimit
      updatedBy := none
      updatedAt := 0
      auditHash := defaultThresholdAuditHash
      metadata := [("source", .str "default")] }

/-! ## The center -/

structure ActivityState where
  repository : InMemoryActivityRepository
  auditLog : List AuditLogRecord
  published : List EventEnvelope

def ActivityState.initial : ActivityState := ⟨.empty, [], []⟩

abbrev ActivityProgram (α : Type) : Type := Fallible ActivityState ActivityError α

/-- What a call meets outside. -/
structure ActivityAmbient where
  now : Instant
  uuid : ℕ → Uuid4
  /-- What becomes of the event that the call publishes. -/
  publisher : Except String Unit

/-- `subject_ref_hash`. -/
def subjectRefHash (py : Stdlib) (tenantId subjectId : String) : String :=
  "sha256:" ++ py.sha256Hex (tenantId ++ ":" ++ subjectId)

/-- `get_thresholds`, which stores the default it returns. -/
def getThresholds (tenantId : String) : ActivityProgram ThresholdSettings := do
  let stored ← Fallible.inspect fun s => .ok (s.repository.thresholds.get? tenantId)
  match stored with
  | some thresholds => return thresholds
  | none =>
      let thresholds ← Fallible.ofExcept ((defaultThresholds tenantId).mapError .shared)
      Fallible.change fun s =>
        { s with repository :=
          { s.repository with thresholds := s.repository.thresholds.set tenantId thresholds } }
      return thresholds

/-- `audit_logger.record`. -/
def recordAudit (py : Stdlib) (args : AuditArgs) : ActivityProgram AuditLogRecord := do
  let record ← Fallible.ofExcept ((auditRecord py args).mapError .shared)
  Fallible.change fun s => { s with auditLog := s.auditLog ++ [record] }
  return record

/-- `publisher.publish(EventEnvelope(...))`. -/
def publishEvent (env : ActivityAmbient) (args : EventEnvelope) : ActivityProgram Unit := do
  let event ← Fallible.ofExcept ((eventEnvelope args).mapError .shared)
  Fallible.ofExcept (env.publisher.mapError .publisher)
  Fallible.change fun s => { s with published := s.published ++ [event] }

/-- The arguments of `update_thresholds`. -/
structure UpdateThresholds where
  tenantId : String
  updatedBy : String
  correlationId : String
  update : ThresholdUpdateInput
  updatedAt : TimeArg
  eventId : Option String

section Update

variable (py : Stdlib) (env : ActivityAmbient) (args : UpdateThresholds)

/-- What the thresholds become, before their audit record is written. -/
def revisedThresholds (existing : ThresholdFields) (changedAt : Instant) : ThresholdFields where
  tenantId := Text.trim args.tenantId
  revision := existing.revision + 1
  maxAutonomousRiskScore := args.update.maxAutonomousRiskScore.getD existing.maxAutonomousRiskScore
  minAgentConfidence := args.update.minAgentConfidence.getD existing.minAgentConfidence
  operationalQueueLimit := args.update.operationalQueueLimit.getD existing.operationalQueueLimit
  strategicQueueLimit := args.update.strategicQueueLimit.getD existing.strategicQueueLimit
  adaptiveQueueLimit := args.update.adaptiveQueueLimit.getD existing.adaptiveQueueLimit
  updatedBy := some (Text.trim args.updatedBy)
  updatedAt := changedAt
  auditHash := defaultThresholdAuditHash
  metadata := args.update.metadata.getD []

def thresholdsAuditArgs (revised : ThresholdFields) : AuditArgs where
  eventType := thresholdsUpdatedEvent
  tenantId := args.tenantId
  metadata :=
    [("revision", .int revised.revision),
      ("max_autonomous_risk_score", .float revised.maxAutonomousRiskScore),
      ("min_agent_confidence", .float revised.minAgentConfidence),
      ("operational_queue_limit", .int revised.operationalQueueLimit),
      ("strategic_queue_limit", .int revised.strategicQueueLimit),
      ("adaptive_queue_limit", .int revised.adaptiveQueueLimit),
      ("metadata", .dict revised.metadata)]
  timestamp := revised.updatedAt
  correlationId := some args.correlationId
  actorHash := some (subjectRefHash py args.tenantId args.updatedBy)
  source := some activityCommandCenterSource

def thresholdsEvent (thresholds : ThresholdFields) : EventEnvelope where
  eventId := orDefault args.eventId (newId "evt-thresholds-updated" (env.uuid 0))
  type := thresholdsUpdatedEvent
  schemaVersion := activityCommandCenterSchemaVersion
  tenantId := args.tenantId
  source := activityCommandCenterSource
  correlationId := args.correlationId
  occurredAt := thresholds.updatedAt
  payload :=
    [("revision", .int thresholds.revision),
      ("audit_hash", .str thresholds.auditHash),
      ("max_autonomous_risk_score", .float thresholds.maxAutonomousRiskScore),
      ("min_agent_confidence", .float thresholds.minAgentConfidence)]
  causationId := none

/-- `update_thresholds`. -/
def updateThresholds : ActivityProgram ThresholdSettings := do
  let existing ← getThresholds args.tenantId
  let changedAt ← Fallible.ofExcept ((resolveTime py env.now args.updatedAt).mapError .shared)
  let revised := revisedThresholds args existing.fields changedAt
  let record ← recordAudit py (thresholdsAuditArgs py args revised)
  let thresholds ← Fallible.ofExcept ((Validated.make "ThresholdSettings" ThresholdFields.checks
    { revised with auditHash := record.fields.auditHash }).mapError .shared)
  Fallible.change fun s =>
    { s with repository :=
      { s.repository with thresholds :=
          s.repository.thresholds.set thresholds.fields.tenantId thresholds } }
  publishEvent env (thresholdsEvent env args thresholds.fields)
  return thresholds

end Update

/-- The arguments of `create_task`. -/
structure CreateTask where
  tenantId : String
  createdBy : String
  correlationId : String
  task : TaskCreateInput
  createdAt : TimeArg

/-- `_policy_reasons`. -/
def policyReasons (tenantId : String) (thresholds : ThresholdFields) (feedbackLoop : FeedbackLoop)
    (riskScore agentConfidence : ℚ) (repository : InMemoryActivityRepository) : List String :=
  (if thresholds.maxAutonomousRiskScore < riskScore then ["risk_score_above_threshold"] else []) ++
    (if agentConfidence < thresholds.minAgentConfidence then ["confidence_below_threshold"]
      else []) ++
    (if thresholds.queueLimitFor feedbackLoop ≤ repository.activeTaskCount tenantId feedbackLoop
      then ["queue_limit_reached"] else [])

section Create

variable (py : Stdlib) (env : ActivityAmbient) (args : CreateTask)

def resolvedTaskId : String := orDefault args.task.taskId (newId "task" (env.uuid 0))

/-- The task, before its audit record is written and its due date is known. -/
def draftTask (thresholds : ThresholdFields) (reasons : List String) (queuedAt : Instant) :
    TaskFields where
  taskId := Text.trim (resolvedTaskId env args)
  tenantId := Text.trim args.tenantId
  taskType := Text.trim args.task.taskType
  title := Text.trim args.task.title
  payload := args.task.payload
  status := if reasons.isEmpty then .queued else .needsCouncilReview
  assignee := Text.trim args.task.assignee
  createdBy := Text.trim args.createdBy
  agentId := args.task.agentId.map Text.trim
  riskScore := args.task.riskScore
  agentConfidence := args.task.agentConfidence
  feedbackLoop := args.task.feedbackLoop
  policyDecision := if reasons.isEmpty then .allow else .escalate
  policyRevision := thresholds.revision
  policyReasons := reasons
  dueAt := queuedAt
  auditHash := ""
  createdAt := queuedAt
  updatedAt := queuedAt

def taskAuditArgs (draft : TaskFields) : AuditArgs where
  eventType := taskCreatedEvent
  tenantId := args.tenantId
  metadata :=
    [("task_id", .str (resolvedTaskId env args)),
      ("task_type", .str args.task.taskType),
      ("status", .str draft.status.value),
      ("feedback_loop", .str draft.feedbackLoop.value),
      ("policy_decision", .str draft.policyDecision.value),
      ("policy_revision", .int draft.policyRevision),
      ("policy_reasons", .list (draft.policyReasons.map .str)),
      ("risk_score", .float draft.riskScore),
      ("agent_confidence", .float draft.agentConfidence),
      ("assignee_hash", .str (subjectRefHash py args.tenantId args.task.assignee)),
      ("agent_hash", .optionalStr (args.task.agentId.map (subjectRefHash py args.tenantId))),
      ("created_by_hash", .str (subjectRefHash py args.tenantId args.createdBy))]
  timestamp := draft.createdAt
  correlationId := some args.correlationId
  actorHash := some (subjectRefHash py args.tenantId args.createdBy)
  source := some activityCommandCenterSource

/-- `queued_at + timedelta(hours=window_hours)`. -/
def dueAt (draft : TaskFields) : Except SharedException Instant :=
  checkedInstant (draft.createdAt + draft.feedbackLoop.windowHours * 3600000000)

def taskEvent (task : TaskFields) : EventEnvelope where
  eventId := orDefault args.task.eventId (newId "evt-task-created" (env.uuid 1))
  type := taskCreatedEvent
  schemaVersion := activityCommandCenterSchemaVersion
  tenantId := args.tenantId
  source := activityCommandCenterSource
  correlationId := args.correlationId
  occurredAt := task.createdAt
  payload :=
    [("task_id", .str task.taskId),
      ("task_type", .str task.taskType),
      ("status", .str task.status.value),
      ("feedback_loop", .str task.feedbackLoop.value),
      ("policy_decision", .str task.policyDecision.value),
      ("policy_revision", .int task.policyRevision),
      ("due_at", .str (formatDatetime py task.dueAt)),
      ("audit_hash", .str task.auditHash)]
  causationId := none

/-- `add_task`. -/
def addTask (task : ActivityTask) : ActivityProgram Unit := do
  let known ← Fallible.inspect fun s =>
    .ok (s.repository.tasks.contains (task.fields.tenantId, task.fields.taskId))
  if known then
    Fallible.ofExcept (.error (.taskAlreadyExists
      "Задача с таким task_id уже есть в очереди tenant"))
  else
    Fallible.change fun s =>
      { s with repository :=
        { s.repository with tasks :=
            s.repository.tasks.set (task.fields.tenantId, task.fields.taskId) task } }

/-- `create_task`. -/
def createTask : ActivityProgram ActivityTask := do
  let queuedAt ← Fallible.ofExcept ((resolveTime py env.now args.createdAt).mapError .shared)
  let thresholds ← getThresholds args.tenantId
  let reasons ← Fallible.inspect fun s =>
    .ok (policyReasons args.tenantId thresholds.fields args.task.feedbackLoop args.task.riskScore
      args.task.agentConfidence s.repository)
  let draft := draftTask env args thresholds.fields reasons queuedAt
  let record ← recordAudit py (taskAuditArgs py env args draft)
  let due ← Fallible.ofExcept ((dueAt draft).mapError .shared)
  let task ← Fallible.ofExcept ((Validated.make "ActivityTask" TaskFields.checks
    { draft with dueAt := due, auditHash := record.fields.auditHash }).mapError .shared)
  addTask task
  publishEvent env (taskEvent py env args task.fields)
  return task

end Create

/-- One call of the center, with what it meets. -/
inductive ActivityCall : Type where
  | updateThresholds (env : ActivityAmbient) (args : UpdateThresholds)
  | createTask (env : ActivityAmbient) (args : CreateTask)

/-- Whether the call returns, and the state behind it. -/
def ActivityState.step (py : Stdlib) (s : ActivityState) :
    ActivityCall → Except ActivityError Unit × ActivityState
  | .updateThresholds env args =>
      let (outcome, s) := Fallible.exec (MediaCenter.ActivityCommandCenter.updateThresholds py env
        args) s
      (outcome.map fun _ => (), s)
  | .createTask env args =>
      let (outcome, s) := Fallible.exec (MediaCenter.ActivityCommandCenter.createTask py env args) s
      (outcome.map fun _ => (), s)

end MediaCenter.ActivityCommandCenter
