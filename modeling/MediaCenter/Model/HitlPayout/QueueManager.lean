import MediaCenter.Model.HitlPayout.AuditRedaction
import MediaCenter.Model.HitlPayout.Gateway

/-!
# Payout queue (`hitl_payout_gateway/queue_manager.py`)
-/

set_option autoImplicit false

namespace MediaCenter.HitlPayout

open MediaCenter.Library MediaCenter.Shared

def hitlPayoutSource : String := "hitl-payout-gateway"

def hitlPayoutSchemaVersion : String := "1.0"

def payoutQueuedEvent : String := "payout.queued"

/-- `validate_veto_window_hours`. -/
def validateVetoWindowHours (value : ℤ) : Except SharedException ℤ :=
  if value < 4 ∨ value > 12 then
    .error (.valueError "VETO_WINDOW_HOURS должен быть в диапазоне 4-12")
  else .ok value

/-- How the managers are set up.  The veto window has passed `validate_veto_window_hours`. -/
structure GatewayConfig where
  py : Stdlib
  vetoWindowHours : ℤ
  vetoWindowHours_valid : validateVetoWindowHours vetoWindowHours = .ok vetoWindowHours
  /-- The payment connector also implements `PaymentStatusConnector`. -/
  supportsStatusSync : Bool

/-- `subject_ref_hash`; `_reason_hash` and `_hash_ref` hash the same way. -/
def subjectRefHash (py : Stdlib) (tenantId subjectId : String) : String :=
  "sha256:" ++ py.sha256Hex (tenantId ++ ":" ++ subjectId)

theorem refHashPattern_subjectRefHash (py : Stdlib) (tenantId subjectId : String) :
    refHashPattern (subjectRefHash py tenantId subjectId) = true :=
  refHashPattern_sha256 py _

structure QueueArgs where
  tenantId : String
  memberId : String
  period : String
  payoutShare : ℚ
  distributionId : String
  distributionHash : String
  createdBy : String
  correlationId : String
  payoutId : Option String := none
  eventId : Option String := none
  now : TimeArg := .omitted
  requires2fa : Bool := true
  metadata : JSONObject := []

namespace QueueArgs

/-- `resolved_payout_id`. -/
def resolvedPayoutId (args : QueueArgs) (env : Ambient) : String :=
  orDefault args.payoutId (newId "payout" (env.uuid 0))

/-- The audit entry of a queued payout. -/
def auditArgs (args : QueueArgs) (py : Stdlib) (env : Ambient)
    (queuedAt vetoUntil : Instant) : AuditArgs where
  eventType := payoutQueuedEvent
  tenantId := args.tenantId
  metadata :=
    [("payout_id", .str (args.resolvedPayoutId env)),
      ("member_hash", .str (subjectRefHash py args.tenantId args.memberId)),
      ("period", .str args.period),
      ("distribution_id", .str args.distributionId),
      ("distribution_hash", .str args.distributionHash),
      ("status", .str PayoutStatus.queued.value),
      ("veto_until", .str (formatDatetime py vetoUntil)),
      ("requires_2fa", .bool args.requires2fa),
      ("created_by_hash", .str (subjectRefHash py args.tenantId args.createdBy)),
      ("metadata", .dict (auditSafeMetadata py args.metadata))]
  timestamp := queuedAt
  correlationId := some args.correlationId
  actorHash := some (subjectRefHash py args.tenantId args.createdBy)
  source := some hitlPayoutSource

/-- The fields given to `PayoutQueueItem`, stripped. -/
def itemFields (args : QueueArgs) (py : Stdlib) (env : Ambient)
    (queuedAt vetoUntil : Instant) : QueuedFields where
  payoutId := Text.trim (args.resolvedPayoutId env)
  tenantId := Text.trim args.tenantId
  memberId := Text.trim args.memberId
  memberHash := subjectRefHash py args.tenantId args.memberId
  period := Text.trim args.period
  payoutShare := args.payoutShare
  distributionId := Text.trim args.distributionId
  distributionHash := Text.trim args.distributionHash
  vetoUntil := vetoUntil
  requires2fa := args.requires2fa
  createdBy := Text.trim args.createdBy
  createdByHash := subjectRefHash py args.tenantId args.createdBy
  createdAt := queuedAt

/-- The event of a queued payout. -/
def event (args : QueueArgs) (py : Stdlib) (env : Ambient) (queuedAt : Instant)
    (payout : PayoutQueueItem) : EventEnvelope where
  eventId := orDefault args.eventId (newId "evt-payout-queued" (env.uuid 1))
  type := payoutQueuedEvent
  schemaVersion := hitlPayoutSchemaVersion
  tenantId := args.tenantId
  source := hitlPayoutSource
  correlationId := args.correlationId
  occurredAt := queuedAt
  payload :=
    [("payout_id", .str payout.payoutId),
      ("period", .str payout.queued.fields.period),
      ("veto_until", .str (formatDatetime py payout.vetoUntil)),
      ("requires_2fa", .bool payout.queued.fields.requires2fa)]
  causationId := none

end QueueArgs

/-- `PayoutQueueItem(...)` with its defaults; the audit hash comes from a record that has
passed the same check. -/
def payoutQueueItem (fields : QueuedFields) (auditHash : String) :
    Except SharedException PayoutQueueItem := do
  let queued ← Validated.make "PayoutQueueItem" QueuedFields.checks fields
  return { queued := queued, status := .queued, auditHash := auditHash,
           updatedAt := fields.createdAt }

/-- `PayoutQueueManager.queue_payout`. -/
def queuePayout (cfg : GatewayConfig) (env : Ambient) (args : QueueArgs) :
    Gateway (PayoutQueueItem × EventEnvelope) := do
  if args.requires2fa = false then
    throw (.shared (.valueError "Выплаты требуют 2FA; requires_2fa должен быть True"))
  let queuedAt ← Gateway.shared (resolveTime cfg.py env.now args.now)
  let vetoUntil ← Gateway.shared
    (checkedInstant (queuedAt + hoursToMicros cfg.vetoWindowHours))
  let record ← Gateway.recordAudit cfg.py (args.auditArgs cfg.py env queuedAt vetoUntil)
  let payout ← Gateway.shared
    (payoutQueueItem (args.itemFields cfg.py env queuedAt vetoUntil) record.fields.auditHash)
  Gateway.addPayout payout
  let event ← Gateway.publishEvent (args.event cfg.py env queuedAt payout)
  return (payout, event)

/-- `PayoutQueueManager.is_executable` at a given time. -/
def isExecutable (payout : PayoutQueueItem) (checkedAt : Instant) : Bool :=
  (payout.status = .queued || payout.status = .readyToExecute) &&
    decide (payout.vetoUntil ≤ checkedAt) && payout.confirmationId.isSome

structure MarkReadyArgs where
  tenantId : String
  payoutId : String
  now : TimeArg := .omitted

/-- The checks of `mark_ready_for_execution`, for a payout that is not ready yet. -/
def requireReady (payout : PayoutQueueItem) (checkedAt : Instant) : Except HitlError Unit := do
  if payout.status = .canceled then
    throw (.payoutNotExecutable "Отменённая выплата не может исполняться")
  if payout.status = .executed then
    throw (.payoutNotExecutable "Уже исполненная выплата не меняет статус")
  if checkedAt < payout.vetoUntil then
    throw (.payoutNotExecutable "Выплата не может исполняться до истечения окна вето")
  if payout.confirmationId = none then
    throw (.payoutNotExecutable "Выплата не может исполняться без 2FA-подтверждения")
  if isExecutable payout checkedAt = false then
    throw (.payoutNotExecutable "Выплата не может исполняться")

/-- `PayoutQueueManager.mark_ready_for_execution`. -/
def markReadyForExecution (cfg : GatewayConfig) (env : Ambient) (args : MarkReadyArgs) :
    Gateway PayoutQueueItem := do
  let checkedAt ← Gateway.shared (resolveTime cfg.py env.now args.now)
  let payout ← Gateway.getPayout args.tenantId args.payoutId
  if payout.status = .readyToExecute then return payout
  Coroutine.ofExcept (requireReady payout checkedAt)
  Gateway.updatePayout (payout.withStatus .readyToExecute checkedAt none none)

end MediaCenter.HitlPayout
