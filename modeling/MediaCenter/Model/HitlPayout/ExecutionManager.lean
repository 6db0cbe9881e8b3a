import MediaCenter.Model.HitlPayout.QueueManager

/-!
# Execution (`hitl_payout_gateway/execution_manager.py`)
-/

set_option autoImplicit false

namespace MediaCenter.HitlPayout

open MediaCenter.Library MediaCenter.Shared

def payoutExecutedEvent : String := "payout.executed"

def payoutFailedEvent : String := "payout.failed"

def payoutPaymentStatusSyncedEvent : String := "payout.payment_status_synced"

/-- `_require_executable`. -/
def requireExecutable (payout : PayoutQueueItem) (at_ : Instant) :
    Except HitlError Unit := do
  if payout.status = .canceled then
    throw (.payoutNotExecutable "Отменённая выплата не может исполняться")
  if payout.status = .executed then
    throw (.payoutNotExecutable "Выплата уже исполнена")
  if ¬ (payout.status = .queued ∨ payout.status = .readyToExecute) then
    throw (.payoutNotExecutable "Выплата не может исполняться")
  if at_ < payout.vetoUntil then
    throw (.payoutNotExecutable "Выплата не может исполняться до истечения окна вето")
  if payout.confirmationId = none then
    throw (.payoutNotExecutable "Выплата не может исполняться без 2FA-подтверждения")

/-- The connector error an exception is reported as. -/
structure ConnectorFailure where
  message : String
  connectorName : String
  errorCode : String
  retryable : Bool

/-- `_as_connector_error`. -/
def asConnectorError (connectorName : String) : HitlError → ConnectorFailure
  | .payoutConnector message name code retryable => ⟨message, name, code, retryable⟩
  | _ => ⟨"Сбой коннектора исполнения выплаты", connectorName, "connector_error", true⟩

/-- What `_record_connector_failure` is called with. -/
structure FailureArgs where
  payout : PayoutQueueItem
  connectorName : String
  occurredAt : Instant
  correlationId : String
  failureEventId : String
  metadata : JSONObject

namespace FailureArgs

def auditArgs (args : FailureArgs) (py : Stdlib) (failure : ConnectorFailure) :
    AuditArgs where
  eventType := payoutFailedEvent
  tenantId := args.payout.tenantId
  metadata :=
    [("payout_id", .str args.payout.payoutId),
      ("connector", .str failure.connectorName),
      ("error_code", .str failure.errorCode),
      ("retryable", .bool failure.retryable),
      ("previous_status", .str args.payout.status.value),
      ("metadata", .dict (auditSafeMetadata py args.metadata))]
  timestamp := args.occurredAt
  correlationId := some args.correlationId
  source := some hitlPayoutSource

def event (args : FailureArgs) (failure : ConnectorFailure) (auditHash : String) :
    EventEnvelope where
  eventId := args.failureEventId
  type := payoutFailedEvent
  schemaVersion := hitlPayoutSchemaVersion
  tenantId := args.payout.tenantId
  source := hitlPayoutSource
  correlationId := args.correlationId
  occurredAt := args.occurredAt
  payload :=
    [("payout_id", .str args.payout.payoutId),
      ("error_code", .str failure.errorCode),
      ("retryable", .bool failure.retryable),
      ("connector", .str failure.connectorName),
      ("audit_hash", .str auditHash)]
  causationId := none

end FailureArgs

/-- The handler of every connector call: `_record_connector_failure`, then
`raise connector_error from error`. -/
def failConnector {α : Type} (py : Stdlib) (args : FailureArgs) (error : HitlError) :
    Gateway α := do
  let failure := asConnectorError args.connectorName error
  let record ← Gateway.recordAudit py (args.auditArgs py failure)
  let _ ← Gateway.publishEvent (args.event failure record.fields.auditHash)
  throw (.payoutConnector failure.message failure.connectorName failure.errorCode
    failure.retryable)

structure ExecuteArgs where
  tenantId : String
  payoutId : String
  correlationId : String
  executionId : Option String := none
  eventId : Option String := none
  failureEventId : Option String := none
  notificationId : Option String := none
  now : TimeArg := .omitted
  metadata : JSONObject := []

namespace ExecuteArgs

/-- `resolved_execution_id`. -/
def resolvedExecutionId (args : ExecuteArgs) (env : Ambient) : String :=
  orDefault args.executionId (newId "execution" (env.uuid 0))

/-- `resolved_event_id`. -/
def resolvedEventId (args : ExecuteArgs) (env : Ambient) : String :=
  orDefault args.eventId (newId "evt-payout-executed" (env.uuid 1))

/-- `resolved_notification_id`. -/
def resolvedNotificationId (args : ExecuteArgs) (env : Ambient) : String :=
  orDefault args.notificationId (newId "notification" (env.uuid 2))

def failureArgs (args : ExecuteArgs) (env : Ambient) (payout : PayoutQueueItem)
    (connectorName : String) (occurredAt : Instant) : FailureArgs where
  payout := payout
  connectorName := connectorName
  occurredAt := occurredAt
  correlationId := args.correlationId
  failureEventId := orDefault args.failureEventId (newId "evt-payout-failed" (env.uuid 3))
  metadata := args.metadata

def paymentFields (args : ExecuteArgs) (env : Ambient) (payout : PayoutQueueItem)
    (requestedAt : Instant) : PaymentCommandFields where
  tenantId := args.tenantId
  payoutId := args.payoutId
  executionId := args.resolvedExecutionId env
  memberId := payout.memberId
  memberHash := payout.memberHash
  period := payout.queued.fields.period
  payoutShare := payout.queued.fields.payoutShare
  distributionId := payout.queued.fields.distributionId
  distributionHash := payout.queued.fields.distributionHash
  correlationId := args.correlationId
  requestedAt := requestedAt
  metadata := args.metadata

/-- `_hash_ref` of the payment reference. -/
def executionRefHash (args : ExecuteArgs) (py : Stdlib) (payment : PayoutPaymentResult) :
    String :=
  subjectRefHash py args.tenantId payment.fields.executionRef

def auditArgs (args : ExecuteArgs) (py : Stdlib) (env : Ambient) (payout : PayoutQueueItem)
    (payment : PayoutPaymentResult) : AuditArgs where
  eventType := payoutExecutedEvent
  tenantId := args.tenantId
  metadata :=
    [("payout_id", .str payout.payoutId),
      ("execution_id", .str (args.resolvedExecutionId env)),
      ("execution_ref_hash", .str (args.executionRefHash py payment)),
      ("payment_connector", .str payment.fields.connectorName),
      ("previous_status", .str payout.status.value),
      ("new_status", .str PayoutStatus.executed.value),
      ("confirmation_id", JSONValue.optionalStr payout.confirmationId),
      ("distribution_hash", .str payout.queued.fields.distributionHash),
      ("metadata", .dict (auditSafeMetadata py args.metadata))]
  timestamp := payment.fields.executedAt
  correlationId := some args.correlationId
  source := some hitlPayoutSource

def chainFields (args : ExecuteArgs) (py : Stdlib) (env : Ambient) (payout : PayoutQueueItem)
    (payment : PayoutPaymentResult) (auditHash : String) : AuditCommandFields where
  tenantId := args.tenantId
  eventId := args.resolvedEventId env
  eventType := payoutExecutedEvent
  auditHash := auditHash
  correlationId := args.correlationId
  occurredAt := payment.fields.executedAt
  metadata :=
    [("payout_id", .str payout.payoutId),
      ("execution_id", .str (args.resolvedExecutionId env)),
      ("execution_ref_hash", .str (args.executionRefHash py payment)),
      ("source", .str hitlPayoutSource)]

def notificationFields (args : ExecuteArgs) (py : Stdlib) (env : Ambient)
    (payout : PayoutQueueItem) (payment : PayoutPaymentResult) (auditHash : String)
    (chain : BlockchainAuditRecordResult) : NotificationCommandFields where
  notificationId := args.resolvedNotificationId env
  tenantId := args.tenantId
  recipientId := payout.memberId
  recipientHash := payout.memberHash
  payoutId := payout.payoutId
  eventType := payoutExecutedEvent
  templateKey := "hitl_payout_executed"
  correlationId := args.correlationId
  metadata :=
    [("payout_id", .str payout.payoutId),
      ("execution_ref_hash", .str (args.executionRefHash py payment)),
      ("audit_hash", .str auditHash),
      ("audit_chain_ref", .str chain.fields.auditChainRef)]

/-- The payout that is written when all three connectors have accepted. -/
def executedItem (args : ExecuteArgs) (py : Stdlib) (env : Ambient) (payout : PayoutQueueItem)
    (payment : PayoutPaymentResult) (auditHash : String)
    (chain : BlockchainAuditRecordResult) (notification : PayoutNotificationResult) :
    PayoutQueueItem :=
  payout.withExecution (args.resolvedExecutionId env) (args.executionRefHash py payment)
    chain.fields.auditChainRef notification.fields.notificationId payment.fields.executedAt
    auditHash (some payment.fields.connectorName)
    (PayoutQueueItem.orElseText payment.fields.gatewayPaymentId
      (some payment.fields.executionRef))
    (some payment.fields.gatewayStatus)

def event (args : ExecuteArgs) (py : Stdlib) (env : Ambient) (updated : PayoutQueueItem)
    (payment : PayoutPaymentResult) (auditHash : String) : EventEnvelope where
  eventId := args.resolvedEventId env
  type := payoutExecutedEvent
  schemaVersion := hitlPayoutSchemaVersion
  tenantId := args.tenantId
  source := hitlPayoutSource
  correlationId := args.correlationId
  occurredAt := payment.fields.executedAt
  payload :=
    [("payout_id", .str updated.payoutId),
      ("execution_ref_hash", .str (args.executionRefHash py payment)),
      ("status", .str updated.status.value),
      ("audit_hash", .str auditHash)]
  causationId := none

def receiptFields (args : ExecuteArgs) (py : Stdlib) (env : Ambient)
    (payment : PayoutPaymentResult) (auditHash : String)
    (chain : BlockchainAuditRecordResult) (notification : PayoutNotificationResult) :
    ExecutionReceiptFields where
  executionId := args.resolvedExecutionId env
  tenantId := args.tenantId
  payoutId := args.payoutId
  executionRefHash := args.executionRefHash py payment
  auditHash := auditHash
  auditChainRef := chain.fields.auditChainRef
  notificationId := notification.fields.notificationId
  executedAt := payment.fields.executedAt
  correlationId := args.correlationId

end ExecuteArgs

/-! ## The connector calls

Each command is built inside the `try`, so an invalid one is handled like a failing
connector. -/

def payOut (py : Stdlib) (failure : FailureArgs) (fields : PaymentCommandFields) :
    Gateway PayoutPaymentResult :=
  tryCatch (do
      let command ← Gateway.shared (payoutPaymentCommand fields)
      Gateway.request (.executePayout command))
    (failConnector py failure)

def recordOnChain (py : Stdlib) (failure : FailureArgs) (fields : AuditCommandFields) :
    Gateway BlockchainAuditRecordResult :=
  tryCatch (do
      let command ← Gateway.shared (blockchainAuditRecordCommand fields)
      Gateway.request (.recordAuditHash command))
    (failConnector py failure)

def notifyMember (py : Stdlib) (failure : FailureArgs) (fields : NotificationCommandFields) :
    Gateway PayoutNotificationResult :=
  tryCatch (do
      let command ← Gateway.shared (payoutNotificationCommand fields)
      Gateway.request (.notifyPayoutExecuted command))
    (failConnector py failure)

def fetchStatus (py : Stdlib) (failure : FailureArgs) (fields : StatusCommandFields) :
    Gateway PayoutPaymentStatusResult :=
  tryCatch (do
      let command ← Gateway.shared (payoutPaymentStatusCommand fields)
      Gateway.request (.syncPayoutStatus command))
    (failConnector py failure)

/-- `PayoutExecutionManager.execute_payout`. -/
def executePayout (cfg : GatewayConfig) (env : Ambient) (args : ExecuteArgs) :
    Gateway PayoutExecutionReceipt := do
  let requestedAt ← Gateway.shared (resolveTime cfg.py env.now args.now)
  let payout ← Gateway.getPayout args.tenantId args.payoutId
  Coroutine.ofExcept (requireExecutable payout requestedAt)
  let payment ← payOut cfg.py (args.failureArgs env payout "payment_gateway" requestedAt)
    (args.paymentFields env payout requestedAt)
  let executedAt := payment.fields.executedAt
  let record ← Gateway.recordAudit cfg.py (args.auditArgs cfg.py env payout payment)
  let auditHash := record.fields.auditHash
  let chain ← recordOnChain cfg.py
    (args.failureArgs env payout "blockchain_auditor" executedAt)
    (args.chainFields cfg.py env payout payment auditHash)
  let notification ← notifyMember cfg.py
    (args.failureArgs env payout "notification_gateway" executedAt)
    (args.notificationFields cfg.py env payout payment auditHash chain)
  let updated ← Gateway.updatePayout
    (args.executedItem cfg.py env payout payment auditHash chain notification)
  let _ ← Gateway.publishEvent (args.event cfg.py env updated payment auditHash)
  Gateway.shared (payoutExecutionReceipt
    (args.receiptFields cfg.py env payment auditHash chain notification))

/-! ## Status synchronisation -/

structure SyncArgs where
  tenantId : String
  payoutId : String
  correlationId : String
  eventId : Option String := none
  failureEventId : Option String := none
  now : TimeArg := .omitted
  metadata : JSONObject := []

/-- The payment a payout was sent to the gateway with. -/
def requireSent (payout : PayoutQueueItem) : Except HitlError (String × String) :=
  match payout.executionId, payout.paymentGatewayId with
  | some executionId, some paymentGatewayId => .ok (executionId, paymentGatewayId)
  | _, _ => .error
      (.payoutNotExecutable "Статус платежа можно сверять только после отправки в шлюз")

/-- `_payment_status_connector`. -/
def paymentStatusConnector (cfg : GatewayConfig) : Except HitlError Unit :=
  if cfg.supportsStatusSync = true then .ok ()
  else .error (.payoutConnector "Платёжный коннектор не поддерживает сверку статусов"
    "payment_gateway" "payment_status_sync_unsupported" false)

namespace SyncArgs

/-- `payout.payment_connector_name or "payment_gateway"`. -/
def connectorName (payout : PayoutQueueItem) : String :=
  orDefault payout.paymentConnectorName "payment_gateway"

def failureArgs (args : SyncArgs) (env : Ambient) (payout : PayoutQueueItem)
    (requestedAt : Instant) : FailureArgs where
  payout := payout
  connectorName := connectorName payout
  occurredAt := requestedAt
  correlationId := args.correlationId
  failureEventId := orDefault args.failureEventId (newId "evt-payout-failed" (env.uuid 1))
  metadata := args.metadata

def statusFields (args : SyncArgs) (payout : PayoutQueueItem) (sent : String × String)
    (requestedAt : Instant) : StatusCommandFields where
  tenantId := args.tenantId
  payoutId := args.payoutId
  executionId := sent.1
  paymentGatewayId := sent.2
  connectorName := connectorName payout
  correlationId := args.correlationId
  requestedAt := requestedAt
  metadata := args.metadata

/-- `_hash_ref` of the payment id, and of the refund id if there is one. -/
def paymentRefHash (args : SyncArgs) (py : Stdlib) (status : PayoutPaymentStatusResult) :
    String :=
  subjectRefHash py args.tenantId status.fields.paymentGatewayId

def refundRefHash (args : SyncArgs) (py : Stdlib) (status : PayoutPaymentStatusResult) :
    Option String :=
  status.fields.refundId.map fun refundId => subjectRefHash py args.tenantId refundId

def auditArgs (args : SyncArgs) (py : Stdlib) (payout : PayoutQueueItem)
    (status : PayoutPaymentStatusResult) : AuditArgs where
  eventType := payoutPaymentStatusSyncedEvent
  tenantId := args.tenantId
  metadata :=
    [("payout_id", .str payout.payoutId),
      ("execution_id", JSONValue.optionalStr payout.executionId),
      ("payment_ref_hash", .str (args.paymentRefHash py status)),
      ("payment_connector", .str status.fields.connectorName),
      ("previous_payment_status",
        JSONValue.optionalStr (payout.paymentStatus.map PayoutPaymentStatus.value)),
      ("new_payment_status", .str status.fields.status.value),
      ("error_code", JSONValue.optionalStr status.fields.errorCode),
      ("retryable", .bool status.fields.retryable),
      ("refund_ref_hash", JSONValue.optionalStr (args.refundRefHash py status)),
      ("metadata", .dict (auditSafeMetadata py args.metadata))]
  timestamp := status.fields.syncedAt
  correlationId := some args.correlationId
  source := some hitlPayoutSource

/-- The payout that is written back. -/
def syncedItem (payout : PayoutQueueItem) (status : PayoutPaymentStatusResult)
    (auditHash : String) : PayoutQueueItem :=
  payout.withPaymentStatus status.fields.status status.fields.syncedAt auditHash
    (some status.fields.connectorName) (some status.fields.paymentGatewayId)
    status.fields.errorCode status.fields.refundId

def event (args : SyncArgs) (py : Stdlib) (env : Ambient) (updated : PayoutQueueItem)
    (status : PayoutPaymentStatusResult) (auditHash : String) : EventEnvelope where
  eventId := orDefault args.eventId (newId "evt-payout-payment-status-synced" (env.uuid 0))
  type := payoutPaymentStatusSyncedEvent
  schemaVersion := hitlPayoutSchemaVersion
  tenantId := args.tenantId
  source := hitlPayoutSource
  correlationId := args.correlationId
  occurredAt := status.fields.syncedAt
  payload :=
    [("payout_id", .str updated.payoutId),
      ("payment_ref_hash", .str (args.paymentRefHash py status)),
      ("status", .str (updated.paymentStatus.getD status.fields.status).value),
      ("connector", .str status.fields.connectorName),
      ("audit_hash", .str auditHash)] ++
    (match status.fields.errorCode with
      | some errorCode => [("error_code", .str errorCode)]
      | none => []) ++
    (match args.refundRefHash py status with
      | some refundRefHash => [("refund_ref_hash", .str refundRefHash)]
      | none => [])
  causationId := none

def receiptFields (args : SyncArgs) (py : Stdlib) (status : PayoutPaymentStatusResult)
    (auditHash : String) : StatusReceiptFields where
  tenantId := args.tenantId
  payoutId := args.payoutId
  paymentGatewayId := status.fields.paymentGatewayId
  paymentRefHash := args.paymentRefHash py status
  status := status.fields.status
  connectorName := status.fields.connectorName
  syncedAt := status.fields.syncedAt
  auditHash := auditHash
  correlationId := args.correlationId
  errorCode := status.fields.errorCode
  retryable := status.fields.retryable
  refundId := status.fields.refundId

end SyncArgs

/-- `PayoutExecutionManager.sync_payment_status`. -/
def syncPaymentStatus (cfg : GatewayConfig) (env : Ambient) (args : SyncArgs) :
    Gateway PayoutPaymentStatusReceipt := do
  let requestedAt ← Gateway.shared (resolveTime cfg.py env.now args.now)
  let payout ← Gateway.getPayout args.tenantId args.payoutId
  let sent ← Coroutine.ofExcept (requireSent payout)
  Coroutine.ofExcept (paymentStatusConnector cfg)
  let status ← fetchStatus cfg.py (args.failureArgs env payout requestedAt)
    (args.statusFields payout sent requestedAt)
  let record ← Gateway.recordAudit cfg.py (args.auditArgs cfg.py payout status)
  let auditHash := record.fields.auditHash
  let updated ← Gateway.updatePayout (SyncArgs.syncedItem payout status auditHash)
  let _ ← Gateway.publishEvent (args.event cfg.py env updated status auditHash)
  Gateway.shared (payoutPaymentStatusReceipt (args.receiptFields cfg.py status auditHash))

end MediaCenter.HitlPayout
