import MediaCenter.Model.Shared.Models

/-!
# Records and commands of the HITL payout gateway

The models of `queue_manager.py`, `veto_manager.py`, `confirmation_manager.py` and
`execution_manager.py`, and the errors the managers raise.
-/

set_option autoImplicit false

namespace MediaCenter.HitlPayout

open MediaCenter.Library MediaCenter.Shared

/-! ## Errors -/

inductive HitlError : Type where
  | shared (e : SharedException)
  /-- `PayoutQueueError` itself. -/
  | payoutQueue (message : String)
  | payoutNotFound (message : String)
  | payoutNotExecutable (message : String)
  | vetoWindowClosed (message : String)
  | payoutConnector (message connectorName errorCode : String) (retryable : Bool)
  /-- Any other exception a connector or a publisher raises. -/
  | external (name : String)
  deriving DecidableEq

def liftShared {α : Type} (x : Except SharedException α) : Except HitlError α :=
  x.mapError HitlError.shared

/-! ## The payout -/

inductive PayoutStatus : Type where
  | queued
  | readyToExecute
  | canceled
  | executed
  deriving DecidableEq

def PayoutStatus.value : PayoutStatus → String
  | queued => "queued"
  | readyToExecute => "ready_to_execute"
  | canceled => "canceled"
  | executed => "executed"

inductive PayoutPaymentStatus : Type where
  | accepted
  | processing
  | succeeded
  | failed
  | returned
  | refunded
  deriving DecidableEq

def PayoutPaymentStatus.value : PayoutPaymentStatus → String
  | accepted => "accepted"
  | processing => "processing"
  | succeeded => "succeeded"
  | failed => "failed"
  | returned => "returned"
  | refunded => "refunded"

/-- `payout_share` of a payout: `ge=0, le=1`. -/
def isShare (x : ℚ) : Bool := decide (0 ≤ x) && decide (x ≤ 1)

/-- The fields of a `PayoutQueueItem` that no `with_*` method updates. -/
structure QueuedFields where
  payoutId : String
  tenantId : String
  memberId : String
  memberHash : String
  period : String
  payoutShare : ℚ
  distributionId : String
  distributionHash : String
  vetoUntil : Instant
  requires2fa : Bool
  createdBy : String
  createdByHash : String
  createdAt : Instant

def QueuedFields.checks (f : QueuedFields) : List (String × Bool) :=
  [("payout_id", tokenPattern f.payoutId),
    ("tenant_id", tenantIdPattern f.tenantId),
    ("member_id", tokenPattern f.memberId),
    ("period", periodPattern f.period),
    ("payout_share", isShare f.payoutShare),
    ("distribution_id", tokenPattern f.distributionId),
    ("distribution_hash", auditHashPattern f.distributionHash),
    ("created_by", tokenPattern f.createdBy)]

/-- `PayoutQueueItem`.  `model_copy` does not validate again, so of its checks only those
of the fields that never change outlive the construction. -/
structure PayoutQueueItem where
  queued : Validated QueuedFields.checks
  status : PayoutStatus
  confirmationId : Option String := none
  confirmedBy : Option String := none
  confirmedByHash : Option String := none
  confirmedByRole : Option String := none
  confirmedAt : Option Instant := none
  auditHash : String
  updatedAt : Instant
  vetoDecisionId : Option String := none
  executionId : Option String := none
  executionRefHash : Option String := none
  auditChainRef : Option String := none
  notificationId : Option String := none
  executedAt : Option Instant := none
  paymentConnectorName : Option String := none
  paymentGatewayId : Option String := none
  paymentStatus : Option PayoutPaymentStatus := none
  paymentStatusSyncedAt : Option Instant := none
  paymentErrorCode : Option String := none
  paymentRefundId : Option String := none

namespace PayoutQueueItem

abbrev payoutId (p : PayoutQueueItem) : String := p.queued.fields.payoutId

abbrev tenantId (p : PayoutQueueItem) : String := p.queued.fields.tenantId

abbrev memberId (p : PayoutQueueItem) : String := p.queued.fields.memberId

abbrev memberHash (p : PayoutQueueItem) : String := p.queued.fields.memberHash

abbrev vetoUntil (p : PayoutQueueItem) : Instant := p.queued.fields.vetoUntil

/-- `_payout_key(payout.tenant_id, payout.payout_id)`. -/
def key (p : PayoutQueueItem) : String × String := (p.tenantId, p.payoutId)

/-- `with_status`. -/
def withStatus (p : PayoutQueueItem) (status : PayoutStatus) (updatedAt : Instant)
    (auditHash vetoDecisionId : Option String) : PayoutQueueItem :=
  { p with
    status := status
    updatedAt := updatedAt
    auditHash := auditHash.getD p.auditHash
    vetoDecisionId := vetoDecisionId <|> p.vetoDecisionId }

/-- `with_confirmation`. -/
def withConfirmation (p : PayoutQueueItem) (confirmationId confirmedBy confirmedByHash
    confirmedByRole : String) (confirmedAt : Instant) (auditHash : String) :
    PayoutQueueItem :=
  { p with
    confirmationId := some confirmationId
    confirmedBy := some confirmedBy
    confirmedByHash := some confirmedByHash
    confirmedByRole := some confirmedByRole
    confirmedAt := some confirmedAt
    auditHash := auditHash
    updatedAt := confirmedAt }

/-- `with_execution`. -/
def withExecution (p : PayoutQueueItem) (executionId executionRefHash auditChainRef
    notificationId : String) (executedAt : Instant) (auditHash : String)
    (paymentConnectorName paymentGatewayId : Option String)
    (paymentStatus : Option PayoutPaymentStatus) : PayoutQueueItem :=
  { p with
    status := .executed
    executionId := some executionId
    executionRefHash := some executionRefHash
    auditChainRef := some auditChainRef
    notificationId := some notificationId
    executedAt := some executedAt
    auditHash := auditHash
    updatedAt := executedAt
    paymentConnectorName := paymentConnectorName
    paymentGatewayId := paymentGatewayId
    paymentStatus := paymentStatus
    paymentStatusSyncedAt := some executedAt
    paymentErrorCode := none
    paymentRefundId := none }

/-- `value or fallback`, on optional text. -/
def orElseText (value fallback : Option String) : Option String :=
  match value with
  | some s => if s = "" then fallback else some s
  | none => fallback

/-- `with_payment_status`. -/
def withPaymentStatus (p : PayoutQueueItem) (paymentStatus : PayoutPaymentStatus)
    (syncedAt : Instant) (auditHash : String) (paymentConnectorName paymentGatewayId
    paymentErrorCode paymentRefundId : Option String) : PayoutQueueItem :=
  { p with
    paymentStatus := some paymentStatus
    paymentStatusSyncedAt := some syncedAt
    paymentConnectorName := orElseText paymentConnectorName p.paymentConnectorName
    paymentGatewayId := orElseText paymentGatewayId p.paymentGatewayId
    paymentErrorCode := paymentErrorCode
    paymentRefundId := paymentRefundId
    auditHash := auditHash
    updatedAt := syncedAt }

end PayoutQueueItem

/-! ## Decisions and confirmations -/

structure DecisionFields where
  decisionId : String
  tenantId : String
  payoutId : String
  actorId : String
  actorHash : String
  reasonCode : String
  reason : String
  reasonHash : String
  auditHash : String
  decidedAt : Instant
  correlationId : String

def DecisionFields.checks (f : DecisionFields) : List (String × Bool) :=
  [("decision_id", tokenPattern f.decisionId),
    ("tenant_id", tenantIdPattern f.tenantId),
    ("payout_id", tokenPattern f.payoutId),
    ("actor_id", tokenPattern f.actorId),
    ("reason_code", reasonCodePattern f.reasonCode),
    ("reason", hasLength 1 512 f.reason),
    ("audit_hash", auditHashPattern f.auditHash),
    ("correlation_id", tokenPattern f.correlationId)]

abbrev VetoDecision : Type := Validated DecisionFields.checks

def vetoDecision (f : DecisionFields) : Except SharedException VetoDecision :=
  Validated.make "VetoDecision" DecisionFields.checks
    { f with
      decisionId := Text.trim f.decisionId
      tenantId := Text.trim f.tenantId
      payoutId := Text.trim f.payoutId
      actorId := Text.trim f.actorId
      reasonCode := Text.trim f.reasonCode
      reason := Text.trim f.reason
      correlationId := Text.trim f.correlationId }

structure ConfirmationFields where
  confirmationId : String
  tenantId : String
  payoutId : String
  actorId : String
  actorHash : String
  actorRole : String
  twoFactorMethod : String
  operation : String
  auditHash : String
  confirmedAt : Instant
  correlationId : String

def ConfirmationFields.checks (f : ConfirmationFields) : List (String × Bool) :=
  [("confirmation_id", tokenPattern f.confirmationId),
    ("tenant_id", tenantIdPattern f.tenantId),
    ("payout_id", tokenPattern f.payoutId),
    ("actor_id", tokenPattern f.actorId),
    ("actor_role", tokenPattern f.actorRole),
    ("two_factor_method", hasLength 1 32 f.twoFactorMethod),
    ("audit_hash", auditHashPattern f.auditHash),
    ("correlation_id", tokenPattern f.correlationId)]

abbrev PayoutConfirmation : Type := Validated ConfirmationFields.checks

def payoutConfirmation (f : ConfirmationFields) :
    Except SharedException PayoutConfirmation :=
  Validated.make "PayoutConfirmation" ConfirmationFields.checks
    { f with
      confirmationId := Text.trim f.confirmationId
      tenantId := Text.trim f.tenantId
      payoutId := Text.trim f.payoutId
      actorId := Text.trim f.actorId
      actorRole := Text.trim f.actorRole
      twoFactorMethod := Text.trim f.twoFactorMethod
      operation := Text.trim f.operation
      correlationId := Text.trim f.correlationId }

/-! ## Commands and results of the connectors -/

/-- `^[a-z][a-z0-9_-]{0,63}$` (`_CONNECTOR_NAME_PATTERN`). -/
def connectorNamePattern (s : String) : Bool :=
  Text.matchesHeadTail Text.isAsciiLower
    (fun c => Text.isAsciiLower c || Text.isAsciiDigit c || c == '_' || c == '-') 63 s

/-- `^[a-z][a-z0-9_]{0,127}$` (`_TEMPLATE_KEY_PATTERN`). -/
def templateKeyPattern (s : String) : Bool :=
  Text.matchesHeadTail Text.isAsciiLower
    (fun c => Text.isAsciiLower c || Text.isAsciiDigit c || c == '_') 127 s

structure PaymentCommandFields where
  tenantId : String
  payoutId : String
  executionId : String
  memberId : String
  memberHash : String
  period : String
  payoutShare : ℚ
  distributionId : String
  distributionHash : String
  correlationId : String
  requestedAt : Instant
  metadata : JSONObject

def PaymentCommandFields.checks (f : PaymentCommandFields) : List (String × Bool) :=
  [("tenant_id", tenantIdPattern f.tenantId),
    ("payout_id", tokenPattern f.payoutId),
    ("execution_id", tokenPattern f.executionId),
    ("member_id", tokenPattern f.memberId),
    ("member_hash", refHashPattern f.memberHash),
    ("period", hasLength 7 7 f.period),
    ("payout_share", isShare f.payoutShare),
    ("distribution_id", tokenPattern f.distributionId),
    ("distribution_hash", auditHashPattern f.distributionHash),
    ("correlation_id", tokenPattern f.correlationId)]

abbrev PayoutPaymentCommand : Type := Validated PaymentCommandFields.checks

def payoutPaymentCommand (f : PaymentCommandFields) :
    Except SharedException PayoutPaymentCommand :=
  Validated.make "PayoutPaymentCommand" PaymentCommandFields.checks
    { f with
      tenantId := Text.trim f.tenantId
      payoutId := Text.trim f.payoutId
      executionId := Text.trim f.executionId
      memberId := Text.trim f.memberId
      memberHash := Text.trim f.memberHash
      period := Text.trim f.period
      distributionId := Text.trim f.distributionId
      distributionHash := Text.trim f.distributionHash
      correlationId := Text.trim f.correlationId }

structure PaymentResultFields where
  executionRef : String
  connectorName : String := "in_memory_payment"
  executedAt : Instant
  gatewayPaymentId : Option String := none
  gatewayStatus : PayoutPaymentStatus := .succeeded

def PaymentResultFields.checks (f : PaymentResultFields) : List (String × Bool) :=
  [("execution_ref", hasLength 1 256 f.executionRef),
    ("connector_name", connectorNamePattern f.connectorName),
    ("gateway_payment_id", optionalField (hasLength 1 256) f.gatewayPaymentId)]

abbrev PayoutPaymentResult : Type := Validated PaymentResultFields.checks

structure StatusCommandFields where
  tenantId : String
  payoutId : String
  executionId : String
  paymentGatewayId : String
  connectorName : String
  correlationId : String
  requestedAt : Instant
  metadata : JSONObject

def StatusCommandFields.checks (f : StatusCommandFields) : List (String × Bool) :=
  [("tenant_id", tenantIdPattern f.tenantId),
    ("payout_id", tokenPattern f.payoutId),
    ("execution_id", tokenPattern f.executionId),
    ("payment_gateway_id", hasLength 1 256 f.paymentGatewayId),
    ("connector_name", connectorNamePattern f.connectorName),
    ("correlation_id", tokenPattern f.correlationId)]

abbrev PayoutPaymentStatusCommand : Type := Validated StatusCommandFields.checks

def payoutPaymentStatusCommand (f : StatusCommandFields) :
    Except SharedException PayoutPaymentStatusCommand :=
  Validated.make "PayoutPaymentStatusCommand" StatusCommandFields.checks
    { f with
      tenantId := Text.trim f.tenantId
      payoutId := Text.trim f.payoutId
      executionId := Text.trim f.executionId
      paymentGatewayId := Text.trim f.paymentGatewayId
      connectorName := Text.trim f.connectorName
      correlationId := Text.trim f.correlationId }

structure StatusResultFields where
  paymentGatewayId : String
  status : PayoutPaymentStatus
  connectorName : String
  syncedAt : Instant
  errorCode : Option String := none
  retryable : Bool := false
  refundId : Option String := none

def StatusResultFields.checks (f : StatusResultFields) : List (String × Bool) :=
  [("payment_gateway_id", hasLength 1 256 f.paymentGatewayId),
    ("connector_name", connectorNamePattern f.connectorName),
    ("error_code", optionalField (hasLength 1 128) f.errorCode),
    ("refund_id", optionalField (hasLength 1 256) f.refundId)]

abbrev PayoutPaymentStatusResult : Type := Validated StatusResultFields.checks

structure AuditCommandFields where
  tenantId : String
  eventId : String
  eventType : String
  auditHash : String
  correlationId : String
  occurredAt : Instant
  metadata : JSONObject

def AuditCommandFields.checks (f : AuditCommandFields) : List (String × Bool) :=
  [("tenant_id", tenantIdPattern f.tenantId),
    ("event_id", tokenPattern f.eventId),
    ("event_type", isEventType f.eventType),
    ("audit_hash", auditHashPattern f.auditHash),
    ("correlation_id", tokenPattern f.correlationId)]

abbrev BlockchainAuditRecordCommand : Type := Validated AuditCommandFields.checks

def blockchainAuditRecordCommand (f : AuditCommandFields) :
    Except SharedException BlockchainAuditRecordCommand :=
  Validated.make "BlockchainAuditRecordCommand" AuditCommandFields.checks
    { f with
      tenantId := Text.trim f.tenantId
      eventId := Text.trim f.eventId
      eventType := Text.trim f.eventType
      correlationId := Text.trim f.correlationId }

structure AuditResultFields where
  auditChainRef : String
  connectorName : String := "in_memory_blockchain_auditor"
  recordedAt : Instant

def AuditResultFields.checks (f : AuditResultFields) : List (String × Bool) :=
  [("audit_chain_ref", hasLength 1 256 f.auditChainRef),
    ("connector_name", connectorNamePattern f.connectorName)]

abbrev BlockchainAuditRecordResult : Type := Validated AuditResultFields.checks

structure NotificationCommandFields where
  notificationId : String
  tenantId : String
  recipientId : String
  recipientHash : String
  payoutId : String
  eventType : String
  templateKey : String
  correlationId : String
  metadata : JSONObject

def NotificationCommandFields.checks (f : NotificationCommandFields) :
    List (String × Bool) :=
  [("notification_id", tokenPattern f.notificationId),
    ("tenant_id", tenantIdPattern f.tenantId),
    ("recipient_id", tokenPattern f.recipientId),
    ("recipient_hash", refHashPattern f.recipientHash),
    ("payout_id", tokenPattern f.payoutId),
    ("event_type", isEventType f.eventType),
    ("template_key", templateKeyPattern f.templateKey),
    ("correlation_id", tokenPattern f.correlationId)]

abbrev PayoutNotificationCommand : Type := Validated NotificationCommandFields.checks

def payoutNotificationCommand (f : NotificationCommandFields) :
    Except SharedException PayoutNotificationCommand :=
  Validated.make "PayoutNotificationCommand" NotificationCommandFields.checks
    { f with
      notificationId := Text.trim f.notificationId
      tenantId := Text.trim f.tenantId
      recipientId := Text.trim f.recipientId
      recipientHash := Text.trim f.recipientHash
      payoutId := Text.trim f.payoutId
      eventType := Text.trim f.eventType
      correlationId := Text.trim f.correlationId }

structure NotificationResultFields where
  notificationId : String
  connectorName : String := "in_memory_notification"
  acceptedAt : Instant

def NotificationResultFields.checks (f : NotificationResultFields) :
    List (String × Bool) :=
  [("notification_id", tokenPattern f.notificationId),
    ("connector_name", connectorNamePattern f.connectorName)]

abbrev PayoutNotificationResult : Type := Validated NotificationResultFields.checks

structure ExecutionReceiptFields where
  executionId : String
  tenantId : String
  payoutId : String
  executionRefHash : String
  auditHash : String
  auditChainRef : String
  notificationId : String
  executedAt : Instant
  correlationId : String

def ExecutionReceiptFields.checks (f : ExecutionReceiptFields) : List (String × Bool) :=
  [("execution_id", tokenPattern f.executionId),
    ("tenant_id", tenantIdPattern f.tenantId),
    ("payout_id", tokenPattern f.payoutId),
    ("execution_ref_hash", refHashPattern f.executionRefHash),
    ("audit_hash", auditHashPattern f.auditHash),
    ("audit_chain_ref", hasLength 1 256 f.auditChainRef),
    ("notification_id", tokenPattern f.notificationId),
    ("correlation_id", tokenPattern f.correlationId)]

abbrev PayoutExecutionReceipt : Type := Validated ExecutionReceiptFields.checks

def payoutExecutionReceipt (f : ExecutionReceiptFields) :
    Except SharedException PayoutExecutionReceipt :=
  Validated.make "PayoutExecutionReceipt" ExecutionReceiptFields.checks
    { f with
      executionId := Text.trim f.executionId
      tenantId := Text.trim f.tenantId
      payoutId := Text.trim f.payoutId
      correlationId := Text.trim f.correlationId }

structure StatusReceiptFields where
  tenantId : String
  payoutId : String
  paymentGatewayId : String
  paymentRefHash : String
  status : PayoutPaymentStatus
  connectorName : String
  syncedAt : Instant
  auditHash : String
  correlationId : String
  errorCode : Option String
  retryable : Bool
  refundId : Option String

def StatusReceiptFields.checks (f : StatusReceiptFields) : List (String × Bool) :=
  [("tenant_id", tenantIdPattern f.tenantId),
    ("payout_id", tokenPattern f.payoutId),
    ("payment_gateway_id", hasLength 1 256 f.paymentGatewayId),
    ("payment_ref_hash", refHashPattern f.paymentRefHash),
    ("connector_name", connectorNamePattern f.connectorName),
    ("audit_hash", auditHashPattern f.auditHash),
    ("correlation_id", tokenPattern f.correlationId),
    ("error_code", optionalField (hasLength 1 128) f.errorCode),
    ("refund_id", optionalField (hasLength 1 256) f.refundId)]

abbrev PayoutPaymentStatusReceipt : Type := Validated StatusReceiptFields.checks

def payoutPaymentStatusReceipt (f : StatusReceiptFields) :
    Except SharedException PayoutPaymentStatusReceipt :=
  Validated.make "PayoutPaymentStatusReceipt" StatusReceiptFields.checks
    { f with
      tenantId := Text.trim f.tenantId
      payoutId := Text.trim f.payoutId
      correlationId := Text.trim f.correlationId }

end MediaCenter.HitlPayout
