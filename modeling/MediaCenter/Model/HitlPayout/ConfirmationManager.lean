import MediaCenter.Model.Shared.Auth
import MediaCenter.Model.HitlPayout.QueueManager

/-!
# Confirmation (`hitl_payout_gateway/confirmation_manager.py`)
-/

set_option autoImplicit false

namespace MediaCenter.HitlPayout

open MediaCenter.Library MediaCenter.Shared

def payoutConfirmOperation : String := "payout.confirm"

def payoutConfirmedEvent : String := "payout.confirmed"

/-- `PAYOUT_CONFIRM_POLICY`. -/
def payoutConfirmPolicy : AccessPolicy :=
  AccessPolicy.council payoutConfirmOperation "hitl_payout"

structure ConfirmArgs where
  tenantId : String
  payoutId : String
  context : TenantContext
  twoFactorConfirmation : TwoFactorConfirmation
  confirmationId : Option String := none
  eventId : Option String := none
  metadata : JSONObject := []

/-- `subject` of the acting context. -/
def requireSubject (context : TenantContext) : Except HitlError String :=
  match context.subject with
  | some subject => .ok subject
  | none => .error
      (.payoutNotExecutable "Подтверждение выплаты требует subject в tenant context")

/-- The checks of `confirm_payout` on the payout. -/
def requireConfirmable (payout : PayoutQueueItem) : Except HitlError Unit := do
  if payout.status ≠ .queued then
    throw (.payoutNotExecutable "Подтверждать можно только выплату в статусе queued")
  if payout.confirmationId ≠ none then
    throw (.payoutNotExecutable "Выплата уже подтверждена через 2FA")

/-- `_require_matching_two_factor_confirmation`. -/
def requireMatchingTwoFactorConfirmation (confirmation : TwoFactorConfirmation)
    (tenantId payoutId : String) (context : TenantContext) : Except HitlError Unit := do
  if confirmation.tenantId ≠ tenantId ∨ confirmation.subject ≠ context.subject ∨
      confirmation.operation ≠ payoutConfirmOperation ∨
      confirmation.resourceId ≠ payoutId then
    throw (.payoutNotExecutable "2FA-подтверждение не соответствует выплате")
  if confirmation.correlationId ≠ none ∧ context.correlationId ≠ none ∧
      confirmation.correlationId ≠ context.correlationId then
    throw (.payoutNotExecutable "2FA-подтверждение не соответствует correlation_id выплаты")

/-- `_confirmed_by_role`: the first role that may confirm. -/
def confirmedByRole (roles : List String) : Except HitlError String :=
  match roles.find? fun role => payoutConfirmPolicy.allowedRoles.contains role with
  | some role => .ok role
  | none => .error
      (.payoutNotExecutable "Подтверждающая роль не найдена в RBAC context")

/-- `_datetime_from_unix`. -/
def datetimeFromUnix (timestamp : ℤ) : Except SharedException Instant :=
  let t := timestamp * 1000000
  if datetimeMin ≤ t ∧ t ≤ datetimeMax then .ok t
  else if -2 ^ 63 ≤ timestamp ∧ timestamp < 2 ^ 63 then
    .error (.valueError "year is out of range")
  else .error (.overflowError "timestamp out of range for platform time_t")

/-- `_resolve_correlation_id`. -/
def resolveCorrelationId (context : TenantContext) (confirmation : TwoFactorConfirmation) :
    Except HitlError String :=
  match PayoutQueueItem.orElseText context.correlationId confirmation.correlationId with
  | some correlationId =>
      if Text.strip correlationId = "" then
        .error (.payoutQueue "correlation_id обязателен для подтверждения выплаты")
      else .ok correlationId
  | none => .error (.payoutQueue "correlation_id обязателен для подтверждения выплаты")

/-- What `confirm_payout` resolves before it writes. -/
structure ConfirmBasis where
  subject : String
  actorRole : String
  confirmedAt : Instant
  correlationId : String

namespace ConfirmArgs

/-- `resolved_confirmation_id`. -/
def resolvedConfirmationId (args : ConfirmArgs) (env : Ambient) : String :=
  orDefault args.confirmationId (newId "confirmation" (env.uuid 0))

/-- The audit entry of a confirmation. -/
def auditArgs (args : ConfirmArgs) (py : Stdlib) (env : Ambient) (basis : ConfirmBasis)
    (payout : PayoutQueueItem) : AuditArgs where
  eventType := payoutConfirmedEvent
  tenantId := args.tenantId
  metadata :=
    [("payout_id", .str payout.payoutId),
      ("confirmation_id", .str (args.resolvedConfirmationId env)),
      ("actor_hash", .str (subjectRefHash py args.tenantId basis.subject)),
      ("confirmed_by_role", .str basis.actorRole),
      ("two_factor_method", .str args.twoFactorConfirmation.method),
      ("operation", .str args.twoFactorConfirmation.operation),
      ("resource_id", .str args.twoFactorConfirmation.resourceId),
      ("previous_status", .str payout.status.value),
      ("metadata", .dict (auditSafeMetadata py args.metadata))]
  timestamp := basis.confirmedAt
  correlationId := some basis.correlationId
  actorHash := some (subjectRefHash py args.tenantId basis.subject)
  source := some hitlPayoutSource

/-- The fields given to `PayoutConfirmation`. -/
def confirmationFields (args : ConfirmArgs) (py : Stdlib) (env : Ambient)
    (basis : ConfirmBasis) (auditHash : String) : ConfirmationFields where
  confirmationId := args.resolvedConfirmationId env
  tenantId := args.tenantId
  payoutId := args.payoutId
  actorId := basis.subject
  actorHash := subjectRefHash py args.tenantId basis.subject
  actorRole := basis.actorRole
  twoFactorMethod := args.twoFactorConfirmation.method
  operation := args.twoFactorConfirmation.operation
  auditHash := auditHash
  confirmedAt := basis.confirmedAt
  correlationId := basis.correlationId

/-- The event of a confirmation. -/
def event (args : ConfirmArgs) (env : Ambient) (basis : ConfirmBasis)
    (payout : PayoutQueueItem) (confirmation : PayoutConfirmation) : EventEnvelope where
  eventId := orDefault args.eventId (newId "evt-payout-confirmed" (env.uuid 1))
  type := payoutConfirmedEvent
  schemaVersion := hitlPayoutSchemaVersion
  tenantId := args.tenantId
  source := hitlPayoutSource
  correlationId := basis.correlationId
  occurredAt := basis.confirmedAt
  payload :=
    [("payout_id", .str payout.payoutId),
      ("decision_id", .str confirmation.fields.confirmationId),
      ("confirmed_by_role", .str confirmation.fields.actorRole),
      ("audit_hash", .str confirmation.fields.auditHash)]
  causationId := none

end ConfirmArgs

/-- `PayoutConfirmationManager.confirm_payout`. -/
def confirmPayout (cfg : GatewayConfig) (env : Ambient) (args : ConfirmArgs) :
    Gateway PayoutConfirmation := do
  Gateway.shared (assertRequestedTenant args.tenantId args.context)
  let actorContext ← Gateway.shared (requireAccess payoutConfirmPolicy args.context)
  let subject ← Coroutine.ofExcept (requireSubject actorContext)
  let payout ← Gateway.getPayout args.tenantId args.payoutId
  Coroutine.ofExcept (requireConfirmable payout)
  Coroutine.ofExcept (requireMatchingTwoFactorConfirmation args.twoFactorConfirmation
    args.tenantId args.payoutId actorContext)
  let actorRole ← Coroutine.ofExcept (confirmedByRole actorContext.roles)
  let confirmedAt ← Gateway.shared (datetimeFromUnix args.twoFactorConfirmation.confirmedAt)
  let correlationId ← Coroutine.ofExcept
    (resolveCorrelationId actorContext args.twoFactorConfirmation)
  let basis : ConfirmBasis := ⟨subject, actorRole, confirmedAt, correlationId⟩
  let record ← Gateway.recordAudit cfg.py (args.auditArgs cfg.py env basis payout)
  let confirmation ← Gateway.shared
    (payoutConfirmation (args.confirmationFields cfg.py env basis record.fields.auditHash))
  Gateway.addConfirmation confirmation
  let _ ← Gateway.updatePayout (payout.withConfirmation confirmation.fields.confirmationId
    confirmation.fields.actorId confirmation.fields.actorHash confirmation.fields.actorRole
    confirmation.fields.confirmedAt confirmation.fields.auditHash)
  let _ ← Gateway.publishEvent (args.event env basis payout confirmation)
  return confirmation

end MediaCenter.HitlPayout
