import MediaCenter.Model.HitlPayout.QueueManager

/-!
# Veto (`hitl_payout_gateway/veto_manager.py`)
-/

set_option autoImplicit false

namespace MediaCenter.HitlPayout

open MediaCenter.Library MediaCenter.Shared

def payoutVetoedEvent : String := "payout.vetoed"

structure VetoArgs where
  tenantId : String
  payoutId : String
  actorId : String
  reasonCode : String
  reason : String
  correlationId : String
  decisionId : Option String := none
  eventId : Option String := none
  now : TimeArg := .omitted
  metadata : JSONObject := []

/-- The two checks of `veto_payout`: the payout is queued and its window is open. -/
def requireVetoable (payout : PayoutQueueItem) (decidedAt : Instant) :
    Except HitlError Unit := do
  if payout.status ≠ .queued then
    throw (.payoutNotExecutable "Вето можно наложить только на выплату в статусе queued")
  if payout.vetoUntil ≤ decidedAt then
    throw (.vetoWindowClosed "Окно вето для выплаты уже закрыто")

namespace VetoArgs

/-- `resolved_decision_id`. -/
def resolvedDecisionId (args : VetoArgs) (env : Ambient) : String :=
  orDefault args.decisionId (newId "veto" (env.uuid 0))

/-- The audit entry of a veto. -/
def auditArgs (args : VetoArgs) (py : Stdlib) (env : Ambient) (decidedAt : Instant)
    (payout : PayoutQueueItem) : AuditArgs where
  eventType := payoutVetoedEvent
  tenantId := args.tenantId
  metadata :=
    [("payout_id", .str payout.payoutId),
      ("decision_id", .str (args.resolvedDecisionId env)),
      ("actor_hash", .str (subjectRefHash py args.tenantId args.actorId)),
      ("reason_code", .str args.reasonCode),
      ("reason_hash", .str (subjectRefHash py args.tenantId args.reason)),
      ("previous_status", .str payout.status.value),
      ("new_status", .str PayoutStatus.canceled.value),
      ("metadata", .dict (auditSafeMetadata py args.metadata))]
  timestamp := decidedAt
  correlationId := some args.correlationId
  actorHash := some (subjectRefHash py args.tenantId args.actorId)
  source := some hitlPayoutSource

/-- The fields given to `VetoDecision`. -/
def decisionFields (args : VetoArgs) (py : Stdlib) (env : Ambient) (decidedAt : Instant)
    (auditHash : String) : DecisionFields where
  decisionId := args.resolvedDecisionId env
  tenantId := args.tenantId
  payoutId := args.payoutId
  actorId := args.actorId
  actorHash := subjectRefHash py args.tenantId args.actorId
  reasonCode := args.reasonCode
  reason := args.reason
  reasonHash := subjectRefHash py args.tenantId args.reason
  auditHash := auditHash
  decidedAt := decidedAt
  correlationId := args.correlationId

/-- The event of a veto. -/
def event (args : VetoArgs) (env : Ambient) (decidedAt : Instant) (payout : PayoutQueueItem)
    (decision : VetoDecision) : EventEnvelope where
  eventId := orDefault args.eventId (newId "evt-payout-vetoed" (env.uuid 1))
  type := payoutVetoedEvent
  schemaVersion := hitlPayoutSchemaVersion
  tenantId := args.tenantId
  source := hitlPayoutSource
  correlationId := args.correlationId
  occurredAt := decidedAt
  payload :=
    [("payout_id", .str payout.payoutId),
      ("decision_id", .str decision.fields.decisionId),
      ("reason_code", .str decision.fields.reasonCode),
      ("audit_hash", .str decision.fields.auditHash)]
  causationId := none

end VetoArgs

/-- `VetoManager.veto_payout`. -/
def vetoPayout (cfg : GatewayConfig) (env : Ambient) (args : VetoArgs) :
    Gateway VetoDecision := do
  let decidedAt ← Gateway.shared (resolveTime cfg.py env.now args.now)
  let payout ← Gateway.getPayout args.tenantId args.payoutId
  Coroutine.ofExcept (requireVetoable payout decidedAt)
  let record ← Gateway.recordAudit cfg.py (args.auditArgs cfg.py env decidedAt payout)
  let decision ← Gateway.shared
    (vetoDecision (args.decisionFields cfg.py env decidedAt record.fields.auditHash))
  Gateway.addDecision decision
  let _ ← Gateway.updatePayout (payout.withStatus .canceled decidedAt
    (some decision.fields.auditHash) (some decision.fields.decisionId))
  let _ ← Gateway.publishEvent (args.event env decidedAt payout decision)
  return decision

end MediaCenter.HitlPayout
