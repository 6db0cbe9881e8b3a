import MediaCenter.Library.Coroutine
import MediaCenter.Library.Dict
import MediaCenter.Model.Shared.AuditLogger
import MediaCenter.Model.Shared.Events
import MediaCenter.Model.HitlPayout.Contracts

/-!
# Stores and connectors of the HITL payout gateway

The in-memory repositories of the managers, the state they share, and the requests they
await: the payment, audit-chain and notification connectors and the event publisher.
-/

set_option autoImplicit false

namespace MediaCenter.HitlPayout

open MediaCenter.Library MediaCenter.Shared

/-! ## Stores

A store carries the invariant of its keys: whatever is stored under a key has the ids of
that key. -/

structure PayoutRepository where
  payouts : Dict (String × String) PayoutQueueItem
  keyed : ∀ k p, payouts.get? k = some p → k = p.key

namespace PayoutRepository

def empty : PayoutRepository := ⟨.empty, by simp⟩

def put (r : PayoutRepository) (p : PayoutQueueItem) : PayoutRepository where
  payouts := r.payouts.set p.key p
  keyed := by
    intro k p' h
    rw [Dict.get?_set] at h
    split at h
    · rename_i hk
      cases h
      exact hk
    · exact r.keyed k p' h

/-- `add_payout`. -/
def addPayout (r : PayoutRepository) (p : PayoutQueueItem) :
    Except HitlError PayoutRepository :=
  if (r.payouts.get? p.key).isSome then
    .error (.payoutQueue "Выплата с таким payout_id уже есть в очереди")
  else .ok (r.put p)

/-- `get_payout`. -/
def getPayout (r : PayoutRepository) (tenantId payoutId : String) :
    Except HitlError PayoutQueueItem :=
  match r.payouts.get? (tenantId, payoutId) with
  | some p => .ok p
  | none => .error (.payoutNotFound "Выплата не найдена в очереди tenant")

/-- `update_payout`. -/
def updatePayout (r : PayoutRepository) (p : PayoutQueueItem) :
    Except HitlError PayoutRepository :=
  if (r.payouts.get? p.key).isSome then .ok (r.put p)
  else .error (.payoutNotFound "Выплата не найдена в очереди tenant")

end PayoutRepository

def VetoDecision.key (d : VetoDecision) : String × String :=
  (d.fields.tenantId, d.fields.decisionId)

structure DecisionRepository where
  decisions : Dict (String × String) VetoDecision
  keyed : ∀ k d, decisions.get? k = some d → k = VetoDecision.key d

namespace DecisionRepository

def empty : DecisionRepository := ⟨.empty, by simp⟩

def put (r : DecisionRepository) (d : VetoDecision) : DecisionRepository where
  decisions := r.decisions.set (VetoDecision.key d) d
  keyed := by
    intro k d' h
    rw [Dict.get?_set] at h
    split at h
    · rename_i hk
      cases h
      exact hk
    · exact r.keyed k d' h

/-- `add_decision`. -/
def addDecision (r : DecisionRepository) (d : VetoDecision) :
    Except HitlError DecisionRepository :=
  if (r.decisions.get? (VetoDecision.key d)).isSome then
    .error (.payoutQueue "Решение вето с таким decision_id уже сохранено")
  else .ok (r.put d)

end DecisionRepository

namespace PayoutConfirmation

def key (c : PayoutConfirmation) : String × String :=
  (c.fields.tenantId, c.fields.confirmationId)

def payoutKey (c : PayoutConfirmation) : String × String :=
  (c.fields.tenantId, c.fields.payoutId)

end PayoutConfirmation

/-- The confirmations, and the index from a payout to its confirmation. -/
structure ConfirmationRepository where
  confirmations : Dict (String × String) PayoutConfirmation
  payoutIndex : Dict (String × String) String
  keyed : ∀ k c, confirmations.get? k = some c → k = PayoutConfirmation.key c
  indexed : ∀ k confirmationId, payoutIndex.get? k = some confirmationId →
    ∃ c, confirmations.get? (k.1, confirmationId) = some c ∧
      PayoutConfirmation.payoutKey c = k

namespace ConfirmationRepository

def empty : ConfirmationRepository := ⟨.empty, .empty, by simp, by simp⟩

/-- The two assignments at the end of `add_confirmation`, for a key that is not taken. -/
def put (r : ConfirmationRepository) (c : PayoutConfirmation)
    (hkey : r.confirmations.get? (PayoutConfirmation.key c) = none) :
    ConfirmationRepository where
  confirmations := r.confirmations.set (PayoutConfirmation.key c) c
  payoutIndex := r.payoutIndex.set (PayoutConfirmation.payoutKey c) c.fields.confirmationId
  keyed := by
    intro k c' h
    rw [Dict.get?_set] at h
    split at h
    · rename_i hk
      cases h
      exact hk
    · exact r.keyed k c' h
  indexed := by
    intro k confirmationId h
    rw [Dict.get?_set] at h
    split at h
    · rename_i hk
      cases h
      subst hk
      exact ⟨c, Dict.get?_set_self _ _ _, rfl⟩
    · obtain ⟨c', hc', hpayout⟩ := r.indexed k confirmationId h
      refine ⟨c', ?_, hpayout⟩
      rw [Dict.get?_set_of_ne, hc']
      intro heq
      rw [heq, hkey] at hc'
      cases hc'

/-- `add_confirmation`. -/
def addConfirmation (r : ConfirmationRepository) (c : PayoutConfirmation) :
    Except HitlError ConfirmationRepository :=
  match hkey : r.confirmations.get? (PayoutConfirmation.key c) with
  | some _ =>
      .error (.payoutQueue "Подтверждение выплаты с таким confirmation_id уже сохранено")
  | none =>
      if (r.payoutIndex.get? (PayoutConfirmation.payoutKey c)).isSome then
        .error (.payoutNotExecutable "Выплата уже подтверждена через 2FA")
      else .ok (r.put c hkey)

end ConfirmationRepository

/-- Everything the managers share. -/
structure GatewayState where
  payouts : PayoutRepository
  decisions : DecisionRepository
  confirmations : ConfirmationRepository
  /-- The records of the audit sink, oldest first. -/
  auditLog : List AuditLogRecord

def GatewayState.initial : GatewayState := ⟨.empty, .empty, .empty, []⟩

/-! ## What the managers await -/

inductive GatewayRequest : Type where
  | executePayout (command : PayoutPaymentCommand)
  | syncPayoutStatus (command : PayoutPaymentStatusCommand)
  | recordAuditHash (command : BlockchainAuditRecordCommand)
  | notifyPayoutExecuted (command : PayoutNotificationCommand)
  | publish (envelope : EventEnvelope)

@[reducible] def GatewayResult : GatewayRequest → Type
  | .executePayout _ => PayoutPaymentResult
  | .syncPayoutStatus _ => PayoutPaymentStatusResult
  | .recordAuditHash _ => BlockchainAuditRecordResult
  | .notifyPayoutExecuted _ => PayoutNotificationResult
  | .publish _ => Unit

/-- Connectors and publishers answer with a result, or raise. -/
abbrev gatewayInterface : Interface :=
  Interface.fallible GatewayRequest HitlError GatewayResult

abbrev Gateway (α : Type) : Type := Coroutine gatewayInterface GatewayState HitlError α

namespace Gateway

open Coroutine

/-- Raise what a shared contract raises. -/
def shared {α : Type} (x : Except SharedException α) : Gateway α := Coroutine.ofExcept (liftShared x)

/-- `AuditLogger.record`: the record is built, then appended to the sink. -/
def recordAudit (py : Stdlib) (args : AuditArgs) : Gateway AuditLogRecord :=
  update fun s => do
    let record ← liftShared (auditRecord py args)
    return (record, { s with auditLog := s.auditLog ++ [record] })

def addPayout (p : PayoutQueueItem) : Gateway Unit :=
  update fun s => do
    let payouts ← s.payouts.addPayout p
    return ((), { s with payouts := payouts })

def getPayout (tenantId payoutId : String) : Gateway PayoutQueueItem :=
  inspect fun s => s.payouts.getPayout tenantId payoutId

def updatePayout (p : PayoutQueueItem) : Gateway PayoutQueueItem :=
  update fun s => do
    let payouts ← s.payouts.updatePayout p
    return (p, { s with payouts := payouts })

def addDecision (d : VetoDecision) : Gateway Unit :=
  update fun s => do
    let decisions ← s.decisions.addDecision d
    return ((), { s with decisions := decisions })

def addConfirmation (c : PayoutConfirmation) : Gateway Unit :=
  update fun s => do
    let confirmations ← s.confirmations.addConfirmation c
    return ((), { s with confirmations := confirmations })

/-- Await a connector or the publisher, and raise what it raises. -/
def request (q : GatewayRequest) : Gateway (GatewayResult q) := attempt q

/-- `EventEnvelope(...)`, then `await self.publisher.publish(event)`. -/
def publishEvent (args : EventEnvelope) : Gateway EventEnvelope := do
  let event ← shared (eventEnvelope args)
  let _ ← request (.publish event)
  return event

end Gateway

end MediaCenter.HitlPayout
