import MediaCenter.Library.Effects
import MediaCenter.Model.HitlPayout.Managers

/-!
# What the managers may ever do

The two operations that run connectors, execution and synchronisation, change the payouts
and write records of three event types.  Money is requested by `execute_payout` only, and
only at its first await.
-/

set_option autoImplicit false

namespace MediaCenter.HitlPayout

open MediaCenter.Library MediaCenter.Shared Coroutine

/-- The event types of the records that execution and synchronisation write. -/
def connectorEvents : List String :=
  [payoutExecutedEvent, payoutFailedEvent, payoutPaymentStatusSyncedEvent]

section Connectors

variable {T : GatewayState → GatewayState → Prop} {P : GatewayRequest → Prop} {α : Type}
  {cfg : GatewayConfig} {env : Ambient}
  (hrefl : ∀ s, T s s)
  (hlog : ∀ (s : GatewayState) (record : AuditLogRecord),
    record.fields.eventType ∈ connectorEvents →
    T s { s with auditLog := s.auditLog ++ [record] })
  (hput : ∀ (s : GatewayState) (payouts : PayoutRepository), T s { s with payouts := payouts })
  (hpublish : ∀ event, P (.publish event))

theorem publishEvent_within (hpublish : ∀ event, P (.publish event)) (args : EventEnvelope) :
    (Gateway.publishEvent args).Within T P := by
  unfold Gateway.publishEvent Gateway.request
  refine within_bind (within_ofExcept _) ?_
  intro event
  refine within_bind (within_attempt _ (hpublish event)) ?_
  intro u
  exact within_pure event

include hrefl

theorem getPayout_within (tenantId payoutId : String) :
    (Gateway.getPayout tenantId payoutId).Within T P :=
  within_inspect hrefl _

include hput in
theorem updatePayout_within (p : PayoutQueueItem) : (Gateway.updatePayout p).Within T P := by
  unfold Gateway.updatePayout
  apply within_update hrefl
  intro s a s' h
  cases hup : s.payouts.updatePayout p with
  | error e =>
      rw [hup] at h
      cases h
  | ok payouts =>
      rw [hup] at h
      cases h
      exact hput s payouts

include hlog

theorem recordAudit_within {args : AuditArgs} (htype : Text.trim args.eventType ∈ connectorEvents)
    (py : Stdlib) : (Gateway.recordAudit py args).Within T P := by
  unfold Gateway.recordAudit
  apply within_update hrefl
  intro s a s' h
  cases hrecord : auditRecord py args with
  | error e =>
      rw [hrecord] at h
      cases h
  | ok record =>
      rw [hrecord] at h
      cases h
      apply hlog
      obtain ⟨_, hevent, _⟩ := auditRecord_eq_ok hrecord
      rw [hevent]
      exact htype

include hpublish

theorem failConnector_within (py : Stdlib) (args : FailureArgs) (e : HitlError) :
    (failConnector py args e : Gateway α).Within T P := by
  have htype : Text.trim payoutFailedEvent ∈ connectorEvents := by decide
  unfold failConnector
  apply within_bind
  · apply recordAudit_within hrefl hlog
    exact htype
  intro record
  refine within_bind (publishEvent_within hpublish _) ?_
  intro event
  exact within_throw _

/-- INTERNAL: a guarded connector call requests what it is for, and publishes. -/
theorem guarded_within {Command Result : Type} {x : Except SharedException Command}
    {ask : Command → Gateway Result} (py : Stdlib) (failure : FailureArgs)
    (hask : ∀ command, (ask command).Within T P) :
    (tryCatch (Gateway.shared x >>= ask) (failConnector py failure)).Within T P :=
  within_tryCatch (within_bind (within_ofExcept _) hask)
    (failConnector_within hrefl hlog hpublish py failure)

include hput

/-- Execution asks for money at its first await only. -/
theorem executePayout_afterFirst (hchain : ∀ c, P (.recordAuditHash c))
    (hnotify : ∀ c, P (.notifyPayoutExecuted c)) (args : ExecuteArgs) :
    (executePayout cfg env args).AfterFirst T P := by
  have htype : Text.trim payoutExecutedEvent ∈ connectorEvents := by decide
  unfold executePayout
  refine afterFirst_bind_of_within (within_ofExcept _) ?_
  intro requestedAt
  refine afterFirst_bind_of_within (getPayout_within hrefl _ _) ?_
  intro payout
  refine afterFirst_bind_of_within (within_ofExcept _) ?_
  intro _
  refine afterFirst_bind ?_ ?_
  · refine afterFirst_tryCatch ?_ (failConnector_within hrefl hlog hpublish _ _)
    refine afterFirst_bind_of_within (T := T) (within_ofExcept _) ?_
    exact fun command => afterFirst_attempt _
  intro payment
  apply within_bind
  · apply recordAudit_within hrefl hlog
    exact htype
  intro record
  refine within_bind (guarded_within hrefl hlog hpublish _ _ ?_) ?_
  · exact fun command => within_attempt _ (hchain command)
  intro chain
  refine within_bind (guarded_within hrefl hlog hpublish _ _ ?_) ?_
  · exact fun command => within_attempt _ (hnotify command)
  intro notification
  refine within_bind (updatePayout_within hrefl hput _) ?_
  intro updated
  refine within_bind (publishEvent_within hpublish _) ?_
  intro event
  exact within_ofExcept _

theorem syncPaymentStatus_within (hsync : ∀ c, P (.syncPayoutStatus c)) (args : SyncArgs) :
    (syncPaymentStatus cfg env args).Within T P := by
  have htype : Text.trim payoutPaymentStatusSyncedEvent ∈ connectorEvents := by decide
  unfold syncPaymentStatus
  refine within_bind (within_ofExcept _) ?_
  intro requestedAt
  refine within_bind (getPayout_within hrefl _ _) ?_
  intro payout
  refine within_bind (within_ofExcept _) ?_
  intro sent
  refine within_bind (within_ofExcept _) ?_
  intro _
  refine within_bind (guarded_within hrefl hlog hpublish _ _ ?_) ?_
  · exact fun command => within_attempt _ (hsync command)
  intro status
  apply within_bind
  · apply recordAudit_within hrefl hlog
    exact htype
  intro record
  refine within_bind (updatePayout_within hrefl hput _) ?_
  intro updated
  refine within_bind (publishEvent_within hpublish _) ?_
  intro event
  exact within_ofExcept _

omit hlog hpublish in
theorem markReadyForExecution_within (args : MarkReadyArgs) :
    (markReadyForExecution cfg env args).Within T P := by
  unfold markReadyForExecution
  refine within_bind (within_ofExcept _) ?_
  intro checkedAt
  refine within_bind (getPayout_within hrefl _ _) ?_
  intro payout
  by_cases hready : payout.status = .readyToExecute
  · rw [if_pos hready]
    exact within_pure payout
  · rw [if_neg hready]
    refine within_bind (within_ofExcept _) ?_
    intro _
    exact updatePayout_within hrefl hput _

end Connectors

/-! ## Money

What the calls do to the state does not matter here. -/

/-- The request is not a payment. -/
def AsksNoMoney (q : GatewayRequest) : Prop := ∀ command, q ≠ .executePayout command

section Money

variable {cfg : GatewayConfig} {env : Ambient}

theorem asksNoMoney_publish (event : EventEnvelope) : AsksNoMoney (.publish event) := by
  intro command h
  cases h

/-- INTERNAL: the steps that change the stores do not await. -/
theorem update_asksNoMoney {α : Type} (f : GatewayState → Except HitlError (α × GatewayState)) :
    (Coroutine.update f : Gateway α).Within (fun _ _ => True) AsksNoMoney :=
  within_update (fun _ => trivial) f fun _ _ _ _ => trivial

theorem queuePayout_asksNoMoney (args : QueueArgs) :
    (queuePayout cfg env args).Within (fun _ _ => True) AsksNoMoney := by
  unfold queuePayout
  by_cases h2fa : args.requires2fa = false
  · rw [if_pos h2fa]
    exact within_throw _
  · rw [if_neg h2fa]
    refine within_bind (within_ofExcept _) ?_
    intro queuedAt
    refine within_bind (within_ofExcept _) ?_
    intro vetoUntil
    refine within_bind (update_asksNoMoney _) ?_
    intro record
    refine within_bind (within_ofExcept _) ?_
    intro payout
    refine within_bind (update_asksNoMoney _) ?_
    intro u
    refine within_bind (publishEvent_within asksNoMoney_publish _) ?_
    intro event
    exact within_pure _

theorem vetoPayout_asksNoMoney (args : VetoArgs) :
    (vetoPayout cfg env args).Within (fun _ _ => True) AsksNoMoney := by
  unfold vetoPayout
  refine within_bind (within_ofExcept _) ?_
  intro decidedAt
  refine within_bind (getPayout_within (fun _ => trivial) _ _) ?_
  intro payout
  refine within_bind (within_ofExcept _) ?_
  intro u
  refine within_bind (update_asksNoMoney _) ?_
  intro record
  refine within_bind (within_ofExcept _) ?_
  intro decision
  refine within_bind (update_asksNoMoney _) ?_
  intro u
  refine within_bind (update_asksNoMoney _) ?_
  intro updated
  refine within_bind (publishEvent_within asksNoMoney_publish _) ?_
  intro event
  exact within_pure decision

theorem confirmPayout_asksNoMoney (args : ConfirmArgs) :
    (confirmPayout cfg env args).Within (fun _ _ => True) AsksNoMoney := by
  unfold confirmPayout
  refine within_bind (within_ofExcept _) ?_
  intro u
  refine within_bind (within_ofExcept _) ?_
  intro actorContext
  refine within_bind (within_ofExcept _) ?_
  intro subject
  refine within_bind (getPayout_within (fun _ => trivial) _ _) ?_
  intro payout
  refine within_bind (within_ofExcept _) ?_
  intro u
  refine within_bind (within_ofExcept _) ?_
  intro u
  refine within_bind (within_ofExcept _) ?_
  intro actorRole
  refine within_bind (within_ofExcept _) ?_
  intro confirmedAt
  refine within_bind (within_ofExcept _) ?_
  intro correlationId
  refine within_bind (update_asksNoMoney _) ?_
  intro record
  refine within_bind (within_ofExcept _) ?_
  intro confirmation
  refine within_bind (update_asksNoMoney _) ?_
  intro u
  refine within_bind (update_asksNoMoney _) ?_
  intro updated
  refine within_bind (publishEvent_within asksNoMoney_publish _) ?_
  intro event
  exact within_pure confirmation

/-- Only an execution asks for money, and only at its first await. -/
theorem program_cases (call : GatewayCall) :
    (∃ args, call.op = .execute args ∧
      (call.program cfg).AfterFirst (fun _ _ => True) AsksNoMoney) ∨
    (call.program cfg).Within (fun _ _ => True) AsksNoMoney := by
  obtain ⟨env, op⟩ := call
  cases op with
  | queue args => exact .inr (within_map _ (queuePayout_asksNoMoney args))
  | confirm args => exact .inr (within_map _ (confirmPayout_asksNoMoney args))
  | veto args => exact .inr (within_map _ (vetoPayout_asksNoMoney args))
  | markReady args =>
      right
      apply within_map
      exact markReadyForExecution_within (fun _ => trivial) (fun _ _ => trivial) args
  | execute args =>
      left
      refine ⟨args, rfl, ?_⟩
      apply afterFirst_map
      apply executePayout_afterFirst (fun _ => trivial) (fun _ _ _ => trivial)
        (fun _ _ => trivial) asksNoMoney_publish
      · intro command' command h
        cases h
      · intro command' command h
        cases h
  | sync args =>
      right
      apply within_map
      apply syncPaymentStatus_within (fun _ => trivial) (fun _ _ _ => trivial)
        (fun _ _ => trivial) asksNoMoney_publish
      intro command' command h
      cases h

theorem program_afterFirst (call : GatewayCall) :
    (call.program cfg).AfterFirst (fun _ _ => True) AsksNoMoney := by
  rcases program_cases call with ⟨args, _, hafter⟩ | hwithin
  · exact hafter
  · exact hwithin.afterFirst

end Money

end MediaCenter.HitlPayout
