import MediaCenter.Analysis.HitlPayout.Outcomes
import MediaCenter.Analysis.HitlPayout.StateMachine
import MediaCenter.Model.Shared.Reference

/-!
# The segments of an execution

`execute_payout` pauses at its three connectors.  `executePayout_runs` follows it to its
write, for any payout it may execute and whatever the others do at the awaits: each pause
is where the code says, and the write is a copy of the payout that was read first.
-/

set_option autoImplicit false

namespace MediaCenter.HitlPayout

open MediaCenter.Library MediaCenter.Shared Coroutine

section Segments

variable {α β : Type} {s : GatewayState}

theorem advance_shared_bind {x : Except SharedException α} {a : α} (h : x = .ok a)
    (g : α → Gateway β) : (Gateway.shared x >>= g).advance s = (g a).advance s := by
  subst h
  rfl

theorem advance_ofExcept_bind {x : Except HitlError α} {a : α} (h : x = .ok a)
    (g : α → Gateway β) : (Coroutine.ofExcept x >>= g).advance s = (g a).advance s := by
  subst h
  rfl

theorem advance_getPayout_bind {tenantId payoutId : String} {p : PayoutQueueItem}
    (h : s.payout? (tenantId, payoutId) = some p) (g : PayoutQueueItem → Gateway β) :
    (Gateway.getPayout tenantId payoutId >>= g).advance s = (g p).advance s := by
  have hget : s.payouts.getPayout tenantId payoutId = .ok p := by
    unfold PayoutRepository.getPayout
    have hp : s.payouts.payouts.get? (tenantId, payoutId) = some p := h
    rw [hp]
  rw [advance_bind, Gateway.getPayout, advance_inspect, hget]
  rfl

theorem advance_recordAudit_bind {py : Stdlib} {args : AuditArgs} {record : AuditLogRecord}
    (h : auditRecord py args = .ok record) (g : AuditLogRecord → Gateway β) :
    (Gateway.recordAudit py args >>= g).advance s =
      (g record).advance { s with auditLog := s.auditLog ++ [record] } := by
  rw [advance_bind, Gateway.recordAudit, advance_update, h]
  rfl

theorem advance_updatePayout_bind {p : PayoutQueueItem}
    (h : (s.payout? p.key).isSome = true) (g : PayoutQueueItem → Gateway β) :
    (Gateway.updatePayout p >>= g).advance s =
      (g p).advance { s with payouts := s.payouts.put p } := by
  have hput : s.payouts.updatePayout p = .ok (s.payouts.put p) := by
    have hsome : (s.payouts.payouts.get? p.key).isSome = true := h
    unfold PayoutRepository.updatePayout
    rw [if_pos hsome]
  rw [advance_bind, Gateway.updatePayout, advance_update, hput]
  rfl

/-- INTERNAL: a guarded connector call pauses at the connector, and goes on with the result
it answers. -/
theorem advance_guarded_bind {Command Result : Type} {x : Except SharedException Command}
    {c : Command} (h : x = .ok c) (ask : Command → Gateway Result)
    (handler : HitlError → Gateway Result) (g : Result → Gateway β) {q : GatewayRequest}
    {rest : gatewayInterface.Answer q → Gateway Result} (hask : ask c = .await q rest) :
    ∃ k, (tryCatch (Gateway.shared x >>= ask) handler >>= g).advance s =
        (.suspended q k, s) ∧
      ∀ answer result, rest answer = pure result →
        ∀ s', (k answer).advance s' = (g result).advance s' := by
  refine ⟨fun answer => tryCatch (rest answer) handler >>= g, ?_, ?_⟩
  · subst h
    rw [advance_bind, advance_tryCatch]
    show Pause.andThen g (Pause.orElse handler ((ask c).advance s)) = _
    rw [hask]
    rfl
  · intro answer result hrest s'
    show (tryCatch (rest answer) handler >>= g).advance s' = (g result).advance s'
    rw [hrest]
    rfl

/-- INTERNAL: whether or not the envelope is accepted, the state is not touched. -/
theorem state_advance_publishEvent (args : EventEnvelope) (g : EventEnvelope → Gateway β) :
    ((Gateway.publishEvent args >>= g).advance s).2 = s := by
  rw [advance_bind, Gateway.publishEvent, advance_bind, Gateway.shared, advance_ofExcept]
  cases eventEnvelope args with
  | error e => rfl
  | ok event => rfl

end Segments

/-- **An execution, await by await.**  The answers are whatever the connectors give, the
states whatever the other calls leave. -/
theorem executePayout_runs {cfg : GatewayConfig} {env : Ambient} {args : ExecuteArgs}
    {s : GatewayState} {requestedAt : Instant} {p : PayoutQueueItem}
    {command : PayoutPaymentCommand}
    (htime : resolveTime cfg.py env.now args.now = .ok requestedAt)
    (hstored : s.payout? (args.tenantId, args.payoutId) = some p)
    (hexecutable : requireExecutable p requestedAt = .ok ())
    (hcommand : payoutPaymentCommand (args.paymentFields env p requestedAt) = .ok command) :
    ∃ k₁, (executePayout cfg env args).advance s = (.suspended (.executePayout command) k₁, s) ∧
    ∀ payment s₁ record chainCommand,
      auditRecord cfg.py (args.auditArgs cfg.py env p payment) = .ok record →
      blockchainAuditRecordCommand (args.chainFields cfg.py env p payment
        record.fields.auditHash) = .ok chainCommand →
    ∃ k₂, (k₁ (.ok payment)).advance s₁ = (.suspended (.recordAuditHash chainCommand) k₂,
        { s₁ with auditLog := s₁.auditLog ++ [record] }) ∧
    ∀ chain s₂ notificationCommand,
      payoutNotificationCommand (args.notificationFields cfg.py env p payment
        record.fields.auditHash chain) = .ok notificationCommand →
    ∃ k₃, (k₂ (.ok chain)).advance s₂ =
        (.suspended (.notifyPayoutExecuted notificationCommand) k₃, s₂) ∧
    ∀ notification s₃, (s₃.payout? p.key).isSome = true →
      ((k₃ (.ok notification)).advance s₃).2 =
        { s₃ with payouts := s₃.payouts.put (args.executedItem cfg.py env p payment
          record.fields.auditHash chain notification) } := by
  unfold executePayout
  rw [advance_shared_bind htime, advance_getPayout_bind hstored,
    advance_ofExcept_bind hexecutable]
  obtain ⟨k₁, hk₁, hpaid⟩ := advance_guarded_bind (s := s) hcommand
    (fun c => Gateway.request (.executePayout c)) _ _ rfl
  refine ⟨k₁, hk₁, ?_⟩
  intro payment s₁ record chainCommand hrecord hchainCommand
  rw [hpaid (.ok payment) payment rfl, advance_recordAudit_bind hrecord]
  obtain ⟨k₂, hk₂, hchained⟩ := advance_guarded_bind
    (s := { s₁ with auditLog := s₁.auditLog ++ [record] }) hchainCommand
    (fun c => Gateway.request (.recordAuditHash c)) _ _ rfl
  refine ⟨k₂, hk₂, ?_⟩
  intro chain s₂ notificationCommand hnotificationCommand
  rw [hchained (.ok chain) chain rfl]
  obtain ⟨k₃, hk₃, hnotified⟩ := advance_guarded_bind (s := s₂) hnotificationCommand
    (fun c => Gateway.request (.notifyPayoutExecuted c)) _ _ rfl
  refine ⟨k₃, hk₃, ?_⟩
  intro notification s₃ hthere
  rw [hnotified (.ok notification) notification rfl, advance_updatePayout_bind]
  · exact state_advance_publishEvent _ _
  · exact hthere

/-! ## One payout on given inputs

A payout of tenant `media-center` that is queued and confirmed.  Nothing below evaluates a
hash: the steps follow from the general theorems. -/

namespace Sample

def config : GatewayConfig where
  py := Reference.stdlib
  vetoWindowHours := 4
  vetoWindowHours_valid := by decide
  supportsStatusSync := true

/-- The time a number of hours after 2026-01-01T00:00Z. -/
def clock (hours : ℤ) : Instant := 1767225600000000 + hoursToMicros hours

instance neZeroHours : NeZero 100 := ⟨by decide⟩

def ambient (hours : Fin 100) : Ambient where
  now := clock hours.val
  now_nonneg := by
    show (0 : ℤ) ≤ 1767225600000000 + (hours.val : ℤ) * 3600 * 1000000
    omega
  now_le_max := by
    show 1767225600000000 + (hours.val : ℤ) * 3600 * 1000000 ≤ 253402300800 * 1000000 - 1
    omega
  uuid _ := Reference.uuid

def payoutKey : String × String := ("media-center", "payout-1")

def queueArgs (now : TimeArg) : QueueArgs where
  tenantId := "media-center"
  memberId := "member-1"
  period := "2025-12"
  payoutShare := 1
  distributionId := "distribution-1"
  distributionHash := "2cf24dba5fb0a30e26e83b2ac5b9e29e1b161e5c1fa7425e73043362938b9824"
  createdBy := "council-1"
  correlationId := "corr-1"
  payoutId := some "payout-1"
  eventId := some "evt-queued-1"
  now := now

theorem auditRecord_of_tenant (args : AuditArgs) (htenant : args.tenantId = "media-center")
    (htype : isEventType (Text.trim args.eventType) = true)
    (hcorrelation : args.correlationId = some "corr-1") :
    ∃ record, auditRecord Reference.stdlib args = .ok record := by
  rw [exists_auditRecord_eq_ok_iff, htenant, hcorrelation]
  exact ⟨by decide, htype, by decide⟩

theorem eventEnvelope_of_tenant (args : EventEnvelope) (hid : tokenPattern args.eventId = true)
    (htype : normalizeEventType args.type = .ok args.type)
    (hrest : (args.schemaVersion, args.tenantId, args.source, args.correlationId,
      args.causationId) = (hitlPayoutSchemaVersion, "media-center", hitlPayoutSource, "corr-1",
      none)) : eventEnvelope args = .ok args := by
  obtain ⟨eventId, type, schemaVersion, tenantId, source, correlationId, occurredAt, payload,
    causationId⟩ := args
  simp only [Prod.mk.injEq] at hrest
  obtain ⟨rfl, rfl, rfl, rfl, rfl⟩ := hrest
  have hversion : normalizeSchemaVersion hitlPayoutSchemaVersion =
    .ok hitlPayoutSchemaVersion := by decide
  have htenant : tenantIdPattern "media-center" = true := by decide
  have hdot : "media-center".toList.contains '.' = false := by decide
  have hsource : tokenPattern hitlPayoutSource = true := by decide
  have hcorrelation : tokenPattern "corr-1" = true := by decide
  exact eventEnvelope_of_tokens hid htype hversion htenant hdot hsource hcorrelation rfl

/-- The payout of `queueArgs` can be queued where it is not stored yet. -/
theorem queuePayout_queueArgs (env : Ambient) (now : TimeArg) {t v : Instant}
    (htime : resolveTime Reference.stdlib env.now now = .ok t)
    (hwindow : checkedInstant (t + hoursToMicros 4) = .ok v) {s : GatewayState}
    (hnew : s.payout? payoutKey = none) :
    ∃ s' payout, ((queuePayout config env (queueArgs now)).advance s).2 = s' ∧
      s'.payout? payoutKey = some payout ∧
      payout.queued.fields = (queueArgs now).itemFields Reference.stdlib env t v ∧
      payout.status = .queued ∧ payout.confirmationId = none ∧
      s'.decisions = s.decisions ∧ s'.confirmations = s.confirmations ∧
      s'.payouts = s.payouts.put payout := by
  have htype : isEventType (Text.trim payoutQueuedEvent) = true := by decide
  obtain ⟨record, hrecord⟩ := auditRecord_of_tenant
    ((queueArgs now).auditArgs Reference.stdlib env t v) rfl htype rfl
  have haudited : QueueAudited config env (queueArgs now) t v record :=
    ⟨rfl, htime, hwindow, hrecord⟩
  have hchecks : ∀ c ∈ QueuedFields.checks
      ((queueArgs now).itemFields Reference.stdlib env t v), c.2 = true := by
    have hall : ∀ c ∈ [("payout_id", tokenPattern (Text.trim "payout-1")),
        ("tenant_id", tenantIdPattern (Text.trim "media-center")),
        ("member_id", tokenPattern (Text.trim "member-1")),
        ("period", periodPattern (Text.trim "2025-12")), ("payout_share", isShare 1),
        ("distribution_id", tokenPattern (Text.trim "distribution-1")),
        ("distribution_hash", auditHashPattern (Text.trim
          "2cf24dba5fb0a30e26e83b2ac5b9e29e1b161e5c1fa7425e73043362938b9824")),
        ("created_by", tokenPattern (Text.trim "council-1"))], c.2 = true := by decide
    exact hall
  obtain ⟨payout, hitem⟩ : ∃ payout, payoutQueueItem
      ((queueArgs now).itemFields Reference.stdlib env t v) record.fields.auditHash =
        .ok payout := by
    unfold payoutQueueItem
    rw [Validated.make_of_valid "PayoutQueueItem" _ hchecks]
    exact ⟨_, rfl⟩
  obtain ⟨hfields, hstatus, hconfirmation, _⟩ := payoutQueueItem_eq_ok hitem
  have hkey : payout.key = payoutKey := by
    have htrim : (Text.trim "media-center", Text.trim "payout-1") = payoutKey := by decide
    unfold PayoutQueueItem.key PayoutQueueItem.tenantId PayoutQueueItem.payoutId
    rw [hfields]
    exact htrim
  have hfresh : s.payout? payout.key = none := by
    rw [hkey]
    exact hnew
  have hid : tokenPattern "evt-queued-1" = true := by decide
  have heventType : normalizeEventType payoutQueuedEvent = .ok payoutQueuedEvent := by decide
  have hevent := eventEnvelope_of_tenant ((queueArgs now).event Reference.stdlib env t payout)
    hid heventType rfl
  have hready : QueueReady config env (queueArgs now) s t v record payout _ :=
    ⟨hitem, hfresh, hevent⟩
  refine ⟨_, payout, queuePayout_state haudited hready, ?_, hfields, hstatus, hconfirmation,
    rfl, rfl, rfl⟩
  rw [← hkey]
  exact Dict.get?_set_self _ _ _

def confirmArgs (confirmedAt : ℤ) : ConfirmArgs where
  tenantId := "media-center"
  payoutId := "payout-1"
  context := ⟨"media-center", some "council-1", ["council"], some "corr-1"⟩
  twoFactorConfirmation :=
    { tenantId := "media-center"
      subject := some "council-1"
      operation := payoutConfirmOperation
      resourceId := "payout-1"
      method := "totp"
      confirmedAt := confirmedAt
      correlationId := some "corr-1" }
  confirmationId := some "confirmation-1"
  eventId := some "evt-confirmed-1"

/-- The stored payout can be confirmed while it is queued. -/
theorem confirmPayout_confirmArgs (env : Ambient) {confirmedAt : ℤ} {t : Instant}
    (htime : datetimeFromUnix confirmedAt = .ok t) {s : GatewayState} {p : PayoutQueueItem}
    (hstored : s.payout? payoutKey = some p) (hstatus : p.status = .queued)
    (hnone : p.confirmationId = none)
    (hconfirmations : s.confirmations = .empty) :
    ∃ s' p', ((confirmPayout config env (confirmArgs confirmedAt)).advance s).2 = s' ∧
      s'.payout? payoutKey = some p' ∧ p'.queued = p.queued ∧ p'.status = .queued ∧
      p'.confirmationId ≠ none ∧ s'.decisions = s.decisions := by
  have htype : isEventType (Text.trim payoutConfirmedEvent) = true := by decide
  obtain ⟨record, hrecord⟩ := auditRecord_of_tenant
    ((confirmArgs confirmedAt).auditArgs Reference.stdlib env
      ⟨"council-1", "council", t, "corr-1"⟩ p) rfl htype rfl
  have htenant : assertRequestedTenant "media-center"
    ⟨"media-center", some "council-1", ["council"], some "corr-1"⟩ = .ok () := by decide
  have haccess : requireAccess payoutConfirmPolicy
      ⟨"media-center", some "council-1", ["council"], some "corr-1"⟩ =
    .ok ⟨"media-center", some "council-1", ["council"], some "corr-1"⟩ := by decide
  have hrole : confirmedByRole ["council"] = .ok "council" := by decide
  have hconfirmable : requireConfirmable p = .ok () :=
    (requireConfirmable_eq_ok_iff p).mpr ⟨hstatus, hnone⟩
  have haudited : ConfirmAudited config env (confirmArgs confirmedAt) s p
      ⟨"council-1", "council", t, "corr-1"⟩ record :=
    ⟨htenant, haccess, rfl, hstored, hconfirmable, rfl, hrole, htime, rfl, hrecord⟩
  have hchecks : ∀ c ∈ [("confirmation_id", tokenPattern (Text.trim "confirmation-1")),
      ("tenant_id", tenantIdPattern (Text.trim "media-center")),
      ("payout_id", tokenPattern (Text.trim "payout-1")),
      ("actor_id", tokenPattern (Text.trim "council-1")),
      ("actor_role", tokenPattern (Text.trim "council")),
      ("two_factor_method", hasLength 1 32 (Text.trim "totp")),
      ("audit_hash", auditHashPattern record.fields.auditHash),
      ("correlation_id", tokenPattern (Text.trim "corr-1"))], c.2 = true := by
    rw [auditHashPattern_auditHash record]
    decide
  obtain ⟨c, hc⟩ : ∃ c, payoutConfirmation ((confirmArgs confirmedAt).confirmationFields
      Reference.stdlib env ⟨"council-1", "council", t, "corr-1"⟩ record.fields.auditHash) =
      .ok c := by
    unfold payoutConfirmation
    rw [Validated.exists_make_eq_ok_iff]
    exact hchecks
  have heventId : tokenPattern "evt-confirmed-1" = true := by decide
  have heventType : normalizeEventType payoutConfirmedEvent = .ok payoutConfirmedEvent := by
    decide
  have hevent := eventEnvelope_of_tenant ((confirmArgs confirmedAt).event env
    ⟨"council-1", "council", t, "corr-1"⟩ p c) heventId heventType rfl
  have hfresh : ∀ k, s.confirmations.confirmations.get? k = none := by
    intro k
    rw [hconfirmations]
    exact Dict.get?_empty k
  have hunindexed : ∀ k, s.confirmations.payoutIndex.get? k = none := by
    intro k
    rw [hconfirmations]
    exact Dict.get?_empty k
  have hready : ConfirmReady config env (confirmArgs confirmedAt) s p
      ⟨"council-1", "council", t, "corr-1"⟩ record c _ :=
    ⟨hc, hfresh _, hunindexed _, hevent⟩
  refine ⟨_, p.withConfirmation c.fields.confirmationId c.fields.actorId c.fields.actorHash
    c.fields.actorRole c.fields.confirmedAt c.fields.auditHash,
    confirmPayout_state haudited hready, ?_, rfl, hstatus, ?_, rfl⟩
  · rw [← GatewayState.key_of_payout? hstored]
    exact Dict.get?_set_self _ _ _
  · exact Option.some_ne_none _

def vetoArgs (now : TimeArg) : VetoArgs where
  tenantId := "media-center"
  payoutId := "payout-1"
  actorId := "council-2"
  reasonCode := "manual_review"
  reason := "needs a second look"
  correlationId := "corr-1"
  decisionId := some "veto-1"
  eventId := some "evt-vetoed-1"
  now := now

/-- The stored payout can be vetoed while it is queued and its window is open. -/
theorem vetoPayout_vetoArgs (env : Ambient) (now : TimeArg) {t : Instant}
    (htime : resolveTime Reference.stdlib env.now now = .ok t) {s : GatewayState}
    {p : PayoutQueueItem} (hstored : s.payout? payoutKey = some p)
    (hstatus : p.status = .queued) (hopen : t < p.vetoUntil)
    (hdecisions : s.decisions = .empty) :
    ∃ s' p', ((vetoPayout config env (vetoArgs now)).advance s).2 = s' ∧
      s'.payout? payoutKey = some p' ∧ p'.status = .canceled := by
  have htype : isEventType (Text.trim payoutVetoedEvent) = true := by decide
  obtain ⟨record, hrecord⟩ := auditRecord_of_tenant
    ((vetoArgs now).auditArgs Reference.stdlib env t p) rfl htype rfl
  have haudited : VetoAudited config env (vetoArgs now) s t p record :=
    ⟨htime, hstored, (requireVetoable_eq_ok_iff p t).mpr ⟨hstatus, hopen⟩, hrecord⟩
  have hchecks : ∀ c ∈ [("decision_id", tokenPattern (Text.trim "veto-1")),
      ("tenant_id", tenantIdPattern (Text.trim "media-center")),
      ("payout_id", tokenPattern (Text.trim "payout-1")),
      ("actor_id", tokenPattern (Text.trim "council-2")),
      ("reason_code", reasonCodePattern (Text.trim "manual_review")),
      ("reason", hasLength 1 512 (Text.trim "needs a second look")),
      ("audit_hash", auditHashPattern record.fields.auditHash),
      ("correlation_id", tokenPattern (Text.trim "corr-1"))], c.2 = true := by
    rw [auditHashPattern_auditHash record]
    decide
  obtain ⟨d, hd⟩ : ∃ d, vetoDecision ((vetoArgs now).decisionFields Reference.stdlib env t
      record.fields.auditHash) = .ok d := by
    unfold vetoDecision
    rw [Validated.exists_make_eq_ok_iff]
    exact hchecks
  have heventId : tokenPattern "evt-vetoed-1" = true := by decide
  have heventType : normalizeEventType payoutVetoedEvent = .ok payoutVetoedEvent := by decide
  have hevent := eventEnvelope_of_tenant ((vetoArgs now).event env t p d) heventId heventType
    rfl
  have hfresh : s.decisions.decisions.get? (VetoDecision.key d) = none := by
    rw [hdecisions]
    exact Dict.get?_empty _
  have hready : VetoReady config env (vetoArgs now) s t p record d _ := ⟨hd, hfresh, hevent⟩
  refine ⟨_, p.withStatus .canceled t (some d.fields.auditHash) (some d.fields.decisionId),
    vetoPayout_state haudited hready, ?_, rfl⟩
  rw [← GatewayState.key_of_payout? hstored]
  exact Dict.get?_set_self _ _ _

def executeArgs (executionId : String) (now : TimeArg) : ExecuteArgs where
  tenantId := "media-center"
  payoutId := "payout-1"
  correlationId := "corr-1"
  executionId := some executionId
  eventId := some "evt-executed-1"
  failureEventId := some "evt-failed-1"
  notificationId := some "notification-1"
  now := now

def payment : PayoutPaymentResult where
  fields := { executionRef := "ref-1", executedAt := clock 5 }
  valid := by decide

def chain : BlockchainAuditRecordResult where
  fields := { auditChainRef := "chain-1", recordedAt := clock 5 }
  valid := by decide

def notification : PayoutNotificationResult where
  fields := { notificationId := "notification-1", acceptedAt := clock 5 }
  valid := by decide

/-- INTERNAL: the ids of the payout of `queueArgs`. -/
theorem queueArgs_ids {p : PayoutQueueItem} {env : Ambient} {now : TimeArg} {t v : Instant}
    (h : p.queued.fields = (queueArgs now).itemFields Reference.stdlib env t v) :
    p.payoutId = "payout-1" ∧ p.tenantId = "media-center" ∧ p.key = payoutKey ∧
      p.vetoUntil = v := by
  have hpayout : Text.trim "payout-1" = "payout-1" := by decide
  have htenant : Text.trim "media-center" = "media-center" := by decide
  have hpayout' : p.payoutId = "payout-1" := by
    unfold PayoutQueueItem.payoutId
    rw [h]
    exact hpayout
  have htenant' : p.tenantId = "media-center" := by
    unfold PayoutQueueItem.tenantId
    rw [h]
    exact htenant
  refine ⟨hpayout', htenant', ?_, ?_⟩
  · unfold PayoutQueueItem.key
    rw [hpayout', htenant']
    rfl
  · unfold PayoutQueueItem.vetoUntil
    rw [h]
    rfl

/-- INTERNAL: the payment command for the payout of `queueArgs`. -/
theorem payoutPaymentCommand_executeArgs (env : Ambient) (now now₀ : TimeArg)
    {env₀ : Ambient} {t t₀ v : Instant} {executionId : String} {p : PayoutQueueItem}
    (hfields : p.queued.fields = (queueArgs now₀).itemFields Reference.stdlib env₀ t₀ v)
    (hid : tokenPattern executionId = true) :
    ∃ command, payoutPaymentCommand ((executeArgs executionId now).paymentFields env p t) =
        .ok command ∧
      command.fields.tenantId = "media-center" ∧ command.fields.payoutId = "payout-1" ∧
      command.fields.executionId = executionId := by
  have hresolved : (executeArgs executionId now).resolvedExecutionId env = executionId := by
    have hne : executionId ≠ "" := by
      rintro rfl
      revert hid
      decide
    show (if executionId = "" then _ else executionId) = executionId
    rw [if_neg hne]
  have hhash := refHashPattern_subjectRefHash Reference.stdlib "media-center" "member-1"
  have htrim : Text.trim "media-center" = "media-center" ∧
    Text.trim "payout-1" = "payout-1" := by decide
  have hchecks : ∀ c ∈ [("tenant_id", tenantIdPattern (Text.trim "media-center")),
      ("payout_id", tokenPattern (Text.trim "payout-1")),
      ("execution_id", tokenPattern (Text.trim executionId)),
      ("member_id", tokenPattern (Text.trim (Text.trim "member-1"))),
      ("member_hash", refHashPattern (Text.trim
        (subjectRefHash Reference.stdlib "media-center" "member-1"))),
      ("period", hasLength 7 7 (Text.trim (Text.trim "2025-12"))),
      ("payout_share", isShare 1),
      ("distribution_id", tokenPattern (Text.trim (Text.trim "distribution-1"))),
      ("distribution_hash", auditHashPattern (Text.trim (Text.trim
        "2cf24dba5fb0a30e26e83b2ac5b9e29e1b161e5c1fa7425e73043362938b9824"))),
      ("correlation_id", tokenPattern (Text.trim "corr-1"))], c.2 = true := by
    rw [trim_of_tokenPattern hid, hid, trim_of_refHashPattern hhash, hhash]
    decide
  obtain ⟨command, hcommand⟩ : ∃ command,
      payoutPaymentCommand ((executeArgs executionId now).paymentFields env p t) =
        .ok command := by
    unfold payoutPaymentCommand
    rw [Validated.exists_make_eq_ok_iff]
    unfold ExecuteArgs.paymentFields PayoutQueueItem.memberId PayoutQueueItem.memberHash
    rw [hfields, hresolved]
    exact hchecks
  have hc := (Validated.make_eq_ok_iff _ _ _).mp hcommand
  refine ⟨command, hcommand, ?_, ?_, ?_⟩
  · rw [hc]
    exact htrim.1
  · rw [hc]
    exact htrim.2
  · rw [hc]
    show Text.trim ((executeArgs executionId now).resolvedExecutionId env) = executionId
    rw [hresolved, trim_of_tokenPattern hid]

/-- What is left of an execution after its first await: whatever the others do meanwhile,
it ends in an executed payout if the connectors accept. -/
def PaysOut {α : Type} (k₁ : Except HitlError PayoutPaymentResult → Gateway α) : Prop :=
  ∀ s₁, ∃ chainCommand k₂ record, (k₁ (.ok payment)).advance s₁ =
      (.suspended (.recordAuditHash chainCommand) k₂,
        { s₁ with auditLog := s₁.auditLog ++ [record] }) ∧
    ∀ s₂, ∃ notificationCommand k₃, (k₂ (.ok chain)).advance s₂ =
        (.suspended (.notifyPayoutExecuted notificationCommand) k₃, s₂) ∧
      ∀ s₃, (s₃.payout? payoutKey).isSome = true →
        ∃ p', ((k₃ (.ok notification)).advance s₃).2.payout? payoutKey = some p' ∧
          p'.status = .executed

theorem PaysOut.map {α β : Type} {k₁ : Except HitlError PayoutPaymentResult → Gateway α}
    (h : PaysOut k₁) (f : α → β) : PaysOut fun a => f <$> k₁ a := by
  intro s₁
  obtain ⟨chainCommand, k₂, record, hk₂, hrest⟩ := h s₁
  refine ⟨chainCommand, fun a => f <$> k₂ a, record, advance_map_of_suspended f hk₂, ?_⟩
  intro s₂
  obtain ⟨notificationCommand, k₃, hk₃, hlast⟩ := hrest s₂
  refine ⟨notificationCommand, fun a => f <$> k₃ a, advance_map_of_suspended f hk₃, ?_⟩
  intro s₃ hthere
  rw [snd_advance_map]
  exact hlast s₃ hthere

/-- The stored payout can be executed when its window is over; what happens at the awaits
does not matter. -/
theorem executePayout_executeArgs (env : Ambient) (now now₀ : TimeArg) {env₀ : Ambient}
    {t t₀ v : Instant} {executionId : String}
    (htime : resolveTime Reference.stdlib env.now now = .ok t) {s : GatewayState}
    {p : PayoutQueueItem} (hstored : s.payout? payoutKey = some p)
    (hfields : p.queued.fields = (queueArgs now₀).itemFields Reference.stdlib env₀ t₀ v)
    (hstatus : p.status = .queued) (hconfirmation : p.confirmationId ≠ none)
    (hwindow : v ≤ t) (hid : tokenPattern executionId = true) :
    ∃ command k₁, (executePayout config env (executeArgs executionId now)).advance s =
        (.suspended (.executePayout command) k₁, s) ∧
      command.fields.tenantId = "media-center" ∧ command.fields.payoutId = "payout-1" ∧
      command.fields.executionId = executionId ∧
      PaysOut k₁ := by
  obtain ⟨hpayoutId, htenantId, hkey, huntil⟩ := queueArgs_ids hfields
  obtain ⟨command, hcommand, hcTenant, hcPayout, hcId⟩ :=
    payoutPaymentCommand_executeArgs (t := t) env now now₀ hfields hid
  have hexecutable : requireExecutable p t = .ok () := by
    have hnotBefore : ¬ t < p.vetoUntil := by
      rw [huntil]
      exact not_lt.mpr hwindow
    unfold requireExecutable
    simp [hstatus, hnotBefore, hconfirmation, pure, Except.pure]
  have htime' : resolveTime config.py env.now (executeArgs executionId now).now = .ok t :=
    htime
  obtain ⟨k₁, hk₁, hpaid⟩ := executePayout_runs htime' hstored hexecutable hcommand
  refine ⟨command, k₁, hk₁, hcTenant, hcPayout, hcId, ?_⟩
  intro s₁
  have htype : isEventType (Text.trim payoutExecutedEvent) = true := by decide
  obtain ⟨record, hrecord⟩ := auditRecord_of_tenant
    ((executeArgs executionId now).auditArgs Reference.stdlib env p payment) rfl htype rfl
  obtain ⟨chainCommand, hchain⟩ : ∃ command, blockchainAuditRecordCommand
      ((executeArgs executionId now).chainFields Reference.stdlib env p payment
        record.fields.auditHash) = .ok command := by
    have hchecks : ∀ c ∈ [("tenant_id", tenantIdPattern (Text.trim "media-center")),
        ("event_id", tokenPattern (Text.trim "evt-executed-1")),
        ("event_type", isEventType (Text.trim payoutExecutedEvent)),
        ("audit_hash", auditHashPattern record.fields.auditHash),
        ("correlation_id", tokenPattern (Text.trim "corr-1"))], c.2 = true := by
      rw [auditHashPattern_auditHash record]
      decide
    unfold blockchainAuditRecordCommand
    rw [Validated.exists_make_eq_ok_iff]
    exact hchecks
  obtain ⟨k₂, hk₂, hchained⟩ := hpaid payment s₁ record chainCommand hrecord hchain
  refine ⟨chainCommand, k₂, record, hk₂, ?_⟩
  intro s₂
  obtain ⟨notificationCommand, hnotification⟩ : ∃ command, payoutNotificationCommand
      ((executeArgs executionId now).notificationFields Reference.stdlib env p payment
        record.fields.auditHash chain) = .ok command := by
    have hhash := refHashPattern_subjectRefHash Reference.stdlib "media-center" "member-1"
    have hchecks : ∀ c ∈ [("notification_id", tokenPattern (Text.trim "notification-1")),
        ("tenant_id", tenantIdPattern (Text.trim "media-center")),
        ("recipient_id", tokenPattern (Text.trim (Text.trim "member-1"))),
        ("recipient_hash", refHashPattern (Text.trim
          (subjectRefHash Reference.stdlib "media-center" "member-1"))),
        ("payout_id", tokenPattern (Text.trim (Text.trim "payout-1"))),
        ("event_type", isEventType (Text.trim payoutExecutedEvent)),
        ("template_key", templateKeyPattern "hitl_payout_executed"),
        ("correlation_id", tokenPattern (Text.trim "corr-1"))], c.2 = true := by
      rw [trim_of_refHashPattern hhash, hhash]
      decide
    unfold payoutNotificationCommand
    rw [Validated.exists_make_eq_ok_iff]
    unfold ExecuteArgs.notificationFields PayoutQueueItem.memberId PayoutQueueItem.memberHash
      PayoutQueueItem.payoutId
    rw [hfields]
    exact hchecks
  obtain ⟨k₃, hk₃, hnotified⟩ := hchained chain s₂ notificationCommand hnotification
  refine ⟨notificationCommand, k₃, hk₃, ?_⟩
  intro s₃ hthere
  rw [← hkey] at hthere
  refine ⟨(executeArgs executionId now).executedItem Reference.stdlib env p payment
    record.fields.auditHash chain notification, ?_, rfl⟩
  rw [hnotified notification s₃ hthere, ← hkey]
  exact Dict.get?_set_self _ _ _

/-- Connectors and publishers that accept everything. -/
def accept : ∀ q : GatewayRequest, Except HitlError (GatewayResult q)
  | .executePayout _ => .ok payment
  | .syncPayoutStatus _ => .error (.external "NotImplementedError")
  | .recordAuditHash _ => .ok chain
  | .notifyPayoutExecuted _ => .ok notification
  | .publish _ => .ok ()

/-- The two calls after which the payout is queued and confirmed. -/
def confirmedActions (env : Ambient) (now : TimeArg) (confirmedAt : ℤ) :
    List (Action GatewayCall gatewayInterface) :=
  [.call ⟨env, .queue (queueArgs now)⟩, .call ⟨env, .confirm (confirmArgs confirmedAt)⟩]

theorem run_confirmedActions (env : Ambient) (now : TimeArg) (confirmedAt : ℤ)
    {t t' v : Instant} (htime : resolveTime Reference.stdlib env.now now = .ok t)
    (hwindow : checkedInstant (t + hoursToMicros 4) = .ok v)
    (hconfirmedAt : datetimeFromUnix confirmedAt = .ok t') :
    ∃ (s : GatewayState) (p : PayoutQueueItem)
      (t₀ t₁ : Task GatewayCall gatewayInterface GatewayState HitlError GatewayReturn),
      Config.run (GatewayCall.program config) (.initial .initial)
        (confirmedActions env now confirmedAt) = ⟨s, [t₀, t₁], []⟩ ∧
      s.payout? payoutKey = some p ∧
      p.queued.fields = (queueArgs now).itemFields Reference.stdlib env t v ∧
      p.status = .queued ∧ p.confirmationId ≠ none ∧ s.decisions = .empty := by
  obtain ⟨s₀, p₀, hstate₀, hstored₀, hfields, hstatus₀, hnone, hdecisions₀, hconfirmations₀,
      _⟩ :=
    queuePayout_queueArgs (s := .initial) env now htime hwindow rfl
  obtain ⟨s₁, p₁, hstate₁, hstored₁, hqueued, hstatus₁, hconfirmed, hdecisions₁⟩ :=
    confirmPayout_confirmArgs env hconfirmedAt hstored₀ hstatus₀ hnone hconfirmations₀
  have hstep₀ : ((GatewayCall.program config ⟨env, .queue (queueArgs now)⟩).advance
      .initial).2 = s₀ :=
    (snd_advance_map _ _ _).trans hstate₀
  have hstep₁ : ((GatewayCall.program config
      ⟨env, .confirm (confirmArgs confirmedAt)⟩).advance s₀).2 = s₁ :=
    (snd_advance_map _ _ _).trans hstate₁
  refine ⟨s₁, p₁,
    ⟨⟨env, .queue (queueArgs now)⟩, ((GatewayCall.program config
      ⟨env, .queue (queueArgs now)⟩).advance .initial).1⟩,
    ⟨⟨env, .confirm (confirmArgs confirmedAt)⟩, ((GatewayCall.program config
      ⟨env, .confirm (confirmArgs confirmedAt)⟩).advance s₀).1⟩,
    ?_, hstored₁, ?_, hstatus₁, hconfirmed, ?_⟩
  · rw [confirmedActions, Config.run_cons, Config.run_cons, Config.run_nil, Config.step_call,
      Config.step_call]
    simp only [Config.initial, hstep₀, hstep₁, List.nil_append, List.cons_append]
  · rw [hqueued, hfields]
  · rw [hdecisions₁, hdecisions₀]
    rfl

/-- The call of `executeArgs`, up to its first await. -/
theorem program_executeArgs (env : Ambient) (now now₀ : TimeArg) {env₀ : Ambient}
    {t t₀ v : Instant} {executionId : String}
    (htime : resolveTime Reference.stdlib env.now now = .ok t) {s : GatewayState}
    {p : PayoutQueueItem} (hstored : s.payout? payoutKey = some p)
    (hfields : p.queued.fields = (queueArgs now₀).itemFields Reference.stdlib env₀ t₀ v)
    (hstatus : p.status = .queued) (hconfirmation : p.confirmationId ≠ none)
    (hwindow : v ≤ t) (hid : tokenPattern executionId = true) :
    ∃ command k₁, (GatewayCall.program config
        ⟨env, .execute (executeArgs executionId now)⟩).advance s =
          (.suspended (.executePayout command) k₁, s) ∧
      command.fields.tenantId = "media-center" ∧ command.fields.payoutId = "payout-1" ∧
      command.fields.executionId = executionId ∧ PaysOut k₁ := by
  obtain ⟨command, k₁, hk₁, htenant, hpayout, hexecution, hpays⟩ := executePayout_executeArgs
    env now now₀ htime hstored hfields hstatus hconfirmation hwindow hid
  exact ⟨command, _, advance_map_of_suspended _ hk₁, htenant, hpayout, hexecution,
    hpays.map _⟩

/-- Three accepted awaits later, the payout is executed. -/
theorem run_accept {c : GatewayRun} {i : ℕ} {call : GatewayCall} {command : PayoutPaymentCommand}
    {k₁ : Except HitlError PayoutPaymentResult → Gateway GatewayReturn}
    (htask : c.tasks[i]? = some ⟨call, .suspended (.executePayout command) k₁⟩)
    (hpays : PaysOut k₁) (hthere : (c.shared.payout? payoutKey).isSome = true) :
    ∃ p, (Config.run (GatewayCall.program config) c
        [.resume i accept, .resume i accept, .resume i accept]).shared.payout? payoutKey =
          some p ∧
      p.status = .executed := by
  obtain ⟨chainCommand, k₂, record, hk₂, hrest⟩ := hpays c.shared
  obtain ⟨hshared₂, _, htask₂, _⟩ := Config.step_resume_of_advance
    (GatewayCall.program config) accept htask hk₂
  rw [Config.run_cons]
  generalize Config.step (GatewayCall.program config) c (.resume i accept) = c₂ at *
  obtain ⟨notificationCommand, k₃, hk₃, hlast⟩ := hrest c₂.shared
  obtain ⟨hshared₃, _, htask₃, _⟩ := Config.step_resume_of_advance
    (GatewayCall.program config) accept htask₂ hk₃
  rw [Config.run_cons]
  generalize Config.step (GatewayCall.program config) c₂ (.resume i accept) = c₃ at *
  have hthere₃ : (c₃.shared.payout? payoutKey).isSome = true := by
    rw [hshared₃, hshared₂]
    exact hthere
  obtain ⟨p, hp, hstatus⟩ := hlast c₃.shared hthere₃
  obtain ⟨hshared₄, _⟩ := Config.step_resume_of_advance
    (GatewayCall.program config) accept htask₃ (Prod.mk.eta).symm
  refine ⟨p, ?_, hstatus⟩
  rw [Config.run_cons, Config.run_nil, hshared₄]
  exact hp

end Sample

end MediaCenter.HitlPayout
