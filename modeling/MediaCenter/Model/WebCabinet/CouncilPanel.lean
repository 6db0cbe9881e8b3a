import MediaCenter.Model.HitlPayout.Managers
import MediaCenter.Model.PolicyManager.Manager

/-!
# The Council panel (`web_cabinet/api.py`)

The overview of the payouts of a tenant, and the two requests it offers for each of them.  The
overview decides for itself which of them are available; the requests go to the managers.
-/

set_option autoImplicit false

namespace MediaCenter.WebCabinet

open MediaCenter.Library MediaCenter.Shared MediaCenter.HitlPayout
open MediaCenter.PolicyManager (PolicyRecord InMemoryPolicyRepository)

/-- A `now` parameter of the panel (`datetime | None`). -/
def timeArg : Option PyDatetime → TimeArg
  | none => .omitted
  | some d => .datetime d

/-- `COUNCIL_PANEL_POLICY`. -/
def councilPanelPolicy : AccessPolicy :=
  AccessPolicy.council "council_panel.manage" "council_panel"

/-! ## What the panel reads -/

structure CouncilPanelPayoutAnnotation where
  tenantId : String
  payoutId : String
  riskLevel : String := "medium"
  riskReason : String := "Плановая операция HITL"
  policyKey : String := "hitl.veto_window_hours"
  calculationSource : String := "payout_distribution"
  calculationExplanation : String := "Доля выплаты получена из immutable snapshot"

structure CouncilPanelAuditRecord where
  tenantId : String
  payoutId : String
  eventType : String
  eventId : String
  auditHash : String
  occurredAt : Instant

structure InMemoryCouncilPanelRepository where
  annotations : Dict (String × String) CouncilPanelPayoutAnnotation
  auditRecords : List CouncilPanelAuditRecord

namespace InMemoryCouncilPanelRepository

def empty : InMemoryCouncilPanelRepository := ⟨.empty, []⟩

/-- `get_annotation`. -/
def getAnnotation (repository : InMemoryCouncilPanelRepository) (context : TenantContext)
    (payoutId : String) : Except SharedException (Option CouncilPanelPayoutAnnotation) := do
  let annotations ← listForTenant CouncilPanelPayoutAnnotation.tenantId
    (repository.annotations.entries.map Prod.snd) context
  return annotations.find? fun note => note.payoutId = payoutId

/-- The key `(occurred_at, event_id)`, in order. -/
def recordBefore (a b : CouncilPanelAuditRecord) : Prop :=
  a.occurredAt < b.occurredAt ∨ (a.occurredAt = b.occurredAt ∧ a.eventId ≤ b.eventId)

instance : DecidableRel recordBefore := fun _ _ => inferInstanceAs (Decidable (_ ∨ _))

/-- `list_audit_records`, with its default limit. -/
def listAuditRecords (repository : InMemoryCouncilPanelRepository) (context : TenantContext)
    (payoutId : String) : Except SharedException (List CouncilPanelAuditRecord) := do
  let records ← listForTenant CouncilPanelAuditRecord.tenantId repository.auditRecords context
  let filtered := records.filter fun record => record.payoutId = payoutId
  return (filtered.insertionSort recordBefore).take 20

end InMemoryCouncilPanelRepository

/-- What the panel reads of `WebCabinetAPIState`.  The managers share one payout repository. -/
structure WebCabinetAPIState where
  payouts : PayoutRepository
  policies : InMemoryPolicyRepository
  councilPanelRepository : InMemoryCouncilPanelRepository
  totpSecrets : Dict (String × String) String

/-- `list_payouts` without a status. -/
def listPayouts (repository : PayoutRepository) (tenantId : String) : List PayoutQueueItem :=
  ((repository.payouts.entries.filter fun e => e.1.1 = tenantId).map Prod.snd).insertionSort
    fun p q => p.queued.fields.createdAt ≤ q.queued.fields.createdAt

/-! ## The overview -/

structure CalculationFields where
  source : String
  explanation : String
  distributionId : String
  distributionHash : String
  payoutShare : ℚ

def CalculationFields.checks (f : CalculationFields) : List (String × Bool) :=
  [("source", hasLength 1 128 f.source),
    ("explanation", hasLength 1 512 f.explanation),
    ("distribution_id", hasLength 1 128 f.distributionId),
    ("distribution_hash", hasLength 64 64 f.distributionHash),
    ("payout_share", isShare f.payoutShare)]

abbrev CouncilPanelCalculation : Type := Validated CalculationFields.checks

def councilPanelCalculation (f : CalculationFields) :
    Except SharedException CouncilPanelCalculation :=
  Validated.make "CouncilPanelCalculation" CalculationFields.checks
    { f with
      source := Text.trim f.source
      explanation := Text.trim f.explanation
      distributionId := Text.trim f.distributionId
      distributionHash := Text.trim f.distributionHash }

structure PanelAuditFields where
  eventType : String
  eventId : String
  auditHash : String
  occurredAt : Instant

def PanelAuditFields.checks (f : PanelAuditFields) : List (String × Bool) :=
  [("event_type", hasLength 1 128 f.eventType),
    ("event_id", hasLength 1 128 f.eventId),
    ("audit_hash", hasLength 64 64 f.auditHash)]

abbrev CouncilPanelAuditItem : Type := Validated PanelAuditFields.checks

/-- The entry of the timeline for a record. -/
def councilPanelAuditItem (record : CouncilPanelAuditRecord) :
    Except SharedException CouncilPanelAuditItem :=
  Validated.make "CouncilPanelAuditItem" PanelAuditFields.checks
    { eventType := Text.trim record.eventType
      eventId := Text.trim record.eventId
      auditHash := Text.trim record.auditHash
      occurredAt := record.occurredAt }

structure PanelItemFields where
  payoutId : String
  memberId : String
  period : String
  payoutShare : ℚ
  status : PayoutStatus
  vetoUntil : Instant
  vetoSecondsLeft : ℤ
  requires2fa : Bool
  confirmationId : Option String
  riskLevel : String
  riskReason : String
  policyKey : String
  policyVersion : ℕ
  vetoAvailable : Bool
  confirmAvailable : Bool
  calculation : CouncilPanelCalculation
  auditTimeline : List CouncilPanelAuditItem

def PanelItemFields.checks (f : PanelItemFields) : List (String × Bool) :=
  [("payout_id", hasLength 1 128 f.payoutId),
    ("member_id", tokenPattern f.memberId),
    ("period", periodPattern f.period),
    ("payout_share", isShare f.payoutShare),
    ("veto_seconds_left", decide (0 ≤ f.vetoSecondsLeft)),
    ("risk_level", hasLength 1 32 f.riskLevel),
    ("risk_reason", hasLength 1 512 f.riskReason),
    ("policy_key", hasLength 1 128 f.policyKey),
    ("policy_version", decide (1 ≤ f.policyVersion))]

abbrev CouncilPanelPayoutItem : Type := Validated PanelItemFields.checks

/-- `CouncilPanelPayoutItem(...)`. -/
def panelPayoutItem (f : PanelItemFields) : Except SharedException CouncilPanelPayoutItem :=
  Validated.make "CouncilPanelPayoutItem" PanelItemFields.checks
    { f with
      payoutId := Text.trim f.payoutId
      memberId := Text.trim f.memberId
      period := Text.trim f.period
      confirmationId := f.confirmationId.map Text.trim
      riskLevel := Text.trim f.riskLevel
      riskReason := Text.trim f.riskReason
      policyKey := Text.trim f.policyKey }

/-- `_default_risk_level`. -/
def defaultRiskLevel (payout : PayoutQueueItem) : String :=
  if payout.queued.fields.payoutShare ≥ 35 / 100 then "high"
  else if payout.queued.fields.payoutShare ≥ 15 / 100 then "medium"
  else "low"

/-- `_risk_order`. -/
def riskOrder (riskLevel : String) : ℕ :=
  if riskLevel = "critical" then 0
  else if riskLevel = "high" then 1
  else if riskLevel = "low" then 3
  else 2

/-- `_tenant_has_totp_secret`. -/
def tenantHasTotpSecret (totpSecrets : Dict (String × String) String) (tenantId : String) :
    Bool :=
  totpSecrets.entries.any fun e => e.1.1 = tenantId

namespace WebCabinetAPIState

variable (state : WebCabinetAPIState) (context : TenantContext)

/-- `_annotation_for_payout`. -/
def annotationForPayout (payout : PayoutQueueItem) :
    Except SharedException CouncilPanelPayoutAnnotation := do
  match ← state.councilPanelRepository.getAnnotation context payout.payoutId with
  | some note => return note
  | none => return { tenantId := context.tenantId
                     payoutId := payout.payoutId
                     riskLevel := defaultRiskLevel payout
                     riskReason := "Автоматическая оценка по доле выплаты" }

/-- The keys `_panel_policies` looks up: each once, in the order of their first annotation. -/
def panelPolicyKeys (annotations : List CouncilPanelPayoutAnnotation) : List String :=
  annotations.foldl (fun policyKeys note =>
    if note.policyKey ∈ policyKeys then policyKeys
    else policyKeys ++ [note.policyKey]) ["hitl.veto_window_hours"]

/-- `_panel_policies`. -/
def panelPolicies (annotations : List CouncilPanelPayoutAnnotation) :
    Except SharedException (List PolicyRecord) := do
  let policies ← state.policies.listPolicies context.tenantId
  let available := Dict.ofList (policies.map fun policy => (policy.fields.key, policy))
  return (panelPolicyKeys annotations).filterMap available.get?

/-- `veto_seconds_left`: whole seconds, and none once the window is over. -/
def vetoSecondsLeft (payout : PayoutQueueItem) (now : Instant) : ℤ :=
  max 0 ((payout.vetoUntil - now).tdiv 1000000)

/-- `veto_available`. -/
def vetoAvailable (payout : PayoutQueueItem) (now : Instant) : Bool :=
  payout.status = .queued && decide (now < payout.vetoUntil)

/-- `confirm_available`. -/
def confirmAvailable (payout : PayoutQueueItem) : Bool :=
  payout.status = .queued && payout.queued.fields.requires2fa &&
    payout.confirmationId.isNone && tenantHasTotpSecret state.totpSecrets context.tenantId

/-- `_council_panel_payout_item`. -/
def councilPanelPayoutItem (payout : PayoutQueueItem) (note : CouncilPanelPayoutAnnotation)
    (policy : Option PolicyRecord) (now : Instant) :
    Except SharedException CouncilPanelPayoutItem := do
  let calculation ← councilPanelCalculation
    { source := note.calculationSource
      explanation := note.calculationExplanation
      distributionId := payout.queued.fields.distributionId
      distributionHash := payout.queued.fields.distributionHash
      payoutShare := payout.queued.fields.payoutShare }
  let records ← state.councilPanelRepository.listAuditRecords context payout.payoutId
  let auditTimeline ← records.mapM councilPanelAuditItem
  panelPayoutItem
    { payoutId := payout.payoutId
      memberId := payout.memberId
      period := payout.queued.fields.period
      payoutShare := payout.queued.fields.payoutShare
      status := payout.status
      vetoUntil := payout.vetoUntil
      vetoSecondsLeft := vetoSecondsLeft payout now
      requires2fa := payout.queued.fields.requires2fa
      confirmationId := payout.confirmationId
      riskLevel := note.riskLevel
      riskReason := note.riskReason
      policyKey := note.policyKey
      policyVersion := (policy.map fun p => p.fields.version).getD 1
      vetoAvailable := vetoAvailable payout now
      confirmAvailable := state.confirmAvailable context payout
      calculation := calculation
      auditTimeline := auditTimeline }

end WebCabinetAPIState

structure CouncilPanelSummary where
  queued : ℕ
  readyToExecute : ℕ
  canceled : ℕ
  executed : ℕ
  requires2fa : ℕ
  vetoWindowExpiring : ℕ
  deriving DecidableEq

/-- `_VETO_EXPIRING_WINDOW_SECONDS`. -/
def vetoExpiringWindowSeconds : ℤ := 60 * 60

/-- `_council_panel_summary`. -/
def councilPanelSummary (payouts : List CouncilPanelPayoutItem) : CouncilPanelSummary where
  queued := payouts.countP fun item => item.fields.status = .queued
  readyToExecute := payouts.countP fun item => item.fields.status = .readyToExecute
  canceled := payouts.countP fun item => item.fields.status = .canceled
  executed := payouts.countP fun item => item.fields.status = .executed
  requires2fa := payouts.countP fun item => item.fields.requires2fa
  vetoWindowExpiring := payouts.countP fun item => item.fields.status = .queued &&
    decide (0 < item.fields.vetoSecondsLeft) &&
    decide (item.fields.vetoSecondsLeft ≤ vetoExpiringWindowSeconds)

/-- The key `(risk order, veto_until, payout_id)`, in order. -/
def itemBefore (a b : CouncilPanelPayoutItem) : Prop :=
  riskOrder a.fields.riskLevel < riskOrder b.fields.riskLevel ∨
    (riskOrder a.fields.riskLevel = riskOrder b.fields.riskLevel ∧
      (a.fields.vetoUntil < b.fields.vetoUntil ∨
        (a.fields.vetoUntil = b.fields.vetoUntil ∧ a.fields.payoutId ≤ b.fields.payoutId)))

instance : DecidableRel itemBefore := fun _ _ => inferInstanceAs (Decidable (_ ∨ _))

structure OverviewFields where
  tenantId : String
  role : String
  summary : CouncilPanelSummary
  twoFactorActive : Bool
  payouts : List CouncilPanelPayoutItem
  policies : List PolicyRecord
  generatedAt : Instant

def OverviewFields.checks (f : OverviewFields) : List (String × Bool) :=
  [("tenant_id", tenantIdPattern f.tenantId)]

abbrev CouncilPanelOverviewResponse : Type := Validated OverviewFields.checks

namespace WebCabinetAPIState

variable (state : WebCabinetAPIState)

/-- `_build_council_panel_overview`.  The ids of the payouts of a tenant are distinct, so each
payout finds its own entry in the `dict` of annotations. -/
def buildCouncilPanelOverview (py : Stdlib) (env : Ambient) (context : TenantContext)
    (now : Option PyDatetime) : Except SharedException CouncilPanelOverviewResponse := do
  let generatedAt ← resolveTime py env.now (timeArg now)
  let annotated ← (listPayouts state.payouts context.tenantId).mapM fun payout => do
    let note ← state.annotationForPayout context payout
    return (payout, note)
  let policies ← state.panelPolicies context (annotated.map Prod.snd)
  let policiesByKey := Dict.ofList (policies.map fun policy => (policy.fields.key, policy))
  let items ← annotated.mapM fun e =>
    state.councilPanelPayoutItem context e.1 e.2 (policiesByKey.get? e.2.policyKey) generatedAt
  let payoutItems := items.insertionSort itemBefore
  Validated.make "CouncilPanelOverviewResponse" OverviewFields.checks
    { tenantId := Text.trim context.tenantId
      role := councilRole
      summary := councilPanelSummary payoutItems
      twoFactorActive := tenantHasTotpSecret state.totpSecrets context.tenantId
      payouts := payoutItems
      policies := policies
      generatedAt := generatedAt }

/-- `GET /council/panel/overview`. -/
def getCouncilPanelOverview (py : Stdlib) (env : Ambient) (context : TenantContext)
    (now : Option PyDatetime) : Except SharedException CouncilPanelOverviewResponse := do
  let _ ← requireAccess councilPanelPolicy context
  state.buildCouncilPanelOverview py env context now

end WebCabinetAPIState

/-! ## The requests of the panel -/

/-- `^\d{6,8}$` (`_PAYOUT_TOTP_CODE_PATTERN`), where `\d` is any decimal digit. -/
def totpCodePattern (s : String) : Bool := hasLength 6 8 s && s.toList.all Text.isDecimal

structure VetoRequestFields where
  decisionId : Option String := none
  eventId : Option String := none
  actorId : Option String := none
  reasonCode : String
  reason : String
  now : Option PyDatetime := none
  metadata : JSONObject := []

def VetoRequestFields.checks (f : VetoRequestFields) : List (String × Bool) :=
  [("decision_id", optionalField tokenPattern f.decisionId),
    ("event_id", optionalField tokenPattern f.eventId),
    ("actor_id", optionalField tokenPattern f.actorId),
    ("reason_code", reasonCodePattern f.reasonCode),
    ("reason", hasLength 1 512 f.reason)]

abbrev VetoPayoutRequest : Type := Validated VetoRequestFields.checks

/-- The body of a request with these fields, if it is accepted. -/
def vetoPayoutRequest (f : VetoRequestFields) : Except SharedException VetoPayoutRequest :=
  Validated.make "VetoPayoutRequest" VetoRequestFields.checks
    { f with
      decisionId := f.decisionId.map Text.trim
      eventId := f.eventId.map Text.trim
      actorId := f.actorId.map Text.trim
      reasonCode := Text.trim f.reasonCode
      reason := Text.trim f.reason }

structure ConfirmRequestFields where
  confirmationId : Option String := none
  eventId : Option String := none
  totpCode : String
  confirmedAt : Option ℤ := none
  metadata : JSONObject := []

def ConfirmRequestFields.checks (f : ConfirmRequestFields) : List (String × Bool) :=
  [("confirmation_id", optionalField tokenPattern f.confirmationId),
    ("event_id", optionalField tokenPattern f.eventId),
    ("totp_code", totpCodePattern f.totpCode),
    ("confirmed_at", decide (∀ t ∈ f.confirmedAt, 0 ≤ t))]

abbrev ConfirmPayoutRequest : Type := Validated ConfirmRequestFields.checks

def confirmPayoutRequest (f : ConfirmRequestFields) :
    Except SharedException ConfirmPayoutRequest :=
  Validated.make "ConfirmPayoutRequest" ConfirmRequestFields.checks
    { f with
      confirmationId := f.confirmationId.map Text.trim
      eventId := f.eventId.map Text.trim
      totpCode := Text.trim f.totpCode }

/-- `_subject`. -/
def subjectOf (context : TenantContext) : Except SharedException String :=
  let missing : SharedException := .sharedError 400 "actor_required"
    "Панель Совета требует subject в tenant context" context.correlationId
  match context.subject with
  | none => .error missing
  | some subject => if Text.strip subject = "" then .error missing else .ok subject

/-- `_correlation_id`. -/
def correlationIdOf (context : TenantContext) : String :=
  orDefault context.correlationId ("corr-" ++ context.tenantId ++ "-council-panel")

/-- `_totp_secret`. -/
def totpSecretOf (totpSecrets : Dict (String × String) String) (context : TenantContext) :
    Except SharedException String := do
  let subject ← subjectOf context
  match totpSecrets.get? (context.tenantId, subject) with
  | some secret => return secret
  | none => throw (.sharedError 400 "two_factor_secret_not_configured"
      "2FA secret не настроен для участника Совета в tenant" context.correlationId)

/-- What `{payout_id}` in the path of a route matches: one segment. -/
def isPathSegment (s : String) : Bool := s ≠ "" && !s.toList.contains '/'

/-- `payload.actor_id or _subject(actor_context)`. -/
def vetoActor (context : TenantContext) (payload : VetoPayoutRequest) :
    Except SharedException String :=
  match payload.fields.actorId with
  | some actorId => if actorId = "" then subjectOf context else .ok actorId
  | none => subjectOf context

/-- `council_panel_veto_payout`. -/
def councilPanelVetoPayout (cfg : HitlPayout.GatewayConfig) (env : Ambient) (context : TenantContext)
    (payoutId : String) (payload : VetoPayoutRequest) : Gateway VetoDecision := do
  let actorContext ← Gateway.shared (requireAccess councilPanelPolicy context)
  let actorId ← Gateway.shared (vetoActor actorContext payload)
  vetoPayout cfg env
    { tenantId := context.tenantId
      payoutId := payoutId
      actorId := actorId
      reasonCode := payload.fields.reasonCode
      reason := payload.fields.reason
      correlationId := correlationIdOf context
      decisionId := payload.fields.decisionId
      eventId := payload.fields.eventId
      now := timeArg payload.fields.now
      metadata := payload.fields.metadata }

/-- `council_panel_confirm_payout`. -/
def councilPanelConfirmPayout (cfg : HitlPayout.GatewayConfig) (env : Ambient)
    (totpSecrets : Dict (String × String) String) (context : TenantContext) (payoutId : String)
    (payload : ConfirmPayoutRequest) : Gateway PayoutConfirmation := do
  let actorContext ← Gateway.shared (requireAccess councilPanelPolicy context)
  let secret ← Gateway.shared (totpSecretOf totpSecrets actorContext)
  let twoFactorConfirmation ← Gateway.shared (TOTPService.confirmSensitiveOperation cfg.py {} env
    actorContext secret payload.fields.totpCode payoutConfirmOperation payoutId
    payload.fields.confirmedAt)
  confirmPayout cfg env
    { tenantId := context.tenantId
      payoutId := payoutId
      context := actorContext
      twoFactorConfirmation := twoFactorConfirmation
      confirmationId := payload.fields.confirmationId
      eventId := payload.fields.eventId
      metadata := payload.fields.metadata }

/-- A request to a route with the payout's id in its path: without a match, nothing handles it. -/
def routed {α : Type} (payoutId : String) (handler : Gateway α) : Gateway α :=
  if isPathSegment payoutId = true then handler else throw (.external "HTTPException(404)")

/-- `POST /council/payouts/{payout_id}/veto`. -/
def postCouncilPanelVeto (cfg : HitlPayout.GatewayConfig) (env : Ambient) (context : TenantContext)
    (payoutId : String) (payload : VetoPayoutRequest) : Gateway VetoDecision :=
  routed payoutId (councilPanelVetoPayout cfg env context payoutId payload)

/-- `POST /council/payouts/{payout_id}/confirm`. -/
def postCouncilPanelConfirm (cfg : HitlPayout.GatewayConfig) (env : Ambient)
    (totpSecrets : Dict (String × String) String) (context : TenantContext) (payoutId : String)
    (payload : ConfirmPayoutRequest) : Gateway PayoutConfirmation :=
  routed payoutId (councilPanelConfirmPayout cfg env totpSecrets context payoutId payload)

end MediaCenter.WebCabinet
