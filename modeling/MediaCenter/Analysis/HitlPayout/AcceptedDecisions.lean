import MediaCenter.Analysis.HitlPayout.Outcomes
import MediaCenter.Analysis.Shared.EventNormalForms

/-!
# When a veto and a confirmation are accepted

A call that runs alone, with a publisher that takes its event, returns exactly when everything it
checks is ready.  For a stored payout that leaves the state of the payout, the id of the
decision, and how the actor, the tenant and the correlation id are written.
-/

set_option autoImplicit false

namespace MediaCenter.HitlPayout

open MediaCenter.Library MediaCenter.Shared Coroutine

/-- The publisher takes every event. -/
def PublisherAccepts (answers : Answers) : Prop :=
  ∀ n event, answers n (.publish event) = .ok ()

/-- The call returns, when it runs alone. -/
def Returns {α : Type} (x : Gateway α) (answers : Answers) (s : GatewayState) : Prop :=
  ∃ a, (x.complete answers s).1 = .ok a

theorem Starts.returns_iff {α : Type} {s : GatewayState} {audited : AuditLogRecord → Prop}
    {ready : AuditLogRecord → EventEnvelope → α → GatewayState → Prop} {x : Gateway α}
    (h : Starts s audited ready (x.advance s)) {answers : Answers}
    (hanswers : PublisherAccepts answers)
    (haudited : ∀ record event a s', ready record event a s' → audited record) :
    Returns x answers s ↔ ∃ record event a s', ready record event a s' := by
  unfold Returns
  rw [complete_eq]
  generalize x.advance s = start at h
  cases h with
  | refused e hnone =>
      constructor
      · rintro ⟨a, ha⟩
        cases ha
      · rintro ⟨record, event, a, s', hready⟩
        exact absurd (haudited _ _ _ _ hready) (hnone record)
  | stopped e record s' haudited' hnot hlog =>
      constructor
      · rintro ⟨a, ha⟩
        cases ha
      · rintro ⟨record', event, a, s'', hready⟩
        exact absurd hready (hnot record' event a s'')
  | published record event a s' rest haudited' hready hlog haccepted hrefused =>
      refine ⟨fun _ => ⟨record, event, a, s', hready⟩, fun _ => ⟨a, ?_⟩⟩
      show ((rest (answers 0 (.publish event))).complete _ s').1 = .ok a
      rw [complete_eq, hanswers, haccepted]

theorem returns_ofExcept_bind {α β : Type} (x : Except HitlError α) (g : α → Gateway β)
    (answers : Answers) (s : GatewayState) :
    Returns (Coroutine.ofExcept x >>= g) answers s ↔
      ∃ a, x = .ok a ∧ Returns (g a) answers s := by
  cases x with
  | error e =>
      constructor
      · rintro ⟨b, hb⟩
        cases hb
      · rintro ⟨a, ha, _⟩
        cases ha
  | ok a =>
      constructor
      · intro h
        exact ⟨a, rfl, h⟩
      · rintro ⟨a', ha, h⟩
        cases ha
        exact h

theorem returns_shared_bind {α β : Type} (x : Except SharedException α) (g : α → Gateway β)
    (answers : Answers) (s : GatewayState) :
    Returns (Gateway.shared x >>= g) answers s ↔
      ∃ a, x = .ok a ∧ Returns (g a) answers s := by
  unfold Gateway.shared liftShared
  rw [returns_ofExcept_bind]
  simp only [mapError_eq_ok_iff]

/-- INTERNAL: of an envelope of tokens only the tenant can be refused, for a dot. -/
theorem exists_eventEnvelope_eq_ok_iff {args : EventEnvelope}
    (hid : tokenPattern args.eventId = true)
    (htype : normalizeEventType args.type = .ok args.type)
    (hversion : normalizeSchemaVersion args.schemaVersion = .ok args.schemaVersion)
    (htenant : tenantIdPattern args.tenantId = true) (hsource : tokenPattern args.source = true)
    (hcorrelation : tokenPattern (Text.trim args.correlationId) = true)
    (hcausation : args.causationId = none) :
    (∃ event, eventEnvelope args = .ok event) ↔ args.tenantId.toList.contains '.' = false := by
  rw [exists_eventEnvelope_iff_normalizeToken htype hversion htenant
    (normalizeToken_of_tokenPattern hsource _) hcorrelation hcausation]
  exact and_iff_left ⟨_, normalizeToken_of_tokenPattern hid _⟩

/-- INTERNAL: an id that is given and valid, or made, is a token. -/
theorem tokenPattern_orDefault_newId {value : Option String} {stem : String}
    (hvalue : optionalField tokenPattern value = true) (hstem : tokenPattern stem = true)
    (hlength : stem.toList.length ≤ 91) (u : Uuid4) :
    tokenPattern (orDefault value (newId stem u)) = true := by
  cases value with
  | none => exact tokenPattern_newId hstem hlength u
  | some id =>
      unfold orDefault
      by_cases hempty : id = ""
      · simp only [if_pos hempty]
        exact tokenPattern_newId hstem hlength u
      · simp only [if_neg hempty]
        exact hvalue

theorem normalizeSchemaVersion_hitlPayoutSchemaVersion :
    normalizeSchemaVersion hitlPayoutSchemaVersion = .ok hitlPayoutSchemaVersion := by
  decide

theorem normalizeEventType_payoutVetoedEvent :
    normalizeEventType payoutVetoedEvent = .ok payoutVetoedEvent := by
  decide

theorem normalizeEventType_payoutConfirmedEvent :
    normalizeEventType payoutConfirmedEvent = .ok payoutConfirmedEvent := by
  decide

theorem tokenPattern_hitlPayoutSource : tokenPattern hitlPayoutSource = true := by
  decide

/-- A tenant id that the event bus can route. -/
def Routable (tenantId : String) : Prop := tenantId.toList.contains '.' = false

/-! ## Vetoing -/

section Veto

variable {cfg : GatewayConfig} {env : Ambient} {args : VetoArgs} {answers : Answers}
  {s : GatewayState} {t : Instant} {p : PayoutQueueItem}

/-- A veto whose own fields have passed the checks of a request body. -/
structure VetoArgs.Bodied (args : VetoArgs) : Prop where
  decisionId : optionalField tokenPattern args.decisionId = true
  eventId : optionalField tokenPattern args.eventId = true
  reasonCode : reasonCodePattern (Text.trim args.reasonCode) = true
  reason : hasLength 1 512 (Text.trim args.reason) = true

/-- How the actor, the tenant and the correlation id of a veto have to be written. -/
structure VetoArgs.Named (args : VetoArgs) : Prop where
  routable : Routable args.tenantId
  actor : tokenPattern (Text.trim args.actorId) = true
  correlation : tokenPattern (Text.trim args.correlationId) = true

theorem tenantIdPattern_of_payout? {tenantId payoutId : String}
    (hstored : s.payout? (tenantId, payoutId) = some p) :
    tenantIdPattern tenantId = true ∧ tokenPattern payoutId = true ∧
      Text.trim tenantId = tenantId ∧ Text.trim payoutId = payoutId := by
  have hkey : p.key = (tenantId, payoutId) := GatewayState.key_of_payout? hstored
  have htenant : p.tenantId = tenantId := congrArg Prod.fst hkey
  have hpayout : p.payoutId = payoutId := congrArg Prod.snd hkey
  have htenantPattern : tenantIdPattern tenantId = true := by
    rw [← htenant]
    exact p.queued.valid ("tenant_id", tenantIdPattern p.queued.fields.tenantId)
      (by simp [QueuedFields.checks])
  have hpayoutPattern : tokenPattern payoutId = true := by
    rw [← hpayout]
    exact p.queued.valid ("payout_id", tokenPattern p.queued.fields.payoutId)
      (by simp [QueuedFields.checks])
  exact ⟨htenantPattern, hpayoutPattern,
    trim_of_tokenPattern (tokenPattern_of_tenantIdPattern htenantPattern),
    trim_of_tokenPattern hpayoutPattern⟩

theorem exists_auditRecord_veto_iff (hstored : s.payout? (args.tenantId, args.payoutId) = some p) :
    (∃ record, auditRecord cfg.py (args.auditArgs cfg.py env t p) = .ok record) ↔
      tokenPattern (Text.trim args.correlationId) = true := by
  have htype : isEventType (Text.trim payoutVetoedEvent) = true := by decide
  have htenant := (tenantIdPattern_of_payout? hstored).1
  rw [exists_auditRecord_eq_ok_iff]
  simp only [VetoArgs.auditArgs, htenant, htype, Option.map_some, optionalField, true_and]

theorem exists_vetoDecision_iff (hstored : s.payout? (args.tenantId, args.payoutId) = some p)
    (hbody : args.Bodied) (hcorrelation : tokenPattern (Text.trim args.correlationId) = true)
    (record : AuditLogRecord) :
    (∃ d, vetoDecision (args.decisionFields cfg.py env t record.fields.auditHash) = .ok d) ↔
      tokenPattern (Text.trim args.actorId) = true := by
  obtain ⟨htenant, hpayout, htrimTenant, htrimPayout⟩ := tenantIdPattern_of_payout? hstored
  have hid : tokenPattern (args.resolvedDecisionId env) = true :=
    tokenPattern_orDefault_newId hbody.decisionId (by decide) (by decide) _
  have haudit := auditHashPattern_auditHash record
  unfold vetoDecision
  rw [Validated.exists_make_eq_ok_iff]
  simp only [DecisionFields.checks, VetoArgs.decisionFields, List.forall_mem_cons, htrimTenant,
    htrimPayout, trim_of_tokenPattern hid, hid, htenant, hpayout, hbody.reasonCode, hbody.reason,
    hcorrelation, haudit, true_and, List.not_mem_nil, false_imp_iff, implies_true, and_true]

/-- **When a veto is accepted.** -/
theorem vetoPayout_returns_iff (hanswers : PublisherAccepts answers)
    (htime : resolveTime cfg.py env.now args.now = .ok t)
    (hstored : s.payout? (args.tenantId, args.payoutId) = some p) (hbody : args.Bodied)
    (hfresh : s.decisions.decisions.get? (args.tenantId, args.resolvedDecisionId env) = none) :
    Returns (vetoPayout cfg env args) answers s ↔
      (p.status = .queued ∧ t < p.vetoUntil) ∧ args.Named := by
  obtain ⟨htenant, hpayout, htrimTenant, htrimPayout⟩ := tenantIdPattern_of_payout? hstored
  have hid : tokenPattern (args.resolvedDecisionId env) = true :=
    tokenPattern_orDefault_newId hbody.decisionId (by decide) (by decide) _
  have hevents : ∀ d : VetoDecision, tokenPattern (Text.trim args.correlationId) = true →
      ((∃ event, eventEnvelope (args.event env t p d) = .ok event) ↔ Routable args.tenantId) := by
    intro d hcorrelation
    exact exists_eventEnvelope_eq_ok_iff
      (tokenPattern_orDefault_newId hbody.eventId (by decide) (by decide) _)
      normalizeEventType_payoutVetoedEvent normalizeSchemaVersion_hitlPayoutSchemaVersion htenant
      tokenPattern_hitlPayoutSource hcorrelation rfl
  rw [(vetoPayout_starts s).returns_iff hanswers ?_]
  · constructor
    · rintro ⟨record, event, d, s', t', p', haudited, hready, _⟩
      have ht := htime.symm.trans haudited.time
      cases ht
      have hp := hstored.symm.trans haudited.stored
      cases hp
      have hcorrelation := (exists_auditRecord_veto_iff hstored).mp ⟨record, haudited.record⟩
      refine ⟨(requireVetoable_eq_ok_iff p t).mp haudited.vetoable, ?_, ?_, hcorrelation⟩
      · exact (hevents d hcorrelation).mp ⟨event, hready.event⟩
      · exact (exists_vetoDecision_iff hstored hbody hcorrelation record).mp ⟨d, hready.decision⟩
    · rintro ⟨hopen, hroutable, hactor, hcorrelation⟩
      obtain ⟨record, hrecord⟩ := (exists_auditRecord_veto_iff hstored).mpr hcorrelation
      obtain ⟨d, hd⟩ := (exists_vetoDecision_iff hstored hbody hcorrelation record).mpr hactor
      obtain ⟨event, hevent⟩ := (hevents d hcorrelation).mpr hroutable
      have hkey : VetoDecision.key d = (args.tenantId, args.resolvedDecisionId env) := by
        have hfields := (Validated.make_eq_ok_iff _ _ _).mp hd
        rw [VetoDecision.key, hfields]
        simp only [VetoArgs.decisionFields, htrimTenant]
        rw [trim_of_tokenPattern hid]
      refine ⟨record, event, d, _, t, p, ⟨htime, hstored, ?_, hrecord⟩, ⟨hd, ?_, hevent⟩, rfl⟩
      · exact (requireVetoable_eq_ok_iff p t).mpr hopen
      · rw [hkey]
        exact hfresh
  · rintro record event d s' ⟨t', p', haudited, _⟩
    exact ⟨t', p', haudited⟩

end Veto

/-! ## Confirming -/

section Confirm

variable {cfg : GatewayConfig} {env : Ambient} {args : ConfirmArgs} {answers : Answers}
  {s : GatewayState} {p : PayoutQueueItem}

/-- A member of the Council and the two-factor confirmation of theirs for this payout, at a time
that a `datetime` can hold. -/
structure ConfirmArgs.Matching (args : ConfirmArgs) (t : Instant) : Prop where
  tenant : args.tenantId = args.context.tenantId
  council : councilRole ∈ args.context.roles
  confirmationId : optionalField tokenPattern args.confirmationId = true
  eventId : optionalField tokenPattern args.eventId = true
  confirmedTenant : args.twoFactorConfirmation.tenantId = args.tenantId
  confirmedSubject : args.twoFactorConfirmation.subject = args.context.subject
  operation : args.twoFactorConfirmation.operation = payoutConfirmOperation
  resource : args.twoFactorConfirmation.resourceId = args.payoutId
  method : args.twoFactorConfirmation.method = "totp"
  correlation : args.twoFactorConfirmation.correlationId = args.context.correlationId
  time : datetimeFromUnix args.twoFactorConfirmation.confirmedAt = .ok t

/-- How the actor, the tenant and the correlation id of a confirmation have to be written. -/
structure ConfirmArgs.Named (args : ConfirmArgs) : Prop where
  routable : Routable args.tenantId
  actor : ∃ subject, args.context.subject = some subject ∧
    tokenPattern (Text.trim subject) = true
  correlation : ∃ correlationId, args.context.correlationId = some correlationId ∧
    tokenPattern (Text.trim correlationId) = true

theorem requireAccess_council {policy : AccessPolicy} {action resourceType : String}
    (hpolicy : policy = AccessPolicy.council action resourceType) {context : TenantContext}
    (h : councilRole ∈ context.roles) : requireAccess policy context = .ok context := by
  unfold requireAccess
  rw [if_pos]
  rw [List.any_eq_true]
  refine ⟨councilRole, ?_, ?_⟩
  · rw [List.mem_filter]
    exact ⟨h, by decide⟩
  · rw [hpolicy]
    exact List.elem_eq_true_of_mem (List.mem_singleton_self _)

theorem confirmedByRole_council {roles : List String} (h : councilRole ∈ roles) :
    confirmedByRole roles = .ok councilRole := by
  have hiff : ∀ role, payoutConfirmPolicy.allowedRoles.contains role = true ↔
      role = councilRole := by
    intro role
    rw [List.contains_iff_mem]
    exact List.mem_singleton
  unfold confirmedByRole
  cases hfind : roles.find? fun role => payoutConfirmPolicy.allowedRoles.contains role with
  | none =>
      rw [List.find?_eq_none] at hfind
      exact absurd ((hiff _).mpr rfl) (hfind councilRole h)
  | some role =>
      have hrole := (hiff role).mp (List.find?_some hfind)
      rw [hrole]

theorem ne_empty_of_tokenPattern_trim {c : String} (h : tokenPattern (Text.trim c) = true) :
    c ≠ "" ∧ Text.strip c ≠ "" := by
  constructor
  · rintro rfl
    revert h
    decide
  · intro hstrip
    have htrim : Text.strip (Text.trim c) = Text.trim c :=
      Text.strip_of_forall_visible (visible_of_tokenPattern h)
    rw [Text.strip_trim, hstrip] at htrim
    rw [← htrim] at h
    revert h
    decide

/-- INTERNAL: where the two correlation ids are one, there has to be one. -/
theorem resolveCorrelationId_eq_ok_iff {context : TenantContext}
    {confirmation : TwoFactorConfirmation}
    (hsame : confirmation.correlationId = context.correlationId) (c : String) :
    resolveCorrelationId context confirmation = .ok c ↔
      context.correlationId = some c ∧ Text.strip c ≠ "" := by
  unfold resolveCorrelationId PayoutQueueItem.orElseText
  rw [hsame]
  cases hid : context.correlationId with
  | none => simp
  | some id =>
      have hor : (if id = "" then some id else some id) = some id := ite_self _
      simp only [hor, Option.some.injEq]
      by_cases hstrip : Text.strip id = ""
      · rw [if_pos hstrip]
        constructor
        · intro h
          cases h
        · rintro ⟨rfl, hne⟩
          exact absurd hstrip hne
      · rw [if_neg hstrip, Except.ok.injEq]
        constructor
        · rintro rfl
          exact ⟨rfl, hstrip⟩
        · exact fun h => h.1

/-- INTERNAL: the one way a confirmation of one's own can fail to match is not there. -/
theorem requireMatching_eq_ok {confirmation : TwoFactorConfirmation} {tenantId payoutId : String}
    {context : TenantContext} (htenant : confirmation.tenantId = tenantId)
    (hsubject : confirmation.subject = context.subject)
    (hoperation : confirmation.operation = payoutConfirmOperation)
    (hresource : confirmation.resourceId = payoutId)
    (hcorrelation : confirmation.correlationId = context.correlationId) :
    requireMatchingTwoFactorConfirmation confirmation tenantId payoutId context = .ok () := by
  unfold requireMatchingTwoFactorConfirmation
  rw [if_neg (by simp [htenant, hsubject, hoperation, hresource]),
    if_neg (by simp [hcorrelation])]
  rfl

theorem exists_auditRecord_confirm_iff (cfg : GatewayConfig) (env : Ambient) (basis : ConfirmBasis)
    (hstored : s.payout? (args.tenantId, args.payoutId) = some p) :
    (∃ record, auditRecord cfg.py (args.auditArgs cfg.py env basis p) = .ok record) ↔
      tokenPattern (Text.trim basis.correlationId) = true := by
  have htype : isEventType (Text.trim payoutConfirmedEvent) = true := by decide
  have htenant := (tenantIdPattern_of_payout? hstored).1
  rw [exists_auditRecord_eq_ok_iff]
  simp only [ConfirmArgs.auditArgs, htenant, htype, Option.map_some, optionalField, true_and]

theorem exists_payoutConfirmation_iff (cfg : GatewayConfig) (env : Ambient) {t : Instant}
    {basis : ConfirmBasis} (hrole : basis.actorRole = councilRole)
    (hstored : s.payout? (args.tenantId, args.payoutId) = some p) (hmatching : args.Matching t)
    (hcorrelation : tokenPattern (Text.trim basis.correlationId) = true)
    (record : AuditLogRecord) :
    (∃ c, payoutConfirmation (args.confirmationFields cfg.py env basis record.fields.auditHash) =
        .ok c) ↔ tokenPattern (Text.trim basis.subject) = true := by
  obtain ⟨htenant, hpayout, htrimTenant, htrimPayout⟩ := tenantIdPattern_of_payout? hstored
  have hid : tokenPattern (args.resolvedConfirmationId env) = true :=
    tokenPattern_orDefault_newId hmatching.confirmationId (by decide) (by decide) _
  have haudit := auditHashPattern_auditHash record
  have hrolePattern : tokenPattern (Text.trim councilRole) = true := by decide
  have hmethod : hasLength 1 32 (Text.trim "totp") = true := by decide
  unfold payoutConfirmation
  rw [Validated.exists_make_eq_ok_iff]
  simp only [ConfirmationFields.checks, ConfirmArgs.confirmationFields, List.forall_mem_cons,
    htrimTenant, htrimPayout, trim_of_tokenPattern hid, hid, htenant, hpayout, hrole, hrolePattern,
    hmatching.method, hmethod, hcorrelation, haudit, true_and, List.not_mem_nil, false_imp_iff,
    implies_true, and_true]

/-- **When a confirmation is accepted.** -/
theorem confirmPayout_returns_iff {t : Instant} (hanswers : PublisherAccepts answers)
    (hstored : s.payout? (args.tenantId, args.payoutId) = some p) (hmatching : args.Matching t)
    (hfresh : s.confirmations.confirmations.get?
      (args.tenantId, args.resolvedConfirmationId env) = none)
    (hunindexed : p.confirmationId = none → s.confirmations.payoutIndex.get?
      (args.tenantId, args.payoutId) = none) :
    Returns (confirmPayout cfg env args) answers s ↔
      (p.status = .queued ∧ p.confirmationId = none) ∧ args.Named := by
  obtain ⟨htenant, hpayout, htrimTenant, htrimPayout⟩ := tenantIdPattern_of_payout? hstored
  have hid : tokenPattern (args.resolvedConfirmationId env) = true :=
    tokenPattern_orDefault_newId hmatching.confirmationId (by decide) (by decide) _
  have hevents : ∀ (basis : ConfirmBasis) (c : PayoutConfirmation),
      tokenPattern (Text.trim basis.correlationId) = true →
      ((∃ event, eventEnvelope (args.event env basis p c) = .ok event) ↔
        Routable args.tenantId) := by
    intro basis c hcorrelation
    exact exists_eventEnvelope_eq_ok_iff
      (tokenPattern_orDefault_newId hmatching.eventId (by decide) (by decide) _)
      normalizeEventType_payoutConfirmedEvent normalizeSchemaVersion_hitlPayoutSchemaVersion htenant
      tokenPattern_hitlPayoutSource hcorrelation rfl
  have hsubject : ∀ subject, requireSubject args.context = .ok subject ↔
      args.context.subject = some subject := by
    intro subject
    unfold requireSubject
    cases args.context.subject <;> simp
  rw [(confirmPayout_starts s).returns_iff hanswers ?_]
  · constructor
    · rintro ⟨record, event, c, s', p', basis, haudited, hready, _⟩
      have hp := hstored.symm.trans haudited.stored
      cases hp
      have hrole := haudited.role.symm.trans (confirmedByRole_council hmatching.council)
      rw [Except.ok.injEq] at hrole
      have hcorrelation := (exists_auditRecord_confirm_iff cfg env basis hstored).mp
        ⟨record, haudited.record⟩
      obtain ⟨hgiven, _⟩ := (resolveCorrelationId_eq_ok_iff hmatching.correlation _).mp
        haudited.correlation
      refine ⟨(requireConfirmable_eq_ok_iff p).mp haudited.confirmable, ?_, ?_, ?_⟩
      · exact (hevents basis c hcorrelation).mp ⟨event, hready.event⟩
      · refine ⟨basis.subject, (hsubject _).mp haudited.subject, ?_⟩
        exact (exists_payoutConfirmation_iff cfg env hrole hstored hmatching hcorrelation record).mp
          ⟨c, hready.confirmation⟩
      · exact ⟨basis.correlationId, hgiven, hcorrelation⟩
    · rintro ⟨hopen, hroutable, ⟨subject, hgivenSubject, hactor⟩,
        correlationId, hgiven, hcorrelation⟩
      let basis : ConfirmBasis := ⟨subject, councilRole, t, correlationId⟩
      obtain ⟨record, hrecord⟩ :=
        (exists_auditRecord_confirm_iff cfg env basis hstored).mpr hcorrelation
      obtain ⟨c, hc⟩ := (exists_payoutConfirmation_iff cfg env (show basis.actorRole = _ from rfl)
        hstored hmatching hcorrelation record).mpr hactor
      obtain ⟨event, hevent⟩ := (hevents basis c hcorrelation).mpr hroutable
      have hfields := (Validated.make_eq_ok_iff _ _ _).mp hc
      have hkey : PayoutConfirmation.key c =
          (args.tenantId, args.resolvedConfirmationId env) := by
        rw [PayoutConfirmation.key, hfields]
        simp only [ConfirmArgs.confirmationFields, htrimTenant]
        rw [trim_of_tokenPattern hid]
      have hpayoutKey : PayoutConfirmation.payoutKey c = (args.tenantId, args.payoutId) := by
        rw [PayoutConfirmation.payoutKey, hfields]
        simp only [ConfirmArgs.confirmationFields, htrimTenant, htrimPayout]
      have htenantOk : assertRequestedTenant args.tenantId args.context = .ok () := by
        unfold assertRequestedTenant validatedTenantId
        rw [if_pos htenant]
        simp [bind, Except.bind, pure, Except.pure, hmatching.tenant]
      have haudited : ConfirmAudited cfg env args s p basis record :=
        { tenant := htenantOk
          access := requireAccess_council rfl hmatching.council
          subject := (hsubject _).mpr hgivenSubject
          stored := hstored
          confirmable := (requireConfirmable_eq_ok_iff p).mpr hopen
          twoFactor := requireMatching_eq_ok hmatching.confirmedTenant hmatching.confirmedSubject
            hmatching.operation hmatching.resource hmatching.correlation
          role := confirmedByRole_council hmatching.council
          time := hmatching.time
          correlation := (resolveCorrelationId_eq_ok_iff hmatching.correlation _).mpr
            ⟨hgiven, (ne_empty_of_tokenPattern_trim hcorrelation).2⟩
          record := hrecord }
      refine ⟨record, event, c, _, p, basis, haudited, ⟨hc, ?_, ?_, hevent⟩, rfl⟩
      · rw [hkey]
        exact hfresh
      · rw [hpayoutKey]
        exact hunindexed hopen.2
  · rintro record event c s' ⟨p', basis, haudited, _⟩
    exact ⟨p', basis, haudited⟩

end Confirm

end MediaCenter.HitlPayout
