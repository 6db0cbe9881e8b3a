import MediaCenter.Analysis.BlockchainAuditor.AuditBatches
import MediaCenter.Analysis.HitlPayout.AcceptedDecisions
import MediaCenter.Analysis.HitlPayout.OpenPayouts
import MediaCenter.Analysis.Shared.TotpCodes
import MediaCenter.Model.WebCabinet.CouncilPanel

/-!
# When the requests of the Council panel are accepted

A veto and a confirmation of a member, each tried at one instant with an accepted body and a
fresh id.  Besides the state of the payout, the requests depend on a secret of the member's own,
on a correlation id, and on ids that the audit log, the event bus and the route take.
-/

set_option autoImplicit false

namespace MediaCenter.WebCabinet

open MediaCenter.Library MediaCenter.Shared MediaCenter.HitlPayout
open MediaCenter.BlockchainAuditor (trim_trim)

/-- A member of the Council, with a subject: what the middleware and the route let through. -/
structure CouncilMember (context : TenantContext) (subject : String) : Prop where
  tenant : tenantIdPattern context.tenantId = true
  council : councilRole ∈ context.roles
  holds : context.subject = some subject
  named : Text.strip subject ≠ ""

theorem CouncilMember.subjectOf {context : TenantContext} {subject : String}
    (h : CouncilMember context subject) : subjectOf context = .ok subject := by
  unfold WebCabinet.subjectOf
  simp only [h.holds, if_neg h.named]

/-- The context of another request of the same member. -/
def asking (context : TenantContext) (correlationId : Option String) : TenantContext :=
  { context with correlationId := correlationId }

theorem CouncilMember.asking {context : TenantContext} {subject : String}
    (h : CouncilMember context subject) (correlationId : Option String) :
    CouncilMember (asking context correlationId) subject :=
  ⟨h.tenant, h.council, h.holds, h.named⟩

/-- A veto that is tried: the body and the correlation id of the request, and what it meets. -/
structure VetoAttempt where
  env : Ambient
  correlationId : Option String
  body : VetoPayoutRequest
  answers : Answers

/-- The attempt is made at this instant, with an accepted body and a fresh decision id. -/
structure VetoAttempt.Fair (a : VetoAttempt) (cfg : HitlPayout.GatewayConfig) (s : HitlPayout.GatewayState)
    (tenantId : String) (now : Instant) : Prop where
  body : ∃ raw, vetoPayoutRequest raw = .ok a.body
  instant : resolveTime cfg.py a.env.now (timeArg a.body.fields.now) = .ok now
  fresh : s.decisions.decisions.get?
    (tenantId, orDefault a.body.fields.decisionId (newId "veto" (a.env.uuid 0))) = none
  publisher : PublisherAccepts a.answers

/-- `POST /council/payouts/{payout_id}/veto` is accepted. -/
def VetoAttempt.Succeeds (a : VetoAttempt) (cfg : HitlPayout.GatewayConfig) (s : HitlPayout.GatewayState)
    (context : TenantContext) (payoutId : String) : Prop :=
  Returns (postCouncilPanelVeto cfg a.env (asking context a.correlationId) payoutId a.body)
    a.answers s

/-- The route, the bus and the audit log take what the attempt says. -/
structure VetoAttempt.Fits (a : VetoAttempt) (context : TenantContext) (payoutId : String) :
    Prop where
  path : isPathSegment payoutId = true
  routable : Routable context.tenantId
  correlation : tokenPattern
    (Text.trim (correlationIdOf (asking context a.correlationId))) = true
  actor : ∃ actorId, vetoActor (asking context a.correlationId) a.body = .ok actorId ∧
    tokenPattern (Text.trim actorId) = true

/-- A confirmation that is tried; the code of the body is still to be filled in. -/
structure ConfirmAttempt where
  env : Ambient
  correlationId : Option String
  body : ConfirmPayoutRequest
  answers : Answers

/-- The attempt is made at this instant, with an accepted body and a fresh confirmation id. -/
structure ConfirmAttempt.Fair (a : ConfirmAttempt) (s : HitlPayout.GatewayState) (tenantId : String)
    (now : Instant) : Prop where
  body : ∃ raw, confirmPayoutRequest raw = .ok a.body
  instant : a.body.fields.confirmedAt.getD (a.env.now / 1000000) = now / 1000000
  fresh : s.confirmations.confirmations.get?
    (tenantId, orDefault a.body.fields.confirmationId
      (newId "confirmation" (a.env.uuid 0))) = none
  publisher : PublisherAccepts a.answers

/-- `POST /council/payouts/{payout_id}/confirm` is accepted with the code that the secret of the
member gives at this instant. -/
def ConfirmAttempt.Succeeds (a : ConfirmAttempt) (cfg : HitlPayout.GatewayConfig) (s : HitlPayout.GatewayState)
    (totpSecrets : Dict (String × String) String) (context : TenantContext) (subject : String)
    (now : Instant) (payoutId : String) : Prop :=
  ∃ secret code body, totpSecrets.get? (context.tenantId, subject) = some secret ∧
    TOTPService.generateTotp cfg.py {} secret (now / 1000000) = .ok code ∧
    confirmPayoutRequest { a.body.fields with totpCode := code } = .ok body ∧
    Returns (postCouncilPanelConfirm cfg a.env totpSecrets (asking context a.correlationId)
      payoutId body) a.answers s

/-- The member has a secret that can be decoded, and the route, the bus and the audit log take
what the attempt says, for which it needs a correlation id. -/
structure ConfirmAttempt.Fits (a : ConfirmAttempt) (py : Stdlib)
    (totpSecrets : Dict (String × String) String) (context : TenantContext) (subject : String)
    (payoutId : String) : Prop where
  path : isPathSegment payoutId = true
  routable : Routable context.tenantId
  correlation : ∃ correlationId, a.correlationId = some correlationId ∧
    tokenPattern (Text.trim correlationId) = true
  actor : tokenPattern (Text.trim subject) = true
  secret : ∃ secret key, totpSecrets.get? (context.tenantId, subject) = some secret ∧
    decodeTotpSecret py secret = .ok key

theorem returns_routed_iff {α : Type} (payoutId : String) (handler : Gateway α)
    (answers : Answers) (s : HitlPayout.GatewayState) :
    Returns (routed payoutId handler) answers s ↔
      isPathSegment payoutId = true ∧ Returns handler answers s := by
  unfold routed
  by_cases hpath : isPathSegment payoutId = true
  · rw [if_pos hpath]
    exact ⟨fun h => ⟨hpath, h⟩, fun h => h.2⟩
  · rw [if_neg hpath]
    constructor
    · rintro ⟨a, ha⟩
      cases ha
    · exact fun h => absurd h.1 hpath

section Requests

variable {cfg : HitlPayout.GatewayConfig} {s : HitlPayout.GatewayState} {context : TenantContext} {subject : String}
  {now : Instant} {payoutId : String} {p : PayoutQueueItem}

/-- INTERNAL: an accepted body has passed the checks that the manager makes again. -/
theorem VetoAttempt.bodied {a : VetoAttempt} {args : VetoArgs}
    (hbody : ∃ raw, vetoPayoutRequest raw = .ok a.body)
    (hdecision : args.decisionId = a.body.fields.decisionId)
    (hevent : args.eventId = a.body.fields.eventId)
    (hcode : args.reasonCode = a.body.fields.reasonCode)
    (hreason : args.reason = a.body.fields.reason) : args.Bodied := by
  obtain ⟨raw, hraw⟩ := hbody
  have hfields := (Validated.make_eq_ok_iff _ _ _).mp hraw
  have hvalid := a.body.valid
  simp only [VetoRequestFields.checks, List.forall_mem_cons] at hvalid
  obtain ⟨hdecisionId, heventId, _, hreasonCode, hlength, _⟩ := hvalid
  refine ⟨?_, ?_, ?_, ?_⟩
  · rw [hdecision]
    exact hdecisionId
  · rw [hevent]
    exact heventId
  · rw [hcode]
    rw [hfields] at hreasonCode ⊢
    rw [trim_trim]
    exact hreasonCode
  · rw [hreason]
    rw [hfields] at hlength ⊢
    rw [trim_trim]
    exact hlength

/-- **When the veto of a member is accepted.** -/
theorem VetoAttempt.succeeds_iff {a : VetoAttempt} (hmember : CouncilMember context subject)
    (hfair : a.Fair cfg s context.tenantId now)
    (hstored : s.payout? (context.tenantId, payoutId) = some p) :
    a.Succeeds cfg s context payoutId ↔
      (p.status = .queued ∧ now < p.vetoUntil) ∧ a.Fits context payoutId := by
  have haccess : requireAccess councilPanelPolicy (WebCabinet.asking context a.correlationId) =
      .ok (WebCabinet.asking context a.correlationId) :=
    requireAccess_council rfl hmember.council
  have hreturns : ∀ actorId, Returns (vetoPayout cfg a.env
      { tenantId := (WebCabinet.asking context a.correlationId).tenantId
        payoutId := payoutId
        actorId := actorId
        reasonCode := a.body.fields.reasonCode
        reason := a.body.fields.reason
        correlationId := correlationIdOf (WebCabinet.asking context a.correlationId)
        decisionId := a.body.fields.decisionId
        eventId := a.body.fields.eventId
        now := timeArg a.body.fields.now
        metadata := a.body.fields.metadata }) a.answers s ↔
      (p.status = .queued ∧ now < p.vetoUntil) ∧ Routable context.tenantId ∧
        tokenPattern (Text.trim actorId) = true ∧
        tokenPattern (Text.trim
          (correlationIdOf (WebCabinet.asking context a.correlationId))) = true := by
    intro actorId
    rw [vetoPayout_returns_iff hfair.publisher hfair.instant hstored
      (VetoAttempt.bodied hfair.body rfl rfl rfl rfl) hfair.fresh]
    constructor
    · rintro ⟨hopen, hroutable, hactor, hcorrelation⟩
      exact ⟨hopen, hroutable, hactor, hcorrelation⟩
    · rintro ⟨hopen, hroutable, hactor, hcorrelation⟩
      exact ⟨hopen, hroutable, hactor, hcorrelation⟩
  unfold VetoAttempt.Succeeds postCouncilPanelVeto councilPanelVetoPayout
  rw [returns_routed_iff, returns_shared_bind]
  simp only [haccess, Except.ok.injEq, exists_eq_left', returns_shared_bind, hreturns]
  constructor
  · rintro ⟨hpath, actorId, hactor, hopen, hroutable, hnamed, hcorrelation⟩
    exact ⟨hopen, hpath, hroutable, hcorrelation, actorId, hactor, hnamed⟩
  · rintro ⟨hopen, hpath, hroutable, hcorrelation, actorId, hactor, hnamed⟩
    exact ⟨hpath, actorId, hactor, hopen, hroutable, hnamed, hcorrelation⟩

/-- INTERNAL: whole seconds up to the end of the year 9999. -/
theorem seconds_bounds {t : ℤ} (hmax : t ≤ 253402300800 * 1000000 - 1) :
    t / 1000000 < 2 ^ 64 ∧ t / 1000000 / 30 < 2 ^ 64 ∧ (0 ≤ t / 1000000 →
      -62135596800 * 1000000 ≤ t / 1000000 * 1000000 ∧
        t / 1000000 * 1000000 ≤ 253402300800 * 1000000 - 1) := by
  omega

/-- INTERNAL: the seconds of an instant of the server's clock, or of a body. -/
theorem ConfirmAttempt.Fair.seconds {a : ConfirmAttempt} {tenantId : String}
    (h : a.Fair s tenantId now) : 0 ≤ now / 1000000 := by
  have hvalid := a.body.valid ("confirmed_at",
    decide (∀ t ∈ a.body.fields.confirmedAt, 0 ≤ t)) (by simp [ConfirmRequestFields.checks])
  rw [← h.instant]
  cases hgiven : a.body.fields.confirmedAt with
  | none =>
      exact Int.ediv_nonneg a.env.now_nonneg (by decide)
  | some t =>
      rw [hgiven] at hvalid
      exact of_decide_eq_true hvalid t rfl

theorem datetimeFromUnix_seconds (hnonneg : 0 ≤ now / 1000000) (hmax : now ≤ datetimeMax) :
    datetimeFromUnix (now / 1000000) = .ok (now / 1000000 * 1000000) := by
  unfold datetimeFromUnix
  simp only
  rw [if_pos]
  exact (seconds_bounds hmax).2.2 hnonneg

/-- INTERNAL: a code in the place of the one that the body came with. -/
theorem confirmPayoutRequest_totpCode {body : ConfirmPayoutRequest} {code : String}
    (hbody : ∃ raw, confirmPayoutRequest raw = .ok body) (hcode : IsCode 6 code) :
    ∃ body', confirmPayoutRequest { body.fields with totpCode := code } = .ok body' ∧
      body'.fields = { body.fields with totpCode := code } := by
  obtain ⟨raw, hraw⟩ := hbody
  have hfields := (Validated.make_eq_ok_iff _ _ _).mp hraw
  have hvisible : ∀ c ∈ code.toList, Text.Visible c := by
    intro c hc
    obtain ⟨hlo, hhi⟩ := toNat_of_isDigit (hcode.2 c hc)
    exact ⟨by omega, by omega⟩
  have hstripped : ∀ value : Option String,
      (value.map Text.trim).map Text.trim = value.map Text.trim := by
    intro value
    cases value with
    | none => rfl
    | some x => exact congrArg some (trim_trim x)
  have hsame : ({ body.fields with
      confirmationId := body.fields.confirmationId.map Text.trim
      eventId := body.fields.eventId.map Text.trim
      totpCode := Text.trim code } : ConfirmRequestFields) =
      { body.fields with totpCode := code } := by
    rw [hfields]
    simp only [hstripped, Text.trim_of_forall_visible hvisible]
  have hvalid := body.valid
  simp only [ConfirmRequestFields.checks, List.forall_mem_cons] at hvalid
  obtain ⟨hid, hevent, _, hconfirmedAt, _⟩ := hvalid
  have hpattern : totpCodePattern code = true := by
    unfold totpCodePattern hasLength
    rw [hcode.1, Bool.and_eq_true, List.all_eq_true]
    exact ⟨by decide, fun c hc => isDecimal_of_isDigit (hcode.2 c hc)⟩
  have hchecks : ∀ c ∈ ConfirmRequestFields.checks { body.fields with totpCode := code },
      c.2 = true := by
    simp only [ConfirmRequestFields.checks, List.forall_mem_cons]
    exact ⟨hid, hevent, hpattern, hconfirmedAt, fun c hc => by cases hc⟩
  refine ⟨⟨_, hchecks⟩, ?_, rfl⟩
  unfold confirmPayoutRequest
  rw [Validated.make_eq_ok_iff]
  exact hsame.symm

/-- INTERNAL: the confirmation that the right code makes. -/
theorem confirmSensitiveOperation_eq_ok_iff {py : Stdlib} {env : Ambient} {secret code : String}
    {operation resourceId : String} {atTime : Option ℤ} {t : ℤ}
    (htime : atTime.getD (env.now / 1000000) = t)
    (hverified : TOTPService.verifyTotp py {} secret code t = .ok true)
    (confirmation : TwoFactorConfirmation) :
    TOTPService.confirmSensitiveOperation py {} env context secret code operation resourceId
        atTime = .ok confirmation ↔
      confirmation = ⟨context.tenantId, context.subject, operation, resourceId, "totp", t,
        context.correlationId⟩ := by
  unfold TOTPService.confirmSensitiveOperation
  simp only [htime, hverified, bind, Except.bind, if_true, pure, Except.pure, Except.ok.injEq]
  exact eq_comm

/-- INTERNAL: what the manager makes of the request, with the right code in it. -/
theorem ConfirmAttempt.returns_iff {a : ConfirmAttempt} {totpSecrets : Dict (String × String) String}
    {secret code : String} {body : ConfirmPayoutRequest}
    (hmember : CouncilMember context subject) (hfair : a.Fair s context.tenantId now)
    (hmax : now ≤ datetimeMax) (horderly : Orderly s)
    (hstored : s.payout? (context.tenantId, payoutId) = some p)
    (hsecret : totpSecrets.get? (context.tenantId, subject) = some secret)
    (hcode : TOTPService.generateTotp cfg.py {} secret (now / 1000000) = .ok code)
    (hbody : body.fields = { a.body.fields with totpCode := code }) :
    Returns (postCouncilPanelConfirm cfg a.env totpSecrets
        (WebCabinet.asking context a.correlationId) payoutId body) a.answers s ↔
      isPathSegment payoutId = true ∧ (p.status = .queued ∧ p.confirmationId = none) ∧
        Routable context.tenantId ∧ tokenPattern (Text.trim subject) = true ∧
        ∃ correlationId, a.correlationId = some correlationId ∧
          tokenPattern (Text.trim correlationId) = true := by
  have hseconds := hfair.seconds
  have hrange : now / 1000000 < 2 ^ 64 := (seconds_bounds hmax).1
  have hverified := TOTPService.verifyTotp_generateTotp hseconds hrange hcode
  have haccess : requireAccess councilPanelPolicy (WebCabinet.asking context a.correlationId) =
      .ok (WebCabinet.asking context a.correlationId) :=
    requireAccess_council rfl hmember.council
  have hown : totpSecretOf totpSecrets (WebCabinet.asking context a.correlationId) =
      .ok secret := by
    have hget : totpSecrets.get?
      ((WebCabinet.asking context a.correlationId).tenantId, subject) = some secret := hsecret
    unfold totpSecretOf
    rw [(hmember.asking a.correlationId).subjectOf]
    simp only [bind, Except.bind, hget]
    rfl
  have htime : body.fields.confirmedAt.getD (a.env.now / 1000000) = now / 1000000 := by
    rw [hbody]
    exact hfair.instant
  have hcodeFilled : body.fields.totpCode = code := by rw [hbody]
  have hvalid := a.body.valid
  simp only [ConfirmRequestFields.checks, List.forall_mem_cons] at hvalid
  obtain ⟨hid, hevent, _⟩ := hvalid
  unfold postCouncilPanelConfirm councilPanelConfirmPayout
  rw [hcodeFilled, returns_routed_iff, returns_shared_bind]
  simp only [haccess, Except.ok.injEq, exists_eq_left', returns_shared_bind, hown,
    confirmSensitiveOperation_eq_ok_iff htime hverified, exists_eq_left]
  apply and_congr_right
  intro _
  rw [confirmPayout_returns_iff (p := p) (t := now / 1000000 * 1000000) hfair.publisher hstored]
  · constructor
    · rintro ⟨hopen, hroutable, ⟨subject', hsubject, hactor⟩, hcorrelation⟩
      have hsame := hmember.holds.symm.trans hsubject
      cases hsame
      exact ⟨hopen, hroutable, hactor, hcorrelation⟩
    · rintro ⟨hopen, hroutable, hactor, hcorrelation⟩
      exact ⟨hopen, hroutable, ⟨subject, hmember.holds, hactor⟩, hcorrelation⟩
  · refine ⟨rfl, hmember.council, ?_, ?_, rfl, rfl, rfl, rfl, rfl, rfl, ?_⟩
    · rw [hbody]
      exact hid
    · rw [hbody]
      exact hevent
    · exact datetimeFromUnix_seconds hseconds hmax
  · have hsame : body.fields.confirmationId = a.body.fields.confirmationId := by rw [hbody]
    unfold ConfirmArgs.resolvedConfirmationId
    simp only [hsame]
    exact hfair.fresh
  · exact horderly.unindexed hstored

/-- **When the confirmation of a member is accepted.** -/
theorem ConfirmAttempt.succeeds_iff {a : ConfirmAttempt}
    {totpSecrets : Dict (String × String) String} (hmember : CouncilMember context subject)
    (hfair : a.Fair s context.tenantId now) (hmax : now ≤ datetimeMax) (horderly : Orderly s)
    (hstored : s.payout? (context.tenantId, payoutId) = some p) :
    a.Succeeds cfg s totpSecrets context subject now payoutId ↔
      (p.status = .queued ∧ p.confirmationId = none) ∧
        a.Fits cfg.py totpSecrets context subject payoutId := by
  constructor
  · rintro ⟨secret, code, body, hsecret, hcode, hbody, hreturns⟩
    obtain ⟨body', hbody', hfields⟩ :=
      confirmPayoutRequest_totpCode hfair.body (isCode_of_hotp (by decide) hcode)
    rw [hbody] at hbody'
    cases hbody'
    obtain ⟨key, _, hkey, _, _⟩ := hotp_eq_ok_iff.mp hcode
    obtain ⟨hpath, hopen, hroutable, hactor, hcorrelation⟩ := (ConfirmAttempt.returns_iff hmember
      hfair hmax horderly hstored hsecret hcode hfields).mp hreturns
    exact ⟨hopen, hpath, hroutable, hcorrelation, hactor, secret, key, hsecret, hkey⟩
  · rintro ⟨hopen, hfits⟩
    obtain ⟨secret, key, hsecret, hkey⟩ := hfits.secret
    have hcounter : TOTPService.counter {} (now / 1000000) < 2 ^ 64 := (seconds_bounds hmax).2.1
    obtain ⟨code, hcode⟩ := exists_hotp hkey (Int.ediv_nonneg hfair.seconds (by decide)) hcounter 6
    obtain ⟨body, hbody, hfields⟩ :=
      confirmPayoutRequest_totpCode hfair.body (isCode_of_hotp (by decide) hcode)
    refine ⟨secret, code, body, hsecret, hcode, hbody, ?_⟩
    rw [ConfirmAttempt.returns_iff hmember hfair hmax horderly hstored hsecret hcode hfields]
    exact ⟨hfits.path, hopen, hfits.routable, hfits.actor, hfits.correlation⟩

end Requests

end MediaCenter.WebCabinet
