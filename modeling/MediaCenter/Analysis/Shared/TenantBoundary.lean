import MediaCenter.Analysis.Shared.IdentityPropagation
import MediaCenter.Analysis.Shared.TokenCodec
import MediaCenter.Library.Failures
import MediaCenter.Model.Shared.TenantMiddleware

/-!
# The tenant boundary

The app is called for a request with a valid token and with no other tenant in its headers, in the
context of the token; any other request is answered with one error.  Two inputs break this: an
earlier copy of `X-Tenant-Id` that the last one hides, and a correlation id that does not fit into
the error response.
-/

set_option autoImplicit false

namespace MediaCenter.Shared

open MediaCenter.Library

namespace TenantContextASGIMiddleware

/-! ## Requests -/

section Requests

variable (m : TenantContextASGIMiddleware) (request : EdgeRequest)

/-- The last value of a header. -/
def header (name : String) : Option String := (headersFromScope m.py request.headers).get? name

/-- The identity that the bearer token of a request stands for. -/
def identity : Except SharedException TenantContext :=
  tenantContextFromAuthorizationHeader m.py m.codec (m.header request "authorization")
    m.jwtSecret m.expectedIssuer m.expectedAudience (m.header request correlationIdHeader)
    request.now

/-- `decode_hs256_jwt` returns claims, or raises `UnauthorizedError`. -/
def DecodesOrRefuses : Prop :=
  ∀ token, extractBearerToken m.py (m.header request "authorization")
      (m.header request correlationIdHeader) = .ok token →
    ∀ e, decodeHs256Jwt m.codec token m.jwtSecret m.expectedIssuer m.expectedAudience
        request.now = .error e →
      ∃ message correlationId, e = .unauthorized message correlationId

end Requests

/-- The header is `X-Tenant-Id`, in any letter case. -/
def NamesTenant (e : Bytes × Bytes) : Prop := Bytes.lower e.1 = Bytes.encodeUtf8 tenantIdHeader

/-- Every `X-Tenant-Id` of the request is this tenant. -/
def RequestsOnly (request : EdgeRequest) (tenantId : String) : Prop :=
  ∀ e ∈ request.headers, NamesTenant e → Bytes.decodeLatin1 e.2 = tenantId

section Boundary

variable (m : TenantContextASGIMiddleware) (request : EdgeRequest)

/-- The token verifies, its claims give a context, and no header asks for another tenant. -/
structure Admits (context : TenantContext) : Prop where
  identity : m.identity request = .ok context
  requested : RequestsOnly request context.tenantId

/-- There is no valid token, or its claims are no identity, apart from the tenant. -/
def AuthenticationFails : Prop :=
  ∃ message correlationId, m.identity request = .error (.unauthorized message correlationId)

/-- The boundary of tenants, for one request. -/
structure KeepsTenantBoundary (app : ASGIApp) (current : Option TenantContext) : Prop where
  admitted : ∀ context, m.Admits request context →
    (m.call request app current).effects = [.calledApp (some context)] ∧
      (m.call request app current).outcome =
        if (app (some context)).1 = true then .returned else .appRaised
  unauthenticated : m.AuthenticationFails request →
    (∃ body, (m.call request app current).effects = [.responded 401 body]) ∧
      (m.call request app current).outcome = .returned
  denied : ¬ m.AuthenticationFails request → (¬ ∃ context, m.Admits request context) →
    (∃ (events : List TenantAuditEvent) (body : JSONValue),
      (m.call request app current).effects =
        events.map EdgeEffect.recorded ++ [.responded 403 body] ∧
      events.length = if m.auditSink = true then 1 else 0) ∧
      (m.call request app current).outcome = .returned
  restored : (m.call request app current).current = current

/-- Where the last `X-Tenant-Id` is the tenant of the token, the earlier ones are it too. -/
def CopiesAgree : Prop :=
  ∀ context, m.identity request = .ok context →
    m.header request tenantIdHeader = some context.tenantId →
    RequestsOnly request context.tenantId

/-- The refusal carries the correlation id: there is no token, or the tenant is denied. -/
inductive CarriesCorrelationId : Prop where
  | missing (h : m.header request "authorization" = none)
  | claims (message : String) (correlationId : Option String)
      (h : m.identity request = .error (.tenantIsolation message correlationId))
  | requested (context : TenantContext) (tenantId : String)
      (h : m.identity request = .ok context)
      (hrequested : m.header request tenantIdHeader = some tenantId)
      (hne : tenantId ≠ context.tenantId)

/-- A correlation id that the refusal carries fits into the error response. -/
def CorrelationIdFits : Prop :=
  m.CarriesCorrelationId request → ∀ id, m.header request correlationIdHeader = some id →
    tokenPattern (Text.trim id) = true

end Boundary

/-! ## Refusals -/

section Refusals

/-- An `UnauthorizedError` without a correlation id, and with a message. -/
def Unadorned (e : SharedException) : Prop :=
  ∀ message correlationId, e = .unauthorized message correlationId →
    correlationId = none ∧ Text.trim message ≠ ""

theorem unadorned {message : String} (h : Text.trim message ≠ "") :
    Unadorned (.unauthorized message none) := by
  rintro _ _ ⟨⟩
  exact ⟨rfl, h⟩

theorem unadorned_valueError (message : String) : Unadorned (.valueError message) := by
  rintro _ _ ⟨⟩

variable {codec : SegmentCodec} {claims : Claims} {p : SharedException → Prop}

/-- What `decode_hs256_jwt` can raise. -/
structure CoversDecoding (p : SharedException → Prop) : Prop where
  unauthorized : ∀ {message : String}, Text.trim message ≠ "" → p (.unauthorized message none)
  valueError : ∀ message, p (.valueError message)
  overflowError : ∀ message, p (.overflowError message)

theorem coversDecoding_unadorned : CoversDecoding Unadorned :=
  ⟨unadorned, unadorned_valueError, fun _ => by rintro _ _ ⟨⟩⟩

theorem decodeJsonSegment_failsOnly (hp : CoversDecoding p) (segment : String) :
    FailsOnly p (decodeJsonSegment codec segment) := by
  unfold decodeJsonSegment
  split
  · exact .error (hp.unauthorized (by decide))
  · exact .error (hp.valueError _)
  · exact .ok _
  · exact .error (hp.unauthorized (by decide))

theorem decodeSignature_failsOnly (hp : CoversDecoding p) (segment : String) :
    FailsOnly p (decodeSignature codec segment) := by
  unfold decodeSignature
  split
  · exact .error (hp.unauthorized (by decide))
  · exact .error (hp.valueError _)
  · exact .ok _

theorem timeClaim_failsOnly (hp : CoversDecoding p) {name : String}
    (h : Text.trim ("JWT claim " ++ name ++ " должен быть числом") ≠ "") :
    FailsOnly p (timeClaim claims name) := by
  unfold timeClaim
  split
  · exact .ok _
  · exact .ok _
  · split
    · exact .error (hp.unauthorized h)
    · rename_i number hnumber
      unfold numericClaim at hnumber
      split at hnumber
      · split at hnumber
        · cases hnumber
          exact .ok _
        · cases hnumber
          exact .error (hp.overflowError _)
      · cases hnumber
        exact .ok _
      · cases hnumber

theorem decodeHs256Jwt_failsOnly (hp : CoversDecoding p) (token : String) (secret : List ℕ)
    (expectedIssuer expectedAudience : Option String) (now : ℚ) :
    FailsOnly p (decodeHs256Jwt codec token secret expectedIssuer expectedAudience now) := by
  unfold decodeHs256Jwt
  split
  · refine .bind (decodeJsonSegment_failsOnly hp _) fun header => ?_
    refine .bind (decodeJsonSegment_failsOnly hp _) fun claims => ?_
    refine .bind (.refuseIf (hp.unauthorized (by decide))) fun _ => ?_
    refine .bind ?_ fun expectedSignature => ?_
    · unfold signHs256
      split
      · exact .ok _
      · exact .error (hp.valueError _)
    refine .bind (decodeSignature_failsOnly hp _) fun actualSignature => ?_
    refine .bind (.refuseIf (hp.unauthorized (by decide))) fun _ => ?_
    refine .bind ?_ fun _ => .ok _
    unfold validateRegisteredClaims
    refine .bind (timeClaim_failsOnly hp (by decide)) fun expiresAt => ?_
    refine .bind (.refuseIf (hp.unauthorized (by decide))) fun _ => ?_
    refine .bind (timeClaim_failsOnly hp (by decide)) fun notBefore => ?_
    refine .bind (.refuseIf (hp.unauthorized (by decide))) fun _ => ?_
    refine .bind (.refuseIf (hp.unauthorized (by decide))) fun _ => ?_
    exact .refuseIf (hp.unauthorized (by decide))
  · exact .error (hp.unauthorized (by decide))

/-- Why claims are refused: for their tenant, or as no identity. -/
def RefusesClaims (correlationId : Option String) (e : SharedException) : Prop :=
  e = .tenantIsolation "Tenant context отсутствует или имеет недопустимый формат"
      correlationId ∨
    ∃ message, Text.trim message ≠ "" ∧ e = .unauthorized message none

theorem tenantContextFromClaims_failsOnly {correlationId : Option String} :
    FailsOnly (RefusesClaims correlationId) (tenantContextFromClaims claims correlationId) := by
  have hroles : FailsOnly (RefusesClaims correlationId) (rolesFromClaims claims) := by
    unfold rolesFromClaims
    split
    · split
      · exact .ok _
      · exact .ok _
    · exact .ok _
    · dsimp only
      split
      · exact .ok _
      · exact .error (.inr ⟨_, by decide, rfl⟩)
    · exact .error (.inr ⟨_, by decide, rfl⟩)
  unfold tenantContextFromClaims
  refine .bind ?_ fun tenantId => ?_
  · unfold validatedOptionalTenantId
    split
    · exact .error (.inl rfl)
    · unfold validatedTenantId
      split
      · exact .ok _
      · exact .error (.inl rfl)
  refine .bind ?_ fun subject => .bind hroles fun roles => .ok _
  unfold optionalStringClaim
  split
  · exact .ok _
  · exact .ok _
  · exact .ok _
  · exact .error (.inr ⟨_, by decide, rfl⟩)

theorem tenantContextFromClaims_eq_ok {correlationId : Option String} {context : TenantContext}
    (h : tenantContextFromClaims claims correlationId = .ok context) :
    tenantIdPattern context.tenantId = true ∧ context.correlationId = correlationId := by
  unfold tenantContextFromClaims at h
  simp only [bind_eq_ok_iff] at h
  obtain ⟨tenantId, htenant, subject, _, roles, _, heq⟩ := h
  cases heq
  refine ⟨?_, rfl⟩
  unfold validatedOptionalTenantId at htenant
  split at htenant
  · cases htenant
  · unfold validatedTenantId at htenant
    split at htenant
    · rename_i hpattern
      cases htenant
      exact hpattern
    · cases htenant

end Refusals

/-! ## The identity of a request -/

section Identity

variable {m : TenantContextASGIMiddleware} {request : EdgeRequest}

/-- Why a request has no identity. -/
inductive NoIdentity (m : TenantContextASGIMiddleware) (request : EdgeRequest) :
    SharedException → Prop
  | missing (h : m.header request "authorization" = none) :
      NoIdentity m request (.unauthorized "Нет валидного JWT или service credentials"
        (m.header request correlationIdHeader))
  | invalid (message : String) (hpresent : m.header request "authorization" ≠ none)
      (h : Text.trim message ≠ "") : NoIdentity m request (.unauthorized message none)
  | claims : NoIdentity m request
      (.tenantIsolation "Tenant context отсутствует или имеет недопустимый формат"
        (m.header request correlationIdHeader))

/-- INTERNAL: where `decode_hs256_jwt` returns or refuses, so does the whole check. -/
theorem identity_error (hdecode : m.DecodesOrRefuses request) {e : SharedException}
    (h : m.identity request = .error e) : NoIdentity m request e := by
  unfold identity tenantContextFromAuthorizationHeader at h
  cases hbearer : extractBearerToken m.py (m.header request "authorization")
      (m.header request correlationIdHeader) with
  | error e' =>
      rw [hbearer] at h
      cases h
      unfold extractBearerToken at hbearer
      split at hbearer
      · rename_i hheader
        cases hbearer
        exact .missing hheader
      · rename_i value hheader
        dsimp only at hbearer
        split at hbearer
        · cases hbearer
          refine .invalid _ ?_ (by decide)
          rw [hheader]
          exact Option.some_ne_none value
        · cases hbearer
  | ok token =>
      have hpresent : m.header request "authorization" ≠ none := by
        intro hnone
        rw [hnone] at hbearer
        cases hbearer
      rw [hbearer] at h
      simp only [bind, Except.bind] at h
      cases hclaims : decodeHs256Jwt m.codec token m.jwtSecret m.expectedIssuer
          m.expectedAudience request.now with
      | error e' =>
          rw [hclaims] at h
          cases h
          obtain ⟨message, correlationId, rfl⟩ := hdecode token hbearer e hclaims
          obtain ⟨rfl, hmessage⟩ :=
            decodeHs256Jwt_failsOnly coversDecoding_unadorned _ _ _ _ _ _ hclaims message
              correlationId rfl
          exact .invalid message hpresent hmessage
      | ok claims =>
          rw [hclaims] at h
          rcases tenantContextFromClaims_failsOnly e h with rfl | ⟨message, hmessage, rfl⟩
          · exact .claims
          · exact .invalid message hpresent hmessage

theorem identity_of_claims {token : String} {claims : Claims} {context : TenantContext}
    (htoken : extractBearerToken m.py (m.header request "authorization")
      (m.header request correlationIdHeader) = .ok token)
    (hclaims : decodeHs256Jwt m.codec token m.jwtSecret m.expectedIssuer m.expectedAudience
      request.now = .ok claims)
    (hcontext : tenantContextFromClaims claims (m.header request correlationIdHeader) =
      .ok context) : m.identity request = .ok context := by
  unfold identity tenantContextFromAuthorizationHeader
  simp only [htoken, hclaims, hcontext, bind, Except.bind]

theorem identity_eq_ok {context : TenantContext} (h : m.identity request = .ok context) :
    tenantIdPattern context.tenantId = true ∧
      context.correlationId = m.header request correlationIdHeader := by
  unfold identity tenantContextFromAuthorizationHeader at h
  simp only [bind_eq_ok_iff] at h
  obtain ⟨token, _, claims, _, hcontext⟩ := h
  exact tenantContextFromClaims_eq_ok hcontext

/-- INTERNAL: `bytes.lower()` changes nothing that `str.lower()` does not change. -/
theorem lower_decodeLatin1_lower (py : Stdlib) (bytes : Bytes) :
    py.lower (Bytes.decodeLatin1 (Bytes.lower bytes)) = py.lower (Bytes.decodeLatin1 bytes) := by
  rw [lower_decodeLatin1, lower_decodeLatin1, Bytes.lower, List.map_map]
  congr 1
  apply List.map_congr_left
  intro b _
  have hb := b.toNat_lt
  have h32 : (32 : UInt8).toNat = 32 := rfl
  rw [Function.comp_apply, ← Char.toNat_inj, Text.toNat_lowerLatin1, Text.toNat_lowerLatin1,
    Bytes.toNat_latin1Char, Bytes.toNat_latin1Char]
  by_cases hupper : 65 ≤ b.toNat ∧ b.toNat ≤ 90
  · have hlower : (b + 32).toNat = b.toNat + 32 := by
      rw [UInt8.toNat_add]
      omega
    rw [if_pos hupper, hlower, if_neg (by omega), if_pos (.inl hupper)]
  · rw [if_neg hupper]

theorem namesTenant_iff (py : Stdlib) (e : Bytes × Bytes) :
    NamesTenant e ↔ py.lower (Bytes.decodeLatin1 e.1) = tenantIdHeader := by
  have hname : IsHeaderName tenantIdHeader := by decide
  constructor
  · intro h
    unfold NamesTenant at h
    rw [← lower_decodeLatin1_lower, h]
    exact lower_decodeLatin1_encodeUtf8 py hname
  · intro h
    exact lower_eq_encodeUtf8 hname h

/-- INTERNAL: the last `X-Tenant-Id` is one of them. -/
theorem eq_of_requestsOnly {tenantId value : String} (h : RequestsOnly request tenantId)
    (hheader : m.header request tenantIdHeader = some value) : value = tenantId := by
  unfold header at hheader
  rw [get?_headersFromScope, lastValue, Option.map_map, Option.map_eq_some_iff] at hheader
  obtain ⟨e, he, rfl⟩ := hheader
  have hmem := List.mem_reverse.mp (List.mem_of_find?_eq_some he)
  have hname := List.find?_some he
  rw [decide_eq_true_eq] at hname
  exact h e hmem ((namesTenant_iff m.py e).mpr hname)

theorem requestsOnly_of_none {tenantId : String}
    (hheader : m.header request tenantIdHeader = none) : RequestsOnly request tenantId := by
  unfold header at hheader
  rw [get?_headersFromScope, lastValue, Option.map_map, Option.map_eq_none_iff,
    List.find?_eq_none] at hheader
  intro e he hname
  have hlast := hheader e (List.mem_reverse.mpr he)
  rw [decide_eq_true_eq] at hlast
  exact absurd ((namesTenant_iff m.py e).mp hname) hlast

end Identity

/-! ## Calls -/

section Calls

variable {m : TenantContextASGIMiddleware} {request : EdgeRequest} {app : ASGIApp}
  {current : Option TenantContext}

/-- A correlation id, if there is one, fits into the error response. -/
def Fits (correlationId : Option String) : Prop :=
  ∀ id, correlationId = some id → tokenPattern (Text.trim id) = true

/-- INTERNAL: an error is answered, unless its correlation id does not fit. -/
theorem sendError_cases (status : ℕ) {code message : String} (correlationId : Option String)
    (hcode : (hasLength 2 64 (Text.trim code) && wordPattern (Text.trim code).toList) = true)
    (hmessage : Text.trim message ≠ "") :
    (Fits correlationId ∧
        ∃ body, sendError status code message correlationId =
          ([.responded status body], .returned)) ∨
      (¬ Fits correlationId ∧
        ∃ e, sendError status code message correlationId = ([], .raised e)) := by
  let fields : ErrorBodyFields :=
    ⟨Text.trim code, Text.trim message, [], correlationId.map Text.trim⟩
  have hfits : (∀ c ∈ errorBodyChecks fields, c.2 = true) ↔ Fits correlationId := by
    have hlength : hasLength 1 (Text.trim message).toList.length (Text.trim message) = true := by
      have hpos : (Text.trim message).toList.length ≠ 0 := fun hzero =>
        hmessage (String.toList_eq_nil_iff.mp (List.length_eq_zero_iff.mp hzero))
      unfold hasLength
      rw [Bool.and_eq_true, decide_eq_true_eq, decide_eq_true_eq]
      exact ⟨Nat.one_le_iff_ne_zero.mpr hpos, le_refl _⟩
    simp only [errorBodyChecks, fields, List.mem_cons, List.not_mem_nil, or_false,
      forall_eq_or_imp, forall_eq, hcode, hlength, true_and]
    cases correlationId with
    | none => simp [Fits, optionalField]
    | some id => simp [Fits, optionalField]
  by_cases hfit : Fits correlationId
  · left
    refine ⟨hfit, ?_⟩
    have hmake := Validated.make_of_valid "ErrorBody" fields (hfits.mpr hfit)
    unfold sendError errorResponseBody
    rw [hmake]
    exact ⟨_, rfl⟩
  · right
    refine ⟨hfit, ?_⟩
    unfold sendError errorResponseBody
    cases hmake : Validated.make "ErrorBody" errorBodyChecks fields with
    | error e =>
        exact ⟨e, rfl⟩
    | ok body =>
        exact absurd (hfits.mp ((Validated.exists_make_eq_ok_iff "ErrorBody" fields).mp
          ⟨body, hmake⟩)) hfit

/-- The course of a call. -/
inductive Course (m : TenantContextASGIMiddleware) (request : EdgeRequest) (app : ASGIApp)
    (current : Option TenantContext) : EdgeRun → Prop
  | admitted {context : TenantContext} (hidentity : m.identity request = .ok context)
      (hrequested : ∀ value, m.header request tenantIdHeader = some value →
        value = context.tenantId) :
      Course m request app current ⟨[.calledApp (some context)],
        if (app (some context)).1 = true then .returned else .appRaised, current⟩
  | unauthenticated {message : String} {correlationId : Option String}
      {sent : List EdgeEffect} {outcome : EdgeOutcome}
      (hidentity : m.identity request = .error (.unauthorized message correlationId))
      (hmessage : Text.trim message ≠ "")
      (hid : (correlationId = none ∧ m.header request "authorization" ≠ none) ∨
        (correlationId = m.header request correlationIdHeader ∧
          m.header request "authorization" = none))
      (hsent : sendError 401 unauthorizedCode message correlationId = (sent, outcome)) :
      Course m request app current ⟨sent, outcome, current⟩
  | denied {events : List TenantAuditEvent} {message : String} {sent : List EdgeEffect}
      {outcome : EdgeOutcome} (hcarries : m.CarriesCorrelationId request)
      (hidentity : ¬ m.AuthenticationFails request)
      (hadmits : ¬ ∃ context, m.Admits request context)
      (hevents : events.length = if m.auditSink = true then 1 else 0)
      (hmessage : Text.trim message ≠ "")
      (hsent : sendError 403 tenantIsolationCode message
        (m.header request correlationIdHeader) = (sent, outcome)) :
      Course m request app current ⟨events.map .recorded ++ sent, outcome, current⟩

theorem length_auditMissingDenial (message : String) (errorCorrelationId
    correlationId : Option String) (audited : Bool) :
    (m.auditMissingDenial message errorCorrelationId correlationId audited).length =
      if audited = true ∨ m.auditSink = false then 0 else 1 := by
  unfold auditMissingDenial
  split
  · rfl
  · rfl

/-- INTERNAL: what a request without an identity is answered. -/
theorem call_of_unauthorized {message : String} {correlationId : Option String} {audited : Bool}
    {events : List TenantAuditEvent}
    (h : m.requestContext (headersFromScope m.py request.headers) request.now =
      (.error ⟨.unauthorized message correlationId, audited⟩, events)) :
    m.call request app current =
      ⟨events.map .recorded ++ (sendError 401 unauthorizedCode message correlationId).1,
        (sendError 401 unauthorizedCode message correlationId).2, current⟩ := by
  unfold call
  simp only [h]

/-- INTERNAL: what a request for another tenant is answered. -/
theorem call_of_isolation {message : String} {correlationId : Option String} {audited : Bool}
    {events : List TenantAuditEvent}
    (h : m.requestContext (headersFromScope m.py request.headers) request.now =
      (.error ⟨.tenantIsolation message correlationId, audited⟩, events)) :
    m.call request app current =
      ⟨(events ++ m.auditMissingDenial message correlationId
          (m.header request correlationIdHeader) audited).map .recorded ++
          (sendError 403 tenantIsolationCode message correlationId).1,
        (sendError 403 tenantIsolationCode message correlationId).2, current⟩ := by
  unfold call
  simp only [h]
  rfl

/-- INTERNAL: by cases on the identity of the request and on the last `X-Tenant-Id`. -/
theorem call_course (hdecode : m.DecodesOrRefuses request) :
    Course m request app current (m.call request app current) := by
  cases hidentity : m.identity request with
  | error e =>
      have hcontext : m.requestContext (headersFromScope m.py request.headers) request.now =
          (.error ⟨e, false⟩, []) := by
        unfold requestContext
        unfold identity header at hidentity
        simp only [hidentity]
      cases identity_error hdecode hidentity with
      | missing hmissing =>
          rw [call_of_unauthorized hcontext]
          exact .unauthenticated hidentity (by decide) (.inr ⟨rfl, hmissing⟩)
            Prod.mk.eta.symm
      | invalid message hpresent hmessage =>
          rw [call_of_unauthorized hcontext]
          exact .unauthenticated hidentity hmessage (.inl ⟨rfl, hpresent⟩) Prod.mk.eta.symm
      | claims =>
          rw [call_of_isolation hcontext]
          refine .denied (.claims _ _ hidentity) ?_ ?_ ?_ (by decide) Prod.mk.eta.symm
          · rintro ⟨message, correlationId, h⟩
            rw [hidentity] at h
            cases h
          · rintro ⟨context, h⟩
            have := h.identity
            rw [hidentity] at this
            cases this
          · rw [List.nil_append, length_auditMissingDenial]
            cases m.auditSink <;> rfl
  | ok context =>
      obtain ⟨htenant, hcorrelation⟩ := identity_eq_ok hidentity
      have hfails : ¬ m.AuthenticationFails request := by
        rintro ⟨message, correlationId, h⟩
        rw [hidentity] at h
        cases h
      have hcontext : ∀ result events, assertRequestedTenantAudited m.py
          (m.header request tenantIdHeader) context m.auditSink "http_header" =
            (result, events) →
          m.requestContext (headersFromScope m.py request.headers) request.now =
            (result.map fun _ => context, events) := by
        intro result events hassert
        unfold requestContext
        unfold identity header at hidentity
        unfold header at hassert
        simp only [hidentity, hassert]
        cases result with
        | error raised => rfl
        | ok u => rfl
      cases hheader : m.header request tenantIdHeader with
      | none =>
          rw [hheader] at hcontext
          unfold call
          simp only [hcontext (.ok ()) [] rfl]
          refine .admitted hidentity fun value hvalue => ?_
          rw [hheader] at hvalue
          cases hvalue
      | some value =>
          rw [hheader] at hcontext
          by_cases hsame : value = context.tenantId
          · have hassert : assertRequestedTenantAudited m.py (some value) context m.auditSink
                "http_header" = (.ok (), []) := by
              unfold assertRequestedTenantAudited validatedTenantId
              simp only [hsame, if_pos htenant, ne_eq, not_true_eq_false, if_false]
            unfold call
            simp only [hcontext _ _ hassert]
            refine .admitted hidentity fun value' hvalue => ?_
            rw [hheader] at hvalue
            cases hvalue
            exact hsame
          · have hadmits : ¬ ∃ context, m.Admits request context := by
              rintro ⟨context', h⟩
              have hother := h.identity
              rw [hidentity] at hother
              cases hother
              exact hsame (eq_of_requestsOnly h.requested hheader)
            have hcarries : m.CarriesCorrelationId request :=
              .requested context value hidentity hheader hsame
            by_cases hpattern : tenantIdPattern value = true
            · have hassert : assertRequestedTenantAudited m.py (some value) context m.auditSink
                  "http_header" =
                    (.error (denyTenantAccess m.py context (some value) "http_header" m.auditSink
                      "requested_tenant_mismatch").1,
                    (denyTenantAccess m.py context (some value) "http_header" m.auditSink
                      "requested_tenant_mismatch").2) := by
                unfold assertRequestedTenantAudited validatedTenantId
                simp only [if_pos hpattern, ne_eq, hsame, not_false_eq_true, if_true]
              have hdenied := hcontext _ _ hassert
              simp only [denyTenantAccess, Except.map, hcorrelation] at hdenied
              rw [call_of_isolation hdenied]
              refine .denied hcarries hfails hadmits ?_ (by decide) Prod.mk.eta.symm
              rw [List.length_append, length_auditMissingDenial]
              cases m.auditSink <;> rfl
            · have hassert : assertRequestedTenantAudited m.py (some value) context m.auditSink
                  "http_header" = (.error ⟨.tenantIsolation
                    "Tenant context отсутствует или имеет недопустимый формат"
                    context.correlationId, false⟩, []) := by
                unfold assertRequestedTenantAudited validatedTenantId
                simp only [if_neg hpattern]
              have hdenied := hcontext _ _ hassert
              simp only [Except.map, hcorrelation] at hdenied
              rw [call_of_isolation hdenied]
              refine .denied hcarries hfails hadmits ?_ (by decide) Prod.mk.eta.symm
              rw [List.nil_append, length_auditMissingDenial]
              cases m.auditSink <;> rfl

/-- INTERNAL: where the identity is known, a request is admitted exactly if all its headers agree
with it. -/
theorem admits_iff {context context' : TenantContext} (h : m.identity request = .ok context) :
    m.Admits request context' ↔ context' = context ∧ RequestsOnly request context.tenantId := by
  constructor
  · rintro ⟨hidentity, hrequested⟩
    rw [h] at hidentity
    cases hidentity
    exact ⟨rfl, hrequested⟩
  · rintro ⟨rfl, hrequested⟩
    exact ⟨h, hrequested⟩

/-- INTERNAL: a request that is not refused carries no correlation id into an error. -/
theorem not_carries_of_agrees {context : TenantContext}
    (hidentity : m.identity request = .ok context)
    (hrequested : ∀ value, m.header request tenantIdHeader = some value →
      value = context.tenantId) : ¬ m.CarriesCorrelationId request := by
  intro hcarries
  cases hcarries with
  | missing hmissing =>
      unfold identity at hidentity
      rw [hmissing] at hidentity
      cases hidentity
  | claims message correlationId h =>
      rw [hidentity] at h
      cases h
  | requested context' value h hheader hne =>
      rw [hidentity] at h
      cases h
      exact hne (hrequested value hheader)

/-- INTERNAL: a call that reaches the app is right exactly if the earlier copies agree. -/
theorem boundary_of_admitted {context : TenantContext}
    (hidentity : m.identity request = .ok context)
    (hrequested : ∀ value, m.header request tenantIdHeader = some value →
      value = context.tenantId)
    (hrun : m.call request app current = ⟨[.calledApp (some context)],
      if (app (some context)).1 = true then .returned else .appRaised, current⟩) :
    m.KeepsTenantBoundary request app current ↔
      m.CopiesAgree request ∧ m.CorrelationIdFits request := by
  have hfails : ¬ m.AuthenticationFails request := by
    rintro ⟨message, correlationId, h⟩
    rw [hidentity] at h
    cases h
  constructor
  · intro h
    have honly : RequestsOnly request context.tenantId := by
      by_contra hnot
      have hadmits : ¬ ∃ context, m.Admits request context := by
        rintro ⟨context', hadmits⟩
        exact hnot ((admits_iff hidentity).mp hadmits).2
      obtain ⟨⟨events, body, heffects, _⟩, _⟩ := h.denied hfails hadmits
      rw [hrun] at heffects
      have hlast := congrArg List.getLast? heffects
      rw [List.getLast?_append] at hlast
      cases hlast
    constructor
    · intro context' hidentity' _
      rw [hidentity] at hidentity'
      cases hidentity'
      exact honly
    · intro hcarries
      exact absurd hcarries (not_carries_of_agrees hidentity hrequested)
  · rintro ⟨hcopies, _⟩
    have honly : RequestsOnly request context.tenantId := by
      cases hheader : m.header request tenantIdHeader with
      | none => exact requestsOnly_of_none hheader
      | some value =>
          have hsame := hrequested value hheader
          rw [hsame] at hheader
          exact hcopies context hidentity hheader
    refine ⟨?_, fun h => absurd h hfails, fun _ h => ?_, by rw [hrun]⟩
    · intro context' hadmits
      obtain ⟨rfl, _⟩ := (admits_iff hidentity).mp hadmits
      rw [hrun]
      exact ⟨rfl, rfl⟩
    · exact absurd ⟨context, (admits_iff hidentity).mpr ⟨rfl, honly⟩⟩ h

/-- For every request on which `decode_hs256_jwt` returns or refuses, the boundary is kept exactly
if no earlier `X-Tenant-Id` differs from a last one that is the tenant of the token, and the
correlation id, where a refusal carries it, fits into the error response. -/
theorem keepsTenantBoundary_iff (hdecode : m.DecodesOrRefuses request) (app : ASGIApp)
    (current : Option TenantContext) : m.KeepsTenantBoundary request app current ↔
      m.CopiesAgree request ∧ m.CorrelationIdFits request := by
  have hcourse := @call_course m request app current hdecode
  generalize hrun : m.call request app current = run at hcourse
  cases hcourse with
  | admitted hidentity hrequested => exact boundary_of_admitted hidentity hrequested hrun
  | @unauthenticated message correlationId sent outcome hidentity hmessage hid hsent =>
      have hcopies : m.CopiesAgree request := by
        intro context h
        rw [hidentity] at h
        cases h
      have hfits : m.CorrelationIdFits request ↔ Fits correlationId := by
        rcases hid with ⟨rfl, hpresent⟩ | ⟨rfl, hmissing⟩
        · refine iff_of_true (fun hcarries => ?_) (by rintro _ ⟨⟩)
          cases hcarries with
          | missing hmissing => exact absurd hmissing hpresent
          | claims message' correlationId h =>
              rw [hidentity] at h
              cases h
          | requested context value h _ _ =>
              rw [hidentity] at h
              cases h
        · exact ⟨fun h => h (.missing hmissing), fun h _ => h⟩
      rw [hfits]
      rcases @sendError_cases 401 unauthorizedCode message correlationId (by decide)
        hmessage with
        ⟨hfit, body, hbody⟩ | ⟨hfit, e, hraised⟩
      · refine iff_of_true ⟨?_, ?_, ?_, by rw [hrun]⟩ ⟨hcopies, hfit⟩
        · intro context hadmits
          have h := hadmits.identity
          rw [hidentity] at h
          cases h
        · intro _
          rw [hbody] at hsent
          cases hsent
          rw [hrun]
          exact ⟨⟨body, rfl⟩, rfl⟩
        · intro hfails
          exact absurd ⟨message, correlationId, hidentity⟩ hfails
      · refine iff_of_false ?_ fun h => hfit h.2
        intro h
        obtain ⟨_, houtcome⟩ := h.unauthenticated ⟨message, correlationId, hidentity⟩
        rw [hraised] at hsent
        cases hsent
        rw [hrun] at houtcome
        cases houtcome
  | @denied events message sent outcome hcarries hidentity hadmits hevents hmessage hsent =>
      have hfits : m.CorrelationIdFits request ↔ Fits (m.header request correlationIdHeader) :=
        ⟨fun h => h hcarries, fun h _ => h⟩
      have hcopies : m.CopiesAgree request := by
        intro context h hheader
        refine absurd hcarries (not_carries_of_agrees h fun value hvalue => ?_)
        rw [hheader] at hvalue
        exact (Option.some.inj hvalue).symm
      rw [hfits]
      rcases @sendError_cases 403 tenantIsolationCode message
        (m.header request correlationIdHeader) (by decide) hmessage with
        ⟨hfit, body, hbody⟩ | ⟨hfit, e, hraised⟩
      · refine iff_of_true ⟨?_, ?_, ?_, by rw [hrun]⟩ ⟨hcopies, hfit⟩
        · intro context h
          exact absurd ⟨context, h⟩ hadmits
        · intro h
          exact absurd h hidentity
        · intro _ _
          rw [hbody] at hsent
          cases hsent
          rw [hrun]
          exact ⟨⟨events, body, rfl, hevents⟩, rfl⟩
      · refine iff_of_false ?_ fun h => hfit h.2
        intro h
        obtain ⟨_, houtcome⟩ := h.denied hidentity hadmits
        rw [hraised] at hsent
        cases hsent
        rw [hrun] at houtcome
        cases houtcome

end Calls

/-! ## A token of one tenant -/

namespace BoundarySample

def middleware : TenantContextASGIMiddleware where
  py := Reference.stdlib
  codec := Reference.segmentCodec
  jwtSecret := Reference.utf8 "jwt-secret"
  expectedIssuer := none
  expectedAudience := none
  auditSink := true

/-- A token without an expiry. -/
def token : String :=
  encodeHs256Jwt Reference.stdlib [("tenant_id", .str "media-center")]
    (Reference.utf8 "jwt-secret")

/-- The token, and a value of `X-Tenant-Id` for each of some tenants. -/
def request (tenants : List String) : EdgeRequest where
  headers := (Bytes.encodeUtf8 "authorization", Bytes.encodeUtf8 ("Bearer " ++ token)) ::
    tenants.map fun tenant => (Bytes.encodeUtf8 "X-Tenant-Id", Bytes.encodeUtf8 tenant)
  now := 1000

def context : TenantContext := ⟨"media-center", none, [], none⟩

theorem header_authorization (tenants : List String) :
    middleware.header (request tenants) "authorization" = some ("Bearer " ++ token) := by
  have hrest : lastValue Reference.stdlib "authorization" (tenants.map fun tenant =>
      (Bytes.encodeUtf8 "X-Tenant-Id", Bytes.encodeUtf8 tenant)) = none := by
    apply lastValue_eq_none
    intro e he
    obtain ⟨tenant, _, rfl⟩ := List.mem_map.mp he
    show Reference.stdlib.lower (Bytes.decodeLatin1 (Bytes.encodeUtf8 "X-Tenant-Id")) ≠ _
    decide
  have hascii : Bytes.IsAscii ("Bearer " ++ token) := by
    intro c hc
    rw [String.toList_append, List.mem_append] at hc
    rcases hc with hc | hc
    · revert c
      decide
    · have hvisible := visible_encodeHs256Jwt _ _ c hc
      unfold Text.Visible at hvisible
      omega
  unfold header
  rw [get?_headersFromScope]
  show (lastValue Reference.stdlib "authorization" (_ :: _)).map _ = _
  rw [lastValue_cons, hrest, lastValue_singleton _ (by decide), Option.none_or, if_pos rfl,
    Option.map_some, Bytes.decodeLatin1_encodeUtf8 hascii]

theorem header_tenantId {tenants : List String}
    (hascii : ∀ tenant ∈ tenants, Bytes.IsAscii tenant) :
    middleware.header (request tenants) tenantIdHeader = tenants.getLast? := by
  have hname : Reference.stdlib.lower (Bytes.decodeLatin1 (Bytes.encodeUtf8 "X-Tenant-Id")) =
      tenantIdHeader := by decide
  have hlast : lastValue Reference.stdlib tenantIdHeader (tenants.map fun tenant =>
      (Bytes.encodeUtf8 "X-Tenant-Id", Bytes.encodeUtf8 tenant)) =
        tenants.getLast?.map Bytes.encodeUtf8 := by
    unfold lastValue
    rw [← List.map_reverse, List.find?_map]
    have hfirst : ∀ l : List String, l.find? (fun _ => true) = l.head? := by
      intro l
      cases l with
      | nil => rfl
      | cons tenant l => rfl
    simp only [Function.comp_def, hname, decide_true, hfirst, List.head?_reverse,
      Option.map_map]
  unfold header
  rw [get?_headersFromScope]
  show (lastValue Reference.stdlib tenantIdHeader (_ :: _)).map _ = _
  rw [lastValue_cons, hlast, lastValue_singleton _ (by decide), if_neg (by decide),
    Option.or_none, Option.map_map]
  cases hget : tenants.getLast? with
  | none => rfl
  | some tenant =>
      rw [Option.map_some, Function.comp_apply,
        Bytes.decodeLatin1_encodeUtf8 (hascii tenant (List.mem_of_getLast? hget))]

theorem header_correlationId (tenants : List String) :
    middleware.header (request tenants) correlationIdHeader = none := by
  have hother : lastValue Reference.stdlib correlationIdHeader (request tenants).headers =
      none := by
    apply lastValue_eq_none
    intro e he
    simp only [request, List.mem_cons, List.mem_map] at he
    rcases he with rfl | ⟨tenant, _, rfl⟩
    · show Reference.stdlib.lower (Bytes.decodeLatin1 (Bytes.encodeUtf8 "authorization")) ≠ _
      decide
    · show Reference.stdlib.lower (Bytes.decodeLatin1 (Bytes.encodeUtf8 "X-Tenant-Id")) ≠ _
      decide
  unfold header
  rw [get?_headersFromScope]
  show (lastValue Reference.stdlib correlationIdHeader (request tenants).headers).map _ = none
  rw [hother, Option.map_none]

theorem bearer (tenants : List String) : extractBearerToken middleware.py
    (middleware.header (request tenants) "authorization")
    (middleware.header (request tenants) correlationIdHeader) = .ok token := by
  rw [header_authorization]
  exact extractBearerToken_bearer (visible_encodeHs256Jwt _ _) (encodeHs256Jwt_ne_empty _ _) _

theorem decoded : decodeHs256Jwt middleware.codec token middleware.jwtSecret none none 1000 =
    .ok (Dict.ofList [("tenant_id", .str "media-center")]) := by
  unfold token
  refine (decodeHs256Jwt_encode (Reference.lawful_segmentCodec _) (List.pairwise_singleton _ _)
    (by decide) _ _ _ _).trans ?_
  rfl

theorem decodesOrRefuses (tenants : List String) :
    middleware.DecodesOrRefuses (request tenants) := by
  intro token' htoken e he
  rw [bearer] at htoken
  cases htoken
  rw [show decodeHs256Jwt middleware.codec token middleware.jwtSecret
    middleware.expectedIssuer middleware.expectedAudience (request tenants).now = _ from
    decoded] at he
  cases he

theorem identity_eq (tenants : List String) :
    middleware.identity (request tenants) = .ok context := by
  have hclaims : tenantContextFromClaims (Dict.ofList [("tenant_id", .str "media-center")])
      (middleware.header (request tenants) correlationIdHeader) = .ok context := by
    rw [header_correlationId]
    decide
  exact identity_of_claims (bearer tenants) decoded hclaims

end BoundarySample

open BoundarySample in
/-- A request that names its tenant twice is admitted. -/
theorem keepsTenantBoundary_twice : middleware.KeepsTenantBoundary
    (request ["media-center", "media-center"]) (fun current => (true, current)) none := by
  have hascii : ∀ tenant ∈ ["media-center", "media-center"], Bytes.IsAscii tenant := by decide
  refine (keepsTenantBoundary_iff (decodesOrRefuses _) _ none).mpr ⟨?_, ?_⟩
  · intro context' h _ e he hname
    rw [identity_eq] at h
    cases h
    simp only [request, List.map_cons, List.map_nil, List.mem_cons, List.not_mem_nil,
      or_false] at he
    rcases he with rfl | rfl | rfl
    · exact absurd hname (by unfold NamesTenant; decide)
    · decide
    · decide
  · refine fun hcarries => absurd hcarries (not_carries_of_agrees (identity_eq _) ?_)
    intro value hvalue
    rw [header_tenantId hascii] at hvalue
    cases hvalue
    rfl

open BoundarySample in
/-- A request that names another tenant first reaches the app all the same. -/
theorem tenantBoundary_broken_firstCopy : ¬ ∀ (m : TenantContextASGIMiddleware)
    (request : EdgeRequest) (app : ASGIApp) (current : Option TenantContext),
    m.DecodesOrRefuses request → m.KeepsTenantBoundary request app current := by
  intro hclaim
  have hascii : ∀ tenant ∈ ["other-center", "media-center"], Bytes.IsAscii tenant := by decide
  have hkeeps := hclaim middleware (request ["other-center", "media-center"])
    (fun current => (true, current)) none (decodesOrRefuses _)
  have hfails : ¬ middleware.AuthenticationFails
      (request ["other-center", "media-center"]) := by
    rintro ⟨message, correlationId, h⟩
    rw [identity_eq] at h
    cases h
  have hadmits : ¬ ∃ context, middleware.Admits (request ["other-center", "media-center"])
      context := by
    rintro ⟨context', h⟩
    obtain ⟨rfl, honly⟩ := (admits_iff (identity_eq _)).mp h
    have hfirst := honly (Bytes.encodeUtf8 "X-Tenant-Id", Bytes.encodeUtf8 "other-center")
      (by simp [request]) (by unfold NamesTenant; decide)
    exact absurd hfirst (by decide)
  obtain ⟨⟨events, body, heffects, _⟩, _⟩ := hkeeps.denied hfails hadmits
  have hrequested : ∀ value, middleware.header (request ["other-center", "media-center"])
      tenantIdHeader = some value → value = context.tenantId := by
    intro value hvalue
    rw [header_tenantId hascii] at hvalue
    cases hvalue
    rfl
  have hcourse := @call_course middleware (request ["other-center", "media-center"])
    (fun current => (true, current)) none (decodesOrRefuses _)
  generalize middleware.call (request ["other-center", "media-center"])
    (fun current => (true, current)) none = run at hcourse heffects
  cases hcourse with
  | admitted _ _ =>
      have hlast := congrArg List.getLast? heffects
      rw [List.getLast?_append] at hlast
      cases hlast
  | unauthenticated hidentity _ _ _ =>
      rw [identity_eq] at hidentity
      cases hidentity
  | denied hcarries _ _ _ _ _ =>
      exact not_carries_of_agrees (identity_eq _) hrequested hcarries

end TenantContextASGIMiddleware

end MediaCenter.Shared
