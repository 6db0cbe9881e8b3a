import MediaCenter.Analysis.Shared.RefreshRotation
import MediaCenter.Analysis.Shared.TokenCodec

/-!
# What an access token says

The record of a refresh token carries the identity of the first issue, and every access token of a
chain of refreshes is made from it.  Both verifiers read the same identity back, for as long as the
`float` of the expiry lies ahead.
-/

set_option autoImplicit false

namespace MediaCenter.Shared

open MediaCenter.Library

namespace AuthTokenService

/-- Whom a token is issued to. -/
structure Identity where
  tenantId : String
  subject : String
  roles : List String

def Identity.context (identity : Identity) (correlationId : Option String) : TenantContext :=
  ⟨identity.tenantId, some identity.subject, identity.roles, correlationId⟩

def identityOf (record : RefreshTokenRecord) : Identity :=
  ⟨record.tenantId, record.subject, record.roles⟩

/-- In the run `calls` the pair was returned by `issue_token_pair` for the identity, or by the last
of a chain of refreshes that began there; its access token was issued at `issuedAt`. -/
inductive Descends (service : AuthTokenService) :
    List AuthCall → TokenPair → Identity → ℤ → Prop
  | issued {calls : List AuthCall} {issuedAt : ℤ} {subject tenantId : String}
      {roles : List String} {correlationId : Option String} {tokenPair : TokenPair}
      (hanswer : (service.step (service.tokensAfter calls)
        (.issueTokenPair issuedAt subject tenantId roles correlationId)).1 =
          .ok (some tokenPair)) :
      Descends service
        (calls ++ [.issueTokenPair issuedAt subject tenantId roles correlationId]) tokenPair
        ⟨tenantId, subject, roles⟩ issuedAt
  | refreshed {calls : List AuthCall} {used : TokenPair} {identity : Identity} {usedAt : ℤ}
      {now issuedAt : ℤ} {correlationId : Option String} {tokenPair : TokenPair}
      (hused : Descends service calls used identity usedAt)
      (hanswer : (service.step (service.tokensAfter calls)
        (.refreshTokenPair now issuedAt used.refreshToken correlationId)).1 =
          .ok (some tokenPair)) :
      Descends service
        (calls ++ [.refreshTokenPair now issuedAt used.refreshToken correlationId]) tokenPair
        identity issuedAt
  | later {calls : List AuthCall} {tokenPair : TokenPair} {identity : Identity} {issuedAt : ℤ}
      (h : Descends service calls tokenPair identity issuedAt) (call : AuthCall) :
      Descends service (calls ++ [call]) tokenPair identity issuedAt

/-- `issued_at <= t < issued_at + access_ttl_seconds`, with both integers made a `float`. -/
def InForce (service : AuthTokenService) (issuedAt : ℤ) (t : ℚ) : Prop :=
  ∃ start expiry, Binary64.ofInt issuedAt = some start ∧
    Binary64.ofInt (issuedAt + service.accessTtlSeconds) = some expiry ∧ start ≤ t ∧ t < expiry

/-- What both verifiers make of an access token at the time `t`. -/
structure MeansAt (service : AuthTokenService) (codec : SegmentCodec) (token : String)
    (identity : Identity) (t : ℚ) (correlationId : Option String) (inForce : Prop) : Prop where
  verified : ∀ context, service.verifyAccessToken codec t token correlationId = .ok context ↔
    inForce ∧ context = identity.context correlationId
  extracted : ∀ context, tenantContextFromAuthorizationHeader service.py codec
      (some ("Bearer " ++ token)) service.jwtSecret (some service.issuer)
      (some service.audience) correlationId t = .ok context ↔
    inForce ∧ context = identity.context correlationId

/-! ## The claims of an access token -/

section Claims

/-- The claims that `_issue_access_token` writes. -/
def accessClaims (service : AuthTokenService) (identity : Identity) (issuedAt : ℤ)
    (jti : String) : JSONObject :=
  [("aud", .str service.audience), ("exp", .int (issuedAt + service.accessTtlSeconds)),
    ("iat", .int issuedAt), ("iss", .str service.issuer), ("jti", .str jti),
    ("nbf", .int issuedAt), ("roles", .list (identity.roles.map .str)),
    ("sub", .str identity.subject), ("tenant_id", .str identity.tenantId),
    ("typ", .str "access")]

variable {service : AuthTokenService} {codec : SegmentCodec} {identity : Identity}
  {issuedAt : ℤ} {jti : String} {t : ℚ} {correlationId : Option String}

theorem filterMap_asStr (roles : List String) :
    (roles.map JSONValue.str).filterMap asStr = roles := by
  induction roles with
  | nil => rfl
  | cons role roles ih =>
      rw [List.map_cons, List.filterMap_cons]
      show role :: (roles.map JSONValue.str).filterMap asStr = role :: roles
      rw [ih]

theorem accessClaims_plain : ∀ p ∈ service.accessClaims identity issuedAt jti,
    p.2.isPlain = true := by
  intro p hp
  simp only [accessClaims, List.mem_cons, List.not_mem_nil, or_false] at hp
  rcases hp with rfl | rfl | rfl | rfl | rfl | rfl | rfl | rfl | rfl | rfl
  case inr.inr.inr.inr.inr.inr.inl =>
    show ((identity.roles.map JSONValue.str).all fun item => (asStr item).isSome) = true
    rw [List.all_eq_true]
    intro item hitem
    obtain ⟨role, _, rfl⟩ := List.mem_map.mp hitem
    rfl
  all_goals rfl

theorem accessClaims_sorted :
    ((service.accessClaims identity issuedAt jti).map Prod.fst).Pairwise (· < ·) := by
  show ["aud", "exp", "iat", "iss", "jti", "nbf", "roles", "sub", "tenant_id", "typ"].Pairwise
    (· < ·)
  decide

/-- INTERNAL: each claim is read back by its name. -/
theorem get?_accessClaims {name : String} {value : JSONValue}
    (h : (name, value) ∈ service.accessClaims identity issuedAt jti) :
    (Dict.ofList (service.accessClaims identity issuedAt jti)).get? name = some value := by
  rw [Dict.get?_ofList_eq_some_iff]
  · exact h
  · exact accessClaims_sorted.imp fun h => ne_of_lt h

/-- INTERNAL: the identity is read from the claims as it was written. -/
theorem tenantContextFromClaims_accessClaims (htenant : tenantIdPattern identity.tenantId = true) :
    tenantContextFromClaims (Dict.ofList (service.accessClaims identity issuedAt jti))
      correlationId = .ok (identity.context correlationId) := by
  have htenantId := @get?_accessClaims service identity issuedAt jti "tenant_id"
    (.str identity.tenantId) (by simp [accessClaims])
  have hsubject := @get?_accessClaims service identity issuedAt jti "sub"
    (.str identity.subject) (by simp [accessClaims])
  have hroles := @get?_accessClaims service identity issuedAt jti "roles"
    (.list (identity.roles.map .str)) (by simp [accessClaims])
  have hlength : ((identity.roles.map JSONValue.str).filterMap asStr).length =
      (identity.roles.map JSONValue.str).length := by
    rw [filterMap_asStr, List.length_map]
  unfold tenantContextFromClaims
  rw [htenantId]
  simp only [Option.bind_some, asStr, validatedOptionalTenantId, validatedTenantId,
    if_pos htenant, bind, Except.bind, optionalStringClaim, hsubject]
  unfold rolesFromClaims
  rw [hroles, Option.getD_some]
  dsimp only
  rw [if_pos hlength, filterMap_asStr]
  rfl

theorem timeClaim_accessClaims {name : String} {n : ℤ}
    (h : (name, .int n) ∈ service.accessClaims identity issuedAt jti) (x : Option ℚ) :
    timeClaim (Dict.ofList (service.accessClaims identity issuedAt jti)) name = .ok x ↔
      ∃ y, Binary64.ofInt n = some y ∧ x = some y := by
  unfold timeClaim
  rw [get?_accessClaims h]
  cases hfloat : Binary64.ofInt n with
  | none => simp [numericClaim, hfloat, Except.map]
  | some y => simp [numericClaim, hfloat, Except.map, eq_comm]

/-- INTERNAL: of the registered claims, the times alone can fail. -/
theorem validateRegisteredClaims_accessClaims :
    validateRegisteredClaims (Dict.ofList (service.accessClaims identity issuedAt jti))
      (some service.issuer) (some service.audience) t = .ok () ↔ service.InForce issuedAt t := by
  have hexp := @timeClaim_accessClaims service identity issuedAt jti "exp"
    (issuedAt + service.accessTtlSeconds) (by simp [accessClaims])
  have hnbf := @timeClaim_accessClaims service identity issuedAt jti "nbf" issuedAt
    (by simp [accessClaims])
  have hissuer := @get?_accessClaims service identity issuedAt jti "iss" (.str service.issuer)
    (by simp [accessClaims])
  have haudience := @get?_accessClaims service identity issuedAt jti "aud"
    (.str service.audience) (by simp [accessClaims])
  unfold validateRegisteredClaims
  simp only [bind_eq_ok_iff, refuseIf_eq_ok_iff, hexp, hnbf, hissuer, haudience,
    Option.bind_some, asStr, audienceMatches, Option.mem_def, Option.some.injEq,
    exists_eq_left', ne_eq, not_true_eq_false, not_false_eq_true, decide_true,
    Bool.true_eq_false, and_true, exists_const]
  constructor
  · rintro ⟨_, ⟨expiry, hexpiry, rfl⟩, hlate, _, ⟨start, hstart, rfl⟩, hearly⟩
    simp only [Option.some.injEq, exists_eq_left', not_le] at hlate
    simp only [Option.some.injEq, exists_eq_left', not_lt] at hearly
    exact ⟨start, expiry, hstart, hexpiry, hearly, hlate⟩
  · rintro ⟨start, expiry, hstart, hexpiry, hearly, hlate⟩
    refine ⟨_, ⟨expiry, hexpiry, rfl⟩, ?_, _, ⟨start, hstart, rfl⟩, ?_⟩
    · simp only [Option.some.injEq, exists_eq_left', not_le]
      exact hlate
    · simp only [Option.some.injEq, exists_eq_left', not_lt]
      exact hearly

end Claims

/-! ## The verifiers -/

section Verifiers

variable {service : AuthTokenService} {codec : SegmentCodec} {identity : Identity}
  {issuedAt : ℤ} {jti : String}

theorem issueAccessToken_eq : service.issueAccessToken identity.subject identity.tenantId
    identity.roles issuedAt jti =
      encodeHs256Jwt service.py (service.accessClaims identity issuedAt jti)
        service.jwtSecret := rfl

theorem meansAt_issueAccessToken (hlawful : codec.Lawful service.py)
    (htenant : tenantIdPattern identity.tenantId = true) (t : ℚ)
    (correlationId : Option String) :
    service.MeansAt codec (service.issueAccessToken identity.subject identity.tenantId
      identity.roles issuedAt jti) identity t correlationId (service.InForce issuedAt t) := by
  have hdecode := decodeHs256Jwt_encode hlawful
    (@accessClaims_sorted service identity issuedAt jti) accessClaims_plain service.jwtSecret
    (some service.issuer) (some service.audience) t
  have hcontext := @tenantContextFromClaims_accessClaims service identity issuedAt jti
    correlationId htenant
  have htyp := @get?_accessClaims service identity issuedAt jti "typ" (.str "access")
    (by simp [accessClaims])
  have hjti := @get?_accessClaims service identity issuedAt jti "jti" (.str jti)
    (by simp [accessClaims])
  have hforce := @validateRegisteredClaims_accessClaims service identity issuedAt jti t
  have hdecoded : ∀ claims, decodeHs256Jwt codec (service.issueAccessToken identity.subject
      identity.tenantId identity.roles issuedAt jti) service.jwtSecret (some service.issuer)
      (some service.audience) t = .ok claims ↔
        service.InForce issuedAt t ∧
          claims = Dict.ofList (service.accessClaims identity issuedAt jti) := by
    intro claims
    rw [issueAccessToken_eq, hdecode, ← hforce]
    cases validateRegisteredClaims (Dict.ofList (service.accessClaims identity issuedAt jti))
      (some service.issuer) (some service.audience) t with
    | error e => simp [Except.map]
    | ok u => simp [Except.map, eq_comm]
  -- from here on the claims are those that were read
  generalize Dict.ofList (service.accessClaims identity issuedAt jti) = claims at *
  constructor
  · intro context
    unfold verifyAccessToken
    simp only [bind_eq_ok_iff, refuseIf_eq_ok_iff, hdecoded]
    constructor
    · rintro ⟨_, ⟨hinForce, rfl⟩, _, _, _, _, hok⟩
      rw [hcontext] at hok
      exact ⟨hinForce, (Except.ok.inj hok).symm⟩
    · rintro ⟨hinForce, rfl⟩
      refine ⟨_, ⟨hinForce, rfl⟩, (), ?_, (), ?_, hcontext⟩
      · rw [htyp]
        decide
      · rw [hjti]
        exact Bool.false_ne_true
  · intro context
    unfold tenantContextFromAuthorizationHeader
    rw [issueAccessToken_eq, extractBearerToken_bearer (visible_encodeHs256Jwt _ _)
      (encodeHs256Jwt_ne_empty _ _), ← issueAccessToken_eq]
    simp only [bind_eq_ok_iff, Except.ok.injEq, exists_eq_left', hdecoded]
    constructor
    · rintro ⟨_, ⟨hinForce, rfl⟩, hok⟩
      rw [hcontext] at hok
      exact ⟨hinForce, (Except.ok.inj hok).symm⟩
    · rintro ⟨hinForce, rfl⟩
      exact ⟨_, ⟨hinForce, rfl⟩, hcontext⟩

end Verifiers

/-! ## Chains of refreshes -/

section Chains

variable {service : AuthTokenService} {tokens : AuthTokens}

/-- INTERNAL: the access token of a pair, and the record of its refresh token, say to whom the
pair was issued. -/
theorem issueTokenPair_identity {issuedAt : ℤ} {subject tenantId : String}
    {roles : List String} {correlationId : Option String} {tokenPair : TokenPair}
    {issued : AuthTokens}
    (h : service.issueTokenPair issuedAt subject tenantId roles correlationId tokens =
      .ok (tokenPair, issued)) :
    tenantIdPattern tenantId = true ∧
      (∃ jti, tokenPair.accessToken =
        service.issueAccessToken subject tenantId roles issuedAt jti) ∧
      ∃ record, service.recordOf issued tokenPair.refreshToken = some record ∧
        identityOf record = ⟨tenantId, subject, roles⟩ := by
  unfold issueTokenPair at h
  simp only [bind_eq_ok_iff] at h
  obtain ⟨rolesTuple, hroles, _, _, context, hcontext, hreturn⟩ := h
  have hrolesTuple : rolesTuple = roles := by
    unfold normalizeRoles at hroles
    split at hroles
    · cases hroles
    · exact (Except.ok.inj hroles).symm
  subst hrolesTuple
  cases hreturn
  refine ⟨?_, ⟨_, rfl⟩, _, Dict.get?_set_self _ _ _, rfl⟩
  · unfold tenantContextFromClaims at hcontext
    rw [bind_eq_ok_iff] at hcontext
    obtain ⟨validated, hvalidated, _⟩ := hcontext
    by_contra hpattern
    simp [asStr, validatedOptionalTenantId, validatedTenantId, hpattern] at hvalidated

/-- INTERNAL: a revoked record keeps its identity. -/
theorem recordOf_revoke_identity {token : String} {record : RefreshTokenRecord}
    (h : service.recordOf tokens token = some record) (used : String) (now : ℤ)
    (replacedByJti : Option String) :
    ∃ next, service.recordOf { tokens with
        records := InMemoryRefreshTokenStore.revoke (service.hashRefreshToken used) now
          replacedByJti tokens.records } token = some next ∧
      identityOf next = identityOf record := by
  cases hused : service.recordOf tokens used with
  | none =>
      rw [revoke_of_unknown hused]
      exact ⟨record, h, rfl⟩
  | some old =>
      rw [recordOf_revoke hused]
      by_cases htoken : token = used
      · rw [if_pos htoken]
        rw [htoken, hused] at h
        cases h
        exact ⟨_, rfl, rfl⟩
      · rw [if_neg htoken]
        exact ⟨record, h, rfl⟩

/-- INTERNAL: a refresh issues a pair to whom the used token was issued. -/
theorem refreshTokenPair_identity {now issuedAt : ℤ} {used : String}
    {correlationId : Option String} {tokenPair : TokenPair} {record : RefreshTokenRecord}
    (hrecord : service.recordOf tokens used = some record)
    (h : (service.refreshTokenPair now issuedAt used correlationId tokens).1 = .ok tokenPair) :
    tenantIdPattern record.tenantId = true ∧
      (∃ jti, tokenPair.accessToken =
        service.issueAccessToken record.subject record.tenantId record.roles issuedAt jti) ∧
      ∃ next, service.recordOf
          (service.refreshTokenPair now issuedAt used correlationId tokens).2
          tokenPair.refreshToken = some next ∧ identityOf next = identityOf record := by
  have hget : InMemoryRefreshTokenStore.get (service.hashRefreshToken used) tokens.records =
      some record := hrecord
  unfold refreshTokenPair at h ⊢
  simp only [hget] at h ⊢
  by_cases hrevoked : record.revokedAt ≠ none
  · rw [if_pos hrevoked] at h
    cases h
  by_cases hlate : record.expiresAt ≤ now
  · rw [if_neg hrevoked, if_pos hlate] at h
    cases h
  simp only [if_neg hrevoked, if_neg hlate] at h ⊢
  cases hissue : service.issueTokenPair issuedAt record.subject record.tenantId record.roles
      correlationId tokens with
  | error e =>
      simp only [hissue] at h
      cases h
  | ok result =>
      obtain ⟨made, issued⟩ := result
      simp only [hissue] at h ⊢
      obtain rfl : made = tokenPair := Except.ok.inj h
      obtain ⟨htenant, haccess, next, hnext, hidentity⟩ := issueTokenPair_identity hissue
      obtain ⟨next', hnext', hidentity'⟩ := recordOf_revoke_identity hnext used now
        ((InMemoryRefreshTokenStore.get (service.hashRefreshToken made.refreshToken)
          issued.records).map RefreshTokenRecord.refreshJti)
      exact ⟨htenant, haccess, next', hnext', hidentity'.trans hidentity⟩

theorem Moved.identity_eq {token : String} {record record' : RefreshTokenRecord}
    {call : AuthCall} {answer : AuthAnswer} (h : Moved token record call answer record') :
    identityOf record' = identityOf record := by
  cases h with
  | kept _ => rfl
  | revoked _ _ => rfl
  | expired _ _ => rfl
  | exchanged _ _ _ _ => rfl

/-- INTERNAL: a call leaves the identity of a record as it is: it writes a new record, or the
revocation of an old one. -/
theorem identity_step (hmade : service.Made tokens) (call : AuthCall) {token : String}
    {record : RefreshTokenRecord} (h : service.recordOf tokens token = some record) :
    ∃ next, service.recordOf (service.step tokens call).2 token = some next ∧
      identityOf next = identityOf record := by
  obtain ⟨next, hnext, hmoved⟩ := moved_step hmade call h
  exact ⟨next, hnext, hmoved.identity_eq⟩

/-- INTERNAL: by induction on the chain, the record of the last refresh token says to whom the
first pair was issued. -/
theorem Descends.identity {calls : List AuthCall} {tokenPair : TokenPair} {identity : Identity}
    {issuedAt : ℤ} (h : service.Descends calls tokenPair identity issuedAt) :
    tenantIdPattern identity.tenantId = true ∧
      (∃ jti, tokenPair.accessToken = service.issueAccessToken identity.subject
        identity.tenantId identity.roles issuedAt jti) ∧
      ∃ record, service.recordOf (service.tokensAfter calls) tokenPair.refreshToken =
        some record ∧ identityOf record = identity := by
  induction h with
  | @issued calls issuedAt subject tenantId roles correlationId tokenPair hanswer =>
      rw [tokensAfter_concat]
      unfold step at hanswer ⊢
      dsimp only at hanswer ⊢
      cases hissue : service.issueTokenPair issuedAt subject tenantId roles correlationId
          (service.tokensAfter calls) with
      | error e =>
          rw [hissue] at hanswer
          cases hanswer
      | ok result =>
          rw [hissue] at hanswer
          obtain ⟨made, issued⟩ := result
          cases hanswer
          exact issueTokenPair_identity hissue
  | @refreshed calls used identity usedAt now issuedAt correlationId tokenPair _ hanswer ih =>
      obtain ⟨_, _, record, hrecord, rfl⟩ := ih
      rw [tokensAfter_concat]
      unfold step at hanswer ⊢
      dsimp only at hanswer ⊢
      apply refreshTokenPair_identity hrecord
      cases hrefresh : (service.refreshTokenPair now issuedAt used.refreshToken correlationId
          (service.tokensAfter calls)).1 with
      | error e =>
          rw [hrefresh] at hanswer
          cases hanswer
      | ok made =>
          rw [hrefresh] at hanswer
          cases hanswer
          rfl
  | later _ call ih =>
      obtain ⟨htenant, haccess, record, hrecord, hidentity⟩ := ih
      obtain ⟨next, hnext, hkept⟩ := identity_step (made_tokensAfter _) call hrecord
      rw [tokensAfter_concat]
      exact ⟨htenant, haccess, next, hnext, hkept.trans hidentity⟩

end Chains

theorem inForce_iff_of_lt {service : AuthTokenService} {issuedAt : ℤ}
    (hstart : |issuedAt| < 2 ^ 53) (hexpiry : |issuedAt + service.accessTtlSeconds| < 2 ^ 53)
    (t : ℚ) : service.InForce issuedAt t ↔
      (issuedAt : ℚ) ≤ t ∧ t < issuedAt + service.accessTtlSeconds := by
  unfold InForce
  rw [Binary64.ofInt_of_lt hstart, Binary64.ofInt_of_lt hexpiry]
  simp only [Option.some.injEq, exists_eq_left', exists_and_left, Int.cast_add, Int.cast_natCast]

/-- In any run, the access token of a pair that was issued, or was returned by the last of any
chain of refreshes, is accepted by both verifiers exactly while it is in force, and both return
the identity of the first issue. -/
theorem accessToken_means (service : AuthTokenService) (codec : SegmentCodec)
    (hlawful : codec.Lawful service.py) (calls : List AuthCall) (tokenPair : TokenPair)
    (identity : Identity) (issuedAt : ℤ)
    (h : service.Descends calls tokenPair identity issuedAt) (t : ℚ)
    (correlationId : Option String) :
    service.MeansAt codec tokenPair.accessToken identity t correlationId
        (service.InForce issuedAt t) ∧
      (|issuedAt| < 2 ^ 53 → |issuedAt + service.accessTtlSeconds| < 2 ^ 53 →
        (service.InForce issuedAt t ↔
          (issuedAt : ℚ) ≤ t ∧ t < issuedAt + service.accessTtlSeconds)) := by
  obtain ⟨htenant, ⟨jti, haccess⟩, _⟩ := h.identity
  rw [haccess]
  exact ⟨meansAt_issueAccessToken hlawful htenant t correlationId,
    fun hstart hexpiry => inForce_iff_of_lt hstart hexpiry t⟩

/-- The pair that a call returned. -/
def returnedPair : AuthAnswer → Option TokenPair
  | .ok tokenPair => tokenPair
  | .error _ => none

theorem eq_of_returnedPair {answer : AuthAnswer} {tokenPair : TokenPair}
    (h : returnedPair answer = some tokenPair) : answer = .ok (some tokenPair) := by
  unfold returnedPair at h
  split at h
  · rw [h]
  · cases h

open RefreshSample in
/-- The access token of a refresh at the time 1060 is accepted at the time 1500. -/
theorem accessToken_means_refreshed : ∃ tokenPair,
    service.Descends calls tokenPair ⟨"media-center", "member-1", ["board"]⟩ 1060 ∧
      service.verifyAccessToken Reference.segmentCodec 1500 tokenPair.accessToken none =
        .ok ⟨"media-center", some "member-1", ["board"], none⟩ := by
  have hfirst : ((returnedPair (service.step (service.tokensAfter [])
      (.issueTokenPair 1000 "member-1" "media-center" ["board"] none)).1).map
        TokenPair.refreshToken) = some "0" := by decide
  have hsecond : (returnedPair (service.step (service.tokensAfter
      [.issueTokenPair 1000 "member-1" "media-center" ["board"] none])
        (.refreshTokenPair 1060 1060 "0" none)).1).isSome = true := by decide
  obtain ⟨used, hused, hzero⟩ := Option.map_eq_some_iff.mp hfirst
  obtain ⟨tokenPair, hpair⟩ := Option.isSome_iff_exists.mp hsecond
  have hissued := Descends.issued (eq_of_returnedPair hused)
  have hchain : service.Descends calls tokenPair ⟨"media-center", "member-1", ["board"]⟩
      1060 := by
    have hanswer := eq_of_returnedPair hpair
    rw [← hzero] at hanswer
    have hrefreshed := Descends.refreshed hissued hanswer
    rw [hzero] at hrefreshed
    exact hrefreshed
  refine ⟨tokenPair, hchain, ?_⟩
  have hmeans := accessToken_means service Reference.segmentCodec
    (Reference.lawful_segmentCodec _) calls tokenPair _ 1060 hchain 1500 none
  apply (hmeans.1.verified _).mpr
  refine ⟨(hmeans.2 (by decide) (by decide)).mpr ?_, rfl⟩
  show ((1060 : ℤ) : ℚ) ≤ 1500 ∧ (1500 : ℚ) < ((1060 : ℤ) : ℚ) + ((900 : ℕ) : ℚ)
  norm_num

/-- A service whose access tokens are to live for longer than any `float` says. -/
def RefreshSample.longLived : AuthTokenService :=
  { RefreshSample.service with
    accessTtlSeconds := 2 ^ 1024
    accessTtlSeconds_pos := Nat.two_pow_pos 1024 }

open RefreshSample in
/-- With a time to live that is too large for a `float`, no token is accepted. -/
theorem accessToken_refused_longTtl : ¬ ∀ (service : AuthTokenService) (codec : SegmentCodec),
    codec.Lawful service.py → ∀ (calls : List AuthCall) (tokenPair : TokenPair)
      (identity : Identity) (issuedAt : ℤ), service.Descends calls tokenPair identity issuedAt →
      ∀ (t : ℚ) (correlationId : Option String),
        service.MeansAt codec tokenPair.accessToken identity t correlationId
          ((issuedAt : ℚ) ≤ t ∧ t < issuedAt + service.accessTtlSeconds) := by
  intro hclaim
  have hanswered : (returnedPair (longLived.step (longLived.tokensAfter [])
      (.issueTokenPair 1000 "member-1" "media-center" ["board"] none)).1).isSome = true := by
    decide
  obtain ⟨tokenPair, hpair⟩ := Option.isSome_iff_exists.mp hanswered
  have hissued := Descends.issued (eq_of_returnedPair hpair)
  have hclaimed := hclaim longLived Reference.segmentCodec (Reference.lawful_segmentCodec _) _
    tokenPair _ 1000 hissued 1000 none
  obtain ⟨htenant, ⟨jti, haccess⟩, _⟩ := hissued.identity
  have hmeans := @meansAt_issueAccessToken longLived Reference.segmentCodec
    ⟨"media-center", "member-1", ["board"]⟩ 1000 jti (Reference.lawful_segmentCodec _) htenant
    1000 none
  have hoverflow : Binary64.ofInt (1000 + longLived.accessTtlSeconds) = none :=
    Binary64.ofInt_eq_none (by decide +kernel)
  have hnever : ¬ longLived.InForce 1000 1000 := by
    rintro ⟨_, expiry, _, hexpiry, _⟩
    rw [hoverflow] at hexpiry
    cases hexpiry
  rw [haccess] at hclaimed
  have haccepted := (hclaimed.verified _).mpr
    ⟨⟨le_refl _, lt_add_of_pos_right _ (by exact_mod_cast longLived.accessTtlSeconds_pos)⟩, rfl⟩
  exact hnever ((hmeans.verified _).mp haccepted).1

end AuthTokenService

end MediaCenter.Shared
