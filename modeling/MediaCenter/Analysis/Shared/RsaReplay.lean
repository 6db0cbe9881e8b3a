import MediaCenter.Analysis.Shared.RequestReplay
import MediaCenter.Model.Shared.RsaAuth

/-!
# Replayed tokens

The claims of a token determine the request it was made for, and an accepted request agrees with
them.  Its nonce stays in the replay cache for as long as its timestamp is within the window.  So
a token is accepted once, at most, where all verifiers of the cache share one window.
-/

set_option autoImplicit false

namespace MediaCenter.Shared

open MediaCenter.Library

/-- `str.upper` makes no white space. -/
structure UpperStdlib extends Stdlib where
  strip_upper : ∀ s, Text.strip s = s → Text.strip (upper s) = upper s

/-! ## What the calls do -/

/-- The call `s` signs the request `r`, and makes `token` of it. -/
structure SignsToken (py : Stdlib) (jwt : PyJwt) (s : RsaSignCall) (r : RsaRequest)
    (token : String) : Prop where
  request : normalizedRequest py s = .ok r
  made : ∃ privateKey, privateKeyBytes s.config = .ok privateKey ∧
    jwt.encode (requestClaims s.config r) privateKey = .ok token
  returned : ∃ signed, signRsaRequest py jwt s = .ok signed ∧
    signed.get? authorizationHeader = some ("Bearer " ++ token)

/-- A request with a valid token, which says the same as the request. -/
structure RsaAuthentic (py : Stdlib) (jwt : PyJwt) (c : RsaVerifyCall) (token : String)
    (claims : JwtClaims) (r : RsaRequest) : Prop where
  method : normalizeMethod py c.method = .ok r.method
  path : normalizePath c.path = .ok r.path
  authMethod : readHeader py c.headers s2sMethodHeader = some AuthMethod.rsaKey.value
  bearer : bearerToken py c.headers = .ok token
  decoded : decodeToken jwt c.config c.jwtNow token = .ok claims
  serviceName : claimRequiredText claims "sub" = .ok r.serviceName
  nonce : normalizeRequiredText (readHeader py c.headers s2sNonceHeader) s2sNonceHeader =
    .ok r.nonce
  timestamp : parseTimestamp (readHeader py c.headers s2sTimestampHeader) = .ok r.timestamp
  claimedTimestamp : claimRequiredInt claims "iat" = .ok r.timestamp
  claimedNonce : claimRequiredText claims "nonce" = .ok r.nonce
  claimedMethod : claimRequiredText claims "method" = .ok r.method
  claimedPath : claimRequiredText claims "path" = .ok r.path

/-- After the calls `before`, the call `c` is accepted, with the token `token` and the values
`r`. -/
structure AcceptsToken (py : Stdlib) (jwt : PyJwt) (before : List RsaCall) (c : RsaVerifyCall)
    (token : String) (r : RsaRequest) : Prop where
  authentic : ∃ claims, RsaAuthentic py jwt c token claims r
  accepted : (verifyRsaRequest py jwt c (rsaCacheAfter py jwt before)).1 =
    .ok ⟨r.serviceName, .rsaKey⟩

/-! ## Runs -/

/-- Later calls of `verify_request` read a clock that has not gone back. -/
def RsaNonDecreasingClock (calls : List RsaCall) : Prop :=
  calls.Pairwise fun a b =>
    match a, b with
    | .verify c, .verify d => c.now ≤ d.now
    | _, _ => True

/-- A valid token that is presented has the claims of a token that an earlier call made. -/
def RsaUnforgeable (py : Stdlib) (jwt : PyJwt) (calls : List RsaCall) : Prop :=
  ∀ before c after, calls = before ++ .verify c :: after → ∀ token claims,
    bearerToken py c.headers = .ok token → decodeToken jwt c.config c.jwtNow token = .ok claims →
    ∃ s r made, .sign s ∈ before ∧ SignsToken py jwt s r made ∧
      claims = requestClaims s.config r

/-- An accepted request carries the values that its token was made for, by an earlier call, and
neither a token nor the values of a request are accepted twice. -/
structure AcceptsTokenOnce (py : Stdlib) (jwt : PyJwt) (calls : List RsaCall) : Prop where
  bound : ∀ before c after identity, calls = before ++ .verify c :: after →
    (verifyRsaRequest py jwt c (rsaCacheAfter py jwt before)).1 = .ok identity →
    ∃ token r, AcceptsToken py jwt before c token r ∧ identity = ⟨r.serviceName, .rsaKey⟩ ∧
      (∃ s made, .sign s ∈ before ∧ SignsToken py jwt s r made) ∧
      ∀ s r', SignsToken py jwt s r' token → r' = r
  once : ∀ before c middle d after token token' r r',
    calls = (before ++ .verify c :: middle) ++ .verify d :: after →
    AcceptsToken py jwt before c token r →
    AcceptsToken py jwt (before ++ .verify c :: middle) d token' r' → token ≠ token' ∧ r ≠ r'

/-! ## The claims of a token -/

section Claims

theorem claimRequiredText_eq_ok_iff {claims : JwtClaims} {name text : String} :
    claimRequiredText claims name = .ok text ↔
      ∃ value, claims.get? name = some (.str value) ∧ text = Text.strip value ∧ text ≠ "" := by
  unfold claimRequiredText
  split
  · rename_i value hget
    constructor
    · intro h
      split at h
      · cases h
      · rename_i hne
        cases h
        exact ⟨value, hget, rfl, hne⟩
    · rintro ⟨value', hget', rfl, hne⟩
      rw [hget] at hget'
      cases hget'
      rw [if_neg hne]
  · rename_i hother
    constructor
    · intro h
      cases h
    · rintro ⟨value, hget, _⟩
      exact absurd hget (hother value)

/-- INTERNAL: the names of the claims are different, so each is read back. -/
theorem get?_requestClaims (config : RsaConfig) (r : RsaRequest) :
    (requestClaims config r).get? "sub" = some (.str r.serviceName) ∧
    (requestClaims config r).get? "iat" = some (.int r.timestamp) ∧
    (requestClaims config r).get? "nonce" = some (.str r.nonce) ∧
    (requestClaims config r).get? "method" = some (.str r.method) ∧
    (requestClaims config r).get? "path" = some (.str r.path) := by
  simp [requestClaims]

theorem requestClaims_inj {config config' : RsaConfig} {r r' : RsaRequest}
    (h : requestClaims config r = requestClaims config' r') : r = r' := by
  obtain ⟨hsub, hiat, hnonce, hmethod, hpath⟩ := get?_requestClaims config r
  obtain ⟨hsub', hiat', hnonce', hmethod', hpath'⟩ := get?_requestClaims config' r'
  rw [← h] at hsub' hiat' hnonce' hmethod' hpath'
  cases r
  cases r'
  simp_all

variable {py : UpperStdlib} {s : RsaSignCall} {r : RsaRequest}

/-- INTERNAL: the signed values are trimmed. -/
theorem strip_of_normalizedRequest (h : normalizedRequest py.toStdlib s = .ok r) :
    Text.strip r.method = r.method ∧ Text.strip r.path = r.path ∧
      Text.strip r.nonce = r.nonce ∧ Text.strip r.serviceName = r.serviceName := by
  unfold normalizedRequest at h
  simp only [bind_eq_ok_iff] at h
  obtain ⟨method, hmethod, path, hpath, service, hservice, nonce, hnonce, heq⟩ := h
  cases heq
  obtain ⟨_, _, rfl, _⟩ := normalizeRequiredText_eq_ok_iff.mp hservice
  obtain ⟨_, _, rfl, _⟩ := normalizeRequiredText_eq_ok_iff.mp hnonce
  refine ⟨?_, ?_, Text.strip_strip _, Text.strip_strip _⟩
  · unfold normalizeMethod at hmethod
    dsimp only at hmethod
    split at hmethod
    · cases hmethod
    · cases hmethod
      exact py.strip_upper _ (Text.strip_strip _)
  · unfold normalizePath at hpath
    dsimp only at hpath
    split at hpath
    · cases hpath
    · split at hpath
      · cases hpath
        exact Text.strip_strip _
      · cases hpath

/-- INTERNAL: what agrees with the claims of a signed request is that request. -/
theorem eq_of_claims {jwt : PyJwt} {c : RsaVerifyCall} {token : String} {r' : RsaRequest}
    (hsigned : normalizedRequest py.toStdlib s = .ok r)
    (h : RsaAuthentic py.toStdlib jwt c token (requestClaims s.config r) r') : r' = r := by
  obtain ⟨hmethod, hpath, hnonce, hservice⟩ := strip_of_normalizedRequest hsigned
  obtain ⟨hsub, hiat, hnonceClaim, hmethodClaim, hpathClaim⟩ := get?_requestClaims s.config r
  have hread : ∀ {name value text : String},
      (requestClaims s.config r).get? name = some (.str value) → Text.strip value = value →
      claimRequiredText (requestClaims s.config r) name = .ok text → text = value := by
    intro name value text hget hstrip hok
    obtain ⟨value', hget', rfl, _⟩ := claimRequiredText_eq_ok_iff.mp hok
    rw [hget] at hget'
    cases hget'
    exact hstrip
  have htimestamp : r.timestamp = r'.timestamp := by
    have hclaimed := h.claimedTimestamp
    unfold claimRequiredInt at hclaimed
    rw [hiat] at hclaimed
    exact Except.ok.inj hclaimed
  have hmethod' := hread hmethodClaim hmethod h.claimedMethod
  have hpath' := hread hpathClaim hpath h.claimedPath
  have hnonce' := hread hnonceClaim hnonce h.claimedNonce
  have hservice' := hread hsub hservice h.serviceName
  cases r
  cases r'
  simp only at hmethod' hpath' hnonce' hservice' htimestamp
  rw [hmethod', hpath', hnonce', hservice', htimestamp]

end Claims

/-! ## The two calls -/

section Calls

variable {py : Stdlib} {jwt : PyJwt}

theorem authenticateRsa_eq_ok_iff {c : RsaVerifyCall} {r : RsaRequest} :
    authenticateRsa py jwt c = .ok r ↔ ∃ token claims, RsaAuthentic py jwt c token claims r := by
  unfold authenticateRsa
  simp only [bind_eq_ok_iff, refuseIf_eq_ok_iff, not_not]
  constructor
  · rintro ⟨method, hmethod, path, hpath, _, hauth, token, htoken, claims, hclaims, service,
      hservice, nonce, hnonce, timestamp, htimestamp, issuedAt, hissued, _, rfl, claimedNonce,
      hclaimedNonce, _, rfl, claimedMethod, hclaimedMethod, _, rfl, claimedPath, hclaimedPath, _,
      rfl, heq⟩
    cases heq
    exact ⟨token, claims, hmethod, hpath, hauth, htoken, hclaims, hservice, hnonce, htimestamp,
      hissued, hclaimedNonce, hclaimedMethod, hclaimedPath⟩
  · rintro ⟨token, claims, h⟩
    exact ⟨_, h.method, _, h.path, (), h.authMethod, token, h.bearer, claims, h.decoded, _,
      h.serviceName, _, h.nonce, _, h.timestamp, _, h.claimedTimestamp, (), rfl, _,
      h.claimedNonce, (), rfl, _, h.claimedMethod, (), rfl, _, h.claimedPath, (), rfl, rfl⟩

/-- INTERNAL: the token of a request stands in the `Authorization` header. -/
theorem signsToken_of_encode {s : RsaSignCall} {r : RsaRequest} {key : List ℕ}
    {token text : String} (hr : normalizedRequest py s = .ok r)
    (hkey : privateKeyBytes s.config = .ok key)
    (htoken : jwt.encode (requestClaims s.config r) key = .ok token)
    (htext : timestampText r.timestamp = .ok text) : SignsToken py jwt s r token := by
  refine ⟨hr, ⟨key, hkey, htoken⟩, ?_⟩
  unfold signRsaRequest
  rw [hr, hkey]
  simp only [bind, Except.bind, htoken, htext, Except.mapError]
  refine ⟨_, rfl, ?_⟩
  simp [authorizationHeader, s2sMethodHeader, s2sServiceHeader, s2sTimestampHeader,
    s2sNonceHeader]

theorem SignsToken.payload_eq {s : RsaSignCall} {r : RsaRequest} {token : String}
    (h : SignsToken py jwt s r token) : jwt.payload token = requestClaims s.config r := by
  obtain ⟨key, _, htoken⟩ := h.made
  exact jwt.payload_encode _ key token htoken

theorem RsaAuthentic.claims_eq {c : RsaVerifyCall} {token : String} {claims : JwtClaims}
    {r : RsaRequest} (h : RsaAuthentic py jwt c token claims r) : claims = jwt.payload token := by
  have hclaims := h.decoded
  unfold decodeToken at hclaims
  rw [bind_eq_ok_iff] at hclaims
  obtain ⟨key, _, hclaims⟩ := hclaims
  split at hclaims
  · rename_i decoded hdecode
    cases hclaims
    exact jwt.decode_payload _ _ _ _ _ _ hdecode
  all_goals cases hclaims

end Calls

/-! ## The replay cache -/

section Cache

variable {py : Stdlib} {jwt : PyJwt} {cache : S2SReplayCache} {c : RsaVerifyCall} {r : RsaRequest}

/-- INTERNAL: a nonce is remembered within the window only. -/
theorem rememberVerifiedNonce_eq_ok_iff {config : RsaConfig} {now : ℚ} {u : Unit} :
    (rememberVerifiedNonce config now r cache).1 = .ok u ↔
      outsideWindow now r.timestamp config.replayWindowSeconds = .ok false ∧
        (remember r.serviceName r.nonce r.timestamp now config.replayWindowSeconds cache).1 =
          .ok u := by
  unfold rememberVerifiedNonce
  cases houtside : outsideWindow now r.timestamp config.replayWindowSeconds with
  | error e => simp
  | ok outside =>
      cases outside with
      | true => simp
      | false => simp

/-- INTERNAL: with a valid token, the outcome is that of the replay cache. -/
theorem verifyRsaRequest_of_authenticate (h : authenticateRsa py jwt c = .ok r) :
    verifyRsaRequest py jwt c cache =
      ((rememberVerifiedNonce c.config c.now r cache).1.map fun _ => ⟨r.serviceName, .rsaKey⟩,
        (rememberVerifiedNonce c.config c.now r cache).2) := by
  unfold verifyRsaRequest
  rw [h]
  dsimp only
  split
  · rename_i heq
    rw [heq]
    rfl
  · rename_i heq
    rw [heq]
    rfl

theorem verifyRsaRequest_accepts_iff (h : authenticateRsa py jwt c = .ok r) :
    (verifyRsaRequest py jwt c cache).1 = .ok ⟨r.serviceName, .rsaKey⟩ ↔
      outsideWindow c.now r.timestamp c.config.replayWindowSeconds = .ok false ∧
        (remember r.serviceName r.nonce r.timestamp c.now c.config.replayWindowSeconds cache).1 =
          .ok () := by
  rw [verifyRsaRequest_of_authenticate h, ← rememberVerifiedNonce_eq_ok_iff]
  dsimp only
  cases (rememberVerifiedNonce c.config c.now r cache).1 with
  | error e => simp [Except.map]
  | ok u => simp [Except.map]

theorem verifyRsaRequest_eq_ok {identity : S2SIdentity}
    (h : (verifyRsaRequest py jwt c cache).1 = .ok identity) :
    ∃ r, authenticateRsa py jwt c = .ok r ∧ identity = ⟨r.serviceName, .rsaKey⟩ := by
  unfold verifyRsaRequest at h
  split at h
  · cases h
  · rename_i r hr
    split at h
    · cases h
    · cases h
      exact ⟨r, hr, rfl⟩

theorem verifyRsaRequest_inserts (h : authenticateRsa py jwt c = .ok r)
    (haccepts : (verifyRsaRequest py jwt c cache).1 = .ok ⟨r.serviceName, .rsaKey⟩) :
    (verifyRsaRequest py jwt c cache).2.get? (replayCacheKey r.serviceName r.nonce) =
      some r.timestamp := by
  rw [verifyRsaRequest_accepts_iff h] at haccepts
  rw [verifyRsaRequest_of_authenticate h]
  unfold rememberVerifiedNonce
  simp only [haccepts.1]
  exact remember_inserts haccepts.2

theorem rememberVerifiedNonce_keeps {config : RsaConfig} {now : ℚ} {key : String} {stored : ℤ}
    (h : cache.get? key = some stored)
    (hfresh : ¬ (config.replayWindowSeconds : ℚ) < now - stored) :
    (rememberVerifiedNonce config now r cache).2.get? key = some stored := by
  unfold rememberVerifiedNonce
  split
  · exact h
  · exact h
  · exact remember_keeps h hfresh

/-- INTERNAL: one call leaves an entry as it is, unless the entry has expired by then. -/
theorem RsaCall.step_keeps {key : String} {stored : ℤ} (call : RsaCall)
    (h : cache.get? key = some stored) :
    (call.step py jwt cache).get? key = some stored ∨
      ∃ c, call = .verify c ∧ (c.config.replayWindowSeconds : ℚ) < c.now - stored := by
  cases call with
  | sign s => exact .inl h
  | verify c =>
      by_cases hexpired : (c.config.replayWindowSeconds : ℚ) < c.now - stored
      · exact .inr ⟨c, rfl, hexpired⟩
      left
      show (verifyRsaRequest py jwt c cache).2.get? key = some stored
      cases hauth : authenticateRsa py jwt c with
      | error e =>
          unfold verifyRsaRequest
          rw [hauth]
          exact h
      | ok r =>
          rw [verifyRsaRequest_of_authenticate hauth]
          exact rememberVerifiedNonce_keeps h hexpired

/-- INTERNAL: by induction on the calls, an entry is there until a call finds it expired. -/
theorem RsaCall.run_keeps {key : String} {stored : ℤ} (calls : List RsaCall)
    (h : cache.get? key = some stored) :
    (calls.foldl (RsaCall.step py jwt) cache).get? key = some stored ∨
      ∃ c, .verify c ∈ calls ∧ (c.config.replayWindowSeconds : ℚ) < c.now - stored := by
  induction calls generalizing cache with
  | nil => exact .inl h
  | cons call calls ih =>
      rw [List.foldl_cons]
      rcases @RsaCall.step_keeps py jwt cache key stored call h with hkept | ⟨c, rfl, hexpired⟩
      · rcases ih hkept with hkept | ⟨c, hc, hexpired⟩
        · exact .inl hkept
        · exact .inr ⟨c, List.mem_cons_of_mem call hc, hexpired⟩
      · exact .inr ⟨c, List.mem_cons_self, hexpired⟩

end Cache

/-! ## Made once, accepted once -/

section Runs

variable {jwt : PyJwt} {calls : List RsaCall}

/-- INTERNAL: after a request is accepted, one with the same values is not: its nonce is in the
cache until the window is over. -/
theorem not_acceptsToken_again {py : Stdlib} {W : ℕ}
    (hwindow : ∀ c, .verify c ∈ calls → c.config.replayWindowSeconds = W)
    (hclock : RsaNonDecreasingClock calls) {before middle after : List RsaCall}
    {c d : RsaVerifyCall} {token token' : String} {r : RsaRequest}
    (hcalls : calls = (before ++ .verify c :: middle) ++ .verify d :: after)
    (hc : AcceptsToken py jwt before c token r) :
    ¬ AcceptsToken py jwt (before ++ .verify c :: middle) d token' r := by
  intro hd
  have hcauth := authenticateRsa_eq_ok_iff.mpr ⟨token, hc.authentic⟩
  have hdauth := authenticateRsa_eq_ok_iff.mpr ⟨token', hd.authentic⟩
  have hdaccepts := (verifyRsaRequest_accepts_iff hdauth).mp hd.accepted
  have hdwindow : d.config.replayWindowSeconds = W := hwindow d (by simp [hcalls])
  rw [remember_eq_ok_iff, hdwindow, outsideWindow_eq_ok_iff] at hdaccepts
  obtain ⟨⟨_, hinside⟩, hremembered⟩ := hdaccepts
  have hfresh : ¬ (W : ℚ) < d.now - r.timestamp := by
    rw [eq_comm, decide_eq_false_iff_not, not_lt] at hinside
    exact not_lt.mpr (le_trans (le_abs_self _) hinside)
  have hinserted := verifyRsaRequest_inserts hcauth hc.accepted
  have hcache : rsaCacheAfter py jwt (before ++ .verify c :: middle) =
      middle.foldl (RsaCall.step py jwt)
        (verifyRsaRequest py jwt c (rsaCacheAfter py jwt before)).2 := by
    unfold rsaCacheAfter
    rw [List.foldl_append, List.foldl_cons]
    rfl
  rw [hcache] at hremembered
  rcases RsaCall.run_keeps middle hinserted with hkept | ⟨e, he, hexpired⟩
  · exact hfresh (hremembered r.timestamp hkept)
  · have he' : .verify e ∈ before ++ .verify c :: middle := by simp [he]
    rw [hwindow e (by rw [hcalls]; exact List.mem_append_left _ he')] at hexpired
    have hnow : e.now ≤ d.now := by
      subst hcalls
      unfold RsaNonDecreasingClock at hclock
      rw [List.pairwise_append] at hclock
      exact hclock.2.2 _ he' _ List.mem_cons_self
    exact hfresh (lt_of_lt_of_le hexpired (sub_le_sub_right hnow _))

/-- INTERNAL: an accepted request is, part by part, one that was signed. -/
theorem signed_of_authentic {py : UpperStdlib}
    (hunforgeable : RsaUnforgeable py.toStdlib jwt calls) {before after : List RsaCall}
    {c : RsaVerifyCall} {token : String} {claims : JwtClaims} {r : RsaRequest}
    (hcalls : calls = before ++ .verify c :: after)
    (h : RsaAuthentic py.toStdlib jwt c token claims r) :
    ∃ s made, .sign s ∈ before ∧ SignsToken py.toStdlib jwt s r made ∧
      claims = requestClaims s.config r := by
  obtain ⟨s, r', made, hs, hmade, hclaims⟩ :=
    hunforgeable before c after hcalls token claims h.bearer h.decoded
  rw [hclaims] at h
  have hr : r = r' := eq_of_claims hmade.request h
  rw [hr]
  exact ⟨s, made, hs, hmade, hclaims⟩

end Runs

/-- In a run of signing and verifying calls that share a replay cache and a replay window, with a
clock that does not go back, every request is accepted as its token was made, and once at
most. -/
theorem verifyRsaRequest_acceptsTokenOnce (py : UpperStdlib) (jwt : PyJwt) (W : ℕ)
    (calls : List RsaCall)
    (hwindow : ∀ c, .verify c ∈ calls → c.config.replayWindowSeconds = W)
    (hclock : RsaNonDecreasingClock calls)
    (hunforgeable : RsaUnforgeable py.toStdlib jwt calls) :
    AcceptsTokenOnce py.toStdlib jwt calls := by
  constructor
  · intro before c after identity hcalls haccepts
    obtain ⟨r, hr, rfl⟩ := verifyRsaRequest_eq_ok haccepts
    obtain ⟨token, claims, hauthentic⟩ := authenticateRsa_eq_ok_iff.mp hr
    obtain ⟨s, made, hs, hmade, hclaims⟩ := signed_of_authentic hunforgeable hcalls hauthentic
    refine ⟨token, r, ⟨⟨claims, hauthentic⟩, haccepts⟩, rfl, ⟨s, made, hs, hmade⟩, ?_⟩
    intro s' r' hs'
    have hpayload := hs'.payload_eq
    rw [← hauthentic.claims_eq, hclaims] at hpayload
    exact (requestClaims_inj hpayload).symm
  · intro before c middle d after token token' r r' hcalls hc hd
    have hne : r ≠ r' := by
      rintro rfl
      exact not_acceptsToken_again hwindow hclock hcalls hc hd
    refine ⟨?_, hne⟩
    rintro rfl
    obtain ⟨claims, hcauthentic⟩ := hc.authentic
    obtain ⟨claims', hdauthentic⟩ := hd.authentic
    have hcalls' : calls = before ++ .verify c :: (middle ++ .verify d :: after) := by
      rw [hcalls]
      simp
    obtain ⟨s, _, _, _, hclaims⟩ := signed_of_authentic hunforgeable hcalls' hcauthentic
    obtain ⟨s', _, _, _, hclaims'⟩ := signed_of_authentic hunforgeable hcalls hdauthentic
    have hsame : claims = claims' := by
      rw [hcauthentic.claims_eq, hdauthentic.claims_eq]
    rw [hclaims, hclaims'] at hsame
    exact hne (requestClaims_inj hsame)


/-! ## Requests signed at the times 1000 and 1020 -/

namespace RsaSample

def stdlib : UpperStdlib where
  toStdlib := Reference.stdlib
  strip_upper s hs := by
    show Text.strip (s.map Char.toUpper) = s.map Char.toUpper
    have hmap : s.map Char.toUpper = String.ofList (s.toList.map Char.toUpper) := by
      rw [← String.toList_inj, String.toList_map, String.toList_ofList]
    rw [hmap]
    exact Text.strip_map (fun _ => Text.isSpace_toUpper) hs

/-- An authenticator with a replay window of its own. -/
def config (window : ℕ) (hwindow : 0 < window) : RsaConfig where
  rsaPrivateKeyPath := some (some [112, 114, 105, 118])
  rsaPublicKeyPath := some (some [112, 117, 98])
  rsaIssuer := "nmc-s2s"
  rsaAudience := "nmc-services"
  tokenTtlSeconds := 60
  tokenTtlSeconds_pos := by decide
  replayWindowSeconds := window
  replayWindowSeconds_pos := hwindow

def narrow : RsaConfig := config 10 (by decide)

theorem wideWindow_pos : 0 < 300 := by decide

def wide : RsaConfig := config 300 wideWindow_pos

def first : RsaRequest := ⟨"POST", "/admin/log-level", 1000, "n-1", "api-gateway"⟩

def second : RsaRequest := ⟨"POST", "/admin/log-level", 1020, "n-2", "api-gateway"⟩

/-- The two tokens, with what they were made for. -/
def tokens : List (String × RsaRequest) :=
  [("header.claims-1.signature-1", first), ("header.claims-2.signature-2", second)]

def sameScalar : JSONValue → JSONValue → Bool
  | .str a, .str b => a == b
  | .int a, .int b => a == b
  | _, _ => false

def sameEntries : JSONObject → JSONObject → Bool
  | [], [] => true
  | (k, v) :: rest, (k', v') :: rest' => k == k' && sameScalar v v' && sameEntries rest rest'
  | _, _ => false

theorem eq_of_sameScalar {v v' : JSONValue} (h : sameScalar v v' = true) : v = v' := by
  unfold sameScalar at h
  split at h
  · rw [beq_iff_eq] at h
    rw [h]
  · rw [beq_iff_eq] at h
    rw [h]
  · cases h

theorem eq_of_sameEntries {l l' : JSONObject} (h : sameEntries l l' = true) : l = l' := by
  induction l, l' using sameEntries.induct with
  | case1 => rfl
  | case2 k v rest k' v' rest' ih =>
      unfold sameEntries at h
      rw [Bool.and_eq_true, Bool.and_eq_true, beq_iff_eq] at h
      rw [h.1.1, eq_of_sameScalar h.1.2, ih h.2]
  | case3 l l' hnil hcons =>
      unfold sameEntries at h
      split at h
      · exact absurd rfl (hnil rfl)
      · exact (hcons _ _ _ _ _ _ rfl rfl).elim
      · cases h

theorem eq_of_sameClaims {claims claims' : JwtClaims}
    (h : sameEntries claims.entries claims'.entries = true) : claims = claims' := by
  have hentries := eq_of_sameEntries h
  cases claims
  cases claims'
  simp only at hentries
  subst hentries
  rfl

/-- PyJWT on the two tokens: the second key checks what the first one signs. -/
def jwt : PyJwt where
  encode claims key :=
    match tokens.find? fun t => sameEntries claims.entries (requestClaims wide t.2).entries with
    | some t => if key = [112, 114, 105, 118] then .ok t.1 else .error (.valueError "key")
    | none => .error (.valueError "claims")
  decode token key audience issuer now :=
    match tokens.find? fun t => t.1 == token with
    | some t =>
        if key ≠ [112, 117, 98] ∨ now < t.2.timestamp ∨ (t.2.timestamp : ℚ) + 60 ≤ now then
          .error .pyJwt
        else if issuer ≠ "nmc-s2s" then .error .invalidIssuer
        else if audience ≠ "nmc-services" then .error .invalidAudience
        else .ok (requestClaims wide t.2)
    | none => .error .pyJwt
  payload token :=
    match tokens.find? fun t => t.1 == token with
    | some t => requestClaims wide t.2
    | none => Dict.empty
  decode_payload token key audience issuer now claims h := by
    split at h
    · rename_i t ht
      split_ifs at h
      cases h
      rfl
    · cases h
  payload_encode claims key token h := by
    split at h
    · rename_i t ht
      split_ifs at h
      cases h
      have hsame := List.find?_some ht
      rw [eq_of_sameClaims hsame]
      have hmem := List.mem_of_find?_eq_some ht
      simp only [tokens, List.mem_cons, List.not_mem_nil, or_false] at hmem
      rcases hmem with rfl | rfl
      · rfl
      · rfl
    · cases h

/-- INTERNAL: what PyJWT accepts was made for one of the two requests. -/
theorem claims_of_decode {config : RsaConfig} {now : ℚ} {token : String} {claims : JwtClaims}
    (h : decodeToken jwt config now token = .ok claims) :
    ∃ r, (r = first ∨ r = second) ∧ claims = requestClaims wide r := by
  unfold decodeToken at h
  rw [bind_eq_ok_iff] at h
  obtain ⟨key, _, h⟩ := h
  split at h
  · rename_i decoded hdecode
    cases h
    unfold jwt at hdecode
    dsimp only at hdecode
    split at hdecode
    · rename_i t ht
      split_ifs at hdecode
      have hclaims := (Except.ok.inj hdecode).symm
      have hmem := List.mem_of_find?_eq_some ht
      simp only [tokens, List.mem_cons, List.not_mem_nil, or_false] at hmem
      rcases hmem with rfl | rfl
      · exact ⟨first, .inl rfl, hclaims⟩
      · exact ⟨second, .inr rfl, hclaims⟩
    · cases hdecode
  all_goals cases h

def sign (r : RsaRequest) : RsaSignCall :=
  ⟨wide, r.timestamp, SignedSample.token, r.method, r.path, r.serviceName, none, none, some r.nonce⟩

/-- A token presented with the headers it was signed with. -/
def verify (config : RsaConfig) (now : ℚ) (token : String) (r : RsaRequest) : RsaVerifyCall where
  config := config
  now := now
  jwtNow := now
  headers := Dict.ofList [(authorizationHeader, "Bearer " ++ token),
    (s2sMethodHeader, AuthMethod.rsaKey.value), (s2sServiceHeader, r.serviceName),
    (s2sTimestampHeader, toString r.timestamp), (s2sNonceHeader, r.nonce)]
  method := r.method
  path := r.path

def verifyFirst (config : RsaConfig) (now : ℚ) : RsaVerifyCall :=
  verify config now "header.claims-1.signature-1" first

def verifySecond (config : RsaConfig) (now : ℚ) : RsaVerifyCall :=
  verify config now "header.claims-2.signature-2" second

theorem signsToken_first :
    SignsToken Reference.stdlib jwt (sign first) first "header.claims-1.signature-1" :=
  signsToken_of_encode (by decide +kernel) rfl rfl rfl

theorem signsToken_second :
    SignsToken Reference.stdlib jwt (sign second) second "header.claims-2.signature-2" :=
  signsToken_of_encode (by decide +kernel) rfl rfl rfl

/-- The two requests are signed, and then the first token is presented to the authenticator with
the wide window, before and after some other calls. -/
def run (middle : List RsaCall) : List RsaCall :=
  .sign (sign first) :: .sign (sign second) :: .verify (verifyFirst wide 1000) ::
    (middle ++ [.verify (verifyFirst wide 1030)])

theorem run_unforgeable {middle : List RsaCall} :
    RsaUnforgeable Reference.stdlib jwt (run middle) := by
  intro before c after hcalls token claims _ hclaims
  obtain ⟨r, hr, hmade⟩ := claims_of_decode hclaims
  have hsigned : .sign (sign first) ∈ before ∧ .sign (sign second) ∈ before := by
    unfold run at hcalls
    cases before with
    | nil => cases hcalls
    | cons call before =>
        cases before with
        | nil => cases hcalls
        | cons call' before =>
            rw [List.cons_append, List.cons_append, List.cons.injEq, List.cons.injEq] at hcalls
            obtain ⟨rfl, rfl, _⟩ := hcalls
            simp
  rcases hr with rfl | rfl
  · exact ⟨sign first, first, _, hsigned.1, signsToken_first, hmade⟩
  · exact ⟨sign second, second, _, hsigned.2, signsToken_second, hmade⟩

theorem acceptsToken_of_verify {before : List RsaCall} {c : RsaVerifyCall} {r : RsaRequest}
    (hauth : authenticateRsa Reference.stdlib jwt c = .ok r)
    (haccepted : (verifyRsaRequest Reference.stdlib jwt c
      (rsaCacheAfter Reference.stdlib jwt before)).1 = .ok ⟨r.serviceName, .rsaKey⟩) :
    ∃ token, bearerToken Reference.stdlib c.headers = .ok token ∧
      AcceptsToken Reference.stdlib jwt before c token r := by
  obtain ⟨token, hauthentic⟩ := authenticateRsa_eq_ok_iff.mp hauth
  obtain ⟨claims, h⟩ := hauthentic
  exact ⟨token, h.bearer, ⟨claims, h⟩, haccepted⟩

end RsaSample

open RsaSample in
/-- A token is accepted at once, and its repeat is not. -/
theorem verifyRsaRequest_acceptsTokenOnce_logLevel :
    (verifyRsaRequest Reference.stdlib jwt (verifyFirst wide 1000)
      (rsaCacheAfter Reference.stdlib jwt [.sign (sign first), .sign (sign second)])).1 =
        .ok ⟨"api-gateway", .rsaKey⟩ ∧
    AcceptsTokenOnce Reference.stdlib jwt (run []) := by
  constructor
  · decide +kernel
  · refine verifyRsaRequest_acceptsTokenOnce stdlib jwt 300 (run []) ?_ ?_ run_unforgeable
    · intro c hc
      simp only [run, List.nil_append, List.mem_cons, List.not_mem_nil, or_false, reduceCtorEq,
        false_or, RsaCall.verify.injEq] at hc
      rcases hc with rfl | rfl
      · rfl
      · rfl
    · simp only [RsaNonDecreasingClock, run, List.nil_append, List.pairwise_cons, List.mem_cons,
        List.not_mem_nil, or_false, forall_eq, implies_true, and_true,
        List.Pairwise.nil, verifyFirst, verify, IsEmpty.forall_iff, true_and]
      norm_num

open RsaSample in
/-- Where two authenticators share the cache, and one has a shorter window, that one drops the
nonce of a token which the other then accepts again. -/
theorem not_acceptsTokenOnce_narrow : ¬ ∀ (py : UpperStdlib) (jwt : PyJwt)
    (calls : List RsaCall), RsaNonDecreasingClock calls → RsaUnforgeable py.toStdlib jwt calls →
    AcceptsTokenOnce py.toStdlib jwt calls := by
  intro hclaim
  have hclock : RsaNonDecreasingClock (run [.verify (verifySecond narrow 1020)]) := by
    simp only [RsaNonDecreasingClock, run, List.cons_append, List.nil_append, List.pairwise_cons,
      List.mem_cons, List.not_mem_nil, or_false, forall_eq_or_imp, forall_eq, implies_true,
      and_true, List.Pairwise.nil, verifyFirst, verifySecond, verify, IsEmpty.forall_iff,
      true_and]
    norm_num
  have honce := (hclaim stdlib jwt _ hclock run_unforgeable).once
    [.sign (sign first), .sign (sign second)] (verifyFirst wide 1000)
    [.verify (verifySecond narrow 1020)] (verifyFirst wide 1030) []
  obtain ⟨token, hbearer, hfirst⟩ := @acceptsToken_of_verify
    [.sign (sign first), .sign (sign second)] (verifyFirst wide 1000) first (by decide +kernel)
    (by decide +kernel)
  obtain ⟨token', hbearer', hagain⟩ := @acceptsToken_of_verify
    ([.sign (sign first), .sign (sign second)] ++ .verify (verifyFirst wide 1000) ::
      [.verify (verifySecond narrow 1020)]) (verifyFirst wide 1030) first (by decide +kernel)
    (by decide +kernel)
  have hsame : token = token' := Except.ok.inj (hbearer.symm.trans hbearer')
  exact (honce token token' first first rfl hfirst hagain).1 hsame

end MediaCenter.Shared
