import MediaCenter.Model.Shared.S2SAuth

/-!
# Service requests signed with RSA (`libs/shared/s2s_auth.py`)

`RSAS2SAuth` puts method, path, timestamp, nonce and service name of a request in the claims of
a token.  The token is made and checked by PyJWT, which reads a clock of its own; the replay
cache is that of the shared-secret authenticator.
-/

set_option autoImplicit false

namespace MediaCenter.Shared

open MediaCenter.Library

def authorizationHeader : String := "Authorization"

abbrev JwtClaims : Type := Dict String JSONValue

/-- Why `jwt.decode` raises. -/
inductive JwtError : Type where
  | invalidIssuer
  | invalidAudience
  /-- Any other `PyJWTError`. -/
  | pyJwt
  | builtin (e : SharedException)
  deriving DecidableEq, Repr

/-- PyJWT with RS256: the token for some claims and a private key, and the claims of a token that
is valid under a public key, for an audience and an issuer, at a time. -/
structure PyJwt where
  encode : JwtClaims → List ℕ → Except SharedException String
  decode : String → List ℕ → String → String → ℚ → Except JwtError JwtClaims
  /-- The claims that a token carries. -/
  payload : String → JwtClaims
  decode_payload : ∀ token key audience issuer now claims,
    decode token key audience issuer now = .ok claims → claims = payload token
  payload_encode : ∀ claims key token, encode claims key = .ok token → payload token = claims

/-- What the RSA methods read of `S2SConfig`.  Where a key path is set, there is the content of
the file, or none if it cannot be read. -/
structure RsaConfig where
  rsaPrivateKeyPath : Option (Option (List ℕ))
  rsaPublicKeyPath : Option (Option (List ℕ))
  rsaIssuer : String
  rsaAudience : String
  tokenTtlSeconds : ℕ
  tokenTtlSeconds_pos : 0 < tokenTtlSeconds
  replayWindowSeconds : ℕ
  replayWindowSeconds_pos : 0 < replayWindowSeconds

/-- `_read_bytes_file`. -/
def readBytesFile (content : Option (List ℕ)) (fieldName : String) :
    Except S2SException (List ℕ) :=
  match content with
  | none => .error (.authentication (fieldName ++ " недоступен"))
  | some value =>
      if value.all (fun b => b == 32 || (9 ≤ b && b ≤ 13)) = true then
        .error (.authentication (fieldName ++ " пуст"))
      else .ok value

/-- `_private_key_bytes`. -/
def privateKeyBytes (config : RsaConfig) : Except S2SException (List ℕ) :=
  match config.rsaPrivateKeyPath with
  | none => .error (.authentication "S2S RSA private key не настроен")
  | some content => readBytesFile content "rsa_private_key_path"

/-- `_public_key_bytes`. -/
def publicKeyBytes (config : RsaConfig) : Except S2SException (List ℕ) :=
  match config.rsaPublicKeyPath with
  | none => .error (.authentication "S2S RSA public key не настроен")
  | some content => readBytesFile content "rsa_public_key_path"

/-! ## Signing -/

/-- A call of `sign_request`: its arguments, and what it reads from outside. -/
structure RsaSignCall where
  config : RsaConfig
  now : ℚ
  freshNonce : UrlsafeToken
  method : String
  path : String
  serviceName : String
  headers : Option (Dict String String)
  timestamp : Option ℤ
  nonce : Option String

/-- `timestamp if timestamp is not None else int(self._now())`. -/
def RsaSignCall.resolvedTimestamp (c : RsaSignCall) : ℤ :=
  match c.timestamp with
  | some timestamp => timestamp
  | none => c.now.num.tdiv c.now.den

/-- What a token says of a request. -/
structure RsaRequest where
  method : String
  path : String
  timestamp : ℤ
  nonce : String
  serviceName : String
  deriving DecidableEq, Repr

/-- The normalised arguments of `sign_request`. -/
def normalizedRequest (py : Stdlib) (c : RsaSignCall) : Except S2SException RsaRequest := do
  let normalizedMethod ← normalizeMethod py c.method
  let normalizedPath ← normalizePath c.path
  let normalizedService ← normalizeRequiredText (some c.serviceName) "service_name"
  let resolvedNonce := orDefault c.nonce c.freshNonce.text
  let normalizedNonce ← normalizeRequiredText (some resolvedNonce) "nonce"
  return ⟨normalizedMethod, normalizedPath, c.resolvedTimestamp, normalizedNonce,
    normalizedService⟩

/-- The claims that `sign_request` puts in a token. -/
def requestClaims (config : RsaConfig) (r : RsaRequest) : JwtClaims :=
  ((((((((Dict.empty.set "iss" (.str config.rsaIssuer)).set "sub" (.str r.serviceName)).set "aud"
    (.str config.rsaAudience)).set "iat" (.int r.timestamp)).set "nbf"
    (.int (r.timestamp - 1))).set "exp" (.int (r.timestamp + config.tokenTtlSeconds))).set "nonce"
    (.str r.nonce)).set "method" (.str r.method)).set "path" (.str r.path)

/-- `RSAS2SAuth.sign_request`. -/
def signRsaRequest (py : Stdlib) (jwt : PyJwt) (c : RsaSignCall) :
    Except S2SException (Dict String String) := do
  let r ← normalizedRequest py c
  let privateKey ← privateKeyBytes c.config
  let token ← (jwt.encode (requestClaims c.config r) privateKey).mapError .builtin
  let text ← timestampText r.timestamp
  return ((((((c.headers.getD Dict.empty).set authorizationHeader ("Bearer " ++ token)).set
    s2sMethodHeader AuthMethod.rsaKey.value).set s2sServiceHeader r.serviceName).set
    s2sTimestampHeader text).set s2sNonceHeader r.nonce)

/-! ## Verifying -/

/-- `_bearer_token`. -/
def bearerToken (py : Stdlib) (headers : Dict String String) : Except S2SException String := do
  let rawAuth ← normalizeRequiredText (readHeader py headers authorizationHeader)
    authorizationHeader
  if "Bearer ".toList.isPrefixOf rawAuth.toList = true then
    normalizeRequiredText (some (String.ofList (rawAuth.toList.drop 7))) "Bearer token"
  else .error (.authentication "Authorization должен быть Bearer token")

/-- A call of `verify_request`: its arguments, and the clocks that it and PyJWT read. -/
structure RsaVerifyCall where
  config : RsaConfig
  now : ℚ
  jwtNow : ℚ
  headers : Dict String String
  method : String
  path : String

/-- `_decode_token`. -/
def decodeToken (jwt : PyJwt) (config : RsaConfig) (jwtNow : ℚ) (token : String) :
    Except S2SException JwtClaims := do
  let publicKey ← publicKeyBytes config
  match jwt.decode token publicKey config.rsaAudience config.rsaIssuer jwtNow with
  | .ok claims => .ok claims
  | .error .invalidIssuer => .error (.authentication "S2S RSA issuer недействителен")
  | .error .invalidAudience => .error (.authentication "S2S RSA audience недействителен")
  | .error .pyJwt => .error (.authentication "S2S RSA token недействителен")
  | .error (.builtin e) => .error (.builtin e)

/-- `_claim_required_text`. -/
def claimRequiredText (claims : JwtClaims) (name : String) : Except S2SException String :=
  match claims.get? name with
  | some (.str value) =>
      if Text.strip value = "" then
        .error (.authentication ("S2S JWT claim " ++ name ++ " отсутствует"))
      else .ok (Text.strip value)
  | _ => .error (.authentication ("S2S JWT claim " ++ name ++ " отсутствует"))

/-- `_claim_required_int`; a `bool` is an `int`. -/
def claimRequiredInt (claims : JwtClaims) (name : String) : Except S2SException ℤ :=
  match claims.get? name with
  | some (.int value) => .ok value
  | some (.bool value) => .ok (if value = true then 1 else 0)
  | _ => .error (.authentication ("S2S JWT claim " ++ name ++ " отсутствует"))

/-- `verify_request` up to the replay cache. -/
def authenticateRsa (py : Stdlib) (jwt : PyJwt) (c : RsaVerifyCall) :
    Except S2SException RsaRequest := do
  let normalizedMethod ← normalizeMethod py c.method
  let normalizedPath ← normalizePath c.path
  refuseIf (readHeader py c.headers s2sMethodHeader ≠ some AuthMethod.rsaKey.value)
    (.authentication "S2S method не поддерживается")
  let token ← bearerToken py c.headers
  let claims ← decodeToken jwt c.config c.jwtNow token
  let serviceName ← claimRequiredText claims "sub"
  let nonce ← normalizeRequiredText (readHeader py c.headers s2sNonceHeader) s2sNonceHeader
  let timestamp ← parseTimestamp (readHeader py c.headers s2sTimestampHeader)
  let issuedAt ← claimRequiredInt claims "iat"
  refuseIf (issuedAt ≠ timestamp) (.authentication "S2S RSA timestamp не совпадает")
  let claimedNonce ← claimRequiredText claims "nonce"
  refuseIf (claimedNonce ≠ nonce) (.authentication "S2S RSA nonce не совпадает")
  let claimedMethod ← claimRequiredText claims "method"
  refuseIf (claimedMethod ≠ normalizedMethod) (.authentication "S2S RSA method не совпадает")
  let claimedPath ← claimRequiredText claims "path"
  refuseIf (claimedPath ≠ normalizedPath) (.authentication "S2S RSA path не совпадает")
  return ⟨normalizedMethod, normalizedPath, timestamp, nonce, serviceName⟩

/-- `_remember_verified_nonce`. -/
def rememberVerifiedNonce (config : RsaConfig) (now : ℚ) (r : RsaRequest)
    (cache : S2SReplayCache) : Except S2SException Unit × S2SReplayCache :=
  match outsideWindow now r.timestamp config.replayWindowSeconds with
  | .error e => (.error e, cache)
  | .ok true => (.error (.authentication "S2S timestamp вне допустимого окна"), cache)
  | .ok false => remember r.serviceName r.nonce r.timestamp now config.replayWindowSeconds cache

/-- `RSAS2SAuth.verify_request`. -/
def verifyRsaRequest (py : Stdlib) (jwt : PyJwt) (c : RsaVerifyCall) (cache : S2SReplayCache) :
    Except S2SException S2SIdentity × S2SReplayCache :=
  match authenticateRsa py jwt c with
  | .error e => (.error e, cache)
  | .ok r =>
      match rememberVerifiedNonce c.config c.now r cache with
      | (.error e, cache') => (.error e, cache')
      | (.ok _, cache') => (.ok ⟨r.serviceName, .rsaKey⟩, cache')

/-! ## Runs -/

inductive RsaCall : Type where
  | sign (c : RsaSignCall)
  | verify (c : RsaVerifyCall)

/-- What a call does to the replay cache. -/
def RsaCall.step (py : Stdlib) (jwt : PyJwt) (cache : S2SReplayCache) : RsaCall → S2SReplayCache
  | .sign _ => cache
  | .verify c => (verifyRsaRequest py jwt c cache).2

/-- The replay cache after some calls. -/
def rsaCacheAfter (py : Stdlib) (jwt : PyJwt) (calls : List RsaCall) : S2SReplayCache :=
  calls.foldl (RsaCall.step py jwt) Dict.empty

end MediaCenter.Shared
