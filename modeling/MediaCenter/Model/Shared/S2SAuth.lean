import MediaCenter.Library.Decimal
import MediaCenter.Library.Dict
import MediaCenter.Model.Shared.Auth
import MediaCenter.Model.Shared.Reference

/-!
# Signed service requests (`libs/shared/s2s_auth.py`)

`SharedSecretS2SAuth` signs method, path, timestamp, nonce and service name with a shared
secret, and verifies each signature once: the nonces seen within the replay window are
remembered.  Clock readings and their differences are exact rationals, of integers that a
`float` can hold.
-/

set_option autoImplicit false

namespace MediaCenter.Shared

open MediaCenter.Library

/-- `AuthMethod`. -/
inductive AuthMethod : Type where
  | k8sSa
  | rsaKey
  | sharedSecret
  deriving DecidableEq, Repr

def AuthMethod.value : AuthMethod → String
  | .k8sSa => "kubernetes_sa"
  | .rsaKey => "rsa_key"
  | .sharedSecret => "shared_secret"

inductive S2SException : Type where
  /-- `S2SAuthenticationError`. -/
  | authentication (message : String)
  /-- A `ValueError` or a `TypeError`. -/
  | builtin (e : SharedException)
  deriving DecidableEq, Repr

def s2sMethodHeader : String := "X-S2S-Method"
def s2sServiceHeader : String := "X-S2S-Service"
def s2sTimestampHeader : String := "X-S2S-Timestamp"
def s2sNonceHeader : String := "X-S2S-Nonce"
def s2sSignatureHeader : String := "X-S2S-Signature"

/-- The headers that `sign_request` sets. -/
def s2sHeaders : List String :=
  [s2sMethodHeader, s2sServiceHeader, s2sTimestampHeader, s2sNonceHeader,
    s2sSignatureHeader]

/-- What the shared-secret methods read of `S2SConfig`; the secret as bytes. -/
structure S2SConfig where
  sharedSecret : Option (List ℕ)
  replayWindowSeconds : ℕ
  replayWindowSeconds_pos : 0 < replayWindowSeconds

structure S2SIdentity where
  serviceName : String
  method : AuthMethod
  deriving DecidableEq, Repr

/-! ## Normalisation -/

/-- `_normalize_method`. -/
def normalizeMethod (py : Stdlib) (value : String) : Except S2SException String :=
  let normalized := py.upper (Text.strip value)
  if normalized = "" then .error (.builtin (.valueError "method должен быть непустой строкой"))
  else .ok normalized

/-- `_normalize_path`. -/
def normalizePath (value : String) : Except S2SException String :=
  let normalized := Text.strip value
  if normalized = "" then .error (.builtin (.valueError "path должен быть непустой строкой"))
  else if normalized.toList.head? = some '/' then .ok normalized
  else .error (.builtin (.valueError "path должен начинаться с /"))

/-- `_normalize_required_text`. -/
def normalizeRequiredText (value : Option String) (fieldName : String) :
    Except S2SException String :=
  match value with
  | none => .error (.authentication (fieldName ++ " отсутствует"))
  | some value =>
      let normalized := Text.strip value
      if normalized = "" then
        .error (.authentication (fieldName ++ " должен быть непустой строкой"))
      else .ok normalized

/-- `_parse_timestamp`. -/
def parseTimestamp (value : Option String) : Except S2SException ℤ := do
  let rawTimestamp ← normalizeRequiredText value s2sTimestampHeader
  match Decimal.parseInt rawTimestamp with
  | some timestamp => .ok timestamp
  | none => .error (.authentication (s2sTimestampHeader ++ " должен быть unix timestamp"))

/-- `str(timestamp)`. -/
def timestampText (timestamp : ℤ) : Except S2SException String :=
  match Decimal.formatInt timestamp with
  | some text => .ok text
  | none => .error (.builtin (.valueError
      "Exceeds the limit (4300 digits) for integer string conversion"))

/-- `_signature_payload`. -/
def signaturePayload (method path : String) (timestamp : ℤ) (nonce serviceName : String) :
    Except S2SException String := do
  let text ← timestampText timestamp
  return method ++ "\n" ++ path ++ "\n" ++ text ++ "\n" ++ nonce ++ "\n" ++ serviceName

/-- `_normalize_headers`. -/
def normalizeHeaders (py : Stdlib) (headers : Dict String String) : Dict String String :=
  Dict.ofList (headers.entries.map fun e => (py.lower e.1, Text.strip e.2))

/-- The normalised value of a header. -/
def readHeader (py : Stdlib) (headers : Dict String String) (name : String) : Option String :=
  (normalizeHeaders py headers).get? (py.lower name)

/-- `hmac.new(secret, payload.encode("utf-8"), hashlib.sha256).hexdigest()`. -/
@[irreducible] def hmacSha256Hex (secret : List ℕ) (payload : String) : String :=
  Sha.hexdigest (Sha.hmac Sha.sha256 secret (Reference.utf8 payload))

/-- `_secret_bytes`. -/
def secretBytes (config : S2SConfig) : Except S2SException (List ℕ) :=
  match config.sharedSecret with
  | none => .error (.authentication "S2S shared secret не настроен")
  | some secret => .ok secret

/-! ## Signing -/

/-- The text of `secrets.token_urlsafe(24)`. -/
structure UrlsafeToken where
  text : String
  length_text : text.toList.length = 32
  chars_text : (text.toList.all fun c => Text.isAsciiAlnum c || c == '-' || c == '_') = true

def Reference.urlsafeToken : UrlsafeToken where
  text := "0123456789abcdefghijklmnopqrstuv"
  length_text := by decide
  chars_text := by decide

/-- A call of `sign_request`: its arguments, and what it reads from outside. -/
structure SignCall where
  config : S2SConfig
  now : ℚ
  freshNonce : UrlsafeToken
  method : String
  path : String
  serviceName : String
  headers : Option (Dict String String)
  timestamp : Option ℤ
  nonce : Option String

/-- `timestamp if timestamp is not None else int(self._now())`. -/
def SignCall.resolvedTimestamp (c : SignCall) : ℤ :=
  match c.timestamp with
  | some timestamp => timestamp
  | none => c.now.num.tdiv c.now.den

/-- `SharedSecretS2SAuth.sign_request`. -/
def signRequest (py : Stdlib) (c : SignCall) : Except S2SException (Dict String String) := do
  let secret ← secretBytes c.config
  let normalizedMethod ← normalizeMethod py c.method
  let normalizedPath ← normalizePath c.path
  let normalizedService ← normalizeRequiredText (some c.serviceName) "service_name"
  let resolvedNonce := orDefault c.nonce c.freshNonce.text
  let normalizedNonce ← normalizeRequiredText (some resolvedNonce) "nonce"
  let payload ← signaturePayload normalizedMethod normalizedPath c.resolvedTimestamp
    normalizedNonce normalizedService
  let signature := hmacSha256Hex secret payload
  let text ← timestampText c.resolvedTimestamp
  return ((((((c.headers.getD Dict.empty).set s2sMethodHeader AuthMethod.sharedSecret.value).set
    s2sServiceHeader normalizedService).set s2sTimestampHeader text).set
    s2sNonceHeader normalizedNonce).set s2sSignatureHeader signature)

/-! ## Verifying -/

/-- Integers from here on are too large for a `float`. -/
def floatBound : ℤ := 2 ^ 1024 - 2 ^ 970

/-- `abs(now - timestamp) > replay_window_seconds`: the difference is a `float`. -/
def outsideWindow (now : ℚ) (timestamp : ℤ) (replayWindowSeconds : ℕ) :
    Except S2SException Bool :=
  if floatBound ≤ |timestamp| then
    .error (.builtin (.overflowError "int too large to convert to float"))
  else .ok (decide ((replayWindowSeconds : ℚ) < |now - timestamp|))

/-- `InMemoryS2SReplayCache`: the signed timestamp of each nonce seen. -/
abbrev S2SReplayCache : Type := Dict String ℤ

/-- `_drop_expired_nonces`; the stored timestamps were compared with the clock before. -/
def dropExpiredNonces (now : ℚ) (replayWindowSeconds : ℕ) (cache : S2SReplayCache) :
    S2SReplayCache :=
  cache.filter fun _ timestamp => !decide ((replayWindowSeconds : ℚ) < now - timestamp)

def replayCacheKey (serviceName nonce : String) : String := serviceName ++ ":" ++ nonce

/-- `remember`: the expired nonces are dropped even where the call is refused. -/
def remember (serviceName nonce : String) (timestamp : ℤ) (now : ℚ)
    (replayWindowSeconds : ℕ) (cache : S2SReplayCache) :
    Except S2SException Unit × S2SReplayCache :=
  let kept := dropExpiredNonces now replayWindowSeconds cache
  if kept.contains (replayCacheKey serviceName nonce) = true then
    (.error (.authentication "S2S nonce уже использован"), kept)
  else (.ok (), kept.set (replayCacheKey serviceName nonce) timestamp)

/-- A call of `verify_request`: its arguments, and the clock it reads. -/
structure VerifyCall where
  config : S2SConfig
  now : ℚ
  headers : Dict String String
  method : String
  path : String

/-- The signed values of a request whose signature is valid. -/
structure SignedRequest where
  method : String
  path : String
  timestamp : ℤ
  nonce : String
  serviceName : String
  signature : String
  deriving DecidableEq, Repr

/-- `verify_request` up to the replay cache. -/
def authenticate (py : Stdlib) (c : VerifyCall) : Except S2SException SignedRequest := do
  refuseIf (readHeader py c.headers s2sMethodHeader ≠ some AuthMethod.sharedSecret.value)
    (.authentication "S2S method не поддерживается")
  let serviceName ← normalizeRequiredText (readHeader py c.headers s2sServiceHeader)
    s2sServiceHeader
  let nonce ← normalizeRequiredText (readHeader py c.headers s2sNonceHeader) s2sNonceHeader
  let signature ← normalizeRequiredText (readHeader py c.headers s2sSignatureHeader)
    s2sSignatureHeader
  let timestamp ← parseTimestamp (readHeader py c.headers s2sTimestampHeader)
  let outside ← outsideWindow c.now timestamp c.config.replayWindowSeconds
  refuseIf (outside = true) (.authentication "S2S timestamp вне допустимого окна")
  let method ← normalizeMethod py c.method
  let path ← normalizePath c.path
  let payload ← signaturePayload method path timestamp nonce serviceName
  let secret ← secretBytes c.config
  let valid ← (compareDigest (hmacSha256Hex secret payload) signature).mapError .builtin
  refuseIf (valid = false) (.authentication "S2S signature недействительна")
  return ⟨method, path, timestamp, nonce, serviceName, signature⟩

/-- `SharedSecretS2SAuth.verify_request`. -/
def verifyRequest (py : Stdlib) (c : VerifyCall) (cache : S2SReplayCache) :
    Except S2SException S2SIdentity × S2SReplayCache :=
  match authenticate py c with
  | .error e => (.error e, cache)
  | .ok signed =>
      match remember signed.serviceName signed.nonce signed.timestamp c.now
        c.config.replayWindowSeconds cache with
      | (.error e, cache') => (.error e, cache')
      | (.ok _, cache') => (.ok ⟨signed.serviceName, .sharedSecret⟩, cache')

/-- What `require_s2s` raises: an `HTTPException`, or what it does not catch. -/
inductive RequireS2SFailure : Type where
  | http (statusCode : ℕ) (detail : String)
  | raised (e : SharedException)
  deriving DecidableEq, Repr

/-- `require_s2s` of a request without a cached identity. -/
def requireS2s (py : Stdlib) (c : VerifyCall) (cache : S2SReplayCache) :
    Except RequireS2SFailure S2SIdentity × S2SReplayCache :=
  match verifyRequest py c cache with
  | (.ok identity, cache') => (.ok identity, cache')
  | (.error (.authentication message), cache') => (.error (.http 401 message), cache')
  | (.error (.builtin e), cache') => (.error (.raised e), cache')

/-! ## Runs -/

/-- A call of a service that signs, or of one that verifies. -/
inductive S2SCall : Type where
  | sign (c : SignCall)
  | verify (c : VerifyCall)

/-- What a call does to the replay cache. -/
def S2SCall.step (py : Stdlib) (cache : S2SReplayCache) : S2SCall → S2SReplayCache
  | .sign _ => cache
  | .verify c => (verifyRequest py c cache).2

/-- The replay cache after some calls. -/
def cacheAfter (py : Stdlib) (calls : List S2SCall) : S2SReplayCache :=
  calls.foldl (S2SCall.step py) Dict.empty

end MediaCenter.Shared
