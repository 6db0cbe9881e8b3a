import MediaCenter.Library.Binary64
import MediaCenter.Model.Shared.AuthTokens

/-!
# Reading tokens (`libs/shared/tenant.py`, `libs/shared/auth.py`)

A token is cut at its dots, its signature is made once more, and its registered claims are
compared with a clock, an issuer and an audience.  Base64 and JSON are read by the standard
library.
-/

set_option autoImplicit false

namespace MediaCenter.Shared

open MediaCenter.Library

/-! ## Segments -/

/-- Why a segment is not read. -/
inductive SegmentError : Type where
  /-- `binascii.Error`, `JSONDecodeError` or `UnicodeDecodeError`. -/
  | malformed
  /-- Any other exception, such as the `ValueError` of a segment that is not ASCII. -/
  | other (message : String)

/-- `base64.urlsafe_b64decode` of a segment with its padding, and `json.loads` of bytes. -/
structure SegmentCodec where
  b64decode : String → Except SegmentError (List ℕ)
  loads : List ℕ → Except SegmentError JSONValue

/-- What `json.dumps` writes as it was: integers, texts and lists of texts. -/
def JSONValue.isPlain : JSONValue → Bool
  | .str _ => true
  | .int _ => true
  | .list items => items.all fun item => (asStr item).isSome
  | _ => false

/-- The two codecs read what the encoder writes, keys being in order and different. -/
structure SegmentCodec.Lawful (codec : SegmentCodec) (py : Stdlib) : Prop where
  b64decode_encode : ∀ data : List ℕ, (∀ b ∈ data, b < 256) →
    codec.b64decode (base64urlEncode data) = .ok data
  loads_dumps : ∀ claims : JSONObject, (claims.map Prod.fst).Pairwise (· < ·) →
    (∀ p ∈ claims, p.2.isPlain = true) →
    codec.loads (Reference.utf8 (dumpsCompact py (.dict claims))) = .ok (.dict claims)

abbrev Claims : Type := Dict String JSONValue

/-- `_decode_json_segment`. -/
def decodeJsonSegment (codec : SegmentCodec) (segment : String) :
    Except SharedException Claims :=
  match codec.b64decode segment >>= codec.loads with
  | .error .malformed => .error (.unauthorized "JWT содержит некорректный JSON" none)
  | .error (.other message) => .error (.valueError message)
  | .ok (.dict decoded) => .ok (Dict.ofList decoded)
  | .ok _ => .error (.unauthorized "JWT segment должен быть JSON object" none)

/-- `_base64url_decode` of the signature. -/
def decodeSignature (codec : SegmentCodec) (segment : String) :
    Except SharedException (List ℕ) :=
  match codec.b64decode segment with
  | .error .malformed =>
      .error (.unauthorized "JWT signature имеет недопустимый base64url" none)
  | .error (.other message) => .error (.valueError message)
  | .ok signature => .ok signature

/-- `_sign_hs256`. -/
def signHs256 (signingInput : String) (secret : List ℕ) : Except SharedException (List ℕ) :=
  if signingInput.toList.all (fun c => c.toNat < 128) = true then
    .ok (Sha.hmac Sha.sha256 secret (Reference.utf8 signingInput))
  else .error (.valueError "'ascii' codec can't encode character")

/-! ## Registered claims -/

/-- The number that `float(value)` is, if the claim is numeric; a `bool` is not. -/
def numericClaim (value : JSONValue) : Option (Except SharedException ℚ) :=
  match value with
  | .int n =>
      match Binary64.ofInt n with
      | some x => some (.ok x)
      | none => some (.error (.overflowError "int too large to convert to float"))
  | .float x => some (.ok x)
  | _ => none

/-- A claim that is a number, or missing. -/
def timeClaim (claims : Claims) (name : String) : Except SharedException (Option ℚ) :=
  match claims.get? name with
  | none => .ok none
  | some .null => .ok none
  | some value =>
      match numericClaim value with
      | none => .error (.unauthorized ("JWT claim " ++ name ++ " должен быть числом") none)
      | some number => number.map some

/-- `_audience_matches`. -/
def audienceMatches (value : Option JSONValue) (expectedAudience : String) : Bool :=
  match value with
  | some (.str value) => decide (value = expectedAudience)
  | some (.list items) => items.any fun item => decide (asStr item = some expectedAudience)
  | _ => false

/-- `_validate_registered_claims`. -/
def validateRegisteredClaims (claims : Claims) (expectedIssuer expectedAudience : Option String)
    (now : ℚ) : Except SharedException Unit := do
  let expiresAt ← timeClaim claims "exp"
  refuseIf (∃ expires ∈ expiresAt, expires ≤ now) (.unauthorized "JWT истёк" none)
  let notBefore ← timeClaim claims "nbf"
  refuseIf (∃ start ∈ notBefore, now < start) (.unauthorized "JWT ещё не действует" none)
  refuseIf (∃ issuer ∈ expectedIssuer, (claims.get? "iss").bind asStr ≠ some issuer)
    (.unauthorized "JWT issuer не совпадает с ожидаемым" none)
  refuseIf (∃ audience ∈ expectedAudience, audienceMatches (claims.get? "aud") audience = false)
    (.unauthorized "JWT audience не совпадает с ожидаемым" none)

/-! ## Tokens -/

/-- `decode_hs256_jwt`; the secret is given as bytes. -/
def decodeHs256Jwt (codec : SegmentCodec) (token : String) (secret : List ℕ)
    (expectedIssuer expectedAudience : Option String) (now : ℚ) :
    Except SharedException Claims :=
  match (splitAtEvery '.' token.toList).map String.ofList with
  | [headerSegment, payloadSegment, signatureSegment] => do
      let header ← decodeJsonSegment codec headerSegment
      let claims ← decodeJsonSegment codec payloadSegment
      refuseIf ((header.get? "alg").bind asStr ≠ some "HS256")
        (.unauthorized "JWT должен использовать алгоритм HS256" none)
      let expectedSignature ← signHs256 (headerSegment ++ "." ++ payloadSegment) secret
      let actualSignature ← decodeSignature codec signatureSegment
      refuseIf (expectedSignature ≠ actualSignature)
        (.unauthorized "Подпись JWT недействительна" none)
      validateRegisteredClaims claims expectedIssuer expectedAudience now
      return claims
  | _ => .error (.unauthorized "JWT должен состоять из header, payload и signature" none)

/-- `_extract_bearer_token`. -/
def extractBearerToken (py : Stdlib) (authorizationHeader correlationId : Option String) :
    Except SharedException String :=
  match authorizationHeader with
  | none => .error (.unauthorized "Нет валидного JWT или service credentials" correlationId)
  | some authorizationHeader =>
      let header := (Text.strip authorizationHeader).toList
      let scheme := String.ofList (header.takeWhile fun c => c ≠ ' ')
      let separator := header.any fun c => c == ' '
      let token := Text.strip (String.ofList ((header.dropWhile fun c => c ≠ ' ').drop 1))
      if separator = false ∨ py.lower scheme ≠ "bearer" ∨ token = "" then
        .error (.unauthorized "Authorization header должен иметь формат Bearer JWT" none)
      else .ok token

/-- `tenant_context_from_authorization_header`. -/
def tenantContextFromAuthorizationHeader (py : Stdlib) (codec : SegmentCodec)
    (authorizationHeader : Option String) (secret : List ℕ)
    (expectedIssuer expectedAudience correlationId : Option String) (now : ℚ) :
    Except SharedException TenantContext := do
  let token ← extractBearerToken py authorizationHeader correlationId
  let claims ← decodeHs256Jwt codec token secret expectedIssuer expectedAudience now
  tenantContextFromClaims claims correlationId

/-- `AuthTokenService.verify_access_token`. -/
def AuthTokenService.verifyAccessToken (service : AuthTokenService) (codec : SegmentCodec)
    (now : ℚ) (token : String) (correlationId : Option String) :
    Except SharedException TenantContext := do
  let claims ← decodeHs256Jwt codec token service.jwtSecret (some service.issuer)
    (some service.audience) now
  refuseIf ((claims.get? "typ").bind asStr ≠ some "access")
    (.unauthorized "JWT должен быть access token" correlationId)
  refuseIf (((claims.get? "jti").bind asStr).isNone = true)
    (.unauthorized "JWT claim jti должен быть строкой" correlationId)
  tenantContextFromClaims claims correlationId

end MediaCenter.Shared
