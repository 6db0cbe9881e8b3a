import MediaCenter.Model.Shared.Json
import MediaCenter.Model.Shared.Reference
import MediaCenter.Model.Shared.TenantHeaders

/-!
# Access and refresh tokens (`libs/shared/auth.py`)

`AuthTokenService` issues a signed access token together with an opaque refresh token.  The
server keeps the hash of a refresh token only; a refresh revokes the old record and names the
one that replaces it.  Clock readings are `int(self._clock())`.
-/

set_option autoImplicit false

namespace MediaCenter.Shared

open MediaCenter.Library

structure TokenPair where
  accessToken : String
  refreshToken : String
  tokenType : String
  expiresIn : ℕ
  refreshExpiresIn : ℕ
  deriving DecidableEq

structure RefreshTokenRecord where
  tokenHash : String
  tenantId : String
  subject : String
  roles : List String
  refreshJti : String
  issuedAt : ℤ
  expiresAt : ℤ
  revokedAt : Option ℤ := none
  replacedByJti : Option String := none
  deriving DecidableEq

abbrev InMemoryRefreshTokenStore : Type := Dict String RefreshTokenRecord

namespace InMemoryRefreshTokenStore

def save (record : RefreshTokenRecord) (records : InMemoryRefreshTokenStore) :
    InMemoryRefreshTokenStore :=
  Dict.set records record.tokenHash record

def get (tokenHash : String) (records : InMemoryRefreshTokenStore) :
    Option RefreshTokenRecord :=
  Dict.get? records tokenHash

def revoke (tokenHash : String) (revokedAt : ℤ) (replacedByJti : Option String)
    (records : InMemoryRefreshTokenStore) : InMemoryRefreshTokenStore :=
  match get tokenHash records with
  | none => records
  | some record => Dict.set records tokenHash
      { record with revokedAt := some revokedAt, replacedByJti := replacedByJti }

end InMemoryRefreshTokenStore

/-! ## Signed tokens (`libs/shared/tenant.py`) -/

/-- The bytes of a text in groups of six bits; the last group is filled with zeros. -/
def sextets : List ℕ → List ℕ
  | a :: b :: c :: rest =>
      a / 4 :: (a % 4 * 16 + b / 16) :: (b % 16 * 4 + c / 64) :: c % 64 :: sextets rest
  | [a, b] => [a / 4, a % 4 * 16 + b / 16, b % 16 * 4]
  | [a] => [a / 4, a % 4 * 16]
  | [] => []

/-- `_base64url_encode`: without the padding. -/
def base64urlEncode (data : List ℕ) : String :=
  String.ofList ((sextets data).map fun n =>
    "ABCDEFGHIJKLMNOPQRSTUVWXYZabcdefghijklmnopqrstuvwxyz0123456789-_".toList.getD n 'A')

/-- `encode_hs256_jwt`; the secret is given as bytes. -/
def encodeHs256Jwt (py : Stdlib) (claims : JSONObject) (secret : List ℕ) : String :=
  let jwtHeader : JSONValue := .dict [("alg", .str "HS256"), ("typ", .str "JWT")]
  let encodedHeader := base64urlEncode (Reference.utf8 (dumpsCompact py jwtHeader))
  let encodedClaims := base64urlEncode (Reference.utf8 (dumpsCompact py (.dict claims)))
  let signingInput := encodedHeader ++ "." ++ encodedClaims
  let signature := Sha.hmac Sha.sha256 secret (Reference.utf8 signingInput)
  signingInput ++ "." ++ base64urlEncode signature

/-! ## The service -/

/-- The settings of a service.  The factories never make a token twice, and no two tokens
have the same hash. -/
structure AuthTokenService where
  py : Stdlib
  jwtSecret : List ℕ
  issuer : String
  audience : String
  accessTtlSeconds : ℕ
  refreshTtlSeconds : ℕ
  accessTtlSeconds_pos : 0 < accessTtlSeconds
  refreshTtlSeconds_pos : 0 < refreshTtlSeconds
  idFactory : ℕ → String
  refreshTokenFactory : ℕ → String
  hashRefreshToken : String → String
  idFactory_injective : Function.Injective idFactory
  refreshTokenFactory_injective : Function.Injective refreshTokenFactory
  hashRefreshToken_injective : Function.Injective hashRefreshToken

/-- The stored records, and how many tokens each factory has made. -/
structure AuthTokens where
  records : InMemoryRefreshTokenStore
  idsMade : ℕ
  tokensMade : ℕ

def AuthTokens.empty : AuthTokens := ⟨Dict.empty, 0, 0⟩

/-- `_normalize_roles`. -/
def normalizeRoles (roles : List String) : Except SharedException (List String) :=
  if roles.any (fun role => Text.strip role = "") = true then
    .error (.valueError "roles должен содержать только непустые строки")
  else .ok roles

/-- `_require_non_empty`. -/
def requireNonEmpty (value fieldName : String) : Except SharedException Unit :=
  if Text.strip value = "" then
    .error (.valueError (fieldName ++ " должен быть непустой строкой"))
  else .ok ()

namespace AuthTokenService

/-- `_issue_access_token`. -/
def issueAccessToken (service : AuthTokenService) (subject tenantId : String)
    (roles : List String) (issuedAt : ℤ) (jti : String) : String :=
  encodeHs256Jwt service.py
    [("aud", .str service.audience), ("exp", .int (issuedAt + service.accessTtlSeconds)),
      ("iat", .int issuedAt), ("iss", .str service.issuer), ("jti", .str jti),
      ("nbf", .int issuedAt), ("roles", .list (roles.map .str)), ("sub", .str subject),
      ("tenant_id", .str tenantId), ("typ", .str "access")]
    service.jwtSecret

/-- `issue_token_pair`; whatever it raises, it raises before it calls a factory. -/
def issueTokenPair (service : AuthTokenService) (issuedAt : ℤ) (subject tenantId : String)
    (roles : List String) (correlationId : Option String) (tokens : AuthTokens) :
    Except SharedException (TokenPair × AuthTokens) := do
  let rolesTuple ← normalizeRoles roles
  requireNonEmpty subject "subject"
  let _ ← tenantContextFromClaims
    (((Dict.empty.set "tenant_id" (.str tenantId)).set "sub" (.str subject)).set "roles"
      (.list (rolesTuple.map .str))) correlationId
  let accessToken := service.issueAccessToken subject tenantId rolesTuple issuedAt
    (service.idFactory tokens.idsMade)
  let refreshToken := service.refreshTokenFactory tokens.tokensMade
  let refreshJti := service.idFactory (tokens.idsMade + 1)
  let record : RefreshTokenRecord :=
    { tokenHash := service.hashRefreshToken refreshToken
      tenantId := tenantId
      subject := subject
      roles := rolesTuple
      refreshJti := refreshJti
      issuedAt := issuedAt
      expiresAt := issuedAt + service.refreshTtlSeconds }
  return (⟨accessToken, refreshToken, "Bearer", service.accessTtlSeconds,
    service.refreshTtlSeconds⟩,
    ⟨InMemoryRefreshTokenStore.save record tokens.records, tokens.idsMade + 2,
      tokens.tokensMade + 1⟩)

/-- `refresh_token_pair`: the clock is read once for the check, and once more by
`issue_token_pair`. -/
def refreshTokenPair (service : AuthTokenService) (now issuedAt : ℤ) (refreshToken : String)
    (correlationId : Option String) (tokens : AuthTokens) :
    Except SharedException TokenPair × AuthTokens :=
  let tokenHash := service.hashRefreshToken refreshToken
  match InMemoryRefreshTokenStore.get tokenHash tokens.records with
  | none => (.error (.unauthorized "Refresh token недействителен или уже использован"
      correlationId), tokens)
  | some record =>
      if record.revokedAt ≠ none then
        (.error (.unauthorized "Refresh token недействителен или уже использован"
          correlationId), tokens)
      else if record.expiresAt ≤ now then
        (.error (.unauthorized "Refresh token истёк" correlationId),
          { tokens with
            records := InMemoryRefreshTokenStore.revoke tokenHash now none tokens.records })
      else
        match service.issueTokenPair issuedAt record.subject record.tenantId record.roles
            correlationId tokens with
        | .error e => (.error e, tokens)
        | .ok (tokenPair, issued) =>
            let replacement := InMemoryRefreshTokenStore.get
              (service.hashRefreshToken tokenPair.refreshToken) issued.records
            (.ok tokenPair, { issued with
              records := InMemoryRefreshTokenStore.revoke tokenHash now
                (replacement.map RefreshTokenRecord.refreshJti) issued.records })

/-- `revoke_refresh_token`. -/
def revokeRefreshToken (service : AuthTokenService) (now : ℤ) (refreshToken : String)
    (tokens : AuthTokens) : AuthTokens :=
  { tokens with
    records := InMemoryRefreshTokenStore.revoke (service.hashRefreshToken refreshToken) now
      none tokens.records }

end AuthTokenService

end MediaCenter.Shared
