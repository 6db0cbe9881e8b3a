import MediaCenter.Model.Shared.Gateway
import MediaCenter.Model.Shared.ObjectStorage

/-!
# Application settings (`libs/shared/config.py`)

The settings are read field by field from texts, each under its environment name.  The secrets
among them may come from a secret provider.  Of the Python libraries only the parsers of a number,
of a flag and of a URL are parameters.
-/

set_option autoImplicit false

namespace MediaCenter.Shared.Config

open MediaCenter.Library

structure SettingsLib where
  /-- What pydantic reads of a text, when it reads one. -/
  parseInt : String → Option ℤ
  parseBool : String → Option Bool
  parseFloat : String → Option ℚ
  /-- The scheme and the `netloc` of `urlparse`, unless it raises. -/
  urlparse : String → Option (String × String)
  /-- The `drivername` of `make_url`, unless it raises. -/
  makeUrl : String → Option String

inductive SettingValue : Type where
  /-- A `str` or the text of a `SecretStr`. -/
  | text (value : String)
  | integer (value : ℤ)
  | number (value : ℚ)
  | flag (value : Bool)
  | authMethod (method : AuthMethod)
  | absent
  deriving DecidableEq, Repr

inductive SettingsFailure (ε : Type) : Type where
  /-- The provider raised. -/
  | provider (e : ε)
  /-- `AppSettings` refused a value; the first field refused. -/
  | refused (name : String)
  deriving DecidableEq, Repr

/-! ## Readers of one value -/

abbrev Reader : Type := String → Option SettingValue

def plainText : Reader := fun value => some (.text value)

/-- `_validate_required_string` and `_validate_s3_region`. -/
def requiredString : Reader := fun value =>
  if Text.strip value = "" then none else some (.text (Text.strip value))

/-- `_validate_secret`: the text itself is kept. -/
def validateSecret : Reader := fun value =>
  if Text.strip value = "" then none else some (.text value)

/-- `str.lower` and `str.upper`, as far as the result is ASCII: of the other characters U+212A
has an ASCII lower case, U+0131 and U+017F have one ASCII character as upper case. -/
def lowerAscii (s : String) : String :=
  s.map fun c => if c.toNat = 0x212A then 'k' else c.toLower

def upperAscii (s : String) : String :=
  s.map fun c => if c.toNat = 0x131 then 'I' else if c.toNat = 0x17F then 'S' else c.toUpper

/-- `_validate_app_env`, `_validate_log_level` and `_validate_jwt_algorithm`. -/
def oneOf (choices : List String) (normalize : String → String) : Reader := fun value =>
  let normalized := normalize (Text.strip value)
  if normalized ∈ choices then some (.text normalized) else none

def integerIn (lib : SettingsLib) (p : ℤ → Bool) : Reader := fun value =>
  ((lib.parseInt value).filter p).map .integer

def numberIn (lib : SettingsLib) (p : ℚ → Bool) : Reader := fun value =>
  ((lib.parseFloat value).filter p).map .number

def flagOf (lib : SettingsLib) : Reader := fun value => (lib.parseBool value).map .flag

/-- `validate_redis_url`, `validate_rabbitmq_url` and `validate_s3_endpoint_url`, which also takes
the slashes off the end. -/
def urlWith (lib : SettingsLib) (schemes : List String) (trimmed : String → String) : Reader :=
  fun value =>
    let normalized := trimmed (Text.strip value)
    if normalized = "" then none
    else ((lib.urlparse normalized).filter fun parts =>
      parts.1 ∈ schemes && parts.2 != "").map fun _ => .text normalized

/-- `validate_database_url`. -/
def validateDatabaseUrl (lib : SettingsLib) : Reader := fun value =>
  let normalized := Text.strip value
  if normalized = "" then none
  else ((lib.makeUrl normalized).filter fun driver => driver = "postgresql+asyncpg").map
    fun _ => .text normalized

/-- `validate_chroma_host`. -/
def validateChromaHost : Reader := fun value =>
  let normalized := Text.strip value
  if normalized = "" ∨ [':', '/', '/'] <:+: normalized.toList ∨
      normalized.toList.any Text.isSpace = true then none
  else some (.text normalized)

/-- `_validate_s3_bucket`. -/
def validateS3Bucket : Reader := fun value =>
  match ObjectStorage.validateS3BucketName value with
  | .ok normalized => some (.text normalized)
  | .error _ => none

/-- `_validate_s2s_auth_method`, through `_normalize_optional_auth_method`. -/
def validateS2sAuthMethod : Reader := fun value =>
  let normalized := Text.replace "-" "_" (lowerAscii (Text.strip value))
  if normalized = "" then some .absent
  else if normalized ∈ ["k8s", "k8s_sa", "kubernetes", "kubernetes_sa"] then
    some (.authMethod .k8sSa)
  else if normalized ∈ ["rsa", "rsa_key"] then some (.authMethod .rsaKey)
  else if normalized ∈ ["shared", "secret", "shared_secret"] then
    some (.authMethod .sharedSecret)
  else none

/-! ## The fields -/

/-- A field of `AppSettings`, under its `validation_alias`. -/
structure SettingsField where
  name : String
  /-- `none` when the field is required. -/
  fallback : Option SettingValue
  read : Reader

/-- What the field becomes from the text found for it, if any; `none` when it is refused. -/
def SettingsField.value (field : SettingsField) (found : Option String) : Option SettingValue :=
  found.elim field.fallback field.read

def s2sServiceAccountDirectory : String := "/var/run/secrets/kubernetes.io/serviceaccount/"

/-- The fields of `AppSettings`. -/
def appSettingsFields (lib : SettingsLib) : List SettingsField :=
  let positive := integerIn lib fun n => 0 < n
  [⟨"APP_ENV", some (.text "development"),
      oneOf ["development", "staging", "production"] lowerAscii⟩,
    ⟨"LOG_LEVEL", some (.text "INFO"),
      oneOf ["DEBUG", "INFO", "WARNING", "ERROR", "CRITICAL"] upperAscii⟩,
    ⟨"APP_HOST", some (.text "0.0.0.0"), requiredString⟩,
    ⟨"APP_PORT", some (.integer 7700), integerIn lib fun n => 0 < n && n ≤ 65535⟩,
    ⟨"DATABASE_URL", none, validateDatabaseUrl lib⟩,
    ⟨"REDIS_URL", none, urlWith lib ["redis", "rediss"] id⟩,
    ⟨"RABBITMQ_URL", none, urlWith lib ["amqp", "amqps"] id⟩,
    ⟨"CHROMA_HOST", none, validateChromaHost⟩,
    ⟨"CHROMA_PORT", some (.integer 8001), integerIn lib fun n => 1 ≤ n && n ≤ 65535⟩,
    ⟨"CHROMA_SSL", some (.flag false), flagOf lib⟩,
    ⟨"S3_ENDPOINT_URL", none, urlWith lib ["http", "https"] rstripSlash⟩,
    ⟨"S3_ACCESS_KEY", none, validateSecret⟩,
    ⟨"S3_SECRET_KEY", none, validateSecret⟩,
    ⟨"S3_BUCKET", none, validateS3Bucket⟩,
    ⟨"S3_REGION", some (.text "ru-central-1"), requiredString⟩,
    ⟨"JWT_SECRET", none, validateSecret⟩,
    ⟨"JWT_ALGORITHM", some (.text "HS256"), oneOf ["HS256"] upperAscii⟩,
    ⟨"JWT_ACCESS_TTL_MINUTES", some (.integer 30), positive⟩,
    ⟨"JWT_REFRESH_TTL_DAYS", some (.integer 14), positive⟩,
    ⟨"TOTP_ISSUER", some (.text "NMC"), requiredString⟩,
    ⟨"TOTP_STEP_SECONDS", some (.integer 30), positive⟩,
    ⟨"TOTP_ALLOWED_DRIFT_STEPS", some (.integer 1), integerIn lib fun n => 0 ≤ n⟩,
    ⟨"ENCRYPTION_KEY", none, validateSecret⟩,
    ⟨"S2S_AUTH_METHOD", some .absent, validateS2sAuthMethod⟩,
    ⟨"S2S_SHARED_SECRET", some .absent, plainText⟩,
    ⟨"S2S_REPLAY_WINDOW_SECONDS", some (.integer 300), positive⟩,
    ⟨"S2S_TOKEN_TTL_SECONDS", some (.integer 60), positive⟩,
    ⟨"SERVICE_NAME", some (.text "unknown"), requiredString⟩,
    ⟨"K8S_AUTH_ENABLED", some (.flag true), flagOf lib⟩,
    ⟨"S2S_K8S_TOKEN_PATH", some (.text (s2sServiceAccountDirectory ++ "token")), plainText⟩,
    ⟨"S2S_AUDIENCE", some (.text "nmc-services"), requiredString⟩,
    ⟨"S2S_K8S_ISSUER", some .absent, plainText⟩,
    ⟨"S2S_K8S_TOKENREVIEW_URL", some .absent, plainText⟩,
    ⟨"S2S_K8S_TOKENREVIEW_TOKEN_PATH", some .absent, plainText⟩,
    ⟨"S2S_K8S_TOKENREVIEW_TIMEOUT_SECONDS", some (.number 2), numberIn lib fun x => 0 < x⟩,
    ⟨"S2S_K8S_CA_PATH", some (.text (s2sServiceAccountDirectory ++ "ca.crt")), plainText⟩,
    ⟨"S2S_K8S_OIDC_PUBLIC_KEY_PATH", some .absent, plainText⟩,
    ⟨"S2S_RSA_PRIVATE_KEY_PATH", some .absent, plainText⟩,
    ⟨"S2S_RSA_PUBLIC_KEY_PATH", some .absent, plainText⟩,
    ⟨"S2S_RSA_ISSUER", some (.text "nmc-s2s"), requiredString⟩,
    ⟨"S2S_RSA_AUDIENCE", some (.text "nmc-services"), requiredString⟩,
    ⟨"API_GATEWAY_RATE_LIMIT", some (.integer 120), positive⟩,
    ⟨"API_GATEWAY_RATE_LIMIT_WINDOW_SECONDS", some (.integer 60), positive⟩,
    ⟨"COUNCIL_CAP_KV", some (.number (1 / 10)), numberIn lib fun x => 0 ≤ x && x ≤ 1⟩,
    ⟨"VETO_WINDOW_HOURS", some (.integer 8), positive⟩,
    ⟨"BLOCKCHAIN_AUDITOR_URL", some (.text "grpc://localhost:50051"), requiredString⟩,
    ⟨"PROMETHEUS_ENABLED", some (.flag true), flagOf lib⟩,
    ⟨"OTEL_EXPORTER_OTLP_ENDPOINT", some (.text "http://localhost:4317"), plainText⟩]

/-- `AppSettings`: the values of the fields, in order. -/
structure AppSettings where
  values : List (String × SettingValue)
  deriving DecidableEq

/-- `AppSettings(**values)`: a value passed in goes before the one of the process environment. -/
def appSettings {ε : Type} (lib : SettingsLib) (values process : String → Option String) :
    Except (SettingsFailure ε) AppSettings := do
  let read ← (appSettingsFields lib).mapM fun field =>
    match field.value ((values field.name).or (process field.name)) with
    | some v => .ok (field.name, v)
    | none => .error (.refused field.name)
  return ⟨read⟩

/-! ## Secrets -/

def secretEnvNames : List String :=
  ["DATABASE_URL", "RABBITMQ_URL", "S3_ACCESS_KEY", "S3_SECRET_KEY", "JWT_SECRET",
    "ENCRYPTION_KEY", "S2S_SHARED_SECRET"]

/-- `get_secret` of a `SecretProvider`. -/
abbrev SecretProvider (ε : Type) : Type := String → Except ε (Option String)

/-- `_needs_secret_provider`. -/
def needsSecretProvider : Option String → Bool
  | none => true
  | some value =>
      Text.strip value == "" ||
        "CHANGE_ME".toList.isPrefixOf (upperAscii (Text.strip value)).toList

/-- One pass of the loop of `_missing_secret_values` and `_secret_values_from_provider`, which
differ in the names they ask for. -/
def collectSecret {ε : Type} (asks : String → Bool) (provider : SecretProvider ε)
    (resolved : Dict String String) (name : String) :
    Except (SettingsFailure ε) (Dict String String) :=
  if asks name = true then do
    let secretValue ← (provider name).mapError .provider
    match secretValue with
    | some value => return if Text.strip value ≠ "" then resolved.set name value else resolved
    | none => return resolved
  else .ok resolved

/-- `_missing_secret_values`. -/
def missingSecretValues {ε : Type} (values : Dict String String) (provider : SecretProvider ε) :
    Except (SettingsFailure ε) (Dict String String) :=
  secretEnvNames.foldlM
    (collectSecret (fun name => needsSecretProvider (values.get? name)) provider) Dict.empty

/-- `_secret_values_from_provider`. -/
def secretValuesFromProvider {ε : Type} (provider : SecretProvider ε) :
    Except (SettingsFailure ε) (Dict String String) :=
  secretEnvNames.foldlM (collectSecret (fun _ => true) provider) Dict.empty

/-- `load_app_settings` in a process whose environment is `process`, with no config server and
Vault switched off. -/
def loadAppSettings {ε : Type} (lib : SettingsLib) (process : Dict String String)
    (environ : Option (Dict String String)) (provider : Option (SecretProvider ε)) :
    Except (SettingsFailure ε) AppSettings :=
  match environ, provider with
  | none, none => appSettings lib (fun _ => none) process.get?
  | none, some provider => do
      let secrets ← secretValuesFromProvider provider
      appSettings lib secrets.get? process.get?
  | some values, none => appSettings lib values.get? process.get?
  | some values, some provider => do
      let secrets ← missingSecretValues values provider
      -- `values.update(secrets)`
      appSettings lib (fun name => (secrets.get? name).or (values.get? name)) process.get?

end MediaCenter.Shared.Config
