import MediaCenter.Model.Shared.TenantMiddleware

/-!
# Public paths (`libs/shared/service_template.py`, `libs/shared/server.py`)

A service lets requests for its public paths through without a tenant token.  One normaliser
trims the configured paths and the path of every request.  A base app has `/admin` among its
public paths, and a guard of its own in front of it, which reads the path of the request's URL.
-/

set_option autoImplicit false

namespace MediaCenter.Shared

open MediaCenter.Library

/-! ## The list of public paths -/

/-- `_normalize_public_path` and `_normalize_path`: the same but for the name in the errors. -/
def normalizeNamedPath (label path : String) : Except SharedException String :=
  let normalized := Text.strip path
  if normalized = "" then .error (.valueError (label ++ " должен быть непустой строкой"))
  else if normalized.toList.head? ≠ some '/' then
    .error (.valueError (label ++ " должен начинаться с /"))
  else if normalized ≠ "/" then .ok (rstripSlash normalized)
  else .ok normalized

/-- `_normalize_public_path`. -/
def normalizePublicPath (path : String) : Except SharedException String :=
  normalizeNamedPath "public path" path

/-- `_normalize_public_paths`. -/
def normalizePublicPaths (paths : List String) : Except SharedException (List String) := do
  let normalized ← paths.mapM normalizePublicPath
  refuseIf (normalized.length = 0)
    (.valueError "public_paths должен содержать хотя бы один path")
  refuseIf (¬ normalized.Nodup) (.valueError "public_paths не должен содержать дубликаты")
  return normalized

/-- `_is_public_path`. -/
def isPublicPath (path : String) (publicPaths : List String) : Except SharedException Bool := do
  let normalized ← normalizePublicPath path
  return publicPaths.any fun publicPath =>
    normalized == publicPath ||
      (publicPath != "/" && (publicPath ++ "/").toList.isPrefixOf normalized.toList)

/-- What the middleware reads of a `ServiceTemplateConfig`; the paths are normalised once. -/
structure ServiceTemplateConfig where
  jwtSecret : List ℕ
  expectedIssuer : Option String
  expectedAudience : Option String
  publicPaths : List String
  publicPaths_normalized : ∃ paths, normalizePublicPaths paths = .ok publicPaths

/-- `replace(config, public_paths=paths)`. -/
def ServiceTemplateConfig.replacePublicPaths (config : ServiceTemplateConfig)
    (paths : List String) : Except SharedException ServiceTemplateConfig :=
  match h : normalizePublicPaths paths with
  | .error e => .error e
  | .ok publicPaths =>
      .ok { config with publicPaths := publicPaths, publicPaths_normalized := ⟨paths, h⟩ }

/-! ## The middleware -/

structure PublicPathTenantContextMiddleware where
  publicPaths : List String
  securedApp : TenantContextASGIMiddleware

/-- The middleware as `create_service_app` adds it: the paths of the config are normalised
again when the app is put together. -/
def publicPathTenantContextMiddleware (py : Stdlib) (codec : SegmentCodec) (auditSink : Bool)
    (config : ServiceTemplateConfig) :
    Except SharedException PublicPathTenantContextMiddleware := do
  let publicPaths ← normalizePublicPaths config.publicPaths
  return {
    publicPaths := publicPaths
    securedApp := {
      py := py
      codec := codec
      jwtSecret := config.jwtSecret
      expectedIssuer := config.expectedIssuer
      expectedAudience := config.expectedAudience
      auditSink := auditSink } }

/-- Where an http request goes. -/
inductive PublicPathRoute : Type where
  /-- `self._app`: no token is read. -/
  | app
  | securedApp
  deriving DecidableEq, Repr

namespace PublicPathTenantContextMiddleware

variable (m : PublicPathTenantContextMiddleware)

def route (path : String) : Except SharedException PublicPathRoute := do
  let isPublic ← isPublicPath path m.publicPaths
  return if isPublic = true then .app else .securedApp

end PublicPathTenantContextMiddleware

/-! ## The base app -/

/-- `_normalize_path` of `server.py`. -/
def BaseApp.normalizePath (path : String) : Except SharedException String :=
  normalizeNamedPath "path" path

/-- `BASE_APP_SYSTEM_PUBLIC_PATHS`. -/
def baseAppSystemPublicPaths : List String := ["/ready", "/info", "/admin"]

/-- What `create_base_app` reads of a `BaseAppConfig` for its paths. -/
structure BaseAppConfig where
  service : ServiceTemplateConfig
  docsUrl : Option String
  redocUrl : Option String
  openapiUrl : Option String

/-- `_base_public_paths`. -/
def basePublicPaths (config : BaseAppConfig) : Except SharedException (List String) := do
  let normalizedPaths ← (config.service.publicPaths ++ baseAppSystemPublicPaths ++
    [config.docsUrl, config.redocUrl, config.openapiUrl].reduceOption).mapM BaseApp.normalizePath
  return normalizedPaths.eraseDups

/-- `create_base_app`, as far as the paths go: the config of the app. -/
def createBaseApp (config : BaseAppConfig) : Except SharedException BaseAppConfig := do
  let publicPaths ← basePublicPaths config
  let service ← config.service.replacePublicPaths publicPaths
  return { config with service := service }

/-- `_is_admin_path`. -/
def isAdminPath (path : String) : Bool :=
  path == "/admin" || "/admin/".toList.isPrefixOf path.toList

/-- An http request: its method, the path of its scope, and what the tenant check reads. -/
structure AppRequest where
  method : String
  path : String
  edge : EdgeRequest

/-- What the web framework and the authenticator of the app do: `request.url.path`, which is read
from the whole URL of the request, and `require_s2s`, which may keep what it has seen. -/
structure AdminGuard (σ : Type) where
  urlPath : AppRequest → String
  requireS2s : AppRequest → σ → Except RequireS2SFailure S2SIdentity × σ

/-- How a base app ends up with a request. -/
inductive BaseAppRun : Type where
  /-- The app cannot be put together. -/
  | notBuilt (e : SharedException)
  /-- `require_s2s` refused. -/
  | refused (failure : RequireS2SFailure)
  /-- The request was passed on: who `require_s2s` accepted, if it was asked, and where the
  request went. -/
  | passedOn (identity : Option S2SIdentity) (route : Except SharedException PublicPathRoute)

/-- `base_admin_s2s_guard`, around the middleware. -/
def baseAdminS2sGuard {σ : Type} (guard : AdminGuard σ) (m : PublicPathTenantContextMiddleware)
    (request : AppRequest) (seen : σ) : BaseAppRun × σ :=
  if isAdminPath (guard.urlPath request) = true then
    match guard.requireS2s request seen with
    | (.error failure, seen') => (.refused failure, seen')
    | (.ok identity, seen') => (.passedOn (some identity) (m.route request.path), seen')
  else (.passedOn none (m.route request.path), seen)

/-- A request to a base app with this config. -/
def baseAppCall {σ : Type} (py : Stdlib) (codec : SegmentCodec) (auditSink : Bool)
    (guard : AdminGuard σ) (config : BaseAppConfig) (request : AppRequest) (seen : σ) :
    BaseAppRun × σ :=
  match publicPathTenantContextMiddleware py codec auditSink config.service with
  | .error e => (.notBuilt e, seen)
  | .ok m => baseAdminS2sGuard guard m request seen

end MediaCenter.Shared
