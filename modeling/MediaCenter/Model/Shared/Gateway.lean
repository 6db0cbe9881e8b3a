import MediaCenter.Library.Coroutine
import MediaCenter.Model.Shared.Json
import MediaCenter.Model.Shared.RateLimit
import MediaCenter.Model.Shared.S2SAuth
import MediaCenter.Model.Shared.TenantHeaders
import MediaCenter.Model.Shared.TenantResources

/-!
# The API gateway (`libs/shared/gateway.py`)

`APIGatewayASGIMiddleware` finds the route of a request, checks the limits of its tenant,
writes the verified context into the headers and hands the request to the service behind the
route.
-/

set_option autoImplicit false

namespace MediaCenter.Shared

open MediaCenter.Library

/-! ## Errors -/

def rateLimitedCode : String := "rate_limited"
def serviceNotFoundCode : String := "service_not_found"
def tenantIsolationCode : String := "tenant_isolation_violation"

/-- The errors of the gateway that `TenantCoreError` covers. -/
inductive TenantCoreError : Type where
  | tenantIsolation (message : String)
  | routeNotFound (path : String) (correlationId : Option String)
  | rateLimited (decision : RateLimitDecision) (policy : RateLimitPolicy)
      (correlationId : Option String)
  | resourceLimit (decision : TenantResourceDecision) (correlationId : Option String)

namespace TenantCoreError

def statusCode : TenantCoreError → ℕ
  | tenantIsolation _ => 403
  | routeNotFound _ _ => 404
  | rateLimited _ _ _ => 429
  | resourceLimit _ _ => 429

def errorCode : TenantCoreError → String
  | tenantIsolation _ => tenantIsolationCode
  | routeNotFound _ _ => serviceNotFoundCode
  | rateLimited _ _ _ => rateLimitedCode
  | resourceLimit _ _ => rateLimitedCode

def message : TenantCoreError → String
  | tenantIsolation message => message
  | routeNotFound _ _ => "Маршрут API Gateway не найден"
  | rateLimited _ _ _ => "Превышен лимит запросов API Gateway"
  | resourceLimit _ _ => "Превышена квота ресурсов tenant"

def details : TenantCoreError → JSONObject
  | tenantIsolation _ => []
  | routeNotFound path _ => [("path", .str path)]
  | rateLimited decision policy _ =>
      [("limit", .int policy.limit), ("window_seconds", .int policy.windowSeconds),
        ("retry_after_seconds", .int decision.retryAfterSeconds)]
  | resourceLimit decision _ =>
      [("reason", .optionalStr decision.reason), ("plan", .str decision.planName),
        ("resource_type", .str decision.resourceType),
        ("retry_after_seconds", .int decision.retryAfterSeconds)]

def correlationId : TenantCoreError → Option String
  | tenantIsolation _ => none
  | routeNotFound _ correlationId => correlationId
  | rateLimited _ _ correlationId => correlationId
  | resourceLimit _ correlationId => correlationId

end TenantCoreError

inductive GatewayException : Type where
  | core (e : TenantCoreError)
  | shared (e : SharedException)
  | s2s (e : S2SException)
  /-- Any other exception, such as one of the downstream app. -/
  | other (name : String)

/-- `ErrorBody`. -/
structure ErrorBodyFields where
  code : String
  message : String
  details : JSONObject
  correlationId : Option String

def errorBodyChecks (f : ErrorBodyFields) : List (String × Bool) :=
  [("code", hasLength 2 64 f.code && wordPattern f.code.toList),
    ("message", hasLength 1 f.message.toList.length f.message),
    ("correlation_id", optionalField tokenPattern f.correlationId)]

/-- `TenantCoreError.to_response_body`: the fields of the envelope are checked as any model. -/
def TenantCoreError.toResponseBody (error : TenantCoreError) :
    Except SharedException JSONValue := do
  let body ← Validated.make "ErrorBody" errorBodyChecks
    ⟨Text.trim error.errorCode, Text.trim error.message, error.details,
      error.correlationId.map Text.trim⟩
  return .dict [("error", .dict [("code", .str body.fields.code),
    ("message", .str body.fields.message), ("details", .dict body.fields.details),
    ("correlation_id", .optionalStr body.fields.correlationId)])]

/-! ## Routes -/

/-- `s.rstrip("/")`. -/
def rstripSlash (s : String) : String := String.ofList (s.toList.rdropWhile fun c => c = '/')

theorem getLast?_rstripSlash (s : String) : (rstripSlash s).toList.getLast? ≠ some '/' := by
  unfold rstripSlash
  rw [String.toList_ofList]
  intro hlast
  have hne : s.toList.rdropWhile (fun c => c = '/') ≠ [] := by
    rintro hnil
    rw [hnil] at hlast
    cases hlast
  have hnot := List.rdropWhile_last_not (fun c => decide (c = '/')) s.toList hne
  rw [List.getLast?_eq_some_getLast hne, Option.some.injEq] at hlast
  exact hnot (decide_eq_true hlast)

/-- A normalised path prefix. -/
def IsPathPrefix (pathPrefix : String) : Prop :=
  pathPrefix.toList.head? = some '/' ∧ pathPrefix.toList.getLast? ≠ some '/'

structure GatewayRoute where
  serviceName : String
  pathPrefix : String
  serviceName_ne : serviceName ≠ ""
  strip_serviceName : Text.strip serviceName = serviceName
  pathPrefix_normalized : IsPathPrefix pathPrefix

def Reference.route : GatewayRoute where
  serviceName := "ledger"
  pathPrefix := "/ledger"
  serviceName_ne := by decide
  strip_serviceName := by decide
  pathPrefix_normalized := by unfold IsPathPrefix; decide

namespace GatewayRoute

/-- `GatewayRoute.matches`. -/
def matchesPath (route : GatewayRoute) (path : String) : Bool :=
  path == route.pathPrefix || (route.pathPrefix ++ "/").toList.isPrefixOf path.toList

/-- `GatewayRoute.downstream_path`. -/
def downstreamPath (route : GatewayRoute) (path : String) : String :=
  let suffix := String.ofList (path.toList.drop route.pathPrefix.toList.length)
  if suffix ≠ "" then suffix else "/"

end GatewayRoute

/-! ## The gateway -/

/-- What signing a request reads from outside: the clock, a fresh nonce, and the key and token
files of the methods that have them. -/
structure SigningMoment where
  now : ℚ
  freshNonce : UrlsafeToken
  file : String → Option (List ℕ)

def Reference.signingMoment : SigningMoment := ⟨1000, Reference.urlsafeToken, fun _ => none⟩

/-- `S2SAuthenticator.sign_request`; every method sets the headers of its own only. -/
structure S2SAuthenticator where
  signRequest : SigningMoment → String → String → String →
    Except GatewayException (Dict String String)
  names_mem : ∀ moment method path serviceName headers,
    signRequest moment method path serviceName = .ok headers →
      ∀ e ∈ headers.entries, e.1 ∈ "Authorization" :: s2sHeaders

theorem names_mem_of_signRequest {py : Stdlib} {c : SignCall} (hc : c.headers = none)
    {headers : Dict String String} (h : signRequest py c = .ok headers) :
    ∀ e ∈ headers.entries, e.1 ∈ s2sHeaders := by
  intro e he
  have hcontains : headers.contains e.1 = true :=
    Dict.contains_iff_exists.mpr ⟨e.2, Dict.get?_eq_some_iff.mpr he⟩
  unfold signRequest at h
  simp only [bind_eq_ok_iff] at h
  obtain ⟨_, _, _, _, _, _, _, _, _, _, _, _, _, _, hpure⟩ := h
  cases hpure
  simp only [Dict.contains_set, hc, Option.getD_none] at hcontains
  simp only [s2sHeaders, List.mem_cons, List.not_mem_nil, or_false]
  rcases hcontains with h | h | h | h | h | h
  · simp [h]
  · simp [h]
  · simp [h]
  · simp [h]
  · simp [h]
  · cases h

/-- `SharedSecretS2SAuth` as the gateway calls it. -/
def S2SAuthenticator.sharedSecret (py : Stdlib) (config : S2SConfig) : S2SAuthenticator where
  signRequest moment method path serviceName :=
    (MediaCenter.Shared.signRequest py ⟨config, moment.now, moment.freshNonce, method, path,
      serviceName, none, none, none⟩).mapError .s2s
  names_mem moment method path serviceName headers h e he := by
    rw [mapError_eq_ok_iff] at h
    exact List.mem_cons_of_mem _ (names_mem_of_signRequest rfl h e he)

/-- The fields of an ASGI scope that the gateway reads; a value of another type counts as
missing, and so does a header that is not a pair of byte strings. -/
structure ASGIScope where
  type : Option String
  path : Option String
  method : Option String
  rootPath : Option String
  headers : List (Bytes × Bytes)
  rawPath : Option Bytes

/-- `_scope_string`. -/
def scopeString (value : Option String) : String := value.getD ""

inductive ASGIMessage : Type where
  | responseStart (status : ℕ) (headers : List (Bytes × Bytes))
  | responseBody (body : Bytes)

/-- `APIGatewayASGIMiddleware` with an `InMemoryRateLimiter` and, where it has one, an
`InMemoryTenantResourceManager`: the longest prefixes come first. -/
structure APIGateway where
  routes : List GatewayRoute
  rateLimitPolicy : RateLimitPolicy
  resourceManager : Option TenantResourcePlans
  s2sAuth : Option S2SAuthenticator
  sourceServiceName : String
  routes_ne : routes ≠ []
  routes_sorted : routes.Pairwise fun a b => b.pathPrefix.toList.length ≤ a.pathPrefix.toList.length
  sourceServiceName_ne : sourceServiceName ≠ ""

structure GatewayState where
  windows : RateLimitWindows
  resources : TenantResourceStates

def GatewayState.empty : GatewayState := ⟨Dict.empty, Dict.empty⟩

/-- A request, with the verified context it runs under and what the gateway reads from
outside: clocks, a fresh correlation id, and what signing reads. -/
structure GatewayRequest where
  context : Option TenantContext
  scope : ASGIScope
  limiterNow : ℤ
  managerNow : ℕ → ℤ
  signing : SigningMoment
  uuid : Uuid4

/-- `require_tenant_context`. -/
def requireTenantContext (context : Option TenantContext) :
    Except GatewayException TenantContext :=
  match context with
  | none => .error (.core (.tenantIsolation "Tenant context отсутствует"))
  | some context => .ok context

/-- `uuid.hex`. -/
def Uuid4.hex (u : Uuid4) : String := String.ofList (u.text.toList.filter fun c => c ≠ '-')

/-! ## Downstream headers -/

/-- `_HOP_BY_HOP_HEADERS`. -/
def hopByHopHeaders : List Bytes :=
  ["connection", "keep-alive", "proxy-authenticate", "proxy-authorization", "te", "trailer",
    "transfer-encoding", "upgrade"].map Bytes.encodeUtf8

/-- `_GATEWAY_CONTEXT_HEADERS`. -/
def gatewayContextHeaders : List Bytes :=
  ["x-actor-roles", "x-correlation-id", "x-forwarded-prefix", "x-original-path",
    "x-service-name", "x-subject-id", "x-tenant-id"].map Bytes.encodeUtf8

/-- `_header_value`. -/
def headerValue (headers : List (Bytes × Bytes)) (name : Bytes) : Option String :=
  (headers.find? fun e => Bytes.lower e.1 = Bytes.lower name).map fun e =>
    Bytes.decodeLatin1 e.2

/-- `_header_name_bytes`. -/
def headerNameBytes (py : Stdlib) (value : String) : Except GatewayException Bytes :=
  let normalized := py.lower (Text.strip value)
  if normalized = "" then
    .error (.shared (.valueError "header name должен быть непустой строкой"))
  else if Bytes.IsAscii normalized then .ok (Bytes.encodeUtf8 normalized)
  else .error (.other "UnicodeEncodeError")

/-- The headers of a signature as bytes. -/
def signedHeaderBytes (py : Stdlib) (signedHeaders : Dict String String) :
    Except GatewayException (List (Bytes × Bytes)) :=
  signedHeaders.entries.mapM fun e => do
    let name ← headerNameBytes py e.1
    return (name, Bytes.encodeUtf8 e.2)

/-- The names of the headers of a signature, as the gateway writes them. -/
def signatureNames : List String :=
  ["authorization", "x-s2s-method", "x-s2s-service", "x-s2s-timestamp", "x-s2s-nonce",
    "x-s2s-signature"]

theorem headerNameBytes_eq_ok (py : Stdlib) {name : String}
    (h : name ∈ "Authorization" :: s2sHeaders) :
    ∃ lower ∈ signatureNames, headerNameBytes py name = .ok (Bytes.encodeUtf8 lower) := by
  have hlatin : ∀ name ∈ "Authorization" :: s2sHeaders,
      ∀ c ∈ (Text.strip name).toList, c.toNat < 256 := by decide
  have hmem : ∀ name ∈ "Authorization" :: s2sHeaders,
      String.ofList ((Text.strip name).toList.map Text.lowerLatin1) ∈ signatureNames := by decide
  have hlower : py.lower (Text.strip name) ∈ signatureNames := by
    rw [py.lower_latin1 _ (hlatin name h)]
    exact hmem name h
  have hname : ∀ lower ∈ signatureNames, lower ≠ "" ∧ Bytes.IsAscii lower := by decide
  refine ⟨_, hlower, ?_⟩
  unfold headerNameBytes
  simp only [if_neg (hname _ hlower).1, if_pos (hname _ hlower).2]

/-- INTERNAL: the headers of a signature can be written, under these names. -/
theorem exists_signedHeaderBytes (py : Stdlib) {signedHeaders : Dict String String}
    (h : ∀ e ∈ signedHeaders.entries, e.1 ∈ "Authorization" :: s2sHeaders) :
    ∃ signed, signedHeaderBytes py signedHeaders = .ok signed ∧
      ∀ e ∈ signed, ∃ lower ∈ signatureNames, e.1 = Bytes.encodeUtf8 lower := by
  unfold signedHeaderBytes
  obtain ⟨signed, hsigned⟩ := (exists_mapM_eq_ok_iff (fun e : String × String => do
      let name ← headerNameBytes py e.1
      return (name, Bytes.encodeUtf8 e.2)) signedHeaders.entries).mpr fun e he => by
    obtain ⟨lower, _, hok⟩ := headerNameBytes_eq_ok py (h e he)
    exact ⟨_, by rw [hok]; rfl⟩
  refine ⟨signed, hsigned, fun e he => ?_⟩
  obtain ⟨entry, hentry, hok⟩ := exists_of_mem_mapM hsigned he
  obtain ⟨lower, hlower, hname⟩ := headerNameBytes_eq_ok py (h entry hentry)
  rw [hname] at hok
  cases hok
  exact ⟨lower, hlower, rfl⟩

/-- `_signed_downstream_headers`: a signed header replaces those of its name. -/
def signedDownstreamHeaders (py : Stdlib) (headers : List (Bytes × Bytes))
    (method path : String) (s2sAuth : Option S2SAuthenticator) (sourceServiceName : String)
    (moment : SigningMoment) : Except GatewayException (List (Bytes × Bytes)) :=
  match s2sAuth with
  | none => .ok headers
  | some s2sAuth => do
      let signedHeaders ← s2sAuth.signRequest moment method path sourceServiceName
      let signed ← signedHeaderBytes py signedHeaders
      let signedHeaderNames := signed.map fun e => Bytes.lower e.1
      return headers.filter (fun e => !signedHeaderNames.contains (Bytes.lower e.1)) ++ signed

/-- The headers that carry the verified context. -/
def contextHeaders (context : TenantContext) (correlationId pathPrefix originalPath : String) :
    List (Bytes × Bytes) :=
  let headers := [(correlationIdHeader, correlationId), (tenantIdHeader, context.tenantId),
    (serviceNameHeader, "api-gateway"), (forwardedPrefixHeader, pathPrefix),
    (originalPathHeader, originalPath), (actorRolesHeader, joinRoles context.roles)]
  let headers := match context.subject with
    | none => headers
    | some subject => headers ++ [(subjectIdHeader, subject)]
  headers.map fun e => (Bytes.encodeUtf8 e.1, Bytes.encodeUtf8 e.2)

/-- The correlation id of the context, else that of the client, else a fresh one. -/
def downstreamCorrelationId (context : TenantContext) (rawHeaders : List (Bytes × Bytes))
    (uuid : Uuid4) : String :=
  if orDefault context.correlationId "" ≠ "" then orDefault context.correlationId ""
  else (headerValue rawHeaders (Bytes.encodeUtf8 correlationIdHeader)).getD uuid.hex

/-- `_downstream_headers`. -/
def downstreamHeaders (py : Stdlib) (scope : ASGIScope) (route : GatewayRoute)
    (context : TenantContext) (downstreamPath : String) (s2sAuth : Option S2SAuthenticator)
    (sourceServiceName : String) (moment : SigningMoment) (uuid : Uuid4) :
    Except GatewayException (List (Bytes × Bytes)) :=
  let correlationId := downstreamCorrelationId context scope.headers uuid
  let clientHeaders := scope.headers.filter fun e =>
    !hopByHopHeaders.contains (Bytes.lower e.1) &&
      !gatewayContextHeaders.contains (Bytes.lower e.1)
  signedDownstreamHeaders py
    (clientHeaders ++
      contextHeaders context correlationId route.pathPrefix (scopeString scope.path))
    (scopeString scope.method) downstreamPath s2sAuth sourceServiceName moment

/-- `_root_path`. -/
def rootPath (scope : ASGIScope) (route : GatewayRoute) : String :=
  rstripSlash (scopeString scope.rootPath) ++ route.pathPrefix

/-- `_operation_name`. -/
def operationName (py : Stdlib) (scope : ASGIScope) (route : GatewayRoute) : String :=
  orDefault (some (py.lower (scopeString scope.method))) "http" ++ "." ++ route.serviceName

namespace APIGateway

/-- `APIGatewayASGIMiddleware(routes=…)`. -/
def make (routes : List GatewayRoute) (rateLimitPolicy : RateLimitPolicy)
    (resourceManager : Option TenantResourcePlans) (s2sAuth : Option S2SAuthenticator)
    (sourceServiceName : String) : Except SharedException APIGateway :=
  let longerFirst : GatewayRoute → GatewayRoute → Prop :=
    fun a b => b.pathPrefix.toList.length ≤ a.pathPrefix.toList.length
  if hroutes : routes = [] then
    .error (.valueError "routes должен содержать хотя бы один маршрут")
  else if hname : Text.strip sourceServiceName = "" then
    .error (.valueError "source_service_name должен быть непустой строкой")
  else
    haveI : Std.Total longerFirst := ⟨fun _ _ => Nat.le_total _ _⟩
    haveI : IsTrans GatewayRoute longerFirst := ⟨fun _ _ _ hab hbc => Nat.le_trans hbc hab⟩
    .ok ⟨routes.insertionSort longerFirst, rateLimitPolicy, resourceManager, s2sAuth,
      Text.strip sourceServiceName,
      fun h => hroutes (List.Perm.eq_nil (h ▸ (List.perm_insertionSort longerFirst routes).symm)),
      List.pairwise_insertionSort longerFirst routes, hname⟩

/-- `_route_for_scope`. -/
def routeForScope (gateway : APIGateway) (scope : ASGIScope) (context : TenantContext) :
    Except GatewayException GatewayRoute :=
  match gateway.routes.find? fun route => route.matchesPath (scopeString scope.path) with
  | some route => .ok route
  | none => .error (.core (.routeNotFound (scopeString scope.path) context.correlationId))

/-- `_downstream_scope`. -/
def downstreamScope (py : Stdlib) (gateway : APIGateway) (r : GatewayRequest)
    (route : GatewayRoute) (context : TenantContext) : Except GatewayException ASGIScope := do
  let downstreamPath := route.downstreamPath (scopeString r.scope.path)
  let headers ← downstreamHeaders py r.scope route context downstreamPath gateway.s2sAuth
    gateway.sourceServiceName r.signing r.uuid
  return { r.scope with
    path := some downstreamPath
    rootPath := some (rootPath r.scope route)
    headers := headers
    rawPath := r.scope.rawPath.map fun _ => Bytes.encodeUtf8 downstreamPath }

end APIGateway

/-! ## Handling a request -/

/-- What the gateway awaits: a message to the client, or the app behind a route. -/
inductive GatewayAwait : Type where
  | send (message : ASGIMessage)
  | downstream (route : GatewayRoute) (scope : ASGIScope)

abbrev GatewayInterface : Interface :=
  Interface.fallible GatewayAwait GatewayException fun _ => Unit

abbrev GatewayCoroutine : Type → Type :=
  Coroutine GatewayInterface GatewayState GatewayException

/-- The rate limit headers of an error response. -/
def rateLimitHeaders : TenantCoreError → List (Bytes × Bytes)
  | .rateLimited decision _ _ =>
      [("retry-after", toString decision.retryAfterSeconds),
        ("x-ratelimit-limit", toString decision.limit),
        ("x-ratelimit-remaining", toString decision.remaining),
        ("x-ratelimit-reset", toString decision.resetAt)].map
        fun e => (Bytes.encodeUtf8 e.1, Bytes.encodeUtf8 e.2)
  | _ => []

/-- `_send_error`. -/
def sendError (py : Stdlib) (error : TenantCoreError) : GatewayCoroutine Unit := do
  let response ← Coroutine.ofExcept (error.toResponseBody.mapError .shared)
  let body := Bytes.encodeUtf8 (dumpsUnicode py response)
  let headers :=
    [("content-type", "application/json; charset=utf-8"),
      ("content-length", toString body.length)].map
      fun e => (Bytes.encodeUtf8 e.1, Bytes.encodeUtf8 e.2)
  Coroutine.attempt (.send
    (.responseStart error.statusCode (headers ++ rateLimitHeaders error)))
  Coroutine.attempt (.send (.responseBody body))

/-- A call of the resource manager. -/
def withResources {α : Type}
    (f : TenantResourceStates → Except SharedException (α × TenantResourceStates)) :
    GatewayCoroutine α :=
  Coroutine.update fun s => match f s.resources with
    | .error e => .error (.shared e)
    | .ok (a, resources) => .ok (a, { s with resources := resources })

/-- A request that the limits let through. -/
structure Admission where
  context : TenantContext
  route : GatewayRoute
  operationName : String
  operationSlotAcquired : Bool

namespace APIGateway

variable (py : Stdlib) (gateway : APIGateway) (r : GatewayRequest)

/-- `self._rate_limiter.check(...)`. -/
def checkRateLimit (context : TenantContext) (route : GatewayRoute) :
    GatewayCoroutine RateLimitDecision :=
  Coroutine.update fun s =>
    match InMemoryRateLimiter.check gateway.rateLimitPolicy r.limiterNow
      (rateLimitKey context.tenantId context.subject route.serviceName) s.windows with
    | .error e => .error (.shared e)
    | .ok (decision, windows) => .ok (decision, { s with windows := windows })

/-- The quotas of the tenant: one request, and one operation slot. -/
def admitResources (plans : TenantResourcePlans) (context : TenantContext)
    (route : GatewayRoute) (operation : String) : GatewayCoroutine Unit := do
  let requestDecision ← withResources
    (InMemoryTenantResourceManager.admitRequest plans (r.managerNow 0) (r.managerNow 1) context
      route.serviceName operation)
  if requestDecision.allowed = false then
    throw (.core (.resourceLimit requestDecision context.correlationId))
  let operationDecision ← withResources
    (InMemoryTenantResourceManager.acquireOperationSlot plans (r.managerNow 2) context operation)
  if operationDecision.allowed = false then
    throw (.core (.resourceLimit operationDecision context.correlationId))

/-- `__call__`, up to the downstream scope. -/
def admission : GatewayCoroutine Admission := do
  let context ← Coroutine.ofExcept (requireTenantContext r.context)
  let route ← Coroutine.ofExcept (gateway.routeForScope r.scope context)
  let operation := operationName py r.scope route
  let decision ← gateway.checkRateLimit r context route
  if decision.allowed = false then
    throw (.core (.rateLimited decision gateway.rateLimitPolicy context.correlationId))
  match gateway.resourceManager with
  | none => return ⟨context, route, operation, false⟩
  | some plans =>
      admitResources r plans context route operation
      return ⟨context, route, operation, true⟩

/-- The `finally` of `__call__`. -/
def releaseSlot (a : Admission) : GatewayCoroutine Unit :=
  match gateway.resourceManager with
  | none => pure ()
  | some plans =>
      if a.operationSlotAcquired = true then do
        let _ ← withResources (InMemoryTenantResourceManager.releaseOperationSlot plans
          (r.managerNow 3) a.context a.operationName)
      else pure ()

/-- `except TenantCoreError`. -/
def answerCoreError (e : GatewayException) : GatewayCoroutine (Option (Admission × ASGIScope)) :=
  match e with
  | .core error => do
      sendError py error
      return none
  | e => throw e

/-- The first `try` of `__call__`: the limits, and the downstream scope. -/
def enter : GatewayCoroutine (Option (Admission × ASGIScope)) :=
  tryCatch
    (do
      let a ← gateway.admission py r
      let scope ← Coroutine.ofExcept (gateway.downstreamScope py r a.route a.context)
      return some (a, scope))
    (answerCoreError py)

/-- The second `try` of `__call__`: the app behind the route, and then the `finally`. -/
def forward : Option (Admission × ASGIScope) → GatewayCoroutine Unit
  | none => pure ()
  | some (a, scope) => do
      let outcome ← Coroutine.settle (Coroutine.attempt (.downstream a.route scope))
      gateway.releaseSlot r a
      Coroutine.ofExcept outcome

/-- `APIGatewayASGIMiddleware.__call__`. -/
def call : GatewayCoroutine Unit :=
  if r.scope.type ≠ some "http" then
    sendError py (.routeNotFound (scopeString r.scope.path) none)
  else do
    let entered ← gateway.enter py r
    gateway.forward r entered

end APIGateway

end MediaCenter.Shared
