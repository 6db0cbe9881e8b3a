import MediaCenter.Model.Shared.TenantMiddleware

/-!
# Endpoint policies (`libs/shared/rbac.py`)

`RBACASGIMiddleware` looks up the policy of a request by its method and path, and calls the
wrapped app if the policy allows a role of the current context.
-/

set_option autoImplicit false

namespace MediaCenter.Shared

open MediaCenter.Library

def forbiddenCode : String := "forbidden"

def forbiddenMessage : String := "Недостаточно роли для операции"

/-! ## Policies -/

/-- `AccessPolicy.deny_all(action="endpoint.unlisted", resource_type="endpoint")`. -/
def denyUnlisted : AccessPolicy := ⟨[], "endpoint.unlisted", "endpoint"⟩

/-- `AccessPolicy.error_details`. -/
def errorDetails (action resourceType : String) (allowedRoles : List String) : JSONObject :=
  [("action", .str action), ("resource_type", .str resourceType),
    ("required_roles", .list (allowedRoles.map .str))]

/-! ## Paths -/

/-- `_split_path`. -/
def splitPath (value : String) : List String :=
  let normalized := Text.strip value
  if normalized = "/" then []
  else ((splitAtEvery '/' (Text.dropBoth (fun c => c = '/') normalized).toList).map
    String.ofList).filter fun part => part ≠ ""

/-- `_path_part_matches`. -/
def pathPartMatches (templatePart pathPart : String) : Bool :=
  if templatePart.toList.head? = some '\x7b' ∧ templatePart.toList.getLast? = some '\x7d' then
    decide (2 < templatePart.toList.length) && decide (pathPart ≠ "")
  else decide (templatePart = pathPart)

/-- `_path_template_matches`. -/
def pathTemplateMatches (template path : String) : Bool :=
  let templateParts := splitPath template
  let pathParts := splitPath path
  if templateParts.length ≠ pathParts.length then false
  else (templateParts.zip pathParts).all fun parts => pathPartMatches parts.1 parts.2

structure EndpointAccessPolicy where
  method : String
  pathTemplate : String
  policy : AccessPolicy
  strip_pathTemplate : Text.strip pathTemplate = pathTemplate
  head_pathTemplate : pathTemplate.toList.head? = some '/'

/-- `EndpointAccessPolicy.matches`. -/
def EndpointAccessPolicy.matchesRequest (py : Stdlib) (endpoint : EndpointAccessPolicy)
    (method path : String) : Bool :=
  decide (endpoint.method = py.upper method) && pathTemplateMatches endpoint.pathTemplate path

def auditRecordEndpoint : EndpointAccessPolicy :=
  ⟨"POST", "/audit/record", .council "blockchain_audit.record" "blockchain_auditor",
    by decide, by decide⟩

def auditVerifyEndpoint : EndpointAccessPolicy :=
  ⟨"POST", "/audit/verify", .council "blockchain_audit.verify" "blockchain_auditor",
    by decide, by decide⟩

def auditReadEndpoint : EndpointAccessPolicy :=
  ⟨"GET", "/audit/records/\x7bevent_id\x7d", .council "blockchain_audit.read"
    "blockchain_auditor", by decide, by decide⟩

/-- `BLOCKCHAIN_AUDIT_ENDPOINT_POLICIES`. -/
def blockchainAuditEndpointPolicies : List EndpointAccessPolicy :=
  [auditRecordEndpoint, auditVerifyEndpoint, auditReadEndpoint]

/-! ## The middleware -/

structure RBACASGIMiddleware where
  endpointPolicies : List EndpointAccessPolicy
  defaultPolicy : AccessPolicy

namespace RBACASGIMiddleware

/-- `RBACASGIMiddleware(...)`. -/
def new (endpointPolicies : List EndpointAccessPolicy) (defaultPolicy : Option AccessPolicy) :
    RBACASGIMiddleware :=
  ⟨endpointPolicies, defaultPolicy.getD denyUnlisted⟩

variable (m : RBACASGIMiddleware)

/-- `_policy_for_scope`. -/
def policyForScope (py : Stdlib) (scope : ASGIScope) : AccessPolicy :=
  let method := py.upper (scopeString scope.method)
  let path := scopeString scope.path
  match m.endpointPolicies.find? fun endpoint => endpoint.matchesRequest py method path with
  | some endpoint => endpoint.policy
  | none => m.defaultPolicy

/-- `_send_error`: the body is made before anything is sent. -/
def sendError (code message : String) (details : JSONObject) (correlationId : Option String) :
    List EdgeEffect × EdgeOutcome :=
  match Validated.make "ErrorBody" errorBodyChecks
      ⟨Text.trim code, Text.trim message, details, correlationId.map Text.trim⟩ with
  | .error e => ([], .raised e)
  | .ok body => ([.responded 403 (.dict [("error", .dict [("code", .str body.fields.code),
      ("message", .str body.fields.message), ("details", .dict body.fields.details),
      ("correlation_id", .optionalStr body.fields.correlationId)])])], .returned)

/-- The wrapped app, in the current context. -/
def callApp (app : ASGIApp) (current : Option TenantContext) : EdgeRun :=
  let (returns, left) := app current
  ⟨[.calledApp current], if returns = true then .returned else .appRaised, left⟩

/-- `RBACASGIMiddleware.__call__`. -/
def call (py : Stdlib) (scope : ASGIScope) (app : ASGIApp) (current : Option TenantContext) :
    EdgeRun :=
  if scope.type ≠ some "http" then callApp app current
  else
    let policy := m.policyForScope py scope
    match resolveContext none current >>= requireAccess policy with
    | .ok _ => callApp app current
    | .error (.tenantIsolation message correlationId) =>
        let (sent, outcome) := sendError tenantIsolationCode message [] correlationId
        ⟨sent, outcome, current⟩
    | .error (.forbidden action resourceType requiredRoles correlationId) =>
        let (sent, outcome) := sendError forbiddenCode forbiddenMessage
          (errorDetails action resourceType requiredRoles) correlationId
        ⟨sent, outcome, current⟩
    | .error e => ⟨[], .raised e, current⟩

end RBACASGIMiddleware

end MediaCenter.Shared
