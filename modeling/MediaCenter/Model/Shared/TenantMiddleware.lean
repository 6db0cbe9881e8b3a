import MediaCenter.Model.Shared.Gateway
import MediaCenter.Model.Shared.Jwt

/-!
# The tenant boundary of a service (`libs/shared/tenant.py`)

`TenantContextASGIMiddleware` reads the identity of a request from its token, compares it with the
tenant that the request asks for, and calls the wrapped app in that context.
-/

set_option autoImplicit false

namespace MediaCenter.Shared

open MediaCenter.Library

def unauthorizedCode : String := "unauthorized"

def tenantIsolationEvent : String := "tenant.isolation_violation"

structure TenantAuditEvent where
  eventType : String
  tenantId : Option String
  requestedTenantHash : Option String
  actorHash : Option String
  resourceType : String
  correlationId : Option String
  reason : String
  statusCode : ℕ
  errorCode : String
  deriving DecidableEq

/-- `_build_tenant_violation_event`. -/
def buildTenantViolationEvent (py : Stdlib) (context : Option TenantContext)
    (requestedTenantId : Option String) (resourceType : String) (correlationId : Option String)
    (reason : String) : TenantAuditEvent where
  eventType := tenantIsolationEvent
  tenantId := context.map TenantContext.tenantId
  requestedTenantHash := requestedTenantId.map py.sha256Hex
  actorHash := (context.bind TenantContext.subject).map py.sha256Hex
  resourceType := resourceType
  correlationId := correlationId
  reason := reason
  statusCode := 403
  errorCode := tenantIsolationCode

/-- An exception, and whether it was audited. -/
structure Raised where
  error : SharedException
  audited : Bool

/-- `_deny_tenant_access`: what is recorded, and what is raised. -/
def denyTenantAccess (py : Stdlib) (context : TenantContext)
    (requestedTenantId : Option String) (resourceType : String) (auditSink : Bool)
    (reason : String) : Raised × List TenantAuditEvent :=
  (⟨.tenantIsolation "Доступ к ресурсу другого tenant запрещён" context.correlationId, auditSink⟩,
    if auditSink = true then
      [buildTenantViolationEvent py (some context) requestedTenantId resourceType
        context.correlationId reason]
    else [])

/-- `assert_requested_tenant`, and what it records. -/
def assertRequestedTenantAudited (py : Stdlib) (requestedTenantId : Option String)
    (context : TenantContext) (auditSink : Bool) (resourceType : String) :
    Except Raised Unit × List TenantAuditEvent :=
  match requestedTenantId with
  | none => (.ok (), [])
  | some requestedTenantId =>
      match validatedTenantId requestedTenantId context.correlationId with
      | .error e => (.error ⟨e, false⟩, [])
      | .ok normalizedTenant =>
          if normalizedTenant ≠ context.tenantId then
            let denied := denyTenantAccess py context (some normalizedTenant) resourceType auditSink
              "requested_tenant_mismatch"
            (.error denied.1, denied.2)
          else (.ok (), [])

/-! ## The current context -/

/-- `set_tenant_context`: the token of the change, and the new value. -/
def setTenantContext (context : TenantContext) (current : Option TenantContext) :
    Option TenantContext × Option TenantContext :=
  (current, some context)

/-- `reset_tenant_context`: a token says what the value was, whatever it is by now. -/
def resetTenantContext (token : Option TenantContext) (_current : Option TenantContext) :
    Option TenantContext :=
  token

/-! ## The middleware -/

structure TenantContextASGIMiddleware where
  py : Stdlib
  codec : SegmentCodec
  jwtSecret : List ℕ
  expectedIssuer : Option String
  expectedAudience : Option String
  /-- Whether there is an `audit_sink`. -/
  auditSink : Bool

/-- An http scope, and the clock reading of the call. -/
structure EdgeRequest where
  headers : List (Bytes × Bytes)
  now : ℚ

/-- What the middleware does, in order. -/
inductive EdgeEffect : Type where
  | recorded (event : TenantAuditEvent)
  /-- An error response: its status, and its body before it is written as JSON. -/
  | responded (status : ℕ) (body : JSONValue)
  /-- The app is called, while `get_tenant_context()` is `current`. -/
  | calledApp (current : Option TenantContext)

/-- How a call of the middleware ends: it returns, or the exception of the app or one of its own
goes on. -/
inductive EdgeOutcome : Type where
  | returned
  | appRaised
  | raised (e : SharedException)

/-- The wrapped app: whether it returns, and the current context that it leaves. -/
abbrev ASGIApp : Type := Option TenantContext → Bool × Option TenantContext

structure EdgeRun where
  effects : List EdgeEffect
  outcome : EdgeOutcome
  /-- `get_tenant_context()` after the call. -/
  current : Option TenantContext

namespace TenantContextASGIMiddleware

variable (m : TenantContextASGIMiddleware)

/-- The context of a request, or why it is refused, and what was recorded. -/
def requestContext (headers : Dict String String) (now : ℚ) :
    Except Raised TenantContext × List TenantAuditEvent :=
  let correlationId := headers.get? correlationIdHeader
  match tenantContextFromAuthorizationHeader m.py m.codec (headers.get? "authorization")
      m.jwtSecret m.expectedIssuer m.expectedAudience correlationId now with
  | .error e => (.error ⟨e, false⟩, [])
  | .ok context =>
      match assertRequestedTenantAudited m.py (headers.get? tenantIdHeader) context m.auditSink
          "http_header" with
      | (.error raised, events) => (.error raised, events)
      | (.ok _, events) => (.ok context, events)

/-- `_audit_missing_denial` of an error with this message and correlation id. -/
def auditMissingDenial (message : String) (errorCorrelationId correlationId : Option String)
    (audited : Bool) : List TenantAuditEvent :=
  if audited = true ∨ m.auditSink = false then []
  else
    [buildTenantViolationEvent m.py none none "http_request"
      (match errorCorrelationId with
        | some id => if id = "" then correlationId else some id
        | none => correlationId)
      message]

/-- `error_response_body`. -/
def errorResponseBody (code message : String) (correlationId : Option String) :
    Except SharedException JSONValue := do
  let body ← Validated.make "ErrorBody" errorBodyChecks
    ⟨Text.trim code, Text.trim message, [], correlationId.map Text.trim⟩
  return .dict [("error", .dict [("code", .str body.fields.code),
    ("message", .str body.fields.message), ("details", .dict body.fields.details),
    ("correlation_id", .optionalStr body.fields.correlationId)])]

/-- `_send_error`: the body is made before anything is sent. -/
def sendError (status : ℕ) (code message : String) (correlationId : Option String) :
    List EdgeEffect × EdgeOutcome :=
  match errorResponseBody code message correlationId with
  | .error e => ([], .raised e)
  | .ok body => ([.responded status body], .returned)

/-- `TenantContextASGIMiddleware.__call__`, with the context that was current before. -/
def call (request : EdgeRequest) (app : ASGIApp) (current : Option TenantContext) : EdgeRun :=
  let headers := headersFromScope m.py request.headers
  match m.requestContext headers request.now with
  | (.ok context, events) =>
      let (token, entered) := setTenantContext context current
      let (returns, left) := app entered
      ⟨events.map .recorded ++ [.calledApp entered],
        if returns = true then .returned else .appRaised, resetTenantContext token left⟩
  | (.error ⟨.tenantIsolation message correlationId, audited⟩, events) =>
      let events := events ++ m.auditMissingDenial message correlationId
        (headers.get? correlationIdHeader) audited
      let (sent, outcome) := sendError 403 tenantIsolationCode message correlationId
      ⟨events.map .recorded ++ sent, outcome, current⟩
  | (.error ⟨.unauthorized message correlationId, _⟩, events) =>
      let (sent, outcome) := sendError 401 unauthorizedCode message correlationId
      ⟨events.map .recorded ++ sent, outcome, current⟩
  | (.error ⟨e, _⟩, events) => ⟨events.map .recorded, .raised e, current⟩

end TenantContextASGIMiddleware

end MediaCenter.Shared
