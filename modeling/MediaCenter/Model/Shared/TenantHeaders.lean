import MediaCenter.Library.Bytes
import MediaCenter.Library.Dict
import MediaCenter.Model.Shared.Tenant

/-!
# Tenant contexts in tokens and headers (`libs/shared/tenant.py`)

A context is built from the claims of a verified token, travels between services as headers,
and is read back from them.
-/

set_option autoImplicit false

namespace MediaCenter.Shared

open MediaCenter.Library

def tenantIdHeader : String := "x-tenant-id"
def subjectIdHeader : String := "x-subject-id"
def actorRolesHeader : String := "x-actor-roles"
def correlationIdHeader : String := "x-correlation-id"
def serviceNameHeader : String := "x-service-name"
def forwardedPrefixHeader : String := "x-forwarded-prefix"
def originalPathHeader : String := "x-original-path"

/-- `_validated_tenant_id` of a value that may be missing. -/
def validatedOptionalTenantId (value : Option String) (correlationId : Option String) :
    Except SharedException String :=
  match value with
  | none => .error (.tenantIsolation
      "Tenant context отсутствует или имеет недопустимый формат" correlationId)
  | some value => validatedTenantId value correlationId

/-! ## Claims of a token -/

/-- `scope.split()`: the words between white space. -/
def splitSpaces : List Char → List (List Char)
  | [] => []
  | c :: cs =>
      if Text.isSpace c = true then splitSpaces cs
      else match cs, splitSpaces cs with
        | [], _ => [[c]]
        | d :: _, words =>
            if Text.isSpace d = true then [c] :: words
            else match words with
              | [] => [[c]]
              | word :: words => (c :: word) :: words

/-- `_optional_string_claim`. -/
def optionalStringClaim (claims : Dict String JSONValue) (key : String) :
    Except SharedException (Option String) :=
  match claims.get? key with
  | none => .ok none
  | some .null => .ok none
  | some (.str value) => .ok (some value)
  | some _ => .error (.unauthorized ("JWT claim " ++ key ++ " должен быть строкой") none)

def asStr : JSONValue → Option String
  | .str s => some s
  | _ => none

/-- `_roles_from_claims`. -/
def rolesFromClaims (claims : Dict String JSONValue) : Except SharedException (List String) :=
  match (claims.get? "roles").getD .null with
  | .null =>
      match claims.get? "scope" with
      | some (.str scope) => .ok ((splitSpaces scope.toList).map String.ofList)
      | _ => .ok []
  | .str role => .ok [role]
  | .list items =>
      let normalizedRoles := items.filterMap asStr
      if normalizedRoles.length = items.length then .ok normalizedRoles
      else .error (.unauthorized "JWT claim roles должен быть строкой или списком строк" none)
  | _ => .error (.unauthorized "JWT claim roles должен быть строкой или списком строк" none)

/-- `tenant_context_from_claims`. -/
def tenantContextFromClaims (claims : Dict String JSONValue) (correlationId : Option String) :
    Except SharedException TenantContext := do
  let tenantId ← validatedOptionalTenantId ((claims.get? "tenant_id").bind asStr) correlationId
  let subject ← optionalStringClaim claims "sub"
  let roles ← rolesFromClaims claims
  return ⟨tenantId, subject, roles, correlationId⟩

/-! ## Headers between services -/

/-- `",".join(roles)`. -/
def joinRoles (roles : List String) : String := ",".intercalate roles

def setIfPresent (headers : Dict String String) (name : String) (value : Option String) :
    Dict String String :=
  match value with
  | none => headers
  | some value => headers.set name value

/-- `tenant_headers_from_context`. -/
def tenantHeadersFromContext (context : TenantContext)
    (serviceName forwardedPrefix originalPath : Option String) : Dict String String :=
  let headers := Dict.empty.set tenantIdHeader context.tenantId
  let headers := setIfPresent headers subjectIdHeader context.subject
  let headers := if context.roles = [] then headers
    else headers.set actorRolesHeader (joinRoles context.roles)
  let headers := setIfPresent headers correlationIdHeader context.correlationId
  let headers := setIfPresent headers serviceNameHeader serviceName
  let headers := setIfPresent headers forwardedPrefixHeader forwardedPrefix
  setIfPresent headers originalPathHeader originalPath

/-- `_optional_header`. -/
def optionalHeader (headers : Dict String String) (name : String) : Option String :=
  match headers.get? name with
  | none => none
  | some value => if value = "" then none else some value

/-- `_roles_from_header`. -/
def rolesFromHeader (value : Option String) : Except SharedException (List String) :=
  match value with
  | none => .ok []
  | some value =>
      if Text.strip value = "" then .ok []
      else
        let rawRoles := (splitAtEvery ',' value.toList).map String.ofList
        let roles := (rawRoles.map Text.strip).filter fun role => role ≠ ""
        if roles.length ≠ rawRoles.length then
          .error (.unauthorized "X-Actor-Roles содержит пустую роль" none)
        else .ok roles

/-- `tenant_context_from_trusted_headers`. -/
def tenantContextFromTrustedHeaders (py : Stdlib) (headers : Dict String String) :
    Except SharedException TenantContext := do
  let normalizedHeaders :=
    Dict.ofList (headers.entries.map fun e => (py.lower e.1, Text.strip e.2))
  let correlationId := optionalHeader normalizedHeaders correlationIdHeader
  let tenantId ← validatedOptionalTenantId (normalizedHeaders.get? tenantIdHeader) correlationId
  let subject := optionalHeader normalizedHeaders subjectIdHeader
  let roles ← rolesFromHeader (normalizedHeaders.get? actorRolesHeader)
  return ⟨tenantId, subject, roles, correlationId⟩

/-- `_headers_from_scope`. -/
def headersFromScope (py : Stdlib) (rawHeaders : List (Bytes × Bytes)) : Dict String String :=
  Dict.ofList (rawHeaders.map fun e =>
    (py.lower (Bytes.decodeLatin1 e.1), Bytes.decodeLatin1 e.2))

end MediaCenter.Shared
