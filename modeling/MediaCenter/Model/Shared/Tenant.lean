import MediaCenter.Library.ExceptList
import MediaCenter.Model.Shared.Models

/-!
# Tenant context and roles (`libs/shared/tenant.py`, `libs/shared/rbac.py`)
-/

set_option autoImplicit false

namespace MediaCenter.Shared

open MediaCenter.Library

/-- The verified identity of a request: what the token says. -/
structure TenantContext where
  tenantId : String
  subject : Option String
  roles : List String
  correlationId : Option String
  deriving DecidableEq

/-- `_resolve_context`: the context that is given, else the one that is current. -/
def resolveContext (context current : Option TenantContext) :
    Except SharedException TenantContext :=
  match context with
  | some context => .ok context
  | none =>
      match current with
      | some context => .ok context
      | none => .error (.tenantIsolation "Tenant context отсутствует" none)

/-- `_validated_tenant_id`. -/
def validatedTenantId (value : String) (correlationId : Option String) :
    Except SharedException String :=
  if tenantIdPattern value = true then .ok value
  else .error (.tenantIsolation "Tenant context отсутствует или имеет недопустимый формат"
    correlationId)

/-- `assert_requested_tenant` without an audit sink. -/
def assertRequestedTenant (requestedTenantId : String) (context : TenantContext) :
    Except SharedException Unit := do
  let normalizedTenant ← validatedTenantId requestedTenantId context.correlationId
  if normalizedTenant ≠ context.tenantId then
    throw (.tenantIsolation "Доступ к ресурсу другого tenant запрещён" context.correlationId)

/-- `TenantScopedRepository.list_for_tenant`: the tenant id of every record is checked. -/
def listForTenant {ρ : Type} (tenantIdOf : ρ → String) (records : List ρ)
    (context : TenantContext) : Except SharedException (List ρ) := do
  records.forM fun record => do
    let _ ← validatedTenantId (tenantIdOf record) context.correlationId
    return ()
  return records.filter fun record => tenantIdOf record = context.tenantId

def councilRole : String := "council"

/-- `GOVERNANCE_ROLES`. -/
def governanceRoles : List String :=
  ["council", "presidium", "board", "member_full", "member_assoc", "audience"]

structure AccessPolicy where
  allowedRoles : List String
  action : String
  resourceType : String

/-- `AccessPolicy.allow_roles(COUNCIL_ROLE, ...)`. -/
def AccessPolicy.council (action resourceType : String) : AccessPolicy :=
  ⟨[councilRole], action, resourceType⟩

/-- `require_access`: some governance role of the context is allowed. -/
def requireAccess (policy : AccessPolicy) (context : TenantContext) :
    Except SharedException TenantContext :=
  let actorRoles := context.roles.filter fun role => governanceRoles.contains role
  if actorRoles.any (fun role => policy.allowedRoles.contains role) = true then .ok context
  else .error (.forbidden policy.action policy.resourceType policy.allowedRoles
    context.correlationId)

theorem requireAccess_eq_ok {policy : AccessPolicy} {context actor : TenantContext}
    (h : requireAccess policy context = .ok actor) : actor = context := by
  unfold requireAccess at h
  simp only at h
  split at h
  · cases h
    rfl
  · cases h

theorem listForTenant_eq_ok {ρ : Type} {tenantIdOf : ρ → String} {records : List ρ}
    (h : ∀ record ∈ records, tenantIdPattern (tenantIdOf record) = true)
    (context : TenantContext) : listForTenant tenantIdOf records context =
      .ok (records.filter fun record => tenantIdOf record = context.tenantId) := by
  have hchecked : (records.forM fun record => do
      let _ ← validatedTenantId (tenantIdOf record) context.correlationId
      return () : Except SharedException Unit) = .ok () := by
    rw [forM_eq_ok_iff]
    intro record hrecord
    unfold validatedTenantId
    rw [if_pos (h record hrecord)]
    rfl
  unfold listForTenant
  rw [hchecked]
  rfl

end MediaCenter.Shared
