import MediaCenter.Model.Shared.TenantMiddleware

/-!
# Records of a tenant (`libs/shared/tenant.py`, `libs/shared/db.py`)

`TenantScopedRepository` filters a list that holds the records of every tenant.  The repository
over SQLAlchemy asks its database for one row with the id, and has the same guard.
-/

set_option autoImplicit false

namespace MediaCenter.Shared

open MediaCenter.Library

/-- The guard, with the fields it reads of a record: `tenant_id`, and the `id_field` of the
call. -/
structure TenantScopedRepository (ρ ι : Type) where
  py : Stdlib
  resourceType : String
  tenantIdOf : ρ → String
  idOf : ρ → ι

namespace TenantScopedRepository

variable {ρ ι : Type} (guard : TenantScopedRepository ρ ι)

/-- `require_owned`, and what it records. -/
def requireOwned (record : ρ) (context : TenantContext) (auditSink : Bool) :
    Except Raised ρ × List TenantAuditEvent :=
  match validatedTenantId (guard.tenantIdOf record) context.correlationId with
  | .error e => (.error ⟨e, false⟩, [])
  | .ok recordTenantId =>
      if recordTenantId ≠ context.tenantId then
        let denied := denyTenantAccess guard.py context (some recordTenantId) guard.resourceType
          auditSink "resource_tenant_mismatch"
        (.error denied.1, denied.2)
      else (.ok record, [])

variable [DecidableEq ι]

/-- The loop of `get_owned`. -/
def firstOwned (resourceId : ι) (context : TenantContext) (auditSink : Bool) :
    List ρ → Except Raised (Option ρ) × List TenantAuditEvent
  | [] => (.ok none, [])
  | record :: records =>
      if guard.idOf record = resourceId then
        let required := guard.requireOwned record context auditSink
        (required.1.map some, required.2)
      else firstOwned resourceId context auditSink records

/-- `get_owned`, and what it records; without a context of its own it takes the current one. -/
def getOwned (records : List ρ) (resourceId : ι) (context current : Option TenantContext)
    (auditSink : Bool) : Except Raised (Option ρ) × List TenantAuditEvent :=
  match resolveContext context current with
  | .error e => (.error ⟨e, false⟩, [])
  | .ok context => guard.firstOwned resourceId context auditSink records

/-- `TenantScopedSQLAlchemyRepository.get_owned`: `table` holds the rows in the order in which the
database reads them. -/
def getOwnedRow (table : List ρ) (resourceId : ι) (context current : Option TenantContext)
    (auditSink : Bool) : Except Raised (Option ρ) × List TenantAuditEvent :=
  match resolveContext context current with
  | .error e => (.error ⟨e, false⟩, [])
  | .ok context =>
      match (table.filter fun record => guard.idOf record = resourceId).take 1 with
      | [] => (.ok none, [])
      | record :: _ =>
          let required := guard.requireOwned record context auditSink
          (required.1.map some, required.2)

end TenantScopedRepository

end MediaCenter.Shared
