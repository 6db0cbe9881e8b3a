import MediaCenter.Model.Shared.Json

/-!
# Audit log (`libs/shared/audit_logger.py`)

`AuditLogger.record` builds an immutable record and appends it to the sink.  A JSON round
trip of the metadata gives an equal `dict`, so the metadata is kept as it is.
-/

set_option autoImplicit false

namespace MediaCenter.Shared

open MediaCenter.Library

structure AuditFields where
  eventType : String
  tenantId : String
  points : Option ℚ
  metadata : JSONObject
  timestamp : Instant
  auditHash : String
  correlationId : Option String
  actorHash : Option String
  source : Option String

/-- `points`, in the payload: only contributions carry them, and theirs are floats. -/
def auditPoints : Option ℚ → JSONValue
  | some points => .float points
  | none => .null

/-- `AuditPayload.to_hash_payload`. -/
def auditHashPayload (py : Stdlib) (eventType tenantId : String) (points : Option ℚ)
    (metadata : JSONObject) (timestamp : Instant) : JSONObject :=
  [("event_type", .str eventType),
    ("tenant_id", .str tenantId),
    ("points", auditPoints points),
    ("metadata", .dict metadata),
    ("timestamp", .str (formatDatetime py timestamp))]

namespace AuditFields

def checks (f : AuditFields) : List (String × Bool) :=
  [("event_type", isEventType f.eventType),
    ("tenant_id", tenantIdPattern f.tenantId),
    ("audit_hash", auditHashPattern f.auditHash),
    ("correlation_id", optionalField tokenPattern f.correlationId)]

end AuditFields

abbrev AuditLogRecord : Type := Validated AuditFields.checks

structure AuditArgs where
  eventType : String
  tenantId : String
  points : Option ℚ := none
  metadata : JSONObject
  timestamp : Instant
  correlationId : Option String
  actorHash : Option String := none
  source : Option String := none

/-- The record `AuditLogger.record` writes, or what it raises instead. -/
def auditRecord (py : Stdlib) (args : AuditArgs) : Except SharedException AuditLogRecord :=
  if tenantIdPattern args.tenantId = true then
    Validated.make "AuditLogRecord" AuditFields.checks
      { eventType := Text.trim args.eventType
        tenantId := args.tenantId
        points := args.points
        metadata := args.metadata
        timestamp := args.timestamp
        auditHash := hashJsonPayload py
          (auditHashPayload py (Text.trim args.eventType) args.tenantId args.points
            args.metadata args.timestamp)
        correlationId := args.correlationId.map Text.trim
        actorHash := args.actorHash.map Text.trim
        source := args.source.map Text.trim }
  else .error (.valueError "tenant_id имеет недопустимый формат")

/-- INTERNAL: what stands in an accepted record. -/
theorem auditRecord_eq_ok {py : Stdlib} {args : AuditArgs} {record : AuditLogRecord}
    (h : auditRecord py args = .ok record) :
    tenantIdPattern args.tenantId = true ∧
      record.fields.eventType = Text.trim args.eventType ∧
      record.fields.tenantId = args.tenantId ∧
      record.fields.metadata = args.metadata ∧
      record.fields.timestamp = args.timestamp ∧
      record.fields.correlationId = args.correlationId.map Text.trim ∧
      record.fields.actorHash = args.actorHash.map Text.trim := by
  unfold auditRecord at h
  by_cases htenant : tenantIdPattern args.tenantId = true
  · rw [if_pos htenant, Validated.make_eq_ok_iff] at h
    rw [h]
    exact ⟨htenant, rfl, rfl, rfl, rfl, rfl, rfl⟩
  · rw [if_neg htenant] at h
    cases h

/-- INTERNAL: a record is refused only for its tenant, its type or its correlation id. -/
theorem exists_auditRecord_eq_ok_iff (py : Stdlib) (args : AuditArgs) :
    (∃ record, auditRecord py args = .ok record) ↔
      tenantIdPattern args.tenantId = true ∧
        isEventType (Text.trim args.eventType) = true ∧
        optionalField tokenPattern (args.correlationId.map Text.trim) = true := by
  unfold auditRecord
  by_cases htenant : tenantIdPattern args.tenantId = true
  · rw [if_pos htenant, Validated.exists_make_eq_ok_iff]
    simp [AuditFields.checks, htenant, auditHashPattern_hashJsonPayload]
  · rw [if_neg htenant]
    simp [htenant]

theorem auditHashPattern_auditHash (record : AuditLogRecord) :
    auditHashPattern record.fields.auditHash = true :=
  record.valid ("audit_hash", auditHashPattern record.fields.auditHash)
    (by simp [AuditFields.checks])

end MediaCenter.Shared
