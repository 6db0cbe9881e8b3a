import MediaCenter.Model.MessengerAdapter.ContentTransformer
import MediaCenter.Model.Shared.AuditLogger
import MediaCenter.Model.Shared.EventWire

/-!
# Audit hashes (`libs/shared/audit_logger.py`)

`audit_hash` and `AuditLogger.record` with everything they take: points of either number type,
metadata that the contract strips, and a time as a `datetime` or a text.  What pydantic does
with a stored record is a parameter.
-/

set_option autoImplicit false

namespace MediaCenter.Shared.AuditTrail

open MediaCenter.Library
open MediaCenter.MessengerAdapter (trimmedObject)

/-- `AuditPoints`. -/
inductive AuditPoints : Type where
  | absent
  | int (n : ℤ)
  | float (x : ℚ)
  deriving DecidableEq, Repr

def AuditPoints.json : AuditPoints → JSONValue
  | .absent => .null
  | .int n => .int n
  | .float x => .float x

/-- `datetime | str`. -/
inductive TimestampArg : Type where
  | datetime (d : PyDatetime)
  | text (s : String)
  deriving DecidableEq, Repr

structure AuditPayloadFields where
  eventType : String
  tenantId : String
  points : AuditPoints
  metadata : JSONObject
  timestamp : Instant

namespace AuditPayloadFields

def checks (f : AuditPayloadFields) : List (String × Bool) :=
  [("event_type", isEventType f.eventType), ("tenant_id", tenantIdPattern f.tenantId)]

/-- `to_hash_payload`. -/
def toHashPayload (f : AuditPayloadFields) : JSONObject :=
  [("event_type", .str f.eventType),
    ("tenant_id", .str f.tenantId),
    ("points", f.points.json),
    ("metadata", .dict f.metadata),
    ("timestamp", .str (formatOccurredAt f.timestamp))]

end AuditPayloadFields

abbrev AuditPayload : Type := Validated AuditPayloadFields.checks

structure AuditRecordFields extends AuditPayloadFields where
  auditHash : String
  correlationId : Option String
  actorHash : Option String
  source : Option String

def AuditRecordFields.checks (f : AuditRecordFields) : List (String × Bool) :=
  f.toAuditPayloadFields.checks ++
    [("audit_hash", auditHashPattern f.auditHash),
      ("correlation_id", optionalField tokenPattern f.correlationId)]

/-- `AuditLogRecord`, with every field. -/
abbrev AuditLogRecord : Type := Validated AuditRecordFields.checks

/-- The arguments of `audit_hash`. -/
structure AuditEvent where
  eventType : String
  tenantId : String
  points : AuditPoints
  metadata : Option JSONObject
  timestamp : TimestampArg

/-- `_clone_metadata`: the JSON round trip puts the keys in order. -/
def cloneMetadata : Option JSONObject → JSONObject
  | none => []
  | some metadata => sortKeys (JSONValue.sortedPairs metadata)

/-- `_normalize_timestamp`. -/
def normalizeTimestamp (py : Stdlib) : TimestampArg → Except SharedException Instant
  | .datetime d => normalizeDatetime d
  | .text s =>
      if Text.strip s = "" then .error (.valueError "timestamp не может быть пустым")
      else match py.fromisoformat (Text.replace "Z" "+00:00" s) with
        | some d => normalizeDatetime d
        | none => .error (.valueError "Invalid isoformat string")

/-- `build_audit_payload`. -/
def buildAuditPayload (py : Stdlib) (event : AuditEvent) : Except SharedException AuditPayload :=
  if tenantIdPattern event.tenantId = true then do
    let timestamp ← normalizeTimestamp py event.timestamp
    Validated.make "AuditPayload" AuditPayloadFields.checks
      { eventType := Text.trim event.eventType
        tenantId := Text.trim event.tenantId
        points := event.points
        metadata := trimmedObject (cloneMetadata event.metadata)
        timestamp := timestamp }
  else .error (.valueError "tenant_id имеет недопустимый формат")

/-- `canonical_audit_json`. -/
def canonicalAuditJson (py : Stdlib) (payload : AuditPayloadFields) : String :=
  dumps py (.dict payload.toHashPayload)

/-- `audit_hash_from_payload`. -/
def auditHashFromPayload (py : Stdlib) (payload : AuditPayloadFields) : String :=
  py.sha256Hex (canonicalAuditJson py payload)

/-- `audit_hash`. -/
def auditHash (py : Stdlib) (event : AuditEvent) : Except SharedException String :=
  (buildAuditPayload py event).map fun payload => auditHashFromPayload py payload.fields

/-- What `AuditLogger.record` takes beside the event, whose time may be missing. -/
structure AuditContext where
  clock : PyDatetime
  correlationId : Option String
  actorHash : Option String
  source : Option String

/-- How pydantic writes a record as JSON and reads its fields. -/
structure RecordJson where
  codec : JsonCodec
  writeDatetime : Instant → String
  readDatetime : JSONValue → Option Instant
  readPoints : JSONValue → Option AuditPoints

/-- What is assumed of it: it reads back what it writes. -/
structure RecordJson.Lawful (wire : RecordJson) : Prop where
  codec : wire.codec.Lawful
  readDatetime_writeDatetime : ∀ t, datetimeMin ≤ t → t ≤ datetimeMax →
    wire.readDatetime (.str (wire.writeDatetime t)) = some t
  readPoints_json : ∀ points : AuditPoints, wire.readPoints points.json = some points

end MediaCenter.Shared.AuditTrail
