import MediaCenter.Model.Shared.Events
import MediaCenter.Model.Shared.Json
import MediaCenter.Model.Shared.Reference

/-!
# Event envelopes on the wire (`libs/shared/events.py`)

An envelope is built from any `datetime` with an offset, and keeps the point in time.  It is
written as a JSON object with sorted keys, and read back through the same constructor.
-/

set_option autoImplicit false

namespace MediaCenter.Shared

open MediaCenter.Library

/-! ## Points in time -/

/-- `isoformat` of a `datetime` in UTC, without its offset; microseconds only if there are any. -/
def isoformatNaive (t : Instant) : String :=
  let (year, month, day) := Reference.civilDate (t / 86400000000)
  let micros := (t % 86400000000).toNat
  let seconds := micros / 1000000
  let fraction := micros % 1000000
  Reference.padded 4 year.toNat ++ "-" ++ Reference.padded 2 month.toNat ++ "-" ++
    Reference.padded 2 day.toNat ++ "T" ++ Reference.padded 2 (seconds / 3600) ++ ":" ++
    Reference.padded 2 (seconds / 60 % 60) ++ ":" ++ Reference.padded 2 (seconds % 60) ++
    (if fraction = 0 then "" else "." ++ Reference.padded 6 fraction)

/-- `value.astimezone(UTC).isoformat()`. -/
def isoformatUtc (t : Instant) : String := isoformatNaive t ++ "+00:00"

/-- `_format_datetime`. -/
def formatOccurredAt (t : Instant) : String := Text.replace "+00:00" "Z" (isoformatUtc t)

/-- `_normalize_datetime`: a naive value is refused, and so is one whose time in UTC is not in
the years 1 to 9999. -/
def normalizeOccurredAt (value : PyDatetime) : Except SharedException Instant :=
  match value.utcoffset with
  | none => .error (.valueError "occurred_at должен содержать timezone")
  | some offset => checkedInstant (value.wall - offset)

/-- `_parse_datetime`. -/
def parseOccurredAt (py : Stdlib) (rawValue : String) : Except SharedException Instant :=
  match py.fromisoformat (Text.replace "Z" "+00:00" rawValue) with
  | none => .error (.valueError "Invalid isoformat string")
  | some value => normalizeOccurredAt value

/-- What is assumed of `datetime.fromisoformat`: it reads what `isoformat` writes. -/
def Stdlib.ReadsIsoformat (py : Stdlib) : Prop :=
  ∀ t : Instant, datetimeMin ≤ t → t ≤ datetimeMax →
    py.fromisoformat (isoformatUtc t) = some ⟨t, some 0⟩

/-! ## Building an envelope -/

/-- `_clone_json_object`. -/
def cloneJsonObject (codec : JsonCodec) (value : JSONObject) :
    Except SharedException JSONObject := do
  let text ← codec.dumps (.dict value)
  match ← codec.loads text with
  | .dict cloned => .ok cloned
  | _ => .error (.valueError "payload должен быть JSON object")

/-- The arguments of `EventEnvelope(...)`. -/
structure EventEnvelopeArgs where
  eventId : String
  type : String
  schemaVersion : String
  tenantId : String
  source : String
  correlationId : String
  occurredAt : PyDatetime
  payload : JSONObject
  causationId : Option String

/-- `_normalize_token` of a value that may be absent. -/
def normalizeOptionalToken (value : Option String) (label : String) :
    Except SharedException (Option String) :=
  match value with
  | none => .ok none
  | some value => some <$> normalizeToken value label

/-- `EventEnvelope(...)`, with the time and the payload: `__post_init__`. -/
def EventEnvelope.create (codec : JsonCodec) (args : EventEnvelopeArgs) :
    Except SharedException EventEnvelope := do
  let eventId ← normalizeToken args.eventId "event_id"
  let type ← normalizeEventType args.type
  let schemaVersion ← normalizeSchemaVersion args.schemaVersion
  let tenantId ← normalizeRoutingSegment args.tenantId "tenant_id"
  let source ← normalizeToken args.source "source"
  let correlationId ← normalizeToken args.correlationId "correlation_id"
  let occurredAt ← normalizeOccurredAt args.occurredAt
  let payload ← cloneJsonObject codec args.payload
  let causationId ← normalizeOptionalToken args.causationId "causation_id"
  return { eventId, type, schemaVersion, tenantId, source, correlationId, occurredAt, payload,
           causationId }

/-! ## Writing and reading -/

/-- The item of an optional field, if it is there. -/
def causationItem : Option String → JSONObject
  | none => []
  | some causationId => [("causation_id", .str causationId)]

/-- `to_dict`. -/
def EventEnvelope.toDict (codec : JsonCodec) (e : EventEnvelope) :
    Except SharedException JSONObject := do
  let payload ← cloneJsonObject codec e.payload
  return [("event_id", .str e.eventId), ("type", .str e.type),
    ("schema_version", .str e.schemaVersion), ("tenant_id", .str e.tenantId),
    ("source", .str e.source), ("correlation_id", .str e.correlationId),
    ("occurred_at", .str (formatOccurredAt e.occurredAt)), ("payload", .dict payload)] ++
    causationItem e.causationId

/-- `to_json`. -/
def EventEnvelope.toJson (codec : JsonCodec) (e : EventEnvelope) :
    Except SharedException String := do
  let data ← e.toDict codec
  codec.dumpsSorted (.dict data)

/-- `_required_string`. -/
def requiredString (data : JSONObject) (key : String) : Except SharedException String :=
  match JSONValue.item key data with
  | some (.str value) => .ok value
  | _ => .error (.valueError (key ++ " должен быть строкой"))

/-- `_optional_string`. -/
def optionalString (data : JSONObject) (key : String) :
    Except SharedException (Option String) :=
  match JSONValue.item key data with
  | none => .ok none
  | some .null => .ok none
  | some (.str value) => .ok (some value)
  | _ => .error (.valueError (key ++ " должен быть строкой"))

/-- The payload of an object that is read. -/
def requiredPayload (data : JSONObject) : Except SharedException JSONObject :=
  match JSONValue.item "payload" data with
  | some (.dict payload) => .ok payload
  | _ => .error (.valueError "payload должен быть JSON object")

/-- `from_dict`. -/
def EventEnvelope.fromDict (py : Stdlib) (codec : JsonCodec) (data : JSONObject) :
    Except SharedException EventEnvelope := do
  let payload ← requiredPayload data
  let eventId ← requiredString data "event_id"
  let type ← requiredString data "type"
  let schemaVersion ← requiredString data "schema_version"
  let tenantId ← requiredString data "tenant_id"
  let source ← requiredString data "source"
  let correlationId ← requiredString data "correlation_id"
  let rawOccurredAt ← requiredString data "occurred_at"
  let occurredAt ← parseOccurredAt py rawOccurredAt
  let causationId ← optionalString data "causation_id"
  EventEnvelope.create codec ⟨eventId, type, schemaVersion, tenantId, source, correlationId,
    ⟨occurredAt, some 0⟩, payload, causationId⟩

/-- `from_json`. -/
def EventEnvelope.fromJson (py : Stdlib) (codec : JsonCodec) (rawJson : String) :
    Except SharedException EventEnvelope := do
  match ← codec.loads rawJson with
  | .dict loaded => EventEnvelope.fromDict py codec loaded
  | _ => .error (.valueError "event envelope должен быть JSON object")

end MediaCenter.Shared
