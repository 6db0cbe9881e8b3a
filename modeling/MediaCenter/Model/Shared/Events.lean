import MediaCenter.Model.Shared.Models

/-!
# Event envelopes (`libs/shared/events.py`)

`EventEnvelope.__post_init__` normalises the fields in order and raises `ValueError` at the
first one it refuses.  The tenant id is a segment of the routing key, so it may not hold a
dot, although `TenantId` allows one.
-/

set_option autoImplicit false

namespace MediaCenter.Shared

open MediaCenter.Library

structure EventEnvelope where
  eventId : String
  type : String
  schemaVersion : String
  tenantId : String
  source : String
  correlationId : String
  occurredAt : Instant
  payload : JSONObject
  causationId : Option String

/-- `_normalize_token`. -/
def normalizeToken (value label : String) : Except SharedException String :=
  let normalized := Text.strip value
  if normalized = "" then .error (.valueError (label ++ " должен быть непустой строкой"))
  else if normalized.toList.any Text.isSpace = true then
    .error (.valueError (label ++ " не должен содержать пробелы"))
  else .ok normalized

/-- `_normalize_routing_segment`. -/
def normalizeRoutingSegment (value label : String) : Except SharedException String := do
  let normalized ← normalizeToken value label
  if normalized.toList.contains '.' then
    throw (.valueError (label ++ " не должен содержать '.' для RabbitMQ routing key"))
  return normalized

/-- `_normalize_event_type`. -/
def normalizeEventType (eventType : String) : Except SharedException String :=
  let normalized := Text.strip eventType
  if eventTypePattern normalized = true then .ok normalized
  else .error (.valueError
    "type должен быть в формате domain.event без пробелов и верхнего регистра")

/-- `^\d+\.\d+$`. -/
def schemaVersionPattern (s : String) : Bool :=
  match splitAtEvery '.' s.toList with
  | [major, minor] =>
      !major.isEmpty && major.all Text.isDecimal && !minor.isEmpty && minor.all Text.isDecimal
  | _ => false

/-- `_normalize_schema_version`. -/
def normalizeSchemaVersion (schemaVersion : String) : Except SharedException String :=
  let normalized := Text.strip schemaVersion
  if schemaVersionPattern normalized = true then .ok normalized
  else .error (.valueError "schema_version должен быть в формате major.minor")

/-- `EventEnvelope(...)`. -/
def eventEnvelope (args : EventEnvelope) : Except SharedException EventEnvelope := do
  let eventId ← normalizeToken args.eventId "event_id"
  let type ← normalizeEventType args.type
  let schemaVersion ← normalizeSchemaVersion args.schemaVersion
  let tenantId ← normalizeRoutingSegment args.tenantId "tenant_id"
  let source ← normalizeToken args.source "source"
  let correlationId ← normalizeToken args.correlationId "correlation_id"
  let causationId ← match args.causationId with
    | none => pure none
    | some value => some <$> normalizeToken value "causation_id"
  return { eventId, type, schemaVersion, tenantId, source, correlationId,
           occurredAt := args.occurredAt, payload := args.payload, causationId }

/-- `EventEnvelope.routing_key`. -/
def EventEnvelope.routingKey (e : EventEnvelope) : String :=
  "tenant." ++ e.tenantId ++ "." ++ e.type

/-- `event_routing_key`. -/
def eventRoutingKey (tenantId eventType : String) : Except SharedException String := do
  let normalizedTenantId ← normalizeRoutingSegment tenantId "tenant_id"
  let normalizedEventType ← normalizeEventType eventType
  return "tenant." ++ normalizedTenantId ++ "." ++ normalizedEventType

/-! ## Topic matching -/

/-- `_normalize_binding_key`. -/
def normalizeBindingKey (bindingKey : String) : Except SharedException String :=
  let normalized := Text.strip bindingKey
  if normalized = "" then .error (.valueError "binding_key должен быть непустой строкой")
  else if normalized.toList.any Text.isSpace = true then
    .error (.valueError "binding_key не должен содержать пробелы")
  else .ok normalized

/-- `key.split(".")`. -/
def keyWords (key : String) : List String := (splitAtEvery '.' key.toList).map String.ofList

/-- `_topic_parts_match`. -/
def topicPartsMatch : List String → List String → Bool
  | [], routingParts => routingParts.isEmpty
  | head :: tail, routingParts =>
      if head = "#" then
        if tail = [] then true
        else (List.range (routingParts.length + 1)).any fun index =>
          topicPartsMatch tail (routingParts.drop index)
      else match routingParts with
        | [] => false
        | word :: rest => if head = "*" ∨ head = word then topicPartsMatch tail rest else false

/-- `topic_matches`. -/
def topicMatches (bindingKey routingKey : String) : Except SharedException Bool := do
  let binding ← normalizeBindingKey bindingKey
  let routing ← normalizeBindingKey routingKey
  return topicPartsMatch (keyWords binding) (keyWords routing)

/-! ## Accepted envelopes -/

/-- INTERNAL: a token is its own normal form. -/
theorem normalizeToken_of_tokenPattern {s : String} (h : tokenPattern s = true)
    (label : String) : normalizeToken s label = .ok s := by
  have hvisible := visible_of_tokenPattern h
  have hempty : s ≠ "" := by
    rintro rfl
    revert h
    decide
  have hspace : ¬ s.toList.any Text.isSpace = true := by
    rw [List.any_eq_true]
    rintro ⟨c, hc, hspace⟩
    rw [(hvisible c hc).isSpace] at hspace
    cases hspace
  unfold normalizeToken
  rw [Text.strip_of_forall_visible hvisible]
  simp only [if_neg hempty, if_neg hspace]

/-- INTERNAL: so is a token with white space around it, once that is gone. -/
theorem normalizeToken_of_trim {s : String} (h : tokenPattern (Text.trim s) = true)
    (label : String) : normalizeToken s label = .ok (Text.trim s) := by
  have hsame : Text.strip s = Text.strip (Text.trim s) := (Text.strip_trim s).symm
  have htrimmed := normalizeToken_of_tokenPattern h label
  unfold normalizeToken at htrimmed ⊢
  rw [hsame]
  exact htrimmed

theorem normalizeRoutingSegment_of_tenantIdPattern {s : String}
    (h : tenantIdPattern s = true) (label : String) :
    normalizeRoutingSegment s label =
      if s.toList.contains '.' then
        .error (.valueError (label ++ " не должен содержать '.' для RabbitMQ routing key"))
      else .ok s := by
  unfold normalizeRoutingSegment
  rw [normalizeToken_of_tokenPattern (tokenPattern_of_tenantIdPattern h)]
  simp only [bind, Except.bind]
  split <;> rfl

/-- INTERNAL: an envelope of tokens is accepted as it is, unless the tenant has a dot. -/
theorem eventEnvelope_of_tokens {args : EventEnvelope} (hid : tokenPattern args.eventId = true)
    (htype : normalizeEventType args.type = .ok args.type)
    (hversion : normalizeSchemaVersion args.schemaVersion = .ok args.schemaVersion)
    (htenant : tenantIdPattern args.tenantId = true)
    (hdot : args.tenantId.toList.contains '.' = false)
    (hsource : tokenPattern args.source = true)
    (hcorrelation : tokenPattern args.correlationId = true)
    (hcausation : args.causationId = none) : eventEnvelope args = .ok args := by
  have hrouting : normalizeRoutingSegment args.tenantId "tenant_id" = .ok args.tenantId := by
    rw [normalizeRoutingSegment_of_tenantIdPattern htenant, hdot]
    rfl
  obtain ⟨eventId, type, schemaVersion, tenantId, source, correlationId, occurredAt, payload,
    causationId⟩ := args
  simp only at hid htype hversion hrouting hsource hcorrelation hcausation
  subst hcausation
  unfold eventEnvelope
  simp only [normalizeToken_of_tokenPattern hid, htype, hversion, hrouting,
    normalizeToken_of_tokenPattern hsource, normalizeToken_of_tokenPattern hcorrelation,
    bind, Except.bind, pure, Except.pure]

/-- INTERNAL: a dot in a tenant id that `TenantId` allows. -/
theorem eventEnvelope_ne_ok_of_dot {args e : EventEnvelope}
    (htenant : tenantIdPattern args.tenantId = true)
    (hdot : args.tenantId.toList.contains '.' = true) : eventEnvelope args ≠ .ok e := by
  have hrouting : normalizeRoutingSegment args.tenantId "tenant_id" = .error
      (.valueError ("tenant_id" ++ " не должен содержать '.' для RabbitMQ routing key")) := by
    rw [normalizeRoutingSegment_of_tenantIdPattern htenant, hdot]
    rfl
  intro h
  unfold eventEnvelope at h
  rw [hrouting] at h
  simp only [bind, Except.bind] at h
  split at h
  · cases h
  split at h
  · cases h
  split at h
  · cases h
  · cases h

end MediaCenter.Shared
