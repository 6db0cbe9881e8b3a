import MediaCenter.Analysis.Shared.EventNormalForms
import MediaCenter.Analysis.Shared.IsoTexts
import MediaCenter.Analysis.Shared.JsonTexts

/-!
# Envelopes survive the wire

Every field of an envelope is in a normal form that its constructor keeps, the time is written
with `Z` and read back with its offset, and the payload comes back with its keys in order.
-/

set_option autoImplicit false

namespace MediaCenter.Shared

open MediaCenter.Library

/-- Two envelopes are equal in Python: their payloads are equal as values, in which the order of
keys does not count. -/
structure EventEnvelope.Same (e e' : EventEnvelope) : Prop where
  eventId : e.eventId = e'.eventId
  type : e.type = e'.type
  schemaVersion : e.schemaVersion = e'.schemaVersion
  tenantId : e.tenantId = e'.tenantId
  source : e.source = e'.source
  correlationId : e.correlationId = e'.correlationId
  occurredAt : e.occurredAt = e'.occurredAt
  payload : (JSONValue.dict e.payload).sorted = (JSONValue.dict e'.payload).sorted
  causationId : e.causationId = e'.causationId

/-! ## The time -/

theorem checkedInstant_eq_ok_iff {t s : Instant} :
    checkedInstant t = .ok s ↔ s = t ∧ datetimeMin ≤ t ∧ t ≤ datetimeMax := by
  unfold checkedInstant
  by_cases h : datetimeMin ≤ t ∧ t ≤ datetimeMax
  · rw [if_pos h]
    simp [h, eq_comm]
  · rw [if_neg h]
    simp [h]

open Reference in
/-- INTERNAL: what is written before the offset. -/
theorem not_mem_isoformatNaive {c : Char} (t : Instant) (hdigit : c.isDigit = false)
    (hmark : c ≠ '-' ∧ c ≠ 'T' ∧ c ≠ ':' ∧ c ≠ '.') : c ∉ (isoformatNaive t).toList := by
  have hpadded : ∀ width n, c ∉ (padded width n).toList := by
    intro width n hc
    unfold padded at hc
    simp only [String.toList_append, String.toList_ofList, List.mem_append,
      List.mem_replicate] at hc
    rcases hc with ⟨_, rfl⟩ | hc
    · exact absurd hdigit (by decide)
    · have hdigits : (toString n).toList = Nat.toDigits 10 n := Nat.toList_repr
      rw [hdigits] at hc
      have hisDigit := Nat.isDigit_of_mem_toDigits (by omega) (by omega) hc
      rw [hdigit] at hisDigit
      cases hisDigit
  have hfraction : ∀ n, c ∉ (if n = 0 then "" else "." ++ padded 6 n).toList := by
    intro n hc
    split at hc
    · cases hc
    · rw [String.toList_append, List.mem_append] at hc
      rcases hc with hc | hc
      · have heq : c = '.' := by simpa using hc
        exact hmark.2.2.2 heq
      · exact hpadded 6 n hc
  have hdash : "-".toList = ['-'] := by decide
  have htime : "T".toList = ['T'] := by decide
  have hcolon : ":".toList = [':'] := by decide
  unfold isoformatNaive
  simp only [String.toList_append, List.mem_append, hpadded, hfraction, hdash, htime, hcolon,
    List.mem_singleton, hmark, or_self, not_false_eq_true]

theorem formatOccurredAt_eq (t : Instant) : formatOccurredAt t = isoformatNaive t ++ "Z" :=
  Text.replace_append_self (by decide : "+00:00".toList = '+' :: "00:00".toList)
    (not_mem_isoformatNaive t (by decide) (by decide))

theorem parseOccurredAt_formatOccurredAt {py : Stdlib} (hiso : py.ReadsIsoformat) {t : Instant}
    (hmin : datetimeMin ≤ t) (hmax : t ≤ datetimeMax) :
    parseOccurredAt py (formatOccurredAt t) = .ok t := by
  have hzulu : Text.replace "Z" "+00:00" (isoformatNaive t ++ "Z") = isoformatUtc t :=
    Text.replace_append_self (by decide : "Z".toList = 'Z' :: [])
      (not_mem_isoformatNaive t (by decide) (by decide))
  unfold parseOccurredAt
  rw [formatOccurredAt_eq, hzulu, hiso t hmin hmax]
  show checkedInstant (t - 0) = .ok t
  rw [Int.sub_zero]
  exact checkedInstant_eq_ok_iff.mpr ⟨rfl, hmin, hmax⟩

/-! ## The constructor -/

/-- INTERNAL: what holds of every envelope that can be constructed. -/
structure EventEnvelope.Normal (codec : JsonCodec) (e : EventEnvelope) : Prop where
  eventId : normalizeToken e.eventId "event_id" = .ok e.eventId
  type : normalizeEventType e.type = .ok e.type
  schemaVersion : normalizeSchemaVersion e.schemaVersion = .ok e.schemaVersion
  tenantId : normalizeRoutingSegment e.tenantId "tenant_id" = .ok e.tenantId
  source : normalizeToken e.source "source" = .ok e.source
  correlationId : normalizeToken e.correlationId "correlation_id" = .ok e.correlationId
  occurredAt_min : datetimeMin ≤ e.occurredAt
  occurredAt_max : e.occurredAt ≤ datetimeMax
  distinctKeys : (JSONValue.dict e.payload).DistinctKeys
  dumps_payload : ∃ s, codec.dumps (.dict e.payload) = .ok s
  causationId : normalizeOptionalToken e.causationId "causation_id" = .ok e.causationId

section Construction

variable {codec : JsonCodec} (hjson : codec.Lawful)

include hjson

theorem cloneJsonObject_eq_ok {payload cloned : JSONObject}
    (h : cloneJsonObject codec payload = .ok cloned) (hkeys : (JSONValue.dict payload).DistinctKeys) :
    cloned = payload ∧ ∃ s, codec.dumps (.dict payload) = .ok s := by
  unfold cloneJsonObject at h
  rw [bind_eq_ok_iff] at h
  obtain ⟨s, hs, h⟩ := h
  rw [bind_eq_ok_iff] at h
  obtain ⟨v, hv, h⟩ := h
  rw [hjson.loads_dumps _ s hkeys hs] at hv
  cases hv
  cases h
  exact ⟨rfl, s, hs⟩

theorem cloneJsonObject_of_dumps {payload : JSONObject} {s : String}
    (hkeys : (JSONValue.dict payload).DistinctKeys) (hs : codec.dumps (.dict payload) = .ok s) :
    cloneJsonObject codec payload = .ok payload := by
  unfold cloneJsonObject
  rw [bind_eq_ok_iff]
  refine ⟨s, hs, ?_⟩
  rw [bind_eq_ok_iff]
  exact ⟨_, hjson.loads_dumps _ s hkeys hs, rfl⟩

/-- INTERNAL: a clone is a value that can be written. -/
theorem EventEnvelope.create_eq_ok {args : EventEnvelopeArgs} {e : EventEnvelope}
    (h : EventEnvelope.create codec args = .ok e)
    (hkeys : (JSONValue.dict args.payload).DistinctKeys) : e.Normal codec := by
  unfold EventEnvelope.create at h
  simp only [bind_eq_ok_iff] at h
  obtain ⟨eventId, heventId, type, htype, schemaVersion, hschema, tenantId, htenant, source,
    hsource, correlationId, hcorrelation, occurredAt, hoccurred, payload, hpayload, causationId,
    hcausation, h⟩ := h
  cases h
  obtain ⟨rfl, hdumps⟩ := cloneJsonObject_eq_ok hjson hpayload hkeys
  have htime : datetimeMin ≤ occurredAt ∧ occurredAt ≤ datetimeMax := by
    unfold normalizeOccurredAt at hoccurred
    split at hoccurred
    · cases hoccurred
    · obtain ⟨rfl, hrange⟩ := checkedInstant_eq_ok_iff.mp hoccurred
      exact hrange
  exact {
    eventId := normalizeToken_idem heventId _
    type := normalizeEventType_idem htype
    schemaVersion := normalizeSchemaVersion_idem hschema
    tenantId := normalizeRoutingSegment_idem htenant _
    source := normalizeToken_idem hsource _
    correlationId := normalizeToken_idem hcorrelation _
    occurredAt_min := htime.1
    occurredAt_max := htime.2
    distinctKeys := hkeys
    dumps_payload := hdumps
    causationId := normalizeOptionalToken_idem hcausation _ }

/-- INTERNAL: an envelope with a payload in normal form is built from its own fields. -/
theorem EventEnvelope.Normal.create {e : EventEnvelope} (h : e.Normal codec) {payload : JSONObject}
    {s : String} (hkeys : (JSONValue.dict payload).DistinctKeys)
    (hs : codec.dumps (.dict payload) = .ok s) :
    EventEnvelope.create codec ⟨e.eventId, e.type, e.schemaVersion, e.tenantId, e.source,
      e.correlationId, ⟨e.occurredAt, some 0⟩, payload, e.causationId⟩ =
        .ok { e with payload := payload } := by
  have htime : normalizeOccurredAt ⟨e.occurredAt, some 0⟩ = .ok e.occurredAt := by
    show checkedInstant (e.occurredAt - 0) = .ok e.occurredAt
    rw [Int.sub_zero]
    exact checkedInstant_eq_ok_iff.mpr ⟨rfl, h.occurredAt_min, h.occurredAt_max⟩
  unfold EventEnvelope.create
  simp only [h.eventId, h.type, h.schemaVersion, h.tenantId, h.source, h.correlationId, htime,
    cloneJsonObject_of_dumps hjson hkeys hs, h.causationId]
  rfl

end Construction

/-! ## There and back -/

/-- The object an envelope is written as. -/
def EventEnvelope.items (e : EventEnvelope) : JSONObject :=
  [("event_id", .str e.eventId), ("type", .str e.type), ("schema_version", .str e.schemaVersion),
    ("tenant_id", .str e.tenantId), ("source", .str e.source),
    ("correlation_id", .str e.correlationId),
    ("occurred_at", .str (formatOccurredAt e.occurredAt)), ("payload", .dict e.payload)] ++
    causationItem e.causationId

theorem EventEnvelope.nodup_items (e : EventEnvelope) : (e.items.map Prod.fst).Nodup := by
  unfold EventEnvelope.items causationItem
  cases e.causationId with
  | none =>
      show ["event_id", "type", "schema_version", "tenant_id", "source", "correlation_id",
        "occurred_at", "payload"].Nodup
      decide
  | some causationId =>
      show ["event_id", "type", "schema_version", "tenant_id", "source", "correlation_id",
        "occurred_at", "payload", "causation_id"].Nodup
      decide

section Items

variable {e : EventEnvelope}

/-- INTERNAL: the fields of the sorted object are those of the envelope, its payload sorted. -/
theorem EventEnvelope.item_sorted (key : String) :
    JSONValue.item key (sortKeys (JSONValue.sortedPairs e.items)) =
      (JSONValue.item key e.items).map JSONValue.sorted :=
  JSONValue.item_sortKeys_sortedPairs e.nodup_items key

theorem EventEnvelope.requiredString_sorted {key value : String}
    (hitem : (key, JSONValue.str value) ∈ e.items) :
    requiredString (sortKeys (JSONValue.sortedPairs e.items)) key = .ok value := by
  unfold requiredString
  rw [EventEnvelope.item_sorted, (JSONValue.item_eq_some_iff e.nodup_items).mpr hitem,
    Option.map_some, JSONValue.sorted]

theorem EventEnvelope.optionalString_sorted :
    optionalString (sortKeys (JSONValue.sortedPairs e.items)) "causation_id" =
      .ok e.causationId := by
  unfold optionalString
  rw [EventEnvelope.item_sorted]
  cases hcausation : e.causationId with
  | none =>
      have hnone : JSONValue.item "causation_id" e.items = none := by
        unfold JSONValue.item EventEnvelope.items
        rw [hcausation]
        rfl
      rw [hnone]
      rfl
  | some causationId =>
      have hmem : ("causation_id", JSONValue.str causationId) ∈ e.items := by
        unfold EventEnvelope.items
        rw [hcausation]
        exact List.mem_append_right _ List.mem_cons_self
      rw [(JSONValue.item_eq_some_iff e.nodup_items).mpr hmem, Option.map_some, JSONValue.sorted]

end Items

section RoundTrip

variable {py : Stdlib} {codec : JsonCodec} (hiso : py.ReadsIsoformat) (hjson : codec.Lawful)
  {e : EventEnvelope}

include hjson

theorem EventEnvelope.Normal.toDict (h : e.Normal codec) : e.toDict codec = .ok e.items := by
  obtain ⟨s, hs⟩ := h.dumps_payload
  unfold EventEnvelope.toDict
  rw [cloneJsonObject_of_dumps hjson h.distinctKeys hs]
  rfl

/-- INTERNAL: an envelope is written, and what is written is read as the sorted object. -/
theorem EventEnvelope.Normal.toJson (h : e.Normal codec) : ∃ text,
    e.toJson codec = .ok text ∧
      codec.loads text = .ok (.dict (sortKeys (JSONValue.sortedPairs e.items))) := by
  have hdumps : ∃ s, codec.dumps (.dict e.items) = .ok s := by
    rw [hjson.dumps_dict]
    intro p hp
    unfold EventEnvelope.items causationItem at hp
    rw [List.mem_append] at hp
    rcases hp with hp | hp
    · simp only [List.mem_cons, List.not_mem_nil, or_false] at hp
      rcases hp with rfl | rfl | rfl | rfl | rfl | rfl | rfl | rfl
      all_goals first | exact hjson.dumps_str _ | exact h.dumps_payload
    · cases hcausation : e.causationId with
      | none =>
          rw [hcausation] at hp
          cases hp
      | some causationId =>
          rw [hcausation, List.mem_singleton] at hp
          rw [hp]
          exact hjson.dumps_str causationId
  have hdistinct : (JSONValue.dict e.items).DistinctKeys := by
    rw [JSONValue.DistinctKeys, JSONValue.distinctPairs_iff]
    refine ⟨e.nodup_items, ?_⟩
    intro p hp
    unfold EventEnvelope.items causationItem at hp
    rw [List.mem_append] at hp
    have hstr : ∀ s : String, (JSONValue.str s).DistinctKeys := by
      intro s
      rw [JSONValue.DistinctKeys]
      trivial
    rcases hp with hp | hp
    · simp only [List.mem_cons, List.not_mem_nil, or_false] at hp
      rcases hp with rfl | rfl | rfl | rfl | rfl | rfl | rfl | rfl
      all_goals first | exact hstr _ | exact h.distinctKeys
    · cases hcausation : e.causationId with
      | none =>
          rw [hcausation] at hp
          cases hp
      | some causationId =>
          rw [hcausation, List.mem_singleton] at hp
          rw [hp]
          exact hstr causationId
  obtain ⟨s, hs⟩ := hdumps
  obtain ⟨text, htext⟩ := hjson.dumps_sorted hs
  refine ⟨text, ?_, ?_⟩
  · unfold EventEnvelope.toJson
    rw [h.toDict hjson]
    show codec.dumpsSorted _ = _
    rw [hjson.dumpsSorted_eq, htext]
  · have hloads := hjson.loads_dumps _ text hdistinct.sorted htext
    rw [JSONValue.sorted] at hloads
    exact hloads

include hiso

/-- INTERNAL: what is read is the envelope, the keys of its payload in order. -/
theorem EventEnvelope.Normal.fromDict (h : e.Normal codec) :
    EventEnvelope.fromDict py codec (sortKeys (JSONValue.sortedPairs e.items)) =
      .ok { e with payload := sortKeys (JSONValue.sortedPairs e.payload) } := by
  have hpayload : requiredPayload (sortKeys (JSONValue.sortedPairs e.items)) =
      .ok (sortKeys (JSONValue.sortedPairs e.payload)) := by
    have hitem : ("payload", JSONValue.dict e.payload) ∈ e.items := by
      simp [EventEnvelope.items]
    unfold requiredPayload
    rw [EventEnvelope.item_sorted, (JSONValue.item_eq_some_iff e.nodup_items).mpr hitem,
      Option.map_some, JSONValue.sorted]
  have heventId : ("event_id", JSONValue.str e.eventId) ∈ e.items := by
    simp [EventEnvelope.items]
  have htype : ("type", JSONValue.str e.type) ∈ e.items := by simp [EventEnvelope.items]
  have hschema : ("schema_version", JSONValue.str e.schemaVersion) ∈ e.items := by
    simp [EventEnvelope.items]
  have htenant : ("tenant_id", JSONValue.str e.tenantId) ∈ e.items := by
    simp [EventEnvelope.items]
  have hsource : ("source", JSONValue.str e.source) ∈ e.items := by simp [EventEnvelope.items]
  have hcorrelation : ("correlation_id", JSONValue.str e.correlationId) ∈ e.items := by
    simp [EventEnvelope.items]
  have hoccurred : ("occurred_at", JSONValue.str (formatOccurredAt e.occurredAt)) ∈ e.items := by
    simp [EventEnvelope.items]
  obtain ⟨s, hs⟩ := h.dumps_payload
  obtain ⟨s', hs'⟩ := hjson.dumps_sorted hs
  have hdistinct := h.distinctKeys.sorted
  rw [JSONValue.sorted] at hs' hdistinct
  unfold EventEnvelope.fromDict
  simp only [bind_eq_ok_iff]
  exact ⟨_, hpayload, _, EventEnvelope.requiredString_sorted heventId,
    _, EventEnvelope.requiredString_sorted htype,
    _, EventEnvelope.requiredString_sorted hschema,
    _, EventEnvelope.requiredString_sorted htenant,
    _, EventEnvelope.requiredString_sorted hsource,
    _, EventEnvelope.requiredString_sorted hcorrelation,
    _, EventEnvelope.requiredString_sorted hoccurred,
    _, parseOccurredAt_formatOccurredAt hiso h.occurredAt_min h.occurredAt_max,
    _, EventEnvelope.optionalString_sorted, h.create hjson hdistinct hs'⟩

theorem EventEnvelope.Normal.roundTrip (h : e.Normal codec) : ∃ text e',
    e.toJson codec = .ok text ∧ EventEnvelope.fromJson py codec text = .ok e' ∧ e'.Same e ∧
      e'.routingKey = e.routingKey := by
  obtain ⟨text, htext, hloads⟩ := h.toJson hjson
  refine ⟨text, { e with payload := sortKeys (JSONValue.sortedPairs e.payload) }, htext, ?_, ?_, rfl⟩
  · unfold EventEnvelope.fromJson
    simp only [hloads, bind, Except.bind]
    exact h.fromDict hiso hjson
  · have hsorted : (JSONValue.dict (sortKeys (JSONValue.sortedPairs e.payload))).sorted =
        (JSONValue.dict e.payload).sorted := by
      have hidem := JSONValue.sorted_sorted (.dict e.payload)
      rw [JSONValue.sorted] at hidem
      rw [hidem, JSONValue.sorted]
    exact ⟨rfl, rfl, rfl, rfl, rfl, rfl, rfl, hsorted, rfl⟩

omit hiso in
/-- INTERNAL: an envelope that is read has been through the constructor. -/
theorem EventEnvelope.fromJson_eq_ok {text : String}
    (h : EventEnvelope.fromJson py codec text = .ok e) : e.Normal codec := by
  unfold EventEnvelope.fromJson at h
  rw [bind_eq_ok_iff] at h
  obtain ⟨v, hloads, h⟩ := h
  have hdistinct := hjson.distinct_loads text v hloads
  cases v with
  | null => cases h
  | bool b => cases h
  | int n => cases h
  | float x => cases h
  | str s => cases h
  | list items => cases h
  | dict loaded =>
      rw [JSONValue.DistinctKeys, JSONValue.distinctPairs_iff] at hdistinct
      simp only at h
      unfold EventEnvelope.fromDict at h
      rw [bind_eq_ok_iff] at h
      obtain ⟨payload, hpayload, h⟩ := h
      simp only [bind_eq_ok_iff] at h
      obtain ⟨_, _, _, _, _, _, _, _, _, _, _, _, _, _, _, _, _, _, h⟩ := h
      refine EventEnvelope.create_eq_ok hjson h ?_
      unfold requiredPayload at hpayload
      split at hpayload
      · rename_i payload' hitem
        cases hpayload
        exact hdistinct.2 _ ((JSONValue.item_eq_some_iff hdistinct.1).mp hitem)
      · cases hpayload

end RoundTrip

/-- Every envelope that can be constructed comes back from its text, with its routing key, and
every text that is read as an envelope stands for the same envelope when it is written again. -/
structure WireRoundTrip (py : Stdlib) (codec : JsonCodec) : Prop where
  decodes : ∀ (args : EventEnvelopeArgs) (e : EventEnvelope),
    (JSONValue.dict args.payload).DistinctKeys → EventEnvelope.create codec args = .ok e →
    ∃ text e', e.toJson codec = .ok text ∧ EventEnvelope.fromJson py codec text = .ok e' ∧
      e'.Same e ∧ eventRoutingKey e'.tenantId e'.type = eventRoutingKey e.tenantId e.type
  stable : ∀ (text : String) (e : EventEnvelope), EventEnvelope.fromJson py codec text = .ok e →
    ∃ text' e', e.toJson codec = .ok text' ∧ EventEnvelope.fromJson py codec text' = .ok e' ∧
      e'.Same e

/-- **The wire.**  A codec that reads what it writes, and a standard library that reads the times
it writes, carry every envelope both ways. -/
theorem wireRoundTrip (py : Stdlib) (codec : JsonCodec) (hiso : py.ReadsIsoformat)
    (hjson : codec.Lawful) : WireRoundTrip py codec := by
  constructor
  · intro args e hkeys hcreate
    have hnormal := EventEnvelope.create_eq_ok hjson hcreate hkeys
    obtain ⟨text, e', htext, hread, hsame, _⟩ := hnormal.roundTrip hiso hjson
    refine ⟨text, e', htext, hread, hsame, ?_⟩
    rw [hsame.tenantId, hsame.type]
  · intro text e hread
    have hnormal := EventEnvelope.fromJson_eq_ok hjson hread
    obtain ⟨text', e', htext, hread', hsame, _⟩ := hnormal.roundTrip hiso hjson
    exact ⟨text', e', htext, hread', hsame⟩

open Reference in
/-- The two are computed here. -/
theorem wireRoundTrip_computed : WireRoundTrip wireStdlib codec :=
  wireRoundTrip wireStdlib codec readsIsoformat_wireStdlib
    lawful_codec

end MediaCenter.Shared
