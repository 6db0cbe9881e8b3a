import MediaCenter.Model.NotificationGateway.EmailDelivery
import MediaCenter.Model.Shared.AuditLogger
import MediaCenter.Model.Shared.Events

/-!
# Contracts of the notification gateway (`notification_gateway/api.py`)

The lists of a request are normalised and each item is kept once before the model's fields are
checked, so an accepted request names no recipient and no channel twice.
-/

set_option autoImplicit false

namespace MediaCenter.NotificationGateway

open MediaCenter.Library MediaCenter.Shared

/-- `Stdlib`, and that `str.lower` makes no white space. -/
structure LowerStdlib extends Stdlib where
  strip_lower : ∀ s, Text.strip s = s → Text.strip (lower s) = lower s

def notificationGatewaySource : String := "notification-gateway"
def notificationGatewaySchemaVersion : String := "1.0"
def notificationDispatchedEvent : String := "notification.dispatched"
def defaultNotificationChannels : List String := ["telegram"]
def defaultNotificationTemplateKey : String := "default_event_notification"

/-- `^[a-z][a-z0-9_-]{1,63}$` (`_CHANNEL_PATTERN`). -/
def channelPattern (s : String) : Bool :=
  hasLength 2 64 s && Text.matchesHeadTail Text.isAsciiLower
    (fun c => Text.isAsciiLower c || Text.isAsciiDigit c || c == '_' || c == '-') 63 s

/-- `^[a-z][a-z0-9_:-]{1,127}$` (`_TEMPLATE_KEY_PATTERN`). -/
def templateKeyPattern (s : String) : Bool :=
  hasLength 2 128 s && Text.matchesHeadTail Text.isAsciiLower
    (fun c => Text.isAsciiLower c || Text.isAsciiDigit c || c == '_' || c == ':' || c == '-') 127 s

inductive NotificationPriority : Type where
  | low
  | normal
  | urgent
  deriving DecidableEq, Repr

def NotificationPriority.value : NotificationPriority → String
  | .low => "low"
  | .normal => "normal"
  | .urgent => "urgent"

inductive NotificationDeliveryStatus : Type where
  | delivered
  | failed
  deriving DecidableEq, Repr

/-! ## Normal forms -/

/-- `_normalize_lower_token`, of a text. -/
def normalizeLowerToken (py : LowerStdlib) (value : String) : String :=
  py.lower (Text.strip value)

/-- One item of `_normalize_string_sequence`; nothing for one that is refused. -/
def normalizeItem (py : LowerStdlib) (lower : Bool) : JSONValue → Option String
  | .str rawItem =>
      let item := if lower = true then py.lower (Text.strip rawItem) else Text.strip rawItem
      if item = "" then none else some item
  | _ => none

/-- The loop of `_normalize_string_sequence`: `normalized` holds the items seen so far. -/
def normalizeItems (py : LowerStdlib) (lower : Bool) :
    List JSONValue → List String → Option (List String)
  | [], normalized => some normalized
  | rawItem :: rest, normalized =>
      match normalizeItem py lower rawItem with
      | none => none
      | some item =>
          if normalized.contains item = true then normalizeItems py lower rest normalized
          else normalizeItems py lower rest (normalized ++ [item])

/-- `_normalize_string_sequence`; what it does not accept it returns as it is. -/
def normalizeStringSequence (py : LowerStdlib) (lower : Bool) (value : JSONValue) : JSONValue :=
  match value with
  | .str _ =>
      match normalizeItems py lower [value] [] with
      | some items => .list (items.map .str)
      | none => value
  | .list rawItems =>
      match normalizeItems py lower rawItems [] with
      | some items => .list (items.map .str)
      | none => value
  | _ => value

/-- One text of a field, stripped and checked. -/
def stringItem (check : String → Bool) : JSONValue → Option String
  | .str s => if check (Text.trim s) = true then some (Text.trim s) else none
  | _ => none

def stringItems (check : String → Bool) : List JSONValue → Option (List String)
  | [] => some []
  | value :: rest =>
      match stringItem check value, stringItems check rest with
      | some item, some items => some (item :: items)
      | _, _ => none

/-- A field `tuple[T, ...]` of texts. -/
def tupleField (check : String → Bool) : JSONValue → Option (List String)
  | .list items => stringItems check items
  | _ => none

/-! ## Contracts -/

/-- The body of a template. -/
structure TemplateBody where
  templateKey : String
  subjectTemplate : String
  bodyTemplate : String
  /-- Absent for the default. -/
  channels : Option JSONValue

namespace TemplateBody

variable (py : LowerStdlib)

def channelList (b : TemplateBody) : Option (List String) :=
  match b.channels with
  | none => some defaultNotificationChannels
  | some value => tupleField channelPattern (normalizeStringSequence py true value)

@[irreducible] def checks (b : TemplateBody) : List (String × Bool) :=
  [("template_key", templateKeyPattern (Text.trim (normalizeLowerToken py b.templateKey))),
    ("subject_template", hasLength 1 1000 (Text.trim b.subjectTemplate)),
    ("body_template", hasLength 1 20000 (Text.trim b.bodyTemplate)),
    ("channels", (b.channelList py).isSome)]

end TemplateBody

/-- `NotificationTemplateRequest`. -/
abbrev NotificationTemplateRequest (py : LowerStdlib) : Type :=
  Validated (TemplateBody.checks py)

/-- The body of a request; `channels` is `null` where it is absent. -/
structure NotifyBody where
  eventId : Option String
  eventType : String
  source : String
  recipients : JSONValue
  channels : JSONValue
  templateKey : Option String
  template : Option TemplateBody
  context : JSONObject
  messagePurpose : EmailMessagePurpose
  priority : NotificationPriority
  occurredAt : Option Instant
  metadata : JSONObject

namespace NotifyBody

variable (py : LowerStdlib)

def recipientList (b : NotifyBody) : Option (List String) :=
  tupleField tokenPattern (normalizeStringSequence py false b.recipients)

/-- The requested channels; `some none` where there are none. -/
def channelList (b : NotifyBody) : Option (Option (List String)) :=
  match b.channels with
  | .null => some none
  | value => (tupleField channelPattern (normalizeStringSequence py true value)).map some

@[irreducible] def checks (b : NotifyBody) : List (String × Bool) :=
  [("event_id", optionalField tokenPattern (b.eventId.map Text.trim)),
    ("event_type", isEventType (Text.trim (normalizeLowerToken py b.eventType))),
    ("source", hasLength 1 128 (Text.trim (Text.strip b.source))),
    ("recipients", (b.recipientList py).any fun recipients => !recipients.isEmpty),
    ("channels", (b.channelList py).isSome),
    ("template_key", optionalField templateKeyPattern
      (b.templateKey.map fun key => Text.trim (normalizeLowerToken py key))),
    ("template", b.template.all fun t => (t.checks py).all Prod.snd)]

end NotifyBody

/-- `NotifyRequest`. -/
abbrev NotifyRequest (py : LowerStdlib) : Type := Validated (NotifyBody.checks py)

namespace NotificationTemplateRequest

variable {py : LowerStdlib}

def templateKey (t : NotificationTemplateRequest py) : String :=
  Text.trim (normalizeLowerToken py t.fields.templateKey)

def subjectTemplate (t : NotificationTemplateRequest py) : String :=
  Text.trim t.fields.subjectTemplate

def bodyTemplate (t : NotificationTemplateRequest py) : String := Text.trim t.fields.bodyTemplate

def channels (t : NotificationTemplateRequest py) : List String :=
  (t.fields.channelList py).getD []

end NotificationTemplateRequest

namespace NotifyRequest

variable {py : LowerStdlib}

def eventId (r : NotifyRequest py) : Option String := r.fields.eventId.map Text.trim

def eventType (r : NotifyRequest py) : String :=
  Text.trim (normalizeLowerToken py r.fields.eventType)

def source (r : NotifyRequest py) : String := Text.trim (Text.strip r.fields.source)

def recipients (r : NotifyRequest py) : List String := (r.fields.recipientList py).getD []

def channels (r : NotifyRequest py) : Option (List String) := (r.fields.channelList py).getD none

def templateKey (r : NotifyRequest py) : Option String :=
  r.fields.templateKey.map fun key => Text.trim (normalizeLowerToken py key)

def template (r : NotifyRequest py) : Option (NotificationTemplateRequest py) :=
  match h : r.fields.template with
  | none => none
  | some t => some ⟨t, by
      have hchecked := r.valid ("template", r.fields.template.all fun t =>
        (t.checks py).all Prod.snd) (by simp [NotifyBody.checks])
      rw [h] at hchecked
      simpa using hchecked⟩

end NotifyRequest

structure TemplateFields where
  tenantId : String
  templateKey : String
  eventType : String
  subjectTemplate : String
  bodyTemplate : String
  channels : List String
  revision : ℕ
  updatedAt : Instant

def TemplateFields.checks (f : TemplateFields) : List (String × Bool) :=
  [("tenant_id", tenantIdPattern f.tenantId),
    ("template_key", templateKeyPattern f.templateKey),
    ("event_type", isEventType f.eventType),
    ("subject_template", hasLength 1 1000 f.subjectTemplate),
    ("body_template", hasLength 1 20000 f.bodyTemplate),
    ("channels", f.channels.all channelPattern),
    ("revision", decide (1 ≤ f.revision))]

/-- `NotificationTemplate`. -/
abbrev NotificationTemplate : Type := Validated TemplateFields.checks

structure PreferenceFields where
  tenantId : String
  recipientId : String
  enabled : Bool
  channels : List String
  eventTypes : List String
  templateOverrides : Dict String String
  revision : ℕ
  updatedAt : Instant

def PreferenceFields.checks (f : PreferenceFields) : List (String × Bool) :=
  [("tenant_id", tenantIdPattern f.tenantId),
    ("recipient_id", tokenPattern f.recipientId),
    ("channels", f.channels.all channelPattern),
    ("event_types", f.eventTypes.all isEventType),
    ("template_overrides", f.templateOverrides.entries.all fun e => templateKeyPattern e.2),
    ("revision", decide (1 ≤ f.revision))]

/-- `RecipientPreferences`. -/
abbrev RecipientPreferences : Type := Validated PreferenceFields.checks

structure DeliveryCommandFields where
  notificationId : String
  tenantId : String
  eventId : String
  eventType : String
  recipientId : String
  recipientHash : String
  channel : String
  templateKey : String
  subject : String
  body : String
  contentHash : String
  correlationId : String
  requestedAt : Instant
  metadata : JSONObject

def DeliveryCommandFields.checks (f : DeliveryCommandFields) : List (String × Bool) :=
  [("notification_id", tokenPattern f.notificationId),
    ("tenant_id", tenantIdPattern f.tenantId),
    ("event_id", tokenPattern f.eventId),
    ("event_type", isEventType f.eventType),
    ("recipient_id", tokenPattern f.recipientId),
    ("recipient_hash", refHashPattern f.recipientHash),
    ("channel", channelPattern f.channel),
    ("template_key", templateKeyPattern f.templateKey),
    ("subject", hasLength 1 1000 f.subject),
    ("body", hasLength 1 20000 f.body),
    ("content_hash", auditHashPattern f.contentHash),
    ("correlation_id", tokenPattern f.correlationId)]

/-- `NotificationDeliveryCommand`. -/
abbrev NotificationDeliveryCommand : Type := Validated DeliveryCommandFields.checks

structure ReceiptFields where
  channel : String
  channelRefHash : String
  deliveredAt : Instant

def ReceiptFields.checks (f : ReceiptFields) : List (String × Bool) :=
  [("channel", channelPattern f.channel),
    ("channel_ref_hash", refHashPattern f.channelRefHash)]

/-- `NotificationChannelReceipt`. -/
abbrev NotificationChannelReceipt : Type := Validated ReceiptFields.checks

/-- `NotificationDeliveryRecord`.  Its texts are those of the command and of the receipt, which
have passed the same checks. -/
structure NotificationDeliveryRecord where
  notificationId : String
  tenantId : String
  eventId : String
  eventType : String
  recipientId : String
  recipientHash : String
  channel : String
  templateKey : String
  status : NotificationDeliveryStatus
  subject : String
  body : String
  contentHash : String
  channelRefHash : Option String
  auditHash : String
  deliveredAt : Instant

/-- `NotificationDispatchResult`. -/
structure NotificationDispatchResult where
  notificationId : String
  tenantId : String
  eventId : String
  eventType : String
  templateKey : String
  deliveredCount : ℕ
  skippedCount : ℕ
  failedCount : ℕ
  deliveries : List NotificationDeliveryRecord

/-! ## Accepted lists -/

section AcceptedLists

variable {py : LowerStdlib} {lower : Bool} {check : String → Bool}

theorem stringItem_eq_some_iff {value : JSONValue} {item : String} :
    stringItem check value = some item ↔
      ∃ s, value = .str s ∧ check (Text.trim s) = true ∧ item = Text.trim s := by
  cases value with
  | str s =>
      rw [stringItem]
      by_cases hs : check (Text.trim s) = true
      · rw [if_pos hs, Option.some.injEq]
        constructor
        · rintro rfl
          exact ⟨s, rfl, hs, rfl⟩
        · rintro ⟨_, hvalue, _, rfl⟩
          cases hvalue
          rfl
      · rw [if_neg hs]
        constructor
        · intro h
          cases h
        · rintro ⟨_, hvalue, hcheck, _⟩
          cases hvalue
          exact absurd hcheck hs
  | _ => simp [stringItem]

theorem stringItems_cons_eq_some_iff {value : JSONValue} {rest : List JSONValue}
    {l : List String} : stringItems check (value :: rest) = some l ↔
      ∃ item items, stringItem check value = some item ∧ stringItems check rest = some items ∧
        l = item :: items := by
  rw [stringItems]
  cases stringItem check value with
  | none => simp
  | some item =>
      cases stringItems check rest with
      | none => simp
      | some items => simp [eq_comm]

theorem check_of_mem_stringItems {values : List JSONValue} {l : List String}
    (h : stringItems check values = some l) : ∀ item ∈ l, check item = true := by
  induction values generalizing l with
  | nil =>
      cases h
      exact fun item hitem => nomatch hitem
  | cons value rest ih =>
      obtain ⟨item, items, hvalue, hrest, rfl⟩ := stringItems_cons_eq_some_iff.mp h
      obtain ⟨s, _, hcheck, rfl⟩ := stringItem_eq_some_iff.mp hvalue
      intro item' hitem'
      rcases List.mem_cons.mp hitem' with rfl | hitem'
      · exact hcheck
      · exact ih hrest item' hitem'

theorem check_of_mem_tupleField {value : JSONValue} {l : List String}
    (h : tupleField check value = some l) : ∀ item ∈ l, check item = true := by
  cases value with
  | list items => exact check_of_mem_stringItems h
  | _ => cases h

/-- INTERNAL: texts without white space around them are taken over as they are. -/
theorem eq_of_stringItems_map_str {items l : List String}
    (hitems : ∀ item ∈ items, Text.strip item = item)
    (h : stringItems check (items.map .str) = some l) : l = items := by
  induction items generalizing l with
  | nil =>
      cases h
      rfl
  | cons item items ih =>
      rw [List.map_cons] at h
      obtain ⟨item', items', hitem, hrest, rfl⟩ := stringItems_cons_eq_some_iff.mp h
      obtain ⟨s, hs, _, rfl⟩ := stringItem_eq_some_iff.mp hitem
      cases hs
      rw [List.forall_mem_cons] at hitems
      rw [ih hitems.2 hrest, Text.trim_eq_self_of_strip hitems.1]

theorem strip_of_normalizeItem {value : JSONValue} {item : String}
    (h : normalizeItem py lower value = some item) : Text.strip item = item := by
  cases value with
  | str rawItem =>
      rw [normalizeItem] at h
      cases lower with
      | true =>
          simp only [if_pos] at h
          split at h
          · cases h
          · cases h
            exact py.strip_lower _ (Text.strip_strip rawItem)
      | false =>
          simp only [Bool.false_eq_true, if_false] at h
          split at h
          · cases h
          · cases h
            exact Text.strip_strip rawItem
  | _ => cases h

/-- INTERNAL: each item of a normal form is there once, without white space around it. -/
theorem normalizeItems_spec {values : List JSONValue} {normalized items : List String}
    (hnodup : normalized.Nodup) (hstrip : ∀ item ∈ normalized, Text.strip item = item)
    (h : normalizeItems py lower values normalized = some items) :
    items.Nodup ∧ ∀ item ∈ items, Text.strip item = item := by
  induction values generalizing normalized with
  | nil =>
      cases h
      exact ⟨hnodup, hstrip⟩
  | cons value rest ih =>
      rw [normalizeItems] at h
      cases hitem : normalizeItem py lower value with
      | none =>
          rw [hitem] at h
          cases h
      | some item =>
          rw [hitem] at h
          simp only at h
          by_cases hseen : normalized.contains item = true
          · rw [if_pos hseen] at h
            exact ih hnodup hstrip h
          · rw [if_neg hseen] at h
            have hnew : item ∉ normalized := fun hmem => hseen (List.contains_iff_mem.mpr hmem)
            refine ih ?_ ?_ h
            · exact List.nodup_append.mpr ⟨hnodup, List.nodup_singleton item, by
                intro a ha b hb hab
                rw [List.mem_singleton] at hb
                exact hnew (hb ▸ hab ▸ ha)⟩
            · intro item' hitem'
              rcases List.mem_append.mp hitem' with hitem' | hitem'
              · exact hstrip item' hitem'
              · rw [List.mem_singleton] at hitem'
                rw [hitem']
                exact strip_of_normalizeItem hitem

/-- INTERNAL: a sequence that is not normalised holds an item that is refused. -/
theorem exists_of_normalizeItems_eq_none {values : List JSONValue} {normalized : List String}
    (h : normalizeItems py lower values normalized = none) :
    ∃ value ∈ values, normalizeItem py lower value = none := by
  induction values generalizing normalized with
  | nil => cases h
  | cons value rest ih =>
      rw [normalizeItems] at h
      cases hitem : normalizeItem py lower value with
      | none => exact ⟨value, List.mem_cons_self, hitem⟩
      | some item =>
          rw [hitem] at h
          simp only at h
          have hrest : ∃ normalized', normalizeItems py lower rest normalized' = none := by
            split at h
            · exact ⟨_, h⟩
            · exact ⟨_, h⟩
          obtain ⟨normalized', hnone⟩ := hrest
          obtain ⟨value', hmem, hvalue'⟩ := ih hnone
          exact ⟨value', List.mem_cons_of_mem _ hmem, hvalue'⟩

/-- INTERNAL: what the field's check accepts, the normal form does not refuse. -/
theorem normalizeItem_ne_none
    (hcheck : ∀ s, check s = true → s ≠ "" ∧ ∀ c ∈ s.toList, Text.Visible c)
    {value : JSONValue} {item : String} (h : stringItem check value = some item) :
    normalizeItem py lower value ≠ none := by
  obtain ⟨s, rfl, htrim, _⟩ := stringItem_eq_some_iff.mp h
  obtain ⟨hne, hvisible⟩ := hcheck _ htrim
  have hstrip : Text.strip s = Text.trim s := by
    rw [← Text.strip_trim, Text.strip_of_forall_visible hvisible]
  have hlower : py.lower (Text.strip s) ≠ "" := by
    rw [hstrip, py.lower_latin1 _ fun c hc => by
      have hc' := (hvisible c hc).2
      omega]
    intro hempty
    apply hne
    rw [← String.toList_inj] at hempty ⊢
    simpa using hempty
  rw [← hstrip] at hne
  cases lower with
  | true => simp [normalizeItem, hlower]
  | false => simp [normalizeItem, hne]

theorem exists_mem_of_stringItems {values : List JSONValue} {l : List String}
    (h : stringItems check values = some l) :
    ∀ value ∈ values, ∃ item, stringItem check value = some item := by
  induction values generalizing l with
  | nil => exact fun value hvalue => nomatch hvalue
  | cons value rest ih =>
      obtain ⟨item, items, hvalue, hrest, rfl⟩ := stringItems_cons_eq_some_iff.mp h
      intro value' hvalue'
      rcases List.mem_cons.mp hvalue' with rfl | hvalue'
      · exact ⟨item, hvalue⟩
      · exact ih hrest value' hvalue'

/-- INTERNAL: a field of distinct texts: nothing is accepted that was not normalised. -/
theorem nodup_tupleField
    (hcheck : ∀ s, check s = true → s ≠ "" ∧ ∀ c ∈ s.toList, Text.Visible c)
    {value : JSONValue} {l : List String}
    (h : tupleField check (normalizeStringSequence py lower value) = some l) : l.Nodup := by
  have hnormal : ∀ values items, normalizeItems py lower values [] = some items →
      stringItems check (items.map .str) = some l → l.Nodup := by
    intro values items hitems hl
    obtain ⟨hnodup, hstrip⟩ := normalizeItems_spec List.nodup_nil
      (fun item hitem => nomatch hitem) hitems
    rw [eq_of_stringItems_map_str hstrip hl]
    exact hnodup
  cases value with
  | str s =>
      rw [normalizeStringSequence] at h
      cases hitems : normalizeItems py lower [.str s] [] with
      | none =>
          rw [hitems] at h
          cases h
      | some items =>
          rw [hitems] at h
          exact hnormal _ items hitems h
  | list rawItems =>
      rw [normalizeStringSequence] at h
      cases hitems : normalizeItems py lower rawItems [] with
      | none =>
          rw [hitems] at h
          obtain ⟨value, hmem, hvalue⟩ := exists_of_normalizeItems_eq_none hitems
          obtain ⟨item, hitem⟩ := exists_mem_of_stringItems h value hmem
          exact absurd hvalue (normalizeItem_ne_none hcheck hitem)
      | some items =>
          rw [hitems] at h
          exact hnormal _ items hitems h
  | _ => cases h

end AcceptedLists

theorem filled_of_tokenPattern {s : String} (h : tokenPattern s = true) :
    s ≠ "" ∧ ∀ c ∈ s.toList, Text.Visible c := by
  refine ⟨?_, visible_of_tokenPattern h⟩
  rintro rfl
  revert h
  decide

theorem filled_of_channelPattern {s : String} (h : channelPattern s = true) :
    s ≠ "" ∧ ∀ c ∈ s.toList, Text.Visible c := by
  unfold channelPattern at h
  rw [Bool.and_eq_true] at h
  constructor
  · rintro rfl
    revert h
    decide
  · have hlower : ∀ c : Char, Text.isAsciiLower c = true → Text.Visible c := by
      intro c hc
      apply Text.visible_of_isAsciiAlnum
      simp [Text.isAsciiAlnum, hc]
    intro c hc
    rcases Text.forall_of_matchesHeadTail h.2 c hc with hhead | htail
    · exact hlower c hhead
    · simp only [Bool.or_eq_true, beq_iff_eq] at htail
      rcases htail with ((hletter | hdigit) | rfl) | rfl
      · exact hlower c hletter
      · apply Text.visible_of_isAsciiAlnum
        simp [Text.isAsciiAlnum, hdigit]
      · exact ⟨by decide, by decide⟩
      · exact ⟨by decide, by decide⟩

namespace NotifyRequest

variable {py : LowerStdlib} (r : NotifyRequest py)

theorem recipientList_eq_some : r.fields.recipientList py = some r.recipients := by
  have hchecked := r.valid ("recipients",
    (r.fields.recipientList py).any fun recipients => !recipients.isEmpty)
    (by simp [NotifyBody.checks])
  unfold recipients
  cases hlist : r.fields.recipientList py with
  | none => simp [hlist] at hchecked
  | some recipients => rfl

theorem nodup_recipients : r.recipients.Nodup :=
  nodup_tupleField (fun _ => filled_of_tokenPattern) r.recipientList_eq_some

theorem tokenPattern_of_mem_recipients {recipientId : String} (h : recipientId ∈ r.recipients) :
    tokenPattern recipientId = true :=
  check_of_mem_tupleField r.recipientList_eq_some recipientId h

/-- INTERNAL: requested channels are channel names, each there once. -/
theorem channels_spec {channels : List String} (h : r.channels = some channels) :
    channels.Nodup ∧ ∀ channel ∈ channels, channelPattern channel = true := by
  have hfield : tupleField channelPattern (normalizeStringSequence py true r.fields.channels) =
      some channels := by
    unfold NotifyRequest.channels NotifyBody.channelList at h
    split at h
    · cases h
    · cases hfield : tupleField channelPattern
          (normalizeStringSequence py true r.fields.channels) with
      | none =>
          rw [hfield] at h
          cases h
      | some l =>
          rw [hfield] at h
          exact congrArg some (Option.some.inj h)
  exact ⟨nodup_tupleField (fun _ => filled_of_channelPattern) hfield,
    check_of_mem_tupleField hfield⟩

theorem isEventType_eventType : isEventType r.eventType = true := by
  have hchecked := r.valid
    ("event_type", isEventType (Text.trim (normalizeLowerToken py r.fields.eventType)))
    (by simp [NotifyBody.checks])
  simp only at hchecked
  exact hchecked

theorem tokenPattern_eventId {eventId : String} (h : r.eventId = some eventId) :
    tokenPattern eventId = true := by
  have hchecked := r.valid ("event_id", optionalField tokenPattern
    (r.fields.eventId.map Text.trim)) (by simp [NotifyBody.checks])
  unfold NotifyRequest.eventId at h
  simp only [h, optionalField] at hchecked
  exact hchecked

end NotifyRequest

theorem defaultNotificationChannels_spec : defaultNotificationChannels.Nodup ∧
    ∀ channel ∈ defaultNotificationChannels, channelPattern channel = true := by
  decide

/-- INTERNAL: so are the channels of a template. -/
theorem TemplateBody.channelList_spec {py : LowerStdlib} {b : TemplateBody}
    {channels : List String} (h : b.channelList py = some channels) :
    channels.Nodup ∧ ∀ channel ∈ channels, channelPattern channel = true := by
  unfold TemplateBody.channelList at h
  split at h
  · cases h
    exact defaultNotificationChannels_spec
  · exact ⟨nodup_tupleField (fun _ => filled_of_channelPattern) h, check_of_mem_tupleField h⟩

theorem NotificationTemplateRequest.channels_spec {py : LowerStdlib}
    (t : NotificationTemplateRequest py) :
    t.channels.Nodup ∧ ∀ channel ∈ t.channels, channelPattern channel = true := by
  have hchecked := t.valid ("channels", (t.fields.channelList py).isSome)
    (by simp [TemplateBody.checks])
  obtain ⟨channels, hlist⟩ := Option.isSome_iff_exists.mp hchecked
  have hsame : t.channels = channels := by
    unfold NotificationTemplateRequest.channels
    rw [hlist, Option.getD_some]
  rw [hsame]
  exact TemplateBody.channelList_spec hlist

end MediaCenter.NotificationGateway
