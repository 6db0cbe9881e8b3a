import MediaCenter.Library.Fallible
import MediaCenter.Model.NotificationGateway.Contracts

/-!
# Dispatch (`notification_gateway/api.py`)

`NotificationGateway.dispatch` renders a template for each recipient who wants the event and hands
the text to the channel, once for each of the recipient's channels.  Jinja is a parameter: a
partial function of the template and the context.  So is the channel, which answers or raises.
-/

set_option autoImplicit false

namespace MediaCenter.NotificationGateway

open MediaCenter.Library MediaCenter.Shared

/-- What `dispatch` raises. -/
inductive GatewayError : Type where
  /-- `NotificationGatewayError`. -/
  | notification (message : String)
  | shared (e : SharedException)
  deriving DecidableEq, Repr

/-- The tenant id of a verified request. -/
abbrev VerifiedTenant : Type := { s : String // tenantIdPattern s = true }

abbrev VerifiedEventType : Type := { s : String // isEventType s = true }

/-! ## The repository -/

/-- `InMemoryNotificationRepository`.  Templates come from requests only. -/
structure InMemoryNotificationRepository where
  preferences : Dict (String × String) RecipientPreferences
  templates : Dict (String × String) NotificationTemplate
  distinct : ∀ e ∈ templates.entries, e.2.fields.channels.Nodup

namespace InMemoryNotificationRepository

def empty : InMemoryNotificationRepository :=
  ⟨Dict.empty, Dict.empty, fun _ he => nomatch he⟩

/-- The preferences of a recipient who has stored none. -/
def defaultPreferences (tenantId recipientId : String) (now : Instant) : PreferenceFields where
  tenantId := tenantId
  recipientId := recipientId
  enabled := true
  channels := defaultNotificationChannels
  eventTypes := []
  templateOverrides := Dict.empty
  revision := 1
  updatedAt := now

/-- `get_or_default_preferences`. -/
def getOrDefaultPreferences (repository : InMemoryNotificationRepository)
    (tenantId recipientId : String) (now : Instant) : PreferenceFields :=
  match repository.preferences.get? (tenantId, recipientId) with
  | some preferences => preferences.fields
  | none => defaultPreferences tenantId recipientId now

/-- `save_preferences`. -/
def savePreferences (repository : InMemoryNotificationRepository)
    (preferences : RecipientPreferences) : InMemoryNotificationRepository :=
  { repository with
    preferences := repository.preferences.set
      (preferences.fields.tenantId, preferences.fields.recipientId) preferences }

/-- `get_template`. -/
def getTemplate (repository : InMemoryNotificationRepository) (tenantId templateKey : String) :
    Option NotificationTemplate := repository.templates.get? (tenantId, templateKey)

/-- The record of a template: what a request may ask for, a record may hold. -/
def templateRecord {py : LowerStdlib} (tenantId : VerifiedTenant) (eventType : VerifiedEventType)
    (template : NotificationTemplateRequest py) (previous : ℕ) (updatedAt : Instant) :
    NotificationTemplate where
  fields :=
    { tenantId := tenantId.val
      templateKey := template.templateKey
      eventType := eventType.val
      subjectTemplate := template.subjectTemplate
      bodyTemplate := template.bodyTemplate
      channels := template.channels
      revision := previous + 1
      updatedAt := updatedAt }
  valid := by
    have hkey := template.valid ("template_key",
      templateKeyPattern (Text.trim (normalizeLowerToken py template.fields.templateKey)))
      (by simp [TemplateBody.checks])
    have hsubject := template.valid ("subject_template",
      hasLength 1 1000 (Text.trim template.fields.subjectTemplate))
      (by simp [TemplateBody.checks])
    have hbody := template.valid ("body_template",
      hasLength 1 20000 (Text.trim template.fields.bodyTemplate))
      (by simp [TemplateBody.checks])
    have hchannels : template.channels.all channelPattern = true :=
      List.all_eq_true.mpr template.channels_spec.2
    simp only [TemplateFields.checks, List.forall_mem_cons] at hkey hsubject hbody ⊢
    refine ⟨tenantId.property, hkey, eventType.property, hsubject, hbody, hchannels, ?_, ?_⟩
    · exact decide_eq_true (Nat.succ_pos previous)
    · exact fun c hc => nomatch hc

/-- `upsert_template`. -/
def upsertTemplate {py : LowerStdlib} (repository : InMemoryNotificationRepository)
    (tenantId : VerifiedTenant) (eventType : VerifiedEventType)
    (template : NotificationTemplateRequest py) (updatedAt : Instant) :
    NotificationTemplate × InMemoryNotificationRepository :=
  let previous := match repository.templates.get? (tenantId.val, template.templateKey) with
    | some existing => existing.fields.revision
    | none => 0
  let record := templateRecord tenantId eventType template previous updatedAt
  (record,
    { repository with
      templates := repository.templates.set (tenantId.val, template.templateKey) record
      distinct := by
        intro e he
        have hget := Dict.get?_eq_some_iff.mpr he
        rw [Dict.get?_set] at hget
        split at hget
        · rw [← Option.some.inj hget]
          exact template.channels_spec.1
        · exact repository.distinct e (Dict.get?_eq_some_iff.mp hget) })

/-- `find_template_for_event`: the template updated last. -/
def findTemplateForEvent (repository : InMemoryNotificationRepository)
    (tenantId eventType : String) : Option NotificationTemplate :=
  (((repository.templates.entries.filter fun e =>
    e.1.1 = tenantId && e.2.fields.eventType = eventType).map Prod.snd).insertionSort
      fun a b => b.fields.updatedAt ≤ a.fields.updatedAt).head?

end InMemoryNotificationRepository

open InMemoryNotificationRepository

/-- `_default_template`. -/
def defaultTemplate (tenantId : VerifiedTenant) (eventType : VerifiedEventType)
    (occurredAt : Instant) : NotificationTemplate where
  fields :=
    { tenantId := tenantId.val
      templateKey := defaultNotificationTemplateKey
      eventType := eventType.val
      subjectTemplate := "Событие \x7b\x7b event_type \x7d\x7d"
      bodyTemplate :=
        "Источник \x7b\x7b source \x7d\x7d отправил событие \x7b\x7b event_id \x7d\x7d"
      channels := defaultNotificationChannels
      revision := 1
      updatedAt := occurredAt }
  valid := by
    simp only [TemplateFields.checks, List.forall_mem_cons]
    refine ⟨tenantId.property, ?_, eventType.property, ?_, ?_, ?_, ?_, ?_⟩
    · decide
    · decide
    · decide
    · exact List.all_eq_true.mpr defaultNotificationChannels_spec.2
    · exact decide_eq_true (Nat.le_refl 1)
    · exact fun c hc => nomatch hc

/-- `_delivery_channels`. -/
def deliveryChannels (requestedChannels : Option (List String))
    (templateChannels preferenceChannels : List String) : List String :=
  let requested := requestedChannels.getD []
  let baseChannels :=
    if requested ≠ [] then requested
    else if templateChannels ≠ [] then templateChannels
    else defaultNotificationChannels
  baseChannels.filter fun channel => preferenceChannels.contains channel

/-- `_subscribes_to_event`. -/
def subscribesToEvent (preferences : PreferenceFields) (eventType : String) : Bool :=
  preferences.eventTypes.isEmpty || preferences.eventTypes.contains eventType

/-- `subject_ref_hash`. -/
def subjectRefHash (py : LowerStdlib) (tenantId subjectId : String) : String :=
  "sha256:" ++ py.sha256Hex (tenantId ++ ":" ++ subjectId)

/-! ## Rendering -/

/-- A template and a context to a text, or the message of a `TemplateError`. -/
abbrev Jinja : Type := String → JSONObject → Except String String

/-- `_render_template`. -/
def renderTemplate (render : Jinja) (templateBody : String) (context : JSONObject) :
    Except GatewayError String :=
  match render templateBody context with
  | .error message => .error (.notification message)
  | .ok text =>
      let rendered := Text.strip text
      if rendered = "" then
        .error (.notification "Шаблон уведомления вернул пустой результат")
      else .ok rendered

/-- `(subject, body, content_hash)`. -/
structure RenderedNotification where
  subject : String
  body : String
  contentHash : String
  deriving DecidableEq, Repr

/-- `_content_hash`. -/
def contentHash (py : LowerStdlib) (subject body : String) : String :=
  py.sha256Hex (subject ++ "\n" ++ body)

/-! ## A call of `dispatch` -/

structure DispatchCall (py : LowerStdlib) where
  env : Ambient
  payload : NotifyRequest py
  actorId : Option String
  tenantId : VerifiedTenant
  correlationId : String

namespace DispatchCall

variable {py : LowerStdlib} (call : DispatchCall py)

def occurredAt : Instant := call.payload.fields.occurredAt.getD call.env.now

/-- `payload.event_id or _new_id("evt-notification-source")`. -/
def eventId : String :=
  orDefault call.payload.eventId (newId "evt-notification-source" (call.env.uuid 0))

def notificationId : String := newId "notification" (call.env.uuid 1)

def eventType : VerifiedEventType :=
  ⟨call.payload.eventType, call.payload.isEventType_eventType⟩

/-- `f"{notification_id}-{len(deliveries) + 1}"`. -/
def deliveryId (earlier : ℕ) : String :=
  call.notificationId ++ "-" ++ toString (earlier + 1)

/-- The context of `_render_notification`. -/
def renderContext (recipientId : String) : JSONObject :=
  ((Dict.ofList call.payload.fields.context).update (Dict.ofList
    [("tenant_id", JSONValue.str call.tenantId.val),
      ("recipient_id", .str recipientId),
      ("event_id", .str call.eventId),
      ("event_type", .str call.payload.eventType),
      ("source", .str call.payload.source),
      ("priority", .str call.payload.fields.priority.value)])).entries

/-- `_render_notification`. -/
def renderNotification (render : Jinja) (template : NotificationTemplate)
    (recipientId : String) : Except GatewayError RenderedNotification := do
  let subject ← renderTemplate render template.fields.subjectTemplate
    (call.renderContext recipientId)
  let body ← renderTemplate render template.fields.bodyTemplate (call.renderContext recipientId)
  return ⟨subject, body, contentHash py subject body⟩

/-- `_email_recipient_address`; the lookup in one mapping is that of the email service. -/
def emailRecipientAddress (recipientId : String) : Option String :=
  match namedAddress call.payload.fields.metadata recipientId with
  | some address => some address
  | none => namedAddress call.payload.fields.context recipientId

/-- The audit entry of `_deliver`. -/
def auditArgs (recipientId channelName : String) (template : NotificationTemplate)
    (rendered : RenderedNotification) : AuditArgs where
  eventType := notificationDispatchedEvent
  tenantId := call.tenantId.val
  metadata :=
    [("event_id", .str call.eventId),
      ("event_type", .str call.payload.eventType),
      ("recipient_hash", .str (subjectRefHash py call.tenantId.val recipientId)),
      ("channel", .str channelName),
      ("template_key", .str template.fields.templateKey),
      ("content_hash", .str rendered.contentHash),
      ("priority", .str call.payload.fields.priority.value),
      ("metadata", .dict call.payload.fields.metadata)]
  timestamp := call.occurredAt
  correlationId := some call.correlationId
  actorHash := call.actorId.map fun actorId => subjectRefHash py call.tenantId.val actorId
  source := some notificationGatewaySource

/-- The command of `_deliver`. -/
def deliveryCommand (earlier : ℕ) (recipientId channelName : String)
    (template : NotificationTemplate) (rendered : RenderedNotification) (auditHash : String) :
    DeliveryCommandFields where
  notificationId := call.deliveryId earlier
  tenantId := call.tenantId.val
  eventId := call.eventId
  eventType := call.payload.eventType
  recipientId := recipientId
  recipientHash := subjectRefHash py call.tenantId.val recipientId
  channel := channelName
  templateKey := template.fields.templateKey
  subject := rendered.subject
  body := rendered.body
  contentHash := rendered.contentHash
  correlationId := Text.trim call.correlationId
  requestedAt := call.occurredAt
  metadata :=
    [("source", .str call.payload.source),
      ("priority", .str call.payload.fields.priority.value),
      ("message_purpose", .str call.payload.fields.messagePurpose.value),
      ("audit_hash", .str auditHash),
      ("notification_metadata", .dict call.payload.fields.metadata),
      ("recipient_email", JSONValue.optionalStr (call.emailRecipientAddress recipientId))]

end DispatchCall

/-- The record of a delivery. -/
def deliveryRecord (command : NotificationDeliveryCommand) (auditHash : String) :
    Option NotificationChannelReceipt → NotificationDeliveryRecord
  | none =>
      { notificationId := command.fields.notificationId
        tenantId := command.fields.tenantId
        eventId := command.fields.eventId
        eventType := command.fields.eventType
        recipientId := command.fields.recipientId
        recipientHash := command.fields.recipientHash
        channel := command.fields.channel
        templateKey := command.fields.templateKey
        status := .failed
        subject := command.fields.subject
        body := command.fields.body
        contentHash := command.fields.contentHash
        channelRefHash := none
        auditHash := auditHash
        deliveredAt := command.fields.requestedAt }
  | some receipt =>
      { notificationId := command.fields.notificationId
        tenantId := command.fields.tenantId
        eventId := command.fields.eventId
        eventType := command.fields.eventType
        recipientId := command.fields.recipientId
        recipientHash := command.fields.recipientHash
        channel := command.fields.channel
        templateKey := command.fields.templateKey
        status := .delivered
        subject := command.fields.subject
        body := command.fields.body
        contentHash := command.fields.contentHash
        channelRefHash := some receipt.fields.channelRefHash
        auditHash := auditHash
        deliveredAt := receipt.fields.deliveredAt }

/-- What a dispatch works on. -/
structure GatewayState where
  repository : InMemoryNotificationRepository
  /-- The records of the audit sink, oldest first. -/
  auditLog : List AuditLogRecord
  /-- The commands given to the channel, oldest first. -/
  attempts : List NotificationDeliveryCommand
  /-- The messages of the event bus, oldest first. -/
  published : List EventEnvelope

/-- A channel: its receipt for a command, or nothing where it raises.  It may count. -/
abbrev Channel : Type := ℕ → NotificationDeliveryCommand → Option NotificationChannelReceipt

abbrev GatewayProgram (α : Type) : Type := Fallible GatewayState GatewayError α

/-- The counters and the list of the loop. -/
structure Progress where
  deliveries : List NotificationDeliveryRecord
  failedCount : ℕ
  skippedCount : ℕ

/-- `await self.channel.deliver(command)`. -/
def channelDeliver (channel : Channel) (command : NotificationDeliveryCommand) :
    GatewayProgram (Option NotificationChannelReceipt) := fun s =>
  (.ok (channel s.attempts.length command), { s with attempts := s.attempts ++ [command] })

/-- `_template_for_recipient`. -/
def templateForRecipient (repository : InMemoryNotificationRepository)
    (tenantId eventType : String) (preferences : PreferenceFields)
    (fallback : NotificationTemplate) : NotificationTemplate :=
  match preferences.templateOverrides.get? eventType with
  | none => fallback
  | some overrideKey => (repository.getTemplate tenantId overrideKey).getD fallback

/-- `_resolve_base_template`, where the request brings no template. -/
def storedBaseTemplate {py : LowerStdlib} (call : DispatchCall py)
    (repository : InMemoryNotificationRepository) : NotificationTemplate :=
  match call.payload.templateKey.bind fun key =>
      repository.getTemplate call.tenantId.val key with
  | some template => template
  | none =>
      match repository.findTemplateForEvent call.tenantId.val call.payload.eventType with
      | some template => template
      | none => defaultTemplate call.tenantId call.eventType call.occurredAt

/-- `_resolve_base_template`. -/
def resolveBaseTemplate {py : LowerStdlib} (call : DispatchCall py) :
    GatewayProgram NotificationTemplate :=
  match call.payload.template with
  | some template => fun s =>
      let (record, repository) := s.repository.upsertTemplate call.tenantId call.eventType
        template call.occurredAt
      (.ok record, { s with repository := repository })
  | none => Fallible.inspect fun s => .ok (storedBaseTemplate call s.repository)

section Dispatch

variable {py : LowerStdlib} (render : Jinja) (channel : Channel) (call : DispatchCall py)

/-- `_deliver`. -/
def deliver (earlier : ℕ) (recipientId channelName : String) (template : NotificationTemplate)
    (rendered : RenderedNotification) : GatewayProgram NotificationDeliveryRecord := do
  let audit ← Fallible.ofExcept ((auditRecord py.toStdlib
    (call.auditArgs recipientId channelName template rendered)).mapError .shared)
  Fallible.change fun s => { s with auditLog := s.auditLog ++ [audit] }
  let command ← Fallible.ofExcept ((Validated.make "NotificationDeliveryCommand"
    DeliveryCommandFields.checks (call.deliveryCommand earlier recipientId channelName template
      rendered audit.fields.auditHash)).mapError .shared)
  let receipt ← channelDeliver channel command
  return deliveryRecord command audit.fields.auditHash receipt

/-- The inner loop, for one channel. -/
def deliverOn (recipientId : String) (template : NotificationTemplate)
    (rendered : RenderedNotification) (p : Progress) (channelName : String) :
    GatewayProgram Progress := do
  let delivery ← deliver channel call p.deliveries.length recipientId channelName template
    rendered
  return { p with
    deliveries := p.deliveries ++ [delivery]
    failedCount := if delivery.status = .failed then p.failedCount + 1 else p.failedCount }

/-- The outer loop, for one recipient. -/
def notifyRecipient (base : NotificationTemplate) (p : Progress) (recipientId : String) :
    GatewayProgram Progress := do
  let repository ← Fallible.inspect fun s => .ok s.repository
  let preferences :=
    repository.getOrDefaultPreferences call.tenantId.val recipientId call.occurredAt
  if preferences.enabled = false ∨
      subscribesToEvent preferences call.payload.eventType = false then
    return { p with skippedCount := p.skippedCount + 1 }
  else
    let template := templateForRecipient repository call.tenantId.val call.payload.eventType
      preferences base
    let channels := deliveryChannels call.payload.channels template.fields.channels
      preferences.channels
    if channels = [] then
      return { p with skippedCount := p.skippedCount + 1 }
    else
      let rendered ← Fallible.ofExcept (call.renderNotification render template recipientId)
      channels.foldlM (deliverOn channel call recipientId template rendered) p

/-- The result of a finished loop. -/
def dispatchResult (base : NotificationTemplate) (p : Progress) :
    NotificationDispatchResult where
  notificationId := call.notificationId
  tenantId := call.tenantId.val
  eventId := call.eventId
  eventType := call.payload.eventType
  templateKey := base.fields.templateKey
  deliveredCount := p.deliveries.countP fun d => d.status = .delivered
  skippedCount := p.skippedCount
  failedCount := p.failedCount
  deliveries := p.deliveries

/-- `_dispatch_event`. -/
def dispatchEvent (result : NotificationDispatchResult) : EventEnvelope :=
  let delivered := result.deliveries.filter fun d => d.status = .delivered
  { eventId := newId "evt-notification-dispatched" (call.env.uuid 2)
    type := notificationDispatchedEvent
    schemaVersion := notificationGatewaySchemaVersion
    tenantId := result.tenantId
    source := notificationGatewaySource
    correlationId := call.correlationId
    occurredAt := call.occurredAt
    payload :=
      [("notification_id", .str result.notificationId),
        ("source_event_id", .str result.eventId),
        ("source_event_type", .str result.eventType),
        ("template_key", .str result.templateKey),
        ("delivered_count", .int result.deliveredCount),
        ("skipped_count", .int result.skippedCount),
        ("failed_count", .int result.failedCount),
        ("channels", .list (delivered.map fun d => .str d.channel)),
        ("delivery_ids", .list (delivered.map fun d => .str d.notificationId)),
        ("recipient_hashes", .list
          (((delivered.map NotificationDeliveryRecord.recipientHash).dedup.insertionSort
            (· ≤ ·)).map .str)),
        ("metadata", .dict call.payload.fields.metadata)]
    causationId := some result.eventId }

/-- `NotificationGateway.dispatch`. -/
def dispatch : GatewayProgram NotificationDispatchResult := do
  let base ← resolveBaseTemplate call
  let progress ← call.payload.recipients.foldlM (notifyRecipient render channel call base)
    ⟨[], 0, 0⟩
  let result := dispatchResult call base progress
  let event ← Fallible.ofExcept ((eventEnvelope (dispatchEvent call result)).mapError .shared)
  Fallible.change fun s => { s with published := s.published ++ [event] }
  return result

end Dispatch

end MediaCenter.NotificationGateway
