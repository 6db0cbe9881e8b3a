import MediaCenter.Library.Dict
import MediaCenter.Library.Interleaving
import MediaCenter.Model.Shared.Json

/-!
# Email delivery (`notification_gateway/email_delivery.py`)

A message is put into the outbox and sent through the adapter of the first available route.  The
only await is the adapter's `send`.
-/

set_option autoImplicit false

namespace MediaCenter.NotificationGateway

open MediaCenter.Library MediaCenter.Shared

inductive EmailMessagePurpose : Type where
  | system
  | marketing
  deriving DecidableEq, Repr

def EmailMessagePurpose.value : EmailMessagePurpose → String
  | .system => "system"
  | .marketing => "marketing"

/-- `EmailMessagePurpose(value)`. -/
def EmailMessagePurpose.parse (value : String) : Except SharedException EmailMessagePurpose :=
  if value = "system" then .ok .system
  else if value = "marketing" then .ok .marketing
  else .error (.valueError (value ++ " is not a valid EmailMessagePurpose"))

inductive EmailOutboxStatus : Type where
  | pending
  | sent
  | deferred
  | failed
  deriving DecidableEq, Repr

inductive EmailProviderKind : Type where
  | inMemory
  | postalserver
  | mailgun
  | genericHttp
  deriving DecidableEq, Repr

inductive EmailProviderStatus : Type where
  | active
  | paused
  | disabled
  deriving DecidableEq, Repr

/-- `^[a-z][a-z0-9_-]{1,63}$` (`_EMAIL_PROVIDER_PATTERN`, `_EMAIL_ROUTE_PATTERN`). -/
def emailNamePattern (s : String) : Bool :=
  hasLength 2 64 s && Text.matchesHeadTail Text.isAsciiLower
    (fun c => Text.isAsciiLower c || Text.isAsciiDigit c || c == '_' || c == '-') 63 s

/-- `_SECRET_REF_PATTERN`: as a token, of at most 256 characters. -/
def secretRefPattern (s : String) : Bool :=
  Text.matchesHeadTail Text.isAsciiAlnum
    (fun c => Text.isAsciiAlnum c || c == '.' || c == '_' || c == ':' || c == '/' ||
      c == '-') 255 s

/-- `^[^@\s]+@[^@\s]+\.[^@\s]+$` (`_EMAIL_ADDRESS_PATTERN`), where `\s` is `space`: one `@`, and a
dot behind it that is neither the first nor the last character there. -/
def emailAddressPattern (space : Char → Bool) (s : String) : Bool :=
  match splitAtEvery '@' s.toList with
  | [name, domain] =>
      !name.isEmpty && !name.any space && !domain.any space &&
        (domain.drop 1).dropLast.contains '.'
  | _ => false

structure RouteFields where
  tenantId : String
  routeKey : String
  purpose : EmailMessagePurpose
  providerName : String
  providerKind : EmailProviderKind
  senderAlias : Option String
  priority : ℕ
  status : EmailProviderStatus
  endpointUrl : Option String
  region : Option String
  credentialsRef : Option String
  parameters : JSONObject
  updatedAt : Instant

def RouteFields.checks (f : RouteFields) : List (String × Bool) :=
  [("tenant_id", tenantIdPattern f.tenantId),
    ("route_key", emailNamePattern f.routeKey),
    ("provider_name", emailNamePattern f.providerName),
    ("sender_alias", optionalField (hasLength 1 320) f.senderAlias),
    ("priority", decide (f.priority ≤ 10000)),
    ("endpoint_url", optionalField (hasLength 1 2048) f.endpointUrl),
    ("region", optionalField (hasLength 1 64) f.region),
    ("credentials_ref", optionalField secretRefPattern f.credentialsRef)]

/-- `EmailProviderRoute`, with its texts and its URL in normal form. -/
abbrev EmailProviderRoute : Type := Validated RouteFields.checks

/-- `EmailProviderRoute.is_available`. -/
def isAvailable (route : EmailProviderRoute) : Bool := decide (route.fields.status = .active)

/-- `EmailOutboxMessage`.  The constructor checks the fields, `model_copy` does not. -/
structure EmailOutboxMessage where
  messageId : String
  tenantId : String
  notificationId : String
  sourceEventId : String
  sourceEventType : String
  recipientId : String
  toAddress : Option String
  senderAlias : Option String
  purpose : EmailMessagePurpose
  subject : String
  body : String
  contentHash : String
  status : EmailOutboxStatus
  providerName : Option String
  providerKind : Option EmailProviderKind
  routeKey : Option String
  providerRefHash : Option String
  attemptCount : ℕ
  lastErrorCode : Option String
  correlationId : String
  requestedAt : Instant
  updatedAt : Instant
  metadata : JSONObject

namespace EmailOutboxMessage

def checks (m : EmailOutboxMessage) : List (String × Bool) :=
  [("message_id", tokenPattern m.messageId),
    ("tenant_id", tenantIdPattern m.tenantId),
    ("notification_id", tokenPattern m.notificationId),
    ("source_event_id", tokenPattern m.sourceEventId),
    ("source_event_type", isEventType m.sourceEventType),
    ("recipient_id", tokenPattern m.recipientId),
    ("to_address", optionalField (fun s => hasLength 3 320 s &&
      emailAddressPattern Text.isWhiteSpace s) m.toAddress),
    ("subject", hasLength 1 1000 m.subject),
    ("body", hasLength 1 20000 m.body),
    ("content_hash", auditHashPattern m.contentHash),
    ("correlation_id", tokenPattern m.correlationId)]

/-- The key under which a message is stored. -/
def key (m : EmailOutboxMessage) : String × String := (m.tenantId, m.messageId)

end EmailOutboxMessage

structure SendCommandFields where
  messageId : String
  tenantId : String
  routeKey : String
  providerName : String
  providerKind : EmailProviderKind
  toAddress : String
  senderAlias : Option String
  subject : String
  body : String
  contentHash : String
  endpointUrl : Option String
  region : Option String
  credentialsRef : Option String
  attempt : ℕ
  requestedAt : Instant
  correlationId : String
  parameters : JSONObject
  metadata : JSONObject

def SendCommandFields.checks (f : SendCommandFields) : List (String × Bool) :=
  [("message_id", tokenPattern f.messageId),
    ("tenant_id", tenantIdPattern f.tenantId),
    ("route_key", emailNamePattern f.routeKey),
    ("provider_name", emailNamePattern f.providerName),
    ("to_address", hasLength 3 320 f.toAddress &&
      emailAddressPattern Text.isWhiteSpace f.toAddress),
    ("sender_alias", optionalField (hasLength 1 320) f.senderAlias),
    ("subject", hasLength 1 1000 f.subject),
    ("body", hasLength 1 20000 f.body),
    ("content_hash", auditHashPattern f.contentHash),
    ("endpoint_url", optionalField (hasLength 1 2048) f.endpointUrl),
    ("region", optionalField (hasLength 1 64) f.region),
    ("credentials_ref", optionalField secretRefPattern f.credentialsRef),
    ("attempt", decide (1 ≤ f.attempt)),
    ("correlation_id", tokenPattern f.correlationId)]

/-- `EmailProviderSendCommand`. -/
abbrev EmailProviderSendCommand : Type := Validated SendCommandFields.checks

/-- `EmailProviderResult`. -/
structure EmailProviderResult where
  providerName : String
  providerRef : String
  sentAt : Instant

/-- What an adapter may raise. -/
inductive SendFailure : Type where
  /-- `EmailDeliveryError`. -/
  | emailDeliveryError (errorCode : String)
  | other

/-! ## The outbox -/

/-- `InMemoryEmailOutboxRepository`. -/
structure Outbox where
  routes : Dict (String × String) EmailProviderRoute
  messages : Dict (String × String) EmailOutboxMessage

namespace Outbox

def initial : Outbox := ⟨Dict.empty, Dict.empty⟩

/-- `upsert_route`. -/
def upsertRoute (outbox : Outbox) (route : EmailProviderRoute) : Outbox :=
  { outbox with routes := outbox.routes.set (route.fields.tenantId, route.fields.routeKey) route }

/-- The order of `list_routes`. -/
def routeBefore (a b : EmailProviderRoute) : Prop :=
  a.fields.priority < b.fields.priority ∨
    (a.fields.priority = b.fields.priority ∧ a.fields.routeKey ≤ b.fields.routeKey)

instance (a b : EmailProviderRoute) : Decidable (routeBefore a b) :=
  inferInstanceAs (Decidable (_ ∨ _))

/-- `list_routes`. -/
def listRoutes (outbox : Outbox) (tenantId : String) (purpose : EmailMessagePurpose) :
    List EmailProviderRoute :=
  ((outbox.routes.entries.filter fun e =>
    e.1.1 = tenantId && decide (e.2.fields.purpose = purpose)).map Prod.snd).insertionSort
      routeBefore

/-- `resolve_route`. -/
def resolveRoute (outbox : Outbox) (tenantId : String) (purpose : EmailMessagePurpose) :
    Option EmailProviderRoute :=
  (outbox.listRoutes tenantId purpose).find? isAvailable

/-- `save_message`. -/
def saveMessage (outbox : Outbox) (message : EmailOutboxMessage) : Outbox :=
  { outbox with messages := outbox.messages.set message.key message }

/-- `get_message`. -/
def getMessage (outbox : Outbox) (tenantId messageId : String) : Option EmailOutboxMessage :=
  outbox.messages.get? (tenantId, messageId)

end Outbox

/-! ## Addresses -/

/-- `_normalize_email_or_none`. -/
def normalizeEmailOrNone (py : Stdlib) (value : String) : Option String :=
  let normalized := py.lower (Text.strip value)
  if normalized = "" then none
  else if emailAddressPattern Text.isSpace normalized = true then some normalized
  else none

/-- The address that one object of the metadata names itself, raw. -/
def namedAddress (metadata : JSONObject) (recipientId : String) : Option String :=
  match JSONValue.item "recipient_email" metadata with
  | some (.str directEmail) => some directEmail
  | _ =>
      match JSONValue.item "email_to" metadata with
      | some (.str emailTo) => some emailTo
      | _ =>
          match JSONValue.item "email_recipients" metadata with
          | some (.dict recipients) =>
              match JSONValue.item recipientId recipients with
              | some (.str rawEmail) => some rawEmail
              | _ => none
          | _ => none

mutual

/-- `_email_address_from_metadata`, of a value. -/
def addressFrom (py : Stdlib) (recipientId : String) : JSONValue → Option String
  | .dict metadata =>
      match namedAddress metadata recipientId with
      | some address => normalizeEmailOrNone py address
      | none => addressFromNested py recipientId metadata
  | _ => none

/-- The same of the value of `notification_metadata`. -/
def addressFromNested (py : Stdlib) (recipientId : String) : JSONObject → Option String
  | [] => none
  | (name, value) :: rest =>
      if name = "notification_metadata" then addressFrom py recipientId value
      else addressFromNested py recipientId rest

end

/-- `_email_address_from_metadata`. -/
def emailAddressFromMetadata (py : Stdlib) (metadata : JSONObject) (recipientId : String) :
    Option String := addressFrom py recipientId (.dict metadata)

/-! ## The service -/

/-- `NotificationEmailCommand`. -/
structure NotificationEmailCommand where
  notificationId : String
  tenantId : String
  eventId : String
  eventType : String
  recipientId : String
  subject : String
  body : String
  contentHash : String
  correlationId : String
  requestedAt : Instant
  metadata : JSONObject

/-- The awaits of the service: `adapter.send`. -/
abbrev emailInterface : Interface :=
  ⟨EmailProviderSendCommand, fun _ => Except SendFailure EmailProviderResult⟩

abbrev EmailProgram : Type :=
  Coroutine emailInterface Outbox SharedException (Option EmailOutboxMessage)

/-- `_update_message`, as a copy. -/
def updatedMessage (message : EmailOutboxMessage) (status : EmailOutboxStatus)
    (route : Option EmailProviderRoute) (attemptCount : Option ℕ)
    (providerRefHash lastErrorCode : Option String) (updatedAt : Instant) :
    EmailOutboxMessage :=
  let updates := { message with
    status := status
    attemptCount := attemptCount.getD message.attemptCount
    lastErrorCode := lastErrorCode
    updatedAt := updatedAt }
  let updates := match route with
    | some route => { updates with
        providerName := some route.fields.providerName
        providerKind := some route.fields.providerKind
        routeKey := some route.fields.routeKey
        senderAlias := route.fields.senderAlias }
    | none => updates
  match providerRefHash with
  | some hash => { updates with providerRefHash := some hash }
  | none => updates

/-- `_update_message`. -/
def updateMessage (message : EmailOutboxMessage) : EmailProgram :=
  .access (fun outbox => outbox.saveMessage message) fun _ => pure (some message)

/-- `_hash_ref`. -/
def hashRef (py : Stdlib) (tenantId value : String) : String :=
  "sha256:" ++ py.sha256Hex (tenantId ++ ":" ++ value)

/-- The command for one attempt. -/
def sendCommand (message : EmailOutboxMessage) (route : EmailProviderRoute)
    (toAddress : String) : SendCommandFields where
  messageId := message.messageId
  tenantId := message.tenantId
  routeKey := route.fields.routeKey
  providerName := route.fields.providerName
  providerKind := route.fields.providerKind
  toAddress := toAddress
  senderAlias := route.fields.senderAlias
  subject := message.subject
  body := message.body
  contentHash := message.contentHash
  endpointUrl := route.fields.endpointUrl
  region := route.fields.region
  credentialsRef := route.fields.credentialsRef
  attempt := message.attemptCount + 1
  requestedAt := message.requestedAt
  correlationId := message.correlationId
  parameters := route.fields.parameters
  metadata := message.metadata

/-- What is stored once the adapter has answered. -/
def settledMessage (py : Stdlib) (now : Instant) (message : EmailOutboxMessage)
    (route : EmailProviderRoute) :
    Except SendFailure EmailProviderResult → EmailOutboxMessage
  | .error (.emailDeliveryError errorCode) =>
      updatedMessage message .failed (some route) (some (message.attemptCount + 1)) none
        (some errorCode) now
  | .error .other =>
      updatedMessage message .failed (some route) (some (message.attemptCount + 1)) none
        (some "email_provider_failed") now
  | .ok result =>
      updatedMessage message .sent (some route) (some (message.attemptCount + 1))
        (some (hashRef py message.tenantId
          (route.fields.providerName ++ ":" ++ result.providerRef)))
        none result.sentAt

/-- `try_send`; `now` is the clock when the message is updated. -/
def trySend (py : Stdlib) (adapters : List String) (now : Instant)
    (message : EmailOutboxMessage) : EmailProgram :=
  match message.toAddress with
  | none =>
      updateMessage (updatedMessage message .deferred none none none
        (some "email_recipient_missing") now)
  | some toAddress => do
      let found ← Coroutine.inspect fun outbox =>
        .ok (outbox.resolveRoute message.tenantId message.purpose)
      match found with
      | none =>
          updateMessage (updatedMessage message .deferred none none none
            (some "email_route_unavailable") now)
      | some route =>
          if adapters.contains route.fields.providerName = true then do
            let command ← Coroutine.ofExcept (Validated.make "EmailProviderSendCommand"
              SendCommandFields.checks (sendCommand message route toAddress))
            let answer ← Coroutine.perform command
            updateMessage (settledMessage py now message route answer)
          else
            updateMessage (updatedMessage message .deferred (some route) none none
              (some "email_provider_adapter_missing") now)

/-- One call of the service. -/
inductive EmailCall : Type where
  /-- `queue_from_notification`; `purpose` is the text of an `EmailMessagePurpose | str`. -/
  | queueFromNotification (command : NotificationEmailCommand) (purpose : String)
      (uuid : Uuid4) (now : Instant)
  /-- `try_send`. -/
  | trySend (message : EmailOutboxMessage) (now : Instant)
  /-- `InMemoryEmailOutboxRepository.upsert_route`. -/
  | upsertRoute (route : EmailProviderRoute)

/-- The message of a notification; the other texts of a command have been checked in it. -/
def queuedMessage (py : Stdlib) (command : NotificationEmailCommand)
    (purpose : EmailMessagePurpose) (uuid : Uuid4) : EmailOutboxMessage where
  messageId := newId "email" uuid
  tenantId := command.tenantId
  notificationId := command.notificationId
  sourceEventId := command.eventId
  sourceEventType := command.eventType
  recipientId := command.recipientId
  toAddress := emailAddressFromMetadata py command.metadata command.recipientId
  senderAlias := none
  purpose := purpose
  subject := command.subject
  body := command.body
  contentHash := command.contentHash
  status := .pending
  providerName := none
  providerKind := none
  routeKey := none
  providerRefHash := none
  attemptCount := 0
  lastErrorCode := none
  correlationId := command.correlationId
  requestedAt := command.requestedAt
  updatedAt := command.requestedAt
  metadata := command.metadata

/-- `queue_from_notification`. -/
def queueFromNotification (py : Stdlib) (adapters : List String)
    (command : NotificationEmailCommand) (purpose : String) (uuid : Uuid4) (now : Instant) :
    EmailProgram := do
  let normalizedPurpose ← Coroutine.ofExcept
    (EmailMessagePurpose.parse (py.lower (Text.strip purpose)))
  let checked ← Coroutine.ofExcept (Validated.make "EmailOutboxMessage"
    EmailOutboxMessage.checks (queuedMessage py command normalizedPurpose uuid))
  let _ ← updateMessage checked.fields
  trySend py adapters now checked.fields

/-- What each call runs. -/
def emailProgram (py : Stdlib) (adapters : List String) : EmailCall → EmailProgram
  | .queueFromNotification command purpose uuid now =>
      queueFromNotification py adapters command purpose uuid now
  | .trySend message now => trySend py adapters now message
  | .upsertRoute route =>
      .access (fun outbox => outbox.upsertRoute route) fun _ => pure none

end MediaCenter.NotificationGateway
