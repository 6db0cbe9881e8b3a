import MediaCenter.Library.Dict
import MediaCenter.Library.Fallible
import MediaCenter.Model.Shared.AuditLogger
import MediaCenter.Model.Shared.Events

/-!
# Telegram client for members (`messenger_adapter/telegram_client.py`)

A member of a tenant is linked to a Telegram account, and what the account writes is answered
for the member.  A link is stored before its record and its event are accepted.  The AES-GCM
library, the scenario handlers, the proxy directory and the event publisher are parameters.
-/

set_option autoImplicit false

namespace MediaCenter.MessengerAdapter

open MediaCenter.Library MediaCenter.Shared

def telegramClientSource : String := "messenger-adapter"
def telegramClientSchemaVersion : String := "1.0"
def telegramIdentityAadLabel : String := "telegram_client_identity"
def telegramAccountLinkedEvent : String := "messenger.telegram_client.account_linked"
def telegramCommandHandledEvent : String := "messenger.telegram_client.command_handled"

inductive TelegramError : Type where
  | shared (e : SharedException)
  /-- `TelegramClientError`. -/
  | client (message : String)
  /-- `TelegramAccountNotLinkedError`. -/
  | notLinked (message : String)
  /-- `PlatformTokenCryptoError`. -/
  | tokenCrypto (message : String)
  /-- What a handler, the proxy directory or the publisher raises. -/
  | raised (exception : String)
  deriving DecidableEq, Repr

/-! ## Encrypted identities -/

/-- `TOKEN_CIPHERTEXT_PREFIX`, with the colon. -/
def tokenCiphertextPrefix : String := "aes256gcm:"

/-- `^aes256gcm:[A-Za-z0-9_-]+={0,2}$` (`_TOKEN_CIPHERTEXT_PATTERN`). -/
def tokenCiphertextPattern (s : String) : Bool :=
  let body := (s.toList.drop 10).rdropWhile fun c => c == '='
  decide (s.toList.take 10 = tokenCiphertextPrefix.toList) && !body.isEmpty &&
    decide (s.toList.length ≤ 10 + body.length + 2) &&
    body.all fun c => Text.isAsciiAlnum c || c == '_' || c == '-'

/-- Authenticated encryption with a random nonce, in base64: a text is decrypted with the
associated data it was encrypted with, and with no other. -/
structure Aead where
  /-- `urlsafe_b64encode(nonce + aesgcm.encrypt(nonce, token, aad))`. -/
  encrypt : ℕ → String → String → String
  /-- The inverse, with the message of a refusal. -/
  decrypt : String → String → Except String String
  decrypt_encrypt : ∀ nonce aad token, decrypt aad (encrypt nonce aad token) = .ok token
  aad_of_decrypt : ∀ nonce aad aad' token opened,
    decrypt aad' (encrypt nonce aad token) = .ok opened → aad' = aad
  encrypt_pattern : ∀ nonce aad token,
    tokenCiphertextPattern (tokenCiphertextPrefix ++ encrypt nonce aad token) = true

/-- `_token_aad`, for a platform in normal form. -/
def tokenAad (tenantId platform : String) : String := tenantId ++ ":" ++ platform

/-- `PlatformTokenCipher.encrypt`. -/
def encryptToken (aead : Aead) (nonce : ℕ) (tenantId platform token : String) :
    Except TelegramError String :=
  if Text.strip token = "" then .error (.tokenCrypto "token не может быть пустым")
  else .ok (tokenCiphertextPrefix ++ aead.encrypt nonce (tokenAad tenantId platform) token)

/-- `PlatformTokenCipher.decrypt`. -/
def decryptToken (aead : Aead) (tenantId platform tokenEncrypted : String) :
    Except TelegramError String :=
  if tokenEncrypted.toList.take 10 = tokenCiphertextPrefix.toList then
    match aead.decrypt (tokenAad tenantId platform)
        (String.ofList (tokenEncrypted.toList.drop 10)) with
    | .ok token => .ok token
    | .error message => .error (.tokenCrypto message)
  else .error (.tokenCrypto "неподдерживаемый формат token_encrypted")

/-! ## Account links -/

structure AccountLinkFields where
  tenantId : String
  memberId : String
  linkId : String
  telegramUserRefHash : String
  identityEncrypted : String
  linkedAt : Instant
  metadata : JSONObject

def AccountLinkFields.checks (f : AccountLinkFields) : List (String × Bool) :=
  [("tenant_id", tenantIdPattern f.tenantId),
    ("member_id", tokenPattern f.memberId),
    ("link_id", tokenPattern f.linkId),
    ("telegram_user_ref_hash", refHashPattern f.telegramUserRefHash),
    ("identity_encrypted", tokenCiphertextPattern f.identityEncrypted)]

abbrev TelegramAccountLink : Type := Validated AccountLinkFields.checks

namespace TelegramAccountLink

def tenantId (link : TelegramAccountLink) : String := link.fields.tenantId
def memberId (link : TelegramAccountLink) : String := link.fields.memberId
def telegramUserRefHash (link : TelegramAccountLink) : String := link.fields.telegramUserRefHash
def identityEncrypted (link : TelegramAccountLink) : String := link.fields.identityEncrypted

/-- The key of `_by_ref_hash`. -/
def refKey (link : TelegramAccountLink) : String × String :=
  (link.tenantId, link.telegramUserRefHash)

/-- The key of `_by_member`. -/
def memberKey (link : TelegramAccountLink) : String × String := (link.tenantId, link.memberId)

end TelegramAccountLink

structure InMemoryTelegramAccountStore where
  byRefHash : Dict (String × String) TelegramAccountLink
  byMember : Dict (String × String) TelegramAccountLink

namespace InMemoryTelegramAccountStore

def empty : InMemoryTelegramAccountStore := ⟨.empty, .empty⟩

/-- `save`. -/
def save (store : InMemoryTelegramAccountStore) (link : TelegramAccountLink) :
    InMemoryTelegramAccountStore :=
  ⟨store.byRefHash.set link.refKey link, store.byMember.set link.memberKey link⟩

/-- `find_by_ref_hash`. -/
def findByRefHash (store : InMemoryTelegramAccountStore)
    (tenantId telegramUserRefHash : String) : Option TelegramAccountLink :=
  store.byRefHash.get? (tenantId, telegramUserRefHash)

/-- `require_by_ref_hash`. -/
def requireByRefHash (store : InMemoryTelegramAccountStore)
    (tenantId telegramUserRefHash : String) : Except TelegramError TelegramAccountLink :=
  match store.findByRefHash tenantId telegramUserRefHash with
  | some link => .ok link
  | none => .error (.notLinked "Telegram-аккаунт не связан с участником tenant")

/-- `find_by_member`. -/
def findByMember (store : InMemoryTelegramAccountStore) (tenantId memberId : String) :
    Option TelegramAccountLink :=
  store.byMember.get? (tenantId, memberId)

end InMemoryTelegramAccountStore

/-! ## Commands -/

inductive TelegramClientScenario : Type where
  | start
  | help
  | status
  | balance
  | tasks
  | unknown
  deriving DecidableEq, Repr

def TelegramClientScenario.value : TelegramClientScenario → String
  | .start => "start"
  | .help => "help"
  | .status => "status"
  | .balance => "balance"
  | .tasks => "tasks"
  | .unknown => "unknown"

structure TelegramClientCommand where
  scenario : TelegramClientScenario
  rawText : String
  argument : Option String
  deriving DecidableEq

/-- `_SCENARIO_BY_KEYWORD`. -/
def scenarioByKeyword : List (String × TelegramClientScenario) :=
  [("start", .start), ("help", .help), ("menu", .help), ("status", .status),
    ("balance", .balance), ("tasks", .tasks), ("task", .tasks)]

/-- `parse_telegram_command`; the texts are within the limits of the command's fields. -/
def parseTelegramCommand (py : Stdlib) (text : String) :
    Except TelegramError TelegramClientCommand :=
  let stripped := Text.strip text
  if stripped = "" then .error (.client "Пустой текст команды не поддерживается")
  else
    let head := stripped.toList.takeWhile fun c => c ≠ ' '
    let rest := (stripped.toList.dropWhile fun c => c ≠ ' ').drop 1
    let keyword := py.lower
      (String.ofList ((head.dropWhile fun c => c = '/').takeWhile fun c => c ≠ '@'))
    let scenario := (scenarioByKeyword.lookup keyword).getD .unknown
    let argument := Text.strip (String.ofList rest)
    .ok ⟨scenario, stripped, if argument = "" then none else some argument⟩

structure TelegramClientReply where
  scenario : TelegramClientScenario
  text : String
  containsMemberData : Bool
  deriving DecidableEq

/-- The context of a handler; the snapshot provider is the handler's own. -/
structure TelegramScenarioContext where
  tenantId : String
  memberId : String
  command : TelegramClientCommand
  correlationId : String

abbrev TelegramScenarioHandler : Type :=
  TelegramScenarioContext → Except TelegramError TelegramClientReply

/-- `TelegramScenarioRouter.handlers`. -/
abbrev TelegramScenarioRouter : Type := TelegramClientScenario → Option TelegramScenarioHandler

/-- `TelegramScenarioRouter.dispatch`. -/
def TelegramScenarioRouter.dispatch (router : TelegramScenarioRouter)
    (context : TelegramScenarioContext) : Except TelegramError TelegramClientReply :=
  match router context.command.scenario with
  | some handler => handler context
  | none =>
      match router .unknown with
      | some handler => handler context
      | none => .error (.raised "KeyError")

/-! ## The gateway -/

structure TelegramProxyLease where
  poolId : String
  leaseId : String
  proxyId : String
  protocol : String
  urlHash : String
  deriving DecidableEq

structure InboundMessageFields where
  tenantId : String
  telegramUserId : String
  text : String
  correlationId : String
  chatId : Option String
  receivedAt : Option Instant

/-- `^[0-9]{1,20}$` (`_TELEGRAM_USER_ID_PATTERN`). -/
def telegramUserIdPattern (s : String) : Bool :=
  hasLength 1 20 s && s.toList.all Text.isAsciiDigit

/-- `^-?[0-9]{1,20}$` (`_TELEGRAM_CHAT_ID_PATTERN`). -/
def telegramChatIdPattern (s : String) : Bool :=
  telegramUserIdPattern s ||
    (s.toList.take 1 == ['-'] && telegramUserIdPattern (String.ofList (s.toList.drop 1)))

def InboundMessageFields.checks (f : InboundMessageFields) : List (String × Bool) :=
  [("tenant_id", tenantIdPattern f.tenantId),
    ("telegram_user_id", telegramUserIdPattern f.telegramUserId),
    ("text", hasLength 1 4096 f.text),
    ("correlation_id", tokenPattern f.correlationId),
    ("chat_id", optionalField telegramChatIdPattern f.chatId)]

abbrev TelegramInboundMessage : Type := Validated InboundMessageFields.checks

structure ExchangeFields where
  tenantId : String
  memberId : String
  telegramUserRefHash : String
  scenario : TelegramClientScenario
  reply : TelegramClientReply
  proxyLease : Option TelegramProxyLease
  auditHash : String
  correlationId : String
  handledAt : Instant

def ExchangeFields.checks (f : ExchangeFields) : List (String × Bool) :=
  [("tenant_id", tenantIdPattern f.tenantId),
    ("member_id", tokenPattern f.memberId),
    ("telegram_user_ref_hash", refHashPattern f.telegramUserRefHash),
    ("audit_hash", auditHashPattern f.auditHash),
    ("correlation_id", tokenPattern f.correlationId)]

abbrev TelegramClientExchange : Type := Validated ExchangeFields.checks

structure TelegramClientState where
  accountStore : InMemoryTelegramAccountStore
  auditLog : List AuditLogRecord
  published : List EventEnvelope

def TelegramClientState.initial : TelegramClientState := ⟨.empty, [], []⟩

abbrev TelegramProgram (α : Type) : Type := Fallible TelegramClientState TelegramError α

/-- What the gateway is made of. -/
structure TelegramClientGateway where
  py : Stdlib
  aead : Aead
  router : TelegramScenarioRouter

/-- What a call meets outside: the clock, fresh ids, a nonce, the answers of the proxy directory
and of the event publisher. -/
structure TelegramAmbient extends Ambient where
  nonce : ℕ
  leaseProxy : String → Instant → Except TelegramError (Option TelegramProxyLease)
  publisher : EventEnvelope → Except TelegramError Unit

/-- `telegram_user_ref_hash`. -/
def telegramUserRefHash (py : Stdlib) (tenantId telegramUserId : String) : String :=
  "sha256:" ++ py.sha256Hex (tenantId ++ ":telegram_user:" ++ telegramUserId)

/-- `subject_ref_hash`. -/
def subjectRefHash (py : Stdlib) (tenantId subjectId : String) : String :=
  "sha256:" ++ py.sha256Hex (tenantId ++ ":" ++ subjectId)

/-- Append a record to the audit log. -/
def recordAudit (py : Stdlib) (args : AuditArgs) : TelegramProgram AuditLogRecord := do
  let record ← Fallible.ofExcept ((auditRecord py args).mapError .shared)
  Fallible.change fun s => { s with auditLog := s.auditLog ++ [record] }
  return record

/-- Make an envelope and hand it to the publisher. -/
def publishEvent (publisher : EventEnvelope → Except TelegramError Unit) (args : EventEnvelope) :
    TelegramProgram Unit := do
  let event ← Fallible.ofExcept ((eventEnvelope args).mapError .shared)
  Fallible.ofExcept (publisher event)
  Fallible.change fun s => { s with published := s.published ++ [event] }

structure LinkAccountArgs where
  tenantId : String
  memberId : String
  telegramUserId : String
  correlationId : String
  linkId : Option String
  linkedAt : TimeArg
  eventId : Option String
  metadata : JSONObject

section Gateway

variable (gateway : TelegramClientGateway) (env : TelegramAmbient)

/-- The link that `link_account` saves, or what it raises before. -/
def newAccountLink (args : LinkAccountArgs) : Except TelegramError TelegramAccountLink := do
  let linkedAt ← (resolveTime gateway.py env.now args.linkedAt).mapError .shared
  let refHash := telegramUserRefHash gateway.py args.tenantId args.telegramUserId
  let identityEncrypted ← encryptToken gateway.aead env.nonce args.tenantId
    telegramIdentityAadLabel args.telegramUserId
  (Validated.make "TelegramAccountLink" AccountLinkFields.checks
    { tenantId := Text.trim args.tenantId
      memberId := Text.trim args.memberId
      linkId := Text.trim (orDefault args.linkId (newId "tg-link" (env.uuid 0)))
      telegramUserRefHash := refHash
      identityEncrypted := Text.trim identityEncrypted
      linkedAt := linkedAt
      metadata := args.metadata }).mapError .shared

/-- `sorted(link.metadata)`. -/
def metadataKeys (metadata : JSONObject) : List JSONValue :=
  ((metadata.map Prod.fst).insertionSort (· ≤ ·)).map .str

def linkAuditArgs (args : LinkAccountArgs) (link : TelegramAccountLink) : AuditArgs where
  eventType := telegramAccountLinkedEvent
  tenantId := args.tenantId
  metadata :=
    [("link_id", .str link.fields.linkId),
      ("telegram_user_ref_hash", .str link.telegramUserRefHash),
      ("metadata_keys", .list (metadataKeys link.fields.metadata))]
  timestamp := link.fields.linkedAt
  correlationId := some args.correlationId
  actorHash := some (subjectRefHash gateway.py args.tenantId args.memberId)
  source := some telegramClientSource

def linkEvent (args : LinkAccountArgs) (link : TelegramAccountLink) (audit : AuditLogRecord) :
    EventEnvelope where
  eventId := orDefault args.eventId (newId "evt-tg-account-linked" (env.uuid 1))
  type := telegramAccountLinkedEvent
  schemaVersion := telegramClientSchemaVersion
  tenantId := args.tenantId
  source := telegramClientSource
  correlationId := args.correlationId
  occurredAt := link.fields.linkedAt
  payload :=
    [("link_id", .str link.fields.linkId),
      ("telegram_user_ref_hash", .str link.telegramUserRefHash),
      ("audit_hash", .str audit.fields.auditHash)]
  causationId := none

/-- `link_account`. -/
def linkAccount (args : LinkAccountArgs) : TelegramProgram TelegramAccountLink := do
  let link ← Fallible.ofExcept (newAccountLink gateway env args)
  Fallible.change fun s => { s with accountStore := s.accountStore.save link }
  let audit ← recordAudit gateway.py (linkAuditArgs gateway args link)
  publishEvent env.publisher (linkEvent env args link audit)
  return link

structure HandleUpdateArgs where
  message : TelegramInboundMessage
  now : TimeArg
  eventId : Option String

/-- `_verify_identity_binding`. -/
def verifyIdentityBinding (link : TelegramAccountLink) (message : TelegramInboundMessage) :
    Except TelegramError Unit := do
  let decrypted ← decryptToken gateway.aead message.fields.tenantId telegramIdentityAadLabel
    link.identityEncrypted
  if decrypted ≠ message.fields.telegramUserId then
    throw (.client "Идентификатор Telegram не совпадает с привязкой участника")

/-- `_proxy_lease_metadata`, under the key `proxy`. -/
def proxyMetadata : Option TelegramProxyLease → JSONObject
  | none => []
  | some lease => [("proxy", .dict
      [("pool_id", .str lease.poolId), ("lease_id", .str lease.leaseId),
        ("proxy_id", .str lease.proxyId), ("protocol", .str lease.protocol),
        ("url_hash", .str lease.urlHash)])]

/-- What has been found out when a command is recorded. -/
structure HandledCommand where
  handledAt : Instant
  refHash : String
  link : TelegramAccountLink
  command : TelegramClientCommand
  reply : TelegramClientReply
  proxyLease : Option TelegramProxyLease

/-- `handle_update`, up to its audit record. -/
def handleCommand (args : HandleUpdateArgs) (store : InMemoryTelegramAccountStore) :
    Except TelegramError HandledCommand := do
  let message := args.message.fields
  let handledAt ← (resolveTime gateway.py (message.receivedAt.getD env.now) args.now).mapError
    .shared
  let refHash := telegramUserRefHash gateway.py message.tenantId message.telegramUserId
  let link ← store.requireByRefHash message.tenantId refHash
  verifyIdentityBinding gateway link args.message
  let command ← parseTelegramCommand gateway.py message.text
  let reply ← gateway.router.dispatch
    ⟨message.tenantId, link.memberId, command, message.correlationId⟩
  let proxyLease ← env.leaseProxy message.tenantId handledAt
  return ⟨handledAt, refHash, link, command, reply, proxyLease⟩

def commandAuditArgs (args : HandleUpdateArgs) (handled : HandledCommand) : AuditArgs where
  eventType := telegramCommandHandledEvent
  tenantId := args.message.fields.tenantId
  metadata :=
    [("telegram_user_ref_hash", .str handled.refHash),
      ("scenario", .str handled.command.scenario.value),
      ("has_argument", .bool handled.command.argument.isSome),
      ("contains_member_data", .bool handled.reply.containsMemberData)] ++
    proxyMetadata handled.proxyLease
  timestamp := handled.handledAt
  correlationId := some args.message.fields.correlationId
  actorHash := some (subjectRefHash gateway.py args.message.fields.tenantId handled.link.memberId)
  source := some telegramClientSource

def commandEvent (args : HandleUpdateArgs) (handled : HandledCommand) (audit : AuditLogRecord) :
    EventEnvelope where
  eventId := orDefault args.eventId (newId "evt-tg-command-handled" (env.uuid 0))
  type := telegramCommandHandledEvent
  schemaVersion := telegramClientSchemaVersion
  tenantId := args.message.fields.tenantId
  source := telegramClientSource
  correlationId := args.message.fields.correlationId
  occurredAt := handled.handledAt
  payload :=
    [("telegram_user_ref_hash", .str handled.refHash),
      ("scenario", .str handled.command.scenario.value),
      ("contains_member_data", .bool handled.reply.containsMemberData),
      ("audit_hash", .str audit.fields.auditHash)] ++ proxyMetadata handled.proxyLease
  causationId := none

def exchangeOf (args : HandleUpdateArgs) (handled : HandledCommand) (audit : AuditLogRecord) :
    Except SharedException TelegramClientExchange :=
  Validated.make "TelegramClientExchange" ExchangeFields.checks
    { tenantId := args.message.fields.tenantId
      memberId := handled.link.memberId
      telegramUserRefHash := handled.refHash
      scenario := handled.reply.scenario
      reply := handled.reply
      proxyLease := handled.proxyLease
      auditHash := audit.fields.auditHash
      correlationId := args.message.fields.correlationId
      handledAt := handled.handledAt }

/-- `handle_update`. -/
def handleUpdate (args : HandleUpdateArgs) : TelegramProgram TelegramClientExchange := do
  let handled ← Fallible.inspect fun s => handleCommand gateway env args s.accountStore
  let audit ← recordAudit gateway.py (commandAuditArgs gateway args handled)
  publishEvent env.publisher (commandEvent env args handled audit)
  Fallible.ofExcept ((exchangeOf args handled audit).mapError .shared)

end Gateway

/-! ## Calls -/

inductive TelegramOperation : Type where
  | link (args : LinkAccountArgs)
  | handle (args : HandleUpdateArgs)

structure TelegramCall where
  env : TelegramAmbient
  operation : TelegramOperation

inductive TelegramAnswer : Type where
  | linked (link : TelegramAccountLink)
  | exchanged (exchange : TelegramClientExchange)
  | raised (e : TelegramError)

namespace TelegramClientGateway

/-- The answer of a call, with the state it leaves. -/
def answered {α : Type} (answer : α → TelegramAnswer) :
    Except TelegramError α × TelegramClientState → TelegramAnswer × TelegramClientState
  | (.ok a, s) => (answer a, s)
  | (.error e, s) => (.raised e, s)

def step (gateway : TelegramClientGateway) (s : TelegramClientState) (call : TelegramCall) :
    TelegramAnswer × TelegramClientState :=
  match call.operation with
  | .link args => answered .linked (Fallible.exec (linkAccount gateway call.env args) s)
  | .handle args => answered .exchanged (Fallible.exec (handleUpdate gateway call.env args) s)

end TelegramClientGateway

end MediaCenter.MessengerAdapter
