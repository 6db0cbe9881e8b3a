import MediaCenter.Model.MessengerAdapter.TelegramClient

/-!
# Polling of inbound Telegram messages (`messenger_adapter/telegram_telethon.py`)

One poll reads the newest messages of a chat below a cursor, hands each text message that has a
sender to the Telegram client gateway, and answers it.  The largest id it has seen is the cursor
of the next poll.  The pacing of the replies only delays them.
-/

set_option autoImplicit false

namespace MediaCenter.MessengerAdapter

open MediaCenter.Library MediaCenter.Shared

/-! ## Messages -/

/-- An attribute of a Telethon object, as `_attr` reads it. -/
inductive TelethonValue : Type where
  | absent
  | bool (b : Bool)
  | int (n : ℤ)
  | str (s : String)
  /-- Any other object. -/
  | other
  deriving DecidableEq, Repr

/-- A message of a chat; its id is a positive integer. -/
structure TelethonMessage where
  id : ℕ
  senderId : TelethonValue
  /-- `from_id.user_id`. -/
  fromUserId : TelethonValue
  chatId : TelethonValue
  rawText : TelethonValue
  message : TelethonValue
  text : TelethonValue
  date : Option Instant
  deriving DecidableEq

/-- `str(value).strip() or None`, of a number or a text. -/
def normalizedRef : TelethonValue → Option String
  | .int n => some (toString n)
  | .str s => if Text.strip s = "" then none else some (Text.strip s)
  | _ => none

/-- `_telegram_sender_id`. -/
def telegramSenderId (m : TelethonMessage) : Option String :=
  match m.senderId with
  | .absent => none
  | .bool _ => none
  | .int n => normalizedRef (.int n)
  | .str s => normalizedRef (.str s)
  | .other => normalizedRef m.fromUserId

/-- `_telegram_chat_id`. -/
def telegramChatId (m : TelethonMessage) : Option String := normalizedRef m.chatId

/-- `_message_text`: the first of the three texts that is not blank. -/
def messageText (m : TelethonMessage) : Option String :=
  [m.rawText, m.message, m.text].findSome? fun value =>
    match value with
    | .str s => if Text.strip s = "" then none else some (Text.strip s)
    | _ => none

/-- `_message_datetime`. -/
def messageDatetime (m : TelethonMessage) (fallback : Instant) : Instant := m.date.getD fallback

/-! ## Polls -/

structure TelegramTelethonPollRequest where
  tenantId : String
  sessionRef : String
  source : String
  correlationId : String
  limit : ℕ
  offsetId : Option ℕ
  replyToMessages : Bool
  tenantId_pattern : tenantIdPattern tenantId = true
  sessionRef_pattern : tokenPattern sessionRef = true
  source_length : hasLength 1 256 source = true
  correlationId_pattern : tokenPattern correlationId = true
  limit_mem : 1 ≤ limit ∧ limit ≤ 100

/-- `iter_messages(source, **_iter_messages_options(request))`, of a chat whose messages are
given oldest first: the newest ones whose id is below the offset, newest first. -/
def iterMessages (history : List TelethonMessage) (limit : ℕ) (offsetId : Option ℕ) :
    List TelethonMessage :=
  (history.filter fun m => match offsetId with
    | none => true
    | some k => decide (k = 0) || decide (m.id < k)).reverse.take limit

/-- `_inbound_message_from_telethon`, with the instant that stands in for a missing date. -/
def inboundMessageFromTelethon (request : TelegramTelethonPollRequest) (m : TelethonMessage)
    (now : Instant) : Except SharedException (Option TelegramInboundMessage) :=
  match telegramSenderId m, messageText m with
  | some telegramUserId, some text =>
      (Validated.make "TelegramInboundMessage" InboundMessageFields.checks
        { tenantId := Text.trim request.tenantId
          telegramUserId := Text.trim telegramUserId
          text := Text.trim text
          correlationId := Text.trim request.correlationId
          chatId := (telegramChatId m).map Text.trim
          receivedAt := some (messageDatetime m now) }).map some
  | _, _ => .ok none

/-- What a poll meets: an error of the gateway, a publication error, or one of the Telethon
client, of which the name of its class counts and whether it says when to try again. -/
inductive BridgeError : Type where
  | client (e : TelegramError)
  /-- `PlatformPublicationError`. -/
  | publication (errorCode : String) (retryable : Bool)
  | telethon (className : String) (saysRetryAfter : Bool)
  deriving DecidableEq

structure TelegramTelethonHandledUpdate where
  messageId : ℕ
  telegramUserRefHash : String
  scenario : TelegramClientScenario
  replied : Bool
  auditHash : String
  deriving DecidableEq

structure TelegramTelethonUpdateFailure where
  messageId : Option ℕ
  errorCode : String
  retryable : Bool
  deriving DecidableEq

structure TelegramTelethonPollResult where
  tenantId : String
  sessionRefHash : String
  sourceRefHash : String
  handled : List TelegramTelethonHandledUpdate
  failed : List TelegramTelethonUpdateFailure
  nextOffsetId : Option ℕ
  deriving DecidableEq

/-- The class of an error of the gateway. -/
def TelegramError.className : TelegramError → String
  | .shared (.valueError _) => "ValueError"
  | .shared _ => "ValidationError"
  | .client _ => "TelegramClientError"
  | .notLinked _ => "TelegramAccountNotLinkedError"
  | .tokenCrypto _ => "PlatformTokenCryptoError"
  | .raised exception => exception

/-- Some marker occurs in the lower-case name. -/
def namesOne (py : Stdlib) (markers : List String) (className : String) : Bool :=
  markers.any fun marker =>
    (py.lower className).toList.tails.any fun tail => marker.toList.isPrefixOf tail

/-- `_publication_error_from_telethon`: its code and whether it may be retried. -/
def publicationErrorFromTelethon (py : Stdlib) (className : String) (saysRetryAfter : Bool) :
    String × Bool :=
  if className = "TelegramTelethonAuthorizationError" then ("auth_failed", false)
  else if className = "TelegramTelethonSessionNotFoundError" then ("session_not_found", false)
  else if saysRetryAfter || namesOne py ["flood"] className then ("rate_limited", true)
  else if namesOne py ["unauthorized", "authkey", "auth"] className then ("auth_failed", false)
  else if namesOne py ["forbidden", "private", "write"] className then ("access_denied", false)
  else if namesOne py ["invalid", "empty", "toolong"] className then ("invalid_request", false)
  else if namesOne py ["timeout", "server", "rpc"] className then ("platform_unavailable", true)
  else ("publication_failed", true)

/-- `_update_failure_from_error`. -/
def updateFailureFromError (py : Stdlib) (error : BridgeError) (messageId : Option ℕ) :
    TelegramTelethonUpdateFailure :=
  match error with
  | .client (.notLinked _) => ⟨messageId, "account_not_linked", false⟩
  | .client (.client _) => ⟨messageId, "client_gateway_failed", false⟩
  | .client e =>
      let (code, retryable) := publicationErrorFromTelethon py e.className false
      ⟨messageId, code, retryable⟩
  | .publication errorCode retryable => ⟨messageId, errorCode, retryable⟩
  | .telethon className saysRetryAfter =>
      let (code, retryable) := publicationErrorFromTelethon py className saysRetryAfter
      ⟨messageId, code, retryable⟩

/-- A reply that Telethon has accepted. -/
structure SentReply where
  target : String
  text : String
  replyTo : ℕ
  deriving DecidableEq

/-- What a poll meets outside: whether it is connected, what the gateway meets with each message,
and what becomes of each reply. -/
structure PollAmbient where
  connected : Except BridgeError Unit
  update : ℕ → TelegramAmbient
  send : ℕ → SentReply → Except BridgeError Unit

/-- What a poll has done so far. -/
structure PollState where
  client : TelegramClientState
  replies : List SentReply
  handled : List TelegramTelethonHandledUpdate
  failed : List TelegramTelethonUpdateFailure
  nextOffsetId : Option ℕ

section Bridge

variable (gateway : TelegramClientGateway) (env : PollAmbient)
  (request : TelegramTelethonPollRequest)

/-- `_reply`. -/
def reply (n : ℕ) (inbound : TelegramInboundMessage) (messageId : ℕ) (replyText : String)
    (replies : List SentReply) : Except BridgeError (List SentReply) :=
  if request.replyToMessages then do
    let sent : SentReply :=
      ⟨orDefault inbound.fields.chatId inbound.fields.telegramUserId, replyText, messageId⟩
    env.send n sent
    return replies ++ [sent]
  else .ok replies

/-- The body of the inner `try`: the gateway handles the message, and the reply goes out. -/
def handleInbound (n : ℕ) (inbound : TelegramInboundMessage) (messageId : ℕ) (s : PollState) :
    PollState :=
  match Fallible.exec (handleUpdate gateway (env.update n) ⟨inbound, .omitted, none⟩) s.client with
  | (.error e, client) =>
      { s with
        client := client
        failed := s.failed ++
          [updateFailureFromError gateway.py (.client e) (some messageId)] }
  | (.ok exchange, client) =>
      match reply env request n inbound messageId exchange.fields.reply.text s.replies with
      | .error e =>
          { s with
            client := client
            failed := s.failed ++ [updateFailureFromError gateway.py e (some messageId)] }
      | .ok replies =>
          { s with
            client := client
            replies := replies
            handled := s.handled ++
              [⟨messageId, exchange.fields.telegramUserRefHash, exchange.fields.scenario,
                request.replyToMessages, exchange.fields.auditHash⟩] }

/-- The loop over the messages.  A message that `TelegramInboundMessage` refuses ends it. -/
def pollMessages : ℕ → List TelethonMessage → PollState → PollState
  | _, [], s => s
  | n, m :: rest, s =>
      let s := { s with nextOffsetId := some (max (s.nextOffsetId.getD 0) m.id) }
      match inboundMessageFromTelethon request m (env.update n).now with
      | .error e =>
          { s with
            failed := s.failed ++
              [updateFailureFromError gateway.py (.client (.shared e)) none] }
      | .ok none => pollMessages (n + 1) rest s
      | .ok (some inbound) =>
          pollMessages (n + 1) rest (handleInbound gateway env request n inbound m.id s)

/-- `_scoped_hash`. -/
def scopedHash (py : Stdlib) (tenantId value : String) : String :=
  "sha256:" ++ py.sha256Hex (tenantId ++ ":" ++ value)

/-- `poll_once`, of a chat with the given messages. -/
def pollOnce (history : List TelethonMessage) (client : TelegramClientState)
    (replies : List SentReply) :
    TelegramTelethonPollResult × TelegramClientState × List SentReply :=
  let start : PollState := ⟨client, replies, [], [], request.offsetId⟩
  let s := match env.connected with
    | .error e =>
        { start with failed := [updateFailureFromError gateway.py e none] }
    | .ok _ =>
        pollMessages gateway env request 0 (iterMessages history request.limit request.offsetId)
          start
  (⟨request.tenantId, scopedHash gateway.py request.tenantId request.sessionRef,
      scopedHash gateway.py request.tenantId request.source, s.handled, s.failed,
      s.nextOffsetId⟩, s.client, s.replies)

end Bridge

/-! ## Chains of polls -/

structure PollingState where
  /-- The messages of the chat, oldest first. -/
  history : List TelethonMessage
  /-- A poll has been made. -/
  started : Bool
  /-- What has arrived after the first poll, and before the last one that was connected. -/
  due : List TelethonMessage
  /-- What has arrived since. -/
  waiting : List TelethonMessage
  results : List TelegramTelethonPollResult
  replies : List SentReply
  offsetId : Option ℕ
  client : TelegramClientState

def PollingState.initial (history : List TelethonMessage) (offsetId : Option ℕ)
    (client : TelegramClientState) : PollingState :=
  ⟨history, false, [], [], [], [], offsetId, client⟩

inductive PollingEvent : Type where
  | arrive (m : TelethonMessage)
  /-- A poll; its request has the offset of the chain in place of its own. -/
  | poll (env : PollAmbient) (request : TelegramTelethonPollRequest)

/-- One event, with the result of a poll. -/
def PollingState.step (gateway : TelegramClientGateway) (s : PollingState) :
    PollingEvent → Option TelegramTelethonPollResult × PollingState
  | .arrive m =>
      (none, { s with
        history := s.history ++ [m]
        waiting := if s.started then s.waiting ++ [m] else s.waiting })
  | .poll env request =>
      let (result, client, replies) :=
        pollOnce gateway env { request with offsetId := s.offsetId } s.history s.client s.replies
      match env.connected with
      | .error _ =>
          (some result, { s with
            started := true
            results := s.results ++ [result]
            replies := replies
            offsetId := result.nextOffsetId
            client := client })
      | .ok _ =>
          (some result, { s with
            started := true
            due := s.due ++ s.waiting
            waiting := []
            results := s.results ++ [result]
            replies := replies
            offsetId := result.nextOffsetId
            client := client })

end MediaCenter.MessengerAdapter
