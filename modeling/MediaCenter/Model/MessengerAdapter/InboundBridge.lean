import MediaCenter.Library.Decimal
import MediaCenter.Model.MessengerAdapter.TelethonPolling

/-!
# The inbound bridge and raw messages (`messenger_adapter/telegram_telethon.py`)

`poll_once` over what `iter_messages` yields, whatever the attributes of a message hold, with any
answers of the gateway and of the client that sends the replies.
-/

set_option autoImplicit false

namespace MediaCenter.MessengerAdapter

open MediaCenter.Library MediaCenter.Shared

/-- A message as Telethon yields it; `date` is absent unless it is a `datetime`. -/
structure RawMessage where
  id : TelethonValue
  senderId : TelethonValue
  fromUserId : TelethonValue
  chatId : TelethonValue
  rawText : TelethonValue
  message : TelethonValue
  text : TelethonValue
  date : Option PyDatetime
  deriving DecidableEq

/-- What the helpers for the sender, the chat and the text read. -/
def RawMessage.attributes (m : RawMessage) : TelethonMessage where
  id := 0
  senderId := m.senderId
  fromUserId := m.fromUserId
  chatId := m.chatId
  rawText := m.rawText
  message := m.message
  text := m.text
  date := none

/-- `_message_id`. -/
def rawMessageId (m : RawMessage) : Except SharedException (Option ℤ) :=
  match m.id with
  | .int n => .ok (some n)
  | .str s =>
      if s ≠ "" ∧ s.toList.all Text.isDigit = true then
        match Decimal.parseInt s with
        | some n => .ok (some n)
        | none => .error (.valueError "invalid literal for int() with base 10")
      else .ok none
  | _ => .ok none

/-- `_message_datetime`, with the clock as it stands in for a missing date. -/
def rawMessageDatetime (m : RawMessage) (fallback : Instant) : Except SharedException Instant :=
  match m.date with
  | none => .ok fallback
  | some d => normalizeDatetime d

/-- `_inbound_message_from_telethon`. -/
def rawInboundMessage (request : TelegramTelethonPollRequest) (m : RawMessage) (now : Instant) :
    Except SharedException (Option TelegramInboundMessage) :=
  match telegramSenderId m.attributes, messageText m.attributes with
  | some telegramUserId, some text => do
      let receivedAt ← rawMessageDatetime m now
      (Validated.make "TelegramInboundMessage" InboundMessageFields.checks
        { tenantId := Text.trim request.tenantId
          telegramUserId := Text.trim telegramUserId
          text := Text.trim text
          correlationId := Text.trim request.correlationId
          chatId := (telegramChatId m.attributes).map Text.trim
          receivedAt := some receivedAt }).map some
  | _, _ => .ok none

/-- What the gateway and the sending client answer to the message at a position. -/
structure BridgePattern where
  now : ℕ → Instant
  handleUpdate : ℕ → TelegramInboundMessage → Except BridgeError TelegramClientExchange
  /-- `rate_limiter.acquire` and `client.send_message(target, text, reply_to=id)`. -/
  send : ℕ → String → String → Option ℤ → Except BridgeError Unit

/-- `next_offset_id` after a message, the largest id so far. -/
def nextOffset (nextOffsetId : Option ℤ) : Option ℤ → Option ℤ
  | none => nextOffsetId
  | some messageId => some (max (nextOffsetId.getD 0) messageId)

structure BridgeState where
  handled : List TelegramTelethonHandledUpdate
  failed : List TelegramTelethonUpdateFailure
  nextOffsetId : Option ℤ

section Bridge

variable (py : Stdlib) (pattern : BridgePattern) (request : TelegramTelethonPollRequest)

/-- The body of the inner `try`: `handle_update` and `_reply`. -/
def attemptInbound (n : ℕ) (inbound : TelegramInboundMessage) (messageId : Option ℤ) :
    Except BridgeError TelegramClientExchange := do
  let exchange ← pattern.handleUpdate n inbound
  if request.replyToMessages then
    pattern.send n (orDefault inbound.fields.chatId inbound.fields.telegramUserId)
      exchange.fields.reply.text messageId
  return exchange

/-- `TelegramTelethonHandledUpdate(...)`. -/
def newHandledUpdate (messageId : Option ℤ) (exchange : TelegramClientExchange) :
    Except SharedException TelegramTelethonHandledUpdate :=
  if 0 ≤ messageId.getD 0 then
    .ok ⟨(messageId.getD 0).toNat, exchange.fields.telegramUserRefHash, exchange.fields.scenario,
      request.replyToMessages, exchange.fields.auditHash⟩
  else .error (.validationError "TelegramTelethonHandledUpdate" ["message_id"])

/-- `_update_failure_from_error`, with the checks of `TelegramTelethonUpdateFailure`. -/
def newUpdateFailure (error : BridgeError) (messageId : Option ℤ) :
    Except SharedException TelegramTelethonUpdateFailure :=
  let failure := updateFailureFromError py error (messageId.map Int.toNat)
  let checks := [("message_id", messageId.all fun id => decide (0 ≤ id)),
    ("error_code", hasLength 1 128 (Text.trim failure.errorCode))]
  if checks.all Prod.snd = true then .ok { failure with errorCode := Text.trim failure.errorCode }
  else .error (.validationError "TelegramTelethonUpdateFailure"
    ((checks.filter fun c => !c.2).map Prod.fst))

/-- The body of the loop: what leaves it, if something does, and what is collected. -/
def bridgeStep (n : ℕ) (m : RawMessage) (s : BridgeState) :
    Except SharedException Unit × BridgeState :=
  match rawMessageId m with
  | .error e => (.error e, s)
  | .ok messageId =>
      let s := { s with nextOffsetId := nextOffset s.nextOffsetId messageId }
      match rawInboundMessage request m (pattern.now n) with
      | .error e => (.error e, s)
      | .ok none => (.ok (), s)
      | .ok (some inbound) =>
          match attemptInbound pattern request n inbound messageId with
          | .error error =>
              match newUpdateFailure py error messageId with
              | .error e => (.error e, s)
              | .ok failure => (.ok (), { s with failed := s.failed ++ [failure] })
          | .ok exchange =>
              match newHandledUpdate request messageId exchange with
              | .error e => (.error e, s)
              | .ok update => (.ok (), { s with handled := s.handled ++ [update] })

/-- The loop; an exception that leaves its body ends it. -/
def bridgeLoop : ℕ → List RawMessage → BridgeState → Except SharedException Unit × BridgeState
  | _, [], s => (.ok (), s)
  | n, m :: rest, s =>
      match bridgeStep py pattern request n m s with
      | (.error e, s) => (.error e, s)
      | (.ok _, s) => bridgeLoop (n + 1) rest s

/-- What the outer `except` adds. -/
def caughtFailure (outcome : Except SharedException Unit) : List TelegramTelethonUpdateFailure :=
  match outcome with
  | .error e => [updateFailureFromError py (.client (.shared e)) none]
  | .ok _ => []

/-- `poll_once`, of a client that is connected and yields the messages. -/
def bridgePoll (messages : List RawMessage) : TelegramTelethonPollResult :=
  let (outcome, s) := bridgeLoop py pattern request 0 messages
    ⟨[], [], request.offsetId.map Int.ofNat⟩
  ⟨request.tenantId, scopedHash py request.tenantId request.sessionRef,
    scopedHash py request.tenantId request.source, s.handled, s.failed ++ caughtFailure py outcome,
    s.nextOffsetId.map Int.toNat⟩

end Bridge

end MediaCenter.MessengerAdapter
