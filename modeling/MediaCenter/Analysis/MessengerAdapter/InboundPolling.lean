import MediaCenter.Analysis.MessengerAdapter.TelegramAccounts
import MediaCenter.Model.MessengerAdapter.TelethonPolling

/-!
# Inbound polling

The cursor of a chain of polls is the largest id seen, and what is read lies below the cursor.
So a poll that has read something makes the next ones read the same again, and nothing new.  As
long as that does not happen, each text message is handled or failed by one poll.
-/

set_option autoImplicit false

namespace MediaCenter.MessengerAdapter

open MediaCenter.Library MediaCenter.Shared

/-! ## What a poll reads -/

/-- `_inbound_message_from_telethon` makes a message of it, or raises. -/
def TextWithSender (m : TelethonMessage) : Prop :=
  (telegramSenderId m).isSome ∧ (messageText m).isSome

instance (m : TelethonMessage) : Decidable (TextWithSender m) :=
  inferInstanceAs (Decidable (_ ∧ _))

/-- What `TelegramInboundMessage` asks of a message. -/
structure Accepted (m : TelethonMessage) : Prop where
  sender : ∀ u, telegramSenderId m = some u → telegramUserIdPattern (Text.trim u) = true
  text : ∀ t, messageText m = some t → hasLength 1 4096 (Text.trim t) = true
  chat : optionalField telegramChatIdPattern ((telegramChatId m).map Text.trim) = true

/-- The message lies below the cursor. -/
def Below (offsetId : Option ℕ) (m : TelethonMessage) : Prop :=
  match offsetId with
  | none => True
  | some k => k = 0 ∨ m.id < k

theorem mem_iterMessages {history : List TelethonMessage} {limit : ℕ} {offsetId : Option ℕ}
    {m : TelethonMessage} (h : m ∈ iterMessages history limit offsetId) : m ∈ history :=
  (List.mem_filter.mp (List.mem_reverse.mp (List.mem_of_mem_take h))).1

/-- The newest messages are read, if they are below the cursor and within the limit. -/
theorem mem_iterMessages_of_waiting {older waiting : List TelethonMessage} {limit : ℕ}
    {offsetId : Option ℕ} (hlimit : waiting.length ≤ limit) {m : TelethonMessage}
    (hm : m ∈ waiting) (hbelow : Below offsetId m) :
    m ∈ iterMessages (older ++ waiting) limit offsetId := by
  unfold iterMessages
  rw [List.filter_append, List.reverse_append, List.take_append]
  apply List.mem_append_left
  rw [List.take_of_length_le]
  · rw [List.mem_reverse, List.mem_filter]
    refine ⟨hm, ?_⟩
    cases offsetId with
    | none => rfl
    | some k =>
        simp only [Bool.or_eq_true, decide_eq_true_eq]
        exact hbelow
  · rw [List.length_reverse]
    exact le_trans (List.length_filter_le _ _) hlimit

theorem sorted_iterMessages {history : List TelethonMessage}
    (h : history.Pairwise fun a b => a.id < b.id) (limit : ℕ) (offsetId : Option ℕ) :
    (iterMessages history limit offsetId).Pairwise fun a b => b.id < a.id := by
  unfold iterMessages
  apply List.Pairwise.take
  rw [List.pairwise_reverse]
  exact h.filter _

theorem inboundMessageFromTelethon_of_not {request : TelegramTelethonPollRequest}
    {m : TelethonMessage} (h : ¬ TextWithSender m) (now : Instant) :
    inboundMessageFromTelethon request m now = .ok none := by
  unfold inboundMessageFromTelethon
  split
  · rename_i u t hu ht
    exact absurd ⟨by rw [hu]; rfl, by rw [ht]; rfl⟩ h
  · rfl

theorem exists_inboundMessage (request : TelegramTelethonPollRequest) {m : TelethonMessage}
    (h : TextWithSender m) (haccepted : Accepted m) (now : Instant) :
    ∃ inbound, inboundMessageFromTelethon request m now = .ok (some inbound) := by
  obtain ⟨hsender, htext⟩ := h
  obtain ⟨u, hu⟩ := Option.isSome_iff_exists.mp hsender
  obtain ⟨t, ht⟩ := Option.isSome_iff_exists.mp htext
  have htenant : Text.trim request.tenantId = request.tenantId :=
    trim_of_tokenPattern (tokenPattern_of_tenantIdPattern request.tenantId_pattern)
  have hcorrelation : Text.trim request.correlationId = request.correlationId :=
    trim_of_tokenPattern request.correlationId_pattern
  unfold inboundMessageFromTelethon
  rw [hu, ht]
  simp only
  rw [Validated.make_of_valid]
  · exact ⟨_, rfl⟩
  · simp only [InboundMessageFields.checks, List.forall_mem_cons]
    refine ⟨?_, haccepted.sender u hu, haccepted.text t ht, ?_, haccepted.chat,
      fun c hc => (by cases hc)⟩
    · rw [htenant]
      exact request.tenantId_pattern
    · rw [hcorrelation]
      exact request.correlationId_pattern

/-! ## What a poll reports -/

/-- A poll that handled these and failed those has the message among them. -/
def mentioned (handled : List TelegramTelethonHandledUpdate)
    (failed : List TelegramTelethonUpdateFailure) (id : ℕ) : Bool :=
  handled.any (fun h => decide (h.messageId = id)) ||
    failed.any fun f => decide (f.messageId = some id)

def PollState.mentions (s : PollState) (id : ℕ) : Bool := mentioned s.handled s.failed id

def TelegramTelethonPollResult.mentions (r : TelegramTelethonPollResult) (id : ℕ) : Bool :=
  mentioned r.handled r.failed id

section Polls

variable (gateway : TelegramClientGateway) (env : PollAmbient)
  (request : TelegramTelethonPollRequest)

theorem mentioned_concat_handled (handled : List TelegramTelethonHandledUpdate)
    (failed : List TelegramTelethonUpdateFailure) (h : TelegramTelethonHandledUpdate) (id : ℕ) :
    mentioned (handled ++ [h]) failed id = true ↔
      mentioned handled failed id = true ∨ h.messageId = id := by
  unfold mentioned
  simp only [List.any_append, List.any_cons, List.any_nil, Bool.or_false, Bool.or_eq_true,
    decide_eq_true_eq]
  tauto

theorem mentioned_concat_failed (handled : List TelegramTelethonHandledUpdate)
    (failed : List TelegramTelethonUpdateFailure) (f : TelegramTelethonUpdateFailure) (id : ℕ) :
    mentioned handled (failed ++ [f]) id = true ↔
      mentioned handled failed id = true ∨ f.messageId = some id := by
  unfold mentioned
  simp only [List.any_append, List.any_cons, List.any_nil, Bool.or_false, Bool.or_eq_true,
    decide_eq_true_eq]
  tauto

theorem messageId_updateFailureFromError (py : Stdlib) (error : BridgeError)
    (messageId : Option ℕ) :
    (updateFailureFromError py error messageId).messageId = messageId := by
  unfold updateFailureFromError
  split
  all_goals rfl

/-- **One message** is handled or failed, and answered at most once. -/
theorem handleInbound_spec (n : ℕ) (inbound : TelegramInboundMessage) (messageId : ℕ)
    (s : PollState) :
    (∀ id, (handleInbound gateway env request n inbound messageId s).mentions id = true ↔
      s.mentions id = true ∨ messageId = id) ∧
    (handleInbound gateway env request n inbound messageId s).nextOffsetId = s.nextOffsetId ∧
    ∃ sent : List SentReply,
      (handleInbound gateway env request n inbound messageId s).replies = s.replies ++ sent ∧
        List.Sublist (sent.map SentReply.replyTo) [messageId] := by
  have hfailed : ∀ (error : BridgeError) (client : TelegramClientState) (id : ℕ),
      PollState.mentions { s with
        client := client
        failed := s.failed ++ [updateFailureFromError gateway.py error (some messageId)] } id =
          true ↔ s.mentions id = true ∨ messageId = id := by
    intro error client id
    refine (mentioned_concat_failed _ _ _ _).trans ?_
    rw [messageId_updateFailureFromError, Option.some.injEq]
    rfl
  unfold handleInbound
  rcases Fallible.exec (handleUpdate gateway (env.update n) ⟨inbound, .omitted, none⟩) s.client
    with ⟨result, client⟩
  cases result with
  | error e =>
      exact ⟨hfailed (.client e) client, rfl, [], (List.append_nil _).symm, List.nil_sublist _⟩
  | ok exchange =>
      simp only
      cases hreply : reply env request n inbound messageId exchange.fields.reply.text
          s.replies with
      | error e =>
          exact ⟨hfailed e client, rfl, [], (List.append_nil _).symm, List.nil_sublist _⟩
      | ok replies =>
          refine ⟨fun id => mentioned_concat_handled _ _ _ id, rfl, ?_⟩
          unfold reply at hreply
          split at hreply
          · obtain ⟨u, _, hreply⟩ := bind_eq_ok_iff.mp hreply
            cases hreply
            exact ⟨[_], rfl, List.Sublist.refl _⟩
          · cases hreply
            exact ⟨[], (List.append_nil _).symm, List.nil_sublist _⟩

/-- INTERNAL: **the loop** handles or fails the text messages it reads, and answers each at most
once, provided that none of them is refused. -/
theorem pollMessages_spec {l : List TelethonMessage}
    (haccepted : ∀ m ∈ l, TextWithSender m → Accepted m) (n : ℕ) (s : PollState) :
    (∀ id, (pollMessages gateway env request n l s).mentions id = true ↔
      s.mentions id = true ∨ ∃ m ∈ l, TextWithSender m ∧ m.id = id) ∧
    (pollMessages gateway env request n l s).nextOffsetId =
      l.foldl (fun offsetId m => some (max (offsetId.getD 0) m.id)) s.nextOffsetId ∧
    ∃ sent : List SentReply,
      (pollMessages gateway env request n l s).replies = s.replies ++ sent ∧
        List.Sublist (sent.map SentReply.replyTo)
          ((l.filter fun m => decide (TextWithSender m)).map TelethonMessage.id) := by
  induction l generalizing n s with
  | nil =>
      refine ⟨fun id => ?_, rfl, [], (List.append_nil _).symm, List.nil_sublist _⟩
      rw [pollMessages]
      simp
  | cons m l ih =>
      have hrest := fun n s => ih (fun m' hm' => haccepted m' (List.mem_cons_of_mem m hm')) n s
      rw [pollMessages, List.foldl_cons]
      by_cases htext : TextWithSender m
      · obtain ⟨inbound, hinbound⟩ := exists_inboundMessage request htext
          (haccepted m List.mem_cons_self htext) (env.update n).now
        simp only [hinbound]
        obtain ⟨hmentions, hnext, sent, hsent, hsub⟩ := handleInbound_spec gateway env request n
          inbound m.id
          { s with nextOffsetId := some (max (s.nextOffsetId.getD 0) m.id) }
        obtain ⟨hmentions', hnext', sent', hsent', hsub'⟩ := hrest (n + 1)
          (handleInbound gateway env request n inbound m.id
            { s with nextOffsetId := some (max (s.nextOffsetId.getD 0) m.id) })
        refine ⟨?_, ?_, sent ++ sent', ?_, ?_⟩
        · intro id
          rw [hmentions' id, hmentions id, List.exists_mem_cons_iff, or_assoc]
          simp only [htext, true_and]
          rfl
        · rw [hnext', hnext]
        · rw [hsent', hsent, List.append_assoc]
        · rw [List.filter_cons_of_pos (by simpa using htext), List.map_cons, List.map_append]
          exact hsub.append hsub'
      · simp only [inboundMessageFromTelethon_of_not htext]
        obtain ⟨hmentions', hnext', sent', hsent', hsub'⟩ := hrest (n + 1)
          { s with nextOffsetId := some (max (s.nextOffsetId.getD 0) m.id) }
        refine ⟨?_, hnext', sent', hsent', ?_⟩
        · intro id
          rw [hmentions' id, List.exists_mem_cons_iff]
          simp only [htext, false_and, false_or]
          rfl
        · rw [List.filter_cons_of_neg (by simpa using htext)]
          exact hsub'

variable {env}

/-- **One poll** of a connected client. -/
theorem pollOnce_spec (history : List TelethonMessage) (hconnected : env.connected = .ok ())
    (haccepted : ∀ m ∈ iterMessages history request.limit request.offsetId,
      TextWithSender m → Accepted m)
    (client : TelegramClientState) (replies : List SentReply) :
    (∀ id, (pollOnce gateway env request history client replies).1.mentions id = true ↔
      ∃ m ∈ iterMessages history request.limit request.offsetId, TextWithSender m ∧ m.id = id) ∧
    (pollOnce gateway env request history client replies).1.nextOffsetId =
      (iterMessages history request.limit request.offsetId).foldl
        (fun offsetId m => some (max (offsetId.getD 0) m.id)) request.offsetId ∧
    ∃ sent : List SentReply,
      (pollOnce gateway env request history client replies).2.2 = replies ++ sent ∧
        List.Sublist (sent.map SentReply.replyTo)
          (((iterMessages history request.limit request.offsetId).filter
            fun m => decide (TextWithSender m)).map TelethonMessage.id) := by
  obtain ⟨hmentions, hnext, hsent⟩ := pollMessages_spec gateway env request haccepted 0
    ⟨client, replies, [], [], request.offsetId⟩
  unfold pollOnce
  simp only [hconnected]
  refine ⟨fun id => (hmentions id).trans ?_, hnext, hsent⟩
  simp [PollState.mentions, mentioned]

/-- A poll that is not connected reads nothing. -/
theorem pollOnce_of_error (history : List TelethonMessage) {e : BridgeError}
    (hconnected : env.connected = .error e) (client : TelegramClientState)
    (replies : List SentReply) :
    (∀ id, (pollOnce gateway env request history client replies).1.mentions id = false) ∧
      (pollOnce gateway env request history client replies).2.2 = replies := by
  unfold pollOnce
  simp only [hconnected]
  refine ⟨fun id => ?_, trivial⟩
  unfold TelegramTelethonPollResult.mentions mentioned
  simp [messageId_updateFailureFromError]

end Polls

/-! ## Chains of polls -/

/-- What is due has been handled or failed by one poll, and no message is answered twice. -/
structure ExactlyOnce (s : PollingState) : Prop where
  once : ∀ m ∈ s.due, TextWithSender m → s.results.countP (fun r => r.mentions m.id) = 1
  answered : (s.replies.map SentReply.replyTo).Nodup

/-- Ids increase, and at most as many messages arrive between two polls as one of them reads. -/
def Documented (s : PollingState) : PollingEvent → Prop
  | .arrive m => ∀ m' ∈ s.history, m'.id < m.id
  | .poll _ request => s.waiting.length ≤ request.limit

/-- A poll that is connected has what is new below its cursor, finds nothing there that has been
handled or failed before, and nothing that `TelegramInboundMessage` refuses. -/
def KeepsUp (s : PollingState) : PollingEvent → Prop
  | .arrive _ => True
  | .poll env request => env.connected = .ok () →
      (∀ m ∈ s.waiting, TextWithSender m → Below s.offsetId m) ∧
        ∀ m ∈ iterMessages s.history request.limit s.offsetId, TextWithSender m →
          (∀ r ∈ s.results, r.mentions m.id = false) ∧ Accepted m

structure PollingInvariant (s : PollingState) : Prop where
  sorted : s.history.Pairwise fun a b => a.id < b.id
  newest : ∃ older, s.history = older ++ s.waiting
  idle : s.started = false → s.waiting = []
  replied : ∀ sent ∈ s.replies, ∃ r ∈ s.results, r.mentions sent.replyTo = true
  exact : ExactlyOnce s

theorem pollingInvariant_initial {history : List TelethonMessage}
    (h : history.Pairwise fun a b => a.id < b.id) (offsetId : Option ℕ)
    (client : TelegramClientState) :
    PollingInvariant (PollingState.initial history offsetId client) where
  sorted := h
  newest := ⟨history, (List.append_nil history).symm⟩
  idle := fun _ => rfl
  replied := fun _ hsent => (by cases hsent)
  exact := ⟨fun _ hm => (by cases hm), List.nodup_nil⟩

section Chains

variable {gateway : TelegramClientGateway} {s : PollingState}

theorem PollingInvariant.arrive (h : PollingInvariant s) {m : TelethonMessage}
    (hnew : ∀ m' ∈ s.history, m'.id < m.id) :
    PollingInvariant (PollingState.step gateway s (.arrive m)).2 := by
  refine ⟨?_, ?_, ?_, h.replied, ⟨h.exact.once, h.exact.answered⟩⟩
  · show (s.history ++ [m]).Pairwise _
    rw [List.pairwise_append]
    refine ⟨h.sorted, List.pairwise_singleton _ m, ?_⟩
    intro m' hm' m'' hm''
    rw [List.mem_singleton.mp hm'']
    exact hnew m' hm'
  · obtain ⟨older, holder⟩ := h.newest
    show ∃ older, s.history ++ [m] = older ++ if s.started then s.waiting ++ [m] else s.waiting
    split
    · exact ⟨older, by rw [holder, List.append_assoc]⟩
    · rename_i hstarted
      rw [h.idle (Bool.not_eq_true _ ▸ hstarted)]
      exact ⟨s.history ++ [m], (List.append_nil _).symm⟩
  · intro hstarted
    have hidle : s.started = false := hstarted
    show (if s.started then s.waiting ++ [m] else s.waiting) = []
    rw [hidle]
    exact h.idle hidle

/-- INTERNAL: a new report adds itself to the count of the messages it has. -/
theorem countP_concat (results : List TelegramTelethonPollResult) (r : TelegramTelethonPollResult)
    (id : ℕ) :
    (results ++ [r]).countP (fun r => r.mentions id) =
      results.countP (fun r => r.mentions id) + if r.mentions id then 1 else 0 := by
  rw [List.countP_append, List.countP_singleton]

/-- INTERNAL: the chain with what a poll left behind. -/
def PollingState.withPolled (s : PollingState)
    (polled : TelegramTelethonPollResult × TelegramClientState × List SentReply) : PollingState :=
  { s with
    started := true
    results := s.results ++ [polled.1]
    replies := polled.2.2
    offsetId := polled.1.nextOffsetId
    client := polled.2.1 }

/-- INTERNAL: the chain after a poll that is connected. -/
theorem step_poll_of_ok {env : PollAmbient} (request : TelegramTelethonPollRequest)
    (hconnected : env.connected = .ok ()) :
    (PollingState.step gateway s (.poll env request)).2 =
      { s.withPolled (pollOnce gateway env { request with offsetId := s.offsetId } s.history
          s.client s.replies) with
        due := s.due ++ s.waiting
        waiting := [] } := by
  simp only [PollingState.step, hconnected, PollingState.withPolled]

/-- INTERNAL: the chain after a poll that is not. -/
theorem step_poll_of_error {env : PollAmbient} (request : TelegramTelethonPollRequest)
    {e : BridgeError} (hconnected : env.connected = .error e) :
    (PollingState.step gateway s (.poll env request)).2 =
      s.withPolled (pollOnce gateway env { request with offsetId := s.offsetId } s.history
        s.client s.replies) := by
  simp only [PollingState.step, hconnected, PollingState.withPolled]

theorem PollingInvariant.pollConnected (h : PollingInvariant s) {env : PollAmbient}
    {request : TelegramTelethonPollRequest} (hconnected : env.connected = .ok ())
    (hlimit : s.waiting.length ≤ request.limit)
    (hbelow : ∀ m ∈ s.waiting, TextWithSender m → Below s.offsetId m)
    (hread : ∀ m ∈ iterMessages s.history request.limit s.offsetId, TextWithSender m →
      (∀ r ∈ s.results, r.mentions m.id = false) ∧ Accepted m) :
    PollingInvariant (PollingState.step gateway s (.poll env request)).2 := by
  obtain ⟨hmentions, _, sent, hsent, hsub⟩ := pollOnce_spec gateway
    { request with offsetId := s.offsetId } s.history hconnected
    (fun m hm htext => (hread m hm htext).2) s.client s.replies
  rw [step_poll_of_ok request hconnected]
  generalize pollOnce gateway env { request with offsetId := s.offsetId } s.history s.client
    s.replies = polled at hmentions hsent ⊢
  -- What is answered is among what the poll reports.
  have hreported : ∀ id ∈ sent.map SentReply.replyTo, polled.1.mentions id = true := by
    intro id hid
    obtain ⟨m, hm, hkey⟩ := List.mem_map.mp (hsub.subset hid)
    obtain ⟨hm, htext⟩ := List.mem_filter.mp hm
    exact (hmentions id).mpr ⟨m, hm, of_decide_eq_true htext, hkey⟩
  -- What the poll reports has not been reported before.
  have hfresh : ∀ id, polled.1.mentions id = true → ∀ r ∈ s.results, r.mentions id = false := by
    intro id hid
    obtain ⟨m, hm, htext, hkey⟩ := (hmentions id).mp hid
    rw [← hkey]
    exact (hread m hm htext).1
  refine ⟨h.sorted, ⟨s.history, (List.append_nil _).symm⟩, fun hstarted => (by cases hstarted),
    ?_, ⟨?_, ?_⟩⟩
  · intro reply hreply
    change reply ∈ polled.2.2 at hreply
    rw [hsent] at hreply
    rcases List.mem_append.mp hreply with hreply | hreply
    · obtain ⟨r, hr, hmentioned⟩ := h.replied reply hreply
      exact ⟨r, List.mem_append_left _ hr, hmentioned⟩
    · exact ⟨polled.1, List.mem_append_right _ (List.mem_singleton_self _),
        hreported _ (List.mem_map_of_mem hreply)⟩
  · intro m hm htext
    show (s.results ++ [polled.1]).countP (fun r => r.mentions m.id) = 1
    rw [countP_concat]
    rcases List.mem_append.mp hm with hm | hm
    · have honce := h.exact.once m hm htext
      have hold : polled.1.mentions m.id = false := by
        by_contra hnew
        rw [Bool.not_eq_false] at hnew
        have hzero : s.results.countP (fun r => r.mentions m.id) = 0 := by
          rw [List.countP_eq_zero]
          intro r hr
          rw [hfresh m.id hnew r hr]
          exact Bool.false_ne_true
        omega
      rw [honce, hold]
      rfl
    · obtain ⟨older, holder⟩ := h.newest
      have hmem : m ∈ iterMessages s.history request.limit s.offsetId := by
        rw [holder]
        exact mem_iterMessages_of_waiting hlimit hm (hbelow m hm htext)
      have hnew : polled.1.mentions m.id = true := (hmentions m.id).mpr ⟨m, hmem, htext, rfl⟩
      have hzero : s.results.countP (fun r => r.mentions m.id) = 0 := by
        rw [List.countP_eq_zero]
        intro r hr
        rw [hfresh m.id hnew r hr]
        exact Bool.false_ne_true
      rw [hzero, hnew]
      rfl
  · show (polled.2.2.map SentReply.replyTo).Nodup
    rw [hsent, List.map_append, List.nodup_append]
    refine ⟨h.exact.answered, ?_, ?_⟩
    · apply hsub.nodup
      rw [List.Nodup, List.pairwise_map]
      exact ((sorted_iterMessages h.sorted _ _).filter _).imp fun hlt => (ne_of_lt hlt).symm
    · intro id hold id' hnew heq
      obtain ⟨reply, hreply, hkey⟩ := List.mem_map.mp hold
      obtain ⟨r, hr, hmentioned⟩ := h.replied reply hreply
      rw [hkey, heq, hfresh id' (hreported id' hnew) r hr] at hmentioned
      exact Bool.false_ne_true hmentioned

theorem PollingInvariant.pollUnconnected (h : PollingInvariant s) {env : PollAmbient}
    (request : TelegramTelethonPollRequest) {e : BridgeError} (hconnected : env.connected = .error e) :
    PollingInvariant (PollingState.step gateway s (.poll env request)).2 := by
  obtain ⟨hmentions, hreplies⟩ := pollOnce_of_error gateway
    { request with offsetId := s.offsetId } s.history hconnected s.client s.replies
  rw [step_poll_of_error request hconnected]
  generalize pollOnce gateway env { request with offsetId := s.offsetId } s.history s.client
    s.replies = polled at hmentions hreplies ⊢
  refine ⟨h.sorted, h.newest, fun hstarted => (by cases hstarted), ?_, ⟨?_, ?_⟩⟩
  · intro reply hreply
    change reply ∈ polled.2.2 at hreply
    rw [hreplies] at hreply
    obtain ⟨r, hr, hmentioned⟩ := h.replied reply hreply
    exact ⟨r, List.mem_append_left _ hr, hmentioned⟩
  · intro m hm htext
    show (s.results ++ [polled.1]).countP (fun r => r.mentions m.id) = 1
    rw [countP_concat, hmentions m.id, h.exact.once m hm htext]
    rfl
  · show (polled.2.2.map SentReply.replyTo).Nodup
    rw [hreplies]
    exact h.exact.answered

/-- **One event** that keeps up keeps every message handled once. -/
theorem PollingInvariant.step (h : PollingInvariant s) {e : PollingEvent}
    (hdocumented : Documented s e) (hkeeps : KeepsUp s e) :
    PollingInvariant (PollingState.step gateway s e).2 := by
  cases e with
  | arrive m => exact h.arrive hdocumented
  | poll env request =>
      cases hconnected : env.connected with
      | error e => exact h.pollUnconnected request hconnected
      | ok u =>
          obtain ⟨hbelow, hread⟩ := hkeeps hconnected
          exact h.pollConnected hconnected hdocumented hbelow hread

end Chains

/-- **Inbound polling** handles or fails each new text message by one poll and answers no message
twice, in every state of a run whose polls keep up. -/
theorem exactlyOnce_after (gateway : TelegramClientGateway) {history : List TelethonMessage}
    (hhistory : history.Pairwise fun a b => a.id < b.id) (offsetId : Option ℕ)
    (client : TelegramClientState) {events : List PollingEvent}
    (hdocumented : EachMeets (PollingState.step gateway) Documented
      (.initial history offsetId client) events)
    (hkeeps : EachMeets (PollingState.step gateway) KeepsUp (.initial history offsetId client)
      events) :
    ∀ earlier later, events = earlier ++ later →
      ExactlyOnce (after (PollingState.step gateway) (.initial history offsetId client)
        earlier) := by
  intro earlier later hsplit
  rw [hsplit, eachMeets_append] at hdocumented hkeeps
  apply PollingInvariant.exact
  exact after_induction (PollingState.step gateway) (fun s e => Documented s e ∧ KeepsUp s e)
    (fun _ _ h hfit => h.step hfit.1 hfit.2) (pollingInvariant_initial hhistory offsetId client)
    (hdocumented.1.and hkeeps.1)

/-! ### A message after another one -/

/-- INTERNAL: the chain after its first poll. -/
theorem step_poll_first (gateway : TelegramClientGateway) (client : TelegramClientState)
    {env : PollAmbient} (request : TelegramTelethonPollRequest) (history : List TelethonMessage)
    (hconnected : env.connected = .ok ())
    (haccepted : ∀ m ∈ iterMessages history request.limit none, TextWithSender m → Accepted m) :
    ∃ s result, (PollingState.step gateway (.initial history none client)
        (.poll env request)).2 = s ∧
      s.history = history ∧ s.started = true ∧ s.waiting = [] ∧ s.results = [result] ∧
      (∀ id, result.mentions id = true → ∃ m ∈ iterMessages history request.limit none, m.id = id) ∧
      s.offsetId = (iterMessages history request.limit none).foldl
        (fun offsetId m => some (max (offsetId.getD 0) m.id)) none := by
  obtain ⟨hmentions, hnext, _⟩ := pollOnce_spec gateway { request with offsetId := none } history
    hconnected haccepted client []
  refine ⟨_, _, step_poll_of_ok request hconnected, rfl, rfl, rfl, rfl, ?_, hnext⟩
  intro id hid
  obtain ⟨m, hm, _, hkey⟩ := (hmentions id).mp hid
  exact ⟨m, hm, hkey⟩

/-- A message that arrives once another one has been read is not reported by the next poll. -/
theorem not_exactlyOnce_of_later (gateway : TelegramClientGateway) (client : TelegramClientState)
    {env : PollAmbient} (request : TelegramTelethonPollRequest) {first later : TelethonMessage}
    (hconnected : env.connected = .ok ()) (hfirst : TextWithSender first → Accepted first)
    (hpos : 0 < first.id) (hlt : first.id < later.id) (htext : TextWithSender later) :
    ¬ ExactlyOnce (after (PollingState.step gateway) (.initial [first] none client)
      [.poll env request, .arrive later, .poll env request]) := by
  intro hexact
  have hone : iterMessages [first] request.limit none = [first] :=
    List.take_of_length_le request.limit_mem.1
  obtain ⟨s, result, hs, hhistory, hstarted, hwaiting, hresults, hfirstOnly, hoffset⟩ :=
    step_poll_first gateway client request [first] hconnected (by
      intro m hm
      rw [hone, List.mem_singleton] at hm
      rw [hm]
      exact hfirst)
  rw [hone] at hfirstOnly hoffset
  have hcursor : s.offsetId = some first.id := by
    rw [hoffset]
    show some (max 0 first.id) = some first.id
    rw [Nat.zero_max]
  rw [after, hs, after, after, step_poll_of_ok request hconnected, after] at hexact
  have hnone : iterMessages [first, later] request.limit (some first.id) = [] := by
    unfold iterMessages
    rw [List.filter_eq_nil_iff.mpr, List.reverse_nil, List.take_nil]
    intro m hm
    simp only [Bool.or_eq_true, decide_eq_true_eq, not_or, not_lt]
    simp only [List.mem_cons, List.not_mem_nil, or_false] at hm
    rcases hm with rfl | rfl
    · exact ⟨by omega, le_refl _⟩
    · exact ⟨by omega, le_of_lt hlt⟩
  obtain ⟨hmentions, _⟩ := pollOnce_spec gateway { request with offsetId := some first.id }
    [first, later] hconnected (fun m hm _ => by rw [hnone] at hm; cases hm) s.client s.replies
  have honce := hexact.once later
    (List.mem_append_right _ (by simp [PollingState.step, hstarted, hwaiting])) htext
  simp only [PollingState.withPolled, PollingState.step, hhistory, hresults, hcursor,
    List.singleton_append] at honce
  rw [List.countP_eq_zero.mpr] at honce
  · exact absurd honce (by decide)
  · intro r hr
    simp only [List.mem_cons, List.not_mem_nil, or_false] at hr
    rcases hr with rfl | rfl
    · intro hmentioned
      obtain ⟨m, hm, hkey⟩ := hfirstOnly later.id hmentioned
      rw [List.mem_singleton.mp hm] at hkey
      exact absurd hkey (ne_of_lt hlt)
    · intro hmentioned
      obtain ⟨m, hm, _⟩ := (hmentions later.id).mp hmentioned
      rw [hnone] at hm
      cases hm

namespace PollingSample

def message (id : ℕ) : TelethonMessage where
  id := id
  senderId := .int 100
  fromUserId := .absent
  chatId := .int 100
  rawText := .str "/status"
  message := .absent
  text := .absent
  date := some 0

theorem textWithSender_message (id : ℕ) : TextWithSender (message id) := by
  have hsender : (telegramSenderId (message 0)).isSome ∧ (messageText (message 0)).isSome := by
    decide
  exact hsender

theorem accepted_message (id : ℕ) : Accepted (message id) where
  sender := by
    intro u hu
    cases hu
    decide
  text := by
    have htext : messageText (message 0) = some "/status" := by decide
    intro t ht
    have heq : some t = some "/status" := ht.symm.trans htext
    rw [Option.some.inj heq]
    decide
  chat := by
    have hchat : optionalField telegramChatIdPattern ((telegramChatId (message 0)).map Text.trim) =
        true := by decide
    exact hchat

def request : TelegramTelethonPollRequest where
  tenantId := "coop-alpha"
  sessionRef := "session-1"
  source := "@media"
  correlationId := "corr-1"
  limit := 50
  offsetId := none
  replyToMessages := true
  tenantId_pattern := by decide
  sessionRef_pattern := by decide
  source_length := by decide
  correlationId_pattern := by decide
  limit_mem := by decide

def ambient : PollAmbient := ⟨.ok (), fun _ => TelegramSample.ambient, fun _ _ => .ok ()⟩

theorem connected_ambient : ambient.connected = .ok () := rfl

/-- An empty chat is polled, a message arrives, and the chat is polled again. -/
def events : List PollingEvent :=
  [.poll ambient request, .arrive (message 1), .poll ambient request]

theorem fits_events :
    EachMeets (PollingState.step TelegramSample.gateway) Documented (.initial [] none .initial)
      events ∧
    EachMeets (PollingState.step TelegramSample.gateway) KeepsUp (.initial [] none .initial)
      events := by
  have hempty : iterMessages [] request.limit none = [] := rfl
  obtain ⟨s, result, hs, hhistory, hstarted, hwaiting, hresults, hmentions, hoffset⟩ :=
    step_poll_first TelegramSample.gateway .initial request [] connected_ambient
      (fun m hm => (by cases hm))
  rw [hempty] at hmentions hoffset
  have hunread : result.mentions 1 = false := by
    by_contra hread
    obtain ⟨m, hm, _⟩ := hmentions 1 (Bool.not_eq_false _ ▸ hread)
    cases hm
  constructor
  · refine ⟨Nat.zero_le _, ?_, ?_, trivial⟩
    · rw [hs]
      intro m hm
      rw [hhistory] at hm
      cases hm
    · rw [hs]
      show (PollingState.step TelegramSample.gateway s (.arrive (message 1))).2.waiting.length ≤ 50
      simp [PollingState.step, hstarted, hwaiting]
  · refine ⟨?_, trivial, ?_, trivial⟩
    · exact fun _ => ⟨fun m hm => (by cases hm), fun m hm => (by cases hm)⟩
    · rw [hs]
      intro _
      simp only [PollingState.step, hstarted, hwaiting, hhistory, hresults, hoffset]
      refine ⟨fun m _ _ => trivial, fun m hm _ => ?_⟩
      have hmessage : m = message 1 := List.mem_singleton.mp (mem_iterMessages hm)
      rw [hmessage]
      refine ⟨fun r hr => ?_, accepted_message 1⟩
      rw [List.mem_singleton.mp hr]
      exact hunread

end PollingSample

open PollingSample in
/-- The theorem at a chat that gets its first message between two polls. -/
theorem exactlyOnce_after_events : ExactlyOnce
    (after (PollingState.step TelegramSample.gateway) (.initial [] none .initial) events) :=
  exactlyOnce_after TelegramSample.gateway List.Pairwise.nil none .initial fits_events.1
    fits_events.2 events [] (List.append_nil _).symm

open PollingSample in
/-- The chat has a message when it is polled first; the next one is never read. -/
theorem not_exactlyOnce_second : ¬ ∀ (gateway : TelegramClientGateway)
    (history : List TelethonMessage), history.Pairwise (fun a b => a.id < b.id) →
    ∀ (offsetId : Option ℕ) (client : TelegramClientState) (events : List PollingEvent),
      EachMeets (PollingState.step gateway) Documented (.initial history offsetId client) events →
      ∀ earlier later, events = earlier ++ later →
        ExactlyOnce (after (PollingState.step gateway) (.initial history offsetId client)
          earlier) := by
  intro hall
  have hdocumented : EachMeets (PollingState.step TelegramSample.gateway) Documented
      (.initial [message 5] none .initial)
      [.poll ambient request, .arrive (message 6), .poll ambient request] := by
    have hone : iterMessages [message 5] request.limit none = [message 5] :=
      List.take_of_length_le request.limit_mem.1
    obtain ⟨s, result, hs, hhistory, hstarted, hwaiting, _⟩ :=
      step_poll_first TelegramSample.gateway .initial request [message 5] connected_ambient
        (by
          intro m hm _
          rw [hone, List.mem_singleton] at hm
          rw [hm]
          exact accepted_message 5)
    refine ⟨Nat.zero_le _, ?_, ?_, trivial⟩
    · rw [hs]
      intro m hm
      rw [hhistory, List.mem_singleton] at hm
      rw [hm]
      exact Nat.lt_succ_self 5
    · rw [hs]
      show (PollingState.step TelegramSample.gateway s (.arrive (message 6))).2.waiting.length ≤ 50
      simp [PollingState.step, hstarted, hwaiting]
  exact not_exactlyOnce_of_later TelegramSample.gateway .initial request rfl
    (fun _ => accepted_message 5) (by decide) (by decide) (textWithSender_message 6)
    (hall TelegramSample.gateway [message 5] (List.pairwise_singleton _ _) none .initial _
      hdocumented _ [] (List.append_nil _).symm)

end MediaCenter.MessengerAdapter
