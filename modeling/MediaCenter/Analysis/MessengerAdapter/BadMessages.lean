import MediaCenter.Analysis.MessengerAdapter.InboundPolling
import MediaCenter.Model.MessengerAdapter.InboundBridge

/-!
# Messages that end a poll

A message that the gateway or the reply fails on is reported, and the poll goes on.  A message
that is refused before the gateway sees it, or whose report is refused, ends the poll.
-/

set_option autoImplicit false

namespace MediaCenter.MessengerAdapter

open MediaCenter.Library MediaCenter.Shared

/-- The id of a message, where it can be read. -/
def readId (m : RawMessage) : Option ℤ := (rawMessageId m).toOption.join

section Reports

variable (py : Stdlib) (pattern : BridgePattern) (request : TelegramTelethonPollRequest)

/-- `handle_update` and the reply both return for the message at a position. -/
def answered (n : ℕ) (m : RawMessage) : Bool :=
  match rawInboundMessage request m (pattern.now n) with
  | .ok (some inbound) => (attemptInbound pattern request n inbound (readId m)).toBool
  | _ => false

/-- The poll has gone through the messages.  Each text with a sender is reported once, under the
id of its message: as handled if it was answered, else as failed.  The cursor is the largest of
the ids and the offset. -/
structure Accounted (messages : List RawMessage) : Prop where
  whole : (bridgeLoop py pattern request 0 messages
    ⟨[], [], request.offsetId.map Int.ofNat⟩).1 = .ok ()
  handled : (bridgePoll py pattern request messages).handled.map (fun u => (u.messageId : ℤ)) =
    (messages.zipIdx.filter fun e => answered pattern request e.2 e.1).map fun e =>
      (readId e.1).getD 0
  failed : (bridgePoll py pattern request messages).failed.map
      (fun f => f.messageId.map Int.ofNat) =
    (messages.zipIdx.filter fun e => decide (TextWithSender e.1.attributes) &&
      !answered pattern request e.2 e.1).map fun e => readId e.1
  cursor : (bridgePoll py pattern request messages).nextOffsetId.map Int.ofNat =
    (request.offsetId.toList.map Int.ofNat ++ messages.filterMap readId).max?

/-- The id can be read, and where the message is a text with a sender, it is accepted, its date is
in range, its id is not negative, and a publication error it meets has a code that fits. -/
def FitMessage (n : ℕ) (m : RawMessage) : Prop :=
  ∃ id, rawMessageId m = .ok id ∧ (TextWithSender m.attributes →
    (Accepted m.attributes ∧ ∃ t, rawMessageDatetime m (pattern.now n) = .ok t) ∧
      (∀ k ∈ id, 0 ≤ k) ∧
      ∀ inbound, rawInboundMessage request m (pattern.now n) = .ok (some inbound) →
        ∀ code retryable, attemptInbound pattern request n inbound id =
          .error (.publication code retryable) → hasLength 1 128 (Text.trim code) = true)

/-- Zero, which stands in for a missing offset, is not above all ids. -/
def FitOffset (messages : List RawMessage) : Prop :=
  request.offsetId = none → messages.filterMap readId ≠ [] →
    ∃ id ∈ messages.filterMap readId, 0 ≤ id

end Reports

/-! ## One message -/

section Step

variable {py : Stdlib} {pattern : BridgePattern} {request : TelegramTelethonPollRequest} {n : ℕ}
  {m : RawMessage}

theorem rawInboundMessage_of_not (h : ¬ TextWithSender m.attributes) (now : Instant) :
    rawInboundMessage request m now = .ok none := by
  unfold rawInboundMessage
  split
  · rename_i u t hu ht
    exact absurd ⟨by rw [hu]; rfl, by rw [ht]; rfl⟩ h
  · rfl

/-- The fields of the message that a text becomes. -/
def inboundFields (request : TelegramTelethonPollRequest) (m : RawMessage)
    (telegramUserId text : String) (receivedAt : Instant) : InboundMessageFields where
  tenantId := Text.trim request.tenantId
  telegramUserId := Text.trim telegramUserId
  text := Text.trim text
  correlationId := Text.trim request.correlationId
  chatId := (telegramChatId m.attributes).map Text.trim
  receivedAt := some receivedAt

theorem rawInboundMessage_eq {u t : String} (hu : telegramSenderId m.attributes = some u)
    (ht : messageText m.attributes = some t) (now : Instant) :
    rawInboundMessage request m now = (rawMessageDatetime m now).bind fun receivedAt =>
      (Validated.make "TelegramInboundMessage" InboundMessageFields.checks
        (inboundFields request m u t receivedAt)).map some := by
  unfold rawInboundMessage
  rw [hu, ht]
  rfl

theorem checks_inboundFields (u t : String) (receivedAt : Instant) :
    (∀ c ∈ InboundMessageFields.checks (inboundFields request m u t receivedAt), c.2 = true) ↔
      telegramUserIdPattern (Text.trim u) = true ∧ hasLength 1 4096 (Text.trim t) = true ∧
        optionalField telegramChatIdPattern ((telegramChatId m.attributes).map Text.trim) =
          true := by
  have htenant : tenantIdPattern (Text.trim request.tenantId) = true := by
    rw [trim_of_tokenPattern (tokenPattern_of_tenantIdPattern request.tenantId_pattern)]
    exact request.tenantId_pattern
  have hcorrelation : tokenPattern (Text.trim request.correlationId) = true := by
    rw [trim_of_tokenPattern request.correlationId_pattern]
    exact request.correlationId_pattern
  unfold InboundMessageFields.checks inboundFields
  simp only [List.forall_mem_cons, htenant, hcorrelation]
  constructor
  · rintro ⟨_, hu, ht, _, hchat, _⟩
    exact ⟨hu, ht, hchat⟩
  · rintro ⟨hu, ht, hchat⟩
    exact ⟨trivial, hu, ht, trivial, hchat, (fun _ h => by cases h)⟩

/-- INTERNAL: a text with a sender becomes a message exactly if it is accepted. -/
theorem rawInboundMessage_cases (h : TextWithSender m.attributes) (now : Instant) :
    (∃ inbound, rawInboundMessage request m now = .ok (some inbound) ∧ Accepted m.attributes ∧
        ∃ t, rawMessageDatetime m now = .ok t) ∨
      ∃ e, rawInboundMessage request m now = .error e ∧
        ¬ (Accepted m.attributes ∧ ∃ t, rawMessageDatetime m now = .ok t) := by
  obtain ⟨u, hu⟩ := Option.isSome_iff_exists.mp h.1
  obtain ⟨t, ht⟩ := Option.isSome_iff_exists.mp h.2
  have haccepted : Accepted m.attributes ↔ telegramUserIdPattern (Text.trim u) = true ∧
      hasLength 1 4096 (Text.trim t) = true ∧
        optionalField telegramChatIdPattern ((telegramChatId m.attributes).map Text.trim) =
          true := by
    constructor
    · exact fun h => ⟨h.sender u hu, h.text t ht, h.chat⟩
    · rintro ⟨hsender, htext, hchat⟩
      refine ⟨fun v hv => ?_, fun v hv => ?_, hchat⟩
      · obtain rfl := Option.some.inj (hv.symm.trans hu)
        exact hsender
      · obtain rfl := Option.some.inj (hv.symm.trans ht)
        exact htext
  rw [rawInboundMessage_eq hu ht]
  cases hdate : rawMessageDatetime m now with
  | error e =>
      right
      refine ⟨e, rfl, ?_⟩
      rintro ⟨_, t, ht⟩
      cases ht
  | ok receivedAt =>
      by_cases hvalid : ∀ c ∈ InboundMessageFields.checks (inboundFields request m u t receivedAt),
          c.2 = true
      · left
        have hmade := Validated.make_of_valid "TelegramInboundMessage" _ hvalid
        refine ⟨⟨_, hvalid⟩, ?_, haccepted.mpr ((checks_inboundFields _ _ _).mp hvalid),
          receivedAt, rfl⟩
        rw [Except.bind, hmade]
        rfl
      · right
        cases hmade : Validated.make "TelegramInboundMessage" InboundMessageFields.checks
            (inboundFields request m u t receivedAt) with
        | ok made =>
            exact absurd ((Validated.exists_make_eq_ok_iff _ _).mp ⟨made, hmade⟩) hvalid
        | error e =>
            refine ⟨e, ?_, fun haccept => hvalid ((checks_inboundFields _ _ _).mpr
              (haccepted.mp haccept.1))⟩
            rw [Except.bind, hmade]
            rfl

theorem readId_of_ok {id : Option ℤ} (h : rawMessageId m = .ok id) : readId m = id := by
  unfold readId
  rw [h]
  rfl

/-- INTERNAL: the report of any error but a publication error has a code that fits. -/
theorem errorCode_fits (error : BridgeError) (messageId : Option ℕ) :
    hasLength 1 128 (Text.trim (updateFailureFromError py error messageId).errorCode) = true ↔
      ∀ code retryable, error = .publication code retryable →
        hasLength 1 128 (Text.trim code) = true := by
  have htelethon : ∀ className saysRetryAfter, hasLength 1 128 (Text.trim
      (publicationErrorFromTelethon py className saysRetryAfter).1) = true := by
    intro className saysRetryAfter
    unfold publicationErrorFromTelethon
    split_ifs
    all_goals decide
  unfold updateFailureFromError
  cases error with
  | publication code retryable =>
      simp only [BridgeError.publication.injEq]
      constructor
      · rintro h _ _ ⟨rfl, _⟩
        exact h
      · exact fun h => h code retryable ⟨rfl, rfl⟩
  | telethon className saysRetryAfter =>
      exact iff_of_true (htelethon _ _) (fun _ _ h => by cases h)
  | client e =>
      have hlinked : hasLength 1 128 (Text.trim "account_not_linked") = true := by decide
      have hfailed : hasLength 1 128 (Text.trim "client_gateway_failed") = true := by
        decide
      refine iff_of_true ?_ (fun _ _ h => by cases h)
      split
      · exact hlinked
      · exact hfailed
      · exact htelethon _ _
      · rename_i h
        cases h
      · rename_i h
        cases h

theorem newUpdateFailure_eq_ok_iff {error : BridgeError} {id : Option ℤ}
    {failure : TelegramTelethonUpdateFailure} :
    newUpdateFailure py error id = .ok failure ↔ ((∀ k ∈ id, 0 ≤ k) ∧
      ∀ code retryable, error = .publication code retryable →
        hasLength 1 128 (Text.trim code) = true) ∧ failure =
          { updateFailureFromError py error (id.map Int.toNat) with
            errorCode :=
              Text.trim (updateFailureFromError py error (id.map Int.toNat)).errorCode } := by
  rw [← errorCode_fits error (id.map Int.toNat)]
  unfold newUpdateFailure
  simp only [List.all_cons, List.all_nil, Bool.and_true, Bool.and_eq_true, Option.all_eq_true,
    decide_eq_true_iff, Option.mem_def]
  split_ifs with hfits
  · rw [Except.ok.injEq]
    exact ⟨fun h => ⟨hfits, h.symm⟩, fun h => h.2.symm⟩
  · exact ⟨(fun h => by cases h), fun h => absurd h.1 hfits⟩

theorem newHandledUpdate_eq_ok_iff {id : Option ℤ} {exchange : TelegramClientExchange}
    {update : TelegramTelethonHandledUpdate} :
    newHandledUpdate request id exchange = .ok update ↔ (∀ k ∈ id, 0 ≤ k) ∧ update =
      ⟨(id.getD 0).toNat, exchange.fields.telegramUserRefHash, exchange.fields.scenario,
        request.replyToMessages, exchange.fields.auditHash⟩ := by
  have hnonneg : (∀ k ∈ id, 0 ≤ k) ↔ 0 ≤ id.getD 0 := by cases id <;> simp
  rw [hnonneg]
  unfold newHandledUpdate
  split_ifs with h
  · rw [Except.ok.injEq]
    exact ⟨fun hsame => ⟨h, hsame.symm⟩, fun hsame => hsame.2.symm⟩
  · exact ⟨(fun h => by cases h), fun hsame => absurd hsame.1 h⟩

theorem map_toNat_of_nonneg {id : Option ℤ} (h : ∀ k ∈ id, 0 ≤ k) :
    (id.map Int.toNat).map Int.ofNat = id := by
  cases id with
  | none => rfl
  | some k => exact congrArg some (Int.toNat_of_nonneg (h k rfl))

theorem getD_nonneg {id : Option ℤ} (h : ∀ k ∈ id, 0 ≤ k) : 0 ≤ id.getD 0 := by
  cases id with
  | none => exact le_refl 0
  | some k => exact h k rfl

/-- INTERNAL: one message either ends the loop or is reported as it should. -/
theorem bridgeStep_cases (s : BridgeState) :
    (¬ FitMessage pattern request n m ∧
      ∃ e s', bridgeStep py pattern request n m s = (.error e, s')) ∨
    (FitMessage pattern request n m ∧ ∃ updates failures,
      bridgeStep py pattern request n m s = (.ok (), ⟨s.handled ++ updates, s.failed ++ failures,
        nextOffset s.nextOffsetId (readId m)⟩) ∧
      (updates.map fun u => (u.messageId : ℤ)) =
        (if answered pattern request n m then [(readId m).getD 0] else []) ∧
      (failures.map fun f => f.messageId.map Int.ofNat) =
        (if decide (TextWithSender m.attributes) && !answered pattern request n m then [readId m]
          else [])) := by
  unfold bridgeStep
  cases hid : rawMessageId m with
  | error e =>
      left
      refine ⟨?_, e, s, rfl⟩
      rintro ⟨id, hok, _⟩
      rw [hid] at hok
      cases hok
  | ok id =>
      have hread := readId_of_ok hid
      by_cases htext : TextWithSender m.attributes
      · rcases @rawInboundMessage_cases request m htext (pattern.now n) with
          ⟨inbound, hinbound, haccepted⟩ | ⟨e, hinbound, hrefused⟩
        · simp only [hinbound]
          have hanswered : answered pattern request n m =
              (attemptInbound pattern request n inbound id).toBool := by
            unfold answered
            rw [hinbound, hread]
          have hfits : FitMessage pattern request n m ↔ (∀ k ∈ id, 0 ≤ k) ∧
              ∀ code retryable, attemptInbound pattern request n inbound id =
                .error (.publication code retryable) → hasLength 1 128 (Text.trim code) = true := by
            constructor
            · rintro ⟨id', hid', hfits⟩
              rw [hid, Except.ok.injEq] at hid'
              subst hid'
              obtain ⟨_, hnonneg, hcodes⟩ := hfits htext
              exact ⟨hnonneg, hcodes inbound hinbound⟩
            · rintro ⟨hnonneg, hcodes⟩
              refine ⟨id, hid, fun _ => ⟨haccepted, hnonneg, fun other hother => ?_⟩⟩
              rw [hinbound, Except.ok.injEq, Option.some.injEq] at hother
              subst hother
              exact hcodes
          rw [hfits, hanswered, decide_eq_true htext, hread]
          cases hattempt : attemptInbound pattern request n inbound id with
          | error error =>
              simp only [Except.error.injEq]
              cases hfailure : newUpdateFailure py error id with
              | error e =>
                  left
                  refine ⟨fun h => ?_, e, _, rfl⟩
                  have hok : newUpdateFailure py error id = .ok _ :=
                    newUpdateFailure_eq_ok_iff.mpr ⟨h, rfl⟩
                  rw [hfailure] at hok
                  cases hok
              | ok failure =>
                  right
                  obtain ⟨hall, hsame⟩ := newUpdateFailure_eq_ok_iff.mp hfailure
                  refine ⟨hall, [], [failure], ?_, rfl, ?_⟩
                  · rw [List.append_nil]
                  · rw [List.map_singleton, hsame]
                    simp only [messageId_updateFailureFromError]
                    rw [map_toNat_of_nonneg hall.1]
                    rfl
          | ok exchange =>
              simp only
              cases hupdate : newHandledUpdate request id exchange with
              | error e =>
                  left
                  refine ⟨fun h => ?_, e, _, rfl⟩
                  have hok : newHandledUpdate request id exchange = .ok _ :=
                    newHandledUpdate_eq_ok_iff.mpr ⟨h.1, rfl⟩
                  rw [hupdate] at hok
                  cases hok
              | ok update =>
                  right
                  obtain ⟨hnonneg, hsame⟩ := newHandledUpdate_eq_ok_iff.mp hupdate
                  refine ⟨⟨hnonneg, (fun _ _ h => by cases h)⟩, [update], [], ?_, ?_, rfl⟩
                  · rw [List.append_nil]
                  · rw [List.map_singleton, hsame]
                    simp only
                    rw [Int.toNat_of_nonneg (getD_nonneg hnonneg)]
                    rfl
        · left
          simp only [hinbound]
          refine ⟨?_, e, _, rfl⟩
          rintro ⟨_, _, hfits⟩
          exact hrefused (hfits htext).1
      · right
        simp only [rawInboundMessage_of_not htext]
        refine ⟨⟨id, hid, fun h => absurd h htext⟩, [], [], ?_, ?_, ?_⟩
        · rw [List.append_nil, List.append_nil, hread]
        · unfold answered
          rw [rawInboundMessage_of_not htext]
          rfl
        · rw [decide_eq_false htext]
          rfl

end Step

/-! ## The loop -/

section Loop

variable {py : Stdlib} {pattern : BridgePattern} {request : TelegramTelethonPollRequest}

/-- INTERNAL: the loop goes through the messages exactly if each of them fits. -/
theorem bridgeLoop_ok_iff (n : ℕ) (messages : List RawMessage) (s : BridgeState) :
    (bridgeLoop py pattern request n messages s).1 = .ok () ↔
      ∀ e ∈ messages.zipIdx n, FitMessage pattern request e.2 e.1 := by
  induction messages generalizing n s with
  | nil =>
      rw [List.zipIdx_nil]
      exact iff_of_true rfl (List.forall_mem_nil _)
  | cons m rest ih =>
      rw [List.zipIdx_cons, List.forall_mem_cons]
      unfold bridgeLoop
      rcases @bridgeStep_cases py pattern request n m s with
        ⟨hnot, e, s', hstep⟩ | ⟨hfits, updates, failures, hstep, _⟩
      · rw [hstep]
        exact iff_of_false (fun h => by cases h) fun h => hnot h.1
      · rw [hstep]
        simp only
        rw [ih]
        exact (and_iff_right hfits).symm

/-- INTERNAL: what is collected on the way. -/
theorem bridgeLoop_spec {n : ℕ} {messages : List RawMessage}
    (h : ∀ e ∈ messages.zipIdx n, FitMessage pattern request e.2 e.1) (s : BridgeState) :
    ((bridgeLoop py pattern request n messages s).2.handled.map fun u => (u.messageId : ℤ)) =
      (s.handled.map fun u => (u.messageId : ℤ)) ++
        (((messages.zipIdx n).filter fun e => answered pattern request e.2 e.1).map fun e =>
          (readId e.1).getD 0) ∧
    ((bridgeLoop py pattern request n messages s).2.failed.map
        fun f => f.messageId.map Int.ofNat) =
      (s.failed.map fun f => f.messageId.map Int.ofNat) ++
        (((messages.zipIdx n).filter fun e => decide (TextWithSender e.1.attributes) &&
          !answered pattern request e.2 e.1).map fun e => readId e.1) ∧
    (bridgeLoop py pattern request n messages s).2.nextOffsetId =
      (messages.map readId).foldl nextOffset s.nextOffsetId := by
  induction messages generalizing n s with
  | nil => simp [bridgeLoop]
  | cons m rest ih =>
      rw [List.zipIdx_cons, List.forall_mem_cons] at h
      obtain ⟨hfits, hrest⟩ := h
      rcases @bridgeStep_cases py pattern request n m s with
        ⟨hnot, _⟩ | ⟨_, updates, failures, hstep, hupdates, hfailures⟩
      · exact absurd hfits hnot
      · obtain ⟨hhandled, hfailed, hnext⟩ := ih hrest ⟨s.handled ++ updates,
          s.failed ++ failures, nextOffset s.nextOffsetId (readId m)⟩
        unfold bridgeLoop
        rw [hstep]
        simp only
        rw [hhandled, hfailed, hnext, List.map_append, List.map_append, hupdates, hfailures,
          List.zipIdx_cons, List.map_cons, List.foldl_cons, List.append_assoc, List.append_assoc]
        refine ⟨?_, ?_, rfl⟩
        · cases hanswered : answered pattern request n m with
          | true => simp [List.filter_cons_of_pos, hanswered]
          | false => simp [List.filter_cons_of_neg, hanswered]
        · cases hfailure : decide (TextWithSender m.attributes) && !answered pattern request n m with
          | true => simp [List.filter_cons_of_pos, hfailure]
          | false => simp [List.filter_cons_of_neg, hfailure]

/-! ## The cursor -/

theorem foldl_nextOffset (messages : List RawMessage) (offset : Option ℤ) :
    (messages.map readId).foldl nextOffset offset =
      if messages.filterMap readId = [] then offset
      else some ((messages.filterMap readId).foldl max (offset.getD 0)) := by
  induction messages generalizing offset with
  | nil => rfl
  | cons m rest ih =>
      rw [List.map_cons, List.foldl_cons, ih]
      cases hid : readId m with
      | none =>
          rw [List.filterMap_cons_none hid]
          rfl
      | some id =>
          rw [List.filterMap_cons_some hid, if_neg (List.cons_ne_nil _ _), List.foldl_cons]
          by_cases hnil : rest.filterMap readId = []
          · rw [if_pos hnil, hnil]
            rfl
          · rw [if_neg hnil]
            rfl

/-- INTERNAL: the largest of some ids is not negative exactly if one of them is not. -/
theorem nonneg_foldl_max_iff (id : ℤ) (ids : List ℤ) :
    0 ≤ ids.foldl max id ↔ ∃ k ∈ id :: ids, 0 ≤ k := by
  have hmax : (id :: ids).max? = some (ids.foldl max id) := List.max?_cons'
  obtain ⟨hmem, hle⟩ := List.max?_eq_some_iff.mp hmax
  constructor
  · exact fun h => ⟨_, hmem, h⟩
  · rintro ⟨k, hk, hnonneg⟩
    exact hnonneg.trans (hle k hk)

/-- INTERNAL: the cursor is the largest id and offset exactly if the offset fits. -/
theorem cursor_iff (request : TelegramTelethonPollRequest) (messages : List RawMessage) :
    (((messages.map readId).foldl nextOffset (request.offsetId.map Int.ofNat)).map
        Int.toNat).map Int.ofNat =
      (request.offsetId.toList.map Int.ofNat ++ messages.filterMap readId).max? ↔
    FitOffset request messages := by
  rw [foldl_nextOffset]
  unfold FitOffset
  cases hoffset : request.offsetId with
  | some k =>
      refine iff_of_true ?_ (fun h => by cases h)
      have hmax : ((k : ℤ) :: messages.filterMap readId).max? =
          some ((messages.filterMap readId).foldl max (k : ℤ)) := List.max?_cons'
      have hnonneg : 0 ≤ (messages.filterMap readId).foldl max (k : ℤ) :=
        (nonneg_foldl_max_iff _ _).mpr ⟨k, List.mem_cons_self, Int.natCast_nonneg k⟩
      refine Eq.trans ?_ hmax.symm
      split_ifs with hnil
      · rw [hnil]
        rfl
      · exact congrArg some (Int.toNat_of_nonneg hnonneg)
  | none =>
      cases hids : messages.filterMap readId with
      | nil => exact iff_of_true rfl fun _ h => absurd rfl h
      | cons id ids =>
          have hmax : (id :: ids).max? = some (ids.foldl max id) := List.max?_cons'
          have hfold : (id :: ids).foldl max 0 = max 0 (ids.foldl max id) := List.foldl_assoc
          rw [if_neg (List.cons_ne_nil _ _)]
          show (some (((id :: ids).foldl max 0).toNat : ℤ) = (id :: ids).max?) ↔ _
          rw [hmax, hfold, Option.some.injEq, Int.toNat_of_nonneg (le_max_left _ _),
            max_eq_right_iff, nonneg_foldl_max_iff]
          exact ⟨fun h _ _ => h, fun h => h rfl (List.cons_ne_nil _ _)⟩

end Loop

/-- The poll goes through the messages and reports them as it should exactly if each message fits
where it stands, and so does the offset. -/
theorem accounted_iff (py : Stdlib) (pattern : BridgePattern)
    (request : TelegramTelethonPollRequest) (messages : List RawMessage) :
    Accounted py pattern request messages ↔
      (∀ e ∈ messages.zipIdx, FitMessage pattern request e.2 e.1) ∧ FitOffset request messages := by
  have hspec : (∀ e ∈ messages.zipIdx, FitMessage pattern request e.2 e.1) →
      (bridgePoll py pattern request messages).handled.map (fun u => (u.messageId : ℤ)) =
        (messages.zipIdx.filter fun e => answered pattern request e.2 e.1).map
          (fun e => (readId e.1).getD 0) ∧
      (bridgePoll py pattern request messages).failed.map (fun f => f.messageId.map Int.ofNat) =
        (messages.zipIdx.filter fun e => decide (TextWithSender e.1.attributes) &&
          !answered pattern request e.2 e.1).map (fun e => readId e.1) ∧
      (bridgePoll py pattern request messages).nextOffsetId =
        ((messages.map readId).foldl nextOffset (request.offsetId.map Int.ofNat)).map
          Int.toNat := by
    intro hfits
    have hok := (@bridgeLoop_ok_iff py pattern request 0 messages
      ⟨[], [], request.offsetId.map Int.ofNat⟩).mpr hfits
    obtain ⟨hhandled, hfailed, hnext⟩ := @bridgeLoop_spec py pattern request 0 messages hfits
      ⟨[], [], request.offsetId.map Int.ofNat⟩
    unfold bridgePoll
    simp only [hok, caughtFailure, List.append_nil]
    exact ⟨hhandled, hfailed, congrArg (Option.map Int.toNat) hnext⟩
  constructor
  · intro h
    have hfits := (bridgeLoop_ok_iff _ _ _).mp h.whole
    refine ⟨hfits, (cursor_iff request messages).mp ?_⟩
    rw [← (hspec hfits).2.2]
    exact h.cursor
  · rintro ⟨hfits, hoffset⟩
    obtain ⟨hhandled, hfailed, hnext⟩ := hspec hfits
    refine ⟨(bridgeLoop_ok_iff _ _ _).mpr hfits, hhandled, hfailed, ?_⟩
    rw [hnext]
    exact (cursor_iff request messages).mpr hoffset

/-! ## A post of a channel -/

/-- A text from a sender with an id. -/
def textFrom (id senderId : ℤ) : RawMessage where
  id := .int id
  senderId := .int senderId
  fromUserId := .absent
  chatId := .int 100
  rawText := .str "/status"
  message := .absent
  text := .absent
  date := none

/-- The gateway fails on every message. -/
def failingPattern : BridgePattern where
  now := fun _ => 0
  handleUpdate := fun _ _ => .error (.telethon "TimeoutError" false)
  send := fun _ _ _ _ => .ok ()

/-- The sender of a channel post has a negative id, and the message after it is not read. -/
theorem not_accounted_channelPost : ¬ Accounted Reference.stdlib failingPattern
    PollingSample.request [textFrom 2 (-1001234567890), textFrom 1 100] := by
  intro h
  obtain ⟨hfits, _⟩ := List.forall_mem_cons.mp ((bridgeLoop_ok_iff _ _ _).mp h.whole)
  obtain ⟨_, _, hfits⟩ := hfits
  have htext : TextWithSender (textFrom 2 (-1001234567890)).attributes := by decide
  have hsender : telegramSenderId (textFrom 2 (-1001234567890)).attributes =
      some "-1001234567890" := by decide
  have haccepted := (hfits htext).1.1.sender _ hsender
  have hrefused : telegramUserIdPattern (Text.trim "-1001234567890") = false := by
    decide
  rw [hrefused] at haccepted
  cases haccepted

end MediaCenter.MessengerAdapter
