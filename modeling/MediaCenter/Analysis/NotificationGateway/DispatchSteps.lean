import MediaCenter.Library.ExceptList
import MediaCenter.Model.NotificationGateway.Dispatch

/-!
# The steps of a dispatch

Which channels are planned for a recipient, when a delivery goes through, and what one delivery,
one recipient and the whole loop leave behind.
-/

set_option autoImplicit false

namespace MediaCenter.NotificationGateway

open MediaCenter.Library MediaCenter.Shared

/-! ## Plans -/

section Plans

variable {py : LowerStdlib} (call : DispatchCall py)

/-- The preferences of a recipient, stored or default. -/
def preferencesOf (repository : InMemoryNotificationRepository) (recipientId : String) :
    PreferenceFields :=
  repository.getOrDefaultPreferences call.tenantId.val recipientId call.occurredAt

/-- The preferences are enabled and subscribe to the event type. -/
def Subscribed (repository : InMemoryNotificationRepository) (recipientId : String) : Prop :=
  (preferencesOf call repository recipientId).enabled = true ∧
    subscribesToEvent (preferencesOf call repository recipientId) call.payload.eventType = true

instance (repository : InMemoryNotificationRepository) (recipientId : String) :
    Decidable (Subscribed call repository recipientId) := inferInstanceAs (Decidable (_ ∧ _))

/-- The template chosen for a recipient, override first. -/
def templateOf (repository : InMemoryNotificationRepository) (base : NotificationTemplate)
    (recipientId : String) : NotificationTemplate :=
  templateForRecipient repository call.tenantId.val call.payload.eventType
    (preferencesOf call repository recipientId) base

/-- The channels on which a recipient is served, in order. -/
def plannedChannels (repository : InMemoryNotificationRepository) (base : NotificationTemplate)
    (recipientId : String) : List String :=
  if Subscribed call repository recipientId then
    deliveryChannels call.payload.channels
      (templateOf call repository base recipientId).fields.channels
      (preferencesOf call repository recipientId).channels
  else []

/-- The deliveries planned for a list of recipients. -/
def plannedPairs (repository : InMemoryNotificationRepository) (base : NotificationTemplate)
    (recipients : List String) : List (String × String) :=
  recipients.flatMap fun recipientId =>
    (plannedChannels call repository base recipientId).map fun channel => (recipientId, channel)

theorem plannedPairs_concat (repository : InMemoryNotificationRepository)
    (base : NotificationTemplate) (done : List String) (recipientId : String) :
    plannedPairs call repository base (done ++ [recipientId]) =
      plannedPairs call repository base done ++
        (plannedChannels call repository base recipientId).map fun channel =>
          (recipientId, channel) := by
  unfold plannedPairs
  rw [List.flatMap_append, List.flatMap_cons, List.flatMap_nil, List.append_nil]

end Plans

/-! ## Rendered texts -/

section Rendering

variable {py : LowerStdlib} (render : Jinja) (call : DispatchCall py)

/-- A text within the limits of a delivery command. -/
def WithinLimits (rendered : RenderedNotification) : Prop :=
  rendered.subject.toList.length ≤ 1000 ∧ rendered.body.toList.length ≤ 20000

theorem renderTemplate_eq_ok {templateBody rendered : String} {context : JSONObject}
    (h : renderTemplate render templateBody context = .ok rendered) :
    1 ≤ rendered.toList.length := by
  unfold renderTemplate at h
  split at h
  · cases h
  · simp only at h
    split at h
    · cases h
    · rename_i hne
      cases h
      apply List.length_pos_iff.mpr
      intro hnil
      exact hne (String.toList_eq_nil_iff.mp hnil)

theorem renderNotification_of_ok {template : NotificationTemplate}
    {recipientId subject body : String}
    (hsubject : renderTemplate render template.fields.subjectTemplate
      (call.renderContext recipientId) = .ok subject)
    (hbody : renderTemplate render template.fields.bodyTemplate
      (call.renderContext recipientId) = .ok body) :
    call.renderNotification render template recipientId =
      .ok ⟨subject, body, contentHash py subject body⟩ := by
  unfold DispatchCall.renderNotification
  rw [hsubject, hbody]
  rfl

/-- INTERNAL: rendered texts are not empty, and their hash is a hash. -/
theorem renderNotification_eq_ok {template : NotificationTemplate} {recipientId : String}
    {rendered : RenderedNotification}
    (h : call.renderNotification render template recipientId = .ok rendered) :
    1 ≤ rendered.subject.toList.length ∧ 1 ≤ rendered.body.toList.length ∧
      auditHashPattern rendered.contentHash = true := by
  unfold DispatchCall.renderNotification at h
  simp only [bind_eq_ok_iff] at h
  obtain ⟨subject, hsubject, body, hbody, hresult⟩ := h
  cases hresult
  exact ⟨renderTemplate_eq_ok render hsubject, renderTemplate_eq_ok render hbody,
    py.sha256Hex_pattern _⟩

end Rendering

/-! ## One delivery -/

section Delivery

variable {py : LowerStdlib} (call : DispatchCall py)

/-- `CorrelationId`, once the white space around it is gone. -/
def CorrelationAccepted : Prop := tokenPattern (Text.trim call.correlationId) = true

theorem tokenPattern_eventId : tokenPattern call.eventId = true := by
  unfold DispatchCall.eventId orDefault
  have hnew : tokenPattern (newId "evt-notification-source" (call.env.uuid 0)) = true :=
    tokenPattern_newId (by decide) (by decide) _
  cases hid : call.payload.eventId with
  | none => exact hnew
  | some eventId =>
      have htoken := call.payload.tokenPattern_eventId hid
      simp only
      split
      · exact hnew
      · exact htoken

/-- INTERNAL: the number of a delivery has at most 78 digits. -/
theorem tokenPattern_deliveryId_iff (earlier : ℕ) :
    tokenPattern (call.deliveryId earlier) = true ↔ earlier + 1 < 10 ^ 78 := by
  have hstem : tokenPattern call.notificationId = true :=
    tokenPattern_newId (by decide) (by decide) _
  have hlength : call.notificationId.toList.length = 49 := by
    unfold DispatchCall.notificationId newId
    rw [String.toList_append, String.toList_append, List.length_append, List.length_append,
      Uuid4.length_text]
    rfl
  have hlist : (call.deliveryId earlier).toList =
      call.notificationId.toList ++ '-' :: Nat.toDigits 10 (earlier + 1) := by
    unfold DispatchCall.deliveryId
    rw [String.toList_append, String.toList_append, List.append_assoc]
    congr 1
    show '-' :: (Nat.repr (earlier + 1)).toList = _
    rw [Nat.repr_eq_ofList_toDigits, String.toList_ofList]
  have hdigits : ∀ c ∈ Nat.toDigits 10 (earlier + 1), Text.isAsciiAlnum c = true := by
    intro c hc
    have hdigit := Nat.isDigit_of_mem_toDigits (by omega) (by omega) hc
    have hascii : Text.isAsciiDigit c = true := by
      unfold Text.isAsciiDigit
      unfold Char.isDigit at hdigit
      exact hdigit
    simp [Text.isAsciiAlnum, hascii]
  rw [← Nat.length_toDigits_le_iff (by omega) (by omega)]
  unfold tokenPattern Text.matchesHeadTail at hstem ⊢
  rw [hlist]
  cases hcase : call.notificationId.toList with
  | nil =>
      rw [hcase] at hlength
      cases hlength
  | cons x xs =>
      rw [hcase, List.length_cons] at hlength
      simp only [hcase, List.cons_append, Bool.and_eq_true, List.all_eq_true,
        decide_eq_true_eq] at hstem ⊢
      rw [List.length_append, List.length_cons]
      constructor
      · intro h
        omega
      · intro h
        refine ⟨⟨hstem.1.1, fun c hc => ?_⟩, by omega⟩
        rw [List.mem_append, List.mem_cons] at hc
        rcases hc with hc | rfl | hc
        · exact hstem.1.2 c hc
        · decide
        · simp [hdigits c hc]

/-- INTERNAL: when the command of a delivery is accepted. -/
theorem commandAccepted_iff {earlier : ℕ} {recipientId channelName auditHash : String}
    {template : NotificationTemplate} {rendered : RenderedNotification}
    (hcorrelation : CorrelationAccepted call) (hrecipient : tokenPattern recipientId = true)
    (hchannel : channelPattern channelName = true)
    (hsubject : 1 ≤ rendered.subject.toList.length) (hbody : 1 ≤ rendered.body.toList.length)
    (hhash : auditHashPattern rendered.contentHash = true) :
    (∀ c ∈ (call.deliveryCommand earlier recipientId channelName template rendered
      auditHash).checks, c.2 = true) ↔ earlier + 1 < 10 ^ 78 ∧ WithinLimits rendered := by
  have htemplate := template.valid ("template_key", templateKeyPattern template.fields.templateKey)
    (by simp [TemplateFields.checks])
  rw [← tokenPattern_deliveryId_iff call earlier]
  simp only [DeliveryCommandFields.checks, DispatchCall.deliveryCommand, List.forall_mem_cons]
  simp only at htemplate
  constructor
  · rintro ⟨hid, _, _, _, _, _, _, _, hs, hb, _⟩
    refine ⟨hid, ?_, ?_⟩
    · simp only [hasLength, Bool.and_eq_true, decide_eq_true_eq] at hs
      exact hs.2
    · simp only [hasLength, Bool.and_eq_true, decide_eq_true_eq] at hb
      exact hb.2
  · rintro ⟨hid, hs, hb⟩
    refine ⟨hid, call.tenantId.property, tokenPattern_eventId call,
      call.payload.isEventType_eventType, hrecipient, refHashPattern_sha256 py.toStdlib _,
      hchannel, htemplate, ?_, ?_, hhash, hcorrelation, fun c hc => by cases hc⟩
    · simp only [hasLength, Bool.and_eq_true, decide_eq_true_eq]
      exact ⟨hsubject, hs⟩
    · simp only [hasLength, Bool.and_eq_true, decide_eq_true_eq]
      exact ⟨hbody, hb⟩

theorem isEventType_notificationDispatchedEvent :
    isEventType (Text.trim notificationDispatchedEvent) = true := by decide

/-- INTERNAL: an audit record is refused only for its correlation id. -/
theorem exists_auditRecord_iff (recipientId channelName : String)
    (template : NotificationTemplate) (rendered : RenderedNotification) :
    (∃ audit, auditRecord py.toStdlib (call.auditArgs recipientId channelName template rendered) =
      .ok audit) ↔ CorrelationAccepted call := by
  rw [exists_auditRecord_eq_ok_iff]
  unfold DispatchCall.auditArgs CorrelationAccepted
  simp only [Option.map_some, optionalField, call.tenantId.property,
    isEventType_notificationDispatchedEvent, true_and]

end Delivery

/-- What a delivery may change: the audit log and the attempts, which it extends. -/
def Extends (s t : GatewayState) : Prop :=
  t.repository = s.repository ∧ t.published = s.published ∧ s.auditLog <+: t.auditLog ∧
    s.attempts <+: t.attempts

theorem extends_refl (s : GatewayState) : Extends s s :=
  ⟨rfl, rfl, List.prefix_rfl, List.prefix_rfl⟩

theorem extends_trans (s t u : GatewayState) (hst : Extends s t) (htu : Extends t u) :
    Extends s u :=
  ⟨htu.1.trans hst.1, htu.2.1.trans hst.2.1, hst.2.2.1.trans htu.2.2.1,
    hst.2.2.2.trans htu.2.2.2⟩

section Programs

variable {py : LowerStdlib} (render : Jinja) (channel : Channel) (call : DispatchCall py)

theorem keeps_deliver (earlier : ℕ) (recipientId channelName : String)
    (template : NotificationTemplate) (rendered : RenderedNotification) :
    Fallible.Keeps Extends (deliver channel call earlier recipientId channelName template
      rendered) := by
  unfold deliver
  apply Fallible.keeps_bind extends_trans (Fallible.keeps_ofExcept extends_refl _)
  intro audit
  apply Fallible.keeps_bind extends_trans
  · exact Fallible.keeps_change fun s => ⟨rfl, rfl, List.prefix_append _ _, List.prefix_rfl⟩
  intro _
  apply Fallible.keeps_bind extends_trans (Fallible.keeps_ofExcept extends_refl _)
  intro command
  apply Fallible.keeps_bind extends_trans
  · exact fun s => ⟨rfl, rfl, List.prefix_rfl, List.prefix_append _ _⟩
  intro receipt
  exact Fallible.keeps_pure extends_refl _

theorem keeps_deliverOn (recipientId : String) (template : NotificationTemplate)
    (rendered : RenderedNotification) (p : Progress) (channelName : String) :
    Fallible.Keeps Extends (deliverOn channel call recipientId template rendered p
      channelName) :=
  Fallible.keeps_bind extends_trans (keeps_deliver channel call _ _ _ _ _)
    fun _ => Fallible.keeps_pure extends_refl _

/-- INTERNAL: without a correlation id nothing is written. -/
theorem exec_deliver_of_not_accepted (hcorrelation : ¬ CorrelationAccepted call) (earlier : ℕ)
    (recipientId channelName : String) (template : NotificationTemplate)
    (rendered : RenderedNotification) (s : GatewayState) :
    ∃ e, Fallible.exec (deliver channel call earlier recipientId channelName template rendered)
      s = (.error e, s) := by
  cases haudit : auditRecord py.toStdlib (call.auditArgs recipientId channelName template
      rendered) with
  | ok audit =>
      exact absurd ((exists_auditRecord_iff call recipientId channelName template rendered).mp
        ⟨audit, haudit⟩) hcorrelation
  | error e =>
      refine ⟨.shared e, ?_⟩
      unfold deliver
      rw [haudit]
      exact Fallible.exec_bind_of_error rfl _

/-- INTERNAL: with one the audit record is written, and an accepted command is handed over. -/
theorem exec_deliver (hcorrelation : CorrelationAccepted call) (earlier : ℕ)
    (recipientId channelName : String) (template : NotificationTemplate)
    (rendered : RenderedNotification) (s : GatewayState) :
    ∃ audit,
      ((∀ c ∈ (call.deliveryCommand earlier recipientId channelName template rendered
          audit.fields.auditHash).checks, c.2 = true) →
        ∃ command : NotificationDeliveryCommand,
          command.fields = call.deliveryCommand earlier recipientId channelName template rendered
            audit.fields.auditHash ∧
          Fallible.exec (deliver channel call earlier recipientId channelName template rendered)
            s = (.ok (deliveryRecord command audit.fields.auditHash
                (channel s.attempts.length command)),
              { s with
                auditLog := s.auditLog ++ [audit]
                attempts := s.attempts ++ [command] })) ∧
      (¬ (∀ c ∈ (call.deliveryCommand earlier recipientId channelName template rendered
          audit.fields.auditHash).checks, c.2 = true) →
        ∃ e, Fallible.exec (deliver channel call earlier recipientId channelName template
          rendered) s = (.error e, { s with auditLog := s.auditLog ++ [audit] })) := by
  obtain ⟨audit, haudit⟩ :=
    (exists_auditRecord_iff call recipientId channelName template rendered).mpr hcorrelation
  refine ⟨audit, fun hvalid => ?_, fun hvalid => ?_⟩
  · refine ⟨⟨_, hvalid⟩, rfl, ?_⟩
    unfold deliver
    rw [haudit, Fallible.exec_ofExcept_bind]
    simp only [Except.mapError]
    rw [Fallible.exec_change_bind, Validated.make_of_valid _ _ hvalid]
    rfl
  · cases hmake : Validated.make "NotificationDeliveryCommand" DeliveryCommandFields.checks
        (call.deliveryCommand earlier recipientId channelName template rendered
          audit.fields.auditHash) with
    | ok command =>
        exact absurd ((Validated.exists_make_eq_ok_iff _ _).mp ⟨command, hmake⟩) hvalid
    | error e =>
        refine ⟨.shared e, ?_⟩
        unfold deliver
        rw [haudit, Fallible.exec_ofExcept_bind]
        simp only [Except.mapError]
        rw [Fallible.exec_change_bind, hmake]
        rfl

/-- INTERNAL: one recipient: skipped, refused by the templates, or served channel by channel. -/
theorem exec_notifyRecipient (base : NotificationTemplate) (p : Progress) (recipientId : String)
    (s : GatewayState) :
    Fallible.exec (notifyRecipient render channel call base p recipientId) s =
      if plannedChannels call s.repository base recipientId = [] then
        (.ok { p with skippedCount := p.skippedCount + 1 }, s)
      else match call.renderNotification render
          (templateOf call s.repository base recipientId) recipientId with
        | .error e => (.error e, s)
        | .ok rendered => Fallible.exec
            ((plannedChannels call s.repository base recipientId).foldlM (deliverOn channel call
              recipientId (templateOf call s.repository base recipientId) rendered) p) s := by
  unfold notifyRecipient
  rw [Fallible.exec_bind, Fallible.exec_inspect]
  simp only
  by_cases hsubscribed : Subscribed call s.repository recipientId
  · have hnot : ¬ ((preferencesOf call s.repository recipientId).enabled = false ∨
        subscribesToEvent (preferencesOf call s.repository recipientId)
          call.payload.eventType = false) := by
      rintro (hfalse | hfalse)
      · rw [hsubscribed.1] at hfalse
        cases hfalse
      · rw [hsubscribed.2] at hfalse
        cases hfalse
    unfold plannedChannels
    rw [if_pos hsubscribed]
    unfold preferencesOf at hnot
    rw [if_neg hnot]
    by_cases hnone : deliveryChannels call.payload.channels
        (templateOf call s.repository base recipientId).fields.channels
        (preferencesOf call s.repository recipientId).channels = []
    · rw [if_pos hnone]
      unfold templateOf preferencesOf at hnone
      rw [if_pos hnone]
      rfl
    · rw [if_neg hnone]
      unfold templateOf preferencesOf at hnone
      rw [if_neg hnone, Fallible.exec_bind, Fallible.exec_ofExcept]
      unfold templateOf preferencesOf
      generalize call.renderNotification render _ recipientId = outcome
      cases outcome with
      | error e => rfl
      | ok rendered => rfl
  · have hskip : (preferencesOf call s.repository recipientId).enabled = false ∨
        subscribesToEvent (preferencesOf call s.repository recipientId)
          call.payload.eventType = false := by
      by_contra hboth
      rw [not_or, Bool.not_eq_false, Bool.not_eq_false] at hboth
      exact hsubscribed hboth
    unfold plannedChannels
    rw [if_neg hsubscribed, if_pos rfl]
    unfold preferencesOf at hskip
    rw [if_pos hskip]
    rfl

theorem keeps_notifyRecipient (base : NotificationTemplate) (p : Progress)
    (recipientId : String) :
    Fallible.Keeps Extends (notifyRecipient render channel call base p recipientId) := by
  intro s
  rw [exec_notifyRecipient]
  split
  · exact extends_refl s
  · split
    · exact extends_refl s
    · exact Fallible.keeps_foldlM extends_refl extends_trans
        (fun p channelName => keeps_deliverOn channel call _ _ _ p channelName) _ p s

end Programs

end MediaCenter.NotificationGateway
