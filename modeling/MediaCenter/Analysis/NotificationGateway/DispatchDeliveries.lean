import MediaCenter.Analysis.NotificationGateway.DispatchSteps
import MediaCenter.Model.Shared.Reference

/-!
# Who is served

The loop hands over one command for each planned pair of recipient and channel, in order, and its
counters count what became of them.
-/

set_option autoImplicit false

namespace MediaCenter.NotificationGateway

open MediaCenter.Library MediaCenter.Shared

def commandPair (command : NotificationDeliveryCommand) : String × String :=
  (command.fields.recipientId, command.fields.channel)

def recordPair (record : NotificationDeliveryRecord) : String × String :=
  (record.recipientId, record.channel)

theorem recordPair_deliveryRecord (command : NotificationDeliveryCommand) (auditHash : String)
    (receipt : Option NotificationChannelReceipt) :
    recordPair (deliveryRecord command auditHash receipt) = commandPair command := by
  cases receipt <;> rfl

theorem notificationId_deliveryRecord (command : NotificationDeliveryCommand)
    (auditHash : String) (receipt : Option NotificationChannelReceipt) :
    (deliveryRecord command auditHash receipt).notificationId =
      command.fields.notificationId := by
  cases receipt <;> rfl

theorem status_deliveryRecord (command : NotificationDeliveryCommand) (auditHash : String)
    (receipt : Option NotificationChannelReceipt) :
    (deliveryRecord command auditHash receipt).status = .delivered ↔ receipt.isSome = true := by
  cases receipt <;> simp [deliveryRecord]

/-! ## The loop -/

section Loop

variable {py : LowerStdlib} (channel : Channel) (call : DispatchCall py)

/-- What has been done since `s₀` for the given pairs. -/
structure Served (s₀ : GatewayState) (pairs : List (String × String)) (p : Progress)
    (s : GatewayState) : Prop where
  repository : s.repository = s₀.repository
  published : s.published = s₀.published
  length : p.deliveries.length = pairs.length
  sent : ∃ sent, s.attempts = s₀.attempts ++ sent ∧ sent.map commandPair = pairs ∧
    ∀ (i : ℕ) (command : NotificationDeliveryCommand), sent[i]? = some command →
      command.fields.notificationId = call.deliveryId i ∧
        ∃ auditHash, p.deliveries[i]? = some (deliveryRecord command auditHash
          (channel (s₀.attempts.length + i) command))
  failed : p.failedCount = p.deliveries.countP fun d => d.status = .failed

theorem served_start (s : GatewayState) : Served channel call s [] ⟨[], 0, 0⟩ s where
  repository := rfl
  published := rfl
  length := rfl
  sent := ⟨[], (List.append_nil _).symm, rfl, fun i command h => by cases h⟩
  failed := rfl

/-- INTERNAL: what a delivery that went through has done. -/
theorem exec_deliverOn_eq_ok {recipientId channelName : String} {template : NotificationTemplate}
    {rendered : RenderedNotification} {p p' : Progress} {s s' : GatewayState}
    (h : Fallible.exec (deliverOn channel call recipientId template rendered p channelName) s =
      (.ok p', s')) :
    ∃ (command : NotificationDeliveryCommand) (audit : AuditLogRecord),
      command.fields = call.deliveryCommand p.deliveries.length recipientId channelName template
        rendered audit.fields.auditHash ∧
      p' = { p with
        deliveries := p.deliveries ++ [deliveryRecord command audit.fields.auditHash
          (channel s.attempts.length command)]
        failedCount :=
          if (deliveryRecord command audit.fields.auditHash
            (channel s.attempts.length command)).status = .failed then p.failedCount + 1
          else p.failedCount } ∧
      s' = { s with
        auditLog := s.auditLog ++ [audit]
        attempts := s.attempts ++ [command] } := by
  unfold deliverOn at h
  rw [Fallible.exec_bind_eq_ok_iff] at h
  obtain ⟨delivery, s₁, hdeliver, hreturn⟩ := h
  rw [Fallible.exec_pure] at hreturn
  by_cases hcorrelation : CorrelationAccepted call
  · obtain ⟨audit, hok, herror⟩ := exec_deliver channel call hcorrelation p.deliveries.length
      recipientId channelName template rendered s
    by_cases hvalid : ∀ c ∈ (call.deliveryCommand p.deliveries.length recipientId channelName
        template rendered audit.fields.auditHash).checks, c.2 = true
    · obtain ⟨command, hfields, hrun⟩ := hok hvalid
      rw [hrun] at hdeliver
      cases hdeliver
      cases hreturn
      exact ⟨command, audit, hfields, rfl, rfl⟩
    · obtain ⟨e, hrun⟩ := herror hvalid
      rw [hrun] at hdeliver
      cases hdeliver
  · obtain ⟨e, hrun⟩ := exec_deliver_of_not_accepted channel call hcorrelation
      p.deliveries.length recipientId channelName template rendered s
    rw [hrun] at hdeliver
    cases hdeliver

variable {channel call}

theorem Served.deliverOn {s₀ s s' : GatewayState} {pairs : List (String × String)}
    {p p' : Progress} (h : Served channel call s₀ pairs p s) {recipientId channelName : String}
    {template : NotificationTemplate} {rendered : RenderedNotification}
    (hrun : Fallible.exec (deliverOn channel call recipientId template rendered p channelName) s =
      (.ok p', s')) :
    Served channel call s₀ (pairs ++ [(recipientId, channelName)]) p' s' ∧
      p'.skippedCount = p.skippedCount := by
  obtain ⟨command, audit, hfields, hp, hs⟩ := exec_deliverOn_eq_ok channel call hrun
  subst hp hs
  obtain ⟨sent, hattempts, hpairs, hsent⟩ := h.sent
  have hlength : sent.length = p.deliveries.length := by
    rw [h.length, ← hpairs, List.length_map]
  refine ⟨⟨h.repository, h.published, ?_, ?_, ?_⟩, rfl⟩
  · rw [List.length_append, List.length_append, h.length]
    rfl
  · refine ⟨sent ++ [command], ?_, ?_, ?_⟩
    · rw [hattempts, List.append_assoc]
    · rw [List.map_append, hpairs, List.map_singleton]
      unfold commandPair
      rw [hfields]
      rfl
    · intro i command' hi
      by_cases hlt : i < sent.length
      · rw [List.getElem?_append_left hlt] at hi
        obtain ⟨hid, auditHash, hrecord⟩ := hsent i command' hi
        refine ⟨hid, auditHash, ?_⟩
        rw [List.getElem?_append_left (hlength ▸ hlt)]
        exact hrecord
      · have hlast : i = sent.length := by
          have hbound := (List.getElem?_eq_some_iff.mp hi).1
          rw [List.length_append, List.length_singleton] at hbound
          omega
        subst hlast
        rw [List.getElem?_concat_length, Option.some.injEq] at hi
        subst hi
        refine ⟨?_, audit.fields.auditHash, ?_⟩
        · rw [hfields, hlength]
          rfl
        · rw [hlength, List.getElem?_concat_length, ← hlength, hattempts, List.length_append]
  · simp only [List.countP_append, List.countP_singleton, h.failed]
    split
    · rename_i hfailed
      simp [hfailed]
    · rename_i hfailed
      simp [hfailed]

/-- INTERNAL: by induction on the channels of a recipient. -/
theorem Served.channels {s₀ s s' : GatewayState} {pairs : List (String × String)}
    {p p' : Progress} (h : Served channel call s₀ pairs p s) {recipientId : String}
    {template : NotificationTemplate} {rendered : RenderedNotification} {channels : List String}
    (hrun : Fallible.exec (channels.foldlM (NotificationGateway.deliverOn channel call recipientId
      template rendered) p) s = (.ok p', s')) :
    Served channel call s₀ (pairs ++ channels.map fun channelName => (recipientId, channelName))
      p' s' ∧ p'.skippedCount = p.skippedCount := by
  refine Fallible.foldlM_invariant
    (P := fun done p' s' => Served channel call s₀
      (pairs ++ done.map fun channelName => (recipientId, channelName)) p' s' ∧
        p'.skippedCount = p.skippedCount) ?_ ?_ hrun
  · intro done channelName p₁ s₁ p₂ s₂ hdone hstep
    obtain ⟨hserved, hskipped⟩ := hdone.1.deliverOn hstep
    rw [List.map_append, List.map_singleton, ← List.append_assoc]
    exact ⟨hserved, hskipped.trans hdone.2⟩
  · rw [List.map_nil, List.append_nil]
    exact ⟨h, rfl⟩

/-- INTERNAL: by induction on the recipients. -/
theorem served_recipients (render : Jinja) {s₀ s' : GatewayState} (base : NotificationTemplate)
    {recipients : List String} {p' : Progress}
    (hrun : Fallible.exec (recipients.foldlM (notifyRecipient render channel call base)
      ⟨[], 0, 0⟩) s₀ = (.ok p', s')) :
    Served channel call s₀ (plannedPairs call s₀.repository base recipients) p' s' ∧
      p'.skippedCount = recipients.countP fun recipientId =>
        decide (plannedChannels call s₀.repository base recipientId = []) := by
  refine Fallible.foldlM_invariant
    (P := fun done p s => Served channel call s₀ (plannedPairs call s₀.repository base done) p s ∧
      p.skippedCount = done.countP fun recipientId =>
        decide (plannedChannels call s₀.repository base recipientId = [])) ?_
    ⟨served_start channel call s₀, rfl⟩ hrun
  rintro done recipientId p₁ s₁ p₂ s₂ ⟨hserved, hskipped⟩ hstep
  rw [exec_notifyRecipient, hserved.repository] at hstep
  rw [plannedPairs_concat, List.countP_append, List.countP_singleton]
  split at hstep
  · rename_i hnone
    cases hstep
    rw [hnone, List.map_nil, List.append_nil, if_pos (decide_eq_true rfl), ← hskipped]
    exact ⟨⟨hserved.repository, hserved.published, hserved.length, hserved.sent,
      hserved.failed⟩, rfl⟩
  · rename_i hsome
    split at hstep
    · cases hstep
    · obtain ⟨hnext, hsame⟩ := hserved.channels hstep
      rw [if_neg (by simp [hsome]), Nat.add_zero, hsame, hskipped]
      exact ⟨hnext, rfl⟩

/-! ## Loops that return -/

/-- The recipient's templates render to texts within the limits of a command. -/
def Deliverable (render : Jinja) (call : DispatchCall py)
    (repository : InMemoryNotificationRepository) (base : NotificationTemplate)
    (recipientId : String) : Prop :=
  ∃ rendered, call.renderNotification render (templateOf call repository base recipientId)
    recipientId = .ok rendered ∧ WithinLimits rendered

/-- INTERNAL: a delivery within the limits goes through. -/
theorem exists_exec_deliverOn (hcorrelation : CorrelationAccepted call)
    {recipientId channelName : String} {template : NotificationTemplate}
    {rendered : RenderedNotification} {p : Progress} {s : GatewayState}
    (hvalid : ∀ auditHash, ∀ c ∈ (call.deliveryCommand p.deliveries.length recipientId
      channelName template rendered auditHash).checks, c.2 = true) :
    ∃ p' s', Fallible.exec (deliverOn channel call recipientId template rendered p channelName) s =
      (.ok p', s') := by
  obtain ⟨audit, hok, _⟩ := exec_deliver channel call hcorrelation p.deliveries.length
    recipientId channelName template rendered s
  obtain ⟨command, _, hrun⟩ := hok (hvalid _)
  unfold deliverOn
  rw [Fallible.exec_bind_of_ok hrun]
  exact ⟨_, _, rfl⟩

theorem exists_exec_recipients (render : Jinja) (hcorrelation : CorrelationAccepted call)
    {s₀ : GatewayState} {base : NotificationTemplate} {recipients : List String}
    (htoken : ∀ recipientId ∈ recipients, tokenPattern recipientId = true)
    (hchannels : ∀ recipientId ∈ recipients,
      ∀ channelName ∈ plannedChannels call s₀.repository base recipientId,
        channelPattern channelName = true)
    (hrenders : ∀ recipientId ∈ recipients,
      plannedChannels call s₀.repository base recipientId ≠ [] →
        Deliverable render call s₀.repository base recipientId)
    (hcount : (plannedPairs call s₀.repository base recipients).length < 10 ^ 78) :
    ∃ p s', Fallible.exec (recipients.foldlM (notifyRecipient render channel call base)
      ⟨[], 0, 0⟩) s₀ = (.ok p, s') := by
  suffices h : ∃ p s', Fallible.exec (recipients.foldlM (notifyRecipient render channel call base)
      ⟨[], 0, 0⟩) s₀ = (.ok p, s') ∧
        Served channel call s₀ (plannedPairs call s₀.repository base recipients) p s' by
    obtain ⟨p, s', hrun, _⟩ := h
    exact ⟨p, s', hrun⟩
  apply Fallible.exists_exec_foldlM
    (P := fun done p s => Served channel call s₀ (plannedPairs call s₀.repository base done) p s)
  · intro done recipientId rest p s hsplit hserved
    have hmem : recipientId ∈ recipients := by
      rw [hsplit]
      exact List.mem_append_right _ List.mem_cons_self
    rw [exec_notifyRecipient, hserved.repository, plannedPairs_concat]
    by_cases hnone : plannedChannels call s₀.repository base recipientId = []
    · rw [if_pos hnone, hnone, List.map_nil, List.append_nil]
      exact ⟨_, s, rfl, ⟨hserved.repository, hserved.published, hserved.length, hserved.sent,
        hserved.failed⟩⟩
    · rw [if_neg hnone]
      obtain ⟨rendered, hrendered, hlimits⟩ := hrenders recipientId hmem hnone
      obtain ⟨hsubject, hbody, hhash⟩ := renderNotification_eq_ok render call hrendered
      simp only [hrendered]
      apply Fallible.exists_exec_foldlM
        (P := fun done' p s => Served channel call s₀ (plannedPairs call s₀.repository base done ++
          done'.map fun channelName => (recipientId, channelName)) p s)
      · intro done' channelName rest' p₁ s₁ hsplit' hserved'
        have hmem' : channelName ∈ plannedChannels call s₀.repository base recipientId := by
          rw [hsplit']
          exact List.mem_append_right _ List.mem_cons_self
        have hnumber : p₁.deliveries.length + 1 < 10 ^ 78 := by
          rw [hserved'.length, List.length_append, List.length_map]
          rw [hsplit, List.append_cons] at hcount
          unfold plannedPairs at hcount ⊢
          rw [List.flatMap_append, List.flatMap_append, List.length_append, List.length_append,
            List.flatMap_cons, List.flatMap_nil, List.append_nil, List.length_map, hsplit',
            List.length_append, List.length_cons] at hcount
          omega
        have hvalid : ∀ auditHash, ∀ c ∈ (call.deliveryCommand p₁.deliveries.length recipientId
            channelName (templateOf call s₀.repository base recipientId) rendered
            auditHash).checks, c.2 = true := fun auditHash =>
          (commandAccepted_iff call hcorrelation (htoken recipientId hmem)
            (hchannels recipientId hmem channelName hmem') hsubject hbody hhash).mpr
            ⟨hnumber, hlimits⟩
        obtain ⟨p₂, s₂, hstep⟩ := exists_exec_deliverOn hcorrelation hvalid
        refine ⟨p₂, s₂, hstep, ?_⟩
        rw [List.map_append, List.map_singleton, ← List.append_assoc]
        exact (hserved'.deliverOn hstep).1
      · rw [List.map_nil, List.append_nil]
        exact hserved
  · exact served_start channel call s₀

end Loop

/-! ## The plan of a dispatch -/

section Plan

variable {py : LowerStdlib} (call : DispatchCall py)

theorem mem_deliveryChannels_iff {requestedChannels : Option (List String)}
    {templateChannels preferenceChannels : List String} {channelName : String} :
    channelName ∈ deliveryChannels requestedChannels templateChannels preferenceChannels ↔
      channelName ∈ preferenceChannels ∧
        if requestedChannels.getD [] ≠ [] then channelName ∈ requestedChannels.getD []
        else if templateChannels ≠ [] then channelName ∈ templateChannels
        else channelName ∈ defaultNotificationChannels := by
  unfold deliveryChannels
  simp only [List.mem_filter, List.contains_iff_mem]
  split
  · exact and_comm
  · split
    · exact and_comm
    · exact and_comm

/-- INTERNAL: the requested channels are channel names, each there once, even if there are
none. -/
theorem requestedChannels_spec : (call.payload.channels.getD []).Nodup ∧
    ∀ channelName ∈ call.payload.channels.getD [], channelPattern channelName = true := by
  cases hchannels : call.payload.channels with
  | none => exact ⟨List.nodup_nil, fun _ hmem => by cases hmem⟩
  | some channels => exact call.payload.channels_spec hchannels

theorem channelPattern_of_mem_template (template : NotificationTemplate) {channelName : String}
    (h : channelName ∈ template.fields.channels) : channelPattern channelName = true := by
  have hchecked := template.valid ("channels", template.fields.channels.all channelPattern)
    (by simp [TemplateFields.checks])
  exact List.all_eq_true.mp hchecked channelName h

/-- INTERNAL: the chosen template names no channel twice, if the base template does not. -/
theorem nodup_channels_templateOf {repository : InMemoryNotificationRepository}
    {base : NotificationTemplate} (hbase : base.fields.channels.Nodup) (recipientId : String) :
    (templateOf call repository base recipientId).fields.channels.Nodup := by
  unfold templateOf templateForRecipient
  split
  · exact hbase
  · rename_i overrideKey _
    cases htemplate : repository.getTemplate call.tenantId.val overrideKey with
    | none => exact hbase
    | some template =>
        exact repository.distinct _ (Dict.get?_eq_some_iff.mp htemplate)

/-- INTERNAL: the channels planned for a recipient: channel names, each there once. -/
theorem plannedChannels_spec {repository : InMemoryNotificationRepository}
    {base : NotificationTemplate} (hbase : base.fields.channels.Nodup) (recipientId : String) :
    (plannedChannels call repository base recipientId).Nodup ∧
      ∀ channelName ∈ plannedChannels call repository base recipientId,
        channelPattern channelName = true := by
  obtain ⟨hrequested, hrequestedPattern⟩ := requestedChannels_spec call
  unfold plannedChannels
  by_cases hsubscribed : Subscribed call repository recipientId
  · rw [if_pos hsubscribed]
    constructor
    · unfold deliveryChannels
      apply List.Nodup.filter
      split
      · exact hrequested
      · split
        · exact nodup_channels_templateOf call hbase recipientId
        · exact defaultNotificationChannels_spec.1
    · intro channelName hmem
      rw [mem_deliveryChannels_iff] at hmem
      obtain ⟨_, hoffered⟩ := hmem
      split at hoffered
      · exact hrequestedPattern channelName hoffered
      · split at hoffered
        · exact channelPattern_of_mem_template _ hoffered
        · exact defaultNotificationChannels_spec.2 channelName hoffered
  · rw [if_neg hsubscribed]
    exact ⟨List.nodup_nil, fun channelName hmem => by cases hmem⟩

theorem mem_plannedPairs_iff {repository : InMemoryNotificationRepository}
    {base : NotificationTemplate} {recipients : List String} {recipientId channelName : String} :
    (recipientId, channelName) ∈ plannedPairs call repository base recipients ↔
      recipientId ∈ recipients ∧
        channelName ∈ plannedChannels call repository base recipientId := by
  unfold plannedPairs
  rw [List.mem_flatMap]
  constructor
  · rintro ⟨recipientId', hrecipient, hmem⟩
    rw [List.mem_map] at hmem
    obtain ⟨channelName', hchannel, hpair⟩ := hmem
    cases hpair
    exact ⟨hrecipient, hchannel⟩
  · rintro ⟨hrecipient, hchannel⟩
    exact ⟨recipientId, hrecipient, List.mem_map_of_mem hchannel⟩

theorem nodup_plannedPairs {repository : InMemoryNotificationRepository}
    {base : NotificationTemplate} (hbase : base.fields.channels.Nodup) {recipients : List String}
    (hrecipients : recipients.Nodup) :
    (plannedPairs call repository base recipients).Nodup := by
  unfold plannedPairs
  rw [List.nodup_flatMap]
  constructor
  · intro recipientId _
    exact (plannedChannels_spec call hbase recipientId).1.map
      fun channelName channelName' hsame => (Prod.mk.inj hsame).2
  · refine hrecipients.imp ?_
    intro recipientId recipientId' hne pair hpair hpair'
    rw [List.mem_map] at hpair hpair'
    obtain ⟨channelName, _, rfl⟩ := hpair
    obtain ⟨channelName', _, hsame⟩ := hpair'
    exact hne (Prod.mk.inj hsame).1.symm

/-- The base template of a call, and the repository in which the recipients are served. -/
def baseOf (s : GatewayState) : NotificationTemplate × InMemoryNotificationRepository :=
  match call.payload.template with
  | some template =>
      s.repository.upsertTemplate call.tenantId call.eventType template call.occurredAt
  | none => (storedBaseTemplate call s.repository, s.repository)

theorem exec_resolveBaseTemplate (s : GatewayState) :
    Fallible.exec (resolveBaseTemplate call) s =
      (.ok (baseOf call s).1, { s with repository := (baseOf call s).2 }) := by
  unfold resolveBaseTemplate baseOf
  cases call.payload.template with
  | none => rfl
  | some template => rfl

theorem mem_of_findTemplateForEvent {repository : InMemoryNotificationRepository}
    {tenantId eventType : String} {template : NotificationTemplate}
    (h : repository.findTemplateForEvent tenantId eventType = some template) :
    ∃ key, (key, template) ∈ repository.templates.entries := by
  unfold InMemoryNotificationRepository.findTemplateForEvent at h
  have hmem := List.mem_of_head? h
  rw [List.mem_insertionSort, List.mem_map] at hmem
  obtain ⟨e, he, rfl⟩ := hmem
  exact ⟨e.1, (List.mem_filter.mp he).1⟩

theorem nodup_channels_baseOf (s : GatewayState) : (baseOf call s).1.fields.channels.Nodup := by
  unfold baseOf
  split
  · rename_i template _
    exact template.channels_spec.1
  · unfold storedBaseTemplate
    split
    · rename_i template hkey
      rw [Option.bind_eq_some_iff] at hkey
      obtain ⟨key, _, htemplate⟩ := hkey
      exact s.repository.distinct _ (Dict.get?_eq_some_iff.mp htemplate)
    · split
      · rename_i template hfound
        obtain ⟨key, hmem⟩ := mem_of_findTemplateForEvent hfound
        exact s.repository.distinct _ hmem
      · exact defaultNotificationChannels_spec.1

end Plan

/-! ## What is promised -/

section Promise

variable {py : LowerStdlib} (render : Jinja) (channel : Channel) (call : DispatchCall py)

/-- The channel is offered: requested, or if none are requested a channel of the recipient's
template, or if that has none a default one. -/
def Offered (repository : InMemoryNotificationRepository) (base : NotificationTemplate)
    (recipientId channelName : String) : Prop :=
  if call.payload.channels.getD [] ≠ [] then channelName ∈ call.payload.channels.getD []
  else if (templateOf call repository base recipientId).fields.channels ≠ [] then
    channelName ∈ (templateOf call repository base recipientId).fields.channels
  else channelName ∈ defaultNotificationChannels

/-- The recipient is listed, wants the event, and wants it on this channel, which is offered. -/
def Wanted (repository : InMemoryNotificationRepository) (base : NotificationTemplate)
    (recipientId channelName : String) : Prop :=
  recipientId ∈ call.payload.recipients ∧ Subscribed call repository recipientId ∧
    channelName ∈ (preferencesOf call repository recipientId).channels ∧
    Offered call repository base recipientId channelName

theorem mem_plannedPairs_iff_wanted {repository : InMemoryNotificationRepository}
    {base : NotificationTemplate} {recipientId channelName : String} :
    (recipientId, channelName) ∈ plannedPairs call repository base call.payload.recipients ↔
      Wanted call repository base recipientId channelName := by
  rw [mem_plannedPairs_iff]
  unfold Wanted plannedChannels Offered
  by_cases hsubscribed : Subscribed call repository recipientId
  · rw [if_pos hsubscribed, mem_deliveryChannels_iff]
    simp only [hsubscribed, true_and]
  · rw [if_neg hsubscribed]
    simp [hsubscribed]

/-- The commands given to the channel: one for each wanted pair, and no other. -/
structure ServedExactly (s s' : GatewayState) (sent : List NotificationDeliveryCommand) :
    Prop where
  attempts : s'.attempts = s.attempts ++ sent
  once : (sent.map commandPair).Nodup
  wanted : ∀ recipientId channelName, (recipientId, channelName) ∈ sent.map commandPair ↔
    Wanted call (baseOf call s).2 (baseOf call s).1 recipientId channelName

/-- The result tells what became of the commands. -/
structure Reported (s : GatewayState) (sent : List NotificationDeliveryCommand)
    (result : NotificationDispatchResult) : Prop where
  deliveries : result.deliveries.map recordPair = sent.map commandPair
  ordered : (result.deliveries.map NotificationDeliveryRecord.recipientId).Pairwise
    fun a b => call.payload.recipients.idxOf a ≤ call.payload.recipients.idxOf b
  distinct : (result.deliveries.map NotificationDeliveryRecord.notificationId).Nodup
  delivered : ∀ (i : ℕ) (command : NotificationDeliveryCommand)
    (record : NotificationDeliveryRecord), sent[i]? = some command →
      result.deliveries[i]? = some record →
      (record.status = .delivered ↔ (channel (s.attempts.length + i) command).isSome = true)
  total : result.deliveredCount + result.failedCount = result.deliveries.length
  skipped : result.skippedCount = call.payload.recipients.countP fun recipientId =>
    !(result.deliveries.any fun record => record.recipientId = recipientId)

theorem deliveryId_injective {i j : ℕ} (h : call.deliveryId i = call.deliveryId j) : i = j := by
  unfold DispatchCall.deliveryId at h
  rw [← String.toList_inj, String.toList_append, String.toList_append, String.toList_append,
    String.toList_append, List.append_cancel_left_eq] at h
  have hdigits : Nat.toDigits 10 (i + 1) = Nat.toDigits 10 (j + 1) := by
    change (Nat.repr (i + 1)).toList = (Nat.repr (j + 1)).toList at h
    rw [Nat.repr_eq_ofList_toDigits, Nat.repr_eq_ofList_toDigits, String.toList_ofList,
      String.toList_ofList] at h
    exact h
  have hvalue : ∀ n, Nat.ofDigitChars 10 (Nat.toDigits 10 n) 0 = n := fun n => by simp
  have hsame := congrArg (fun digits => Nat.ofDigitChars 10 digits 0) hdigits
  simp only [hvalue] at hsame
  omega

/-- INTERNAL: the recipients of the planned pairs come in the order of the list. -/
theorem pairwise_plannedPairs {repository : InMemoryNotificationRepository}
    {base : NotificationTemplate} {recipients : List String} (hnodup : recipients.Nodup) :
    ((plannedPairs call repository base recipients).map Prod.fst).Pairwise
      fun a b => recipients.idxOf a ≤ recipients.idxOf b := by
  unfold plannedPairs
  rw [List.map_flatMap, List.pairwise_flatMap]
  constructor
  · intro recipientId _
    rw [List.map_map]
    apply List.pairwise_of_forall_mem_list
    intro a ha b hb
    rw [List.mem_map] at ha hb
    obtain ⟨_, _, rfl⟩ := ha
    obtain ⟨_, _, rfl⟩ := hb
    exact Nat.le_refl _
  · rw [List.pairwise_iff_getElem]
    intro i j hi hj hij a ha b hb
    rw [List.map_map, List.mem_map] at ha hb
    obtain ⟨_, _, rfl⟩ := ha
    obtain ⟨_, _, rfl⟩ := hb
    show recipients.idxOf recipients[i] ≤ recipients.idxOf recipients[j]
    rw [hnodup.idxOf_getElem i hi, hnodup.idxOf_getElem j hj]
    omega

theorem countP_delivered_add_failed (deliveries : List NotificationDeliveryRecord) :
    (deliveries.countP fun d => d.status = .delivered) +
      (deliveries.countP fun d => d.status = .failed) = deliveries.length := by
  induction deliveries with
  | nil => rfl
  | cons d deliveries ih =>
      rw [List.countP_cons, List.countP_cons, List.length_cons, ← ih]
      cases d.status <;> simp <;> omega

theorem exec_dispatch (s : GatewayState) :
    Fallible.exec (dispatch render channel call) s =
      match Fallible.exec (call.payload.recipients.foldlM (notifyRecipient render channel call
          (baseOf call s).1) ⟨[], 0, 0⟩) { s with repository := (baseOf call s).2 } with
      | (.error e, s') => (.error e, s')
      | (.ok p, s') =>
          match eventEnvelope (dispatchEvent call (dispatchResult call (baseOf call s).1 p)) with
          | .error e => (.error (.shared e), s')
          | .ok event => (.ok (dispatchResult call (baseOf call s).1 p),
              { s' with published := s'.published ++ [event] }) := by
  unfold dispatch
  rw [Fallible.exec_bind_of_ok (exec_resolveBaseTemplate call s), Fallible.exec_bind]
  rcases Fallible.exec (call.payload.recipients.foldlM (notifyRecipient render channel call
    (baseOf call s).1) ⟨[], 0, 0⟩) { s with repository := (baseOf call s).2 } with ⟨result, s'⟩
  cases result with
  | error e => rfl
  | ok p =>
      simp only
      rw [Fallible.exec_ofExcept_bind]
      cases eventEnvelope (dispatchEvent call (dispatchResult call (baseOf call s).1 p)) with
      | error e => rfl
      | ok event => rfl

variable {channel call}

/-- INTERNAL: each delivery is the record of the command in its place. -/
theorem Served.map_eq {s₀ s : GatewayState} {pairs : List (String × String)} {p : Progress}
    (h : Served channel call s₀ pairs p s) {sent : List NotificationDeliveryCommand}
    (hpairs : sent.map commandPair = pairs)
    (hsent : ∀ (i : ℕ) (command : NotificationDeliveryCommand), sent[i]? = some command →
      command.fields.notificationId = call.deliveryId i ∧
        ∃ auditHash, p.deliveries[i]? = some (deliveryRecord command auditHash
          (channel (s₀.attempts.length + i) command))) :
    p.deliveries.map recordPair = pairs ∧
      ∀ (i : ℕ) (record : NotificationDeliveryRecord), p.deliveries[i]? = some record →
        record.notificationId = call.deliveryId i := by
  have hlength : sent.length = p.deliveries.length := by
    rw [h.length, ← hpairs, List.length_map]
  have hrecord : ∀ (i : ℕ) (record : NotificationDeliveryRecord),
      p.deliveries[i]? = some record → ∃ command auditHash, sent[i]? = some command ∧
        command.fields.notificationId = call.deliveryId i ∧
        record = deliveryRecord command auditHash
          (channel (s₀.attempts.length + i) command) := by
    intro i record hi
    have hlt : i < sent.length := by
      rw [hlength]
      exact (List.getElem?_eq_some_iff.mp hi).1
    obtain ⟨hid, auditHash, hdelivery⟩ := hsent i sent[i] (List.getElem?_eq_getElem hlt)
    rw [hdelivery, Option.some.injEq] at hi
    exact ⟨sent[i], auditHash, List.getElem?_eq_getElem hlt, hid, hi.symm⟩
  constructor
  · rw [← hpairs]
    apply List.ext_getElem?
    intro i
    rw [List.getElem?_map, List.getElem?_map]
    cases hi : p.deliveries[i]? with
    | none =>
        rw [List.getElem?_eq_none_iff] at hi
        rw [List.getElem?_eq_none (by omega)]
        rfl
    | some record =>
        obtain ⟨command, auditHash, hcommand, _, rfl⟩ := hrecord i record hi
        rw [hcommand, Option.map_some, Option.map_some, recordPair_deliveryRecord]
  · intro i record hi
    obtain ⟨command, auditHash, _, hid, rfl⟩ := hrecord i record hi
    rw [notificationId_deliveryRecord]
    exact hid

theorem any_recipientId_iff {deliveries : List NotificationDeliveryRecord} {recipientId : String} :
    (deliveries.any fun record => record.recipientId = recipientId) = true ↔
      ∃ channelName, (recipientId, channelName) ∈ deliveries.map recordPair := by
  rw [List.any_eq_true]
  constructor
  · rintro ⟨record, hmem, hsame⟩
    refine ⟨record.channel, List.mem_map.mpr ⟨record, hmem, ?_⟩⟩
    rw [decide_eq_true_eq] at hsame
    unfold recordPair
    rw [hsame]
  · rintro ⟨channelName, hmem⟩
    rw [List.mem_map] at hmem
    obtain ⟨record, hrecord, hpair⟩ := hmem
    exact ⟨record, hrecord, decide_eq_true (Prod.mk.inj hpair).1⟩

/-- INTERNAL: what the finished loop reports. -/
theorem reported_of_served {s s' : GatewayState} {base : NotificationTemplate}
    {repository : InMemoryNotificationRepository} {p : Progress}
    (h : Served channel call { s with repository := repository }
      (plannedPairs call repository base call.payload.recipients) p s')
    (hskipped : p.skippedCount = call.payload.recipients.countP fun recipientId =>
      decide (plannedChannels call repository base recipientId = []))
    {sent : List NotificationDeliveryCommand}
    (hpairs : sent.map commandPair =
      plannedPairs call repository base call.payload.recipients)
    (hsent : ∀ (i : ℕ) (command : NotificationDeliveryCommand), sent[i]? = some command →
      command.fields.notificationId = call.deliveryId i ∧
        ∃ auditHash, p.deliveries[i]? = some (deliveryRecord command auditHash
          (channel (s.attempts.length + i) command))) :
    Reported channel call s sent (dispatchResult call base p) := by
  obtain ⟨hmap, hids⟩ := h.map_eq hpairs hsent
  refine ⟨hmap.trans hpairs.symm, ?_, ?_, ?_, ?_, ?_⟩
  · have hfst : p.deliveries.map NotificationDeliveryRecord.recipientId =
        (plannedPairs call repository base call.payload.recipients).map Prod.fst := by
      rw [← hmap, List.map_map]
      rfl
    show (p.deliveries.map NotificationDeliveryRecord.recipientId).Pairwise _
    rw [hfst]
    exact pairwise_plannedPairs call call.payload.nodup_recipients
  · show (p.deliveries.map NotificationDeliveryRecord.notificationId).Nodup
    rw [List.nodup_iff_getElem?_ne_getElem?]
    intro i j hij hj hsame
    rw [List.length_map] at hj
    have hi : i < p.deliveries.length := by omega
    rw [List.getElem?_map, List.getElem?_map, List.getElem?_eq_getElem hi,
      List.getElem?_eq_getElem hj, Option.map_some, Option.map_some, Option.some.injEq,
      hids i _ (List.getElem?_eq_getElem hi), hids j _ (List.getElem?_eq_getElem hj)] at hsame
    exact absurd (deliveryId_injective call hsame) (by omega)
  · intro i command record hcommand hrecord
    obtain ⟨_, auditHash, hdelivery⟩ := hsent i command hcommand
    change p.deliveries[i]? = some record at hrecord
    rw [hdelivery, Option.some.injEq] at hrecord
    rw [← hrecord]
    exact status_deliveryRecord command auditHash _
  · show (p.deliveries.countP fun d => d.status = .delivered) + p.failedCount =
      p.deliveries.length
    rw [h.failed]
    exact countP_delivered_add_failed p.deliveries
  · show p.skippedCount = call.payload.recipients.countP fun recipientId =>
      !(p.deliveries.any fun record => record.recipientId = recipientId)
    rw [hskipped]
    apply List.countP_congr
    intro recipientId hrecipient
    rw [decide_eq_true_eq, Bool.not_eq_true', Bool.eq_false_iff, Ne, any_recipientId_iff, hmap]
    constructor
    · rintro hnone ⟨channelName, hmem⟩
      rw [mem_plannedPairs_iff, hnone] at hmem
      exact absurd hmem.2 List.not_mem_nil
    · intro hno
      rw [List.eq_nil_iff_forall_not_mem]
      intro channelName hmem
      exact hno ⟨channelName, (mem_plannedPairs_iff call).mpr ⟨hrecipient, hmem⟩⟩

end Promise

/-! ## The event of a dispatch -/

section Event

variable {py : LowerStdlib} (call : DispatchCall py)

/-- The tenant id is a segment of a routing key. -/
def Routable : Prop := call.tenantId.val.toList.contains '.' = false

theorem normalizeEventType_notificationDispatchedEvent :
    normalizeEventType notificationDispatchedEvent = .ok notificationDispatchedEvent := by
  decide

theorem normalizeSchemaVersion_notificationGatewaySchemaVersion :
    normalizeSchemaVersion notificationGatewaySchemaVersion =
      .ok notificationGatewaySchemaVersion := by
  decide

/-- INTERNAL: the event of a result is refused only for the tenant or the correlation id. -/
theorem eventEnvelope_dispatchEvent (base : NotificationTemplate) (p : Progress) :
    eventEnvelope (dispatchEvent call (dispatchResult call base p)) = (do
      let _ ← normalizeRoutingSegment call.tenantId.val "tenant_id"
      let correlationId ← normalizeToken call.correlationId "correlation_id"
      return { dispatchEvent call (dispatchResult call base p) with
        correlationId := correlationId }) := by
  have hid : tokenPattern (newId "evt-notification-dispatched" (call.env.uuid 2)) = true :=
    tokenPattern_newId (by decide) (by decide) _
  have hsource : tokenPattern notificationGatewaySource = true := by decide
  have hcausation := normalizeToken_of_tokenPattern (tokenPattern_eventId call) "causation_id"
  unfold eventEnvelope
  simp only [dispatchEvent, dispatchResult, normalizeToken_of_tokenPattern hid,
    normalizeEventType_notificationDispatchedEvent,
    normalizeSchemaVersion_notificationGatewaySchemaVersion,
    normalizeToken_of_tokenPattern hsource, hcausation,
    normalizeRoutingSegment_of_tenantIdPattern call.tenantId.property, bind, Except.bind, pure,
    Except.pure]
  split
  · rfl
  · rename_i tenantId htenant
    split at htenant
    · cases htenant
    · cases htenant
      cases normalizeToken call.correlationId "correlation_id" <;> rfl

theorem exists_eventEnvelope_iff (base : NotificationTemplate) (p : Progress) :
    (∃ event, eventEnvelope (dispatchEvent call (dispatchResult call base p)) = .ok event) ↔
      Routable call ∧ ∃ c, normalizeToken call.correlationId "correlation_id" = .ok c := by
  rw [eventEnvelope_dispatchEvent, normalizeRoutingSegment_of_tenantIdPattern
    call.tenantId.property]
  unfold Routable
  cases hdot : call.tenantId.val.toList.contains '.' with
  | true => simp [bind, Except.bind]
  | false =>
      cases normalizeToken call.correlationId "correlation_id" with
      | error e => simp [bind, Except.bind]
      | ok c => simp [bind, Except.bind, pure, Except.pure]

theorem exists_normalizeToken_of_accepted (h : CorrelationAccepted call) :
    ∃ c, normalizeToken call.correlationId "correlation_id" = .ok c :=
  ⟨_, normalizeToken_of_trim h _⟩

end Event

section Theorem

variable {py : LowerStdlib} (render : Jinja) (channel : Channel) (call : DispatchCall py)

/-- **Who is served.**  If the templates of the recipients to serve render within the limits of a
command, the channel is given one command for each wanted pair and no other, and the result, which
a tenant without a dot gets, tells what became of them. -/
theorem dispatch_serves (s : GatewayState) (hcorrelation : CorrelationAccepted call)
    (hrenders : ∀ recipientId ∈ call.payload.recipients,
      plannedChannels call (baseOf call s).2 (baseOf call s).1 recipientId ≠ [] →
        Deliverable render call (baseOf call s).2 (baseOf call s).1 recipientId)
    (hcount : (plannedPairs call (baseOf call s).2 (baseOf call s).1
      call.payload.recipients).length < 10 ^ 78) :
    ∃ sent,
      ServedExactly call s (Fallible.exec (dispatch render channel call) s).2 sent ∧
      (∀ result, (Fallible.exec (dispatch render channel call) s).1 = .ok result →
        Reported channel call s sent result) ∧
      (Routable call → ∃ result,
        (Fallible.exec (dispatch render channel call) s).1 = .ok result) := by
  have hbase := nodup_channels_baseOf call s
  obtain ⟨p, s', hrun⟩ : ∃ p s', Fallible.exec (call.payload.recipients.foldlM
      (notifyRecipient render channel call (baseOf call s).1) ⟨[], 0, 0⟩)
        { s with repository := (baseOf call s).2 } = (.ok p, s') :=
    exists_exec_recipients render hcorrelation
      (fun recipientId => call.payload.tokenPattern_of_mem_recipients)
      (fun recipientId _ => (plannedChannels_spec call hbase recipientId).2) hrenders hcount
  obtain ⟨hserved, hskipped⟩ := served_recipients render _ hrun
  obtain ⟨sent, hattempts, hpairs, hsent⟩ := hserved.sent
  have hreported := reported_of_served hserved hskipped hpairs hsent
  have hexactly : ∀ published, ServedExactly call s { s' with published := published } sent := by
    intro published
    refine ⟨hattempts, ?_, ?_⟩
    · rw [hpairs]
      exact nodup_plannedPairs call hbase call.payload.nodup_recipients
    · intro recipientId channelName
      rw [hpairs]
      exact mem_plannedPairs_iff_wanted call
  refine ⟨sent, ?_⟩
  rw [exec_dispatch, hrun]
  simp only
  cases hevent : eventEnvelope (dispatchEvent call (dispatchResult call (baseOf call s).1 p)) with
  | error e =>
      refine ⟨hexactly s'.published, fun result hresult => (by cases hresult), fun hroutable => ?_⟩
      obtain ⟨event, hok⟩ := (exists_eventEnvelope_iff call (baseOf call s).1 p).mpr
        ⟨hroutable, exists_normalizeToken_of_accepted call hcorrelation⟩
      rw [hevent] at hok
      cases hok
  | ok event =>
      refine ⟨hexactly _, fun result hresult => ?_, fun _ => ⟨_, rfl⟩⟩
      cases hresult
      exact hreported

end Theorem

/-! ## A template without channels -/

namespace DispatchSample

theorem isSpace_lowerLatin1 {c : Char} (h : Text.isSpace c = false) :
    Text.isSpace (Text.lowerLatin1 c) = false := by
  simp only [Text.isSpace, Text.isWhiteSpace, Text.toNat_lowerLatin1, Bool.or_eq_false_iff,
    Bool.and_eq_false_iff, decide_eq_false_iff_not] at h ⊢
  split
  · omega
  · exact h

def stdlib : LowerStdlib where
  toStdlib := Reference.stdlib
  strip_lower _ hs := Text.strip_map (fun _ => isSpace_lowerLatin1) hs

def env : Ambient where
  now := 0
  now_nonneg := Reference.epoch_nonneg
  now_le_max := Reference.epoch_le_datetimeMax
  uuid _ := Reference.uuid

/-- Jinja on texts without markup. -/
def plainText : Jinja := fun templateBody _ => .ok templateBody

/-- A channel that is down. -/
def down : Channel := fun _ _ => none

def template : TemplateBody where
  templateKey := "policy_update"
  subjectTemplate := "Событие"
  bodyTemplate := "Обновлена политика"
  channels := some (.list [])

def body : NotifyBody where
  eventId := some "evt-1"
  eventType := "policy.updated"
  source := "policy-manager"
  recipients := .list [.str "editor-1", .str "editor-2"]
  channels := .null
  templateKey := none
  template := some template
  context := []
  messagePurpose := .system
  priority := .normal
  occurredAt := none
  metadata := []

def call : DispatchCall stdlib where
  env := env
  payload := ⟨body, by decide +kernel⟩
  actorId := none
  tenantId := ⟨"media-center", by decide⟩
  correlationId := "corr-1"

def start : GatewayState := ⟨InMemoryNotificationRepository.empty, [], [], []⟩

end DispatchSample

open DispatchSample

theorem correlationAccepted_call : CorrelationAccepted call := by
  unfold CorrelationAccepted
  decide

theorem deliverable_sample {recipientId : String} (hmem : recipientId ∈ call.payload.recipients) :
    Deliverable plainText call (baseOf call start).2 (baseOf call start).1 recipientId := by
  have hrecipients : call.payload.recipients = ["editor-1", "editor-2"] := by decide
  rw [hrecipients, List.mem_cons, List.mem_singleton] at hmem
  rcases hmem with rfl | rfl
  · refine ⟨⟨"Событие", "Обновлена политика",
        contentHash stdlib "Событие" "Обновлена политика"⟩,
      renderNotification_of_ok plainText call (by decide) (by decide), ?_⟩
    exact ⟨by decide, by decide⟩
  · refine ⟨⟨"Событие", "Обновлена политика",
        contentHash stdlib "Событие" "Обновлена политика"⟩,
      renderNotification_of_ok plainText call (by decide) (by decide), ?_⟩
    exact ⟨by decide, by decide⟩

/-- Two recipients, each with the default channel, which is down. -/
theorem dispatch_serves_sample : ∃ sent,
    ServedExactly call start (Fallible.exec (dispatch plainText down call) start).2 sent ∧
    (∀ result, (Fallible.exec (dispatch plainText down call) start).1 = .ok result →
      Reported down call start sent result) ∧
    (Routable call → ∃ result,
      (Fallible.exec (dispatch plainText down call) start).1 = .ok result) :=
  dispatch_serves plainText down call start correlationAccepted_call
    (fun _ hmem _ => deliverable_sample hmem) (by decide)

/-- INTERNAL: where the loop returns, the event does not change what was attempted. -/
theorem attempts_dispatch {py : LowerStdlib} {render : Jinja} {channel : Channel}
    {call : DispatchCall py} {s s' : GatewayState} {p : Progress}
    (hrun : Fallible.exec (call.payload.recipients.foldlM (notifyRecipient render channel call
      (baseOf call s).1) ⟨[], 0, 0⟩) { s with repository := (baseOf call s).2 } = (.ok p, s')) :
    (Fallible.exec (dispatch render channel call) s).2.attempts = s'.attempts := by
  rw [exec_dispatch, hrun]
  simp only
  split
  · rfl
  · rfl

/-- Nothing is requested and the template has no channels, yet the channel is given a command for
the default channel. -/
theorem not_served_as_offered : ¬ ∀ pair ∈ (Fallible.exec (dispatch plainText down call)
    start).2.attempts.map commandPair, pair.2 ∈ call.payload.channels.getD
      (templateOf call (baseOf call start).2 (baseOf call start).1 pair.1).fields.channels := by
  obtain ⟨p, s', hrun⟩ : ∃ p s', Fallible.exec (call.payload.recipients.foldlM
      (notifyRecipient plainText down call (baseOf call start).1) ⟨[], 0, 0⟩)
        { start with repository := (baseOf call start).2 } = (.ok p, s') :=
    exists_exec_recipients plainText correlationAccepted_call
      (fun recipientId => call.payload.tokenPattern_of_mem_recipients)
      (fun recipientId _ => (plannedChannels_spec call (nodup_channels_baseOf call start)
        recipientId).2)
      (fun _ hmem _ => deliverable_sample hmem) (by decide)
  obtain ⟨sent, hattempts, hpairs, _⟩ := (served_recipients plainText _ hrun).1.sent
  have hplan : plannedPairs call (baseOf call start).2 (baseOf call start).1
      call.payload.recipients = [("editor-1", "telegram"), ("editor-2", "telegram")] := by decide
  rw [attempts_dispatch hrun, hattempts, List.map_append, hpairs]
  intro hoffered
  have hmem := hoffered ("editor-1", "telegram")
    (List.mem_append_right _ (by rw [hplan]; exact List.mem_cons_self))
  revert hmem
  decide

end MediaCenter.NotificationGateway
