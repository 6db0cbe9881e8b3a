import MediaCenter.Analysis.NotificationGateway.DispatchDeliveries

/-!
# Failed dispatches

Rendering and the limits of a command are checked inside the loop, after the request's template has
been stored and earlier recipients have been served.  A failing dispatch changes nothing exactly
when it fails before the first delivery begins, and stores no template.
-/

set_option autoImplicit false

namespace MediaCenter.NotificationGateway

open MediaCenter.Library MediaCenter.Shared

section Failures

variable {py : LowerStdlib} (render : Jinja) (channel : Channel) (call : DispatchCall py)

/-- The event of a result, with its counts. -/
def Announces (event : EventEnvelope) (result : NotificationDispatchResult) : Prop :=
  event.type = notificationDispatchedEvent ∧
    JSONValue.item "delivered_count" event.payload = some (.int result.deliveredCount) ∧
    JSONValue.item "skipped_count" event.payload = some (.int result.skippedCount) ∧
    JSONValue.item "failed_count" event.payload = some (.int result.failedCount)

/-- A dispatch that raises has changed nothing; one that has attempted a delivery returns, and
publishes one event with its counts. -/
def AllOrNothing (s : GatewayState) : Prop :=
  (∀ e, (Fallible.exec (dispatch render channel call) s).1 = .error e →
    (Fallible.exec (dispatch render channel call) s).2 = s) ∧
  ((Fallible.exec (dispatch render channel call) s).2.attempts ≠ s.attempts →
    ∃ result event, (Fallible.exec (dispatch render channel call) s).1 = .ok result ∧
      (Fallible.exec (dispatch render channel call) s).2.published = s.published ++ [event] ∧
      Announces event result)

/-- The recipients who are to be served. -/
def servedRecipients (s : GatewayState) : List String :=
  call.payload.recipients.filter fun recipientId =>
    !(plannedChannels call (baseOf call s).2 (baseOf call s).1 recipientId).isEmpty

/-- Everything that is going to be checked is in order. -/
def InOrder (s : GatewayState) : Prop :=
  Routable call ∧ (∃ c, normalizeToken call.correlationId "correlation_id" = .ok c) ∧
    (servedRecipients call s ≠ [] → CorrelationAccepted call) ∧
    (∀ recipientId ∈ servedRecipients call s,
      Deliverable render call (baseOf call s).2 (baseOf call s).1 recipientId) ∧
    (plannedPairs call (baseOf call s).2 (baseOf call s).1
      call.payload.recipients).length < 10 ^ 78

/-- No template is stored and no delivery begins: nobody is to be served, the audit log refuses
the correlation id, or the templates of the first to be served do not render. -/
def NothingBegins (s : GatewayState) : Prop :=
  call.payload.template = none ∧
    ∀ recipientId ∈ (servedRecipients call s).head?,
      ¬ CorrelationAccepted call ∨ ∀ rendered,
        call.renderNotification render (templateOf call (baseOf call s).2 (baseOf call s).1
          recipientId) recipientId ≠ .ok rendered

theorem mem_servedRecipients_iff {s : GatewayState} {recipientId : String} :
    recipientId ∈ servedRecipients call s ↔ recipientId ∈ call.payload.recipients ∧
      plannedChannels call (baseOf call s).2 (baseOf call s).1 recipientId ≠ [] := by
  unfold servedRecipients
  rw [List.mem_filter, Bool.not_eq_true', List.isEmpty_eq_false_iff]

/-! ## The loop up to the first who is served -/

/-- INTERNAL: recipients who are not served change nothing. -/
theorem exec_skipped {s : GatewayState} {base : NotificationTemplate} {recipients : List String}
    (hskipped : ∀ recipientId ∈ recipients,
      plannedChannels call s.repository base recipientId = []) (p : Progress) :
    ∃ p', Fallible.exec (recipients.foldlM (notifyRecipient render channel call base) p) s =
      (.ok p', s) ∧ p'.deliveries = p.deliveries := by
  induction recipients generalizing p with
  | nil => exact ⟨p, rfl, rfl⟩
  | cons recipientId rest ih =>
      rw [List.forall_mem_cons] at hskipped
      obtain ⟨p', hrun, hdeliveries⟩ := ih hskipped.2 { p with skippedCount := p.skippedCount + 1 }
      refine ⟨p', ?_, hdeliveries⟩
      rw [Fallible.exec_foldlM_cons, exec_notifyRecipient, if_pos hskipped.1]
      exact hrun

/-- INTERNAL: whoever is served first is reached in the state of the start. -/
theorem exists_split_first {s : GatewayState} {base : NotificationTemplate}
    {recipients : List String} {first : String}
    (hfirst : first ∈ (recipients.filter fun recipientId =>
      !(plannedChannels call s.repository base recipientId).isEmpty).head?) (p : Progress) :
    ∃ rest p', plannedChannels call s.repository base first ≠ [] ∧
      Fallible.exec (recipients.foldlM (notifyRecipient render channel call base) p) s =
        Fallible.exec ((first :: rest).foldlM (notifyRecipient render channel call base) p') s := by
  induction recipients generalizing p with
  | nil => cases hfirst
  | cons recipientId recipients ih =>
      by_cases hnone : plannedChannels call s.repository base recipientId = []
      · rw [List.filter_cons_of_neg (by simp [hnone])] at hfirst
        obtain ⟨rest, p', hplanned, hrun⟩ :=
          ih hfirst { p with skippedCount := p.skippedCount + 1 }
        refine ⟨rest, p', hplanned, ?_⟩
        rw [Fallible.exec_foldlM_cons, exec_notifyRecipient, if_pos hnone]
        exact hrun
      · rw [List.filter_cons_of_pos (by simp [hnone]), List.head?_cons, Option.mem_some_iff]
          at hfirst
        subst hfirst
        exact ⟨recipients, p, hnone, rfl⟩

/-- INTERNAL: a first delivery leaves its audit record, whatever comes after it. -/
theorem exists_auditLog_of_begun (hcorrelation : CorrelationAccepted call) {s : GatewayState}
    {base : NotificationTemplate} {first : String} (rest : List String) (p : Progress)
    {rendered : RenderedNotification}
    (hplanned : plannedChannels call s.repository base first ≠ [])
    (hrendered : call.renderNotification render (templateOf call s.repository base first) first =
      .ok rendered) :
    s.auditLog.length < (Fallible.exec ((first :: rest).foldlM
      (notifyRecipient render channel call base) p) s).2.auditLog.length := by
  obtain ⟨channelName, channels, hchannels⟩ := List.exists_cons_of_ne_nil hplanned
  obtain ⟨audit, hok, herror⟩ := exec_deliver channel call hcorrelation p.deliveries.length first
    channelName (templateOf call s.repository base first) rendered s
  have hdelivered : ∃ result s₁, Fallible.exec (deliverOn channel call first
      (templateOf call s.repository base first) rendered p channelName) s = (result, s₁) ∧
        s₁.auditLog = s.auditLog ++ [audit] := by
    unfold deliverOn
    by_cases hvalid : ∀ c ∈ (call.deliveryCommand p.deliveries.length first channelName
        (templateOf call s.repository base first) rendered audit.fields.auditHash).checks,
        c.2 = true
    · obtain ⟨command, _, hrun⟩ := hok hvalid
      rw [Fallible.exec_bind_of_ok hrun]
      exact ⟨_, _, rfl, rfl⟩
    · obtain ⟨e, hrun⟩ := herror hvalid
      rw [Fallible.exec_bind_of_error hrun]
      exact ⟨_, _, rfl, rfl⟩
  obtain ⟨result, s₁, hrun, haudit⟩ := hdelivered
  have hlonger : s.auditLog.length < s₁.auditLog.length := by
    rw [haudit, List.length_append, List.length_singleton]
    omega
  rw [Fallible.exec_foldlM_cons, exec_notifyRecipient, if_neg hplanned, hrendered, hchannels]
  simp only
  rw [Fallible.exec_foldlM_cons, hrun]
  cases result with
  | error e => exact hlonger
  | ok p₁ =>
      simp only
      have hrest := Fallible.keeps_foldlM extends_refl extends_trans
        (fun p channelName => keeps_deliverOn channel call first
          (templateOf call s.repository base first) rendered p channelName) channels p₁ s₁
      rcases hinner : Fallible.exec (channels.foldlM (deliverOn channel call first
        (templateOf call s.repository base first) rendered) p₁) s₁ with ⟨result', s₂⟩
      rw [hinner] at hrest
      cases result' with
      | error e => exact lt_of_lt_of_le hlonger hrest.2.2.1.length_le
      | ok p₂ =>
          have houter := Fallible.keeps_foldlM extends_refl extends_trans
            (fun p recipientId => keeps_notifyRecipient render channel call base p recipientId)
            rest p₂ s₂
          exact lt_of_lt_of_le hlonger
            (hrest.2.2.1.length_le.trans houter.2.2.1.length_le)

/-! ## Loops that return -/

/-- INTERNAL: the command of a delivery that went through was accepted. -/
theorem limits_of_deliverOn {recipientId channelName : String} {template : NotificationTemplate}
    {rendered : RenderedNotification} {p p' : Progress} {s s' : GatewayState}
    (h : Fallible.exec (deliverOn channel call recipientId template rendered p channelName) s =
      (.ok p', s')) :
    CorrelationAccepted call ∧ WithinLimits rendered ∧ p'.deliveries.length < 10 ^ 78 := by
  obtain ⟨command, audit, hfields, hp, _⟩ := exec_deliverOn_eq_ok channel call h
  have hvalid := command.valid
  rw [hfields] at hvalid
  simp only [DeliveryCommandFields.checks, DispatchCall.deliveryCommand, List.forall_mem_cons]
    at hvalid
  obtain ⟨hid, _, _, _, _, _, _, _, hsubject, hbody, _, hcorrelation, _⟩ := hvalid
  simp only [hasLength, Bool.and_eq_true, decide_eq_true_eq] at hsubject hbody
  refine ⟨hcorrelation, ⟨hsubject.2, hbody.2⟩, ?_⟩
  rw [hp, List.length_append, List.length_singleton]
  exact (tokenPattern_deliveryId_iff call p.deliveries.length).mp hid

/-- INTERNAL: by induction on the channels of a recipient. -/
theorem limits_of_channels {recipientId : String} {template : NotificationTemplate}
    {rendered : RenderedNotification} {channels : List String} {p p' : Progress}
    {s s' : GatewayState} (hp : p.deliveries.length < 10 ^ 78)
    (h : Fallible.exec (channels.foldlM (deliverOn channel call recipientId template rendered) p)
      s = (.ok p', s')) :
    (channels ≠ [] → CorrelationAccepted call ∧ WithinLimits rendered) ∧
      p'.deliveries.length < 10 ^ 78 := by
  refine Fallible.foldlM_invariant
    (P := fun done p' _ => (done ≠ [] → CorrelationAccepted call ∧ WithinLimits rendered) ∧
      p'.deliveries.length < 10 ^ 78) ?_ ⟨fun hne => absurd rfl hne, hp⟩ h
  intro done channelName p₁ s₁ p₂ s₂ _ hstep
  obtain ⟨hcorrelation, hlimits, hnumber⟩ := limits_of_deliverOn channel call hstep
  exact ⟨fun _ => ⟨hcorrelation, hlimits⟩, hnumber⟩

/-- INTERNAL: by induction on the recipients: whoever was served, could be. -/
theorem deliverable_of_returned {s₀ s' : GatewayState} {base : NotificationTemplate}
    {recipients : List String} {p' : Progress}
    (hrun : Fallible.exec (recipients.foldlM (notifyRecipient render channel call base)
      ⟨[], 0, 0⟩) s₀ = (.ok p', s')) :
    (∀ recipientId ∈ recipients, plannedChannels call s₀.repository base recipientId ≠ [] →
      CorrelationAccepted call ∧ Deliverable render call s₀.repository base recipientId) ∧
      p'.deliveries.length < 10 ^ 78 := by
  have hloop := Fallible.foldlM_invariant
    (P := fun done p s => s.repository = s₀.repository ∧
      (∀ recipientId ∈ done, plannedChannels call s₀.repository base recipientId ≠ [] →
        CorrelationAccepted call ∧ Deliverable render call s₀.repository base recipientId) ∧
      p.deliveries.length < 10 ^ 78) ?_ ⟨rfl, fun _ hmem => (by cases hmem), by simp⟩ hrun
  · exact hloop.2
  rintro done recipientId p₁ s₁ p₂ s₂ ⟨hrepository, hdone, hnumber⟩ hstep
  have hkeeps := keeps_notifyRecipient render channel call base p₁ recipientId s₁
  rw [hstep] at hkeeps
  rw [exec_notifyRecipient, hrepository] at hstep
  refine ⟨hkeeps.1.trans hrepository, ?_⟩
  simp only [List.forall_mem_append, List.forall_mem_singleton]
  split at hstep
  · rename_i hnone
    cases hstep
    exact ⟨⟨hdone, fun hplanned => absurd hnone hplanned⟩, hnumber⟩
  · rename_i hplanned
    split at hstep
    · cases hstep
    · rename_i rendered hrendered
      obtain ⟨hserved, hnumber'⟩ := limits_of_channels channel call hnumber hstep
      obtain ⟨hcorrelation, hlimits⟩ := hserved hplanned
      exact ⟨⟨hdone, fun _ => ⟨hcorrelation, rendered, hrendered, hlimits⟩⟩, hnumber'⟩

/-- INTERNAL: a request in order is carried out, and announced. -/
theorem allOrNothing_of_inOrder {s : GatewayState} (h : InOrder render call s) :
    AllOrNothing render channel call s := by
  obtain ⟨hroutable, htoken, hcorrelation, hdeliverable, hcount⟩ := h
  have hloop : ∃ p s', Fallible.exec (call.payload.recipients.foldlM
      (notifyRecipient render channel call (baseOf call s).1) ⟨[], 0, 0⟩)
        { s with repository := (baseOf call s).2 } = (.ok p, s') := by
    by_cases hserved : servedRecipients call s = []
    · have hskipped : ∀ recipientId ∈ call.payload.recipients,
          plannedChannels call (baseOf call s).2 (baseOf call s).1 recipientId = [] := by
        intro recipientId hmem
        by_contra hplanned
        have hin := (mem_servedRecipients_iff call).mpr ⟨hmem, hplanned⟩
        rw [hserved] at hin
        cases hin
      obtain ⟨p', hrun, _⟩ := exec_skipped render channel call
        (s := { s with repository := (baseOf call s).2 }) hskipped ⟨[], 0, 0⟩
      exact ⟨p', _, hrun⟩
    · exact exists_exec_recipients render (hcorrelation hserved)
        (fun recipientId => call.payload.tokenPattern_of_mem_recipients)
        (fun recipientId _ => (plannedChannels_spec call (nodup_channels_baseOf call s)
          recipientId).2)
        (fun recipientId hmem hplanned => hdeliverable recipientId
          ((mem_servedRecipients_iff call).mpr ⟨hmem, hplanned⟩)) hcount
  obtain ⟨p, s', hrun⟩ := hloop
  obtain ⟨event, hevent⟩ := (exists_eventEnvelope_iff call (baseOf call s).1 p).mpr
    ⟨hroutable, htoken⟩
  have hpublished := (served_recipients render _ hrun).1.published
  unfold AllOrNothing
  rw [exec_dispatch, hrun]
  simp only [hevent]
  refine ⟨fun e herror => (by cases herror), fun _ => ⟨_, event, rfl, ?_, ?_⟩⟩
  · rw [hpublished]
  · rw [eventEnvelope_dispatchEvent] at hevent
    simp only [bind_eq_ok_iff] at hevent
    obtain ⟨_, _, c, _, hreturn⟩ := hevent
    cases hreturn
    exact ⟨rfl, rfl, rfl, rfl⟩

/-- INTERNAL: where nothing begins, nothing changes but for the event. -/
theorem allOrNothing_of_nothingBegins {s : GatewayState} (h : NothingBegins render call s) :
    AllOrNothing render channel call s := by
  obtain ⟨htemplate, hfirst⟩ := h
  have hsame : { s with repository := (baseOf call s).2 } = s := by
    unfold baseOf
    rw [htemplate]
  have hrepository : (baseOf call s).2 = s.repository := by
    unfold baseOf
    rw [htemplate]
  unfold AllOrNothing
  rw [exec_dispatch, hsame]
  cases hhead : (servedRecipients call s).head? with
  | none =>
      have hskipped : ∀ recipientId ∈ call.payload.recipients,
          plannedChannels call s.repository (baseOf call s).1 recipientId = [] := by
        intro recipientId hmem
        by_contra hplanned
        rw [← hrepository] at hplanned
        have hin := (mem_servedRecipients_iff call).mpr ⟨hmem, hplanned⟩
        rw [List.head?_eq_none_iff.mp hhead] at hin
        cases hin
      obtain ⟨p', hrun, _⟩ := exec_skipped render channel call hskipped ⟨[], 0, 0⟩
      rw [hrun]
      simp only
      split
      · exact ⟨fun _ _ => rfl, fun hne => absurd rfl hne⟩
      · exact ⟨fun e herror => (by cases herror), fun hne => absurd rfl hne⟩
  | some first =>
      have hrefused := hfirst first (by rw [hhead]; rfl)
      unfold servedRecipients at hhead
      rw [hrepository] at hhead hrefused
      obtain ⟨rest, p', hplanned, hrun⟩ := exists_split_first render channel call
        (Option.mem_def.mpr hhead) ⟨[], 0, 0⟩
      have herror : ∃ e, Fallible.exec ((first :: rest).foldlM (notifyRecipient render channel
          call (baseOf call s).1) p') s = (.error e, s) := by
        rw [Fallible.exec_foldlM_cons, exec_notifyRecipient, if_neg hplanned]
        cases hrendered : call.renderNotification render
            (templateOf call s.repository (baseOf call s).1 first) first with
        | error e => exact ⟨e, rfl⟩
        | ok rendered =>
            have hcorrelation := hrefused.resolve_right fun hnot => hnot rendered hrendered
            obtain ⟨channelName, channels, hchannels⟩ := List.exists_cons_of_ne_nil hplanned
            obtain ⟨e, hdeliver⟩ := exec_deliver_of_not_accepted channel call hcorrelation
              p'.deliveries.length first channelName
              (templateOf call s.repository (baseOf call s).1 first) rendered s
            refine ⟨e, ?_⟩
            rw [hchannels]
            simp only
            unfold deliverOn
            rw [Fallible.exec_foldlM_cons, Fallible.exec_bind_of_error hdeliver]
      obtain ⟨e, herror⟩ := herror
      rw [hrun, herror]
      exact ⟨fun _ _ => rfl, fun hne => absurd rfl hne⟩

/-- INTERNAL: a template that is stored shows in the repository. -/
theorem baseOf_ne_of_template {s : GatewayState} (h : call.payload.template ≠ none) :
    (baseOf call s).2 ≠ s.repository := by
  obtain ⟨template, htemplate⟩ := Option.ne_none_iff_exists'.mp h
  intro hsame
  have hget : (baseOf call s).2.templates.get? (call.tenantId.val, template.templateKey) =
      some (baseOf call s).1 := by
    unfold baseOf
    rw [htemplate]
    exact Dict.get?_set_self _ _ _
  have hrevision : (baseOf call s).1.fields.revision =
      (s.repository.templates.get? (call.tenantId.val, template.templateKey)).elim 0
        (fun existing => existing.fields.revision) + 1 := by
    unfold baseOf
    rw [htemplate]
    unfold InMemoryNotificationRepository.upsertTemplate
    dsimp only
    cases s.repository.templates.get? (call.tenantId.val, template.templateKey) with
    | none => rfl
    | some existing => rfl
  rw [hsame] at hget
  rw [hget, Option.elim_some] at hrevision
  omega

/-- **All or nothing.** -/
theorem dispatch_allOrNothing_iff (s : GatewayState) : AllOrNothing render channel call s ↔
    InOrder render call s ∨ NothingBegins render call s := by
  constructor
  · intro hall
    by_contra hneither
    rw [not_or] at hneither
    obtain ⟨horder, hbegins⟩ := hneither
    have hreturned := hall.1
    rw [exec_dispatch] at hreturned
    rcases hrun : Fallible.exec (call.payload.recipients.foldlM (notifyRecipient render channel
      call (baseOf call s).1) ⟨[], 0, 0⟩) { s with repository := (baseOf call s).2 } with
      ⟨outcome, s'⟩
    have hchanged : s' ≠ s := by
      intro hsame
      have hkeeps := Fallible.keeps_foldlM extends_refl extends_trans
        (fun p recipientId => keeps_notifyRecipient render channel call (baseOf call s).1 p
          recipientId) call.payload.recipients ⟨[], 0, 0⟩ { s with repository := (baseOf call s).2 }
      rw [hrun, hsame] at hkeeps
      have htemplate : call.payload.template = none := by
        by_contra hsome
        exact baseOf_ne_of_template call hsome hkeeps.1.symm
      apply hbegins
      refine ⟨htemplate, fun first hfirst => ?_⟩
      by_contra hboth
      rw [not_or, not_not, not_forall] at hboth
      obtain ⟨hcorrelation, rendered, hrendered⟩ := hboth
      rw [not_not] at hrendered
      obtain ⟨rest, p', hplanned, hsplit⟩ := exists_split_first render channel call
        (s := { s with repository := (baseOf call s).2 }) hfirst ⟨[], 0, 0⟩
      have hlonger := exists_auditLog_of_begun render channel call hcorrelation rest p'
        hplanned hrendered
      rw [← hsplit, hrun, hsame] at hlonger
      exact absurd hlonger (lt_irrefl _)
    cases outcome with
    | error e =>
        rw [hrun] at hreturned
        exact hchanged (hreturned e rfl)
    | ok p =>
        cases hevent : eventEnvelope (dispatchEvent call (dispatchResult call (baseOf call s).1
            p)) with
        | error e =>
            rw [hrun] at hreturned
            simp only [hevent] at hreturned
            exact hchanged (hreturned (.shared e) rfl)
        | ok event =>
            apply horder
            obtain ⟨hroutable, htoken⟩ := (exists_eventEnvelope_iff call (baseOf call s).1 p).mp
              ⟨event, hevent⟩
            obtain ⟨hserved, hnumber⟩ := deliverable_of_returned render channel call hrun
            have hlength := (served_recipients render _ hrun).1.length
            refine ⟨hroutable, htoken, fun hne => ?_, fun recipientId hmem => ?_, ?_⟩
            · obtain ⟨recipientId, _, hcons⟩ := List.exists_cons_of_ne_nil hne
              have hmem : recipientId ∈ servedRecipients call s := by
                rw [hcons]
                exact List.mem_cons_self
              obtain ⟨hlisted, hplanned⟩ := (mem_servedRecipients_iff call).mp hmem
              exact (hserved recipientId hlisted hplanned).1
            · obtain ⟨hlisted, hplanned⟩ := (mem_servedRecipients_iff call).mp hmem
              exact (hserved recipientId hlisted hplanned).2
            · rw [← hlength]
              exact hnumber
  · rintro (horder | hnothing)
    · exact allOrNothing_of_inOrder render channel call horder
    · exact allOrNothing_of_nothingBegins render channel call hnothing

/-- The first recipient has been served when the template of the second fails. -/
theorem not_allOrNothing_of_second {s : GatewayState} {first second : String}
    {rendered : RenderedNotification} {e : GatewayError} (hcorrelation : CorrelationAccepted call)
    (hrecipients : call.payload.recipients = [first, second])
    (hsame : (baseOf call s).2 = s.repository)
    (hfirst : plannedChannels call s.repository (baseOf call s).1 first ≠ [])
    (hsecond : plannedChannels call s.repository (baseOf call s).1 second ≠ [])
    (hrendered : call.renderNotification render
      (templateOf call s.repository (baseOf call s).1 first) first = .ok rendered)
    (hfails : call.renderNotification render
      (templateOf call s.repository (baseOf call s).1 second) second = .error e) :
    ¬ AllOrNothing render channel call s := by
  have hbegun := exists_auditLog_of_begun render channel call hcorrelation [second] ⟨[], 0, 0⟩
    hfirst hrendered
  intro hall
  have hraised := hall.1
  have hstart : { s with repository := (baseOf call s).2 } = s := by
    rw [hsame]
  rw [exec_dispatch, hrecipients, hstart] at hraised
  rcases hrun : Fallible.exec ([first, second].foldlM (notifyRecipient render channel call
    (baseOf call s).1) ⟨[], 0, 0⟩) s with ⟨outcome, s'⟩
  rw [hrun] at hbegun hraised
  cases outcome with
  | error e =>
      rw [hraised e rfl] at hbegun
      exact absurd hbegun (lt_irrefl _)
  | ok p =>
      obtain ⟨_, rendered, hok, _⟩ := (deliverable_of_returned render channel call hrun).1 second
        (List.mem_cons_of_mem _ List.mem_cons_self) hsecond
      rw [hfails] at hok
      cases hok

end Failures

/-! ## The second template does not render -/

namespace FailureSample

open DispatchSample

/-- Jinja on texts without markup, and on a name that the context does not have. -/
def jinja : Jinja := fun templateBody _ =>
  if templateBody = "\x7b\x7b name \x7d\x7d" then .error "'name' is undefined"
  else .ok templateBody

def plain : NotificationTemplateRequest stdlib :=
  ⟨{ templateKey := "policy_update"
     subjectTemplate := "Событие"
     bodyTemplate := "Обновлена политика"
     channels := none }, by decide +kernel⟩

def personal : NotificationTemplateRequest stdlib :=
  ⟨{ templateKey := "personal_update"
     subjectTemplate := "\x7b\x7b name \x7d\x7d"
     bodyTemplate := "Обновлена политика"
     channels := none }, by decide +kernel⟩

def eventType : VerifiedEventType := ⟨"policy.updated", by decide⟩

theorem tenantIdPattern_media : tenantIdPattern "media-center" = true := by decide

def tenantId : VerifiedTenant := ⟨"media-center", tenantIdPattern_media⟩

/-- The second editor has chosen the personal template. -/
def preferences : RecipientPreferences :=
  ⟨{ tenantId := "media-center"
     recipientId := "editor-2"
     enabled := true
     channels := ["telegram"]
     eventTypes := []
     templateOverrides := Dict.empty.set "policy.updated" "personal_update"
     revision := 1
     updatedAt := 0 }, by decide⟩

def repository : InMemoryNotificationRepository :=
  ((InMemoryNotificationRepository.empty.upsertTemplate tenantId eventType plain
    0).2.upsertTemplate tenantId eventType personal 0).2.savePreferences preferences

def start : GatewayState := ⟨repository, [], [], []⟩

def request : NotifyBody where
  eventId := some "evt-1"
  eventType := "policy.updated"
  source := "policy-manager"
  recipients := .list [.str "editor-1", .str "editor-2"]
  channels := .null
  templateKey := some "policy_update"
  template := none
  context := []
  messagePurpose := .system
  priority := .normal
  occurredAt := none
  metadata := []

def call : DispatchCall stdlib where
  env := env
  payload := ⟨request, by decide +kernel⟩
  actorId := none
  tenantId := tenantId
  correlationId := "corr-1"

end FailureSample

open FailureSample in
/-- The template of the second editor names a variable that the context does not have. -/
theorem not_allOrNothing_secondTemplate :
    ¬ AllOrNothing jinja DispatchSample.down FailureSample.call FailureSample.start := by
  have hcorrelation : CorrelationAccepted FailureSample.call := by
    unfold CorrelationAccepted
    decide
  have hrecipients : FailureSample.call.payload.recipients = ["editor-1", "editor-2"] := by
    decide
  have hfirst : plannedChannels FailureSample.call FailureSample.start.repository
      (baseOf FailureSample.call FailureSample.start).1 "editor-1" = ["telegram"] := by
    decide
  have hsecond : plannedChannels FailureSample.call FailureSample.start.repository
      (baseOf FailureSample.call FailureSample.start).1 "editor-2" = ["telegram"] := by
    decide
  have hrendered : FailureSample.call.renderNotification jinja
      (templateOf FailureSample.call FailureSample.start.repository
        (baseOf FailureSample.call FailureSample.start).1 "editor-1") "editor-1" =
      .ok ⟨"Событие", "Обновлена политика",
        contentHash DispatchSample.stdlib "Событие" "Обновлена политика"⟩ :=
    renderNotification_of_ok jinja FailureSample.call (by decide) (by decide)
  have hfails : FailureSample.call.renderNotification jinja
      (templateOf FailureSample.call FailureSample.start.repository
        (baseOf FailureSample.call FailureSample.start).1 "editor-2") "editor-2" =
      .error (.notification "'name' is undefined") := by
    decide
  exact not_allOrNothing_of_second jinja DispatchSample.down FailureSample.call hcorrelation
    hrecipients rfl (by rw [hfirst]; exact List.cons_ne_nil _ _)
    (by rw [hsecond]; exact List.cons_ne_nil _ _) hrendered hfails

end MediaCenter.NotificationGateway
