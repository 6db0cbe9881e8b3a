import MediaCenter.Analysis.HitlPayout.Segments

/-!
# How queueing, confirming and vetoing begin

The three operations that run no connector have the same shape: checks, the audit record,
more checks with the writes, the publication of an event.  `Starts` tells the three ways
such a call can begin apart, exactly: it is refused before it has written anything, it
stops after the audit record, or it gets as far as the publisher.
-/

set_option autoImplicit false

namespace MediaCenter.HitlPayout

open MediaCenter.Library MediaCenter.Shared Coroutine

inductive Starts {α : Type} (s : GatewayState) (audited : AuditLogRecord → Prop)
    (ready : AuditLogRecord → EventEnvelope → α → GatewayState → Prop) :
    Pause gatewayInterface GatewayState HitlError α × GatewayState → Prop where
  | refused (e : HitlError) (h : ∀ record, ¬ audited record) :
      Starts s audited ready (.finished (.error e), s)
  | stopped (e : HitlError) (record : AuditLogRecord) (s' : GatewayState)
      (h : audited record) (hnot : ∀ record event a s', ¬ ready record event a s')
      (hlog : s'.auditLog = s.auditLog ++ [record]) :
      Starts s audited ready (.finished (.error e), s')
  | published (record : AuditLogRecord) (event : EventEnvelope) (a : α) (s' : GatewayState)
      (rest : Except HitlError Unit → Gateway α) (h : audited record)
      (hready : ready record event a s') (hlog : s'.auditLog = s.auditLog ++ [record])
      (haccepted : ∀ s, (rest (.ok ())).advance s = (.finished (.ok a), s))
      (hrefused : ∀ e s, (rest (.error e)).advance s = (.finished (.error e), s)) :
      Starts s audited ready (.suspended (.publish event) rest, s')

/-- What is left of a call, in the state `s₁`, makes it begin in one of these ways. -/
abbrev Begins {α : Type} (s : GatewayState) (audited : AuditLogRecord → Prop)
    (ready : AuditLogRecord → EventEnvelope → α → GatewayState → Prop) (x : Gateway α)
    (s₁ : GatewayState) : Prop :=
  Starts s audited ready (x.advance s₁)

/-- INTERNAL: a call for which everything is ready leaves the state it is ready for. -/
theorem Starts.state_of_ready {α : Type} {s : GatewayState} {audited : AuditLogRecord → Prop}
    {ready : AuditLogRecord → EventEnvelope → α → GatewayState → Prop}
    {start : Pause gatewayInterface GatewayState HitlError α × GatewayState}
    (h : Starts s audited ready start) {record : AuditLogRecord} {event : EventEnvelope} {a : α}
    {s' : GatewayState} (haudited : audited record) (hready : ready record event a s')
    (hunique : ∀ record' event' a' s'', ready record' event' a' s'' → s'' = s') :
    start.2 = s' := by
  cases h with
  | refused e hnone => exact absurd haudited (hnone record)
  | stopped e record' s'' haudited' hnot hlog => exact absurd hready (hnot record event a s')
  | published record' event' a' s'' rest haudited' hready' hlog haccepted hrefused =>
      exact hunique _ _ _ _ hready'

/-- What the publisher answers does not touch the state. -/
theorem Starts.complete_state {α : Type} {s : GatewayState} {audited : AuditLogRecord → Prop}
    {ready : AuditLogRecord → EventEnvelope → α → GatewayState → Prop} {x : Gateway α}
    (h : Starts s audited ready (x.advance s)) (answers : ℕ → ∀ q, gatewayInterface.Answer q) :
    (x.complete answers s).2 = (x.advance s).2 := by
  rw [complete_eq]
  generalize x.advance s = start at h
  cases h with
  | refused e hnone => rfl
  | stopped e record s' haudited hnot hlog => rfl
  | published record event a s' rest haudited hready hlog haccepted hrefused =>
      show ((rest (answers 0 (.publish event))).complete _ s').2 = s'
      rw [complete_eq]
      cases hanswer : answers 0 (.publish event) with
      | ok u => rw [haccepted]
      | error e => rw [hrefused]

section Rules

variable {α β : Type} {s s₁ : GatewayState} {audited : AuditLogRecord → Prop}
  {ready : AuditLogRecord → EventEnvelope → β → GatewayState → Prop}

theorem begins_ofExcept {x : Except HitlError α} {g : α → Gateway β}
    (hbad : ∀ e, x = .error e → Starts s audited ready (.finished (.error e), s₁))
    (hok : ∀ a, x = .ok a → Begins s audited ready (g a) s₁) :
    Begins s audited ready (Coroutine.ofExcept x >>= g) s₁ := by
  show Starts s audited ready ((Coroutine.ofExcept x >>= g).advance s₁)
  rw [advance_bind, advance_ofExcept]
  cases hx : x with
  | ok a => exact hok a hx
  | error e => exact hbad e hx

theorem begins_shared {x : Except SharedException α} {g : α → Gateway β}
    (hbad : ∀ e, x = .error e → Starts s audited ready (.finished (.error (.shared e)), s₁))
    (hok : ∀ a, x = .ok a → Begins s audited ready (g a) s₁) :
    Begins s audited ready (Gateway.shared x >>= g) s₁ := by
  unfold Gateway.shared
  apply begins_ofExcept
  · intro e he
    cases hx : x with
    | ok a =>
        rw [hx] at he
        cases he
    | error e' =>
        rw [hx] at he
        cases he
        exact hbad e' hx
  · intro a ha
    cases hx : x with
    | ok b =>
        rw [hx] at ha
        cases ha
        exact hok _ hx
    | error e =>
        rw [hx] at ha
        cases ha

theorem begins_getPayout {tenantId payoutId : String} {g : PayoutQueueItem → Gateway β}
    (hbad : ∀ e, s₁.payout? (tenantId, payoutId) = none →
      Starts s audited ready (.finished (.error e), s₁))
    (hok : ∀ p, s₁.payout? (tenantId, payoutId) = some p → Begins s audited ready (g p) s₁) :
    Begins s audited ready (Gateway.getPayout tenantId payoutId >>= g) s₁ := by
  show Starts s audited ready ((Gateway.getPayout tenantId payoutId >>= g).advance s₁)
  rw [advance_bind, Gateway.getPayout, advance_inspect]
  unfold PayoutRepository.getPayout
  cases hp : s₁.payouts.payouts.get? (tenantId, payoutId) with
  | some p => exact hok p hp
  | none => exact hbad _ hp

theorem begins_update {f : GatewayState → Except HitlError (α × GatewayState)}
    {g : α → Gateway β}
    (hbad : ∀ e, f s₁ = .error e → Starts s audited ready (.finished (.error e), s₁))
    (hok : ∀ a s₂, f s₁ = .ok (a, s₂) → Begins s audited ready (g a) s₂) :
    Begins s audited ready (Coroutine.update f >>= g) s₁ := by
  show Starts s audited ready ((Coroutine.update f >>= g).advance s₁)
  rw [advance_bind, advance_update]
  cases hf : f s₁ with
  | error e => exact hbad e hf
  | ok p => exact hok p.1 p.2 hf

theorem begins_recordAudit {py : Stdlib} {args : AuditArgs} {g : AuditLogRecord → Gateway β}
    (hbad : ∀ e, auditRecord py args = .error e →
      Starts s audited ready (.finished (.error (.shared e)), s₁))
    (hok : ∀ record, auditRecord py args = .ok record →
      Begins s audited ready (g record) { s₁ with auditLog := s₁.auditLog ++ [record] }) :
    Begins s audited ready (Gateway.recordAudit py args >>= g) s₁ := by
  unfold Gateway.recordAudit
  apply begins_update
  · intro e he
    cases hrecord : auditRecord py args with
    | ok record =>
        rw [hrecord] at he
        cases he
    | error e' =>
        rw [hrecord] at he
        cases he
        exact hbad e' hrecord
  · intro record s₂ h
    cases hrecord : auditRecord py args with
    | error e =>
        rw [hrecord] at h
        cases h
    | ok record' =>
        rw [hrecord] at h
        cases h
        exact hok _ hrecord

theorem begins_addPayout {p : PayoutQueueItem} {g : Unit → Gateway β}
    (hbad : ∀ e, s₁.payout? p.key ≠ none → Starts s audited ready (.finished (.error e), s₁))
    (hok : s₁.payout? p.key = none →
      Begins s audited ready (g ()) { s₁ with payouts := s₁.payouts.put p }) :
    Begins s audited ready (Gateway.addPayout p >>= g) s₁ := by
  unfold Gateway.addPayout
  by_cases hsome : (s₁.payouts.payouts.get? p.key).isSome = true
  · apply begins_update
    · intro e _
      apply hbad
      exact Option.isSome_iff_ne_none.mp hsome
    · intro u s₂ h
      unfold PayoutRepository.addPayout at h
      rw [if_pos hsome] at h
      cases h
  · apply begins_update
    · intro e h
      unfold PayoutRepository.addPayout at h
      rw [if_neg hsome] at h
      cases h
    · intro u s₂ h
      unfold PayoutRepository.addPayout at h
      rw [if_neg hsome] at h
      cases h
      exact hok (Option.not_isSome_iff_eq_none.mp hsome)

theorem begins_updatePayout {p : PayoutQueueItem} {g : PayoutQueueItem → Gateway β}
    (hstored : (s₁.payout? p.key).isSome = true)
    (hok : Begins s audited ready (g p) { s₁ with payouts := s₁.payouts.put p }) :
    Begins s audited ready (Gateway.updatePayout p >>= g) s₁ := by
  have hsome : (s₁.payouts.payouts.get? p.key).isSome = true := hstored
  unfold Gateway.updatePayout
  apply begins_update
  · intro e h
    unfold PayoutRepository.updatePayout at h
    rw [if_pos hsome] at h
    cases h
  · intro a s₂ h
    unfold PayoutRepository.updatePayout at h
    rw [if_pos hsome] at h
    cases h
    exact hok

theorem begins_addDecision {d : VetoDecision} {g : Unit → Gateway β}
    (hbad : ∀ e, s₁.decisions.decisions.get? (VetoDecision.key d) ≠ none →
      Starts s audited ready (.finished (.error e), s₁))
    (hok : s₁.decisions.decisions.get? (VetoDecision.key d) = none →
      Begins s audited ready (g ()) { s₁ with decisions := s₁.decisions.put d }) :
    Begins s audited ready (Gateway.addDecision d >>= g) s₁ := by
  unfold Gateway.addDecision
  by_cases hsome : (s₁.decisions.decisions.get? (VetoDecision.key d)).isSome = true
  · apply begins_update
    · intro e _
      apply hbad
      exact Option.isSome_iff_ne_none.mp hsome
    · intro u s₂ h
      unfold DecisionRepository.addDecision at h
      rw [if_pos hsome] at h
      cases h
  · apply begins_update
    · intro e h
      unfold DecisionRepository.addDecision at h
      rw [if_neg hsome] at h
      cases h
    · intro u s₂ h
      unfold DecisionRepository.addDecision at h
      rw [if_neg hsome] at h
      cases h
      exact hok (Option.not_isSome_iff_eq_none.mp hsome)

theorem begins_addConfirmation {c : PayoutConfirmation} {g : Unit → Gateway β}
    (hbad : ∀ e, (s₁.confirmations.confirmations.get? (PayoutConfirmation.key c) ≠ none ∨
        s₁.confirmations.payoutIndex.get? (PayoutConfirmation.payoutKey c) ≠ none) →
      Starts s audited ready (.finished (.error e), s₁))
    (hok : ∀ hkey : s₁.confirmations.confirmations.get? (PayoutConfirmation.key c) = none,
      s₁.confirmations.payoutIndex.get? (PayoutConfirmation.payoutKey c) = none →
      Begins s audited ready (g ())
        { s₁ with confirmations := s₁.confirmations.put c hkey }) :
    Begins s audited ready (Gateway.addConfirmation c >>= g) s₁ := by
  unfold Gateway.addConfirmation
  apply begins_update
  · intro e h
    apply hbad
    unfold ConfirmationRepository.addConfirmation at h
    split at h
    · rename_i c' hkey
      rw [hkey]
      exact .inl (Option.some_ne_none _)
    · split at h
      · rename_i hindex
        exact .inr (Option.isSome_iff_ne_none.mp hindex)
      · cases h
  · intro u s₂ h
    unfold ConfirmationRepository.addConfirmation at h
    split at h
    · cases h
    · rename_i hkey
      split at h
      · cases h
      · rename_i hindex
        cases h
        exact hok hkey (Option.not_isSome_iff_eq_none.mp hindex)

theorem begins_publishEvent {args : EventEnvelope} {f : EventEnvelope → β}
    (hbad : ∀ e, eventEnvelope args = .error e →
      Starts s audited ready (.finished (.error (.shared e)), s₁))
    (hok : ∀ event, eventEnvelope args = .ok event → ∀ rest : Except HitlError Unit → Gateway β,
      (∀ s, (rest (.ok ())).advance s = (.finished (.ok (f event)), s)) →
      (∀ e s, (rest (.error e)).advance s = (.finished (.error e), s)) →
      Starts s audited ready (.suspended (.publish event) rest, s₁)) :
    Begins s audited ready (Gateway.publishEvent args >>= fun event => pure (f event)) s₁ := by
  show Starts s audited ready
    ((Gateway.publishEvent args >>= fun event => pure (f event)).advance s₁)
  rw [advance_bind, Gateway.publishEvent, advance_bind, Gateway.shared, advance_ofExcept]
  cases he : eventEnvelope args with
  | error e => exact hbad e he
  | ok event =>
      apply hok event he
      · intro s
        rfl
      · intro e s
        rfl

end Rules

/-! ## Queueing -/

section Queue

variable (cfg : GatewayConfig) (env : Ambient) (args : QueueArgs)

/-- What `queue_payout` checks before it writes its audit record. -/
structure QueueAudited (queuedAt vetoUntil : Instant) (record : AuditLogRecord) : Prop where
  requires2fa : args.requires2fa = true
  time : resolveTime cfg.py env.now args.now = .ok queuedAt
  window : checkedInstant (queuedAt + hoursToMicros cfg.vetoWindowHours) = .ok vetoUntil
  record : auditRecord cfg.py (args.auditArgs cfg.py env queuedAt vetoUntil) = .ok record

/-- What it checks after that, up to the publisher. -/
structure QueueReady (s : GatewayState) (queuedAt vetoUntil : Instant)
    (record : AuditLogRecord) (payout : PayoutQueueItem) (event : EventEnvelope) :
    Prop where
  item : payoutQueueItem (args.itemFields cfg.py env queuedAt vetoUntil)
    record.fields.auditHash = .ok payout
  fresh : s.payout? payout.key = none
  event : eventEnvelope (args.event cfg.py env queuedAt payout) = .ok event

def queueAudited (record : AuditLogRecord) : Prop :=
  ∃ queuedAt vetoUntil, QueueAudited cfg env args queuedAt vetoUntil record

def queueReady (s : GatewayState) (record : AuditLogRecord) (event : EventEnvelope)
    (result : PayoutQueueItem × EventEnvelope) (s' : GatewayState) : Prop :=
  ∃ queuedAt vetoUntil payout, QueueAudited cfg env args queuedAt vetoUntil record ∧
    QueueReady cfg env args s queuedAt vetoUntil record payout event ∧
    result = (payout, event) ∧
    s' = { s with auditLog := s.auditLog ++ [record], payouts := s.payouts.put payout }

variable {cfg env args}

theorem QueueAudited.unique {t t' v v' : Instant} {record record' : AuditLogRecord}
    (h : QueueAudited cfg env args t v record)
    (h' : QueueAudited cfg env args t' v' record') : t = t' ∧ v = v' ∧ record = record' := by
  have ht := h.time.symm.trans h'.time
  cases ht
  have hv := h.window.symm.trans h'.window
  cases hv
  have hrecord := h.record.symm.trans h'.record
  cases hrecord
  exact ⟨rfl, rfl, rfl⟩

theorem QueueReady.unique {s : GatewayState} {t v : Instant} {record : AuditLogRecord}
    {payout payout' : PayoutQueueItem} {event event' : EventEnvelope}
    (h : QueueReady cfg env args s t v record payout event)
    (h' : QueueReady cfg env args s t v record payout' event') :
    payout = payout' ∧ event = event' := by
  have hpayout := h.item.symm.trans h'.item
  cases hpayout
  have hevent := h.event.symm.trans h'.event
  cases hevent
  exact ⟨rfl, rfl⟩

theorem queuePayout_starts (s : GatewayState) :
    Begins s (queueAudited cfg env args) (queueReady cfg env args s)
      (queuePayout cfg env args) s := by
  unfold queuePayout
  by_cases h2fa : args.requires2fa = false
  · rw [if_pos h2fa]
    apply Starts.refused
    rintro record ⟨queuedAt, vetoUntil, haudited⟩
    have htrue := haudited.requires2fa
    rw [h2fa] at htrue
    cases htrue
  · rw [if_neg h2fa]
    apply begins_shared
    · intro e he
      apply Starts.refused
      rintro record ⟨queuedAt, vetoUntil, haudited⟩
      exact absurd (he.symm.trans haudited.time) (by simp)
    intro queuedAt htime
    apply begins_shared
    · intro e he
      apply Starts.refused
      rintro record ⟨queuedAt', vetoUntil, haudited⟩
      have ht := htime.symm.trans haudited.time
      cases ht
      exact absurd (he.symm.trans haudited.window) (by simp)
    intro vetoUntil hwindow
    apply begins_recordAudit
    · intro e he
      apply Starts.refused
      rintro record ⟨queuedAt', vetoUntil', haudited⟩
      have ht := htime.symm.trans haudited.time
      cases ht
      have hv := hwindow.symm.trans haudited.window
      cases hv
      exact absurd (he.symm.trans haudited.record) (by simp)
    intro record hrecord
    have haudited : QueueAudited cfg env args queuedAt vetoUntil record :=
      ⟨Bool.eq_true_of_not_eq_false h2fa, htime, hwindow, hrecord⟩
    have hall : queueAudited cfg env args record := ⟨queuedAt, vetoUntil, haudited⟩
    apply begins_shared
    · intro e he
      refine .stopped _ record _ hall ?_ rfl
      rintro record' event result s' ⟨t, v, payout, haudited', hready, _⟩
      obtain ⟨ht, hv, hr⟩ := haudited.unique haudited'
      subst ht hv hr
      exact absurd (he.symm.trans hready.item) (by simp)
    intro payout hitem
    apply begins_addPayout
    · intro e hused
      refine .stopped _ record _ hall ?_ rfl
      rintro record' event result s' ⟨t, v, payout', haudited', hready, _⟩
      obtain ⟨ht, hv, hr⟩ := haudited.unique haudited'
      subst ht hv hr
      have hp := hitem.symm.trans hready.item
      cases hp
      exact hused hready.fresh
    intro hfresh
    apply begins_publishEvent
    · intro e he
      refine .stopped _ record _ hall ?_ rfl
      rintro record' event result s' ⟨t, v, payout', haudited', hready, _⟩
      obtain ⟨ht, hv, hr⟩ := haudited.unique haudited'
      subst ht hv hr
      have hp := hitem.symm.trans hready.item
      cases hp
      exact absurd (he.symm.trans hready.event) (by simp)
    intro event hevent rest haccepted hrefused
    refine .published record event _ _ rest hall ?_ rfl haccepted hrefused
    exact ⟨queuedAt, vetoUntil, payout, haudited, ⟨hitem, hfresh, hevent⟩, rfl, rfl⟩

theorem queuePayout_state {s : GatewayState} {t v : Instant} {record : AuditLogRecord}
    {payout : PayoutQueueItem} {event : EventEnvelope}
    (haudited : QueueAudited cfg env args t v record)
    (hready : QueueReady cfg env args s t v record payout event) :
    ((queuePayout cfg env args).advance s).2 =
      { s with auditLog := s.auditLog ++ [record], payouts := s.payouts.put payout } := by
  have hall : queueReady cfg env args s record event (payout, event) _ :=
    ⟨t, v, payout, haudited, hready, rfl, rfl⟩
  apply (queuePayout_starts s).state_of_ready ⟨t, v, haudited⟩ hall
  rintro record' event' a' s'' ⟨t', v', payout', haudited', hready', _, hs''⟩
  obtain ⟨rfl, rfl, rfl⟩ := haudited.unique haudited'
  obtain ⟨rfl, rfl⟩ := hready.unique hready'
  exact hs''

end Queue

/-! ## Vetoing -/

section Veto

variable (cfg : GatewayConfig) (env : Ambient) (args : VetoArgs) (s : GatewayState)

/-- What `veto_payout` checks before it writes its audit record. -/
structure VetoAudited (decidedAt : Instant) (p : PayoutQueueItem) (record : AuditLogRecord) :
    Prop where
  time : resolveTime cfg.py env.now args.now = .ok decidedAt
  stored : s.payout? (args.tenantId, args.payoutId) = some p
  vetoable : requireVetoable p decidedAt = .ok ()
  record : auditRecord cfg.py (args.auditArgs cfg.py env decidedAt p) = .ok record

/-- What it checks after that, up to the publisher. -/
structure VetoReady (decidedAt : Instant) (p : PayoutQueueItem) (record : AuditLogRecord)
    (d : VetoDecision) (event : EventEnvelope) : Prop where
  decision : vetoDecision (args.decisionFields cfg.py env decidedAt record.fields.auditHash) =
    .ok d
  fresh : s.decisions.decisions.get? (VetoDecision.key d) = none
  event : eventEnvelope (args.event env decidedAt p d) = .ok event

def vetoAudited (record : AuditLogRecord) : Prop :=
  ∃ decidedAt p, VetoAudited cfg env args s decidedAt p record

def vetoReady (record : AuditLogRecord) (event : EventEnvelope) (d : VetoDecision)
    (s' : GatewayState) : Prop :=
  ∃ decidedAt p, VetoAudited cfg env args s decidedAt p record ∧
    VetoReady cfg env args s decidedAt p record d event ∧
    s' = { s with
      auditLog := s.auditLog ++ [record]
      decisions := s.decisions.put d
      payouts := s.payouts.put (p.withStatus .canceled decidedAt (some d.fields.auditHash)
        (some d.fields.decisionId)) }

variable {cfg env args s}

theorem VetoAudited.unique {t t' : Instant} {p p' : PayoutQueueItem}
    {record record' : AuditLogRecord} (h : VetoAudited cfg env args s t p record)
    (h' : VetoAudited cfg env args s t' p' record') :
    t = t' ∧ p = p' ∧ record = record' := by
  have ht := h.time.symm.trans h'.time
  cases ht
  have hp := h.stored.symm.trans h'.stored
  cases hp
  have hrecord := h.record.symm.trans h'.record
  cases hrecord
  exact ⟨rfl, rfl, rfl⟩

theorem VetoReady.unique {t : Instant} {p : PayoutQueueItem} {record : AuditLogRecord}
    {d d' : VetoDecision} {event event' : EventEnvelope}
    (h : VetoReady cfg env args s t p record d event)
    (h' : VetoReady cfg env args s t p record d' event') : d = d' ∧ event = event' := by
  have hd := h.decision.symm.trans h'.decision
  cases hd
  have hevent := h.event.symm.trans h'.event
  cases hevent
  exact ⟨rfl, rfl⟩

theorem vetoPayout_starts (s : GatewayState) :
    Begins s (vetoAudited cfg env args s) (vetoReady cfg env args s)
      (vetoPayout cfg env args) s := by
  unfold vetoPayout
  apply begins_shared
  · intro e he
    apply Starts.refused
    rintro record ⟨t, p, haudited⟩
    exact absurd (he.symm.trans haudited.time) (by simp)
  intro decidedAt htime
  apply begins_getPayout
  · intro e hnone
    apply Starts.refused
    rintro record ⟨t, p, haudited⟩
    exact absurd (hnone.symm.trans haudited.stored) (by simp)
  intro p hstored
  apply begins_ofExcept
  · intro e he
    apply Starts.refused
    rintro record ⟨t, p', haudited⟩
    have ht := htime.symm.trans haudited.time
    cases ht
    have hp := hstored.symm.trans haudited.stored
    cases hp
    exact absurd (he.symm.trans haudited.vetoable) (by simp)
  intro u hvetoable
  apply begins_recordAudit
  · intro e he
    apply Starts.refused
    rintro record ⟨t, p', haudited⟩
    have ht := htime.symm.trans haudited.time
    cases ht
    have hp := hstored.symm.trans haudited.stored
    cases hp
    exact absurd (he.symm.trans haudited.record) (by simp)
  intro record hrecord
  have haudited : VetoAudited cfg env args s decidedAt p record :=
    ⟨htime, hstored, hvetoable, hrecord⟩
  have hall : vetoAudited cfg env args s record := ⟨decidedAt, p, haudited⟩
  apply begins_shared
  · intro e he
    refine .stopped _ record _ hall ?_ rfl
    rintro record' event d s' ⟨t, p', haudited', hready, _⟩
    obtain ⟨ht, hp, hr⟩ := haudited.unique haudited'
    subst ht hp hr
    exact absurd (he.symm.trans hready.decision) (by simp)
  intro d hd
  apply begins_addDecision
  · intro e hused
    refine .stopped _ record _ hall ?_ rfl
    rintro record' event d' s' ⟨t, p', haudited', hready, _⟩
    obtain ⟨ht, hp, hr⟩ := haudited.unique haudited'
    subst ht hp hr
    have hd' := hd.symm.trans hready.decision
    cases hd'
    exact hused hready.fresh
  intro hfresh
  have hthere : (s.payout? p.key).isSome = true := GatewayState.isSome_payout? hstored
  apply begins_updatePayout
  · exact hthere
  apply begins_publishEvent
  · intro e he
    refine .stopped _ record _ hall ?_ rfl
    rintro record' event d' s' ⟨t, p', haudited', hready, _⟩
    obtain ⟨ht, hp, hr⟩ := haudited.unique haudited'
    subst ht hp hr
    have hd' := hd.symm.trans hready.decision
    cases hd'
    exact absurd (he.symm.trans hready.event) (by simp)
  intro event hevent rest haccepted hrefused
  refine .published record event _ _ rest hall ?_ rfl haccepted hrefused
  exact ⟨decidedAt, p, haudited, ⟨hd, hfresh, hevent⟩, rfl⟩

theorem vetoPayout_state {t : Instant} {p : PayoutQueueItem} {record : AuditLogRecord}
    {d : VetoDecision} {event : EventEnvelope}
    (haudited : VetoAudited cfg env args s t p record)
    (hready : VetoReady cfg env args s t p record d event) :
    ((vetoPayout cfg env args).advance s).2 =
      { s with
        auditLog := s.auditLog ++ [record]
        decisions := s.decisions.put d
        payouts := s.payouts.put (p.withStatus .canceled t (some d.fields.auditHash)
          (some d.fields.decisionId)) } := by
  have hall : vetoReady cfg env args s record event d _ := ⟨t, p, haudited, hready, rfl⟩
  apply (vetoPayout_starts s).state_of_ready ⟨t, p, haudited⟩ hall
  rintro record' event' d' s'' ⟨t', p', haudited', hready', hs''⟩
  obtain ⟨rfl, rfl, rfl⟩ := haudited.unique haudited'
  obtain ⟨rfl, rfl⟩ := hready.unique hready'
  exact hs''

end Veto

/-! ## Confirming -/

section Confirm

variable (cfg : GatewayConfig) (env : Ambient) (args : ConfirmArgs) (s : GatewayState)

/-- What `confirm_payout` checks before it writes its audit record. -/
structure ConfirmAudited (p : PayoutQueueItem) (basis : ConfirmBasis)
    (record : AuditLogRecord) : Prop where
  tenant : assertRequestedTenant args.tenantId args.context = .ok ()
  access : requireAccess payoutConfirmPolicy args.context = .ok args.context
  subject : requireSubject args.context = .ok basis.subject
  stored : s.payout? (args.tenantId, args.payoutId) = some p
  confirmable : requireConfirmable p = .ok ()
  twoFactor : requireMatchingTwoFactorConfirmation args.twoFactorConfirmation args.tenantId
    args.payoutId args.context = .ok ()
  role : confirmedByRole args.context.roles = .ok basis.actorRole
  time : datetimeFromUnix args.twoFactorConfirmation.confirmedAt = .ok basis.confirmedAt
  correlation : resolveCorrelationId args.context args.twoFactorConfirmation =
    .ok basis.correlationId
  record : auditRecord cfg.py (args.auditArgs cfg.py env basis p) = .ok record

/-- What it checks after that, up to the publisher. -/
structure ConfirmReady (p : PayoutQueueItem) (basis : ConfirmBasis) (record : AuditLogRecord)
    (c : PayoutConfirmation) (event : EventEnvelope) : Prop where
  confirmation : payoutConfirmation
    (args.confirmationFields cfg.py env basis record.fields.auditHash) = .ok c
  fresh : s.confirmations.confirmations.get? (PayoutConfirmation.key c) = none
  unindexed : s.confirmations.payoutIndex.get? (PayoutConfirmation.payoutKey c) = none
  event : eventEnvelope (args.event env basis p c) = .ok event

def confirmAudited (record : AuditLogRecord) : Prop :=
  ∃ p basis, ConfirmAudited cfg env args s p basis record

def confirmReady (record : AuditLogRecord) (event : EventEnvelope) (c : PayoutConfirmation)
    (s' : GatewayState) : Prop :=
  ∃ p basis, ConfirmAudited cfg env args s p basis record ∧
    ∃ h : ConfirmReady cfg env args s p basis record c event,
    s' = { s with
      auditLog := s.auditLog ++ [record]
      confirmations := s.confirmations.put c h.fresh
      payouts := s.payouts.put (p.withConfirmation c.fields.confirmationId c.fields.actorId
        c.fields.actorHash c.fields.actorRole c.fields.confirmedAt c.fields.auditHash) }

variable {cfg env args s}

theorem ConfirmAudited.unique {p p' : PayoutQueueItem} {basis basis' : ConfirmBasis}
    {record record' : AuditLogRecord} (h : ConfirmAudited cfg env args s p basis record)
    (h' : ConfirmAudited cfg env args s p' basis' record') :
    p = p' ∧ basis = basis' ∧ record = record' := by
  have hp := h.stored.symm.trans h'.stored
  cases hp
  obtain ⟨subject, actorRole, confirmedAt, correlationId⟩ := basis
  obtain ⟨subject', actorRole', confirmedAt', correlationId'⟩ := basis'
  have hsubject := h.subject.symm.trans h'.subject
  cases hsubject
  have hrole := h.role.symm.trans h'.role
  cases hrole
  have htime := h.time.symm.trans h'.time
  cases htime
  have hcorrelation := h.correlation.symm.trans h'.correlation
  cases hcorrelation
  have hrecord := h.record.symm.trans h'.record
  cases hrecord
  exact ⟨rfl, rfl, rfl⟩

theorem ConfirmReady.unique {p : PayoutQueueItem} {basis : ConfirmBasis}
    {record : AuditLogRecord} {c c' : PayoutConfirmation} {event event' : EventEnvelope}
    (h : ConfirmReady cfg env args s p basis record c event)
    (h' : ConfirmReady cfg env args s p basis record c' event') : c = c' ∧ event = event' := by
  have hc := h.confirmation.symm.trans h'.confirmation
  cases hc
  have hevent := h.event.symm.trans h'.event
  cases hevent
  exact ⟨rfl, rfl⟩

theorem confirmPayout_starts (s : GatewayState) :
    Begins s (confirmAudited cfg env args s) (confirmReady cfg env args s)
      (confirmPayout cfg env args) s := by
  unfold confirmPayout
  apply begins_shared
  · intro e he
    apply Starts.refused
    rintro record ⟨p, basis, haudited⟩
    exact absurd (he.symm.trans haudited.tenant) (by simp)
  intro u htenant
  apply begins_shared
  · intro e he
    apply Starts.refused
    rintro record ⟨p, basis, haudited⟩
    exact absurd (he.symm.trans haudited.access) (by simp)
  intro actorContext haccess
  have hactor := requireAccess_eq_ok haccess
  subst hactor
  apply begins_ofExcept
  · intro e he
    apply Starts.refused
    rintro record ⟨p, basis, haudited⟩
    exact absurd (he.symm.trans haudited.subject) (by simp)
  intro subject hsubject
  apply begins_getPayout
  · intro e hnone
    apply Starts.refused
    rintro record ⟨p, basis, haudited⟩
    exact absurd (hnone.symm.trans haudited.stored) (by simp)
  intro p hstored
  apply begins_ofExcept
  · intro e he
    apply Starts.refused
    rintro record ⟨p', basis, haudited⟩
    have hp := hstored.symm.trans haudited.stored
    cases hp
    exact absurd (he.symm.trans haudited.confirmable) (by simp)
  intro u hconfirmable
  apply begins_ofExcept
  · intro e he
    apply Starts.refused
    rintro record ⟨p', basis, haudited⟩
    exact absurd (he.symm.trans haudited.twoFactor) (by simp)
  intro u htwoFactor
  apply begins_ofExcept
  · intro e he
    apply Starts.refused
    rintro record ⟨p', basis, haudited⟩
    exact absurd (he.symm.trans haudited.role) (by simp)
  intro actorRole hrole
  apply begins_shared
  · intro e he
    apply Starts.refused
    rintro record ⟨p', basis, haudited⟩
    exact absurd (he.symm.trans haudited.time) (by simp)
  intro confirmedAt htime
  apply begins_ofExcept
  · intro e he
    apply Starts.refused
    rintro record ⟨p', basis, haudited⟩
    exact absurd (he.symm.trans haudited.correlation) (by simp)
  intro correlationId hcorrelation
  apply begins_recordAudit
  · intro e he
    apply Starts.refused
    rintro record ⟨p', ⟨subject', actorRole', confirmedAt', correlationId'⟩, haudited⟩
    have hp := hstored.symm.trans haudited.stored
    cases hp
    have hsubject' := hsubject.symm.trans haudited.subject
    cases hsubject'
    have hrole' := hrole.symm.trans haudited.role
    cases hrole'
    have htime' := htime.symm.trans haudited.time
    cases htime'
    have hcorrelation' := hcorrelation.symm.trans haudited.correlation
    cases hcorrelation'
    exact absurd (he.symm.trans haudited.record) (by simp)
  intro record hrecord
  have haudited : ConfirmAudited cfg env args s p
      ⟨subject, actorRole, confirmedAt, correlationId⟩ record :=
    ⟨htenant, haccess, hsubject, hstored, hconfirmable, htwoFactor, hrole, htime,
      hcorrelation, hrecord⟩
  have hall : confirmAudited cfg env args s record := ⟨p, _, haudited⟩
  apply begins_shared
  · intro e he
    refine .stopped _ record _ hall ?_ rfl
    rintro record' event c s' ⟨p', basis, haudited', hready, _⟩
    obtain ⟨hp, hb, hr⟩ := haudited.unique haudited'
    subst hp hb hr
    exact absurd (he.symm.trans hready.confirmation) (by simp)
  intro c hc
  apply begins_addConfirmation
  · intro e hused
    refine .stopped _ record _ hall ?_ rfl
    rintro record' event c' s' ⟨p', basis, haudited', hready, _⟩
    obtain ⟨hp, hb, hr⟩ := haudited.unique haudited'
    subst hp hb hr
    have hc' := hc.symm.trans hready.confirmation
    cases hc'
    rcases hused with hused | hused
    · exact hused hready.fresh
    · exact hused hready.unindexed
  intro hkey hindex
  have hthere : (s.payout? p.key).isSome = true := GatewayState.isSome_payout? hstored
  apply begins_updatePayout
  · exact hthere
  apply begins_publishEvent
  · intro e he
    refine .stopped _ record _ hall ?_ rfl
    rintro record' event c' s' ⟨p', basis, haudited', hready, _⟩
    obtain ⟨hp, hb, hr⟩ := haudited.unique haudited'
    subst hp hb hr
    have hc' := hc.symm.trans hready.confirmation
    cases hc'
    exact absurd (he.symm.trans hready.event) (by simp)
  intro event hevent rest haccepted hrefused
  refine .published record event _ _ rest hall ?_ rfl haccepted hrefused
  exact ⟨p, _, haudited, ⟨hc, hkey, hindex, hevent⟩, rfl⟩

theorem confirmPayout_state {p : PayoutQueueItem} {basis : ConfirmBasis}
    {record : AuditLogRecord} {c : PayoutConfirmation} {event : EventEnvelope}
    (haudited : ConfirmAudited cfg env args s p basis record)
    (hready : ConfirmReady cfg env args s p basis record c event) :
    ((confirmPayout cfg env args).advance s).2 =
      { s with
        auditLog := s.auditLog ++ [record]
        confirmations := s.confirmations.put c hready.fresh
        payouts := s.payouts.put (p.withConfirmation c.fields.confirmationId c.fields.actorId
          c.fields.actorHash c.fields.actorRole c.fields.confirmedAt c.fields.auditHash) } := by
  have hall : confirmReady cfg env args s record event c _ :=
    ⟨p, basis, haudited, hready, rfl⟩
  apply (confirmPayout_starts s).state_of_ready ⟨p, basis, haudited⟩ hall
  rintro record' event' c' s'' ⟨p', basis', haudited', hready', hs''⟩
  obtain ⟨rfl, rfl, rfl⟩ := haudited.unique haudited'
  obtain ⟨rfl, rfl⟩ := hready.unique hready'
  exact hs''

end Confirm

end MediaCenter.HitlPayout
