import MediaCenter.Model.HitlPayout.Managers

/-!
# What one segment of a manager call can do

Between two awaits a call leaves the stores as they are, or makes exactly one of seven
writes.  `Writes` says which, with the checks that were passed before; every invariant of
the gateway is derived from it.

The relation `RP` says how the payouts may have changed since the call read one: not at
all when the calls are made one after another, by the writes of the others when they
overlap.
-/

set_option autoImplicit false

namespace MediaCenter.HitlPayout

open MediaCenter.Library MediaCenter.Shared

/-- Nothing but the audit log differs. -/
structure SameStores (s s' : GatewayState) : Prop where
  payouts : s'.payouts = s.payouts
  decisions : s'.decisions = s.decisions
  confirmations : s'.confirmations = s.confirmations

theorem SameStores.refl (s : GatewayState) : SameStores s s := ⟨rfl, rfl, rfl⟩

theorem SameStores.audit {s s' : GatewayState} (h : SameStores s s')
    (log : List AuditLogRecord) : SameStores s { s' with auditLog := log } :=
  ⟨h.payouts, h.decisions, h.confirmations⟩

/-- The payout stored under an id. -/
def GatewayState.payout? (s : GatewayState) (k : String × String) : Option PayoutQueueItem :=
  s.payouts.payouts.get? k

/-! ## The writes -/

section Writes

variable (RP : PayoutRepository → PayoutRepository → Prop) (cfg : GatewayConfig)

inductive Writes (call : GatewayCall) (r : Resumption gatewayInterface)
    (s s' : GatewayState) : Prop where
  | nothing (same : SameStores s s')
  | queued (args : QueueArgs) (queuedAt vetoUntil : Instant) (auditHash : String)
      (item : PayoutQueueItem)
      (hop : call.op = .queue args) (hr : r = none)
      (htime : resolveTime cfg.py call.env.now args.now = .ok queuedAt)
      (hveto : checkedInstant (queuedAt + hoursToMicros cfg.vetoWindowHours) = .ok vetoUntil)
      (hitem : payoutQueueItem (args.itemFields cfg.py call.env queuedAt vetoUntil)
        auditHash = .ok item)
      (hnew : s.payout? item.key = none)
      (hpayouts : s'.payouts = s.payouts.put item)
      (hdecisions : s'.decisions = s.decisions)
      (hconfirmations : s'.confirmations = s.confirmations)
  | confirmed (args : ConfirmArgs) (basis : ConfirmBasis) (auditHash : String)
      (p : PayoutQueueItem) (c : PayoutConfirmation)
      (hop : call.op = .confirm args) (hr : r = none)
      (hstored : s.payout? (args.tenantId, args.payoutId) = some p)
      (hstatus : p.status = .queued) (hnone : p.confirmationId = none)
      (hc : payoutConfirmation (args.confirmationFields cfg.py call.env basis auditHash) =
        .ok c)
      (hkey : s.confirmations.confirmations.get? (PayoutConfirmation.key c) = none)
      (hpayouts : s'.payouts = s.payouts.put
        (p.withConfirmation c.fields.confirmationId c.fields.actorId c.fields.actorHash
          c.fields.actorRole c.fields.confirmedAt c.fields.auditHash))
      (hdecisions : s'.decisions = s.decisions)
      (hconfirmations : s'.confirmations = s.confirmations.put c hkey)
  | vetoed (args : VetoArgs) (decidedAt : Instant) (auditHash : String)
      (p : PayoutQueueItem) (d : VetoDecision)
      (hop : call.op = .veto args) (hr : r = none)
      (htime : resolveTime cfg.py call.env.now args.now = .ok decidedAt)
      (hstored : s.payout? (args.tenantId, args.payoutId) = some p)
      (hstatus : p.status = .queued) (hopen : decidedAt < p.vetoUntil)
      (hd : vetoDecision (args.decisionFields cfg.py call.env decidedAt auditHash) = .ok d)
      (hkey : s.decisions.decisions.get? (VetoDecision.key d) = none)
      (hpayouts : s'.payouts = s.payouts.put (p.withStatus .canceled decidedAt
        (some d.fields.auditHash) (some d.fields.decisionId)))
      (hdecisions : s'.decisions = s.decisions.put d)
      (hconfirmations : s'.confirmations = s.confirmations)
  | markedReady (args : MarkReadyArgs) (checkedAt : Instant) (p : PayoutQueueItem)
      (hop : call.op = .markReady args) (hr : r = none)
      (htime : resolveTime cfg.py call.env.now args.now = .ok checkedAt)
      (hstored : s.payout? (args.tenantId, args.payoutId) = some p)
      (hstatus : p.status = .queued) (hwindow : p.vetoUntil ≤ checkedAt)
      (hconfirmed : p.confirmationId ≠ none)
      (hpayouts : s'.payouts = s.payouts.put
        (p.withStatus .readyToExecute checkedAt none none))
      (hdecisions : s'.decisions = s.decisions)
      (hconfirmations : s'.confirmations = s.confirmations)
  | executed (args : ExecuteArgs) (requestedAt : Instant) (auditHash : String)
      (read : PayoutRepository) (p : PayoutQueueItem) (payment : PayoutPaymentResult)
      (chain : BlockchainAuditRecordResult) (command : PayoutNotificationCommand)
      (notification : PayoutNotificationResult)
      (hop : call.op = .execute args)
      (hr : r = some ⟨.notifyPayoutExecuted command, .ok notification⟩)
      (htime : resolveTime cfg.py call.env.now args.now = .ok requestedAt)
      (hread : read.payouts.get? (args.tenantId, args.payoutId) = some p)
      (hsince : RP read s.payouts)
      (hexecutable : requireExecutable p requestedAt = .ok ())
      (hpayouts : s'.payouts = s.payouts.put
        (args.executedItem cfg.py call.env p payment auditHash chain notification))
      (hdecisions : s'.decisions = s.decisions)
      (hconfirmations : s'.confirmations = s.confirmations)
  | synced (args : SyncArgs) (auditHash : String) (read : PayoutRepository)
      (p : PayoutQueueItem) (sent : String × String) (command : PayoutPaymentStatusCommand)
      (status : PayoutPaymentStatusResult)
      (hop : call.op = .sync args)
      (hr : r = some ⟨.syncPayoutStatus command, .ok status⟩)
      (hread : read.payouts.get? (args.tenantId, args.payoutId) = some p)
      (hsince : RP read s.payouts)
      (hsent : requireSent p = .ok sent)
      (hpayouts : s'.payouts = s.payouts.put (SyncArgs.syncedItem p status auditHash))
      (hdecisions : s'.decisions = s.decisions)
      (hconfirmations : s'.confirmations = s.confirmations)

end Writes

/-! ## Rules for the steps of a call

One rule for each primitive.  A step that fails ends the call with the stores as they are,
so the rules ask for the good case only. -/

section Rules

variable {RP : PayoutRepository → PayoutRepository → Prop} {cfg : GatewayConfig}
  {call : GatewayCall} {R : GatewayState → GatewayState → Prop} {α β : Type}
  {r : Resumption gatewayInterface} {s₀ s : GatewayState}

/-- The postcondition of a call: its last segment made one of the writes. -/
abbrev Wrote (RP : PayoutRepository → PayoutRepository → Prop) (cfg : GatewayConfig)
    (call : GatewayCall) {α : Type} (_ : Except HitlError α)
    (r : Resumption gatewayInterface) (s s' : GatewayState) : Prop :=
  Writes RP cfg call r s s'

/-- What is left of a call keeps to the writes. -/
abbrev Keeps (RP : PayoutRepository → PayoutRepository → Prop) (cfg : GatewayConfig)
    (call : GatewayCall) (R : GatewayState → GatewayState → Prop) {α : Type}
    (x : Gateway α) (r : Resumption gatewayInterface) (s₀ s : GatewayState) : Prop :=
  x.wp R (Writes RP cfg call) (Wrote RP cfg call) r s₀ s

theorem wp_request (q : GatewayRequest) {Φ : Resumption gatewayInterface → GatewayState →
      GatewayState → Prop}
    {Q : Except HitlError (GatewayResult q) → Resumption gatewayInterface → GatewayState →
      GatewayState → Prop} :
    (Gateway.request q).wp R Φ Q r s₀ s =
      (Φ r s₀ s ∧ ∀ a s', R s s' → Q a (some ⟨q, a⟩) s' s') :=
  Coroutine.wp_attempt q

theorem keeps_map {x : Gateway α} (f : α → β) (h : Keeps RP cfg call R x r s₀ s) :
    Keeps RP cfg call R (f <$> x) r s₀ s := by
  show (f <$> x).wp R (Writes RP cfg call) (Wrote RP cfg call) r s₀ s
  rw [Coroutine.wp_map]
  refine Coroutine.wp_mono (fun _ _ _ h => h) ?_ x r s₀ s h
  intro res r s₀ s hres
  cases res with
  | ok a =>
      rw [Coroutine.andThen_ok, Coroutine.wp_pure]
      exact hres
  | error e => exact hres

theorem keeps_ofExcept {x : Except HitlError α} {g : α → Gateway β}
    (hsame : SameStores s₀ s)
    (hok : ∀ a, x = .ok a → Keeps RP cfg call R (g a) r s₀ s) :
    Keeps RP cfg call R (Coroutine.ofExcept x >>= g) r s₀ s := by
  show (Coroutine.ofExcept x >>= g).wp R (Writes RP cfg call) (Wrote RP cfg call) r s₀ s
  rw [Coroutine.wp_bind, Coroutine.wp_ofExcept]
  cases hx : x with
  | ok a => exact hok a hx
  | error e => exact .nothing hsame

theorem keeps_shared {x : Except SharedException α} {g : α → Gateway β}
    (hsame : SameStores s₀ s)
    (hok : ∀ a, x = .ok a → Keeps RP cfg call R (g a) r s₀ s) :
    Keeps RP cfg call R (Gateway.shared x >>= g) r s₀ s := by
  unfold Gateway.shared
  refine keeps_ofExcept hsame ?_
  intro a ha
  apply hok
  unfold liftShared at ha
  cases x with
  | ok b =>
      cases ha
      rfl
  | error e => cases ha

theorem keeps_shared_last {x : Except SharedException α} (hwrites : Writes RP cfg call r s₀ s) :
    Keeps RP cfg call R (Gateway.shared x) r s₀ s := by
  show (Coroutine.ofExcept (liftShared x)).wp R _ (Wrote RP cfg call) r s₀ s
  rw [Coroutine.wp_ofExcept]
  exact hwrites

theorem keeps_getPayout {tenantId payoutId : String} {g : PayoutQueueItem → Gateway β}
    (hsame : SameStores s₀ s)
    (hok : ∀ p, s.payout? (tenantId, payoutId) = some p →
      Keeps RP cfg call R (g p) r s₀ s) :
    Keeps RP cfg call R (Gateway.getPayout tenantId payoutId >>= g) r s₀ s := by
  show (Gateway.getPayout tenantId payoutId >>= g).wp R _ (Wrote RP cfg call) r s₀ s
  rw [Coroutine.wp_bind, Gateway.getPayout, Coroutine.wp_inspect]
  unfold PayoutRepository.getPayout
  cases hp : s.payouts.payouts.get? (tenantId, payoutId) with
  | some p => exact hok p hp
  | none => exact .nothing hsame

/-- INTERNAL: a change of the state that may itself raise. -/
theorem keeps_update {f : GatewayState → Except HitlError (α × GatewayState)}
    {g : α → Gateway β} (hbad : ∀ e, f s = .error e → Writes RP cfg call r s₀ s)
    (hok : ∀ a s', f s = .ok (a, s') → Keeps RP cfg call R (g a) r s₀ s') :
    Keeps RP cfg call R (Coroutine.update f >>= g) r s₀ s := by
  show (Coroutine.update f >>= g).wp R (Writes RP cfg call) (Wrote RP cfg call) r s₀ s
  rw [Coroutine.wp_bind, Coroutine.wp_update]
  cases hf : f s with
  | error e => exact hbad e hf
  | ok p => exact hok p.1 p.2 hf

theorem keeps_recordAudit {py : Stdlib} {args : AuditArgs} {g : AuditLogRecord → Gateway β}
    (hsame : SameStores s₀ s)
    (hok : ∀ record log, auditRecord py args = .ok record →
      Keeps RP cfg call R (g record) r s₀ { s with auditLog := log }) :
    Keeps RP cfg call R (Gateway.recordAudit py args >>= g) r s₀ s := by
  unfold Gateway.recordAudit
  refine keeps_update (fun _ _ => .nothing hsame) ?_
  intro record s' h
  cases hrecord : auditRecord py args with
  | error e =>
      rw [hrecord] at h
      cases h
  | ok record' =>
      rw [hrecord] at h
      cases h
      exact hok _ _ hrecord

/-- INTERNAL: the last await of a call.  What follows it writes nothing. -/
theorem keeps_publishEvent {args : EventEnvelope} {g : EventEnvelope → Gateway β}
    (hwrites : Writes RP cfg call r s₀ s)
    (hok : ∀ e r' s', Keeps RP cfg call R (g e) r' s' s') :
    Keeps RP cfg call R (Gateway.publishEvent args >>= g) r s₀ s := by
  show (Gateway.publishEvent args >>= g).wp R (Writes RP cfg call) (Wrote RP cfg call) r s₀ s
  rw [Coroutine.wp_bind, Gateway.publishEvent, Coroutine.wp_bind, Gateway.shared,
    Coroutine.wp_ofExcept]
  cases he : liftShared (eventEnvelope args) with
  | error e => exact hwrites
  | ok event =>
      rw [Coroutine.andThen_ok, Coroutine.wp_bind, wp_request]
      refine ⟨hwrites, ?_⟩
      intro a s' _
      cases a with
      | error e => exact .nothing (.refl s')
      | ok u =>
          rw [Coroutine.andThen_ok, Coroutine.wp_pure, Coroutine.andThen_ok]
          exact hok event _ s'

theorem keeps_throw {e : HitlError} (hwrites : Writes RP cfg call r s₀ s) :
    Keeps RP cfg call R (throw e : Gateway α) r s₀ s := by
  show (throw e : Gateway α).wp R (Writes RP cfg call) (Wrote RP cfg call) r s₀ s
  rw [Coroutine.wp_throw]
  exact hwrites

theorem keeps_pure {a : α} (hwrites : Writes RP cfg call r s₀ s) :
    Keeps RP cfg call R (pure a : Gateway α) r s₀ s := by
  show (pure a : Gateway α).wp R (Writes RP cfg call) (Wrote RP cfg call) r s₀ s
  rw [Coroutine.wp_pure]
  exact hwrites

/-- INTERNAL: the failure handler writes to the audit log only, and always raises. -/
theorem wp_failConnector {py : Stdlib} {args : FailureArgs} {e : HitlError}
    {Q : Except HitlError α → Resumption gatewayInterface → GatewayState → GatewayState →
      Prop}
    (hQ : ∀ e r s₀ s, SameStores s₀ s → Q (.error e) r s₀ s) (hsame : SameStores s₀ s) :
    (failConnector py args e : Gateway α).wp R (Writes RP cfg call) Q r s₀ s := by
  unfold failConnector Gateway.recordAudit Gateway.publishEvent Gateway.shared
  rw [Coroutine.wp_bind, Coroutine.wp_update]
  cases hrecord : auditRecord py (args.auditArgs py (asConnectorError args.connectorName e))
      with
  | error e' => exact hQ _ _ _ _ hsame
  | ok record =>
      have hsame' := hsame.audit (s.auditLog ++ [record])
      show ((Coroutine.ofExcept _ >>= _) >>= _).wp R _ Q r s₀ _
      rw [Coroutine.wp_bind, Coroutine.wp_bind, Coroutine.wp_ofExcept]
      cases liftShared (eventEnvelope (args.event (asConnectorError args.connectorName e)
          record.fields.auditHash)) with
      | error e' => exact hQ _ _ _ _ hsame'
      | ok event =>
          rw [Coroutine.andThen_ok, Coroutine.wp_bind, wp_request]
          refine ⟨.nothing hsame', ?_⟩
          intro a s' _
          cases a with
          | error e' => exact hQ _ _ _ _ (.refl s')
          | ok u =>
              rw [Coroutine.andThen_ok, Coroutine.wp_pure, Coroutine.andThen_ok,
                Coroutine.wp_throw]
              exact hQ _ _ _ _ (.refl s')

/-- INTERNAL: a guarded connector call.  If it is answered, the rest of the call goes on
from whatever the others have left; if not, the handler ends the call. -/
theorem keeps_guarded {py : Stdlib} {failure : FailureArgs} {x : Gateway α}
    {g : α → Gateway β}
    (hx : x.wp R (Writes RP cfg call) (fun res r s₀ s => match res with
      | .ok a => Keeps RP cfg call R (g a) r s₀ s
      | .error _ => SameStores s₀ s) r s₀ s) :
    Keeps RP cfg call R (tryCatch x (failConnector py failure) >>= g) r s₀ s := by
  show (tryCatch x (failConnector py failure) >>= g).wp R (Writes RP cfg call)
    (Wrote RP cfg call) r s₀ s
  rw [Coroutine.wp_bind, Coroutine.wp_tryCatch]
  refine Coroutine.wp_mono (fun _ _ _ h => h) ?_ x r s₀ s hx
  intro res r s₀ s hres
  cases res with
  | ok a => exact hres
  | error e =>
      rw [Coroutine.orElse_error]
      exact wp_failConnector (fun _ _ _ _ hsame => .nothing hsame) hres

theorem keeps_payOut {py : Stdlib} {failure : FailureArgs} {fields : PaymentCommandFields}
    {g : PayoutPaymentResult → Gateway β} (hsame : SameStores s₀ s)
    (hok : ∀ c payment s', payoutPaymentCommand fields = .ok c → R s s' →
      Keeps RP cfg call R (g payment) (some ⟨.executePayout c, .ok payment⟩) s' s') :
    Keeps RP cfg call R (payOut py failure fields >>= g) r s₀ s := by
  refine keeps_guarded ?_
  rw [Coroutine.wp_bind, Gateway.shared, Coroutine.wp_ofExcept]
  cases hc : payoutPaymentCommand fields with
  | error e => exact hsame
  | ok c =>
      show (Gateway.request (.executePayout c)).wp R _ _ r s₀ s
      rw [wp_request]
      refine ⟨.nothing hsame, ?_⟩
      intro a s' hR
      cases a with
      | error e => exact .refl s'
      | ok payment => exact hok c payment s' hc hR

theorem keeps_recordOnChain {py : Stdlib} {failure : FailureArgs}
    {fields : AuditCommandFields} {g : BlockchainAuditRecordResult → Gateway β}
    (hsame : SameStores s₀ s)
    (hok : ∀ c chain s', R s s' →
      Keeps RP cfg call R (g chain) (some ⟨.recordAuditHash c, .ok chain⟩) s' s') :
    Keeps RP cfg call R (recordOnChain py failure fields >>= g) r s₀ s := by
  refine keeps_guarded ?_
  rw [Coroutine.wp_bind, Gateway.shared, Coroutine.wp_ofExcept]
  cases hc : blockchainAuditRecordCommand fields with
  | error e => exact hsame
  | ok c =>
      show (Gateway.request (.recordAuditHash c)).wp R _ _ r s₀ s
      rw [wp_request]
      refine ⟨.nothing hsame, ?_⟩
      intro a s' hR
      cases a with
      | error e => exact .refl s'
      | ok chain => exact hok c chain s' hR

theorem keeps_notifyMember {py : Stdlib} {failure : FailureArgs}
    {fields : NotificationCommandFields} {g : PayoutNotificationResult → Gateway β}
    (hsame : SameStores s₀ s)
    (hok : ∀ c notification s', R s s' →
      Keeps RP cfg call R (g notification) (some ⟨.notifyPayoutExecuted c, .ok notification⟩)
        s' s') :
    Keeps RP cfg call R (notifyMember py failure fields >>= g) r s₀ s := by
  refine keeps_guarded ?_
  rw [Coroutine.wp_bind, Gateway.shared, Coroutine.wp_ofExcept]
  cases hc : payoutNotificationCommand fields with
  | error e => exact hsame
  | ok c =>
      show (Gateway.request (.notifyPayoutExecuted c)).wp R _ _ r s₀ s
      rw [wp_request]
      refine ⟨.nothing hsame, ?_⟩
      intro a s' hR
      cases a with
      | error e => exact .refl s'
      | ok notification => exact hok c notification s' hR

theorem keeps_fetchStatus {py : Stdlib} {failure : FailureArgs}
    {fields : StatusCommandFields} {g : PayoutPaymentStatusResult → Gateway β}
    (hsame : SameStores s₀ s)
    (hok : ∀ c status s', R s s' →
      Keeps RP cfg call R (g status) (some ⟨.syncPayoutStatus c, .ok status⟩) s' s') :
    Keeps RP cfg call R (fetchStatus py failure fields >>= g) r s₀ s := by
  refine keeps_guarded ?_
  rw [Coroutine.wp_bind, Gateway.shared, Coroutine.wp_ofExcept]
  cases hc : payoutPaymentStatusCommand fields with
  | error e => exact hsame
  | ok c =>
      show (Gateway.request (.syncPayoutStatus c)).wp R _ _ r s₀ s
      rw [wp_request]
      refine ⟨.nothing hsame, ?_⟩
      intro a s' hR
      cases a with
      | error e => exact .refl s'
      | ok status => exact hok c status s' hR

theorem keeps_addPayout {p : PayoutQueueItem} {g : Unit → Gateway β}
    (hsame : SameStores s₀ s)
    (hok : s.payout? p.key = none →
      Keeps RP cfg call R (g ()) r s₀ { s with payouts := s.payouts.put p }) :
    Keeps RP cfg call R (Gateway.addPayout p >>= g) r s₀ s := by
  unfold Gateway.addPayout
  refine keeps_update (fun _ _ => .nothing hsame) ?_
  intro u s' h
  unfold PayoutRepository.addPayout at h
  by_cases hsome : (s.payouts.payouts.get? p.key).isSome = true
  · rw [if_pos hsome] at h
    cases h
  · rw [if_neg hsome] at h
    cases h
    exact hok (Option.not_isSome_iff_eq_none.mp hsome)

/-- INTERNAL: writing a payout back under its own key succeeds. -/
theorem keeps_updatePayout {p : PayoutQueueItem} {g : PayoutQueueItem → Gateway β}
    (hstored : (s.payout? p.key).isSome = true)
    (hok : Keeps RP cfg call R (g p) r s₀ { s with payouts := s.payouts.put p }) :
    Keeps RP cfg call R (Gateway.updatePayout p >>= g) r s₀ s := by
  have hsome : (s.payouts.payouts.get? p.key).isSome = true := hstored
  unfold Gateway.updatePayout
  refine keeps_update ?_ ?_
  · intro e h
    unfold PayoutRepository.updatePayout at h
    rw [if_pos hsome] at h
    cases h
  · intro a s' h
    unfold PayoutRepository.updatePayout at h
    rw [if_pos hsome] at h
    cases h
    exact hok

theorem keeps_updatePayout_last {p : PayoutQueueItem}
    (hstored : (s.payout? p.key).isSome = true)
    (hwrites : Writes RP cfg call r s₀ { s with payouts := s.payouts.put p }) :
    Keeps RP cfg call R (Gateway.updatePayout p) r s₀ s := by
  have hsome : (s.payouts.payouts.get? p.key).isSome = true := hstored
  show (Gateway.updatePayout p).wp R (Writes RP cfg call) (Wrote RP cfg call) r s₀ s
  unfold Gateway.updatePayout PayoutRepository.updatePayout
  rw [Coroutine.wp_update, if_pos hsome]
  exact hwrites

theorem keeps_addDecision {d : VetoDecision} {g : Unit → Gateway β} (hsame : SameStores s₀ s)
    (hok : s.decisions.decisions.get? (VetoDecision.key d) = none →
      Keeps RP cfg call R (g ()) r s₀ { s with decisions := s.decisions.put d }) :
    Keeps RP cfg call R (Gateway.addDecision d >>= g) r s₀ s := by
  unfold Gateway.addDecision
  refine keeps_update (fun _ _ => .nothing hsame) ?_
  intro u s' h
  unfold DecisionRepository.addDecision at h
  by_cases hsome : (s.decisions.decisions.get? (VetoDecision.key d)).isSome = true
  · rw [if_pos hsome] at h
    cases h
  · rw [if_neg hsome] at h
    cases h
    exact hok (Option.not_isSome_iff_eq_none.mp hsome)

theorem keeps_addConfirmation {c : PayoutConfirmation} {g : Unit → Gateway β}
    (hsame : SameStores s₀ s)
    (hok : ∀ hkey : s.confirmations.confirmations.get? (PayoutConfirmation.key c) = none,
      Keeps RP cfg call R (g ()) r s₀
        { s with confirmations := s.confirmations.put c hkey }) :
    Keeps RP cfg call R (Gateway.addConfirmation c >>= g) r s₀ s := by
  unfold Gateway.addConfirmation
  refine keeps_update (fun _ _ => .nothing hsame) ?_
  intro u s' h
  unfold ConfirmationRepository.addConfirmation at h
  split at h
  · cases h
  · rename_i hkey
    split at h
    · cases h
    · cases h
      exact hok hkey

end Rules

/-! ## The six operations -/

section Operations

variable {RP : PayoutRepository → PayoutRepository → Prop} {cfg : GatewayConfig}
  {call : GatewayCall} {R : GatewayState → GatewayState → Prop}

theorem queuePayout_keeps {args : QueueArgs} (hop : call.op = .queue args)
    (s : GatewayState) :
    Keeps RP cfg call R (queuePayout cfg call.env args) none s s := by
  unfold queuePayout
  by_cases h2fa : args.requires2fa = false
  · rw [if_pos h2fa]
    exact keeps_throw (.nothing (.refl s))
  · rw [if_neg h2fa]
    refine keeps_shared (.refl s) ?_
    intro queuedAt htime
    refine keeps_shared (.refl s) ?_
    intro vetoUntil hveto
    refine keeps_recordAudit (.refl s) ?_
    intro record log hrecord
    refine keeps_shared ((SameStores.refl s).audit log) ?_
    intro payout hitem
    refine keeps_addPayout ((SameStores.refl s).audit log) ?_
    intro hnew
    refine keeps_publishEvent ?_ ?_
    · exact .queued args queuedAt vetoUntil _ payout hop rfl htime hveto hitem hnew rfl rfl rfl
    · intro event r' s'
      exact keeps_pure (.nothing (.refl s'))

/-- INTERNAL: what the checks of a veto say. -/
theorem requireVetoable_eq_ok_iff (p : PayoutQueueItem) (decidedAt : Instant) :
    requireVetoable p decidedAt = .ok () ↔ p.status = .queued ∧ decidedAt < p.vetoUntil := by
  unfold requireVetoable
  by_cases hstatus : p.status = .queued
  · by_cases hopen : p.vetoUntil ≤ decidedAt
    · simp [hstatus, hopen, throw, throwThe, MonadExceptOf.throw]
    · simp [hstatus, hopen, pure, Except.pure, not_le.mp hopen]
  · simp [hstatus, bind, Except.bind, throw, throwThe, MonadExceptOf.throw]

theorem GatewayState.key_of_payout? {s : GatewayState} {k : String × String}
    {p : PayoutQueueItem} (h : s.payout? k = some p) : p.key = k :=
  (s.payouts.keyed k p h).symm

theorem GatewayState.isSome_payout? {s : GatewayState} {k : String × String}
    {p : PayoutQueueItem} (h : s.payout? k = some p) :
    (s.payout? p.key).isSome = true := by
  rw [GatewayState.key_of_payout? h, h]
  rfl

theorem vetoPayout_keeps {args : VetoArgs} (hop : call.op = .veto args) (s : GatewayState) :
    Keeps RP cfg call R (vetoPayout cfg call.env args) none s s := by
  unfold vetoPayout
  refine keeps_shared (.refl s) ?_
  intro decidedAt htime
  refine keeps_getPayout (.refl s) ?_
  intro p hstored
  refine keeps_ofExcept (.refl s) ?_
  intro u hvetoable
  obtain ⟨hstatus, hopen⟩ := (requireVetoable_eq_ok_iff p decidedAt).mp hvetoable
  refine keeps_recordAudit (.refl s) ?_
  intro record log hrecord
  refine keeps_shared ((SameStores.refl s).audit log) ?_
  intro d hd
  refine keeps_addDecision ((SameStores.refl s).audit log) ?_
  intro hkey
  have hthere : (s.payout? p.key).isSome = true := GatewayState.isSome_payout? hstored
  refine keeps_updatePayout ?_ ?_
  · exact hthere
  · refine keeps_publishEvent ?_ ?_
    · exact .vetoed args decidedAt _ p d hop rfl htime hstored hstatus hopen hd hkey
        rfl rfl rfl
    · intro event r' s'
      exact keeps_pure (.nothing (.refl s'))

/-- INTERNAL: what the checks of a confirmation say. -/
theorem requireConfirmable_eq_ok_iff (p : PayoutQueueItem) :
    requireConfirmable p = .ok () ↔ p.status = .queued ∧ p.confirmationId = none := by
  unfold requireConfirmable
  by_cases hstatus : p.status = .queued
  · by_cases hnone : p.confirmationId = none
    · simp [hstatus, hnone, pure, Except.pure]
    · simp [hstatus, hnone, throw, throwThe, MonadExceptOf.throw]
  · simp [hstatus, bind, Except.bind, throw, throwThe, MonadExceptOf.throw]

theorem confirmPayout_keeps {args : ConfirmArgs} (hop : call.op = .confirm args)
    (s : GatewayState) :
    Keeps RP cfg call R (confirmPayout cfg call.env args) none s s := by
  unfold confirmPayout
  refine keeps_shared (.refl s) ?_
  intro _ _
  refine keeps_shared (.refl s) ?_
  intro actorContext _
  refine keeps_ofExcept (.refl s) ?_
  intro subject _
  refine keeps_getPayout (.refl s) ?_
  intro p hstored
  refine keeps_ofExcept (.refl s) ?_
  intro _ hconfirmable
  obtain ⟨hstatus, hnone⟩ := (requireConfirmable_eq_ok_iff p).mp hconfirmable
  refine keeps_ofExcept (.refl s) ?_
  intro _ _
  refine keeps_ofExcept (.refl s) ?_
  intro actorRole _
  refine keeps_shared (.refl s) ?_
  intro confirmedAt _
  refine keeps_ofExcept (.refl s) ?_
  intro correlationId _
  refine keeps_recordAudit (.refl s) ?_
  intro record log _
  refine keeps_shared ((SameStores.refl s).audit log) ?_
  intro c hc
  refine keeps_addConfirmation ((SameStores.refl s).audit log) ?_
  intro hkey
  have hthere : (s.payout? p.key).isSome = true := GatewayState.isSome_payout? hstored
  refine keeps_updatePayout ?_ ?_
  · exact hthere
  · refine keeps_publishEvent ?_ ?_
    · exact .confirmed args _ _ p c hop rfl hstored hstatus hnone hc hkey rfl rfl rfl
    · intro event r' s'
      exact keeps_pure (.nothing (.refl s'))

/-- INTERNAL: what the checks of `mark_ready_for_execution` say. -/
theorem requireReady_eq_ok {p : PayoutQueueItem} {checkedAt : Instant}
    (h : requireReady p checkedAt = .ok ()) (hready : p.status ≠ .readyToExecute) :
    p.status = .queued ∧ p.vetoUntil ≤ checkedAt ∧ p.confirmationId ≠ none := by
  unfold requireReady at h
  simp only [bind, Except.bind, throw, throwThe, MonadExceptOf.throw, pure,
    Except.pure] at h
  split_ifs at h with hcanceled hexecuted hwindow hconfirmed
  refine ⟨?_, not_lt.mp hwindow, hconfirmed⟩
  cases hstatus : p.status with
  | queued => rfl
  | readyToExecute => exact absurd hstatus hready
  | canceled => exact absurd hstatus hcanceled
  | executed => exact absurd hstatus hexecuted

theorem markReadyForExecution_keeps {args : MarkReadyArgs} (hop : call.op = .markReady args)
    (s : GatewayState) :
    Keeps RP cfg call R (markReadyForExecution cfg call.env args) none
      s s := by
  unfold markReadyForExecution
  refine keeps_shared (.refl s) ?_
  intro checkedAt htime
  refine keeps_getPayout (.refl s) ?_
  intro p hstored
  by_cases hready : p.status = .readyToExecute
  · rw [if_pos hready]
    exact keeps_pure (.nothing (.refl s))
  · rw [if_neg hready]
    refine keeps_ofExcept (.refl s) ?_
    intro _ hok
    obtain ⟨hstatus, hwindow, hconfirmed⟩ := requireReady_eq_ok hok hready
    have hthere : (s.payout? p.key).isSome = true := GatewayState.isSome_payout? hstored
    refine keeps_updatePayout_last ?_ ?_
    · exact hthere
    · exact .markedReady args checkedAt p hop rfl htime hstored hstatus hwindow hconfirmed
        rfl rfl rfl

/-- INTERNAL: `execute_payout` reads the payout before its first await and writes a copy of
what it read after its third. -/
theorem executePayout_keeps {args : ExecuteArgs} (hop : call.op = .execute args)
    (hR : ∀ s s', R s s' → RP s.payouts s'.payouts)
    (htrans : ∀ r₁ r₂ r₃, RP r₁ r₂ → RP r₂ r₃ → RP r₁ r₃)
    (hstays : ∀ r₁ r₂ k p, RP r₁ r₂ → r₁.payouts.get? k = some p →
      (r₂.payouts.get? k).isSome = true)
    (s : GatewayState) :
    Keeps RP cfg call R (executePayout cfg call.env args) none s s := by
  unfold executePayout
  refine keeps_shared (.refl s) ?_
  intro requestedAt htime
  refine keeps_getPayout (.refl s) ?_
  intro p hread
  refine keeps_ofExcept (.refl s) ?_
  intro _ hexecutable
  refine keeps_payOut (.refl s) ?_
  intro _ payment s₁ _ h₁
  refine keeps_recordAudit (.refl s₁) ?_
  intro record log _
  refine keeps_recordOnChain ((SameStores.refl s₁).audit log) ?_
  intro _ chain s₂ h₂
  refine keeps_notifyMember (.refl s₂) ?_
  intro command notification s₃ h₃
  have hpaid : RP s.payouts s₁.payouts := hR _ _ h₁
  have hchained : RP s₁.payouts s₂.payouts := hR { s₁ with auditLog := log } s₂ h₂
  have hnotified : RP s₂.payouts s₃.payouts := hR _ _ h₃
  have hsince : RP s.payouts s₃.payouts :=
    htrans _ _ _ hpaid (htrans _ _ _ hchained hnotified)
  have hstored : (s₃.payout? p.key).isSome = true := by
    rw [GatewayState.key_of_payout? hread]
    exact hstays _ _ _ p hsince hread
  refine keeps_updatePayout ?_ ?_
  · exact hstored
  · refine keeps_publishEvent ?_ ?_
    · exact .executed args requestedAt _ s.payouts p payment chain command notification hop
        rfl htime hread hsince hexecutable rfl rfl rfl
    · intro event r' s'
      exact keeps_shared_last (.nothing (.refl s'))

theorem syncPaymentStatus_keeps {args : SyncArgs} (hop : call.op = .sync args)
    (hR : ∀ s s', R s s' → RP s.payouts s'.payouts)
    (hstays : ∀ r₁ r₂ k p, RP r₁ r₂ → r₁.payouts.get? k = some p →
      (r₂.payouts.get? k).isSome = true)
    (s : GatewayState) :
    Keeps RP cfg call R (syncPaymentStatus cfg call.env args) none s s := by
  unfold syncPaymentStatus
  refine keeps_shared (.refl s) ?_
  intro requestedAt _
  refine keeps_getPayout (.refl s) ?_
  intro p hread
  refine keeps_ofExcept (.refl s) ?_
  intro sent hsent
  refine keeps_ofExcept (.refl s) ?_
  intro _ _
  refine keeps_fetchStatus (.refl s) ?_
  intro command status s₁ h₁
  refine keeps_recordAudit (.refl s₁) ?_
  intro record log _
  have hsince : RP s.payouts s₁.payouts := hR _ _ h₁
  have hstored : (s₁.payout? p.key).isSome = true := by
    rw [GatewayState.key_of_payout? hread]
    exact hstays _ _ _ p hsince hread
  refine keeps_updatePayout ?_ ?_
  · exact hstored
  · refine keeps_publishEvent ?_ ?_
    · exact .synced args _ s.payouts p sent command status hop rfl hread hsince hsent rfl
        rfl rfl
    · intro event r' s'
      exact keeps_shared_last (.nothing (.refl s'))

/-- **What a call can do.**  Every segment of every call makes one of the writes. -/
theorem program_keeps (hR : ∀ s s', R s s' → RP s.payouts s'.payouts)
    (htrans : ∀ r₁ r₂ r₃, RP r₁ r₂ → RP r₂ r₃ → RP r₁ r₃)
    (hstays : ∀ r₁ r₂ k p, RP r₁ r₂ → r₁.payouts.get? k = some p →
      (r₂.payouts.get? k).isSome = true)
    (call : GatewayCall) (s : GatewayState) :
    Keeps RP cfg call R (call.program cfg) none s s := by
  unfold GatewayCall.program
  cases hop : call.op with
  | queue args => exact keeps_map _ (queuePayout_keeps hop s)
  | confirm args => exact keeps_map _ (confirmPayout_keeps hop s)
  | veto args => exact keeps_map _ (vetoPayout_keeps hop s)
  | markReady args => exact keeps_map _ (markReadyForExecution_keeps hop s)
  | execute args => exact keeps_map _ (executePayout_keeps hop hR htrans hstays s)
  | sync args => exact keeps_map _ (syncPaymentStatus_keeps hop hR hstays s)

end Operations

end MediaCenter.HitlPayout
