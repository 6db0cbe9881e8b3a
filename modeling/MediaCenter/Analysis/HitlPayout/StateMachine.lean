import MediaCenter.Analysis.HitlPayout.Segments

/-!
# The payout state machine

`Coherent` says how the payouts, the veto decisions and the index of the confirmations fit
together; `PayoutsEvolve` says how a stored payout may change.  Every write keeps both,
also when it is made from a copy that was read earlier, as long as no such copy replaces a
canceled payout.  Calls that do not overlap never hold an old copy.
-/

set_option autoImplicit false

namespace MediaCenter.HitlPayout

open MediaCenter.Library MediaCenter.Shared

/-! ## What is stored together -/

structure CoherentPayout (s : GatewayState) (p : PayoutQueueItem) : Prop where
  confirmed : p.status = .readyToExecute ∨ p.status = .executed → p.confirmationId ≠ none
  indexed : ∀ id, p.confirmationId = some id →
    s.confirmations.payoutIndex.get? p.key = some id
  sent : p.status = .executed ↔ p.executionId ≠ none
  vetoed : p.vetoDecisionId ≠ none → p.status = .canceled
  decided : p.status = .canceled → ∃ d : VetoDecision,
    p.vetoDecisionId = some d.fields.decisionId ∧
      s.decisions.decisions.get? (VetoDecision.key d) = some d ∧
      d.fields.tenantId = p.tenantId ∧ d.fields.payoutId = p.payoutId ∧
      d.fields.decidedAt < p.vetoUntil

def Coherent (s : GatewayState) : Prop :=
  ∀ k p, s.payout? k = some p → CoherentPayout s p

theorem coherent_initial : Coherent .initial := by
  intro k p h
  cases h

/-- INTERNAL: a payout only looks at its index entry and at its decision. -/
theorem CoherentPayout.frame {s s' : GatewayState} {p : PayoutQueueItem}
    (h : CoherentPayout s p)
    (hindex : s'.confirmations.payoutIndex.get? p.key =
      s.confirmations.payoutIndex.get? p.key)
    (hdecisions : ∀ k d, s.decisions.decisions.get? k = some d →
      s'.decisions.decisions.get? k = some d) : CoherentPayout s' p where
  confirmed := h.confirmed
  indexed := by
    intro id hid
    rw [hindex]
    exact h.indexed id hid
  sent := h.sent
  vetoed := h.vetoed
  decided := by
    intro hcanceled
    obtain ⟨d, hid, hstored, hrest⟩ := h.decided hcanceled
    exact ⟨d, hid, hdecisions _ d hstored, hrest⟩

/-! ## How a payout changes -/

structure Evolves (p p' : PayoutQueueItem) : Prop where
  queued : p'.queued = p.queued
  executed : p.status = .executed → p'.status = .executed
  canceled : p.status = .canceled → p'.status = .canceled
  vetoed : p.vetoDecisionId ≠ none → p'.vetoDecisionId = p.vetoDecisionId
  confirmed : p.confirmationId ≠ none → p'.confirmationId = p.confirmationId
  sent : p.executionId ≠ none → p'.executionId ≠ none ∧ p'.status = p.status ∧
    p'.confirmationId = p.confirmationId

theorem Evolves.refl (p : PayoutQueueItem) : Evolves p p :=
  ⟨rfl, id, id, fun _ => rfl, fun _ => rfl, fun h => ⟨h, rfl, rfl⟩⟩

theorem Evolves.trans {p p' p'' : PayoutQueueItem} (h : Evolves p p') (h' : Evolves p' p'') :
    Evolves p p'' where
  queued := h'.queued.trans h.queued
  executed := fun hp => h'.executed (h.executed hp)
  canceled := fun hp => h'.canceled (h.canceled hp)
  vetoed := by
    intro hp
    have hid := h.vetoed hp
    rw [← hid] at hp
    exact (h'.vetoed hp).trans hid
  confirmed := by
    intro hp
    have hid := h.confirmed hp
    rw [← hid] at hp
    exact (h'.confirmed hp).trans hid
  sent := by
    intro hp
    obtain ⟨hp', hstatus, hid⟩ := h.sent hp
    obtain ⟨hp'', hstatus', hid'⟩ := h'.sent hp'
    exact ⟨hp'', hstatus'.trans hstatus, hid'.trans hid⟩

theorem Evolves.key {p p' : PayoutQueueItem} (h : Evolves p p') : p'.key = p.key := by
  unfold PayoutQueueItem.key PayoutQueueItem.tenantId PayoutQueueItem.payoutId
  rw [h.queued]

/-- Stored payouts stay, and each of them evolves. -/
def PayoutsEvolve (r r' : PayoutRepository) : Prop :=
  ∀ k p, r.payouts.get? k = some p → ∃ p', r'.payouts.get? k = some p' ∧ Evolves p p'

theorem PayoutsEvolve.refl (r : PayoutRepository) : PayoutsEvolve r r :=
  fun _ p h => ⟨p, h, .refl p⟩

theorem PayoutsEvolve.trans (r₁ r₂ r₃ : PayoutRepository) (h₁ : PayoutsEvolve r₁ r₂)
    (h₂ : PayoutsEvolve r₂ r₃) : PayoutsEvolve r₁ r₃ := by
  intro k p hp
  obtain ⟨p', hp', hev⟩ := h₁ k p hp
  obtain ⟨p'', hp'', hev'⟩ := h₂ k p' hp'
  exact ⟨p'', hp'', hev.trans hev'⟩

theorem PayoutsEvolve.stays (r r' : PayoutRepository) (k : String × String)
    (p : PayoutQueueItem) (h : PayoutsEvolve r r') (hp : r.payouts.get? k = some p) :
    (r'.payouts.get? k).isSome = true := by
  obtain ⟨p', hp', _⟩ := h k p hp
  rw [hp']
  rfl

/-! ## Writing one payout -/

section Put

variable {s s' : GatewayState} {p : PayoutQueueItem}

theorem payout?_put (hput : s'.payouts = s.payouts.put p) (k : String × String) :
    (k = p.key ∧ s'.payout? k = some p) ∨ (k ≠ p.key ∧ s'.payout? k = s.payout? k) := by
  have hget : s'.payout? k = if k = p.key then some p else s.payout? k := by
    unfold GatewayState.payout?
    rw [hput]
    exact Dict.get?_set _ _ _ _
  by_cases hkey : k = p.key
  · rw [if_pos hkey] at hget
    exact .inl ⟨hkey, hget⟩
  · rw [if_neg hkey] at hget
    exact .inr ⟨hkey, hget⟩

theorem payoutsEvolve_put (hput : s'.payouts = s.payouts.put p)
    (hev : ∀ p₁, s.payout? p.key = some p₁ → Evolves p₁ p) :
    PayoutsEvolve s.payouts s'.payouts := by
  intro k p₁ hp₁
  rcases payout?_put hput k with ⟨hkey, hk⟩ | ⟨hkey, hk⟩
  · rw [hkey] at hp₁
    exact ⟨p, hk, hev p₁ hp₁⟩
  · exact ⟨p₁, hk.trans hp₁, .refl p₁⟩

/-- INTERNAL: a payout gives way to a later copy of itself. -/
theorem payoutsEvolve_replace {k : String × String} {p₁ : PayoutQueueItem}
    (hput : s'.payouts = s.payouts.put p) (hkey : p.key = k) (hstored : s.payout? k = some p₁)
    (hev : Evolves p₁ p) : PayoutsEvolve s.payouts s'.payouts := by
  refine payoutsEvolve_put hput fun p₂ hp₂ => ?_
  rw [hkey, hstored] at hp₂
  cases hp₂
  exact hev

theorem coherent_put (hs : Coherent s) (hput : s'.payouts = s.payouts.put p)
    (hp : CoherentPayout s' p)
    (hrest : ∀ p₁, p₁.key ≠ p.key → CoherentPayout s p₁ → CoherentPayout s' p₁) :
    Coherent s' := by
  intro k p₁ hp₁
  rcases payout?_put hput k with ⟨hkey, hk⟩ | ⟨hkey, hk⟩
  · rw [hp₁] at hk
    cases hk
    exact hp
  · have hstored : s.payout? k = some p₁ := hk.symm.trans hp₁
    apply hrest p₁
    · rw [GatewayState.key_of_payout? hstored]
      exact hkey
    · exact hs k p₁ hstored

/-- INTERNAL: the other payouts, when neither decisions nor confirmations change. -/
theorem CoherentPayout.of_same {p₁ : PayoutQueueItem} (h : CoherentPayout s p₁)
    (hdecisions : s'.decisions = s.decisions)
    (hconfirmations : s'.confirmations = s.confirmations) : CoherentPayout s' p₁ := by
  apply h.frame
  · rw [hconfirmations]
  · intro k d hd
    rw [hdecisions]
    exact hd

end Put

/-! ## Each write keeps what is stored together -/

section Writes

variable {cfg : GatewayConfig} {call : GatewayCall} {s s' : GatewayState}

theorem sameStores_payout? (h : SameStores s s') (k : String × String) :
    s'.payout? k = s.payout? k := by
  unfold GatewayState.payout?
  rw [h.payouts]

theorem SameStores.coherent (h : SameStores s s') (hs : Coherent s) : Coherent s' := by
  intro k p hp
  rw [sameStores_payout? h] at hp
  exact (hs k p hp).of_same h.decisions h.confirmations

/-- INTERNAL: a new payout has none of the later fields. -/
theorem payoutQueueItem_eq_ok {fields : QueuedFields} {auditHash : String}
    {p : PayoutQueueItem} (h : payoutQueueItem fields auditHash = .ok p) :
    p.queued.fields = fields ∧ p.status = .queued ∧ p.confirmationId = none ∧
      p.vetoDecisionId = none ∧ p.executionId = none := by
  unfold payoutQueueItem at h
  cases hmake : Validated.make "PayoutQueueItem" QueuedFields.checks fields with
  | error e =>
      rw [hmake] at h
      cases h
  | ok queued =>
      rw [hmake] at h
      cases h
      have hfields := ((Validated.make_eq_ok_iff _ _ _).mp hmake)
      exact ⟨hfields, rfl, rfl, rfl, rfl⟩

theorem CoherentPayout.queue {p : PayoutQueueItem} (hstatus : p.status = .queued)
    (hconfirmation : p.confirmationId = none) (hveto : p.vetoDecisionId = none)
    (hexecution : p.executionId = none) : CoherentPayout s p where
  confirmed := by
    rintro (h | h)
    · rw [hstatus] at h
      cases h
    · rw [hstatus] at h
      cases h
  indexed := by
    intro id h
    rw [hconfirmation] at h
    cases h
  sent := by
    rw [hstatus, hexecution]
    simp
  vetoed := fun h => absurd hveto h
  decided := by
    intro h
    rw [hstatus] at h
    cases h

/-- INTERNAL: a payout in status queued has no veto and was not sent. -/
theorem CoherentPayout.of_queued {p : PayoutQueueItem} (h : CoherentPayout s p)
    (hstatus : p.status = .queued) : p.vetoDecisionId = none ∧ p.executionId = none := by
  constructor
  · by_contra hveto
    have hcanceled := h.vetoed hveto
    rw [hstatus] at hcanceled
    cases hcanceled
  · by_contra hsent
    have hexecuted := h.sent.mpr hsent
    rw [hstatus] at hexecuted
    cases hexecuted

/-- INTERNAL: the ids of a stored payout have no surrounding white space. -/
theorem trim_of_payout? {tenantId payoutId : String} {p : PayoutQueueItem}
    (h : s.payout? (tenantId, payoutId) = some p) :
    Text.trim tenantId = tenantId ∧ Text.trim payoutId = payoutId := by
  have hkey : p.key = (tenantId, payoutId) := GatewayState.key_of_payout? h
  have htenant : p.tenantId = tenantId := congrArg Prod.fst hkey
  have hpayout : p.payoutId = payoutId := congrArg Prod.snd hkey
  constructor
  · rw [← htenant]
    apply trim_of_tokenPattern
    apply tokenPattern_of_tenantIdPattern
    exact p.queued.valid ("tenant_id", tenantIdPattern p.queued.fields.tenantId)
      (by simp [QueuedFields.checks])
  · rw [← hpayout]
    apply trim_of_tokenPattern
    exact p.queued.valid ("payout_id", tokenPattern p.queued.fields.payoutId)
      (by simp [QueuedFields.checks])

theorem queued_preserves {item : PayoutQueueItem} {fields : QueuedFields} {auditHash : String}
    (hs : Coherent s) (hitem : payoutQueueItem fields auditHash = .ok item)
    (hnew : s.payout? item.key = none) (hpayouts : s'.payouts = s.payouts.put item)
    (hdecisions : s'.decisions = s.decisions)
    (hconfirmations : s'.confirmations = s.confirmations) :
    Coherent s' ∧ PayoutsEvolve s.payouts s'.payouts := by
  obtain ⟨_, hstatus, hconfirmation, hveto, hexecution⟩ := payoutQueueItem_eq_ok hitem
  constructor
  · refine coherent_put hs hpayouts (.queue hstatus hconfirmation hveto hexecution) ?_
    intro p₁ _ hp₁
    exact hp₁.of_same hdecisions hconfirmations
  · refine payoutsEvolve_put hpayouts ?_
    intro p₁ hp₁
    rw [hnew] at hp₁
    cases hp₁

theorem confirmed_preserves {args : ConfirmArgs} {fields : ConfirmationFields}
    {p : PayoutQueueItem} {c : PayoutConfirmation} (hs : Coherent s)
    (hstored : s.payout? (args.tenantId, args.payoutId) = some p)
    (hstatus : p.status = .queued) (hnone : p.confirmationId = none)
    (htenant : fields.tenantId = args.tenantId) (hpayout : fields.payoutId = args.payoutId)
    (hc : payoutConfirmation fields = .ok c)
    (hkey : s.confirmations.confirmations.get? (PayoutConfirmation.key c) = none)
    (hpayouts : s'.payouts = s.payouts.put
      (p.withConfirmation c.fields.confirmationId c.fields.actorId c.fields.actorHash
        c.fields.actorRole c.fields.confirmedAt c.fields.auditHash))
    (hdecisions : s'.decisions = s.decisions)
    (hconfirmations : s'.confirmations = s.confirmations.put c hkey) :
    Coherent s' ∧ PayoutsEvolve s.payouts s'.payouts := by
  have hp := hs _ p hstored
  obtain ⟨hveto, hexecution⟩ := hp.of_queued hstatus
  obtain ⟨htrimTenant, htrimPayout⟩ := trim_of_payout? hstored
  have hfields := (Validated.make_eq_ok_iff _ _ _).mp hc
  have hpayoutKey : PayoutConfirmation.payoutKey c = p.key := by
    rw [GatewayState.key_of_payout? hstored, PayoutConfirmation.payoutKey, hfields]
    simp only [htenant, hpayout, htrimTenant, htrimPayout]
  have hindex : s'.confirmations.payoutIndex =
      s.confirmations.payoutIndex.set p.key c.fields.confirmationId := by
    rw [hconfirmations, ← hpayoutKey]
    rfl
  constructor
  · refine coherent_put hs hpayouts ?_ ?_
    · refine ⟨?_, ?_, ?_, ?_, ?_⟩
      · rintro (h | h)
        · exact absurd (hstatus.symm.trans h) (by decide)
        · exact absurd (hstatus.symm.trans h) (by decide)
      · intro id hid
        cases hid
        rw [hindex]
        exact Dict.get?_set_self _ _ _
      · exact hp.sent
      · exact hp.vetoed
      · intro h
        exact absurd (hstatus.symm.trans h) (by decide)
    · intro p₁ hne hp₁
      apply hp₁.frame
      · rw [hindex]
        exact Dict.get?_set_of_ne _ hne _
      · intro k d hd
        rw [hdecisions]
        exact hd
  · have hpkey := GatewayState.key_of_payout? hstored
    refine payoutsEvolve_replace hpayouts hpkey hstored ⟨rfl, id, id, fun _ => rfl, ?_, ?_⟩
    · exact fun h => absurd hnone h
    · exact fun h => absurd hexecution h

theorem vetoed_preserves {args : VetoArgs} {fields : DecisionFields} {p : PayoutQueueItem}
    {d : VetoDecision} {decidedAt : Instant} (hs : Coherent s)
    (hstored : s.payout? (args.tenantId, args.payoutId) = some p)
    (hstatus : p.status = .queued) (hopen : decidedAt < p.vetoUntil)
    (htenant : fields.tenantId = args.tenantId) (hpayout : fields.payoutId = args.payoutId)
    (hdecidedAt : fields.decidedAt = decidedAt) (hd : vetoDecision fields = .ok d)
    (hkey : s.decisions.decisions.get? (VetoDecision.key d) = none)
    (hpayouts : s'.payouts = s.payouts.put (p.withStatus .canceled decidedAt
      (some d.fields.auditHash) (some d.fields.decisionId)))
    (hdecisions : s'.decisions = s.decisions.put d)
    (hconfirmations : s'.confirmations = s.confirmations) :
    Coherent s' ∧ PayoutsEvolve s.payouts s'.payouts := by
  have hp := hs _ p hstored
  obtain ⟨hveto, hexecution⟩ := hp.of_queued hstatus
  obtain ⟨htrimTenant, htrimPayout⟩ := trim_of_payout? hstored
  have hpkey := GatewayState.key_of_payout? hstored
  have hfields := (Validated.make_eq_ok_iff _ _ _).mp hd
  have hdTenant : d.fields.tenantId = p.tenantId := by
    rw [hfields]
    simp only [htenant, htrimTenant]
    exact (congrArg Prod.fst hpkey).symm
  have hdPayout : d.fields.payoutId = p.payoutId := by
    rw [hfields]
    simp only [hpayout, htrimPayout]
    exact (congrArg Prod.snd hpkey).symm
  have hdDecided : d.fields.decidedAt < p.vetoUntil := by
    rw [hfields]
    simp only [hdecidedAt]
    exact hopen
  have hget : ∀ k, s'.decisions.decisions.get? k =
      if k = VetoDecision.key d then some d else s.decisions.decisions.get? k := by
    intro k
    rw [hdecisions]
    exact Dict.get?_set _ _ _ _
  constructor
  · refine coherent_put hs hpayouts ?_ ?_
    · refine ⟨?_, ?_, ?_, ?_, ?_⟩
      · rintro (h | h)
        · cases h
        · cases h
      · intro id hid
        rw [hconfirmations]
        exact hp.indexed id hid
      · constructor
        · intro h
          cases h
        · intro h
          exact absurd hexecution h
      · exact fun _ => rfl
      · intro _
        refine ⟨d, rfl, ?_, hdTenant, hdPayout, hdDecided⟩
        rw [hget, if_pos rfl]
    · intro p₁ hne hp₁
      apply hp₁.frame
      · rw [hconfirmations]
      · intro k d' hd'
        rw [hget, if_neg]
        · exact hd'
        · intro hk
          rw [hk, hkey] at hd'
          cases hd'
  · refine payoutsEvolve_replace hpayouts hpkey hstored ⟨rfl, ?_, fun _ => rfl, ?_, fun _ => rfl, ?_⟩
    · intro h
      exact absurd (hstatus.symm.trans h) (by decide)
    · exact fun h => absurd hveto h
    · exact fun h => absurd hexecution h

theorem markedReady_preserves {args : MarkReadyArgs} {p : PayoutQueueItem}
    {checkedAt : Instant} (hs : Coherent s)
    (hstored : s.payout? (args.tenantId, args.payoutId) = some p)
    (hstatus : p.status = .queued) (hconfirmed : p.confirmationId ≠ none)
    (hpayouts : s'.payouts = s.payouts.put
      (p.withStatus .readyToExecute checkedAt none none))
    (hdecisions : s'.decisions = s.decisions)
    (hconfirmations : s'.confirmations = s.confirmations) :
    Coherent s' ∧ PayoutsEvolve s.payouts s'.payouts := by
  have hp := hs _ p hstored
  obtain ⟨hveto, hexecution⟩ := hp.of_queued hstatus
  constructor
  · refine coherent_put hs hpayouts ?_ ?_
    · refine ⟨fun _ => hconfirmed, ?_, ?_, ?_, ?_⟩
      · intro id hid
        rw [hconfirmations]
        exact hp.indexed id hid
      · constructor
        · intro h
          cases h
        · intro h
          exact absurd hexecution h
      · intro h
        exact absurd hveto h
      · intro h
        cases h
    · intro p₁ _ hp₁
      exact hp₁.of_same hdecisions hconfirmations
  · have hpkey := GatewayState.key_of_payout? hstored
    refine payoutsEvolve_replace hpayouts hpkey hstored ⟨rfl, ?_, ?_, fun _ => rfl, fun _ => rfl, ?_⟩
    · intro h
      exact absurd (hstatus.symm.trans h) (by decide)
    · intro h
      exact absurd (hstatus.symm.trans h) (by decide)
    · exact fun h => absurd hexecution h

/-- INTERNAL: what the checks of an execution say. -/
theorem requireExecutable_eq_ok {p : PayoutQueueItem} {t : Instant}
    (h : requireExecutable p t = .ok ()) :
    (p.status = .queued ∨ p.status = .readyToExecute) ∧ p.vetoUntil ≤ t ∧
      p.confirmationId ≠ none := by
  unfold requireExecutable at h
  simp only [bind, Except.bind, throw, throwThe, MonadExceptOf.throw, pure,
    Except.pure] at h
  split_ifs at h with hcanceled hexecuted hstatus hwindow hconfirmed
  exact ⟨hstatus, not_lt.mp hwindow, hconfirmed⟩

theorem requireSent_eq_ok {p : PayoutQueueItem} {sent : String × String}
    (h : requireSent p = .ok sent) : p.executionId ≠ none := by
  unfold requireSent at h
  intro hnone
  rw [hnone] at h
  cases h

/-- INTERNAL: the copy that `execute_payout` writes was read before its awaits. -/
theorem executed_preserves {args : ExecuteArgs} {read : PayoutRepository}
    {p : PayoutQueueItem} {t : Instant} {payment : PayoutPaymentResult} {auditHash : String}
    {chain : BlockchainAuditRecordResult} {notification : PayoutNotificationResult}
    (hs : Coherent s) (hread : read.payouts.get? (args.tenantId, args.payoutId) = some p)
    (hsince : PayoutsEvolve read s.payouts) (hexecutable : requireExecutable p t = .ok ())
    (hkept : ∀ p₁, s.payout? (args.tenantId, args.payoutId) = some p₁ →
      p₁.status ≠ .canceled)
    (hpayouts : s'.payouts = s.payouts.put
      (args.executedItem cfg.py call.env p payment auditHash chain notification))
    (hdecisions : s'.decisions = s.decisions)
    (hconfirmations : s'.confirmations = s.confirmations) :
    Coherent s' ∧ PayoutsEvolve s.payouts s'.payouts := by
  obtain ⟨_, _, hconfirmation⟩ := requireExecutable_eq_ok hexecutable
  obtain ⟨p₁, hstored, hev⟩ := hsince _ p hread
  have hp₁ := hs _ p₁ hstored
  have hpkey : p.key = (args.tenantId, args.payoutId) := (read.keyed _ p hread).symm
  have hveto₁ : p₁.vetoDecisionId = none := by
    by_contra hveto
    exact hkept p₁ hstored (hp₁.vetoed hveto)
  have hveto : p.vetoDecisionId = none := by
    by_contra hveto
    have hsame := hev.vetoed hveto
    rw [hveto₁] at hsame
    exact hveto hsame.symm
  constructor
  · refine coherent_put hs hpayouts ?_ ?_
    · refine ⟨fun _ => hconfirmation, ?_, ?_, ?_, ?_⟩
      · intro id hid
        rw [hconfirmations]
        have hindexed := hp₁.indexed id ((hev.confirmed hconfirmation).trans hid)
        rw [hev.key] at hindexed
        exact hindexed
      · constructor
        · intro _ h
          cases h
        · exact fun _ => rfl
      · intro h
        exact absurd hveto h
      · intro h
        cases h
    · intro p₂ _ hp₂
      exact hp₂.of_same hdecisions hconfirmations
  · refine payoutsEvolve_replace hpayouts hpkey hstored ⟨hev.queued.symm, fun _ => rfl, ?_, ?_, ?_, ?_⟩
    · intro h
      exact absurd h (hkept p₁ hstored)
    · intro h
      exact absurd hveto₁ h
    · intro _
      exact (hev.confirmed hconfirmation).symm
    · intro h
      refine ⟨?_, (hp₁.sent.mpr h).symm, (hev.confirmed hconfirmation).symm⟩
      intro hnone
      cases hnone

theorem synced_preserves {args : SyncArgs} {read : PayoutRepository} {p : PayoutQueueItem}
    {sent : String × String} {status : PayoutPaymentStatusResult} {auditHash : String}
    (hs : Coherent s) (hread : read.payouts.get? (args.tenantId, args.payoutId) = some p)
    (hsince : PayoutsEvolve read s.payouts) (hsent : requireSent p = .ok sent)
    (hpayouts : s'.payouts = s.payouts.put (SyncArgs.syncedItem p status auditHash))
    (hdecisions : s'.decisions = s.decisions)
    (hconfirmations : s'.confirmations = s.confirmations) :
    Coherent s' ∧ PayoutsEvolve s.payouts s'.payouts := by
  have hexecution := requireSent_eq_ok hsent
  obtain ⟨p₁, hstored, hev⟩ := hsince _ p hread
  have hp₁ := hs _ p₁ hstored
  have hpkey : p.key = (args.tenantId, args.payoutId) := (read.keyed _ p hread).symm
  obtain ⟨hexecution₁, hstatus, hconfirmation⟩ := hev.sent hexecution
  have hexecuted₁ : p₁.status = .executed := hp₁.sent.mpr hexecution₁
  have hexecuted : p.status = .executed := hstatus.symm.trans hexecuted₁
  have hveto₁ : p₁.vetoDecisionId = none := by
    by_contra hveto
    exact absurd (hexecuted₁.symm.trans (hp₁.vetoed hveto)) (by decide)
  have hveto : p.vetoDecisionId = none := by
    by_contra hveto
    have hsame := hev.vetoed hveto
    rw [hveto₁] at hsame
    exact hveto hsame.symm
  constructor
  · refine coherent_put hs hpayouts ?_ ?_
    · refine ⟨?_, ?_, ?_, ?_, ?_⟩
      · intro _
        have h := hp₁.confirmed (.inr hexecuted₁)
        rw [hconfirmation] at h
        exact h
      · intro id hid
        rw [hconfirmations]
        have hindexed := hp₁.indexed id (hconfirmation.trans hid)
        rw [hev.key] at hindexed
        exact hindexed
      · exact ⟨fun _ => hexecution, fun _ => hexecuted⟩
      · intro h
        exact absurd hveto h
      · intro h
        exact absurd (hexecuted.symm.trans h) (by decide)
    · intro p₂ _ hp₂
      exact hp₂.of_same hdecisions hconfirmations
  · refine payoutsEvolve_replace hpayouts hpkey hstored ⟨hev.queued.symm, fun _ => hexecuted, ?_, ?_, ?_, ?_⟩
    · intro h
      exact absurd (hexecuted₁.symm.trans h) (by decide)
    · intro h
      exact absurd hveto₁ h
    · intro _
      exact hconfirmation.symm
    · intro _
      exact ⟨hexecution, hstatus.symm, hconfirmation.symm⟩

/-- **Every write keeps the state machine**, if no execution replaces a canceled payout. -/
theorem Writes.preserves {RP : PayoutRepository → PayoutRepository → Prop}
    {r : Resumption gatewayInterface} (h : Writes RP cfg call r s s') (hs : Coherent s)
    (hRP : ∀ read, RP read s.payouts → PayoutsEvolve read s.payouts)
    (hkept : ∀ args : ExecuteArgs, ∀ command notification read p t, call.op = .execute args →
      r = some ⟨.notifyPayoutExecuted command, .ok notification⟩ → RP read s.payouts →
      read.payouts.get? (args.tenantId, args.payoutId) = some p →
      requireExecutable p t = .ok () → ∀ p₁,
      s.payout? (args.tenantId, args.payoutId) = some p₁ → p₁.status ≠ .canceled) :
    Coherent s' ∧ PayoutsEvolve s.payouts s'.payouts := by
  cases h with
  | nothing same =>
      refine ⟨same.coherent hs, ?_⟩
      rw [same.payouts]
      exact .refl _
  | queued args queuedAt vetoUntil auditHash item hop hr htime hveto hitem hnew hpayouts
      hdecisions hconfirmations =>
      exact queued_preserves hs hitem hnew hpayouts hdecisions hconfirmations
  | confirmed args basis auditHash p c hop hr hstored hstatus hnone hc hkey hpayouts
      hdecisions hconfirmations =>
      exact confirmed_preserves hs hstored hstatus hnone rfl rfl hc hkey hpayouts hdecisions
        hconfirmations
  | vetoed args decidedAt auditHash p d hop hr htime hstored hstatus hopen hd hkey hpayouts
      hdecisions hconfirmations =>
      exact vetoed_preserves hs hstored hstatus hopen rfl rfl rfl hd hkey hpayouts hdecisions
        hconfirmations
  | markedReady args checkedAt p hop hr htime hstored hstatus hwindow hconfirmed hpayouts
      hdecisions hconfirmations =>
      exact markedReady_preserves hs hstored hstatus hconfirmed hpayouts hdecisions
        hconfirmations
  | executed args requestedAt auditHash read p payment chain command notification hop hr
      htime hread hsince hexecutable hpayouts hdecisions hconfirmations =>
      refine executed_preserves hs hread (hRP read hsince) hexecutable ?_ hpayouts hdecisions
        hconfirmations
      exact hkept args command notification read p requestedAt hop hr hsince hread hexecutable
  | synced args auditHash read p sent command status hop hr hread hsince hsent hpayouts
      hdecisions hconfirmations =>
      exact synced_preserves hs hread (hRP read hsince) hsent hpayouts hdecisions
        hconfirmations

/-- The call is an `execute_payout` of this payout, at a time when its window is over. -/
def ExecutedBy (cfg : GatewayConfig) (call : GatewayCall) (p : PayoutQueueItem) : Prop :=
  ∃ (args : ExecuteArgs) (t : Instant), call.op = .execute args ∧
    p.key = (args.tenantId, args.payoutId) ∧
    resolveTime cfg.py call.env.now args.now = .ok t ∧ p.vetoUntil ≤ t

/-- INTERNAL: only an execution makes a payout executed. -/
theorem Writes.executedBy {RP : PayoutRepository → PayoutRepository → Prop}
    {r : Resumption gatewayInterface} (h : Writes RP cfg call r s s') (hs : Coherent s)
    (hRP : ∀ read, RP read s.payouts → PayoutsEvolve read s.payouts)
    {k : String × String} {p : PayoutQueueItem} (hp : s'.payout? k = some p)
    (hexecuted : p.status = .executed) :
    (∃ p₁, s.payout? k = some p₁ ∧ p₁.status = .executed) ∨ ExecutedBy cfg call p := by
  -- a write of some other payout leaves this one, a write of this one has its status
  have hput : ∀ p', s'.payouts = s.payouts.put p' → p'.status ≠ .executed →
      ∃ p₁, s.payout? k = some p₁ ∧ p₁.status = .executed := by
    intro p' hpayouts hne
    rcases payout?_put hpayouts k with ⟨hkey, hk⟩ | ⟨hkey, hk⟩
    · rw [hp] at hk
      cases hk
      exact absurd hexecuted hne
    · exact ⟨p, hk.symm.trans hp, hexecuted⟩
  cases h with
  | nothing same =>
      rw [sameStores_payout? same] at hp
      exact .inl ⟨p, hp, hexecuted⟩
  | queued args queuedAt vetoUntil auditHash item hop hr htime hveto hitem hnew hpayouts =>
      obtain ⟨_, hstatus, _⟩ := payoutQueueItem_eq_ok hitem
      refine .inl (hput item hpayouts ?_)
      rw [hstatus]
      decide
  | confirmed args basis auditHash p₀ c hop hr hstored hstatus hnone hc hkey hpayouts =>
      refine .inl (hput _ hpayouts ?_)
      intro h
      exact absurd (hstatus.symm.trans h) (by decide)
  | vetoed args decidedAt auditHash p₀ d hop hr htime hstored hstatus hopen hd hkey hpayouts =>
      refine .inl (hput _ hpayouts ?_)
      intro h
      cases h
  | markedReady args checkedAt p₀ hop hr htime hstored hstatus hwindow hconfirmed hpayouts =>
      refine .inl (hput _ hpayouts ?_)
      intro h
      cases h
  | executed args requestedAt auditHash read p₀ payment chain command notification hop hr
      htime hread hsince hexecutable hpayouts =>
      have hkey₀ : p₀.key = (args.tenantId, args.payoutId) := (read.keyed _ p₀ hread).symm
      rcases payout?_put hpayouts k with ⟨hkey, hk⟩ | ⟨hkey, hk⟩
      · rw [hp] at hk
        cases hk
        obtain ⟨_, hwindow, _⟩ := requireExecutable_eq_ok hexecutable
        exact .inr ⟨args, requestedAt, hop, hkey₀, htime, hwindow⟩
      · exact .inl ⟨p, hk.symm.trans hp, hexecuted⟩
  | synced args auditHash read p₀ sent command status hop hr hread hsince hsent hpayouts =>
      obtain ⟨p₁, hstored, hev⟩ := hRP read hsince _ p₀ hread
      obtain ⟨hsent₁, _⟩ := hev.sent (requireSent_eq_ok hsent)
      have hexecuted₁ := ((hs _ p₁ hstored).sent).mpr hsent₁
      have hkey₀ : p₀.key = (args.tenantId, args.payoutId) := (read.keyed _ p₀ hread).symm
      rcases payout?_put hpayouts k with ⟨hkey, hk⟩ | ⟨hkey, hk⟩
      · have hk₀ : k = (args.tenantId, args.payoutId) := hkey.trans hkey₀
        rw [hk₀]
        exact .inl ⟨p₁, hstored, hexecuted₁⟩
      · exact .inl ⟨p, hk.symm.trans hp, hexecuted⟩

end Writes

end MediaCenter.HitlPayout
