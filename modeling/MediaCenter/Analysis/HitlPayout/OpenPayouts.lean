import MediaCenter.Analysis.HitlPayout.VetoFinality

/-!
# What stays true of payouts in every overlapping run

A late execution may overwrite a veto, but not these: a payout keeps what it was queued with and
a confirmation once it has one, the index of the confirmations has an entry for confirmed
payouts only, and nothing is queued without two-factor confirmation.
-/

set_option autoImplicit false

namespace MediaCenter.HitlPayout

open MediaCenter.Library MediaCenter.Shared

/-- How a payout may change, late executions included. -/
structure Remains (p p' : PayoutQueueItem) : Prop where
  queued : p'.queued = p.queued
  confirmed : p.confirmationId ≠ none → p'.confirmationId = p.confirmationId
  sent : p.executionId ≠ none → p'.executionId ≠ none ∧ p'.confirmationId = p.confirmationId

theorem Remains.refl (p : PayoutQueueItem) : Remains p p :=
  ⟨rfl, fun _ => rfl, fun h => ⟨h, rfl⟩⟩

theorem Remains.trans {p p' p'' : PayoutQueueItem} (h : Remains p p') (h' : Remains p' p'') :
    Remains p p'' where
  queued := h'.queued.trans h.queued
  confirmed := by
    intro hp
    have hid := h.confirmed hp
    rw [← hid] at hp
    exact (h'.confirmed hp).trans hid
  sent := by
    intro hp
    obtain ⟨hp', hid⟩ := h.sent hp
    obtain ⟨hp'', hid'⟩ := h'.sent hp'
    exact ⟨hp'', hid'.trans hid⟩

def PayoutsRemain (r r' : PayoutRepository) : Prop :=
  ∀ k p, r.payouts.get? k = some p → ∃ p', r'.payouts.get? k = some p' ∧ Remains p p'

theorem PayoutsRemain.refl (r : PayoutRepository) : PayoutsRemain r r :=
  fun _ p h => ⟨p, h, .refl p⟩

theorem PayoutsRemain.trans (r₁ r₂ r₃ : PayoutRepository) (h₁ : PayoutsRemain r₁ r₂)
    (h₂ : PayoutsRemain r₂ r₃) : PayoutsRemain r₁ r₃ := by
  intro k p hp
  obtain ⟨p', hp', hremains⟩ := h₁ k p hp
  obtain ⟨p'', hp'', hremains'⟩ := h₂ k p' hp'
  exact ⟨p'', hp'', hremains.trans hremains'⟩

theorem PayoutsRemain.stays (r r' : PayoutRepository) (k : String × String)
    (p : PayoutQueueItem) (h : PayoutsRemain r r') (hp : r.payouts.get? k = some p) :
    (r'.payouts.get? k).isSome = true := by
  obtain ⟨p', hp', _⟩ := h k p hp
  rw [hp']
  rfl

/-- What every state meets that overlapping calls can reach. -/
structure Orderly (s : GatewayState) : Prop where
  indexed : ∀ k id, s.confirmations.payoutIndex.get? k = some id →
    ∃ p, s.payout? k = some p ∧ p.confirmationId ≠ none
  sent : ∀ k p, s.payout? k = some p → p.executionId ≠ none → p.confirmationId ≠ none
  requires2fa : ∀ k p, s.payout? k = some p → p.queued.fields.requires2fa = true

theorem orderly_initial : Orderly .initial where
  indexed := by
    intro k id h
    cases h
  sent := by
    intro k p h
    cases h
  requires2fa := by
    intro k p h
    cases h

/-- INTERNAL: a payout that is not confirmed has no entry in the index. -/
theorem Orderly.unindexed {s : GatewayState} (h : Orderly s) {k : String × String}
    {p : PayoutQueueItem} (hp : s.payout? k = some p) (hnone : p.confirmationId = none) :
    s.confirmations.payoutIndex.get? k = none := by
  rw [Option.eq_none_iff_forall_ne_some]
  intro id hid
  obtain ⟨p', hp', hconfirmed⟩ := h.indexed k id hid
  rw [hp] at hp'
  cases hp'
  exact hconfirmed hnone

section Put

variable {s s' : GatewayState} {p : PayoutQueueItem}

/-- INTERNAL: what is to show of the one payout that a write puts. -/
theorem orderly_put (hs : Orderly s) (hput : s'.payouts = s.payouts.put p)
    (hremains : ∀ p₁, s.payout? p.key = some p₁ → Remains p₁ p)
    (hsent : p.executionId ≠ none → p.confirmationId ≠ none)
    (h2fa : p.queued.fields.requires2fa = true)
    (hindex : ∀ k id, s'.confirmations.payoutIndex.get? k = some id →
      s.confirmations.payoutIndex.get? k = some id ∨ (k = p.key ∧ p.confirmationId ≠ none)) :
    Orderly s' ∧ PayoutsRemain s.payouts s'.payouts := by
  have hremain : PayoutsRemain s.payouts s'.payouts := by
    intro k p₁ hp₁
    rcases payout?_put hput k with ⟨hkey, hk⟩ | ⟨hkey, hk⟩
    · rw [hkey] at hp₁
      exact ⟨p, hk, hremains p₁ hp₁⟩
    · exact ⟨p₁, hk.trans hp₁, .refl p₁⟩
  refine ⟨⟨?_, ?_, ?_⟩, hremain⟩
  · intro k id hid
    rcases hindex k id hid with hbefore | ⟨hkey, hconfirmed⟩
    · obtain ⟨p₁, hp₁, hconfirmed⟩ := hs.indexed k id hbefore
      obtain ⟨p₂, hp₂, hev⟩ := hremain k p₁ hp₁
      refine ⟨p₂, hp₂, ?_⟩
      rw [hev.confirmed hconfirmed]
      exact hconfirmed
    · rcases payout?_put hput k with ⟨_, hk⟩ | ⟨hne, _⟩
      · exact ⟨p, hk, hconfirmed⟩
      · exact absurd hkey hne
  · intro k p₂ hp₂
    rcases payout?_put hput k with ⟨_, hk⟩ | ⟨_, hk⟩
    · rw [hp₂] at hk
      cases hk
      exact hsent
    · exact hs.sent k p₂ (hk.symm.trans hp₂)
  · intro k p₂ hp₂
    rcases payout?_put hput k with ⟨_, hk⟩ | ⟨_, hk⟩
    · rw [hp₂] at hk
      cases hk
      exact h2fa
    · exact hs.requires2fa k p₂ (hk.symm.trans hp₂)

/-- INTERNAL: a new version of a stored payout, which does not touch its confirmation. -/
theorem orderly_update {p₁ : PayoutQueueItem} {k : String × String} (hs : Orderly s)
    (hstored : s.payout? k = some p₁) (hput : s'.payouts = s.payouts.put p)
    (hremains : Remains p₁ p) (hsent : p.executionId ≠ none → p.confirmationId ≠ none)
    (hconfirmations : s'.confirmations = s.confirmations) :
    Orderly s' ∧ PayoutsRemain s.payouts s'.payouts := by
  have hkey : p.key = k := by
    rw [← GatewayState.key_of_payout? hstored]
    unfold PayoutQueueItem.key PayoutQueueItem.tenantId PayoutQueueItem.payoutId
    rw [hremains.queued]
  refine orderly_put hs hput ?_ hsent ?_ ?_
  · intro p₂ hp₂
    rw [hkey, hstored] at hp₂
    cases hp₂
    exact hremains
  · rw [hremains.queued]
    exact hs.requires2fa k p₁ hstored
  · intro k' id hid
    rw [hconfirmations] at hid
    exact .inl hid

end Put

variable {cfg : GatewayConfig} {call : GatewayCall} {s s' : GatewayState}

/-- INTERNAL: a call that queues asks for two-factor confirmation, or leaves the stores. -/
def QueuesConfirmable (call : GatewayCall) (s s' : GatewayState) : Prop :=
  ∀ args, call.op = .queue args → args.requires2fa = false → SameStores s s'

/-- **The step lemma.**  Every write keeps the state orderly. -/
theorem Writes.orderly {r : Resumption gatewayInterface}
    (h : Writes PayoutsRemain cfg call r s s') (h2fa : QueuesConfirmable call s s')
    (hs : Orderly s) : Orderly s' ∧ PayoutsRemain s.payouts s'.payouts := by
  have hsame : SameStores s s' → Orderly s' ∧ PayoutsRemain s.payouts s'.payouts := by
    intro same
    refine ⟨⟨?_, ?_, ?_⟩, ?_⟩
    · intro k id hid
      rw [same.confirmations] at hid
      rw [sameStores_payout? same]
      exact hs.indexed k id hid
    · intro k p hp
      rw [sameStores_payout? same] at hp
      exact hs.sent k p hp
    · intro k p hp
      rw [sameStores_payout? same] at hp
      exact hs.requires2fa k p hp
    · rw [same.payouts]
      exact .refl _
  cases h with
  | nothing same => exact hsame same
  | queued args queuedAt vetoUntil auditHash item hop hr htime hveto hitem hnew hpayouts
      hdecisions hconfirmations =>
      cases hrequired : args.requires2fa with
      | false => exact hsame (h2fa args hop hrequired)
      | true =>
          obtain ⟨hfields, _, _, _, hexecution⟩ := payoutQueueItem_eq_ok hitem
          refine orderly_put hs hpayouts ?_ ?_ ?_ ?_
          · intro p₁ hp₁
            rw [hnew] at hp₁
            cases hp₁
          · exact fun h => absurd hexecution h
          · rw [hfields]
            exact hrequired
          · intro k id hid
            rw [hconfirmations] at hid
            exact .inl hid
  | confirmed args basis auditHash p c hop hr hstored hstatus hnone hc hkey hpayouts
      hdecisions hconfirmations =>
      obtain ⟨htrimTenant, htrimPayout⟩ := trim_of_payout? hstored
      have hfields := (Validated.make_eq_ok_iff _ _ _).mp hc
      have hpayoutKey : PayoutConfirmation.payoutKey c = p.key := by
        rw [GatewayState.key_of_payout? hstored, PayoutConfirmation.payoutKey, hfields]
        simp only [ConfirmArgs.confirmationFields, htrimTenant, htrimPayout]
      refine orderly_put hs hpayouts ?_ ?_ ?_ ?_
      · intro p₁ hp₁
        have hkey₁ : s.payout? p.key = some p₁ := hp₁
        rw [GatewayState.key_of_payout? hstored, hstored] at hkey₁
        cases hkey₁
        exact ⟨rfl, fun h => absurd hnone h, fun h => absurd hnone (hs.sent _ _ hstored h)⟩
      · exact fun _ => Option.some_ne_none _
      · exact hs.requires2fa _ p hstored
      · intro k id hid
        have hget : s'.confirmations.payoutIndex.get? k =
            if k = p.key then some c.fields.confirmationId
            else s.confirmations.payoutIndex.get? k := by
          rw [hconfirmations, ← hpayoutKey]
          exact Dict.get?_set _ _ _ _
        by_cases hk : k = p.key
        · exact .inr ⟨hk, Option.some_ne_none _⟩
        · rw [hget, if_neg hk] at hid
          exact .inl hid
  | vetoed args decidedAt auditHash p d hop hr htime hstored hstatus hopen hd hkey hpayouts
      hdecisions hconfirmations =>
      exact orderly_update hs hstored hpayouts ⟨rfl, fun _ => rfl, fun h => ⟨h, rfl⟩⟩
        (hs.sent _ p hstored) hconfirmations
  | markedReady args checkedAt p hop hr htime hstored hstatus hwindow hconfirmed hpayouts
      hdecisions hconfirmations =>
      exact orderly_update hs hstored hpayouts ⟨rfl, fun _ => rfl, fun h => ⟨h, rfl⟩⟩
        (hs.sent _ p hstored) hconfirmations
  | executed args requestedAt auditHash read p payment chain command notification hop hr
      htime hread hsince hexecutable hpayouts hdecisions hconfirmations =>
      obtain ⟨_, _, hconfirmed⟩ := requireExecutable_eq_ok hexecutable
      obtain ⟨p₁, hstored, hremains⟩ := hsince _ p hread
      have hsame : p.confirmationId = p₁.confirmationId := (hremains.confirmed hconfirmed).symm
      refine orderly_update hs hstored hpayouts ⟨hremains.queued.symm, fun _ => hsame, ?_⟩
        (fun _ => hconfirmed) hconfirmations
      exact fun _ => ⟨Option.some_ne_none _, hsame⟩
  | synced args auditHash read p sent command status hop hr hread hsince hsent hpayouts
      hdecisions hconfirmations =>
      obtain ⟨p₁, hstored, hremains⟩ := hsince _ p hread
      have hexecution := requireSent_eq_ok hsent
      obtain ⟨hexecution₁, hsame⟩ := hremains.sent hexecution
      refine orderly_update hs hstored hpayouts ⟨hremains.queued.symm, fun _ => hsame.symm, ?_⟩
        ?_ hconfirmations
      · exact fun _ => ⟨hexecution, hsame.symm⟩
      · intro _
        have hconfirmed := hs.sent _ p₁ hstored hexecution₁
        rw [hsame] at hconfirmed
        exact hconfirmed

/-- What the calls guarantee to each other. -/
structure KeepsOrder (s s' : GatewayState) : Prop where
  remain : PayoutsRemain s.payouts s'.payouts
  orderly : Orderly s → Orderly s'

theorem KeepsOrder.refl (s : GatewayState) : KeepsOrder s s := ⟨.refl _, id⟩

theorem KeepsOrder.trans (s s' s'' : GatewayState) (h : KeepsOrder s s')
    (h' : KeepsOrder s' s'') : KeepsOrder s s'' :=
  ⟨h.remain.trans _ _ _ h'.remain, fun hs => h'.orderly (h.orderly hs)⟩

/-- The writes of a call, none of which queues without two-factor confirmation. -/
def WritesOrderly (cfg : GatewayConfig) (call : GatewayCall) (r : Resumption gatewayInterface)
    (s s' : GatewayState) : Prop :=
  Writes PayoutsRemain cfg call r s s' ∧ QueuesConfirmable call s s'

theorem WritesOrderly.keepsOrder {r : Resumption gatewayInterface}
    (h : WritesOrderly cfg call r s s') (hs : Orderly s) : KeepsOrder s s' :=
  ⟨(h.1.orderly h.2 hs).2, fun _ => (h.1.orderly h.2 hs).1⟩

theorem program_writesOrderly (call : GatewayCall) (s : GatewayState) :
    (call.program cfg).wp KeepsOrder (WritesOrderly cfg call)
      (fun _ => WritesOrderly cfg call) none s s := by
  by_cases hrefused : ∃ args, call.op = .queue args ∧ args.requires2fa = false
  · -- such a call is refused before it touches anything
    obtain ⟨args, hop, hrequired⟩ := hrefused
    have hprogram : call.program cfg = throw
        (.shared (.valueError "Выплаты требуют 2FA; requires_2fa должен быть True")) := by
      unfold GatewayCall.program
      rw [hop]
      simp only [queuePayout, if_pos hrequired]
      rfl
    rw [hprogram]
    rw [Coroutine.wp_throw]
    exact ⟨.nothing (.refl s), fun _ _ _ => .refl s⟩
  · have hstrong : ∀ r s s', Writes PayoutsRemain cfg call r s s' →
        WritesOrderly cfg call r s s' := by
      intro r s s' h
      refine ⟨h, ?_⟩
      intro args hop hrequired
      exact absurd ⟨args, hop, hrequired⟩ hrefused
    exact Coroutine.wp_mono hstrong (fun _ => hstrong) _ _ _ _
      (program_keeps (fun _ _ h => h.remain) PayoutsRemain.trans PayoutsRemain.stays call s)

/-- **The run lemma.**  Every overlapping run leaves an orderly state. -/
theorem gatewayRun_orderly (cfg : GatewayConfig)
    (actions : List (Action GatewayCall gatewayInterface)) :
    Orderly (gatewayRun cfg .initial actions).shared := by
  refine (Config.run_guarantee (R := KeepsOrder) (A := fun _ _ => True) (J := Orderly)
    (Φ := WritesOrderly cfg) (Q := fun call _ => WritesOrderly cfg call) KeepsOrder.refl
    KeepsOrder.trans (fun _ _ h => h.orderly) (fun _ _ _ _ _ h => h)
    (fun call s _ => program_writesOrderly call s) ?_ (.initial .initial) orderly_initial
    (Config.sound_initial _ _ _ _) actions ?_).1
  · intro c a s' _ hc hseg
    cases a with
    | call k => exact WritesOrderly.keepsOrder (Config.segment_call hseg) hc
    | resume i answer =>
        rcases Config.segment_resume hseg with ⟨k, q, rest, _, hwrites⟩ | ⟨_, hsame⟩
        · exact WritesOrderly.keepsOrder hwrites hc
        · rw [hsame]
          exact .refl _
  · rw [Config.everyStep_iff]
    exact fun _ _ _ _ => trivial

end MediaCenter.HitlPayout
