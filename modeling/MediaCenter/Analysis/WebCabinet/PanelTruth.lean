import MediaCenter.Analysis.WebCabinet.PanelOverview
import MediaCenter.Analysis.WebCabinet.PanelRequests

/-!
# Whether the Council panel tells the truth

The overview decides from the payout alone, and from the tenant having some TOTP secret.  The
requests also look at who makes them: a secret of their own, a correlation id, and ids that the
audit log, the event bus and the route accept.  Where these differ, the panel offers what is
then refused; it never hides what would be accepted.
-/

set_option autoImplicit false

namespace MediaCenter.WebCabinet

open MediaCenter.Library MediaCenter.Shared MediaCenter.HitlPayout
open MediaCenter.PolicyManager (PolicyRecord InMemoryPolicyRepository exists_defaults)

/-- INTERNAL: paired lists have a partner for every element, on both sides. -/
theorem exists_partner {α β : Type} {R : α → β → Prop} {l : List α} {l' : List β}
    (h : List.Forall₂ R l l') : (∀ a ∈ l, ∃ b ∈ l', R a b) ∧ ∀ b ∈ l', ∃ a ∈ l, R a b := by
  induction h with
  | nil =>
      constructor
      · intro a ha
        cases ha
      · intro b hb
        cases hb
  | cons hab _ ih =>
      constructor
      · intro a ha
        rw [List.mem_cons] at ha
        rcases ha with rfl | ha
        · exact ⟨_, List.mem_cons_self, hab⟩
        · obtain ⟨b, hb, hrel⟩ := ih.1 a ha
          exact ⟨b, List.mem_cons_of_mem _ hb, hrel⟩
      · intro b hb
        rw [List.mem_cons] at hb
        rcases hb with rfl | hb
        · exact ⟨_, List.mem_cons_self, hab⟩
        · obtain ⟨a, ha, hrel⟩ := ih.2 b hb
          exact ⟨a, List.mem_cons_of_mem _ ha, hrel⟩

/-! ## The overview as a whole -/

section Overview

variable {state : WebCabinetAPIState} {context : TenantContext}

/-- INTERNAL: the policies of a valid tenant can always be listed. -/
theorem WebCabinetAPIState.exists_panelPolicies (htenant : tenantIdPattern context.tenantId = true)
    (notes : List CouncilPanelPayoutAnnotation) :
    ∃ policies, state.panelPolicies context notes = .ok policies := by
  obtain ⟨defaults, hdefaults, _⟩ := exists_defaults htenant
  unfold WebCabinetAPIState.panelPolicies InMemoryPolicyRepository.listPolicies
  rw [hdefaults]
  exact ⟨_, rfl⟩

/-- INTERNAL: an overview that is built has an item for each payout, in some order, and the
summary of these items. -/
structure WebCabinetAPIState.Overviews (state : WebCabinetAPIState) (context : TenantContext)
    (now : Instant) (overview : CouncilPanelOverviewResponse) : Prop where
  items : ∃ items, List.Forall₂ (state.ItemOf context now)
    (listPayouts state.payouts context.tenantId) items ∧ overview.fields.payouts.Perm items
  summary : overview.fields.summary = councilPanelSummary overview.fields.payouts

/-- INTERNAL: what `GET` goes through, with each payout next to its annotation. -/
theorem WebCabinetAPIState.getCouncilPanelOverview_eq_ok_iff {py : Stdlib} {env : Ambient}
    {time : Option PyDatetime} {now : Instant} (htenant : tenantIdPattern context.tenantId = true)
    (hcouncil : councilRole ∈ context.roles)
    (hnow : resolveTime py env.now (timeArg time) = .ok now)
    (overview : CouncilPanelOverviewResponse) :
    state.getCouncilPanelOverview py env context time = .ok overview ↔
      (∀ p ∈ listPayouts state.payouts context.tenantId,
        ∀ a ∈ state.councilPanelRepository.annotations.entries.map Prod.snd,
          tenantIdPattern a.tenantId = true) ∧
      ∃ policies items,
        state.panelPolicies context ((listPayouts state.payouts context.tenantId).map
          (state.annotationOf context)) = .ok policies ∧
        List.Forall₂ (fun p item => state.councilPanelPayoutItem context p
            (state.annotationOf context p)
            ((Dict.ofList (policies.map fun policy => (policy.fields.key, policy))).get?
              (state.annotationOf context p).policyKey) now = .ok item)
          (listPayouts state.payouts context.tenantId) items ∧
        overview.fields =
          { tenantId := context.tenantId
            role := councilRole
            summary := councilPanelSummary (items.insertionSort itemBefore)
            twoFactorActive := tenantHasTotpSecret state.totpSecrets context.tenantId
            payouts := items.insertionSort itemBefore
            policies := policies
            generatedAt := now } := by
  have haccess : requireAccess councilPanelPolicy context = .ok context :=
    requireAccess_council rfl hcouncil
  have hannotate : ∀ (p : PayoutQueueItem) (e : PayoutQueueItem × CouncilPanelPayoutAnnotation),
      (do let note ← state.annotationForPayout context p; return (p, note)) = .ok e ↔
        (∀ a ∈ state.councilPanelRepository.annotations.entries.map Prod.snd,
          tenantIdPattern a.tenantId = true) ∧ e = (p, state.annotationOf context p) := by
    intro p e
    simp only [bind_eq_ok_iff, annotationForPayout_eq_ok_iff]
    constructor
    · rintro ⟨note, ⟨hall, rfl⟩, he⟩
      cases he
      exact ⟨hall, rfl⟩
    · rintro ⟨hall, rfl⟩
      exact ⟨_, ⟨hall, rfl⟩, rfl⟩
  have htrim : Text.trim context.tenantId = context.tenantId :=
    trim_of_tokenPattern (tokenPattern_of_tenantIdPattern htenant)
  unfold WebCabinetAPIState.getCouncilPanelOverview WebCabinetAPIState.buildCouncilPanelOverview
  simp only [bind_eq_ok_iff, haccess, hnow, Except.ok.injEq, exists_eq_left',
    mapM_eq_ok_map_iff hannotate, mapM_eq_ok_iff, Validated.make_eq_ok_iff, htrim]
  constructor
  · rintro ⟨_, ⟨hall, rfl⟩, policies, hpolicies, items, hitems, hfields⟩
    rw [List.map_map] at hpolicies
    rw [List.forall₂_map_left_iff] at hitems
    exact ⟨hall, policies, items, hpolicies, hitems, hfields⟩
  · rintro ⟨hall, policies, items, hpolicies, hitems, hfields⟩
    refine ⟨_, ⟨hall, rfl⟩, policies, ?_, items, ?_, hfields⟩
    · rw [List.map_map]
      exact hpolicies
    · rw [List.forall₂_map_left_iff]
      exact hitems

/-- **When there is an overview.** -/
theorem WebCabinetAPIState.exists_overview_iff {py : Stdlib} {env : Ambient}
    {time : Option PyDatetime} {now : Instant} (htenant : tenantIdPattern context.tenantId = true)
    (hcouncil : councilRole ∈ context.roles)
    (hnow : resolveTime py env.now (timeArg time) = .ok now) :
    (∃ overview, state.getCouncilPanelOverview py env context time = .ok overview) ↔
      ∀ p ∈ listPayouts state.payouts context.tenantId, state.Shows context p := by
  simp only [getCouncilPanelOverview_eq_ok_iff htenant hcouncil hnow]
  constructor
  · rintro ⟨overview, hall, policies, items, _, hitems, _⟩ p hp
    have hitem := (exists_mapM_eq_ok_iff _ _).mp ⟨items, (mapM_eq_ok_iff _ _ _).mpr hitems⟩ p hp
    obtain ⟨hfits, hrecords, htimeline⟩ := (exists_councilPanelPayoutItem_iff p _ now).mp hitem
    exact ⟨hall p hp, hfits, hrecords, htimeline⟩
  · intro hshows
    obtain ⟨policies, hpolicies⟩ := @WebCabinetAPIState.exists_panelPolicies state context htenant
      ((listPayouts state.payouts context.tenantId).map (state.annotationOf context))
    obtain ⟨items, hitems⟩ := (exists_mapM_eq_ok_iff (fun p => state.councilPanelPayoutItem context
      p (state.annotationOf context p)
      ((Dict.ofList (policies.map fun policy => (policy.fields.key, policy))).get?
        (state.annotationOf context p).policyKey) now) _).mpr (by
      intro p hp
      have hp' := hshows p hp
      exact (exists_councilPanelPayoutItem_iff p _ now).mpr
        ⟨hp'.fits, hp'.recordTenants, hp'.timeline⟩)
    refine ⟨⟨_, ?_⟩, fun p hp => (hshows p hp).annotationTenants, policies, items, hpolicies,
      (mapM_eq_ok_iff _ _ _).mp hitems, rfl⟩
    simpa [OverviewFields.checks] using htenant

/-- INTERNAL: the items of an overview, which are sorted, stand for the payouts. -/
theorem WebCabinetAPIState.overviews {py : Stdlib} {env : Ambient} {time : Option PyDatetime}
    {now : Instant} {overview : CouncilPanelOverviewResponse}
    (htenant : tenantIdPattern context.tenantId = true) (hcouncil : councilRole ∈ context.roles)
    (hnow : resolveTime py env.now (timeArg time) = .ok now)
    (h : state.getCouncilPanelOverview py env context time = .ok overview) :
    state.Overviews context now overview := by
  obtain ⟨_, policies, items, _, hitems, hfields⟩ :=
    (getCouncilPanelOverview_eq_ok_iff htenant hcouncil hnow overview).mp h
  refine ⟨⟨items, hitems.imp fun p item hitem => itemOf_of_councilPanelPayoutItem hitem, ?_⟩, ?_⟩
  · rw [hfields]
    exact List.perm_insertionSort _ _
  · rw [hfields]

/-! ## What the list says -/

/-- Each payout of the tenant is listed exactly once, as it is stored. -/
structure ListsEachOnce (payouts : PayoutRepository) (tenantId : String)
    (listed : List CouncilPanelPayoutItem) : Prop where
  once : ∀ payoutId, (listed.map fun item => item.fields.payoutId).count payoutId =
    if (payouts.payouts.get? (tenantId, payoutId)).isSome = true then 1 else 0
  stored : ∀ item ∈ listed, ∃ p, payouts.payouts.get? (tenantId, item.fields.payoutId) = some p ∧
    item.fields.status = p.status ∧ item.fields.vetoUntil = p.vetoUntil

/-- The four status counts partition the list. -/
structure Partitions (summary : CouncilPanelSummary) (listed : List CouncilPanelPayoutItem) :
    Prop where
  queued : summary.queued = listed.countP fun item => item.fields.status = .queued
  readyToExecute : summary.readyToExecute =
    listed.countP fun item => item.fields.status = .readyToExecute
  canceled : summary.canceled = listed.countP fun item => item.fields.status = .canceled
  executed : summary.executed = listed.countP fun item => item.fields.status = .executed
  total : summary.queued + summary.readyToExecute + summary.canceled + summary.executed =
    listed.length

theorem partitions_councilPanelSummary (listed : List CouncilPanelPayoutItem) :
    Partitions (councilPanelSummary listed) listed where
  queued := rfl
  readyToExecute := rfl
  canceled := rfl
  executed := rfl
  total := by
    unfold councilPanelSummary
    induction listed with
    | nil => rfl
    | cons item listed ih =>
        simp only [List.countP_cons, List.length_cons] at ih ⊢
        cases item.fields.status with
        | queued => simp only [decide_true, if_true]; simp; omega
        | readyToExecute => simp; omega
        | canceled => simp; omega
        | executed => simp; omega

variable {now : Instant} {overview : CouncilPanelOverviewResponse}

/-- INTERNAL: an item is there for a payout, and a payout for an item. -/
theorem WebCabinetAPIState.Overviews.mem_iff (h : state.Overviews context now overview) :
    (∀ item ∈ overview.fields.payouts, ∃ p ∈ listPayouts state.payouts context.tenantId,
        state.ItemOf context now p item) ∧
      ∀ p ∈ listPayouts state.payouts context.tenantId, ∃ item ∈ overview.fields.payouts,
        state.ItemOf context now p item := by
  obtain ⟨items, hitems, hperm⟩ := h.items
  constructor
  · intro item hitem
    rw [hperm.mem_iff] at hitem
    obtain ⟨p, hp, hof⟩ := (exists_partner hitems).2 item hitem
    exact ⟨p, hp, hof⟩
  · intro p hp
    obtain ⟨item, hitem, hof⟩ := (exists_partner hitems).1 p hp
    exact ⟨item, hperm.mem_iff.mpr hitem, hof⟩

theorem WebCabinetAPIState.Overviews.listsEachOnce (h : state.Overviews context now overview) :
    ListsEachOnce state.payouts context.tenantId overview.fields.payouts := by
  obtain ⟨items, hitems, hperm⟩ := h.items
  have hids : items.map (fun item => item.fields.payoutId) =
      (listPayouts state.payouts context.tenantId).map PayoutQueueItem.payoutId := by
    rw [← List.forall₂_eq_eq_eq, List.forall₂_map_left_iff, List.forall₂_map_right_iff]
    exact hitems.flip.imp fun _ _ hof => hof.payoutId
  constructor
  · intro payoutId
    rw [(hperm.map _).count_eq, hids]
    have hmem : payoutId ∈ (listPayouts state.payouts context.tenantId).map
        PayoutQueueItem.payoutId ↔
        (state.payouts.payouts.get? (context.tenantId, payoutId)).isSome = true := by
      rw [List.mem_map, Option.isSome_iff_exists]
      constructor
      · rintro ⟨p, hp, rfl⟩
        exact ⟨p, (mem_listPayouts_iff _ _ p).mp hp⟩
      · rintro ⟨p, hp⟩
        have hkey := state.payouts.keyed _ p hp
        have hid : payoutId = p.payoutId := congrArg Prod.snd hkey
        subst hid
        exact ⟨p, (mem_listPayouts_iff _ _ p).mpr hp, rfl⟩
    by_cases hthere : (state.payouts.payouts.get? (context.tenantId, payoutId)).isSome = true
    · rw [if_pos hthere]
      exact List.count_eq_one_of_mem (nodup_listPayouts _ _) (hmem.mpr hthere)
    · rw [if_neg hthere]
      exact List.count_eq_zero_of_not_mem fun hin => hthere (hmem.mp hin)
  · intro item hitem
    obtain ⟨p, hp, hof⟩ := h.mem_iff.1 item hitem
    refine ⟨p, ?_, hof.status, hof.vetoUntil⟩
    rw [hof.payoutId]
    exact (mem_listPayouts_iff _ _ p).mp hp

end Overview

/-! ## The panel and the requests -/

section Truth

variable (cfg : HitlPayout.GatewayConfig) (s : HitlPayout.GatewayState) (context : TenantContext) (subject : String)
  (now : Instant) (veto : VetoAttempt) (confirm : ConfirmAttempt)

/-- The panel over this state of the payouts. -/
def panelOf (policies : InMemoryPolicyRepository) (repository : InMemoryCouncilPanelRepository)
    (totpSecrets : Dict (String × String) String) : WebCabinetAPIState :=
  ⟨s.payouts, policies, repository, totpSecrets⟩

/-- Each payout is listed once, the counts partition the list, and what the panel offers is what
the member would be granted. -/
structure TellsTruth (totpSecrets : Dict (String × String) String)
    (overview : CouncilPanelOverviewResponse) : Prop where
  listed : ListsEachOnce s.payouts context.tenantId overview.fields.payouts
  counted : Partitions overview.fields.summary overview.fields.payouts
  veto : ∀ item ∈ overview.fields.payouts, item.fields.vetoAvailable = true ↔
    veto.Succeeds cfg s context item.fields.payoutId
  confirm : ∀ item ∈ overview.fields.payouts, item.fields.confirmAvailable = true ↔
    confirm.Succeeds cfg s totpSecrets context subject now item.fields.payoutId

/-- Every payout of the tenant can be shown; the veto fits, if a payout is open to one; and the
confirmation fits, if a payout awaits one and somebody in the tenant has a secret. -/
structure Dependable (state : WebCabinetAPIState) : Prop where
  shows : ∀ p ∈ listPayouts state.payouts context.tenantId, state.Shows context p
  veto : ∀ p ∈ listPayouts state.payouts context.tenantId, p.status = .queued →
    now < p.vetoUntil → veto.Fits context p.payoutId
  confirm : ∀ p ∈ listPayouts state.payouts context.tenantId, p.status = .queued →
    p.confirmationId = none → tenantHasTotpSecret state.totpSecrets context.tenantId = true →
    confirm.Fits cfg.py state.totpSecrets context subject p.payoutId

variable {cfg s context subject now veto confirm}

theorem vetoAvailable_iff (p : PayoutQueueItem) :
    WebCabinetAPIState.vetoAvailable p now = true ↔ p.status = .queued ∧ now < p.vetoUntil := by
  unfold WebCabinetAPIState.vetoAvailable
  rw [Bool.and_eq_true, decide_eq_true_eq, decide_eq_true_eq]

theorem confirmAvailable_iff {state : WebCabinetAPIState} {p : PayoutQueueItem}
    (h2fa : p.queued.fields.requires2fa = true) :
    state.confirmAvailable context p = true ↔ (p.status = .queued ∧ p.confirmationId = none) ∧
      tenantHasTotpSecret state.totpSecrets context.tenantId = true := by
  unfold WebCabinetAPIState.confirmAvailable
  rw [h2fa, Bool.and_true, Bool.and_eq_true, Bool.and_eq_true, decide_eq_true_eq,
    Option.isNone_iff_eq_none]

/-- INTERNAL: a member with a secret is in a tenant with one. -/
theorem tenantHasTotpSecret_of_get? {totpSecrets : Dict (String × String) String}
    {tenantId secret : String} (h : totpSecrets.get? (tenantId, subject) = some secret) :
    tenantHasTotpSecret totpSecrets tenantId = true := by
  unfold tenantHasTotpSecret
  rw [List.any_eq_true]
  exact ⟨_, Dict.get?_eq_some_iff.mp h, by simp⟩

theorem le_datetimeMax_of_resolveTime {py : Stdlib} {env : Ambient} {time : Option PyDatetime}
    (h : resolveTime py env.now (timeArg time) = .ok now) : now ≤ datetimeMax := by
  cases time with
  | none =>
      cases h
      exact env.now_le_max
  | some d =>
      have hchecked : checkedInstant (d.wall - d.utcoffset.getD 0) = .ok now := h
      unfold checkedInstant at hchecked
      split at hchecked
      · rename_i hrange
        cases hchecked
        exact hrange.2
      · cases hchecked

/-- **The truth of the panel**, in an orderly state of the payouts. -/
theorem exists_tellsTruth_iff {policies : InMemoryPolicyRepository}
    {repository : InMemoryCouncilPanelRepository} {totpSecrets : Dict (String × String) String}
    {env : Ambient} {time : Option PyDatetime} (horderly : Orderly s)
    (hmember : CouncilMember context subject)
    (hnow : resolveTime cfg.py env.now (timeArg time) = .ok now)
    (hveto : veto.Fair cfg s context.tenantId now)
    (hconfirm : confirm.Fair s context.tenantId now) :
    (∃ overview, (panelOf s policies repository totpSecrets).getCouncilPanelOverview cfg.py env
        context time = .ok overview ∧
      TellsTruth cfg s context subject now veto confirm totpSecrets overview) ↔
    Dependable cfg context subject now veto confirm
      (panelOf s policies repository totpSecrets) := by
  have hmax := le_datetimeMax_of_resolveTime hnow
  have hvetoed : ∀ p ∈ listPayouts s.payouts context.tenantId,
      veto.Succeeds cfg s context p.payoutId ↔
        (p.status = .queued ∧ now < p.vetoUntil) ∧ veto.Fits context p.payoutId := by
    intro p hp
    exact VetoAttempt.succeeds_iff hmember hveto ((mem_listPayouts_iff _ _ p).mp hp)
  have hconfirmed : ∀ p ∈ listPayouts s.payouts context.tenantId,
      confirm.Succeeds cfg s totpSecrets context subject now p.payoutId ↔
        (p.status = .queued ∧ p.confirmationId = none) ∧
          confirm.Fits cfg.py totpSecrets context subject p.payoutId := by
    intro p hp
    exact ConfirmAttempt.succeeds_iff hmember hconfirm hmax horderly
      ((mem_listPayouts_iff _ _ p).mp hp)
  have h2fa : ∀ p ∈ listPayouts s.payouts context.tenantId,
      p.queued.fields.requires2fa = true := by
    intro p hp
    exact horderly.requires2fa _ p ((mem_listPayouts_iff _ _ p).mp hp)
  have hshows := @WebCabinetAPIState.exists_overview_iff
    (panelOf s policies repository totpSecrets) context cfg.py env time now hmember.tenant
    hmember.council hnow
  constructor
  · rintro ⟨overview, hoverview, htruth⟩
    have hover := WebCabinetAPIState.overviews hmember.tenant hmember.council hnow hoverview
    refine ⟨hshows.mp ⟨overview, hoverview⟩, ?_, ?_⟩
    · intro p hp hqueued hopen
      obtain ⟨item, hitem, hof⟩ := hover.mem_iff.2 p hp
      have htold := (htruth.veto item hitem).mp (by
        rw [hof.vetoAvailable]
        exact (vetoAvailable_iff p).mpr ⟨hqueued, hopen⟩)
      rw [hof.payoutId] at htold
      exact ((hvetoed p hp).mp htold).2
    · intro p hp hqueued hnone hsecret
      obtain ⟨item, hitem, hof⟩ := hover.mem_iff.2 p hp
      have htold := (htruth.confirm item hitem).mp (by
        rw [hof.confirmAvailable]
        exact (confirmAvailable_iff (h2fa p hp)).mpr ⟨⟨hqueued, hnone⟩, hsecret⟩)
      rw [hof.payoutId] at htold
      exact ((hconfirmed p hp).mp htold).2
  · intro hdependable
    obtain ⟨overview, hoverview⟩ := hshows.mpr hdependable.shows
    have hover := WebCabinetAPIState.overviews hmember.tenant hmember.council hnow hoverview
    refine ⟨overview, hoverview, hover.listsEachOnce, ?_, ?_, ?_⟩
    · rw [hover.summary]
      exact partitions_councilPanelSummary _
    · intro item hitem
      obtain ⟨p, hp, hof⟩ := hover.mem_iff.1 item hitem
      rw [hof.vetoAvailable, hof.payoutId, vetoAvailable_iff, hvetoed p hp]
      constructor
      · exact fun h => ⟨h, hdependable.veto p hp h.1 h.2⟩
      · exact fun h => h.1
    · intro item hitem
      obtain ⟨p, hp, hof⟩ := hover.mem_iff.1 item hitem
      rw [hof.confirmAvailable, hof.payoutId, confirmAvailable_iff (h2fa p hp), hconfirmed p hp]
      constructor
      · exact fun h => ⟨h.1, hdependable.confirm p hp h.1.1 h.1.2 h.2⟩
      · rintro ⟨hopen, hfits⟩
        obtain ⟨secret, _, hsecret, _⟩ := hfits.secret
        exact ⟨hopen, tenantHasTotpSecret_of_get? hsecret⟩

/-- **The Council panel tells the truth exactly when it is dependable**, after any calls of the
managers, overlapping in any way. -/
theorem councilPanel_tellsTruth_iff (cfg : HitlPayout.GatewayConfig)
    (actions : List (Action GatewayCall gatewayInterface)) (policies : InMemoryPolicyRepository)
    (repository : InMemoryCouncilPanelRepository) (totpSecrets : Dict (String × String) String)
    (env : Ambient) (time : Option PyDatetime) (hmember : CouncilMember context subject)
    (hnow : resolveTime cfg.py env.now (timeArg time) = .ok now)
    (hveto : veto.Fair cfg (gatewayRun cfg .initial actions).shared context.tenantId now)
    (hconfirm : confirm.Fair (gatewayRun cfg .initial actions).shared context.tenantId now) :
    (∃ overview, (panelOf (gatewayRun cfg .initial actions).shared policies repository
        totpSecrets).getCouncilPanelOverview cfg.py env context time = .ok overview ∧
      TellsTruth cfg (gatewayRun cfg .initial actions).shared context subject now veto confirm
        totpSecrets overview) ↔
    Dependable cfg context subject now veto confirm
      (panelOf (gatewayRun cfg .initial actions).shared policies repository totpSecrets) :=
  exists_tellsTruth_iff (gatewayRun_orderly cfg actions) hmember hnow hveto hconfirm

end Truth

namespace Sample

open HitlPayout.Sample (ambient clock config accept queueArgs payoutKey queuePayout_queueArgs)

def queued : List (Action GatewayCall gatewayInterface) :=
  [.call ⟨ambient 0, .queue (queueArgs .omitted)⟩]

/-- Only `council-1` has a secret. -/
def totpSecrets : Dict (String × String) String :=
  .ofList [(("media-center", "council-1"), "JBSWY3DPEHPK3PXP")]

def member (subject : String) : TenantContext :=
  ⟨"media-center", some subject, [councilRole], some "corr-1"⟩

def vetoAttempt : VetoAttempt where
  env := ambient 1
  correlationId := some "corr-2"
  body := ⟨{ reasonCode := "risk", reason := "risk" }, by decide⟩
  answers _ := accept

def confirmAttempt : ConfirmAttempt where
  env := ambient 1
  correlationId := some "corr-2"
  body := ⟨{ totpCode := "000000" }, by decide⟩
  answers _ := accept

theorem run_queued : ∃ p, (gatewayRun config .initial queued).shared.payout? payoutKey = some p ∧
    p.status = .queued ∧ p.confirmationId = none ∧
    (gatewayRun config .initial queued).shared.decisions = .empty ∧
    (gatewayRun config .initial queued).shared.confirmations = .empty ∧
    (gatewayRun config .initial queued).shared.payouts = PayoutRepository.empty.put p := by
  have hqueuedAt : resolveTime Reference.stdlib (ambient 0).now .omitted = .ok (clock 0) := rfl
  have hwindow : checkedInstant (clock 0 + hoursToMicros 4) = .ok (clock 4) := by decide
  obtain ⟨s, p, hstate, hstored, _, hstatus, hnone, hdecisions, hconfirmations, hpayouts⟩ :=
    queuePayout_queueArgs (ambient 0) .omitted hqueuedAt hwindow (s := .initial) rfl
  have hstep : ((GatewayCall.program config ⟨ambient 0, .queue (queueArgs .omitted)⟩).advance
      .initial).2 = s :=
    (Coroutine.snd_advance_map _ _ _).trans hstate
  have hrun : (gatewayRun config .initial queued).shared = s := by
    unfold queued
    rw [gatewayRun_call, hstep]
  rw [hrun]
  exact ⟨p, hstored, hstatus, hnone, hdecisions, hconfirmations, hpayouts⟩

theorem councilMember {subject : String} (hnamed : Text.strip subject ≠ "") :
    CouncilMember (member subject) subject :=
  ⟨show tenantIdPattern "media-center" = true by decide, List.mem_singleton_self _, rfl,
    hnamed⟩

theorem vetoAttempt_fair :
    vetoAttempt.Fair config (gatewayRun config .initial queued).shared "media-center"
      (clock 1) := by
  obtain ⟨_, _, _, _, hdecisions, _⟩ := run_queued
  have htrim : Text.trim "risk" = "risk" := by decide
  refine ⟨⟨vetoAttempt.body.fields, ?_⟩, rfl, ?_, fun _ _ => rfl⟩
  · unfold vetoPayoutRequest
    rw [Validated.make_eq_ok_iff]
    simp only [vetoAttempt, htrim, Option.map_none]
  · rw [hdecisions]
    rfl

theorem confirmAttempt_fair :
    confirmAttempt.Fair (gatewayRun config .initial queued).shared "media-center" (clock 1) := by
  obtain ⟨_, _, _, _, _, hconfirmations, _⟩ := run_queued
  have htrim : Text.trim "000000" = "000000" := by decide
  refine ⟨⟨confirmAttempt.body.fields, ?_⟩, rfl, ?_, fun _ _ => rfl⟩
  · unfold confirmPayoutRequest
    rw [Validated.make_eq_ok_iff]
    simp only [confirmAttempt, htrim, Option.map_none]
  · rw [hconfirmations]
    rfl

/-- The bytes of the secret. -/
def secretKey : List ℕ := [72, 101, 108, 108, 111, 33, 222, 173, 190, 239]

/-- INTERNAL: a payout without an annotation can be shown. -/
theorem shows_panelOf (s : HitlPayout.GatewayState) (policies : InMemoryPolicyRepository)
    (p : PayoutQueueItem) :
    (panelOf s policies .empty totpSecrets).Shows (member "council-1") p := by
  have hrisk : hasLength 1 32 (Text.trim (defaultRiskLevel p)) = true := by
    unfold defaultRiskLevel
    split
    · decide
    · split
      · decide
      · decide
  have hreason : hasLength 1 512 (Text.trim "Автоматическая оценка по доле выплаты") = true := by
    decide
  have hkey : hasLength 1 128 (Text.trim "hitl.veto_window_hours") = true := by decide
  have hsource : hasLength 1 128 (Text.trim "payout_distribution") = true := by decide
  have hexplanation : hasLength 1 512
      (Text.trim "Доля выплаты получена из immutable snapshot") = true := by decide
  exact ⟨fun _ h => (by cases h), ⟨hrisk, hreason, hkey, hsource, hexplanation⟩,
    fun _ h => (by cases h), fun _ h => (by cases h)⟩

/-- INTERNAL: the panel is dependable for `council-1` where the one payout is queued. -/
theorem dependable_of_payouts {s : HitlPayout.GatewayState} {p : PayoutQueueItem}
    (hpayouts : s.payouts = PayoutRepository.empty.put p) (hid : p.payoutId = "payout-1") :
    Dependable config (member "council-1") "council-1" (clock 1) vetoAttempt confirmAttempt
      (panelOf s .empty .empty totpSecrets) := by
  have honly : ∀ p' ∈ listPayouts s.payouts "media-center", p'.payoutId = "payout-1" := by
    intro p' hp'
    rw [mem_listPayouts_iff, hpayouts] at hp'
    unfold PayoutRepository.put at hp'
    rw [Dict.get?_set] at hp'
    split at hp'
    · cases hp'
      exact hid
    · cases hp'
  have hpath : isPathSegment "payout-1" = true := by decide
  have hroutable : "media-center".toList.contains '.' = false := by decide
  have hcorrelation : tokenPattern (Text.trim "corr-2") = true := by decide
  have hactor : tokenPattern (Text.trim "council-1") = true := by decide
  have hsecret : totpSecrets.get? ("media-center", "council-1") = some "JBSWY3DPEHPK3PXP" := by
    decide
  constructor
  · exact fun p' _ => shows_panelOf _ _ p'
  · intro p' hp' _ _
    rw [honly p' hp']
    exact ⟨hpath, hroutable, hcorrelation, "council-1", rfl, hactor⟩
  · intro p' hp' _ _ _
    rw [honly p' hp']
    exact ⟨hpath, hroutable, ⟨"corr-2", rfl, hcorrelation⟩, hactor, "JBSWY3DPEHPK3PXP", secretKey,
      hsecret, by decide +kernel⟩

theorem dependable_queued : Dependable config (member "council-1") "council-1" (clock 1)
    vetoAttempt confirmAttempt
    (panelOf (gatewayRun config .initial queued).shared .empty .empty totpSecrets) := by
  obtain ⟨p, hstored, _, _, _, _, hpayouts⟩ := run_queued
  exact dependable_of_payouts hpayouts
    (congrArg Prod.snd (HitlPayout.GatewayState.key_of_payout? hstored))

end Sample

open HitlPayout.Sample (ambient clock config payoutKey)

/-- The panel tells `council-1`, who has a secret, the truth about a queued payout. -/
theorem councilPanel_tellsTruth_iff_ownSecret :
    ∃ overview, (panelOf (gatewayRun config .initial Sample.queued).shared .empty .empty
        Sample.totpSecrets).getCouncilPanelOverview config.py (ambient 1)
        (Sample.member "council-1") none = .ok overview ∧
      TellsTruth config (gatewayRun config .initial Sample.queued).shared
        (Sample.member "council-1") "council-1" (clock 1) Sample.vetoAttempt
        Sample.confirmAttempt Sample.totpSecrets overview :=
  (councilPanel_tellsTruth_iff config Sample.queued .empty .empty Sample.totpSecrets (ambient 1)
    none (Sample.councilMember (by decide)) rfl Sample.vetoAttempt_fair
    Sample.confirmAttempt_fair).mpr Sample.dependable_queued

/-- INTERNAL: a queued payout of `council-1` is offered to `council-2` for confirmation. -/
theorem not_tellsTruth_withoutSecret {s : HitlPayout.GatewayState} (horderly : Orderly s)
    {p : PayoutQueueItem} (hstored : s.payout? payoutKey = some p) (hqueued : p.status = .queued)
    (hnone : p.confirmationId = none) :
    ¬ ∃ overview, (panelOf s .empty .empty Sample.totpSecrets).getCouncilPanelOverview config.py
        (ambient 1) (Sample.member "council-2") none = .ok overview ∧
      TellsTruth config s (Sample.member "council-2") "council-2" (clock 1) Sample.vetoAttempt
        Sample.confirmAttempt Sample.totpSecrets overview := by
  rintro ⟨overview, hoverview, htruth⟩
  have hmember : CouncilMember (Sample.member "council-2") "council-2" :=
    Sample.councilMember (by decide)
  have hover := WebCabinetAPIState.overviews hmember.tenant hmember.council rfl hoverview
  have hid : p.payoutId = "payout-1" :=
    congrArg Prod.snd (HitlPayout.GatewayState.key_of_payout? hstored)
  have hp : p ∈ listPayouts s.payouts "media-center" := by
    rw [mem_listPayouts_iff, hid]
    exact hstored
  obtain ⟨item, hitem, hof⟩ := hover.mem_iff.2 p hp
  have h2fa := horderly.requires2fa _ p hstored
  have htenant : tenantHasTotpSecret Sample.totpSecrets "media-center" = true := by
    decide
  have hoffered : item.fields.confirmAvailable = true := by
    rw [hof.confirmAvailable]
    exact (confirmAvailable_iff h2fa).mpr ⟨⟨hqueued, hnone⟩, htenant⟩
  obtain ⟨secret, _, _, hsecret, _⟩ := (htruth.confirm item hitem).mp hoffered
  have hmissing : Sample.totpSecrets.get? ("media-center", "council-2") = none := by
    decide
  have hsame := hmissing.symm.trans hsecret
  cases hsame

/-- `council-2` has no secret, and the panel offers the confirmation all the same. -/
theorem councilPanel_offersConfirmation_withoutSecret :
    ¬ ∃ overview, (panelOf (gatewayRun config .initial Sample.queued).shared .empty .empty
        Sample.totpSecrets).getCouncilPanelOverview config.py (ambient 1)
        (Sample.member "council-2") none = .ok overview ∧
      TellsTruth config (gatewayRun config .initial Sample.queued).shared
        (Sample.member "council-2") "council-2" (clock 1) Sample.vetoAttempt
        Sample.confirmAttempt Sample.totpSecrets overview := by
  obtain ⟨p, hstored, hqueued, hnone, _⟩ := Sample.run_queued
  exact not_tellsTruth_withoutSecret (gatewayRun_orderly config Sample.queued) hstored hqueued
    hnone

end MediaCenter.WebCabinet
