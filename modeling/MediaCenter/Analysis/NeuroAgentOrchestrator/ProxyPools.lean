import MediaCenter.Library.ExceptList
import MediaCenter.Library.RoundRobin
import MediaCenter.Model.NeuroAgentOrchestrator.ProxyRotation

/-!
# Well-formed pools

What every stored pool has in common, and that building, checking and leasing keep it.  The
proxies from the cursor on are a ring: a lease serves it once, a health check leaves its order.
-/

set_option autoImplicit false

namespace MediaCenter.NeuroAgentOrchestrator

open MediaCenter.Library MediaCenter.Shared

/-! ## The order of the proxies -/

instance : Std.Total ProxyEndpointState.before := ⟨fun a b => by
  unfold ProxyEndpointState.before
  rcases lt_trichotomy a.priority b.priority with h | h | h
  · exact .inl (.inl h)
  · rcases le_total a.proxyId b.proxyId with h' | h'
    · exact .inl (.inr ⟨h, h'⟩)
    · exact .inr (.inr ⟨h.symm, h'⟩)
  · exact .inr (.inl h)⟩

instance : IsTrans ProxyEndpointState ProxyEndpointState.before := ⟨fun a b c hab hbc => by
  unfold ProxyEndpointState.before at hab hbc ⊢
  rcases hab with hab | ⟨hab, hab'⟩
  · rcases hbc with hbc | ⟨hbc, _⟩
    · exact .inl (hab.trans hbc)
    · exact .inl (hbc ▸ hab)
  · rcases hbc with hbc | ⟨hbc, hbc'⟩
    · exact .inl (hab ▸ hbc)
    · exact .inr ⟨hab.trans hbc, hab'.trans hbc'⟩⟩

/-- What a health check leaves of a proxy. -/
structure SameEndpoint (a b : ProxyEndpointState) : Prop where
  proxyId : b.proxyId = a.proxyId
  priority : b.priority = a.priority
  enabled : b.enabled = a.enabled

theorem SameEndpoint.refl (a : ProxyEndpointState) : SameEndpoint a a := ⟨rfl, rfl, rfl⟩

theorem SameEndpoint.trans {a b c : ProxyEndpointState} (h : SameEndpoint a b)
    (h' : SameEndpoint b c) : SameEndpoint a c :=
  ⟨h'.proxyId.trans h.proxyId, h'.priority.trans h.priority, h'.enabled.trans h.enabled⟩

theorem SameEndpoint.before_iff {a a' b b' : ProxyEndpointState} (ha : SameEndpoint a a')
    (hb : SameEndpoint b b') : a'.before b' ↔ a.before b := by
  unfold ProxyEndpointState.before
  rw [ha.priority, hb.priority, ha.proxyId, hb.proxyId]

/-- Only an enabled proxy may count as healthy. -/
def Guarded (proxy : ProxyEndpointState) : Prop :=
  proxy.healthStatus = .healthy → proxy.enabled = true

theorem isLeasable_iff {proxy : ProxyEndpointState} : proxy.isLeasable = true ↔
    proxy.enabled = true ∧ proxy.healthStatus = .healthy := by
  unfold ProxyEndpointState.isLeasable
  rw [Bool.and_eq_true, decide_eq_true_eq]

theorem sameEndpoint_check (current : ProxyEndpointState) (check : ProxyHealthSignal)
    (updatedAt : Instant) : SameEndpoint current (current.check check updatedAt) := by
  unfold ProxyEndpointState.check
  cases check.fields.alive with
  | true => exact ⟨rfl, rfl, rfl⟩
  | false => exact ⟨rfl, rfl, rfl⟩

theorem guarded_check (current : ProxyEndpointState) (check : ProxyHealthSignal)
    (updatedAt : Instant) : Guarded (current.check check updatedAt) := by
  unfold Guarded ProxyEndpointState.check
  cases check.fields.alive with
  | true =>
      cases current.enabled with
      | true =>
          intro _
          rfl
      | false =>
          intro h
          cases h
  | false =>
      intro h
      cases h

/-! ## Well-formed pools -/

/-- The three counts are of the proxies as they stand. -/
structure Counted (pool : ProxyPoolState) : Prop where
  total : pool.totalProxyCount = pool.proxies.length
  healthy : pool.healthyProxyCount = pool.proxies.countP (·.isLeasable)
  unhealthy : pool.unhealthyProxyCount =
    pool.proxies.countP fun p => decide (p.healthStatus = .unhealthy)
  disabled : pool.disabledProxyCount =
    pool.proxies.countP fun p => decide (p.healthStatus = .disabled)

structure WellFormed (pool : ProxyPoolState) : Prop where
  trimmedTenantId : Text.trim pool.tenantId = pool.tenantId
  trimmedPoolId : Text.trim pool.poolId = pool.poolId
  trimmedProxyIds : ∀ proxyId ∈ pool.proxies.map (·.proxyId), Text.trim proxyId = proxyId
  cursor : pool.rotationCursor < pool.proxies.length
  distinct : (pool.proxies.map (·.proxyId)).Nodup
  sorted : pool.proxies.Pairwise ProxyEndpointState.before
  guarded : ∀ proxy ∈ pool.proxies, Guarded proxy
  counted : Counted pool

/-- INTERNAL: of guarded proxies each is leasable, unhealthy or disabled. -/
theorem countP_status {proxies : List ProxyEndpointState} (h : ∀ p ∈ proxies, Guarded p) :
    proxies.countP (·.isLeasable) +
        proxies.countP (fun p => decide (p.healthStatus = .unhealthy)) +
        proxies.countP (fun p => decide (p.healthStatus = .disabled)) = proxies.length := by
  induction proxies with
  | nil => rfl
  | cons proxy proxies ih =>
      have hrest := ih fun p hp => h p (List.mem_cons_of_mem _ hp)
      have hguarded := h proxy List.mem_cons_self
      unfold Guarded at hguarded
      simp only [List.countP_cons, List.length_cons, ProxyEndpointState.isLeasable] at hrest ⊢
      cases hstatus : proxy.healthStatus with
      | healthy =>
          rw [hguarded hstatus]
          simp only [Bool.true_and, decide_true, if_true, reduceCtorEq, decide_false,
            Bool.false_eq_true, if_false]
          omega
      | unhealthy =>
          simp only [reduceCtorEq, decide_false, Bool.and_false, decide_true, Bool.false_eq_true,
            if_false, if_true]
          omega
      | disabled =>
          simp only [reduceCtorEq, decide_false, Bool.and_false, decide_true, Bool.false_eq_true,
            if_false, if_true]
          omega

/-- The counts of a well-formed pool add up. -/
theorem WellFormed.counts_add {pool : ProxyPoolState} (h : WellFormed pool) :
    pool.healthyProxyCount + pool.unhealthyProxyCount + pool.disabledProxyCount =
      pool.totalProxyCount := by
  rw [h.counted.healthy, h.counted.unhealthy, h.counted.disabled, h.counted.total]
  exact countP_status h.guarded

section Built

variable {py : Stdlib} {args : PoolArgs} {pool : ProxyPoolState}

/-- What `build_proxy_pool_state` returns. -/
structure Built (args : PoolArgs) (pool : ProxyPoolState) : Prop where
  nonempty : args.proxies ≠ []
  proxies : pool.proxies = args.proxies.insertionSort ProxyEndpointState.before
  cursor : pool.rotationCursor = args.rotationCursor % pool.proxies.length
  revision : pool.revision = args.revision
  tenantId : pool.tenantId = Text.trim args.tenantId
  poolId : pool.poolId = Text.trim args.poolId
  counted : Counted pool

theorem built_of_buildProxyPoolState (h : buildProxyPoolState py args = .ok pool) :
    Built args pool := by
  unfold buildProxyPoolState at h
  by_cases hempty : args.proxies = []
  · rw [if_pos hempty] at h
    cases h
  · rw [if_neg hempty, bind_eq_ok_iff] at h
    obtain ⟨made, hmade, h⟩ := h
    rw [mapError_eq_ok_iff, Validated.make_eq_ok_iff] at hmade
    cases h
    rw [hmade]
    exact ⟨hempty, rfl, rfl, rfl, rfl, rfl, rfl, rfl, rfl, rfl⟩

theorem Built.length_eq (h : Built args pool) : pool.proxies.length = args.proxies.length := by
  rw [h.proxies, List.length_insertionSort]

theorem Built.mem_iff (h : Built args pool) {proxy : ProxyEndpointState} :
    proxy ∈ pool.proxies ↔ proxy ∈ args.proxies := by
  rw [h.proxies, List.mem_insertionSort]

/-- INTERNAL: distinct guarded proxies make a well-formed pool. -/
theorem Built.wellFormed (h : Built args pool)
    (htrimmed : ∀ proxyId ∈ args.proxies.map (·.proxyId), Text.trim proxyId = proxyId)
    (hdistinct : (args.proxies.map (·.proxyId)).Nodup)
    (hguarded : ∀ proxy ∈ args.proxies, Guarded proxy) : WellFormed pool := by
  constructor
  · rw [h.tenantId]
    exact Text.dropBoth_dropBoth _ _
  · rw [h.poolId]
    exact Text.dropBoth_dropBoth _ _
  · intro proxyId hmem
    rw [h.proxies] at hmem
    exact htrimmed proxyId (((List.perm_insertionSort _ args.proxies).map _).mem_iff.mp hmem)
  · rw [h.cursor]
    apply Nat.mod_lt
    rw [h.length_eq]
    exact List.length_pos_iff.mpr h.nonempty
  · rw [h.proxies]
    exact ((List.perm_insertionSort _ args.proxies).map _).nodup_iff.mpr hdistinct
  · rw [h.proxies]
    exact List.pairwise_insertionSort _ _
  · intro proxy hproxy
    exact hguarded proxy (h.mem_iff.mp hproxy)
  · exact h.counted

end Built

/-! ## Proxies from their configuration -/

theorem guarded_of_stateFromConfig {py : Stdlib} {urls : Urllib} {config : ProxyEndpointConfig}
    {state : ProxyEndpointState} (h : stateFromConfig py urls config = .ok state) :
    Text.trim state.proxyId = state.proxyId ∧ Guarded state := by
  unfold stateFromConfig at h
  rw [bind_eq_ok_iff] at h
  obtain ⟨redactedUrl, _, h⟩ := h
  rw [bind_eq_ok_iff] at h
  obtain ⟨made, hmade, h⟩ := h
  rw [Validated.make_eq_ok_iff] at hmade
  cases h
  rw [hmade]
  refine ⟨Text.dropBoth_dropBoth _ _, ?_⟩
  unfold Guarded
  simp only
  cases config.enabled with
  | true =>
      intro _
      rfl
  | false =>
      intro h
      cases h

theorem guarded_of_mapM {py : Stdlib} {urls : Urllib} {configs : List ProxyEndpointConfig}
    {states : List ProxyEndpointState} (h : configs.mapM (stateFromConfig py urls) = .ok states) :
    ∀ state ∈ states, Text.trim state.proxyId = state.proxyId ∧ Guarded state := by
  intro state hstate
  obtain ⟨config, _, hconfig⟩ := exists_of_mem_mapM h hstate
  exact guarded_of_stateFromConfig hconfig

/-! ## Health checks -/

/-- What a batch of checks makes of the proxies: in their order, each with its own state. -/
def Rechecked (proxies proxies' : List ProxyEndpointState) : Prop :=
  List.Forall₂ (fun a b => SameEndpoint a b ∧ (Guarded a → Guarded b)) proxies proxies'

theorem Rechecked.trans {proxies proxies' proxies'' : List ProxyEndpointState}
    (h : Rechecked proxies proxies') (h' : Rechecked proxies' proxies'') :
    Rechecked proxies proxies'' := by
  unfold Rechecked at h h' ⊢
  induction h generalizing proxies'' with
  | nil => exact h'
  | cons hab _ ih =>
      cases h' with
      | cons hbc htail =>
          exact .cons ⟨hab.1.trans hbc.1, fun hguarded => hbc.2 (hab.2 hguarded)⟩ (ih htail)

theorem Rechecked.map_proxyId {proxies proxies' : List ProxyEndpointState}
    (h : Rechecked proxies proxies') :
    proxies'.map (·.proxyId) = proxies.map (·.proxyId) := by
  have hmaps : List.Forall₂ Eq (proxies.map (·.proxyId)) (proxies'.map (·.proxyId)) := by
    rw [List.forall₂_map_left_iff, List.forall₂_map_right_iff]
    exact List.Forall₂.imp (fun _ _ hab => hab.1.proxyId.symm) h
  rw [List.forall₂_eq_eq_eq] at hmaps
  exact hmaps.symm

theorem Rechecked.guarded {proxies proxies' : List ProxyEndpointState}
    (h : Rechecked proxies proxies') (hguarded : ∀ p ∈ proxies, Guarded p) :
    ∀ p ∈ proxies', Guarded p := by
  unfold Rechecked at h
  induction h with
  | nil =>
      intro p hp
      cases hp
  | @cons a b proxies proxies' hab _ ih =>
      intro p hp
      rcases List.mem_cons.mp hp with rfl | hp
      · exact hab.2 (hguarded a List.mem_cons_self)
      · exact ih (fun q hq => hguarded q (List.mem_cons_of_mem _ hq)) p hp

theorem Rechecked.sorted {proxies proxies' : List ProxyEndpointState}
    (h : Rechecked proxies proxies') (hsorted : proxies.Pairwise ProxyEndpointState.before) :
    proxies'.Pairwise ProxyEndpointState.before := by
  unfold Rechecked at h
  induction h with
  | nil => exact List.Pairwise.nil
  | @cons a b proxies proxies' hab htail ih =>
      rw [List.pairwise_cons] at hsorted ⊢
      refine ⟨?_, ih hsorted.2⟩
      intro b' hb'
      obtain ⟨i, hi, rfl⟩ := List.getElem_of_mem hb'
      have hi' : i < proxies.length := by
        rw [htail.length_eq]
        exact hi
      have hpair := (List.Forall₂.get htail hi' hi).1
      rw [List.get_eq_getElem, List.get_eq_getElem] at hpair
      rw [hab.1.before_iff hpair]
      exact hsorted.1 _ (List.getElem_mem hi')

/-- INTERNAL: one signal replaces the proxy it names. -/
theorem rechecked_of_applySignal {poolId : String} {updatedAt : Instant}
    {d d' : Dict String ProxyEndpointState} {check : ProxyHealthSignal}
    (hkeyed : ∀ e ∈ d.entries, e.2.proxyId = e.1)
    (h : applySignal poolId updatedAt d check = .ok d') :
    Rechecked (d.entries.map Prod.snd) (d'.entries.map Prod.snd) ∧
      ∀ e ∈ d'.entries, e.2.proxyId = e.1 := by
  unfold applySignal at h
  cases hget : d.get? check.fields.proxyId with
  | none =>
      rw [hget] at h
      cases h
  | some current =>
      rw [hget] at h
      cases h
      have hcontains : d.contains check.fields.proxyId = true :=
        Dict.contains_iff_exists.mpr ⟨current, hget⟩
      have hcurrent : current.proxyId = check.fields.proxyId :=
        hkeyed _ (Dict.get?_eq_some_iff.mp hget)
      rw [Dict.entries_set_of_contains hcontains]
      unfold Dict.replaceEntries
      refine ⟨?_, ?_⟩
      · unfold Rechecked
        rw [List.map_map, List.forall₂_map_left_iff, List.forall₂_map_right_iff,
          List.forall₂_same]
        rintro ⟨k, p⟩ he
        show SameEndpoint p (if k = check.fields.proxyId then _ else (k, p)).2 ∧
          (Guarded p → Guarded (if k = check.fields.proxyId then _ else (k, p)).2)
        by_cases hk : k = check.fields.proxyId
        · have hp : p = current := by
            have hget' : d.get? k = some p := Dict.get?_eq_some_iff.mpr he
            rw [hk, hget, Option.some.injEq] at hget'
            exact hget'.symm
          rw [if_pos hk, hp]
          exact ⟨sameEndpoint_check _ _ _, fun _ => guarded_check _ _ _⟩
        · rw [if_neg hk]
          exact ⟨.refl p, id⟩
      · intro e he
        obtain ⟨e', he', rfl⟩ := List.mem_map.mp he
        by_cases hk : e'.1 = check.fields.proxyId
        · rw [if_pos hk]
          exact (sameEndpoint_check _ _ _).proxyId.trans hcurrent
        · rw [if_neg hk]
          exact hkeyed e' he'

/-- INTERNAL: a batch goes through its signals one by one. -/
theorem rechecked_of_foldlM {poolId : String} {updatedAt : Instant}
    {checks : List ProxyHealthSignal} {d d' : Dict String ProxyEndpointState}
    (hkeyed : ∀ e ∈ d.entries, e.2.proxyId = e.1)
    (h : checks.foldlM (applySignal poolId updatedAt) d = .ok d') :
    Rechecked (d.entries.map Prod.snd) (d'.entries.map Prod.snd) := by
  induction checks generalizing d with
  | nil =>
      cases h
      unfold Rechecked
      rw [List.forall₂_same]
      intro p _
      exact ⟨.refl p, id⟩
  | cons check checks ih =>
      rw [List.foldlM_cons, bind_eq_ok_iff] at h
      obtain ⟨d₁, hfirst, hrest⟩ := h
      obtain ⟨hrechecked, hkeyed₁⟩ := rechecked_of_applySignal hkeyed hfirst
      exact hrechecked.trans (ih hkeyed₁ hrest)

/-- INTERNAL: a batch that names an unknown proxy is refused. -/
theorem foldlM_applySignal_unknown {poolId : String} {updatedAt : Instant}
    {checks : List ProxyHealthSignal} {d : Dict String ProxyEndpointState}
    (h : ∃ check ∈ checks, d.contains check.fields.proxyId = false) :
    ∃ message, checks.foldlM (applySignal poolId updatedAt) d = .error (.rotation message) := by
  induction checks generalizing d with
  | nil =>
      obtain ⟨check, hcheck, _⟩ := h
      cases hcheck
  | cons check checks ih =>
      rw [List.foldlM_cons]
      unfold applySignal
      cases hget : d.get? check.fields.proxyId with
      | none => exact ⟨_, rfl⟩
      | some current =>
          obtain ⟨unknown, hmem, hunknown⟩ := h
          apply ih
          have hne : unknown.fields.proxyId ≠ check.fields.proxyId := by
            intro heq
            rw [heq, Dict.contains, hget] at hunknown
            cases hunknown
          refine ⟨unknown, ?_, ?_⟩
          · refine (List.mem_cons.mp hmem).resolve_left ?_
            intro heq
            exact hne (by rw [heq])
          · unfold Dict.contains at hunknown ⊢
            rw [Dict.get?_set_of_ne _ hne]
            exact hunknown

/-- What `apply_proxy_health_checks` makes of a pool. -/
structure Checked (pool pool' : ProxyPoolState) : Prop where
  wellFormed : WellFormed pool'
  key : pool'.key = pool.key
  revision : pool'.revision = pool.revision + 1
  cursor : pool'.rotationCursor = pool.rotationCursor
  proxies : Rechecked pool.proxies pool'.proxies

section Checks

variable {py : Stdlib} {pool pool' : ProxyPoolState} {checks : List ProxyHealthSignal}
  {updatedBy : String} {updatedAt : Instant}

theorem entries_byProxyId (h : WellFormed pool) :
    (Dict.ofList (pool.proxies.map fun p => (p.proxyId, p))).entries =
      pool.proxies.map fun p => (p.proxyId, p) := by
  apply Dict.entries_ofList
  rw [List.map_map]
  exact h.distinct

/-- INTERNAL: a checked pool has its proxies in their places. -/
theorem checked_of_applyProxyHealthChecks (hpool : WellFormed pool)
    (h : applyProxyHealthChecks py pool checks updatedBy updatedAt = .ok pool') :
    Checked pool pool' := by
  unfold applyProxyHealthChecks at h
  rw [bind_eq_ok_iff] at h
  obtain ⟨byProxyId, hfold, hbuild⟩ := h
  have hbuilt := built_of_buildProxyPoolState hbuild
  have hrechecked : Rechecked pool.proxies (byProxyId.entries.map Prod.snd) := by
    have hentries := entries_byProxyId hpool
    have hproxies : (Dict.ofList (pool.proxies.map fun p => (p.proxyId, p))).entries.map
        Prod.snd = pool.proxies := by
      rw [hentries, List.map_map]
      exact List.map_id _
    rw [← hproxies]
    refine rechecked_of_foldlM ?_ hfold
    intro e he
    rw [hentries] at he
    obtain ⟨p, _, rfl⟩ := List.mem_map.mp he
    rfl
  have hwellFormed : WellFormed pool' := by
    refine hbuilt.wellFormed ?_ ?_ (hrechecked.guarded hpool.guarded)
    · rw [hrechecked.map_proxyId]
      exact hpool.trimmedProxyIds
    · rw [hrechecked.map_proxyId]
      exact hpool.distinct
  have hproxies : pool'.proxies = byProxyId.entries.map Prod.snd := by
    rw [hbuilt.proxies]
    exact (hrechecked.sorted hpool.sorted).insertionSort_eq
  constructor
  · exact hwellFormed
  · unfold ProxyPoolState.key
    rw [hbuilt.tenantId, hbuilt.poolId]
    simp only [hpool.trimmedTenantId, hpool.trimmedPoolId]
  · exact hbuilt.revision
  · rw [hbuilt.cursor, hproxies]
    apply Nat.mod_eq_of_lt
    rw [← List.Forall₂.length_eq hrechecked]
    exact hpool.cursor
  · rw [hproxies]
    exact hrechecked

/-- INTERNAL: an unknown proxy in the batch refuses it. -/
theorem applyProxyHealthChecks_unknown (hpool : WellFormed pool)
    (h : ∃ check ∈ checks, ∀ proxy ∈ pool.proxies, proxy.proxyId ≠ check.fields.proxyId) :
    ∃ message, applyProxyHealthChecks py pool checks updatedBy updatedAt =
      .error (.rotation message) := by
  have hunknown : ∃ check ∈ checks, (Dict.ofList (pool.proxies.map fun p => (p.proxyId, p))).contains
      check.fields.proxyId = false := by
    obtain ⟨check, hcheck, hne⟩ := h
    refine ⟨check, hcheck, ?_⟩
    rw [Bool.eq_false_iff, ne_eq, Dict.contains_iff_mem, entries_byProxyId hpool, List.map_map]
    intro hmem
    obtain ⟨p, hp, hid⟩ := List.mem_map.mp hmem
    exact hne p hp hid
  obtain ⟨message, hfold⟩ : ∃ message, checks.foldlM (applySignal pool.poolId updatedAt) _ =
      .error (.rotation message) := foldlM_applySignal_unknown hunknown
  refine ⟨message, ?_⟩
  unfold applyProxyHealthChecks
  rw [hfold]
  rfl

end Checks

/-! ## The ring -/

/-- The proxy ids from the cursor on. -/
def ProxyPoolState.ring (pool : ProxyPoolState) : List String :=
  (pool.proxies.map (·.proxyId)).rotate pool.rotationCursor

/-- The proxy with this id is enabled and healthy. -/
def ProxyPoolState.live (pool : ProxyPoolState) (proxyId : String) : Bool :=
  pool.proxies.any fun p => decide (p.proxyId = proxyId) && p.isLeasable

section Ring

variable {pool pool' : ProxyPoolState}

theorem ProxyPoolState.live_iff {proxyId : String} : pool.live proxyId = true ↔
    ∃ proxy ∈ pool.proxies, proxy.proxyId = proxyId ∧ proxy.isLeasable = true := by
  unfold ProxyPoolState.live
  rw [List.any_eq_true]
  simp only [Bool.and_eq_true, decide_eq_true_eq]

theorem length_ring (pool : ProxyPoolState) : pool.ring.length = pool.proxies.length := by
  unfold ProxyPoolState.ring
  rw [List.length_rotate, List.length_map]

theorem mem_ring_of_live {proxyId : String} (h : pool.live proxyId = true) :
    proxyId ∈ pool.ring := by
  obtain ⟨proxy, hproxy, rfl, _⟩ := ProxyPoolState.live_iff.mp h
  unfold ProxyPoolState.ring
  rw [List.mem_rotate]
  exact List.mem_map_of_mem hproxy

theorem Checked.ring_eq (h : Checked pool pool') : pool'.ring = pool.ring := by
  unfold ProxyPoolState.ring
  rw [h.proxies.map_proxyId, h.cursor]

theorem WellFormed.live_of_mem (h : WellFormed pool) {proxy : ProxyEndpointState}
    (hproxy : proxy ∈ pool.proxies) : pool.live proxy.proxyId = proxy.isLeasable := by
  rw [Bool.eq_iff_iff, ProxyPoolState.live_iff]
  constructor
  · rintro ⟨proxy', hproxy', hid, hlive⟩
    rw [← List.inj_on_of_nodup_map h.distinct hproxy' hproxy hid]
    exact hlive
  · intro hlive
    exact ⟨proxy, hproxy, rfl, hlive⟩

/-- The pool with its cursor behind the proxy at an index. -/
def ProxyPoolState.leasedAt (pool : ProxyPoolState) (index : ℕ) : ProxyPoolState :=
  { pool with rotationCursor := (index + 1) % pool.proxies.length }

theorem key_leasedAt (pool : ProxyPoolState) (index : ℕ) : (pool.leasedAt index).key = pool.key :=
  rfl

theorem WellFormed.leasedAt (h : WellFormed pool) (index : ℕ) :
    WellFormed (pool.leasedAt index) := by
  have hpos : 0 < pool.proxies.length := Nat.zero_lt_of_lt h.cursor
  exact ⟨h.trimmedTenantId, h.trimmedPoolId, h.trimmedProxyIds, Nat.mod_lt _ hpos, h.distinct, h.sorted, h.guarded,
    ⟨h.counted.total, h.counted.healthy, h.counted.unhealthy, h.counted.disabled⟩⟩

/-- INTERNAL: what the scan finds is the first live proxy from the cursor on. -/
theorem selectLiveProxy?_eq_some {index : ℕ} {proxy : ProxyEndpointState}
    (h : selectLiveProxy? pool = some (index, proxy)) :
    ∃ offset < pool.proxies.length, index = (pool.rotationCursor + offset) % pool.proxies.length ∧
      pool.proxies[index]? = some proxy ∧ proxy.isLeasable = true ∧
      ∀ o < offset, ∀ p, pool.proxies[(pool.rotationCursor + o) % pool.proxies.length]? = some p →
        p.isLeasable = false := by
  unfold selectLiveProxy? at h
  rw [List.findSome?_eq_some_iff] at h
  obtain ⟨before, offset, after, hrange, hfound, hnone⟩ := h
  have hoffset : offset = before.length := by
    have hget := congrArg (fun l => l[before.length]?) hrange
    simp only [List.getElem?_append_right (le_refl before.length), Nat.sub_self,
      List.getElem?_cons_zero] at hget
    have hlt : before.length < pool.proxies.length := by
      have hlength := congrArg List.length hrange
      rw [List.length_range, List.length_append, List.length_cons] at hlength
      omega
    rw [List.getElem?_range hlt, Option.some.injEq] at hget
    exact hget.symm
  have hbound : offset < pool.proxies.length := by
    rw [← List.mem_range, hrange]
    exact List.mem_append_right _ List.mem_cons_self
  simp only at hfound
  refine ⟨offset, hbound, ?_⟩
  cases hget : pool.proxies[(pool.rotationCursor + offset) % pool.proxies.length]? with
  | none =>
      rw [hget] at hfound
      cases hfound
  | some p =>
      rw [hget] at hfound
      simp only at hfound
      split at hfound
      · rename_i hlive
        rw [Option.some.injEq, Prod.mk.injEq] at hfound
        obtain ⟨rfl, rfl⟩ := hfound
        refine ⟨rfl, hget, hlive, ?_⟩
        intro o ho q hq
        have hmem : o ∈ before := by
          have hget' : (List.range pool.proxies.length)[o]? = some o :=
            List.getElem?_range (by omega)
          rw [hrange, List.getElem?_append_left (by omega)] at hget'
          exact List.mem_of_getElem? hget'
        have hskipped := hnone o hmem
        simp only [hq] at hskipped
        split at hskipped
        · cases hskipped
        · rename_i hdead
          rw [Bool.not_eq_true] at hdead
          exact hdead
      · cases hfound

/-- INTERNAL: a lease serves the ring of its pool. -/
theorem serves_of_selectLiveProxy? (hpool : WellFormed pool) {index : ℕ}
    {proxy : ProxyEndpointState} (h : selectLiveProxy? pool = some (index, proxy)) :
    Serves pool.live pool.ring proxy.proxyId (pool.leasedAt index).ring := by
  obtain ⟨offset, hoffset, rfl, hproxy, hlive, hpassed⟩ := selectLiveProxy?_eq_some h
  have hserves := Serves.rotate hoffset hproxy hlive hpassed
  have hlives : ∀ p ∈ pool.proxies.rotate pool.rotationCursor,
      pool.live p.proxyId = p.isLeasable := by
    intro p hp
    rw [List.mem_rotate] at hp
    exact hpool.live_of_mem hp
  have hmap := hserves.map hlives
  rw [List.map_rotate, List.map_rotate] at hmap
  exact hmap

theorem mem_of_selectLiveProxy? {index : ℕ} {proxy : ProxyEndpointState}
    (h : selectLiveProxy? pool = some (index, proxy)) :
    proxy ∈ pool.proxies ∧ proxy.isLeasable = true := by
  obtain ⟨_, _, _, hproxy, hlive, _⟩ := selectLiveProxy?_eq_some h
  exact ⟨List.mem_of_getElem? hproxy, hlive⟩

/-- INTERNAL: the scan comes to every proxy. -/
theorem selectLiveProxy?_eq_none_iff :
    selectLiveProxy? pool = none ↔ ∀ proxy ∈ pool.proxies, proxy.isLeasable = false := by
  unfold selectLiveProxy?
  rw [List.findSome?_eq_none_iff]
  constructor
  · intro h proxy hproxy
    have hmem : proxy ∈ pool.proxies.rotate pool.rotationCursor := List.mem_rotate.mpr hproxy
    obtain ⟨o, ho, hget⟩ := List.getElem_of_mem hmem
    rw [List.length_rotate] at ho
    have hscan := h o (List.mem_range.mpr ho)
    have hget' : pool.proxies[(pool.rotationCursor + o) % pool.proxies.length]? = some proxy := by
      rw [Nat.add_comm, ← List.getElem?_rotate ho, ← hget]
      exact List.getElem?_eq_getElem _
    simp only [hget'] at hscan
    split at hscan
    · cases hscan
    · rename_i hdead
      rw [Bool.not_eq_true] at hdead
      exact hdead
  · intro h o _
    simp only
    cases hget : pool.proxies[(pool.rotationCursor + o) % pool.proxies.length]? with
    | none => rfl
    | some proxy =>
        simp only [h proxy (List.mem_of_getElem? hget), Bool.false_eq_true, if_false]

end Ring

end MediaCenter.NeuroAgentOrchestrator
