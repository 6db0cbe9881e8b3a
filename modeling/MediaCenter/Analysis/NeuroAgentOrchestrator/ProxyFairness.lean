import MediaCenter.Analysis.NeuroAgentOrchestrator.ProxyRuns

/-!
# Fairness of the rotation

Between two upserts the ring of a pool is only turned by its leases.  The turns of a run are
turns of a ring, so no live proxy starves, whatever the health checks in between say.
-/

set_option autoImplicit false

namespace MediaCenter.NeuroAgentOrchestrator

open MediaCenter.Library MediaCenter.Shared Coroutine

/-! ## Turns -/

section Turns

variable (py : Stdlib) (urls : Urllib) (tenantId poolId : String)

/-- The turn a lease of the pool takes: the live proxies at that moment, and the one selected. -/
def leaseTurn (s : ProxyState) (now : Instant) (args : LeaseArgs) :
    Option ((String → Bool) × String) :=
  if args.tenantId = tenantId ∧ args.poolId = poolId then
    match s.repository.getPool tenantId poolId, resolveTime py now args.selectedAt with
    | some pool, .ok _ =>
        (selectLiveProxy? pool).map fun selected => (pool.live, selected.2.proxyId)
    | _, _ => none
  else none

/-- The turn an action takes; every other action takes none. -/
def turnOf (s : ProxyState) (a : ProxyAction) : Option ((String → Bool) × String) :=
  match a with
  | .call call =>
      match call.operation with
      | .lease args => leaseTurn py tenantId poolId s call.env.now args
      | _ => none
  | .resume _ _ => none

/-- The turns of a run, in order. -/
def turns (c : ProxyRun) : List ProxyAction → List ((String → Bool) × String)
  | [] => []
  | a :: later =>
      (turnOf py tenantId poolId c.shared a).toList ++ turns (proxyStep py urls c a) later

/-- An upsert of the pool. -/
def Upserts (a : ProxyAction) : Prop :=
  match a with
  | .call call =>
      match call.operation with
      | .upsert args => args.tenantId = tenantId ∧ Text.trim args.poolId = poolId
      | _ => False
  | .resume _ _ => False

/-- The proxy is enabled and healthy in a state. -/
def liveIn (s : ProxyState) (proxyId : String) : Bool :=
  match s.repository.getPool tenantId poolId with
  | some pool => pool.live proxyId
  | none => false

end Turns

section Steps

variable {py : Stdlib} {urls : Urllib} {tenantId poolId : String} {s s' : ProxyState}
  {pool : ProxyPoolState}

theorem getPool_savePool_of_ne {other : ProxyPoolState}
    (h : other.key ≠ (tenantId, poolId)) :
    (s.repository.savePool other).getPool tenantId poolId =
      s.repository.getPool tenantId poolId := by
  show (s.repository.savePool other).pools.get? _ = _
  rw [get?_savePool, if_neg (Ne.symm h)]
  rfl

theorem getPool_savePool_self {other : ProxyPoolState} (h : other.key = (tenantId, poolId)) :
    (s.repository.savePool other).getPool tenantId poolId = some other := by
  show (s.repository.savePool other).pools.get? _ = _
  rw [get?_savePool, if_pos h.symm]

/-- What a step makes of the pool: its ring is turned once, or stays. -/
structure Turned (turn : Option ((String → Bool) × String)) (pool pool' : ProxyPoolState) :
    Prop where
  length_eq : pool'.proxies.length = pool.proxies.length
  ring : match turn with
    | none => pool'.ring = pool.ring
    | some (live, proxyId) => Serves live pool.ring proxyId pool'.ring

theorem Turned.refl (pool : ProxyPoolState) : Turned none pool pool := ⟨rfl, rfl⟩

/-- INTERNAL: an upsert of another pool leaves this one. -/
theorem turned_upsert {call : ProxyCall} {args : UpsertArgs} (hcall : call.operation = .upsert args)
    (hpool : s.repository.getPool tenantId poolId = some pool)
    (hother : ¬ Upserts tenantId poolId (.call call)) (h : Changes py call s s') :
    s'.repository.getPool tenantId poolId = some pool := by
  cases h with
  | refused => exact hpool
  | upserted args' stored record hcall' hstored hkey hrevision hrecord =>
      rw [getPool_savePool_of_ne]
      · exact hpool
      · intro hsame
        rw [hkey, Prod.mk.injEq] at hsame
        unfold Upserts at hother
        simp only [hcall'] at hother
        exact hother hsame
  | checked args' old stored record hcall' _ _ _ =>
      rw [hcall] at hcall'
      cases hcall'
  | leased args' old index proxy log hcall' _ _ _ =>
      rw [hcall] at hcall'
      cases hcall'

/-- INTERNAL: a health check leaves every ring. -/
theorem turned_check {call : ProxyCall} {args : CheckArgs} (hcall : call.operation = .check args)
    (hok : PoolsOk s) (hpool : s.repository.getPool tenantId poolId = some pool)
    (h : Changes py call s s') :
    ∃ pool', s'.repository.getPool tenantId poolId = some pool' ∧ Turned none pool pool' := by
  cases h with
  | refused => exact ⟨pool, hpool, .refl pool⟩
  | upserted args' stored record hcall' _ _ _ _ =>
      rw [hcall] at hcall'
      cases hcall'
  | checked args' old stored record hcall' hold hchecked hrecord =>
      have hwf := hok.wellFormed _ _ hold
      have hstored := hchecked hwf
      by_cases hsame : stored.key = (tenantId, poolId)
      · refine ⟨stored, getPool_savePool_self hsame, ?_⟩
        have hkey : old.key = (args'.tenantId, args'.poolId) := hok.keyed _ _ hold
        rw [hstored.key, hkey, Prod.mk.injEq] at hsame
        rw [hsame.1, hsame.2, hpool, Option.some.injEq] at hold
        rw [hold]
        exact ⟨(List.Forall₂.length_eq hstored.proxies).symm, hstored.ring_eq⟩
      · refine ⟨pool, ?_, .refl pool⟩
        rw [getPool_savePool_of_ne hsame]
        exact hpool
  | leased args' old index proxy log hcall' _ _ _ =>
      rw [hcall] at hcall'
      cases hcall'

/-- INTERNAL: a lease turns the ring of its pool, if it selects a proxy. -/
theorem turned_lease {env : Ambient} {args : LeaseArgs} (hok : PoolsOk s)
    (hpool : s.repository.getPool tenantId poolId = some pool)
    {start : Pause proxyInterface ProxyState ProxyRotationError ProxyLease × ProxyState}
    (h : Leases py env args s start) :
    ∃ pool', start.2.repository.getPool tenantId poolId = some pool' ∧
      Turned (leaseTurn py tenantId poolId s env.now args) pool pool' := by
  unfold leaseTurn
  by_cases hsame : args.tenantId = tenantId ∧ args.poolId = poolId
  · rw [if_pos hsame, hpool]
    cases h with
    | poolNotFound message hnone =>
        rw [hsame.1, hsame.2, hpool] at hnone
        cases hnone
    | invalidTime old e hold htime =>
        rw [htime]
        exact ⟨pool, hpool, .refl pool⟩
    | unavailable old selectedAt message hold htime hnone =>
        rw [hsame.1, hsame.2, hpool, Option.some.injEq] at hold
        subst hold
        simp only [htime, hnone, Option.map_none]
        exact ⟨pool, hpool, .refl pool⟩
    | selected old selectedAt index proxy log p hold htime hselected hlog hdelivers =>
        rw [hsame.1, hsame.2, hpool, Option.some.injEq] at hold
        subst hold
        simp only [htime, hselected, Option.map_some]
        have hkey : (pool.leasedAt index).key = (tenantId, poolId) := by
          rw [key_leasedAt]
          exact hok.keyed _ _ hpool
        exact ⟨pool.leasedAt index, getPool_savePool_self hkey, rfl,
          serves_of_selectLiveProxy? (hok.wellFormed _ _ hpool) hselected⟩
  · rw [if_neg hsame]
    refine ⟨pool, ?_, .refl pool⟩
    cases h with
    | poolNotFound message hnone => exact hpool
    | invalidTime old e hold htime => exact hpool
    | unavailable old selectedAt message hold htime hnone => exact hpool
    | selected old selectedAt index proxy log p hold htime hselected hlog hdelivers =>
        have hkey : (old.leasedAt index).key = (args.tenantId, args.poolId) := by
          rw [key_leasedAt]
          exact hok.keyed _ _ hold
        rw [getPool_savePool_of_ne]
        · exact hpool
        · intro hsame'
          rw [hkey, Prod.mk.injEq] at hsame'
          exact hsame hsame'

/-- INTERNAL: one step of a run, whichever it is. -/
theorem turned_step {c : ProxyRun} {a : ProxyAction} (hok : PoolsOk c.shared)
    (hpool : c.shared.repository.getPool tenantId poolId = some pool)
    (hother : ¬ Upserts tenantId poolId a)
    (hsteps : Steps py c.shared a (proxyStep py urls c a).shared) :
    ∃ pool', (proxyStep py urls c a).shared.repository.getPool tenantId poolId = some pool' ∧
      Turned (turnOf py tenantId poolId c.shared a) pool pool' := by
  cases a with
  | resume i answer =>
      generalize (proxyStep py urls c (.resume i answer)).shared = s' at hsteps ⊢
      cases hsteps
      exact ⟨pool, hpool, .refl pool⟩
  | call call =>
      unfold turnOf
      cases hcall : call.operation with
      | upsert args =>
          generalize (proxyStep py urls c (.call call)).shared = s' at hsteps ⊢
          cases hsteps with
          | call _ _ hchanges =>
              simp only [hcall]
              exact ⟨pool, turned_upsert hcall hpool hother hchanges, .refl pool⟩
      | check args =>
          generalize (proxyStep py urls c (.call call)).shared = s' at hsteps ⊢
          cases hsteps with
          | call _ _ hchanges =>
              simp only [hcall]
              exact turned_check hcall hok hpool hchanges
      | lease args =>
          have hshared : (proxyStep py urls c (.call call)).shared =
              ((leaseProxy py call.env args).advance c.shared).2 := by
            unfold proxyStep ProxyCall.program
            rw [Config.step_call, hcall]
            exact snd_advance_map _ _ _
          simp only [hcall]
          rw [hshared]
          exact turned_lease hok hpool (leases_leaseProxy call.env args c.shared)

/-- The states of a run from some point on: each is that of a run from the start. -/
theorem run_append (actions later : List ProxyAction) :
    Config.run (ProxyCall.program py urls) (proxyRun py urls actions) later =
      proxyRun py urls (actions ++ later) :=
  (Config.run_append _ _ _ _).symm

/-- INTERNAL: the turns of a run are turns of the ring of the pool. -/
theorem servesEach_turns {actions later : List ProxyAction}
    (hpool : (proxyRun py urls actions).shared.repository.getPool tenantId poolId = some pool)
    (hother : ∀ a ∈ later, ¬ Upserts tenantId poolId a) :
    ∃ pool', (proxyRun py urls (actions ++ later)).shared.repository.getPool tenantId poolId =
        some pool' ∧ pool'.proxies.length = pool.proxies.length ∧
      ServesEach pool.ring (turns py urls tenantId poolId (proxyRun py urls actions) later)
        pool'.ring := by
  induction later generalizing actions pool with
  | nil =>
      rw [List.append_nil]
      exact ⟨pool, hpool, rfl, .nil pool.ring⟩
  | cons a later ih =>
      obtain ⟨next, hnext, hturned⟩ := turned_step (poolsOk_run actions) hpool
        (hother a List.mem_cons_self) (steps_of_proxyRun actions a)
      have hstep : proxyStep py urls (proxyRun py urls actions) a =
          proxyRun py urls (actions ++ [a]) := run_append actions [a]
      rw [hstep] at hnext
      obtain ⟨pool', hpool', hlength, hserves⟩ := ih hnext
        (fun b hb => hother b (List.mem_cons_of_mem _ hb))
      rw [List.append_assoc, List.singleton_append] at hpool'
      refine ⟨pool', hpool', hlength.trans hturned.length_eq, ?_⟩
      rw [turns, hstep]
      have hring := hturned.ring
      cases hturn : turnOf py tenantId poolId (proxyRun py urls actions).shared a with
      | none =>
          rw [hturn] at hring
          simp only at hring
          rw [hring] at hserves
          exact hserves
      | some turn =>
          rw [hturn] at hring
          exact .cons hring hserves

/-- INTERNAL: what is live at a turn is what is live at its point of the run. -/
theorem exists_point_of_mem_turns {c : ProxyRun} {later : List ProxyAction}
    {turn : (String → Bool) × String} (h : turn ∈ turns py urls tenantId poolId c later) :
    ∃ before a after, later = before ++ a :: after ∧
      turnOf py tenantId poolId (Config.run (ProxyCall.program py urls) c before).shared a =
        some turn := by
  induction later generalizing c with
  | nil => cases h
  | cons a later ih =>
      rw [turns, List.mem_append] at h
      rcases h with h | h
      · exact ⟨[], a, later, rfl, Option.mem_toList.mp h⟩
      · obtain ⟨before, b, after, hlater, hturn⟩ := ih h
        exact ⟨a :: before, b, after, by rw [hlater]; rfl, hturn⟩

theorem live_eq_of_turnOf {a : ProxyAction} {turn : (String → Bool) × String}
    (h : turnOf py tenantId poolId s a = some turn) : turn.1 = liveIn tenantId poolId s := by
  unfold turnOf at h
  cases a with
  | resume i answer => cases h
  | call call =>
      cases hcall : call.operation with
      | upsert args =>
          simp only [hcall] at h
          cases h
      | check args =>
          simp only [hcall] at h
          cases h
      | lease args =>
          simp only [hcall] at h
          unfold leaseTurn at h
          split at h
          · split at h
            · rename_i pool selectedAt hpool _
              rw [Option.map_eq_some_iff] at h
              obtain ⟨selected, _, rfl⟩ := h
              funext proxyId
              unfold liveIn
              rw [hpool]
            · cases h
          · cases h

end Steps

/-! ## Fairness -/

section Fairness

variable {py : Stdlib} {urls : Urllib} {tenantId poolId : String}

/-- What becomes of a call that takes the turn of a proxy: one of its contracts raises, or it
returns a lease of the proxy when its event is published. -/
def Returns (proxyId : String)
    (p : Pause proxyInterface ProxyState ProxyRotationError ProxyResult) : Prop :=
  match p with
  | .finished res => ∃ e, res = .error (.shared e)
  | .suspended _ rest => ∃ lease : ProxyLease, lease.fields.proxyId = proxyId ∧ ∀ answer s,
      (rest answer).advance s = (.finished (answer >>= fun _ => .ok (.lease lease)), s)

theorem returns_of_turnOf {s : ProxyState} (hok : PoolsOk s) {call : ProxyCall}
    {turn : (String → Bool) × String} (h : turnOf py tenantId poolId s (.call call) = some turn) :
    Returns turn.2 ((call.program py urls).advance s).1 := by
  unfold turnOf at h
  unfold ProxyCall.program
  cases hcall : call.operation with
  | upsert args =>
      simp only [hcall] at h
      cases h
  | check args =>
      simp only [hcall] at h
      cases h
  | lease args =>
      simp only [hcall] at h ⊢
      unfold leaseTurn at h
      split at h
      · rename_i hsame
        split at h
        · rename_i pool selectedAt hpool htime
          rw [Option.map_eq_some_iff] at h
          obtain ⟨⟨index, proxy⟩, hselected, rfl⟩ := h
          obtain ⟨hproxy, hlive⟩ := mem_of_selectLiveProxy? hselected
          have hwf := hok.wellFormed _ _ hpool
          have hleases : Leases py call.env args s _ := leases_leaseProxy call.env args s
          generalize hstart : (leaseProxy py call.env args).advance s = start at hleases
          rw [advance_map, hstart]
          cases hleases with
          | poolNotFound message hnone =>
              rw [hsame.1, hsame.2, hpool] at hnone
              cases hnone
          | invalidTime old e hold htime' =>
              rw [htime] at htime'
              cases htime'
          | unavailable old selectedAt' message hold htime' hnone =>
              rw [hsame.1, hsame.2, hpool, Option.some.injEq] at hold
              rw [← hold, hselected] at hnone
              cases hnone
          | selected old selectedAt' index' proxy' log p hold htime' hselected' hlog hdelivers =>
              rw [hsame.1, hsame.2, hpool, Option.some.injEq] at hold
              rw [← hold, hselected, Option.some.injEq, Prod.mk.injEq] at hselected'
              rw [← hselected'.2] at hdelivers
              cases p with
              | finished res =>
                  obtain ⟨e, rfl⟩ := hdelivers
                  exact ⟨e, rfl⟩
              | suspended q rest =>
                  obtain ⟨lease, hnames, hrest⟩ := hdelivers
                  refine ⟨lease, ?_, ?_⟩
                  · rw [hnames.proxyId]
                    exact hwf.trimmedProxyIds _ (List.mem_map_of_mem hproxy)
                  · intro answer s'
                    show ((rest answer >>= fun a => pure (ProxyResult.lease a)).advance s') = _
                    rw [advance_bind, hrest]
                    cases answer with
                    | error e => rfl
                    | ok u => rfl
        · cases h
      · cases h

/-- INTERNAL: the live elements of the ring are the live proxies. -/
theorem filter_ring_perm {pool : ProxyPoolState} (h : WellFormed pool) :
    List.Perm (pool.ring.filter pool.live)
      ((pool.proxies.filter (·.isLeasable)).map (·.proxyId)) := by
  have hring : List.Perm (pool.ring.filter pool.live)
      ((pool.proxies.map (·.proxyId)).filter pool.live) :=
    (List.rotate_perm _ _).filter _
  refine hring.trans ?_
  rw [List.filter_map]
  have hsame : pool.proxies.filter (pool.live ∘ (·.proxyId)) =
      pool.proxies.filter (·.isLeasable) :=
    List.filter_congr fun p hp => h.live_of_mem hp
  rw [hsame]

theorem length_filter_ring {pool : ProxyPoolState} (h : WellFormed pool) :
    (pool.ring.filter pool.live).length = pool.healthyProxyCount := by
  rw [(filter_ring_perm h).length_eq, List.length_map, h.counted.healthy,
    List.countP_eq_length_filter]

/-- **No live proxy starves**: in every run without an upsert of the pool, a proxy that stays
enabled and healthy takes one of any `len(proxies)` consecutive turns; while no health changes,
as many turns as there are live proxies take each of them once; and a turn is a lease of its
proxy, unless one of the contracts of the call refuses it. -/
theorem leaseProxy_fair (py : Stdlib) (urls : Urllib) (tenantId poolId : String)
    (actions later : List ProxyAction) (pool : ProxyPoolState)
    (hpool : (proxyRun py urls actions).shared.repository.getPool tenantId poolId = some pool)
    (hother : ∀ a ∈ later, ¬ Upserts tenantId poolId a) :
    let c := proxyRun py urls actions
    let taken := turns py urls tenantId poolId c later
    (∀ proxyId, (∀ before after, later = before ++ after →
        liveIn tenantId poolId (proxyRun py urls (actions ++ before)).shared proxyId = true) →
      pool.proxies.length ≤ taken.length → ∃ turn ∈ taken, turn.2 = proxyId) ∧
    ((∀ before after, later = before ++ after →
        liveIn tenantId poolId (proxyRun py urls (actions ++ before)).shared =
          liveIn tenantId poolId c.shared) →
      taken.length = pool.healthyProxyCount →
      List.Perm (taken.map Prod.snd) ((pool.proxies.filter (·.isLeasable)).map (·.proxyId))) ∧
    ∀ before call after turn, later = before ++ .call call :: after →
      turnOf py tenantId poolId (proxyRun py urls (actions ++ before)).shared (.call call) =
        some turn →
      Returns turn.2
        ((call.program py urls).advance (proxyRun py urls (actions ++ before)).shared).1 := by
  intro c taken
  obtain ⟨pool', _, _, hserves⟩ := servesEach_turns hpool hother
  have hpoint : ∀ turn ∈ taken, ∃ before after, later = before ++ after ∧
      turn.1 = liveIn tenantId poolId (proxyRun py urls (actions ++ before)).shared := by
    intro turn hturn
    obtain ⟨before, a, after, hlater, hturnOf⟩ := exists_point_of_mem_turns hturn
    rw [run_append] at hturnOf
    exact ⟨before, a :: after, hlater, live_eq_of_turnOf hturnOf⟩
  have hstart : liveIn tenantId poolId c.shared = pool.live := by
    funext proxyId
    unfold liveIn
    rw [hpool]
  have hwf : WellFormed pool := (poolsOk_run actions).wellFormed _ _ hpool
  refine ⟨?_, ?_, ?_⟩
  · intro proxyId hlive hlength
    have hfirst := hlive [] later rfl
    rw [List.append_nil] at hfirst
    have hmem : proxyId ∈ pool.ring := by
      apply mem_ring_of_live
      rw [← hstart]
      exact hfirst
    refine hserves.exists_served hmem ?_ ?_
    · intro turn hturn
      obtain ⟨before, after, hlater, hsame⟩ := hpoint turn hturn
      rw [hsame]
      exact hlive before after hlater
    · rw [length_ring]
      exact hlength
  · intro hsame hlength
    have hlive : ∀ turn ∈ taken, turn.1 = pool.live := by
      intro turn hturn
      obtain ⟨before, after, hlater, hlive⟩ := hpoint turn hturn
      rw [hlive, hsame before after hlater, hstart]
    rw [← length_filter_ring hwf] at hlength
    exact (hserves.served_perm hlive hlength).trans (filter_ring_perm hwf)
  · intro before call after turn _ hturn
    exact returns_of_turnOf (poolsOk_run _) hturn

end Fairness

/-! ## Leases of the sample's pool -/

namespace Sample

variable (py : Stdlib)

/-- A lease of the sample's pool, and the answer of its publisher. -/
def leaseAnd (n : ℕ) (answer : Except ProxyRotationError Unit) : List ProxyAction :=
  [.call lease, .resume n (fun _ => answer)]

/-- INTERNAL: a lease whose publisher answers at once. -/
theorem run_leaseAnd {c : ProxyRun} {n : ℕ} {cursor : Fin 2} {auditHash : String}
    (hpool : poolOf c.shared = some (pool py 1 cursor auditHash)) (hn : c.tasks.length = n)
    (answer : Except ProxyRotationError Unit) :
    ∃ (made : ProxyLease) (c' : ProxyRun),
      Config.run (ProxyCall.program py urls) c (leaseAnd n answer) = c' ∧
      made.fields.proxyId = proxyAt cursor ∧
      c'.tasks = c.tasks ++ [⟨lease, .finished (answer >>= fun _ => .ok (.lease made))⟩] ∧
      poolOf c'.shared = some (pool py 1 (cursor + 1 : Fin 2) auditHash) := by
  obtain ⟨made, log, hproxyId, hawaits, hstate⟩ := advance_lease py hpool (le_refl 1)
  have hrun := run_call_answer py hawaits hstate answer
  have hnext : ((cursor + 1 : ℕ) % 2) = ((cursor + 1 : Fin 2) : ℕ) := by
    match cursor with
    | 0 => rfl
    | 1 => rfl
  rw [hn] at hrun
  refine ⟨made, _, hrun, hproxyId, rfl, ?_⟩
  rw [← hnext]
  exact getPool_savePool py _ _ _ _ _

theorem liveIn_of_poolOf {s : ProxyState} {revision cursor : ℕ} {auditHash : String}
    (h : poolOf s = some (pool py revision cursor auditHash)) :
    liveIn "media-center" "telegram-main" s = (pool py 1 0 "").live := by
  funext proxyId
  unfold liveIn
  have hget : s.repository.getPool "media-center" "telegram-main" = _ := h
  rw [hget]
  rfl

theorem turnOf_lease {s : ProxyState} {cursor : Fin 2} {auditHash : String}
    (h : poolOf s = some (pool py 1 cursor auditHash)) :
    turnOf py "media-center" "telegram-main" s (.call lease) =
      some ((pool py 1 0 "").live, proxyAt cursor) := by
  have hget : s.repository.getPool "media-center" "telegram-main" = _ := h
  have htime : resolveTime py env.now leaseArgs.selectedAt = .ok 0 := rfl
  show leaseTurn py "media-center" "telegram-main" s env.now leaseArgs = _
  unfold leaseTurn
  rw [if_pos ⟨rfl, rfl⟩, hget, htime]
  simp only [selectLiveProxy?_pool, Option.map_some]
  rfl

/-- INTERNAL: a lease before its publisher answers. -/
theorem step_lease {c : ProxyRun} {cursor : Fin 2} {auditHash : String}
    (hpool : poolOf c.shared = some (pool py 1 cursor auditHash)) :
    poolOf (proxyStep py urls c (.call lease)).shared =
      some (pool py 1 (cursor + 1 : Fin 2) auditHash) := by
  obtain ⟨made, log, _, _, hstate⟩ := advance_lease py hpool (le_refl 1)
  have hnext : ((cursor + 1 : ℕ) % 2) = ((cursor + 1 : Fin 2) : ℕ) := by
    match cursor with
    | 0 => rfl
    | 1 => rfl
  have hshared : (proxyStep py urls c (.call lease)).shared =
      ((lease.program py urls).advance c.shared).2 := by
    unfold proxyStep
    rw [Config.step_call]
  rw [hshared, hstate, ← hnext]
  exact getPool_savePool py _ _ _ _ _

end Sample

open Reference in
/-- The theorem at two overlapping leases: each of the two proxies has its turn. -/
theorem leaseProxy_fair_overlapping :
    let actions : List ProxyAction := [.call Sample.upsert, .resume 0 (fun _ => .ok ())]
    ∃ turn ∈ turns stdlib Sample.urls "media-center" "telegram-main"
      (proxyRun stdlib Sample.urls actions) [.call Sample.lease, .call Sample.lease],
      turn.2 = "proxy-2" := by
  intro actions
  obtain ⟨auditHash, hpool, _⟩ := Sample.run_upsert stdlib (.ok ())
  have hpool₀ : Sample.poolOf (proxyRun stdlib Sample.urls actions).shared =
      some (Sample.pool stdlib 1 (0 : Fin 2) auditHash) := hpool
  have hpool₁ := Sample.step_lease stdlib hpool₀
  have hpool₂ := Sample.step_lease stdlib hpool₁
  have hfair := leaseProxy_fair stdlib Sample.urls "media-center" "telegram-main" actions
    [.call Sample.lease, .call Sample.lease] _ hpool₀ (by
      intro a ha
      simp only [List.mem_cons, List.not_mem_nil, or_false, or_self] at ha
      rw [ha]
      exact id)
  refine hfair.1 "proxy-2" ?_ ?_
  · intro before after heq
    have hlive : (Sample.pool stdlib 1 0 "").live "proxy-2" = true := rfl
    match before, heq with
    | [], _ =>
        rw [List.append_nil, Sample.liveIn_of_poolOf stdlib hpool₀]
        exact hlive
    | [a], heq =>
        rw [List.singleton_append, List.cons.injEq] at heq
        rw [← heq.1, ← run_append, Config.run_cons, Config.run_nil]
        have hstate := Sample.liveIn_of_poolOf stdlib hpool₁
        unfold proxyStep at hstate
        rw [hstate]
        exact hlive
    | [a, b], heq =>
        simp only [List.cons_append, List.nil_append, List.cons.injEq] at heq
        rw [← heq.1, ← heq.2.1, ← run_append, Config.run_cons, Config.run_cons, Config.run_nil]
        have hstate := Sample.liveIn_of_poolOf stdlib hpool₂
        unfold proxyStep at hstate
        rw [hstate]
        exact hlive
    | a :: b :: d :: before, heq =>
        simp at heq
  · rw [turns, turns, turns, Sample.turnOf_lease stdlib hpool₀,
      Sample.turnOf_lease stdlib hpool₁]
    exact le_refl 2

open Reference in
/-- A proxy that stays live is not among the leases returned: its turn went to a lease whose
event was refused. -/
theorem leaseProxy_refusedEvent :
    let actions : List ProxyAction := [.call Sample.upsert, .resume 0 (fun _ => .ok ())]
    let c := proxyRun stdlib Sample.urls (actions ++ (Sample.leaseAnd 1 (.ok ()) ++
      (Sample.leaseAnd 2 (.error (.rotation "publisher")) ++ Sample.leaseAnd 3 (.ok ()))))
    ∃ (pool : ProxyPoolState) (first second : ProxyLease), c.tasks.map (fun t => t.pause) =
        [.finished (.ok (.pool pool)), .finished (.ok (.lease first)),
          .finished (.error (.rotation "publisher")), .finished (.ok (.lease second))] ∧
      pool.proxies.length = 2 ∧
      first.fields.proxyId = "proxy-1" ∧ second.fields.proxyId = "proxy-1" ∧
      liveIn "media-center" "telegram-main" c.shared "proxy-2" = true := by
  intro actions c
  obtain ⟨auditHash, hpool, htasks⟩ := Sample.run_upsert stdlib (.ok ())
  have hlength : (proxyRun stdlib Sample.urls actions).tasks.length = 1 :=
    congrArg List.length htasks
  have hpool₀ : Sample.poolOf (proxyRun stdlib Sample.urls actions).shared =
      some (Sample.pool stdlib 1 (0 : Fin 2) auditHash) := hpool
  obtain ⟨first, c₁, hrun₁, hfirst, htasks₁, hpool₁⟩ :=
    Sample.run_leaseAnd stdlib hpool₀ hlength (.ok ())
  have hlength₁ : c₁.tasks.length = 2 := by
    rw [htasks₁, htasks]
    rfl
  obtain ⟨_, c₂, hrun₂, _, htasks₂, hpool₂⟩ :=
    Sample.run_leaseAnd stdlib hpool₁ hlength₁ (.error (.rotation "publisher"))
  have hlength₂ : c₂.tasks.length = 3 := by
    rw [htasks₂, htasks₁, htasks]
    rfl
  obtain ⟨second, c₃, hrun₃, hsecond, htasks₃, hpool₃⟩ :=
    Sample.run_leaseAnd stdlib hpool₂ hlength₂ (.ok ())
  have hc : c = c₃ := by
    have hsplit : c = Config.run (ProxyCall.program stdlib Sample.urls)
        (proxyRun stdlib Sample.urls actions) _ := Config.run_append _ _ _ _
    rw [hsplit, Config.run_append, Config.run_append, ← hrun₃, ← hrun₂, ← hrun₁]
  rw [hc]
  refine ⟨Sample.pool stdlib 1 0 auditHash, first, second, ?_, ?_, hfirst, hsecond, ?_⟩
  · rw [htasks₃, htasks₂, htasks₁, htasks]
    rfl
  · rfl
  · rw [Sample.liveIn_of_poolOf stdlib hpool₃]
    rfl

end MediaCenter.NeuroAgentOrchestrator
