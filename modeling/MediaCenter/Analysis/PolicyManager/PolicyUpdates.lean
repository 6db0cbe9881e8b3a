import MediaCenter.Analysis.PolicyManager.PolicyApplication
import MediaCenter.Library.Unwinding

/-!
# Updates that leave a trace

An update writes its audit record before its version is checked, and stores the version before
its event is checked.  One that raises in between leaves a record of no version; one that raises
over its event leaves a version that is in force and that no event announces.
-/

set_option autoImplicit false

namespace MediaCenter.PolicyManager

open MediaCenter.Library MediaCenter.Shared

/-! ## Versions in the log and in the events -/

/-- A version of a policy: the tenant and the key, the number and the audit hash. -/
abbrev VersionEntry : Type := (String × String) × ℤ × String

def storedVersion (policy : PolicyRecord) : VersionEntry :=
  (policy.storeKey, policy.fields.version, policy.fields.auditHash)

/-- The version that a `policy.updated` record names, under the hash of the record. -/
def recordedVersion (record : AuditLogRecord) : Option VersionEntry :=
  match record.fields.eventType == policyUpdatedEvent,
      JSONValue.item "key" record.fields.metadata,
      JSONValue.item "version" record.fields.metadata with
  | true, some (.str key), some (.int version) =>
      some (policyKey record.fields.tenantId key, version, record.fields.auditHash)
  | _, _, _ => none

/-- The version that a `policy.updated` event announces. -/
def announcedVersion (event : EventEnvelope) : Option VersionEntry :=
  match event.type == policyUpdatedEvent, JSONValue.item "key" event.payload,
      JSONValue.item "version" event.payload, JSONValue.item "audit_hash" event.payload with
  | true, some (.str key), some (.int version), some (.str auditHash) =>
      some (policyKey event.tenantId key, version, auditHash)
  | _, _, _, _ => none

/-- Every entry names a version, and those of a policy name its stored versions, in order. -/
structure Lists (entries : List (Option VersionEntry)) (repository : InMemoryPolicyRepository) :
    Prop where
  named : none ∉ entries
  versions : ∀ tenantId key,
    entries.filter (fun entry => entry.map Prod.fst = some (policyKey tenantId key)) =
      (repository.stored tenantId key).map fun policy => some (storedVersion policy)

theorem lists_nil : Lists [] .empty := ⟨List.not_mem_nil, fun _ _ => rfl⟩

/-- INTERNAL: a version is stored and listed. -/
theorem Lists.concat {entries : List (Option VersionEntry)}
    {repository : InMemoryPolicyRepository} (h : Lists entries repository)
    (policy : PolicyRecord) :
    Lists (entries ++ [some (storedVersion policy)]) (repository.savePolicy policy) := by
  refine ⟨?_, fun tenantId key => ?_⟩
  · rw [List.mem_append, not_or]
    exact ⟨h.named, by simp⟩
  · rw [List.filter_append, h.versions, stored_savePolicy]
    by_cases hkey : policyKey tenantId key = policy.storeKey
    · rw [if_pos hkey, List.map_append, hkey]
      simp [storedVersion]
    · rw [if_neg hkey]
      simp [storedVersion, Ne.symm hkey]

/-! ## Runs with their events -/

/-- A run of updates, and the events handed to the publisher so far. -/
structure PublishingRun where
  run : PolicyRun
  published : List EventEnvelope

def PublishingRun.initial : PublishingRun := ⟨.initial .initial, []⟩

/-- A new call may hand over the event that it then waits with. -/
def PublishingRun.step (py : Stdlib) (c : PublishingRun) (a : Action UpdateCall policyInterface) :
    Unit × PublishingRun :=
  ((), {
    run := policyStep py c.run a
    published := match a with
      | .call _ => c.published ++ ((policyStep py c.run a).pending c.run.tasks.length).toList
      | .resume _ _ => c.published })

/-- The `i`-th call has raised. -/
def Raised (c : PolicyRun) (i : ℕ) : Prop :=
  ∃ call e, c.tasks[i]? = some ⟨call, .finished (.error e)⟩

/-- An update that raises leaves everything as it was, and none raises over a publisher that does
not fail. -/
def AllOrNothing (py : Stdlib) (c : PublishingRun) : Action UpdateCall policyInterface → Prop
  | .call call => Raised (c.step py (.call call)).2.run c.run.tasks.length →
      (c.step py (.call call)).2.run.shared = c.run.shared ∧
        (c.step py (.call call)).2.published = c.published
  | .resume i answer => (∀ event, answer event = .ok ()) → c.run.pending i ≠ none →
      ¬ Raised (c.step py (.resume i answer)).2.run i

/-- One record and one event for each stored version, and for nothing else. -/
structure OneForOne (c : PublishingRun) : Prop where
  records : Lists (c.run.shared.auditLog.map recordedVersion) c.run.shared.repository
  events : Lists (c.published.map announcedVersion) c.run.shared.repository

/-- Of a policy that has stored versions, `apply_policies` uses an announced one. -/
def AppliesAnnounced (c : PublishingRun) : Prop :=
  ∀ (py : Stdlib) (now : Instant) (args : ApplyArgs) (result : PolicyApplicationResult),
    applyPolicies py now c.run.shared.repository args = .ok result →
      ∀ key version, result.fields.policyVersions.get? key = some version →
        c.run.shared.repository.stored args.tenantId key = [] ∨ ∃ auditHash,
          some (policyKey args.tenantId key, (version : ℤ), auditHash) ∈
            c.published.map announcedVersion

/-! ## Updates that fit -/

/-- An update whose audit record is written fits. -/
def Fits (py : Stdlib) (call : UpdateCall) : Prop :=
  ∀ key, Audited py call key → UpdateFits call.args key

section Update

variable {py : Stdlib} {args : UpdateArgs} {key : String} {version : ℕ} {changedAt : Instant}
  {record : AuditLogRecord} {policy : PolicyRecord}

/-- INTERNAL: the version that is stored. -/
theorem storedVersion_of_policyRecord (htenant : tenantIdPattern args.tenantId = true)
    (hkey : policyKeyPattern key = true)
    (h : policyRecord (args.policyFields key version changedAt record.fields.auditHash) =
      .ok policy) :
    storedVersion policy = (policyKey args.tenantId key, (version : ℤ), record.fields.auditHash) := by
  unfold policyRecord at h
  rw [Validated.make_eq_ok_iff] at h
  unfold storedVersion PolicyRecord.storeKey
  rw [h]
  simp only [UpdateArgs.policyFields, trim_of_tokenPattern (tokenPattern_of_tenantIdPattern htenant),
    Text.trim_of_forall_visible (visible_of_policyKeyPattern hkey),
    trim_of_auditHashPattern (auditHashPattern_auditHash record)]

theorem recordedVersion_of_auditArgs
    (h : auditRecord py (args.auditArgs py key version changedAt) = .ok record) :
    recordedVersion record =
      some (policyKey args.tenantId key, (version : ℤ), record.fields.auditHash) := by
  obtain ⟨_, htype, htenant, hmetadata, _⟩ := auditRecord_eq_ok h
  have hkind : (Text.trim policyUpdatedEvent == policyUpdatedEvent) = true := by decide
  unfold recordedVersion
  rw [htype, htenant, hmetadata]
  simp only [UpdateArgs.auditArgs, hkind]
  rfl

theorem announcedVersion_of_event {env : Ambient} {event : EventEnvelope}
    (htenant : tenantIdPattern args.tenantId = true)
    (hpolicy : policy.fields.tenantId = args.tenantId)
    (h : eventEnvelope (args.event env changedAt policy) = .ok event) :
    announcedVersion event = some (storedVersion policy) := by
  obtain ⟨hrouting, htype, hpayload⟩ := eventEnvelope_eq_ok h
  have hkind : normalizeEventType policyUpdatedEvent = .ok policyUpdatedEvent := by decide
  have heventType : event.type = policyUpdatedEvent := by
    rw [show (args.event env changedAt policy).type = policyUpdatedEvent from rfl, hkind] at htype
    exact (Except.ok.inj htype).symm
  have heventTenant : event.tenantId = args.tenantId := by
    have hnormal := (normalizeRoutingSegment_eq_ok_iff.mp hrouting).1
    rw [show (args.event env changedAt policy).tenantId = args.tenantId from rfl,
      normalizeToken_of_tokenPattern (tokenPattern_of_tenantIdPattern htenant)] at hnormal
    exact (Except.ok.inj hnormal).symm
  unfold announcedVersion storedVersion PolicyRecord.storeKey
  rw [heventType, heventTenant, hpayload, hpolicy, beq_self_eq_true]
  rfl

/-- INTERNAL: the record and the event of a stored version name it. -/
theorem versions_of_stored {call : UpdateCall} {event : EventEnvelope} {repository}
    (haudited : Audited py call key)
    (hsaves : Saves call.args policy repository (repository.savePolicy policy))
    (hrecord : auditRecord py (call.args.auditArgs py key version changedAt) = .ok record)
    (hpolicy : policyRecord (call.args.policyFields key version changedAt
      record.fields.auditHash) = .ok policy)
    (hevent : eventEnvelope (call.args.event call.env changedAt policy) = .ok event) :
    recordedVersion record = some (storedVersion policy) ∧
      announcedVersion event = some (storedVersion policy) := by
  refine ⟨?_, announcedVersion_of_event hsaves.pattern hsaves.tenantId hevent⟩
  rw [storedVersion_of_policyRecord hsaves.pattern
    (policyKeyPattern_of_normalizePolicyKey haudited.1) hpolicy]
  exact recordedVersion_of_auditArgs hrecord

end Update

/-! ## One action and whole runs -/

section Runs

variable {py : Stdlib} {c : PublishingRun} {call : UpdateCall}

/-- What holds in a run of updates that fit. -/
structure Invariant (c : PublishingRun) : Prop where
  gapless : Gapless c.run.shared.repository
  waiting : ∀ t ∈ c.run.tasks, ∀ event rest, t.pause = .suspended event rest →
    ∃ policy, ∀ answer s, (rest answer).advance s = (.finished (answer.map fun _ => policy), s)
  oneForOne : OneForOne c

theorem invariant_initial : Invariant .initial where
  gapless := gapless_empty
  waiting := fun t ht => by cases ht
  oneForOne := ⟨lists_nil, lists_nil⟩

/-- The events that a pause hands over. -/
def handedOver : Coroutine.Pause policyInterface PolicyState PolicyManagerError PolicyRecord →
    List EventEnvelope
  | .finished _ => []
  | .suspended event _ => [event]

theorem step_call_eq {p : Coroutine.Pause policyInterface PolicyState PolicyManagerError PolicyRecord}
    {s : PolicyState} (h : (call.program py).advance c.run.shared = (p, s)) :
    (c.step py (.call call)).2 = ⟨⟨s, c.run.tasks ++ [⟨call, p⟩], c.run.answered⟩,
      c.published ++ handedOver p⟩ := by
  have hrun : policyStep py c.run (.call call) =
      ⟨s, c.run.tasks ++ [⟨call, p⟩], c.run.answered⟩ := by
    unfold policyStep
    rw [Config.step_call, h]
  unfold PublishingRun.step
  simp only [hrun, PublishingRun.mk.injEq, true_and]
  unfold Config.pending
  simp only [List.getElem?_concat_length]
  cases p with
  | finished result => rfl
  | suspended event rest => rfl

theorem raised_concat_iff {s : PolicyState} {tasks : List (Task UpdateCall policyInterface
    PolicyState PolicyManagerError PolicyRecord)} {answered}
    {p : Coroutine.Pause policyInterface PolicyState PolicyManagerError PolicyRecord} :
    Raised ⟨s, tasks ++ [⟨call, p⟩], answered⟩ tasks.length ↔ ∃ e, p = .finished (.error e) := by
  unfold Raised
  simp only [List.getElem?_concat_length, Option.some.injEq, Task.mk.injEq]
  constructor
  · rintro ⟨_, e, _, hp⟩
    exact ⟨e, hp⟩
  · rintro ⟨e, hp⟩
    exact ⟨call, e, rfl, hp⟩

/-- INTERNAL: an update that does not fit raises behind its record. -/
theorem fits_of_allOrNothing (h : AllOrNothing py c (.call call)) : Fits py call := by
  intro key haudited
  simp only [AllOrNothing] at h
  have houtcome := updateOutcome py call c.run.shared
  generalize hadvance : (call.program py).advance c.run.shared = r at houtcome
  cases houtcome with
  | refused e hrefused => exact absurd haudited (hrefused key)
  | recorded e key' record repository haudited' hnot _ =>
      rw [step_call_eq hadvance, raised_concat_iff] at h
      have hlog := congrArg PolicyState.auditLog (h ⟨e, rfl⟩).1
      exact absurd hlog (by simp)
  | stored event rest key' version changedAt record policy haudited' hfits =>
      have hkey := haudited.1.symm.trans haudited'.1
      cases hkey
      exact hfits

/-- INTERNAL: an update that fits is all or nothing, and is listed once if it is stored. -/
theorem Invariant.step_call (h : Invariant c) (hfits : Fits py call) :
    Invariant (c.step py (.call call)).2 ∧ AllOrNothing py c (.call call) := by
  simp only [AllOrNothing]
  have houtcome := updateOutcome py call c.run.shared
  generalize hadvance : (call.program py).advance c.run.shared = r at houtcome
  cases houtcome with
  | refused e hrefused =>
      rw [step_call_eq hadvance]
      refine ⟨⟨h.gapless, fun t ht event rest hp => ?_, ?_⟩, fun _ => ⟨rfl, List.append_nil _⟩⟩
      · rcases List.mem_append.mp ht with hold | hnew
        · exact h.waiting t hold event rest hp
        · rw [List.mem_singleton.mp hnew] at hp
          cases hp
      · unfold handedOver
        rw [List.append_nil]
        exact ⟨h.oneForOne.records, h.oneForOne.events⟩
  | recorded e key record repository haudited hnot _ => exact absurd (hfits key haudited) hnot
  | stored event rest key version changedAt record policy haudited hfit hsaves hrecord hpolicy
      hevent hrest =>
      have hgapless := hsaves.gapless h.gapless
      obtain ⟨hrecorded, hannounced⟩ :=
        versions_of_stored haudited hsaves hrecord hpolicy hevent
      rw [step_call_eq hadvance]
      refine ⟨⟨hgapless, fun t ht event' rest' hp => ?_, ?_, ?_⟩, fun hraised => ?_⟩
      · rcases List.mem_append.mp ht with hold | hnew
        · exact h.waiting t hold event' rest' hp
        · rw [List.mem_singleton.mp hnew] at hp
          cases hp
          exact ⟨policy, hrest⟩
      · rw [List.map_append, List.map_singleton, hrecorded]
        exact h.oneForOne.records.concat policy
      · unfold handedOver
        rw [List.map_append, List.map_singleton, hannounced]
        exact h.oneForOne.events.concat policy
      · obtain ⟨e, he⟩ := raised_concat_iff.mp hraised
        cases he

/-- INTERNAL: an answer of the publisher ends its call and changes nothing else. -/
theorem Invariant.step_resume (h : Invariant c) (i : ℕ)
    (answer : ∀ q : policyInterface.Request, policyInterface.Answer q) :
    Invariant (c.step py (.resume i answer)).2 ∧ AllOrNothing py c (.resume i answer) := by
  unfold AllOrNothing PublishingRun.step policyStep
  cases hpending : c.run.pending i with
  | none =>
      rw [Config.step_resume_of_pending_eq_none _ hpending]
      exact ⟨h, fun _ hne => absurd hpending hne⟩
  | some event =>
      obtain ⟨call, rest, htask⟩ := Config.exists_task_of_pending hpending
      obtain ⟨policy, hrest⟩ :=
        h.waiting _ (List.mem_of_getElem? htask) event rest rfl
      obtain ⟨hshared, htasks, hi, -⟩ := Config.step_resume_of_advance (UpdateCall.program py) answer
        htask (hrest (answer event) c.run.shared)
      refine ⟨⟨?_, fun t ht event' rest' hp => ?_, ?_⟩, fun hanswer _ hraised => ?_⟩
      · simp only [hshared]
        exact h.gapless
      · simp only [htasks] at ht
        rcases List.mem_or_eq_of_mem_set ht with hold | hnew
        · exact h.waiting t hold event' rest' hp
        · rw [hnew] at hp
          cases hp
      · obtain ⟨hrecords, hevents⟩ := h.oneForOne
        constructor
        · simp only [hshared]
          exact hrecords
        · simp only [hshared]
          exact hevents
      · obtain ⟨call', e, hraised⟩ := hraised
        simp only [hi, hanswer event] at hraised
        cases hraised

/-- INTERNAL: the versions that are applied are the last stored ones. -/
theorem Invariant.appliesAnnounced (h : Invariant c) : AppliesAnnounced c := by
  intro py now args result happly key version hversion
  have hkeyed : Keyed c.run.shared.repository :=
    fun tenantId key policy hpolicy => (h.gapless.keyed tenantId key policy hpolicy).2
  obtain ⟨-, reads, hreads, appliedAt, -, hresult⟩ := applyPolicies_eq_ok_iff.mp happly
  rw [hresult] at hversion
  obtain ⟨read, hread, rfl, rfl⟩ :=
    (get?_foldl_add (version_of_reads hkeyed hreads) key version).mp hversion
  obtain ⟨key', -, hok⟩ := (mem_mapM_iff hreads).mp hread
  have hpolicy := (readPolicy_eq_ok_iff.mp hok).1
  have hkey := key_of_getPolicy hkeyed hpolicy
  rcases List.eq_nil_or_concat (c.run.shared.repository.stored args.tenantId read.1.fields.key)
    with hnil | ⟨front, latest, hconcat⟩
  · exact .inl hnil
  · right
    have hnormal : normalizePolicyKey key' = .ok read.1.fields.key := by
      rw [hkey]
      unfold InMemoryPolicyRepository.getPolicy at hpolicy
      unfold normalizePolicyKey at hpolicy ⊢
      simp only at hpolicy ⊢
      split_ifs at hpolicy ⊢ with hpattern
      · rfl
      · cases hpolicy
    have hlast : c.run.shared.repository.getPolicy args.tenantId key' = .ok latest := by
      refine getPolicy_of_getLast? hnormal ?_
      rw [hconcat, List.concat_eq_append, List.getLast?_concat]
    rw [hpolicy, Except.ok.injEq] at hlast
    have hmem : read.1 ∈ c.run.shared.repository.stored args.tenantId read.1.fields.key := by
      rw [hconcat, hlast, List.concat_eq_append]
      simp
    have hentry : some (storedVersion read.1) ∈ c.published.map announcedVersion := by
      have hlisted := List.mem_map_of_mem (f := fun policy => some (storedVersion policy)) hmem
      rw [← h.oneForOne.events.versions] at hlisted
      exact List.mem_of_mem_filter hlisted
    refine ⟨read.1.fields.auditHash, ?_⟩
    unfold storedVersion PolicyRecord.storeKey at hentry
    rw [(h.gapless.keyed _ _ _ hmem).1] at hentry
    exact hentry

/-- In a run every update is all or nothing, and the log and the events match the stored versions,
exactly if every update whose record is written fits. -/
theorem updates_allOrNothing_iff (py : Stdlib)
    (actions : List (Action UpdateCall policyInterface)) :
    (∀ earlier a later, actions = earlier ++ a :: later →
      AllOrNothing py (after (PublishingRun.step py) .initial earlier) a ∧
        OneForOne (after (PublishingRun.step py) .initial (earlier ++ [a])) ∧
        AppliesAnnounced (after (PublishingRun.step py) .initial (earlier ++ [a]))) ↔
    ∀ call, Action.call call ∈ actions → Fits py call := by
  constructor
  · intro h call hcall
    obtain ⟨earlier, later, hsplit⟩ := List.append_of_mem hcall
    exact fits_of_allOrNothing (h earlier _ later hsplit).1
  · intro hall earlier a later hsplit
    have hmeets : ∀ l, (∀ b ∈ l, b ∈ actions) → EachMeets (PublishingRun.step py)
        (fun _ b => ∀ call, b = .call call → Fits py call) .initial l := by
      intro l hl
      rw [eachMeets_iff_forall_split]
      rintro before _ behind rfl call rfl
      exact hall call (hl _ (by simp))
    have hstep : ∀ (c : PublishingRun) (b : Action UpdateCall policyInterface), Invariant c →
        (∀ call, b = .call call → Fits py call) →
        Invariant (c.step py b).2 ∧ AllOrNothing py c b := by
      intro c b hc hfits
      cases b with
      | call call => exact hc.step_call (hfits call rfl)
      | resume i answer => exact hc.step_resume i answer
    have hearlier : Invariant (after (PublishingRun.step py) .initial earlier) :=
      after_induction _ _ (fun c b hc hfits => (hstep c b hc hfits).1) invariant_initial
        (hmeets earlier fun b hb => by rw [hsplit]; exact List.mem_append_left _ hb)
    obtain ⟨hnext, hatomic⟩ := hstep _ a hearlier fun call ha => hall call (by
      rw [hsplit, ha]
      simp)
    rw [after_concat]
    exact ⟨hatomic, hnext.oneForOne, hnext.appliesAnnounced⟩

/-- An update for a tenant whose id has a dot, which `TenantId` allows. -/
def dottedUpdate : UpdateCall :=
  { xaiUpdate with args := { xaiUpdate.args with tenantId := "coop.alpha" } }

/-- The version is recorded and in force, and then its event is refused. -/
theorem not_updates_allOrNothing_dotted : ¬ ∀ (py : Stdlib)
    (actions : List (Action UpdateCall policyInterface)),
    ∀ earlier a later, actions = earlier ++ a :: later →
      AllOrNothing py (after (PublishingRun.step py) .initial earlier) a ∧
        OneForOne (after (PublishingRun.step py) .initial (earlier ++ [a])) ∧
        AppliesAnnounced (after (PublishingRun.step py) .initial (earlier ++ [a])) := by
  intro hall
  have hfits := fits_of_allOrNothing
    (hall Reference.stdlib [.call dottedUpdate] [] (.call dottedUpdate) [] rfl).1
  have haudited : Audited Reference.stdlib dottedUpdate "ethics.require_xai" := by
    refine ⟨by decide, ⟨_, rfl⟩, by decide, by decide⟩
  have hdot := (hfits _ haudited).tenantId
  revert hdot
  decide

end Runs

end MediaCenter.PolicyManager
