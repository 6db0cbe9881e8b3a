import MediaCenter.Analysis.Shared.EventNormalForms
import MediaCenter.Model.PolicyManager.Manager

/-!
# Policy histories

An update stores one more version before it awaits its publisher, so whatever overlaps, every
history has its versions in order and without a gap.
-/

set_option autoImplicit false

namespace MediaCenter.PolicyManager

open MediaCenter.Library MediaCenter.Shared

/-! ## Keys and default policies -/

theorem policyKeyPattern_of_normalizePolicyKey {key normalized : String}
    (h : normalizePolicyKey key = .ok normalized) : policyKeyPattern normalized = true := by
  unfold normalizePolicyKey at h
  simp only at h
  split at h
  · rename_i hpattern
    cases h
    exact hpattern
  · cases h

theorem visible_of_policyKeyPattern {s : String} (h : policyKeyPattern s = true) :
    ∀ c ∈ s.toList, Text.Visible c := by
  unfold policyKeyPattern at h
  simp only [Bool.and_eq_true, List.all_eq_true] at h
  intro c hc
  by_cases hdot : c = '.'
  · rw [hdot]
    exact ⟨by decide, by decide⟩
  · obtain ⟨w, hw, hcw⟩ := exists_mem_splitAtEvery hc hdot
    exact visible_of_wordPattern (h.2 w hw) c hcw

/-- INTERNAL: a key of the right form is its own normal form. -/
theorem normalizePolicyKey_of_pattern {key : String} (h : policyKeyPattern key = true) :
    normalizePolicyKey key = .ok key := by
  unfold normalizePolicyKey
  simp only [Text.strip_of_forall_visible (visible_of_policyKeyPattern h), if_pos h]

theorem normalizePolicyKey_idem {key normalized : String}
    (h : normalizePolicyKey key = .ok normalized) :
    normalizePolicyKey normalized = .ok normalized :=
  normalizePolicyKey_of_pattern (policyKeyPattern_of_normalizePolicyKey h)

theorem defaultPolicyValues_valid : ∀ e ∈ defaultPolicyValues,
    hasLength 1 128 e.1 = true ∧ policyKeyPattern e.1 = true := by
  decide

theorem nodup_defaultPolicyValues : (defaultPolicyValues.map Prod.fst).Nodup := by decide

theorem auditHashPattern_defaultPolicyAuditHash :
    auditHashPattern defaultPolicyAuditHash = true := by decide

theorem defaultPolicyValue?_eq_some_iff {key : String} {value : JSONObject} :
    defaultPolicyValue? key = some value ↔ (key, value) ∈ defaultPolicyValues := by
  unfold defaultPolicyValue?
  constructor
  · intro h
    rw [Option.map_eq_some_iff] at h
    obtain ⟨e, he, rfl⟩ := h
    have hk : e.1 = key := by simpa using List.find?_some he
    rw [← hk]
    exact List.mem_of_find?_eq_some he
  · intro h
    rw [Dict.find?_eq_some_of_mem nodup_defaultPolicyValues h]
    rfl

/-- What `_default_policy_record` returns. -/
structure IsDefault (tenantId key : String) (value : JSONObject) (record : PolicyRecord) :
    Prop where
  tenantId : record.fields.tenantId = tenantId
  key : record.fields.key = key
  version : record.fields.version = 1
  value : record.fields.value = value

/-- INTERNAL: a valid tenant has every default policy. -/
theorem exists_defaultPolicyRecord {tenantId key : String} {value : JSONObject}
    (htenant : tenantIdPattern tenantId = true) (hkey : (key, value) ∈ defaultPolicyValues) :
    ∃ record, defaultPolicyRecord tenantId key value = .ok record ∧
      IsDefault tenantId key value record := by
  obtain ⟨hlength, hpattern⟩ := defaultPolicyValues_valid _ hkey
  have htrimTenant : Text.trim tenantId = tenantId :=
    trim_of_tokenPattern (tokenPattern_of_tenantIdPattern htenant)
  have htrimKey : Text.trim key = key :=
    Text.trim_of_forall_visible (visible_of_policyKeyPattern hpattern)
  have htrimHash : Text.trim defaultPolicyAuditHash = defaultPolicyAuditHash := by
    have hhash := auditHashPattern_defaultPolicyAuditHash
    unfold auditHashPattern at hhash
    rw [Bool.and_eq_true, List.all_eq_true] at hhash
    exact Text.trim_of_forall_visible fun c hc => visible_of_isHexChar (hhash.2 c hc)
  obtain ⟨record, hrecord⟩ : ∃ record, defaultPolicyRecord tenantId key value = .ok record := by
    unfold defaultPolicyRecord policyRecord
    rw [Validated.exists_make_eq_ok_iff]
    simp only [PolicyFields.checks, htrimTenant, htrimKey, htrimHash, htenant, hlength, hpattern,
      auditHashPattern_defaultPolicyAuditHash, Option.map_none, optionalField]
    simp
  have hfields := hrecord
  unfold defaultPolicyRecord policyRecord at hfields
  rw [Validated.make_eq_ok_iff] at hfields
  refine ⟨record, hrecord, ?_⟩
  constructor
  all_goals rw [hfields]
  · exact htrimTenant
  · exact htrimKey

/-! ## What the repository returns -/

section Reads

variable {repository : InMemoryPolicyRepository} {tenantId key normalized : String}

/-- The stored versions of a policy. -/
def InMemoryPolicyRepository.stored (repository : InMemoryPolicyRepository)
    (tenantId key : String) : List PolicyRecord :=
  (repository.history.get? (policyKey tenantId key)).getD []

/-- The version of the first stored record: a default policy has one before it. -/
def firstStoredVersion (key : String) : ℕ :=
  if (defaultPolicyValue? key).isSome then 2 else 1

/-- A key the tenant knows: a default one, or one it has updated. -/
def Known (repository : InMemoryPolicyRepository) (tenantId key : String) : Prop :=
  (defaultPolicyValue? key).isSome = true ∨ repository.stored tenantId key ≠ []

/-- The stored versions are in order and without a gap, each under its own key. -/
structure Gapless (repository : InMemoryPolicyRepository) : Prop where
  nonempty : ∀ k l, repository.history.get? k = some l → l ≠ []
  pattern : ∀ k l, repository.history.get? k = some l → policyKeyPattern k.2 = true
  keyed : ∀ tenantId key, ∀ policy ∈ repository.stored tenantId key,
    policy.fields.tenantId = tenantId ∧ policy.fields.key = key
  versions : ∀ tenantId key, (repository.stored tenantId key).map (fun p => p.fields.version) =
    List.range' (firstStoredVersion key) (repository.stored tenantId key).length

theorem gapless_empty : Gapless .empty := by
  constructor
  · intro k l h
    cases h
  · intro k l h
    cases h
  · intro tenantId key policy h
    cases h
  · intro tenantId key
    rfl

theorem bind_getLast?_get? (repository : InMemoryPolicyRepository) (tenantId key : String) :
    (repository.history.get? (policyKey tenantId key)).bind List.getLast? =
      (repository.stored tenantId key).getLast? := by
  unfold InMemoryPolicyRepository.stored
  cases repository.history.get? (policyKey tenantId key) with
  | none => rfl
  | some l => rfl

/-- INTERNAL: an updated key has its last stored version. -/
theorem getPolicy_of_getLast? {policy : PolicyRecord}
    (hkey : normalizePolicyKey key = .ok normalized)
    (hlast : (repository.stored tenantId normalized).getLast? = some policy) :
    repository.getPolicy tenantId key = .ok policy := by
  unfold InMemoryPolicyRepository.getPolicy
  rw [hkey]
  simp only [Except.mapError, bind, Except.bind, bind_getLast?_get?, hlast]
  rfl

/-- INTERNAL: a key without stored versions has its default, if there is one. -/
theorem getPolicy_of_stored_eq_nil (hkey : normalizePolicyKey key = .ok normalized)
    (hstored : repository.stored tenantId normalized = []) :
    repository.getPolicy tenantId key = match defaultPolicyValue? normalized with
      | some value => (defaultPolicyRecord tenantId normalized value).mapError .shared
      | none => .error (.policyNotFound ("Политика " ++ normalized ++ " не найдена")) := by
  unfold InMemoryPolicyRepository.getPolicy
  rw [hkey]
  have hlast : (repository.stored tenantId normalized).getLast? = none := by
    rw [hstored]
    rfl
  simp only [Except.mapError, bind, Except.bind, bind_getLast?_get?, hlast]
  rfl

theorem getHistory_eq (hkey : normalizePolicyKey key = .ok normalized) :
    repository.getHistory tenantId key = match defaultPolicyValue? normalized with
      | some value => ((defaultPolicyRecord tenantId normalized value).mapError .shared).map
          fun first => first :: repository.stored tenantId normalized
      | none =>
          if repository.stored tenantId normalized = [] then
            .error (.policyNotFound ("История политики " ++ normalized ++ " не найдена"))
          else .ok (repository.stored tenantId normalized) := by
  unfold InMemoryPolicyRepository.getHistory
  rw [hkey]
  simp only [Except.mapError, bind, Except.bind]
  cases defaultPolicyValue? normalized with
  | some value =>
      cases defaultPolicyRecord tenantId normalized value with
      | ok record => rfl
      | error e => rfl
  | none => rfl

/-- INTERNAL: the two readings of one policy agree: a history that ends in the policy. -/
theorem exists_getHistory (hgapless : Gapless repository)
    (htenant : tenantIdPattern tenantId = true) (hkey : normalizePolicyKey key = .ok normalized)
    (hknown : Known repository tenantId normalized) :
    ∃ records latest, repository.getHistory tenantId key = .ok (records ++ [latest]) ∧
      repository.getPolicy tenantId key = .ok latest ∧
      (records ++ [latest]).map (fun p => p.fields.version) =
        List.range' 1 (records.length + 1) ∧
      ∀ policy ∈ records ++ [latest], policy.fields.tenantId = tenantId ∧
        policy.fields.key = normalized := by
  have hversions := hgapless.versions tenantId normalized
  have hkeyed := hgapless.keyed tenantId normalized
  rw [getHistory_eq hkey]
  rcases List.eq_nil_or_concat (repository.stored tenantId normalized) with hnil | ⟨front, latest, hconcat⟩
  · have hget : repository.getPolicy tenantId key = _ := getPolicy_of_stored_eq_nil hkey hnil
    rcases hknown with hdefault | hstored
    · obtain ⟨value, hvalue⟩ := Option.isSome_iff_exists.mp hdefault
      obtain ⟨record, hrecord, hfields⟩ := exists_defaultPolicyRecord htenant
        (defaultPolicyValue?_eq_some_iff.mp hvalue)
      rw [hget]
      simp only [hvalue, hrecord, hnil]
      refine ⟨[], record, rfl, rfl, ?_, ?_⟩
      · rw [List.nil_append, List.map_singleton, hfields.version]
        rfl
      · intro policy hpolicy
        rw [List.nil_append, List.mem_singleton] at hpolicy
        rw [hpolicy]
        exact ⟨hfields.tenantId, hfields.key⟩
    · exact absurd hnil hstored
  · rw [List.concat_eq_append] at hconcat
    have hlast : (repository.stored tenantId normalized).getLast? = some latest := by
      rw [hconcat, List.getLast?_concat]
    have hlength : (repository.stored tenantId normalized).length = front.length + 1 := by
      rw [hconcat, List.length_append, List.length_singleton]
    rw [getPolicy_of_getLast? hkey hlast]
    cases hvalue : defaultPolicyValue? normalized with
    | some value =>
        obtain ⟨record, hrecord, hfields⟩ := exists_defaultPolicyRecord htenant
          (defaultPolicyValue?_eq_some_iff.mp hvalue)
        have hfirst : firstStoredVersion normalized = 2 := by
          unfold firstStoredVersion
          rw [hvalue]
          rfl
        simp only [hrecord]
        refine ⟨record :: front, latest, ?_, rfl, ?_, ?_⟩
        · rw [hconcat]
          rfl
        · rw [List.cons_append, List.map_cons, hfields.version, ← hconcat, hversions, hfirst,
            hlength, List.length_cons]
          rfl
        · rw [List.cons_append, ← hconcat]
          intro policy hpolicy
          rcases List.mem_cons.mp hpolicy with rfl | hpolicy
          · exact ⟨hfields.tenantId, hfields.key⟩
          · exact hkeyed policy hpolicy
    | none =>
        have hne : repository.stored tenantId normalized ≠ [] := by
          rw [hconcat]
          simp
        have hfirst : firstStoredVersion normalized = 1 := by
          unfold firstStoredVersion
          rw [hvalue]
          rfl
        simp only [if_neg hne]
        refine ⟨front, latest, by rw [hconcat], rfl, ?_, ?_⟩
        · rw [← hconcat, hversions, hfirst, hlength]
        · rw [← hconcat]
          exact hkeyed

/-! ### The list of policies -/

/-- The default policies of a tenant, as `list_policies` starts. -/
def IsDefaults (tenantId : String) (defaults : List (String × PolicyRecord)) : Prop :=
  List.Forall₂ (fun e d => d.1 = e.1 ∧ defaultPolicyRecord tenantId e.1 e.2 = .ok d.2)
    defaultPolicyValues defaults

theorem exists_defaults (htenant : tenantIdPattern tenantId = true) :
    ∃ defaults : List (String × PolicyRecord), (defaultPolicyValues.mapM fun e => do
        let record ← defaultPolicyRecord tenantId e.1 e.2
        return (e.1, record)) = .ok defaults ∧ IsDefaults tenantId defaults := by
  obtain ⟨defaults, hdefaults⟩ : ∃ defaults : List (String × PolicyRecord),
      (defaultPolicyValues.mapM fun e => do
        let record ← defaultPolicyRecord tenantId e.1 e.2
        return (e.1, record)) = .ok defaults := by
    rw [exists_mapM_eq_ok_iff]
    intro e he
    obtain ⟨record, hrecord, _⟩ := exists_defaultPolicyRecord htenant he
    refine ⟨(e.1, record), ?_⟩
    rw [hrecord]
    rfl
  refine ⟨defaults, hdefaults, ?_⟩
  rw [mapM_eq_ok_iff] at hdefaults
  refine hdefaults.imp ?_
  intro e d h
  rw [bind_eq_ok_iff] at h
  obtain ⟨record, hrecord, h⟩ := h
  cases h
  exact ⟨rfl, hrecord⟩

end Reads

/-! ## What an update does -/

section Updates

variable {py : Stdlib} {repository repository' : InMemoryPolicyRepository}
  {tenantId key : String} {policy : PolicyRecord}

theorem stored_savePolicy (repository : InMemoryPolicyRepository) (policy : PolicyRecord)
    (tenantId key : String) : (repository.savePolicy policy).stored tenantId key =
      if policyKey tenantId key = policy.storeKey then repository.stored tenantId key ++ [policy]
      else repository.stored tenantId key := by
  unfold InMemoryPolicyRepository.savePolicy InMemoryPolicyRepository.stored
  simp only [Dict.get?_set]
  by_cases h : policyKey tenantId key = policy.storeKey
  · rw [if_pos h, if_pos h, Option.getD_some, h]
  · rw [if_neg h, if_neg h]

/-- The version after the stored ones. -/
def nextVersion (repository : InMemoryPolicyRepository) (tenantId key : String) : ℕ :=
  firstStoredVersion key + (repository.stored tenantId key).length

/-- `policy` is the next version of a policy, and is stored. -/
structure Saves (args : UpdateArgs) (policy : PolicyRecord)
    (repository repository' : InMemoryPolicyRepository) : Prop where
  result : repository' = repository.savePolicy policy
  key : normalizePolicyKey args.key = .ok policy.fields.key
  tenantId : policy.fields.tenantId = args.tenantId
  pattern : tenantIdPattern args.tenantId = true
  value : policy.fields.value = args.update.value
  version : Gapless repository →
    policy.fields.version = nextVersion repository args.tenantId policy.fields.key

/-- What the first segment of an update does to the repository: nothing, or one more
version. -/
def Updates (args : UpdateArgs) (repository repository' : InMemoryPolicyRepository) : Prop :=
  repository' = repository ∨ ∃ policy, Saves args policy repository repository'

theorem Saves.gapless {args : UpdateArgs} (h : Saves args policy repository repository')
    (hgapless : Gapless repository) : Gapless repository' := by
  have hkey : policy.storeKey = policyKey args.tenantId policy.fields.key := by
    unfold PolicyRecord.storeKey
    rw [h.tenantId]
  have hversion := h.version hgapless
  rw [h.result]
  constructor
  · intro k l hl
    unfold InMemoryPolicyRepository.savePolicy at hl
    rw [Dict.get?_set] at hl
    split at hl
    · cases hl
      simp
    · exact hgapless.nonempty k l hl
  · intro k l hl
    unfold InMemoryPolicyRepository.savePolicy at hl
    rw [Dict.get?_set] at hl
    split at hl
    · rename_i hk
      rw [hk]
      exact policyKeyPattern_of_normalizePolicyKey h.key
    · exact hgapless.pattern k l hl
  · intro tenantId key policy' hpolicy'
    rw [stored_savePolicy] at hpolicy'
    split at hpolicy'
    · rename_i hk
      rcases List.mem_append.mp hpolicy' with hold | hnew
      · exact hgapless.keyed tenantId key policy' hold
      · rw [List.mem_singleton] at hnew
        rw [hnew]
        unfold PolicyRecord.storeKey policyKey at hk
        rw [Prod.mk.injEq] at hk
        exact ⟨hk.1.symm, hk.2.symm⟩
    · exact hgapless.keyed tenantId key policy' hpolicy'
  · intro tenantId key
    rw [stored_savePolicy]
    split
    · rename_i hk
      rw [hkey] at hk
      unfold policyKey at hk
      rw [Prod.mk.injEq] at hk
      rw [List.map_append, hgapless.versions, List.map_singleton, hversion, ← hk.1, ← hk.2,
        List.length_append, List.length_singleton, nextVersion]
      rw [List.range'_concat, one_mul]
    · exact hgapless.versions tenantId key

theorem Updates.gapless {args : UpdateArgs} (h : Updates args repository repository')
    (hgapless : Gapless repository) : Gapless repository' := by
  rcases h with hsame | ⟨policy, hsaves⟩
  · rw [hsame]
    exact hgapless
  · exact hsaves.gapless hgapless

/-- INTERNAL: one history is as long as the next version says. -/
theorem length_getHistory {records : List PolicyRecord}
    (hkey : normalizePolicyKey key = .ok key)
    (h : repository.getHistory tenantId key = .ok records) :
    records.length + 1 = nextVersion repository tenantId key := by
  rw [getHistory_eq hkey] at h
  unfold nextVersion firstStoredVersion
  cases hvalue : defaultPolicyValue? key with
  | some value =>
      simp only [hvalue] at h
      cases hfirst : defaultPolicyRecord tenantId key value with
      | error e =>
          rw [hfirst] at h
          cases h
      | ok first =>
          rw [hfirst] at h
          simp only [Except.mapError, Except.map, Except.ok.injEq] at h
          rw [← h, List.length_cons, Option.isSome_some, if_pos rfl]
          omega
  | none =>
      simp only [hvalue] at h
      split at h
      · cases h
      · rw [Except.ok.injEq] at h
        rw [← h, Option.isSome_none, if_neg Bool.false_ne_true]
        omega

/-- The version that `update_policy` computes. -/
def versionAfter (existing : Option PolicyRecord) : ℕ :=
  match existing with
  | none => 1
  | some policy => policy.fields.version + 1

/-- INTERNAL: the version an update computes is the next one. -/
theorem versionAfter_existingOrNone {existing : Option PolicyRecord}
    (hgapless : Gapless repository) (htenant : tenantIdPattern tenantId = true)
    (hkey : normalizePolicyKey key = .ok key)
    (h : existingOrNone repository tenantId key = .ok existing) :
    versionAfter existing = nextVersion repository tenantId key := by
  unfold existingOrNone at h
  by_cases hknown : Known repository tenantId key
  · obtain ⟨records, latest, hhistory, hlatest, hversions, _⟩ :=
      exists_getHistory hgapless htenant hkey hknown
    simp only [hlatest, Except.ok.injEq] at h
    have hlast : latest.fields.version = 1 + records.length := by
      have hmap := congrArg List.getLast? hversions
      rw [List.map_append, List.map_singleton, List.getLast?_concat, List.range'_concat,
        List.getLast?_concat, Option.some.injEq, one_mul] at hmap
      exact hmap
    have hlength := length_getHistory hkey hhistory
    rw [List.length_append, List.length_singleton] at hlength
    rw [← h, ← hlength]
    unfold versionAfter
    simp only [hlast]
    omega
  · unfold Known at hknown
    rw [not_or, not_not] at hknown
    have hnone : defaultPolicyValue? key = none := by
      rw [Bool.not_eq_true, Option.isSome_eq_false_iff, Option.isNone_iff_eq_none] at hknown
      exact hknown.1
    rw [getPolicy_of_stored_eq_nil hkey hknown.2] at h
    simp only [hnone, Except.ok.injEq] at h
    rw [← h]
    unfold versionAfter nextVersion firstStoredVersion
    rw [hnone, hknown.2]
    rfl

/-! ### The first segment -/

/-- What is checked behind the audit record. -/
structure UpdateFits (args : UpdateArgs) (key : String) : Prop where
  key : hasLength 1 128 key = true
  updatedBy : tokenPattern (Text.trim args.updatedBy) = true
  tenantId : args.tenantId.toList.contains '.' = false
  eventId : ∀ id, args.eventId = some id → id ≠ "" →
    Text.strip id ≠ "" ∧ ¬ (Text.strip id).toList.any Text.isSpace = true

/-- The audit record of the update is written. -/
def Audited (py : Stdlib) (call : UpdateCall) (key : String) : Prop :=
  normalizePolicyKey call.args.key = .ok key ∧
    (∃ t, resolveTime py call.env.now call.args.updatedAt = .ok t) ∧
    tenantIdPattern call.args.tenantId = true ∧
    tokenPattern (Text.trim call.args.correlationId) = true

section Segment

variable {py : Stdlib} {args : UpdateArgs} {version : ℕ} {changedAt : Instant}
  {record : AuditLogRecord}

theorem exists_policyRecord_iff (htenant : tenantIdPattern args.tenantId = true)
    (hkey : policyKeyPattern key = true) (hversion : 1 ≤ version) :
    (∃ policy, policyRecord (args.policyFields key version changedAt record.fields.auditHash) =
      .ok policy) ↔
      hasLength 1 128 key = true ∧ tokenPattern (Text.trim args.updatedBy) = true := by
  unfold policyRecord
  rw [Validated.exists_make_eq_ok_iff]
  simp [PolicyFields.checks, UpdateArgs.policyFields, optionalField, hkey, hversion, htenant,
    trim_of_tokenPattern (tokenPattern_of_tenantIdPattern htenant),
    Text.trim_of_forall_visible (visible_of_policyKeyPattern hkey),
    trim_of_auditHashPattern (auditHashPattern_auditHash record), auditHashPattern_auditHash]

theorem exists_auditRecord_iff :
    (∃ record, auditRecord py (args.auditArgs py key version changedAt) = .ok record) ↔
      tenantIdPattern args.tenantId = true ∧
        tokenPattern (Text.trim args.correlationId) = true := by
  have htype : isEventType (Text.trim policyUpdatedEvent) = true := by decide
  rw [exists_auditRecord_eq_ok_iff]
  simp only [UpdateArgs.auditArgs, htype, true_and, Option.map_some, optionalField]

theorem exists_event_iff {env : Ambient} (htenant : tenantIdPattern args.tenantId = true)
    (hcorrelation : tokenPattern (Text.trim args.correlationId) = true) :
    (∃ event, eventEnvelope (args.event env changedAt policy) = .ok event) ↔
      args.tenantId.toList.contains '.' = false ∧ ∀ id, args.eventId = some id → id ≠ "" →
        Text.strip id ≠ "" ∧ ¬ (Text.strip id).toList.any Text.isSpace = true := by
  have htype : normalizeEventType policyUpdatedEvent = .ok policyUpdatedEvent := by decide
  have hversion : normalizeSchemaVersion policyManagerSchemaVersion =
      .ok policyManagerSchemaVersion := by decide
  have hsource : normalizeToken policyManagerSource "source" = .ok policyManagerSource := by
    decide
  have hstem : tokenPattern "evt-policy-updated" = true := by decide
  have hid : (∃ id, normalizeToken (orDefault args.eventId
      (newId "evt-policy-updated" (env.uuid 0))) "event_id" = .ok id) ↔ _ :=
    exists_normalizeToken_orDefault_iff hstem (by decide)
  have hevent : (∃ event, eventEnvelope (args.event env changedAt policy) = .ok event) ↔ _ :=
    exists_eventEnvelope_iff_normalizeToken htype hversion htenant hsource hcorrelation rfl
  rw [hevent]
  exact and_congr_right fun _ => hid

/-- INTERNAL: the current version of a policy can always be looked up. -/
theorem exists_existingOrNone (repository : InMemoryPolicyRepository) {tenantId : String}
    (htenant : tenantIdPattern tenantId = true) (hkey : normalizePolicyKey key = .ok key) :
    ∃ existing, existingOrNone repository tenantId key = .ok existing := by
  unfold existingOrNone
  cases hlast : (repository.stored tenantId key).getLast? with
  | some latest =>
      rw [getPolicy_of_getLast? hkey hlast]
      exact ⟨_, rfl⟩
  | none =>
      rw [getPolicy_of_stored_eq_nil hkey (List.getLast?_eq_none_iff.mp hlast)]
      cases hvalue : defaultPolicyValue? key with
      | none => exact ⟨_, rfl⟩
      | some value =>
          obtain ⟨first, hfirst, _⟩ :=
            exists_defaultPolicyRecord htenant (defaultPolicyValue?_eq_some_iff.mp hvalue)
          simp only [hfirst]
          exact ⟨_, rfl⟩

theorem one_le_versionAfter (existing : Option PolicyRecord) : 1 ≤ versionAfter existing := by
  cases existing with
  | none => exact le_refl 1
  | some policy => exact Nat.le_add_left 1 _

/-- What the first segment of an update does, and that an answer of the publisher ends it. -/
inductive UpdateOutcome (py : Stdlib) (call : UpdateCall) (s : PolicyState) :
    Coroutine.Pause policyInterface PolicyState PolicyManagerError PolicyRecord × PolicyState → Prop
  | refused (e : PolicyManagerError) (h : ∀ key, ¬ Audited py call key) :
      UpdateOutcome py call s (.finished (.error e), s)
  | recorded (e : PolicyManagerError) (key : String) (record : AuditLogRecord)
      (repository : InMemoryPolicyRepository) (haudited : Audited py call key)
      (h : ¬ UpdateFits call.args key) (hupdates : Updates call.args s.repository repository) :
      UpdateOutcome py call s (.finished (.error e), ⟨repository, s.auditLog ++ [record]⟩)
  | stored (event : EventEnvelope)
      (rest : policyInterface.Answer event → PolicyProgram PolicyRecord) (key : String)
      (version : ℕ) (changedAt : Instant) (record : AuditLogRecord) (policy : PolicyRecord)
      (haudited : Audited py call key) (h : UpdateFits call.args key)
      (hsaves : Saves call.args policy s.repository (s.repository.savePolicy policy))
      (hrecord : auditRecord py (call.args.auditArgs py key version changedAt) = .ok record)
      (hpolicy : policyRecord (call.args.policyFields key version changedAt
        record.fields.auditHash) = .ok policy)
      (hevent : eventEnvelope (call.args.event call.env changedAt policy) = .ok event)
      (hrest : ∀ answer t, (rest answer).advance t =
        (.finished (answer.map fun _ => policy), t)) :
      UpdateOutcome py call s
        (.suspended event rest, ⟨s.repository.savePolicy policy, s.auditLog ++ [record]⟩)

/-- INTERNAL: the record made of an update is its next version. -/
theorem saves_of_policyRecord {call : UpdateCall} {s : PolicyState} {existing : Option PolicyRecord}
    (htenant : tenantIdPattern call.args.tenantId = true)
    (hkey : normalizePolicyKey call.args.key = .ok key)
    (hexisting : existingOrNone s.repository call.args.tenantId key = .ok existing)
    (hpolicy : policyRecord (call.args.policyFields key (versionAfter existing) changedAt
      record.fields.auditHash) = .ok policy) :
    Saves call.args policy s.repository (s.repository.savePolicy policy) := by
  unfold policyRecord at hpolicy
  rw [Validated.make_eq_ok_iff] at hpolicy
  have hfieldKey : policy.fields.key = key := by
    rw [hpolicy]
    exact Text.trim_of_forall_visible
      (visible_of_policyKeyPattern (policyKeyPattern_of_normalizePolicyKey hkey))
  constructor
  · rfl
  · rw [hfieldKey]
    exact hkey
  · rw [hpolicy]
    exact trim_of_tokenPattern (tokenPattern_of_tenantIdPattern htenant)
  · exact htenant
  · rw [hpolicy]
    rfl
  · intro hgapless
    rw [hfieldKey, ← versionAfter_existingOrNone hgapless htenant (normalizePolicyKey_idem hkey)
      hexisting, hpolicy]
    rfl

theorem updateOutcome (py : Stdlib) (call : UpdateCall) (s : PolicyState) :
    UpdateOutcome py call s ((call.program py).advance s) := by
  unfold UpdateCall.program updatePolicy PolicyProgram.shared
  rw [Coroutine.advance_ofExcept_bind]
  cases hkey : normalizePolicyKey call.args.key with
  | error e =>
      refine .refused _ fun key haudited => ?_
      rw [haudited.1] at hkey
      cases hkey
  | ok normalizedKey =>
  have hpattern := policyKeyPattern_of_normalizePolicyKey hkey
  simp only [Except.mapError, Coroutine.advance_ofExcept_bind]
  cases htime : resolveTime py call.env.now call.args.updatedAt with
  | error e =>
      refine .refused _ fun key haudited => ?_
      obtain ⟨t, ht⟩ := haudited.2.1
      rw [ht] at htime
      cases htime
  | ok changedAt =>
  simp only [Coroutine.advance_inspect_bind]
  cases hexisting : existingOrNone s.repository call.args.tenantId normalizedKey with
  | error e =>
      refine .refused _ fun key haudited => ?_
      obtain ⟨existing, hok⟩ := exists_existingOrNone s.repository haudited.2.2.1
        (normalizePolicyKey_idem hkey)
      rw [hok] at hexisting
      cases hexisting
  | ok existing =>
  show UpdateOutcome py call s (Coroutine.advance (PolicyProgram.recordAudit py
    (call.args.auditArgs py normalizedKey (versionAfter existing) changedAt) >>= _) s)
  rw [PolicyProgram.recordAudit, Coroutine.advance_update_bind]
  have haudit : (∃ record, auditRecord py (call.args.auditArgs py normalizedKey
      (versionAfter existing) changedAt) = .ok record) ↔ _ := exists_auditRecord_iff
  cases hrecord : auditRecord py
      (call.args.auditArgs py normalizedKey (versionAfter existing) changedAt) with
  | error e =>
      refine .refused _ fun key haudited => ?_
      obtain ⟨record, hok⟩ := haudit.mpr haudited.2.2
      rw [hok] at hrecord
      cases hrecord
  | ok record =>
  obtain ⟨htenant, hcorrelation⟩ := haudit.mp ⟨record, hrecord⟩
  have haudited : Audited py call normalizedKey :=
    ⟨hkey, ⟨changedAt, htime⟩, htenant, hcorrelation⟩
  have hpolicyIff : (∃ policy, policyRecord (call.args.policyFields normalizedKey
      (versionAfter existing) changedAt record.fields.auditHash) = .ok policy) ↔ _ :=
    exists_policyRecord_iff htenant hpattern (one_le_versionAfter existing)
  show UpdateOutcome py call s (Coroutine.advance (Coroutine.ofExcept ((policyRecord
    (call.args.policyFields normalizedKey (versionAfter existing) changedAt
      record.fields.auditHash)).mapError PolicyManagerError.shared) >>= _) _)
  rw [Coroutine.advance_ofExcept_bind]
  cases hpolicy : policyRecord (call.args.policyFields normalizedKey (versionAfter existing)
      changedAt record.fields.auditHash) with
  | error e =>
      refine .recorded _ normalizedKey record s.repository haudited (fun hfits => ?_) (.inl rfl)
      obtain ⟨policy, hok⟩ := hpolicyIff.mpr ⟨hfits.key, hfits.updatedBy⟩
      rw [hok] at hpolicy
      cases hpolicy
  | ok policy =>
  obtain ⟨hlength, hupdatedBy⟩ := hpolicyIff.mp ⟨policy, hpolicy⟩
  have hsaves := saves_of_policyRecord htenant hkey hexisting hpolicy
  simp only [Except.mapError, PolicyProgram.savePolicy, Coroutine.advance_update_bind,
    Coroutine.advance_ofExcept_bind]
  have heventIff : (∃ event, eventEnvelope (call.args.event call.env changedAt policy) =
      .ok event) ↔ _ := exists_event_iff htenant hcorrelation
  cases hevent : eventEnvelope (call.args.event call.env changedAt policy) with
  | error e =>
      refine .recorded _ normalizedKey record _ haudited (fun hfits => ?_) (.inr ⟨policy, hsaves⟩)
      obtain ⟨event, hok⟩ := heventIff.mpr ⟨hfits.tenantId, hfits.eventId⟩
      rw [hok] at hevent
      cases hevent
  | ok event =>
  obtain ⟨hdot, hid⟩ := heventIff.mp ⟨event, hevent⟩
  refine .stored event _ normalizedKey _ changedAt record policy haudited
    ⟨hlength, hupdatedBy, hdot, hid⟩ hsaves hrecord hpolicy hevent fun answer t => ?_
  cases answer with
  | error e => rfl
  | ok u => rfl

end Segment

end Updates

/-! ## Runs -/

section Runs

variable {py : Stdlib}

/-- The segment of an update that stores the version is its first one. -/
def Guarantees (call : UpdateCall) (r : Resumption policyInterface) (s s' : PolicyState) :
    Prop :=
  match r with
  | none => Updates call.args s.repository s'.repository
  | some _ => s'.repository = s.repository

/-- An update that awaits its publisher has stored its version. -/
def Stores (call : UpdateCall) (r : Resumption policyInterface) (s s' : PolicyState) : Prop :=
  match r with
  | none => ∃ policy, Saves call.args policy s.repository s'.repository
  | some _ => s'.repository = s.repository

/-- What may happen to the policies between two points of a run. -/
structure Grows (s s' : PolicyState) : Prop where
  prefixed : ∀ tenantId key, s.repository.stored tenantId key <+: s'.repository.stored tenantId key
  gapless : Gapless s.repository → Gapless s'.repository

theorem Grows.refl (s : PolicyState) : Grows s s :=
  ⟨fun _ _ => List.prefix_rfl, id⟩

theorem Grows.trans (s s' s'' : PolicyState) (h : Grows s s') (h' : Grows s' s'') :
    Grows s s'' :=
  ⟨fun tenantId key => (h.prefixed tenantId key).trans (h'.prefixed tenantId key),
    fun hgapless => h'.gapless (h.gapless hgapless)⟩

theorem Updates.grows {args : UpdateArgs} {s s' : PolicyState}
    (h : Updates args s.repository s'.repository) : Grows s s' := by
  refine ⟨?_, fun hgapless => h.gapless hgapless⟩
  intro tenantId key
  rcases h with hsame | ⟨policy, hsaves⟩
  · exact hsame ▸ List.prefix_rfl
  · rw [hsaves.result, stored_savePolicy]
    split
    · exact List.prefix_append _ _
    · exact List.prefix_rfl

theorem Guarantees.grows {call : UpdateCall} {r : Resumption policyInterface}
    {s s' : PolicyState} (h : Guarantees call r s s') : Grows s s' := by
  cases r with
  | none => exact Updates.grows h
  | some answer =>
      have hsame : s'.repository = s.repository := h
      exact (show Updates call.args _ _ from .inl hsame).grows

def policyStep (py : Stdlib) (c : PolicyRun) (a : Action UpdateCall policyInterface) :
    PolicyRun :=
  Config.step (UpdateCall.program py) c a

section Readers

variable {repository repository' : InMemoryPolicyRepository} {tenantId key normalized : String}

end Readers

def xaiUpdate : UpdateCall where
  env := ⟨0, Reference.epoch_nonneg, Reference.epoch_le_datetimeMax, fun _ => Reference.uuid⟩
  args :=
    { tenantId := "media-center"
      key := " ethics.require_xai "
      updatedBy := "council-1"
      correlationId := "corr-1"
      update := ⟨[("kind", .str "flag"), ("target", .str "has_xai")], none⟩ }

namespace Sample

/-- The publisher accepts every event. -/
def published (q : policyInterface.Request) : policyInterface.Answer q := .ok ()

end Sample

end Runs

end MediaCenter.PolicyManager
