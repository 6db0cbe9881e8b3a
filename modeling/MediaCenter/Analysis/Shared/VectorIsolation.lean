import Mathlib.Order.CompleteBooleanAlgebra
import Mathlib.Order.CompletePartialOrder
import MediaCenter.Analysis.Shared.VectorCollections
import MediaCenter.Library.Unwinding
import MediaCenter.Model.Shared.Reference

/-!
# Isolation of vector collections

A call works on one collection, and sees nothing else.  Calls under different pairs of a tenant
and a domain do not influence each other as long as no two pairs in use share a collection; any
two that do are seen to.
-/

set_option autoImplicit false

namespace MediaCenter.Shared.InMemoryTenantVectorStore

open MediaCenter.Library

variable {py : Stdlib}

def collectionAt (collections : VectorCollections) (name : String) : VectorCollection :=
  (collections.get? name).getD Dict.empty

/-- A call of a tenant in a domain. -/
def under (options : VectorStoreOptions py) (p : TenantDomain py) (c : VectorInput) : Bool :=
  match upsertScope options c.caller with
  | .error _ => false
  | .ok scope => scope.context.tenantId = p.tenantId && scope.domain = p.domain

/-- A call that works on a collection. -/
def uses (options : VectorStoreOptions py) (name : String) (c : VectorInput) : Bool :=
  match upsertScope options c.caller with
  | .error _ => false
  | .ok scope => scope.collectionName = name

/-- Every call that is not refused for its context or its domain is made under one of the
pairs. -/
def Within (options : VectorStoreOptions py) (pairs : Set (TenantDomain py))
    (calls : List VectorInput) : Prop :=
  ∀ c ∈ calls, ∀ scope, upsertScope options c.caller = .ok scope →
    ∃ p ∈ pairs, scope.context.tenantId = p.tenantId ∧ scope.domain = p.domain

structure Isolated (options : VectorStoreOptions py) (pairs : Set (TenantDomain py)) : Prop where
  /-- The answers of a pair are those it gets when no other pair makes a call. -/
  answers_alone : ∀ calls, Within options pairs calls → ∀ p ∈ pairs,
    (answers (step options) Dict.empty calls).filter (fun a => under options p a.1) =
      answers (step options) Dict.empty (calls.filter (under options p))
  /-- A call of another pair leaves the records of a pair as they are. -/
  records_kept : ∀ collections, ∀ p ∈ pairs, ∀ q ∈ pairs, p ≠ q → ∀ c,
    under options q c = true →
    collectionAt (step options collections c).2 (p.name options) =
      collectionAt collections (p.name options)
  names_differ : ∀ p ∈ pairs, ∀ q ∈ pairs, p ≠ q → p.name options ≠ q.name options

/-! ## What a call sees and changes -/

section Calls

variable {options : VectorStoreOptions py} {c : VectorInput} {s t : VectorCollections}
  {name : String}

theorem queryScope_eq_ok {caller : VectorCaller} {queryEmbedding embedding : List ℚ} {limit : ℤ}
    {metadataFilter : Option VectorMetadata} {scope : VectorScope}
    {metadataWhere : VectorMetadata}
    (h : queryScope options caller queryEmbedding limit metadataFilter =
      .ok (scope, embedding, metadataWhere)) : upsertScope options caller = .ok scope := by
  unfold queryScope at h
  unfold upsertScope
  simp only [bind_eq_ok_iff] at h ⊢
  obtain ⟨_, _, context, hcontext, domain, hdomain, _, _, name, hname, _, _, hreturn⟩ := h
  cases hreturn
  exact ⟨context, hcontext, domain, hdomain, name, hname, rfl⟩

theorem query_congr {caller : VectorCaller} {queryEmbedding : List ℚ} {limit : ℤ}
    {metadataFilter : Option VectorMetadata}
    (hsame : ∀ scope, upsertScope options caller = .ok scope →
      collectionAt s scope.collectionName = collectionAt t scope.collectionName) :
    query options caller queryEmbedding limit metadataFilter s =
      query options caller queryEmbedding limit metadataFilter t := by
  unfold query
  cases hscope : queryScope options caller queryEmbedding limit metadataFilter with
  | error e => rfl
  | ok found =>
      obtain ⟨scope, embedding, metadataWhere⟩ := found
      have hcollection := hsame scope (queryScope_eq_ok hscope)
      unfold collectionAt at hcollection
      show (searchRecords embedding metadataWhere _ >>= _) = (searchRecords _ _ _ >>= _)
      rw [hcollection]

theorem upsert_of_error {caller : VectorCaller} {e : SharedException}
    (h : upsertScope options caller = .error e) (records : List VectorRecord) :
    (upsert options caller records s).2 = s ∧
      (upsert options caller records s).1 = (upsert options caller records t).1 := by
  unfold upsert
  by_cases hnil : records = []
  · rw [if_pos hnil, if_pos hnil]
    exact ⟨rfl, rfl⟩
  · rw [if_neg hnil, if_neg hnil, h]
    exact ⟨rfl, rfl⟩

theorem answer_congr (hsame : ∀ scope, upsertScope options c.caller = .ok scope →
      collectionAt s scope.collectionName = collectionAt t scope.collectionName) :
    (step options s c).1 = (step options t c).1 := by
  obtain ⟨caller, call⟩ := c
  cases call with
  | query queryEmbedding limit metadataFilter => exact query_congr hsame
  | upsert records =>
      unfold step
      simp only
      cases hscope : upsertScope options caller with
      | error e => rw [(upsert_of_error hscope records).2]
      | ok scope =>
          have hcollection := hsame scope hscope
          unfold collectionAt at hcollection
          unfold upsert
          by_cases hnil : records = []
          · rw [if_pos hnil, if_pos hnil]
          · rw [if_neg hnil, if_neg hnil, hscope]
            simp only
            rw [hcollection]

theorem collectionAt_set (s : VectorCollections) (used : String) (collection : VectorCollection) :
    collectionAt (s.set used collection) name =
      if name = used then collection else collectionAt s name := by
  unfold collectionAt
  rw [Dict.get?_set]
  by_cases hname : name = used
  · rw [if_pos hname, if_pos hname]
    rfl
  · rw [if_neg hname, if_neg hname]

/-- INTERNAL: another collection is not changed, and what becomes of the collection that is used
depends on nothing else. -/
theorem collectionAt_step (s t : VectorCollections) (c : VectorInput) (name : String) :
    (uses options name c = false →
      collectionAt (step options s c).2 name = collectionAt s name) ∧
    (collectionAt s name = collectionAt t name →
      collectionAt (step options s c).2 name = collectionAt (step options t c).2 name) := by
  obtain ⟨caller, call⟩ := c
  cases call with
  | query queryEmbedding limit metadataFilter => exact ⟨fun _ => rfl, fun h => h⟩
  | upsert records =>
      unfold step uses
      simp only
      cases hscope : upsertScope options caller with
      | error e =>
          have hs : (upsert options caller records s).2 = s :=
            (upsert_of_error (t := s) hscope records).1
          have ht : (upsert options caller records t).2 = t :=
            (upsert_of_error (t := t) hscope records).1
          rw [hs, ht]
          exact ⟨fun _ => rfl, fun h => h⟩
      | ok scope =>
          unfold upsert
          by_cases hnil : records = []
          · rw [if_pos hnil, if_pos hnil]
            exact ⟨fun _ => rfl, fun h => h⟩
          · rw [if_neg hnil, if_neg hnil, hscope]
            simp only [collectionAt_set]
            by_cases hname : name = scope.collectionName
            · rw [if_pos hname, if_pos hname]
              subst hname
              refine ⟨fun hother => ?_, fun h => ?_⟩
              · simp at hother
              · unfold collectionAt at h
                rw [h]
            · rw [if_neg hname, if_neg hname]
              exact ⟨fun _ => rfl, fun h => h⟩

theorem unwinds (options : VectorStoreOptions py) (name : String) :
    Unwinds (step options) (fun _ => ()) (uses options name) (fun _ _ => True)
      fun _ s t => collectionAt s name = collectionAt t name where
  wait h _ := h
  other hother h := ((collectionAt_step _ Dict.empty _ name).1 hother).trans h
  answer := by
    intro s t c hown _ hsame
    refine answer_congr fun scope hscope => ?_
    unfold uses at hown
    rw [hscope] at hown
    simp only [decide_eq_true_eq] at hown
    rw [hown]
    exact hsame
  next _ _ h := (collectionAt_step _ _ _ name).2 h

end Calls

theorem answers_of_uses (options : VectorStoreOptions py) (name : String)
    (calls : List VectorInput) :
    (answers (step options) Dict.empty calls).filter (fun a => uses options name a.1) =
      answers (step options) Dict.empty (calls.filter (uses options name)) := by
  have hordered : calls.Pairwise fun _ _ => () ≤ () := by
    induction calls with
    | nil => exact List.Pairwise.nil
    | cons c calls ih => exact List.Pairwise.cons (fun _ _ => le_refl ()) ih
  exact (unwinds options name).answers_filter hordered (fun _ _ => le_refl ()) rfl
    (eachMeets_of_forall _ _ (fun _ _ => trivial) _ _)

/-! ## Pairs with different collections -/

section Pairs

variable {options : VectorStoreOptions py} {pairs : Set (TenantDomain py)}
  {p q : TenantDomain py} {c : VectorInput} {scope : VectorScope}

theorem scope_collectionName (hscope : upsertScope options c.caller = .ok scope)
    (htenant : scope.context.tenantId = q.tenantId) (hdomain : scope.domain = q.domain) :
    scope.collectionName = q.name options := by
  have hname : collectionName options scope.domain scope.context = .ok scope.collectionName := by
    unfold upsertScope at hscope
    simp only [bind_eq_ok_iff] at hscope
    obtain ⟨context, _, domain, _, name, hname, hreturn⟩ := hscope
    cases hreturn
    exact hname
  rw [hdomain, TenantDomain.collectionName_eq options htenant] at hname
  exact (Except.ok.inj hname).symm

theorem under_eq_true_iff : under options q c = true ↔ ∃ scope,
    upsertScope options c.caller = .ok scope ∧ scope.context.tenantId = q.tenantId ∧
      scope.domain = q.domain := by
  unfold under
  cases upsertScope options c.caller with
  | error e => simp
  | ok scope => simp

theorem uses_of_under (h : under options q c = true) (name : String) :
    uses options name c = decide (q.name options = name) := by
  obtain ⟨scope, hscope, htenant, hdomain⟩ := under_eq_true_iff.mp h
  unfold uses
  rw [hscope]
  simp only
  rw [scope_collectionName hscope htenant hdomain]

/-- INTERNAL: where no two pairs share a collection, the calls that use the collection of a pair
are its own. -/
theorem uses_eq_under (hapart : ∀ p ∈ pairs, ∀ q ∈ pairs, TenantDomain.Collide p q → p = q)
    (hp : p ∈ pairs) (hc : ∀ scope, upsertScope options c.caller = .ok scope →
      ∃ q ∈ pairs, scope.context.tenantId = q.tenantId ∧ scope.domain = q.domain) :
    uses options (p.name options) c = under options p c := by
  cases hscope : upsertScope options c.caller with
  | error e =>
      unfold uses under
      rw [hscope]
  | ok scope =>
      obtain ⟨q, hq, htenant, hdomain⟩ := hc scope hscope
      have hunder : under options q c = true :=
        under_eq_true_iff.mpr ⟨scope, hscope, htenant, hdomain⟩
      rw [uses_of_under hunder]
      by_cases hpq : p = q
      · rw [← hpq] at hunder ⊢
        rw [hunder]
        exact decide_eq_true rfl
      · have hname : q.name options ≠ p.name options := by
          intro heq
          exact hpq (hapart p hp q hq ((TenantDomain.name_eq_iff options).mp heq.symm))
        rw [decide_eq_false hname]
        symm
        rw [Bool.eq_false_iff]
        intro hown
        obtain ⟨scope', hscope', htenant', hdomain'⟩ := under_eq_true_iff.mp hown
        rw [hscope] at hscope'
        cases hscope'
        exact hpq (TenantDomain.eq_of_fields (htenant'.symm.trans htenant)
          (hdomain'.symm.trans hdomain))

theorem isolated_of_apart
    (hapart : ∀ p ∈ pairs, ∀ q ∈ pairs, TenantDomain.Collide p q → p = q) :
    Isolated options pairs where
  answers_alone := by
    intro calls hwithin p hp
    have hcalls : calls.filter (under options p) = calls.filter (uses options (p.name options)) :=
      List.filter_congr fun c hc => (uses_eq_under hapart hp (hwithin c hc)).symm
    rw [hcalls, ← answers_of_uses]
    refine List.filter_congr fun a ha => ?_
    have hmem : a.1 ∈ calls := by
      rw [← map_fst_answers (step options) Dict.empty calls]
      exact List.mem_map_of_mem ha
    exact (uses_eq_under hapart hp (hwithin a.1 hmem)).symm
  records_kept := by
    intro collections p hp q hq hne c hunder
    refine (collectionAt_step collections Dict.empty c _).1 ?_
    rw [uses_of_under hunder]
    refine decide_eq_false fun heq => ?_
    exact hne (hapart p hp q hq ((TenantDomain.name_eq_iff options).mp heq.symm))
  names_differ := fun p hp q hq hne heq =>
    hne (hapart p hp q hq ((TenantDomain.name_eq_iff options).mp heq))

end Pairs

/-! ## Pairs that share a collection -/

namespace Overwrite

variable {options : VectorStoreOptions py} {p q : TenantDomain py}

def contextOf (p : TenantDomain py) : TenantContext := ⟨p.tenantId, none, [], none⟩

def callerOf (p : TenantDomain py) : VectorCaller := ⟨some (contextOf p), none, p.domain⟩

def record : VectorRecord := ⟨{ id := "record-1", embedding := [1] }, rfl⟩

def upsertOf (p : TenantDomain py) : VectorInput := ⟨callerOf p, .upsert [record]⟩

def queryOf (p : TenantDomain py) : VectorInput := ⟨callerOf p, .query [1] 1 none⟩

/-- The metadata that the record is stored with. -/
def metadataOf (p : TenantDomain py) : VectorMetadata :=
  (Dict.empty.set "tenant_id" (.str p.tenantId)).set "domain" (.str p.domain)

theorem normalMetadata_metadataOf (p : TenantDomain py) : NormalMetadata (metadataOf p) := by
  have hempty : NormalMetadata Dict.empty := fun e he => absurd he (by exact List.not_mem_nil)
  exact (hempty.set normalizeMetadataKey_tenantId _).set normalizeMetadataKey_domain _

theorem postInit_metadataOf (p : TenantDomain py) :
    ({ record.fields with metadata := metadataOf p } : VectorRecordArgs).postInit =
      .ok { record.fields with metadata := metadataOf p } := by
  have hmetadata := (normalMetadata_metadataOf p).normalizeMetadata_eq "metadata"
  unfold VectorRecordArgs.postInit
  simp only [bind_eq_ok_iff]
  exact ⟨_, rfl, _, rfl, _, rfl, _, hmetadata, rfl⟩

def recordOf (p : TenantDomain py) : VectorRecord :=
  ⟨{ record.fields with metadata := metadataOf p }, postInit_metadataOf p⟩

theorem make_recordOf (p : TenantDomain py) :
    VectorRecord.make { record.fields with metadata := metadataOf p } = .ok (recordOf p) :=
  VectorRecord.make_of_postInit (postInit_metadataOf p)

theorem upsertScope_callerOf (options : VectorStoreOptions py) (p : TenantDomain py) :
    upsertScope options (callerOf p) = .ok ⟨contextOf p, p.domain, p.name options⟩ := by
  unfold upsertScope
  simp only [bind_eq_ok_iff]
  exact ⟨contextOf p, rfl, p.domain, p.domain_normal, _,
    TenantDomain.collectionName_eq options rfl, rfl⟩

theorem step_upsertOf (options : VectorStoreOptions py) (p : TenantDomain py)
    (s : VectorCollections) :
    (step options s (upsertOf p)).1 = .ok [] ∧
      collectionAt (step options s (upsertOf p)).2 (p.name options) =
        (collectionAt s (p.name options)).set "record-1" (recordOf p) := by
  have hstored : (do
      let enrichedMetadata ← tenantMetadataForRecord record.fields.metadata p.domain (contextOf p)
      VectorRecord.make { record.fields with metadata := enrichedMetadata }) =
        .ok (recordOf p) := by
    rw [bind_eq_ok_iff]
    exact ⟨metadataOf p, rfl, make_recordOf p⟩
  have hloop : upsertRecords p.domain (contextOf p) [record] (collectionAt s (p.name options)) =
      (.ok (), (collectionAt s (p.name options)).set "record-1" (recordOf p)) := by
    rw [upsertRecords]
    simp only [hstored]
    rfl
  have hstep : upsert options (callerOf p) [record] s =
      (.ok (), s.set (p.name options)
        ((collectionAt s (p.name options)).set "record-1" (recordOf p))) := by
    unfold upsert
    rw [if_neg (List.cons_ne_nil record []), upsertScope_callerOf]
    unfold collectionAt at hloop ⊢
    simp only [hloop]
  unfold step upsertOf
  simp only [hstep]
  refine ⟨rfl, ?_⟩
  rw [collectionAt_set, if_pos rfl]

theorem searchRecords_recordOf (p q : TenantDomain py) :
    searchRecords [1] (Dict.empty.set "tenant_id" (.str p.tenantId)) [recordOf q] =
      .ok (if q.tenantId = p.tenantId then [⟨"record-1", 0, metadataOf q, none⟩] else []) := by
  have hmatches : metadataMatches (recordOf q).fields.metadata
      (Dict.empty.set "tenant_id" (.str p.tenantId)) = decide (q.tenantId = p.tenantId) := by
    show ((decide (q.tenantId = p.tenantId)) && true) = _
    exact Bool.and_true _
  have hdistance : squaredL2Distance [1] (recordOf q).fields.embedding = .ok 0 := by
    show squaredL2Distance [1] [1] = .ok 0
    simp [squaredL2Distance]
  have hid : normalizeVectorId (recordOf q).fields.id = .ok "record-1" := by
    show normalizeVectorId "record-1" = .ok "record-1"
    decide
  have hresult : VectorSearchResult.make (recordOf q).fields.id 0 (recordOf q).fields.metadata
      (recordOf q).fields.document = .ok ⟨"record-1", 0, metadataOf q, none⟩ := by
    have hmetadata := (normalMetadata_metadataOf q).normalizeMetadata_eq "metadata"
    unfold VectorSearchResult.make
    simp only [bind_eq_ok_iff, refuseIf_eq_ok_iff]
    exact ⟨_, hid, (), lt_irrefl 0, _, hmetadata, rfl⟩
  rw [searchRecords, hmatches]
  by_cases htenant : q.tenantId = p.tenantId
  · rw [if_pos (decide_eq_true htenant), if_pos htenant, hdistance]
    simp only [bind, Except.bind, hresult]
    rfl
  · rw [if_neg (by simpa using htenant), if_neg htenant]
    rfl

theorem step_queryOf {s : VectorCollections} (h : collectionAt s (p.name options) =
      Dict.empty.set "record-1" (recordOf q)) :
    (step options s (queryOf p)).1 =
      .ok (if q.tenantId = p.tenantId then [⟨"record-1", 0, metadataOf q, none⟩] else []) := by
  have hscope : queryScope options (callerOf p) [1] 1 none = .ok (⟨contextOf p, p.domain,
      p.name options⟩, [1], Dict.empty.set "tenant_id" (.str p.tenantId)) := by
    unfold queryScope
    simp only [bind_eq_ok_iff]
    exact ⟨(), rfl, contextOf p, rfl, p.domain, p.domain_normal, [1], rfl, _,
      TenantDomain.collectionName_eq options rfl, _, rfl, rfl⟩
  have hentries : (collectionAt s (p.name options)).entries.map Prod.snd = [recordOf q] := by
    rw [h]
    rfl
  unfold collectionAt at hentries
  unfold step queryOf query
  simp only [hscope, bind, Except.bind]
  rw [hentries, searchRecords_recordOf]
  by_cases htenant : q.tenantId = p.tenantId
  · rw [if_pos htenant]
    rfl
  · rw [if_neg htenant]
    rfl

theorem under_callerOf (options : VectorStoreOptions py) (p q : TenantDomain py)
    (call : VectorCall) : under options p ⟨callerOf q, call⟩ =
      (decide (q.tenantId = p.tenantId) && decide (q.domain = p.domain)) := by
  unfold under
  rw [upsertScope_callerOf]
  rfl

theorem under_callerOf_self (options : VectorStoreOptions py) (p : TenantDomain py)
    (call : VectorCall) : under options p ⟨callerOf p, call⟩ = true := by
  rw [under_callerOf, decide_eq_true rfl, decide_eq_true rfl]
  rfl

theorem under_callerOf_of_ne (options : VectorStoreOptions py) (hne : p ≠ q)
    (call : VectorCall) : under options p ⟨callerOf q, call⟩ = false := by
  rw [under_callerOf, Bool.eq_false_iff]
  intro h
  rw [Bool.and_eq_true, decide_eq_true_eq, decide_eq_true_eq] at h
  exact hne (TenantDomain.eq_of_fields h.1.symm h.2.symm)

/-- INTERNAL: the record of `p` is written over by `q`, and `p` no longer finds it, or finds
the one of `q`. -/
theorem not_answers_alone (hcollide : TenantDomain.Collide p q) (hne : p ≠ q) :
    (answers (step options) Dict.empty [upsertOf p, upsertOf q, queryOf p]).filter
        (fun a => under options p a.1) ≠
      answers (step options) Dict.empty
        ([upsertOf p, upsertOf q, queryOf p].filter (under options p)) := by
  intro h
  have hname : p.name options = q.name options := (TenantDomain.name_eq_iff options).mpr hcollide
  have hempty : collectionAt Dict.empty (p.name options) = Dict.empty := rfl
  obtain ⟨hokp, hstoredp⟩ := step_upsertOf options p Dict.empty
  rw [hempty] at hstoredp
  obtain ⟨hokq, hstoredq⟩ := step_upsertOf options q (step options Dict.empty (upsertOf p)).2
  rw [← hname, hstoredp] at hstoredq
  have hoverwritten : (Dict.empty.set "record-1" (recordOf p)).set "record-1" (recordOf q) =
      (Dict.empty.set "record-1" (recordOf q) : VectorCollection) := rfl
  rw [hoverwritten] at hstoredq
  have hwith := step_queryOf hstoredq
  have halone := step_queryOf hstoredp
  rw [if_pos rfl] at halone
  have hownup : under options p (upsertOf p) = true := under_callerOf_self options p _
  have hownquery : under options p (queryOf p) = true := under_callerOf_self options p _
  have hother : under options p (upsertOf q) = false := under_callerOf_of_ne options hne _
  simp only [answers, List.filter_cons, hownup, hother, hownquery, if_true, List.filter_nil,
    Bool.false_eq_true, if_false, List.cons.injEq, true_and, Prod.mk.injEq, and_true] at h
  rw [hwith, halone] at h
  have hresults := Except.ok.inj h
  by_cases htenant : q.tenantId = p.tenantId
  · rw [if_pos htenant] at hresults
    have hmetadata : metadataOf q = metadataOf p := by
      have hfirst := (List.cons.inj hresults).1
      exact congrArg VectorSearchResult.metadata hfirst
    have hdomain : (metadataOf q).get? "domain" = (metadataOf p).get? "domain" := by
      rw [hmetadata]
    have hsame : some (MetadataScalar.str q.domain) = some (MetadataScalar.str p.domain) := hdomain
    exact hne (TenantDomain.eq_of_fields htenant.symm
      (MetadataScalar.str.inj (Option.some.inj hsame)).symm)
  · rw [if_neg htenant] at hresults
    cases hresults

theorem within (options : VectorStoreOptions py) {pairs : Set (TenantDomain py)}
    (hp : p ∈ pairs) (hq : q ∈ pairs) :
    Within options pairs [upsertOf p, upsertOf q, queryOf p] := by
  have hscope : ∀ r ∈ pairs, ∀ scope, upsertScope options (callerOf r) = .ok scope →
      ∃ p ∈ pairs, scope.context.tenantId = p.tenantId ∧ scope.domain = p.domain := by
    intro r hr scope hscope
    rw [upsertScope_callerOf] at hscope
    cases hscope
    exact ⟨r, hr, rfl, rfl⟩
  intro c hc scope hc'
  rw [List.mem_cons, List.mem_cons, List.mem_singleton] at hc
  rcases hc with rfl | rfl | rfl
  · exact hscope p hp scope hc'
  · exact hscope q hq scope hc'
  · exact hscope p hp scope hc'

end Overwrite

/-- Tenants and domains are isolated exactly when no two of those in use collide. -/
theorem isolated_iff_not_collide (options : VectorStoreOptions py)
    (pairs : Set (TenantDomain py)) : Isolated options pairs ↔
      ∀ p ∈ pairs, ∀ q ∈ pairs, TenantDomain.Collide p q → p = q := by
  constructor
  · intro h p hp q hq hcollide
    by_contra hne
    exact Overwrite.not_answers_alone hcollide hne
      (h.answers_alone _ (Overwrite.within options hp hq) p hp)
  · exact isolated_of_apart

namespace VectorSample

/-- The collection of both is `nmc_dev_acme_eu_memory`. -/
def first : TenantDomain Reference.stdlib where
  tenantId := "acme"
  domain := "eu_memory"
  tenantId_valid := by decide
  domain_normal := by decide
  domain_segment := ⟨"eu_memory", by decide⟩

def second : TenantDomain Reference.stdlib where
  tenantId := "acme_eu"
  domain := "memory"
  tenantId_valid := by decide
  domain_normal := by decide
  domain_segment := ⟨"memory", by decide⟩

def options : VectorStoreOptions Reference.stdlib where
  collectionPrefix := "nmc"
  environment := "dev"
  collectionPrefix_segment := ⟨"nmc", by decide⟩
  environment_segment := ⟨"dev", by decide +kernel⟩

end VectorSample

/-- `acme` with `eu_memory` and `acme_eu` with `memory` share a collection. -/
theorem not_isolated : ¬ ∀ (py : Stdlib) (options : VectorStoreOptions py)
    (pairs : Set (TenantDomain py)), Isolated options pairs := by
  intro h
  have hisolated := h Reference.stdlib VectorSample.options Set.univ
  have hname : VectorSample.first.name VectorSample.options =
      VectorSample.second.name VectorSample.options := by decide +kernel
  have hne : VectorSample.first ≠ VectorSample.second := by
    intro heq
    exact absurd (congrArg TenantDomain.tenantId heq) (by decide)
  exact Overwrite.not_answers_alone ((TenantDomain.name_eq_iff _).mp hname) hne
    (hisolated.answers_alone _ (Overwrite.within _ (Set.mem_univ _) (Set.mem_univ _)) _
      (Set.mem_univ _))

end MediaCenter.Shared.InMemoryTenantVectorStore
