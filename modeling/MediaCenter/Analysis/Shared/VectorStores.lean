import Mathlib.Algebra.Order.BigOperators.Group.List
import MediaCenter.Analysis.Shared.VectorIsolation
import MediaCenter.Model.Shared.ChromaVectorStore

/-!
# The in-memory vector store and the one over Chroma

Both stores are given the same calls.  As long as every record has a document, no batch fails
after its first record, and embeddings that are compared have one length, the collections of the
one mirror those of the other.
-/

set_option autoImplicit false

namespace MediaCenter.Shared.VectorStores

open MediaCenter.Library InMemoryTenantVectorStore

variable {py : Stdlib}

/-- The collections of both stores. -/
structure Stores where
  memory : VectorCollections
  chroma : ChromaCollections

def Stores.empty : Stores := ⟨Dict.empty, Dict.empty⟩

def step (server : ChromaServer) (options : VectorStoreOptions py) (stores : Stores)
    (c : VectorInput) : (VectorAnswer × VectorAnswer) × Stores :=
  let m := InMemoryTenantVectorStore.step options stores.memory c
  let k := ChromaTenantVectorStore.step server options stores.chroma c
  ((m.1, k.1), ⟨m.2, k.2⟩)

/-- No two of the entries that a query finds have the same distance. -/
def NoTies (options : VectorStoreOptions py) (stores : Stores) (c : VectorInput) : Prop :=
  match c.call with
  | .upsert _ => True
  | .query queryEmbedding limit metadataFilter =>
      ∀ scope embedding conditions,
        queryScope options c.caller queryEmbedding limit metadataFilter =
          .ok (scope, embedding, conditions) →
        ∀ a ∈ (collectionAt stores.memory scope.collectionName).entries,
        ∀ b ∈ (collectionAt stores.memory scope.collectionName).entries,
        metadataMatches a.2.fields.metadata conditions = true →
        metadataMatches b.2.fields.metadata conditions = true →
        squaredDistance embedding a.2.fields.embedding =
          squaredDistance embedding b.2.fields.embedding → a = b

structure Interchangeable (server : ChromaServer) (options : VectorStoreOptions py)
    (calls : List VectorInput) : Prop where
  same_answers : ∀ a ∈ answers (step server options) Stores.empty calls, a.2.1 = a.2.2
  memory_kept : ∀ earlier c later, calls = earlier ++ c :: later → ∀ e,
    (step server options (after (step server options) Stores.empty earlier) c).1.1 = .error e →
    (step server options (after (step server options) Stores.empty earlier) c).2.memory =
      (after (step server options) Stores.empty earlier).memory
  chroma_kept : ∀ earlier c later, calls = earlier ++ c :: later → ∀ e,
    (step server options (after (step server options) Stores.empty earlier) c).1.2 = .error e →
    (step server options (after (step server options) Stores.empty earlier) c).2.chroma =
      (after (step server options) Stores.empty earlier).chroma

/-! ## The calls that both stores answer alike -/

/-- The metadata of a record names no other tenant. -/
def Accepted (scope : VectorScope) (record : VectorRecord) : Prop :=
  ∃ metadata, tenantMetadataForRecord record.fields.metadata scope.domain scope.context =
    .ok metadata

/-- A batch is stored as a whole, with a document for each record, or is refused at its first
record. -/
def WholeBatch (stores : Stores) (scope : VectorScope) (records : List VectorRecord) : Prop :=
  (∀ record ∈ records, Accepted scope record ∧ record.fields.document ≠ none) ∨
  ∃ record rest, records = record :: rest ∧ ¬ Accepted scope record ∧
    stores.memory.get? scope.collectionName ≠ none ∧
    stores.chroma.get? scope.collectionName ≠ none

/-- A query compares embeddings of its own length, for a tenant whose id is well formed; one
that is refused for its filter finds its collection there. -/
def ComparableQuery (stores : Stores) (scope : VectorScope) (embedding : List ℚ)
    (metadataFilter : Option VectorMetadata) : Prop :=
  (∀ e, tenantMetadataFilter metadataFilter scope.context = .error e →
    stores.chroma.get? scope.collectionName ≠ none) ∧
  ∀ conditions, tenantMetadataFilter metadataFilter scope.context = .ok conditions →
    ∀ entry ∈ (collectionAt stores.memory scope.collectionName).entries,
    metadataMatches entry.2.fields.metadata conditions = true →
    entry.2.fields.embedding.length = embedding.length ∧
      tenantIdPattern scope.context.tenantId = true

def Alike (options : VectorStoreOptions py) (stores : Stores) (c : VectorInput) : Prop :=
  match c.call with
  | .upsert records => ∀ scope, upsertScope options c.caller = .ok scope →
      WholeBatch stores scope records
  | .query queryEmbedding limit metadataFilter => ∀ scope embedding,
      ChromaTenantVectorStore.queryLookup options c.caller queryEmbedding limit =
        .ok (scope, embedding) →
      ComparableQuery stores scope embedding metadataFilter

/-! ## Mirrored collections -/

def entryOf (record : VectorRecord) : ChromaEntry :=
  ⟨record.fields.embedding, record.fields.metadata, record.fields.document.getD ""⟩

def chromaAt (collections : ChromaCollections) (name : String) : ChromaCollection :=
  (collections.get? name).getD Dict.empty

/-- Every record has a document, and is stored under its own id. -/
def Documented (collection : VectorCollection) : Prop :=
  ∀ e ∈ collection.entries, e.2.fields.document ≠ none ∧ e.2.fields.id = e.1

structure Mirrored (stores : Stores) : Prop where
  entries_eq : ∀ name, chromaAt stores.chroma name =
    (collectionAt stores.memory name).mapValues entryOf
  created : ∀ name, stores.memory.get? name ≠ none → stores.chroma.get? name ≠ none
  documented : ∀ name, Documented (collectionAt stores.memory name)

theorem mirrored_empty : Mirrored Stores.empty where
  entries_eq _ := rfl
  created _ h := absurd rfl h
  documented := by
    intro name e he
    cases he

theorem documented_set {collection : VectorCollection} (h : Documented collection)
    {record : VectorRecord} {id : String} (hid : record.fields.id = id)
    (hdocument : record.fields.document ≠ none) : Documented (collection.set id record) := by
  intro e he
  have hget : (collection.set id record).get? e.1 = some e.2 := Dict.get?_eq_some_iff.mpr he
  rw [Dict.get?_set] at hget
  by_cases hkey : e.1 = id
  · rw [if_pos hkey] at hget
    cases hget
    exact ⟨hdocument, hid.trans hkey.symm⟩
  · rw [if_neg hkey] at hget
    exact h e (Dict.get?_eq_some_iff.mp hget)

/-! ## Batches -/

section Batches

variable {scope : VectorScope} {record : VectorRecord} {records : List VectorRecord}

theorem normalMetadata_of_tenantMetadataForRecord {metadata enriched : VectorMetadata}
    (h : tenantMetadataForRecord metadata scope.domain scope.context = .ok enriched) :
    NormalMetadata enriched := by
  unfold tenantMetadataForRecord at h
  simp only [bind_eq_ok_iff] at h
  obtain ⟨normalized, hnormalized, _, _, hreturn⟩ := h
  cases hreturn
  exact ((normalMetadata_of_normalizeMetadata hnormalized).set
    normalizeMetadataKey_tenantId _).set normalizeMetadataKey_domain _

theorem postInit_withMetadata (record : VectorRecord) {metadata : VectorMetadata}
    (h : NormalMetadata metadata) :
    ({ record.fields with metadata := metadata } : VectorRecordArgs).postInit =
      .ok { record.fields with metadata := metadata } := by
  have hnormal := record.normal
  unfold VectorRecordArgs.postInit at hnormal ⊢
  simp only [bind_eq_ok_iff] at hnormal ⊢
  obtain ⟨id, hid, embedding, hembedding, u, hdocument, _, _, hreturn⟩ := hnormal
  have hfields := Except.ok.inj hreturn
  have hsameId : id = record.fields.id := congrArg VectorRecordArgs.id hfields
  have hsameEmbedding : embedding = record.fields.embedding :=
    congrArg VectorRecordArgs.embedding hfields
  refine ⟨id, hid, embedding, hembedding, u, hdocument, metadata, h.normalizeMetadata_eq _, ?_⟩
  rw [hsameId, hsameEmbedding]
  rfl

/-- INTERNAL: the record that an accepted one is stored as. -/
theorem exists_stored {metadata : VectorMetadata}
    (h : tenantMetadataForRecord record.fields.metadata scope.domain scope.context =
      .ok metadata) : ∃ stored : VectorRecord,
      stored.fields = { record.fields with metadata := metadata } ∧
      (do
        let enrichedMetadata ← tenantMetadataForRecord record.fields.metadata scope.domain
          scope.context
        VectorRecord.make { record.fields with metadata := enrichedMetadata }) = .ok stored := by
  have hpost := postInit_withMetadata record (normalMetadata_of_tenantMetadataForRecord h)
  refine ⟨⟨_, hpost⟩, rfl, ?_⟩
  rw [bind_eq_ok_iff]
  exact ⟨metadata, h, VectorRecord.make_of_postInit hpost⟩

/-- INTERNAL: induction on the batch; each record is set in both collections. -/
theorem upsertRecords_accepted {metadatas : List VectorMetadata}
    (h : (records.mapM fun record => tenantMetadataForRecord record.fields.metadata scope.domain
      scope.context) = .ok metadatas)
    (hdocuments : ∀ record ∈ records, record.fields.document ≠ none)
    {collection : VectorCollection} (hcollection : Documented collection) :
    (upsertRecords scope.domain scope.context records collection).1 = .ok () ∧
      Documented (upsertRecords scope.domain scope.context records collection).2 ∧
      (upsertRecords scope.domain scope.context records collection).2.mapValues entryOf =
        ChromaCollection.upsert (records.map fun record => record.fields.id)
          (records.map fun record => record.fields.embedding) metadatas
          (records.map fun record => record.fields.document.getD "")
          (collection.mapValues entryOf) := by
  induction records generalizing metadatas collection with
  | nil =>
      rw [mapM_eq_ok_iff, List.forall₂_nil_left_iff] at h
      subst h
      exact ⟨rfl, hcollection, rfl⟩
  | cons record records ih =>
      rw [mapM_eq_ok_iff, List.forall₂_cons_left_iff] at h
      obtain ⟨metadata, rest, hmetadata, hrest, rfl⟩ := h
      rw [← mapM_eq_ok_iff] at hrest
      obtain ⟨stored, hfields, hstored⟩ := exists_stored hmetadata
      have hid : stored.fields.id = record.fields.id := by rw [hfields]
      have hdocument : stored.fields.document ≠ none := by
        rw [hfields]
        exact hdocuments record List.mem_cons_self
      have hentry : entryOf stored =
          ⟨record.fields.embedding, metadata, record.fields.document.getD ""⟩ := by
        unfold entryOf
        rw [hfields]
      have hnext := ih hrest (fun r hr => hdocuments r (List.mem_cons_of_mem _ hr))
        (documented_set hcollection hid hdocument)
      rw [upsertRecords]
      simp only [hstored]
      refine ⟨hnext.1, hnext.2.1, ?_⟩
      rw [hnext.2.2, Dict.set_mapValues, hentry]
      rfl

theorem upsertRecords_refused {e : SharedException} (h : tenantMetadataForRecord
      record.fields.metadata scope.domain scope.context = .error e)
    (records : List VectorRecord) (collection : VectorCollection) :
    upsertRecords scope.domain scope.context (record :: records) collection =
      (.error e, collection) ∧
    ((record :: records).mapM fun record => tenantMetadataForRecord record.fields.metadata
      scope.domain scope.context) = .error e := by
  constructor
  · rw [upsertRecords]
    simp only [h, bind, Except.bind]
  · rw [List.mapM_cons, h]
    rfl

end Batches

/-! ## Steps -/

section Steps

variable {server : ChromaServer} {options : VectorStoreOptions py} {stores : Stores}

theorem get?_getOrCreate (collections : ChromaCollections) (used name : String) :
    (ChromaTenantVectorStore.getOrCreate used collections).get? name =
      if name = used then some (chromaAt collections used) else collections.get? name := by
  unfold ChromaTenantVectorStore.getOrCreate chromaAt
  cases hused : collections.get? used with
  | some collection =>
      by_cases hname : name = used
      · rw [if_pos hname, hname]
        exact hused
      · rw [if_neg hname]
  | none =>
      simp only
      rw [Dict.get?_set]
      by_cases hname : name = used
      · rw [if_pos hname, if_pos hname]
        rfl
      · rw [if_neg hname, if_neg hname]

theorem chromaAt_getOrCreate (collections : ChromaCollections) (used name : String) :
    chromaAt (ChromaTenantVectorStore.getOrCreate used collections) name =
      chromaAt collections name := by
  unfold chromaAt
  rw [get?_getOrCreate]
  by_cases hname : name = used
  · rw [if_pos hname, hname]
    rfl
  · rw [if_neg hname]

theorem getOrCreate_of_ne_none {collections : ChromaCollections} {name : String}
    (h : collections.get? name ≠ none) :
    ChromaTenantVectorStore.getOrCreate name collections = collections := by
  unfold ChromaTenantVectorStore.getOrCreate
  obtain ⟨collection, hcollection⟩ := Option.ne_none_iff_exists'.mp h
  rw [hcollection]

theorem set_collectionAt {name : String} (h : stores.memory.get? name ≠ none) :
    stores.memory.set name (collectionAt stores.memory name) = stores.memory := by
  obtain ⟨collection, hcollection⟩ := Option.ne_none_iff_exists'.mp h
  unfold collectionAt
  rw [hcollection]
  exact Dict.set_of_get?_eq_some hcollection

/-- What a call must keep: both stores answer alike, stay mirrored, and are left as they are
when they raise. -/
structure StepsAlike (stores : Stores) (r : (VectorAnswer × VectorAnswer) × Stores) : Prop where
  same : r.1.1 = r.1.2
  mirrored : Mirrored r.2
  kept : ∀ e, r.1.1 = .error e → r.2 = stores

theorem stepsAlike_of_error (h : Mirrored stores) (e : SharedException) :
    StepsAlike stores ((.error e, .error e), stores) :=
  ⟨rfl, h, fun _ _ => rfl⟩

theorem upsert_accepted (h : Mirrored stores) {scope : VectorScope} {records : List VectorRecord}
    {metadatas : List VectorMetadata}
    (hmetadatas : (records.mapM fun record => tenantMetadataForRecord record.fields.metadata
      scope.domain scope.context) = .ok metadatas)
    (hdocuments : ∀ record ∈ records, record.fields.document ≠ none) :
    (upsertRecords scope.domain scope.context records
      (collectionAt stores.memory scope.collectionName)).1 = .ok () ∧
    Mirrored ⟨stores.memory.set scope.collectionName (upsertRecords scope.domain scope.context
        records (collectionAt stores.memory scope.collectionName)).2,
      (ChromaTenantVectorStore.getOrCreate scope.collectionName stores.chroma).set
        scope.collectionName
        (ChromaCollection.upsert (records.map fun record => record.fields.id)
          (records.map fun record => record.fields.embedding) metadatas
          (records.map fun record => record.fields.document.getD "")
          (chromaAt (ChromaTenantVectorStore.getOrCreate scope.collectionName stores.chroma)
            scope.collectionName))⟩ := by
  obtain ⟨hok, hdocumented, hvalues⟩ := upsertRecords_accepted hmetadatas hdocuments
    (h.documented scope.collectionName)
  refine ⟨hok, ?_, ?_, ?_⟩
  · intro name
    rw [collectionAt_set]
    unfold chromaAt
    rw [Dict.get?_set]
    by_cases hname : name = scope.collectionName
    · rw [if_pos hname, if_pos hname, hvalues, ← h.entries_eq, Option.getD_some]
      rw [← chromaAt_getOrCreate stores.chroma scope.collectionName scope.collectionName]
      rfl
    · rw [if_neg hname, if_neg hname, ← h.entries_eq]
      exact chromaAt_getOrCreate stores.chroma scope.collectionName name
  · intro name hcreated
    show Dict.get? _ name ≠ none
    rw [Dict.get?_set, get?_getOrCreate]
    by_cases hname : name = scope.collectionName
    · rw [if_pos hname]
      exact Option.some_ne_none _
    · rw [if_neg hname, if_neg hname]
      refine h.created name ?_
      change (stores.memory.set _ _).get? name ≠ none at hcreated
      rw [Dict.get?_set, if_neg hname] at hcreated
      exact hcreated
  · intro name
    rw [collectionAt_set]
    by_cases hname : name = scope.collectionName
    · rw [if_pos hname]
      exact hdocumented
    · rw [if_neg hname]
      exact h.documented name

theorem stepsAlike_upsert (h : Mirrored stores) {caller : VectorCaller}
    {records : List VectorRecord} (halike : Alike options stores ⟨caller, .upsert records⟩) :
    StepsAlike stores (step server options stores ⟨caller, .upsert records⟩) := by
  unfold step InMemoryTenantVectorStore.step ChromaTenantVectorStore.step
  simp only
  unfold InMemoryTenantVectorStore.upsert ChromaTenantVectorStore.upsert
  by_cases hnil : records = []
  · rw [if_pos hnil, if_pos hnil]
    exact stepsAlike_of_error h _
  · rw [if_neg hnil, if_neg hnil]
    cases hscope : upsertScope options caller with
    | error e => exact stepsAlike_of_error h e
    | ok scope =>
        rcases halike scope hscope with haccepted | ⟨record, rest, rfl, hrefused, hmemory, hchroma⟩
        · obtain ⟨metadatas, hmetadatas⟩ := (exists_mapM_eq_ok_iff _ records).mpr
            fun record hrecord => (haccepted record hrecord).1
          obtain ⟨hok, hmirrored⟩ := upsert_accepted h hmetadatas
            fun record hrecord => (haccepted record hrecord).2
          unfold collectionAt at hok hmirrored
          unfold chromaAt at hmirrored
          simp only [hmetadatas, hok]
          exact ⟨rfl, hmirrored, fun e he => by cases he⟩
        · cases hmetadata : tenantMetadataForRecord record.fields.metadata scope.domain
              scope.context with
          | ok metadata => exact absurd ⟨metadata, hmetadata⟩ hrefused
          | error e =>
              obtain ⟨hloop, hmap⟩ := upsertRecords_refused hmetadata rest
                (collectionAt stores.memory scope.collectionName)
              unfold collectionAt at hloop
              simp only [hmap, hloop]
              rw [getOrCreate_of_ne_none hchroma]
              have hset := set_collectionAt hmemory
              unfold collectionAt at hset
              rw [hset]
              exact stepsAlike_of_error h e

end Steps

/-! ## Queries -/

section Queries

variable {server : ChromaServer} {options : VectorStoreOptions py} {stores : Stores}
  {embedding : List ℚ} {conditions : VectorMetadata}

theorem squaredDistance_nonneg (left right : List ℚ) : 0 ≤ squaredDistance left right := by
  unfold squaredDistance
  refine List.sum_nonneg fun x hx => ?_
  rw [List.mem_iff_getElem] at hx
  obtain ⟨i, hi, rfl⟩ := hx
  rw [List.getElem_zipWith]
  exact sq_nonneg _

/-- The result that a record is found as. -/
def resultOf (embedding : List ℚ) (record : VectorRecord) : VectorSearchResult :=
  ⟨record.fields.id, squaredDistance embedding record.fields.embedding, record.fields.metadata,
    record.fields.document⟩

theorem make_resultOf (record : VectorRecord) {distance : ℚ} (hdistance : 0 ≤ distance) :
    VectorSearchResult.make record.fields.id distance record.fields.metadata
      record.fields.document =
      .ok ⟨record.fields.id, distance, record.fields.metadata, record.fields.document⟩ := by
  have hnormal := record.normal
  unfold VectorRecordArgs.postInit at hnormal
  simp only [bind_eq_ok_iff] at hnormal
  obtain ⟨id, hid, _, _, _, _, metadata, hmetadata, hreturn⟩ := hnormal
  have hfields := Except.ok.inj hreturn
  have hsameId : id = record.fields.id := congrArg VectorRecordArgs.id hfields
  have hsameMetadata : metadata = record.fields.metadata :=
    congrArg VectorRecordArgs.metadata hfields
  unfold VectorSearchResult.make
  simp only [bind_eq_ok_iff, refuseIf_eq_ok_iff]
  refine ⟨id, hid, (), not_lt.mpr hdistance, metadata, hmetadata, ?_⟩
  rw [hsameId, hsameMetadata]
  rfl

theorem searchRecords_eq_ok {records : List VectorRecord}
    (hlength : ∀ record ∈ records, metadataMatches record.fields.metadata conditions = true →
      record.fields.embedding.length = embedding.length) :
    searchRecords embedding conditions records =
      .ok ((records.filter fun record =>
        metadataMatches record.fields.metadata conditions).map (resultOf embedding)) := by
  induction records with
  | nil => rfl
  | cons record records ih =>
      have hrest := ih fun r hr => hlength r (List.mem_cons_of_mem _ hr)
      rw [searchRecords]
      by_cases hmatches : metadataMatches record.fields.metadata conditions = true
      · have hdistance : squaredL2Distance embedding record.fields.embedding =
            .ok (squaredDistance embedding record.fields.embedding) := by
          unfold squaredL2Distance
          rw [if_neg (not_not.mpr (hlength record List.mem_cons_self hmatches).symm)]
          rfl
        rw [if_pos hmatches, hdistance, hrest, List.filter_cons, if_pos hmatches, List.map_cons]
        simp only [bind, Except.bind, make_resultOf record (squaredDistance_nonneg _ _)]
        rfl
      · rw [if_neg hmatches, hrest, List.filter_cons, if_neg hmatches]

/-- The result that a hit is decoded to. -/
def resultOfHit (hit : ChromaHit) : VectorSearchResult :=
  ⟨hit.id, hit.distance, hit.metadata, some hit.document⟩

/-- A hit that the decoding of responses accepts. -/
def Decodable (context : TenantContext) (hit : ChromaHit) : Prop :=
  normalizeVectorId hit.id = .ok hit.id ∧ 0 ≤ hit.distance ∧ NormalMetadata hit.metadata ∧
    hit.metadata.get? "tenant_id" = some (.str context.tenantId)

theorem assertRequestedTenant_self {context : TenantContext}
    (h : tenantIdPattern context.tenantId = true) :
    assertRequestedTenant context.tenantId context = .ok () := by
  unfold assertRequestedTenant validatedTenantId
  rw [if_pos h]
  simp [bind, Except.bind, pure, Except.pure]

theorem searchResultAt_eq_ok {context : TenantContext} {hits : List ChromaHit} {index : ℕ}
    {hit : ChromaHit} (hhit : hits[index]? = some hit) (hdecodable : Decodable context hit)
    (htenant : tenantIdPattern context.tenantId = true) :
    searchResultAt (.ofHits hits) context index hit.id = .ok (resultOfHit hit) := by
  obtain ⟨hid, hdistance, hmetadata, hscope⟩ := hdecodable
  have hrow : metadataAt (ChromaResponse.ofHits hits).metadatas index = .ok hit.metadata := by
    unfold metadataAt ChromaResponse.ofHits
    rw [List.getElem?_map, hhit]
    exact hmetadata.normalizeMetadata_eq "metadata"
  have hcolumn : distanceAt (ChromaResponse.ofHits hits).distances index = hit.distance := by
    unfold distanceAt ChromaResponse.ofHits
    rw [List.getElem?_map, hhit]
    rfl
  have htext : documentAt (ChromaResponse.ofHits hits).documents index = some hit.document := by
    unfold documentAt ChromaResponse.ofHits
    rw [List.getElem?_map, hhit]
    rfl
  unfold searchResultAt
  rw [hrow]
  simp only [bind, Except.bind, hscope]
  rw [assertRequestedTenant_self htenant, hcolumn, htext]
  simp only
  unfold VectorSearchResult.make
  simp only [bind_eq_ok_iff, refuseIf_eq_ok_iff]
  exact ⟨_, hid, (), not_lt.mpr hdistance, _, hmetadata.normalizeMetadata_eq _, rfl⟩

theorem searchResultsFromChroma_eq_ok {context : TenantContext} {hits : List ChromaHit}
    (hdecodable : ∀ hit ∈ hits, Decodable context hit)
    (htenant : hits ≠ [] → tenantIdPattern context.tenantId = true) :
    searchResultsFromChroma (.ofHits hits) context = .ok (hits.map resultOfHit) := by
  unfold searchResultsFromChroma
  have hids : (ChromaResponse.ofHits hits).ids.zipIdx =
      hits.zipIdx.map fun row => (row.1.id, row.2) := by
    unfold ChromaResponse.ofHits
    rw [List.zipIdx_map]
    rfl
  have hloop : ((hits.zipIdx.map fun row => (row.1.id, row.2)).mapM fun row =>
      searchResultAt (.ofHits hits) context row.2 row.1) =
        .ok (hits.zipIdx.map fun row => resultOfHit row.1) := by
    rw [mapM_eq_ok_iff, List.forall₂_map_left_iff, List.forall₂_map_right_iff, List.forall₂_same]
    rintro ⟨hit, index⟩ hrow
    have hhit : hits[index]? = some hit := List.mk_mem_zipIdx_iff_getElem?.mp hrow
    have hmem : hit ∈ hits := List.mem_of_getElem? hhit
    exact searchResultAt_eq_ok hhit (hdecodable hit hmem) (htenant (List.ne_nil_of_mem hmem))
  rw [hids, hloop]
  congr 1
  have hfst : (hits.zipIdx.map fun row => resultOfHit row.1) =
      (hits.zipIdx.map Prod.fst).map resultOfHit := by
    rw [List.map_map]
    rfl
  rw [hfst, List.zipIdx_map_fst]

theorem queryScope_eq_lookup (options : VectorStoreOptions py) (caller : VectorCaller)
    (queryEmbedding : List ℚ) (limit : ℤ) (metadataFilter : Option VectorMetadata) :
    queryScope options caller queryEmbedding limit metadataFilter = (do
      let found ← ChromaTenantVectorStore.queryLookup options caller queryEmbedding limit
      let conditions ← tenantMetadataFilter metadataFilter found.1.context
      return (found.1, found.2, conditions)) := by
  unfold queryScope ChromaTenantVectorStore.queryLookup
  simp only [bind_assoc, pure_bind]

/-- The order of the results of the in-memory store. -/
def nearer (a b : VectorSearchResult) : Prop :=
  a.distance < b.distance ∨ (a.distance = b.distance ∧ a.id ≤ b.id)

instance : DecidableRel nearer := fun _ _ => inferInstanceAs (Decidable (_ ∨ _))

theorem nearer_total (a b : VectorSearchResult) : nearer a b ∨ nearer b a := by
  unfold nearer
  rcases lt_trichotomy a.distance b.distance with hlt | heq | hgt
  · exact Or.inl (Or.inl hlt)
  · rcases le_total a.id b.id with hle | hle
    · exact Or.inl (Or.inr ⟨heq, hle⟩)
    · exact Or.inr (Or.inr ⟨heq.symm, hle⟩)
  · exact Or.inr (Or.inl hgt)

theorem nearer_trans {a b c : VectorSearchResult} (hab : nearer a b) (hbc : nearer b c) :
    nearer a c := by
  unfold nearer at hab hbc ⊢
  rcases hab with hab | ⟨hab, hid⟩
  · rcases hbc with hbc | ⟨hbc, _⟩
    · exact Or.inl (hab.trans hbc)
    · exact Or.inl (hab.trans_eq hbc)
  · rcases hbc with hbc | ⟨hbc, hid'⟩
    · exact Or.inl (hab.trans_lt hbc)
    · exact Or.inr ⟨hab.trans hbc, hid.trans hid'⟩

theorem nearer.distance_le {a b : VectorSearchResult} (h : nearer a b) :
    a.distance ≤ b.distance := by
  rcases h with hlt | ⟨heq, _⟩
  · exact hlt.le
  · exact heq.le

/-- INTERNAL: at different distances there is one order only. -/
theorem nearest_eq_take {results ordered : List VectorSearchResult} (hperm : ordered.Perm results)
    (hordered : ordered.Pairwise fun a b => a.distance ≤ b.distance)
    (hties : ∀ a ∈ results, ∀ b ∈ results, a.distance = b.distance → a = b) (limit : ℤ) :
    nearest limit results = ordered.take limit.toNat := by
  have : Std.Total (nearer) := ⟨nearer_total⟩
  have : IsTrans VectorSearchResult nearer := ⟨fun _ _ _ => nearer_trans⟩
  have hsorted : (results.insertionSort fun a b =>
      a.distance < b.distance ∨ (a.distance = b.distance ∧ a.id ≤ b.id)).Pairwise
        fun a b => a.distance ≤ b.distance :=
    (List.pairwise_insertionSort nearer results).imp fun h => h.distance_le
  have hsame : (results.insertionSort fun a b =>
      a.distance < b.distance ∨ (a.distance = b.distance ∧ a.id ≤ b.id)) = ordered := by
    refine List.Perm.eq_of_pairwise (fun _ _ ha hb hab hba => ?_) hsorted hordered
      ((List.perm_insertionSort _ results).trans hperm.symm)
    exact hties _ ((List.mem_insertionSort _).mp ha) _ (hperm.mem_iff.mp hb) (le_antisymm hab hba)
  unfold nearest
  rw [hsame]

theorem metadataMatches_tenant {metadata : VectorMetadata} {metadataFilter : Option VectorMetadata}
    {context : TenantContext}
    (hconditions : tenantMetadataFilter metadataFilter context = .ok conditions)
    (hmatches : metadataMatches metadata conditions = true) :
    metadata.get? "tenant_id" = some (.str context.tenantId) := by
  unfold tenantMetadataFilter at hconditions
  simp only [bind_eq_ok_iff] at hconditions
  obtain ⟨normalized, _, _, _, hreturn⟩ := hconditions
  cases hreturn
  have hmem : ("tenant_id", MetadataScalar.str context.tenantId) ∈
      (normalized.set "tenant_id" (.str context.tenantId)).entries :=
    Dict.get?_eq_some_iff.mp (Dict.get?_set_self _ _ _)
  have hvalue := List.all_eq_true.mp hmatches _ hmem
  cases hget : metadata.get? "tenant_id" with
  | none =>
      simp only [hget] at hvalue
      cases hvalue
  | some value =>
      simp only [hget, Option.any_some] at hvalue
      cases value with
      | str s =>
          have hs : s = context.tenantId := by
            unfold MetadataScalar.pyEq at hvalue
            simpa using hvalue
          rw [hs]
      | bool b => simp [MetadataScalar.pyEq, MetadataScalar.number] at hvalue
      | int n => simp [MetadataScalar.pyEq, MetadataScalar.number] at hvalue
      | float x => simp [MetadataScalar.pyEq, MetadataScalar.number] at hvalue

/-- The hit that a record of a mirrored collection is found as. -/
def hitOf (embedding : List ℚ) (e : String × VectorRecord) : ChromaHit :=
  ⟨e.1, squaredDistance embedding e.2.fields.embedding, e.2.fields.metadata,
    e.2.fields.document.getD ""⟩

theorem matching_mapValues (collection : VectorCollection) :
    ChromaCollection.matching (collection.mapValues entryOf) embedding conditions =
      (collection.entries.filter fun e =>
        metadataMatches e.2.fields.metadata conditions).map (hitOf embedding) := by
  unfold ChromaCollection.matching Dict.mapValues
  rw [List.filter_map, List.map_map]
  rfl

theorem resultOfHit_hitOf {collection : VectorCollection} (h : Documented collection)
    {e : String × VectorRecord} (he : e ∈ collection.entries) :
    resultOfHit (hitOf embedding e) = resultOf embedding e.2 := by
  obtain ⟨hdocument, hid⟩ := h e he
  obtain ⟨text, htext⟩ := Option.ne_none_iff_exists'.mp hdocument
  unfold resultOfHit hitOf resultOf
  rw [htext, hid]
  rfl

theorem decodable_hitOf {collection : VectorCollection} (h : Documented collection)
    {e : String × VectorRecord} (he : e ∈ collection.entries) {context : TenantContext}
    (htenant : e.2.fields.metadata.get? "tenant_id" = some (.str context.tenantId)) :
    Decodable context (hitOf embedding e) := by
  have hnormal := e.2.normal
  unfold VectorRecordArgs.postInit at hnormal
  simp only [bind_eq_ok_iff] at hnormal
  obtain ⟨id, hid, _, _, _, _, metadata, hmetadata, hreturn⟩ := hnormal
  have hfields := Except.ok.inj hreturn
  have hsameId : id = e.2.fields.id := congrArg VectorRecordArgs.id hfields
  have hsameMetadata : metadata = e.2.fields.metadata :=
    congrArg VectorRecordArgs.metadata hfields
  refine ⟨?_, squaredDistance_nonneg _ _, ?_, htenant⟩
  · show normalizeVectorId e.1 = .ok e.1
    rw [← (h e he).2]
    rw [hsameId] at hid
    exact hid
  · rw [hsameMetadata] at hmetadata
    exact normalMetadata_of_normalizeMetadata hmetadata

/-- INTERNAL: what the two stores find in mirrored collections. -/
theorem found_alike (server : ChromaServer) {collection : VectorCollection} (hdocumented : Documented collection)
    {context : TenantContext} {metadataFilter : Option VectorMetadata}
    (hconditions : tenantMetadataFilter metadataFilter context = .ok conditions)
    (hcomparable : ∀ e ∈ collection.entries,
      metadataMatches e.2.fields.metadata conditions = true →
      e.2.fields.embedding.length = embedding.length ∧
        tenantIdPattern context.tenantId = true)
    (hties : ∀ a ∈ collection.entries, ∀ b ∈ collection.entries,
      metadataMatches a.2.fields.metadata conditions = true →
      metadataMatches b.2.fields.metadata conditions = true →
      squaredDistance embedding a.2.fields.embedding =
        squaredDistance embedding b.2.fields.embedding → a = b) (limit : ℤ) :
    ∃ results,
      (do
        let found ← searchRecords embedding conditions (collection.entries.map Prod.snd)
        return nearest limit found) = .ok results ∧
      (do
        let response ← server.query (collection.mapValues entryOf) embedding limit.toNat conditions
        searchResultsFromChroma response context) = .ok results := by
  have hmemory : searchRecords embedding conditions (collection.entries.map Prod.snd) =
      .ok ((collection.entries.filter fun e =>
        metadataMatches e.2.fields.metadata conditions).map fun e => resultOf embedding e.2) := by
    rw [searchRecords_eq_ok]
    · rw [List.filter_map, List.map_map]
      rfl
    · intro record hrecord hmatches
      obtain ⟨e, he, rfl⟩ := List.mem_map.mp hrecord
      exact (hcomparable e he hmatches).1
  obtain ⟨hits, hperm, hordered, hquery⟩ := server.query_nearest (collection.mapValues entryOf)
    embedding limit.toNat conditions (by
      intro e he hmatches
      obtain ⟨e', he', rfl⟩ := List.mem_map.mp he
      exact (hcomparable e' he' hmatches).1)
  rw [matching_mapValues] at hperm
  -- every hit is that of a record of the collection
  have hmem : ∀ hit ∈ hits, ∃ e ∈ collection.entries,
      metadataMatches e.2.fields.metadata conditions = true ∧ hitOf embedding e = hit := by
    intro hit hhit
    obtain ⟨e, he, hsame⟩ := List.mem_map.mp (hperm.mem_iff.mp hhit)
    rw [List.mem_filter] at he
    exact ⟨e, he.1, he.2, hsame⟩
  have hdecoded : searchResultsFromChroma (.ofHits (hits.take limit.toNat)) context =
      .ok ((hits.take limit.toNat).map resultOfHit) := by
    refine searchResultsFromChroma_eq_ok (fun hit hhit => ?_) fun hne => ?_
    · obtain ⟨e, he, hmatches, rfl⟩ := hmem hit (List.mem_of_mem_take hhit)
      exact decodable_hitOf hdocumented he (metadataMatches_tenant hconditions hmatches)
    · obtain ⟨hit, hhit⟩ := List.exists_mem_of_ne_nil _ hne
      obtain ⟨e, he, hmatches, _⟩ := hmem hit (List.mem_of_mem_take hhit)
      exact (hcomparable e he hmatches).2
  have hresults : (hits.map resultOfHit).Perm ((collection.entries.filter fun e =>
      metadataMatches e.2.fields.metadata conditions).map fun e => resultOf embedding e.2) := by
    have hmapped := hperm.map resultOfHit
    rw [List.map_map] at hmapped
    refine hmapped.trans (List.Perm.of_eq (List.map_congr_left fun e he => ?_))
    exact resultOfHit_hitOf hdocumented (List.mem_filter.mp he).1
  have hnearest := nearest_eq_take hresults
    (List.pairwise_map.mpr hordered) (by
      intro a ha b hb hdistance
      obtain ⟨e, he, rfl⟩ := List.mem_map.mp ha
      obtain ⟨e', he', rfl⟩ := List.mem_map.mp hb
      rw [List.mem_filter] at he he'
      rw [hties e he.1 e' he'.1 he.2 he'.2 hdistance]) limit
  refine ⟨(hits.take limit.toNat).map resultOfHit, ?_, ?_⟩
  · rw [hmemory]
    show Except.ok (nearest limit _) = _
    rw [hnearest, List.map_take]
  · rw [hquery]
    exact hdecoded

theorem mirrored_getOrCreate (h : Mirrored stores) (name : String) :
    Mirrored ⟨stores.memory, ChromaTenantVectorStore.getOrCreate name stores.chroma⟩ where
  entries_eq n := (chromaAt_getOrCreate stores.chroma name n).trans (h.entries_eq n)
  created := by
    intro n hn
    show Dict.get? _ n ≠ none
    rw [get?_getOrCreate]
    by_cases hname : n = name
    · rw [if_pos hname]
      exact Option.some_ne_none _
    · rw [if_neg hname]
      exact h.created n hn
  documented := h.documented

theorem stepsAlike_query (h : Mirrored stores) {caller : VectorCaller} {queryEmbedding : List ℚ}
    {limit : ℤ} {metadataFilter : Option VectorMetadata}
    (hties : NoTies options stores ⟨caller, .query queryEmbedding limit metadataFilter⟩)
    (halike : Alike options stores ⟨caller, .query queryEmbedding limit metadataFilter⟩) :
    StepsAlike stores
      (step server options stores ⟨caller, .query queryEmbedding limit metadataFilter⟩) := by
  have hscope := queryScope_eq_lookup options caller queryEmbedding limit metadataFilter
  unfold step InMemoryTenantVectorStore.step ChromaTenantVectorStore.step
  simp only
  unfold InMemoryTenantVectorStore.query ChromaTenantVectorStore.query
  cases hlookup : ChromaTenantVectorStore.queryLookup options caller queryEmbedding limit with
  | error e =>
      rw [hlookup] at hscope
      rw [hscope]
      exact stepsAlike_of_error h e
  | ok found =>
      obtain ⟨scope, embedding⟩ := found
      obtain ⟨hrefused, hcomparable⟩ := halike scope embedding hlookup
      rw [hlookup] at hscope
      cases hconditions : tenantMetadataFilter metadataFilter scope.context with
      | error e =>
          have herror : queryScope options caller queryEmbedding limit metadataFilter =
              .error e := by
            rw [hscope]
            simp only [bind, Except.bind, hconditions]
          rw [herror]
          simp only [hconditions]
          rw [getOrCreate_of_ne_none (hrefused e hconditions)]
          exact stepsAlike_of_error h e
      | ok conditions =>
          have hok : queryScope options caller queryEmbedding limit metadataFilter =
              .ok (scope, embedding, conditions) := by
            rw [hscope]
            simp only [bind, Except.bind, hconditions]
            rfl
          obtain ⟨results, hmemory, hchroma⟩ :=
            found_alike server (h.documented scope.collectionName) hconditions
              (hcomparable conditions hconditions) (hties scope embedding conditions hok) limit
          rw [← h.entries_eq, ← chromaAt_getOrCreate stores.chroma scope.collectionName] at hchroma
          unfold collectionAt at hmemory
          unfold chromaAt at hchroma
          rw [hok]
          simp only [bind, Except.bind, hconditions]
          simp only [bind, Except.bind] at hmemory hchroma
          rw [hmemory, hchroma]
          exact ⟨rfl, mirrored_getOrCreate h _, fun e he => by cases he⟩

theorem stepsAlike_step (h : Mirrored stores) {c : VectorInput}
    (hties : NoTies options stores c) (halike : Alike options stores c) :
    StepsAlike stores (step server options stores c) := by
  obtain ⟨caller, call⟩ := c
  cases call with
  | upsert records => exact stepsAlike_upsert h halike
  | query queryEmbedding limit metadataFilter => exact stepsAlike_query h hties halike

end Queries

/-! ## Runs -/

section Runs

variable {server : ChromaServer} {options : VectorStoreOptions py}

theorem mirrored_after {calls : List VectorInput}
    (hties : EachMeets (step server options) (NoTies options) Stores.empty calls)
    (halike : EachMeets (step server options) (Alike options) Stores.empty calls) :
    Mirrored (after (step server options) Stores.empty calls) := by
  induction calls using List.reverseRecOn with
  | nil => exact mirrored_empty
  | append_singleton calls c ih =>
      rw [eachMeets_append] at hties halike
      rw [after_concat]
      exact (stepsAlike_step (ih hties.1 halike.1) hties.2.1 halike.2.1).mirrored

/-- In a run of calls that both stores answer alike, they are interchangeable. -/
theorem interchangeable_of_alike (server : ChromaServer) (options : VectorStoreOptions py)
    (calls : List VectorInput)
    (hties : EachMeets (step server options) (NoTies options) Stores.empty calls)
    (halike : EachMeets (step server options) (Alike options) Stores.empty calls) :
    Interchangeable server options calls := by
  have hstep : ∀ earlier c later, calls = earlier ++ c :: later →
      StepsAlike (after (step server options) Stores.empty earlier)
        (step server options (after (step server options) Stores.empty earlier) c) := by
    rintro earlier c later rfl
    rw [eachMeets_append] at hties halike
    exact stepsAlike_step (mirrored_after hties.1 halike.1) hties.2.1 halike.2.1
  refine ⟨?_, ?_, ?_⟩
  · intro a ha
    obtain ⟨earlier, c, later, hsplit, rfl⟩ := exists_split_of_mem_answers _ ha
    exact (hstep earlier c later hsplit).same
  · intro earlier c later hsplit e he
    rw [(hstep earlier c later hsplit).kept e he]
  · intro earlier c later hsplit e he
    have hsame := (hstep earlier c later hsplit).same
    rw [(hstep earlier c later hsplit).kept e (hsame.trans he)]

end Runs

/-! ## A server -/

theorem closer_total (a b : ChromaHit) : a.distance ≤ b.distance ∨ b.distance ≤ a.distance :=
  le_total a.distance b.distance

/-- A server that sorts what it finds, whatever the lengths of the embeddings. -/
def sortingServer : ChromaServer where
  query collection embedding n conditions :=
    .ok (.ofHits (((ChromaCollection.matching collection embedding conditions).insertionSort
      fun a b => a.distance ≤ b.distance).take n))
  query_nearest := by
    intro collection embedding n conditions _
    have : Std.Total fun a b : ChromaHit => a.distance ≤ b.distance := ⟨closer_total⟩
    have : IsTrans ChromaHit fun a b => a.distance ≤ b.distance := ⟨fun _ _ _ => le_trans⟩
    exact ⟨_, List.perm_insertionSort _ _, List.pairwise_insertionSort _ _, rfl⟩

/-! ## One record and one query -/

namespace StoreSample

def context : TenantContext := ⟨"media-center", some "agent", [], none⟩

def caller : VectorCaller := ⟨some context, none, "memory"⟩

/-- A record with a document, and one without. -/
def documented : VectorRecord :=
  ⟨{ id := "record-1", embedding := [1, 0], document := some "text" }, by rfl⟩

def undocumented : VectorRecord := ⟨{ id := "record-1", embedding := [1, 0] }, by rfl⟩

def upsertOf (record : VectorRecord) : VectorInput := ⟨caller, .upsert [record]⟩

def query : VectorInput := ⟨caller, .query [1, 0] 5 none⟩

theorem memory_step (server : ChromaServer) (options : VectorStoreOptions py) (stores : Stores)
    (c : VectorInput) : (step server options stores c).2.memory =
      (InMemoryTenantVectorStore.step options stores.memory c).2 := rfl

/-- INTERNAL: the first call stores its one record, with the embedding it has. -/
theorem entries_upsertOf (server : ChromaServer) (options : VectorStoreOptions py)
    (record : VectorRecord) (name : String) :
    (collectionAt (step server options Stores.empty (upsertOf record)).2.memory
      name).entries.length ≤ 1 ∧
    ∀ e ∈ (collectionAt (step server options Stores.empty (upsertOf record)).2.memory
      name).entries, e.2.fields.embedding = record.fields.embedding := by
  have hempty : (collectionAt Stores.empty.memory name).entries = [] := rfl
  rw [memory_step]
  unfold upsertOf InMemoryTenantVectorStore.step InMemoryTenantVectorStore.upsert
  simp only
  rw [if_neg (List.cons_ne_nil record [])]
  cases upsertScope options caller with
  | error e =>
      simp only
      rw [hempty]
      exact ⟨Nat.zero_le 1, fun e he => by cases he⟩
  | ok scope =>
      simp only
      rw [collectionAt_set]
      by_cases hname : name = scope.collectionName
      · rw [if_pos hname]
        rw [upsertRecords]
        cases hmetadata : tenantMetadataForRecord record.fields.metadata scope.domain
            scope.context with
        | error e =>
            simp only [bind, Except.bind]
            exact ⟨Nat.zero_le 1, fun e he => by cases he⟩
        | ok metadata =>
            obtain ⟨stored, hfields, hstored⟩ := exists_stored hmetadata
            rw [hmetadata] at hstored
            rw [hstored]
            refine ⟨le_refl 1, fun e he => ?_⟩
            rw [List.mem_singleton.mp he, hfields]
      · rw [if_neg hname, hempty]
        exact ⟨Nat.zero_le 1, fun e he => by cases he⟩

theorem noTies (server : ChromaServer) (options : VectorStoreOptions py) (record : VectorRecord) :
    EachMeets (step server options) (NoTies options) Stores.empty [upsertOf record, query] := by
  refine ⟨trivial, ?_, trivial⟩
  intro scope embedding conditions _ a ha b hb _ _ _
  have hlength := (entries_upsertOf server options record scope.collectionName).1
  generalize (collectionAt (step server options Stores.empty (upsertOf record)).2.memory
    scope.collectionName).entries = entries at hlength ha hb
  match entries with
  | [] => cases ha
  | [only] => rw [List.mem_singleton.mp ha, List.mem_singleton.mp hb]
  | _ :: _ :: _ => simp at hlength

theorem alike (server : ChromaServer) (options : VectorStoreOptions py) :
    EachMeets (step server options) (Alike options) Stores.empty
      [upsertOf documented, query] := by
  refine ⟨?_, ?_, trivial⟩
  · intro scope _
    refine Or.inl fun record hrecord => ?_
    rw [List.mem_singleton.mp hrecord]
    exact ⟨⟨_, rfl⟩, Option.some_ne_none "text"⟩
  · intro scope embedding hlookup
    unfold ChromaTenantVectorStore.queryLookup at hlookup
    simp only [bind_eq_ok_iff] at hlookup
    obtain ⟨_, _, context', hcontext, _, _, embedding', hembedding, _, _, hreturn⟩ := hlookup
    cases hcontext
    cases hembedding
    cases hreturn
    constructor
    · intro e he
      cases he
    · intro conditions _ e he _
      rw [(entries_upsertOf server options documented _).2 e he]
      refine ⟨rfl, ?_⟩
      show tenantIdPattern "media-center" = true
      decide

/-- The documents that are found. -/
def documents (answer : VectorAnswer) : Option (List (Option String)) :=
  answer.toOption.map fun results => results.map VectorSearchResult.document

end StoreSample

/-- Records with documents are found alike in both stores. -/
theorem interchangeable_documented : Interchangeable sortingServer VectorSample.options
    [StoreSample.upsertOf StoreSample.documented, StoreSample.query] :=
  interchangeable_of_alike sortingServer VectorSample.options _
    (StoreSample.noTies sortingServer VectorSample.options StoreSample.documented)
    (StoreSample.alike sortingServer VectorSample.options)

/-- A record without a document is found with the empty one in Chroma. -/
theorem not_interchangeable : ¬ ∀ (py : Stdlib) (server : ChromaServer)
    (options : VectorStoreOptions py) (calls : List VectorInput),
    EachMeets (step server options) (NoTies options) Stores.empty calls →
    Interchangeable server options calls := by
  intro h
  have hinterchangeable := h Reference.stdlib sortingServer VectorSample.options
    [StoreSample.upsertOf StoreSample.undocumented, StoreSample.query]
    (StoreSample.noTies sortingServer VectorSample.options StoreSample.undocumented)
  have hsame := hinterchangeable.same_answers _
    (List.mem_cons_of_mem _ List.mem_cons_self)
  have hdocuments := congrArg StoreSample.documents hsame
  revert hdocuments
  decide +kernel

end MediaCenter.Shared.VectorStores
