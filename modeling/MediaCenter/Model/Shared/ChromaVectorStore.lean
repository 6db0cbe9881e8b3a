import MediaCenter.Model.Shared.Vector

/-!
# The vector store over ChromaDB (`libs/shared/vector.py`, `ChromaTenantVectorStore`)

Of a Chroma collection it is assumed that it maps ids to entries, is updated with a whole batch
at once, and answers a query with the nearest of the entries that match.
-/

set_option autoImplicit false

namespace MediaCenter.Shared

open MediaCenter.Library

structure ChromaEntry where
  embedding : List ℚ
  metadata : VectorMetadata
  document : String

abbrev ChromaCollection : Type := Dict String ChromaEntry

abbrev ChromaCollections : Type := Dict String ChromaCollection

/-- An entry that a query finds. -/
structure ChromaHit where
  id : String
  distance : ℚ
  metadata : VectorMetadata
  document : String

/-- The first row of each column of a response. -/
structure ChromaResponse where
  ids : List String
  distances : List ℚ
  documents : List (Option String)
  metadatas : List (Option VectorMetadata)

def ChromaResponse.ofHits (hits : List ChromaHit) : ChromaResponse :=
  ⟨hits.map ChromaHit.id, hits.map ChromaHit.distance, hits.map fun hit => some hit.document,
    hits.map fun hit => some hit.metadata⟩

/-- The sum of the squared differences of two embeddings. -/
def squaredDistance (left right : List ℚ) : ℚ :=
  (List.zipWith (fun l r => (l - r) ^ 2) left right).sum

/-- The entries that match the conditions of a query, with their distances. -/
def ChromaCollection.matching (collection : ChromaCollection) (embedding : List ℚ)
    (conditions : VectorMetadata) : List ChromaHit :=
  (collection.entries.filter fun e => metadataMatches e.2.metadata conditions).map fun e =>
    ⟨e.1, squaredDistance embedding e.2.embedding, e.2.metadata, e.2.document⟩

/-- How Chroma answers queries.  Nothing is assumed of embeddings of different lengths, nor of
the order of entries at the same distance. -/
structure ChromaServer where
  query : ChromaCollection → List ℚ → ℕ → VectorMetadata →
    Except SharedException ChromaResponse
  query_nearest : ∀ collection embedding n conditions,
    (∀ e ∈ collection.entries, metadataMatches e.2.metadata conditions = true →
      e.2.embedding.length = embedding.length) →
    ∃ hits : List ChromaHit,
      hits.Perm (ChromaCollection.matching collection embedding conditions) ∧
      (hits.Pairwise fun a b => a.distance ≤ b.distance) ∧
      query collection embedding n conditions = .ok (.ofHits (hits.take n))

/-- `collection.upsert`, with its columns. -/
def ChromaCollection.upsert (ids : List String) (embeddings : List (List ℚ))
    (metadatas : List VectorMetadata) (documents : List String)
    (collection : ChromaCollection) : ChromaCollection :=
  (ids.zip (embeddings.zip (metadatas.zip documents))).foldl
    (fun collection row => Dict.set collection row.1 ⟨row.2.1, row.2.2.1, row.2.2.2⟩) collection

/-! ## Responses -/

/-- `_metadata_at`. -/
def metadataAt (rows : List (Option VectorMetadata)) (index : ℕ) :
    Except SharedException VectorMetadata :=
  match rows[index]? with
  | none => .ok Dict.empty
  | some none => .ok Dict.empty
  | some (some row) => normalizeMetadata row "metadata"

/-- `_distance_at`. -/
def distanceAt (rows : List ℚ) (index : ℕ) : ℚ := (rows[index]?).getD 0

/-- `_document_at`. -/
def documentAt (rows : List (Option String)) (index : ℕ) : Option String :=
  (rows[index]?).bind id

/-- One result of `_search_results_from_chroma`. -/
def searchResultAt (response : ChromaResponse) (context : TenantContext) (index : ℕ)
    (rawId : String) : Except SharedException VectorSearchResult := do
  let metadata ← metadataAt response.metadatas index
  match metadata.get? "tenant_id" with
  | some (.str requestedTenantId) =>
      assertRequestedTenant requestedTenantId context
      VectorSearchResult.make rawId (distanceAt response.distances index) metadata
        (documentAt response.documents index)
  | _ => .error (.tenantIsolation "ChromaDB вернула vector metadata без tenant_id"
      context.correlationId)

/-- `_search_results_from_chroma`. -/
def searchResultsFromChroma (response : ChromaResponse) (context : TenantContext) :
    Except SharedException (List VectorSearchResult) :=
  (response.ids.zipIdx).mapM fun row => searchResultAt response context row.2 row.1

/-! ## The store -/

namespace ChromaTenantVectorStore

variable {py : Stdlib}

/-- `client.get_or_create_collection`. -/
def getOrCreate (name : String) (collections : ChromaCollections) : ChromaCollections :=
  match collections.get? name with
  | some _ => collections
  | none => collections.set name Dict.empty

/-- `upsert`; its scope is worked out as in memory. -/
def upsert (options : VectorStoreOptions py) (caller : VectorCaller)
    (records : List VectorRecord) (collections : ChromaCollections) :
    Except SharedException Unit × ChromaCollections :=
  if records = [] then
    (.error (.valueError "records должен содержать хотя бы одну запись"), collections)
  else
    match InMemoryTenantVectorStore.upsertScope options caller with
    | .error e => (.error e, collections)
    | .ok scope =>
        let created := getOrCreate scope.collectionName collections
        match records.mapM fun record => tenantMetadataForRecord record.fields.metadata
            scope.domain scope.context with
        | .error e => (.error e, created)
        | .ok metadatas =>
            let collection := (created.get? scope.collectionName).getD Dict.empty
            (.ok (), created.set scope.collectionName
              (ChromaCollection.upsert (records.map fun record => record.fields.id)
                (records.map fun record => record.fields.embedding) metadatas
                (records.map fun record => record.fields.document.getD "") collection))

/-- What `query` works out before it looks the collection up. -/
def queryLookup (options : VectorStoreOptions py) (caller : VectorCaller)
    (queryEmbedding : List ℚ) (limit : ℤ) : Except SharedException (VectorScope × List ℚ) := do
  refuseIf (limit ≤ 0) (.valueError "limit должен быть положительным")
  let context ← resolveContext caller.context caller.current
  let normalizedDomain ← normalizeDomain caller.domain
  let normalizedEmbedding ← normalizeEmbedding queryEmbedding "query_embedding"
  let name ← InMemoryTenantVectorStore.collectionName options normalizedDomain context
  return (⟨context, normalizedDomain, name⟩, normalizedEmbedding)

/-- `query`; the collection is created before the filter is looked at. -/
def query (server : ChromaServer) (options : VectorStoreOptions py) (caller : VectorCaller)
    (queryEmbedding : List ℚ) (limit : ℤ) (metadataFilter : Option VectorMetadata)
    (collections : ChromaCollections) :
    Except SharedException (List VectorSearchResult) × ChromaCollections :=
  match queryLookup options caller queryEmbedding limit with
  | .error e => (.error e, collections)
  | .ok (scope, embedding) =>
      let created := getOrCreate scope.collectionName collections
      let collection := (created.get? scope.collectionName).getD Dict.empty
      let results : Except SharedException (List VectorSearchResult) := do
        let metadataWhere ← tenantMetadataFilter metadataFilter scope.context
        let response ← server.query collection embedding limit.toNat metadataWhere
        searchResultsFromChroma response scope.context
      (results, created)

def step (server : ChromaServer) (options : VectorStoreOptions py)
    (collections : ChromaCollections) (c : VectorInput) : VectorAnswer × ChromaCollections :=
  match c.call with
  | .upsert records =>
      let r := upsert options c.caller records collections
      (r.1.map fun _ => [], r.2)
  | .query queryEmbedding limit metadataFilter =>
      query server options c.caller queryEmbedding limit metadataFilter collections

end ChromaTenantVectorStore

end MediaCenter.Shared
