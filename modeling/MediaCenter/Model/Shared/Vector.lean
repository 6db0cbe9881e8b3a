import Mathlib.Algebra.BigOperators.Group.List.Basic
import Mathlib.Algebra.Order.Ring.Rat
import MediaCenter.Library.Dict
import MediaCenter.Model.Shared.Tenant

/-!
# The tenant vector store (`libs/shared/vector.py`)

Records are kept in one collection for each tenant and domain.  The name of a collection joins
four segments; whatever a name cannot hold is replaced in a segment, which then ends with a part
of its hash.  Embeddings and distances are exact rationals.
-/

set_option autoImplicit false

namespace MediaCenter.Shared

open MediaCenter.Library

/-! ## Metadata -/

inductive MetadataScalar : Type where
  | bool (b : Bool)
  | int (n : ℤ)
  | float (x : ℚ)
  | str (s : String)
  deriving DecidableEq

namespace MetadataScalar

def number : MetadataScalar → Option ℚ
  | .bool b => some (if b = true then 1 else 0)
  | .int n => some n
  | .float x => some x
  | .str _ => none

/-- `==`: truth values and numbers are compared as numbers. -/
def pyEq (a b : MetadataScalar) : Bool :=
  match a, b with
  | .str s, .str t => s = t
  | a, b => a.number.isSome && a.number = b.number

end MetadataScalar

abbrev VectorMetadata : Type := Dict String MetadataScalar

/-- `_normalize_metadata_key`. -/
def normalizeMetadataKey (key label : String) : Except SharedException String :=
  let normalized := Text.strip key
  if normalized = "" then .error (.valueError (label ++ " не должен содержать пустой ключ"))
  else if normalized.toList.any Text.isSpace = true then
    .error (.valueError (label ++ "." ++ normalized ++ " не должен содержать пробелы"))
  else .ok normalized

/-- `_normalize_metadata`. -/
def normalizeMetadata (metadata : VectorMetadata) (label : String) :
    Except SharedException VectorMetadata := do
  let entries ← metadata.entries.mapM fun e => do
    let normalizedKey ← normalizeMetadataKey e.1 label
    return (normalizedKey, e.2)
  return Dict.ofList entries

/-- `_metadata_matches`. -/
def metadataMatches (metadata expected : VectorMetadata) : Bool :=
  expected.entries.all fun e => (metadata.get? e.1).any fun value => value.pyEq e.2

/-! ## Records -/

/-- A text without white space: `_normalize_vector_id` and `_normalize_domain`. -/
def normalizeWord (label value : String) : Except SharedException String :=
  let normalized := Text.strip value
  if normalized = "" then .error (.valueError (label ++ " должен быть непустой строкой"))
  else if normalized.toList.any Text.isSpace = true then
    .error (.valueError (label ++ " не должен содержать пробелы"))
  else .ok normalized

/-- `_normalize_vector_id`. -/
def normalizeVectorId (value : String) : Except SharedException String := normalizeWord "id" value

/-- `_normalize_domain`. -/
def normalizeDomain (domain : String) : Except SharedException String :=
  normalizeWord "domain" domain

/-- `_normalize_embedding`, of numbers. -/
def normalizeEmbedding (embedding : List ℚ) (label : String) :
    Except SharedException (List ℚ) :=
  if embedding = [] then
    .error (.valueError (label ++ " должен быть непустым числовым вектором"))
  else .ok embedding

/-- The arguments of `VectorRecord`. -/
structure VectorRecordArgs where
  id : String
  embedding : List ℚ
  document : Option String := none
  metadata : VectorMetadata := Dict.empty

/-- `VectorRecord.__post_init__`. -/
def VectorRecordArgs.postInit (args : VectorRecordArgs) :
    Except SharedException VectorRecordArgs := do
  let normalizedId ← normalizeVectorId args.id
  let normalizedEmbedding ← normalizeEmbedding args.embedding "embedding"
  refuseIf (args.document.any (fun text => Text.strip text = "") = true)
    (.valueError "document должен быть непустой строкой")
  let normalizedMetadata ← normalizeMetadata args.metadata "metadata"
  return ⟨normalizedId, normalizedEmbedding, args.document, normalizedMetadata⟩

theorem normalizeWord_eq_ok_iff {label value word : String} :
    normalizeWord label value = .ok word ↔
      word = Text.strip value ∧ word ≠ "" ∧ ∀ c ∈ word.toList, Text.isSpace c = false := by
  unfold normalizeWord
  simp only
  by_cases hempty : Text.strip value = ""
  · rw [if_pos hempty]
    constructor
    · intro h
      cases h
    · rintro ⟨rfl, hne, _⟩
      exact absurd hempty hne
  · rw [if_neg hempty]
    by_cases hspace : (Text.strip value).toList.any Text.isSpace = true
    · rw [if_pos hspace]
      constructor
      · intro h
        cases h
      · rintro ⟨rfl, _, hnone⟩
        obtain ⟨c, hc, hcs⟩ := List.any_eq_true.mp hspace
        rw [hnone c hc] at hcs
        cases hcs
    · rw [if_neg hspace, Except.ok.injEq]
      constructor
      · rintro rfl
        refine ⟨rfl, hempty, fun c hc => ?_⟩
        by_contra hcs
        exact hspace (List.any_eq_true.mpr ⟨c, hc, by simpa using hcs⟩)
      · rintro ⟨rfl, _⟩
        rfl

theorem normalizeWord_idem {label label' value word : String}
    (h : normalizeWord label value = .ok word) : normalizeWord label' word = .ok word := by
  rw [normalizeWord_eq_ok_iff] at h ⊢
  obtain ⟨rfl, hne, hspace⟩ := h
  exact ⟨(Text.strip_strip value).symm, hne, hspace⟩

theorem normalizeMetadataKey_idem {label label' key normalized : String}
    (h : normalizeMetadataKey key label = .ok normalized) :
    normalizeMetadataKey normalized label' = .ok normalized := by
  unfold normalizeMetadataKey at h ⊢
  simp only at h ⊢
  by_cases hempty : Text.strip key = ""
  · rw [if_pos hempty] at h
    cases h
  · rw [if_neg hempty] at h
    by_cases hspace : (Text.strip key).toList.any Text.isSpace = true
    · rw [if_pos hspace] at h
      cases h
    · rw [if_neg hspace] at h
      cases h
      rw [Text.strip_strip, if_neg hempty, if_neg hspace]

theorem normalizeMetadataKey_of_visible {key : String} (hne : key ≠ "")
    (hvisible : ∀ c ∈ key.toList, Text.Visible c) (label : String) :
    normalizeMetadataKey key label = .ok key := by
  have hspace : ¬ key.toList.any Text.isSpace = true := by
    rw [List.any_eq_true]
    rintro ⟨c, hc, hspace⟩
    rw [(hvisible c hc).isSpace] at hspace
    cases hspace
  unfold normalizeMetadataKey
  simp only
  rw [Text.strip_of_forall_visible hvisible, if_neg hne, if_neg hspace]

theorem normalizeMetadataKey_tenantId (label : String) :
    normalizeMetadataKey "tenant_id" label = .ok "tenant_id" :=
  normalizeMetadataKey_of_visible (by decide) (by unfold Text.Visible; decide) label

theorem normalizeMetadataKey_domain (label : String) :
    normalizeMetadataKey "domain" label = .ok "domain" :=
  normalizeMetadataKey_of_visible (by decide) (by unfold Text.Visible; decide) label

/-- Metadata as the constructors leave it. -/
def NormalMetadata (metadata : VectorMetadata) : Prop :=
  ∀ e ∈ metadata.entries, ∀ label, normalizeMetadataKey e.1 label = .ok e.1

theorem NormalMetadata.normalizeMetadata_eq {metadata : VectorMetadata}
    (h : NormalMetadata metadata) (label : String) :
    normalizeMetadata metadata label = .ok metadata := by
  have hentries : (metadata.entries.mapM fun e => do
      let normalizedKey ← normalizeMetadataKey e.1 label
      return (normalizedKey, e.2) : Except SharedException _) = .ok (metadata.entries.map id) :=
    mapM_eq_ok_map fun e he => by
      rw [h e he label]
      rfl
  unfold normalizeMetadata
  rw [hentries, List.map_id]
  exact congrArg Except.ok (Dict.ofList_entries metadata)

theorem normalMetadata_of_normalizeMetadata {metadata normalized : VectorMetadata}
    {label : String} (h : normalizeMetadata metadata label = .ok normalized) :
    NormalMetadata normalized := by
  unfold normalizeMetadata at h
  rw [bind_eq_ok_iff] at h
  obtain ⟨entries, hentries, hreturn⟩ := h
  cases hreturn
  intro e he label'
  obtain ⟨e', _, hkey⟩ := exists_of_mem_mapM hentries (Dict.mem_of_mem_entries_ofList he)
  rw [bind_eq_ok_iff] at hkey
  obtain ⟨normalizedKey, hnormal, hreturn⟩ := hkey
  cases hreturn
  exact normalizeMetadataKey_idem hnormal

theorem NormalMetadata.set {metadata : VectorMetadata} (h : NormalMetadata metadata)
    {key : String} (hkey : ∀ label, normalizeMetadataKey key label = .ok key)
    (value : MetadataScalar) : NormalMetadata (Dict.set metadata key value) := by
  intro e he label
  have hget : (Dict.set metadata key value).get? e.1 = some e.2 := Dict.get?_eq_some_iff.mpr he
  rw [Dict.get?_set] at hget
  by_cases hsame : e.1 = key
  · rw [hsame]
    exact hkey label
  · rw [if_neg hsame] at hget
    exact h e (Dict.get?_eq_some_iff.mp hget) label

theorem VectorRecordArgs.postInit_idem {args args' : VectorRecordArgs}
    (h : args.postInit = .ok args') : args'.postInit = .ok args' := by
  unfold postInit at h ⊢
  simp only [bind_eq_ok_iff, refuseIf_eq_ok_iff] at h ⊢
  obtain ⟨id, hid, embedding, hembedding, _, hdocument, metadata, hmetadata, hreturn⟩ := h
  cases hreturn
  refine ⟨id, normalizeWord_idem hid, embedding, ?_, (), hdocument, metadata,
    (normalMetadata_of_normalizeMetadata hmetadata).normalizeMetadata_eq _, rfl⟩
  unfold normalizeEmbedding at hembedding ⊢
  by_cases hnil : args.embedding = []
  · rw [if_pos hnil] at hembedding
    cases hembedding
  · rw [if_neg hnil] at hembedding
    cases hembedding
    exact if_neg hnil

/-- `VectorRecord`: its fields are as `__post_init__` leaves them. -/
structure VectorRecord where
  fields : VectorRecordArgs
  normal : fields.postInit = .ok fields

def VectorRecord.make (args : VectorRecordArgs) : Except SharedException VectorRecord :=
  match h : args.postInit with
  | .error e => .error e
  | .ok fields => .ok ⟨fields, VectorRecordArgs.postInit_idem h⟩

theorem VectorRecord.make_of_postInit {args : VectorRecordArgs} (h : args.postInit = .ok args) :
    VectorRecord.make args = .ok ⟨args, h⟩ := by
  unfold VectorRecord.make
  split
  · rename_i e he
    rw [h] at he
    cases he
  · rename_i fields hfields
    have hsame := hfields
    rw [h] at hsame
    cases hsame
    rfl

/-- `VectorSearchResult`. -/
structure VectorSearchResult where
  id : String
  distance : ℚ
  metadata : VectorMetadata
  document : Option String

/-- `VectorSearchResult.__post_init__`. -/
def VectorSearchResult.make (id : String) (distance : ℚ) (metadata : VectorMetadata)
    (document : Option String) : Except SharedException VectorSearchResult := do
  let normalizedId ← normalizeVectorId id
  refuseIf (distance < 0) (.valueError "distance должен быть неотрицательным числом")
  let normalizedMetadata ← normalizeMetadata metadata "metadata"
  return ⟨normalizedId, distance, normalizedMetadata, document⟩

/-! ## Names of collections -/

/-- `[A-Za-z0-9_-]`. -/
def isCollectionChar (c : Char) : Bool := Text.isAsciiAlnum c || c == '_' || c == '-'

/-- `_COLLECTION_UNSAFE_PATTERN.sub("_", value)`: one underscore for a run of other characters;
`replaced` says that the run has begun. -/
def replaceUnsafe : Bool → List Char → List Char
  | _, [] => []
  | replaced, c :: rest =>
      if isCollectionChar c = true then c :: replaceUnsafe false rest
      else if replaced = true then replaceUnsafe true rest
      else '_' :: replaceUnsafe true rest

/-- `_collection_segment`. -/
def collectionSegment (py : Stdlib) (value label : String) : Except SharedException String := do
  let normalized ← normalizeWord label value
  let safe := Text.dropBoth (· == '_') (String.ofList (replaceUnsafe false normalized.toList))
  refuseIf (safe = "")
    (.valueError (label ++ " должен содержать символы для имени коллекции"))
  let safe := if safe = normalized then safe
    else String.ofList (safe.toList.take 80) ++ "_" ++
      String.ofList ((py.sha256Hex normalized).toList.take 12)
  return String.ofList (safe.toList.take 96)

/-- What a store is configured with: two segments. -/
structure VectorStoreOptions (py : Stdlib) where
  collectionPrefix : String
  environment : String
  collectionPrefix_segment :
    ∃ value, collectionSegment py value "collection_prefix" = .ok collectionPrefix
  environment_segment : ∃ value, collectionSegment py value "environment" = .ok environment

/-- `build_tenant_vector_collection_name`. -/
def buildTenantVectorCollectionName (py : Stdlib) (domain : String) (context : TenantContext)
    (collectionPrefix environment : String) : Except SharedException String := do
  let normalizedDomain ← normalizeDomain domain
  let prefixSegment ← collectionSegment py collectionPrefix "collection_prefix"
  let environmentSegment ← collectionSegment py environment "environment"
  let tenantSegment ← collectionSegment py context.tenantId "tenant_id"
  let domainSegment ← collectionSegment py normalizedDomain "domain"
  return prefixSegment ++ "_" ++ environmentSegment ++ "_" ++ tenantSegment ++ "_" ++
    domainSegment

/-! ## Tenant scope of metadata -/

/-- The tenant id in metadata, if there is one, must be that of the context. -/
def assertMetadataTenant (metadata : VectorMetadata) (context : TenantContext)
    (message : String) : Except SharedException Unit :=
  match metadata.get? "tenant_id" with
  | none => .ok ()
  | some (.str requestedTenantId) => assertRequestedTenant requestedTenantId context
  | some _ => .error (.tenantIsolation message context.correlationId)

/-- `_tenant_metadata_for_record`. -/
def tenantMetadataForRecord (metadata : VectorMetadata) (domain : String)
    (context : TenantContext) : Except SharedException VectorMetadata := do
  let normalizedMetadata ← normalizeMetadata metadata "metadata"
  assertMetadataTenant normalizedMetadata context
    "tenant_id в vector metadata имеет недопустимый формат"
  return (normalizedMetadata.set "tenant_id" (.str context.tenantId)).set "domain" (.str domain)

/-- `_tenant_metadata_filter`. -/
def tenantMetadataFilter (metadataFilter : Option VectorMetadata) (context : TenantContext) :
    Except SharedException VectorMetadata := do
  let normalizedFilter ← normalizeMetadata (metadataFilter.getD Dict.empty) "metadata_filter"
  assertMetadataTenant normalizedFilter context
    "tenant_id в vector filter имеет недопустимый формат"
  return normalizedFilter.set "tenant_id" (.str context.tenantId)

/-- `_squared_l2_distance`. -/
def squaredL2Distance (left right : List ℚ) : Except SharedException ℚ :=
  if left.length ≠ right.length then
    .error (.valueError "Размерность vector embedding не совпадает с query")
  else .ok ((List.zipWith (fun l r => (l - r) ^ 2) left right).sum)

/-! ## The in-memory store -/

abbrev VectorCollection : Type := Dict String VectorRecord

/-- The collections of `InMemoryTenantVectorStore`, by name. -/
abbrev VectorCollections : Type := Dict String VectorCollection

/-- Who calls a store, and for which domain. -/
structure VectorCaller where
  context : Option TenantContext
  current : Option TenantContext
  domain : String

/-- The context, the domain and the collection of a call. -/
structure VectorScope where
  context : TenantContext
  domain : String
  collectionName : String

namespace InMemoryTenantVectorStore

variable {py : Stdlib}

def collectionName (options : VectorStoreOptions py) (domain : String)
    (context : TenantContext) : Except SharedException String :=
  buildTenantVectorCollectionName py domain context options.collectionPrefix
    options.environment

/-- The loop of `upsert`: a record that is refused ends it, with what was stored before. -/
def upsertRecords (domain : String) (context : TenantContext) :
    List VectorRecord → VectorCollection → Except SharedException Unit × VectorCollection
  | [], collection => (.ok (), collection)
  | record :: records, collection =>
      let stored : Except SharedException VectorRecord := do
        let enrichedMetadata ← tenantMetadataForRecord record.fields.metadata domain context
        VectorRecord.make { record.fields with metadata := enrichedMetadata }
      match stored with
      | .error e => (.error e, collection)
      | .ok stored =>
          upsertRecords domain context records (collection.set record.fields.id stored)

/-- What `upsert` works out before it looks at the records. -/
def upsertScope (options : VectorStoreOptions py) (caller : VectorCaller) :
    Except SharedException VectorScope := do
  let context ← resolveContext caller.context caller.current
  let normalizedDomain ← normalizeDomain caller.domain
  let name ← collectionName options normalizedDomain context
  return ⟨context, normalizedDomain, name⟩

/-- `upsert`. -/
def upsert (options : VectorStoreOptions py) (caller : VectorCaller)
    (records : List VectorRecord) (collections : VectorCollections) :
    Except SharedException Unit × VectorCollections :=
  if records = [] then
    (.error (.valueError "records должен содержать хотя бы одну запись"), collections)
  else
    match upsertScope options caller with
    | .error e => (.error e, collections)
    | .ok scope =>
        let collection := (collections.get? scope.collectionName).getD Dict.empty
        let r := upsertRecords scope.domain scope.context records collection
        (r.1, collections.set scope.collectionName r.2)

/-- The loop of `query`. -/
def searchRecords (embedding : List ℚ) (metadataWhere : VectorMetadata) :
    List VectorRecord → Except SharedException (List VectorSearchResult)
  | [] => .ok []
  | record :: records =>
      if metadataMatches record.fields.metadata metadataWhere = true then do
        let distance ← squaredL2Distance embedding record.fields.embedding
        let result ← VectorSearchResult.make record.fields.id distance record.fields.metadata
          record.fields.document
        let results ← searchRecords embedding metadataWhere records
        return result :: results
      else searchRecords embedding metadataWhere records

/-- `sorted(results, key=lambda result: (result.distance, result.id))[:limit]`. -/
def nearest (limit : ℤ) (results : List VectorSearchResult) : List VectorSearchResult :=
  (results.insertionSort fun a b =>
    a.distance < b.distance ∨ (a.distance = b.distance ∧ a.id ≤ b.id)).take limit.toNat

/-- What `query` works out before it reads the collection. -/
def queryScope (options : VectorStoreOptions py) (caller : VectorCaller)
    (queryEmbedding : List ℚ) (limit : ℤ) (metadataFilter : Option VectorMetadata) :
    Except SharedException (VectorScope × List ℚ × VectorMetadata) := do
  refuseIf (limit ≤ 0) (.valueError "limit должен быть положительным")
  let context ← resolveContext caller.context caller.current
  let normalizedDomain ← normalizeDomain caller.domain
  let normalizedEmbedding ← normalizeEmbedding queryEmbedding "query_embedding"
  let name ← collectionName options normalizedDomain context
  let metadataWhere ← tenantMetadataFilter metadataFilter context
  return (⟨context, normalizedDomain, name⟩, normalizedEmbedding, metadataWhere)

/-- `query`; it changes nothing. -/
def query (options : VectorStoreOptions py) (caller : VectorCaller) (queryEmbedding : List ℚ)
    (limit : ℤ) (metadataFilter : Option VectorMetadata) (collections : VectorCollections) :
    Except SharedException (List VectorSearchResult) := do
  let (scope, embedding, metadataWhere) ←
    queryScope options caller queryEmbedding limit metadataFilter
  let collection := (collections.get? scope.collectionName).getD Dict.empty
  let results ← searchRecords embedding metadataWhere (collection.entries.map Prod.snd)
  return nearest limit results

end InMemoryTenantVectorStore

/-! ## Calls -/

inductive VectorCall : Type where
  | upsert (records : List VectorRecord)
  | query (queryEmbedding : List ℚ) (limit : ℤ) (metadataFilter : Option VectorMetadata)

structure VectorInput where
  caller : VectorCaller
  call : VectorCall

/-- `upsert` returns nothing. -/
abbrev VectorAnswer : Type := Except SharedException (List VectorSearchResult)

def InMemoryTenantVectorStore.step {py : Stdlib} (options : VectorStoreOptions py)
    (collections : VectorCollections) (c : VectorInput) : VectorAnswer × VectorCollections :=
  match c.call with
  | .upsert records =>
      let r := upsert options c.caller records collections
      (r.1.map fun _ => [], r.2)
  | .query queryEmbedding limit metadataFilter =>
      (query options c.caller queryEmbedding limit metadataFilter collections, collections)

end MediaCenter.Shared
