import MediaCenter.Analysis.Shared.ObjectKeys
import MediaCenter.Library.Unwinding
import MediaCenter.Model.Shared.Reference

/-!
# What a storage keeps

The metadata of a stored object is normal but for its values: the correlation id goes in without
a look.  A reference is made after its object is stored, and is refused for such a value.
-/

set_option autoImplicit false

namespace MediaCenter.Shared.ObjectStorage

open MediaCenter.Library

/-! ## Metadata -/

/-- A text that a metadata value may be. -/
def Plain (s : String) : Prop := s.toList.any isControl = false

instance (s : String) : Decidable (Plain s) := inferInstanceAs (Decidable (_ = _))

def NormalKeys (metadata : ObjectMetadata) : Prop :=
  ∀ e ∈ metadata.entries, metadataKeyPattern e.1 = true ∧ lowerKey e.1 = e.1

def PlainValues (metadata : ObjectMetadata) : Prop := ∀ e ∈ metadata.entries, Plain e.2

section Metadata

variable {metadata normalized : ObjectMetadata} {key value : String}

theorem plain_of_forall_visible (h : ∀ c ∈ value.toList, Text.Visible c) : Plain value := by
  unfold Plain
  rw [List.any_eq_false]
  intro c hc
  have hvisible := (h c hc).1
  unfold isControl
  rw [decide_eq_true_eq]
  omega

theorem normalizeMetadataEntry_eq_ok_iff {e e' : String × String} :
    normalizeMetadataEntry e = .ok e' ↔
      metadataKeyPattern e.1 = true ∧ Plain e.2 ∧ e' = (lowerKey e.1, e.2) := by
  unfold normalizeMetadataEntry Plain
  simp only [bind_eq_ok_iff, refuseIf_eq_ok_iff, not_not]
  constructor
  · rintro ⟨_, hkey, _, hvalue, hreturn⟩
    exact ⟨hkey, Bool.eq_false_of_not_eq_true hvalue, (Except.ok.inj hreturn).symm⟩
  · rintro ⟨hkey, hvalue, rfl⟩
    exact ⟨(), hkey, (), Bool.not_eq_true _ ▸ hvalue, rfl⟩

theorem isAsciiAlnum_lowerLatin1 {c : Char} (h : Text.isAsciiAlnum c = true) :
    Text.isAsciiAlnum (Text.lowerLatin1 c) = true := by
  have hnat := Text.toNat_lowerLatin1 c
  unfold Text.isAsciiAlnum Text.isAsciiUpper Text.isAsciiLower Text.isAsciiDigit at h ⊢
  simp only [Bool.or_eq_true, Bool.and_eq_true, decide_eq_true_eq, Char.le_def,
    UInt32.le_iff_toNat_le] at h ⊢
  have hval : ∀ d : Char, d.val.toNat = d.toNat := fun d => rfl
  rw [hval, hval, hval] at h ⊢
  have h65 : 'A'.toNat = 65 := rfl
  have h90 : 'Z'.toNat = 90 := rfl
  have h97 : 'a'.toNat = 97 := rfl
  have h122 : 'z'.toNat = 122 := rfl
  have h48 : '0'.toNat = 48 := rfl
  have h57 : '9'.toNat = 57 := rfl
  simp only [hval, h65, h90, h97, h122, h48, h57] at h ⊢
  split at hnat
  · omega
  · omega

theorem lowerLatin1_of_not_alnum {c : Char} (h : c = '_' ∨ c = '.' ∨ c = '-') :
    Text.lowerLatin1 c = c := by
  rcases h with rfl | rfl | rfl
  · decide
  · decide
  · decide

theorem metadataKeyPattern_lowerKey (h : metadataKeyPattern key = true) :
    metadataKeyPattern (lowerKey key) = true := by
  unfold metadataKeyPattern Text.matchesHeadTail lowerKey at *
  rw [String.toList_ofList]
  cases hl : key.toList with
  | nil =>
      rw [hl] at h
      cases h
  | cons c cs =>
      rw [hl] at h
      simp only [Bool.and_eq_true, decide_eq_true_eq, List.all_eq_true, List.map_cons,
        List.length_map, List.mem_map, forall_exists_index, and_imp,
        forall_apply_eq_imp_iff₂] at h ⊢
      refine ⟨⟨isAsciiAlnum_lowerLatin1 h.1.1, ?_⟩, h.2⟩
      intro d hd
      have hclass := h.1.2 d hd
      simp only [Bool.or_eq_true, beq_iff_eq, or_assoc] at hclass
      rcases hclass with halnum | hother
      · rw [isAsciiAlnum_lowerLatin1 halnum]
        rfl
      · rw [lowerLatin1_of_not_alnum hother]
        rcases hother with rfl | rfl | rfl
        · decide
        · decide
        · decide

theorem lowerKey_lowerKey (key : String) : lowerKey (lowerKey key) = lowerKey key := by
  unfold lowerKey
  rw [String.toList_ofList, List.map_map]
  congr 1
  apply List.map_congr_left
  intro c _
  exact Text.lowerLatin1_lowerLatin1 c

/-- INTERNAL: what stands in normalized metadata. -/
theorem normalizeMetadata_eq_ok (h : normalizeMetadata metadata = .ok normalized) :
    NormalKeys normalized ∧ PlainValues normalized := by
  unfold normalizeMetadata at h
  simp only [bind_eq_ok_iff] at h
  obtain ⟨entries, hentries, hreturn⟩ := h
  cases hreturn
  have hentry : ∀ e ∈ (Dict.ofList entries).entries,
      (metadataKeyPattern e.1 = true ∧ lowerKey e.1 = e.1) ∧ Plain e.2 := by
    intro e he
    obtain ⟨e', _, hnormal⟩ := exists_of_mem_mapM hentries (Dict.mem_of_mem_entries_ofList he)
    obtain ⟨hkey, hvalue, rfl⟩ := normalizeMetadataEntry_eq_ok_iff.mp hnormal
    exact ⟨⟨metadataKeyPattern_lowerKey hkey, lowerKey_lowerKey _⟩, hvalue⟩
  exact ⟨fun e he => (hentry e he).1, fun e he => (hentry e he).2⟩

/-- INTERNAL: of metadata with normal keys only the values are refused. -/
theorem normalizeMetadata_of_normalKeys (hkeys : NormalKeys metadata)
    (hvalues : PlainValues metadata) : normalizeMetadata metadata = .ok metadata := by
  unfold normalizeMetadata
  have hentries : metadata.entries.mapM normalizeMetadataEntry =
      .ok (metadata.entries.map id) := by
    apply mapM_eq_ok_map
    intro e he
    obtain ⟨hkey, hlower⟩ := hkeys e he
    rw [normalizeMetadataEntry_eq_ok_iff]
    refine ⟨hkey, hvalues e he, ?_⟩
    rw [hlower]
    rfl
  rw [hentries, List.map_id]
  show Except.ok (Dict.ofList metadata.entries) = .ok metadata
  rw [Dict.ofList_entries]

theorem exists_normalizeMetadata_iff (hkeys : NormalKeys metadata) :
    (∃ normalized, normalizeMetadata metadata = .ok normalized) ↔ PlainValues metadata := by
  constructor
  · rintro ⟨normalized, h⟩
    unfold normalizeMetadata at h
    simp only [bind_eq_ok_iff] at h
    obtain ⟨entries, hentries, _⟩ := h
    intro e he
    obtain ⟨e', hnormal⟩ :=
      (exists_mapM_eq_ok_iff normalizeMetadataEntry metadata.entries).mp ⟨entries, hentries⟩ e he
    exact (normalizeMetadataEntry_eq_ok_iff.mp hnormal).2.1
  · intro hvalues
    exact ⟨metadata, normalizeMetadata_of_normalKeys hkeys hvalues⟩

theorem forall_mem_entries_set {P : String × String → Prop}
    (h : ∀ e ∈ metadata.entries, P e) (hnew : P (key, value)) :
    ∀ e ∈ (metadata.set key value).entries, P e := by
  intro e he
  have hget : (metadata.set key value).get? e.1 = some e.2 := Dict.get?_eq_some_iff.mpr he
  rw [Dict.get?_set] at hget
  split at hget
  · rename_i hkey
    rw [Option.some.injEq] at hget
    have hsame : e = (key, value) := Prod.ext hkey hget.symm
    rw [hsame]
    exact hnew
  · exact h e (Dict.get?_eq_some_iff.mp hget)

end Metadata

/-! ## The metadata of an object -/

/-- The correlation id may stand in metadata. -/
def PlainCorrelation (context : TenantContext) : Prop :=
  ∀ correlationId, context.correlationId = some correlationId → Plain correlationId

theorem plain_contentHash (body : Bytes) :
    Plain (Sha.hexdigest (Sha.sha256 (body.map UInt8.toNat))) := by
  have hhex := Reference.auditHashPattern_hexdigest
    (Reference.length_sha256 (body.map UInt8.toNat))
  unfold auditHashPattern at hhex
  rw [Bool.and_eq_true, List.all_eq_true] at hhex
  apply plain_of_forall_visible
  intro c hc
  exact visible_of_isHexChar (hhex.2 c hc)

/-- Metadata with what `_tenant_metadata_for_object` sets in it. -/
def tagged (metadata : ObjectMetadata) (body : Bytes) (domain : String) (context : TenantContext) :
    ObjectMetadata :=
  let named := ((metadata.set "tenant_id" context.tenantId).set "domain" domain).set "content_hash"
    (Sha.hexdigest (Sha.sha256 (body.map UInt8.toNat)))
  match context.correlationId with
  | some correlationId => named.set "correlation_id" correlationId
  | none => named

section Tags

variable {given : Option ObjectMetadata} {body : Bytes} {domain : String}
  {context : TenantContext} {metadata : ObjectMetadata}

theorem exists_tagged_of_tenantMetadataForObject
    (h : tenantMetadataForObject given body domain context = .ok metadata) :
    ∃ normalized, normalizeMetadata (given.getD Dict.empty) = .ok normalized ∧
      metadata = tagged normalized body domain context := by
  unfold tenantMetadataForObject at h
  simp only [bind_eq_ok_iff] at h
  obtain ⟨normalized, hnormalized, hreturn⟩ := h
  refine ⟨normalized, hnormalized, ?_⟩
  cases hrequested : normalized.get? "tenant_id" with
  | none =>
      rw [hrequested] at hreturn
      exact (Except.ok.inj hreturn).symm
  | some requestedTenantId =>
      rw [hrequested] at hreturn
      simp only [bind_eq_ok_iff] at hreturn
      obtain ⟨_, _, hreturn⟩ := hreturn
      exact (Except.ok.inj hreturn).symm

theorem tenantMetadataForObject_eq_ok
    (h : tenantMetadataForObject given body domain context = .ok metadata) :
    NormalKeys metadata ∧ metadata.get? "tenant_id" = some context.tenantId ∧
      (Plain context.tenantId → Plain domain → PlainCorrelation context →
        PlainValues metadata) := by
  have hkeys : ∀ key ∈ ["tenant_id", "domain", "content_hash", "correlation_id"],
      metadataKeyPattern key = true ∧ lowerKey key = key := by decide
  simp only [List.forall_mem_cons] at hkeys
  obtain ⟨normalized, hnormalized, hmade⟩ := exists_tagged_of_tenantMetadataForObject h
  obtain ⟨hnormalKeys, hplain⟩ := normalizeMetadata_eq_ok hnormalized
  have hthree : ∀ {P : String × String → Prop}, (∀ e ∈ normalized.entries, P e) →
      P ("tenant_id", context.tenantId) → P ("domain", domain) →
      P ("content_hash", Sha.hexdigest (Sha.sha256 (body.map UInt8.toNat))) →
      ∀ e ∈ (((normalized.set "tenant_id" context.tenantId).set "domain" domain).set
        "content_hash" (Sha.hexdigest (Sha.sha256 (body.map UInt8.toNat)))).entries, P e := by
    intro P hall htenant hdomain hhash
    exact forall_mem_entries_set (forall_mem_entries_set
      (forall_mem_entries_set hall htenant) hdomain) hhash
  have hthreeKeys := hthree hnormalKeys hkeys.1 hkeys.2.1 hkeys.2.2.1
  have htenantId : (((normalized.set "tenant_id" context.tenantId).set "domain" domain).set
      "content_hash" (Sha.hexdigest (Sha.sha256 (body.map UInt8.toNat)))).get? "tenant_id" =
        some context.tenantId := by
    rw [Dict.get?_set, if_neg (by decide), Dict.get?_set, if_neg (by decide), Dict.get?_set,
      if_pos rfl]
  unfold tagged at hmade
  simp only at hmade
  generalize ((normalized.set "tenant_id" context.tenantId).set "domain" domain).set
    "content_hash" (Sha.hexdigest (Sha.sha256 (body.map UInt8.toNat))) = named at *
  cases hcorrelation : context.correlationId with
  | none =>
      rw [hcorrelation] at hmade
      subst hmade
      refine ⟨hthreeKeys, htenantId, ?_⟩
      intro htenant hdomain _
      exact hthree hplain htenant hdomain (plain_contentHash body)
  | some correlationId =>
      rw [hcorrelation] at hmade
      subst hmade
      refine ⟨forall_mem_entries_set hthreeKeys hkeys.2.2.2.1, ?_, ?_⟩
      · rw [Dict.get?_set, if_neg (by decide), htenantId]
      · intro htenant hdomain hplainCorrelation
        exact forall_mem_entries_set (hthree hplain htenant hdomain (plain_contentHash body))
          (hplainCorrelation correlationId hcorrelation)

end Tags

/-! ## Writes -/

/-- What a call writes: an object under a key, or that there is none. -/
def writes (options : StorageOptions) (call : StorageCall) : Option (String × Option S3Object) :=
  match call.request with
  | .putObject args =>
      match objectToPut options call.caller args with
      | .error _ => none
      | .ok (scope, object) => some (scope.key, some object)
  | .deleteObject domain objectId =>
      match buildTenantObjectKey domain objectId call.caller options.tenantPrefix with
      | .error _ => none
      | .ok key => some (key, none)
  | _ => none

/-- The object under a key: what the last call that wrote to it left there. -/
def objectAt (options : StorageOptions) (calls : List StorageCall) (key : String) :
    Option S3Object :=
  ((calls.filterMap (writes options)).reverse.find? fun write => write.1 = key).bind Prod.snd

section Writes

variable {options : StorageOptions} {calls : List StorageCall} {call : StorageCall}
  {key : String} {object : S3Object}

theorem objectAt_concat (options : StorageOptions) (calls : List StorageCall) (call : StorageCall)
    (key : String) : objectAt options (calls ++ [call]) key =
      match writes options call with
      | some (key', object) => if key' = key then object else objectAt options calls key
      | none => objectAt options calls key := by
  unfold objectAt
  rw [List.filterMap_append, List.filterMap_cons]
  cases hwrites : writes options call with
  | none => rw [List.filterMap_nil, List.append_nil]
  | some write =>
      obtain ⟨key', object⟩ := write
      rw [List.filterMap_nil, List.reverse_append, List.reverse_singleton, List.singleton_append,
        List.find?_cons]
      by_cases hkey : key' = key
      · simp [hkey]
      · simp [hkey]

/-- A state that keeps, under each key, a form of the object at that key. -/
def Holds {α : Type} (options : StorageOptions) (calls : List StorageCall) (form : S3Object → α)
    (objects : Dict String α) : Prop :=
  ∀ key, objects.get? key = (objectAt options calls key).map form

theorem Holds.of_writes {α : Type} {form : S3Object → α} {objects objects' : Dict String α}
    (h : Holds options calls form objects)
    (hwrites : ∀ key, objects'.get? key = match writes options call with
      | some (key', object) => if key' = key then object.map form else objects.get? key
      | none => objects.get? key) :
    Holds options (calls ++ [call]) form objects' := by
  intro key
  rw [hwrites, objectAt_concat, h key]
  cases writes options call with
  | none => rfl
  | some write =>
      obtain ⟨key', object⟩ := write
      by_cases hkey : key' = key
      · simp [hkey]
      · simp [hkey]

namespace InMemoryTenantObjectStorage

/-- The form in which an object is stored. -/
def stored (md5Hex : Bytes → String) (object : S3Object) : StoredObject :=
  ⟨object.body, object.contentType, object.metadata, md5Hex object.body⟩

theorem get?_step (md5Hex : Bytes → String) (options : StorageOptions)
    (objects : Dict String StoredObject) (call : StorageCall) (key : String) :
    (step md5Hex options objects call).2.get? key = match writes options call with
      | some (key', object) =>
          if key' = key then object.map (stored md5Hex) else objects.get? key
      | none => objects.get? key := by
  unfold step writes
  cases call.request with
  | putObject args =>
      simp only [putObject]
      cases hput : objectToPut options call.caller args with
      | error e => rfl
      | ok put => exact (Dict.get?_set _ _ _ _).trans (if_congr eq_comm rfl rfl)
  | getObject domain objectId => rfl
  | listObjects domain objectPrefix => rfl
  | deleteObject domain objectId =>
      simp only [deleteObject]
      cases hkey : buildTenantObjectKey domain objectId call.caller options.tenantPrefix with
      | error e => rfl
      | ok key' => exact (Dict.get?_erase _ _ _).trans (if_congr eq_comm rfl rfl)

theorem holds_after (md5Hex : Bytes → String) (options : StorageOptions)
    (calls : List StorageCall) : Holds options calls (stored md5Hex)
      (after (step md5Hex options) Dict.empty calls) := by
  induction calls using List.reverseRecOn with
  | nil => exact fun key => rfl
  | append_singleton calls call ih =>
      rw [after_concat]
      exact ih.of_writes (get?_step md5Hex options _ call)

end InMemoryTenantObjectStorage

namespace S3TenantObjectStorage

theorem get?_step (client : S3Client) (options : StorageOptions)
    (objects : Dict String S3Object) (call : StorageCall) (key : String) :
    (step client options objects call).2.get? key = match writes options call with
      | some (key', object) => if key' = key then object.map id else objects.get? key
      | none => objects.get? key := by
  unfold step writes
  cases call.request with
  | putObject args =>
      simp only [putObject]
      cases hput : objectToPut options call.caller args with
      | error e => rfl
      | ok put => exact (Dict.get?_set _ _ _ _).trans (if_congr eq_comm rfl rfl)
  | getObject domain objectId => rfl
  | listObjects domain objectPrefix => rfl
  | deleteObject domain objectId =>
      simp only [deleteObject]
      cases hkey : buildTenantObjectKey domain objectId call.caller options.tenantPrefix with
      | error e => rfl
      | ok key' => exact (Dict.get?_erase _ _ _).trans (if_congr eq_comm rfl rfl)

theorem holds_after (client : S3Client) (options : StorageOptions) (calls : List StorageCall) :
    Holds options calls id (after (step client options) Dict.empty calls) := by
  induction calls using List.reverseRecOn with
  | nil => exact fun key => rfl
  | append_singleton calls call ih =>
      rw [after_concat]
      exact ih.of_writes (get?_step client options _ call)

end S3TenantObjectStorage

/-! ## Objects in use -/

/-- The call puts an object with the context. -/
def PutsUnder (call : StorageCall) (context : TenantContext) : Prop :=
  ∃ args, call.request = .putObject args ∧
    resolveContext call.caller.context call.caller.current = .ok context

/-- The object was put under the key with the context. -/
structure StoredBy (options : StorageOptions) (context : TenantContext) (key : String)
    (object : S3Object) : Prop where
  keyOf : ∃ domain objectId, KeyOf options (Text.strip context.tenantId) domain objectId key
  contentType : Text.strip object.contentType ≠ ""
  normalKeys : NormalKeys object.metadata
  tenantId : object.metadata.get? "tenant_id" = some context.tenantId
  plainValues : Plain context.tenantId → PlainCorrelation context → PlainValues object.metadata

theorem strip_ne_empty_of_normalizeContentType {given contentType : String}
    (h : normalizeContentType given = .ok contentType) : Text.strip contentType ≠ "" := by
  unfold normalizeContentType at h
  simp only at h
  split at h
  · cases h
  · rename_i hchecked
    cases h
    rw [not_or] at hchecked
    have hstrip : Text.strip (Text.strip given) = Text.strip given :=
      Text.dropBoth_dropBoth Text.isSpace given
    rw [hstrip]
    exact hchecked.1

theorem plain_of_safeSegment {value label segment : String}
    (h : safeSegment value label = .ok segment) : Plain segment := by
  apply plain_of_forall_visible
  intro c hc
  rcases Text.forall_of_matchesHeadTail (safeSegment_eq_ok_iff.mp h).2 c hc with hhead | htail
  · exact Text.visible_of_isAsciiAlnum hhead
  · simp only [Bool.or_eq_true, beq_iff_eq, or_assoc] at htail
    rcases htail with halnum | rfl | rfl | rfl
    · exact Text.visible_of_isAsciiAlnum halnum
    · unfold Text.Visible; decide
    · unfold Text.Visible; decide
    · unfold Text.Visible; decide

theorem storedBy_of_objectToPut {caller : StorageCaller} {args : PutArgs} {scope : ObjectScope}
    (h : objectToPut options caller args = .ok (scope, object)) :
    StoredBy options scope.context scope.key object := by
  obtain ⟨_, hkeyOf, hcontentType, hmetadata, _⟩ := objectToPut_eq_ok h
  obtain ⟨hnormalKeys, htenantId, hplain⟩ := tenantMetadataForObject_eq_ok hmetadata
  refine ⟨⟨_, _, hkeyOf⟩, strip_ne_empty_of_normalizeContentType hcontentType, hnormalKeys,
    htenantId, ?_⟩
  intro htenant hcorrelation
  exact hplain htenant (plain_of_safeSegment hkeyOf.domain_normal) hcorrelation

/-- Every object in use was put by one of the calls. -/
theorem exists_storedBy (h : objectAt options calls key = some object) :
    ∃ call ∈ calls, ∃ context, PutsUnder call context ∧ StoredBy options context key object := by
  induction calls using List.reverseRecOn with
  | nil => cases h
  | append_singleton calls call ih =>
      have hearlier : objectAt options calls key = some object →
          ∃ call' ∈ calls ++ [call], ∃ context, PutsUnder call' context ∧
            StoredBy options context key object := by
        intro h
        obtain ⟨call', hcall', hstored⟩ := ih h
        exact ⟨call', List.mem_append_left _ hcall', hstored⟩
      rw [objectAt_concat] at h
      cases hwrites : writes options call with
      | none =>
          rw [hwrites] at h
          exact hearlier h
      | some write =>
          obtain ⟨key', object'⟩ := write
          rw [hwrites] at h
          simp only at h
          split at h
          · rename_i hkey
            subst hkey
            subst h
            refine ⟨call, by simp, ?_⟩
            unfold writes at hwrites
            split at hwrites
            · rename_i args hrequest
              split at hwrites
              · cases hwrites
              · rename_i scope put hput
                cases hwrites
                exact ⟨scope.context, ⟨args, hrequest, (objectToPut_eq_ok hput).1⟩,
                  storedBy_of_objectToPut hput⟩
            · split at hwrites
              · cases hwrites
              · cases hwrites
            · cases hwrites
          · exact hearlier h

end Writes

/-! ## References -/

namespace TenantObjectReference

/-- A reference as S3 lists it. -/
def listed (reference : TenantObjectReference) : TenantObjectReference :=
  { reference with contentType := none, metadata := Dict.empty, etag := none }

/-- INTERNAL: of an object that is all right the reference is refused for its key alone. -/
theorem postInit_eq {args : TenantObjectReference}
    (hcontentType : ∀ contentType, args.contentType = some contentType →
      Text.strip contentType ≠ "")
    (hkeys : NormalKeys args.metadata) (hvalues : PlainValues args.metadata) :
    args.postInit = (fun reference => { reference with
      contentType := args.contentType
      metadata := args.metadata
      etag := args.etag }) <$> args.listed.postInit := by
  have hnone : ¬ args.contentType.any (fun contentType => Text.strip contentType = "") = true := by
    rw [Option.any_eq_true]
    rintro ⟨contentType, hsome, hempty⟩
    exact hcontentType contentType hsome (of_decide_eq_true hempty)
  have hempty : normalizeMetadata Dict.empty = .ok Dict.empty := rfl
  unfold postInit listed
  simp only [normalizeMetadata_of_normalKeys hkeys hvalues, hempty, Option.any_none, refuseIf,
    if_neg hnone, Bool.false_eq_true, if_false]
  cases validateS3BucketName args.bucket with
  | error e => rfl
  | ok bucket =>
      cases normalizeKey args.key "key" with
      | error e => rfl
      | ok key =>
          cases safeSegment args.domain "domain" with
          | error e => rfl
          | ok domain =>
              cases normalizeObjectId args.objectId with
              | error e => rfl
              | ok objectId => rfl

theorem plainValues_of_postInit {args reference : TenantObjectReference}
    (hkeys : NormalKeys args.metadata) (h : args.postInit = .ok reference) :
    PlainValues args.metadata := by
  unfold postInit at h
  simp only [bind_eq_ok_iff] at h
  obtain ⟨_, _, _, _, _, _, _, _, _, _, metadata, hmetadata, _⟩ := h
  exact (exists_normalizeMetadata_iff hkeys).mp ⟨metadata, hmetadata⟩

end TenantObjectReference

end MediaCenter.Shared.ObjectStorage
