import MediaCenter.Library.JoinedText
import MediaCenter.Model.Shared.ObjectStorage

/-!
# Keys of stored objects

A key joins the prefix of the storage, the tenant, the domain and the id of the object.  Only
the id may hold a slash, so a key says what it is the key of.
-/

set_option autoImplicit false

namespace MediaCenter.Shared.ObjectStorage

open MediaCenter.Library

/-! ## Segments -/

section Segments

variable {value label segment tenantId objectId : String}

theorem safeSegment_eq_ok_iff : safeSegment value label = .ok segment ↔
    segment = Text.strip value ∧ safeSegmentPattern segment = true := by
  unfold safeSegment
  simp only
  by_cases hpattern : safeSegmentPattern (Text.strip value) = true
  · rw [if_pos hpattern, Except.ok.injEq]
    constructor
    · rintro rfl
      exact ⟨rfl, hpattern⟩
    · rintro ⟨rfl, _⟩
      rfl
  · rw [if_neg hpattern]
    constructor
    · intro h
      cases h
    · rintro ⟨rfl, h⟩
      exact absurd h hpattern

theorem not_slash_mem_of_safeSegmentPattern (h : safeSegmentPattern segment = true) :
    '/' ∉ segment.toList := by
  intro hmem
  rcases Text.forall_of_matchesHeadTail h '/' hmem with hhead | htail
  · revert hhead
    decide
  · revert htail
    decide

theorem strip_of_safeSegment (h : safeSegment value label = .ok segment) :
    Text.strip segment = segment := by
  rw [(safeSegment_eq_ok_iff.mp h).1]
  exact Text.dropBoth_dropBoth Text.isSpace value

/-- INTERNAL: a segment is its own normal form. -/
theorem safeSegment_of_safeSegment (h : safeSegment value label = .ok segment) (label' : String) :
    safeSegment segment label' = .ok segment := by
  rw [safeSegment_eq_ok_iff, strip_of_safeSegment h]
  exact ⟨rfl, (safeSegment_eq_ok_iff.mp h).2⟩

theorem tenantPathSegment_eq_ok (h : tenantPathSegment tenantId = .ok segment) :
    segment = Text.strip tenantId ∧ segment ≠ "" ∧ '/' ∉ segment.toList ∧
      '\\' ∉ segment.toList := by
  unfold tenantPathSegment at h
  simp only at h
  split at h
  · cases h
  · rename_i hparts
    split at h
    · cases h
    · split at h
      · cases h
      · cases h
        rw [not_or, not_or] at hparts
        exact ⟨rfl, hparts⟩

theorem normalizeObjectId_eq_ok (h : normalizeObjectId objectId = .ok segment) :
    segment = Text.strip objectId ∧ segment ≠ "" ∧ segment.toList.head? ≠ some '/' ∧
      '\\' ∉ segment.toList ∧ ¬ ['/', '/'] <:+: segment.toList := by
  unfold normalizeObjectId at h
  simp only at h
  split at h
  · cases h
  · rename_i hempty
    split at h
    · cases h
    · rename_i hhead
      split at h
      · cases h
      · rename_i hdouble
        split at h
        · cases h
        · split at h
          · cases h
          · cases h
            rw [not_or] at hhead
            exact ⟨rfl, hempty, hhead.1, hhead.2, hdouble⟩

theorem strip_of_normalizeObjectId (h : normalizeObjectId objectId = .ok segment) :
    Text.strip segment = segment := by
  rw [(normalizeObjectId_eq_ok h).1]
  exact Text.dropBoth_dropBoth Text.isSpace objectId

/-- INTERNAL: so is an object id. -/
theorem normalizeObjectId_of_normalizeObjectId (h : normalizeObjectId objectId = .ok segment) :
    normalizeObjectId segment = .ok segment := by
  have hsegment := (normalizeObjectId_eq_ok h).1
  have hstrip := strip_of_normalizeObjectId h
  unfold normalizeObjectId at h ⊢
  rw [← hsegment] at h
  rw [hstrip]
  exact h

end Segments

/-! ## Joined keys -/

/-- The prefix of the keys of a tenant's domain. -/
def domainPrefix (tenantPrefix tenant domain : String) : String :=
  tenantPrefix ++ "/" ++ tenant ++ "/" ++ domain ++ "/"

/-- A key, and what it is the key of. -/
structure KeyOf (options : StorageOptions) (tenant domain objectId key : String) : Prop where
  tenant_normal : tenantPathSegment tenant = .ok tenant
  domain_normal : safeSegment domain "domain" = .ok domain
  objectId_normal : normalizeObjectId objectId = .ok objectId
  key_eq : key = domainPrefix options.tenantPrefix tenant domain ++ objectId

section Keys

variable {options : StorageOptions} {caller : StorageCaller} {context : TenantContext}
  {tenant tenant' domain domain' objectId objectId' key objectPrefix : String}

theorem tenantPathSegment_of_tenantPathSegment {tenantId : String}
    (h : tenantPathSegment tenantId = .ok tenant) : tenantPathSegment tenant = .ok tenant := by
  have htenant := (tenantPathSegment_eq_ok h).1
  have hstrip : Text.strip tenant = tenant := by
    rw [htenant]
    exact Text.dropBoth_dropBoth Text.isSpace tenantId
  unfold tenantPathSegment at h ⊢
  rw [← htenant] at h
  rw [hstrip]
  exact h

theorem buildTenantObjectPrefix_some_eq_ok_iff :
    buildTenantObjectPrefix (some domain) caller options.tenantPrefix = .ok objectPrefix ↔
      ∃ context tenant domain', resolveContext caller.context caller.current = .ok context ∧
        tenantPathSegment context.tenantId = .ok tenant ∧
        safeSegment domain "domain" = .ok domain' ∧
        objectPrefix = domainPrefix options.tenantPrefix tenant domain' := by
  unfold buildTenantObjectPrefix
  simp only [bind_eq_ok_iff, options.tenantPrefix_valid, Except.ok.injEq]
  constructor
  · rintro ⟨context, hcontext, _, rfl, tenant, htenant, domain', hdomain, hreturn⟩
    exact ⟨context, tenant, domain', hcontext, htenant, hdomain, (Except.ok.inj hreturn).symm⟩
  · rintro ⟨context, tenant, domain', hcontext, htenant, hdomain, rfl⟩
    exact ⟨context, hcontext, _, rfl, tenant, htenant, domain', hdomain, rfl⟩

/-- INTERNAL: what a built key is the key of. -/
theorem buildTenantObjectKey_eq_ok
    (h : buildTenantObjectKey domain objectId caller options.tenantPrefix = .ok key) :
    ∃ context, resolveContext caller.context caller.current = .ok context ∧
      KeyOf options (Text.strip context.tenantId) (Text.strip domain) (Text.strip objectId) key := by
  unfold buildTenantObjectKey at h
  simp only [bind_eq_ok_iff] at h
  obtain ⟨objectPrefix, hstem, normalizedObjectId, hobjectId, hreturn⟩ := h
  cases hreturn
  obtain ⟨context, tenant, domain', hcontext, htenant, hdomain, rfl⟩ :=
    buildTenantObjectPrefix_some_eq_ok_iff.mp hstem
  refine ⟨context, hcontext, ?_⟩
  rw [← (tenantPathSegment_eq_ok htenant).1, ← (safeSegment_eq_ok_iff.mp hdomain).1,
    ← (normalizeObjectId_eq_ok hobjectId).1]
  exact ⟨tenantPathSegment_of_tenantPathSegment htenant, safeSegment_of_safeSegment hdomain _,
    normalizeObjectId_of_normalizeObjectId hobjectId, rfl⟩

theorem toList_domainPrefix (tenantPrefix tenant domain : String) :
    (domainPrefix tenantPrefix tenant domain).toList =
      tenantPrefix.toList ++ '/' :: (tenant.toList ++ '/' :: (domain.toList ++ ['/'])) := by
  unfold domainPrefix
  simp only [String.toList_append]
  have hslash : "/".toList = ['/'] := by decide
  rw [hslash]
  simp

/-- INTERNAL: prefixes of domains that continue to the same key are the same. -/
theorem domainPrefix_inj (htenant : '/' ∉ tenant.toList) (htenant' : '/' ∉ tenant'.toList)
    (hdomain : '/' ∉ domain.toList) (hdomain' : '/' ∉ domain'.toList)
    {tenantPrefix rest rest' : String}
    (h : domainPrefix tenantPrefix tenant domain ++ rest =
      domainPrefix tenantPrefix tenant' domain' ++ rest') :
    tenant = tenant' ∧ domain = domain' ∧ rest = rest' := by
  rw [← String.toList_inj, String.toList_append, String.toList_append, toList_domainPrefix,
    toList_domainPrefix] at h
  simp only [List.append_assoc, List.cons_append, List.nil_append,
    List.append_cancel_left_eq, List.cons.injEq, true_and] at h
  obtain ⟨htenants, hinner⟩ := JoinedText.parts_eq_of_not_mem_left htenant htenant' h
  obtain ⟨hdomains, hrest⟩ := JoinedText.parts_eq_of_not_mem_left hdomain hdomain' hinner
  exact ⟨String.toList_inj.mp htenants, String.toList_inj.mp hdomains, String.toList_inj.mp hrest⟩

theorem KeyOf.not_slash_mem (h : KeyOf options tenant domain objectId key) :
    '/' ∉ tenant.toList ∧ '/' ∉ domain.toList :=
  ⟨(tenantPathSegment_eq_ok h.tenant_normal).2.2.1,
    not_slash_mem_of_safeSegmentPattern (safeSegment_eq_ok_iff.mp h.domain_normal).2⟩

theorem KeyOf.inj (h : KeyOf options tenant domain objectId key)
    (h' : KeyOf options tenant' domain' objectId' key) :
    tenant = tenant' ∧ domain = domain' ∧ objectId = objectId' := by
  obtain ⟨htenant, hdomain⟩ := h.not_slash_mem
  obtain ⟨htenant', hdomain'⟩ := h'.not_slash_mem
  exact domainPrefix_inj htenant htenant' hdomain hdomain' (h.key_eq.symm.trans h'.key_eq)

theorem startsWith_iff {text textPrefix : String} :
    startsWith text textPrefix = true ↔ ∃ rest, text = textPrefix ++ rest := by
  unfold startsWith
  rw [List.isPrefixOf_iff_prefix]
  constructor
  · rintro ⟨rest, hrest⟩
    refine ⟨String.ofList rest, ?_⟩
    rw [← String.toList_inj, String.toList_append, String.toList_ofList, hrest]
  · rintro ⟨rest, rfl⟩
    rw [String.toList_append]
    exact List.prefix_append _ _

theorem removePrefix_append (textPrefix rest : String) :
    removePrefix (textPrefix ++ rest) textPrefix = rest := by
  unfold removePrefix
  rw [if_pos (startsWith_iff.mpr ⟨rest, rfl⟩), String.toList_append, List.drop_left,
    String.ofList_toList]

/-- A key is listed under the prefix of a domain exactly when it is a key of that domain. -/
theorem KeyOf.startsWith_iff (h : KeyOf options tenant domain objectId key)
    (htenant' : '/' ∉ tenant'.toList) (hdomain' : '/' ∉ domain'.toList) (objectPrefix : String) :
    startsWith key (domainPrefix options.tenantPrefix tenant' domain' ++ objectPrefix) = true ↔
      tenant = tenant' ∧ domain = domain' ∧ startsWith objectId objectPrefix = true := by
  obtain ⟨htenant, hdomain⟩ := h.not_slash_mem
  rw [ObjectStorage.startsWith_iff, ObjectStorage.startsWith_iff, h.key_eq]
  constructor
  · rintro ⟨rest, hrest⟩
    rw [String.append_assoc] at hrest
    obtain ⟨rfl, rfl, hobject⟩ := domainPrefix_inj htenant htenant' hdomain hdomain' hrest
    exact ⟨rfl, rfl, rest, hobject⟩
  · rintro ⟨rfl, rfl, rest, rfl⟩
    exact ⟨rest, by rw [String.append_assoc]⟩

end Keys

/-! ## What the calls work out -/

section Scopes

variable {options : StorageOptions} {caller : StorageCaller}

theorem objectScope_eq_ok {domain objectId : String} {scope : ObjectScope}
    (h : objectScope options caller domain objectId = .ok scope) :
    resolveContext caller.context caller.current = .ok scope.context ∧
      KeyOf options (Text.strip scope.context.tenantId) scope.domain scope.objectId scope.key := by
  unfold objectScope at h
  simp only [bind_eq_ok_iff] at h
  obtain ⟨context, hcontext, domain', hdomain, objectId', hobjectId, key, hkey, hreturn⟩ := h
  cases hreturn
  obtain ⟨context', hcontext', hkeyOf⟩ := buildTenantObjectKey_eq_ok hkey
  cases hcontext'
  rw [strip_of_safeSegment hdomain, strip_of_normalizeObjectId hobjectId] at hkeyOf
  exact ⟨hcontext, hkeyOf⟩

theorem objectToPut_eq_ok {args : PutArgs} {scope : ObjectScope} {object : S3Object}
    (h : objectToPut options caller args = .ok (scope, object)) :
    resolveContext caller.context caller.current = .ok scope.context ∧
      KeyOf options (Text.strip scope.context.tenantId) scope.domain scope.objectId scope.key ∧
      normalizeContentType args.contentType = .ok object.contentType ∧
      tenantMetadataForObject args.metadata args.body scope.domain scope.context =
        .ok object.metadata ∧ object.body = args.body := by
  unfold objectToPut at h
  simp only [bind_eq_ok_iff] at h
  obtain ⟨context, hcontext, domain', hdomain, objectId', hobjectId, contentType, hcontentType,
    key, hkey, metadata, hmetadata, hreturn⟩ := h
  cases hreturn
  obtain ⟨context', hcontext', hkeyOf⟩ := buildTenantObjectKey_eq_ok hkey
  cases hcontext'
  rw [strip_of_safeSegment hdomain, strip_of_normalizeObjectId hobjectId] at hkeyOf
  exact ⟨hcontext, hkeyOf, hcontentType, hmetadata, rfl⟩

theorem listScope_eq_ok {domain objectPrefix : String} {scope : ListScope}
    (h : listScope options caller domain objectPrefix = .ok scope) :
    ∃ tenant objectPrefix', resolveContext caller.context caller.current = .ok scope.context ∧
      tenantPathSegment scope.context.tenantId = .ok tenant ∧
      safeSegment domain "domain" = .ok scope.domain ∧
      normalizeOptionalObjectPrefix objectPrefix = .ok objectPrefix' ∧
      scope.domainPrefix = domainPrefix options.tenantPrefix tenant scope.domain ∧
      scope.keyPrefix = scope.domainPrefix ++ objectPrefix' := by
  unfold listScope at h
  simp only [bind_eq_ok_iff] at h
  obtain ⟨context, hcontext, domain', hdomain, objectPrefix', hstem, built, hbuilt, hreturn⟩ := h
  cases hreturn
  obtain ⟨context', tenant, domain'', hcontext', htenant, hdomain'', rfl⟩ :=
    buildTenantObjectPrefix_some_eq_ok_iff.mp hbuilt
  cases hcontext'
  rw [safeSegment_of_safeSegment hdomain] at hdomain''
  cases hdomain''
  exact ⟨tenant, objectPrefix', hcontext, htenant, hdomain, hstem, rfl, rfl⟩

end Scopes

/-! ## Listed keys -/

section Listing

variable {α : Type} {objects objects' : Dict String α} {keyPrefix key : String}

theorem mem_keysWithPrefix : key ∈ keysWithPrefix objects keyPrefix ↔
    objects.contains key = true ∧ startsWith key keyPrefix = true := by
  unfold keysWithPrefix
  rw [List.mem_filter, List.mem_insertionSort, Dict.contains_iff_mem]

/-- The keys come in ascending order, each of them once. -/
theorem sortedLT_keysWithPrefix (objects : Dict String α) (keyPrefix : String) :
    (keysWithPrefix objects keyPrefix).SortedLT := by
  unfold keysWithPrefix
  apply List.Pairwise.sortedLT
  apply List.Pairwise.filter
  have hsorted := (List.sortedLE_insertionSort (l := objects.entries.map Prod.fst)).pairwise
  have hnodup : ((objects.entries.map Prod.fst).insertionSort (· ≤ ·)).Nodup :=
    (List.perm_insertionSort _ _).nodup_iff.mpr objects.nodup
  exact (hsorted.and hnodup).imp fun h => lt_of_le_of_ne h.1 h.2

/-- INTERNAL: a listing reads nothing but which keys with the prefix there are. -/
theorem keysWithPrefix_congr {β : Type} {objects' : Dict String β}
    (h : ∀ key, startsWith key keyPrefix = true → objects.contains key = objects'.contains key) :
    keysWithPrefix objects keyPrefix = keysWithPrefix objects' keyPrefix := by
  apply (sortedLT_keysWithPrefix objects keyPrefix).eq_of_mem_iff
    (sortedLT_keysWithPrefix objects' keyPrefix)
  intro key
  rw [mem_keysWithPrefix, mem_keysWithPrefix]
  constructor
  · rintro ⟨hkey, hstarts⟩
    exact ⟨(h key hstarts) ▸ hkey, hstarts⟩
  · rintro ⟨hkey, hstarts⟩
    exact ⟨(h key hstarts).symm ▸ hkey, hstarts⟩

end Listing

end MediaCenter.Shared.ObjectStorage
