import MediaCenter.Analysis.Shared.StoredObjects

/-!
# Two object storages

The storage in memory and the one on S3 write the same objects.  Their answers differ in what S3
does not tell: the entity tag is its own, a listing has neither content types nor metadata, and a
delete does not say whether there was an object.
-/

set_option autoImplicit false

namespace MediaCenter.Shared.ObjectStorage

open MediaCenter.Library

def TenantObjectReference.withoutEtag (reference : TenantObjectReference) :
    TenantObjectReference :=
  { reference with etag := none }

/-- The answers agree up to the entity tag.  `listing` says how a listed reference is given on
S3, and `removal` what is said there of a delete. -/
inductive AnswersAgree (listing : TenantObjectReference → TenantObjectReference)
    (removal : Bool → Bool) :
    Except SharedException StorageAnswer → Except SharedException StorageAnswer → Prop
  | refused (e e' : SharedException) : AnswersAgree listing removal (.error e) (.error e')
  | reference (r r' : TenantObjectReference) (h : r.withoutEtag = r'.withoutEtag) :
      AnswersAgree listing removal (.ok (.reference r)) (.ok (.reference r'))
  | absent : AnswersAgree listing removal (.ok (.object none)) (.ok (.object none))
  | object (r r' : TenantObjectReference) (body : Bytes) (h : r.withoutEtag = r'.withoutEtag) :
      AnswersAgree listing removal (.ok (.object (some ⟨r, body⟩)))
        (.ok (.object (some ⟨r', body⟩)))
  | references (l l' : List TenantObjectReference)
      (h : l.map listing = l'.map TenantObjectReference.withoutEtag) :
      AnswersAgree listing removal (.ok (.references l)) (.ok (.references l'))
  | removed (b : Bool) :
      AnswersAgree listing removal (.ok (.removed b)) (.ok (.removed (removal b)))

/-- The context of the call, if it has one, has a tenant id as tokens carry them. -/
def Verified (call : StorageCall) : Prop :=
  ∀ context, resolveContext call.caller.context call.caller.current = .ok context →
    tenantIdPattern context.tenantId = true

/-- A call that puts an object has no control characters in its correlation id. -/
def PutsPlainly (call : StorageCall) : Prop :=
  ∀ context, PutsUnder call context → PlainCorrelation context

section Agreement

variable {md5Hex : Bytes → String} {client : S3Client} {options : StorageOptions}
  {calls : List StorageCall} {objects : Dict String InMemoryTenantObjectStorage.StoredObject}
  {objects' : Dict String S3Object} {caller : StorageCaller}
  {listing : TenantObjectReference → TenantObjectReference} {removal : Bool → Bool}

theorem plain_of_tenantIdPattern {tenantId : String} (h : tenantIdPattern tenantId = true) :
    Plain tenantId :=
  plain_of_forall_visible (visible_of_tokenPattern (tokenPattern_of_tenantIdPattern h))

theorem strip_of_tenantIdPattern {tenantId : String} (h : tenantIdPattern tenantId = true) :
    Text.strip tenantId = tenantId :=
  Text.strip_of_forall_visible (visible_of_tokenPattern (tokenPattern_of_tenantIdPattern h))

theorem assertMetadataTenant_of_get? {metadata : ObjectMetadata} {context : TenantContext}
    (htenant : tenantIdPattern context.tenantId = true)
    (hmetadata : metadata.get? "tenant_id" = some context.tenantId) :
    assertMetadataTenant metadata context = .ok () := by
  unfold assertMetadataTenant assertRequestedTenant validatedTenantId
  rw [hmetadata]
  simp only [if_pos htenant, bind, Except.bind, ne_eq, not_true_eq_false, if_false]
  rfl

/-- INTERNAL: the entity tag goes into a reference as it is. -/
theorem postInit_etag (args : TenantObjectReference) (etag : Option String) :
    ({ args with etag := etag } : TenantObjectReference).postInit =
      (fun reference => { reference with etag := etag }) <$> args.withoutEtag.postInit := by
  unfold TenantObjectReference.postInit TenantObjectReference.withoutEtag
  simp only
  cases validateS3BucketName args.bucket with
  | error e => rfl
  | ok bucket =>
      cases normalizeKey args.key "key" with
      | error e => rfl
      | ok key =>
          cases safeSegment args.domain "domain" with
          | error e => rfl
          | ok domain =>
              cases normalizeObjectId args.objectId with
              | error e => rfl
              | ok objectId =>
                  unfold refuseIf
                  split
                  · rfl
                  · cases normalizeMetadata args.metadata with
                    | error e => rfl
                    | ok metadata => rfl

theorem putObject_agrees (args : PutArgs)
    (hverified : ∀ context, resolveContext caller.context caller.current = .ok context →
      tenantIdPattern context.tenantId = true) :
    AnswersAgree listing removal
      (InMemoryTenantObjectStorage.putObject md5Hex options caller args objects).1
      (S3TenantObjectStorage.putObject client options caller args objects').1 := by
  unfold InMemoryTenantObjectStorage.putObject S3TenantObjectStorage.putObject
  cases hput : objectToPut options caller args with
  | error e => exact .refused e e
  | ok put =>
      obtain ⟨scope, object⟩ := put
      have hstored := storedBy_of_objectToPut hput
      have htenant := hverified scope.context (objectToPut_eq_ok hput).1
      simp only
      unfold InMemoryTenantObjectStorage.referenceFromStored
      rw [assertMetadataTenant_of_get? htenant hstored.tenantId]
      simp only [bind, Except.bind]
      generalize hargs : ({
        bucket := options.bucket, key := scope.key, domain := scope.domain,
        objectId := scope.objectId, size := some object.body.length,
        contentType := some object.contentType, metadata := object.metadata } :
          TenantObjectReference) = args
      have hmemory := postInit_etag args (some (md5Hex object.body))
      have hs3 := postInit_etag args (client.etag object)
      rw [← hargs] at hmemory hs3
      simp only at hmemory hs3
      rw [hmemory, hs3, hargs]
      cases args.withoutEtag.postInit with
      | error e => exact .refused e e
      | ok reference => exact .reference _ _ rfl

theorem getObject_agrees (domain objectId : String)
    (hmemory : Holds options calls (InMemoryTenantObjectStorage.stored md5Hex) objects)
    (hs3 : Holds options calls id objects') :
    AnswersAgree listing removal
      (InMemoryTenantObjectStorage.getObject options caller domain objectId objects)
      (S3TenantObjectStorage.getObject client options caller domain objectId objects') := by
  unfold InMemoryTenantObjectStorage.getObject S3TenantObjectStorage.getObject
  cases hscope : objectScope options caller domain objectId with
  | error e => exact .refused e e
  | ok scope =>
      simp only [bind, Except.bind]
      rw [hmemory, hs3]
      cases hobject : objectAt options calls scope.key with
      | none => exact .absent
      | some object =>
          obtain ⟨_, _, _, _, hstored⟩ := exists_storedBy hobject
          simp only [Option.map_some, id_eq]
          unfold InMemoryTenantObjectStorage.referenceFromStored
          simp only [InMemoryTenantObjectStorage.stored, if_neg hstored.contentType]
          by_cases hplain : PlainValues object.metadata
          · rw [normalizeMetadata_of_normalKeys hstored.normalKeys hplain]
            simp only
            cases assertMetadataTenant object.metadata scope.context with
            | error e => exact .refused e e
            | ok _ =>
                simp only [bind, Except.bind]
                generalize hargs : ({
                  bucket := options.bucket, key := scope.key, domain := scope.domain,
                  objectId := scope.objectId, size := some object.body.length,
                  contentType := some object.contentType, metadata := object.metadata } :
                    TenantObjectReference) = args
                have hfirst := postInit_etag args (some (md5Hex object.body))
                have hsecond := postInit_etag args (client.etag object)
                rw [← hargs] at hfirst hsecond
                simp only at hfirst hsecond
                rw [hfirst, hsecond, hargs]
                cases args.withoutEtag.postInit with
                | error e => exact .refused e e
                | ok reference => exact .object _ _ _ rfl
          · -- Neither storage answers with metadata that it would not have taken.
            cases hnormalize : normalizeMetadata object.metadata with
            | ok metadata =>
                exact absurd ((exists_normalizeMetadata_iff hstored.normalKeys).mp
                  ⟨metadata, hnormalize⟩) hplain
            | error e =>
                simp only
                cases assertMetadataTenant object.metadata scope.context with
                | error e' => exact .refused e' e
                | ok _ =>
                    simp only [bind, Except.bind]
                    generalize hargs : ({
                      bucket := options.bucket, key := scope.key, domain := scope.domain,
                      objectId := scope.objectId, size := some object.body.length,
                      contentType := some object.contentType, metadata := object.metadata,
                      etag := some (md5Hex object.body) } : TenantObjectReference) = args
                    have hkeys : NormalKeys args.metadata := by
                      rw [← hargs]
                      exact hstored.normalKeys
                    cases hpost : args.postInit with
                    | error e' => exact .refused e' e
                    | ok reference =>
                        have hvalues := TenantObjectReference.plainValues_of_postInit hkeys hpost
                        rw [← hargs] at hvalues
                        exact absurd hvalues hplain

theorem deleteObject_agrees (domain objectId : String) :
    AnswersAgree listing (fun _ => true)
      (InMemoryTenantObjectStorage.deleteObject options caller domain objectId objects).1
      (S3TenantObjectStorage.deleteObject options caller domain objectId objects').1 := by
  unfold InMemoryTenantObjectStorage.deleteObject S3TenantObjectStorage.deleteObject
  cases buildTenantObjectKey domain objectId caller options.tenantPrefix with
  | error e => exact .refused e e
  | ok key => exact .removed _

/-! ### Listings -/

/-- Both fail, or both succeed with results in the relation. -/
inductive ResultsAgree {ε α β : Type} (R : α → β → Prop) : Except ε α → Except ε β → Prop
  | refused (e e' : ε) : ResultsAgree R (.error e) (.error e')
  | answered (a : α) (b : β) (h : R a b) : ResultsAgree R (.ok a) (.ok b)

/-- INTERNAL: loops whose steps agree agree. -/
theorem resultsAgree_mapM {ε ι α β : Type} {R : α → β → Prop} {f : ι → Except ε α}
    {g : ι → Except ε β} {l : List ι} (h : ∀ i ∈ l, ResultsAgree R (f i) (g i)) :
    ResultsAgree (List.Forall₂ R) (l.mapM f) (l.mapM g) := by
  induction l with
  | nil => exact .answered [] [] .nil
  | cons i l ih =>
      rw [List.mapM_cons, List.mapM_cons]
      have hhead := h i List.mem_cons_self
      have htail := ih fun j hj => h j (List.mem_cons_of_mem i hj)
      generalize f i = x at hhead
      generalize g i = y at hhead
      cases hhead with
      | refused e e' => exact .refused e e'
      | answered a b hab =>
          generalize l.mapM f = xs at htail
          generalize l.mapM g = ys at htail
          cases htail with
          | refused e e' => exact .refused e e'
          | answered as bs habs => exact .answered _ _ (.cons hab habs)

/-- INTERNAL: a page at a time or all at once, the items are the same. -/
theorem flatMap_paginate (client : S3Client) (contents : List (String × ℕ))
    (p : String × ℕ → Bool) :
    (client.paginate contents).flatMap (fun page => page.filter p) = contents.filter p := by
  show ((client.paginate contents).map (List.filter p)).flatten = _
  rw [← List.filter_flatten, client.flatten_paginate]

/-- The arguments of the reference to a listed object. -/
def listedArgs (options : StorageOptions) (scope : ListScope) (key : String)
    (object : S3Object) : TenantObjectReference where
  bucket := options.bucket
  key := key
  domain := scope.domain
  objectId := removePrefix key scope.domainPrefix
  size := some object.body.length

theorem listed_of_postInit_listedArgs {scope : ListScope} {key : String} {object : S3Object}
    {reference : TenantObjectReference}
    (h : (listedArgs options scope key object).postInit = .ok reference) :
    reference.listed = reference := by
  unfold TenantObjectReference.postInit listedArgs at h
  simp only [bind_eq_ok_iff] at h
  obtain ⟨_, _, _, _, _, _, _, _, _, _, metadata, hmetadata, hreturn⟩ := h
  cases hmetadata
  cases hreturn
  rfl

theorem referenceFromStored_agrees {scope : ListScope} {key : String} {object : S3Object}
    {context : TenantContext} (hstored : StoredBy options context key object)
    (htenant : tenantIdPattern context.tenantId = true)
    (hsame : context.tenantId = scope.context.tenantId) (hplain : PlainCorrelation context) :
    ResultsAgree (fun r r' : TenantObjectReference => r.listed = r'.withoutEtag)
      (InMemoryTenantObjectStorage.referenceFromStored options key scope.domain
        (removePrefix key scope.domainPrefix)
        (InMemoryTenantObjectStorage.stored md5Hex object) scope.context)
      (listedArgs options scope key object).postInit := by
  unfold InMemoryTenantObjectStorage.referenceFromStored
  have hmetadata : (InMemoryTenantObjectStorage.stored md5Hex object).metadata.get? "tenant_id" =
      some scope.context.tenantId := by
    rw [← hsame]
    exact hstored.tenantId
  rw [hsame] at htenant
  rw [assertMetadataTenant_of_get? htenant hmetadata]
  simp only [bind, Except.bind]
  rw [TenantObjectReference.postInit_eq]
  · have hlisted : ∀ reference, (listedArgs options scope key object).postInit = .ok reference →
        reference.listed = reference := fun reference => listed_of_postInit_listedArgs
    show ResultsAgree _ (_ <$> (listedArgs options scope key object).postInit) _
    generalize (listedArgs options scope key object).postInit = result at hlisted ⊢
    cases result with
    | error e => exact .refused e e
    | ok reference =>
        refine .answered _ _ ?_
        have hreference := hlisted reference rfl
        show reference.listed = reference.withoutEtag
        rw [hreference, ← hreference]
        rfl
  · intro contentType hcontentType
    cases hcontentType
    exact hstored.contentType
  · exact hstored.normalKeys
  · apply hstored.plainValues _ hplain
    rw [hsame]
    exact plain_of_tenantIdPattern htenant

theorem AnswersAgree.of_results {x y : Except SharedException (List TenantObjectReference)}
    (h : ResultsAgree (List.Forall₂ fun r r' : TenantObjectReference =>
      listing r = r'.withoutEtag) x y) :
    AnswersAgree listing removal (x >>= fun references => pure (.references references))
      (y >>= fun references => pure (.references references)) := by
  cases h with
  | refused e e' => exact .refused e e'
  | answered l l' hall =>
      refine .references l l' ?_
      induction hall with
      | nil => rfl
      | cons h _ ih => rw [List.map_cons, List.map_cons, h, ih]

theorem listObjects_agrees (domain objectPrefix : String)
    (hmemory : Holds options calls (InMemoryTenantObjectStorage.stored md5Hex) objects)
    (hs3 : Holds options calls id objects')
    (hlister : ∀ context, resolveContext caller.context caller.current = .ok context →
      tenantIdPattern context.tenantId = true)
    (hverified : ∀ call ∈ calls, Verified call) (hplain : ∀ call ∈ calls, PutsPlainly call) :
    AnswersAgree TenantObjectReference.listed removal
      (InMemoryTenantObjectStorage.listObjects options caller domain objectPrefix objects)
      (S3TenantObjectStorage.listObjects client options caller domain objectPrefix objects') := by
  unfold InMemoryTenantObjectStorage.listObjects S3TenantObjectStorage.listObjects
  cases hscope : listScope options caller domain objectPrefix with
  | error e => exact .refused e e
  | ok scope =>
      obtain ⟨tenant, objectPrefix', hcontext, htenant, hdomain, _, hdomainPrefix, hkeyPrefix⟩ :=
        listScope_eq_ok hscope
      have hlisterTenant := hlister scope.context hcontext
      rw [(tenantPathSegment_eq_ok htenant).1, strip_of_tenantIdPattern hlisterTenant]
        at hdomainPrefix
      have hkeys : keysWithPrefix objects scope.keyPrefix =
          keysWithPrefix objects' scope.keyPrefix := by
        apply keysWithPrefix_congr
        intro key _
        unfold Dict.contains
        rw [hmemory, hs3, Option.isSome_map, Option.isSome_map]
      have hobject : ∀ key ∈ keysWithPrefix objects' scope.keyPrefix,
          ∃ object, objectAt options calls key = some object ∧
            startsWith key scope.domainPrefix = true ∧
            ∃ context, StoredBy options context key object ∧
              tenantIdPattern context.tenantId = true ∧
              context.tenantId = scope.context.tenantId ∧ PlainCorrelation context := by
        intro key hkey
        obtain ⟨hcontains, hstarts⟩ := mem_keysWithPrefix.mp hkey
        obtain ⟨object, hget⟩ := Dict.contains_iff_exists.mp hcontains
        rw [hs3, Option.map_id, id_eq] at hget
        obtain ⟨call, hcall, context, hputs, hstored⟩ := exists_storedBy hget
        have hpattern : tenantIdPattern context.tenantId = true := by
          obtain ⟨_, _, hresolve⟩ := hputs
          exact hverified call hcall context hresolve
        obtain ⟨domain', objectId', hkeyOf⟩ := hstored.keyOf
        rw [strip_of_tenantIdPattern hpattern] at hkeyOf
        have hslash : '/' ∉ scope.context.tenantId.toList := by
          have hnot := (tenantPathSegment_eq_ok htenant).2.2.1
          rw [(tenantPathSegment_eq_ok htenant).1, strip_of_tenantIdPattern hlisterTenant] at hnot
          exact hnot
        have hslash' : '/' ∉ scope.domain.toList :=
          not_slash_mem_of_safeSegmentPattern (safeSegment_eq_ok_iff.mp hdomain).2
        rw [hkeyPrefix, hdomainPrefix, hkeyOf.startsWith_iff hslash hslash'] at hstarts
        refine ⟨object, hget, ?_, context, hstored, hpattern, hstarts.1, hplain call hcall context
          hputs⟩
        have hempty := (hkeyOf.startsWith_iff hslash hslash' "").mpr ⟨hstarts.1, hstarts.2.1, rfl⟩
        rw [String.append_empty] at hempty
        rw [hdomainPrefix]
        exact hempty
      simp only [bind, Except.bind]
      rw [hkeys, flatMap_paginate]
      generalize keysWithPrefix objects' scope.keyPrefix = keys at hobject ⊢
      have hitems : (keys.filterMap fun key =>
          (objects'.get? key).map fun object => (key, object.body.length)).filter
            (fun item => startsWith item.1 scope.domainPrefix) =
          keys.map fun key => (key, ((objectAt options calls key).map
            fun object => object.body.length).getD 0) := by
        induction keys with
        | nil => rfl
        | cons key keys ih =>
            obtain ⟨object, hget, hstarts, _⟩ := hobject key List.mem_cons_self
            have hsome : (objects'.get? key).map (fun object => (key, object.body.length)) =
                some (key, object.body.length) := by
              rw [hs3, hget]
              rfl
            rw [List.filterMap_cons, hsome, List.filter_cons, if_pos hstarts,
              ih fun key' hkey' => hobject key' (List.mem_cons_of_mem key hkey'), List.map_cons,
              hget]
            rfl
      rw [hitems, List.mapM_map]
      have hresults : ResultsAgree
          (List.Forall₂ fun r r' : TenantObjectReference => r.listed = r'.withoutEtag)
          (keys.mapM (InMemoryTenantObjectStorage.listedReference options scope objects))
          (keys.mapM ((fun item : String × ℕ => TenantObjectReference.postInit
            { bucket := options.bucket
              key := item.1
              domain := scope.domain
              objectId := removePrefix item.1 scope.domainPrefix
              size := some item.2 }) ∘ fun key => (key, ((objectAt options calls key).map
                fun object => object.body.length).getD 0))) := by
        apply resultsAgree_mapM
        intro key hkey
        obtain ⟨object, hget, _, context, hstored, htenant, hsame, hplainly⟩ := hobject key hkey
        have hagrees := @referenceFromStored_agrees md5Hex options scope key object context hstored
          htenant hsame hplainly
        unfold InMemoryTenantObjectStorage.listedReference
        rw [hmemory, Function.comp_apply, hget]
        exact hagrees
      exact AnswersAgree.of_results hresults

/-- After the same calls, verified ones, a call is answered by the two storages alike but for
what S3 does not tell; a listing, as long as the objects were put plainly. -/
theorem storages_agree (md5Hex : Bytes → String) (client : S3Client) (options : StorageOptions)
    (calls : List StorageCall) (call : StorageCall) (hcalls : ∀ call ∈ calls, Verified call)
    (hcall : Verified call)
    (hplain : ∀ domain objectPrefix, call.request = .listObjects domain objectPrefix →
      ∀ call ∈ calls, PutsPlainly call) :
    AnswersAgree TenantObjectReference.listed (fun _ => true)
      (InMemoryTenantObjectStorage.step md5Hex options
        (after (InMemoryTenantObjectStorage.step md5Hex options) Dict.empty calls) call).1
      (S3TenantObjectStorage.step client options
        (after (S3TenantObjectStorage.step client options) Dict.empty calls) call).1 := by
  have hmemory := InMemoryTenantObjectStorage.holds_after md5Hex options calls
  have hs3 := S3TenantObjectStorage.holds_after client options calls
  unfold InMemoryTenantObjectStorage.step S3TenantObjectStorage.step
  cases hrequest : call.request with
  | putObject args => exact putObject_agrees args hcall
  | getObject domain objectId => exact getObject_agrees domain objectId hmemory hs3
  | listObjects domain objectPrefix =>
      exact listObjects_agrees domain objectPrefix hmemory hs3 hcall hcalls
        (hplain domain objectPrefix hrequest)
  | deleteObject domain objectId => exact deleteObject_agrees domain objectId

end Agreement

/-! ## What S3 does not tell -/

def mediaBucket : StorageOptions where
  bucket := "media-objects"
  tenantPrefix := "tenants"
  bucket_valid := by decide
  tenantPrefix_valid := by decide

/-- A client that gives no entity tags and lists everything on one page. -/
def onePageClient : S3Client where
  etag := fun _ => none
  paginate := fun contents => [contents]
  flatten_paginate := fun contents => by simp

/-- The digest of the empty text. -/
def emptyMd5 (_ : Bytes) : String := "d41d8cd98f00b204e9800998ecf8427e"

def storageCall (tenantId correlationId : String) (request : StorageRequest) : StorageCall where
  caller := ⟨some ⟨tenantId, none, [], some correlationId⟩, none⟩
  request := request

def putPost (tenantId correlationId : String) : StorageCall :=
  storageCall tenantId correlationId (.putObject
    { domain := "content", objectId := "post-001.bin", body := [] })

def listPosts (tenantId : String) : StorageCall :=
  storageCall tenantId "corr-1" (.listObjects "content" "")

/-- Both storages list the post that was put. -/
theorem storages_agree_listPosts :
    AnswersAgree TenantObjectReference.listed (fun _ => true)
      (InMemoryTenantObjectStorage.step emptyMd5 mediaBucket
        (after (InMemoryTenantObjectStorage.step emptyMd5 mediaBucket) Dict.empty
          [putPost "tenant-a" "corr-1"]) (listPosts "tenant-a")).1
      (S3TenantObjectStorage.step onePageClient mediaBucket
        (after (S3TenantObjectStorage.step onePageClient mediaBucket) Dict.empty
          [putPost "tenant-a" "corr-1"]) (listPosts "tenant-a")).1 := by
  apply storages_agree
  · intro call hcall context hcontext
    rw [List.mem_singleton] at hcall
    subst hcall
    cases hcontext
    decide
  · intro context hcontext
    cases hcontext
    decide
  · intro _ _ _ call hcall context hputs
    rw [List.mem_singleton] at hcall
    subst hcall
    obtain ⟨_, _, hcontext⟩ := hputs
    cases hcontext
    intro correlationId hcorrelationId
    cases hcorrelationId
    decide

/-- What an answer tells of content types and of a removal. -/
def StorageAnswer.told : StorageAnswer → List (Option String) × Bool
  | .references listed => (listed.map TenantObjectReference.contentType, false)
  | .removed wasRemoved => ([], wasRemoved)
  | _ => ([], false)

theorem AnswersAgree.told_eq {x y : Except SharedException StorageAnswer}
    (h : AnswersAgree TenantObjectReference.withoutEtag id x y) :
    x.toOption.map StorageAnswer.told = y.toOption.map StorageAnswer.told := by
  cases h with
  | refused e e' => rfl
  | reference r r' h => rfl
  | absent => rfl
  | object r r' body h => rfl
  | references l l' h =>
      have hmap := congrArg (List.map TenantObjectReference.contentType) h
      rw [List.map_map, List.map_map] at hmap
      exact congrArg (fun contentTypes => some (contentTypes, false)) hmap
  | removed b => rfl

/-- The storages answer the call to the letter alike, after the same calls. -/
def Interchangeable (calls : List StorageCall) (call : StorageCall) : Prop :=
  ∀ (md5Hex : Bytes → String) (client : S3Client) (options : StorageOptions),
    AnswersAgree TenantObjectReference.withoutEtag id
      (InMemoryTenantObjectStorage.step md5Hex options
        (after (InMemoryTenantObjectStorage.step md5Hex options) Dict.empty calls) call).1
      (S3TenantObjectStorage.step client options
        (after (S3TenantObjectStorage.step client options) Dict.empty calls) call).1

/-- They do not on a delete without an object, on a listing, on a put with a tenant id that no
token carries, and on a listing after a put with a control character. -/
theorem not_interchangeable_storages :
    ¬ Interchangeable [] (storageCall "tenant-a" "corr-1"
      (.deleteObject "content" "post-001.bin")) ∧
    ¬ Interchangeable [putPost "tenant-a" "corr-1"] (listPosts "tenant-a") ∧
    ¬ Interchangeable [] (putPost "tenant*" "corr-1") ∧
    ¬ Interchangeable [putPost "tenant-a" "corr\t1"] (listPosts "tenant-a") := by
  refine ⟨?_, ?_, ?_, ?_⟩
  all_goals
    intro hagree
    have hsame := (hagree emptyMd5 onePageClient mediaBucket).told_eq
    revert hsame
    decide +kernel

end MediaCenter.Shared.ObjectStorage
