import MediaCenter.Analysis.Shared.ObjectStorages

/-!
# Isolation of stored objects

Keys, bucket policies and calls keep the tenants apart.  A tenant is told by its id without the
white space around it, which is how it stands in a key.
-/

set_option autoImplicit false

namespace MediaCenter.Shared.ObjectStorage

open MediaCenter.Library

/-! ## Keys -/

section Keys

variable {tenantPrefix domain domain' objectId objectId' key : String}
  {caller caller' : StorageCaller} {context context' : TenantContext}

/-- INTERNAL: the prefix of a storage may be given with white space around it. -/
theorem buildTenantObjectKey_options
    (h : buildTenantObjectKey domain objectId caller tenantPrefix = .ok key) :
    ∃ options : StorageOptions, options.tenantPrefix = Text.strip tenantPrefix ∧
      buildTenantObjectKey domain objectId caller options.tenantPrefix = .ok key := by
  unfold buildTenantObjectKey buildTenantObjectPrefix at h
  simp only [bind_eq_ok_iff] at h
  obtain ⟨objectPrefix, ⟨context, hcontext, segment, hsegment, hstem⟩, hobjectId⟩ := h
  refine ⟨⟨"media-objects", segment, by decide, safeSegment_of_safeSegment hsegment _⟩,
    (safeSegment_eq_ok_iff.mp hsegment).1, ?_⟩
  unfold buildTenantObjectKey buildTenantObjectPrefix
  simp only [bind_eq_ok_iff]
  exact ⟨objectPrefix, ⟨context, hcontext, segment, safeSegment_of_safeSegment hsegment _, hstem⟩,
    hobjectId⟩

theorem buildTenantObjectKey_inj
    (hcontext : resolveContext caller.context caller.current = .ok context)
    (hcontext' : resolveContext caller'.context caller'.current = .ok context')
    (h : buildTenantObjectKey domain objectId caller tenantPrefix = .ok key)
    (h' : buildTenantObjectKey domain' objectId' caller' tenantPrefix = .ok key) :
    Text.strip context.tenantId = Text.strip context'.tenantId ∧
      Text.strip domain = Text.strip domain' ∧ Text.strip objectId = Text.strip objectId' := by
  obtain ⟨options, hoptions, hbuilt⟩ := buildTenantObjectKey_options h
  obtain ⟨options', hoptions', hbuilt'⟩ := buildTenantObjectKey_options h'
  rw [hoptions', ← hoptions] at hbuilt'
  obtain ⟨resolved, hresolved, hkeyOf⟩ := buildTenantObjectKey_eq_ok hbuilt
  obtain ⟨resolved', hresolved', hkeyOf'⟩ := buildTenantObjectKey_eq_ok hbuilt'
  rw [hcontext] at hresolved
  rw [hcontext'] at hresolved'
  cases hresolved
  cases hresolved'
  exact hkeyOf.inj hkeyOf'

end Keys

/-! ## The bucket policy -/

/-- A text that matches nothing but itself. -/
def Literal (pattern : List Char) : Prop := ∀ c ∈ pattern, c ≠ '*' ∧ c ≠ '?'

theorem iamMatches_star (text : List Char) : iamMatches ['*'] text = true := by
  rw [iamMatches, List.any_eq_true]
  refine ⟨text.length, by simp, ?_⟩
  rw [List.drop_length]
  rfl

/-- INTERNAL: a literal with a star at its end matches what starts with it. -/
theorem iamMatches_literal {pattern : List Char} (h : Literal pattern) (text : List Char) :
    iamMatches (pattern ++ ['*']) text = true ↔ pattern <+: text := by
  induction pattern generalizing text with
  | nil => simp [iamMatches_star]
  | cons p pattern ih =>
      obtain ⟨hstar, hquestion⟩ := h p List.mem_cons_self
      have hrest : Literal pattern := fun c hc => h c (List.mem_cons_of_mem p hc)
      cases text with
      | nil => simp [iamMatches]
      | cons c text =>
          rw [List.cons_append, iamMatches.eq_4 _ _ _ _ (fun h => hstar h),
            List.cons_prefix_cons, Bool.and_eq_true, ih hrest]
          simp [hquestion]

section Policies

variable {bucket bucketName tenantPrefix domain objectId key : String} {policy : IamPolicy}
  {context context' : TenantContext}

theorem literal_of_forall_visible {pattern : List Char}
    (h : ∀ c ∈ pattern, Text.isAsciiAlnum c = true ∨ c ∈ ['.', '_', ':', '-', '/']) :
    Literal pattern := by
  intro c hc
  rcases h c hc with halnum | hother
  · constructor
    · rintro rfl
      revert halnum
      decide
    · rintro rfl
      revert halnum
      decide
  · revert hother
    simp only [List.mem_cons, List.not_mem_nil, or_false]
    rintro (rfl | rfl | rfl | rfl | rfl) <;> decide

theorem isAsciiAlnum_of_bucketPattern (h : bucketPattern bucket = true) :
    ∀ c ∈ bucket.toList, Text.isAsciiAlnum c = true ∨ c ∈ ['.', '_', ':', '-', '/'] := by
  intro c hc
  unfold bucketPattern at h
  simp only [Bool.and_eq_true, List.all_eq_true] at h
  have hclass := h.1.1.2 c hc
  simp only [Bool.or_eq_true, beq_iff_eq, or_assoc] at hclass
  unfold Text.isAsciiAlnum
  rcases hclass with hlower | hdigit | rfl | rfl
  · exact .inl (by simp [hlower])
  · exact .inl (by simp [hdigit])
  · exact .inr (by decide)
  · exact .inr (by decide)

theorem validateS3BucketName_eq_ok (h : validateS3BucketName bucket = .ok bucketName) :
    bucketPattern bucketName = true := by
  unfold validateS3BucketName at h
  simp only at h
  split at h
  · cases h
  · rename_i hpattern
    split at h
    · cases h
    · cases h
      exact not_not.mp hpattern

theorem isAsciiAlnum_of_safeSegment {value label segment : String}
    (h : safeSegment value label = .ok segment) :
    ∀ c ∈ segment.toList, Text.isAsciiAlnum c = true ∨ c ∈ ['.', '_', ':', '-', '/'] := by
  intro c hc
  rcases Text.forall_of_matchesHeadTail (safeSegment_eq_ok_iff.mp h).2 c hc with hhead | htail
  · exact .inl hhead
  · simp only [Bool.or_eq_true, beq_iff_eq, or_assoc] at htail
    rcases htail with halnum | rfl | rfl | rfl
    · exact .inl halnum
    · exact .inr (by decide)
    · exact .inr (by decide)
    · exact .inr (by decide)

theorem isAsciiAlnum_of_tenantIdPattern {tenantId : String} (h : tenantIdPattern tenantId = true) :
    ∀ c ∈ tenantId.toList, Text.isAsciiAlnum c = true ∨ c ∈ ['.', '_', ':', '-', '/'] := by
  intro c hc
  rcases Text.forall_of_matchesHeadTail h c hc with hhead | htail
  · exact .inl hhead
  · simp only [Bool.or_eq_true, beq_iff_eq, or_assoc] at htail
    rcases htail with halnum | rfl | rfl | rfl | rfl
    · exact .inl halnum
    · exact .inr (by decide)
    · exact .inr (by decide)
    · exact .inr (by decide)
    · exact .inr (by decide)

theorem buildTenantObjectPrefix_none_eq_ok {caller : StorageCaller} {objectPrefix : String}
    (h : buildTenantObjectPrefix none caller tenantPrefix = .ok objectPrefix) :
    ∃ context segment tenant, resolveContext caller.context caller.current = .ok context ∧
      safeSegment tenantPrefix "tenant_prefix" = .ok segment ∧
      tenantPathSegment context.tenantId = .ok tenant ∧
      objectPrefix = segment ++ "/" ++ tenant ++ "/" := by
  unfold buildTenantObjectPrefix at h
  simp only [bind_eq_ok_iff] at h
  obtain ⟨context, hcontext, segment, hsegment, tenant, htenant, hreturn⟩ := h
  exact ⟨context, segment, tenant, hcontext, hsegment, htenant, (Except.ok.inj hreturn).symm⟩

/-- INTERNAL: a key starts with the prefix of a tenant exactly when it is that tenant's. -/
theorem KeyOf.tenant_prefix_iff {options : StorageOptions} {tenant tenant' : String}
    (h : KeyOf options tenant domain objectId key) (hslash : '/' ∉ tenant'.toList) :
    (options.tenantPrefix ++ "/" ++ tenant' ++ "/").toList <+: key.toList ↔ tenant = tenant' := by
  have hslash' : "/".toList = ['/'] := by decide
  rw [h.key_eq]
  unfold domainPrefix
  simp only [String.toList_append, hslash', List.append_assoc, List.prefix_append_right_inj,
    List.cons_append, List.nil_append, List.cons_prefix_cons, true_and]
  constructor
  · rintro ⟨rest, hrest⟩
    rw [List.append_assoc, List.cons_append, List.nil_append] at hrest
    exact String.toList_inj.mp
      (JoinedText.parts_eq_of_not_mem_left hslash h.not_slash_mem.1 hrest).1.symm
  · rintro rfl
    exact ⟨domain.toList ++ '/' :: objectId.toList, by simp⟩

/-- Access to objects is allowed for the keys of the tenant, and for no others. -/
theorem allowsObject_iff (htenant : tenantIdPattern context.tenantId = true)
    (hbucket : validateS3BucketName bucket = .ok bucketName)
    (hpolicy : buildTenantS3PrefixPolicy bucket ⟨some context, none⟩ tenantPrefix = .ok policy)
    (hkey : buildTenantObjectKey domain objectId ⟨some context', none⟩ tenantPrefix = .ok key)
    {action : String} (haction : action ∈ ["s3:GetObject", "s3:PutObject", "s3:DeleteObject"]) :
    policy.allowsObject action bucketName key = true ↔
      Text.strip context'.tenantId = context.tenantId := by
  obtain ⟨options, hoptions, hbuilt⟩ := buildTenantObjectKey_options hkey
  obtain ⟨resolved, hresolved, hkeyOf⟩ := buildTenantObjectKey_eq_ok hbuilt
  cases hresolved
  unfold buildTenantS3PrefixPolicy at hpolicy
  simp only [bind_eq_ok_iff] at hpolicy
  obtain ⟨bucketName', hbucket', objectPrefix, hstem, hreturn⟩ := hpolicy
  rw [hbucket] at hbucket'
  cases hbucket'
  cases hreturn
  obtain ⟨resolved, segment, tenant, hresolved, hsegment, hsegmentTenant, rfl⟩ :=
    buildTenantObjectPrefix_none_eq_ok hstem
  cases hresolved
  have hsame : segment = options.tenantPrefix := by
    rw [hoptions]
    exact (safeSegment_eq_ok_iff.mp hsegment).1
  subst hsame
  obtain ⟨htrimmed, _, hslash, _⟩ := tenantPathSegment_eq_ok hsegmentTenant
  rw [strip_of_tenantIdPattern htenant] at htrimmed
  subst htrimmed
  have hnot : ("s3:ListBucket" == action) = false := by
    simp only [List.mem_cons, List.not_mem_nil, or_false] at haction
    rcases haction with rfl | rfl | rfl <;> decide
  have hliteral : Literal ("arn:aws:s3:::" ++ bucketName ++ "/" ++
      (options.tenantPrefix ++ "/" ++ context.tenantId ++ "/")).toList := by
    apply literal_of_forall_visible
    have harn : ∀ c ∈ "arn:aws:s3:::".toList, Text.isAsciiAlnum c = true ∨
        c ∈ ['.', '_', ':', '-', '/'] := by decide
    have hseparator : ∀ c ∈ "/".toList, Text.isAsciiAlnum c = true ∨
        c ∈ ['.', '_', ':', '-', '/'] := by decide
    have hparts := And.intro (isAsciiAlnum_of_bucketPattern (validateS3BucketName_eq_ok hbucket))
      (And.intro (isAsciiAlnum_of_safeSegment hsegment) (isAsciiAlnum_of_tenantIdPattern htenant))
    simp only [String.toList_append, List.forall_mem_append]
    exact ⟨⟨⟨harn, hparts.1⟩, hseparator⟩, ⟨⟨hparts.2.1, hseparator⟩, hparts.2.2⟩, hseparator⟩
  have hmatches : iamMatches ("arn:aws:s3:::" ++ bucketName ++ "/" ++
      (options.tenantPrefix ++ "/" ++ context.tenantId ++ "/") ++ "*").toList
      ("arn:aws:s3:::" ++ bucketName ++ "/" ++ key).toList = true ↔
        Text.strip context'.tenantId = context.tenantId := by
    have hstar : "*".toList = ['*'] := by decide
    rw [String.toList_append, hstar, iamMatches_literal hliteral, String.toList_append,
      String.toList_append (s := "arn:aws:s3:::" ++ bucketName ++ "/") (t := key),
      List.prefix_append_right_inj]
    exact hkeyOf.tenant_prefix_iff hslash
  rw [← hmatches]
  unfold IamPolicy.allowsObject
  have hlisted : ["s3:GetObject", "s3:PutObject", "s3:DeleteObject"].contains action = true :=
    List.contains_iff_mem.mpr haction
  have hunlisted : ["s3:ListBucket"].contains action = false := by
    rw [List.contains_cons, List.contains_nil, Bool.or_false, Bool.beq_comm]
    exact hnot
  simp only [List.any_cons, List.any_nil, hlisted, hunlisted, Bool.and_false, Bool.false_and,
    Bool.false_or, Bool.or_false, Bool.and_true, Option.isNone_none, beq_self_eq_true,
    Bool.true_and]

end Policies

/-! ## Calls of other tenants -/

/-- A call of the tenant. -/
def owned (tenant : String) (call : StorageCall) : Bool :=
  match resolveContext call.caller.context call.caller.current with
  | .error _ => false
  | .ok context => Text.strip context.tenantId = tenant

/-- A key that starts as the keys of the tenant do. -/
def Under (options : StorageOptions) (tenant key : String) : Prop :=
  '/' ∉ tenant.toList ∧ ∃ domain objectPrefix, '/' ∉ domain.toList ∧
    startsWith key (domainPrefix options.tenantPrefix tenant domain ++ objectPrefix) = true

section Isolation

variable {md5Hex : Bytes → String} {options : StorageOptions} {calls : List StorageCall}
  {call : StorageCall} {tenant domain objectId key : String}
  {objects objects' : Dict String InMemoryTenantObjectStorage.StoredObject}

theorem KeyOf.under (h : KeyOf options tenant domain objectId key) :
    Under options tenant key := by
  obtain ⟨htenant, hdomain⟩ := h.not_slash_mem
  refine ⟨htenant, domain, "", hdomain, ?_⟩
  rw [h.startsWith_iff htenant hdomain]
  exact ⟨rfl, rfl, rfl⟩

theorem Under.tenant_eq {tenant' : String} (h : Under options tenant key)
    (hkeyOf : KeyOf options tenant' domain objectId key) : tenant' = tenant := by
  obtain ⟨hslash, domain', objectPrefix, hdomain, hstarts⟩ := h
  exact ((hkeyOf.startsWith_iff hslash hdomain objectPrefix).mp hstarts).1

/-- INTERNAL: a call writes to a key of its own tenant. -/
theorem exists_keyOf_of_writes {object : Option S3Object}
    (h : writes options call = some (key, object)) :
    ∃ context, resolveContext call.caller.context call.caller.current = .ok context ∧
      ∃ domain objectId, KeyOf options (Text.strip context.tenantId) domain objectId key := by
  unfold writes at h
  split at h
  · split at h
    · cases h
    · rename_i hput
      cases h
      obtain ⟨hcontext, hkeyOf, _⟩ := objectToPut_eq_ok hput
      exact ⟨_, hcontext, _, _, hkeyOf⟩
  · split at h
    · cases h
    · rename_i hkey
      cases h
      obtain ⟨context, hcontext, hkeyOf⟩ := buildTenantObjectKey_eq_ok hkey
      exact ⟨context, hcontext, _, _, hkeyOf⟩
  · cases h

/-- INTERNAL: what is under a tenant's key, the tenant's own calls have left there. -/
theorem objectAt_filter_owned (calls : List StorageCall) (h : Under options tenant key) :
    objectAt options (calls.filter (owned tenant)) key = objectAt options calls key := by
  induction calls using List.reverseRecOn with
  | nil => rfl
  | append_singleton calls call ih =>
      rw [List.filter_append, objectAt_concat]
      cases howned : owned tenant call with
      | true =>
          rw [List.filter_cons_of_pos howned, List.filter_nil, objectAt_concat, ih]
      | false =>
          rw [List.filter_cons_of_neg (by simp [howned]), List.filter_nil, List.append_nil, ih]
          cases hwrites : writes options call with
          | none => rfl
          | some write =>
              obtain ⟨key', object⟩ := write
              obtain ⟨context, hcontext, domain', objectId', hkeyOf⟩ :=
                exists_keyOf_of_writes hwrites
              have hne : key' ≠ key := by
                rintro rfl
                have htenant := h.tenant_eq hkeyOf
                unfold owned at howned
                rw [hcontext] at howned
                simp only [htenant, decide_true] at howned
                cases howned
              simp only [if_neg hne]

theorem mapM_congr {ε α β : Type} {f g : α → Except ε β} {l : List α}
    (h : ∀ a ∈ l, f a = g a) : l.mapM f = l.mapM g := by
  induction l with
  | nil => rfl
  | cons a l ih =>
      rw [List.mapM_cons, List.mapM_cons, h a List.mem_cons_self,
        ih fun b hb => h b (List.mem_cons_of_mem a hb)]

/-- The answer to a call reads the objects of its tenant alone. -/
theorem step_congr (howned : owned tenant call = true)
    (hsame : ∀ key, Under options tenant key → objects.get? key = objects'.get? key) :
    (InMemoryTenantObjectStorage.step md5Hex options objects call).1 =
      (InMemoryTenantObjectStorage.step md5Hex options objects' call).1 := by
  have htenant : ∀ context, resolveContext call.caller.context call.caller.current = .ok context →
      Text.strip context.tenantId = tenant := by
    intro context hcontext
    unfold owned at howned
    rw [hcontext] at howned
    exact of_decide_eq_true howned
  unfold InMemoryTenantObjectStorage.step
  cases call.request with
  | putObject args =>
      simp only [InMemoryTenantObjectStorage.putObject]
      cases objectToPut options call.caller args with
      | error e => rfl
      | ok put => rfl
  | getObject domain objectId =>
      simp only [InMemoryTenantObjectStorage.getObject]
      cases hscope : objectScope options call.caller domain objectId with
      | error e => rfl
      | ok scope =>
          obtain ⟨hcontext, hkeyOf⟩ := objectScope_eq_ok hscope
          rw [htenant _ hcontext] at hkeyOf
          simp only [bind, Except.bind, hsame scope.key hkeyOf.under]
  | listObjects domain objectPrefix =>
      simp only [InMemoryTenantObjectStorage.listObjects]
      cases hscope : listScope options call.caller domain objectPrefix with
      | error e => rfl
      | ok scope =>
          obtain ⟨tenant', objectPrefix', hcontext, hsegment, hdomain, _, hdomainPrefix,
            hkeyPrefix⟩ := listScope_eq_ok hscope
          obtain ⟨htrimmed, _, hslash, _⟩ := tenantPathSegment_eq_ok hsegment
          rw [htenant _ hcontext] at htrimmed
          subst htrimmed
          have hunder : ∀ key, startsWith key scope.keyPrefix = true →
              Under options tenant' key := by
            intro key hstarts
            rw [hkeyPrefix, hdomainPrefix] at hstarts
            exact ⟨hslash, scope.domain, objectPrefix',
              not_slash_mem_of_safeSegmentPattern (safeSegment_eq_ok_iff.mp hdomain).2, hstarts⟩
          have hkeys : keysWithPrefix objects scope.keyPrefix =
              keysWithPrefix objects' scope.keyPrefix := by
            apply keysWithPrefix_congr
            intro key hstarts
            unfold Dict.contains
            rw [hsame key (hunder key hstarts)]
          have hreferences : ∀ key ∈ keysWithPrefix objects' scope.keyPrefix,
              InMemoryTenantObjectStorage.listedReference options scope objects key =
                InMemoryTenantObjectStorage.listedReference options scope objects' key := by
            intro key hkey
            unfold InMemoryTenantObjectStorage.listedReference
            rw [hsame key (hunder key (mem_keysWithPrefix.mp hkey).2)]
          simp only [bind, Except.bind]
          rw [hkeys, mapM_congr hreferences]
  | deleteObject domain objectId =>
      simp only [InMemoryTenantObjectStorage.deleteObject]
      cases hkey : buildTenantObjectKey domain objectId call.caller options.tenantPrefix with
      | error e => rfl
      | ok key =>
          obtain ⟨context, hcontext, hkeyOf⟩ := buildTenantObjectKey_eq_ok hkey
          rw [htenant _ hcontext] at hkeyOf
          have hcontains : objects.contains key = objects'.contains key := by
            unfold Dict.contains
            rw [hsame key hkeyOf.under]
          simp only [hcontains]

/-- A tenant is answered as if no other tenant made a call. -/
theorem answers_owned (md5Hex : Bytes → String) (options : StorageOptions)
    (calls : List StorageCall) (tenant : String) :
    (answers (InMemoryTenantObjectStorage.step md5Hex options) Dict.empty calls).filter
        (fun a => owned tenant a.1) =
      answers (InMemoryTenantObjectStorage.step md5Hex options) Dict.empty
        (calls.filter (owned tenant)) := by
  induction calls using List.reverseRecOn with
  | nil => rfl
  | append_singleton calls call ih =>
      rw [answers_concat, List.filter_append, List.filter_append, ih]
      cases howned : owned tenant call with
      | false =>
          rw [List.filter_cons_of_neg (by simp [howned]), List.filter_nil, List.append_nil,
            List.filter_cons_of_neg (by simp [howned]), List.filter_nil, List.append_nil]
      | true =>
          rw [List.filter_cons_of_pos (by simp [howned]), List.filter_nil,
            List.filter_cons_of_pos howned, List.filter_nil, answers_concat]
          have hall := InMemoryTenantObjectStorage.holds_after md5Hex options calls
          have hown := InMemoryTenantObjectStorage.holds_after md5Hex options
            (calls.filter (owned tenant))
          have hanswer : (InMemoryTenantObjectStorage.step md5Hex options
              (after (InMemoryTenantObjectStorage.step md5Hex options) Dict.empty calls) call).1 =
            (InMemoryTenantObjectStorage.step md5Hex options
              (after (InMemoryTenantObjectStorage.step md5Hex options) Dict.empty
                (calls.filter (owned tenant))) call).1 := by
            apply step_congr howned
            intro key hunder
            rw [hall key, hown key, objectAt_filter_owned calls hunder]
          rw [hanswer]

end Isolation

/-! ## Listed objects -/

section Listing

variable {md5Hex : Bytes → String} {options : StorageOptions} {calls : List StorageCall}
  {tenant domain objectId key : String} {object : S3Object} {context : TenantContext}

/-- INTERNAL: no empty segment comes in where segments are joined. -/
theorem not_double_slash {segment rest : List Char} (hsegment : '/' ∉ segment)
    (hhead : rest.head? ≠ some '/') (hrest : ¬ ['/', '/'] <:+: rest) :
    ¬ ['/', '/'] <:+: segment ++ '/' :: rest := by
  induction segment with
  | nil =>
      rw [List.nil_append, List.infix_cons_iff]
      rintro (hstem | hinfix)
      · rw [List.cons_prefix_cons] at hstem
        obtain ⟨tail, htail⟩ := hstem.2
        rw [← htail] at hhead
        exact hhead rfl
      · exact hrest hinfix
  | cons c segment ih =>
      rw [List.mem_cons, not_or] at hsegment
      rw [List.cons_append, List.infix_cons_iff]
      rintro (hstem | hinfix)
      · rw [List.cons_prefix_cons] at hstem
        exact hsegment.1 hstem.1
      · exact ih hsegment.2 hinfix

theorem head?_append_ne {segment rest : List Char} (hne : segment ≠ []) (hsegment : '/' ∉ segment) :
    (segment ++ rest).head? ≠ some '/' := by
  cases segment with
  | nil => exact absurd rfl hne
  | cons c segment =>
      rw [List.cons_append, List.head?_cons, ne_eq, Option.some.injEq]
      rintro rfl
      exact hsegment List.mem_cons_self

theorem safeSegment_facts {value label segment : String}
    (h : safeSegment value label = .ok segment) :
    segment.toList ≠ [] ∧ '/' ∉ segment.toList ∧ '\\' ∉ segment.toList ∧
      ∀ c ∈ segment.toList, Text.isSpace c = false := by
  have hpattern := (safeSegment_eq_ok_iff.mp h).2
  refine ⟨?_, not_slash_mem_of_safeSegmentPattern hpattern, ?_, ?_⟩
  · intro hnil
    unfold safeSegmentPattern Text.matchesHeadTail at hpattern
    rw [hnil] at hpattern
    cases hpattern
  · intro hmem
    rcases isAsciiAlnum_of_safeSegment h '\\' hmem with halnum | hother
    · revert halnum
      decide
    · revert hother
      decide
  · intro c hc
    rcases isAsciiAlnum_of_safeSegment h c hc with halnum | hother
    · exact (Text.visible_of_isAsciiAlnum halnum).isSpace
    · revert hother
      simp only [List.mem_cons, List.not_mem_nil, or_false]
      rintro (rfl | rfl | rfl | rfl | rfl) <;> decide

/-- INTERNAL: a key is a normal key. -/
theorem KeyOf.normalizeKey_eq (h : KeyOf options tenant domain objectId key) (label : String) :
    normalizeKey key label = .ok key := by
  obtain ⟨hstemNe, hstemSlash, hstemBack, hstemSpace⟩ :=
    safeSegment_facts options.tenantPrefix_valid
  obtain ⟨_, htenantNe, htenantSlash, htenantBack⟩ := tenantPathSegment_eq_ok h.tenant_normal
  obtain ⟨hdomainNe, hdomainSlash, hdomainBack, _⟩ := safeSegment_facts h.domain_normal
  obtain ⟨_, hobjectNe, hobjectHead, hobjectBack, hobjectDouble⟩ :=
    normalizeObjectId_eq_ok h.objectId_normal
  have hobjectNil : objectId.toList ≠ [] := fun hnil => hobjectNe (String.toList_eq_nil_iff.mp hnil)
  have htenantNil : tenant.toList ≠ [] := fun hnil => htenantNe (String.toList_eq_nil_iff.mp hnil)
  have hlist : key.toList = options.tenantPrefix.toList ++ '/' :: (tenant.toList ++ '/' ::
      (domain.toList ++ '/' :: objectId.toList)) := by
    rw [h.key_eq, String.toList_append, toList_domainPrefix]
    simp
  have hstrip : Text.strip key = key := by
    unfold Text.strip
    rw [Text.dropBoth_eq_self_iff]
    intro hne
    constructor
    · apply hstemSpace
      have hhead : key.toList.head hne = options.tenantPrefix.toList.head hstemNe := by
        simp only [hlist]
        exact List.head_append_of_ne_nil hstemNe
      rw [hhead]
      exact List.head_mem hstemNe
    · have hlast : key.toList.getLast hne = objectId.toList.getLast hobjectNil := by
        simp only [hlist]
        rw [List.getLast_append_of_ne_nil _ (by simp), List.getLast_cons (by simp),
          List.getLast_append_of_ne_nil _ (by simp), List.getLast_cons (by simp),
          List.getLast_append_of_ne_nil _ (by simp), List.getLast_cons hobjectNil]
      rw [hlast]
      have hobject := strip_of_normalizeObjectId h.objectId_normal
      unfold Text.strip at hobject
      exact (Text.dropBoth_eq_self_iff.mp hobject hobjectNil).2
  have hdouble : ¬ ['/', '/'] <:+: key.toList := by
    rw [hlist]
    exact not_double_slash hstemSlash (head?_append_ne htenantNil htenantSlash)
      (not_double_slash htenantSlash (head?_append_ne hdomainNe hdomainSlash)
        (not_double_slash hdomainSlash hobjectHead hobjectDouble))
  have hempty : key ≠ "" := by
    rintro rfl
    have hnil : (options.tenantPrefix.toList ++ '/' :: (tenant.toList ++ '/' ::
      (domain.toList ++ '/' :: objectId.toList))) = [] := hlist.symm
    simp at hnil
  have hhead : key.toList.head? ≠ some '/' := by
    rw [hlist]
    exact head?_append_ne hstemNe hstemSlash
  have hback : '\\' ∉ key.toList := by
    rw [hlist]
    simp only [List.mem_append, List.mem_cons, not_or]
    exact ⟨hstemBack, by decide, htenantBack, by decide, hdomainBack, by decide, hobjectBack⟩
  unfold normalizeKey
  rw [hstrip]
  simp only [hempty, hhead, hback, or_self, if_false, if_neg hdouble]

/-- INTERNAL: the object in use is the one of the last call that wrote to its key. -/
theorem objectAt_eq_some_iff : objectAt options calls key = some object ↔
    ∃ earlier call later, calls = earlier ++ call :: later ∧
      writes options call = some (key, some object) ∧
      ∀ call' ∈ later, ∀ object', writes options call' ≠ some (key, object') := by
  constructor
  · intro h
    induction calls using List.reverseRecOn with
    | nil => cases h
    | append_singleton calls call ih =>
        rw [objectAt_concat] at h
        have hkept : objectAt options calls key = some object →
            (∀ object', writes options call ≠ some (key, object')) →
            ∃ earlier call' later, calls ++ [call] = earlier ++ call' :: later ∧
              writes options call' = some (key, some object) ∧
              ∀ call'' ∈ later, ∀ object', writes options call'' ≠ some (key, object') := by
          intro hobject hother
          obtain ⟨earlier, call', later, rfl, hwrites, hlater⟩ := ih hobject
          refine ⟨earlier, call', later ++ [call], by simp, hwrites, ?_⟩
          intro call'' hmem
          rw [List.mem_append, List.mem_singleton] at hmem
          rcases hmem with hmem | rfl
          · exact hlater call'' hmem
          · exact hother
        cases hwrites : writes options call with
        | none =>
            rw [hwrites] at h
            exact hkept h (by simp [hwrites])
        | some write =>
            obtain ⟨key', object'⟩ := write
            rw [hwrites] at h
            simp only at h
            by_cases hkey : key' = key
            · rw [if_pos hkey] at h
              subst hkey
              subst h
              exact ⟨calls, call, [], rfl, hwrites, fun _ hmem => by cases hmem⟩
            · rw [if_neg hkey] at h
              apply hkept h
              intro object'' hsome
              rw [hwrites, Option.some.injEq, Prod.mk.injEq] at hsome
              exact hkey hsome.1
  · rintro ⟨earlier, call, later, rfl, hwrites, hlater⟩
    induction later using List.reverseRecOn with
    | nil =>
        rw [objectAt_concat, hwrites]
        simp
    | append_singleton later last ih =>
        have hsplit : earlier ++ call :: (later ++ [last]) =
            (earlier ++ call :: later) ++ [last] := by simp
        rw [hsplit, objectAt_concat]
        have hearlier := ih fun call' hcall' => hlater call' (List.mem_append_left _ hcall')
        cases hlast : writes options last with
        | none => exact hearlier
        | some write =>
            obtain ⟨key', object'⟩ := write
            have hne : key' ≠ key := by
              rintro rfl
              exact hlater last (by simp) object' hlast
            simp only [if_neg hne]
            exact hearlier

/-- The reference to an object. -/
def referenceOf (md5Hex : Bytes → String) (options : StorageOptions) (domain objectId key : String)
    (object : S3Object) : TenantObjectReference where
  bucket := options.bucket
  key := key
  domain := domain
  objectId := objectId
  size := some object.body.length
  contentType := some object.contentType
  metadata := object.metadata
  etag := some (md5Hex object.body)

theorem referenceFromStored_eq (md5Hex : Bytes → String)
    (hstored : StoredBy options context key object)
    (hkeyOf : KeyOf options tenant domain objectId key) {context' : TenantContext}
    (htenant : tenantIdPattern context'.tenantId = true)
    (hsame : context.tenantId = context'.tenantId) (hplain : PlainCorrelation context) :
    InMemoryTenantObjectStorage.referenceFromStored options key domain objectId
      (InMemoryTenantObjectStorage.stored md5Hex object) context' =
      .ok (referenceOf md5Hex options domain objectId key object) := by
  have hmetadata : object.metadata.get? "tenant_id" = some context'.tenantId := by
    rw [← hsame]
    exact hstored.tenantId
  have hvalues : PlainValues object.metadata := by
    apply hstored.plainValues _ hplain
    rw [hsame]
    exact plain_of_tenantIdPattern htenant
  unfold InMemoryTenantObjectStorage.referenceFromStored
  simp only [InMemoryTenantObjectStorage.stored, assertMetadataTenant_of_get? htenant hmetadata,
    bind, Except.bind]
  unfold TenantObjectReference.postInit
  simp only [options.bucket_valid, hkeyOf.normalizeKey_eq, hkeyOf.domain_normal,
    hkeyOf.objectId_normal, normalizeMetadata_of_normalKeys hstored.normalKeys hvalues, bind,
    Except.bind, refuseIf, Option.any_some, decide_eq_true_eq, if_neg hstored.contentType]
  rfl

/-- The reference that a put was answered with, and nothing was written to its key since. -/
def Live (md5Hex : Bytes → String) (options : StorageOptions) (calls : List StorageCall)
    (tenant domain objectPrefix : String) (reference : TenantObjectReference) : Prop :=
  ∃ earlier put later, calls = earlier ++ put :: later ∧ owned tenant put = true ∧
    (InMemoryTenantObjectStorage.step md5Hex options
      (after (InMemoryTenantObjectStorage.step md5Hex options) Dict.empty earlier) put).1 =
        .ok (.reference reference) ∧
    reference.domain = domain ∧ startsWith reference.objectId objectPrefix = true ∧
    ∀ call ∈ later, ∀ object, writes options call ≠ some (reference.key, object)

/-- INTERNAL: the answer to a put is the reference to what it wrote. -/
theorem step_put_eq (md5Hex : Bytes → String) {call : StorageCall}
    (hwrites : writes options call = some (key, some object))
    (hverified : Verified call) (hplain : PutsPlainly call)
    (objects : Dict String InMemoryTenantObjectStorage.StoredObject) :
    ∃ context domain objectId,
      resolveContext call.caller.context call.caller.current = .ok context ∧
      StoredBy options context key object ∧ PlainCorrelation context ∧
      KeyOf options (Text.strip context.tenantId) domain objectId key ∧
      (InMemoryTenantObjectStorage.step md5Hex options objects call).1 =
        .ok (.reference (referenceOf md5Hex options domain objectId key object)) := by
  unfold writes at hwrites
  split at hwrites
  · rename_i args hrequest
    split at hwrites
    · cases hwrites
    · rename_i scope put hput
      cases hwrites
      obtain ⟨hcontext, hkeyOf, _⟩ := objectToPut_eq_ok hput
      have hstored := storedBy_of_objectToPut hput
      have hplainly := hplain scope.context ⟨args, hrequest, hcontext⟩
      refine ⟨scope.context, scope.domain, scope.objectId, hcontext, hstored, hplainly, hkeyOf, ?_⟩
      have hreference : InMemoryTenantObjectStorage.referenceFromStored options scope.key
          scope.domain scope.objectId (InMemoryTenantObjectStorage.stored md5Hex object)
          scope.context =
            .ok (referenceOf md5Hex options scope.domain scope.objectId scope.key object) :=
        referenceFromStored_eq md5Hex hstored hkeyOf (hverified _ hcontext) rfl hplainly
      unfold InMemoryTenantObjectStorage.step InMemoryTenantObjectStorage.putObject
      simp only [hrequest, hput]
      unfold InMemoryTenantObjectStorage.stored at hreference
      rw [hreference]
      rfl
  · split at hwrites
    · cases hwrites
    · cases hwrites
  · cases hwrites

/-- INTERNAL: a call that is answered with a reference has written its object. -/
theorem exists_writes_of_reference {call : StorageCall} {reference : TenantObjectReference}
    {objects : Dict String InMemoryTenantObjectStorage.StoredObject}
    (h : (InMemoryTenantObjectStorage.step md5Hex options objects call).1 =
      .ok (.reference reference)) :
    ∃ key object, writes options call = some (key, some object) := by
  unfold InMemoryTenantObjectStorage.step at h
  unfold writes
  cases hrequest : call.request with
  | putObject args =>
      rw [hrequest] at h
      simp only [InMemoryTenantObjectStorage.putObject] at h ⊢
      cases hput : objectToPut options call.caller args with
      | error e =>
          rw [hput] at h
          cases h
      | ok put => exact ⟨put.1.key, put.2, rfl⟩
  | getObject domain objectId =>
      rw [hrequest] at h
      simp only [InMemoryTenantObjectStorage.getObject, bind_eq_ok_iff] at h
      obtain ⟨scope, _, h⟩ := h
      split at h
      · cases h
      · simp only [bind_eq_ok_iff] at h
        obtain ⟨_, _, h⟩ := h
        cases h
  | listObjects domain objectPrefix =>
      rw [hrequest] at h
      simp only [InMemoryTenantObjectStorage.listObjects, bind_eq_ok_iff] at h
      obtain ⟨_, _, _, _, h⟩ := h
      cases h
  | deleteObject domain objectId =>
      rw [hrequest] at h
      simp only [InMemoryTenantObjectStorage.deleteObject] at h
      split at h
      · cases h
      · cases h

/-- A tenant's listing has exactly its live objects in the domain and under the prefix. -/
theorem listObjects_eq_live {caller : StorageCaller} {domain objectPrefix objectPrefix' : String}
    {scope : ListScope} (hscope : listScope options caller domain objectPrefix = .ok scope)
    (hstem : normalizeOptionalObjectPrefix objectPrefix = .ok objectPrefix')
    (htenant : tenantIdPattern scope.context.tenantId = true)
    (hcalls : ∀ call ∈ calls, owned scope.context.tenantId call = true →
      Verified call ∧ PutsPlainly call) :
    ∃ references, InMemoryTenantObjectStorage.listObjects options caller domain objectPrefix
        (after (InMemoryTenantObjectStorage.step md5Hex options) Dict.empty calls) =
          .ok (.references references) ∧
      (references.map TenantObjectReference.key).SortedLT ∧
      ∀ reference, reference ∈ references ↔ Live md5Hex options calls scope.context.tenantId
        scope.domain objectPrefix' reference := by
  obtain ⟨tenant', objectPrefix'', _, hsegment, hdomain, hstem', hdomainPrefix, hkeyPrefix⟩ :=
    listScope_eq_ok hscope
  rw [hstem] at hstem'
  cases hstem'
  obtain ⟨htrimmed, _, hslash, _⟩ := tenantPathSegment_eq_ok hsegment
  rw [strip_of_tenantIdPattern htenant] at htrimmed
  subst htrimmed
  have hdomainSlash : '/' ∉ scope.domain.toList :=
    not_slash_mem_of_safeSegmentPattern (safeSegment_eq_ok_iff.mp hdomain).2
  have hall := InMemoryTenantObjectStorage.holds_after md5Hex options calls
  generalize hobjects :
    after (InMemoryTenantObjectStorage.step md5Hex options) Dict.empty calls = objects at hall ⊢
  -- An object under a listed key is the one a put of the tenant left there.
  have hput : ∀ key object, objectAt options calls key = some object →
      startsWith key scope.keyPrefix = true →
      ∃ earlier put later, calls = earlier ++ put :: later ∧
        writes options put = some (key, some object) ∧
        (∀ call ∈ later, ∀ object', writes options call ≠ some (key, object')) ∧
        owned scope.context.tenantId put = true ∧
        ∃ context objectId, StoredBy options context key object ∧
          context.tenantId = scope.context.tenantId ∧ PlainCorrelation context ∧
          KeyOf options scope.context.tenantId scope.domain objectId key ∧
          startsWith objectId objectPrefix' = true ∧
          ∀ objects, (InMemoryTenantObjectStorage.step md5Hex options objects put).1 =
            .ok (.reference (referenceOf md5Hex options scope.domain objectId key object)) := by
    intro key object hobject hstarts
    obtain ⟨earlier, put, later, hsplit, hwrites, hlater⟩ := objectAt_eq_some_iff.mp hobject
    obtain ⟨context, hcontext, domain', objectId', hkeyOf⟩ := exists_keyOf_of_writes hwrites
    rw [hkeyPrefix, hdomainPrefix] at hstarts
    have howner := (hkeyOf.startsWith_iff hslash hdomainSlash objectPrefix').mp hstarts
    have howned : owned scope.context.tenantId put = true := by
      unfold owned
      rw [hcontext]
      exact decide_eq_true howner.1
    obtain ⟨hverified, hplain⟩ := hcalls put (by rw [hsplit]; simp) howned
    have hsame : context.tenantId = scope.context.tenantId := by
      rw [← howner.1, strip_of_tenantIdPattern (hverified context hcontext)]
    obtain ⟨context', domain'', objectId'', hcontext', hstored, hplainly, hkeyOf', _⟩ :=
      step_put_eq md5Hex hwrites hverified hplain objects
    rw [hcontext] at hcontext'
    cases hcontext'
    rw [howner.1] at hkeyOf hkeyOf'
    rw [howner.2.1] at hkeyOf
    obtain ⟨_, rfl, rfl⟩ := hkeyOf'.inj hkeyOf
    refine ⟨earlier, put, later, hsplit, hwrites, hlater, howned, context, objectId'', hstored,
      hsame, hplainly, hkeyOf, howner.2.2, ?_⟩
    intro objects'
    obtain ⟨_, domain', objectId', hcontext', _, _, hkeyOf', hanswer⟩ :=
      step_put_eq md5Hex hwrites hverified hplain objects'
    rw [hcontext] at hcontext'
    cases hcontext'
    rw [howner.1] at hkeyOf'
    obtain ⟨_, rfl, rfl⟩ := hkeyOf'.inj hkeyOf
    exact hanswer
  have hlisted : ∀ key ∈ keysWithPrefix objects scope.keyPrefix,
      ∃ object, objectAt options calls key = some object ∧
        startsWith key scope.keyPrefix = true := by
    intro key hkey
    obtain ⟨hcontains, hstarts⟩ := mem_keysWithPrefix.mp hkey
    obtain ⟨stored, hstored⟩ := Dict.contains_iff_exists.mp hcontains
    rw [hall key, Option.map_eq_some_iff] at hstored
    obtain ⟨object, hobject, _⟩ := hstored
    exact ⟨object, hobject, hstarts⟩
  let toReference : String → TenantObjectReference := fun key =>
    referenceOf md5Hex options scope.domain (removePrefix key scope.domainPrefix) key
      ((objectAt options calls key).getD ⟨[], "", Dict.empty⟩)
  have hreferences : (keysWithPrefix objects scope.keyPrefix).mapM
      (InMemoryTenantObjectStorage.listedReference options scope objects) =
        .ok ((keysWithPrefix objects scope.keyPrefix).map toReference) := by
    apply mapM_eq_ok_map
    intro key hkey
    obtain ⟨object, hobject, hstarts⟩ := hlisted key hkey
    obtain ⟨_, put, _, _, _, _, _, context, objectId, hstored, hsame, hplainly, hkeyOf, _, _⟩ :=
      hput key object hobject hstarts
    have hremoved : removePrefix key scope.domainPrefix = objectId := by
      rw [hdomainPrefix, hkeyOf.key_eq, removePrefix_append]
    unfold InMemoryTenantObjectStorage.listedReference
    rw [hall key, hobject, hremoved]
    have hreference := referenceFromStored_eq md5Hex hstored hkeyOf htenant hsame
      hplainly
    rw [Option.map_some]
    simp only [hreference]
    show _ = Except.ok (referenceOf md5Hex options scope.domain
      (removePrefix key scope.domainPrefix) key ((objectAt options calls key).getD _))
    rw [hremoved, hobject, Option.getD_some]
  refine ⟨(keysWithPrefix objects scope.keyPrefix).map toReference, ?_, ?_, ?_⟩
  · unfold InMemoryTenantObjectStorage.listObjects
    rw [hscope]
    simp only [bind, Except.bind, hreferences]
    rfl
  · rw [List.map_map]
    have hkeys : TenantObjectReference.key ∘ toReference = id := rfl
    rw [hkeys, List.map_id]
    exact sortedLT_keysWithPrefix objects scope.keyPrefix
  · intro reference
    rw [List.mem_map]
    constructor
    · rintro ⟨key, hkey, rfl⟩
      obtain ⟨object, hobject, hstarts⟩ := hlisted key hkey
      obtain ⟨earlier, put, later, hsplit, _, hlater, howned, _, objectId, _, _, _, hkeyOf,
        hobjectId, hanswer⟩ := hput key object hobject hstarts
      have hremoved : removePrefix key scope.domainPrefix = objectId := by
        rw [hdomainPrefix, hkeyOf.key_eq, removePrefix_append]
      have hreference : toReference key =
          referenceOf md5Hex options scope.domain objectId key object := by
        show referenceOf md5Hex options scope.domain (removePrefix key scope.domainPrefix) key
          ((objectAt options calls key).getD _) = _
        rw [hremoved, hobject, Option.getD_some]
      rw [hreference]
      exact ⟨earlier, put, later, hsplit, howned, hanswer _, rfl, hobjectId, hlater⟩
    · rintro ⟨earlier, put, later, hsplit, howned, hanswer, hinDomain, hobjectId, hlater⟩
      obtain ⟨key, object, hwrites⟩ := exists_writes_of_reference hanswer
      obtain ⟨hverified, hplain⟩ := hcalls put (by rw [hsplit]; simp) howned
      obtain ⟨context, domain', objectId', hcontext, _, _, hkeyOf, hanswer'⟩ :=
        step_put_eq md5Hex hwrites hverified hplain
          (after (InMemoryTenantObjectStorage.step md5Hex options) Dict.empty earlier)
      rw [hanswer] at hanswer'
      cases hanswer'
      have htenant' : Text.strip context.tenantId = scope.context.tenantId := by
        unfold owned at howned
        rw [hcontext] at howned
        exact of_decide_eq_true howned
      rw [htenant'] at hkeyOf
      have hsameDomain : domain' = scope.domain := hinDomain
      rw [hsameDomain] at hkeyOf
      have hstarts : startsWith key scope.keyPrefix = true := by
        rw [hkeyPrefix, hdomainPrefix, hkeyOf.startsWith_iff hslash hdomainSlash]
        exact ⟨rfl, rfl, hobjectId⟩
      have hobject : objectAt options calls key = some object :=
        objectAt_eq_some_iff.mpr ⟨earlier, put, later, hsplit, hwrites, hlater⟩
      have hcontains : objects.contains key = true := by
        rw [Dict.contains_iff_exists]
        exact ⟨InMemoryTenantObjectStorage.stored md5Hex object, by rw [hall key, hobject]; rfl⟩
      refine ⟨key, mem_keysWithPrefix.mpr ⟨hcontains, hstarts⟩, ?_⟩
      have hremoved : removePrefix key scope.domainPrefix = objectId' := by
        rw [hdomainPrefix, hkeyOf.key_eq, removePrefix_append]
      show referenceOf md5Hex options scope.domain (removePrefix key scope.domainPrefix) key
        ((objectAt options calls key).getD _) = _
      rw [hremoved, hobject, Option.getD_some, hsameDomain]

end Listing

/-! ## Tenants apart -/

/-- Keys tell tenants apart, a policy allows the keys of its tenant only, and in every run what a
tenant is answered and what it lists are its own. -/
structure TenantsApart (md5Hex : Bytes → String) (options : StorageOptions) : Prop where
  /-- A key tells the tenant, the domain and the object, each without white space around it. -/
  keys : ∀ tenantPrefix caller caller' context context' domain domain' objectId objectId' key,
    resolveContext caller.context caller.current = .ok context →
    resolveContext caller'.context caller'.current = .ok context' →
    buildTenantObjectKey domain objectId caller tenantPrefix = .ok key →
    buildTenantObjectKey domain' objectId' caller' tenantPrefix = .ok key →
    Text.strip context.tenantId = Text.strip context'.tenantId ∧
      Text.strip domain = Text.strip domain' ∧ Text.strip objectId = Text.strip objectId'
  policy : ∀ bucket bucketName tenantPrefix context context' domain objectId key policy,
    tenantIdPattern context.tenantId = true →
    validateS3BucketName bucket = .ok bucketName →
    buildTenantS3PrefixPolicy bucket ⟨some context, none⟩ tenantPrefix = .ok policy →
    buildTenantObjectKey domain objectId ⟨some context', none⟩ tenantPrefix = .ok key →
    ∀ action ∈ ["s3:GetObject", "s3:PutObject", "s3:DeleteObject"],
      (policy.allowsObject action bucketName key = true ↔
        Text.strip context'.tenantId = context.tenantId)
  answers_alone : ∀ calls tenant,
    (answers (InMemoryTenantObjectStorage.step md5Hex options) Dict.empty calls).filter
        (fun a => owned tenant a.1) =
      answers (InMemoryTenantObjectStorage.step md5Hex options) Dict.empty
        (calls.filter (owned tenant))
  listing : ∀ calls caller domain objectPrefix objectPrefix' scope,
    listScope options caller domain objectPrefix = .ok scope →
    normalizeOptionalObjectPrefix objectPrefix = .ok objectPrefix' →
    tenantIdPattern scope.context.tenantId = true →
    (∀ call ∈ calls, owned scope.context.tenantId call = true →
      Verified call ∧ PutsPlainly call) →
    ∃ references, InMemoryTenantObjectStorage.listObjects options caller domain objectPrefix
        (after (InMemoryTenantObjectStorage.step md5Hex options) Dict.empty calls) =
          .ok (.references references) ∧
      (references.map TenantObjectReference.key).SortedLT ∧
      ∀ reference, reference ∈ references ↔ Live md5Hex options calls scope.context.tenantId
        scope.domain objectPrefix' reference

/-- **Tenants apart.**  The storage keeps the tenants apart in every run of calls. -/
theorem tenantsApart (md5Hex : Bytes → String) (options : StorageOptions) :
    TenantsApart md5Hex options where
  keys := fun _ _ _ _ _ _ _ _ _ _ hcontext hcontext' h h' =>
    buildTenantObjectKey_inj hcontext hcontext' h h'
  policy := fun _ _ _ _ _ _ _ _ _ htenant hbucket hpolicy hkey _ haction =>
    allowsObject_iff htenant hbucket hpolicy hkey haction
  answers_alone := answers_owned md5Hex options
  listing := fun _ _ _ _ _ _ hscope hstem htenant hcalls =>
    listObjects_eq_live hscope hstem htenant hcalls

namespace IsolationSample

def context (tenantId : String) : TenantContext := ⟨tenantId, none, [], some "corr-1"⟩

def caller : StorageCaller := ⟨some (context "tenant-a"), none⟩

/-- The id of the second tenant continues that of the first. -/
def calls : List StorageCall := [putPost "tenant-a" "corr-1", putPost "tenant-ab" "corr-1"]

theorem verified_putPost {tenantId : String} (htenant : tenantIdPattern tenantId = true) :
    Verified (putPost tenantId "corr-1") ∧ PutsPlainly (putPost tenantId "corr-1") := by
  constructor
  · intro context hcontext
    cases hcontext
    exact htenant
  · rintro context ⟨_, _, hcontext⟩
    cases hcontext
    intro correlationId hcorrelationId
    cases hcorrelationId
    decide

theorem plain_calls : ∀ call ∈ calls, Verified call ∧ PutsPlainly call := by
  intro call hcall
  simp only [calls, List.mem_cons, List.not_mem_nil, or_false] at hcall
  rcases hcall with rfl | rfl
  · exact verified_putPost (by decide)
  · exact verified_putPost (by decide)

theorem listScope_caller : listScope mediaBucket caller "content" "" =
    .ok ⟨context "tenant-a", "content", "tenants/tenant-a/content/",
      "tenants/tenant-a/content/"⟩ := rfl

theorem exists_policy_caller :
    ∃ policy, buildTenantS3PrefixPolicy "media-objects" caller "tenants" = .ok policy :=
  ⟨_, rfl⟩

end IsolationSample

open IsolationSample in
/-- A policy of `tenant-a` does not allow the key of `tenant-ab`, and a listing of `tenant-a` shows
what it has put. -/
theorem tenantsApart_continued :
    (∃ policy, buildTenantS3PrefixPolicy "media-objects" caller "tenants" = .ok policy ∧
      ¬ policy.allowsObject "s3:GetObject" "media-objects"
        "tenants/tenant-ab/content/post-001.bin" = true) ∧
    ∃ references, InMemoryTenantObjectStorage.listObjects mediaBucket caller "content" ""
        (after (InMemoryTenantObjectStorage.step emptyMd5 mediaBucket) Dict.empty calls) =
          .ok (.references references) ∧
      ∀ reference, reference ∈ references ↔
        Live emptyMd5 mediaBucket calls "tenant-a" "content" "" reference := by
  have htenant : tenantIdPattern "tenant-a" = true := by decide
  constructor
  · obtain ⟨policy, hpolicy⟩ := exists_policy_caller
    refine ⟨policy, hpolicy, ?_⟩
    rw [(tenantsApart emptyMd5 mediaBucket).policy "media-objects" "media-objects" "tenants"
      (context "tenant-a") (context "tenant-ab") "content" "post-001.bin" _ policy htenant
      (by decide) hpolicy (by decide) "s3:GetObject" (by decide)]
    decide
  · obtain ⟨references, hlist, _, hlive⟩ := (tenantsApart emptyMd5 mediaBucket).listing calls caller
      "content" "" "" _ listScope_caller rfl htenant
      (fun call hcall _ => plain_calls call hcall)
    exact ⟨references, hlist, hlive⟩

/-- White space around a tenant id or a domain does not show in a key, and an object that was put
with a control character in the correlation id keeps its tenant from listing the domain. -/
theorem keys_not_injective :
    ¬ (∀ (context context' : TenantContext) (domain domain' objectId objectId' key : String),
      buildTenantObjectKey domain objectId ⟨some context, none⟩ "tenants" = .ok key →
      buildTenantObjectKey domain' objectId' ⟨some context', none⟩ "tenants" = .ok key →
      context.tenantId = context'.tenantId ∧ domain = domain' ∧
        Text.strip objectId = Text.strip objectId') ∧
    ¬ (∀ calls : List StorageCall, ∃ references,
      (InMemoryTenantObjectStorage.step emptyMd5 mediaBucket
        (after (InMemoryTenantObjectStorage.step emptyMd5 mediaBucket) Dict.empty calls)
        (listPosts "tenant-a")).1 = .ok (.references references)) := by
  refine ⟨?_, ?_⟩
  · intro h
    have hsame := h ⟨"tenant-a", none, [], none⟩ ⟨"tenant-a", none, [], none⟩ "content" " content"
      "post-001.bin" "post-001.bin" "tenants/tenant-a/content/post-001.bin" (by decide)
      (by decide)
    exact absurd hsame.2.1 (by decide)
  · intro h
    have hfails : (InMemoryTenantObjectStorage.step emptyMd5 mediaBucket
        (after (InMemoryTenantObjectStorage.step emptyMd5 mediaBucket) Dict.empty
          [putPost "tenant-a" "corr\t1"]) (listPosts "tenant-a")).1.isOk = false := by
      decide +kernel
    obtain ⟨references, hreferences⟩ := h [putPost "tenant-a" "corr\t1"]
    rw [hreferences] at hfails
    cases hfails

end MediaCenter.Shared.ObjectStorage
