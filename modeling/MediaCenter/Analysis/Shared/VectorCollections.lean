import MediaCenter.Library.JoinedText
import MediaCenter.Model.Shared.Vector

/-!
# Names of vector collections

Two pairs of a tenant and a domain have the same collection when their segments are the same,
or when the tenant segment of one runs on, across an underscore, into its domain segment.
-/

set_option autoImplicit false

namespace MediaCenter.Shared

open MediaCenter.Library

/-! ## Segments -/

section Segments

variable {py : Stdlib} {value label segment : String}

theorem visible_of_isCollectionChar {c : Char} (h : isCollectionChar c = true) :
    Text.Visible c := by
  unfold isCollectionChar at h
  rw [Bool.or_eq_true, Bool.or_eq_true, beq_iff_eq, beq_iff_eq] at h
  rcases h with (halnum | rfl) | rfl
  · exact Text.visible_of_isAsciiAlnum halnum
  · exact ⟨by decide, by decide⟩
  · exact ⟨by decide, by decide⟩

theorem mem_replaceUnsafe {c : Char} (hsafe : isCollectionChar c = true) {l : List Char}
    (hc : c ∈ l) (replaced : Bool) : c ∈ replaceUnsafe replaced l := by
  induction l generalizing replaced with
  | nil => cases hc
  | cons d l ih =>
      rw [replaceUnsafe]
      by_cases hd : isCollectionChar d = true
      · rw [if_pos hd]
        rcases List.mem_cons.mp hc with rfl | hl
        · exact List.mem_cons_self
        · exact List.mem_cons_of_mem d (ih hl false)
      · rw [if_neg hd]
        have hl : c ∈ l := by
          rcases List.mem_cons.mp hc with rfl | hl
          · exact absurd hsafe hd
          · exact hl
        by_cases hreplaced : replaced = true
        · rw [if_pos hreplaced]
          exact ih hl true
        · rw [if_neg hreplaced]
          exact List.mem_cons_of_mem '_' (ih hl true)

theorem isCollectionChar_of_mem_replaceUnsafe {c : Char} {l : List Char} {replaced : Bool}
    (hc : c ∈ replaceUnsafe replaced l) : isCollectionChar c = true := by
  induction l generalizing replaced with
  | nil => cases hc
  | cons d l ih =>
      rw [replaceUnsafe] at hc
      by_cases hd : isCollectionChar d = true
      · rw [if_pos hd] at hc
        rcases List.mem_cons.mp hc with rfl | hl
        · exact hd
        · exact ih hl
      · rw [if_neg hd] at hc
        by_cases hreplaced : replaced = true
        · rw [if_pos hreplaced] at hc
          exact ih hc
        · rw [if_neg hreplaced] at hc
          rcases List.mem_cons.mp hc with rfl | hl
          · decide
          · exact ih hl

theorem isCollectionChar_of_isHexChar {c : Char} (h : isHexChar c = true) :
    isCollectionChar c = true := by
  unfold isHexChar at h
  unfold isCollectionChar Text.isAsciiAlnum Text.isAsciiLower
  rw [Bool.or_eq_true, Bool.and_eq_true, decide_eq_true_eq, decide_eq_true_eq] at h
  rcases h with hdigit | ⟨ha, hf⟩
  · simp [hdigit]
  · have hz : c ≤ 'z' := hf.trans (by decide)
    simp [ha, hz]

theorem mem_of_mem_dropBoth {p : Char → Bool} {s : String} {c : Char}
    (h : c ∈ (Text.dropBoth p s).toList) : c ∈ s.toList := by
  obtain ⟨front, back, hs, _, _⟩ := Text.exists_eq_append_dropBoth p s
  rw [hs]
  exact List.mem_append_left _ (List.mem_append_right _ h)

theorem head?_take_of_pos {n : ℕ} (hn : 0 < n) (l : List Char) : (l.take n).head? = l.head? := by
  cases l with
  | nil => rw [List.take_nil]
  | cons c l =>
      obtain ⟨n, rfl⟩ := Nat.exists_eq_succ_of_ne_zero (Nat.pos_iff_ne_zero.mp hn)
      rfl

/-- INTERNAL: a segment holds characters of a name only, and does not begin with an
underscore. -/
theorem collectionSegment_shape (h : collectionSegment py value label = .ok segment) :
    (∀ c ∈ segment.toList, isCollectionChar c = true) ∧
      ∃ c, segment.toList.head? = some c ∧ c ≠ '_' := by
  unfold collectionSegment at h
  simp only [bind_eq_ok_iff, refuseIf_eq_ok_iff] at h
  obtain ⟨word, _, _, hne, hreturn⟩ := h
  generalize hsafe : Text.dropBoth (· == '_')
    (String.ofList (replaceUnsafe false word.toList)) = safe at hne hreturn
  have hchars : ∀ c ∈ safe.toList, isCollectionChar c = true := by
    intro c hc
    rw [← hsafe] at hc
    have hmem := mem_of_mem_dropBoth hc
    rw [String.toList_ofList] at hmem
    exact isCollectionChar_of_mem_replaceUnsafe hmem
  have hlist : safe.toList ≠ [] := fun hnil => hne (String.toList_eq_nil_iff.mp hnil)
  have hhead : ∃ c, safe.toList.head? = some c ∧ c ≠ '_' := by
    refine ⟨safe.toList.head hlist, List.head?_eq_some_head hlist, ?_⟩
    subst hsafe
    have hends := (Text.ends_dropBoth _ _ hlist).1
    simpa using hends
  cases hreturn
  by_cases hsame : safe = word
  · rw [if_pos hsame, String.toList_ofList]
    refine ⟨fun c hc => hchars c (List.mem_of_mem_take hc), ?_⟩
    rw [head?_take_of_pos (by decide)]
    exact hhead
  · rw [if_neg hsame, String.toList_ofList, String.toList_append, String.toList_append,
      String.toList_ofList, String.toList_ofList]
    refine ⟨fun c hc => ?_, ?_⟩
    · have hc := List.mem_of_mem_take hc
      rw [List.mem_append, List.mem_append] at hc
      rcases hc with (hc | hc) | hc
      · exact hchars c (List.mem_of_mem_take hc)
      · rw [List.mem_singleton.mp hc]
        decide
      · rw [String.toList_ofList] at hc
        have hhash := py.sha256Hex_pattern word
        unfold auditHashPattern at hhash
        rw [Bool.and_eq_true, List.all_eq_true] at hhash
        exact isCollectionChar_of_isHexChar (hhash.2 c (List.mem_of_mem_take hc))
    · obtain ⟨c, hc, hunderscore⟩ := hhead
      refine ⟨c, ?_, hunderscore⟩
      rw [head?_take_of_pos (by decide), List.append_assoc, List.head?_append,
        head?_take_of_pos (by decide), hc]
      rfl

theorem exists_collectionSegment (hvisible : ∀ c ∈ value.toList, Text.Visible c) {c : Char}
    (hc : c ∈ value.toList) (hsafe : isCollectionChar c = true) (hunderscore : c ≠ '_')
    (label : String) : ∃ segment, collectionSegment py value label = .ok segment := by
  have hword : normalizeWord label value = .ok value := by
    rw [normalizeWord_eq_ok_iff]
    refine ⟨(Text.strip_of_forall_visible hvisible).symm, ?_, fun c hc => (hvisible c hc).isSpace⟩
    rintro rfl
    cases hc
  have hne : Text.dropBoth (· == '_') (String.ofList (replaceUnsafe false value.toList)) ≠ "" := by
    intro hempty
    rw [Text.dropBoth_eq_empty_iff, String.toList_ofList] at hempty
    have := hempty c (mem_replaceUnsafe hsafe hc false)
    rw [beq_iff_eq] at this
    exact hunderscore this
  unfold collectionSegment
  simp only [bind_eq_ok_iff, refuseIf_eq_ok_iff]
  exact ⟨_, value, hword, (), hne, rfl⟩

theorem exists_collectionSegment_of_segment
    (h : ∃ value label, collectionSegment py value label = .ok segment) (label : String) :
    ∃ segment', collectionSegment py segment label = .ok segment' := by
  obtain ⟨value, label', hsegment⟩ := h
  obtain ⟨hchars, c, hhead, hunderscore⟩ := collectionSegment_shape hsegment
  have hmem : c ∈ segment.toList := List.mem_of_mem_head? hhead
  exact exists_collectionSegment (fun c hc => visible_of_isCollectionChar (hchars c hc)) hmem
    (hchars c hmem) hunderscore label

theorem exists_collectionSegment_of_tenantId (h : tenantIdPattern value = true)
    (label : String) : ∃ segment, collectionSegment py value label = .ok segment := by
  have hvisible := visible_of_tokenPattern (tokenPattern_of_tenantIdPattern h)
  unfold tenantIdPattern Text.matchesHeadTail at h
  cases hl : value.toList with
  | nil =>
      rw [hl] at h
      cases h
  | cons c rest =>
      rw [hl] at h
      simp only [Bool.and_eq_true] at h
      have hsafe : isCollectionChar c = true := by
        unfold isCollectionChar
        rw [h.1.1]
        rfl
      have hunderscore : c ≠ '_' := by
        rintro rfl
        exact absurd h.1.1 (by decide)
      exact exists_collectionSegment hvisible (by rw [hl]; exact List.mem_cons_self) hsafe
        hunderscore label

/-- The segment of a value that has one. -/
def segmentOf (py : Stdlib) (value : String) : String :=
  match collectionSegment py value "segment" with
  | .ok segment => segment
  | .error _ => ""

theorem normalizeWord_ok_of_ok {label' word : String} (h : normalizeWord label value = .ok word) :
    normalizeWord label' value = .ok word := by
  rw [normalizeWord_eq_ok_iff] at h ⊢
  exact h

/-- INTERNAL: the label stands in messages only. -/
theorem collectionSegment_eq_segmentOf
    (h : ∃ segment, collectionSegment py value label = .ok segment) :
    collectionSegment py value label = .ok (segmentOf py value) := by
  obtain ⟨segment, hsegment⟩ := h
  have hsame : collectionSegment py value "segment" = .ok segment := by
    unfold collectionSegment at hsegment ⊢
    simp only [bind_eq_ok_iff, refuseIf_eq_ok_iff] at hsegment ⊢
    obtain ⟨word, hword, u, hne, hreturn⟩ := hsegment
    exact ⟨word, normalizeWord_ok_of_ok hword, u, hne, hreturn⟩
  unfold segmentOf
  rw [hsame, hsegment]

end Segments

/-! ## Names -/

/-- A tenant and a domain that a store accepts. -/
structure TenantDomain (py : Stdlib) where
  tenantId : String
  domain : String
  tenantId_valid : tenantIdPattern tenantId = true
  domain_normal : normalizeDomain domain = .ok domain
  domain_segment : ∃ segment, collectionSegment py domain "domain" = .ok segment

namespace TenantDomain

variable {py : Stdlib} {p q : TenantDomain py}

theorem eq_of_fields (htenant : p.tenantId = q.tenantId) (hdomain : p.domain = q.domain) :
    p = q := by
  obtain ⟨tenantId, domain, _, _, _⟩ := p
  obtain ⟨tenantId', domain', _, _, _⟩ := q
  cases htenant
  cases hdomain
  rfl

/-- The collection of a tenant and a domain. -/
def name (options : VectorStoreOptions py) (p : TenantDomain py) : String :=
  segmentOf py options.collectionPrefix ++ "_" ++ segmentOf py options.environment ++ "_" ++
    segmentOf py p.tenantId ++ "_" ++ segmentOf py p.domain

/-- The segments of the two are the same, or the tenant segment of one runs on into its
domain segment. -/
def Collide (p q : TenantDomain py) : Prop :=
  (segmentOf py p.tenantId = segmentOf py q.tenantId ∧
    segmentOf py p.domain = segmentOf py q.domain) ∨
  (∃ m, segmentOf py q.tenantId = segmentOf py p.tenantId ++ "_" ++ m ∧
    segmentOf py p.domain = m ++ "_" ++ segmentOf py q.domain) ∨
  ∃ m, segmentOf py p.tenantId = segmentOf py q.tenantId ++ "_" ++ m ∧
    segmentOf py q.domain = m ++ "_" ++ segmentOf py p.domain

theorem collectionName_eq (options : VectorStoreOptions py) {context : TenantContext}
    (hcontext : context.tenantId = p.tenantId) :
    InMemoryTenantVectorStore.collectionName options p.domain context = .ok (p.name options) := by
  obtain ⟨value, hprefix⟩ := options.collectionPrefix_segment
  obtain ⟨value', henvironment⟩ := options.environment_segment
  unfold InMemoryTenantVectorStore.collectionName buildTenantVectorCollectionName
  simp only [bind_eq_ok_iff]
  refine ⟨p.domain, p.domain_normal, _, collectionSegment_eq_segmentOf
    (exists_collectionSegment_of_segment ⟨_, _, hprefix⟩ _), _, collectionSegment_eq_segmentOf
    (exists_collectionSegment_of_segment ⟨_, _, henvironment⟩ _), segmentOf py p.tenantId, ?_, _,
    collectionSegment_eq_segmentOf p.domain_segment, rfl⟩
  rw [hcontext]
  exact collectionSegment_eq_segmentOf (exists_collectionSegment_of_tenantId p.tenantId_valid _)

theorem append_left_cancel_iff (common x y : String) : common ++ x = common ++ y ↔ x = y := by
  rw [← String.toList_inj, String.toList_append, String.toList_append, List.append_cancel_left_eq,
    String.toList_inj]

theorem name_eq_iff (options : VectorStoreOptions py) :
    p.name options = q.name options ↔ Collide p q := by
  have hunderscore : ("_" : String).toList = ['_'] := rfl
  unfold name Collide
  rw [← JoinedText.text_append_eq_iff hunderscore]
  generalize segmentOf py options.collectionPrefix ++ "_" ++ segmentOf py options.environment ++
    "_" = common
  simp only [String.append_assoc, append_left_cancel_iff]

end TenantDomain

end MediaCenter.Shared
