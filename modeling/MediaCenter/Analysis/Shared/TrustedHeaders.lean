import MediaCenter.Model.Shared.S2SAuth
import MediaCenter.Model.Shared.TenantHeaders

/-!
# Reading a context from headers

What `tenant_context_from_trusted_headers` makes of its headers: it looks each of them up by its
lower-case name, and cuts the roles at every comma.
-/

set_option autoImplicit false

namespace MediaCenter.Shared

open MediaCenter.Library

/-! ## Cutting and joining -/

section Split

variable {sep : Char} {l m t : List Char}

theorem splitAtEvery_eq_splitOn (sep : Char) (l : List Char) :
    splitAtEvery sep l = l.splitOn sep := by
  induction l with
  | nil => rfl
  | cons c l ih =>
      rw [splitAtEvery, ih, List.splitOn_cons_eq_if_modifyHead]
      by_cases hc : c = sep
      · rw [if_pos hc, if_pos (beq_iff_eq.mpr hc)]
      · rw [if_neg hc, if_neg (fun h => hc (beq_iff_eq.mp h))]
        cases hl : l.splitOn sep with
        | nil => exact absurd hl (List.splitOn_ne_nil sep l)
        | cons w ws => rfl

theorem not_mem_of_mem_splitAtEvery {w : List Char} (h : w ∈ splitAtEvery sep l) : sep ∉ w := by
  induction l generalizing w with
  | nil =>
      rw [splitAtEvery, List.mem_singleton] at h
      rw [h]
      exact List.not_mem_nil
  | cons c l ih =>
      rw [splitAtEvery] at h
      by_cases hc : c = sep
      · rw [if_pos hc, List.mem_cons] at h
        rcases h with rfl | h
        · exact List.not_mem_nil
        · exact ih h
      · rw [if_neg hc] at h
        have hc' : sep ≠ c := Ne.symm hc
        cases hl : splitAtEvery sep l with
        | nil =>
            rw [hl] at h
            simpa using List.mem_singleton.mp h ▸ (by simpa using hc' : sep ∉ [c])
        | cons w' ws =>
            rw [hl] at h ih
            rcases List.mem_cons.mp h with rfl | h
            · rw [List.mem_cons, not_or]
              exact ⟨hc', ih List.mem_cons_self⟩
            · exact ih (List.mem_cons_of_mem _ h)

/-- INTERNAL: text in front, without the separator, goes to the first piece. -/
theorem splitAtEvery_append_left (h : sep ∉ t) (l : List Char) :
    ∃ first rest, splitAtEvery sep l = first :: rest ∧
      splitAtEvery sep (t ++ l) = (t ++ first) :: rest := by
  induction t with
  | nil =>
      rw [splitAtEvery_eq_splitOn]
      obtain ⟨first, rest, hl⟩ := List.exists_cons_of_ne_nil (List.splitOn_ne_nil sep l)
      exact ⟨first, rest, hl, by rw [List.nil_append, splitAtEvery_eq_splitOn, hl]; rfl⟩
  | cons c t ih =>
      rw [List.mem_cons, not_or] at h
      obtain ⟨first, rest, hl, htl⟩ := ih h.2
      refine ⟨first, rest, hl, ?_⟩
      rw [List.cons_append, splitAtEvery, if_neg (Ne.symm h.1), htl, List.cons_append]

/-- INTERNAL: text behind, without the separator, goes to the last piece. -/
theorem splitAtEvery_append_right (h : sep ∉ t) (l : List Char) :
    ∃ front last, splitAtEvery sep l = front ++ [last] ∧
      splitAtEvery sep (l ++ t) = front ++ [last ++ t] := by
  induction l with
  | nil =>
      refine ⟨[], [], rfl, ?_⟩
      rw [splitAtEvery_eq_splitOn, List.nil_append, List.splitOn_eq_singleton h]
      rfl
  | cons c l ih =>
      obtain ⟨front, last, hl, hlt⟩ := ih
      rw [List.cons_append, splitAtEvery, splitAtEvery]
      by_cases hc : c = sep
      · rw [if_pos hc, if_pos hc, hl, hlt]
        exact ⟨[] :: front, last, rfl, rfl⟩
      · rw [if_neg hc, if_neg hc, hl, hlt]
        cases front with
        | nil => exact ⟨[], c :: last, rfl, rfl⟩
        | cons w ws => exact ⟨(c :: w) :: ws, last, rfl, rfl⟩

end Split

/-- INTERNAL: joined texts without the separator are cut apart again. -/
theorem splitAtEvery_joinRoles {roles : List String} (hne : roles ≠ [])
    (h : ∀ r ∈ roles, ',' ∉ r.toList) :
    splitAtEvery ',' (joinRoles roles).toList = roles.map String.toList := by
  have hcomma : ",".toList = [','] := by decide
  unfold joinRoles
  rw [splitAtEvery_eq_splitOn, String.toList_intercalate, hcomma,
    List.splitOn_intercalate]
  · intro l hl
    rw [List.mem_map] at hl
    obtain ⟨r, hr, rfl⟩ := hl
    exact h r hr
  · exact fun hnil => hne (List.map_eq_nil_iff.mp hnil)

/-- INTERNAL: white space around the whole text does not change the stripped pieces. -/
theorem map_strip_splitAtEvery (s : String) :
    (splitAtEvery ',' (Text.strip s).toList).map (fun w => Text.strip (String.ofList w)) =
      (splitAtEvery ',' s.toList).map fun w => Text.strip (String.ofList w) := by
  obtain ⟨front, back, hs, hfront, hback⟩ := Text.exists_eq_append_dropBoth Text.isSpace s
  have hcomma : ∀ l : List Char, (∀ c ∈ l, Text.isSpace c = true) → ',' ∉ l := by
    intro l hl hmem
    exact absurd (hl ',' hmem) (by decide)
  obtain ⟨first, rest, hsplit, hsplit'⟩ := splitAtEvery_append_left (hcomma front hfront)
    ((Text.dropBoth Text.isSpace s).toList ++ back)
  obtain ⟨init, last, hinit, hinit'⟩ := splitAtEvery_append_right (hcomma back hback)
    (Text.dropBoth Text.isSpace s).toList
  unfold Text.strip
  rw [hs, List.append_assoc, hsplit', List.map_cons, Text.dropBoth_append_left hfront]
  rw [hsplit] at hinit'
  calc (splitAtEvery ',' (Text.dropBoth Text.isSpace s).toList).map
        (fun w => Text.dropBoth Text.isSpace (String.ofList w))
      = (init ++ [last ++ back]).map fun w => Text.dropBoth Text.isSpace (String.ofList w) := by
        rw [hinit, List.map_append, List.map_append, List.map_singleton, List.map_singleton,
          Text.dropBoth_append_right hback]
    _ = (first :: rest).map fun w => Text.dropBoth Text.isSpace (String.ofList w) := by
        rw [hinit']

/-! ## Roles -/

/-- A text without white space around it. -/
def IsStripped (s : String) : Prop := s ≠ "" ∧ Text.strip s = s

/-- A role that its place in a header tells apart from the others. -/
def IsHeaderRole (role : String) : Prop := IsStripped role ∧ ',' ∉ role.toList

theorem isHeaderRole_of_mem_rolesFromHeader {value : Option String} {roles : List String}
    (h : rolesFromHeader value = .ok roles) : ∀ role ∈ roles, IsHeaderRole role := by
  intro role hrole
  unfold rolesFromHeader at h
  cases value with
  | none =>
      cases h
      cases hrole
  | some value =>
      simp only at h
      split at h
      · cases h
        cases hrole
      split at h
      · cases h
      · cases h
        rw [List.mem_filter, List.map_map, List.mem_map] at hrole
        obtain ⟨⟨piece, hpiece, rfl⟩, hne⟩ := hrole
        refine ⟨⟨of_decide_eq_true hne, Text.strip_strip _⟩, ?_⟩
        intro hmem
        obtain ⟨front, back, heq, _, _⟩ :=
          Text.exists_eq_append_dropBoth Text.isSpace (String.ofList piece)
        have hcomma : ',' ∈ (String.ofList piece).toList := by
          rw [heq]
          exact List.mem_append_left _ (List.mem_append_right _ hmem)
        rw [String.toList_ofList] at hcomma
        exact not_mem_of_mem_splitAtEvery hpiece hcomma

/-- INTERNAL: joined roles are read one by one, each without the white space around it. -/
theorem rolesFromHeader_joinRoles {roles : List String} (hroles : roles ≠ [])
    (hcomma : ∀ r ∈ roles, ',' ∉ r.toList) (hne : ∀ r ∈ roles, Text.strip r ≠ "") :
    rolesFromHeader (some (Text.strip (joinRoles roles))) = .ok (roles.map Text.strip) := by
  have hpieces : ((splitAtEvery ',' (Text.strip (joinRoles roles)).toList).map
      String.ofList).map Text.strip = roles.map Text.strip := by
    have hpieces := map_strip_splitAtEvery (joinRoles roles)
    rw [splitAtEvery_joinRoles hroles hcomma, List.map_map] at hpieces
    rw [List.map_map]
    refine hpieces.trans (List.map_congr_left fun r _ => ?_)
    rw [Function.comp_apply, String.ofList_toList]
  have hlength : ((splitAtEvery ',' (Text.strip (joinRoles roles)).toList).map
      String.ofList).length = roles.length := by
    simpa only [List.length_map] using congrArg List.length hpieces
  have hkept : (roles.map Text.strip).filter (fun role => role ≠ "") =
      roles.map Text.strip := by
    rw [List.filter_eq_self]
    intro r hr
    rw [List.mem_map] at hr
    obtain ⟨r', hr', rfl⟩ := hr
    exact decide_eq_true (hne r' hr')
  have hstripped : Text.strip (Text.strip (joinRoles roles)) ≠ "" := by
    intro hempty
    rw [Text.strip_strip] at hempty
    rw [hempty] at hpieces
    have hmem : "" ∈ roles.map Text.strip := by
      rw [← hpieces]
      decide
    rw [List.mem_map] at hmem
    obtain ⟨r, hr, hr'⟩ := hmem
    exact hne r hr hr'
  unfold rolesFromHeader
  simp only [if_neg hstripped]
  rw [hpieces, hkept, hlength, List.length_map, if_neg (not_not.mpr rfl)]

theorem rolesFromHeader_of_strip_eq_empty {value : String} (h : Text.strip value = "") :
    rolesFromHeader (some value) = .ok [] := by
  unfold rolesFromHeader
  simp only [if_pos h]

/-! ## Looking headers up -/

/-- An ASCII name in lower case. -/
def IsHeaderName (name : String) : Prop :=
  ∀ c ∈ name.toList, c.toNat < 128 ∧ Text.lowerLatin1 c = c

instance (name : String) : Decidable (IsHeaderName name) :=
  inferInstanceAs (Decidable (∀ c ∈ name.toList, c.toNat < 128 ∧ Text.lowerLatin1 c = c))

theorem IsHeaderName.isAscii {name : String} (h : IsHeaderName name) : Bytes.IsAscii name :=
  fun c hc => (h c hc).1

theorem lower_of_isHeaderName (py : Stdlib) {name : String} (h : IsHeaderName name) :
    py.lower name = name := by
  rw [py.lower_latin1 name fun c hc => Nat.lt_trans (h c hc).1 (by decide),
    ← String.toList_inj, String.toList_ofList]
  exact (List.map_congr_left fun c hc => (h c hc).2).trans (List.map_id _)

/-- INTERNAL: names in lower case are looked up as they are, and the values stripped. -/
theorem get?_normalizeHeaders {py : Stdlib} {headers : Dict String String}
    (h : ∀ e ∈ headers.entries, py.lower e.1 = e.1) (name : String) :
    (normalizeHeaders py headers).get? name = (headers.get? name).map Text.strip := by
  unfold normalizeHeaders
  have hmap : headers.entries.map (fun e => (py.lower e.1, Text.strip e.2)) =
      headers.entries.map fun e => (e.1, Text.strip e.2) :=
    List.map_congr_left fun e he => by rw [h e he]
  have hnodup : ((headers.entries.map fun e => (e.1, Text.strip e.2)).map Prod.fst).Nodup := by
    rw [List.map_map]
    exact headers.nodup
  rw [hmap]
  ext value
  rw [Dict.get?_ofList_eq_some_iff hnodup, List.mem_map, Option.map_eq_some_iff]
  constructor
  · rintro ⟨e, he, heq⟩
    rw [Prod.mk.injEq] at heq
    exact ⟨e.2, Dict.get?_eq_some_iff.mpr (by rw [← heq.1]; exact he), heq.2⟩
  · rintro ⟨v, hv, rfl⟩
    exact ⟨(name, v), Dict.get?_eq_some_iff.mp hv, rfl⟩

/-- The context that three headers carry. -/
theorem tenantContextFromTrustedHeaders_eq (py : Stdlib) (headers : Dict String String) :
    tenantContextFromTrustedHeaders py headers = (do
      let normalizedHeaders := normalizeHeaders py headers
      let correlationId := optionalHeader normalizedHeaders correlationIdHeader
      let tenantId ← validatedOptionalTenantId (normalizedHeaders.get? tenantIdHeader)
        correlationId
      let roles ← rolesFromHeader (normalizedHeaders.get? actorRolesHeader)
      return ⟨tenantId, optionalHeader normalizedHeaders subjectIdHeader, roles,
        correlationId⟩) := rfl

end MediaCenter.Shared
