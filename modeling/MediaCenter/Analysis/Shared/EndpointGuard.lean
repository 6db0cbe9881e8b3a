import MediaCenter.Analysis.Shared.TrustedHeaders
import MediaCenter.Model.Shared.Rbac

/-!
# Whom the endpoint guard lets through

The first policy that matches a request decides about it.  A path is compared with a template
without the white space around it and without its empty segments, so the guard takes paths for a
template that a router would not.
-/

set_option autoImplicit false

namespace MediaCenter.Shared

open MediaCenter.Library

/-! ## Decisions -/

/-- The policy is that of the first endpoint that matches, or the default one. -/
def RBACASGIMiddleware.Decides (m : RBACASGIMiddleware) (py : Stdlib) (method path : String)
    (policy : AccessPolicy) : Prop :=
  (∃ earlier endpoint later, m.endpointPolicies = earlier ++ endpoint :: later ∧
    (∀ other ∈ earlier, other.matchesRequest py method path = false) ∧
    endpoint.matchesRequest py method path = true ∧ policy = endpoint.policy) ∨
  ((∀ other ∈ m.endpointPolicies, other.matchesRequest py method path = false) ∧
    policy = m.defaultPolicy)

/-- A governance role of the context is allowed. -/
def Permits (policy : AccessPolicy) (context : TenantContext) : Prop :=
  ∃ role ∈ context.roles, role ∈ governanceRoles ∧ role ∈ policy.allowedRoles

/-- The run calls the wrapped app. -/
def EdgeRun.CallsApp (run : EdgeRun) : Prop := ∃ current, EdgeEffect.calledApp current ∈ run.effects

/-! ## A router -/

/-- The segments of a path, the empty ones included: `path.split("/")`. -/
def rawSegments (path : String) : List String :=
  (splitAtEvery '/' path.toList).map String.ofList

/-- A router compares segment by segment, on the path as it is. -/
def routesTo (template path : String) : Bool :=
  decide ((rawSegments template).length = (rawSegments path).length) &&
    ((rawSegments template).zip (rawSegments path)).all fun parts =>
      pathPartMatches parts.1 parts.2

/-- The path without the white space around it and without empty segments. -/
def canonicalPath (path : String) : String := "/" ++ "/".intercalate (splitPath path)

/-- Nothing is to be trimmed or dropped. -/
def Canonical (path : String) : Prop :=
  Text.strip path = path ∧ (path = "/" ∨
    ∃ segments, segments ≠ [] ∧ "" ∉ segments ∧ rawSegments path = "" :: segments)

section Requests

variable (m : RBACASGIMiddleware) (py : Stdlib) (scope : ASGIScope)

theorem requireAccess_eq_ok_iff {policy : AccessPolicy} {context actor : TenantContext} :
    requireAccess policy context = .ok actor ↔ Permits policy context ∧ actor = context := by
  have hpermits : ((context.roles.filter fun role => governanceRoles.contains role).any
      fun role => policy.allowedRoles.contains role) = true ↔ Permits policy context := by
    unfold Permits
    simp only [List.any_eq_true, List.mem_filter, List.contains_iff_mem, and_assoc]
  unfold requireAccess
  simp only
  by_cases h : Permits policy context
  · rw [if_pos (hpermits.mpr h), Except.ok.injEq]
    exact ⟨fun hsame => ⟨h, hsame.symm⟩, fun hsame => hsame.2.symm⟩
  · rw [if_neg (mt hpermits.mp h)]
    constructor
    · intro hok
      cases hok
    · intro hok
      exact absurd hok.1 h

/-- `_policy_for_scope` finds the policy that decides, and there is no other. -/
theorem decides_iff (policy : AccessPolicy) :
    m.Decides py (py.upper (scopeString scope.method)) (scopeString scope.path) policy ↔
      policy = m.policyForScope py scope := by
  unfold RBACASGIMiddleware.policyForScope RBACASGIMiddleware.Decides
  simp only
  generalize py.upper (scopeString scope.method) = method
  generalize scopeString scope.path = path
  cases hfind : m.endpointPolicies.find? (fun endpoint =>
      endpoint.matchesRequest py method path) with
  | none =>
      have hnone : ∀ other ∈ m.endpointPolicies,
          other.matchesRequest py method path = false := by
        intro other hother
        exact Bool.eq_false_iff.mpr (List.find?_eq_none.mp hfind other hother)
      constructor
      · rintro (⟨earlier, endpoint, later, hsplit, _, hmatches, _⟩ | ⟨_, hpolicy⟩)
        · have hother := hnone endpoint (by rw [hsplit]; simp)
          rw [hmatches] at hother
          cases hother
        · exact hpolicy
      · intro hpolicy
        exact .inr ⟨hnone, hpolicy⟩
  | some found =>
      obtain ⟨hmatches, earlier, later, hsplit, hearlier⟩ :=
        List.find?_eq_some_iff_append.mp hfind
      have hearlier : ∀ other ∈ earlier, other.matchesRequest py method path = false := by
        intro other hother
        simpa using hearlier other hother
      constructor
      · rintro (⟨earlier', endpoint, later', hsplit', hearlier', hmatches', hpolicy⟩ | ⟨hnone, _⟩)
        · have hfind' : m.endpointPolicies.find? (fun endpoint =>
              endpoint.matchesRequest py method path) = some endpoint := by
            rw [List.find?_eq_some_iff_append]
            refine ⟨hmatches', earlier', later', hsplit', ?_⟩
            intro other hother
            simpa using hearlier' other hother
          rw [hfind', Option.some.injEq] at hfind
          rw [hpolicy, hfind]
        · have hother := hnone found (by rw [hsplit]; simp)
          rw [hmatches] at hother
          cases hother
      · intro hpolicy
        exact .inl ⟨earlier, found, later, hsplit, hearlier, hmatches, hpolicy⟩

/-- An error response calls nothing. -/
theorem not_calledApp_sendError (code message : String) (details : JSONObject)
    (correlationId : Option String) (current : Option TenantContext) :
    EdgeEffect.calledApp current ∉
      (RBACASGIMiddleware.sendError code message details correlationId).1 := by
  unfold RBACASGIMiddleware.sendError
  split
  · exact List.not_mem_nil
  · simp

theorem callsApp_callApp (app : ASGIApp) (current : Option TenantContext) :
    (RBACASGIMiddleware.callApp app current).CallsApp :=
  ⟨current, List.mem_singleton_self _⟩

theorem callsApp_iff (app : ASGIApp) (current : Option TenantContext)
    (hhttp : scope.type = some "http") :
    (m.call py scope app current).CallsApp ↔
      ∃ context, current = some context ∧ Permits (m.policyForScope py scope) context := by
  have hchecked : (∃ actor, (resolveContext none current >>=
      requireAccess (m.policyForScope py scope)) = .ok actor) ↔
      ∃ context, current = some context ∧ Permits (m.policyForScope py scope) context := by
    cases current with
    | none =>
        constructor
        · rintro ⟨actor, hactor⟩
          cases hactor
        · rintro ⟨context, hnone, _⟩
          cases hnone
    | some context =>
        simp only [resolveContext, bind, Except.bind, requireAccess_eq_ok_iff, Option.some.injEq]
        constructor
        · rintro ⟨actor, hpermits, _⟩
          exact ⟨context, rfl, hpermits⟩
        · rintro ⟨_, rfl, hpermits⟩
          exact ⟨_, hpermits, rfl⟩
  rw [← hchecked]
  unfold RBACASGIMiddleware.call
  rw [if_neg (not_not.mpr hhttp)]
  simp only
  generalize resolveContext none current >>= requireAccess (m.policyForScope py scope) = result
  cases result with
  | ok actor => exact ⟨fun _ => ⟨actor, rfl⟩, fun _ => callsApp_callApp app current⟩
  | error e =>
      have hnot : ¬ ∃ actor, (Except.error e : Except SharedException TenantContext) =
          .ok actor := by
        rintro ⟨actor, hactor⟩
        cases hactor
      refine iff_of_false ?_ hnot
      rintro ⟨current', hcalled⟩
      cases e
      case tenantIsolation => exact not_calledApp_sendError _ _ _ _ _ hcalled
      case forbidden => exact not_calledApp_sendError _ _ _ _ _ hcalled
      all_goals cases hcalled

/-- Policies that do not match a request change nothing, wherever they are added. -/
theorem policyForScope_added (defaultPolicy : AccessPolicy)
    {earlier added later : List EndpointAccessPolicy}
    (h : ∀ endpoint ∈ added, endpoint.matchesRequest py (py.upper (scopeString scope.method))
      (scopeString scope.path) = false) :
    RBACASGIMiddleware.policyForScope ⟨earlier ++ added ++ later, defaultPolicy⟩ py scope =
      RBACASGIMiddleware.policyForScope ⟨earlier ++ later, defaultPolicy⟩ py scope := by
  have hnone : added.find? (fun endpoint => endpoint.matchesRequest py
      (py.upper (scopeString scope.method)) (scopeString scope.path)) = none := by
    rw [List.find?_eq_none]
    intro endpoint hendpoint
    rw [h endpoint hendpoint]
    decide
  unfold RBACASGIMiddleware.policyForScope
  simp only [List.find?_append, hnone, Option.or_none]

end Requests

/-! ## Paths -/

section Paths

variable {sep : Char} {l : List Char}

/-- INTERNAL: a separator in front only adds an empty piece. -/
theorem filter_splitAtEvery_dropWhile (l : List Char) :
    (splitAtEvery sep (l.dropWhile fun c => c = sep)).filter (fun piece => piece ≠ []) =
      (splitAtEvery sep l).filter fun piece => piece ≠ [] := by
  induction l with
  | nil => rfl
  | cons c l ih =>
      by_cases hc : c = sep
      · rw [List.dropWhile_cons_of_pos (by simpa using hc), ih, splitAtEvery, if_pos hc,
          List.filter_cons_of_neg (by simp)]
      · rw [List.dropWhile_cons_of_neg (by simpa using hc)]

theorem exists_splitAtEvery_eq_cons (l : List Char) : ∃ w ws, splitAtEvery sep l = w :: ws := by
  rw [splitAtEvery_eq_splitOn]
  exact List.exists_cons_of_ne_nil (List.splitOn_ne_nil sep l)

theorem splitAtEvery_concat (l : List Char) :
    splitAtEvery sep (l ++ [sep]) = splitAtEvery sep l ++ [[]] := by
  induction l with
  | nil => simp [splitAtEvery]
  | cons c l ih =>
      rw [List.cons_append, splitAtEvery, splitAtEvery, ih]
      by_cases hc : c = sep
      · rw [if_pos hc, if_pos hc, List.cons_append]
      · rw [if_neg hc, if_neg hc]
        obtain ⟨w, ws, hl⟩ := @exists_splitAtEvery_eq_cons sep l
        rw [hl]
        rfl

/-- INTERNAL: so does one behind. -/
theorem filter_splitAtEvery_rdropWhile (l : List Char) :
    (splitAtEvery sep (l.rdropWhile fun c => c = sep)).filter (fun piece => piece ≠ []) =
      (splitAtEvery sep l).filter fun piece => piece ≠ [] := by
  induction l using List.reverseRecOn with
  | nil => rfl
  | append_singleton l c ih =>
      by_cases hc : c = sep
      · rw [List.rdropWhile_concat_pos _ _ _ (by simpa using hc), ih, hc, splitAtEvery_concat,
          List.filter_append, List.filter_cons_of_neg (by simp), List.filter_nil, List.append_nil]
      · rw [List.rdropWhile_concat_neg _ _ _ (by simpa using hc)]

theorem filter_map_ofList (pieces : List (List Char)) :
    (pieces.map String.ofList).filter (fun part => part ≠ "") =
      (pieces.filter fun piece => piece ≠ []).map String.ofList := by
  rw [List.filter_map]
  congr 1
  apply List.filter_congr
  intro piece _
  have hempty : String.ofList piece = "" ↔ piece = [] := by
    rw [← String.toList_inj, String.toList_ofList]
    rfl
  simp only [Function.comp_apply, ne_eq, hempty]

/-- `_split_path` in closed form: the segments that are not empty. -/
theorem splitPath_eq (value : String) :
    splitPath value = (rawSegments (Text.strip value)).filter fun part => part ≠ "" := by
  unfold splitPath rawSegments
  simp only
  split
  · rename_i hroot
    rw [hroot]
    decide
  · rw [filter_map_ofList, filter_map_ofList, Text.toList_dropBoth,
      filter_splitAtEvery_rdropWhile, filter_splitAtEvery_dropWhile]

/-! ## Templates -/

/-- The parts are as many, and each matches. -/
def partsMatch (templateParts pathParts : List String) : Bool :=
  decide (templateParts.length = pathParts.length) &&
    (templateParts.zip pathParts).all fun parts => pathPartMatches parts.1 parts.2

theorem pathTemplateMatches_eq (template path : String) :
    pathTemplateMatches template path = partsMatch (splitPath template) (splitPath path) := by
  unfold pathTemplateMatches partsMatch
  simp only
  by_cases h : (splitPath template).length = (splitPath path).length
  · rw [if_neg (not_not.mpr h), decide_eq_true h, Bool.true_and]
  · rw [if_pos h, decide_eq_false h, Bool.false_and]

theorem partsMatch_cons (templatePart pathPart : String) (templateParts pathParts : List String) :
    partsMatch (templatePart :: templateParts) (pathPart :: pathParts) =
      (pathPartMatches templatePart pathPart && partsMatch templateParts pathParts) := by
  unfold partsMatch
  simp only [List.length_cons, Nat.add_right_cancel_iff, List.zip_cons_cons, List.all_cons]
  rw [← Bool.and_assoc, Bool.and_comm (decide _), Bool.and_assoc]

theorem pathPartMatches_empty_left {part : String} (h : part ≠ "") :
    pathPartMatches "" part = false := by
  unfold pathPartMatches
  rw [if_neg (by decide), decide_eq_false h.symm]

theorem pathPartMatches_empty_right {part : String} (h : part ≠ "") :
    pathPartMatches part "" = false := by
  unfold pathPartMatches
  split
  · simp
  · exact decide_eq_false h

/-- The segments of the canonical path with these parts. -/
def canonicalSegments (parts : List String) : List String :=
  "" :: if parts = [] then [""] else parts

/-- The leading slash is common to all canonical paths, and only the root is like the root. -/
theorem partsMatch_canonicalSegments {templateParts pathParts : List String}
    (ht : "" ∉ templateParts) (hp : "" ∉ pathParts) :
    partsMatch (canonicalSegments templateParts) (canonicalSegments pathParts) =
      partsMatch templateParts pathParts := by
  have hroot : pathPartMatches "" "" = true := by decide
  unfold canonicalSegments
  rw [partsMatch_cons, hroot, Bool.true_and]
  cases templateParts with
  | nil =>
      cases pathParts with
      | nil => decide
      | cons part rest =>
          have hpart : part ≠ "" := fun h => hp (by simp [h])
          rw [if_pos rfl, if_neg (List.cons_ne_nil _ _), partsMatch_cons,
            pathPartMatches_empty_left hpart, Bool.false_and]
          rfl
  | cons templatePart templateRest =>
      have htemplate : templatePart ≠ "" := fun h => ht (by simp [h])
      rw [if_neg (List.cons_ne_nil _ _)]
      cases pathParts with
      | nil =>
          rw [if_pos rfl, partsMatch_cons, pathPartMatches_empty_right htemplate, Bool.false_and]
          rfl
      | cons part rest => rw [if_neg (List.cons_ne_nil _ _)]

theorem not_mem_of_mem_splitPath {value part : String} (h : part ∈ splitPath value) :
    part ≠ "" ∧ '/' ∉ part.toList := by
  rw [splitPath_eq, List.mem_filter, decide_eq_true_eq] at h
  obtain ⟨hmem, hne⟩ := h
  obtain ⟨piece, hpiece, rfl⟩ := List.mem_map.mp hmem
  rw [String.toList_ofList]
  exact ⟨hne, not_mem_of_mem_splitAtEvery hpiece⟩

theorem toList_canonicalPath (path : String) : (canonicalPath path).toList =
    '/' :: ['/'].intercalate ((splitPath path).map String.toList) := by
  have hslash : "/".toList = ['/'] := by decide
  unfold canonicalPath
  rw [String.toList_append, String.toList_intercalate, hslash, List.singleton_append]

theorem rawSegments_canonicalPath (path : String) :
    rawSegments (canonicalPath path) = canonicalSegments (splitPath path) := by
  have hfree : ∀ piece ∈ (splitPath path).map String.toList, '/' ∉ piece := by
    intro piece hpiece
    obtain ⟨part, hpart, rfl⟩ := List.mem_map.mp hpiece
    exact (not_mem_of_mem_splitPath hpart).2
  unfold rawSegments canonicalSegments
  rw [toList_canonicalPath, splitAtEvery, if_pos rfl, List.map_cons]
  generalize splitPath path = parts at hfree
  cases parts with
  | nil => rfl
  | cons part rest =>
      rw [if_neg (List.cons_ne_nil _ _), splitAtEvery_eq_splitOn,
        List.splitOn_intercalate _ hfree (by simp), List.map_map]
      have hid : (String.ofList ∘ String.toList) = id := by
        funext text
        exact String.ofList_toList
      rw [hid, List.map_id]

/-- A path can be put together again from its segments. -/
theorem rawSegments_injective : Function.Injective rawSegments := by
  intro path path' h
  have hpieces : splitAtEvery '/' path.toList = splitAtEvery '/' path'.toList := by
    refine List.map_injective_iff.mpr ?_ h
    intro piece piece' hsame
    rw [← String.toList_ofList (l := piece), hsame, String.toList_ofList]
  rw [splitAtEvery_eq_splitOn, splitAtEvery_eq_splitOn] at hpieces
  calc path = String.ofList (['/'].intercalate (path.toList.splitOn '/')) := by
        rw [List.intercalate_splitOn, String.ofList_toList]
    _ = String.ofList (['/'].intercalate (path'.toList.splitOn '/')) := by rw [hpieces]
    _ = path' := by rw [List.intercalate_splitOn, String.ofList_toList]

theorem pathTemplateMatches_eq_routesTo (template path : String) :
    pathTemplateMatches template path =
      routesTo (canonicalPath template) (canonicalPath path) := by
  have hempty : ∀ value, "" ∉ splitPath value :=
    fun value hmem => (not_mem_of_mem_splitPath hmem).1 rfl
  rw [pathTemplateMatches_eq]
  unfold routesTo
  rw [rawSegments_canonicalPath, rawSegments_canonicalPath]
  exact (partsMatch_canonicalSegments (hempty template) (hempty path)).symm

theorem Canonical.canonicalPath_eq {path : String} (h : Canonical path) :
    canonicalPath path = path := by
  obtain ⟨hstrip, rfl | ⟨segments, hne, hempty, hsegments⟩⟩ := h
  · decide
  · have hparts : splitPath path = segments := by
      rw [splitPath_eq, hstrip, hsegments, List.filter_cons_of_neg (by simp), List.filter_eq_self]
      intro part hpart
      rw [decide_eq_true_eq]
      exact fun hnil => hempty (hnil ▸ hpart)
    apply rawSegments_injective
    rw [rawSegments_canonicalPath, hparts, canonicalSegments, if_neg hne, hsegments]

end Paths

/-! ## The guard -/

/-- Who is let through, what matches, and what other policies change. -/
theorem guard_admits (m : RBACASGIMiddleware) (py : Stdlib) (scope : ASGIScope) (app : ASGIApp)
    (current : Option TenantContext) :
    (scope.type = some "http" → ((m.call py scope app current).CallsApp ↔
      ∃ context policy, current = some context ∧
        m.Decides py (py.upper (scopeString scope.method)) (scopeString scope.path) policy ∧
        Permits policy context)) ∧
    (∀ template path : String,
      (pathTemplateMatches template path = true ↔
        routesTo (canonicalPath template) (canonicalPath path) = true) ∧
      (Canonical template → Canonical path →
        (pathTemplateMatches template path = true ↔ routesTo template path = true))) ∧
    (∀ earlier added later : List EndpointAccessPolicy,
      m.endpointPolicies = earlier ++ later →
      (∀ endpoint ∈ added, endpoint.matchesRequest py (py.upper (scopeString scope.method))
        (scopeString scope.path) = false) →
      RBACASGIMiddleware.call ⟨earlier ++ added ++ later, m.defaultPolicy⟩ py scope app current =
        m.call py scope app current) := by
  refine ⟨?_, ?_, ?_⟩
  · intro hhttp
    rw [callsApp_iff m py scope app current hhttp]
    constructor
    · rintro ⟨context, hcurrent, hpermits⟩
      exact ⟨context, _, hcurrent, (decides_iff m py scope _).mpr rfl, hpermits⟩
    · rintro ⟨context, policy, hcurrent, hdecides, hpermits⟩
      rw [decides_iff] at hdecides
      exact ⟨context, hcurrent, hdecides ▸ hpermits⟩
  · intro template path
    rw [pathTemplateMatches_eq_routesTo]
    refine ⟨Iff.rfl, ?_⟩
    intro htemplate hpath
    rw [htemplate.canonicalPath_eq, hpath.canonicalPath_eq]
  · intro earlier added later hpolicies hadded
    obtain ⟨endpointPolicies, defaultPolicy⟩ := m
    simp only at hpolicies
    subst hpolicies
    unfold RBACASGIMiddleware.call
    rw [policyForScope_added py scope defaultPolicy hadded]

/-- A member of the council may record an audit entry. -/
theorem guard_admits_record : (RBACASGIMiddleware.call
    ⟨blockchainAuditEndpointPolicies, denyUnlisted⟩ Reference.stdlib
    ⟨some "http", some "/audit/record", some "POST", none, [], none⟩ (fun current => (true, current))
    (some ⟨"media-center", some "council-1", [councilRole], none⟩)).CallsApp := by
  refine ((guard_admits _ _ _ _ _).1 rfl).mpr
    ⟨_, auditRecordEndpoint.policy, rfl, .inl ⟨[], auditRecordEndpoint,
      [auditVerifyEndpoint, auditReadEndpoint], rfl, ?_, ?_, rfl⟩, ?_⟩
  · intro other hother
    cases hother
  · decide +kernel
  · exact ⟨councilRole, List.mem_singleton_self _, by decide, by decide⟩

/-- A doubled slash is dropped by the guard, and no router drops it. -/
theorem not_guard_routes : ¬ ∀ template path : String,
    pathTemplateMatches template path = true → routesTo template path = true := by
  intro h
  have hroutes := h "/audit/record" "/audit//record" (by decide +kernel)
  revert hroutes
  decide

end MediaCenter.Shared
