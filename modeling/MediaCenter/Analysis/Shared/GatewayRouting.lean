import MediaCenter.Analysis.Shared.IdentityPropagation

/-!
# Routes and headers of the gateway

The longest prefix of a path decides where a request goes, in whatever order the routes were
given.  What the service reads about the caller is written by the gateway alone; of the client's
own headers under those names only the correlation id can reach it.
-/

set_option autoImplicit false

namespace MediaCenter.Shared

open MediaCenter.Library

/-! ## Routes -/

/-- The path is the prefix, or goes on behind it with a new segment. -/
def OnBoundary (pathPrefix path : String) : Prop :=
  path = pathPrefix ∨ ∃ rest, path = pathPrefix ++ "/" ++ rest

section Routes

variable {route : GatewayRoute} {path : String}

theorem matchesPath_iff : route.matchesPath path = true ↔ OnBoundary route.pathPrefix path := by
  unfold GatewayRoute.matchesPath OnBoundary
  rw [Bool.or_eq_true, beq_iff_eq, List.isPrefixOf_iff_prefix]
  apply or_congr Iff.rfl
  constructor
  · rintro ⟨rest, hrest⟩
    refine ⟨String.ofList rest, ?_⟩
    rw [← String.toList_inj, String.toList_append, String.toList_ofList, hrest]
  · rintro ⟨rest, rfl⟩
    simp only [String.toList_append]
    exact List.prefix_append _ _

theorem OnBoundary.exists_eq_append {pathPrefix : String} (h : OnBoundary pathPrefix path) :
    ∃ suffix, path.toList = pathPrefix.toList ++ suffix := by
  rcases h with rfl | ⟨rest, rfl⟩
  · exact ⟨[], (List.append_nil _).symm⟩
  · rw [String.append_assoc, String.toList_append]
    exact ⟨_, rfl⟩

/-- Two prefixes of a path that are as long are the same. -/
theorem OnBoundary.pathPrefix_eq {a b : String} (ha : OnBoundary a path) (hb : OnBoundary b path)
    (h : a.toList.length = b.toList.length) : a = b := by
  obtain ⟨suffix, hsuffix⟩ := ha.exists_eq_append
  obtain ⟨suffix', hsuffix'⟩ := hb.exists_eq_append
  rw [hsuffix] at hsuffix'
  exact String.toList_inj.mp (List.append_inj_left hsuffix' h)

/-- The prefix and the downstream path make the path again, but for the slash of the root. -/
theorem OnBoundary.append_downstreamPath (h : OnBoundary route.pathPrefix path) :
    route.pathPrefix ++ route.downstreamPath path = path ∨
      (path = route.pathPrefix ∧ route.downstreamPath path = "/") := by
  obtain ⟨suffix, hsuffix⟩ := h.exists_eq_append
  have hdrop : path.toList.drop route.pathPrefix.toList.length = suffix := by
    rw [hsuffix, List.drop_left]
  unfold GatewayRoute.downstreamPath
  rw [hdrop]
  simp only
  by_cases hnil : String.ofList suffix = ""
  · rw [if_neg (not_not.mpr hnil)]
    refine .inr ⟨?_, rfl⟩
    rw [← String.toList_inj, hsuffix]
    have hempty : suffix = [] := by
      rw [← String.toList_ofList (l := suffix), hnil]
      rfl
    rw [hempty, List.append_nil]
  · rw [if_pos hnil]
    refine .inl ?_
    rw [← String.toList_inj, String.toList_append, String.toList_ofList, hsuffix]

end Routes

namespace APIGateway

variable {gateway : APIGateway} {scope : ASGIScope} {context : TenantContext}

/-- INTERNAL: the first route that matches has the longest prefix, as the longer ones come
first; there is no second one as the prefixes differ. -/
theorem routeForScope_eq_ok_iff (hdistinct : (gateway.routes.map GatewayRoute.pathPrefix).Nodup)
    (route : GatewayRoute) : gateway.routeForScope scope context = .ok route ↔
      route ∈ gateway.routes ∧ OnBoundary route.pathPrefix (scopeString scope.path) ∧
      ∀ other ∈ gateway.routes, OnBoundary other.pathPrefix (scopeString scope.path) →
        other ≠ route → other.pathPrefix.toList.length < route.pathPrefix.toList.length := by
  generalize hpath : scopeString scope.path = path
  have hfound : gateway.routeForScope scope context = .ok route ↔
      gateway.routes.find? (fun route => route.matchesPath path) = some route := by
    unfold routeForScope
    rw [hpath]
    split
    · rename_i found hfind
      rw [hfind, Except.ok.injEq, Option.some.injEq]
    · rename_i hfind
      rw [hfind]
      exact iff_of_false (fun h => by cases h) (fun h => by cases h)
  have hlongest : ∀ found, gateway.routes.find? (fun route => route.matchesPath path) =
      some found → found ∈ gateway.routes ∧ OnBoundary found.pathPrefix path ∧
      ∀ other ∈ gateway.routes, OnBoundary other.pathPrefix path →
        other.pathPrefix.toList.length ≤ found.pathPrefix.toList.length := by
    intro found hfind
    obtain ⟨hmatches, earlier, later, hsplit, hearlier⟩ := List.find?_eq_some_iff_append.mp hfind
    refine ⟨by rw [hsplit]; simp, matchesPath_iff.mp hmatches, ?_⟩
    intro other hother hboundary
    have hsorted := gateway.routes_sorted
    rw [hsplit] at hother hsorted
    rcases List.mem_append.mp hother with hother | hother
    · have hnot := hearlier other hother
      rw [matchesPath_iff.mpr hboundary] at hnot
      cases hnot
    · rcases List.mem_cons.mp hother with rfl | hother
      · exact le_refl _
      · exact List.rel_of_pairwise_cons (List.pairwise_append.mp hsorted).2.1 hother
  have hunique : ∀ a ∈ gateway.routes, ∀ b ∈ gateway.routes, OnBoundary a.pathPrefix path →
      OnBoundary b.pathPrefix path →
      a.pathPrefix.toList.length = b.pathPrefix.toList.length → a = b := by
    intro a ha b hb hboundary hboundary' hlength
    exact List.inj_on_of_nodup_map hdistinct ha hb (hboundary.pathPrefix_eq hboundary' hlength)
  rw [hfound]
  constructor
  · intro hfind
    obtain ⟨hmem, hboundary, hlength⟩ := hlongest route hfind
    refine ⟨hmem, hboundary, ?_⟩
    intro other hother hboundary' hne
    apply lt_of_le_of_ne (hlength other hother hboundary')
    intro hsame
    exact hne (hunique other hother route hmem hboundary' hboundary hsame)
  · rintro ⟨hmem, hboundary, hlongerThan⟩
    cases hfind : gateway.routes.find? (fun route => route.matchesPath path) with
    | none =>
        exact absurd (matchesPath_iff.mpr hboundary) (List.find?_eq_none.mp hfind route hmem)
    | some found =>
        obtain ⟨hmem', hboundary', hlength⟩ := hlongest found hfind
        by_contra hne
        have hlt := hlongerThan found hmem' hboundary' fun h => hne (by rw [h])
        exact absurd (hlength route hmem hboundary) (not_le.mpr hlt)

theorem exists_routeForScope_iff : (∃ route, gateway.routeForScope scope context = .ok route) ↔
    ∃ route ∈ gateway.routes, OnBoundary route.pathPrefix (scopeString scope.path) := by
  unfold routeForScope
  split
  · rename_i found hfind
    have hmatches := (List.find?_eq_some_iff_append.mp hfind).1
    exact iff_of_true ⟨found, rfl⟩
      ⟨found, List.mem_of_find?_eq_some hfind, matchesPath_iff.mp hmatches⟩
  · rename_i hfind
    refine iff_of_false (by rintro ⟨_, h⟩; cases h) ?_
    rintro ⟨route, hroute, hboundary⟩
    exact List.find?_eq_none.mp hfind route hroute (matchesPath_iff.mpr hboundary)

/-- The error names the path only. -/
theorem routeForScope_eq_error {e : GatewayException}
    (h : gateway.routeForScope scope context = .error e) :
    e = .core (.routeNotFound (scopeString scope.path) context.correlationId) := by
  unfold routeForScope at h
  split at h
  · cases h
  · cases h
    rfl

end APIGateway

/-! ## Headers -/

/-- What the gateway writes about a request, from the context, the route and the path. -/
def trustedHeaders (context : TenantContext) (pathPrefix originalPath : String) :
    List (String × String) :=
  [(tenantIdHeader, context.tenantId), (serviceNameHeader, "api-gateway"),
    (forwardedPrefixHeader, pathPrefix), (originalPathHeader, originalPath),
    (actorRolesHeader, joinRoles context.roles)] ++
  context.subject.toList.map fun subject => (subjectIdHeader, subject)

/-- Of the headers under the gateway's names only the correlation id comes from outside, none
comes twice, and none concerns the connection. -/
structure CleanHeaders (context : TenantContext) (pathPrefix originalPath : String)
    (headers : List (Bytes × Bytes)) : Prop where
  once : ∀ name ∈ gatewayContextHeaders,
    (headers.filter fun e => Bytes.lower e.1 = name).length ≤ 1
  trusted : ∀ e ∈ headers, Bytes.lower e.1 ∈ gatewayContextHeaders →
    Bytes.lower e.1 ≠ Bytes.encodeUtf8 correlationIdHeader →
    e ∈ (trustedHeaders context pathPrefix originalPath).map fun h =>
      (Bytes.encodeUtf8 h.1, Bytes.encodeUtf8 h.2)
  no_hopByHop : ∀ e ∈ headers, Bytes.lower e.1 ∉ hopByHopHeaders

/-- The header is none of the gateway's own, or the correlation id. -/
def clientsOwn (e : Bytes × Bytes) : Bool :=
  !gatewayContextHeaders.contains (Bytes.lower e.1) ||
    decide (Bytes.lower e.1 = Bytes.encodeUtf8 correlationIdHeader)

/-- The clients' headers differ only under the gateway's names, the correlation id apart. -/
def SameButContext (headers headers' : List (Bytes × Bytes)) : Prop :=
  headers.filter clientsOwn = headers'.filter clientsOwn

section Headers

variable {py : Stdlib} {headers forwarded : List (Bytes × Bytes)}

theorem lower_signatureNames : ∀ name ∈ signatureNames,
    Bytes.lower (Bytes.encodeUtf8 name) ∉ gatewayContextHeaders ∧
      Bytes.lower (Bytes.encodeUtf8 name) ∉ hopByHopHeaders := by
  decide

/-- A signature adds headers of its own, and otherwise only leaves out. -/
theorem exists_signedDownstreamHeaders_eq {method path sourceServiceName : String}
    {s2sAuth : Option S2SAuthenticator} {moment : SigningMoment}
    (h : signedDownstreamHeaders py headers method path s2sAuth sourceServiceName moment =
      .ok forwarded) :
    ∃ kept signed, forwarded = kept ++ signed ∧ kept.Sublist headers ∧
      ∀ e ∈ signed, Bytes.lower e.1 ∉ gatewayContextHeaders ∧
        Bytes.lower e.1 ∉ hopByHopHeaders := by
  unfold signedDownstreamHeaders at h
  cases s2sAuth with
  | none =>
      cases h
      exact ⟨headers, [], (List.append_nil _).symm, List.Sublist.refl _,
        fun _ h => by cases h⟩
  | some s2sAuth =>
      simp only [bind_eq_ok_iff] at h
      obtain ⟨signedHeaders, hsign, signed, hsigned, hpure⟩ := h
      cases hpure
      obtain ⟨signed', hsigned', hnames⟩ := exists_signedHeaderBytes py
        (s2sAuth.names_mem moment method path sourceServiceName signedHeaders hsign)
      rw [hsigned] at hsigned'
      cases hsigned'
      refine ⟨_, signed, rfl, List.filter_sublist, ?_⟩
      intro e he
      obtain ⟨name, hname, hbytes⟩ := hnames e he
      rw [hbytes]
      exact lower_signatureNames name hname

theorem contextHeaders_eq (context : TenantContext)
    (correlationId pathPrefix originalPath : String) :
    contextHeaders context correlationId pathPrefix originalPath =
      (Bytes.encodeUtf8 correlationIdHeader, Bytes.encodeUtf8 correlationId) ::
        (trustedHeaders context pathPrefix originalPath).map fun h =>
          (Bytes.encodeUtf8 h.1, Bytes.encodeUtf8 h.2) := by
  unfold contextHeaders trustedHeaders
  cases context.subject with
  | none => rfl
  | some subject => rfl

/-- The names under which the gateway writes, each once. -/
def writtenNames : List Bytes :=
  ([correlationIdHeader, tenantIdHeader, serviceNameHeader, forwardedPrefixHeader,
    originalPathHeader, actorRolesHeader] ++ [subjectIdHeader]).map Bytes.encodeUtf8

theorem nodup_writtenNames : writtenNames.Nodup := by decide

theorem not_mem_hopByHop_of_written : ∀ name ∈ writtenNames, name ∉ hopByHopHeaders := by
  decide

theorem lower_of_written : ∀ name ∈ writtenNames, Bytes.lower name = name := by decide

theorem map_lower_contextHeaders (context : TenantContext)
    (correlationId pathPrefix originalPath : String) :
    ((contextHeaders context correlationId pathPrefix originalPath).map
      fun e => Bytes.lower e.1).Sublist writtenNames := by
  have hnames : ((contextHeaders context correlationId pathPrefix originalPath).map
      Prod.fst).Sublist writtenNames := by
    have hmap : (contextHeaders context correlationId pathPrefix originalPath).map Prod.fst =
        ([correlationIdHeader, tenantIdHeader, serviceNameHeader, forwardedPrefixHeader,
          originalPathHeader, actorRolesHeader] ++
          context.subject.toList.map fun _ => subjectIdHeader).map Bytes.encodeUtf8 := by
      rw [contextHeaders_eq]
      unfold trustedHeaders
      cases context.subject with
      | none => simp
      | some subject => simp
    rw [hmap]
    apply List.Sublist.map
    apply List.Sublist.append (List.Sublist.refl _)
    cases context.subject with
    | none => exact List.nil_sublist _
    | some subject => exact List.Sublist.refl _
  have hlower : (contextHeaders context correlationId pathPrefix originalPath).map
      (fun e => Bytes.lower e.1) =
      (contextHeaders context correlationId pathPrefix originalPath).map Prod.fst := by
    apply List.map_congr_left
    intro e he
    exact lower_of_written e.1 (hnames.subset (List.mem_map_of_mem he))
  rw [hlower]
  exact hnames

theorem length_filter_named (headers : List (Bytes × Bytes)) (name : Bytes) :
    (headers.filter fun e => Bytes.lower e.1 = name).length =
      (headers.map fun e => Bytes.lower e.1).count name := by
  rw [← List.countP_eq_length_filter, List.count, List.countP_map]
  apply List.countP_congr
  intro e _
  simp

theorem cleanHeaders_of_kept {context : TenantContext}
    {correlationId pathPrefix originalPath : String} {client kept signed : List (Bytes × Bytes)}
    (hclient : ∀ e ∈ client, Bytes.lower e.1 ∉ gatewayContextHeaders ∧
      Bytes.lower e.1 ∉ hopByHopHeaders)
    (hkept : kept.Sublist
      (client ++ contextHeaders context correlationId pathPrefix originalPath))
    (hsigned : ∀ e ∈ signed, Bytes.lower e.1 ∉ gatewayContextHeaders ∧
      Bytes.lower e.1 ∉ hopByHopHeaders) :
    CleanHeaders context pathPrefix originalPath (kept ++ signed) := by
  have hnames := map_lower_contextHeaders context correlationId pathPrefix originalPath
  have hnone : ∀ headers : List (Bytes × Bytes), (∀ e ∈ headers,
      Bytes.lower e.1 ∉ gatewayContextHeaders ∧ Bytes.lower e.1 ∉ hopByHopHeaders) →
      ∀ name ∈ gatewayContextHeaders, (headers.filter fun e => Bytes.lower e.1 = name) = [] := by
    intro headers hheaders name hname
    rw [List.filter_eq_nil_iff]
    intro e he hsame
    exact (hheaders e he).1 (of_decide_eq_true hsame ▸ hname)
  have hwritten : ∀ e ∈ kept, e ∈ client ∨
      e ∈ contextHeaders context correlationId pathPrefix originalPath :=
    fun e he => List.mem_append.mp (hkept.subset he)
  constructor
  · intro name hname
    rw [List.filter_append, hnone signed hsigned name hname, List.append_nil]
    have hsub := hkept.filter fun e => decide (Bytes.lower e.1 = name)
    rw [List.filter_append, hnone client hclient name hname, List.nil_append] at hsub
    calc (kept.filter fun e => Bytes.lower e.1 = name).length
        ≤ ((contextHeaders context correlationId pathPrefix originalPath).filter
            fun e => Bytes.lower e.1 = name).length := hsub.length_le
      _ = ((contextHeaders context correlationId pathPrefix originalPath).map
            fun e => Bytes.lower e.1).count name := length_filter_named _ name
      _ ≤ writtenNames.count name := hnames.count_le name
      _ ≤ 1 := List.nodup_iff_count_le_one.mp nodup_writtenNames name
  · intro e he hname hother
    rcases List.mem_append.mp he with he | he
    · rcases hwritten e he with hown | hown
      · exact absurd hname (hclient e hown).1
      · rw [contextHeaders_eq, List.mem_cons] at hown
        rcases hown with rfl | hown
        · exact absurd (lower_of_written _ List.mem_cons_self) hother
        · exact hown
    · exact absurd hname (hsigned e he).1
  · intro e he
    rcases List.mem_append.mp he with he | he
    · rcases hwritten e he with hown | hown
      · exact (hclient e hown).2
      · exact not_mem_hopByHop_of_written _
          (hnames.subset (List.mem_map_of_mem (f := fun e => Bytes.lower e.1) hown))
    · exact (hsigned e he).2

/-- INTERNAL: what a client sends under the gateway's names is left out, and so is what concerns
the connection. -/
theorem cleanHeaders_downstreamHeaders {scope : ASGIScope} {route : GatewayRoute}
    {context : TenantContext} {downstreamPath sourceServiceName : String}
    {s2sAuth : Option S2SAuthenticator} {moment : SigningMoment} {uuid : Uuid4}
    (h : downstreamHeaders py scope route context downstreamPath s2sAuth sourceServiceName
      moment uuid = .ok forwarded) :
    CleanHeaders context route.pathPrefix (scopeString scope.path) forwarded := by
  unfold downstreamHeaders at h
  obtain ⟨kept, signed, rfl, hkept, hsigned⟩ := exists_signedDownstreamHeaders_eq h
  refine cleanHeaders_of_kept ?_ hkept hsigned
  intro e he
  rw [List.mem_filter, Bool.and_eq_true, Bool.not_eq_true', Bool.not_eq_true',
    ← Bool.not_eq_true, ← Bool.not_eq_true, List.contains_iff_mem, List.contains_iff_mem] at he
  exact ⟨he.2.2, he.2.1⟩

/-! ## Two clients -/

/-- The correlation id is read among the headers that may differ no more. -/
theorem SameButContext.headerValue_eq {headers' : List (Bytes × Bytes)}
    (h : SameButContext headers headers') :
    headerValue headers (Bytes.encodeUtf8 correlationIdHeader) =
      headerValue headers' (Bytes.encodeUtf8 correlationIdHeader) := by
  have hkept : ∀ headers : List (Bytes × Bytes),
      headerValue headers (Bytes.encodeUtf8 correlationIdHeader) =
        headerValue (headers.filter clientsOwn) (Bytes.encodeUtf8 correlationIdHeader) := by
    intro headers
    unfold headerValue
    rw [lower_of_written _ List.mem_cons_self, List.find?_filter]
    congr 2
    funext e
    unfold clientsOwn
    by_cases hname : Bytes.lower e.1 = Bytes.encodeUtf8 correlationIdHeader
    · simp [hname]
    · simp [hname]
  rw [hkept headers, hkept headers', h]

theorem SameButContext.filter_eq {headers' : List (Bytes × Bytes)}
    (h : SameButContext headers headers') :
    headers.filter (fun e => !hopByHopHeaders.contains (Bytes.lower e.1) &&
      !gatewayContextHeaders.contains (Bytes.lower e.1)) =
    headers'.filter fun e => !hopByHopHeaders.contains (Bytes.lower e.1) &&
      !gatewayContextHeaders.contains (Bytes.lower e.1) := by
  have hkept : ∀ headers : List (Bytes × Bytes),
      headers.filter (fun e => !hopByHopHeaders.contains (Bytes.lower e.1) &&
        !gatewayContextHeaders.contains (Bytes.lower e.1)) =
      (headers.filter clientsOwn).filter fun e => !hopByHopHeaders.contains (Bytes.lower e.1) &&
        !gatewayContextHeaders.contains (Bytes.lower e.1) := by
    intro headers
    rw [List.filter_filter]
    congr 1
    funext e
    unfold clientsOwn
    cases gatewayContextHeaders.contains (Bytes.lower e.1) with
    | true => simp
    | false => simp
  rw [hkept headers, hkept headers', h]

end Headers

/-! ## The gateway -/

/-- The same request with other headers. -/
def GatewayRequest.withHeaders (r : GatewayRequest) (headers : List (Bytes × Bytes)) :
    GatewayRequest :=
  { r with scope := { r.scope with headers := headers } }

section WithHeaders

variable (r : GatewayRequest) (headers : List (Bytes × Bytes))

@[simp] theorem withHeaders_context : (r.withHeaders headers).context = r.context := rfl

@[simp] theorem withHeaders_limiterNow : (r.withHeaders headers).limiterNow = r.limiterNow := rfl

@[simp] theorem withHeaders_managerNow : (r.withHeaders headers).managerNow = r.managerNow := rfl

@[simp] theorem withHeaders_type : (r.withHeaders headers).scope.type = r.scope.type := rfl

@[simp] theorem withHeaders_path : (r.withHeaders headers).scope.path = r.scope.path := rfl

@[simp] theorem withHeaders_method : (r.withHeaders headers).scope.method = r.scope.method := rfl

end WithHeaders

namespace APIGateway

variable {py : Stdlib} {gateway : APIGateway}

theorem downstreamScope_withHeaders {r : GatewayRequest} {headers : List (Bytes × Bytes)}
    (h : SameButContext r.scope.headers headers) (route : GatewayRoute)
    (context : TenantContext) :
    gateway.downstreamScope py (r.withHeaders headers) route context =
      gateway.downstreamScope py r route context := by
  have hcorrelation : downstreamCorrelationId context headers r.uuid =
      downstreamCorrelationId context r.scope.headers r.uuid := by
    unfold downstreamCorrelationId
    rw [h.headerValue_eq]
  have hheaders : ∀ downstreamPath, downstreamHeaders py { r.scope with headers := headers }
      route context downstreamPath gateway.s2sAuth gateway.sourceServiceName r.signing r.uuid =
      downstreamHeaders py r.scope route context downstreamPath gateway.s2sAuth
        gateway.sourceServiceName r.signing r.uuid := by
    intro downstreamPath
    unfold downstreamHeaders
    simp only [hcorrelation, h.filter_eq]
  unfold downstreamScope GatewayRequest.withHeaders
  simp only [hheaders]
  rfl

/-- The limits do not look at the headers. -/
theorem admission_withHeaders (r : GatewayRequest) (headers : List (Bytes × Bytes)) :
    gateway.admission py (r.withHeaders headers) = gateway.admission py r := by
  have hroute : ∀ context, gateway.routeForScope (r.withHeaders headers).scope context =
      gateway.routeForScope r.scope context := by
    intro context
    unfold routeForScope
    rw [withHeaders_path]
  have hoperation : ∀ route, operationName py (r.withHeaders headers).scope route =
      operationName py r.scope route := by
    intro route
    unfold operationName
    rw [withHeaders_method]
  have hrate : ∀ context route, gateway.checkRateLimit (r.withHeaders headers) context route =
      gateway.checkRateLimit r context route := by
    intro context route
    unfold checkRateLimit
    rw [withHeaders_limiterNow]
  have hresources : ∀ plans context route operation,
      admitResources (r.withHeaders headers) plans context route operation =
        admitResources r plans context route operation := by
    intro plans context route operation
    unfold admitResources
    rw [withHeaders_managerNow]
  unfold admission
  simp only [withHeaders_context, hroute, hoperation, hrate, hresources]

/-- Two requests that differ only under the gateway's names are handled alike. -/
theorem call_withHeaders {r : GatewayRequest} {headers : List (Bytes × Bytes)}
    (h : SameButContext r.scope.headers headers) :
    gateway.call py (r.withHeaders headers) = gateway.call py r := by
  have henter : gateway.enter py (r.withHeaders headers) = gateway.enter py r := by
    unfold enter
    simp only [downstreamScope_withHeaders h, admission_withHeaders]
  have hrelease : ∀ a, gateway.releaseSlot (r.withHeaders headers) a =
      gateway.releaseSlot r a := by
    intro a
    unfold releaseSlot
    rw [withHeaders_managerNow]
  have hforward : ∀ entered, gateway.forward (r.withHeaders headers) entered =
      gateway.forward r entered := by
    intro entered
    unfold forward
    simp only [hrelease]
  unfold call
  simp only [henter, withHeaders_type, withHeaders_path, hforward]

/-! ## Every list of routes -/

/-- Of these routes the gateway takes the longest that matches, in whatever order they are given,
and the service is asked for the rest of the path. -/
structure TakesLongest (routes : List GatewayRoute) (gateway : APIGateway) (scope : ASGIScope)
    (context : TenantContext) : Prop where
  chosen : ∀ route, gateway.routeForScope scope context = .ok route ↔
    route ∈ routes ∧ OnBoundary route.pathPrefix (scopeString scope.path) ∧
    ∀ other ∈ routes, OnBoundary other.pathPrefix (scopeString scope.path) → other ≠ route →
      other.pathPrefix.toList.length < route.pathPrefix.toList.length
  none_chosen : (∃ e, gateway.routeForScope scope context = .error e) ↔
    ∀ route ∈ routes, ¬ OnBoundary route.pathPrefix (scopeString scope.path)
  rejoined : ∀ route, gateway.routeForScope scope context = .ok route →
    route.pathPrefix ++ route.downstreamPath (scopeString scope.path) = scopeString scope.path ∨
      (scopeString scope.path = route.pathPrefix ∧
        route.downstreamPath (scopeString scope.path) = "/")

theorem routes_of_make {routes : List GatewayRoute} {rateLimitPolicy : RateLimitPolicy}
    {resourceManager : Option TenantResourcePlans} {s2sAuth : Option S2SAuthenticator}
    {sourceServiceName : String}
    (h : make routes rateLimitPolicy resourceManager s2sAuth sourceServiceName = .ok gateway) :
    gateway.routes.Perm routes := by
  unfold make at h
  simp only at h
  split at h
  · cases h
  · split at h
    · cases h
    · cases h
      exact List.perm_insertionSort _ routes

theorem takesLongest {routes : List GatewayRoute} (hperm : gateway.routes.Perm routes)
    (hdistinct : (routes.map GatewayRoute.pathPrefix).Nodup) (scope : ASGIScope)
    (context : TenantContext) : TakesLongest routes gateway scope context := by
  have hdistinct' : (gateway.routes.map GatewayRoute.pathPrefix).Nodup :=
    (hperm.map GatewayRoute.pathPrefix).nodup_iff.mpr hdistinct
  have hchosen := @routeForScope_eq_ok_iff gateway scope context hdistinct'
  constructor
  · intro route
    rw [hchosen]
    simp only [hperm.mem_iff]
  · have hexists := @exists_routeForScope_iff gateway scope context
    simp only [hperm.mem_iff] at hexists
    constructor
    · rintro ⟨e, he⟩ route hroute hboundary
      obtain ⟨found, hfound⟩ := hexists.mpr ⟨route, hroute, hboundary⟩
      rw [he] at hfound
      cases hfound
    · intro hnone
      cases hresult : gateway.routeForScope scope context with
      | error e => exact ⟨e, rfl⟩
      | ok found =>
          obtain ⟨route, hroute, hboundary⟩ := hexists.mp ⟨found, hresult⟩
          exact absurd hboundary (hnone route hroute)
  · intro route hroute
    exact ((hchosen route).mp hroute).2.1.append_downstreamPath

/-- INTERNAL: the order in which the routes are given makes no difference. -/
theorem routeForScope_perm {routes routes' : List GatewayRoute} {gateway' : APIGateway}
    (hperm : gateway.routes.Perm routes) (hperm' : gateway'.routes.Perm routes')
    (hsame : routes'.Perm routes)
    (hdistinct : (routes.map GatewayRoute.pathPrefix).Nodup) (scope : ASGIScope)
    (context : TenantContext) :
    gateway'.routeForScope scope context = gateway.routeForScope scope context := by
  have h := takesLongest hperm hdistinct scope context
  have h' := takesLongest (hperm'.trans hsame) hdistinct scope context
  cases hresult : gateway.routeForScope scope context with
  | ok route =>
      rw [h'.chosen, ← h.chosen]
      exact hresult
  | error e =>
      obtain ⟨e', he'⟩ := h'.none_chosen.mpr (h.none_chosen.mp ⟨e, hresult⟩)
      rw [he', routeForScope_eq_error he', routeForScope_eq_error hresult]

/-- Which route a request takes, and what its headers say, is up to the gateway. -/
theorem routes_and_headers {routes : List GatewayRoute}
    (hdistinct : (routes.map GatewayRoute.pathPrefix).Nodup) {rateLimitPolicy : RateLimitPolicy}
    {resourceManager : Option TenantResourcePlans} {s2sAuth : Option S2SAuthenticator}
    {sourceServiceName : String}
    (hmake : make routes rateLimitPolicy resourceManager s2sAuth sourceServiceName = .ok gateway)
    (py : Stdlib) (r : GatewayRequest) (context : TenantContext) :
    TakesLongest routes gateway r.scope context ∧
    (∀ routes' gateway', routes'.Perm routes →
      make routes' rateLimitPolicy resourceManager s2sAuth sourceServiceName = .ok gateway' →
      gateway'.routeForScope r.scope context = gateway.routeForScope r.scope context) ∧
    (∀ route scope, gateway.downstreamScope py r route context = .ok scope →
      scope.path = some (route.downstreamPath (scopeString r.scope.path)) ∧
      CleanHeaders context route.pathPrefix (scopeString r.scope.path) scope.headers) ∧
    (∀ headers, SameButContext r.scope.headers headers →
      (∀ route, gateway.downstreamScope py (r.withHeaders headers) route context =
        gateway.downstreamScope py r route context) ∧
      gateway.call py (r.withHeaders headers) = gateway.call py r) := by
  have hperm := routes_of_make hmake
  refine ⟨takesLongest hperm hdistinct r.scope context, ?_, ?_, ?_⟩
  · intro routes' gateway' hsame hmake'
    exact routeForScope_perm hperm (routes_of_make hmake') hsame hdistinct r.scope context
  · intro route scope hscope
    unfold downstreamScope at hscope
    obtain ⟨headers, hheaders, hpure⟩ := bind_eq_ok_iff.mp hscope
    cases hpure
    exact ⟨rfl, cleanHeaders_downstreamHeaders hheaders⟩
  · intro headers hsame
    exact ⟨fun route => downstreamScope_withHeaders hsame route context, call_withHeaders hsame⟩

/-- A route inside another one. -/
def adminRoute : GatewayRoute where
  serviceName := "ledger-admin"
  pathPrefix := "/ledger/admin"
  serviceName_ne := by decide
  strip_serviceName := by decide
  pathPrefix_normalized := by unfold IsPathPrefix; decide

def adminRequest : GatewayRequest where
  context := none
  scope := ⟨some "http", some "/ledger/admin/users", some "GET", none, [], none⟩
  limiterNow := 0
  managerNow _ := 0
  signing := Reference.signingMoment
  uuid := Reference.uuid

def forgedHeaders : List (Bytes × Bytes) :=
  [(Bytes.encodeUtf8 "X-Tenant-Id", Bytes.encodeUtf8 "other-tenant")]

/-- The inner route is taken, although it is given last, and a forged tenant changes nothing. -/
theorem routes_and_headers_admin : ∃ gateway,
    make [Reference.route, adminRoute] ⟨10, 60, by decide, by decide⟩ none none "api-gateway" =
      .ok gateway ∧
    gateway.routeForScope adminRequest.scope
      ⟨"media-center", some "editor-1", [councilRole], none⟩ = .ok adminRoute ∧
    gateway.call Reference.stdlib (adminRequest.withHeaders forgedHeaders) =
      gateway.call Reference.stdlib adminRequest := by
  have hname : Text.strip "api-gateway" ≠ "" := by decide
  obtain ⟨gateway, hmake⟩ : ∃ gateway, make [Reference.route, adminRoute]
      ⟨10, 60, by decide, by decide⟩ none none "api-gateway" = .ok gateway := by
    unfold make
    rw [dif_neg (by simp), dif_neg hname]
    exact ⟨_, rfl⟩
  have hforged : SameButContext adminRequest.scope.headers forgedHeaders := by
    unfold SameButContext
    decide
  obtain ⟨hroutes, _, _, hheaders⟩ := routes_and_headers (by decide) hmake Reference.stdlib
    adminRequest ⟨"media-center", some "editor-1", [councilRole], none⟩
  refine ⟨gateway, hmake, (hroutes.chosen adminRoute).mpr
    ⟨by simp, .inr ⟨"users", by decide⟩, ?_⟩, (hheaders forgedHeaders hforged).2⟩
  intro other hother _ hne
  rcases List.mem_cons.mp hother with rfl | hother
  · decide
  · exact absurd (List.mem_singleton.mp hother) hne

end APIGateway

end MediaCenter.Shared
