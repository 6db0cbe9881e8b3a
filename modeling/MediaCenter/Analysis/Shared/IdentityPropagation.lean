import MediaCenter.Analysis.Shared.TrustedHeaders
import MediaCenter.Model.Shared.Gateway

/-!
# Whether an identity survives the way between services

A context is written into headers, either as text or by the gateway as bytes, and read back
from them.  What comes back is the same identity exactly when the roles and the subject are
texts that headers can carry.
-/

set_option autoImplicit false

namespace MediaCenter.Shared

open MediaCenter.Library

/-- The same tenant, the same subject and the same set of roles. -/
structure SameIdentity (sent received : TenantContext) : Prop where
  tenantId : received.tenantId = sent.tenantId
  subject : received.subject = sent.subject
  roles : ∀ role, role ∈ received.roles ↔ role ∈ sent.roles

/-- The context comes back from the headers of `tenant_headers_from_context`. -/
def SurvivesHeaders (py : Stdlib) (context : TenantContext) : Prop :=
  ∀ serviceName forwardedPrefix originalPath, ∃ received,
    tenantContextFromTrustedHeaders py
      (tenantHeadersFromContext context serviceName forwardedPrefix originalPath) =
        .ok received ∧ SameIdentity context received

/-- The context comes back from the headers that the gateway forwards, whatever headers the
client sent. -/
def SurvivesGateway (py : Stdlib) (context : TenantContext) : Prop :=
  ∀ scope route downstreamPath s2sAuth sourceServiceName moment uuid forwarded,
    downstreamHeaders py scope route context downstreamPath s2sAuth sourceServiceName moment
      uuid = .ok forwarded →
    ∃ received, tenantContextFromTrustedHeaders py (headersFromScope py forwarded) =
      .ok received ∧ SameIdentity context received

/-- Roles and subject are neither empty nor surrounded by white space, and no role holds a
comma. -/
structure FitsHeaders (context : TenantContext) : Prop where
  roles : ∀ role ∈ context.roles, IsHeaderRole role
  subject : ∀ subject, context.subject = some subject → IsStripped subject

/-- Roles and subject are ASCII. -/
structure IsAsciiContext (context : TenantContext) : Prop where
  roles : ∀ role ∈ context.roles, Bytes.IsAscii role
  subject : ∀ subject, context.subject = some subject → Bytes.IsAscii subject

/-! ## From three header values to a context -/

theorem optionalHeader_eq (headers : Dict String String) (name : String) :
    optionalHeader headers name = (headers.get? name).filter fun value => value ≠ "" := by
  unfold optionalHeader
  cases headers.get? name with
  | none => rfl
  | some value => by_cases h : value = "" <;> simp [Option.filter, h]

theorem strip_of_tenantIdPattern {tenantId : String} (h : tenantIdPattern tenantId = true) :
    Text.strip tenantId = tenantId :=
  Text.strip_of_forall_visible (visible_of_tokenPattern (tokenPattern_of_tenantIdPattern h))

section

variable {py : Stdlib} {headers : Dict String String} {context : TenantContext}
  (hpattern : tenantIdPattern context.tenantId = true)
  (htenant : (normalizeHeaders py headers).get? tenantIdHeader = some context.tenantId)

include hpattern htenant

/-- INTERNAL: with the tenant id in place, the identity comes back exactly when the roles and
the subject do. -/
theorem exists_sameIdentity_iff :
    (∃ received, tenantContextFromTrustedHeaders py headers = .ok received ∧
      SameIdentity context received) ↔
    (∃ roles, rolesFromHeader ((normalizeHeaders py headers).get? actorRolesHeader) = .ok roles ∧
      ∀ role, role ∈ roles ↔ role ∈ context.roles) ∧
    optionalHeader (normalizeHeaders py headers) subjectIdHeader = context.subject := by
  have hvalid : ∀ correlationId, validatedOptionalTenantId (some context.tenantId)
      correlationId = .ok context.tenantId := by
    intro correlationId
    unfold validatedOptionalTenantId validatedTenantId
    simp only [if_pos hpattern]
  rw [tenantContextFromTrustedHeaders_eq]
  simp only [htenant, hvalid, bind, Except.bind]
  cases hroles : rolesFromHeader ((normalizeHeaders py headers).get? actorRolesHeader) with
  | error e => simp
  | ok roles =>
      constructor
      · rintro ⟨received, hok, hsame⟩
        cases hok
        exact ⟨⟨roles, rfl, hsame.roles⟩, hsame.subject⟩
      · rintro ⟨⟨roles', hroles', hiff⟩, hsubject⟩
        cases hroles'
        exact ⟨_, rfl, ⟨rfl, hsubject, hiff⟩⟩

end

/-! ## Headers as text -/

theorem get?_setIfPresent (headers : Dict String String) (name name' : String)
    (value : Option String) : (setIfPresent headers name value).get? name' =
      if name' = name then value.or (headers.get? name') else headers.get? name' := by
  unfold setIfPresent
  cases value with
  | none => simp
  | some value => simp [Dict.get?_set]

/-- Every name in the dictionary is an ASCII name in lower case. -/
def HasHeaderNames (headers : Dict String String) : Prop :=
  ∀ name, headers.contains name = true → IsHeaderName name

theorem HasHeaderNames.set {headers : Dict String String} (h : HasHeaderNames headers)
    {name : String} (hname : IsHeaderName name) (value : String) :
    HasHeaderNames (headers.set name value) := by
  intro name' hcontains
  rw [Dict.contains_set] at hcontains
  rcases hcontains with rfl | hcontains
  · exact hname
  · exact h name' hcontains

theorem HasHeaderNames.setIfPresent {headers : Dict String String} (h : HasHeaderNames headers)
    {name : String} (hname : IsHeaderName name) (value : Option String) :
    HasHeaderNames (setIfPresent headers name value) := by
  cases value with
  | none => exact h
  | some value => exact h.set hname value

theorem hasHeaderNames_tenantHeadersFromContext (context : TenantContext)
    (serviceName forwardedPrefix originalPath : Option String) :
    HasHeaderNames
      (tenantHeadersFromContext context serviceName forwardedPrefix originalPath) := by
  have hempty : HasHeaderNames Dict.empty := by
    intro name hcontains
    rw [Dict.contains_iff_exists] at hcontains
    obtain ⟨value, hvalue⟩ := hcontains
    cases hvalue
  have htenant := hempty.set (show IsHeaderName tenantIdHeader by decide) context.tenantId
  have hsubject :=
    htenant.setIfPresent (show IsHeaderName subjectIdHeader by decide) context.subject
  unfold tenantHeadersFromContext
  refine HasHeaderNames.setIfPresent (HasHeaderNames.setIfPresent (HasHeaderNames.setIfPresent
    (HasHeaderNames.setIfPresent ?_ (by decide) _) (by decide) _) (by decide) _) (by decide) _
  split
  · exact hsubject
  · exact hsubject.set (by decide) _

theorem get?_tenantHeadersFromContext (context : TenantContext)
    (serviceName forwardedPrefix originalPath : Option String) :
    let headers := tenantHeadersFromContext context serviceName forwardedPrefix originalPath
    headers.get? tenantIdHeader = some context.tenantId ∧
      headers.get? subjectIdHeader = context.subject ∧
      headers.get? actorRolesHeader =
        if context.roles = [] then none else some (joinRoles context.roles) := by
  unfold tenantHeadersFromContext
  simp only [get?_setIfPresent]
  by_cases hroles : context.roles = []
  · simp [hroles, get?_setIfPresent, tenantIdHeader, subjectIdHeader, actorRolesHeader,
      correlationIdHeader, serviceNameHeader, forwardedPrefixHeader, originalPathHeader]
  · simp [hroles, get?_setIfPresent, tenantIdHeader, subjectIdHeader, actorRolesHeader,
      correlationIdHeader, serviceNameHeader, forwardedPrefixHeader, originalPathHeader]

/-- INTERNAL: a subject is read as it is exactly when reading it changes nothing. -/
theorem filter_map_eq_self_iff {f : String → String} {subject : Option String} :
    ((subject.map f).filter fun value => value ≠ "") = subject ↔
      ∀ s, subject = some s → f s = s ∧ s ≠ "" := by
  cases subject with
  | none => simp
  | some s =>
      by_cases hempty : f s = ""
      · simp [Option.filter, hempty, eq_comm]
      · simp only [Option.map_some, Option.filter, hempty, ne_eq, not_false_eq_true,
          decide_true, if_true, Option.some.injEq, forall_eq']
        constructor
        · intro h
          exact ⟨h, h ▸ hempty⟩
        · exact fun h => h.1

theorem rolesFromHeader_of_isHeaderRole {roles : List String}
    (h : ∀ role ∈ roles, IsHeaderRole role) :
    rolesFromHeader (some (Text.strip (joinRoles roles))) = .ok roles := by
  by_cases hroles : roles = []
  · rw [hroles]
    exact rolesFromHeader_of_strip_eq_empty (by decide)
  · rw [rolesFromHeader_joinRoles hroles (fun r hr => (h r hr).2)
      fun r hr => by rw [(h r hr).1.2]; exact (h r hr).1.1]
    rw [(List.map_congr_left fun r hr => (h r hr).1.2).trans (List.map_id' roles)]

/-- INTERNAL: over headers as text an identity survives exactly when it fits them. -/
theorem survivesHeaders_iff (py : Stdlib) {context : TenantContext}
    (hpattern : tenantIdPattern context.tenantId = true) :
    SurvivesHeaders py context ↔ FitsHeaders context := by
  have hvalues : ∀ serviceName forwardedPrefix originalPath name,
      (normalizeHeaders py (tenantHeadersFromContext context serviceName forwardedPrefix
        originalPath)).get? name = ((tenantHeadersFromContext context serviceName
          forwardedPrefix originalPath).get? name).map Text.strip := by
    intro serviceName forwardedPrefix originalPath name
    refine get?_normalizeHeaders (fun e he => lower_of_isHeaderName py ?_) name
    exact hasHeaderNames_tenantHeadersFromContext context serviceName forwardedPrefix
      originalPath e.1 (Dict.contains_iff_exists.mpr ⟨e.2, Dict.get?_eq_some_iff.mpr he⟩)
  have hiff : ∀ serviceName forwardedPrefix originalPath, (∃ received,
      tenantContextFromTrustedHeaders py (tenantHeadersFromContext context serviceName
        forwardedPrefix originalPath) = .ok received ∧ SameIdentity context received) ↔
      (∃ roles, rolesFromHeader ((if context.roles = [] then none
        else some (joinRoles context.roles)).map Text.strip) = .ok roles ∧
        ∀ role, role ∈ roles ↔ role ∈ context.roles) ∧
      ∀ s, context.subject = some s → Text.strip s = s ∧ s ≠ "" := by
    intro serviceName forwardedPrefix originalPath
    obtain ⟨htenant, hsubject, hroles⟩ :=
      get?_tenantHeadersFromContext context serviceName forwardedPrefix originalPath
    rw [exists_sameIdentity_iff hpattern (by
      rw [hvalues, htenant, Option.map_some, strip_of_tenantIdPattern hpattern]),
      optionalHeader_eq, hvalues, hvalues, hroles, hsubject, filter_map_eq_self_iff]
  constructor
  · intro h
    obtain ⟨⟨roles, hroles, hsame⟩, hsubject⟩ := (hiff none none none).mp (h none none none)
    refine ⟨fun role hrole => ?_, fun s hs => ⟨(hsubject s hs).2, (hsubject s hs).1⟩⟩
    exact isHeaderRole_of_mem_rolesFromHeader hroles role ((hsame role).mpr hrole)
  · intro h serviceName forwardedPrefix originalPath
    refine (hiff serviceName forwardedPrefix originalPath).mpr
      ⟨⟨context.roles, ?_, fun role => Iff.rfl⟩,
        fun s hs => ⟨(h.subject s hs).2, (h.subject s hs).1⟩⟩
    split
    · rename_i hnil
      rw [hnil]
      rfl
    · exact rolesFromHeader_of_isHeaderRole h.roles

/-! ## Headers as bytes -/

/-- The last value under a name, as the receiver looks it up. -/
def lastValue (py : Stdlib) (name : String) (headers : List (Bytes × Bytes)) : Option Bytes :=
  (headers.reverse.find? fun e => py.lower (Bytes.decodeLatin1 e.1) = name).map Prod.snd

theorem get?_headersFromScope (py : Stdlib) (headers : List (Bytes × Bytes)) (name : String) :
    (headersFromScope py headers).get? name =
      (lastValue py name headers).map Bytes.decodeLatin1 := by
  unfold headersFromScope lastValue
  rw [Dict.get?_ofList, ← List.map_reverse, List.find?_map, Option.map_map, Option.map_map]
  rfl

theorem lastValue_append (py : Stdlib) (name : String) (front back : List (Bytes × Bytes)) :
    lastValue py name (front ++ back) = (lastValue py name back).or (lastValue py name front) := by
  unfold lastValue
  rw [List.reverse_append, List.find?_append]
  cases back.reverse.find? fun e => py.lower (Bytes.decodeLatin1 e.1) = name <;> rfl

theorem lastValue_cons (py : Stdlib) (name : String) (e : Bytes × Bytes)
    (l : List (Bytes × Bytes)) :
    lastValue py name (e :: l) = (lastValue py name l).or (lastValue py name [e]) :=
  lastValue_append py name [e] l

theorem lastValue_eq_none {py : Stdlib} {name : String} {headers : List (Bytes × Bytes)}
    (h : ∀ e ∈ headers, py.lower (Bytes.decodeLatin1 e.1) ≠ name) :
    lastValue py name headers = none := by
  unfold lastValue
  rw [Option.map_eq_none_iff, List.find?_eq_none]
  intro e he
  rw [decide_eq_true_eq]
  exact h e (List.mem_reverse.mp he)

theorem lastValue_filter {py : Stdlib} {name : String} {headers : List (Bytes × Bytes)}
    {p : Bytes × Bytes → Bool}
    (h : ∀ e ∈ headers, py.lower (Bytes.decodeLatin1 e.1) = name → p e = true) :
    lastValue py name (headers.filter p) = lastValue py name headers := by
  induction headers with
  | nil => rfl
  | cons e l ih =>
      have hl := ih fun e he => h e (List.mem_cons_of_mem _ he)
      rw [List.filter_cons, lastValue_cons py name e l]
      by_cases hname : py.lower (Bytes.decodeLatin1 e.1) = name
      · rw [if_pos (h e List.mem_cons_self hname), lastValue_cons, hl]
      · have hnone : lastValue py name [e] = none := by
          apply lastValue_eq_none
          intro e' he'
          rw [List.mem_singleton] at he'
          rw [he']
          exact hname
        rw [hnone, Option.or_none]
        split
        · rw [lastValue_cons, hl, hnone, Option.or_none]
        · exact hl

/-! ### Names as bytes -/

theorem lower_decodeLatin1 (py : Stdlib) (bytes : Bytes) :
    py.lower (Bytes.decodeLatin1 bytes) =
      String.ofList (bytes.map fun b => Text.lowerLatin1 (Bytes.latin1Char b)) := by
  unfold Bytes.decodeLatin1
  rw [py.lower_latin1, String.toList_ofList, List.map_map]
  · rfl
  · intro c hc
    rw [String.toList_ofList, List.mem_map] at hc
    obtain ⟨b, _, rfl⟩ := hc
    rw [Bytes.toNat_latin1Char]
    exact b.toNat_lt

theorem lower_lower_decodeLatin1 (py : Stdlib) (bytes : Bytes) :
    py.lower (py.lower (Bytes.decodeLatin1 bytes)) = py.lower (Bytes.decodeLatin1 bytes) := by
  rw [lower_decodeLatin1, py.lower_latin1, String.toList_ofList, List.map_map]
  · congr 1
    exact List.map_congr_left fun b _ => Text.lowerLatin1_lowerLatin1 _
  · intro c hc
    rw [String.toList_ofList, List.mem_map] at hc
    obtain ⟨b, _, rfl⟩ := hc
    have hb := b.toNat_lt
    rw [Text.toNat_lowerLatin1, Bytes.toNat_latin1Char]
    split <;> omega

/-- INTERNAL: no other byte string reads as a header name than its spellings in ASCII. -/
theorem lower_eq_encodeUtf8 {py : Stdlib} {bytes : Bytes} {name : String}
    (hname : IsHeaderName name) (h : py.lower (Bytes.decodeLatin1 bytes) = name) :
    Bytes.lower bytes = Bytes.encodeUtf8 name := by
  apply Bytes.decodeLatin1_injective
  rw [Bytes.decodeLatin1_encodeUtf8 hname.isAscii, ← h, lower_decodeLatin1, Bytes.decodeLatin1,
    Bytes.lower, List.map_map]
  congr 1
  apply List.map_congr_left
  intro b hb
  have hascii : (Text.lowerLatin1 (Bytes.latin1Char b)).toNat < 128 := by
    apply (hname _ _).1
    rw [← h, lower_decodeLatin1, String.toList_ofList]
    exact List.mem_map_of_mem hb
  rw [Text.toNat_lowerLatin1, Bytes.toNat_latin1Char] at hascii
  rw [Function.comp_apply, ← Char.toNat_inj, Bytes.toNat_latin1Char, Text.toNat_lowerLatin1,
    Bytes.toNat_latin1Char]
  split
  · rename_i hupper
    rw [if_pos (.inl hupper), UInt8.toNat_add]
    have h32 : (32 : UInt8).toNat = 32 := rfl
    omega
  · rename_i hupper
    split at hascii
    · omega
    · rename_i hnot
      rw [if_neg hnot]

theorem lower_decodeLatin1_encodeUtf8 (py : Stdlib) {name : String} (h : IsHeaderName name) :
    py.lower (Bytes.decodeLatin1 (Bytes.encodeUtf8 name)) = name := by
  rw [Bytes.decodeLatin1_encodeUtf8 h.isAscii, lower_of_isHeaderName py h]

theorem encodeUtf8_inj {name name' : String} (h : Bytes.IsAscii name) (h' : Bytes.IsAscii name')
    (heq : Bytes.encodeUtf8 name = Bytes.encodeUtf8 name') : name = name' := by
  rw [← Bytes.decodeLatin1_encodeUtf8 h, heq, Bytes.decodeLatin1_encodeUtf8 h']

theorem lastValue_singleton (py : Stdlib) {name : String} (h : IsHeaderName name)
    (name' value : String) :
    lastValue py name' [(Bytes.encodeUtf8 name, Bytes.encodeUtf8 value)] =
      if name = name' then some (Bytes.encodeUtf8 value) else none := by
  unfold lastValue
  rw [List.reverse_singleton, List.find?_singleton, lower_decodeLatin1_encodeUtf8 py h]
  by_cases hname : name = name'
  · simp [hname]
  · simp [hname]

/-! ### What the gateway forwards -/

/-- The headers that the receiver reads an identity from. -/
def identityNames : List String := [tenantIdHeader, subjectIdHeader, actorRolesHeader]

theorem isHeaderName_of_mem_identityNames {name : String} (h : name ∈ identityNames) :
    IsHeaderName name := by
  have hall : ∀ name ∈ identityNames, IsHeaderName name := by decide
  exact hall name h

/-- INTERNAL: what a client sends under these names is dropped. -/
theorem lastValue_clientHeaders {py : Stdlib} {name : String} (h : name ∈ identityNames)
    (headers : List (Bytes × Bytes)) :
    lastValue py name (headers.filter fun e => !hopByHopHeaders.contains (Bytes.lower e.1) &&
      !gatewayContextHeaders.contains (Bytes.lower e.1)) = none := by
  have hcontext : ∀ name ∈ identityNames,
      gatewayContextHeaders.contains (Bytes.encodeUtf8 name) = true := by
    unfold gatewayContextHeaders
    intro name hname
    rw [List.contains_iff_mem]
    apply List.mem_map_of_mem
    have hall : ∀ name ∈ identityNames, name ∈ ["x-actor-roles", "x-correlation-id",
        "x-forwarded-prefix", "x-original-path", "x-service-name", "x-subject-id",
        "x-tenant-id"] := by decide
    exact hall name hname
  apply lastValue_eq_none
  intro e he heq
  rw [List.mem_filter, Bool.and_eq_true, Bool.not_eq_true', Bool.not_eq_true',
    lower_eq_encodeUtf8 (isHeaderName_of_mem_identityNames h) heq, hcontext name h] at he
  cases he.2.2

/-- INTERNAL: a signature touches none of them. -/
theorem lastValue_signedDownstreamHeaders {py : Stdlib} {name : String}
    (h : name ∈ identityNames) {headers forwarded : List (Bytes × Bytes)}
    {method path sourceServiceName : String} {s2sAuth : Option S2SAuthenticator}
    {moment : SigningMoment}
    (hok : signedDownstreamHeaders py headers method path s2sAuth sourceServiceName moment =
      .ok forwarded) :
    lastValue py name forwarded = lastValue py name headers := by
  have hname := isHeaderName_of_mem_identityNames h
  have hsignature : ∀ lower ∈ signatureNames, IsHeaderName lower ∧ lower ≠ name := by
    have hall : ∀ name ∈ identityNames, ∀ lower ∈ signatureNames,
        IsHeaderName lower ∧ lower ≠ name := by decide
    exact hall name h
  unfold signedDownstreamHeaders at hok
  cases s2sAuth with
  | none =>
      cases hok
      rfl
  | some s2sAuth =>
      simp only [bind_eq_ok_iff] at hok
      obtain ⟨signedHeaders, hsign, signed, hsigned, hpure⟩ := hok
      cases hpure
      obtain ⟨signed', hsigned', hmem⟩ := exists_signedHeaderBytes py
        (s2sAuth.names_mem moment method path sourceServiceName signedHeaders hsign)
      rw [hsigned] at hsigned'
      cases hsigned'
      have hnone : lastValue py name signed = none := by
        apply lastValue_eq_none
        intro e he heq
        obtain ⟨lower, hlower, hbytes⟩ := hmem e he
        rw [hbytes, lower_decodeLatin1_encodeUtf8 py (hsignature lower hlower).1] at heq
        exact (hsignature lower hlower).2 heq
      rw [lastValue_append, hnone, Option.none_or]
      apply lastValue_filter
      intro e _ heq
      rw [Bool.not_eq_true', ← Bool.not_eq_true, List.contains_iff_mem]
      intro hcontains
      obtain ⟨e', he', hlower⟩ := List.mem_map.mp hcontains
      obtain ⟨lower, hmem', hbytes⟩ := hmem e' he'
      have hsigName := hsignature lower hmem'
      rw [lower_eq_encodeUtf8 hname heq, hbytes, lower_eq_encodeUtf8 hsigName.1
        (lower_decodeLatin1_encodeUtf8 py hsigName.1)] at hlower
      exact hsigName.2 (encodeUtf8_inj hsigName.1.isAscii hname.isAscii hlower)

/-- INTERNAL: headers with names in lower case are found under their names. -/
theorem lastValue_map_encodeUtf8 (py : Stdlib) (name : String) {pairs : List (String × String)}
    (h : ∀ e ∈ pairs, IsHeaderName e.1) :
    lastValue py name (pairs.map fun e => (Bytes.encodeUtf8 e.1, Bytes.encodeUtf8 e.2)) =
      (pairs.reverse.find? fun e => e.1 = name).map fun e => Bytes.encodeUtf8 e.2 := by
  induction pairs with
  | nil => rfl
  | cons e l ih =>
      rw [List.map_cons, lastValue_cons, ih fun e he => h e (List.mem_cons_of_mem _ he),
        lastValue_singleton py (h e List.mem_cons_self), List.reverse_cons, List.find?_append,
        List.find?_singleton]
      cases l.reverse.find? fun e => e.1 = name with
      | some e' => rfl
      | none => by_cases hname : e.1 = name <;> simp [hname]

/-- INTERNAL: of the headers the gateway writes, the receiver finds those of the context. -/
theorem lastValue_contextHeaders (py : Stdlib) (context : TenantContext)
    (correlationId pathPrefix originalPath : String) :
    let headers := contextHeaders context correlationId pathPrefix originalPath
    lastValue py tenantIdHeader headers = some (Bytes.encodeUtf8 context.tenantId) ∧
      lastValue py subjectIdHeader headers = context.subject.map Bytes.encodeUtf8 ∧
      lastValue py actorRolesHeader headers =
        some (Bytes.encodeUtf8 (joinRoles context.roles)) := by
  have hnames : ∀ name ∈ [correlationIdHeader, tenantIdHeader, serviceNameHeader,
      forwardedPrefixHeader, originalPathHeader, actorRolesHeader, subjectIdHeader],
      IsHeaderName name := by decide
  simp only [List.forall_mem_cons, List.not_mem_nil, false_imp_iff, implies_true,
    and_true] at hnames
  obtain ⟨hcorrelation, htenant, hservice, hforwarded, horiginal, hroles, hsubject⟩ := hnames
  unfold contextHeaders
  cases context.subject with
  | none =>
      simp only
      rw [lastValue_map_encodeUtf8, lastValue_map_encodeUtf8, lastValue_map_encodeUtf8]
      · simp [tenantIdHeader, subjectIdHeader, actorRolesHeader, correlationIdHeader,
          serviceNameHeader, forwardedPrefixHeader, originalPathHeader]
      all_goals simp [*]
  | some subject =>
      simp only
      rw [lastValue_map_encodeUtf8, lastValue_map_encodeUtf8, lastValue_map_encodeUtf8]
      · simp [tenantIdHeader, subjectIdHeader, actorRolesHeader, correlationIdHeader,
          serviceNameHeader, forwardedPrefixHeader, originalPathHeader]
      all_goals simp [*]

/-- INTERNAL: what the receiver reads under a name of the identity. -/
theorem lastValue_downstreamHeaders {py : Stdlib} {name : String} (h : name ∈ identityNames)
    {scope : ASGIScope} {route : GatewayRoute} {context : TenantContext}
    {downstreamPath sourceServiceName : String} {s2sAuth : Option S2SAuthenticator}
    {moment : SigningMoment} {uuid : Uuid4} {forwarded : List (Bytes × Bytes)}
    (hok : downstreamHeaders py scope route context downstreamPath s2sAuth sourceServiceName
      moment uuid = .ok forwarded) :
    lastValue py name forwarded = lastValue py name
      (contextHeaders context (downstreamCorrelationId context scope.headers uuid)
        route.pathPrefix (scopeString scope.path)) := by
  unfold downstreamHeaders at hok
  rw [lastValue_signedDownstreamHeaders h hok, lastValue_append, lastValue_clientHeaders h,
    Option.or_none]

/-! ### The way over the gateway -/

theorem decodeLatin1_encodeUtf8_joinRoles (roles : List String) :
    Bytes.decodeLatin1 (Bytes.encodeUtf8 (joinRoles roles)) =
      joinRoles (roles.map fun role => Bytes.decodeLatin1 (Bytes.encodeUtf8 role)) := by
  have hcomma : Bytes.decodeLatin1 (Bytes.encodeUtf8 ",") = "," :=
    Bytes.decodeLatin1_encodeUtf8 (by decide)
  unfold joinRoles
  induction roles with
  | nil => exact Bytes.decodeLatin1_encodeUtf8 (by decide)
  | cons role roles ih =>
      cases roles with
      | nil => rw [String.intercalate_singleton, List.map_singleton, String.intercalate_singleton]
      | cons next roles =>
          rw [String.intercalate_cons_cons, Bytes.decodeLatin1_encodeUtf8_append,
            Bytes.decodeLatin1_encodeUtf8_append, ih, hcomma, List.map_cons, List.map_cons,
            List.map_cons, String.intercalate_cons_cons]

/-- INTERNAL: over the gateway each role that fits a header is read back on its own. -/
theorem rolesFromHeader_readBack {roles : List String} (h : ∀ role ∈ roles, IsHeaderRole role) :
    rolesFromHeader (some (Bytes.readBack (joinRoles roles))) =
      .ok (roles.map Bytes.readBack) := by
  unfold Bytes.readBack
  rw [decodeLatin1_encodeUtf8_joinRoles]
  by_cases hroles : roles = []
  · rw [hroles]
    exact rolesFromHeader_of_strip_eq_empty (by decide)
  · rw [rolesFromHeader_joinRoles, List.map_map]
    · rfl
    · exact fun hnil => hroles (List.map_eq_nil_iff.mp hnil)
    · intro r hr hcomma
      obtain ⟨role, hrole, rfl⟩ := List.mem_map.mp hr
      exact (h role hrole).2 (Bytes.mem_of_mem_decodeLatin1_encodeUtf8 (by decide) hcomma)
    · intro r hr
      obtain ⟨role, hrole, rfl⟩ := List.mem_map.mp hr
      apply Bytes.readBack_ne_empty
      rw [(h role hrole).1.2]
      exact (h role hrole).1.1

/-- INTERNAL: what the receiver makes of the forwarded headers. -/
theorem get?_normalizeHeaders_forwarded {py : Stdlib} {name : String}
    (h : name ∈ identityNames) {scope : ASGIScope} {route : GatewayRoute}
    {context : TenantContext} {downstreamPath sourceServiceName : String}
    {s2sAuth : Option S2SAuthenticator} {moment : SigningMoment} {uuid : Uuid4}
    {forwarded : List (Bytes × Bytes)}
    (hok : downstreamHeaders py scope route context downstreamPath s2sAuth sourceServiceName
      moment uuid = .ok forwarded) :
    (normalizeHeaders py (headersFromScope py forwarded)).get? name =
      (lastValue py name (contextHeaders context (downstreamCorrelationId context scope.headers
        uuid) route.pathPrefix (scopeString scope.path))).map fun bytes =>
          Text.strip (Bytes.decodeLatin1 bytes) := by
  rw [get?_normalizeHeaders, get?_headersFromScope, lastValue_downstreamHeaders h hok,
    Option.map_map]
  · rfl
  · intro e he
    have hget := Dict.get?_eq_some_iff.mpr he
    unfold headersFromScope at hget
    rw [Dict.get?_ofList, Option.map_eq_some_iff] at hget
    obtain ⟨e', he', _⟩ := hget
    have hmem := List.mem_reverse.mp (List.mem_of_find?_eq_some he')
    obtain ⟨raw, _, rfl⟩ := List.mem_map.mp hmem
    have hname : py.lower (Bytes.decodeLatin1 raw.1) = e.1 := by
      simpa using List.find?_some he'
    rw [← hname]
    exact lower_lower_decodeLatin1 py raw.1

open Reference in
/-- INTERNAL: over the gateway an identity survives exactly when it fits headers and is
ASCII. -/
theorem survivesGateway_iff (py : Stdlib) {context : TenantContext}
    (hpattern : tenantIdPattern context.tenantId = true) :
    SurvivesGateway py context ↔ FitsHeaders context ∧ IsAsciiContext context := by
  have hascii : Bytes.IsAscii context.tenantId := fun c hc =>
    Nat.lt_of_le_of_lt (visible_of_tokenPattern (tokenPattern_of_tenantIdPattern hpattern)
      c hc).2 (by decide)
  have hiff : ∀ {scope route downstreamPath s2sAuth sourceServiceName moment uuid forwarded},
      downstreamHeaders py scope route context downstreamPath s2sAuth sourceServiceName moment
        uuid = .ok forwarded →
      ((∃ received, tenantContextFromTrustedHeaders py (headersFromScope py forwarded) =
        .ok received ∧ SameIdentity context received) ↔
      (∃ roles, rolesFromHeader (some (Bytes.readBack (joinRoles context.roles))) = .ok roles ∧
        ∀ role, role ∈ roles ↔ role ∈ context.roles) ∧
      ∀ s, context.subject = some s → Bytes.readBack s = s ∧ s ≠ "") := by
    intro scope route downstreamPath s2sAuth sourceServiceName moment uuid forwarded hok
    obtain ⟨htenant, hsubject, hroles⟩ := lastValue_contextHeaders py context
      (downstreamCorrelationId context scope.headers uuid) route.pathPrefix
      (scopeString scope.path)
    rw [exists_sameIdentity_iff hpattern, optionalHeader_eq,
      get?_normalizeHeaders_forwarded (by decide) hok,
      get?_normalizeHeaders_forwarded (by decide) hok, hsubject, hroles, Option.map_map,
      Option.map_some]
    · exact and_congr Iff.rfl filter_map_eq_self_iff
    · rw [get?_normalizeHeaders_forwarded (by decide) hok, htenant, Option.map_some,
        Bytes.decodeLatin1_encodeUtf8 hascii, strip_of_tenantIdPattern hpattern]
  constructor
  · intro h
    obtain ⟨forwarded, hok⟩ : ∃ forwarded, downstreamHeaders py
        ⟨none, none, none, none, [], none⟩ route context "/" none ""
        signingMoment uuid = .ok forwarded := ⟨_, rfl⟩
    obtain ⟨⟨roles, hroles, hsame⟩, hsubject⟩ :=
      (hiff hok).mp (h _ _ _ _ _ _ _ forwarded hok)
    have hheader : ∀ role ∈ context.roles, IsHeaderRole role := fun role hrole =>
      isHeaderRole_of_mem_rolesFromHeader hroles role ((hsame role).mpr hrole)
    rw [rolesFromHeader_readBack hheader] at hroles
    cases hroles
    refine ⟨⟨hheader, fun s hs => ⟨(hsubject s hs).2, ?_⟩⟩, ⟨?_, fun s hs => ?_⟩⟩
    · rw [← (hsubject s hs).1]
      exact Text.strip_strip _
    · -- the set of the roles is closed under being read back
      exact Bytes.isAscii_of_readBack_mem fun role hrole =>
        (hsame _).mp (List.mem_map_of_mem hrole)
    · refine Bytes.isAscii_of_readBack_mem (l := [s]) (fun s' hs' => ?_) s
        (List.mem_singleton_self s)
      rw [List.mem_singleton] at hs'
      rw [hs', (hsubject s hs).1]
      exact List.mem_singleton_self s
  · rintro ⟨hfits, hasciiContext⟩ scope route downstreamPath s2sAuth sourceServiceName moment
      uuid forwarded hok
    have hread : ∀ role ∈ context.roles, Bytes.readBack role = role := by
      intro role hrole
      rw [Bytes.readBack_of_isAscii (hasciiContext.roles role hrole),
        (hfits.roles role hrole).1.2]
    refine (hiff hok).mpr ⟨⟨context.roles, ?_, fun role => Iff.rfl⟩, fun s hs => ⟨?_, ?_⟩⟩
    · rw [rolesFromHeader_readBack hfits.roles,
        (List.map_congr_left hread).trans (List.map_id' _)]
    · rw [Bytes.readBack_of_isAscii (hasciiContext.subject s hs), (hfits.subject s hs).2]
    · exact (hfits.subject s hs).1

/-- An identity survives headers as text exactly when it fits them, and the way over the
gateway exactly when it is ASCII as well. -/
theorem identitySurvives_iff (py : Stdlib) (context : TenantContext)
    (h : tenantIdPattern context.tenantId = true) :
    (SurvivesHeaders py context ↔ FitsHeaders context) ∧
      (SurvivesGateway py context ↔ FitsHeaders context ∧ IsAsciiContext context) :=
  ⟨survivesHeaders_iff py h, survivesGateway_iff py h⟩

open Reference in
/-- A member of the council survives both ways. -/
theorem identitySurvives_council :
    SurvivesHeaders stdlib ⟨"media-center", some "ana", ["council"], none⟩ ∧
      SurvivesGateway stdlib ⟨"media-center", some "ana", ["council"], none⟩ := by
  have hfits : FitsHeaders ⟨"media-center", some "ana", ["council"], none⟩ := by
    refine ⟨fun role hrole => ?_, fun subject hsubject => ?_⟩
    · cases List.mem_singleton.mp hrole
      exact ⟨⟨by decide, by decide⟩, by decide⟩
    · cases hsubject
      exact ⟨by decide, by decide⟩
  have hascii : IsAsciiContext ⟨"media-center", some "ana", ["council"], none⟩ := by
    refine ⟨fun role hrole => ?_, fun subject hsubject => ?_⟩
    · cases List.mem_singleton.mp hrole
      decide
    · cases hsubject
      decide
  have hiff := identitySurvives_iff stdlib
    ⟨"media-center", some "ana", ["council"], none⟩ (by decide)
  exact ⟨hiff.1.mpr hfits, hiff.2.mpr ⟨hfits, hascii⟩⟩

open Reference in
/-- A token with the one role `audience,council` is accepted; the headers made of it carry the
role `council`, which the token did not. -/
theorem identityChanges_comma :
    tenantContextFromClaims ((Dict.empty.set "tenant_id" (.str "media-center")).set
      "roles" (.list [.str "audience,council"])) none =
        .ok ⟨"media-center", none, ["audience,council"], none⟩ ∧
    tenantContextFromTrustedHeaders stdlib (tenantHeadersFromContext
      ⟨"media-center", none, ["audience,council"], none⟩ none none none) =
        .ok ⟨"media-center", none, ["audience", "council"], none⟩ ∧
    ¬ SurvivesHeaders stdlib ⟨"media-center", none, ["audience,council"], none⟩ ∧
    ¬ SurvivesGateway stdlib ⟨"media-center", none, ["audience,council"], none⟩ := by
  have hfits : ¬ FitsHeaders ⟨"media-center", none, ["audience,council"], none⟩ := by
    intro h
    exact (h.roles "audience,council" List.mem_cons_self).2 (by decide)
  refine ⟨by decide, by decide, ?_, ?_⟩
  · rw [survivesHeaders_iff stdlib (by decide)]
    exact hfits
  · rw [survivesGateway_iff stdlib (by decide)]
    exact fun h => hfits h.1

end MediaCenter.Shared
