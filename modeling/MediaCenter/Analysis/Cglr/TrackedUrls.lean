import MediaCenter.Analysis.Cglr.CandidateOrder
import MediaCenter.Analysis.Shared.TrustedHeaders

/-!
# The URLs of the links

A link takes the URL of its owner over and appends the parameters of the route.  A URL that its
owner may have can be too long with them, and one partner without weight stops the route of all.
-/

set_option autoImplicit false

namespace MediaCenter.Cglr

open MediaCenter.Library MediaCenter.Shared WeightedChoice

/-- The names of the parameters that a link carries. -/
def trackingNames : List String :=
  ["nmc_route_id", "nmc_tenant_id", "nmc_content_id", "nmc_level", "nmc_owner_id"]

section Links

variable {lib : LinkLib} {py : Stdlib} {request : LinkRouteRequest lib}

theorem map_fst_trackingParams (request : LinkRouteRequest lib) (level : ReferralLevel)
    (target : ReferralLinkTarget lib) (id : String) :
    (trackingParams request level target id).map Prod.fst = trackingNames := rfl

/-- The target is one of the request. -/
def IsTarget (request : LinkRouteRequest lib) (target : ReferralLinkTarget lib) : Prop :=
  target = request.fields.adminLink ∨ target = request.fields.authorLink ∨
    target ∈ request.fields.l3Candidates

/-- The parameters of a URL under other names, in their order. -/
def otherItems (lib : LinkLib) (query : String) : List (String × String) :=
  (lib.parseQsl query).filter fun item => !trackingNames.contains item.1

/-- The parameters of the URL of a link. -/
def trackedItems (py : Stdlib) (request : LinkRouteRequest lib) (level : ReferralLevel)
    (target : ReferralLinkTarget lib) (parts : UrlParts) : List (String × String) :=
  otherItems lib parts.query ++ trackingParams request level target
    (routeId py request.fields.tenantId request.fields.contentId level target)

/-- What `urllib.parse` documents of the parts of a stripped URL when they are put together with
a query of these items. -/
structure Documented (lib : LinkLib) (parts : UrlParts) (items : List (String × String)) :
    Prop where
  parse_encode : lib.parseQsl (lib.urlencode items) = items
  split_unsplit : lib.urlsplit (lib.urlunsplit { parts with query := lib.urlencode items }) =
    some { parts with query := lib.urlencode items }
  trim_unsplit : Text.trim (lib.urlunsplit { parts with query := lib.urlencode items }) =
    lib.urlunsplit { parts with query := lib.urlencode items }

/-- It holds of the URLs of the request. -/
def DocumentedFor (py : Stdlib) (request : LinkRouteRequest lib) : Prop :=
  ∀ level target parts, IsTarget request target → lib.urlsplit target.fields.url = some parts →
    Documented lib parts (trackedItems py request level target parts)

/-- The link is of this level and owner; its URL is that of the owner but for the query, which
has the owner's other parameters and each parameter of the route once. -/
structure Carries (request : LinkRouteRequest lib) (level : ReferralLevel)
    (target : ReferralLinkTarget lib) (link : ReferralLink) : Prop where
  level_eq : link.fields.level = level
  ownerId_eq : link.fields.ownerId = target.fields.ownerId
  exists_query : ∃ parts query, lib.urlsplit target.fields.url = some parts ∧
    lib.urlsplit link.fields.url = some { parts with query := query } ∧
    otherItems lib query = otherItems lib parts.query ∧
    ∀ param ∈ trackingParams request level target link.fields.routeId,
      (lib.parseQsl query).filter (fun item => item.1 = param.1) = [param]

/-- Three links are made, in order, the third for a candidate that weighs enough. -/
def RoutesAll (py : Stdlib) (request : LinkRouteRequest lib) : Prop :=
  ∃ result first second third partner, generateReferralLinks py request = .ok result ∧
    result.fields.links = [first, second, third] ∧
    partner ∈ request.fields.l3Candidates ∧
    request.fields.l3MinContributionWeight ≤ partner.fields.contributionWeight ∧
    Carries request .l1 request.fields.adminLink first ∧
    Carries request .l2 request.fields.authorLink second ∧
    Carries request .l3 partner third

/-- The number of the seed falls into the interval of the candidate, where the candidates that
weigh enough lie side by side in the order of their owners and URLs. -/
def Drawn (request : LinkRouteRequest lib) (candidate : ReferralLinkTarget lib) : Prop :=
  ∃ before after, byKey sortKey (heavyEnough request) = before ++ candidate :: after ∧
    load scaledWeight before ≤ lib.seedNumber (resolveRotationSeed request) %
      load scaledWeight (heavyEnough request) ∧
    lib.seedNumber (resolveRotationSeed request) % load scaledWeight (heavyEnough request) <
      load scaledWeight before + scaledWeight candidate

/-- Every candidate that weighs enough has a scaled weight, and the URLs of the three links are
not too long. -/
structure Routable (py : Stdlib) (request : LinkRouteRequest lib) : Prop where
  weighed : ∀ c ∈ heavyEnough request, ∃ w, scaleWeight c.fields.contributionWeight = .ok w
  admin : Fits py request .l1 request.fields.adminLink
  author : Fits py request .l2 request.fields.authorLink
  partner : ∀ c, Drawn request c → Fits py request .l3 c

/-! ## What a link carries -/

/-- INTERNAL: the items of the query, name by name. -/
theorem filter_trackedItems {level : ReferralLevel} {target : ReferralLinkTarget lib}
    {parts : UrlParts} :
    ((trackedItems py request level target parts).filter fun item =>
      !trackingNames.contains item.1) = otherItems lib parts.query ∧
    ∀ param ∈ trackingParams request level target
        (routeId py request.fields.tenantId request.fields.contentId level target),
      (trackedItems py request level target parts).filter (fun item => item.1 = param.1) =
        [param] := by
  unfold trackedItems
  have hnames := map_fst_trackingParams request level target
    (routeId py request.fields.tenantId request.fields.contentId level target)
  generalize trackingParams request level target
    (routeId py request.fields.tenantId request.fields.contentId level target) = params at hnames
  have hother : ∀ item ∈ otherItems lib parts.query, item.1 ∉ trackingNames := by
    intro item hitem hmem
    have hnot := (List.mem_filter.mp hitem).2
    rw [List.contains_iff_mem.mpr hmem] at hnot
    cases hnot
  have hparams : ∀ param ∈ params, param.1 ∈ trackingNames := by
    intro param hparam
    rw [← hnames]
    exact List.mem_map_of_mem hparam
  constructor
  · have hnone : (params.filter fun item => !trackingNames.contains item.1) = [] := by
      rw [List.filter_eq_nil_iff]
      intro param hparam
      rw [List.contains_iff_mem.mpr (hparams param hparam)]
      decide
    rw [List.filter_append, hnone, List.append_nil, otherItems, List.filter_filter]
    simp only [Bool.and_self]
  · intro param hparam
    have hnone : (otherItems lib parts.query).filter (fun item => item.1 = param.1) = [] := by
      rw [List.filter_eq_nil_iff]
      intro item hitem hsame
      exact hother item hitem (of_decide_eq_true hsame ▸ hparams param hparam)
    have hnodup : (params.map Prod.fst).Nodup := by
      rw [hnames]
      decide
    rw [List.filter_append, hnone, List.nil_append]
    obtain ⟨before, after, rfl⟩ := List.append_of_mem hparam
    rw [List.map_append, List.map_cons, List.nodup_append, List.nodup_cons] at hnodup
    obtain ⟨_, ⟨hafter, _⟩, hbefore⟩ := hnodup
    have hbeforeNone : before.filter (fun item => item.1 = param.1) = [] := by
      rw [List.filter_eq_nil_iff]
      intro item hitem hsame
      exact hbefore _ (List.mem_map_of_mem hitem) _ List.mem_cons_self (of_decide_eq_true hsame)
    have hafterNone : after.filter (fun item => item.1 = param.1) = [] := by
      rw [List.filter_eq_nil_iff]
      intro item hitem hsame
      exact hafter (of_decide_eq_true hsame ▸ List.mem_map_of_mem hitem)
    rw [List.filter_append, hbeforeNone, List.nil_append, List.filter_cons_of_pos (by simp),
      hafterNone]

theorem trackedUrl_eq {level : ReferralLevel} {target : ReferralLinkTarget lib}
    {parts : UrlParts} (h : lib.urlsplit target.fields.url = some parts) :
    trackedUrl py request level target = some (lib.urlunsplit { parts with
      query := lib.urlencode (trackedItems py request level target parts) }) := by
  unfold trackedUrl appendTrackingParams
  simp only [h, map_fst_trackingParams]
  rfl

/-- INTERNAL: a link that is built carries what it should. -/
theorem carries_of_buildReferralLink (hdoc : DocumentedFor py request) {level : ReferralLevel}
    {target : ReferralLinkTarget lib} (htarget : IsTarget request target) {seed : Option String}
    {link : ReferralLink} (h : buildReferralLink py request level target seed = .ok link) :
    Carries request level target link := by
  obtain ⟨parts, hparts⟩ : ∃ parts, lib.urlsplit target.fields.url = some parts := by
    have hvalid := target.valid ("url", _) (List.mem_cons_of_mem _ List.mem_cons_self)
    rw [Bool.and_eq_true] at hvalid
    have hsplit := hvalid.2
    unfold validateUrl at hsplit
    cases hparts : lib.urlsplit target.fields.url with
    | none =>
        rw [hparts] at hsplit
        cases hsplit
    | some parts => exact ⟨parts, rfl⟩
  obtain ⟨hparse, hagain, htrim⟩ := hdoc level target parts htarget hparts
  rw [buildReferralLink_eq (trackedUrl_eq hparts), mapError_eq_ok_iff,
    Validated.make_eq_ok_iff] at h
  obtain ⟨hother, hparams⟩ := @filter_trackedItems lib py request level target parts
  refine ⟨by rw [h]; rfl, by rw [h]; rfl, parts,
    lib.urlencode (trackedItems py request level target parts), hparts, ?_, ?_, ?_⟩
  · rw [h]
    show lib.urlsplit (Text.trim _) = _
    rw [htrim]
    exact hagain
  · rw [otherItems, hparse]
    exact hother
  · rw [hparse, h]
    exact hparams

/-! ## The route -/

theorem drawn_iff (candidate : ReferralLinkTarget lib) : Drawn request candidate ↔
    choose (lib.seedNumber (resolveRotationSeed request) %
      load scaledWeight (heavyEnough request)) 0
      ((byKey sortKey (heavyEnough request)).map fun c => (c, scaledWeight c)) =
        some candidate := by
  rw [choose_eq_some_iff (Nat.zero_le _)]
  unfold Drawn
  constructor
  · rintro ⟨before, after, hsplit, hlow, hhigh⟩
    refine ⟨before.map fun c => (c, scaledWeight c), scaledWeight candidate,
      after.map fun c => (c, scaledWeight c), ?_, ?_, ?_⟩
    · rw [hsplit, List.map_append, List.map_cons]
    · rw [total_map_load, Nat.zero_add]
      exact hlow
    · rw [total_map_load, Nat.zero_add]
      exact hhigh
  · rintro ⟨before, w, after, hsplit, hlow, hhigh⟩
    obtain ⟨before', rest, hsorted, rfl, hrest⟩ := List.map_eq_append_iff.mp hsplit
    obtain ⟨c, after', rfl, hc, rfl⟩ := List.map_eq_cons_iff.mp hrest
    cases hc
    rw [total_map_load, Nat.zero_add] at hlow hhigh
    exact ⟨before', after', hsorted, hlow, hhigh⟩

theorem linksFor_eq_ok {target : ReferralLinkTarget lib} {result : LinkRouteResult}
    (h : linksFor py request target = .ok result) : ∃ first second third,
      buildReferralLink py request .l1 request.fields.adminLink none = .ok first ∧
      buildReferralLink py request .l2 request.fields.authorLink none = .ok second ∧
      buildReferralLink py request .l3 target (some (resolveRotationSeed request)) = .ok third ∧
      result.fields.links = [first, second, third] := by
  unfold linksFor at h
  simp only [bind_eq_ok_iff, mapError_eq_ok_iff] at h
  obtain ⟨first, hfirst, second, hsecond, third, hthird, hresult⟩ := h
  unfold linkRouteResult at hresult
  rw [Validated.make_eq_ok_iff] at hresult
  refine ⟨first, second, third, hfirst, hsecond, hthird, ?_⟩
  rw [hresult]

theorem fits_of_buildReferralLink {level : ReferralLevel} {target : ReferralLinkTarget lib}
    {seed : Option String} {link : ReferralLink}
    (h : buildReferralLink py request level target seed = .ok link) :
    Fits py request level target := by
  by_contra hnot
  rw [buildReferralLink_of_not_fits hnot] at h
  cases h

theorem RoutesAll.routable (h : RoutesAll py request) : Routable py request := by
  obtain ⟨result, _, _, _, _, hresult, _⟩ := h
  rw [generateReferralLinks_eq, bind_eq_ok_iff] at hresult
  obtain ⟨target, hselect, hlinks⟩ := hresult
  obtain ⟨first, second, third, hfirst, hsecond, hthird, _⟩ := linksFor_eq_ok hlinks
  have hweighed : ∀ c ∈ heavyEnough request,
      ∃ w, scaleWeight c.fields.contributionWeight = .ok w := by
    by_contra hnot
    obtain ⟨_, _, _, e, _, _, _, hrefused⟩ := select_of_refused hnot
    rw [hrefused] at hselect
    cases hselect
  refine ⟨hweighed, fits_of_buildReferralLink hfirst, fits_of_buildReferralLink hsecond, ?_⟩
  intro c hc
  have hne : heavyEnough request ≠ [] := by
    intro hnil
    rw [select_of_nil hnil] at hselect
    cases hselect
  obtain ⟨chosen, hchosen, hchoose⟩ := select_of_scaled hne hweighed
  rw [hselect, Except.ok.injEq] at hchosen
  rw [drawn_iff, hchoose, Option.some.injEq] at hc
  rw [← hc, ← hchosen]
  exact fits_of_buildReferralLink hthird

theorem Routable.routesAll (h : Routable py request) (hdoc : DocumentedFor py request)
    (hne : heavyEnough request ≠ []) : RoutesAll py request := by
  obtain ⟨chosen, hselect, hchoose⟩ := select_of_scaled hne h.weighed
  have hdrawn := (drawn_iff chosen).mpr hchoose
  obtain ⟨result, hlinks, _⟩ :=
    AllFit.exists_linksFor ⟨h.admin, h.author, h.partner chosen hdrawn⟩
  obtain ⟨first, second, third, hfirst, hsecond, hthird, hall⟩ := linksFor_eq_ok hlinks
  have hmem : chosen ∈ heavyEnough request := by
    obtain ⟨before, after, hsplit, _⟩ := hdrawn
    rw [← (byKey_perm sortKey (heavyEnough request)).mem_iff, hsplit]
    exact List.mem_append_right _ List.mem_cons_self
  obtain ⟨hcandidate, hheavy⟩ := List.mem_filter.mp hmem
  refine ⟨result, first, second, third, chosen, ?_, hall, hcandidate,
    of_decide_eq_true hheavy, ?_, ?_, ?_⟩
  · rw [generateReferralLinks_eq, hselect]
    exact hlinks
  · exact carries_of_buildReferralLink hdoc (.inl rfl) hfirst
  · exact carries_of_buildReferralLink hdoc (.inr (.inl rfl)) hsecond
  · exact carries_of_buildReferralLink hdoc (.inr (.inr hcandidate)) hthird

end Links

/-- Where some candidate weighs enough, the three links are made as they should exactly if the
other candidates that weigh enough have a scaled weight too, and no URL gets too long. -/
theorem generateReferralLinks_routesAll_iff (py : Stdlib) (lib : LinkLib)
    (request : LinkRouteRequest lib) (hdoc : DocumentedFor py request)
    (hsome : ∃ c ∈ request.fields.l3Candidates,
      request.fields.l3MinContributionWeight ≤ c.fields.contributionWeight ∧
      ∃ w, scaleWeight c.fields.contributionWeight = .ok w) :
    RoutesAll py request ↔ Routable py request := by
  obtain ⟨c, hc, hheavy, _⟩ := hsome
  have hne : heavyEnough request ≠ [] :=
    List.ne_nil_of_mem (List.mem_filter.mpr ⟨hc, decide_eq_true hheavy⟩)
  exact ⟨RoutesAll.routable, fun h => h.routesAll hdoc hne⟩

/-! ## The URLs of one site -/

def siteUrl (path : String) : String := "https://partners.example" ++ path

/-- `name=value` in two. -/
def splitItem (piece : List Char) : String × String :=
  (String.ofList (piece.takeWhile fun c => c ≠ '='),
    String.ofList ((piece.dropWhile fun c => c ≠ '=').drop 1))

/-- The functions of the standard library on one URL with any query, and names without special
characters. -/
def siteLib (path : String) : LinkLib where
  urlsplit url :=
    if url = siteUrl path then some ⟨"https", "partners.example", path, "", ""⟩
    else if (siteUrl path ++ "?").toList.isPrefixOf url.toList then
      some ⟨"https", "partners.example", path,
        String.ofList (url.toList.drop (siteUrl path ++ "?").toList.length), ""⟩
    else none
  urlunsplit := plainLib.urlunsplit
  parseQsl query := if query = "" then [] else
    (splitAtEvery '&' query.toList).map splitItem
  urlencode := plainLib.urlencode
  seedNumber := plainLib.seedNumber
  formatG := plainLib.formatG

/-- Nothing in the text has a meaning in a query. -/
def QueryPlain (s : String) : Prop := ∀ c ∈ s.toList, Text.Visible c ∧ c ≠ '&' ∧ c ≠ '='

section Site

theorem queryPlain_of_tokenPattern {s : String} (h : tokenPattern s = true) : QueryPlain s := by
  intro c hc
  refine ⟨visible_of_tokenPattern h c hc, ?_⟩
  have hnot : ∀ d : Char, (Text.isAsciiAlnum d = false ∧ (d == '.' || d == '_' || d == ':' ||
      d == '/' || d == '-') = false) → c ≠ d := by
    rintro d ⟨halnum, hother⟩ rfl
    rcases Text.forall_of_matchesHeadTail h c hc with hhead | htail
    · rw [halnum] at hhead
      cases hhead
    · simp only [halnum, Bool.false_or] at htail
      rw [hother] at htail
      cases htail
  exact ⟨hnot '&' (by decide), hnot '=' (by decide)⟩

theorem splitItem_eq {name value : String} (h : QueryPlain name) :
    splitItem (name ++ "=" ++ value).toList = (name, value) := by
  have hname : ∀ c ∈ name.toList, decide (c ≠ '=') = true :=
    fun c hc => decide_eq_true (h c hc).2.2
  have hequals : "=".toList = ['='] := by decide
  unfold splitItem
  rw [String.toList_append, String.toList_append, hequals, List.append_assoc,
    List.takeWhile_append_of_pos hname, List.dropWhile_append_of_pos hname]
  simp

/-- INTERNAL: a query of plain items is read as it was written. -/
theorem parseQsl_urlencode {path : String} {items : List (String × String)} (hne : items ≠ [])
    (h : ∀ item ∈ items, QueryPlain item.1 ∧ QueryPlain item.2) :
    (siteLib path).urlencode items ≠ "" ∧
      (siteLib path).parseQsl ((siteLib path).urlencode items) = items := by
  have hampersand : "&".toList = ['&'] := by decide
  have htoList : ((siteLib path).urlencode items).toList =
      ['&'].intercalate (items.map fun e => (e.1 ++ "=" ++ e.2).toList) := by
    show ("&".intercalate (items.map fun e => e.1 ++ "=" ++ e.2)).toList = _
    rw [String.toList_intercalate, hampersand, List.map_map]
    rfl
  have hpieces : splitAtEvery '&' ((siteLib path).urlencode items).toList =
      items.map fun e => (e.1 ++ "=" ++ e.2).toList := by
    rw [htoList, splitAtEvery_eq_splitOn, List.splitOn_intercalate]
    · intro piece hpiece
      obtain ⟨item, hitem, rfl⟩ := List.mem_map.mp hpiece
      obtain ⟨hname, hvalue⟩ := h item hitem
      have hequals : "=".toList = ['='] := by decide
      rw [String.toList_append, String.toList_append, hequals, List.mem_append, List.mem_append]
      rintro ((hmem | hmem) | hmem)
      · exact (hname _ hmem).2.1 rfl
      · exact absurd (List.mem_singleton.mp hmem) (by decide)
      · exact (hvalue _ hmem).2.1 rfl
    · exact fun hnil => hne (List.map_eq_nil_iff.mp hnil)
  have hnonempty : (siteLib path).urlencode items ≠ "" := by
    intro hempty
    rw [hempty] at hpieces
    obtain ⟨item, rest, rfl⟩ := List.exists_cons_of_ne_nil hne
    rw [List.map_cons] at hpieces
    have hfirst := (List.cons.inj hpieces).1
    simp at hfirst
  refine ⟨hnonempty, ?_⟩
  show (if (siteLib path).urlencode items = "" then [] else
    (splitAtEvery '&' ((siteLib path).urlencode items).toList).map splitItem) = items
  rw [if_neg hnonempty, hpieces, List.map_map]
  conv_rhs => rw [← List.map_id items]
  apply List.map_congr_left
  intro item hitem
  exact splitItem_eq (h item hitem).1

theorem urlunsplit_eq (path : String) (parts : UrlParts) :
    (siteLib path).urlunsplit parts = parts.scheme ++ "://" ++ parts.netloc ++ parts.path ++
      (if parts.query = "" then "" else "?" ++ parts.query) := rfl

theorem urlencode_eq (path : String) (items : List (String × String)) :
    (siteLib path).urlencode items = "&".intercalate (items.map fun e => e.1 ++ "=" ++ e.2) :=
  rfl

theorem urlunsplit_site (path query : String) (h : query ≠ "") :
    (siteLib path).urlunsplit ⟨"https", "partners.example", path, query, ""⟩ =
      siteUrl path ++ "?" ++ query := by
  have hscheme : "https" ++ "://" ++ "partners.example" = "https://partners.example" := by
    decide
  rw [urlunsplit_eq]
  unfold siteUrl
  simp only [if_neg h]
  rw [hscheme, String.append_assoc, String.append_assoc, String.append_assoc]

theorem urlsplit_site (path query : String) :
    (siteLib path).urlsplit (siteUrl path ++ "?" ++ query) =
      some ⟨"https", "partners.example", path, query, ""⟩ := by
  have hlonger : siteUrl path ++ "?" ++ query ≠ siteUrl path := by
    intro hsame
    have hlength := congrArg (fun s => s.toList.length) hsame
    simp at hlength
  show (if siteUrl path ++ "?" ++ query = siteUrl path then _ else
    if (siteUrl path ++ "?").toList.isPrefixOf (siteUrl path ++ "?" ++ query).toList then _
    else none) = _
  rw [if_neg hlonger]
  generalize siteUrl path ++ "?" = front
  have hprefix : front.toList.isPrefixOf (front ++ query).toList = true := by
    rw [List.isPrefixOf_iff_prefix, String.toList_append]
    exact List.prefix_append _ _
  rw [if_pos hprefix, String.toList_append, List.drop_left, String.ofList_toList]

variable {path : String} {py : Stdlib} {request : LinkRouteRequest (siteLib path)}

theorem queryPlain_trackingParams (level : ReferralLevel)
    (target : ReferralLinkTarget (siteLib path)) : ∀ param ∈ trackingParams request level target
      (routeId py request.fields.tenantId request.fields.contentId level target),
      QueryPlain param.1 ∧ QueryPlain param.2 := by
  have hname : ∀ name ∈ trackingNames, QueryPlain name := by
    have htoken : ∀ name ∈ trackingNames, tokenPattern name = true := by decide
    exact fun name h => queryPlain_of_tokenPattern (htoken name h)
  have hlevel : tokenPattern level.value = true := by cases level <;> decide
  have hvalues : ∀ param ∈ trackingParams request level target
      (routeId py request.fields.tenantId request.fields.contentId level target),
      tokenPattern param.2 = true := by
    unfold trackingParams
    simp only [List.forall_mem_cons]
    exact ⟨tokenPattern_routeId _ _ _ _,
      tokenPattern_of_tenantIdPattern (tenantIdPattern_of_request request),
      tokenPattern_contentId request, hlevel, tokenPattern_ownerId target,
      fun _ h => by cases h⟩
  intro param hparam
  refine ⟨hname _ ?_, queryPlain_of_tokenPattern (hvalues param hparam)⟩
  rw [← map_fst_trackingParams request level target]
  exact List.mem_map_of_mem hparam

theorem forall_mem_intercalate {p : Char → Prop} {sep : Char} (hsep : p sep)
    {pieces : List (List Char)} (h : ∀ piece ∈ pieces, ∀ c ∈ piece, p c) :
    ∀ c ∈ [sep].intercalate pieces, p c := by
  induction pieces with
  | nil => exact fun _ h => by cases h
  | cons piece rest ih =>
      have hrest := ih fun other hother => h other (List.mem_cons_of_mem _ hother)
      cases rest with
      | nil =>
          rw [List.intercalate_singleton]
          exact h piece List.mem_cons_self
      | cons next rest =>
          intro c hc
          rw [List.intercalate_cons_cons, List.mem_append, List.mem_append] at hc
          rcases hc with (hc | hc) | hc
          · exact h piece List.mem_cons_self c hc
          · rw [List.mem_singleton.mp hc]
            exact hsep
          · exact hrest c hc

theorem visible_urlencode {items : List (String × String)}
    (h : ∀ item ∈ items, QueryPlain item.1 ∧ QueryPlain item.2) :
    ∀ c ∈ ((siteLib path).urlencode items).toList, Text.Visible c := by
  have hampersand : "&".toList = ['&'] := by decide
  have hequals : "=".toList = ['='] := by decide
  rw [urlencode_eq, String.toList_intercalate, hampersand]
  refine forall_mem_intercalate (by unfold Text.Visible; decide) ?_
  intro piece hpiece c hc
  obtain ⟨text, htext, rfl⟩ := List.mem_map.mp hpiece
  obtain ⟨item, hitem, rfl⟩ := List.mem_map.mp htext
  obtain ⟨hname, hvalue⟩ := h item hitem
  rw [String.toList_append, String.toList_append, hequals, List.mem_append, List.mem_append] at hc
  rcases hc with (hc | hc) | hc
  · exact (hname c hc).1
  · rw [List.mem_singleton.mp hc]
    unfold Text.Visible
    decide
  · exact (hvalue c hc).1

/-- The parameters of a link of the site. -/
def siteParams (py : Stdlib) (request : LinkRouteRequest (siteLib path)) (level : ReferralLevel)
    (target : ReferralLinkTarget (siteLib path)) : List (String × String) :=
  trackingParams request level target
    (routeId py request.fields.tenantId request.fields.contentId level target)

theorem urlsplit_siteUrl (path : String) : (siteLib path).urlsplit (siteUrl path) =
    some ⟨"https", "partners.example", path, "", ""⟩ := if_pos rfl

theorem trackedItems_site (level : ReferralLevel) (target : ReferralLinkTarget (siteLib path)) :
    trackedItems py request level target ⟨"https", "partners.example", path, "", ""⟩ =
      siteParams py request level target := by
  have hnone : otherItems (siteLib path) "" = [] := rfl
  unfold trackedItems
  rw [hnone, List.nil_append]
  rfl

theorem urlencode_siteParams_ne (level : ReferralLevel)
    (target : ReferralLinkTarget (siteLib path)) :
    (siteLib path).urlencode (siteParams py request level target) ≠ "" :=
  (parseQsl_urlencode (List.cons_ne_nil _ _) (queryPlain_trackingParams level target)).1

theorem trim_site (hpath : ∀ c ∈ path.toList, Text.Visible c) (level : ReferralLevel)
    (target : ReferralLinkTarget (siteLib path)) :
    Text.trim (siteUrl path ++ "?" ++
      (siteLib path).urlencode (siteParams py request level target)) =
    siteUrl path ++ "?" ++ (siteLib path).urlencode (siteParams py request level target) := by
  have hhost : ∀ c ∈ "https://partners.example".toList, 33 ≤ c.toNat ∧ c.toNat ≤ 126 := by
    decide
  have hmark : ∀ c ∈ "?".toList, 33 ≤ c.toNat ∧ c.toNat ≤ 126 := by decide
  have hvisible := @visible_urlencode path (siteParams py request level target)
    (queryPlain_trackingParams level target)
  generalize (siteLib path).urlencode (siteParams py request level target) = query at *
  apply Text.trim_of_forall_visible
  intro c hc
  unfold siteUrl at hc
  simp only [String.toList_append, List.mem_append] at hc
  rcases hc with ((hc | hc) | hc) | hc
  · exact hhost c hc
  · exact hpath c hc
  · exact hmark c hc
  · exact hvisible c hc

/-- INTERNAL: on URLs of the site the functions are as they are documented. -/
theorem documentedFor_site (hpath : ∀ c ∈ path.toList, Text.Visible c)
    (hurls : ∀ target, IsTarget request target → target.fields.url = siteUrl path) :
    DocumentedFor py request := by
  intro level target parts htarget hparts
  rw [hurls target htarget, urlsplit_siteUrl, Option.some.injEq] at hparts
  subst hparts
  have hnonempty := @urlencode_siteParams_ne path py request level target
  have htrim := @trim_site path py request hpath level target
  have hparse := (@parseQsl_urlencode path (siteParams py request level target)
    (List.cons_ne_nil _ _) (queryPlain_trackingParams level target)).2
  rw [trackedItems_site]
  refine ⟨hparse, ?_, ?_⟩
  · simp only
    rw [urlunsplit_site _ _ hnonempty, urlsplit_site]
  · simp only
    rw [urlunsplit_site _ _ hnonempty, htrim]

theorem fits_site_iff (hpath : ∀ c ∈ path.toList, Text.Visible c) {level : ReferralLevel}
    {target : ReferralLinkTarget (siteLib path)} (hurl : target.fields.url = siteUrl path) :
    Fits py request level target ↔ (siteUrl path ++ "?" ++
      (siteLib path).urlencode (siteParams py request level target)).toList.length ≤
        referralUrlMaxLength := by
  have hsplit := urlsplit_siteUrl path
  rw [← hurl] at hsplit
  have htracked := @trackedUrl_eq (siteLib path) py request level target _ hsplit
  have hnonempty := @urlencode_siteParams_ne path py request level target
  have htrim := @trim_site path py request hpath level target
  rw [trackedItems_site] at htracked
  simp only at htracked
  rw [urlunsplit_site _ _ hnonempty] at htracked
  have hpositive : 1 ≤ (siteUrl path ++ "?" ++
      (siteLib path).urlencode (siteParams py request level target)).toList.length := by
    simp only [String.toList_append, List.length_append]
    have hmark : "?".toList.length = 1 := by decide
    omega
  unfold Fits
  rw [htracked]
  constructor
  · rintro ⟨url, hsome, hfits⟩
    rw [Option.some.injEq] at hsome
    rw [← hsome, htrim, hasLength, Bool.and_eq_true] at hfits
    exact of_decide_eq_true hfits.2
  · intro hle
    refine ⟨_, rfl, ?_⟩
    rw [htrim, hasLength, Bool.and_eq_true]
    exact ⟨decide_eq_true hpositive, decide_eq_true hle⟩

end Site

/-- A path that leaves its URL within the limit. -/
def ShortPath (path : String) : Prop :=
  path.toList.length ≤ 2001 ∧ ∀ c ∈ path.toList, Text.Visible c

theorem length_siteUrl (path : String) :
    (siteUrl path).toList.length = 24 + path.toList.length := by
  have hhost : "https://partners.example".toList.length = 24 := by decide
  unfold siteUrl
  rw [String.toList_append, List.length_append, hhost]

theorem siteUrl_valid {path : String} (h : ShortPath path) :
    (hasLength 1 referralUrlMaxLength (siteUrl path) &&
      validateUrl (siteLib path) (siteUrl path)) = true := by
  have hlength := length_siteUrl path
  have hshort := h.1
  rw [Bool.and_eq_true]
  constructor
  · unfold hasLength referralUrlMaxLength
    rw [Bool.and_eq_true]
    exact ⟨decide_eq_true (by omega), decide_eq_true (by omega)⟩
  · unfold validateUrl
    rw [urlsplit_siteUrl]
    rfl

/-- A target at that URL of the site. -/
def siteTarget {path : String} (hpath : ShortPath path) (ownerId : String) (weight : ℚ)
    (h : tokenPattern ownerId = true ∧ 0 ≤ weight) : ReferralLinkTarget (siteLib path) where
  fields := ⟨ownerId, siteUrl path, weight⟩
  valid := by
    simp only [TargetFields.checks, List.forall_mem_cons, siteUrl_valid hpath, h.1, h.2,
      decide_true]
    simp

theorem ownerAccepted_admin : tokenPattern "admin" = true ∧ (0 : ℚ) ≤ 0 := by decide

theorem ownerAccepted_author : tokenPattern "author" = true ∧ (0 : ℚ) ≤ 0 := by decide

theorem ownerAccepted_partnerA : tokenPattern "partner-a" = true ∧ (0 : ℚ) ≤ 10 := by decide

theorem ownerAccepted_partnerB : tokenPattern "partner-b" = true ∧ (0 : ℚ) ≤ 10 := by decide

/-- Two partners, and the two other levels, at that URL of the site. -/
def siteRequest {path : String} (hpath : ShortPath path) : LinkRouteRequest (siteLib path) where
  fields :=
    { tenantId := "media-center"
      contentId := "content-1"
      adminLink := siteTarget hpath "admin" 0 ownerAccepted_admin
      authorLink := siteTarget hpath "author" 0 ownerAccepted_author
      l3Candidates := [siteTarget hpath "partner-b" 10 ownerAccepted_partnerB,
        siteTarget hpath "partner-a" 10 ownerAccepted_partnerA]
      rotationSeed := none
      l3MinContributionWeight := 10 }
  valid := by
    have htenant : tenantIdPattern "media-center" = true := by decide
    have hcontent : tokenPattern "content-1" = true := by decide
    simp [RequestFields.checks, htenant, hcontent, optionalField]

section Examples

variable {path : String}

theorem documentedFor_siteRequest (py : Stdlib) (hpath : ShortPath path) :
    DocumentedFor py (siteRequest hpath) := by
  refine documentedFor_site hpath.2 ?_
  rintro target (rfl | rfl | htarget)
  · rfl
  · rfl
  · rcases List.mem_pair.mp htarget with rfl | rfl <;> rfl

theorem scaleWeight_siteRequest (hpath : ShortPath path) :
    ∀ c ∈ (siteRequest hpath).fields.l3Candidates, (10 : ℚ) ≤ c.fields.contributionWeight ∧
      scaleWeight c.fields.contributionWeight = .ok 10000 := by
  have hten : scaleWeight 10 = .ok 10000 := by decide +kernel
  intro c hc
  rcases List.mem_pair.mp hc with rfl | rfl
  · exact ⟨le_refl _, hten⟩
  · exact ⟨le_refl _, hten⟩

/-- INTERNAL: the length of a query is that of its names and values, up to the route id. -/
theorem length_urlencode_site (py : Stdlib) (hpath : ShortPath path) (level : ReferralLevel)
    (ownerId : String) (weight : ℚ) (h : tokenPattern ownerId = true ∧ 0 ≤ weight) :
    ∃ n ≤ 32, (siteUrl path ++ "?" ++ (siteLib path).urlencode (siteParams py (siteRequest hpath)
      level (siteTarget hpath ownerId weight h))).toList.length =
        117 + path.toList.length + ownerId.toList.length + n := by
  have hid := length_routeId_le py (siteRequest hpath).fields.tenantId
    (siteRequest hpath).fields.contentId level (siteTarget hpath ownerId weight h)
  have hlevel : level.value.toList.length = 2 := by cases level <;> decide
  refine ⟨_, hid, ?_⟩
  unfold siteParams trackingParams
  generalize routeId py _ _ level (siteTarget hpath ownerId weight h) = id
  rw [urlencode_eq]
  simp [siteRequest, siteTarget, hlevel, length_siteUrl]
  omega

end Examples

/-- The theorem at a short path. -/
theorem generateReferralLinks_routesAll_join :
    ∃ (path : String) (hpath : ShortPath path),
      RoutesAll Reference.stdlib (siteRequest hpath) := by
  have hpath : ShortPath "/join" := by
    have hvisible : ∀ c ∈ "/join".toList, 33 ≤ c.toNat ∧ c.toNat ≤ 126 := by decide
    exact ⟨by decide, hvisible⟩
  have hscaled := scaleWeight_siteRequest hpath
  have hlength : "/join".toList.length = 5 := by decide
  have hfits : ∀ level ownerId weight h, ownerId.toList.length ≤ 20 →
      Fits Reference.stdlib (siteRequest hpath) level (siteTarget hpath ownerId weight h) := by
    intro level ownerId weight h howner
    obtain ⟨n, hn, hsum⟩ := length_urlencode_site Reference.stdlib hpath level ownerId weight h
    rw [fits_site_iff hpath.2 rfl, hsum, hlength]
    unfold referralUrlMaxLength
    omega
  refine ⟨_, hpath, (generateReferralLinks_routesAll_iff Reference.stdlib (siteLib "/join")
    (siteRequest hpath) (documentedFor_siteRequest _ hpath)
    ⟨_, List.mem_cons_self, (hscaled _ List.mem_cons_self).1, _,
      (hscaled _ List.mem_cons_self).2⟩).mpr ⟨?_, ?_, ?_, ?_⟩⟩
  · intro c hc
    exact ⟨_, (hscaled c (List.mem_filter.mp hc).1).2⟩
  · exact hfits _ "admin" 0 (by decide) (by decide)
  · exact hfits _ "author" 0 (by decide) (by decide)
  · rintro c ⟨before, after, hsplit, _⟩
    have hmem : c ∈ heavyEnough (siteRequest hpath) := by
      rw [← (byKey_perm sortKey (heavyEnough (siteRequest hpath))).mem_iff, hsplit]
      exact List.mem_append_right _ List.mem_cons_self
    rcases List.mem_pair.mp (List.mem_filter.mp hmem).1 with rfl | rfl
    · exact hfits _ "partner-b" 10 (by decide) (by decide)
    · exact hfits _ "partner-a" 10 (by decide) (by decide)

/-- The URL of the administrator is accepted with 2025 characters, and then there is no room for
the parameters. -/
theorem not_generateReferralLinks_routesAll : ¬ ∀ (py : Stdlib) (lib : LinkLib)
    (request : LinkRouteRequest lib), DocumentedFor py request →
    (∃ c ∈ request.fields.l3Candidates,
      request.fields.l3MinContributionWeight ≤ c.fields.contributionWeight ∧
      ∃ w, scaleWeight c.fields.contributionWeight = .ok w) → RoutesAll py request := by
  intro hall
  have hchars : (String.ofList ('/' :: List.replicate 2000 'a')).toList =
      '/' :: List.replicate 2000 'a' := String.toList_ofList
  have hlength : (String.ofList ('/' :: List.replicate 2000 'a')).toList.length = 2001 := by
    rw [hchars, List.length_cons, List.length_replicate]
  have hpath : ShortPath (String.ofList ('/' :: List.replicate 2000 'a')) := by
    refine ⟨hlength.le, fun c hc => ?_⟩
    rw [hchars, List.mem_cons] at hc
    unfold Text.Visible
    rcases hc with rfl | hc
    · decide
    · rw [List.eq_of_mem_replicate hc]
      decide
  have hscaled := scaleWeight_siteRequest hpath
  have hroutes := hall Reference.stdlib _ (siteRequest hpath) (documentedFor_siteRequest _ hpath)
    ⟨_, List.mem_cons_self, (hscaled _ List.mem_cons_self).1, _, (hscaled _ List.mem_cons_self).2⟩
  have hfits := hroutes.routable.admin
  obtain ⟨n, _, hsum⟩ := length_urlencode_site Reference.stdlib hpath .l1 "admin" 0
    (by decide)
  rw [fits_site_iff hpath.2 rfl] at hfits
  have hle := hsum ▸ hfits
  rw [hlength] at hle
  unfold referralUrlMaxLength at hle
  omega

end MediaCenter.Cglr
