import MediaCenter.Analysis.Cglr.PartnerRotation

/-!
# The order of the candidates

The candidates are sorted by owner and URL before one is picked, so their order tells only where
two of them have the same owner and the same URL.
-/

set_option autoImplicit false

namespace MediaCenter.Cglr

open MediaCenter.Library MediaCenter.Shared WeightedChoice

section Order

variable {lib : LinkLib} {py : Stdlib} {request : LinkRouteRequest lib}
  {candidates : List (ReferralLinkTarget lib)}

/-- The same request with other candidates. -/
def withCandidates (request : LinkRouteRequest lib)
    (candidates : List (ReferralLinkTarget lib)) : LinkRouteRequest lib where
  fields := { request.fields with l3Candidates := candidates }
  valid := request.valid

/-- Whatever order the candidates come in, the links are the same. -/
def OrderFree (py : Stdlib) (request : LinkRouteRequest lib) : Prop :=
  ∀ candidates, candidates.Perm request.fields.l3Candidates →
    generateReferralLinks py (withCandidates request candidates) =
      generateReferralLinks py request

/-! ## When the order does not matter -/

/-- The candidates that weigh enough. -/
def heavyEnough (request : LinkRouteRequest lib) : List (ReferralLinkTarget lib) :=
  request.fields.l3Candidates.filter fun c =>
    request.fields.l3MinContributionWeight ≤ c.fields.contributionWeight

/-- The scaled weight, zero where there is none. -/
def scaledWeight (candidate : ReferralLinkTarget lib) : ℕ :=
  match scaleWeight candidate.fields.contributionWeight with
  | .ok scaled => scaled
  | .error _ => 0

/-- A candidate whose weight is refused, with an owner and a URL before those of all others
refused. -/
structure FirstRefused (request : LinkRouteRequest lib) (candidate : ReferralLinkTarget lib)
    (e : LinkError) : Prop where
  heavy : candidate ∈ heavyEnough request
  refused : scaleWeight candidate.fields.contributionWeight = .error e
  first : ∀ other ∈ heavyEnough request, ∀ e',
    scaleWeight other.fields.contributionWeight = .error e' → sortKey candidate ≤ sortKey other

/-- In some order of the candidates with its owner and URL, the candidate comes to the offset of
the seed. -/
def CanBePicked (request : LinkRouteRequest lib) (candidate : ReferralLinkTarget lib) : Prop :=
  CanChoose sortKey scaledWeight (heavyEnough request)
    (lib.seedNumber (resolveRotationSeed request) % load scaledWeight (heavyEnough request))
    candidate

/-- The URL of a link, if that of its target can be split. -/
def trackedUrl (py : Stdlib) (request : LinkRouteRequest lib) (level : ReferralLevel)
    (target : ReferralLinkTarget lib) : Option String :=
  (appendTrackingParams lib target.fields.url (trackingParams request level target
    (routeId py request.fields.tenantId request.fields.contentId level target))).toOption

/-- The URL of the link, with what is appended, is not too long. -/
def Fits (py : Stdlib) (request : LinkRouteRequest lib) (level : ReferralLevel)
    (target : ReferralLinkTarget lib) : Prop :=
  ∃ url, trackedUrl py request level target = some url ∧
    hasLength 1 referralUrlMaxLength (Text.trim url) = true

/-- The candidates of one owner and one URL agree where their order would tell. -/
structure Settled (py : Stdlib) (request : LinkRouteRequest lib) : Prop where
  refused : ∀ c c' e e', FirstRefused request c e → FirstRefused request c' e' → e = e'
  picked : (∀ c ∈ heavyEnough request, ∃ w, scaleWeight c.fields.contributionWeight = .ok w) →
    Fits py request .l1 request.fields.adminLink →
    Fits py request .l2 request.fields.authorLink →
    ∀ c c', CanBePicked request c → CanBePicked request c' → Fits py request .l3 c →
      c.fields.contributionWeight = c'.fields.contributionWeight

/-! ## The selection -/

theorem eligibleCandidates_eq : eligibleCandidates request.fields.l3Candidates
    request.fields.l3MinContributionWeight = byKey sortKey (heavyEnough request) := rfl

theorem heavyEnough_perm (h : candidates.Perm request.fields.l3Candidates) :
    (heavyEnough (withCandidates request candidates)).Perm (heavyEnough request) :=
  h.filter _

/-- INTERNAL: any order of the heavy candidates is that of some order of all. -/
theorem exists_withCandidates {heavy : List (ReferralLinkTarget lib)}
    (h : heavy.Perm (heavyEnough request)) : ∃ candidates : List (ReferralLinkTarget lib),
      candidates.Perm request.fields.l3Candidates ∧
        heavyEnough (withCandidates request candidates) = heavy := by
  refine ⟨heavy ++ request.fields.l3Candidates.filter fun c =>
    !decide (request.fields.l3MinContributionWeight ≤ c.fields.contributionWeight),
    (h.append_right _).trans (List.filter_append_perm _ _), ?_⟩
  have hheavy : heavy.filter (fun c => decide (request.fields.l3MinContributionWeight ≤
      c.fields.contributionWeight)) = heavy := by
    rw [List.filter_eq_self]
    intro c hc
    exact (List.mem_filter.mp (h.mem_iff.mp hc)).2
  have hlight : ((request.fields.l3Candidates.filter fun c =>
      !decide (request.fields.l3MinContributionWeight ≤ c.fields.contributionWeight)).filter
        fun c => decide (request.fields.l3MinContributionWeight ≤
          c.fields.contributionWeight)) = [] := by
    rw [List.filter_filter, List.filter_eq_nil_iff]
    intro c _
    simp
  unfold heavyEnough withCandidates
  simp only
  rw [List.filter_append, hheavy, hlight, List.append_nil]

/-- `select_l3_partner` as `generate_referral_links` calls it. -/
def select (request : LinkRouteRequest lib) : Except LinkError (ReferralLinkTarget lib) :=
  selectL3Partner request.fields.l3Candidates (resolveRotationSeed request)
    request.fields.l3MinContributionWeight

theorem select_of_nil (h : heavyEnough request = []) :
    select request = .error (.linkRotation ("нет L3-кандидатов с contribution_weight >= " ++
      lib.formatG request.fields.l3MinContributionWeight)) := by
  unfold select selectL3Partner
  rw [eligibleCandidates_eq, h]
  rfl

/-- INTERNAL: with scaled weights, the candidate at the offset is selected. -/
theorem select_of_scaled (hne : heavyEnough request ≠ [])
    (h : ∀ c ∈ heavyEnough request, ∃ w, scaleWeight c.fields.contributionWeight = .ok w) :
    ∃ chosen, select request = .ok chosen ∧
      choose (lib.seedNumber (resolveRotationSeed request) %
        load scaledWeight (heavyEnough request)) 0
        ((byKey sortKey (heavyEnough request)).map fun c => (c, scaledWeight c)) =
          some chosen := by
  have hweights : Scaled (byKey sortKey (heavyEnough request))
      ((byKey sortKey (heavyEnough request)).map scaledWeight) := by
    unfold Scaled
    rw [List.forall₂_map_right_iff, List.forall₂_same]
    intro c hc
    obtain ⟨w, hw⟩ := h c ((byKey_perm sortKey _).mem_iff.mp hc)
    unfold scaledWeight
    rw [hw]
  have hne' : byKey sortKey (heavyEnough request) ≠ [] := by
    intro hnil
    apply hne
    rw [← List.length_eq_zero_iff, ← (byKey_perm sortKey (heavyEnough request)).length_eq, hnil]
    rfl
  have hsum : ((byKey sortKey (heavyEnough request)).map scaledWeight).sum =
      load scaledWeight (heavyEnough request) := load_perm (byKey_perm sortKey _)
  have hzip : (byKey sortKey (heavyEnough request)).zip
      ((byKey sortKey (heavyEnough request)).map scaledWeight) =
        (byKey sortKey (heavyEnough request)).map fun c => (c, scaledWeight c) :=
    List.map_prod_left_eq_zip.symm
  obtain ⟨chosen, hloop, hselect⟩ := selectL3Partner_eq hweights hne'
  refine ⟨chosen, hselect, ?_⟩
  unfold cumulativeLoop at hloop
  rw [eligibleCandidates_eq, hzip, hsum] at hloop
  exact hloop

/-- INTERNAL: the first candidate in order whose weight is refused stops the selection. -/
theorem select_of_refused
    (h : ¬ ∀ c ∈ heavyEnough request, ∃ w, scaleWeight c.fields.contributionWeight = .ok w) :
    ∃ before c after e, byKey sortKey (heavyEnough request) = before ++ c :: after ∧
      (∀ b ∈ before, ∃ w, scaleWeight b.fields.contributionWeight = .ok w) ∧
      FirstRefused request c e ∧ select request = .error e := by
  cases hscaled : (byKey sortKey (heavyEnough request)).mapM
      (fun c => scaleWeight c.fields.contributionWeight) with
  | ok weights =>
      refine absurd (fun c hc => ?_) h
      exact (exists_mapM_eq_ok_iff _ _).mp ⟨weights, hscaled⟩ c
        ((byKey_perm sortKey _).mem_iff.mpr hc)
  | error e =>
      obtain ⟨before, c, after, hsorted, hbefore, hc⟩ := (mapM_eq_error_iff _ _ _).mp hscaled
      refine ⟨before, c, after, e, hsorted, hbefore, ⟨?_, hc, ?_⟩, ?_⟩
      · rw [← (byKey_perm sortKey (heavyEnough request)).mem_iff, hsorted]
        exact List.mem_append_right _ List.mem_cons_self
      · intro other hother e' he'
        have hmem := (byKey_perm sortKey (heavyEnough request)).mem_iff.mpr hother
        have hordered := pairwise_byKey sortKey (heavyEnough request)
        rw [hsorted] at hmem hordered
        rw [List.pairwise_append, List.pairwise_cons] at hordered
        rcases List.mem_append.mp hmem with hb | ha
        · obtain ⟨w, hw⟩ := hbefore other hb
          rw [he'] at hw
          cases hw
        · rcases List.mem_cons.mp ha with rfl | ha
          · exact le_refl _
          · exact hordered.2.1.1 other ha
      · unfold select selectL3Partner
        simp only [eligibleCandidates_eq]
        split
        · rename_i hlast
          rw [List.getLast?_eq_none_iff, hsorted] at hlast
          simp at hlast
        · rw [hscaled]
          rfl

theorem FirstRefused.perm {c : ReferralLinkTarget lib} {e : LinkError}
    (hperm : candidates.Perm request.fields.l3Candidates)
    (h : FirstRefused (withCandidates request candidates) c e) : FirstRefused request c e where
  heavy := (heavyEnough_perm hperm).mem_iff.mp h.heavy
  refused := h.refused
  first other hother := h.first other ((heavyEnough_perm hperm).mem_iff.mpr hother)

/-- INTERNAL: each first refused candidate stops the selection of some order. -/
theorem FirstRefused.exists_select {c : ReferralLinkTarget lib} {e : LinkError}
    (h : FirstRefused request c e) : ∃ candidates : List (ReferralLinkTarget lib),
      candidates.Perm request.fields.l3Candidates ∧
        select (withCandidates request candidates) = .error e := by
  have hgroup : c ∈ (heavyEnough request).filter fun b => sortKey b = sortKey c := by
    rw [List.mem_filter]
    exact ⟨h.heavy, decide_eq_true rfl⟩
  obtain ⟨before, after, hsplit⟩ := List.append_of_mem hgroup
  have hfront : ((heavyEnough request).filter fun b => sortKey b = sortKey c).Perm
      (c :: (before ++ after)) := by
    rw [hsplit]
    exact List.perm_middle
  obtain ⟨heavy, hheavy, harranged⟩ := exists_perm_filter_eq hfront
  obtain ⟨candidates, hcandidates, heq⟩ := exists_withCandidates hheavy
  refine ⟨candidates, hcandidates, ?_⟩
  have hc : c ∈ heavyEnough (withCandidates request candidates) :=
    (heavyEnough_perm hcandidates).mem_iff.mpr h.heavy
  have hrefused : ¬ ∀ c ∈ heavyEnough (withCandidates request candidates),
      ∃ w, scaleWeight c.fields.contributionWeight = .ok w := by
    intro hall
    obtain ⟨w, hw⟩ := hall c hc
    rw [h.refused] at hw
    cases hw
  obtain ⟨first, d, rest, e', hsorted, hfirst, hd, hselect⟩ := select_of_refused hrefused
  have hkey : sortKey d = sortKey c :=
    le_antisymm (hd.first c hc e h.refused)
      (h.first d ((heavyEnough_perm hcandidates).mem_iff.mp hd.heavy) e' hd.refused)
  -- the sort keeps `c` in front of the others with its key
  have hstable := filter_byKey sortKey heavy (sortKey c)
  rw [harranged, ← heq, hsorted, List.filter_append,
    List.filter_cons_of_pos (by simpa using hkey)] at hstable
  cases hnone : first.filter fun b => sortKey b = sortKey c with
  | nil =>
      rw [hnone, List.nil_append] at hstable
      obtain ⟨rfl, _⟩ := List.cons.inj hstable
      have he := hd.refused
      rw [h.refused] at he
      cases he
      exact hselect
  | cons b _ =>
      rw [hnone, List.cons_append] at hstable
      obtain ⟨rfl, _⟩ := List.cons.inj hstable
      have hb : b ∈ first := by
        have hmem : b ∈ first.filter fun a => sortKey a = sortKey b := by
          rw [hnone]
          exact List.mem_cons_self
        exact List.mem_of_mem_filter hmem
      obtain ⟨w, hw⟩ := hfirst b hb
      rw [h.refused] at hw
      cases hw

/-- INTERNAL: what can be picked is what some order selects. -/
theorem exists_select_iff (hne : heavyEnough request ≠ [])
    (h : ∀ c ∈ heavyEnough request, ∃ w, scaleWeight c.fields.contributionWeight = .ok w)
    {c : ReferralLinkTarget lib} : (∃ candidates : List (ReferralLinkTarget lib),
      candidates.Perm request.fields.l3Candidates ∧
        select (withCandidates request candidates) = .ok c) ↔ CanBePicked request c := by
  have hselect : ∀ candidates : List (ReferralLinkTarget lib),
      candidates.Perm request.fields.l3Candidates →
      (select (withCandidates request candidates) = .ok c ↔
        choose (lib.seedNumber (resolveRotationSeed request) %
          load scaledWeight (heavyEnough request)) 0
          ((byKey sortKey (heavyEnough (withCandidates request candidates))).map
            fun c => (c, scaledWeight c)) = some c) := by
    intro candidates hcandidates
    have hperm := heavyEnough_perm hcandidates
    have hne' : heavyEnough (withCandidates request candidates) ≠ [] := by
      intro hnil
      rw [hnil] at hperm
      exact hne hperm.symm.eq_nil
    obtain ⟨chosen, hchosen, hchoose⟩ := select_of_scaled hne' fun b hb =>
      h b (hperm.mem_iff.mp hb)
    rw [load_perm hperm] at hchoose
    have hseed : resolveRotationSeed (withCandidates request candidates) =
        resolveRotationSeed request := rfl
    rw [hseed] at hchoose
    rw [hchosen, hchoose, Except.ok.injEq, Option.some.injEq]
  unfold CanBePicked
  rw [← exists_perm_choose_iff]
  constructor
  · rintro ⟨candidates, hcandidates, hok⟩
    exact ⟨_, heavyEnough_perm hcandidates, (hselect candidates hcandidates).mp hok⟩
  · rintro ⟨heavy, hheavy, hchoose⟩
    obtain ⟨candidates, hcandidates, rfl⟩ := exists_withCandidates hheavy
    exact ⟨candidates, hcandidates, (hselect candidates hcandidates).mpr hchoose⟩

/-! ## The links -/

/-- `generate_referral_links` once the partner is selected. -/
def linksFor (py : Stdlib) (request : LinkRouteRequest lib) (target : ReferralLinkTarget lib) :
    Except LinkError LinkRouteResult := do
  let first ← buildReferralLink py request .l1 request.fields.adminLink none
  let second ← buildReferralLink py request .l2 request.fields.authorLink none
  let third ← buildReferralLink py request .l3 target (some (resolveRotationSeed request))
  (linkRouteResult
    { tenantId := request.fields.tenantId
      contentId := request.fields.contentId
      l3MinContributionWeight := request.fields.l3MinContributionWeight
      links := [first, second, third] }).mapError .shared

theorem generateReferralLinks_eq (py : Stdlib) (request : LinkRouteRequest lib) :
    generateReferralLinks py request = select request >>= linksFor py request := rfl

theorem linksFor_withCandidates (target : ReferralLinkTarget lib) :
    linksFor py (withCandidates request candidates) target = linksFor py request target := rfl

theorem trackedUrl_congr {level : ReferralLevel} {target target' : ReferralLinkTarget lib}
    (h : sortKey target = sortKey target') :
    trackedUrl py request level target = trackedUrl py request level target' := by
  have hkey : target.fields.ownerId = target'.fields.ownerId ∧
      target.fields.url = target'.fields.url := by
    unfold sortKey at h
    rw [toLex_inj, Prod.mk.injEq] at h
    exact h
  unfold trackedUrl trackingParams routeId
  rw [hkey.1, hkey.2]

theorem tokenPattern_routeId (tenantId contentId : String) (level : ReferralLevel)
    (target : ReferralLinkTarget lib) :
    tokenPattern (routeId py tenantId contentId level target) = true := by
  have hex : ∀ c, isHexChar c = true → Text.isAsciiAlnum c = true := by
    intro c hc
    unfold isHexChar Text.isAsciiDigit at hc
    unfold Text.isAsciiAlnum Text.isAsciiUpper Text.isAsciiLower Text.isAsciiDigit
    simp only [Bool.or_eq_true, Bool.and_eq_true, decide_eq_true_eq] at hc ⊢
    rcases hc with hdigit | ⟨hlow, hhigh⟩
    · exact .inr hdigit
    · exact .inl (.inr ⟨hlow, hhigh.trans (by decide)⟩)
  have htoken : ∀ s : String, auditHashPattern s = true →
      tokenPattern (String.ofList (s.toList.take routeIdLength)) = true := by
    intro s hs
    unfold auditHashPattern at hs
    rw [Bool.and_eq_true, decide_eq_true_iff, List.all_eq_true] at hs
    obtain ⟨hlength, hall⟩ := hs
    unfold tokenPattern Text.matchesHeadTail
    rw [String.toList_ofList]
    cases hchars : s.toList with
    | nil =>
        rw [hchars] at hlength
        cases hlength
    | cons x xs =>
        rw [hchars] at hall hlength
        show (Text.isAsciiAlnum x && (xs.take 31).all _ &&
          decide ((xs.take 31).length ≤ 127)) = true
        rw [Bool.and_eq_true, Bool.and_eq_true, List.all_eq_true, decide_eq_true_iff]
        refine ⟨⟨hex x (hall x List.mem_cons_self), ?_⟩, ?_⟩
        · intro c hc
          rw [hex c (hall c (List.mem_cons_of_mem _ (List.mem_of_mem_take hc)))]
          rfl
        · rw [List.length_take]
          omega
  exact htoken _ (py.sha256Hex_pattern _)

/-- The fields of a link with a URL. -/
def linkFields (py : Stdlib) (request : LinkRouteRequest lib) (level : ReferralLevel)
    (target : ReferralLinkTarget lib) (seed : Option String) (url : String) : LinkFields where
  tenantId := request.fields.tenantId
  contentId := request.fields.contentId
  routeId := routeId py request.fields.tenantId request.fields.contentId level target
  level := level
  ownerId := target.fields.ownerId
  url := Text.trim url
  rewardShare := level.rewardRate
  contributionWeight := target.fields.contributionWeight
  rotationSeed := seed.map Text.trim

theorem tenantIdPattern_of_request (request : LinkRouteRequest lib) :
    tenantIdPattern request.fields.tenantId = true :=
  request.valid ("tenant_id", _) List.mem_cons_self

theorem tokenPattern_contentId (request : LinkRouteRequest lib) :
    tokenPattern request.fields.contentId = true :=
  request.valid ("content_id", _) (List.mem_cons_of_mem _ List.mem_cons_self)

theorem tokenPattern_ownerId (target : ReferralLinkTarget lib) :
    tokenPattern target.fields.ownerId = true :=
  target.valid ("owner_id", _) List.mem_cons_self

theorem contributionWeight_nonneg (target : ReferralLinkTarget lib) :
    0 ≤ target.fields.contributionWeight :=
  of_decide_eq_true (target.valid ("contribution_weight", _)
    (List.mem_cons_of_mem _ (List.mem_cons_of_mem _ List.mem_cons_self)))

/-- INTERNAL: a link is made of its URL, if that can be split. -/
theorem buildReferralLink_eq {level : ReferralLevel} {target : ReferralLinkTarget lib}
    {seed : Option String} {url : String}
    (h : trackedUrl py request level target = some url) :
    buildReferralLink py request level target seed =
      (Validated.make "ReferralLink" LinkFields.checks
        (linkFields py request level target seed url)).mapError .shared := by
  unfold trackedUrl at h
  unfold buildReferralLink
  cases hurl : appendTrackingParams lib target.fields.url (trackingParams request level target
      (routeId py request.fields.tenantId request.fields.contentId level target)) with
  | error e =>
      rw [hurl] at h
      cases h
  | ok tracked =>
      rw [hurl] at h
      cases h
      simp only [bind, Except.bind, hurl]
      unfold referralLink linkFields
      simp only [trim_of_tokenPattern (tokenPattern_of_tenantIdPattern
        (tenantIdPattern_of_request request)), trim_of_tokenPattern
        (tokenPattern_contentId request), trim_of_tokenPattern (tokenPattern_ownerId target),
        trim_of_tokenPattern (tokenPattern_routeId _ _ _ _)]

theorem exists_trackedUrl (py : Stdlib) (request : LinkRouteRequest lib) (level : ReferralLevel)
    (target : ReferralLinkTarget lib) : ∃ url, trackedUrl py request level target = some url := by
  have hvalid : validateUrl lib target.fields.url = true := by
    have hboth := target.valid ("url", _) (List.mem_cons_of_mem _ List.mem_cons_self)
    rw [Bool.and_eq_true] at hboth
    exact hboth.2
  unfold validateUrl at hvalid
  unfold trackedUrl appendTrackingParams
  cases hsplit : lib.urlsplit target.fields.url with
  | none =>
      rw [hsplit] at hvalid
      cases hvalid
  | some parts => exact ⟨_, rfl⟩

theorem linkFields_checks (level : ReferralLevel) (target : ReferralLinkTarget lib)
    (seed : Option String) (url : String) :
    (linkFields py request level target seed url).checks =
      [("tenant_id", true), ("content_id", true), ("route_id", true), ("owner_id", true),
        ("url", hasLength 1 referralUrlMaxLength (Text.trim url)), ("reward_share", true),
        ("contribution_weight", true)] := by
  have hrate : decide (0 ≤ level.rewardRate ∧ level.rewardRate ≤ 1) = true := by
    cases level <;> decide +kernel
  unfold LinkFields.checks linkFields
  simp only [tenantIdPattern_of_request request, tokenPattern_contentId request,
    tokenPattern_routeId, tokenPattern_ownerId target, hrate,
    decide_eq_true (contributionWeight_nonneg target)]

/-- INTERNAL: a link whose URL fits is built. -/
theorem Fits.exists_link {level : ReferralLevel} {target : ReferralLinkTarget lib}
    (h : Fits py request level target) (seed : Option String) :
    ∃ link, buildReferralLink py request level target seed = .ok link ∧
      link.fields.contributionWeight = target.fields.contributionWeight := by
  obtain ⟨url, hurl, hlength⟩ := h
  have hvalid : ∀ c ∈ (linkFields py request level target seed url).checks, c.2 = true := by
    rw [linkFields_checks, hlength]
    decide
  refine ⟨⟨_, hvalid⟩, ?_, rfl⟩
  rw [buildReferralLink_eq hurl, mapError_eq_ok_iff, Validated.make_eq_ok_iff]

/-- INTERNAL: a link whose URL does not fit is refused, whoever it is for. -/
theorem buildReferralLink_of_not_fits {level : ReferralLevel} {target : ReferralLinkTarget lib}
    (h : ¬ Fits py request level target) (seed : Option String) :
    buildReferralLink py request level target seed =
      .error (.shared (.validationError "ReferralLink" ["url"])) := by
  obtain ⟨url, hurl⟩ := exists_trackedUrl py request level target
  have hlength : hasLength 1 referralUrlMaxLength (Text.trim url) = false := by
    rw [Bool.eq_false_iff]
    exact fun hlength => h ⟨url, hurl, hlength⟩
  rw [buildReferralLink_eq hurl]
  unfold Validated.make
  rw [dif_neg, linkFields_checks, hlength]
  · rfl
  · rw [linkFields_checks, hlength]
    decide

/-- All three links fit. -/
def AllFit (py : Stdlib) (request : LinkRouteRequest lib) (target : ReferralLinkTarget lib) :
    Prop :=
  Fits py request .l1 request.fields.adminLink ∧ Fits py request .l2 request.fields.authorLink ∧
    Fits py request .l3 target

theorem AllFit.exists_linksFor {target : ReferralLinkTarget lib}
    (h : AllFit py request target) : ∃ result, linksFor py request target = .ok result ∧
      (result.fields.links.map fun link => link.fields.contributionWeight) =
        [request.fields.adminLink.fields.contributionWeight,
          request.fields.authorLink.fields.contributionWeight,
          target.fields.contributionWeight] := by
  obtain ⟨first, hfirst, hfirstWeight⟩ := h.1.exists_link none
  obtain ⟨second, hsecond, hsecondWeight⟩ := h.2.1.exists_link none
  obtain ⟨third, hthird, hthirdWeight⟩ :=
    h.2.2.exists_link (some (resolveRotationSeed request))
  have hminimum : decide (0 ≤ request.fields.l3MinContributionWeight) = true :=
    request.valid ("l3_min_contribution_weight", _) (List.mem_cons_of_mem _
      (List.mem_cons_of_mem _ (List.mem_cons_of_mem _ List.mem_cons_self)))
  have hvalid : ∀ c ∈ (ResultFields.mk request.fields.tenantId request.fields.contentId
      request.fields.l3MinContributionWeight [first, second, third]).checks, c.2 = true := by
    simp only [ResultFields.checks, tenantIdPattern_of_request request,
      tokenPattern_contentId request, hminimum]
    decide
  refine ⟨⟨_, hvalid⟩, ?_, ?_⟩
  · unfold linksFor
    simp only [hfirst, hsecond, hthird, bind, Except.bind, mapError_eq_ok_iff]
    unfold linkRouteResult
    rw [Validated.make_eq_ok_iff, trim_of_tokenPattern (tokenPattern_contentId request),
      trim_of_tokenPattern (tokenPattern_of_tenantIdPattern (tenantIdPattern_of_request request))]
  · rw [List.map_cons, List.map_cons, List.map_cons, hfirstWeight, hsecondWeight, hthirdWeight]
    rfl

/-- INTERNAL: links that do not all fit are refused alike for every candidate of one owner and
URL. -/
theorem linksFor_congr {c c' : ReferralLinkTarget lib} (hkey : sortKey c = sortKey c')
    (h : ¬ AllFit py request c) : linksFor py request c = linksFor py request c' := by
  have hfits : Fits py request .l3 c ↔ Fits py request .l3 c' := by
    unfold Fits
    rw [trackedUrl_congr hkey]
  unfold linksFor
  by_cases hfirst : Fits py request .l1 request.fields.adminLink
  · obtain ⟨first, hfirst', _⟩ := hfirst.exists_link none
    rw [hfirst']
    by_cases hsecond : Fits py request .l2 request.fields.authorLink
    · obtain ⟨second, hsecond', _⟩ := hsecond.exists_link none
      have hthird : ¬ Fits py request .l3 c := fun hthird => h ⟨hfirst, hsecond, hthird⟩
      rw [hsecond', buildReferralLink_of_not_fits hthird,
        buildReferralLink_of_not_fits (fun hthird' => hthird (hfits.mpr hthird'))]
    · rw [buildReferralLink_of_not_fits hsecond]
      simp only [bind, Except.bind]
  · rw [buildReferralLink_of_not_fits hfirst]
    simp only [bind, Except.bind]

theorem eq_of_sortKey {c c' : ReferralLinkTarget lib} (hkey : sortKey c = sortKey c')
    (hweight : c.fields.contributionWeight = c'.fields.contributionWeight) : c = c' := by
  unfold sortKey at hkey
  rw [toLex_inj, Prod.mk.injEq] at hkey
  obtain ⟨⟨owner, url, weight⟩, hc⟩ := c
  obtain ⟨⟨owner', url', weight'⟩, hc'⟩ := c'
  obtain ⟨rfl, rfl⟩ := hkey
  simp only at hweight
  subst hweight
  rfl

/-! ## The order of the candidates -/

theorem OrderFree.settled (h : OrderFree py request) : Settled py request := by
  constructor
  · intro c c' e e' hc hc'
    obtain ⟨l, hl, hselect⟩ := hc.exists_select
    obtain ⟨l', hl', hselect'⟩ := hc'.exists_select
    have hsame := (h l hl).trans (h l' hl').symm
    rw [generateReferralLinks_eq, generateReferralLinks_eq, hselect, hselect'] at hsame
    cases hsame
    rfl
  · intro hscaled hfirst hsecond c c' hc hc' hfits
    have hne : heavyEnough request ≠ [] := List.ne_nil_of_mem (CanChoose.mem hc)
    obtain ⟨l, hl, hselect⟩ := (exists_select_iff hne hscaled).mpr hc
    obtain ⟨l', hl', hselect'⟩ := (exists_select_iff hne hscaled).mpr hc'
    have hfits' : Fits py request .l3 c' := by
      unfold Fits
      rw [← trackedUrl_congr (CanChoose.key_eq hc hc')]
      exact hfits
    have hsame := (h l hl).trans (h l' hl').symm
    rw [generateReferralLinks_eq, generateReferralLinks_eq, hselect, hselect'] at hsame
    obtain ⟨result, hresult, hweights⟩ := AllFit.exists_linksFor ⟨hfirst, hsecond, hfits⟩
    obtain ⟨result', hresult', hweights'⟩ := AllFit.exists_linksFor ⟨hfirst, hsecond, hfits'⟩
    simp only [bind, Except.bind, linksFor_withCandidates, hresult, hresult',
      Except.ok.injEq] at hsame
    rw [hsame, hweights'] at hweights
    simp only [List.cons.injEq, true_and, and_true] at hweights
    exact hweights.symm

theorem Settled.orderFree (h : Settled py request) : OrderFree py request := by
  intro l hl
  have hperm := heavyEnough_perm hl
  rw [generateReferralLinks_eq, generateReferralLinks_eq]
  by_cases hscaled : ∀ c ∈ heavyEnough request,
      ∃ w, scaleWeight c.fields.contributionWeight = .ok w
  · by_cases hne : heavyEnough request = []
    · have hne' : heavyEnough (withCandidates request l) = [] := by
        rw [hne] at hperm
        exact hperm.eq_nil
      rw [select_of_nil hne, select_of_nil hne']
      rfl
    · obtain ⟨chosen, hchosen, _⟩ := select_of_scaled hne hscaled
      have hne' : heavyEnough (withCandidates request l) ≠ [] := by
        intro hnil
        rw [hnil] at hperm
        exact hne hperm.symm.eq_nil
      obtain ⟨chosen', hchosen', _⟩ := select_of_scaled hne' fun b hb =>
        hscaled b (hperm.mem_iff.mp hb)
      have hpicked : CanBePicked request chosen :=
        (exists_select_iff hne hscaled).mp ⟨_, List.Perm.refl _, hchosen⟩
      have hpicked' : CanBePicked request chosen' :=
        (exists_select_iff hne hscaled).mp ⟨l, hl, hchosen'⟩
      have hkey := CanChoose.key_eq hpicked' hpicked
      rw [hchosen, hchosen']
      show linksFor py request chosen' = linksFor py request chosen
      by_cases hfit : AllFit py request chosen'
      · rw [eq_of_sortKey hkey
          (h.picked hscaled hfit.1 hfit.2.1 _ _ hpicked' hpicked hfit.2.2)]
      · exact linksFor_congr hkey hfit
  · obtain ⟨_, c, _, e, _, _, hfirst, hselect⟩ := select_of_refused hscaled
    have hscaled' : ¬ ∀ c ∈ heavyEnough (withCandidates request l),
        ∃ w, scaleWeight c.fields.contributionWeight = .ok w := fun hall =>
      hscaled fun b hb => hall b (hperm.mem_iff.mpr hb)
    obtain ⟨_, c', _, e', _, _, hfirst', hselect'⟩ := select_of_refused hscaled'
    rw [hselect, hselect', h.refused c c' e e' hfirst (hfirst'.perm hl)]
    rfl

end Order

/-- The links do not depend on the order of the candidates exactly if the candidates of one owner
and one URL agree: on what is wrong with a refused weight, and on the weight of those that some
order brings to the offset of the seed. -/
theorem generateReferralLinks_orderFree_iff (py : Stdlib) (lib : LinkLib)
    (request : LinkRouteRequest lib) : OrderFree py request ↔ Settled py request :=
  ⟨OrderFree.settled, Settled.orderFree⟩

/-! ## One partner, entered twice -/

/-- The same partner once more, with a weight that scales to the same number. -/
def partnerAgain : ReferralLinkTarget plainLib :=
  plainTarget "partner-a" (10 + 1 / 4096) (by decide +kernel)

def twiceRequest : LinkRouteRequest plainLib where
  fields :=
    { tenantId := "media-center"
      contentId := "content-1"
      adminLink := plainTarget "admin" 0 (by decide)
      authorLink := plainTarget "author" 0 (by decide)
      l3Candidates := [partnerA, partnerAgain]
      rotationSeed := none
      l3MinContributionWeight := 10 }
  valid := by
    have htenant : tenantIdPattern "media-center" = true := by decide
    have hcontent : tokenPattern "content-1" = true := by decide
    simp only [RequestFields.checks, htenant, hcontent]
    decide

theorem length_routeId_le {lib : LinkLib} (py : Stdlib) (tenantId contentId : String)
    (level : ReferralLevel) (target : ReferralLinkTarget lib) :
    (routeId py tenantId contentId level target).toList.length ≤ 32 := by
  unfold routeId
  rw [String.toList_ofList]
  exact List.length_take_le _ _

/-- INTERNAL: a text with a visible character has one when it is stripped. -/
theorem hasLength_trim {s : String} {c : Char} {n : ℕ} (hc : c ∈ s.toList)
    (hspace : Text.isWhiteSpace c = false) (hlength : s.toList.length ≤ n) :
    hasLength 1 n (Text.trim s) = true := by
  have hne : Text.trim s ≠ "" := by
    intro h
    rw [Text.trim, Text.dropBoth_eq_empty_iff] at h
    rw [h c hc] at hspace
    cases hspace
  have hle : (Text.trim s).toList.length ≤ s.toList.length := by
    rw [Text.trim, Text.toList_dropBoth]
    exact ((List.rdropWhile_prefix _ _).length_le).trans (List.length_dropWhile_le _ _)
  unfold hasLength
  rw [Bool.and_eq_true, decide_eq_true_iff, decide_eq_true_iff]
  refine ⟨List.length_pos_iff.mpr ?_, hle.trans hlength⟩
  rwa [Ne, String.toList_eq_nil_iff]

theorem fits_plainTarget (py : Stdlib) (level : ReferralLevel) {ownerId : String} {weight : ℚ}
    (h : tokenPattern ownerId = true ∧ 0 ≤ weight) (hlength : ownerId.toList.length ≤ 20) :
    Fits py twiceRequest level (plainTarget ownerId weight h) := by
  have hid := length_routeId_le py twiceRequest.fields.tenantId twiceRequest.fields.contentId
    level (plainTarget ownerId weight h)
  have hlevel : level.value.toList.length = 2 := by cases level <;> decide
  unfold Fits trackedUrl
  generalize routeId py _ _ level (plainTarget ownerId weight h) = id at hid ⊢
  have hsplit : plainLib.urlsplit partnersUrl =
      some ⟨"https", "partners.example", "/join", "", ""⟩ := by
    simp [plainLib]
  unfold appendTrackingParams trackingParams
  simp only [plainTarget, hsplit]
  refine ⟨_, rfl, hasLength_trim (c := 'h') ?_ (by decide) ?_⟩
  · simp [plainLib]
  · simp [plainLib, twiceRequest, hlevel, referralUrlMaxLength]
    omega

theorem heavyEnough_twiceRequest : heavyEnough twiceRequest = [partnerA, partnerAgain] := by
  have hboth : ∀ c ∈ [partnerA, partnerAgain],
      decide ((10 : ℚ) ≤ c.fields.contributionWeight) = true := by decide +kernel
  exact List.filter_eq_self.mpr hboth

theorem scaleWeight_twiceRequest : ∀ c ∈ heavyEnough twiceRequest,
    scaleWeight c.fields.contributionWeight = .ok 10000 := by
  have hfirst : scaleWeight partnerA.fields.contributionWeight = .ok 10000 := by decide +kernel
  have hsecond : scaleWeight partnerAgain.fields.contributionWeight = .ok 10000 := by
    decide +kernel
  rw [heavyEnough_twiceRequest, List.forall_mem_cons, List.forall_mem_singleton]
  exact ⟨hfirst, hsecond⟩

/-- INTERNAL: at any offset, either entry comes up in some order. -/
theorem canBePicked_twiceRequest {c other : ReferralLinkTarget plainLib}
    (h : [partnerA, partnerAgain].Perm [c, other]) : CanBePicked twiceRequest c := by
  have hkeys : ∀ b ∈ [partnerA, partnerAgain], sortKey b = sortKey partnerA := by
    rw [List.forall_mem_cons, List.forall_mem_singleton]
    exact ⟨rfl, rfl⟩
  have hkey : ∀ b ∈ heavyEnough twiceRequest, sortKey b = sortKey c := by
    rw [heavyEnough_twiceRequest]
    intro b hb
    rw [hkeys b hb, hkeys c (h.mem_iff.mpr List.mem_cons_self)]
  have hweight : ∀ b ∈ heavyEnough twiceRequest, scaledWeight b = 10000 := by
    intro b hb
    unfold scaledWeight
    rw [scaleWeight_twiceRequest b hb]
  have hall : ((heavyEnough twiceRequest).filter fun b => sortKey b = sortKey c) =
      heavyEnough twiceRequest := by
    rw [List.filter_eq_self]
    intro b hb
    exact decide_eq_true (hkey b hb)
  have hnone : ((heavyEnough twiceRequest).filter fun b => sortKey b < sortKey c) = [] := by
    rw [List.filter_eq_nil_iff]
    intro b hb
    rw [hkey b hb]
    simp
  rw [heavyEnough_twiceRequest] at hweight
  have hc : scaledWeight c = 10000 := hweight c (h.mem_iff.mpr List.mem_cons_self)
  have hother : scaledWeight other = 10000 :=
    hweight other (h.mem_iff.mpr (List.mem_cons_of_mem _ List.mem_cons_self))
  have hload : load scaledWeight (heavyEnough twiceRequest) = 20000 := by
    rw [heavyEnough_twiceRequest, load_perm h, load_cons, load_cons, hc, hother]
    rfl
  have hoffset := Nat.mod_lt (plainLib.seedNumber (resolveRotationSeed twiceRequest))
    (show 0 < 20000 by decide)
  unfold CanBePicked CanChoose
  rw [hall, hnone, hload, heavyEnough_twiceRequest]
  generalize plainLib.seedNumber (resolveRotationSeed twiceRequest) % 20000 = offset at hoffset
  by_cases hearly : offset < 10000
  · refine ⟨[], [other], h, ?_, ?_⟩
    · exact Nat.zero_le _
    · rw [hc]
      exact hearly
  · refine ⟨[other], [], h.trans (List.Perm.swap _ _ _), ?_, ?_⟩
    · rw [load_cons, hother]
      exact not_lt.mp hearly
    · rw [load_cons, hother, hc]
      exact hoffset

open Reference in
/-- The weight of the third link depends on which of the two entries comes first. -/
theorem not_orderFree_twice : ¬ OrderFree stdlib twiceRequest := by
  intro h
  have hscaled : ∀ c ∈ heavyEnough twiceRequest,
      ∃ w, scaleWeight c.fields.contributionWeight = .ok w := fun c hc =>
    ⟨_, scaleWeight_twiceRequest c hc⟩
  have hadmin : Fits stdlib twiceRequest .l1 twiceRequest.fields.adminLink :=
    @fits_plainTarget stdlib .l1 "admin" 0 (by decide) (by decide)
  have hauthor : Fits stdlib twiceRequest .l2 twiceRequest.fields.authorLink :=
    @fits_plainTarget stdlib .l2 "author" 0 (by decide) (by decide)
  have hpartner : Fits stdlib twiceRequest .l3 partnerA :=
    @fits_plainTarget stdlib .l3 "partner-a" 10 (by decide) (by decide)
  have hsame := h.settled.picked hscaled hadmin hauthor partnerA partnerAgain
    (canBePicked_twiceRequest (List.Perm.refl _))
    (canBePicked_twiceRequest (List.Perm.swap _ _ _)) hpartner
  exact absurd hsame (by decide +kernel)

end MediaCenter.Cglr
