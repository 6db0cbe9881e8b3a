import MediaCenter.Library.Index
import MediaCenter.Analysis.Shared.MarketplaceSlugs

/-!
# The slug index of the marketplace

The index from slugs to tenants is written with every profile and never shortened, so a tenant
that is published under another slug keeps the old one taken.  The index from slugs to
applications loses an entry with every rejection, of whichever application.
-/

set_option autoImplicit false

namespace MediaCenter.Shared

open MediaCenter.Library

namespace InMemoryTenantMarketplace

def slugTaken : SharedException := .valueError "slug уже занят"

/-- A stored profile has the slug. -/
def HasProfile (market : InMemoryTenantMarketplace) (slug : Slug) : Prop :=
  ∃ t p, market.profiles.get? t = some p ∧ p.slug = slug

/-- Nothing but the slug can stop a submission: its checks pass, and no application has its
id. -/
structure Submittable (market : InMemoryTenantMarketplace) (ambient : MarketplaceAmbient)
    (submission : TenantMarketplaceSubmission) (applicant : TenantContext)
    (submittedAt : Option PyDatetime) (applicationId : Option String) : Prop where
  subject : ∃ subject, TenantMarketplace.requiredText (applicant.subject.getD "")
    "applicant.subject" = .ok subject
  time : ∃ time, normalizeDatetime (submittedAt.getD ambient.now) = .ok time
  id : ∃ key, normalizedApplicationId submission.slug ambient.uuid applicationId = .ok key ∧
    (∃ t, TenantMarketplace.validatedApplicationId key = .ok t) ∧
    ¬ market.applications.contains key = true

/-- What the index promises. -/
structure SlugIndexExact (market : InMemoryTenantMarketplace) : Prop where
  index : ∀ slug t, market.profilesBySlug.get? slug = some t ↔
    ∃ p, market.profiles.get? t = some p ∧ p.slug.val = slug
  unique : ∀ t t' p p', market.profiles.get? t = some p → market.profiles.get? t' = some p' →
    p.slug = p'.slug → t = t'
  available : ∀ slug : Slug, market.ensureSlugAvailableForApplication slug.val = .error slugTaken ↔
    market.HasProfile slug ∨ ∃ id, market.LiveAt slug id
  submits : ∀ ambient submission applicant submittedAt applicationId,
    Submittable market ambient submission applicant submittedAt applicationId →
    ((step market ⟨ambient, .submit submission applicant submittedAt applicationId⟩).1 =
        .raised slugTaken ↔
      market.HasProfile submission.slug ∨ ∃ id, market.LiveAt submission.slug id)
  publishes : ∀ ambient profile,
    (step market ⟨ambient, .publish profile⟩).1 = .raised slugTaken ↔
      ∃ t p, market.profiles.get? t = some p ∧ p.slug = profile.slug ∧ t ≠ profile.tenantId.val

/-- A publication that gives a tenant's profile another slug, which no other tenant has. -/
def Renames (market : InMemoryTenantMarketplace) (c : MarketplaceInput) : Prop :=
  ∃ profile old, c.call = .publish profile ∧
    market.profiles.get? profile.tenantId.val = some old ∧ old.slug ≠ profile.slug ∧
    ∀ t p, market.profiles.get? t = some p → p.slug = profile.slug → t = profile.tenantId.val

/-- A decision after which an application is live that nothing guards: its slug has no profile,
and the decision revives it while no other application of the slug is live, or rejects another
application of the slug. -/
def LeavesUnguarded (market : InMemoryTenantMarketplace) (decision : TenantMarketplaceDecision)
    (a : TenantMarketplaceApplication) : Prop :=
  match decision with
  | .approve => False
  | .requestChanges => a.status = .rejected ∧ ¬ market.HasProfile a.slug ∧
      ∀ id, ¬ market.LiveAt a.slug id
  | .reject => ¬ market.HasProfile a.slug ∧
      ∃ id, id ≠ a.applicationId.val ∧ market.LiveAt a.slug id

/-- The call renames no tenant and leaves no application unguarded. -/
def KeepsSlugIndex (market : InMemoryTenantMarketplace) (c : MarketplaceInput) : Prop :=
  ¬ Renames market c ∧
    ∀ decision a, Reaches market c decision a → ¬ LeavesUnguarded market decision a

/-- The index of the profiles is exact; the index of the applications names live ones, and each
slug with a live application is in one of the two. -/
structure IndexInvariant (market : InMemoryTenantMarketplace) : Prop where
  sound : Sound market
  exact : IsIndex (fun p : TenantMarketplaceProfile => p.slug.val) market.profiles
    market.profilesBySlug
  indexed : ∀ slug id, market.applicationsBySlug.get? slug = some id →
    ∃ a, market.applications.get? id = some a ∧ a.slug.val = slug ∧ a.status ≠ .rejected
  guarded : ∀ slug id, market.LiveAt slug id →
    (∃ id', market.applicationsBySlug.get? slug.val = some id') ∨ market.Published slug

theorem indexInvariant_empty (resourceManager : Option InMemoryTenantResourceManager) :
    IndexInvariant (empty resourceManager) := by
  refine ⟨sound_empty resourceManager, isIndex_empty _, ?_, ?_⟩
  · intro slug id hget
    cases hget
  · rintro slug id ⟨a, hget, _⟩
    cases hget

/-! ## What the invariant gives -/

section Invariant

variable {market : InMemoryTenantMarketplace}

theorem IndexInvariant.published_iff (hinv : IndexInvariant market) {slug : Slug} :
    market.Published slug ↔ market.HasProfile slug := by
  unfold Published HasProfile
  rw [hinv.exact.contains_iff]
  constructor
  · rintro ⟨t, p, hp, hslug⟩
    exact ⟨t, p, hp, Subtype.ext hslug⟩
  · rintro ⟨t, p, hp, hslug⟩
    exact ⟨t, p, hp, congrArg Subtype.val hslug⟩

/-- `_ensure_slug_available_for_profile` looks for another tenant with the slug. -/
theorem IndexInvariant.ensureSlugAvailableForProfile_eq (hinv : IndexInvariant market)
    (slug : Slug) (tenantId : String) :
    (market.ensureSlugAvailableForProfile slug.val tenantId = .error slugTaken ∧
      ∃ t p, market.profiles.get? t = some p ∧ p.slug = slug ∧ t ≠ tenantId) ∨
    (market.ensureSlugAvailableForProfile slug.val tenantId = .ok () ∧
      ∀ t p, market.profiles.get? t = some p → p.slug = slug → t = tenantId) := by
  unfold ensureSlugAvailableForProfile
  cases hindex : market.profilesBySlug.get? slug.val with
  | none =>
      refine .inr ⟨rfl, ?_⟩
      intro t p hp hslug
      have hsome := (hinv.exact slug.val t).mpr ⟨p, hp, congrArg Subtype.val hslug⟩
      rw [hindex] at hsome
      cases hsome
  | some owner =>
      obtain ⟨p, hp, hslug⟩ := (hinv.exact slug.val owner).mp hindex
      by_cases howner : owner = tenantId
      · refine .inr ⟨if_neg (not_not.mpr howner), ?_⟩
        intro t q hq hslug'
        have hsame : p.slug = q.slug := (Subtype.ext hslug).trans hslug'.symm
        rw [← howner]
        exact hinv.exact.unique hq hp (congrArg Subtype.val hsame.symm)
      · exact .inl ⟨if_pos howner, owner, p, hp, Subtype.ext hslug, howner⟩

/-- `_ensure_slug_available_for_application` looks for a profile or a live application. -/
theorem IndexInvariant.ensureSlugAvailableForApplication_eq (hinv : IndexInvariant market)
    (slug : Slug) :
    (market.ensureSlugAvailableForApplication slug.val = .error slugTaken ∧
      (market.HasProfile slug ∨ ∃ id, market.LiveAt slug id)) ∨
    (market.ensureSlugAvailableForApplication slug.val = .ok () ∧
      ¬ (market.HasProfile slug ∨ ∃ id, market.LiveAt slug id)) := by
  unfold ensureSlugAvailableForApplication
  by_cases hpublished : market.profilesBySlug.contains slug.val = true
  · rw [if_pos hpublished]
    exact .inl ⟨rfl, .inl (hinv.published_iff.mp hpublished)⟩
  · rw [if_neg hpublished]
    cases hindex : market.applicationsBySlug.get? slug.val with
    | none =>
        refine .inr ⟨rfl, ?_⟩
        rintro (hprofile | ⟨id, hlive⟩)
        · exact hpublished (hinv.published_iff.mpr hprofile)
        · rcases hinv.guarded slug id hlive with ⟨id', hid'⟩ | hp
          · rw [hindex] at hid'
            cases hid'
          · exact hpublished hp
    | some id =>
        obtain ⟨a, ha, hslug, hlive⟩ := hinv.indexed slug.val id hindex
        simp only [ha, if_pos hlive]
        exact .inl ⟨rfl, .inr ⟨id, a, ha, Subtype.ext hslug, hlive⟩⟩

theorem step_publish_eq (ambient : MarketplaceAmbient) (profile : TenantMarketplaceProfile) :
    (step market ⟨ambient, .publish profile⟩).1 =
      match market.ensureSlugAvailableForProfile profile.slug.val profile.tenantId.val with
      | .error e => .raised e
      | .ok _ => .published profile := by
  show (answered market .published (publishProfile profile market)).1 = _
  unfold publishProfile
  cases market.ensureSlugAvailableForProfile profile.slug.val profile.tenantId.val with
  | error e => rfl
  | ok u => rfl

theorem step_submit_eq {ambient : MarketplaceAmbient} {submission : TenantMarketplaceSubmission}
    {applicant : TenantContext} {submittedAt : Option PyDatetime} {applicationId : Option String}
    (h : Submittable market ambient submission applicant submittedAt applicationId) :
    ∃ application,
      (step market ⟨ambient, .submit submission applicant submittedAt applicationId⟩).1 =
        match market.ensureSlugAvailableForApplication submission.slug.val with
        | .error e => .raised e
        | .ok _ => .submitted application := by
  obtain ⟨subject, hsubject⟩ := h.subject
  obtain ⟨time, htime⟩ := h.time
  obtain ⟨key, hkey, ⟨t, ht⟩, hnew⟩ := h.id
  refine ⟨⟨t, submission, subject, time, .submitted, []⟩, ?_⟩
  show (answered market .submitted (submitApplication ambient submission applicant submittedAt
    applicationId market)).1 = _
  unfold submitApplication
  simp only [hsubject, hkey, ht, htime, bind, Except.bind]
  cases market.ensureSlugAvailableForApplication submission.slug.val with
  | error e => rfl
  | ok u =>
      simp only [refuseIf, if_neg hnew]
      rfl

theorem IndexInvariant.slugIndexExact (hinv : IndexInvariant market) : SlugIndexExact market where
  index := hinv.exact
  unique := fun _ _ _ _ hp hp' hslug => hinv.exact.unique hp hp' (congrArg Subtype.val hslug)
  available := by
    intro slug
    rcases hinv.ensureSlugAvailableForApplication_eq slug with ⟨hcheck, htaken⟩ | ⟨hcheck, hfree⟩
    · rw [hcheck]
      exact ⟨fun _ => htaken, fun _ => rfl⟩
    · rw [hcheck]
      exact ⟨fun h => (by cases h), fun h => absurd h hfree⟩
  submits := by
    intro ambient submission applicant submittedAt applicationId h
    obtain ⟨application, hstep⟩ := step_submit_eq h
    rw [hstep]
    rcases hinv.ensureSlugAvailableForApplication_eq submission.slug with
      ⟨hcheck, htaken⟩ | ⟨hcheck, hfree⟩
    · rw [hcheck]
      exact ⟨fun _ => htaken, fun _ => rfl⟩
    · rw [hcheck]
      exact ⟨fun h => (by cases h), fun h => absurd h hfree⟩
  publishes := by
    intro ambient profile
    rw [step_publish_eq]
    rcases hinv.ensureSlugAvailableForProfile_eq profile.slug profile.tenantId.val with
      ⟨hcheck, htaken⟩ | ⟨hcheck, hfree⟩
    · rw [hcheck]
      exact ⟨fun _ => htaken, fun _ => rfl⟩
    · rw [hcheck]
      refine ⟨fun h => (by cases h), ?_⟩
      rintro ⟨t, p, hp, hslug, hne⟩
      exact absurd (hfree t p hp hslug) hne

end Invariant

/-! ## One call -/

section Steps

variable {market : InMemoryTenantMarketplace} {c : MarketplaceInput}

/-- INTERNAL: the applications that the two indexes guard, after one has been stored. -/
theorem IndexInvariant.guarded_set (hinv : IndexInvariant market)
    {market' : InMemoryTenantMarketplace} {a : TenantMarketplaceApplication}
    (happlications : market'.applications = market.applications.set a.applicationId.val a)
    (hpublished : ∀ slug, market.Published slug → market'.Published slug)
    (hindex : ∀ slug : Slug, (∃ id, market.applicationsBySlug.get? slug.val = some id) →
      (∃ id, market'.applicationsBySlug.get? slug.val = some id) ∨ market'.Published slug ∨
        ∀ id, id ≠ a.applicationId.val → ¬ market.LiveAt slug id)
    (hown : a.status ≠ .rejected →
      (∃ id, market'.applicationsBySlug.get? a.slug.val = some id) ∨ market'.Published a.slug)
    (slug : Slug) (id : String) (hlive : market'.LiveAt slug id) :
    (∃ id', market'.applicationsBySlug.get? slug.val = some id') ∨ market'.Published slug := by
  rcases liveAt_set happlications hlive with ⟨_, hslug, halive⟩ | ⟨hne, hold⟩
  · rw [← hslug]
    exact hown halive
  · rcases hinv.guarded slug id hold with hentry | hp
    · rcases hindex slug hentry with hkept | hp | hnone
      · exact .inl hkept
      · exact .inr hp
      · exact absurd hold (hnone id hne)
    · exact .inr (hpublished slug hp)

/-- INTERNAL: what the index names is live after an application has been stored. -/
theorem IndexInvariant.indexed_set (hinv : IndexInvariant market)
    {market' : InMemoryTenantMarketplace} {a : TenantMarketplaceApplication}
    (happlications : market'.applications = market.applications.set a.applicationId.val a)
    {slug id : String} (hget : market.applicationsBySlug.get? slug = some id)
    (hown : id = a.applicationId.val → a.slug.val = slug ∧ a.status ≠ .rejected) :
    ∃ b, market'.applications.get? id = some b ∧ b.slug.val = slug ∧ b.status ≠ .rejected := by
  rw [happlications, Dict.get?_set]
  by_cases hid : id = a.applicationId.val
  · rw [if_pos hid]
    exact ⟨a, rfl, hown hid⟩
  · rw [if_neg hid]
    exact hinv.indexed slug id hget

theorem IndexInvariant.storeProfile (hinv : IndexInvariant market)
    (profile : TenantMarketplaceProfile)
    (havailable : market.ensureSlugAvailableForProfile profile.slug.val profile.tenantId.val =
      .ok ())
    (hsame : ∀ old, market.profiles.get? profile.tenantId.val = some old →
      old.slug = profile.slug) :
    IsIndex (fun p : TenantMarketplaceProfile => p.slug.val)
      (market.storeProfile profile).profiles (market.storeProfile profile).profilesBySlug := by
  have hfree : ∀ t, market.profilesBySlug.get? profile.slug.val = some t →
      t = profile.tenantId.val := by
    intro t ht
    obtain ⟨p, hp, hslug⟩ := (hinv.exact _ t).mp ht
    rcases hinv.ensureSlugAvailableForProfile_eq profile.slug profile.tenantId.val with
      ⟨hrefused, _⟩ | ⟨_, howner⟩
    · rw [havailable] at hrefused
      cases hrefused
    · exact howner t p hp (Subtype.ext hslug)
  exact (hinv.exact.set_iff (a := profile) hfree).mpr fun old hold =>
    congrArg Subtype.val (hsame old hold)

theorem published_storeProfile (profile : TenantMarketplaceProfile) (slug : Slug)
    (h : market.Published slug) : (market.storeProfile profile).Published slug :=
  (Dict.contains_set _ _ _ _).mpr (.inr h)

/-- INTERNAL: **one call** keeps the two indexes. -/
theorem IndexInvariant.step (hinv : IndexInvariant market) (hkeeps : KeepsSlugIndex market c) :
    IndexInvariant (InMemoryTenantMarketplace.step market c).2 := by
  obtain ⟨hrename, hguards⟩ := hkeeps
  have hsound := hinv.sound.step c
  obtain ⟨answer, market', hstep, hspec⟩ := stepSpec market c
  rw [hstep] at hsound ⊢
  cases hspec with
  | raised e => exact hinv
  | published profile hcall havailable =>
      refine ⟨hsound, hinv.storeProfile profile havailable ?_, hinv.indexed, ?_⟩
      · intro old hold
        by_contra hne
        rcases hinv.ensureSlugAvailableForProfile_eq profile.slug profile.tenantId.val with
          ⟨hrefused, _⟩ | ⟨_, howner⟩
        · rw [havailable] at hrefused
          cases hrefused
        · exact hrename ⟨profile, old, hcall, hold, hne, howner⟩
      · intro slug id hlive
        rcases hinv.guarded slug id hlive with hentry | hp
        · exact .inl hentry
        · exact .inr (published_storeProfile profile slug hp)
  | submitted a hstatus hhistory havailable hnew =>
      refine ⟨hsound, hinv.exact, ?_, ?_⟩
      · intro slug id hget
        rw [Dict.get?_set] at hget
        split at hget
        · rename_i hslug
          cases hget
          refine ⟨a, Dict.get?_set_self _ _ _, hslug.symm, ?_⟩
          rw [hstatus]
          decide
        · refine hinv.indexed_set rfl hget ?_
          rintro rfl
          obtain ⟨b, hb, _⟩ := hinv.indexed slug _ hget
          exact absurd (Dict.contains_iff_exists.mpr ⟨b, hb⟩) hnew
      · refine hinv.guarded_set (a := a) ?_ ?_ ?_ ?_
        · rfl
        · exact fun _ hp => hp
        · intro slug hentry
          refine .inl ?_
          simp only [Dict.get?_set]
          split
          · exact ⟨_, rfl⟩
          · exact hentry
        · intro _
          exact .inl ⟨_, Dict.get?_set_self _ _ _⟩
  | approved a tenantId verdict hreaches hstatus havailable hnew manager =>
      have hget := hreaches.get? hinv.sound
      refine ⟨hsound, ?_, ?_, ?_⟩
      · apply hinv.storeProfile (profileOf a tenantId verdict.decidedAt) havailable
        intro old hold
        exact absurd (Dict.contains_iff_exists.mpr ⟨old, hold⟩) hnew
      · intro slug id hentry
        refine hinv.indexed_set
          (a := moderated a .approve verdict .provisioned) rfl hentry ?_
        rintro rfl
        obtain ⟨b, hb, hslug, _⟩ := hinv.indexed slug _ hentry
        have hb' : market.applications.get? a.applicationId.val = some b := hb
        rw [hget, Option.some.injEq] at hb'
        rw [← hb'] at hslug
        exact ⟨hslug, fun h => (by cases h)⟩
      · refine hinv.guarded_set (a := moderated a .approve verdict .provisioned) ?_ ?_ ?_ ?_
        · rfl
        · exact fun slug hp => published_storeProfile (profileOf a tenantId verdict.decidedAt) slug hp
        · exact fun _ hentry => .inl hentry
        · intro _
          exact .inr ((Dict.contains_set _ _ _ _).mpr (.inl rfl))
  | changesRequested a verdict hreaches =>
      have hget := hreaches.get? hinv.sound
      refine ⟨hsound, hinv.exact, ?_, ?_⟩
      · intro slug id hentry
        refine hinv.indexed_set
          (a := moderated a .requestChanges verdict .needsChanges) rfl hentry ?_
        rintro rfl
        obtain ⟨b, hb, hslug, _⟩ := hinv.indexed slug _ hentry
        have hb' : market.applications.get? a.applicationId.val = some b := hb
        rw [hget, Option.some.injEq] at hb'
        rw [← hb'] at hslug
        exact ⟨hslug, fun h => (by cases h)⟩
      · refine hinv.guarded_set (a := moderated a .requestChanges verdict .needsChanges) ?_ ?_ ?_ ?_
        · rfl
        · exact fun _ hp => hp
        · exact fun _ hentry => .inl hentry
        intro _
        by_cases hrejected : a.status = .rejected
        · have hguard : market.Published a.slug ∨ ∃ id, market.LiveAt a.slug id := by
            by_contra hneither
            rw [not_or] at hneither
            refine hguards .requestChanges a hreaches ⟨hrejected, ?_, ?_⟩
            · exact fun hprofile => hneither.1 (hinv.published_iff.mpr hprofile)
            · exact fun id hlive => hneither.2 ⟨id, hlive⟩
          rcases hguard with hp | ⟨id, hlive⟩
          · exact .inr hp
          · exact hinv.guarded a.slug id hlive
        · exact hinv.guarded a.slug a.applicationId.val ⟨a, hget, rfl, hrejected⟩
  | rejected a verdict hreaches =>
      have hget := hreaches.get? hinv.sound
      refine ⟨hsound, hinv.exact, ?_, ?_⟩
      · intro slug id hentry
        rw [Dict.get?_erase] at hentry
        split at hentry
        · cases hentry
        · rename_i hne
          refine hinv.indexed_set
            (a := moderated a .reject verdict .rejected) rfl hentry ?_
          rintro rfl
          obtain ⟨b, hb, hslug, _⟩ := hinv.indexed slug _ hentry
          have hb' : market.applications.get? a.applicationId.val = some b := hb
          rw [hget, Option.some.injEq] at hb'
          rw [← hb'] at hslug
          exact absurd hslug.symm hne
      · refine hinv.guarded_set (a := moderated a .reject verdict .rejected) ?_ ?_ ?_ ?_
        · rfl
        · exact fun _ hp => hp
        · intro slug hentry
          by_cases hslug : slug = a.slug
          · rw [hslug]
            by_cases hprofile : market.HasProfile a.slug
            · exact .inr (.inl (hinv.published_iff.mpr hprofile))
            · refine .inr (.inr fun id hne hlive => ?_)
              exact hguards .reject a hreaches ⟨hprofile, id, hne, hlive⟩
          · refine .inl ?_
            obtain ⟨id, hid⟩ := hentry
            refine ⟨id, ?_⟩
            rw [Dict.get?_erase, if_neg fun h => hslug (Subtype.ext h)]
            exact hid
        · exact fun h => absurd rfl h

/-! ## Calls that break an index -/

/-- INTERNAL: a slug that no index guards is given away, so no application may be live for it. -/
theorem not_slugIndexExact_of_unguarded (slug : Slug) (id : String)
    (hlive : market.LiveAt slug id) (hpublished : ¬ market.Published slug)
    (hindex : market.applicationsBySlug.get? slug.val = none) : ¬ SlugIndexExact market := by
  intro hexact
  have htaken := (hexact.available slug).mpr (.inr ⟨id, hlive⟩)
  rw [ensureSlugAvailableForApplication_of_not_indexed hpublished hindex] at htaken
  cases htaken

theorem IndexInvariant.not_slugIndexExact_of_renames (hinv : IndexInvariant market)
    (hrenames : Renames market c) :
    ¬ SlugIndexExact (InMemoryTenantMarketplace.step market c).2 := by
  obtain ⟨profile, old, hcall, hold, hne, howner⟩ := hrenames
  have havailable : market.ensureSlugAvailableForProfile profile.slug.val profile.tenantId.val =
      .ok () := by
    rcases hinv.ensureSlugAvailableForProfile_eq profile.slug profile.tenantId.val with
      ⟨_, t, p, hp, hslug, hother⟩ | ⟨hok, _⟩
    · exact absurd (howner t p hp hslug) hother
    · exact hok
  have hstep : (InMemoryTenantMarketplace.step market c).2 = market.storeProfile profile := by
    unfold InMemoryTenantMarketplace.step
    rw [hcall]
    unfold publishProfile
    simp only [havailable, bind, Except.bind]
    rfl
  have hfree : ∀ t, market.profilesBySlug.get? profile.slug.val = some t →
      t = profile.tenantId.val := by
    intro t ht
    obtain ⟨p, hp, hslug⟩ := (hinv.exact _ t).mp ht
    exact howner t p hp (Subtype.ext hslug)
  intro hexact
  rw [hstep] at hexact
  exact hne (Subtype.ext ((hinv.exact.set_iff hfree).mp hexact.index old hold))

theorem IndexInvariant.not_slugIndexExact_of_leavesUnguarded (hinv : IndexInvariant market)
    {decision : TenantMarketplaceDecision} {a : TenantMarketplaceApplication}
    (hreaches : Reaches market c decision a) (hleaves : LeavesUnguarded market decision a) :
    ¬ SlugIndexExact (InMemoryTenantMarketplace.step market c).2 := by
  obtain ⟨verdict, tenantId, hstep⟩ := step_of_reaches hreaches
  rw [hstep]
  cases decision with
  | approve => exact absurd hleaves not_false
  | requestChanges =>
      obtain ⟨_, hprofile, hnone⟩ := hleaves
      have hindex : market.applicationsBySlug.get? a.slug.val = none := by
        cases hentry : market.applicationsBySlug.get? a.slug.val with
        | none => rfl
        | some id =>
            obtain ⟨b, hb, hslug, hlive⟩ := hinv.indexed a.slug.val id hentry
            exact absurd ⟨b, hb, Subtype.ext hslug, hlive⟩ (hnone id)
      have hrevived : (market.storeModerationResult
          (moderated a .requestChanges verdict .needsChanges)).LiveAt a.slug
            a.applicationId.val :=
        ⟨_, Dict.get?_set_self _ _ _, rfl, fun h => (by cases h)⟩
      exact not_slugIndexExact_of_unguarded a.slug a.applicationId.val hrevived
        (fun hp => hprofile (hinv.published_iff.mp hp)) hindex
  | reject =>
      obtain ⟨hprofile, id, hne, b, hb, hslug, hlive⟩ := hleaves
      have hother : (market.storeModerationResult
          (moderated a .reject verdict .rejected)).LiveAt a.slug id :=
        ⟨b, (Dict.get?_set_of_ne _ hne _).trans hb, hslug, hlive⟩
      refine not_slugIndexExact_of_unguarded a.slug id hother
        (fun hp => hprofile (hinv.published_iff.mp hp)) ?_
      show (market.applicationsBySlug.erase a.slug.val).get? a.slug.val = none
      rw [Dict.get?_erase, if_pos rfl]

theorem IndexInvariant.keepsSlugIndex_of_slugIndexExact (hinv : IndexInvariant market)
    (hexact : SlugIndexExact (InMemoryTenantMarketplace.step market c).2) :
    KeepsSlugIndex market c :=
  ⟨fun hrenames => hinv.not_slugIndexExact_of_renames hrenames hexact,
    fun _ _ hreaches hleaves =>
      hinv.not_slugIndexExact_of_leavesUnguarded hreaches hleaves hexact⟩

end Steps

/-! ## Runs -/

theorem indexInvariant_after (resourceManager : Option InMemoryTenantResourceManager)
    {calls : List MarketplaceInput}
    (hkeeps : EachMeets step KeepsSlugIndex (empty resourceManager) calls) :
    IndexInvariant (after step (empty resourceManager) calls) :=
  after_induction step KeepsSlugIndex (fun _ _ hinv hkeeps => hinv.step hkeeps)
    (indexInvariant_empty resourceManager) hkeeps

/-- **The slug index** is exact in every state of a run if and only if no call of the run
renames a tenant or leaves a live application unguarded. -/
theorem slugIndexExact_iff (resourceManager : Option InMemoryTenantResourceManager)
    (calls : List MarketplaceInput) :
    (∀ earlier later, calls = earlier ++ later →
      SlugIndexExact (after step (empty resourceManager) earlier)) ↔
    EachMeets step KeepsSlugIndex (empty resourceManager) calls := by
  constructor
  · intro hexact
    -- The first call that does not meet the condition is made in a state with the invariant.
    induction calls using List.reverseRecOn with
    | nil => exact trivial
    | append_singleton calls c ih =>
        have hearlier := ih fun earlier later hsplit =>
          hexact earlier (later ++ [c]) (by rw [hsplit, List.append_assoc])
        have hlast := hexact (calls ++ [c]) [] (List.append_nil _).symm
        rw [after_concat] at hlast
        rw [eachMeets_append]
        exact ⟨hearlier,
          (indexInvariant_after resourceManager hearlier).keepsSlugIndex_of_slugIndexExact hlast,
          trivial⟩
  · intro hkeeps earlier later hsplit
    rw [hsplit, eachMeets_append] at hkeeps
    exact (indexInvariant_after resourceManager hkeeps.1).slugIndexExact

/-! ### A cooperative changes its slug -/

namespace MarketplaceSample

theorem tenantIdPattern_alpha : tenantIdPattern "coop-alpha" = true := by decide

def profile (slug : Slug) : TenantMarketplaceProfile where
  tenantId := ⟨"coop-alpha", tenantIdPattern_alpha⟩
  slug := slug
  name := submission.name
  region := submission.region
  cooperativeType := submission.cooperativeType
  description := submission.description
  memberCountRange := TenantMarketplace.memberCountRange submission.expectedMembers
  capabilities := submission.capabilities
  status := .published
  publishedAt := none
  resourcePlanName := none
  contactRef := none

def oldSlug : Slug := submission.slug

def newSlug : Slug := ⟨"coop-beta", by decide⟩

def rename : List MarketplaceInput :=
  [⟨ambient, .publish (profile oldSlug)⟩, ⟨ambient, .publish (profile newSlug)⟩]

end MarketplaceSample

/-- The old slug still leads to the tenant, whose profile has the new one. -/
theorem not_slugIndexExact_rename : ¬ ∀ (resourceManager : Option InMemoryTenantResourceManager)
    (calls : List MarketplaceInput), ∀ earlier later, calls = earlier ++ later →
      SlugIndexExact (after step (empty resourceManager) earlier) := by
  intro hall
  have hexact := hall none MarketplaceSample.rename MarketplaceSample.rename []
    (List.append_nil _).symm
  have hstale : (after step (empty none) MarketplaceSample.rename).profilesBySlug.get?
      "coop-alpha" = some "coop-alpha" := by decide
  have hslug : ((after step (empty none) MarketplaceSample.rename).profiles.get?
      "coop-alpha").map (fun p => p.slug.val) = some "coop-beta" := by decide
  obtain ⟨p, hp, hold⟩ := (hexact.index _ _).mp hstale
  rw [hp, Option.map_some, hold] at hslug
  revert hslug
  decide

end InMemoryTenantMarketplace

end MediaCenter.Shared
