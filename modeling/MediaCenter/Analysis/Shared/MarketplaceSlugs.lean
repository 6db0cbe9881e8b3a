import MediaCenter.Analysis.Shared.MarketplaceModeration

/-!
# One live application for each slug

The marketplace knows of a live application through the index from slugs to applications, or
not at all once its slug is published.  A decision on a rejected application can break this:
a request for changes revives it without an index entry, and a second rejection removes the
entry of another one.
-/

set_option autoImplicit false

namespace MediaCenter.Shared

open MediaCenter.Library

namespace InMemoryTenantMarketplace

/-- A stored application that has not been rejected. -/
def LiveAt (market : InMemoryTenantMarketplace) (slug : Slug) (id : String) : Prop :=
  ∃ a, market.applications.get? id = some a ∧ a.slug = slug ∧ a.status ≠ .rejected

/-- For every slug at most one application is live. -/
def UniqueLive (market : InMemoryTenantMarketplace) : Prop :=
  ∀ slug id id', market.LiveAt slug id → market.LiveAt slug id' → id = id'

def Published (market : InMemoryTenantMarketplace) (slug : Slug) : Prop :=
  market.profilesBySlug.contains slug.val = true

/-- The index names live applications of its slugs, and a live application is named by it or
has a published slug. -/
structure SlugInvariant (market : InMemoryTenantMarketplace) : Prop where
  sound : Sound market
  unique : UniqueLive market
  indexed : ∀ slug id, market.applicationsBySlug.get? slug = some id →
    ∃ a, market.applications.get? id = some a ∧ a.slug.val = slug ∧ a.status ≠ .rejected
  guarded : ∀ slug id, market.LiveAt slug id →
    market.applicationsBySlug.get? slug.val = some id ∨ market.Published slug

/-- A decision on a rejected application that leaves its slug open: the slug is not published
and the decision revives the application, or another application of the slug is live. -/
def OpensSlug (market : InMemoryTenantMarketplace) (decision : TenantMarketplaceDecision)
    (a : TenantMarketplaceApplication) : Prop :=
  match decision with
  | .approve => False
  | .requestChanges => ¬ market.Published a.slug ∨ ∃ id, market.LiveAt a.slug id
  | .reject => ¬ market.Published a.slug ∧ ∃ id, market.LiveAt a.slug id

/-- No admitted decision on a rejected application opens its slug. -/
def KeepsSlugs (market : InMemoryTenantMarketplace) (c : MarketplaceInput) : Prop :=
  ∀ decision a, Reaches market c decision a → a.status = .rejected → ¬ OpensSlug market decision a

theorem slugInvariant_empty (resourceManager : Option InMemoryTenantResourceManager) :
    SlugInvariant (empty resourceManager) := by
  refine ⟨sound_empty resourceManager, ?_, ?_, ?_⟩
  · rintro slug id id' ⟨a, hget, _⟩ _
    cases hget
  · intro slug id hget
    cases hget
  · rintro slug id ⟨a, hget, _⟩
    cases hget

section Steps

variable {market : InMemoryTenantMarketplace} {c : MarketplaceInput}

/-- INTERNAL: a slug that an application may take has no live application. -/
theorem not_liveAt_of_available (hinv : SlugInvariant market) {slug : Slug}
    (havailable : market.ensureSlugAvailableForApplication slug.val = .ok ()) (id : String) :
    ¬ market.LiveAt slug id := by
  rintro ⟨a, hget, hslug, hlive⟩
  unfold ensureSlugAvailableForApplication at havailable
  split at havailable
  · cases havailable
  · rename_i hpublished
    rcases hinv.guarded slug id ⟨a, hget, hslug, hlive⟩ with hindex | hpublished'
    · rw [hindex] at havailable
      simp only [hget, if_pos hlive] at havailable
      cases havailable
    · exact hpublished hpublished'

/-- INTERNAL: what is live after an application has been stored. -/
theorem liveAt_set {market' : InMemoryTenantMarketplace} {a : TenantMarketplaceApplication}
    (happlications : market'.applications = market.applications.set a.applicationId.val a)
    {slug : Slug} {id : String} (h : market'.LiveAt slug id) :
    (id = a.applicationId.val ∧ a.slug = slug ∧ a.status ≠ .rejected) ∨
      (id ≠ a.applicationId.val ∧ market.LiveAt slug id) := by
  obtain ⟨b, hget, hslug, hlive⟩ := h
  rw [happlications, Dict.get?_set] at hget
  split at hget
  · rename_i hid
    cases hget
    exact .inl ⟨hid, hslug, hlive⟩
  · rename_i hid
    exact .inr ⟨hid, b, hget, hslug, hlive⟩

theorem SlugInvariant.publish (hinv : SlugInvariant market) (profile : TenantMarketplaceProfile)
    (hsound : Sound (market.storeProfile profile)) :
    SlugInvariant (market.storeProfile profile) := by
  refine ⟨hsound, hinv.unique, hinv.indexed, ?_⟩
  intro slug id hlive
  rcases hinv.guarded slug id hlive with hindex | hpublished
  · exact .inl hindex
  · exact .inr ((Dict.contains_set _ _ _ _).mpr (.inr hpublished))

theorem SlugInvariant.submit (hinv : SlugInvariant market) {a : TenantMarketplaceApplication}
    (hstatus : a.status = .submitted)
    (havailable : market.ensureSlugAvailableForApplication a.slug.val = .ok ())
    (hnew : ¬ market.applications.contains a.applicationId.val = true)
    {market' : InMemoryTenantMarketplace} (hsound : Sound market')
    (happlications : market'.applications = market.applications.set a.applicationId.val a)
    (hindex : market'.applicationsBySlug =
      market.applicationsBySlug.set a.slug.val a.applicationId.val)
    (hprofiles : market'.profilesBySlug = market.profilesBySlug) : SlugInvariant market' := by
  have hnone := not_liveAt_of_available hinv havailable
  refine ⟨hsound, ?_, ?_, ?_⟩
  · intro slug id id' hlive hlive'
    rcases liveAt_set happlications hlive with ⟨hid, hslug, _⟩ | ⟨_, hold⟩
    · rcases liveAt_set happlications hlive' with ⟨hid', _⟩ | ⟨_, hold'⟩
      · rw [hid, hid']
      · rw [← hslug] at hold'
        exact absurd hold' (hnone id')
    · rcases liveAt_set happlications hlive' with ⟨_, hslug', _⟩ | ⟨_, hold'⟩
      · rw [← hslug'] at hold
        exact absurd hold (hnone id)
      · exact hinv.unique slug id id' hold hold'
  · intro slug id hget
    rw [hindex, Dict.get?_set] at hget
    split at hget
    · rename_i hslug
      cases hget
      refine ⟨a, ?_, hslug.symm, ?_⟩
      · rw [happlications, Dict.get?_set_self]
      · rw [hstatus]
        decide
    · obtain ⟨b, hb, hslug, hlive⟩ := hinv.indexed slug id hget
      refine ⟨b, ?_, hslug, hlive⟩
      have hid : id ≠ a.applicationId.val := by
        rintro rfl
        exact hnew (Dict.contains_iff_exists.mpr ⟨b, hb⟩)
      rw [happlications, Dict.get?_set_of_ne _ hid]
      exact hb
  · intro slug id hlive
    unfold Published
    rw [hindex, hprofiles, Dict.get?_set]
    rcases liveAt_set happlications hlive with ⟨hid, hslug, _⟩ | ⟨_, hold⟩
    · rw [if_pos (congrArg Subtype.val hslug.symm), hid]
      exact .inl rfl
    · have hne : slug.val ≠ a.slug.val := by
        intro heq
        rw [Subtype.ext heq] at hold
        exact hnone id hold
      rw [if_neg hne]
      exact hinv.guarded slug id hold

/-- INTERNAL: a decision that keeps an application live keeps the invariant, when the slug is
still guarded. -/
theorem SlugInvariant.keepLive (hinv : SlugInvariant market) {a b : TenantMarketplaceApplication}
    (hget : market.applications.get? a.applicationId.val = some a) (hsame : b.slug = a.slug)
    (hid : b.applicationId = a.applicationId) (hlive : b.status ≠ .rejected)
    {market' : InMemoryTenantMarketplace} (hsound : Sound market')
    (happlications : market'.applications = market.applications.set b.applicationId.val b)
    (hindex : market'.applicationsBySlug = market.applicationsBySlug)
    (hprofiles : ∀ slug, market.Published slug → market'.Published slug)
    (hguard : a.status ≠ .rejected ∨ (market'.Published a.slug ∧ ∀ id, ¬ market.LiveAt a.slug id)) :
    SlugInvariant market' := by
  have hlive_a : a.status ≠ .rejected → market.LiveAt a.slug a.applicationId.val := fun h =>
    ⟨a, hget, rfl, h⟩
  refine ⟨hsound, ?_, ?_, ?_⟩
  · intro slug id id' hl hl'
    rcases liveAt_set happlications hl with ⟨heq, hslug, _⟩ | ⟨hne, hold⟩
    · rcases liveAt_set happlications hl' with ⟨heq', _⟩ | ⟨hne', hold'⟩
      · rw [heq, heq']
      · rw [← hslug, hsame] at hold'
        rcases hguard with halive | ⟨_, hnone⟩
        · rw [hid] at hne'
          exact absurd (hinv.unique _ _ _ hold' (hlive_a halive)) hne'
        · exact absurd hold' (hnone id')
    · rcases liveAt_set happlications hl' with ⟨heq', hslug', _⟩ | ⟨hne', hold'⟩
      · rw [← hslug', hsame] at hold
        rcases hguard with halive | ⟨_, hnone⟩
        · rw [hid] at hne
          exact absurd (hinv.unique _ _ _ hold (hlive_a halive)) hne
        · exact absurd hold (hnone id)
      · exact hinv.unique slug id id' hold hold'
  · intro slug id hget'
    rw [hindex] at hget'
    obtain ⟨d, hd, hslug, hdlive⟩ := hinv.indexed slug id hget'
    rw [happlications, Dict.get?_set]
    by_cases heq : id = b.applicationId.val
    · rw [if_pos heq]
      rw [heq, hid, hget, Option.some.injEq] at hd
      refine ⟨b, rfl, ?_, hlive⟩
      rw [hsame, hd]
      exact hslug
    · rw [if_neg heq]
      exact ⟨d, hd, hslug, hdlive⟩
  · intro slug id hl
    rw [hindex]
    rcases liveAt_set happlications hl with ⟨heq, hslug, _⟩ | ⟨_, hold⟩
    · rw [← hslug, hsame, heq, hid]
      rcases hguard with halive | ⟨hpublished, _⟩
      · rcases hinv.guarded _ _ (hlive_a halive) with hindexed | hpublished
        · exact .inl hindexed
        · exact .inr (hprofiles _ hpublished)
      · exact .inr hpublished
    · rcases hinv.guarded slug id hold with hindexed | hpublished
      · exact .inl hindexed
      · exact .inr (hprofiles slug hpublished)

/-- INTERNAL: a rejection keeps the invariant, unless it takes the index entry of another live
application whose slug is not published. -/
theorem SlugInvariant.reject (hinv : SlugInvariant market) {a b : TenantMarketplaceApplication}
    (hget : market.applications.get? a.applicationId.val = some a)
    (hid : b.applicationId = a.applicationId) (hrejected : b.status = .rejected)
    {market' : InMemoryTenantMarketplace} (hsound : Sound market')
    (happlications : market'.applications = market.applications.set b.applicationId.val b)
    (hindex : market'.applicationsBySlug = market.applicationsBySlug.erase a.slug.val)
    (hprofiles : market'.profilesBySlug = market.profilesBySlug)
    (hguard : a.status ≠ .rejected ∨ market.Published a.slug ∨ ∀ id, ¬ market.LiveAt a.slug id) :
    SlugInvariant market' := by
  have hold : ∀ {slug id}, market'.LiveAt slug id →
      id ≠ a.applicationId.val ∧ market.LiveAt slug id := by
    intro slug id hl
    rcases liveAt_set happlications hl with ⟨_, _, hlive⟩ | ⟨hne, hold⟩
    · exact absurd hrejected hlive
    · rw [hid] at hne
      exact ⟨hne, hold⟩
  refine ⟨hsound, ?_, ?_, ?_⟩
  · intro slug id id' hl hl'
    exact hinv.unique slug id id' (hold hl).2 (hold hl').2
  · intro slug id hget'
    rw [hindex, Dict.get?_erase] at hget'
    split at hget'
    · cases hget'
    · rename_i hslug
      obtain ⟨d, hd, hdslug, hdlive⟩ := hinv.indexed slug id hget'
      refine ⟨d, ?_, hdslug, hdlive⟩
      have hne : id ≠ b.applicationId.val := by
        intro heq
        rw [heq, hid, hget, Option.some.injEq] at hd
        rw [← hd] at hdslug
        exact hslug hdslug.symm
      rw [happlications, Dict.get?_set_of_ne _ hne]
      exact hd
  · intro slug id hl
    obtain ⟨hne, hlive⟩ := hold hl
    unfold Published
    rw [hindex, hprofiles, Dict.get?_erase]
    by_cases hslug : slug.val = a.slug.val
    · rw [if_pos hslug]
      rw [Subtype.ext hslug] at hlive ⊢
      rcases hguard with halive | hpublished | hnone
      · exact absurd (hinv.unique _ _ _ hlive ⟨a, hget, rfl, halive⟩) hne
      · exact .inr hpublished
      · exact absurd hlive (hnone id)
    · rw [if_neg hslug]
      exact hinv.guarded slug id hlive

/-- INTERNAL: one call that keeps the slugs keeps the invariant. -/
theorem SlugInvariant.step (hinv : SlugInvariant market) (hkeeps : KeepsSlugs market c) :
    SlugInvariant (InMemoryTenantMarketplace.step market c).2 := by
  have hsound := hinv.sound.step c
  obtain ⟨answer, market', hstep, hspec⟩ := stepSpec market c
  rw [hstep] at hsound ⊢
  cases hspec with
  | raised e => exact hinv
  | published profile hcall havailable => exact hinv.publish profile hsound
  | submitted a hstatus hhistory havailable hnew =>
      exact hinv.submit hstatus havailable hnew hsound rfl rfl rfl
  | approved a tenantId verdict hreaches hstatus havailable hnew manager =>
      refine hinv.keepLive (b := moderated a .approve verdict .provisioned)
        (hreaches.get? hinv.sound) rfl rfl (fun hne => by cases hne) hsound rfl rfl ?_ (.inl ?_)
      · intro slug hpublished
        exact (Dict.contains_set _ _ _ _).mpr (.inr hpublished)
      · rw [hstatus]
        decide
  | changesRequested a verdict hreaches =>
      refine hinv.keepLive (b := moderated a .requestChanges verdict .needsChanges)
        (hreaches.get? hinv.sound) rfl rfl (fun hne => by cases hne) hsound rfl rfl
        (fun _ hpublished => hpublished) ?_
      by_cases hrejected : a.status = .rejected
      · have hclosed := hkeeps _ a hreaches hrejected
        rw [OpensSlug, not_or, not_not] at hclosed
        exact .inr ⟨hclosed.1, fun id hlive => hclosed.2 ⟨id, hlive⟩⟩
      · exact .inl hrejected
  | rejected a verdict hreaches =>
      refine hinv.reject (b := moderated a .reject verdict .rejected)
        (hreaches.get? hinv.sound) rfl rfl hsound rfl rfl rfl ?_
      by_cases hrejected : a.status = .rejected
      · have hclosed := hkeeps _ a hreaches hrejected
        rw [OpensSlug, not_and] at hclosed
        by_cases hpublished : market.Published a.slug
        · exact .inr (.inl hpublished)
        · exact .inr (.inr fun id hlive => hclosed hpublished ⟨id, hlive⟩)
      · exact .inl hrejected

end Steps

/-! ## What an opened slug leads to -/

section Opened

variable {market : InMemoryTenantMarketplace} {c : MarketplaceInput}
  {a : TenantMarketplaceApplication}

theorem ensureSlugAvailableForApplication_of_not_indexed {slug : Slug}
    (hpublished : ¬ market.Published slug)
    (hindex : market.applicationsBySlug.get? slug.val = none) :
    market.ensureSlugAvailableForApplication slug.val = .ok () := by
  unfold ensureSlugAvailableForApplication
  unfold Published at hpublished
  rw [if_neg hpublished, hindex]

end Opened

/-- In every state of a run whose decisions open no slug, each slug has at most one live
application. -/
theorem uniqueLive_of_keepsSlugs (resourceManager : Option InMemoryTenantResourceManager)
    (calls : List MarketplaceInput)
    (hkeeps : EachMeets step KeepsSlugs (empty resourceManager) calls) :
    ∀ earlier later, calls = earlier ++ later →
      UniqueLive (after step (empty resourceManager) earlier) := by
  intro earlier later hcalls
  rw [hcalls, eachMeets_append] at hkeeps
  exact (after_induction step KeepsSlugs (fun _ _ hinv hkeeps => hinv.step hkeeps)
    (slugInvariant_empty resourceManager) hkeeps.1).unique

/-- A slug is taken again after the rejection of the first application. -/
theorem uniqueLive_resubmitted : UniqueLive (after step (empty none)
    [MarketplaceSample.submit "app-1", MarketplaceSample.moderate "app-1" .reject,
      MarketplaceSample.submit "app-2"]) := by
  refine uniqueLive_of_keepsSlugs none _ ?_ _ [] (List.append_nil _).symm
  have hsubmit : ∀ market id, KeepsSlugs market (MarketplaceSample.submit id) := by
    rintro market id decision a ⟨_, _, _, _, _, hcall, _⟩
    cases hcall
  refine ⟨hsubmit _ _, ?_, hsubmit _ _, trivial⟩
  rintro decision a ⟨_, _, _, _, _, hcall, _, _, key, hkey, hget⟩ hrejected
  cases hcall
  have hstrip : Text.strip "app-1" = "app-1" := by decide
  have hstatus : ((after step (empty none) [MarketplaceSample.submit "app-1"]).applications.get?
      "app-1").map TenantMarketplaceApplication.status = some .submitted := by decide
  rw [TenantMarketplace.validatedToken_eq_ok hkey, hstrip] at hget
  have hget' : (after step (empty none) [MarketplaceSample.submit "app-1"]).applications.get?
      "app-1" = some a := hget
  rw [hget', Option.map_some, Option.some.injEq, hrejected] at hstatus
  cases hstatus

/-- The council asks for changes of a rejected application, whose slug has been taken since. -/
theorem not_uniqueLive : ¬ ∀ (resourceManager : Option InMemoryTenantResourceManager)
    (calls : List MarketplaceInput), ∀ earlier later, calls = earlier ++ later →
      UniqueLive (after step (empty resourceManager) earlier) := by
  intro hall
  have hlive : ∀ id status, ((after step (empty none)
      [MarketplaceSample.submit "app-1", MarketplaceSample.moderate "app-1" .reject,
        MarketplaceSample.submit "app-2",
        MarketplaceSample.moderate "app-1" .requestChanges]).applications.get? id).map
          (fun a => (a.slug, a.status)) = some (MarketplaceSample.submission.slug, status) →
      status ≠ .rejected →
      LiveAt (after step (empty none)
        [MarketplaceSample.submit "app-1", MarketplaceSample.moderate "app-1" .reject,
          MarketplaceSample.submit "app-2", MarketplaceSample.moderate "app-1" .requestChanges])
        MarketplaceSample.submission.slug id := by
    intro id status hget hne
    rw [Option.map_eq_some_iff] at hget
    obtain ⟨a, ha, hpair⟩ := hget
    rw [Prod.mk.injEq] at hpair
    exact ⟨a, ha, hpair.1, hpair.2 ▸ hne⟩
  have hfirst := hlive "app-1" .needsChanges (by decide) (by decide)
  have hsecond := hlive "app-2" .submitted (by decide) (by decide)
  have heq := hall none _ _ [] (List.append_nil _).symm _ _ _ hfirst hsecond
  exact absurd heq (by decide)

end InMemoryTenantMarketplace

end MediaCenter.Shared
