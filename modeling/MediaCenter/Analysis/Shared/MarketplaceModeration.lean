import MediaCenter.Library.Unwinding
import MediaCenter.Model.Shared.Reference
import MediaCenter.Model.Shared.TenantMarketplace

/-!
# Moderation in the tenant marketplace

A decision to request changes or to reject is taken on an application of any status; only an
approval looks at the status.  So a decision is final exactly in the runs in which no such
decision reaches an application that is provisioned or rejected.
-/

set_option autoImplicit false

namespace MediaCenter.Shared

open MediaCenter.Library

/-! ## Texts keep their form -/

namespace TenantMarketplace

theorem visible_of_tenantIdPattern {s : String} (h : tenantIdPattern s = true) :
    ∀ c ∈ s.toList, Text.Visible c :=
  visible_of_tokenPattern (tokenPattern_of_tenantIdPattern h)

theorem tenantIdPattern_of_catalogTokenPattern {s : String} (h : catalogTokenPattern s = true) :
    tenantIdPattern s = true := by
  unfold catalogTokenPattern at h
  rw [Bool.and_eq_true] at h
  exact h.2

theorem strip_catalogToken (t : CatalogToken) : Text.strip t.val = t.val :=
  Text.strip_of_forall_visible
    (visible_of_tenantIdPattern (tenantIdPattern_of_catalogTokenPattern t.property))

theorem validatedToken_eq_ok {value label : String} {t : CatalogToken}
    (h : validatedToken value label = .ok t) : t.val = Text.strip value := by
  unfold validatedToken at h
  simp only at h
  split at h
  · cases h
    rfl
  · cases h

theorem visible_of_slugPattern {s : String} (h : slugPattern s = true) :
    ∀ c ∈ s.toList, Text.Visible c := by
  unfold slugPattern at h
  simp only [Bool.and_eq_true, List.all_eq_true] at h
  intro c hc
  have hclass := h.1.1.2 c hc
  simp only [isSlugEdge, Bool.or_eq_true, beq_iff_eq] at hclass
  rcases hclass with (hlower | hdigit) | rfl
  · apply Text.visible_of_isAsciiAlnum
    simp [Text.isAsciiAlnum, hlower]
  · apply Text.visible_of_isAsciiAlnum
    simp [Text.isAsciiAlnum, hdigit]
  · exact ⟨by decide, by decide⟩

/-- INTERNAL: an id that the marketplace makes has no white space around it. -/
theorem strip_generatedApplicationId (slug : Slug) (uuid : Uuid4) :
    Text.strip (InMemoryTenantMarketplace.generatedApplicationId slug uuid) =
      InMemoryTenantMarketplace.generatedApplicationId slug uuid := by
  apply Text.strip_of_forall_visible
  intro c hc
  unfold InMemoryTenantMarketplace.generatedApplicationId at hc
  simp only [String.toList_append, List.mem_append, String.toList_ofList] at hc
  rcases hc with ((happ | hslug) | hdash) | hhex
  · have hvisible : ∀ c ∈ "app-".toList, 33 ≤ c.toNat ∧ c.toNat ≤ 126 := by decide
    exact hvisible c happ
  · exact visible_of_slugPattern slug.property c hslug
  · have hvisible : ∀ c ∈ "-".toList, 33 ≤ c.toNat ∧ c.toNat ≤ 126 := by decide
    exact hvisible c hdash
  · have hmem := List.mem_of_mem_take hhex
    rw [List.mem_filter, decide_eq_true_eq] at hmem
    have hchars := uuid.chars_text
    rw [List.all_eq_true] at hchars
    have hclass := hchars c hmem.1
    rw [Bool.or_eq_true, beq_iff_eq] at hclass
    exact visible_of_isHexChar (hclass.resolve_right hmem.2)

end TenantMarketplace

/-! ## Calls -/

inductive MarketplaceCall : Type where
  | publish (profile : TenantMarketplaceProfile)
  | submit (submission : TenantMarketplaceSubmission) (applicant : TenantContext)
      (submittedAt : Option PyDatetime) (applicationId : Option String)
  | moderate (applicationId : String) (decision : TenantMarketplaceDecision)
      (reviewer : TenantContext) (decidedAt : Option PyDatetime) (comment : String)
      (tenantId : Option String)

structure MarketplaceInput where
  ambient : MarketplaceAmbient
  call : MarketplaceCall

inductive MarketplaceAnswer : Type where
  | published (profile : TenantMarketplaceProfile)
  | submitted (application : TenantMarketplaceApplication)
  | moderated (result : TenantMarketplaceModerationResult)
  | raised (e : SharedException)

namespace InMemoryTenantMarketplace

/-- What a call leaves: an exception is raised before anything is written. -/
def answered {α : Type} (market : InMemoryTenantMarketplace) (answer : α → MarketplaceAnswer) :
    Except SharedException (α × InMemoryTenantMarketplace) →
      MarketplaceAnswer × InMemoryTenantMarketplace
  | .ok (a, market') => (answer a, market')
  | .error e => (.raised e, market)

def step (market : InMemoryTenantMarketplace) (c : MarketplaceInput) :
    MarketplaceAnswer × InMemoryTenantMarketplace :=
  match c.call with
  | .publish profile => answered market .published (publishProfile profile market)
  | .submit submission applicant submittedAt applicationId => answered market .submitted
      (submitApplication c.ambient submission applicant submittedAt applicationId market)
  | .moderate applicationId decision reviewer decidedAt comment tenantId =>
      answered market .moderated
        (moderateApplication c.ambient applicationId decision reviewer decidedAt comment tenantId
          market)

/-- The call is a moderation that is admitted, and it finds the application. -/
def Reaches (market : InMemoryTenantMarketplace) (c : MarketplaceInput)
    (decision : TenantMarketplaceDecision) (application : TenantMarketplaceApplication) : Prop :=
  ∃ applicationId reviewer decidedAt comment tenantId,
    c.call = .moderate applicationId decision reviewer decidedAt comment tenantId ∧
    (∃ subject, moderatorSubject reviewer = .ok subject) ∧
    (∃ time, normalizeDatetime (decidedAt.getD c.ambient.now) = .ok time) ∧
    ∃ key, TenantMarketplace.validatedApplicationId applicationId = .ok key ∧
      market.applications.get? key.val = some application

/-- Everything a call can do. -/
inductive StepSpec (market : InMemoryTenantMarketplace) (c : MarketplaceInput) :
    MarketplaceAnswer → InMemoryTenantMarketplace → Prop where
  | raised (e : SharedException) : StepSpec market c (.raised e) market
  | published (profile : TenantMarketplaceProfile) (hcall : c.call = .publish profile)
      (havailable : market.ensureSlugAvailableForProfile profile.slug.val profile.tenantId.val =
        .ok ()) :
      StepSpec market c (.published profile) (market.storeProfile profile)
  | submitted (application : TenantMarketplaceApplication)
      (hstatus : application.status = .submitted) (hhistory : application.moderationHistory = [])
      (havailable : market.ensureSlugAvailableForApplication application.slug.val = .ok ())
      (hnew : ¬ market.applications.contains application.applicationId.val = true) :
      StepSpec market c (.submitted application)
        { market with
          applications := market.applications.set application.applicationId.val application
          applicationsBySlug :=
            market.applicationsBySlug.set application.slug.val application.applicationId.val }
  | approved (application : TenantMarketplaceApplication) (tenantId : CatalogTenantId)
      (verdict : Verdict) (hreaches : Reaches market c .approve application)
      (hstatus : application.status = .submitted)
      (havailable : market.ensureSlugAvailableForProfile application.slug.val tenantId.val = .ok ())
      (hnew : ¬ market.profiles.contains tenantId.val = true)
      (manager : Option InMemoryTenantResourceManager) :
      StepSpec market c
        (.moderated (.provisioned ⟨tenantId, moderated application .approve verdict .provisioned,
          profileOf application tenantId verdict.decidedAt,
          application.submission.requestedPlan⟩))
        { (market.storeModerationResult
            (moderated application .approve verdict .provisioned)).storeProfile
              (profileOf application tenantId verdict.decidedAt) with
          resourceManager := manager }
  | changesRequested (application : TenantMarketplaceApplication) (verdict : Verdict)
      (hreaches : Reaches market c .requestChanges application) :
      StepSpec market c
        (.moderated (.application (moderated application .requestChanges verdict .needsChanges)))
        (market.storeModerationResult (moderated application .requestChanges verdict .needsChanges))
  | rejected (application : TenantMarketplaceApplication) (verdict : Verdict)
      (hreaches : Reaches market c .reject application) :
      StepSpec market c
        (.moderated (.application (moderated application .reject verdict .rejected)))
        { market.storeModerationResult (moderated application .reject verdict .rejected) with
          applicationsBySlug := market.applicationsBySlug.erase application.slug.val }

section Spec

variable (market : InMemoryTenantMarketplace) (ambient : MarketplaceAmbient)

theorem stepSpec_publish (profile : TenantMarketplaceProfile) :
    StepSpec market ⟨ambient, .publish profile⟩ (step market ⟨ambient, .publish profile⟩).1
      (step market ⟨ambient, .publish profile⟩).2 := by
  show StepSpec market _ (answered market .published (publishProfile profile market)).1
    (answered market .published (publishProfile profile market)).2
  cases hresult : publishProfile profile market with
  | error e => exact StepSpec.raised e
  | ok r =>
      unfold publishProfile at hresult
      rw [bind_eq_ok_iff] at hresult
      obtain ⟨u, havailable, hpure⟩ := hresult
      cases hpure
      exact StepSpec.published profile rfl havailable

/-- INTERNAL: the id an application is stored under is the one it carries. -/
theorem validatedId_val {slug : Slug} {uuid : Uuid4} {applicationId : Option String}
    {key : String} {validatedId : CatalogToken}
    (hkey : normalizedApplicationId slug uuid applicationId = .ok key)
    (hvalidated : TenantMarketplace.validatedApplicationId key = .ok validatedId) :
    validatedId.val = key := by
  rw [TenantMarketplace.validatedToken_eq_ok hvalidated]
  cases applicationId with
  | none =>
      cases hkey
      exact TenantMarketplace.strip_generatedApplicationId slug uuid
  | some id =>
      unfold normalizedApplicationId at hkey
      rw [bind_eq_ok_iff] at hkey
      obtain ⟨t, _, hpure⟩ := hkey
      cases hpure
      exact TenantMarketplace.strip_catalogToken t

theorem stepSpec_submit (submission : TenantMarketplaceSubmission) (applicant : TenantContext)
    (submittedAt : Option PyDatetime) (applicationId : Option String) :
    StepSpec market ⟨ambient, .submit submission applicant submittedAt applicationId⟩
      (step market ⟨ambient, .submit submission applicant submittedAt applicationId⟩).1
      (step market ⟨ambient, .submit submission applicant submittedAt applicationId⟩).2 := by
  show StepSpec market _
    (answered market .submitted (submitApplication ambient submission applicant submittedAt
      applicationId market)).1
    (answered market .submitted (submitApplication ambient submission applicant submittedAt
      applicationId market)).2
  cases hresult : submitApplication ambient submission applicant submittedAt applicationId market with
  | error e => exact StepSpec.raised e
  | ok r =>
      unfold submitApplication at hresult
      simp only [bind_eq_ok_iff, refuseIf_eq_ok_iff] at hresult
      obtain ⟨subject, _, key, hkey, validatedId, hvalidated, time, _, _, havailable, _, hnew,
        hpure⟩ := hresult
      have hval : validatedId.val = key := validatedId_val hkey hvalidated
      cases hpure
      rw [← hval] at hnew ⊢
      exact StepSpec.submitted ⟨validatedId, submission, subject, time, .submitted, []⟩ rfl rfl
        havailable hnew

theorem configureTenant_eq_ok {market market' : InMemoryTenantMarketplace} {now : ℤ}
    {tenantId : String} {plan : TenantResourcePlan}
    (h : market.configureTenant now tenantId plan = .ok market') :
    ∃ manager, market' = { market with resourceManager := manager } := by
  unfold configureTenant at h
  cases hmanager : market.resourceManager with
  | none =>
      rw [hmanager] at h
      cases h
      exact ⟨none, by rw [← hmanager]⟩
  | some manager =>
      rw [hmanager] at h
      simp only [bind_eq_ok_iff, Prod.exists] at h
      obtain ⟨plans, states, _, hpure⟩ := h
      cases hpure
      exact ⟨some ⟨plans, states⟩, rfl⟩

theorem status_of_readyForModeration {application : TenantMarketplaceApplication}
    (h : application.readyForModeration = true) : application.status = .submitted := by
  unfold TenantMarketplaceApplication.readyForModeration at h
  rw [Bool.and_eq_true, decide_eq_true_eq] at h
  exact h.1

theorem stepSpec_moderate (applicationId : String) (decision : TenantMarketplaceDecision)
    (reviewer : TenantContext) (decidedAt : Option PyDatetime) (comment : String)
    (tenantId : Option String) :
    StepSpec market
      ⟨ambient, .moderate applicationId decision reviewer decidedAt comment tenantId⟩
      (step market
        ⟨ambient, .moderate applicationId decision reviewer decidedAt comment tenantId⟩).1
      (step market
        ⟨ambient, .moderate applicationId decision reviewer decidedAt comment tenantId⟩).2 := by
  show StepSpec market _
    (answered market .moderated (moderateApplication ambient applicationId decision reviewer
      decidedAt comment tenantId market)).1
    (answered market .moderated (moderateApplication ambient applicationId decision reviewer
      decidedAt comment tenantId market)).2
  cases hresult : moderateApplication ambient applicationId decision reviewer decidedAt comment
      tenantId market with
  | error e => exact StepSpec.raised e
  | ok r =>
      unfold moderateApplication at hresult
      simp only [bind_eq_ok_iff] at hresult
      obtain ⟨subject, hsubject, key, hkey, time, htime, application, hfound, hresult⟩ := hresult
      have hget : market.applications.get? key.val = some application := by
        unfold applicationOrRaise at hfound
        cases hget : market.applications.get? key.val with
        | none =>
            rw [hget] at hfound
            cases hfound
        | some a =>
            rw [hget] at hfound
            cases hfound
            rfl
      have hreaches : Reaches market
          ⟨ambient, .moderate applicationId decision reviewer decidedAt comment tenantId⟩ decision
          application :=
        ⟨applicationId, reviewer, decidedAt, comment, tenantId, rfl, ⟨subject, hsubject⟩,
          ⟨time, htime⟩, key, hkey, hget⟩
      cases decision with
      | approve =>
          simp only [applyDecision, bind_eq_ok_iff, Prod.exists] at hresult
          obtain ⟨result, market', happrove, hpure⟩ := hresult
          cases hpure
          cases tenantId with
          | none => cases happrove
          | some name =>
              simp only [approveApplication, bind_eq_ok_iff, refuseIf_eq_ok_iff] at happrove
              obtain ⟨_, hready, tenantId, _, _, havailable, _, hnew, configured, hconfigured,
                hpure⟩ := happrove
              cases hpure
              obtain ⟨manager, rfl⟩ := configureTenant_eq_ok hconfigured
              rw [Bool.not_eq_false] at hready
              exact StepSpec.approved application tenantId ⟨subject, time, Text.strip comment⟩
                hreaches (status_of_readyForModeration hready) havailable hnew manager
      | requestChanges =>
          cases hresult
          exact StepSpec.changesRequested application ⟨subject, time, Text.strip comment⟩ hreaches
      | reject =>
          cases hresult
          exact StepSpec.rejected application ⟨subject, time, Text.strip comment⟩ hreaches

theorem stepSpec (c : MarketplaceInput) :
    ∃ answer market', step market c = (answer, market') ∧ StepSpec market c answer market' := by
  refine ⟨(step market c).1, (step market c).2, rfl, ?_⟩
  obtain ⟨ambient, call⟩ := c
  cases call with
  | publish profile => exact stepSpec_publish market ambient profile
  | submit submission applicant submittedAt applicationId =>
      exact stepSpec_submit market ambient submission applicant submittedAt applicationId
  | moderate applicationId decision reviewer decidedAt comment tenantId =>
      exact stepSpec_moderate market ambient applicationId decision reviewer decidedAt comment
        tenantId

end Spec

/-! ## What every run keeps -/

/-- The status that a decision gives. -/
def statusAfter : TenantMarketplaceDecision → TenantMarketplaceApplicationStatus
  | .approve => .provisioned
  | .requestChanges => .needsChanges
  | .reject => .rejected

/-- The status of an application with a moderation history. -/
def statusOf (history : List TenantMarketplaceModerationRecord) :
    TenantMarketplaceApplicationStatus :=
  match history.getLast? with
  | some record => record.statusAfter
  | none => .submitted

/-- Stored values carry the keys they are stored under, and an application has the status that
its history gives. -/
structure Sound (market : InMemoryTenantMarketplace) : Prop where
  profileKey : ∀ t profile, market.profiles.get? t = some profile → profile.tenantId.val = t
  key : ∀ id a, market.applications.get? id = some a → a.applicationId.val = id
  status : ∀ id a, market.applications.get? id = some a → a.status = statusOf a.moderationHistory
  records : ∀ id a, market.applications.get? id = some a →
    ∀ record ∈ a.moderationHistory, record.statusAfter = statusAfter record.decision

theorem sound_empty (resourceManager : Option InMemoryTenantResourceManager) :
    Sound (empty resourceManager) := by
  constructor
  · intro t profile h
    cases h
  · intro id a h
    cases h
  · intro id a h
    cases h
  · intro id a h
    cases h

section Invariant

variable {market : InMemoryTenantMarketplace} {c : MarketplaceInput}

theorem Reaches.get? {decision : TenantMarketplaceDecision} {a : TenantMarketplaceApplication}
    (h : Reaches market c decision a) (hsound : Sound market) :
    market.applications.get? a.applicationId.val = some a := by
  obtain ⟨_, _, _, _, _, _, _, _, key, _, hget⟩ := h
  rw [hsound.key _ _ hget]
  exact hget

/-- INTERNAL: the records of a marketplace after an application has been stored. -/
theorem Sound.set (hsound : Sound market) {market' : InMemoryTenantMarketplace}
    {a : TenantMarketplaceApplication}
    (hprofiles : ∀ t profile, market'.profiles.get? t = some profile → profile.tenantId.val = t)
    (happlications : market'.applications = market.applications.set a.applicationId.val a)
    (hstatus : a.status = statusOf a.moderationHistory)
    (hrecords : ∀ record ∈ a.moderationHistory, record.statusAfter = statusAfter record.decision) :
    Sound market' := by
  have hcases : ∀ id b, market'.applications.get? id = some b →
      (id = a.applicationId.val ∧ b = a) ∨ market.applications.get? id = some b := by
    intro id b hb
    rw [happlications, Dict.get?_set] at hb
    split at hb
    · rename_i hid
      cases hb
      exact .inl ⟨hid, rfl⟩
    · exact .inr hb
  constructor
  · exact hprofiles
  · intro id b hb
    rcases hcases id b hb with ⟨hid, rfl⟩ | hold
    · exact hid.symm
    · exact hsound.key id b hold
  · intro id b hb
    rcases hcases id b hb with ⟨_, rfl⟩ | hold
    · exact hstatus
    · exact hsound.status id b hold
  · intro id b hb
    rcases hcases id b hb with ⟨_, rfl⟩ | hold
    · exact hrecords
    · exact hsound.records id b hold

theorem statusOf_moderated (a : TenantMarketplaceApplication)
    (decision : TenantMarketplaceDecision) (verdict : Verdict)
    (status : TenantMarketplaceApplicationStatus) :
    statusOf (moderated a decision verdict status).moderationHistory = status := by
  unfold statusOf moderated
  rw [List.getLast?_concat]

/-- INTERNAL: an application stays sound under a decision that gives its status. -/
theorem Sound.moderated (hsound : Sound market) {decision : TenantMarketplaceDecision}
    {a : TenantMarketplaceApplication} (hreaches : Reaches market c decision a)
    (verdict : Verdict) {market' : InMemoryTenantMarketplace}
    (hprofiles : ∀ t profile, market'.profiles.get? t = some profile → profile.tenantId.val = t)
    (happlications : market'.applications = market.applications.set a.applicationId.val
      (moderated a decision verdict (statusAfter decision))) : Sound market' := by
  refine hsound.set (a := InMemoryTenantMarketplace.moderated a decision verdict
    (statusAfter decision)) hprofiles happlications ?_ ?_
  · rw [statusOf_moderated]
    rfl
  · intro record hrecord
    unfold InMemoryTenantMarketplace.moderated at hrecord
    rw [List.mem_append, List.mem_singleton] at hrecord
    rcases hrecord with hold | rfl
    · exact hsound.records _ a (hreaches.get? hsound) record hold
    · rfl

theorem profileKey_storeProfile (hsound : Sound market) (profile : TenantMarketplaceProfile)
    (t : String) (q : TenantMarketplaceProfile)
    (hq : (market.profiles.set profile.tenantId.val profile).get? t = some q) :
    q.tenantId.val = t := by
  rw [Dict.get?_set] at hq
  split at hq
  · rename_i ht
    cases hq
    exact ht.symm
  · exact hsound.profileKey t q hq

/-- INTERNAL: one call keeps the marketplace sound. -/
theorem Sound.step (hsound : Sound market) (c : MarketplaceInput) :
    Sound (InMemoryTenantMarketplace.step market c).2 := by
  obtain ⟨answer, market', hstep, hspec⟩ := stepSpec market c
  rw [hstep]
  cases hspec with
  | raised e => exact hsound
  | published profile hcall havailable =>
      exact ⟨profileKey_storeProfile hsound profile, hsound.key, hsound.status, hsound.records⟩
  | submitted a hstatus hhistory havailable hnew =>
      refine hsound.set hsound.profileKey rfl ?_ ?_
      · rw [hstatus, hhistory]
        rfl
      · intro record hrecord
        rw [hhistory] at hrecord
        cases hrecord
  | approved a tenantId verdict hreaches hstatus havailable hnew manager =>
      exact hsound.moderated hreaches verdict
        (profileKey_storeProfile hsound (profileOf a tenantId verdict.decidedAt)) rfl
  | changesRequested a verdict hreaches =>
      exact hsound.moderated hreaches verdict hsound.profileKey rfl
  | rejected a verdict hreaches =>
      exact hsound.moderated hreaches verdict hsound.profileKey rfl

theorem sound_run (resourceManager : Option InMemoryTenantResourceManager)
    (calls : List MarketplaceInput) :
    Sound (after InMemoryTenantMarketplace.step (empty resourceManager) calls) :=
  after_induction InMemoryTenantMarketplace.step (fun _ _ => True)
    (fun _ c hsound _ => hsound.step c) (sound_empty resourceManager)
    (eachMeets_of_forall _ _ (fun _ _ => trivial) _ _)

end Invariant

/-! ## Final decisions -/

def Terminal (status : TenantMarketplaceApplicationStatus) : Prop :=
  status = .provisioned ∨ status = .rejected

/-- No admitted request for changes or rejection reaches an application whose moderation has
ended. -/
def RespectsFinality (market : InMemoryTenantMarketplace) (c : MarketplaceInput) : Prop :=
  ∀ decision a, Reaches market c decision a → decision ≠ .approve → ¬ Terminal a.status

section Finality

variable {market : InMemoryTenantMarketplace} {c : MarketplaceInput} {id : String}
  {a : TenantMarketplaceApplication}

theorem get?_set_of_reaches (hsound : Sound market) {decision : TenantMarketplaceDecision}
    {b : TenantMarketplaceApplication} (hreaches : Reaches market c decision b)
    (hget : market.applications.get? id = some a) (hne : a ≠ b)
    (updated : TenantMarketplaceApplication) :
    (market.applications.set b.applicationId.val updated).get? id = some a := by
  have hid : id ≠ b.applicationId.val := by
    intro hid
    rw [hid, hreaches.get? hsound, Option.some.injEq] at hget
    exact hne hget.symm
  rw [Dict.get?_set_of_ne _ hid]
  exact hget

/-- INTERNAL: a call that respects finality leaves an ended application as it is. -/
theorem get?_step_of_terminal (hsound : Sound market) (hrespects : RespectsFinality market c)
    (hget : market.applications.get? id = some a) (hterminal : Terminal a.status) :
    (step market c).2.applications.get? id = some a := by
  obtain ⟨answer, market', hstep, hspec⟩ := stepSpec market c
  rw [hstep]
  cases hspec with
  | raised e => exact hget
  | published profile hcall havailable => exact hget
  | submitted b hstatus hhistory havailable hnew =>
      have hid : id ≠ b.applicationId.val := by
        intro hid
        apply hnew
        rw [← hid]
        exact Dict.contains_iff_exists.mpr ⟨a, hget⟩
      exact (Dict.get?_set_of_ne _ hid _).trans hget
  | approved b tenantId verdict hreaches hstatus havailable hnew manager =>
      refine get?_set_of_reaches hsound hreaches hget ?_ _
      rintro rfl
      rcases hterminal with h | h
      · rw [h] at hstatus
        cases hstatus
      · rw [h] at hstatus
        cases hstatus
  | changesRequested b verdict hreaches =>
      refine get?_set_of_reaches hsound hreaches hget ?_ _
      rintro rfl
      exact hrespects _ _ hreaches (by decide) hterminal
  | rejected b verdict hreaches =>
      refine get?_set_of_reaches hsound hreaches hget ?_ _
      rintro rfl
      exact hrespects _ _ hreaches (by decide) hterminal

theorem get?_run_of_terminal (hsound : Sound market) {calls : List MarketplaceInput}
    (hrespects : EachMeets step RespectsFinality market calls)
    (hget : market.applications.get? id = some a) (hterminal : Terminal a.status) :
    (after step market calls).applications.get? id = some a := by
  induction calls generalizing market with
  | nil => exact hget
  | cons c calls ih =>
      exact ih (hsound.step c) hrespects.2
        (get?_step_of_terminal hsound hrespects.1 hget hterminal)

/-- INTERNAL: a moderation that reaches an application takes its decision on it. -/
theorem step_of_reaches {decision : TenantMarketplaceDecision}
    (hreaches : Reaches market c decision a) :
    ∃ verdict tenantId, step market c =
      answered market .moderated (applyDecision c.ambient a decision tenantId verdict market) := by
  obtain ⟨applicationId, reviewer, decidedAt, comment, tenantId, hcall, ⟨subject, hsubject⟩,
    ⟨time, htime⟩, key, hkey, hget⟩ := hreaches
  have hfound : market.applicationOrRaise key.val = .ok a := by
    unfold applicationOrRaise
    rw [hget]
  have hresult : moderateApplication c.ambient applicationId decision reviewer decidedAt comment
      tenantId market = applyDecision c.ambient a decision tenantId
        ⟨subject, time, Text.strip comment⟩ market := by
    unfold moderateApplication
    rw [hsubject, hkey, htime]
    simp only [bind, Except.bind, hfound]
  refine ⟨⟨subject, time, Text.strip comment⟩, tenantId, ?_⟩
  unfold step
  rw [hcall, ← hresult]

/-- INTERNAL: a request for changes or a rejection that reaches an application is recorded. -/
theorem get?_step_of_reaches {decision : TenantMarketplaceDecision}
    (hreaches : Reaches market c decision a) (hne : decision ≠ .approve) :
    ∃ updated, (step market c).2.applications.get? a.applicationId.val = some updated ∧
      updated.moderationHistory.length = a.moderationHistory.length + 1 := by
  obtain ⟨verdict, tenantId, hstep⟩ := step_of_reaches hreaches
  rw [hstep]
  cases decision with
  | approve => exact absurd rfl hne
  | requestChanges =>
      refine ⟨moderated a .requestChanges verdict .needsChanges, Dict.get?_set_self _ _ _, ?_⟩
      unfold moderated
      rw [List.length_append, List.length_singleton]
  | reject =>
      refine ⟨moderated a .reject verdict .rejected, Dict.get?_set_self _ _ _, ?_⟩
      unfold moderated
      rw [List.length_append, List.length_singleton]

end Finality

/-! ## Provisioned applications -/

/-- The application is what an approval of the run left, and the tenant it made is in the
catalog: with the profile of the approval, or with one that was published for it since. -/
def ProvisionedBy (resourceManager : Option InMemoryTenantResourceManager)
    (calls : List MarketplaceInput) (a : TenantMarketplaceApplication) : Prop :=
  ∃ earlier c later result, calls = earlier ++ c :: later ∧
    (step (after step (empty resourceManager) earlier) c).1 = .moderated (.provisioned result) ∧
    result.application = a ∧
    ∃ profile,
      (after step (empty resourceManager) calls).profiles.get? result.tenantId.val = some profile ∧
      profile.tenantId = result.tenantId ∧
      (profile = result.profile ∨ ∃ d ∈ later, d.call = .publish profile)

section Provisioned

variable {resourceManager : Option InMemoryTenantResourceManager} {calls : List MarketplaceInput}
  {c : MarketplaceInput} {a : TenantMarketplaceApplication}

/-- INTERNAL: a tenant of the catalog stays there, and only a publication changes its profile. -/
theorem get?_profiles_step {market : InMemoryTenantMarketplace} {t : String}
    {profile : TenantMarketplaceProfile} (hget : market.profiles.get? t = some profile) :
    ∃ q, (step market c).2.profiles.get? t = some q ∧ (q = profile ∨ c.call = .publish q) := by
  obtain ⟨answer, market', hstep, hspec⟩ := stepSpec market c
  rw [hstep]
  cases hspec with
  | raised e => exact ⟨profile, hget, .inl rfl⟩
  | published p hcall havailable =>
      show ∃ q, (market.profiles.set p.tenantId.val p).get? t = some q ∧ _
      rw [Dict.get?_set]
      by_cases ht : t = p.tenantId.val
      · rw [if_pos ht]
        exact ⟨p, rfl, .inr hcall⟩
      · rw [if_neg ht]
        exact ⟨profile, hget, .inl rfl⟩
  | submitted b hstatus hhistory havailable hnew => exact ⟨profile, hget, .inl rfl⟩
  | approved b tenantId verdict hreaches hstatus havailable hnew manager =>
      have ht : t ≠ tenantId.val := by
        rintro rfl
        exact hnew (Dict.contains_iff_exists.mpr ⟨profile, hget⟩)
      exact ⟨profile, (Dict.get?_set_of_ne _ ht _).trans hget, .inl rfl⟩
  | changesRequested b verdict hreaches => exact ⟨profile, hget, .inl rfl⟩
  | rejected b verdict hreaches => exact ⟨profile, hget, .inl rfl⟩

theorem ProvisionedBy.concat (h : ProvisionedBy resourceManager calls a) (c : MarketplaceInput) :
    ProvisionedBy resourceManager (calls ++ [c]) a := by
  obtain ⟨earlier, d, later, result, hcalls, hanswer, ha, profile, hget, htenant, hprofile⟩ := h
  obtain ⟨q, hq, hcases⟩ := get?_profiles_step (c := c) hget
  refine ⟨earlier, d, later ++ [c], result, ?_, hanswer, ha, q, ?_, ?_, ?_⟩
  · rw [hcalls, List.append_assoc, List.cons_append]
  · rw [after_concat]
    exact hq
  · have hsound := (sound_run resourceManager calls).step c
    exact Subtype.ext (hsound.profileKey _ q hq)
  · rcases hcases with rfl | hpublish
    · rcases hprofile with hsame | ⟨e, he, hcall⟩
      · exact .inl hsame
      · exact .inr ⟨e, List.mem_append_left _ he, hcall⟩
    · exact .inr ⟨c, List.mem_append_right _ List.mem_cons_self, hpublish⟩

/-- INTERNAL: induction on the run, from its end. -/
theorem provisionedBy_of_status (resourceManager : Option InMemoryTenantResourceManager)
    (calls : List MarketplaceInput) :
    ∀ id a, (after step (empty resourceManager) calls).applications.get? id = some a →
      a.status = .provisioned → ProvisionedBy resourceManager calls a := by
  induction calls using List.reverseRecOn with
  | nil =>
      intro id a hget
      cases hget
  | append_singleton calls c ih =>
      intro id a hget hstatus
      rw [after_concat] at hget
      obtain ⟨answer, market', hresult, hspec⟩ :=
        stepSpec (after step (empty resourceManager) calls) c
      rw [hresult] at hget
      have hold : (after step (empty resourceManager) calls).applications.get? id = some a →
          ProvisionedBy resourceManager (calls ++ [c]) a := fun hold =>
        (ih id a hold hstatus).concat c
      cases hspec with
      | raised e => exact hold hget
      | published p hcall havailable => exact hold hget
      | submitted b hb hhistory havailable hnew =>
          rw [Dict.get?_set] at hget
          split at hget
          · cases hget
            rw [hb] at hstatus
            cases hstatus
          · exact hold hget
      | approved b tenantId verdict hreaches hb havailable hnew manager =>
          have hget' : ((after step (empty resourceManager) calls).applications.set
              b.applicationId.val (moderated b .approve verdict .provisioned)).get? id = some a :=
            hget
          rw [Dict.get?_set] at hget'
          split at hget'
          · cases hget'
            refine ⟨calls, c, [], _, rfl, by rw [hresult], rfl,
              profileOf b tenantId verdict.decidedAt, ?_, rfl, .inl rfl⟩
            rw [after_concat, hresult]
            exact Dict.get?_set_self _ _ _
          · exact hold hget'
      | changesRequested b verdict hreaches =>
          have hget' : ((after step (empty resourceManager) calls).applications.set
              b.applicationId.val (moderated b .requestChanges verdict .needsChanges)).get? id =
                some a := hget
          rw [Dict.get?_set] at hget'
          split at hget'
          · cases hget'
            cases hstatus
          · exact hold hget'
      | rejected b verdict hreaches =>
          have hget' : ((after step (empty resourceManager) calls).applications.set
              b.applicationId.val (moderated b .reject verdict .rejected)).get? id = some a := hget
          rw [Dict.get?_set] at hget'
          split at hget'
          · cases hget'
            cases hstatus
          · exact hold hget'

end Provisioned

/-- What it means for the decisions of a run to be final. -/
structure ModerationFinal (resourceManager : Option InMemoryTenantResourceManager)
    (calls : List MarketplaceInput) : Prop where
  /-- An ended application keeps its status and its history. -/
  final : ∀ earlier later, calls = earlier ++ later → ∀ middle rest, later = middle ++ rest →
    ∀ id a, (after step (empty resourceManager) earlier).applications.get? id = some a →
      Terminal a.status →
        ∃ b, (after step (empty resourceManager) (earlier ++ middle)).applications.get? id =
            some b ∧
          b.status = a.status ∧ b.moderationHistory = a.moderationHistory
  /-- An application is provisioned when its history ends with an approval, and the tenant of
  that approval is in the catalog. -/
  provisioned_iff : ∀ id a,
    (after step (empty resourceManager) calls).applications.get? id = some a →
      (a.status = .provisioned ↔
        (∃ record, a.moderationHistory.getLast? = some record ∧ record.decision = .approve) ∧
          ProvisionedBy resourceManager calls a)

theorem status_eq_provisioned_iff {market : InMemoryTenantMarketplace} (hsound : Sound market)
    {id : String} {a : TenantMarketplaceApplication}
    (hget : market.applications.get? id = some a) :
    a.status = .provisioned ↔
      ∃ record, a.moderationHistory.getLast? = some record ∧ record.decision = .approve := by
  rw [hsound.status id a hget]
  unfold statusOf
  cases hlast : a.moderationHistory.getLast? with
  | none =>
      constructor
      · intro h
        cases h
      · rintro ⟨record, hrecord, _⟩
        cases hrecord
  | some record =>
      have hrecord := hsound.records id a hget record (List.mem_of_getLast? hlast)
      simp only [hrecord]
      constructor
      · intro h
        refine ⟨record, rfl, ?_⟩
        cases hdecision : record.decision with
        | approve => rfl
        | requestChanges =>
            rw [hdecision] at h
            cases h
        | reject =>
            rw [hdecision] at h
            cases h
      · rintro ⟨r, hr, hdecision⟩
        cases hr
        rw [hdecision]
        rfl

/-- Decisions are final in a run exactly when no request for changes or rejection reaches an
application whose moderation has ended. -/
theorem moderationFinal_iff (resourceManager : Option InMemoryTenantResourceManager)
    (calls : List MarketplaceInput) :
    ModerationFinal resourceManager calls ↔
      EachMeets step RespectsFinality (empty resourceManager) calls := by
  constructor
  · intro hfinal
    rw [eachMeets_iff_forall_split]
    intro earlier c later hcalls decision a hreaches hne hterminal
    have hsound := sound_run resourceManager earlier
    obtain ⟨updated, hupdated, hlength⟩ := get?_step_of_reaches hreaches hne
    obtain ⟨b, hb, _, hhistory⟩ := hfinal.final earlier (c :: later) hcalls [c] later rfl
      a.applicationId.val a (hreaches.get? hsound) hterminal
    rw [after_concat, hupdated, Option.some.injEq] at hb
    rw [hb, hhistory] at hlength
    omega
  · intro hrespects
    constructor
    · intro earlier later hcalls middle rest hlater id a hget hterminal
      rw [hcalls, hlater, eachMeets_append, eachMeets_append] at hrespects
      refine ⟨a, ?_, rfl, rfl⟩
      rw [after_append]
      exact get?_run_of_terminal (sound_run resourceManager earlier) hrespects.2.1 hget hterminal
    · intro id a hget
      have hiff := status_eq_provisioned_iff (sound_run resourceManager calls) hget
      constructor
      · intro hstatus
        exact ⟨hiff.mp hstatus, provisionedBy_of_status resourceManager calls id a hget hstatus⟩
      · rintro ⟨hrecord, _⟩
        exact hiff.mpr hrecord

/-! ### A rejected application comes back -/

namespace MarketplaceSample

def plan : TenantResourcePlan where
  name := "growth"
  requestLimit := 120
  windowSeconds := 60
  concurrentOperations := 4
  storageBytes := 4096
  queueDepth := 4
  name_ne := by decide
  strip_name := by decide
  windowSeconds_pos := Reference.minute_pos

def submission : TenantMarketplaceSubmission where
  slug := ⟨"coop-alpha", by decide⟩
  name := ⟨"Alpha", by decide⟩
  region := ⟨"RU-MOW", by decide⟩
  cooperativeType := ⟨"media", by decide⟩
  description := ⟨"A media cooperative", by decide⟩
  expectedMembers := 22
  expectedMembers_pos := by decide
  capabilities := ⟨[⟨"content", by decide⟩], by simp⟩
  contactRef := ⟨"vault://applications/coop-alpha", by decide⟩
  requestedPlan := plan
  checklist := Dict.ofList [("profile", true), ("contacts", true), ("data_policy", true),
    ("council_review", true)]

def founder : TenantContext := ⟨"platform", some "founder-alpha", ["audience"], none⟩

def council : TenantContext := ⟨"platform", some "council-1", ["council"], none⟩

def ambient : MarketplaceAmbient := ⟨⟨0, some 0⟩, 0, Reference.uuid⟩

def submit (applicationId : String) : MarketplaceInput :=
  ⟨ambient, .submit submission founder none (some applicationId)⟩

def moderate (applicationId : String) (decision : TenantMarketplaceDecision) : MarketplaceInput :=
  ⟨ambient, .moderate applicationId decision council none "" none⟩

end MarketplaceSample

/-- The council rejects an application, and then asks for changes of it. -/
theorem not_moderationFinal : ¬ ∀ (resourceManager : Option InMemoryTenantResourceManager)
    (calls : List MarketplaceInput), ModerationFinal resourceManager calls := by
  intro hall
  have hrejected : ((after step (empty none) [MarketplaceSample.submit "app-1",
      MarketplaceSample.moderate "app-1" .reject]).applications.get? "app-1").map
        TenantMarketplaceApplication.status = some .rejected := by decide
  have hrevived : ((after step (empty none) [MarketplaceSample.submit "app-1",
      MarketplaceSample.moderate "app-1" .reject,
      MarketplaceSample.moderate "app-1" .requestChanges]).applications.get? "app-1").map
        TenantMarketplaceApplication.status = some .needsChanges := by decide
  rw [Option.map_eq_some_iff] at hrejected
  obtain ⟨a, hget, hstatus⟩ := hrejected
  obtain ⟨b, hb, hsame, _⟩ := (hall none [MarketplaceSample.submit "app-1",
    MarketplaceSample.moderate "app-1" .reject,
    MarketplaceSample.moderate "app-1" .requestChanges]).final
      [MarketplaceSample.submit "app-1", MarketplaceSample.moderate "app-1" .reject]
      [MarketplaceSample.moderate "app-1" .requestChanges] rfl
      [MarketplaceSample.moderate "app-1" .requestChanges] [] rfl "app-1" a hget (.inr hstatus)
  have hb' : (after step (empty none) [MarketplaceSample.submit "app-1",
      MarketplaceSample.moderate "app-1" .reject,
      MarketplaceSample.moderate "app-1" .requestChanges]).applications.get? "app-1" = some b := hb
  rw [hb', Option.map_some, Option.some.injEq, hsame, hstatus] at hrevived
  cases hrevived

end InMemoryTenantMarketplace

end MediaCenter.Shared
