import MediaCenter.Model.Shared.TenantResources

/-!
# Tenant marketplace (`libs/shared/tenant_marketplace.py`)

The catalog of published tenants, and the applications of those who want to join it.  A text
that a validator of the module returns is of a type that says what the validator checked; to
validate it again changes nothing.
-/

set_option autoImplicit false

namespace MediaCenter.Shared

open MediaCenter.Library

/-! ## Validated texts -/

/-- `[a-z0-9]`. -/
def isSlugEdge (c : Char) : Bool := Text.isAsciiLower c || Text.isAsciiDigit c

/-- `^[a-z0-9][a-z0-9-]{1,62}[a-z0-9]$` (`_SLUG_PATTERN`). -/
def slugPattern (s : String) : Bool :=
  decide (3 ≤ s.toList.length) && decide (s.toList.length ≤ 64) &&
    s.toList.all (fun c => isSlugEdge c || c == '-') &&
    s.toList.head?.any isSlugEdge && s.toList.getLast?.any isSlugEdge

/-- `^[A-Za-z0-9][A-Za-z0-9._:-]{1,63}$` (`_TOKEN_PATTERN`). -/
def catalogTokenPattern (s : String) : Bool :=
  decide (2 ≤ s.toList.length) && tenantIdPattern s

abbrev Slug : Type := { s : String // slugPattern s = true }

abbrev CatalogToken : Type := { s : String // catalogTokenPattern s = true }

abbrev CatalogTenantId : Type := { s : String // tenantIdPattern s = true }

/-- What `_required_text` returns. -/
abbrev RequiredText : Type := { s : String // s ≠ "" ∧ Text.strip s = s }

/-- What `_validated_secret_ref` returns. -/
abbrev SecretRef : Type :=
  { s : String // (s.toList.take 8 == "vault://".toList) = true ∧ Text.strip s = s }

namespace TenantMarketplace

/-- `_validated_tenant_id`. -/
def validatedTenantId (tenantId : String) : Except SharedException CatalogTenantId :=
  let normalized := Text.strip tenantId
  if h : tenantIdPattern normalized = true then .ok ⟨normalized, h⟩
  else .error (.valueError "tenant_id имеет недопустимый формат")

/-- `_validated_token`. -/
def validatedToken (value label : String) : Except SharedException CatalogToken :=
  let normalized := Text.strip value
  if h : catalogTokenPattern normalized = true then .ok ⟨normalized, h⟩
  else .error (.valueError (label ++ " имеет недопустимый формат"))

/-- `_validated_application_id`. -/
def validatedApplicationId (applicationId : String) : Except SharedException CatalogToken :=
  validatedToken applicationId "application_id"

/-- `_required_text`. -/
def requiredText (value label : String) : Except SharedException RequiredText :=
  let normalized := Text.strip value
  if h : normalized = "" then
    .error (.valueError (label ++ " должен быть непустой строкой"))
  else .ok ⟨normalized, h, Text.strip_strip value⟩

/-- `TENANT_MARKETPLACE_REQUIRED_CHECKLIST`. -/
def requiredChecklist : List String := ["profile", "contacts", "data_policy", "council_review"]

/-- `_member_count_range`. -/
def memberCountRange (expectedMembers : ℤ) : RequiredText :=
  if expectedMembers ≤ 10 then ⟨"1-10", by decide⟩
  else if expectedMembers ≤ 25 then ⟨"15-25", by decide⟩
  else if expectedMembers ≤ 50 then ⟨"26-50", by decide⟩
  else if expectedMembers ≤ 100 then ⟨"51-100", by decide⟩
  else ⟨"100+", by decide⟩

end TenantMarketplace

/-! ## Records -/

inductive TenantMarketplaceProfileStatus : Type where
  | published
  | hidden
  | suspended
  deriving DecidableEq, Repr

inductive TenantMarketplaceApplicationStatus : Type where
  | submitted
  | needsChanges
  | rejected
  | provisioned
  deriving DecidableEq, Repr

inductive TenantMarketplaceDecision : Type where
  | approve
  | requestChanges
  | reject
  deriving DecidableEq, Repr

structure TenantMarketplaceProfile where
  tenantId : CatalogTenantId
  slug : Slug
  name : RequiredText
  region : CatalogToken
  cooperativeType : CatalogToken
  description : RequiredText
  memberCountRange : RequiredText
  capabilities : { l : List CatalogToken // l ≠ [] }
  status : TenantMarketplaceProfileStatus
  publishedAt : Option Instant
  resourcePlanName : Option RequiredText
  contactRef : Option SecretRef
  deriving DecidableEq

structure TenantMarketplaceSubmission where
  slug : Slug
  name : RequiredText
  region : CatalogToken
  cooperativeType : CatalogToken
  description : RequiredText
  expectedMembers : ℤ
  expectedMembers_pos : 0 < expectedMembers
  capabilities : { l : List CatalogToken // l ≠ [] }
  contactRef : SecretRef
  requestedPlan : TenantResourcePlan
  checklist : Dict String Bool

namespace TenantMarketplaceSubmission

/-- `ready_for_moderation`. -/
def readyForModeration (submission : TenantMarketplaceSubmission) : Bool :=
  TenantMarketplace.requiredChecklist.all fun step =>
    (submission.checklist.get? step).getD false

/-- `blockers`. -/
def blockers (submission : TenantMarketplaceSubmission) : List String :=
  TenantMarketplace.requiredChecklist.filter fun step =>
    !(submission.checklist.get? step).getD false

end TenantMarketplaceSubmission

structure TenantMarketplaceModerationRecord where
  reviewerSubject : RequiredText
  decision : TenantMarketplaceDecision
  decidedAt : Instant
  comment : String
  statusAfter : TenantMarketplaceApplicationStatus
  deriving DecidableEq

structure TenantMarketplaceApplication where
  applicationId : CatalogToken
  submission : TenantMarketplaceSubmission
  applicantSubject : RequiredText
  submittedAt : Instant
  status : TenantMarketplaceApplicationStatus
  moderationHistory : List TenantMarketplaceModerationRecord

namespace TenantMarketplaceApplication

def slug (application : TenantMarketplaceApplication) : Slug := application.submission.slug

/-- `ready_for_moderation`. -/
def readyForModeration (application : TenantMarketplaceApplication) : Bool :=
  decide (application.status = .submitted) && application.submission.readyForModeration

/-- `blockers`. -/
def blockers (application : TenantMarketplaceApplication) : List String :=
  if application.status ≠ .submitted then ["status"] else application.submission.blockers

end TenantMarketplaceApplication

structure TenantMarketplaceProvisioningResult where
  tenantId : CatalogTenantId
  application : TenantMarketplaceApplication
  profile : TenantMarketplaceProfile
  resourcePlan : TenantResourcePlan

/-- What `moderate_application` returns. -/
inductive TenantMarketplaceModerationResult : Type where
  | application (application : TenantMarketplaceApplication)
  | provisioned (result : TenantMarketplaceProvisioningResult)

/-! ## The marketplace -/

structure InMemoryTenantMarketplace where
  resourceManager : Option InMemoryTenantResourceManager
  profiles : Dict String TenantMarketplaceProfile
  profilesBySlug : Dict String String
  applications : Dict String TenantMarketplaceApplication
  applicationsBySlug : Dict String String

/-- What a call reads from outside: the two clocks, and a UUID for an id to be made. -/
structure MarketplaceAmbient where
  now : PyDatetime
  resourceNow : ℤ
  uuid : Uuid4

namespace InMemoryTenantMarketplace

def empty (resourceManager : Option InMemoryTenantResourceManager) :
    InMemoryTenantMarketplace :=
  ⟨resourceManager, .empty, .empty, .empty, .empty⟩

/-- `_ensure_slug_available_for_profile`. -/
def ensureSlugAvailableForProfile (market : InMemoryTenantMarketplace)
    (slug tenantId : String) : Except SharedException Unit :=
  match market.profilesBySlug.get? slug with
  | some tenantForSlug =>
      if tenantForSlug ≠ tenantId then .error (.valueError "slug уже занят") else .ok ()
  | none => .ok ()

/-- `_ensure_slug_available_for_application`. -/
def ensureSlugAvailableForApplication (market : InMemoryTenantMarketplace) (slug : String) :
    Except SharedException Unit :=
  if market.profilesBySlug.contains slug = true then .error (.valueError "slug уже занят")
  else match market.applicationsBySlug.get? slug with
    | none => .ok ()
    | some existingApplicationId =>
        match market.applications.get? existingApplicationId with
        | some existing =>
            if existing.status ≠ .rejected then .error (.valueError "slug уже занят") else .ok ()
        | none => .ok ()

/-- The two writes of a profile. -/
def storeProfile (market : InMemoryTenantMarketplace) (profile : TenantMarketplaceProfile) :
    InMemoryTenantMarketplace :=
  { market with
    profiles := market.profiles.set profile.tenantId.val profile
    profilesBySlug := market.profilesBySlug.set profile.slug.val profile.tenantId.val }

/-- `publish_profile`. -/
def publishProfile (profile : TenantMarketplaceProfile) (market : InMemoryTenantMarketplace) :
    Except SharedException (TenantMarketplaceProfile × InMemoryTenantMarketplace) := do
  market.ensureSlugAvailableForProfile profile.slug.val profile.tenantId.val
  return (profile, market.storeProfile profile)

/-- `f"app-{submission.slug}-{uuid4().hex[:8]}"`. -/
def generatedApplicationId (slug : Slug) (uuid : Uuid4) : String :=
  "app-" ++ slug.val ++ "-" ++
    String.ofList ((uuid.text.toList.filter fun c => c ≠ '-').take 8)

/-- The id an application is asked to have, or one that is made for it. -/
def normalizedApplicationId (slug : Slug) (uuid : Uuid4) :
    Option String → Except SharedException String
  | some applicationId => do
      let normalized ← TenantMarketplace.validatedApplicationId applicationId
      return normalized.val
  | none => .ok (generatedApplicationId slug uuid)

/-- `submit_application`. -/
def submitApplication (ambient : MarketplaceAmbient) (submission : TenantMarketplaceSubmission)
    (applicant : TenantContext) (submittedAt : Option PyDatetime)
    (applicationId : Option String) (market : InMemoryTenantMarketplace) :
    Except SharedException (TenantMarketplaceApplication × InMemoryTenantMarketplace) := do
  let applicantSubject ← TenantMarketplace.requiredText (applicant.subject.getD "")
    "applicant.subject"
  let key ← normalizedApplicationId submission.slug ambient.uuid applicationId
  let validatedId ← TenantMarketplace.validatedApplicationId key
  let submitted ← normalizeDatetime (submittedAt.getD ambient.now)
  let application : TenantMarketplaceApplication :=
    ⟨validatedId, submission, applicantSubject, submitted, .submitted, []⟩
  market.ensureSlugAvailableForApplication submission.slug.val
  refuseIf (market.applications.contains key = true)
    (.valueError "application_id уже существует")
  return (application, { market with
    applications := market.applications.set key application
    applicationsBySlug := market.applicationsBySlug.set submission.slug.val key })

/-- `_MODERATOR_ROLES`. -/
def moderatorRoles : List String := ["council", "presidium", "board"]

/-- `_moderator_subject`. -/
def moderatorSubject (context : TenantContext) : Except SharedException RequiredText :=
  if (context.roles.any fun role => moderatorRoles.contains role) = true then
    TenantMarketplace.requiredText (context.subject.getD "") "reviewer.subject"
  else .error (.valueError "модерация доступна только ролям council, presidium или board")

/-- `_application_or_raise`. -/
def applicationOrRaise (market : InMemoryTenantMarketplace) (applicationId : String) :
    Except SharedException TenantMarketplaceApplication :=
  match market.applications.get? applicationId with
  | some application => .ok application
  | none => .error (.valueError "заявка не найдена")

/-- A decision as it is recorded: the reviewer, the time and the comment. -/
structure Verdict where
  reviewerSubject : RequiredText
  decidedAt : Instant
  comment : String

/-- The application with a moderation record and the status it gives. -/
def moderated (application : TenantMarketplaceApplication) (decision : TenantMarketplaceDecision)
    (verdict : Verdict) (status : TenantMarketplaceApplicationStatus) :
    TenantMarketplaceApplication :=
  { application with
    status := status
    moderationHistory := application.moderationHistory ++
      [⟨verdict.reviewerSubject, decision, verdict.decidedAt, Text.strip verdict.comment,
        status⟩] }

/-- `_store_moderation_result`. -/
def storeModerationResult (market : InMemoryTenantMarketplace)
    (updated : TenantMarketplaceApplication) : InMemoryTenantMarketplace :=
  { market with
    applications := market.applications.set updated.applicationId.val updated }

/-- The profile that an approval makes. -/
def profileOf (application : TenantMarketplaceApplication) (tenantId : CatalogTenantId)
    (decidedAt : Instant) : TenantMarketplaceProfile where
  tenantId := tenantId
  slug := application.submission.slug
  name := application.submission.name
  region := application.submission.region
  cooperativeType := application.submission.cooperativeType
  description := application.submission.description
  memberCountRange := TenantMarketplace.memberCountRange application.submission.expectedMembers
  capabilities := application.submission.capabilities
  status := .published
  publishedAt := some decidedAt
  resourcePlanName := some ⟨application.submission.requestedPlan.name,
    application.submission.requestedPlan.name_ne, application.submission.requestedPlan.strip_name⟩
  contactRef := some application.submission.contactRef

/-- `configure_tenant` of the resource manager, when there is one. -/
def configureTenant (market : InMemoryTenantMarketplace) (now : ℤ) (tenantId : String)
    (plan : TenantResourcePlan) : Except SharedException InMemoryTenantMarketplace :=
  match market.resourceManager with
  | none => .ok market
  | some manager => do
      let (plans, states) ← InMemoryTenantResourceManager.configureTenant manager.plans now
        tenantId plan manager.states
      return { market with resourceManager := some ⟨plans, states⟩ }

/-- `_approve_application`. -/
def approveApplication (ambient : MarketplaceAmbient) (application : TenantMarketplaceApplication)
    (tenantId : Option String) (verdict : Verdict) (market : InMemoryTenantMarketplace) :
    Except SharedException (TenantMarketplaceProvisioningResult × InMemoryTenantMarketplace) :=
  match tenantId with
  | none => .error (.valueError "tenant_id обязателен для одобрения заявки")
  | some tenantId => do
      refuseIf (application.readyForModeration = false)
        (.valueError ("заявка не готова к модерации: " ++
          String.intercalate ", " application.blockers))
      let normalizedTenantId ← TenantMarketplace.validatedTenantId tenantId
      market.ensureSlugAvailableForProfile application.submission.slug.val normalizedTenantId.val
      refuseIf (market.profiles.contains normalizedTenantId.val = true)
        (.valueError "tenant_id уже существует")
      let profile := profileOf application normalizedTenantId verdict.decidedAt
      let updated := moderated application .approve verdict .provisioned
      let stored := (market.storeModerationResult updated).storeProfile profile
      let configured ← stored.configureTenant ambient.resourceNow normalizedTenantId.val
        application.submission.requestedPlan
      return (⟨normalizedTenantId, updated, profile, application.submission.requestedPlan⟩,
        configured)

/-- The three decisions of `moderate_application`; only an approval looks at the status. -/
def applyDecision (ambient : MarketplaceAmbient) (application : TenantMarketplaceApplication)
    (decision : TenantMarketplaceDecision) (tenantId : Option String) (verdict : Verdict)
    (market : InMemoryTenantMarketplace) :
    Except SharedException (TenantMarketplaceModerationResult × InMemoryTenantMarketplace) :=
  match decision with
  | .approve => do
      let (result, market') ← approveApplication ambient application tenantId verdict market
      return (.provisioned result, market')
  | .requestChanges =>
      let updated := moderated application .requestChanges verdict .needsChanges
      .ok (.application updated, market.storeModerationResult updated)
  | .reject =>
      let updated := moderated application .reject verdict .rejected
      let stored := market.storeModerationResult updated
      .ok (.application updated, { stored with
        applicationsBySlug := stored.applicationsBySlug.erase application.submission.slug.val })

/-- `moderate_application`. -/
def moderateApplication (ambient : MarketplaceAmbient) (applicationId : String)
    (decision : TenantMarketplaceDecision) (reviewer : TenantContext)
    (decidedAt : Option PyDatetime) (comment : String) (tenantId : Option String)
    (market : InMemoryTenantMarketplace) :
    Except SharedException (TenantMarketplaceModerationResult × InMemoryTenantMarketplace) := do
  let reviewerSubject ← moderatorSubject reviewer
  let normalizedApplicationId ← TenantMarketplace.validatedApplicationId applicationId
  let normalizedDecidedAt ← normalizeDatetime (decidedAt.getD ambient.now)
  let verdict : Verdict := ⟨reviewerSubject, normalizedDecidedAt, Text.strip comment⟩
  let application ← market.applicationOrRaise normalizedApplicationId.val
  applyDecision ambient application decision tenantId verdict market

end InMemoryTenantMarketplace

end MediaCenter.Shared
