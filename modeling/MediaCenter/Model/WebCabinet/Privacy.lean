import MediaCenter.Library.Fallible
import MediaCenter.Model.Shared.AuditLogger
import MediaCenter.Model.Shared.Gateway

/-!
# Requests of data subjects (`web_cabinet/api.py`)

A request of a member is carried out at once, erasing what the cabinet keeps about the member or
withdrawing consents, and is then written to the journal under an id that the caller may choose.
Of the records of the cabinet only what these functions read and write is kept.
-/

set_option autoImplicit false

namespace MediaCenter.WebCabinet

open MediaCenter.Library MediaCenter.Shared

/-- `PRIVACY_SELF_SERVICE_POLICY`. -/
def privacySelfServicePolicy : AccessPolicy :=
  ⟨["audience", "member_assoc", "member_full", "council", "presidium", "board"],
    "privacy.self_service", "privacy_compliance"⟩

/-- `PRIVACY_GOVERNANCE_POLICY`. -/
def privacyGovernancePolicy : AccessPolicy :=
  ⟨["council", "presidium", "board"], "privacy.member.manage", "privacy_compliance"⟩

inductive RequestType : Type where
  | access
  | rectification
  | erasure
  | processingRestriction
  deriving DecidableEq, Repr

def RequestType.value : RequestType → String
  | .access => "access"
  | .rectification => "rectification"
  | .erasure => "erasure"
  | .processingRestriction => "processing_restriction"

inductive RequestStatus : Type where
  | registered
  | completed
  deriving DecidableEq, Repr

def RequestStatus.value : RequestStatus → String
  | .registered => "registered"
  | .completed => "completed"

/-! ## Records -/

structure CabinetContributionRecord where
  tenantId : String
  memberId : String
  period : String
  deriving DecidableEq

structure CabinetContentRecord where
  tenantId : String
  ownerId : String
  contentId : String
  deriving DecidableEq

structure OnboardingProfileRecord where
  tenantId : String
  memberId : String
  deriving DecidableEq

structure OnboardingStepRecord where
  tenantId : String
  memberId : String
  stepId : String
  deriving DecidableEq

structure OnboardingConsentRecord where
  tenantId : String
  memberId : String
  key : String
  required : Bool
  granted : Bool
  revokedAt : Option Instant
  deriving DecidableEq

structure DataSubjectRequestRecord where
  tenantId : String
  requestId : String
  memberId : String
  requestType : RequestType
  status : RequestStatus
  reason : String
  details : Option String
  createdAt : Instant
  completedAt : Option Instant
  deletedResources : List (String × ℕ)
  retainedResources : List String
  revokedConsents : List String
  auditHash : String
  correlationId : Option String
  deriving DecidableEq

/-- What the repository keeps besides the journal. -/
structure CabinetData where
  contributions : Dict (String × String × String) CabinetContributionRecord
  content : List CabinetContentRecord
  onboardingProfiles : Dict (String × String) OnboardingProfileRecord
  onboardingSteps : List OnboardingStepRecord
  onboardingConsents : List OnboardingConsentRecord

structure InMemoryWebCabinetRepository where
  data : CabinetData
  dataSubjectRequests : List DataSubjectRequestRecord

abbrev CabinetProgram (α : Type) : Type :=
  Fallible InMemoryWebCabinetRepository SharedException α

/-! ## Repository -/

/-- `_add_deleted_count`. -/
def addDeletedCount (target : List (String × ℕ)) (resource : String) (count : ℕ) :
    List (String × ℕ) :=
  if 0 < count then target ++ [(resource, count)] else target

namespace CabinetData

/-- `erase_member_privacy_projection`. -/
def eraseMemberPrivacyProjection (data : CabinetData) (context : TenantContext)
    (memberId : String) : List (String × ℕ) × CabinetData :=
  let content := data.content.filter fun item =>
    ¬ (item.tenantId = context.tenantId ∧ item.ownerId = memberId)
  let contributions := data.contributions.filter fun key _ =>
    ¬ (key.1 = context.tenantId ∧ key.2.1 = memberId)
  let profiles := data.onboardingProfiles.erase (context.tenantId, memberId)
  let steps := data.onboardingSteps.filter fun item =>
    ¬ (item.tenantId = context.tenantId ∧ item.memberId = memberId)
  let consents := data.onboardingConsents.filter fun item =>
    ¬ (item.tenantId = context.tenantId ∧ item.memberId = memberId)
  let deleted := addDeletedCount [] "cabinet_content"
    (data.content.length - content.length)
  let deleted := addDeletedCount deleted "cabinet_contributions"
    (data.contributions.entries.length - contributions.entries.length)
  let deleted := addDeletedCount deleted "onboarding_profile"
    (if data.onboardingProfiles.contains (context.tenantId, memberId) then 1 else 0)
  let deleted := addDeletedCount deleted "onboarding_steps"
    (data.onboardingSteps.length - steps.length)
  let deleted := addDeletedCount deleted "onboarding_consents"
    (data.onboardingConsents.length - consents.length)
  (deleted.insertionSort fun a b => a.1 ≤ b.1, ⟨contributions, content, profiles, steps, consents⟩)

/-- `withdraw_onboarding_consents`. -/
def withdrawOnboardingConsents (data : CabinetData) (context : TenantContext) (memberId : String)
    (consentKeys : List String) (revokedAt : Instant) : List String × CabinetData :=
  let requestedKeys :=
    if consentKeys.isEmpty then
      (data.onboardingConsents.filter fun record =>
        record.tenantId = context.tenantId ∧ record.memberId = memberId ∧
          record.granted = true ∧ record.required = false).map OnboardingConsentRecord.key
    else consentKeys
  let shouldWithdraw := fun record : OnboardingConsentRecord =>
    decide (record.tenantId = context.tenantId ∧ record.memberId = memberId ∧
      record.key ∈ requestedKeys ∧ record.granted = true ∧ record.required = false)
  ((data.onboardingConsents.filter shouldWithdraw).map OnboardingConsentRecord.key,
    { data with
      onboardingConsents := data.onboardingConsents.map fun record =>
        if shouldWithdraw record = true then
          { record with granted := false, revokedAt := some revokedAt }
        else record })

end CabinetData

/-- `save_data_subject_request`: what has the id in the tenant is replaced. -/
def saveDataSubjectRequest (journal : List DataSubjectRequestRecord)
    (record : DataSubjectRequestRecord) : List DataSubjectRequestRecord :=
  (journal.filter fun item =>
    ¬ (item.tenantId = record.tenantId ∧ item.requestId = record.requestId)) ++ [record]

/-- `get_data_subject_request`, of the repository. -/
def findDataSubjectRequest (journal : List DataSubjectRequestRecord) (context : TenantContext)
    (requestId : String) : Except SharedException (Option DataSubjectRequestRecord) := do
  let records ← listForTenant DataSubjectRequestRecord.tenantId journal context
  return records.find? fun record => record.requestId = requestId

/-- The later request comes first, as `(created_at, request_id)` with `reverse=True` has it. -/
def DataSubjectRequestRecord.NotBefore (a b : DataSubjectRequestRecord) : Prop :=
  b.createdAt < a.createdAt ∨ (b.createdAt = a.createdAt ∧ b.requestId ≤ a.requestId)

instance (a b : DataSubjectRequestRecord) : Decidable (a.NotBefore b) :=
  inferInstanceAs (Decidable (_ ∨ _))

/-- `list_data_subject_requests`. -/
def listDataSubjectRequests (journal : List DataSubjectRequestRecord) (context : TenantContext)
    (memberId : String) (limit : ℕ) : Except SharedException (List DataSubjectRequestRecord) := do
  let records ← listForTenant DataSubjectRequestRecord.tenantId journal context
  let filtered := records.filter fun record => record.memberId = memberId
  return (filtered.insertionSort DataSubjectRequestRecord.NotBefore).take limit

/-! ## Requests -/

structure DataSubjectRequestFields where
  requestId : Option String
  requestType : RequestType
  memberId : Option String
  reason : String
  details : Option String
  consentKeys : List String

def DataSubjectRequestFields.checks (f : DataSubjectRequestFields) : List (String × Bool) :=
  [("request_id", optionalField (hasLength 1 128) f.requestId),
    ("member_id", optionalField tokenPattern f.memberId),
    ("reason", hasLength 1 512 f.reason),
    ("details", optionalField (hasLength 1 2000) f.details)]

abbrev DataSubjectRequestCreate : Type := Validated DataSubjectRequestFields.checks

/-- The body of a request: white space around its texts is stripped before they are checked. -/
def dataSubjectRequestCreate (body : DataSubjectRequestFields) :
    Except SharedException DataSubjectRequestCreate :=
  Validated.make "DataSubjectRequestCreate" DataSubjectRequestFields.checks
    { requestId := body.requestId.map Text.trim
      requestType := body.requestType
      memberId := body.memberId.map Text.trim
      reason := Text.trim body.reason
      details := body.details.map Text.trim
      consentKeys := body.consentKeys.map Text.trim }

def DataSubjectRequestRecord.checks (r : DataSubjectRequestRecord) : List (String × Bool) :=
  [("tenant_id", tenantIdPattern r.tenantId),
    ("request_id", hasLength 1 128 r.requestId),
    ("member_id", tokenPattern r.memberId),
    ("reason", hasLength 1 512 r.reason),
    ("audit_hash", auditHashPattern r.auditHash)]

abbrev DataSubjectRequestResponse : Type := Validated DataSubjectRequestRecord.checks

/-- `_data_subject_request_response`. -/
def dataSubjectRequestResponse (record : DataSubjectRequestRecord) :
    Except SharedException DataSubjectRequestResponse :=
  Validated.make "DataSubjectRequestResponse" DataSubjectRequestRecord.checks
    { record with
      tenantId := Text.trim record.tenantId
      requestId := Text.trim record.requestId
      memberId := Text.trim record.memberId
      reason := Text.trim record.reason
      details := record.details.map Text.trim
      retainedResources := record.retainedResources.map Text.trim
      revokedConsents := record.revokedConsents.map Text.trim
      auditHash := Text.trim record.auditHash
      correlationId := record.correlationId.map Text.trim }

/-- `_target_privacy_member_id`. -/
def targetPrivacyMemberId (context : TenantContext) (memberId : Option String) :
    Except SharedException String :=
  match memberId with
  | some memberId => .ok memberId
  | none =>
      match context.subject with
      | some subject =>
          if Text.strip subject = "" then
            .error (.sharedError 400 "actor_required"
              "Privacy self-service требует subject в tenant context" context.correlationId)
          else .ok subject
      | none =>
          .error (.sharedError 400 "actor_required"
            "Privacy self-service требует subject в tenant context" context.correlationId)

/-- `_ensure_privacy_read_allowed`. -/
def ensurePrivacyReadAllowed (context : TenantContext) (memberId : String) :
    Except SharedException Unit := do
  let _ ← requireAccess privacySelfServicePolicy context
  if context.subject = some memberId then return ()
  else
    let _ ← requireAccess privacyGovernancePolicy context

section Endpoints

variable (py : Stdlib)

/-- `_privacy_hash_ref`. -/
def privacyHashRef (tenantId value : String) : String := py.sha256Hex (tenantId ++ ":" ++ value)

/-- `audit_hash` of a payload without points. -/
def auditHash (eventType tenantId : String) (metadata : JSONObject) (timestamp : Instant) :
    Except SharedException String :=
  if tenantIdPattern tenantId = true then
    .ok (hashJsonPayload py
      (auditHashPayload py (Text.trim eventType) tenantId none metadata timestamp))
  else .error (.valueError "tenant_id имеет недопустимый формат")

/-- `_data_subject_request_audit_hash`. -/
def dataSubjectRequestAuditHash (tenantId requestId memberId : String) (requestType : RequestType)
    (status : RequestStatus) (reason : String) (deletedResources : List (String × ℕ))
    (revokedConsents : List String) (timestamp : Instant) : Except SharedException String :=
  auditHash py "privacy.data_subject_request.completed" tenantId
    [("request_id", .str requestId),
      ("request_type", .str requestType.value),
      ("status", .str status.value),
      ("member_ref_hash", .str (privacyHashRef py tenantId memberId)),
      ("reason_hash", .str (privacyHashRef py tenantId reason)),
      ("deleted_resources", .dict (deletedResources.map fun d => (d.1, .int d.2))),
      ("revoked_consents", .list (revokedConsents.map .str))] timestamp

/-- The id that the caller has chosen, or a fresh one. -/
def requestIdOf (env : Ambient) (payload : DataSubjectRequestFields) : String :=
  orDefault payload.requestId ("dsr-" ++ (env.uuid 0).hex)

/-- What a request does to what the cabinet keeps, before it is journaled. -/
def carryOut (env : Ambient) (payload : DataSubjectRequestFields) (context : TenantContext)
    (memberId : String) (data : CabinetData) : List (String × ℕ) × List String × CabinetData :=
  match payload.requestType with
  | .erasure =>
      let (deleted, data) := data.eraseMemberPrivacyProjection context memberId
      (deleted, [], data)
  | .processingRestriction =>
      let (revoked, data) :=
        data.withdrawOnboardingConsents context memberId payload.consentKeys env.now
      ([], revoked, data)
  | .access => ([], [], data)
  | .rectification => ([], [], data)

/-- `_complete_data_subject_request`: what it changes stays changed if the hash is refused. -/
def completeDataSubjectRequest (env : Ambient) (payload : DataSubjectRequestFields)
    (context : TenantContext) (memberId : String) : CabinetProgram DataSubjectRequestRecord := do
  let carried ← Fallible.inspect fun s =>
    .ok (carryOut env payload context memberId s.data)
  Fallible.change fun s => { s with data := carried.2.2 }
  let status : RequestStatus :=
    if payload.requestType = .rectification then .registered else .completed
  let completedAt := if status = .completed then some env.now else none
  let hash ← Fallible.ofExcept (dataSubjectRequestAuditHash py context.tenantId
    (requestIdOf env payload) memberId payload.requestType status payload.reason carried.1
    carried.2.1 (completedAt.getD env.now))
  return {
    tenantId := context.tenantId
    requestId := requestIdOf env payload
    memberId := memberId
    requestType := payload.requestType
    status := status
    reason := payload.reason
    details := payload.details
    createdAt := env.now
    completedAt := completedAt
    deletedResources := carried.1
    retainedResources := ["audit_log_hashes", "legal_retention_records"]
    revokedConsents := carried.2.1
    auditHash := hash
    correlationId := context.correlationId }

/-- A call of `POST /privacy/data-subject-requests`. -/
structure DataSubjectRequestCall where
  env : Ambient
  body : DataSubjectRequestFields
  context : TenantContext

/-- `create_data_subject_request`. -/
def createDataSubjectRequest (call : DataSubjectRequestCall) :
    CabinetProgram DataSubjectRequestResponse := do
  let payload ← Fallible.ofExcept (dataSubjectRequestCreate call.body)
  let memberId ← Fallible.ofExcept (targetPrivacyMemberId call.context payload.fields.memberId)
  Fallible.ofExcept (ensurePrivacyReadAllowed call.context memberId)
  let record ← completeDataSubjectRequest py call.env payload.fields call.context memberId
  Fallible.change fun s =>
    { s with dataSubjectRequests := saveDataSubjectRequest s.dataSubjectRequests record }
  Fallible.ofExcept (dataSubjectRequestResponse record)

/-- `get_data_subject_request`, of the API. -/
def getDataSubjectRequest (s : InMemoryWebCabinetRepository) (context : TenantContext)
    (requestId : String) : Except SharedException DataSubjectRequestResponse := do
  let _ ← requireAccess privacySelfServicePolicy context
  match ← findDataSubjectRequest s.dataSubjectRequests context requestId with
  | none =>
      throw (.sharedError 404 "data_subject_request_not_found" "Запрос субъекта ПДн не найден"
        context.correlationId)
  | some record => do
      ensurePrivacyReadAllowed context record.memberId
      dataSubjectRequestResponse record

/-- One call, with its answer. -/
def InMemoryWebCabinetRepository.step (s : InMemoryWebCabinetRepository)
    (call : DataSubjectRequestCall) :
    Except SharedException DataSubjectRequestResponse × InMemoryWebCabinetRepository :=
  Fallible.exec (createDataSubjectRequest py call) s

end Endpoints

end MediaCenter.WebCabinet
