import Mathlib.Data.Prod.Lex
import MediaCenter.Library.Binary64
import MediaCenter.Library.ExceptList
import MediaCenter.Library.WeightedChoice
import MediaCenter.Model.Shared.Json

/-!
# Referral links (`cglr/link_rotator.py`)

A piece of content carries three referral links: that of the administration, that of its author,
and one of a partner, whom the seed of the rotation chooses by contribution weight.
-/

set_option autoImplicit false

namespace MediaCenter.Cglr

open MediaCenter.Library MediaCenter.Shared

def referralUrlMaxLength : ℕ := 2048

def routeIdLength : ℕ := 32

def weightScale : ℚ := 1000

inductive ReferralLevel : Type where
  | l1
  | l2
  | l3
  deriving DecidableEq, Repr

namespace ReferralLevel

def value : ReferralLevel → String
  | .l1 => "L1"
  | .l2 => "L2"
  | .l3 => "L3"

/-- `REFERRAL_REWARD_RATES`. -/
def rewardRate : ReferralLevel → ℚ
  | .l1 => 20 / 100
  | .l2 => 10 / 100
  | .l3 => 5 / 100

end ReferralLevel

inductive LinkError : Type where
  | linkRotation (message : String)
  | shared (e : SharedException)
  deriving DecidableEq, Repr

/-! ## URLs and hashes -/

/-- The result of `urlsplit`. -/
structure UrlParts where
  scheme : String
  netloc : String
  path : String
  query : String
  fragment : String

/-- Functions of Python's standard library that only this service calls. -/
structure LinkLib where
  /-- `none` where it raises `ValueError`. -/
  urlsplit : String → Option UrlParts
  urlunsplit : UrlParts → String
  /-- `parse_qsl(query, keep_blank_values=True)`. -/
  parseQsl : String → List (String × String)
  urlencode : List (String × String) → String
  /-- `int.from_bytes(sha256(seed.encode()).digest()[:16], "big")`. -/
  seedNumber : String → ℕ
  /-- `format(x, "g")` of a finite `float`. -/
  formatG : ℚ → String

/-! ## Contracts -/

structure TargetFields where
  ownerId : String
  url : String
  contributionWeight : ℚ
  deriving DecidableEq

/-- `_validate_url`. -/
def validateUrl (lib : LinkLib) (value : String) : Bool :=
  match lib.urlsplit value with
  | some parts => (parts.scheme == "http" || parts.scheme == "https") && parts.netloc != ""
  | none => false

def TargetFields.checks (lib : LinkLib) (f : TargetFields) : List (String × Bool) :=
  [("owner_id", tokenPattern f.ownerId),
    ("url", hasLength 1 referralUrlMaxLength f.url && validateUrl lib f.url),
    ("contribution_weight", decide (0 ≤ f.contributionWeight))]

abbrev ReferralLinkTarget (lib : LinkLib) : Type := Validated (TargetFields.checks lib)

structure RequestFields (lib : LinkLib) where
  tenantId : String
  contentId : String
  adminLink : ReferralLinkTarget lib
  authorLink : ReferralLinkTarget lib
  l3Candidates : List (ReferralLinkTarget lib)
  rotationSeed : Option String
  l3MinContributionWeight : ℚ

def RequestFields.checks (lib : LinkLib) (f : RequestFields lib) : List (String × Bool) :=
  [("tenant_id", tenantIdPattern f.tenantId),
    ("content_id", tokenPattern f.contentId),
    ("rotation_seed", optionalField (hasLength 1 128) f.rotationSeed),
    ("l3_min_contribution_weight", decide (0 ≤ f.l3MinContributionWeight))]

abbrev LinkRouteRequest (lib : LinkLib) : Type := Validated (RequestFields.checks lib)

structure LinkFields where
  tenantId : String
  contentId : String
  routeId : String
  level : ReferralLevel
  ownerId : String
  url : String
  rewardShare : ℚ
  contributionWeight : ℚ
  rotationSeed : Option String

def LinkFields.checks (f : LinkFields) : List (String × Bool) :=
  [("tenant_id", tenantIdPattern f.tenantId),
    ("content_id", tokenPattern f.contentId),
    ("route_id", tokenPattern f.routeId),
    ("owner_id", tokenPattern f.ownerId),
    ("url", hasLength 1 referralUrlMaxLength f.url),
    ("reward_share", decide (0 ≤ f.rewardShare ∧ f.rewardShare ≤ 1)),
    ("contribution_weight", decide (0 ≤ f.contributionWeight))]

abbrev ReferralLink : Type := Validated LinkFields.checks

def referralLink (f : LinkFields) : Except SharedException ReferralLink :=
  Validated.make "ReferralLink" LinkFields.checks
    { f with
      tenantId := Text.trim f.tenantId
      contentId := Text.trim f.contentId
      routeId := Text.trim f.routeId
      ownerId := Text.trim f.ownerId
      url := Text.trim f.url
      rotationSeed := f.rotationSeed.map Text.trim }

structure ResultFields where
  tenantId : String
  contentId : String
  l3MinContributionWeight : ℚ
  links : List ReferralLink

def ResultFields.checks (f : ResultFields) : List (String × Bool) :=
  [("tenant_id", tenantIdPattern f.tenantId),
    ("content_id", tokenPattern f.contentId),
    ("l3_min_contribution_weight", decide (0 ≤ f.l3MinContributionWeight))]

abbrev LinkRouteResult : Type := Validated ResultFields.checks

def linkRouteResult (f : ResultFields) : Except SharedException LinkRouteResult :=
  Validated.make "LinkRouteResult" ResultFields.checks
    { f with
      tenantId := Text.trim f.tenantId
      contentId := Text.trim f.contentId }

section Rotation

variable {lib : LinkLib}

/-! ## Choosing a partner -/

/-- `_scale_weight`; a product too large for a `float` is infinite, and no number to round. -/
def scaleWeight (weight : ℚ) : Except LinkError ℕ :=
  match Binary64.nearest (weight * weightScale) with
  | none => .error (.shared (.overflowError "cannot convert float infinity to integer"))
  | some product =>
      if roundHalfEven product ≤ 0 then
        .error (.linkRotation "contribution_weight L3-кандидата должен быть больше 0")
      else .ok (roundHalfEven product).toNat

/-- `_seed_offset`. -/
def seedOffset (lib : LinkLib) (seed : String) (totalWeight : ℕ) : Except LinkError ℕ :=
  if totalWeight ≤ 0 then
    .error (.linkRotation "суммарный вес L3-кандидатов должен быть больше 0")
  else .ok (lib.seedNumber seed % totalWeight)

/-- `candidate.owner_id, candidate.url`. -/
def sortKey (candidate : ReferralLinkTarget lib) : String ×ₗ String :=
  toLex (candidate.fields.ownerId, candidate.fields.url)

/-- The candidates that weigh enough, in the order of their owners and URLs. -/
def eligibleCandidates (candidates : List (ReferralLinkTarget lib)) (minimum : ℚ) :
    List (ReferralLinkTarget lib) :=
  (candidates.filter fun c => minimum ≤ c.fields.contributionWeight).insertionSort
    fun a b => sortKey a ≤ sortKey b

/-- The cumulative loop of `select_l3_partner`, `none` where it falls through. -/
def cumulativeLoop (offset : ℕ) (eligible : List (ReferralLinkTarget lib))
    (scaledWeights : List ℕ) : Option (ReferralLinkTarget lib) :=
  WeightedChoice.choose offset 0 (eligible.zip scaledWeights)

/-- `select_l3_partner`. -/
def selectL3Partner (candidates : List (ReferralLinkTarget lib)) (seed : String)
    (minContributionWeight : ℚ) : Except LinkError (ReferralLinkTarget lib) :=
  let eligible := eligibleCandidates candidates minContributionWeight
  match eligible.getLast? with
  | none => .error (.linkRotation ("нет L3-кандидатов с contribution_weight >= " ++
      lib.formatG minContributionWeight))
  | some last => do
      let scaledWeights ← eligible.mapM fun c => scaleWeight c.fields.contributionWeight
      let offset ← seedOffset lib seed scaledWeights.sum
      return (cumulativeLoop offset eligible scaledWeights).getD last

/-! ## Building the links -/

/-- `_route_id`. -/
def routeId (py : Stdlib) (tenantId contentId : String) (level : ReferralLevel)
    (target : ReferralLinkTarget lib) : String :=
  let payload : List (String × String) :=
    [("content_id", contentId), ("level", level.value), ("owner_id", target.fields.ownerId),
      ("tenant_id", tenantId), ("url", target.fields.url)]
  let encoded := "\x7b" ++
    ",".intercalate ((sortPairs payload).map fun p => quote p.1 ++ ":" ++ quote p.2) ++ "\x7d"
  String.ofList ((py.sha256Hex encoded).toList.take routeIdLength)

/-- `_append_tracking_params`. -/
def appendTrackingParams (lib : LinkLib) (url : String) (params : List (String × String)) :
    Except LinkError String :=
  match lib.urlsplit url with
  | none => .error (.shared (.valueError "Invalid URL"))
  | some parts =>
      let existingQuery := (lib.parseQsl parts.query).filter fun item =>
        !(params.map Prod.fst).contains item.1
      .ok (lib.urlunsplit { parts with query := lib.urlencode (existingQuery ++ params) })

/-- The parameters that `_build_referral_link` appends. -/
def trackingParams (request : LinkRouteRequest lib) (level : ReferralLevel)
    (target : ReferralLinkTarget lib) (routeId : String) : List (String × String) :=
  [("nmc_route_id", routeId), ("nmc_tenant_id", request.fields.tenantId),
    ("nmc_content_id", request.fields.contentId), ("nmc_level", level.value),
    ("nmc_owner_id", target.fields.ownerId)]

/-- `_build_referral_link`. -/
def buildReferralLink (py : Stdlib) (request : LinkRouteRequest lib) (level : ReferralLevel)
    (target : ReferralLinkTarget lib) (rotationSeed : Option String) :
    Except LinkError ReferralLink := do
  let id := routeId py request.fields.tenantId request.fields.contentId level target
  let url ← appendTrackingParams lib target.fields.url (trackingParams request level target id)
  (referralLink
    { tenantId := request.fields.tenantId
      contentId := request.fields.contentId
      routeId := id
      level := level
      ownerId := target.fields.ownerId
      url := url
      rewardShare := level.rewardRate
      contributionWeight := target.fields.contributionWeight
      rotationSeed := rotationSeed }).mapError .shared

/-- `_resolve_rotation_seed`. -/
def resolveRotationSeed (request : LinkRouteRequest lib) : String :=
  match request.fields.rotationSeed with
  | some seed => seed
  | none => request.fields.tenantId ++ ":" ++ request.fields.contentId ++ ":L3"

/-- `generate_referral_links`. -/
def generateReferralLinks (py : Stdlib) (request : LinkRouteRequest lib) :
    Except LinkError LinkRouteResult := do
  let rotationSeed := resolveRotationSeed request
  let l3Target ← selectL3Partner request.fields.l3Candidates rotationSeed
    request.fields.l3MinContributionWeight
  let first ← buildReferralLink py request .l1 request.fields.adminLink none
  let second ← buildReferralLink py request .l2 request.fields.authorLink none
  let third ← buildReferralLink py request .l3 l3Target (some rotationSeed)
  (linkRouteResult
    { tenantId := request.fields.tenantId
      contentId := request.fields.contentId
      l3MinContributionWeight := request.fields.l3MinContributionWeight
      links := [first, second, third] }).mapError .shared

end Rotation

end MediaCenter.Cglr
