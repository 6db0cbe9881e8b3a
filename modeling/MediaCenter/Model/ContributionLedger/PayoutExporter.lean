import MediaCenter.Model.Shared.Json
import MediaCenter.Model.ContributionLedger.WeightEngine

/-!
# Payout exporter (`contribution_ledger/payout_exporter.py`)
-/

set_option autoImplicit false

namespace MediaCenter.ContributionLedger

open MediaCenter.Library MediaCenter.Shared

/-! ## Contracts -/

structure DistributionMemberFields where
  memberId : String
  totalPoints : ℚ
  kvRaw : ℚ
  kvCapped : ℚ
  payoutShare : ℚ

namespace DistributionMemberFields

def checks (f : DistributionMemberFields) : List (String × Bool) :=
  [("member_id", tokenPattern f.memberId),
    ("total_points", nonNegative f.totalPoints),
    ("kv_raw", nonNegative f.kvRaw),
    ("kv_capped", nonNegative f.kvCapped),
    ("payout_share", nonNegative f.payoutShare)]

def toHashPayload (f : DistributionMemberFields) : JSONObject :=
  [("member_id", .str f.memberId),
    ("total_points", .float f.totalPoints),
    ("kv_raw", .float f.kvRaw),
    ("kv_capped", .float f.kvCapped),
    ("payout_share", .float f.payoutShare)]

end DistributionMemberFields

abbrev PayoutDistributionMember : Type := Validated DistributionMemberFields.checks

structure DistributionFields where
  distributionId : String
  tenantId : String
  period : String
  status : String
  totalKvCapped : ℚ
  totalPayoutShare : ℚ
  memberCount : ℕ
  members : List PayoutDistributionMember
  distributionHash : String
  createdBy : String
  createdAt : Instant

/-- `^[a-z][a-z0-9_]{0,31}$` (`_STATUS_PATTERN`). -/
def statusPattern (s : String) : Bool :=
  Text.matchesHeadTail Text.isAsciiLower
    (fun c => Text.isAsciiLower c || Text.isAsciiDigit c || c == '_') 31 s

namespace DistributionFields

def checks (f : DistributionFields) : List (String × Bool) :=
  [("distribution_id", tokenPattern f.distributionId),
    ("tenant_id", tenantIdPattern f.tenantId),
    ("period", periodPattern f.period),
    ("status", statusPattern f.status),
    ("total_kv_capped", nonNegative f.totalKvCapped),
    ("total_payout_share", nonNegative f.totalPayoutShare),
    ("distribution_hash", auditHashPattern f.distributionHash),
    ("created_by", tokenPattern f.createdBy)]

end DistributionFields

end MediaCenter.ContributionLedger
