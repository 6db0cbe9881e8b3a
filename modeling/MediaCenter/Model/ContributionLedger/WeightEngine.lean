import MediaCenter.Library.RoundHalfEven
import MediaCenter.Library.ExceptList
import MediaCenter.Model.Shared.Models

/-!
# Weight engine (`contribution_ledger/weight_engine.py`)

Floats are exact rationals and `round(x, d)` is `roundTo d x`.  Every rational is finite,
so only the sign is left of `_validate_non_negative_finite`.
-/

set_option autoImplicit false

namespace MediaCenter.ContributionLedger

open MediaCenter.Library MediaCenter.Shared

def councilCapKv : ℚ := 1 / 10

def kvRawDecimals : ℕ := 6

def kvCappedDecimals : ℕ := 5

def payoutShareDecimals : ℕ := 10

/-- The check of a `NonNegativeFiniteFloat`. -/
def nonNegative (x : ℚ) : Bool := decide (0 ≤ x)

/-! ## Input -/

structure MemberPointsInput where
  memberId : String
  totalPoints : ℚ
  memberId_valid : tokenPattern memberId = true
  totalPoints_nonneg : 0 ≤ totalPoints

structure WeightCalculationInput where
  avgPointsCouncil : ℚ
  members : List MemberPointsInput
  capKv : ℚ
  avgPointsCouncil_nonneg : 0 ≤ avgPointsCouncil
  capKv_nonneg : 0 ≤ capKv
  capKv_le_one : capKv ≤ 1

/-- A mapping with the keys of `WeightCalculationInput`; `cap_kv` has a default. -/
structure WeightMapping where
  avgPointsCouncil : ℚ
  members : List (String × ℚ)
  capKv : ℚ := councilCapKv

/-- `MemberPointsInput.model_validate`. -/
def MemberPointsInput.modelValidate (raw : String × ℚ) :
    Except SharedException MemberPointsInput :=
  if h : tokenPattern (Text.trim raw.1) = true ∧ 0 ≤ raw.2 then
    .ok ⟨Text.trim raw.1, raw.2, h.1, h.2⟩
  else .error (.validationError "MemberPointsInput" ["member_id", "total_points"])

/-- `WeightCalculationInput.model_validate`. -/
def WeightCalculationInput.modelValidate (raw : WeightMapping) :
    Except SharedException WeightCalculationInput := do
  let members ← raw.members.mapM MemberPointsInput.modelValidate
  if h : 0 ≤ raw.avgPointsCouncil ∧ 0 ≤ raw.capKv ∧ raw.capKv ≤ 1 then
    .ok ⟨raw.avgPointsCouncil, members, raw.capKv, h.1, h.2.1, h.2.2⟩
  else .error (.validationError "WeightCalculationInput" ["avg_points_council", "cap_kv"])

inductive WeightPayload : Type where
  | request (r : WeightCalculationInput)
  | mapping (m : WeightMapping)

/-! ## Output -/

structure MemberWeightFields where
  memberId : String
  totalPoints : ℚ
  avgPointsCouncil : ℚ
  kvRaw : ℚ
  kvCapped : ℚ
  payoutShare : ℚ

def MemberWeightFields.checks (f : MemberWeightFields) : List (String × Bool) :=
  [("member_id", tokenPattern f.memberId),
    ("total_points", nonNegative f.totalPoints),
    ("avg_points_council", nonNegative f.avgPointsCouncil),
    ("kv_raw", nonNegative f.kvRaw),
    ("kv_capped", nonNegative f.kvCapped),
    ("payout_share", nonNegative f.payoutShare)]

abbrev MemberWeightOutput : Type := Validated MemberWeightFields.checks

def memberWeightOutput (f : MemberWeightFields) : Except SharedException MemberWeightOutput :=
  Validated.make "MemberWeightOutput" MemberWeightFields.checks
    { f with memberId := Text.trim f.memberId }

structure WeightCalculationFields where
  avgPointsCouncil : ℚ
  capKv : ℚ
  totalKvCapped : ℚ
  members : List MemberWeightOutput

def WeightCalculationFields.checks (f : WeightCalculationFields) : List (String × Bool) :=
  [("avg_points_council", nonNegative f.avgPointsCouncil),
    ("cap_kv", nonNegative f.capKv),
    ("total_kv_capped", nonNegative f.totalKvCapped)]

abbrev WeightCalculationOutput : Type := Validated WeightCalculationFields.checks

namespace WeightCalculationOutput

def members (out : WeightCalculationOutput) : List MemberWeightFields :=
  out.fields.members.map Validated.fields

def totalPayoutShare (out : WeightCalculationOutput) : ℚ :=
  roundTo payoutShareDecimals (out.members.map MemberWeightFields.payoutShare).sum

end WeightCalculationOutput

/-! ## Calculation -/

/-- `_validate_non_negative_finite`. -/
def validateNonNegativeFinite (value : ℚ) (fieldName : String) :
    Except SharedException Unit :=
  if value < 0 then
    .error (.valueError (fieldName ++ " должен быть конечным неотрицательным числом"))
  else .ok ()

def calculateMemberKv (totalPoints avgPointsCouncil capKv : ℚ) :
    Except SharedException (ℚ × ℚ) := do
  validateNonNegativeFinite totalPoints "total_points"
  validateNonNegativeFinite avgPointsCouncil "avg_points_council"
  validateNonNegativeFinite capKv "cap_kv"
  if capKv > 1 then throw (.valueError "cap_kv должен быть не больше 1")
  if avgPointsCouncil = 0 ∨ totalPoints = 0 ∨ capKv = 0 then return (0, 0)
  let kvRaw := roundTo kvRawDecimals (totalPoints / avgPointsCouncil)
  let kvCapped := roundTo kvCappedDecimals (min kvRaw capKv)
  return (kvRaw, kvCapped)

/-- `[index for index, value in enumerate(values) if value > 0]`. -/
def positiveIndexes (values : List ℚ) : List ℕ :=
  (values.zipIdx.filter fun e => 0 < e.1).map Prod.snd

/-- The residual goes to the last positive entry, if there is one. -/
def correctLastShare (values shares : List ℚ) (residual : ℚ) : List ℚ :=
  match (positiveIndexes values).getLast? with
  | none => shares
  | some i => shares.modify i fun s => roundTo payoutShareDecimals (s + residual)

def calculatePayoutShares (kvCappedValues : List ℚ) : Except SharedException (List ℚ) := do
  kvCappedValues.forM fun value => validateNonNegativeFinite value "kv_capped"
  if kvCappedValues = [] then return []
  let roundedValues := kvCappedValues.map (roundTo kvCappedDecimals)
  let totalKvCapped := roundTo kvCappedDecimals roundedValues.sum
  if totalKvCapped = 0 then return roundedValues.map fun _ => 0
  let shares := roundedValues.map fun value =>
    if value > 0 then roundTo payoutShareDecimals (value / totalKvCapped) else 0
  let residual := roundTo payoutShareDecimals (1 - shares.sum)
  if residual ≠ 0 then return correctLastShare roundedValues shares residual
  return shares

/-- `zip(a, b, strict=True)`. -/
def zipStrict {α β : Type} (a : List α) (b : List β) :
    Except SharedException (List (α × β)) :=
  if a.length = b.length then .ok (a.zip b)
  else .error (.valueError "zip() arguments have different lengths")

/-- The part of `calculate_weights` after the payload is validated. -/
def calculateWeightsOf (request : WeightCalculationInput) :
    Except SharedException WeightCalculationOutput := do
  let memberWeights ← request.members.mapM fun member => do
    let kv ← calculateMemberKv member.totalPoints request.avgPointsCouncil request.capKv
    pure (member, kv)
  let payoutShares ← calculatePayoutShares (memberWeights.map fun w => w.2.2)
  let pairs ← zipStrict memberWeights payoutShares
  let members ← pairs.mapM fun p =>
    memberWeightOutput
      { memberId := p.1.1.memberId
        totalPoints := p.1.1.totalPoints
        avgPointsCouncil := request.avgPointsCouncil
        kvRaw := p.1.2.1
        kvCapped := p.1.2.2
        payoutShare := p.2 }
  Validated.make "WeightCalculationOutput" WeightCalculationFields.checks
    { avgPointsCouncil := request.avgPointsCouncil
      capKv := request.capKv
      totalKvCapped := roundTo kvCappedDecimals (memberWeights.map fun w => w.2.2).sum
      members := members }

def calculateWeights (payload : Option WeightPayload) (kwargs : Option WeightMapping) :
    Except SharedException WeightCalculationOutput :=
  match payload, kwargs with
  | some _, some _ =>
      .error (.valueError "payload и keyword-аргументы нельзя передавать одновременно")
  | none, none => .error (.valueError "нужны входные данные для расчёта Кв")
  | some (.request r), none => calculateWeightsOf r
  | some (.mapping m), none => WeightCalculationInput.modelValidate m >>= calculateWeightsOf
  | none, some m => WeightCalculationInput.modelValidate m >>= calculateWeightsOf

end MediaCenter.ContributionLedger
