import MediaCenter.Library.Binary64
import MediaCenter.Model.PolicyManager.Manager

/-!
# Applying policies (`policy_manager/manager.py`)

A threshold policy compares a number of the facts with its own bounds, a flag policy a value of
the facts with the expected one.  A policy of any other kind asks nothing.
-/

set_option autoImplicit false

namespace MediaCenter.PolicyManager

open MediaCenter.Library MediaCenter.Shared

/-- What `apply_policies` raises. -/
inductive PolicyApplicationError : Type where
  | repository (e : PolicyManagerError)
  | policyManager (message : String)
  deriving DecidableEq, Repr

inductive PolicyDecision : Type where
  | allow
  | escalate
  deriving DecidableEq, Repr

/-! ## Python's `==` on JSON values -/

/-- The value of a number: `True` is 1. -/
def jsonNumber : JSONValue → Option ℚ
  | .bool b => some (if b = true then 1 else 0)
  | .int n => some n
  | .float x => some x
  | _ => none

mutual

def jsonEq : JSONValue → JSONValue → Bool
  | .null, .null => true
  | .str s, .str t => s == t
  | .list xs, .list ys => itemsEq xs ys
  | .dict xs, .dict ys => xs.length == ys.length && pairsEq xs ys
  | a, b => (jsonNumber a).isSome && jsonNumber a == jsonNumber b

def itemsEq : List JSONValue → List JSONValue → Bool
  | [], [] => true
  | x :: xs, y :: ys => jsonEq x y && itemsEq xs ys
  | _, _ => false

/-- Every item of the first object stands in the second. -/
def pairsEq : JSONObject → JSONObject → Bool
  | [], _ => true
  | (k, v) :: rest, ys =>
      (match JSONValue.item k ys with
        | some w => jsonEq v w
        | none => false) && pairsEq rest ys

end

/-! ## The fields of a policy -/

/-- `_string_field`. -/
def stringField (value : JSONObject) (key : String) (default : Option String := none) :
    Except PolicyApplicationError String :=
  match (JSONValue.item key value).getD .null with
  | .null =>
      match default with
      | some text => .ok text
      | none => .error (.policyManager ("Политика должна содержать строковое поле " ++ key))
  | .str s =>
      if Text.strip s = "" then
        .error (.policyManager ("Поле политики " ++ key ++ " должно быть непустой строкой"))
      else .ok (Text.strip s)
  | _ => .error (.policyManager ("Поле политики " ++ key ++ " должно быть непустой строкой"))

/-- `_number_field`. -/
def numberField (value : JSONObject) (key : String) : Except PolicyApplicationError ℚ :=
  match JSONValue.item key value with
  | some (.int n) =>
      match Binary64.ofInt n with
      | some x => .ok x
      | none => .error (.repository (.shared (.overflowError
          "int too large to convert to float")))
  | some (.float x) => .ok x
  | _ => .error (.policyManager ("Поле " ++ key ++ " должно быть числом"))

/-- `_decision_on_violation`. -/
def decisionOnViolation (value : JSONObject) : Except PolicyApplicationError PolicyDecision := do
  let decision ← stringField value "decision_on_violation" (some "escalate")
  if decision = "allow" then return .allow
  else if decision = "escalate" then return .escalate
  else throw (.policyManager "decision_on_violation должен быть allow или escalate")

/-! ## Reasons -/

/-- `_threshold_violation`. -/
def thresholdViolation (value : JSONObject) (operator : String) (observed : ℚ) :
    Except PolicyApplicationError Bool :=
  if operator = "lte" then do
    let threshold ← numberField value "threshold"
    return decide (threshold < observed)
  else if operator = "lt" then do
    let threshold ← numberField value "threshold"
    return decide (threshold ≤ observed)
  else if operator = "gte" then do
    let threshold ← numberField value "threshold"
    return decide (observed < threshold)
  else if operator = "gt" then do
    let threshold ← numberField value "threshold"
    return decide (observed ≤ threshold)
  else if operator = "between" then do
    let low ← numberField value "min"
    -- a chained comparison: `max` is read only where the first part holds
    if low ≤ observed then do
      let high ← numberField value "max"
      return !decide (observed ≤ high)
    else return true
  else .error (.policyManager ("Оператор политики " ++ operator ++ " не поддержан"))

/-- The reason of a violated policy. -/
def violationReason (value : JSONObject) (target : String) :
    Except PolicyApplicationError (List String) := do
  let reason ← stringField value "reason" (some (target ++ "_policy_violation"))
  return [reason]

/-- `_threshold_policy_reasons`. -/
def thresholdPolicyReasons (value facts : JSONObject) :
    Except PolicyApplicationError (List String) := do
  let target ← stringField value "target"
  let operator ← stringField value "operator"
  let observed ← numberField facts target
  let violation ← thresholdViolation value operator observed
  if violation = true then do
    let decision ← decisionOnViolation value
    if decision = .allow then return [] else violationReason value target
  else return []

/-- `_flag_policy_reasons`. -/
def flagPolicyReasons (value facts : JSONObject) :
    Except PolicyApplicationError (List String) := do
  let target ← stringField value "target"
  match (JSONValue.item "expected" value).getD .null with
  | .null => throw (.policyManager "flag-политика должна содержать expected")
  | expected =>
      if jsonEq ((JSONValue.item target facts).getD .null) expected = true then return []
      else do
        let decision ← decisionOnViolation value
        if decision = .allow then return [] else violationReason value target

/-- `_policy_reasons`. -/
def policyReasons (value facts : JSONObject) :
    Except PolicyApplicationError (List String) := do
  let kind ← stringField value "kind" (some "metadata")
  if kind = "threshold" then thresholdPolicyReasons value facts
  else if kind = "flag" then flagPolicyReasons value facts
  else return []

/-! ## The result -/

structure ResultFields where
  tenantId : String
  decision : PolicyDecision
  policyVersions : Dict String ℕ
  reasons : List String
  appliedAt : Instant

def ResultFields.checks (f : ResultFields) : List (String × Bool) :=
  [("tenant_id", tenantIdPattern f.tenantId)]

abbrev PolicyApplicationResult : Type := Validated ResultFields.checks

/-- The keys of the versions come from records, whose keys are stripped already. -/
def policyApplicationResult (f : ResultFields) :
    Except SharedException PolicyApplicationResult :=
  Validated.make "PolicyApplicationResult" ResultFields.checks
    { f with
      tenantId := Text.trim f.tenantId
      reasons := f.reasons.map Text.trim }

structure PolicyApplyInput where
  policyKeys : List String
  facts : JSONObject

structure ApplyArgs where
  tenantId : String
  application : PolicyApplyInput
  appliedAt : TimeArg := .omitted

/-- What the loop of `apply_policies` collects. -/
structure Collected where
  policyVersions : Dict String ℕ
  reasons : List String

/-- One round of the loop. -/
def collectPolicy (repository : InMemoryPolicyRepository) (tenantId : String)
    (facts : JSONObject) (collected : Collected) (key : String) :
    Except PolicyApplicationError Collected := do
  let policy ← (repository.getPolicy tenantId key).mapError .repository
  let reasons ← policyReasons policy.fields.value facts
  return {
    policyVersions := collected.policyVersions.set policy.fields.key policy.fields.version
    reasons := collected.reasons ++ reasons }

/-- `tuple(dict.fromkeys(reasons))`. -/
def uniqueReasons (reasons : List String) : List String := reasons.reverse.dedup.reverse

/-- `PolicyManager.apply_policies`. -/
def applyPolicies (py : Stdlib) (now : Instant) (repository : InMemoryPolicyRepository)
    (args : ApplyArgs) : Except PolicyApplicationError PolicyApplicationResult := do
  if args.application.policyKeys = [] then
    throw (.policyManager "Нужно указать хотя бы одну политику")
  else do
    let collected ← args.application.policyKeys.foldlM
      (collectPolicy repository args.tenantId args.application.facts) ⟨.empty, []⟩
    let unique := uniqueReasons collected.reasons
    let appliedAt ← (resolveTime py now args.appliedAt).mapError fun e =>
      PolicyApplicationError.repository (.shared e)
    (policyApplicationResult
      { tenantId := args.tenantId
        decision := if unique = [] then .allow else .escalate
        policyVersions := collected.policyVersions
        reasons := unique
        appliedAt := appliedAt }).mapError fun e => .repository (.shared e)

end MediaCenter.PolicyManager
