import Mathlib.Algebra.Order.Ring.Int
import MediaCenter.Model.Shared.AuditLogger
import MediaCenter.Model.Shared.Events
import MediaCenter.Model.Shared.Tenant

/-!
# The wallet (`wallet/api.py`)

A wallet is a log of operations; a balance is summed up from the log.  Amounts are whole numbers
of hundredths.  Nothing in `record_wallet_operation` suspends it: the publisher only keeps the
event.
-/

set_option autoImplicit false

namespace MediaCenter.Wallet

open MediaCenter.Library MediaCenter.Shared

def walletSource : String := "wallet"

def walletSchemaVersion : String := "1.0"

def walletOperationRecordedEvent : String := "wallet.operation_recorded"

def boardRole : String := "board"

def presidiumRole : String := "presidium"

/-- `WALLET_RECORD_POLICY`. -/
def walletRecordPolicy : AccessPolicy :=
  ⟨[councilRole, boardRole], "wallet.operation.record", "wallet"⟩

/-- `WALLET_READ_POLICY`. -/
def walletReadPolicy : AccessPolicy :=
  ⟨[councilRole, presidiumRole, boardRole], "wallet.read", "wallet"⟩

inductive WalletError : Type where
  | shared (e : SharedException)
  /-- `decimal.InvalidOperation`. -/
  | invalidOperation
  deriving DecidableEq, Repr

/-! ## Amounts -/

/-- `Field(max_digits=14, decimal_places=2)`. -/
def fitsDigits (amount : ℤ) : Bool := decide (amount.natAbs < 10 ^ 14)

/-- `_normalize_mcv`: a value of more than 28 digits is not quantized. -/
def normalizeMcv (value : ℤ) : Except WalletError ℤ :=
  if value.natAbs < 10 ^ 28 then .ok value else .error .invalidOperation

/-- `_sum_mcv`.  Its values have one sign: a sum that has outgrown the 28 digits in which it is
exact does not come back to them. -/
def sumMcv (values : List ℤ) : Except WalletError ℤ := normalizeMcv values.sum

/-- `_mcv_to_string`. -/
def mcvToString (value : ℤ) : String :=
  let hundredths := value.natAbs % 100
  (if value < 0 then "-" else "") ++ toString (value.natAbs / 100) ++ "." ++
    (if hundredths < 10 then "0" else "") ++ toString hundredths

/-! ## Contracts -/

inductive WalletOperationType : Type where
  | distributionCredit
  | payoutDebit
  | manualAdjustment
  deriving DecidableEq, Repr

def WalletOperationType.value : WalletOperationType → String
  | .distributionCredit => "distribution_credit"
  | .payoutDebit => "payout_debit"
  | .manualAdjustment => "manual_adjustment"

structure CreateRequestFields where
  operationId : Option String
  memberId : String
  amountMcv : ℤ
  type : WalletOperationType
  refType : String
  refId : String
  period : Option String
  distributionHash : Option String
  payoutShare : Option ℚ
  createdAt : Option Instant
  metadata : JSONObject

def CreateRequestFields.checks (f : CreateRequestFields) : List (String × Bool) :=
  [("operation_id", optionalField tokenPattern f.operationId),
    ("member_id", tokenPattern f.memberId),
    ("amount_mcv", fitsDigits f.amountMcv && decide (f.amountMcv ≠ 0)),
    ("ref_type", reasonCodePattern f.refType),
    ("ref_id", tokenPattern f.refId),
    ("period", optionalField periodPattern f.period),
    ("distribution_hash", optionalField auditHashPattern f.distributionHash),
    ("payout_share", f.payoutShare.all fun share => decide (0 ≤ share) && decide (share ≤ 1))]

/-- `WalletOperationCreateRequest`. -/
abbrev WalletOperationCreateRequest : Type := Validated CreateRequestFields.checks

/-- `model_dump(mode="json", exclude_none=True)`. -/
def dumpRequest (py : Stdlib) (payload : WalletOperationCreateRequest) : JSONObject :=
  let f := payload.fields
  (f.operationId.toList.map fun s => ("operation_id", JSONValue.str s)) ++
  [("member_id", .str f.memberId),
    ("amount_mcv", .str (mcvToString f.amountMcv)),
    ("type", .str f.type.value),
    ("ref_type", .str f.refType),
    ("ref_id", .str f.refId)] ++
  (f.period.toList.map fun s => ("period", JSONValue.str s)) ++
  (f.distributionHash.toList.map fun s => ("distribution_hash", JSONValue.str s)) ++
  (f.payoutShare.toList.map fun x => ("payout_share", JSONValue.float x)) ++
  (f.createdAt.toList.map fun t => ("created_at", JSONValue.str (formatDatetime py t))) ++
  [("metadata", .dict f.metadata)]

/-- `WalletOperationRecord`. -/
structure WalletOperationRecord where
  operationId : String
  tenantId : String
  memberId : String
  memberHash : String
  amountMcv : ℤ
  balanceAfterMcv : ℤ
  type : WalletOperationType
  refType : String
  refId : String
  period : Option String
  distributionHash : Option String
  payoutShare : Option ℚ
  metadata : JSONObject
  auditHash : String
  idempotencyKey : String
  requestHash : String
  createdBy : String
  createdByHash : String
  createdAt : Instant

structure OperationResponseFields where
  operationId : String
  tenantId : String
  memberId : String
  memberHash : String
  amountMcv : ℤ
  balanceAfterMcv : ℤ
  type : WalletOperationType
  refType : String
  refId : String
  period : Option String
  distributionHash : Option String
  payoutShare : Option ℚ
  metadata : JSONObject
  auditHash : String
  idempotencyKey : String
  createdBy : String
  createdByHash : String
  createdAt : Instant

def OperationResponseFields.checks (f : OperationResponseFields) : List (String × Bool) :=
  [("operation_id", tokenPattern f.operationId),
    ("tenant_id", tenantIdPattern f.tenantId),
    ("member_id", tokenPattern f.memberId),
    ("amount_mcv", fitsDigits f.amountMcv),
    ("balance_after_mcv", fitsDigits f.balanceAfterMcv),
    ("ref_id", tokenPattern f.refId),
    ("distribution_hash", optionalField auditHashPattern f.distributionHash),
    ("audit_hash", auditHashPattern f.auditHash),
    ("idempotency_key", tokenPattern f.idempotencyKey),
    ("created_by", tokenPattern f.createdBy)]

/-- `WalletOperationResponse`. -/
abbrev WalletOperationResponse : Type := Validated OperationResponseFields.checks

/-- `_operation_response`; of the texts only `created_by` may have white space around it. -/
def operationResponse (record : WalletOperationRecord) :
    Except SharedException WalletOperationResponse :=
  Validated.make "WalletOperationResponse" OperationResponseFields.checks
    { operationId := record.operationId
      tenantId := record.tenantId
      memberId := record.memberId
      memberHash := record.memberHash
      amountMcv := record.amountMcv
      balanceAfterMcv := record.balanceAfterMcv
      type := record.type
      refType := record.refType
      refId := record.refId
      period := record.period
      distributionHash := record.distributionHash
      payoutShare := record.payoutShare
      metadata := record.metadata
      auditHash := record.auditHash
      idempotencyKey := record.idempotencyKey
      createdBy := Text.trim record.createdBy
      createdByHash := record.createdByHash
      createdAt := record.createdAt }

/-- `WalletBalance`. -/
structure WalletBalance where
  tenantId : String
  memberId : String
  balanceMcv : ℤ
  creditedMcv : ℤ
  debitedMcv : ℤ
  operationCount : ℕ

def WalletBalance.checks (f : WalletBalance) : List (String × Bool) :=
  [("tenant_id", tenantIdPattern f.tenantId),
    ("member_id", tokenPattern f.memberId),
    ("balance_mcv", fitsDigits f.balanceMcv),
    ("credited_mcv", fitsDigits f.creditedMcv),
    ("debited_mcv", fitsDigits f.debitedMcv)]

/-- `WalletBalanceResponse`. -/
abbrev WalletBalanceResponse : Type := Validated WalletBalance.checks

/-- `_balance_response`. -/
def balanceResponse (balance : WalletBalance) : Except SharedException WalletBalanceResponse :=
  Validated.make "WalletBalanceResponse" WalletBalance.checks
    { balance with memberId := Text.trim balance.memberId }

/-! ## The repository -/

namespace InMemoryWalletRepository

/-- `get_existing_operation`. -/
def getExistingOperation (operations : List WalletOperationRecord) (context : TenantContext)
    (idempotencyKey requestHash : String) :
    Except SharedException (Option WalletOperationRecord) :=
  match operations.find? fun record =>
      record.tenantId = context.tenantId && record.idempotencyKey = idempotencyKey with
  | none => .ok none
  | some record =>
      if record.requestHash ≠ requestHash then
        .error (.sharedError 409 "idempotency_conflict"
          "Idempotency-Key уже использован с другим payload" context.correlationId)
      else .ok (some record)

/-- `operation_exists`. -/
def operationExists (operations : List WalletOperationRecord) (tenantId operationId : String) :
    Bool :=
  operations.any fun record => record.tenantId = tenantId && record.operationId = operationId

def conflictMessage : String := "Операция кошелька с таким operation_id уже существует"

/-- `add_operation`. -/
def addOperation (operations : List WalletOperationRecord) (record : WalletOperationRecord) :
    Except SharedException (List WalletOperationRecord) :=
  if operationExists operations record.tenantId record.operationId = true then
    .error (.sharedError 409 "wallet_operation_conflict" conflictMessage none)
  else .ok (operations ++ [record])

/-- The order of `list_operations`: the newest operation first. -/
def newerFirst (a b : WalletOperationRecord) : Prop :=
  b.createdAt < a.createdAt ∨ (b.createdAt = a.createdAt ∧ b.operationId ≤ a.operationId)

instance (a b : WalletOperationRecord) : Decidable (newerFirst a b) :=
  inferInstanceAs (Decidable (_ ∨ _))

/-- `list_operations`. -/
def listOperations (operations : List WalletOperationRecord) (context : TenantContext)
    (memberId refType refId : Option String) (limit offset : ℕ) :
    Except SharedException (List WalletOperationRecord) := do
  let records ← listForTenant WalletOperationRecord.tenantId operations context
  let filtered := records.filter fun record =>
    memberId.all (record.memberId = ·) && refType.all (record.refType = ·) &&
      refId.all (record.refId = ·)
  return ((filtered.insertionSort newerFirst).drop offset).take limit

/-- `balance_for_member`. -/
def balanceForMember (operations : List WalletOperationRecord) (context : TenantContext)
    (memberId : String) : Except WalletError WalletBalance := do
  let owned ← (listForTenant WalletOperationRecord.tenantId operations context).mapError .shared
  let records := owned.filter fun record => record.memberId = memberId
  let amounts := records.map WalletOperationRecord.amountMcv
  let credited ← sumMcv (amounts.filter fun amount => 0 < amount)
  let debited ← sumMcv ((amounts.filter fun amount => amount < 0).map fun amount => -amount)
  let balance ← normalizeMcv (credited - debited)
  return ⟨context.tenantId, memberId, balance, credited, debited, records.length⟩

end InMemoryWalletRepository

open InMemoryWalletRepository

/-! ## Endpoints -/

structure WalletState where
  operations : List WalletOperationRecord
  /-- The records of the audit sink, oldest first. -/
  auditLog : List AuditLogRecord
  /-- The messages of the event bus, oldest first. -/
  published : List EventEnvelope

def WalletState.initial : WalletState := ⟨[], [], []⟩

/-- `subject_ref_hash`. -/
def subjectRefHash (py : Stdlib) (tenantId subjectId : String) : String :=
  "sha256:" ++ py.sha256Hex (tenantId ++ ":" ++ subjectId)

/-- `_subject`. -/
def subjectOf (context : TenantContext) : Except SharedException String :=
  match context.subject with
  | none => .error (.sharedError 400 "actor_required"
      "Операция wallet требует subject в tenant context" context.correlationId)
  | some subject =>
      if Text.strip subject = "" then .error (.sharedError 400 "actor_required"
        "Операция wallet требует subject в tenant context" context.correlationId)
      else .ok subject

/-- One call of `record_wallet_operation`; the header is checked before. -/
structure WalletCall where
  env : Ambient
  payload : WalletOperationCreateRequest
  idempotencyKey : { key : String // tokenPattern key = true }
  context : TenantContext

namespace WalletCall

/-- What is hashed into `request_hash`. -/
def requestPayload (call : WalletCall) (py : Stdlib) : JSONObject :=
  [("tenant_id", .str call.context.tenantId),
    ("idempotency_key", .str call.idempotencyKey.val),
    ("payload", .dict (dumpRequest py call.payload))]

def requestHash (call : WalletCall) (py : Stdlib) : String :=
  hashJsonPayload py (call.requestPayload py)

/-- `payload.operation_id or _new_id("wallet-op")`. -/
def operationId (call : WalletCall) : String :=
  orDefault call.payload.fields.operationId (newId "wallet-op" (call.env.uuid 0))

/-- `_correlation_id`; each use makes an id of its own where there is none. -/
def correlationId (call : WalletCall) (index : ℕ) : String :=
  orDefault call.context.correlationId (newId "corr" (call.env.uuid index))

def createdAt (call : WalletCall) : Instant := call.payload.fields.createdAt.getD call.env.now

/-- The record of an operation. -/
def record (call : WalletCall) (py : Stdlib) (createdBy : String) (balanceAfterMcv : ℤ)
    (auditHash : String) : WalletOperationRecord where
  operationId := call.operationId
  tenantId := call.context.tenantId
  memberId := call.payload.fields.memberId
  memberHash := subjectRefHash py call.context.tenantId call.payload.fields.memberId
  amountMcv := call.payload.fields.amountMcv
  balanceAfterMcv := balanceAfterMcv
  type := call.payload.fields.type
  refType := call.payload.fields.refType
  refId := call.payload.fields.refId
  period := call.payload.fields.period
  distributionHash := call.payload.fields.distributionHash
  payoutShare := call.payload.fields.payoutShare
  metadata := call.payload.fields.metadata
  auditHash := auditHash
  idempotencyKey := call.idempotencyKey.val
  requestHash := call.requestHash py
  createdBy := createdBy
  createdByHash := subjectRefHash py call.context.tenantId createdBy
  createdAt := call.createdAt

/-- The audit entry of an operation. -/
def auditArgs (call : WalletCall) (py : Stdlib) (createdBy : String) (balanceAfterMcv : ℤ) :
    AuditArgs where
  eventType := walletOperationRecordedEvent
  tenantId := call.context.tenantId
  metadata :=
    [("operation_id", .str call.operationId),
      ("member_hash",
        .str (subjectRefHash py call.context.tenantId call.payload.fields.memberId)),
      ("amount_mcv", .str (mcvToString call.payload.fields.amountMcv)),
      ("balance_after_mcv", .str (mcvToString balanceAfterMcv)),
      ("type", .str call.payload.fields.type.value),
      ("ref_type", .str call.payload.fields.refType),
      ("ref_id", .str call.payload.fields.refId),
      ("period", JSONValue.optionalStr call.payload.fields.period),
      ("distribution_hash", JSONValue.optionalStr call.payload.fields.distributionHash),
      ("payout_share", match call.payload.fields.payoutShare with
        | some share => .float share
        | none => .null),
      ("created_by_hash", .str (subjectRefHash py call.context.tenantId createdBy)),
      ("metadata", .dict call.payload.fields.metadata)]
  timestamp := call.createdAt
  correlationId := some (call.correlationId 1)
  actorHash := some (subjectRefHash py call.context.tenantId createdBy)
  source := some walletSource

/-- The event of an operation. -/
def event (call : WalletCall) (record : WalletOperationRecord) : EventEnvelope where
  eventId := newId "evt-wallet-operation-recorded" (call.env.uuid 3)
  type := walletOperationRecordedEvent
  schemaVersion := walletSchemaVersion
  tenantId := call.context.tenantId
  source := walletSource
  correlationId := call.correlationId 2
  occurredAt := call.createdAt
  payload :=
    [("operation_id", .str record.operationId),
      ("member_hash", .str record.memberHash),
      ("type", .str record.type.value),
      ("ref_type", .str record.refType),
      ("ref_id", .str record.refId),
      ("audit_hash", .str record.auditHash)]
  causationId := none

end WalletCall

/-- What a call comes to before anything is written. -/
inductive StartedOperation : Type where
  | replayed (record : WalletOperationRecord)
  | recorded (audit : AuditLogRecord) (record : WalletOperationRecord)

/-- `record_wallet_operation`, up to the audit record. -/
def startOperation (py : Stdlib) (call : WalletCall) (operations : List WalletOperationRecord) :
    Except WalletError StartedOperation := do
  let actorContext ← (requireAccess walletRecordPolicy call.context).mapError .shared
  let existing ← (getExistingOperation operations call.context call.idempotencyKey.val
    (call.requestHash py)).mapError .shared
  match existing with
  | some record => return .replayed record
  | none => do
      (refuseIf (operationExists operations call.context.tenantId call.operationId = true)
        (.sharedError 409 "wallet_operation_conflict" conflictMessage
          call.context.correlationId)).mapError .shared
      let createdBy ← (subjectOf actorContext).mapError .shared
      let currentBalance ←
        balanceForMember operations call.context call.payload.fields.memberId
      let balanceAfterMcv ←
        normalizeMcv (currentBalance.balanceMcv + call.payload.fields.amountMcv)
      let audit ← (auditRecord py (call.auditArgs py createdBy balanceAfterMcv)).mapError .shared
      return .recorded audit (call.record py createdBy balanceAfterMcv audit.fields.auditHash)

/-- `record_wallet_operation`. -/
def recordWalletOperation (py : Stdlib) (s : WalletState) (call : WalletCall) :
    Except WalletError WalletOperationResponse × WalletState :=
  match startOperation py call s.operations with
  | .error e => (.error e, s)
  | .ok (.replayed record) => ((operationResponse record).mapError .shared, s)
  | .ok (.recorded audit record) =>
      let s := { s with auditLog := s.auditLog ++ [audit] }
      match addOperation s.operations record with
      | .error e => (.error (.shared e), s)
      | .ok operations =>
          let s := { s with operations := operations }
          match eventEnvelope (call.event record) with
          | .error e => (.error (.shared e), s)
          | .ok event =>
              let s := { s with published := s.published ++ [event] }
              ((operationResponse record).mapError .shared, s)

/-- `_ensure_member_read_allowed`. -/
def ensureMemberReadAllowed (context : TenantContext) (memberId : String) :
    Except SharedException Unit :=
  if context.subject = some memberId then .ok ()
  else do
    let _ ← requireAccess walletReadPolicy context
    return ()

/-- `get_wallet_balance`. -/
def getWalletBalance (s : WalletState) (context : TenantContext) (memberId : Option String) :
    Except WalletError WalletBalanceResponse := do
  let targetMemberId ← match memberId with
    | some memberId => pure memberId
    | none => (subjectOf context).mapError .shared
  (ensureMemberReadAllowed context targetMemberId).mapError .shared
  let balance ← balanceForMember s.operations context targetMemberId
  (balanceResponse balance).mapError .shared

/-- `_has_governance_read_role`. -/
def hasGovernanceReadRole (context : TenantContext) : Bool :=
  context.roles.any fun role => [councilRole, presidiumRole, boardRole].contains role

/-- `list_wallet_operations`. -/
def listWalletOperations (s : WalletState) (context : TenantContext)
    (memberId refType refId : Option String) (limit offset : ℕ) :
    Except WalletError (List WalletOperationResponse) := do
  let targetMemberId ← match memberId with
    | some memberId => pure (some memberId)
    | none =>
        if hasGovernanceReadRole context = true then pure none
        else some <$> (subjectOf context).mapError .shared
  match targetMemberId with
  | some memberId => (ensureMemberReadAllowed context memberId).mapError .shared
  | none => do
      let _ ← (requireAccess walletReadPolicy context).mapError .shared
  let records ← (listOperations s.operations context targetMemberId refType refId limit
    offset).mapError .shared
  (records.mapM operationResponse).mapError .shared

end MediaCenter.Wallet
