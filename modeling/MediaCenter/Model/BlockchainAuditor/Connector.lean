import MediaCenter.Library.Dict
import MediaCenter.Library.ExceptList
import MediaCenter.Model.Shared.Models

/-!
# Blockchain audit transport (`blockchain_auditor/connector.py`)

The in-memory transport keeps one record for each `(tenant_id, event_id)`.  Its methods do not
await, so a call is one step of the store.
-/

set_option autoImplicit false

namespace MediaCenter.BlockchainAuditor

open MediaCenter.Library MediaCenter.Shared

/-! ## Contracts -/

structure CommandFields where
  tenantId : String
  eventId : String
  eventType : String
  auditHash : String
  occurredAt : Instant
  correlationId : Option String
  metadata : JSONObject

def CommandFields.checks (f : CommandFields) : List (String × Bool) :=
  [("tenant_id", tenantIdPattern f.tenantId),
    ("event_id", tokenPattern f.eventId),
    ("event_type", isEventType f.eventType),
    ("audit_hash", auditHashPattern f.auditHash),
    ("correlation_id", optionalField tokenPattern f.correlationId)]

abbrev AuditRecordCommand : Type := Validated CommandFields.checks

/-- `(command.tenant_id, command.event_id)`. -/
def AuditRecordCommand.key (command : AuditRecordCommand) : String × String :=
  (command.fields.tenantId, command.fields.eventId)

/-- `^[a-z][a-z0-9_-]{0,63}$` (`_CONNECTOR_NAME_PATTERN`). -/
def connectorNamePattern (s : String) : Bool :=
  Text.matchesHeadTail Text.isAsciiLower
    (fun c => Text.isAsciiLower c || Text.isAsciiDigit c || c == '_' || c == '-') 63 s

structure ReceiptFields where
  tenantId : String
  eventId : String
  auditHash : String
  blockRef : String
  connectorName : String
  recordedAt : Instant

namespace ReceiptFields

def checks (f : ReceiptFields) : List (String × Bool) :=
  [("tenant_id", tenantIdPattern f.tenantId),
    ("event_id", tokenPattern f.eventId),
    ("audit_hash", auditHashPattern f.auditHash),
    ("block_ref", hasLength 1 512 (Text.trim f.blockRef)),
    ("connector_name", connectorNamePattern f.connectorName)]

/-- `str_strip_whitespace` of the texts. -/
def stripped (f : ReceiptFields) : ReceiptFields where
  tenantId := Text.trim f.tenantId
  eventId := Text.trim f.eventId
  auditHash := Text.trim f.auditHash
  blockRef := Text.trim f.blockRef
  connectorName := Text.trim f.connectorName
  recordedAt := f.recordedAt

end ReceiptFields

abbrev AuditRecordReceipt : Type := Validated ReceiptFields.checks

/-- An `AuditRecord` is a receipt with the fields of the event. -/
structure RecordFields where
  receipt : ReceiptFields
  eventType : String
  occurredAt : Instant
  correlationId : Option String
  metadata : JSONObject

def RecordFields.checks (f : RecordFields) : List (String × Bool) :=
  f.receipt.checks ++
    [("event_type", isEventType f.eventType),
      ("correlation_id", optionalField tokenPattern f.correlationId)]

abbrev AuditRecord : Type := Validated RecordFields.checks

def auditRecord (f : RecordFields) : Except SharedException AuditRecord :=
  Validated.make "AuditRecord" RecordFields.checks
    { f with
      receipt := f.receipt.stripped
      eventType := Text.trim f.eventType
      correlationId := f.correlationId.map Text.trim }

def auditRecordReceipt (f : ReceiptFields) : Except SharedException AuditRecordReceipt :=
  Validated.make "AuditRecordReceipt" ReceiptFields.checks f.stripped

/-! ## The transport -/

inductive BlockchainAuditError : Type where
  | auditRecordConflict (message : String)
  | shared (e : SharedException)
  | indexError (message : String)
  deriving DecidableEq, Repr

abbrev AuditRecords : Type := Dict (String × String) AuditRecord

structure InMemoryGrpcBlockchainAuditTransport where
  connectorName : String
  records : AuditRecords
  recordRequests : List AuditRecordCommand
  batchRecordRequests : List (List AuditRecordCommand)

/-- `_block_ref`. -/
def blockRef (endpointUrl tenantId eventId : String) : String :=
  String.ofList (endpointUrl.toList.rdropWhile (· == '/')) ++ "/audit/" ++ tenantId ++ "/" ++
    eventId

/-- What `_record_for_command` gives to `AuditRecord` for a new event. -/
def newRecordFields (endpointUrl connectorName : String) (command : AuditRecordCommand) :
    RecordFields where
  receipt :=
    { tenantId := command.fields.tenantId
      eventId := command.fields.eventId
      auditHash := command.fields.auditHash
      blockRef := blockRef endpointUrl command.fields.tenantId command.fields.eventId
      connectorName := connectorName
      recordedAt := command.fields.occurredAt }
  eventType := command.fields.eventType
  occurredAt := command.fields.occurredAt
  correlationId := command.fields.correlationId
  metadata := command.fields.metadata

/-- `_record_for_command`. -/
def recordForCommand (endpointUrl connectorName : String) (command : AuditRecordCommand)
    (stagedRecords : AuditRecords) : Except BlockchainAuditError AuditRecord :=
  match stagedRecords.get? command.key with
  | some existing =>
      if existing.fields.receipt.auditHash ≠ command.fields.auditHash then
        .error (.auditRecordConflict "event_id уже записан с другим audit_hash")
      else .ok existing
  | none => (auditRecord (newRecordFields endpointUrl connectorName command)).mapError .shared

/-- `_receipt_from_record`. -/
def receiptFromRecord (record : AuditRecord) : Except BlockchainAuditError AuditRecordReceipt :=
  (auditRecordReceipt record.fields.receipt).mapError .shared

/-- The locals of the loop in `_record_batch`. -/
structure StagedBatch where
  stagedRecords : AuditRecords
  newRecords : AuditRecords
  receipts : List AuditRecordReceipt

/-- One round of the loop. -/
def stageCommand (endpointUrl connectorName : String) (records : AuditRecords)
    (batch : StagedBatch) (command : AuditRecordCommand) :
    Except BlockchainAuditError StagedBatch := do
  let record ← recordForCommand endpointUrl connectorName command batch.stagedRecords
  let stagedRecords := batch.stagedRecords.set command.key record
  let newRecords :=
    if records.contains command.key then batch.newRecords
    else batch.newRecords.set command.key record
  let receipt ← receiptFromRecord record
  return ⟨stagedRecords, newRecords, batch.receipts ++ [receipt]⟩

/-- `_record_batch`: the receipts, and the records after the merge. -/
def recordBatch (endpointUrl connectorName : String) (commands : List AuditRecordCommand)
    (records : AuditRecords) :
    Except BlockchainAuditError (List AuditRecordReceipt × AuditRecords) := do
  let batch ← commands.foldlM (stageCommand endpointUrl connectorName records)
    ⟨records, .empty, []⟩
  return (batch.receipts, records.update batch.newRecords)

namespace InMemoryGrpcBlockchainAuditTransport

/-- A batch on the records of the transport; an exception leaves them. -/
def store (endpointUrl : String) (commands : List AuditRecordCommand)
    (transport : InMemoryGrpcBlockchainAuditTransport) :
    Except BlockchainAuditError (List AuditRecordReceipt) ×
      InMemoryGrpcBlockchainAuditTransport :=
  match recordBatch endpointUrl transport.connectorName commands transport.records with
  | .ok (receipts, records) => (.ok receipts, { transport with records := records })
  | .error e => (.error e, transport)

/-- `record_audit_hashes`. -/
def recordAuditHashes (endpointUrl : String) (commands : List AuditRecordCommand)
    (transport : InMemoryGrpcBlockchainAuditTransport) :
    Except BlockchainAuditError (List AuditRecordReceipt) ×
      InMemoryGrpcBlockchainAuditTransport :=
  store endpointUrl commands
    { transport with batchRecordRequests := transport.batchRecordRequests ++ [commands] }

/-- `record_audit_hash`. -/
def recordAuditHash (endpointUrl : String) (command : AuditRecordCommand)
    (transport : InMemoryGrpcBlockchainAuditTransport) :
    Except BlockchainAuditError AuditRecordReceipt × InMemoryGrpcBlockchainAuditTransport :=
  match store endpointUrl [command]
      { transport with recordRequests := transport.recordRequests ++ [command] } with
  | (.ok (receipt :: _), transport') => (.ok receipt, transport')
  | (.ok [], transport') => (.error (.indexError "tuple index out of range"), transport')
  | (.error e, transport') => (.error e, transport')

end InMemoryGrpcBlockchainAuditTransport

end MediaCenter.BlockchainAuditor
