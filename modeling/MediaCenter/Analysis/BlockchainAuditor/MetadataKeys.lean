import MediaCenter.Analysis.BlockchainAuditor.AuditBatches
import MediaCenter.Analysis.Shared.SortedJson
import MediaCenter.Library.Unwinding
import MediaCenter.Model.BlockchainAuditor.MetadataPolicy
import MediaCenter.Model.Shared.Reference

/-!
# Keys of chain metadata

The search for a forbidden key looks at every object of the metadata.  The connector makes it
for every command before the transport sees any, so that no record has a forbidden key, and a
batch with one such command changes nothing.
-/

set_option autoImplicit false

namespace MediaCenter.BlockchainAuditor

open MediaCenter.Library MediaCenter.Shared

section Values

variable (py : Stdlib)

mutual

/-- No object in the value has a forbidden key, at any depth. -/
def Permitted : JSONValue → Prop
  | .dict items => PermittedPairs items
  | .list items => PermittedItems items
  | .null => True
  | .bool _ => True
  | .int _ => True
  | .float _ => True
  | .str _ => True

def PermittedItems : List JSONValue → Prop
  | [] => True
  | item :: rest => Permitted item ∧ PermittedItems rest

def PermittedPairs : JSONObject → Prop
  | [] => True
  | (key, item) :: rest =>
      normalizeMetadataKey py key ∉ forbiddenMetadataKeys ∧ Permitted item ∧ PermittedPairs rest

end

theorem permittedPairs_iff (items : JSONObject) : PermittedPairs py items ↔
    ∀ e ∈ items, normalizeMetadataKey py e.1 ∉ forbiddenMetadataKeys ∧ Permitted py e.2 := by
  induction items with
  | nil =>
      rw [PermittedPairs]
      exact ⟨fun _ e he => (by cases he), fun _ => trivial⟩
  | cons e items ih =>
      obtain ⟨key, item⟩ := e
      rw [PermittedPairs, ih, List.forall_mem_cons, and_assoc]

/-! ## The search is complete -/

mutual

theorem findForbiddenMetadataKey_eq_none_iff : ∀ (value : JSONValue) (path : String),
    findForbiddenMetadataKey py path value = none ↔ Permitted py value
  | .dict items, path => by
      rw [findForbiddenMetadataKey, Permitted]
      exact findForbiddenInItems_eq_none_iff items path
  | .list items, path => by
      rw [findForbiddenMetadataKey, Permitted]
      exact findForbiddenInList_eq_none_iff items path 0
  | .null, _ => ⟨fun _ => trivial, fun _ => rfl⟩
  | .bool _, _ => ⟨fun _ => trivial, fun _ => rfl⟩
  | .int _, _ => ⟨fun _ => trivial, fun _ => rfl⟩
  | .float _, _ => ⟨fun _ => trivial, fun _ => rfl⟩
  | .str _, _ => ⟨fun _ => trivial, fun _ => rfl⟩

theorem findForbiddenInList_eq_none_iff : ∀ (items : List JSONValue) (path : String) (index : ℕ),
    findForbiddenInList py path index items = none ↔ PermittedItems py items
  | [], _, _ => ⟨fun _ => trivial, fun _ => rfl⟩
  | item :: rest, path, index => by
      have hitem := findForbiddenMetadataKey_eq_none_iff item
        (path ++ "[" ++ toString index ++ "]")
      have hrest := findForbiddenInList_eq_none_iff rest path (index + 1)
      rw [findForbiddenInList, PermittedItems, ← hitem]
      cases findForbiddenMetadataKey py (path ++ "[" ++ toString index ++ "]") item with
      | none => simpa using hrest
      | some nestedPath => simp

theorem findForbiddenInItems_eq_none_iff : ∀ (items : JSONObject) (path : String),
    findForbiddenInItems py path items = none ↔ PermittedPairs py items
  | [], _ => ⟨fun _ => trivial, fun _ => rfl⟩
  | (key, item) :: rest, path => by
      have hitem := findForbiddenMetadataKey_eq_none_iff item (path ++ "." ++ key)
      have hrest := findForbiddenInItems_eq_none_iff rest path
      rw [findForbiddenInItems, PermittedPairs, ← hitem]
      by_cases hkey : normalizeMetadataKey py key ∈ forbiddenMetadataKeys
      · simp [hkey]
      · simp only [hkey, if_false, not_false_eq_true, true_and]
        cases findForbiddenMetadataKey py (path ++ "." ++ key) item with
        | none => simpa using hrest
        | some nestedPath => simp

end

/-! ## The order of keys does not matter -/

theorem permittedPairs_perm {items items' : JSONObject} (h : items.Perm items') :
    PermittedPairs py items ↔ PermittedPairs py items' := by
  rw [permittedPairs_iff, permittedPairs_iff]
  constructor
  · intro hitems e he
    exact hitems e (h.symm.subset he)
  · intro hitems e he
    exact hitems e (h.subset he)

mutual

theorem permitted_sorted_iff : ∀ value : JSONValue, Permitted py value.sorted ↔ Permitted py value
  | .dict items => by
      rw [JSONValue.sorted, Permitted, Permitted, permittedPairs_perm py (perm_sortKeys _)]
      exact permittedPairs_sortedPairs_iff items
  | .list items => by
      rw [JSONValue.sorted, Permitted, Permitted]
      exact permittedItems_sorted_iff items
  | .null => by rw [JSONValue.sorted]
  | .bool _ => by rw [JSONValue.sorted]
  | .int _ => by rw [JSONValue.sorted]
  | .float _ => by rw [JSONValue.sorted]
  | .str _ => by rw [JSONValue.sorted]

theorem permittedItems_sorted_iff : ∀ items : List JSONValue,
    PermittedItems py (JSONValue.sortedItems items) ↔ PermittedItems py items
  | [] => by rw [JSONValue.sortedItems]
  | item :: rest => by
      rw [JSONValue.sortedItems, PermittedItems, PermittedItems, permitted_sorted_iff item,
        permittedItems_sorted_iff rest]

theorem permittedPairs_sortedPairs_iff : ∀ items : JSONObject,
    PermittedPairs py (JSONValue.sortedPairs items) ↔ PermittedPairs py items
  | [] => by rw [JSONValue.sortedPairs]
  | (key, item) :: rest => by
      rw [JSONValue.sortedPairs, PermittedPairs, PermittedPairs, permitted_sorted_iff item,
        permittedPairs_sortedPairs_iff rest]

end

/-! ## The check -/

end Values

/-! ## What is stored -/

section Stores

variable (py : Stdlib) {endpointUrl connectorName : String} {commands : List AuditRecordCommand}
  {command : AuditRecordCommand} {record : AuditRecord} {records stored : AuditRecords}
  {transport : InMemoryGrpcBlockchainAuditTransport}

def RecordsPermitted (records : AuditRecords) : Prop :=
  ∀ k r, records.get? k = some r → Permitted py (.dict r.fields.metadata)

theorem metadata_of_newRecord
    (h : auditRecord (newRecordFields endpointUrl connectorName command) = .ok record) :
    record.fields.metadata = command.fields.metadata := by
  unfold auditRecord at h
  rw [Validated.make_eq_ok_iff] at h
  rw [h]
  rfl

theorem RecordsPermitted.stage {receipts : List AuditRecordReceipt}
    (hrecords : RecordsPermitted py records)
    (hcommands : ∀ command ∈ commands, Permitted py (.dict command.fields.metadata))
    (h : BlockchainAuditor.stage endpointUrl connectorName commands records =
      .ok (receipts, stored)) : RecordsPermitted py stored := by
  intro k r hr
  rcases (staged_of_stage h).added k r hr with hold | ⟨command, hcommand, _, hnew⟩
  · exact hrecords k r hold
  · rw [metadata_of_newRecord hnew]
    exact hcommands command hcommand

theorem RecordsPermitted.store (hrecords : RecordsPermitted py transport.records)
    (hcommands : ∀ command ∈ commands, Permitted py (.dict command.fields.metadata)) :
    RecordsPermitted py (transport.store endpointUrl commands).2.records := by
  unfold InMemoryGrpcBlockchainAuditTransport.store
  rw [recordBatch_eq_stage]
  cases h : BlockchainAuditor.stage endpointUrl transport.connectorName commands
      transport.records with
  | error e => exact hrecords
  | ok result =>
      obtain ⟨receipts, stored⟩ := result
      exact hrecords.stage py hcommands h

theorem RecordsPermitted.recordAuditHash (hrecords : RecordsPermitted py transport.records)
    (hcommand : Permitted py (.dict command.fields.metadata)) :
    RecordsPermitted py (transport.recordAuditHash endpointUrl command).2.records := by
  have hstore := @RecordsPermitted.store py endpointUrl [command]
    { transport with recordRequests := transport.recordRequests ++ [command] } hrecords
    fun c hc => by
      rw [List.mem_singleton.mp hc]
      exact hcommand
  unfold InMemoryGrpcBlockchainAuditTransport.recordAuditHash
  cases h : InMemoryGrpcBlockchainAuditTransport.store endpointUrl [command]
      { transport with recordRequests := transport.recordRequests ++ [command] } with
  | mk result transport' =>
      rw [h] at hstore
      rcases result with e | (_ | ⟨receipt, rest⟩) <;> exact hstore

/-! ## The connector -/

end Stores

end MediaCenter.BlockchainAuditor
