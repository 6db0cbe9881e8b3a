import MediaCenter.Model.BlockchainAuditor.Connector

/-!
# Audit batches

A batch is staged in a copy and its new records are merged at the end.  The copy and the merged
store turn out equal, so a batch does what its commands do one by one, unless one of them
raises: then nothing is stored.
-/

set_option autoImplicit false

namespace MediaCenter.BlockchainAuditor

open MediaCenter.Library MediaCenter.Shared

/-! ## New records -/

section Records

variable {endpointUrl connectorName : String} {command : AuditRecordCommand}
  {record : AuditRecord} {records : AuditRecords}

/-- The two fields of a new record that its command does not vouch for. -/
def Recordable (endpointUrl connectorName : String) (command : AuditRecordCommand) : Prop :=
  hasLength 1 512 (Text.trim
      (blockRef endpointUrl command.fields.tenantId command.fields.eventId)) = true ∧
    connectorNamePattern (Text.trim connectorName) = true

theorem trim_trim (s : String) : Text.trim (Text.trim s) = Text.trim s :=
  Text.dropBoth_dropBoth _ s

/-- INTERNAL: what a command's own checks say. -/
theorem AuditRecordCommand.valid_fields (command : AuditRecordCommand) :
    tenantIdPattern command.fields.tenantId = true ∧ tokenPattern command.fields.eventId = true ∧
      isEventType command.fields.eventType = true ∧
      auditHashPattern command.fields.auditHash = true ∧
      optionalField tokenPattern command.fields.correlationId = true := by
  have hvalid := command.valid
  simp only [CommandFields.checks, List.forall_mem_cons] at hvalid
  exact ⟨hvalid.1, hvalid.2.1, hvalid.2.2.1, hvalid.2.2.2.1, hvalid.2.2.2.2.1⟩

theorem exists_newRecord_iff (endpointUrl connectorName : String) (command : AuditRecordCommand) :
    (∃ record, auditRecord (newRecordFields endpointUrl connectorName command) = .ok record) ↔
      Recordable endpointUrl connectorName command := by
  obtain ⟨htenant, hevent, htype, hhash, hcorrelation⟩ := command.valid_fields
  unfold auditRecord Recordable
  rw [Validated.exists_make_eq_ok_iff]
  simp only [RecordFields.checks, ReceiptFields.checks, ReceiptFields.stripped, newRecordFields,
    trim_of_tokenPattern (tokenPattern_of_tenantIdPattern htenant), trim_of_tokenPattern hevent,
    trim_of_isEventType htype, trim_of_auditHashPattern hhash,
    map_trim_of_optionalField hcorrelation, trim_trim, htenant, hevent, htype, hhash,
    hcorrelation]
  simp

theorem auditHash_of_newRecord
    (h : auditRecord (newRecordFields endpointUrl connectorName command) = .ok record) :
    record.fields.receipt.auditHash = command.fields.auditHash ∧
      record.fields.receipt.tenantId = command.fields.tenantId ∧
      record.fields.receipt.eventId = command.fields.eventId := by
  obtain ⟨htenant, hevent, _, hhash, _⟩ := command.valid_fields
  unfold auditRecord at h
  rw [Validated.make_eq_ok_iff] at h
  rw [h]
  exact ⟨trim_of_auditHashPattern hhash,
    trim_of_tokenPattern (tokenPattern_of_tenantIdPattern htenant), trim_of_tokenPattern hevent⟩

theorem trim_of_connectorNamePattern {s : String} (h : connectorNamePattern s = true) :
    Text.trim s = s := by
  apply Text.trim_of_forall_visible
  intro c hc
  rcases Text.forall_of_matchesHeadTail h c hc with hhead | htail
  · apply Text.visible_of_isAsciiAlnum
    simp [Text.isAsciiAlnum, hhead]
  · simp only [Bool.or_eq_true, beq_iff_eq] at htail
    rcases htail with ((hletter | hdigit) | rfl) | rfl
    · apply Text.visible_of_isAsciiAlnum
      simp [Text.isAsciiAlnum, hletter]
    · apply Text.visible_of_isAsciiAlnum
      simp [Text.isAsciiAlnum, hdigit]
    all_goals exact ⟨by decide, by decide⟩

/-- INTERNAL: a record always has a receipt: it has passed the same checks. -/
theorem exists_receiptFromRecord (record : AuditRecord) :
    ∃ receipt, receiptFromRecord record = .ok receipt := by
  have hvalid := record.valid
  simp only [RecordFields.checks, ReceiptFields.checks, List.cons_append, List.nil_append,
    List.forall_mem_cons] at hvalid
  obtain ⟨htenant, hevent, hhash, hblock, hname, _⟩ := hvalid
  unfold receiptFromRecord auditRecordReceipt
  simp only [mapError_eq_ok_iff]
  rw [Validated.exists_make_eq_ok_iff]
  simp only [ReceiptFields.checks, ReceiptFields.stripped,
    trim_of_tokenPattern (tokenPattern_of_tenantIdPattern htenant), trim_of_tokenPattern hevent,
    trim_of_auditHashPattern hhash, trim_of_connectorNamePattern hname, trim_trim, htenant,
    hevent, hhash, hblock, hname]
  simp

end Records

/-! ## Staging

The loop of a batch, without its copy: every command sees the records of those before it. -/

section Staging

variable {endpointUrl connectorName : String} {commands : List AuditRecordCommand}
  {command : AuditRecordCommand} {record : AuditRecord} {records stored : AuditRecords}
  {receipts : List AuditRecordReceipt}

def stage (endpointUrl connectorName : String) : List AuditRecordCommand → AuditRecords →
    Except BlockchainAuditError (List AuditRecordReceipt × AuditRecords)
  | [], records => .ok ([], records)
  | command :: commands, records => do
      let record ← recordForCommand endpointUrl connectorName command records
      let receipt ← receiptFromRecord record
      let (receipts, stored) ←
        stage endpointUrl connectorName commands (records.set command.key record)
      return (receipt :: receipts, stored)

/-- INTERNAL: a command gets the record of its key, or a new one. -/
theorem recordForCommand_eq_ok_iff :
    recordForCommand endpointUrl connectorName command records = .ok record ↔
      (records.get? command.key = some record ∧
        record.fields.receipt.auditHash = command.fields.auditHash) ∨
      (records.get? command.key = none ∧
        auditRecord (newRecordFields endpointUrl connectorName command) = .ok record) := by
  unfold recordForCommand
  cases hget : records.get? command.key with
  | none =>
      simp only [mapError_eq_ok_iff]
      simp
  | some existing =>
      by_cases hhash : existing.fields.receipt.auditHash = command.fields.auditHash
      · simp only [ne_eq, hhash, not_true_eq_false, if_false]
        constructor
        · intro h
          cases h
          exact .inl ⟨rfl, hhash⟩
        · rintro (⟨h, _⟩ | ⟨h, _⟩)
          · rw [Option.some.injEq] at h
            rw [h]
          · cases h
      · simp only [ne_eq, hhash, not_false_eq_true, if_true]
        constructor
        · intro h
          cases h
        · rintro (⟨h, h'⟩ | ⟨h, _⟩)
          · rw [Option.some.injEq] at h
            rw [h] at hhash
            exact absurd h' hhash
          · cases h

theorem auditHash_of_recordForCommand
    (h : recordForCommand endpointUrl connectorName command records = .ok record) :
    record.fields.receipt.auditHash = command.fields.auditHash := by
  rcases recordForCommand_eq_ok_iff.mp h with ⟨_, hhash⟩ | ⟨_, hnew⟩
  · exact hhash
  · exact (auditHash_of_newRecord hnew).1

theorem stage_cons_eq_ok_iff {result : List AuditRecordReceipt × AuditRecords} :
    stage endpointUrl connectorName (command :: commands) records = .ok result ↔
      ∃ record receipt receipts, recordForCommand endpointUrl connectorName command records =
          .ok record ∧ receiptFromRecord record = .ok receipt ∧
        stage endpointUrl connectorName commands (records.set command.key record) =
          .ok (receipts, result.2) ∧ result.1 = receipt :: receipts := by
  rw [stage]
  simp only [bind_eq_ok_iff]
  constructor
  · rintro ⟨record, hrecord, receipt, hreceipt, ⟨receipts, stored⟩, hstage, h⟩
    cases h
    exact ⟨record, receipt, receipts, hrecord, hreceipt, hstage, rfl⟩
  · rintro ⟨record, receipt, receipts, hrecord, hreceipt, hstage, hresult⟩
    refine ⟨record, hrecord, receipt, hreceipt, (receipts, result.2), hstage, ?_⟩
    rw [← hresult]
    rfl

/-- The record and the receipt of a command, in a store that has both. -/
def Recorded (stored : AuditRecords) (command : AuditRecordCommand)
    (receipt : AuditRecordReceipt) : Prop :=
  ∃ record, stored.get? command.key = some record ∧
    record.fields.receipt.auditHash = command.fields.auditHash ∧
    receiptFromRecord record = .ok receipt

/-- What a staged batch leaves: the records there were, a record made from a command of the
batch under every other key, and a receipt for each command. -/
structure Staged (endpointUrl connectorName : String) (commands : List AuditRecordCommand)
    (records : AuditRecords) (receipts : List AuditRecordReceipt) (stored : AuditRecords) :
    Prop where
  kept : ∀ k r, records.get? k = some r → stored.get? k = some r
  added : ∀ k r, stored.get? k = some r → records.get? k = some r ∨
    ∃ command ∈ commands, command.key = k ∧
      auditRecord (newRecordFields endpointUrl connectorName command) = .ok r
  recorded : List.Forall₂ (Recorded stored) commands receipts

theorem staged_of_stage
    (h : stage endpointUrl connectorName commands records = .ok (receipts, stored)) :
    Staged endpointUrl connectorName commands records receipts stored := by
  induction commands generalizing records receipts with
  | nil =>
      cases h
      exact ⟨fun _ _ h => h, fun _ _ h => .inl h, List.Forall₂.nil⟩
  | cons command commands ih =>
      obtain ⟨record, receipt, rest, hrecord, hreceipt, hstage, rfl⟩ := stage_cons_eq_ok_iff.mp h
      have hrest := ih hstage
      have hstored : stored.get? command.key = some record :=
        hrest.kept _ _ (Dict.get?_set_self _ _ _)
      refine ⟨?_, ?_, ?_⟩
      · intro k r hk
        apply hrest.kept
        rw [Dict.get?_set]
        split
        · rename_i hkey
          rw [hkey] at hk
          rcases recordForCommand_eq_ok_iff.mp hrecord with ⟨hget, _⟩ | ⟨hget, _⟩
          · rw [← hget, hk]
          · rw [hget] at hk
            cases hk
        · exact hk
      · intro k r hk
        rcases hrest.added k r hk with hset | ⟨c, hc, hkey, hnew⟩
        · rw [Dict.get?_set] at hset
          split at hset
          · rename_i hkey
            cases hset
            rcases recordForCommand_eq_ok_iff.mp hrecord with ⟨hget, _⟩ | ⟨_, hnew⟩
            · rw [hkey]
              exact .inl hget
            · exact .inr ⟨command, List.mem_cons_self, hkey.symm, hnew⟩
          · exact .inl hset
        · exact .inr ⟨c, List.mem_cons_of_mem _ hc, hkey, hnew⟩
      · exact List.Forall₂.cons
          ⟨record, hstored, auditHash_of_recordForCommand hrecord, hreceipt⟩ hrest.recorded

/-- INTERNAL: a batch that is stored already is staged without a change. -/
theorem stage_of_recorded (h : List.Forall₂ (Recorded stored) commands receipts) :
    stage endpointUrl connectorName commands stored = .ok (receipts, stored) := by
  induction h with
  | nil => rfl
  | cons hhead _ ih =>
      obtain ⟨record, hget, hhash, hreceipt⟩ := hhead
      rw [stage_cons_eq_ok_iff]
      refine ⟨record, _, _, recordForCommand_eq_ok_iff.mpr (.inl ⟨hget, hhash⟩), hreceipt, ?_, rfl⟩
      rw [Dict.set_of_get?_eq_some hget]
      exact ih

/-! ## The loop of the source -/

/-- INTERNAL: the copy is the stored records followed by the new ones; one round keeps that. -/
theorem stageCommand_entries {batch batch' : StagedBatch}
    (hentries : batch.stagedRecords.entries = records.entries ++ batch.newRecords.entries)
    (h : stageCommand endpointUrl connectorName records batch command = .ok batch') :
    batch'.stagedRecords.entries = records.entries ++ batch'.newRecords.entries := by
  unfold stageCommand at h
  simp only [bind_eq_ok_iff] at h
  obtain ⟨record, hrecord, receipt, _, h⟩ := h
  cases h
  have hmem : ∀ r, batch.stagedRecords.get? command.key = some r →
      records.get? command.key = some r ∨ batch.newRecords.get? command.key = some r := by
    intro r hr
    rw [Dict.get?_eq_some_iff, hentries, List.mem_append] at hr
    rw [Dict.get?_eq_some_iff, Dict.get?_eq_some_iff]
    exact hr
  rcases recordForCommand_eq_ok_iff.mp hrecord with ⟨hget, _⟩ | ⟨hget, _⟩
  · -- a known key: neither the copy nor the new records change
    simp only [Dict.set_of_get?_eq_some hget]
    split
    · exact hentries
    · rename_i hcontains
      rcases hmem record hget with hold | hnew
      · exact absurd (Dict.contains_iff_exists.mpr ⟨record, hold⟩) hcontains
      · rw [Dict.set_of_get?_eq_some hnew]
        exact hentries
  · -- a new key: both get the record at their ends
    have habsent : ∀ d : AuditRecords, (∀ e ∈ d.entries, e ∈ batch.stagedRecords.entries) →
        ¬ d.contains command.key = true := by
      intro d hd hcontains
      obtain ⟨r, hr⟩ := Dict.contains_iff_exists.mp hcontains
      have hstaged := Dict.get?_eq_some_iff.mpr (hd _ (Dict.get?_eq_some_iff.mp hr))
      rw [hget] at hstaged
      cases hstaged
    have hrecords : ¬ records.contains command.key = true :=
      habsent records fun e he => by rw [hentries]; exact List.mem_append_left _ he
    have hnew : ¬ batch.newRecords.contains command.key = true :=
      habsent batch.newRecords fun e he => by rw [hentries]; exact List.mem_append_right _ he
    have hstaged : ¬ batch.stagedRecords.contains command.key = true :=
      habsent batch.stagedRecords fun e he => he
    simp only [if_neg hrecords]
    rw [Dict.entries_set_of_not_contains hstaged, Dict.entries_set_of_not_contains hnew, hentries,
      List.append_assoc]

theorem foldlM_stageCommand {batch : StagedBatch}
    (hentries : batch.stagedRecords.entries = records.entries ++ batch.newRecords.entries) :
    match commands.foldlM (stageCommand endpointUrl connectorName records) batch with
    | .error e => stage endpointUrl connectorName commands batch.stagedRecords = .error e
    | .ok batch' => ∃ receipts, stage endpointUrl connectorName commands batch.stagedRecords =
          .ok (receipts, batch'.stagedRecords) ∧ batch'.receipts = batch.receipts ++ receipts ∧
        batch'.stagedRecords.entries = records.entries ++ batch'.newRecords.entries := by
  induction commands generalizing batch with
  | nil => exact ⟨[], rfl, (List.append_nil _).symm, hentries⟩
  | cons command commands ih =>
      rw [List.foldlM_cons, stage]
      cases hrecord : recordForCommand endpointUrl connectorName command batch.stagedRecords with
      | error e =>
          have hstep : stageCommand endpointUrl connectorName records batch command = .error e := by
            unfold stageCommand
            rw [hrecord]
            rfl
          rw [hstep]
          rfl
      | ok record =>
          obtain ⟨receipt, hreceipt⟩ := exists_receiptFromRecord record
          obtain ⟨batch', hstep, hstaged, hreceipts⟩ : ∃ batch',
              stageCommand endpointUrl connectorName records batch command = .ok batch' ∧
                batch'.stagedRecords = batch.stagedRecords.set command.key record ∧
                batch'.receipts = batch.receipts ++ [receipt] := by
            unfold stageCommand
            rw [hrecord]
            simp only [bind, Except.bind, hreceipt]
            exact ⟨_, rfl, rfl, rfl⟩
          have hrest := ih (stageCommand_entries hentries hstep)
          rw [hstaged] at hrest
          rw [hstep]
          simp only [bind, Except.bind, hreceipt]
          cases hfold : commands.foldlM (stageCommand endpointUrl connectorName records) batch' with
          | error e =>
              rw [hfold] at hrest
              simp only [hrest]
          | ok batch'' =>
              rw [hfold] at hrest
              obtain ⟨receipts, hstage, hreceipts', hentries'⟩ := hrest
              simp only [hstage]
              refine ⟨receipt :: receipts, rfl, ?_, hentries'⟩
              rw [hreceipts', hreceipts, List.append_assoc, List.singleton_append]

/-- The batch of the source is the batch without a copy. -/
theorem recordBatch_eq_stage (endpointUrl connectorName : String)
    (commands : List AuditRecordCommand) (records : AuditRecords) :
    recordBatch endpointUrl connectorName commands records =
      stage endpointUrl connectorName commands records := by
  have hstart : records.entries = records.entries ++ (Dict.empty : AuditRecords).entries :=
    (List.append_nil _).symm
  have hfold := @foldlM_stageCommand endpointUrl connectorName commands records
    ⟨records, .empty, []⟩ hstart
  unfold recordBatch
  cases h : commands.foldlM (stageCommand endpointUrl connectorName records)
      ⟨records, .empty, []⟩ with
  | error e =>
      rw [h] at hfold
      exact hfold.symm
  | ok batch =>
      rw [h] at hfold
      obtain ⟨receipts, hstage, hreceipts, hentries⟩ := hfold
      rw [List.nil_append] at hreceipts
      rw [hstage]
      show Except.ok (batch.receipts, records.update batch.newRecords) = _
      rw [Dict.update_eq_of_entries hentries, hreceipts]

/-! ## When a batch is refused -/

/-- Two commands, or a command and a stored record, share a key but not a hash. -/
def Conflicting (commands : List AuditRecordCommand) (records : AuditRecords) : Prop :=
  (∃ command ∈ commands, ∃ record, records.get? command.key = some record ∧
    record.fields.receipt.auditHash ≠ command.fields.auditHash) ∨
  ∃ command ∈ commands, ∃ command' ∈ commands, command.key = command'.key ∧
    command.fields.auditHash ≠ command'.fields.auditHash

/-- The record of some missing key is itself refused. -/
def Unrecordable (endpointUrl connectorName : String) (commands : List AuditRecordCommand)
    (records : AuditRecords) : Prop :=
  ∃ command ∈ commands, records.get? command.key = none ∧
    ¬ Recordable endpointUrl connectorName command

theorem recordable_of_key_eq {command command' : AuditRecordCommand}
    (hkey : command.key = command'.key) (h : Recordable endpointUrl connectorName command) :
    Recordable endpointUrl connectorName command' := by
  unfold AuditRecordCommand.key at hkey
  rw [Prod.mk.injEq] at hkey
  unfold Recordable at h ⊢
  rw [← hkey.1, ← hkey.2]
  exact h

theorem not_refused_of_staged
    (h : Staged endpointUrl connectorName commands records receipts stored) :
    ¬ Conflicting commands records ∧ ¬ Unrecordable endpointUrl connectorName commands records := by
  have hrecorded : ∀ command ∈ commands, ∃ record, stored.get? command.key = some record ∧
      record.fields.receipt.auditHash = command.fields.auditHash := by
    intro command hcommand
    obtain ⟨i, hi, rfl⟩ := List.getElem_of_mem hcommand
    have hi' : i < receipts.length := by
      rw [← h.recorded.length_eq]
      exact hi
    obtain ⟨record, hget, hhash, _⟩ := List.Forall₂.get h.recorded hi hi'
    exact ⟨record, hget, hhash⟩
  refine ⟨?_, ?_⟩
  · rintro (⟨command, hcommand, record, hget, hne⟩ | ⟨command, hcommand, command', hcommand', hkey, hne⟩)
    · obtain ⟨record', hget', hhash⟩ := hrecorded command hcommand
      rw [h.kept _ _ hget, Option.some.injEq] at hget'
      rw [hget'] at hne
      exact hne hhash
    · obtain ⟨record, hget, hhash⟩ := hrecorded command hcommand
      obtain ⟨record', hget', hhash'⟩ := hrecorded command' hcommand'
      rw [← hkey, hget, Option.some.injEq] at hget'
      rw [← hhash, ← hhash', hget'] at hne
      exact hne rfl
  · rintro ⟨command, hcommand, hnone, hnot⟩
    obtain ⟨record, hget, _⟩ := hrecorded command hcommand
    rcases h.added _ _ hget with hold | ⟨c, _, hkey, hnew⟩
    · rw [hnone] at hold
      cases hold
    · exact hnot (recordable_of_key_eq hkey ((exists_newRecord_iff _ _ c).mp ⟨record, hnew⟩))

/-- INTERNAL: what an exception says about the batch, by induction on the commands. -/
theorem refused_of_stage_eq_error {e : BlockchainAuditError}
    (h : stage endpointUrl connectorName commands records = .error e) :
    (e = .auditRecordConflict "event_id уже записан с другим audit_hash" ∧
      Conflicting commands records) ∨
    ((∃ x, e = .shared x) ∧ Unrecordable endpointUrl connectorName commands records) := by
  induction commands generalizing records with
  | nil => cases h
  | cons command commands ih =>
      rw [stage] at h
      cases hrecord : recordForCommand endpointUrl connectorName command records with
      | error e' =>
          rw [hrecord] at h
          cases h
          unfold recordForCommand at hrecord
          cases hget : records.get? command.key with
          | some existing =>
              rw [hget] at hrecord
              simp only at hrecord
              split at hrecord
              · rename_i hne
                cases hrecord
                exact .inl ⟨rfl, .inl ⟨command, List.mem_cons_self, existing, hget, hne⟩⟩
              · cases hrecord
          | none =>
              rw [hget] at hrecord
              cases hnew : auditRecord (newRecordFields endpointUrl connectorName command) with
              | ok record =>
                  rw [hnew] at hrecord
                  cases hrecord
              | error x =>
                  rw [hnew] at hrecord
                  cases hrecord
                  refine .inr ⟨⟨x, rfl⟩, command, List.mem_cons_self, hget, ?_⟩
                  rw [← exists_newRecord_iff, hnew]
                  rintro ⟨record, hok⟩
                  cases hok
      | ok record =>
          obtain ⟨receipt, hreceipt⟩ := exists_receiptFromRecord record
          rw [hrecord] at h
          simp only [bind, Except.bind, hreceipt] at h
          cases hstage : stage endpointUrl connectorName commands
              (records.set command.key record) with
          | ok result =>
              rw [hstage] at h
              cases h
          | error e' =>
              rw [hstage] at h
              cases h
              have hhash := auditHash_of_recordForCommand hrecord
              rcases ih hstage with ⟨he, hconflict⟩ | ⟨he, c, hc, hnone, hnot⟩
              · refine .inl ⟨he, ?_⟩
                rcases hconflict with ⟨c, hc, r, hget, hne⟩ | ⟨c, hc, c', hc', hkey, hne⟩
                · rw [Dict.get?_set] at hget
                  split at hget
                  · rename_i hkey
                    cases hget
                    refine .inr ⟨command, List.mem_cons_self, c, List.mem_cons_of_mem _ hc,
                      hkey.symm, ?_⟩
                    rw [← hhash]
                    exact hne
                  · exact .inl ⟨c, List.mem_cons_of_mem _ hc, r, hget, hne⟩
                · exact .inr ⟨c, List.mem_cons_of_mem _ hc, c', List.mem_cons_of_mem _ hc', hkey,
                    hne⟩
              · refine .inr ⟨he, c, List.mem_cons_of_mem _ hc, ?_, hnot⟩
                rw [Dict.get?_set] at hnone
                split at hnone
                · cases hnone
                · exact hnone

end Staging

/-! ## One by one -/

namespace InMemoryGrpcBlockchainAuditTransport

/-- The commands recorded one after another, up to the first that raises. -/
def recordEach (endpointUrl : String) : List AuditRecordCommand →
    InMemoryGrpcBlockchainAuditTransport →
    Except BlockchainAuditError (List AuditRecordReceipt) × InMemoryGrpcBlockchainAuditTransport
  | [], transport => (.ok [], transport)
  | command :: commands, transport =>
      match recordAuditHash endpointUrl command transport with
      | (.error e, transport') => (.error e, transport')
      | (.ok receipt, transport') =>
          match recordEach endpointUrl commands transport' with
          | (.error e, transport'') => (.error e, transport'')
          | (.ok receipts, transport'') => (.ok (receipt :: receipts), transport'')

variable {endpointUrl : String} {commands : List AuditRecordCommand}
  {transport : InMemoryGrpcBlockchainAuditTransport} {receipts : List AuditRecordReceipt}
  {stored : AuditRecords}

/-- INTERNAL: a call to record a batch, by the outcome of its stages. -/
theorem recordAuditHashes_eq : recordAuditHashes endpointUrl commands transport =
    match stage endpointUrl transport.connectorName commands transport.records with
    | .ok (receipts, records) =>
        (.ok receipts,
          { transport with
            records := records
            batchRecordRequests := transport.batchRecordRequests ++ [commands] })
    | .error e =>
        (.error e,
          { transport with batchRecordRequests := transport.batchRecordRequests ++ [commands] }) := by
  have hbatch := recordBatch_eq_stage endpointUrl transport.connectorName commands
    transport.records
  unfold recordAuditHashes store
  cases hstage : stage endpointUrl transport.connectorName commands transport.records with
  | error e => simp only [hbatch, hstage]
  | ok r => simp only [hbatch, hstage]

theorem recordAuditHash_of_stage {command : AuditRecordCommand} {receipt : AuditRecordReceipt}
    (h : stage endpointUrl transport.connectorName [command] transport.records =
      .ok ([receipt], stored)) :
    recordAuditHash endpointUrl command transport =
      (.ok receipt,
        { transport with
          records := stored
          recordRequests := transport.recordRequests ++ [command] }) := by
  have hbatch : recordBatch endpointUrl transport.connectorName [command] transport.records =
      .ok ([receipt], stored) := (recordBatch_eq_stage _ _ _ _).trans h
  unfold recordAuditHash store
  simp only [hbatch]

/-- INTERNAL: one by one the commands go through the stages of the batch. -/
theorem recordEach_of_stage
    (h : stage endpointUrl transport.connectorName commands transport.records =
      .ok (receipts, stored)) :
    recordEach endpointUrl commands transport =
      (.ok receipts,
        { transport with
          records := stored
          recordRequests := transport.recordRequests ++ commands }) := by
  induction commands generalizing transport receipts with
  | nil =>
      cases h
      rw [recordEach, List.append_nil]
  | cons command commands ih =>
      obtain ⟨record, receipt, rest, hrecord, hreceipt, hstage, rfl⟩ := stage_cons_eq_ok_iff.mp h
      have hone : stage endpointUrl transport.connectorName [command] transport.records =
          .ok ([receipt], transport.records.set command.key record) :=
        stage_cons_eq_ok_iff.mpr ⟨record, receipt, [], hrecord, hreceipt, rfl, rfl⟩
      rw [recordEach, recordAuditHash_of_stage hone]
      simp only
      rw [ih hstage, List.append_assoc, List.singleton_append]

/-- **Batches are atomic and append-only**: a batch that raises leaves the records; it raises for
a conflict, or because the record of a missing key is refused; a batch that returns has a
receipt for each command in order, adds exactly the missing keys, keeps every record, does what
its commands do one by one, and changes nothing when it is recorded again. -/
theorem recordAuditHashes_atomic (endpointUrl : String) (commands : List AuditRecordCommand)
    (transport : InMemoryGrpcBlockchainAuditTransport) :
    let outcome := recordAuditHashes endpointUrl commands transport
    (∀ e, outcome.1 = .error e → outcome.2.records = transport.records ∧
      (e = .auditRecordConflict "event_id уже записан с другим audit_hash" ∧
          Conflicting commands transport.records ∨
        (∃ x, e = .shared x) ∧
          Unrecordable endpointUrl transport.connectorName commands transport.records)) ∧
    ((∃ e, outcome.1 = .error e) ↔ Conflicting commands transport.records ∨
      Unrecordable endpointUrl transport.connectorName commands transport.records) ∧
    (∀ receipts, outcome.1 = .ok receipts →
      List.Forall₂ (Recorded outcome.2.records) commands receipts ∧
      (∀ k r, transport.records.get? k = some r → outcome.2.records.get? k = some r) ∧
      (∀ k, outcome.2.records.contains k = true ↔
        transport.records.contains k = true ∨ ∃ command ∈ commands, command.key = k) ∧
      (∃ requests, recordEach endpointUrl commands transport =
        (.ok receipts,
          { transport with records := outcome.2.records, recordRequests := requests })) ∧
      ∀ endpointUrl', (recordAuditHashes endpointUrl' commands outcome.2).1 = .ok receipts ∧
        (recordAuditHashes endpointUrl' commands outcome.2).2.records = outcome.2.records) := by
  intro outcome
  have houtcome : outcome = recordAuditHashes endpointUrl commands transport := rfl
  rw [recordAuditHashes_eq] at houtcome
  cases hstage : stage endpointUrl transport.connectorName commands transport.records with
  | error e =>
      rw [hstage] at houtcome
      have hrefused := refused_of_stage_eq_error hstage
      rw [houtcome]
      refine ⟨?_, ?_, ?_⟩
      · intro e' he'
        cases he'
        exact ⟨rfl, hrefused⟩
      · refine ⟨fun _ => ?_, fun _ => ⟨e, rfl⟩⟩
        rcases hrefused with ⟨_, hconflict⟩ | ⟨_, hunrecordable⟩
        · exact .inl hconflict
        · exact .inr hunrecordable
      · intro receipts hreceipts
        cases hreceipts
  | ok result =>
      obtain ⟨receipts, stored⟩ := result
      rw [hstage] at houtcome
      have hstaged := staged_of_stage hstage
      have haccepted := not_refused_of_staged hstaged
      rw [houtcome]
      refine ⟨?_, ?_, ?_⟩
      · intro e he
        cases he
      · refine ⟨?_, ?_⟩
        · rintro ⟨e, he⟩
          cases he
        · rintro (hconflict | hunrecordable)
          · exact absurd hconflict haccepted.1
          · exact absurd hunrecordable haccepted.2
      · intro receipts' hreceipts
        cases hreceipts
        refine ⟨hstaged.recorded, hstaged.kept, ?_, ⟨_, recordEach_of_stage hstage⟩, ?_⟩
        · intro k
          rw [Dict.contains_iff_exists, Dict.contains_iff_exists]
          constructor
          · rintro ⟨r, hr⟩
            rcases hstaged.added k r hr with hold | ⟨command, hcommand, hkey, _⟩
            · exact .inl ⟨r, hold⟩
            · exact .inr ⟨command, hcommand, hkey⟩
          · rintro (⟨r, hr⟩ | ⟨command, hcommand, rfl⟩)
            · exact ⟨r, hstaged.kept k r hr⟩
            · obtain ⟨i, hi, rfl⟩ := List.getElem_of_mem hcommand
              have hi' : i < receipts.length := by
                rw [← hstaged.recorded.length_eq]
                exact hi
              obtain ⟨record, hget, _⟩ := List.Forall₂.get hstaged.recorded hi hi'
              exact ⟨record, hget⟩
        · intro endpointUrl'
          have hagain : stage endpointUrl' transport.connectorName commands stored =
              .ok (receipts, stored) := stage_of_recorded hstaged.recorded
          rw [recordAuditHashes_eq]
          simp only [hagain]
          exact ⟨trivial, trivial⟩

def payoutCommand : AuditRecordCommand where
  fields :=
    { tenantId := "media-center"
      eventId := "evt-1"
      eventType := "payout.vetoed"
      auditHash := "0123456789abcdef0123456789abcdef0123456789abcdef0123456789abcdef"
      occurredAt := 0
      correlationId := none
      metadata := [] }
  valid := by decide

def emptyTransport : InMemoryGrpcBlockchainAuditTransport :=
  ⟨"grpc_blockchain_auditor", .empty, [], []⟩

theorem not_conflicting_payoutCommand : ¬ Conflicting [payoutCommand] emptyTransport.records := by
  rintro (⟨command, _, record, hget, _⟩ | ⟨command, hcommand, command', hcommand', _, hne⟩)
  · cases hget
  · rw [List.mem_singleton] at hcommand hcommand'
    rw [hcommand, hcommand'] at hne
    exact hne rfl

/-- The next event of the tenant. -/
def executedCommand : AuditRecordCommand where
  fields := { payoutCommand.fields with
    eventId := "evt-2"
    eventType := "payout.executed"
    auditHash := "fedcba9876543210fedcba9876543210fedcba9876543210fedcba9876543210" }
  valid := by decide

theorem not_conflicting_twoEvents :
    ¬ Conflicting [payoutCommand, executedCommand, payoutCommand] emptyTransport.records := by
  have hkeys : payoutCommand.key ≠ executedCommand.key := by decide
  rintro (⟨command, _, record, hget, _⟩ | ⟨command, hcommand, command', hcommand', hkey, hne⟩)
  · cases hget
  · simp only [List.mem_cons, List.not_mem_nil, or_false] at hcommand hcommand'
    rcases hcommand with rfl | rfl | rfl <;> rcases hcommand' with rfl | rfl | rfl <;>
      first
        | exact hne rfl
        | exact hkeys hkey
        | exact hkeys hkey.symm

theorem recordable_twoEvents : ∀ command ∈ [payoutCommand, executedCommand, payoutCommand],
    Recordable "grpc://localhost:50051" emptyTransport.connectorName command := by
  intro command hcommand
  simp only [List.mem_cons, List.not_mem_nil, or_false] at hcommand
  rcases hcommand with rfl | rfl | rfl
  · exact ⟨by decide, by decide⟩
  · exact ⟨by decide, by decide⟩
  · exact ⟨by decide, by decide⟩

/-- Two events, one of them given twice, on an empty store: recorded, and recorded again. -/
theorem recordAuditHashes_atomic_twoEvents :
    let commands := [payoutCommand, executedCommand, payoutCommand]
    let outcome := recordAuditHashes "grpc://localhost:50051" commands emptyTransport
    ∃ receipts, outcome.1 = .ok receipts ∧
      outcome.2.records.contains payoutCommand.key = true ∧
      outcome.2.records.contains executedCommand.key = true ∧
      (recordAuditHashes "grpc://localhost:50051" commands outcome.2).1 = .ok receipts := by
  have hatomic := recordAuditHashes_atomic "grpc://localhost:50051"
    [payoutCommand, executedCommand, payoutCommand] emptyTransport
  dsimp only at hatomic ⊢
  generalize recordAuditHashes _ _ emptyTransport = outcome at hatomic ⊢
  obtain ⟨_, hraises, hreturns⟩ := hatomic
  have hreturned : ∃ receipts, outcome.1 = .ok receipts := by
    cases hresult : outcome.1 with
    | error e =>
        rcases hraises.mp ⟨e, hresult⟩ with hconflict | ⟨command, hcommand, _, hnot⟩
        · exact absurd hconflict not_conflicting_twoEvents
        · exact absurd (recordable_twoEvents command hcommand) hnot
    | ok receipts => exact ⟨receipts, rfl⟩
  obtain ⟨receipts, hresult⟩ := hreturned
  obtain ⟨_, _, hkeys, _, hagain⟩ := hreturns receipts hresult
  exact ⟨receipts, hresult, (hkeys _).mpr (.inr ⟨payoutCommand, List.mem_cons_self, rfl⟩),
    (hkeys _).mpr (.inr ⟨executedCommand, List.mem_cons_of_mem _ List.mem_cons_self, rfl⟩),
    (hagain "grpc://localhost:50051").1⟩

/-- A URL the settings accept, too long for a block reference. -/
def longUrl : String := "grpc://" ++ String.ofList (List.replicate 512 'a')

/-- INTERNAL: the reference is longer than the record allows. -/
theorem hasLength_longUrl : hasLength 1 512
    (Text.trim (blockRef longUrl payoutCommand.fields.tenantId payoutCommand.fields.eventId)) =
      false := by
  have hletters : (String.ofList (List.replicate 512 'a')).toList = List.replicate 512 'a' :=
    String.toList_ofList
  have hslash : longUrl.toList.rdropWhile (· == '/') = longUrl.toList := by
    have hlast : longUrl.toList = ("grpc://".toList ++ List.replicate 511 'a') ++ ['a'] := by
      rw [longUrl, String.toList_append, hletters, List.append_assoc, List.append_cancel_left_eq,
        ← List.replicate_succ']
    rw [hlast, List.rdropWhile_concat_neg]
    decide
  have hvisible : ∀ c ∈ (blockRef longUrl "media-center" "evt-1").toList, Text.Visible c := by
    have hscheme : ∀ c ∈ "grpc://".toList, 33 ≤ c.toNat ∧ c.toNat ≤ 126 := by decide
    have hrest : ∀ c ∈ "/audit/media-center/evt-1".toList, 33 ≤ c.toNat ∧ c.toNat ≤ 126 := by
      decide
    have hparts : (blockRef longUrl "media-center" "evt-1").toList =
        "grpc://".toList ++ List.replicate 512 'a' ++ "/audit/media-center/evt-1".toList := by
      rw [blockRef, hslash, String.ofList_toList, longUrl]
      simp only [String.toList_append, hletters, List.append_assoc]
      rfl
    intro c hc
    rw [hparts, List.mem_append, List.mem_append] at hc
    rcases hc with (hc | hc) | hc
    · exact hscheme c hc
    · rw [List.eq_of_mem_replicate hc]
      exact ⟨by decide, by decide⟩
    · exact hrest c hc
  have hlength : 512 < (blockRef longUrl "media-center" "evt-1").toList.length := by
    rw [blockRef, hslash, String.ofList_toList, longUrl]
    simp only [String.toList_append, hletters, List.length_append, List.length_replicate]
    have hscheme : "grpc://".toList.length = 7 := by decide
    omega
  show hasLength 1 512 (Text.trim (blockRef longUrl "media-center" "evt-1")) = false
  rw [Text.trim_of_forall_visible hvisible]
  unfold hasLength
  rw [Bool.and_eq_false_iff, decide_eq_false_iff_not, decide_eq_false_iff_not]
  right
  omega

/-- A batch without a conflict raises, and not `AuditRecordConflictError`. -/
theorem recordAuditHashes_longUrl : ¬ Conflicting [payoutCommand] emptyTransport.records ∧
    (recordAuditHashes longUrl [payoutCommand] emptyTransport).1 =
      .error (.shared (.validationError "AuditRecord" ["block_ref"])) := by
  obtain ⟨htenant, hevent, htype, hhash, hcorrelation⟩ := payoutCommand.valid_fields
  have hname : connectorNamePattern (Text.trim emptyTransport.connectorName) = true := by decide
  have hlength := hasLength_longUrl
  have hrefused : auditRecord (newRecordFields longUrl emptyTransport.connectorName payoutCommand) =
      .error (.validationError "AuditRecord" ["block_ref"]) := by
    unfold auditRecord Validated.make
    simp only [RecordFields.checks, ReceiptFields.checks, ReceiptFields.stripped, newRecordFields,
      trim_of_tokenPattern (tokenPattern_of_tenantIdPattern htenant), trim_of_tokenPattern hevent,
      trim_of_isEventType htype, trim_of_auditHashPattern hhash,
      map_trim_of_optionalField hcorrelation, trim_trim, htenant, hevent, htype, hhash,
      hcorrelation, hname, hlength]
    simp
  have hstage : stage longUrl emptyTransport.connectorName [payoutCommand]
      emptyTransport.records = .error (.shared (.validationError "AuditRecord" ["block_ref"])) := by
    have hnone : emptyTransport.records.get? payoutCommand.key = none := rfl
    rw [stage, recordForCommand, hnone]
    simp only [hrefused]
    rfl
  refine ⟨not_conflicting_payoutCommand, ?_⟩
  rw [recordAuditHashes_eq]
  simp only [hstage]

end InMemoryGrpcBlockchainAuditTransport

end MediaCenter.BlockchainAuditor
