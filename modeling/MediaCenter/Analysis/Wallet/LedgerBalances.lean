import MediaCenter.Analysis.Wallet.OperationLog
import MediaCenter.Model.Shared.Reference

/-!
# The wallet as a ledger

The log keeps every balance; what it answers about them depends on limits that no call checks.
An operation is stored before its answer is built, so one whose answer is refused stays.
-/

set_option autoImplicit false

namespace MediaCenter.Wallet

open MediaCenter.Library MediaCenter.Shared InMemoryWalletRepository

/-! ## Answers -/

section Answers

variable {py : Stdlib} {operations : List WalletOperationRecord} {record : WalletOperationRecord}
  {call : WalletCall} {audit : AuditLogRecord}

theorem tokenPattern_operationId (call : WalletCall) :
    tokenPattern call.operationId = true := by
  have hchecked : optionalField tokenPattern call.payload.fields.operationId = true :=
    call.payload.valid ("operation_id", optionalField tokenPattern call.payload.fields.operationId)
      (by simp [CreateRequestFields.checks])
  have hnew : tokenPattern (newId "wallet-op" (call.env.uuid 0)) = true :=
    tokenPattern_newId (by decide) (by decide) _
  unfold WalletCall.operationId orDefault
  cases hgiven : call.payload.fields.operationId with
  | none => exact hnew
  | some operationId =>
      rw [hgiven] at hchecked
      simp only
      by_cases hempty : operationId = ""
      · rw [if_pos hempty]
        exact hnew
      · rw [if_neg hempty]
        exact hchecked

/-- INTERNAL: of a recorded operation only the subject and the balance can be refused. -/
theorem exists_operationResponse_iff (hby : RecordedBy py record call)
    (htenant : tenantIdPattern record.tenantId = true) :
    (∃ response, operationResponse record = .ok response) ↔
      tokenPattern (Text.trim record.createdBy) = true ∧
        fitsDigits record.balanceAfterMcv = true := by
  obtain ⟨createdBy, balance, _, audit, hrecord⟩ := hby
  have hpayload := call.payload.valid
  have hkey := call.idempotencyKey.property
  have hid := tokenPattern_operationId call
  have haudit : auditHashPattern audit.fields.auditHash = true :=
    audit.valid ("audit_hash", auditHashPattern audit.fields.auditHash)
      (by simp [AuditFields.checks])
  simp only [CreateRequestFields.checks, List.forall_mem_cons, Bool.and_eq_true] at hpayload
  unfold operationResponse
  rw [Validated.exists_make_eq_ok_iff, hrecord]
  rw [hrecord] at htenant
  simp only [WalletCall.record] at htenant
  simp only [OperationResponseFields.checks, List.forall_mem_cons, WalletCall.record, hid, htenant,
    hpayload.2.1, hpayload.2.2.1.1, hpayload.2.2.2.2.1, hpayload.2.2.2.2.2.2.1, haudit, hkey,
    true_and, and_true, List.not_mem_nil, false_imp_iff, implies_true]
  exact and_comm

end Answers

/-! ## Calls that fit -/

/-- Nothing that the call itself is checked for keeps it from being recorded. -/
structure Recorded (s : WalletState) (call : WalletCall) (subject : String) : Prop where
  allowed : requireAccess walletRecordPolicy call.context = .ok call.context
  tenantId : tenantIdPattern call.context.tenantId = true
  subject : subjectOf call.context = .ok subject
  correlationId : tokenPattern (Text.trim (call.correlationId 1)) = true
  key_fresh : ∀ r ∈ s.operations, ¬ (r.tenantId = call.context.tenantId ∧
    r.idempotencyKey = call.idempotencyKey.val)
  id_fresh : operationExists s.operations call.context.tenantId call.operationId = false

/-- The amounts of the call's member, the call's own the last. -/
def WalletCall.amountsAfter (call : WalletCall) (s : WalletState) : List ℤ :=
  memberAmounts s.operations call.context.tenantId call.payload.fields.memberId ++
    [call.payload.fields.amountMcv]

/-- The subject is an id, the new balance fits the answers, and the totals stay below the
limit. -/
def FitsBelow (limit : ℕ) (s : WalletState) (call : WalletCall) (subject : String) : Prop :=
  tokenPattern (Text.trim subject) = true ∧
  fitsDigits (call.amountsAfter s).sum = true ∧
  (credited (call.amountsAfter s)).natAbs < limit ∧
  (debited (call.amountsAfter s)).natAbs < limit

/-- If the call is recorded, its answer is accepted, and its totals are exact. -/
def Fits (s : WalletState) (call : WalletCall) : Prop :=
  ∀ subject, Recorded s call subject → FitsBelow (10 ^ 28) s call subject

section Records

variable {py : Stdlib} {s : WalletState} {call : WalletCall} {record : WalletOperationRecord}
  {audit : AuditLogRecord}

theorem Recordable.exists_recorded (h : Recordable py call s.operations audit record) :
    ∃ subject, Recorded s call subject ∧ record.createdBy = subject := by
  obtain ⟨subject, balance, hsubject, _, haudit, hrecord⟩ := h.exists_record
  have haccepted := (exists_auditRecord_eq_ok_iff py _).mp ⟨audit, haudit⟩
  unfold WalletCall.auditArgs at haccepted
  simp only [Option.map_some, optionalField] at haccepted
  refine ⟨subject, ⟨h.allowed, haccepted.1, hsubject, haccepted.2.2, h.key_fresh, h.id_fresh⟩, ?_⟩
  rw [hrecord]
  rfl

theorem Recordable.memberAmounts_eq (h : Recordable py call s.operations audit record) :
    memberAmounts (s.operations ++ [record]) record.tenantId record.memberId =
      call.amountsAfter s := by
  obtain ⟨htenant, hmember, hamount, _⟩ := h.tenantId_eq
  rw [memberAmounts_append, memberAmounts_own, htenant, hmember, hamount]
  rfl

theorem Recordable.recordedBy (h : Recordable py call s.operations audit record) :
    RecordedBy py record call := by
  obtain ⟨subject, _, hsubject, _, _, hrecord⟩ := h.exists_record
  exact ⟨subject, _, hsubject, audit, hrecord⟩

end Records

/-- Every operation can be answered with. -/
def Returnable (operations : List WalletOperationRecord) : Prop :=
  ∀ r ∈ operations, ∃ response, operationResponse r = .ok response

/-- What is credited to a member, and what is debited, stays below the limit. -/
def TotalsBelow (limit : ℕ) (operations : List WalletOperationRecord) : Prop :=
  ∀ tenantId memberId, (credited (memberAmounts operations tenantId memberId)).natAbs < limit ∧
    (debited (memberAmounts operations tenantId memberId)).natAbs < limit

section Steps

variable {py : Stdlib} {s : WalletState} {call : WalletCall} {record : WalletOperationRecord}
  {audit : AuditLogRecord} {limit : ℕ}

theorem Returnable.append (h : Returnable s.operations) (hlog : WellFormed s.operations)
    (hnew : Recordable py call s.operations audit record)
    (hsubject : tokenPattern (Text.trim record.createdBy) = true)
    (hbalance : fitsDigits (call.amountsAfter s).sum = true) :
    Returnable (s.operations ++ [record]) := by
  have htenant : tenantIdPattern record.tenantId = true := by
    obtain ⟨subject, hrecorded, _⟩ := hnew.exists_recorded
    rw [hnew.tenantId_eq.1]
    exact hrecorded.tenantId
  intro r hr
  rw [List.mem_append, List.mem_singleton] at hr
  rcases hr with hr | rfl
  · exact h r hr
  · rw [exists_operationResponse_iff hnew.recordedBy htenant, hnew.balanceAfter_eq hlog,
      hnew.memberAmounts_eq]
    exact ⟨hsubject, hbalance⟩

theorem TotalsBelow.append (h : TotalsBelow limit s.operations)
    (hnew : Recordable py call s.operations audit record)
    (hcredited : (credited (call.amountsAfter s)).natAbs < limit)
    (hdebited : (debited (call.amountsAfter s)).natAbs < limit) :
    TotalsBelow limit (s.operations ++ [record]) := by
  intro tenantId memberId
  by_cases hown : record.tenantId = tenantId ∧ record.memberId = memberId
  · obtain ⟨rfl, rfl⟩ := hown
    rw [hnew.memberAmounts_eq]
    exact ⟨hcredited, hdebited⟩
  · rw [memberAmounts_append, memberAmounts_other (not_and_or.mp hown), List.append_nil]
    exact h tenantId memberId

end Steps

/-! ## The ledger -/

/-- The text of a call that is hashed. -/
def WalletCall.requestText (call : WalletCall) (py : Stdlib) : String :=
  dumps py (.dict (call.requestPayload py))

/-- What the wallet promises in a state, after the calls that led there. -/
structure LedgerHolds (py : Stdlib) (calls : List WalletCall) (s : WalletState) : Prop where
  running : ∀ earlier r later, s.operations = earlier ++ r :: later →
    r.balanceAfterMcv = (memberAmounts (earlier ++ [r]) r.tenantId r.memberId).sum
  balance : ∀ context memberId, ∃ balance,
    balanceForMember s.operations context memberId = .ok balance ∧
    balance.balanceMcv = lastBalance s.operations context.tenantId memberId ∧
    balance.balanceMcv = credited (memberAmounts s.operations context.tenantId memberId) -
      debited (memberAmounts s.operations context.tenantId memberId)
  keys_unique : (s.operations.map fun r => (r.tenantId, r.idempotencyKey)).Nodup
  ids_unique : (s.operations.map fun r => (r.tenantId, r.operationId)).Nodup
  /-- A payload is told by the text that is hashed of it. -/
  replay_same : ∀ r ∈ s.operations, ∀ call₀ ∈ calls, RecordedBy py r call₀ → ∀ call,
    requireAccess walletRecordPolicy call.context = .ok call.context →
    call.context.tenantId = r.tenantId → call.idempotencyKey.val = r.idempotencyKey →
    call.requestText py = call₀.requestText py →
    ∃ response, operationResponse r = .ok response ∧
      recordWalletOperation py s call = (.ok response, s)
  replay_other : ∀ r ∈ s.operations, ∀ call₀ ∈ calls, RecordedBy py r call₀ → ∀ call,
    requireAccess walletRecordPolicy call.context = .ok call.context →
    call.context.tenantId = r.tenantId → call.idempotencyKey.val = r.idempotencyKey →
    (py.sha256Hex (call.requestText py) = py.sha256Hex (call₀.requestText py) →
      call.requestText py = call₀.requestText py) →
    call.requestText py ≠ call₀.requestText py →
    ∃ message, recordWalletOperation py s call =
      (.error (.shared (.sharedError 409 "idempotency_conflict" message
        call.context.correlationId)), s)
  frame : ∀ call context memberId,
    call.context.tenantId ≠ context.tenantId ∨ call.payload.fields.memberId ≠ memberId →
    memberAmounts (recordWalletOperation py s call).2.operations context.tenantId memberId =
      memberAmounts s.operations context.tenantId memberId ∧
    balanceForMember (recordWalletOperation py s call).2.operations context memberId =
      balanceForMember s.operations context memberId

section Runs

variable {py : Stdlib} {calls : List WalletCall} {s : WalletState}

/-- INTERNAL: a replay finds the operation, whose key is the tenant's only one like it. -/
theorem ConsistentLog.getExistingOperation_eq (h : ConsistentLog py calls s.operations)
    {r : WalletOperationRecord} (hr : r ∈ s.operations) {context : TenantContext}
    (htenant : context.tenantId = r.tenantId) {idempotencyKey : String}
    (hkey : idempotencyKey = r.idempotencyKey) (requestHash : String) :
    getExistingOperation s.operations context idempotencyKey requestHash =
      if r.requestHash ≠ requestHash then
        .error (.sharedError 409 "idempotency_conflict"
          "Idempotency-Key уже использован с другим payload" context.correlationId)
      else .ok (some r) := by
  have hfind : s.operations.find? (fun record => record.tenantId = context.tenantId &&
      record.idempotencyKey = idempotencyKey) = some r := by
    cases hfound : s.operations.find? (fun record => record.tenantId = context.tenantId &&
        record.idempotencyKey = idempotencyKey) with
    | none =>
        have hnot := List.find?_eq_none.mp hfound r hr
        simp [htenant, hkey] at hnot
    | some r' =>
        have hsame := List.find?_some hfound
        simp only [Bool.and_eq_true, decide_eq_true_eq] at hsame
        rw [List.inj_on_of_nodup_map h.keys_unique (List.mem_of_find?_eq_some hfound) hr
          (by rw [hsame.1, hsame.2, htenant, hkey])]
  unfold getExistingOperation
  rw [hfind]

theorem recordWalletOperation_replayed {call : WalletCall} {r : WalletOperationRecord}
    (hallowed : requireAccess walletRecordPolicy call.context = .ok call.context)
    (hfound : getExistingOperation s.operations call.context call.idempotencyKey.val
      (call.requestHash py) = .ok (some r)) :
    recordWalletOperation py s call = ((operationResponse r).mapError .shared, s) := by
  unfold recordWalletOperation startOperation
  rw [hallowed]
  simp only [Except.mapError, bind, Except.bind, hfound]
  rfl

theorem recordWalletOperation_refused {call : WalletCall} {e : SharedException}
    (hallowed : requireAccess walletRecordPolicy call.context = .ok call.context)
    (hfound : getExistingOperation s.operations call.context call.idempotencyKey.val
      (call.requestHash py) = .error e) :
    recordWalletOperation py s call = (.error (.shared e), s) := by
  unfold recordWalletOperation startOperation
  rw [hallowed]
  simp only [Except.mapError, bind, Except.bind, hfound]

theorem RecordedBy.requestHash_eq {r : WalletOperationRecord} {call : WalletCall}
    (h : RecordedBy py r call) : r.requestHash = py.sha256Hex (call.requestText py) := by
  obtain ⟨_, _, _, _, hrecord⟩ := h
  rw [hrecord]
  rfl

theorem memberAmounts_step (py : Stdlib) (s : WalletState) (call : WalletCall)
    {tenantId memberId : String}
    (hother : call.context.tenantId ≠ tenantId ∨ call.payload.fields.memberId ≠ memberId) :
    memberAmounts (recordWalletOperation py s call).2.operations tenantId memberId =
      memberAmounts s.operations tenantId memberId := by
  rcases operations_step py s call with hsame | ⟨audit, r, hstart, hlog⟩
  · rw [hsame]
  · obtain ⟨htenant, hmember, _⟩ := (startOperation_eq_recorded hstart).tenantId_eq
    rw [hlog, memberAmounts_append, memberAmounts_other, List.append_nil]
    rw [htenant, hmember]
    exact hother

theorem LedgerHolds.of_consistentLog (hlog : ConsistentLog py calls s.operations)
    (hreturn : Returnable s.operations) (htotals : TotalsBelow (10 ^ 28) s.operations) :
    LedgerHolds py calls s where
  running := hlog.running
  keys_unique := hlog.keys_unique
  ids_unique := hlog.ids_unique
  balance := by
    intro context memberId
    rw [balanceForMember_eq hlog.wellFormed, if_pos (htotals context.tenantId memberId)]
    refine ⟨_, rfl, ?_⟩
    rw [hlog.lastBalance_eq, credited_sub_debited]
    exact ⟨rfl, rfl⟩
  replay_same := by
    intro r hr call₀ _ hby call hallowed htenant hkey htext
    obtain ⟨response, hresponse⟩ := hreturn r hr
    have hfound := hlog.getExistingOperation_eq hr htenant hkey (call.requestHash py)
    have hhash : r.requestHash = call.requestHash py := by
      rw [hby.requestHash_eq, ← htext]
      rfl
    rw [if_neg (not_not.mpr hhash)] at hfound
    refine ⟨response, hresponse, ?_⟩
    rw [recordWalletOperation_replayed hallowed hfound, hresponse]
    rfl
  replay_other := by
    intro r hr call₀ _ hby call hallowed htenant hkey hcollision htext
    have hfound := hlog.getExistingOperation_eq hr htenant hkey (call.requestHash py)
    have hhash : r.requestHash ≠ call.requestHash py := by
      rw [hby.requestHash_eq]
      intro hsame
      exact htext (hcollision hsame.symm)
    rw [if_pos hhash] at hfound
    exact ⟨_, recordWalletOperation_refused hallowed hfound⟩
  frame := by
    intro call context memberId hother
    have hamounts := memberAmounts_step py s call hother
    refine ⟨hamounts, ?_⟩
    rw [balanceForMember_eq (hlog.step s call).wellFormed, balanceForMember_eq hlog.wellFormed,
      hamounts]

/-- INTERNAL: what the calls of a run keep if each of them fits. -/
theorem returnable_after {limit : ℕ} (hlimit : 0 < limit)
    {fit : WalletState → WalletCall → Prop}
    (hfit : ∀ s call subject, fit s call → Recorded s call subject →
      FitsBelow limit s call subject)
    (h : EachMeets (recordWalletOperation py) fit .initial calls) :
    Returnable (after (recordWalletOperation py) .initial calls).operations ∧
      TotalsBelow limit (after (recordWalletOperation py) .initial calls).operations := by
  induction calls using List.reverseRecOn with
  | nil =>
      refine ⟨?_, ?_⟩
      · intro r hr
        cases hr
      · intro tenantId memberId
        show (credited []).natAbs < limit ∧ (debited []).natAbs < limit
        exact ⟨hlimit, hlimit⟩
  | append_singleton calls call ih =>
      rw [eachMeets_append] at h
      have hlog := consistentLog_after py calls
      obtain ⟨hreturn, htotals⟩ := ih h.1
      have hmeets := h.2.1
      rw [after_concat]
      generalize after (recordWalletOperation py) .initial calls = s at *
      rcases operations_step py s call with hsame | ⟨audit, r, hstart, hnext⟩
      · rw [hsame]
        exact ⟨hreturn, htotals⟩
      · have hnew := startOperation_eq_recorded hstart
        obtain ⟨subject, hrecorded, hcreatedBy⟩ := hnew.exists_recorded
        obtain ⟨hsubject, hbalance, hcredited, hdebited⟩ :=
          hfit s call subject hmeets hrecorded
        rw [← hcreatedBy] at hsubject
        rw [hnext]
        exact ⟨hreturn.append hlog.wellFormed hnew hsubject hbalance,
          htotals.append hnew hcredited hdebited⟩

/-- As long as each call fits, the ledger holds after every call. -/
theorem ledgerHolds_after (py : Stdlib) (calls : List WalletCall)
    (h : EachMeets (recordWalletOperation py) Fits .initial calls) :
    LedgerHolds py calls (after (recordWalletOperation py) .initial calls) := by
  obtain ⟨hreturn, htotals⟩ := returnable_after (by decide)
    (fun s call subject hfits => hfits subject) h
  exact LedgerHolds.of_consistentLog (consistentLog_after py calls) hreturn htotals

end Runs

/-! ## Runs of small amounts -/

section Turnover

/-- What amounts come to, whatever their signs. -/
def turnover (amounts : List ℤ) : ℕ := (amounts.map Int.natAbs).sum

/-- What the amounts of calls come to. -/
def callsTurnover (calls : List WalletCall) : ℕ :=
  turnover (calls.map fun call => call.payload.fields.amountMcv)

theorem turnover_append (amounts later : List ℤ) :
    turnover (amounts ++ later) = turnover amounts + turnover later := by
  unfold turnover
  rw [List.map_append, List.sum_append]

theorem turnover_singleton (amount : ℤ) : turnover [amount] = amount.natAbs := by
  simp [turnover]

theorem turnover_cons (amount : ℤ) (amounts : List ℤ) :
    turnover (amount :: amounts) = amount.natAbs + turnover amounts := by
  simp [turnover]

theorem natAbs_sum_le_turnover (amounts : List ℤ) : amounts.sum.natAbs ≤ turnover amounts := by
  induction amounts with
  | nil => exact Nat.zero_le _
  | cons amount amounts ih =>
      rw [List.sum_cons, turnover_cons]
      omega

theorem natAbs_credited_le_turnover (amounts : List ℤ) :
    (credited amounts).natAbs ≤ turnover amounts := by
  unfold credited
  induction amounts with
  | nil => exact Nat.zero_le _
  | cons amount amounts ih =>
      rw [turnover_cons, List.filter_cons]
      split
      · rw [List.sum_cons]
        omega
      · omega

theorem natAbs_debited_le_turnover (amounts : List ℤ) :
    (debited amounts).natAbs ≤ turnover amounts := by
  unfold debited
  induction amounts with
  | nil => exact Nat.zero_le _
  | cons amount amounts ih =>
      rw [turnover_cons, List.filter_cons]
      split
      · rw [List.map_cons, List.sum_cons]
        omega
      · omega

theorem turnover_step (py : Stdlib) (s : WalletState) (call : WalletCall)
    (tenantId memberId : String) :
    turnover (memberAmounts (recordWalletOperation py s call).2.operations tenantId memberId) ≤
      turnover (memberAmounts s.operations tenantId memberId) +
        call.payload.fields.amountMcv.natAbs := by
  rcases operations_step py s call with hsame | ⟨audit, r, hstart, hlog⟩
  · rw [hsame]
    exact Nat.le_add_right _ _
  · obtain ⟨_, _, hamount, _⟩ := (startOperation_eq_recorded hstart).tenantId_eq
    rw [hlog, memberAmounts_append, turnover_append]
    apply Nat.add_le_add_left
    by_cases hown : r.tenantId = tenantId ∧ r.memberId = memberId
    · obtain ⟨rfl, rfl⟩ := hown
      rw [memberAmounts_own, turnover_singleton, hamount]
    · rw [memberAmounts_other (not_and_or.mp hown)]
      exact Nat.zero_le _

/-- By induction on the calls: no more than was asked for comes together. -/
theorem turnover_after (py : Stdlib) (calls : List WalletCall) (tenantId memberId : String) :
    turnover (memberAmounts (after (recordWalletOperation py) WalletState.initial
      calls).operations tenantId memberId) ≤ callsTurnover calls := by
  induction calls using List.reverseRecOn with
  | nil => exact Nat.zero_le _
  | append_singleton calls call ih =>
      rw [after_concat]
      apply (turnover_step py _ call tenantId memberId).trans
      unfold callsTurnover at ih ⊢
      rw [List.map_append, turnover_append, List.map_singleton, turnover_singleton]
      exact Nat.add_le_add_right ih _

/-- INTERNAL: what a call adds is still within the turnover of the run. -/
theorem turnover_amountsAfter {py : Stdlib} {calls earlier later : List WalletCall}
    {call : WalletCall} (hsplit : calls = earlier ++ call :: later) :
    turnover (call.amountsAfter (after (recordWalletOperation py) .initial earlier)) ≤
      callsTurnover calls := by
  have hearlier := turnover_after py earlier call.context.tenantId call.payload.fields.memberId
  unfold WalletCall.amountsAfter
  unfold callsTurnover at hearlier ⊢
  rw [hsplit, List.map_append, turnover_append, turnover_append, turnover_singleton, List.map_cons,
    turnover_cons]
  omega

/-- In a run whose subjects are ids and whose amounts stay small, every call fits, whatever became
of the earlier ones. -/
theorem fitsBelow_of_turnover {py : Stdlib} {calls earlier later : List WalletCall}
    {call : WalletCall} (hsplit : calls = earlier ++ call :: later)
    (hsubjects : ∀ call ∈ calls, ∀ subject, subjectOf call.context = .ok subject →
      tokenPattern (Text.trim subject) = true) (hsmall : callsTurnover calls < 10 ^ 14)
    {subject : String}
    (hrecorded : Recorded (after (recordWalletOperation py) .initial earlier) call subject) :
    FitsBelow (10 ^ 14) (after (recordWalletOperation py) .initial earlier) call subject := by
  have hturnover := @turnover_amountsAfter py calls earlier later call hsplit
  have hmem : call ∈ calls := by
    rw [hsplit]
    exact List.mem_append_right _ List.mem_cons_self
  refine ⟨hsubjects call hmem subject hrecorded.subject, decide_eq_true ?_, ?_, ?_⟩
  · exact ((natAbs_sum_le_turnover _).trans hturnover).trans_lt hsmall
  · exact ((natAbs_credited_le_turnover _).trans hturnover).trans_lt hsmall
  · exact ((natAbs_debited_le_turnover _).trans hturnover).trans_lt hsmall

theorem eachMeets_fits_of_turnover (py : Stdlib) {calls : List WalletCall}
    (hsubjects : ∀ call ∈ calls, ∀ subject, subjectOf call.context = .ok subject →
      tokenPattern (Text.trim subject) = true) (hsmall : callsTurnover calls < 10 ^ 14) :
    EachMeets (recordWalletOperation py) Fits .initial calls := by
  rw [eachMeets_iff_forall_split]
  intro earlier call later hsplit subject hrecorded
  obtain ⟨hsubject, hbalance, hcredited, hdebited⟩ :=
    fitsBelow_of_turnover hsplit hsubjects hsmall hrecorded
  exact ⟨hsubject, hbalance, hcredited.trans (by decide), hdebited.trans (by decide)⟩

end Turnover

namespace WalletSample

def request (operationId : String) (amountMcv : ℤ) (type : WalletOperationType)
    (hid : tokenPattern operationId = true)
    (hamount : (fitsDigits amountMcv && decide (amountMcv ≠ 0)) = true) :
    WalletOperationCreateRequest where
  fields :=
    { operationId := some operationId
      memberId := "editor-1"
      amountMcv := amountMcv
      type := type
      refType := "contribution"
      refId := "contribution-1"
      period := none
      distributionHash := none
      payoutShare := none
      createdAt := none
      metadata := [] }
  valid := by
    simp only [CreateRequestFields.checks, optionalField, hid, hamount, List.forall_mem_cons,
      List.not_mem_nil, false_imp_iff, implies_true, true_and, and_true]
    exact ⟨by decide, by decide, by decide, rfl⟩

def call (payload : WalletOperationCreateRequest) (idempotencyKey : String)
    (hkey : tokenPattern idempotencyKey = true) : WalletCall where
  env := ⟨0, Reference.epoch_nonneg, Reference.epoch_le_datetimeMax, fun _ => Reference.uuid⟩
  payload := payload
  idempotencyKey := ⟨idempotencyKey, hkey⟩
  context := ⟨"media-center", some "council-1", [councilRole], some "corr-1"⟩

theorem tokenPattern_credit1 : tokenPattern "credit-1" = true := by decide

theorem tokenPattern_debit1 : tokenPattern "debit-1" = true := by decide

theorem amount_hundred : (fitsDigits 10000 && decide ((10000 : ℤ) ≠ 0)) = true := by decide

theorem amount_thirty : (fitsDigits (-3000) && decide ((-3000 : ℤ) ≠ 0)) = true := by decide

def credit : WalletCall :=
  call (request "credit-1" 10000 .distributionCredit tokenPattern_credit1 amount_hundred)
    "credit-1" tokenPattern_credit1

def debit : WalletCall :=
  call (request "debit-1" (-3000) .payoutDebit tokenPattern_debit1 amount_thirty) "debit-1"
    tokenPattern_debit1

/-- Another operation under the key of the credit. -/
def conflict : WalletCall :=
  call (request "debit-1" (-3000) .payoutDebit tokenPattern_debit1 amount_thirty) "credit-1"
    tokenPattern_credit1

/-- A credit and a debit, the credit once more, and a call that is refused. -/
def calls : List WalletCall := [credit, debit, credit, conflict]

theorem subject_calls : ∀ call ∈ calls, ∀ subject, subjectOf call.context = .ok subject →
    tokenPattern (Text.trim subject) = true := by
  have hsubject : tokenPattern (Text.trim "council-1") = true := by decide
  intro call hcall subject h
  simp only [calls, List.mem_cons, List.not_mem_nil, or_false] at hcall
  rcases hcall with rfl | rfl | rfl | rfl
  · cases h
    exact hsubject
  · cases h
    exact hsubject
  · cases h
    exact hsubject
  · cases h
    exact hsubject

theorem callsTurnover_calls : callsTurnover calls < 10 ^ 14 := by decide

end WalletSample

open Reference in
/-- The ledger holds after a credit, a debit, a replay and a conflict. -/
theorem ledgerHolds_after_calls : LedgerHolds stdlib WalletSample.calls
    (after (recordWalletOperation stdlib) .initial WalletSample.calls) :=
  ledgerHolds_after stdlib WalletSample.calls
    (eachMeets_fits_of_turnover stdlib WalletSample.subject_calls
      WalletSample.callsTurnover_calls)

/-! ## Two credits that outgrow an answer -/

def largestCredit (operationId : String) (hid : tokenPattern operationId = true) :
    WalletOperationCreateRequest where
  fields :=
    { operationId := some operationId
      memberId := "editor-1"
      amountMcv := 10 ^ 14 - 1
      type := .distributionCredit
      refType := "contribution"
      refId := "contribution-1"
      period := none
      distributionHash := none
      payoutShare := none
      createdAt := none
      metadata := [] }
  valid := by
    simp only [CreateRequestFields.checks, optionalField, hid, List.forall_mem_cons,
      List.not_mem_nil, false_imp_iff, implies_true, true_and, and_true]
    exact ⟨by decide, rfl, by decide, by decide, rfl⟩

def creditCall (operationId : String) (hid : tokenPattern operationId = true) : WalletCall where
  env := ⟨0, Reference.epoch_nonneg, Reference.epoch_le_datetimeMax, fun _ => Reference.uuid⟩
  payload := largestCredit operationId hid
  idempotencyKey := ⟨operationId, hid⟩
  context := ⟨"media-center", some "council-1", [councilRole], some "corr-1"⟩

def twoCredits : List WalletCall :=
  [creditCall "credit-1" (by decide), creditCall "credit-2" (by decide)]

/-- What a new operation needs, and amounts that the arithmetic can hold: it is recorded. -/
theorem Recorded.startOperation_eq {s : WalletState} {call : WalletCall} {subject : String}
    (h : Recorded s call subject) (py : Stdlib) (hlog : WellFormed s.operations)
    (hcredited : (credited (memberAmounts s.operations call.context.tenantId
      call.payload.fields.memberId)).natAbs < 10 ^ 28)
    (hdebited : (debited (memberAmounts s.operations call.context.tenantId
      call.payload.fields.memberId)).natAbs < 10 ^ 28)
    (hafter : (call.amountsAfter s).sum.natAbs < 10 ^ 28) :
    ∃ audit r, startOperation py call s.operations = .ok (.recorded audit r) := by
  have hexisting : getExistingOperation s.operations call.context call.idempotencyKey.val
      (call.requestHash py) = .ok none := by
    have hnone : s.operations.find? (fun record =>
        record.tenantId = call.context.tenantId &&
          record.idempotencyKey = call.idempotencyKey.val) = none := by
      rw [List.find?_eq_none]
      intro r hr hsame
      rw [Bool.and_eq_true, decide_eq_true_eq, decide_eq_true_eq] at hsame
      exact h.key_fresh r hr hsame
    unfold getExistingOperation
    rw [hnone]
  unfold WalletCall.amountsAfter at hafter
  rw [List.sum_append, List.sum_singleton] at hafter
  have htype : isEventType (Text.trim walletOperationRecordedEvent) = true := by decide
  obtain ⟨audit, haudit⟩ : ∃ audit, auditRecord py (call.auditArgs py subject
      ((memberAmounts s.operations call.context.tenantId call.payload.fields.memberId).sum +
        call.payload.fields.amountMcv)) = .ok audit := by
    rw [exists_auditRecord_eq_ok_iff]
    unfold WalletCall.auditArgs
    simp only [Option.map_some, optionalField, htype, h.tenantId, h.correlationId, and_self]
  unfold startOperation
  rw [h.allowed, hexisting, h.id_fresh, balanceForMember_eq hlog, if_pos ⟨hcredited, hdebited⟩]
  simp only [Except.mapError, bind, Except.bind, h.subject, refuseIf, normalizeMcv, if_pos hafter,
    haudit, pure, Except.pure, Bool.false_eq_true, if_false]
  exact ⟨audit, _, rfl⟩

theorem operations_of_recorded {s : WalletState} {call : WalletCall} {py : Stdlib}
    {audit : AuditLogRecord} {r : WalletOperationRecord}
    (h : startOperation py call s.operations = .ok (.recorded audit r)) :
    (recordWalletOperation py s call).2.operations = s.operations ++ [r] := by
  unfold recordWalletOperation
  rw [h]
  simp only [(startOperation_eq_recorded h).addOperation_eq]
  split
  · rfl
  · rfl

theorem operationId_creditCall {operationId : String} (hid : tokenPattern operationId = true) :
    (creditCall operationId hid).operationId = operationId := by
  have hne : operationId ≠ "" := by
    rintro rfl
    revert hid
    decide
  exact if_neg hne

theorem recorded_creditCall {s : WalletState} {operationId : String}
    (hid : tokenPattern operationId = true)
    (hfresh : ∀ r ∈ s.operations, r.idempotencyKey ≠ operationId ∧ r.operationId ≠ operationId) :
    Recorded s (creditCall operationId hid) "council-1" where
  allowed := rfl
  tenantId := by
    show tenantIdPattern "media-center" = true
    decide
  subject := by
    show subjectOf ⟨"media-center", some "council-1", [councilRole], some "corr-1"⟩ = _
    decide
  correlationId := by
    have hgiven : tokenPattern (Text.trim "corr-1") = true := by decide
    exact hgiven
  key_fresh := fun r hr hsame => (hfresh r hr).1 hsame.2
  id_fresh := by
    unfold operationExists
    rw [List.any_eq_false]
    intro r hr hsame
    rw [Bool.and_eq_true, decide_eq_true_eq, decide_eq_true_eq,
      operationId_creditCall hid] at hsame
    exact (hfresh r hr).2 hsame.2

/-- INTERNAL: two calls for one member, the second under another key and id, are both stored. -/
theorem operations_twoCalls (py : Stdlib) {call call' : WalletCall} {subject subject' : String}
    (h : Recorded .initial call subject)
    (h' : ∀ s : WalletState, (∀ r ∈ s.operations, r.idempotencyKey = call.idempotencyKey.val ∧
      r.operationId = call.operationId) → Recorded s call' subject')
    (htenant : call'.context.tenantId = call.context.tenantId)
    (hmember : call'.payload.fields.memberId = call.payload.fields.memberId)
    (hamount : call.payload.fields.amountMcv.natAbs < 10 ^ 27)
    (hamount' : call'.payload.fields.amountMcv.natAbs < 10 ^ 27) :
    ∃ r r', (after (recordWalletOperation py) .initial [call]).operations = [r] ∧
      (after (recordWalletOperation py) .initial [call, call']).operations = [r, r'] ∧
      RecordedBy py r' call' ∧
      memberAmounts [r, r'] call.context.tenantId call.payload.fields.memberId =
        [call.payload.fields.amountMcv, call'.payload.fields.amountMcv] ∧
      r'.balanceAfterMcv = call.payload.fields.amountMcv + call'.payload.fields.amountMcv := by
  have hnone : memberAmounts WalletState.initial.operations call.context.tenantId
      call.payload.fields.memberId = [] := rfl
  have hfirst : (call.amountsAfter .initial).sum = call.payload.fields.amountMcv := by
    unfold WalletCall.amountsAfter
    rw [hnone, List.nil_append, List.sum_singleton]
  obtain ⟨audit, r, hr⟩ := h.startOperation_eq py (fun r hr => by cases hr)
    (by rw [hnone]; decide) (by rw [hnone]; decide) (by rw [hfirst]; omega)
  have hops := operations_of_recorded hr
  obtain ⟨htenantOf, hmemberOf, hamountOf, hoperation, hkey, _⟩ :=
    (startOperation_eq_recorded hr).tenantId_eq
  have hlog := (consistentLog_after py [call]).wellFormed
  simp only [after] at hlog ⊢
  generalize (recordWalletOperation py .initial call).2 = s at hops hlog ⊢
  have hsingle : s.operations = [r] := hops
  have hrecorded := h' s (by
    intro r₀ hr₀
    rw [hsingle, List.mem_singleton] at hr₀
    rw [hr₀]
    exact ⟨hkey, hoperation⟩)
  have hown := memberAmounts_own r
  rw [htenantOf, hmemberOf, hamountOf, ← hsingle] at hown
  have hafter : call'.amountsAfter s =
      [call.payload.fields.amountMcv, call'.payload.fields.amountMcv] := by
    unfold WalletCall.amountsAfter
    rw [htenant, hmember, hown]
    rfl
  have hsum : (call'.amountsAfter s).sum =
      call.payload.fields.amountMcv + call'.payload.fields.amountMcv := by
    rw [hafter]
    simp
  have htotal := credited_sub_debited [call.payload.fields.amountMcv]
  have hpositive : credited [call.payload.fields.amountMcv] = 0 ∨
      debited [call.payload.fields.amountMcv] = 0 := by
    rcases lt_or_ge 0 call.payload.fields.amountMcv with hpos | hpos
    · exact .inr (by simp [debited, hpos.le.not_gt])
    · exact .inl (by simp [credited, hpos.not_gt])
  rw [List.sum_singleton] at htotal
  obtain ⟨audit', r', hr'⟩ := hrecorded.startOperation_eq py hlog
    (by rw [htenant, hmember, hown]; omega) (by rw [htenant, hmember, hown]; omega)
    (by rw [hsum]; omega)
  have hstart' := startOperation_eq_recorded hr'
  have hbalance := hstart'.balanceAfter_eq hlog
  have hall := hstart'.memberAmounts_eq
  obtain ⟨htenantOf', hmemberOf', _⟩ := hstart'.tenantId_eq
  rw [hall, hsum] at hbalance
  rw [hafter, htenantOf', hmemberOf', htenant, hmember, hsingle] at hall
  refine ⟨r, r', hsingle, ?_, hstart'.recordedBy, hall, hbalance⟩
  rw [operations_of_recorded hr', hsingle]
  rfl

/-- Both credits are stored, with the sums of the amounts as their balances. -/
theorem operations_twoCredits (py : Stdlib) : ∃ r r',
    (after (recordWalletOperation py) .initial
      [creditCall "credit-1" (by decide)]).operations = [r] ∧
    (after (recordWalletOperation py) .initial twoCredits).operations = [r, r'] ∧
    RecordedBy py r' (creditCall "credit-2" (by decide)) ∧
    memberAmounts [r, r'] "media-center" "editor-1" = [10 ^ 14 - 1, 10 ^ 14 - 1] ∧
    r'.balanceAfterMcv = 10 ^ 14 - 1 + (10 ^ 14 - 1) := by
  have hid : tokenPattern "credit-1" = true := by decide
  have hid' : tokenPattern "credit-2" = true := by decide
  have hne : "credit-1" ≠ "credit-2" := by decide
  have hsecond : ∀ s : WalletState,
      (∀ r ∈ s.operations, r.idempotencyKey = "credit-1" ∧
        r.operationId = (creditCall "credit-1" hid).operationId) →
      Recorded s (creditCall "credit-2" hid') "council-1" := by
    intro s hs
    apply recorded_creditCall hid'
    intro r hr
    obtain ⟨hkey, hoperation⟩ := hs r hr
    rw [operationId_creditCall] at hoperation
    rw [hkey, hoperation]
    exact ⟨hne, hne⟩
  exact operations_twoCalls py (recorded_creditCall hid fun r hr => by cases hr) hsecond rfl rfl
    (by show ((10 : ℤ) ^ 14 - 1).natAbs < _; decide)
    (by show ((10 : ℤ) ^ 14 - 1).natAbs < _; decide)

open Reference in
/-- The second credit is stored, and no replay of it is answered. -/
theorem not_ledgerHolds_twoCredits : ¬ ∀ (py : Stdlib) (calls : List WalletCall),
    LedgerHolds py calls (after (recordWalletOperation py) .initial calls) := by
  intro h
  have hholds := h stdlib twoCredits
  have hlog := consistentLog_after stdlib twoCredits
  obtain ⟨r, r', _, hoperations, hby, _, hbalance⟩ :=
    operations_twoCredits stdlib
  generalize after (recordWalletOperation stdlib) .initial twoCredits = s at *
  have hr : r' ∈ s.operations := by
    rw [hoperations]
    exact List.mem_cons_of_mem r List.mem_cons_self
  have hsame : "media-center" = r'.tenantId ∧ "credit-2" = r'.idempotencyKey := by
    obtain ⟨_, _, _, _, hrecord⟩ := hby
    rw [hrecord]
    exact ⟨rfl, rfl⟩
  obtain ⟨response, hresponse, _⟩ := hholds.replay_same r' hr _
    (List.mem_cons_of_mem _ List.mem_cons_self) hby _ rfl hsame.1 hsame.2 rfl
  have hfits := ((exists_operationResponse_iff hby (hlog.wellFormed r' hr)).mp
    ⟨response, hresponse⟩).2
  rw [hbalance] at hfits
  revert hfits
  decide

end MediaCenter.Wallet
