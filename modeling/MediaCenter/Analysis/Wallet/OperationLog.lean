import Mathlib.Algebra.BigOperators.Group.List.Basic
import Mathlib.Algebra.Order.BigOperators.Group.List
import MediaCenter.Library.Unwinding
import MediaCenter.Model.Wallet.Api

/-!
# The log of a wallet

What one call can do to the log, and what every log keeps: each operation carries the balance
that its member had right after it, and keys and ids are used once in a tenant.
-/

set_option autoImplicit false

namespace MediaCenter.Wallet

open MediaCenter.Library MediaCenter.Shared InMemoryWalletRepository

/-! ## Sums over a log -/

/-- The amounts of a member's operations, oldest first. -/
def memberAmounts (operations : List WalletOperationRecord) (tenantId memberId : String) :
    List ℤ :=
  (operations.filter fun record =>
    record.tenantId = tenantId && record.memberId = memberId).map WalletOperationRecord.amountMcv

def credited (amounts : List ℤ) : ℤ := (amounts.filter fun amount => 0 < amount).sum

def debited (amounts : List ℤ) : ℤ :=
  ((amounts.filter fun amount => amount < 0).map fun amount => -amount).sum

/-- The balance that was stored with a member's last operation. -/
def lastBalance (operations : List WalletOperationRecord) (tenantId memberId : String) : ℤ :=
  ((operations.filter fun record =>
    record.tenantId = tenantId && record.memberId = memberId).getLast?.map
      WalletOperationRecord.balanceAfterMcv).getD 0

theorem credited_nonneg (amounts : List ℤ) : 0 ≤ credited amounts := by
  apply List.sum_nonneg
  intro amount hamount
  have hpos := (List.mem_filter.mp hamount).2
  exact (of_decide_eq_true hpos).le

theorem debited_nonneg (amounts : List ℤ) : 0 ≤ debited amounts := by
  apply List.sum_nonneg
  intro x hx
  obtain ⟨amount, hamount, rfl⟩ := List.mem_map.mp hx
  have hneg := of_decide_eq_true (List.mem_filter.mp hamount).2
  omega

theorem credited_sub_debited (amounts : List ℤ) :
    credited amounts - debited amounts = amounts.sum := by
  induction amounts with
  | nil => rfl
  | cons amount amounts ih =>
      unfold credited debited at ih ⊢
      rw [List.filter_cons, List.filter_cons, List.sum_cons, ← ih]
      by_cases hpos : 0 < amount
      · have hneg : ¬ amount < 0 := by omega
        simp only [hpos, hneg, decide_true, decide_false, if_true, Bool.false_eq_true, if_false,
          List.sum_cons]
        omega
      · by_cases hneg : amount < 0
        · simp only [hpos, hneg, decide_true, decide_false, if_true, Bool.false_eq_true, if_false,
            List.map_cons, List.sum_cons]
          omega
        · simp only [hpos, hneg, decide_false, Bool.false_eq_true, if_false]
          omega

theorem memberAmounts_append (earlier later : List WalletOperationRecord)
    (tenantId memberId : String) : memberAmounts (earlier ++ later) tenantId memberId =
      memberAmounts earlier tenantId memberId ++ memberAmounts later tenantId memberId := by
  unfold memberAmounts
  rw [List.filter_append, List.map_append]

theorem memberAmounts_own (record : WalletOperationRecord) :
    memberAmounts [record] record.tenantId record.memberId = [record.amountMcv] := by
  simp [memberAmounts]

theorem memberAmounts_other {record : WalletOperationRecord} {tenantId memberId : String}
    (h : record.tenantId ≠ tenantId ∨ record.memberId ≠ memberId) :
    memberAmounts [record] tenantId memberId = [] := by
  have hnot : ¬ (decide (record.tenantId = tenantId) &&
      decide (record.memberId = memberId)) = true := by
    rw [Bool.and_eq_true, decide_eq_true_eq, decide_eq_true_eq]
    rintro ⟨htenant, hmember⟩
    rcases h with h | h
    · exact h htenant
    · exact h hmember
  unfold memberAmounts
  rw [List.filter_cons, if_neg hnot]
  rfl

/-! ## Balances -/

/-- The tenant ids of a log are well formed. -/
def WellFormed (operations : List WalletOperationRecord) : Prop :=
  ∀ record ∈ operations, tenantIdPattern record.tenantId = true

/-- `balance_for_member` in closed form: it needs 28 digits for what was credited, and for what
was debited. -/
theorem balanceForMember_eq {operations : List WalletOperationRecord}
    (h : WellFormed operations) (context : TenantContext) (memberId : String) :
    balanceForMember operations context memberId =
      if (credited (memberAmounts operations context.tenantId memberId)).natAbs < 10 ^ 28 ∧
        (debited (memberAmounts operations context.tenantId memberId)).natAbs < 10 ^ 28 then
        .ok ⟨context.tenantId, memberId, (memberAmounts operations context.tenantId memberId).sum,
          credited (memberAmounts operations context.tenantId memberId),
          debited (memberAmounts operations context.tenantId memberId),
          (memberAmounts operations context.tenantId memberId).length⟩
      else .error .invalidOperation := by
  have hfilter : (operations.filter fun record => record.tenantId = context.tenantId).filter
      (fun record => record.memberId = memberId) = operations.filter fun record =>
        record.tenantId = context.tenantId && record.memberId = memberId := by
    rw [List.filter_filter]
    exact List.filter_congr fun record _ => Bool.and_comm _ _
  have hsum := credited_sub_debited (memberAmounts operations context.tenantId memberId)
  have hcredited := credited_nonneg (memberAmounts operations context.tenantId memberId)
  have hdebited := debited_nonneg (memberAmounts operations context.tenantId memberId)
  have hlength : (memberAmounts operations context.tenantId memberId).length =
      (operations.filter fun record =>
        record.tenantId = context.tenantId && record.memberId = memberId).length := by
    unfold memberAmounts
    rw [List.length_map]
  have hcreditSum : ((((operations.filter fun record =>
      record.tenantId = context.tenantId && record.memberId = memberId).map
        WalletOperationRecord.amountMcv).filter fun amount => 0 < amount)).sum =
      credited (memberAmounts operations context.tenantId memberId) := rfl
  have hdebitSum : ((((operations.filter fun record =>
      record.tenantId = context.tenantId && record.memberId = memberId).map
        WalletOperationRecord.amountMcv).filter fun amount => amount < 0).map
          fun amount => -amount).sum =
      debited (memberAmounts operations context.tenantId memberId) := rfl
  unfold balanceForMember sumMcv
  rw [listForTenant_eq_ok h]
  simp only [Except.mapError, bind, Except.bind, hfilter]
  rw [← hlength, hcreditSum, hdebitSum]
  generalize memberAmounts operations context.tenantId memberId = amounts at hsum hcredited hdebited
  unfold normalizeMcv
  by_cases hc : (credited amounts).natAbs < 10 ^ 28
  · by_cases hd : (debited amounts).natAbs < 10 ^ 28
    · have hbalance : (credited amounts - debited amounts).natAbs < 10 ^ 28 := by omega
      simp only [if_pos hc, if_pos hd, if_pos hbalance, if_pos (And.intro hc hd)]
      rw [hsum]
      rfl
    · simp only [if_pos hc, if_neg hd, if_neg (fun h : _ ∧ _ => hd h.2)]
  · simp only [if_neg hc, if_neg (fun h : _ ∧ _ => hc h.1)]

/-! ## What a call does -/

section Calls

variable {py : Stdlib} {call : WalletCall} {operations : List WalletOperationRecord}
  {record : WalletOperationRecord} {audit : AuditLogRecord}

theorem getExistingOperation_eq_none {context : TenantContext} {idempotencyKey requestHash : String}
    (h : getExistingOperation operations context idempotencyKey requestHash = .ok none) :
    ∀ r ∈ operations, ¬ (r.tenantId = context.tenantId ∧ r.idempotencyKey = idempotencyKey) := by
  unfold getExistingOperation at h
  split at h
  · rename_i hnone
    intro r hr hsame
    have hfound := List.find?_eq_none.mp hnone r hr
    simp [hsame.1, hsame.2] at hfound
  · split at h
    · cases h
    · cases h

/-- What stands behind an operation that is recorded. -/
structure Recordable (py : Stdlib) (call : WalletCall) (operations : List WalletOperationRecord)
    (audit : AuditLogRecord) (record : WalletOperationRecord) : Prop where
  allowed : requireAccess walletRecordPolicy call.context = .ok call.context
  key_fresh : ∀ r ∈ operations, ¬ (r.tenantId = call.context.tenantId ∧
    r.idempotencyKey = call.idempotencyKey.val)
  id_fresh : operationExists operations call.context.tenantId call.operationId = false
  exists_record : ∃ createdBy balance, subjectOf call.context = .ok createdBy ∧
    balanceForMember operations call.context call.payload.fields.memberId = .ok balance ∧
    auditRecord py (call.auditArgs py createdBy
      (balance.balanceMcv + call.payload.fields.amountMcv)) = .ok audit ∧
    record = call.record py createdBy (balance.balanceMcv + call.payload.fields.amountMcv)
      audit.fields.auditHash

theorem startOperation_eq_recorded
    (h : startOperation py call operations = .ok (.recorded audit record)) :
    Recordable py call operations audit record := by
  unfold startOperation at h
  simp only [bind_eq_ok_iff, mapError_eq_ok_iff] at h
  obtain ⟨actor, hactor, existing, hexisting, h⟩ := h
  have hsame := requireAccess_eq_ok hactor
  subst hsame
  cases existing with
  | some r => cases h
  | none =>
      simp only [bind_eq_ok_iff, mapError_eq_ok_iff, refuseIf_eq_ok_iff] at h
      obtain ⟨_, hid, createdBy, hcreatedBy, balance, hbalance, after, hafter, audit', haudit,
        hreturn⟩ := h
      unfold normalizeMcv at hafter
      split at hafter
      · cases hafter
        cases hreturn
        exact ⟨hactor, getExistingOperation_eq_none hexisting, by simpa using hid, createdBy,
          balance, hcreatedBy, hbalance, haudit, rfl⟩
      · cases hafter

theorem Recordable.tenantId_eq (h : Recordable py call operations audit record) :
    record.tenantId = call.context.tenantId ∧ record.memberId = call.payload.fields.memberId ∧
      record.amountMcv = call.payload.fields.amountMcv ∧
      record.operationId = call.operationId ∧
      record.idempotencyKey = call.idempotencyKey.val ∧
      record.requestHash = call.requestHash py := by
  obtain ⟨_, _, _, _, _, _, _, _, rfl⟩ := h
  exact ⟨rfl, rfl, rfl, rfl, rfl, rfl⟩

theorem Recordable.addOperation_eq (h : Recordable py call operations audit record) :
    addOperation operations record = .ok (operations ++ [record]) := by
  obtain ⟨htenant, _, _, hid, _⟩ := h.tenantId_eq
  unfold addOperation
  rw [htenant, hid, h.id_fresh]
  rfl

/-- The outcomes of a call: it is refused before it writes, it answers with a stored operation,
or it writes one; then the event may still be refused. -/
inductive Outcome (py : Stdlib) (s : WalletState) (call : WalletCall) :
    Except WalletError WalletOperationResponse × WalletState → Prop
  | refused (e : WalletError) (h : startOperation py call s.operations = .error e) :
      Outcome py s call (.error e, s)
  | replayed (r : WalletOperationRecord)
      (h : startOperation py call s.operations = .ok (.replayed r)) :
      Outcome py s call ((operationResponse r).mapError .shared, s)
  | unpublished (audit : AuditLogRecord) (r : WalletOperationRecord) (e : SharedException)
      (h : startOperation py call s.operations = .ok (.recorded audit r))
      (hevent : eventEnvelope (call.event r) = .error e) :
      Outcome py s call
        (.error (.shared e), ⟨s.operations ++ [r], s.auditLog ++ [audit], s.published⟩)
  | published (audit : AuditLogRecord) (r : WalletOperationRecord) (event : EventEnvelope)
      (h : startOperation py call s.operations = .ok (.recorded audit r))
      (hevent : eventEnvelope (call.event r) = .ok event) :
      Outcome py s call ((operationResponse r).mapError .shared,
        ⟨s.operations ++ [r], s.auditLog ++ [audit], s.published ++ [event]⟩)

theorem outcome (py : Stdlib) (s : WalletState) (call : WalletCall) :
    Outcome py s call (recordWalletOperation py s call) := by
  unfold recordWalletOperation
  cases hstart : startOperation py call s.operations with
  | error e => exact .refused e hstart
  | ok started =>
      cases started with
      | replayed r => exact .replayed r hstart
      | recorded audit r =>
          have hadd := (startOperation_eq_recorded hstart).addOperation_eq
          simp only [hadd]
          cases hevent : eventEnvelope (call.event r) with
          | error e => exact .unpublished audit r e hstart hevent
          | ok event => exact .published audit r event hstart hevent

/-- INTERNAL: a call leaves the log as it is, or appends the operation it records. -/
theorem operations_step (py : Stdlib) (s : WalletState) (call : WalletCall) :
    (recordWalletOperation py s call).2.operations = s.operations ∨
      ∃ audit r, startOperation py call s.operations = .ok (.recorded audit r) ∧
        (recordWalletOperation py s call).2.operations = s.operations ++ [r] := by
  generalize hresult : recordWalletOperation py s call = result
  have houtcome := outcome py s call
  rw [hresult] at houtcome
  cases houtcome with
  | refused e h => exact .inl rfl
  | replayed r h => exact .inl rfl
  | unpublished audit r e h hevent => exact .inr ⟨audit, r, h, rfl⟩
  | published audit r event h hevent => exact .inr ⟨audit, r, h, rfl⟩

end Calls

/-! ## What every log keeps -/

/-- The operation was recorded by the call. -/
def RecordedBy (py : Stdlib) (record : WalletOperationRecord) (call : WalletCall) : Prop :=
  ∃ createdBy balance, subjectOf call.context = .ok createdBy ∧
    ∃ audit : AuditLogRecord, record = call.record py createdBy balance audit.fields.auditHash

structure ConsistentLog (py : Stdlib) (calls : List WalletCall)
    (operations : List WalletOperationRecord) : Prop where
  wellFormed : WellFormed operations
  origin : ∀ r ∈ operations, ∃ call ∈ calls, RecordedBy py r call
  running : ∀ earlier r later, operations = earlier ++ r :: later →
    r.balanceAfterMcv = (memberAmounts (earlier ++ [r]) r.tenantId r.memberId).sum
  keys_unique : (operations.map fun r => (r.tenantId, r.idempotencyKey)).Nodup
  ids_unique : (operations.map fun r => (r.tenantId, r.operationId)).Nodup

theorem consistentLog_nil (py : Stdlib) : ConsistentLog py [] [] where
  wellFormed := fun r hr => by cases hr
  origin := fun r hr => by cases hr
  running := fun earlier r later h => absurd h (by simp)
  keys_unique := List.nodup_nil
  ids_unique := List.nodup_nil

section Steps

variable {py : Stdlib} {calls : List WalletCall} {operations : List WalletOperationRecord}
  {call : WalletCall} {record : WalletOperationRecord} {audit : AuditLogRecord}

theorem ConsistentLog.mono (h : ConsistentLog py calls operations) (call : WalletCall) :
    ConsistentLog py (calls ++ [call]) operations where
  wellFormed := h.wellFormed
  origin := by
    intro r hr
    obtain ⟨call', hcall', hby⟩ := h.origin r hr
    exact ⟨call', List.mem_append_left _ hcall', hby⟩
  running := h.running
  keys_unique := h.keys_unique
  ids_unique := h.ids_unique

/-- INTERNAL: the balance that is stored with a new operation. -/
theorem Recordable.balanceAfter_eq (hlog : WellFormed operations)
    (h : Recordable py call operations audit record) : record.balanceAfterMcv =
      (memberAmounts (operations ++ [record]) record.tenantId record.memberId).sum := by
  obtain ⟨htenant, hmember, hamount, _⟩ := h.tenantId_eq
  obtain ⟨_, balance, _, hbalance, _, hrecord⟩ := h.exists_record
  have hafter : record.balanceAfterMcv = balance.balanceMcv + call.payload.fields.amountMcv := by
    rw [hrecord]
    rfl
  rw [balanceForMember_eq hlog] at hbalance
  split at hbalance
  · cases hbalance
    rw [memberAmounts_append, List.sum_append, memberAmounts_own, List.sum_singleton, hafter,
      htenant, hmember, hamount]
  · cases hbalance

theorem nodup_map_append {κ : Type} {f : WalletOperationRecord → κ}
    (h : (operations.map f).Nodup) (hfresh : ∀ r ∈ operations, f r ≠ f record) :
    ((operations ++ [record]).map f).Nodup := by
  rw [List.map_append, List.map_singleton, List.nodup_append]
  refine ⟨h, List.nodup_singleton _, ?_⟩
  intro a ha b hb
  obtain ⟨r, hr, rfl⟩ := List.mem_map.mp ha
  rw [List.mem_singleton] at hb
  rw [hb]
  exact hfresh r hr

theorem ConsistentLog.append (h : ConsistentLog py calls operations)
    (hnew : Recordable py call operations audit record) :
    ConsistentLog py (calls ++ [call]) (operations ++ [record]) := by
  obtain ⟨htenant, hmember, hamount, hid, hkey, _⟩ := hnew.tenantId_eq
  obtain ⟨createdBy, balance, hsubject, _, haudit, hrecord⟩ := hnew.exists_record
  have hpattern : tenantIdPattern record.tenantId = true := by
    rw [htenant]
    exact (auditRecord_eq_ok haudit).1
  refine ⟨?_, ?_, ?_, ?_, ?_⟩
  · intro r hr
    rw [List.mem_append, List.mem_singleton] at hr
    rcases hr with hr | rfl
    · exact h.wellFormed r hr
    · exact hpattern
  · intro r hr
    rw [List.mem_append, List.mem_singleton] at hr
    rcases hr with hr | rfl
    · exact (h.mono call).origin r hr
    · exact ⟨call, by simp, createdBy, _, hsubject, audit, hrecord⟩
  · intro earlier r later hsplit
    rcases List.eq_nil_or_concat later with rfl | ⟨rest, last, rfl⟩
    · obtain ⟨rfl, hlast⟩ := List.append_inj' hsplit rfl
      cases hlast
      exact hnew.balanceAfter_eq h.wellFormed
    · have hshift : earlier ++ r :: (rest ++ [last]) = (earlier ++ r :: rest) ++ [last] := by simp
      rw [List.concat_eq_append, hshift] at hsplit
      exact h.running earlier r rest (List.append_inj' hsplit rfl).1
  · apply nodup_map_append h.keys_unique
    intro r hr hsame
    rw [Prod.mk.injEq, htenant, hkey] at hsame
    exact hnew.key_fresh r hr hsame
  · apply nodup_map_append h.ids_unique
    intro r hr hsame
    rw [Prod.mk.injEq, htenant, hid] at hsame
    have hfresh := hnew.id_fresh
    unfold operationExists at hfresh
    rw [List.any_eq_false] at hfresh
    exact hfresh r hr (by simp [hsame.1, hsame.2])

theorem ConsistentLog.step (s : WalletState) (h : ConsistentLog py calls s.operations)
    (call : WalletCall) :
    ConsistentLog py (calls ++ [call]) (recordWalletOperation py s call).2.operations := by
  rcases operations_step py s call with hsame | ⟨audit, r, hstart, hlog⟩
  · rw [hsame]
    exact h.mono call
  · rw [hlog]
    exact h.append (startOperation_eq_recorded hstart)

/-- The run lemma: by induction on the calls, from the last one back. -/
theorem consistentLog_after (py : Stdlib) (calls : List WalletCall) :
    ConsistentLog py calls
      (after (recordWalletOperation py) WalletState.initial calls).operations := by
  induction calls using List.reverseRecOn with
  | nil => exact consistentLog_nil py
  | append_singleton calls call ih =>
      rw [after_concat]
      exact ih.step _ call

/-- What a log keeps, it kept before its last operation. -/
theorem ConsistentLog.of_concat {last : WalletOperationRecord}
    (h : ConsistentLog py calls (operations ++ [last])) : ConsistentLog py calls operations where
  wellFormed := fun r hr => h.wellFormed r (List.mem_append_left _ hr)
  origin := fun r hr => h.origin r (List.mem_append_left _ hr)
  running := fun earlier r later hsplit =>
    h.running earlier r (later ++ [last]) (by rw [hsplit]; simp)
  keys_unique := by
    have hkeys := h.keys_unique
    rw [List.map_append] at hkeys
    exact hkeys.of_append_left
  ids_unique := by
    have hids := h.ids_unique
    rw [List.map_append] at hids
    exact hids.of_append_left

theorem ConsistentLog.lastBalance_eq (h : ConsistentLog py calls operations)
    (tenantId memberId : String) : lastBalance operations tenantId memberId =
      (memberAmounts operations tenantId memberId).sum := by
  induction operations using List.reverseRecOn generalizing calls with
  | nil => rfl
  | append_singleton operations last ih =>
      by_cases hown : last.tenantId = tenantId ∧ last.memberId = memberId
      · obtain ⟨rfl, rfl⟩ := hown
        rw [← h.running operations last [] rfl]
        unfold lastBalance
        rw [List.filter_append, List.filter_cons, if_pos (by simp), List.filter_nil,
          List.getLast?_append, List.getLast?_singleton]
        rfl
      · have hother : last.tenantId ≠ tenantId ∨ last.memberId ≠ memberId := not_and_or.mp hown
        rw [memberAmounts_append, memberAmounts_other hother, List.append_nil, ← ih h.of_concat]
        unfold lastBalance
        rw [List.filter_append, List.filter_cons, if_neg (by simpa using hown), List.filter_nil,
          List.append_nil]

end Steps

end MediaCenter.Wallet
