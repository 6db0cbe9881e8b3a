import Mathlib.Data.List.Chain
import MediaCenter.Analysis.Wallet.LedgerBalances

/-!
# Statements of a wallet

The history of a member is listed by the dates of the operations, which a request may set; the
balances in it are summed up in the order of recording.  The two orders agree in every state of a
run exactly if no operation is dated before one that its member already has.
-/

set_option autoImplicit false

namespace MediaCenter.Wallet

open MediaCenter.Library MediaCenter.Shared InMemoryWalletRepository

/-! ## Statements that add up -/

/-- Each balance comes of the one below it, and the first is the balance of the member. -/
structure StatementAddsUp (statement : List WalletOperationRecord) (balance : WalletBalance) :
    Prop where
  running : statement.IsChain fun newer older =>
    newer.balanceAfterMcv = older.balanceAfterMcv + newer.amountMcv
  first : ∀ r ∈ statement.head?, r.balanceAfterMcv = balance.balanceMcv

/-- The statement of every member, of any length, is answered and adds up. -/
def StatementsAddUp (operations : List WalletOperationRecord) : Prop :=
  ∀ (context : TenantContext) (memberId : String) (limit : ℕ), ∃ statement balance,
    listOperations operations context (some memberId) none none limit 0 = .ok statement ∧
    balanceForMember operations context memberId = .ok balance ∧
    StatementAddsUp statement balance

/-- The date of the operation, then its id, come before the given ones. -/
def OlderThan (createdAt : Instant) (operationId : String) (r : WalletOperationRecord) : Prop :=
  r.createdAt < createdAt ∨ (r.createdAt = createdAt ∧ r.operationId < operationId)

/-- If the call records an operation, this is the newest of its member, and what its member was
credited and debited has no more than 28 digits. -/
def KeepsOrder (s : WalletState) (call : WalletCall) : Prop :=
  ∀ subject, Recorded s call subject → (call.amountsAfter s).sum.natAbs < 10 ^ 28 →
    (∀ r ∈ s.operations, r.tenantId = call.context.tenantId →
      r.memberId = call.payload.fields.memberId → OlderThan call.createdAt call.operationId r) ∧
    (credited (call.amountsAfter s)).natAbs < 10 ^ 28 ∧
    (debited (call.amountsAfter s)).natAbs < 10 ^ 28

/-! ## A member's operations -/

/-- The operations of a member, oldest recorded first. -/
def memberOperations (operations : List WalletOperationRecord) (tenantId memberId : String) :
    List WalletOperationRecord :=
  operations.filter fun record => record.tenantId = tenantId && record.memberId = memberId

section Members

variable {operations : List WalletOperationRecord} {tenantId memberId : String}
  {r : WalletOperationRecord}

theorem mem_memberOperations : r ∈ memberOperations operations tenantId memberId ↔
    r ∈ operations ∧ r.tenantId = tenantId ∧ r.memberId = memberId := by
  simp [memberOperations]

theorem memberOperations_append (earlier later : List WalletOperationRecord) :
    memberOperations (earlier ++ later) tenantId memberId =
      memberOperations earlier tenantId memberId ++ memberOperations later tenantId memberId :=
  List.filter_append _ _

theorem memberOperations_own (r : WalletOperationRecord) :
    memberOperations [r] r.tenantId r.memberId = [r] := by
  simp [memberOperations]

theorem memberOperations_other (h : ¬ (r.tenantId = tenantId ∧ r.memberId = memberId)) :
    memberOperations [r] tenantId memberId = [] := by
  simpa [memberOperations] using h

/-- `list_operations` for one member, in closed form. -/
theorem listOperations_eq (h : WellFormed operations) (context : TenantContext)
    (memberId : String) (limit : ℕ) :
    listOperations operations context (some memberId) none none limit 0 = .ok
      (((memberOperations operations context.tenantId memberId).insertionSort newerFirst).take
        limit) := by
  have hfilter : (operations.filter fun record => record.tenantId = context.tenantId).filter
      (fun record => (some memberId).all (record.memberId = ·) &&
        (none : Option String).all (record.refType = ·) &&
        (none : Option String).all (record.refId = ·)) =
      memberOperations operations context.tenantId memberId := by
    unfold memberOperations
    rw [List.filter_filter]
    apply List.filter_congr
    intro record _
    simp only [Option.all_some, Option.all_none, Bool.and_true]
    exact Bool.and_comm _ _
  unfold listOperations
  rw [listForTenant_eq_ok h]
  simp only [bind, Except.bind, hfilter, pure, Except.pure, List.drop_zero]

end Members

instance : Std.Total newerFirst where
  total a b := by
    unfold newerFirst
    rcases lt_trichotomy a.createdAt b.createdAt with h | h | h
    · exact .inr (.inl h)
    · rcases le_total a.operationId b.operationId with hid | hid
      · exact .inr (.inr ⟨h, hid⟩)
      · exact .inl (.inr ⟨h.symm, hid⟩)
    · exact .inl (.inl h)

instance : IsTrans WalletOperationRecord newerFirst where
  trans a b c hab hbc := by
    unfold newerFirst at *
    rcases hab with hab | ⟨hab, hid⟩
    · rcases hbc with hbc | ⟨hbc, _⟩
      · exact .inl (hbc.trans hab)
      · exact .inl (hbc ▸ hab)
    · rcases hbc with hbc | ⟨hbc, hid'⟩
      · exact .inl (hab ▸ hbc)
      · exact .inr ⟨hbc.trans hab, hid'.trans hid⟩

theorem OlderThan.newerFirst {r r' : WalletOperationRecord}
    (h : OlderThan r'.createdAt r'.operationId r) : newerFirst r' r := by
  rcases h with h | ⟨h, hid⟩
  · exact .inl h
  · exact .inr ⟨h, hid.le⟩

theorem OlderThan.not_newerFirst {r r' : WalletOperationRecord}
    (h : OlderThan r'.createdAt r'.operationId r) : 
    ¬ InMemoryWalletRepository.newerFirst r r' := by
  rintro (hnewer | ⟨hsame, hid'⟩)
  · rcases h with h | ⟨h, _⟩
    · exact lt_asymm h hnewer
    · exact absurd h hnewer.ne'
  · rcases h with h | ⟨_, hid⟩
    · exact absurd hsame h.ne'
    · exact absurd hid' (not_le.mpr hid)

/-! ## Logs in order -/

/-- A member's operations were recorded in the order of their dates. -/
def Chronological (operations : List WalletOperationRecord) : Prop :=
  ∀ tenantId memberId, (memberOperations operations tenantId memberId).Pairwise
    fun earlier later => OlderThan later.createdAt later.operationId earlier

section Logs

variable {py : Stdlib} {calls : List WalletCall} {operations : List WalletOperationRecord}

/-- By induction on the log, from the last operation back: its balance goes on from the last one
that its member had. -/
theorem isChain_memberOperations (h : ConsistentLog py calls operations)
    (tenantId memberId : String) :
    (memberOperations operations tenantId memberId).IsChain fun older newer =>
      newer.balanceAfterMcv = older.balanceAfterMcv + newer.amountMcv := by
  induction operations using List.reverseRecOn with
  | nil => exact List.IsChain.nil
  | append_singleton operations last ih =>
      have hinit : ConsistentLog py calls operations := h.of_concat
      rw [memberOperations_append]
      by_cases hown : last.tenantId = tenantId ∧ last.memberId = memberId
      · obtain ⟨rfl, rfl⟩ := hown
        rw [memberOperations_own]
        refine (ih hinit).append (List.isChain_singleton _) ?_
        intro older holder newer hnewer
        rw [List.head?_cons, Option.mem_some_iff] at hnewer
        subst hnewer
        have hlast := hinit.lastBalance_eq last.tenantId last.memberId
        unfold lastBalance at hlast
        unfold memberOperations at holder
        rw [Option.mem_def] at holder
        rw [holder] at hlast
        have hsum := h.running operations last [] rfl
        rw [memberAmounts_append, memberAmounts_own, List.sum_append, List.sum_singleton,
          ← hlast] at hsum
        exact hsum
      · rw [memberOperations_other hown, List.append_nil]
        exact ih hinit

/-- INTERNAL: dates and ids tell a tenant's operations apart. -/
theorem ConsistentLog.eq_of_newerFirst (h : ConsistentLog py calls operations)
    {tenantId memberId : String} {a b : WalletOperationRecord}
    (ha : a ∈ memberOperations operations tenantId memberId)
    (hb : b ∈ memberOperations operations tenantId memberId)
    (hab : newerFirst a b) (hba : newerFirst b a) : a = b := by
  obtain ⟨ha, htenant, _⟩ := mem_memberOperations.mp ha
  obtain ⟨hb, htenant', _⟩ := mem_memberOperations.mp hb
  have hid : a.operationId = b.operationId := by
    rcases hab with hab | ⟨hsame, hid⟩
    · rcases hba with hba | ⟨hsame, _⟩
      · exact absurd hba (lt_asymm hab)
      · exact absurd hsame hab.ne'
    · rcases hba with hba | ⟨_, hid'⟩
      · exact absurd hsame hba.ne'
      · exact le_antisymm hid' hid
  exact List.inj_on_of_nodup_map h.ids_unique ha hb (by rw [htenant, htenant', hid])

/-- INTERNAL: the statement of a log in order is the log read backwards. -/
theorem Chronological.insertionSort_eq (h : Chronological operations)
    (hlog : ConsistentLog py calls operations) (tenantId memberId : String) :
    (memberOperations operations tenantId memberId).insertionSort newerFirst =
      (memberOperations operations tenantId memberId).reverse := by
  have hsorted : (memberOperations operations tenantId memberId).reverse.Pairwise newerFirst := by
    rw [List.pairwise_reverse]
    exact (h tenantId memberId).imp OlderThan.newerFirst
  have hperm := List.perm_insertionSort newerFirst (memberOperations operations tenantId memberId)
  refine (hperm.trans (List.reverse_perm _).symm).eq_of_pairwise ?_
    (List.pairwise_insertionSort newerFirst _) hsorted
  intro a b ha hb hab hba
  exact hlog.eq_of_newerFirst (hperm.mem_iff.mp ha) (List.mem_reverse.mp hb) hab hba

theorem Chronological.statementsAddUp (h : Chronological operations)
    (hlog : ConsistentLog py calls operations) (htotals : TotalsBelow (10 ^ 28) operations) :
    StatementsAddUp operations := by
  intro context memberId limit
  have hbalance := balanceForMember_eq hlog.wellFormed context memberId
  rw [if_pos (htotals context.tenantId memberId)] at hbalance
  refine ⟨_, _, listOperations_eq hlog.wellFormed context memberId limit, hbalance, ?_⟩
  rw [h.insertionSort_eq hlog]
  constructor
  · apply List.IsChain.take
    rw [List.isChain_reverse]
    exact isChain_memberOperations hlog context.tenantId memberId
  · intro r hr
    have hlast : (memberOperations operations context.tenantId memberId).getLast? = some r := by
      cases limit with
      | zero => cases hr
      | succ limit =>
          rw [List.head?_take, if_neg (Nat.succ_ne_zero limit), List.head?_reverse] at hr
          exact hr
    have hsum := hlog.lastBalance_eq context.tenantId memberId
    unfold lastBalance at hsum
    unfold memberOperations at hlast
    rw [hlast] at hsum
    exact hsum

/-- INTERNAL: the newest operation of a log in order is the last one that was recorded. -/
theorem Chronological.balanceAfter_eq (h : Chronological operations)
    (hlog : ConsistentLog py calls operations) {tenantId memberId : String}
    {newest : WalletOperationRecord}
    (hmem : newest ∈ memberOperations operations tenantId memberId)
    (hnewest : ∀ r ∈ memberOperations operations tenantId memberId, newerFirst newest r) :
    newest.balanceAfterMcv = (memberAmounts operations tenantId memberId).sum := by
  have hsum := hlog.lastBalance_eq tenantId memberId
  have horder := h tenantId memberId
  unfold lastBalance at hsum
  change ((memberOperations operations tenantId memberId).getLast?.map _).getD 0 = _ at hsum
  generalize memberOperations operations tenantId memberId = owned at *
  rcases List.eq_nil_or_concat owned with rfl | ⟨earlier, last, rfl⟩
  · cases hmem
  · rw [List.concat_eq_append] at *
    rw [List.getLast?_append, List.getLast?_singleton] at hsum
    rw [List.mem_append, List.mem_singleton] at hmem
    rcases hmem with hmem | rfl
    · have holder := (List.pairwise_append.mp horder).2.2 newest hmem last List.mem_cons_self
      exact absurd (hnewest last (by simp)) holder.not_newerFirst
    · exact hsum

/-- INTERNAL: if the statements still add up with one more operation, it is the newest: the
first balance is otherwise that of the log before it. -/
theorem olderThan_of_statementsAddUp {last : WalletOperationRecord}
    (h : Chronological operations) (hlog : ConsistentLog py calls (operations ++ [last]))
    (hamount : last.amountMcv ≠ 0) (hadds : StatementsAddUp (operations ++ [last])) :
    ∀ r ∈ memberOperations operations last.tenantId last.memberId,
      OlderThan last.createdAt last.operationId r := by
  obtain ⟨statement, balance, hstatement, hbalance, haddsUp⟩ :=
    hadds ⟨last.tenantId, none, [], none⟩ last.memberId 1
  rw [listOperations_eq hlog.wellFormed] at hstatement
  rw [balanceForMember_eq hlog.wellFormed] at hbalance
  split at hbalance
  rotate_left
  · cases hbalance
  cases hstatement
  cases hbalance
  have hfirst := haddsUp.first
  have hsorted := List.pairwise_insertionSort newerFirst
    (memberOperations (operations ++ [last]) last.tenantId last.memberId)
  have hmem : ∀ r, r ∈ (memberOperations (operations ++ [last]) last.tenantId
      last.memberId).insertionSort newerFirst ↔
        r ∈ memberOperations operations last.tenantId last.memberId ∨ r = last := by
    intro r
    rw [List.mem_insertionSort, memberOperations_append, memberOperations_own, List.mem_append,
      List.mem_singleton]
  generalize (memberOperations (operations ++ [last]) last.tenantId
    last.memberId).insertionSort newerFirst = sorted at *
  cases sorted with
  | nil => exact absurd ((hmem last).mpr (.inr rfl)) List.not_mem_nil
  | cons newest rest =>
      have hnewest : ∀ r ∈ newest :: rest, newerFirst newest r := by
        intro r hr
        rcases List.mem_cons.mp hr with rfl | hr
        · exact (Std.Total.total r r).elim id id
        · exact List.rel_of_pairwise_cons hsorted hr
      have hbalance : newest.balanceAfterMcv =
          (memberAmounts (operations ++ [last]) last.tenantId last.memberId).sum :=
        hfirst newest rfl
      rw [memberAmounts_append, memberAmounts_own, List.sum_append, List.sum_singleton] at hbalance
      rcases (hmem newest).mp List.mem_cons_self with hown | rfl
      · have hbefore := h.balanceAfter_eq hlog.of_concat hown
          fun r hr => hnewest r ((hmem r).mpr (.inl hr))
        omega
      · intro r hr
        rcases hnewest r ((hmem r).mpr (.inl hr)) with hdate | ⟨hdate, hid⟩
        · exact .inl hdate
        · refine .inr ⟨hdate, lt_of_le_of_ne hid ?_⟩
          intro hsame
          obtain ⟨hlogged, htenant, _⟩ := mem_memberOperations.mp hr
          have hids := hlog.ids_unique
          rw [List.map_append, List.nodup_append] at hids
          exact hids.2.2 _ (List.mem_map_of_mem hlogged) _ (List.mem_singleton_self _)
            (by rw [htenant, hsame])

end Logs

/-! ## Runs in order -/

section Runs

variable {py : Stdlib} {calls : List WalletCall} {s : WalletState} {call : WalletCall}
  {record : WalletOperationRecord} {audit : AuditLogRecord}

theorem amountMcv_ne_zero (call : WalletCall) : call.payload.fields.amountMcv ≠ 0 := by
  have hvalid := call.payload.valid
  simp only [CreateRequestFields.checks, List.forall_mem_cons, Bool.and_eq_true,
    decide_eq_true_eq] at hvalid
  exact hvalid.2.2.1.2

/-- What a run in order keeps. -/
structure InOrder (py : Stdlib) (s : WalletState) : Prop where
  log : ∃ calls, ConsistentLog py calls s.operations
  chronological : Chronological s.operations
  totals : TotalsBelow (10 ^ 28) s.operations

theorem inOrder_initial (py : Stdlib) : InOrder py .initial where
  log := ⟨[], consistentLog_nil py⟩
  chronological := fun _ _ => List.Pairwise.nil
  totals := by
    intro tenantId memberId
    show (credited []).natAbs < 10 ^ 28 ∧ (debited []).natAbs < 10 ^ 28
    decide

theorem Chronological.append (h : Chronological s.operations)
    (hnewest : ∀ r ∈ s.operations, r.tenantId = record.tenantId →
      r.memberId = record.memberId → OlderThan record.createdAt record.operationId r) :
    Chronological (s.operations ++ [record]) := by
  intro tenantId memberId
  rw [memberOperations_append]
  by_cases hown : record.tenantId = tenantId ∧ record.memberId = memberId
  · obtain ⟨rfl, rfl⟩ := hown
    rw [memberOperations_own, List.pairwise_append]
    refine ⟨h _ _, List.pairwise_singleton _ _, ?_⟩
    intro r hr last hlast
    obtain ⟨hmem, htenant, hmember⟩ := mem_memberOperations.mp hr
    rw [List.mem_singleton.mp hlast]
    exact hnewest r hmem htenant hmember
  · rw [memberOperations_other hown, List.append_nil]
    exact h tenantId memberId

theorem Recordable.createdAt_eq (h : Recordable py call s.operations audit record) :
    record.createdAt = call.createdAt := by
  obtain ⟨_, _, _, _, _, rfl⟩ := h.exists_record
  rfl

theorem totalsBelow_of_statementsAddUp {operations : List WalletOperationRecord}
    (hlog : WellFormed operations) (hadds : StatementsAddUp operations) :
    TotalsBelow (10 ^ 28) operations := by
  intro tenantId memberId
  obtain ⟨_, _, _, hbalance, _⟩ := hadds ⟨tenantId, none, [], none⟩ memberId 0
  rw [balanceForMember_eq hlog] at hbalance
  split at hbalance
  · assumption
  · cases hbalance

/-- The sum that is stored with an operation was quantized. -/
theorem sum_amountsAfter_lt (hlog : WellFormed s.operations)
    (hstart : startOperation py call s.operations = .ok (.recorded audit record)) :
    (call.amountsAfter s).sum.natAbs < 10 ^ 28 := by
  unfold startOperation at hstart
  simp only [bind_eq_ok_iff, mapError_eq_ok_iff] at hstart
  obtain ⟨actor, _, existing, _, hstart⟩ := hstart
  cases existing with
  | some r => cases hstart
  | none =>
      simp only [bind_eq_ok_iff] at hstart
      obtain ⟨_, _, createdBy, _, balance, hbalance, balanceAfter, hafter, _⟩ := hstart
      rw [balanceForMember_eq hlog] at hbalance
      split at hbalance
      rotate_left
      · cases hbalance
      cases hbalance
      unfold normalizeMcv at hafter
      split at hafter
      rotate_left
      · cases hafter
      rename_i hsum
      unfold WalletCall.amountsAfter
      rw [List.sum_append, List.sum_singleton]
      exact hsum

theorem InOrder.step (h : InOrder py s) (horder : KeepsOrder s call) :
    InOrder py (recordWalletOperation py s call).2 := by
  obtain ⟨calls, hlog⟩ := h.log
  have hafter := hlog.step s call
  rcases operations_step py s call with hsame | ⟨audit, r, hstart, hnext⟩
  · refine ⟨⟨_, hafter⟩, ?_, ?_⟩
    · rw [hsame]
      exact h.chronological
    · rw [hsame]
      exact h.totals
  · have hnew := startOperation_eq_recorded hstart
    obtain ⟨subject, hrecorded, _⟩ := hnew.exists_recorded
    obtain ⟨hnewest, hcredited, hdebited⟩ :=
      horder subject hrecorded (sum_amountsAfter_lt hlog.wellFormed hstart)
    obtain ⟨htenant, hmember, _, hid, _⟩ := hnew.tenantId_eq
    refine ⟨⟨_, hafter⟩, ?_, ?_⟩
    · rw [hnext]
      apply h.chronological.append
      rw [htenant, hmember, hnew.createdAt_eq, hid]
      exact hnewest
    · rw [hnext]
      exact h.totals.append hnew hcredited hdebited

/-- INTERNAL: from a log in order, only a call that keeps it leads to statements that add up. -/
theorem InOrder.keepsOrder (h : InOrder py s)
    (hadds : StatementsAddUp (recordWalletOperation py s call).2.operations) :
    KeepsOrder s call := by
  intro subject hrecorded hsum
  obtain ⟨calls, hlog⟩ := h.log
  obtain ⟨hcredited, hdebited⟩ :=
    h.totals call.context.tenantId call.payload.fields.memberId
  obtain ⟨audit, r, hstart⟩ :=
    hrecorded.startOperation_eq py hlog.wellFormed hcredited hdebited hsum
  have hnew := startOperation_eq_recorded hstart
  have hafter := hlog.step s call
  obtain ⟨htenant, hmember, hamount, hid, _⟩ := hnew.tenantId_eq
  rw [operations_of_recorded hstart] at hadds hafter
  refine ⟨?_, ?_⟩
  · have hamountNe : r.amountMcv ≠ 0 := by
      rw [hamount]
      exact amountMcv_ne_zero call
    have hnewest := olderThan_of_statementsAddUp h.chronological hafter hamountNe hadds
    rw [htenant, hmember, hnew.createdAt_eq, hid] at hnewest
    intro r' hr' htenant' hmember'
    exact hnewest r' (mem_memberOperations.mpr ⟨hr', htenant', hmember'⟩)
  · have htotals := totalsBelow_of_statementsAddUp hafter.wellFormed hadds r.tenantId r.memberId
    rw [hnew.memberAmounts_eq] at htotals
    exact htotals

/-- The statements add up throughout a run exactly if every operation is newer than those its
member already has. -/
theorem statementsAddUp_iff (py : Stdlib) (calls : List WalletCall) :
    (∀ earlier later, calls = earlier ++ later →
      StatementsAddUp (after (recordWalletOperation py) .initial earlier).operations) ↔
    EachMeets (recordWalletOperation py) KeepsOrder .initial calls := by
  have hgood : ∀ s, InOrder py s → StatementsAddUp s.operations := by
    rintro s ⟨⟨calls, hlog⟩, hchronological, htotals⟩
    exact hchronological.statementsAddUp hlog htotals
  have hstep : ∀ s call, InOrder py s → KeepsOrder s call →
      InOrder py (recordWalletOperation py s call).2 := fun _ _ h horder => h.step horder
  have hback : ∀ s call, InOrder py s →
      StatementsAddUp (recordWalletOperation py s call).2.operations → KeepsOrder s call :=
    fun _ _ h hadds => h.keepsOrder hadds
  exact @forall_after_iff_eachMeets _ _ _ (recordWalletOperation py) KeepsOrder (InOrder py)
    (fun s => StatementsAddUp s.operations) hgood hstep hback _ (inOrder_initial py) calls

end Runs

/-! ## A credit that is dated back -/

def datedCredit (operationId : String) (hid : tokenPattern operationId = true)
    (createdAt : Instant) : WalletOperationCreateRequest where
  fields :=
    { operationId := some operationId
      memberId := "editor-1"
      amountMcv := 500
      type := .distributionCredit
      refType := "contribution"
      refId := "contribution-1"
      period := none
      distributionHash := none
      payoutShare := none
      createdAt := some createdAt
      metadata := [] }
  valid := by
    simp only [CreateRequestFields.checks, optionalField, hid, List.forall_mem_cons,
      List.not_mem_nil, false_imp_iff, implies_true, true_and, and_true]
    exact ⟨by decide, rfl, by decide, by decide, rfl⟩

def datedCall (operationId : String) (hid : tokenPattern operationId = true)
    (createdAt : Instant) : WalletCall :=
  { creditCall operationId hid with payload := datedCredit operationId hid createdAt }

theorem recorded_datedCall {s : WalletState} {operationId : String}
    (hid : tokenPattern operationId = true) (createdAt : Instant)
    (hfresh : ∀ r ∈ s.operations, r.idempotencyKey ≠ operationId ∧ r.operationId ≠ operationId) :
    Recorded s (datedCall operationId hid createdAt) "council-1" := by
  obtain ⟨hallowed, htenant, hsubject, hcorrelation, hkey, hfreshId⟩ :=
    recorded_creditCall hid hfresh
  exact ⟨hallowed, htenant, hsubject, hcorrelation, hkey, hfreshId⟩

theorem tokenPattern_credit : tokenPattern "credit-1" = true := by decide

theorem tokenPattern_secondCredit : tokenPattern "credit-2" = true := by decide

/-- The second credit is dated before the first one. -/
def backdatedCredits : List WalletCall :=
  [datedCall "credit-1" tokenPattern_credit 1000000,
    datedCall "credit-2" tokenPattern_secondCredit 0]

/-- The first credit is listed on top, with the balance that it had alone. -/
theorem not_statementsAddUp_backdated : ¬ ∀ (py : Stdlib) (calls : List WalletCall),
    StatementsAddUp (after (recordWalletOperation py) .initial calls).operations := by
  intro h
  have hid : tokenPattern "credit-1" = true := by decide
  have hid' : tokenPattern "credit-2" = true := by decide
  have hsecond : ∀ s : WalletState,
      (∀ r ∈ s.operations, r.idempotencyKey = "credit-1" ∧
        r.operationId = (datedCall "credit-1" hid 1000000).operationId) →
      Recorded s (datedCall "credit-2" hid' 0) "council-1" := by
    intro s hs
    apply recorded_datedCall hid'
    intro r hr
    obtain ⟨hkey, hoperation⟩ := hs r hr
    rw [hkey, hoperation]
    have hne : "credit-1" ≠ "credit-2" := by decide
    exact ⟨hne, hne⟩
  have hsmall : ((500 : ℤ)).natAbs < 10 ^ 27 := by decide
  obtain ⟨r, r', hfirst, hboth, hby, hamounts, hbalance⟩ :=
    operations_twoCalls Reference.stdlib
      (recorded_datedCall (s := .initial) hid 1000000 fun r hr => by cases hr) hsecond rfl rfl
      hsmall hsmall
  have hbalance : r'.balanceAfterMcv = 1000 := hbalance
  have hwell : WellFormed [r, r'] := by
    rw [← hboth]
    exact (consistentLog_after Reference.stdlib _).wellFormed
  obtain ⟨hdate', howner'⟩ : r'.createdAt = 0 ∧
      (r'.tenantId = "media-center" ∧ r'.memberId = "editor-1") := by
    obtain ⟨_, _, _, _, hrecord⟩ := hby
    rw [hrecord]
    exact ⟨rfl, rfl, rfl⟩
  obtain ⟨hdate, hown, howner⟩ : r.createdAt = 1000000 ∧ r.balanceAfterMcv = 500 ∧
      (r.tenantId = "media-center" ∧ r.memberId = "editor-1") := by
    have hlog := consistentLog_after Reference.stdlib [datedCall "credit-1" hid 1000000]
    rw [hfirst] at hlog
    obtain ⟨call, hcall, hby⟩ := hlog.origin r List.mem_cons_self
    rw [List.mem_singleton.mp hcall] at hby
    have hrunning := hlog.running [] r [] rfl
    rw [List.nil_append, memberAmounts_own, List.sum_singleton] at hrunning
    obtain ⟨_, _, _, _, hrecord⟩ := hby
    rw [hrunning, hrecord]
    exact ⟨rfl, rfl, rfl, rfl⟩
  obtain ⟨statement, balance, hstatement, hmember, hadds⟩ :=
    h Reference.stdlib backdatedCredits ⟨"media-center", none, [], none⟩ "editor-1" 1
  unfold backdatedCredits at hstatement hmember
  rw [hboth] at hstatement hmember
  have hlisted : (memberOperations [r, r'] "media-center" "editor-1").insertionSort newerFirst =
      [r, r'] := by
    have hnewer : newerFirst r r' := .inl (by rw [hdate, hdate']; decide)
    simp [memberOperations, howner, howner', hnewer]
  have hstatement : statement = [r] := by
    rw [listOperations_eq hwell] at hstatement
    cases hstatement
    exact congrArg (List.take 1) hlisted
  have htotal : balance.balanceMcv = 1000 := by
    have hsum : (memberAmounts [r, r'] "media-center" "editor-1").sum = 1000 := by
      rw [show memberAmounts [r, r'] "media-center" "editor-1" = _ from hamounts]
      rfl
    rw [balanceForMember_eq hwell] at hmember
    split at hmember
    · cases hmember
      exact hsum
    · cases hmember
  have hfirst := hadds.first r (by rw [hstatement]; rfl)
  rw [hown, htotal] at hfirst
  exact absurd hfirst (by decide)

end MediaCenter.Wallet
