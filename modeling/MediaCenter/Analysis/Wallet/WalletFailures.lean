import MediaCenter.Analysis.Shared.EventNormalForms
import MediaCenter.Analysis.Wallet.LedgerBalances

/-!
# Failed calls of the wallet

An operation is stored before its event and its answer are checked.  The checks that come too
late: a tenant id with a dot names no routing key, and the digits of an answer are limited.
-/

set_option autoImplicit false

namespace MediaCenter.Wallet

open MediaCenter.Library MediaCenter.Shared InMemoryWalletRepository

/-! ## The checks after an operation is stored -/

section Checks

variable {py : Stdlib} {s : WalletState} {call : WalletCall} {record : WalletOperationRecord}
  {audit : AuditLogRecord}

/-- The ids that stand in for a missing correlation id are all accepted. -/
theorem tokenPattern_correlationId {i : ℕ}
    (h : tokenPattern (Text.trim (call.correlationId i)) = true) (j : ℕ) :
    tokenPattern (Text.trim (call.correlationId j)) = true := by
  have hnew : tokenPattern (Text.trim (newId "corr" (call.env.uuid j))) = true := by
    have htoken : tokenPattern (newId "corr" (call.env.uuid j)) = true :=
      tokenPattern_newId (by decide) (by decide) _
    rw [Text.trim_of_forall_visible (visible_of_tokenPattern htoken)]
    exact htoken
  unfold WalletCall.correlationId orDefault at h ⊢
  cases hgiven : call.context.correlationId with
  | none => exact hnew
  | some correlationId =>
      rw [hgiven] at h
      simp only at h ⊢
      by_cases hempty : correlationId = ""
      · rw [if_pos hempty]
        exact hnew
      · rw [if_neg hempty] at h ⊢
        exact h

/-- INTERNAL: the event of an operation is refused for the dot in its tenant's id only. -/
theorem exists_eventEnvelope_iff {subject : String} (h : Recorded s call subject)
    (record : WalletOperationRecord) :
    (∃ event, eventEnvelope (call.event record) = .ok event) ↔
      call.context.tenantId.toList.contains '.' = false := by
  have hid : tokenPattern (newId "evt-wallet-operation-recorded" (call.env.uuid 3)) = true :=
    tokenPattern_newId (by decide) (by decide) _
  have htype : normalizeEventType walletOperationRecordedEvent =
      .ok walletOperationRecordedEvent := by decide
  have hversion : normalizeSchemaVersion walletSchemaVersion = .ok walletSchemaVersion := by
    decide
  have hsource : normalizeToken walletSource "source" = .ok walletSource := by decide
  have hcorrelation := tokenPattern_correlationId h.correlationId 2
  have hevent : (∃ event, eventEnvelope (call.event record) = .ok event) ↔
      call.context.tenantId.toList.contains '.' = false ∧
        ∃ id, normalizeToken (newId "evt-wallet-operation-recorded" (call.env.uuid 3)) "event_id" =
          .ok id :=
    exists_eventEnvelope_iff_normalizeToken htype hversion h.tenantId hsource hcorrelation rfl
  rw [hevent]
  exact and_iff_left ⟨_, normalizeToken_of_tokenPattern hid _⟩

/-- The call answers, or it leaves the operations and the events as they are. -/
def AllOrNothing (py : Stdlib) (s : WalletState) (call : WalletCall) : Prop :=
  ∀ e, (recordWalletOperation py s call).1 = .error e →
    (recordWalletOperation py s call).2.operations = s.operations ∧
      (recordWalletOperation py s call).2.published = s.published

/-- If the call is recorded, its tenant has no dot, its subject is an id, and the new balance
fits the answers. -/
def Answerable (s : WalletState) (call : WalletCall) : Prop :=
  ∀ subject, Recorded s call subject →
    call.context.tenantId.toList.contains '.' = false ∧
    tokenPattern (Text.trim subject) = true ∧
    fitsDigits (call.amountsAfter s).sum = true

theorem AllOrNothing.of_answerable (hlog : WellFormed s.operations) (h : Answerable s call) :
    AllOrNothing py s call := by
  intro e he
  generalize hresult : recordWalletOperation py s call = result at he ⊢
  have houtcome := outcome py s call
  rw [hresult] at houtcome
  cases houtcome with
  | refused e hstart => exact ⟨rfl, rfl⟩
  | replayed r hstart => exact ⟨rfl, rfl⟩
  | unpublished audit r e hstart hevent =>
      obtain ⟨subject, hrecorded, _⟩ := (startOperation_eq_recorded hstart).exists_recorded
      obtain ⟨event, haccepted⟩ :=
        (exists_eventEnvelope_iff hrecorded r).mpr (h subject hrecorded).1
      rw [haccepted] at hevent
      cases hevent
  | published audit r event hstart hevent =>
      have hnew := startOperation_eq_recorded hstart
      obtain ⟨subject, hrecorded, hcreatedBy⟩ := hnew.exists_recorded
      obtain ⟨_, hsubject, hbalance⟩ := h subject hrecorded
      have htenant : tenantIdPattern r.tenantId = true := by
        rw [hnew.tenantId_eq.1]
        exact hrecorded.tenantId
      have hanswered : ∃ response, operationResponse r = .ok response := by
        rw [exists_operationResponse_iff hnew.recordedBy htenant, hnew.balanceAfter_eq hlog,
          hnew.memberAmounts_eq, hcreatedBy]
        exact ⟨hsubject, hbalance⟩
      obtain ⟨response, hresponse⟩ := hanswered
      rw [hresponse] at he
      cases he

end Checks

/-! ## Runs -/

/-- If the call is recorded, it is answerable and the totals of its member fit the answers. -/
def KeepsOpen (s : WalletState) (call : WalletCall) : Prop :=
  Answerable s call ∧ ∀ subject, Recorded s call subject →
    (credited (call.amountsAfter s)).natAbs < 10 ^ 14 ∧
      (debited (call.amountsAfter s)).natAbs < 10 ^ 14

/-- Whoever may read a member's balance and operations gets them. -/
structure Open (s : WalletState) : Prop where
  balance : ∀ context memberId, tenantIdPattern context.tenantId = true →
    tokenPattern memberId = true → ensureMemberReadAllowed context memberId = .ok () →
    ∃ response, getWalletBalance s context (some memberId) = .ok response
  operations : ∀ context memberId refType refId limit offset,
    ensureMemberReadAllowed context memberId = .ok () →
    ∃ items, listWalletOperations s context (some memberId) refType refId limit offset = .ok items

section Runs

variable {py : Stdlib} {s : WalletState}

theorem exists_mapM_operationResponse {records : List WalletOperationRecord}
    (h : Returnable records) : ∃ items, records.mapM operationResponse = .ok items := by
  induction records with
  | nil => exact ⟨[], rfl⟩
  | cons r records ih =>
      obtain ⟨response, hresponse⟩ := h r List.mem_cons_self
      obtain ⟨items, hitems⟩ := ih fun r' hr' => h r' (List.mem_cons_of_mem r hr')
      rw [List.mapM_cons, hresponse, hitems]
      exact ⟨response :: items, rfl⟩

theorem Open.of_returnable (hlog : WellFormed s.operations) (hreturn : Returnable s.operations)
    (htotals : TotalsBelow (10 ^ 14) s.operations) : Open s where
  balance := by
    intro context memberId htenant hmember hallowed
    obtain ⟨hcredited, hdebited⟩ := htotals context.tenantId memberId
    have hsum := credited_sub_debited (memberAmounts s.operations context.tenantId memberId)
    have hpos := credited_nonneg (memberAmounts s.operations context.tenantId memberId)
    have hneg := debited_nonneg (memberAmounts s.operations context.tenantId memberId)
    have hlarge : (10 : ℕ) ^ 14 ≤ 10 ^ 28 := by decide
    have htrim : Text.trim memberId = memberId :=
      Text.trim_of_forall_visible (visible_of_tokenPattern hmember)
    unfold getWalletBalance
    simp only [pure, Except.pure, bind, Except.bind, hallowed, Except.mapError]
    rw [balanceForMember_eq hlog, if_pos ⟨hcredited.trans_le hlarge, hdebited.trans_le hlarge⟩]
    simp only
    generalize memberAmounts s.operations context.tenantId memberId = amounts at *
    have hvalid : ∃ response, balanceResponse ⟨context.tenantId, memberId, amounts.sum,
        credited amounts, debited amounts, amounts.length⟩ = .ok response := by
      unfold balanceResponse
      rw [Validated.exists_make_eq_ok_iff]
      simp only [WalletBalance.checks, List.forall_mem_cons, htrim, htenant, hmember, fitsDigits,
        decide_eq_true_eq, true_and]
      refine ⟨?_, hcredited, hdebited, fun c hc => by cases hc⟩
      omega
    obtain ⟨response, hresponse⟩ := hvalid
    rw [hresponse]
    exact ⟨response, rfl⟩
  operations := by
    intro context memberId refType refId limit offset hallowed
    unfold listWalletOperations listOperations
    simp only [pure, Except.pure, bind, Except.bind, hallowed, Except.mapError]
    rw [listForTenant_eq_ok hlog]
    simp only
    generalize hlisted : ((_ : List WalletOperationRecord).drop offset).take limit = listed
    have hlistedReturn : Returnable listed := by
      intro r hr
      rw [← hlisted] at hr
      have hsorted := List.mem_of_mem_drop (List.mem_of_mem_take hr)
      rw [List.mem_insertionSort] at hsorted
      exact hreturn r (List.mem_of_mem_filter (List.mem_of_mem_filter hsorted))
    obtain ⟨items, hitems⟩ := exists_mapM_operationResponse hlistedReturn
    rw [hitems]
    exact ⟨items, rfl⟩

/-- As long as each call keeps the wallet open, a failed call writes nothing, and everything
can be read after every call. -/
theorem allOrNothing_of_keepsOpen (py : Stdlib) (calls : List WalletCall)
    (h : EachMeets (recordWalletOperation py) KeepsOpen .initial calls) :
    (∀ earlier call later, calls = earlier ++ call :: later →
      AllOrNothing py (after (recordWalletOperation py) .initial earlier) call) ∧
    Open (after (recordWalletOperation py) .initial calls) := by
  refine ⟨?_, ?_⟩
  · intro earlier call later hsplit
    have hmeets := (eachMeets_iff_forall_split _ _ _ _).mp h earlier call later hsplit
    exact .of_answerable (consistentLog_after py earlier).wellFormed hmeets.1
  · have hkeeps : ∀ s call subject, KeepsOpen s call → Recorded s call subject →
        FitsBelow (10 ^ 14) s call subject := by
      intro s call subject hkeeps hrecorded
      obtain ⟨_, hsubject, hbalance⟩ := hkeeps.1 subject hrecorded
      exact ⟨hsubject, hbalance, hkeeps.2 subject hrecorded⟩
    obtain ⟨hreturn, htotals⟩ := returnable_after (by decide) hkeeps h
    exact .of_returnable (consistentLog_after py calls).wellFormed hreturn htotals

theorem eachMeets_keepsOpen_of_turnover (py : Stdlib) {calls : List WalletCall}
    (hroutable : ∀ call ∈ calls, call.context.tenantId.toList.contains '.' = false)
    (hsubjects : ∀ call ∈ calls, ∀ subject, subjectOf call.context = .ok subject →
      tokenPattern (Text.trim subject) = true) (hsmall : callsTurnover calls < 10 ^ 14) :
    EachMeets (recordWalletOperation py) KeepsOpen .initial calls := by
  rw [eachMeets_iff_forall_split]
  intro earlier call later hsplit
  have hmem : call ∈ calls := by
    rw [hsplit]
    exact List.mem_append_right _ List.mem_cons_self
  constructor
  · intro subject hrecorded
    obtain ⟨hsubject, hbalance, _⟩ := fitsBelow_of_turnover hsplit hsubjects hsmall hrecorded
    exact ⟨hroutable call hmem, hsubject, hbalance⟩
  · intro subject hrecorded
    exact (fitsBelow_of_turnover hsplit hsubjects hsmall hrecorded).2.2

open Reference in
/-- A credit, a debit, a replay and a conflict keep the wallet open. -/
theorem allOrNothing_calls :
    (∀ earlier call later, WalletSample.calls = earlier ++ call :: later →
      AllOrNothing stdlib
        (after (recordWalletOperation stdlib) .initial earlier) call) ∧
    Open (after (recordWalletOperation stdlib) .initial WalletSample.calls) :=
  allOrNothing_of_keepsOpen stdlib WalletSample.calls
    (eachMeets_keepsOpen_of_turnover stdlib (by decide) WalletSample.subject_calls
      WalletSample.callsTurnover_calls)

/-- INTERNAL: the second credit is stored, and its answer is refused for its balance. -/
theorem not_allOrNothing_secondCredit (py : Stdlib) :
    ¬ AllOrNothing py (after (recordWalletOperation py) .initial
      [creditCall "credit-1" (by decide)]) (creditCall "credit-2" (by decide)) := by
  intro hnothing
  obtain ⟨r, r', hone, htwo, hby, _, hbalance⟩ := operations_twoCredits py
  have hwellFormed := (consistentLog_after py twoCredits).wellFormed r'
    (by rw [htwo]; exact List.mem_cons_of_mem r List.mem_cons_self)
  have hunanswered : ¬ ∃ response, operationResponse r' = .ok response := by
    rw [exists_operationResponse_iff hby hwellFormed, hbalance]
    rintro ⟨_, hfits⟩
    revert hfits
    decide
  unfold twoCredits at htwo
  simp only [after] at hone htwo hnothing
  generalize (recordWalletOperation py .initial (creditCall "credit-1" (by decide))).2 = s
    at hone htwo hnothing
  generalize creditCall "credit-2" (by decide) = call at htwo hnothing
  unfold AllOrNothing at hnothing
  generalize hresult : recordWalletOperation py s call = result at htwo hnothing
  have houtcome := outcome py s call
  rw [hresult] at houtcome
  cases houtcome with
  | refused e hstart => simp [hone] at htwo
  | replayed r hstart => simp [hone] at htwo
  | unpublished audit r₀ e hstart hevent =>
      have hgrown := (hnothing (.shared e) rfl).1
      simp at hgrown
  | published audit r₀ event hstart hevent =>
      have hsame : r₀ = r' := by simpa [hone] using htwo
      subst hsame
      cases hanswer : operationResponse r₀ with
      | ok response => exact hunanswered ⟨response, hanswer⟩
      | error e =>
          rw [hanswer] at hnothing
          have hgrown := (hnothing (.shared e) rfl).1
          simp at hgrown

/-- INTERNAL: after both, the balance of the member cannot be read. -/
theorem not_open_twoCredits (py : Stdlib) :
    ¬ Open (after (recordWalletOperation py) .initial twoCredits) := by
  intro hopen
  obtain ⟨r, r', _, htwo, _, hamounts, _⟩ := operations_twoCredits py
  have hlog := (consistentLog_after py twoCredits).wellFormed
  obtain ⟨response, hresponse⟩ := hopen.balance
    ⟨"media-center", some "council-1", [councilRole], none⟩ "editor-1" (by decide)
    (by decide) rfl
  generalize after (recordWalletOperation py) .initial twoCredits = s at htwo hlog hresponse
  have hfound : memberAmounts s.operations "media-center" "editor-1" =
      [10 ^ 14 - 1, 10 ^ 14 - 1] := by
    rw [htwo]
    exact hamounts
  unfold getWalletBalance at hresponse
  simp only [bind_eq_ok_iff, mapError_eq_ok_iff] at hresponse
  obtain ⟨memberId, hmember, _, _, balance, hbalance, hresponse⟩ := hresponse
  cases hmember
  rw [balanceForMember_eq hlog, hfound, if_pos (by decide)] at hbalance
  cases hbalance
  have hchecks := (Validated.exists_make_eq_ok_iff _ _).mp ⟨response, hresponse⟩
  have hfits : fitsDigits (([10 ^ 14 - 1, 10 ^ 14 - 1] : List ℤ).sum) = true :=
    hchecks ("balance_mcv", fitsDigits _)
      (List.mem_cons_of_mem _ (List.mem_cons_of_mem _ List.mem_cons_self))
  revert hfits
  decide

open Reference in
/-- The second one fails and is stored, and then the member's balance cannot be read. -/
theorem not_allOrNothing_twoCredits :
    ¬ (∀ (py : Stdlib) (calls : List WalletCall),
        (∀ earlier call later, calls = earlier ++ call :: later →
          AllOrNothing py (after (recordWalletOperation py) .initial earlier) call)) ∧
    ¬ (∀ (py : Stdlib) (calls : List WalletCall),
        Open (after (recordWalletOperation py) .initial calls)) := by
  refine ⟨?_, ?_⟩
  · intro h
    exact not_allOrNothing_secondCredit stdlib (h stdlib twoCredits
      [creditCall "credit-1" (by decide)] (creditCall "credit-2" (by decide)) []
      rfl)
  · intro h
    exact not_open_twoCredits stdlib (h stdlib twoCredits)

end Runs

end MediaCenter.Wallet
