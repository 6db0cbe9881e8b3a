import MediaCenter.Analysis.BlockchainAuditor.AuditBatches
import MediaCenter.Analysis.PolicyManager.PolicyHistory
import MediaCenter.Model.WebCabinet.CouncilPanel

/-!
# What the overview lists

An overview is built exactly when the annotations and the audit records of the payouts keep to
the limits of the response; the fields of a stored payout always do.  It then lists each payout
of the tenant once, as it is stored.
-/

set_option autoImplicit false

namespace MediaCenter.WebCabinet

open MediaCenter.Library MediaCenter.Shared MediaCenter.HitlPayout
open MediaCenter.PolicyManager (PolicyRecord exists_defaults)

/-! ## Fields of a stored payout -/

theorem hasLength_of_tokenPattern {s : String} (h : tokenPattern s = true) :
    hasLength 1 128 s = true := by
  unfold tokenPattern Text.matchesHeadTail at h
  unfold hasLength
  cases hl : s.toList with
  | nil => simp [hl] at h
  | cons c l =>
      simp only [hl, Bool.and_eq_true, decide_eq_true_eq, List.length_cons] at h ⊢
      omega

theorem hasLength_of_auditHashPattern {s : String} (h : auditHashPattern s = true) :
    hasLength 64 64 s = true := by
  unfold auditHashPattern at h
  unfold hasLength
  simp only [Bool.and_eq_true, decide_eq_true_eq] at h ⊢
  omega

theorem isWhiteSpace_of_isDecimal {c : Char} (h : Text.isDecimal c = true) :
    Text.isWhiteSpace c = false := by
  have hdigits : ∀ z ∈ Text.decimalZeros, ∀ i < 10,
      ((9 ≤ z + i && z + i ≤ 13) || z + i = 0x20 || z + i = 0x85 || z + i = 0xA0 ||
        z + i = 0x1680 || (0x2000 ≤ z + i && z + i ≤ 0x200A) || z + i = 0x2028 ||
        z + i = 0x2029 || z + i = 0x202F || z + i = 0x205F || z + i = 0x3000) = false := by
    decide
  unfold Text.isDecimal at h
  rw [List.any_eq_true] at h
  obtain ⟨z, hz, hrange⟩ := h
  rw [Bool.and_eq_true, decide_eq_true_eq, decide_eq_true_eq] at hrange
  obtain ⟨i, hi⟩ := Nat.exists_eq_add_of_le hrange.1
  have hdigit := hdigits z hz i (by omega)
  rw [← hi] at hdigit
  exact hdigit

theorem trim_of_periodPattern {s : String} (h : periodPattern s = true) : Text.trim s = s := by
  apply Text.dropBoth_of_forall_not
  have hascii : ∀ c : Char, '-' ≤ c ∧ c ≤ '9' → Text.isWhiteSpace c = false := by
    intro c hc
    have hlo : 45 ≤ c.toNat := hc.1
    have hhi : c.toNat ≤ 57 := hc.2
    exact Text.Visible.isWhiteSpace ⟨by omega, by omega⟩
  unfold periodPattern at h
  split at h
  · rename_i y1 y2 y3 y4 dash m1 m2 hl
    rw [hl]
    simp only [List.all_cons, List.all_nil, Bool.and_true, Bool.and_eq_true, Bool.or_eq_true,
      beq_iff_eq, decide_eq_true_eq] at h
    obtain ⟨⟨⟨h1, h2, h3, h4⟩, rfl⟩, hmonth⟩ := h
    have hm1 : '-' ≤ m1 ∧ m1 ≤ '9' := by
      rcases hmonth with ⟨⟨rfl, _⟩, _⟩ | ⟨⟨rfl, _⟩, _⟩
      · decide
      · decide
    have hm2 : '-' ≤ m2 ∧ m2 ≤ '9' := by
      rcases hmonth with ⟨⟨_, hlo⟩, hhi⟩ | ⟨⟨_, hlo⟩, hhi⟩
      · exact ⟨le_trans (by decide) hlo, hhi⟩
      · exact ⟨le_trans (by decide) hlo, le_trans hhi (by decide)⟩
    intro c hc
    simp only [List.mem_cons, List.not_mem_nil, or_false] at hc
    rcases hc with rfl | rfl | rfl | rfl | rfl | rfl | rfl
    · exact isWhiteSpace_of_isDecimal h1
    · exact isWhiteSpace_of_isDecimal h2
    · exact isWhiteSpace_of_isDecimal h3
    · exact isWhiteSpace_of_isDecimal h4
    · exact hascii _ (by decide)
    · exact hascii _ hm1
    · exact hascii _ hm2
  · cases h

/-- The checks a stored payout has passed. -/
structure PayoutChecked (p : PayoutQueueItem) : Prop where
  payoutId : tokenPattern p.payoutId = true
  memberId : tokenPattern p.memberId = true
  period : periodPattern p.queued.fields.period = true
  payoutShare : isShare p.queued.fields.payoutShare = true
  distributionId : tokenPattern p.queued.fields.distributionId = true
  distributionHash : auditHashPattern p.queued.fields.distributionHash = true

theorem payoutChecked (p : PayoutQueueItem) : PayoutChecked p := by
  have hvalid := p.queued.valid
  simp only [QueuedFields.checks, List.forall_mem_cons] at hvalid
  obtain ⟨hid, _, hmember, hperiod, hshare, hdistribution, hhash, _⟩ := hvalid
  exact ⟨hid, hmember, hperiod, hshare, hdistribution, hhash⟩

/-! ## What an item needs -/

/-- An annotation within the limits of the response. -/
structure CouncilPanelPayoutAnnotation.Fits (note : CouncilPanelPayoutAnnotation) :
    Prop where
  riskLevel : hasLength 1 32 (Text.trim note.riskLevel) = true
  riskReason : hasLength 1 512 (Text.trim note.riskReason) = true
  policyKey : hasLength 1 128 (Text.trim note.policyKey) = true
  calculationSource : hasLength 1 128 (Text.trim note.calculationSource) = true
  calculationExplanation : hasLength 1 512 (Text.trim note.calculationExplanation) = true

/-- An audit record within the limits of the response. -/
structure CouncilPanelAuditRecord.Fits (record : CouncilPanelAuditRecord) : Prop where
  eventType : hasLength 1 128 (Text.trim record.eventType) = true
  eventId : hasLength 1 128 (Text.trim record.eventId) = true
  auditHash : hasLength 64 64 (Text.trim record.auditHash) = true

theorem exists_councilPanelAuditItem_iff (record : CouncilPanelAuditRecord) :
    (∃ item, councilPanelAuditItem record = .ok item) ↔ record.Fits := by
  unfold councilPanelAuditItem
  rw [Validated.exists_make_eq_ok_iff]
  simp only [PanelAuditFields.checks, List.forall_mem_cons, List.not_mem_nil, false_imp_iff,
    implies_true, and_true]
  constructor
  · rintro ⟨htype, hid, hhash⟩
    exact ⟨htype, hid, hhash⟩
  · rintro ⟨htype, hid, hhash⟩
    exact ⟨htype, hid, hhash⟩

theorem exists_councilPanelCalculation_iff (p : PayoutQueueItem)
    (note : CouncilPanelPayoutAnnotation) :
    (∃ calculation, councilPanelCalculation
        { source := note.calculationSource
          explanation := note.calculationExplanation
          distributionId := p.queued.fields.distributionId
          distributionHash := p.queued.fields.distributionHash
          payoutShare := p.queued.fields.payoutShare } = .ok calculation) ↔
      hasLength 1 128 (Text.trim note.calculationSource) = true ∧
        hasLength 1 512 (Text.trim note.calculationExplanation) = true := by
  have hchecked := payoutChecked p
  unfold councilPanelCalculation
  rw [Validated.exists_make_eq_ok_iff]
  simp only [CalculationFields.checks, List.forall_mem_cons, List.not_mem_nil, false_imp_iff,
    implies_true, and_true, trim_of_tokenPattern hchecked.distributionId,
    hasLength_of_tokenPattern hchecked.distributionId,
    trim_of_auditHashPattern hchecked.distributionHash,
    hasLength_of_auditHashPattern hchecked.distributionHash, hchecked.payoutShare]

namespace WebCabinetAPIState

variable (state : WebCabinetAPIState) (context : TenantContext)

/-- The annotation of a payout, its own or the one it gets. -/
def annotationOf (p : PayoutQueueItem) : CouncilPanelPayoutAnnotation :=
  (((state.councilPanelRepository.annotations.entries.map Prod.snd).filter fun a =>
    a.tenantId = context.tenantId).find? fun a => a.payoutId = p.payoutId).getD
      { tenantId := context.tenantId
        payoutId := p.payoutId
        riskLevel := defaultRiskLevel p
        riskReason := "Автоматическая оценка по доле выплаты" }

/-- The audit records shown with a payout. -/
def timelineOf (p : PayoutQueueItem) : List CouncilPanelAuditRecord :=
  (((state.councilPanelRepository.auditRecords.filter fun r =>
    r.tenantId = context.tenantId).filter fun r => r.payoutId = p.payoutId).insertionSort
      InMemoryCouncilPanelRepository.recordBefore).take 20

/-- A payout can be shown: what is kept about it is within the limits of the response, and every
annotation and audit record has a tenant id. -/
structure Shows (p : PayoutQueueItem) : Prop where
  annotationTenants : ∀ a ∈ state.councilPanelRepository.annotations.entries.map Prod.snd,
    tenantIdPattern a.tenantId = true
  fits : (state.annotationOf context p).Fits
  recordTenants : ∀ record ∈ state.councilPanelRepository.auditRecords,
    tenantIdPattern record.tenantId = true
  timeline : ∀ record ∈ state.timelineOf context p, record.Fits

/-- An item as it stands for a payout. -/
structure ItemOf (now : Instant) (p : PayoutQueueItem) (item : CouncilPanelPayoutItem) : Prop where
  payoutId : item.fields.payoutId = p.payoutId
  status : item.fields.status = p.status
  vetoUntil : item.fields.vetoUntil = p.vetoUntil
  vetoAvailable : item.fields.vetoAvailable = vetoAvailable p now
  confirmAvailable : item.fields.confirmAvailable = state.confirmAvailable context p

variable {state context}

/-- INTERNAL: the tenant ids of the records decide whether a list is read at all. -/
theorem listForTenant_eq_ok_iff {ρ : Type} (tenantIdOf : ρ → String) (records listed : List ρ)
    (context : TenantContext) :
    listForTenant tenantIdOf records context = .ok listed ↔
      (∀ record ∈ records, tenantIdPattern (tenantIdOf record) = true) ∧
        listed = records.filter fun record => tenantIdOf record = context.tenantId := by
  by_cases hall : ∀ record ∈ records, tenantIdPattern (tenantIdOf record) = true
  · rw [listForTenant_eq_ok hall, Except.ok.injEq]
    exact ⟨fun h => ⟨hall, h.symm⟩, fun h => h.2.symm⟩
  · constructor
    · intro h
      exfalso
      apply hall
      unfold listForTenant at h
      rw [bind_eq_ok_iff] at h
      obtain ⟨u, hforM, _⟩ := h
      rw [forM_eq_ok_iff] at hforM
      intro record hrecord
      have hone := hforM record hrecord
      unfold validatedTenantId at hone
      by_contra hnot
      rw [if_neg hnot] at hone
      cases hone
    · exact fun h => absurd h.1 hall

theorem annotationForPayout_eq_ok_iff (p : PayoutQueueItem)
    (note : CouncilPanelPayoutAnnotation) :
    state.annotationForPayout context p = .ok note ↔
      (∀ a ∈ state.councilPanelRepository.annotations.entries.map Prod.snd,
        tenantIdPattern a.tenantId = true) ∧ note = state.annotationOf context p := by
  unfold annotationForPayout InMemoryCouncilPanelRepository.getAnnotation annotationOf
  simp only [bind_eq_ok_iff, listForTenant_eq_ok_iff]
  constructor
  · rintro ⟨found, ⟨listed, ⟨hall, rfl⟩, hfound⟩, hannotation⟩
    cases hfound
    refine ⟨hall, ?_⟩
    cases hfind : List.find? (fun a : CouncilPanelPayoutAnnotation => a.payoutId = p.payoutId)
        ((state.councilPanelRepository.annotations.entries.map Prod.snd).filter fun a =>
          a.tenantId = context.tenantId) with
    | none =>
        rw [hfind] at hannotation
        cases hannotation
        rfl
    | some a =>
        rw [hfind] at hannotation
        cases hannotation
        rfl
  · rintro ⟨hall, rfl⟩
    refine ⟨_, ⟨_, ⟨hall, rfl⟩, rfl⟩, ?_⟩
    cases List.find? (fun a : CouncilPanelPayoutAnnotation => a.payoutId = p.payoutId)
        ((state.councilPanelRepository.annotations.entries.map Prod.snd).filter fun a =>
          a.tenantId = context.tenantId) with
    | none => rfl
    | some a => rfl

theorem listAuditRecords_eq_ok_iff (p : PayoutQueueItem) (records : List CouncilPanelAuditRecord) :
    state.councilPanelRepository.listAuditRecords context p.payoutId = .ok records ↔
      (∀ r ∈ state.councilPanelRepository.auditRecords, tenantIdPattern r.tenantId = true) ∧
        records = state.timelineOf context p := by
  unfold InMemoryCouncilPanelRepository.listAuditRecords timelineOf
  rw [bind_eq_ok_iff]
  simp only [listForTenant_eq_ok_iff]
  constructor
  · rintro ⟨listed, ⟨hall, rfl⟩, h⟩
    cases h
    exact ⟨hall, rfl⟩
  · rintro ⟨hall, rfl⟩
    exact ⟨_, ⟨hall, rfl⟩, rfl⟩

/-- INTERNAL: the last check of an item only meets the annotation. -/
theorem exists_panelPayoutItem_iff (p : PayoutQueueItem)
    (note : CouncilPanelPayoutAnnotation) (policy : Option PolicyRecord) (now : Instant)
    (calculation : CouncilPanelCalculation) (timeline : List CouncilPanelAuditItem) :
    (∃ item, panelPayoutItem
        { payoutId := p.payoutId
          memberId := p.memberId
          period := p.queued.fields.period
          payoutShare := p.queued.fields.payoutShare
          status := p.status
          vetoUntil := p.vetoUntil
          vetoSecondsLeft := vetoSecondsLeft p now
          requires2fa := p.queued.fields.requires2fa
          confirmationId := p.confirmationId
          riskLevel := note.riskLevel
          riskReason := note.riskReason
          policyKey := note.policyKey
          policyVersion := (policy.map fun p => p.fields.version).getD 1
          vetoAvailable := vetoAvailable p now
          confirmAvailable := state.confirmAvailable context p
          calculation := calculation
          auditTimeline := timeline } = .ok item) ↔
      hasLength 1 32 (Text.trim note.riskLevel) = true ∧
        hasLength 1 512 (Text.trim note.riskReason) = true ∧
        hasLength 1 128 (Text.trim note.policyKey) = true := by
  have hchecked := payoutChecked p
  have hversion : 1 ≤ (policy.map fun p => p.fields.version).getD 1 := by
    cases policy with
    | none => exact le_refl 1
    | some record =>
        have hvalid := record.valid ("version", decide (1 ≤ record.fields.version))
          (by simp [PolicyManager.PolicyFields.checks])
        exact of_decide_eq_true hvalid
  have hseconds : 0 ≤ vetoSecondsLeft p now := le_max_left _ _
  unfold panelPayoutItem
  rw [Validated.exists_make_eq_ok_iff]
  simp only [PanelItemFields.checks, List.forall_mem_cons, List.not_mem_nil, false_imp_iff,
    implies_true, and_true, trim_of_tokenPattern hchecked.payoutId,
    hasLength_of_tokenPattern hchecked.payoutId, trim_of_tokenPattern hchecked.memberId,
    hchecked.memberId, trim_of_periodPattern hchecked.period, hchecked.period,
    hchecked.payoutShare, hversion, hseconds, decide_true, true_and]

theorem exists_councilPanelPayoutItem_iff (p : PayoutQueueItem) (policy : Option PolicyRecord)
    (now : Instant) :
    (∃ item, state.councilPanelPayoutItem context p (state.annotationOf context p) policy now =
        .ok item) ↔
      (state.annotationOf context p).Fits ∧
        (∀ r ∈ state.councilPanelRepository.auditRecords, tenantIdPattern r.tenantId = true) ∧
        ∀ record ∈ state.timelineOf context p, record.Fits := by
  unfold councilPanelPayoutItem
  simp only [bind_eq_ok_iff, listAuditRecords_eq_ok_iff]
  constructor
  · rintro ⟨item, calculation, hcalculation, _, ⟨htenants, rfl⟩, timeline, htimeline, hitem⟩
    obtain ⟨hsource, hexplanation⟩ :=
      (exists_councilPanelCalculation_iff p _).mp ⟨calculation, hcalculation⟩
    obtain ⟨hlevel, hreason, hkey⟩ := (exists_panelPayoutItem_iff p _ _ _ _ _).mp ⟨item, hitem⟩
    refine ⟨⟨hlevel, hreason, hkey, hsource, hexplanation⟩, htenants, ?_⟩
    intro record hrecord
    exact (exists_councilPanelAuditItem_iff record).mp
      ((exists_mapM_eq_ok_iff _ _).mp ⟨timeline, htimeline⟩ record hrecord)
  · rintro ⟨hfits, htenants, hrecords⟩
    obtain ⟨calculation, hcalculation⟩ := (exists_councilPanelCalculation_iff p _).mpr
      ⟨hfits.calculationSource, hfits.calculationExplanation⟩
    obtain ⟨timeline, htimeline⟩ := (exists_mapM_eq_ok_iff _ _).mpr fun record hrecord =>
      (exists_councilPanelAuditItem_iff record).mpr (hrecords record hrecord)
    obtain ⟨item, hitem⟩ := (exists_panelPayoutItem_iff p _ policy now calculation timeline).mpr
      ⟨hfits.riskLevel, hfits.riskReason, hfits.policyKey⟩
    exact ⟨item, calculation, hcalculation, _, ⟨htenants, rfl⟩, timeline, htimeline, hitem⟩

/-- INTERNAL: an item shows the payout it is made for. -/
theorem itemOf_of_councilPanelPayoutItem {p : PayoutQueueItem}
    {note : CouncilPanelPayoutAnnotation} {policy : Option PolicyRecord} {now : Instant}
    {item : CouncilPanelPayoutItem}
    (h : state.councilPanelPayoutItem context p note policy now = .ok item) :
    state.ItemOf context now p item := by
  unfold councilPanelPayoutItem at h
  simp only [bind_eq_ok_iff] at h
  obtain ⟨calculation, _, records, _, timeline, _, hitem⟩ := h
  have hfields := (Validated.make_eq_ok_iff _ _ _).mp hitem
  have hid : item.fields.payoutId = Text.trim p.payoutId := by
    rw [hfields]
  refine ⟨?_, ?_, ?_, ?_, ?_⟩
  · rw [hid, trim_of_tokenPattern (payoutChecked p).payoutId]
  · rw [hfields]
  · rw [hfields]
  · rw [hfields]
  · rw [hfields]

end WebCabinetAPIState

/-! ## The payouts of a tenant -/

theorem listPayouts_perm (repository : PayoutRepository) (tenantId : String) :
    (listPayouts repository tenantId).Perm
      ((repository.payouts.entries.filter fun e => e.1.1 = tenantId).map Prod.snd) :=
  List.perm_insertionSort _ _

theorem mem_listPayouts_iff (repository : PayoutRepository) (tenantId : String)
    (p : PayoutQueueItem) :
    p ∈ listPayouts repository tenantId ↔
      repository.payouts.get? (tenantId, p.payoutId) = some p := by
  rw [(listPayouts_perm repository tenantId).mem_iff, List.mem_map]
  constructor
  · rintro ⟨⟨k, p'⟩, he, rfl⟩
    rw [List.mem_filter, decide_eq_true_eq] at he
    have hget := Dict.get?_eq_some_iff.mpr he.1
    have hkey := repository.keyed k p' hget
    have hpair : k = (tenantId, p'.payoutId) := by
      rw [← he.2, hkey]
      rfl
    rw [← hpair]
    exact hget
  · intro hget
    have hmem := Dict.get?_eq_some_iff.mp hget
    refine ⟨((tenantId, p.payoutId), p), ?_, rfl⟩
    rw [List.mem_filter]
    exact ⟨hmem, by simp⟩

theorem nodup_listPayouts (repository : PayoutRepository) (tenantId : String) :
    ((listPayouts repository tenantId).map PayoutQueueItem.payoutId).Nodup := by
  have hperm := (listPayouts_perm repository tenantId).map PayoutQueueItem.payoutId
  rw [hperm.nodup_iff, List.map_map]
  have hentries : (repository.payouts.entries.filter fun e => e.1.1 = tenantId).Pairwise
      fun a b => a.1 ≠ b.1 := by
    have hall := repository.payouts.nodup
    rw [List.Nodup, List.pairwise_map] at hall
    exact hall.filter _
  rw [List.Nodup, List.pairwise_map]
  refine hentries.imp_of_mem ?_
  rintro ⟨k, p⟩ ⟨k', p'⟩ hmem hmem' hne hsame
  apply hne
  rw [List.mem_filter, decide_eq_true_eq] at hmem hmem'
  have hkey := repository.keyed k p (Dict.get?_eq_some_iff.mpr hmem.1)
  have hkey' := repository.keyed k' p' (Dict.get?_eq_some_iff.mpr hmem'.1)
  rw [Prod.ext_iff]
  refine ⟨hmem.2.trans hmem'.2.symm, ?_⟩
  have hid : k.2 = p.payoutId := congrArg Prod.snd hkey
  have hid' : k'.2 = p'.payoutId := congrArg Prod.snd hkey'
  rw [hid, hid']
  exact hsame

end MediaCenter.WebCabinet
