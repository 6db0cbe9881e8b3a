import Mathlib.Tactic.NormNum
import MediaCenter.Analysis.Shared.EventNormalForms
import MediaCenter.Library.Unwinding
import MediaCenter.Model.ActivityCommandCenter.CommandCenter

/-!
# Calls that leave their audit record behind

The audit record is written before the rest is checked.  A call that raises from then on leaves
the record, and where it raises over its event, also what it stored.
-/

set_option autoImplicit false

namespace MediaCenter.ActivityCommandCenter

open MediaCenter.Library MediaCenter.Shared

/-- The thresholds that `get_thresholds` gives for a tenant. -/
def thresholdsInForce (s : ActivityState) (tenantId : String) : Option ThresholdSettings :=
  (s.repository.thresholds.get? tenantId).or (defaultThresholds tenantId).toOption

/-- The two states cannot be told apart: the default thresholds of a tenant may have been stored
in between. -/
structure Same (s s' : ActivityState) : Prop where
  tasks : s'.repository.tasks = s.repository.tasks
  thresholds : ∀ tenantId, thresholdsInForce s' tenantId = thresholdsInForce s tenantId
  auditLog : s'.auditLog = s.auditLog
  published : s'.published = s.published

/-- A call that raises leaves everything as it was. -/
def AllOrNothing (py : Stdlib) (s : ActivityState) (call : ActivityCall) : Prop :=
  ∀ e, (s.step py call).1 = .error e → Same s (s.step py call).2

/-! ## The log and the store -/

def recordsOf (eventType : String) (s : ActivityState) : List AuditLogRecord :=
  s.auditLog.filter fun record => record.fields.eventType == eventType

/-- The task that a record names, with the hash of the record. -/
def recordedTask (record : AuditLogRecord) : Option ((String × String) × String) :=
  match JSONValue.item "task_id" record.fields.metadata with
  | some (.str taskId) =>
      some ((record.fields.tenantId, Text.trim taskId), record.fields.auditHash)
  | _ => none

/-- The revision that a record names. -/
def recordedRevision (record : AuditLogRecord) : Option ℤ :=
  match JSONValue.item "revision" record.fields.metadata with
  | some (.int revision) => some revision
  | _ => none

/-- The revision of the thresholds of a tenant. -/
def revisionOf (s : ActivityState) (tenantId : String) : ℤ :=
  ((thresholdsInForce s tenantId).map fun t => t.fields.revision).getD 1

/-- The log records the creation of each stored task once, and each revision of the thresholds
after the first once. -/
structure LogMatches (s : ActivityState) : Prop where
  tasks : (recordsOf taskCreatedEvent s).map recordedTask =
    s.repository.tasks.entries.map fun e => some (e.1, e.2.fields.auditHash)
  thresholds : ∀ tenantId, ((recordsOf thresholdsUpdatedEvent s).filter
      fun record => record.fields.tenantId == tenantId).map recordedRevision =
    (List.range (revisionOf s tenantId - 1).toNat).map fun k : ℕ => some ((k : ℤ) + 2)

/-! ## Calls that fit -/

/-- An event id that is given is not blank and has no white space inside. -/
def EventIdFits (eventId : Option String) : Prop :=
  ∀ id, eventId = some id → id ≠ "" →
    Text.strip id ≠ "" ∧ ¬ (Text.strip id).toList.any Text.isSpace = true

structure RevisionFits (env : ActivityAmbient) (args : UpdateThresholds) : Prop where
  maxAutonomousRiskScore : args.update.maxAutonomousRiskScore.all unitInterval = true
  minAgentConfidence : args.update.minAgentConfidence.all unitInterval = true
  operationalQueueLimit : args.update.operationalQueueLimit.all queueLimit = true
  strategicQueueLimit : args.update.strategicQueueLimit.all queueLimit = true
  adaptiveQueueLimit : args.update.adaptiveQueueLimit.all queueLimit = true
  updatedBy : tokenPattern (Text.trim args.updatedBy) = true
  tenantId : args.tenantId.toList.contains '.' = false
  eventId : EventIdFits args.eventId
  publisher : env.publisher = .ok ()

structure TaskFits (env : ActivityAmbient) (args : CreateTask) (s : ActivityState)
    (queuedAt : Instant) : Prop where
  dueAt : ∃ due,
    checkedInstant (queuedAt + args.task.feedbackLoop.windowHours * 3600000000) = .ok due
  taskId : tokenPattern (Text.trim (resolvedTaskId env args)) = true
  taskType : taskTypePattern (Text.trim args.task.taskType) = true
  title : hasLength 1 256 (Text.trim args.task.title) = true
  assignee : tokenPattern (Text.trim args.task.assignee) = true
  createdBy : tokenPattern (Text.trim args.createdBy) = true
  agentId : optionalField tokenPattern (args.task.agentId.map Text.trim) = true
  riskScore : unitInterval args.task.riskScore = true
  agentConfidence : unitInterval args.task.agentConfidence = true
  fresh : ¬ s.repository.tasks.contains
    (args.tenantId, Text.trim (resolvedTaskId env args)) = true
  tenantId : args.tenantId.toList.contains '.' = false
  eventId : EventIdFits args.task.eventId
  publisher : env.publisher = .ok ()

/-- The audit record is accepted. -/
def AuditFits (tenantId correlationId : String) : Prop :=
  tenantIdPattern tenantId = true ∧ tokenPattern (Text.trim correlationId) = true

/-- If the call gets as far as its audit record, then nothing after it is refused. -/
def Fits (py : Stdlib) (s : ActivityState) : ActivityCall → Prop
  | .updateThresholds env args =>
      (∃ t, resolveTime py env.now args.updatedAt = .ok t) →
        AuditFits args.tenantId args.correlationId → RevisionFits env args
  | .createTask env args =>
      ∀ queuedAt, resolveTime py env.now args.createdAt = .ok queuedAt →
        AuditFits args.tenantId args.correlationId → TaskFits env args s queuedAt

/-! ## The parts of a call -/

section Parts

variable {py : Stdlib} {env : ActivityAmbient} {s s' s'' : ActivityState}

theorem Same.refl (s : ActivityState) : Same s s := ⟨rfl, fun _ => rfl, rfl, rfl⟩

theorem thresholdsInForce_of_tenantIdPattern {tenantId : String}
    (h : tenantIdPattern tenantId = true) :
    ∃ thresholds, thresholdsInForce s tenantId = some thresholds := by
  unfold thresholdsInForce
  cases s.repository.thresholds.get? tenantId with
  | some thresholds => exact ⟨thresholds, rfl⟩
  | none =>
      have htrim := trim_of_tokenPattern (tokenPattern_of_tenantIdPattern h)
      have hhash : auditHashPattern defaultThresholdAuditHash = true := by decide
      obtain ⟨thresholds, hmade⟩ : ∃ thresholds, defaultThresholds tenantId = .ok thresholds := by
        unfold defaultThresholds
        rw [Validated.exists_make_eq_ok_iff]
        simp [ThresholdFields.checks, htrim, h, hhash, unitInterval, queueLimit, optionalField,
          defaultMaxAutonomousRiskScore, defaultMinAgentConfidence, defaultOperationalQueueLimit,
          defaultStrategicQueueLimit, defaultAdaptiveQueueLimit]
        norm_num
      rw [hmade]
      exact ⟨thresholds, rfl⟩

/-- INTERNAL: what `get_thresholds` stores is what it would return anyway. -/
theorem exec_getThresholds (tenantId : String) (s : ActivityState) :
    ∃ outcome s', Fallible.exec (getThresholds tenantId) s = (outcome, s') ∧ Same s s' ∧
      ∀ thresholds, outcome = .ok thresholds ↔
        thresholdsInForce s tenantId = some thresholds := by
  unfold getThresholds
  rw [Fallible.exec_inspect_bind]
  cases hstored : s.repository.thresholds.get? tenantId with
  | some thresholds =>
      refine ⟨.ok thresholds, s, rfl, Same.refl s, fun other => ?_⟩
      rw [thresholdsInForce, hstored, Option.some_or, Except.ok.injEq, Option.some.injEq]
  | none =>
      simp only [Fallible.exec_ofExcept_bind]
      cases hdefault : defaultThresholds tenantId with
      | error e =>
          refine ⟨_, s, rfl, Same.refl s, fun other => ?_⟩
          rw [thresholdsInForce, hstored, hdefault]
          exact ⟨(fun h => by cases h), (fun h => by cases h)⟩
      | ok thresholds =>
          refine ⟨.ok thresholds, _, rfl, ⟨rfl, fun other => ?_, rfl, rfl⟩, fun other => ?_⟩
          · unfold thresholdsInForce
            simp only [Dict.get?_set]
            split_ifs with hother
            · rw [hother, hstored, hdefault]
              rfl
            · rfl
          · rw [thresholdsInForce, hstored, hdefault, Except.ok.injEq]
            exact Option.some_inj.symm

/-- INTERNAL: an accepted record is appended, and a refused one leaves no trace. -/
theorem exec_recordAudit_of_ok {args : AuditArgs} {record : AuditLogRecord}
    (h : auditRecord py args = .ok record) (s : ActivityState) :
    Fallible.exec (recordAudit py args) s =
      (.ok record, { s with auditLog := s.auditLog ++ [record] }) := by
  unfold recordAudit
  rw [Fallible.exec_ofExcept_bind, h]
  rfl

theorem exec_recordAudit_of_error {args : AuditArgs} {e : SharedException}
    (h : auditRecord py args = .error e) (s : ActivityState) :
    Fallible.exec (recordAudit py args) s = (.error (.shared e), s) := by
  unfold recordAudit
  rw [Fallible.exec_ofExcept_bind, h]
  rfl

/-- INTERNAL: the event is published, or nothing happens. -/
theorem exec_publishEvent (env : ActivityAmbient) (args : EventEnvelope) (s : ActivityState) :
    (((∃ event, eventEnvelope args = .ok event) ∧ env.publisher = .ok ()) ∧
      ∃ published, Fallible.exec (publishEvent env args) s =
        (.ok (), { s with published := published })) ∨
    (¬ ((∃ event, eventEnvelope args = .ok event) ∧ env.publisher = .ok ()) ∧
      ∃ e, Fallible.exec (publishEvent env args) s = (.error e, s)) := by
  unfold publishEvent
  rw [Fallible.exec_ofExcept_bind]
  cases hevent : eventEnvelope args with
  | error e =>
      right
      refine ⟨?_, _, rfl⟩
      rintro ⟨⟨event, h⟩, _⟩
      cases h
  | ok event =>
      simp only [Except.mapError, Fallible.exec_ofExcept_bind]
      cases hpublisher : env.publisher with
      | error e =>
          right
          exact ⟨(fun h => by cases h.2), _, rfl⟩
      | ok u => exact .inl ⟨⟨⟨event, rfl⟩, rfl⟩, _, rfl⟩

/-- INTERNAL: an event of the center is refused for its tenant's dot or its own id. -/
theorem exists_eventEnvelope_iff {args : EventEnvelope} {eventId : Option String} {stem : String}
    {u : Uuid4} (hid : args.eventId = orDefault eventId (newId stem u))
    (hstem : tokenPattern stem = true) (hlength : stem.toList.length ≤ 91)
    (htype : args.type = taskCreatedEvent ∨ args.type = thresholdsUpdatedEvent)
    (hversion : args.schemaVersion = activityCommandCenterSchemaVersion)
    (htenant : tenantIdPattern args.tenantId = true)
    (hsource : args.source = activityCommandCenterSource)
    (hcorrelation : tokenPattern (Text.trim args.correlationId) = true)
    (hcausation : args.causationId = none) :
    (∃ event, eventEnvelope args = .ok event) ↔
      args.tenantId.toList.contains '.' = false ∧ EventIdFits eventId := by
  have htypeOk : normalizeEventType args.type = .ok args.type := by
    rcases htype with h | h
    all_goals
      rw [h]
      decide
  have hversionOk : normalizeSchemaVersion args.schemaVersion = .ok args.schemaVersion := by
    rw [hversion]
    decide
  have hsourceOk : normalizeToken args.source "source" = .ok args.source := by
    rw [hsource]
    decide
  rw [exists_eventEnvelope_iff_normalizeToken htypeOk hversionOk htenant hsourceOk hcorrelation
    hcausation, hid, exists_normalizeToken_orDefault_iff hstem hlength]
  exact Iff.rfl

end Parts

/-! ## What a call does -/

/-- The state behind a revision that was recorded. -/
structure Revised (s s' : ActivityState) (tenantId : String) : Prop where
  tasks : s'.repository.tasks = s.repository.tasks
  record : ∃ record, s'.auditLog = s.auditLog ++ [record] ∧
    record.fields.eventType = thresholdsUpdatedEvent ∧ record.fields.tenantId = tenantId ∧
    recordedRevision record = some (revisionOf s tenantId + 1)
  revision : revisionOf s' tenantId = revisionOf s tenantId + 1
  others : ∀ other, other ≠ tenantId → thresholdsInForce s' other = thresholdsInForce s other

/-- The state behind a task that was recorded. -/
structure Created (s s' : ActivityState) : Prop where
  thresholds : ∀ tenantId, thresholdsInForce s' tenantId = thresholdsInForce s tenantId
  record : ∃ record key task, s'.auditLog = s.auditLog ++ [record] ∧
    record.fields.eventType = taskCreatedEvent ∧
    s'.repository.tasks.entries = s.repository.tasks.entries ++ [(key, task)] ∧
    recordedTask record = some (key, task.fields.auditHash)

section Calls

variable {py : Stdlib} {env : ActivityAmbient} {s : ActivityState}

theorem all_iff_getD {α : Type} {p : α → Bool} {fallback : α} (h : p fallback = true)
    (o : Option α) : p (o.getD fallback) = true ↔ o.all p = true := by
  cases o with
  | none => exact iff_of_true h rfl
  | some a => exact Iff.rfl

/-- INTERNAL: thresholds that stand in the store only let the given values be refused. -/
theorem checks_revisedThresholds (args : UpdateThresholds) (existing : ThresholdSettings)
    (changedAt : Instant) {auditHash : String} (hhash : auditHashPattern auditHash = true)
    (htenant : tenantIdPattern args.tenantId = true) :
    (∀ c ∈ ThresholdFields.checks { revisedThresholds args existing.fields changedAt with
        auditHash := auditHash }, c.2 = true) ↔
      args.update.maxAutonomousRiskScore.all unitInterval = true ∧
        args.update.minAgentConfidence.all unitInterval = true ∧
        args.update.operationalQueueLimit.all queueLimit = true ∧
        args.update.strategicQueueLimit.all queueLimit = true ∧
        args.update.adaptiveQueueLimit.all queueLimit = true ∧
        tokenPattern (Text.trim args.updatedBy) = true := by
  have hvalid := existing.valid
  unfold ThresholdFields.checks at hvalid
  simp only [List.forall_mem_cons] at hvalid
  obtain ⟨_, hrevision, hrisk, hconfidence, hoperational, hstrategic, hadaptive, _⟩ := hvalid
  have hnext : decide (1 ≤ existing.fields.revision + 1) = true := by
    rw [decide_eq_true_eq] at hrevision ⊢
    omega
  have htrim := trim_of_tokenPattern (tokenPattern_of_tenantIdPattern htenant)
  unfold ThresholdFields.checks revisedThresholds
  simp only [List.forall_mem_cons, htrim, htenant, hnext, hhash, all_iff_getD hrisk,
    all_iff_getD hconfidence, all_iff_getD hoperational, all_iff_getD hstrategic,
    all_iff_getD hadaptive, optionalField]
  constructor
  · rintro ⟨_, _, h₁, h₂, h₃, h₄, h₅, h₆, _⟩
    exact ⟨h₁, h₂, h₃, h₄, h₅, h₆⟩
  · rintro ⟨h₁, h₂, h₃, h₄, h₅, h₆⟩
    exact ⟨trivial, trivial, h₁, h₂, h₃, h₄, h₅, h₆, trivial,
      fun _ h => by cases h⟩

theorem policyReasons_all (tenantId : String) (thresholds : ThresholdFields)
    (feedbackLoop : FeedbackLoop) (riskScore agentConfidence : ℚ)
    (repository : InMemoryActivityRepository) :
    ((policyReasons tenantId thresholds feedbackLoop riskScore agentConfidence repository).all
      fun reason => Text.strip reason != "") = true := by
  have hrisk : (Text.strip "risk_score_above_threshold" != "") = true := by decide
  have hconfidence : (Text.strip "confidence_below_threshold" != "") = true := by decide
  have hlimit : (Text.strip "queue_limit_reached" != "") = true := by decide
  rw [List.all_eq_true]
  intro reason hreason
  unfold policyReasons at hreason
  simp only [List.mem_append, List.mem_ite_nil_right, List.mem_singleton] at hreason
  rcases hreason with (⟨_, rfl⟩ | ⟨_, rfl⟩) | ⟨_, rfl⟩
  · exact hrisk
  · exact hconfidence
  · exact hlimit

/-- INTERNAL: of a new task only what was given can be refused. -/
theorem checks_draftTask (env : ActivityAmbient) (s : ActivityState) (args : CreateTask)
    (thresholds : ThresholdSettings)
    (queuedAt due : Instant) {auditHash : String} (hhash : auditHashPattern auditHash = true)
    (htenant : tenantIdPattern args.tenantId = true) :
    (∀ c ∈ TaskFields.checks { draftTask env args thresholds.fields
        (policyReasons args.tenantId thresholds.fields args.task.feedbackLoop args.task.riskScore
          args.task.agentConfidence s.repository) queuedAt with
        dueAt := due, auditHash := auditHash }, c.2 = true) ↔
      tokenPattern (Text.trim (resolvedTaskId env args)) = true ∧
        taskTypePattern (Text.trim args.task.taskType) = true ∧
        hasLength 1 256 (Text.trim args.task.title) = true ∧
        tokenPattern (Text.trim args.task.assignee) = true ∧
        tokenPattern (Text.trim args.createdBy) = true ∧
        optionalField tokenPattern (args.task.agentId.map Text.trim) = true ∧
        unitInterval args.task.riskScore = true ∧
        unitInterval args.task.agentConfidence = true := by
  have hrevision := thresholds.valid ("revision", decide (1 ≤ thresholds.fields.revision))
    (by simp [ThresholdFields.checks])
  have htrim := trim_of_tokenPattern (tokenPattern_of_tenantIdPattern htenant)
  unfold TaskFields.checks draftTask
  simp only [List.forall_mem_cons, htrim, htenant, hhash, policyReasons_all]
  constructor
  · rintro ⟨h₁, _, h₂, h₃, h₄, h₅, h₆, h₇, h₈, _⟩
    exact ⟨h₁, h₂, h₃, h₄, h₅, h₆, h₇, h₈⟩
  · rintro ⟨h₁, h₂, h₃, h₄, h₅, h₆, h₇, h₈⟩
    exact ⟨h₁, trivial, h₂, h₃, h₄, h₅, h₆, h₇, h₈, hrevision, trivial, trivial,
      fun _ h => by cases h⟩

/-- INTERNAL: whether an audit record of the center is accepted. -/
theorem auditRecord_cases (py : Stdlib) (args : AuditArgs) {correlationId : String}
    (htype : args.eventType = taskCreatedEvent ∨ args.eventType = thresholdsUpdatedEvent)
    (hcorrelation : args.correlationId = some correlationId) :
    (∃ record, auditRecord py args = .ok record ∧ AuditFits args.tenantId correlationId ∧
        record.fields.eventType = args.eventType) ∨
      ∃ e, auditRecord py args = .error e ∧ ¬ AuditFits args.tenantId correlationId := by
  have htypeOk : isEventType (Text.trim args.eventType) = true ∧
      Text.trim args.eventType = args.eventType := by
    rcases htype with h | h
    all_goals
      rw [h]
      decide
  have hiff : (∃ record, auditRecord py args = .ok record) ↔
      AuditFits args.tenantId correlationId := by
    rw [exists_auditRecord_eq_ok_iff, hcorrelation, Option.map_some, optionalField]
    constructor
    · rintro ⟨htenant, _, hfits⟩
      exact ⟨htenant, hfits⟩
    · rintro ⟨htenant, hfits⟩
      exact ⟨htenant, htypeOk.1, hfits⟩
  cases hrecord : auditRecord py args with
  | error e =>
      refine .inr ⟨e, rfl, fun hfits => ?_⟩
      obtain ⟨record, h⟩ := hiff.mpr hfits
      rw [hrecord] at h
      cases h
  | ok record =>
      refine .inl ⟨record, rfl, hiff.mp ⟨record, hrecord⟩, ?_⟩
      rw [(auditRecord_eq_ok hrecord).2.1]
      exact htypeOk.2

theorem thresholdsInForce_set (thresholds : Dict String ThresholdSettings)
    (tasks : Dict (String × String) ActivityTask) (auditLog : List AuditLogRecord)
    (published : List EventEnvelope) (tenantId other : String) (revised : ThresholdSettings) :
    thresholdsInForce ⟨⟨thresholds.set tenantId revised, tasks⟩, auditLog, published⟩ other =
      if other = tenantId then some revised
      else thresholdsInForce ⟨⟨thresholds, tasks⟩, auditLog, published⟩ other := by
  unfold thresholdsInForce
  simp only [Dict.get?_set]
  split_ifs
  · rfl
  · rfl

/-- INTERNAL: storing the next revision, once it is recorded. -/
theorem revised_of_set {s₁ : ActivityState} {tenantId : String}
    {existing revised : ThresholdSettings} {record : AuditLogRecord} (hsame : Same s s₁)
    (hforce : thresholdsInForce s tenantId = some existing)
    (hrevision : revised.fields.revision = existing.fields.revision + 1)
    (htype : record.fields.eventType = thresholdsUpdatedEvent)
    (htenant : record.fields.tenantId = tenantId)
    (hrecorded : recordedRevision record = some (existing.fields.revision + 1))
    (published : List EventEnvelope) :
    Revised s ⟨⟨s₁.repository.thresholds.set tenantId revised, s₁.repository.tasks⟩,
      s₁.auditLog ++ [record], published⟩ tenantId := by
  have hbefore : revisionOf s tenantId = existing.fields.revision := by
    rw [revisionOf, hforce]
    rfl
  refine ⟨hsame.tasks, ⟨record, ?_, htype, htenant, ?_⟩, ?_, fun other hother => ?_⟩
  · rw [← hsame.auditLog]
  · rw [hbefore, hrecorded]
  · rw [revisionOf, thresholdsInForce_set, if_pos rfl, hbefore]
    exact hrevision
  · rw [thresholdsInForce_set, if_neg hother]
    exact hsame.thresholds other

theorem append_singleton_ne {α : Type} {l l' : List α} (h : l' = l) (a : α) : l' ++ [a] ≠ l := by
  intro heq
  have hlength := congrArg List.length heq
  rw [h, List.length_append, List.length_singleton] at hlength
  omega

/-- INTERNAL: the event of an update is refused for the tenant's dot or its own id. -/
theorem thresholdsEvent_fits (args : UpdateThresholds) (thresholds : ThresholdFields)
    (h : AuditFits args.tenantId args.correlationId) :
    (∃ event, eventEnvelope (thresholdsEvent env args thresholds) = .ok event) ↔
      args.tenantId.toList.contains '.' = false ∧ EventIdFits args.eventId := by
  have hstem : tokenPattern "evt-thresholds-updated" = true := by decide
  have hlength : "evt-thresholds-updated".toList.length ≤ 91 := by decide
  exact exists_eventEnvelope_iff rfl hstem hlength
    (.inr rfl) rfl h.1 rfl h.2 rfl

/-- INTERNAL: the end of `update_thresholds`, which does not touch the audit log. -/
theorem exec_saveThresholds_publishEvent (env : ActivityAmbient) {args : UpdateThresholds} {thresholds : ThresholdSettings}
    {tenantId : String} (hfits : AuditFits args.tenantId args.correlationId)
    (htenant : thresholds.fields.tenantId = tenantId) (s : ActivityState) :
    ((args.tenantId.toList.contains '.' = false ∧ EventIdFits args.eventId ∧
        env.publisher = .ok ()) ∧
      ∃ published, Fallible.exec (do
          Fallible.change fun s =>
            { s with repository :=
              { s.repository with thresholds :=
                  s.repository.thresholds.set thresholds.fields.tenantId thresholds } }
          publishEvent env (thresholdsEvent env args thresholds.fields)
          return thresholds) s =
        (.ok thresholds, ⟨⟨s.repository.thresholds.set tenantId thresholds, s.repository.tasks⟩,
          s.auditLog, published⟩)) ∨
    (¬ (args.tenantId.toList.contains '.' = false ∧ EventIdFits args.eventId ∧
        env.publisher = .ok ()) ∧
      ∃ e s', Fallible.exec (do
          Fallible.change fun s =>
            { s with repository :=
              { s.repository with thresholds :=
                  s.repository.thresholds.set thresholds.fields.tenantId thresholds } }
          publishEvent env (thresholdsEvent env args thresholds.fields)
          return thresholds) s = (.error e, s') ∧ s'.auditLog = s.auditLog) := by
  rw [Fallible.exec_change_bind, htenant]
  rcases exec_publishEvent env (thresholdsEvent env args thresholds.fields)
      ⟨⟨s.repository.thresholds.set tenantId thresholds, s.repository.tasks⟩, s.auditLog,
        s.published⟩ with
    ⟨⟨hevent, hpublisher⟩, published, hpublish⟩ | ⟨hevent, e, hpublish⟩
  · left
    rw [thresholdsEvent_fits args _ hfits] at hevent
    exact ⟨⟨hevent.1, hevent.2, hpublisher⟩, published, Fallible.exec_bind_of_ok hpublish _⟩
  · right
    refine ⟨fun h => hevent ⟨?_, h.2.2⟩, e, _, Fallible.exec_bind_of_error hpublish _, rfl⟩
    exact (thresholdsEvent_fits args _ hfits).mpr ⟨h.1, h.2.1⟩

/-- INTERNAL: an update is refused before its record, is refused behind it, or is done. -/
theorem updateThresholds_cases (py : Stdlib) (env : ActivityAmbient) (args : UpdateThresholds) (s : ActivityState) :
    ∃ outcome s', Fallible.exec (updateThresholds py env args) s = (outcome, s') ∧
      (((∃ e, outcome = .error e) ∧ Same s s' ∧
          ¬ ((∃ t, resolveTime py env.now args.updatedAt = .ok t) ∧
            AuditFits args.tenantId args.correlationId)) ∨
        ((∃ e, outcome = .error e) ∧ s'.auditLog ≠ s.auditLog ∧
          (∃ t, resolveTime py env.now args.updatedAt = .ok t) ∧
          AuditFits args.tenantId args.correlationId ∧ ¬ RevisionFits env args) ∨
        ((∃ thresholds, outcome = .ok thresholds) ∧ RevisionFits env args ∧
          Revised s s' args.tenantId)) := by
  obtain ⟨outcome, s₁, hget, hsame, hforce⟩ := exec_getThresholds args.tenantId s
  unfold updateThresholds
  cases outcome with
  | error e =>
      rw [Fallible.exec_bind_of_error hget]
      refine ⟨_, s₁, rfl, .inl ⟨⟨e, rfl⟩, hsame, ?_⟩⟩
      rintro ⟨_, htenant, _⟩
      obtain ⟨thresholds, h⟩ := thresholdsInForce_of_tenantIdPattern (s := s) htenant
      cases (hforce thresholds).mpr h
  | ok existing =>
      rw [Fallible.exec_bind_of_ok hget, Fallible.exec_ofExcept_bind]
      cases htime : resolveTime py env.now args.updatedAt with
      | error e =>
          refine ⟨_, s₁, rfl, .inl ⟨⟨_, rfl⟩, hsame, ?_⟩⟩
          rintro ⟨⟨t, h⟩, _⟩
          cases h
      | ok changedAt =>
          simp only [Except.mapError]
          rcases auditRecord_cases py (thresholdsAuditArgs py args
              (revisedThresholds args existing.fields changedAt)) (.inr rfl) rfl with
            ⟨record, hrecord, hfits, htype⟩ | ⟨e, hrecord, hfits⟩
          · rw [Fallible.exec_bind_of_ok (exec_recordAudit_of_ok hrecord s₁),
              Fallible.exec_ofExcept_bind]
            have hlog := append_singleton_ne hsame.auditLog record
            have hchecks := checks_revisedThresholds args existing changedAt
              (auditHashPattern_auditHash record) hfits.1
            cases hmade : Validated.make "ThresholdSettings" ThresholdFields.checks
                { revisedThresholds args existing.fields changedAt with
                  auditHash := record.fields.auditHash } with
            | error e =>
                refine ⟨_, _, rfl, .inr (.inl ⟨⟨_, rfl⟩, hlog, ⟨changedAt, rfl⟩, hfits, ?_⟩)⟩
                intro hrevision
                obtain ⟨made, h⟩ := (Validated.exists_make_eq_ok_iff "ThresholdSettings" _).mpr
                  (hchecks.mpr ⟨hrevision.maxAutonomousRiskScore, hrevision.minAgentConfidence,
                    hrevision.operationalQueueLimit, hrevision.strategicQueueLimit,
                    hrevision.adaptiveQueueLimit, hrevision.updatedBy⟩)
                rw [hmade] at h
                cases h
            | ok thresholds =>
                have hfields := (Validated.make_eq_ok_iff _ _ _).mp hmade
                obtain ⟨h₁, h₂, h₃, h₄, h₅, h₆⟩ := hchecks.mp
                  ((Validated.exists_make_eq_ok_iff _ _).mp ⟨thresholds, hmade⟩)
                have htenant : thresholds.fields.tenantId = args.tenantId := by
                  rw [hfields]
                  exact trim_of_tokenPattern (tokenPattern_of_tenantIdPattern hfits.1)
                rcases exec_saveThresholds_publishEvent env hfits htenant
                    ⟨s₁.repository, s₁.auditLog ++ [record], s₁.published⟩ with
                  ⟨⟨hdot, hid, hpublisher⟩, published, hexec⟩ | ⟨hrefused, e, s', hexec, hkept⟩
                · refine ⟨_, _, hexec, .inr (.inr ⟨⟨thresholds, rfl⟩,
                    ⟨h₁, h₂, h₃, h₄, h₅, h₆, hdot, hid, hpublisher⟩, ?_⟩)⟩
                  have hrecorded := auditRecord_eq_ok hrecord
                  refine revised_of_set hsame ((hforce existing).mp rfl) (by rw [hfields]; rfl)
                    htype hrecorded.2.2.1 ?_ published
                  rw [recordedRevision, hrecorded.2.2.2.1]
                  rfl
                · refine ⟨_, s', hexec, .inr (.inl ⟨⟨e, rfl⟩, ?_, ⟨changedAt, rfl⟩, hfits,
                    fun hrevision => hrefused ⟨hrevision.tenantId, hrevision.eventId,
                      hrevision.publisher⟩⟩)⟩
                  rw [hkept]
                  exact hlog
          · rw [Fallible.exec_bind_of_error (exec_recordAudit_of_error hrecord s₁)]
            exact ⟨_, s₁, rfl, .inl ⟨⟨_, rfl⟩, hsame, fun h => hfits h.2⟩⟩

/-- INTERNAL: the event of a task is refused for the tenant's dot or its own id. -/
theorem taskEvent_fits (args : CreateTask) (task : TaskFields)
    (h : AuditFits args.tenantId args.correlationId) :
    (∃ event, eventEnvelope (taskEvent py env args task) = .ok event) ↔
      args.tenantId.toList.contains '.' = false ∧ EventIdFits args.task.eventId := by
  have hstem : tokenPattern "evt-task-created" = true := by decide
  have hlength : "evt-task-created".toList.length ≤ 91 := by decide
  exact exists_eventEnvelope_iff rfl hstem hlength
    (.inl rfl) rfl h.1 rfl h.2 rfl

theorem exec_addTask (task : ActivityTask) (s : ActivityState) :
    Fallible.exec (addTask task) s =
      if s.repository.tasks.contains (task.fields.tenantId, task.fields.taskId) = true then
        (.error (.taskAlreadyExists "Задача с таким task_id уже есть в очереди tenant"), s)
      else (.ok (), ⟨⟨s.repository.thresholds,
        s.repository.tasks.set (task.fields.tenantId, task.fields.taskId) task⟩, s.auditLog,
        s.published⟩) := by
  unfold addTask
  rw [Fallible.exec_inspect_bind]
  dsimp only
  split_ifs
  · rfl
  · rfl

/-- INTERNAL: adding a task, once it is recorded. -/
theorem created_of_set {s₁ : ActivityState} {task : ActivityTask} {record : AuditLogRecord}
    (hsame : Same s s₁) {key : String × String}
    (hfresh : ¬ s₁.repository.tasks.contains key = true)
    (htype : record.fields.eventType = taskCreatedEvent)
    (hrecorded : recordedTask record = some (key, task.fields.auditHash))
    (published : List EventEnvelope) :
    Created s ⟨⟨s₁.repository.thresholds, s₁.repository.tasks.set key task⟩,
      s₁.auditLog ++ [record], published⟩ := by
  refine ⟨hsame.thresholds, record, key, task, ?_, htype, ?_, hrecorded⟩
  · rw [← hsame.auditLog]
  · rw [← hsame.tasks]
    exact Dict.entries_set_of_not_contains hfresh task

/-- INTERNAL: the end of `create_task`, which does not touch the audit log. -/
theorem exec_addTask_publishEvent (py : Stdlib) (env : ActivityAmbient) {args : CreateTask} {task : ActivityTask} {key : String × String}
    (hfits : AuditFits args.tenantId args.correlationId)
    (hkey : (task.fields.tenantId, task.fields.taskId) = key) (s : ActivityState) :
    ((¬ s.repository.tasks.contains key = true ∧ args.tenantId.toList.contains '.' = false ∧
        EventIdFits args.task.eventId ∧ env.publisher = .ok ()) ∧
      ∃ published, Fallible.exec (do
          addTask task
          publishEvent env (taskEvent py env args task.fields)
          return task) s =
        (.ok task, ⟨⟨s.repository.thresholds, s.repository.tasks.set key task⟩, s.auditLog,
          published⟩)) ∨
    (¬ (¬ s.repository.tasks.contains key = true ∧ args.tenantId.toList.contains '.' = false ∧
        EventIdFits args.task.eventId ∧ env.publisher = .ok ()) ∧
      ∃ e s', Fallible.exec (do
          addTask task
          publishEvent env (taskEvent py env args task.fields)
          return task) s = (.error e, s') ∧ s'.auditLog = s.auditLog) := by
  have hadd := exec_addTask task s
  rw [hkey] at hadd
  split_ifs at hadd with hknown
  · right
    exact ⟨fun h => h.1 hknown, _, s, Fallible.exec_bind_of_error hadd _, rfl⟩
  · rw [Fallible.exec_bind_of_ok hadd]
    rcases exec_publishEvent env (taskEvent py env args task.fields)
        ⟨⟨s.repository.thresholds, s.repository.tasks.set key task⟩, s.auditLog, s.published⟩ with
      ⟨⟨hevent, hpublisher⟩, published, hpublish⟩ | ⟨hevent, e, hpublish⟩
    · left
      rw [taskEvent_fits args _ hfits] at hevent
      exact ⟨⟨hknown, hevent.1, hevent.2, hpublisher⟩, published,
        Fallible.exec_bind_of_ok hpublish _⟩
    · right
      refine ⟨fun h => hevent ⟨?_, h.2.2.2⟩, e, _, Fallible.exec_bind_of_error hpublish _, rfl⟩
      exact (taskEvent_fits args _ hfits).mpr ⟨h.2.1, h.2.2.1⟩

/-- INTERNAL: a task is refused before its record, is refused behind it, or is added. -/
theorem createTask_cases (py : Stdlib) (env : ActivityAmbient) (args : CreateTask) (s : ActivityState) :
    ∃ outcome s', Fallible.exec (createTask py env args) s = (outcome, s') ∧
      (((∃ e, outcome = .error e) ∧ Same s s' ∧
          ¬ ((∃ t, resolveTime py env.now args.createdAt = .ok t) ∧
            AuditFits args.tenantId args.correlationId)) ∨
        ((∃ e, outcome = .error e) ∧ s'.auditLog ≠ s.auditLog ∧
          ∃ queuedAt, resolveTime py env.now args.createdAt = .ok queuedAt ∧
            AuditFits args.tenantId args.correlationId ∧ ¬ TaskFits env args s queuedAt) ∨
        ((∃ task, outcome = .ok task) ∧
          (∃ queuedAt, resolveTime py env.now args.createdAt = .ok queuedAt ∧
            TaskFits env args s queuedAt) ∧ Created s s')) := by
  unfold createTask
  rw [Fallible.exec_ofExcept_bind]
  cases htime : resolveTime py env.now args.createdAt with
  | error e =>
      refine ⟨_, s, rfl, .inl ⟨⟨_, rfl⟩, Same.refl s, ?_⟩⟩
      rintro ⟨⟨t, h⟩, _⟩
      cases h
  | ok queuedAt =>
      simp only [Except.mapError]
      obtain ⟨outcome, s₁, hget, hsame, hforce⟩ := exec_getThresholds args.tenantId s
      cases outcome with
      | error e =>
          rw [Fallible.exec_bind_of_error hget]
          refine ⟨_, s₁, rfl, .inl ⟨⟨e, rfl⟩, hsame, ?_⟩⟩
          rintro ⟨_, htenant, _⟩
          obtain ⟨thresholds, h⟩ := thresholdsInForce_of_tenantIdPattern (s := s) htenant
          cases (hforce thresholds).mpr h
      | ok thresholds =>
          rw [Fallible.exec_bind_of_ok hget, Fallible.exec_inspect_bind]
          simp only
          rcases auditRecord_cases py (taskAuditArgs py env args
              (draftTask env args thresholds.fields (policyReasons args.tenantId
                thresholds.fields args.task.feedbackLoop args.task.riskScore
                args.task.agentConfidence s₁.repository) queuedAt)) (.inl rfl) rfl with
            ⟨record, hrecord, hfits, htype⟩ | ⟨e, hrecord, hfits⟩
          · rw [Fallible.exec_bind_of_ok (exec_recordAudit_of_ok hrecord s₁),
              Fallible.exec_ofExcept_bind]
            have hlog := append_singleton_ne hsame.auditLog record
            cases hdue : dueAt (draftTask env args thresholds.fields (policyReasons args.tenantId
                thresholds.fields args.task.feedbackLoop args.task.riskScore
                args.task.agentConfidence s₁.repository) queuedAt) with
            | error e =>
                refine ⟨_, _, rfl, .inr (.inl ⟨⟨_, rfl⟩, hlog, queuedAt, rfl, hfits, ?_⟩)⟩
                intro htask
                obtain ⟨due, h⟩ := htask.dueAt
                cases hdue.symm.trans h
            | ok due =>
                have hchecks := checks_draftTask env s₁ args thresholds queuedAt
                  due (auditHashPattern_auditHash record) hfits.1
                simp only [Fallible.exec_ofExcept_bind]
                cases hmade : Validated.make "ActivityTask" TaskFields.checks
                    { draftTask env args thresholds.fields (policyReasons args.tenantId
                      thresholds.fields args.task.feedbackLoop args.task.riskScore
                      args.task.agentConfidence s₁.repository) queuedAt with
                      dueAt := due, auditHash := record.fields.auditHash } with
                | error e =>
                    refine ⟨_, _, rfl, .inr (.inl ⟨⟨_, rfl⟩, hlog, queuedAt, rfl, hfits, ?_⟩)⟩
                    intro htask
                    obtain ⟨made, h⟩ := (Validated.exists_make_eq_ok_iff "ActivityTask" _).mpr
                      (hchecks.mpr ⟨htask.taskId, htask.taskType, htask.title, htask.assignee,
                        htask.createdBy, htask.agentId, htask.riskScore, htask.agentConfidence⟩)
                    cases hmade.symm.trans h
                | ok task =>
                    have hfields := (Validated.make_eq_ok_iff _ _ _).mp hmade
                    obtain ⟨h₁, h₂, h₃, h₄, h₅, h₆, h₇, h₈⟩ := hchecks.mp
                      ((Validated.exists_make_eq_ok_iff _ _).mp ⟨task, hmade⟩)
                    have hkey : (task.fields.tenantId, task.fields.taskId) =
                        (args.tenantId, Text.trim (resolvedTaskId env args)) := by
                      rw [hfields]
                      exact Prod.ext
                        (trim_of_tokenPattern (tokenPattern_of_tenantIdPattern hfits.1)) rfl
                    rcases exec_addTask_publishEvent py env hfits hkey
                        ⟨s₁.repository, s₁.auditLog ++ [record], s₁.published⟩ with
                      ⟨⟨hfresh, hdot, hid, hpublisher⟩, published, hexec⟩ |
                        ⟨hrefused, e, s', hexec, hkept⟩
                    · refine ⟨_, _, hexec, .inr (.inr ⟨⟨task, rfl⟩, ⟨queuedAt, rfl,
                        ⟨⟨due, hdue⟩, h₁, h₂, h₃, h₄, h₅, h₆, h₇, h₈, ?_, hdot, hid,
                          hpublisher⟩⟩, ?_⟩)⟩
                      · rw [← hsame.tasks]
                        exact hfresh
                      · have hrecorded := auditRecord_eq_ok hrecord
                        refine created_of_set hsame hfresh htype ?_ published
                        rw [recordedTask, hrecorded.2.2.2.1, hrecorded.2.2.1, hfields]
                        rfl
                    · refine ⟨_, s', hexec, .inr (.inl ⟨⟨e, rfl⟩, ?_, queuedAt, rfl, hfits,
                        fun htask => hrefused ⟨?_, htask.tenantId, htask.eventId,
                          htask.publisher⟩⟩)⟩
                      · rw [hkept]
                        exact hlog
                      · have hfresh := htask.fresh
                        rw [← hsame.tasks] at hfresh
                        exact hfresh
          · rw [Fallible.exec_bind_of_error (exec_recordAudit_of_error hrecord s₁)]
            exact ⟨_, s₁, rfl, .inl ⟨⟨_, rfl⟩, hsame, fun h => hfits h.2⟩⟩

end Calls

/-! ## One call and whole runs -/

section Runs

variable {py : Stdlib} {s s' : ActivityState}

/-- INTERNAL: a call that does not fit raises behind its record, and a fitting one does not. -/
theorem allOrNothing_iff_fits (py : Stdlib) (s : ActivityState) (call : ActivityCall) :
    AllOrNothing py s call ↔ Fits py s call := by
  cases call with
  | updateThresholds env args =>
      obtain ⟨outcome, s', hexec, hcases⟩ := updateThresholds_cases py env args s
      unfold AllOrNothing Fits ActivityState.step
      simp only [hexec]
      rcases hcases with ⟨⟨e, rfl⟩, hsame, hrefused⟩ | ⟨⟨e, rfl⟩, hlog, htime, hfits, hrevision⟩ |
        ⟨⟨thresholds, rfl⟩, hrevision, _⟩
      · exact iff_of_true (fun _ _ => hsame) fun htime hfits => absurd ⟨htime, hfits⟩ hrefused
      · exact iff_of_false (fun h => hlog (h e rfl).auditLog)
          fun h => hrevision (h htime hfits)
      · exact iff_of_true (fun _ h => by cases h) fun _ _ => hrevision
  | createTask env args =>
      obtain ⟨outcome, s', hexec, hcases⟩ := createTask_cases py env args s
      unfold AllOrNothing Fits ActivityState.step
      simp only [hexec]
      rcases hcases with ⟨⟨e, rfl⟩, hsame, hrefused⟩ |
        ⟨⟨e, rfl⟩, hlog, queuedAt, htime, hfits, htask⟩ |
        ⟨⟨task, rfl⟩, ⟨queuedAt, htime, htask⟩, _⟩
      · exact iff_of_true (fun _ _ => hsame)
          fun queuedAt htime hfits => absurd ⟨⟨queuedAt, htime⟩, hfits⟩ hrefused
      · exact iff_of_false (fun h => hlog (h e rfl).auditLog)
          fun h => htask (h queuedAt htime hfits)
      · refine iff_of_true (fun _ h => by cases h) fun other hother _ => ?_
        cases htime.symm.trans hother
        exact htask

theorem Same.logMatches (hsame : Same s s') (h : LogMatches s) : LogMatches s' := by
  refine ⟨?_, fun tenantId => ?_⟩
  · rw [recordsOf, hsame.auditLog, hsame.tasks]
    exact h.tasks
  · rw [recordsOf, hsame.auditLog, revisionOf, hsame.thresholds tenantId]
    exact h.thresholds tenantId

theorem one_le_revisionOf (s : ActivityState) (tenantId : String) : 1 ≤ revisionOf s tenantId := by
  unfold revisionOf
  cases thresholdsInForce s tenantId with
  | none => exact le_refl 1
  | some thresholds =>
      have hrevision := thresholds.valid ("revision", decide (1 ≤ thresholds.fields.revision))
        (by simp [ThresholdFields.checks])
      exact of_decide_eq_true hrevision

theorem taskCreatedEvent_ne : taskCreatedEvent ≠ thresholdsUpdatedEvent := by decide

/-- INTERNAL: the record of a revision is the next one of its tenant. -/
theorem Revised.logMatches {tenantId : String} (hrevised : Revised s s' tenantId)
    (h : LogMatches s) : LogMatches s' := by
  obtain ⟨record, hlog, htype, htenant, hrecorded⟩ := hrevised.record
  refine ⟨?_, fun other => ?_⟩
  · have hother : (record.fields.eventType == taskCreatedEvent) = false := by
      rw [htype, beq_eq_false_iff_ne]
      exact taskCreatedEvent_ne.symm
    rw [recordsOf, hlog, List.filter_append, List.filter_singleton, hother, hrevised.tasks]
    rw [cond_false, List.append_nil]
    exact h.tasks
  · have hbefore := h.thresholds other
    have hkind : (record.fields.eventType == thresholdsUpdatedEvent) = true := by
      rw [htype, beq_self_eq_true]
    rw [recordsOf, hlog, List.filter_append, List.filter_singleton, hkind, List.filter_append,
      cond_true, List.filter_singleton, htenant, List.map_append]
    unfold recordsOf at hbefore
    rw [hbefore]
    by_cases hother : other = tenantId
    · obtain rfl := hother
      have hnonneg := one_le_revisionOf s other
      have hsucc : (revisionOf s' other - 1).toNat = (revisionOf s other - 1).toNat + 1 := by
        rw [hrevised.revision]
        omega
      have hlast : (((revisionOf s other - 1).toNat : ℕ) : ℤ) + 2 = revisionOf s other + 1 := by
        omega
      rw [beq_self_eq_true, cond_true, hsucc, List.range_succ, List.map_append,
        List.map_singleton, List.map_singleton, hrecorded, hlast]
    · have hne : (tenantId == other) = false := by
        rw [beq_eq_false_iff_ne]
        exact Ne.symm hother
      rw [hne, revisionOf, revisionOf, hrevised.others other hother]
      simp

/-- INTERNAL: the record of a task is the last one, and so is the task. -/
theorem Created.logMatches (hcreated : Created s s') (h : LogMatches s) : LogMatches s' := by
  obtain ⟨record, key, task, hlog, htype, htasks, hrecorded⟩ := hcreated.record
  refine ⟨?_, fun tenantId => ?_⟩
  · have hkind : (record.fields.eventType == taskCreatedEvent) = true := by
      rw [htype, beq_self_eq_true]
    have hbefore := h.tasks
    unfold recordsOf at hbefore
    rw [recordsOf, hlog, List.filter_append, List.filter_singleton, hkind, cond_true, htasks,
      List.map_append, List.map_append, hbefore, List.map_singleton, List.map_singleton, hrecorded]
  · have hother : (record.fields.eventType == thresholdsUpdatedEvent) = false := by
      rw [htype, beq_eq_false_iff_ne]
      exact taskCreatedEvent_ne
    rw [recordsOf, hlog, List.filter_append, List.filter_singleton, hother, revisionOf,
      hcreated.thresholds tenantId]
    rw [cond_false, List.append_nil]
    exact h.thresholds tenantId

theorem logMatches_initial : LogMatches ActivityState.initial := by
  refine ⟨rfl, fun tenantId => ?_⟩
  have hrevision : revisionOf ActivityState.initial tenantId = 1 := by
    unfold revisionOf thresholdsInForce
    cases hdefault : defaultThresholds tenantId with
    | error e => rfl
    | ok thresholds =>
        have hfields := (Validated.make_eq_ok_iff _ _ _).mp hdefault
        have hone : thresholds.fields.revision = 1 := by rw [hfields]
        exact hone
  rw [hrevision]
  rfl

/-- INTERNAL: a call that is all or nothing keeps the log and the store together. -/
theorem logMatches_step {call : ActivityCall} (h : LogMatches s) (hfits : Fits py s call) :
    LogMatches (s.step py call).2 := by
  cases call with
  | updateThresholds env args =>
      obtain ⟨outcome, s', hexec, hcases⟩ := updateThresholds_cases py env args s
      unfold ActivityState.step
      simp only [hexec]
      rcases hcases with ⟨_, hsame, _⟩ | ⟨_, _, htime, haudit, hrevision⟩ | ⟨_, _, hrevised⟩
      · exact hsame.logMatches h
      · exact absurd (hfits htime haudit) hrevision
      · exact hrevised.logMatches h
  | createTask env args =>
      obtain ⟨outcome, s', hexec, hcases⟩ := createTask_cases py env args s
      unfold ActivityState.step
      simp only [hexec]
      rcases hcases with ⟨_, hsame, _⟩ | ⟨_, _, queuedAt, htime, haudit, htask⟩ | ⟨_, _, hcreated⟩
      · exact hsame.logMatches h
      · exact absurd (hfits queuedAt htime haudit) htask
      · exact hcreated.logMatches h

/-- In a run every call is all or nothing, and the log matches the store behind it, exactly if
every call fits. -/
theorem allOrNothing_throughout_iff (py : Stdlib) (calls : List ActivityCall) :
    (∀ earlier call later, calls = earlier ++ call :: later →
      AllOrNothing py (after (ActivityState.step py) .initial earlier) call ∧
        LogMatches (after (ActivityState.step py) .initial (earlier ++ [call]))) ↔
    EachMeets (ActivityState.step py) (Fits py) .initial calls := by
  rw [eachMeets_iff_forall_split]
  constructor
  · intro h earlier call later hsplit
    exact (allOrNothing_iff_fits py _ call).mp (h earlier call later hsplit).1
  · intro h earlier call later hsplit
    refine ⟨(allOrNothing_iff_fits py _ call).mpr (h earlier call later hsplit), ?_⟩
    have hmeets : EachMeets (ActivityState.step py) (Fits py) .initial (earlier ++ [call]) := by
      rw [← eachMeets_iff_forall_split] at h
      rw [hsplit, List.append_cons, eachMeets_append] at h
      exact h.1
    exact after_induction _ _ (fun s call hs hfits => logMatches_step hs hfits)
      logMatches_initial hmeets

end Runs

namespace DottedTenant

def env : ActivityAmbient where
  now := 1750000000000000
  uuid := fun _ => Reference.uuid
  publisher := .ok ()

/-- A task for a tenant whose id has a dot, which `TenantId` allows. -/
def args : CreateTask where
  tenantId := "coop.alpha"
  createdBy := "editor-1"
  correlationId := "corr-1"
  task :=
    { taskType := "moderation", title := "Check the queue", payload := []
      assignee := "agent-1", riskScore := 1 / 10, agentConfidence := 9 / 10
      feedbackLoop := .operational, taskId := some "task-1", eventId := none, agentId := none }
  createdAt := .omitted

end DottedTenant

/-- The task is stored and recorded, and then its event is refused. -/
theorem not_allOrNothing_dottedTenant : ¬ ∀ (py : Stdlib) (calls : List ActivityCall),
    ∀ earlier call later, calls = earlier ++ call :: later →
      AllOrNothing py (after (ActivityState.step py) .initial earlier) call ∧
        LogMatches (after (ActivityState.step py) .initial (earlier ++ [call])) := by
  intro hall
  have hfits := (allOrNothing_iff_fits Reference.stdlib .initial _).mp
    (hall Reference.stdlib [.createTask DottedTenant.env DottedTenant.args] [] _ [] rfl).1
  have haudit : AuditFits DottedTenant.args.tenantId DottedTenant.args.correlationId := by
    unfold AuditFits
    decide
  have hdot := (hfits DottedTenant.env.now rfl haudit).tenantId
  revert hdot
  decide

end MediaCenter.ActivityCommandCenter
