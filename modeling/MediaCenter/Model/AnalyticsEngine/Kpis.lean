import MediaCenter.Library.RoundHalfEven
import MediaCenter.Model.Shared.Models

/-!
# The KPI of the pilot

The part of `analytics_engine/api.py` that turns the events of a period into metrics with a
status, and the metrics of the last period into proposals.  A `float` is its rational value.
-/

set_option autoImplicit false

namespace MediaCenter.AnalyticsEngine

open MediaCenter.Library MediaCenter.Shared

/-! ## Enumerations -/

inductive AnalyticsCategory : Type where
  | participation
  | content
  | engagement
  | actions
  deriving DecidableEq, Repr

inductive AnalyticsEventType : Type where
  | memberActive
  | memberJoined
  | materialPublished
  | contentViewed
  | readingTimeRecorded
  | commentCreated
  | taskCompleted
  | initiativeCreated
  deriving DecidableEq, Repr

def AnalyticsEventType.value : AnalyticsEventType → String
  | .memberActive => "member_active"
  | .memberJoined => "member_joined"
  | .materialPublished => "material_published"
  | .contentViewed => "content_viewed"
  | .readingTimeRecorded => "reading_time_recorded"
  | .commentCreated => "comment_created"
  | .taskCompleted => "task_completed"
  | .initiativeCreated => "initiative_created"

inductive KpiStatus : Type where
  | belowTarget
  | onTrack
  | aboveTarget
  deriving DecidableEq, Repr

def KpiStatus.value : KpiStatus → String
  | .belowTarget => "below_target"
  | .onTrack => "on_track"
  | .aboveTarget => "above_target"

inductive RlKpiProposalStatus : Type where
  | proposed
  | approved
  | rejected
  deriving DecidableEq, Repr

inductive RlKpiExpectedDirection : Type where
  | increase
  | decrease
  deriving DecidableEq, Repr

inductive AnalyticsError : Type where
  | keyError (key : String)
  | shared (e : SharedException)
  deriving DecidableEq, Repr

/-! ## Records and contracts -/

/-- What the metrics read of an `AnalyticsEventRecord`. -/
structure AnalyticsEventRecord where
  type : String
  value : ℚ
  sampleCount : Option ℤ
  memberHash : Option String
  deriving DecidableEq, Repr

/-- `_KPIDefinition`. -/
structure KpiDefinition where
  key : String
  category : AnalyticsCategory
  label : String
  unit : String
  targetMin : Option ℚ
  targetMax : Option ℚ
  targetWindow : String
  deriving DecidableEq, Repr

/-- `_KPI_DEFINITIONS`. -/
def kpiDefinitions : List KpiDefinition :=
  [{ key := "active_members", category := .participation, label := "Активные члены Совета",
     unit := "members", targetMin := some 15, targetMax := some 25, targetWindow := "pilot" },
   { key := "new_members", category := .participation, label := "Новые участники",
     unit := "members", targetMin := some 3, targetMax := some 5, targetWindow := "month" },
   { key := "materials_published", category := .content, label := "Материалы",
     unit := "items", targetMin := some 20, targetMax := some 30, targetWindow := "week" },
   { key := "content_views", category := .content, label := "Просмотры",
     unit := "views", targetMin := some 10000, targetMax := none, targetWindow := "week" },
   { key := "avg_reading_minutes", category := .content, label := "Среднее время чтения",
     unit := "minutes", targetMin := some 3, targetMax := none, targetWindow := "session" },
   { key := "comments", category := .engagement, label := "Комментарии",
     unit := "items", targetMin := some 50, targetMax := none, targetWindow := "week" },
   { key := "tasks_completed", category := .actions, label := "Задачи",
     unit := "items", targetMin := some 10, targetMax := none, targetWindow := "week" },
   { key := "initiatives_created", category := .actions, label := "Инициативы",
     unit := "items", targetMin := some 1, targetMax := some 2, targetWindow := "month" }]

structure KpiMetricFields where
  key : String
  category : AnalyticsCategory
  label : String
  value : ℚ
  unit : String
  targetMin : Option ℚ
  targetMax : Option ℚ
  targetWindow : String
  status : KpiStatus
  deriving DecidableEq, Repr

def KpiMetricFields.checks (f : KpiMetricFields) : List (String × Bool) :=
  [("value", decide (0 ≤ f.value))]

abbrev KpiMetric : Type := Validated KpiMetricFields.checks

structure KpiSummary where
  metricsTotal : ℕ
  metricsOnTrack : ℕ
  metricsBelowTarget : ℕ
  metricsAboveTarget : ℕ
  deriving DecidableEq, Repr

structure KpiResponseFields where
  tenantId : String
  period : String
  metrics : List KpiMetric
  summary : KpiSummary

def KpiResponseFields.checks (f : KpiResponseFields) : List (String × Bool) :=
  [("tenant_id", tenantIdPattern f.tenantId)]

abbrev AnalyticsKpiResponse : Type := Validated KpiResponseFields.checks

/-- The fields of an `RLKPIOptimizationProposal` but `effect`, which only a later measurement
sets. -/
structure ProposalFields where
  proposalId : String
  metricKey : String
  category : AnalyticsCategory
  status : RlKpiProposalStatus
  policyKey : String
  action : String
  rationaleCode : String
  baselineValue : ℚ
  latestValue : ℚ
  targetMin : Option ℚ
  targetMax : Option ℚ
  expectedDirection : RlKpiExpectedDirection
  expectedLift : ℚ
  xaiSummary : String
  requiresCouncilApproval : Bool
  deriving DecidableEq, Repr

/-- An optional number is not negative. -/
def optionalNonneg : Option ℚ → Bool
  | none => true
  | some x => decide (0 ≤ x)

def ProposalFields.checks (f : ProposalFields) : List (String × Bool) :=
  [("proposal_id", tokenPattern f.proposalId),
    ("metric_key", hasLength 1 128 f.metricKey),
    ("policy_key", hasLength 1 128 f.policyKey),
    ("action", hasLength 1 128 f.action),
    ("rationale_code", hasLength 1 128 f.rationaleCode),
    ("baseline_value", decide (0 ≤ f.baselineValue)),
    ("latest_value", decide (0 ≤ f.latestValue)),
    ("target_min", optionalNonneg f.targetMin),
    ("target_max", optionalNonneg f.targetMax),
    ("expected_lift", decide (0 ≤ f.expectedLift)),
    ("xai_summary", hasLength 1 512 f.xaiSummary)]

abbrev RlKpiOptimizationProposal : Type := Validated ProposalFields.checks

/-! ## Metrics -/

/-- `_round_metric`. -/
def roundMetric (x : ℚ) : ℚ := roundTo 4 x

/-- `_sum_values`. -/
def sumValues (events : List AnalyticsEventRecord) (eventType : AnalyticsEventType) : ℚ :=
  ((events.filter fun e => e.type == eventType.value).map fun e => e.value).sum

/-- `_sum_values_without_member_hash`. -/
def sumValuesWithoutMemberHash (events : List AnalyticsEventRecord)
    (eventType : AnalyticsEventType) : ℚ :=
  ((events.filter fun e => e.type == eventType.value && e.memberHash.isNone).map
    fun e => e.value).sum

/-- The set of the hashes of active members. -/
def activeMemberHashes (events : List AnalyticsEventRecord) : List String :=
  ((events.filter fun e => e.type == AnalyticsEventType.memberActive.value).filterMap
    fun e => e.memberHash).dedup

/-- `event.sample_count or 1`. -/
def samplesOf (event : AnalyticsEventRecord) : ℤ :=
  match event.sampleCount with
  | none => 1
  | some n => if n = 0 then 1 else n

/-- `_average_reading_minutes`. -/
def averageReadingMinutes (events : List AnalyticsEventRecord) : ℚ :=
  let readingEvents := events.filter fun e =>
    e.type == AnalyticsEventType.readingTimeRecorded.value
  let sampleCount := (readingEvents.map samplesOf).sum
  if sampleCount = 0 then 0
  else
    let totalSeconds := (readingEvents.map fun e => e.value).sum
    totalSeconds / sampleCount / 60

/-- The dictionary `values` of `_build_kpi_metrics`. -/
def kpiValues (events : List AnalyticsEventRecord) : List (String × ℚ) :=
  [("active_members",
      (activeMemberHashes events).length + sumValuesWithoutMemberHash events .memberActive),
    ("new_members", sumValues events .memberJoined),
    ("materials_published", sumValues events .materialPublished),
    ("content_views", sumValues events .contentViewed),
    ("avg_reading_minutes", averageReadingMinutes events),
    ("comments", sumValues events .commentCreated),
    ("tasks_completed", sumValues events .taskCompleted),
    ("initiatives_created", sumValues events .initiativeCreated)]

/-- `values[key]`. -/
def kpiValue (events : List AnalyticsEventRecord) (key : String) : Except AnalyticsError ℚ :=
  match (kpiValues events).lookup key with
  | some x => .ok x
  | none => .error (.keyError key)

/-- `_status_for_value`. -/
def statusForValue (value : ℚ) (targetMin targetMax : Option ℚ) : KpiStatus :=
  if targetMin.any fun bound => decide (value < bound) then .belowTarget
  else if targetMax.any fun bound => decide (bound < value) then .aboveTarget
  else .onTrack

/-- The metric of one definition. -/
def kpiMetric (events : List AnalyticsEventRecord) (definition : KpiDefinition) :
    Except AnalyticsError KpiMetric := do
  let value ← kpiValue events definition.key
  (Validated.make "KPIMetric" KpiMetricFields.checks
    { key := Text.trim definition.key
      category := definition.category
      label := Text.trim definition.label
      value := roundMetric value
      unit := Text.trim definition.unit
      targetMin := definition.targetMin
      targetMax := definition.targetMax
      targetWindow := Text.trim definition.targetWindow
      status := statusForValue value definition.targetMin definition.targetMax }).mapError .shared

/-- `_build_kpi_metrics`. -/
def buildKpiMetrics (events : List AnalyticsEventRecord) : Except AnalyticsError (List KpiMetric) :=
  kpiDefinitions.mapM (kpiMetric events)

/-! ## Texts -/

/-- `f"{x:.4f}"`. -/
def formatFixed (x : ℚ) : String :=
  let n := (roundHalfEven (|x| * 10 ^ 4)).toNat
  let digits := Nat.toDigits 10 (n % 10000)
  (if x < 0 then "-" else "") ++ toString (n / 10000) ++ "." ++
    String.ofList (List.replicate (4 - digits.length) '0' ++ digits)

/-- `str.rstrip` of one character. -/
def rstrip (c : Char) (s : String) : String :=
  String.ofList (s.toList.rdropWhile fun d => d == c)

/-- `_format_float`. -/
def formatFloat (x : ℚ) : String :=
  if x.den = 1 then toString x.num else rstrip '.' (rstrip '0' (formatFixed x))

/-- `_metric_target_label`. -/
def metricTargetLabel (metric : KpiMetric) : String :=
  match metric.fields.targetMin, metric.fields.targetMax with
  | none, none => metric.fields.targetWindow
  | none, some hi => "цель до " ++ formatFloat hi
  | some lo, none => "цель от " ++ formatFloat lo
  | some lo, some hi => "цель " ++ formatFloat lo ++ "-" ++ formatFloat hi

/-- `_rl_kpi_xai_summary`. -/
def rlKpiXaiSummary (metric : KpiMetric) (periods : List String) (baselineValue : ℚ)
    (windowDays : ℤ) : String :=
  metric.fields.label ++ ": последнее значение " ++ formatFloat metric.fields.value ++ " " ++
    metric.fields.unit ++ ", окно " ++ toString windowDays ++ " дней (" ++
    ", ".intercalate periods ++ "), среднее окна " ++ formatFloat baselineValue ++ ", " ++
    metricTargetLabel metric ++ "; предложение требует approval Совета."

/-! ## Proposals -/

/-- `_metric_series`. -/
def metricSeries (periodKpis : List AnalyticsKpiResponse) (metricKey : String) : List KpiMetric :=
  periodKpis.flatMap fun kpi => kpi.fields.metrics.filter fun m => m.fields.key == metricKey

/-- `_expected_direction`. -/
def expectedDirection (metric : KpiMetric) : RlKpiExpectedDirection :=
  if metric.fields.status = .aboveTarget then .decrease else .increase

/-- `_expected_lift`. -/
def expectedLift (metric : KpiMetric) (direction : RlKpiExpectedDirection) : ℚ :=
  match direction, metric.fields.targetMin, metric.fields.targetMax with
  | .increase, some lo, _ => roundMetric (max (lo - metric.fields.value) 0)
  | .decrease, _, some hi => roundMetric (max (metric.fields.value - hi) 0)
  | _, _, _ => 0

/-- The actions of `_rl_kpi_action`. -/
def rlKpiActions : List (String × String) :=
  [("active_members", "increase_member_activation"),
    ("new_members", "review_onboarding_funnel"),
    ("materials_published", "rebalance_content_plan"),
    ("content_views", "increase_distribution_and_link_rotation"),
    ("avg_reading_minutes", "improve_article_structure"),
    ("comments", "run_engagement_prompt_experiment"),
    ("tasks_completed", "review_task_queue_and_notifications"),
    ("initiatives_created", "prepare_initiative_call")]

/-- `_rl_kpi_action`. -/
def rlKpiAction (metricKey : String) (direction : RlKpiExpectedDirection) : String :=
  if direction = .decrease then "stabilize_metric_with_council_review"
  else (rlKpiActions.lookup metricKey).getD "optimize_metric_under_council_control"

/-- The proposal for one metric that is not on track. -/
def rlKpiProposal (iterationId : String) (periodKpis : List AnalyticsKpiResponse) (windowDays : ℤ)
    (metric : KpiMetric) : Except AnalyticsError RlKpiOptimizationProposal :=
  let values := (metricSeries periodKpis metric.fields.key).map fun m => m.fields.value
  let baselineValue := if values.isEmpty then 0 else roundMetric (values.sum / values.length)
  let direction := expectedDirection metric
  (Validated.make "RLKPIOptimizationProposal" ProposalFields.checks
    { proposalId := Text.trim (iterationId ++ ":" ++ metric.fields.key)
      metricKey := Text.trim metric.fields.key
      category := metric.fields.category
      status := .proposed
      policyKey := Text.trim ("rl_kpi." ++ metric.fields.key)
      action := rlKpiAction metric.fields.key direction
      rationaleCode := Text.trim (metric.fields.key ++ "_" ++ metric.fields.status.value)
      baselineValue := baselineValue
      latestValue := metric.fields.value
      targetMin := metric.fields.targetMin
      targetMax := metric.fields.targetMax
      expectedDirection := direction
      expectedLift := expectedLift metric direction
      xaiSummary := Text.trim (rlKpiXaiSummary metric
        (periodKpis.map fun kpi => kpi.fields.period) baselineValue windowDays)
      requiresCouncilApproval := true }).mapError .shared

/-- `_build_rl_kpi_proposals`. -/
def buildRlKpiProposals (iterationId : String) (periodKpis : List AnalyticsKpiResponse)
    (windowDays : ℤ) : Except AnalyticsError (List RlKpiOptimizationProposal) :=
  match periodKpis.getLast? with
  | none => .ok []
  | some latest =>
      (latest.fields.metrics.filter fun m => m.fields.status != .onTrack).mapM
        (rlKpiProposal iterationId periodKpis windowDays)

end MediaCenter.AnalyticsEngine
