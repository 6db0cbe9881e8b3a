import MediaCenter.Library.ExceptList
import MediaCenter.Model.AnalyticsEngine.Kpis

/-!
# The status of a metric

A metric reports its value rounded to four decimals, with the status of the value before it was
rounded.  The two part company next to a target.
-/

set_option autoImplicit false

namespace MediaCenter.AnalyticsEngine

open MediaCenter.Library MediaCenter.Shared

/-! ## What the KPI measure -/

section Measured

variable (events : List AnalyticsEventRecord)

/-- The sum of what the events of one type give. -/
def total (eventType : AnalyticsEventType) (give : AnalyticsEventRecord → ℚ) : ℚ :=
  (events.map fun e => if e.type = eventType.value then give e else 0).sum

/-- The hashes of the members that were active. -/
def activeMembers : Finset String :=
  (events.filterMap fun e =>
    if e.type = AnalyticsEventType.memberActive.value then e.memberHash else none).toFinset

/-- The average time of a reading, in minutes. -/
def readingMinutes : ℚ :=
  let samples := total events .readingTimeRecorded fun e => samplesOf e
  if samples = 0 then 0
  else total events .readingTimeRecorded (fun e => e.value) / samples / 60

/-- The type of the events that a KPI adds up. -/
def countedType : String → Option AnalyticsEventType
  | "new_members" => some .memberJoined
  | "materials_published" => some .materialPublished
  | "content_views" => some .contentViewed
  | "comments" => some .commentCreated
  | "tasks_completed" => some .taskCompleted
  | "initiatives_created" => some .initiativeCreated
  | _ => none

/-- What a KPI measures, before anything is rounded: distinct members, an average or a sum. -/
def measured (key : String) : ℚ :=
  match countedType key with
  | some eventType => total events eventType fun e => e.value
  | none =>
      if key = "avg_reading_minutes" then readingMinutes events
      else (activeMembers events).card + total events .memberActive fun e =>
        if e.memberHash = none then e.value else 0

end Measured

/-- The number misses a target of the KPI by no more than rounding may hide. -/
def NearTarget (definition : KpiDefinition) (x : ℚ) : Prop :=
  (∃ lo ∈ definition.targetMin, lo - 1 / 20000 ≤ x ∧ x < lo) ∨
    ∃ hi ∈ definition.targetMax, hi < x ∧ x ≤ hi + 1 / 20000

instance (definition : KpiDefinition) (x : ℚ) : Decidable (NearTarget definition x) :=
  inferInstanceAs (Decidable (_ ∨ _))

/-- The metric has the status of its own value. -/
def Agrees (metric : KpiMetric) : Prop :=
  metric.fields.status =
    statusForValue metric.fields.value metric.fields.targetMin metric.fields.targetMax

/-- The latest value is outside the target range, and the lift brings it to the bound. -/
def Lifts (proposal : RlKpiOptimizationProposal) : Prop :=
  0 < proposal.fields.expectedLift ∧
    ((proposal.fields.expectedDirection = .increase ∧ ∃ lo ∈ proposal.fields.targetMin,
        proposal.fields.latestValue < lo ∧
        proposal.fields.latestValue + proposal.fields.expectedLift = lo) ∨
      (proposal.fields.expectedDirection = .decrease ∧ ∃ hi ∈ proposal.fields.targetMax,
        hi < proposal.fields.latestValue ∧
        proposal.fields.latestValue - proposal.fields.expectedLift = hi))

/-- Whatever proposals these metrics lead to, as those of the last period, lift. -/
def AllLift (metrics : List KpiMetric) : Prop :=
  ∀ iterationId (earlier : List AnalyticsKpiResponse) (latest : AnalyticsKpiResponse) windowDays
    proposals, latest.fields.metrics = metrics →
    buildRlKpiProposals iterationId (earlier ++ [latest]) windowDays = .ok proposals →
    ∀ proposal ∈ proposals, Lifts proposal

/-! ## The values -/

section Values

variable {events : List AnalyticsEventRecord}

theorem sum_map_filter {α : Type} (p : α → Bool) (give : α → ℚ) (l : List α) :
    ((l.filter p).map give).sum = (l.map fun a => if p a then give a else 0).sum := by
  induction l with
  | nil => rfl
  | cons a rest ih =>
      rw [List.map_cons, List.sum_cons, ← ih]
      cases h : p a with
      | true => rw [List.filter_cons_of_pos h, List.map_cons, List.sum_cons, if_pos rfl]
      | false => rw [List.filter_cons_of_neg (by simp [h]), if_neg (fun h => by cases h), zero_add]

theorem total_eq_sum_filter (eventType : AnalyticsEventType) (give : AnalyticsEventRecord → ℚ) :
    ((events.filter fun e => e.type == eventType.value).map give).sum =
      total events eventType give := by
  rw [sum_map_filter]
  simp only [beq_iff_eq]
  rfl

theorem sumValues_eq (eventType : AnalyticsEventType) :
    sumValues events eventType = total events eventType fun e => e.value :=
  total_eq_sum_filter eventType _

theorem sumValuesWithoutMemberHash_eq (eventType : AnalyticsEventType) :
    sumValuesWithoutMemberHash events eventType =
      total events eventType fun e => if e.memberHash = none then e.value else 0 := by
  unfold sumValuesWithoutMemberHash total
  rw [sum_map_filter]
  simp only [Bool.and_eq_true, beq_iff_eq, Option.isNone_iff_eq_none, ite_and]

theorem activeMemberHashes_length :
    (activeMemberHashes events).length = (activeMembers events).card := by
  have hsame : ((events.filter fun e => e.type == AnalyticsEventType.memberActive.value).filterMap
      fun e => e.memberHash) = events.filterMap fun e =>
        if e.type = AnalyticsEventType.memberActive.value then e.memberHash else none := by
    rw [List.filterMap_filter]
    simp only [beq_iff_eq]
  unfold activeMemberHashes activeMembers
  rw [hsame, List.card_toFinset]

theorem averageReadingMinutes_eq : averageReadingMinutes events = readingMinutes events := by
  have hsamples : total events .readingTimeRecorded (fun e => (samplesOf e : ℚ)) =
      (((events.filter fun e => e.type == AnalyticsEventType.readingTimeRecorded.value).map
        samplesOf).sum : ℤ) := by
    have hsum := map_list_sum (Int.castRingHom ℚ) ((events.filter fun e =>
      e.type == AnalyticsEventType.readingTimeRecorded.value).map samplesOf)
    rw [List.map_map] at hsum
    rw [← total_eq_sum_filter]
    exact hsum.symm
  unfold averageReadingMinutes readingMinutes
  simp only [hsamples, Int.cast_eq_zero, total_eq_sum_filter]

theorem kpiValue_eq {definition : KpiDefinition} (h : definition ∈ kpiDefinitions) :
    kpiValue events definition.key = .ok (measured events definition.key) := by
  revert definition
  unfold kpiValue kpiValues
  simp only [sumValues_eq, sumValuesWithoutMemberHash_eq, activeMemberHashes_length,
    averageReadingMinutes_eq]
  unfold kpiDefinitions
  simp only [List.forall_mem_cons]
  exact ⟨rfl, rfl, rfl, rfl, rfl, rfl, rfl, rfl, (fun _ h => by cases h)⟩

end Values

/-! ## Rounding next to a target -/

section Rounding

theorem roundMetric_le_iff (bound : ℤ) (x : ℚ) :
    roundMetric x ≤ bound ↔ x ≤ bound + 1 / 20000 := by
  have heven : Even (bound * 10 ^ 4) := by
    exact Even.mul_left (by decide) bound
  have hcast : (bound : ℚ) = ((bound * 10 ^ 4 : ℤ) : ℚ) / 10 ^ 4 := by
    push_cast
    ring
  rw [hcast, roundMetric, roundTo_le_iff_of_even heven]
  norm_num

theorem le_roundMetric_iff (bound : ℤ) (x : ℚ) :
    bound ≤ roundMetric x ↔ bound - 1 / 20000 ≤ x := by
  have heven : Even (bound * 10 ^ 4) := by
    exact Even.mul_left (by decide) bound
  have hcast : (bound : ℚ) = ((bound * 10 ^ 4 : ℤ) : ℚ) / 10 ^ 4 := by
    push_cast
    ring
  rw [hcast, roundMetric, le_roundTo_iff_of_even heven]
  norm_num

/-- The targets of a KPI are whole numbers, the lower one first. -/
structure WholeTargets (definition : KpiDefinition) : Prop where
  lo : ∀ lo ∈ definition.targetMin, ∃ n : ℤ, lo = n
  hi : ∀ hi ∈ definition.targetMax, ∃ n : ℤ, hi = n
  lo_le_hi : ∀ lo ∈ definition.targetMin, ∀ hi ∈ definition.targetMax, lo ≤ hi

theorem wholeTargets {definition : KpiDefinition} (h : definition ∈ kpiDefinitions) :
    WholeTargets definition := by
  have hall : ∀ d ∈ kpiDefinitions, (∀ lo ∈ d.targetMin, (lo.num : ℚ) = lo) ∧
      (∀ hi ∈ d.targetMax, (hi.num : ℚ) = hi) ∧
      ∀ lo ∈ d.targetMin, ∀ hi ∈ d.targetMax, lo ≤ hi := by decide
  obtain ⟨hlo, hhi, hle⟩ := hall definition h
  exact ⟨fun lo hmem => ⟨_, (hlo lo hmem).symm⟩, fun hi hmem => ⟨_, (hhi hi hmem).symm⟩, hle⟩

theorem any_lt_iff {bound : Option ℚ} {x : ℚ} :
    bound.any (fun b => decide (x < b)) = true ↔ ∃ b ∈ bound, x < b := by
  simp only [Option.any_eq_true, decide_eq_true_iff, Option.mem_def]

theorem any_gt_iff {bound : Option ℚ} {x : ℚ} :
    bound.any (fun b => decide (b < x)) = true ↔ ∃ b ∈ bound, b < x := by
  simp only [Option.any_eq_true, decide_eq_true_iff, Option.mem_def]

section Status

variable {x : ℚ} {targetMin targetMax : Option ℚ}

theorem statusForValue_of_below (h : ∃ lo ∈ targetMin, x < lo) :
    statusForValue x targetMin targetMax = .belowTarget := by
  unfold statusForValue
  rw [if_pos (any_lt_iff.mpr h)]

theorem statusForValue_of_above (h : ¬ ∃ lo ∈ targetMin, x < lo)
    (habove : ∃ hi ∈ targetMax, hi < x) :
    statusForValue x targetMin targetMax = .aboveTarget := by
  unfold statusForValue
  rw [if_neg (mt any_lt_iff.mp h), if_pos (any_gt_iff.mpr habove)]

theorem statusForValue_of_within (h : ¬ ∃ lo ∈ targetMin, x < lo)
    (habove : ¬ ∃ hi ∈ targetMax, hi < x) :
    statusForValue x targetMin targetMax = .onTrack := by
  unfold statusForValue
  rw [if_neg (mt any_lt_iff.mp h), if_neg (mt any_gt_iff.mp habove)]

/-- INTERNAL: what the status says of the value. -/
theorem statusForValue_cases (x : ℚ) (targetMin targetMax : Option ℚ) :
    (statusForValue x targetMin targetMax = .belowTarget ∧ ∃ lo ∈ targetMin, x < lo) ∨
    (statusForValue x targetMin targetMax = .aboveTarget ∧ (¬ ∃ lo ∈ targetMin, x < lo) ∧
      ∃ hi ∈ targetMax, hi < x) ∨
    (statusForValue x targetMin targetMax = .onTrack ∧ (¬ ∃ lo ∈ targetMin, x < lo) ∧
      ¬ ∃ hi ∈ targetMax, hi < x) := by
  by_cases hbelow : ∃ lo ∈ targetMin, x < lo
  · exact .inl ⟨statusForValue_of_below hbelow, hbelow⟩
  · by_cases habove : ∃ hi ∈ targetMax, hi < x
    · exact .inr (.inl ⟨statusForValue_of_above hbelow habove, hbelow, habove⟩)
    · exact .inr (.inr ⟨statusForValue_of_within hbelow habove, hbelow, habove⟩)

end Status

/-- INTERNAL: rounding keeps the status, but next to a target. -/
theorem statusForValue_roundMetric_iff {definition : KpiDefinition} (h : WholeTargets definition)
    (x : ℚ) : statusForValue x definition.targetMin definition.targetMax =
        statusForValue (roundMetric x) definition.targetMin definition.targetMax ↔
      ¬ NearTarget definition x := by
  have hlo : ∀ lo ∈ definition.targetMin, (roundMetric x < lo ↔ x < lo - 1 / 20000) := by
    intro lo hmem
    obtain ⟨n, rfl⟩ := h.lo lo hmem
    rw [← not_le, le_roundMetric_iff, not_le]
  have hhi : ∀ hi ∈ definition.targetMax, (hi < roundMetric x ↔ hi + 1 / 20000 < x) := by
    intro hi hmem
    obtain ⟨n, rfl⟩ := h.hi hi hmem
    rw [← not_le, roundMetric_le_iff, not_le]
  constructor
  · rintro hsame (⟨lo, hmem, hnear, hlt⟩ | ⟨hi, hmem, hlt, hnear⟩)
    · rw [statusForValue_of_below ⟨lo, hmem, hlt⟩] at hsame
      rcases statusForValue_cases (roundMetric x) definition.targetMin definition.targetMax with
        ⟨_, lo', hmem', hbelow⟩ | ⟨hstatus, _⟩ | ⟨hstatus, _⟩
      · rw [Option.mem_unique hmem' hmem, hlo lo hmem] at hbelow
        exact absurd hnear (not_le.mpr hbelow)
      · rw [hstatus] at hsame
        cases hsame
      · rw [hstatus] at hsame
        cases hsame
    · have hnot : ¬ ∃ lo ∈ definition.targetMin, x < lo := by
        rintro ⟨lo, hlomem, hbelow⟩
        exact absurd (hbelow.trans_le (h.lo_le_hi lo hlomem hi hmem)) (not_lt.mpr hlt.le)
      rw [statusForValue_of_above hnot ⟨hi, hmem, hlt⟩] at hsame
      rcases statusForValue_cases (roundMetric x) definition.targetMin definition.targetMax with
        ⟨hstatus, _⟩ | ⟨_, _, hi', hmem', habove⟩ | ⟨hstatus, _⟩
      · rw [hstatus] at hsame
        cases hsame
      · rw [Option.mem_unique hmem' hmem, hhi hi hmem] at habove
        exact absurd hnear (not_le.mpr habove)
      · rw [hstatus] at hsame
        cases hsame
  · intro hfar
    have hbelow : (∃ lo ∈ definition.targetMin, roundMetric x < lo) ↔
        ∃ lo ∈ definition.targetMin, x < lo := by
      constructor
      · rintro ⟨lo, hmem, hlt⟩
        rw [hlo lo hmem] at hlt
        exact ⟨lo, hmem, by linarith⟩
      · rintro ⟨lo, hmem, hlt⟩
        refine ⟨lo, hmem, (hlo lo hmem).mpr ?_⟩
        by_contra hnot
        exact hfar (.inl ⟨lo, hmem, not_lt.mp hnot, hlt⟩)
    have habove : (∃ hi ∈ definition.targetMax, hi < roundMetric x) ↔
        ∃ hi ∈ definition.targetMax, hi < x := by
      constructor
      · rintro ⟨hi, hmem, hlt⟩
        rw [hhi hi hmem] at hlt
        exact ⟨hi, hmem, by linarith⟩
      · rintro ⟨hi, hmem, hlt⟩
        refine ⟨hi, hmem, (hhi hi hmem).mpr ?_⟩
        by_contra hnot
        exact hfar (.inr ⟨hi, hmem, hlt, not_lt.mp hnot⟩)
    rcases statusForValue_cases x definition.targetMin definition.targetMax with
      ⟨hstatus, h⟩ | ⟨hstatus, h, h'⟩ | ⟨hstatus, h, h'⟩
    · rw [hstatus, statusForValue_of_below (hbelow.mpr h)]
    · rw [hstatus, statusForValue_of_above (mt hbelow.mp h) (habove.mpr h')]
    · rw [hstatus, statusForValue_of_within (mt hbelow.mp h) (mt habove.mp h')]

end Rounding

/-! ## Metrics and proposals -/

section Metrics

variable {events : List AnalyticsEventRecord} {definition : KpiDefinition} {metric : KpiMetric}

/-- What is reported of a KPI. -/
def reported (events : List AnalyticsEventRecord) (definition : KpiDefinition) :
    KpiMetricFields where
  key := Text.trim definition.key
  category := definition.category
  label := Text.trim definition.label
  value := roundMetric (measured events definition.key)
  unit := Text.trim definition.unit
  targetMin := definition.targetMin
  targetMax := definition.targetMax
  targetWindow := Text.trim definition.targetWindow
  status := statusForValue (measured events definition.key) definition.targetMin
    definition.targetMax

theorem kpiMetric_eq (h : definition ∈ kpiDefinitions) : kpiMetric events definition =
    (Validated.make "KPIMetric" KpiMetricFields.checks (reported events definition)).mapError
      .shared := by
  unfold kpiMetric
  rw [kpiValue_eq h]
  rfl

theorem kpiMetric_eq_ok_iff (h : definition ∈ kpiDefinitions) :
    kpiMetric events definition = .ok metric ↔ metric.fields = reported events definition := by
  rw [kpiMetric_eq h, mapError_eq_ok_iff, Validated.make_eq_ok_iff]

theorem agrees_iff (h : definition ∈ kpiDefinitions)
    (hmetric : kpiMetric events definition = .ok metric) :
    Agrees metric ↔ ¬ NearTarget definition (measured events definition.key) := by
  rw [kpiMetric_eq_ok_iff h] at hmetric
  rw [← statusForValue_roundMetric_iff (wholeTargets h)]
  unfold Agrees
  rw [hmetric]
  rfl

/-- INTERNAL: the lift of a metric outside its targets is the exact distance. -/
theorem lifts_of_agrees (h : definition ∈ kpiDefinitions)
    (hmetric : kpiMetric events definition = .ok metric) (hagrees : Agrees metric)
    (hstatus : metric.fields.status ≠ .onTrack) {iterationId : String}
    {periodKpis : List AnalyticsKpiResponse} {windowDays : ℤ}
    {proposal : RlKpiOptimizationProposal}
    (hproposal : rlKpiProposal iterationId periodKpis windowDays metric = .ok proposal) :
    Lifts proposal := by
  have hwhole := wholeTargets h
  rw [kpiMetric_eq_ok_iff h] at hmetric
  have hgrid : OnGrid 4 metric.fields.value := by
    rw [hmetric]
    exact onGrid_roundTo 4 _
  have hmin : metric.fields.targetMin = definition.targetMin := by
    rw [hmetric]
    rfl
  have hmax : metric.fields.targetMax = definition.targetMax := by
    rw [hmetric]
    rfl
  have hint : ∀ n : ℤ, OnGrid 4 (n : ℚ) := fun n =>
    ⟨n * 10 ^ 4, by push_cast; ring⟩
  unfold rlKpiProposal at hproposal
  rw [mapError_eq_ok_iff, Validated.make_eq_ok_iff] at hproposal
  unfold Lifts
  rw [hproposal]
  simp only
  rcases statusForValue_cases metric.fields.value metric.fields.targetMin metric.fields.targetMax
    with ⟨hbelow, lo, hmem, hlt⟩ | ⟨habove, _, hi, hmem, hlt⟩ | ⟨hwithin, _⟩
  · have hdirection : expectedDirection metric = .increase := by
      unfold expectedDirection
      rw [if_neg (by rw [hagrees, hbelow]; decide)]
    obtain ⟨n, hn⟩ := hwhole.lo lo (hmin ▸ hmem)
    have hlift : expectedLift metric .increase = lo - metric.fields.value := by
      unfold expectedLift
      rw [Option.mem_def.mp hmem]
      simp only
      rw [max_eq_left (sub_nonneg.mpr hlt.le), hn]
      exact roundTo_of_onGrid ((hint n).sub hgrid)
    rw [hdirection, hlift]
    exact ⟨sub_pos.mpr hlt, .inl ⟨rfl, lo, hmem, hlt, add_sub_cancel _ _⟩⟩
  · have hdirection : expectedDirection metric = .decrease := by
      unfold expectedDirection
      rw [if_pos (by rw [hagrees, habove])]
    obtain ⟨n, hn⟩ := hwhole.hi hi (hmax ▸ hmem)
    have hlift : expectedLift metric .decrease = metric.fields.value - hi := by
      unfold expectedLift
      rw [Option.mem_def.mp hmem]
      simp only
      rw [max_eq_left (sub_nonneg.mpr hlt.le), hn]
      exact roundTo_of_onGrid (hgrid.sub (hint n))
    rw [hdirection, hlift]
    exact ⟨sub_pos.mpr hlt, .inr ⟨rfl, hi, hmem, hlt, sub_sub_cancel _ _⟩⟩
  · exact absurd (hagrees.trans hwithin) hstatus

/-- The values that the API lets into an event. -/
structure Accepted (event : AnalyticsEventRecord) : Prop where
  value_nonneg : 0 ≤ event.value
  sampleCount_pos : ∀ n ∈ event.sampleCount, 1 ≤ n

theorem Accepted.samplesOf_nonneg {event : AnalyticsEventRecord} (h : Accepted event) :
    0 ≤ samplesOf event := by
  unfold samplesOf
  cases hsamples : event.sampleCount with
  | none => decide
  | some n =>
      have hn := h.sampleCount_pos n hsamples
      simp only
      split_ifs <;> omega

theorem total_nonneg {eventType : AnalyticsEventType} {give : AnalyticsEventRecord → ℚ}
    (h : ∀ e ∈ events, 0 ≤ give e) : 0 ≤ total events eventType give := by
  apply List.sum_nonneg
  intro x hx
  obtain ⟨e, he, rfl⟩ := List.mem_map.mp hx
  split_ifs
  · exact h e he
  · exact le_refl _

theorem measured_nonneg (h : ∀ e ∈ events, Accepted e) (key : String) :
    0 ≤ measured events key := by
  have hvalue : ∀ eventType, 0 ≤ total events eventType fun e => e.value := fun _ =>
    total_nonneg fun e he => (h e he).value_nonneg
  unfold measured
  split
  · exact hvalue _
  · split_ifs
    · have hsamples : 0 ≤ total events .readingTimeRecorded fun e => (samplesOf e : ℚ) :=
        total_nonneg fun e he => Int.cast_nonneg (h e he).samplesOf_nonneg
      have hseconds := hvalue .readingTimeRecorded
      unfold readingMinutes
      simp only
      split_ifs
      · exact le_refl _
      · positivity
    · have hunnamed : 0 ≤ total events .memberActive fun e =>
          if e.memberHash = none then e.value else 0 := by
        apply total_nonneg
        intro e he
        split_ifs
        · exact (h e he).value_nonneg
        · exact le_refl _
      positivity

/-- INTERNAL: the metrics of accepted events are built. -/
theorem exists_buildKpiMetrics (h : ∀ e ∈ events, Accepted e) :
    ∃ metrics, buildKpiMetrics events = .ok metrics := by
  unfold buildKpiMetrics
  rw [exists_mapM_eq_ok_iff]
  intro definition hdefinition
  have hvalid : ∀ c ∈ KpiMetricFields.checks (reported events definition), c.2 = true := by
    unfold KpiMetricFields.checks
    rw [List.forall_mem_singleton]
    exact decide_eq_true (roundTo_nonneg 4 (measured_nonneg h definition.key))
  rw [kpiMetric_eq hdefinition, Validated.make_of_valid _ _ hvalid]
  exact ⟨_, rfl⟩

end Metrics

/-- The metrics have the status of what they report, and the proposals lift exactly to the bound,
if and only if no KPI misses a target by less than rounding may hide. -/
theorem kpiMetrics_agree_iff (events : List AnalyticsEventRecord) (metrics : List KpiMetric)
    (h : buildKpiMetrics events = .ok metrics) :
    ((∀ metric ∈ metrics, Agrees metric) ∧ AllLift metrics) ↔
      ∀ definition ∈ kpiDefinitions, ¬ NearTarget definition (measured events definition.key) := by
  unfold buildKpiMetrics at h
  constructor
  · rintro ⟨hagree, _⟩ definition hdefinition
    obtain ⟨metric, hmetric⟩ := (exists_mapM_eq_ok_iff _ _).mp ⟨_, h⟩ definition hdefinition
    have hmem : metric ∈ metrics := (mem_mapM_iff h).mpr ⟨definition, hdefinition, hmetric⟩
    exact (agrees_iff hdefinition hmetric).mp (hagree metric hmem)
  · intro hfar
    have hagree : ∀ metric ∈ metrics, ∃ definition ∈ kpiDefinitions,
        kpiMetric events definition = .ok metric ∧ Agrees metric := by
      intro metric hmem
      obtain ⟨definition, hdefinition, hmetric⟩ := exists_of_mem_mapM h hmem
      exact ⟨definition, hdefinition, hmetric,
        (agrees_iff hdefinition hmetric).mpr (hfar definition hdefinition)⟩
    refine ⟨fun metric hmem => (hagree metric hmem).choose_spec.2.2, ?_⟩
    intro iterationId earlier latest windowDays proposals hmetrics hproposals proposal hproposal
    unfold buildRlKpiProposals at hproposals
    rw [List.getLast?_concat] at hproposals
    obtain ⟨metric, hmem, hbuilt⟩ := exists_of_mem_mapM hproposals hproposal
    rw [List.mem_filter, hmetrics] at hmem
    obtain ⟨definition, hdefinition, hmetric, hagrees⟩ := hagree metric hmem.1
    have hstatus : metric.fields.status ≠ .onTrack := by simpa using hmem.2
    exact lifts_of_agrees hdefinition hmetric hagrees hstatus hbuilt

/-! ## A long and a short reading -/

/-- A reading of some seconds. -/
def reading (seconds : ℚ) : AnalyticsEventRecord :=
  ⟨"reading_time_recorded", seconds, none, none⟩

theorem accepted_reading {seconds : ℚ} (h : 0 ≤ seconds) : ∀ e ∈ [reading seconds], Accepted e := by
  rw [List.forall_mem_singleton]
  exact ⟨h, (fun _ h => by cases h)⟩

/-- The theorem at a reading of two minutes. -/
theorem kpiMetrics_agree_twoMinutes : ∃ metrics, buildKpiMetrics [reading 120] = .ok metrics ∧
    (∀ metric ∈ metrics, Agrees metric) ∧ AllLift metrics := by
  obtain ⟨metrics, hmetrics⟩ := exists_buildKpiMetrics (@accepted_reading 120 (by norm_num))
  have hfar : ∀ definition ∈ kpiDefinitions,
      ¬ NearTarget definition (measured [reading 120] definition.key) := by decide +kernel
  exact ⟨metrics, hmetrics, (kpiMetrics_agree_iff _ _ hmetrics).mpr hfar⟩

/-- The average of a reading of 179.999 seconds is below the target, and reported as on it. -/
theorem not_kpiMetrics_agree : ¬ ∀ events metrics, buildKpiMetrics events = .ok metrics →
    (∀ metric ∈ metrics, Agrees metric) ∧ AllLift metrics := by
  intro hall
  obtain ⟨metrics, hmetrics⟩ :=
    exists_buildKpiMetrics (@accepted_reading (179999 / 1000) (by norm_num))
  have hnear : ∃ definition ∈ kpiDefinitions,
      NearTarget definition (measured [reading (179999 / 1000)] definition.key) := by
    decide +kernel
  obtain ⟨definition, hdefinition, hnear⟩ := hnear
  have hagree := (hall _ _ hmetrics).1
  unfold buildKpiMetrics at hmetrics
  obtain ⟨metric, hmetric⟩ :=
    (exists_mapM_eq_ok_iff _ _).mp ⟨_, hmetrics⟩ definition hdefinition
  have hmem : metric ∈ metrics := (mem_mapM_iff hmetrics).mpr ⟨definition, hdefinition, hmetric⟩
  exact (agrees_iff hdefinition hmetric).mp (hagree metric hmem) hnear

end MediaCenter.AnalyticsEngine
