import MediaCenter.Analysis.Shared.TelemetryPayloads
import MediaCenter.Library.Unwinding

/-!
# Metrics that agree with themselves

The counter of an operation goes up before its duration is checked, so a call that raises for its
duration is counted all the same.  A bound that was given twice is counted twice for each
duration under it, and printed twice.  Without the two, counter, histogram and export tell the
same story: that of the calls that returned.
-/

set_option autoImplicit false

namespace MediaCenter.Shared

namespace Observability

open MediaCenter.Library

/-! ## The calls that returned -/

section Returned

variable (py : TelemetryStdlib)

/-- The labels and the duration of a call that passes its checks. -/
def RecordOperation.observation (call : RecordOperation) : Option (MetricLabels × ℚ) :=
  match metricLabels py call.context call.status, nonNegativeFloat call.durationSeconds with
  | .ok labels, .ok duration => some (labels, duration)
  | _, _ => none

/-- What the calls that returned observed, in order. -/
def returnedCalls (registry : TenantMetricRegistry) (calls : List RecordOperation) :
    List (MetricLabels × ℚ) :=
  (answers (TenantMetricRegistry.recordOperation py) registry calls).filterMap fun a =>
    match a.2 with
    | .ok _ => a.1.observation py
    | .error _ => none

end Returned

/-- The durations observed with these labels. -/
def durationsOf (labels : MetricLabels) (returned : List (MetricLabels × ℚ)) : List ℚ :=
  (returned.filter fun e => e.1 = labels).map Prod.snd

/-- How many of the durations with these labels lie within the bound. -/
def countWithin (labels : MetricLabels) (bound : ℚ) (returned : List (MetricLabels × ℚ)) : ℕ :=
  (durationsOf labels returned).countP fun duration => duration ≤ bound

/-- One counter line and one line for each bound, for each label set. -/
def exportOf (py : TelemetryStdlib) (buckets : List ℚ) (returned : List (MetricLabels × ℚ))
    (labelSets : List MetricLabels) (totals : MetricLabels → Option ℚ) : List String :=
  counterHeader ++
    labelSets.map (fun labels => counterLine labels (durationsOf labels returned).length) ++
    histogramHeader ++
    labelSets.flatMap fun labels =>
      (buckets.dedup.map fun bound =>
        bucketLine labels (formatMetricValue py bound) (countWithin labels bound returned)) ++
        summaryLines py labels (durationsOf labels returned).length (totals labels)

/-- Counters, histograms and the export go by the calls that returned. -/
structure AgreesWith (py : TelemetryStdlib) (registry : TenantMetricRegistry)
    (returned : List (MetricLabels × ℚ)) : Prop where
  counter : ∀ labels,
    (registry.counters.get? labels).getD 0 = (durationsOf labels returned).length
  histogram : ∀ labels, ((registry.histograms.get? labels).map HistogramState.count).getD 0 =
    (durationsOf labels returned).length
  bucket : ∀ labels h, registry.histograms.get? labels = some h → ∀ bound ∈ registry.buckets,
    (h.bucketCounts.get? bound).getD 0 = countWithin labels bound returned
  monotone : ∀ labels h, registry.histograms.get? labels = some h →
    ∀ bound ∈ registry.buckets, ∀ bound' ∈ registry.buckets, bound ≤ bound' →
      (h.bucketCounts.get? bound).getD 0 ≤ (h.bucketCounts.get? bound').getD 0
  exported : ∃ (labelSets : List MetricLabels) (totals : MetricLabels → Option ℚ),
    labelSets.Nodup ∧ (∀ labels, labels ∈ labelSets ↔ durationsOf labels returned ≠ []) ∧
      registry.exportLines py = exportOf py registry.buckets returned labelSets totals ∧
      registry.exportPrometheus py =
        "\n".intercalate (exportOf py registry.buckets returned labelSets totals) ++ "\n"

theorem countWithin_mono {labels : MetricLabels} {returned : List (MetricLabels × ℚ)}
    {bound bound' : ℚ} (hle : bound ≤ bound') :
    countWithin labels bound returned ≤ countWithin labels bound' returned :=
  List.countP_mono_left fun _ _ h => decide_eq_true ((of_decide_eq_true h).trans hle)

/-- In every state of the run the metrics agree with the calls that returned so far, and a call
that raises changes nothing. -/
def MetricsAgree (py : TelemetryStdlib) (registry : TenantMetricRegistry)
    (calls : List RecordOperation) : Prop :=
  (∀ earlier later, calls = earlier ++ later →
    AgreesWith py (after (TenantMetricRegistry.recordOperation py) registry earlier)
      (returnedCalls py registry earlier)) ∧
  ∀ earlier call later, calls = earlier ++ call :: later →
    ∀ e, ((after (TenantMetricRegistry.recordOperation py) registry earlier).recordOperation
        py call).1 = .error e →
      ((after (TenantMetricRegistry.recordOperation py) registry earlier).recordOperation
        py call).2 = after (TenantMetricRegistry.recordOperation py) registry earlier

/-- A call whose labels are accepted has a finite duration, not below zero. -/
def Measured (py : TelemetryStdlib) (call : RecordOperation) : Prop :=
  ∀ labels, metricLabels py call.context call.status = .ok labels →
    ∃ duration, nonNegativeFloat call.durationSeconds = .ok duration

/-! ## Durations and bounds -/

section Durations

variable {labels labels' : MetricLabels} {duration bound bound' : ℚ}
  {returned : List (MetricLabels × ℚ)}

theorem durationsOf_concat : durationsOf labels (returned ++ [(labels', duration)]) =
    durationsOf labels returned ++ if labels' = labels then [duration] else [] := by
  unfold durationsOf
  rw [List.filter_append, List.map_append]
  by_cases h : labels' = labels
  · simp [h]
  · simp [h]

theorem countWithin_concat : countWithin labels bound (returned ++ [(labels', duration)]) =
    countWithin labels bound returned +
      if labels' = labels ∧ duration ≤ bound then 1 else 0 := by
  unfold countWithin
  rw [durationsOf_concat, List.countP_append]
  by_cases h : labels' = labels
  · by_cases hle : duration ≤ bound
    · simp [h, hle]
    · simp [h, hle]
  · simp [h]

/-- INTERNAL: one duration goes once into every bucket that is wide enough. -/
theorem get?_countInto {buckets : List ℚ} (hnodup : buckets.Nodup) (counts : Dict ℚ ℕ) :
    ((HistogramState.countInto duration counts buckets).get? bound).getD 0 =
      (counts.get? bound).getD 0 + if bound ∈ buckets ∧ duration ≤ bound then 1 else 0 := by
  unfold HistogramState.countInto
  induction buckets generalizing counts with
  | nil => simp
  | cons bucket rest ih =>
      rw [List.nodup_cons] at hnodup
      rw [List.foldl_cons, ih hnodup.2]
      by_cases hle : duration ≤ bucket
      · rw [if_pos hle, Dict.get?_set]
        by_cases hbucket : bound = bucket
        · subst hbucket
          simp [hnodup.1, hle]
        · simp [hbucket]
      · rw [if_neg hle]
        by_cases hbucket : bound = bucket
        · subst hbucket
          simp [hle]
        · simp [hbucket]

end Durations

/-! ## Keys in step -/

section Keys

variable {κ α β : Type} [DecidableEq κ]

/-- INTERNAL: what is set decides the keys, not its value. -/
theorem map_fst_entries_set {d : Dict κ α} {d' : Dict κ β}
    (h : d.entries.map Prod.fst = d'.entries.map Prod.fst) (k : κ) (v : α) (v' : β) :
    (d.set k v).entries.map Prod.fst = (d'.set k v').entries.map Prod.fst := by
  have hiff : d.contains k = true ↔ d'.contains k = true := by
    rw [Dict.contains_iff_mem, Dict.contains_iff_mem, h]
  by_cases hk : d.contains k = true
  · rw [Dict.entries_set_of_contains hk, Dict.entries_set_of_contains (hiff.mp hk),
      Dict.map_fst_replaceEntries, Dict.map_fst_replaceEntries, h]
  · rw [Dict.entries_set_of_not_contains hk,
      Dict.entries_set_of_not_contains (fun h' => hk (hiff.mpr h')), List.map_append,
      List.map_append, h]
    rfl

end Keys

/-! ## The invariant -/

section Run

variable {py : TelemetryStdlib}

/-- What a registry with these bounds keeps of the calls that returned. -/
structure Tallied (bounds : List ℚ) (registry : TenantMetricRegistry)
    (returned : List (MetricLabels × ℚ)) : Prop where
  buckets : registry.buckets = bounds
  keys : registry.counters.entries.map Prod.fst = registry.histograms.entries.map Prod.fst
  mem : ∀ labels, registry.counters.contains labels = true ↔ durationsOf labels returned ≠ []
  counter : ∀ labels,
    (registry.counters.get? labels).getD 0 = (durationsOf labels returned).length
  histogram : ∀ labels h, registry.histograms.get? labels = some h →
    h.buckets = bounds ∧ h.count = (durationsOf labels returned).length ∧
      (bounds.Nodup → ∀ bound ∈ bounds,
        (h.bucketCounts.get? bound).getD 0 = countWithin labels bound returned)

variable {bounds : List ℚ} {registry : TenantMetricRegistry} {call : RecordOperation}
  {returned : List (MetricLabels × ℚ)} {labels : MetricLabels} {duration : ℚ}

theorem tallied_new (bounds : List ℚ) : Tallied bounds ⟨bounds, Dict.empty, Dict.empty⟩ [] where
  buckets := rfl
  keys := rfl
  mem _ := iff_of_false Bool.false_ne_true (fun h => h rfl)
  counter _ := rfl
  histogram _ _ h := by cases h

theorem recordOperation_of_labels_error {e : ObservabilityException}
    (h : metricLabels py call.context call.status = .error e) :
    registry.recordOperation py call = (.error e, registry) := by
  unfold TenantMetricRegistry.recordOperation
  rw [h]

/-- What a call leaves that is refused for its duration. -/
theorem recordOperation_of_duration_error {e : ObservabilityException}
    (hlabels : metricLabels py call.context call.status = .ok labels)
    (h : nonNegativeFloat call.durationSeconds = .error e) :
    registry.recordOperation py call = (.error e, ⟨registry.buckets,
      registry.counters.set labels ((registry.counters.get? labels).getD 0 + 1),
      registry.histograms.set labels
        ((registry.histograms.get? labels).getD (.new registry.buckets))⟩) := by
  unfold TenantMetricRegistry.recordOperation
  rw [hlabels, h]

theorem recordOperation_of_ok
    (hlabels : metricLabels py call.context call.status = .ok labels)
    (h : nonNegativeFloat call.durationSeconds = .ok duration) :
    registry.recordOperation py call = (.ok (), ⟨registry.buckets,
      registry.counters.set labels ((registry.counters.get? labels).getD 0 + 1),
      (registry.histograms.set labels
        ((registry.histograms.get? labels).getD (.new registry.buckets))).set labels
          (((registry.histograms.get? labels).getD (.new registry.buckets)).observe duration)⟩) := by
  unfold TenantMetricRegistry.recordOperation
  rw [hlabels, h]

/-- INTERNAL: the histogram that a call finds for its labels, or makes. -/
theorem Tallied.found (h : Tallied bounds registry returned) (labels : MetricLabels)
    {found : HistogramState}
    (hfound : (registry.histograms.get? labels).getD (.new registry.buckets) = found) :
    found.buckets = bounds ∧ found.count = (durationsOf labels returned).length ∧
      (bounds.Nodup → ∀ bound ∈ bounds,
        (found.bucketCounts.get? bound).getD 0 = countWithin labels bound returned) := by
  cases hget : registry.histograms.get? labels with
  | some state =>
      rw [hget] at hfound
      subst hfound
      exact h.histogram labels state hget
  | none =>
      rw [hget] at hfound
      subst hfound
      have hnone : durationsOf labels returned = [] := by
        by_contra hne
        have hcontains := (h.mem labels).mpr hne
        rw [Dict.contains_iff_mem, h.keys, ← Dict.contains_iff_mem] at hcontains
        unfold Dict.contains at hcontains
        rw [hget] at hcontains
        cases hcontains
      refine ⟨h.buckets, ?_, fun _ bound _ => ?_⟩
      · rw [hnone]
        rfl
      · unfold countWithin
        rw [hnone]
        rfl

/-- One call that returns. -/
theorem Tallied.observe (h : Tallied bounds registry returned)
    (hlabels : metricLabels py call.context call.status = .ok labels)
    (hduration : nonNegativeFloat call.durationSeconds = .ok duration) :
    Tallied bounds (registry.recordOperation py call).2 (returned ++ [(labels, duration)]) := by
  rw [recordOperation_of_ok hlabels hduration]
  obtain ⟨hbuckets, hcount, hwithin⟩ := h.found labels rfl
  refine ⟨h.buckets, ?_, fun labels' => ?_, fun labels' => ?_, fun labels' h' hget => ?_⟩
  · have hcontains := (Dict.contains_set registry.histograms labels labels
      ((registry.histograms.get? labels).getD (.new registry.buckets))).mpr (.inl rfl)
    dsimp only
    rw [Dict.entries_set_of_contains hcontains, Dict.map_fst_replaceEntries]
    exact map_fst_entries_set h.keys labels _ _
  · rw [Dict.contains_set, h.mem, durationsOf_concat]
    by_cases hlabel : labels = labels'
    · simp [hlabel]
    · simp [hlabel, Ne.symm hlabel]
  · dsimp only
    rw [Dict.get?_set, durationsOf_concat]
    by_cases hlabel : labels = labels'
    · subst hlabel
      simp [h.counter]
    · simp [hlabel, Ne.symm hlabel, h.counter]
  · dsimp only at hget
    rw [Dict.get?_set, Dict.get?_set] at hget
    by_cases hlabel : labels = labels'
    · subst hlabel
      rw [if_pos rfl, Option.some.injEq] at hget
      subst hget
      refine ⟨hbuckets, ?_, fun hnodup bound hbound => ?_⟩
      · unfold HistogramState.observe
        dsimp only
        rw [hcount, durationsOf_concat, if_pos rfl, List.length_append, List.length_singleton]
      · unfold HistogramState.observe
        dsimp only
        rw [hbuckets, get?_countInto hnodup, hwithin hnodup bound hbound, countWithin_concat]
        simp [hbound]
    · rw [if_neg (Ne.symm hlabel), if_neg (Ne.symm hlabel)] at hget
      obtain ⟨hbuckets', hcount', hwithin'⟩ := h.histogram labels' h' hget
      refine ⟨hbuckets', ?_, fun hnodup bound hbound => ?_⟩
      · rw [hcount', durationsOf_concat, if_neg hlabel, List.append_nil]
      · rw [hwithin' hnodup bound hbound, countWithin_concat, if_neg (fun hand => hlabel hand.1),
          Nat.add_zero]

/-! ## The export -/

/-- INTERNAL: the lines of a sorted dictionary go by its sorted keys. -/
theorem sortedMetrics_eq_map {α : Type} (metrics : Dict MetricLabels α) (value : MetricLabels → α)
    (hvalue : ∀ labels v, metrics.get? labels = some v → value labels = v) :
    sortedMetrics metrics = ((metrics.entries.map Prod.fst).insertionSort
      fun a b => metricOrder a ≤ metricOrder b).map fun labels => (labels, value labels) := by
  have hentries : (metrics.entries.map Prod.fst).map (fun labels => (labels, value labels)) =
      metrics.entries := by
    rw [List.map_map]
    refine (List.map_congr_left fun e he => ?_).trans (List.map_id metrics.entries)
    rw [Function.comp_apply, hvalue e.1 e.2 (Dict.get?_eq_some_iff.mpr he)]
    rfl
  unfold sortedMetrics
  rw [List.map_insertionSort (fun a b => metricOrder a ≤ metricOrder b)
    (fun a b => metricOrder a.1 ≤ metricOrder b.1) _ _ (fun _ _ _ _ => Iff.rfl), hentries]

theorem histogramLines_eq {h : HistogramState} :
    histogramLines py labels h =
      (h.buckets.map fun bound => bucketLine labels (formatMetricValue py bound)
        ((h.bucketCounts.get? bound).getD 0)) ++ summaryLines py labels h.count h.total := rfl

/-- What a registry prints goes by its label sets in order. -/
theorem Tallied.exported (h : Tallied bounds registry returned) :
    ∃ (labelSets : List MetricLabels) (lines : MetricLabels → ℚ → ℕ)
      (totals : MetricLabels → Option ℚ),
      labelSets.Nodup ∧ (∀ labels, labels ∈ labelSets ↔ durationsOf labels returned ≠ []) ∧
      (bounds.Nodup → ∀ labels ∈ labelSets, ∀ bound ∈ bounds,
        lines labels bound = countWithin labels bound returned) ∧
      registry.exportLines py =
        counterHeader ++
          labelSets.map (fun labels => counterLine labels (durationsOf labels returned).length) ++
          histogramHeader ++
          labelSets.flatMap fun labels =>
            (bounds.map fun bound =>
              bucketLine labels (formatMetricValue py bound) (lines labels bound)) ++
              summaryLines py labels (durationsOf labels returned).length (totals labels) := by
  let labelSets := (registry.counters.entries.map Prod.fst).insertionSort
    fun a b => metricOrder a ≤ metricOrder b
  let state := fun labels => (registry.histograms.get? labels).getD (.new bounds)
  have hmem : ∀ labels, labels ∈ labelSets ↔ durationsOf labels returned ≠ [] := by
    intro labels
    rw [← h.mem, Dict.contains_iff_mem]
    exact List.mem_insertionSort _
  have hstate : ∀ labels ∈ labelSets, registry.histograms.get? labels = some (state labels) := by
    intro labels hlabels
    have hcontains := (h.mem labels).mpr ((hmem labels).mp hlabels)
    rw [Dict.contains_iff_mem, h.keys, ← Dict.contains_iff_mem, Dict.contains_iff_exists]
      at hcontains
    obtain ⟨found, hfound⟩ := hcontains
    change _ = some ((registry.histograms.get? labels).getD (.new bounds))
    rw [hfound]
    rfl
  have hcounters : sortedMetrics registry.counters =
      labelSets.map fun labels => (labels, (durationsOf labels returned).length) := by
    refine sortedMetrics_eq_map _ _ fun labels v hv => ?_
    rw [← h.counter, hv]
    rfl
  have hhistograms : sortedMetrics registry.histograms =
      labelSets.map fun labels => (labels, state labels) := by
    change _ = ((registry.counters.entries.map Prod.fst).insertionSort _).map _
    rw [h.keys]
    refine sortedMetrics_eq_map _ _ fun labels v hv => ?_
    change (registry.histograms.get? labels).getD (.new bounds) = v
    rw [hv]
    rfl
  refine ⟨labelSets, fun labels bound => ((state labels).bucketCounts.get? bound).getD 0,
    fun labels => (state labels).total, ?_, hmem, ?_, ?_⟩
  · exact (List.perm_insertionSort _ _).nodup_iff.mpr registry.counters.nodup
  · intro hnodup labels hlabels bound hbound
    exact (h.histogram labels _ (hstate labels hlabels)).2.2 hnodup bound hbound
  · unfold TenantMetricRegistry.exportLines
    rw [hcounters, hhistograms, List.map_map, List.flatMap_map]
    refine congrArg₂ _ rfl (List.flatMap_congr fun labels hlabels => ?_)
    obtain ⟨hbuckets, hcount, -⟩ := h.histogram labels _ (hstate labels hlabels)
    rw [histogramLines_eq, hbuckets, hcount]

/-- Without a bound given twice, the metrics agree with the calls that returned. -/
theorem Tallied.agreesWith (h : Tallied bounds registry returned) (hnodup : bounds.Nodup) :
    AgreesWith py registry returned where
  counter := h.counter
  histogram labels := by
    cases hget : registry.histograms.get? labels with
    | some state => exact (h.histogram labels state hget).2.1
    | none =>
        obtain ⟨-, hcount, -⟩ := h.found labels rfl
        rw [hget] at hcount
        exact hcount
  bucket labels state hget bound hbound :=
    (h.histogram labels state hget).2.2 hnodup bound (h.buckets ▸ hbound)
  monotone labels state hget bound hbound bound' hbound' hle := by
    have hcounts := (h.histogram labels state hget).2.2 hnodup
    rw [hcounts bound (h.buckets ▸ hbound), hcounts bound' (h.buckets ▸ hbound')]
    exact countWithin_mono hle
  exported := by
    obtain ⟨labelSets, lines, totals, hsets, hmem, hlines, hexport⟩ :=
      @Tallied.exported py bounds registry returned h
    suffices hprinted : registry.exportLines py =
        exportOf py registry.buckets returned labelSets totals by
      refine ⟨labelSets, totals, hsets, hmem, hprinted, ?_⟩
      unfold TenantMetricRegistry.exportPrometheus
      rw [hprinted]
    unfold exportOf
    rw [hexport, h.buckets, hnodup.dedup]
    refine congrArg₂ _ rfl (List.flatMap_congr fun labels hlabels => ?_)
    refine congrArg₂ _ (List.map_congr_left fun bound hbound => ?_) rfl
    rw [hlines hnodup labels hlabels bound hbound]

/-- INTERNAL: how many lines an export has. -/
theorem length_export (labelSets : List MetricLabels) (bounds : List ℚ)
    (counterOf : MetricLabels → String) (bucketOf : MetricLabels → ℚ → String)
    (countOf : MetricLabels → ℕ) (totals : MetricLabels → Option ℚ) :
    (counterHeader ++ labelSets.map counterOf ++ histogramHeader ++
      labelSets.flatMap fun labels => bounds.map (bucketOf labels) ++
        summaryLines py labels (countOf labels) (totals labels)).length =
      4 + labelSets.length + labelSets.length * (bounds.length + 3) := by
  have hlines : ∀ labels, (bounds.map (bucketOf labels) ++
      summaryLines py labels (countOf labels) (totals labels)).length = bounds.length + 3 := by
    intro labels
    rw [List.length_append, List.length_map]
    rfl
  have hheaders : counterHeader.length = 2 ∧ histogramHeader.length = 2 := ⟨rfl, rfl⟩
  simp only [List.length_append, List.length_map, List.length_flatMap, hlines, List.map_const',
    List.sum_replicate_nat, hheaders]
  omega

/-- A bound given twice is printed twice, for every label set. -/
theorem Tallied.nodup (h : Tallied bounds registry returned)
    (hagrees : AgreesWith py registry returned) (hne : durationsOf labels returned ≠ []) :
    bounds.Nodup := by
  obtain ⟨labelSets, lines, totals, hsets, hmem, -, hexport⟩ :=
    @Tallied.exported py bounds registry returned h
  obtain ⟨labelSets', totals', hsets', hmem', hexport', -⟩ := hagrees.exported
  unfold exportOf at hexport'
  have hperm : labelSets.Perm labelSets' := by
    rw [List.perm_ext_iff_of_nodup hsets hsets']
    intro labels'
    rw [hmem, hmem']
  have hlength := congrArg List.length (hexport.symm.trans hexport')
  rw [length_export, length_export, h.buckets, ← hperm.length_eq, Nat.add_left_cancel_iff]
    at hlength
  have hpos : 0 < labelSets.length := List.length_pos_of_mem ((hmem labels).mpr hne)
  have hdedup := Nat.add_right_cancel (Nat.eq_of_mul_eq_mul_left hpos hlength)
  rw [← (List.dedup_sublist bounds).eq_of_length hdedup.symm]
  exact List.nodup_dedup bounds

/-! ## Runs -/

theorem returnedCalls_concat (calls : List RecordOperation) (call : RecordOperation) :
    returnedCalls py registry (calls ++ [call]) = returnedCalls py registry calls ++
      match ((after (TenantMetricRegistry.recordOperation py) registry calls).recordOperation
        py call).1 with
      | .ok _ => (call.observation py).toList
      | .error _ => [] := by
  unfold returnedCalls
  rw [answers_concat, List.filterMap_append]
  refine congrArg (List.append _) ?_
  cases ((after (TenantMetricRegistry.recordOperation py) registry calls).recordOperation
    py call).1 with
  | error e => rfl
  | ok u => cases hobservation : call.observation py <;> simp [hobservation]

theorem after_returned_of_labels_error {e : ObservabilityException} {calls : List RecordOperation}
    (h : metricLabels py call.context call.status = .error e) :
    after (TenantMetricRegistry.recordOperation py) registry (calls ++ [call]) =
        after (TenantMetricRegistry.recordOperation py) registry calls ∧
      returnedCalls py registry (calls ++ [call]) = returnedCalls py registry calls := by
  rw [after_concat, returnedCalls_concat, recordOperation_of_labels_error h]
  exact ⟨rfl, List.append_nil _⟩

theorem returned_of_ok {calls : List RecordOperation}
    (hlabels : metricLabels py call.context call.status = .ok labels)
    (hduration : nonNegativeFloat call.durationSeconds = .ok duration) :
    returnedCalls py registry (calls ++ [call]) =
      returnedCalls py registry calls ++ [(labels, duration)] := by
  have hobservation : call.observation py = some (labels, duration) := by
    unfold RecordOperation.observation
    rw [hlabels, hduration]
  rw [returnedCalls_concat, recordOperation_of_ok hlabels hduration, hobservation]
  rfl

/-- In a run whose calls are measured, the registry keeps what returned. -/
theorem tallied_after (calls : List RecordOperation) (hcalls : ∀ call ∈ calls, Measured py call) :
    Tallied bounds
      (after (TenantMetricRegistry.recordOperation py) ⟨bounds, Dict.empty, Dict.empty⟩ calls)
      (returnedCalls py ⟨bounds, Dict.empty, Dict.empty⟩ calls) := by
  induction calls using List.reverseRecOn with
  | nil => exact tallied_new bounds
  | append_singleton calls call ih =>
      have htallied := ih fun c hc => hcalls c (List.mem_append_left _ hc)
      have hcall := hcalls call (List.mem_append_right _ List.mem_cons_self)
      cases hlabels : metricLabels py call.context call.status with
      | error e =>
          obtain ⟨hafter, hreturned⟩ := @after_returned_of_labels_error py
            ⟨bounds, Dict.empty, Dict.empty⟩ call e calls hlabels
          rw [hafter, hreturned]
          exact htallied
      | ok labels =>
          obtain ⟨duration, hduration⟩ := hcall labels hlabels
          rw [after_concat, returned_of_ok hlabels hduration]
          exact htallied.observe hlabels hduration

/-- INTERNAL: calls that are all refused for their labels leave a registry as it is. -/
theorem after_of_no_labels (calls : List RecordOperation)
    (hcalls : ∀ call ∈ calls, ∀ labels, metricLabels py call.context call.status ≠ .ok labels) :
    after (TenantMetricRegistry.recordOperation py) registry calls = registry ∧
      returnedCalls py registry calls = [] := by
  induction calls using List.reverseRecOn with
  | nil => exact ⟨rfl, rfl⟩
  | append_singleton calls call ih =>
      obtain ⟨hafter, hreturned⟩ := ih fun c hc => hcalls c (List.mem_append_left _ hc)
      have hcall := hcalls call (List.mem_append_right _ List.mem_cons_self)
      cases hlabels : metricLabels py call.context call.status with
      | error e =>
          obtain ⟨hafter', hreturned'⟩ :=
            @after_returned_of_labels_error py registry call e calls hlabels
          exact ⟨hafter'.trans hafter, hreturned'.trans hreturned⟩
      | ok labels => exact absurd hlabels (hcall labels)

theorem agreesWith_new (bounds : List ℚ) : AgreesWith py ⟨bounds, Dict.empty, Dict.empty⟩ [] where
  counter _ := rfl
  histogram _ := rfl
  bucket _ _ h := by cases h
  monotone _ _ h := by cases h
  exported := ⟨[], fun _ => none, List.nodup_nil,
    fun _ => iff_of_false List.not_mem_nil (fun h => h rfl), rfl, rfl⟩

/-- INTERNAL: a refused duration has been counted. -/
theorem recordOperation_ne_of_duration_error {e : ObservabilityException}
    (hlabels : metricLabels py call.context call.status = .ok labels)
    (h : nonNegativeFloat call.durationSeconds = .error e) :
    (registry.recordOperation py call).2 ≠ registry := by
  rw [recordOperation_of_duration_error hlabels h]
  intro heq
  have hcounters := congrArg (fun r => (r.counters.get? labels).getD 0) heq
  dsimp only at hcounters
  rw [Dict.get?_set, if_pos rfl] at hcounters
  exact Nat.succ_ne_self _ hcounters

theorem measured_of_metricsAgree {calls : List RecordOperation}
    (h : MetricsAgree py registry calls) : ∀ call ∈ calls, Measured py call := by
  intro call hcall labels hlabels
  obtain ⟨earlier, later, hsplit⟩ := List.append_of_mem hcall
  cases hduration : nonNegativeFloat call.durationSeconds with
  | ok duration => exact ⟨duration, rfl⟩
  | error e =>
      have hraises := h.2 earlier call later hsplit e
      rw [recordOperation_of_duration_error hlabels hduration] at hraises
      have hne := @recordOperation_ne_of_duration_error py
        (after (TenantMetricRegistry.recordOperation py) registry earlier) call labels e hlabels
        hduration
      rw [recordOperation_of_duration_error hlabels hduration] at hne
      exact absurd (hraises rfl) hne

end Run

/-- The metrics of a run agree exactly where every call whose labels are accepted has a finite
duration, not below zero, and no bound was given twice or no labels are accepted at all. -/
theorem metricsAgree_iff (py : TelemetryStdlib) (buckets : List FloatArgument)
    (registry : TenantMetricRegistry) (hregistry : tenantMetricRegistry buckets = .ok registry)
    (calls : List RecordOperation) :
    MetricsAgree py registry calls ↔
      (∀ call ∈ calls, Measured py call) ∧
        (registry.buckets.Nodup ∨
          ∀ call ∈ calls, ∀ labels, metricLabels py call.context call.status ≠ .ok labels) := by
  obtain ⟨bounds, rfl⟩ : ∃ bounds, registry = ⟨bounds, Dict.empty, Dict.empty⟩ := by
    unfold tenantMetricRegistry at hregistry
    simp only [bind_eq_ok_iff] at hregistry
    obtain ⟨normalized, -, -, -, h⟩ := hregistry
    exact ⟨_, (Except.ok.inj h).symm⟩
  constructor
  · intro h
    have hmeasured := measured_of_metricsAgree h
    refine ⟨hmeasured, or_iff_not_imp_right.mpr fun hsome => ?_⟩
    simp only [not_forall, not_not, exists_prop] at hsome
    obtain ⟨call, hcall, labels, hlabels⟩ := hsome
    obtain ⟨earlier, later, hsplit⟩ := List.append_of_mem hcall
    obtain ⟨duration, hduration⟩ := hmeasured call hcall labels hlabels
    have hagrees := h.1 (earlier ++ [call]) later (by rw [hsplit, List.append_assoc]; rfl)
    have htallied := @tallied_after py bounds (earlier ++ [call]) fun c hc => by
      apply hmeasured c
      rw [hsplit, List.append_cons]
      exact List.mem_append_left _ hc
    have hne : durationsOf labels
        (returnedCalls py ⟨bounds, Dict.empty, Dict.empty⟩ (earlier ++ [call])) ≠ [] := by
      rw [returned_of_ok hlabels hduration, durationsOf_concat, if_pos rfl]
      exact List.append_ne_nil_of_right_ne_nil _ (List.cons_ne_nil _ _)
    exact htallied.nodup hagrees hne
  · rintro ⟨hmeasured, hnodup⟩
    refine ⟨fun earlier later hsplit => ?_, fun earlier call later hsplit e he => ?_⟩
    · have hearlier : ∀ call ∈ earlier, call ∈ calls := by
        intro call hcall
        rw [hsplit]
        exact List.mem_append_left _ hcall
      rcases hnodup with hnodup | hnone
      · exact (tallied_after earlier fun call hcall =>
          hmeasured call (hearlier call hcall)).agreesWith hnodup
      · obtain ⟨hafter, hreturned⟩ := @after_of_no_labels py ⟨bounds, Dict.empty, Dict.empty⟩
          earlier fun call hcall => hnone call (hearlier call hcall)
        rw [hafter, hreturned]
        exact agreesWith_new bounds
    · cases hlabels : metricLabels py call.context call.status with
      | error e' => rw [recordOperation_of_labels_error hlabels]
      | ok labels =>
          obtain ⟨duration, hduration⟩ := hmeasured call (by rw [hsplit]; simp) labels hlabels
          rw [recordOperation_of_ok hlabels hduration] at he
          cases he

namespace Reference

def context : ObservabilityContext where
  tenantId := "tenant-a"
  serviceName := "ledger"
  operation := "healthcheck"
  tenantId_valid := by decide
  serviceName_valid := by decide
  operation_valid := by decide

def success (duration : FloatValue) : RecordOperation := ⟨context, "success", .ok duration⟩

theorem metricLabels_success : metricLabels telemetry context "success" =
    .ok [("operation", "healthcheck"), ("service", "ledger"), ("status", "success"),
      ("tenant_id", "tenant-a")] := by
  decide

theorem tenantMetricRegistry_two : tenantMetricRegistry [.ok (.finite 1), .ok (.finite 2)] =
    .ok ⟨[1, 2], Dict.empty, Dict.empty⟩ := rfl

end Reference

open Observability.Reference in
/-- Two bounds, calls on both sides of the first. -/
theorem metricsAgree_twoCalls : MetricsAgree telemetry ⟨[1, 2], Dict.empty, Dict.empty⟩
    [success (.finite (1 / 2)), success (.finite (3 / 2))] := by
  refine (metricsAgree_iff telemetry _ _ tenantMetricRegistry_two _).mpr
    ⟨fun call hcall labels _ => ?_, .inl (by decide +kernel)⟩
  simp only [List.mem_cons, List.not_mem_nil, or_false] at hcall
  rcases hcall with rfl | rfl
  · exact ⟨1 / 2, by decide +kernel⟩
  · exact ⟨3 / 2, by decide +kernel⟩

open Observability.Reference in
/-- A NaN duration: the call raises, and has been counted. -/
theorem not_metricsAgree_nan :
    tenantMetricRegistry [.ok (.finite 1)] = .ok ⟨[1], Dict.empty, Dict.empty⟩ ∧
      ¬ MetricsAgree telemetry ⟨[1], Dict.empty, Dict.empty⟩ [success .nan] := by
  refine ⟨rfl, fun h => ?_⟩
  obtain ⟨duration, hduration⟩ := measured_of_metricsAgree h (success .nan)
    List.mem_cons_self _ metricLabels_success
  cases hduration

end Observability

end MediaCenter.Shared
