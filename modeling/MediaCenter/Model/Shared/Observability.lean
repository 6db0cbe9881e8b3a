import MediaCenter.Library.Binary64
import MediaCenter.Library.Dict
import MediaCenter.Library.ExceptList
import MediaCenter.Model.Shared.Models

/-!
# Telemetry (`libs/shared/observability.py`)

`sanitize_observability_payload` checks a payload at every depth before it is logged, and
`TenantMetricRegistry` counts the operations of a service by tenant.  Finite `float`s are exact
rationals; their sums are rounded.
-/

set_option autoImplicit false

namespace MediaCenter.Shared

open MediaCenter.Library

inductive ObservabilityException : Type where
  /-- `ObservabilityPrivacyError`. -/
  | privacy (message : String)
  | valueError (message : String)
  | typeError (message : String)
  | overflowError (message : String)
  deriving DecidableEq, Repr

/-- What telemetry uses of the standard library besides. -/
structure TelemetryStdlib extends Stdlib where
  /-- `repr` of a `str`. -/
  reprStr : String → String
  /-- `f"{value:.15g}"` of a finite `float`. -/
  format15g : ℚ → String
  /-- `_EMAIL_PATTERN.search(value) is not None`, and the other two patterns. -/
  hasEmail : String → Bool
  hasBearer : String → Bool
  hasPrivateKey : String → Bool

namespace Observability

/-! ## Payloads -/

/-- A Python `float`. -/
inductive FloatValue : Type where
  | finite (x : ℚ)
  | infinite (negative : Bool)
  | nan
  deriving DecidableEq, Repr

/-- A key of a mapping. -/
inductive TelemetryKey : Type where
  | str (s : String)
  /-- A key of another type. -/
  | other
  deriving DecidableEq, Repr

/-- A value built from scalars, mappings and sequences. -/
inductive TelemetryValue : Type where
  | none
  | bool (b : Bool)
  | int (n : ℤ)
  | float (x : FloatValue)
  | str (s : String)
  | mapping (items : List (TelemetryKey × TelemetryValue))
  | sequence (items : List TelemetryValue)

/-- `_FORBIDDEN_FIELD_NAMES`. -/
def forbiddenFieldNames : List String :=
  ["access_token", "address", "amount", "amount_mcv", "api_key", "authorization", "card",
    "cookie", "email", "first_name", "full_name", "inn", "last_name", "pan", "passport",
    "password", "patronymic", "payout_amount", "pdn", "personal_data", "phone", "phone_number",
    "pii", "private_key", "raw_content", "raw_payload", "refresh_token", "secret", "set_cookie",
    "snils", "token"]

/-- `_FORBIDDEN_FIELD_FRAGMENTS`. -/
def forbiddenFieldFragments : List String :=
  ["authorization", "password", "private_key", "secret", "token"]

variable (py : TelemetryStdlib)

/-- `_normalize_payload_key`. -/
def normalizePayloadKey : TelemetryKey → Except ObservabilityException String
  | .other => .error (.privacy "telemetry payload key должен быть строкой")
  | .str value =>
      let normalized := Text.strip value
      if tokenPattern normalized = true then .ok normalized
      else .error (.privacy
        ("telemetry payload key " ++ py.reprStr value ++ " имеет недопустимый формат"))

/-- `field_name.lower().replace("-", "_").replace(".", "_")`. -/
def foldedFieldName (fieldName : String) : String :=
  String.ofList ((py.lower fieldName).toList.map fun c => if c = '-' ∨ c = '.' then '_' else c)

/-- `_assert_safe_field_name`. -/
def assertSafeFieldName (fieldName : String) : Except ObservabilityException Unit := do
  let normalized := foldedFieldName py fieldName
  refuseIf (normalized ∈ forbiddenFieldNames) (.privacy
    ("telemetry field " ++ py.reprStr fieldName ++ " запрещён для логов и метрик"))
  refuseIf (∃ fragment ∈ forbiddenFieldFragments, fragment.toList <:+: normalized.toList)
    (.privacy ("telemetry field " ++ py.reprStr fieldName ++ " может содержать секреты"))

/-- `_assert_safe_string_value`. -/
def assertSafeStringValue (value path : String) : Except ObservabilityException Unit := do
  refuseIf (py.hasEmail value = true) (.privacy (path ++ " содержит email"))
  refuseIf (py.hasBearer value = true) (.privacy (path ++ " содержит bearer token"))
  refuseIf (py.hasPrivateKey value = true) (.privacy (path ++ " содержит private key"))

/-- The mapping that a filled dictionary is. -/
def TelemetryValue.ofDict (nested : Dict String TelemetryValue) : TelemetryValue :=
  .mapping (nested.entries.map fun e => (.str e.1, e.2))

mutual

/-- `_sanitize_json_value`. -/
def sanitizeJsonValue : TelemetryValue → String → Except ObservabilityException TelemetryValue
  | .none, _ => .ok .none
  | .bool b, _ => .ok (.bool b)
  | .int n, _ => .ok (.int n)
  | .str s, path => do
      assertSafeStringValue py s path
      return .str s
  | .float (.finite x), _ => .ok (.float (.finite x))
  | .float _, path => .error (.privacy (path ++ " должен быть finite float"))
  | .mapping items, path => do
      let nested ← sanitizeItems items (fun key => path ++ "." ++ key) Dict.empty
      return .ofDict nested
  | .sequence items, path => do
      let sanitized ← sanitizeElements items path
      return .sequence sanitized

/-- The loop over the items of a mapping; a nested one is named with its path. -/
def sanitizeItems : List (TelemetryKey × TelemetryValue) → (String → String) →
    Dict String TelemetryValue → Except ObservabilityException (Dict String TelemetryValue)
  | [], _, nested => .ok nested
  | (key, value) :: rest, pathOf, nested => do
      let normalizedKey ← normalizePayloadKey py key
      assertSafeFieldName py normalizedKey
      let sanitized ← sanitizeJsonValue value (pathOf normalizedKey)
      sanitizeItems rest pathOf (nested.set normalizedKey sanitized)

/-- `[_sanitize_json_value(item, path=f"{path}[]") for item in value]`. -/
def sanitizeElements : List TelemetryValue → String →
    Except ObservabilityException (List TelemetryValue)
  | [], _ => .ok []
  | item :: rest, path => do
      let sanitized ← sanitizeJsonValue item (path ++ "[]")
      let others ← sanitizeElements rest path
      return sanitized :: others

end

/-- `sanitize_observability_payload`. -/
def sanitizeObservabilityPayload (payload : List (TelemetryKey × TelemetryValue)) :
    Except ObservabilityException (Dict String TelemetryValue) :=
  sanitizeItems py payload (fun key => key) Dict.empty

/-! ## Metrics -/

/-- `_normalize_token`. -/
def normalizeMetricToken (value fieldName : String) : Except ObservabilityException String :=
  let normalized := Text.strip value
  if tokenPattern normalized = true then .ok normalized
  else .error (.valueError (fieldName ++ " имеет недопустимый формат"))

/-- What `record_operation` reads of an `ObservabilityContext`. -/
structure ObservabilityContext where
  tenantId : String
  serviceName : String
  operation : String
  tenantId_valid : tenantIdPattern tenantId = true
  serviceName_valid : tokenPattern serviceName = true
  operation_valid : tokenPattern operation = true

/-- The labels of a metric, by name. -/
abbrev MetricLabels : Type := List (String × String)

/-- `_metric_labels`. -/
def metricLabels (context : ObservabilityContext) (status : String) :
    Except ObservabilityException MetricLabels := do
  let normalizedStatus ← normalizeMetricToken status "status"
  let labels := [("operation", context.operation), ("service", context.serviceName),
    ("status", normalizedStatus), ("tenant_id", context.tenantId)]
  labels.forM fun label => do
    assertSafeFieldName py label.1
    assertSafeStringValue py label.2 ("label." ++ label.1)
  return labels.insertionSort fun a b => a.1 ≤ b.1

/-- What `float(value)` returns or raises. -/
abbrev FloatArgument : Type := Except ObservabilityException FloatValue

/-- `_positive_float`. -/
def positiveFloat (value : FloatArgument) : Except ObservabilityException ℚ := do
  match ← value with
  | .finite x =>
      if x ≤ 0 then .error (.valueError "bucket должен быть положительным finite float")
      else .ok x
  | _ => .error (.valueError "bucket должен быть положительным finite float")

/-- `_non_negative_float`. -/
def nonNegativeFloat (value : FloatArgument) : Except ObservabilityException ℚ := do
  match ← value with
  | .finite x =>
      if x < 0 then
        .error (.valueError "duration_seconds должен быть неотрицательным finite float")
      else .ok x
  | _ => .error (.valueError "duration_seconds должен быть неотрицательным finite float")

/-- `_HistogramState`; a sum that is too large is infinite. -/
structure HistogramState where
  buckets : List ℚ
  bucketCounts : Dict ℚ ℕ
  count : ℕ
  total : Option ℚ

namespace HistogramState

def new (buckets : List ℚ) : HistogramState := ⟨buckets, Dict.empty, 0, some 0⟩

/-- The loop of `observe` over the buckets. -/
def countInto (value : ℚ) (bucketCounts : Dict ℚ ℕ) (buckets : List ℚ) : Dict ℚ ℕ :=
  buckets.foldl
    (fun counts bucket =>
      if value ≤ bucket then counts.set bucket ((counts.get? bucket).getD 0 + 1) else counts)
    bucketCounts

/-- `observe`. -/
def observe (h : HistogramState) (value : ℚ) : HistogramState where
  buckets := h.buckets
  bucketCounts := countInto value h.bucketCounts h.buckets
  count := h.count + 1
  total := h.total.bind fun total => Binary64.nearest (total + value)

end HistogramState

structure TenantMetricRegistry where
  buckets : List ℚ
  counters : Dict MetricLabels ℕ
  histograms : Dict MetricLabels HistogramState

/-- `TenantMetricRegistry(buckets=buckets)`. -/
def tenantMetricRegistry (buckets : List FloatArgument) :
    Except ObservabilityException TenantMetricRegistry := do
  let normalizedBuckets ← buckets.mapM positiveFloat
  refuseIf (normalizedBuckets.length = 0)
    (.valueError "buckets должен содержать хотя бы одно значение")
  return ⟨normalizedBuckets.insertionSort (· ≤ ·), Dict.empty, Dict.empty⟩

/-- A call of `record_operation`. -/
structure RecordOperation where
  context : ObservabilityContext
  status : String
  durationSeconds : FloatArgument

namespace TenantMetricRegistry

/-- `record_operation`: the counter goes up before the duration is checked. -/
def recordOperation (registry : TenantMetricRegistry) (call : RecordOperation) :
    Except ObservabilityException Unit × TenantMetricRegistry :=
  match metricLabels py call.context call.status with
  | .error e => (.error e, registry)
  | .ok key =>
      let counters := registry.counters.set key ((registry.counters.get? key).getD 0 + 1)
      let histogram := (registry.histograms.get? key).getD (.new registry.buckets)
      let histograms := registry.histograms.set key histogram
      match nonNegativeFloat call.durationSeconds with
      | .error e => (.error e, ⟨registry.buckets, counters, histograms⟩)
      | .ok value =>
          (.ok (), ⟨registry.buckets, counters, histograms.set key (histogram.observe value)⟩)

end TenantMetricRegistry

/-! ## The export -/

/-- `_escape_prometheus_label`. -/
def escapePrometheusLabel (value : String) : String :=
  String.join (value.toList.map fun c =>
    if c = '\\' then "\\\\" else if c = '\n' then "\\n" else if c = '"' then "\\\"" else
      String.singleton c)

/-- `_format_labels`. -/
def formatLabels (labels : MetricLabels) : String :=
  if labels.length = 0 then ""
  else
    "\x7b" ++ ",".intercalate (labels.map fun label =>
      label.1 ++ "=\"" ++ escapePrometheusLabel label.2 ++ "\"") ++ "\x7d"

/-- `_format_metric_value`. -/
def formatMetricValue (value : ℚ) : String :=
  if value.den = 1 then toString value.num else py.format15g value

/-- `_format_metric_value` of a sum. -/
def formatTotal : Option ℚ → String
  | none => "inf"
  | some total => formatMetricValue py total

def operationCounter : String := "nmc_service_operations_total"

def operationDuration : String := "nmc_service_operation_duration_seconds"

def counterHeader : List String :=
  ["# HELP nmc_service_operations_total Tenant-scoped service operations.",
    "# TYPE nmc_service_operations_total counter"]

def histogramHeader : List String :=
  ["# HELP nmc_service_operation_duration_seconds Tenant-scoped service operation duration.",
    "# TYPE nmc_service_operation_duration_seconds histogram"]

def counterLine (labels : MetricLabels) (value : ℕ) : String :=
  operationCounter ++ formatLabels labels ++ " " ++ toString value

def bucketLine (labels : MetricLabels) (bound : String) (count : ℕ) : String :=
  operationDuration ++ "_bucket" ++ formatLabels (labels ++ [("le", bound)]) ++ " " ++
    toString count

/-- The lines of one histogram after its buckets. -/
def summaryLines (labels : MetricLabels) (count : ℕ) (total : Option ℚ) : List String :=
  [bucketLine labels "+Inf" count,
    operationDuration ++ "_sum" ++ formatLabels labels ++ " " ++ formatTotal py total,
    operationDuration ++ "_count" ++ formatLabels labels ++ " " ++ toString count]

/-- The lines of one histogram. -/
def histogramLines (labels : MetricLabels) (histogram : HistogramState) : List String :=
  (histogram.buckets.map fun bucket =>
    bucketLine labels (formatMetricValue py bucket)
      ((histogram.bucketCounts.get? bucket).getD 0)) ++
    summaryLines py labels histogram.count histogram.total

/-- `_sort_metric_item`: tuples of pairs of strings are compared entry by entry. -/
def metricOrder (labels : MetricLabels) : List String :=
  labels.flatMap fun label => [label.1, label.2]

/-- `sorted(metrics.items(), key=_sort_metric_item)`. -/
def sortedMetrics {α : Type} (metrics : Dict MetricLabels α) : List (MetricLabels × α) :=
  metrics.entries.insertionSort fun a b => metricOrder a.1 ≤ metricOrder b.1

namespace TenantMetricRegistry

/-- The lines that `export_prometheus` joins. -/
def exportLines (registry : TenantMetricRegistry) : List String :=
  counterHeader ++
    (sortedMetrics registry.counters).map (fun item => counterLine item.1 item.2) ++
    histogramHeader ++
    (sortedMetrics registry.histograms).flatMap fun item => histogramLines py item.1 item.2

/-- `export_prometheus`. -/
def exportPrometheus (registry : TenantMetricRegistry) : String :=
  "\n".intercalate (registry.exportLines py) ++ "\n"

end TenantMetricRegistry

end Observability

end MediaCenter.Shared
