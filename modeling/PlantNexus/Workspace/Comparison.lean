import PlantNexus.Workspace.Sources

/-! The comparison of two schedule versions.

Every operation of either version has one delta; its kind is decided by the resource first, then by
the duration and then by the text of the start. The KPI deltas are four differences of the two
versions and two measures of the changed assignments. -/
namespace PlantNexus.Workspace
open Data Domain Time

/-! ### Operation deltas -/

inductive ChangeKind where
  | added
  | removed
  | resourceChange
  | durationChange
  | startShift
  | unchanged
deriving DecidableEq, Repr

def ChangeKind.value : ChangeKind → String
  | .added => "ADDED"
  | .removed => "REMOVED"
  | .resourceChange => "RESOURCE_CHANGE"
  | .durationChange => "DURATION_CHANGE"
  | .startShift => "START_SHIFT"
  | .unchanged => "UNCHANGED"

/-- The cascade of `_assignment_delta`. -/
def changeKind (base compared : Option Json) : ChangeKind :=
  match base, compared with
  | none, _ => .added
  | some _, none => .removed
  | some base, some compared =>
    if (base.get "resource_id").pyEq (compared.get "resource_id") = false then .resourceChange
    else if (base.get "duration_seconds").pyEq (compared.get "duration_seconds") = false then
      .durationChange
    else if (base.get "start_at_utc").pyEq (compared.get "start_at_utc") = false then .startShift
    else .unchanged

/-- `base.get(field) if base is not None else None` -/
def fieldOf (assignment : Option Json) (field : String) : Json :=
  match assignment with
  | some row => row.get field
  | none => .null

/-- `_assignment_delta` -/
def assignmentDelta (operationId : String) (base compared : Option Json) : Json :=
  .obj [("operation_id", .str operationId),
    ("change_kind", .str (changeKind base compared).value),
    ("base_resource_id", fieldOf base "resource_id"),
    ("compared_resource_id", fieldOf compared "resource_id"),
    ("base_start_at_utc", fieldOf base "start_at_utc"),
    ("compared_start_at_utc", fieldOf compared "start_at_utc"),
    ("base_end_at_utc", fieldOf base "end_at_utc"),
    ("compared_end_at_utc", fieldOf compared "end_at_utc")]

/-- `_seconds_between` -/
def secondsBetween (left right : Json) : Read Int :=
  match left, right with
  | .str left, .str right =>
    match parseUtcInstant left, parseUtcInstant right with
    | .ok first, .ok second => .ok (wholeSeconds (second.sub first)).natAbs
    | _, _ =>
      reject .mixedLineage "comparison.operation.start_at_utc" "assignment instant is invalid"
  | _, _ => .ok 0

/-- The assignment of an operation. -/
def assignmentOf (assignments : List (String × Json)) (operationId : String) : Option Json :=
  (dictGet Prod.fst assignments operationId).map Prod.snd

/-- The operations of either version, sorted. -/
def comparedIds (base compared : List (String × Json)) : List String :=
  sortByKey id (base.map Prod.fst ++ compared.map Prod.fst).dedup

/-- The operations of both versions, sorted. -/
def commonIds (base compared : List (String × Json)) : List String :=
  sortByKey id ((base.map Prod.fst).filter (· ∈ compared.map Prod.fst)).dedup

def operationDeltas (base compared : List (String × Json)) : List Json :=
  (comparedIds base compared).map fun operationId =>
    assignmentDelta operationId (assignmentOf base operationId)
      (assignmentOf compared operationId)

def startShiftSeconds (base compared : List (String × Json)) : Read Int := do
  let shifts ← collect
    (fun operationId => secondsBetween
      (fieldOf (assignmentOf base operationId) "start_at_utc")
      (fieldOf (assignmentOf compared operationId) "start_at_utc"))
    (commonIds base compared)
  return shifts.sum

def resourceChangedCount (base compared : List (String × Json)) : Nat :=
  (commonIds base compared).countP fun operationId =>
    (fieldOf (assignmentOf base operationId) "resource_id").pyEq
      (fieldOf (assignmentOf compared operationId) "resource_id") = false

/-- The deltas of one kind. -/
def kindCount (deltas : List Json) (kind : ChangeKind) : Nat :=
  deltas.countP fun delta => delta.get "change_kind" = .str kind.value

/-! ### KPI deltas -/

/-- `_number` -/
def readNumber (value : Json) (field : String) : Read Json :=
  match value with
  | .int n => .ok (.int n)
  | .float v => .ok (.float v)
  | _ => reject .sourceMissing field "authoritative source requires a finite number"

/-- `_kpi_metric_values` -/
def kpiMetricValues (sources : WorkspaceSourceDocuments) : Read (List (String × Json)) := do
  let delivery ← mapping (sources.kpi.get "delivery") "kpi.delivery"
  let planning ← mapping (sources.kpi.get "planning") "kpi.planning"
  let tardiness ← readNumber (delivery.get "priority_weighted_tardiness_seconds")
    "kpi.delivery.priority_weighted_tardiness_seconds"
  let makespan ← readNumber (planning.get "makespan_seconds") "kpi.planning.makespan_seconds"
  let late ← readNumber (delivery.get "late_order_count") "kpi.delivery.late_order_count"
  let scheduled ← readNumber (planning.get "scheduled_operation_count")
    "kpi.planning.scheduled_operation_count"
  return [("WEIGHTED_TARDINESS", tardiness), ("MAKESPAN_SECONDS", makespan),
    ("LATE_ORDER_COUNT", late), ("SCHEDULED_OPERATION_COUNT", scheduled)]

section
variable (floatSub : Json → Json → Option FloatValue)

/-- `compared - base`. A difference of floats that is not finite cannot be written as JSON. -/
def difference (compared base : Json) : Read Json :=
  match compared, base with
  | .int c, .int b => .ok (.int (c - b))
  | compared, base =>
    match floatSub compared base with
    | some value => .ok (.float value)
    | none => .error .valueError

def kpiDelta (metric : String) (base compared delta : Json) : Json :=
  .obj [("metric", .str metric), ("base_value", base), ("compared_value", compared),
    ("delta", delta)]

/-- The deltas of the metrics that both versions state. -/
def metricDeltas : List (String × Json) → List (String × Json) → Read (List Json)
  | (metric, base) :: bases, (_, compared) :: rest => do
    let delta ← difference floatSub compared base
    let deltas ← metricDeltas bases rest
    return kpiDelta metric base compared delta :: deltas
  | _, _ => .ok []

def kpiDeltas (base compared : List (String × Json)) (startShift : Int) (resourceChanged : Nat) :
    Read (List Json) := do
  let deltas ← metricDeltas floatSub base compared
  return deltas ++
    [kpiDelta "START_SHIFT_SECONDS" (.int 0) (.int startShift) (.int startShift),
      kpiDelta "RESOURCE_CHANGED_COUNT" (.int 0) (.int resourceChanged) (.int resourceChanged)]

/-! ### The document -/

/-- `version_reference` -/
def versionReference (scheduleVersion : Json) : Read Json := do
  let versionId ← readText (scheduleVersion.get "schedule_version_id")
    "schedule_version.schedule_version_id"
  let state ← readText (scheduleVersion.get "state") "schedule_version.state"
  let fingerprint ← readText (scheduleVersion.get "content_fingerprint")
    "schedule_version.content_fingerprint"
  return .obj [("schedule_version_id", .str versionId), ("state", .str state),
    ("content_fingerprint", .str fingerprint)]

/-- `_derived_id` -/
def derivedId (front : String) (payload : Json) : String :=
  front ++ "-" ++ removeFront (contractFingerprint payload) "sha256:"

/-- The two versions belong to one plane and environment, and the time is one. -/
def checkComparable (baseVersion comparedVersion : Json) (generatedAt : String) :
    Read (String × String) := do
  demand (generatedAt.toList.getLast? = some 'Z') .invalidQuery "generated_at_utc"
    "must be an explicit UTC instant"
  let _ ← orReject (fun _ => ⟨.invalidQuery, "generated_at_utc", "must be a valid UTC instant"⟩)
    (parseUtcInstant generatedAt)
  let dataPlane ← readText (baseVersion.get "data_plane") "base_version.data_plane"
  demand ((comparedVersion.get "data_plane").pyEq (.str dataPlane) = true) .dataPlaneMismatch
    "compared_version.data_plane" "comparison cannot cross data planes"
  let environment ← readText (baseVersion.get "environment") "base_version.environment"
  demand ((comparedVersion.get "environment").pyEq (.str environment) = true) .dataPlaneMismatch
    "compared_version.environment" "comparison cannot cross environments"
  return (dataPlane, environment)

def comparisonSummary (base compared : List (String × Json)) : Json :=
  let deltas := operationDeltas base compared
  .obj [("operation_count", .int (comparedIds base compared).length),
    ("changed_operation_count",
      .int (deltas.countP fun delta => delta.get "change_kind" ≠ .str "UNCHANGED")),
    ("added_operation_count", .int (kindCount deltas .added)),
    ("removed_operation_count", .int (kindCount deltas .removed)),
    ("resource_changed_count", .int (resourceChangedCount base compared))]

/-- The provenance of a synthetic base version. -/
def comparisonProvenance (baseVersion : Json) : Read (List (String × Json)) :=
  if baseVersion.get "synthetic" = .bool true then do
    demand ((baseVersion.get "synthetic_provenance").isObj = true) .mixedLineage
      "base_version.synthetic_provenance" "synthetic Version requires provenance"
    return [("synthetic_provenance", clone (baseVersion.get "synthetic_provenance"))]
  else .ok []

/-- `build_schedule_version_comparison` -/
def buildScheduleVersionComparison (baseVersion comparedVersion : Json)
    (baseSources comparedSources : WorkspaceSourceDocuments)
    (queryFingerprint generatedAt : String) : Read Json := do
  let (dataPlane, environment) ← checkComparable baseVersion comparedVersion generatedAt
  let baseBound ← bindWorkspaceSources baseVersion baseSources dataPlane
  let comparedBound ← bindWorkspaceSources comparedVersion comparedSources dataPlane
  let baseId ← readText (baseVersion.get "schedule_version_id") "base_version.schedule_version_id"
  let comparedId ← readText (comparedVersion.get "schedule_version_id")
    "compared_version.schedule_version_id"
  demand (baseId ≠ comparedId) .invalidQuery "compared_version.schedule_version_id"
    "must differ from the base Version"
  let base ← index baseBound.assignments "operation_id" "base_version.content.assignments"
  let compared ← index comparedBound.assignments "operation_id"
    "compared_version.content.assignments"
  let startShift ← startShiftSeconds base compared
  let baseMetrics ← kpiMetricValues baseSources
  let comparedMetrics ← kpiMetricValues comparedSources
  let metrics ← kpiDeltas floatSub baseMetrics comparedMetrics startShift
    (resourceChangedCount base compared)
  let baseReference ← versionReference baseVersion
  let comparedReference ← versionReference comparedVersion
  let comparisonId := derivedId "comparison" (.obj
    [("comparison_version", .str "schedule-version-comparison.v1"),
      ("query_fingerprint", .str queryFingerprint), ("base_version", baseReference),
      ("compared_version", comparedReference)])
  let provenance ← comparisonProvenance baseVersion
  let members : List (String × Json) :=
    [("schedule_version_comparison_version", .str "schedule-version-comparison.v1"),
      ("schema_set_version", .str "2.6.0"),
      ("canonicalization_version", .str "canonical-json.v1"),
      ("comparison_id", .str comparisonId), ("data_plane", .str dataPlane),
      ("environment", .str environment), ("synthetic", baseVersion.get "synthetic"),
      ("base_version", baseReference), ("compared_version", comparedReference),
      ("query_fingerprint", .str queryFingerprint),
      ("operation_deltas", .arr (operationDeltas base compared)),
      ("kpi_deltas", .arr metrics), ("summary", comparisonSummary base compared),
      ("generated_at_utc", .str generatedAt)] ++ provenance
  let document : Json := .obj (members ++
    [("comparison_fingerprint", .str (comparisonFingerprint (.obj members)))])
  let _ ← orReject
    (fun _ => ⟨.mixedLineage, "comparison",
      "constructed comparison failed its strict P3 carrier"⟩)
    (requireWorkspaceDocument document)
  return document

end
end PlantNexus.Workspace
