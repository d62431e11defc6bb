import PlantNexus.Data.JsonText
import PlantNexus.Workspace.Query

/-! The artifacts behind a schedule version.

`requireWorkspaceSources` checks that the seven source documents of a workspace view name each
other; `bindWorkspaceSources` checks that a schedule version names them too, that its assignments
are those of the solution, and that the occupancy of every resource is the one its KPI row states.
An assignment whose instants do not parse leaves with the parser's own exception. -/
namespace PlantNexus.Workspace
open Data Domain Time

structure WorkspaceSourceDocuments where
  snapshot : Json
  problem : Json
  solution : Json
  solverReport : Json
  validationReport : Json
  importQualityReport : Json
  kpi : Json

structure BoundWorkspaceSources where
  sourceFingerprint : String
  assignments : List Json
  assignmentsByOperation : List (String × Json)
  operations : List Json
  operationsById : List (String × Json)
  resources : List Json
  resourcesById : List (String × Json)
  kpiResourcesById : List (String × Json)

/-! ### Rows -/

/-- `_rows` -/
def rowsFrom (field : String) : Nat → List Json → Read (List Json)
  | _, [] => .ok []
  | index, value :: rest => do
    let row ← mapping value s!"{field}[{index}]"
    let rows ← rowsFrom field (index + 1) rest
    return row :: rows

def rows (value : Json) (field : String) : Read (List Json) := do
  let values ← sequence value field
  rowsFrom field 0 values

/-- `sorted(rows, key=lambda row: _text(row.get(id_field), field))` -/
def sortRows (rows : List Json) (idField field : String) : Read (List Json) := do
  let keyed ← collect (fun row => do
    let key ← readText (row.get idField) field
    return (key, row)) rows
  return (sortByKey Prod.fst keyed).map Prod.snd

/-- `_index` -/
def indexFrom (idField field : String) : Nat → List (String × Json) → List Json →
    Read (List (String × Json))
  | _, result, [] => .ok result
  | index, result, row :: rest => do
    let identity ← readText (row.get idField) s!"{field}[{index}].{idField}"
    demand (identity ∉ result.map Prod.fst) .mixedLineage s!"{field}.{idField}"
      "duplicate authoritative identity"
    indexFrom idField field (index + 1) (result ++ [(identity, row)]) rest

def index (rows : List Json) (idField field : String) : Read (List (String × Json)) :=
  indexFrom idField field 0 [] rows

/-- `_clone` -/
def clone (value : Json) : Json := value.canonical

/-- `text.removeprefix(front)` -/
def removeFront (text front : String) : String :=
  if front.toList.isPrefixOf text.toList then String.ofList (text.toList.drop front.length)
  else text

/-! ### The source set -/

/-- The members of a reference that have to state these values. -/
def requireReference (reference : Json) (field : String) (expected : List (String × Json)) :
    Read Unit :=
  forEach (fun _ e => requireEqual (reference.get e.1) e.2 s!"{field}.{e.1}") expected

/-- `require_workspace_sources` -/
def requireWorkspaceSources (sources : WorkspaceSourceDocuments) : Read String := do
  let snapshotId ← readText (sources.snapshot.get "snapshot_id") "snapshot.snapshot_id"
  let snapshotHash ← readText (sources.snapshot.get "snapshot_hash") "snapshot.snapshot_hash"
  let problemHash ← readText (sources.problem.get "problem_hash") "problem.problem_hash"
  let solutionId ← readText (sources.solution.get "solution_id") "solution.solution_id"
  requireEqual (sources.problem.get "snapshot_id") (.str snapshotId) "problem.snapshot_id"
  let named : List (String × Json) :=
    [("snapshot_id", .str snapshotId), ("problem_hash", .str problemHash)]
  let solutionProblem ← mapping (sources.solution.get "problem") "solution.problem"
  requireReference solutionProblem "solution.problem" named
  let reportProblem ← mapping (sources.solverReport.get "problem") "solver_report.problem"
  requireReference reportProblem "solver_report.problem" named
  requireEqual (sources.validationReport.get "problem_hash") (.str problemHash)
    "validation_report.problem_hash"
  let solverSolution ← mapping (sources.solverReport.get "solution") "solver_report.solution"
  requireEqual (solverSolution.get "solution_id") (.str solutionId) "solver_report.solution_id"
  requireEqual (solverSolution.get "solution_fingerprint")
    (.str (contractFingerprint sources.solution)) "solver_report.solution_fingerprint"
  let quality ← mapping (sources.snapshot.get "import_quality_report")
    "snapshot.import_quality_report"
  requireReference quality "snapshot.import_quality_report"
    [("report_id", sources.importQualityReport.get "report_id"),
      ("status", sources.importQualityReport.get "status")]
  let inputs ← mapping (sources.kpi.get "inputs") "kpi.inputs"
  forEach
    (fun _ (expected : String × List (String × Json)) => do
      let reference ← mapping (inputs.get expected.1) s!"kpi.inputs.{expected.1}"
      requireReference reference s!"kpi.inputs.{expected.1}" expected.2)
    [("snapshot", [("snapshot_id", .str snapshotId), ("snapshot_hash", .str snapshotHash)]),
      ("problem", [("problem_hash", .str problemHash)]),
      ("solution", [("solution_id", .str solutionId),
        ("solution_fingerprint", .str (contractFingerprint sources.solution))]),
      ("validation_report", [("validation_report_fingerprint",
        .str (contractFingerprint sources.validationReport))]),
      ("solver_report", [("report_id", sources.solverReport.get "report_id"),
        ("solver_report_fingerprint", .str (contractFingerprint sources.solverReport))]),
      ("import_quality_report", [("report_id", sources.importQualityReport.get "report_id"),
        ("import_quality_report_fingerprint",
          .str (contractFingerprint sources.importQualityReport))])]
  requireEqual (sources.kpi.get "synthetic") (sources.snapshot.get "synthetic") "kpi.synthetic"
  if sources.snapshot.get "synthetic" = .bool true then
    requireEqual (sources.kpi.get "synthetic_provenance")
      (sources.snapshot.get "synthetic_provenance") "kpi.synthetic_provenance"
  return contractFingerprint (.obj
    [("workspace_source_set_version", .str "workspace-source-set.v1"),
      ("documents", Json.strings ([sources.snapshot, sources.problem, sources.solution,
        sources.solverReport, sources.validationReport, sources.importQualityReport,
        sources.kpi].map contractFingerprint))])

/-! ### The version -/

/-- `_expected_locks` -/
def expectedLocksFrom : Nat → List Json → Read (List (String × Json))
  | _, [] => .ok []
  | index, raw :: rest => do
    let lockType ← readText (raw.get "lock_type") s!"problem.operation_locks[{index}].lock_type"
    demand (lockType = "HARD_LOCK" ∨ lockType = "SOFT_LOCK") .mixedLineage
      s!"problem.operation_locks[{index}].lock_type" "unsupported source lock type"
    let lockId ← readText (raw.get "lock_id") "lock.lock_id"
    let operationId ← readText (raw.get "operation_id") "lock.operation_id"
    let resourceId ← readText (raw.get "resource_id") "lock.resource_id"
    let startAt ← readText (raw.get "start_at_utc") "lock.start_at_utc"
    let endAt ← readText (raw.get "end_at_utc") "lock.end_at_utc"
    let locks ← expectedLocksFrom (index + 1) rest
    return (lockId, .obj [("lock_id", .str lockId), ("operation_id", .str operationId),
      ("lock_type", .str (if lockType = "HARD_LOCK" then "HARD" else "SOFT")),
      ("resource_id", .str resourceId), ("start_at_utc", .str startAt),
      ("end_at_utc", .str endAt)]) :: locks

def expectedLocks (problem : Json) : Read (List Json) := do
  let raw ← rows (problem.get "operation_locks") "problem.operation_locks"
  let locks ← expectedLocksFrom 0 raw
  return (sortByKey Prod.fst locks).map Prod.snd

/-- `parse_utc_instant`, outside a `try`. -/
def parseInstant (text : String) : Read Datetime :=
  match parseUtcInstant text with
  | .ok instant => .ok instant
  | .error _ => .error .valueError

/-- `_assignment_busy_seconds` -/
def assignmentBusySeconds (assignment : Json) : Read Int := do
  let startText ← readText (assignment.get "start_at_utc") "assignment.start_at_utc"
  let start ← parseInstant startText
  let endText ← readText (assignment.get "end_at_utc") "assignment.end_at_utc"
  let finish ← parseInstant endText
  demand (¬totalSeconds (finish.sub start) < 0 ∧ (totalSeconds (finish.sub start)).den = 1)
    .mixedLineage "assignment.interval" "assignment occupancy must be nonnegative whole seconds"
  return wholeSeconds (finish.sub start)

/-- The loop over the assignments: each names an operation and a resource of the problem, and adds
its occupancy to that resource. -/
def busyFrom (operations resources : List (String × Json)) :
    List (String × Int) → List Json → Read (List (String × Int))
  | busy, [] => .ok busy
  | busy, assignment :: rest => do
    let operationId ← readText (assignment.get "operation_id") "assignment.operation_id"
    let resourceId ← readText (assignment.get "resource_id") "assignment.resource_id"
    demand (operationId ∈ operations.map Prod.fst ∧ resourceId ∈ resources.map Prod.fst)
      .mixedLineage "schedule_version.content.assignments"
      "assignment references an absent Problem operation or resource"
    let seconds ← assignmentBusySeconds assignment
    busyFrom operations resources
      (busy.map fun b => if b.1 = resourceId then (b.1, b.2 + seconds) else b) rest

/-- The artifact, fingerprint and version that the lineage has to name. -/
def lineageReferences (sources : WorkspaceSourceDocuments) :
    Read (List (String × List (String × Json))) := do
  let snapshotId ← readText (sources.snapshot.get "snapshot_id") "snapshot.snapshot_id"
  let snapshotHash ← readText (sources.snapshot.get "snapshot_hash") "snapshot.snapshot_hash"
  let problemHash ← readText (sources.problem.get "problem_hash") "problem.problem_hash"
  let solutionId ← readText (sources.solution.get "solution_id") "solution.solution_id"
  let kpiId ← readText (sources.kpi.get "kpi_id") "kpi.kpi_id"
  let reportId ← readText (sources.solverReport.get "report_id") "solver_report.report_id"
  let reference (artifactId fingerprint version : String) : List (String × Json) :=
    [("artifact_id", .str artifactId), ("fingerprint", .str fingerprint),
      ("document_version", .str version)]
  return [("snapshot", reference snapshotId snapshotHash "planning-snapshot.v2"),
    ("problem", reference ("planning-problem-" ++ removeFront problemHash "sha256:") problemHash
      "planning-problem.v2"),
    ("planning_solution", reference solutionId (contractFingerprint sources.solution)
      "planning-solution.v1"),
    ("validation_report", reference
      ("validation-report-" ++ removeFront (contractFingerprint sources.validationReport) "sha256:")
      (contractFingerprint sources.validationReport) "validation-report.v2"),
    ("kpi", reference kpiId (contractFingerprint sources.kpi) "kpi.v2"),
    ("solver_report", reference reportId (contractFingerprint sources.solverReport)
      "solver-report.v1")]

/-- The lineage of the version names the sources. -/
def checkLineage (lineage : Json) (sources : WorkspaceSourceDocuments) : Read Unit := do
  let references ← lineageReferences sources
  forEach
    (fun _ (expected : String × List (String × Json)) => do
      let reference ← mapping (lineage.get expected.1) s!"lineage.{expected.1}"
      requireReference reference s!"lineage.{expected.1}" expected.2) references
  let planningRunId ← readText (sources.solverReport.get "planning_run_id")
    "solver_report.planning_run_id"
  requireEqual (lineage.get "planning_run_id") (.str planningRunId) "lineage.planning_run_id"
  requireEqual (sources.kpi.get "planning_run_id") (.str planningRunId) "kpi.planning_run_id"
  let provenance ← mapping (sources.solverReport.get "provenance") "solver_report.provenance"
  requireEqual (lineage.get "code_commit") (provenance.get "code_commit") "lineage.code_commit"
  demand ((sources.validationReport.get "status").pyEq (.str "PASS") = true ∧
      (sources.validationReport.get "hard_violation_count").pyEq (.int 0) = true) .mixedLineage
    "validation_report" "workspace projection requires the stored fresh PASS lineage"

/-- The KPI rows state the occupancy of the resources. -/
def checkBusy (kpiResources : List (String × Json)) (busy : List (String × Int)) : Read Unit :=
  forEach
    (fun _ b => match dictGet Prod.fst kpiResources b.1 with
      | none => reject .kpiMismatch "kpi.resources" "resource KPI row is absent"
      | some row =>
        demand ((row.2.get "planned_busy_seconds").pyEq (.int b.2) = true) .kpiMismatch
          "kpi.resources.planned_busy_seconds"
          "resource load differs from immutable assignments") busy

/-- `bind_workspace_sources` -/
def bindWorkspaceSources (scheduleVersion : Json) (sources : WorkspaceSourceDocuments)
    (expectedDataPlane : String) : Read BoundWorkspaceSources := do
  let _ ← requireWorkspaceSources sources
  let _ ← orReject
    (fun _ => ⟨.mixedLineage, "schedule_version",
      "stored ScheduleVersion failed its immutable carrier contract"⟩)
    (requireWorkspaceDocument scheduleVersion)
  requireEqual (scheduleVersion.get "data_plane") (.str expectedDataPlane)
    "schedule_version.data_plane"
  let lineage ← mapping (scheduleVersion.get "lineage") "schedule_version.lineage"
  checkLineage lineage sources
  let content ← mapping (scheduleVersion.get "content") "schedule_version.content"
  let assignments ← rows (content.get "assignments") "schedule_version.content.assignments"
  let assignments ← sortRows assignments "operation_id" "assignment.operation_id"
  let solved ← rows (sources.solution.get "assignments") "solution.assignments"
  let solved ← sortRows solved "operation_id" "solution.assignment.operation_id"
  requireEqual (.arr (assignments.map clone)) (.arr (solved.map clone))
    "schedule_version.content.assignments"
  let locks ← rows (content.get "locks") "schedule_version.content.locks"
  let expected ← expectedLocks sources.problem
  requireEqual (.arr (locks.map clone)) (.arr expected) "schedule_version.content.locks"
  let operations ← rows (sources.problem.get "operation_instances") "problem.operation_instances"
  let operations ← sortRows operations "operation_id" "operation.operation_id"
  let resources ← rows (sources.problem.get "resources") "problem.resources"
  let resources ← sortRows resources "resource_id" "resource.resource_id"
  let assignmentsByOperation ←
    index assignments "operation_id" "schedule_version.content.assignments"
  let operationsById ← index operations "operation_id" "problem.operation_instances"
  let resourcesById ← index resources "resource_id" "problem.resources"
  let kpi ← mapping sources.kpi "kpi"
  let kpiResources ← rows (kpi.get "resources") "kpi.resources"
  let kpiResourcesById ← index kpiResources "resource_id" "kpi.resources"
  let busy ← busyFrom operationsById resourcesById
    (resourcesById.map fun resource => (resource.1, 0)) assignments
  checkBusy kpiResourcesById busy
  return ⟨contractFingerprint (.obj
      [("read_model_version", .str "workspace-read-model.v1"),
        ("schedule_version_id", scheduleVersion.get "schedule_version_id"),
        ("content_fingerprint", scheduleVersion.get "content_fingerprint"),
        ("lineage", lineage)]),
    assignments, assignmentsByOperation, operations, operationsById, resources, resourcesById,
    kpiResourcesById⟩

end PlantNexus.Workspace
