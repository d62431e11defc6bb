import PlantNexus.Backend.Model

/-! The solver-neutral assignments of a valuation of the core model. -/
namespace PlantNexus.Backend
open Data Time Domain Problem CpSat

/-- `OperationAssignmentDocument` -/
structure OperationAssignment where
  operationId : String
  resourceId : String
  startTick : Int
  endTick : Int
  durationTicks : Int
  startAtUtc : String
  endAtUtc : String
  durationSeconds : Int
  lockIds : List String
  executionFactIds : List String
deriving DecidableEq, Repr

def OperationAssignment.toJson (a : OperationAssignment) : Json :=
  .obj
    [("operation_id", .str a.operationId), ("resource_id", .str a.resourceId),
     ("start_tick", .int a.startTick), ("end_tick", .int a.endTick),
     ("duration_ticks", .int a.durationTicks), ("start_at_utc", .str a.startAtUtc),
     ("end_at_utc", .str a.endAtUtc), ("duration_seconds", .int a.durationSeconds),
     ("lock_ids", .strings a.lockIds), ("execution_fact_ids", .strings a.executionFactIds)]

/-- `_problem_reference` -/
def problemReference (problem : PlanningProblem) : Json :=
  .obj
    [("problem_version", .str problem.problemVersion),
     ("problem_builder_version", .str problem.problemBuilderVersion),
     ("problem_hash_projection_version", .str problem.problemHashProjectionVersion),
     ("problem_hash", .str problem.problemHash), ("snapshot_id", .str problem.snapshotId),
     ("tick_seconds", .int problem.tickSeconds),
     ("horizon_start_utc", .str problem.horizonStartUtc),
     ("horizon_end_utc", .str problem.horizonEndUtc)]

/-- The locks of an operation, in identifier order. -/
def lockIdsByOperation (problem : PlanningProblem) (operationId : String) : List String :=
  sortByKey id ((problem.operationLocks.filter fun l => l.operationId = operationId).map
    OperationLock.lockId)

/-- The assignment of one operation. -/
def assignmentOf (problem : PlanningProblem) (ν : Valuation) (operation : CoreOperation) :
    Except BackendError OperationAssignment := do
  let horizonStart ← instantAt problem.horizonStartUtc
  match operation.options.filter fun option => ν.bool option.presence with
  | [option] =>
    let startTick := ν.int operation.start
    let endTick := ν.int operation.stop
    let startAt ← addSecondsTo horizonStart (startTick * problem.tickSeconds)
    let endAt ← addSecondsTo horizonStart (endTick * problem.tickSeconds)
    return {
      operationId := operation.operationId
      resourceId := option.resourceId
      startTick
      endTick
      durationTicks := option.durationTicks
      startAtUtc := formatUtcInstant startAt
      endAtUtc := formatUtcInstant endAt
      durationSeconds := option.durationSeconds
      lockIds := lockIdsByOperation problem operation.operationId
      executionFactIds := [] }
  | _ => .error (.value "CP-SAT candidate does not select exactly one core option")

/-- `_assignments` -/
def assignments (problem : PlanningProblem) (core : CoreCpSatModel) (ν : Valuation) :
    Except BackendError (List OperationAssignment) := do
  let values ← collect (assignmentOf problem ν) core.operations
  return sortByKey OperationAssignment.operationId values

/-- A candidate solution, as far as the schedule validators read it. -/
def candidateDocument (problem : PlanningProblem) (values : List OperationAssignment) : Json :=
  .obj
    [("problem", problemReference problem),
     ("assignments", .arr (values.map OperationAssignment.toJson))]

end PlantNexus.Backend
