import PlantNexus.Data.Checks
import PlantNexus.Validation.Report

/-! The independent schedule validator.

One evaluator for each of C-001 to C-011, over the assignments read from the candidate:
all of them, those of one operation, or the single one of an operation. Ticks are
restored to UTC instants from the horizon start; a tick outside the range of `datetime`
leaves the validator with an overflow instead of a report. -/
namespace PlantNexus.Validation
open Data Time Domain Problem

/-- `parse_utc_instant`, raising its error. -/
def instantAt (value : String) : Except ValidatorError Datetime :=
  match parseUtcInstant value with
  | .ok d => .ok d
  | .error message => .error (.value message)

/-- `horizon_start + timedelta(seconds=tick * tick_seconds)`. -/
def tickInstant (problem : PlanningProblem) (horizonStart : Datetime) (tick : Int) :
    Except ValidatorError Datetime :=
  match horizonStart.addSeconds (tick * problem.tickSeconds) with
  | some d => .ok d
  | none => .error .overflow

/-- `tickInstant` of a tick that may be missing. -/
def tickInstant? (problem : PlanningProblem) (horizonStart : Datetime) :
    Option Int → Except ValidatorError (Option Datetime)
  | none => .ok none
  | some tick => do
    let d ← tickInstant problem horizonStart tick
    return some d

/-- `_validated_problem` -/
def validatedProblem (problem : PlanningProblem) : Except ValidatorError Unit :=
  match validateBuiltProblemV2 problem with
  | .error error =>
    .error (.input error.field "valid solver-neutral planning-problem.v2"
      "authoritative Problem failed its contract precheck")
  | .ok () =>
    require (problem.problemHash = problemV2HashFor problem)
      (.input "problem_hash" "content-derived planning-problem-hash-projection.v2"
        "authoritative Problem hash does not match its facts")

def instantJson (d : Datetime) : Json := .str (formatUtcInstant d)

def observedTuples (selected : List Assignment) : Json :=
  .arr (selected.map Assignment.observedTuple)

/-! ### C-001 -/

def missingOrRepeated (assignments : List Assignment) (operationId : String) :
    List Violation :=
  let selected := groups assignments operationId
  if selected.length ≠ 1 then
    [violation .c001 [operationId]
      (.obj
        [("operation_id", .str operationId), ("assignment_count", .int selected.length),
         ("assignments", observedTuples selected)])]
  else []

/-- `_evaluate_c001` -/
def evaluateC001 (problem : PlanningProblem) (assignments : List Assignment) :
    List Violation :=
  let active := problem.operationInstances.map OperationInstance.operationId
  let anchors := problem.historicalCompletionAnchors.map HistoricalCompletionAnchor.operationId
  let unknown := (assignments.filter fun a => a.operationId ∉ active ++ anchors).map
    Assignment.operationId
  (sortByKey id active.dedup).flatMap (missingOrRepeated assignments) ++
    (sortByKey id unknown.dedup).map fun operationId =>
      violation .c001 [operationId]
        (.obj
          [("operation_id", .str operationId), ("assignment_count", .int (unknown.count operationId)),
           ("reason", .str "operation is absent from the authoritative Problem")])

/-! ### Endpoints, C-002 and C-009 -/

/-- `_Endpoint` -/
structure Endpoint where
  operationId : String
  resourceId : String
  startAt : Datetime
  endAt : Datetime

/-- The endpoint of a single assignment with a resource and an interval. -/
def assignmentEndpoint (problem : PlanningProblem) (horizonStart : Datetime) (a : Assignment) :
    Except ValidatorError (List Endpoint) :=
  match a.resourceId, a.interval with
  | some resourceId, some (start, stop) => do
    let startAt ← tickInstant problem horizonStart start
    let endAt ← tickInstant problem horizonStart stop
    return [⟨a.operationId, resourceId, startAt, endAt⟩]
  | _, _ => .ok []

def anchorEndpoint (anchor : HistoricalCompletionAnchor) : Except ValidatorError Endpoint := do
  let startAt ← instantAt anchor.actualStartAtUtc
  let endAt ← instantAt anchor.actualEndAtUtc
  return ⟨anchor.operationId, anchor.resourceId, startAt, endAt⟩

/-- `_endpoint_maps`: single assignments, then anchors, a later entry replacing an
earlier one of the same operation. -/
def endpointMaps (problem : PlanningProblem) (horizonStart : Datetime)
    (assignments : List Assignment) : Except ValidatorError (List Endpoint) := do
  let singles := assignments.filter fun a => single assignments a.operationId = some a
  let assigned ← collect (assignmentEndpoint problem horizonStart) singles
  let anchors ← collect anchorEndpoint problem.historicalCompletionAnchors
  return assigned.flatten ++ anchors

def endpoint (endpoints : List Endpoint) (operationId : String) : Option Endpoint :=
  dictGet Endpoint.operationId endpoints operationId

def lagViolations (edge : PrecedenceEdge) (predecessor successor : Endpoint) :
    List Violation :=
  let lag := wholeSeconds (successor.startAt.sub predecessor.endAt)
  if lag < edge.minLagSeconds ∨ ∃ maximum ∈ edge.maxLagSeconds, lag > maximum then
    [violation .c002
      [edge.precedenceEdgeId, edge.predecessorOperationId, edge.successorOperationId]
      (.obj
        [("predecessor_end_utc", instantJson predecessor.endAt),
         ("successor_start_utc", instantJson successor.startAt), ("lag_seconds", .int lag),
         ("min_lag_seconds", .int edge.minLagSeconds),
         ("max_lag_seconds", .ofOption .int edge.maxLagSeconds)])]
  else []

/-- A check of an edge that has both endpoints. -/
def onEdge (endpoints : List Endpoint) (edge : PrecedenceEdge)
    (check : Endpoint → Endpoint → List Violation) : List Violation :=
  match endpoint endpoints edge.predecessorOperationId,
    endpoint endpoints edge.successorOperationId with
  | some predecessor, some successor => check predecessor successor
  | _, _ => []

/-- `_evaluate_c002` -/
def evaluateC002 (problem : PlanningProblem) (endpoints : List Endpoint) : List Violation :=
  problem.precedenceEdges.flatMap fun edge => onEdge endpoints edge (lagViolations edge)

/-- `workshop_by_resource.get(...)` -/
def workshopOf (problem : PlanningProblem) (resourceId : String) : Option String :=
  (dictGet Resource.resourceId problem.resources resourceId).map Resource.workshopId

def transportViolations (problem : PlanningProblem) (edge : PrecedenceEdge)
    (predecessor successor : Endpoint) : List Violation :=
  match workshopOf problem predecessor.resourceId, workshopOf problem successor.resourceId with
  | some predecessorWorkshop, some successorWorkshop =>
    let observed := wholeSeconds (successor.startAt.sub predecessor.endAt)
    if predecessorWorkshop ≠ successorWorkshop ∧ observed < edge.transportLagSeconds then
      [violation .c009
        [edge.precedenceEdgeId, edge.predecessorOperationId, edge.successorOperationId]
        (.obj
          [("predecessor_workshop_id", .str predecessorWorkshop),
           ("successor_workshop_id", .str successorWorkshop),
           ("predecessor_end_utc", instantJson predecessor.endAt),
           ("successor_start_utc", instantJson successor.startAt),
           ("transport_seconds_observed", .int observed),
           ("transport_lag_seconds", .int edge.transportLagSeconds)])]
    else []
  | _, _ => []

/-- `_evaluate_c009` -/
def evaluateC009 (problem : PlanningProblem) (endpoints : List Endpoint) : List Violation :=
  problem.precedenceEdges.flatMap fun edge =>
    onEdge endpoints edge (transportViolations problem edge)

/-! ### C-003 -/

def resourceViolations (assignments : List Assignment) (operation : OperationInstance) :
    List Violation :=
  let selected := groups assignments operation.operationId
  let observed := selected.map Assignment.resourceId
  if selected ≠ [] ∧
      (selected.length ≠ 1 ∨ ∀ resource ∈ observed.head?,
        resource ∉ operation.optionResources.map some) then
    [violation .c003 (operation.operationId :: observed.filterMap id)
      (.obj
        [("operation_id", .str operation.operationId),
         ("selected_resource_count", .int selected.length),
         ("selected_resource_ids", .arr (observed.map (.ofOption .str))),
         ("allowed_resource_ids", .strings (sortByKey id operation.optionResources.dedup))])]
  else []

/-- `_evaluate_c003` -/
def evaluateC003 (problem : PlanningProblem) (assignments : List Assignment) :
    List Violation :=
  problem.operationInstances.flatMap (resourceViolations assignments)

/-! ### C-004 -/

/-- A usable assignment with its interval. -/
structure Placed where
  assignment : Assignment
  start : Int
  stop : Int

/-- The placement of a usable assignment on a capacity-1 resource. -/
def placedAt (problem : PlanningProblem) (resourceId : String) (a : Assignment) :
    Option Placed :=
  match a.interval with
  | some (start, stop) =>
    if a.resourceId = some resourceId ∧
        (dictGet Resource.resourceId problem.resources resourceId).map Resource.capacity =
          some 1 then
      some ⟨a, start, stop⟩
    else none
  | none => none

/-- `by_resource[resource_id]` -/
def placedOn (problem : PlanningProblem) (assignments : List Assignment) (resourceId : String) :
    List Placed :=
  assignments.filterMap (placedAt problem resourceId)

def overlapViolation (resourceId : String) (first second : Placed) : Violation :=
  violation .c004
    [resourceId, first.assignment.operationId, second.assignment.operationId]
    (.obj
      [("resource_id", .str resourceId), ("first", first.assignment.observedTuple),
       ("second", second.assignment.observedTuple)])

/-- Each placement against those after it, up to the first that starts at or after its
end. -/
def overlaps (resourceId : String) : List Placed → List Violation
  | [] => []
  | first :: rest =>
    ((rest.takeWhile fun second => second.start < first.stop).filter
      fun second => first.start < second.stop).map (overlapViolation resourceId first) ++
      overlaps resourceId rest

/-- `_evaluate_c004` -/
def evaluateC004 (problem : PlanningProblem) (assignments : List Assignment) :
    List Violation :=
  (sortByKey id (assignments.filterMap Assignment.resourceId).dedup).flatMap fun resourceId =>
    overlaps resourceId
      (sortByKey
        (fun p => toLex (p.start, toLex (p.stop,
          toLex (p.assignment.operationId, p.assignment.index))))
        (placedOn problem assignments resourceId))

/-! ### C-005 -/

def calendarViolation (a : Assignment) (resourceId : String) (startAt endAt : Datetime)
    (interval : UnavailableInterval) : Except ValidatorError (List Violation) :=
  if resourceId ≠ interval.resourceId then .ok []
  else do
    let unavailableStart ← instantAt interval.startUtc
    let unavailableEnd ← instantAt interval.endUtc
    return if startAt < unavailableEnd ∧ unavailableStart < endAt then
      [violation .c005 [a.operationId, resourceId]
        (.obj
          [("assignment_start_utc", instantJson startAt),
           ("assignment_end_utc", instantJson endAt),
           ("unavailable_start_utc", instantJson unavailableStart),
           ("unavailable_end_utc", instantJson unavailableEnd)])]
    else []

def calendarViolations (problem : PlanningProblem) (horizonStart : Datetime) (a : Assignment) :
    Except ValidatorError (List Violation) :=
  match a.resourceId, a.interval with
  | some resourceId, some (start, stop) => do
    let startAt ← tickInstant problem horizonStart start
    let endAt ← tickInstant problem horizonStart stop
    let found ← collect (calendarViolation a resourceId startAt endAt)
      problem.resourceUnavailableIntervals
    return found.flatten
  | _, _ => .ok []

/-- `_evaluate_c005` -/
def evaluateC005 (problem : PlanningProblem) (horizonStart : Datetime)
    (assignments : List Assignment) : Except ValidatorError (List Violation) := do
  let found ← collect (calendarViolations problem horizonStart) assignments
  return found.flatten

/-! ### C-006 -/

def gateViolations (problem : PlanningProblem) (horizonStart : Datetime)
    (assignments : List Assignment) (operation : OperationInstance) :
    Except ValidatorError (List Violation) :=
  match (single assignments operation.operationId).bind Assignment.startTick with
  | none => .ok []
  | some start => do
    let startAt ← tickInstant problem horizonStart start
    let releaseAt ← instantAt operation.releaseAtUtc
    let materialAt ← instantAt operation.materialReadyAtUtc
    return if startAt < releaseAt ∨ startAt < materialAt then
      [violation .c006 [operation.operationId]
        (.obj
          [("assignment_start_utc", instantJson startAt),
           ("release_at_utc", instantJson releaseAt),
           ("material_ready_at_utc", instantJson materialAt)])]
    else []

/-- `_evaluate_c006` -/
def evaluateC006 (problem : PlanningProblem) (horizonStart : Datetime)
    (assignments : List Assignment) : Except ValidatorError (List Violation) := do
  let found ← collect (gateViolations problem horizonStart assignments)
    problem.operationInstances
  return found.flatten

/-! ### C-007 -/

/-- `_ceil_ticks` -/
def ceilTicks (seconds tick : Int) : Int := (seconds + tick - 1) / tick

def completedViolations (assignments : List Assignment) (anchor : HistoricalCompletionAnchor) :
    List Violation :=
  let selected := groups assignments anchor.operationId
  if selected ≠ [] then
    [violation .c007 [anchor.operationId, anchor.executionFactId]
      (.obj
        [("execution_status", .str "COMPLETED"), ("assignments", observedTuples selected)])]
  else []

/-- The single assignment of a running operation restates its fact. -/
def MatchesRunning (a : Assignment) (resource : String) (endTick : Int)
    (candidateStart candidateEnd : Option Datetime) : Prop :=
  a.resourceId = some resource ∧ a.startTick = some 0 ∧ a.endTick = some endTick ∧
    a.startAtUtc = candidateStart ∧ a.endAtUtc = candidateEnd

instance (a : Assignment) (resource : String) (endTick : Int)
    (candidateStart candidateEnd : Option Datetime) :
    Decidable (MatchesRunning a resource endTick candidateStart candidateEnd) := by
  unfold MatchesRunning
  infer_instance

def runningViolations (problem : PlanningProblem) (horizonStart : Datetime)
    (assignments : List Assignment) (operation : OperationInstance) :
    Except ValidatorError (List Violation) :=
  match operation.status, operation.assignedResourceId, operation.remainingSeconds with
  | .running, some resource, some remaining => do
    let endTick := ceilTicks remaining problem.tickSeconds
    let selected := groups assignments operation.operationId
    let failed := violation .c007 [operation.operationId, resource]
      (.obj
        [("execution_status", .str "RUNNING"),
         ("actual_start_at_utc", .ofOption .str operation.actualStartAtUtc),
         ("expected_resource_id", .str resource), ("remaining_seconds", .int remaining),
         ("expected_start_tick", .int 0), ("expected_end_tick", .int endTick),
         ("assignments", observedTuples selected)])
    match selected with
    | [a] =>
      let candidateStart ← tickInstant? problem horizonStart a.startTick
      let candidateEnd ← tickInstant? problem horizonStart a.endTick
      return if MatchesRunning a resource endTick candidateStart candidateEnd then []
        else [failed]
    | _ => return [failed]
  | .running, _, _ => .error (.value "KeyError")
  | .notStarted, _, _ => .ok []

/-- `_evaluate_c007` -/
def evaluateC007 (problem : PlanningProblem) (horizonStart : Datetime)
    (assignments : List Assignment) : Except ValidatorError (List Violation) := do
  let found ← collect (runningViolations problem horizonStart assignments)
    problem.operationInstances
  return problem.historicalCompletionAnchors.flatMap (completedViolations assignments) ++
    found.flatten

/-! ### C-008 -/

/-- The restored interval of an operation's single usable assignment. -/
def restoredInterval (problem : PlanningProblem) (horizonStart : Datetime)
    (selected : List Assignment) : Except ValidatorError (Option (Datetime × Datetime)) :=
  match selected with
  | [a] =>
    match a.interval with
    | some (start, stop) => do
      let startAt ← tickInstant problem horizonStart start
      let endAt ← tickInstant problem horizonStart stop
      return some (startAt, endAt)
    | none => .ok none
  | _ => .ok none

def hardLockViolations (problem : PlanningProblem) (horizonStart : Datetime)
    (assignments : List Assignment) (lock : OperationLock) :
    Except ValidatorError (List Violation) :=
  match lock.lockType with
  | .softLock => .ok []
  | .hardLock => do
    let lockStart ← instantAt lock.startAtUtc
    let lockEnd ← instantAt lock.endAtUtc
    let selected := groups assignments lock.operationId
    let restored ← restoredInterval problem horizonStart selected
    return if selected.length = 1 ∧ selected.map Assignment.resourceId = [some lock.resourceId] ∧
        restored = some (lockStart, lockEnd) then []
      else
        [violation .c008 [lock.operationId, lock.resourceId, lock.lockId]
          (.obj
            [("hard_lock", .obj
              [("resource_id", .str lock.resourceId), ("start_at_utc", instantJson lockStart),
               ("end_at_utc", instantJson lockEnd)]),
             ("assignments", observedTuples selected)])]

/-- `_evaluate_c008` -/
def evaluateC008 (problem : PlanningProblem) (horizonStart : Datetime)
    (assignments : List Assignment) : Except ValidatorError (List Violation) := do
  let found ← collect (hardLockViolations problem horizonStart assignments)
    problem.operationLocks
  return found.flatten

/-! ### C-010 -/

/-- The duration an operation takes on an option. -/
def expectedSeconds (operation : OperationInstance) (option : ResourceOption) : Option Int :=
  match operation.status with
  | .running => operation.remainingSeconds
  | .notStarted => some option.finalDurationSeconds

def durationViolations (problem : PlanningProblem) (assignments : List Assignment)
    (operation : OperationInstance) : Except ValidatorError (List Violation) :=
  match single assignments operation.operationId with
  | none => .ok []
  | some a =>
    match a.resourceId, a.startTick, a.endTick with
    | some resourceId, some start, some stop =>
      match operation.resourceOptions.find? fun o => o.resourceId = resourceId with
      | none => .ok []
      | some option =>
        match expectedSeconds operation option with
        | none => .error (.value "KeyError")
        | some seconds =>
          let expectedTicks := ceilTicks seconds problem.tickSeconds
          let observedTicks := stop - start
          if observedTicks = expectedTicks ∧ a.durationTicks = some observedTicks ∧
              a.durationSeconds = some seconds then .ok []
          else .ok [violation .c010 [operation.operationId, resourceId]
            (.obj
              [("resource_id", .str resourceId),
               ("operation_status", .str operation.status.text),
               ("interval_ticks", .int observedTicks),
               ("declared_duration_ticks", .ofOption .int a.durationTicks),
               ("declared_duration_seconds", .ofOption .int a.durationSeconds),
               ("authoritative_duration_seconds", .int seconds),
               ("expected_duration_ticks", .int expectedTicks)])]
    | _, _, _ => .ok []

/-- `_evaluate_c010` -/
def evaluateC010 (problem : PlanningProblem) (assignments : List Assignment) :
    Except ValidatorError (List Violation) := do
  let found ← collect (durationViolations problem assignments) problem.operationInstances
  return found.flatten

/-! ### C-011 -/

/-- The declared instants restate the ticks, inside the horizon. -/
def InsideHorizon (a : Assignment) (horizonStart horizonEnd : Datetime)
    (restoredStart restoredEnd : Option Datetime) : Prop :=
  ∃ start ∈ restoredStart, ∃ stop ∈ restoredEnd,
    a.startAtUtc = some start ∧ a.endAtUtc = some stop ∧
      horizonStart ≤ start ∧ start < stop ∧ stop ≤ horizonEnd

instance (a : Assignment) (horizonStart horizonEnd : Datetime)
    (restoredStart restoredEnd : Option Datetime) :
    Decidable (InsideHorizon a horizonStart horizonEnd restoredStart restoredEnd) := by
  unfold InsideHorizon
  infer_instance

def horizonViolations (problem : PlanningProblem) (horizonStart horizonEnd : Datetime)
    (a : Assignment) : Except ValidatorError (List Violation) :=
  match (dictGet OperationInstance.operationId problem.operationInstances a.operationId).map
    OperationInstance.status with
  | some .notStarted => do
    let restoredStart ← tickInstant? problem horizonStart a.startTick
    let restoredEnd ← tickInstant? problem horizonStart a.endTick
    return if InsideHorizon a horizonStart horizonEnd restoredStart restoredEnd then []
      else
        [violation .c011 [a.operationId]
          (.obj
            [("start_tick", .ofOption .int a.startTick), ("end_tick", .ofOption .int a.endTick),
             ("declared_start_utc", .ofOption instantJson a.startAtUtc),
             ("declared_end_utc", .ofOption instantJson a.endAtUtc),
             ("restored_start_utc", .ofOption instantJson restoredStart),
             ("restored_end_utc", .ofOption instantJson restoredEnd),
             ("horizon_start_utc", instantJson horizonStart),
             ("horizon_end_utc", instantJson horizonEnd)])]
  | _ => .ok []

/-- `_evaluate_c011` -/
def evaluateC011 (problem : PlanningProblem) (horizonStart horizonEnd : Datetime)
    (assignments : List Assignment) : Except ValidatorError (List Violation) := do
  let found ← collect (horizonViolations problem horizonStart horizonEnd) assignments
  return found.flatten

/-! ### The validator -/

/-- Every evaluator, in the validator's order. -/
def evaluate (problem : PlanningProblem) (candidate : Json) :
    Except ValidatorError (List Violation) := do
  let horizonStart ← instantAt problem.horizonStartUtc
  let horizonEnd ← instantAt problem.horizonEndUtc
  let (assignments, materialization) := materializeAssignments problem candidate
  let endpoints ← endpointMaps problem horizonStart assignments
  let calendar ← evaluateC005 problem horizonStart assignments
  let gates ← evaluateC006 problem horizonStart assignments
  let facts ← evaluateC007 problem horizonStart assignments
  let locks ← evaluateC008 problem horizonStart assignments
  let durations ← evaluateC010 problem assignments
  let horizon ← evaluateC011 problem horizonStart horizonEnd assignments
  return materialization ++ evaluateC001 problem assignments ++ evaluateC002 problem endpoints ++
    evaluateC003 problem assignments ++ evaluateC004 problem assignments ++ calendar ++ gates ++
    facts ++ locks ++ evaluateC009 problem endpoints ++ durations ++ horizon

/-- `_violation_sort_key` -/
def violationSortKey (v : Violation) : String ×ₗ (List String ×ₗ String) :=
  toLex (v.constraintId.text, toLex (v.entityIds, v.observedValue.dumps))

/-- `VALIDATION_REPORT_CONTRACT` -/
def validationReportContract : String := "validation-report.v2"

/-- `ProblemScheduleValidator.validate` -/
def validateProblemSchedule (problem : PlanningProblem) (candidate : Json) :
    Except ValidatorError Report := do
  validatedProblem problem
  let violations ← evaluate problem candidate
  let violations := sortByKey violationSortKey violations
  return {
    validationReportVersion := validationReportContract
    problemHash := problem.problemHash
    status := if violations.length = 0 then "PASS" else "FAIL"
    hardViolationCount := violations.length
    violations }

end PlantNexus.Validation
