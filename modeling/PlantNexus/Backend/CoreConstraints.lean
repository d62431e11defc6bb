import PlantNexus.Backend.FactLockConstraints

/-! The fail-closed input boundary of the core model.

`precheckCoreProblem` accepts a built problem whose instants are canonical whole
seconds, whose horizon has at least one tick, whose durations fit, and whose hard locks
lie on the grid and agree with each other and with the running facts. -/
namespace PlantNexus.Backend
open Data Time Domain Problem

/-- `_CP_SAT_INT_MAX` -/
def cpSatIntMax : Int := 2 ^ 63 - 1

/-- `_reject` unless the condition holds. -/
def requireInput (c : Prop) [Decidable c] (reason : CoreModelReason)
    (field entityId message : String) : Except BackendError Unit :=
  require c (.input ⟨reason, field, entityId, message⟩)

/-- `_reject_zero_options_before_contract` -/
def rejectZeroOptionsBeforeContract (problem : PlanningProblem) : Except BackendError Unit :=
  forEach
    (fun index operation =>
      requireInput (operation.resourceOptions ≠ []) .zeroResourceOptions
        s!"operation_instances[{index}].resource_options" operation.operationId
        "Core assignment requires at least one explicit resource option")
    problem.operationInstances

/-- `_require_second_precision` -/
def requireSecondPrecision (value field entityId : String) : Except BackendError Unit := do
  let parsed ← instantAt value
  requireInput (formatUtcInstant parsed = value) .temporalInstantNotSecondPrecision field
    entityId
    ("CP-SAT temporal projection requires canonical whole-second UTC " ++
      "instants; sub-second values cannot be rounded silently")

/-- `_require_cp_sat_tick` -/
def requireCpSatTick (value : Int) (field entityId : String) : Except BackendError Unit :=
  requireInput (¬(value < -cpSatIntMax ∨ value > cpSatIntMax)) .tickValueOutOfRange field
    entityId "A temporal bound exceeds the pinned CP-SAT integer domain"

/-- A resource, a start tick and an end tick. -/
abbrev Signature := String × Int × Int

/-- The tuple a running operation is fixed to. -/
def runningSignature (problem : PlanningProblem) (operation : OperationInstance) :
    Option Signature :=
  match operation.status, operation.assignedResourceId, operation.remainingSeconds with
  | .running, some resource, some remaining =>
    some (resource, 0, durationTicks remaining problem.tickSeconds)
  | _, _, _ => none

/-- The running fact of one operation. -/
def precheckRunning (problem : PlanningProblem) (horizonStart : Datetime) (horizonTicks : Int)
    (index : Nat) (operation : OperationInstance) : Except BackendError Unit :=
  match operation.actualStartAtUtc, operation.remainingSeconds with
  | some actualStart, some remaining => do
    let field := s!"operation_instances[{index}].actual_start_at_utc"
    requireSecondPrecision actualStart field operation.operationId
    let start ← instantAt actualStart
    requireInput (¬start > horizonStart) .factLockSelfConflict field operation.operationId
      "RUNNING actual start cannot be after the planning cutoff"
    requireInput (¬durationTicks remaining problem.tickSeconds > horizonTicks)
      .durationExceedsHorizon s!"operation_instances[{index}].remaining_seconds"
      operation.operationId
      ("The full ceiled RUNNING remainder must fit inside the " ++
        "authoritative Problem horizon")
  | _, _ => .error (.value "AssertionError")

def precheckOperation (problem : PlanningProblem) (horizonStart : Datetime)
    (horizonTicks : Int) (index : Nat) (operation : OperationInstance) :
    Except BackendError Unit := do
  if operation.status = .running then
    precheckRunning problem horizonStart horizonTicks index operation
  requireSecondPrecision operation.releaseAtUtc
    s!"operation_instances[{index}].release_at_utc" operation.operationId
  requireSecondPrecision operation.materialReadyAtUtc
    s!"operation_instances[{index}].material_ready_at_utc" operation.operationId
  forEach
    (fun optionIndex option =>
      if operation.status = .running then .ok ()
      else requireInput
        (¬durationTicks option.finalDurationSeconds problem.tickSeconds > horizonTicks)
        .durationExceedsHorizon
        (s!"operation_instances[{index}]." ++
          s!"resource_options[{optionIndex}].final_duration_seconds")
        operation.operationId
        ("A resource option cannot fit wholly inside the planning " ++
          "horizon; silent truncation or option removal is forbidden"))
    operation.resourceOptions

/-- The ticks the operation of a lock takes on the lock's resource. -/
def lockExpectedTicks (problem : PlanningProblem) (lock : OperationLock) :
    Except BackendError Int :=
  match dictGet OperationInstance.operationId problem.operationInstances lock.operationId with
  | none => .error (.missingKey lock.operationId)
  | some operation =>
    match runningSignature problem operation with
    | some signature => .ok signature.2.2
    | none =>
      match operation.resourceOptions.find? fun o => o.resourceId = lock.resourceId with
      | some option => .ok (durationTicks option.finalDurationSeconds problem.tickSeconds)
      | none => .error (.missingKey lock.resourceId)

/-- `exact_tick_offset` of both ends, or the rejection of a lock off the grid. -/
def lockTicks (problem : PlanningProblem) (index : Nat) (lock : OperationLock) :
    Except BackendError (Int × Int) :=
  let offsets := do
    let start ← exactTickOffset lock.startAtUtc problem.horizonStartUtc problem.tickSeconds
    let stop ← exactTickOffset lock.endAtUtc problem.horizonStartUtc problem.tickSeconds
    return (start, stop)
  match offsets with
  | .ok ticks => .ok ticks
  | .error _ =>
    .error (.input ⟨.hardLockNotTickAligned, s!"operation_locks[{index}]", lock.lockId,
      "HARD lock start and end must both align exactly to the " ++
        "authoritative solver tick grid"⟩)

/-- One hard lock against those already seen for its operation. -/
def precheckHardLock (problem : PlanningProblem) (index : Nat) (lock : OperationLock)
    (hardSignatures : List (String × Signature)) :
    Except BackendError (List (String × Signature)) := do
  let field := s!"operation_locks[{index}]"
  requireSecondPrecision lock.startAtUtc s!"{field}.start_at_utc" lock.lockId
  requireSecondPrecision lock.endAtUtc s!"{field}.end_at_utc" lock.lockId
  let (start, stop) ← lockTicks problem index lock
  requireCpSatTick start s!"{field}.start_at_utc" lock.lockId
  requireCpSatTick stop s!"{field}.end_at_utc" lock.lockId
  let expected ← lockExpectedTicks problem lock
  let signature : Signature := (lock.resourceId, start, stop)
  requireInput (stop - start = expected) .factLockSelfConflict field lock.lockId
    ("HARD lock interval contradicts the authoritative operation " ++
      "duration or RUNNING remainder")
  match dictGet Prod.fst hardSignatures lock.operationId with
  | some previous =>
    requireInput (previous.2 = signature) .factLockSelfConflict field lock.lockId
      "Multiple HARD locks for one operation contradict each other"
  | none => pure ()
  return hardSignatures ++ [(lock.operationId, signature)]

/-- The hard locks in document order. -/
def precheckHardLocks (problem : PlanningProblem) :
    Nat → List OperationLock → List (String × Signature) →
      Except BackendError (List (String × Signature))
  | _, [], hardSignatures => .ok hardSignatures
  | index, lock :: rest, hardSignatures =>
    match lock.lockType with
    | .softLock => precheckHardLocks problem (index + 1) rest hardSignatures
    | .hardLock => do
      let hardSignatures ← precheckHardLock problem index lock hardSignatures
      precheckHardLocks problem (index + 1) rest hardSignatures

def precheckEdge (problem : PlanningProblem) (index : Nat) (edge : PrecedenceEdge) :
    Except BackendError Unit := do
  let field := s!"precedence_edges[{index}]"
  requireCpSatTick (ceilSecondsToTicks edge.minLagSeconds problem.tickSeconds)
    s!"{field}.min_lag_seconds" edge.precedenceEdgeId
  requireCpSatTick (ceilSecondsToTicks edge.transportLagSeconds problem.tickSeconds)
    s!"{field}.transport_lag_seconds" edge.precedenceEdgeId
  match edge.maxLagSeconds with
  | none => .ok ()
  | some maximum =>
    requireCpSatTick (floorSecondsToTicks maximum problem.tickSeconds)
      s!"{field}.max_lag_seconds" edge.precedenceEdgeId

/-- `CorePrecheckDocument` -/
structure CorePrecheck where
  horizonTicks : Int
  operationCount : Nat
  optionCount : Nat
  resourceCount : Nat
deriving DecidableEq, Repr

/-- `validate_built_problem_v2` inside the backend. -/
def requireBuilt (problem : PlanningProblem) : Except BackendError Unit :=
  match validateBuiltProblemV2 problem with
  | .ok () => .ok ()
  | .error error => .error (.problem error)

/-- `precheck_core_problem` -/
def precheckCoreProblem (problem : PlanningProblem) : Except BackendError CorePrecheck := do
  rejectZeroOptionsBeforeContract problem
  requireBuilt problem
  requireSecondPrecision problem.horizonStartUtc "horizon_start_utc" problem.snapshotId
  requireSecondPrecision problem.horizonEndUtc "horizon_end_utc" problem.snapshotId
  let horizonStart ← instantAt problem.horizonStartUtc
  let horizonEnd ← instantAt problem.horizonEndUtc
  let horizonTicks := wholeSeconds (horizonEnd.sub horizonStart) / problem.tickSeconds
  requireInput (¬horizonTicks < 1) .invalidHorizonTicks "horizon_end_utc" problem.snapshotId
    "Planning horizon contains no complete positive solver tick"
  forEach (precheckOperation problem horizonStart horizonTicks) problem.operationInstances
  let hardSignatures ← precheckHardLocks problem 0 problem.operationLocks []
  forEach
    (fun _ operation =>
      match runningSignature problem operation,
        dictGet Prod.fst hardSignatures operation.operationId with
      | some running, some hard =>
        requireInput (hard.2 = running) .factLockSelfConflict "operation_locks"
          operation.operationId "RUNNING execution fact and HARD lock tuples contradict"
      | _, _ => .ok ())
    problem.operationInstances
  forEach
    (fun index (anchor : HistoricalCompletionAnchor) => do
      let field := s!"historical_completion_anchors[{index}]"
      requireSecondPrecision anchor.actualStartAtUtc s!"{field}.actual_start_at_utc"
        anchor.operationId
      requireSecondPrecision anchor.actualEndAtUtc s!"{field}.actual_end_at_utc"
        anchor.operationId)
    problem.historicalCompletionAnchors
  forEach (precheckEdge problem) problem.precedenceEdges
  forEach
    (fun index (interval : UnavailableInterval) => do
      let field := s!"resource_unavailable_intervals[{index}]"
      requireSecondPrecision interval.startUtc s!"{field}.start_utc" interval.resourceId
      requireSecondPrecision interval.endUtc s!"{field}.end_utc" interval.resourceId)
    problem.resourceUnavailableIntervals
  return {
    horizonTicks
    operationCount := problem.operationInstances.length
    optionCount := (problem.operationInstances.map fun o => o.resourceOptions.length).sum
    resourceCount := problem.resources.length }

end PlantNexus.Backend
