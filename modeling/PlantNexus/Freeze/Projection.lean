import PlantNexus.Freeze.Document
import PlantNexus.Problem.Hashing

/-! `project_effective_locks`: the projector of freeze-window and effective locks.

The projector classifies the facts of a verified snapshot, the explicit locks of the
verified problem and the assignments of a published base schedule into one document.
Every rejection names its reason, field and entity as the source does. -/
namespace PlantNexus.Freeze
open Data Time Domain Snapshot
open Problem (ImmutablePlanningProblemV2 verifyProblemV2 PlanningProblem)

inductive FreezeProjectionFailure where
  | invalidBaseSchedule
  | invalidSnapshot
  | invalidProblem
  | policyRejected
  | planeMismatch
  | lineageMismatch
  | duplicateOperation
  | staleBase
  | unrepresentableLock
  | factLockConflict
  | hardLockConflict
  | freezeLockConflict
deriving DecidableEq, Repr

structure FreezeProjectionError where
  reason : FreezeProjectionFailure
  field : String
  entityId : String
  message : String
deriving DecidableEq, Repr

/-- What the projector raises. -/
abbrev Projecting (α : Type) := Except (Raised FreezeProjectionError) α

namespace Projector

/-! ### Values -/

/-- `_mapping` -/
def mapping (value : Json) (field entityId : String) : Projecting Json := do
  require (value.isObj = true)
    (.rejected ⟨.invalidBaseSchedule, field, entityId, "value must be an object"⟩)
  return value

/-- `_sequence` -/
def sequence (value : Json) (field entityId : String) : Projecting (List Json) :=
  match value with
  | .arr items => .ok items
  | _ => .error (.rejected ⟨.invalidBaseSchedule, field, entityId, "value must be an array"⟩)

/-- A text that `_identifier` accepts. -/
def IsIdentifier (value : String) : Prop :=
  value ≠ "" ∧ value.length ≤ 256 ∧ value.toList.all (fun c => !isSpace c) = true

instance (value : String) : Decidable (IsIdentifier value) := inferInstanceAs (Decidable (_ ∧ _))

/-- `_identifier` -/
def identifier (value : Json) (field : String) (entityId : String := "<input>") :
    Projecting String :=
  match value with
  | .str value => do
    require (IsIdentifier value)
      (.rejected
        ⟨.invalidBaseSchedule, field, entityId, "value must be a canonical identifier"⟩)
    return value
  | _ =>
    .error (.rejected
      ⟨.invalidBaseSchedule, field, entityId, "value must be a canonical identifier"⟩)

/-- `_integer` -/
def integer (value : Json) (field entityId : String) (minimum : Int := 0) : Projecting Int :=
  match value with
  | .int n => do
    require (minimum ≤ n)
      (.rejected
        ⟨.invalidBaseSchedule, field, entityId, s!"value must be an integer >= {minimum}"⟩)
    return n
  | _ =>
    .error (.rejected
      ⟨.invalidBaseSchedule, field, entityId, s!"value must be an integer >= {minimum}"⟩)

def utcFailure (field entityId : String) : UtcFault → FreezeProjectionError
  | .notUtc => ⟨.unrepresentableLock, field, entityId, "instant must be RFC3339 UTC Z"⟩
  | .invalid => ⟨.unrepresentableLock, field, entityId, "instant is invalid"⟩
  | .fraction =>
    ⟨.unrepresentableLock, field, entityId, "instant must have whole-second precision"⟩

/-- `_utc_second` -/
def utcSecond (value : Json) (field entityId : String) : Projecting Moment :=
  orReject (utcFailure field entityId) (utcMomentOf value)

/-- Two moments are compared; without one of the offsets that raises. -/
def comparable (a b : Moment) : Projecting Unit := require (a.aware = b.aware) .typeError

/-! ### The base schedule -/

/-- `str(document.get(key, default))` -/
def textOr (document : Json) (key default : String) : String :=
  if key ∈ document.keys then
    match document.get key with
    | .str id => id
    | .null => "None"
    | .bool value => if value then "True" else "False"
    | value => value.dumps
  else default

def scheduleIdText (base : Json) : String := textOr base "schedule_version_id" "<base>"

section
variable (otherDocument : String → Json → Except P4ContractError Unit)

/-- The immutable contract of the version that a base schedule names. -/
def requireBaseContract (base : Json) : Projecting Unit :=
  let failed := fun field =>
    (⟨.invalidBaseSchedule, field, scheduleIdText base,
      "base ScheduleVersion failed its immutable contract"⟩ : FreezeProjectionError)
  let version := base.get "schedule_version_version"
  if version.pyEq (.str "schedule-version.v1") then
    orReject (fun e => failed e.field) (requireWorkspaceSchedule base)
  else if version.pyEq (.str "schedule-version.v2") then
    orReject (fun e => failed e.field) (discard (requireP4Document otherDocument base))
  else
    .error (.rejected ⟨.invalidBaseSchedule, "base_schedule.schedule_version_version",
      scheduleIdText base, "only immutable schedule-version.v1/v2 are supported"⟩)

/-- `_require_base_schedule` -/
def requireBaseSchedule (base : Json) : Projecting Unit := do
  requireBaseContract otherDocument base
  let scheduleId ← identifier (base.get "schedule_version_id") "base_schedule.schedule_version_id"
  require ((base.get "state").pyEq (.str "PUBLISHED") = true)
    (.rejected ⟨.invalidBaseSchedule, "base_schedule.state", scheduleId,
      "freeze projection requires an exact PUBLISHED base"⟩)
  require ((base.get "data_plane").pyEq (.str "SIMULATION") = true ∧
      base.get "synthetic" matches .bool true ∧
      IsolatedEnvironment (base.get "environment"))
    (.rejected ⟨.planeMismatch, "base_schedule.data_plane", scheduleId,
      "P4-05 is authorized only for isolated Simulation evidence"⟩)

end

/-- One assignment of `_assignment_index`, the operations before it being `seen`. -/
def indexAssignment (scheduleId : String) (tickSeconds : Int) (index : Nat)
    (seen : List String) (raw : Json) : Projecting BaseAssignment := do
  let path := s!"base_schedule.content.assignments[{index}]"
  let raw ← mapping raw path scheduleId
  let operationId ← identifier (raw.get "operation_id") s!"{path}.operation_id" scheduleId
  require (SameSet raw.keys assignmentFields)
    (.rejected ⟨.invalidBaseSchedule, path, operationId,
      "assignment fields differ from the frozen ScheduleVersion contract"⟩)
  require (operationId ∉ seen)
    (.rejected ⟨.duplicateOperation, "base_schedule.content.assignments", operationId,
      "base operation must appear exactly once"⟩)
  let _ ← identifier (raw.get "resource_id") "assignment.resource_id" operationId
  let start ← utcSecond (raw.get "start_at_utc") "assignment.start_at_utc" operationId
  let stop ← utcSecond (raw.get "end_at_utc") "assignment.end_at_utc" operationId
  let durationSeconds ←
    integer (raw.get "duration_seconds") "assignment.duration_seconds" operationId 1
  let startTick ← integer (raw.get "start_tick") "assignment.start_tick" operationId
  let endTick ← integer (raw.get "end_tick") "assignment.end_tick" operationId 1
  let ticks ← integer (raw.get "duration_ticks") "assignment.duration_ticks" operationId 1
  comparable start stop
  require (start.instant < stop.instant ∧
      wholeSeconds (stop.instant.sub start.instant) = ticks * tickSeconds)
    (.rejected ⟨.invalidBaseSchedule, "assignment.duration_seconds", operationId,
      "UTC assignment interval and duration diverge"⟩)
  require (endTick - startTick = ticks ∧ ticks = durationTicks durationSeconds tickSeconds)
    (.rejected ⟨.invalidBaseSchedule, "assignment.duration_ticks", operationId,
      "tick assignment interval and duration diverge"⟩)
  return readAssignment raw operationId durationSeconds startTick endTick ticks

/-- `_assignment_index` -/
def assignmentIndex (base : Json) (tickSeconds : Int) : Projecting (List BaseAssignment) := do
  let scheduleId := (base.get "schedule_version_id").text
  let content ← mapping (base.get "content") "base_schedule.content" scheduleId
  let assignments ←
    sequence (content.get "assignments") "base_schedule.content.assignments" scheduleId
  indexAssignments (indexAssignment scheduleId tickSeconds) 0 [] assignments

/-! ### Protected tuples -/

/-- `_resource_durations` -/
def resourceDuration (operation : Problem.OperationInstance) (resourceId : String) : Option Int :=
  (dictGet Problem.ResourceOption.resourceId operation.resourceOptions resourceId).map
    Problem.ResourceOption.finalDurationSeconds

/-- The duration a protected operation must take on a resource. -/
def expectedSeconds (operation : Problem.OperationInstance) (resourceId : String) : Option Int :=
  (resourceDuration operation resourceId).map fun duration =>
    if operation.status = .running then operation.remainingSeconds.getD 0 else duration

/-- The grid of the new problem. -/
structure Grid where
  cutoff : Moment
  horizonEnd : Moment
  tickSeconds : Int

/-- `_require_grid_tuple` -/
def requireGridTuple (operationId : String) (value : ProtectedTuple)
    (operation : Problem.OperationInstance) (grid : Grid) (failure : FreezeProjectionFailure) :
    Projecting Unit := do
  let start ← utcSecond (.str value.startAtUtc) "lock.start_at_utc" operationId
  let stop ← utcSecond (.str value.endAtUtc) "lock.end_at_utc" operationId
  let outside : Raised FreezeProjectionError :=
    .rejected ⟨failure, "lock.interval", operationId,
      "protected interval must remain wholly inside the new Problem horizon"⟩
  comparable start grid.cutoff
  require (grid.cutoff.instant ≤ start.instant) outside
  comparable stop grid.horizonEnd
  require (stop.instant ≤ grid.horizonEnd.instant ∧ start.instant < stop.instant) outside
  let startOffset := wholeSeconds (start.instant.sub grid.cutoff.instant)
  let endOffset := wholeSeconds (stop.instant.sub grid.cutoff.instant)
  require (startOffset % grid.tickSeconds = 0 ∧ endOffset % grid.tickSeconds = 0)
    (.rejected ⟨.unrepresentableLock, "lock.interval", operationId,
      "protected tuple is not exactly representable on the new Problem grid"⟩)
  match expectedSeconds operation value.resourceId with
  | none =>
    .error (.rejected ⟨failure, "lock.resource_id", operationId,
      "protected resource is not a candidate in the new Problem"⟩)
  | some expected => do
    let ticks ← orOverflow (ceilQuotient expected.toNat grid.tickSeconds.toNat)
    require (endOffset - startOffset = ticks * grid.tickSeconds)
      (.rejected ⟨failure, "lock.interval", operationId,
        "protected tuple conflicts with authoritative selected duration"⟩)

/-! ### The problem against the snapshot -/

def requireSameOperation (instances : List OperationInstance)
    (operation : Problem.OperationInstance) : Projecting Unit :=
  match dictGet OperationInstance.operationInstanceId instances operation.operationId with
  | none => .error .keyError
  | some o => do
    require (SharedFieldsEqual operation o)
      (.rejected ⟨.lineageMismatch, "problem.operation_instances", operation.operationId,
        "Problem operation facts differ from the exact Snapshot projection"⟩)
    require (sortByKey Problem.ResourceOption.resourceId operation.resourceOptions =
        snapshotOptionProjection o)
      (.rejected ⟨.lineageMismatch, "problem.operation_instances.resource_options",
        operation.operationId,
        "Problem resource options differ from the exact Snapshot projection"⟩)

/-- The lock of one id, unless it has expired at the cutoff. -/
def expectedLock (records : CanonicalRecords) (cutoff : Moment) (operationId lockId : String) :
    Projecting (List Problem.OperationLock) :=
  match records.lock? lockId with
  | none => .error .keyError
  | some lock => do
    let stop ← utcSecond (.str lock.endAtUtc) "lock.end_at_utc" lockId
    comparable stop cutoff
    return if stop.instant ≤ cutoff.instant then [] else [activeLock operationId lock]

def expectedLocksOf (records : CanonicalRecords) (instances : List OperationInstance)
    (cutoff : Moment) (operationId : String) : Projecting (List Problem.OperationLock) :=
  match dictGet OperationInstance.operationInstanceId instances operationId with
  | none => .error .keyError
  | some o => do
    return (← collect (expectedLock records cutoff operationId) o.lockIds).flatten

/-- `_require_problem_snapshot_projection` -/
def requireProblemSnapshotProjection (snapshot : PlanningSnapshot) (problem : PlanningProblem)
    (cutoff : Moment) : Projecting Unit := do
  forEach (fun _ operation => requireSameOperation snapshot.operationInstances operation)
    problem.operationInstances
  let expected ←
    collect (expectedLocksOf snapshot.records snapshot.operationInstances cutoff)
      (sortByKey id (problem.operationInstances.map Problem.OperationInstance.operationId))
  require (sortByKey Problem.OperationLock.lockId problem.operationLocks =
      sortByKey Problem.OperationLock.lockId expected.flatten)
    (.rejected ⟨.lineageMismatch, "problem.operation_locks", problem.problemHash,
      "Problem locks differ from the exact active Snapshot lock projection"⟩)

/-! ### Facts -/

/-- A completed instance with the fact that says so. -/
def completedFact (records : CanonicalRecords) (o : OperationInstance) :
    Projecting (String × ExecutionFactRecord × Protection) :=
  match o.executionFactId with
  | none =>
    .error (.rejected ⟨.lineageMismatch, "snapshot.operation_instances.execution_fact_id",
      o.operationInstanceId, "COMPLETED operation lacks an authoritative execution fact"⟩)
  | some factId =>
    match records.fact? factId with
    | none =>
      .error (.rejected ⟨.lineageMismatch, "snapshot.records.execution_facts",
        o.operationInstanceId, "COMPLETED operation fact reference is missing or non-terminal"⟩)
    | some fact => do
      require (fact.status = .completed)
        (.rejected ⟨.lineageMismatch, "snapshot.records.execution_facts",
          o.operationInstanceId,
          "COMPLETED operation fact reference is missing or non-terminal"⟩)
      return (o.operationInstanceId, fact, completedProtection o.operationInstanceId fact factId)

def requireAnchor (problem : PlanningProblem)
    (completed : List (String × ExecutionFactRecord × Protection)) (operationId : String) :
    Projecting Unit :=
  match dictGet Problem.HistoricalCompletionAnchor.operationId
      problem.historicalCompletionAnchors operationId, dictGet Prod.fst completed operationId with
  | some anchor, some (_, fact, _) =>
    require (anchor = historicalAnchor operationId fact)
      (.rejected ⟨.lineageMismatch, "problem.historical_completion_anchors", operationId,
        "historical completion anchor bytes differ from Snapshot authority"⟩)
  | _, _ => .error .keyError

/-- The historical anchors are exactly the completed predecessors of active operations. -/
def requireAnchors (snapshot : PlanningSnapshot) (problem : PlanningProblem)
    (completed : List (String × ExecutionFactRecord × Protection)) : Projecting Unit := do
  let required :=
    requiredAnchorIds snapshot.operationPrecedenceEdges (completed.map Prod.fst)
      (problem.operationInstances.map Problem.OperationInstance.operationId)
  require (SameSet (problem.historicalCompletionAnchors.map
      Problem.HistoricalCompletionAnchor.operationId) required)
    (.rejected ⟨.lineageMismatch, "problem.historical_completion_anchors", problem.problemHash,
      "historical anchor universe differs from the exact Snapshot projection"⟩)
  forEach (fun _ operationId => requireAnchor problem completed operationId)
    (sortByKey id required)

/-- The fact that keeps a running operation where it is. -/
def runningOperation (snapshot : PlanningSnapshot) (grid : Grid)
    (operation : Problem.OperationInstance) : Projecting Protection := do
  let noAuthority : Raised FreezeProjectionError :=
    .rejected ⟨.lineageMismatch, "snapshot.records.execution_facts", operation.operationId,
      "RUNNING Problem tuple lacks exact Snapshot execution authority"⟩
  match dictGet OperationInstance.operationInstanceId snapshot.operationInstances
    operation.operationId with
  | none => .error .keyError
  | some o =>
    match o.executionFactId with
    | none => .error noAuthority
    | some factId =>
      match snapshot.records.fact? factId with
      | none => .error noAuthority
      | some fact => do
        require (o.status = .running ∧ fact.status = .running ∧
            fact.resourceId = operation.assignedResourceId ∧
            fact.remainingSeconds = operation.remainingSeconds) noAuthority
        let remaining := operation.remainingSeconds.getD 0
        let ticks ← orOverflow (ceilQuotient remaining.toNat grid.tickSeconds.toNat)
        let stop ← orOverflow (grid.cutoff.instant.addSeconds (ticks * grid.tickSeconds))
        let tuple : ProtectedTuple :=
          ⟨operation.assignedResourceId.getD "", snapshot.cutoffAtUtc,
            formatMoment ⟨stop, grid.cutoff.aware⟩⟩
        requireGridTuple operation.operationId tuple operation grid .factLockConflict
        return runningProtection operation.operationId tuple fact factId

/-! ### Locks -/

/-- The explicit locks met so far. -/
structure ExplicitLocks where
  hard : List Protection
  soft : List Protection
  tuples : List (String × ProtectedTuple)

def explicitLock (problem : PlanningProblem) (grid : Grid) (state : ExplicitLocks)
    (lock : Problem.OperationLock) : Projecting ExplicitLocks :=
  match dictGet Problem.OperationInstance.operationId problem.operationInstances
    lock.operationId with
  | none => .error .keyError
  | some operation =>
    if lock.lockType = .softLock then
      .ok { state with soft := state.soft ++ [lockProtection "SOFT_LOCK" 4 lock] }
    else do
      let value := lockTuple lock
      requireGridTuple lock.operationId value operation grid .hardLockConflict
      require (∀ previous ∈ dictGet Prod.fst state.tuples lock.operationId, previous.2 = value)
        (.rejected ⟨.hardLockConflict, "problem.operation_locks", lock.operationId,
          "multiple explicit HARD locks disagree"⟩)
      return { state with
        hard := state.hard ++ [lockProtection "EXPLICIT_HARD_LOCK" 2 lock]
        tuples := state.tuples ++ [(lock.operationId, value)] }

/-- An explicit hard lock of a running operation holds it where its fact does. -/
def requireRunningTuple (running : List Protection) (hard : String × ProtectedTuple) :
    Projecting Unit :=
  require (∀ protection ∈ dictGet Protection.operationId running hard.1,
      hard.2 = protection.tuple)
    (.rejected ⟨.factLockConflict, "problem.operation_locks", hard.1,
      "explicit HARD lock conflicts with authoritative RUNNING tuple"⟩)

/-- What the base schedule leaves: derived locks inside the window, operations outside. -/
structure WindowLocks where
  derived : List DerivedLock
  outside : List String

/-- The inputs of the last loop of the projector. -/
structure WindowInputs where
  problem : PlanningProblem
  completed : List String
  tuples : List (String × ProtectedTuple)
  base : BaseReference
  resolved : ResolvedFreezePolicy
  grid : Grid
  freezeEnd : Moment

def windowAssignment (w : WindowInputs) (state : WindowLocks) (assignment : BaseAssignment) :
    Projecting WindowLocks := do
  let operationId := assignment.operationId
  let operation :=
    dictGet Problem.OperationInstance.operationId w.problem.operationInstances operationId
  if operationId ∈ w.completed ∨ (∃ o ∈ operation, o.status = .running) then return state
  else
    match operation with
    | none =>
      .error (.rejected ⟨.staleBase, "base_schedule.content.assignments", operationId,
        "missing active operation has no authoritative COMPLETED fact"⟩)
    | some operation => do
      let start ←
        utcSecond (.str assignment.startAtUtc) "assignment.start_at_utc" operationId
      comparable start w.grid.cutoff
      require (w.grid.cutoff.instant ≤ start.instant)
        (.rejected ⟨.staleBase, "assignment.start_at_utc", operationId,
          "pre-cutoff NOT_STARTED assignment lacks RUNNING/COMPLETED authority"⟩)
      comparable start w.freezeEnd
      if w.freezeEnd.instant ≤ start.instant then
        return { state with outside := state.outside ++ [operationId] }
      else
        let value := assignment.tuple
        requireGridTuple operationId value operation w.grid .freezeLockConflict
        require (∀ explicit ∈ dictGet Prod.fst w.tuples operationId, explicit.2 = value)
          (.rejected ⟨.freezeLockConflict, "freeze_derived_hard_locks", operationId,
            "freeze-derived tuple conflicts with explicit HARD lock"⟩)
        return { state with
          derived := state.derived ++
            [derivedLock operationId value w.base w.problem.problemHash
              w.resolved.freezePolicyFingerprint w.resolved.freezePolicyId] }

/-! ### Classification -/

/-- What has been read and resolved before anything is classified. -/
structure Inputs where
  snapshot : ImmutablePlanningSnapshot
  problem : ImmutablePlanningProblemV2
  base : BaseReference
  resolved : ResolvedFreezePolicy
  cutoff : Moment
  freezeEnd : Moment
  horizonEnd : Moment
  assignments : List BaseAssignment

def Inputs.activeIds (i : Inputs) : List String :=
  i.problem.document.operationInstances.map Problem.OperationInstance.operationId

/-- The instances of the snapshot that are not completed. -/
def Inputs.expectedActiveIds (i : Inputs) : List String :=
  (i.snapshot.document.operationInstances.filter fun o => o.status ≠ .completed).map
    OperationInstance.operationInstanceId

def Inputs.completedInstances (i : Inputs) : List OperationInstance :=
  (sortByKey OperationInstance.operationInstanceId i.snapshot.document.operationInstances).filter
    fun o => o.status = .completed

def Inputs.runningOperations (i : Inputs) : List Problem.OperationInstance :=
  (sortByKey Problem.OperationInstance.operationId i.problem.document.operationInstances).filter
    fun o => o.status = .running

def Inputs.grid (i : Inputs) : Grid :=
  ⟨i.cutoff, i.horizonEnd, i.problem.document.tickSeconds⟩

/-- The document of classified facts and locks, in its canonical order. -/
def Inputs.document (i : Inputs) (completed : List (String × ExecutionFactRecord × Protection))
    (running : List Protection) (locks : ExplicitLocks) (window : WindowLocks) :
    EffectiveLocks :=
  let baseIds := sortByKey id (i.assignments.map BaseAssignment.operationId)
  let activeIds := sortByKey id i.activeIds
  { base := i.base
    snapshotId := i.snapshot.snapshotId
    snapshotHash := i.snapshot.snapshotHash
    problemHash := i.problem.problemHash
    resolved := i.resolved
    baseAssignmentOperationIds := baseIds
    newActiveOperationIds := activeIds
    completedOperationIds := sortByKey id (completed.map Prod.fst)
    completedProtections := sortByKey Protection.operationId (completed.map fun c => c.2.2)
    addedOperationIds := activeIds.filter (· ∉ baseIds)
    outsideFreezeOperationIds := sortByKey id window.outside
    runningProtections := sortByKey Protection.operationId running
    explicitHardLocks := sortByKey Protection.referenceId locks.hard
    freezeDerivedHardLocks := sortByKey DerivedLock.lockId window.derived
    softLocks := sortByKey Protection.referenceId locks.soft }

/-- The part of `project_effective_locks` behind the reading of its inputs. -/
def classify (i : Inputs) : Projecting EffectiveLocks := do
  let document := i.snapshot.document
  let p := i.problem.document
  require (SameSet i.activeIds i.expectedActiveIds)
    (.rejected ⟨.lineageMismatch, "problem.operation_instances", i.problem.problemHash,
      "new Problem active operation universe differs from the exact Snapshot facts"⟩)
  requireProblemSnapshotProjection document p i.cutoff
  let completed ← collect (completedFact document.records) i.completedInstances
  requireAnchors document p completed
  let running ← collect (runningOperation document i.grid) i.runningOperations
  let locks ← p.operationLocks.foldlM (explicitLock p i.grid) ⟨[], [], []⟩
  forEach (fun _ hard => requireRunningTuple running hard) locks.tuples
  let window ←
    (sortByKey BaseAssignment.operationId i.assignments).foldlM
      (windowAssignment
        ⟨p, completed.map Prod.fst, locks.tuples, i.base, i.resolved, i.grid, i.freezeEnd⟩)
      ⟨[], []⟩
  return i.document completed running locks window

/-- The policy's own failure, as the projector reports it. -/
def policyRejected (policy : Json) : Raised FreezePolicyError → Raised FreezeProjectionError
  | .rejected e =>
    .rejected ⟨.policyRejected, e.field, textOr policy "policy_id" "<policy>",
      "freeze policy could not be resolved"⟩
  | .overflowError => .overflowError
  | .typeError => .typeError
  | .keyError => .keyError
  | .valueError => .valueError

end Projector

/-! ### The projector -/

open Projector in
/-- `project_effective_locks` -/
def projectEffectiveLocks (otherDocument : String → Json → Except P4ContractError Unit)
    (snapshot : ImmutablePlanningSnapshot) (problem : ImmutablePlanningProblemV2) (base : Json)
    (policy : Json) : Projecting EffectiveLocks := do
  orReject
    (fun e => (⟨.invalidSnapshot, e.field, snapshot.snapshotId,
      "new Snapshot failed immutable verification"⟩ : FreezeProjectionError))
    (verifySnapshot snapshot)
  orReject
    (fun e => (⟨.invalidProblem, e.field, problem.snapshotId,
      "new PlanningProblem v2 failed immutable verification"⟩ : FreezeProjectionError))
    (verifyProblemV2 problem)
  requireBaseSchedule otherDocument base
  let resolved ←
    (resolveSimulationFreezePolicy otherDocument policy snapshot).mapError (policyRejected policy)
  let document := snapshot.document
  let p := problem.document
  require (snapshot.dataPlane = .simulation)
    (.rejected ⟨.planeMismatch, "snapshot.data_plane", snapshot.snapshotId,
      "effective lock projection is Simulation-only"⟩)
  require (p.snapshotId = snapshot.snapshotId ∧ p.horizonStartUtc = document.cutoffAtUtc)
    (.rejected ⟨.lineageMismatch, "problem.snapshot_id/horizon_start_utc", problem.problemHash,
      "new Problem is not the exact solver-neutral projection of this Snapshot cutoff"⟩)
  let cutoff ←
    utcSecond (.str document.cutoffAtUtc) "snapshot.cutoff_at_utc" snapshot.snapshotId
  let freezeEnd ←
    utcSecond (.str resolved.effectiveUntilUtc) "freeze.effective_until_utc"
      resolved.freezePolicyId
  let horizonEnd ←
    utcSecond (.str p.horizonEndUtc) "problem.horizon_end_utc" problem.problemHash
  let assignments ← assignmentIndex base p.tickSeconds
  classify
    ⟨snapshot, problem, baseReference base, resolved, cutoff, freezeEnd, horizonEnd, assignments⟩

end PlantNexus.Freeze
