import PlantNexus.Freeze.Projection

/-! `validate_freeze_window_projection`: the independent precheck of a projection.

The precheck recomputes the expected document from the same inputs without the
projector. It reads a base assignment by its duration in seconds, where the projector
reads it by its ticks; everything else it recomputes the same way, and a projection
passes when every compared field and both fingerprints agree. -/
namespace PlantNexus.Freeze
open Data Time Domain Snapshot
open Problem (ImmutablePlanningProblemV2 verifyProblemV2 PlanningProblem)

structure FreezePrecheckInputError where
  reason : String
  field : String
  entityId : String
deriving DecidableEq, Repr

/-- What the precheck raises. -/
abbrev Prechecking (α : Type) := Except (Raised FreezePrecheckInputError) α

namespace Precheck
open Projector (Grid ExplicitLocks WindowLocks WindowInputs Inputs textOr expectedSeconds)

/-! ### Values -/

def inputError (reason field entityId : String) : Raised FreezePrecheckInputError :=
  .rejected ⟨reason, field, entityId⟩

def utcFailure (field entityId : String) : UtcFault → FreezePrecheckInputError
  | .notUtc => ⟨"INVALID_UTC", field, entityId⟩
  | .invalid => ⟨"INVALID_UTC", field, entityId⟩
  | .fraction => ⟨"INVALID_UTC_PRECISION", field, entityId⟩

/-- `_utc` -/
def utc (value : Json) (field entityId : String) : Prechecking Moment :=
  orReject (utcFailure field entityId) (utcMomentOf value)

def comparable (a b : Moment) : Prechecking Unit := require (a.aware = b.aware) .typeError

/-- `_as_mapping` -/
def asMapping (value : Json) (field : String) : Prechecking Json := do
  require (value.isObj = true) (inputError "INVALID_SHAPE" field "<input>")
  return value

/-- `_as_list` -/
def asList (value : Json) (field : String) : Prechecking (List Json) :=
  match value with
  | .arr items => .ok items
  | _ => .error (inputError "INVALID_SHAPE" field "<input>")

/-! ### The base schedule -/

/-- An integer that is at least `minimum`. -/
def intAtLeast (minimum : Int) (value : Json) : Option Int :=
  match value with
  | .int n => if minimum ≤ n then some n else none
  | _ => none

/-- One assignment of `_base_assignments`, the operations before it being `seen`. -/
def baseAssignment (scheduleId : String) (index : Nat) (seen : List String) (raw : Json) :
    Prechecking BaseAssignment := do
  let raw ← asMapping raw s!"base.content.assignments[{index}]"
  match raw.get "operation_id" with
  | .str operationId => do
    require (operationId ≠ "")
      (inputError "INVALID_ASSIGNMENT" "assignment.operation_id" scheduleId)
    require (SameSet raw.keys assignmentFields)
      (inputError "INVALID_ASSIGNMENT" s!"base.content.assignments[{index}]" operationId)
    require (operationId ∉ seen)
      (inputError "DUPLICATE_OPERATION" "base.content.assignments" operationId)
    let start ← utc (raw.get "start_at_utc") "assignment.start_at_utc" operationId
    let stop ← utc (raw.get "end_at_utc") "assignment.end_at_utc" operationId
    let invalid := inputError "INVALID_ASSIGNMENT" "assignment.duration_seconds" operationId
    match intAtLeast 1 (raw.get "duration_seconds"), intAtLeast 0 (raw.get "start_tick"),
      intAtLeast 1 (raw.get "end_tick"), intAtLeast 1 (raw.get "duration_ticks") with
    | some duration, some startTick, some endTick, some ticks => do
      comparable start stop
      require (start.instant < stop.instant ∧
        wholeSeconds (stop.instant.sub start.instant) = duration ∧
        endTick - startTick = ticks) invalid
      return readAssignment raw operationId duration startTick endTick ticks
    | _, _, _, _ => .error invalid
  | _ => .error (inputError "INVALID_ASSIGNMENT" "assignment.operation_id" scheduleId)

section
variable (otherDocument : String → Json → Except P4ContractError Unit)

/-- The immutable contract of the version that a base schedule names. -/
def requireBaseContract (base : Json) : Prechecking Unit :=
  let failed := fun field =>
    (⟨"INVALID_BASE_SCHEDULE", field, Projector.scheduleIdText base⟩ : FreezePrecheckInputError)
  let version := base.get "schedule_version_version"
  if version.pyEq (.str "schedule-version.v1") then
    orReject (fun e => failed e.field) (requireWorkspaceSchedule base)
  else if version.pyEq (.str "schedule-version.v2") then
    orReject (fun e => failed e.field) (discard (requireP4Document otherDocument base))
  else
    .error (inputError "UNSUPPORTED_BASE_VERSION" "base.schedule_version_version" "<base>")

/-- `_base_assignments` -/
def baseAssignments (base : Json) : Prechecking (List BaseAssignment) := do
  requireBaseContract otherDocument base
  let scheduleId := Projector.scheduleIdText base
  require ((base.get "state").pyEq (.str "PUBLISHED") = true)
    (inputError "BASE_NOT_PUBLISHED" "base.state" scheduleId)
  require ((base.get "data_plane").pyEq (.str "SIMULATION") = true ∧
      base.get "synthetic" matches .bool true ∧
      IsolatedEnvironment (base.get "environment"))
    (inputError "PLANE_MISMATCH" "base.data_plane" scheduleId)
  let content ← asMapping (base.get "content") "base.content"
  let assignments ← asList (content.get "assignments") "base.content.assignments"
  indexAssignments (baseAssignment scheduleId) 0 [] assignments

end

/-! ### Protected tuples -/

/-- `_require_protected_tuple`; a resource that is no text is no candidate either. -/
def requireProtectedTuple (operationId : String) (resourceId : Json)
    (startAtUtc endAtUtc : String) (operation : Problem.OperationInstance) (grid : Grid)
    (reason : String) : Prechecking Unit := do
  let start ← utc (.str startAtUtc) "protected.start_at_utc" operationId
  let stop ← utc (.str endAtUtc) "protected.end_at_utc" operationId
  let outside := inputError reason "protected.interval" operationId
  comparable start grid.cutoff
  require (grid.cutoff.instant ≤ start.instant) outside
  comparable stop grid.horizonEnd
  require (stop.instant ≤ grid.horizonEnd.instant ∧ start.instant < stop.instant) outside
  let startSeconds := wholeSeconds (start.instant.sub grid.cutoff.instant)
  let endSeconds := wholeSeconds (stop.instant.sub grid.cutoff.instant)
  require (startSeconds % grid.tickSeconds = 0 ∧ endSeconds % grid.tickSeconds = 0)
    (inputError "UNREPRESENTABLE_LOCK" "protected.interval" operationId)
  match resourceId with
  | .arr _ => .error .typeError
  | .obj _ => .error .typeError
  | .str resourceId =>
    match expectedSeconds operation resourceId with
    | none => .error (inputError reason "protected.resource_id" operationId)
    | some duration => do
      let ticks ← orOverflow (ceilQuotient duration.toNat grid.tickSeconds.toNat)
      require (endSeconds - startSeconds = ticks * grid.tickSeconds)
        (inputError reason "protected.interval" operationId)
  | _ => .error (inputError reason "protected.resource_id" operationId)

/-! ### The problem against the snapshot -/

def requireSameOperation (instances : List OperationInstance)
    (operation : Problem.OperationInstance) : Prechecking Unit :=
  match dictGet OperationInstance.operationInstanceId instances operation.operationId with
  | none => .error .keyError
  | some o => do
    require (SharedFieldsEqual operation o)
      (inputError "LINEAGE_MISMATCH" "problem.operation_instances" operation.operationId)
    require (sortByKey Problem.ResourceOption.resourceId operation.resourceOptions =
        snapshotOptionProjection o)
      (inputError "LINEAGE_MISMATCH" "problem.operation_instances.resource_options"
        operation.operationId)

def expectedLock (records : CanonicalRecords) (cutoff : Moment) (operationId lockId : String) :
    Prechecking (List Problem.OperationLock) :=
  match records.lock? lockId with
  | none => .error .keyError
  | some lock => do
    let stop ← utc (.str lock.endAtUtc) "lock.end_at_utc" lockId
    comparable stop cutoff
    return if stop.instant ≤ cutoff.instant then [] else [activeLock operationId lock]

def expectedLocksOf (records : CanonicalRecords) (instances : List OperationInstance)
    (cutoff : Moment) (operationId : String) : Prechecking (List Problem.OperationLock) :=
  match dictGet OperationInstance.operationInstanceId instances operationId with
  | none => .error .keyError
  | some o => do
    return (← collect (expectedLock records cutoff operationId) o.lockIds).flatten

/-- `_require_snapshot_problem_equivalence` -/
def requireSnapshotProblemEquivalence (snapshot : PlanningSnapshot) (problem : PlanningProblem)
    (cutoff : Moment) : Prechecking Unit := do
  forEach (fun _ operation => requireSameOperation snapshot.operationInstances operation)
    problem.operationInstances
  let expected ←
    collect (expectedLocksOf snapshot.records snapshot.operationInstances cutoff)
      (sortByKey id (problem.operationInstances.map Problem.OperationInstance.operationId))
  require (sortByKey Problem.OperationLock.lockId problem.operationLocks =
      sortByKey Problem.OperationLock.lockId expected.flatten)
    (inputError "LINEAGE_MISMATCH" "problem.operation_locks" problem.problemHash)

/-! ### Facts -/

def completedFact (records : CanonicalRecords) (o : OperationInstance) :
    Prechecking (String × ExecutionFactRecord × Protection) := do
  let missing :=
    inputError "MISSING_COMPLETED_AUTHORITY" "snapshot.records.execution_facts"
      o.operationInstanceId
  match o.executionFactId with
  | none => .error missing
  | some factId =>
    match records.fact? factId with
    | none => .error missing
    | some fact => do
      require (fact.status = .completed) missing
      return (o.operationInstanceId, fact, completedProtection o.operationInstanceId fact factId)

def requireAnchor (problem : PlanningProblem)
    (completed : List (String × ExecutionFactRecord × Protection)) (operationId : String) :
    Prechecking Unit :=
  match dictGet Problem.HistoricalCompletionAnchor.operationId
      problem.historicalCompletionAnchors operationId, dictGet Prod.fst completed operationId with
  | some anchor, some (_, fact, _) =>
    require (anchor = historicalAnchor operationId fact)
      (inputError "LINEAGE_MISMATCH" "problem.historical_completion_anchors" operationId)
  | _, _ => .error .keyError

def requireAnchors (snapshot : PlanningSnapshot) (problem : PlanningProblem)
    (completed : List (String × ExecutionFactRecord × Protection)) : Prechecking Unit := do
  let required :=
    requiredAnchorIds snapshot.operationPrecedenceEdges (completed.map Prod.fst)
      (problem.operationInstances.map Problem.OperationInstance.operationId)
  require (SameSet (problem.historicalCompletionAnchors.map
      Problem.HistoricalCompletionAnchor.operationId) required)
    (inputError "LINEAGE_MISMATCH" "problem.historical_completion_anchors" problem.problemHash)
  forEach (fun _ operationId => requireAnchor problem completed operationId)
    (sortByKey id required)

def runningOperation (snapshot : PlanningSnapshot) (grid : Grid)
    (operation : Problem.OperationInstance) : Prechecking Protection := do
  let missing :=
    inputError "MISSING_RUNNING_AUTHORITY" "snapshot.records.execution_facts"
      operation.operationId
  match dictGet OperationInstance.operationInstanceId snapshot.operationInstances
    operation.operationId with
  | none => .error .keyError
  | some o =>
    match o.executionFactId with
    | none => .error missing
    | some factId =>
      match snapshot.records.fact? factId with
      | none => .error missing
      | some fact => do
        require (o.status = .running ∧ fact.status = .running ∧
            fact.resourceId = operation.assignedResourceId ∧
            fact.remainingSeconds = operation.remainingSeconds) missing
        let remaining := operation.remainingSeconds.getD 0
        let ticks ← orOverflow (ceilQuotient remaining.toNat grid.tickSeconds.toNat)
        let stop ← orOverflow (grid.cutoff.instant.addSeconds (ticks * grid.tickSeconds))
        let tuple : ProtectedTuple :=
          ⟨operation.assignedResourceId.getD "", snapshot.cutoffAtUtc,
            formatMoment ⟨stop, grid.cutoff.aware⟩⟩
        requireProtectedTuple operation.operationId (.str tuple.resourceId) tuple.startAtUtc
          tuple.endAtUtc operation grid "RUNNING_FACT_CONFLICT"
        return runningProtection operation.operationId tuple fact factId

/-! ### Locks -/

/-- The precheck writes a lock's kind and priority before it looks at its operation. -/
def explicitLock (problem : PlanningProblem) (grid : Grid) (state : ExplicitLocks)
    (lock : Problem.OperationLock) : Prechecking ExplicitLocks :=
  if lock.lockType = .softLock then
    .ok { state with soft := state.soft ++ [lockProtection "SOFT_LOCK" 4 lock] }
  else
    match dictGet Problem.OperationInstance.operationId problem.operationInstances
      lock.operationId with
    | none => .error .keyError
    | some operation => do
      let value := lockTuple lock
      requireProtectedTuple lock.operationId (.str value.resourceId) value.startAtUtc
        value.endAtUtc operation grid "HARD_LOCK_CONFLICT"
      require (∀ previous ∈ dictGet Prod.fst state.tuples lock.operationId, previous.2 = value)
        (inputError "HARD_LOCK_CONFLICT" "problem.operation_locks" lock.operationId)
      return { state with
        hard := state.hard ++ [lockProtection "EXPLICIT_HARD_LOCK" 2 lock]
        tuples := state.tuples ++ [(lock.operationId, value)] }

def requireRunningTuple (running : List Protection) (hard : String × ProtectedTuple) :
    Prechecking Unit :=
  require (∀ protection ∈ dictGet Protection.operationId running hard.1,
      hard.2 = protection.tuple)
    (inputError "FACT_LOCK_CONFLICT" "problem.operation_locks" hard.1)

def windowAssignment (w : WindowInputs) (state : WindowLocks) (assignment : BaseAssignment) :
    Prechecking WindowLocks := do
  let operationId := assignment.operationId
  let operation :=
    dictGet Problem.OperationInstance.operationId w.problem.operationInstances operationId
  if operationId ∈ w.completed ∨ (∃ o ∈ operation, o.status = .running) then return state
  else
    match operation with
    | none => .error (inputError "STALE_BASE" "base.content.assignments" operationId)
    | some operation => do
      let start ← utc (.str assignment.startAtUtc) "assignment.start_at_utc" operationId
      comparable start w.grid.cutoff
      require (w.grid.cutoff.instant ≤ start.instant)
        (inputError "STALE_BASE" "assignment.start_at_utc" operationId)
      comparable start w.freezeEnd
      if w.freezeEnd.instant ≤ start.instant then
        return { state with outside := state.outside ++ [operationId] }
      else
        requireProtectedTuple operationId assignment.resourceId assignment.startAtUtc
          assignment.endAtUtc operation w.grid "FREEZE_LOCK_CONFLICT"
        let observed := assignment.tuple
        require (∀ explicit ∈ dictGet Prod.fst w.tuples operationId, explicit.2 = observed)
          (inputError "FREEZE_LOCK_CONFLICT" "freeze_derived_hard_locks" operationId)
        return { state with
          derived := state.derived ++
            [derivedLock operationId observed w.base w.problem.problemHash
              w.resolved.freezePolicyFingerprint w.resolved.freezePolicyId] }

/-! ### The expected document -/

/-- The part of `_expected_projection` behind the reading of its inputs. -/
def classify (i : Inputs) : Prechecking EffectiveLocks := do
  let document := i.snapshot.document
  let p := i.problem.document
  require (SameSet i.activeIds i.expectedActiveIds)
    (inputError "LINEAGE_MISMATCH" "problem.operation_instances" i.problem.problemHash)
  requireSnapshotProblemEquivalence document p i.cutoff
  let completed ← collect (completedFact document.records) i.completedInstances
  requireAnchors document p completed
  let running ← collect (runningOperation document i.grid) i.runningOperations
  let locks ← p.operationLocks.foldlM (explicitLock p i.grid) ⟨[], [], []⟩
  forEach (fun _ hard => requireRunningTuple running hard) locks.tuples
  let window ←
    (sortByKey BaseAssignment.operationId i.assignments).foldlM
      (windowAssignment
        ⟨p, completed.map Prod.fst, locks.tuples, i.base, i.resolved, i.grid, i.freezeEnd⟩)
      ⟨[], []⟩
  return i.document completed running locks window

/-- The window of the policy. -/
def windowSeconds (policy : Json) : Prechecking Int :=
  match intAtLeast 1 ((policy.get "freeze_policy").get "window_seconds") with
  | some window => .ok window
  | none =>
    .error (inputError "INVALID_FREEZE_POLICY" "freeze.window_seconds"
      (textOr policy "policy_id" "None"))

/-- The references to the policy. It equals the approved one, so its source is the three
texts read here. -/
def policyResolution (policy : Json) (window : Int) (cutoffText : String) (freezeEnd : Moment) :
    ResolvedFreezePolicy :=
  let freeze := policy.get "freeze_policy"
  { policyId := (policy.get "policy_id").text
    policyRevision := (policy.get "policy_revision").text
    policyFingerprint := contractFingerprint policy
    freezePolicyId := (freeze.get "freeze_policy_id").text
    freezePolicyRevision := (freeze.get "freeze_policy_revision").text
    freezePolicyFingerprint := contractFingerprint freeze
    source := sourceOf (freeze.get "source")
    windowSeconds := window
    effectiveFromUtc := cutoffText
    effectiveUntilUtc := formatMoment freezeEnd }

/-- `_expected_projection` -/
def expectedProjection (otherDocument : String → Json → Except P4ContractError Unit)
    (snapshot : ImmutablePlanningSnapshot) (problem : ImmutablePlanningProblemV2) (base : Json)
    (policy : Json) : Prechecking EffectiveLocks := do
  let invalid := fun field =>
    (⟨"INVALID_AUTHORITATIVE_INPUT", field, snapshot.snapshotId⟩ : FreezePrecheckInputError)
  orReject (fun e => invalid e.field) (verifySnapshot snapshot)
  orReject (fun e => invalid e.field) (verifyProblemV2 problem)
  let _ ← orReject (fun e => invalid e.field) (requireP4Document otherDocument policy)
  require (snapshot.dataPlane = .simulation)
    (inputError "PLANE_MISMATCH" "snapshot.data_plane" snapshot.snapshotId)
  require (policy.pyEq simulationReplanPolicy = true)
    (inputError "UNAPPROVED_SIMULATION_POLICY" "policy" (textOr policy "policy_id" "None"))
  let document := snapshot.document
  let p := problem.document
  require (p.snapshotId = snapshot.snapshotId ∧ p.horizonStartUtc = document.cutoffAtUtc)
    (inputError "LINEAGE_MISMATCH" "problem.snapshot_id" problem.problemHash)
  let assignments ← baseAssignments otherDocument base
  let cutoff ← utc (.str document.cutoffAtUtc) "snapshot.cutoff_at_utc" snapshot.snapshotId
  let horizonEnd ← utc (.str p.horizonEndUtc) "problem.horizon_end_utc" problem.problemHash
  let window ← windowSeconds policy
  let stop ← orOverflow (cutoff.instant.addSeconds window)
  let freezeEnd : Moment := ⟨stop, cutoff.aware⟩
  let expected ←
    classify
      ⟨snapshot, problem, baseReference base,
        policyResolution policy window document.cutoffAtUtc freezeEnd, cutoff, freezeEnd,
        horizonEnd, assignments⟩
  -- `base["schedule_version_id"]`, read when the document is written
  require ("schedule_version_id" ∈ base.keys) .keyError
  return expected

end Precheck

/-! ### The report -/

def rootFields : List String :=
  ["effective_lock_projection_version", "canonicalization_version", "data_plane",
   "base_schedule_version", "new_snapshot", "new_problem", "planning_policy",
   "freeze_resolution", "base_assignment_operation_ids", "new_active_operation_ids",
   "completed_operation_ids", "completed_protections", "added_operation_ids",
   "outside_freeze_operation_ids", "running_protections", "explicit_hard_locks",
   "freeze_derived_hard_locks", "soft_locks", "projection_fingerprint"]

/-- `_violation` -/
structure PrecheckViolation where
  checkId : String
  field : String
  observedFingerprint : String
  expectedFingerprint : String
  message : String
deriving DecidableEq, Repr

def precheckViolation (checkId field : String) (observed expected : Json) : PrecheckViolation :=
  ⟨checkId, field, contractFingerprint (.obj [("value", observed)]),
    contractFingerprint (.obj [("value", expected)]),
    "effective-lock projection differs from independent recomputation"⟩

/-- A violation when two values differ. -/
def whenDifferent (checkId field : String) (observed expected : Json) : List PrecheckViolation :=
  if observed.pyEq expected then [] else [precheckViolation checkId field observed expected]

inductive PrecheckStatus where
  | pass
  | fail
deriving DecidableEq, Repr

def PrecheckStatus.text : PrecheckStatus → String
  | .pass => "PASS"
  | .fail => "FAIL"

structure PrecheckReport where
  reportId : String
  status : PrecheckStatus
  hardViolationCount : Int
  violations : List PrecheckViolation
  projectionFingerprint : Json
  expectedProjectionFingerprint : String

def PrecheckViolation.toJson (v : PrecheckViolation) : Json :=
  .obj
    [("check_id", .str v.checkId), ("field", .str v.field),
     ("observed_fingerprint", .str v.observedFingerprint),
     ("expected_fingerprint", .str v.expectedFingerprint), ("message", .str v.message)]

/-- A report, its identity derived from its content. -/
def precheckReport (violations : List PrecheckViolation) (projectionFingerprint : Json)
    (expectedFingerprint : String) : PrecheckReport :=
  let status : PrecheckStatus := if violations = [] then .pass else .fail
  let reportWithoutId : Json :=
    .obj
      [("freeze_window_precheck_version", .str "freeze-window-precheck.v1"),
       ("status", .str status.text),
       ("hard_violation_count", .int (violations.length : Int)),
       ("violations", .arr (violations.map PrecheckViolation.toJson)),
       ("projection_fingerprint", projectionFingerprint),
       ("expected_projection_fingerprint", .str expectedFingerprint),
       ("independence",
         .obj
           [("projector_imported", .bool false), ("cp_sat_imported", .bool false),
            ("formal_schedule_validator_modified", .bool false)])]
  ⟨"freeze-precheck-" ++ removeHashPrefix (contractFingerprint reportWithoutId), status,
    violations.length, violations, projectionFingerprint, expectedFingerprint⟩

/-- The violations of a projection against the expected document. -/
def projectionViolations (projection : List (String × Json)) (expected : EffectiveLocks) :
    List PrecheckViolation :=
  let value := Json.obj projection
  let fingerprint := value.get "projection_fingerprint"
  let withoutSelf := Json.obj (projection.filter fun m => m.1 ≠ "projection_fingerprint")
  (if SameSet value.keys rootFields then []
    else [precheckViolation "FREEZE-COMPLETENESS" "$" (.strings (sortByKey id value.keys))
      (.strings (sortByKey id rootFields))]) ++
  expected.checkedFields.flatMap (fun f => whenDifferent f.1 f.2.1 (value.get f.2.1) f.2.2) ++
  whenDifferent "FREEZE-VERSION" "header"
    (.obj (EffectiveLocks.header.map fun m => (m.1, value.get m.1)))
    (.obj EffectiveLocks.header) ++
  whenDifferent "FREEZE-IDENTITY" "projection_fingerprint" fingerprint
    (.str (contractFingerprint withoutSelf)) ++
  whenDifferent "FREEZE-IDENTITY" "projection_fingerprint.expected" fingerprint
    (.str expected.projectionFingerprint)

/-- `validate_freeze_window_projection` -/
def validateFreezeWindowProjection
    (otherDocument : String → Json → Except P4ContractError Unit)
    (snapshot : ImmutablePlanningSnapshot) (problem : ImmutablePlanningProblemV2) (base : Json)
    (policy : Json) (projection : List (String × Json)) : Prechecking PrecheckReport := do
  let expected ← Precheck.expectedProjection otherDocument snapshot problem base policy
  let violations := projectionViolations projection expected
  return precheckReport (sortByKey (fun v => toLex (v.checkId, v.field)) violations)
    ((Json.obj projection).get "projection_fingerprint") expected.projectionFingerprint

end PlantNexus.Freeze
