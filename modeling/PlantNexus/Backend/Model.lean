import PlantNexus.Backend.CoreConstraints

/-! Construction of the core CP-SAT model.

Each operation has a start and an end in `[0, horizonTicks]` and one optional interval
for each of its options, of which exactly one is present; a resource's intervals,
calendar blocks included, do not overlap. -/
namespace PlantNexus.Backend
open Data Time Domain Problem CpSat

/-- `CoreCpSatModel` -/
structure CoreCpSatModel where
  model : Model
  operations : List CoreOperation
  horizonTicks : Int

/-- What an option takes: the remainder of a running operation, else its own duration. -/
def optionDurationSeconds (operation : OperationInstance) (option : ResourceOption) : Int :=
  match operation.status, operation.remainingSeconds with
  | .running, some remaining => remaining
  | _, _ => option.finalDurationSeconds

def coreOption (tick : Int) (operationIndex : Nat) (operation : OperationInstance)
    (optionIndex : Nat) (option : ResourceOption) : CoreOption where
  resourceId := option.resourceId
  durationSeconds := optionDurationSeconds operation option
  durationTicks := durationTicks (optionDurationSeconds operation option) tick
  presence := .presence operationIndex optionIndex

def coreOperation (tick : Int) (index : Nat) (operation : OperationInstance) :
    CoreOperation where
  operationId := operation.operationId
  start := .start index
  stop := .stop index
  options := operation.resourceOptions.mapIdx (coreOption tick index operation)

/-- The variables of every operation, in document order. -/
def coreOperations (problem : PlanningProblem) : List CoreOperation :=
  problem.operationInstances.mapIdx (coreOperation problem.tickSeconds)

def operationDomains (horizonTicks : Int) (operation : CoreOperation) : List (Domain IntVar) :=
  [⟨operation.start, 0, horizonTicks⟩, ⟨operation.stop, 0, horizonTicks⟩]

/-- An operation's optional intervals and the choice of one of them. -/
def assignmentConstraints (operation : CoreOperation) : List Constraint :=
  operation.options.map (fun option => .interval (operation.interval option)) ++
    [.exactlyOne (operation.options.map CoreOption.presence)]

/-- The optional intervals of a resource, in document order. -/
def resourceIntervals (operations : List CoreOperation) (resourceId : String) :
    List Interval :=
  operations.flatMap fun operation =>
    (operation.options.filter fun option => option.resourceId = resourceId).map
      operation.interval

/-- A resource's intervals, calendar blocks last, do not overlap. -/
def noOverlapConstraint (operations : List CoreOperation)
    (calendars : List (String × List Interval)) (resourceId : String) : List Constraint :=
  let blocks := match dictGet Prod.fst calendars resourceId with
    | some calendar => calendar.2
    | none => []
  let intervals := resourceIntervals operations resourceId ++ blocks
  if intervals = [] then [] else [.noOverlap intervals]

/-- `build_core_model`; `validate` is the pinned CP-SAT model validation. -/
def buildCoreModel (validate : Model → Bool) (problem : PlanningProblem) :
    Except BackendError CoreCpSatModel := do
  let precheck ← precheckCoreProblem problem
  let operations := coreOperations problem
  let factLocks ← addFactLockConstraints problem operations
  let (temporal, calendars) ← addTemporalConstraints problem operations precheck.horizonTicks
  let noOverlap := (sortByKey id (problem.resources.map Resource.resourceId)).flatMap
    (noOverlapConstraint operations calendars)
  let model : Model :=
    ⟨operations.flatMap (operationDomains precheck.horizonTicks),
      operations.flatMap assignmentConstraints ++ factLocks ++ temporal ++ noOverlap⟩
  require (validate model = true) (.value "Pinned CP-SAT rejected the constructed core model")
  return ⟨model, operations, precheck.horizonTicks⟩

end PlantNexus.Backend
