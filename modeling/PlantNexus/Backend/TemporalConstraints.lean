import PlantNexus.Backend.Bindings
import PlantNexus.Data.Blocks

/-! Precedence, transport, release, material and calendar constraints of the core model.

Seconds are projected to ticks by rounding a lower bound up and an upper bound down, an
unavailability to the ticks it touches, clipped to the horizon and merged for each
resource. -/
namespace PlantNexus.Backend
open Data Time Domain Problem CpSat

/-- `ceil_seconds_to_ticks`, for the positive tick the contract guarantees. -/
def ceilSecondsToTicks (seconds tick : Int) : Int := -(-seconds / tick)

/-- `floor_seconds_to_ticks` -/
def floorSecondsToTicks (seconds tick : Int) : Int := seconds / tick

/-- `_relative_seconds` -/
def relativeSeconds (value origin : String) : Except BackendError Int := do
  let v ← instantAt value
  let o ← instantAt origin
  let delta := v.sub o
  if delta % 1000000 ≠ 0 then
    .error (.value "Temporal instants must use exact whole-second precision")
  else return delta / 1000000

/-- An unavailability between two seconds of the horizon's clock as a block of ticks, clipped
to the horizon. -/
def clippedBlock (tick horizonTicks start stop : Int) : Block :=
  (max 0 (floorSecondsToTicks start tick), min horizonTicks (ceilSecondsToTicks stop tick))

/-- One unavailable interval with its resource, which is looked up when ticks are left of it. -/
def calendarBlock (problem : PlanningProblem) (horizonTicks : Int)
    (interval : UnavailableInterval) : Except BackendError (String × Block) := do
  let start ← relativeSeconds interval.startUtc problem.horizonStartUtc
  let stop ← relativeSeconds interval.endUtc problem.horizonStartUtc
  let block := clippedBlock problem.tickSeconds horizonTicks start stop
  if block.1 < block.2 ∧ interval.resourceId ∉ problem.resources.map Resource.resourceId then
    .error (.missingKey interval.resourceId)
  else return (interval.resourceId, block)

/-- `calendar_tick_blocks`: the merged blocks of each resource, in resource order. -/
def calendarTickBlocks (problem : PlanningProblem) (horizonTicks : Int) :
    Except BackendError (List (String × List Block)) := do
  let projected ← collect (calendarBlock problem horizonTicks)
    problem.resourceUnavailableIntervals
  return (sortByKey id (problem.resources.map Resource.resourceId).dedup).map fun resource =>
    (resource, mergeBlocks
      ((projected.filter fun b => b.1 = resource ∧ b.2.1 < b.2.2).map Prod.snd))

/-- `workshop_by_resource[...]` -/
def workshopOf (problem : PlanningProblem) (resourceId : String) : Except BackendError String :=
  match dictGet Resource.resourceId problem.resources resourceId with
  | some resource => .ok resource.workshopId
  | none => .error (.missingKey resourceId)

/-- `anchor_by_id[...]` -/
def anchorById (problem : PlanningProblem) (operationId : String) :
    Except BackendError HistoricalCompletionAnchor :=
  match dictGet HistoricalCompletionAnchor.operationId problem.historicalCompletionAnchors
    operationId with
  | some anchor => .ok anchor
  | none => .error (.missingKey operationId)

/-- `successor.start - predecessor.end`. -/
def lagExpr (predecessor successor : CoreOperation) : Expr :=
  .sub (.int successor.start) (.int predecessor.stop)

/-- The lag bounds of an edge between two active operations. -/
def activeLagConstraints (tick : Int) (edge : PrecedenceEdge)
    (predecessor successor : CoreOperation) : List Constraint :=
  .linear (lagExpr predecessor successor) .ge
      (.const (ceilSecondsToTicks edge.minLagSeconds tick)) [] ::
    match edge.maxLagSeconds with
    | none => []
    | some maximum =>
      [.linear (lagExpr predecessor successor) .le
        (.const (floorSecondsToTicks maximum tick)) []]

/-- The transport constraints of an edge between two active operations, one for each
pair of options in different workshops. -/
def activeTransportConstraints (problem : PlanningProblem) (edge : PrecedenceEdge)
    (predecessor successor : CoreOperation) : Except BackendError (List Constraint) := do
  let perPair ← collect
    (fun predecessorOption => do
      let predecessorWorkshop ← workshopOf problem predecessorOption.resourceId
      let constraints ← collect
        (fun successorOption => do
          let successorWorkshop ← workshopOf problem successorOption.resourceId
          return if predecessorWorkshop = successorWorkshop then []
            else [Constraint.linear (lagExpr predecessor successor) .ge
              (.const (ceilSecondsToTicks edge.transportLagSeconds problem.tickSeconds))
              [pos predecessorOption.presence, pos successorOption.presence]])
        successor.options
      return constraints.flatten)
    predecessor.options
  return perPair.flatten

/-- The lag bounds of an edge from a completed operation. -/
def anchorLagConstraints (tick anchorEnd : Int) (edge : PrecedenceEdge)
    (successor : CoreOperation) : List Constraint :=
  .linear (.int successor.start) .ge
      (.const (ceilSecondsToTicks (anchorEnd + edge.minLagSeconds) tick)) [] ::
    match edge.maxLagSeconds with
    | none => []
    | some maximum =>
      [.linear (.int successor.start) .le
        (.const (floorSecondsToTicks (anchorEnd + maximum) tick)) []]

/-- The transport constraints of an edge from a completed operation. -/
def anchorTransportConstraints (problem : PlanningProblem) (anchorEnd : Int)
    (anchor : HistoricalCompletionAnchor) (edge : PrecedenceEdge) (successor : CoreOperation) :
    Except BackendError (List Constraint) := do
  let predecessorWorkshop ← workshopOf problem anchor.resourceId
  let constraints ← collect
    (fun successorOption => do
      let successorWorkshop ← workshopOf problem successorOption.resourceId
      return if predecessorWorkshop = successorWorkshop then []
        else [Constraint.linear (.int successor.start) .ge
          (.const (ceilSecondsToTicks (anchorEnd + edge.transportLagSeconds)
            problem.tickSeconds))
          [pos successorOption.presence]])
    successor.options
  return constraints.flatten

/-- The constraints of one precedence edge. -/
def edgeConstraints (problem : PlanningProblem) (operations : List CoreOperation)
    (edge : PrecedenceEdge) : Except BackendError (List Constraint) := do
  let successor ← operationById operations edge.successorOperationId
  match dictGet CoreOperation.operationId operations edge.predecessorOperationId with
  | some predecessor =>
    let transport ← activeTransportConstraints problem edge predecessor successor
    return activeLagConstraints problem.tickSeconds edge predecessor successor ++ transport
  | none =>
    let anchor ← anchorById problem edge.predecessorOperationId
    let anchorEnd ← relativeSeconds anchor.actualEndAtUtc problem.horizonStartUtc
    let transport ← anchorTransportConstraints problem anchorEnd anchor edge successor
    return anchorLagConstraints problem.tickSeconds anchorEnd edge successor ++ transport

/-- `_add_precedence_and_transport` -/
def addPrecedenceAndTransport (problem : PlanningProblem) (operations : List CoreOperation) :
    Except BackendError (List Constraint) := do
  let constraints ← collect (edgeConstraints problem operations) problem.precedenceEdges
  return constraints.flatten

/-- A lower bound on a start, posted only when it excludes something. -/
def gateConstraint (bound : CoreOperation) (tick : Int) : List Constraint :=
  if tick > 0 then [.linear (.int bound.start) .ge (.const tick) []] else []

/-- The gates of one operation. -/
def operationGates (problem : PlanningProblem) (operations : List CoreOperation)
    (operation : OperationInstance) : Except BackendError (List Constraint) := do
  let bound ← operationById operations operation.operationId
  let release ← relativeSeconds operation.releaseAtUtc problem.horizonStartUtc
  let material ← relativeSeconds operation.materialReadyAtUtc problem.horizonStartUtc
  return gateConstraint bound (ceilSecondsToTicks release problem.tickSeconds) ++
    gateConstraint bound (ceilSecondsToTicks material problem.tickSeconds)

/-- `_add_release_and_material_gates` -/
def addReleaseAndMaterialGates (problem : PlanningProblem) (operations : List CoreOperation) :
    Except BackendError (List Constraint) := do
  let constraints ← collect (operationGates problem operations) problem.operationInstances
  return constraints.flatten

/-- The fixed interval of a calendar block. -/
def blockInterval (block : Block) : Interval where
  start := .const block.1
  size := block.2 - block.1
  stop := .const block.2
  presence := none

/-- `add_temporal_constraints`: the constraints, and the calendar intervals each resource
gets. -/
def addTemporalConstraints (problem : PlanningProblem) (operations : List CoreOperation)
    (horizonTicks : Int) :
    Except BackendError (List Constraint × List (String × List Interval)) := do
  let precedence ← addPrecedenceAndTransport problem operations
  let gates ← addReleaseAndMaterialGates problem operations
  let blocks ← calendarTickBlocks problem horizonTicks
  let calendars := blocks.map fun b => (b.1, b.2.map blockInterval)
  return (precedence ++ gates ++
      (calendars.flatMap Prod.snd).map Constraint.interval,
    calendars)

end PlantNexus.Backend
