import Mathlib.Algebra.Order.Round
import Mathlib.Data.Rat.Floor
import PlantNexus.Backend.SolutionMapper

/-! OBJ-001: priority-weighted tardiness, as it is posted and as it is measured.

`addDeliveryObjective` extends a core model by a completion tick and a tardiness in seconds
for each demand and by their weighted sum, each in a domain derived from the horizon.
`measuredWeightedTardinessSeconds` computes the same quantity from the instants of the
mapped assignments. -/
namespace PlantNexus.Backend
open Data Time Domain Problem CpSat

inductive DeliveryObjectiveReason where
  | demandOperationMismatch
  | invalidPriorityWeight
  | objectiveIntegerOverflow
deriving DecidableEq, Repr

/-- `DeliveryObjectiveError` -/
structure DeliveryObjectiveError where
  reason : DeliveryObjectiveReason
  field : String
  message : String
deriving DecidableEq, Repr

/-- The exceptions that leave `add_delivery_objective`. -/
inductive ObjectiveError where
  | delivery (error : DeliveryObjectiveError)
  | value (message : String)
  | missingKey (key : String)
deriving DecidableEq, Repr

/-- `_reject` unless the condition holds. -/
def requireObjective (c : Prop) [Decidable c] (reason : DeliveryObjectiveReason)
    (field message : String) : Except ObjectiveError Unit :=
  require c (.delivery ⟨reason, field, message⟩)

def objectiveInstant (value : String) : Except ObjectiveError Datetime :=
  match parseUtcInstant value with
  | .ok d => .ok d
  | .error message => .error (.value message)

/-- `_exact_seconds_between` -/
def exactSecondsBetween (later earlier : String) : Except ObjectiveError Int := do
  let later ← objectiveInstant later
  let earlier ← objectiveInstant earlier
  let delta := later.sub earlier
  require (delta % microsPerSecond = 0)
    (.value "OBJ-001 timestamps must have exact second precision")
  return delta / microsPerSecond

/-! ### The model -/

/-- `DemandObjectiveVariables` -/
structure DemandObjectiveVariables where
  demandOrderId : String
  priorityWeight : Int
  dueOffsetSeconds : Int
  completionTick : IntVar
  tardinessSeconds : IntVar
deriving DecidableEq, Repr

/-- `DeliveryObjectiveModel`, with the extended model and the bound of its metrics. -/
structure DeliveryObjectiveModel where
  model : Model
  totalWeightedTardinessSeconds : IntVar
  demands : List DemandObjectiveVariables
  objectiveUpperBound : Int

/-- `operation_demand_by_id[...]` -/
def demandOf (problem : PlanningProblem) (operationId : String) : Option String :=
  (dictGet OperationInstance.operationId problem.operationInstances operationId).map
    OperationInstance.demandOrderId

/-- `operations_by_demand[...]`: the ends of a demand's operations. -/
def demandEnds (problem : PlanningProblem) (core : CoreCpSatModel) (demandId : String) :
    List Expr :=
  (core.operations.filter fun o => demandOf problem o.operationId = some demandId).map
    fun o => .int o.stop

/-- What the loop over the demands has gathered. -/
structure ObjectiveState where
  demands : List DemandObjectiveVariables
  domains : List (Domain IntVar)
  constraints : List Constraint
  upperBound : Int

def demandDomains (horizonTicks tardinessUpper : Int) (v : DemandObjectiveVariables) :
    List (Domain IntVar) :=
  [⟨v.completionTick, 0, horizonTicks⟩, ⟨v.tardinessSeconds, 0, tardinessUpper⟩]

/-- The completion is the latest end, the tardiness what it exceeds the due time by. -/
def demandConstraints (tick : Int) (ends : List Expr) (v : DemandObjectiveVariables) :
    List Constraint :=
  [.maxEquality (.int v.completionTick) ends,
   .maxEquality (.int v.tardinessSeconds)
     [.sub (.scale tick (.int v.completionTick)) (.const v.dueOffsetSeconds), .const 0]]

/-- One round of the loop over the demands. -/
def addDemand (problem : PlanningProblem) (core : CoreCpSatModel) (index : Nat)
    (demand : DeliveryDemand) (state : ObjectiveState) : Except ObjectiveError ObjectiveState := do
  let weight := demand.priorityWeight
  requireObjective (¬weight < 1) .invalidPriorityWeight
    s!"delivery_demands[{index}].priority_weight"
    "priority weight must be a positive non-boolean integer"
  let dueOffset ← exactSecondsBetween demand.dueAtUtc problem.horizonStartUtc
  let tardinessUpper := max 0 (core.horizonTicks * problem.tickSeconds - dueOffset)
  let weightedUpper := weight * tardinessUpper
  requireObjective (¬(weight > cpSatIntMax ∨ weightedUpper > cpSatIntMax))
    .objectiveIntegerOverflow s!"delivery_demands[{index}]"
    "one weighted tardiness term exceeds the CP-SAT int64 domain"
  requireObjective (¬state.upperBound + weightedUpper > cpSatIntMax)
    .objectiveIntegerOverflow "delivery_demands"
    "weighted tardiness sum exceeds the CP-SAT int64 domain"
  let v : DemandObjectiveVariables :=
    ⟨demand.demandOrderId, weight, dueOffset, .completionTick index, .tardinessSeconds index⟩
  return {
    demands := state.demands ++ [v]
    domains := state.domains ++ demandDomains core.horizonTicks tardinessUpper v
    constraints := state.constraints ++ demandConstraints problem.tickSeconds
      (demandEnds problem core demand.demandOrderId) v
    upperBound := state.upperBound + weightedUpper }

def addDemands (problem : PlanningProblem) (core : CoreCpSatModel) :
    Nat → List DeliveryDemand → ObjectiveState → Except ObjectiveError ObjectiveState
  | _, [], state => .ok state
  | index, demand :: rest, state => do
    let state ← addDemand problem core index demand state
    addDemands problem core (index + 1) rest state

/-- `weight * tardiness_seconds` -/
def weightedTerm (v : DemandObjectiveVariables) : Expr :=
  .scale v.priorityWeight (.int v.tardinessSeconds)

/-- `add_delivery_objective`, on a model that has no objective yet. -/
def addDeliveryObjective (problem : PlanningProblem) (core : CoreCpSatModel) :
    Except ObjectiveError DeliveryObjectiveModel := do
  let demandIds := problem.deliveryDemands.map DeliveryDemand.demandOrderId
  let operationDemandIds := problem.operationInstances.map OperationInstance.demandOrderId
  requireObjective
    (demandIds.Nodup ∧ (∀ id ∈ demandIds, id ∈ operationDemandIds) ∧
      ∀ id ∈ operationDemandIds, id ∈ demandIds)
    .demandOperationMismatch "delivery_demands/operation_instances"
    "delivery demands must identify exactly the active operation demand set"
  forEach
    (fun _ operation =>
      require ((demandOf problem operation.operationId).isSome)
        (.missingKey operation.operationId))
    core.operations
  let state ← addDemands problem core 0 problem.deliveryDemands ⟨[], [], [], 0⟩
  let objective := IntVar.totalWeightedTardinessSeconds
  return {
    model := core.model.extend (state.domains ++ [⟨objective, 0, state.upperBound⟩])
      (state.constraints ++
        [.linear (.int objective) .eq (CpSat.Expr.sum (state.demands.map weightedTerm)) []])
    totalWeightedTardinessSeconds := objective
    demands := state.demands
    objectiveUpperBound := state.upperBound }

/-! ### The measurement -/

/-- `demand_by_operation[...]` -/
def demandByOperation (problem : PlanningProblem) (operationId : String) :
    Except BackendError String :=
  match demandOf problem operationId with
  | some demandId => .ok demandId
  | none => .error (.missingKey operationId)

/-- One assignment of the loop over completions: a later end replaces an earlier one. -/
def recordCompletion (problem : PlanningProblem) (completions : List (String × Datetime))
    (a : OperationAssignment) : Except BackendError (List (String × Datetime)) := do
  let demandId ← demandByOperation problem a.operationId
  let completion ← instantAt a.endAtUtc
  return match dictGet Prod.fst completions demandId with
    | some previous =>
      if completion > previous.2 then completions ++ [(demandId, completion)] else completions
    | none => completions ++ [(demandId, completion)]

/-- The weighted tardiness of one demand; one without an assignment has none. -/
def demandTardiness (completions : List (String × Datetime)) (demand : DeliveryDemand) :
    Except BackendError Int :=
  match dictGet Prod.fst completions demand.demandOrderId with
  | none => .ok 0
  | some completion => do
    let due ← instantAt demand.dueAtUtc
    return demand.priorityWeight * max 0 ⌈totalSeconds (completion.2.sub due)⌉

/-- `_measured_weighted_tardiness_seconds` -/
def measuredWeightedTardinessSeconds (problem : PlanningProblem)
    (values : List OperationAssignment) : Except BackendError Int := do
  let completions ← values.foldlM (recordCompletion problem) []
  let terms ← collect (demandTardiness completions) problem.deliveryDemands
  return terms.sum

end PlantNexus.Backend
