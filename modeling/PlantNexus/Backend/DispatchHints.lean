import PlantNexus.Backend.Objectives
import PlantNexus.Data.Returns

/-! Deterministic initial values for the solver.

Five priority rules each dispatch the operations one by one: of all operations whose
predecessors are placed, the one the rule puts first is placed on the option on which it
ends first, in the earliest gap between what occupies the resource. The complete dispatch
with the least weighted tardiness becomes the hint. The work is bounded by a counter that
every loop steps. -/
namespace PlantNexus.Backend
open Data Time Domain Problem CpSat

/-- `MAX_WORK_STEPS` -/
def maxWorkSteps : Nat := 200000

/-- Why the dispatch ends without a result: `_WorkLimit`, or an exception that is not caught. -/
inductive DispatchStop where
  | workLimit
  | raised (error : BackendError)
deriving DecidableEq, Repr

/-- A computation that counts its steps. -/
abbrev Dispatch := StateT Nat (Except DispatchStop)

namespace Dispatch

/-- `step` -/
def step : Dispatch Unit := fun work =>
  if work + 1 > maxWorkSteps then .error .workLimit else .ok ((), work + 1)

def lift {α : Type} (x : Except BackendError α) : Dispatch α := fun work =>
  match x with
  | .ok a => .ok (a, work)
  | .error e => .error (.raised e)

end Dispatch

open Dispatch

/-- `seconds` -/
def secondsFromStart (problem : PlanningProblem) (value : String) : Except BackendError Int := do
  let origin ← instantAt problem.horizonStartUtc
  let instant ← instantAt value
  return wholeSeconds (instant.sub origin)

/-- `gates[...]` -/
def gateOf (problem : PlanningProblem) (operation : OperationInstance) :
    Except BackendError Int := do
  let release ← secondsFromStart problem operation.releaseAtUtc
  let material ← secondsFromStart problem operation.materialReadyAtUtc
  return max 0 (max (ceilSecondsToTicks release problem.tickSeconds)
    (ceilSecondsToTicks material problem.tickSeconds))

/-- Where an operation is placed: `(start, end, resource)`. -/
structure Slot where
  start : Int
  stop : Int
  resourceId : String
deriving DecidableEq, Repr

/-- `placed` and `occupied`. -/
structure DispatchState where
  placed : List (String × Slot)
  occupied : List (String × List Block)
deriving DecidableEq, Repr

/-- `placed[...]` -/
def slotOf (placed : List (String × Slot)) (operationId : String) : Except BackendError Slot :=
  match dictGet Prod.fst placed operationId with
  | some entry => .ok entry.2
  | none => .error (.missingKey operationId)

/-- `occupied[...]` -/
def occupiedOn (occupied : List (String × List Block)) (resourceId : String) :
    Except BackendError (List Block) :=
  match dictGet Prod.fst occupied resourceId with
  | some entry => .ok entry.2
  | none => .error (.missingKey resourceId)

/-- `occupied[resource].append(...)` -/
def occupy (occupied : List (String × List Block)) (resourceId : String) (block : Block) :
    List (String × List Block) :=
  occupied.map fun entry =>
    if entry.1 = resourceId then (entry.1, entry.2 ++ [block]) else entry

/-! ### One option -/

/-- The start after the predecessors, one edge at a time. -/
def afterPredecessor (problem : PlanningProblem) (placed : List (String × Slot))
    (resourceId : String) (start : Int) (edge : PrecedenceEdge) : Dispatch Int := do
  step
  let previous ← lift (slotOf placed edge.predecessorOperationId)
  let previousWorkshop ← lift (workshopOf problem previous.resourceId)
  let workshop ← lift (workshopOf problem resourceId)
  let lag := if previousWorkshop ≠ workshop then
      max edge.minLagSeconds edge.transportLagSeconds
    else edge.minLagSeconds
  return max start (previous.stop + ceilSecondsToTicks lag problem.tickSeconds)

/-- The first gap of a duration among sorted blocks. -/
def searchGap (duration : Int) : List Block → Int → Dispatch Int
  | [], start => pure start
  | block :: rest, start => do
    step
    if start + duration ≤ block.1 then pure start
    else searchGap duration rest (if start < block.2 then block.2 else start)

/-- `(end, start, duration, resource)` -/
structure Offer where
  stop : Int
  start : Int
  duration : Int
  resourceId : String
deriving DecidableEq, Repr

def Offer.key (o : Offer) : ℤ ×ₗ ℤ ×ₗ ℤ ×ₗ String :=
  toLex (o.stop, toLex (o.start, toLex (o.duration, o.resourceId)))

/-- One option of an operation, kept when it ends inside the horizon. -/
def offerOption (problem : PlanningProblem) (core : CoreCpSatModel) (state : DispatchState)
    (gate : Int) (predecessors : List PrecedenceEdge) (offers : List Offer)
    (option : CoreOption) : Dispatch (List Offer) := do
  step
  let start ← predecessors.foldlM (afterPredecessor problem state.placed option.resourceId) gate
  let blocks ← lift (occupiedOn state.occupied option.resourceId)
  let start ← searchGap option.durationTicks (sortByKey toLex blocks) start
  let stop := start + option.durationTicks
  return if stop ≤ core.horizonTicks then
      offers ++ [⟨stop, start, option.durationTicks, option.resourceId⟩]
    else offers

/-! ### One operation -/

/-- The five priority rules, in the order they are tried. -/
inductive DispatchRule where
  | completion
  | due
  | shortest
  | weight
  | release
deriving DecidableEq, Repr

def dispatchRules : List DispatchRule := [.completion, .due, .shortest, .weight, .release]

/-- The numbers and the texts of `keys[rule]`. -/
def DispatchRule.key (rule : DispatchRule) (operation : OperationInstance) (offer : Offer)
    (demand : DemandObjectiveVariables) (release shortest : Int) : List Int × List String :=
  match rule with
  | .completion =>
    ([offer.stop, offer.start, offer.duration], [offer.resourceId, operation.operationId])
  | .due =>
    ([demand.dueOffsetSeconds, release], [operation.demandOrderId, operation.operationId])
  | .shortest => ([shortest, demand.dueOffsetSeconds], [operation.operationId])
  | .weight =>
    ([-demand.priorityWeight, demand.dueOffsetSeconds, release],
      [operation.demandOrderId, operation.operationId])
  | .release => ([release], [operation.demandOrderId, operation.operationId])

/-- `(keys[rule], op_id, start, end, resource)` -/
structure Choice where
  priority : List Int × List String
  operationId : String
  slot : Slot
deriving DecidableEq, Repr

def Choice.key (c : Choice) : List Int ×ₗ List String ×ₗ String ×ₗ ℤ ×ₗ ℤ ×ₗ String :=
  toLex (c.priority.1, toLex (c.priority.2, toLex (c.operationId,
    toLex (c.slot.start, toLex (c.slot.stop, c.slot.resourceId)))))

/-- `min` -/
def leastBy {α κ : Type} [LinearOrder κ] (key : α → κ) (xs : List α) : Option α :=
  (sortByKey key xs).head?

/-- `demands[...]` -/
def objectiveDemand (objective : DeliveryObjectiveModel) (demandId : String) :
    Except BackendError DemandObjectiveVariables :=
  match dictGet DemandObjectiveVariables.demandOrderId objective.demands demandId with
  | some demand => .ok demand
  | none => .error (.missingKey demandId)

section
variable (problem : PlanningProblem) (core : CoreCpSatModel) (objective : DeliveryObjectiveModel)

/-- `incoming[...]` -/
def incoming (operationId : String) : List PrecedenceEdge :=
  problem.precedenceEdges.filter fun edge => edge.successorOperationId = operationId

/-- What one operation contributes to `choices`. -/
def offerOperation (rule : DispatchRule) (state : DispatchState) (choices : List Choice)
    (operation : OperationInstance) : Dispatch (List Choice) := do
  step
  let predecessors := incoming problem operation.operationId
  if predecessors.any fun e =>
      (dictGet Prod.fst state.placed e.predecessorOperationId).isNone then
    return choices
  let bound ← lift (operationById core.operations operation.operationId)
  let gate ← lift (gateOf problem operation)
  let offers ← bound.options.foldlM (offerOption problem core state gate predecessors) []
  match leastBy Offer.key offers with
  | none => return choices
  | some offer =>
    let demand ← lift (objectiveDemand objective operation.demandOrderId)
    let release ← lift (secondsFromStart problem operation.releaseAtUtc)
    let shortest := (bound.options.map CoreOption.durationTicks).min?.getD 0
    return choices ++ [⟨rule.key operation offer demand release shortest, operation.operationId,
      ⟨offer.start, offer.stop, offer.resourceId⟩⟩]

/-! ### A dispatch -/

/-- `sorted(by_id.keys() - placed.keys())` -/
def unplaced (placed : List (String × Slot)) : List OperationInstance :=
  sortByKey OperationInstance.operationId
    (problem.operationInstances.filter fun operation =>
      (dictGet Prod.fst placed operation.operationId).isNone)

/-- One round of the `while` loop; nothing when it breaks. -/
def dispatchRound (rule : DispatchRule) (state : DispatchState) :
    Dispatch (Option DispatchState) := do
  let choices ← (unplaced problem state.placed).foldlM
    (offerOperation problem core objective rule state) []
  return (leastBy Choice.key choices).map fun choice =>
    { placed := state.placed ++ [(choice.operationId, choice.slot)]
      occupied := occupy state.occupied choice.slot.resourceId
        (choice.slot.start, choice.slot.stop) }

/-- The `while` loop. Every round places one operation, so there are at most as many rounds
as operations. -/
def dispatchWith (rule : DispatchRule) : Nat → DispatchState → Dispatch DispatchState
  | 0, state => pure state
  | rounds + 1, state => do
    if state.placed.length < problem.operationInstances.length then
      match ← dispatchRound problem core objective rule state with
      | none => pure state
      | some state => dispatchWith rule rounds state
    else pure state

/-- The latest end of a demand's operations; `max` of nothing raises. -/
def hintedCompletion (placed : List (String × Slot)) (demandId : String) :
    Except BackendError Int := do
  let slots ← collect (fun o : OperationInstance => slotOf placed o.operationId)
    (problem.operationInstances.filter fun o => o.demandOrderId = demandId)
  match (slots.map Slot.stop).max? with
  | some latest => return latest
  | none => .error (.value "max() iterable argument is empty")

/-- One demand's completion and tardiness. -/
def hintedDemand (placed : List (String × Slot)) (demand : DemandObjectiveVariables) :
    Except BackendError (Int × Int) := do
  let completion ← hintedCompletion problem placed demand.demandOrderId
  return (completion, max 0 (completion * problem.tickSeconds - demand.dueOffsetSeconds))

/-- `score` -/
def dispatchScore (placed : List (String × Slot)) : Except BackendError Int := do
  let terms ← collect
    (fun demand : DemandObjectiveVariables => do
      let (_, tardiness) ← hintedDemand problem placed demand
      return demand.priorityWeight * tardiness)
    objective.demands
  return terms.sum

/-- One rule of the outer loop; a complete dispatch that scores less replaces the best. -/
def tryRule (blocks : List (String × List Block)) (best : Option (List (String × Slot) × Int))
    (rule : DispatchRule) : Dispatch (Option (List (String × Slot) × Int)) := do
  let final ← dispatchWith problem core objective rule problem.operationInstances.length
    ⟨[], blocks⟩
  if final.placed.length = problem.operationInstances.length then
    let value ← lift (dispatchScore problem objective final.placed)
    return match best with
      | none => some (final.placed, value)
      | some previous => if value < previous.2 then some (final.placed, value) else best
  else return best

/-! ### The hints -/

/-- The values offered to the solver. -/
structure Hints where
  ints : List (IntVar × Int)
  bools : List (BoolVar × Bool)

/-- The problem is small, and nothing in it is already decided or bounded from above. -/
def Dispatchable : Prop :=
  problem.operationInstances ≠ [] ∧ problem.operationInstances.length ≤ 128 ∧
    (problem.operationInstances.map fun o => o.resourceOptions.length).sum ≤ 4096 ∧
    problem.precedenceEdges.length ≤ 4096 ∧
    problem.resourceUnavailableIntervals.length ≤ 4096 ∧
    problem.historicalCompletionAnchors = [] ∧ problem.operationLocks = [] ∧
    (∀ o ∈ problem.operationInstances, o.status = .notStarted) ∧
    ∀ e ∈ problem.precedenceEdges, e.maxLagSeconds = none

instance : Decidable (Dispatchable problem) := by
  unfold Dispatchable
  infer_instance

/-- The hints of one operation. -/
def operationHints (placed : List (String × Slot)) (operation : CoreOperation) :
    Except BackendError Hints := do
  let slot ← slotOf placed operation.operationId
  return ⟨[(operation.start, slot.start), (operation.stop, slot.stop)],
    operation.options.map fun option =>
      (option.presence, decide (option.resourceId = slot.resourceId))⟩

/-- The hints of one demand. -/
def demandHints (placed : List (String × Slot)) (demand : DemandObjectiveVariables) :
    Except BackendError (List (IntVar × Int)) := do
  let (completion, tardiness) ← hintedDemand problem placed demand
  return [(demand.completionTick, completion), (demand.tardinessSeconds, tardiness)]

def hintsOf (best : List (String × Slot) × Int) : Except BackendError Hints := do
  let operations ← collect (operationHints best.1) core.operations
  let demands ← collect (demandHints problem best.1) objective.demands
  return ⟨operations.flatMap Hints.ints ++ demands.flatten ++
      [(objective.totalWeightedTardinessSeconds, best.2)],
    operations.flatMap Hints.bools⟩

/-- `add_dispatch_hints`: the hints it adds, or nothing where it reports false. -/
def addDispatchHints : Except BackendError (Option Hints) := do
  if ¬Dispatchable problem then return none
  forEach
    (fun _ edge =>
      require (edge.successorOperationId ∈
          problem.operationInstances.map OperationInstance.operationId)
        (.missingKey edge.successorOperationId))
    problem.precedenceEdges
  forEach (fun _ operation => do let _ ← gateOf problem operation) problem.operationInstances
  let blocks ← calendarTickBlocks problem core.horizonTicks
  match dispatchRules.foldlM (tryRule problem core objective blocks) none 0 with
  | .error .workLimit => return none
  | .error (.raised e) => .error e
  | .ok (none, _) => return none
  | .ok (some best, _) => do
    let hints ← hintsOf problem core objective best
    return some hints

end
end PlantNexus.Backend
