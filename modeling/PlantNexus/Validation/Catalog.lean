import PlantNexus.Validation.Report

/-! The constraint catalogue over exact UTC instants.

`Breaks k` says what it is for a candidate to break C-00k, as the catalogue and the rule
sheet define it: in terms of the assignments the candidate lists, of exact instants in
microseconds, and of nothing the validator computes. An operation has a start and an end
when it is completed (its anchor) or has exactly one assignment, with a resource and a
positive interval; rules about an operation's place say nothing about an operation that
has none. -/
namespace PlantNexus.Validation
open Data Time Domain Problem

/-- The instant a text names, in microseconds; zero for a text that names none, which a
contract-valid problem does not have. -/
def instantMicros (text : String) : Int :=
  match parseUtcInstant text with
  | .ok d => d.micros
  | .error _ => 0

theorem instantMicros_eq (text : String) (d : Datetime) (h : parseUtcInstant text = .ok d) :
    instantMicros text = d.micros := by
  simp [instantMicros, h]

section
variable (problem : PlanningProblem)

/-- The exact instant of a tick. -/
def tickMicros (tick : Int) : Int :=
  instantMicros problem.horizonStartUtc + tick * problem.tickSeconds * microsPerSecond

/-- An entry that lists an assignment. -/
def readEntry (index : Nat) (raw : Json) : Option Assignment :=
  if isObject raw then
    (identifier (raw.get "operation_id")).map (readAssignment index raw)
  else none

/-- The entries of a candidate. -/
def candidateEntries (candidate : Json) : Option (List Json) :=
  match candidate.get "assignments" with
  | .arr raws => some raws
  | _ => none

/-- The assignments a candidate lists. -/
def candidateAssignments (candidate : Json) : List Assignment :=
  match candidateEntries candidate with
  | some raws => (raws.mapIdx readEntry).filterMap id
  | none => []

/-- Not a list of assignments for this problem, each with an operation and a positive
interval. -/
def Malformed (candidate : Json) : Prop :=
  referencesProblem problem candidate = false ∨ candidateEntries candidate = none ∨
    ∃ raws ∈ candidateEntries candidate, ∃ raw ∈ raws,
      isObject raw = false ∨ identifier (raw.get "operation_id") = none ∨
        ∀ start stop, integer (raw.get "start_tick") = some start →
          integer (raw.get "end_tick") = some stop → stop ≤ start

def activeIds : List String := problem.operationInstances.map OperationInstance.operationId

def anchorIds : List String :=
  problem.historicalCompletionAnchors.map HistoricalCompletionAnchor.operationId

end

section
variable (problem : PlanningProblem) (assignments : List Assignment)

/-- The assignments of one operation. -/
def assignmentsOf (operationId : String) : List Assignment :=
  assignments.filter fun a => a.operationId = operationId

/-- The place of an operation: its resource and its exact start and end. -/
inductive Occupies : String → String → Int → Int → Prop
  | completed (anchor : HistoricalCompletionAnchor)
      (mem : anchor ∈ problem.historicalCompletionAnchors) :
      Occupies anchor.operationId anchor.resourceId (instantMicros anchor.actualStartAtUtc)
        (instantMicros anchor.actualEndAtUtc)
  | assigned (a : Assignment) (resource : String) (start stop : Int)
      (only : assignmentsOf assignments a.operationId = [a])
      (active : a.operationId ∉ anchorIds problem) (resource_eq : a.resourceId = some resource)
      (usable : a.Usable start stop) :
      Occupies a.operationId resource (tickMicros problem start) (tickMicros problem stop)

/-- An edge's exact lag, with the resources at its two ends. -/
structure EdgeLag (edge : PrecedenceEdge) (fromResource toResource : String) (lag : Int) :
    Prop where
  places : ∃ predStart predEnd succStart succEnd,
    Occupies problem assignments edge.predecessorOperationId fromResource predStart predEnd ∧
      Occupies problem assignments edge.successorOperationId toResource succStart succEnd ∧
      lag = succStart - predEnd

/-- The lag is outside the edge's window. -/
def LagOutside (edge : PrecedenceEdge) (lag : Int) : Prop :=
  lag < edge.minLagSeconds * microsPerSecond ∨
    ∃ maximum ∈ edge.maxLagSeconds, maximum * microsPerSecond < lag

/-- The two resources are declared in different workshops. -/
def CrossWorkshop (fromResource toResource : String) : Prop :=
  ∃ r ∈ problem.resources, ∃ s ∈ problem.resources,
    r.resourceId = fromResource ∧ s.resourceId = toResource ∧ r.workshopId ≠ s.workshopId

/-- Two assignments overlap on a resource of the problem. -/
def OverlapOn (a b : Assignment) : Prop :=
  ∃ resource ∈ problem.resources.map Resource.resourceId,
    a.resourceId = some resource ∧ b.resourceId = some resource ∧
      ∃ s e s' e', a.Usable s e ∧ b.Usable s' e' ∧ s < e' ∧ s' < e

/-- The declared instants of an assignment are those of its ticks. -/
def Restates (a : Assignment) (start stop : Int) : Prop :=
  (∃ d ∈ a.startAtUtc, d.micros = tickMicros problem start) ∧
    ∃ d ∈ a.endAtUtc, d.micros = tickMicros problem stop

/-- What the operation takes on the option: its remainder when it is running. -/
def TakesSeconds (operation : OperationInstance) (option : ResourceOption) (seconds : Int) :
    Prop :=
  match operation.status with
  | .running => operation.remainingSeconds = some seconds
  | .notStarted => option.finalDurationSeconds = seconds

/-- A running operation keeps its resource and occupies it from the cutoff for its
remainder. -/
def KeepsRunning (operation : OperationInstance) (a : Assignment) : Prop :=
  ∃ resource ∈ operation.assignedResourceId, ∃ remaining ∈ operation.remainingSeconds,
    a.resourceId = some resource ∧ a.startTick = some 0 ∧
      a.endTick = some (durationTicks remaining problem.tickSeconds) ∧
      Restates problem a 0 (durationTicks remaining problem.tickSeconds)

/-- A candidate with these assignments breaks C-002 to C-011. -/
def BreaksRule : ConstraintId → Prop
  | .c001 =>
    (∃ id ∈ activeIds problem, (assignmentsOf assignments id).length ≠ 1) ∨
      ∃ a ∈ assignments, a.operationId ∉ activeIds problem ∧ a.operationId ∉ anchorIds problem
  | .c002 => ∃ edge ∈ problem.precedenceEdges, ∃ r r' lag,
      EdgeLag problem assignments edge r r' lag ∧ LagOutside edge lag
  | .c003 => (∃ a ∈ assignments, a.resourceId = none) ∨
      ∃ operation ∈ problem.operationInstances,
        assignmentsOf assignments operation.operationId ≠ [] ∧
          ¬∃ a resource, assignmentsOf assignments operation.operationId = [a] ∧
            a.resourceId = some resource ∧ resource ∈ operation.optionResources
  | .c004 => ¬assignments.Pairwise fun a b => ¬OverlapOn problem a b
  | .c005 => ∃ a ∈ assignments, ∃ start stop, a.Usable start stop ∧
      ∃ interval ∈ problem.resourceUnavailableIntervals,
        a.resourceId = some interval.resourceId ∧
          tickMicros problem start < instantMicros interval.endUtc ∧
          instantMicros interval.startUtc < tickMicros problem stop
  | .c006 => ∃ operation ∈ problem.operationInstances, ∃ a start,
      assignmentsOf assignments operation.operationId = [a] ∧ a.startTick = some start ∧
        (tickMicros problem start < instantMicros operation.releaseAtUtc ∨
          tickMicros problem start < instantMicros operation.materialReadyAtUtc)
  | .c007 =>
    (∃ a ∈ assignments, a.operationId ∈ anchorIds problem) ∨
      ∃ operation ∈ problem.operationInstances, operation.status = .running ∧
        ¬∃ a, assignmentsOf assignments operation.operationId = [a] ∧
          KeepsRunning problem operation a
  | .c008 => ∃ lock ∈ problem.operationLocks, lock.lockType = .hardLock ∧
      ¬∃ a start stop, assignmentsOf assignments lock.operationId = [a] ∧
        a.resourceId = some lock.resourceId ∧ a.Usable start stop ∧
        tickMicros problem start = instantMicros lock.startAtUtc ∧
        tickMicros problem stop = instantMicros lock.endAtUtc
  | .c009 => ∃ edge ∈ problem.precedenceEdges, ∃ r r' lag,
      EdgeLag problem assignments edge r r' lag ∧ CrossWorkshop problem r r' ∧
        lag < edge.transportLagSeconds * microsPerSecond
  | .c010 => ∃ operation ∈ problem.operationInstances, ∃ a option start stop seconds,
      assignmentsOf assignments operation.operationId = [a] ∧
        option ∈ operation.resourceOptions ∧ a.resourceId = some option.resourceId ∧
        a.startTick = some start ∧ a.endTick = some stop ∧
        TakesSeconds operation option seconds ∧
        ¬(stop - start = durationTicks seconds problem.tickSeconds ∧
          a.durationTicks = some (stop - start) ∧ a.durationSeconds = some seconds)
  | .c011 => ∃ a ∈ assignments,
      (∃ operation ∈ problem.operationInstances,
        operation.operationId = a.operationId ∧ operation.status = .notStarted) ∧
        ¬∃ start stop, a.startTick = some start ∧ a.endTick = some stop ∧
          Restates problem a start stop ∧ start < stop ∧
          instantMicros problem.horizonStartUtc ≤ tickMicros problem start ∧
          tickMicros problem stop ≤ instantMicros problem.horizonEndUtc

end

/-- The candidate breaks C-00k. -/
def Breaks (k : ConstraintId) (problem : PlanningProblem) (candidate : Json) : Prop :=
  (k = .c001 ∧ Malformed problem candidate) ∨
    BreaksRule problem (candidateAssignments candidate) k

end PlantNexus.Validation
