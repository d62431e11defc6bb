import PlantNexus.Backend.Objectives
import PlantNexus.Data.Intervals

/-! Schedule metrics of a problem and a complete set of assignments.

`calculateScheduleKpiMetrics` recomputes delivery and resource rows from the assignments of a
candidate. An assignment is read by its operation, its resource and its two ticks; a value that is
missing or of another type leaves under one error. `round(a / b, 12)` is a parameter: no count
depends on it. -/
namespace PlantNexus.Reporting
open Data Time Domain Problem

inductive ReportingContractErrorCode where
  | invalidContract
  | validationFailed
  | mixedLineage
  | invalidCount
deriving DecidableEq, Repr

structure ReportingContractError where
  code : ReportingContractErrorCode
  field : String
  message : String
deriving DecidableEq, Repr

/-- The exceptions that leave the calculation. -/
inductive KpiError where
  | reporting (error : ReportingContractError)
  | value (message : String)
  | missingKey (key : String)
  | overflow
deriving DecidableEq, Repr

def kpiInstant (value : String) : Except KpiError Datetime :=
  match parseUtcInstant value with
  | .ok d => .ok d
  | .error message => .error (.value message)

/-- `_exact_seconds` -/
def exactSeconds (later earlier : Datetime) (field : String) : Except KpiError Int := do
  let delta := later.sub earlier
  require (delta % microsPerSecond = 0)
    (.reporting ⟨.invalidContract, field, "timestamps must resolve to exact integer seconds"⟩)
  return delta / microsPerSecond

/-- `_merged_interval_seconds` -/
def mergedIntervalSeconds (intervals : List (Datetime × Datetime)) : Except KpiError Int := do
  let lengths ← collect (fun interval => exactSeconds interval.2 interval.1 "resource interval")
    (mergeIntervals intervals)
  return lengths.sum

/-- An assignment as it is read. -/
structure ScheduledOperation where
  operationId : String
  resourceId : String
  startTick : Int
  endTick : Int
deriving DecidableEq, Repr

def readScheduled (raw : Json) : Except KpiError ScheduledOperation :=
  match raw.get "operation_id", raw.get "resource_id", raw.get "start_tick",
    raw.get "end_tick" with
  | .str operationId, .str resourceId, .int startTick, .int endTick =>
    .ok ⟨operationId, resourceId, startTick, endTick⟩
  | _, _, _, _ => .error (.missingKey "operation_id/resource_id/start_tick/end_tick")

/-! ### Resources -/

structure ResourceRow where
  resourceId : String
  resourceCode : String
  calendarId : String
  availableSeconds : Int
  plannedBusySeconds : Int
  utilization : Option ℚ
deriving DecidableEq, Repr

section
variable (problem : PlanningProblem) (assignments : List ScheduledOperation)

/-- `busy[resource_id]` -/
def busySeconds (resourceId : String) : Int :=
  ((assignments.filter fun a => a.resourceId = resourceId).map fun a =>
    (a.endTick - a.startTick) * problem.tickSeconds).sum

/-- The part of an unavailable interval that is inside the horizon. -/
def clippedInterval (horizonStart horizonEnd : Datetime) (item : UnavailableInterval) :
    Except KpiError (Option (String × Datetime × Datetime)) := do
  let start ← kpiInstant item.startUtc
  let stop ← kpiInstant item.endUtc
  let start := max start horizonStart
  let stop := min stop horizonEnd
  return if start < stop then some (item.resourceId, start, stop) else none

/-- `unavailable[resource_id]` -/
def unavailableOf (clipped : List (String × Datetime × Datetime)) (resourceId : String) :
    List (Datetime × Datetime) :=
  (clipped.filter fun item => item.1 = resourceId).map Prod.snd

def resourceRow (ratio : Int → Int → ℚ) (horizonSeconds : Int)
    (clipped : List (String × Datetime × Datetime)) (resource : Resource) :
    Except KpiError ResourceRow := do
  let id := resource.resourceId
  let merged ← mergedIntervalSeconds (unavailableOf clipped id)
  let available := horizonSeconds - merged
  let plannedBusy := busySeconds problem assignments id
  require (plannedBusy ≤ available)
    (.reporting ⟨.invalidCount, s!"resources.{id}.planned_busy_seconds",
      "planned busy time exceeds available calendar time"⟩)
  return ⟨id, resource.resourceCode, resource.calendarId, available, plannedBusy,
    if available = 0 then none else some (ratio plannedBusy available)⟩

/-- `_resource_rows` -/
def resourceRows (ratio : Int → Int → ℚ) : Except KpiError (List ResourceRow) := do
  let horizonStart ← kpiInstant problem.horizonStartUtc
  let horizonEnd ← kpiInstant problem.horizonEndUtc
  let horizonSeconds ← exactSeconds horizonEnd horizonStart "problem.horizon"
  let clipped ← collect (clippedInterval horizonStart horizonEnd)
    problem.resourceUnavailableIntervals
  collect (resourceRow problem assignments ratio horizonSeconds (clipped.filterMap id))
    (sortByKey Resource.resourceId problem.resources)

/-! ### Demands -/

structure DeliveryRow where
  demandOrderId : String
  dueAtUtc : String
  priorityWeight : Int
  completionTick : Int
  completionAtUtc : String
  tardinessSeconds : Int
  priorityWeightedTardinessSeconds : Int
  onTime : Bool
deriving DecidableEq, Repr

/-- `completion_ticks[demand_id]` -/
def completionTicks (demandId : String) : List Int :=
  (assignments.filter fun a => Backend.demandOf problem a.operationId = some demandId).map
    ScheduledOperation.endTick

def deliveryRow (horizonStart : Datetime) (demand : DeliveryDemand) :
    Except KpiError DeliveryRow := do
  let id := demand.demandOrderId
  match (completionTicks problem assignments id).max? with
  | none =>
    .error (.reporting ⟨.invalidCount, s!"delivery_demands.{id}",
      "every active demand must own at least one active operation"⟩)
  | some completionTick => do
    let completionAt ← match horizonStart.addSeconds (completionTick * problem.tickSeconds) with
      | some d => Except.ok d
      | none => .error .overflow
    let dueAt ← kpiInstant demand.dueAtUtc
    let late ← exactSeconds completionAt dueAt id
    let tardiness := max 0 late
    return ⟨id, demand.dueAtUtc, demand.priorityWeight, completionTick,
      formatUtcInstant completionAt, tardiness, demand.priorityWeight * tardiness,
      tardiness = 0⟩

/-- `_delivery_rows` -/
def deliveryRows : Except KpiError (List DeliveryRow) := do
  let horizonStart ← kpiInstant problem.horizonStartUtc
  let operationIds := (problem.operationInstances.map OperationInstance.operationId).dedup
  let assignmentIds := assignments.map ScheduledOperation.operationId
  require ((∀ id ∈ assignmentIds, id ∈ operationIds) ∧ (∀ id ∈ operationIds, id ∈ assignmentIds) ∧
      assignmentIds.length = operationIds.length)
    (.reporting ⟨.invalidCount, "solution.assignments",
      "candidate assignments must cover every active Problem operation exactly once"⟩)
  collect (deliveryRow problem assignments horizonStart)
    (sortByKey DeliveryDemand.demandOrderId problem.deliveryDemands)

end

/-! ### Metrics -/

/-- `ScheduleKpiMetrics` -/
structure ScheduleKpiMetrics where
  deliveryRows : List DeliveryRow
  resourceRows : List ResourceRow
  orderCount : Int
  onTimeOrderCount : Int
  totalTardinessSeconds : Int
  priorityWeightedTardinessSeconds : Int
  makespanSeconds : Int
  scheduledOperationCount : Int
  unscheduledOperationCount : Int

/-- `late_order_count` of `delivery_document` -/
def ScheduleKpiMetrics.lateOrderCount (m : ScheduleKpiMetrics) : Int :=
  m.orderCount - m.onTimeOrderCount

/-- `calculate_schedule_kpi_metrics` -/
def calculateScheduleKpiMetrics (ratio : Int → Int → ℚ) (problem : PlanningProblem)
    (assignments : List Json) : Except KpiError ScheduleKpiMetrics := do
  let assignments ← collect readScheduled assignments
  let delivery ← deliveryRows problem assignments
  let resources ← resourceRows problem assignments ratio
  return {
    deliveryRows := delivery
    resourceRows := resources
    orderCount := delivery.length
    onTimeOrderCount := (delivery.filter fun row => row.onTime).length
    totalTardinessSeconds := (delivery.map DeliveryRow.tardinessSeconds).sum
    priorityWeightedTardinessSeconds :=
      (delivery.map DeliveryRow.priorityWeightedTardinessSeconds).sum
    makespanSeconds :=
      (((assignments.map ScheduledOperation.endTick).max?).map (· * problem.tickSeconds)).getD 0
    scheduledOperationCount := assignments.length
    unscheduledOperationCount := problem.operationInstances.length - assignments.length }

end PlantNexus.Reporting
