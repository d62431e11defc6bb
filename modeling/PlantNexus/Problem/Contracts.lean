import PlantNexus.Data.Json

/-! The `planning-problem.v2` document.

One structure for each record of the document, under its own field names. A field that
may be absent is an `Option`, and the two literal types are enumerations. `toJson` is
the record as its JSON object. -/
namespace PlantNexus.Problem
open Data

inductive OperationStatus where
  | notStarted
  | running
deriving DecidableEq, Repr

def OperationStatus.text : OperationStatus → String
  | .notStarted => "NOT_STARTED"
  | .running => "RUNNING"

inductive LockType where
  | hardLock
  | softLock
deriving DecidableEq, Repr

def LockType.text : LockType → String
  | .hardLock => "HARD_LOCK"
  | .softLock => "SOFT_LOCK"

structure ResourceOption where
  resourceId : String
  setupSeconds : Int
  cycleSecondsPerUnit : Int
  finalDurationSeconds : Int
  durationSource : String
  sourceVersion : String
deriving DecidableEq, Repr

structure DeliveryDemand where
  demandOrderId : String
  dueAtUtc : String
  dueSourceSystem : String
  dueSourceVersion : String
  dueSourceRecordId : String
  priorityWeight : Int
  prioritySourceSystem : String
  prioritySourceVersion : String
  prioritySourceRecordId : String
deriving DecidableEq, Repr

structure Resource where
  resourceId : String
  resourceCode : String
  resourceType : String
  status : String
  factoryId : String
  workshopId : String
  productionLineId : String
  resourceGroupId : String
  calendarId : String
  capabilities : List String
  capacity : Int
deriving DecidableEq, Repr

structure OperationInstance where
  operationId : String
  demandOrderId : String
  status : OperationStatus
  releaseAtUtc : String
  materialReadyAtUtc : String
  requiredCapabilities : List String
  resourceOptions : List ResourceOption
  actualStartAtUtc : Option String
  assignedResourceId : Option String
  remainingSeconds : Option Int
deriving DecidableEq, Repr

structure HistoricalCompletionAnchor where
  operationId : String
  executionFactId : String
  resourceId : String
  actualStartAtUtc : String
  actualEndAtUtc : String
  sourceSystem : String
  sourceVersion : String
  sourceRecordId : String
deriving DecidableEq, Repr

structure PrecedenceEdge where
  precedenceEdgeId : String
  predecessorOperationId : String
  successorOperationId : String
  minLagSeconds : Int
  transportLagSeconds : Int
  maxLagSeconds : Option Int
deriving DecidableEq, Repr

structure OperationLock where
  lockId : String
  operationId : String
  lockType : LockType
  resourceId : String
  startAtUtc : String
  endAtUtc : String
  sourceSystem : String
  sourceVersion : String
  sourceRecordId : String
deriving DecidableEq, Repr

structure UnavailableInterval where
  calendarId : String
  resourceId : String
  startUtc : String
  endUtc : String
deriving DecidableEq, Repr

/-- `PlanningProblemDocumentV2`. -/
structure PlanningProblem where
  problemVersion : String
  schemaSetVersion : String
  snapshotId : String
  problemBuilderVersion : String
  problemHash : String
  canonicalizationVersion : String
  problemHashProjectionVersion : String
  tickSeconds : Int
  horizonStartUtc : String
  horizonEndUtc : String
  deliveryDemands : List DeliveryDemand
  resources : List Resource
  operationInstances : List OperationInstance
  historicalCompletionAnchors : List HistoricalCompletionAnchor
  precedenceEdges : List PrecedenceEdge
  operationLocks : List OperationLock
  resourceUnavailableIntervals : List UnavailableInterval
  requiredCapabilities : List String
deriving DecidableEq, Repr

/-- The resources an operation may run on. -/
def OperationInstance.optionResources (o : OperationInstance) : List String :=
  o.resourceOptions.map ResourceOption.resourceId

/-! ### Documents as JSON -/

/-- A member that is absent when its value is. -/
def optionalMember (key : String) (f : α → Json) : Option α → List (String × Json)
  | some value => [(key, f value)]
  | none => []

def ResourceOption.toJson (o : ResourceOption) : Json :=
  .obj
    [("resource_id", .str o.resourceId), ("setup_seconds", .int o.setupSeconds),
     ("cycle_seconds_per_unit", .int o.cycleSecondsPerUnit),
     ("final_duration_seconds", .int o.finalDurationSeconds),
     ("duration_source", .str o.durationSource), ("source_version", .str o.sourceVersion)]

def DeliveryDemand.toJson (d : DeliveryDemand) : Json :=
  .obj
    [("demand_order_id", .str d.demandOrderId), ("due_at_utc", .str d.dueAtUtc),
     ("due_source_system", .str d.dueSourceSystem),
     ("due_source_version", .str d.dueSourceVersion),
     ("due_source_record_id", .str d.dueSourceRecordId),
     ("priority_weight", .int d.priorityWeight),
     ("priority_source_system", .str d.prioritySourceSystem),
     ("priority_source_version", .str d.prioritySourceVersion),
     ("priority_source_record_id", .str d.prioritySourceRecordId)]

def Resource.toJson (r : Resource) : Json :=
  .obj
    [("resource_id", .str r.resourceId), ("resource_code", .str r.resourceCode),
     ("resource_type", .str r.resourceType), ("status", .str r.status),
     ("factory_id", .str r.factoryId), ("workshop_id", .str r.workshopId),
     ("production_line_id", .str r.productionLineId),
     ("resource_group_id", .str r.resourceGroupId), ("calendar_id", .str r.calendarId),
     ("capabilities", .strings r.capabilities), ("capacity", .int r.capacity)]

def OperationInstance.toJson (o : OperationInstance) : Json :=
  .obj
    ([("operation_id", .str o.operationId), ("demand_order_id", .str o.demandOrderId),
      ("status", .str o.status.text), ("release_at_utc", .str o.releaseAtUtc),
      ("material_ready_at_utc", .str o.materialReadyAtUtc),
      ("required_capabilities", .strings o.requiredCapabilities),
      ("resource_options", .arr (o.resourceOptions.map ResourceOption.toJson))] ++
      optionalMember "actual_start_at_utc" .str o.actualStartAtUtc ++
      optionalMember "assigned_resource_id" .str o.assignedResourceId ++
      optionalMember "remaining_seconds" .int o.remainingSeconds)

def HistoricalCompletionAnchor.toJson (a : HistoricalCompletionAnchor) : Json :=
  .obj
    [("operation_id", .str a.operationId), ("execution_fact_id", .str a.executionFactId),
     ("resource_id", .str a.resourceId), ("actual_start_at_utc", .str a.actualStartAtUtc),
     ("actual_end_at_utc", .str a.actualEndAtUtc), ("source_system", .str a.sourceSystem),
     ("source_version", .str a.sourceVersion), ("source_record_id", .str a.sourceRecordId)]

def PrecedenceEdge.toJson (e : PrecedenceEdge) : Json :=
  .obj
    ([("precedence_edge_id", .str e.precedenceEdgeId),
      ("predecessor_operation_id", .str e.predecessorOperationId),
      ("successor_operation_id", .str e.successorOperationId),
      ("min_lag_seconds", .int e.minLagSeconds),
      ("transport_lag_seconds", .int e.transportLagSeconds)] ++
      optionalMember "max_lag_seconds" .int e.maxLagSeconds)

def OperationLock.toJson (l : OperationLock) : Json :=
  .obj
    [("lock_id", .str l.lockId), ("operation_id", .str l.operationId),
     ("lock_type", .str l.lockType.text), ("resource_id", .str l.resourceId),
     ("start_at_utc", .str l.startAtUtc), ("end_at_utc", .str l.endAtUtc),
     ("source_system", .str l.sourceSystem), ("source_version", .str l.sourceVersion),
     ("source_record_id", .str l.sourceRecordId)]

def UnavailableInterval.toJson (i : UnavailableInterval) : Json :=
  .obj
    [("calendar_id", .str i.calendarId), ("resource_id", .str i.resourceId),
     ("start_utc", .str i.startUtc), ("end_utc", .str i.endUtc)]

end PlantNexus.Problem
