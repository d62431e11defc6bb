import PlantNexus.Problem.Contracts

/-! The `planning-snapshot.v2` document.

The sixteen collections of canonical records, the operation instances expanded from
them and the precedence edges between instances, one structure for each record under
its own field names. A dictionary is the list of its items. A quantity is an integer
or a finite float; two quantities of one value compare equal, so equality of the
records that carry one is `Same`. -/
namespace PlantNexus.Snapshot
open Data Problem

/-! ### Values -/

inductive FactStatus where
  | running
  | completed
deriving DecidableEq, Repr

def FactStatus.text : FactStatus → String
  | .running => "RUNNING"
  | .completed => "COMPLETED"

inductive InstanceStatus where
  | notStarted
  | running
  | completed
deriving DecidableEq, Repr

def InstanceStatus.text : InstanceStatus → String
  | .notStarted => "NOT_STARTED"
  | .running => "RUNNING"
  | .completed => "COMPLETED"

/-- The status an instance takes over from its fact. -/
def FactStatus.instanceStatus : FactStatus → InstanceStatus
  | .running => .running
  | .completed => .completed

/-- `int | float` -/
inductive Quantity where
  | int (value : Int)
  | float (value : FloatValue)
deriving DecidableEq, Repr

namespace Quantity

def num : Quantity → Int
  | int value => value
  | float value => value.num

def den : Quantity → Nat
  | int _ => 1
  | float value => value.den

/-- `==` of two numbers. -/
def SameValue (a b : Quantity) : Prop := a.num * (b.den : Int) = b.num * (a.den : Int)

instance (a b : Quantity) : Decidable (SameValue a b) := inferInstanceAs (Decidable (_ = _))

def toJson : Quantity → Json
  | int value => .int value
  | float value => .float value

end Quantity

/-- `==` of two optional numbers. -/
def sameQuantity? : Option Quantity → Option Quantity → Prop
  | some a, some b => a.SameValue b
  | none, none => True
  | _, _ => False

instance (a b : Option Quantity) : Decidable (sameQuantity? a b) := by
  unfold sameQuantity?
  split <;> infer_instance

structure SourceReference where
  sourceSystem : String
  sourceVersion : String
  sourceRecordId : String
deriving DecidableEq, Repr

def SourceReference.toJson (s : SourceReference) : Json :=
  .obj
    [("source_system", .str s.sourceSystem), ("source_version", .str s.sourceVersion),
     ("source_record_id", .str s.sourceRecordId)]

/-! ### Topology -/

structure FactoryRecord where
  factoryId : String
  factoryCode : String
  factoryTimezone : String
  source : SourceReference
deriving DecidableEq, Repr

structure WorkshopRecord where
  workshopId : String
  workshopCode : String
  factoryId : String
  source : SourceReference
deriving DecidableEq, Repr

structure ProductionLineRecord where
  productionLineId : String
  productionLineCode : String
  workshopId : String
  source : SourceReference
deriving DecidableEq, Repr

structure ResourceGroupRecord where
  resourceGroupId : String
  resourceGroupCode : String
  productionLineId : String
  source : SourceReference
deriving DecidableEq, Repr

structure ResourceRecord where
  resourceId : String
  resourceCode : String
  resourceType : String
  status : String
  resourceGroupId : String
  calendarId : String
  capabilities : List String
  source : SourceReference
deriving DecidableEq, Repr

structure UnavailableIntervalRecord where
  intervalId : String
  startAtUtc : String
  endAtUtc : String
  reason : String
deriving DecidableEq, Repr

structure CalendarRecord where
  calendarId : String
  timezone : String
  unavailableIntervals : List UnavailableIntervalRecord
  source : SourceReference
deriving DecidableEq, Repr

/-! ### Routing -/

structure ProductRecord where
  productId : String
  productCode : String
  quantityUnit : String
  source : SourceReference
deriving DecidableEq, Repr

structure RoutingVersionRecord where
  routingVersionId : String
  routingCode : String
  version : String
  productId : String
  source : SourceReference
deriving DecidableEq, Repr

structure RoutingOperationRecord where
  routingOperationId : String
  routingVersionId : String
  operationCode : String
  requiredCapabilities : List String
  source : SourceReference
deriving DecidableEq, Repr

structure RoutingPrecedenceEdgeRecord where
  routingPrecedenceEdgeId : String
  routingVersionId : String
  predecessorRoutingOperationId : String
  successorRoutingOperationId : String
  minLagSeconds : Int
  transportLagSeconds : Int
  source : SourceReference
  maxLagSeconds : Option Int
deriving DecidableEq, Repr

structure RoutingResourceOptionRecord where
  routingResourceOptionId : String
  routingOperationId : String
  resourceId : String
  quantityUnit : String
  setupSeconds : Int
  cycleSecondsPerUnit : Int
  finalDurationSeconds : Int
  durationSource : String
  durationSourceVersion : String
  source : SourceReference
deriving DecidableEq, Repr

/-! ### Demand and execution -/

structure DemandOrderRecord where
  demandOrderId : String
  productId : String
  quantity : Quantity
  quantityUnit : String
  dueAtUtc : String
  source : SourceReference
deriving DecidableEq, Repr

structure ProductionOrderRecord where
  productionOrderId : String
  demandOrderId : String
  routingVersionId : String
  quantity : Quantity
  quantityUnit : String
  releaseAtUtc : String
  materialReadyAtUtc : String
  source : SourceReference
deriving DecidableEq, Repr

structure ProductionLotRecord where
  productionLotId : String
  productionOrderId : String
  quantity : Quantity
  quantityUnit : String
  source : SourceReference
deriving DecidableEq, Repr

structure ExecutionFactRecord where
  executionFactId : String
  productionLotId : String
  routingOperationId : String
  status : FactStatus
  observedAtUtc : String
  quantityUnit : String
  source : SourceReference
  resourceId : Option String
  actualStartAtUtc : Option String
  actualEndAtUtc : Option String
  completedQuantity : Option Quantity
  remainingQuantity : Option Quantity
  remainingSeconds : Option Int
deriving DecidableEq, Repr

structure OperationLockRecord where
  lockId : String
  productionLotId : String
  routingOperationId : String
  lockType : LockType
  resourceId : String
  startAtUtc : String
  endAtUtc : String
  source : SourceReference
deriving DecidableEq, Repr

/-- `CanonicalRecordsDocument` -/
structure CanonicalRecords where
  canonicalRecordsVersion : String
  factories : List FactoryRecord
  workshops : List WorkshopRecord
  productionLines : List ProductionLineRecord
  resourceGroups : List ResourceGroupRecord
  resources : List ResourceRecord
  calendars : List CalendarRecord
  products : List ProductRecord
  routingVersions : List RoutingVersionRecord
  routingOperations : List RoutingOperationRecord
  routingPrecedenceEdges : List RoutingPrecedenceEdgeRecord
  routingResourceOptions : List RoutingResourceOptionRecord
  demandOrders : List DemandOrderRecord
  productionOrders : List ProductionOrderRecord
  productionLots : List ProductionLotRecord
  executionFacts : List ExecutionFactRecord
  operationLocks : List OperationLockRecord
deriving DecidableEq, Repr

/-! ### The expanded document -/

structure SyntheticProvenance where
  scenarioId : String
  scenarioVersion : String
  seed : Int
  factoryProfileId : String
  profileVersion : String
  generatorId : String
  generatorVersion : String
deriving DecidableEq, Repr

structure OperationResourceOption where
  routingResourceOptionId : String
  resourceId : String
  setupSeconds : Int
  cycleSecondsPerUnit : Int
  finalDurationSeconds : Int
  durationSource : String
  sourceVersion : String
deriving DecidableEq, Repr

structure OperationInstance where
  operationInstanceId : String
  demandOrderId : String
  productionOrderId : String
  productionLotId : String
  routingVersionId : String
  routingOperationId : String
  status : InstanceStatus
  quantity : Quantity
  quantityUnit : String
  dueAtUtc : String
  releaseAtUtc : String
  materialReadyAtUtc : String
  requiredCapabilities : List String
  resourceOptions : List OperationResourceOption
  lockIds : List String
  executionFactId : Option String
deriving DecidableEq, Repr

structure OperationPrecedenceEdge where
  operationPrecedenceEdgeId : String
  routingPrecedenceEdgeId : String
  predecessorOperationInstanceId : String
  successorOperationInstanceId : String
  minLagSeconds : Int
  transportLagSeconds : Int
  maxLagSeconds : Option Int
deriving DecidableEq, Repr

structure ImportPackageReference where
  importPackageVersion : String
  packageId : String
  datasetHash : String
deriving DecidableEq, Repr

structure ImportQualityReportReference where
  reportVersion : String
  reportId : String
  status : String
deriving DecidableEq, Repr

/-- `PlanningSnapshotDocumentV2` -/
structure PlanningSnapshot where
  snapshotVersion : String
  schemaSetVersion : String
  snapshotId : String
  cutoffAtUtc : String
  sourceVersions : List (String × String)
  ruleVersion : String
  normalizationRuleVersion : String
  expansionVersion : String
  canonicalizationVersion : String
  importPackage : ImportPackageReference
  importQualityReport : ImportQualityReportReference
  snapshotHash : String
  entityCounts : List (String × Int)
  synthetic : Bool
  records : CanonicalRecords
  operationInstances : List OperationInstance
  operationPrecedenceEdges : List OperationPrecedenceEdge
  syntheticProvenance : Option SyntheticProvenance
deriving DecidableEq, Repr

/-! ### Equality of records that carry a quantity -/

def DemandOrderRecord.Same (a b : DemandOrderRecord) : Prop :=
  a.quantity.SameValue b.quantity ∧ a = { b with quantity := a.quantity }

def ProductionOrderRecord.Same (a b : ProductionOrderRecord) : Prop :=
  a.quantity.SameValue b.quantity ∧ a = { b with quantity := a.quantity }

def ProductionLotRecord.Same (a b : ProductionLotRecord) : Prop :=
  a.quantity.SameValue b.quantity ∧ a = { b with quantity := a.quantity }

def ExecutionFactRecord.Same (a b : ExecutionFactRecord) : Prop :=
  sameQuantity? a.completedQuantity b.completedQuantity ∧
    sameQuantity? a.remainingQuantity b.remainingQuantity ∧
    a = { b with
      completedQuantity := a.completedQuantity, remainingQuantity := a.remainingQuantity }

def OperationInstance.Same (a b : OperationInstance) : Prop :=
  a.quantity.SameValue b.quantity ∧ a = { b with quantity := a.quantity }

instance (a b : DemandOrderRecord) : Decidable (a.Same b) := inferInstanceAs (Decidable (_ ∧ _))
instance (a b : ProductionOrderRecord) : Decidable (a.Same b) :=
  inferInstanceAs (Decidable (_ ∧ _))
instance (a b : ProductionLotRecord) : Decidable (a.Same b) :=
  inferInstanceAs (Decidable (_ ∧ _))
instance (a b : ExecutionFactRecord) : Decidable (a.Same b) :=
  inferInstanceAs (Decidable (_ ∧ _))
instance (a b : OperationInstance) : Decidable (a.Same b) := inferInstanceAs (Decidable (_ ∧ _))

/-! ### Documents as JSON -/

def FactoryRecord.toJson (r : FactoryRecord) : Json :=
  .obj
    [("factory_id", .str r.factoryId), ("factory_code", .str r.factoryCode),
     ("factory_timezone", .str r.factoryTimezone), ("source", r.source.toJson)]

def WorkshopRecord.toJson (r : WorkshopRecord) : Json :=
  .obj
    [("workshop_id", .str r.workshopId), ("workshop_code", .str r.workshopCode),
     ("factory_id", .str r.factoryId), ("source", r.source.toJson)]

def ProductionLineRecord.toJson (r : ProductionLineRecord) : Json :=
  .obj
    [("production_line_id", .str r.productionLineId),
     ("production_line_code", .str r.productionLineCode), ("workshop_id", .str r.workshopId),
     ("source", r.source.toJson)]

def ResourceGroupRecord.toJson (r : ResourceGroupRecord) : Json :=
  .obj
    [("resource_group_id", .str r.resourceGroupId),
     ("resource_group_code", .str r.resourceGroupCode),
     ("production_line_id", .str r.productionLineId), ("source", r.source.toJson)]

def ResourceRecord.toJson (r : ResourceRecord) : Json :=
  .obj
    [("resource_id", .str r.resourceId), ("resource_code", .str r.resourceCode),
     ("resource_type", .str r.resourceType), ("status", .str r.status),
     ("resource_group_id", .str r.resourceGroupId), ("calendar_id", .str r.calendarId),
     ("capabilities", .strings r.capabilities), ("source", r.source.toJson)]

def UnavailableIntervalRecord.toJson (r : UnavailableIntervalRecord) : Json :=
  .obj
    [("interval_id", .str r.intervalId), ("start_at_utc", .str r.startAtUtc),
     ("end_at_utc", .str r.endAtUtc), ("reason", .str r.reason)]

def CalendarRecord.toJson (r : CalendarRecord) : Json :=
  .obj
    [("calendar_id", .str r.calendarId), ("timezone", .str r.timezone),
     ("unavailable_intervals", .arr (r.unavailableIntervals.map UnavailableIntervalRecord.toJson)),
     ("source", r.source.toJson)]

def ProductRecord.toJson (r : ProductRecord) : Json :=
  .obj
    [("product_id", .str r.productId), ("product_code", .str r.productCode),
     ("quantity_unit", .str r.quantityUnit), ("source", r.source.toJson)]

def RoutingVersionRecord.toJson (r : RoutingVersionRecord) : Json :=
  .obj
    [("routing_version_id", .str r.routingVersionId), ("routing_code", .str r.routingCode),
     ("version", .str r.version), ("product_id", .str r.productId), ("source", r.source.toJson)]

def RoutingOperationRecord.toJson (r : RoutingOperationRecord) : Json :=
  .obj
    [("routing_operation_id", .str r.routingOperationId),
     ("routing_version_id", .str r.routingVersionId), ("operation_code", .str r.operationCode),
     ("required_capabilities", .strings r.requiredCapabilities), ("source", r.source.toJson)]

def RoutingPrecedenceEdgeRecord.toJson (r : RoutingPrecedenceEdgeRecord) : Json :=
  .obj
    ([("routing_precedence_edge_id", .str r.routingPrecedenceEdgeId),
      ("routing_version_id", .str r.routingVersionId),
      ("predecessor_routing_operation_id", .str r.predecessorRoutingOperationId),
      ("successor_routing_operation_id", .str r.successorRoutingOperationId),
      ("min_lag_seconds", .int r.minLagSeconds),
      ("transport_lag_seconds", .int r.transportLagSeconds), ("source", r.source.toJson)] ++
      optionalMember "max_lag_seconds" .int r.maxLagSeconds)

def RoutingResourceOptionRecord.toJson (r : RoutingResourceOptionRecord) : Json :=
  .obj
    [("routing_resource_option_id", .str r.routingResourceOptionId),
     ("routing_operation_id", .str r.routingOperationId), ("resource_id", .str r.resourceId),
     ("quantity_unit", .str r.quantityUnit), ("setup_seconds", .int r.setupSeconds),
     ("cycle_seconds_per_unit", .int r.cycleSecondsPerUnit),
     ("final_duration_seconds", .int r.finalDurationSeconds),
     ("duration_source", .str r.durationSource),
     ("duration_source_version", .str r.durationSourceVersion), ("source", r.source.toJson)]

def DemandOrderRecord.toJson (r : DemandOrderRecord) : Json :=
  .obj
    [("demand_order_id", .str r.demandOrderId), ("product_id", .str r.productId),
     ("quantity", r.quantity.toJson), ("quantity_unit", .str r.quantityUnit),
     ("due_at_utc", .str r.dueAtUtc), ("source", r.source.toJson)]

def ProductionOrderRecord.toJson (r : ProductionOrderRecord) : Json :=
  .obj
    [("production_order_id", .str r.productionOrderId),
     ("demand_order_id", .str r.demandOrderId), ("routing_version_id", .str r.routingVersionId),
     ("quantity", r.quantity.toJson), ("quantity_unit", .str r.quantityUnit),
     ("release_at_utc", .str r.releaseAtUtc),
     ("material_ready_at_utc", .str r.materialReadyAtUtc), ("source", r.source.toJson)]

def ProductionLotRecord.toJson (r : ProductionLotRecord) : Json :=
  .obj
    [("production_lot_id", .str r.productionLotId),
     ("production_order_id", .str r.productionOrderId), ("quantity", r.quantity.toJson),
     ("quantity_unit", .str r.quantityUnit), ("source", r.source.toJson)]

def ExecutionFactRecord.toJson (r : ExecutionFactRecord) : Json :=
  .obj
    ([("execution_fact_id", .str r.executionFactId),
      ("production_lot_id", .str r.productionLotId),
      ("routing_operation_id", .str r.routingOperationId), ("status", .str r.status.text),
      ("observed_at_utc", .str r.observedAtUtc), ("quantity_unit", .str r.quantityUnit),
      ("source", r.source.toJson)] ++
      optionalMember "resource_id" .str r.resourceId ++
      optionalMember "actual_start_at_utc" .str r.actualStartAtUtc ++
      optionalMember "actual_end_at_utc" .str r.actualEndAtUtc ++
      optionalMember "completed_quantity" Quantity.toJson r.completedQuantity ++
      optionalMember "remaining_quantity" Quantity.toJson r.remainingQuantity ++
      optionalMember "remaining_seconds" .int r.remainingSeconds)

def OperationLockRecord.toJson (r : OperationLockRecord) : Json :=
  .obj
    [("lock_id", .str r.lockId), ("production_lot_id", .str r.productionLotId),
     ("routing_operation_id", .str r.routingOperationId), ("lock_type", .str r.lockType.text),
     ("resource_id", .str r.resourceId), ("start_at_utc", .str r.startAtUtc),
     ("end_at_utc", .str r.endAtUtc), ("source", r.source.toJson)]

def CanonicalRecords.toJson (r : CanonicalRecords) : Json :=
  .obj
    [("canonical_records_version", .str r.canonicalRecordsVersion),
     ("factories", .arr (r.factories.map FactoryRecord.toJson)),
     ("workshops", .arr (r.workshops.map WorkshopRecord.toJson)),
     ("production_lines", .arr (r.productionLines.map ProductionLineRecord.toJson)),
     ("resource_groups", .arr (r.resourceGroups.map ResourceGroupRecord.toJson)),
     ("resources", .arr (r.resources.map ResourceRecord.toJson)),
     ("calendars", .arr (r.calendars.map CalendarRecord.toJson)),
     ("products", .arr (r.products.map ProductRecord.toJson)),
     ("routing_versions", .arr (r.routingVersions.map RoutingVersionRecord.toJson)),
     ("routing_operations", .arr (r.routingOperations.map RoutingOperationRecord.toJson)),
     ("routing_precedence_edges",
       .arr (r.routingPrecedenceEdges.map RoutingPrecedenceEdgeRecord.toJson)),
     ("routing_resource_options",
       .arr (r.routingResourceOptions.map RoutingResourceOptionRecord.toJson)),
     ("demand_orders", .arr (r.demandOrders.map DemandOrderRecord.toJson)),
     ("production_orders", .arr (r.productionOrders.map ProductionOrderRecord.toJson)),
     ("production_lots", .arr (r.productionLots.map ProductionLotRecord.toJson)),
     ("execution_facts", .arr (r.executionFacts.map ExecutionFactRecord.toJson)),
     ("operation_locks", .arr (r.operationLocks.map OperationLockRecord.toJson))]

def SyntheticProvenance.toJson (p : SyntheticProvenance) : Json :=
  .obj
    [("scenario_id", .str p.scenarioId), ("scenario_version", .str p.scenarioVersion),
     ("seed", .int p.seed), ("factory_profile_id", .str p.factoryProfileId),
     ("profile_version", .str p.profileVersion), ("generator_id", .str p.generatorId),
     ("generator_version", .str p.generatorVersion)]

def OperationResourceOption.toJson (o : OperationResourceOption) : Json :=
  .obj
    [("routing_resource_option_id", .str o.routingResourceOptionId),
     ("resource_id", .str o.resourceId), ("setup_seconds", .int o.setupSeconds),
     ("cycle_seconds_per_unit", .int o.cycleSecondsPerUnit),
     ("final_duration_seconds", .int o.finalDurationSeconds),
     ("duration_source", .str o.durationSource), ("source_version", .str o.sourceVersion)]

def OperationInstance.toJson (o : OperationInstance) : Json :=
  .obj
    ([("operation_instance_id", .str o.operationInstanceId),
      ("demand_order_id", .str o.demandOrderId),
      ("production_order_id", .str o.productionOrderId),
      ("production_lot_id", .str o.productionLotId),
      ("routing_version_id", .str o.routingVersionId),
      ("routing_operation_id", .str o.routingOperationId), ("status", .str o.status.text),
      ("quantity", o.quantity.toJson), ("quantity_unit", .str o.quantityUnit),
      ("due_at_utc", .str o.dueAtUtc), ("release_at_utc", .str o.releaseAtUtc),
      ("material_ready_at_utc", .str o.materialReadyAtUtc),
      ("required_capabilities", .strings o.requiredCapabilities),
      ("resource_options", .arr (o.resourceOptions.map OperationResourceOption.toJson)),
      ("lock_ids", .strings o.lockIds)] ++
      optionalMember "execution_fact_id" .str o.executionFactId)

def OperationPrecedenceEdge.toJson (e : OperationPrecedenceEdge) : Json :=
  .obj
    ([("operation_precedence_edge_id", .str e.operationPrecedenceEdgeId),
      ("routing_precedence_edge_id", .str e.routingPrecedenceEdgeId),
      ("predecessor_operation_instance_id", .str e.predecessorOperationInstanceId),
      ("successor_operation_instance_id", .str e.successorOperationInstanceId),
      ("min_lag_seconds", .int e.minLagSeconds),
      ("transport_lag_seconds", .int e.transportLagSeconds)] ++
      optionalMember "max_lag_seconds" .int e.maxLagSeconds)

def ImportPackageReference.toJson (r : ImportPackageReference) : Json :=
  .obj
    [("import_package_version", .str r.importPackageVersion), ("package_id", .str r.packageId),
     ("dataset_hash", .str r.datasetHash)]

def ImportQualityReportReference.toJson (r : ImportQualityReportReference) : Json :=
  .obj
    [("report_version", .str r.reportVersion), ("report_id", .str r.reportId),
     ("status", .str r.status)]

/-- A dictionary of texts as an object. -/
def textDict (items : List (String × String)) : Json :=
  .obj (items.map fun item => (item.1, .str item.2))

/-- The members of a snapshot that its hash covers. -/
def PlanningSnapshot.semanticMembers (s : PlanningSnapshot) : List (String × Json) :=
  [("snapshot_version", .str s.snapshotVersion),
   ("schema_set_version", .str s.schemaSetVersion), ("cutoff_at_utc", .str s.cutoffAtUtc),
   ("source_versions", textDict s.sourceVersions), ("rule_version", .str s.ruleVersion),
   ("normalization_rule_version", .str s.normalizationRuleVersion),
   ("expansion_version", .str s.expansionVersion),
   ("canonicalization_version", .str s.canonicalizationVersion),
   ("import_package", s.importPackage.toJson),
   ("import_quality_report", s.importQualityReport.toJson),
   ("entity_counts", .obj (s.entityCounts.map fun item => (item.1, .int item.2))),
   ("synthetic", .bool s.synthetic), ("records", s.records.toJson),
   ("operation_instances", .arr (s.operationInstances.map OperationInstance.toJson)),
   ("operation_precedence_edges",
     .arr (s.operationPrecedenceEdges.map OperationPrecedenceEdge.toJson))] ++
    optionalMember "synthetic_provenance" SyntheticProvenance.toJson s.syntheticProvenance

end PlantNexus.Snapshot
