import PlantNexus.Problem.Hashing
import PlantNexus.Snapshot.Records

/-! The semantic precheck of canonical records and of a `planning-snapshot.v2` document.

`validateCanonicalRecords` and `validatePlanningSnapshotV2` run the checks of the
source in their order; the first that fails decides the error. -/
namespace PlantNexus.Snapshot
open Data Time Domain Problem

structure CanonicalContractError where
  code : ProductErrorCode
  field : String
  message : String
deriving DecidableEq, Repr

/-! ### Values -/

/-- `_text` -/
def text (value field : String) : Except CanonicalContractError Unit :=
  require (value ≠ "") ⟨.invalidReference, field, "value must be a non-empty string"⟩

/-- `_identifier`, with the message of `canonical_id`. -/
def identifier (value field : String) : Except CanonicalContractError Unit := do
  text value field
  require (value.length ≤ 256)
    ⟨.invalidReference, field, "canonical ID must contain 1 to 256 characters"⟩
  require (isCanonicalId value = true)
    ⟨.invalidReference, field, "canonical ID must not contain whitespace or control characters"⟩

/-- `_utc` -/
def utc (value field : String) : Except CanonicalContractError Datetime := do
  text value field
  match parseUtcInstant value with
  | .ok d => .ok d
  | .error message => .error ⟨.invalidTime, field, message⟩

/-- `_duration` -/
def duration (value : Int) (field : String) (positive : Bool := false) :
    Except CanonicalContractError Int :=
  match requireDurationSeconds value !positive with
  | .ok value => .ok value
  | .error message => .error ⟨.invalidDuration, field, message⟩

/-- Integers from here on round to no finite double. -/
def floatLimit : Int := 2 ^ 1024 - 2 ^ 970

/-- `_quantity`; the conversion to a float fails on an integer it cannot hold. -/
def quantity (value : Quantity) (field : String) : Except CanonicalContractError Unit := do
  require (0 < value.num) ⟨.invalidReference, field, "quantity must be a positive number"⟩
  require (value.num < floatLimit * value.den)
    ⟨.invalidReference, field, "int too large to convert to float"⟩

/-- An instant that must come before another; both are fields of one record. -/
def utcRange (path startField endField startText endText : String) :
    Except CanonicalContractError Unit := do
  let start ← utc startText s!"{path}.{startField}"
  let stop ← utc endText s!"{path}.{endField}"
  require (start < stop) ⟨.invalidTimeRange, s!"{path}.{endField}", "end must follow start"⟩

/-! ### Collections -/

/-- A collection of records as its identities and sources. -/
structure Collection where
  name : String
  idField : String
  items : List (String × SourceReference)

/-- `COLLECTION_ID_FIELDS` with the records of a document. -/
def CanonicalRecords.collections (r : CanonicalRecords) : List Collection :=
  [⟨"factories", "factory_id", r.factories.map fun x => (x.factoryId, x.source)⟩,
   ⟨"workshops", "workshop_id", r.workshops.map fun x => (x.workshopId, x.source)⟩,
   ⟨"production_lines", "production_line_id",
     r.productionLines.map fun x => (x.productionLineId, x.source)⟩,
   ⟨"resource_groups", "resource_group_id",
     r.resourceGroups.map fun x => (x.resourceGroupId, x.source)⟩,
   ⟨"resources", "resource_id", r.resources.map fun x => (x.resourceId, x.source)⟩,
   ⟨"calendars", "calendar_id", r.calendars.map fun x => (x.calendarId, x.source)⟩,
   ⟨"products", "product_id", r.products.map fun x => (x.productId, x.source)⟩,
   ⟨"routing_versions", "routing_version_id",
     r.routingVersions.map fun x => (x.routingVersionId, x.source)⟩,
   ⟨"routing_operations", "routing_operation_id",
     r.routingOperations.map fun x => (x.routingOperationId, x.source)⟩,
   ⟨"routing_precedence_edges", "routing_precedence_edge_id",
     r.routingPrecedenceEdges.map fun x => (x.routingPrecedenceEdgeId, x.source)⟩,
   ⟨"routing_resource_options", "routing_resource_option_id",
     r.routingResourceOptions.map fun x => (x.routingResourceOptionId, x.source)⟩,
   ⟨"demand_orders", "demand_order_id",
     r.demandOrders.map fun x => (x.demandOrderId, x.source)⟩,
   ⟨"production_orders", "production_order_id",
     r.productionOrders.map fun x => (x.productionOrderId, x.source)⟩,
   ⟨"production_lots", "production_lot_id",
     r.productionLots.map fun x => (x.productionLotId, x.source)⟩,
   ⟨"execution_facts", "execution_fact_id",
     r.executionFacts.map fun x => (x.executionFactId, x.source)⟩,
   ⟨"operation_locks", "lock_id", r.operationLocks.map fun x => (x.lockId, x.source)⟩]

/-- `_indexes`: the identities of one collection are canonical and distinct. -/
def checkIdentities (c : Collection) : Except CanonicalContractError Unit :=
  forEachDistinct Prod.fst
    (fun position item => identifier item.1 s!"{c.name}[{position}].{c.idField}")
    (fun _ _ => .ok ())
    (fun _ item => ⟨.duplicateId, s!"{c.name}.{c.idField}", item.1⟩) 0 [] c.items

/-- The value of a key in a dictionary. -/
def dictValue (items : List (String × β)) (key : String) : Option β :=
  (dictGet Prod.fst items key).map Prod.snd

def checkSource (sourceVersions : List (String × String)) (c : Collection) (position : Nat)
    (item : String × SourceReference) : Except CanonicalContractError Unit := do
  let path := s!"{c.name}[{position}].source"
  identifier item.2.sourceSystem s!"{path}.source_system"
  text item.2.sourceVersion s!"{path}.source_version"
  identifier item.2.sourceRecordId s!"{path}.source_record_id"
  require (dictValue sourceVersions item.2.sourceSystem = some item.2.sourceVersion)
    ⟨.invalidReference, path, "record source/version is absent from envelope source_versions"⟩

/-- A field of every record of a collection that names a record of another one. -/
structure ReferenceRule where
  collection : String
  field : String
  values : List String
  targets : List String

/-- `reference_rules` -/
def CanonicalRecords.referenceRules (r : CanonicalRecords) : List ReferenceRule :=
  let operations := r.routingOperations.map RoutingOperationRecord.routingOperationId
  let routings := r.routingVersions.map RoutingVersionRecord.routingVersionId
  let lots := r.productionLots.map ProductionLotRecord.productionLotId
  let products := r.products.map ProductRecord.productId
  let resources := r.resources.map ResourceRecord.resourceId
  [⟨"workshops", "factory_id", r.workshops.map WorkshopRecord.factoryId,
     r.factories.map FactoryRecord.factoryId⟩,
   ⟨"production_lines", "workshop_id", r.productionLines.map ProductionLineRecord.workshopId,
     r.workshops.map WorkshopRecord.workshopId⟩,
   ⟨"resource_groups", "production_line_id",
     r.resourceGroups.map ResourceGroupRecord.productionLineId,
     r.productionLines.map ProductionLineRecord.productionLineId⟩,
   ⟨"resources", "resource_group_id", r.resources.map ResourceRecord.resourceGroupId,
     r.resourceGroups.map ResourceGroupRecord.resourceGroupId⟩,
   ⟨"resources", "calendar_id", r.resources.map ResourceRecord.calendarId,
     r.calendars.map CalendarRecord.calendarId⟩,
   ⟨"routing_versions", "product_id", r.routingVersions.map RoutingVersionRecord.productId,
     products⟩,
   ⟨"routing_operations", "routing_version_id",
     r.routingOperations.map RoutingOperationRecord.routingVersionId, routings⟩,
   ⟨"routing_precedence_edges", "routing_version_id",
     r.routingPrecedenceEdges.map RoutingPrecedenceEdgeRecord.routingVersionId, routings⟩,
   ⟨"routing_precedence_edges", "predecessor_routing_operation_id",
     r.routingPrecedenceEdges.map RoutingPrecedenceEdgeRecord.predecessorRoutingOperationId,
     operations⟩,
   ⟨"routing_precedence_edges", "successor_routing_operation_id",
     r.routingPrecedenceEdges.map RoutingPrecedenceEdgeRecord.successorRoutingOperationId,
     operations⟩,
   ⟨"routing_resource_options", "routing_operation_id",
     r.routingResourceOptions.map RoutingResourceOptionRecord.routingOperationId, operations⟩,
   ⟨"routing_resource_options", "resource_id",
     r.routingResourceOptions.map RoutingResourceOptionRecord.resourceId, resources⟩,
   ⟨"demand_orders", "product_id", r.demandOrders.map DemandOrderRecord.productId, products⟩,
   ⟨"production_orders", "demand_order_id",
     r.productionOrders.map ProductionOrderRecord.demandOrderId,
     r.demandOrders.map DemandOrderRecord.demandOrderId⟩,
   ⟨"production_orders", "routing_version_id",
     r.productionOrders.map ProductionOrderRecord.routingVersionId, routings⟩,
   ⟨"production_lots", "production_order_id",
     r.productionLots.map ProductionLotRecord.productionOrderId,
     r.productionOrders.map ProductionOrderRecord.productionOrderId⟩,
   ⟨"execution_facts", "production_lot_id",
     r.executionFacts.map ExecutionFactRecord.productionLotId, lots⟩,
   ⟨"execution_facts", "routing_operation_id",
     r.executionFacts.map ExecutionFactRecord.routingOperationId, operations⟩,
   ⟨"operation_locks", "production_lot_id",
     r.operationLocks.map OperationLockRecord.productionLotId, lots⟩,
   ⟨"operation_locks", "routing_operation_id",
     r.operationLocks.map OperationLockRecord.routingOperationId, operations⟩,
   ⟨"operation_locks", "resource_id", r.operationLocks.map OperationLockRecord.resourceId,
     resources⟩]

/-- `_require_reference` -/
def requireReference (rule : ReferenceRule) (position : Nat) (value : String) :
    Except CanonicalContractError Unit := do
  let path := s!"{rule.collection}[{position}].{rule.field}"
  identifier value path
  require (value ∈ rule.targets) ⟨.invalidReference, path, s!"unknown ID {value}"⟩

/-! ### The dictionaries of a document -/

namespace CanonicalRecords
variable (r : CanonicalRecords)

def productUnit (id : String) : Option String :=
  (dictGet ProductRecord.productId r.products id).map ProductRecord.quantityUnit

def routeProduct (id : String) : Option String :=
  (dictGet RoutingVersionRecord.routingVersionId r.routingVersions id).map
    RoutingVersionRecord.productId

def operationRoute (id : String) : Option String :=
  (dictGet RoutingOperationRecord.routingOperationId r.routingOperations id).map
    RoutingOperationRecord.routingVersionId

def demand? (id : String) : Option DemandOrderRecord :=
  dictGet DemandOrderRecord.demandOrderId r.demandOrders id

def order? (id : String) : Option ProductionOrderRecord :=
  dictGet ProductionOrderRecord.productionOrderId r.productionOrders id

def lot? (id : String) : Option ProductionLotRecord :=
  dictGet ProductionLotRecord.productionLotId r.productionLots id

def fact? (id : String) : Option ExecutionFactRecord :=
  dictGet ExecutionFactRecord.executionFactId r.executionFacts id

def lock? (id : String) : Option OperationLockRecord :=
  dictGet OperationLockRecord.lockId r.operationLocks id

end CanonicalRecords

/-! ### The records -/

def checkCapabilities (position : Nat) (resource : ResourceRecord) :
    Except CanonicalContractError Unit := do
  require resource.capabilities.Nodup
    ⟨.duplicateCapability, s!"resources[{position}].capabilities", "duplicates"⟩
  forEach (fun i capability => text capability s!"resources[{position}].capabilities[{i}]")
    resource.capabilities

def checkCalendar (position : Nat) (calendar : CalendarRecord) :
    Except CanonicalContractError Unit :=
  let path := fun i => s!"calendars[{position}].unavailable_intervals[{i}]"
  forEachDistinct UnavailableIntervalRecord.intervalId
    (fun i interval => identifier interval.intervalId s!"{path i}.interval_id")
    (fun i interval =>
      utcRange (path i) "start_at_utc" "end_at_utc" interval.startAtUtc interval.endAtUtc)
    (fun i interval => ⟨.duplicateId, s!"{path i}.interval_id", interval.intervalId⟩) 0 []
    calendar.unavailableIntervals

def checkRoutingEdge (r : CanonicalRecords) (position : Nat)
    (edge : RoutingPrecedenceEdgeRecord) : Except CanonicalContractError Unit := do
  let path := s!"routing_precedence_edges[{position}]"
  require (edge.predecessorRoutingOperationId ≠ edge.successorRoutingOperationId)
    ⟨.invalidReference, path, "self edge is invalid"⟩
  require (r.operationRoute edge.predecessorRoutingOperationId = some edge.routingVersionId ∧
      r.operationRoute edge.successorRoutingOperationId = some edge.routingVersionId)
    ⟨.invalidReference, path, "edge endpoints must belong to routing version"⟩
  let minimum ← duration edge.minLagSeconds s!"{path}.min_lag_seconds"
  let _ ← duration edge.transportLagSeconds s!"{path}.transport_lag_seconds"
  match edge.maxLagSeconds with
  | none => .ok ()
  | some maximum => do
    let maximum ← duration maximum s!"{path}.max_lag_seconds"
    require (minimum ≤ maximum)
      ⟨.invalidLagRange, s!"{path}.max_lag_seconds", "maximum is below minimum"⟩

def checkRoutingOption (r : CanonicalRecords) (position : Nat)
    (option : RoutingResourceOptionRecord) : Except CanonicalContractError Unit := do
  let path := s!"routing_resource_options[{position}]"
  text option.quantityUnit s!"{path}.quantity_unit"
  require (((r.operationRoute option.routingOperationId).bind r.routeProduct).bind r.productUnit =
      some option.quantityUnit)
    ⟨.invalidReference, s!"{path}.quantity_unit", "unit differs from product"⟩
  let _ ← duration option.setupSeconds s!"{path}.setup_seconds"
  let _ ← duration option.cycleSecondsPerUnit s!"{path}.cycle_seconds_per_unit"
  let _ ← duration option.finalDurationSeconds s!"{path}.final_duration_seconds" true
  text option.durationSource s!"{path}.duration_source"
  text option.durationSourceVersion s!"{path}.duration_source_version"

def checkDemandOrder (r : CanonicalRecords) (position : Nat) (demand : DemandOrderRecord) :
    Except CanonicalContractError Unit := do
  let path := s!"demand_orders[{position}]"
  quantity demand.quantity s!"{path}.quantity"
  let _ ← utc demand.dueAtUtc s!"{path}.due_at_utc"
  require (r.productUnit demand.productId = some demand.quantityUnit)
    ⟨.invalidReference, s!"{path}.quantity_unit", "unit differs from product"⟩

def checkProductionOrder (r : CanonicalRecords) (position : Nat) (order : ProductionOrderRecord) :
    Except CanonicalContractError Unit := do
  let path := s!"production_orders[{position}]"
  quantity order.quantity s!"{path}.quantity"
  let _ ← utc order.releaseAtUtc s!"{path}.release_at_utc"
  let _ ← utc order.materialReadyAtUtc s!"{path}.material_ready_at_utc"
  require ((r.demand? order.demandOrderId).map DemandOrderRecord.quantityUnit =
      some order.quantityUnit)
    ⟨.invalidReference, s!"{path}.quantity_unit", "unit differs from demand"⟩
  require (r.routeProduct order.routingVersionId =
      (r.demand? order.demandOrderId).map DemandOrderRecord.productId)
    ⟨.invalidReference, s!"{path}.routing_version_id", "routing product differs from demand"⟩

def checkProductionLot (r : CanonicalRecords) (position : Nat) (lot : ProductionLotRecord) :
    Except CanonicalContractError Unit := do
  let path := s!"production_lots[{position}]"
  quantity lot.quantity s!"{path}.quantity"
  require ((r.order? lot.productionOrderId).map ProductionOrderRecord.quantityUnit =
      some lot.quantityUnit)
    ⟨.invalidReference, s!"{path}.quantity_unit", "unit differs from production order"⟩

/-- The optional fields of a fact that are present. -/
def ExecutionFactRecord.presentFields (fact : ExecutionFactRecord) : List String :=
  (if fact.resourceId.isSome then ["resource_id"] else []) ++
  (if fact.actualStartAtUtc.isSome then ["actual_start_at_utc"] else []) ++
  (if fact.actualEndAtUtc.isSome then ["actual_end_at_utc"] else []) ++
  (if fact.completedQuantity.isSome then ["completed_quantity"] else []) ++
  (if fact.remainingQuantity.isSome then ["remaining_quantity"] else []) ++
  (if fact.remainingSeconds.isSome then ["remaining_seconds"] else [])

def FactStatus.requiredFields : FactStatus → List String
  | .running => ["resource_id", "actual_start_at_utc", "remaining_quantity", "remaining_seconds"]
  | .completed =>
    ["resource_id", "actual_start_at_utc", "actual_end_at_utc", "completed_quantity"]

def FactStatus.forbiddenFields : FactStatus → List String
  | .running => ["actual_end_at_utc", "completed_quantity"]
  | .completed => ["remaining_quantity", "remaining_seconds"]

/-- A check of a field that may be absent. -/
def whenPresent (check : α → Except ε Unit) : Option α → Except ε Unit
  | some value => check value
  | none => .ok ()

/-- An instant that may be absent. -/
def utc? (value : Option String) (field : String) :
    Except CanonicalContractError (Option Datetime) :=
  match value with
  | some value => do return some (← utc value field)
  | none => .ok none

def checkFact (r : CanonicalRecords) (position : Nat) (fact : ExecutionFactRecord) :
    Except CanonicalContractError Unit := do
  let path := s!"execution_facts[{position}]"
  let _ ← utc fact.observedAtUtc s!"{path}.observed_at_utc"
  require ((r.lot? fact.productionLotId).map ProductionLotRecord.quantityUnit =
      some fact.quantityUnit)
    ⟨.invalidReference, s!"{path}.quantity_unit", "unit differs from production lot"⟩
  let missing := fact.status.requiredFields.filter (· ∉ fact.presentFields)
  let forbidden := fact.status.forbiddenFields.filter (· ∈ fact.presentFields)
  require (missing = [] ∧ forbidden = [])
    ⟨.missingRunningFact, path,
      "status fields mismatch; missing=" ++ fieldListText missing ++ ", forbidden=" ++
        fieldListText forbidden⟩
  whenPresent
    (fun resourceId =>
      require (resourceId ∈ r.resources.map ResourceRecord.resourceId)
        ⟨.invalidReference, s!"{path}.resource_id", s!"unknown ID {resourceId}"⟩)
    fact.resourceId
  let start ← utc? fact.actualStartAtUtc s!"{path}.actual_start_at_utc"
  let stop ← utc? fact.actualEndAtUtc s!"{path}.actual_end_at_utc"
  match start, stop with
  | some start, some stop =>
    require (start < stop)
      ⟨.invalidTimeRange, s!"{path}.actual_end_at_utc", "end must follow start"⟩
  | _, _ => .ok ()
  whenPresent (quantity · s!"{path}.completed_quantity") fact.completedQuantity
  whenPresent (quantity · s!"{path}.remaining_quantity") fact.remainingQuantity
  whenPresent
    (fun seconds => do
      let _ ← duration seconds s!"{path}.remaining_seconds" true
      return)
    fact.remainingSeconds

def checkLock (position : Nat) (lock : OperationLockRecord) : Except CanonicalContractError Unit :=
  utcRange s!"operation_locks[{position}]" "start_at_utc" "end_at_utc" lock.startAtUtc
    lock.endAtUtc

/-- `validate_canonical_records` -/
def validateCanonicalRecords (r : CanonicalRecords) (sourceVersions : List (String × String)) :
    Except CanonicalContractError Unit := do
  require (r.canonicalRecordsVersion = "canonical-records.v1")
    ⟨.invalidReference, "canonical_records_version", "expected canonical-records.v1"⟩
  forEach (fun _ c => checkIdentities c) r.collections
  forEach (fun _ c => forEach (checkSource sourceVersions c) c.items) r.collections
  forEach (fun _ rule => forEach (requireReference rule) rule.values) r.referenceRules
  forEach checkCapabilities r.resources
  forEach checkCalendar r.calendars
  forEach (checkRoutingEdge r) r.routingPrecedenceEdges
  forEach (checkRoutingOption r) r.routingResourceOptions
  forEach (checkDemandOrder r) r.demandOrders
  forEach (checkProductionOrder r) r.productionOrders
  forEach (checkProductionLot r) r.productionLots
  forEach (checkFact r) r.executionFacts
  forEach checkLock r.operationLocks

/-! ### The envelope -/

/-- `_validate_source_versions` -/
def validateSourceVersions (sourceVersions : List (String × String)) :
    Except CanonicalContractError Unit := do
  require (sourceVersions ≠ [])
    ⟨.invalidReference, "source_versions", "at least one source/version is required"⟩
  forEach
    (fun _ item => do
      identifier item.1 "source_versions.<source_system>"
      text item.2 s!"source_versions.{item.1}")
    sourceVersions

/-- `_validate_synthetic_boundary` -/
def validateSyntheticBoundary (synthetic : Bool) (provenance : Option SyntheticProvenance)
    (field : String) : Except CanonicalContractError Unit := do
  require (synthetic = true → provenance ≠ none)
    ⟨.missingScenarioId, field, "synthetic document requires complete synthetic provenance"⟩
  require (synthetic = false → provenance = none)
    ⟨.syntheticReferenceInProduction, field,
      "Production document must not carry synthetic provenance"⟩
  whenPresent
    (fun p => do
      identifier p.scenarioId s!"{field}.scenario_id"
      text p.scenarioVersion s!"{field}.scenario_version"
      identifier p.factoryProfileId s!"{field}.factory_profile_id"
      text p.profileVersion s!"{field}.profile_version"
      identifier p.generatorId s!"{field}.generator_id"
      text p.generatorVersion s!"{field}.generator_version"
      require (0 ≤ p.seed ∧ p.seed ≤ 9223372036854775807)
        ⟨.invalidReference, s!"{field}.seed", "seed must be non-negative"⟩)
    provenance

/-- The counts of every collection, of the instances and of their edges. -/
def PlanningSnapshot.expectedCounts (s : PlanningSnapshot) : List (String × Int) :=
  s.records.collections.map (fun c => (c.name, (c.items.length : Int))) ++
    [("operation_instances", (s.operationInstances.length : Int)),
     ("operation_precedence_edges", (s.operationPrecedenceEdges.length : Int))]

/-- Equality of dictionaries. -/
def SameDict [DecidableEq β] (xs ys : List (String × β)) : Prop :=
  sortByKey Prod.fst xs = sortByKey Prod.fst ys

instance [DecidableEq β] (xs ys : List (String × β)) : Decidable (SameDict xs ys) :=
  inferInstanceAs (Decidable (_ = _))

/-! ### The expanded document -/

/-- The identities an instance carries, with the collections they must be in. -/
def instanceReferences (r : CanonicalRecords) (o : OperationInstance) : List ReferenceRule :=
  [⟨"demand_orders", "demand_order_id", [o.demandOrderId],
     r.demandOrders.map DemandOrderRecord.demandOrderId⟩,
   ⟨"production_orders", "production_order_id", [o.productionOrderId],
     r.productionOrders.map ProductionOrderRecord.productionOrderId⟩,
   ⟨"production_lots", "production_lot_id", [o.productionLotId],
     r.productionLots.map ProductionLotRecord.productionLotId⟩,
   ⟨"routing_versions", "routing_version_id", [o.routingVersionId],
     r.routingVersions.map RoutingVersionRecord.routingVersionId⟩,
   ⟨"routing_operations", "routing_operation_id", [o.routingOperationId],
     r.routingOperations.map RoutingOperationRecord.routingOperationId⟩]

/-- The lineage and the values an instance takes over from its order, lot, demand and
routing operation. -/
def checkLineage (r : CanonicalRecords) (path : String) (o : OperationInstance) :
    Except CanonicalContractError Unit := do
  let lot := r.lot? o.productionLotId
  let order := r.order? o.productionOrderId
  let demand := r.demand? o.demandOrderId
  let operation :=
    dictGet RoutingOperationRecord.routingOperationId r.routingOperations o.routingOperationId
  require (lot.map ProductionLotRecord.productionOrderId = some o.productionOrderId ∧
      order.map ProductionOrderRecord.demandOrderId = some o.demandOrderId)
    ⟨.invalidReference, path, "order/lot lineage is inconsistent"⟩
  require (order.map ProductionOrderRecord.routingVersionId = some o.routingVersionId ∧
      operation.map RoutingOperationRecord.routingVersionId = some o.routingVersionId)
    ⟨.invalidReference, path, "routing lineage is inconsistent"⟩
  require (lot.map ProductionLotRecord.quantityUnit = some o.quantityUnit ∧
      demand.map DemandOrderRecord.dueAtUtc = some o.dueAtUtc)
    ⟨.invalidReference, path, "expanded unit/due value differs from source"⟩
  require (order.map ProductionOrderRecord.releaseAtUtc = some o.releaseAtUtc ∧
      order.map ProductionOrderRecord.materialReadyAtUtc = some o.materialReadyAtUtc)
    ⟨.invalidReference, path, "expanded release/material gate differs from source"⟩
  require (operation.map RoutingOperationRecord.requiredCapabilities =
      some o.requiredCapabilities)
    ⟨.invalidReference, s!"{path}.required_capabilities", "differs from routing operation"⟩

/-- The option an instance takes over from a canonical one. -/
def expandOption (option : RoutingResourceOptionRecord) : OperationResourceOption :=
  ⟨option.routingResourceOptionId, option.resourceId, option.setupSeconds,
    option.cycleSecondsPerUnit, option.finalDurationSeconds, option.durationSource,
    option.durationSourceVersion⟩

def checkInstanceOption (r : CanonicalRecords) (path : String) (o : OperationInstance)
    (i : Nat) (option : OperationResourceOption) : Except CanonicalContractError Unit := do
  let optionPath := s!"{path}.resource_options[{i}]"
  let canonical :=
    dictGet RoutingResourceOptionRecord.routingResourceOptionId r.routingResourceOptions
      option.routingResourceOptionId
  require (canonical.map RoutingResourceOptionRecord.routingOperationId =
      some o.routingOperationId)
    ⟨.invalidReference, s!"{optionPath}.routing_resource_option_id",
      "option is absent or belongs to another operation"⟩
  require (canonical.map expandOption = some option)
    ⟨.invalidReference, optionPath, "expanded option differs from canonical source"⟩

/-- A fact or a lock belongs to an instance through its lot and routing operation. -/
def OperationInstance.Owns (o : OperationInstance) (lotId routingOperationId : String) : Prop :=
  lotId = o.productionLotId ∧ routingOperationId = o.routingOperationId

instance (o : OperationInstance) (lotId routingOperationId : String) :
    Decidable (o.Owns lotId routingOperationId) := inferInstanceAs (Decidable (_ ∧ _))

def checkInstanceFact (r : CanonicalRecords) (path : String) (o : OperationInstance) :
    Except CanonicalContractError Unit := do
  require (o.status = .notStarted → o.executionFactId = none)
    ⟨.invalidReference, s!"{path}.execution_fact_id", "NOT_STARTED must not reference a fact"⟩
  if o.status = .notStarted then .ok ()
  else
    match r.fact? (o.executionFactId.getD "") with
    | none =>
      .error ⟨.missingRunningFact, s!"{path}.execution_fact_id",
        "fact is absent or has different lineage"⟩
    | some fact => do
      require (o.Owns fact.productionLotId fact.routingOperationId)
        ⟨.missingRunningFact, s!"{path}.execution_fact_id",
          "fact is absent or has different lineage"⟩
      require (fact.status.instanceStatus = o.status)
        ⟨.invalidReference, s!"{path}.execution_fact_id",
          "operation status differs from execution fact"⟩

def checkInstanceLocks (r : CanonicalRecords) (path : String) (o : OperationInstance) :
    Except CanonicalContractError Unit := do
  require o.lockIds.Nodup ⟨.duplicateId, s!"{path}.lock_ids", "lock IDs must be unique"⟩
  forEach
    (fun _ lockId =>
      require (∃ lock ∈ r.lock? lockId, o.Owns lock.productionLotId lock.routingOperationId)
        ⟨.invalidReference, s!"{path}.lock_ids", s!"invalid lock {lockId}"⟩)
    o.lockIds

def checkInstance (r : CanonicalRecords) (position : Nat) (o : OperationInstance) :
    Except CanonicalContractError Unit := do
  let path := s!"operation_instances[{position}]"
  forEach
    (fun _ rule =>
      forEach
        (fun _ value =>
          require (value ∈ rule.targets)
            ⟨.invalidReference, s!"{path}.{rule.field}", s!"unknown ID {value}"⟩)
        rule.values)
    (instanceReferences r o)
  quantity o.quantity s!"{path}.quantity"
  let _ ← utc o.dueAtUtc s!"{path}.due_at_utc"
  let _ ← utc o.releaseAtUtc s!"{path}.release_at_utc"
  let _ ← utc o.materialReadyAtUtc s!"{path}.material_ready_at_utc"
  checkLineage r path o
  require (o.resourceOptions ≠ [])
    ⟨.invalidReference, s!"{path}.resource_options",
      "at least one explicit candidate is required"⟩
  forEachDistinct OperationResourceOption.routingResourceOptionId (fun _ _ => .ok ())
    (checkInstanceOption r path o)
    (fun i option =>
      ⟨.duplicateId, s!"{path}.resource_options[{i}].routing_resource_option_id",
        option.routingResourceOptionId⟩)
    0 [] o.resourceOptions
  checkInstanceFact r path o
  checkInstanceLocks r path o

def checkInstances (r : CanonicalRecords) (instances : List OperationInstance) :
    Except CanonicalContractError Unit :=
  forEachDistinct OperationInstance.operationInstanceId
    (fun i o =>
      identifier o.operationInstanceId s!"operation_instances[{i}].operation_instance_id")
    (checkInstance r)
    (fun i o =>
      ⟨.duplicateId, s!"operation_instances[{i}].operation_instance_id",
        o.operationInstanceId⟩)
    0 [] instances

def checkInstanceEdge (r : CanonicalRecords) (instances : List OperationInstance)
    (position : Nat) (edge : OperationPrecedenceEdge) : Except CanonicalContractError Unit := do
  let path := s!"operation_precedence_edges[{position}]"
  let instance? := dictGet OperationInstance.operationInstanceId instances
  let predecessor := instance? edge.predecessorOperationInstanceId
  let successor := instance? edge.successorOperationInstanceId
  require (predecessor ≠ none ∧ successor ≠ none ∧
      edge.predecessorOperationInstanceId ≠ edge.successorOperationInstanceId)
    ⟨.invalidReference, path, "edge endpoints are absent or identical"⟩
  match dictGet RoutingPrecedenceEdgeRecord.routingPrecedenceEdgeId r.routingPrecedenceEdges
    edge.routingPrecedenceEdgeId with
  | none =>
    .error ⟨.invalidReference, s!"{path}.routing_precedence_edge_id", "unknown routing edge"⟩
  | some routingEdge => do
    require (predecessor.map OperationInstance.routingOperationId =
          some routingEdge.predecessorRoutingOperationId ∧
        successor.map OperationInstance.routingOperationId =
          some routingEdge.successorRoutingOperationId)
      ⟨.invalidReference, path, "expanded edge differs from routing edge"⟩
    require (edge.minLagSeconds = routingEdge.minLagSeconds ∧
        edge.maxLagSeconds = routingEdge.maxLagSeconds ∧
        edge.transportLagSeconds = routingEdge.transportLagSeconds)
      ⟨.invalidLagRange, path, "expanded lags differ from routing edge"⟩

/-- `validate_planning_snapshot_v2` -/
def validatePlanningSnapshotV2 (s : PlanningSnapshot) : Except CanonicalContractError Unit := do
  require (s.snapshotVersion = "planning-snapshot.v2" ∧ s.schemaSetVersion = "2.0.0")
    ⟨.invalidReference, "snapshot_version", "expected v2 / schema set 2.0.0"⟩
  identifier s.snapshotId "snapshot_id"
  let _ ← utc s.cutoffAtUtc "cutoff_at_utc"
  validateSourceVersions s.sourceVersions
  validateSyntheticBoundary s.synthetic s.syntheticProvenance "synthetic_provenance"
  validateCanonicalRecords s.records s.sourceVersions
  require (SameDict s.entityCounts s.expectedCounts)
    ⟨.invalidEntityCount, "entity_counts", "counts must exactly match Snapshot payload"⟩
  checkInstances s.records s.operationInstances
  forEachDistinct OperationPrecedenceEdge.operationPrecedenceEdgeId
    (fun i edge =>
      identifier edge.operationPrecedenceEdgeId
        s!"operation_precedence_edges[{i}].operation_precedence_edge_id")
    (checkInstanceEdge s.records s.operationInstances)
    (fun i edge =>
      ⟨.duplicateId, s!"operation_precedence_edges[{i}].operation_precedence_edge_id",
        edge.operationPrecedenceEdgeId⟩)
    0 [] s.operationPrecedenceEdges

end PlantNexus.Snapshot
