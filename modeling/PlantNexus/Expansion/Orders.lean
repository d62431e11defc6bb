import PlantNexus.Snapshot.Canonical

/-! Expanding production orders into operation instances.

`expandOrders` takes an `import-package.v2` document with a passing quality report, attaches the
execution facts and locks to lots and routing operations, and writes one operation instance for
every lot and operation of its route, and one precedence edge for every lot and edge of its route.
The identities of validated records are distinct, so a dictionary of records has the records
themselves as its values, and an instance is found by its lot and routing operation. -/
namespace PlantNexus.Expansion
open Data Snapshot

/-! ### Contracts -/

inductive OrderExpansionErrorCode where
  | expansionVersionMismatch
  | invalidCanonicalInput
  | qualityReportRequired
  | qualityReportMismatch
  | missingProductionLot
  | routingVersionMismatch
  | missingResourceOption
  | missingDuration
  | duplicateDerivedId
  | invalidExecutionFact
  | invalidOperationLock
  | unsupportedSplitMerge
deriving DecidableEq, Repr

structure OrderExpansionError where
  code : OrderExpansionErrorCode
  field : String
  entityId : String
  expectedContract : String
  message : String
deriving DecidableEq, Repr

def orderExpansionVersion : String := "order-expansion.v1"

def explicitLotsMode : String := "EXPLICIT_LOTS"

/-- `ImportPackageDocumentV2` -/
structure ImportPackage where
  importPackageVersion : String
  schemaSetVersion : String
  packageId : String
  sourceVersions : List (String × String)
  normalizationRuleVersion : String
  canonicalizationVersion : String
  synthetic : Bool
  records : CanonicalRecords
  syntheticProvenance : Option SyntheticProvenance
deriving DecidableEq, Repr

/-- `validate_import_package_v2` -/
def validateImportPackageV2 (package : ImportPackage) : Except CanonicalContractError Unit := do
  require (package.importPackageVersion = "import-package.v2" ∧ package.schemaSetVersion = "2.0.0")
    ⟨.invalidReference, "import_package_version", "expected v2 / schema set 2.0.0"⟩
  identifier package.packageId "package_id"
  validateSourceVersions package.sourceVersions
  text package.normalizationRuleVersion "normalization_rule_version"
  text package.canonicalizationVersion "canonicalization_version"
  validateSyntheticBoundary package.synthetic package.syntheticProvenance "synthetic_provenance"
  validateCanonicalRecords package.records package.sourceVersions

/-- `OrderExpansionDocument`; its bytes and hash are those of this document. -/
structure OrderExpansion where
  packageId : String
  sourceVersions : List (String × String)
  normalizationRuleVersion : String
  canonicalizationVersion : String
  synthetic : Bool
  syntheticProvenance : Option SyntheticProvenance
  reportId : String
  operationInstances : List OperationInstance
  operationPrecedenceEdges : List OperationPrecedenceEdge
deriving DecidableEq, Repr

/-- `stable_expansion_id` of the one expansion version. -/
def stableExpansionId (kind : String) (lineageIds : List String) :
    Except OrderExpansionError String := do
  require (lineageIds ≠ [] ∧ ∀ value ∈ lineageIds, value ≠ "")
    ⟨.invalidCanonicalInput, "lineage_ids", kind, "one or more non-empty canonical lineage IDs",
      "Derived IDs require complete source lineage"⟩
  let basis := Json.obj
    [("expansion_version", .str orderExpansionVersion), ("kind", .str kind),
     ("lineage_ids", .strings lineageIds)]
  return kind ++ "-" ++ Sha256.hexdigest basis.dumps

/-! ### The quality report -/

/-- What a passing report of a package says, with the text of each value in a message. -/
def expectedReport (packageId : String) : List (String × Json × String) :=
  [("report_version", .str "import-quality-report.v1", "'import-quality-report.v1'"),
   ("schema_set_version", .str "2.2.0", "'2.2.0'"),
   ("import_package_version", .str "import-package.v2", "'import-package.v2'"),
   ("package_id", .str packageId, s!"'{packageId}'"),
   ("data_quality_rule_version", .str "data-quality-rules.v1", "'data-quality-rules.v1'"),
   ("error_registry_version", .str "error-code-registry.v2", "'error-code-registry.v2'"),
   ("report_canonicalization_version", .str "canonical-json.v1", "'canonical-json.v1'"),
   ("status", .str "PASS", "'PASS'"), ("error_count", .int 0, "0")]

def reportFields : List String :=
  (expectedReport "").map Prod.fst ++ ["report_id", "errors"]

/-- `_quality_report_id` -/
def qualityReportId (report : Json) : String :=
  let basis := match report with
    | .obj members => Json.obj (members.filter fun member => member.1 ≠ "report_id")
    | value => value
  "import-quality-" ++ Sha256.hexdigest basis.dumps

/-- `_validate_quality_report`; the result is the identity of the report. -/
def validateQualityReport (report : Json) (package : ImportPackage) :
    Except OrderExpansionError String := do
  let id := package.packageId
  require ((∀ key ∈ report.keys, key ∈ reportFields) ∧ ∀ key ∈ reportFields, key ∈ report.keys)
    ⟨.qualityReportMismatch, "import_quality_report", id,
      "exact import-quality-report.v1 field set",
      "Quality report fields do not match the versioned contract"⟩
  require (report.get "error_count" ≠ .bool false ∧
      (report.get "error_count").pyEq (.int 0) = true)
    ⟨.qualityReportRequired, "import_quality_report.error_count", id,
      "integer zero for a PASS report", "Expansion cannot consume a report containing errors"⟩
  forEach
    (fun _ (expected : String × Json × String) =>
      require ((report.get expected.1).pyEq expected.2.1 = true)
        ⟨if expected.1 = "status" ∨ expected.1 = "error_count" then .qualityReportRequired
          else .qualityReportMismatch,
          s!"import_quality_report.{expected.1}", id, expected.2.2,
          "A matching DataValidation PASS report is required"⟩)
    (expectedReport id)
  require (report.get "errors" = .arr [])
    ⟨.qualityReportRequired, "import_quality_report.errors", id,
      "empty array for a PASS report", "Expansion cannot consume a report containing errors"⟩
  require (report.get "report_id" = .str (qualityReportId report))
    ⟨.qualityReportMismatch, "import_quality_report.report_id", id,
      "content-derived import-quality-report.v1 ID",
      "Quality report identity does not match its content"⟩
  return qualityReportId report

/-- `_validate_canonical_input` -/
def validateCanonicalInput (package : ImportPackage) : Except OrderExpansionError Unit :=
  (validateImportPackageV2 package).mapError fun error =>
    ⟨.invalidCanonicalInput, error.field, package.packageId, "valid canonical Import v2",
      error.message⟩

/-! ### Facts and locks -/

section
variable (r : CanonicalRecords)

/-- The routing version of the production order of a lot. -/
def lotRoute (lotId : String) : Option String :=
  ((r.lot? lotId).bind fun lot => r.order? lot.productionOrderId).map
    ProductionOrderRecord.routingVersionId

/-- The lot and the routing operation that a fact is about. -/
def factKey (fact : ExecutionFactRecord) : String × String :=
  (fact.productionLotId, fact.routingOperationId)

def lockKey (lock : OperationLockRecord) : String × String :=
  (lock.productionLotId, lock.routingOperationId)

/-- `_validate_fact_and_lock_lineage`; its dictionaries are looked up in the records. -/
def validateFactAndLockLineage : Except OrderExpansionError Unit := do
  forEachDistinct factKey
    (fun _ fact =>
      require (r.operationRoute fact.routingOperationId = lotRoute r fact.productionLotId)
        ⟨.invalidExecutionFact, "routing_operation_id", fact.executionFactId,
          "fact operation belongs to the lot order routing version",
          "Execution fact lineage crosses routing versions"⟩)
    (fun _ _ => .ok ())
    (fun _ fact => ⟨.invalidExecutionFact, "production_lot_id/routing_operation_id",
      fact.executionFactId, "at most one current fact per lot operation",
      "Multiple execution facts target the same operation instance"⟩)
    0 [] r.executionFacts
  forEach
    (fun _ (lock : OperationLockRecord) =>
      require (r.operationRoute lock.routingOperationId = lotRoute r lock.productionLotId)
        ⟨.invalidOperationLock, "routing_operation_id", lock.lockId,
          "lock operation belongs to the lot order routing version",
          "Operation lock lineage crosses routing versions"⟩)
    r.operationLocks

/-! ### Operation instances -/

/-- The lots of an order, in the order of their identities. -/
def lotsOf (orderId : String) : List ProductionLotRecord :=
  sortByKey ProductionLotRecord.productionLotId
    (r.productionLots.filter fun lot => lot.productionOrderId = orderId)

def operationsOf (routeId : String) : List RoutingOperationRecord :=
  sortByKey RoutingOperationRecord.routingOperationId
    (r.routingOperations.filter fun operation => operation.routingVersionId = routeId)

def edgesOf (routeId : String) : List RoutingPrecedenceEdgeRecord :=
  sortByKey RoutingPrecedenceEdgeRecord.routingPrecedenceEdgeId
    (r.routingPrecedenceEdges.filter fun edge => edge.routingVersionId = routeId)

def optionsOf (operationId : String) : List RoutingResourceOptionRecord :=
  sortByKey RoutingResourceOptionRecord.routingResourceOptionId
    (r.routingResourceOptions.filter fun option => option.routingOperationId = operationId)

def ordersById : List ProductionOrderRecord :=
  sortByKey ProductionOrderRecord.productionOrderId r.productionOrders

/-- The instance of a lot and an operation under an identity. -/
def expandedInstance (order : ProductionOrderRecord) (demand : DemandOrderRecord)
    (lot : ProductionLotRecord) (operation : RoutingOperationRecord) (instanceId : String) :
    OperationInstance :=
  let key := (lot.productionLotId, operation.routingOperationId)
  let fact := dictGet factKey r.executionFacts key
  { operationInstanceId := instanceId
    demandOrderId := demand.demandOrderId
    productionOrderId := order.productionOrderId
    productionLotId := lot.productionLotId
    routingVersionId := order.routingVersionId
    routingOperationId := operation.routingOperationId
    status := (fact.map fun fact => fact.status.instanceStatus).getD .notStarted
    quantity := lot.quantity
    quantityUnit := lot.quantityUnit
    dueAtUtc := demand.dueAtUtc
    releaseAtUtc := order.releaseAtUtc
    materialReadyAtUtc := order.materialReadyAtUtc
    requiredCapabilities := operation.requiredCapabilities
    resourceOptions := (optionsOf r operation.routingOperationId).map expandOption
    lockIds := sortByKey id
      ((r.operationLocks.filter fun lock => lockKey lock = key).map OperationLockRecord.lockId)
    executionFactId := fact.map ExecutionFactRecord.executionFactId }

/-- The instances so far, and that of one more operation of a lot. -/
def expandOperation (order : ProductionOrderRecord) (demand : DemandOrderRecord)
    (lot : ProductionLotRecord) (instances : List OperationInstance)
    (operation : RoutingOperationRecord) :
    Except OrderExpansionError (List OperationInstance) := do
  require (optionsOf r operation.routingOperationId ≠ [])
    ⟨.missingResourceOption, "routing_resource_options", operation.routingOperationId,
      "at least one explicit candidate resource option",
      "Expansion cannot invent a candidate resource or duration"⟩
  let instanceId ← stableExpansionId "operation-instance"
    [lot.productionLotId, operation.routingOperationId]
  require (instanceId ∉ instances.map OperationInstance.operationInstanceId)
    ⟨.duplicateDerivedId, "operation_instance_id", instanceId,
      "unique versioned lot/operation lineage", "Derived operation identity collided"⟩
  return instances ++ [expandedInstance r order demand lot operation instanceId]

def expandOrder (instances : List OperationInstance) (order : ProductionOrderRecord) :
    Except OrderExpansionError (List OperationInstance) := do
  let lots := lotsOf r order.productionOrderId
  require (lots ≠ [])
    ⟨.missingProductionLot, "production_lots", order.productionOrderId,
      "one or more explicit ProductionLot records",
      "Lot sizing cannot be inferred by expansion"⟩
  let operations := operationsOf r order.routingVersionId
  require (order.routingVersionId ∈ r.routingVersions.map RoutingVersionRecord.routingVersionId ∧
      operations ≠ [])
    ⟨.routingVersionMismatch, "routing_version_id", order.productionOrderId,
      "an explicit routing version with operations",
      "Production order routing cannot be expanded"⟩
  match r.demand? order.demandOrderId with
  | none =>
    .error ⟨.invalidCanonicalInput, "demand_order_id", order.productionOrderId,
      "complete canonical-records.v1 input", "Required canonical input is missing"⟩
  | some demand =>
    lots.foldlM
      (fun instances lot => operations.foldlM (expandOperation r order demand lot) instances)
      instances

def expandInstances : Except OrderExpansionError (List OperationInstance) :=
  (ordersById r).foldlM (expandOrder r) []

/-! ### Precedence edges -/

/-- The lot and the routing operation of an instance. -/
def lineage (o : OperationInstance) : String × String :=
  (o.productionLotId, o.routingOperationId)

/-- The edges so far, and that of one more routing edge of a lot. -/
def expandEdge (instances : List OperationInstance) (lot : ProductionLotRecord)
    (edges : List OperationPrecedenceEdge) (edge : RoutingPrecedenceEdgeRecord) :
    Except OrderExpansionError (List OperationPrecedenceEdge) :=
  match dictGet lineage instances (lot.productionLotId, edge.predecessorRoutingOperationId),
    dictGet lineage instances (lot.productionLotId, edge.successorRoutingOperationId) with
  | some predecessor, some successor => do
    let edgeId ← stableExpansionId "operation-precedence-edge"
      [lot.productionLotId, edge.routingPrecedenceEdgeId]
    require (edgeId ∉ edges.map OperationPrecedenceEdge.operationPrecedenceEdgeId)
      ⟨.duplicateDerivedId, "operation_precedence_edge_id", edgeId,
        "unique versioned lot/routing-edge lineage", "Derived precedence identity collided"⟩
    return edges ++
      [⟨edgeId, edge.routingPrecedenceEdgeId, predecessor.operationInstanceId,
        successor.operationInstanceId, edge.minLagSeconds, edge.transportLagSeconds,
        edge.maxLagSeconds⟩]
  | _, _ =>
    .error ⟨.routingVersionMismatch, "routing_precedence_edge_id", edge.routingPrecedenceEdgeId,
      "edge endpoints in the order routing version",
      "Routing edge cannot be mapped to operation instances"⟩

def expandEdges (instances : List OperationInstance) :
    Except OrderExpansionError (List OperationPrecedenceEdge) :=
  (ordersById r).foldlM
    (fun edges order => (lotsOf r order.productionOrderId).foldlM
      (fun edges lot => (edgesOf r order.routingVersionId).foldlM (expandEdge instances lot) edges)
      edges)
    []

end

/-! ### The expansion -/

/-- `expand_orders` -/
def expandOrders (package : ImportPackage) (report : Json) (expansionVersion lotMode : String) :
    Except OrderExpansionError OrderExpansion := do
  require (expansionVersion = orderExpansionVersion)
    ⟨.expansionVersionMismatch, "expansion_version",
      if expansionVersion = "" then "<missing>" else expansionVersion, orderExpansionVersion,
      "Historical expansion versions cannot be reinterpreted"⟩
  require (lotMode = explicitLotsMode)
    ⟨.unsupportedSplitMerge, "lot_mode", if lotMode = "" then "<missing>" else lotMode,
      explicitLotsMode, "Automatic lot split/merge is unsupported in V1"⟩
  let reportId ← validateQualityReport report package
  validateCanonicalInput package
  validateFactAndLockLineage package.records
  let instances ← expandInstances package.records
  let edges ← expandEdges package.records instances
  return {
    packageId := package.packageId
    sourceVersions := sortByKey Prod.fst package.sourceVersions
    normalizationRuleVersion := package.normalizationRuleVersion
    canonicalizationVersion := package.canonicalizationVersion
    synthetic := package.synthetic
    syntheticProvenance := package.syntheticProvenance
    reportId
    operationInstances := sortByKey OperationInstance.operationInstanceId instances
    operationPrecedenceEdges :=
      sortByKey OperationPrecedenceEdge.operationPrecedenceEdgeId edges }

end PlantNexus.Expansion
