import PlantNexus.Data.Sha256
import PlantNexus.Domain.Capabilities
import PlantNexus.Domain.Validation

/-! Canonical form, content hash and integrity of a `planning-problem.v2` document.

`problemV2HashFor` hashes the canonical document without its own hash, so the hash a
document declares does not enter it (`problemV2HashFor_problemHash`).
`validateBuiltProblemV2` is the check every consumer runs first: exact shape, contract
versions, the semantic precheck, the capability declaration and an acyclic precedence
graph. `builtProblem_facts` hands on what the precheck establishes. -/
namespace PlantNexus.Problem
open Data Time Domain

def planningProblemVersionV2 : String := "planning-problem.v2"
def problemSchemaSetVersionV2 : String := "2.3.0"
def problemBuilderVersionV2 : String := "planning-problem-builder.v2"
def problemCanonicalizationVersion : String := "canonical-json.v1"
def problemHashProjectionVersionV2 : String := "planning-problem-hash-projection.v2"

inductive PlanningProblemErrorCode where
  | invalidSnapshot
  | invalidBuilderVersion
  | invalidBuildConfig
  | missingProblemFact
  | invalidPriorityFact
  | invalidLockFact
  | invalidHistoricalFact
  | unsupportedProblemFact
  | modelInvalid
  | hashMismatch
deriving DecidableEq, Repr

structure PlanningProblemError where
  code : PlanningProblemErrorCode
  field : String
  entityId : String
  expectedContract : String
  message : String
deriving DecidableEq, Repr

/-! ### Canonical order -/

def canonicalResourceV2 (resource : Resource) : Resource :=
  { resource with capabilities := sortByKey id resource.capabilities }

/-- A running operation keeps its execution fact; any other has none. -/
def canonicalOperationV2 (operation : OperationInstance) : OperationInstance :=
  let running := operation.status = .running
  { operation with
    requiredCapabilities := sortByKey id operation.requiredCapabilities
    resourceOptions :=
      sortByKey
        (fun o => toLex (o.resourceId, toLex (o.finalDurationSeconds, toLex (o.setupSeconds,
          toLex (o.cycleSecondsPerUnit, toLex (o.durationSource, o.sourceVersion))))))
        operation.resourceOptions
    actualStartAtUtc := if running then operation.actualStartAtUtc else none
    assignedResourceId := if running then operation.assignedResourceId else none
    remainingSeconds := if running then operation.remainingSeconds else none }

/-- `canonical_problem_document_v2` -/
def canonicalProblemDocumentV2 (document : PlanningProblem) : PlanningProblem :=
  { document with
    deliveryDemands := sortByKey DeliveryDemand.demandOrderId document.deliveryDemands
    resources := sortByKey Resource.resourceId (document.resources.map canonicalResourceV2)
    operationInstances :=
      sortByKey OperationInstance.operationId
        (document.operationInstances.map canonicalOperationV2)
    historicalCompletionAnchors :=
      sortByKey (fun a => toLex (a.operationId, a.executionFactId))
        document.historicalCompletionAnchors
    precedenceEdges :=
      sortByKey
        (fun e => toLex (e.precedenceEdgeId,
          toLex (e.predecessorOperationId, e.successorOperationId)))
        document.precedenceEdges
    operationLocks := sortByKey OperationLock.lockId document.operationLocks
    resourceUnavailableIntervals :=
      sortByKey
        (fun i => toLex (i.resourceId, toLex (i.calendarId, toLex (i.startUtc, i.endUtc))))
        document.resourceUnavailableIntervals
    requiredCapabilities := sortByKey id document.requiredCapabilities }

/-- A document's members without its own hash. -/
def PlanningProblem.membersWithoutHash (p : PlanningProblem) : List (String × Json) :=
  [("problem_version", .str p.problemVersion), ("schema_set_version", .str p.schemaSetVersion),
   ("snapshot_id", .str p.snapshotId),
   ("problem_builder_version", .str p.problemBuilderVersion),
   ("canonicalization_version", .str p.canonicalizationVersion),
   ("problem_hash_projection_version", .str p.problemHashProjectionVersion),
   ("tick_seconds", .int p.tickSeconds), ("horizon_start_utc", .str p.horizonStartUtc),
   ("horizon_end_utc", .str p.horizonEndUtc),
   ("delivery_demands", .arr (p.deliveryDemands.map DeliveryDemand.toJson)),
   ("resources", .arr (p.resources.map Resource.toJson)),
   ("operation_instances", .arr (p.operationInstances.map OperationInstance.toJson)),
   ("historical_completion_anchors",
     .arr (p.historicalCompletionAnchors.map HistoricalCompletionAnchor.toJson)),
   ("precedence_edges", .arr (p.precedenceEdges.map PrecedenceEdge.toJson)),
   ("operation_locks", .arr (p.operationLocks.map OperationLock.toJson)),
   ("resource_unavailable_intervals",
     .arr (p.resourceUnavailableIntervals.map UnavailableInterval.toJson)),
   ("required_capabilities", .strings p.requiredCapabilities)]

/-- `problem_v2_hash_projection` -/
def problemV2HashProjection (document : PlanningProblem) : Json :=
  .obj
    [("problem_hash_projection_version", .str problemHashProjectionVersionV2),
     ("problem", .obj (canonicalProblemDocumentV2 document).membersWithoutHash)]

/-- `problem_v2_hash_for` -/
def problemV2HashFor (document : PlanningProblem) : String :=
  "sha256:" ++ Sha256.hexdigest (problemV2HashProjection document).dumps

/-- The declared hash does not enter the content hash. -/
theorem problemV2HashFor_problemHash (document : PlanningProblem) (hash : String) :
    problemV2HashFor { document with problemHash := hash } = problemV2HashFor document := rfl

/-! ### The integrity check -/

def optionalRunningFields : List String :=
  ["actual_start_at_utc", "assigned_resource_id", "remaining_seconds"]

def operationFields (status : OperationStatus) : List String :=
  ["operation_id", "demand_order_id", "status", "release_at_utc", "material_ready_at_utc",
   "required_capabilities", "resource_options"] ++
    (if status = .running then optionalRunningFields else [])

/-- A Python list of field names, as its text. -/
def fieldListText (fields : List String) : String :=
  "[" ++ ", ".intercalate ((sortByKey id fields).map fun f => "'" ++ f ++ "'") ++ "]"

/-- A running operation has all of its execution fact, any other operation none of it. -/
def ExactOperationFields (operation : OperationInstance) : Prop :=
  if operation.status = .running then
    operation.actualStartAtUtc.isSome ∧ operation.assignedResourceId.isSome ∧
      operation.remainingSeconds.isSome
  else
    operation.actualStartAtUtc = none ∧ operation.assignedResourceId = none ∧
      operation.remainingSeconds = none

instance (operation : OperationInstance) : Decidable (ExactOperationFields operation) := by
  unfold ExactOperationFields
  infer_instance

/-- `_validate_exact_shape_v2`; the fields of the other records are those of their types. -/
def validateExactShapeV2 (document : PlanningProblem) : Except PlanningProblemError Unit :=
  forEach
    (fun index operation =>
      require (ExactOperationFields operation)
        ⟨.modelInvalid, s!"operation_instances[{index}]", operation.operationId,
          "planning-problem.v2 exact fields " ++ fieldListText (operationFields operation.status),
          "Problem fields do not match planning-problem.v2"⟩)
    document.operationInstances

def versionExpectations (document : PlanningProblem) : List (String × String × String) :=
  [("problem_version", document.problemVersion, planningProblemVersionV2),
   ("schema_set_version", document.schemaSetVersion, problemSchemaSetVersionV2),
   ("problem_builder_version", document.problemBuilderVersion, problemBuilderVersionV2),
   ("canonicalization_version", document.canonicalizationVersion, problemCanonicalizationVersion),
   ("problem_hash_projection_version", document.problemHashProjectionVersion,
     problemHashProjectionVersionV2)]

def precheckFailure (document : PlanningProblem) (field : String) : PlanningProblemError :=
  ⟨.modelInvalid, field, document.snapshotId, "valid solver-neutral planning-problem.v2",
    "Built Problem failed the pure contract precheck"⟩

/-- One predecessor of `successor` is done; at the last one it becomes ready. -/
def releaseSuccessor (state : List String × (String → Int)) (successor : String) :
    List String × (String → Int) :=
  let degree := state.2 successor - 1
  (if degree = 0 then sortByKey id (state.1 ++ [successor]) else state.1,
    fun node => if node = successor then degree else state.2 node)

/-- The number of nodes a topological sweep visits; every node is ready at most once, so
as many rounds as there are nodes suffice. -/
def sweep (successors : String → List String) :
    Nat → List String → (String → Int) → Nat → Nat
  | 0, _, _, visited => visited
  | _ + 1, [], _, visited => visited
  | rounds + 1, node :: ready, indegree, visited =>
    let (ready, indegree) :=
      (sortByKey id (successors node)).foldl releaseSuccessor (ready, indegree)
    sweep successors rounds ready indegree (visited + 1)

/-- `_validate_dag_v2` -/
def validateDagV2 (document : PlanningProblem) : Except PlanningProblemError Unit :=
  let nodes :=
    (document.operationInstances.map OperationInstance.operationId ++
      document.historicalCompletionAnchors.map HistoricalCompletionAnchor.operationId).dedup
  let successors := fun node =>
    (document.precedenceEdges.filter fun e => e.predecessorOperationId = node).map
      PrecedenceEdge.successorOperationId
  let indegree := fun node =>
    ((document.precedenceEdges.filter fun e => e.successorOperationId = node).length : Int)
  let ready := sortByKey id (nodes.filter fun node => indegree node = 0)
  require (sweep successors nodes.length ready indegree 0 = nodes.length)
    ⟨.modelInvalid, "precedence_edges", document.snapshotId,
      "acyclic active and historical-anchor precedence graph",
      "PlanningProblem precedence graph contains a cycle"⟩

/-- `validate_built_problem_v2` -/
def validateBuiltProblemV2 (document : PlanningProblem) : Except PlanningProblemError Unit := do
  validateExactShapeV2 document
  forEach
    (fun _ version =>
      require (version.2.1 = version.2.2)
        ⟨.modelInvalid, version.1, document.snapshotId, version.2.2,
          "Problem contract version is unsupported"⟩)
    (versionExpectations document)
  match validatePlanningProblemV2Contract document with
  | .error violation => .error (precheckFailure document violation.field)
  | .ok () =>
    match requireV1CapabilityContract document.requiredCapabilities with
    | .error _ => .error (precheckFailure document "planning_problem")
    | .ok _ => validateDagV2 document

/-- **A built problem that passes satisfies the semantic contract.** -/
theorem builtProblem_facts (document : PlanningProblem)
    (h : validateBuiltProblemV2 document = .ok ()) :
    ∃ horizonStart horizonEnd, ContractFacts document horizonStart horizonEnd := by
  simp only [validateBuiltProblemV2, bind_eq_ok, exists_unit_iff] at h
  obtain ⟨-, -, hcontract⟩ := h
  split at hcontract
  · cases hcontract
  · rename_i hok
    exact contract_facts document hok

theorem builtProblem_fields (document : PlanningProblem)
    (h : validateBuiltProblemV2 document = .ok ()) :
    ∀ operation ∈ document.operationInstances, ExactOperationFields operation := by
  simp only [validateBuiltProblemV2, bind_eq_ok, exists_unit_iff] at h
  have hshape := h.1
  rw [validateExactShapeV2, forEach_eq_ok_iff ExactOperationFields] at hshape
  · exact hshape
  · intro operation _ i
    rw [require_eq_ok]

/-! ### Immutable problems -/

/-- `ImmutablePlanningProblemV2`, its bytes decoded. -/
structure ImmutablePlanningProblemV2 where
  document : PlanningProblem
  problemHash : String
  snapshotId : String
  problemBuilderVersion : String

/-- `verify_problem_v2`; the bytes are canonical when the document is its canonical form. -/
def verifyProblemV2 (problem : ImmutablePlanningProblemV2) :
    Except PlanningProblemError Unit := do
  let document := problem.document
  validateBuiltProblemV2 document
  require (canonicalProblemDocumentV2 document = document)
    ⟨.hashMismatch, "canonical_bytes", problem.snapshotId, problemCanonicalizationVersion,
      "Problem bytes are not in canonical order"⟩
  let expectedHash := problemV2HashFor document
  require (document.problemHash = expectedHash ∧ problem.problemHash = expectedHash ∧
      problem.snapshotId = document.snapshotId ∧
      problem.problemBuilderVersion = document.problemBuilderVersion)
    ⟨.hashMismatch, "problem_hash", problem.snapshotId,
      "content-derived v2 Problem hash and matching metadata",
      "Problem identity does not match its canonical content"⟩

theorem verifyProblemV2_eq_ok (problem : ImmutablePlanningProblemV2) :
    verifyProblemV2 problem = .ok () ↔
      validateBuiltProblemV2 problem.document = .ok () ∧
        canonicalProblemDocumentV2 problem.document = problem.document ∧
        problem.document.problemHash = problemV2HashFor problem.document ∧
        problem.problemHash = problemV2HashFor problem.document ∧
        problem.snapshotId = problem.document.snapshotId ∧
        problem.problemBuilderVersion = problem.document.problemBuilderVersion := by
  simp only [verifyProblemV2, bind_unit_eq_ok, require_eq_ok]

/-! ### Sealing -/

/-- The document with its content-derived hash. -/
def sealProblem (problem : PlanningProblem) : PlanningProblem :=
  { problem with problemHash := problemV2HashFor problem }

/-- A sealed document in canonical order that passes the contract is verified. -/
theorem verifyProblemV2_seal (problem : PlanningProblem)
    (hcanonical : canonicalProblemDocumentV2 problem = problem)
    (hvalid : validateBuiltProblemV2 (sealProblem problem) = .ok ()) :
    verifyProblemV2 ⟨sealProblem problem, problemV2HashFor problem, problem.snapshotId,
      problem.problemBuilderVersion⟩ = .ok () := by
  rw [verifyProblemV2_eq_ok]
  refine ⟨hvalid, ?_, rfl, rfl, rfl, rfl⟩
  simp only [sealProblem]
  rw [canonicalProblemDocumentV2] at hcanonical ⊢
  rw [PlanningProblem.mk.injEq] at hcanonical ⊢
  tauto

/-! ### A plain problem -/

def plainDemand : DeliveryDemand where
  demandOrderId := "D1"
  dueAtUtc := "2026-01-01T04:00:00Z"
  dueSourceSystem := "ERP"
  dueSourceVersion := "1"
  dueSourceRecordId := "D1"
  priorityWeight := 1
  prioritySourceSystem := "ERP"
  prioritySourceVersion := "1"
  prioritySourceRecordId := "D1"

def plainResource : Resource where
  resourceId := "R1"
  resourceCode := "R1"
  resourceType := "MACHINE"
  status := "AVAILABLE"
  factoryId := "F1"
  workshopId := "W1"
  productionLineId := "L1"
  resourceGroupId := "G1"
  calendarId := "CAL1"
  capabilities := []
  capacity := 1

/-- One minute on the plain resource, not started. -/
def plainOperation (operationId : String) : OperationInstance where
  operationId
  demandOrderId := "D1"
  status := .notStarted
  releaseAtUtc := "2026-01-01T00:00:00Z"
  materialReadyAtUtc := "2026-01-01T00:00:00Z"
  requiredCapabilities := []
  resourceOptions := [⟨"R1", 0, 60, 60, "STANDARD", "1"⟩]
  actualStartAtUtc := none
  assignedResourceId := none
  remainingSeconds := none

/-- Four hours in ticks of one minute, with nothing to plan. -/
def plainProblem : PlanningProblem where
  problemVersion := planningProblemVersionV2
  schemaSetVersion := problemSchemaSetVersionV2
  snapshotId := "S1"
  problemBuilderVersion := problemBuilderVersionV2
  problemHash := ""
  canonicalizationVersion := problemCanonicalizationVersion
  problemHashProjectionVersion := problemHashProjectionVersionV2
  tickSeconds := 60
  horizonStartUtc := "2026-01-01T00:00:00Z"
  horizonEndUtc := "2026-01-01T04:00:00Z"
  deliveryDemands := [plainDemand]
  resources := [plainResource]
  operationInstances := []
  historicalCompletionAnchors := []
  precedenceEdges := []
  operationLocks := []
  resourceUnavailableIntervals := []
  requiredCapabilities := []

end PlantNexus.Problem
