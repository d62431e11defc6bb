import PlantNexus.Problem.Hashing
import PlantNexus.Snapshot.Canonical

/-! Building a `planning-problem.v2` document from a snapshot.

`buildPlanningProblemV2` verifies the snapshot and the configuration, projects operations,
delivery demands, resources, precedence edges, historical anchors, locks and unavailable
intervals one after the other, and seals the canonical document. A value that the verified
snapshot has already been checked for is read through that check: its instants parse and its
durations are not negative. -/
namespace PlantNexus.Problem
open Data Time Domain Snapshot

/-! ### Configuration -/

/-- An instant of a verified snapshot. -/
def snapshotInstant (value : String) : Except PlanningProblemError Datetime :=
  (parseUtcInstant value).mapError fun message =>
    ⟨.invalidSnapshot, "snapshot", value, "RFC 3339 UTC instant", message⟩

/-- `_second_precision_utc` -/
def secondPrecisionUtc (value field snapshotId : String) : Except PlanningProblemError Datetime :=
  let refused : PlanningProblemError :=
    ⟨.invalidBuildConfig, field, snapshotId, "second-precision RFC 3339 UTC instant ending in Z",
      "Planning horizon instant is invalid"⟩
  match parseUtcInstant value with
  | .ok parsed => do
    require (formatUtcInstant parsed = value) refused
    return parsed
  | .error _ => .error refused

/-- What a problem is built with beside the snapshot. -/
structure BuildConfig where
  problemBuilderVersion : String
  tickSeconds : Int
  horizonStartUtc : String
  horizonEndUtc : String

/-- `_validate_config_v2` -/
def validateConfigV2 (s : PlanningSnapshot) (config : BuildConfig) :
    Except PlanningProblemError (Datetime × Datetime) := do
  require (config.problemBuilderVersion = problemBuilderVersionV2)
    ⟨.invalidBuilderVersion, "problem_builder_version", s.snapshotId, problemBuilderVersionV2,
      "Builder semantics cannot be relabelled with another version"⟩
  require (0 < config.tickSeconds)
    ⟨.invalidBuildConfig, "tick_seconds", s.snapshotId, "positive integer solver tick",
      "Planning tick is invalid"⟩
  let horizonStart ← secondPrecisionUtc config.horizonStartUtc "horizon_start_utc" s.snapshotId
  let horizonEnd ← secondPrecisionUtc config.horizonEndUtc "horizon_end_utc" s.snapshotId
  require (config.horizonStartUtc = s.cutoffAtUtc)
    ⟨.invalidBuildConfig, "horizon_start_utc", s.snapshotId,
      "horizon start exactly equal to Snapshot cutoff",
      "Problem cannot skip or replay time outside its Snapshot boundary"⟩
  require (horizonStart < horizonEnd)
    ⟨.invalidBuildConfig, "horizon_end_utc", s.snapshotId,
      "horizon end strictly after horizon start", "Planning horizon is empty or reversed"⟩
  return (horizonStart, horizonEnd)

/-! ### Operations -/

/-- `_project_options` -/
def projectOptions (o : Snapshot.OperationInstance) : List ResourceOption :=
  o.resourceOptions.map fun option =>
    ⟨option.resourceId, option.setupSeconds, option.cycleSecondsPerUnit,
      option.finalDurationSeconds, option.durationSource, option.sourceVersion⟩

/-- The fields that every projected operation has. -/
def projectedOperation (o : Snapshot.OperationInstance) (status : OperationStatus) :
    OperationInstance where
  operationId := o.operationInstanceId
  demandOrderId := o.demandOrderId
  status
  releaseAtUtc := o.releaseAtUtc
  materialReadyAtUtc := o.materialReadyAtUtc
  requiredCapabilities := o.requiredCapabilities
  resourceOptions := projectOptions o
  actualStartAtUtc := none
  assignedResourceId := none
  remainingSeconds := none

section
variable (s : PlanningSnapshot)

/-- The fact that an operation names. -/
def namedFact (o : Snapshot.OperationInstance) : Option ExecutionFactRecord :=
  o.executionFactId.bind s.records.fact?

/-- A running operation keeps its fact; what is left of it must fit into the horizon. -/
def projectRunning (tick horizonSeconds : Int) (o : Snapshot.OperationInstance) :
    Except PlanningProblemError OperationInstance := do
  match namedFact s o with
  | none =>
    .error ⟨.missingProblemFact, "operation_instances.execution_fact_id", o.operationInstanceId,
      "one matching RUNNING execution fact", "RUNNING operation has no resolvable execution fact"⟩
  | some fact =>
    match fact.actualStartAtUtc, fact.resourceId, fact.remainingSeconds with
    | some start, some resourceId, some remaining => do
      require (durationTicks remaining tick * tick ≤ horizonSeconds)
        ⟨.invalidBuildConfig, "horizon_end_utc", o.operationInstanceId,
          "horizon contains the full ceiled RUNNING remainder",
          "Planning horizon would truncate RUNNING occupancy"⟩
      return { projectedOperation o .running with
        actualStartAtUtc := some start
        assignedResourceId := some resourceId
        remainingSeconds := some remaining }
    | _, _, _ =>
      .error ⟨.missingProblemFact, "records.execution_facts", o.operationInstanceId,
        "actual start, assigned resource, and remaining seconds",
        "RUNNING fact is incomplete for Problem projection"⟩

/-- An operation that has not started fits into the horizon with one of its options. -/
def projectNotStarted (tick : Int) (horizonStart horizonEnd : Datetime)
    (o : Snapshot.OperationInstance) : Except PlanningProblemError OperationInstance := do
  let release ← snapshotInstant o.releaseAtUtc
  let material ← snapshotInstant o.materialReadyAtUtc
  let earliestStart := max (max horizonStart release) material
  let availableSeconds := wholeSeconds (horizonEnd.sub earliestStart)
  let optionTicks := (projectOptions o).map fun option =>
    durationTicks option.finalDurationSeconds tick
  require (0 < availableSeconds ∧ ∃ ticks ∈ optionTicks, ticks * tick ≤ availableSeconds)
    ⟨.invalidBuildConfig, "horizon_end_utc", o.operationInstanceId,
      "horizon contains at least one full ceiled candidate duration after release/material gates",
      "Planning horizon would truncate every candidate"⟩
  return projectedOperation o .notStarted

/-- The projection of one expanded operation, if it is active. -/
def projectInstance (tick : Int) (horizonStart horizonEnd : Datetime)
    (o : Snapshot.OperationInstance) : Except PlanningProblemError (Option OperationInstance) :=
  match o.status with
  | .completed => .ok none
  | .running => some <$>
      projectRunning s tick (wholeSeconds (horizonEnd.sub horizonStart)) o
  | .notStarted => some <$> projectNotStarted tick horizonStart horizonEnd o

/-- `_project_operations_v2` -/
def projectOperationsV2 (tick : Int) (horizonStart horizonEnd : Datetime) :
    Except PlanningProblemError (List OperationInstance) := do
  let projected ← collect (projectInstance s tick horizonStart horizonEnd) s.operationInstances
  return projected.filterMap id

/-- The operations that are not completed. -/
def activeInstanceIds : List String :=
  (s.operationInstances.filter fun o => o.status ≠ .completed).map
    Snapshot.OperationInstance.operationInstanceId

def completedIds : List String :=
  (s.operationInstances.filter fun o => o.status = .completed).map
    Snapshot.OperationInstance.operationInstanceId

/-- `instances_by_id` -/
def instanceById (id : String) : Option Snapshot.OperationInstance :=
  dictGet Snapshot.OperationInstance.operationInstanceId s.operationInstances id

/-! ### Delivery demands -/

def priorityFields : List String :=
  ["priority_weight", "source_system", "source_version", "source_record_id"]

/-- The source of a priority has three texts. -/
def checkPrioritySource (demandId : String) (priority : Json) :
    Except PlanningProblemError Unit :=
  forEach
    (fun _ field =>
      require (hasText (priority.get field).text = true)
        ⟨.invalidPriorityFact, s!"priority_facts.{demandId}.{field}", demandId,
          "explicit non-empty versioned source reference", "Priority provenance is incomplete"⟩)
    ["source_system", "source_version", "source_record_id"]

def priorityWeight (demandId : String) (priority : Json) : Except PlanningProblemError Int :=
  let refused : PlanningProblemError :=
    ⟨.invalidPriorityFact, s!"priority_facts.{demandId}.priority_weight", demandId,
      "positive integer priority weight",
      "Priority weight cannot be missing, boolean, zero, or negative"⟩
  match priority.get "priority_weight" with
  | .int weight => do
    require (1 ≤ weight) refused
    return weight
  | _ => .error refused

def projectDemand (priorityFacts : List (String × Json)) (demandId : String) :
    Except PlanningProblemError DeliveryDemand :=
  match s.records.demand? demandId, dictValue priorityFacts demandId with
  | some demand, some priority => do
    require ((∀ key ∈ priority.keys, key ∈ priorityFields) ∧
        ∀ key ∈ priorityFields, key ∈ priority.keys)
      ⟨.invalidPriorityFact, s!"priority_facts.{demandId}", demandId,
        "exact fields " ++ fieldListText priorityFields,
        "Priority fact is incomplete or contains implicit metadata"⟩
    let weight ← priorityWeight demandId priority
    checkPrioritySource demandId priority
    return ⟨demandId, demand.dueAtUtc, demand.source.sourceSystem, demand.source.sourceVersion,
      demand.source.sourceRecordId, weight, (priority.get "source_system").text,
      (priority.get "source_version").text, (priority.get "source_record_id").text⟩
  | _, _ =>
    .error ⟨.missingProblemFact, "records.demand_orders", demandId,
      "canonical demand order referenced by active operation",
      "Delivery demand is missing from the immutable Snapshot"⟩

/-- `_project_delivery_demands_v2` -/
def projectDeliveryDemandsV2 (activeDemandIds : List String)
    (priorityFacts : List (String × Json)) :
    Except PlanningProblemError (List DeliveryDemand) := do
  let supplied := priorityFacts.map Prod.fst
  let missing := activeDemandIds.filter (· ∉ supplied)
  let extra := supplied.filter (· ∉ activeDemandIds)
  require (missing = [] ∧ extra = [])
    ⟨.invalidPriorityFact, "priority_facts", s.snapshotId,
      "exactly one explicit priority fact per active demand",
      "Priority fact coverage differs; missing=" ++ fieldListText missing ++ ", extra=" ++
        fieldListText extra⟩
  collect (projectDemand s priorityFacts) (sortByKey id activeDemandIds)

/-! ### Resources -/

def projectResource (resource : ResourceRecord) : Except PlanningProblemError Resource :=
  let r := s.records
  let group? := dictGet ResourceGroupRecord.resourceGroupId r.resourceGroups
    resource.resourceGroupId
  let line? := group?.bind fun group =>
    dictGet ProductionLineRecord.productionLineId r.productionLines group.productionLineId
  let workshop? := line?.bind fun line =>
    dictGet WorkshopRecord.workshopId r.workshops line.workshopId
  match group?, line?, workshop? with
  | some group, some line, some workshop =>
    .ok ⟨resource.resourceId, resource.resourceCode, resource.resourceType, resource.status,
      workshop.factoryId, workshop.workshopId, line.productionLineId, group.resourceGroupId,
      resource.calendarId, resource.capabilities, 1⟩
  | _, _, _ =>
    .error ⟨.missingProblemFact, "records.resources.resource_group_id", resource.resourceId,
      "complete resource-to-factory topology", "Resource topology cannot be projected"⟩

/-- `_project_resources_v2` -/
def projectResourcesV2 : Except PlanningProblemError (List Resource) :=
  collect (projectResource s) s.records.resources

/-! ### Precedence -/

def projectedEdge (edge : OperationPrecedenceEdge) : PrecedenceEdge :=
  ⟨edge.operationPrecedenceEdgeId, edge.predecessorOperationInstanceId,
    edge.successorOperationInstanceId, edge.minLagSeconds, edge.transportLagSeconds,
    edge.maxLagSeconds⟩

/-- The projection of one edge, unless both of its operations are completed. -/
def projectEdge (edge : OperationPrecedenceEdge) :
    Except PlanningProblemError (Option PrecedenceEdge) := do
  let predecessor := edge.predecessorOperationInstanceId
  let successor := edge.successorOperationInstanceId
  if predecessor ∈ completedIds s ∧ successor ∈ completedIds s then return none
  require (¬(predecessor ∈ activeInstanceIds s ∧ successor ∈ completedIds s))
    ⟨.invalidHistoricalFact, "operation_precedence_edges", edge.operationPrecedenceEdgeId,
      "COMPLETED operations cannot follow active operations",
      "Snapshot status order conflicts with precedence history"⟩
  require (successor ∈ activeInstanceIds s ∧ (predecessor ∈ activeInstanceIds s ∨ predecessor ∈ completedIds s))
    ⟨.invalidHistoricalFact, "operation_precedence_edges", edge.operationPrecedenceEdgeId,
      "active successor with active or COMPLETED predecessor",
      "Precedence endpoint status cannot be represented in v2"⟩
  return some (projectedEdge edge)

/-- `_project_edges_v2` -/
def projectEdgesV2 : Except PlanningProblemError (List PrecedenceEdge) := do
  let projected ← collect (projectEdge s) s.operationPrecedenceEdges
  return projected.filterMap id

/-- The completed operations that a projected edge starts from. -/
def anchorOperationIds (edges : List PrecedenceEdge) : List String :=
  ((edges.map PrecedenceEdge.predecessorOperationId).filter (· ∈ completedIds s)).dedup

def projectAnchor (horizonStart : Datetime) (operationId : String) :
    Except PlanningProblemError HistoricalCompletionAnchor := do
  let missing : PlanningProblemError :=
    ⟨.invalidHistoricalFact, "records.execution_facts", operationId,
      "complete COMPLETED execution fact",
      "Historical precedence anchor is missing or incomplete"⟩
  match (instanceById s operationId).bind (namedFact s) with
  | none => .error missing
  | some fact =>
    require (fact.status = .completed) missing
    match fact.resourceId, fact.actualStartAtUtc, fact.actualEndAtUtc with
    | some resourceId, some start, some stop => do
      let completion ← snapshotInstant stop
      require (completion ≤ horizonStart)
        ⟨.invalidHistoricalFact, "records.execution_facts.actual_end_at_utc", operationId,
          "completion no later than Snapshot cutoff",
          "Future completion cannot anchor a planning boundary"⟩
      return ⟨operationId, fact.executionFactId, resourceId, start, stop,
        fact.source.sourceSystem, fact.source.sourceVersion, fact.source.sourceRecordId⟩
    | _, _, _ => .error missing

/-- `_project_historical_anchors_v2` -/
def projectHistoricalAnchorsV2 (edges : List PrecedenceEdge) (horizonStart : Datetime) :
    Except PlanningProblemError (List HistoricalCompletionAnchor) :=
  collect (projectAnchor s horizonStart) (sortByKey id (anchorOperationIds s edges))

/-! ### Locks -/

/-- One lock of an operation, unless it has ended; `seen` are the locks before it. -/
def projectLock (horizonStart : Datetime) (o : Snapshot.OperationInstance)
    (projected : List OperationLock) (lockId : String) :
    Except PlanningProblemError (List OperationLock) :=
  match s.records.lock? lockId with
  | none =>
    .error ⟨.invalidLockFact, "operation_instances.lock_ids", o.operationInstanceId,
      "referenced canonical operation lock", "Operation lock reference is missing"⟩
  | some lock => do
    let stop ← snapshotInstant lock.endAtUtc
    if stop ≤ horizonStart then return projected
    require (lock.resourceId ∈ o.resourceOptions.map OperationResourceOption.resourceId)
      ⟨.invalidLockFact, "records.operation_locks.resource_id", lockId,
        "lock resource is an operation candidate", "Lock cannot be applied to this operation"⟩
    require (lockId ∉ projected.map OperationLock.lockId)
      ⟨.invalidLockFact, "operation_instances.lock_ids", lockId,
        "one active operation owns each lock", "Lock is referenced more than once"⟩
    return projected ++ [⟨lockId, o.operationInstanceId, lock.lockType, lock.resourceId,
      lock.startAtUtc, lock.endAtUtc, lock.source.sourceSystem, lock.source.sourceVersion,
      lock.source.sourceRecordId⟩]

/-- `_project_locks_v2` -/
def projectLocksV2 (horizonStart : Datetime) :
    Except PlanningProblemError (List OperationLock) :=
  (sortByKey id (activeInstanceIds s)).foldlM
    (fun projected operationId =>
      match instanceById s operationId with
      | none => .ok projected
      | some o => o.lockIds.foldlM (projectLock s horizonStart o) projected)
    []

/-! ### Calendars -/

/-- The intervals of one resource that meet the horizon. -/
def projectResourceIntervals (horizonStart horizonEnd : Datetime) (resource : ResourceRecord) :
    Except PlanningProblemError (List UnavailableInterval) :=
  match dictGet CalendarRecord.calendarId s.records.calendars resource.calendarId with
  | none =>
    .error ⟨.missingProblemFact, "records.resources.calendar_id", resource.resourceId,
      "referenced Calendar in immutable Snapshot", "Resource calendar is missing"⟩
  | some calendar => do
    let intervals ← collect
      (fun (interval : UnavailableIntervalRecord) => do
        let start ← snapshotInstant interval.startAtUtc
        let stop ← snapshotInstant interval.endAtUtc
        if horizonEnd ≤ start ∨ stop ≤ horizonStart then return none
        return some (⟨resource.calendarId, resource.resourceId, interval.startAtUtc,
          interval.endAtUtc⟩ : UnavailableInterval))
      calendar.unavailableIntervals
    return intervals.filterMap id

/-- `_project_unavailable_intervals_v2` -/
def projectUnavailableIntervalsV2 (horizonStart horizonEnd : Datetime) :
    Except PlanningProblemError (List UnavailableInterval) := do
  let intervals ← collect (projectResourceIntervals s horizonStart horizonEnd) s.records.resources
  return intervals.flatten

/-! ### Capabilities -/

/-- `_required_capabilities_v2`; the names are among those of the registry. -/
def requiredCapabilitiesV2 (operations : List OperationInstance)
    (intervals : List UnavailableInterval) (locks : List OperationLock) : List String :=
  let routing : List CapabilityName :=
    if operations = [] then []
    else
      [.dagRouting, .releaseAndMaterialGate] ++
        (if 1 < s.records.workshops.length then [.singleFactoryMultiWorkshop] else []) ++
        (if operations.any fun o => 1 < o.resourceOptions.length then [.alternativeResource]
          else []) ++
        (if operations.any fun o => o.status = .running then [.runningOperation] else [])
  let calendar : List CapabilityName := if intervals = [] then [] else [.machineCalendar]
  let lock : List CapabilityName := if locks = [] then [] else [.hardSoftLock]
  sortByKey id ((routing ++ calendar ++ lock).map CapabilityName.text)

end

/-! ### The problem -/

/-- The document of the projections, before it is sealed. -/
def builtDocument (snapshotId : String) (config : BuildConfig) (demands : List DeliveryDemand)
    (resources : List Resource) (operations : List OperationInstance)
    (anchors : List HistoricalCompletionAnchor) (edges : List PrecedenceEdge)
    (locks : List OperationLock) (intervals : List UnavailableInterval)
    (capabilities : List String) : PlanningProblem where
  problemVersion := planningProblemVersionV2
  schemaSetVersion := problemSchemaSetVersionV2
  snapshotId
  problemBuilderVersion := config.problemBuilderVersion
  problemHash := ""
  canonicalizationVersion := problemCanonicalizationVersion
  problemHashProjectionVersion := problemHashProjectionVersionV2
  tickSeconds := config.tickSeconds
  horizonStartUtc := config.horizonStartUtc
  horizonEndUtc := config.horizonEndUtc
  deliveryDemands := demands
  resources
  operationInstances := operations
  historicalCompletionAnchors := anchors
  precedenceEdges := edges
  operationLocks := locks
  resourceUnavailableIntervals := intervals
  requiredCapabilities := capabilities

/-- `build_planning_problem_v2` -/
def buildPlanningProblemV2 (snapshot : ImmutablePlanningSnapshot)
    (priorityFacts : List (String × Json)) (config : BuildConfig) :
    Except PlanningProblemError ImmutablePlanningProblemV2 := do
  (verifySnapshot snapshot).mapError fun error =>
    ⟨.invalidSnapshot, error.field, snapshot.snapshotId, "verified immutable planning-snapshot.v2",
      "Snapshot integrity or provenance validation failed"⟩
  let s := snapshot.document
  let (horizonStart, horizonEnd) ← validateConfigV2 s config
  require (s.records.factories.length ≤ 1)
    ⟨.unsupportedProblemFact, "records.factories", snapshot.snapshotId,
      "single-factory PlanningProblem v2", "MULTI_FACTORY is not a registered v1 capability"⟩
  let operations ← projectOperationsV2 s config.tickSeconds horizonStart horizonEnd
  let demands ← projectDeliveryDemandsV2 s (operations.map OperationInstance.demandOrderId).dedup
    priorityFacts
  let resources ← projectResourcesV2 s
  let edges ← projectEdgesV2 s
  let anchors ← projectHistoricalAnchorsV2 s edges horizonStart
  let locks ← projectLocksV2 s horizonStart
  let intervals ← projectUnavailableIntervalsV2 s horizonStart horizonEnd
  let capabilities := requiredCapabilitiesV2 s operations intervals locks
  let canonical := canonicalProblemDocumentV2
    (builtDocument snapshot.snapshotId config demands resources operations anchors edges locks
      intervals capabilities)
  let canonical := sealProblem canonical
  validateBuiltProblemV2 canonical
  let problem : ImmutablePlanningProblemV2 :=
    ⟨canonical, canonical.problemHash, canonical.snapshotId, canonical.problemBuilderVersion⟩
  verifyProblemV2 problem
  return problem

end PlantNexus.Problem
