import PlantNexus.Data.Checks
import PlantNexus.Domain.Types
import PlantNexus.Problem.Contracts

/-! The semantic precheck of a `planning-problem.v2` document.

`validatePlanningProblemV2Contract` runs the checks of
`validate_planning_problem_v2_contract` in their order and stops at the first
violation. `contract_facts` collects what a document that passes is known to satisfy;
everything proved about contract-valid problems starts there. -/
namespace PlantNexus.Domain
open Data Time Problem

inductive ProductErrorCode where
  | invalidTime
  | duplicateId
  | invalidDuration
  | invalidTimeRange
  | missingRunningFact
  | invalidReference
  | invalidLagRange
  | duplicateCapability
  | missingScenarioId
  | syntheticReferenceInProduction
  | invalidEntityCount
deriving DecidableEq, Repr

structure ContractViolation where
  code : ProductErrorCode
  field : String
  message : String
deriving DecidableEq, Repr

/-- `_utc` -/
def utc (value field : String) : Except ContractViolation Datetime :=
  match parseUtcInstant value with
  | .ok d => .ok d
  | .error message => .error ⟨.invalidTime, field, message⟩

/-- `_unique` -/
def unique (values : List String) (field : String) : Except ContractViolation Unit :=
  require values.Nodup ⟨.duplicateId, field, "IDs must be unique"⟩

/-- `_non_empty` -/
def nonEmpty (value field : String) : Except ContractViolation Unit :=
  require (hasText value = true)
    ⟨.invalidReference, field, "value must be an explicit non-empty string"⟩

/-- `_non_empty` of several fields of one record. -/
def nonEmptyFields (field : String) (values : List (String × String)) :
    Except ContractViolation Unit :=
  forEach (fun _ value => nonEmpty value.2 s!"{field}.{value.1}") values

/-- A duration helper's `ContractValueError` at a field. -/
def durationAt (field : String) (result : Except String Int) : Except ContractViolation Int :=
  match result with
  | .ok value => .ok value
  | .error message => .error ⟨.invalidDuration, field, message⟩

/-! ### The records -/

def checkDemand (index : Nat) (demand : DeliveryDemand) : Except ContractViolation Unit := do
  let field := s!"delivery_demands[{index}]"
  let _ ← utc demand.dueAtUtc s!"{field}.due_at_utc"
  require (1 ≤ demand.priorityWeight)
    ⟨.invalidReference, s!"{field}.priority_weight",
      "priority weight must be an explicit positive integer"⟩
  nonEmptyFields field
    [("due_source_system", demand.dueSourceSystem),
     ("due_source_version", demand.dueSourceVersion),
     ("due_source_record_id", demand.dueSourceRecordId),
     ("priority_source_system", demand.prioritySourceSystem),
     ("priority_source_version", demand.prioritySourceVersion),
     ("priority_source_record_id", demand.prioritySourceRecordId)]

def checkResource (index : Nat) (resource : Resource) : Except ContractViolation Unit := do
  let field := s!"resources[{index}]"
  require (resource.capacity = 1)
    ⟨.invalidReference, s!"{field}.capacity",
      "v2 primary-resource capacity must be exactly integer 1"⟩
  nonEmptyFields field
    [("resource_code", resource.resourceCode), ("resource_type", resource.resourceType),
     ("status", resource.status), ("factory_id", resource.factoryId),
     ("workshop_id", resource.workshopId), ("production_line_id", resource.productionLineId),
     ("resource_group_id", resource.resourceGroupId), ("calendar_id", resource.calendarId)]
  unique resource.capabilities s!"{field}.capabilities"
  forEach (fun i capability => nonEmpty capability s!"{field}.capabilities[{i}]")
    resource.capabilities

def checkOption (problem : PlanningProblem) (field : String) (index : Nat)
    (option : ResourceOption) : Except ContractViolation Unit := do
  let optionField := s!"{field}.resource_options[{index}]"
  require (option.resourceId ∈ problem.resources.map Resource.resourceId)
    ⟨.invalidReference, s!"{optionField}.resource_id",
      "candidate resource is absent from resources"⟩
  let _ ← durationAt optionField (requireDurationSeconds option.setupSeconds)
  let _ ← durationAt optionField (requireDurationSeconds option.cycleSecondsPerUnit)
  let _ ← durationAt optionField (requireDurationSeconds option.finalDurationSeconds false)
  let _ ← durationAt optionField
    (durationToTicks option.finalDurationSeconds problem.tickSeconds)
  nonEmpty option.durationSource s!"{optionField}.duration_source"
  nonEmpty option.sourceVersion s!"{optionField}.source_version"

/-- The execution fact a running operation must carry. -/
def checkRunning (field : String) (operation : OperationInstance) :
    Except ContractViolation Unit :=
  match operation.actualStartAtUtc, operation.assignedResourceId,
    operation.remainingSeconds with
  | some actualStart, some assignedResource, some remaining => do
    let _ ← utc actualStart s!"{field}.actual_start_at_utc"
    require (assignedResource ∈ operation.optionResources)
      ⟨.invalidReference, s!"{field}.assigned_resource_id",
        "RUNNING resource must be an operation candidate"⟩
    let _ ← durationAt s!"{field}.remaining_seconds" (requireDurationSeconds remaining false)
    return
  | _, _, _ =>
    .error ⟨.missingRunningFact, field,
      "RUNNING operation requires actual start, resource, and remainder"⟩

def checkOperation (problem : PlanningProblem) (index : Nat) (operation : OperationInstance) :
    Except ContractViolation Unit := do
  let field := s!"operation_instances[{index}]"
  require (operation.demandOrderId ∈ problem.deliveryDemands.map DeliveryDemand.demandOrderId)
    ⟨.invalidReference, s!"{field}.demand_order_id",
      "operation demand is absent from delivery_demands"⟩
  let _ ← utc operation.releaseAtUtc s!"{field}.release_at_utc"
  let _ ← utc operation.materialReadyAtUtc s!"{field}.material_ready_at_utc"
  unique operation.requiredCapabilities s!"{field}.required_capabilities"
  forEach (checkOption problem field) operation.resourceOptions
  require (operation.resourceOptions ≠ [])
    ⟨.invalidReference, s!"{field}.resource_options",
      "at least one candidate resource is required"⟩
  unique operation.optionResources s!"{field}.resource_options.resource_id"
  if operation.status = .running then checkRunning field operation else .ok ()

def checkAnchor (problem : PlanningProblem) (horizonStart : Datetime) (index : Nat)
    (anchor : HistoricalCompletionAnchor) : Except ContractViolation Unit := do
  let field := s!"historical_completion_anchors[{index}]"
  require (anchor.resourceId ∈ problem.resources.map Resource.resourceId)
    ⟨.invalidReference, s!"{field}.resource_id", "historical resource is absent from resources"⟩
  let start ← utc anchor.actualStartAtUtc s!"{field}.actual_start_at_utc"
  let stop ← utc anchor.actualEndAtUtc s!"{field}.actual_end_at_utc"
  require (¬(start ≥ stop ∨ stop > horizonStart))
    ⟨.invalidTimeRange, s!"{field}.actual_end_at_utc",
      "historical completion must end no later than the Snapshot cutoff"⟩
  nonEmptyFields field
    [("source_system", anchor.sourceSystem), ("source_version", anchor.sourceVersion),
     ("source_record_id", anchor.sourceRecordId)]

def checkEdge (problem : PlanningProblem) (index : Nat) (edge : PrecedenceEdge) :
    Except ContractViolation Unit := do
  let field := s!"precedence_edges[{index}]"
  let active := problem.operationInstances.map OperationInstance.operationId
  let anchors := problem.historicalCompletionAnchors.map HistoricalCompletionAnchor.operationId
  require (¬(edge.predecessorOperationId ∉ active ++ anchors ∨
      edge.successorOperationId ∉ active))
    ⟨.invalidReference, field,
      "edge must point from an active operation or historical anchor to an active operation"⟩
  require (edge.predecessorOperationId ≠ edge.successorOperationId)
    ⟨.invalidReference, field, "self edge is invalid"⟩
  let _ ← durationAt field (requireDurationSeconds edge.minLagSeconds)
  let _ ← durationAt field (requireDurationSeconds edge.transportLagSeconds)
  match edge.maxLagSeconds with
  | none => return
  | some maximum =>
    let _ ← durationAt field (requireDurationSeconds maximum)
    require (¬maximum < edge.minLagSeconds)
      ⟨.invalidLagRange, s!"{field}.max_lag_seconds",
        "max lag must be greater than or equal to min lag"⟩

def checkLock (problem : PlanningProblem) (horizonStart : Datetime) (index : Nat)
    (lock : OperationLock) : Except ContractViolation Unit := do
  let field := s!"operation_locks[{index}]"
  match dictGet OperationInstance.operationId problem.operationInstances lock.operationId with
  | none =>
    .error ⟨.invalidReference, s!"{field}.operation_id",
      "lock operation is absent from active operation_instances"⟩
  | some operation =>
    require (lock.resourceId ∈ operation.optionResources)
      ⟨.invalidReference, s!"{field}.resource_id",
        "lock resource must be an operation candidate"⟩
    let start ← utc lock.startAtUtc s!"{field}.start_at_utc"
    let stop ← utc lock.endAtUtc s!"{field}.end_at_utc"
    require (¬(start ≥ stop ∨ stop ≤ horizonStart))
      ⟨.invalidTimeRange, s!"{field}.end_at_utc",
        "v2 Problem contains only locks active after the Snapshot cutoff"⟩
    nonEmptyFields field
      [("source_system", lock.sourceSystem), ("source_version", lock.sourceVersion),
       ("source_record_id", lock.sourceRecordId)]

def checkInterval (problem : PlanningProblem) (horizonStart horizonEnd : Datetime) (index : Nat)
    (interval : UnavailableInterval) : Except ContractViolation Unit := do
  let field := s!"resource_unavailable_intervals[{index}]"
  match dictGet Resource.resourceId problem.resources interval.resourceId with
  | none =>
    .error ⟨.invalidReference, s!"{field}.resource_id",
      "interval resource is absent from resources"⟩
  | some resource =>
    require (interval.calendarId = resource.calendarId)
      ⟨.invalidReference, s!"{field}.calendar_id",
        "interval calendar differs from the resource calendar"⟩
    let start ← utc interval.startUtc s!"{field}.start_utc"
    let stop ← utc interval.endUtc s!"{field}.end_utc"
    require (¬(start ≥ stop ∨ start ≥ horizonEnd ∨ stop ≤ horizonStart))
      ⟨.invalidTimeRange, field, "unavailable interval must intersect the planning horizon"⟩

/-- The key of a precedence edge's pair of operations. -/
def logicalPair (edge : PrecedenceEdge) : String :=
  edge.predecessorOperationId ++ "\x00" ++ edge.successorOperationId

def intervalKey (interval : UnavailableInterval) : String :=
  interval.resourceId ++ "\x00" ++ interval.calendarId ++ "\x00" ++ interval.startUtc ++
    "\x00" ++ interval.endUtc

/-- `validate_planning_problem_v2_contract` -/
def validatePlanningProblemV2Contract (problem : PlanningProblem) :
    Except ContractViolation Unit := do
  let _ ← durationAt "tick_seconds" (requireTickSeconds problem.tickSeconds)
  let horizonStart ← utc problem.horizonStartUtc "horizon_start_utc"
  let horizonEnd ← utc problem.horizonEndUtc "horizon_end_utc"
  require (¬horizonStart ≥ horizonEnd)
    ⟨.invalidTimeRange, "horizon_end_utc", "horizon end must be after horizon start"⟩
  unique (problem.deliveryDemands.map DeliveryDemand.demandOrderId)
    "delivery_demands.demand_order_id"
  forEach checkDemand problem.deliveryDemands
  unique (problem.resources.map Resource.resourceId) "resources.resource_id"
  forEach checkResource problem.resources
  unique (problem.operationInstances.map OperationInstance.operationId)
    "operation_instances.operation_id"
  forEach (checkOperation problem) problem.operationInstances
  unique (problem.historicalCompletionAnchors.map HistoricalCompletionAnchor.operationId)
    "historical_completion_anchors.operation_id"
  unique (problem.historicalCompletionAnchors.map HistoricalCompletionAnchor.executionFactId)
    "historical_completion_anchors.execution_fact_id"
  require (∀ anchor ∈ problem.historicalCompletionAnchors,
      anchor.operationId ∉ problem.operationInstances.map OperationInstance.operationId)
    ⟨.invalidReference, "historical_completion_anchors.operation_id",
      "historical and active operation sets must be disjoint"⟩
  forEach (checkAnchor problem horizonStart) problem.historicalCompletionAnchors
  unique (problem.precedenceEdges.map PrecedenceEdge.precedenceEdgeId)
    "precedence_edges.precedence_edge_id"
  forEach (checkEdge problem) problem.precedenceEdges
  unique (problem.precedenceEdges.map logicalPair) "precedence_edges.logical_pair"
  unique (problem.operationLocks.map OperationLock.lockId) "operation_locks.lock_id"
  forEach (checkLock problem horizonStart) problem.operationLocks
  forEach (checkInterval problem horizonStart horizonEnd) problem.resourceUnavailableIntervals
  unique (problem.resourceUnavailableIntervals.map intervalKey) "resource_unavailable_intervals"

/-! ### What a passing document satisfies -/

/-- The text is a UTC instant. -/
def IsInstant (value : String) : Prop := ∃ d, parseUtcInstant value = .ok d

structure OptionFacts (problem : PlanningProblem) (option : ResourceOption) : Prop where
  resource : option.resourceId ∈ problem.resources.map Resource.resourceId
  duration_pos : 0 < option.finalDurationSeconds

/-- A running operation carries its execution fact. -/
structure RunningFacts (operation : OperationInstance) (actualStart resource : String)
    (remaining : Int) : Prop where
  actualStart_eq : operation.actualStartAtUtc = some actualStart
  resource_eq : operation.assignedResourceId = some resource
  remaining_eq : operation.remainingSeconds = some remaining
  instant : IsInstant actualStart
  candidate : resource ∈ operation.optionResources
  remaining_pos : 0 < remaining

structure OperationFacts (problem : PlanningProblem) (operation : OperationInstance) : Prop where
  demand : operation.demandOrderId ∈ problem.deliveryDemands.map DeliveryDemand.demandOrderId
  release : IsInstant operation.releaseAtUtc
  material : IsInstant operation.materialReadyAtUtc
  options : ∀ option ∈ operation.resourceOptions, OptionFacts problem option
  options_ne : operation.resourceOptions ≠ []
  options_nodup : operation.optionResources.Nodup
  running : operation.status = .running → ∃ actualStart resource remaining,
    RunningFacts operation actualStart resource remaining

structure AnchorFacts (problem : PlanningProblem) (horizonStart : Datetime)
    (anchor : HistoricalCompletionAnchor) (start stop : Datetime) : Prop where
  resource : anchor.resourceId ∈ problem.resources.map Resource.resourceId
  start_eq : parseUtcInstant anchor.actualStartAtUtc = .ok start
  stop_eq : parseUtcInstant anchor.actualEndAtUtc = .ok stop
  lt : start < stop
  before : stop ≤ horizonStart

structure EdgeFacts (problem : PlanningProblem) (edge : PrecedenceEdge) : Prop where
  predecessor :
    edge.predecessorOperationId ∈ problem.operationInstances.map OperationInstance.operationId ∨
      edge.predecessorOperationId ∈
        problem.historicalCompletionAnchors.map HistoricalCompletionAnchor.operationId
  successor :
    edge.successorOperationId ∈ problem.operationInstances.map OperationInstance.operationId
  irreflexive : edge.predecessorOperationId ≠ edge.successorOperationId
  min_nonneg : 0 ≤ edge.minLagSeconds
  transport_nonneg : 0 ≤ edge.transportLagSeconds
  max_ge : ∀ maximum, edge.maxLagSeconds = some maximum → edge.minLagSeconds ≤ maximum

structure LockFacts (problem : PlanningProblem) (horizonStart : Datetime) (lock : OperationLock)
    (operation : OperationInstance) (start stop : Datetime) : Prop where
  mem : operation ∈ problem.operationInstances
  operation_eq : operation.operationId = lock.operationId
  candidate : lock.resourceId ∈ operation.optionResources
  start_eq : parseUtcInstant lock.startAtUtc = .ok start
  stop_eq : parseUtcInstant lock.endAtUtc = .ok stop
  lt : start < stop
  after : horizonStart < stop

structure IntervalFacts (problem : PlanningProblem) (horizonStart horizonEnd : Datetime)
    (interval : UnavailableInterval) (start stop : Datetime) : Prop where
  resource : interval.resourceId ∈ problem.resources.map Resource.resourceId
  start_eq : parseUtcInstant interval.startUtc = .ok start
  stop_eq : parseUtcInstant interval.endUtc = .ok stop
  lt : start < stop
  starts_before : start < horizonEnd
  ends_after : horizonStart < stop

/-- What a document that passes the precheck is known to satisfy. -/
structure ContractFacts (problem : PlanningProblem) (horizonStart horizonEnd : Datetime) :
    Prop where
  tick_pos : 0 < problem.tickSeconds
  start_eq : parseUtcInstant problem.horizonStartUtc = .ok horizonStart
  end_eq : parseUtcInstant problem.horizonEndUtc = .ok horizonEnd
  horizon : horizonStart < horizonEnd
  demands_nodup : (problem.deliveryDemands.map DeliveryDemand.demandOrderId).Nodup
  due : ∀ demand ∈ problem.deliveryDemands, IsInstant demand.dueAtUtc
  weight_pos : ∀ demand ∈ problem.deliveryDemands, 1 ≤ demand.priorityWeight
  resources_nodup : (problem.resources.map Resource.resourceId).Nodup
  capacity : ∀ resource ∈ problem.resources, resource.capacity = 1
  operations_nodup : (problem.operationInstances.map OperationInstance.operationId).Nodup
  operations : ∀ operation ∈ problem.operationInstances, OperationFacts problem operation
  anchors_nodup :
    (problem.historicalCompletionAnchors.map HistoricalCompletionAnchor.operationId).Nodup
  anchors_disjoint : ∀ anchor ∈ problem.historicalCompletionAnchors,
    anchor.operationId ∉ problem.operationInstances.map OperationInstance.operationId
  anchors : ∀ anchor ∈ problem.historicalCompletionAnchors, ∃ start stop,
    AnchorFacts problem horizonStart anchor start stop
  edges : ∀ edge ∈ problem.precedenceEdges, EdgeFacts problem edge
  locks_nodup : (problem.operationLocks.map OperationLock.lockId).Nodup
  locks : ∀ lock ∈ problem.operationLocks, ∃ operation start stop,
    LockFacts problem horizonStart lock operation start stop
  intervals : ∀ interval ∈ problem.resourceUnavailableIntervals, ∃ start stop,
    IntervalFacts problem horizonStart horizonEnd interval start stop

theorem utc_eq_ok (value field : String) (d : Datetime) :
    utc value field = .ok d ↔ parseUtcInstant value = .ok d := by
  unfold utc
  split <;> simp_all

theorem durationAt_eq_ok (field : String) (result : Except String Int) (n : Int) :
    durationAt field result = .ok n ↔ result = .ok n := by
  unfold durationAt
  split <;> simp_all

theorem requireDurationSeconds_eq_ok (value n : Int) (allowZero : Bool) :
    requireDurationSeconds value allowZero = .ok n ↔
      (if allowZero then 0 else 1) ≤ value ∧ value = n := by
  unfold requireDurationSeconds
  cases allowZero <;> simp only [Bool.false_eq_true, if_true, if_false] <;> split <;>
    simp_all

theorem requireTickSeconds_eq_ok (value n : Int) :
    requireTickSeconds value = .ok n ↔ 0 < value ∧ value = n := by
  unfold requireTickSeconds
  split <;> simp_all

theorem checkDemand_facts (index : Nat) (demand : DeliveryDemand)
    (h : checkDemand index demand = .ok ()) :
    IsInstant demand.dueAtUtc ∧ 1 ≤ demand.priorityWeight := by
  simp only [checkDemand, bind_eq_ok, exists_unit_iff, utc_eq_ok, require_eq_ok] at h
  obtain ⟨d, hd, hw, -⟩ := h
  exact ⟨⟨d, hd⟩, hw⟩

theorem checkResource_facts (index : Nat) (resource : Resource)
    (h : checkResource index resource = .ok ()) : resource.capacity = 1 := by
  simp only [checkResource, bind_eq_ok, exists_unit_iff, require_eq_ok] at h
  exact h.1

theorem checkOption_facts (problem : PlanningProblem) (field : String) (index : Nat)
    (option : ResourceOption) (h : checkOption problem field index option = .ok ()) :
    OptionFacts problem option := by
  simp only [checkOption, bind_eq_ok, exists_unit_iff, durationAt_eq_ok, require_eq_ok,
    requireDurationSeconds_eq_ok] at h
  obtain ⟨hr, -, -, -, -, d, ⟨hpos, -⟩, -⟩ := h
  simp only [Bool.false_eq_true, if_false] at hpos
  exact ⟨hr, by omega⟩

theorem checkRunning_facts (field : String) (operation : OperationInstance)
    (h : checkRunning field operation = .ok ()) : ∃ actualStart resource remaining,
      RunningFacts operation actualStart resource remaining := by
  unfold checkRunning at h
  split at h
  · rename_i s r n hs hr hn
    simp only [bind_eq_ok, exists_unit_iff, durationAt_eq_ok, require_eq_ok, utc_eq_ok,
      requireDurationSeconds_eq_ok] at h
    obtain ⟨d, hd, hcand, m, ⟨hpos, -⟩, -⟩ := h
    simp only [Bool.false_eq_true, if_false] at hpos
    exact ⟨s, r, n, hs, hr, hn, ⟨d, hd⟩, hcand, by omega⟩
  · cases h

theorem checkOperation_facts (problem : PlanningProblem) (index : Nat)
    (operation : OperationInstance) (h : checkOperation problem index operation = .ok ()) :
    OperationFacts problem operation := by
  simp only [checkOperation, bind_eq_ok, exists_unit_iff, require_eq_ok, utc_eq_ok, unique] at h
  obtain ⟨hdemand, d, hd, e, he, -, hopts, hne, hnodup, hrun⟩ := h
  refine ⟨hdemand, ⟨d, hd⟩, ⟨e, he⟩, ?_, hne, hnodup, ?_⟩
  · exact forEach_ok_mem hopts fun i o ho => checkOption_facts problem _ i o ho
  · intro hstatus
    rw [if_pos hstatus] at hrun
    exact checkRunning_facts _ operation hrun

theorem checkAnchor_facts (problem : PlanningProblem) (horizonStart : Datetime) (index : Nat)
    (anchor : HistoricalCompletionAnchor)
    (h : checkAnchor problem horizonStart index anchor = .ok ()) : ∃ start stop,
      AnchorFacts problem horizonStart anchor start stop := by
  simp only [checkAnchor, bind_eq_ok, exists_unit_iff, require_eq_ok, utc_eq_ok, not_or,
    not_le, not_lt] at h
  obtain ⟨hr, s, hs, e, he, ⟨hlt, hle⟩, -⟩ := h
  exact ⟨s, e, hr, hs, he, hlt, hle⟩

theorem checkEdge_facts (problem : PlanningProblem) (index : Nat) (edge : PrecedenceEdge)
    (h : checkEdge problem index edge = .ok ()) : EdgeFacts problem edge := by
  simp only [checkEdge, bind_eq_ok, exists_unit_iff, require_eq_ok, durationAt_eq_ok,
    requireDurationSeconds_eq_ok, not_or, not_not, List.mem_append, if_true] at h
  obtain ⟨⟨hpred, hsucc⟩, hne, -, ⟨hmin, -⟩, -, ⟨htr, -⟩, hmax⟩ := h
  refine ⟨by tauto, hsucc, hne, hmin, htr, ?_⟩
  intro maximum heq
  rw [heq] at hmax
  simp only [bind_eq_ok, require_eq_ok, not_lt] at hmax
  obtain ⟨-, -, hle⟩ := hmax
  exact hle

theorem checkLock_facts (problem : PlanningProblem) (horizonStart : Datetime) (index : Nat)
    (lock : OperationLock)
    (hnodup : (problem.operationInstances.map OperationInstance.operationId).Nodup)
    (h : checkLock problem horizonStart index lock = .ok ()) : ∃ operation start stop,
      LockFacts problem horizonStart lock operation start stop := by
  unfold checkLock at h
  split at h
  · cases h
  · rename_i operation hget
    obtain ⟨hmem, hid⟩ := (dictGet_eq_some_iff _ _ _ _ hnodup).mp hget
    simp only [bind_eq_ok, exists_unit_iff, require_eq_ok, utc_eq_ok, not_or, not_le] at h
    obtain ⟨hcand, s, hs, e, he, ⟨hlt, hafter⟩, -⟩ := h
    exact ⟨operation, s, e, hmem, hid, hcand, hs, he, hlt, hafter⟩

theorem checkInterval_facts (problem : PlanningProblem) (horizonStart horizonEnd : Datetime)
    (index : Nat) (interval : UnavailableInterval)
    (hnodup : (problem.resources.map Resource.resourceId).Nodup)
    (h : checkInterval problem horizonStart horizonEnd index interval = .ok ()) : ∃ start stop,
      IntervalFacts problem horizonStart horizonEnd interval start stop := by
  unfold checkInterval at h
  split at h
  · cases h
  · rename_i resource hget
    obtain ⟨hmem, hid⟩ := (dictGet_eq_some_iff _ _ _ _ hnodup).mp hget
    simp only [bind_eq_ok, exists_unit_iff, require_eq_ok, utc_eq_ok, not_or, not_le] at h
    obtain ⟨-, s, hs, e, he, hlt, hbefore, hafter⟩ := h
    exact ⟨s, e, List.mem_map.mpr ⟨resource, hmem, hid⟩, hs, he, hlt, hbefore, hafter⟩

/-- **A document that passes the precheck satisfies every fact it checks.** -/
theorem contract_facts (problem : PlanningProblem)
    (h : validatePlanningProblemV2Contract problem = .ok ()) :
    ∃ horizonStart horizonEnd, ContractFacts problem horizonStart horizonEnd := by
  simp only [validatePlanningProblemV2Contract, bind_eq_ok, exists_unit_iff, require_eq_ok,
    utc_eq_ok, durationAt_eq_ok, requireTickSeconds_eq_ok, unique, not_le] at h
  obtain ⟨-, ⟨htick, -⟩, hs, hstart, he, hend, hlt, hdn, hd, hrn, hr, hon, ho, han, -, hdisj,
    ha, -, hedge, -, hln, hl, hi, -⟩ := h
  have hdemand := forEach_ok_mem hd fun i x hx => checkDemand_facts i x hx
  exact ⟨hs, he,
    { tick_pos := htick
      start_eq := hstart
      end_eq := hend
      horizon := hlt
      demands_nodup := hdn
      due := fun d hm => (hdemand d hm).1
      weight_pos := fun d hm => (hdemand d hm).2
      resources_nodup := hrn
      capacity := forEach_ok_mem hr fun i x hx => checkResource_facts i x hx
      operations_nodup := hon
      operations := forEach_ok_mem ho fun i x hx => checkOperation_facts problem i x hx
      anchors_nodup := han
      anchors_disjoint := hdisj
      anchors := forEach_ok_mem ha fun i x hx => checkAnchor_facts problem hs i x hx
      edges := forEach_ok_mem hedge fun i x hx => checkEdge_facts problem i x hx
      locks_nodup := hln
      locks := forEach_ok_mem hl fun i x hx => checkLock_facts problem hs i x hon hx
      intervals := forEach_ok_mem hi fun i x hx => checkInterval_facts problem hs he i x hrn hx }⟩

theorem contract_edges_nodup (problem : PlanningProblem)
    (h : validatePlanningProblemV2Contract problem = .ok ()) :
    (problem.precedenceEdges.map PrecedenceEdge.precedenceEdgeId).Nodup := by
  simp only [validatePlanningProblemV2Contract, bind_eq_ok, exists_unit_iff, unique,
    require_eq_ok] at h
  obtain ⟨-, -, -, -, -, -, -, -, -, -, -, -, -, -, -, -, -, hedges, -⟩ := h
  exact hedges

end PlantNexus.Domain
