import PlantNexus.Data.JsonText
import PlantNexus.Problem.Hashing
import Mathlib.Data.Set.Function

/-! The content hash of a problem identifies it up to the order of its collections.

Every sort key of the canonical form is total on a contract-valid document, so the canonical
form does not depend on the order of any collection. In the other direction nothing but the
document's own hash is left out of the hashed text, and the text determines the document. -/
namespace PlantNexus.Problem
open Data Domain

/-! ### Equality up to order -/

structure SameResource (a b : Resource) : Prop where
  capabilities : a.capabilities.Perm b.capabilities
  rest : { a with capabilities := b.capabilities } = b

structure SameOperation (a b : OperationInstance) : Prop where
  requiredCapabilities : a.requiredCapabilities.Perm b.requiredCapabilities
  resourceOptions : a.resourceOptions.Perm b.resourceOptions
  rest : { a with
    requiredCapabilities := b.requiredCapabilities
    resourceOptions := b.resourceOptions } = b

/-- Two documents that differ in the order of their collections only. -/
structure SameUpToOrder (p q : PlanningProblem) : Prop where
  deliveryDemands : p.deliveryDemands.Perm q.deliveryDemands
  resources : PermUpTo SameResource p.resources q.resources
  operationInstances : PermUpTo SameOperation p.operationInstances q.operationInstances
  historicalCompletionAnchors :
    p.historicalCompletionAnchors.Perm q.historicalCompletionAnchors
  precedenceEdges : p.precedenceEdges.Perm q.precedenceEdges
  operationLocks : p.operationLocks.Perm q.operationLocks
  resourceUnavailableIntervals :
    p.resourceUnavailableIntervals.Perm q.resourceUnavailableIntervals
  requiredCapabilities : p.requiredCapabilities.Perm q.requiredCapabilities
  rest : { p with
    deliveryDemands := q.deliveryDemands
    resources := q.resources
    operationInstances := q.operationInstances
    historicalCompletionAnchors := q.historicalCompletionAnchors
    precedenceEdges := q.precedenceEdges
    operationLocks := q.operationLocks
    resourceUnavailableIntervals := q.resourceUnavailableIntervals
    requiredCapabilities := q.requiredCapabilities } = q

/-! ### Permutation invariance -/

theorem canonicalResourceV2_eq_iff (a b : Resource) :
    canonicalResourceV2 a = canonicalResourceV2 b ↔ SameResource a b := by
  constructor
  · intro h
    have hcapabilities := perm_of_sortByKey_eq (congrArg Resource.capabilities h)
    refine ⟨hcapabilities, ?_⟩
    cases a
    cases b
    simp only [canonicalResourceV2, Resource.mk.injEq] at h ⊢
    tauto
  · intro h
    have hcapabilities : sortByKey id a.capabilities = sortByKey id b.capabilities :=
      sortByKey_eq_of_perm (fun _ _ _ _ heq => heq) h.capabilities
    rw [← h.rest]
    simp only [canonicalResourceV2, hcapabilities]

/-- The sort key of an option is all of it. -/
theorem option_key_injective {a b : ResourceOption}
    (h : toLex (a.resourceId, toLex (a.finalDurationSeconds, toLex (a.setupSeconds,
          toLex (a.cycleSecondsPerUnit, toLex (a.durationSource, a.sourceVersion))))) =
        toLex (b.resourceId, toLex (b.finalDurationSeconds, toLex (b.setupSeconds,
          toLex (b.cycleSecondsPerUnit, toLex (b.durationSource, b.sourceVersion)))))) :
    a = b := by
  simp only [EmbeddingLike.apply_eq_iff_eq, Prod.mk.injEq] at h
  cases a
  cases b
  simp_all

theorem canonicalOperationV2_of_same {a b : OperationInstance} (h : SameOperation a b) :
    canonicalOperationV2 a = canonicalOperationV2 b := by
  have hcapabilities : sortByKey id a.requiredCapabilities = sortByKey id b.requiredCapabilities :=
    sortByKey_eq_of_perm (fun _ _ _ _ heq => heq) h.requiredCapabilities
  rw [← h.rest]
  simp only [canonicalOperationV2, hcapabilities]
  rw [sortByKey_eq_of_perm (fun _ _ _ _ heq => option_key_injective heq) h.resourceOptions]

/-- The fields that the canonical form of an operation may drop are absent in it. -/
theorem same_of_canonicalOperationV2 {a b : OperationInstance} (ha : ExactOperationFields a)
    (hb : ExactOperationFields b) (h : canonicalOperationV2 a = canonicalOperationV2 b) :
    SameOperation a b := by
  have hcapabilities := perm_of_sortByKey_eq (congrArg OperationInstance.requiredCapabilities h)
  have hoptions := perm_of_sortByKey_eq (congrArg OperationInstance.resourceOptions h)
  have hstatus : a.status = b.status := by
    have hcanonical := congrArg OperationInstance.status h
    exact hcanonical
  refine ⟨hcapabilities, hoptions, ?_⟩
  unfold ExactOperationFields at ha hb
  cases a
  cases b
  simp only [canonicalOperationV2, OperationInstance.mk.injEq] at h ha hb hstatus ⊢
  subst hstatus
  split at ha
  · rename_i hrunning
    rw [if_pos hrunning] at hb
    simp only [if_pos hrunning] at h
    tauto
  · rename_i hidle
    rw [if_neg hidle] at hb
    obtain ⟨rfl, rfl, rfl⟩ := ha
    obtain ⟨rfl, rfl, rfl⟩ := hb
    tauto

theorem key_unique {α κ : Type} {key : α → κ} {xs : List α} (h : (xs.map key).Nodup) :
    ∀ x ∈ xs, ∀ y ∈ xs, key x = key y → x = y :=
  fun _ hx _ hy heq => List.inj_on_of_nodup_map h hx hy heq

theorem contract_of_built {document : PlanningProblem}
    (h : validateBuiltProblemV2 document = .ok ()) :
    validatePlanningProblemV2Contract document = .ok () := by
  simp only [validateBuiltProblemV2, bind_eq_ok, exists_unit_iff] at h
  obtain ⟨-, -, hcontract⟩ := h
  split at hcontract
  · cases hcontract
  · assumption

/-- Every sort key of the canonical form tells the records of a contract-valid document
apart. -/
theorem canonical_eq_of_same {p q : PlanningProblem} (hvalid : validateBuiltProblemV2 p = .ok ())
    (h : SameUpToOrder p q) : canonicalProblemDocumentV2 p = canonicalProblemDocumentV2 q := by
  obtain ⟨start, stop, hfacts⟩ := builtProblem_facts p hvalid
  have hedges := contract_edges_nodup p (contract_of_built hvalid)
  have hdemands : sortByKey DeliveryDemand.demandOrderId p.deliveryDemands =
      sortByKey DeliveryDemand.demandOrderId q.deliveryDemands :=
    sortByKey_eq_of_perm (key_unique hfacts.demands_nodup) h.deliveryDemands
  have hresources : sortByKey Resource.resourceId (p.resources.map canonicalResourceV2) =
      sortByKey Resource.resourceId (q.resources.map canonicalResourceV2) := by
    apply sortByKey_eq_of_perm
    · apply key_unique
      rw [List.map_map]
      exact hfacts.resources_nodup
    · exact h.resources.map fun a b => (canonicalResourceV2_eq_iff a b).mpr
  have hoperations : sortByKey OperationInstance.operationId
        (p.operationInstances.map canonicalOperationV2) =
      sortByKey OperationInstance.operationId
        (q.operationInstances.map canonicalOperationV2) := by
    apply sortByKey_eq_of_perm
    · apply key_unique
      rw [List.map_map]
      exact hfacts.operations_nodup
    · exact h.operationInstances.map fun a b => canonicalOperationV2_of_same
  have hanchors : sortByKey (fun a : HistoricalCompletionAnchor =>
        toLex (a.operationId, a.executionFactId)) p.historicalCompletionAnchors =
      sortByKey (fun a => toLex (a.operationId, a.executionFactId))
        q.historicalCompletionAnchors := by
    apply sortByKey_eq_of_perm _ h.historicalCompletionAnchors
    intro a ha b hb heq
    simp only [EmbeddingLike.apply_eq_iff_eq, Prod.mk.injEq] at heq
    exact key_unique hfacts.anchors_nodup a ha b hb heq.1
  have hprecedence : sortByKey (fun e : PrecedenceEdge => toLex (e.precedenceEdgeId,
        toLex (e.predecessorOperationId, e.successorOperationId))) p.precedenceEdges =
      sortByKey (fun e => toLex (e.precedenceEdgeId,
        toLex (e.predecessorOperationId, e.successorOperationId))) q.precedenceEdges := by
    apply sortByKey_eq_of_perm _ h.precedenceEdges
    intro a ha b hb heq
    simp only [EmbeddingLike.apply_eq_iff_eq, Prod.mk.injEq] at heq
    exact key_unique hedges a ha b hb heq.1
  have hlocks : sortByKey OperationLock.lockId p.operationLocks =
      sortByKey OperationLock.lockId q.operationLocks :=
    sortByKey_eq_of_perm (key_unique hfacts.locks_nodup) h.operationLocks
  have hintervals : sortByKey (fun i : UnavailableInterval =>
        toLex (i.resourceId, toLex (i.calendarId, toLex (i.startUtc, i.endUtc))))
        p.resourceUnavailableIntervals =
      sortByKey (fun i => toLex (i.resourceId, toLex (i.calendarId, toLex (i.startUtc, i.endUtc))))
        q.resourceUnavailableIntervals := by
    apply sortByKey_eq_of_perm _ h.resourceUnavailableIntervals
    intro a _ b _ heq
    simp only [EmbeddingLike.apply_eq_iff_eq, Prod.mk.injEq] at heq
    cases a
    cases b
    simp_all
  have hcapabilities : sortByKey id p.requiredCapabilities = sortByKey id q.requiredCapabilities :=
    sortByKey_eq_of_perm (fun _ _ _ _ heq => heq) h.requiredCapabilities
  rw [← h.rest]
  simp only [canonicalProblemDocumentV2, hdemands, hresources, hoperations, hanchors, hprecedence,
    hlocks, hintervals, hcapabilities]

/-! ### Idempotence -/

theorem canonicalResourceV2_idem (a : Resource) :
    canonicalResourceV2 (canonicalResourceV2 a) = canonicalResourceV2 a := by
  simp only [canonicalResourceV2, sortByKey_sortByKey]

theorem canonicalOperationV2_idem (a : OperationInstance) :
    canonicalOperationV2 (canonicalOperationV2 a) = canonicalOperationV2 a := by
  simp only [canonicalOperationV2, sortByKey_sortByKey]
  by_cases h : a.status = .running
  · simp only [if_pos h]
  · simp only [if_neg h]

theorem canonicalProblemDocumentV2_idem (p : PlanningProblem) :
    canonicalProblemDocumentV2 (canonicalProblemDocumentV2 p) = canonicalProblemDocumentV2 p := by
  have hresources : (sortByKey Resource.resourceId (p.resources.map canonicalResourceV2)).map
        canonicalResourceV2 =
      sortByKey Resource.resourceId (p.resources.map canonicalResourceV2) := by
    rw [sortByKey_map, List.map_map]
    exact List.map_congr_left fun a _ => canonicalResourceV2_idem a
  have hoperations : (sortByKey OperationInstance.operationId
        (p.operationInstances.map canonicalOperationV2)).map canonicalOperationV2 =
      sortByKey OperationInstance.operationId (p.operationInstances.map canonicalOperationV2) := by
    rw [sortByKey_map, List.map_map]
    exact List.map_congr_left fun a _ => canonicalOperationV2_idem a
  simp only [canonicalProblemDocumentV2, hresources, hoperations, sortByKey_sortByKey]

/-! ### The text determines the document -/

theorem ResourceOption.toJson_inj {a b : ResourceOption}
    (h : a.toJson.canonical = b.toJson.canonical) : a = b := by
  have hget := Json.canonical_get_eq (by simp) h
  have h1 := hget "resource_id"
  have h2 := hget "setup_seconds"
  have h3 := hget "cycle_seconds_per_unit"
  have h4 := hget "final_duration_seconds"
  have h5 := hget "duration_source"
  have h6 := hget "source_version"
  simp [Json.get, Json.canonical] at h1 h2 h3 h4 h5 h6
  cases a
  cases b
  simp_all

theorem DeliveryDemand.toJson_inj {a b : DeliveryDemand}
    (h : a.toJson.canonical = b.toJson.canonical) : a = b := by
  have hget := Json.canonical_get_eq (by simp) h
  have h1 := hget "demand_order_id"
  have h2 := hget "due_at_utc"
  have h3 := hget "due_source_system"
  have h4 := hget "due_source_version"
  have h5 := hget "due_source_record_id"
  have h6 := hget "priority_weight"
  have h7 := hget "priority_source_system"
  have h8 := hget "priority_source_version"
  have h9 := hget "priority_source_record_id"
  simp [Json.get, Json.canonical] at h1 h2 h3 h4 h5 h6 h7 h8 h9
  cases a
  cases b
  simp_all

theorem Resource.toJson_inj {a b : Resource} (h : a.toJson.canonical = b.toJson.canonical) :
    a = b := by
  have hget := Json.canonical_get_eq (by simp) h
  have h1 := hget "resource_id"
  have h2 := hget "resource_code"
  have h3 := hget "resource_type"
  have h4 := hget "status"
  have h5 := hget "factory_id"
  have h6 := hget "workshop_id"
  have h7 := hget "production_line_id"
  have h8 := hget "resource_group_id"
  have h9 := hget "calendar_id"
  have h10 : a.capabilities = b.capabilities :=
    Json.canonical_strings_inj (hget "capabilities")
  have h11 := hget "capacity"
  simp [Json.get, Json.canonical] at h1 h2 h3 h4 h5 h6 h7 h8 h9 h11
  cases a
  cases b
  simp_all

theorem HistoricalCompletionAnchor.toJson_inj {a b : HistoricalCompletionAnchor}
    (h : a.toJson.canonical = b.toJson.canonical) : a = b := by
  have hget := Json.canonical_get_eq (by simp) h
  have h1 := hget "operation_id"
  have h2 := hget "execution_fact_id"
  have h3 := hget "resource_id"
  have h4 := hget "actual_start_at_utc"
  have h5 := hget "actual_end_at_utc"
  have h6 := hget "source_system"
  have h7 := hget "source_version"
  have h8 := hget "source_record_id"
  simp [Json.get, Json.canonical] at h1 h2 h3 h4 h5 h6 h7 h8
  cases a
  cases b
  simp_all

theorem LockType.text_inj {a b : LockType} (h : a.text = b.text) : a = b := by
  cases a <;> cases b
  · rfl
  · exact absurd h (by decide)
  · exact absurd h (by decide)
  · rfl

theorem OperationLock.toJson_inj {a b : OperationLock}
    (h : a.toJson.canonical = b.toJson.canonical) : a = b := by
  have hget := Json.canonical_get_eq (by simp) h
  have h1 := hget "lock_id"
  have h2 := hget "operation_id"
  have h3 : a.lockType = b.lockType := LockType.text_inj (Json.str.inj (hget "lock_type"))
  have h4 := hget "resource_id"
  have h5 := hget "start_at_utc"
  have h6 := hget "end_at_utc"
  have h7 := hget "source_system"
  have h8 := hget "source_version"
  have h9 := hget "source_record_id"
  simp [Json.get, Json.canonical] at h1 h2 h4 h5 h6 h7 h8 h9
  cases a
  cases b
  simp_all

theorem UnavailableInterval.toJson_inj {a b : UnavailableInterval}
    (h : a.toJson.canonical = b.toJson.canonical) : a = b := by
  have hget := Json.canonical_get_eq (by simp) h
  have h1 := hget "calendar_id"
  have h2 := hget "resource_id"
  have h3 := hget "start_utc"
  have h4 := hget "end_utc"
  simp [Json.get, Json.canonical] at h1 h2 h3 h4
  cases a
  cases b
  simp_all

/-- A member that may be absent is read back from what lookup gives. -/
theorem optional_int_inj {a b : Option Int}
    (h : (Json.ofOption Json.int a).canonical = (Json.ofOption Json.int b).canonical) : a = b := by
  cases a with
  | none =>
    cases b with
    | none => rfl
    | some n => cases h
  | some m =>
    cases b with
    | none => cases h
    | some n => exact congrArg some (Json.int.inj h)

theorem optional_str_inj {a b : Option String}
    (h : (Json.ofOption Json.str a).canonical = (Json.ofOption Json.str b).canonical) : a = b := by
  cases a with
  | none =>
    cases b with
    | none => rfl
    | some n => cases h
  | some m =>
    cases b with
    | none => cases h
    | some n => exact congrArg some (Json.str.inj h)

theorem PrecedenceEdge.toJson_inj {a b : PrecedenceEdge}
    (h : a.toJson.canonical = b.toJson.canonical) : a = b := by
  have hkeys : ∀ edge : PrecedenceEdge, (edge.toJson.keys).Nodup := by
    intro edge
    cases hmax : edge.maxLagSeconds <;>
      simp [PrecedenceEdge.toJson, Json.keys, optionalMember, hmax]
  have hmax : ∀ edge : PrecedenceEdge,
      edge.toJson.get "max_lag_seconds" = Json.ofOption Json.int edge.maxLagSeconds := by
    intro edge
    cases hmax : edge.maxLagSeconds <;>
      simp [PrecedenceEdge.toJson, Json.get, optionalMember, Json.ofOption, hmax]
  have hget := Json.canonical_get_eq (hkeys a) h
  have h1 := hget "precedence_edge_id"
  have h2 := hget "predecessor_operation_id"
  have h3 := hget "successor_operation_id"
  have h4 := hget "min_lag_seconds"
  have h5 := hget "transport_lag_seconds"
  have h6 : a.maxLagSeconds = b.maxLagSeconds := by
    apply optional_int_inj
    rw [← hmax a, ← hmax b]
    exact hget "max_lag_seconds"
  simp [Json.get, Json.canonical] at h1 h2 h3 h4 h5
  cases a
  cases b
  simp_all

theorem OperationStatus.text_inj {a b : OperationStatus} (h : a.text = b.text) : a = b := by
  cases a <;> cases b
  · rfl
  · exact absurd h (by decide)
  · exact absurd h (by decide)
  · rfl

theorem OperationInstance.toJson_keys_nodup (o : OperationInstance) : o.toJson.keys.Nodup := by
  cases h1 : o.actualStartAtUtc <;> cases h2 : o.assignedResourceId <;>
    cases h3 : o.remainingSeconds <;>
    simp [OperationInstance.toJson, Json.keys, optionalMember, h1, h2, h3]

theorem OperationInstance.toJson_get_actualStart (o : OperationInstance) :
    o.toJson.get "actual_start_at_utc" = Json.ofOption Json.str o.actualStartAtUtc := by
  cases h1 : o.actualStartAtUtc <;> cases h2 : o.assignedResourceId <;>
    cases h3 : o.remainingSeconds <;>
    simp [OperationInstance.toJson, Json.get, optionalMember, Json.ofOption, h1, h2, h3]

theorem OperationInstance.toJson_get_assignedResource (o : OperationInstance) :
    o.toJson.get "assigned_resource_id" = Json.ofOption Json.str o.assignedResourceId := by
  cases h1 : o.actualStartAtUtc <;> cases h2 : o.assignedResourceId <;>
    cases h3 : o.remainingSeconds <;>
    simp [OperationInstance.toJson, Json.get, optionalMember, Json.ofOption, h1, h2, h3]

theorem OperationInstance.toJson_get_remaining (o : OperationInstance) :
    o.toJson.get "remaining_seconds" = Json.ofOption Json.int o.remainingSeconds := by
  cases h1 : o.actualStartAtUtc <;> cases h2 : o.assignedResourceId <;>
    cases h3 : o.remainingSeconds <;>
    simp [OperationInstance.toJson, Json.get, optionalMember, Json.ofOption, h1, h2, h3]

theorem OperationInstance.toJson_inj {a b : OperationInstance}
    (h : a.toJson.canonical = b.toJson.canonical) : a = b := by
  have hget := Json.canonical_get_eq a.toJson_keys_nodup h
  have h1 := hget "operation_id"
  have h2 := hget "demand_order_id"
  have h3 : a.status = b.status := OperationStatus.text_inj (Json.str.inj (hget "status"))
  have h4 := hget "release_at_utc"
  have h5 := hget "material_ready_at_utc"
  have h6 : a.requiredCapabilities = b.requiredCapabilities :=
    Json.canonical_strings_inj (hget "required_capabilities")
  have h7 : a.resourceOptions = b.resourceOptions :=
    Json.canonical_arr_inj (fun _ _ => ResourceOption.toJson_inj) (hget "resource_options")
  have h8 : a.actualStartAtUtc = b.actualStartAtUtc := by
    apply optional_str_inj
    rw [← a.toJson_get_actualStart, ← b.toJson_get_actualStart]
    exact hget "actual_start_at_utc"
  have h9 : a.assignedResourceId = b.assignedResourceId := by
    apply optional_str_inj
    rw [← a.toJson_get_assignedResource, ← b.toJson_get_assignedResource]
    exact hget "assigned_resource_id"
  have h10 : a.remainingSeconds = b.remainingSeconds := by
    apply optional_int_inj
    rw [← a.toJson_get_remaining, ← b.toJson_get_remaining]
    exact hget "remaining_seconds"
  simp [Json.get, Json.canonical] at h1 h2 h4 h5
  cases a
  cases b
  simp_all

/-- Two documents with the same canonical members differ in their own hash only. -/
theorem membersWithoutHash_inj {p q : PlanningProblem}
    (h : (Json.obj p.membersWithoutHash).canonical = (Json.obj q.membersWithoutHash).canonical) :
    { p with problemHash := q.problemHash } = q := by
  have hget := Json.canonical_get_eq (by simp [PlanningProblem.membersWithoutHash]) h
  have h1 := hget "problem_version"
  have h2 := hget "schema_set_version"
  have h3 := hget "snapshot_id"
  have h4 := hget "problem_builder_version"
  have h5 := hget "canonicalization_version"
  have h6 := hget "problem_hash_projection_version"
  have h7 := hget "tick_seconds"
  have h8 := hget "horizon_start_utc"
  have h9 := hget "horizon_end_utc"
  have h10 : p.deliveryDemands = q.deliveryDemands :=
    Json.canonical_arr_inj (fun _ _ => DeliveryDemand.toJson_inj) (hget "delivery_demands")
  have h11 : p.resources = q.resources :=
    Json.canonical_arr_inj (fun _ _ => Resource.toJson_inj) (hget "resources")
  have h12 : p.operationInstances = q.operationInstances :=
    Json.canonical_arr_inj (fun _ _ => OperationInstance.toJson_inj) (hget "operation_instances")
  have h13 : p.historicalCompletionAnchors = q.historicalCompletionAnchors :=
    Json.canonical_arr_inj (fun _ _ => HistoricalCompletionAnchor.toJson_inj)
      (hget "historical_completion_anchors")
  have h14 : p.precedenceEdges = q.precedenceEdges :=
    Json.canonical_arr_inj (fun _ _ => PrecedenceEdge.toJson_inj) (hget "precedence_edges")
  have h15 : p.operationLocks = q.operationLocks :=
    Json.canonical_arr_inj (fun _ _ => OperationLock.toJson_inj) (hget "operation_locks")
  have h16 : p.resourceUnavailableIntervals = q.resourceUnavailableIntervals :=
    Json.canonical_arr_inj (fun _ _ => UnavailableInterval.toJson_inj)
      (hget "resource_unavailable_intervals")
  have h17 : p.requiredCapabilities = q.requiredCapabilities :=
    Json.canonical_strings_inj (hget "required_capabilities")
  simp [PlanningProblem.membersWithoutHash, Json.get, Json.canonical]
    at h1 h2 h3 h4 h5 h6 h7 h8 h9
  cases p
  cases q
  simp_all

theorem operation_noFloat (o : OperationInstance) : o.toJson.NoFloat := by
  have hoptions : (Json.arr (o.resourceOptions.map ResourceOption.toJson)).NoFloat :=
    Json.noFloat_arr_map _ _ fun option => by
      simp [ResourceOption.toJson, Json.NoFloat, Json.NoFloatMembers]
  rw [Json.NoFloat] at hoptions
  cases h1 : o.actualStartAtUtc <;> cases h2 : o.assignedResourceId <;>
    cases h3 : o.remainingSeconds <;>
    simp [OperationInstance.toJson, Json.NoFloat, Json.NoFloatMembers, Json.noFloat_strings,
      optionalMember, hoptions, h1, h2, h3]

theorem edge_noFloat (e : PrecedenceEdge) : e.toJson.NoFloat := by
  cases h : e.maxLagSeconds <;>
    simp [PrecedenceEdge.toJson, Json.NoFloat, Json.NoFloatMembers, optionalMember, h]

theorem members_noFloat (p : PlanningProblem) : (Json.obj p.membersWithoutHash).NoFloat := by
  have hdemands : (Json.arr (p.deliveryDemands.map DeliveryDemand.toJson)).NoFloat :=
    Json.noFloat_arr_map _ _ fun d => by
      simp [DeliveryDemand.toJson, Json.NoFloat, Json.NoFloatMembers]
  have hresources : (Json.arr (p.resources.map Resource.toJson)).NoFloat :=
    Json.noFloat_arr_map _ _ fun r => by
      simp [Resource.toJson, Json.NoFloat, Json.NoFloatMembers, Json.noFloat_strings]
  have hoperations : (Json.arr (p.operationInstances.map OperationInstance.toJson)).NoFloat :=
    Json.noFloat_arr_map _ _ operation_noFloat
  have hanchors :
      (Json.arr (p.historicalCompletionAnchors.map HistoricalCompletionAnchor.toJson)).NoFloat :=
    Json.noFloat_arr_map _ _ fun a => by
      simp [HistoricalCompletionAnchor.toJson, Json.NoFloat, Json.NoFloatMembers]
  have hedges : (Json.arr (p.precedenceEdges.map PrecedenceEdge.toJson)).NoFloat :=
    Json.noFloat_arr_map _ _ edge_noFloat
  have hlocks : (Json.arr (p.operationLocks.map OperationLock.toJson)).NoFloat :=
    Json.noFloat_arr_map _ _ fun l => by
      simp [OperationLock.toJson, Json.NoFloat, Json.NoFloatMembers]
  have hintervals :
      (Json.arr (p.resourceUnavailableIntervals.map UnavailableInterval.toJson)).NoFloat :=
    Json.noFloat_arr_map _ _ fun i => by
      simp [UnavailableInterval.toJson, Json.NoFloat, Json.NoFloatMembers]
  simp only [PlanningProblem.membersWithoutHash, Json.NoFloat, Json.NoFloatMembers, true_and,
    and_true]
  exact ⟨hdemands, hresources, hoperations, hanchors, hedges, hlocks, hintervals,
    Json.noFloat_strings _⟩

/-- The hashed text. -/
def problemV2HashText (document : PlanningProblem) : String :=
  (problemV2HashProjection document).dumps

theorem canonical_eq_of_text_eq {p q : PlanningProblem}
    (h : problemV2HashText p = problemV2HashText q) :
    { canonicalProblemDocumentV2 p with problemHash := q.problemHash } =
      canonicalProblemDocumentV2 q := by
  have hnofloat : ∀ document, (problemV2HashProjection document).NoFloat := fun document =>
    ⟨trivial, members_noFloat (canonicalProblemDocumentV2 document), trivial⟩
  have hcanonical := Json.canonical_eq_of_dumps_eq (hnofloat p) (hnofloat q) h
  have hproblem := Json.canonical_get_eq (by simp) hcanonical "problem"
  exact membersWithoutHash_inj hproblem

/-- Documents with one canonical form differ in the order of their collections only. -/
theorem same_of_canonical_eq {p q : PlanningProblem} (hp : validateBuiltProblemV2 p = .ok ())
    (hq : validateBuiltProblemV2 q = .ok ())
    (h : { canonicalProblemDocumentV2 p with problemHash := q.problemHash } =
      canonicalProblemDocumentV2 q) :
    SameUpToOrder { p with problemHash := q.problemHash } q := by
  have hfields := builtProblem_fields p hp
  have hfields' := builtProblem_fields q hq
  have hresources := permUpTo_of_map (perm_of_sortByKey_eq (congrArg PlanningProblem.resources h))
  have hoperations :=
    permUpTo_of_map (perm_of_sortByKey_eq (congrArg PlanningProblem.operationInstances h))
  refine ⟨perm_of_sortByKey_eq (congrArg PlanningProblem.deliveryDemands h), ?_, ?_,
    perm_of_sortByKey_eq (congrArg PlanningProblem.historicalCompletionAnchors h),
    perm_of_sortByKey_eq (congrArg PlanningProblem.precedenceEdges h),
    perm_of_sortByKey_eq (congrArg PlanningProblem.operationLocks h),
    perm_of_sortByKey_eq (congrArg PlanningProblem.resourceUnavailableIntervals h),
    perm_of_sortByKey_eq (congrArg PlanningProblem.requiredCapabilities h), ?_⟩
  · exact hresources.mono fun a _ b _ => (canonicalResourceV2_eq_iff a b).mp
  · exact hoperations.mono fun a ha b hb =>
      same_of_canonicalOperationV2 (hfields a ha) (hfields' b hb)
  · cases p
    cases q
    simp only [canonicalProblemDocumentV2, PlanningProblem.mk.injEq] at h ⊢
    tauto

/-- **Problem hash canonicality.** The canonical form and the hash of a contract-valid document
do not depend on the order of its collections, canonicalisation is idempotent, and where
SHA-256 does not collide on the two hashed texts, documents with one hash are the same up to
order, once each carries its hash. -/
theorem problem_hash_canonicality (p : PlanningProblem)
    (hp : validateBuiltProblemV2 p = .ok ()) :
    (∀ q, SameUpToOrder p q →
        canonicalProblemDocumentV2 p = canonicalProblemDocumentV2 q ∧
          problemV2HashFor p = problemV2HashFor q) ∧
      canonicalProblemDocumentV2 (canonicalProblemDocumentV2 p) = canonicalProblemDocumentV2 p ∧
      ∀ q, validateBuiltProblemV2 q = .ok () →
        Set.InjOn Sha256.hexdigest {problemV2HashText p, problemV2HashText q} →
        problemV2HashFor p = problemV2HashFor q →
        SameUpToOrder (sealProblem p) (sealProblem q) := by
  refine ⟨?_, canonicalProblemDocumentV2_idem p, ?_⟩
  · intro q hsame
    have hcanonical := canonical_eq_of_same hp hsame
    refine ⟨hcanonical, ?_⟩
    unfold problemV2HashFor problemV2HashProjection
    rw [hcanonical]
  · intro q hq hinjective hhash
    have hdigest : Sha256.hexdigest (problemV2HashText p) =
        Sha256.hexdigest (problemV2HashText q) := by
      unfold problemV2HashFor at hhash
      exact String.append_right_inj _ |>.mp hhash
    have htext := hinjective (.inl rfl) (.inr rfl) hdigest
    have hsame := same_of_canonical_eq hp hq (canonical_eq_of_text_eq htext)
    refine ⟨hsame.deliveryDemands, hsame.resources, hsame.operationInstances,
      hsame.historicalCompletionAnchors, hsame.precedenceEdges, hsame.operationLocks,
      hsame.resourceUnavailableIntervals, hsame.requiredCapabilities, ?_⟩
    have hrest := hsame.rest
    simp only [sealProblem, hhash]
    generalize problemV2HashFor q = hash
    cases p
    cases q
    simp only [PlanningProblem.mk.injEq] at hrest ⊢
    tauto

def pairProblem : PlanningProblem :=
  { plainProblem with operationInstances := [plainOperation "O1", plainOperation "O2"] }

def swappedPair : PlanningProblem :=
  { plainProblem with operationInstances := [plainOperation "O2", plainOperation "O1"] }

/-- Two operations in either order have one canonical form and one hash, and the hash leads
back to the pair. -/
theorem problem_hash_canonicality_pair :
    canonicalProblemDocumentV2 pairProblem = canonicalProblemDocumentV2 swappedPair ∧
      problemV2HashFor pairProblem = problemV2HashFor swappedPair ∧
      SameUpToOrder (sealProblem pairProblem) (sealProblem swappedPair) := by
  have hpair : validateBuiltProblemV2 pairProblem = .ok () := by decide +kernel
  have hswapped : validateBuiltProblemV2 swappedPair = .ok () := by decide +kernel
  have hself : ∀ o : OperationInstance, SameOperation o o := fun o =>
    ⟨List.Perm.refl _, List.Perm.refl _, rfl⟩
  have hresource : ∀ r : Resource, SameResource r r := fun r => ⟨List.Perm.refl _, rfl⟩
  have hsame : SameUpToOrder pairProblem swappedPair :=
    { deliveryDemands := List.Perm.refl _
      resources := ⟨_, List.forall₂_same.mpr fun r _ => hresource r, List.Perm.refl _⟩
      operationInstances := ⟨_, List.forall₂_same.mpr fun o _ => hself o, List.Perm.swap ..⟩
      historicalCompletionAnchors := List.Perm.refl _
      precedenceEdges := List.Perm.refl _
      operationLocks := List.Perm.refl _
      resourceUnavailableIntervals := List.Perm.refl _
      requiredCapabilities := List.Perm.refl _
      rest := rfl }
  obtain ⟨hinvariant, -, hdetermines⟩ := problem_hash_canonicality pairProblem hpair
  obtain ⟨hcanonical, hhash⟩ := hinvariant swappedPair hsame
  refine ⟨hcanonical, hhash, hdetermines swappedPair hswapped ?_ hhash⟩
  have htext : problemV2HashText pairProblem = problemV2HashText swappedPair := by
    unfold problemV2HashText problemV2HashProjection
    rw [hcanonical]
  rw [htext, Set.pair_eq_singleton]
  exact Set.injOn_singleton _ _

end PlantNexus.Problem
