import PlantNexus.Data.Reordering
import PlantNexus.Problem.Canonicality

/-! A contract-valid problem stays contract-valid when its collections are reordered.

Every check of the contract reads a record with its position, and the position enters the
error only; the sets of identifiers the checks look a reference up in do not depend on the
order either. -/
namespace PlantNexus.Problem
open Data Time Domain

/-! ### What reordering keeps -/

theorem sortByKey_ids_eq {ids ids' : List String} (h : ids.Perm ids') :
    sortByKey id ids = sortByKey id ids' :=
  sortByKey_eq_of_perm (fun _ _ _ _ heq => heq) h

namespace SameResource
variable {a b : Resource} (h : SameResource a b)
include h

theorem resourceId : a.resourceId = b.resourceId := by rw [← h.rest]
theorem workshopId : a.workshopId = b.workshopId := by rw [← h.rest]
theorem calendarId : a.calendarId = b.calendarId := by rw [← h.rest]
theorem capacity : a.capacity = b.capacity := by rw [← h.rest]

end SameResource

namespace SameOperation
variable {a b : OperationInstance} (h : SameOperation a b)
include h

theorem operationId : a.operationId = b.operationId := by rw [← h.rest]

theorem status : a.status = b.status := by rw [← h.rest]

theorem optionResources : a.optionResources.Perm b.optionResources :=
  h.resourceOptions.map ResourceOption.resourceId

end SameOperation

/-- A problem is itself up to order. -/
theorem SameUpToOrder.refl (problem : PlanningProblem) : SameUpToOrder problem problem where
  deliveryDemands := List.Perm.refl _
  resources := ⟨_, List.forall₂_same.mpr fun _ _ => ⟨List.Perm.refl _, rfl⟩, List.Perm.refl _⟩
  operationInstances :=
    ⟨_, List.forall₂_same.mpr fun _ _ => ⟨List.Perm.refl _, List.Perm.refl _, rfl⟩,
      List.Perm.refl _⟩
  historicalCompletionAnchors := List.Perm.refl _
  precedenceEdges := List.Perm.refl _
  operationLocks := List.Perm.refl _
  resourceUnavailableIntervals := List.Perm.refl _
  requiredCapabilities := List.Perm.refl _
  rest := rfl

namespace SameUpToOrder
variable {p q : PlanningProblem} (h : SameUpToOrder p q)
include h

theorem tickSeconds : p.tickSeconds = q.tickSeconds := by rw [← h.rest]

theorem horizonStartUtc : p.horizonStartUtc = q.horizonStartUtc := by rw [← h.rest]

theorem horizonEndUtc : p.horizonEndUtc = q.horizonEndUtc := by rw [← h.rest]

theorem snapshotId : p.snapshotId = q.snapshotId := by rw [← h.rest]

theorem problemHash : p.problemHash = q.problemHash := by rw [← h.rest]

theorem demandIds : (p.deliveryDemands.map DeliveryDemand.demandOrderId).Perm
    (q.deliveryDemands.map DeliveryDemand.demandOrderId) :=
  h.deliveryDemands.map _

theorem resourceIds : (p.resources.map Resource.resourceId).Perm
    (q.resources.map Resource.resourceId) :=
  h.resources.map fun _ _ hr => hr.resourceId

theorem operationIds : (p.operationInstances.map OperationInstance.operationId).Perm
    (q.operationInstances.map OperationInstance.operationId) :=
  h.operationInstances.map fun _ _ ho => ho.operationId

theorem anchorOperationIds :
    (p.historicalCompletionAnchors.map HistoricalCompletionAnchor.operationId).Perm
      (q.historicalCompletionAnchors.map HistoricalCompletionAnchor.operationId) :=
  h.historicalCompletionAnchors.map _

end SameUpToOrder

/-! ### The records -/

theorem nonEmpty_eq_ok (value field : String) :
    nonEmpty value field = .ok () ↔ hasText value = true := by
  rw [nonEmpty, require_eq_ok]

theorem nonEmptyFields_eq_ok (field : String) (values : List (String × String)) :
    nonEmptyFields field values = .ok () ↔ ∀ value ∈ values, hasText value.2 = true := by
  rw [nonEmptyFields, forEach_eq_ok_iff fun value : String × String => hasText value.2 = true]
  intro value _ i
  exact nonEmpty_eq_ok _ _

theorem checkDemand_reorder (i j : Nat) (demand : DeliveryDemand)
    (hok : checkDemand i demand = .ok ()) : checkDemand j demand = .ok () := by
  simp only [checkDemand, bind_eq_ok, exists_unit_iff, utc_eq_ok, require_eq_ok,
    nonEmptyFields_eq_ok] at hok ⊢
  exact hok

theorem nonEmptyItems_eq_ok (field : Nat → String) (values : List String) :
    forEach (fun i value => nonEmpty value (field i)) values = .ok () ↔
      ∀ value ∈ values, hasText value = true := by
  rw [forEach_eq_ok_iff fun value : String => hasText value = true]
  intro value _ i
  exact nonEmpty_eq_ok _ _

theorem checkResource_reorder (i j : Nat) {a b : Resource} (h : SameResource a b)
    (hok : checkResource i a = .ok ()) : checkResource j b = .ok () := by
  simp only [checkResource, bind_eq_ok, exists_unit_iff, require_eq_ok, nonEmptyFields_eq_ok,
    unique] at hok ⊢
  obtain ⟨hcapacity, hfields, hnodup, hitems⟩ := hok
  have htexts := (nonEmptyItems_eq_ok _ _).mp hitems
  refine ⟨by rw [← h.capacity, hcapacity], ?_, h.capabilities.nodup_iff.mp hnodup, ?_⟩
  · rw [← h.rest]
    exact hfields
  · rw [nonEmptyItems_eq_ok]
    exact fun value hvalue => htexts value (h.capabilities.mem_iff.mpr hvalue)

section
variable {p q : PlanningProblem} (h : SameUpToOrder p q)
include h

theorem checkOption_reorder (field field' : String) (i j : Nat) (option : ResourceOption)
    (hok : checkOption p field i option = .ok ()) : checkOption q field' j option = .ok () := by
  simp only [checkOption, bind_eq_ok, exists_unit_iff, durationAt_eq_ok, require_eq_ok,
    nonEmpty_eq_ok] at hok ⊢
  rwa [← h.resourceIds.mem_iff, ← h.tickSeconds]

omit h in
theorem checkRunning_reorder (field field' : String) {a b : OperationInstance}
    (hsame : SameOperation a b) (hok : checkRunning field a = .ok ()) :
    checkRunning field' b = .ok () := by
  have hresources := hsame.optionResources
  obtain ⟨-, -, hrest⟩ := hsame
  unfold checkRunning at hok
  split at hok
  · rename_i start resource remaining hstart hresource hremaining
    have hstart' : b.actualStartAtUtc = some start := by rw [← hrest, ← hstart]
    have hresource' : b.assignedResourceId = some resource := by rw [← hrest, ← hresource]
    have hremaining' : b.remainingSeconds = some remaining := by rw [← hrest, ← hremaining]
    simp only [checkRunning, hstart', hresource', hremaining', bind_eq_ok, exists_unit_iff,
      durationAt_eq_ok, require_eq_ok, utc_eq_ok] at hok ⊢
    rwa [← hresources.mem_iff]
  · cases hok

theorem checkOperation_reorder (i j : Nat) {a b : OperationInstance} (hsame : SameOperation a b)
    (hok : checkOperation p i a = .ok ()) : checkOperation q j b = .ok () := by
  simp only [checkOperation, bind_eq_ok, exists_unit_iff, require_eq_ok, utc_eq_ok, unique] at hok ⊢
  obtain ⟨hdemand, release, hrelease, material, hmaterial, hcaps, hoptions, hne, hnodup,
    hrunning⟩ := hok
  have hrest := hsame.rest
  refine ⟨?_, release, ?_, material, ?_, hsame.requiredCapabilities.nodup_iff.mp hcaps, ?_, ?_,
    hsame.optionResources.nodup_iff.mp hnodup, ?_⟩
  · rw [← h.demandIds.mem_iff, ← hrest]
    exact hdemand
  · rw [← hrest]
    exact hrelease
  · rw [← hrest]
    exact hmaterial
  · refine (PermUpTo.of_perm hsame.resourceOptions).forEach ?_ hoptions
    intro x _ y _ hxy k l hx
    subst hxy
    exact checkOption_reorder h _ _ k l x hx
  · intro hnil
    have hoptionsNil := hsame.resourceOptions
    rw [hnil] at hoptionsNil
    exact hne hoptionsNil.eq_nil
  · rw [← hsame.status]
    split
    · rename_i hstatus
      rw [if_pos hstatus] at hrunning
      exact checkRunning_reorder _ _ hsame hrunning
    · rfl

theorem checkAnchor_reorder (horizonStart : Datetime) (i j : Nat)
    (anchor : HistoricalCompletionAnchor) (hok : checkAnchor p horizonStart i anchor = .ok ()) :
    checkAnchor q horizonStart j anchor = .ok () := by
  simp only [checkAnchor, bind_eq_ok, exists_unit_iff, require_eq_ok, utc_eq_ok,
    nonEmptyFields_eq_ok] at hok ⊢
  rwa [← h.resourceIds.mem_iff]

theorem checkEdge_reorder (i j : Nat) (edge : PrecedenceEdge)
    (hok : checkEdge p i edge = .ok ()) : checkEdge q j edge = .ok () := by
  have hactive : ∀ id, id ∈ q.operationInstances.map OperationInstance.operationId ↔
      id ∈ p.operationInstances.map OperationInstance.operationId :=
    fun id => h.operationIds.mem_iff.symm
  have hanchor : ∀ id,
      id ∈ q.historicalCompletionAnchors.map HistoricalCompletionAnchor.operationId ↔
        id ∈ p.historicalCompletionAnchors.map HistoricalCompletionAnchor.operationId :=
    fun id => h.anchorOperationIds.mem_iff.symm
  simp only [checkEdge, bind_eq_ok, exists_unit_iff, require_eq_ok, durationAt_eq_ok,
    List.mem_append, hactive, hanchor] at hok ⊢
  obtain ⟨hknown, hne, minimum, hmin, transport, htransport, hmax⟩ := hok
  refine ⟨hknown, hne, minimum, hmin, transport, htransport, ?_⟩
  split at hmax
  · rfl
  · simp only [bind_eq_ok, durationAt_eq_ok, require_eq_ok] at hmax ⊢
    exact hmax

theorem checkLock_reorder (horizonStart : Datetime)
    (hnodup : (p.operationInstances.map OperationInstance.operationId).Nodup) (i j : Nat)
    (lock : OperationLock) (hok : checkLock p horizonStart i lock = .ok ()) :
    checkLock q horizonStart j lock = .ok () := by
  unfold checkLock at hok ⊢
  split at hok
  · cases hok
  · rename_i operation hget
    obtain ⟨operation', hget', hsame⟩ :=
      h.operationInstances.dictGet (fun _ _ ho => ho.operationId) hnodup hget
    rw [hget']
    simp only [bind_eq_ok, exists_unit_iff, require_eq_ok, utc_eq_ok,
      nonEmptyFields_eq_ok] at hok ⊢
    rwa [← hsame.optionResources.mem_iff]

theorem checkInterval_reorder (horizonStart horizonEnd : Datetime)
    (hnodup : (p.resources.map Resource.resourceId).Nodup) (i j : Nat)
    (interval : UnavailableInterval)
    (hok : checkInterval p horizonStart horizonEnd i interval = .ok ()) :
    checkInterval q horizonStart horizonEnd j interval = .ok () := by
  unfold checkInterval at hok ⊢
  split at hok
  · cases hok
  · rename_i resource hget
    obtain ⟨resource', hget', hsame⟩ :=
      h.resources.dictGet (fun _ _ hr => hr.resourceId) hnodup hget
    rw [hget']
    simp only [bind_eq_ok, exists_unit_iff, require_eq_ok, utc_eq_ok] at hok ⊢
    rwa [← hsame.calendarId]

/-! ### The document -/

theorem contract_reorder (hok : validatePlanningProblemV2Contract p = .ok ()) :
    validatePlanningProblemV2Contract q = .ok () := by
  simp only [validatePlanningProblemV2Contract, bind_eq_ok, exists_unit_iff, require_eq_ok,
    utc_eq_ok, durationAt_eq_ok, requireTickSeconds_eq_ok, unique] at hok ⊢
  obtain ⟨tick, htick, start, hstart, stop, hstop, hlt, hdemandIds, hdemands, hresourceIds,
    hresources, hoperationIds, hoperations, hanchorIds, hfactIds, hdisjoint, hanchors, hedgeIds,
    hedges, hpairs, hlockIds, hlocks, hintervals, hkeys⟩ := hok
  refine ⟨tick, h.tickSeconds ▸ htick, start, h.horizonStartUtc ▸ hstart, stop,
    h.horizonEndUtc ▸ hstop, hlt, h.demandIds.nodup_iff.mp hdemandIds, ?_,
    h.resourceIds.nodup_iff.mp hresourceIds, ?_, h.operationIds.nodup_iff.mp hoperationIds, ?_,
    h.anchorOperationIds.nodup_iff.mp hanchorIds,
    (h.historicalCompletionAnchors.map _).nodup_iff.mp hfactIds, ?_, ?_,
    (h.precedenceEdges.map _).nodup_iff.mp hedgeIds, ?_,
    (h.precedenceEdges.map _).nodup_iff.mp hpairs,
    (h.operationLocks.map _).nodup_iff.mp hlockIds, ?_, ?_,
    (h.resourceUnavailableIntervals.map _).nodup_iff.mp hkeys⟩
  · refine (PermUpTo.of_perm h.deliveryDemands).forEach ?_ hdemands
    intro x _ y _ hxy i j hx
    exact hxy ▸ checkDemand_reorder i j x hx
  · refine h.resources.forEach ?_ hresources
    intro x _ y _ hxy i j hx
    exact checkResource_reorder i j hxy hx
  · refine h.operationInstances.forEach ?_ hoperations
    intro x _ y _ hxy i j hx
    exact checkOperation_reorder h i j hxy hx
  · intro anchor hmem hactive
    rw [← h.operationIds.mem_iff] at hactive
    exact hdisjoint anchor (h.historicalCompletionAnchors.mem_iff.mpr hmem) hactive
  · refine (PermUpTo.of_perm h.historicalCompletionAnchors).forEach ?_ hanchors
    intro x _ y _ hxy i j hx
    exact hxy ▸ checkAnchor_reorder h start i j x hx
  · refine (PermUpTo.of_perm h.precedenceEdges).forEach ?_ hedges
    intro x _ y _ hxy i j hx
    exact hxy ▸ checkEdge_reorder h i j x hx
  · refine (PermUpTo.of_perm h.operationLocks).forEach ?_ hlocks
    intro x _ y _ hxy i j hx
    exact hxy ▸ checkLock_reorder h start hoperationIds i j x hx
  · refine (PermUpTo.of_perm h.resourceUnavailableIntervals).forEach ?_ hintervals
    intro x _ y _ hxy i j hx
    exact hxy ▸ checkInterval_reorder h start stop hresourceIds i j x hx

omit h in
/-- The capability declaration passes on the same declared names. -/
theorem capabilities_reorder {required required' : List String} (hperm : required.Perm required')
    {names : List CapabilityName} (hok : requireV1CapabilityContract required = .ok names) :
    ∃ names', requireV1CapabilityContract required' = .ok names' := by
  have hduplicates : ((required.filter fun name => required.count name > 1).dedup).Perm
      ((required'.filter fun name => required'.count name > 1).dedup) := by
    simp only [hperm.count_eq]
    exact (hperm.filter _).dedup
  have hunknown : (required.filter fun name => (CapabilityName.ofText name).isNone).Perm
      (required'.filter fun name => (CapabilityName.ofText name).isNone) := hperm.filter _
  have hblocked : ((required.filterMap CapabilityName.ofText).filter
        fun name => name.status ≠ .v1Supported).Perm
      ((required'.filterMap CapabilityName.ofText).filter
        fun name => name.status ≠ .v1Supported) := (hperm.filterMap _).filter _
  simp only [requireV1CapabilityContract] at hok ⊢
  by_cases hd : (required.filter fun name => required.count name > 1).dedup = []
  · rw [if_neg (not_not.mpr hd)] at hok
    rw [hd] at hduplicates
    rw [if_neg (not_not.mpr hduplicates.nil_eq.symm)]
    by_cases hu : (required.filter fun name => (CapabilityName.ofText name).isNone) = []
    · rw [if_neg (not_not.mpr hu)] at hok
      rw [hu] at hunknown
      rw [if_neg (not_not.mpr hunknown.nil_eq.symm)]
      by_cases hb : ((required.filterMap CapabilityName.ofText).filter
          fun name => name.status ≠ .v1Supported) = []
      · rw [hb] at hblocked
        rw [if_neg (not_not.mpr hblocked.nil_eq.symm)]
        exact ⟨_, rfl⟩
      · rw [if_pos hb] at hok
        cases hok
    · rw [if_pos hu] at hok
      cases hok
  · rw [if_pos hd] at hok
    cases hok

omit h in
/-- The sweep reads the successors of a node in sorted order only. -/
theorem sweep_congr {successors successors' : String → List String}
    (hperm : ∀ node, (successors node).Perm (successors' node)) (rounds : Nat)
    (ready : List String) (indegree : String → Int) (visited : Nat) :
    sweep successors rounds ready indegree visited =
      sweep successors' rounds ready indegree visited := by
  induction rounds generalizing ready indegree visited with
  | zero => rfl
  | succ rounds ih =>
    cases ready with
    | nil => rfl
    | cons node ready =>
      simp only [sweep, sortByKey_ids_eq (hperm node)]
      exact ih _ _ _

theorem dag_reorder (hok : validateDagV2 p = .ok ()) : validateDagV2 q = .ok () := by
  have hnodes := (h.operationIds.append h.anchorOperationIds).dedup
  have hsuccessors : ∀ node,
      ((p.precedenceEdges.filter fun e => e.predecessorOperationId = node).map
        PrecedenceEdge.successorOperationId).Perm
      ((q.precedenceEdges.filter fun e => e.predecessorOperationId = node).map
        PrecedenceEdge.successorOperationId) :=
    fun node => (h.precedenceEdges.filter _).map _
  have hdegree : ∀ node,
      (p.precedenceEdges.filter fun e => e.successorOperationId = node).length =
        (q.precedenceEdges.filter fun e => e.successorOperationId = node).length :=
    fun node => (h.precedenceEdges.filter _).length_eq
  simp only [validateDagV2, require_eq_ok] at hok ⊢
  simp only [sweep_congr hsuccessors, hnodes.length_eq, hdegree] at hok
  have hready := fun keep => sortByKey_ids_eq (hnodes.filter keep)
  rw [hready] at hok
  exact hok

/-- **Reordering a contract-valid problem keeps it contract-valid.** -/
theorem validateBuiltProblemV2_reorder (hok : validateBuiltProblemV2 p = .ok ()) :
    validateBuiltProblemV2 q = .ok () := by
  have hshape : ∀ operation ∈ q.operationInstances, ExactOperationFields operation := by
    intro operation hmem
    obtain ⟨operation', hmem', hsame⟩ := h.operationInstances.exists_left hmem
    have hfields := builtProblem_fields p hok operation' hmem'
    obtain ⟨-, -, hrest⟩ := hsame
    rw [← hrest]
    exact hfields
  have hversions : versionExpectations q = versionExpectations p := by
    have hrest := h.rest
    rw [← hrest]
    rfl
  simp only [validateBuiltProblemV2, bind_eq_ok, exists_unit_iff] at hok ⊢
  obtain ⟨-, hversion, hcontract⟩ := hok
  refine ⟨?_, ?_, ?_⟩
  · rw [validateExactShapeV2, forEach_eq_ok_iff ExactOperationFields]
    · exact hshape
    · intro operation _ i
      rw [require_eq_ok]
  · rw [hversions]
    refine (PermUpTo.of_perm (List.Perm.refl _)).forEach ?_ hversion
    intro x _ y _ hxy i j hx
    subst hxy
    rw [require_eq_ok] at hx ⊢
    exact hx
  · split at hcontract
    · cases hcontract
    · rename_i hpass
      rw [contract_reorder h hpass]
      split at hcontract
      · cases hcontract
      · rename_i names hcapabilities
        obtain ⟨names', hnames'⟩ := capabilities_reorder h.requiredCapabilities hcapabilities
        simp only [hnames']
        exact dag_reorder h hcontract

end
end PlantNexus.Problem
