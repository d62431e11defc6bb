import PlantNexus.Data.Graph
import PlantNexus.Expansion.Orders
import PlantNexus.Snapshot.Accepted

/-! What an expansion consists of.

The loops of the expansion write the instances and edges that `plannedInstances` and
`plannedEdges` list, one for every lot and operation or edge of the route of its order, and check
that their identities differ. `expandOrders_exact` reads off from this that the expansion is the
disjoint union of one copy of the route of each lot, with every fact and lock on one instance. -/
namespace PlantNexus.Expansion
open Data Snapshot

/-! ### Identities -/

/-- The text of a stable identity. -/
def derivedId (kind : String) (lineageIds : List String) : String :=
  let basis := Json.obj
    [("expansion_version", .str orderExpansionVersion), ("kind", .str kind),
     ("lineage_ids", .strings lineageIds)]
  kind ++ "-" ++ Sha256.hexdigest basis.dumps

def instanceId (lotId operationId : String) : String :=
  derivedId "operation-instance" [lotId, operationId]

def edgeId (lotId routingEdgeId : String) : String :=
  derivedId "operation-precedence-edge" [lotId, routingEdgeId]

theorem stableExpansionId_ok {kind id : String} {lineageIds : List String}
    (h : stableExpansionId kind lineageIds = .ok id) : id = derivedId kind lineageIds := by
  simp only [stableExpansionId, bind_eq_ok, exists_unit_iff, pure, Except.pure,
    Except.ok.injEq] at h
  exact h.2.symm

theorem instanceId_ne_edgeId (lotId operationId lotId' routingEdgeId : String) :
    instanceId lotId operationId ≠ edgeId lotId' routingEdgeId := by
  intro h
  have hchars := congrArg (fun id => id.toList.take 11) h
  simp only [instanceId, edgeId, derivedId, String.toList_append, List.append_assoc] at hchars
  rw [List.take_append_of_le_length (by decide), List.take_append_of_le_length (by decide)]
    at hchars
  exact absurd hchars (by decide)

/-! ### Instances -/

section
variable (r : CanonicalRecords)

/-- The instances of one order. -/
def orderInstances (order : ProductionOrderRecord) : List OperationInstance :=
  (r.demand? order.demandOrderId).toList.flatMap fun demand =>
    (lotsOf r order.productionOrderId).flatMap fun lot =>
      (operationsOf r order.routingVersionId).flatMap fun operation =>
        [expandedInstance r order demand lot operation
          (instanceId lot.productionLotId operation.routingOperationId)]

def plannedInstances : List OperationInstance := (ordersById r).flatMap (orderInstances r)

/-- A lot of an order, and an operation of the route of the order. -/
structure Planned (order : ProductionOrderRecord) (demand : DemandOrderRecord)
    (lot : ProductionLotRecord) (operation : RoutingOperationRecord) : Prop where
  isOrder : order ∈ r.productionOrders
  demanded : r.demand? order.demandOrderId = some demand
  isLot : lot ∈ r.productionLots
  owner : lot.productionOrderId = order.productionOrderId
  isOperation : operation ∈ r.routingOperations
  route : operation.routingVersionId = order.routingVersionId

end

section
variable {r : CanonicalRecords}

theorem mem_lotsOf {orderId : String} {lot : ProductionLotRecord} :
    lot ∈ lotsOf r orderId ↔ lot ∈ r.productionLots ∧ lot.productionOrderId = orderId := by
  rw [lotsOf, mem_sortByKey, List.mem_filter, decide_eq_true_eq]

theorem mem_operationsOf {routeId : String} {operation : RoutingOperationRecord} :
    operation ∈ operationsOf r routeId ↔
      operation ∈ r.routingOperations ∧ operation.routingVersionId = routeId := by
  rw [operationsOf, mem_sortByKey, List.mem_filter, decide_eq_true_eq]

theorem mem_edgesOf {routeId : String} {edge : RoutingPrecedenceEdgeRecord} :
    edge ∈ edgesOf r routeId ↔
      edge ∈ r.routingPrecedenceEdges ∧ edge.routingVersionId = routeId := by
  rw [edgesOf, mem_sortByKey, List.mem_filter, decide_eq_true_eq]

theorem mem_ordersById {order : ProductionOrderRecord} :
    order ∈ ordersById r ↔ order ∈ r.productionOrders := mem_sortByKey ..

theorem mem_plannedInstances {o : OperationInstance} : o ∈ plannedInstances r ↔
    ∃ order demand lot operation, Planned r order demand lot operation ∧
      o = expandedInstance r order demand lot operation
        (instanceId lot.productionLotId operation.routingOperationId) := by
  simp only [plannedInstances, orderInstances, List.mem_flatMap, mem_ordersById,
    Option.mem_toList, mem_lotsOf, mem_operationsOf, List.mem_singleton]
  constructor
  · rintro ⟨order, horder, demand, hdemand, lot, ⟨hlot, howner⟩, operation, ⟨hop, hroute⟩, rfl⟩
    exact ⟨order, demand, lot, operation, ⟨horder, hdemand, hlot, howner, hop, hroute⟩, rfl⟩
  · rintro ⟨order, demand, lot, operation, ⟨horder, hdemand, hlot, howner, hop, hroute⟩, rfl⟩
    exact ⟨order, horder, demand, hdemand, lot, ⟨hlot, howner⟩, operation, ⟨hop, hroute⟩, rfl⟩

theorem expandOperation_ok {order : ProductionOrderRecord} {demand : DemandOrderRecord}
    {lot : ProductionLotRecord} {operation : RoutingOperationRecord}
    {instances instances' : List OperationInstance}
    (h : expandOperation r order demand lot instances operation = .ok instances') :
    instances' = instances ++ [expandedInstance r order demand lot operation
        (instanceId lot.productionLotId operation.routingOperationId)] ∧
      instanceId lot.productionLotId operation.routingOperationId ∉
        instances.map OperationInstance.operationInstanceId := by
  simp only [expandOperation, bind_eq_ok, exists_unit_iff, require_eq_ok, pure, Except.pure,
    Except.ok.injEq] at h
  obtain ⟨-, id, hid, hfresh, rfl⟩ := h
  obtain rfl := stableExpansionId_ok hid
  exact ⟨rfl, hfresh⟩

/-- What one order adds. -/
theorem expandOrder_ok {instances instances' : List OperationInstance}
    {order : ProductionOrderRecord} (h : expandOrder r instances order = .ok instances') :
    lotsOf r order.productionOrderId ≠ [] ∧ operationsOf r order.routingVersionId ≠ [] ∧
      instances' = instances ++ orderInstances r order ∧
      ((instances.map OperationInstance.operationInstanceId).Nodup →
        (instances'.map OperationInstance.operationInstanceId).Nodup) := by
  simp only [expandOrder, bind_eq_ok, exists_unit_iff, require_eq_ok] at h
  obtain ⟨hlots, ⟨-, hoperations⟩, h⟩ := h
  split at h
  · cases h
  · rename_i demand hdemand
    refine ⟨hlots, hoperations, ?_, ?_⟩
    · rw [orderInstances, hdemand, Option.toList_some, List.flatMap_singleton]
      refine foldlM_append_ok _ ?_ h
      intro lot _ s s' hlot
      refine foldlM_append_ok _ ?_ hlot
      intro operation _ s s' hoperation
      exact (expandOperation_ok hoperation).1
    · refine foldlM_invariant
        (fun s : List OperationInstance => (s.map OperationInstance.operationInstanceId).Nodup) ?_ h
      intro s lot _ s' hs hlot
      refine foldlM_invariant
        (fun s : List OperationInstance => (s.map OperationInstance.operationInstanceId).Nodup) ?_
        hlot hs
      intro s operation _ s' hs hoperation
      obtain ⟨rfl, hfresh⟩ := expandOperation_ok hoperation
      rw [List.map_append, List.map_singleton, ← List.concat_eq_append]
      exact hs.concat hfresh

theorem expandInstances_ok {instances : List OperationInstance}
    (h : expandInstances r = .ok instances) :
    instances = plannedInstances r ∧
      (instances.map OperationInstance.operationInstanceId).Nodup ∧
      ∀ order ∈ r.productionOrders, lotsOf r order.productionOrderId ≠ [] := by
  refine ⟨?_, ?_, ?_⟩
  · refine foldlM_append_ok _ ?_ h
    intro order _ s s' horder
    exact (expandOrder_ok horder).2.2.1
  · refine foldlM_invariant
      (fun s : List OperationInstance => (s.map OperationInstance.operationInstanceId).Nodup) ?_ h
      List.nodup_nil
    intro s order _ s' hs horder
    exact (expandOrder_ok horder).2.2.2 hs
  · intro order horder
    obtain ⟨s, s', hstep⟩ := foldlM_ok_mem h order (mem_ordersById.mpr horder)
    exact (expandOrder_ok hstep).1

/-! ### Edges -/

/-- The edge of a lot and an edge of its route. -/
def expandedEdge (lot : ProductionLotRecord) (edge : RoutingPrecedenceEdgeRecord) :
    OperationPrecedenceEdge :=
  ⟨edgeId lot.productionLotId edge.routingPrecedenceEdgeId, edge.routingPrecedenceEdgeId,
    instanceId lot.productionLotId edge.predecessorRoutingOperationId,
    instanceId lot.productionLotId edge.successorRoutingOperationId, edge.minLagSeconds,
    edge.transportLagSeconds, edge.maxLagSeconds⟩

def plannedEdges (r : CanonicalRecords) : List OperationPrecedenceEdge :=
  (ordersById r).flatMap fun order =>
    (lotsOf r order.productionOrderId).flatMap fun lot =>
      (edgesOf r order.routingVersionId).flatMap fun edge => [expandedEdge lot edge]

theorem mem_plannedEdges {e : OperationPrecedenceEdge} : e ∈ plannedEdges r ↔
    ∃ order ∈ r.productionOrders, ∃ lot ∈ r.productionLots,
      lot.productionOrderId = order.productionOrderId ∧ ∃ edge ∈ r.routingPrecedenceEdges,
        edge.routingVersionId = order.routingVersionId ∧ e = expandedEdge lot edge := by
  simp only [plannedEdges, List.mem_flatMap, mem_ordersById, mem_lotsOf, mem_edgesOf,
    List.mem_singleton, and_assoc]

/-- The instances of a lot and an operation carry the identity of the two. -/
theorem planned_id {o : OperationInstance} (h : o ∈ plannedInstances r) :
    o.operationInstanceId = instanceId o.productionLotId o.routingOperationId := by
  obtain ⟨order, demand, lot, operation, -, rfl⟩ := mem_plannedInstances.mp h
  rfl

theorem expandEdge_ok {lot : ProductionLotRecord} {edge : RoutingPrecedenceEdgeRecord}
    {edges edges' : List OperationPrecedenceEdge}
    (h : expandEdge (plannedInstances r) lot edges edge = .ok edges') :
    edges' = edges ++ [expandedEdge lot edge] ∧
      (expandedEdge lot edge).operationPrecedenceEdgeId ∉
        edges.map OperationPrecedenceEdge.operationPrecedenceEdgeId ∧
      (∃ o ∈ plannedInstances r,
        lineage o = (lot.productionLotId, edge.predecessorRoutingOperationId)) ∧
      ∃ o ∈ plannedInstances r,
        lineage o = (lot.productionLotId, edge.successorRoutingOperationId) := by
  rw [expandEdge] at h
  split at h
  · rename_i predecessor successor hpredecessor hsuccessor
    obtain ⟨hmem, hkey⟩ := mem_of_dictGet hpredecessor
    obtain ⟨hmem', hkey'⟩ := mem_of_dictGet hsuccessor
    simp only [bind_eq_ok, exists_unit_iff, require_eq_ok, pure, Except.pure,
      Except.ok.injEq] at h
    obtain ⟨id, hid, hfresh, rfl⟩ := h
    obtain rfl := stableExpansionId_ok hid
    have hids : ∀ {o : OperationInstance} {operationId : String}, o ∈ plannedInstances r →
        lineage o = (lot.productionLotId, operationId) →
          o.operationInstanceId = instanceId lot.productionLotId operationId := by
      intro o operationId ho hlineage
      rw [lineage, Prod.mk.injEq] at hlineage
      rw [planned_id ho, hlineage.1, hlineage.2]
    rw [hids hmem hkey, hids hmem' hkey']
    exact ⟨rfl, hfresh, ⟨predecessor, hmem, hkey⟩, successor, hmem', hkey'⟩
  · cases h

theorem expandEdges_ok {edges : List OperationPrecedenceEdge}
    (h : expandEdges r (plannedInstances r) = .ok edges) :
    edges = plannedEdges r ∧
      (edges.map OperationPrecedenceEdge.operationPrecedenceEdgeId).Nodup := by
  refine ⟨?_, ?_⟩
  · refine foldlM_append_ok _ ?_ h
    intro order _ s s' horder
    refine foldlM_append_ok _ ?_ horder
    intro lot _ s s' hlot
    refine foldlM_append_ok _ ?_ hlot
    intro edge _ s s' hedge
    exact (expandEdge_ok hedge).1
  · let fresh := fun s : List OperationPrecedenceEdge =>
      (s.map OperationPrecedenceEdge.operationPrecedenceEdgeId).Nodup
    refine foldlM_invariant fresh ?_ h List.nodup_nil
    intro s order _ s' hs horder
    refine foldlM_invariant fresh ?_ horder hs
    intro s lot _ s' hs hlot
    refine foldlM_invariant fresh ?_ hlot hs
    intro s edge _ s' hs hedge
    obtain ⟨rfl, hfresh, -⟩ := expandEdge_ok hedge
    show (List.map _ (s ++ [_])).Nodup
    rw [List.map_append, List.map_singleton, ← List.concat_eq_append]
    exact List.Nodup.concat hfresh hs

end

/-! ### Accepted packages -/

section
variable {r : CanonicalRecords} (hr : AcceptedRecords r)
include hr

theorem routingOperationIds :
    (r.routingOperations.map RoutingOperationRecord.routingOperationId).Nodup :=
  hr.nodup_at 8 rfl

theorem routingEdgeIds :
    (r.routingPrecedenceEdges.map RoutingPrecedenceEdgeRecord.routingPrecedenceEdgeId).Nodup :=
  hr.nodup_at 9 rfl

theorem lotRoute_of_order {order : ProductionOrderRecord} {lot : ProductionLotRecord}
    (horder : order ∈ r.productionOrders) (hlot : lot ∈ r.productionLots)
    (howner : lot.productionOrderId = order.productionOrderId) :
    lotRoute r lot.productionLotId = some order.routingVersionId := by
  have hlots : r.lot? lot.productionLotId = some lot :=
    (dictGet_eq_some_iff _ _ _ _ hr.productionLotIds).mpr ⟨hlot, rfl⟩
  have horders : r.order? lot.productionOrderId = some order :=
    (dictGet_eq_some_iff _ _ _ _ hr.productionOrderIds).mpr ⟨horder, howner.symm⟩
  rw [lotRoute, hlots, Option.bind_some, horders, Option.map_some]

/-- Every lot has its order. -/
theorem order_of_lot {lot : ProductionLotRecord} (hlot : lot ∈ r.productionLots) :
    ∃ order ∈ r.productionOrders, lot.productionOrderId = order.productionOrderId ∧
      lotRoute r lot.productionLotId = some order.routingVersionId := by
  obtain ⟨order, horder, howner⟩ := List.mem_map.mp (hr.lot_order hlot)
  exact ⟨order, horder, howner.symm, lotRoute_of_order hr horder hlot howner.symm⟩

/-- The route of a lot is that of its order. -/
theorem lotRoute_eq_some_iff {lotId routeId : String} : lotRoute r lotId = some routeId ↔
    ∃ lot ∈ r.productionLots, lot.productionLotId = lotId ∧ ∃ order ∈ r.productionOrders,
      lot.productionOrderId = order.productionOrderId ∧ order.routingVersionId = routeId := by
  constructor
  · intro h
    rw [lotRoute, Option.map_eq_some_iff] at h
    obtain ⟨order, hbind, rfl⟩ := h
    obtain ⟨lot, hlot, horder⟩ := Option.bind_eq_some_iff.mp hbind
    obtain ⟨hmem, hid⟩ := mem_of_dictGet hlot
    obtain ⟨hmem', hid'⟩ := mem_of_dictGet horder
    exact ⟨lot, hmem, hid, order, hmem', hid'.symm, rfl⟩
  · rintro ⟨lot, hlot, rfl, order, horder, howner, rfl⟩
    exact lotRoute_of_order hr horder hlot howner

/-- The operations of the route of a lot are planned for it. -/
theorem planned_of_lotRoute {lot : ProductionLotRecord} {operation : RoutingOperationRecord}
    (hlot : lot ∈ r.productionLots) (hoperation : operation ∈ r.routingOperations)
    (hroute : lotRoute r lot.productionLotId = some operation.routingVersionId) :
    ∃ order demand, Planned r order demand lot operation := by
  obtain ⟨order, horder, howner, hversion⟩ := order_of_lot hr hlot
  have hdemand := hr.reference_at 13 rfl _ (List.mem_map_of_mem horder)
  cases hget : r.demand? order.demandOrderId with
  | none => exact absurd hdemand ((dictGet_eq_none_iff _ _ _).mp hget)
  | some demand =>
    rw [hversion, Option.some.injEq] at hroute
    exact ⟨order, demand, horder, hget, hlot, howner, hoperation, hroute.symm⟩

/-- A lot and an operation are planned at most once. -/
theorem Planned.unique {order order' : ProductionOrderRecord} {demand demand' : DemandOrderRecord}
    {lot lot' : ProductionLotRecord} {operation operation' : RoutingOperationRecord}
    (h : Planned r order demand lot operation) (h' : Planned r order' demand' lot' operation')
    (hlot : lot.productionLotId = lot'.productionLotId)
    (hoperation : operation.routingOperationId = operation'.routingOperationId) :
    order = order' ∧ demand = demand' ∧ lot = lot' ∧ operation = operation' := by
  obtain rfl := List.inj_on_of_nodup_map hr.productionLotIds h.isLot h'.isLot hlot
  obtain rfl := List.inj_on_of_nodup_map (routingOperationIds hr) h.isOperation h'.isOperation
    hoperation
  obtain rfl := List.inj_on_of_nodup_map hr.productionOrderIds h.isOrder h'.isOrder
    (h.owner.symm.trans h'.owner)
  have hdemands := h.demanded.symm.trans h'.demanded
  rw [Option.some.injEq] at hdemands
  exact ⟨rfl, hdemands, rfl, rfl⟩

theorem lineage_injOn : Set.InjOn lineage {o | o ∈ plannedInstances r} := by
  intro o ho o' ho' hsame
  obtain ⟨order, demand, lot, operation, h, rfl⟩ := mem_plannedInstances.mp ho
  obtain ⟨order', demand', lot', operation', h', rfl⟩ := mem_plannedInstances.mp ho'
  obtain ⟨hlot, hoperation⟩ := Prod.mk.inj hsame
  obtain ⟨rfl, rfl, rfl, rfl⟩ := h.unique hr h' hlot hoperation
  rfl

/-- The instances of a lot are of its order. -/
theorem planned_order {o : OperationInstance} (ho : o ∈ plannedInstances r)
    {lot : ProductionLotRecord} (hlot : lot ∈ r.productionLots)
    (hid : o.productionLotId = lot.productionLotId) :
    o.productionOrderId = lot.productionOrderId := by
  obtain ⟨order, demand, lot', operation, h, rfl⟩ := mem_plannedInstances.mp ho
  rw [← List.inj_on_of_nodup_map hr.productionLotIds h.isLot hlot hid]
  exact h.owner.symm

/-- The pairs of a lot and an operation of the route of its order. -/
theorem lineage_image (key : String × String) :
    (∃ o ∈ plannedInstances r, lineage o = key) ↔
      ∃ lot ∈ r.productionLots, ∃ operation ∈ r.routingOperations,
        lotRoute r lot.productionLotId = some operation.routingVersionId ∧
        key = (lot.productionLotId, operation.routingOperationId) := by
  constructor
  · rintro ⟨o, ho, rfl⟩
    obtain ⟨order, demand, lot, operation, h, rfl⟩ := mem_plannedInstances.mp ho
    refine ⟨lot, h.isLot, operation, h.isOperation, ?_, rfl⟩
    rw [lotRoute_of_order hr h.isOrder h.isLot h.owner, h.route]
  · rintro ⟨lot, hlot, operation, hoperation, hroute, rfl⟩
    obtain ⟨order, demand, hplanned⟩ := planned_of_lotRoute hr hlot hoperation hroute
    exact ⟨_, mem_plannedInstances.mpr ⟨order, demand, lot, operation, hplanned, rfl⟩, rfl⟩

/-- A lot and a routing operation of its route, named by their identities. -/
theorem lineage_of_ids {lotId operationId : String}
    (hlot : lotId ∈ r.productionLots.map ProductionLotRecord.productionLotId)
    (hoperation : operationId ∈ r.routingOperations.map RoutingOperationRecord.routingOperationId)
    (hroute : r.operationRoute operationId = lotRoute r lotId) :
    ∃ o ∈ plannedInstances r, lineage o = (lotId, operationId) := by
  obtain ⟨lot, hmem, rfl⟩ := List.mem_map.mp hlot
  obtain ⟨operation, hmem', rfl⟩ := List.mem_map.mp hoperation
  have hget : r.operationRoute operation.routingOperationId = some operation.routingVersionId := by
    rw [CanonicalRecords.operationRoute,
      (dictGet_eq_some_iff _ _ _ _ (routingOperationIds hr)).mpr ⟨hmem', rfl⟩, Option.map_some]
  exact (lineage_image hr _).mpr ⟨lot, hmem, operation, hmem', hroute.symm.trans hget, rfl⟩

end

/-! ### Facts and locks -/

/-- Facts and locks are about operations of the route of their lot, and no two facts about one. -/
structure LineageChecked (r : CanonicalRecords) : Prop where
  factKeys : (r.executionFacts.map factKey).Nodup
  facts : ∀ fact ∈ r.executionFacts,
    r.operationRoute fact.routingOperationId = lotRoute r fact.productionLotId
  locks : ∀ lock ∈ r.operationLocks,
    r.operationRoute lock.routingOperationId = lotRoute r lock.productionLotId

theorem validateFactAndLockLineage_ok {r : CanonicalRecords}
    (h : validateFactAndLockLineage r = .ok ()) : LineageChecked r := by
  rw [validateFactAndLockLineage, bind_unit_eq_ok] at h
  obtain ⟨hfacts, hlocks⟩ := h
  obtain ⟨hnodup, heach⟩ := forEachDistinct_ok hfacts
  refine ⟨hnodup, ?_, ?_⟩
  · intro fact hfact
    obtain ⟨-, ⟨_, hroute⟩, -⟩ := heach fact hfact
    rwa [require_eq_ok] at hroute
  · refine forEach_ok_mem hlocks ?_
    intro _ lock hlock
    rwa [require_eq_ok] at hlock

section
variable {r : CanonicalRecords}

/-- An instance names the fact of its lot and operation. -/
theorem planned_fact {o : OperationInstance} (ho : o ∈ plannedInstances r) :
    o.executionFactId = (dictGet factKey r.executionFacts (lineage o)).map
      ExecutionFactRecord.executionFactId := by
  obtain ⟨order, demand, lot, operation, -, rfl⟩ := mem_plannedInstances.mp ho
  rfl

/-- An instance names the locks of its lot and operation. -/
theorem mem_planned_locks {o : OperationInstance} (ho : o ∈ plannedInstances r) {id : String} :
    id ∈ o.lockIds ↔ ∃ lock ∈ r.operationLocks, lockKey lock = lineage o ∧ lock.lockId = id := by
  obtain ⟨order, demand, lot, operation, -, rfl⟩ := mem_plannedInstances.mp ho
  simp only [expandedInstance, mem_sortByKey, List.mem_map, List.mem_filter, decide_eq_true_eq,
    and_assoc]
  rfl

theorem nodup_planned_locks (hr : AcceptedRecords r) {o : OperationInstance}
    (ho : o ∈ plannedInstances r) : o.lockIds.Nodup := by
  obtain ⟨order, demand, lot, operation, -, rfl⟩ := mem_plannedInstances.mp ho
  exact (sortByKey_perm ..).nodup_iff.mpr (hr.lockIds.sublist (List.filter_sublist.map _))

variable (hr : AcceptedRecords r) (hchecked : LineageChecked r)
include hr hchecked

/-- **Every fact is on exactly one instance**, that of its lot and operation. -/
theorem fact_attached {fact : ExecutionFactRecord} (hfact : fact ∈ r.executionFacts) :
    ∃! o, o ∈ plannedInstances r ∧ o.executionFactId = some fact.executionFactId := by
  obtain ⟨o, ho, hlineage⟩ := lineage_of_ids hr (hr.fact_lot hfact)
    (hr.reference_at 17 rfl _ (List.mem_map_of_mem hfact)) (hchecked.facts fact hfact)
  have hnamed : ∀ o' ∈ plannedInstances r,
      o'.executionFactId = some fact.executionFactId ↔ lineage o' = factKey fact := by
    intro o' ho'
    rw [planned_fact ho']
    constructor
    · intro hsome
      obtain ⟨found, hget, hid⟩ := Option.map_eq_some_iff.mp hsome
      obtain ⟨hmem, hkey⟩ := mem_of_dictGet hget
      rw [← hkey, List.inj_on_of_nodup_map hr.executionFactIds hmem hfact hid]
    · intro hkey
      rw [hkey, (dictGet_eq_some_iff _ _ _ _ hchecked.factKeys).mpr ⟨hfact, rfl⟩, Option.map_some]
  refine ⟨o, ⟨ho, (hnamed o ho).mpr hlineage⟩, ?_⟩
  rintro o' ⟨ho', hfact'⟩
  exact lineage_injOn hr ho' ho (((hnamed o' ho').mp hfact').trans hlineage.symm)

/-- **Every lock is on exactly one instance**, that of its lot and operation. -/
theorem lock_attached {lock : OperationLockRecord} (hlock : lock ∈ r.operationLocks) :
    ∃! o, o ∈ plannedInstances r ∧ lock.lockId ∈ o.lockIds := by
  obtain ⟨o, ho, hlineage⟩ := lineage_of_ids hr (hr.lock_lot hlock)
    (hr.reference_at 19 rfl _ (List.mem_map_of_mem hlock)) (hchecked.locks lock hlock)
  refine ⟨o, ⟨ho, (mem_planned_locks ho).mpr ⟨lock, hlock, hlineage.symm, rfl⟩⟩, ?_⟩
  rintro o' ⟨ho', hmem⟩
  obtain ⟨other, hother, hkey, hid⟩ := (mem_planned_locks ho').mp hmem
  obtain rfl := List.inj_on_of_nodup_map hr.lockIds hother hlock hid
  exact lineage_injOn hr ho' ho (hkey.symm.trans hlineage.symm)

end

/-! ### The graph of the route of a lot -/

/-- An edge of a routing version between two of its operations. -/
def RouteEdge (r : CanonicalRecords) (routeId predecessor successor : String) : Prop :=
  ∃ edge ∈ r.routingPrecedenceEdges, edge.routingVersionId = routeId ∧
    edge.predecessorRoutingOperationId = predecessor ∧
    edge.successorRoutingOperationId = successor

/-- An edge between two expanded operations. -/
def ExpandedEdge (edges : List OperationPrecedenceEdge) (predecessor successor : String) : Prop :=
  ∃ edge ∈ edges, edge.predecessorOperationInstanceId = predecessor ∧
    edge.successorOperationInstanceId = successor

/-- The route of a lot, on the lots of the records. -/
def LotEdge (r : CanonicalRecords) (lotId predecessor successor : String) : Prop :=
  lotId ∈ r.productionLots.map ProductionLotRecord.productionLotId ∧
    ∃ routeId ∈ lotRoute r lotId, RouteEdge r routeId predecessor successor

section
variable {r : CanonicalRecords} (hr : AcceptedRecords r)
include hr

/-- The ends of an edge of the route of a lot are planned for the lot. -/
theorem lotEdge_planned {lotId predecessor successor : String}
    (h : LotEdge r lotId predecessor successor) :
    (∃ o ∈ plannedInstances r, lineage o = (lotId, predecessor)) ∧
      ∃ o ∈ plannedInstances r, lineage o = (lotId, successor) := by
  obtain ⟨hlot, routeId, hroute, edge, hedge, hversion, rfl, rfl⟩ := h
  obtain ⟨i, hcheck⟩ := hr.routingEdges edge hedge
  simp only [checkRoutingEdge, bind_unit_eq_ok, require_eq_ok] at hcheck
  obtain ⟨-, ⟨hpredecessor, hsuccessor⟩, -⟩ := hcheck
  have hown : lotRoute r lotId = some edge.routingVersionId := by
    rw [hversion]
    exact hroute
  exact ⟨lineage_of_ids hr hlot (hr.reference_at 8 rfl _ (List.mem_map_of_mem hedge))
      (hpredecessor.trans hown.symm),
    lineage_of_ids hr hlot (hr.reference_at 9 rfl _ (List.mem_map_of_mem hedge))
      (hsuccessor.trans hown.symm)⟩

/-- **The expanded graph is made of one copy of its route for every lot.** -/
theorem expanded_copies
    (hids : ((plannedInstances r).map OperationInstance.operationInstanceId).Nodup) :
    DisjointCopies (LotEdge r) instanceId (ExpandedEdge (plannedEdges r)) := by
  refine ⟨?_, ?_⟩
  · intro x y
    constructor
    · rintro ⟨e, he, rfl, rfl⟩
      obtain ⟨order, horder, lot, hlot, howner, edge, hedge, hversion, rfl⟩ :=
        mem_plannedEdges.mp he
      exact ⟨lot.productionLotId, edge.predecessorRoutingOperationId,
        edge.successorRoutingOperationId, ⟨List.mem_map_of_mem hlot, order.routingVersionId,
          lotRoute_of_order hr horder hlot howner, edge, hedge, hversion, rfl, rfl⟩, rfl, rfl⟩
    · rintro ⟨lotId, predecessor, successor, ⟨hlot, routeId, hroute, edge, hedge, hversion, rfl,
        rfl⟩, rfl, rfl⟩
      obtain ⟨lot, hmem, rfl⟩ := List.mem_map.mp hlot
      obtain ⟨order, horder, howner, hown⟩ := order_of_lot hr hmem
      rw [hown, Option.mem_def, Option.some.injEq] at hroute
      exact ⟨expandedEdge lot edge, mem_plannedEdges.mpr ⟨order, horder, lot, hmem, howner, edge,
        hedge, hversion.trans hroute.symm, rfl⟩, rfl, rfl⟩
  · intro lotId lotId' operationId operationId' h h' hsame
    have hplanned : ∀ {lotId operationId : String}, Touches (LotEdge r lotId) operationId →
        ∃ o ∈ plannedInstances r, lineage o = (lotId, operationId) := by
      rintro lotId operationId (⟨_, hedge⟩ | ⟨_, hedge⟩)
      · exact (lotEdge_planned hr hedge).1
      · exact (lotEdge_planned hr hedge).2
    obtain ⟨o, ho, hlineage⟩ := hplanned h
    obtain ⟨o', ho', hlineage'⟩ := hplanned h'
    have hid : o.operationInstanceId = o'.operationInstanceId := by
      obtain ⟨hlot, hoperation⟩ := Prod.mk.inj hlineage
      obtain ⟨hlot', hoperation'⟩ := Prod.mk.inj hlineage'
      rw [planned_id ho, planned_id ho', hlot, hoperation, hlot', hoperation', hsame]
    obtain rfl := List.inj_on_of_nodup_map hids ho ho' hid
    exact Prod.mk.inj (hlineage.symm.trans hlineage')

/-- **The expanded graph is acyclic exactly when every used route is.** -/
theorem expanded_acyclic
    (hids : ((plannedInstances r).map OperationInstance.operationInstanceId).Nodup)
    (hlots : ∀ order ∈ r.productionOrders, lotsOf r order.productionOrderId ≠ []) :
    Acyclic (ExpandedEdge (plannedEdges r)) ↔
      ∀ order ∈ r.productionOrders, Acyclic (RouteEdge r order.routingVersionId) := by
  have hlotEdge : ∀ {order : ProductionOrderRecord} {lot : ProductionLotRecord},
      order ∈ r.productionOrders → lot ∈ r.productionLots →
      lot.productionOrderId = order.productionOrderId →
        LotEdge r lot.productionLotId = RouteEdge r order.routingVersionId := by
    intro order lot horder hlot howner
    funext predecessor successor
    rw [LotEdge, lotRoute_of_order hr horder hlot howner]
    simp [List.mem_map_of_mem hlot]
  rw [(expanded_copies hr hids).acyclic_iff]
  constructor
  · intro hacyclic order horder
    obtain ⟨lot, hmem⟩ := List.exists_mem_of_ne_nil _ (hlots order horder)
    obtain ⟨hlot, howner⟩ := mem_lotsOf.mp hmem
    rw [← hlotEdge horder hlot howner]
    exact hacyclic lot.productionLotId
  · intro hacyclic lotId operationId hcycle
    obtain ⟨_, ⟨hlot, -⟩, -⟩ := Relation.TransGen.head'_iff.mp hcycle
    obtain ⟨lot, hmem, rfl⟩ := List.mem_map.mp hlot
    obtain ⟨order, horder, howner, -⟩ := order_of_lot hr hmem
    rw [hlotEdge horder hmem howner] at hcycle
    exact hacyclic order horder operationId hcycle

end

/-! ### The expansion -/

/-- What an accepted package and the loops of its expansion establish. -/
structure ExpandedFrom (r : CanonicalRecords) (expansion : OrderExpansion) : Prop where
  records : AcceptedRecords r
  checked : LineageChecked r
  instances : expansion.operationInstances =
    sortByKey OperationInstance.operationInstanceId (plannedInstances r)
  instanceIds : ((plannedInstances r).map OperationInstance.operationInstanceId).Nodup
  lots : ∀ order ∈ r.productionOrders, lotsOf r order.productionOrderId ≠ []
  edges : expansion.operationPrecedenceEdges =
    sortByKey OperationPrecedenceEdge.operationPrecedenceEdgeId (plannedEdges r)
  edgeIds : ((plannedEdges r).map OperationPrecedenceEdge.operationPrecedenceEdgeId).Nodup

theorem expandOrders_ok {package : ImportPackage} {report : Json} {version mode : String}
    {expansion : OrderExpansion} (h : expandOrders package report version mode = .ok expansion) :
    ExpandedFrom package.records expansion := by
  simp only [expandOrders, bind_eq_ok, exists_unit_iff, pure, Except.pure, Except.ok.injEq] at h
  obtain ⟨-, -, reportId, -, hvalid, hlineage, instances, hinstances, edges, hedges, rfl⟩ := h
  rw [validateCanonicalInput, mapError_eq_ok] at hvalid
  simp only [validateImportPackageV2, bind_unit_eq_ok] at hvalid
  obtain ⟨-, -, -, -, -, -, hrecords⟩ := hvalid
  obtain ⟨rfl, hids, hlots⟩ := expandInstances_ok hinstances
  obtain ⟨rfl, hedgeIds⟩ := expandEdges_ok hedges
  exact ⟨validateCanonicalRecords_ok hrecords, validateFactAndLockLineage_ok hlineage, rfl, hids,
    hlots, rfl, hedgeIds⟩

/-- The lot and the routing edge of an expanded edge; its lot is that of its predecessor. -/
def edgeLineage (instances : List OperationInstance) (edge : OperationPrecedenceEdge) :
    String × String :=
  ((dictGet OperationInstance.operationInstanceId instances
      edge.predecessorOperationInstanceId).elim "" OperationInstance.productionLotId,
    edge.routingPrecedenceEdgeId)

/-- The instances and edges are those of the routes of the lots, each once, with the facts and
the locks of the records on them. -/
structure ExactExpansion (r : CanonicalRecords) (instances : List OperationInstance)
    (edges : List OperationPrecedenceEdge) : Prop where
  onePerOperation : Set.BijOn lineage {o | o ∈ instances}
    {key | ∃ lot ∈ r.productionLots, ∃ operation ∈ r.routingOperations,
      lotRoute r lot.productionLotId = some operation.routingVersionId ∧
      key = (lot.productionLotId, operation.routingOperationId)}
  onePerEdge : Set.BijOn (edgeLineage instances) {e | e ∈ edges}
    {key | ∃ lot ∈ r.productionLots, ∃ edge ∈ r.routingPrecedenceEdges,
      lotRoute r lot.productionLotId = some edge.routingVersionId ∧
      key = (lot.productionLotId, edge.routingPrecedenceEdgeId)}
  withinLot : ∀ e ∈ edges, ∃ predecessor ∈ instances, ∃ successor ∈ instances,
    predecessor.operationInstanceId = e.predecessorOperationInstanceId ∧
    successor.operationInstanceId = e.successorOperationInstanceId ∧
    predecessor.productionLotId = successor.productionLotId
  facts : ∀ fact ∈ r.executionFacts,
    ∃! o, o ∈ instances ∧ o.executionFactId = some fact.executionFactId
  locks : ∀ lock ∈ r.operationLocks, ∃! o, o ∈ instances ∧ lock.lockId ∈ o.lockIds
  attached : ∀ o ∈ instances,
    (∀ id ∈ o.executionFactId, ∃ fact ∈ r.executionFacts,
      factKey fact = lineage o ∧ fact.executionFactId = id) ∧
    o.lockIds.Nodup ∧ ∀ id ∈ o.lockIds, ∃ lock ∈ r.operationLocks,
      lockKey lock = lineage o ∧ lock.lockId = id
  identities : (instances.map OperationInstance.operationInstanceId ++
    edges.map OperationPrecedenceEdge.operationPrecedenceEdgeId).Nodup
  acyclic : Acyclic (ExpandedEdge edges) ↔
    ∀ order ∈ r.productionOrders, Acyclic (RouteEdge r order.routingVersionId)

section
variable {r : CanonicalRecords} {expansion : OrderExpansion} (h : ExpandedFrom r expansion)
include h

theorem ExpandedFrom.mem_instances {o : OperationInstance} :
    o ∈ expansion.operationInstances ↔ o ∈ plannedInstances r := by
  rw [h.instances, mem_sortByKey]

theorem ExpandedFrom.mem_edges {e : OperationPrecedenceEdge} :
    e ∈ expansion.operationPrecedenceEdges ↔ e ∈ plannedEdges r := by
  rw [h.edges, mem_sortByKey]

/-- The ends of an expanded edge. -/
theorem ExpandedFrom.edge_ends {lot : ProductionLotRecord} {edge : RoutingPrecedenceEdgeRecord}
    (hlot : lot ∈ r.productionLots) (hedge : edge ∈ r.routingPrecedenceEdges)
    (hroute : lotRoute r lot.productionLotId = some edge.routingVersionId) :
    ∃ predecessor ∈ expansion.operationInstances, ∃ successor ∈ expansion.operationInstances,
      predecessor.operationInstanceId = (expandedEdge lot edge).predecessorOperationInstanceId ∧
      successor.operationInstanceId = (expandedEdge lot edge).successorOperationInstanceId ∧
      (predecessor.productionLotId = lot.productionLotId ∧
        predecessor.productionOrderId = lot.productionOrderId) ∧
      successor.productionLotId = lot.productionLotId ∧
        successor.productionOrderId = lot.productionOrderId := by
  have hlotEdge : LotEdge r lot.productionLotId edge.predecessorRoutingOperationId
      edge.successorRoutingOperationId :=
    ⟨List.mem_map_of_mem hlot, edge.routingVersionId, hroute, edge, hedge, rfl, rfl, rfl⟩
  obtain ⟨⟨p, hp, hpkey⟩, s, hs, hskey⟩ := lotEdge_planned h.records hlotEdge
  obtain ⟨hplot, hpoperation⟩ := Prod.mk.inj hpkey
  obtain ⟨hslot, hsoperation⟩ := Prod.mk.inj hskey
  refine ⟨p, h.mem_instances.mpr hp, s, h.mem_instances.mpr hs, ?_, ?_,
    ⟨hplot, planned_order h.records hp hlot hplot⟩, hslot, planned_order h.records hs hlot hslot⟩
  · rw [planned_id hp, hplot, hpoperation]
    rfl
  · rw [planned_id hs, hslot, hsoperation]
    rfl

theorem ExpandedFrom.edgeLineage_expandedEdge {lot : ProductionLotRecord}
    {edge : RoutingPrecedenceEdgeRecord} (hlot : lot ∈ r.productionLots)
    (hedge : edge ∈ r.routingPrecedenceEdges)
    (hroute : lotRoute r lot.productionLotId = some edge.routingVersionId) :
    edgeLineage expansion.operationInstances (expandedEdge lot edge) =
      (lot.productionLotId, edge.routingPrecedenceEdgeId) := by
  obtain ⟨p, hp, -, -, hid, -, ⟨hplot, -⟩, -⟩ := h.edge_ends hlot hedge hroute
  have hids : (expansion.operationInstances.map OperationInstance.operationInstanceId).Nodup := by
    rw [h.instances]
    exact ((sortByKey_perm ..).map _).nodup_iff.mpr h.instanceIds
  rw [edgeLineage, ← hid, (dictGet_eq_some_iff _ _ _ _ hids).mpr ⟨hp, rfl⟩, Option.elim_some,
    hplot]
  rfl

theorem ExpandedFrom.mem_edges_iff {e : OperationPrecedenceEdge} :
    e ∈ expansion.operationPrecedenceEdges ↔
      ∃ lot ∈ r.productionLots, ∃ edge ∈ r.routingPrecedenceEdges,
        lotRoute r lot.productionLotId = some edge.routingVersionId ∧
        e = expandedEdge lot edge := by
  rw [h.mem_edges, mem_plannedEdges]
  constructor
  · rintro ⟨order, horder, lot, hlot, howner, edge, hedge, hversion, rfl⟩
    refine ⟨lot, hlot, edge, hedge, ?_, rfl⟩
    rw [hversion]
    exact lotRoute_of_order h.records horder hlot howner
  · rintro ⟨lot, hlot, edge, hedge, hroute, rfl⟩
    obtain ⟨order, horder, howner, hown⟩ := order_of_lot h.records hlot
    rw [hown, Option.some.injEq] at hroute
    exact ⟨order, horder, lot, hlot, howner, edge, hedge, hroute.symm, rfl⟩

theorem ExpandedFrom.edges_bijOn :
    Set.BijOn (edgeLineage expansion.operationInstances)
      {e | e ∈ expansion.operationPrecedenceEdges}
      {key | ∃ lot ∈ r.productionLots, ∃ edge ∈ r.routingPrecedenceEdges,
        lotRoute r lot.productionLotId = some edge.routingVersionId ∧
        key = (lot.productionLotId, edge.routingPrecedenceEdgeId)} := by
  refine ⟨?_, ?_, ?_⟩
  · intro e he
    obtain ⟨lot, hlot, edge, hedge, hroute, rfl⟩ := h.mem_edges_iff.mp he
    exact ⟨lot, hlot, edge, hedge, hroute, h.edgeLineage_expandedEdge hlot hedge hroute⟩
  · intro e he e' he' hsame
    obtain ⟨lot, hlot, edge, hedge, hroute, rfl⟩ := h.mem_edges_iff.mp he
    obtain ⟨lot', hlot', edge', hedge', hroute', rfl⟩ := h.mem_edges_iff.mp he'
    rw [h.edgeLineage_expandedEdge hlot hedge hroute,
      h.edgeLineage_expandedEdge hlot' hedge' hroute', Prod.mk.injEq] at hsame
    rw [List.inj_on_of_nodup_map h.records.productionLotIds hlot hlot' hsame.1,
      List.inj_on_of_nodup_map (routingEdgeIds h.records) hedge hedge' hsame.2]
  · rintro key ⟨lot, hlot, edge, hedge, hroute, rfl⟩
    exact ⟨expandedEdge lot edge, h.mem_edges_iff.mpr ⟨lot, hlot, edge, hedge, hroute, rfl⟩,
      h.edgeLineage_expandedEdge hlot hedge hroute⟩

theorem ExpandedFrom.identities :
    (expansion.operationInstances.map OperationInstance.operationInstanceId ++
      expansion.operationPrecedenceEdges.map
        OperationPrecedenceEdge.operationPrecedenceEdgeId).Nodup := by
  rw [h.instances, h.edges, List.nodup_append]
  refine ⟨((sortByKey_perm ..).map _).nodup_iff.mpr h.instanceIds,
    ((sortByKey_perm ..).map _).nodup_iff.mpr h.edgeIds, ?_⟩
  intro a ha b hb
  obtain ⟨o, ho, rfl⟩ := List.mem_map.mp ha
  obtain ⟨e, he, rfl⟩ := List.mem_map.mp hb
  rw [mem_sortByKey] at ho he
  obtain ⟨-, -, lot, -, -, edge, -, -, rfl⟩ := mem_plannedEdges.mp he
  rw [planned_id ho]
  exact instanceId_ne_edgeId _ _ _ _

end

/-- The package of the plain records. -/
def plainPackage : ImportPackage where
  importPackageVersion := "import-package.v2"
  schemaSetVersion := "2.0.0"
  packageId := "P1"
  sourceVersions := [("ERP", "1")]
  normalizationRuleVersion := "1"
  canonicalizationVersion := "canonical-json.v1"
  synthetic := false
  records := plainRecords 60 ["LOT1"]
  syntheticProvenance := none

/-- A passing report of a package. -/
def passingReport (packageId : String) : Json :=
  let members := (expectedReport packageId).map fun expected => (expected.1, expected.2.1)
  let basis := members ++ [("errors", .arr [])]
  .obj (("report_id", .str (qualityReportId (.obj basis))) :: basis)

theorem passingReport_valid (package : ImportPackage) :
    ∃ id, validateQualityReport (passingReport package.packageId) package = .ok id := by
  have hkeys : (passingReport package.packageId).keys =
      ["report_id"] ++ (reportFields.filter fun field => field ≠ "report_id") := rfl
  have hfields : (∀ key ∈ (passingReport package.packageId).keys, key ∈ reportFields) ∧
      ∀ key ∈ reportFields, key ∈ (passingReport package.packageId).keys := by
    rw [hkeys]
    decide
  have hcount : (passingReport package.packageId).get "error_count" ≠ .bool false := by
    intro hfalse
    cases hfalse
  have hid : (Json.str package.packageId).pyEq (.str package.packageId) = true :=
    beq_self_eq_true package.packageId
  have hvalues : ∀ expected ∈ expectedReport package.packageId,
      ((passingReport package.packageId).get expected.1).pyEq expected.2.1 = true := by
    simp only [expectedReport, List.forall_mem_cons]
    exact ⟨rfl, rfl, rfl, hid, rfl, rfl, rfl, rfl, rfl, fun _ h => absurd h List.not_mem_nil⟩
  simp only [validateQualityReport, bind_eq_ok, exists_unit_iff, require_eq_ok]
  refine ⟨_, hfields, ⟨hcount, rfl⟩, ?_, rfl, rfl, rfl⟩
  refine (forEach_eq_ok_iff (fun expected : String × Json × String =>
    ((passingReport package.packageId).get expected.1).pyEq expected.2.1 = true) _ _ ?_).mpr hvalues
  intro expected _ i
  rw [require_eq_ok]

end PlantNexus.Expansion
