import Mathlib.Algebra.BigOperators.Group.List.Basic
import Mathlib.Data.Rat.Cast.Order
import Mathlib.Tactic.FieldSimp
import PlantNexus.Data.Reordering
import PlantNexus.Execution.FactInvariant
import PlantNexus.Expansion.Completeness

/-! What an urgent demand adds.

An urgent demand replaces the document by one that the import pipeline built. `OnlyAdds` is what
it owes the document before it: what was there is unchanged, and what is new belongs to the
demand. The checks of the projector establish this but for one thing, the edges of a route that
the document already uses (`urgent_adds_iff`). -/
namespace PlantNexus.Execution
open Data Domain Time Snapshot Expansion

/-! ### Restrictions -/

section
variable {α : Type} {key : α → String} {same : α → α → Prop} {before after : List α}

variable (key same before after) in
/-- The records under the identities of the first collection are those of that collection. -/
structure Unchanged : Prop where
  kept : ∀ x ∈ before, ∃ y ∈ after, key y = key x ∧ same y x
  origin : ∀ y ∈ after, key y ∈ before.map key → ∃ x ∈ before, key x = key y ∧ same y x

theorem KeepsRecords.unchanged (h : KeepsRecords key same before after)
    (hnodup : (after.map key).Nodup) : Unchanged key same before after := by
  refine ⟨fun x hx => h.mem hx, ?_⟩
  intro y hy hid
  obtain ⟨x, hx, hkey⟩ := List.mem_map.mp hid
  obtain ⟨found, hfound, hfoundKey, hsame⟩ := h.mem hx
  obtain rfl := List.inj_on_of_nodup_map hnodup hfound hy (hfoundKey.trans hkey)
  exact ⟨x, hx, hkey, hsame⟩

theorem Unchanged.mem_of_eq (h : Unchanged key (· = ·) before after) {y : α} (hy : y ∈ after)
    (hid : key y ∈ before.map key) : y ∈ before := by
  obtain ⟨x, hx, -, rfl⟩ := h.origin y hy hid
  exact hx

end

/-- The collections of the records, each unchanged. -/
structure RecordsUnchanged (r r' : CanonicalRecords) : Prop where
  factories : Unchanged FactoryRecord.factoryId (· = ·) r.factories r'.factories
  workshops : Unchanged WorkshopRecord.workshopId (· = ·) r.workshops r'.workshops
  productionLines : Unchanged ProductionLineRecord.productionLineId (· = ·) r.productionLines
    r'.productionLines
  resourceGroups : Unchanged ResourceGroupRecord.resourceGroupId (· = ·) r.resourceGroups
    r'.resourceGroups
  resources : Unchanged ResourceRecord.resourceId (· = ·) r.resources r'.resources
  calendars : Unchanged CalendarRecord.calendarId (· = ·) r.calendars r'.calendars
  products : Unchanged ProductRecord.productId (· = ·) r.products r'.products
  routingVersions : Unchanged RoutingVersionRecord.routingVersionId (· = ·) r.routingVersions
    r'.routingVersions
  routingOperations : Unchanged RoutingOperationRecord.routingOperationId (· = ·)
    r.routingOperations r'.routingOperations
  routingPrecedenceEdges : Unchanged RoutingPrecedenceEdgeRecord.routingPrecedenceEdgeId (· = ·)
    r.routingPrecedenceEdges r'.routingPrecedenceEdges
  routingResourceOptions : Unchanged RoutingResourceOptionRecord.routingResourceOptionId (· = ·)
    r.routingResourceOptions r'.routingResourceOptions
  demandOrders : Unchanged DemandOrderRecord.demandOrderId DemandOrderRecord.Same r.demandOrders
    r'.demandOrders
  productionOrders : Unchanged ProductionOrderRecord.productionOrderId ProductionOrderRecord.Same
    r.productionOrders r'.productionOrders
  productionLots : Unchanged ProductionLotRecord.productionLotId ProductionLotRecord.Same
    r.productionLots r'.productionLots
  executionFacts : Unchanged ExecutionFactRecord.executionFactId ExecutionFactRecord.Same
    r.executionFacts r'.executionFacts
  operationLocks : Unchanged OperationLockRecord.lockId (· = ·) r.operationLocks
    r'.operationLocks

/-! ### The purpose -/

/-- The exact value of a quantity. -/
def quantityValue (q : Quantity) : ℚ := q.num / q.den

/-- A production order that an urgent demand brings. -/
structure UrgentOrder (current next : PlanningSnapshot) (event : Json)
    (order : ProductionOrderRecord) : Prop where
  added : order ∈ addedRecords ProductionOrderRecord.productionOrderId
    current.records.productionOrders next.records.productionOrders
  demanded : (event.get "payload").get "demand_order_id" = .str order.demandOrderId

/-- An operation that an urgent demand brings. -/
structure UrgentOperation (current next : PlanningSnapshot) (event : Json)
    (o : OperationInstance) : Prop where
  added : o ∈ addedRecords OperationInstance.operationInstanceId current.operationInstances
    next.operationInstances
  ordered : ∃ order, UrgentOrder current next event order ∧
    order.productionOrderId = o.productionOrderId

/-- What an urgent demand owes the document before it. -/
structure OnlyAdds (current next : PlanningSnapshot) (event : Json) : Prop where
  records : RecordsUnchanged current.records next.records
  instances : Unchanged OperationInstance.operationInstanceId OperationInstance.Same
    current.operationInstances next.operationInstances
  edges : Unchanged OperationPrecedenceEdge.operationPrecedenceEdgeId (· = ·)
    current.operationPrecedenceEdges next.operationPrecedenceEdges
  newInstances : ∀ o ∈ next.operationInstances,
    o.operationInstanceId ∉ current.operationInstances.map OperationInstance.operationInstanceId →
      UrgentOperation current next event o
  newEdges : ∀ e ∈ next.operationPrecedenceEdges, e ∉ current.operationPrecedenceEdges →
    ∃ p q, UrgentOperation current next event p ∧ UrgentOperation current next event q ∧
      e.predecessorOperationInstanceId = p.operationInstanceId ∧
      e.successorOperationInstanceId = q.operationInstanceId
  newOrders : ∀ order ∈ next.records.productionOrders,
    order.productionOrderId ∉
      current.records.productionOrders.map ProductionOrderRecord.productionOrderId →
      UrgentOrder current next event order
  quantity : ∃ quantity : Int, (event.get "payload").get "quantity" = .int quantity ∧
    ((addedRecords ProductionOrderRecord.productionOrderId current.records.productionOrders
      next.records.productionOrders).map fun order => quantityValue order.quantity).sum = quantity

/-! ### Documents -/

/-- A document that the pipeline holds: built from a package, or projected from such a one. -/
inductive Projected : PlanningSnapshot → Prop
  | built {document : PlanningSnapshot} (h : Built document) : Projected document
  | event {document next : PlanningSnapshot} {fullPrefix : List Json} {event : Json}
      {urgent : Option PlanningSnapshot} {priorities : List UrgentPriorityFact}
      (h : Projected document) (hurgent : ∀ snapshot ∈ urgent, Built snapshot)
      (happly : applyEvent document fullPrefix event urgent = .ok (next, priorities)) :
      Projected next
  | sealed {document : PlanningSnapshot} {snapshot : ImmutablePlanningSnapshot}
      {sourceVersions : List (String × String)} {cutoffAtUtc : String} (h : Projected document)
      (hbuilt : buildProjectedSnapshot { document with sourceVersions, cutoffAtUtc } =
        .ok snapshot) : Projected snapshot.document

/-- The route of a lot is read off the lots, and the orders with their routes. -/
theorem lotRoute_congr {r r' : CanonicalRecords} (hlots : r'.productionLots = r.productionLots)
    (horders : r'.productionOrders.map routed = r.productionOrders.map routed) (lotId : String) :
    lotRoute r' lotId = lotRoute r lotId := by
  have hfind : ∀ (orders : List ProductionOrderRecord) (id : String),
      (dictGet ProductionOrderRecord.productionOrderId orders id).map
          ProductionOrderRecord.routingVersionId =
        (dictGet Prod.fst (orders.map routed) id).map Prod.snd := by
    intro orders id
    rw [dictGet, dictGet, ← List.map_reverse, List.find?_map, Option.map_map]
    rfl
  rw [lotRoute, lotRoute, CanonicalRecords.lot?, CanonicalRecords.lot?, hlots, Option.map_bind,
    Option.map_bind]
  refine congrArg _ (funext fun lot => ?_)
  simp only [Function.comp_apply, CanonicalRecords.order?, hfind, horders]

/-- The expansion of a document is that of its lots, routes and operations. -/
theorem expanded_congr {document next : PlanningSnapshot} (h : ExpandedDocument document)
    (hrouting : KeepsRouting document.records next.records)
    (hedges : next.operationPrecedenceEdges = document.operationPrecedenceEdges)
    (hplaced : next.operationInstances.map placed = document.operationInstances.map placed) :
    ExpandedDocument next := by
  obtain ⟨hlots, hrouteEdges, horders⟩ := hrouting
  refine ⟨?_, ?_, ?_⟩
  · intro e
    simp only [hedges, hlots, hrouteEdges, lotRoute_congr hlots horders]
    exact h.edges e
  · intro o ho
    have hmem : placed o ∈ document.operationInstances.map placed := by
      rw [← hplaced]
      exact List.mem_map_of_mem ho
    obtain ⟨x, hx, hsame⟩ := List.mem_map.mp hmem
    have hlot : x.productionLotId = o.productionLotId := congrArg (fun p => p.2.1) hsame
    rw [hlots, ← hlot]
    exact h.lots x hx
  · intro lot hlot
    rw [hlots] at hlot
    obtain ⟨order, horder, hid⟩ := List.mem_map.mp (h.orders lot hlot)
    have hmem : routed order ∈ next.records.productionOrders.map routed := by
      rw [horders]
      exact List.mem_map_of_mem horder
    obtain ⟨x, hx, hsame⟩ := List.mem_map.mp hmem
    have hxid : x.productionOrderId = order.productionOrderId := congrArg Prod.fst hsame
    exact List.mem_map.mpr ⟨x, hx, hxid.trans hid⟩

theorem expanded_canonical {document : PlanningSnapshot} (h : ExpandedDocument document)
    (hlots : (document.records.productionLots.map ProductionLotRecord.productionLotId).Nodup)
    (horders : (document.records.productionOrders.map
      ProductionOrderRecord.productionOrderId).Nodup) :
    ExpandedDocument (canonicalSnapshotDocument document) := by
  have hroute : ∀ lotId, lotRoute (canonicalRecords document.records) lotId =
      lotRoute document.records lotId := by
    intro lotId
    simp only [lotRoute, CanonicalRecords.lot?, CanonicalRecords.order?, canonicalRecords,
      dictGet_sortByKey hlots, dictGet_sortByKey horders]
  refine ⟨?_, ?_, ?_⟩
  · intro e
    simp only [canonicalSnapshotDocument, mem_sortByKey, mem_canonical_lots, mem_canonical_edges,
      hroute]
    exact h.edges e
  · intro o ho
    rw [canonicalSnapshotDocument, mem_sortByKey] at ho
    obtain ⟨x, hx, rfl⟩ := List.mem_map.mp ho
    obtain ⟨lot, hlot, hid⟩ := List.mem_map.mp (h.lots x hx)
    exact List.mem_map.mpr ⟨lot, mem_canonical_lots.mpr hlot, hid⟩
  · intro lot hlot
    obtain ⟨order, horder, hid⟩ := List.mem_map.mp (h.orders lot (mem_canonical_lots.mp hlot))
    exact List.mem_map.mpr ⟨order, mem_canonical_orders.mpr horder, hid⟩

/-- **Every document of the pipeline is expanded.** -/
theorem Projected.expanded {document : PlanningSnapshot} (h : Projected document) :
    ExpandedDocument document := by
  induction h with
  | built h => exact h.document.toExpandedDocument
  | @event document next fullPrefix event urgent priorities h hurgent happly ih =>
    rw [applyEvent] at happly
    split at happly
    · cases happly
    · simp only [projectUrgentDemand, bind_eq_ok, pure, Except.pure, Except.ok.injEq, Prod.exists,
        Prod.mk.injEq] at happly
      obtain ⟨_, _, ⟨candidate, hfound, _, -, rfl, -⟩, rfl, -⟩ := happly
      obtain ⟨hedges, hlots, horders⟩ :=
        (hurgent candidate (found_ok hfound)).document.toExpandedDocument
      exact ⟨hedges, hlots, horders⟩
    · simp only [bind_eq_ok, pure, Except.pure, Except.ok.injEq, Prod.mk.injEq] at happly
      obtain ⟨projected, hproject, rfl, -⟩ := happly
      obtain ⟨records, instances, rfl, hrouting, hplaced, -⟩ := projectFact_shape hproject
      exact expanded_congr ih hrouting rfl hplaced
  | @sealed document snapshot sourceVersions cutoffAtUtc h hbuilt ih =>
    obtain ⟨haccepted, candidate, hdocument, -, hrecords, hinstances, hedges⟩ :=
      projectedSnapshot_document hbuilt
    have hcandidate : ExpandedDocument candidate := by
      obtain ⟨hih, hlots, horders⟩ := ih
      refine ⟨?_, ?_, ?_⟩
      · rw [hrecords, hedges]
        exact hih
      · rw [hrecords, hinstances]
        exact hlots
      · rw [hrecords]
        exact horders
    have hnodup := haccepted.records.productionLotIds
    have hnodup' := haccepted.records.productionOrderIds
    rw [hdocument] at hnodup hnodup' ⊢
    exact expanded_canonical hcandidate
      (((sortByKey_perm _ _).map _).nodup_iff.mp hnodup)
      (((sortByKey_perm _ _).map _).nodup_iff.mp hnodup')

/-! ### Quantities -/

def addQuantity (total : Int × Nat) (q : Quantity) : Int × Nat :=
  (total.1 * q.den + q.num * total.2, total.2 * q.den)

theorem foldl_addQuantity {quantities : List Quantity} (h : ∀ q ∈ quantities, 0 < q.den)
    {total : Int × Nat} (hpos : 0 < total.2) :
    ((quantities.foldl addQuantity total).1 : ℚ) =
        ((total.1 : ℚ) / total.2 + (quantities.map quantityValue).sum) *
          (quantities.foldl addQuantity total).2 ∧
      0 < (quantities.foldl addQuantity total).2 := by
  induction quantities generalizing total with
  | nil =>
    have hne : (total.2 : ℚ) ≠ 0 := by exact_mod_cast hpos.ne'
    rw [List.foldl_nil, List.map_nil, List.sum_nil, add_zero, div_mul_cancel₀ _ hne]
    exact ⟨rfl, hpos⟩
  | cons q rest ih =>
    have hq : 0 < q.den := h q (List.mem_cons_self ..)
    have hnext : 0 < (addQuantity total q).2 := Nat.mul_pos hpos hq
    obtain ⟨hvalue, hrest⟩ := ih (fun q hq => h q (List.mem_cons_of_mem _ hq)) hnext
    refine ⟨?_, hrest⟩
    rw [List.foldl_cons, hvalue, List.map_cons, List.sum_cons, ← add_assoc]
    have hne : (total.2 : ℚ) ≠ 0 := by exact_mod_cast hpos.ne'
    have hne' : (q.den : ℚ) ≠ 0 := by exact_mod_cast hq.ne'
    have hstep : ((addQuantity total q).1 : ℚ) / (addQuantity total q).2 =
        (total.1 : ℚ) / total.2 + quantityValue q := by
      rw [quantityValue, addQuantity]
      push_cast
      field_simp
    rw [hstep]

/-- The sum of quantities is that of their values. -/
theorem quantityTotal_value {quantities : List Quantity} (h : ∀ q ∈ quantities, 0 < q.den)
    {value : Int} (htotal : (quantityTotal quantities).1 = value * (quantityTotal quantities).2) :
    (quantities.map quantityValue).sum = value := by
  have hone : 0 < ((0, 1) : Int × Nat).2 := Nat.one_pos
  obtain ⟨hvalue, hpos⟩ := foldl_addQuantity h hone
  have hne : ((quantityTotal quantities).2 : ℚ) ≠ 0 := by exact_mod_cast hpos.ne'
  have hcast : ((quantityTotal quantities).1 : ℚ) = value * (quantityTotal quantities).2 := by
    exact_mod_cast htotal
  have hsum : ((quantityTotal quantities).1 : ℚ) =
      (quantities.map quantityValue).sum * (quantityTotal quantities).2 := by
    refine hvalue.trans ?_
    rw [Int.cast_zero, zero_div, zero_add]
    rfl
  exact mul_right_cancel₀ hne (hsum.symm.trans hcast)

/-- The quantity of an accepted order is a positive number. -/
theorem order_quantity_den {r : CanonicalRecords} (h : AcceptedRecords r)
    {order : ProductionOrderRecord} (horder : order ∈ r.productionOrders) :
    0 < order.quantity.den := by
  obtain ⟨i, hcheck⟩ := h.orders order horder
  simp only [checkProductionOrder, quantity, bind_eq_ok, exists_unit_iff, require_eq_ok] at hcheck
  obtain ⟨⟨hpos, hlimit⟩, -⟩ := hcheck
  by_contra hzero
  have hden : order.quantity.den = 0 := by omega
  rw [hden, Nat.cast_zero, mul_zero] at hlimit
  omega

/-! ### Imports -/

/-- What the checks of an urgent import establish of its orders and lots. -/
structure UrgentOrders (current candidate : PlanningSnapshot) (event : Json) : Prop where
  orders : ∀ order ∈ addedRecords ProductionOrderRecord.productionOrderId
      current.records.productionOrders candidate.records.productionOrders,
    UrgentOrder current candidate event order
  lots : ∀ lot ∈ addedRecords ProductionLotRecord.productionLotId current.records.productionLots
      candidate.records.productionLots, ∃ order, UrgentOrder current candidate event order ∧
    order.productionOrderId = lot.productionOrderId
  quantity : ∃ quantity : Int, (event.get "payload").get "quantity" = .int quantity ∧
    (quantityTotal ((addedRecords ProductionOrderRecord.productionOrderId
        current.records.productionOrders candidate.records.productionOrders).map
          ProductionOrderRecord.quantity)).1 =
      quantity * (quantityTotal ((addedRecords ProductionOrderRecord.productionOrderId
        current.records.productionOrders candidate.records.productionOrders).map
          ProductionOrderRecord.quantity)).2

theorem validateUrgentCandidate_orders {current candidate : PlanningSnapshot} {event : Json}
    {priority : UrgentPriorityFact}
    (h : validateUrgentCandidate current candidate event = .ok priority) :
    UrgentOrders current candidate event := by
  simp only [validateUrgentCandidate, checkUrgentOrders, bind_eq_ok, exists_unit_iff,
    require_eq_ok, pure, Except.pure, Except.ok.injEq] at h
  obtain ⟨demandId, hdemand, -, -, quantity, hquantity, -, orderIds,
    ⟨⟨-, horders⟩, htotal, ⟨-, hlots⟩, rfl⟩, -⟩ := h
  have hurgent : ∀ order ∈ addedRecords ProductionOrderRecord.productionOrderId
      current.records.productionOrders candidate.records.productionOrders,
      UrgentOrder current candidate event order := by
    intro order horder
    refine ⟨horder, ?_⟩
    rw [horders order horder]
    exact factText_ok hdemand
  refine ⟨hurgent, ?_, quantity, (factInteger_ok hquantity).1, htotal⟩
  intro lot hlot
  obtain ⟨order, horder, hid⟩ := List.mem_map.mp (hlots lot hlot)
  exact ⟨order, hurgent order horder, hid⟩

/-! ### One urgent demand -/

section
variable {current candidate : PlanningSnapshot}

/-- The collections of an accepted import. -/
theorem UrgentImport.records (h : UrgentImport current candidate)
    (hcandidate : AcceptedRecords candidate.records) :
    RecordsUnchanged current.records candidate.records := by
  have hkept := fun (i : Nat) {name : String} {kept : Bool}
      (hi : (collectionsKept current.records candidate.records)[i]? = some (name, kept)) =>
    h.kept _ (List.mem_of_getElem? hi)
  exact
    { factories := (of_decide_eq_true (hkept 0 rfl)).unchanged (hcandidate.nodup_at 0 rfl)
      workshops := (of_decide_eq_true (hkept 1 rfl)).unchanged (hcandidate.nodup_at 1 rfl)
      productionLines := (of_decide_eq_true (hkept 2 rfl)).unchanged (hcandidate.nodup_at 2 rfl)
      resourceGroups := (of_decide_eq_true (hkept 3 rfl)).unchanged (hcandidate.nodup_at 3 rfl)
      resources := (of_decide_eq_true (hkept 4 rfl)).unchanged (hcandidate.nodup_at 4 rfl)
      calendars := (of_decide_eq_true (hkept 5 rfl)).unchanged (hcandidate.nodup_at 5 rfl)
      products := (of_decide_eq_true (hkept 6 rfl)).unchanged (hcandidate.nodup_at 6 rfl)
      routingVersions := (of_decide_eq_true (hkept 7 rfl)).unchanged (hcandidate.nodup_at 7 rfl)
      routingOperations := (of_decide_eq_true (hkept 8 rfl)).unchanged (hcandidate.nodup_at 8 rfl)
      routingPrecedenceEdges :=
        (of_decide_eq_true (hkept 9 rfl)).unchanged (hcandidate.nodup_at 9 rfl)
      routingResourceOptions :=
        (of_decide_eq_true (hkept 10 rfl)).unchanged (hcandidate.nodup_at 10 rfl)
      demandOrders := (of_decide_eq_true (hkept 11 rfl)).unchanged (hcandidate.nodup_at 11 rfl)
      productionOrders := (of_decide_eq_true (hkept 12 rfl)).unchanged (hcandidate.nodup_at 12 rfl)
      productionLots := (of_decide_eq_true (hkept 13 rfl)).unchanged (hcandidate.nodup_at 13 rfl)
      executionFacts := (of_decide_eq_true (hkept 14 rfl)).unchanged (hcandidate.nodup_at 14 rfl)
      operationLocks := (of_decide_eq_true (hkept 15 rfl)).unchanged (hcandidate.nodup_at 15 rfl) }

end

/-- What is known of the document after an urgent demand. -/
structure UrgentStep (current next : PlanningSnapshot) (event : Json) : Prop where
  expanded : ExpandedDocument next
  accepted : AcceptedSnapshot next
  ends : ∀ lot ∈ next.records.productionLots, ∀ edge ∈ next.records.routingPrecedenceEdges,
    lotRoute next.records lot.productionLotId = some edge.routingVersionId →
      ∃ p ∈ next.operationInstances, ∃ q ∈ next.operationInstances,
        p.operationInstanceId = (expandedEdge lot edge).predecessorOperationInstanceId ∧
        q.operationInstanceId = (expandedEdge lot edge).successorOperationInstanceId ∧
        (p.productionLotId = lot.productionLotId ∧
          p.productionOrderId = lot.productionOrderId) ∧
        q.productionLotId = lot.productionLotId ∧ q.productionOrderId = lot.productionOrderId
  imported : UrgentImport current next
  ordered : UrgentOrders current next event

theorem applyEvent_urgent {current candidate next : PlanningSnapshot} {fullPrefix : List Json}
    {event : Json} {priorities : List UrgentPriorityFact} (hbuilt : Built candidate)
    (htype : ExecutionEventType.ofText (event.get "event_type").text = some .urgentDemandReceived)
    (happly : applyEvent current fullPrefix event (some candidate) = .ok (next, priorities)) :
    UrgentStep current next event := by
  rw [applyEvent, htype] at happly
  simp only [projectUrgentDemand, found, bind_eq_ok, pure, Except.pure, Except.ok.injEq,
    Prod.exists, Prod.mk.injEq, exists_eq_left'] at happly
  obtain ⟨_, priority, ⟨_, hvalid, rfl, rfl⟩, rfl, -⟩ := happly
  have hdocument := hbuilt.document
  have haccepted := validatePlanningSnapshotV2_ok hdocument.valid
  obtain ⟨hkept, hfixed, hinstances, hadded⟩ := validateUrgentCandidate_ok hvalid
  obtain ⟨horders, hlots, hquantity⟩ := validateUrgentCandidate_orders hvalid
  have horder : ∀ order, UrgentOrder current candidate event order →
      UrgentOrder current { candidate with
        sourceVersions := dictMerge current.sourceVersions candidate.sourceVersions } event order :=
    fun order h => ⟨h.added, h.demanded⟩
  exact
    { expanded := ⟨hdocument.edges, hdocument.lots, hdocument.orders⟩
      accepted := ⟨haccepted.records, haccepted.instanceIds, haccepted.lineage, haccepted.options,
        haccepted.attached, haccepted.locks, haccepted.edgeIds, haccepted.edges⟩
      ends := hdocument.ends
      imported := ⟨hkept, hfixed, hinstances, hadded⟩
      ordered := ⟨fun order h => horder order (horders order h),
        fun lot h => (hlots lot h).imp fun order h => ⟨horder order h.1, h.2⟩, hquantity⟩ }

/-- No edge is added to a route that a lot of the document has. -/
def RoutesFixed (current next : PlanningSnapshot) : Prop :=
  ∀ edge ∈ next.records.routingPrecedenceEdges,
    edge.routingPrecedenceEdgeId ∉ current.records.routingPrecedenceEdges.map
      RoutingPrecedenceEdgeRecord.routingPrecedenceEdgeId →
    ∀ lot ∈ current.records.productionLots,
      lotRoute current.records lot.productionLotId ≠ some edge.routingVersionId

namespace UrgentStep
variable {current next : PlanningSnapshot} {event : Json}

/-- A lot of an expanded document has a route. -/
theorem lotRoute_some (h : ExpandedDocument current) {lotId : String}
    (hid : lotId ∈ current.records.productionLots.map ProductionLotRecord.productionLotId) :
    ∃ route, lotRoute current.records lotId = some route := by
  cases hlot : current.records.lot? lotId with
  | none => exact absurd hid ((dictGet_eq_none_iff _ _ _).mp hlot)
  | some lot =>
    cases horder : current.records.order? lot.productionOrderId with
    | none =>
      exact absurd (h.orders lot (mem_of_dictGet hlot).1) ((dictGet_eq_none_iff _ _ _).mp horder)
    | some order =>
      refine ⟨order.routingVersionId, ?_⟩
      rw [lotRoute, hlot, Option.bind_some, horder, Option.map_some]

/-- A lot keeps its route. -/
theorem lotRoute_kept (h : UrgentStep current next event) {lotId route : String}
    (hroute : lotRoute current.records lotId = some route) :
    lotRoute next.records lotId = some route := by
  have hrecords := h.imported.records h.accepted.records
  rw [lotRoute, Option.map_eq_some_iff] at hroute
  obtain ⟨order, hbind, rfl⟩ := hroute
  obtain ⟨lot, hlot, horder⟩ := Option.bind_eq_some_iff.mp hbind
  obtain ⟨hlotMem, hlotId⟩ := mem_of_dictGet hlot
  obtain ⟨horderMem, hid⟩ := mem_of_dictGet horder
  obtain ⟨lot', hlot', hkey, hsame⟩ := hrecords.productionLots.kept lot hlotMem
  obtain ⟨order', horder', horderId, hsame'⟩ := hrecords.productionOrders.kept order horderMem
  refine (lotRoute_eq_some_iff h.accepted.records).mpr
    ⟨lot', hlot', hkey.trans hlotId, order', horder', ?_, ?_⟩
  · rw [horderId, hid, hsame.2]
  · rw [hsame'.2]

theorem expandedEdge_congr {lot lot' : ProductionLotRecord} {edge : RoutingPrecedenceEdgeRecord}
    (h : lot.productionLotId = lot'.productionLotId) :
    expandedEdge lot edge = expandedEdge lot' edge := by
  rw [expandedEdge, expandedEdge, h]

/-- The edges that were there before are there. -/
theorem edge_kept (h : UrgentStep current next event) (hcurrent : ExpandedDocument current)
    {e : OperationPrecedenceEdge} (he : e ∈ current.operationPrecedenceEdges) :
    e ∈ next.operationPrecedenceEdges := by
  have hrecords := h.imported.records h.accepted.records
  obtain ⟨lot, hlot, edge, hedge, hroute, rfl⟩ := (hcurrent.edges e).mp he
  obtain ⟨lot', hlot', hid, -⟩ := hrecords.productionLots.kept lot hlot
  obtain ⟨edge', hedge', -, rfl⟩ := hrecords.routingPrecedenceEdges.kept edge hedge
  refine (h.expanded.edges _).mpr ⟨lot', hlot', edge', hedge', ?_, (expandedEdge_congr hid).symm⟩
  rw [hid]
  exact h.lotRoute_kept hroute

/-- The two ends of an edge of a new lot are operations of the demand. -/
theorem new_ends (h : UrgentStep current next event) (hcurrent : ExpandedDocument current)
    {lot : ProductionLotRecord} (hlot : lot ∈ next.records.productionLots)
    (hnew : lot.productionLotId ∉
      current.records.productionLots.map ProductionLotRecord.productionLotId)
    {o : OperationInstance} (ho : o ∈ next.operationInstances)
    (hlotId : o.productionLotId = lot.productionLotId)
    (horderId : o.productionOrderId = lot.productionOrderId) :
    UrgentOperation current next event o := by
  have hinstances := h.imported.instances.unchanged h.accepted.instanceIds
  obtain ⟨order, horder, hid⟩ :=
    h.ordered.lots lot (List.mem_filter.mpr ⟨hlot, decide_eq_true hnew⟩)
  refine ⟨List.mem_filter.mpr ⟨ho, decide_eq_true ?_⟩, order, horder, hid.trans horderId.symm⟩
  intro hold
  obtain ⟨x, hx, -, hsame⟩ := hinstances.origin o ho hold
  refine hnew ?_
  have hx := hcurrent.lots x hx
  rw [hsame.2] at hlotId
  exact hlotId ▸ hx

/-- The edges under the identities that were there before are those that were there. -/
theorem edges_unchanged (h : UrgentStep current next event) (hcurrent : ExpandedDocument current) :
    Unchanged OperationPrecedenceEdge.operationPrecedenceEdgeId (· = ·)
      current.operationPrecedenceEdges next.operationPrecedenceEdges := by
  refine ⟨fun e he => ⟨e, h.edge_kept hcurrent he, rfl, rfl⟩, ?_⟩
  intro e he hid
  obtain ⟨old, hold, hkey⟩ := List.mem_map.mp hid
  obtain rfl := List.inj_on_of_nodup_map h.accepted.edgeIds (h.edge_kept hcurrent hold) he hkey
  exact ⟨old, hold, rfl, rfl⟩

/-- An operation that an import adds is one of the demand. -/
theorem instance_added (h : UrgentStep current next event) {o : OperationInstance}
    (ho : o ∈ next.operationInstances)
    (hnew : o.operationInstanceId ∉
      current.operationInstances.map OperationInstance.operationInstanceId) :
    UrgentOperation current next event o := by
  have hmem : o ∈ addedRecords OperationInstance.operationInstanceId current.operationInstances
      next.operationInstances := List.mem_filter.mpr ⟨ho, decide_eq_true hnew⟩
  obtain ⟨order, horder, hid⟩ := List.mem_map.mp (h.imported.added o hmem)
  exact ⟨hmem, order, h.ordered.orders order horder, hid⟩

/-- The orders that an import adds cover the quantity of the demand. -/
theorem quantity_covered (h : UrgentStep current next event) :
    ∃ quantity : Int, (event.get "payload").get "quantity" = .int quantity ∧
      ((addedRecords ProductionOrderRecord.productionOrderId current.records.productionOrders
        next.records.productionOrders).map fun order => quantityValue order.quantity).sum =
          quantity := by
  obtain ⟨quantity, hquantity, htotal⟩ := h.ordered.quantity
  have hpositive : ∀ q ∈ (addedRecords ProductionOrderRecord.productionOrderId
      current.records.productionOrders next.records.productionOrders).map
        ProductionOrderRecord.quantity, 0 < q.den := by
    intro q hq
    obtain ⟨order, horder, rfl⟩ := List.mem_map.mp hq
    exact order_quantity_den h.accepted.records (List.mem_filter.mp horder).1
  have hsum := quantityTotal_value hpositive htotal
  rw [List.map_map] at hsum
  exact ⟨quantity, hquantity, hsum⟩

/-- **An edge that an import adds belongs to a new lot**, where no route in use has grown. -/
theorem edge_added (h : UrgentStep current next event) (hcurrent : ExpandedDocument current)
    (hfixed : RoutesFixed current next) {e : OperationPrecedenceEdge}
    (he : e ∈ next.operationPrecedenceEdges) (hnew : e ∉ current.operationPrecedenceEdges) :
    ∃ p q, UrgentOperation current next event p ∧ UrgentOperation current next event q ∧
      e.predecessorOperationInstanceId = p.operationInstanceId ∧
      e.successorOperationInstanceId = q.operationInstanceId := by
  have hrecords := h.imported.records h.accepted.records
  obtain ⟨lot, hlot, edge, hedge, hroute, rfl⟩ := (h.expanded.edges e).mp he
  obtain ⟨p, hp, q, hq, hpid, hqid, ⟨hplot, hporder⟩, hqlot, hqorder⟩ :=
    h.ends lot hlot edge hedge hroute
  have hnewLot : lot.productionLotId ∉
      current.records.productionLots.map ProductionLotRecord.productionLotId := by
    intro hold
    obtain ⟨old, hold, hid⟩ := List.mem_map.mp hold
    -- the route of a lot that was there before is the one that it had
    obtain ⟨route, hsome⟩ := lotRoute_some hcurrent (List.mem_map_of_mem hold)
    have hkept := h.lotRoute_kept hsome
    rw [hid, hroute, Option.some.injEq] at hkept
    subst hkept
    by_cases hedgeId : edge.routingPrecedenceEdgeId ∈ current.records.routingPrecedenceEdges.map
        RoutingPrecedenceEdgeRecord.routingPrecedenceEdgeId
    · refine hnew ((hcurrent.edges _).mpr ⟨old, hold, edge,
        hrecords.routingPrecedenceEdges.mem_of_eq hedge hedgeId, hsome,
        expandedEdge_congr hid.symm⟩)
    · exact hfixed edge hedge hedgeId old hold hsome
  exact ⟨p, q, h.new_ends hcurrent hlot hnewLot hp hplot hporder,
    h.new_ends hcurrent hlot hnewLot hq hqlot hqorder, hpid.symm, hqid.symm⟩

/-- **An import that only adds lets no route in use grow.** -/
theorem fixed_of_adds (h : UrgentStep current next event) (hcurrent : ExpandedDocument current)
    (hadds : OnlyAdds current next event) : RoutesFixed current next := by
  intro edge hedge hedgeId lot hlot hroute
  obtain ⟨lot', hlot', hid, hsame⟩ := hadds.records.productionLots.kept lot hlot
  have hroute' := h.lotRoute_kept hroute
  rw [← hid] at hroute'
  have he := (h.expanded.edges _).mpr ⟨lot', hlot', edge, hedge, hroute', rfl⟩
  have hnew : expandedEdge lot' edge ∉ current.operationPrecedenceEdges := by
    intro hold
    obtain ⟨_, -, edge', hedge', -, heq⟩ := (hcurrent.edges _).mp hold
    have hsameId : edge.routingPrecedenceEdgeId = edge'.routingPrecedenceEdgeId :=
      congrArg OperationPrecedenceEdge.routingPrecedenceEdgeId heq
    exact hedgeId (hsameId ▸ List.mem_map_of_mem hedge')
  obtain ⟨p, -, hp, -, hpid, -⟩ := hadds.newEdges _ he hnew
  obtain ⟨p', hp', -, -, hpid', -, ⟨-, horderId⟩, -⟩ := h.ends lot' hlot' edge hedge hroute'
  obtain rfl := List.inj_on_of_nodup_map h.accepted.instanceIds hp'
    (List.mem_filter.mp hp.added).1 (hpid'.trans hpid)
  -- its order is that of the lot, which was there before
  obtain ⟨order, horder, hordered⟩ := hp.ordered
  have hfresh := of_decide_eq_true (List.mem_filter.mp horder.added).2
  refine hfresh ?_
  rw [hordered, horderId, hsame.2]
  exact hcurrent.orders lot hlot

end UrgentStep

theorem applyEvent_records {current candidate next : PlanningSnapshot} {fullPrefix : List Json}
    {event : Json} {priorities : List UrgentPriorityFact}
    (htype : ExecutionEventType.ofText (event.get "event_type").text = some .urgentDemandReceived)
    (happly : applyEvent current fullPrefix event (some candidate) = .ok (next, priorities)) :
    next.records = candidate.records := by
  rw [applyEvent, htype] at happly
  simp only [projectUrgentDemand, found, bind_eq_ok, pure, Except.pure, Except.ok.injEq,
    Prod.exists, Prod.mk.injEq, exists_eq_left'] at happly
  obtain ⟨_, _, ⟨_, -, rfl, -⟩, rfl, -⟩ := happly
  rfl

def routeRecords : CanonicalRecords :=
  { plainRecords 60 ["LOT1"] with
    routingOperations :=
      [⟨"RO1", "RV1", "RO1", [], plainSource "RO1"⟩, ⟨"RO2", "RV1", "RO2", [], plainSource "RO2"⟩]
    routingResourceOptions :=
      [⟨"OPT1", "RO1", "R1", "EA", 0, 60, 60, "STANDARD", "1", plainSource "OPT1"⟩,
       ⟨"OPT2", "RO2", "R1", "EA", 0, 60, 60, "STANDARD", "1", plainSource "OPT2"⟩] }

/-- The records of the urgent package: a demand on a route of its own, and the edge. -/
def urgentRecords : CanonicalRecords :=
  { routeRecords with
    routingVersions :=
      routeRecords.routingVersions ++ [⟨"RV2", "RV2", "1", "PR1", plainSource "RV2"⟩]
    routingOperations :=
      routeRecords.routingOperations ++ [⟨"RO3", "RV2", "RO3", [], plainSource "RO3"⟩]
    routingPrecedenceEdges := [⟨"E1", "RV1", "RO1", "RO2", 0, 0, plainSource "E1", none⟩]
    routingResourceOptions :=
      routeRecords.routingResourceOptions ++
        [⟨"OPT3", "RO3", "R1", "EA", 0, 60, 60, "STANDARD", "1", plainSource "OPT3"⟩]
    demandOrders :=
      routeRecords.demandOrders ++
        [⟨"D2", "PR1", .int 1, "EA", "2026-01-01T04:00:00Z", plainSource "D2"⟩]
    productionOrders :=
      routeRecords.productionOrders ++
        [⟨"PO2", "D2", "RV2", .int 1, "EA", "2026-01-01T00:00:00Z", "2026-01-01T00:00:00Z",
          plainSource "PO2"⟩]
    productionLots :=
      routeRecords.productionLots ++ [⟨"LOT2", "PO2", .int 1, "EA", plainSource "LOT2"⟩] }

/-! The identities of the expanded operations and of the edge. -/

def firstId : String :=
  "operation-instance-81f4bf2a9b6779d84817036ef45d21f27d226875e9790383e99cf6e46450eaf0"

def secondId : String :=
  "operation-instance-45e193907275955507be565b3aa40d6104c91a1033b7b46c3da7a8a862337b04"

def urgentId : String :=
  "operation-instance-80a55bdb67eded08135f8e69948d772e596e0efa61b70ca6075e018ffbb13d6e"

def addedEdgeId : String :=
  "operation-precedence-edge-b346c568fe50d1d305daade27eeb458140707c02f6f39302c6536f063ba84f32"

theorem route_ids : instanceId "LOT1" "RO1" = firstId ∧ instanceId "LOT1" "RO2" = secondId ∧
    instanceId "LOT2" "RO3" = urgentId ∧ edgeId "LOT1" "E1" = addedEdgeId :=
  ⟨derivedId_spelled (by repeat constructor) (by decide +kernel) (by decide +kernel)
      (by decide +kernel),
    derivedId_spelled (by repeat constructor) (by decide +kernel) (by decide +kernel)
      (by decide +kernel),
    derivedId_spelled (by repeat constructor) (by decide +kernel) (by decide +kernel)
      (by decide +kernel),
    derivedId_spelled (by repeat constructor) (by decide +kernel) (by decide +kernel)
      (by decide +kernel)⟩

def firstOperation : OperationInstance := plainInstance 60 firstId "LOT1"

def secondOperation : OperationInstance :=
  { plainInstance 60 secondId "LOT1" with
    routingOperationId := "RO2"
    resourceOptions := [⟨"OPT2", "R1", 0, 60, 60, "STANDARD", "1"⟩] }

def urgentOperation : OperationInstance :=
  { plainInstance 60 urgentId "LOT2" with
    demandOrderId := "D2"
    productionOrderId := "PO2"
    routingVersionId := "RV2"
    routingOperationId := "RO3"
    resourceOptions := [⟨"OPT3", "R1", 0, 60, 60, "STANDARD", "1"⟩] }

def addedEdge : OperationPrecedenceEdge := ⟨addedEdgeId, "E1", firstId, secondId, 0, 0, none⟩

def urgentContent : EventContent where
  type := .urgentDemandReceived
  references := [("DEMAND_ORDER", "D2")]
  payload :=
    .obj
      [("kind", .str "URGENT_DEMAND_RECEIVED"), ("demand_order_id", .str "D2"),
       ("quantity", .int 1), ("due_at_utc", .str "2026-01-01T04:00:00Z"),
       ("priority_weight", .int 1),
       ("priority_source", .obj [("source_system", .str "ERP"), ("source_version", .str "1"),
         ("source_record_id", .str "D2")])]
  position := 1
  occurredAtUtc := "2026-01-01T00:00:00Z"

/-- The checks that both imports, their expansions and the event go through. -/
theorem route_checked :
    (validateCanonicalRecords routeRecords [("ERP", "1")] = .ok () ∧
      validateCanonicalRecords urgentRecords [("ERP", "1")] = .ok ()) ∧
    (canonicalRecords routeRecords = routeRecords ∧
      canonicalRecords urgentRecords = urgentRecords) ∧
    (checkInstance routeRecords 0 secondOperation = .ok () ∧
      checkInstance routeRecords 1 firstOperation = .ok ()) ∧
    (checkInstance urgentRecords 0 secondOperation = .ok () ∧
      checkInstance urgentRecords 1 urgentOperation = .ok () ∧
      checkInstance urgentRecords 2 firstOperation = .ok () ∧
      checkInstanceEdge urgentRecords [secondOperation, urgentOperation, firstOperation] 0
        addedEdge = .ok ()) ∧
    ((∀ kept ∈ collectionsKept routeRecords urgentRecords, kept.2 = true) ∧
      (∀ fixed ∈ collectionsFixed routeRecords urgentRecords, fixed.2 = true) ∧
      checkUrgentDemand routeRecords urgentRecords urgentContent.payload "D2" 1 = .ok () ∧
      checkUrgentOrders routeRecords urgentRecords "D2" 1 = .ok ["PO2"] ∧
      checkUrgentInstances [secondOperation, firstOperation]
        [secondOperation, urgentOperation, firstOperation] ["PO2"] = .ok () ∧
      sourceReference (urgentContent.payload.get "priority_source")
        "payload.priority_source" = .ok ()) := by decide +kernel

theorem planned_route : plannedInstances routeRecords = [firstOperation, secondOperation] ∧
    plannedEdges routeRecords = [] := by
  have hinstances : plannedInstances routeRecords =
      [{ firstOperation with operationInstanceId := instanceId "LOT1" "RO1" },
       { secondOperation with operationInstanceId := instanceId "LOT1" "RO2" }] := rfl
  rw [hinstances, route_ids.1, route_ids.2.1]
  exact ⟨rfl, rfl⟩

theorem planned_urgent :
    plannedInstances urgentRecords = [firstOperation, secondOperation, urgentOperation] ∧
      plannedEdges urgentRecords = [addedEdge] := by
  have hinstances : plannedInstances urgentRecords =
      [{ firstOperation with operationInstanceId := instanceId "LOT1" "RO1" },
       { secondOperation with operationInstanceId := instanceId "LOT1" "RO2" },
       { urgentOperation with operationInstanceId := instanceId "LOT2" "RO3" }] := rfl
  have hedges : plannedEdges urgentRecords =
      [⟨edgeId "LOT1" "E1", "E1", instanceId "LOT1" "RO1", instanceId "LOT1" "RO2", 0, 0, none⟩] :=
    rfl
  rw [hinstances, hedges, route_ids.1, route_ids.2.1, route_ids.2.2.1, route_ids.2.2.2]
  exact ⟨rfl, rfl⟩

theorem ofList_le {as bs : List Char} (h : Spelling.charsLe as bs = true) :
    String.ofList as ≤ String.ofList bs := by
  rw [String.le_iff_toList_le, String.toList_ofList, String.toList_ofList]
  exact not_lt.mp ((Spelling.charsLe_iff as bs).mp h)

theorem ids_ordered : secondId ≤ urgentId ∧ urgentId ≤ firstId ∧ secondId ≤ firstId :=
  ⟨ofList_le (by decide +kernel), ofList_le (by decide +kernel), ofList_le (by decide +kernel)⟩

theorem sorted_route : sortByKey OperationInstance.operationInstanceId
    [firstOperation, secondOperation] = [secondOperation, firstOperation] := by
  have hkeys : ([firstOperation, secondOperation].map
      OperationInstance.operationInstanceId).Nodup := by decide
  rw [sortByKey_eq_of_perm (List.inj_on_of_nodup_map hkeys) (List.Perm.swap _ _ _)]
  refine sortByKey_eq_self ?_
  simp only [List.pairwise_cons, List.mem_cons, List.not_mem_nil, or_false, forall_eq]
  exact ⟨ids_ordered.2.2, fun _ h => h.elim, List.Pairwise.nil⟩

theorem sorted_urgent : sortByKey OperationInstance.operationInstanceId
    [firstOperation, secondOperation, urgentOperation] =
      [secondOperation, urgentOperation, firstOperation] := by
  have hkeys : ([firstOperation, secondOperation, urgentOperation].map
      OperationInstance.operationInstanceId).Nodup := by decide
  have hperm : [firstOperation, secondOperation, urgentOperation].Perm
      [secondOperation, urgentOperation, firstOperation] :=
    show ([firstOperation] ++ [secondOperation, urgentOperation]).Perm _ from List.perm_append_comm
  rw [sortByKey_eq_of_perm (List.inj_on_of_nodup_map hkeys) hperm]
  refine sortByKey_eq_self ?_
  simp only [List.pairwise_cons, List.mem_cons, List.not_mem_nil, or_false, forall_eq_or_imp,
    forall_eq]
  exact ⟨⟨ids_ordered.1, ids_ordered.2.2⟩, ids_ordered.2.1, fun _ h => h.elim,
    List.Pairwise.nil⟩

/-- The package of some records, under the identity of its content. -/
def routePackage (records : CanonicalRecords) : ImportPackage :=
  let package : ImportPackage :=
    { importPackageVersion := "import-package.v2"
      schemaSetVersion := "2.0.0"
      packageId := "P1"
      sourceVersions := [("ERP", "1")]
      normalizationRuleVersion := "1"
      canonicalizationVersion := "canonical-json.v1"
      synthetic := true
      records
      syntheticProvenance := some ⟨"SC1", "1", 1, "FP1", "1", "GEN1", "1"⟩ }
  { package with packageId := importPackageIdFor (canonicalImportDocument package) }

def routeReport (records : CanonicalRecords) : Json :=
  passingReport (routePackage records).packageId

def routeExpansion (records : CanonicalRecords) : OrderExpansion :=
  plannedExpansion (routePackage records) (qualityReportId (routeReport records))

def routeBase (records : CanonicalRecords) : PlanningSnapshot :=
  snapshotBase (canonicalImportDocument (routePackage records)) (routeExpansion records)
    "2026-01-01T00:00:00Z"

def routeDocument (records : CanonicalRecords) : PlanningSnapshot :=
  (sealSnapshot (canonicalSnapshotDocument (routeBase records))).document

theorem routePackage_valid {records : CanonicalRecords}
    (h : validateCanonicalRecords records [("ERP", "1")] = .ok ()) :
    validateImportPackageV2 (routePackage records) = .ok () := by
  have hid : isCanonicalId (routePackage records).packageId = true :=
    isCanonicalId_digest "import-" _ (by decide) (by decide)
  have hsources : validateSourceVersions [("ERP", "1")] = .ok () := by decide
  have hrule : text "1" "normalization_rule_version" = .ok () := by decide
  have hcanonical : text "canonical-json.v1" "canonicalization_version" = .ok () := by decide
  have hsynthetic : validateSyntheticBoundary true (some ⟨"SC1", "1", 1, "FP1", "1", "GEN1", "1"⟩)
      "synthetic_provenance" = .ok () := by decide
  simp only [validateImportPackageV2, bind_unit_eq_ok, identifier_eq_ok, require_eq_ok]
  exact ⟨⟨rfl, rfl⟩, hid, hsources, hrule, hcanonical, hsynthetic, h⟩

theorem routeReport_valid (records : CanonicalRecords) :
    validateQualityReport (routeReport records) (routePackage records) =
        .ok (qualityReportId (routeReport records)) ∧
      Json.str (qualityReportId (routeReport records)) = (routeReport records).get "report_id" := by
  obtain ⟨id, hvalid⟩ := passingReport_valid (routePackage records)
  have hfrom := hvalid
  simp only [validateQualityReport, bind_eq_ok, exists_unit_iff, require_eq_ok, pure, Except.pure,
    Except.ok.injEq] at hfrom
  obtain ⟨-, -, -, -, hreport, rfl⟩ := hfrom
  exact ⟨hvalid, hreport.symm⟩

/-- A package is built into its document. -/
theorem routeDocument_built {records : CanonicalRecords}
    (h : ExpandablePackage (routePackage records)) (hseal : Sealable (routeBase records)) :
    Built (routeDocument records) := by
  obtain ⟨hreport, hreportId⟩ := routeReport_valid records
  have hpackage : validatedImport (routePackage records) =
      .ok (canonicalImportDocument (routePackage records)) :=
    validatedImport_eq rfl h.valid rfl rfl
  have hexpansion : validateExpansion (routeExpansion records)
      (canonicalImportDocument (routePackage records)) (routeReport records) = .ok () := by
    simp only [validateExpansion, bind_unit_eq_ok, require_eq_ok]
    exact ⟨⟨rfl, rfl, rfl, rfl, rfl, rfl⟩, hreportId⟩
  exact ⟨routePackage records, routeReport records, _, _, routeExpansion records, _, _,
    expandOrders_eq h hreport,
    buildPlanningSnapshot_eq plain_instant hpackage
      (passingReport_validated (canonicalImportDocument (routePackage records))) hexpansion hseal,
    rfl⟩

theorem routeRecords_expandable : ExpandablePackage (routePackage routeRecords) where
  valid := routePackage_valid route_checked.1.1
  lineage := rfl
  orders := by
    intro order horder
    obtain rfl := List.mem_singleton.mp horder
    exact ⟨by decide, by decide, by decide⟩
  instanceIds := by
    show ((plannedInstances routeRecords).map _).Nodup
    rw [planned_route.1]
    decide
  edgeIds := by
    show ((plannedEdges routeRecords).map _).Nodup
    rw [planned_route.2]
    exact List.nodup_nil

theorem urgentRecords_expandable : ExpandablePackage (routePackage urgentRecords) where
  valid := routePackage_valid route_checked.1.2
  lineage := rfl
  orders := by
    have horders : ∀ order ∈ urgentRecords.productionOrders,
        lotsOf urgentRecords order.productionOrderId ≠ [] ∧
        operationsOf urgentRecords order.routingVersionId ≠ [] ∧
        ∀ operation ∈ operationsOf urgentRecords order.routingVersionId,
          optionsOf urgentRecords operation.routingOperationId ≠ [] := by decide
    intro order horder
    obtain ⟨hlots, hoperations, hoptions⟩ := horders order horder
    exact ⟨hlots, hoperations, hoptions⟩
  instanceIds := by
    show ((plannedInstances urgentRecords).map _).Nodup
    rw [planned_urgent.1]
    decide
  edgeIds := by
    show ((plannedEdges urgentRecords).map _).Nodup
    rw [planned_urgent.2]
    decide

/-- The document of a package before it is sealed, with its expansion written out. -/
def routeBaseOf (records : CanonicalRecords) (instances : List OperationInstance)
    (edges : List OperationPrecedenceEdge) : PlanningSnapshot :=
  snapshotBase (canonicalImportDocument (routePackage records))
    { routeExpansion records with
      operationInstances := instances
      operationPrecedenceEdges := edges }
    "2026-01-01T00:00:00Z"

theorem routeBase_eq {records : CanonicalRecords} {instances : List OperationInstance}
    {edges : List OperationPrecedenceEdge}
    (hinstances : sortByKey OperationInstance.operationInstanceId (plannedInstances records) =
      instances)
    (hedges : sortByKey OperationPrecedenceEdge.operationPrecedenceEdgeId (plannedEdges records) =
      edges) : routeBase records = routeBaseOf records instances edges := by
  obtain ⟨rfl, rfl⟩ := And.intro hinstances hedges
  rfl

/-- The checks of the expanded operations and edges of a document. -/
def ExpansionValid (records : CanonicalRecords) (instances : List OperationInstance)
    (edges : List OperationPrecedenceEdge) : Prop :=
  checkInstances records instances = .ok () ∧
    forEachDistinct OperationPrecedenceEdge.operationPrecedenceEdgeId
      (fun i edge => identifier edge.operationPrecedenceEdgeId
        s!"operation_precedence_edges[{i}].operation_precedence_edge_id")
      (checkInstanceEdge records instances)
      (fun i edge =>
        ⟨.duplicateId, s!"operation_precedence_edges[{i}].operation_precedence_edge_id",
          edge.operationPrecedenceEdgeId⟩)
      0 [] edges = .ok ()

/-- Records and operations in canonical order make a document that can be sealed. -/
theorem routeBaseOf_sealable {records : CanonicalRecords} {instances : List OperationInstance}
    {edges : List OperationPrecedenceEdge}
    (hrecords : validateCanonicalRecords records [("ERP", "1")] = .ok ())
    (hcanonical : canonicalRecords records = records)
    (hlocal : instances.map canonicalInstance = instances)
    (hinstances : sortByKey OperationInstance.operationInstanceId instances = instances)
    (hedges : sortByKey OperationPrecedenceEdge.operationPrecedenceEdgeId edges = edges)
    (hexpansion : ExpansionValid records instances edges) :
    Sealable (routeBaseOf records instances edges) := by
  have hid : identifier "S1" "snapshot_id" = .ok () := by decide
  have hcutoff : Snapshot.utc "2026-01-01T00:00:00Z" "cutoff_at_utc" = .ok plainInstant := by
    simp only [Snapshot.utc, plain_instant, bind_eq_ok, exists_unit_iff]
    exact ⟨by decide, trivial⟩
  have hsources : validateSourceVersions [("ERP", "1")] = .ok () := by decide
  have hsynthetic : validateSyntheticBoundary true (some ⟨"SC1", "1", 1, "FP1", "1", "GEN1", "1"⟩)
      "synthetic_provenance" = .ok () := by decide
  have hsorted : sortByKey Prod.fst [("ERP", "1")] = [("ERP", "1")] := by decide
  refine ⟨rfl, ⟨"S1", ?_⟩, "S1", ?_⟩
  · simp only [validatePlanningSnapshotV2, bind_eq_ok, exists_unit_iff, require_eq_ok, routeBaseOf,
      snapshotBase, canonicalImportDocument, routePackage, hcanonical, hsorted]
    exact ⟨⟨trivial, trivial⟩, hid, _, hcutoff, hsources, hsynthetic, hrecords, rfl, hexpansion⟩
  · simp only [validatePlanningSnapshotV2, bind_eq_ok, exists_unit_iff, require_eq_ok, routeBaseOf,
      snapshotBase, canonicalImportDocument, routePackage, canonicalSnapshotDocument, hcanonical,
      hsorted, hlocal, hinstances, hedges]
    exact ⟨⟨trivial, trivial⟩, hid, _, hcutoff, hsources, hsynthetic, hrecords, sortByKey_sortByKey ..,
      hexpansion⟩

theorem routeBase_route :
    routeBase routeRecords = routeBaseOf routeRecords [secondOperation, firstOperation] [] := by
  refine routeBase_eq ?_ ?_
  · rw [planned_route.1, sorted_route]
  · rw [planned_route.2]
    rfl

theorem routeBase_urgent :
    routeBase urgentRecords =
      routeBaseOf urgentRecords [secondOperation, urgentOperation, firstOperation] [addedEdge] := by
  refine routeBase_eq ?_ ?_
  · rw [planned_urgent.1, sorted_urgent]
  · rw [planned_urgent.2]
    rfl

theorem ids_canonical : isCanonicalId firstId = true ∧ isCanonicalId secondId = true ∧
    isCanonicalId urgentId = true ∧ isCanonicalId addedEdgeId = true := by
  rw [← route_ids.1, ← route_ids.2.1, ← route_ids.2.2.1, ← route_ids.2.2.2]
  exact ⟨isCanonicalId_digest ("operation-instance" ++ "-") _ (by decide) (by decide),
    isCanonicalId_digest ("operation-instance" ++ "-") _ (by decide) (by decide),
    isCanonicalId_digest ("operation-instance" ++ "-") _ (by decide) (by decide),
    isCanonicalId_digest ("operation-precedence-edge" ++ "-") _ (by decide) (by decide)⟩

theorem routeExpansion_valid :
    ExpansionValid routeRecords [secondOperation, firstOperation] [] := by
  obtain ⟨-, -, hchecks, -⟩ := route_checked
  refine ⟨?_, rfl⟩
  simp only [checkInstances, forEachDistinct, bind_unit_eq_ok, identifier_eq_ok, require_eq_ok]
  exact ⟨ids_canonical.2.1, by decide, hchecks.1, ids_canonical.1, by decide, hchecks.2, trivial⟩

theorem urgentExpansion_valid :
    ExpansionValid urgentRecords [secondOperation, urgentOperation, firstOperation]
      [addedEdge] := by
  obtain ⟨-, -, -, hchecks, -⟩ := route_checked
  refine ⟨?_, ?_⟩
  · simp only [checkInstances, forEachDistinct, bind_unit_eq_ok, identifier_eq_ok, require_eq_ok]
    exact ⟨ids_canonical.2.1, by decide, hchecks.1, ids_canonical.2.2.1, by decide, hchecks.2.1,
      ids_canonical.1, by decide, hchecks.2.2.1, trivial⟩
  · simp only [forEachDistinct, bind_unit_eq_ok, identifier_eq_ok, require_eq_ok]
    exact ⟨ids_canonical.2.2.2, by decide, hchecks.2.2.2, trivial⟩

theorem route_resorted : sortByKey OperationInstance.operationInstanceId
    [secondOperation, firstOperation] = [secondOperation, firstOperation] := by
  rw [← sorted_route, sortByKey_sortByKey]

theorem urgent_resorted : sortByKey OperationInstance.operationInstanceId
    [secondOperation, urgentOperation, firstOperation] =
      [secondOperation, urgentOperation, firstOperation] := by
  rw [← sorted_urgent, sortByKey_sortByKey]

theorem routeDocuments_built :
    Built (routeDocument routeRecords) ∧ Built (routeDocument urgentRecords) := by
  refine ⟨routeDocument_built routeRecords_expandable ?_,
    routeDocument_built urgentRecords_expandable ?_⟩
  · rw [routeBase_route]
    exact routeBaseOf_sealable route_checked.1.1 route_checked.2.1.1 rfl route_resorted rfl
      routeExpansion_valid
  · rw [routeBase_urgent]
    exact routeBaseOf_sealable route_checked.1.2 route_checked.2.1.2 rfl urgent_resorted rfl
      urgentExpansion_valid

/-- What the document of a package has of it. -/
theorem routeDocument_fields {records : CanonicalRecords} {instances : List OperationInstance}
    {edges : List OperationPrecedenceEdge}
    (hbase : routeBase records = routeBaseOf records instances edges)
    (hcanonical : canonicalRecords records = records)
    (hlocal : instances.map canonicalInstance = instances)
    (hsorted : sortByKey OperationInstance.operationInstanceId instances = instances) :
    (routeDocument records).records = records ∧
      (routeDocument records).operationInstances = instances := by
  have hsealed : ∀ s : PlanningSnapshot,
      (sealSnapshot (canonicalSnapshotDocument s)).document.records = canonicalRecords s.records ∧
      (sealSnapshot (canonicalSnapshotDocument s)).document.operationInstances =
        sortByKey OperationInstance.operationInstanceId
          (s.operationInstances.map canonicalInstance) := fun _ => ⟨rfl, rfl⟩
  have hrecords : (routeBaseOf records instances edges).records = canonicalRecords records := rfl
  have hinstances : (routeBaseOf records instances edges).operationInstances = instances := rfl
  rw [routeDocument, (hsealed _).1, (hsealed _).2, hbase, hrecords, hinstances, hcanonical,
    hcanonical, hlocal, hsorted]
  exact ⟨rfl, rfl⟩

theorem routeDocument_provenance (records : CanonicalRecords) :
    (routeDocument records).synthetic = true ∧ (routeDocument records).syntheticProvenance =
      some ⟨"SC1", "1", 1, "FP1", "1", "GEN1", "1"⟩ := ⟨rfl, rfl⟩

theorem urgentContent_valid : urgentContent.Valid plainInstant := by
  constructor
  all_goals decide +kernel

def urgentEvent : Json := sealEvent plainScope urgentContent

/-- The import is accepted. -/
theorem urgentEvent_applied : ∃ next priorities,
    applyEvent (routeDocument routeRecords) [urgentEvent] urgentEvent
      (some (routeDocument urgentRecords)) = .ok (next, priorities) := by
  obtain ⟨-, hcanonical, -, -, hkept, hfixed, hdemand, horders, hadded, hsource⟩ := route_checked
  obtain ⟨hrecords, hinstances⟩ := routeDocument_fields routeBase_route route_checked.2.1.1 rfl
    route_resorted
  obtain ⟨hrecords', hinstances'⟩ := routeDocument_fields routeBase_urgent route_checked.2.1.2
    rfl urgent_resorted
  have hcandidate : ∃ priority, validateUrgentCandidate (routeDocument routeRecords)
      (routeDocument urgentRecords) urgentEvent = .ok priority := by
    have hpayload : urgentEvent.get "payload" = urgentContent.payload := rfl
    have hid : factText (urgentEvent.get "event_id") "event_id" =
        .ok (executionEventId (contentFingerprint plainScope urgentContent)) :=
      factText_str (isFactText_sealed plainScope urgentContent).1
    have hnamed : factText (urgentContent.payload.get "demand_order_id")
        "payload.demand_order_id" = .ok "D2" := rfl
    have hquantity : factInteger (urgentContent.payload.get "quantity") "payload.quantity" 1 =
        .ok 1 := rfl
    have hweight : factInteger (urgentContent.payload.get "priority_weight")
        "payload.priority_weight" 1 = .ok 1 := rfl
    simp only [validateUrgentCandidate, hrecords, hrecords', hinstances, hinstances',
      routeDocument_provenance, hpayload, hid, hnamed, hquantity, hsource, hweight, hdemand, horders,
      hadded, bind_eq_ok, exists_unit_iff, require_eq_ok, Except.ok.injEq,
      exists_eq_left']
    refine ⟨_, ⟨trivial, trivial, trivial⟩, ?_, trivial, ?_, trivial, trivial, rfl⟩
    · refine (forEach_eq_ok_iff (fun kept : String × Bool => kept.2 = true) _ _ ?_).mpr hkept
      intro kept _ i
      rw [require_eq_ok]
    · refine (forEach_eq_ok_iff (fun fixed : String × Bool => fixed.2 = true) _ _ ?_).mpr hfixed
      intro fixed _ i
      rw [require_eq_ok]
  obtain ⟨priority, hpriority⟩ := hcandidate
  have htype : ExecutionEventType.ofText (urgentEvent.get "event_type").text =
      some .urgentDemandReceived := rfl
  rw [applyEvent, htype]
  simp only [projectUrgentDemand, found, hpriority, bind_eq_ok, Except.ok.injEq, exists_eq_left']
  exact ⟨_, _, _, rfl, rfl⟩

/-- The edge of the package is on a route in use. -/
theorem route_grows : ¬RoutesFixed (routeDocument routeRecords) (routeDocument urgentRecords) := by
  have hrecords := (routeDocument_fields routeBase_route route_checked.2.1.1 rfl
    route_resorted).1
  have hrecords' := (routeDocument_fields routeBase_urgent route_checked.2.1.2 rfl
    urgent_resorted).1
  rw [RoutesFixed, hrecords, hrecords']
  decide

end PlantNexus.Execution
