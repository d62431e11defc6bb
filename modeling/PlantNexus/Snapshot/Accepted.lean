import PlantNexus.Snapshot.Contract

/-! What an accepted snapshot satisfies.

`AcceptedRecords` and `AcceptedSnapshot` collect what the passing checks of a `planning-snapshot.v2`
document give, so that callers never go through the sequence of checks again: the identities of
every collection are distinct, every reference resolves, and an expanded operation agrees with
the fact and the locks that it names. -/
namespace PlantNexus.Snapshot
open Data Time Domain

/-! ### Records -/

/-- The canonical records of an accepted document. -/
structure AcceptedRecords (r : CanonicalRecords) : Prop where
  identities : ∀ c ∈ r.collections, (c.items.map Prod.fst).Nodup
  named : ∀ c ∈ r.collections, ∀ item ∈ c.items, item.1 ≠ ""
  references : ∀ rule ∈ r.referenceRules, ∀ value ∈ rule.values, value ∈ rule.targets
  calendars : ∀ calendar ∈ r.calendars, ∃ i, checkCalendar i calendar = .ok ()
  routingEdges : ∀ edge ∈ r.routingPrecedenceEdges, ∃ i, checkRoutingEdge r i edge = .ok ()
  routingOptions : ∀ option ∈ r.routingResourceOptions,
    ∃ i, checkRoutingOption r i option = .ok ()
  orders : ∀ order ∈ r.productionOrders, ∃ i, checkProductionOrder r i order = .ok ()
  facts : ∀ fact ∈ r.executionFacts, ∃ i, checkFact r i fact = .ok ()
  locks : ∀ lock ∈ r.operationLocks, ∃ i, checkLock i lock = .ok ()

theorem validateCanonicalRecords_ok {r : CanonicalRecords} {versions : List (String × String)}
    (h : validateCanonicalRecords r versions = .ok ()) : AcceptedRecords r := by
  simp only [validateCanonicalRecords, bind_unit_eq_ok] at h
  obtain ⟨-, hids, -, hrules, -, hcalendars, hedges, hoptions, -, horders, -, hfacts, hlocks⟩ := h
  refine ⟨?_, ?_, ?_, ?_, ?_, ?_, ?_, ?_, ?_⟩
  · refine forEach_ok_mem hids ?_
    intro _ c hc
    exact (forEachDistinct_ok hc).1
  · refine forEach_ok_mem hids ?_
    intro _ c hc item hitem
    obtain ⟨-, ⟨_, hname⟩, -⟩ := (forEachDistinct_ok hc).2 item hitem
    simp only [identifier, text, bind_unit_eq_ok, require_eq_ok] at hname
    exact hname.1
  · refine forEach_ok_mem hrules ?_
    intro _ rule hrule
    refine forEach_ok_mem hrule ?_
    intro _ value hvalue
    simp only [requireReference, bind_unit_eq_ok, require_eq_ok] at hvalue
    exact hvalue.2
  · exact forEach_ok_mem hcalendars fun i _ hok => ⟨i, hok⟩
  · exact forEach_ok_mem hedges fun i _ hok => ⟨i, hok⟩
  · exact forEach_ok_mem hoptions fun i _ hok => ⟨i, hok⟩
  · exact forEach_ok_mem horders fun i _ hok => ⟨i, hok⟩
  · exact forEach_ok_mem hfacts fun i _ hok => ⟨i, hok⟩
  · exact forEach_ok_mem hlocks fun i _ hok => ⟨i, hok⟩

namespace AcceptedRecords
variable {r : CanonicalRecords} (h : AcceptedRecords r)
include h

/-- The identities of the collection at a place. -/
theorem nodup_at (i : Nat) {α : Type} {xs : List α} {key : α → String} {name idField : String}
    {source : α → SourceReference}
    (hc : r.collections[i]? = some ⟨name, idField, xs.map fun x => (key x, source x)⟩) :
    (xs.map key).Nodup := by
  have hnodup := h.identities _ (List.mem_of_getElem? hc)
  rw [List.map_map] at hnodup
  exact hnodup

theorem resourceIds : (r.resources.map ResourceRecord.resourceId).Nodup :=
  h.nodup_at 4 rfl

theorem calendarIds : (r.calendars.map CalendarRecord.calendarId).Nodup :=
  h.nodup_at 5 rfl

theorem productionOrderIds : (r.productionOrders.map ProductionOrderRecord.productionOrderId).Nodup :=
  h.nodup_at 12 rfl

theorem productionLotIds : (r.productionLots.map ProductionLotRecord.productionLotId).Nodup :=
  h.nodup_at 13 rfl

theorem executionFactIds : (r.executionFacts.map ExecutionFactRecord.executionFactId).Nodup :=
  h.nodup_at 14 rfl

theorem lockIds : (r.operationLocks.map OperationLockRecord.lockId).Nodup :=
  h.nodup_at 15 rfl

/-- The references under the rule at a place. -/
theorem reference_at (i : Nat) {rule : ReferenceRule} (hrule : r.referenceRules[i]? = some rule) :
    ∀ value ∈ rule.values, value ∈ rule.targets :=
  h.references _ (List.mem_of_getElem? hrule)

theorem resource_calendar {resource : ResourceRecord} (hmem : resource ∈ r.resources) :
    resource.calendarId ∈ r.calendars.map CalendarRecord.calendarId :=
  h.reference_at 4 rfl _ (List.mem_map_of_mem hmem)

theorem lot_order {lot : ProductionLotRecord} (hmem : lot ∈ r.productionLots) :
    lot.productionOrderId ∈ r.productionOrders.map ProductionOrderRecord.productionOrderId :=
  h.reference_at 15 rfl _ (List.mem_map_of_mem hmem)

theorem fact_lot {fact : ExecutionFactRecord} (hmem : fact ∈ r.executionFacts) :
    fact.productionLotId ∈ r.productionLots.map ProductionLotRecord.productionLotId :=
  h.reference_at 16 rfl _ (List.mem_map_of_mem hmem)

theorem lock_lot {lock : OperationLockRecord} (hmem : lock ∈ r.operationLocks) :
    lock.productionLotId ∈ r.productionLots.map ProductionLotRecord.productionLotId :=
  h.reference_at 18 rfl _ (List.mem_map_of_mem hmem)

theorem fact_named {fact : ExecutionFactRecord} (hmem : fact ∈ r.executionFacts) :
    fact.executionFactId ≠ "" :=
  h.named _ (List.mem_of_getElem? (i := 14) rfl) _ (List.mem_map_of_mem hmem)

/-- Every fact records a start. -/
theorem fact_start {fact : ExecutionFactRecord} (hmem : fact ∈ r.executionFacts) :
    fact.actualStartAtUtc ≠ none := by
  obtain ⟨i, hcheck⟩ := h.facts fact hmem
  simp only [checkFact, bind_eq_ok, exists_unit_iff, require_eq_ok] at hcheck
  obtain ⟨-, -, -, ⟨hmissing, -⟩, -⟩ := hcheck
  intro hnone
  have habsent : "actual_start_at_utc" ∉ fact.presentFields := by
    simp [ExecutionFactRecord.presentFields, hnone]
  have hrequired : "actual_start_at_utc" ∈ fact.status.requiredFields := by
    cases fact.status <;> decide
  have hmem : "actual_start_at_utc" ∈
      fact.status.requiredFields.filter (· ∉ fact.presentFields) :=
    List.mem_filter.mpr ⟨hrequired, decide_eq_true habsent⟩
  rw [hmissing] at hmem
  cases hmem

/-- A running operation has no end yet. -/
theorem running_end {fact : ExecutionFactRecord} (hmem : fact ∈ r.executionFacts)
    (hrunning : fact.status = .running) : fact.actualEndAtUtc = none := by
  obtain ⟨i, hcheck⟩ := h.facts fact hmem
  simp only [checkFact, bind_eq_ok, exists_unit_iff, require_eq_ok] at hcheck
  obtain ⟨-, -, -, ⟨-, hforbidden⟩, -⟩ := hcheck
  rw [hrunning] at hforbidden
  cases hend : fact.actualEndAtUtc with
  | none => rfl
  | some text =>
    have hpresent : "actual_end_at_utc" ∈ fact.presentFields := by
      simp [ExecutionFactRecord.presentFields, hend]
    have hmem : "actual_end_at_utc" ∈
        FactStatus.running.forbiddenFields.filter (· ∈ fact.presentFields) :=
      List.mem_filter.mpr ⟨by decide, decide_eq_true hpresent⟩
    rw [hforbidden] at hmem
    cases hmem

end AcceptedRecords

/-! ### Documents -/

/-- A fact or a lock, and the expanded operation that it is of. -/
structure AttachedFact (r : CanonicalRecords) (o : OperationInstance) : Prop where
  none_of_notStarted : o.status = .notStarted → o.executionFactId = none
  fact : o.status ≠ .notStarted → ∃ fact, r.fact? (o.executionFactId.getD "") = some fact ∧
    o.Owns fact.productionLotId fact.routingOperationId ∧ fact.status.instanceStatus = o.status

/-- An accepted document. -/
structure AcceptedSnapshot (s : PlanningSnapshot) : Prop where
  records : AcceptedRecords s.records
  instanceIds : (s.operationInstances.map OperationInstance.operationInstanceId).Nodup
  lineage : ∀ o ∈ s.operationInstances, ∃ path, checkLineage s.records path o = .ok ()
  options : ∀ o ∈ s.operationInstances, o.resourceOptions ≠ [] ∧
    (o.resourceOptions.map OperationResourceOption.routingResourceOptionId).Nodup ∧
    ∀ option ∈ o.resourceOptions, ∃ path i, checkInstanceOption s.records path o i option = .ok ()
  attached : ∀ o ∈ s.operationInstances, AttachedFact s.records o
  locks : ∀ o ∈ s.operationInstances, o.lockIds.Nodup ∧ ∀ id ∈ o.lockIds,
    ∃ lock ∈ s.records.lock? id, o.Owns lock.productionLotId lock.routingOperationId
  edgeIds : (s.operationPrecedenceEdges.map
    OperationPrecedenceEdge.operationPrecedenceEdgeId).Nodup
  edges : ∀ edge ∈ s.operationPrecedenceEdges,
    ∃ i, checkInstanceEdge s.records s.operationInstances i edge = .ok ()

/-- The fact of an operation that has started. -/
theorem AcceptedSnapshot.started_fact {s : PlanningSnapshot} (h : AcceptedSnapshot s)
    {o : OperationInstance} (ho : o ∈ s.operationInstances) (hstarted : o.status ≠ .notStarted) :
    ∃ fact ∈ s.records.executionFacts, o.executionFactId = some fact.executionFactId ∧
      o.Owns fact.productionLotId fact.routingOperationId ∧
      fact.status.instanceStatus = o.status := by
  obtain ⟨fact, hget, howns, hstatus⟩ := (h.attached o ho).fact hstarted
  obtain ⟨hmem, hid⟩ := mem_of_dictGet hget
  refine ⟨fact, hmem, ?_, howns, hstatus⟩
  cases hname : o.executionFactId with
  | none =>
    rw [hname] at hid
    exact absurd hid (h.records.fact_named hmem)
  | some id =>
    rw [hname] at hid
    exact congrArg some hid.symm

theorem checkInstanceFact_ok {r : CanonicalRecords} {path : String} {o : OperationInstance}
    (h : checkInstanceFact r path o = .ok ()) : AttachedFact r o := by
  simp only [checkInstanceFact, bind_unit_eq_ok, require_eq_ok] at h
  refine ⟨h.1, ?_⟩
  intro hstarted
  have h := h.2
  rw [if_neg hstarted] at h
  cases hfact : r.fact? (o.executionFactId.getD "") with
  | none =>
    rw [hfact] at h
    cases h
  | some fact =>
    rw [hfact] at h
    simp only [bind_unit_eq_ok, require_eq_ok] at h
    exact ⟨fact, rfl, h⟩

/-- **A document that passes the semantic precheck is accepted.** -/
theorem validatePlanningSnapshotV2_ok {s : PlanningSnapshot}
    (h : validatePlanningSnapshotV2 s = .ok ()) : AcceptedSnapshot s := by
  simp only [validatePlanningSnapshotV2, bind_eq_ok, exists_unit_iff] at h
  obtain ⟨-, -, -, -, -, -, hrecords, -, hinstances, hedges⟩ := h
  have hall : ∀ o ∈ s.operationInstances, ∃ i, checkInstance s.records i o = .ok () := by
    intro o ho
    exact ((forEachDistinct_ok hinstances).2 o ho).2.2
  have hsteps : ∀ o ∈ s.operationInstances, ∃ path,
      checkLineage s.records path o = .ok () ∧ o.resourceOptions ≠ [] ∧
        ((o.resourceOptions.map OperationResourceOption.routingResourceOptionId).Nodup ∧
          ∀ option ∈ o.resourceOptions, ∃ i,
            checkInstanceOption s.records path o i option = .ok ()) ∧
        checkInstanceFact s.records path o = .ok () ∧
        checkInstanceLocks s.records path o = .ok () := by
    intro o ho
    obtain ⟨i, hcheck⟩ := hall o ho
    simp only [checkInstance, bind_eq_ok, exists_unit_iff, require_eq_ok] at hcheck
    obtain ⟨-, -, -, -, -, -, -, -, hlineage, hne, hoptions, hfact, hlocks⟩ := hcheck
    obtain ⟨hnodup, heach⟩ := forEachDistinct_ok hoptions
    exact ⟨_, hlineage, hne, ⟨hnodup, fun option hoption => (heach option hoption).2.2⟩, hfact,
      hlocks⟩
  refine ⟨validateCanonicalRecords_ok hrecords, (forEachDistinct_ok hinstances).1, ?_, ?_, ?_, ?_,
    (forEachDistinct_ok hedges).1, ?_⟩
  · intro o ho
    obtain ⟨path, hlineage, -⟩ := hsteps o ho
    exact ⟨path, hlineage⟩
  · intro o ho
    obtain ⟨path, -, hne, ⟨hnodup, heach⟩, -⟩ := hsteps o ho
    exact ⟨hne, hnodup, fun option hoption => ⟨path, heach option hoption⟩⟩
  · intro o ho
    obtain ⟨path, -, -, -, hfact, -⟩ := hsteps o ho
    exact checkInstanceFact_ok hfact
  · intro o ho
    obtain ⟨path, -, -, -, -, hlocks⟩ := hsteps o ho
    simp only [checkInstanceLocks, bind_unit_eq_ok, require_eq_ok] at hlocks
    refine ⟨hlocks.1, forEach_ok_mem hlocks.2 ?_⟩
    intro _ id hid
    rwa [require_eq_ok] at hid
  · intro edge hedge
    exact ((forEachDistinct_ok hedges).2 edge hedge).2.2

end PlantNexus.Snapshot
