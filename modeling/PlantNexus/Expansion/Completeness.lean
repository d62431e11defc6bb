import PlantNexus.Data.JsonEval
import PlantNexus.Expansion.SnapshotBuilder

/-! When an expansion and its snapshot are there.

Over accepted records the expansion fails only where an order has no lot, its route no operation
or an operation no option, and where two derived identities collide (`expandOrders_isOk`). The
snapshot of an expansion is then built as soon as its document passes the contract
(`buildPlanningSnapshot_isOk`). -/
namespace PlantNexus.Expansion
open Data Domain Time Snapshot

/-! ### Loops that collect -/

/-- A loop that appends to a list without repetitions, where no step repeats what is there. -/
theorem foldlM_append_eq {α β κ ε : Type} {f : List β → α → Except ε (List β)} {g : α → List β}
    {key : β → κ} {xs : List α}
    (hstep : ∀ x ∈ xs, ∀ acc, ((acc ++ g x).map key).Nodup → f acc x = .ok (acc ++ g x))
    (acc : List β) (hnodup : ((acc ++ xs.flatMap g).map key).Nodup) :
    xs.foldlM f acc = .ok (acc ++ xs.flatMap g) := by
  induction xs generalizing acc with
  | nil => rw [List.flatMap_nil, List.append_nil]; rfl
  | cons x xs ih =>
    rw [List.flatMap_cons, ← List.append_assoc] at hnodup ⊢
    have hfirst : ((acc ++ g x).map key).Nodup :=
      hnodup.sublist ((List.sublist_append_left ..).map key)
    rw [List.foldlM_cons, hstep x (List.mem_cons_self ..) acc hfirst]
    exact ih (fun y hy => hstep y (List.mem_cons_of_mem x hy)) (acc ++ g x) hnodup

/-! ### Instances -/

section
variable {r : CanonicalRecords}

theorem stableExpansionId_eq {kind : String} {lineageIds : List String} (hne : lineageIds ≠ [])
    (h : ∀ value ∈ lineageIds, value ≠ "") :
    stableExpansionId kind lineageIds = .ok (derivedId kind lineageIds) := by
  simp only [stableExpansionId, bind_eq_ok, exists_unit_iff, require_eq_ok]
  exact ⟨⟨hne, h⟩, rfl⟩

/-- A stable identity computed on the spelling of its basis. -/
theorem derivedId_spelled {kind : List Char} {lineageIds : List String} {spelling : Spelling}
    {chars : List Char}
    (h : Spelled (.obj
      [("expansion_version", .str orderExpansionVersion), ("kind", .str (String.ofList kind)),
       ("lineage_ids", .strings lineageIds)]) spelling)
    (hplain : spelling.plain = true)
    (hascii : spelling.chars.all (fun c => Nat.blt c.toNat 128) = true)
    (hdigest : kind ++ '-' :: forceAll (spelling.chars.map Char.toNat) Sha256.natDigest = chars) :
    derivedId (String.ofList kind) lineageIds = String.ofList chars := by
  rw [derivedId, h.digest hplain hascii rfl, ← hdigest, ← List.singleton_append (x := '-'),
    String.ofList_append, String.ofList_append, String.append_assoc]

/-- An order with lots, operations and options. -/
structure Expandable (r : CanonicalRecords) (order : ProductionOrderRecord) : Prop where
  lots : lotsOf r order.productionOrderId ≠ []
  operations : operationsOf r order.routingVersionId ≠ []
  options : ∀ operation ∈ operationsOf r order.routingVersionId,
    optionsOf r operation.routingOperationId ≠ []

theorem named_at (hr : AcceptedRecords r) (i : Nat) {α : Type} {xs : List α} {key : α → String}
    {name idField : String} {source : α → SourceReference}
    (hc : r.collections[i]? = some ⟨name, idField, xs.map fun x => (key x, source x)⟩) :
    ∀ x ∈ xs, key x ≠ "" :=
  fun _ hx => hr.named _ (List.mem_of_getElem? hc) _ (List.mem_map_of_mem hx)

theorem expandOperation_eq (hr : AcceptedRecords r) {order : ProductionOrderRecord}
    {demand : DemandOrderRecord} {lot : ProductionLotRecord} {operation : RoutingOperationRecord}
    (hlot : lot ∈ r.productionLots) (hoperation : operation ∈ r.routingOperations)
    (hoptions : optionsOf r operation.routingOperationId ≠ []) {instances : List OperationInstance}
    (hnodup : ((instances ++ [expandedInstance r order demand lot operation
      (instanceId lot.productionLotId operation.routingOperationId)]).map
        OperationInstance.operationInstanceId).Nodup) :
    expandOperation r order demand lot instances operation =
      .ok (instances ++ [expandedInstance r order demand lot operation
        (instanceId lot.productionLotId operation.routingOperationId)]) := by
  have hids : ∀ value ∈ [lot.productionLotId, operation.routingOperationId], value ≠ "" := by
    intro value hvalue
    rcases List.mem_cons.mp hvalue with rfl | hvalue
    · exact named_at hr 13 rfl lot hlot
    · rw [List.mem_singleton.mp hvalue]
      exact named_at hr 8 rfl operation hoperation
  have hfresh : instanceId lot.productionLotId operation.routingOperationId ∉
      instances.map OperationInstance.operationInstanceId := by
    rw [List.map_append, List.map_singleton, List.nodup_append] at hnodup
    intro hmem
    exact hnodup.2.2 _ hmem _ (List.mem_singleton.mpr rfl) rfl
  simp only [expandOperation, bind_eq_ok, exists_unit_iff, require_eq_ok,
    stableExpansionId_eq (List.cons_ne_nil _ _) hids, Except.ok.injEq, exists_eq_left']
  exact ⟨hoptions, hfresh, rfl⟩

theorem expandOrder_eq (hr : AcceptedRecords r) {order : ProductionOrderRecord}
    (horder : order ∈ r.productionOrders) (h : Expandable r order)
    {instances : List OperationInstance}
    (hnodup : ((instances ++ orderInstances r order).map
      OperationInstance.operationInstanceId).Nodup) :
    expandOrder r instances order = .ok (instances ++ orderInstances r order) := by
  have hroute := hr.reference_at 14 rfl _ (List.mem_map_of_mem horder)
  have hdemand := hr.reference_at 13 rfl _ (List.mem_map_of_mem horder)
  obtain ⟨demand, hdemand⟩ : ∃ demand, r.demand? order.demandOrderId = some demand := by
    cases hget : r.demand? order.demandOrderId with
    | none => exact absurd hdemand ((dictGet_eq_none_iff _ _ _).mp hget)
    | some demand => exact ⟨demand, rfl⟩
  rw [orderInstances, hdemand, Option.toList_some, List.flatMap_singleton] at hnodup ⊢
  simp only [expandOrder, bind_eq_ok, exists_unit_iff, require_eq_ok, hdemand]
  refine ⟨h.lots, ⟨hroute, h.operations⟩, foldlM_append_eq ?_ instances hnodup⟩
  intro lot hlot acc hacc
  refine foldlM_append_eq ?_ acc hacc
  intro operation hoperation acc' hacc'
  exact expandOperation_eq hr (mem_lotsOf.mp hlot).1 (mem_operationsOf.mp hoperation).1
    (h.options operation hoperation) hacc'

theorem expandInstances_eq (hr : AcceptedRecords r)
    (h : ∀ order ∈ r.productionOrders, Expandable r order)
    (hnodup : ((plannedInstances r).map OperationInstance.operationInstanceId).Nodup) :
    expandInstances r = .ok (plannedInstances r) := by
  refine foldlM_append_eq ?_ [] hnodup
  intro order horder acc hacc
  exact expandOrder_eq hr (mem_ordersById.mp horder) (h order (mem_ordersById.mp horder)) hacc

/-! ### Edges -/

/-- The operation of a lot is found under its identity. -/
theorem planned_get {lotId operationId : String}
    (h : ∃ o ∈ plannedInstances r, lineage o = (lotId, operationId)) :
    ∃ o, dictGet lineage (plannedInstances r) (lotId, operationId) = some o ∧
      o.operationInstanceId = instanceId lotId operationId := by
  obtain ⟨o, ho, hkey⟩ := h
  cases hget : dictGet lineage (plannedInstances r) (lotId, operationId) with
  | none => exact absurd (hkey ▸ List.mem_map_of_mem ho) ((dictGet_eq_none_iff _ _ _).mp hget)
  | some found =>
    obtain ⟨hmem, hfound⟩ := mem_of_dictGet hget
    obtain ⟨hlot, hoperation⟩ := Prod.mk.inj hfound
    refine ⟨found, rfl, ?_⟩
    rw [planned_id hmem, hlot, hoperation]

theorem expandEdge_eq (hr : AcceptedRecords r) {lot : ProductionLotRecord}
    {edge : RoutingPrecedenceEdgeRecord} (hlot : lot ∈ r.productionLots)
    (hedge : edge ∈ r.routingPrecedenceEdges)
    (hroute : lotRoute r lot.productionLotId = some edge.routingVersionId)
    {edges : List OperationPrecedenceEdge}
    (hnodup : ((edges ++ [expandedEdge lot edge]).map
      OperationPrecedenceEdge.operationPrecedenceEdgeId).Nodup) :
    expandEdge (plannedInstances r) lot edges edge = .ok (edges ++ [expandedEdge lot edge]) := by
  have hlotEdge : LotEdge r lot.productionLotId edge.predecessorRoutingOperationId
      edge.successorRoutingOperationId :=
    ⟨List.mem_map_of_mem hlot, edge.routingVersionId, hroute, edge, hedge, rfl, rfl, rfl⟩
  obtain ⟨hpredecessor, hsuccessor⟩ := lotEdge_planned hr hlotEdge
  obtain ⟨p, hp, hpid⟩ := planned_get hpredecessor
  obtain ⟨s, hs, hsid⟩ := planned_get hsuccessor
  have hids : ∀ value ∈ [lot.productionLotId, edge.routingPrecedenceEdgeId], value ≠ "" := by
    intro value hvalue
    rcases List.mem_cons.mp hvalue with rfl | hvalue
    · exact named_at hr 13 rfl lot hlot
    · rw [List.mem_singleton.mp hvalue]
      exact named_at hr 9 rfl edge hedge
  have hfresh : edgeId lot.productionLotId edge.routingPrecedenceEdgeId ∉
      edges.map OperationPrecedenceEdge.operationPrecedenceEdgeId := by
    rw [List.map_append, List.map_singleton, List.nodup_append] at hnodup
    intro hmem
    exact hnodup.2.2 _ hmem _ (List.mem_singleton.mpr rfl) rfl
  simp only [expandEdge, hp, hs, bind_eq_ok, exists_unit_iff, require_eq_ok,
    stableExpansionId_eq (List.cons_ne_nil _ _) hids, Except.ok.injEq, exists_eq_left', hpid, hsid]
  exact ⟨hfresh, rfl⟩

theorem expandEdges_eq (hr : AcceptedRecords r)
    (hnodup : ((plannedEdges r).map OperationPrecedenceEdge.operationPrecedenceEdgeId).Nodup) :
    expandEdges r (plannedInstances r) = .ok (plannedEdges r) := by
  refine foldlM_append_eq ?_ [] hnodup
  intro order horder acc hacc
  refine foldlM_append_eq ?_ acc hacc
  intro lot hlot acc hacc
  refine foldlM_append_eq ?_ acc hacc
  intro edge hedge acc hacc
  obtain ⟨hmem, howner⟩ := mem_lotsOf.mp hlot
  obtain ⟨hmem', hversion⟩ := mem_edgesOf.mp hedge
  refine expandEdge_eq hr hmem hmem' ?_ hacc
  rw [hversion]
  exact lotRoute_of_order hr (mem_ordersById.mp horder) hmem howner

end

/-! ### The expansion -/

/-- The expansion of a package under the identity of its report. -/
def plannedExpansion (package : ImportPackage) (reportId : String) : OrderExpansion where
  packageId := package.packageId
  sourceVersions := sortByKey Prod.fst package.sourceVersions
  normalizationRuleVersion := package.normalizationRuleVersion
  canonicalizationVersion := package.canonicalizationVersion
  synthetic := package.synthetic
  syntheticProvenance := package.syntheticProvenance
  reportId
  operationInstances :=
    sortByKey OperationInstance.operationInstanceId (plannedInstances package.records)
  operationPrecedenceEdges :=
    sortByKey OperationPrecedenceEdge.operationPrecedenceEdgeId (plannedEdges package.records)

/-- A package that can be expanded. -/
structure ExpandablePackage (package : ImportPackage) : Prop where
  valid : validateImportPackageV2 package = .ok ()
  lineage : validateFactAndLockLineage package.records = .ok ()
  orders : ∀ order ∈ package.records.productionOrders, Expandable package.records order
  instanceIds : ((plannedInstances package.records).map
    OperationInstance.operationInstanceId).Nodup
  edgeIds : ((plannedEdges package.records).map
    OperationPrecedenceEdge.operationPrecedenceEdgeId).Nodup

theorem ExpandablePackage.records {package : ImportPackage} (h : ExpandablePackage package) :
    AcceptedRecords package.records := by
  have hvalid := h.valid
  simp only [validateImportPackageV2, bind_unit_eq_ok] at hvalid
  obtain ⟨-, -, -, -, -, -, hrecords⟩ := hvalid
  exact validateCanonicalRecords_ok hrecords

/-- **The expansion of a package that can be expanded** is its planned one. -/
theorem expandOrders_eq {package : ImportPackage} {report : Json} {reportId : String}
    (h : ExpandablePackage package)
    (hreport : validateQualityReport report package = .ok reportId) :
    expandOrders package report orderExpansionVersion explicitLotsMode =
      .ok (plannedExpansion package reportId) := by
  have hcanonical : validateCanonicalInput package = .ok () := by
    rw [validateCanonicalInput, mapError_eq_ok]
    exact h.valid
  simp only [expandOrders, bind_eq_ok, exists_unit_iff, require_eq_ok]
  exact ⟨trivial, trivial, reportId, hreport, hcanonical, h.lineage, _,
    expandInstances_eq h.records h.orders h.instanceIds, _,
    expandEdges_eq h.records h.edgeIds, rfl⟩

/-! ### Canonical documents -/

theorem canonicalRecords_idem (r : CanonicalRecords) :
    canonicalRecords (canonicalRecords r) = canonicalRecords r := by
  have hsorted : ∀ {α κ : Type} [LinearOrder κ] (key : α → κ) (f : α → α) (xs : List α),
      (∀ x, key (f x) = key x) → (∀ x, f (f x) = f x) →
        (sortByKey key ((sortByKey key xs).map f)).map f = (sortByKey key xs).map f := by
    intro α κ _ key f xs hkey hidem
    rw [sortByKey_map, List.map_map]
    simp only [hkey, sortByKey_sortByKey]
    exact List.map_congr_left fun x _ => hidem x
  simp only [canonicalRecords, sortByKey_sortByKey]
  rw [hsorted, hsorted, hsorted]
  all_goals
    intro x
    simp only [sortByKey_sortByKey]

theorem canonicalInstance_idem (o : OperationInstance) :
    canonicalInstance (canonicalInstance o) = canonicalInstance o := by
  simp only [canonicalInstance, sortByKey_sortByKey]

/-- **The canonical document is its own canonical form.** -/
theorem canonicalSnapshotDocument_idem (s : PlanningSnapshot) :
    canonicalSnapshotDocument (canonicalSnapshotDocument s) = canonicalSnapshotDocument s := by
  have hinstances : (sortByKey OperationInstance.operationInstanceId
        (s.operationInstances.map canonicalInstance)).map canonicalInstance =
      sortByKey OperationInstance.operationInstanceId
        (s.operationInstances.map canonicalInstance) := by
    rw [sortByKey_map, List.map_map]
    exact List.map_congr_left fun o _ => canonicalInstance_idem o
  simp only [canonicalSnapshotDocument, hinstances, sortByKey_sortByKey, canonicalRecords_idem]

theorem snapshotHashFor_canonical (s : PlanningSnapshot) :
    snapshotHashFor (canonicalSnapshotDocument s) = snapshotHashFor s := by
  rw [snapshotHashFor, snapshotHashFor, canonicalSnapshotDocument_idem]

/-! ### The snapshot -/

/-- The identity that a package stores enters its contract only as an identifier. -/
theorem validatedImport_eq {package : ImportPackage}
    (hprovenance : package.syntheticProvenance.isSome = package.synthetic)
    (hvalid : validateImportPackageV2 package = .ok ())
    (hversion : package.canonicalizationVersion = "canonical-json.v1")
    (hid : package.packageId = importPackageIdFor (canonicalImportDocument package)) :
    validatedImport package = .ok (canonicalImportDocument package) := by
  simp only [validatedImport, bind_eq_ok, exists_unit_iff, require_eq_ok, mapError_eq_ok]
  exact ⟨hprovenance, hvalid, hversion, hid, rfl⟩

theorem passingReport_validated (package : ImportPackage) :
    validatedQualityReport (passingReport package.packageId) package = .ok () := by
  have hkeys : (passingReport package.packageId).keys =
      ["report_id"] ++ (reportFields.filter fun field => field ≠ "report_id") := rfl
  have hfields : (∀ key ∈ (passingReport package.packageId).keys, key ∈ reportFields) ∧
      ∀ key ∈ reportFields, key ∈ (passingReport package.packageId).keys := by
    rw [hkeys]
    decide
  have herrors : (passingReport package.packageId).get "errors" = .arr [] := rfl
  have hcount : (passingReport package.packageId).get "error_count" = .int 0 := rfl
  have hcontract : validateQualityReportContract (passingReport package.packageId) = .ok () := by
    simp only [validateQualityReportContract, herrors, hcount, bind_unit_eq_ok, require_eq_ok]
    exact ⟨rfl, rfl, rfl⟩
  have hid : (Json.str package.packageId).pyEq (.str package.packageId) = true :=
    beq_self_eq_true package.packageId
  have hvalues : ∀ expected ∈ expectedReport package.packageId ++ [("errors", .arr [], "[]")],
      ((passingReport package.packageId).get expected.1).pyEq expected.2.1 = true := by
    simp only [expectedReport, List.cons_append, List.nil_append, List.forall_mem_cons]
    exact ⟨rfl, rfl, rfl, hid, rfl, rfl, rfl, rfl, rfl, rfl, fun _ h => absurd h List.not_mem_nil⟩
  simp only [validatedQualityReport, bind_unit_eq_ok, require_eq_ok, mapError_eq_ok]
  refine ⟨hfields, hcontract, ?_⟩
  refine (forEach_eq_ok_iff (fun expected : String × Json × String =>
    ((passingReport package.packageId).get expected.1).pyEq expected.2.1 = true) _ _ ?_).mpr hvalues
  intro expected _ i
  rw [require_eq_ok]

theorem validate_sealed {s : PlanningSnapshot} {id : String}
    (h : validatePlanningSnapshotV2 { s with snapshotId := id } = .ok ()) {newId hash : String}
    (hid : isCanonicalId newId = true) :
    validatePlanningSnapshotV2 { s with snapshotId := newId, snapshotHash := hash } = .ok () := by
  simp only [validatePlanningSnapshotV2, bind_unit_eq_ok, identifier_eq_ok] at h ⊢
  exact ⟨h.1, hid, h.2.2⟩

/-- A document that passes the contract under some identity, in its own order and in the
canonical one. -/
structure Sealable (s : PlanningSnapshot) : Prop where
  provenance : s.syntheticProvenance.isSome = s.synthetic
  valid : ∃ id, validatePlanningSnapshotV2 { s with snapshotId := id } = .ok ()
  canonical : ∃ id, validatePlanningSnapshotV2
    { canonicalSnapshotDocument s with snapshotId := id } = .ok ()

theorem Sealable.verified {s : PlanningSnapshot} (h : Sealable s) :
    Verified (sealSnapshot (canonicalSnapshotDocument s)) := by
  obtain ⟨hprovenance, -, id, hvalid⟩ := h
  have hidem := canonicalSnapshotDocument_idem s
  refine verified_seal { canonicalSnapshotDocument s with snapshotId := id } hprovenance ?_ hvalid
  rw [canonicalSnapshotDocument, canonicalSnapshotDocument] at hidem ⊢
  rw [PlanningSnapshot.mk.injEq] at hidem ⊢
  tauto

/-- **The snapshot of an expansion is its sealed canonical document**, where the document passes
the contract. -/
theorem buildPlanningSnapshot_eq {package : ImportPackage} {report : Json}
    {expansion : OrderExpansion} {cutoffAtUtc : String} {cutoff : Datetime}
    (hcutoff : parseUtcInstant cutoffAtUtc = .ok cutoff)
    (hpackage : validatedImport package = .ok (canonicalImportDocument package))
    (hreport : validatedQualityReport report (canonicalImportDocument package) = .ok ())
    (hexpansion : validateExpansion expansion (canonicalImportDocument package) report = .ok ())
    (h : Sealable (snapshotBase (canonicalImportDocument package) expansion cutoffAtUtc)) :
    buildPlanningSnapshot package report expansion cutoffAtUtc =
      .ok (sealSnapshot (canonicalSnapshotDocument
        (snapshotBase (canonicalImportDocument package) expansion cutoffAtUtc))) := by
  have hverified := h.verified
  obtain ⟨-, ⟨id, hvalid⟩, -⟩ := h
  simp only [buildPlanningSnapshot, hcutoff, hpackage, hreport, hexpansion, bind_eq_ok,
    exists_unit_iff, mapError_eq_ok, Except.ok.injEq, exists_eq_left', verifySnapshot_eq_ok]
  generalize snapshotBase (canonicalImportDocument package) expansion cutoffAtUtc = base
    at hverified hvalid ⊢
  have hsealed : sealSnapshot (canonicalSnapshotDocument base) =
      ⟨canonicalSnapshotDocument
          { base with
            snapshotId := snapshotIdForHash (snapshotHashFor base)
            snapshotHash := snapshotHashFor base },
        snapshotIdForHash (snapshotHashFor base), snapshotHashFor base, expectedPlane base⟩ := by
    rw [sealSnapshot, snapshotHashFor_canonical]
    rfl
  rw [hsealed] at hverified ⊢
  exact ⟨trivial, trivial, validate_sealed hvalid (isCanonicalId_snapshotIdForHash base), hverified,
    rfl⟩

end PlantNexus.Expansion
