import PlantNexus.Expansion.Exactness

/-! Building a snapshot from a package, its quality report and its expansion.

`buildPlanningSnapshot` binds the three to each other by their identities, seals the document of
the canonical records and the expanded operations, and verifies the result. `Built` says which
documents come out of this, and `Built.edges` which precedence edges they have. -/
namespace PlantNexus.Expansion
open Data Domain Time Snapshot Problem

/-! ### The package -/

def ImportPackage.members (package : ImportPackage) : List (String × Json) :=
  [("import_package_version", .str package.importPackageVersion),
   ("schema_set_version", .str package.schemaSetVersion),
   ("source_versions", textDict package.sourceVersions),
   ("normalization_rule_version", .str package.normalizationRuleVersion),
   ("canonicalization_version", .str package.canonicalizationVersion),
   ("synthetic", .bool package.synthetic), ("records", package.records.toJson)] ++
    optionalMember "synthetic_provenance" SyntheticProvenance.toJson package.syntheticProvenance

/-- `canonical_import_document` -/
def canonicalImportDocument (package : ImportPackage) : ImportPackage :=
  { package with
    sourceVersions := sortByKey Prod.fst package.sourceVersions
    records := canonicalRecords package.records }

/-- `import_package_id_for` -/
def importPackageIdFor (package : ImportPackage) : String :=
  "import-" ++ Sha256.hexdigest (Json.obj (canonicalImportDocument package).members).dumps

/-- `import_dataset_hash_for` -/
def importDatasetHashFor (package : ImportPackage) : String :=
  "sha256:" ++ Sha256.hexdigest (Json.obj
    (("package_id", .str package.packageId) :: (canonicalImportDocument package).members)).dumps

/-- `_validated_import` -/
def validatedImport (package : ImportPackage) : Except SnapshotError ImportPackage := do
  require (package.syntheticProvenance.isSome = package.synthetic)
    ⟨.invalidSnapshotInput, "import_package", "exact import-package.v2 field set",
      "Import fields do not match the versioned contract"⟩
  (validateImportPackageV2 package).mapError fun error =>
    (⟨.invalidSnapshotInput, error.field, "valid canonical Import v2",
      "Canonical Import validation failed"⟩ : SnapshotError)
  let canonical := canonicalImportDocument package
  require (canonical.canonicalizationVersion = "canonical-json.v1")
    ⟨.snapshotInputMismatch, "import_package.canonicalization_version", "canonical-json.v1",
      "Snapshot cannot reinterpret another canonicalization version"⟩
  require (canonical.packageId = importPackageIdFor canonical)
    ⟨.snapshotInputMismatch, "import_package.package_id",
      "P1 content-derived Import package ID",
      "Import package ID does not bind the supplied facts"⟩
  return canonical

/-! ### The quality report -/

/-- `validate_quality_report_contract` -/
def validateQualityReportContract (report : Json) : Except String Unit := do
  match report.get "errors", report.get "error_count" with
  | .arr errors, .int count => do
    require (count = errors.length) "error_count must equal len(errors)"
    require (report.get "status" = .str (if count = 0 then "PASS" else "FAIL"))
      "status must be PASS only for zero errors and FAIL otherwise"
    require (report.get "report_id" = .str (qualityReportId report))
      "report_id does not match report content"
  | .arr _, _ => .error "error_count must equal len(errors)"
  | _, _ => .error "errors must be an array"

/-- `_validated_quality_report` -/
def validatedQualityReport (report : Json) (package : ImportPackage) :
    Except SnapshotError Unit := do
  require ((∀ key ∈ report.keys, key ∈ reportFields) ∧ ∀ key ∈ reportFields, key ∈ report.keys)
    ⟨.qualityReportRequired, "import_quality_report", "exact import-quality-report.v1 field set",
      "A complete quality report is required"⟩
  (validateQualityReportContract report).mapError fun _ =>
    (⟨.qualityReportRequired, "import_quality_report",
      "content-derived import-quality-report.v1", "Quality report integrity validation failed"⟩ :
      SnapshotError)
  forEach
    (fun _ (expected : String × Json × String) =>
      require ((report.get expected.1).pyEq expected.2.1 = true)
        ⟨.qualityReportRequired, s!"import_quality_report.{expected.1}", expected.2.2,
          "A matching zero-error PASS report is required"⟩)
    (expectedReport package.packageId ++ [("errors", .arr [], "[]")])

/-! ### The snapshot -/

/-- `_validate_expansion`; the report is one that the constants of the reference agree with. -/
def validateExpansion (expansion : OrderExpansion) (package : ImportPackage) (report : Json) :
    Except SnapshotError Unit := do
  require (expansion.packageId = package.packageId ∧
      SameDict expansion.sourceVersions package.sourceVersions ∧
      expansion.normalizationRuleVersion = package.normalizationRuleVersion ∧
      expansion.canonicalizationVersion = package.canonicalizationVersion ∧
      expansion.synthetic = package.synthetic ∧
      expansion.syntheticProvenance = package.syntheticProvenance)
    ⟨.snapshotInputMismatch, "order_expansion.import_package", "the exact target Import provenance",
      "Expansion belongs to another Import or data plane"⟩
  require (.str expansion.reportId = report.get "report_id")
    ⟨.snapshotInputMismatch, "order_expansion.import_quality_report.report_id",
      "the exact target quality report", "Expansion quality provenance is mismatched"⟩

/-- The document of a package and its expansion, before it is sealed. -/
def snapshotBase (package : ImportPackage) (expansion : OrderExpansion) (cutoffAtUtc : String) :
    PlanningSnapshot :=
  let document : PlanningSnapshot :=
    { snapshotVersion := "planning-snapshot.v2"
      schemaSetVersion := "2.0.0"
      snapshotId := ""
      cutoffAtUtc
      sourceVersions := sortByKey Prod.fst package.sourceVersions
      ruleVersion := "data-quality-rules.v1"
      normalizationRuleVersion := package.normalizationRuleVersion
      expansionVersion := orderExpansionVersion
      canonicalizationVersion := "canonical-json.v1"
      importPackage := ⟨"import-package.v2", package.packageId, importDatasetHashFor package⟩
      importQualityReport := ⟨"import-quality-report.v1", expansion.reportId, "PASS"⟩
      snapshotHash := ""
      entityCounts := []
      synthetic := package.synthetic
      records := package.records
      operationInstances := expansion.operationInstances
      operationPrecedenceEdges := expansion.operationPrecedenceEdges
      syntheticProvenance := package.syntheticProvenance }
  { document with entityCounts := document.expectedCounts }

/-- `build_planning_snapshot` -/
def buildPlanningSnapshot (package : ImportPackage) (report : Json) (expansion : OrderExpansion)
    (cutoffAtUtc : String) : Except SnapshotError ImmutablePlanningSnapshot := do
  let _ ← (parseUtcInstant cutoffAtUtc).mapError fun _ =>
    (⟨.invalidSnapshotInput, "cutoff_at_utc", "second-precision UTC instant ending in Z",
      "Snapshot cutoff is invalid"⟩ : SnapshotError)
  let canonical ← validatedImport package
  validatedQualityReport report canonical
  validateExpansion expansion canonical report
  let base := snapshotBase canonical expansion cutoffAtUtc
  let hash := snapshotHashFor base
  let document := { base with snapshotId := snapshotIdForHash hash, snapshotHash := hash }
  (validatePlanningSnapshotV2 document).mapError fun error =>
    (⟨.invalidSnapshotInput, error.field, "valid planning-snapshot.v2",
      "Built Snapshot failed semantic validation"⟩ : SnapshotError)
  let snapshot : ImmutablePlanningSnapshot :=
    ⟨canonicalSnapshotDocument document, snapshotIdForHash hash, hash, expectedPlane document⟩
  verifySnapshot snapshot
  return snapshot

/-! ### Built documents -/

/-- A document that `expand_orders` and `build_planning_snapshot` produce. -/
def Built (document : PlanningSnapshot) : Prop :=
  ∃ package report version mode expansion cutoff snapshot,
    expandOrders package report version mode = .ok expansion ∧
    buildPlanningSnapshot package report expansion cutoff = .ok snapshot ∧
    document = snapshot.document

/-- What a build establishes. -/
theorem buildPlanningSnapshot_ok {package : ImportPackage} {report : Json}
    {expansion : OrderExpansion} {cutoff : String} {snapshot : ImmutablePlanningSnapshot}
    (h : buildPlanningSnapshot package report expansion cutoff = .ok snapshot) :
    Verified snapshot ∧
      snapshot.document.records = canonicalRecords (canonicalRecords package.records) ∧
      snapshot.document.operationInstances =
        sortByKey OperationInstance.operationInstanceId
          (expansion.operationInstances.map canonicalInstance) ∧
      snapshot.document.operationPrecedenceEdges =
        sortByKey OperationPrecedenceEdge.operationPrecedenceEdgeId
          expansion.operationPrecedenceEdges := by
  simp only [buildPlanningSnapshot, validatedImport, bind_eq_ok, exists_unit_iff, pure,
    Except.pure, Except.ok.injEq] at h
  obtain ⟨_, -, _, ⟨-, -, -, -, rfl⟩, -, -, -, hverify, rfl⟩ := h
  exact ⟨(verifySnapshot_eq_ok _).mp hverify, rfl, rfl, rfl⟩

/-- The edges of a document are those of the routes of its lots, its operations are of its lots,
and its lots of its orders. -/
structure ExpandedDocument (s : PlanningSnapshot) : Prop where
  edges : ∀ e, e ∈ s.operationPrecedenceEdges ↔
    ∃ lot ∈ s.records.productionLots, ∃ edge ∈ s.records.routingPrecedenceEdges,
      lotRoute s.records lot.productionLotId = some edge.routingVersionId ∧
      e = expandedEdge lot edge
  lots : ∀ o ∈ s.operationInstances,
    o.productionLotId ∈ s.records.productionLots.map ProductionLotRecord.productionLotId
  orders : ∀ lot ∈ s.records.productionLots, lot.productionOrderId ∈
    s.records.productionOrders.map ProductionOrderRecord.productionOrderId

/-- What is known of a document that was built. -/
structure BuiltDocument (s : PlanningSnapshot) : Prop extends ExpandedDocument s where
  valid : validatePlanningSnapshotV2 s = .ok ()
  ends : ∀ lot ∈ s.records.productionLots, ∀ edge ∈ s.records.routingPrecedenceEdges,
    lotRoute s.records lot.productionLotId = some edge.routingVersionId →
      ∃ predecessor ∈ s.operationInstances, ∃ successor ∈ s.operationInstances,
        predecessor.operationInstanceId =
          (expandedEdge lot edge).predecessorOperationInstanceId ∧
        successor.operationInstanceId = (expandedEdge lot edge).successorOperationInstanceId ∧
        (predecessor.productionLotId = lot.productionLotId ∧
          predecessor.productionOrderId = lot.productionOrderId) ∧
        successor.productionLotId = lot.productionLotId ∧
          successor.productionOrderId = lot.productionOrderId

theorem mem_canonical_lots {r : CanonicalRecords} {lot : ProductionLotRecord} :
    lot ∈ (canonicalRecords r).productionLots ↔ lot ∈ r.productionLots := mem_sortByKey ..

theorem mem_canonical_orders {r : CanonicalRecords} {order : ProductionOrderRecord} :
    order ∈ (canonicalRecords r).productionOrders ↔ order ∈ r.productionOrders := mem_sortByKey ..

theorem mem_canonical_edges {r : CanonicalRecords} {edge : RoutingPrecedenceEdgeRecord} :
    edge ∈ (canonicalRecords r).routingPrecedenceEdges ↔ edge ∈ r.routingPrecedenceEdges :=
  mem_sortByKey ..

/-- **A built document is expanded.** -/
theorem Built.document {s : PlanningSnapshot} (h : Built s) : BuiltDocument s := by
  obtain ⟨package, report, version, mode, expansion, cutoff, snapshot, hexpand, hbuild, rfl⟩ := h
  obtain ⟨hverified, hrecords, hinstances, hedges⟩ := buildPlanningSnapshot_ok hbuild
  have hfrom := expandOrders_ok hexpand
  have hr := hfrom.records
  have hr' := (validatePlanningSnapshotV2_ok hverified.valid).records
  have hlots : ∀ {lot}, lot ∈ snapshot.document.records.productionLots ↔
      lot ∈ package.records.productionLots := by
    intro lot
    rw [hrecords, mem_canonical_lots, mem_canonical_lots]
  have horders : ∀ {order}, order ∈ snapshot.document.records.productionOrders ↔
      order ∈ package.records.productionOrders := by
    intro order
    rw [hrecords, mem_canonical_orders, mem_canonical_orders]
  have hrouting : ∀ {edge}, edge ∈ snapshot.document.records.routingPrecedenceEdges ↔
      edge ∈ package.records.routingPrecedenceEdges := by
    intro edge
    rw [hrecords, mem_canonical_edges, mem_canonical_edges]
  have hroute : ∀ lotId routeId, lotRoute snapshot.document.records lotId = some routeId ↔
      lotRoute package.records lotId = some routeId := by
    intro lotId routeId
    simp only [lotRoute_eq_some_iff hr, lotRoute_eq_some_iff hr', hlots, horders]
  have hmem : ∀ {o}, o ∈ snapshot.document.operationInstances ↔
      ∃ x ∈ expansion.operationInstances, canonicalInstance x = o := by
    intro o
    rw [hinstances, mem_sortByKey, List.mem_map]
  refine ⟨⟨?_, ?_, ?_⟩, hverified.valid, ?_⟩
  · intro e
    rw [hedges, mem_sortByKey, hfrom.mem_edges_iff]
    simp only [hlots, hrouting, hroute]
  · intro o ho
    obtain ⟨x, hx, rfl⟩ := hmem.mp ho
    obtain ⟨order, demand, lot, operation, hplanned, rfl⟩ :=
      mem_plannedInstances.mp (hfrom.mem_instances.mp hx)
    exact List.mem_map.mpr ⟨lot, hlots.mpr hplanned.isLot, rfl⟩
  · intro lot hlot
    exact hr'.lot_order hlot
  · intro lot hlot edge hedge hversion
    obtain ⟨p, hp, q, hq, hends⟩ := hfrom.edge_ends (hlots.mp hlot) (hrouting.mp hedge)
      ((hroute _ _).mp hversion)
    exact ⟨canonicalInstance p, hmem.mpr ⟨p, hp, rfl⟩, canonicalInstance q,
      hmem.mpr ⟨q, hq, rfl⟩, hends⟩

end PlantNexus.Expansion
