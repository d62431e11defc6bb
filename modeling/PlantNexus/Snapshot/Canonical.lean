import PlantNexus.Data.Sha256
import PlantNexus.Snapshot.Contract

/-! Canonical order, content hash and integrity check of a snapshot.

An immutable snapshot is its decoded document with the identity it was stored under.
The stored bytes are canonical when the document is its own canonical form, so that is
how the byte comparison of `verify_snapshot` is written. -/
namespace PlantNexus.Snapshot
open Data Domain Problem

inductive SnapshotDataPlane where
  | production
  | simulation
deriving DecidableEq, Repr

inductive SnapshotErrorCode where
  | invalidSnapshotInput
  | qualityReportRequired
  | snapshotInputMismatch
  | hashMismatch
  | contentConflict
  | dataPlaneMismatch
deriving DecidableEq, Repr

structure SnapshotError where
  code : SnapshotErrorCode
  field : String
  expectedContract : String
  message : String
deriving DecidableEq, Repr

/-- `ImmutablePlanningSnapshot` -/
structure ImmutablePlanningSnapshot where
  document : PlanningSnapshot
  snapshotId : String
  snapshotHash : String
  dataPlane : SnapshotDataPlane

/-! ### Canonical order -/

/-- The records of `canonical_import_document`. -/
def canonicalRecords (r : CanonicalRecords) : CanonicalRecords :=
  { r with
    factories := sortByKey FactoryRecord.factoryId r.factories
    workshops := sortByKey WorkshopRecord.workshopId r.workshops
    productionLines := sortByKey ProductionLineRecord.productionLineId r.productionLines
    resourceGroups := sortByKey ResourceGroupRecord.resourceGroupId r.resourceGroups
    resources :=
      (sortByKey ResourceRecord.resourceId r.resources).map fun x =>
        { x with capabilities := sortByKey id x.capabilities }
    calendars :=
      (sortByKey CalendarRecord.calendarId r.calendars).map fun x =>
        { x with
          unavailableIntervals :=
            sortByKey UnavailableIntervalRecord.intervalId x.unavailableIntervals }
    products := sortByKey ProductRecord.productId r.products
    routingVersions := sortByKey RoutingVersionRecord.routingVersionId r.routingVersions
    routingOperations :=
      (sortByKey RoutingOperationRecord.routingOperationId r.routingOperations).map fun x =>
        { x with requiredCapabilities := sortByKey id x.requiredCapabilities }
    routingPrecedenceEdges :=
      sortByKey RoutingPrecedenceEdgeRecord.routingPrecedenceEdgeId r.routingPrecedenceEdges
    routingResourceOptions :=
      sortByKey RoutingResourceOptionRecord.routingResourceOptionId r.routingResourceOptions
    demandOrders := sortByKey DemandOrderRecord.demandOrderId r.demandOrders
    productionOrders := sortByKey ProductionOrderRecord.productionOrderId r.productionOrders
    productionLots := sortByKey ProductionLotRecord.productionLotId r.productionLots
    executionFacts := sortByKey ExecutionFactRecord.executionFactId r.executionFacts
    operationLocks := sortByKey OperationLockRecord.lockId r.operationLocks }

def canonicalInstance (o : OperationInstance) : OperationInstance :=
  { o with
    requiredCapabilities := sortByKey id o.requiredCapabilities
    lockIds := sortByKey id o.lockIds
    resourceOptions := sortByKey OperationResourceOption.routingResourceOptionId o.resourceOptions }

/-- `canonical_snapshot_document`; the dictionaries are written in key order. -/
def canonicalSnapshotDocument (s : PlanningSnapshot) : PlanningSnapshot :=
  { s with
    sourceVersions := sortByKey Prod.fst s.sourceVersions
    entityCounts := sortByKey Prod.fst s.entityCounts
    records := canonicalRecords s.records
    operationInstances :=
      sortByKey OperationInstance.operationInstanceId
        (s.operationInstances.map canonicalInstance)
    operationPrecedenceEdges :=
      sortByKey OperationPrecedenceEdge.operationPrecedenceEdgeId s.operationPrecedenceEdges }

/-! ### Identity -/

/-- `snapshot_hash_for`; the projection leaves out the identity itself. -/
def snapshotHashFor (s : PlanningSnapshot) : String :=
  "sha256:" ++
    Sha256.hexdigest (Json.obj (canonicalSnapshotDocument s).semanticMembers).dumps

/-- `value.removeprefix("sha256:")` -/
def removeHashPrefix (value : String) : String :=
  if "sha256:".toList.isPrefixOf value.toList then String.ofList (value.toList.drop 7) else value

/-- `snapshot_id_for_hash` of a computed hash. -/
def snapshotIdForHash (hash : String) : String := "planning-snapshot-v2-" ++ removeHashPrefix hash

/-- The identity of a document does not enter its hash. -/
theorem snapshotHashFor_identity (s : PlanningSnapshot) (id hash : String) :
    snapshotHashFor { s with snapshotId := id, snapshotHash := hash } = snapshotHashFor s := rfl

def expectedPlane (s : PlanningSnapshot) : SnapshotDataPlane :=
  if s.synthetic then .simulation else .production

/-- `verify_snapshot` -/
def verifySnapshot (snapshot : ImmutablePlanningSnapshot) : Except SnapshotError Unit := do
  let document := snapshot.document
  require (document.syntheticProvenance.isSome = document.synthetic)
    ⟨.invalidSnapshotInput, "canonical_bytes", "exact planning-snapshot.v2 field set",
      "Persisted Snapshot contains missing or unknown root fields"⟩
  require (canonicalSnapshotDocument document = document)
    ⟨.hashMismatch, "canonical_bytes", "byte-exact canonical-json.v1",
      "Stored bytes are not canonical"⟩
  match validatePlanningSnapshotV2 document with
  | .error error =>
    .error ⟨.invalidSnapshotInput, error.field, "valid planning-snapshot.v2",
      "Snapshot semantic validation failed"⟩
  | .ok () => do
    let expectedHash := snapshotHashFor document
    let expectedId := snapshotIdForHash expectedHash
    require (document.snapshotHash = expectedHash ∧ snapshot.snapshotHash = expectedHash)
      ⟨.hashMismatch, "snapshot_hash", "SHA-256 of snapshot-hash-projection.v1",
        "Snapshot hash does not match semantic content"⟩
    require (document.snapshotId = expectedId ∧ snapshot.snapshotId = expectedId)
      ⟨.hashMismatch, "snapshot_id", "PlanningSnapshot v2 content-derived ID",
        "Snapshot ID does not match its content hash"⟩
    require (snapshot.dataPlane = expectedPlane document)
      ⟨.dataPlaneMismatch, "data_plane",
        (if document.synthetic then "simulation" else "production"),
        "Snapshot data plane differs from its synthetic marker"⟩

/-- What a verified snapshot is known to satisfy. -/
structure Verified (snapshot : ImmutablePlanningSnapshot) : Prop where
  provenance : snapshot.document.syntheticProvenance.isSome = snapshot.document.synthetic
  canonical : canonicalSnapshotDocument snapshot.document = snapshot.document
  valid : validatePlanningSnapshotV2 snapshot.document = .ok ()
  documentHash : snapshot.document.snapshotHash = snapshotHashFor snapshot.document
  hash : snapshot.snapshotHash = snapshotHashFor snapshot.document
  documentId :
    snapshot.document.snapshotId = snapshotIdForHash (snapshotHashFor snapshot.document)
  id : snapshot.snapshotId = snapshotIdForHash (snapshotHashFor snapshot.document)
  plane : snapshot.dataPlane = expectedPlane snapshot.document

theorem verifySnapshot_eq_ok (snapshot : ImmutablePlanningSnapshot) :
    verifySnapshot snapshot = .ok () ↔ Verified snapshot := by
  simp only [verifySnapshot, bind_unit_eq_ok, require_eq_ok]
  cases hvalid : validatePlanningSnapshotV2 snapshot.document with
  | error e =>
    constructor
    · intro hall
      obtain ⟨_, _, h⟩ := hall
      cases h
    · intro h
      have := h.valid
      rw [hvalid] at this
      cases this
  | ok u =>
    simp only [bind_unit_eq_ok, require_eq_ok]
    constructor
    · intro hall
      obtain ⟨hp, hc, ⟨hd, hh⟩, ⟨hdi, hi⟩, hplane⟩ := hall
      exact ⟨hp, hc, hvalid, hd, hh, hdi, hi, hplane⟩
    · intro h
      exact ⟨h.provenance, h.canonical, ⟨h.documentHash, h.hash⟩, ⟨h.documentId, h.id⟩, h.plane⟩

/-! ### Sealing -/

theorem removeHashPrefix_append (digest : String) :
    removeHashPrefix ("sha256:" ++ digest) = digest := by
  have hsplit : ("sha256:" ++ digest).toList =
      ['s', 'h', 'a', '2', '5', '6', ':'] ++ digest.toList := by
    rw [String.toList_append]
    rfl
  have hleading : "sha256:".toList.isPrefixOf
      (['s', 'h', 'a', '2', '5', '6', ':'] ++ digest.toList) = true :=
    List.isPrefixOf_iff_prefix.mpr (List.prefix_append _ _)
  rw [removeHashPrefix, hsplit, if_pos hleading]
  exact String.ofList_toList

/-- A digest behind a plain text is a canonical identifier. -/
theorem isCanonicalId_digest (leading text : String) (hleading : leading.length ≤ 192)
    (hplain : leading.toList.all
      (fun c => !(isSpace c || c.toNat < 32 || c.toNat == 127)) = true) :
    isCanonicalId (leading ++ Sha256.hexdigest text) = true := by
  have hhex : ∀ n < 16, (!(isSpace (Nat.digitChar n) || (Nat.digitChar n).toNat < 32 ||
      (Nat.digitChar n).toNat == 127)) = true := by decide
  have hlength : (leading ++ Sha256.hexdigest text).length = leading.length + 64 := by
    rw [String.length_append, Sha256.length_hexdigest]
  have hne : leading ++ Sha256.hexdigest text ≠ "" := by
    intro h
    rw [h, String.length_empty] at hlength
    omega
  have hchars : (leading ++ Sha256.hexdigest text).toList.all
      (fun c => !(isSpace c || c.toNat < 32 || c.toNat == 127)) = true := by
    rw [String.toList_append, List.all_append, hplain, Bool.true_and, List.all_eq_true]
    intro c hc
    obtain ⟨n, hn, heq⟩ := Sha256.mem_hexdigest text c hc
    rw [heq]
    exact hhex n hn
  rw [isCanonicalId, hchars, hlength, Bool.and_true, Bool.and_eq_true, decide_eq_true_eq,
    decide_eq_true_eq]
  exact ⟨hne, by omega⟩

/-- The content-derived identity of a document is a canonical identifier. -/
theorem isCanonicalId_snapshotIdForHash (s : PlanningSnapshot) :
    isCanonicalId (snapshotIdForHash (snapshotHashFor s)) = true := by
  have hid := congrArg ("planning-snapshot-v2-" ++ ·) (removeHashPrefix_append
    (Sha256.hexdigest (Json.obj (canonicalSnapshotDocument s).semanticMembers).dumps))
  exact (congrArg isCanonicalId hid).trans
    (isCanonicalId_digest "planning-snapshot-v2-" _ (by decide) (by decide))

/-- The document stored under its content-derived identity. -/
def sealSnapshot (s : PlanningSnapshot) : ImmutablePlanningSnapshot :=
  let hash := snapshotHashFor s
  let id := snapshotIdForHash hash
  ⟨{ s with snapshotId := id, snapshotHash := hash }, id, hash, expectedPlane s⟩

theorem identifier_eq_ok (value field : String) :
    identifier value field = .ok () ↔ isCanonicalId value = true := by
  simp only [identifier, text, bind_unit_eq_ok, require_eq_ok, isCanonicalId, Bool.and_eq_true,
    decide_eq_true_eq]
  tauto

/-- The identity enters the contract of a document only as an identifier. -/
theorem validate_identity (s : PlanningSnapshot) (id hash : String)
    (hs : validatePlanningSnapshotV2 s = .ok ()) (hid : isCanonicalId id = true) :
    validatePlanningSnapshotV2 { s with snapshotId := id, snapshotHash := hash } = .ok () := by
  simp only [validatePlanningSnapshotV2, bind_unit_eq_ok, identifier_eq_ok] at hs ⊢
  exact ⟨hs.1, hid, hs.2.2⟩

/-- **A canonical document that passes the contract is verified once it is sealed.** -/
theorem verified_seal (s : PlanningSnapshot)
    (hprovenance : s.syntheticProvenance.isSome = s.synthetic)
    (hcanonical : canonicalSnapshotDocument s = s)
    (hvalid : validatePlanningSnapshotV2 s = .ok ()) : Verified (sealSnapshot s) where
  provenance := hprovenance
  canonical := by
    simp only [sealSnapshot]
    rw [canonicalSnapshotDocument] at hcanonical ⊢
    rw [PlanningSnapshot.mk.injEq] at hcanonical ⊢
    tauto
  valid := validate_identity s _ _ hvalid (isCanonicalId_snapshotIdForHash s)
  documentHash := rfl
  hash := rfl
  documentId := rfl
  id := rfl
  plane := rfl

/-! ### A plain document -/

/-- The record of an identity in the one source system of the plain document. -/
def plainSource (recordId : String) : SourceReference := ⟨"ERP", "1", recordId⟩

/-- One machine, one routing operation on it and one order with a lot for every name. -/
def plainRecords (seconds : Int) (lots : List String) : CanonicalRecords where
  canonicalRecordsVersion := "canonical-records.v1"
  factories := [⟨"F1", "F1", "UTC", plainSource "F1"⟩]
  workshops := [⟨"W1", "W1", "F1", plainSource "W1"⟩]
  productionLines := [⟨"L1", "L1", "W1", plainSource "L1"⟩]
  resourceGroups := [⟨"G1", "G1", "L1", plainSource "G1"⟩]
  resources := [⟨"R1", "R1", "MACHINE", "AVAILABLE", "G1", "CAL1", [], plainSource "R1"⟩]
  calendars := [⟨"CAL1", "UTC", [], plainSource "CAL1"⟩]
  products := [⟨"PR1", "PR1", "EA", plainSource "PR1"⟩]
  routingVersions := [⟨"RV1", "RV1", "1", "PR1", plainSource "RV1"⟩]
  routingOperations := [⟨"RO1", "RV1", "RO1", [], plainSource "RO1"⟩]
  routingPrecedenceEdges := []
  routingResourceOptions :=
    [⟨"OPT1", "RO1", "R1", "EA", 0, seconds, seconds, "STANDARD", "1", plainSource "OPT1"⟩]
  demandOrders := [⟨"D1", "PR1", .int 1, "EA", "2026-01-01T04:00:00Z", plainSource "D1"⟩]
  productionOrders :=
    [⟨"PO1", "D1", "RV1", .int 1, "EA", "2026-01-01T00:00:00Z", "2026-01-01T00:00:00Z",
      plainSource "PO1"⟩]
  productionLots := lots.map fun lot => ⟨lot, "PO1", .int 1, "EA", plainSource lot⟩
  executionFacts := []
  operationLocks := []

/-- The instance of the plain routing operation for a lot. -/
def plainInstance (seconds : Int) (instanceId lot : String) : OperationInstance where
  operationInstanceId := instanceId
  demandOrderId := "D1"
  productionOrderId := "PO1"
  productionLotId := lot
  routingVersionId := "RV1"
  routingOperationId := "RO1"
  status := .notStarted
  quantity := .int 1
  quantityUnit := "EA"
  dueAtUtc := "2026-01-01T04:00:00Z"
  releaseAtUtc := "2026-01-01T00:00:00Z"
  materialReadyAtUtc := "2026-01-01T00:00:00Z"
  requiredCapabilities := []
  resourceOptions := [⟨"OPT1", "R1", 0, seconds, seconds, "STANDARD", "1"⟩]
  lockIds := []
  executionFactId := none

/-- A simulation document of the given records and instances. -/
def plainSnapshot (records : CanonicalRecords) (instances : List OperationInstance) :
    PlanningSnapshot :=
  let document : PlanningSnapshot :=
    { snapshotVersion := "planning-snapshot.v2"
      schemaSetVersion := "2.0.0"
      snapshotId := "S1"
      cutoffAtUtc := "2026-01-01T00:00:00Z"
      sourceVersions := [("ERP", "1")]
      ruleVersion := "1"
      normalizationRuleVersion := "1"
      expansionVersion := "1"
      canonicalizationVersion := "canonical-json.v1"
      importPackage := ⟨"import-package.v2", "IP1", "sha256:0"⟩
      importQualityReport := ⟨"import-quality-report.v1", "IQ1", "PASS"⟩
      snapshotHash := ""
      entityCounts := []
      synthetic := true
      records := records
      operationInstances := instances
      operationPrecedenceEdges := []
      syntheticProvenance := some ⟨"SC1", "1", 1, "FP1", "1", "GEN1", "1"⟩ }
  { document with entityCounts := sortByKey Prod.fst document.expectedCounts }

section
variable {records : CanonicalRecords} {instances : List OperationInstance}

theorem plainSnapshot_counts (records : CanonicalRecords) (instances : List OperationInstance) :
    (plainSnapshot records instances).entityCounts =
      sortByKey Prod.fst (plainSnapshot records instances).expectedCounts := by
  simp only [plainSnapshot, PlanningSnapshot.expectedCounts]

/-- A plain document passes the contract when its records and its instances do. -/
theorem plainSnapshot_valid (hrecords : validateCanonicalRecords records [("ERP", "1")] = .ok ())
    (hinstances : checkInstances records instances = .ok ()) :
    validatePlanningSnapshotV2 (plainSnapshot records instances) = .ok () := by
  have hsame : SameDict (plainSnapshot records instances).entityCounts
      (plainSnapshot records instances).expectedCounts := by
    rw [SameDict, plainSnapshot_counts, sortByKey_sortByKey]
  obtain ⟨d, hd⟩ : ∃ d, utc "2026-01-01T00:00:00Z" "cutoff_at_utc" = .ok d := by
    have hok : (utc "2026-01-01T00:00:00Z" "cutoff_at_utc").isOk = true := by decide +kernel
    cases hread : utc "2026-01-01T00:00:00Z" "cutoff_at_utc" with
    | error e =>
      rw [hread] at hok
      cases hok
    | ok d => exact ⟨d, rfl⟩
  have hsources : validateSourceVersions [("ERP", "1")] = .ok () := by decide +kernel
  have hsynthetic : validateSyntheticBoundary true (some ⟨"SC1", "1", 1, "FP1", "1", "GEN1", "1"⟩)
      "synthetic_provenance" = .ok () := by decide +kernel
  have hid : identifier "S1" "snapshot_id" = .ok () := by decide +kernel
  simp only [validatePlanningSnapshotV2, bind_eq_ok, exists_unit_iff, require_eq_ok]
  exact ⟨⟨rfl, rfl⟩, hid, d, hd, hsources, hsynthetic, hrecords, hsame, hinstances, rfl⟩

/-- A plain document is canonical when its records and its instances are. -/
theorem plainSnapshot_canonical (hrecords : canonicalRecords records = records)
    (hinstances : sortByKey OperationInstance.operationInstanceId
      (instances.map canonicalInstance) = instances) :
    canonicalSnapshotDocument (plainSnapshot records instances) =
      plainSnapshot records instances := by
  have hsorted : sortByKey Prod.fst (plainSnapshot records instances).entityCounts =
      (plainSnapshot records instances).entityCounts := by
    rw [plainSnapshot_counts, sortByKey_sortByKey]
  rw [canonicalSnapshotDocument, hsorted]
  simp only [plainSnapshot, hrecords, hinstances]
  rfl

end

end PlantNexus.Snapshot
