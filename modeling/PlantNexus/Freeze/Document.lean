import PlantNexus.Freeze.Policy

/-! The effective-lock projection as a document, and the projections of snapshot facts
that the projector and the precheck write with the same text. -/
namespace PlantNexus.Freeze
open Data Time Domain Snapshot

/-! ### Facts of the snapshot -/

/-- `_fact_evidence` -/
structure FactEvidence where
  status : FactStatus
  observedAtUtc : String
  actualStartAtUtc : String
  source : SourceReference
  actualEndAtUtc : Option String
  remainingQuantity : Option Quantity
  remainingSeconds : Option Int
  completedQuantity : Option Quantity
  quantityUnit : String
deriving DecidableEq, Repr

/-- The fields a fact of a verified snapshot has are read as they stand. -/
def factEvidence (fact : ExecutionFactRecord) : FactEvidence where
  status := fact.status
  observedAtUtc := fact.observedAtUtc
  actualStartAtUtc := fact.actualStartAtUtc.getD ""
  source := fact.source
  actualEndAtUtc := fact.actualEndAtUtc
  remainingQuantity := fact.remainingQuantity
  remainingSeconds := fact.remainingSeconds
  completedQuantity := fact.completedQuantity
  quantityUnit := fact.quantityUnit

/-- `_historical_anchor` -/
def historicalAnchor (operationId : String) (fact : ExecutionFactRecord) :
    Problem.HistoricalCompletionAnchor where
  operationId := operationId
  executionFactId := fact.executionFactId
  resourceId := fact.resourceId.getD ""
  actualStartAtUtc := fact.actualStartAtUtc.getD ""
  actualEndAtUtc := fact.actualEndAtUtc.getD ""
  sourceSystem := fact.source.sourceSystem
  sourceVersion := fact.source.sourceVersion
  sourceRecordId := fact.source.sourceRecordId

/-- `_snapshot_option_projection` and `_snapshot_options` -/
def snapshotOptionProjection (o : OperationInstance) : List Problem.ResourceOption :=
  sortByKey Problem.ResourceOption.resourceId
    (o.resourceOptions.map fun option =>
      ⟨option.resourceId, option.setupSeconds, option.cycleSecondsPerUnit,
        option.finalDurationSeconds, option.durationSource, option.sourceVersion⟩)

/-- The five shared fields of an operation and its instance are equal. -/
def SharedFieldsEqual (operation : Problem.OperationInstance) (o : OperationInstance) : Prop :=
  operation.demandOrderId = o.demandOrderId ∧ operation.status.text = o.status.text ∧
    operation.releaseAtUtc = o.releaseAtUtc ∧
    operation.materialReadyAtUtc = o.materialReadyAtUtc ∧
    operation.requiredCapabilities = o.requiredCapabilities

instance (operation : Problem.OperationInstance) (o : OperationInstance) :
    Decidable (SharedFieldsEqual operation o) := by
  unfold SharedFieldsEqual
  infer_instance

/-- An active lock of an instance as the problem carries it. -/
def activeLock (operationId : String) (lock : OperationLockRecord) : Problem.OperationLock where
  lockId := lock.lockId
  operationId := operationId
  lockType := lock.lockType
  resourceId := lock.resourceId
  startAtUtc := lock.startAtUtc
  endAtUtc := lock.endAtUtc
  sourceSystem := lock.source.sourceSystem
  sourceVersion := lock.source.sourceVersion
  sourceRecordId := lock.source.sourceRecordId

/-- Equality of sets. -/
def SameSet (xs ys : List String) : Prop := (∀ x ∈ xs, x ∈ ys) ∧ ∀ y ∈ ys, y ∈ xs

instance (xs ys : List String) : Decidable (SameSet xs ys) := inferInstanceAs (Decidable (_ ∧ _))

/-- The completed predecessors of active operations. -/
def requiredAnchorIds (edges : List OperationPrecedenceEdge) (completed operations : List String) :
    List String :=
  ((edges.filter fun e =>
    e.predecessorOperationInstanceId ∈ completed ∧
      e.successorOperationInstanceId ∈ operations).map
    OperationPrecedenceEdge.predecessorOperationInstanceId).dedup

/-! ### Protections -/

/-- A resource and an interval, as texts. -/
structure ProtectedTuple where
  resourceId : String
  startAtUtc : String
  endAtUtc : String
deriving DecidableEq, Repr

/-- `_protection_document`, `_lock_document` and `_protection` -/
structure Protection where
  protectionKind : String
  protectionPriority : Int
  referenceId : String
  operationId : String
  tuple : ProtectedTuple
  source : Option SourceReference
  factEvidence : Option FactEvidence
deriving DecidableEq, Repr

def completedProtection (operationId : String) (fact : ExecutionFactRecord)
    (executionFactId : String) : Protection :=
  ⟨"COMPLETED_EXECUTION_FACT", 1, executionFactId, operationId,
    ⟨fact.resourceId.getD "", fact.actualStartAtUtc.getD "", fact.actualEndAtUtc.getD ""⟩,
    none, some (factEvidence fact)⟩

def runningProtection (operationId : String) (tuple : ProtectedTuple)
    (fact : ExecutionFactRecord) (executionFactId : String) : Protection :=
  ⟨"RUNNING_EXECUTION_FACT", 1, executionFactId, operationId, tuple, none,
    some (factEvidence fact)⟩

def lockTuple (lock : Problem.OperationLock) : ProtectedTuple :=
  ⟨lock.resourceId, lock.startAtUtc, lock.endAtUtc⟩

def lockProtection (kind : String) (priority : Int) (lock : Problem.OperationLock) : Protection :=
  ⟨kind, priority, lock.lockId, lock.operationId, lockTuple lock,
    some ⟨lock.sourceSystem, lock.sourceVersion, lock.sourceRecordId⟩, none⟩

/-! ### The base schedule -/

/-- An assignment of the base schedule. Its resource is a text once a check has read it;
its last two fields are not read here. -/
structure BaseAssignment where
  operationId : String
  resourceId : Json
  startTick : Int
  endTick : Int
  durationTicks : Int
  startAtUtc : String
  endAtUtc : String
  durationSeconds : Int
  lockIds : Json
  executionFactIds : Json

def BaseAssignment.tuple (a : BaseAssignment) : ProtectedTuple :=
  ⟨a.resourceId.text, a.startAtUtc, a.endAtUtc⟩

/-- Read the assignments one after another; each sees its position and the operations
read before it. -/
def indexAssignments (read : Nat → List String → Json → Except ε BaseAssignment) :
    Nat → List String → List Json → Except ε (List BaseAssignment)
  | _, _, [] => .ok []
  | index, seen, raw :: rest => do
    let assignment ← read index seen raw
    let others ← indexAssignments read (index + 1) (assignment.operationId :: seen) rest
    return assignment :: others

/-- An assignment from the values its checks have read. -/
def readAssignment (raw : Json) (operationId : String)
    (durationSeconds startTick endTick durationTicks : Int) : BaseAssignment where
  operationId := operationId
  resourceId := raw.get "resource_id"
  startTick := startTick
  endTick := endTick
  durationTicks := durationTicks
  startAtUtc := (raw.get "start_at_utc").text
  endAtUtc := (raw.get "end_at_utc").text
  durationSeconds := durationSeconds
  lockIds := raw.get "lock_ids"
  executionFactIds := raw.get "execution_fact_ids"

def assignmentFields : List String :=
  ["operation_id", "resource_id", "start_tick", "end_tick", "duration_ticks", "start_at_utc",
   "end_at_utc", "duration_seconds", "lock_ids", "execution_fact_ids"]

/-- The reference to the base schedule, as far as its contract makes it text. -/
structure BaseReference where
  scheduleVersionVersion : String
  scheduleVersionId : Json
  contentFingerprint : String

def baseReference (base : Json) : BaseReference :=
  ⟨(base.get "schedule_version_version").text, base.get "schedule_version_id",
    (base.get "content_fingerprint").text⟩

/-! ### Derived locks -/

/-- `_derived_lock`, with the references it repeats. -/
structure DerivedLock where
  lockId : String
  operationId : String
  tuple : ProtectedTuple
  sourceRecordId : String
  base : BaseReference
  problemHash : String
  freezePolicyFingerprint : String

def effectiveLockProjectionVersion : String := "effective-lock-projection.v1"
def freezeDerivedLockVersion : String := "freeze-derived-lock.v1"

def derivedLock (operationId : String) (tuple : ProtectedTuple) (base : BaseReference)
    (problemHash freezePolicyFingerprint freezePolicyId : String) : DerivedLock :=
  let identityInput : Json :=
    .obj
      [("freeze_derived_lock_version", .str freezeDerivedLockVersion),
       ("base_schedule_version",
         .obj
           [("schedule_version_version", .str base.scheduleVersionVersion),
            ("schedule_version_id", base.scheduleVersionId),
            ("content_fingerprint", .str base.contentFingerprint)]),
       ("problem_hash", .str problemHash),
       ("freeze_policy_fingerprint", .str freezePolicyFingerprint),
       ("operation_id", .str operationId), ("resource_id", .str tuple.resourceId),
       ("start_at_utc", .str tuple.startAtUtc), ("end_at_utc", .str tuple.endAtUtc)]
  ⟨"freeze-lock-" ++ removeHashPrefix (contractFingerprint identityInput), operationId, tuple,
    freezePolicyId, base, problemHash, freezePolicyFingerprint⟩

/-! ### The document -/

structure EffectiveLocks where
  base : BaseReference
  snapshotId : String
  snapshotHash : String
  problemHash : String
  resolved : ResolvedFreezePolicy
  baseAssignmentOperationIds : List String
  newActiveOperationIds : List String
  completedOperationIds : List String
  completedProtections : List Protection
  addedOperationIds : List String
  outsideFreezeOperationIds : List String
  runningProtections : List Protection
  explicitHardLocks : List Protection
  freezeDerivedHardLocks : List DerivedLock
  softLocks : List Protection

def FactEvidence.toJson (e : FactEvidence) : Json :=
  .obj
    ([("status", .str e.status.text), ("observed_at_utc", .str e.observedAtUtc),
      ("actual_start_at_utc", .str e.actualStartAtUtc), ("source", e.source.toJson)] ++
      Problem.optionalMember "actual_end_at_utc" .str e.actualEndAtUtc ++
      Problem.optionalMember "remaining_quantity" Quantity.toJson e.remainingQuantity ++
      Problem.optionalMember "remaining_seconds" .int e.remainingSeconds ++
      Problem.optionalMember "completed_quantity" Quantity.toJson e.completedQuantity ++
      [("quantity_unit", .str e.quantityUnit)])

def Protection.toJson (p : Protection) : Json :=
  .obj
    ([("protection_kind", .str p.protectionKind),
      ("protection_priority", .int p.protectionPriority), ("reference_id", .str p.referenceId),
      ("operation_id", .str p.operationId), ("resource_id", .str p.tuple.resourceId),
      ("start_at_utc", .str p.tuple.startAtUtc), ("end_at_utc", .str p.tuple.endAtUtc)] ++
      Problem.optionalMember "source" SourceReference.toJson p.source ++
      Problem.optionalMember "fact_evidence" FactEvidence.toJson p.factEvidence)

def DerivedLock.toJson (l : DerivedLock) : Json :=
  .obj
    [("freeze_derived_lock_version", .str freezeDerivedLockVersion), ("lock_id", .str l.lockId),
     ("lock_type", .str "HARD_LOCK"), ("operation_id", .str l.operationId),
     ("resource_id", .str l.tuple.resourceId), ("start_at_utc", .str l.tuple.startAtUtc),
     ("end_at_utc", .str l.tuple.endAtUtc),
     ("source",
       (SourceReference.mk "plantnexus-freeze-projector" effectiveLockProjectionVersion
         l.sourceRecordId).toJson),
     ("base_schedule_version_id", l.base.scheduleVersionId),
     ("base_content_fingerprint", .str l.base.contentFingerprint),
     ("problem_hash", .str l.problemHash),
     ("freeze_policy_fingerprint", .str l.freezePolicyFingerprint)]

/-- `policy_reference` -/
def ResolvedFreezePolicy.policyReference (r : ResolvedFreezePolicy) : Json :=
  .obj
    [("planning_policy_version", .str "planning-policy.v2"), ("policy_id", .str r.policyId),
     ("policy_revision", .str r.policyRevision),
     ("policy_fingerprint", .str r.policyFingerprint)]

/-- `ResolvedFreezePolicy.document` -/
def ResolvedFreezePolicy.document (r : ResolvedFreezePolicy) (effectiveLockIds : List String) :
    Json :=
  .obj
    [("freeze_policy_version", .str freezePolicyVersion),
     ("freeze_policy_id", .str r.freezePolicyId),
     ("freeze_policy_revision", .str r.freezePolicyRevision),
     ("freeze_policy_fingerprint", .str r.freezePolicyFingerprint),
     ("source", r.source.toJson), ("window_seconds", .int r.windowSeconds),
     ("effective_from_utc", .str r.effectiveFromUtc),
     ("effective_until_utc", .str r.effectiveUntilUtc),
     ("interval_semantics", .str freezeIntervalSemantics),
     ("effective_lock_ids", .strings effectiveLockIds)]

namespace EffectiveLocks
variable (d : EffectiveLocks)

def protections (ps : List Protection) : Json := .arr (ps.map Protection.toJson)

/-- The fifteen fields that the precheck compares, with the check each belongs to. -/
def checkedFields : List (String × String × Json) :=
  [("FREEZE-LINEAGE", "base_schedule_version",
     .obj
       [("schedule_version_version", .str d.base.scheduleVersionVersion),
        ("schedule_version_id", d.base.scheduleVersionId), ("state", .str "PUBLISHED"),
        ("content_fingerprint", .str d.base.contentFingerprint)]),
   ("FREEZE-LINEAGE", "new_snapshot",
     .obj
       [("document_version", .str "planning-snapshot.v2"), ("artifact_id", .str d.snapshotId),
        ("fingerprint", .str d.snapshotHash)]),
   ("FREEZE-LINEAGE", "new_problem",
     .obj
       [("document_version", .str "planning-problem.v2"),
        ("artifact_id", .str ("planning-problem-v2-" ++ removeHashPrefix d.problemHash)),
        ("fingerprint", .str d.problemHash)]),
   ("FREEZE-POLICY", "planning_policy", d.resolved.policyReference),
   ("FREEZE-POLICY", "freeze_resolution",
     d.resolved.document (d.freezeDerivedHardLocks.map DerivedLock.lockId)),
   ("FREEZE-COMPLETENESS", "base_assignment_operation_ids",
     .strings d.baseAssignmentOperationIds),
   ("FREEZE-COMPLETENESS", "new_active_operation_ids", .strings d.newActiveOperationIds),
   ("C-007", "completed_operation_ids", .strings d.completedOperationIds),
   ("C-007", "completed_protections", protections d.completedProtections),
   ("FREEZE-COMPLETENESS", "added_operation_ids", .strings d.addedOperationIds),
   ("FREEZE-BOUNDARY", "outside_freeze_operation_ids", .strings d.outsideFreezeOperationIds),
   ("C-007", "running_protections", protections d.runningProtections),
   ("C-008", "explicit_hard_locks", protections d.explicitHardLocks),
   ("C-008", "freeze_derived_hard_locks",
     .arr (d.freezeDerivedHardLocks.map DerivedLock.toJson)),
   ("FREEZE-SOFT-INPUT", "soft_locks", protections d.softLocks)]

def header : List (String × Json) :=
  [("effective_lock_projection_version", .str effectiveLockProjectionVersion),
   ("canonicalization_version", .str "canonical-json.v1"), ("data_plane", .str "SIMULATION")]

/-- The document before its fingerprint is added. -/
def membersWithoutSelf : List (String × Json) :=
  header ++ d.checkedFields.map fun f => (f.2.1, f.2.2)

/-- `projection_fingerprint` -/
def projectionFingerprint : String := contractFingerprint (.obj d.membersWithoutSelf)

/-- `EffectiveLockProjection.document` -/
def members : List (String × Json) :=
  d.membersWithoutSelf ++ [("projection_fingerprint", .str d.projectionFingerprint)]

end EffectiveLocks

end PlantNexus.Freeze
