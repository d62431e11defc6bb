import PlantNexus.Execution.Ledger
import PlantNexus.Execution.Projection

/-! Committing projections under a checkpoint.

The checkpoint of a scope names the snapshot that its stream has been projected to and the last
event in it. One call reads the base, the checkpoint and the stream in one transaction, and then
either finds that nothing is left to do, or projects the tail of the stream and writes the new
snapshot, the checkpoint and an audit record together. -/
namespace PlantNexus.Execution
open Data Domain Time Snapshot

deriving instance DecidableEq for ImmutablePlanningSnapshot

/-! ### Positions in texts -/

/-- Digits, with single underscores between them. -/
def isDigitRun : List Char → Bool
  | [] => false
  | [c] => c.isDigit
  | c :: '_' :: d :: rest => c.isDigit && isDigitRun (d :: rest)
  | c :: rest => c.isDigit && isDigitRun rest

def pyNat (cs : List Char) : Option Nat :=
  if isDigitRun cs then some (Nat.ofDigitChars 10 (cs.filter (· ≠ '_')) 0) else none

/-- `int(text)` -/
def pyInt (cs : List Char) : Option Int :=
  match ((cs.dropWhile isSpace).reverse.dropWhile isSpace).reverse with
  | '-' :: digits => (pyNat digits).map fun n => -(n : Int)
  | '+' :: digits => (pyNat digits).map Int.ofNat
  | digits => (pyNat digits).map Int.ofNat

/-- `text.removeprefix(start)` -/
def removePrefix (start cs : List Char) : List Char :=
  if start.isPrefixOf cs then cs.drop start.length else cs

/-! ### Snapshots -/

/-- `_find_by_id` -/
def findSnapshot (snapshots : List ImmutablePlanningSnapshot) (id : String) :
    Option ImmutablePlanningSnapshot :=
  snapshots.find? fun stored => stored.snapshotId = id

/-- `put_in_transaction` of snapshots: the rows after it, and whether it was a repetition. -/
def putSnapshot (snapshots : List ImmutablePlanningSnapshot)
    (snapshot : ImmutablePlanningSnapshot) :
    Except SnapshotError (List ImmutablePlanningSnapshot × Bool) := do
  verifySnapshot snapshot
  require (snapshot.dataPlane = .simulation)
    ⟨.dataPlaneMismatch, "data_plane", "simulation",
      "Snapshot does not belong to this repository data plane"⟩
  let existing := (snapshots.find? fun stored => stored.snapshotHash = snapshot.snapshotHash).or
    (findSnapshot snapshots snapshot.snapshotId)
  match existing with
  | some stored =>
    require (stored.snapshotId = snapshot.snapshotId ∧
      stored.snapshotHash = snapshot.snapshotHash ∧ stored.document = snapshot.document)
      ⟨.contentConflict, "snapshot_hash/snapshot_id",
        "one byte-exact document per content identity",
        "Snapshot identity is already bound to different content"⟩
    return (snapshots, true)
  | none => return (snapshots ++ [snapshot], false)

/-! ### Checkpoints -/

structure ProjectionCheckpoint where
  scope : ProjectionScope
  lastAppliedPosition : Nat
  prefixFingerprint : String
  factCheckpoint : ArtifactReference
  updatedAtUtc : String
deriving DecidableEq, Repr

structure StoredProjectionCheckpoint where
  checkpoint : ProjectionCheckpoint
  stateRevision : Nat
deriving DecidableEq, Repr

structure CheckpointWriteResult where
  checkpoint : ProjectionCheckpoint
  replayed : Bool
  stateRevision : Nat
deriving DecidableEq, Repr

/-- `validate_projection_checkpoint` -/
def validateProjectionCheckpoint (c : ProjectionCheckpoint) : Except PersistenceError Unit := do
  requireText (.str c.scope.factoryId) "factory_id"
  requireText (.str c.scope.planningScopeId) "planning_scope_id"
  requireText (.str c.scope.authorityId) "authority_id"
  requireText (.str c.scope.streamId) "stream_id"
  requireText (.str c.scope.streamVersion) "stream_version"
  let _ ← requireInteger (.int c.lastAppliedPosition) "last_applied_position" 1
  requireSha256 c.prefixFingerprint "prefix_fingerprint"
  requireText (.str c.factCheckpoint.documentVersion) "fact_checkpoint.document_version"
  requireText (.str c.factCheckpoint.artifactId) "fact_checkpoint.artifact_id"
  requireSha256 c.factCheckpoint.fingerprint "fact_checkpoint.fingerprint"
  requireUtcText c.updatedAtUtc "updated_at_utc"

/-- `_find_scope` -/
def findCheckpoint (checkpoints : List StoredProjectionCheckpoint) (scope : ProjectionScope) :
    Option StoredProjectionCheckpoint :=
  checkpoints.find? fun stored => stored.checkpoint.scope = scope

/-- `put_initial_in_transaction` -/
def putInitial (checkpoints : List StoredProjectionCheckpoint) (checkpoint : ProjectionCheckpoint) :
    Except PersistenceError (List StoredProjectionCheckpoint × CheckpointWriteResult) := do
  validateProjectionCheckpoint checkpoint
  match findCheckpoint checkpoints checkpoint.scope with
  | some stored =>
    require (stored.checkpoint = checkpoint)
      ⟨.stateConflict, "checkpoint.scope", "checkpoint scope already has different state"⟩
    return (checkpoints, ⟨stored.checkpoint, true, stored.stateRevision⟩)
  | none => return (checkpoints ++ [⟨checkpoint, 0⟩], ⟨checkpoint, false, 0⟩)

/-- The row of a scope is replaced. -/
def replaceCheckpoint (checkpoints : List StoredProjectionCheckpoint)
    (stored : StoredProjectionCheckpoint) : List StoredProjectionCheckpoint :=
  checkpoints.map fun row => if row.checkpoint.scope = stored.checkpoint.scope then stored else row

/-- `advance_in_transaction` -/
def advanceCheckpoint (checkpoints : List StoredProjectionCheckpoint)
    (expectedPosition expectedStateRevision : Nat) (checkpoint : ProjectionCheckpoint) :
    Except PersistenceError (List StoredProjectionCheckpoint × CheckpointWriteResult) := do
  let _ ← requireInteger (.int expectedPosition) "expected_position" 1
  validateProjectionCheckpoint checkpoint
  match findCheckpoint checkpoints checkpoint.scope with
  | none =>
    .error ⟨.stateConflict, "checkpoint.scope", "projection checkpoint does not exist"⟩
  | some current =>
    if current.checkpoint = checkpoint then
      return (checkpoints, ⟨current.checkpoint, true, current.stateRevision⟩)
    require (current.checkpoint.lastAppliedPosition = expectedPosition ∧
      current.stateRevision = expectedStateRevision)
      ⟨.stateConflict, "expected_position/expected_state_revision",
        "projection checkpoint compare-and-set precondition failed"⟩
    require (expectedPosition < checkpoint.lastAppliedPosition)
      ⟨.stateConflict, "last_applied_position",
        "projection checkpoint cannot move backward or self-transition"⟩
    return (replaceCheckpoint checkpoints ⟨checkpoint, expectedStateRevision + 1⟩,
      ⟨checkpoint, false, expectedStateRevision + 1⟩)

/-! ### The service -/

structure ProjectionTables where
  execution : ExecutionTables
  snapshots : List ImmutablePlanningSnapshot
  checkpoints : List StoredProjectionCheckpoint

/-- `UrgentDemandImport` over the inputs of a standard import. -/
structure UrgentDemandImport (Inputs : Type) where
  eventId : String
  inputs : Inputs

structure FactProjectionCommitResult where
  snapshot : ImmutablePlanningSnapshot
  checkpoint : ProjectionCheckpoint
  replayed : Bool
  checkpointStateRevision : Nat
  eventIds : List String
  priorityFacts : List UrgentPriorityFact
  auditRecordId : Option String

/-- A position and a fingerprint as a lineage spells them. -/
def lineagePosition (scope : ProjectionScope) (lineage : String) : Option (Int × Bool × String) :=
  let start := (scope.streamId ++ "@" ++ scope.streamVersion ++ "#position=").toList
  let rest := removePrefix start lineage.toList
  let position := rest.takeWhile (· ≠ '#')
  (pyInt position).map fun n =>
    (n, start.isPrefixOf lineage.toList && decide (position.length < rest.length),
      String.ofList (rest.drop (position.length + 1)))

/-- `_snapshot_stream_position` -/
def snapshotStreamPosition (scope : ProjectionScope) (snapshot : ImmutablePlanningSnapshot)
    (fingerprints : List String) : Except ProjectionError Nat :=
  let stale (message : String) : ProjectionError :=
    ⟨.staleSnapshot, "base_snapshot.source_versions", message⟩
  let authority := dictValue snapshot.document.sourceVersions
    "plantnexus-execution-event-authority"
  match dictValue snapshot.document.sourceVersions "plantnexus-execution-event-prefix" with
  | none => do
    require (authority = none) (stale "Snapshot has incomplete execution stream lineage")
    return 0
  | some lineage =>
    match lineagePosition scope lineage with
    | none => .error (stale "Snapshot execution stream position is invalid")
    | some (position, wellFormed, fingerprint) => do
      require (wellFormed = true ∧ authority = some scope.authorityId ∧ 1 ≤ position ∧
        position ≤ fingerprints.length ∧
        fingerprint = eventStreamFingerprint (fingerprints.take position.toNat))
        (stale "Snapshot execution stream lineage differs from durable prefix")
      return position.toNat

section
variable {Inputs : Type}
  (standardSnapshot : Inputs → String → Except ProjectionError ImmutablePlanningSnapshot)

/-- `_standard_urgent_snapshot` over the standard import chain. -/
def standardUrgentSnapshot (urgent : UrgentDemandImport Inputs) (cutoffAtUtc : String) :
    Except ProjectionError PlanningSnapshot := do
  let snapshot ← standardSnapshot urgent.inputs cutoffAtUtc
  require (snapshot.dataPlane = .simulation)
    ⟨.authorityMismatch, "urgent_import.data_plane", "P4 urgent projection is Simulation-only"⟩
  return snapshot.document

/-- The import that an urgent event comes with. -/
def urgentImport (imports : List (String × UrgentDemandImport Inputs)) (eventId : String) :
    Except ProjectionError (UrgentDemandImport Inputs) :=
  let refused : ProjectionError :=
    ⟨.urgentImportRequired, "urgent_imports",
      "each urgent event requires exact standard Import inputs"⟩
  match dictValue imports eventId with
  | none => .error refused
  | some urgent => do
    require (urgent.eventId = eventId) refused
    return urgent

/-- The snapshots of the urgent events of a tail, each as of the latest event so far. -/
def tailSnapshots (imports : List (String × UrgentDemandImport Inputs)) :
    String → List Json → Except ProjectionError (List (String × PlanningSnapshot))
  | _, [] => .ok []
  | cutoff, event :: rest => do
    let cutoff := max cutoff (event.get "occurred_at_utc").text
    if event.get "event_type" = .str "URGENT_DEMAND_RECEIVED" then
      let eventId := (event.get "event_id").text
      let urgent ← urgentImport imports eventId
      let snapshot ← standardUrgentSnapshot standardSnapshot urgent cutoff
      let snapshots ← tailSnapshots imports cutoff rest
      return (eventId, snapshot) :: snapshots
    else tailSnapshots imports cutoff rest

/-- `_urgent_snapshots` -/
def urgentSnapshots (fullPrefix : List Json) (afterPosition : Nat) (base : PlanningSnapshot)
    (imports : List (String × UrgentDemandImport Inputs)) :
    Except ProjectionError (List (String × PlanningSnapshot)) := do
  let tail := fullPrefix.drop afterPosition
  let tailIds := tail.map fun event => (event.get "event_id").text
  require (∀ urgent ∈ imports, urgent.1 ∈ tailIds)
    ⟨.urgentImportMismatch, "urgent_imports",
      "contains an event outside the unprojected stream tail"⟩
  tailSnapshots standardSnapshot imports base.cutoffAtUtc tail

/-- The snapshot that the tail of a prefix leads to from a base. -/
def projectTail (scope : ProjectionScope) (base : ImmutablePlanningSnapshot)
    (imports : List (String × UrgentDemandImport Inputs)) (fullPrefix : List Json)
    (afterPosition : Nat) :
    Except ProjectionError (ProjectedFactBatch × ImmutablePlanningSnapshot) := do
  let urgent ← urgentSnapshots standardSnapshot fullPrefix afterPosition base.document imports
  let projected ← projectExecutionEventBatch base.document fullPrefix afterPosition scope urgent
  let snapshot ← (buildProjectedSnapshot projected.document).mapError fun _ =>
    (⟨.persistenceFailed, "projection_transaction", "fact projection transaction failed"⟩ :
      ProjectionError)
  return (projected, snapshot)

/-- What one call reads in its transaction. -/
structure ProjectionReads where
  base : Option ImmutablePlanningSnapshot
  checkpoint : Option (StoredProjectionCheckpoint × Option ImmutablePlanningSnapshot)
  fullPrefix : List Json
deriving DecidableEq

/-- What one call does after its reads. -/
inductive ProjectionDecision where
  | replay (result : FactProjectionCommitResult)
  | commit (after : Option StoredProjectionCheckpoint) (projected : ProjectedFactBatch)
      (snapshot : ImmutablePlanningSnapshot)

/-- The answer that nothing is left to project. -/
def replayed (stored : StoredProjectionCheckpoint) (snapshot : ImmutablePlanningSnapshot) :
    FactProjectionCommitResult :=
  ⟨snapshot, stored.checkpoint, true, stored.stateRevision, [], [], none⟩

/-- `_checkpoint_snapshot` -/
def checkpointSnapshot (stored : StoredProjectionCheckpoint)
    (found : Option ImmutablePlanningSnapshot) :
    Except ProjectionError ImmutablePlanningSnapshot :=
  let stale (message : String) : ProjectionError :=
    ⟨.staleSnapshot, "projection_checkpoint.fact_checkpoint", message⟩
  let fact := stored.checkpoint.factCheckpoint
  if fact.documentVersion ≠ "planning-snapshot.v2" then
    .error (stale "checkpoint does not reference a PlanningSnapshot v2")
  else
    match found with
    | none => .error (stale "checkpoint Snapshot is absent or has different content")
    | some snapshot => do
      require (snapshot.snapshotHash = fact.fingerprint)
        (stale "checkpoint Snapshot is absent or has different content")
      return snapshot

section
variable (scope : ProjectionScope) (base : ImmutablePlanningSnapshot)
  (imports : List (String × UrgentDemandImport Inputs))

/-- A base that is not the current snapshot: the one that the current snapshot was projected from
answers as before, any other is stale. -/
def decideStale (stored : StoredProjectionCheckpoint) (current : ImmutablePlanningSnapshot)
    (fullPrefix : List Json) (basePosition : Nat) : Except ProjectionError ProjectionDecision :=
  let stale : ProjectionError :=
    ⟨.staleSnapshot, "base_snapshot", "caller base is not the current projected Snapshot"⟩
  if stored.checkpoint.lastAppliedPosition = fullPrefix.length ∧
      dictValue current.document.sourceVersions "plantnexus-previous-snapshot" =
        some base.snapshotHash then do
    let (_, snapshot) ← projectTail standardSnapshot scope base imports fullPrefix basePosition
    require (snapshot = current) stale
    return .replay (replayed stored current)
  else .error stale

/-- The base is the current snapshot: it answers, or it is projected further. -/
def decideCurrent (stored : StoredProjectionCheckpoint) (fullPrefix : List Json)
    (fingerprints : List String) : Except ProjectionError ProjectionDecision := do
  let position := stored.checkpoint.lastAppliedPosition
  if position = fullPrefix.length then
    require (imports.isEmpty = true)
      ⟨.urgentImportMismatch, "urgent_imports", "no unprojected urgent event exists"⟩
    return .replay (replayed stored base)
  require (eventStreamFingerprint (fingerprints.take position) =
    stored.checkpoint.prefixFingerprint)
    ⟨.orderingViolation, "projection_checkpoint.prefix_fingerprint",
      "durable event prefix no longer matches checkpoint"⟩
  let (projected, snapshot) ← projectTail standardSnapshot scope base imports fullPrefix position
  return .commit (some stored) projected snapshot

/-- A call under a checkpoint. -/
def decideCheckpoint (stored : StoredProjectionCheckpoint)
    (found : Option ImmutablePlanningSnapshot) (fullPrefix : List Json)
    (fingerprints : List String) (basePosition : Nat) :
    Except ProjectionError ProjectionDecision := do
  let position := stored.checkpoint.lastAppliedPosition
  require (position ≤ fullPrefix.length)
    ⟨.orderingViolation, "projection_checkpoint.last_applied_position",
      "checkpoint is beyond the durable event prefix"⟩
  let current ← checkpointSnapshot stored found
  let currentPosition ← snapshotStreamPosition scope current fingerprints
  require (currentPosition = position)
    ⟨.staleSnapshot, "projection_checkpoint.fact_checkpoint",
      "checkpoint Snapshot lineage position is inconsistent"⟩
  if current = base then
    require (basePosition = position)
      ⟨.staleSnapshot, "base_snapshot.source_versions",
        "current Snapshot lineage position is inconsistent"⟩
    decideCurrent standardSnapshot scope base imports stored fullPrefix fingerprints
  else decideStale standardSnapshot scope base imports stored current fullPrefix basePosition

/-- A call of a scope without a checkpoint. -/
def decideInitial (fullPrefix : List Json) (basePosition : Nat) :
    Except ProjectionError ProjectionDecision := do
  require (basePosition = 0)
    ⟨.staleSnapshot, "base_snapshot.source_versions",
      "projected Snapshot has no matching durable checkpoint"⟩
  require (fullPrefix ≠ [])
    ⟨.orderingViolation, "event_stream", "no event is available for initial projection"⟩
  let (projected, snapshot) ← projectTail standardSnapshot scope base imports fullPrefix 0
  return .commit none projected snapshot

/-- `project_available` between its reads and its writes. -/
def decideProjection (reads : ProjectionReads) : Except ProjectionError ProjectionDecision := do
  require (reads.base = some base)
    ⟨.staleSnapshot, "base_snapshot",
      "base Snapshot is absent or differs from immutable storage"⟩
  let fingerprints ← validateEventPrefix scope reads.fullPrefix
  let basePosition ← snapshotStreamPosition scope base fingerprints
  match reads.checkpoint with
  | none => decideInitial standardSnapshot scope base imports reads.fullPrefix basePosition
  | some (stored, found) =>
    decideCheckpoint standardSnapshot scope base imports stored found reads.fullPrefix
      fingerprints basePosition

end

/-- The reads of a call. -/
def ProjectionTables.reads (tables : ProjectionTables) (scope : ProjectionScope)
    (base : ImmutablePlanningSnapshot) : ProjectionReads :=
  { base := findSnapshot tables.snapshots base.snapshotId
    checkpoint := (findCheckpoint tables.checkpoints scope).map fun stored =>
      (stored, findSnapshot tables.snapshots stored.checkpoint.factCheckpoint.artifactId)
    fullPrefix := listStream tables.execution.ledger scope 0 }

/-- The checkpoint of a projected tail. -/
def projectedCheckpoint (scope : ProjectionScope) (fullPrefix : List Json)
    (projected : ProjectedFactBatch) (snapshot : ImmutablePlanningSnapshot) :
    ProjectionCheckpoint :=
  { scope
    lastAppliedPosition := projected.throughPosition
    prefixFingerprint := projected.streamFingerprint
    factCheckpoint := ⟨"planning-snapshot.v2", snapshot.snapshotId, snapshot.snapshotHash⟩
    updatedAtUtc := ((fullPrefix.getLast?.getD .null).get "occurred_at_utc").text }

/-- The audit record of a projected tail. -/
def projectionAudit (scope : ProjectionScope) (fullPrefix : List Json)
    (projected : ProjectedFactBatch) (snapshot : ImmutablePlanningSnapshot)
    (checkpoint : ProjectionCheckpoint) : ReplanAuditRecord :=
  { action := .projectionCheckpointCommitted
    aggregateType := "PLANNING_SNAPSHOT"
    aggregateId := snapshot.snapshotId
    correlationId := (fullPrefix.getLast?.getD .null).get "correlation_id"
    idempotencyScope := s!"SIMULATION/PROJECTION_CHECKPOINT/{scope.factoryId}/" ++
      s!"{scope.planningScopeId}/{scope.authorityId}/{scope.streamId}/" ++
      s!"{scope.streamVersion}/{projected.throughPosition}"
    idempotencyKeyReference := projected.streamFingerprint
    requestFingerprint := some snapshot.snapshotHash
    occurredAtUtc := checkpoint.updatedAtUtc }

/-- The write of a checkpoint: the first one of its scope, or one after the one that was read. -/
def writeCheckpoint (checkpoints : List StoredProjectionCheckpoint)
    (after : Option StoredProjectionCheckpoint) (checkpoint : ProjectionCheckpoint) :
    Except PersistenceError (List StoredProjectionCheckpoint × CheckpointWriteResult) :=
  match after with
  | none => putInitial checkpoints checkpoint
  | some stored =>
    advanceCheckpoint checkpoints stored.checkpoint.lastAppliedPosition stored.stateRevision
      checkpoint

/-- The writes of a call. -/
def commitProjection (tables : ProjectionTables) (scope : ProjectionScope) (fullPrefix : List Json)
    (after : Option StoredProjectionCheckpoint) (projected : ProjectedFactBatch)
    (snapshot : ImmutablePlanningSnapshot) :
    Except ProjectionError (ProjectionTables × FactProjectionCommitResult) := do
  let failed : ProjectionError :=
    ⟨.persistenceFailed, "projection_transaction", "fact projection transaction failed"⟩
  let (snapshots, snapshotReplayed) ←
    (putSnapshot tables.snapshots snapshot).mapError fun _ => failed
  let checkpoint := projectedCheckpoint scope fullPrefix projected snapshot
  let (checkpoints, write) ←
    (writeCheckpoint tables.checkpoints after checkpoint).mapError fun _ => failed
  let audit := projectionAudit scope fullPrefix projected snapshot checkpoint
  let (audits, auditReplayed) ←
    (appendAuditRecord tables.execution.audits audit).mapError fun _ => failed
  require (snapshotReplayed = write.replayed ∧ write.replayed = auditReplayed)
    ⟨.persistenceFailed, "projection_transaction", "atomic write replay dispositions diverged"⟩
  return (⟨⟨tables.execution.ledger, audits⟩, snapshots, checkpoints⟩,
    ⟨snapshot, write.checkpoint, write.replayed, write.stateRevision, projected.eventIds,
      projected.priorityFacts, some audit.auditRecordId⟩)

/-- `project_available`: all of its writes or none. -/
def projectAvailable (tables : ProjectionTables) (scope : ProjectionScope)
    (base : ImmutablePlanningSnapshot) (imports : List (String × UrgentDemandImport Inputs)) :
    Except ProjectionError (ProjectionTables × FactProjectionCommitResult) := do
  (verifySnapshot base).mapError fun error =>
    (⟨.staleSnapshot, error.field, error.message⟩ : ProjectionError)
  require (base.dataPlane = .simulation)
    ⟨.authorityMismatch, "base_snapshot.data_plane",
      "P4 Production projection authority is not established"⟩
  let reads := tables.reads scope base
  let decision ← decideProjection standardSnapshot scope base imports reads
  match decision with
  | .replay result => return (tables, result)
  | .commit after projected snapshot =>
    commitProjection tables scope reads.fullPrefix after projected snapshot

end

end PlantNexus.Execution
