import PlantNexus.Domain.Types
import PlantNexus.Runs.Documents

/-! Verification of run, attempt, work item and command documents.

Every document is verified when it is written and again whenever it is read. A check against a
predecessor is made only where there is one. -/
namespace PlantNexus.Runs
open Data Time Domain

def lineage (field message : String) : RunError := ⟨.lineageInvalid, field, message⟩

/-- `_utc` -/
def utc (value field : String) : Except RunError Datetime :=
  if value.toList.getLast? = some 'Z' then
    match parseUtcInstant value with
    | .ok parsed => .ok parsed
    | .error _ => .error (lineage field "Expected a valid UTC instant")
  else .error (lineage field "Expected a UTC instant ending in Z")

/-- `_require_audit_reference` -/
def requireAuditReference (reference : Reference) (field : String) : Except RunError Unit := do
  require (reference.documentVersion = "audit-event.v1" ∧ reference.artifactId ≠ "")
    (lineage field "Audit reference is invalid")
  require (isFingerprint reference.fingerprint = true)
    (lineage field "Expected a lowercase SHA-256 fingerprint")

/-- `require_planning_run_transition` -/
def requirePlanningRunTransition (fromState toState : RunState) : Except RunError Unit :=
  require (¬fromState.Terminal ∧ (fromState, toState) ∈ planningRunTransitions)
    ⟨.invalidStateTransition, "planning_run.last_transition",
      "PlanningRun pair is not present in state-machines.v1"⟩

/-! ### Runs -/

/-- The immutable fields of two runs, by name. -/
def immutableFields (a b : RunSource) : List (String × Bool) :=
  [("planning_run_version", a.planningRunVersion = b.planningRunVersion),
   ("schema_set_version", a.schemaSetVersion = b.schemaSetVersion),
   ("canonicalization_version", a.canonicalizationVersion = b.canonicalizationVersion),
   ("transition_registry_version", a.transitionRegistryVersion = b.transitionRegistryVersion),
   ("error_registry_version", a.errorRegistryVersion = b.errorRegistryVersion),
   ("planning_run_id", a.planningRunId = b.planningRunId),
   ("effective_scope", a.effectiveScope = b.effectiveScope), ("ingress", a.ingress = b.ingress),
   ("runtime_resolution", a.runtimeResolution = b.runtimeResolution),
   ("inputs", a.inputs = b.inputs), ("created_at_utc", a.createdAtUtc = b.createdAtUtc)]

/-- No reference that was there is gone or changed. -/
def checkArtifactsKept (before after : Artifacts) (path message : String) :
    Except RunError Unit :=
  forEach
    (fun _ pair =>
      require (pair.1.2 ≠ none → pair.2.2 = pair.1.2) (lineage (path ++ pair.1.1) message))
    (before.members.zip after.members)

section
variable (P : Platform)

def planningRunSchemaId : String := "urn:plantnexus:aps:schema:planning-run:v1"
def planningRunSchemaIdV2 : String := "urn:plantnexus:aps:schema:planning-run:v2"

/-- The schema of a run, and that it holds. -/
def schemaHolds (aggregate : RunAggregate) : Prop :=
  if aggregate.document.source.planningRunVersion = "planning-run.v2" then
    aggregate.prepared.runtimeReplan.isSome ∧
      P.schemas planningRunSchemaIdV2 aggregate.document.toJson = true
  else P.schemas planningRunSchemaId aggregate.document.toJson = true

instance (aggregate : RunAggregate) : Decidable (schemaHolds P aggregate) := by
  unfold schemaHolds
  infer_instance

/-- The transition evidence of a run against its state, times and audits. -/
def checkTransition (document : PlanningRun) : Except RunError Unit := do
  let transition := document.lastTransition
  require (document.revision = transition.sequence + 1)
    (lineage "planning_run.revision"
      "PlanningRun revision does not equal transition sequence plus one")
  require (document.state = transition.toState)
    ⟨.invalidStateTransition, "planning_run.last_transition.to_state",
      "Current state and transition target differ"⟩
  require (document.updatedAtUtc = transition.occurredAtUtc)
    (lineage "planning_run.updated_at_utc" "Update time and latest transition time differ")
  require ((document.auditReferences.length : Int) = document.revision)
    (lineage "planning_run.audit_references"
      "Audit history length does not equal PlanningRun revision")
  forEach
    (fun index reference =>
      requireAuditReference reference s!"planning_run.audit_references[{index}]")
    document.auditReferences
  require (document.auditReferences.getLast? = some transition.audit)
    (lineage "planning_run.audit_references"
      "Latest transition audit is not the final audit reference")
  require (∀ cancellation ∈ document.cancellation, cancellation.audit = transition.audit)
    (lineage "planning_run.cancellation.audit"
      "Cancellation and terminal transition audit references differ")
  if transition.sequence = 0 then
    require (transition.fromState = none ∧ transition.toState = .created)
      ⟨.invalidStateTransition, "planning_run.last_transition",
        "Initial transition must be null to CREATED"⟩
  else
    match transition.fromState with
    | none =>
      .error ⟨.invalidStateTransition, "planning_run.last_transition",
        "PlanningRun transition states are invalid"⟩
    | some fromState => requirePlanningRunTransition fromState transition.toState

/-- The checks of a run against the run before it. -/
def checkSuccession (document previous : PlanningRun) : Except RunError Unit := do
  require (¬previous.state.Terminal ∧ document.lastTransition.fromState = some previous.state ∧
      document.revision = previous.revision + 1 ∧
      document.lastTransition.sequence = previous.lastTransition.sequence + 1)
    ⟨.invalidStateTransition, "planning_run.last_transition",
      "PlanningRun transition is stale, terminal, or non-monotonic"⟩
  let updated ← utc document.updatedAtUtc "planning_run.updated_at_utc"
  let before ← utc previous.updatedAtUtc "previous.updated_at_utc"
  require (before ≤ updated)
    (lineage "planning_run.updated_at_utc" "PlanningRun transition time moved backwards")
  require (document.auditReferences.dropLast = previous.auditReferences)
    (lineage "planning_run.audit_references" "PlanningRun audit history is not append-only")
  checkArtifactsKept previous.artifacts document.artifacts "planning_run.artifacts."
    "Published artifact reference was removed or changed"

/-- The prepared references a run may carry. -/
def preparedFields (artifacts : Artifacts) (prepared : PreparedArtifacts) :
    List (String × Option Reference × Option Reference) :=
  [("import_quality_report", artifacts.importQualityReport, prepared.importQualityReport),
   ("snapshot", artifacts.snapshot, prepared.snapshot),
   ("problem", artifacts.problem, prepared.problem)]

/-- `verify_planning_run` -/
def verifyPlanningRun (aggregate : RunAggregate) (previous : Option PlanningRun) :
    Except RunError Unit := do
  let document := aggregate.document
  require (schemaHolds P aggregate)
    (lineage "planning_run" "PlanningRun violates the frozen planning-run.v1 Schema")
  require (aggregate.initial.state = .created ∧ aggregate.initial.revision = 1)
    (lineage "initial_planning_run" "Source PlanningRun is not the frozen CREATED revision")
  forEach
    (fun _ field =>
      require (field.2 = true)
        (lineage ("planning_run." ++ field.1) "Immutable PlanningRun lineage changed"))
    (immutableFields document.source aggregate.initial.source)
  require (document.runFingerprint = P.runFingerprint document)
    (lineage "planning_run.run_fingerprint" "PlanningRun fingerprint is invalid")
  require (document.source.effectiveScope.scopeFingerprint =
      P.scopeFingerprint document.source.effectiveScope)
    ⟨.scopeMismatch, "planning_run.effective_scope", "Effective scope fingerprint is invalid"⟩
  require (document.source.runtimeResolution.resolutionFingerprint =
      P.runtimeResolutionFingerprint document.source.runtimeResolution)
    ⟨.runtimeResolutionFailed, "planning_run.runtime_resolution",
      "Runtime resolution fingerprint is invalid"⟩
  checkTransition document
  match previous with
  | none => pure ()
  | some previous => checkSuccession document previous
  forEach
    (fun _ field =>
      require (field.2.1 ≠ none → field.2.1 = field.2.2)
        (lineage ("planning_run.artifacts." ++ field.1)
          "PlanningRun prepared artifact differs from canonical ingress"))
    (preparedFields document.artifacts aggregate.prepared)
  require (∀ evidence ∈ document.attempt, evidence.runtimeResolutionFingerprint =
      document.source.runtimeResolution.resolutionFingerprint)
    ⟨.runtimeResolutionFailed, "planning_run.attempt.runtime_resolution_fingerprint",
      "Attempt and Runtime resolution fingerprints differ"⟩

/-! ### Attempts -/

def RunAttempt.fingerprintFor (a : RunAttempt) : String :=
  P.fingerprint (.obj a.membersWithoutFingerprint)

/-- `_FAILURE_CODE.fullmatch` -/
def isFailureCode (code : String) : Bool :=
  match code.toList with
  | [] => false
  | first :: rest =>
    first.isUpper && decide (rest.length ≤ 63) &&
      rest.all fun c => c.isUpper || c.isDigit || c = '_'

/-- The execution evidence that a status allows. -/
def checkEvidence (a : RunAttempt) : Except RunError Unit :=
  match a.status with
  | .queued =>
    require (a.startedAtUtc = none ∧ a.finishedAtUtc = none ∧ a.failureCode = none)
      (lineage "planning_run_attempt.status" "Queued attempt cannot expose execution outcome")
  | .active | .cancelRequested =>
    require (a.startedAtUtc ≠ none ∧ a.finishedAtUtc = none ∧ a.failureCode = none)
      (lineage "planning_run_attempt.status" "Active attempt evidence is incomplete")
  | .dispatchFailed | .timedOut | .cancelled | .succeeded | .failed => do
    require (a.finishedAtUtc ≠ none)
      (lineage "planning_run_attempt.finished_at_utc"
        "Non-active attempt must have a finish time")
    require (a.status = .succeeded ∨ a.status = .failed → a.startedAtUtc ≠ none)
      (lineage "planning_run_attempt.started_at_utc"
        "Executed terminal attempt has no start time")
    require (a.status = .dispatchFailed → a.startedAtUtc = none)
      (lineage "planning_run_attempt.started_at_utc"
        "Dispatch-failed attempt cannot expose a start time")
    require (a.status = .dispatchFailed ∨ a.status = .timedOut ∨ a.status = .failed →
        ∃ code ∈ a.failureCode, isFailureCode code = true)
      (lineage "planning_run_attempt.failure_code"
        "Failed attempt must have a stable sanitized failure code")
    require (a.status = .cancelled ∨ a.status = .succeeded → a.failureCode = none)
      (lineage "planning_run_attempt.failure_code"
        "Successful or cancelled attempt cannot report failure")

/-- The times of an attempt against its execution window. -/
def checkWindow (a : RunAttempt) (available timeout : Datetime) : Except RunError Unit := do
  match a.startedAtUtc with
  | none => pure ()
  | some started => do
    let startedAt ← utc started "attempt.started_at_utc"
    require (available ≤ startedAt ∧ startedAt ≤ timeout)
      (lineage "planning_run_attempt.started_at_utc"
        "Attempt start is outside its execution window")
    match a.finishedAtUtc with
    | none => pure ()
    | some finished => do
      let finishedAt ← utc finished "attempt.finished_at_utc"
      require (startedAt ≤ finishedAt)
        (lineage "planning_run_attempt.finished_at_utc" "Attempt finish precedes its start")

/-- What identifies an attempt for its whole life. -/
structure AttemptIdentity where
  attemptId : String
  planningRunId : String
  attemptNumber : Int
  expectedRunRevision : Int
  expectedRunState : RunState
  expectedRunFingerprint : String
  runtimeResolutionFingerprint : String
  extensionSetFingerprint : String
  availableAtUtc : String
  timeoutAtUtc : String
deriving DecidableEq, Repr

def RunAttempt.identity (a : RunAttempt) : AttemptIdentity :=
  ⟨a.attemptId, a.planningRunId, a.attemptNumber, a.expectedRunRevision, a.expectedRunState,
    a.expectedRunFingerprint, a.runtimeResolutionFingerprint, a.extensionSetFingerprint,
    a.availableAtUtc, a.timeoutAtUtc⟩

/-- The checks of an attempt against its record before. -/
def checkAttemptSuccession (a previous : RunAttempt) : Except RunError Unit := do
  require (a.identity = previous.identity)
    (lineage "planning_run_attempt" "Immutable attempt identity changed")
  require ((previous.status, a.status) ∈ attemptTransitions ∧
      a.revision = previous.revision + 1)
    ⟨.staleAttempt, "planning_run_attempt.status", "Attempt transition is stale or illegal"⟩
  require (previous.startedAtUtc ≠ none → a.startedAtUtc = previous.startedAtUtc)
    (lineage "planning_run_attempt.started_at_utc"
      "Attempt start time changed after execution began")
  checkArtifactsKept previous.resultReferences a.resultReferences
    "planning_run_attempt.result_references." "Attempt result reference was removed or changed"
  requireAuditReference previous.audit "previous_attempt.audit"
  require (a.audit ≠ previous.audit)
    (lineage "planning_run_attempt.audit"
      "Attempt transition did not append new audit evidence")

/-- `verify_attempt` -/
def verifyAttempt (a : RunAttempt) (run : PlanningRun) (previous : Option RunAttempt) :
    Except RunError Unit := do
  require (a.planningRunId = run.source.planningRunId)
    (lineage "planning_run_attempt.planning_run_id" "Attempt references another PlanningRun")
  require (a.attemptFingerprint = a.fingerprintFor P)
    (lineage "planning_run_attempt.attempt_fingerprint" "Attempt fingerprint is invalid")
  require (1 ≤ a.attemptNumber ∧ 1 ≤ a.revision)
    (lineage "planning_run_attempt" "Attempt number and revision must be positive integers")
  require (isFingerprint a.expectedRunFingerprint = true)
    (lineage "planning_run_attempt.expected_run_fingerprint"
      "Expected a lowercase SHA-256 fingerprint")
  require (isFingerprint a.runtimeResolutionFingerprint = true)
    (lineage "planning_run_attempt.runtime_resolution_fingerprint"
      "Expected a lowercase SHA-256 fingerprint")
  require (isFingerprint a.extensionSetFingerprint = true)
    (lineage "planning_run_attempt.extension_set_fingerprint"
      "Expected a lowercase SHA-256 fingerprint")
  require (a.runtimeResolutionFingerprint = run.source.runtimeResolution.resolutionFingerprint ∧
      a.extensionSetFingerprint = run.source.runtimeResolution.extensionSetFingerprint)
    ⟨.runtimeResolutionFailed, "planning_run_attempt.runtime_resolution_fingerprint",
      "Attempt is not bound to the PlanningRun Runtime resolution"⟩
  require (1 ≤ a.expectedRunRevision)
    (lineage "planning_run_attempt.expected_run"
      "Attempt expected-run precondition is invalid")
  let available ← utc a.availableAtUtc "attempt.available_at_utc"
  let timeout ← utc a.timeoutAtUtc "attempt.timeout_at_utc"
  require (available < timeout)
    (lineage "planning_run_attempt.timeout_at_utc" "Attempt timeout must be after availability")
  checkEvidence a
  checkWindow a available timeout
  requireAuditReference a.audit "planning_run_attempt.audit"
  match previous with
  | none => pure ()
  | some previous => checkAttemptSuccession a previous

/-! ### Work items and command records -/

def RunWorkItem.fingerprintFor (w : RunWorkItem) : String :=
  P.fingerprint (.obj w.membersWithoutFingerprint)

/-- `verify_work_item` -/
def verifyWorkItem (w : RunWorkItem) (aggregate : RunAggregate) (a : RunAttempt)
    (bindAttemptAudit : Bool) : Except RunError Unit := do
  let run := aggregate.document
  require (w.planningRunId = run.source.planningRunId ∧ w.attemptId = a.attemptId ∧
      w.attemptNumber = a.attemptNumber ∧ w.expectedRunRevision = a.expectedRunRevision ∧
      w.expectedRunState = a.expectedRunState ∧
      w.expectedRunFingerprint = a.expectedRunFingerprint ∧
      w.availableAtUtc = a.availableAtUtc ∧ w.timeoutAtUtc = a.timeoutAtUtc ∧
      w.runtimeResolution = run.source.runtimeResolution ∧
      w.preparedArtifacts = aggregate.prepared ∧ w.inputs = run.source.inputs ∧
      (bindAttemptAudit = true → w.audit = a.audit))
    (lineage "planning_run_work_item"
      "Work item differs from its immutable Run/attempt inputs")
  requireAuditReference w.audit "planning_run_work_item.audit"
  require (w.workItemFingerprint = w.fingerprintFor P)
    (lineage "planning_run_work_item.work_item_fingerprint" "Work-item fingerprint is invalid")

/-- `verify_command_record` -/
def verifyCommandRecord (record : CommandRecord) : Except RunError Unit := do
  forEach
    (fun _ field =>
      require (isFingerprint field.2 = true)
        (lineage ("planning_run_command." ++ field.1) "Expected a lowercase SHA-256 fingerprint"))
    [("scope_fingerprint", record.scopeFingerprint), ("key_reference", record.keyReference),
     ("request_fingerprint", record.requestFingerprint)]
  let _ ← utc record.occurredAtUtc "planning_run_command.occurred_at_utc"
  requireAuditReference record.audit "planning_run_command.audit"
  require (record.planningRun.source.planningRunId = record.planningRunId ∧
      (∀ a ∈ record.attempt, a.planningRunId = record.planningRunId) ∧
      ∀ w ∈ record.workItem, w.planningRunId = record.planningRunId ∧
        ∃ a ∈ record.attempt, w.attemptId = a.attemptId)
    (lineage "planning_run_command.result" "Command result lineage is inconsistent")

end
end PlantNexus.Runs
