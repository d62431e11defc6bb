import PlantNexus.Data.Checks
import PlantNexus.Data.Json
import PlantNexus.Data.Sha256
import PlantNexus.Time.Instant

/-! The `planning-run.v1` document, its attempts, work items and command records.

A document is a structure under the names of its fields; `toJson` is the object that is
fingerprinted. Sub-documents that orchestration carries along without looking into them stay
`Json`. What lies outside orchestration is a parameter, `Platform`: the digest, the frozen schema
catalog and the durable ingress source. -/
namespace PlantNexus.Runs
open Data Time

/-! ### States -/

inductive RunState where
  | created
  | ingesting
  | validating
  | snapshotted
  | building
  | solving
  | solved
  | verifying
  | completed
  | dataRejected
  | modelInvalid
  | infeasible
  | noSolutionWithinLimit
  | validationFailed
  | cancelled
  | failed
deriving DecidableEq, Repr

def RunState.text : RunState → String
  | .created => "CREATED"
  | .ingesting => "INGESTING"
  | .validating => "VALIDATING"
  | .snapshotted => "SNAPSHOTTED"
  | .building => "BUILDING"
  | .solving => "SOLVING"
  | .solved => "SOLVED"
  | .verifying => "VERIFYING"
  | .completed => "COMPLETED"
  | .dataRejected => "DATA_REJECTED"
  | .modelInvalid => "MODEL_INVALID"
  | .infeasible => "INFEASIBLE"
  | .noSolutionWithinLimit => "NO_SOLUTION_WITHIN_LIMIT"
  | .validationFailed => "VALIDATION_FAILED"
  | .cancelled => "CANCELLED"
  | .failed => "FAILED"

/-- `PLANNING_RUN_TERMINAL_STATES` -/
def planningRunTerminalStates : List RunState :=
  [.completed, .dataRejected, .modelInvalid, .infeasible, .noSolutionWithinLimit,
   .validationFailed, .cancelled, .failed]

def RunState.Terminal (s : RunState) : Prop := s ∈ planningRunTerminalStates

instance (s : RunState) : Decidable s.Terminal := inferInstanceAs (Decidable (_ ∈ _))

/-- `PLANNING_RUN_TRANSITIONS` -/
def planningRunTransitions : List (RunState × RunState) :=
  [(.created, .ingesting), (.created, .cancelled), (.created, .failed),
   (.ingesting, .validating), (.ingesting, .dataRejected), (.ingesting, .cancelled),
   (.ingesting, .failed), (.validating, .snapshotted), (.validating, .dataRejected),
   (.validating, .cancelled), (.validating, .failed), (.snapshotted, .building),
   (.snapshotted, .cancelled), (.snapshotted, .failed), (.building, .solving),
   (.building, .modelInvalid), (.building, .cancelled), (.building, .failed),
   (.solving, .solved), (.solving, .modelInvalid), (.solving, .infeasible),
   (.solving, .noSolutionWithinLimit), (.solving, .cancelled), (.solving, .failed),
   (.solved, .verifying), (.solved, .cancelled), (.solved, .failed),
   (.verifying, .completed), (.verifying, .validationFailed), (.verifying, .cancelled),
   (.verifying, .failed)]

inductive AttemptStatus where
  | queued
  | active
  | dispatchFailed
  | timedOut
  | cancelRequested
  | cancelled
  | succeeded
  | failed
deriving DecidableEq, Repr

def AttemptStatus.text : AttemptStatus → String
  | .queued => "QUEUED"
  | .active => "ACTIVE"
  | .dispatchFailed => "DISPATCH_FAILED"
  | .timedOut => "TIMED_OUT"
  | .cancelRequested => "CANCEL_REQUESTED"
  | .cancelled => "CANCELLED"
  | .succeeded => "SUCCEEDED"
  | .failed => "FAILED"

/-- `ATTEMPT_TERMINAL_STATUSES` -/
def AttemptStatus.Terminal (s : AttemptStatus) : Prop :=
  s ∈ [.dispatchFailed, .timedOut, .cancelled, .succeeded, AttemptStatus.failed]

/-- `ATTEMPT_RETRYABLE_STATUSES` -/
def AttemptStatus.Retryable (s : AttemptStatus) : Prop :=
  s ∈ [.dispatchFailed, AttemptStatus.timedOut]

instance (s : AttemptStatus) : Decidable s.Terminal := inferInstanceAs (Decidable (_ ∈ _))
instance (s : AttemptStatus) : Decidable s.Retryable := inferInstanceAs (Decidable (_ ∈ _))

/-- `ATTEMPT_TRANSITIONS` -/
def attemptTransitions : List (AttemptStatus × AttemptStatus) :=
  [(.queued, .active), (.queued, .dispatchFailed), (.queued, .timedOut), (.queued, .cancelled),
   (.active, .succeeded), (.active, .failed), (.active, .timedOut), (.active, .cancelRequested),
   (.active, .cancelled), (.cancelRequested, .cancelled), (.cancelRequested, .failed),
   (.cancelRequested, .timedOut)]

/-! ### Errors -/

inductive RunErrorCode where
  | invalidReference
  | scopeMismatch
  | dataPlaneMismatch
  | authorityConflict
  | idempotencyConflict
  | invalidStateTransition
  | lineageInvalid
  | runtimeResolutionFailed
  | staleRun
  | staleAttempt
  | attemptNotRetryable
  | queueFailed
  | unknownOutcome
deriving DecidableEq, Repr

/-- `PlanningRunOrchestrationError` -/
structure RunError where
  code : RunErrorCode
  field : String
  message : String
deriving DecidableEq, Repr

/-! ### Parts of the documents -/

structure Reference where
  documentVersion : String
  artifactId : String
  fingerprint : String
deriving DecidableEq, Repr

def Reference.toJson (r : Reference) : Json :=
  .obj
    [("document_version", .str r.documentVersion), ("artifact_id", .str r.artifactId),
     ("fingerprint", .str r.fingerprint)]

/-- The references that `_ARTIFACT_FIELDS` names. -/
structure Artifacts where
  importQualityReport : Option Reference
  snapshot : Option Reference
  problem : Option Reference
  planningSolution : Option Reference
  solverReport : Option Reference
  validationReport : Option Reference
  scheduleVersion : Option Reference
deriving DecidableEq, Repr

def Artifacts.members (a : Artifacts) : List (String × Option Reference) :=
  [("import_quality_report", a.importQualityReport), ("snapshot", a.snapshot),
   ("problem", a.problem), ("planning_solution", a.planningSolution),
   ("solver_report", a.solverReport), ("validation_report", a.validationReport),
   ("schedule_version", a.scheduleVersion)]

def Artifacts.toJson (a : Artifacts) : Json :=
  .obj (a.members.map fun m => (m.1, Json.ofOption Reference.toJson m.2))

structure EffectiveScope where
  tenantId : String
  factoryId : String
  planningScopeId : String
  dataPlane : String
  environment : String
  scopeFingerprint : String
deriving DecidableEq, Repr

def EffectiveScope.membersWithoutFingerprint (s : EffectiveScope) : List (String × Json) :=
  [("tenant_id", .str s.tenantId), ("factory_id", .str s.factoryId),
   ("planning_scope_id", .str s.planningScopeId), ("data_plane", .str s.dataPlane),
   ("environment", .str s.environment)]

def EffectiveScope.toJson (s : EffectiveScope) : Json :=
  .obj (s.membersWithoutFingerprint ++ [("scope_fingerprint", .str s.scopeFingerprint)])

/-- A runtime resolution: its members without its own fingerprint, and the fingerprint. -/
structure RuntimeResolution where
  members : List (String × Json)
  resolutionFingerprint : String
deriving DecidableEq

def RuntimeResolution.toJson (r : RuntimeResolution) : Json :=
  .obj (r.members ++ [("resolution_fingerprint", .str r.resolutionFingerprint)])

/-- `runtime["extension_set"]["extension_set_fingerprint"]` -/
def RuntimeResolution.extensionSetFingerprint (r : RuntimeResolution) : String :=
  (((Json.obj r.members).get "extension_set").get "extension_set_fingerprint").text

/-- The fields that `_IMMUTABLE_RUN_FIELDS` names. -/
structure RunSource where
  planningRunVersion : String
  schemaSetVersion : String
  canonicalizationVersion : String
  transitionRegistryVersion : String
  errorRegistryVersion : String
  planningRunId : String
  effectiveScope : EffectiveScope
  ingress : Json
  runtimeResolution : RuntimeResolution
  inputs : Json
  createdAtUtc : String
deriving DecidableEq

def RunSource.members (s : RunSource) : List (String × Json) :=
  [("planning_run_version", .str s.planningRunVersion),
   ("schema_set_version", .str s.schemaSetVersion),
   ("canonicalization_version", .str s.canonicalizationVersion),
   ("transition_registry_version", .str s.transitionRegistryVersion),
   ("error_registry_version", .str s.errorRegistryVersion),
   ("planning_run_id", .str s.planningRunId), ("effective_scope", s.effectiveScope.toJson),
   ("ingress", s.ingress), ("runtime_resolution", s.runtimeResolution.toJson),
   ("inputs", s.inputs), ("created_at_utc", .str s.createdAtUtc)]

structure RunTransition where
  sequence : Int
  fromState : Option RunState
  toState : RunState
  occurredAtUtc : String
  audit : Reference
deriving DecidableEq, Repr

def RunTransition.toJson (t : RunTransition) : Json :=
  .obj
    [("transition_version", .str "planning-run-transition.v1"), ("sequence", .int t.sequence),
     ("from_state", Json.ofOption (fun s : RunState => .str s.text) t.fromState),
     ("to_state", .str t.toState.text), ("occurred_at_utc", .str t.occurredAtUtc),
     ("audit", t.audit.toJson)]

structure AttemptEvidence where
  attemptId : String
  attemptNumber : Int
  runtimeResolutionFingerprint : String
  startedAtUtc : Option String
  finishedAtUtc : Option String
deriving DecidableEq, Repr

def AttemptEvidence.toJson (e : AttemptEvidence) : Json :=
  .obj
    [("attempt_id", .str e.attemptId), ("attempt_number", .int e.attemptNumber),
     ("runtime_resolution_fingerprint", .str e.runtimeResolutionFingerprint),
     ("started_at_utc", Json.ofOption .str e.startedAtUtc),
     ("finished_at_utc", Json.ofOption .str e.finishedAtUtc)]

structure Cancellation where
  actorReference : String
  reason : String
  cancelledAtUtc : String
  audit : Reference
deriving DecidableEq, Repr

def Cancellation.toJson (c : Cancellation) : Json :=
  .obj
    [("actor_reference", .str c.actorReference), ("reason", .str c.reason),
     ("cancelled_at_utc", .str c.cancelledAtUtc), ("audit", c.audit.toJson)]

inductive HeadlessCode where
  | dataValidationFailed
  | modelInvalid
  | infeasible
  | noSolutionWithinLimit
  | scheduleValidationFailed
  | runCancelled
  | systemError
deriving DecidableEq, Repr

/-- `_headless_error`; the code decides every field but two. -/
structure HeadlessError where
  code : HeadlessCode
  planningRunId : String
  correlationId : String
deriving DecidableEq, Repr

/-- Category, code, stage, message, retryability and action. -/
def HeadlessCode.tuple : HeadlessCode → String × String × String × String × String × String
  | .dataValidationFailed =>
    ("DATA_ERROR", "DATA_VALIDATION_FAILED", "DATA_VALIDATION",
     "Canonical planning data did not pass Data Validation.", "NOT_RETRYABLE", "FIX_REQUEST")
  | .modelInvalid =>
    ("MODEL_INVALID", "MODEL_INVALID", "PROBLEM_BUILD",
     "The PlanningProblem could not be built into a valid model.", "NOT_RETRYABLE", "FIX_REQUEST")
  | .infeasible =>
    ("INFEASIBLE", "INFEASIBLE", "SOLVER", "The validated planning model is infeasible.",
     "NOT_RETRYABLE", "FIX_REQUEST")
  | .noSolutionWithinLimit =>
    ("NO_SOLUTION_WITHIN_LIMIT", "NO_SOLUTION_WITHIN_LIMIT", "SOLVER",
     "No solution was proven within the configured solve limit.", "RETRY_AFTER_OPERATOR_ACTION",
     "CONTACT_OPERATOR")
  | .scheduleValidationFailed =>
    ("VALIDATION_FAILED", "SCHEDULE_VALIDATION_FAILED", "VALIDATION",
     "The candidate schedule did not pass formal validation.", "NOT_RETRYABLE", "FIX_REQUEST")
  | .runCancelled =>
    ("CANCELLED", "RUN_CANCELLED", "STATE",
     "The PlanningRun was cancelled by an authorized command.", "NOT_RETRYABLE",
     "READ_CURRENT_STATE")
  | .systemError =>
    ("SYSTEM_ERROR", "SYSTEM_ERROR", "SYSTEM",
     "PlanningRun execution failed without exposing partial success.", "RETRY_SAME_REQUEST",
     "RETRY_SAME_IDEMPOTENCY_KEY")

def HeadlessError.toJson (e : HeadlessError) : Json :=
  let (category, code, stage, message, retryability, action) := e.code.tuple
  .obj
    [("error_version", .str "headless-error.v1"), ("namespace", .str "HEADLESS_RUNTIME"),
     ("registry_version", .str "headless-error-code-registry.v1"), ("category", .str category),
     ("code", .str code), ("stage", .str stage), ("message", .str message), ("pointer", .null),
     ("entity_reference", .str e.planningRunId),
     ("expected_contract", .str "planning-run.v1 frozen transition evidence"),
     ("correlation_id", .str e.correlationId), ("retryability", .str retryability),
     ("action", .str action)]

/-! ### The documents -/

/-- The `planning-run.v1` carrier; `terminal` and `allowed_actions` follow from its state. -/
structure PlanningRun where
  source : RunSource
  revision : Int
  state : RunState
  attempt : Option AttemptEvidence
  artifacts : Artifacts
  cancellation : Option Cancellation
  error : Option HeadlessError
  lastTransition : RunTransition
  auditReferences : List Reference
  updatedAtUtc : String
  runFingerprint : String
deriving DecidableEq

def PlanningRun.membersWithoutFingerprint (r : PlanningRun) : List (String × Json) :=
  r.source.members ++
    [("revision", .int r.revision), ("state", .str r.state.text),
     ("terminal", .bool (r.state ∈ planningRunTerminalStates)),
     ("allowed_actions",
       .strings (if r.state.Terminal then ["READ"] else ["READ", "CANCEL"])),
     ("attempt", Json.ofOption AttemptEvidence.toJson r.attempt),
     ("artifacts", r.artifacts.toJson),
     ("cancellation", Json.ofOption Cancellation.toJson r.cancellation),
     ("error", Json.ofOption HeadlessError.toJson r.error),
     ("last_transition", r.lastTransition.toJson),
     ("audit_references", .arr (r.auditReferences.map Reference.toJson)),
     ("updated_at_utc", .str r.updatedAtUtc)]

def PlanningRun.toJson (r : PlanningRun) : Json :=
  .obj (r.membersWithoutFingerprint ++ [("run_fingerprint", .str r.runFingerprint)])

/-- `prepared_artifacts`, with the members that orchestration reads. -/
structure PreparedArtifacts where
  importQualityReport : Option Reference
  snapshot : Option Reference
  problem : Option Reference
  syntheticProvenance : Option Json
  runtimeReplan : Option Json
  others : List (String × Json)
deriving DecidableEq

def PreparedArtifacts.toJson (p : PreparedArtifacts) : Json :=
  .obj
    ([("import_quality_report", Json.ofOption Reference.toJson p.importQualityReport),
      ("snapshot", Json.ofOption Reference.toJson p.snapshot),
      ("problem", Json.ofOption Reference.toJson p.problem)] ++
      (p.syntheticProvenance.toList.map fun v => ("synthetic_provenance", v)) ++
      (p.runtimeReplan.toList.map fun v => ("runtime_replan", v)) ++ p.others)

/-- `PlanningRunAggregate`, its bytes decoded. -/
structure RunAggregate where
  document : PlanningRun
  initial : PlanningRun
  prepared : PreparedArtifacts
  sourceIngressId : String
  sourceRecordFingerprint : String
deriving DecidableEq

/-- `planning-run-attempt.v1` -/
structure RunAttempt where
  attemptId : String
  planningRunId : String
  attemptNumber : Int
  revision : Int
  status : AttemptStatus
  expectedRunRevision : Int
  expectedRunState : RunState
  expectedRunFingerprint : String
  runtimeResolutionFingerprint : String
  extensionSetFingerprint : String
  availableAtUtc : String
  timeoutAtUtc : String
  startedAtUtc : Option String
  finishedAtUtc : Option String
  failureCode : Option String
  resultReferences : Artifacts
  audit : Reference
  attemptFingerprint : String
deriving DecidableEq, Repr

def RunAttempt.membersWithoutFingerprint (a : RunAttempt) : List (String × Json) :=
  [("attempt_version", .str "planning-run-attempt.v1"), ("attempt_id", .str a.attemptId),
   ("planning_run_id", .str a.planningRunId), ("attempt_number", .int a.attemptNumber),
   ("revision", .int a.revision), ("status", .str a.status.text),
   ("expected_run_revision", .int a.expectedRunRevision),
   ("expected_run_state", .str a.expectedRunState.text),
   ("expected_run_fingerprint", .str a.expectedRunFingerprint),
   ("runtime_resolution_fingerprint", .str a.runtimeResolutionFingerprint),
   ("extension_set_fingerprint", .str a.extensionSetFingerprint),
   ("available_at_utc", .str a.availableAtUtc), ("timeout_at_utc", .str a.timeoutAtUtc),
   ("started_at_utc", Json.ofOption .str a.startedAtUtc),
   ("finished_at_utc", Json.ofOption .str a.finishedAtUtc),
   ("failure_code", Json.ofOption .str a.failureCode),
   ("result_references", a.resultReferences.toJson), ("audit", a.audit.toJson)]

def RunAttempt.toJson (a : RunAttempt) : Json :=
  .obj (a.membersWithoutFingerprint ++ [("attempt_fingerprint", .str a.attemptFingerprint)])

/-- `planning-run-work-item.v1` -/
structure RunWorkItem where
  workItemId : String
  planningRunId : String
  attemptId : String
  attemptNumber : Int
  expectedRunRevision : Int
  expectedRunState : RunState
  expectedRunFingerprint : String
  runtimeResolution : RuntimeResolution
  preparedArtifacts : PreparedArtifacts
  inputs : Json
  availableAtUtc : String
  timeoutAtUtc : String
  correlationId : String
  audit : Reference
  workItemFingerprint : String
deriving DecidableEq

def RunWorkItem.membersWithoutFingerprint (w : RunWorkItem) : List (String × Json) :=
  [("work_item_version", .str "planning-run-work-item.v1"), ("work_item_id", .str w.workItemId),
   ("planning_run_id", .str w.planningRunId), ("attempt_id", .str w.attemptId),
   ("attempt_number", .int w.attemptNumber),
   ("expected_run_revision", .int w.expectedRunRevision),
   ("expected_run_state", .str w.expectedRunState.text),
   ("expected_run_fingerprint", .str w.expectedRunFingerprint),
   ("runtime_resolution", w.runtimeResolution.toJson),
   ("prepared_artifacts", w.preparedArtifacts.toJson), ("inputs", w.inputs),
   ("available_at_utc", .str w.availableAtUtc), ("timeout_at_utc", .str w.timeoutAtUtc),
   ("correlation_id", .str w.correlationId), ("audit", w.audit.toJson)]

def RunWorkItem.toJson (w : RunWorkItem) : Json :=
  .obj (w.membersWithoutFingerprint ++ [("work_item_fingerprint", .str w.workItemFingerprint)])

/-- `planning-run-command-record.v1`; its own id and fingerprint are derived from the rest. -/
structure CommandRecord where
  operation : String
  planningRunId : String
  scopeFingerprint : String
  keyReference : String
  requestFingerprint : String
  occurredAtUtc : String
  audit : Reference
  planningRun : PlanningRun
  attempt : Option RunAttempt
  workItem : Option RunWorkItem
deriving DecidableEq

/-- `PlanningRunReadModel` -/
structure ReadModel where
  aggregate : RunAggregate
  attempts : List RunAttempt
  workItems : List RunWorkItem

/-- `PlanningRunActionResult` -/
structure ActionResult where
  aggregate : RunAggregate
  attempt : Option RunAttempt
  workItem : Option RunWorkItem
  auditReference : Reference
  replayed : Bool
deriving DecidableEq

/-! ### The platform -/

/-- `_FINGERPRINT.fullmatch` -/
def isFingerprint (value : String) : Bool :=
  value.length = 71 && "sha256:".toList.isPrefixOf value.toList &&
    (value.toList.drop 7).all fun c => c ∈ "0123456789abcdef".toList

/-- What orchestration is given: the digests of `canonical_fingerprint` and
`idempotency_key_reference`, the frozen schema catalog, the plane of the repository and the
check of a run against its durable ingress record. -/
structure Platform where
  fingerprint : Json → String
  keyReference : String → String
  schemas : String → Json → Bool
  dataPlane : String
  sourceMatches : RunAggregate → Except RunError Unit
  fingerprint_form : ∀ value, isFingerprint (fingerprint value) = true
  keyReference_form : ∀ key, isFingerprint (keyReference key) = true

namespace Platform
variable (P : Platform)

/-- `derived_identity` -/
def derivedIdentity (name : String) (value : Json) : String :=
  name ++ "-" ++ String.ofList ((P.fingerprint value).toList.drop 7)

/-- `run_fingerprint` -/
def runFingerprint (run : PlanningRun) : String :=
  P.fingerprint (.obj run.membersWithoutFingerprint)

/-- `scope_fingerprint` -/
def scopeFingerprint (scope : EffectiveScope) : String :=
  P.fingerprint (.obj scope.membersWithoutFingerprint)

/-- `runtime_resolution_fingerprint` -/
def runtimeResolutionFingerprint (runtime : RuntimeResolution) : String :=
  P.fingerprint (.obj runtime.members)

end Platform
end PlantNexus.Runs
