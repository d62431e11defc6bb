import PlantNexus.Runs.Verification

/-! The run commands up to their repository write.

A command reads the model and the command record of its key, checks its preconditions and ends
in the replay of a recorded result, a rejection or one mutation for the repository. -/
namespace PlantNexus.Runs
open Data Time Domain

/-- `PlanningRunCommandContext` -/
structure CommandContext where
  actorReference : String
  capabilities : List String
  authPolicyVersion : String
  tenantId : String
  factoryId : String
  planningScopeId : String
  dataPlane : String
  environment : String
  productionBinding : Bool
  correlationId : String
  occurredAtUtc : String
  codeCommit : String
deriving DecidableEq, Repr

/-! ### Commands -/

structure MaterializeCommand where
  aggregate : RunAggregate
  keyReference : String
  availableAtUtc : String
  timeoutAtUtc : String
deriving DecidableEq

/-- The run a command expects. -/
structure ExpectedRun where
  planningRunId : String
  revision : Int
  state : RunState
  fingerprint : String
deriving DecidableEq, Repr

structure TransitionCommand where
  expected : ExpectedRun
  toState : RunState
  idempotencyKey : String
  reason : String
  artifacts : Artifacts
  attemptId : Option String
deriving DecidableEq, Repr

structure CancelCommand where
  expected : ExpectedRun
  idempotencyKey : String
  reason : String
deriving DecidableEq, Repr

structure RetryCommand where
  expected : ExpectedRun
  failedAttemptId : String
  failedAttemptNumber : Int
  idempotencyKey : String
  reason : String
  availableAtUtc : String
  timeoutAtUtc : String
deriving DecidableEq, Repr

structure AttemptFailureCommand where
  expected : ExpectedRun
  attemptId : String
  attemptNumber : Int
  expectedAttemptRevision : Int
  outcome : AttemptStatus
  failureCode : String
  idempotencyKey : String
  reason : String
deriving DecidableEq, Repr

structure AttemptStartCommand where
  expected : ExpectedRun
  attemptId : String
  attemptNumber : Int
  expectedAttemptRevision : Int
  idempotencyKey : String
  reason : String
deriving DecidableEq, Repr

/-! ### Mutations -/

structure TransitionMutation where
  previous : RunAggregate
  aggregate : RunAggregate
  previousAttempt : Option RunAttempt
  attempt : Option RunAttempt
  command : CommandRecord
deriving DecidableEq

inductive Mutation where
  | materialize (aggregate : RunAggregate) (attempt : RunAttempt) (workItem : RunWorkItem)
      (command : CommandRecord)
  | transition (mutation : TransitionMutation)
  | retry (aggregate : RunAggregate) (failed attempt : RunAttempt) (workItem : RunWorkItem)
      (command : CommandRecord)
  | updateAttempt (aggregate : RunAggregate) (previous attempt : RunAttempt)
      (command : CommandRecord)
deriving DecidableEq

def Mutation.command : Mutation → CommandRecord
  | .materialize _ _ _ command => command
  | .transition mutation => mutation.command
  | .retry _ _ _ _ command => command
  | .updateAttempt _ _ _ command => command

/-- How a command leaves the service before the repository. -/
inductive Prepared where
  | replay (result : ActionResult)
  | write (mutation : Mutation)
deriving DecidableEq

section
variable (P : Platform)

def CommandContext.scopeBase (ctx : CommandContext) : EffectiveScope :=
  ⟨ctx.tenantId, ctx.factoryId, ctx.planningScopeId, ctx.dataPlane, ctx.environment, ""⟩

def CommandContext.effectiveScope (ctx : CommandContext) : EffectiveScope :=
  { ctx.scopeBase with scopeFingerprint := P.scopeFingerprint ctx.scopeBase }

/-- `_authorize` -/
def authorize (aggregate : RunAggregate) (ctx : CommandContext) (readOnly : Bool) :
    Except RunError Unit := do
  require (ctx.dataPlane = P.dataPlane)
    ⟨.dataPlaneMismatch, "context.data_plane",
      "Runtime context crossed the repository data plane"⟩
  require (ctx.dataPlane = "PRODUCTION" → ctx.productionBinding = true)
    ⟨.dataPlaneMismatch, "context.production_binding",
      "Production PlanningRun authority is not bound"⟩
  require ("edit" ∈ ctx.capabilities ∨ readOnly = true ∧ "view" ∈ ctx.capabilities)
    ⟨.authorityConflict, "context.capabilities",
      "Required server-derived PlanningRun capability is absent"⟩
  require (aggregate.document.source.effectiveScope = ctx.effectiveScope P)
    ⟨.scopeMismatch, "context.effective_scope",
      "Runtime context does not match PlanningRun scope"⟩

/-- `_scope` -/
def commandScope (operation : String) (planningRunId : String) (ctx : CommandContext) : String :=
  P.fingerprint
    (.obj
      [("operation", .str operation), ("planning_run_id", .str planningRunId),
       ("effective_scope", (ctx.effectiveScope P).toJson)])

/-! ### Audit events and command records -/

/-- What a command is recorded under. -/
structure CommandIdentity where
  operation : String
  scope : String
  keyReference : String
  requestFingerprint : String
deriving DecidableEq, Repr

def CommandIdentity.auditSeed (id : CommandIdentity) (planningRunId : String) : Json :=
  .obj
    [("operation", .str id.operation), ("planning_run_id", .str planningRunId),
     ("scope_fingerprint", .str id.scope), ("key_reference", .str id.keyReference),
     ("request_fingerprint", .str id.requestFingerprint)]

/-- The `audit-event.v1` document of a command. -/
def auditDocument (aggregate : RunAggregate) (ctx : CommandContext) (id : CommandIdentity)
    (reason : String) (parentAuditEventId : String) : Json :=
  let planningRunId := aggregate.initial.source.planningRunId
  let synthetic := decide (ctx.dataPlane = "SIMULATION")
  .obj
    ([("audit_event_version", .str "audit-event.v1"), ("schema_set_version", .str "2.6.0"),
      ("canonicalization_version", .str "canonical-json.v1"),
      ("audit_event_id", .str (P.derivedIdentity "audit-event" (id.auditSeed planningRunId))),
      ("occurred_at_utc", .str ctx.occurredAtUtc), ("actor_ref", .str ctx.actorReference),
      ("resolved_capability", .str "edit"),
      ("auth_policy_version", .str ctx.authPolicyVersion),
      ("environment", .str ctx.environment), ("data_plane", .str ctx.dataPlane),
      ("synthetic", .bool synthetic), ("action", .str "EDIT_SCHEDULE"),
      ("aggregate_type", .str "PLANNING_RUN"), ("aggregate_id", .str planningRunId),
      ("target", .str (if synthetic then "SIMULATION_INTERNAL" else "WORKSPACE_INTERNAL")),
      ("intent_type", .str "COMMAND"), ("reason", .str reason),
      ("request_fingerprint", .str id.requestFingerprint),
      ("idempotency_reference",
        .obj [("scope", .str id.scope), ("key_reference", .str id.keyReference),
          ("request_fingerprint", .str id.requestFingerprint)]),
      ("lineage", .null), ("before_state", .null), ("after_state", .null),
      ("source_version", .null), ("new_version", .null), ("export_job_id", .null),
      ("result",
        .obj [("outcome", .str "SUCCEEDED"), ("replayed", .bool false),
          ("retryable", .bool false), ("error", .null)]),
      ("correlation_id", .str ctx.correlationId),
      ("parent_audit_event_id", .str parentAuditEventId), ("code_commit", .str ctx.codeCommit)] ++
      (if synthetic then
        aggregate.prepared.syntheticProvenance.toList.map fun v => ("synthetic_provenance", v)
      else []))

def auditEventSchemaId : String := "urn:plantnexus:aps:schema:audit-event:v1"

/-- `_audit_reference` -/
def auditEventReference (aggregate : RunAggregate) (ctx : CommandContext) (id : CommandIdentity)
    (reason : String) (parentAuditEventId : String) : Reference :=
  ⟨"audit-event.v1",
    P.derivedIdentity "audit-event" (id.auditSeed aggregate.initial.source.planningRunId),
    P.fingerprint (auditDocument P aggregate ctx id reason parentAuditEventId)⟩

/-- `_audit`, with its reference. -/
def auditReference (aggregate : RunAggregate) (ctx : CommandContext) (id : CommandIdentity)
    (reason : String) (parentAuditEventId : String) : Except RunError Reference := do
  require (ctx.dataPlane = "SIMULATION" → aggregate.prepared.syntheticProvenance ≠ none)
    (lineage "prepared_artifacts.synthetic_provenance"
      "Synthetic provenance is absent from orchestration source")
  require (P.schemas auditEventSchemaId
      (auditDocument P aggregate ctx id reason parentAuditEventId) = true)
    (lineage "audit_event" "PlanningRun audit violates audit-event.v1")
  return auditEventReference P aggregate ctx id reason parentAuditEventId

/-- The record of a command and its result. -/
def CommandIdentity.record (id : CommandIdentity) (aggregate : RunAggregate)
    (attempt : Option RunAttempt) (workItem : Option RunWorkItem) (audit : Reference)
    (occurredAtUtc : String) : CommandRecord :=
  { operation := id.operation
    planningRunId := aggregate.document.source.planningRunId
    scopeFingerprint := id.scope
    keyReference := id.keyReference
    requestFingerprint := id.requestFingerprint
    occurredAtUtc
    audit
    planningRun := aggregate.document
    attempt
    workItem }

/-- `_command_record` -/
def commandRecord (id : CommandIdentity) (aggregate : RunAggregate) (attempt : Option RunAttempt)
    (workItem : Option RunWorkItem) (audit : Reference) (occurredAtUtc : String) :
    Except RunError CommandRecord := do
  let record := id.record aggregate attempt workItem audit occurredAtUtc
  verifyCommandRecord record
  return record

/-- `_result_from_command` -/
def resultFromCommand (command : CommandRecord) (source : RunAggregate) (replayed : Bool) :
    Except RunError ActionResult := do
  let aggregate := { source with document := command.planningRun }
  verifyPlanningRun P aggregate none
  match command.attempt with
  | none => pure ()
  | some attempt => verifyAttempt P attempt aggregate.document none
  match command.workItem with
  | none => pure ()
  | some workItem =>
    match command.attempt with
    | none =>
      .error (lineage "planning_run_command.result.work_item" "Command work item has no attempt")
    | some attempt => verifyWorkItem P workItem aggregate attempt true
  return ⟨aggregate, command.attempt, command.workItem, command.audit, replayed⟩

/-- `_existing_result`: the record of the key decides, before any other check. -/
def existingResult (existing : Option CommandRecord) (id : CommandIdentity)
    (source : RunAggregate) : Except RunError (Option ActionResult) :=
  match existing with
  | none => .ok none
  | some record => do
    require (record.requestFingerprint = id.requestFingerprint)
      ⟨.idempotencyConflict, "idempotency_key",
        "Idempotency key is bound to different command content"⟩
    let result ← resultFromCommand P record source true
    return some result

/-- Replay the recorded result, or go on to a write. -/
def orExisting (existing : Option CommandRecord) (id : CommandIdentity) (source : RunAggregate)
    (next : Except RunError Mutation) : Except RunError Prepared := do
  match ← existingResult P existing id source with
  | some result => return .replay result
  | none =>
    let mutation ← next
    return .write mutation

/-! ### Attempts and work items -/

/-- `_with_fingerprint` -/
def RunAttempt.withFingerprint (a : RunAttempt) : RunAttempt :=
  { a with attemptFingerprint := a.fingerprintFor P }

def attemptSeed (run : PlanningRun) (attemptNumber : Int) : Json :=
  .obj
    [("planning_run_id", .str run.source.planningRunId), ("attempt_number", .int attemptNumber),
     ("expected_run_fingerprint", .str run.runFingerprint)]

/-- The record that `create_queued_attempt` writes. -/
def RunAttempt.queued (run : PlanningRun) (attemptNumber : Int)
    (availableAtUtc timeoutAtUtc : String) (audit : Reference) : RunAttempt :=
  RunAttempt.withFingerprint P
    { attemptId := P.derivedIdentity "planning-run-attempt" (attemptSeed run attemptNumber)
      planningRunId := run.source.planningRunId
      attemptNumber
      revision := 1
      status := .queued
      expectedRunRevision := run.revision
      expectedRunState := run.state
      expectedRunFingerprint := run.runFingerprint
      runtimeResolutionFingerprint := run.source.runtimeResolution.resolutionFingerprint
      extensionSetFingerprint := run.source.runtimeResolution.extensionSetFingerprint
      availableAtUtc
      timeoutAtUtc
      startedAtUtc := none
      finishedAtUtc := none
      failureCode := none
      resultReferences := run.artifacts
      audit
      attemptFingerprint := "" }

/-- `create_queued_attempt` -/
def createQueuedAttempt (aggregate : RunAggregate) (attemptNumber : Int)
    (availableAtUtc timeoutAtUtc : String) (audit : Reference) : Except RunError RunAttempt := do
  let attempt := RunAttempt.queued P aggregate.document attemptNumber availableAtUtc timeoutAtUtc
    audit
  verifyAttempt P attempt aggregate.document none
  return attempt

def workItemSeed (run : PlanningRun) (attempt : RunAttempt) : Json :=
  .obj
    [("planning_run_id", .str run.source.planningRunId), ("attempt_id", .str attempt.attemptId),
     ("attempt_number", .int attempt.attemptNumber)]

/-- The record that `create_work_item` writes. -/
def RunWorkItem.queued (aggregate : RunAggregate) (attempt : RunAttempt)
    (correlationId : String) : RunWorkItem :=
  let run := aggregate.document
  let workItem : RunWorkItem :=
    { workItemId := P.derivedIdentity "planning-run-work-item" (workItemSeed run attempt)
      planningRunId := run.source.planningRunId
      attemptId := attempt.attemptId
      attemptNumber := attempt.attemptNumber
      expectedRunRevision := attempt.expectedRunRevision
      expectedRunState := attempt.expectedRunState
      expectedRunFingerprint := attempt.expectedRunFingerprint
      runtimeResolution := run.source.runtimeResolution
      preparedArtifacts := aggregate.prepared
      inputs := run.source.inputs
      availableAtUtc := attempt.availableAtUtc
      timeoutAtUtc := attempt.timeoutAtUtc
      correlationId
      audit := attempt.audit
      workItemFingerprint := "" }
  { workItem with workItemFingerprint := workItem.fingerprintFor P }

/-- `create_work_item` -/
def createWorkItem (aggregate : RunAggregate) (attempt : RunAttempt) (correlationId : String) :
    Except RunError RunWorkItem := do
  let workItem := RunWorkItem.queued P aggregate attempt correlationId
  verifyWorkItem P workItem aggregate attempt true
  return workItem

/-- The record that `transition_attempt` writes. -/
def RunAttempt.advanced (previous : RunAttempt) (toStatus : AttemptStatus)
    (occurredAtUtc : String) (audit : Reference) (failureCode : Option String)
    (resultReferences : Artifacts) : RunAttempt :=
  RunAttempt.withFingerprint P
    { previous with
      revision := previous.revision + 1
      status := toStatus
      startedAtUtc :=
        if toStatus = .active ∧ previous.startedAtUtc = none then some occurredAtUtc
        else previous.startedAtUtc
      finishedAtUtc := if toStatus.Terminal then some occurredAtUtc else previous.finishedAtUtc
      failureCode
      resultReferences
      audit }

/-- `transition_attempt` -/
def transitionAttempt (previous : RunAttempt) (aggregate : RunAggregate)
    (toStatus : AttemptStatus) (occurredAtUtc : String) (audit : Reference)
    (failureCode : Option String) (resultReferences : Artifacts) : Except RunError RunAttempt := do
  let attempt := previous.advanced P toStatus occurredAtUtc audit failureCode resultReferences
  verifyAttempt P attempt aggregate.document (some previous)
  return attempt

/-! ### Shared preconditions -/

/-- `_latest_attempt` -/
def latestAttempt (model : ReadModel) : Except RunError RunAttempt :=
  match model.attempts.getLast? with
  | some attempt => .ok attempt
  | none =>
    .error ⟨.invalidReference, "planning_run_attempt", "PlanningRun has no durable attempt"⟩

/-- `_require_expected` -/
def requireExpected (run : PlanningRun) (expected : ExpectedRun) : Except RunError Unit :=
  require (run.revision = expected.revision ∧ run.state = expected.state ∧
      run.runFingerprint = expected.fingerprint)
    ⟨.staleRun, "expected_run", "PlanningRun precondition is stale"⟩

def ExpectedRun.members (e : ExpectedRun) : List (String × Json) :=
  [("planning_run_id", .str e.planningRunId), ("expected_revision", .int e.revision),
   ("expected_state", .str e.state.text), ("expected_run_fingerprint", .str e.fingerprint)]

/-! ### Materialize -/

def MaterializeCommand.request (c : MaterializeCommand) : Json :=
  .obj
    [("operation", .str "MATERIALIZE"), ("source_ingress_id", .str c.aggregate.sourceIngressId),
     ("source_record_fingerprint", .str c.aggregate.sourceRecordFingerprint),
     ("planning_run_id", .str c.aggregate.initial.source.planningRunId),
     ("available_at_utc", .str c.availableAtUtc), ("timeout_at_utc", .str c.timeoutAtUtc)]

def MaterializeCommand.identity (c : MaterializeCommand) (ctx : CommandContext) :
    CommandIdentity :=
  { operation := "MATERIALIZE"
    scope := commandScope P "MATERIALIZE" c.aggregate.document.source.planningRunId ctx
    keyReference := c.keyReference
    requestFingerprint := P.fingerprint c.request }

/-- The write of a materialization. -/
def materializeMutation (c : MaterializeCommand) (ctx : CommandContext) (id : CommandIdentity) :
    Except RunError Mutation := do
  let audit ← auditReference P c.aggregate ctx id
    "Materialize the durable PlanningRun and queue-ready attempt."
    c.aggregate.initial.lastTransition.audit.artifactId
  let attempt ← createQueuedAttempt P c.aggregate 1 c.availableAtUtc c.timeoutAtUtc audit
  let workItem ← createWorkItem P c.aggregate attempt ctx.correlationId
  let command ← commandRecord id c.aggregate (some attempt) (some workItem) audit
    ctx.occurredAtUtc
  return .materialize c.aggregate attempt workItem command

/-- `materialize_prepared`, given the command record of its key. -/
def prepareMaterialize (c : MaterializeCommand) (ctx : CommandContext)
    (getCommand : String → String → Option CommandRecord) : Except RunError Prepared := do
  verifyPlanningRun P c.aggregate none
  authorize P c.aggregate ctx false
  let id := c.identity P ctx
  orExisting P (getCommand id.scope id.keyReference) id c.aggregate
    (materializeMutation P c ctx id)

/-! ### Transition -/

def TransitionCommand.request (c : TransitionCommand) : Json :=
  .obj
    ([("operation", .str "TRANSITION")] ++ c.expected.members ++
      [("to_state", .str c.toState.text), ("reason", .str c.reason),
       ("artifacts", c.artifacts.toJson), ("attempt_id", Json.ofOption .str c.attemptId)])

def TransitionCommand.identity (c : TransitionCommand) (run : PlanningRun)
    (ctx : CommandContext) : CommandIdentity :=
  { operation := "TRANSITION:" ++ c.toState.text
    scope := commandScope P ("TRANSITION:" ++ c.toState.text) run.source.planningRunId ctx
    keyReference := P.keyReference c.idempotencyKey
    requestFingerprint := P.fingerprint c.request }

def statesWithoutAttemptEvidence : List RunState :=
  [.ingesting, .validating, .snapshotted, .dataRejected]

/-- The status a bound attempt moves to with a run transition. -/
def nextAttemptStatus (status : AttemptStatus) (toState : RunState) :
    Except RunError AttemptStatus :=
  if status.Terminal then do
    require (status.Retryable ∧ (toState = .cancelled ∨ toState = .failed))
      ⟨.attemptNotRetryable, "attempt.status",
        "Terminal attempt cannot advance this PlanningRun"⟩
    return status
  else if status = .queued ∧ toState ∉ [.cancelled, .failed, .dataRejected] then return .active
  else
    match toState with
    | .cancelled => return .cancelled
    | .failed => return if status = .queued then .dispatchFailed else .failed
    | .dataRejected => return .cancelled
    | .completed => return .succeeded
    | .modelInvalid | .infeasible | .noSolutionWithinLimit | .validationFailed => return .failed
    | _ => return status

/-- The failure code that an attempt takes over from a run transition. -/
def transitionFailureCode : RunState → Option String
  | .failed => some "SYSTEM_ERROR"
  | .modelInvalid => some "MODEL_INVALID"
  | .infeasible => some "INFEASIBLE"
  | .noSolutionWithinLimit => some "NO_SOLUTION_WITHIN_LIMIT"
  | .validationFailed => some "SCHEDULE_VALIDATION_FAILED"
  | _ => none

/-- The attempt a transition binds, and what it becomes. -/
def bindAttempt (c : TransitionCommand) (model : ReadModel) (latest : RunAttempt)
    (ctx : CommandContext) (audit : Reference) :
    Except RunError (Option (RunAttempt × RunAttempt)) :=
  match c.attemptId with
  | none => .ok none
  | some attemptId => do
    require ((model.attempts.filter fun a => a.attemptId = attemptId).length = 1 ∧
        latest.attemptId = attemptId)
      ⟨.staleAttempt, "attempt_id", "Transition must use the latest durable attempt"⟩
    let nextStatus ← nextAttemptStatus latest.status c.toState
    if nextStatus = latest.status then return some (latest, latest)
    else
      let next ← transitionAttempt P latest model.aggregate nextStatus ctx.occurredAtUtc audit
        (transitionFailureCode c.toState) c.artifacts
      return some (latest, next)

def attemptEvidence (a : RunAttempt) (toState : RunState) : Option AttemptEvidence :=
  if a.startedAtUtc ≠ none ∧ toState ∉ statesWithoutAttemptEvidence then
    some ⟨a.attemptId, a.attemptNumber, a.runtimeResolutionFingerprint, a.startedAtUtc,
      a.finishedAtUtc⟩
  else none

/-- The attempt evidence of the run after a transition. -/
def boundEvidence (bound : Option (RunAttempt × RunAttempt)) (current : PlanningRun)
    (toState : RunState) : Option AttemptEvidence :=
  match bound with
  | some (_, next) => attemptEvidence next toState
  | none => current.attempt

/-- The error that a terminal transition exposes. -/
def transitionError (toState : RunState) (planningRunId correlationId : String) :
    Option HeadlessError :=
  let withCode code : Option HeadlessError := some ⟨code, planningRunId, correlationId⟩
  match toState with
  | .cancelled => withCode .runCancelled
  | .failed => withCode .systemError
  | .dataRejected => withCode .dataValidationFailed
  | .modelInvalid => withCode .modelInvalid
  | .infeasible => withCode .infeasible
  | .noSolutionWithinLimit => withCode .noSolutionWithinLimit
  | .validationFailed => withCode .scheduleValidationFailed
  | _ => none

/-- The run document after a transition. -/
def nextRun (c : TransitionCommand) (current : PlanningRun) (evidence : Option AttemptEvidence)
    (ctx : CommandContext) (audit : Reference) : PlanningRun :=
  let run : PlanningRun :=
    { current with
      revision := current.revision + 1
      state := c.toState
      attempt := evidence
      artifacts := c.artifacts
      cancellation :=
        if c.toState = .cancelled then
          some ⟨ctx.actorReference, c.reason, ctx.occurredAtUtc, audit⟩
        else none
      error := transitionError c.toState c.expected.planningRunId ctx.correlationId
      lastTransition := ⟨current.revision, some current.state, c.toState, ctx.occurredAtUtc, audit⟩
      auditReferences := current.auditReferences ++ [audit]
      updatedAtUtc := ctx.occurredAtUtc
      runFingerprint := "" }
  { run with runFingerprint := P.runFingerprint run }

/-- The checks of a transition that depend on the latest attempt. -/
def checkTransitionAttempt (c : TransitionCommand) (latest : RunAttempt) :
    Except RunError Unit := do
  require (c.toState.Terminal → c.attemptId ≠ none)
    ⟨.invalidReference, "attempt_id",
      "Terminal transition must bind the latest durable attempt"⟩
  require (¬c.toState.Terminal → ¬latest.status.Terminal)
    ⟨.attemptNotRetryable, "attempt.status",
      "A terminal attempt must be retried before run progress"⟩
  require (¬(c.attemptId ≠ none ∧ c.toState ∈ statesWithoutAttemptEvidence ∧
      ¬c.toState.Terminal))
    ⟨.invalidReference, "attempt_id", "Target state does not admit public attempt evidence"⟩

def statesWithAttemptEvidence : List RunState :=
  [.building, .solving, .solved, .verifying, .completed, .modelInvalid, .infeasible,
   .noSolutionWithinLimit, .validationFailed]

/-- The write of a transition. -/
def transitionMutation (c : TransitionCommand) (model : ReadModel) (ctx : CommandContext)
    (id : CommandIdentity) : Except RunError Mutation := do
  let aggregate := model.aggregate
  let current := aggregate.document
  requireExpected current c.expected
  requirePlanningRunTransition current.state c.toState
  let audit ← auditReference P aggregate ctx id c.reason current.lastTransition.audit.artifactId
  let latest ← latestAttempt model
  checkTransitionAttempt c latest
  let bound ← bindAttempt P c model latest ctx audit
  let evidence := boundEvidence bound current c.toState
  require (c.toState ∈ statesWithAttemptEvidence → evidence ≠ none)
    ⟨.invalidReference, "attempt_id", "Target state requires a durable attempt"⟩
  let candidate := { aggregate with document := nextRun P c current evidence ctx audit }
  verifyPlanningRun P candidate (some current)
  let command ← commandRecord id candidate (bound.map Prod.snd) none audit ctx.occurredAtUtc
  return .transition
    { previous := aggregate
      aggregate := candidate
      previousAttempt := bound.map Prod.fst
      attempt := bound.map Prod.snd
      command }

/-- `transition`, after `read`. -/
def prepareTransition (c : TransitionCommand) (model : ReadModel) (ctx : CommandContext)
    (getCommand : String → String → Option CommandRecord) : Except RunError Prepared := do
  authorize P model.aggregate ctx false
  let id := c.identity P model.aggregate.document ctx
  orExisting P (getCommand id.scope id.keyReference) id model.aggregate
    (transitionMutation P c model ctx id)

/-- The transition that `cancel` makes of the model it has read. -/
def CancelCommand.toTransition (c : CancelCommand) (model : ReadModel) : TransitionCommand :=
  { expected := c.expected
    toState := .cancelled
    idempotencyKey := c.idempotencyKey
    reason := c.reason
    artifacts := model.aggregate.document.artifacts
    attemptId := model.attempts.getLast?.map RunAttempt.attemptId }

/-! ### Attempt outcomes -/

def AttemptFailureCommand.request (c : AttemptFailureCommand) : Json :=
  .obj
    ([("operation", .str "ATTEMPT_FAILURE")] ++ c.expected.members ++
      [("attempt_id", .str c.attemptId), ("attempt_number", .int c.attemptNumber),
       ("expected_attempt_revision", .int c.expectedAttemptRevision),
       ("outcome", .str c.outcome.text), ("failure_code", .str c.failureCode),
       ("reason", .str c.reason)])

def AttemptStartCommand.request (c : AttemptStartCommand) : Json :=
  .obj
    ([("operation", .str "ATTEMPT_START")] ++ c.expected.members ++
      [("attempt_id", .str c.attemptId), ("attempt_number", .int c.attemptNumber),
       ("expected_attempt_revision", .int c.expectedAttemptRevision),
       ("reason", .str c.reason)])

def AttemptFailureCommand.identity (c : AttemptFailureCommand) (run : PlanningRun)
    (ctx : CommandContext) : CommandIdentity :=
  { operation := "ATTEMPT:" ++ c.outcome.text
    scope := commandScope P ("ATTEMPT:" ++ c.outcome.text) run.source.planningRunId ctx
    keyReference := P.keyReference c.idempotencyKey
    requestFingerprint := P.fingerprint c.request }

def AttemptStartCommand.identity (c : AttemptStartCommand) (run : PlanningRun)
    (ctx : CommandContext) : CommandIdentity :=
  { operation := "ATTEMPT:ACTIVE"
    scope := commandScope P "ATTEMPT:ACTIVE" run.source.planningRunId ctx
    keyReference := P.keyReference c.idempotencyKey
    requestFingerprint := P.fingerprint c.request }

/-- The write of a command that advances the latest attempt and leaves the run as it is. -/
def attemptMutation (model : ReadModel) (ctx : CommandContext) (id : CommandIdentity)
    (expected : ExpectedRun) (terminalMessage : String) (current : RunAttempt → Prop)
    [DecidablePred current] (staleMessage : String) (reason : String) (toStatus : AttemptStatus)
    (failureCode : Option String) : Except RunError Mutation := do
  let aggregate := model.aggregate
  require (¬aggregate.document.state.Terminal)
    ⟨.invalidStateTransition, "planning_run.state", terminalMessage⟩
  requireExpected aggregate.document expected
  let attempt ← latestAttempt model
  require (current attempt) ⟨.staleAttempt, "attempt", staleMessage⟩
  let audit ← auditReference P aggregate ctx id reason
    aggregate.document.lastTransition.audit.artifactId
  let updated ← transitionAttempt P attempt aggregate toStatus ctx.occurredAtUtc audit failureCode
    aggregate.document.artifacts
  let command ← commandRecord id aggregate (some updated) none audit ctx.occurredAtUtc
  return .updateAttempt aggregate attempt updated command

/-- `record_attempt_failure`, after `read`. -/
def prepareAttemptFailure (c : AttemptFailureCommand) (model : ReadModel) (ctx : CommandContext)
    (getCommand : String → String → Option CommandRecord) : Except RunError Prepared := do
  require (c.outcome = .dispatchFailed ∨ c.outcome = .timedOut)
    ⟨.unknownOutcome, "outcome", "Only dispatch failure or timeout is a P8-04 attempt outcome"⟩
  authorize P model.aggregate ctx false
  let id := c.identity P model.aggregate.document ctx
  orExisting P (getCommand id.scope id.keyReference) id model.aggregate
    (attemptMutation P model ctx id c.expected "Terminal PlanningRun cannot accept attempt outcomes"
      (fun a => a.attemptId = c.attemptId ∧ a.attemptNumber = c.attemptNumber ∧
        a.revision = c.expectedAttemptRevision)
      "Attempt precondition is stale" c.reason c.outcome (some c.failureCode))

/-- `start_attempt`, after `read`. -/
def prepareAttemptStart (c : AttemptStartCommand) (model : ReadModel) (ctx : CommandContext)
    (getCommand : String → String → Option CommandRecord) : Except RunError Prepared := do
  authorize P model.aggregate ctx false
  let id := c.identity P model.aggregate.document ctx
  orExisting P (getCommand id.scope id.keyReference) id model.aggregate
    (attemptMutation P model ctx id c.expected "Terminal PlanningRun cannot start a Worker attempt"
      (fun a => a.attemptId = c.attemptId ∧ a.attemptNumber = c.attemptNumber ∧
        a.revision = c.expectedAttemptRevision ∧ a.status = .queued)
      "Only the latest QUEUED attempt can start" c.reason .active none)

/-! ### Retry -/

/-- The request of a retry; the window of the new attempt is no part of it. -/
def RetryCommand.request (c : RetryCommand) : Json :=
  .obj
    ([("operation", .str "RETRY")] ++ c.expected.members ++
      [("failed_attempt_id", .str c.failedAttemptId),
       ("failed_attempt_number", .int c.failedAttemptNumber), ("reason", .str c.reason)])

def RetryCommand.identity (c : RetryCommand) (run : PlanningRun) (ctx : CommandContext) :
    CommandIdentity :=
  { operation := "RETRY"
    scope := commandScope P "RETRY" run.source.planningRunId ctx
    keyReference := P.keyReference c.idempotencyKey
    requestFingerprint := P.fingerprint c.request }

/-- The write of a retry. -/
def retryMutation (c : RetryCommand) (model : ReadModel) (ctx : CommandContext)
    (id : CommandIdentity) : Except RunError Mutation := do
  let aggregate := model.aggregate
  requireExpected aggregate.document c.expected
  require (¬aggregate.document.state.Terminal)
    ⟨.invalidStateTransition, "planning_run.state",
      "Terminal PlanningRun cannot be retried or reopened"⟩
  let failed ← latestAttempt model
  require (failed.attemptId = c.failedAttemptId ∧ failed.attemptNumber = c.failedAttemptNumber)
    ⟨.staleAttempt, "failed_attempt", "Retry does not reference the latest attempt"⟩
  require failed.status.Retryable
    ⟨.attemptNotRetryable, "failed_attempt.status",
      "Only dispatch-failed or timed-out attempts may be retried"⟩
  let audit ← auditReference P aggregate ctx id c.reason
    aggregate.document.lastTransition.audit.artifactId
  let attempt ← createQueuedAttempt P aggregate (failed.attemptNumber + 1) c.availableAtUtc
    c.timeoutAtUtc audit
  let workItem ← createWorkItem P aggregate attempt ctx.correlationId
  let command ← commandRecord id aggregate (some attempt) (some workItem) audit ctx.occurredAtUtc
  return .retry aggregate failed attempt workItem command

/-- `retry`, after `read`. -/
def prepareRetry (c : RetryCommand) (model : ReadModel) (ctx : CommandContext)
    (getCommand : String → String → Option CommandRecord) : Except RunError Prepared := do
  authorize P model.aggregate ctx false
  let id := c.identity P model.aggregate.document ctx
  orExisting P (getCommand id.scope id.keyReference) id model.aggregate
    (retryMutation P c model ctx id)

end
end PlantNexus.Runs
