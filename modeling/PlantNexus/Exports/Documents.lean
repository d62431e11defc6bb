import PlantNexus.Domain.Types
import PlantNexus.Domain.WorkspaceContracts

/-! Export jobs and their audit events.

A job document carries its state, the attempt and the lease of the worker that holds it, and the
identity of its latest audit event. Identities are digests: of a job from the schedule and the
client's key, of an audit event from the job, the phase and the attempt, of a lease from the job,
the attempt and the owner. -/
namespace PlantNexus.Exports
open Data Domain Time

/-! ### Errors -/

inductive ExportJobFailure where
  | invalidRequest
  | authorizationDenied
  | productionAuthorityUnavailable
  | sourceNotFound
  | publicationNotFound
  | staleSource
  | idempotencyConflict
  | stateConflict
  | leaseConflict
  | exportFailed
  | persistenceFailed
deriving DecidableEq, Repr

/-- What a service call raises: an `ExportJobError`, the error of a document contract, or the
`KeyError` of a command without its key. -/
inductive ExportError where
  | job (reason : ExportJobFailure) (field : String)
  | workspace (error : WorkspaceContractError)
  | p4 (error : P4ContractError)
  | keyError (field : String)
deriving DecidableEq, Repr

/-! ### Jobs -/

inductive ExportJobState where
  | created
  | exporting
  | exported
  | exportFailed
  | cancelled
deriving DecidableEq, Repr

def ExportJobState.text : ExportJobState → String
  | .created => "CREATED"
  | .exporting => "EXPORTING"
  | .exported => "EXPORTED"
  | .exportFailed => "EXPORT_FAILED"
  | .cancelled => "CANCELLED"

/-- `_EXPORT_JOB_TRANSITIONS` -/
def exportJobTransitions : List (ExportJobState × ExportJobState) :=
  [(.created, .exporting), (.created, .cancelled), (.exporting, .exported),
   (.exporting, .exportFailed), (.exporting, .cancelled), (.exportFailed, .exporting)]

/-- `EXPORTED` and `CANCELLED` are never left. -/
def ExportJobState.Terminal (s : ExportJobState) : Prop := s = .exported ∨ s = .cancelled

instance (s : ExportJobState) : Decidable s.Terminal := inferInstanceAs (Decidable (_ ∨ _))

structure IdempotencyReference where
  scope : String
  keyReference : String
  requestFingerprint : String
deriving DecidableEq, Repr

def IdempotencyReference.toJson (r : IdempotencyReference) : Json :=
  .obj
    [("scope", .str r.scope), ("key_reference", .str r.keyReference),
     ("request_fingerprint", .str r.requestFingerprint)]

/-- The published schedule version that a job exports; the version field is written for
`schedule-version.v2` only. -/
structure ScheduleReference where
  scheduleVersionVersion : Option String
  scheduleVersionId : Json
  contentFingerprint : Json
deriving DecidableEq

def ScheduleReference.toJson (r : ScheduleReference) : Json :=
  .obj
    ((r.scheduleVersionVersion.toList.map fun v => ("schedule_version_version", .str v)) ++
      [("schedule_version_id", r.scheduleVersionId), ("state", .str "PUBLISHED"),
       ("content_fingerprint", r.contentFingerprint)])

/-- An export job document. Its data plane, target and synthetic flag are constants. -/
structure ExportJob where
  exportJobVersion : String
  schemaSetVersion : String
  exportJobId : String
  state : ExportJobState
  scheduleVersion : ScheduleReference
  changeReport : Option Json
  environment : String
  syntheticProvenance : Json
  packageProfile : String
  idempotencyReference : IdempotencyReference
  attempt : Nat
  leaseReference : Option String
  heartbeatAtUtc : Option String
  artifactManifest : Option Json
  error : Option String
  createdAtUtc : String
  updatedAtUtc : String
  startedAtUtc : Option String
  finishedAtUtc : Option String
  cancelledAtUtc : Option String
  latestAuditEventId : String
  jobFingerprint : String
deriving DecidableEq

/-- The fields of `_MUTABLE_EXPORT_FIELDS`, but for the fingerprint. -/
def ExportJob.mutableMembers (job : ExportJob) : List (String × Json) :=
  [("state", .str job.state.text), ("attempt", .int job.attempt),
   ("lease_reference", Json.ofOption .str job.leaseReference),
   ("heartbeat_at_utc", Json.ofOption .str job.heartbeatAtUtc),
   ("artifact_manifest", Json.ofOption id job.artifactManifest),
   ("error", Json.ofOption
     (fun message => .obj
       [("error_namespace", .str "WORKSPACE_CONTROL"), ("reason", .str "EXPORT_FAILED"),
        ("message", .str message)]) job.error),
   ("updated_at_utc", .str job.updatedAtUtc),
   ("started_at_utc", Json.ofOption .str job.startedAtUtc),
   ("finished_at_utc", Json.ofOption .str job.finishedAtUtc),
   ("cancelled_at_utc", Json.ofOption .str job.cancelledAtUtc),
   ("latest_audit_event_id", .str job.latestAuditEventId)]

def ExportJob.identityMembers (job : ExportJob) : List (String × Json) :=
  [("export_job_version", .str job.exportJobVersion),
   ("schema_set_version", .str job.schemaSetVersion),
   ("canonicalization_version", .str "canonical-json.v1"),
   ("export_job_id", .str job.exportJobId), ("schedule_version", job.scheduleVersion.toJson)] ++
  (job.changeReport.toList.map fun report => ("change_report", report)) ++
  [("data_plane", .str "SIMULATION"), ("environment", .str job.environment),
   ("synthetic", .bool true), ("synthetic_provenance", job.syntheticProvenance),
   ("target", .str "SIMULATION_INTERNAL"), ("package_profile", .str job.packageProfile),
   ("idempotency_reference", job.idempotencyReference.toJson),
   ("created_at_utc", .str job.createdAtUtc)]

/-- `_job_fingerprint`: over every field but the fingerprint itself. -/
def ExportJob.fingerprint (job : ExportJob) : String :=
  contractFingerprint (.obj (job.identityMembers ++ job.mutableMembers))

/-- `_identity_fingerprint`: over the fields that no transition changes. -/
def ExportJob.identityFingerprint (job : ExportJob) : String :=
  contractFingerprint (.obj job.identityMembers)

def ExportJob.withFingerprint (job : ExportJob) : ExportJob :=
  { job with jobFingerprint := job.fingerprint }

def ExportJob.toJson (job : ExportJob) : Json :=
  .obj (job.identityMembers ++ job.mutableMembers ++ [("job_fingerprint", .str job.jobFingerprint)])

/-- `_require_job_document`. The schedule state and the state of the job are in range by type. -/
def requireJobDocument (job : ExportJob) : Except ExportError Unit := do
  if job.exportJobVersion = "export-job.v3" then
    require (job.schemaSetVersion = "2.8.0")
      (.p4 ⟨.versionMismatch, "schema_set_version",
        "does not match the immutable contract projection"⟩)
    require (job.environment ∈ ["DEVELOPMENT", "TEST", "BENCHMARK"])
      (.p4 ⟨.planeViolation, "environment", "is not isolated"⟩)
    require (job.jobFingerprint = job.fingerprint)
      (.p4 ⟨.identityMismatch, "job_fingerprint",
        "does not match the immutable contract projection"⟩)
  else
    require (job.exportJobVersion ∈ ["export-job.v1", "export-job.v2"])
      (.workspace ⟨"$", "exactly one supported workspace document version is required"⟩)
    require (job.schemaSetVersion = documentSchemaSetVersion job.exportJobVersion)
      (.workspace ⟨"schema_set_version", "does not match canonical projection"⟩)
    require (job.jobFingerprint = job.fingerprint)
      (.workspace ⟨"job_fingerprint", "does not match canonical projection"⟩)
    (checkNoSecretKeys "$" job.toJson).mapError .workspace

/-! ### Requests and contexts -/

structure ExportJobContext where
  actorRef : String
  authenticated : Bool
  resolvedCapabilities : List String
  scheduleVersionScope : List String
  exportJobScope : List String
  authPolicyVersion : String
  productionBinding : Bool
  occurredAtUtc : String
  codeCommit : String
deriving DecidableEq, Repr

structure ExportJobRequest where
  scheduleVersionId : String
  expectedContentFingerprint : String
  rawIdempotencyKey : String
  reason : String
  correlationId : String
  environment : String
  syntheticProvenance : Json
  dataPlane : String
  target : String
  changeReportReference : Option Json
deriving DecidableEq

structure ExportJobIdentity where
  exportJobId : String
  requestFingerprint : String
  keyReference : String
  idempotencyScope : String
  createAuditEventId : String
deriving DecidableEq, Repr

/-- `_SAFE_TEXT.fullmatch` -/
def isSafeText (value : String) : Bool :=
  1 ≤ value.length && value.length ≤ 512 &&
    value.toList.all fun c => !(c.toNat < 32 || c.toNat == 127)

/-- `_safe_text` -/
def safeText (value field : String) : Except ExportError String := do
  require (isSafeText value = true) (.job .invalidRequest field)
  return value

/-- A character of `[A-Za-z0-9._:-]`. -/
def isKeyChar (c : Char) : Bool := c.isAlphanum || c ∈ ['.', '_', ':', '-']

def isHexDigit (c : Char) : Bool := c ∈ "0123456789abcdef".toList

/-- A fixed text before 64 hexadecimal digits. -/
def isDigestText (start value : String) : Bool :=
  start.toList.isPrefixOf value.toList && value.length = start.length + 64 &&
    (value.toList.drop start.length).all isHexDigit

/-- `_change_report_reference` -/
def changeReportReference (value : Option Json) : Except ExportError Json := do
  let refused : ExportError := .job .invalidRequest "change_report_reference"
  match value with
  | some (.obj members) =>
    let reference := Json.obj members
    require (reference.keys.length = 3 ∧ ∀ key ∈ ["change_report_version", "report_id",
      "report_fingerprint"], key ∈ reference.keys) refused
    require (reference.get "change_report_version" = .str "change-report.v1") refused
    match reference.get "report_id", reference.get "report_fingerprint" with
    | .str reportId, .str reportFingerprint =>
      require (isDigestText "change-report-" reportId = true ∧
        isDigestText "sha256:" reportFingerprint = true) refused
      return reference
    | _, _ => .error refused
  | _ => .error refused

/-- `_request_projection` -/
def requestProjection (request : ExportJobRequest) (keyReference : String) : Json :=
  .obj
    ([("service_version", .str "export-job-service.v1"),
      ("schedule_version_id", .str request.scheduleVersionId),
      ("expected_content_fingerprint", .str request.expectedContentFingerprint),
      ("key_reference", .str keyReference), ("reason", .str request.reason),
      ("correlation_id", .str request.correlationId),
      ("environment", .str request.environment),
      ("synthetic_provenance", request.syntheticProvenance),
      ("data_plane", .str request.dataPlane), ("target", .str request.target),
      ("package_profile", .str
        (if request.changeReportReference.isSome then "p4-dynamic-replan-export.v1"
         else "p3-standard-export.v1"))] ++
     (request.changeReportReference.toList.map fun reference => ("change_report", reference)))

/-- The phases by which audit events of a job are told apart. -/
inductive AuditPhase where
  | create
  | attempt
  | completed
  | failed
  | recovered
  | cancelled
  | denied
deriving DecidableEq, Repr

def AuditPhase.text : AuditPhase → String
  | .create => "CREATE"
  | .attempt => "ATTEMPT"
  | .completed => "COMPLETED"
  | .failed => "FAILED"
  | .recovered => "RECOVERED"
  | .cancelled => "CANCELLED"
  | .denied => "DENIED"

def auditEventId (exportJobId : String) (phase : AuditPhase) (attempt : Nat) : String :=
  "audit-export-" ++ Sha256.hexdigest s!"{exportJobId}/{phase.text}/{attempt}"

def leaseReferenceFor (exportJobId : String) (attempt : Nat) (ownerReference : String) :
    Except ExportError String := do
  let _ ← safeText ownerReference "owner_reference"
  return "sha256:" ++ Sha256.hexdigest s!"{exportJobId}/{attempt}/{ownerReference}"

/-- The identity that an accepted request names. -/
def ExportJobRequest.identity (request : ExportJobRequest) : ExportJobIdentity :=
  let keyReference := "sha256:" ++ Sha256.hexdigest request.rawIdempotencyKey
  let exportJobId := "export-job-" ++
    Sha256.hexdigest s!"{request.dataPlane}/{request.scheduleVersionId}/{keyReference}"
  { exportJobId
    requestFingerprint := contractFingerprint (requestProjection request keyReference)
    keyReference
    idempotencyScope :=
      s!"{request.dataPlane}/EXPORT/{request.scheduleVersionId}/{request.target}"
    createAuditEventId := auditEventId exportJobId .create 0 }

/-- `export_job_identity` -/
def exportJobIdentity (request : ExportJobRequest) : Except ExportError ExportJobIdentity := do
  let _ ← safeText request.scheduleVersionId "schedule_version_id"
  let _ ← safeText request.reason "reason"
  let _ ← safeText request.correlationId "correlation_id"
  require (16 ≤ request.rawIdempotencyKey.length ∧ request.rawIdempotencyKey.length ≤ 128 ∧
    request.rawIdempotencyKey.toList.all isKeyChar = true)
    (.job .invalidRequest "raw_idempotency_key")
  require (isDigestText "sha256:" request.expectedContentFingerprint = true)
    (.job .invalidRequest "expected_content_fingerprint")
  require (request.environment ∈ ["DEVELOPMENT", "TEST", "BENCHMARK", "PRODUCTION"])
    (.job .invalidRequest "environment")
  if request.changeReportReference.isSome then
    let _ ← changeReportReference request.changeReportReference
  return request.identity

def isActor (value : String) : Bool :=
  "actor:".toList.isPrefixOf value.toList && 7 ≤ value.length &&
    (value.toList.drop 6).all isKeyChar

def isCommit (value : String) : Bool :=
  value = "uncommitted" || value.length = 40 && value.toList.all isHexDigit

/-- `require_export_authorization` -/
def requireExportAuthorization (request : ExportJobRequest) (ctx : ExportJobContext) :
    Except ExportError ExportJobIdentity := do
  let identity ← exportJobIdentity request
  let _ ← (parseUtcInstant ctx.occurredAtUtc).mapError fun _ =>
    ExportError.job .invalidRequest "context.occurred_at_utc"
  require (isActor ctx.actorRef = true ∧ ctx.authPolicyVersion ≠ "")
    (.job .invalidRequest "context.actor_ref/auth_policy_version")
  require (isCommit ctx.codeCommit = true) (.job .invalidRequest "context.code_commit")
  require (request.dataPlane ≠ "PRODUCTION" ∧ request.environment ≠ "PRODUCTION")
    (.job .productionAuthorityUnavailable "data_plane/environment")
  require (request.dataPlane = "SIMULATION" ∧ request.target = "SIMULATION_INTERNAL")
    (.job .authorizationDenied "data_plane/target")
  require (ctx.authenticated = true ∧ "export" ∈ ctx.resolvedCapabilities ∧
    request.scheduleVersionId ∈ ctx.scheduleVersionScope)
    (.job .authorizationDenied "authorization")
  return identity

/-- `require_job_authorization` -/
def requireJobAuthorization (exportJobId : String) (ctx : ExportJobContext) :
    Except ExportError Unit := do
  let _ ← (parseUtcInstant ctx.occurredAtUtc).mapError fun _ =>
    ExportError.job .invalidRequest "context.occurred_at_utc"
  require (ctx.authenticated = true ∧ "export" ∈ ctx.resolvedCapabilities ∧
    exportJobId ∈ ctx.exportJobScope ∧ ctx.productionBinding = false)
    (.job .authorizationDenied "authorization")

/-! ### Changes of a job -/

/-- The document of a new job. -/
def ExportJob.created (request : ExportJobRequest) (identity : ExportJobIdentity)
    (occurredAtUtc : String) (isP4 : Bool) (changeReport : Option Json) (schedule : Json) :
    ExportJob :=
  ExportJob.withFingerprint
    { exportJobVersion := if isP4 then "export-job.v3" else "export-job.v2"
      schemaSetVersion := if isP4 then "2.8.0" else "2.7.0"
      exportJobId := identity.exportJobId
      state := .created
      scheduleVersion :=
        ⟨if isP4 then some "schedule-version.v2" else none, schedule.get "schedule_version_id",
          schedule.get "content_fingerprint"⟩
      changeReport
      environment := request.environment
      syntheticProvenance := request.syntheticProvenance
      packageProfile := if isP4 then "p4-dynamic-replan-export.v1" else "p3-standard-export.v1"
      idempotencyReference :=
        ⟨identity.idempotencyScope, identity.keyReference, identity.requestFingerprint⟩
      attempt := 0
      leaseReference := none
      heartbeatAtUtc := none
      artifactManifest := none
      error := none
      createdAtUtc := occurredAtUtc
      updatedAtUtc := occurredAtUtc
      startedAtUtc := none
      finishedAtUtc := none
      cancelledAtUtc := none
      latestAuditEventId := identity.createAuditEventId
      jobFingerprint := "" }

/-- The contract of a stored schedule version, and whether it is a `schedule-version.v2`. -/
def scheduleContract (otherDocument : String → Json → Except P4ContractError Unit)
    (schedule : Json) : Except ExportError Bool := do
  if schedule.get "schedule_version_version" = .str "schedule-version.v2" then
    let version ← (requireP4Document otherDocument schedule).mapError fun _ =>
      ExportError.job .staleSource "schedule_version"
    require (version = "schedule-version.v2" ∧ schedule.get "state" = .str "PUBLISHED")
      (.job .staleSource "schedule_version.state")
    return true
  else
    let version ← (requireWorkspaceDocument schedule).mapError .workspace
    require (version = "schedule-version.v1" ∧ schedule.get "state" = .str "PUBLISHED")
      (.job .staleSource "schedule_version.state")
    return false

/-- The change report of a job: that of the schedule's lineage, or none. -/
def createdChangeReport (request : ExportJobRequest) (schedule : Json) (isP4 : Bool) :
    Except ExportError (Option Json) :=
  if isP4 then do
    let reference ← changeReportReference request.changeReportReference
    let lineage := schedule.get "lineage"
    require (lineage.isObj = true ∧ (lineage.get "change_report").pyEq reference = true)
      (.job .staleSource "schedule_version.lineage.change_report")
    return some reference
  else do
    require (request.changeReportReference = none)
      (.job .invalidRequest "change_report_reference")
    return none

/-- `build_created_export_job` -/
def buildCreatedExportJob (otherDocument : String → Json → Except P4ContractError Unit)
    (request : ExportJobRequest) (identity : ExportJobIdentity) (occurredAtUtc : String)
    (schedule publication : Json) : Except ExportError ExportJob := do
  let isP4 ← scheduleContract otherDocument schedule
  let version ← (requireWorkspaceDocument publication).mapError ExportError.workspace
  require (version = "publication-result.v1") (.job .publicationNotFound "publication_result")
  let published := publication.get "published_version"
  require (published.isObj = true)
    (.job .publicationNotFound "publication_result.published_version")
  require
    ((published.get "schedule_version_id").pyEq (schedule.get "schedule_version_id") = true ∧
      (published.get "content_fingerprint").pyEq (schedule.get "content_fingerprint") = true ∧
      schedule.get "content_fingerprint" = .str request.expectedContentFingerprint)
    (.job .staleSource "schedule_version")
  let changeReport ← createdChangeReport request schedule isP4
  let job := ExportJob.created request identity occurredAtUtc isP4 changeReport schedule
  requireJobDocument job
  return job

/-- What a transition writes. -/
structure TransitionFields where
  targetState : ExportJobState
  occurredAtUtc : String
  auditEventId : String
  attempt : Nat
  leaseReference : Option String
  artifactManifest : Option Json
  errorMessage : Option String

/-- The document after a transition, with the message of a failure. -/
def ExportJob.transitioned (current : ExportJob) (t : TransitionFields)
    (error : Option String) : ExportJob :=
  ExportJob.withFingerprint
    { current with
      state := t.targetState
      attempt := t.attempt
      updatedAtUtc := t.occurredAtUtc
      latestAuditEventId := t.auditEventId
      leaseReference := if t.targetState = .exporting then t.leaseReference else none
      heartbeatAtUtc := if t.targetState = .exporting then some t.occurredAtUtc else none
      artifactManifest := t.artifactManifest
      error
      startedAtUtc :=
        if t.targetState = .exporting ∧ current.startedAtUtc = none then some t.occurredAtUtc
        else current.startedAtUtc
      finishedAtUtc :=
        if t.targetState = .exported ∨ t.targetState = .exportFailed then some t.occurredAtUtc
        else if t.targetState = .exporting then none
        else current.finishedAtUtc
      cancelledAtUtc :=
        if t.targetState = .cancelled then some t.occurredAtUtc
        else if current.state = .exportFailed ∧ t.targetState = .exporting then none
        else current.cancelledAtUtc }

/-- `error_message or "Export attempt failed."` -/
def messageOrDefault : Option String → String
  | some message => if message = "" then "Export attempt failed." else message
  | none => "Export attempt failed."

/-- The message that a failure carries. -/
def failureMessage (t : TransitionFields) : Except ExportError (Option String) :=
  if t.targetState = .exportFailed then
    (safeText (messageOrDefault t.errorMessage) "error_message").map some
  else .ok none

/-- `transition_export_job` -/
def transitionExportJob (current : ExportJob) (t : TransitionFields) :
    Except ExportError ExportJob := do
  let error ← failureMessage t
  let job := current.transitioned t error
  requireJobDocument job
  return job

def ExportJob.beaten (current : ExportJob) (occurredAtUtc : String) : ExportJob :=
  ExportJob.withFingerprint
    { current with heartbeatAtUtc := some occurredAtUtc, updatedAtUtc := occurredAtUtc }

/-- `heartbeat_export_job` -/
def heartbeatExportJob (current : ExportJob) (occurredAtUtc : String) :
    Except ExportError ExportJob := do
  let job := current.beaten occurredAtUtc
  requireJobDocument job
  return job

/-! ### Audit events -/

inductive AuditOutcome where
  | succeeded
  | failed
  | denied
deriving DecidableEq, Repr

def AuditOutcome.text : AuditOutcome → String
  | .succeeded => "SUCCEEDED"
  | .failed => "FAILED"
  | .denied => "DENIED"

/-- An audit event about an export job. Its versions, plane, capability, target, intent,
lineage, new version and the aggregate type are constants. -/
structure AuditEvent where
  auditEventId : String
  occurredAtUtc : String
  actorRef : String
  authPolicyVersion : String
  environment : String
  syntheticProvenance : Json
  action : String
  aggregateId : String
  reason : Json
  requestFingerprint : String
  idempotencyReference : Option IdempotencyReference
  beforeState : Option ExportJobState
  afterState : Option ExportJobState
  sourceScheduleVersionId : Json
  sourceContentFingerprint : Json
  outcome : AuditOutcome
  correlationId : Json
  parentAuditEventId : Option String
  codeCommit : String
deriving DecidableEq

/-- The error that an outcome carries. -/
def AuditOutcome.errorJson : AuditOutcome → Json
  | .succeeded => .null
  | .failed => .obj
      [("error_namespace", .str "WORKSPACE_CONTROL"), ("reason", .str "EXPORT_FAILED"),
       ("message", .str "Export lifecycle operation failed.")]
  | .denied => .obj
      [("error_namespace", .str "WORKSPACE_CONTROL"), ("reason", .str "AUTHORIZATION_DENIED"),
       ("message", .str "Export authorization was denied.")]

def AuditEvent.toJson (event : AuditEvent) : Json :=
  .obj
    [("audit_event_version", .str "audit-event.v1"), ("schema_set_version", .str "2.6.0"),
     ("canonicalization_version", .str "canonical-json.v1"),
     ("audit_event_id", .str event.auditEventId),
     ("occurred_at_utc", .str event.occurredAtUtc), ("actor_ref", .str event.actorRef),
     ("resolved_capability", .str "export"),
     ("auth_policy_version", .str event.authPolicyVersion),
     ("environment", .str event.environment), ("data_plane", .str "SIMULATION"),
     ("synthetic", .bool true), ("synthetic_provenance", event.syntheticProvenance),
     ("action", .str event.action), ("aggregate_type", .str "EXPORT_JOB"),
     ("aggregate_id", .str event.aggregateId), ("target", .str "SIMULATION_INTERNAL"),
     ("intent_type", .str "EXPORT"), ("reason", event.reason),
     ("request_fingerprint", .str event.requestFingerprint),
     ("idempotency_reference", Json.ofOption IdempotencyReference.toJson
       event.idempotencyReference),
     ("lineage", .null),
     ("before_state", Json.ofOption (fun s => .str s.text) event.beforeState),
     ("after_state", Json.ofOption (fun s => .str s.text) event.afterState),
     ("source_version", .obj
       [("schedule_version_id", event.sourceScheduleVersionId), ("state", .str "PUBLISHED"),
        ("content_fingerprint", event.sourceContentFingerprint)]),
     ("new_version", .null), ("export_job_id", .str event.aggregateId),
     ("result", .obj
       [("outcome", .str event.outcome.text), ("replayed", .bool false),
        ("retryable", .bool (event.outcome = .failed)), ("error", event.outcome.errorJson)]),
     ("correlation_id", event.correlationId),
     ("parent_audit_event_id", Json.ofOption .str event.parentAuditEventId),
     ("code_commit", .str event.codeCommit)]

/-- `require_workspace_document` of an audit event: its versions are constants. -/
def requireAuditDocument (event : AuditEvent) : Except WorkspaceContractError Unit := do
  require (∀ reference ∈ event.idempotencyReference,
    reference.requestFingerprint = event.requestFingerprint)
    ⟨"idempotency_reference.request_fingerprint", "does not match canonical projection"⟩
  checkNoSecretKeys "$" event.toJson

/-- The event of `build_export_audit`. -/
def exportAudit (job : ExportJob) (ctx : ExportJobContext) (auditEventId action : String)
    (beforeState : Option ExportJobState) (afterState : ExportJobState) (outcome : AuditOutcome)
    (idempotentCreate : Bool) (parentAuditEventId correlationId : String) : AuditEvent :=
  { auditEventId
    occurredAtUtc := ctx.occurredAtUtc
    actorRef := ctx.actorRef
    authPolicyVersion := ctx.authPolicyVersion
    environment := job.environment
    syntheticProvenance := job.syntheticProvenance
    action
    aggregateId := job.exportJobId
    reason := .str "EXPORT_JOB_LIFECYCLE"
    requestFingerprint := job.idempotencyReference.requestFingerprint
    idempotencyReference := if idempotentCreate then some job.idempotencyReference else none
    beforeState
    afterState := some afterState
    sourceScheduleVersionId := job.scheduleVersion.scheduleVersionId
    sourceContentFingerprint := job.scheduleVersion.contentFingerprint
    outcome
    correlationId := .str correlationId
    parentAuditEventId := some parentAuditEventId
    codeCommit := ctx.codeCommit }

/-- `build_export_audit` -/
def buildExportAudit (job : ExportJob) (ctx : ExportJobContext) (auditEventId action : String)
    (beforeState : Option ExportJobState) (afterState : ExportJobState) (outcome : AuditOutcome)
    (idempotentCreate : Bool) (parentAuditEventId correlationId : String) :
    Except ExportError AuditEvent := do
  let event := exportAudit job ctx auditEventId action beforeState afterState outcome
    idempotentCreate parentAuditEventId correlationId
  (requireAuditDocument event).mapError .workspace
  return event

/-- The event of `build_export_authorization_denial_audit`. -/
def denialAudit (request : ExportJobRequest) (ctx : ExportJobContext)
    (identity : ExportJobIdentity) : AuditEvent :=
  { auditEventId := auditEventId identity.exportJobId .denied 0
    occurredAtUtc := ctx.occurredAtUtc
    actorRef := ctx.actorRef
    authPolicyVersion := ctx.authPolicyVersion
    environment := request.environment
    syntheticProvenance := request.syntheticProvenance
    action := "CREATE_EXPORT"
    aggregateId := identity.exportJobId
    reason := .str request.reason
    requestFingerprint := identity.requestFingerprint
    idempotencyReference := none
    beforeState := none
    afterState := none
    sourceScheduleVersionId := .str request.scheduleVersionId
    sourceContentFingerprint := .str request.expectedContentFingerprint
    outcome := .denied
    correlationId := .str request.correlationId
    parentAuditEventId := none
    codeCommit := ctx.codeCommit }

end PlantNexus.Exports
