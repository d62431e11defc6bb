import PlantNexus.Exports.Repository

/-! The export job service.

A call first reads: it is authorized, the job and the receipt of a client command are looked up,
and the new document and its audit events are built. What it then writes is one transaction over
the job row, the audit event and the receipt, which may come after other transactions. -/
namespace PlantNexus.Exports
open Data Domain Time

inductive ExportCommand where
  | create (request : ExportJobRequest) (publication : Json)
  | claim (exportJobId ownerReference : String) (leaseExpiresAtUtc : Datetime)
      (command : Option Json)
  | heartbeat (exportJobId expectedLeaseReference : String) (leaseExpiresAtUtc : Datetime)
  | complete (exportJobId expectedLeaseReference : String) (artifactManifest : Json)
  | fail (exportJobId expectedLeaseReference errorMessage : String) (expiredRecovery : Bool)
  | cancel (exportJobId : String) (expectedLeaseReference : Option String)
      (expiredRecovery : Bool) (command : Option Json)
deriving DecidableEq

structure ExportJobServiceResult where
  document : ExportJob
  stateRevision : Nat
  auditEventId : String
  exactReplay : Bool
deriving DecidableEq

/-- The transaction that a call has prepared. -/
inductive ExportWrite where
  | create (identity : ExportJobIdentity) (job : ExportJob) (audit : AuditEvent)
  | transition (write : TransitionWrite) (audit : AuditEvent) (receipt : Option AuditEvent)
  | heartbeat (write : HeartbeatWrite)
deriving DecidableEq

inductive Prepared where
  | replay (result : ExportJobServiceResult)
  | write (write : ExportWrite)
deriving DecidableEq

/-- `_job` -/
def getJob (tables : ExportTables) (exportJobId : String) : Except ExportError ExportJobRow := do
  (requireText (.str exportJobId) "export_job_id").mapError persistenceError
  match findJob tables.jobs exportJobId with
  | none => .error (.job .sourceNotFound "export_job_id")
  | some row => .ok row

/-! ### Creation -/

/-- A refused creation is recorded on an isolated simulation plane. -/
def recordsDenial (request : ExportJobRequest) : ExportError → Bool
  | .job .authorizationDenied _ =>
    request.dataPlane = "SIMULATION" && request.environment ∈ ["DEVELOPMENT", "TEST", "BENCHMARK"]
  | _ => false

/-- The audit rows that a creation leaves when it is refused; a failing append is ignored. -/
def denialAudits (audits : List AuditRow) (request : ExportJobRequest) (ctx : ExportJobContext) :
    List AuditRow :=
  match requireExportAuthorization request ctx with
  | .ok _ => audits
  | .error error =>
    let event := denialAudit request ctx request.identity
    if recordsDenial request error = true ∧ requireAuditDocument event = .ok () then
      match appendAudit audits event with
      | .ok appended => appended
      | .error _ => audits
    else audits

section
variable (otherDocument : String → Json → Except P4ContractError Unit)

/-- `create`, up to its transaction. -/
def prepareCreate (tables : ExportTables) (request : ExportJobRequest) (ctx : ExportJobContext)
    (publication : Json) : Except ExportError Prepared := do
  match requireExportAuthorization request ctx with
  | .error error =>
    if recordsDenial request error = true then
      (requireAuditDocument (denialAudit request ctx request.identity)).mapError .workspace
    .error error
  | .ok identity =>
    match findJob tables.jobs identity.exportJobId with
    | some row =>
      require (row.document.idempotencyReference.requestFingerprint = identity.requestFingerprint)
        (.job .idempotencyConflict "idempotency_key")
      return .replay ⟨row.document, row.stateRevision, identity.createAuditEventId, true⟩
    | none =>
      match tables.schedules request.scheduleVersionId with
      | none => .error (.job .sourceNotFound "schedule_version_id")
      | some schedule =>
        let job ← buildCreatedExportJob otherDocument request identity ctx.occurredAtUtc schedule
          publication
        let audit ← buildExportAudit job ctx identity.createAuditEventId "CREATE_EXPORT" none
          .created .succeeded true (publication.get "audit_event_id").text request.correlationId
        return .write (.create identity job audit)

end

/-! ### Transitions -/

/-- The arguments of `_transition`. -/
structure TransitionCall where
  exportJobId : String
  targetState : ExportJobState
  phase : AuditPhase
  action : String
  attempt : Option Nat
  leaseReference : Option String
  leaseExpiresAtUtc : Option Datetime
  artifactManifest : Option Json
  errorMessage : Option String
  expectedLeaseReference : Option String
  allowExpiredLeaseRecovery : Bool
  command : Option Json

/-- `str(value)`; of a list or an object, its canonical text. -/
def pyStr : Json → String
  | .null => "None"
  | .bool true => "True"
  | .bool false => "False"
  | .str text => text
  | value => value.dumps

/-- What the receipt of a client command repeats. -/
structure Receipt where
  receiptId : String
  scope : String
  keyReference : String
  requestFingerprint : String
  reason : Json
  correlationId : Json

def commandScope (action exportJobId : String) : String :=
  s!"SIMULATION/{action}/{exportJobId}/SIMULATION_INTERNAL"

def receiptId (scope key : String) : String :=
  "audit-export-command-" ++ Sha256.hexdigest (scope ++ ":" ++ key)

/-- The receipt that a client command leaves on a job. -/
def commandReceipt (command : Json) (fingerprint scope : String) : Receipt :=
  let key := Sha256.hexdigest (pyStr (command.get "idempotency_key"))
  { receiptId := receiptId scope key
    scope
    keyReference := "sha256:" ++ key
    requestFingerprint := fingerprint
    reason := command.get "reason"
    correlationId := command.get "correlation_id" }

/-- The preconditions of a command that has no receipt. -/
def checkPrecondition (job : ExportJob) (action : String) (command : Json) :
    Except ExportError Unit := do
  require (action = "RETRY_EXPORT" → job.state = .exportFailed) (.job .stateConflict "state")
  require (command.get "expected_state" = .str job.state.text ∧
      (command.get "expected_content_fingerprint").pyEq
        job.scheduleVersion.contentFingerprint = true ∧
      ((command.get "payload").get "expected_attempt").pyEq (.int job.attempt) = true)
    (.job .staleSource "command.precondition")
  require (command.get "environment" = .str job.environment ∧
      command.get "data_plane" = .str "SIMULATION" ∧
      command.get "target" = .str "SIMULATION_INTERNAL" ∧
      (command.get "synthetic").pyEq (.bool true) = true ∧
      (command.get "synthetic_provenance").pyEq job.syntheticProvenance = true)
    (.job .invalidRequest "command.context")

/-- The part of `_transition` about a client command: nothing if it has a receipt already. -/
def checkCommand (audits : List AuditRow) (job : ExportJob) (exportJobId action : String)
    (command : Json) : Except ExportError (Option Receipt) := do
  let _ ← (requireWorkspaceDocument command).mapError ExportError.workspace
  require (command.get "command_type" = .str action ∧ command.get "source_id" = .str exportJobId)
    (.job .invalidRequest "command")
  let fingerprint ← (workspaceCommandFingerprint command).mapError ExportError.workspace
  require (command.get "request_fingerprint" = .str fingerprint) (.job .invalidRequest "command")
  require ("idempotency_key" ∈ command.keys) (.keyError "idempotency_key")
  require ("idempotency_scope" ∈ command.keys) (.keyError "idempotency_scope")
  let scope := pyStr (command.get "idempotency_scope")
  require (scope = commandScope action exportJobId) (.job .invalidRequest "idempotency_scope")
  let receipt := commandReceipt command fingerprint scope
  match findAudit audits receipt.receiptId with
  | some previous =>
    require (previous.requestFingerprint = some fingerprint)
      (.job .idempotencyConflict "idempotency_key")
    return none
  | none =>
    checkPrecondition job action command
    return some receipt

/-- The receipt of a command beside the audit event of its transition. -/
def receiptEvent (audit : AuditEvent) (receipt : Receipt) : AuditEvent :=
  { audit with
    auditEventId := receipt.receiptId
    requestFingerprint := receipt.requestFingerprint
    reason := receipt.reason
    correlationId := receipt.correlationId
    idempotencyReference := some ⟨receipt.scope, receipt.keyReference,
      receipt.requestFingerprint⟩ }

def requireReceiptDocument : Option AuditEvent → Except ExportError Unit
  | none => .ok ()
  | some event => (requireAuditDocument event).mapError .workspace

/-- The transaction of a transition from the row that was read. -/
def transitionWrite (ctx : ExportJobContext) (call : TransitionCall) (row : ExportJobRow)
    (receipt : Option Receipt) : Except ExportError ExportWrite := do
  let attempt := call.attempt.getD row.document.attempt
  let eventId := auditEventId call.exportJobId call.phase attempt
  let candidate ← transitionExportJob row.document
    ⟨call.targetState, ctx.occurredAtUtc, eventId, attempt, call.leaseReference,
      call.artifactManifest, call.errorMessage⟩
  let audit ← buildExportAudit candidate ctx eventId call.action (some row.document.state)
    call.targetState (if call.targetState = .exportFailed then .failed else .succeeded) false
    row.document.latestAuditEventId candidate.exportJobId
  let observed ← (parseUtcInstant ctx.occurredAtUtc).mapError fun _ =>
    ExportError.job .invalidRequest "context.occurred_at_utc"
  let recorded := receipt.map (receiptEvent audit)
  requireReceiptDocument recorded
  return .transition
    { exportJobId := call.exportJobId
      expectedState := row.document.state
      expectedStateRevision := row.stateRevision
      candidate
      observedAtUtc := observed
      expectedLeaseReference := call.expectedLeaseReference
      leaseExpiresAtUtc := call.leaseExpiresAtUtc
      allowExpiredLeaseRecovery := call.allowExpiredLeaseRecovery } audit recorded

/-- `_transition`, up to its transaction. -/
def prepareTransition (tables : ExportTables) (ctx : ExportJobContext) (call : TransitionCall) :
    Except ExportError Prepared := do
  requireJobAuthorization call.exportJobId ctx
  let row ← getJob tables call.exportJobId
  match call.command with
  | none => return .write (← transitionWrite ctx call row none)
  | some command =>
    match ← checkCommand tables.audits row.document call.exportJobId call.action command with
    | none =>
      return .replay ⟨row.document, row.stateRevision, row.document.latestAuditEventId, true⟩
    | some receipt => return .write (← transitionWrite ctx call row (some receipt))

/-! ### The calls -/

def claimCall (exportJobId : String) (attempt : Nat) (lease : String)
    (leaseExpiresAtUtc : Datetime) (command : Option Json) : TransitionCall :=
  { exportJobId
    targetState := .exporting
    phase := .attempt
    action := if attempt = 1 then "CREATE_EXPORT" else "RETRY_EXPORT"
    attempt := some attempt
    leaseReference := some lease
    leaseExpiresAtUtc := some leaseExpiresAtUtc
    artifactManifest := none
    errorMessage := none
    expectedLeaseReference := none
    allowExpiredLeaseRecovery := false
    command }

/-- `claim`; both of its reads of the job are the one read of the model. -/
def prepareClaim (tables : ExportTables) (ctx : ExportJobContext)
    (exportJobId ownerReference : String) (leaseExpiresAtUtc : Datetime)
    (command : Option Json) : Except ExportError Prepared := do
  requireJobAuthorization exportJobId ctx
  let row ← getJob tables exportJobId
  require (command = none → row.document.state = .created ∨ row.document.state = .exportFailed)
    (.job .stateConflict "state")
  let attempt := row.document.attempt + 1
  let lease ← leaseReferenceFor exportJobId attempt ownerReference
  prepareTransition tables ctx (claimCall exportJobId attempt lease leaseExpiresAtUtc command)

/-- `heartbeat` -/
def prepareHeartbeat (tables : ExportTables) (ctx : ExportJobContext)
    (exportJobId expectedLeaseReference : String) (leaseExpiresAtUtc : Datetime) :
    Except ExportError Prepared := do
  requireJobAuthorization exportJobId ctx
  let row ← getJob tables exportJobId
  let candidate ← heartbeatExportJob row.document ctx.occurredAtUtc
  let observed ← (parseUtcInstant ctx.occurredAtUtc).mapError fun _ =>
    ExportError.job .invalidRequest "context.occurred_at_utc"
  return .write (.heartbeat
    ⟨exportJobId, row.stateRevision, expectedLeaseReference, candidate, observed,
      leaseExpiresAtUtc⟩)

def completeCall (exportJobId expectedLeaseReference : String) (artifactManifest : Json) :
    TransitionCall :=
  { exportJobId
    targetState := .exported
    phase := .completed
    action := "CREATE_EXPORT"
    attempt := none
    leaseReference := none
    leaseExpiresAtUtc := none
    artifactManifest := some artifactManifest
    errorMessage := none
    expectedLeaseReference := some expectedLeaseReference
    allowExpiredLeaseRecovery := false
    command := none }

def failCall (exportJobId expectedLeaseReference errorMessage : String)
    (expiredRecovery : Bool) : TransitionCall :=
  { exportJobId
    targetState := .exportFailed
    phase := if expiredRecovery then .recovered else .failed
    action := "RETRY_EXPORT"
    attempt := none
    leaseReference := none
    leaseExpiresAtUtc := none
    artifactManifest := none
    errorMessage := some errorMessage
    expectedLeaseReference := some expectedLeaseReference
    allowExpiredLeaseRecovery := expiredRecovery
    command := none }

def cancelCall (exportJobId : String) (expectedLeaseReference : Option String)
    (expiredRecovery : Bool) (command : Option Json) : TransitionCall :=
  { exportJobId
    targetState := .cancelled
    phase := .cancelled
    action := "CANCEL_EXPORT"
    attempt := none
    leaseReference := none
    leaseExpiresAtUtc := none
    artifactManifest := none
    errorMessage := none
    expectedLeaseReference
    allowExpiredLeaseRecovery := expiredRecovery
    command }

section
variable (otherDocument : String → Json → Except P4ContractError Unit)

/-- The read of a call. -/
def ExportTables.prepare (tables : ExportTables) (ctx : ExportJobContext) :
    ExportCommand → Except ExportError Prepared
  | .create request publication => prepareCreate otherDocument tables request ctx publication
  | .claim exportJobId owner expiry command =>
    prepareClaim tables ctx exportJobId owner expiry command
  | .heartbeat exportJobId lease expiry => prepareHeartbeat tables ctx exportJobId lease expiry
  | .complete exportJobId lease manifest =>
    prepareTransition tables ctx (completeCall exportJobId lease manifest)
  | .fail exportJobId lease message recovery =>
    prepareTransition tables ctx (failCall exportJobId lease message recovery)
  | .cancel exportJobId lease recovery command =>
    prepareTransition tables ctx (cancelCall exportJobId lease recovery command)

end

/-- The audit rows that a refused call leaves. -/
def ExportTables.auditsRefused (tables : ExportTables) (ctx : ExportJobContext) :
    ExportCommand → List AuditRow
  | .create request _ => denialAudits tables.audits request ctx
  | _ => tables.audits

def appendReceipt (audits : List AuditRow) :
    Option AuditEvent → Except PersistenceError (List AuditRow)
  | none => .ok audits
  | some event => appendAudit audits event

/-- The transaction of a call: all of its writes or none. -/
def ExportTables.commit (tables : ExportTables) :
    ExportWrite → Except PersistenceError (ExportTables × ExportJobServiceResult)
  | .create identity job audit => do
    let (jobs, document, replayed) ← createJob tables job
    let audits ← appendAudit tables.audits audit
    return ({ tables with jobs, audits },
      ⟨document, 0, identity.createAuditEventId, replayed⟩)
  | .transition write audit receipt => do
    let jobs ← transitionJob tables.jobs write
    let audits ← appendAudit tables.audits audit
    let audits ← appendReceipt audits receipt
    return ({ tables with jobs, audits },
      ⟨write.candidate, write.expectedStateRevision + 1, audit.auditEventId, false⟩)
  | .heartbeat write => do
    let jobs ← heartbeatJob tables.jobs write
    return ({ tables with jobs },
      ⟨write.candidate, write.expectedStateRevision + 1, write.candidate.latestAuditEventId,
        false⟩)

end PlantNexus.Exports
