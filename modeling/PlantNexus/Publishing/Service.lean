import PlantNexus.Publishing.Repository

/-! The publication service, one repository call at a time.

`execute` looks for the audit event of an earlier submission, reads the source, the current
reference and the version that it names, and commits four writes in one transaction; a transaction
that lost a race looks for the audit event once more. The phases are the points of the source at
which the next repository call is due, and `advance` does that call and what follows it up to the
next one. -/
namespace PlantNexus.Publishing
open Data Domain Time

structure PublicationServiceResult where
  document : Json
  publishedVersion : Json
  supersededVersion : Json
  auditEventId : String
  currentScheduleVersionId : String
  exactReplay : Bool
  currentChanged : Bool
deriving DecidableEq

/-- `_mapping` of the service -/
def storedObject (value : Json) (field : String) : Except PublicationError Json := do
  require (value.isObj = true)
    ⟨.persistenceFailed, field, "stored publication evidence is incomplete"⟩
  return value

/-- `_persistence_failure` -/
def persistenceFailure (error : PersistenceError) : PublicationError :=
  let reason : PublicationFailure :=
    match error.reason with
    | .dataPlaneMismatch => .dataPlaneMismatch
    | .identityConflict | .idempotencyConflict => .idempotencyConflict
    | .stateConflict =>
      if occursIn "current" error.field ∨ occursIn "previous" error.field then
        .currentReferenceConflict
      else .staleSource
    | .invalidDocument | .leaseConflict | .appendOnly | .persistenceFailed => .persistenceFailed
  ⟨reason, error.field, "publication persistence rejected the request"⟩

/-- A submitted command with the identity that it names. -/
structure PublicationCall where
  command : Json
  context : PublicationContext
  identity : PublicationIdentity
deriving DecidableEq

/-- What a call has read when its transaction begins. -/
structure PublicationWrite where
  source : StoredScheduleVersion
  previous : Option StoredScheduleVersion
  current : Option CurrentPublicationReference
  documents : PublicationDocuments

/-- The repository read that is due next. -/
inductive ReadPhase where
  | denied (error : PublicationError)
  | lookup (raced : Option PublicationError)
  | replaying (audit : Json)
  | superseding (audit : Json)
  | source
  | current (source : StoredScheduleVersion)
  | previous (source : StoredScheduleVersion) (current : CurrentPublicationReference)

/-- The repository call that is due next: a read, or one of the two transactions. -/
inductive PublicationPhase where
  | reading (phase : ReadPhase)
  | denying (error : PublicationError) (audit : Json)
  | committing (write : PublicationWrite)

inductive Progress where
  | next (phase : PublicationPhase)
  | answer (answer : Except PublicationError PublicationServiceResult)

/-- An error is the answer. -/
def Progress.of (x : Except PublicationError Progress) : Progress :=
  match x with
  | .ok progress => progress
  | .error error => .answer (.error error)

/-! ### Replay -/

/-- `_check_audit_identity` -/
def checkAuditIdentity (audit : Json) (identity : PublicationIdentity) :
    Except PublicationError Unit := do
  require (audit.get "request_fingerprint" = .str identity.requestFingerprint)
    ⟨.idempotencyConflict, "command.idempotency_key",
      "is already bound to a different request fingerprint"⟩
  let idempotency ← storedObject (audit.get "idempotency_reference") "audit.idempotency_reference"
  require (audit.get "audit_event_id" = .str identity.auditEventId ∧
      audit.get "action" = .str "PUBLISH" ∧
      audit.get "aggregate_type" = .str "SCHEDULE_VERSION" ∧
      audit.get "aggregate_id" = .str identity.scheduleVersionId ∧
      audit.get "target" = .str "SIMULATION_INTERNAL" ∧
      audit.get "intent_type" = .str "PUBLICATION" ∧
      idempotency.get "key_reference" = .str identity.keyReference ∧
      idempotency.get "request_fingerprint" = .str identity.requestFingerprint)
    ⟨.persistenceFailed, "audit_event",
      "does not match the deterministic publication identity"⟩

/-- The stored version carries the publication that the audit event records. -/
def checkReplayedSchedule (identity : PublicationIdentity) (audit : Json) (stored : Option Json) :
    Except PublicationError Unit := do
  match stored with
  | none =>
    .error ⟨.persistenceFailed, "schedule_version",
      "publication audit exists without its durable ScheduleVersion"⟩
  | some stored =>
    let source ← storedObject (audit.get "source_version") "audit.source_version"
    let published ← storedObject (audit.get "new_version") "audit.new_version"
    require (source.get "schedule_version_id" = .str identity.scheduleVersionId ∧
        source.get "state" = .str "APPROVED" ∧
        published.get "schedule_version_id" = .str identity.scheduleVersionId ∧
        published.get "state" = .str "PUBLISHED" ∧
        (published.get "content_fingerprint").pyEq (stored.get "content_fingerprint") = true ∧
        (stored.get "state" = .str "PUBLISHED" ∨ stored.get "state" = .str "SUPERSEDED"))
      ⟨.persistenceFailed, "audit.source_version/new_version",
        "does not bind the immutable stored publication"⟩
    let evidence ← storedObject (stored.get "publication") "schedule_version.publication"
    require (evidence.get "publication_id" = .str identity.publicationId ∧
        evidence.get "audit_event_id" = .str identity.auditEventId ∧
        evidence.get "target" = .str "SIMULATION_INTERNAL")
      ⟨.persistenceFailed, "schedule_version.publication",
        "does not bind the exact successful audit"⟩

/-- The previous version that a command names. -/
def requestedPrevious (command : Json) : Json :=
  (command.get "payload").get "previous_current_version"

/-- The previous version that the command names was superseded by the published one. -/
def checkReplayedPrevious (command audit : Json) (previous : Option Json) :
    Except PublicationError Unit := do
  match previous with
  | none =>
    .error ⟨.persistenceFailed, "previous_current_version",
      "supersession evidence exists without its durable Version"⟩
  | some previous =>
    let supersededBy ← storedObject (previous.get "superseded_by") "previous_current.superseded_by"
    require (previous.get "state" = .str "SUPERSEDED" ∧
        (previous.get "content_fingerprint").pyEq
          ((requestedPrevious command).get "content_fingerprint") = true ∧
        supersededBy.pyEq (audit.get "new_version") = true)
      ⟨.persistenceFailed, "previous_current.superseded_by",
        "does not bind the committed supersession"⟩

/-- The answer to a replay whose stored evidence has been checked. -/
def PublicationCall.replayed (call : PublicationCall) (audit : Json) :
    Except PublicationError PublicationServiceResult := do
  let document ← buildPublicationReplayResult call.command call.identity audit
  return {
    document
    publishedVersion := document.get "published_version"
    supersededVersion := document.get "superseded_version"
    auditEventId := call.identity.auditEventId
    currentScheduleVersionId := call.identity.scheduleVersionId
    exactReplay := true
    currentChanged := false }

section
variable (otherDocument : String → Json → Except P4ContractError Unit)

/-- `get` of the schedule repository, as the service calls it -/
def getSchedule (tables : PublicationTables) (id : Json) : Except PublicationError (Option Json) :=
  ((getRecord otherDocument tables.schedules id).mapError persistenceFailure).map
    (Option.map StoredScheduleVersion.document)

/-- The audit event of an earlier submission has been looked for. -/
def PublicationCall.lookedUp (call : PublicationCall) (raced : Option PublicationError) :
    Option Json → Except PublicationError Progress
  | none =>
    match raced with
    | none => .ok (.next (.reading .source))
    | some error => .error error
  | some audit => do
    checkAuditIdentity audit call.identity
    let result ← storedObject (audit.get "result") "audit.result"
    require (result.get "outcome" ≠ .str "DENIED")
      ⟨.authorizationDenied, "command.idempotency_key",
        "the exact publication identity is bound to a denied attempt"⟩
    require (result.get "outcome" = .str "SUCCEEDED")
      ⟨.persistenceFailed, "audit.result", "stored publication outcome is not a committed success"⟩
    return .next (.reading (.replaying audit))

/-! ### Denial -/

/-- The audit event of a denied submission has been looked for. -/
def PublicationCall.deniedLookedUp (call : PublicationCall) (error : PublicationError) :
    Option Json → Except PublicationError Progress
  | some audit => do
    checkAuditIdentity audit call.identity
    let result ← storedObject (audit.get "result") "audit.result"
    require (result.get "outcome" = .str "DENIED" ∨ result.get "outcome" = .str "SUCCEEDED")
      ⟨.persistenceFailed, "audit.result", "stored publication outcome is not replayable"⟩
    return .answer (.error error)
  | none => do
    let audit ← buildPublicationAuthorizationDenialAudit call.command call.context call.identity
      "SIMULATION"
    return .next (.denying error audit)

/-! ### Commit -/

/-- What stops a transaction: a repository, or the service itself. -/
inductive CommitError where
  | persistence (error : PersistenceError)
  | publication (error : PublicationError)

def CurrentPublicationReference.state (reference : CurrentPublicationReference) :
    CurrentPublicationState :=
  ⟨reference.target, reference.scheduleVersionId, reference.contentFingerprint,
    reference.publicationId⟩

/-- The documents of a call whose reads are complete. -/
def PublicationCall.prepared (call : PublicationCall) (source : StoredScheduleVersion)
    (previous : Option StoredScheduleVersion) (current : Option CurrentPublicationReference) :
    Except PublicationError Progress := do
  let prepared ← preparePublication otherDocument source.document
    (previous.map StoredScheduleVersion.document)
    (current.map CurrentPublicationReference.state) call.command call.context "SIMULATION"
  let documents ← buildPublicationDocuments otherDocument prepared
  return .next (.committing ⟨source, previous, current, documents⟩)

/-- The compare-and-swap of the source of a publication. -/
def PublicationCall.transition (call : PublicationCall) (w : PublicationWrite) :
    ScheduleTransition :=
  ⟨.str call.identity.scheduleVersionId, "APPROVED", w.source.stateRevision,
    w.documents.publishedSchedule⟩

/-- The compare-and-swap of the version that a publication supersedes. -/
def supersession (superseded : Json) (previous : StoredScheduleVersion) : ScheduleTransition :=
  ⟨superseded.get "schedule_version_id", "PUBLISHED", previous.stateRevision, superseded⟩

/-- The superseded schedule is written from the version that was read as current. -/
def supersede (schedules : List ScheduleRow) (w : PublicationWrite) :
    Except CommitError (List ScheduleRow) :=
  match w.documents.supersededSchedule, w.previous with
  | none, _ => .ok schedules
  | some _, none =>
    .error (.publication ⟨.persistenceFailed, "previous_current",
      "supersession candidate lost its durable source"⟩)
  | some superseded, some previous =>
    (transitionSchedule otherDocument schedules (supersession superseded previous)).mapError
      .persistence

/-- The transaction of a publication. -/
def PublicationTables.publish (tables : PublicationTables) (call : PublicationCall)
    (w : PublicationWrite) : Except CommitError PublicationTables := do
  let schedules ← (transitionSchedule otherDocument tables.schedules (call.transition w)).mapError
    .persistence
  let schedules ← supersede otherDocument schedules w
  let audits ← (appendAudit tables.audits w.documents.auditEvent).mapError .persistence
  let (tables, changed) ← (persistAndSetCurrent { tables with schedules, audits }
    w.documents.publicationResult w.current).mapError .persistence
  require (changed = true)
    (.publication ⟨.idempotencyConflict, "publication_result/current_reference",
      "did not commit the exact current publication"⟩)
  return tables

/-- The answer to a committed publication. -/
def PublicationCall.committed (call : PublicationCall) (w : PublicationWrite) :
    PublicationServiceResult :=
  { document := w.documents.publicationResult
    publishedVersion := w.documents.publicationResult.get "published_version"
    supersededVersion := w.documents.publicationResult.get "superseded_version"
    auditEventId := call.identity.auditEventId
    currentScheduleVersionId := call.identity.scheduleVersionId
    exactReplay := false
    currentChanged := true }

/-- A transaction that failed: one that lost a race looks for the audit event again. -/
def commitFailed : CommitError → Progress
  | .persistence error =>
    let mapped := persistenceFailure error
    if mapped.reason = .staleSource ∨ mapped.reason = .currentReferenceConflict then
      .next (.reading (.lookup (some mapped)))
    else .answer (.error mapped)
  | .publication error => .answer (.error error)

/-! ### Execution -/

/-- `execute` up to its first repository call -/
def PublicationCall.begin (command : Json) (context : PublicationContext) :
    Except PublicationError (PublicationCall × PublicationPhase) := do
  let identity ← publicationIdentity command "SIMULATION"
  match requirePublicationAuthorization context identity command "SIMULATION" with
  | .ok _ => return (⟨command, context, identity⟩, .reading (.lookup none))
  | .error error =>
    require (error.reason = .authorizationDenied ∨ error.reason = .productionAuthorityUnavailable)
      error
    return (⟨command, context, identity⟩, .reading (.denied error))

/-- A read, and what follows it. -/
def PublicationCall.read (call : PublicationCall) (tables : PublicationTables) :
    ReadPhase → Except PublicationError Progress
  | .denied error => do
    let audit ← (getAudit tables.audits call.identity.auditEventId).mapError persistenceFailure
    call.deniedLookedUp error audit
  | .lookup raced => do
    let audit ← (getAudit tables.audits call.identity.auditEventId).mapError persistenceFailure
    call.lookedUp raced audit
  | .replaying audit => do
    let stored ← getSchedule otherDocument tables (.str call.identity.scheduleVersionId)
    checkReplayedSchedule call.identity audit stored
    if requestedPrevious call.command = .null then
      return .answer (call.replayed audit)
    else return .next (.reading (.superseding audit))
  | .superseding audit => do
    let previous ← getSchedule otherDocument tables
      ((requestedPrevious call.command).get "schedule_version_id")
    checkReplayedPrevious call.command audit previous
    return .answer (call.replayed audit)
  | .source => do
    let source ← (getRecord otherDocument tables.schedules
      (.str call.identity.scheduleVersionId)).mapError persistenceFailure
    match source with
    | none =>
      .error ⟨.sourceNotFound, "command.source_id",
        "does not identify an authorized ScheduleVersion in this plane"⟩
    | some source => return .next (.reading (.current source))
  | .current source =>
    match tables.current with
    | none => call.prepared otherDocument source none none
    | some current => return .next (.reading (.previous source current))
  | .previous source current => do
    let previous ← (getRecord otherDocument tables.schedules
      (.str current.scheduleVersionId)).mapError persistenceFailure
    match previous with
    | none =>
      .error ⟨.previousCurrentNotFound, "current.schedule_version_id",
        "does not identify a durable current ScheduleVersion"⟩
    | some previous => call.prepared otherDocument source (some previous) (some current)

/-- The repository call of a phase, and what follows it. -/
def PublicationCall.advance (call : PublicationCall) (tables : PublicationTables) :
    PublicationPhase → PublicationTables × Progress
  | .reading phase => (tables, .of (call.read otherDocument tables phase))
  | .denying error audit =>
    match appendAudit tables.audits audit with
    | .ok audits => ({ tables with audits }, .answer (.error error))
    | .error failure => (tables, .answer (.error (persistenceFailure failure)))
  | .committing w =>
    match tables.publish otherDocument call w with
    | .ok tables => (tables, .answer (.ok (call.committed w)))
    | .error error => (tables, commitFailed error)

/-! ### What a call commits -/

/-- The documents of a write are those of the versions that the call has read. -/
structure Prepared (call : PublicationCall) (w : PublicationWrite) : Prop where
  checkedSource : checkSource otherDocument w.source.document call.command call.identity = .ok ()
  checkedCurrent : checkCurrent otherDocument call.command
    (w.previous.map StoredScheduleVersion.document)
    (w.current.map CurrentPublicationReference.state) call.identity = .ok ()
  documents : w.documents = PreparedPublication.documents
    ⟨w.source.document, w.previous.map StoredScheduleVersion.document, call.command,
      call.identity, call.context⟩
  checkedDocuments : w.documents.check otherDocument = .ok ()

/-- What a committed publication finds and leaves. -/
structure Published (tables : PublicationTables) (call : PublicationCall) (w : PublicationWrite)
    (tables' : PublicationTables) : Prop where
  source : ∃ row, Transitioned otherDocument tables.schedules (call.transition w) row
  superseded : supersede otherDocument (tables.schedules.map (call.transition w).apply) w =
    .ok tables'.schedules
  audits : appendAudit tables.audits w.documents.auditEvent = .ok tables'.audits
  current : BecameCurrent
    { tables with schedules := tables'.schedules, audits := tables'.audits }
    w.documents.publicationResult w.current tables'

variable {otherDocument}

theorem prepared_ok {call : PublicationCall} {source : StoredScheduleVersion}
    {previous : Option StoredScheduleVersion} {current : Option CurrentPublicationReference}
    {progress : Progress} (hidentity : publicationIdentity call.command "SIMULATION" =
      .ok call.identity)
    (h : call.prepared otherDocument source previous current = .ok progress) :
    ∃ w, progress = .next (.committing w) ∧ w.source = source ∧ w.previous = previous ∧
      w.current = current ∧ Prepared otherDocument call w := by
  simp only [PublicationCall.prepared, preparePublication, buildPublicationDocuments,
    hidentity, bind_eq_ok, exists_unit_iff, mapError_eq_ok, pure, Except.pure,
    Except.ok.injEq] at h
  obtain ⟨prepared, ⟨_, rfl, -, hsource, hcurrent, rfl⟩, documents, ⟨-, -, hcheck, rfl⟩, rfl⟩ := h
  exact ⟨_, rfl, rfl, rfl, rfl, hsource, hcurrent, rfl, hcheck⟩

theorem publish_ok {tables tables' : PublicationTables} {call : PublicationCall}
    {w : PublicationWrite} (h : tables.publish otherDocument call w = .ok tables') :
    Published otherDocument tables call w tables' := by
  simp only [PublicationTables.publish, bind_eq_ok, exists_unit_iff, mapError_eq_ok,
    require_eq_ok, pure, Except.pure, Except.ok.injEq] at h
  obtain ⟨schedules, hsource, schedules', hsupersede, audits, haudits, ⟨after, changed⟩, hcurrent,
    rfl, rfl⟩ := h
  obtain ⟨row, htransitioned, rfl⟩ := transitionSchedule_ok hsource
  have hbecame := persistAndSetCurrent_ok hcurrent
  refine ⟨⟨row, htransitioned⟩, ?_, ?_, ?_⟩
  · rw [hbecame.schedules]
    exact hsupersede
  · rw [hbecame.audits]
    exact haudits
  · rw [hbecame.schedules, hbecame.audits]
    exact hbecame

end

end PlantNexus.Publishing
