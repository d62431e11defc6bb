import PlantNexus.Domain.Persistence
import PlantNexus.Execution.Events

/-! The append-only ledger of execution events and its audit records.

An event is filed once under its identity and once under its position in the stream; delivering
the same bytes again changes nothing, and other bytes are a conflict. The ingress of an event
writes the event and its audit record in one transaction. -/
namespace PlantNexus.Execution
open Data Domain Time

/-! ### Events -/

/-- A row of the ledger; the columns are fields of the document. -/
structure LedgerRow where
  eventId : String
  authorityId : String
  streamId : String
  streamVersion : String
  sourcePosition : Int
  document : Json
deriving DecidableEq

/-- The columns of a document. -/
def LedgerRow.ofDocument (document : Json) (sourcePosition : Int) : LedgerRow :=
  { eventId := (document.get "event_id").text
    authorityId := ((document.get "authority").get "authority_id").text
    streamId := ((document.get "source_stream").get "stream_id").text
    streamVersion := ((document.get "source_stream").get "stream_version").text
    sourcePosition
    document }

def LedgerRow.InStream (scope : ProjectionScope) (row : LedgerRow) : Prop :=
  row.authorityId = scope.authorityId ∧ row.streamId = scope.streamId ∧
    row.streamVersion = scope.streamVersion

instance (scope : ProjectionScope) (row : LedgerRow) : Decidable (row.InStream scope) :=
  inferInstanceAs (Decidable (_ ∧ _))

/-- The two rows claim one position of one stream. -/
def LedgerRow.SamePosition (a b : LedgerRow) : Prop :=
  a.authorityId = b.authorityId ∧ a.streamId = b.streamId ∧ a.streamVersion = b.streamVersion ∧
    a.sourcePosition = b.sourcePosition

instance (a b : LedgerRow) : Decidable (a.SamePosition b) := inferInstanceAs (Decidable (_ ∧ _))

/-- `_find_by_id`, then `_find_by_position` -/
def findEvent (ledger : List LedgerRow) (row : LedgerRow) : Option LedgerRow :=
  (ledger.find? fun stored => stored.eventId = row.eventId).or
    (ledger.find? fun stored => stored.SamePosition row)

/-- `_candidate` -/
def eventCandidate (document : Json) : Except PersistenceError (Json × Json) := do
  let version ← (requireEventDocument document).mapError fun _ =>
    (⟨.invalidDocument, "document", "P4 carrier failed semantic integrity precheck"⟩ :
      PersistenceError)
  require (version = "execution-event.v1")
    ⟨.invalidDocument, "document_version",
      "P4 carrier version is not accepted by this repository"⟩
  require (document.get "data_plane" = .str "SIMULATION")
    ⟨.dataPlaneMismatch, "data_plane", "document does not belong to this repository plane"⟩
  let authority ← requireMapping (document.get "authority") "authority"
  let stream ← requireMapping (document.get "source_stream") "source_stream"
  return (authority, stream)

/-- The columns that are read for the insert only. -/
def insertColumns (document : Json) : Except PersistenceError Unit := do
  requireText (document.get "event_fingerprint") "event_fingerprint"
  requireText (document.get "event_type") "event_type"
  requireText (document.get "environment") "environment"
  requireText (document.get "factory_id") "factory_id"
  requireText (document.get "planning_scope_id") "planning_scope_id"
  requireText ((document.get "authority").get "authority_scope") "authority.authority_scope"
  requireText (document.get "occurred_at_utc") "occurred_at_utc"
  requireText (document.get "received_at_utc") "received_at_utc"
  requireText (document.get "correlation_id") "correlation_id"

/-- `append_in_transaction` of events: the rows after it, and whether it was a repetition. -/
def appendEvent (ledger : List LedgerRow) (document : Json) :
    Except PersistenceError (List LedgerRow × Bool) := do
  let (authority, stream) ← eventCandidate document
  requireText (document.get "event_id") "event_id"
  requireText (authority.get "authority_id") "authority.authority_id"
  requireText (stream.get "stream_id") "source_stream.stream_id"
  requireText (stream.get "stream_version") "source_stream.stream_version"
  let sourcePosition ← requireInteger (document.get "source_position") "source_position" 1
  let row := LedgerRow.ofDocument document sourcePosition
  match findEvent ledger row with
  | some stored =>
    require (stored.document.dumps = document.dumps)
      ⟨.idempotencyConflict, "event_id/source_position",
        "event identity or authority position has different content"⟩
    return (ledger, true)
  | none =>
    insertColumns document
    return (ledger ++ [row], false)

/-- An append finds the same bytes, or files the event under an identity and a position that
were both free. -/
theorem appendEvent_ok {ledger ledger' : List LedgerRow} {document : Json} {replayed : Bool}
    (h : appendEvent ledger document = .ok (ledger', replayed)) :
    (ledger' = ledger ∧ replayed = true ∧ ∃ stored ∈ ledger,
        stored.document.dumps = document.dumps ∧
        ∀ position, document.get "source_position" = .int position →
          findEvent ledger (.ofDocument document position) = some stored) ∨
      ∃ position, document.get "source_position" = .int position ∧
        ledger' = ledger ++ [.ofDocument document position] ∧ replayed = false ∧
        findEvent ledger (.ofDocument document position) = none := by
  simp only [appendEvent, bind_eq_ok, exists_unit_iff, Prod.exists] at h
  obtain ⟨authority, stream, -, -, -, -, -, position, hposition, h⟩ := h
  have hvalue : document.get "source_position" = .int position := by
    generalize document.get "source_position" = value at hposition
    cases value with
    | int n =>
      simp only [requireInteger, bind_eq_ok, exists_unit_iff, require_eq_ok, pure, Except.pure,
        Except.ok.injEq] at hposition
      rw [hposition.2]
    | null | bool | float | str | arr | obj => cases hposition
  split at h
  · rename_i stored hfound
    simp only [bind_eq_ok, exists_unit_iff, require_eq_ok, pure, Except.pure, Except.ok.injEq,
      Prod.mk.injEq] at h
    obtain ⟨hbytes, rfl, rfl⟩ := h
    have hmem : stored ∈ ledger := by
      rcases Option.or_eq_some_iff.mp hfound with hfound | ⟨-, hfound⟩
      · exact List.mem_of_find?_eq_some hfound
      · exact List.mem_of_find?_eq_some hfound
    refine .inl ⟨rfl, rfl, stored, hmem, hbytes, ?_⟩
    intro position' hposition'
    rw [hvalue] at hposition'
    obtain rfl := Json.int.inj hposition'
    exact hfound
  · rename_i hnone
    simp only [bind_eq_ok, exists_unit_iff, pure, Except.pure, Except.ok.injEq,
      Prod.mk.injEq] at h
    obtain ⟨-, rfl, rfl⟩ := h
    exact .inr ⟨position, hvalue, rfl, rfl, hnone⟩

/-- The position of an event that is appended or found is from one on. -/
theorem appendEvent_position {ledger : List LedgerRow} {document : Json}
    {result : List LedgerRow × Bool} (h : appendEvent ledger document = .ok result) {n : Int}
    (hn : document.get "source_position" = .int n) : 1 ≤ n := by
  simp only [appendEvent, bind_eq_ok, exists_unit_iff, Prod.exists] at h
  obtain ⟨authority, stream, -, -, -, -, -, position, hposition, -⟩ := h
  rw [hn] at hposition
  simp only [requireInteger, bind_eq_ok, exists_unit_iff, require_eq_ok] at hposition
  exact hposition.1

/-- `list_stream_in_transaction`: the events of a stream after a position, in the order of their
positions. -/
def listStream (ledger : List LedgerRow) (scope : ProjectionScope) (afterPosition : Nat) :
    List Json :=
  (sortByKey LedgerRow.sourcePosition
    (ledger.filter fun row => row.InStream scope ∧ (afterPosition : Int) < row.sourcePosition)).map
    LedgerRow.document

/-! ### References -/

structure ArtifactReference where
  documentVersion : String
  artifactId : String
  fingerprint : String
deriving DecidableEq, Repr

def ArtifactReference.toJson (r : ArtifactReference) : Json :=
  .obj
    [("document_version", .str r.documentVersion), ("artifact_id", .str r.artifactId),
     ("fingerprint", .str r.fingerprint)]

/-! ### Audit records -/

inductive ReplanAuditAction where
  | executionEventAppended
  | projectionCheckpointCommitted
deriving DecidableEq, Repr

def ReplanAuditAction.text : ReplanAuditAction → String
  | .executionEventAppended => "EXECUTION_EVENT_APPENDED"
  | .projectionCheckpointCommitted => "PROJECTION_CHECKPOINT_COMMITTED"

/-- An audit record; its identity and its fingerprint are the digest of these fields. -/
structure ReplanAuditRecord where
  action : ReplanAuditAction
  aggregateType : String
  aggregateId : String
  correlationId : Json
  idempotencyScope : String
  idempotencyKeyReference : String
  requestFingerprint : Option String
  occurredAtUtc : String
deriving DecidableEq

def ReplanAuditRecord.fingerprint (record : ReplanAuditRecord) : String :=
  contractFingerprint
    (.obj
      [("record_version", .str "replan-persistence-audit.v1"),
       ("action", .str record.action.text), ("aggregate_type", .str record.aggregateType),
       ("aggregate_id", .str record.aggregateId), ("correlation_id", record.correlationId),
       ("idempotency_scope", .str record.idempotencyScope),
       ("idempotency_key_reference", .str record.idempotencyKeyReference),
       ("request_fingerprint", Json.ofOption .str record.requestFingerprint),
       ("occurred_at_utc", .str record.occurredAtUtc)])

def ReplanAuditRecord.auditRecordId (record : ReplanAuditRecord) : String :=
  "replan-audit-" ++ fingerprintDigits record.fingerprint

/-- `_require_sha256` -/
def requireSha256 (value field : String) : Except PersistenceError Unit := do
  requireText (.str value) field
  require ("sha256:".toList.isPrefixOf value.toList = true ∧ value.length = 71 ∧
    (value.toList.drop 7).all (fun c => c ∈ "0123456789abcdef".toList) = true)
    ⟨.invalidDocument, field, "must be a lowercase sha256 fingerprint"⟩

def requireOptionalSha256 (value : Option String) (field : String) :
    Except PersistenceError Unit :=
  match value with
  | none => .ok ()
  | some fingerprint => requireSha256 fingerprint field

/-- `_require_utc_text` -/
def requireUtcText (value field : String) : Except PersistenceError Unit := do
  requireText (.str value) field
  require (value.toList.getLast? = some 'Z')
    ⟨.invalidDocument, field, "must be canonical UTC with a trailing Z"⟩
  match fromisoformat (value.toList.dropLast ++ ['+', '0', '0', ':', '0', '0']) with
  | none => .error ⟨.invalidDocument, field, "must be a valid UTC timestamp"⟩
  | some (_, offset) => require (offset = some 0) ⟨.invalidDocument, field, "must be UTC"⟩

/-- `validate_replan_audit_record`; the identity matches by construction. -/
def validateReplanAuditRecord (record : ReplanAuditRecord) : Except PersistenceError Unit := do
  requireText (.str record.auditRecordId) "audit_record_id"
  requireText (.str record.aggregateType) "aggregate_type"
  requireText (.str record.aggregateId) "aggregate_id"
  requireText record.correlationId "correlation_id"
  requireText (.str record.idempotencyScope) "idempotency_scope"
  requireSha256 record.idempotencyKeyReference "idempotency_key_reference"
  requireOptionalSha256 record.requestFingerprint "request_fingerprint"
  requireUtcText record.occurredAtUtc "occurred_at_utc"

/-- `_find_by_id`, then `_find_by_idempotency` -/
def findAuditRecord (audits : List ReplanAuditRecord) (record : ReplanAuditRecord) :
    Option ReplanAuditRecord :=
  (audits.find? fun stored => stored.auditRecordId = record.auditRecordId).or
    (audits.find? fun stored => stored.idempotencyScope = record.idempotencyScope ∧
      stored.idempotencyKeyReference = record.idempotencyKeyReference)

/-- `append_in_transaction` of audit records -/
def appendAuditRecord (audits : List ReplanAuditRecord) (record : ReplanAuditRecord) :
    Except PersistenceError (List ReplanAuditRecord × Bool) := do
  validateReplanAuditRecord record
  match findAuditRecord audits record with
  | some stored =>
    require (stored = record)
      ⟨.idempotencyConflict, "audit identity/idempotency",
        "audit identity or key has different content"⟩
    return (audits, true)
  | none => return (audits ++ [record], false)

/-! ### Ingress -/

structure ExecutionTables where
  ledger : List LedgerRow
  audits : List ReplanAuditRecord
deriving DecidableEq

structure ExecutionEventIngressResult where
  eventId : String
  eventFingerprint : String
  replayed : Bool
  auditRecordId : String
  auditReplayed : Bool
deriving DecidableEq, Repr

/-- The disposition of an event. -/
def ingressAudit (scope : ProjectionScope) (document : Json) : ReplanAuditRecord :=
  let eventId := (document.get "event_id").text
  let fingerprint := (document.get "event_fingerprint").text
  { action := .executionEventAppended
    aggregateType := "EXECUTION_EVENT"
    aggregateId := eventId
    correlationId := document.get "correlation_id"
    idempotencyScope :=
      s!"SIMULATION/EXECUTION_EVENT_APPEND/{scope.factoryId}/{scope.planningScopeId}/{eventId}"
    idempotencyKeyReference := fingerprint
    requestFingerprint := some fingerprint
    occurredAtUtc := (document.get "received_at_utc").text }

/-- `ingest_event`: all of its writes or none. -/
def ingestEvent (scope : ProjectionScope) (tables : ExecutionTables) (document : Json) :
    Except ProjectionError (ExecutionTables × ExecutionEventIngressResult) := do
  validateExecutionEvent scope document
  let audit := ingressAudit scope document
  let failed : PersistenceError → ProjectionError := fun _ =>
    ⟨.persistenceFailed, "event_ingress_transaction", "ExecutionEvent ingress transaction failed"⟩
  let (ledger, replayed) ← (appendEvent tables.ledger document).mapError failed
  let (audits, auditReplayed) ← (appendAuditRecord tables.audits audit).mapError failed
  return (⟨ledger, audits⟩,
    ⟨audit.aggregateId, audit.idempotencyKeyReference, replayed, audit.auditRecordId,
      auditReplayed⟩)

theorem ingestEvent_ok {scope : ProjectionScope} {tables tables' : ExecutionTables}
    {document : Json} {result : ExecutionEventIngressResult}
    (h : ingestEvent scope tables document = .ok (tables', result)) :
    validateExecutionEvent scope document = .ok () ∧
      appendEvent tables.ledger document = .ok (tables'.ledger, result.replayed) ∧
      appendAuditRecord tables.audits (ingressAudit scope document) =
        .ok (tables'.audits, result.auditReplayed) := by
  simp only [ingestEvent, bind_eq_ok, exists_unit_iff, mapError_eq_ok, Prod.exists, pure,
    Except.pure, Except.ok.injEq, Prod.mk.injEq] at h
  obtain ⟨hvalid, ledger, replayed, hledger, audits, auditReplayed, haudits, rfl, rfl⟩ := h
  exact ⟨hvalid, hledger, haudits⟩

end PlantNexus.Execution
