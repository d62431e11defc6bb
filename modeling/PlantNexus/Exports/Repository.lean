import PlantNexus.Data.Lists
import PlantNexus.Domain.Persistence
import PlantNexus.Exports.Documents

/-! The tables of export jobs and audit events.

An audit event is appended once under its identity and its idempotency key; an exact repetition
changes nothing. A job row is inserted once and then moves by compare-and-swap on its state and
revision, under the lease that the row holds. The columns of a row are fields of its document. -/
namespace PlantNexus.Exports
open Data Domain Time

/-- `_persistence_error` -/
def persistenceError (error : PersistenceError) : ExportError :=
  match error.reason with
  | .idempotencyConflict | .identityConflict => .job .idempotencyConflict error.field
  | .stateConflict => .job .stateConflict error.field
  | .leaseConflict => .job .leaseConflict error.field
  | .dataPlaneMismatch => .job .authorizationDenied error.field
  | .invalidDocument | .appendOnly | .persistenceFailed => .job .persistenceFailed error.field

/-! ### Audit events -/

/-- An audit event of another aggregate, as far as it can be in the way of one of ours. -/
structure OtherAudit where
  auditEventId : String
  idempotencyKey : Option (String × String)
  requestFingerprint : Option String
deriving DecidableEq, Repr

inductive AuditRow where
  | ofEvent (event : AuditEvent)
  | ofOther (audit : OtherAudit)
deriving DecidableEq

def AuditRow.auditEventId : AuditRow → String
  | .ofEvent event => event.auditEventId
  | .ofOther audit => audit.auditEventId

def AuditEvent.idempotencyKey (event : AuditEvent) : Option (String × String) :=
  event.idempotencyReference.map fun reference => (reference.scope, reference.keyReference)

def AuditRow.idempotencyKey : AuditRow → Option (String × String)
  | .ofEvent event => event.idempotencyKey
  | .ofOther audit => audit.idempotencyKey

def AuditRow.requestFingerprint : AuditRow → Option String
  | .ofEvent event => some event.requestFingerprint
  | .ofOther audit => audit.requestFingerprint

def findAudit (audits : List AuditRow) (auditEventId : String) : Option AuditRow :=
  audits.find? fun row => row.auditEventId = auditEventId

/-- `_find_by_id`, then `_find_by_idempotency` -/
def findAuditConflict (audits : List AuditRow) (event : AuditEvent) : Option AuditRow :=
  (findAudit audits event.auditEventId).or
    (audits.find? fun row => event.idempotencyKey ≠ none ∧
      row.idempotencyKey = event.idempotencyKey)

/-- `_candidate` of the audit repository -/
def checkAuditCandidate (event : AuditEvent) : Except PersistenceError Unit := do
  (requireAuditDocument event).mapError fun error =>
    ⟨.invalidDocument, error.field, "workspace carrier failed integrity precheck"⟩
  require (event.environment ∈ ["DEVELOPMENT", "TEST", "BENCHMARK"])
    ⟨.dataPlaneMismatch, "environment", "Simulation carrier environment is invalid"⟩
  requireText (.str event.auditEventId) "audit_event_id"
  requireText (.str event.action) "action"
  requireText (.str event.aggregateId) "aggregate_id"
  requireText event.correlationId "correlation_id"
  requireText (.str event.occurredAtUtc) "occurred_at_utc"
  match event.idempotencyReference with
  | none => pure ()
  | some reference =>
    requireText (.str reference.scope) "idempotency_reference.scope"
    requireText (.str reference.keyReference) "idempotency_reference.key_reference"

/-- `append_in_transaction` -/
def appendAudit (audits : List AuditRow) (event : AuditEvent) :
    Except PersistenceError (List AuditRow) := do
  checkAuditCandidate event
  match findAuditConflict audits event with
  | some row =>
    require (row = .ofEvent event)
      ⟨.idempotencyConflict, "audit_event_id/idempotency_reference",
        "AuditEvent identity or key is bound to different content"⟩
    return audits
  | none =>
    require (∀ parent ∈ event.parentAuditEventId, findAudit audits parent ≠ none)
      ⟨.identityConflict, "parent_audit_event_id", "parent AuditEvent is absent from this plane"⟩
    return audits ++ [.ofEvent event]

/-- An append adds the event under an identity that was free and beside its parent, or finds it
there already. -/
theorem appendAudit_ok {audits audits' : List AuditRow} {event : AuditEvent}
    (h : appendAudit audits event = .ok audits') :
    (audits' = audits ∧ .ofEvent event ∈ audits) ∨
      (audits' = audits ++ [.ofEvent event] ∧ findAudit audits event.auditEventId = none ∧
        ∀ parent ∈ event.parentAuditEventId, findAudit audits parent ≠ none) := by
  simp only [appendAudit, bind_eq_ok, exists_unit_iff] at h
  obtain ⟨-, h⟩ := h
  split at h
  · rename_i row hfound
    simp only [bind_eq_ok, exists_unit_iff, require_eq_ok, pure, Except.pure,
      Except.ok.injEq] at h
    obtain ⟨hrow, rfl⟩ := h
    refine .inl ⟨rfl, ?_⟩
    rw [findAuditConflict, Option.or_eq_some_iff] at hfound
    subst hrow
    rcases hfound with hfound | ⟨-, hfound⟩
    · exact List.mem_of_find?_eq_some hfound
    · exact List.mem_of_find?_eq_some hfound
  · rename_i hnone
    simp only [bind_eq_ok, exists_unit_iff, require_eq_ok, pure, Except.pure,
      Except.ok.injEq] at h
    obtain ⟨hparent, rfl⟩ := h
    rw [findAuditConflict, Option.or_eq_none_iff] at hnone
    exact .inr ⟨rfl, hnone.1, hparent⟩

theorem findAudit_mem {audits : List AuditRow} {row : AuditRow} (h : row ∈ audits) :
    findAudit audits row.auditEventId ≠ none := by
  intro hnone
  rw [findAudit, List.find?_eq_none] at hnone
  exact hnone row h (by simp)

/-! ### Jobs -/

structure ExportJobRow where
  creation : ExportJob
  document : ExportJob
  stateRevision : Nat
  leaseExpiresAtUtc : Option Datetime
deriving DecidableEq

structure ExportTables where
  jobs : List ExportJobRow
  audits : List AuditRow
  schedules : String → Option Json

def findJob (jobs : List ExportJobRow) (exportJobId : String) : Option ExportJobRow :=
  jobs.find? fun row => row.document.exportJobId = exportJobId

/-- `_find_by_id`, then `_find_by_idempotency` -/
def findJobConflict (jobs : List ExportJobRow) (job : ExportJob) : Option ExportJobRow :=
  (findJob jobs job.exportJobId).or
    (jobs.find? fun row =>
      row.document.idempotencyReference.scope = job.idempotencyReference.scope ∧
      row.document.idempotencyReference.keyReference = job.idempotencyReference.keyReference)

/-- `UPDATE … WHERE export_job_id = …` -/
def putJob (jobs : List ExportJobRow) (exportJobId : String) (row : ExportJobRow) :
    List ExportJobRow :=
  jobs.map fun stored => if stored.document.exportJobId = exportJobId then row else stored

theorem findJob_id {jobs : List ExportJobRow} {exportJobId : String} {row : ExportJobRow}
    (h : findJob jobs exportJobId = some row) : row.document.exportJobId = exportJobId := by
  have hfound := List.find?_some h
  simpa using hfound

theorem findJob_putJob {jobs : List ExportJobRow} {exportJobId id : String} {row : ExportJobRow}
    (hrow : row.document.exportJobId = exportJobId) :
    findJob (putJob jobs exportJobId row) id =
      if id = exportJobId then (findJob jobs exportJobId).map fun _ => row
      else findJob jobs id :=
  find?_key_update (fun row : ExportJobRow => row.document.exportJobId) jobs exportJobId id row hrow

/-- `_candidate` of the job repository -/
def checkJobCandidate (job : ExportJob) : Except PersistenceError Unit := do
  (requireJobDocument job).mapError fun _ =>
    ⟨.invalidDocument, "document", "carrier failed semantic integrity precheck"⟩
  require (job.environment ∈ ["DEVELOPMENT", "TEST", "BENCHMARK"])
    ⟨.dataPlaneMismatch, "environment", "Simulation carrier environment is invalid"⟩
  requireText (.str job.exportJobId) "export_job_id"
  requireText (.str job.packageProfile) "package_profile"
  requireText (.str job.updatedAtUtc) "updated_at_utc"
  requireText (.str job.jobFingerprint) "job_fingerprint"
  requireText job.scheduleVersion.scheduleVersionId "schedule_version.schedule_version_id"
  requireText job.scheduleVersion.contentFingerprint "schedule_version.content_fingerprint"
  requireText (.str job.idempotencyReference.scope) "idempotency_reference.scope"
  requireText (.str job.idempotencyReference.keyReference) "idempotency_reference.key_reference"
  requireText (.str job.idempotencyReference.requestFingerprint)
    "idempotency_reference.request_fingerprint"

/-- The stored schedule version is published and has the fingerprint of the reference. -/
def sourcePublished (schedules : String → Option Json) (reference : ScheduleReference) : Bool :=
  (schedules reference.scheduleVersionId.text).any fun schedule =>
    schedule.get "state" = .str "PUBLISHED" ∧
      schedule.get "content_fingerprint" = reference.contentFingerprint

/-- `create_in_transaction`: the rows after it, the document, and whether it was a repetition. -/
def createJob (tables : ExportTables) (job : ExportJob) :
    Except PersistenceError (List ExportJobRow × ExportJob × Bool) := do
  checkJobCandidate job
  require (job.state = .created ∧ job.attempt = 0)
    ⟨.invalidDocument, "state/attempt", "new ExportJob must be CREATED with attempt zero"⟩
  match findJobConflict tables.jobs job with
  | some row =>
    require (row.creation = job)
      ⟨.idempotencyConflict, "export_job_id/idempotency_reference",
        "ExportJob identity or key is bound to different creation bytes"⟩
    return (tables.jobs, row.document, true)
  | none =>
    require (sourcePublished tables.schedules job.scheduleVersion = true)
      ⟨.stateConflict, "schedule_version",
        "ExportJob source does not match a stored PUBLISHED version"⟩
    return (tables.jobs ++ [⟨job, job, 0, none⟩], job, false)

/-- A creation finds its own earlier row, or adds a row under an identity that was free. -/
theorem createJob_ok {tables : ExportTables} {job document : ExportJob}
    {jobs : List ExportJobRow} {replayed : Bool}
    (h : createJob tables job = .ok (jobs, document, replayed)) :
    (jobs = tables.jobs ∧ replayed = true ∧ ∃ row ∈ tables.jobs, row.creation = job) ∨
      (jobs = tables.jobs ++ [⟨job, job, 0, none⟩] ∧ replayed = false ∧
        findJob tables.jobs job.exportJobId = none ∧ job.state = .created ∧ job.attempt = 0) := by
  simp only [createJob, bind_eq_ok, exists_unit_iff, require_eq_ok] at h
  obtain ⟨-, ⟨hstate, hattempt⟩, h⟩ := h
  split at h
  · rename_i row hfound
    simp only [bind_eq_ok, exists_unit_iff, require_eq_ok, pure, Except.pure, Except.ok.injEq,
      Prod.mk.injEq] at h
    obtain ⟨hcreation, rfl, -, rfl⟩ := h
    rw [findJobConflict, Option.or_eq_some_iff] at hfound
    refine .inl ⟨rfl, rfl, row, ?_, hcreation⟩
    rcases hfound with hfound | ⟨-, hfound⟩
    · exact List.mem_of_find?_eq_some hfound
    · exact List.mem_of_find?_eq_some hfound
  · rename_i hnone
    simp only [bind_eq_ok, exists_unit_iff, require_eq_ok, pure, Except.pure, Except.ok.injEq,
      Prod.mk.injEq] at h
    obtain ⟨-, rfl, -, rfl⟩ := h
    rw [findJobConflict, Option.or_eq_none_iff] at hnone
    exact .inr ⟨rfl, rfl, hnone.1, hstate, hattempt⟩

/-- `require_export_job_transition` -/
def requireExportJobTransition (current candidate : ExportJob)
    (leaseExpiresAtUtc : Option Datetime) : Except PersistenceError Unit := do
  let invalid : PersistenceError :=
    ⟨.stateConflict, "state/attempt", "ExportJob transition is invalid"⟩
  let lease : PersistenceError :=
    ⟨.leaseConflict, "lease_reference", "ExportJob transition lease is invalid"⟩
  require ((current.state, candidate.state) ∈ exportJobTransitions) invalid
  if candidate.state = .exporting then
    require (candidate.attempt = current.attempt + 1) invalid
    require (candidate.leaseReference ≠ none) lease
    require (leaseExpiresAtUtc ≠ none) lease
  else
    require (candidate.attempt = current.attempt) invalid
    require (candidate.leaseReference = none) lease
    require (leaseExpiresAtUtc = none) lease

/-- The caller holds the lease of the row, and it has not expired. -/
def LeaseHeld (row : ExportJobRow) (expectedLeaseReference : Option String)
    (observed : Datetime) : Prop :=
  expectedLeaseReference ≠ none ∧ expectedLeaseReference ≠ some "" ∧
    row.document.leaseReference = expectedLeaseReference ∧
    ∃ expiry ∈ row.leaseExpiresAtUtc, observed < expiry

instance (row : ExportJobRow) (expectedLeaseReference : Option String) (observed : Datetime) :
    Decidable (LeaseHeld row expectedLeaseReference observed) := by
  unfold LeaseHeld
  infer_instance

/-- `lease_is_expired_recovery` -/
def ExpiredRecovery (row : ExportJobRow) (candidate : ExportJob)
    (expectedLeaseReference : Option String) (observed : Datetime) (allowed : Bool) : Prop :=
  allowed = true ∧ (candidate.state = .exportFailed ∨ candidate.state = .cancelled) ∧
    expectedLeaseReference ≠ none ∧ row.document.leaseReference = expectedLeaseReference ∧
    ∃ expiry ∈ row.leaseExpiresAtUtc, expiry ≤ observed

instance (row : ExportJobRow) (candidate : ExportJob) (expectedLeaseReference : Option String)
    (observed : Datetime) (allowed : Bool) :
    Decidable (ExpiredRecovery row candidate expectedLeaseReference observed allowed) := by
  unfold ExpiredRecovery
  infer_instance

/-- A compare-and-swap of a job row. -/
structure TransitionWrite where
  exportJobId : String
  expectedState : ExportJobState
  expectedStateRevision : Nat
  candidate : ExportJob
  observedAtUtc : Datetime
  expectedLeaseReference : Option String
  leaseExpiresAtUtc : Option Datetime
  allowExpiredLeaseRecovery : Bool
deriving DecidableEq

/-- `transition_in_transaction` -/
def transitionJob (jobs : List ExportJobRow) (w : TransitionWrite) :
    Except PersistenceError (List ExportJobRow) := do
  requireText (.str w.exportJobId) "export_job_id"
  checkJobCandidate w.candidate
  require (w.candidate.exportJobId = w.exportJobId)
    ⟨.identityConflict, "export_job_id",
      "CAS candidate identity differs from requested identity"⟩
  match findJob jobs w.exportJobId with
  | none =>
    .error ⟨.stateConflict, "export_job_id", "ExportJob does not exist in this plane"⟩
  | some row =>
    require (row.document.state = w.expectedState ∧ row.stateRevision = w.expectedStateRevision)
      ⟨.stateConflict, "expected_state/expected_state_revision",
        "ExportJob compare-and-set precondition failed"⟩
    require (row.document.identityFingerprint = w.candidate.identityFingerprint)
      ⟨.identityConflict, "export_job", "ExportJob immutable identity changed"⟩
    require (w.expectedState = .exporting →
      ExpiredRecovery row w.candidate w.expectedLeaseReference w.observedAtUtc
        w.allowExpiredLeaseRecovery ∨ LeaseHeld row w.expectedLeaseReference w.observedAtUtc)
      ⟨.leaseConflict, "expected_lease_reference",
        "active ExportJob lease precondition failed"⟩
    require (w.candidate.state = .exporting →
      ∃ expiry ∈ w.leaseExpiresAtUtc, w.observedAtUtc < expiry)
      ⟨.leaseConflict, "lease_expires_at_utc",
        "new ExportJob lease expiry must be in the future"⟩
    requireExportJobTransition row.document w.candidate w.leaseExpiresAtUtc
    return putJob jobs w.exportJobId
      { row with
        document := w.candidate
        stateRevision := w.expectedStateRevision + 1
        leaseExpiresAtUtc := w.leaseExpiresAtUtc }

/-- What a swapped row and its predecessor have in common. -/
structure Swapped (row : ExportJobRow) (w : TransitionWrite) : Prop where
  state : row.document.state = w.expectedState
  revision : row.stateRevision = w.expectedStateRevision
  legal : (row.document.state, w.candidate.state) ∈ exportJobTransitions
  leased : row.document.state = .exporting →
    w.expectedLeaseReference ≠ none ∧ row.document.leaseReference = w.expectedLeaseReference
  claimed : w.candidate.state = .exporting →
    w.candidate.attempt = row.document.attempt + 1 ∧ w.candidate.leaseReference ≠ none
  kept : w.candidate.state ≠ .exporting →
    w.candidate.attempt = row.document.attempt ∧ w.candidate.leaseReference = none

theorem transitionJob_ok {jobs jobs' : List ExportJobRow} {w : TransitionWrite}
    (h : transitionJob jobs w = .ok jobs') :
    w.candidate.exportJobId = w.exportJobId ∧
      ∃ row, findJob jobs w.exportJobId = some row ∧ Swapped row w ∧
        jobs' = putJob jobs w.exportJobId
          { row with
            document := w.candidate
            stateRevision := w.expectedStateRevision + 1
            leaseExpiresAtUtc := w.leaseExpiresAtUtc } := by
  simp only [transitionJob, bind_eq_ok, exists_unit_iff, require_eq_ok] at h
  obtain ⟨-, -, hid, h⟩ := h
  split at h
  · cases h
  · rename_i row hfound
    simp only [bind_eq_ok, exists_unit_iff, require_eq_ok, requireExportJobTransition, pure,
      Except.pure, Except.ok.injEq] at h
    obtain ⟨⟨hstate, hrevision⟩, -, hlease, -, ⟨hlegal, hrest⟩, hjobs⟩ := h
    refine ⟨hid, row, hfound, ?_, hjobs.symm⟩
    have hleased : row.document.state = .exporting →
        w.expectedLeaseReference ≠ none ∧
          row.document.leaseReference = w.expectedLeaseReference := by
      intro hexporting
      rcases hlease (hstate.symm.trans hexporting) with hrecovery | hheld
      · exact ⟨hrecovery.2.2.1, hrecovery.2.2.2.1⟩
      · exact ⟨hheld.1, hheld.2.2.1⟩
    refine ⟨hstate, hrevision, hlegal, hleased, ?_, ?_⟩
    · intro hexporting
      rw [if_pos hexporting] at hrest
      simp only [bind_eq_ok, exists_unit_iff, require_eq_ok] at hrest
      exact ⟨hrest.1, hrest.2.1⟩
    · intro hother
      rw [if_neg hother] at hrest
      simp only [bind_eq_ok, exists_unit_iff, require_eq_ok] at hrest
      exact ⟨hrest.1, hrest.2.1⟩

/-- An extension of the lease of a job row. -/
structure HeartbeatWrite where
  exportJobId : String
  expectedStateRevision : Nat
  expectedLeaseReference : String
  candidate : ExportJob
  observedAtUtc : Datetime
  leaseExpiresAtUtc : Datetime
deriving DecidableEq

/-- `require_export_job_heartbeat` -/
def requireExportJobHeartbeat (current : ExportJob) (w : HeartbeatWrite)
    (storedExpiry : Datetime) : Except PersistenceError Unit := do
  let lease : PersistenceError :=
    ⟨.leaseConflict, "lease_reference", "ExportJob heartbeat lease precondition failed"⟩
  require (current.state = .exporting ∧ w.candidate.state = .exporting) lease
  require (current.leaseReference = some w.expectedLeaseReference ∧
    w.candidate.leaseReference = some w.expectedLeaseReference) lease
  require (w.observedAtUtc < storedExpiry ∧ w.observedAtUtc < w.leaseExpiresAtUtc) lease
  require (w.candidate.attempt = current.attempt)
    ⟨.stateConflict, "attempt/state", "ExportJob heartbeat state is invalid"⟩

/-- `heartbeat_in_transaction` -/
def heartbeatJob (jobs : List ExportJobRow) (w : HeartbeatWrite) :
    Except PersistenceError (List ExportJobRow) := do
  requireText (.str w.exportJobId) "export_job_id"
  requireText (.str w.expectedLeaseReference) "expected_lease_reference"
  checkJobCandidate w.candidate
  match findJob jobs w.exportJobId with
  | none =>
    .error ⟨.stateConflict, "export_job_id", "ExportJob does not exist in this plane"⟩
  | some row =>
    require (row.stateRevision = w.expectedStateRevision)
      ⟨.stateConflict, "expected_state_revision",
        "ExportJob heartbeat compare-and-set precondition failed"⟩
    require (row.document.identityFingerprint = w.candidate.identityFingerprint)
      ⟨.identityConflict, "export_job", "ExportJob immutable identity changed"⟩
    match row.leaseExpiresAtUtc with
    | none =>
      .error ⟨.leaseConflict, "lease_expires_at_utc", "ExportJob has no active lease"⟩
    | some expiry =>
      requireExportJobHeartbeat row.document w expiry
      return putJob jobs w.exportJobId
        { row with
          document := w.candidate
          stateRevision := w.expectedStateRevision + 1
          leaseExpiresAtUtc := some w.leaseExpiresAtUtc }

/-- What a beaten row and its predecessor have in common. -/
structure Beaten (row : ExportJobRow) (w : HeartbeatWrite) : Prop where
  revision : row.stateRevision = w.expectedStateRevision
  state : row.document.state = .exporting ∧ w.candidate.state = .exporting
  lease : row.document.leaseReference = some w.expectedLeaseReference ∧
    w.candidate.leaseReference = some w.expectedLeaseReference
  attempt : w.candidate.attempt = row.document.attempt

theorem heartbeatJob_ok {jobs jobs' : List ExportJobRow} {w : HeartbeatWrite}
    (h : heartbeatJob jobs w = .ok jobs') :
    ∃ row, findJob jobs w.exportJobId = some row ∧ Beaten row w ∧
      jobs' = putJob jobs w.exportJobId
        { row with
          document := w.candidate
          stateRevision := w.expectedStateRevision + 1
          leaseExpiresAtUtc := some w.leaseExpiresAtUtc } := by
  simp only [heartbeatJob, bind_eq_ok, exists_unit_iff] at h
  obtain ⟨-, -, -, h⟩ := h
  split at h
  · cases h
  · rename_i row hfound
    simp only [bind_eq_ok, exists_unit_iff, require_eq_ok] at h
    obtain ⟨hrevision, -, h⟩ := h
    split at h
    · cases h
    · simp only [bind_eq_ok, exists_unit_iff, require_eq_ok, requireExportJobHeartbeat, pure,
        Except.pure, Except.ok.injEq] at h
      obtain ⟨⟨hstate, hlease, -, hattempt⟩, hjobs⟩ := h
      exact ⟨row, hfound, ⟨hrevision, hstate, hlease, hattempt⟩, hjobs.symm⟩

end PlantNexus.Exports
