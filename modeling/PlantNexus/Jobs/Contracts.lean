import PlantNexus.Data.Checks
import PlantNexus.Data.Sha256
import PlantNexus.Time.Instant

/-! Pure transitions of a job record: claim, heartbeat, stall and completion.

A job is owned through its worker id and a lease that ends at an instant. `assertActiveLease`
is the one ownership check; `claimJob` is the only transition that counts an attempt. -/
namespace PlantNexus.Jobs
open Data Time

inductive JobStatus where
  | queued
  | running
  | succeeded
  | failed
  | stalled
deriving DecidableEq, Repr

def JobStatus.Terminal (s : JobStatus) : Prop := s = .succeeded ∨ s = .failed

instance (s : JobStatus) : Decidable s.Terminal := inferInstanceAs (Decidable (_ ∨ _))

/-- What a transition raises. The last one is the `OverflowError` of an instant that
`datetime` cannot represent. -/
inductive JobError where
  | value (message : String)
  | transition (message : String)
  | leaseOwnership
  | leaseExpired
  | overflow
deriving DecidableEq, Repr

structure JobRecord where
  jobId : String
  jobKind : String
  idempotencyKey : String
  requestFingerprint : String
  status : JobStatus
  attempt : Nat
  createdAt : Datetime
  updatedAt : Datetime
  startedAt : Option Datetime
  heartbeatAt : Option Datetime
  leaseExpiresAt : Option Datetime
  finishedAt : Option Datetime
  workerId : Option String
  failureCode : Option String
deriving DecidableEq

def JobStatus.text : JobStatus → String
  | .queued => "QUEUED"
  | .running => "RUNNING"
  | .succeeded => "SUCCEEDED"
  | .failed => "FAILED"
  | .stalled => "STALLED"

/-- `_SHA256.fullmatch` -/
def isSha256Digest (value : String) : Bool :=
  value.length = 64 && value.toList.all fun c => c ∈ "0123456789abcdef".toList

/-- `JobRecord.__post_init__`; the identity it checks is never replaced later. -/
def checkIdentity (record : JobRecord) : Except JobError Unit := do
  require (record.jobId ≠ "") (.value "job_id must not be empty")
  require (record.jobKind ≠ "") (.value "job_kind must not be empty")
  require (record.idempotencyKey ≠ "") (.value "idempotency_key must not be empty")
  require (record.requestFingerprint ≠ "") (.value "request_fingerprint must not be empty")
  require (isSha256Digest record.requestFingerprint = true)
    (.value "request_fingerprint must be a lowercase SHA-256 hex digest")

/-- `new_job` -/
def newJob (jobId jobKind idempotencyKey requestFingerprint : String) (now : Datetime) :
    Except JobError JobRecord := do
  let record : JobRecord :=
    { jobId, jobKind, idempotencyKey, requestFingerprint
      status := .queued
      attempt := 0
      createdAt := now
      updatedAt := now
      startedAt := none
      heartbeatAt := none
      leaseExpiresAt := none
      finishedAt := none
      workerId := none
      failureCode := none }
  checkIdentity record
  return record

/-- `now + timedelta(seconds=lease_seconds)` -/
def leaseEnd (now : Datetime) (leaseSeconds : Int) : Except JobError Datetime :=
  match now.addSeconds leaseSeconds with
  | some stop => .ok stop
  | none => .error .overflow

/-- `claim_job` -/
def claimJob (record : JobRecord) (workerId : String) (now : Datetime) (leaseSeconds : Int) :
    Except JobError JobRecord := do
  require (workerId ≠ "") (.value "worker_id must not be empty")
  require (0 < leaseSeconds) (.value "lease_seconds must be positive")
  require (record.status = .queued ∨ record.status = .stalled)
    (.transition s!"cannot claim a {record.status.text} job")
  let stop ← leaseEnd now leaseSeconds
  return { record with
    status := .running
    attempt := record.attempt + 1
    updatedAt := now
    startedAt := some now
    heartbeatAt := some now
    leaseExpiresAt := some stop
    finishedAt := none
    workerId := some workerId
    failureCode := none }

/-- `_assert_active_lease` -/
def assertActiveLease (record : JobRecord) (workerId : String) (now : Datetime) :
    Except JobError Unit := do
  require (record.status = .running) (.transition s!"job is not running: {record.status.text}")
  require (record.workerId = some workerId) .leaseOwnership
  require (∃ stop ∈ record.leaseExpiresAt, now < stop) .leaseExpired

/-- `heartbeat_job` -/
def heartbeatJob (record : JobRecord) (workerId : String) (now : Datetime) (leaseSeconds : Int) :
    Except JobError JobRecord := do
  require (0 < leaseSeconds) (.value "lease_seconds must be positive")
  assertActiveLease record workerId now
  let stop ← leaseEnd now leaseSeconds
  return { record with updatedAt := now, heartbeatAt := some now, leaseExpiresAt := some stop }

/-- `mark_stalled`; a record whose lease has not expired is returned as it is. -/
def markStalled (record : JobRecord) (now : Datetime) : JobRecord :=
  if record.status = .running ∧ ∃ stop ∈ record.leaseExpiresAt, stop ≤ now then
    { record with
      status := .stalled
      updatedAt := now
      workerId := none
      leaseExpiresAt := none }
  else record

/-- `complete_job` -/
def completeJob (record : JobRecord) (workerId : String) (now : Datetime) (succeeded : Bool)
    (failureCode : Option String) : Except JobError JobRecord := do
  assertActiveLease record workerId now
  require (succeeded = true → failureCode = none)
    (.value "a successful job cannot have a failure code")
  require (succeeded = false → failureCode.getD "" ≠ "")
    (.value "a failed job requires a non-empty failure code")
  return { record with
    status := if succeeded then .succeeded else .failed
    updatedAt := now
    finishedAt := some now
    workerId := none
    leaseExpiresAt := none
    failureCode := failureCode }

/-! ### What a transition needs and does -/

theorem assertActiveLease_eq_ok (record : JobRecord) (workerId : String) (now : Datetime) :
    assertActiveLease record workerId now = .ok () ↔
      record.status = .running ∧ record.workerId = some workerId ∧
        ∃ stop ∈ record.leaseExpiresAt, now < stop := by
  simp only [assertActiveLease, bind_unit_eq_ok, require_eq_ok]

theorem claimJob_ok {record claimed : JobRecord} {workerId : String} {now : Datetime}
    {leaseSeconds : Int} (h : claimJob record workerId now leaseSeconds = .ok claimed) :
    (record.status = .queued ∨ record.status = .stalled) ∧ claimed.jobId = record.jobId ∧
      claimed.status = .running ∧ claimed.attempt = record.attempt + 1 ∧
      claimed.workerId = some workerId := by
  simp only [claimJob, bind_eq_ok, exists_unit_iff, require_eq_ok, pure, Except.pure,
    Except.ok.injEq] at h
  obtain ⟨-, -, hstatus, stop, -, hclaimed⟩ := h
  subst hclaimed
  exact ⟨hstatus, rfl, rfl, rfl, rfl⟩

theorem heartbeatJob_ok {record extended : JobRecord} {workerId : String} {now : Datetime}
    {leaseSeconds : Int} (h : heartbeatJob record workerId now leaseSeconds = .ok extended) :
    record.status = .running ∧ record.workerId = some workerId ∧
      extended.jobId = record.jobId ∧ extended.status = .running ∧
      extended.attempt = record.attempt ∧ extended.workerId = some workerId := by
  simp only [heartbeatJob, bind_eq_ok, exists_unit_iff, require_eq_ok, assertActiveLease_eq_ok,
    pure, Except.pure, Except.ok.injEq] at h
  obtain ⟨-, ⟨hstatus, hworker, -⟩, stop, -, hextended⟩ := h
  subst hextended
  exact ⟨hstatus, hworker, rfl, hstatus, rfl, hworker⟩

theorem completeJob_ok {record completed : JobRecord} {workerId : String} {now : Datetime}
    {succeeded : Bool} {failureCode : Option String}
    (h : completeJob record workerId now succeeded failureCode = .ok completed) :
    record.status = .running ∧ record.workerId = some workerId ∧
      completed.jobId = record.jobId ∧ completed.status.Terminal ∧
      completed.attempt = record.attempt := by
  simp only [completeJob, bind_eq_ok, exists_unit_iff, require_eq_ok, assertActiveLease_eq_ok,
    pure, Except.pure, Except.ok.injEq] at h
  obtain ⟨⟨hstatus, hworker, -⟩, -, -, hcompleted⟩ := h
  subst hcompleted
  refine ⟨hstatus, hworker, rfl, ?_, rfl⟩
  cases succeeded with
  | true => exact .inl rfl
  | false => exact .inr rfl

/-- A record that `mark_stalled` changes was running. -/
theorem markStalled_cases (record : JobRecord) (now : Datetime) :
    markStalled record now = record ∨
      record.status = .running ∧ (markStalled record now).jobId = record.jobId ∧
        (markStalled record now).status = .stalled ∧
        (markStalled record now).attempt = record.attempt := by
  unfold markStalled
  by_cases hexpired : record.status = .running ∧ ∃ stop ∈ record.leaseExpiresAt, stop ≤ now
  · rw [if_pos hexpired]
    exact .inr ⟨hexpired.1, rfl, rfl, rfl⟩
  · rw [if_neg hexpired]
    exact .inl rfl

end PlantNexus.Jobs
