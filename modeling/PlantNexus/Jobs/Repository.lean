import PlantNexus.Domain.CarrierContracts
import PlantNexus.Jobs.Contracts

/-! The durable lease of a worker job.

Every change of a job row is a read of the row, a pure transition and a compare-and-swap
against the four columns that were read (`casJob`); another transaction may commit between
the two. `lockActiveLease` is one conditional update. -/
namespace PlantNexus.Jobs
open Data Time Domain

inductive WorkerErrorCode where
  | invalidMessage
  | invalidWorkItem
  | inputMismatch
  | runtimeMismatch
  | notAvailable
  | leaseBusy
  | leaseLost
  | resultConflict
  | persistenceFailed
  | executionFailed
deriving DecidableEq, Repr

/-- `PlanningRunWorkerError` -/
structure WorkerError where
  code : WorkerErrorCode
  field : String
  message : String
  retryable : Bool := false
deriving DecidableEq, Repr

/-- A rejection of the worker, or an exception of a transition that it does not catch. -/
inductive CallError where
  | rejected (error : WorkerError)
  | raised (error : JobError)
deriving DecidableEq, Repr

def planningRunSolverJobKind : String := "P8_PLANNING_RUN_SOLVER"

/-- What a job is bound to: the identity of a work item and of its runtime. -/
structure WorkBinding where
  planningRunId : String
  attemptId : String
  workItemId : String
  workItemFingerprint : String
  runtimeResolutionFingerprint : String
deriving DecidableEq, Repr

/-- `worker_job_identity`: the job id, the key reference and the request digest. -/
def workerJobIdentity (work : WorkBinding) (dataPlane : String) : String × String × String :=
  let digest :=
    Sha256.hexdigest
      (Json.obj
        [("job_kind", .str planningRunSolverJobKind), ("data_plane", .str dataPlane),
         ("planning_run_id", .str work.planningRunId), ("attempt_id", .str work.attemptId),
         ("work_item_id", .str work.workItemId),
         ("work_item_fingerprint", .str work.workItemFingerprint)]).dumps
  let keyReference :=
    contractFingerprint
      (.obj [("scope", .str planningRunSolverJobKind), ("work_item_id", .str work.workItemId)])
  (digest, keyReference, digest)

/-- A row of `planning_run_worker_jobs`. -/
structure WorkerJobBinding where
  jobId : String
  dataPlane : String
  work : WorkBinding
deriving DecidableEq, Repr

/-- The two tables; a job row is found under its primary key. -/
structure WorkerTables where
  jobs : String → Option JobRecord
  bindings : List WorkerJobBinding

def WorkerTables.put (t : WorkerTables) (jobId : String) (record : JobRecord) : WorkerTables :=
  { t with jobs := fun id => if id = jobId then some record else t.jobs id }

@[simp]
theorem WorkerTables.put_jobs (t : WorkerTables) (jobId id : String) (record : JobRecord) :
    (t.put jobId record).jobs id = if id = jobId then some record else t.jobs id := rfl

/-! ### Creation -/

/-- The binding a job already has, or one that an insert would collide with. -/
def WorkerTables.bindingFor (t : WorkerTables) (jobId : String) (work : WorkBinding) :
    Option WorkerJobBinding :=
  (t.bindings.find? fun b => b.jobId = jobId).or
    (t.bindings.find? fun b =>
      b.work.attemptId = work.attemptId ∨ b.work.workItemId = work.workItemId)

/-- `ensure_job`: insert the job and its binding unless they exist. -/
def ensureJob (t : WorkerTables) (work : WorkBinding) (dataPlane : String) (now : Datetime) :
    Except CallError (WorkerTables × JobRecord) := do
  let (jobId, keyReference, digest) := workerJobIdentity work dataPlane
  let candidate ←
    (newJob jobId planningRunSolverJobKind keyReference digest now).mapError CallError.raised
  let (t, existing) :=
    match t.jobs jobId with
    | some existing => (t, existing)
    | none => (t.put jobId candidate, candidate)
  require (existing.jobKind = candidate.jobKind ∧
      existing.idempotencyKey = candidate.idempotencyKey ∧
      existing.requestFingerprint = candidate.requestFingerprint)
    (.rejected ⟨.resultConflict, "worker_job",
      "Worker job identity has different immutable content", false⟩)
  let binding : WorkerJobBinding := ⟨jobId, dataPlane, work⟩
  match t.bindingFor jobId work with
  | none => return ({ t with bindings := t.bindings ++ [binding] }, existing)
  | some stored => do
    require (stored = binding)
      (.rejected ⟨.resultConflict, "worker_job.binding",
        "Worker job binding has different immutable content", false⟩)
    return (t, existing)

/-! ### Compare-and-swap -/

/-- The columns that a compare-and-swap compares. -/
def SameLease (row previous : JobRecord) : Prop :=
  row.status = previous.status ∧ row.attempt = previous.attempt ∧
    row.workerId = previous.workerId ∧ row.leaseExpiresAt = previous.leaseExpiresAt

instance (row previous : JobRecord) : Decidable (SameLease row previous) :=
  inferInstanceAs (Decidable (_ ∧ _))

/-- The columns that a compare-and-swap writes; the identity of the row stays. -/
def swapped (row candidate : JobRecord) : JobRecord :=
  { candidate with
    jobId := row.jobId
    jobKind := row.jobKind
    idempotencyKey := row.idempotencyKey
    requestFingerprint := row.requestFingerprint
    createdAt := row.createdAt }

/-- `_cas_job` -/
def casJob (t : WorkerTables) (previous candidate : JobRecord) : Option WorkerTables :=
  match t.jobs previous.jobId with
  | some row =>
    if SameLease row previous then some (t.put previous.jobId (swapped row candidate)) else none
  | none => none

/-! ### Calls -/

/-- The repository calls that read a row and swap it. -/
inductive Operation where
  | claim (leaseSeconds : Int)
  | heartbeat (leaseSeconds : Int)
  | complete (succeeded : Bool) (failureCode : Option String)
  | markExpiredStalled
deriving DecidableEq, Repr

/-- `except JobTransitionError` -/
def orLeaseLost (error : WorkerError) : Except JobError JobRecord → Except CallError JobRecord
  | .ok record => .ok record
  | .error (.value message) => .error (.raised (.value message))
  | .error .overflow => .error (.raised .overflow)
  | .error _ => .error (.rejected error)

/-- The part of a call before its compare-and-swap: the row it has read and the record it
wants to write. -/
def Operation.prepare (operation : Operation) (workerId : String) (now : Datetime)
    (row : Option JobRecord) : Except CallError (JobRecord × JobRecord) :=
  match operation, row with
  | .claim _, none =>
    .error (.rejected ⟨.persistenceFailed, "worker_job", "Worker job is absent", false⟩)
  | .claim leaseSeconds, some previous => do
    require (previous.status ≠ .running)
      (.rejected ⟨.leaseBusy, "worker_job.lease", "Worker job already has an active lease", true⟩)
    require (¬previous.status.Terminal)
      (.rejected ⟨.resultConflict, "worker_job.status", "Terminal Worker job cannot be claimed",
        false⟩)
    let candidate ←
      orLeaseLost ⟨.leaseLost, "worker_job.lease", "Worker job claim was rejected", true⟩
        (claimJob previous workerId now leaseSeconds)
    return (previous, candidate)
  | .heartbeat _, none =>
    .error (.rejected
      ⟨.leaseLost, "worker_job.lease", "Worker job disappeared before heartbeat", true⟩)
  | .heartbeat leaseSeconds, some previous => do
    let candidate ←
      orLeaseLost ⟨.leaseLost, "worker_job.lease", "Worker heartbeat lost its active lease", true⟩
        (heartbeatJob previous workerId now leaseSeconds)
    return (previous, candidate)
  | .complete _ _, none =>
    .error (.rejected
      ⟨.leaseLost, "worker_job.lease", "Worker job disappeared before completion", false⟩)
  | .complete succeeded failureCode, some previous => do
    let candidate ←
      orLeaseLost ⟨.leaseLost, "worker_job.lease", "Worker completion lost its active lease", false⟩
        (completeJob previous workerId now succeeded failureCode)
    return (previous, candidate)
  | .markExpiredStalled, none =>
    .error (.rejected ⟨.persistenceFailed, "worker_job", "Worker job is absent", false⟩)
  | .markExpiredStalled, some previous => .ok (previous, markStalled previous now)

/-- `lock_active_lease` passes: the row it would update exists. -/
def LeaseActive (t : WorkerTables) (jobId workerId : String) (now : Datetime) : Prop :=
  ∃ row ∈ t.jobs jobId,
    row.workerId = some workerId ∧ row.status = .running ∧
      ∃ stop ∈ row.leaseExpiresAt, now < stop

instance (t : WorkerTables) (jobId workerId : String) (now : Datetime) :
    Decidable (LeaseActive t jobId workerId now) := by
  unfold LeaseActive
  infer_instance

/-- `lock_active_lease` -/
def lockActiveLease (t : WorkerTables) (jobId workerId : String) (now : Datetime) :
    Except CallError (WorkerTables × JobRecord) :=
  match t.jobs jobId with
  | some row =>
    if LeaseActive t jobId workerId now then .ok (t, row)
    else
      .error (.rejected ⟨.leaseLost, "worker_job.commit", "Result application lost its lease",
        false⟩)
  | none =>
    .error (.rejected ⟨.leaseLost, "worker_job.commit", "Result application lost its lease",
      false⟩)

/-! ### What the calls do -/

theorem orLeaseLost_eq_ok (error : WorkerError) (x : Except JobError JobRecord)
    (record : JobRecord) : orLeaseLost error x = .ok record ↔ x = .ok record := by
  cases x with
  | ok a =>
    show (.ok a : Except CallError JobRecord) = .ok record ↔ _
    rw [Except.ok.injEq, Except.ok.injEq]
  | error e =>
    constructor
    · intro h
      cases e <;> cases h
    · intro h
      cases h

/-- What a prepared call has read, and what it may write. -/
structure Prepared (operation : Operation) (workerId : String) (previous candidate : JobRecord) :
    Prop where
  claim : ∀ lease, operation = .claim lease →
    (previous.status = .queued ∨ previous.status = .stalled) ∧ candidate.status = .running ∧
      candidate.attempt = previous.attempt + 1 ∧ candidate.workerId = some workerId
  heartbeat : ∀ lease, operation = .heartbeat lease →
    previous.status = .running ∧ previous.workerId = some workerId ∧
      candidate.status = .running ∧ candidate.attempt = previous.attempt ∧
      candidate.workerId = some workerId
  complete : ∀ succeeded code, operation = .complete succeeded code →
    previous.status = .running ∧ previous.workerId = some workerId ∧
      candidate.status.Terminal ∧ candidate.attempt = previous.attempt
  stall : operation = .markExpiredStalled →
    candidate = previous ∨
      previous.status = .running ∧ candidate.status = .stalled ∧
        candidate.attempt = previous.attempt

theorem prepare_ok {operation : Operation} {workerId : String} {now : Datetime}
    {row : Option JobRecord} {previous candidate : JobRecord}
    (h : operation.prepare workerId now row = .ok (previous, candidate)) :
    row = some previous ∧ Prepared operation workerId previous candidate := by
  unfold Operation.prepare at h
  split at h
  · cases h
  · simp only [bind_eq_ok, exists_unit_iff, orLeaseLost_eq_ok, pure, Except.pure,
      Except.ok.injEq, Prod.mk.injEq] at h
    obtain ⟨-, -, record, hclaim, rfl, rfl⟩ := h
    obtain ⟨hstatus, -, hrunning, hattempt, hworker⟩ := claimJob_ok hclaim
    exact ⟨rfl, fun _ _ => ⟨hstatus, hrunning, hattempt, hworker⟩, by simp, by simp, by simp⟩
  · cases h
  · simp only [bind_eq_ok, orLeaseLost_eq_ok, pure, Except.pure, Except.ok.injEq,
      Prod.mk.injEq] at h
    obtain ⟨record, hbeat, rfl, rfl⟩ := h
    obtain ⟨hstatus, hworker, -, hrunning, hattempt, hworker'⟩ := heartbeatJob_ok hbeat
    exact ⟨rfl, by simp, fun _ _ => ⟨hstatus, hworker, hrunning, hattempt, hworker'⟩, by simp, by simp⟩
  · cases h
  · simp only [bind_eq_ok, orLeaseLost_eq_ok, pure, Except.pure, Except.ok.injEq,
      Prod.mk.injEq] at h
    obtain ⟨record, hcomplete, rfl, rfl⟩ := h
    obtain ⟨hstatus, hworker, -, hterminal, hattempt⟩ := completeJob_ok hcomplete
    exact ⟨rfl, by simp, by simp, fun _ _ _ => ⟨hstatus, hworker, hterminal, hattempt⟩, by simp⟩
  · cases h
  · rename_i stored
    simp only [Except.ok.injEq, Prod.mk.injEq] at h
    obtain ⟨rfl, rfl⟩ := h
    refine ⟨rfl, by simp, by simp, by simp, fun _ => ?_⟩
    cases markStalled_cases stored now with
    | inl heq => exact .inl heq
    | inr hstalled => exact .inr ⟨hstalled.1, hstalled.2.2⟩

theorem casJob_eq_some {t t' : WorkerTables} {previous candidate : JobRecord}
    (h : casJob t previous candidate = some t') :
    ∃ row, t.jobs previous.jobId = some row ∧ SameLease row previous ∧
      t' = t.put previous.jobId (swapped row candidate) := by
  unfold casJob at h
  split at h
  · rename_i row hrow
    split at h
    · rename_i hsame
      injection h with h
      exact ⟨row, hrow, hsame, h.symm⟩
    · cases h
  · cases h

theorem newJob_ok {jobId kind key digest : String} {now : Datetime} {record : JobRecord}
    (h : newJob jobId kind key digest now = .ok record) :
    record.jobId = jobId ∧ record.status = .queued ∧ record.attempt = 0 := by
  simp only [newJob, bind_eq_ok, exists_unit_iff, pure, Except.pure, Except.ok.injEq] at h
  obtain ⟨-, hrecord⟩ := h
  subst hrecord
  exact ⟨rfl, rfl, rfl⟩

/-- Creation leaves an existing row as it is, and a new row is queued without an owner. -/
theorem ensureJob_ok {t t' : WorkerTables} {work : WorkBinding} {dataPlane : String}
    {now : Datetime} {record : JobRecord} (h : ensureJob t work dataPlane now = .ok (t', record))
    (id : String) :
    t'.jobs id = t.jobs id ∨
      t.jobs id = none ∧ ∃ row, t'.jobs id = some row ∧ row.jobId = id ∧
        row.status = .queued ∧ row.attempt = 0 := by
  simp only [ensureJob, bind_eq_ok, exists_unit_iff, mapError_eq_ok] at h
  obtain ⟨candidate, hcandidate, -, h⟩ := h
  have hqueued := newJob_ok hcandidate
  have hjobs : t'.jobs =
      (match t.jobs (workerJobIdentity work dataPlane).1 with
        | some existing => (t, existing)
        | none => (t.put (workerJobIdentity work dataPlane).1 candidate, candidate)).1.jobs := by
    split at h
    · simp only [pure, Except.pure, Except.ok.injEq, Prod.mk.injEq] at h
      rw [← h.1]
    · simp only [bind_eq_ok, exists_unit_iff, pure, Except.pure, Except.ok.injEq,
        Prod.mk.injEq] at h
      rw [← h.2.1]
  rw [hjobs]
  cases hrow : t.jobs (workerJobIdentity work dataPlane).1 with
  | some existing => exact .inl rfl
  | none =>
    by_cases hid : id = (workerJobIdentity work dataPlane).1
    · subst hid
      exact .inr ⟨hrow, candidate, by simp, hqueued⟩
    · exact .inl (by simp [hid])

end PlantNexus.Jobs
