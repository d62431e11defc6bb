import PlantNexus.Data.Reach
import PlantNexus.Jobs.Repository

/-! Fencing of concurrent `execute` invocations by the durable lease.

Any number of invocations call the repository. A call that changes a row reads it in one step
and swaps it in a later one; a call that is rejected changes nothing and takes no step. The
history of claims is kept beside the tables, so that a superseded claim can be named. -/
namespace PlantNexus.Jobs
open Data Time

/-- A call that has read its row and has not yet swapped it. -/
structure PendingCall where
  invocation : Nat
  operation : Operation
  previous : JobRecord
  candidate : JobRecord
deriving DecidableEq

/-- A claim that has been committed. -/
structure Claim where
  invocation : Nat
  jobId : String
  attempt : Nat
deriving DecidableEq, Repr

/-- The claim that a swapped call commits. -/
def PendingCall.claims (call : PendingCall) : List Claim :=
  match call.operation with
  | .claim _ => [⟨call.invocation, call.previous.jobId, call.candidate.attempt⟩]
  | _ => []

/-- The tables, the clock, the calls in flight and the committed claims, newest first. -/
structure LeaseSystem where
  tables : WorkerTables
  clock : Datetime
  pending : List PendingCall
  claims : List Claim

def LeaseSystem.initial (clock : Datetime) : LeaseSystem :=
  ⟨⟨fun _ => none, []⟩, clock, [], []⟩

def LeaseSystem.latestClaim (s : LeaseSystem) (jobId : String) : Option Claim :=
  s.claims.find? fun claim => claim.jobId = jobId

/-- The invocation has claimed the job, and the newest claim of the job is another's. -/
def LeaseSystem.Superseded (s : LeaseSystem) (invocation : Nat) (jobId : String) : Prop :=
  (∃ claim ∈ s.claims, claim.jobId = jobId ∧ claim.invocation = invocation) ∧
    ∃ claim, s.latestClaim jobId = some claim ∧ claim.invocation ≠ invocation

def LeaseSystem.hold (s : LeaseSystem) (call : PendingCall) : LeaseSystem :=
  { s with pending := call :: s.pending }

def LeaseSystem.drop (s : LeaseSystem) (call : PendingCall) : LeaseSystem :=
  { s with pending := s.pending.erase call }

def LeaseSystem.commit (s : LeaseSystem) (call : PendingCall) (tables : WorkerTables) :
    LeaseSystem :=
  { s with
    tables
    pending := s.pending.erase call
    claims := call.claims ++ s.claims }

inductive LeaseEvent where
  | tick
  | ensured
  | read (call : PendingCall)
  | swapped (call : PendingCall)
  | lost (call : PendingCall)
  | locked (invocation : Nat) (jobId : String)

/-- The event extends or completes the job, or passes the commit fence on it. -/
inductive ActsAsOwner : LeaseEvent → Nat → String → Prop
  | extended {call : PendingCall} {lease : Int} (h : call.operation = .heartbeat lease) :
      ActsAsOwner (.swapped call) call.invocation call.previous.jobId
  | completed {call : PendingCall} {succeeded : Bool} {code : Option String}
      (h : call.operation = .complete succeeded code) :
      ActsAsOwner (.swapped call) call.invocation call.previous.jobId
  | locked (invocation : Nat) (jobId : String) :
      ActsAsOwner (.locked invocation jobId) invocation jobId

section System
-- the worker id an invocation runs under; a redelivered message carries the same one
variable (workerOf : Nat → String)

/-- One atomic step. A call works with an instant that the clock has reached. -/
inductive LeaseStep : LeaseSystem → LeaseEvent → LeaseSystem → Prop
  | tick {s : LeaseSystem} {now : Datetime} (h : s.clock ≤ now) :
      LeaseStep s .tick { s with clock := now }
  | ensured {s : LeaseSystem} {work : WorkBinding} {dataPlane : String} {now : Datetime}
      {t : WorkerTables} {record : JobRecord} (hnow : now ≤ s.clock)
      (h : ensureJob s.tables work dataPlane now = .ok (t, record)) :
      LeaseStep s .ensured { s with tables := t }
  | read {s : LeaseSystem} {jobId : String} {now : Datetime} {call : PendingCall}
      (hnow : now ≤ s.clock)
      (h : call.operation.prepare (workerOf call.invocation) now (s.tables.jobs jobId) =
        .ok (call.previous, call.candidate))
      -- `candidate is previous`: a job that is not expired is returned without a swap
      (hchanged : call.operation = .markExpiredStalled → call.candidate ≠ call.previous) :
      LeaseStep s (.read call) (s.hold call)
  | swapped {s : LeaseSystem} {call : PendingCall} {t : WorkerTables} (hcall : call ∈ s.pending)
      (h : casJob s.tables call.previous call.candidate = some t) :
      LeaseStep s (.swapped call) (s.commit call t)
  | lost {s : LeaseSystem} {call : PendingCall} (hcall : call ∈ s.pending)
      (h : casJob s.tables call.previous call.candidate = none) :
      LeaseStep s (.lost call) (s.drop call)
  | locked {s : LeaseSystem} {invocation : Nat} {jobId : String} {now : Datetime}
      {t : WorkerTables} {record : JobRecord} (hnow : now ≤ s.clock)
      (h : lockActiveLease s.tables jobId (workerOf invocation) now = .ok (t, record)) :
      LeaseStep s (.locked invocation jobId) { s with tables := t }

/-- No other invocation has claimed the same job under the worker id of a claim. -/
def FreshWorker (s : LeaseSystem) : LeaseEvent → Prop
  | .swapped call =>
    ∀ lease, call.operation = .claim lease →
      ∀ claim ∈ s.claims, claim.jobId = call.previous.jobId →
        workerOf claim.invocation = workerOf call.invocation → claim.invocation = call.invocation
  | _ => True

/-- What fencing promises of one step. -/
structure Fenced (s : LeaseSystem) (event : LeaseEvent) (s' : LeaseSystem) : Prop where
  claimed : ∀ call lease, event = .swapped call → call.operation = .claim lease →
    ∃ row row', s.tables.jobs call.previous.jobId = some row ∧
      s'.tables.jobs call.previous.jobId = some row' ∧
      (row.status = .queued ∨ row.status = .stalled) ∧ row.attempt < row'.attempt ∧
      ∀ claim ∈ s.claims, claim.jobId = call.previous.jobId → claim.attempt < row'.attempt
  terminal : ∀ id row, s.tables.jobs id = some row → row.status.Terminal →
    s'.tables.jobs id = some row
  owned : ∀ invocation jobId, ActsAsOwner event invocation jobId →
    ¬s.Superseded invocation jobId

/-- What every reachable state keeps about rows, calls in flight and claims. -/
structure LeaseInv (s : LeaseSystem) : Prop where
  keyed : ∀ id row, s.tables.jobs id = some row → row.jobId = id
  pending : ∀ call ∈ s.pending,
    Prepared call.operation (workerOf call.invocation) call.previous call.candidate ∧
      (call.operation = .markExpiredStalled → call.candidate ≠ call.previous)
  counted : ∀ claim ∈ s.claims,
    ∃ row, s.tables.jobs claim.jobId = some row ∧ claim.attempt ≤ row.attempt
  owner : ∀ id row, s.tables.jobs id = some row → row.status = .running →
    ∃ claim, s.latestClaim id = some claim ∧ row.workerId = some (workerOf claim.invocation)
  distinct : ∀ claim ∈ s.claims, ∀ claim' ∈ s.claims, claim.jobId = claim'.jobId →
    workerOf claim.invocation = workerOf claim'.invocation →
    claim.invocation = claim'.invocation

/-! ### The invariant -/

theorem leaseInv_initial (clock : Datetime) : LeaseInv workerOf (.initial clock) := by
  refine ⟨?_, ?_, ?_, ?_, ?_⟩
  · intro id row h
    cases h
  · intro call h
    cases h
  · intro claim h
    cases h
  · intro id row h
    cases h
  · intro claim h
    cases h

variable {workerOf} {s s' : LeaseSystem} {event : LeaseEvent}

theorem ensured_leaseInv {work : WorkBinding} {dataPlane : String} {now : Datetime}
    {t : WorkerTables} {record : JobRecord} (hinv : LeaseInv workerOf s)
    (h : ensureJob s.tables work dataPlane now = .ok (t, record)) :
    LeaseInv workerOf { s with tables := t } := by
  have hrow := ensureJob_ok h
  refine ⟨?_, hinv.pending, ?_, ?_, hinv.distinct⟩
  · intro id row hid
    obtain hsame | ⟨-, made, hmade, hkey, -⟩ := hrow id
    · exact hinv.keyed id row (hsame ▸ hid)
    · rw [show t.jobs id = some row from hid, Option.some.injEq] at hmade
      rw [hmade, hkey]
  · intro claim hclaim
    obtain ⟨row, hid, hle⟩ := hinv.counted claim hclaim
    obtain hsame | ⟨hnone, -⟩ := hrow claim.jobId
    · exact ⟨row, hsame.trans hid, hle⟩
    · rw [hnone] at hid
      cases hid
  · intro id row hid hrunning
    obtain hsame | ⟨-, made, hmade, -, hqueued, -⟩ := hrow id
    · exact hinv.owner id row (hsame ▸ hid) hrunning
    · rw [show t.jobs id = some row from hid, Option.some.injEq] at hmade
      rw [hmade, hqueued] at hrunning
      cases hrunning

/-- A call in flight that is swapped wrote over a row with the lease it had read. -/
theorem swapped_row {call : PendingCall} {t : WorkerTables} (hinv : LeaseInv workerOf s)
    (hcall : call ∈ s.pending) (h : casJob s.tables call.previous call.candidate = some t) :
    ∃ row, s.tables.jobs call.previous.jobId = some row ∧ SameLease row call.previous ∧
      t = s.tables.put call.previous.jobId (swapped row call.candidate) ∧
      Prepared call.operation (workerOf call.invocation) call.previous call.candidate := by
  obtain ⟨row, hrow, hsame, ht⟩ := casJob_eq_some h
  exact ⟨row, hrow, hsame, ht, (hinv.pending call hcall).1⟩

/-- A swap never lowers the attempt counter. -/
theorem Prepared.attempt_le {operation : Operation} {workerId : String}
    {previous candidate : JobRecord} (h : Prepared operation workerId previous candidate) :
    previous.attempt ≤ candidate.attempt := by
  cases operation with
  | claim lease =>
    obtain ⟨-, -, hattempt, -⟩ := h.claim lease rfl
    omega
  | heartbeat lease =>
    obtain ⟨-, -, -, hattempt, -⟩ := h.heartbeat lease rfl
    omega
  | complete succeeded code =>
    obtain ⟨-, -, -, hattempt⟩ := h.complete succeeded code rfl
    omega
  | markExpiredStalled =>
    obtain rfl | ⟨-, -, hattempt⟩ := h.stall rfl
    · exact Nat.le_refl _
    · omega

theorem mem_claims {call : PendingCall} {claim : Claim} (h : claim ∈ call.claims) :
    (∃ lease, call.operation = .claim lease) ∧
      claim = ⟨call.invocation, call.previous.jobId, call.candidate.attempt⟩ := by
  unfold PendingCall.claims at h
  split at h
  · rename_i lease hop
    exact ⟨⟨lease, hop⟩, List.mem_singleton.mp h⟩
  · cases h

theorem latestClaim_commit_of_ne {call : PendingCall} {t : WorkerTables} {id : String}
    (hid : id ≠ call.previous.jobId) : (s.commit call t).latestClaim id = s.latestClaim id := by
  unfold LeaseSystem.latestClaim
  show (call.claims ++ s.claims).find? _ = _
  rw [List.find?_append, List.find?_eq_none.mpr, Option.none_or]
  intro claim hclaim hjob
  obtain ⟨-, rfl⟩ := mem_claims hclaim
  exact hid (of_decide_eq_true hjob).symm

theorem latestClaim_commit_claim {call : PendingCall} {t : WorkerTables} {lease : Int}
    (hop : call.operation = .claim lease) :
    (s.commit call t).latestClaim call.previous.jobId =
      some ⟨call.invocation, call.previous.jobId, call.candidate.attempt⟩ := by
  simp [LeaseSystem.latestClaim, LeaseSystem.commit, PendingCall.claims, hop]

theorem latestClaim_commit_other {call : PendingCall} {t : WorkerTables} (id : String)
    (hop : ∀ lease, call.operation ≠ .claim lease) :
    (s.commit call t).latestClaim id = s.latestClaim id := by
  have hnone : call.claims = [] := by
    apply List.eq_nil_iff_forall_not_mem.mpr
    intro claim hclaim
    obtain ⟨⟨lease, hlease⟩, -⟩ := mem_claims hclaim
    exact hop lease hlease
  simp [LeaseSystem.latestClaim, LeaseSystem.commit, hnone]

/-- After a swap, a row that is running is owned by the newest claim of its job. -/
theorem commit_owner {call : PendingCall} {row : JobRecord} {t : WorkerTables}
    (hinv : LeaseInv workerOf s) (hrow : s.tables.jobs call.previous.jobId = some row)
    (hsame : SameLease row call.previous)
    (hprepared : Prepared call.operation (workerOf call.invocation) call.previous call.candidate)
    (hrunning : call.candidate.status = .running) :
    ∃ claim, (s.commit call t).latestClaim call.previous.jobId = some claim ∧
      call.candidate.workerId = some (workerOf claim.invocation) := by
  obtain ⟨hstatus, -, hworker, -⟩ := hsame
  -- a swap that is no claim keeps the owner of a running row
  have hkept : (∀ lease, call.operation ≠ .claim lease) → row.status = .running →
      row.workerId = call.candidate.workerId →
      ∃ claim, (s.commit call t).latestClaim call.previous.jobId = some claim ∧
        call.candidate.workerId = some (workerOf claim.invocation) := by
    intro hop hrowRunning hkeep
    obtain ⟨claim, hlatest, howner⟩ := hinv.owner _ row hrow hrowRunning
    exact ⟨claim, (latestClaim_commit_other _ hop).trans hlatest, hkeep ▸ howner⟩
  cases hop : call.operation with
  | claim lease =>
    obtain ⟨-, -, -, hnew⟩ := hprepared.claim lease hop
    exact ⟨_, latestClaim_commit_claim hop, hnew⟩
  | heartbeat lease =>
    obtain ⟨hprev, hprevWorker, -, -, hnew⟩ := hprepared.heartbeat lease hop
    apply hkept (by simp [hop]) (hstatus.trans hprev)
    rw [hworker, hprevWorker, hnew]
  | complete succeeded code =>
    obtain ⟨-, -, hterminal, -⟩ := hprepared.complete succeeded code hop
    rw [hrunning] at hterminal
    cases hterminal with
    | inl h => cases h
    | inr h => cases h
  | markExpiredStalled =>
    obtain heq | ⟨-, hstalled, -⟩ := hprepared.stall hop
    · apply hkept (by simp [hop])
      · rw [hstatus, ← heq, hrunning]
      · rw [hworker, heq]
    · rw [hrunning] at hstalled
      cases hstalled

theorem swapped_leaseInv {call : PendingCall} {t : WorkerTables} (hinv : LeaseInv workerOf s)
    (hcall : call ∈ s.pending) (hfresh : FreshWorker workerOf s (.swapped call))
    (h : casJob s.tables call.previous call.candidate = some t) :
    LeaseInv workerOf (s.commit call t) := by
  obtain ⟨row, hrow, hsame, rfl, hprepared⟩ := swapped_row hinv hcall h
  refine ⟨?_, ?_, ?_, ?_, ?_⟩
  · intro id stored hid
    simp only [LeaseSystem.commit, WorkerTables.put_jobs] at hid
    by_cases heq : id = call.previous.jobId
    · rw [if_pos heq, Option.some.injEq] at hid
      rw [← hid, heq]
      exact hinv.keyed _ row hrow
    · rw [if_neg heq] at hid
      exact hinv.keyed id stored hid
  · intro other hother
    exact hinv.pending other (List.mem_of_mem_erase hother)
  · intro claim hclaim
    simp only [LeaseSystem.commit, WorkerTables.put_jobs]
    obtain hnew | hold := List.mem_append.mp hclaim
    · obtain ⟨-, rfl⟩ := mem_claims hnew
      exact ⟨_, if_pos rfl, Nat.le_refl _⟩
    · obtain ⟨stored, hstored, hle⟩ := hinv.counted claim hold
      by_cases heq : claim.jobId = call.previous.jobId
      · refine ⟨_, if_pos heq, ?_⟩
        rw [heq, hrow, Option.some.injEq] at hstored
        have hrowle := hprepared.attempt_le
        rw [← hsame.2.1, hstored] at hrowle
        exact Nat.le_trans hle hrowle
      · exact ⟨stored, by rw [if_neg heq, hstored], hle⟩
  · intro id stored hid hrunning
    simp only [LeaseSystem.commit, WorkerTables.put_jobs] at hid
    by_cases heq : id = call.previous.jobId
    · rw [if_pos heq, Option.some.injEq] at hid
      subst hid heq
      exact commit_owner hinv hrow hsame hprepared hrunning
    · rw [if_neg heq] at hid
      rw [latestClaim_commit_of_ne heq]
      exact hinv.owner id stored hid hrunning
  · intro claim hclaim claim' hclaim' hjob hworker
    obtain hnew | hold := List.mem_append.mp hclaim
    · obtain ⟨⟨lease, hop⟩, rfl⟩ := mem_claims hnew
      obtain hnew' | hold' := List.mem_append.mp hclaim'
      · obtain ⟨-, rfl⟩ := mem_claims hnew'
        rfl
      · exact (hfresh lease hop claim' hold' hjob.symm hworker.symm).symm
    · obtain hnew' | hold' := List.mem_append.mp hclaim'
      · obtain ⟨⟨lease, hop⟩, rfl⟩ := mem_claims hnew'
        exact hfresh lease hop claim hold hjob hworker
      · exact hinv.distinct claim hold claim' hold' hjob hworker

theorem lockActiveLease_ok {t t' : WorkerTables} {jobId workerId : String} {now : Datetime}
    {record : JobRecord} (h : lockActiveLease t jobId workerId now = .ok (t', record)) :
    t' = t ∧ t.jobs jobId = some record ∧ record.workerId = some workerId ∧
      record.status = .running := by
  unfold lockActiveLease at h
  split at h
  · rename_i row hrow
    split at h
    · rename_i hactive
      obtain ⟨stored, hstored, hworker, hstatus, -⟩ := hactive
      simp only [Except.ok.injEq, Prod.mk.injEq] at h
      obtain ⟨rfl, rfl⟩ := h
      rw [hrow, Option.mem_some_iff] at hstored
      subst hstored
      exact ⟨rfl, hrow, hworker, hstatus⟩
    · cases h
  · cases h

theorem step_leaseInv (hinv : LeaseInv workerOf s) (hfresh : FreshWorker workerOf s event)
    (hstep : LeaseStep workerOf s event s') : LeaseInv workerOf s' := by
  cases hstep with
  | tick h => exact ⟨hinv.keyed, hinv.pending, hinv.counted, hinv.owner, hinv.distinct⟩
  | ensured hnow h => exact ensured_leaseInv hinv h
  | read hnow h hchanged =>
    refine ⟨hinv.keyed, ?_, hinv.counted, hinv.owner, hinv.distinct⟩
    intro call hcall
    obtain rfl | hold := List.mem_cons.mp hcall
    · exact ⟨(prepare_ok h).2, hchanged⟩
    · exact hinv.pending call hold
  | swapped hcall h => exact swapped_leaseInv hinv hcall hfresh h
  | lost hcall h =>
    refine ⟨hinv.keyed, ?_, hinv.counted, hinv.owner, hinv.distinct⟩
    intro call hold
    exact hinv.pending call (List.mem_of_mem_erase hold)
  | locked hnow h =>
    obtain ⟨rfl, -⟩ := lockActiveLease_ok h
    exact hinv

/-! ### Fencing -/

/-- An invocation that holds a running row is not superseded on its job. -/
theorem not_superseded (hinv : LeaseInv workerOf s) {id : String} {row : JobRecord}
    {invocation : Nat} (hrow : s.tables.jobs id = some row) (hrunning : row.status = .running)
    (hworker : row.workerId = some (workerOf invocation)) : ¬s.Superseded invocation id := by
  intro hsuperseded
  obtain ⟨⟨mine, hmine, hjob, rfl⟩, latest, hlatest, hother⟩ := hsuperseded
  obtain ⟨claim, hclaim, howner⟩ := hinv.owner id row hrow hrunning
  rw [hlatest, Option.some.injEq] at hclaim
  subst hclaim
  rw [hworker, Option.some.injEq] at howner
  have hjob' : latest.jobId = id := by simpa using List.find?_some hlatest
  apply hother
  exact hinv.distinct latest (List.mem_of_find?_eq_some hlatest) mine hmine
    (hjob'.trans hjob.symm) howner.symm

/-- A swap is never made over a terminal row. -/
theorem swapped_not_terminal {call : PendingCall} {row : JobRecord}
    (hchanged : call.operation = .markExpiredStalled → call.candidate ≠ call.previous)
    (hsame : SameLease row call.previous)
    (hprepared : Prepared call.operation (workerOf call.invocation) call.previous call.candidate) :
    ¬row.status.Terminal := by
  have hprev : call.previous.status = .queued ∨ call.previous.status = .stalled ∨
      call.previous.status = .running := by
    cases hop : call.operation with
    | claim lease => exact (hprepared.claim lease hop).1.imp_right .inl
    | heartbeat lease => exact .inr (.inr (hprepared.heartbeat lease hop).1)
    | complete succeeded code => exact .inr (.inr (hprepared.complete succeeded code hop).1)
    | markExpiredStalled =>
      obtain heq | ⟨hrunning, -⟩ := hprepared.stall hop
      · exact absurd heq (hchanged hop)
      · exact .inr (.inr hrunning)
  rw [hsame.1]
  obtain h | h | h := hprev
  · rw [h]
    decide
  · rw [h]
    decide
  · rw [h]
    decide

/-- A step leaves a terminal row as it is. -/
theorem step_terminal (hinv : LeaseInv workerOf s) (hstep : LeaseStep workerOf s event s')
    {id : String} {row : JobRecord} (hrow : s.tables.jobs id = some row)
    (hterminal : row.status.Terminal) : s'.tables.jobs id = some row := by
  cases hstep with
  | tick h => exact hrow
  | ensured hnow h =>
    obtain hsame | ⟨hnone, -⟩ := ensureJob_ok h id
    · exact hsame.trans hrow
    · rw [hnone] at hrow
      cases hrow
  | read hnow h hchanged => exact hrow
  | swapped hcall h =>
    rename_i call t
    obtain ⟨stored, hstored, hsame, rfl, hprepared⟩ := swapped_row hinv hcall h
    have hlive := swapped_not_terminal (hinv.pending _ hcall).2 hsame hprepared
    simp only [LeaseSystem.commit, WorkerTables.put_jobs]
    by_cases heq : id = call.previous.jobId
    · rw [heq, hstored, Option.some.injEq] at hrow
      subst hrow
      exact absurd hterminal hlive
    · rw [if_neg heq, hrow]
  | lost hcall h => exact hrow
  | locked hnow h =>
    obtain ⟨rfl, -⟩ := lockActiveLease_ok h
    exact hrow

/-- A claim is made over a queued or stalled row and counts past every earlier claim. -/
theorem swapped_claimed {call : PendingCall} {t : WorkerTables} {lease : Int}
    (hinv : LeaseInv workerOf s) (hcall : call ∈ s.pending)
    (h : casJob s.tables call.previous call.candidate = some t)
    (hop : call.operation = .claim lease) :
    ∃ row row', s.tables.jobs call.previous.jobId = some row ∧
      (s.commit call t).tables.jobs call.previous.jobId = some row' ∧
      (row.status = .queued ∨ row.status = .stalled) ∧ row.attempt < row'.attempt ∧
      ∀ claim ∈ s.claims, claim.jobId = call.previous.jobId → claim.attempt < row'.attempt := by
  obtain ⟨row, hrow, ⟨hstatus, hattempt, -⟩, rfl, hprepared⟩ := swapped_row hinv hcall h
  obtain ⟨hclaimable, -, hnext, -⟩ := hprepared.claim lease hop
  have hlt : row.attempt < call.candidate.attempt := by omega
  refine ⟨row, swapped row call.candidate, hrow, if_pos rfl, hstatus ▸ hclaimable, hlt, ?_⟩
  intro claim hclaim hjob
  obtain ⟨stored, hstored, hle⟩ := hinv.counted claim hclaim
  rw [hjob, hrow, Option.some.injEq] at hstored
  subst hstored
  exact Nat.lt_of_le_of_lt hle hlt

theorem step_owned (hinv : LeaseInv workerOf s) (hstep : LeaseStep workerOf s event s')
    {invocation : Nat} {jobId : String} (hacts : ActsAsOwner event invocation jobId) :
    ¬s.Superseded invocation jobId := by
  cases hacts with
  | extended hop =>
    cases hstep with
    | swapped hcall h =>
      obtain ⟨row, hrow, ⟨hstatus, -, hworker, -⟩, -, hprepared⟩ := swapped_row hinv hcall h
      obtain ⟨hrunning, howner, -⟩ := hprepared.heartbeat _ hop
      exact not_superseded hinv hrow (hstatus.trans hrunning) (hworker.trans howner)
  | completed hop =>
    cases hstep with
    | swapped hcall h =>
      obtain ⟨row, hrow, ⟨hstatus, -, hworker, -⟩, -, hprepared⟩ := swapped_row hinv hcall h
      obtain ⟨hrunning, howner, -⟩ := hprepared.complete _ _ hop
      exact not_superseded hinv hrow (hstatus.trans hrunning) (hworker.trans howner)
  | locked =>
    cases hstep with
    | locked hnow h =>
      obtain ⟨-, hrow, hworker, hrunning⟩ := lockActiveLease_ok h
      exact not_superseded hinv hrow hrunning hworker

theorem step_fenced (hinv : LeaseInv workerOf s) (hstep : LeaseStep workerOf s event s') :
    Fenced s event s' := by
  refine ⟨?_, ?_, ?_⟩
  · intro call lease hevent hop
    subst hevent
    cases hstep with
    | swapped hcall h => exact swapped_claimed hinv hcall h hop
  · intro id row hrow hterminal
    exact step_terminal hinv hstep hrow hterminal
  · intro invocation jobId hacts
    exact step_owned hinv hstep hacts

variable (workerOf)

variable {workerOf}

/-! ### A redelivered message -/

/-- The state after a call that nothing interrupts. -/
def LeaseSystem.after (s : LeaseSystem) (call : PendingCall) : LeaseSystem :=
  { s with
    tables := s.tables.put call.previous.jobId (swapped call.previous call.candidate)
    claims := call.claims ++ s.claims }

theorem reach_after {allowed : LeaseSystem → LeaseEvent → Prop} (call : PendingCall)
    (hidle : s.pending = []) (hrow : s.tables.jobs call.previous.jobId = some call.previous)
    (h : call.operation.prepare (workerOf call.invocation) s.clock (some call.previous) =
      .ok (call.previous, call.candidate))
    (hchanged : call.operation = .markExpiredStalled → call.candidate ≠ call.previous)
    (hreads : allowed s (.read call)) (hswaps : allowed (s.hold call) (.swapped call)) :
    Reach (LeaseStep workerOf) allowed s (s.after call) := by
  have hread : LeaseStep workerOf s (.read call) (s.hold call) :=
    .read (le_refl _) (by rw [hrow]; exact h) hchanged
  have hcas : casJob (s.hold call).tables call.previous call.candidate =
      some (s.after call).tables := by
    unfold casJob
    rw [show (s.hold call).tables.jobs call.previous.jobId = some call.previous from hrow]
    exact if_pos ⟨rfl, rfl, rfl, rfl⟩
  have hswap : LeaseStep workerOf (s.hold call) (.swapped call) _ :=
    .swapped (List.mem_cons_self ..) hcas
  have hcommit : (s.hold call).commit call (s.after call).tables = s.after call := by
    simp [LeaseSystem.commit, LeaseSystem.hold, LeaseSystem.after, hidle]
  exact hcommit ▸ Reach.next (.next .refl hreads hread) hswaps hswap

theorem after_jobs (s : LeaseSystem) (call : PendingCall)
    (hswapped : swapped call.previous call.candidate = call.candidate) :
    (s.after call).tables.jobs call.previous.jobId = some call.candidate := by
  simp [LeaseSystem.after, hswapped]

end System

def redeliveredWorker (_ : Nat) : String := "worker:redelivered"

def firstDelivery : Datetime := ⟨63902822400000000, by decide, by decide⟩

def firstExpiry : Datetime := ⟨63902822520000000, by decide, by decide⟩

def secondExpiry : Datetime := ⟨63902822640000000, by decide, by decide⟩

/-- A job that one of two deliveries has claimed; `queuedJob` is the row before. -/
def queuedJob (jobId keyReference digest : String) : JobRecord :=
  { jobId
    jobKind := planningRunSolverJobKind
    idempotencyKey := keyReference
    requestFingerprint := digest
    status := .queued
    attempt := 0
    createdAt := firstDelivery
    updatedAt := firstDelivery
    startedAt := none
    heartbeatAt := none
    leaseExpiresAt := none
    finishedAt := none
    workerId := none
    failureCode := none }

def claimedJob (row : JobRecord) (now stop : Datetime) : JobRecord :=
  { row with
    status := .running
    attempt := row.attempt + 1
    updatedAt := now
    startedAt := some now
    heartbeatAt := some now
    leaseExpiresAt := some stop
    workerId := some "worker:redelivered" }

theorem prepare_claim {row : JobRecord} {now stop : Datetime} (i : Nat)
    (hrow : row.status = .queued ∨ row.status = .stalled) (hnone : row.finishedAt = none)
    (hcode : row.failureCode = none) (hstop : now.addSeconds 120 = some stop) :
    (Operation.claim 120).prepare (redeliveredWorker i) now (some row) =
      .ok (row, claimedJob row now stop) := by
  have hrunning : row.status ≠ .running := by
    intro h
    rw [h] at hrow
    cases hrow with
    | inl h => cases h
    | inr h => cases h
  have hlive : ¬row.status.Terminal := by
    intro h
    cases hrow with
    | inl hq => rw [hq] at h; exact absurd h (by decide)
    | inr hq => rw [hq] at h; exact absurd h (by decide)
  have hclaim : claimJob row (redeliveredWorker i) now 120 = .ok (claimedJob row now stop) := by
    simp [claimJob, require, hrow, leaseEnd, hstop, claimedJob, redeliveredWorker, hnone, hcode,
      bind, Except.bind, pure, Except.pure]
  simp [Operation.prepare, require, hrunning, hlive, hclaim, orLeaseLost, bind, Except.bind, pure,
    Except.pure]

theorem prepare_stall {row : JobRecord} {now : Datetime} (i : Nat)
    (hrow : row.status = .running) (hstop : row.leaseExpiresAt = some now) :
    Operation.markExpiredStalled.prepare (redeliveredWorker i) now (some row) =
      .ok (row, { row with
        status := .stalled, updatedAt := now, workerId := none, leaseExpiresAt := none }) := by
  simp [Operation.prepare, markStalled, hrow, hstop]

/-- Both deliveries of a message claim the job, the second after the lease of the first has
expired; the first then passes the commit fence. -/
theorem redelivered_locks {s : LeaseSystem} {id key digest : String}
    (hrow : s.tables.jobs id = some (queuedJob id key digest)) (hidle : s.pending = [])
    (hclock : s.clock = firstDelivery) :
    ∃ s₁ s₂, Reach (LeaseStep redeliveredWorker) (fun _ _ => True) s s₁ ∧
      s₁.Superseded 0 id ∧ LeaseStep redeliveredWorker s₁ (.locked 0 id) s₂ := by
  let queued := queuedJob id key digest
  let first := claimedJob queued firstDelivery firstExpiry
  let stalled : JobRecord :=
    { first with
      status := .stalled, updatedAt := firstExpiry, workerId := none, leaseExpiresAt := none }
  let second := claimedJob stalled firstExpiry secondExpiry
  let claim0 : PendingCall := ⟨0, .claim 120, queued, first⟩
  let stall1 : PendingCall := ⟨1, .markExpiredStalled, first, stalled⟩
  let claim1 : PendingCall := ⟨1, .claim 120, stalled, second⟩
  let late : LeaseSystem := { s.after claim0 with clock := firstExpiry }
  have hfirst : Reach (LeaseStep redeliveredWorker) (fun _ _ => True) s (s.after claim0) := by
    refine reach_after claim0 hidle hrow ?_ nofun trivial trivial
    rw [hclock]
    exact prepare_claim 0 (.inl rfl) rfl rfl rfl
  have hlate : Reach (LeaseStep redeliveredWorker) (fun _ _ => True) s late := by
    refine .next hfirst trivial (.tick ?_)
    show s.clock ≤ firstExpiry
    rw [hclock]
    decide
  have hidle' : late.pending = [] := hidle
  have hstalled : Reach (LeaseStep redeliveredWorker) (fun _ _ => True) late
      (late.after stall1) := by
    refine reach_after stall1 hidle' (after_jobs s claim0 rfl) (prepare_stall 1 rfl rfl) ?_
      trivial trivial
    intro _ h
    cases congrArg JobRecord.status h
  have hidle'' : (late.after stall1).pending = [] := hidle
  have hsecond : Reach (LeaseStep redeliveredWorker) (fun _ _ => True) (late.after stall1)
      ((late.after stall1).after claim1) := by
    exact reach_after claim1 hidle'' (after_jobs late stall1 rfl)
      (prepare_claim 1 (.inr rfl) rfl rfl rfl) nofun trivial trivial
  let last := (late.after stall1).after claim1
  have hbefore : firstExpiry < secondExpiry := by decide
  have howned : last.tables.jobs id = some second := after_jobs _ claim1 rfl
  refine ⟨last, last, (hlate.trans hstalled).trans hsecond, ⟨?_, ?_⟩, ?_⟩
  · exact ⟨⟨0, id, 1⟩, by simp [last, late, LeaseSystem.after, PendingCall.claims, claim0, claim1,
      stall1, queued, queuedJob, first, claimedJob], rfl, rfl⟩
  · refine ⟨⟨1, id, 2⟩, ?_, Nat.one_ne_zero⟩
    simp [last, late, LeaseSystem.latestClaim, LeaseSystem.after, PendingCall.claims, claim0,
      claim1, stall1, queued, queuedJob, first, stalled, second, claimedJob]
  · have hactive : LeaseActive last.tables id (redeliveredWorker 0) last.clock :=
      ⟨second, howned, rfl, rfl, secondExpiry, rfl, hbefore⟩
    have hlock : lockActiveLease last.tables id (redeliveredWorker 0) last.clock =
        .ok (last.tables, second) := by
      simp [lockActiveLease, howned, hactive]
    exact .locked (le_refl _) hlock

def redeliveredWork : WorkBinding :=
  { planningRunId := "planning-run-1"
    attemptId := "planning-run-attempt-1"
    workItemId := "planning-run-work-item-1"
    workItemFingerprint := "sha256:work"
    runtimeResolutionFingerprint := "sha256:runtime" }

theorem isSha256Digest_hexdigest (text : String) :
    isSha256Digest (Sha256.hexdigest text) = true := by
  unfold isSha256Digest
  rw [Sha256.length_hexdigest, Bool.and_eq_true]
  refine ⟨by decide, List.all_eq_true.mpr ?_⟩
  intro c hc
  obtain ⟨n, hn, rfl⟩ := Sha256.mem_hexdigest text c hc
  interval_cases n <;> decide

theorem hexdigest_ne_empty (text : String) : Sha256.hexdigest text ≠ "" := by
  intro h
  have hlength := Sha256.length_hexdigest text
  rw [h] at hlength
  cases hlength

/-- A new job of the identity that a work item gives. -/
theorem newJob_eq_queuedJob (key digest : String) (text : String) (hkey : key ≠ "")
    (hdigest : digest = Sha256.hexdigest text) :
    newJob digest planningRunSolverJobKind key digest firstDelivery =
      .ok (queuedJob digest key digest) := by
  subst hdigest
  have hkind : planningRunSolverJobKind ≠ "" := by decide
  have hidentity : checkIdentity (queuedJob (Sha256.hexdigest text) key (Sha256.hexdigest text)) =
      .ok () := by
    simp only [checkIdentity, bind_unit_eq_ok, require_eq_ok]
    exact ⟨hexdigest_ne_empty text, hkind, hkey, hexdigest_ne_empty text,
      isSha256Digest_hexdigest text⟩
  exact bind_unit_eq_ok.mpr ⟨hidentity, rfl⟩

/-- The first step of a run: a delivery creates the job of its work item. -/
theorem reach_queued (allowed : LeaseSystem → LeaseEvent → Prop)
    (hallowed : allowed (.initial firstDelivery) .ensured) :
    ∃ s id key digest, Reach (LeaseStep redeliveredWorker) allowed (.initial firstDelivery) s ∧
      s.tables.jobs id = some (queuedJob id key digest) ∧ s.pending = [] ∧ s.claims = [] ∧
      s.clock = firstDelivery := by
  obtain ⟨digest, key, digest', hidentity⟩ :
      ∃ digest key digest', workerJobIdentity redeliveredWork "SIMULATION" =
        (digest, key, digest') := ⟨_, _, _, rfl⟩
  obtain ⟨text, htext⟩ : ∃ text, digest = Sha256.hexdigest text :=
    ⟨_, (congrArg Prod.fst hidentity).symm⟩
  obtain ⟨keyText, hkeyText⟩ : ∃ text, key = "sha256:" ++ Sha256.hexdigest text :=
    ⟨_, (congrArg (fun identity => identity.2.1) hidentity).symm⟩
  have hsame : digest' = digest := by
    have h1 := congrArg Prod.fst hidentity
    have h2 := congrArg (fun identity => identity.2.2) hidentity
    exact h2.symm.trans h1
  have hkey : key ≠ "" := by
    intro h
    have hlength := congrArg String.length (hkeyText.symm.trans h)
    rw [String.length_append] at hlength
    exact absurd hlength (by rw [Sha256.length_hexdigest]; decide)
  subst hsame
  have hensure : ensureJob ⟨fun _ => none, []⟩ redeliveredWork "SIMULATION" firstDelivery =
      .ok (⟨fun id => if id = digest' then some (queuedJob digest' key digest') else none,
        [⟨digest', "SIMULATION", redeliveredWork⟩]⟩, queuedJob digest' key digest') := by
    simp only [ensureJob, hidentity, newJob_eq_queuedJob key digest' text hkey htext]
    rfl
  exact ⟨_, digest', key, digest', .next .refl hallowed (.ensured (le_refl _) hensure),
    if_pos rfl, rfl, rfl, rfl⟩

end PlantNexus.Jobs
