import PlantNexus.Data.Reach
import PlantNexus.Exports.Service

/-! Concurrent export job calls.

Any number of clients and workers call the service. A call reads in one step and commits its
transaction in a later one; a call that is refused, rejected or lost in a crash takes one step.
Schedules and the audit events of other aggregates change at any time. The instants of calls are
not restricted, so a clock that does not go back is a special case. Beside the tables stand the
claims and the calls that stored something, newest first. -/
namespace PlantNexus.Exports
open Data Domain Time

/-- A call between its read and its transaction. -/
structure PendingWrite where
  command : ExportCommand
  context : ExportJobContext
  write : ExportWrite
deriving DecidableEq

/-- A claim that has been committed. -/
structure Claim where
  exportJobId : String
  attempt : Nat
  leaseReference : Option String
deriving DecidableEq, Repr

/-- The claim that a committed call makes. -/
def PendingWrite.claims (p : PendingWrite) : List Claim :=
  match p.write with
  | .transition w _ _ =>
    if w.candidate.state = .exporting then
      [⟨w.exportJobId, w.candidate.attempt, w.candidate.leaseReference⟩]
    else []
  | _ => []

/-- The call, if it stores a job or a transition. -/
def PendingWrite.stores (p : PendingWrite) (result : ExportJobServiceResult) :
    List ExportCommand :=
  match p.write with
  | .heartbeat _ => []
  | _ => if result.exactReplay then [] else [p.command]

structure ExportSystem where
  tables : ExportTables
  pending : List PendingWrite
  claims : List Claim
  stored : List ExportCommand

def ExportSystem.initial : ExportSystem := ⟨⟨[], [], fun _ => none⟩, [], [], []⟩

def ExportSystem.job (s : ExportSystem) (exportJobId : String) : Option ExportJobRow :=
  findJob s.tables.jobs exportJobId

def ExportSystem.latestClaim (s : ExportSystem) (exportJobId : String) : Option Claim :=
  s.claims.find? fun claim => claim.exportJobId = exportJobId

def ExportSystem.hold (s : ExportSystem) (p : PendingWrite) : ExportSystem :=
  { s with pending := p :: s.pending }

def ExportSystem.drop (s : ExportSystem) (p : PendingWrite) : ExportSystem :=
  { s with pending := s.pending.erase p }

def ExportSystem.commit (s : ExportSystem) (p : PendingWrite) (tables : ExportTables)
    (result : ExportJobServiceResult) : ExportSystem :=
  { tables
    pending := s.pending.erase p
    claims := p.claims ++ s.claims
    stored := p.stores result ++ s.stored }

inductive ExportEvent where
  | scheduled
  | recorded
  | read (p : PendingWrite)
  | answered (command : ExportCommand) (context : ExportJobContext)
      (answer : Except ExportError ExportJobServiceResult)
  | committed (p : PendingWrite) (result : ExportJobServiceResult)
  | rejected (p : PendingWrite) (error : ExportError)
  | crashed (p : PendingWrite)

section
variable (otherDocument : String → Json → Except P4ContractError Unit)

/-- One atomic step. -/
inductive ExportStep : ExportSystem → ExportEvent → ExportSystem → Prop
  | scheduled {s : ExportSystem} {schedules : String → Option Json} :
      ExportStep s .scheduled { s with tables := { s.tables with schedules } }
  | recorded {s : ExportSystem} {audit : OtherAudit}
      (h : findAudit s.tables.audits audit.auditEventId = none) :
      ExportStep s .recorded
        { s with tables := { s.tables with audits := s.tables.audits ++ [.ofOther audit] } }
  | read {s : ExportSystem} {command : ExportCommand} {ctx : ExportJobContext}
      {write : ExportWrite}
      (h : s.tables.prepare otherDocument ctx command = .ok (.write write)) :
      ExportStep s (.read ⟨command, ctx, write⟩) (s.hold ⟨command, ctx, write⟩)
  | replayed {s : ExportSystem} {command : ExportCommand} {ctx : ExportJobContext}
      {result : ExportJobServiceResult}
      (h : s.tables.prepare otherDocument ctx command = .ok (.replay result)) :
      ExportStep s (.answered command ctx (.ok result)) s
  | refused {s : ExportSystem} {command : ExportCommand} {ctx : ExportJobContext}
      {error : ExportError} (h : s.tables.prepare otherDocument ctx command = .error error) :
      ExportStep s (.answered command ctx (.error error))
        { s with tables := { s.tables with audits := s.tables.auditsRefused ctx command } }
  | committed {s : ExportSystem} {p : PendingWrite} {tables : ExportTables}
      {result : ExportJobServiceResult} (hp : p ∈ s.pending)
      (h : s.tables.commit p.write = .ok (tables, result)) :
      ExportStep s (.committed p result) (s.commit p tables result)
  | rejected {s : ExportSystem} {p : PendingWrite} {error : PersistenceError}
      (hp : p ∈ s.pending) (h : s.tables.commit p.write = .error error) :
      ExportStep s (.rejected p (persistenceError error)) (s.drop p)
  | crashed {s : ExportSystem} {p : PendingWrite} (hp : p ∈ s.pending) :
      ExportStep s (.crashed p) (s.drop p)

end

/-! ### Audits of a job -/

/-- The event stands for a stored transition: a denial has no state after it, and the receipt of
a client command has a state before it and a key. -/
def AuditEvent.RecordsTransition (event : AuditEvent) : Prop :=
  event.afterState ≠ none ∧ (event.beforeState = none ∨ event.idempotencyReference = none)

instance (event : AuditEvent) : Decidable event.RecordsTransition :=
  inferInstanceAs (Decidable (_ ∧ _))

/-- The event of a row, if it records a transition of the job. -/
def AuditRow.transitionOf (exportJobId : String) : AuditRow → Option AuditEvent
  | .ofEvent event =>
    if event.aggregateId = exportJobId ∧ event.RecordsTransition then some event else none
  | .ofOther _ => none

/-- The transitions of a job, in the order they were stored. -/
def transitionAudits (audits : List AuditRow) (exportJobId : String) : List AuditEvent :=
  audits.filterMap (AuditRow.transitionOf exportJobId)

/-- The second event is linked to the first. -/
def AuditEvent.Follows (previous next : AuditEvent) : Prop :=
  next.parentAuditEventId = some previous.auditEventId ∧
    next.beforeState = previous.afterState

/-- The audits of a job are one chain from its creation to its latest transition. -/
structure JobAudited (audits : List AuditRow) (row : ExportJobRow) : Prop where
  first : ∃ event ∈ (transitionAudits audits row.document.exportJobId).head?,
    event.beforeState = none ∧
      event.auditEventId = auditEventId row.document.exportJobId .create 0
  linked : (transitionAudits audits row.document.exportJobId).IsChain AuditEvent.Follows
  last : ∃ event ∈ (transitionAudits audits row.document.exportJobId).getLast?,
    event.auditEventId = row.document.latestAuditEventId ∧
      event.afterState = some row.document.state

/-! ### What a step may do -/

/-- What a client can submit again: the request of a creation or a command document. -/
inductive ClientSubmission where
  | request (request : ExportJobRequest)
  | command (document : Json)
deriving DecidableEq

def ExportCommand.submission : ExportCommand → Option ClientSubmission
  | .create request _ => some (.request request)
  | .claim _ _ _ command => command.map .command
  | .cancel _ _ _ command => command.map .command
  | .heartbeat .. | .complete .. | .fail .. => none

/-- A committed heartbeat, completion or failure of a job under a lease. -/
inductive UsesLease : ExportEvent → String → String → Prop
  | heartbeat {p : PendingWrite} {result : ExportJobServiceResult} {id lease : String}
      {expiry : Datetime} (h : p.command = .heartbeat id lease expiry) :
      UsesLease (.committed p result) id lease
  | complete {p : PendingWrite} {result : ExportJobServiceResult} {id lease : String}
      {manifest : Json} (h : p.command = .complete id lease manifest) :
      UsesLease (.committed p result) id lease
  | fail {p : PendingWrite} {result : ExportJobServiceResult} {id lease message : String}
      {recovery : Bool} (h : p.command = .fail id lease message recovery) :
      UsesLease (.committed p result) id lease

/-- The call is refused, or its transaction fails. -/
inductive IsRejection : ExportEvent → Prop
  | refused (command : ExportCommand) (ctx : ExportJobContext) (error : ExportError) :
      IsRejection (.answered command ctx (.error error))
  | rejected (p : PendingWrite) (error : ExportError) : IsRejection (.rejected p error)

/-- What the lifecycle promises of one step. -/
structure Lifecycle (s : ExportSystem) (event : ExportEvent) (s' : ExportSystem) : Prop where
  claimed : ∀ p result id owner expiry command, event = .committed p result →
    p.command = .claim id owner expiry command →
    ∃ row row', s.job id = some row ∧ s'.job id = some row' ∧
      row'.document.attempt = row.document.attempt + 1 ∧
      (∀ claim ∈ s.claims, claim.exportJobId = id → claim.attempt < row'.document.attempt) ∧
      s'.latestClaim id = some ⟨id, row'.document.attempt, row'.document.leaseReference⟩
  leased : ∀ id lease, UsesLease event id lease →
    ∃ claim, s.latestClaim id = some claim ∧ claim.leaseReference = some lease
  terminal : ∀ id row, s.job id = some row → row.document.state.Terminal → s'.job id = some row
  exported : ∀ id row', s'.job id = some row' → row'.document.state = .exported →
    s.job id = some row' ∨
      ∃ p result lease manifest, event = .committed p result ∧
        p.command = .complete id lease manifest
  audited : ∀ id,
    (transitionAudits s'.tables.audits id = transitionAudits s.tables.audits id ∧
      (s'.job id).map (fun row => row.document.state) =
        (s.job id).map fun row => row.document.state) ∨
    ∃ audit row', transitionAudits s'.tables.audits id =
        transitionAudits s.tables.audits id ++ [audit] ∧ s'.job id = some row' ∧
      audit.beforeState = (s.job id).map (fun row => row.document.state) ∧
      audit.afterState = some row'.document.state
  rejected : IsRejection event →
    s'.tables = s.tables ∨
      ∃ request publication ctx error,
        event = .answered (.create request publication) ctx (.error error) ∧
        s'.tables = { s.tables with
          audits := s.tables.audits ++ [.ofEvent (denialAudit request ctx request.identity)] }
  resubmitted : ∀ command, s'.stored = command :: s.stored →
    ∀ submission ∈ command.submission, ∀ earlier ∈ s.stored, earlier.submission ≠ some submission
  unstored : s'.stored = s.stored →
    ∀ id, (s'.job id).map (fun row => row.document.state) =
      (s.job id).map fun row => row.document.state

/-- What every reachable table keeps. -/
structure TablesAudited (tables : ExportTables) : Prop where
  ids : (tables.audits.map AuditRow.auditEventId).Nodup
  audited : ∀ id row, findJob tables.jobs id = some row → JobAudited tables.audits row
  unaudited : ∀ id, findJob tables.jobs id = none → transitionAudits tables.audits id = []

end PlantNexus.Exports
