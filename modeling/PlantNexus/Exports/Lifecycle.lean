import Mathlib.Data.List.Chain
import PlantNexus.Exports.System

/-! The lifecycle of export jobs under concurrent calls.

`prepare_write` says what a read hands to its transaction, `commit_ok` what a transaction does to
the tables. The invariant ties the two: a call in flight was built from a row of the past, and if
the revision is still the same, from the present row. The audits of a job are then extended at
their end only, since an event that is there already has another parent. -/
namespace PlantNexus.Exports
open Data Domain Time

section
variable {tables : ExportTables} {ctx : ExportJobContext}

/-! ### What a read prepares -/

theorem getJob_ok {exportJobId : String} {row : ExportJobRow}
    (h : getJob tables exportJobId = .ok row) : findJob tables.jobs exportJobId = some row := by
  simp only [getJob, bind_eq_ok, exists_unit_iff] at h
  obtain ⟨-, h⟩ := h
  split at h
  · cases h
  · rename_i found hfound
    injection h with h
    rw [hfound, h]

/-- The identity of the receipt that a client command leaves. -/
def clientReceiptId (command : Json) : String :=
  receiptId (pyStr (command.get "idempotency_scope"))
    (Sha256.hexdigest (pyStr (command.get "idempotency_key")))

theorem checkCommand_some {audits : List AuditRow} {job : ExportJob}
    {exportJobId action : String} {command : Json} {receipt : Receipt}
    (h : checkCommand audits job exportJobId action command = .ok (some receipt)) :
    receipt.receiptId = clientReceiptId command ∧ findAudit audits receipt.receiptId = none := by
  simp only [checkCommand, bind_eq_ok, exists_unit_iff, require_eq_ok] at h
  obtain ⟨-, -, -, fingerprint, -, -, -, -, -, h⟩ := h
  split at h
  · simp only [bind_eq_ok, exists_unit_iff, require_eq_ok, pure, Except.pure, Except.ok.injEq,
      reduceCtorEq, and_false] at h
  · rename_i hnone
    simp only [bind_eq_ok, exists_unit_iff, pure, Except.pure, Except.ok.injEq,
      Option.some.injEq] at h
    obtain ⟨-, rfl⟩ := h
    exact ⟨rfl, hnone⟩

/-- The transaction of a transition, in terms of the row that was read. -/
structure TransitionBuilt (row : ExportJobRow) (call : TransitionCall) (w : TransitionWrite)
    (audit : AuditEvent) (receipt : Option AuditEvent) : Prop where
  exportJobId : w.exportJobId = call.exportJobId
  state : w.expectedState = row.document.state
  revision : w.expectedStateRevision = row.stateRevision
  expectedLease : w.expectedLeaseReference = call.expectedLeaseReference
  target : w.candidate.state = call.targetState
  candidateId : w.candidate.exportJobId = row.document.exportJobId
  attempt : w.candidate.attempt = call.attempt.getD row.document.attempt
  latest : w.candidate.latestAuditEventId = audit.auditEventId
  auditJob : audit.aggregateId = row.document.exportJobId
  parent : audit.parentAuditEventId = some row.document.latestAuditEventId
  before : audit.beforeState = some row.document.state
  after : audit.afterState = some w.candidate.state
  plain : audit.idempotencyReference = none
  receipt : ∀ event ∈ receipt, event.aggregateId = audit.aggregateId ∧
    event.beforeState = audit.beforeState ∧ event.afterState = audit.afterState ∧
    event.idempotencyReference ≠ none

theorem transitionExportJob_ok {current candidate : ExportJob} {t : TransitionFields}
    (h : transitionExportJob current t = .ok candidate) :
    ∃ error, candidate = current.transitioned t error := by
  simp only [transitionExportJob, bind_eq_ok, exists_unit_iff, pure, Except.pure,
    Except.ok.injEq] at h
  obtain ⟨error, -, -, rfl⟩ := h
  exact ⟨error, rfl⟩

theorem buildExportAudit_ok {job : ExportJob} {auditEventId action parent correlationId : String}
    {before : Option ExportJobState} {after : ExportJobState} {outcome : AuditOutcome}
    {idempotentCreate : Bool} {audit : AuditEvent}
    (h : buildExportAudit job ctx auditEventId action before after outcome idempotentCreate parent
      correlationId = .ok audit) :
    audit = exportAudit job ctx auditEventId action before after outcome idempotentCreate parent
      correlationId := by
  simp only [buildExportAudit, bind_eq_ok, exists_unit_iff, pure, Except.pure,
    Except.ok.injEq] at h
  exact h.2.symm

theorem transitionWrite_ok {call : TransitionCall} {row : ExportJobRow}
    {receipt : Option Receipt} {write : ExportWrite}
    (h : transitionWrite ctx call row receipt = .ok write) :
    ∃ w audit, write = .transition w audit (receipt.map (receiptEvent audit)) ∧
      TransitionBuilt row call w audit (receipt.map (receiptEvent audit)) := by
  simp only [transitionWrite, bind_eq_ok, exists_unit_iff, pure, Except.pure,
    Except.ok.injEq] at h
  obtain ⟨candidate, hcandidate, audit, haudit, observed, -, -, rfl⟩ := h
  obtain ⟨error, rfl⟩ := transitionExportJob_ok hcandidate
  obtain rfl := buildExportAudit_ok haudit
  refine ⟨_, _, rfl, rfl, rfl, rfl, rfl, rfl, rfl, rfl, rfl, rfl, rfl, rfl, rfl, rfl, ?_⟩
  intro event hevent
  obtain ⟨r, -, rfl⟩ := Option.map_eq_some_iff.mp hevent
  exact ⟨rfl, rfl, rfl, Option.some_ne_none _⟩

theorem prepareTransition_write {call : TransitionCall} {write : ExportWrite}
    (h : prepareTransition tables ctx call = .ok (.write write)) :
    ∃ row w audit receipt, findJob tables.jobs call.exportJobId = some row ∧
      write = .transition w audit receipt ∧ TransitionBuilt row call w audit receipt ∧
      (receipt = none ↔ call.command = none) ∧
      ∀ event ∈ receipt, findAudit tables.audits event.auditEventId = none ∧
        ∃ command ∈ call.command, event.auditEventId = clientReceiptId command := by
  simp only [prepareTransition, bind_eq_ok, exists_unit_iff] at h
  obtain ⟨-, row, hrow, h⟩ := h
  have hrow := getJob_ok hrow
  split at h
  · rename_i hcommand
    simp only [bind_eq_ok, pure, Except.pure, Except.ok.injEq, Prepared.write.injEq] at h
    obtain ⟨write', hwrite, rfl⟩ := h
    obtain ⟨w, audit, rfl, hbuilt⟩ := transitionWrite_ok hwrite
    exact ⟨row, w, audit, none, hrow, rfl, hbuilt, by simp [hcommand], by simp⟩
  · rename_i command hcommand
    simp only [bind_eq_ok] at h
    obtain ⟨receipt, hreceipt, h⟩ := h
    split at h
    · cases h
    · rename_i receipt
      simp only [bind_eq_ok, pure, Except.pure, Except.ok.injEq, Prepared.write.injEq] at h
      obtain ⟨write', hwrite, rfl⟩ := h
      obtain ⟨w, audit, rfl, hbuilt⟩ := transitionWrite_ok hwrite
      obtain ⟨hid, hfresh⟩ := checkCommand_some hreceipt
      refine ⟨row, w, audit, _, hrow, rfl, hbuilt, by simp [hcommand], ?_⟩
      intro event hevent
      obtain ⟨r, hr, rfl⟩ := Option.map_eq_some_iff.mp hevent
      obtain rfl := Option.some.inj hr
      exact ⟨hfresh, command, hcommand, hid⟩

/-- The transition that a command asks for, on the row that it read. -/
def ExportCommand.Calls (row : ExportJobRow) : ExportCommand → TransitionCall → Prop
  | .claim id _ expiry command, call =>
    ∃ lease, call = claimCall id (row.document.attempt + 1) lease expiry command
  | .complete id lease manifest, call => call = completeCall id lease manifest
  | .fail id lease message recovery, call => call = failCall id lease message recovery
  | .cancel id lease recovery command, call => call = cancelCall id lease recovery command
  | .create .., _ | .heartbeat .., _ => False

/-- A write, the command it was built for and the row it was built from. -/
inductive Built : ExportCommand → ExportWrite → Option ExportJobRow → Prop
  | create {request : ExportJobRequest} {publication : Json} {job : ExportJob}
      {audit : AuditEvent} (hid : job.exportJobId = request.identity.exportJobId)
      (hlatest : job.latestAuditEventId = auditEventId job.exportJobId .create 0)
      (haudit : audit.auditEventId = job.latestAuditEventId)
      (haggregate : audit.aggregateId = job.exportJobId) (hbefore : audit.beforeState = none)
      (hafter : audit.afterState = some .created) :
      Built (.create request publication) (.create request.identity job audit) none
  | transition {command : ExportCommand} {row : ExportJobRow} {call : TransitionCall}
      {w : TransitionWrite} {audit : AuditEvent} {receipt : Option AuditEvent}
      (hcalls : command.Calls row call) (hid : row.document.exportJobId = call.exportJobId)
      (hbuilt : TransitionBuilt row call w audit receipt)
      (hnone : receipt = none ↔ call.command = none)
      (hreceipt : ∀ event ∈ receipt, ∃ document ∈ call.command,
        event.auditEventId = clientReceiptId document) :
      Built command (.transition w audit receipt) (some row)
  | heartbeat {id lease occurredAtUtc : String} {expiry observed : Datetime}
      {row : ExportJobRow} (hid : row.document.exportJobId = id) :
      Built (.heartbeat id lease expiry)
        (.heartbeat ⟨id, row.stateRevision, lease, row.document.beaten occurredAtUtc, observed,
          expiry⟩) (some row)

def ExportWrite.receipt : ExportWrite → Option AuditEvent
  | .transition _ _ receipt => receipt
  | _ => none

theorem prepareTransition_built {command : ExportCommand} {call : TransitionCall}
    {write : ExportWrite} {read : ExportJobRow}
    (hread : findJob tables.jobs call.exportJobId = some read) (hcalls : command.Calls read call)
    (h : prepareTransition tables ctx call = .ok (.write write)) :
    ∃ row, Built command write (some row) ∧
      findJob tables.jobs row.document.exportJobId = some row ∧
      ∀ event ∈ write.receipt, findAudit tables.audits event.auditEventId = none := by
  obtain ⟨row, w, audit, receipt, hrow, rfl, hbuilt, hnone, hreceipt⟩ := prepareTransition_write h
  obtain rfl := Option.some.inj (hread.symm.trans hrow)
  have hid := findJob_id hrow
  refine ⟨read, .transition hcalls hid hbuilt hnone fun event hevent => (hreceipt event hevent).2,
    ?_, fun event hevent => (hreceipt event hevent).1⟩
  rwa [hid]

theorem prepareTransition_found {call : TransitionCall} {write : ExportWrite}
    (h : prepareTransition tables ctx call = .ok (.write write)) :
    ∃ row, findJob tables.jobs call.exportJobId = some row := by
  obtain ⟨row, w, audit, receipt, hrow, -⟩ := prepareTransition_write h
  exact ⟨row, hrow⟩

theorem exportJobIdentity_ok {request : ExportJobRequest} {identity : ExportJobIdentity}
    (h : exportJobIdentity request = .ok identity) : identity = request.identity := by
  simp only [exportJobIdentity, bind_eq_ok, exists_unit_iff] at h
  obtain ⟨-, -, -, -, -, -, -, -, -, h⟩ := h
  split at h
  · simp only [bind_eq_ok, pure, Except.pure, Except.ok.injEq] at h
    obtain ⟨-, -, h⟩ := h
    exact h.symm
  · exact (Except.ok.inj h).symm

theorem requireExportAuthorization_ok {request : ExportJobRequest}
    {identity : ExportJobIdentity} (h : requireExportAuthorization request ctx = .ok identity) :
    identity = request.identity := by
  simp only [requireExportAuthorization, bind_eq_ok, exists_unit_iff, pure, Except.pure,
    Except.ok.injEq] at h
  obtain ⟨found, hfound, -, -, -, -, -, -, -, rfl⟩ := h
  exact exportJobIdentity_ok hfound

theorem buildCreatedExportJob_ok
    {otherDocument : String → Json → Except P4ContractError Unit} {request : ExportJobRequest}
    {identity : ExportJobIdentity} {occurredAtUtc : String} {schedule publication : Json}
    {job : ExportJob}
    (h : buildCreatedExportJob otherDocument request identity occurredAtUtc schedule publication =
      .ok job) :
    ∃ isP4 changeReport,
      job = .created request identity occurredAtUtc isP4 changeReport schedule := by
  simp only [buildCreatedExportJob, bind_eq_ok, exists_unit_iff, pure, Except.pure,
    Except.ok.injEq] at h
  obtain ⟨isP4, -, -, -, -, -, -, changeReport, -, -, rfl⟩ := h
  exact ⟨isP4, changeReport, rfl⟩

theorem prepareCreate_write {otherDocument : String → Json → Except P4ContractError Unit}
    {request : ExportJobRequest} {publication : Json} {write : ExportWrite}
    (h : prepareCreate otherDocument tables request ctx publication = .ok (.write write)) :
    Built (.create request publication) write none := by
  unfold prepareCreate at h
  split at h
  · split at h
    · simp only [bind_eq_ok, exists_unit_iff, reduceCtorEq, and_false] at h
    · cases h
  · rename_i identity hidentity
    obtain rfl := requireExportAuthorization_ok hidentity
    split at h
    · simp only [bind_eq_ok, exists_unit_iff, pure, Except.pure, Except.ok.injEq, reduceCtorEq,
        and_false] at h
    · split at h
      · cases h
      · simp only [bind_eq_ok, pure, Except.pure, Except.ok.injEq, Prepared.write.injEq] at h
        obtain ⟨job, hjob, audit, haudit, rfl⟩ := h
        obtain ⟨isP4, changeReport, rfl⟩ := buildCreatedExportJob_ok hjob
        obtain rfl := buildExportAudit_ok haudit
        exact .create rfl rfl rfl rfl rfl rfl

/-- What a read hands to its transaction. -/
theorem prepare_write {otherDocument : String → Json → Except P4ContractError Unit}
    {command : ExportCommand} {write : ExportWrite}
    (h : tables.prepare otherDocument ctx command = .ok (.write write)) :
    ∃ read, Built command write read ∧
      (∀ row ∈ read, findJob tables.jobs row.document.exportJobId = some row) ∧
      ∀ event ∈ write.receipt, findAudit tables.audits event.auditEventId = none := by
  have htransition : ∀ {call : TransitionCall},
      prepareTransition tables ctx call = .ok (.write write) →
      (∀ row, findJob tables.jobs call.exportJobId = some row → command.Calls row call) →
      ∃ read, Built command write read ∧
        (∀ row ∈ read, findJob tables.jobs row.document.exportJobId = some row) ∧
        ∀ event ∈ write.receipt, findAudit tables.audits event.auditEventId = none := by
    intro call hcall hcalls
    obtain ⟨read, hread⟩ := prepareTransition_found hcall
    obtain ⟨row, hbuilt, hrow, hreceipt⟩ :=
      prepareTransition_built hread (hcalls read hread) hcall
    refine ⟨some row, hbuilt, ?_, hreceipt⟩
    intro found hfound
    obtain rfl := Option.some.inj hfound
    exact hrow
  cases command with
  | create request publication =>
    have hbuilt := prepareCreate_write h
    cases hbuilt with
    | create hid hlatest haudit haggregate hbefore hafter =>
      exact ⟨none, .create hid hlatest haudit haggregate hbefore hafter, by simp,
        by simp [ExportWrite.receipt]⟩
  | claim id owner expiry document =>
    simp only [ExportTables.prepare, prepareClaim, bind_eq_ok, exists_unit_iff] at h
    obtain ⟨-, row, hrow, -, lease, -, h⟩ := h
    have hrow := getJob_ok hrow
    refine htransition h ?_
    intro found hfound
    obtain rfl := Option.some.inj (hrow.symm.trans hfound)
    exact ⟨lease, rfl⟩
  | heartbeat id lease expiry =>
    simp only [ExportTables.prepare, prepareHeartbeat, heartbeatExportJob, bind_eq_ok,
      exists_unit_iff, pure, Except.pure, Except.ok.injEq, Prepared.write.injEq] at h
    obtain ⟨-, row, hrow, candidate, ⟨-, rfl⟩, observed, -, rfl⟩ := h
    have hrow := getJob_ok hrow
    have hid := findJob_id hrow
    refine ⟨some row, .heartbeat hid, ?_, by simp [ExportWrite.receipt]⟩
    intro found hfound
    obtain rfl := Option.some.inj hfound
    rwa [hid]
  | complete id lease manifest => exact htransition h fun _ _ => rfl
  | fail id lease message recovery => exact htransition h fun _ _ => rfl
  | cancel id lease recovery document => exact htransition h fun _ _ => rfl

end

/-! ### The audits of a job -/

section
variable {audits : List AuditRow} {id : String}

theorem transitionAudits_append (audits added : List AuditRow) (id : String) :
    transitionAudits (audits ++ added) id =
      transitionAudits audits id ++ transitionAudits added id :=
  List.filterMap_append ..

/-- A row that records no transition of the job leaves its audits alone. -/
theorem transitionAudits_other {row : AuditRow} (h : row.transitionOf id = none) :
    transitionAudits (audits ++ [row]) id = transitionAudits audits id := by
  rw [transitionAudits_append]
  simp [transitionAudits, h]

theorem transitionAudits_event {event : AuditEvent} (hjob : event.aggregateId = id)
    (hrecords : event.RecordsTransition) :
    transitionAudits (audits ++ [.ofEvent event]) id = transitionAudits audits id ++ [event] := by
  rw [transitionAudits_append]
  simp [transitionAudits, AuditRow.transitionOf, hjob, hrecords]

theorem mem_transitionAudits {event : AuditEvent} (hmem : .ofEvent event ∈ audits)
    (hrecords : event.RecordsTransition) : event ∈ transitionAudits audits event.aggregateId := by
  apply List.mem_filterMap.mpr
  exact ⟨.ofEvent event, hmem, by simp [AuditRow.transitionOf, hrecords]⟩

theorem transitionAudits_ids (audits : List AuditRow) (id : String) :
    ((transitionAudits audits id).map AuditEvent.auditEventId).Sublist
      (audits.map AuditRow.auditEventId) := by
  induction audits with
  | nil => exact List.Sublist.refl _
  | cons row rest ih =>
    cases row with
    | ofOther audit =>
      have hskip : transitionAudits (.ofOther audit :: rest) id = transitionAudits rest id := rfl
      rw [hskip]
      exact ih.cons _
    | ofEvent event =>
      by_cases hrecords : event.aggregateId = id ∧ event.RecordsTransition
      · have htake : transitionAudits (.ofEvent event :: rest) id =
            event :: transitionAudits rest id := by
          simp [transitionAudits, AuditRow.transitionOf, hrecords]
        rw [htake]
        exact ih.cons_cons _
      · have hskip : transitionAudits (.ofEvent event :: rest) id = transitionAudits rest id := by
          simp [transitionAudits, AuditRow.transitionOf, hrecords]
        rw [hskip]
        exact ih.cons _

/-- In a chain of distinct events no event after the first is linked to the last one. -/
theorem chain_parent_ne_last {chain : List AuditEvent} (hchain : chain.IsChain AuditEvent.Follows)
    (hids : (chain.map AuditEvent.auditEventId).Nodup) {last event : AuditEvent}
    (hlast : chain.getLast? = some last) (hevent : event ∈ chain.tail) :
    event.parentAuditEventId ≠ some last.auditEventId := by
  induction chain with
  | nil => cases hevent
  | cons first rest ih =>
    cases rest with
    | nil => cases hevent
    | cons second rest =>
      rw [List.isChain_cons_cons] at hchain
      rw [List.map_cons, List.nodup_cons] at hids
      rw [List.getLast?_cons_cons] at hlast
      rcases List.mem_cons.mp hevent with rfl | hevent
      · rw [hchain.1.1]
        intro hsame
        apply hids.1
        rw [Option.some.inj hsame]
        exact List.mem_map_of_mem (List.mem_of_getLast? hlast)
      · exact ih hchain.2 hids.2 hlast hevent

/-- An event that is linked to the latest transition is not there yet. -/
theorem JobAudited.fresh {row : ExportJobRow} {event : AuditEvent}
    (h : JobAudited audits row) (hids : (audits.map AuditRow.auditEventId).Nodup)
    (hjob : event.aggregateId = row.document.exportJobId)
    (hparent : event.parentAuditEventId = some row.document.latestAuditEventId)
    (hbefore : event.beforeState ≠ none) (hrecords : event.RecordsTransition) :
    .ofEvent event ∉ audits := by
  intro hmem
  have hmem := mem_transitionAudits hmem hrecords
  rw [hjob] at hmem
  obtain ⟨first, hfirst, hnone, -⟩ := h.first
  obtain ⟨last, hlast, hlatest, -⟩ := h.last
  have hnodup := List.Nodup.sublist (transitionAudits_ids audits row.document.exportJobId) hids
  have htail : event ∈ (transitionAudits audits row.document.exportJobId).tail := by
    cases hchain : transitionAudits audits row.document.exportJobId with
    | nil =>
      rw [hchain] at hmem
      cases hmem
    | cons head tail =>
      rw [hchain] at hmem hfirst
      obtain rfl := Option.some.inj hfirst
      rcases List.mem_cons.mp hmem with rfl | hmem
      · exact absurd hnone hbefore
      · exact hmem
  apply chain_parent_ne_last h.linked hnodup hlast htail
  rw [hparent, hlatest]

end

/-! ### What a transaction does -/

section
variable {tables tables' : ExportTables}

/-- The row that a write was built from is one of the past, and if the revision has not moved,
the present one; then no receipt of the write is there yet. -/
def Past (tables : ExportTables) (row : ExportJobRow) (write : ExportWrite) : Prop :=
  ∃ now, findJob tables.jobs row.document.exportJobId = some now ∧
    row.stateRevision ≤ now.stateRevision ∧
    (now.stateRevision = row.stateRevision →
      now = row ∧ ∀ event ∈ write.receipt, .ofEvent event ∉ tables.audits)

/-- The effect of a committed transaction. -/
inductive Effect (tables : ExportTables) (p : PendingWrite) (tables' : ExportTables)
    (result : ExportJobServiceResult) : Prop
  | repeated {request : ExportJobRequest} {publication : Json} {job : ExportJob}
      {audit : AuditEvent} (hwrite : p.write = .create request.identity job audit)
      (hcommand : p.command = .create request publication) (htables : tables' = tables)
      (hreplay : result.exactReplay = true)
  | created {request : ExportJobRequest} {publication : Json} {job : ExportJob}
      {audit : AuditEvent} (hwrite : p.write = .create request.identity job audit)
      (hbuilt : Built (.create request publication) (.create request.identity job audit) none)
      (hcommand : p.command = .create request publication)
      (hnone : findJob tables.jobs job.exportJobId = none) (hstate : job.state = .created)
      (hattempt : job.attempt = 0)
      (hjobs : tables'.jobs = tables.jobs ++ [⟨job, job, 0, none⟩])
      (haudits : tables'.audits = tables.audits ++ [.ofEvent audit])
      (hfresh : findAudit tables.audits audit.auditEventId = none)
      (hreplay : result.exactReplay = false)
  | transitioned {row : ExportJobRow} {call : TransitionCall} {w : TransitionWrite}
      {audit : AuditEvent} {receipt : Option AuditEvent}
      (hwrite : p.write = .transition w audit receipt) (hcalls : p.command.Calls row call)
      (hid : row.document.exportJobId = call.exportJobId)
      (hbuilt : TransitionBuilt row call w audit receipt)
      (hclient : ∀ document ∈ call.command, ∃ event ∈ receipt,
        event.auditEventId = clientReceiptId document)
      (hrow : findJob tables.jobs call.exportJobId = some row) (hswapped : Swapped row w)
      (hjobs : tables'.jobs = putJob tables.jobs call.exportJobId
        { row with
          document := w.candidate
          stateRevision := row.stateRevision + 1
          leaseExpiresAtUtc := w.leaseExpiresAtUtc })
      (haudits : tables'.audits =
        (tables.audits ++ [.ofEvent audit]) ++ receipt.toList.map .ofEvent)
      (hfresh : findAudit tables.audits audit.auditEventId = none)
      (hreceipt : ∀ event ∈ receipt,
        findAudit (tables.audits ++ [.ofEvent audit]) event.auditEventId = none)
      (hreplay : result.exactReplay = false)
  | beaten {row : ExportJobRow} {w : HeartbeatWrite} {expiry : Datetime}
      {occurredAtUtc : String} (hwrite : p.write = .heartbeat w)
      (hcommand : p.command = .heartbeat w.exportJobId w.expectedLeaseReference expiry)
      (hrow : findJob tables.jobs w.exportJobId = some row) (hbeaten : Beaten row w)
      (hcandidate : w.candidate = row.document.beaten occurredAtUtc)
      (hjobs : tables'.jobs = putJob tables.jobs w.exportJobId
        { row with
          document := w.candidate
          stateRevision := row.stateRevision + 1
          leaseExpiresAtUtc := some w.leaseExpiresAtUtc })
      (haudits : tables'.audits = tables.audits)

theorem findJob_mem {jobs : List ExportJobRow} {row : ExportJobRow} (h : row ∈ jobs) :
    ∃ found, findJob jobs row.document.exportJobId = some found := by
  cases hfound : findJob jobs row.document.exportJobId with
  | some found => exact ⟨found, rfl⟩
  | none =>
    rw [findJob, List.find?_eq_none] at hfound
    exact absurd (hfound row h) (by simp)

theorem JobAudited.creation {audits : List AuditRow} {row : ExportJobRow}
    (h : JobAudited audits row) :
    findAudit audits (auditEventId row.document.exportJobId .create 0) ≠ none := by
  obtain ⟨event, hfirst, -, hid⟩ := h.first
  have hmem := List.mem_of_mem_head? hfirst
  obtain ⟨stored, hstored, hevent⟩ := List.mem_filterMap.mp hmem
  cases stored with
  | ofOther audit => cases hevent
  | ofEvent found =>
    simp only [AuditRow.transitionOf, Option.ite_none_right_eq_some, Option.some.injEq] at hevent
    obtain ⟨-, rfl⟩ := hevent
    rw [← hid]
    exact findAudit_mem hstored

theorem commit_effect {p : PendingWrite} {result : ExportJobServiceResult}
    {read : Option ExportJobRow} (haudited : TablesAudited tables)
    (hcreations : ∀ row ∈ tables.jobs, row.creation.exportJobId = row.document.exportJobId)
    (hbuilt : Built p.command p.write read) (hpast : ∀ row ∈ read, Past tables row p.write)
    (h : tables.commit p.write = .ok (tables', result)) : Effect tables p tables' result := by
  obtain ⟨command, ctx, write⟩ := p
  cases hbuilt with
  | @create request publication job audit hid hlatest haudit haggregate hbefore hafter =>
    simp only [ExportTables.commit, bind_eq_ok, Prod.exists, pure, Except.pure, Except.ok.injEq,
      Prod.mk.injEq] at h
    obtain ⟨jobs, document, replayed, hcreate, audits, happend, rfl, rfl⟩ := h
    have hrecords : audit.RecordsTransition := ⟨by simp [hafter], .inl hbefore⟩
    rcases createJob_ok hcreate with ⟨rfl, rfl, row, hrow, hcreation⟩ |
      ⟨rfl, rfl, hnone, hstate, hattempt⟩
    · have hjob := hcreations row hrow
      rw [hcreation] at hjob
      obtain ⟨found, hfound⟩ := findJob_mem hrow
      have hthere := (haudited.audited _ found hfound).creation
      rw [findJob_id hfound, ← hjob, ← hlatest, ← haudit] at hthere
      rcases appendAudit_ok happend with ⟨rfl, -⟩ | ⟨-, hfresh, -⟩
      · exact .repeated rfl rfl rfl rfl
      · exact absurd hfresh hthere
    · rcases appendAudit_ok happend with ⟨-, hthere⟩ | ⟨rfl, hfresh, -⟩
      · have hmem := mem_transitionAudits hthere hrecords
        rw [haggregate, haudited.unaudited _ hnone] at hmem
        cases hmem
      · exact .created rfl (.create hid hlatest haudit haggregate hbefore hafter) rfl hnone hstate
          hattempt rfl rfl hfresh rfl
  | @transition _ row call w audit receipt hcalls hid hbuilt hnone hreceipt =>
    simp only [ExportTables.commit, bind_eq_ok, pure, Except.pure, Except.ok.injEq,
      Prod.mk.injEq] at h
    obtain ⟨jobs, hjobs, audits, happend, audits', happend', rfl, rfl⟩ := h
    obtain ⟨-, found, hfound, hswapped, rfl⟩ := transitionJob_ok hjobs
    rw [hbuilt.exportJobId] at hfound
    obtain ⟨now, hnow, -, hsame⟩ := hpast row rfl
    rw [hid, hfound] at hnow
    obtain rfl := Option.some.inj hnow
    obtain ⟨rfl, hunreceived⟩ := hsame (hswapped.revision.trans hbuilt.revision)
    have hrecords : audit.RecordsTransition := ⟨by simp [hbuilt.after], .inr hbuilt.plain⟩
    have hnew : AuditRow.ofEvent audit ∉ tables.audits :=
      (haudited.audited _ _ hfound).fresh haudited.ids hbuilt.auditJob hbuilt.parent
        (by simp [hbuilt.before]) hrecords
    rcases appendAudit_ok happend with ⟨-, hthere⟩ | ⟨rfl, hfresh, -⟩
    · exact absurd hthere hnew
    have hclient : ∀ document ∈ call.command, ∃ event ∈ receipt,
        event.auditEventId = clientReceiptId document := by
      intro document hdocument
      cases receipt with
      | none =>
        rw [hnone.mp rfl] at hdocument
        cases hdocument
      | some event =>
        obtain ⟨document', hdocument', hevent⟩ := hreceipt event rfl
        obtain rfl := Option.some.inj (hdocument.symm.trans hdocument')
        exact ⟨event, rfl, hevent⟩
    have heffect : audits' = (tables.audits ++ [.ofEvent audit]) ++ receipt.toList.map .ofEvent ∧
        ∀ event ∈ receipt,
          findAudit (tables.audits ++ [.ofEvent audit]) event.auditEventId = none := by
      cases receipt with
      | none =>
        injection happend' with happend'
        exact ⟨by simp [happend'], by simp⟩
      | some event =>
        rcases appendAudit_ok happend' with ⟨-, hthere⟩ | ⟨rfl, hfree, -⟩
        · rcases List.mem_append.mp hthere with hthere | hthere
          · exact absurd hthere (hunreceived event rfl)
          · have hsame : event = audit := by simpa using hthere
            obtain ⟨-, -, -, hkey⟩ := hbuilt.receipt event rfl
            rw [hsame] at hkey
            exact absurd hbuilt.plain hkey
        · refine ⟨rfl, ?_⟩
          intro found hfound
          obtain rfl := Option.some.inj hfound
          exact hfree
    obtain ⟨rfl, hfree⟩ := heffect
    exact .transitioned rfl hcalls hid hbuilt hclient hfound hswapped
      (by rw [hbuilt.exportJobId, hbuilt.revision]) rfl hfresh hfree rfl
  | @heartbeat id lease occurredAtUtc expiry observed row hid =>
    simp only [ExportTables.commit, bind_eq_ok, pure, Except.pure, Except.ok.injEq,
      Prod.mk.injEq] at h
    obtain ⟨jobs, hjobs, rfl, rfl⟩ := h
    obtain ⟨found, hfound, hbeaten, rfl⟩ := heartbeatJob_ok hjobs
    obtain ⟨now, hnow, -, hsame⟩ := hpast row rfl
    rw [hid, hfound] at hnow
    obtain rfl := Option.some.inj hnow
    obtain ⟨rfl, -⟩ := hsame hbeaten.revision
    exact .beaten rfl rfl hfound hbeaten rfl rfl rfl

/-- Rows are replaced by later ones, and an event of a job that is not a denial comes with a
later row of it. -/
structure Grows (tables tables' : ExportTables) : Prop where
  rows : ∀ id row, findJob tables.jobs id = some row →
    ∃ row', findJob tables'.jobs id = some row' ∧
      (row' = row ∨ row.stateRevision < row'.stateRevision)
  audits : ∃ added, tables'.audits = tables.audits ++ added ∧
    ∀ event, .ofEvent event ∈ added → event.afterState ≠ none →
      ∀ row, findJob tables.jobs event.aggregateId = some row →
        ∃ row', findJob tables'.jobs event.aggregateId = some row' ∧
          row.stateRevision < row'.stateRevision

theorem Grows.of_audits {added : List AuditRow} (hjobs : tables'.jobs = tables.jobs)
    (haudits : tables'.audits = tables.audits ++ added)
    (hdenials : ∀ event, .ofEvent event ∈ added → event.afterState = none) :
    Grows tables tables' where
  rows := fun id row hrow => ⟨row, by rwa [hjobs], .inl rfl⟩
  audits := ⟨added, haudits, fun event hevent hafter => absurd (hdenials event hevent) hafter⟩

theorem Grows.findAudit (h : Grows tables tables') {id : String}
    (hfound : findAudit tables.audits id ≠ none) : findAudit tables'.audits id ≠ none := by
  obtain ⟨added, haudits, -⟩ := h.audits
  rw [haudits, Exports.findAudit, List.find?_append]
  cases hfind : tables.audits.find? fun row => row.auditEventId = id with
  | none => exact absurd hfind hfound
  | some row => simp

theorem Grows.findJob (h : Grows tables tables') {id : String}
    (hfound : findJob tables.jobs id ≠ none) : findJob tables'.jobs id ≠ none := by
  cases hfind : Exports.findJob tables.jobs id with
  | none => exact absurd hfind hfound
  | some row =>
    obtain ⟨row', hrow', -⟩ := h.rows id row hfind
    simp [hrow']

/-- The past stays the past. -/
theorem Past.grows {row : ExportJobRow} {write : ExportWrite} (h : Past tables row write)
    (hgrows : Grows tables tables')
    (hreceipt : ∀ event ∈ write.receipt, event.aggregateId = row.document.exportJobId ∧
      event.afterState ≠ none) : Past tables' row write := by
  obtain ⟨now, hnow, hle, hsame⟩ := h
  obtain ⟨now', hnow', hlater⟩ := hgrows.rows _ now hnow
  obtain ⟨added, haudits, hadded⟩ := hgrows.audits
  refine ⟨now', hnow', ?_, ?_⟩
  · rcases hlater with rfl | hlater
    · exact hle
    · omega
  · intro hrevision
    rcases hlater with rfl | hlater
    · obtain ⟨rfl, hfresh⟩ := hsame hrevision
      refine ⟨rfl, ?_⟩
      intro event hevent hmem
      rw [haudits] at hmem
      rcases List.mem_append.mp hmem with hmem | hmem
      · exact hfresh event hevent hmem
      · obtain ⟨hjob, hafter⟩ := hreceipt event hevent
        rw [← hjob] at hnow hnow'
        obtain ⟨row', hrow', hlt⟩ := hadded event hmem hafter _ hnow
        obtain rfl := Option.some.inj (hnow'.symm.trans hrow')
        omega
    · omega

/-- A receipt belongs to the job of the row that its write was built from. -/
theorem Built.receipts {command : ExportCommand} {write : ExportWrite} {row : ExportJobRow}
    (h : Built command write (some row)) : ∀ event ∈ write.receipt,
      event.aggregateId = row.document.exportJobId ∧ event.afterState ≠ none := by
  intro event hevent
  cases h with
  | transition hcalls hid hbuilt =>
    obtain ⟨hjob, -, hafter, -⟩ := hbuilt.receipt event hevent
    rw [hjob, hbuilt.auditJob, hafter, hbuilt.after]
    exact ⟨rfl, Option.some_ne_none _⟩
  | heartbeat => cases hevent

theorem findJob_append {jobs : List ExportJobRow} {row : ExportJobRow} {id : String} :
    findJob (jobs ++ [row]) id =
      (findJob jobs id).or (if row.document.exportJobId = id then some row else none) := by
  rw [findJob, List.find?_append]
  by_cases h : row.document.exportJobId = id
  · simp [h, findJob]
  · simp [h, findJob]

theorem Effect.grows {p : PendingWrite} {result : ExportJobServiceResult}
    (h : Effect tables p tables' result) : Grows tables tables' := by
  cases h with
  | repeated hwrite hcommand htables hreplay =>
    subst htables
    exact Grows.of_audits rfl (List.append_nil _).symm (by simp)
  | @created request publication job audit hwrite hbuilt hcommand hnone hstate hattempt hjobs
      haudits =>
    cases hbuilt with
    | create hid hlatest haudit haggregate hbefore hafter =>
      refine ⟨?_, [.ofEvent audit], haudits, ?_⟩
      · intro id row hrow
        refine ⟨row, ?_, .inl rfl⟩
        rw [hjobs, findJob_append, hrow]
        rfl
      · intro event hevent _ row hrow
        have hsame : event = audit := by simpa using hevent
        rw [hsame, haggregate, hnone] at hrow
        cases hrow
  | @transitioned row call w audit receipt hwrite hcalls hid hbuilt hclient hrow hswapped hjobs
      haudits =>
    have hput := @findJob_putJob tables.jobs call.exportJobId
    have hcandidate : w.candidate.exportJobId = call.exportJobId := hbuilt.candidateId.trans hid
    refine ⟨?_, .ofEvent audit :: receipt.toList.map .ofEvent, by simp [haudits], ?_⟩
    · intro id stored hstored
      rw [hjobs, hput (by exact hcandidate)]
      by_cases hsame : id = call.exportJobId
      · subst hsame
        obtain rfl := Option.some.inj (hrow.symm.trans hstored)
        rw [if_pos rfl, hrow]
        exact ⟨_, rfl, .inr (Nat.lt_succ_self _)⟩
      · rw [if_neg hsame]
        exact ⟨stored, hstored, .inl rfl⟩
    · intro event hevent _ stored hstored
      have hjob : event.aggregateId = call.exportJobId := by
        rcases List.mem_cons.mp hevent with hevent | hevent
        · have hsame : event = audit := by simpa using hevent
          rw [hsame, hbuilt.auditJob, hid]
        · obtain ⟨found, hfound, hsame⟩ := List.mem_map.mp hevent
          have hsame : found = event := by simpa using hsame
          obtain ⟨hagg, -⟩ := hbuilt.receipt found (by simpa using hfound)
          rw [← hsame, hagg, hbuilt.auditJob, hid]
      rw [hjob] at hstored
      obtain rfl := Option.some.inj (hrow.symm.trans hstored)
      rw [hjobs, hput (by exact hcandidate), hjob, if_pos rfl, hrow]
      exact ⟨_, rfl, Nat.lt_succ_self _⟩
  | @beaten row w expiry occurredAtUtc hwrite hcommand hrow hbeaten hcandidate hjobs haudits =>
    have hid := findJob_id hrow
    have hsameId : w.candidate.exportJobId = w.exportJobId := by
      rw [hcandidate]
      exact hid
    refine ⟨?_, [], by simp [haudits], by simp⟩
    intro id stored hstored
    rw [hjobs, findJob_putJob (by exact hsameId)]
    by_cases hsame : id = w.exportJobId
    · subst hsame
      obtain rfl := Option.some.inj (hrow.symm.trans hstored)
      rw [if_pos rfl, hrow]
      exact ⟨_, rfl, .inr (Nat.lt_succ_self _)⟩
    · rw [if_neg hsame]
      exact ⟨stored, hstored, .inl rfl⟩

/-! ### The audits after a step -/

theorem JobAudited.congr {audits audits' : List AuditRow} {row row' : ExportJobRow}
    (h : JobAudited audits row) (hid : row'.document.exportJobId = row.document.exportJobId)
    (hsame : transitionAudits audits' row.document.exportJobId =
      transitionAudits audits row.document.exportJobId)
    (hlatest : row'.document.latestAuditEventId = row.document.latestAuditEventId)
    (hstate : row'.document.state = row.document.state) : JobAudited audits' row' := by
  obtain ⟨hfirst, hlinked, hlast⟩ := h
  rw [← hsame] at hfirst hlinked hlast
  refine ⟨?_, ?_, ?_⟩
  · rwa [hid]
  · rwa [hid]
  · rwa [hid, hlatest, hstate]

/-- A transition that is linked to the latest one extends the chain. -/
theorem JobAudited.extend {audits audits' : List AuditRow} {row row' : ExportJobRow}
    {audit : AuditEvent} (h : JobAudited audits row)
    (hid : row'.document.exportJobId = row.document.exportJobId)
    (hnext : transitionAudits audits' row.document.exportJobId =
      transitionAudits audits row.document.exportJobId ++ [audit])
    (hparent : audit.parentAuditEventId = some row.document.latestAuditEventId)
    (hbefore : audit.beforeState = some row.document.state)
    (hlatest : row'.document.latestAuditEventId = audit.auditEventId)
    (hafter : audit.afterState = some row'.document.state) : JobAudited audits' row' := by
  obtain ⟨⟨first, hfirst, hcreated⟩, hlinked, last, hlast, hlastId, hlastState⟩ := h
  refine ⟨?_, ?_, ?_⟩
  · rw [hid, hnext]
    refine ⟨first, ?_, hcreated⟩
    rw [List.head?_append, hfirst]
    rfl
  · rw [hid, hnext, List.isChain_append]
    refine ⟨hlinked, List.isChain_singleton _, ?_⟩
    intro previous hprevious next hnextEvent
    obtain rfl := Option.some.inj (hlast.symm.trans hprevious)
    obtain rfl := Option.some.inj hnextEvent
    exact ⟨by rw [hparent, hlastId], by rw [hbefore, hlastState]⟩
  · rw [hid, hnext]
    exact ⟨audit, List.getLast?_concat .., hlatest.symm, hafter⟩

theorem nodup_append_audit {audits : List AuditRow} {row : AuditRow}
    (h : (audits.map AuditRow.auditEventId).Nodup)
    (hfresh : findAudit audits row.auditEventId = none) :
    ((audits ++ [row]).map AuditRow.auditEventId).Nodup := by
  rw [List.map_append, List.nodup_append]
  refine ⟨h, List.nodup_singleton _, ?_⟩
  intro id hid other hother hsame
  obtain ⟨stored, hstored, rfl⟩ := List.mem_map.mp hid
  have hother : other = row.auditEventId := by simpa using hother
  rw [hother] at hsame
  apply findAudit_mem hstored
  rw [hsame, hfresh]

/-- A row that records no transition, under an identity of its own. -/
theorem TablesAudited.append {row : AuditRow} (h : TablesAudited tables)
    (hjobs : tables'.jobs = tables.jobs) (haudits : tables'.audits = tables.audits ++ [row])
    (hfresh : findAudit tables.audits row.auditEventId = none)
    (hnone : ∀ id, row.transitionOf id = none) : TablesAudited tables' := by
  refine ⟨?_, ?_, ?_⟩
  · rw [haudits]
    exact nodup_append_audit h.ids hfresh
  · intro id stored hstored
    rw [hjobs] at hstored
    rw [haudits]
    exact (h.audited id stored hstored).congr rfl (transitionAudits_other (hnone _)) rfl rfl
  · intro id hid
    rw [hjobs] at hid
    rw [haudits, transitionAudits_other (hnone _), h.unaudited id hid]

/-- What a committed transition adds to the audits of a job. -/
theorem transitioned_audits {audits : List AuditRow} {row : ExportJobRow} {call : TransitionCall}
    {w : TransitionWrite} {audit : AuditEvent} {receipt : Option AuditEvent}
    (hbuilt : TransitionBuilt row call w audit receipt) (id : String) :
    transitionAudits ((audits ++ [.ofEvent audit]) ++ receipt.toList.map .ofEvent) id =
      if id = row.document.exportJobId then transitionAudits audits id ++ [audit]
      else transitionAudits audits id := by
  have hrecords : audit.RecordsTransition := ⟨by simp [hbuilt.after], .inr hbuilt.plain⟩
  have hreceipt : transitionAudits (receipt.toList.map .ofEvent) id = [] := by
    cases receipt with
    | none => rfl
    | some event =>
      obtain ⟨-, hbefore, -, hkey⟩ := hbuilt.receipt event rfl
      have hnot : ¬event.RecordsTransition := by
        intro hrecords
        rcases hrecords.2 with hnone | hnone
        · rw [hbefore, hbuilt.before] at hnone
          cases hnone
        · exact hkey hnone
      simp [transitionAudits, AuditRow.transitionOf, hnot]
  rw [transitionAudits_append, hreceipt, List.append_nil]
  by_cases hid : id = row.document.exportJobId
  · rw [if_pos hid]
    exact transitionAudits_event (hbuilt.auditJob.trans hid.symm) hrecords
  · rw [if_neg hid]
    apply transitionAudits_other
    have hother : ¬audit.aggregateId = id := fun h => hid (h.symm.trans hbuilt.auditJob)
    simp [AuditRow.transitionOf, hother]

theorem Effect.audited {p : PendingWrite} {result : ExportJobServiceResult}
    (haudited : TablesAudited tables) (h : Effect tables p tables' result) :
    TablesAudited tables' := by
  cases h with
  | repeated hwrite hcommand htables hreplay => exact htables ▸ haudited
  | @created request publication job audit hwrite hbuilt hcommand hnone hstate hattempt hjobs
      haudits hfresh =>
    cases hbuilt with
    | create hid hlatest haudit haggregate hbefore hafter =>
      have hrecords : audit.RecordsTransition := ⟨by simp [hafter], .inl hbefore⟩
      have hchain : transitionAudits tables'.audits job.exportJobId = [audit] := by
        rw [haudits, transitionAudits_event haggregate hrecords, haudited.unaudited _ hnone]
        rfl
      have hother : ∀ id, ¬job.exportJobId = id →
          transitionAudits tables'.audits id = transitionAudits tables.audits id := by
        intro id hne
        rw [haudits]
        apply transitionAudits_other
        have hother : ¬audit.aggregateId = id := fun h => hne (haggregate.symm.trans h)
        simp [AuditRow.transitionOf, hother]
      refine ⟨?_, ?_, ?_⟩
      · rw [haudits]
        exact nodup_append_audit haudited.ids hfresh
      · intro id row hrow
        rw [hjobs, findJob_append] at hrow
        by_cases hid : job.exportJobId = id
        · subst hid
          rw [hnone] at hrow
          have hrow : some (⟨job, job, 0, none⟩ : ExportJobRow) = some row := by simpa using hrow
          obtain rfl := Option.some.inj hrow
          refine ⟨?_, ?_, ?_⟩
          · rw [hchain]
            exact ⟨audit, rfl, hbefore, haudit.trans hlatest⟩
          · rw [hchain]
            exact List.isChain_singleton _
          · rw [hchain]
            exact ⟨audit, rfl, haudit, by rw [hafter, hstate]⟩
        · rw [if_neg (by exact hid), Option.or_none] at hrow
          have hrowId := findJob_id hrow
          exact (haudited.audited id row hrow).congr rfl
            (hother _ (by rwa [hrowId])) rfl rfl
      · intro id hrow
        rw [hjobs, findJob_append, Option.or_eq_none_iff] at hrow
        obtain ⟨hrow, hid⟩ := hrow
        have hid : ¬job.exportJobId = id := by simpa using hid
        rw [hother id hid, haudited.unaudited id hrow]
  | @transitioned row call w audit receipt hwrite hcalls hid hbuilt hclient hrow hswapped hjobs
      haudits hfresh hreceipt =>
    have hcandidate : w.candidate.exportJobId = call.exportJobId := hbuilt.candidateId.trans hid
    have hput := @findJob_putJob tables.jobs call.exportJobId
    refine ⟨?_, ?_, ?_⟩
    · rw [haudits]
      have hnodup := @nodup_append_audit tables.audits (.ofEvent audit) haudited.ids hfresh
      cases receipt with
      | none => simpa using hnodup
      | some event => exact nodup_append_audit hnodup (hreceipt event rfl)
    · intro id stored hstored
      rw [hjobs, hput (by exact hcandidate)] at hstored
      rw [haudits]
      by_cases hsame : id = call.exportJobId
      · rw [if_pos hsame, hrow] at hstored
        obtain rfl := Option.some.inj hstored
        have hchain := @transitioned_audits tables.audits _ _ _ _ _ hbuilt
          row.document.exportJobId
        rw [if_pos rfl] at hchain
        exact (haudited.audited _ row hrow).extend hbuilt.candidateId hchain hbuilt.parent
          hbuilt.before hbuilt.latest hbuilt.after
      · rw [if_neg hsame] at hstored
        have hchain := @transitioned_audits tables.audits _ _ _ _ _ hbuilt id
        rw [if_neg (by rwa [hid])] at hchain
        have hstoredId := findJob_id hstored
        exact (haudited.audited id stored hstored).congr rfl (by rwa [hstoredId]) rfl rfl
    · intro id hnone
      rw [hjobs, hput (by exact hcandidate)] at hnone
      have hne : ¬id = call.exportJobId := by
        intro hsame
        rw [if_pos hsame, hrow] at hnone
        cases hnone
      rw [if_neg hne] at hnone
      rw [haudits, transitioned_audits hbuilt, if_neg (by rwa [hid]), haudited.unaudited id hnone]
  | @beaten row w expiry occurredAtUtc hwrite hcommand hrow hbeaten hcandidate hjobs haudits =>
    have hid := findJob_id hrow
    have hsameId : w.candidate.exportJobId = w.exportJobId := by
      rw [hcandidate]
      exact hid
    refine ⟨by rw [haudits]; exact haudited.ids, ?_, ?_⟩
    · intro id stored hstored
      rw [hjobs, findJob_putJob (by exact hsameId)] at hstored
      rw [haudits]
      by_cases hsame : id = w.exportJobId
      · rw [if_pos hsame, hrow] at hstored
        obtain rfl := Option.some.inj hstored
        refine (haudited.audited _ row hrow).congr ?_ rfl ?_ ?_
        · rw [hcandidate]
          rfl
        · rw [hcandidate]
          rfl
        · rw [hcandidate]
          rfl
      · rw [if_neg hsame] at hstored
        exact haudited.audited id stored hstored
    · intro id hnone
      rw [hjobs, findJob_putJob (by exact hsameId)] at hnone
      rw [haudits]
      apply haudited.unaudited
      by_cases hsame : id = w.exportJobId
      · rw [if_pos hsame, hrow] at hnone
        cases hnone
      · rwa [if_neg hsame] at hnone

end

/-! ### The invariant -/

section
variable {otherDocument : String → Json → Except P4ContractError Unit} {s s' : ExportSystem}

/-- The claims of a job are counted by its attempt, and the newest one holds the lease. -/
structure RowLeased (s : ExportSystem) (row : ExportJobRow) : Prop where
  counted : ∀ claim ∈ s.claims, claim.exportJobId = row.document.exportJobId →
    claim.attempt ≤ row.document.attempt
  held : row.document.state = .exporting →
    s.latestClaim row.document.exportJobId =
      some ⟨row.document.exportJobId, row.document.attempt, row.document.leaseReference⟩

/-- What a submission leaves behind once it has stored something. -/
def SubmissionKnown (tables : ExportTables) : ClientSubmission → Prop
  | .request request => findJob tables.jobs request.identity.exportJobId ≠ none
  | .command document => findAudit tables.audits (clientReceiptId document) ≠ none

structure ExportInv (s : ExportSystem) : Prop where
  audited : TablesAudited s.tables
  creations : ∀ row ∈ s.tables.jobs, row.creation.exportJobId = row.document.exportJobId
  leases : ∀ id row, s.job id = some row → RowLeased s row
  unclaimed : ∀ id, s.job id = none → ∀ claim ∈ s.claims, claim.exportJobId ≠ id
  pending : ∀ p ∈ s.pending, ∃ read, Built p.command p.write read ∧
    ∀ row ∈ read, Past s.tables row p.write
  stored : ∀ command ∈ s.stored, ∀ submission ∈ command.submission,
    SubmissionKnown s.tables submission

theorem SubmissionKnown.grows {tables tables' : ExportTables} {submission : ClientSubmission}
    (h : SubmissionKnown tables submission) (hgrows : Grows tables tables') :
    SubmissionKnown tables' submission := by
  cases submission with
  | request request => exact hgrows.findJob h
  | command document => exact hgrows.findAudit h

theorem pending_grows {p : PendingWrite} {tables tables' : ExportTables}
    (h : ∃ read, Built p.command p.write read ∧ ∀ row ∈ read, Past tables row p.write)
    (hgrows : Grows tables tables') :
    ∃ read, Built p.command p.write read ∧ ∀ row ∈ read, Past tables' row p.write := by
  obtain ⟨read, hbuilt, hpast⟩ := h
  refine ⟨read, hbuilt, ?_⟩
  intro row hrow
  obtain rfl := hrow
  exact (hpast row rfl).grows hgrows hbuilt.receipts

/-- A step that touches neither the jobs nor the claims. -/
theorem ExportInv.quiet (h : ExportInv s) (haudited : TablesAudited s'.tables)
    (hgrows : Grows s.tables s'.tables) (hjobs : s'.tables.jobs = s.tables.jobs)
    (hclaims : s'.claims = s.claims) (hstored : s'.stored = s.stored)
    (hpending : ∀ p ∈ s'.pending, p ∈ s.pending ∨
      ∃ read, Built p.command p.write read ∧ ∀ row ∈ read, Past s'.tables row p.write) :
    ExportInv s' := by
  have hjob : ∀ id, s'.job id = s.job id := by
    intro id
    rw [ExportSystem.job, ExportSystem.job, hjobs]
  refine ⟨haudited, by rw [hjobs]; exact h.creations, ?_, ?_, ?_, ?_⟩
  · intro id row hrow
    rw [hjob] at hrow
    obtain ⟨hcounted, hheld⟩ := h.leases id row hrow
    refine ⟨by rw [hclaims]; exact hcounted, ?_⟩
    rw [ExportSystem.latestClaim, hclaims]
    exact hheld
  · intro id hnone
    rw [hjob] at hnone
    rw [hclaims]
    exact h.unclaimed id hnone
  · intro p hp
    rcases hpending p hp with hp | hp
    · exact pending_grows (h.pending p hp) hgrows
    · exact hp
  · intro command hcommand submission hsubmission
    rw [hstored] at hcommand
    exact (h.stored command hcommand submission hsubmission).grows hgrows

/-- A refused call leaves the audit events alone, but for the denial of a creation. -/
theorem auditsRefused_cases (tables : ExportTables) (ctx : ExportJobContext)
    (command : ExportCommand) :
    tables.auditsRefused ctx command = tables.audits ∨
      ∃ request publication, command = .create request publication ∧
        tables.auditsRefused ctx command =
          tables.audits ++ [.ofEvent (denialAudit request ctx request.identity)] ∧
        findAudit tables.audits (denialAudit request ctx request.identity).auditEventId =
          none := by
  cases command with
  | create request publication =>
    simp only [ExportTables.auditsRefused, denialAudits]
    split
    · exact .inl rfl
    · split
      · split
        · rename_i appended happend
          rcases appendAudit_ok happend with ⟨rfl, -⟩ | ⟨rfl, hfresh, -⟩
          · exact .inl rfl
          · exact .inr ⟨request, publication, rfl, rfl, hfresh⟩
        · exact .inl rfl
      · exact .inl rfl
  | claim | heartbeat | complete | fail | cancel => exact .inl rfl

theorem denialAudit_transitionOf (request : ExportJobRequest) (ctx : ExportJobContext)
    (identity : ExportJobIdentity) (id : String) :
    AuditRow.transitionOf id (.ofEvent (denialAudit request ctx identity)) = none := by
  have hnot : ¬(denialAudit request ctx identity).RecordsTransition := fun h => h.1 rfl
  simp [AuditRow.transitionOf, hnot]

theorem refused_audited {tables : ExportTables} (h : TablesAudited tables)
    (ctx : ExportJobContext) (command : ExportCommand) :
    TablesAudited { tables with audits := tables.auditsRefused ctx command } ∧
      Grows tables { tables with audits := tables.auditsRefused ctx command } := by
  rcases auditsRefused_cases tables ctx command with hsame | ⟨request, publication, -, hadded, hfresh⟩
  · rw [hsame]
    exact ⟨h, Grows.of_audits rfl (List.append_nil _).symm (by simp)⟩
  · rw [hadded]
    refine ⟨h.append rfl rfl hfresh fun id => denialAudit_transitionOf ..,
      Grows.of_audits rfl rfl ?_⟩
    intro event hevent
    have hsame : event = denialAudit request ctx request.identity := by simpa using hevent
    rw [hsame]
    rfl

/-- The client document of a command is that of the transition it asks for. -/
theorem Calls.submission {command : ExportCommand} {row : ExportJobRow} {call : TransitionCall}
    (h : command.Calls row call) {submission : ClientSubmission}
    (hsubmission : submission ∈ command.submission) :
    ∃ document ∈ call.command, submission = .command document := by
  cases command with
  | claim id owner expiry document =>
    obtain ⟨lease, rfl⟩ := h
    obtain ⟨found, hfound, rfl⟩ := Option.map_eq_some_iff.mp hsubmission
    exact ⟨found, hfound, rfl⟩
  | cancel id lease recovery document =>
    obtain rfl := h
    obtain ⟨found, hfound, rfl⟩ := Option.map_eq_some_iff.mp hsubmission
    exact ⟨found, hfound, rfl⟩
  | complete | fail => cases hsubmission
  | create | heartbeat => exact h.elim

theorem PendingWrite.stores_mem {p : PendingWrite} {result : ExportJobServiceResult}
    {command : ExportCommand} (h : command ∈ p.stores result) : command = p.command := by
  unfold PendingWrite.stores at h
  split at h
  · cases h
  · split at h
    · cases h
    · exact List.mem_singleton.mp h

theorem Effect.known {tables tables' : ExportTables} {p : PendingWrite}
    {result : ExportJobServiceResult} (h : Effect tables p tables' result)
    (hstores : p.command ∈ p.stores result) :
    ∀ submission ∈ p.command.submission, ¬SubmissionKnown tables submission ∧
      SubmissionKnown tables' submission := by
  intro submission hsubmission
  cases h with
  | repeated hwrite hcommand htables hreplay =>
    simp [PendingWrite.stores, hwrite, hreplay] at hstores
  | @created request publication job audit hwrite hbuilt hcommand hnone hstate hattempt hjobs =>
    cases hbuilt with
    | create hid =>
      rw [hcommand] at hsubmission
      obtain rfl := Option.some.inj hsubmission
      refine ⟨fun hknown => hknown (hid ▸ hnone), ?_⟩
      show findJob tables'.jobs request.identity.exportJobId ≠ none
      rw [hjobs, findJob_append, ← hid, hnone]
      simp
  | @transitioned row call w audit receipt hwrite hcalls hid hbuilt hclient hrow hswapped hjobs
      haudits hfresh hreceipt =>
    obtain ⟨document, hdocument, rfl⟩ := Calls.submission hcalls hsubmission
    obtain ⟨event, hevent, heventId⟩ := hclient document hdocument
    have hfree := hreceipt event hevent
    rw [findAudit, List.find?_append, Option.or_eq_none_iff, heventId] at hfree
    refine ⟨fun hknown => hknown hfree.1, ?_⟩
    show findAudit tables'.audits (clientReceiptId document) ≠ none
    rw [← heventId]
    have hmem : AuditRow.ofEvent event ∈ tables'.audits := by
      rw [haudits]
      exact List.mem_append_right _ (List.mem_map_of_mem (by simpa using hevent))
    exact findAudit_mem hmem
  | beaten hwrite => simp [PendingWrite.stores, hwrite] at hstores

/-- The leases after a transition. -/
theorem transitioned_leased {row : ExportJobRow} {w : TransitionWrite} {p : PendingWrite}
    {audit : AuditEvent} {receipt : Option AuditEvent} {tables : ExportTables}
    {result : ExportJobServiceResult} {row' : ExportJobRow} (h : RowLeased s row)
    (hwrite : p.write = .transition w audit receipt) (hswapped : Swapped row w)
    (hid : row.document.exportJobId = w.exportJobId)
    (hcandidate : w.candidate.exportJobId = w.exportJobId)
    (hrow' : row'.document = w.candidate) : RowLeased (s.commit p tables result) row' := by
  have hle : row.document.attempt ≤ w.candidate.attempt := by
    by_cases hstate : w.candidate.state = .exporting
    · have hattempt := (hswapped.claimed hstate).1
      omega
    · exact (hswapped.kept hstate).1.ge
  refine ⟨?_, ?_⟩
  · intro claim hclaim hjob
    rw [hrow'] at hjob ⊢
    rcases List.mem_append.mp hclaim with hclaim | hclaim
    · simp only [PendingWrite.claims, hwrite] at hclaim
      split at hclaim
      · rw [List.mem_singleton.mp hclaim]
      · cases hclaim
    · exact (h.counted claim hclaim (by rw [hjob, hcandidate, hid])).trans hle
  · intro hstate
    rw [hrow'] at hstate ⊢
    have hclaims : p.claims =
        [⟨w.exportJobId, w.candidate.attempt, w.candidate.leaseReference⟩] := by
      simp [PendingWrite.claims, hwrite, hstate]
    rw [ExportSystem.latestClaim, ExportSystem.commit, hclaims, hcandidate]
    simp

theorem ExportInv.commit {p : PendingWrite} {tables : ExportTables}
    {result : ExportJobServiceResult} (h : ExportInv s) (heffect : Effect s.tables p tables result) :
    ExportInv (s.commit p tables result) := by
  have hgrows := heffect.grows
  have hpending : ∀ q ∈ (s.commit p tables result).pending,
      ∃ read, Built q.command q.write read ∧ ∀ row ∈ read, Past tables row q.write := by
    intro q hq
    exact pending_grows (h.pending q (List.mem_of_mem_erase hq)) hgrows
  have hstored : ∀ command ∈ (s.commit p tables result).stored,
      ∀ submission ∈ command.submission, SubmissionKnown tables submission := by
    intro command hcommand submission hsubmission
    rcases List.mem_append.mp hcommand with hcommand | hcommand
    · obtain rfl := PendingWrite.stores_mem hcommand
      exact (heffect.known hcommand submission hsubmission).2
    · exact (h.stored command hcommand submission hsubmission).grows hgrows
  have haudited : TablesAudited tables := heffect.audited h.audited
  cases heffect with
  | repeated hwrite hcommand htables hreplay =>
    subst htables
    have hclaims : (s.commit p s.tables result).claims = s.claims := by
      simp [ExportSystem.commit, PendingWrite.claims, hwrite]
    have hleases : ∀ row, RowLeased s row → RowLeased (s.commit p s.tables result) row := by
      intro row hleased
      refine ⟨by rw [hclaims]; exact hleased.counted, ?_⟩
      rw [ExportSystem.latestClaim, hclaims]
      exact hleased.held
    exact ⟨haudited, h.creations, fun id row hrow => hleases row (h.leases id row hrow),
      by rw [hclaims]; exact h.unclaimed, hpending, hstored⟩
  | @created request publication job audit hwrite hbuilt hcommand hnone hstate hattempt hjobs =>
    have hclaims : (s.commit p tables result).claims = s.claims := by
      simp [ExportSystem.commit, PendingWrite.claims, hwrite]
    have hleases : ∀ row, RowLeased s row → RowLeased (s.commit p tables result) row := by
      intro row hleased
      refine ⟨by rw [hclaims]; exact hleased.counted, ?_⟩
      rw [ExportSystem.latestClaim, hclaims]
      exact hleased.held
    refine ⟨haudited, ?_, ?_, ?_, hpending, hstored⟩
    · intro row hrow
      have hrow : row ∈ tables.jobs := hrow
      rw [hjobs] at hrow
      rcases List.mem_append.mp hrow with hrow | hrow
      · exact h.creations row hrow
      · rw [List.mem_singleton.mp hrow]
    · intro id row hrow
      have hrow : findJob tables.jobs id = some row := hrow
      rw [hjobs, findJob_append] at hrow
      rcases Option.or_eq_some_iff.mp hrow with hrow | ⟨-, hrow⟩
      · exact hleases row (h.leases id row hrow)
      · have hnew : job.exportJobId = id ∧ (⟨job, job, 0, none⟩ : ExportJobRow) = row := by
          simpa using hrow
        obtain ⟨rfl, rfl⟩ := hnew
        refine ⟨?_, ?_⟩
        · rw [hclaims]
          intro claim hclaim hjob
          exact absurd hjob (h.unclaimed _ hnone claim hclaim)
        · intro hexporting
          have hexporting : job.state = .exporting := hexporting
          rw [hstate] at hexporting
          cases hexporting
    · intro id hid
      have hid : findJob tables.jobs id = none := hid
      rw [hjobs, findJob_append, Option.or_eq_none_iff] at hid
      rw [hclaims]
      exact h.unclaimed id hid.1
  | @transitioned row call w audit receipt hwrite hcalls hid hbuilt hclient hrow hswapped hjobs =>
    have hcandidate : w.candidate.exportJobId = w.exportJobId := by
      rw [hbuilt.candidateId, hid, hbuilt.exportJobId]
    have hrowId : row.document.exportJobId = w.exportJobId := by rw [hid, hbuilt.exportJobId]
    rw [← hbuilt.exportJobId] at hjobs hrow
    have hput := @findJob_putJob s.tables.jobs w.exportJobId
    have hother : ∀ id, id ≠ w.exportJobId → ∀ claim ∈ p.claims, claim.exportJobId ≠ id := by
      intro id hne claim hclaim
      simp only [PendingWrite.claims, hwrite] at hclaim
      split at hclaim
      · rw [List.mem_singleton.mp hclaim]
        exact hne.symm
      · cases hclaim
    refine ⟨haudited, ?_, ?_, ?_, hpending, hstored⟩
    · intro stored hstored
      have hstored : stored ∈ tables.jobs := hstored
      rw [hjobs] at hstored
      obtain ⟨before, hbefore, hsame⟩ := List.mem_map.mp hstored
      split at hsame
      · subst hsame
        show row.creation.exportJobId = w.candidate.exportJobId
        rw [h.creations row (List.mem_of_find?_eq_some hrow), hbuilt.candidateId]
      · subst hsame
        exact h.creations _ hbefore
    · intro id stored hstored
      have hstored : findJob tables.jobs id = some stored := hstored
      rw [hjobs, hput (by exact hcandidate)] at hstored
      by_cases hsame : id = w.exportJobId
      · rw [if_pos hsame, hrow] at hstored
        obtain rfl := Option.some.inj hstored
        exact transitioned_leased (h.leases _ row hrow) hwrite hswapped hrowId hcandidate rfl
      · rw [if_neg hsame] at hstored
        have hstoredId := findJob_id hstored
        obtain ⟨hcounted, hheld⟩ := h.leases id stored hstored
        refine ⟨?_, ?_⟩
        · intro claim hclaim hjob
          rcases List.mem_append.mp hclaim with hclaim | hclaim
          · exact absurd (hjob.trans hstoredId) (hother id hsame claim hclaim)
          · exact hcounted claim hclaim hjob
        · intro hexporting
          rw [← hheld hexporting, ExportSystem.latestClaim, ExportSystem.latestClaim,
            ExportSystem.commit, List.find?_append, Option.or_eq_right_of_none]
          rw [List.find?_eq_none, hstoredId]
          intro claim hclaim
          simpa using hother id hsame claim hclaim
    · intro id hnone
      have hnone : findJob tables.jobs id = none := hnone
      rw [hjobs, hput (by exact hcandidate)] at hnone
      by_cases hsame : id = w.exportJobId
      · rw [if_pos hsame, hrow] at hnone
        cases hnone
      · rw [if_neg hsame] at hnone
        intro claim hclaim
        rcases List.mem_append.mp hclaim with hclaim | hclaim
        · exact hother id hsame claim hclaim
        · exact h.unclaimed id hnone claim hclaim
  | @beaten row w expiry occurredAtUtc hwrite hcommand hrow hbeaten hcandidate hjobs haudits =>
    have hclaims : (s.commit p tables result).claims = s.claims := by
      simp [ExportSystem.commit, PendingWrite.claims, hwrite]
    have hrowId := findJob_id hrow
    have hsameId : w.candidate.exportJobId = w.exportJobId := by
      rw [hcandidate]
      exact hrowId
    refine ⟨haudited, ?_, ?_, ?_, hpending, hstored⟩
    · intro stored hstored
      have hstored : stored ∈ tables.jobs := hstored
      rw [hjobs] at hstored
      obtain ⟨before, hbefore, hsame⟩ := List.mem_map.mp hstored
      split at hsame
      · subst hsame
        show row.creation.exportJobId = w.candidate.exportJobId
        rw [h.creations row (List.mem_of_find?_eq_some hrow), hsameId, hrowId]
      · subst hsame
        exact h.creations _ hbefore
    · intro id stored hstored
      have hstored : findJob tables.jobs id = some stored := hstored
      rw [hjobs, findJob_putJob (by exact hsameId)] at hstored
      have hleased : RowLeased s stored := by
        by_cases hsame : id = w.exportJobId
        · rw [if_pos hsame, hrow] at hstored
          obtain rfl := Option.some.inj hstored
          obtain ⟨hcounted, hheld⟩ := h.leases _ row hrow
          exact ⟨by rw [hcandidate]; exact hcounted, by rw [hcandidate]; exact hheld⟩
        · rw [if_neg hsame] at hstored
          exact h.leases id stored hstored
      refine ⟨by rw [hclaims]; exact hleased.counted, ?_⟩
      rw [ExportSystem.latestClaim, hclaims]
      exact hleased.held
    · intro id hnone
      have hnone : findJob tables.jobs id = none := hnone
      rw [hjobs, findJob_putJob (by exact hsameId)] at hnone
      rw [hclaims]
      by_cases hsame : id = w.exportJobId
      · rw [if_pos hsame, hrow] at hnone
        cases hnone
      · rw [if_neg hsame] at hnone
        exact h.unclaimed id hnone

/-- What a read hands to its transaction, as the invariant wants it. -/
theorem read_past {tables : ExportTables} {ctx : ExportJobContext} {command : ExportCommand}
    {write : ExportWrite}
    (h : tables.prepare otherDocument ctx command = .ok (.write write)) :
    ∃ read, Built command write read ∧ ∀ row ∈ read, Past tables row write := by
  obtain ⟨read, hbuilt, hrow, hfree⟩ := prepare_write h
  refine ⟨read, hbuilt, ?_⟩
  intro row hread
  refine ⟨row, hrow row hread, le_refl _, ?_⟩
  intro _
  refine ⟨rfl, ?_⟩
  intro event hevent hmem
  exact findAudit_mem hmem (hfree event hevent)

theorem ExportInv.initial : ExportInv .initial where
  audited := ⟨List.nodup_nil, by simp [ExportSystem.initial, findJob], fun _ _ => rfl⟩
  creations := by simp [ExportSystem.initial]
  leases := by simp [ExportSystem.initial, ExportSystem.job, findJob]
  unclaimed := by simp [ExportSystem.initial]
  pending := by simp [ExportSystem.initial]
  stored := by simp [ExportSystem.initial]

theorem ExportInv.effect {p : PendingWrite} {tables : ExportTables}
    {result : ExportJobServiceResult} (h : ExportInv s) (hp : p ∈ s.pending)
    (hcommit : s.tables.commit p.write = .ok (tables, result)) :
    Effect s.tables p tables result := by
  obtain ⟨read, hbuilt, hpast⟩ := h.pending p hp
  exact commit_effect h.audited h.creations hbuilt hpast hcommit

/-- Every step keeps the invariant. -/
theorem inv_step {event : ExportEvent} (h : ExportInv s)
    (hstep : ExportStep otherDocument s event s') : ExportInv s' := by
  have hsame : ∀ tables : ExportTables, Grows tables tables := by
    intro tables
    exact Grows.of_audits rfl (List.append_nil _).symm (by simp)
  have hdrop : ∀ p, ExportInv (s.drop p) := by
    intro p
    refine h.quiet h.audited (hsame _) rfl rfl rfl ?_
    intro q hq
    exact .inl (List.mem_of_mem_erase hq)
  cases hstep with
  | scheduled =>
    refine h.quiet ⟨h.audited.ids, h.audited.audited, h.audited.unaudited⟩ ?_ rfl rfl rfl
      fun p hp => .inl hp
    exact Grows.of_audits rfl (List.append_nil _).symm (by simp)
  | recorded hfresh =>
    refine h.quiet (h.audited.append rfl rfl hfresh fun _ => rfl) ?_ rfl rfl rfl
      fun p hp => .inl hp
    exact Grows.of_audits rfl rfl (by simp)
  | read hread =>
    refine h.quiet h.audited (hsame _) rfl rfl rfl ?_
    intro p hp
    rcases List.mem_cons.mp hp with rfl | hp
    · exact .inr (read_past hread)
    · exact .inl hp
  | replayed => exact h
  | @refused command ctx error hrefused =>
    obtain ⟨haudited, hgrows⟩ := refused_audited h.audited ctx command
    exact h.quiet haudited hgrows rfl rfl rfl fun p hp => .inl hp
  | committed hp hcommit => exact h.commit (h.effect hp hcommit)
  | rejected => exact hdrop _
  | crashed => exact hdrop _

/-! ### What a step does to the lifecycle -/

/-- A step that stores nothing and records no transition. -/
theorem Lifecycle.quiet {event : ExportEvent} (hevent : ∀ p result, event ≠ .committed p result)
    (hjobs : s'.tables.jobs = s.tables.jobs) (hstored : s'.stored = s.stored)
    (haudits : ∀ id, transitionAudits s'.tables.audits id = transitionAudits s.tables.audits id)
    (hrejected : IsRejection event → s'.tables = s.tables ∨
      ∃ request publication ctx error,
        event = .answered (.create request publication) ctx (.error error) ∧
        s'.tables = { s.tables with
          audits := s.tables.audits ++ [.ofEvent (denialAudit request ctx request.identity)] }) :
    Lifecycle s event s' := by
  have hjob : ∀ id, s'.job id = s.job id := by
    intro id
    rw [ExportSystem.job, ExportSystem.job, hjobs]
  refine ⟨?_, ?_, ?_, ?_, ?_, hrejected, ?_, ?_⟩
  · intro p result id owner expiry command hcommitted
    exact absurd hcommitted (hevent p result)
  · intro id lease huses
    cases huses with
    | heartbeat | complete | fail => exact absurd rfl (hevent _ _)
  · intro id row hrow _
    rw [hjob, hrow]
  · intro id row' hrow' _
    rw [hjob] at hrow'
    exact .inl hrow'
  · intro id
    exact .inl ⟨haudits id, by rw [hjob]⟩
  · intro command hcommand
    rw [hstored] at hcommand
    exact absurd hcommand.symm (List.cons_ne_self _ _)
  · intro _ id
    rw [hjob]

/-- No transition leaves a terminal state. -/
theorem legal_not_terminal {current next : ExportJobState}
    (h : (current, next) ∈ exportJobTransitions) : ¬current.Terminal := by
  revert h
  cases current <;> cases next <;> decide

/-- Only a job that is being exported becomes exported or has failed. -/
theorem legal_from_exporting {current next : ExportJobState}
    (h : (current, next) ∈ exportJobTransitions) (hnext : next = .exported ∨ next = .exportFailed) :
    current = .exporting := by
  revert h hnext
  cases current <;> cases next <;> decide

/-- What a transition does to the rows. -/
theorem transitioned_job {row row' : ExportJobRow} {jobs jobs' : List ExportJobRow} {jobId : String}
    (hrow : findJob jobs jobId = some row) (hid : row'.document.exportJobId = jobId)
    (hjobs : jobs' = putJob jobs jobId row') (id : String) :
    findJob jobs' id = if id = jobId then some row' else findJob jobs id := by
  rw [hjobs, findJob_putJob hid, hrow]
  rfl

theorem committed_not_rejection {p : PendingWrite} {result : ExportJobServiceResult} :
    ¬IsRejection (.committed p result) := by
  intro h
  cases h

/-- A submission that stores something has not stored anything before. -/
theorem ExportInv.resubmitted {p : PendingWrite} {tables : ExportTables}
    {result : ExportJobServiceResult} (h : ExportInv s)
    (heffect : Effect s.tables p tables result) {command : ExportCommand}
    (hstored : (s.commit p tables result).stored = command :: s.stored) :
    ∀ submission ∈ command.submission, ∀ earlier ∈ s.stored,
      earlier.submission ≠ some submission := by
  intro submission hsubmission earlier hearlier hsame
  have hstored : p.stores result ++ s.stored = [command] ++ s.stored := hstored
  have hstores := List.append_cancel_right hstored
  have hcommand : command = p.command := by
    have hmem : command ∈ p.stores result := by rw [hstores]; exact List.mem_singleton_self _
    exact PendingWrite.stores_mem hmem
  subst hcommand
  have hfresh := heffect.known (by rw [hstores]; exact List.mem_singleton_self _) submission
    hsubmission
  exact hfresh.1 (h.stored earlier hearlier submission hsame)

theorem lifecycle_repeated {p : PendingWrite} {result : ExportJobServiceResult}
    {request : ExportJobRequest} {publication : Json} (h : ExportInv s)
    (heffect : Effect s.tables p s.tables result)
    (hcommand : p.command = .create request publication) :
    Lifecycle s (.committed p result) (s.commit p s.tables result) := by
  refine ⟨?_, ?_, fun _ _ hrow _ => hrow, fun _ _ hrow _ => .inl hrow, fun _ => .inl ⟨rfl, rfl⟩,
    fun h => absurd h committed_not_rejection, fun _ => h.resubmitted heffect, fun _ _ => rfl⟩
  · intro q result' id owner expiry command hevent hclaim
    obtain ⟨rfl, -⟩ := ExportEvent.committed.inj hevent
    rw [hcommand] at hclaim
    cases hclaim
  · intro id lease huses
    cases huses with
    | heartbeat h | complete h | fail h =>
      rw [hcommand] at h
      cases h

theorem lifecycle_created {p : PendingWrite} {tables : ExportTables}
    {result : ExportJobServiceResult} {request : ExportJobRequest} {publication : Json}
    {job : ExportJob} {audit : AuditEvent} (h : ExportInv s)
    (heffect : Effect s.tables p tables result)
    (hwrite : p.write = .create request.identity job audit)
    (hbuilt : Built (.create request publication) (.create request.identity job audit) none)
    (hcommand : p.command = .create request publication)
    (hnone : findJob s.tables.jobs job.exportJobId = none) (hstate : job.state = .created)
    (hjobs : tables.jobs = s.tables.jobs ++ [⟨job, job, 0, none⟩])
    (haudits : tables.audits = s.tables.audits ++ [.ofEvent audit])
    (hreplay : result.exactReplay = false) :
    Lifecycle s (.committed p result) (s.commit p tables result) := by
  have hstores : p.stores result = [p.command] := by simp [PendingWrite.stores, hwrite, hreplay]
  have hjob : ∀ id, (s.commit p tables result).job id =
      (s.job id).or (if job.exportJobId = id then some ⟨job, job, 0, none⟩ else none) := by
    intro id
    show findJob tables.jobs id = _
    rw [hjobs, findJob_append]
    rfl
  refine ⟨?_, ?_, ?_, ?_, ?_, fun h => absurd h committed_not_rejection,
    fun _ => h.resubmitted heffect, ?_⟩
  · intro q result' id owner expiry command hevent hclaim
    obtain ⟨rfl, -⟩ := ExportEvent.committed.inj hevent
    rw [hcommand] at hclaim
    cases hclaim
  · intro id lease huses
    cases huses with
    | heartbeat h | complete h | fail h =>
      rw [hcommand] at h
      cases h
  · intro id row hrow _
    rw [hjob, hrow]
    rfl
  · intro id row' hrow' hexported
    rw [hjob] at hrow'
    rcases Option.or_eq_some_iff.mp hrow' with hrow' | ⟨-, hrow'⟩
    · exact .inl hrow'
    · have hnew : job.exportJobId = id ∧ (⟨job, job, 0, none⟩ : ExportJobRow) = row' := by
        simpa using hrow'
      obtain ⟨-, rfl⟩ := hnew
      have hexported : job.state = .exported := hexported
      rw [hstate] at hexported
      cases hexported
  · intro id
    cases hbuilt with
    | create hid hlatest haudit haggregate hbefore hafter =>
      by_cases hsame : job.exportJobId = id
      · have hbeforeJob : s.job id = none := hsame ▸ hnone
        have hrecords : audit.RecordsTransition := ⟨by simp [hafter], .inl hbefore⟩
        refine .inr ⟨audit, ⟨job, job, 0, none⟩, ?_, ?_, ?_, ?_⟩
        · show transitionAudits tables.audits id = _
          rw [haudits, transitionAudits_event (haggregate.trans hsame) hrecords]
        · rw [hjob, hbeforeJob, if_pos hsame]
          rfl
        · rw [hbeforeJob, hbefore]
          rfl
        · rw [hafter, ← hstate]
      · have hother : ¬audit.aggregateId = id := fun h => hsame (haggregate.symm.trans h)
        refine .inl ⟨?_, ?_⟩
        · show transitionAudits tables.audits id = _
          rw [haudits]
          apply transitionAudits_other
          simp [AuditRow.transitionOf, hother]
        · rw [hjob, if_neg hsame, Option.or_none]
  · intro hstored
    have hstored : p.stores result ++ s.stored = s.stored := hstored
    rw [hstores] at hstored
    exact absurd hstored (List.cons_ne_self _ _)

/-- Only a completion asks for an exported job. -/
theorem Calls.exported {command : ExportCommand} {row : ExportJobRow} {call : TransitionCall}
    (h : command.Calls row call) (htarget : call.targetState = .exported) :
    ∃ lease manifest, command = .complete call.exportJobId lease manifest := by
  cases command with
  | claim =>
    obtain ⟨lease, rfl⟩ := h
    cases htarget
  | complete id lease manifest =>
    obtain rfl := h
    exact ⟨lease, manifest, rfl⟩
  | fail | cancel =>
    obtain rfl := h
    cases htarget
  | create | heartbeat => exact h.elim

theorem lifecycle_transitioned {p : PendingWrite} {tables : ExportTables}
    {result : ExportJobServiceResult} {row : ExportJobRow} {call : TransitionCall}
    {w : TransitionWrite} {audit : AuditEvent} {receipt : Option AuditEvent} (h : ExportInv s)
    (heffect : Effect s.tables p tables result)
    (hwrite : p.write = .transition w audit receipt) (hcalls : p.command.Calls row call)
    (hid : row.document.exportJobId = call.exportJobId)
    (hbuilt : TransitionBuilt row call w audit receipt)
    (hrow : findJob s.tables.jobs call.exportJobId = some row) (hswapped : Swapped row w)
    (hjobs : tables.jobs = putJob s.tables.jobs call.exportJobId
      { row with
        document := w.candidate
        stateRevision := row.stateRevision + 1
        leaseExpiresAtUtc := w.leaseExpiresAtUtc })
    (haudits : tables.audits =
      (s.tables.audits ++ [.ofEvent audit]) ++ receipt.toList.map .ofEvent)
    (hreplay : result.exactReplay = false) :
    Lifecycle s (.committed p result) (s.commit p tables result) := by
  have hstores : p.stores result = [p.command] := by simp [PendingWrite.stores, hwrite, hreplay]
  have hjob : ∀ id, (s.commit p tables result).job id = _ :=
    transitioned_job hrow (hbuilt.candidateId.trans hid) hjobs
  have hleased := h.leases _ row hrow
  have hheld : w.candidate.state = .exported ∨ w.candidate.state = .exportFailed →
      ∃ claim, s.latestClaim call.exportJobId = some claim ∧
        claim.leaseReference = call.expectedLeaseReference := by
    intro htarget
    have hexporting := legal_from_exporting hswapped.legal htarget
    refine ⟨_, hid ▸ hleased.held hexporting, ?_⟩
    exact (hswapped.leased hexporting).2.trans hbuilt.expectedLease
  refine ⟨?_, ?_, ?_, ?_, ?_, fun h => absurd h committed_not_rejection,
    fun _ => h.resubmitted heffect, ?_⟩
  · intro q result' id owner expiry command hevent hclaim
    obtain ⟨rfl, -⟩ := ExportEvent.committed.inj hevent
    rw [hclaim] at hcalls
    obtain ⟨lease, rfl⟩ := hcalls
    have hattempt : w.candidate.attempt = row.document.attempt + 1 := hbuilt.attempt
    refine ⟨row, _, hrow, (hjob id).trans (if_pos rfl), hattempt, ?_, ?_⟩
    · intro claim hmem hclaimed
      have hcounted := hleased.counted claim hmem (hclaimed.trans hid.symm)
      show claim.attempt < w.candidate.attempt
      omega
    · have hstate : w.candidate.state = .exporting := hbuilt.target
      have hclaims : p.claims =
          [⟨w.exportJobId, w.candidate.attempt, w.candidate.leaseReference⟩] := by
        simp [PendingWrite.claims, hwrite, hstate]
      have hjobId : w.exportJobId = id := hbuilt.exportJobId
      rw [ExportSystem.latestClaim, ExportSystem.commit, hclaims, hjobId]
      simp
  · intro id lease huses
    cases huses with
    | heartbeat hcommand =>
      rw [hcommand] at hcalls
      exact hcalls.elim
    | complete hcommand =>
      rw [hcommand] at hcalls
      obtain rfl := hcalls
      exact hheld (.inl hbuilt.target)
    | fail hcommand =>
      rw [hcommand] at hcalls
      obtain rfl := hcalls
      exact hheld (.inr hbuilt.target)
  · intro id stored hstored hterminal
    rw [hjob]
    by_cases hsame : id = call.exportJobId
    · subst hsame
      obtain rfl := Option.some.inj (hrow.symm.trans hstored)
      exact absurd hterminal (legal_not_terminal hswapped.legal)
    · rw [if_neg hsame]
      exact hstored
  · intro id row' hrow' hexported
    rw [hjob] at hrow'
    by_cases hsame : id = call.exportJobId
    · rw [if_pos hsame] at hrow'
      obtain rfl := Option.some.inj hrow'
      have hexported : w.candidate.state = .exported := hexported
      obtain ⟨lease, manifest, hcommand⟩ := Calls.exported hcalls (hbuilt.target ▸ hexported)
      exact .inr ⟨p, result, lease, manifest, rfl, hsame ▸ hcommand⟩
    · rw [if_neg hsame] at hrow'
      exact .inl hrow'
  · intro id
    have hchain := @transitioned_audits s.tables.audits _ _ _ _ _ hbuilt id
    rw [← haudits, hid] at hchain
    by_cases hsame : id = call.exportJobId
    · rw [if_pos hsame] at hchain
      have hbefore : s.job id = some row := hsame ▸ hrow
      exact .inr ⟨audit, _, hchain, (hjob id).trans (if_pos hsame), by rw [hbefore, hbuilt.before]; rfl,
        hbuilt.after⟩
    · rw [if_neg hsame] at hchain
      exact .inl ⟨hchain, by rw [hjob, if_neg hsame]; rfl⟩
  · intro hstored
    have hstored : p.stores result ++ s.stored = s.stored := hstored
    rw [hstores] at hstored
    exact absurd hstored (List.cons_ne_self _ _)

theorem lifecycle_beaten {p : PendingWrite} {tables : ExportTables}
    {result : ExportJobServiceResult} {row : ExportJobRow} {w : HeartbeatWrite} {expiry : Datetime}
    {occurredAtUtc : String} (h : ExportInv s) (heffect : Effect s.tables p tables result)
    (hcommand : p.command = .heartbeat w.exportJobId w.expectedLeaseReference expiry)
    (hrow : findJob s.tables.jobs w.exportJobId = some row) (hbeaten : Beaten row w)
    (hcandidate : w.candidate = row.document.beaten occurredAtUtc)
    (hjobs : tables.jobs = putJob s.tables.jobs w.exportJobId
      { row with
        document := w.candidate
        stateRevision := row.stateRevision + 1
        leaseExpiresAtUtc := some w.leaseExpiresAtUtc })
    (haudits : tables.audits = s.tables.audits) :
    Lifecycle s (.committed p result) (s.commit p tables result) := by
  have hid := findJob_id hrow
  have hcandidateId : w.candidate.exportJobId = w.exportJobId := by
    rw [hcandidate]
    exact hid
  have hjob : ∀ id, (s.commit p tables result).job id = _ :=
    transitioned_job hrow hcandidateId hjobs
  have hstates : ∀ id, ((s.commit p tables result).job id).map (fun row => row.document.state) =
      (s.job id).map fun row => row.document.state := by
    intro id
    rw [hjob]
    by_cases hsame : id = w.exportJobId
    · have hbefore : s.job id = some row := hsame ▸ hrow
      rw [if_pos hsame, hbefore, Option.map_some, Option.map_some, hbeaten.state.1]
      exact congrArg some hbeaten.state.2
    · rw [if_neg hsame]
      rfl
  refine ⟨?_, ?_, ?_, ?_, ?_, fun h => absurd h committed_not_rejection,
    fun _ => h.resubmitted heffect, fun _ => hstates⟩
  · intro q result' id owner expiry command hevent hclaim
    obtain ⟨rfl, -⟩ := ExportEvent.committed.inj hevent
    rw [hcommand] at hclaim
    cases hclaim
  · intro id lease huses
    have hheld := (h.leases _ row hrow).held hbeaten.state.1
    rw [hid] at hheld
    cases huses with
    | heartbeat hbeat =>
      rw [hcommand] at hbeat
      obtain ⟨rfl, rfl, -⟩ := ExportCommand.heartbeat.inj hbeat
      exact ⟨_, hheld, hbeaten.lease.1⟩
    | complete hbeat | fail hbeat =>
      rw [hcommand] at hbeat
      cases hbeat
  · intro id stored hstored hterminal
    rw [hjob]
    by_cases hsame : id = w.exportJobId
    · subst hsame
      obtain rfl := Option.some.inj (hrow.symm.trans hstored)
      rw [hbeaten.state.1] at hterminal
      exact absurd hterminal (by decide)
    · rw [if_neg hsame]
      exact hstored
  · intro id row' hrow' hexported
    rw [hjob] at hrow'
    by_cases hsame : id = w.exportJobId
    · rw [if_pos hsame] at hrow'
      obtain rfl := Option.some.inj hrow'
      cases hbeaten.state.2.symm.trans hexported
    · rw [if_neg hsame] at hrow'
      exact .inl hrow'
  · intro id
    exact .inl ⟨by rw [ExportSystem.commit, haudits], hstates id⟩

/-- Every step keeps to the lifecycle. -/
theorem lifecycle_step {event : ExportEvent} (h : ExportInv s)
    (hstep : ExportStep otherDocument s event s') : Lifecycle s event s' := by
  cases hstep with
  | scheduled =>
    refine .quiet (by simp) rfl rfl (fun _ => rfl) ?_
    intro hrejection
    cases hrejection
  | recorded hfresh =>
    refine .quiet (by simp) rfl rfl (fun _ => transitionAudits_other rfl) ?_
    intro hrejection
    cases hrejection
  | read hread =>
    refine .quiet (by simp) rfl rfl (fun _ => rfl) ?_
    intro hrejection
    cases hrejection
  | replayed => exact .quiet (by simp) rfl rfl (fun _ => rfl) fun _ => .inl rfl
  | @refused command ctx error hrefused =>
    rcases auditsRefused_cases s.tables ctx command with
      hsame | ⟨request, publication, rfl, hadded, hfresh⟩
    · rw [hsame]
      exact .quiet (by simp) rfl rfl (fun _ => rfl) fun _ => .inl rfl
    · rw [hadded]
      refine .quiet (by simp) rfl rfl ?_ fun _ => .inr ⟨request, publication, ctx, error, rfl, rfl⟩
      intro id
      exact transitionAudits_other (denialAudit_transitionOf ..)
  | committed hp hcommit =>
    have heffect := h.effect hp hcommit
    cases heffect with
    | repeated hwrite hcommand htables hreplay =>
      subst htables
      exact lifecycle_repeated h (.repeated hwrite hcommand rfl hreplay) hcommand
    | created hwrite hbuilt hcommand hnone hstate hattempt hjobs haudits hfresh hreplay =>
      exact lifecycle_created h (h.effect hp hcommit) hwrite hbuilt hcommand hnone hstate hjobs
        haudits hreplay
    | transitioned hwrite hcalls hid hbuilt hclient hrow hswapped hjobs haudits hfresh hreceipt
        hreplay =>
      exact lifecycle_transitioned h (h.effect hp hcommit) hwrite hcalls hid hbuilt hrow hswapped
        hjobs haudits hreplay
    | beaten hwrite hcommand hrow hbeaten hcandidate hjobs haudits =>
      exact lifecycle_beaten h (h.effect hp hcommit) hcommand hrow hbeaten hcandidate hjobs haudits
  | rejected => exact .quiet (by simp) rfl rfl (fun _ => rfl) fun _ => .inl rfl
  | crashed =>
    refine .quiet (by simp) rfl rfl (fun _ => rfl) ?_
    intro hrejection
    cases hrejection

end

/-! ### A creation without authorization

The caller is not authenticated. The creation is refused, and the refusal is recorded under the
identity of the job that was not created. -/

def deniedRequest : ExportJobRequest :=
  { scheduleVersionId := "schedule-version-1"
    expectedContentFingerprint :=
      "sha256:0000000000000000000000000000000000000000000000000000000000000000"
    rawIdempotencyKey := "export-request-0001"
    reason := "Export of the published schedule."
    correlationId := "correlation-1"
    environment := "TEST"
    syntheticProvenance := .obj [("fixture_id", .str "fixture-1")]
    dataPlane := "SIMULATION"
    target := "SIMULATION_INTERNAL"
    changeReportReference := none }

def deniedContext : ExportJobContext :=
  { actorRef := "actor:planner-1"
    authenticated := false
    resolvedCapabilities := ["export"]
    scheduleVersionScope := ["schedule-version-1"]
    exportJobScope := []
    authPolicyVersion := "auth-policy.v1"
    productionBinding := false
    occurredAtUtc := "2026-01-05T08:00:00Z"
    codeCommit := "uncommitted" }

def deniedEvent : AuditEvent := denialAudit deniedRequest deniedContext deniedRequest.identity

/-- The system after the refusal. -/
def deniedSystem : ExportSystem :=
  { ExportSystem.initial with tables := ⟨[], [.ofEvent deniedEvent], fun _ => none⟩ }

theorem denied_refused :
    requireExportAuthorization deniedRequest deniedContext =
        .error (.job .authorizationDenied "authorization") ∧
      requireAuditDocument deniedEvent = .ok () := by
  decide +kernel

theorem denied_append : appendAudit [] deniedEvent = .ok [.ofEvent deniedEvent] := by
  have hcandidate : checkAuditCandidate deniedEvent = .ok () := by
    simp only [checkAuditCandidate, denied_refused.2, requireText]
    rfl
  simp only [appendAudit, hcandidate]
  rfl

theorem denied_audits :
    ExportSystem.initial.tables.auditsRefused deniedContext (.create deniedRequest .null) =
      [.ofEvent deniedEvent] := by
  have hevent : denialAudit deniedRequest deniedContext deniedRequest.identity = deniedEvent := rfl
  have hempty : ExportSystem.initial.tables.audits = [] := rfl
  simp only [ExportTables.auditsRefused, denialAudits, denied_refused.1, hevent, hempty,
    denied_append, denied_refused.2, and_true]
  rfl

theorem denied_step {otherDocument : String → Json → Except P4ContractError Unit} :
    ExportStep otherDocument .initial
      (.answered (.create deniedRequest .null) deniedContext
        (.error (.job .authorizationDenied "authorization"))) deniedSystem := by
  have hprepare : ExportSystem.initial.tables.prepare otherDocument deniedContext
      (.create deniedRequest .null) = .error (.job .authorizationDenied "authorization") := by
    have hevent : denialAudit deniedRequest deniedContext deniedRequest.identity = deniedEvent :=
      rfl
    simp only [ExportTables.prepare, prepareCreate, denied_refused.1, hevent, denied_refused.2]
    rfl
  have hstep := ExportStep.refused hprepare
  rw [denied_audits] at hstep
  exact hstep

end PlantNexus.Exports
