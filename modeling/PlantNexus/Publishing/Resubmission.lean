import PlantNexus.Publishing.Replay

/-! Every later submission of a published command.

A success leaves evidence (`Published.recorded`), a replay that succeeds has read it, and no step
removes it. So whenever a call begins after a success of its own command was answered, its reads
find that evidence, in any order of the steps of the other clients and services. -/
namespace PlantNexus.Publishing
open Data Domain

section
variable {otherDocument : String → Json → Except P4ContractError Unit} {tables : PublicationTables}
  {call : PublicationCall}

/-! ### What a call reads -/

/-- The versions that a call has read are the stored ones. -/
theorem ReadStep.stored {phase : ReadPhase} {next : PublicationPhase}
    (h : ReadStep otherDocument tables call phase next)
    (hold : ReadsStored tables.schedules call (.reading phase)) :
    ReadsStored tables.schedules call next := by
  cases h with
  | denied => trivial
  | absent => trivial
  | recorded => trivial
  | superseding => trivial
  | source hread => exact getRecord_stored hread
  | current _ => exact hold
  | @first source w hsource hcurrent _ =>
    subst hsource
    refine ⟨hold, ?_⟩
    intro current previous hsome
    rw [hcurrent] at hsome
    cases hsome
  | @previous source previous current w hread hsource hprevious hcurrent _ =>
    subst hsource
    refine ⟨hold, ?_⟩
    intro current' previous' hcurrent' hprevious'
    rw [hcurrent, Option.some.injEq] at hcurrent'
    rw [hprevious, Option.some.injEq] at hprevious'
    rw [← hcurrent', ← hprevious']
    exact getRecord_stored hread

theorem advance_stored {phase next : PublicationPhase} {tables' : PublicationTables}
    (hidentity : publicationIdentity call.command "SIMULATION" = .ok call.identity)
    (hold : ReadsStored tables.schedules call phase)
    (h : call.advance otherDocument tables phase = (tables', .next next)) :
    ReadsStored tables'.schedules call next := by
  rcases advance_next hidentity h with ⟨read, rfl, rfl, hread⟩ | ⟨raced, rfl⟩
  · exact hread.stored hold
  · trivial

/-- A repository call takes one step of the evidence. -/
theorem advance_step {phase : PublicationPhase} {tables' : PublicationTables} {progress : Progress}
    (hprepared : ∀ w, phase = .committing w → Prepared otherDocument call w)
    (hreads : ReadsStored tables.schedules call phase)
    (h : call.advance otherDocument tables phase = (tables', progress)) :
    TablesStep otherDocument tables tables' := by
  rcases advance_tables h with rfl | ⟨audit, audits, hwrite, rfl⟩ | ⟨w, rfl, hwrite⟩
  · exact .refl _
  · exact .appended hwrite
  · exact .published (hprepared w rfl) (publish_ok hwrite) hreads

/-! ### What a replay has read -/

/-- What the phases of a replay stand on. -/
def ReplayRecords (otherDocument : String → Json → Except P4ContractError Unit)
    (tables : PublicationTables) (call : PublicationCall) : PublicationPhase → Prop
  | .reading (.replaying audit) => AuditRecords tables call audit
  | .reading (.superseding audit) =>
    AuditRecords tables call audit ∧ ScheduleRecords otherDocument tables.schedules call audit ∧
      requestedPrevious call.command ≠ .null
  | _ => True

theorem ReplayRecords.step {tables' : PublicationTables} {phase : PublicationPhase}
    (h : ReplayRecords otherDocument tables call phase)
    (hstep : TablesStep otherDocument tables tables') :
    ReplayRecords otherDocument tables' call phase := by
  cases phase with
  | reading phase =>
    cases phase with
    | replaying audit => exact AuditRecords.step h hstep
    | superseding audit => exact ⟨h.1.step hstep, h.2.1.step hstep, h.2.2⟩
    | _ => trivial
  | _ => trivial

theorem getAudit_ok {auditEventId : String} {audit : Json}
    (h : getAudit tables.audits auditEventId = .ok (some audit)) :
    findAudit tables.audits (.str auditEventId) = some audit ∧
      canonicalDocument audit "audit-event.v1" = .ok () := by
  rw [getAudit] at h
  cases hfound : findAudit tables.audits (.str auditEventId) with
  | none =>
    rw [hfound] at h
    cases h
  | some stored =>
    simp only [hfound, bind_eq_ok, exists_unit_iff, mapError_eq_ok, pure, Except.pure,
      Except.ok.injEq, Option.some.injEq] at h
    obtain ⟨hloaded, rfl⟩ := h
    exact ⟨rfl, hloaded⟩

/-- A version that the service reads is the document of a row. -/
theorem getSchedule_ok {id : Json} {stored : Option Json}
    (h : getSchedule otherDocument tables id = .ok stored) :
    stored = none ∨ ∃ row, findSchedule tables.schedules id = some row ∧
      loadSchedule otherDocument row = .ok row.document ∧ stored = some row.document := by
  rw [getSchedule, getRecord] at h
  cases hfound : findSchedule tables.schedules id with
  | none =>
    rw [hfound] at h
    exact .inl (Except.ok.inj h).symm
  | some row =>
    simp only [hfound] at h
    cases hloaded : loadSchedule otherDocument row with
    | error error =>
      rw [hloaded] at h
      cases h
    | ok document =>
      obtain rfl := loadSchedule_document hloaded
      rw [hloaded] at h
      exact .inr ⟨row, rfl, hloaded, (Except.ok.inj h).symm⟩

theorem getSchedule_row {id : Json} {row : ScheduleRow}
    (hfound : findSchedule tables.schedules id = some row)
    (hloaded : loadSchedule otherDocument row = .ok row.document) :
    getSchedule otherDocument tables id = .ok (some row.document) := by
  simp only [getSchedule, getRecord, hfound]
  rw [hloaded]
  rfl

theorem replaying_records {audit : Json}
    (h : ∃ stored, getSchedule otherDocument tables (.str call.identity.scheduleVersionId) =
      .ok stored ∧ checkReplayedSchedule call.identity audit stored = .ok ()) :
    ScheduleRecords otherDocument tables.schedules call audit := by
  obtain ⟨stored, hread, hchecked⟩ := h
  rcases getSchedule_ok hread with rfl | ⟨row, hfound, hloaded, rfl⟩
  · cases hchecked
  · exact ⟨row, hfound, hloaded, hchecked⟩

theorem superseding_records {audit : Json}
    (h : ∃ stored, getSchedule otherDocument tables
      ((requestedPrevious call.command).get "schedule_version_id") = .ok stored ∧
        checkReplayedPrevious call.command audit stored = .ok ()) :
    PreviousRecords otherDocument tables.schedules call.command audit := by
  obtain ⟨stored, hread, hchecked⟩ := h
  rcases getSchedule_ok hread with rfl | ⟨row, hfound, hloaded, rfl⟩
  · cases hchecked
  · exact ⟨row, hfound, hloaded, hchecked⟩

theorem ReadStep.records {phase : ReadPhase} {next : PublicationPhase}
    (h : ReadStep otherDocument tables call phase next)
    (hold : ReplayRecords otherDocument tables call (.reading phase)) :
    ReplayRecords otherDocument tables call next := by
  cases h with
  | recorded hread hidentity hobject houtcome =>
    obtain ⟨hfound, hloaded⟩ := getAudit_ok hread
    exact ⟨hfound, hloaded, hidentity, hobject, houtcome⟩
  | superseding hread hchecked hrequested =>
    exact ⟨hold, replaying_records ⟨_, hread, hchecked⟩, hrequested⟩
  | _ => trivial

theorem advance_records {phase next : PublicationPhase} {tables' : PublicationTables}
    (hidentity : publicationIdentity call.command "SIMULATION" = .ok call.identity)
    (hold : ReplayRecords otherDocument tables call phase)
    (h : call.advance otherDocument tables phase = (tables', .next next)) :
    ReplayRecords otherDocument tables' call next := by
  rcases advance_next hidentity h with ⟨read, rfl, rfl, hread⟩ | ⟨raced, rfl⟩
  · exact hread.records hold
  · trivial

/-- A read that answers with a success has found the evidence of it. -/
theorem read_answer {phase : ReadPhase} {result : PublicationServiceResult}
    (hold : ReplayRecords otherDocument tables call (.reading phase))
    (h : call.read otherDocument tables phase = .ok (.answer (.ok result))) :
    ∃ audit, Recorded otherDocument tables call audit result := by
  cases phase with
  | denied error =>
    simp only [PublicationCall.read, bind_eq_ok, mapError_eq_ok] at h
    obtain ⟨audit, -, h⟩ := h
    cases audit <;> simp [PublicationCall.deniedLookedUp, bind_eq_ok, pure, Except.pure] at h
  | lookup raced =>
    simp only [PublicationCall.read, bind_eq_ok, mapError_eq_ok] at h
    obtain ⟨audit, -, h⟩ := h
    cases audit with
    | none => cases raced <;> simp [PublicationCall.lookedUp] at h
    | some audit => simp [PublicationCall.lookedUp, bind_eq_ok, pure, Except.pure] at h
  | replaying audit =>
    simp only [PublicationCall.read, bind_eq_ok, exists_unit_iff] at h
    obtain ⟨stored, hread, hchecked, h⟩ := h
    split at h
    · rename_i hnull
      have hreplayed := Progress.answer.inj (Except.ok.inj h)
      exact ⟨audit, hold, replaying_records ⟨stored, hread, hchecked⟩,
        fun hne => absurd hnull hne, result, hreplayed, rfl, rfl⟩
    · simp [pure, Except.pure] at h
  | superseding audit =>
    simp only [PublicationCall.read, bind_eq_ok, exists_unit_iff] at h
    obtain ⟨previous, hread, hchecked, h⟩ := h
    have hreplayed := Progress.answer.inj (Except.ok.inj h)
    exact ⟨audit, hold.1, hold.2.1, fun _ => superseding_records ⟨previous, hread, hchecked⟩,
      result, hreplayed, rfl, rfl⟩
  | source =>
    simp only [PublicationCall.read, bind_eq_ok, mapError_eq_ok] at h
    obtain ⟨source, -, h⟩ := h
    cases source <;> simp [pure, Except.pure] at h
  | current source =>
    simp only [PublicationCall.read] at h
    split at h <;> simp [PublicationCall.prepared, bind_eq_ok, pure, Except.pure] at h
  | previous source current =>
    simp only [PublicationCall.read, bind_eq_ok, mapError_eq_ok] at h
    obtain ⟨previous, -, h⟩ := h
    cases previous <;> simp [PublicationCall.prepared, bind_eq_ok, pure, Except.pure] at h

/-- **Every success has left its evidence**, whether the call has committed or has replayed. -/
theorem advance_answer {phase : PublicationPhase} {tables' : PublicationTables}
    {result : PublicationServiceResult}
    (hidentity : publicationIdentity call.command "SIMULATION" = .ok call.identity)
    (hprepared : ∀ w, phase = .committing w → Prepared otherDocument call w)
    (hstored : ReadsStored tables.schedules call phase)
    (hrecords : ReplayRecords otherDocument tables call phase)
    (h : call.advance otherDocument tables phase = (tables', .answer (.ok result))) :
    ∃ audit, Recorded otherDocument tables' call audit result := by
  cases phase with
  | reading phase =>
    obtain ⟨rfl, hanswer⟩ := Prod.mk.inj h
    refine read_answer hrecords ?_
    cases hread : call.read otherDocument tables phase with
    | error error =>
      rw [hread] at hanswer
      cases hanswer
    | ok progress =>
      rw [hread] at hanswer
      exact congrArg Except.ok hanswer
  | denying error audit =>
    simp only [PublicationCall.advance] at h
    split at h <;> cases (Prod.mk.inj h).2
  | committing w =>
    simp only [PublicationCall.advance] at h
    split at h
    · rename_i after hwrite
      obtain ⟨rfl, hanswer⟩ := Prod.mk.inj h
      obtain rfl := Except.ok.inj (Progress.answer.inj hanswer)
      exact ⟨_, Published.recorded (hprepared w rfl) hidentity (publish_ok hwrite) hstored⟩
    · rename_i error _
      have hfailed := (Prod.mk.inj h).2
      cases error with
      | persistence error =>
        simp only [commitFailed] at hfailed
        split at hfailed <;> cases hfailed
      | publication error => cases hfailed

/-! ### A call whose command has succeeded -/

/-- The repository calls that a replay still has to do; a phase that is no replay has none. -/
def replayCallsLeft : PublicationPhase → Nat
  | .reading (.lookup _) => 3
  | .reading (.replaying _) => 2
  | .reading (.superseding _) => 1
  | _ => 0

/-- The answer repeats some earlier results. -/
def Repeats (earlier : List PublicationServiceResult) (progress : Progress) : Prop :=
  ∃ result, progress = .answer (.ok result) ∧ result.exactReplay = true ∧
    result.currentChanged = false ∧ ∀ before ∈ earlier,
      result.publishedVersion = before.publishedVersion ∧
      result.supersededVersion = before.supersededVersion

/-- A step of a replay: the answer, or the next read. -/
def ReplayStep (earlier : List PublicationServiceResult) (phase : PublicationPhase)
    (progress : Progress) : Prop :=
  Repeats earlier progress ∨ ∃ next, progress = .next next ∧ 0 < replayCallsLeft next ∧
    replayCallsLeft next < replayCallsLeft phase

theorem AuditRecords.unique {audit audit' : Json} (h : AuditRecords tables call audit)
    (h' : AuditRecords tables call audit') : audit = audit' :=
  Option.some.inj (h.found.symm.trans h'.found)

theorem replayed_ok {audit : Json} {result : PublicationServiceResult}
    (h : call.replayed audit = .ok result) :
    result.exactReplay = true ∧ result.currentChanged = false := by
  simp only [PublicationCall.replayed, bind_eq_ok, pure, Except.pure, Except.ok.injEq] at h
  obtain ⟨_, -, rfl⟩ := h
  exact ⟨rfl, rfl⟩

theorem lookup_recorded {audit : Json} (raced : Option PublicationError)
    (h : AuditRecords tables call audit) :
    call.read otherDocument tables (.lookup raced) =
      .ok (.next (.reading (.replaying audit))) := by
  have hread : getAudit tables.audits call.identity.auditEventId = .ok (some audit) := by
    simp only [getAudit, h.found, h.loaded]
    rfl
  have houtcome : (audit.get "result").get "outcome" ≠ .str "DENIED" := by
    rw [h.outcome]
    decide
  have hlooked : call.lookedUp raced (some audit) =
      .ok (.next (.reading (.replaying audit))) := by
    simp only [PublicationCall.lookedUp, storedObject, bind_eq_ok, exists_unit_iff, require_eq_ok,
      pure, Except.pure, and_true]
    exact ⟨h.identity, _, ⟨h.isObj, rfl⟩, houtcome, h.outcome⟩
  simp only [PublicationCall.read, bind_eq_ok, mapError_eq_ok]
  exact ⟨some audit, hread, hlooked⟩

theorem replaying_recorded {audit : Json}
    (h : ScheduleRecords otherDocument tables.schedules call audit) :
    call.read otherDocument tables (.replaying audit) =
      .ok (if requestedPrevious call.command = .null then .answer (call.replayed audit)
        else .next (.reading (.superseding audit))) := by
  obtain ⟨row, hfound, hloaded, hchecked⟩ := h
  simp only [PublicationCall.read, bind_eq_ok, exists_unit_iff]
  refine ⟨some row.document, getSchedule_row hfound hloaded, hchecked, ?_⟩
  split <;> rfl

theorem superseding_recorded {audit : Json}
    (h : PreviousRecords otherDocument tables.schedules call.command audit) :
    call.read otherDocument tables (.superseding audit) =
      .ok (.answer (call.replayed audit)) := by
  obtain ⟨row, hfound, hloaded, hchecked⟩ := h
  simp only [PublicationCall.read, bind_eq_ok, exists_unit_iff]
  exact ⟨some row.document, getSchedule_row hfound hloaded, hchecked, rfl⟩

/-- The evidence of some results makes the next step of a replay. -/
theorem advance_replay {earlier : List PublicationServiceResult} {phase : PublicationPhase}
    (hearlier : ∀ result ∈ earlier, ∃ audit, Recorded otherDocument tables call audit result)
    (hsome : earlier ≠ []) (hrecords : ReplayRecords otherDocument tables call phase)
    (hphase : 0 < replayCallsLeft phase) :
    ∃ progress, call.advance otherDocument tables phase = (tables, progress) ∧
      ReplayStep earlier phase progress := by
  obtain ⟨first, hfirst⟩ := List.exists_mem_of_ne_nil earlier hsome
  obtain ⟨audit, hrecorded⟩ := hearlier first hfirst
  obtain ⟨replay, hreplay, -, -⟩ := hrecorded.replayed
  have hrepeats : Repeats earlier (.answer (call.replayed audit)) := by
    refine ⟨replay, congrArg Progress.answer hreplay, (replayed_ok hreplay).1,
      (replayed_ok hreplay).2, ?_⟩
    intro before hbefore
    obtain ⟨audit', hrecorded'⟩ := hearlier before hbefore
    obtain ⟨replay', hreplay', hpublished, hsuperseded⟩ := hrecorded'.replayed
    rw [← hrecorded.recorded.unique hrecorded'.recorded, hreplay, Except.ok.injEq] at hreplay'
    subst hreplay'
    exact ⟨hpublished, hsuperseded⟩
  cases phase with
  | denying error audit => cases hphase
  | committing w => cases hphase
  | reading phase =>
    cases phase with
    | lookup raced =>
      refine ⟨_, rfl, .inr ⟨.reading (.replaying audit), ?_, Nat.succ_pos 1, Nat.lt_succ_self 2⟩⟩
      rw [lookup_recorded raced hrecorded.recorded]
      rfl
    | replaying found =>
      obtain rfl := hrecorded.recorded.unique hrecords
      refine ⟨_, rfl, ?_⟩
      rw [replaying_recorded hrecorded.schedule]
      by_cases hnull : requestedPrevious call.command = .null
      · rw [if_pos hnull]
        exact .inl hrepeats
      · rw [if_neg hnull]
        exact .inr ⟨_, rfl, Nat.succ_pos 0, Nat.lt_succ_self 1⟩
    | superseding found =>
      obtain rfl := hrecorded.recorded.unique hrecords.1
      refine ⟨_, rfl, ?_⟩
      rw [superseding_recorded (hrecorded.previous hrecords.2.2)]
      exact .inl hrepeats
    | _ => cases hphase

/-! ### Along a run -/

/-- What every running call keeps. -/
structure CallValid (otherDocument : String → Json → Except P4ContractError Unit)
    (tables : PublicationTables) (running : RunningCall) : Prop where
  stored : ReadsStored tables.schedules running.call running.phase
  records : ReplayRecords otherDocument tables running.call running.phase
  earlier : ∀ result ∈ running.earlier,
    ∃ audit, Recorded otherDocument tables running.call audit result
  replays : running.earlier ≠ [] → requirePublicationAuthorization running.call.context
    running.call.identity running.call.command "SIMULATION" = .ok () →
      0 < replayCallsLeft running.phase

theorem CallValid.step {tables' : PublicationTables} {running : RunningCall}
    (h : CallValid otherDocument tables running)
    (hstep : TablesStep otherDocument tables tables') :
    CallValid otherDocument tables' running where
  stored := h.stored.step hstep
  records := h.records.step hstep
  earlier result hresult := (h.earlier result hresult).imp fun _ hrecorded => hrecorded.step hstep
  replays := h.replays

/-- The evidence of a success serves every call of the same command. -/
theorem Recorded.congr {other : PublicationCall} {audit : Json} {result : PublicationServiceResult}
    (hcommand : other.command = call.command) (hidentity : other.identity = call.identity)
    (h : Recorded otherDocument tables call audit result) :
    Recorded otherDocument tables other audit result := by
  obtain ⟨command, context, identity⟩ := call
  obtain ⟨command', context', identity'⟩ := other
  obtain rfl : command' = command := hcommand
  obtain rfl : identity' = identity := hidentity
  have hrecorded := h.recorded
  exact ⟨⟨hrecorded.found, hrecorded.loaded, hrecorded.identity, hrecorded.isObj,
    hrecorded.outcome⟩, h.schedule, h.previous, h.replayed⟩

/-- Every success that was answered has left its evidence. -/
structure ReplayValid (otherDocument : String → Json → Except P4ContractError Unit)
    (s : PublicationSystem) : Prop where
  valid : SystemValid otherDocument s
  calls : ∀ client running, s.calls client = some running →
    CallValid otherDocument s.tables running
  successes : ∀ command result, (command, result) ∈ s.successes → ∀ call : PublicationCall,
    call.command = command → publicationIdentity command "SIMULATION" = .ok call.identity →
      ∃ audit, Recorded otherDocument s.tables call audit result

/-- One step of the system is one step of the evidence. -/
theorem tablesStep {s s' : PublicationSystem} {event : PublicationEvent}
    (h : ReplayValid otherDocument s) (hstep : PublicationStep otherDocument s event s') :
    TablesStep otherDocument s.tables s'.tables := by
  cases hstep with
  | drafted _ hwrite => exact .drafted hwrite
  | reviewed hstate hwrite => exact .reviewed hstate hwrite
  | recorded hwrite => exact .appended hwrite
  | started _ _ => exact .refl _
  | refused _ => exact .refl _
  | @advanced client running tables phase hrunning hadvance =>
    exact advance_step (fun w => h.valid.prepared client running w hrunning)
      (h.calls client running hrunning).stored hadvance
  | @answered client running tables answer hrunning hadvance =>
    exact advance_step (fun w => h.valid.prepared client running w hrunning)
      (h.calls client running hrunning).stored hadvance
  | crashed _ => exact .refl _

/-- What the other calls and the earlier answers keep in a step. -/
theorem ReplayValid.kept {s s' : PublicationSystem} {event : PublicationEvent}
    (h : ReplayValid otherDocument s) (hstep : PublicationStep otherDocument s event s') :
    (∀ client running, s.calls client = some running →
      CallValid otherDocument s'.tables running) ∧
    ∀ command result, (command, result) ∈ s.successes → ∀ call : PublicationCall,
      call.command = command → publicationIdentity command "SIMULATION" = .ok call.identity →
        ∃ audit, Recorded otherDocument s'.tables call audit result := by
  have htables := tablesStep h hstep
  refine ⟨fun client running hrunning => (h.calls client running hrunning).step htables, ?_⟩
  intro command result hresult call hcommand hidentity
  exact (h.successes command result hresult call hcommand hidentity).imp
    fun _ hrecorded => hrecorded.step htables

theorem successesOf_mem {s : PublicationSystem} {command : Json}
    {result : PublicationServiceResult} (h : result ∈ s.successesOf command) :
    (command, result) ∈ s.successes := by
  obtain ⟨success, hmem, rfl⟩ := List.mem_map.mp h
  obtain ⟨hmem, hcommand⟩ := List.mem_filter.mp hmem
  rw [← of_decide_eq_true hcommand]
  exact hmem

theorem replayValid_step {s s' : PublicationSystem} {event : PublicationEvent}
    (h : ReplayValid otherDocument s) (hstep : PublicationStep otherDocument s event s') :
    ReplayValid otherDocument s' := by
  obtain ⟨hcalls, hsuccesses⟩ := h.kept hstep
  have hvalid := systemValid_step h.valid hstep
  cases hstep with
  | drafted _ _ => exact ⟨hvalid, hcalls, hsuccesses⟩
  | reviewed _ _ => exact ⟨hvalid, hcalls, hsuccesses⟩
  | recorded _ => exact ⟨hvalid, hcalls, hsuccesses⟩
  | refused _ => exact ⟨hvalid, hcalls, hsuccesses⟩
  | @started client command context call phase hidle hbegin =>
    refine ⟨hvalid, ?_, hsuccesses⟩
    obtain ⟨rfl, rfl, hidentity, hphase⟩ := begin_ok hbegin
    intro other running hrunning
    rcases update_other hrunning with ⟨-, heq⟩ | hold
    · obtain rfl := Option.some.inj heq
      have hearlier : ∀ result ∈ s.successesOf call.command,
          ∃ audit, Recorded otherDocument s.tables call audit result := fun result hresult =>
        h.successes _ result (successesOf_mem hresult) call rfl hidentity
      rcases hphase with ⟨rfl, -⟩ | ⟨error, rfl, hdenied⟩
      · exact ⟨trivial, trivial, hearlier, fun _ _ => Nat.succ_pos 2⟩
      · refine ⟨trivial, trivial, hearlier, ?_⟩
        intro _ hauthorized
        rw [hdenied] at hauthorized
        cases hauthorized
    · exact hcalls other running hold
  | @advanced client running tables phase hrunning hadvance =>
    refine ⟨hvalid, ?_, hsuccesses⟩
    have hidentity := h.valid.identified client running hrunning
    have hcall := h.calls client running hrunning
    intro other found hfound
    rcases update_other hfound with ⟨-, heq⟩ | hold
    · obtain rfl := Option.some.inj heq
      refine ⟨advance_stored hidentity hcall.stored hadvance,
        advance_records hidentity hcall.records hadvance,
        (hcalls client running hrunning).earlier, ?_⟩
      intro hsome hauthorized
      obtain ⟨progress, hprogress, hreplay⟩ := advance_replay hcall.earlier hsome hcall.records
        (hcall.replays hsome hauthorized)
      obtain ⟨rfl, rfl⟩ := Prod.mk.inj (hadvance.symm.trans hprogress)
      rcases hreplay with ⟨result, hanswer, -⟩ | ⟨next, hnext, hleft, -⟩
      · cases hanswer
      · obtain rfl := Progress.next.inj hnext
        exact hleft
    · exact hcalls other found hold
  | @answered client running tables answer hrunning hadvance =>
    have hidentity := h.valid.identified client running hrunning
    have hcall := h.calls client running hrunning
    refine ⟨hvalid, ?_, ?_⟩
    · intro other found hfound
      rcases update_other hfound with ⟨-, heq⟩ | hold
      · cases heq
      · exact hcalls other found hold
    · intro command result hresult call hcommand hcallIdentity
      cases answer with
      | error error => exact hsuccesses command result hresult call hcommand hcallIdentity
      | ok answered =>
        rcases List.mem_cons.mp hresult with heq | hold
        · obtain ⟨rfl, rfl⟩ := Prod.mk.inj heq
          obtain ⟨audit, hrecorded⟩ := advance_answer hidentity
            (fun w => h.valid.prepared client running w hrunning) hcall.stored hcall.records
            hadvance
          rw [hidentity, Except.ok.injEq] at hcallIdentity
          exact ⟨audit, hrecorded.congr hcommand hcallIdentity.symm⟩
        · exact hsuccesses command result hold call hcommand hcallIdentity
  | @crashed client running hrunning =>
    refine ⟨hvalid, ?_, hsuccesses⟩
    intro other found hfound
    rcases update_other hfound with ⟨-, heq⟩ | hold
    · cases heq
    · exact hcalls other found hold

theorem replayValid {s : PublicationSystem} (h : PublicationReachable otherDocument s) :
    ReplayValid otherDocument s := by
  refine Reach.invariant (ReplayValid otherDocument) (fun hs _ hstep => replayValid_step hs hstep)
    ⟨systemValid .refl, ?_, ?_⟩ h
  · intro client running hrunning
    cases hrunning
  · intro command result hresult
    cases hresult

/-- **A command that has succeeded is answered in the same way ever after.** Once a call of a
command has been answered with a success, every authorized call of the same command that begins
later takes at most three repository calls, whatever the other clients and services do between
them: each changes nothing, and the last one answers with the published and the superseded
version of every earlier success, marked as an exact replay. -/
theorem publication_replayed {s : PublicationSystem} (h : PublicationReachable otherDocument s)
    {client : Nat} {running : RunningCall} (hrunning : s.calls client = some running)
    (hauthorized : requirePublicationAuthorization running.call.context running.call.identity
      running.call.command "SIMULATION" = .ok ()) (hsome : running.earlier ≠ []) :
    replayCallsLeft running.phase ≤ 3 ∧ ∃ progress,
      running.call.advance otherDocument s.tables running.phase = (s.tables, progress) ∧
      ReplayStep running.earlier running.phase progress := by
  have hcall := (replayValid h).calls client running hrunning
  refine ⟨?_, advance_replay hcall.earlier hsome hcall.records (hcall.replays hsome hauthorized)⟩
  unfold replayCallsLeft
  split <;> decide

end

/-! ### A version that is published and submitted again -/

/-- A version with no content. -/
def plainVersion (contentFingerprint state : String) (decision publication : Json)
    (actions : List String) : Json :=
  .obj
    [("schedule_version_version", .str "schedule-version.v1"),
     ("schema_set_version", .str "2.6.0"),
     ("canonicalization_version", .str "canonical-json.v1"),
     ("schedule_version_id", .str "SV1"), ("revision", .int 1),
     ("data_plane", .str "SIMULATION"), ("environment", .str "TEST"), ("synthetic", .bool true),
     ("synthetic_provenance", .obj []), ("parent_schedule_version", .null),
     ("source_kind", .str "SOLVER"), ("lineage", .obj []),
     ("content", .obj []), ("content_fingerprint", .str contentFingerprint),
     ("validation", .obj []), ("superseded_by", .null),
     ("created_at_utc", .str "2026-01-01T00:00:00Z"),
     ("created_by_actor_ref", .str "actor:planner"),
     ("decision", decision), ("state", .str state), ("publication", publication),
     ("allowed_actions", .strings actions)]

/-- The command that publishes the version. -/
def plainCommand (contentFingerprint requestFingerprint : String) : Json :=
  .obj
    [("workspace_command_version", .str "workspace-command.v1"),
     ("schema_set_version", .str "2.6.0"),
     ("canonicalization_version", .str "canonical-json.v1"), ("command_id", .str "COMMAND-1"),
     ("command_type", .str "PUBLISH"), ("required_capability", .str "publish"),
     ("idempotency_key", .str "publish-plain-version"),
     ("idempotency_scope", .str "SIMULATION/PUBLISH/SV1/SIMULATION_INTERNAL"),
     ("request_fingerprint", .str requestFingerprint), ("source_id", .str "SV1"),
     ("expected_state", .str "APPROVED"),
     ("expected_content_fingerprint", .str contentFingerprint),
     ("data_plane", .str "SIMULATION"), ("environment", .str "TEST"), ("synthetic", .bool true),
     ("synthetic_provenance", .obj []), ("target", .str "SIMULATION_INTERNAL"),
     ("reason", .str "release the plan"), ("correlation_id", .str "CORRELATION-1"),
     ("payload", .obj [("previous_current_version", .null)])]

def plainContext : PublicationContext where
  actorRef := "actor:planner"
  authenticated := true
  resolvedCapabilities := ["publish"]
  scheduleVersionScope := ["SV1"]
  authPolicyVersion := "simulation-test-policy"
  productionBinding := false
  occurredAtUtc := "2026-01-01T00:00:00Z"
  codeCommit := "uncommitted"
  parentAuditEventId := none

/-- The digests of the sample, known by what the checks ask of them. -/
structure PlainDigests where
  content : String
  request : String
  key : String
  publicationId : String
  auditEventId : String
  content_eq : contractFingerprint (.obj []) = content
  request_eq : workspaceCommandFingerprint (plainCommand content request) = .ok request
  content_text : ∀ field, fingerprintText (.str content) field = .ok content
  request_text : ∀ field, fingerprintText (.str request) field = .ok request
  identity : identityOf request (keyReferenceOf "SIMULATION/PUBLISH/SV1/SIMULATION_INTERNAL"
    "publish-plain-version") "SV1" = ⟨request, key, "SV1", publicationId, auditEventId⟩
  content_ne : content ≠ ""
  request_ne : request ≠ ""
  key_ne : key ≠ ""
  publication_ne : publicationId ≠ ""
  audit_ne : auditEventId ≠ ""

section
variable (otherDocument : String → Json → Except P4ContractError Unit) (d : PlainDigests)

def PlainDigests.command : Json := plainCommand d.content d.request

def PlainDigests.call : PublicationCall :=
  ⟨d.command, plainContext, ⟨d.request, d.key, "SV1", d.publicationId, d.auditEventId⟩⟩

theorem plainCommand_precheck : precheckCommand d.command = .ok () := by
  have hfingerprint : workspaceCommandFingerprint d.command = .ok d.request := d.request_eq
  have hrequest : d.command.get "request_fingerprint" = .str d.request := rfl
  simp only [precheckCommand, hfingerprint, hrequest, bind_eq_ok]
  refine ⟨"PUBLISH", rfl, ?_⟩
  show (workspaceEqual (.str "publish") (.str "publish") "required_capability" >>= fun _ =>
    Except.ok d.request >>= fun fingerprint =>
    workspaceEqual (.str d.request) (.str fingerprint) "request_fingerprint" >>= fun _ => _) = _
  simp only [bind_eq_ok, exists_unit_iff]
  exact ⟨rfl, _, rfl, workspaceEqual_self _ _, rfl⟩

theorem plainCommand_document :
    requireWorkspaceDocument d.command = .ok "workspace-command.v1" := by
  simp only [requireWorkspaceDocument, bind_eq_ok, exists_unit_iff, pure, Except.pure,
    Except.ok.injEq]
  exact ⟨_, rfl, rfl, rfl, plainCommand_precheck d, rfl, rfl⟩

theorem plainCommand_identity :
    publicationIdentity d.command "SIMULATION" = .ok d.call.identity := by
  have hdocument := plainCommand_document d
  have htexts : canonicalId (.str "SV1") "command.source_id" = .ok "SV1" ∧
      canonicalId (.str "COMMAND-1") "command.command_id" = .ok "COMMAND-1" ∧
      canonicalId (.str "CORRELATION-1") "command.correlation_id" = .ok "CORRELATION-1" ∧
      reasonText (.str "release the plan") "command.reason" = .ok "release the plan" ∧
      boundedText (.str "publish-plain-version") "command.idempotency_key" 128 =
        .ok "publish-plain-version" ∧
      boundedText (.str "SIMULATION/PUBLISH/SV1/SIMULATION_INTERNAL") "command.idempotency_scope"
        512 = .ok "SIMULATION/PUBLISH/SV1/SIMULATION_INTERNAL" := by decide +kernel
  simp only [publicationIdentity, requireObject, bind_eq_ok, exists_unit_iff, mapError_eq_ok,
    require_eq_ok]
  refine ⟨?_, _, hdocument, rfl, rfl, "SV1", ?_, "COMMAND-1", ?_, "CORRELATION-1", ?_,
    "release the plan", ?_, d.request, d.request_text _, d.content, d.content_text _, rfl, rfl, rfl,
    rfl, rfl, "publish-plain-version", ?_, ?_, "SIMULATION/PUBLISH/SV1/SIMULATION_INTERNAL", ?_, ?_,
    _, ⟨rfl, rfl⟩, rfl, ?_⟩
  · rfl
  · exact htexts.1
  · exact htexts.2.1
  · exact htexts.2.2.1
  · exact htexts.2.2.2.1
  · exact htexts.2.2.2.2.1
  · decide
  · exact htexts.2.2.2.2.2
  · rfl
  · have hnull : (d.command.get "payload").get "previous_current_version" = .null := rfl
    rw [if_neg (not_not.mpr hnull), d.identity]
    rfl

theorem plainCommand_authorized : requirePublicationAuthorization plainContext d.call.identity
    d.command "SIMULATION" = .ok () := by
  have hcontext : validateContext plainContext "SIMULATION" = .ok () := by decide +kernel
  simp only [requirePublicationAuthorization, hcontext, bind_eq_ok, exists_unit_iff, require_eq_ok]
  exact ⟨trivial, by decide, rfl, rfl, rfl, by decide, List.mem_singleton_self _⟩

theorem plainCommand_begin : PublicationCall.begin d.command plainContext =
    .ok (d.call, .reading (.lookup none)) := by
  simp only [PublicationCall.begin, plainCommand_identity, bind_eq_ok]
  refine ⟨_, rfl, ?_⟩
  rw [plainCommand_authorized]
  rfl

variable {state : String} {decision publication : Json} {actions : List String}

def scheduleStates : List String :=
  ["DRAFT", "READY_FOR_REVIEW", "APPROVED", "REJECTED", "PUBLISHED", "SUPERSEDED"]

theorem plainVersion_document (hstate : state ∈ scheduleStates)
    (hdecision : ∀ path, checkNoSecretKeys path decision = .ok ())
    (hpublication : ∀ path, checkNoSecretKeys path publication = .ok ()) :
    requireWorkspaceDocument (plainVersion d.content state decision publication actions) =
      .ok "schedule-version.v1" := by
  have hfingerprint : (plainVersion d.content state decision publication actions).get
      "content_fingerprint" = .str d.content := rfl
  have hcontent : (plainVersion d.content state decision publication actions).get
      "content" = .obj [] := rfl
  have hprecheck : precheckSchedule (plainVersion d.content state decision publication actions) =
      .ok () := by
    simp only [precheckSchedule, workspaceMapping, hfingerprint, hcontent, bind_eq_ok,
      exists_unit_iff, require_eq_ok, pure, Except.pure, Except.ok.injEq]
    refine ⟨?_, _, ⟨rfl, rfl⟩, ?_, _, ⟨rfl, rfl⟩, _, ⟨rfl, rfl⟩, rfl⟩
    · simp only [scheduleStates, List.mem_cons, List.not_mem_nil, or_false] at hstate
      rcases hstate with rfl | rfl | rfl | rfl | rfl | rfl <;> rfl
    · rw [d.content_eq]
      exact workspaceEqual_self _ _
  have hsecret : checkNoSecretKeys "$"
      (plainVersion d.content state decision publication actions) = .ok () := by
    have hactions : ∀ path, checkNoSecretKeys path (.strings actions) = .ok () :=
      fun path => checkNoSecretItems_strings path 0 actions
    rw [plainVersion, checkNoSecretKeys]
    refine checkNoSecretMembers_ok ?_ ?_
    · simp only [List.map_cons, List.map_nil]
      decide +kernel
    · simp [checkNoSecretKeys, checkNoSecretMembers, hdecision, hpublication, hactions]
  simp only [requireWorkspaceDocument, bind_eq_ok, exists_unit_iff, pure, Except.pure,
    Except.ok.injEq]
  exact ⟨_, rfl, rfl, rfl, hprecheck, hsecret, rfl⟩

theorem plainVersion_checked (hstate : state ∈ scheduleStates)
    (hdecision : ∀ path, checkNoSecretKeys path decision = .ok ())
    (hpublication : ∀ path, checkNoSecretKeys path publication = .ok ()) :
    checkScheduleCandidate otherDocument
      (plainVersion d.content state decision publication actions) = .ok () := by
  have hcarrier : checkScheduleCarrier otherDocument
      (plainVersion d.content state decision publication actions) = .ok () := by
    rw [checkScheduleCarrier, if_neg]
    · simp only [canonicalDocument, plainVersion_document d hstate hdecision hpublication,
        bind_eq_ok, exists_unit_iff, mapError_eq_ok, require_eq_ok]
      exact ⟨_, rfl, rfl, rfl, rfl⟩
    · show ¬Json.str "schedule-version.v1" = .str "schedule-version.v2"
      decide
  have hstate' : requireText (.str state) "state" = .ok () := by
    simp only [scheduleStates, List.mem_cons, List.not_mem_nil, or_false] at hstate
    rcases hstate with rfl | rfl | rfl | rfl | rfl | rfl <;> rfl
  have hfingerprint : requireText (.str d.content) "content_fingerprint" = .ok () := by
    rw [requireText, require_eq_ok]
    exact d.content_ne
  have htexts : forEach (fun _ field => requireText
      ((plainVersion d.content state decision publication actions).get field) field)
      ["state", "environment", "content_fingerprint", "created_at_utc"] = .ok () := by
    simp only [forEach, forEachFrom, bind_unit_eq_ok]
    exact ⟨hstate', rfl, hfingerprint, rfl, trivial⟩
  simp only [checkScheduleCandidate, hcarrier, htexts, bind_eq_ok, exists_unit_iff]
  exact ⟨trivial, rfl, 1, rfl, trivial, rfl, _, rfl, rfl⟩

theorem plainVersion_immutable {state' : String} {decision' publication' : Json}
    {actions' : List String} :
    immutableScheduleFingerprint (plainVersion d.content state decision publication actions) =
      immutableScheduleFingerprint
        (plainVersion d.content state' decision' publication' actions') := by
  have hsame : without (plainVersion d.content state decision publication actions)
      mutableStateFields =
    without (plainVersion d.content state' decision' publication' actions') mutableStateFields :=
      rfl
  rw [immutableScheduleFingerprint, immutableScheduleFingerprint, hsame]

/-- The row of the version in some state. -/
def PlainDigests.row (state : String) (decision publication : Json) (actions : List String)
    (stateRevision : Nat) : ScheduleRow :=
  ⟨plainVersion d.content "DRAFT" .null .null ["view"],
    plainVersion d.content state decision publication actions, stateRevision⟩

theorem plainVersion_loaded {stateRevision : Nat} (hstate : state ∈ scheduleStates)
    (hdecision : ∀ path, checkNoSecretKeys path decision = .ok ())
    (hpublication : ∀ path, checkNoSecretKeys path publication = .ok ()) :
    loadSchedule otherDocument (d.row state decision publication actions stateRevision) =
      .ok (plainVersion d.content state decision publication actions) := by
  have hchecked : checkScheduleCandidate otherDocument
      (plainVersion d.content state decision publication actions) = .ok () :=
    plainVersion_checked otherDocument d hstate hdecision hpublication
  simp only [checkScheduleCandidate, bind_eq_ok, exists_unit_iff] at hchecked
  have hcolumns : (["schedule_version_id", "revision", "content_fingerprint",
      "created_at_utc"].all fun field =>
        ((plainVersion d.content state decision publication actions).get field).pyEq
          ((plainVersion d.content "DRAFT" .null .null ["view"]).get field)) = true := by
    have hcontent : (Json.str d.content).pyEq (.str d.content) = true :=
      (Json.pyEq_str _ _).mpr rfl
    simp only [List.all_cons, List.all_nil, Bool.and_true, Bool.and_eq_true]
    exact ⟨rfl, rfl, hcontent, rfl⟩
  simp only [loadSchedule, PlainDigests.row, bind_eq_ok, exists_unit_iff, mapError_eq_ok, pure,
    Except.pure, and_true]
  exact ⟨hchecked.1, (require_eq_ok ..).mpr hcolumns,
    (require_eq_ok ..).mpr (plainVersion_immutable d)⟩

/-- A legal move of the version. -/
theorem plainVersion_moved {state' : String} {decision' publication' : Json}
    {actions' : List String} {stateRevision : Nat}
    (hlegal : (state, state') ∈ scheduleVersionTransitions)
    (hdecision : ∀ path, checkNoSecretKeys path decision = .ok ())
    (hpublication : ∀ path, checkNoSecretKeys path publication = .ok ())
    (hdecision' : ∀ path, checkNoSecretKeys path decision' = .ok ())
    (hpublication' : ∀ path, checkNoSecretKeys path publication' = .ok ()) :
    transitionSchedule otherDocument [d.row state decision publication actions stateRevision]
      ⟨.str "SV1", state, stateRevision,
        plainVersion d.content state' decision' publication' actions'⟩ =
      .ok [d.row state' decision' publication' actions' (stateRevision + 1)] := by
  have hstates : state ∈ scheduleStates ∧ state' ∈ scheduleStates := by
    revert hlegal
    simp only [scheduleVersionTransitions, List.mem_cons, Prod.mk.injEq, List.not_mem_nil, or_false]
    rintro (⟨rfl, rfl⟩ | ⟨rfl, rfl⟩ | ⟨rfl, rfl⟩ | ⟨rfl, rfl⟩ | ⟨rfl, rfl⟩) <;> decide
  have hfound : findSchedule [d.row state decision publication actions stateRevision]
      (.str "SV1") = some (d.row state decision publication actions stateRevision) := rfl
  have hloaded : loadSchedule otherDocument (d.row state decision publication actions
      stateRevision) = .ok (plainVersion d.content state decision publication actions) :=
    plainVersion_loaded otherDocument d hstates.1 hdecision hpublication
  simp only [transitionSchedule, hfound, hloaded, bind_eq_ok, exists_unit_iff, require_eq_ok, pure,
    Except.pure, Except.ok.injEq]
  exact ⟨rfl, plainVersion_checked otherDocument d hstates.2 hdecision' hpublication', rfl, _, rfl,
    ⟨rfl, rfl⟩, ⟨hlegal, plainVersion_immutable d⟩, rfl⟩

theorem plainVersion_drafted : putSchedule otherDocument []
    (plainVersion d.content "DRAFT" .null .null ["view"]) =
      .ok ([d.row "DRAFT" .null .null ["view"] 0], false) := by
  simp only [putSchedule, bind_eq_ok, exists_unit_iff]
  exact ⟨plainVersion_checked otherDocument d (by decide) (fun _ => rfl) (fun _ => rfl), rfl⟩

/-- The decision of an approved version. -/
def plainDecision : Json := .obj [("decision", .str "APPROVED"), ("capability", .str "approve")]

theorem plainDecision_plain (path : String) : checkNoSecretKeys path plainDecision = .ok () := by
  rw [plainDecision, checkNoSecretKeys]
  refine checkNoSecretMembers_ok ?_ ?_
  · simp only [List.map_cons, List.map_nil]
    decide
  · simp [checkNoSecretKeys]

def PlainDigests.approved : Json := plainVersion d.content "APPROVED" plainDecision .null ["view"]

/-- What the call has read when its transaction begins. -/
def PlainDigests.prepared : PreparedPublication :=
  ⟨d.approved, none, d.command, d.call.identity, plainContext⟩

def PlainDigests.write : PublicationWrite := ⟨⟨d.approved, 2⟩, none, none, d.prepared.documents⟩

def PlainDigests.evidence : Json :=
  .obj
    [("publication_id", .str d.publicationId), ("target", .str "SIMULATION_INTERNAL"),
     ("published_at_utc", .str "2026-01-01T00:00:00Z"), ("audit_event_id", .str d.auditEventId)]

theorem plainVersion_published : d.write.documents.publishedSchedule =
    plainVersion d.content "PUBLISHED" plainDecision d.evidence ["view", "export"] := rfl

theorem plainPublication_plain (path : String) : checkNoSecretKeys path d.evidence = .ok () := by
  rw [PlainDigests.evidence, checkNoSecretKeys]
  refine checkNoSecretMembers_ok ?_ ?_
  · simp only [List.map_cons, List.map_nil]
    decide
  · simp [checkNoSecretKeys]

theorem plainVersion_carrier (hstate : state ∈ scheduleStates)
    (hdecision : ∀ path, checkNoSecretKeys path decision = .ok ())
    (hpublication : ∀ path, checkNoSecretKeys path publication = .ok ()) :
    requireScheduleCarrier otherDocument
      (plainVersion d.content state decision publication actions) =
      .ok "schedule-version.v1" := by
  rw [requireScheduleCarrier, if_neg, mapError_eq_ok]
  · exact plainVersion_document d hstate hdecision hpublication
  · show ¬Json.str "schedule-version.v1" = .str "schedule-version.v2"
    decide

theorem plainSource_checked : checkSource otherDocument d.approved d.command d.call.identity =
    .ok () := by
  have hcarrier : requireScheduleCarrier otherDocument d.approved = .ok "schedule-version.v1" :=
    plainVersion_carrier otherDocument d (by decide) plainDecision_plain (fun _ => rfl)
  have hcontent : (d.approved.get "content_fingerprint").pyEq
      (d.command.get "expected_content_fingerprint") = true := (Json.pyEq_str _ _).mpr rfl
  simp only [checkSource, validateScheduleDocument, hcarrier, requireObject, bind_eq_ok,
    exists_unit_iff, require_eq_ok, mapError_eq_ok, pure, Except.pure, Except.ok.injEq]
  exact ⟨⟨_, rfl, trivial⟩, rfl, rfl, hcontent, rfl, rfl, _, ⟨rfl, rfl⟩, ⟨rfl, rfl⟩, rfl, rfl⟩

theorem plainReference_plain (document : Json) (state path : String)
    (hid : document.get "schedule_version_id" = .str "SV1")
    (hfingerprint : document.get "content_fingerprint" = .str d.content) :
    checkNoSecretKeys path (scheduleReference document state) = .ok () := by
  rw [scheduleReference, checkNoSecretKeys]
  refine checkNoSecretMembers_ok ?_ ?_
  · simp only [List.map_cons, List.map_nil]
    decide
  · simp [checkNoSecretKeys, hid, hfingerprint]

theorem plainIdempotency_plain (path : String) :
    checkNoSecretKeys path (idempotencyReference d.command d.call.identity) = .ok () := by
  rw [idempotencyReference, checkNoSecretKeys]
  refine checkNoSecretMembers_ok ?_ ?_
  · simp only [List.map_cons, List.map_nil]
    decide
  · have hscope : d.command.get "idempotency_scope" =
        .str "SIMULATION/PUBLISH/SV1/SIMULATION_INTERNAL" := rfl
    simp [checkNoSecretKeys, hscope]

theorem plainResult_precheck : precheckPublication (publicationResult d.command d.call.identity
    d.write.references false (.str "2026-01-01T00:00:00Z")) = .ok () := by
  have hfingerprint : workspaceEqual _ (.str (publicationResultFingerprint
      (publicationResult d.command d.call.identity d.write.references false
        (.str "2026-01-01T00:00:00Z")))) "result_fingerprint" = .ok () :=
    publicationResult_fingerprint false
  have hsource : (publicationResult d.command d.call.identity d.write.references false
      (.str "2026-01-01T00:00:00Z")).get "source_approved_version" =
        scheduleReference d.approved "APPROVED" := rfl
  have hpublished : (publicationResult d.command d.call.identity d.write.references false
      (.str "2026-01-01T00:00:00Z")).get "published_version" =
        scheduleReference d.approved "PUBLISHED" := rfl
  have hprevious : (publicationResult d.command d.call.identity d.write.references false
      (.str "2026-01-01T00:00:00Z")).get "previous_current_version" = .null := rfl
  have hsuperseded : (publicationResult d.command d.call.identity d.write.references false
      (.str "2026-01-01T00:00:00Z")).get "superseded_version" = .null := rfl
  generalize publicationResult d.command d.call.identity d.write.references false
    (.str "2026-01-01T00:00:00Z") = document at *
  have hreference : checkReference "published_version" (scheduleReference d.approved "PUBLISHED")
      (scheduleReference d.approved "APPROVED") = .ok () := by
    simp only [checkReference, bind_eq_ok, exists_unit_iff]
    exact ⟨rfl, workspaceEqual_self _ _⟩
  simp only [precheckPublication, hsource, hpublished, hprevious, hsuperseded, hfingerprint,
    workspaceMapping, bind_eq_ok, exists_unit_iff, require_eq_ok, pure, Except.pure,
    Except.ok.injEq]
  exact ⟨_, ⟨rfl, rfl⟩, _, ⟨rfl, rfl⟩, hreference, trivial, rfl⟩

theorem plainResult_document : requireWorkspaceDocument
    (publicationResult d.command d.call.identity d.write.references false
      (.str "2026-01-01T00:00:00Z")) = .ok "publication-result.v1" := by
  have hversion : workspaceDocumentVersion (publicationResult d.command d.call.identity
      d.write.references false (.str "2026-01-01T00:00:00Z")) = .ok "publication-result.v1" := by
    rw [publicationResult]
    generalize Json.str (publicationResultFingerprint _) = fingerprint
    rfl
  have hsecret : checkNoSecretKeys "$" (publicationResult d.command d.call.identity
      d.write.references false (.str "2026-01-01T00:00:00Z")) = .ok () := by
    rw [publicationResult, checkNoSecretKeys]
    generalize publicationResultFingerprint _ = fingerprint
    refine checkNoSecretMembers_ok ?_ ?_
    · simp only [resultMembers, List.cons_append, List.nil_append, List.map_cons, List.map_nil]
      decide +kernel
    · have hsource : ∀ path, checkNoSecretKeys path d.write.references.source = .ok () :=
        fun path => plainReference_plain d _ _ path rfl rfl
      have hpublished : ∀ path, checkNoSecretKeys path d.write.references.published = .ok () :=
        fun path => plainReference_plain d _ _ path rfl rfl
      have hprevious : d.write.references.previous = .null := rfl
      have hsuperseded : d.write.references.superseded = .null := rfl
      have henvironment : d.command.get "environment" = .str "TEST" := rfl
      have hprovenance : d.command.get "synthetic_provenance" = .obj [] := rfl
      simp [resultMembers, checkNoSecretKeys, checkNoSecretMembers, hsource, hpublished, hprevious,
        hsuperseded, henvironment, hprovenance, plainIdempotency_plain]
  simp only [requireWorkspaceDocument, hversion, hsecret, bind_eq_ok, exists_unit_iff, pure,
    Except.pure, Except.ok.injEq]
  exact ⟨_, rfl, rfl, rfl, plainResult_precheck d, trivial, rfl⟩

theorem plainAudit_plain : checkNoSecretKeys "$" d.write.documents.auditEvent = .ok () := by
  have haudit : d.write.documents.auditEvent =
      auditEvent d.command plainContext d.call.identity "SIMULATION_INTERNAL"
        (succeededOutcome (.obj []) (scheduleReference d.approved "APPROVED")
          (scheduleReference d.approved "PUBLISHED")) := rfl
  have hreference : ∀ state path,
      checkNoSecretKeys path (scheduleReference d.approved state) = .ok () :=
    fun state path => plainReference_plain d d.approved state path rfl rfl
  have hresult : ∀ path, checkNoSecretMembers path
      [("outcome", .str "SUCCEEDED"), ("replayed", .bool false), ("retryable", .bool false),
       ("error", .null)] = .ok () := by
    intro path
    refine checkNoSecretMembers_ok ?_ ?_
    · simp only [List.map_cons, List.map_nil]
      decide
    · simp [checkNoSecretKeys]
  have hempty : ∀ path, checkNoSecretMembers path [] = .ok () := fun _ => rfl
  have hsynthetic : d.command.get "synthetic" = .bool true := rfl
  rw [haudit, auditEvent, if_pos hsynthetic, checkNoSecretKeys]
  refine checkNoSecretMembers_ok ?_ ?_
  · simp only [List.cons_append, List.nil_append, List.map_cons, List.map_nil]
    decide +kernel
  · have henvironment : d.command.get "environment" = .str "TEST" := rfl
    have hplane : d.command.get "data_plane" = .str "SIMULATION" := rfl
    have hprovenance : d.command.get "synthetic_provenance" = .obj [] := rfl
    have hreason : d.command.get "reason" = .str "release the plan" := rfl
    have hcorrelation : d.command.get "correlation_id" = .str "CORRELATION-1" := rfl
    have hparent : plainContext.parentAuditEventId = none := rfl
    simp [succeededOutcome, checkNoSecretKeys, hempty, hreference, hresult, henvironment, hplane,
      hsynthetic, hprovenance, hreason, hcorrelation, hparent, Json.ofOption,
      plainIdempotency_plain]

theorem plainAudit_document : requireWorkspaceDocument d.write.documents.auditEvent =
    .ok "audit-event.v1" := by
  have hidempotency : d.write.documents.auditEvent.get "idempotency_reference" =
    idempotencyReference d.command d.call.identity := rfl
  have hrequest : d.write.documents.auditEvent.get "request_fingerprint" = .str d.request := rfl
  have hboth : Json.str d.request ≠ .null ∧
      idempotencyReference d.command d.call.identity ≠ .null := by
    simp [idempotencyReference]
  have hprecheck : precheckAudit d.write.documents.auditEvent = .ok () := by
    simp only [precheckAudit, hidempotency, hrequest, plainAudit_plain, workspaceMapping]
    rw [if_pos hboth]
    simp only [bind_eq_ok, exists_unit_iff, require_eq_ok, pure, Except.pure, Except.ok.injEq]
    exact ⟨_, ⟨rfl, rfl⟩, workspaceEqual_self _ _, trivial⟩
  simp only [requireWorkspaceDocument, plainAudit_plain, bind_eq_ok, exists_unit_iff, pure,
    Except.pure, Except.ok.injEq]
  exact ⟨_, rfl, rfl, rfl, hprecheck, trivial, rfl⟩

theorem plainDocuments_checked : d.write.documents.check otherDocument = .ok () := by
  have hpublished : requireScheduleCarrier otherDocument d.write.documents.publishedSchedule =
      .ok "schedule-version.v1" := by
    rw [plainVersion_published]
    exact plainVersion_carrier otherDocument d (by decide) plainDecision_plain
      (plainPublication_plain d)
  have hresult : requireWorkspaceDocument d.write.documents.publicationResult =
      .ok "publication-result.v1" := plainResult_document d
  have hnone : d.write.documents.supersededSchedule = none := rfl
  simp only [PublicationDocuments.check, hpublished, hnone, hresult, plainAudit_document,
    bind_eq_ok, mapError_eq_ok]
  exact ⟨_, rfl, _, rfl, _, rfl, rfl⟩

theorem plainPublication_prepared : d.call.prepared otherDocument ⟨d.approved, 2⟩ none none =
    .ok (.next (.committing d.write)) := by
  have hcommand : d.call.command = d.command := rfl
  have hcontext : d.call.context = plainContext := rfl
  have hcurrent : checkCurrent otherDocument d.command none none d.call.identity = .ok () := rfl
  have hdocuments := plainDocuments_checked otherDocument d
  have hwrite : d.write.documents = PreparedPublication.documents
    ⟨d.approved, none, d.command, d.call.identity, plainContext⟩ := rfl
  rw [hwrite] at hdocuments
  simp only [PublicationCall.prepared, preparePublication, hcommand, hcontext,
    plainCommand_identity, Option.map_none, buildPublicationDocuments, bind_eq_ok,
    exists_unit_iff, mapError_eq_ok, requireObject,
    require_eq_ok, pure, Except.pure, Except.ok.injEq]
  refine ⟨_, ⟨_, rfl, plainCommand_authorized d, plainSource_checked otherDocument d, hcurrent,
    rfl⟩, _, ⟨_, ⟨rfl, rfl⟩, hdocuments, rfl⟩, ?_⟩
  rw [PlainDigests.write, PlainDigests.prepared]

/-! The transaction. -/

theorem requireText_nonempty {text field : String} (h : text ≠ "") :
    requireText (.str text) field = .ok () := by
  rw [requireText, require_eq_ok]
  exact h

def PlainDigests.result : Json :=
  publicationResult d.command d.call.identity d.write.references false
    (.str "2026-01-01T00:00:00Z")

theorem plainAudit_appended : appendAudit [] d.write.documents.auditEvent =
    .ok [d.write.documents.auditEvent] := by
  have hcanonical : canonicalDocument d.write.documents.auditEvent "audit-event.v1" = .ok () := by
    simp only [canonicalDocument, plainAudit_document, bind_eq_ok, exists_unit_iff, mapError_eq_ok,
      require_eq_ok]
    exact ⟨_, rfl, rfl, rfl, rfl⟩
  have htexts : forEach (fun _ field => requireText (d.write.documents.auditEvent.get field) field)
      ["audit_event_id", "environment", "action", "aggregate_type", "aggregate_id",
       "correlation_id", "occurred_at_utc"] = .ok () := by
    simp only [forEach, forEachFrom, bind_unit_eq_ok]
    exact ⟨requireText_nonempty d.audit_ne, rfl, rfl, rfl, rfl, rfl, rfl, trivial⟩
  have hidempotency : d.write.documents.auditEvent.get "idempotency_reference" =
      idempotencyReference d.command d.call.identity := rfl
  have hne : idempotencyReference d.command d.call.identity ≠ .null := by
    simp [idempotencyReference]
  have hchecked : checkAuditCandidate d.write.documents.auditEvent = .ok () := by
    simp only [checkAuditCandidate, hcanonical, htexts, hidempotency]
    rw [if_pos hne]
    simp only [requireMapping, bind_eq_ok, exists_unit_iff, require_eq_ok, pure, Except.pure,
      Except.ok.injEq]
    exact ⟨trivial, trivial, _, ⟨rfl, rfl⟩, rfl, requireText_nonempty d.key_ne⟩
  simp only [appendAudit, hchecked, bind_eq_ok, exists_unit_iff]
  exact ⟨trivial, rfl⟩

theorem plainResult_canonical : canonicalDocument d.result "publication-result.v1" = .ok () := by
  have hshape : requireTopLevelShape d.result "publication-result.v1" = .ok () := by
    rw [PlainDigests.result, publicationResult]
    generalize Json.str (publicationResultFingerprint _) = fingerprint
    rfl
  have hdocument : requireWorkspaceDocument d.result = .ok "publication-result.v1" :=
    plainResult_document d
  simp only [canonicalDocument, hdocument, hshape, bind_eq_ok, exists_unit_iff, mapError_eq_ok,
    require_eq_ok]
  exact ⟨_, rfl, rfl, trivial, rfl⟩

theorem plainResult_checked : checkResultCandidate d.result = .ok () := by
  have htexts : forEach (fun _ field => requireText (d.result.get field) field)
      ["publication_id", "target", "published_at_utc", "result_fingerprint"] = .ok () := by
    simp only [forEach, forEachFrom, bind_unit_eq_ok]
    refine ⟨requireText_nonempty d.publication_ne, rfl, rfl, ?_, trivial⟩
    rw [PlainDigests.result, publicationResult, Json.get_append_self (resultMembers_keys false)]
    exact requireText_nonempty (by
      intro hempty
      have hlength := congrArg String.length hempty
      rw [publicationResultFingerprint, contractFingerprint, String.length_append,
        Sha256.length_hexdigest] at hlength
      cases hlength)
  have hidempotency : d.result.get "idempotency_reference" =
      idempotencyReference d.command d.call.identity := rfl
  have hmembers : forEach (fun _ field => requireText
      ((idempotencyReference d.command d.call.identity).get field)
        s!"idempotency_reference.{field}") ["scope", "key_reference", "request_fingerprint"] =
      .ok () := by
    simp only [forEach, forEachFrom, bind_unit_eq_ok]
    exact ⟨rfl, requireText_nonempty d.key_ne, requireText_nonempty d.request_ne, trivial⟩
  simp only [checkResultCandidate, plainResult_canonical, htexts, hidempotency, requireMapping,
    bind_eq_ok, exists_unit_iff, require_eq_ok, pure, Except.pure, Except.ok.injEq]
  exact ⟨trivial, trivial, _, ⟨rfl, rfl⟩, hmembers⟩

/-- The tables with the version in some state, and nothing published. -/
def rowTables (row : ScheduleRow) : PublicationTables := ⟨[row], [], [], none⟩

def PlainDigests.publishedRow : ScheduleRow :=
  d.row "PUBLISHED" plainDecision d.evidence ["view", "export"] 3

def PlainDigests.publishedTables : PublicationTables :=
  ⟨[d.publishedRow], [d.write.documents.auditEvent], [d.result], some (currentOf d.result 0)⟩

theorem plainResult_persisted :
    persistAndSetCurrent ⟨[d.publishedRow], [d.write.documents.auditEvent], [], none⟩ d.result
      none = .ok (d.publishedTables, true) := by
  have hsource : d.result.get "source_approved_version" = scheduleReference d.approved "APPROVED" :=
    rfl
  have hpublished : d.result.get "published_version" = scheduleReference d.approved "PUBLISHED" :=
    rfl
  have hprevious : d.result.get "previous_current_version" = .null := rfl
  have hschedule : requirePublishedSchedule [d.publishedRow]
      (scheduleReference d.approved "PUBLISHED") = .ok () := by
    simp only [requirePublishedSchedule, bind_eq_ok, exists_unit_iff, require_eq_ok,
      Option.any_eq_true, decide_eq_true_eq]
    exact ⟨rfl, requireText_nonempty d.content_ne, d.publishedRow, rfl, rfl, rfl⟩
  have hpersisted : persistResult ⟨[d.publishedRow], [d.write.documents.auditEvent], [], none⟩
      d.result = .ok ([d.result], false) := by
    have hnone : findConflict "publication_id" [] d.result = none := rfl
    simp only [persistResult, plainResult_checked, hnone, hsource, hpublished, hprevious,
      requireMapping, bind_eq_ok, exists_unit_iff, require_eq_ok, pure, Except.pure,
      Except.ok.injEq]
    refine ⟨trivial, _, ⟨rfl, rfl⟩, _, ⟨rfl, rfl⟩, ?_⟩
    rw [if_neg (not_not.mpr rfl), if_neg (not_not.mpr rfl)]
    simp only [bind_eq_ok, exists_unit_iff, require_eq_ok]
    exact ⟨hschedule, rfl, ⟨rfl, rfl⟩, rfl⟩
  simp only [persistAndSetCurrent, hpersisted, hpublished, hprevious, requireMapping, bind_eq_ok,
    exists_unit_iff, require_eq_ok, pure, Except.pure, Except.ok.injEq]
  exact ⟨_, rfl, _, ⟨rfl, rfl⟩, hschedule, rfl⟩

theorem plainPublication_committed :
    (rowTables (d.row "APPROVED" plainDecision .null ["view"] 2)).publish otherDocument d.call
      d.write = .ok d.publishedTables := by
  have hmoved : transitionSchedule otherDocument [d.row "APPROVED" plainDecision .null ["view"] 2]
      (d.call.transition d.write) = .ok [d.publishedRow] :=
    plainVersion_moved otherDocument d (by decide) plainDecision_plain (fun _ => rfl)
      plainDecision_plain (plainPublication_plain d)
  have hnone : supersede otherDocument [d.publishedRow] d.write = .ok [d.publishedRow] := rfl
  have hresult : d.write.documents.publicationResult = d.result := rfl
  simp only [PublicationTables.publish, rowTables, hmoved, hresult, plainAudit_appended,
    bind_eq_ok, mapError_eq_ok, exists_unit_iff]
  refine ⟨_, rfl, _, hnone, _, rfl, _, plainResult_persisted d, ?_⟩
  exact ⟨rfl, rfl⟩

/-! The run. -/

def PlainDigests.approvedTables : PublicationTables :=
  rowTables (d.row "APPROVED" plainDecision .null ["view"] 2)

def PlainDigests.answer : PublicationServiceResult := d.call.committed d.write

/-- The state after a publication by the first client. -/
def PlainDigests.publishedSystem : PublicationSystem :=
  ⟨d.publishedTables, fun _ => none, [(d.command, d.answer)]⟩

/-- The state in which the first client runs a call, and no other does. -/
def callSystem (tables : PublicationTables) (running : RunningCall)
    (successes : List (Json × PublicationServiceResult)) : PublicationSystem :=
  ⟨tables, Function.update (fun _ => none) 0 (some running), successes⟩

theorem callSystem_calls (tables : PublicationTables) (running : RunningCall)
    (successes : List (Json × PublicationServiceResult)) :
    (callSystem tables running successes).calls 0 = some running := by
  simp only [callSystem, Function.update_self]

theorem callSystem_advanced {tables tables' : PublicationTables} {running : RunningCall}
    {phase : PublicationPhase} {successes : List (Json × PublicationServiceResult)}
    (h : running.call.advance otherDocument tables running.phase = (tables', .next phase)) :
    PublicationStep otherDocument (callSystem tables running successes) (.advanced 0)
      (callSystem tables' { running with phase } successes) := by
  have hstep := PublicationStep.advanced (callSystem_calls tables running successes) h
  simp only [PublicationSystem.setCall, callSystem, Function.update_idem] at hstep ⊢
  exact hstep

theorem callSystem_answered {tables tables' : PublicationTables} {running : RunningCall}
    {result : PublicationServiceResult} {successes : List (Json × PublicationServiceResult)}
    (h : running.call.advance otherDocument tables running.phase =
      (tables', .answer (.ok result))) :
    PublicationStep otherDocument (callSystem tables running successes)
      (.answered 0 running (.ok result))
      ⟨tables', fun _ => none, (running.call.command, result) :: successes⟩ := by
  have hstep := PublicationStep.answered (callSystem_calls tables running successes) h
  have hidle : Function.update (fun _ => none) 0 none =
      fun _ : Nat => (none : Option RunningCall) :=
    Function.update_eq_self ..
  simp only [PublicationSystem.setCall, callSystem, Function.update_idem, hidle] at hstep ⊢
  exact hstep

/-- The version goes through its review. -/
theorem plainVersion_approved : Reach (PublicationStep otherDocument) (fun _ _ => True) .initial
    ⟨d.approvedTables, fun _ => none, []⟩ := by
  have hdrafted : Reach (PublicationStep otherDocument) (fun _ _ => True) .initial
      ⟨rowTables (d.row "DRAFT" .null .null ["view"] 0), fun _ => none, []⟩ :=
    .next .refl trivial (.drafted rfl (plainVersion_drafted otherDocument d))
  have hready : transitionSchedule otherDocument [d.row "DRAFT" .null .null ["view"] 0]
      ⟨.str "SV1", "DRAFT", 0, plainVersion d.content "READY_FOR_REVIEW" .null .null ["view"]⟩ =
        .ok [d.row "READY_FOR_REVIEW" .null .null ["view"] 1] :=
    plainVersion_moved otherDocument d (by decide) (fun _ => rfl) (fun _ => rfl) (fun _ => rfl)
      (fun _ => rfl)
  have happroved : transitionSchedule otherDocument
      [d.row "READY_FOR_REVIEW" .null .null ["view"] 1]
      ⟨.str "SV1", "READY_FOR_REVIEW", 1,
        plainVersion d.content "APPROVED" plainDecision .null ["view"]⟩ =
        .ok [d.row "APPROVED" plainDecision .null ["view"] 2] :=
    plainVersion_moved otherDocument d (by decide) (fun _ => rfl) (fun _ => rfl)
      plainDecision_plain (fun _ => rfl)
  have hsecond := hdrafted.next trivial (.reviewed (List.Mem.head _) hready)
  exact hsecond.next trivial (.reviewed (List.Mem.tail _ (List.Mem.head _)) happroved)

theorem plainSource_read : d.call.advance otherDocument d.approvedTables (.reading .source) =
    (d.approvedTables, .next (.reading (.current ⟨d.approved, 2⟩))) := by
  have hloaded : loadSchedule otherDocument (d.row "APPROVED" plainDecision .null ["view"] 2) =
      .ok d.approved :=
    plainVersion_loaded otherDocument d (by decide) plainDecision_plain (fun _ => rfl)
  have hrecord : getRecord otherDocument d.approvedTables.schedules
      (.str d.call.identity.scheduleVersionId) = .ok (some ⟨d.approved, 2⟩) := by
    have hfound : findSchedule d.approvedTables.schedules (.str d.call.identity.scheduleVersionId) =
      some (d.row "APPROVED" plainDecision .null ["view"] 2) := rfl
    simp only [getRecord, hfound, hloaded]
    rfl
  simp only [PublicationCall.advance, PublicationCall.read, hrecord]
  rfl

/-- The first client publishes the version. -/
theorem plainVersion_publication : Reach (PublicationStep otherDocument) (fun _ _ => True)
    ⟨d.approvedTables, fun _ => none, []⟩ d.publishedSystem := by
  have hstarted : Reach (PublicationStep otherDocument) (fun _ _ => True)
      ⟨d.approvedTables, fun _ => none, []⟩
      (callSystem d.approvedTables ⟨d.call, .reading (.lookup none), []⟩ []) :=
    .next .refl trivial (.started rfl (plainCommand_begin d))
  have hlookup : d.call.advance otherDocument d.approvedTables (.reading (.lookup none)) =
      (d.approvedTables, .next (.reading .source)) := rfl
  have hsource := hstarted.next trivial (callSystem_advanced otherDocument hlookup)
  have hcurrent := hsource.next trivial (callSystem_advanced otherDocument
    (plainSource_read otherDocument d))
  have hprepared : d.call.advance otherDocument d.approvedTables
      (.reading (.current ⟨d.approved, 2⟩)) = (d.approvedTables, .next (.committing d.write)) := by
    have hnone : d.approvedTables.current = none := rfl
    simp only [PublicationCall.advance, PublicationCall.read, hnone, plainPublication_prepared]
    rfl
  have hcommitting := hcurrent.next trivial (callSystem_advanced otherDocument hprepared)
  have hcommitted : d.call.advance otherDocument d.approvedTables (.committing d.write) =
      (d.publishedTables, .answer (.ok d.answer)) := by
    simp only [PublicationCall.advance, PlainDigests.approvedTables, plainPublication_committed]
    rfl
  exact hcommitting.next trivial (callSystem_answered otherDocument hcommitted)

/-- Then it submits the same command again. -/
theorem plainVersion_resubmitted : PublicationReachable otherDocument
    (callSystem d.publishedTables ⟨d.call, .reading (.lookup none), [d.answer]⟩
      [(d.command, d.answer)]) := by
  have hearlier : d.publishedSystem.successesOf d.command = [d.answer] := by
    rw [PublicationSystem.successesOf, PlainDigests.publishedSystem]
    simp
  have hidle : d.publishedSystem.calls 0 = none := rfl
  have hstep : PublicationStep otherDocument d.publishedSystem (.started 0 d.call) _ :=
    .started hidle (plainCommand_begin d)
  rw [hearlier] at hstep
  exact ((plainVersion_approved otherDocument d).trans
    (plainVersion_publication otherDocument d)).next trivial hstep

end

theorem append_ne_empty {leading text : String} (h : leading ≠ "") : leading ++ text ≠ "" := by
  intro hempty
  have hlength := congrArg String.length hempty
  rw [String.length_append] at hlength
  exact h (String.length_eq_zero_iff.mp (by simpa using (Nat.add_eq_zero_iff.mp hlength).1))

theorem contractFingerprint_nonempty (document : Json) : contractFingerprint document ≠ "" :=
  append_ne_empty (by decide)

/-- What the digest of the command covers. -/
def plainProjection (contentFingerprint : String) : Json :=
  .obj (commandFingerprintFields.map fun field =>
    (field, (plainCommand contentFingerprint "").get field))

theorem plainCommand_fingerprint (contentFingerprint requestFingerprint : String) :
    workspaceCommandFingerprint (plainCommand contentFingerprint requestFingerprint) =
      .ok (contractFingerprint (plainProjection contentFingerprint)) := by
  have hprojection : projection (plainCommand contentFingerprint requestFingerprint)
      commandFingerprintFields = .ok (plainProjection contentFingerprint) := rfl
  simp only [workspaceCommandFingerprint, hprojection, bind_eq_ok]
  exact ⟨_, rfl, rfl⟩

/-- The digests that the code computes. -/
def plainDigests : PlainDigests where
  content := contractFingerprint (.obj [])
  request := contractFingerprint (plainProjection (contractFingerprint (.obj [])))
  key := keyReferenceOf "SIMULATION/PUBLISH/SV1/SIMULATION_INTERNAL" "publish-plain-version"
  publicationId := (identityOf "" (keyReferenceOf "SIMULATION/PUBLISH/SV1/SIMULATION_INTERNAL"
    "publish-plain-version") "SV1").publicationId
  auditEventId := (identityOf "" (keyReferenceOf "SIMULATION/PUBLISH/SV1/SIMULATION_INTERNAL"
    "publish-plain-version") "SV1").auditEventId
  content_eq := rfl
  request_eq := plainCommand_fingerprint _ _
  content_text := fingerprintText_digest _
  request_text := fingerprintText_digest _
  identity := rfl
  content_ne := contractFingerprint_nonempty _
  request_ne := contractFingerprint_nonempty _
  key_ne := contractFingerprint_nonempty _
  publication_ne := append_ne_empty (by decide)
  audit_ne := append_ne_empty (by decide)

theorem publication_history_plain :
    PublishedHistory plainDigests.publishedTables ∧
      (∀ row ∈ plainDigests.publishedTables.schedules, row.state = .str "PUBLISHED" →
        ∃ current, plainDigests.publishedTables.current = some current ∧
          row.id = .str current.scheduleVersionId) ∧
      Extends plainDigests.approvedTables plainDigests.publishedTables :=
  publication_history
    (plainVersion_approved (fun _ _ => .ok ()) plainDigests)
    (plainVersion_publication (fun _ _ => .ok ()) plainDigests)

theorem publication_replayed_plain :
    replayCallsLeft (.reading (.lookup none)) ≤ 3 ∧ ∃ progress,
      plainDigests.call.advance (fun _ _ => .ok ()) plainDigests.publishedTables
        (.reading (.lookup none)) = (plainDigests.publishedTables, progress) ∧
      ReplayStep [plainDigests.answer] (.reading (.lookup none)) progress :=
  publication_replayed (plainVersion_resubmitted (fun _ _ => .ok ()) plainDigests)
    (callSystem_calls ..) (plainCommand_authorized plainDigests) (List.cons_ne_nil _ _)

end PlantNexus.Publishing
