import PlantNexus.Publishing.Runs

/-! How the evidence of a publication survives the steps that follow it.

A row outside the history may be rewritten; a published row changes once, when it is superseded,
and then keeps its publication; a superseded row never changes, and audit events are never lost.
So a version that a call has read is still the stored one as long as its revision is. -/
namespace PlantNexus.Publishing
open Data Domain

section
variable {otherDocument : String → Json → Except P4ContractError Unit}

/-! ### Steps of the rows -/

/-- What one step does to a row. -/
inductive RowStep (otherDocument : String → Json → Except P4ContractError Unit)
    (row row' : ScheduleRow) : Prop where
  | kept (same : row' = row)
  | moved (revision : row'.stateRevision = row.stateRevision + 1) (outside : ¬row.InHistory)
  | superseded (revision : row'.stateRevision = row.stateRevision + 1)
      (state : row.state = .str "PUBLISHED")
      (document : ∃ reference, row'.document = row.document.update (supersededFields reference))
      (loaded : loadSchedule otherDocument row' = .ok row'.document)

/-- What one step does to the tables, as far as evidence goes. -/
structure TablesStep (otherDocument : String → Json → Except P4ContractError Unit)
    (tables tables' : PublicationTables) : Prop where
  rows : ∀ id row, findSchedule tables.schedules id = some row →
    ∃ row', findSchedule tables'.schedules id = some row' ∧ RowStep otherDocument row row'
  audits : tables.audits <+: tables'.audits

theorem TablesStep.refl (tables : PublicationTables) : TablesStep otherDocument tables tables :=
  ⟨fun _ row hrow => ⟨row, hrow, .kept rfl⟩, List.prefix_refl _⟩

/-- A version that a call has read is the stored one while its revision is. -/
def StillStored (schedules : List ScheduleRow) (id : Json) (stored : StoredScheduleVersion) :
    Prop :=
  ∃ row, findSchedule schedules id = some row ∧ stored.stateRevision ≤ row.stateRevision ∧
    (row.stateRevision = stored.stateRevision → row.document = stored.document)

theorem StillStored.step {tables tables' : PublicationTables} {id : Json}
    {stored : StoredScheduleVersion} (h : StillStored tables.schedules id stored)
    (hstep : TablesStep otherDocument tables tables') :
    StillStored tables'.schedules id stored := by
  obtain ⟨row, hrow, hle, hsame⟩ := h
  obtain ⟨row', hrow', hmove⟩ := hstep.rows id row hrow
  refine ⟨row', hrow', ?_⟩
  cases hmove with
  | kept same =>
    subst same
    exact ⟨hle, hsame⟩
  | moved revision outside => exact ⟨by omega, fun heq => absurd heq (by omega)⟩
  | superseded revision state document loaded =>
    exact ⟨by omega, fun heq => absurd heq (by omega)⟩

theorem getRecord_stored {schedules : List ScheduleRow} {id : Json}
    {stored : StoredScheduleVersion}
    (h : getRecord otherDocument schedules id = .ok (some stored)) :
    StillStored schedules id stored := by
  rw [getRecord] at h
  cases hfound : findSchedule schedules id with
  | none =>
    rw [hfound] at h
    cases h
  | some row =>
    simp only [hfound, bind_eq_ok, pure, Except.pure, Except.ok.injEq, Option.some.injEq] at h
    obtain ⟨document, hloaded, rfl⟩ := h
    obtain rfl := loadSchedule_document hloaded
    exact ⟨row, hfound, Nat.le_refl _, fun _ => rfl⟩

/-- A document whose mutable fields alone change has the same immutable projection. -/
theorem loadSchedule_update {schedules : List ScheduleRow} {w : ScheduleTransition}
    {row : ScheduleRow} {fields : List (String × Json)}
    (hmoved : Transitioned otherDocument schedules w row)
    (hcandidate : w.candidate = row.document.update fields)
    (hfields : ∀ key ∈ fields.map Prod.fst, key ∈ mutableStateFields) :
    loadSchedule otherDocument (w.apply row) = .ok (w.apply row).document := by
  have hown := ScheduleTransition.apply_own (findSchedule_id hmoved.found)
  have hloaded := hmoved.loaded
  simp only [loadSchedule, bind_eq_ok, exists_unit_iff, require_eq_ok, mapError_eq_ok, pure,
    Except.pure, and_true] at hloaded ⊢
  obtain ⟨-, hcolumns, himmutable⟩ := hloaded
  have hchecked := hmoved.checked
  simp only [checkScheduleCandidate, bind_eq_ok, exists_unit_iff] at hchecked
  rw [hown]
  refine ⟨hchecked.1, ?_, ?_⟩
  · rw [List.all_eq_true] at hcolumns ⊢
    intro field hfield
    have hkept : field ∉ fields.map Prod.fst := by
      intro hmem
      have hmutable := hfields field hmem
      revert hfield hmutable
      simp only [mutableStateFields, List.mem_cons, List.not_mem_nil, or_false]
      rintro (rfl | rfl | rfl | rfl) <;> decide
    show ((w.candidate.get field).pyEq _) = true
    rw [hcandidate, Json.get_update_of_notMem hkept]
    exact hcolumns field hfield
  · exact hmoved.immutable.symm.trans himmutable

/-! ### Steps of the tables -/

/-- A compare-and-swap moves its own row and no other. -/
theorem TablesStep.transition {tables : PublicationTables} {w : ScheduleTransition}
    {moved : ScheduleRow} (hmoved : Transitioned otherDocument tables.schedules w moved)
    (hrow : RowStep otherDocument moved (w.apply moved)) :
    TablesStep otherDocument tables { tables with schedules := tables.schedules.map w.apply } := by
  refine ⟨?_, List.prefix_refl _⟩
  intro id row hfound
  refine ⟨w.apply row, by rw [findSchedule_apply, hfound, Option.map_some], ?_⟩
  by_cases hid : row.id = w.scheduleVersionId
  · have hsame : moved = row := by
      have hown := hmoved.found
      rw [← hid, findSchedule_id hfound, hfound] at hown
      exact (Option.some.inj hown).symm
    exact hsame ▸ hrow
  · exact .kept (ScheduleTransition.apply_other hid)

theorem TablesStep.reviewed {tables : PublicationTables} {schedules : List ScheduleRow}
    {w : ScheduleTransition} (hstate : w.candidate.get "state" ∈
      [Json.str "READY_FOR_REVIEW", .str "APPROVED", .str "REJECTED"])
    (hwrite : transitionSchedule otherDocument tables.schedules w = .ok schedules) :
    TablesStep otherDocument tables { tables with schedules } := by
  obtain ⟨moved, hmoved, rfl⟩ := transitionSchedule_ok hwrite
  refine .transition hmoved (.moved ?_ (review_outside hstate hmoved))
  rw [ScheduleTransition.apply_own (findSchedule_id hmoved.found), hmoved.revision]

theorem TablesStep.drafted {tables : PublicationTables} {schedules : List ScheduleRow}
    {document : Json} {replayed : Bool}
    (hwrite : putSchedule otherDocument tables.schedules document = .ok (schedules, replayed)) :
    TablesStep otherDocument tables { tables with schedules } := by
  rcases putSchedule_ok hwrite with rfl | ⟨rfl, hfree⟩
  · exact .refl tables
  · refine ⟨?_, List.prefix_refl _⟩
    intro id row hfound
    refine ⟨row, ?_, .kept rfl⟩
    show findSchedule (tables.schedules ++ _) id = some row
    rw [findSchedule_append_of_none, hfound]
    intro heq
    rw [heq, ScheduleRow.id, hfree] at hfound
    cases hfound

theorem TablesStep.appended {tables : PublicationTables} {audit : Json} {audits : List Json}
    (hwrite : appendAudit tables.audits audit = .ok audits) :
    TablesStep otherDocument tables { tables with audits } :=
  ⟨fun _ row hrow => ⟨row, hrow, .kept rfl⟩, (appendAudit_ok hwrite).2.2⟩

/-- What a call has read is still stored. -/
def ReadsStored (schedules : List ScheduleRow) (call : PublicationCall) :
    PublicationPhase → Prop
  | .reading (.current source) =>
    StillStored schedules (.str call.identity.scheduleVersionId) source
  | .reading (.previous source _) =>
    StillStored schedules (.str call.identity.scheduleVersionId) source
  | .committing w =>
    StillStored schedules (.str call.identity.scheduleVersionId) w.source ∧
      ∀ current previous, w.current = some current → w.previous = some previous →
        StillStored schedules (.str current.scheduleVersionId) previous
  | _ => True

theorem ReadsStored.step {tables tables' : PublicationTables} {call : PublicationCall}
    {phase : PublicationPhase} (h : ReadsStored tables.schedules call phase)
    (hstep : TablesStep otherDocument tables tables') :
    ReadsStored tables'.schedules call phase := by
  cases phase with
  | reading phase =>
    cases phase with
    | current source => exact StillStored.step h hstep
    | previous source current => exact StillStored.step h hstep
    | _ => trivial
  | denying error audit => trivial
  | committing w => exact ⟨h.1.step hstep, fun current previous hcurrent hprevious =>
      (h.2 current previous hcurrent hprevious).step hstep⟩

variable {tables : PublicationTables} {call : PublicationCall} {w : PublicationWrite}

/-- The superseded row is not the source, so it is written over the document that was read. -/
theorem Superseding.moved {current : CurrentPublicationReference}
    {previous : StoredScheduleVersion} {superseded : Json}
    (h : Superseding otherDocument (tables.schedules.map (call.transition w).apply) call w current
      previous superseded)
    (hreads : ReadsStored tables.schedules call (.committing w)) :
    ∃ row, Transitioned otherDocument (tables.schedules.map (call.transition w).apply)
        (supersession superseded previous) row ∧
      findSchedule tables.schedules (.str current.scheduleVersionId) = some row ∧
      (call.transition w).apply row = row ∧
      superseded = row.document.update
        (supersededFields (scheduleReference w.source.document "PUBLISHED")) ∧
      loadSchedule otherDocument ((supersession superseded previous).apply row) =
        .ok ((supersession superseded previous).apply row).document := by
  obtain ⟨moved, hmoved⟩ := h.row
  obtain ⟨row, hrow, hle, hsame⟩ := hreads.2 current previous h.current_eq h.previous_eq
  have hkept : (call.transition w).apply row = row := by
    refine ScheduleTransition.apply_other ?_
    rw [findSchedule_id hrow]
    exact fun heq => h.checked.distinct (Json.str.inj heq)
  obtain rfl : row = moved := by
    have hfound := hmoved.found
    rw [h.id, findSchedule_apply, hrow, Option.map_some, hkept] at hfound
    exact Option.some.inj hfound
  have hdocument : superseded = row.document.update
      (supersededFields (scheduleReference w.source.document "PUBLISHED")) := by
    rw [hsame hmoved.revision, h.document]
  refine ⟨row, hmoved, hrow, hkept, hdocument, loadSchedule_update hmoved hdocument ?_⟩
  rw [supersededFields_keys]
  decide

/-- The two writes of a publication, on the versions that the call has read. -/
theorem TablesStep.published {tables' : PublicationTables}
    (hprepared : Prepared otherDocument call w)
    (hwrite : Published otherDocument tables call w tables')
    (hreads : ReadsStored tables.schedules call (.committing w)) :
    TablesStep otherDocument tables tables' := by
  obtain ⟨source, hsource⟩ := hwrite.source
  have hout : ¬source.InHistory := by
    rw [ScheduleRow.InHistory, hsource.state]
    show ¬(Json.str "APPROVED" = .str "PUBLISHED" ∨ Json.str "APPROVED" = .str "SUPERSEDED")
    decide
  have hfirst : TablesStep otherDocument tables
      { tables with schedules := tables.schedules.map (call.transition w).apply } := by
    refine .transition hsource (.moved ?_ hout)
    rw [ScheduleTransition.apply_own (findSchedule_id hsource.found), hsource.revision]
  have haudits : tables.audits <+: tables'.audits := (appendAudit_ok hwrite.audits).2.2
  rcases supersede_ok hprepared hwrite.superseded with ⟨-, hschedules⟩ |
    ⟨current, previous, superseded, hsup, hschedules⟩
  · refine ⟨?_, haudits⟩
    rw [hschedules]
    exact hfirst.rows
  · obtain ⟨row, hmoved, hrow, hkept, hdocument, hloaded⟩ := hsup.moved hreads
    have hid := hsup.id
    have hown := ScheduleTransition.apply_own (findSchedule_id hmoved.found)
    have hstep : RowStep otherDocument row ((supersession superseded previous).apply row) := by
      refine .superseded ?_ hmoved.state
        ⟨scheduleReference w.source.document "PUBLISHED", ?_⟩ hloaded
      · rw [hown, hmoved.revision]
      · rw [hown]
        exact hdocument
    refine ⟨?_, haudits⟩
    intro id found hfound
    rw [hschedules]
    refine ⟨_, by rw [findSchedule_apply, findSchedule_apply, hfound, Option.map_some,
      Option.map_some], ?_⟩
    by_cases heq : found.id = .str current.scheduleVersionId
    · obtain rfl : row = found := by
        rw [← findSchedule_id hfound, heq, hrow] at hfound
        exact Option.some.inj hfound
      rw [hkept]
      exact hstep
    · rw [ScheduleTransition.apply_other (w := supersession superseded previous)
        (by rw [ScheduleTransition.apply_id, hid]; exact heq)]
      obtain ⟨after, hafter, hfoundStep⟩ := hfirst.rows id found hfound
      have hafter' : findSchedule (tables.schedules.map (call.transition w).apply) id =
        some after := hafter
      rw [findSchedule_apply, hfound, Option.map_some, Option.some.injEq] at hafter'
      rw [hafter']
      exact hfoundStep

/-! ### Evidence of a publication -/

/-- The audit event of a success is stored under the identity of the call. -/
structure AuditRecords (tables : PublicationTables) (call : PublicationCall) (audit : Json) :
    Prop where
  found : findAudit tables.audits (.str call.identity.auditEventId) = some audit
  loaded : canonicalDocument audit "audit-event.v1" = .ok ()
  identity : checkAuditIdentity audit call.identity = .ok ()
  isObj : (audit.get "result").isObj = true
  outcome : (audit.get "result").get "outcome" = .str "SUCCEEDED"

/-- The published version is stored with the publication that the audit event records. -/
def ScheduleRecords (otherDocument : String → Json → Except P4ContractError Unit)
    (schedules : List ScheduleRow) (call : PublicationCall) (audit : Json) : Prop :=
  ∃ row, findSchedule schedules (.str call.identity.scheduleVersionId) = some row ∧
    loadSchedule otherDocument row = .ok row.document ∧
    checkReplayedSchedule call.identity audit (some row.document) = .ok ()

/-- The version that the command names as previous is stored as superseded by it. -/
def PreviousRecords (otherDocument : String → Json → Except P4ContractError Unit)
    (schedules : List ScheduleRow) (command audit : Json) : Prop :=
  ∃ row, findSchedule schedules ((requestedPrevious command).get "schedule_version_id") =
      some row ∧
    loadSchedule otherDocument row = .ok row.document ∧
    checkReplayedPrevious command audit (some row.document) = .ok ()

theorem AuditRecords.step {tables' : PublicationTables} {audit : Json}
    (h : AuditRecords tables call audit) (hstep : TablesStep otherDocument tables tables') :
    AuditRecords tables' call audit := by
  refine ⟨?_, h.loaded, h.identity, h.isObj, h.outcome⟩
  obtain ⟨rest, hrest⟩ := hstep.audits
  have hfound := h.found
  rw [findAudit] at hfound ⊢
  rw [← hrest, List.find?_append, hfound, Option.some_or]

theorem checkReplayedSchedule_state {identity : PublicationIdentity} {audit stored : Json}
    (h : checkReplayedSchedule identity audit (some stored) = .ok ()) :
    stored.get "state" = .str "PUBLISHED" ∨ stored.get "state" = .str "SUPERSEDED" := by
  simp only [checkReplayedSchedule, bind_eq_ok, exists_unit_iff, require_eq_ok] at h
  obtain ⟨_, -, _, -, ⟨-, -, -, -, -, hstate⟩, -⟩ := h
  exact hstate

/-- The checks of a replay read the fields that a supersession keeps, and the state. -/
theorem checkReplayedSchedule_update {identity : PublicationIdentity}
    {audit stored reference : Json}
    (hstored : stored.isObj = true)
    (h : checkReplayedSchedule identity audit (some stored) = .ok ()) :
    checkReplayedSchedule identity audit
      (some (stored.update (supersededFields reference))) = .ok () := by
  have hkept : ∀ key ∉ ["state", "superseded_by", "allowed_actions"],
      (stored.update (supersededFields reference)).get key = stored.get key :=
    fun key hkey => Json.get_update_of_notMem (by rwa [supersededFields_keys])
  have hstate : (stored.update (supersededFields reference)).get "state" = .str "SUPERSEDED" :=
    Json.get_update_mem hstored (by rw [supersededFields_keys]; decide)
  simp only [checkReplayedSchedule, bind_eq_ok, exists_unit_iff, require_eq_ok] at h ⊢
  obtain ⟨source, hsource, published, hpublished, ⟨h1, h2, h3, h4, h5, -⟩, hrest⟩ := h
  refine ⟨source, hsource, published, hpublished, ⟨h1, h2, h3, h4, ?_, .inr hstate⟩, ?_⟩
  · rw [hkept _ (by decide)]
    exact h5
  · rw [hkept "publication" (by decide)]
    exact hrest

theorem ScheduleRecords.step {tables' : PublicationTables} {audit : Json}
    (h : ScheduleRecords otherDocument tables.schedules call audit)
    (hstep : TablesStep otherDocument tables tables') :
    ScheduleRecords otherDocument tables'.schedules call audit := by
  obtain ⟨row, hrow, hloaded, hchecked⟩ := h
  obtain ⟨row', hrow', hmove⟩ := hstep.rows _ row hrow
  refine ⟨row', hrow', ?_⟩
  cases hmove with
  | kept same =>
    subst same
    exact ⟨hloaded, hchecked⟩
  | moved revision outside => exact absurd (checkReplayedSchedule_state hchecked) outside
  | superseded revision state document loaded =>
    obtain ⟨reference, hdocument⟩ := document
    refine ⟨loaded, ?_⟩
    rw [hdocument]
    exact checkReplayedSchedule_update (isObj_of_get state) hchecked

theorem checkReplayedPrevious_state {command audit previous : Json}
    (h : checkReplayedPrevious command audit (some previous) = .ok ()) :
    previous.get "state" = .str "SUPERSEDED" := by
  simp only [checkReplayedPrevious, bind_eq_ok, require_eq_ok] at h
  obtain ⟨_, -, hstate, -⟩ := h
  exact hstate

theorem PreviousRecords.step {tables' : PublicationTables} {command audit : Json}
    (h : PreviousRecords otherDocument tables.schedules command audit)
    (hstep : TablesStep otherDocument tables tables') :
    PreviousRecords otherDocument tables'.schedules command audit := by
  obtain ⟨row, hrow, hloaded, hchecked⟩ := h
  obtain ⟨row', hrow', hmove⟩ := hstep.rows _ row hrow
  have hstate : row.state = .str "SUPERSEDED" := checkReplayedPrevious_state hchecked
  cases hmove with
  | kept same =>
    subst same
    exact ⟨_, hrow', hloaded, hchecked⟩
  | moved revision outside => exact absurd (.inr hstate) outside
  | superseded revision state document loaded =>
    rw [hstate] at state
    exact absurd (Json.str.inj state) (by decide)

/-- **A replay of the command would now succeed, with the references of a result.** -/
structure Recorded (otherDocument : String → Json → Except P4ContractError Unit)
    (tables : PublicationTables) (call : PublicationCall) (audit : Json)
    (result : PublicationServiceResult) : Prop where
  recorded : AuditRecords tables call audit
  schedule : ScheduleRecords otherDocument tables.schedules call audit
  previous : requestedPrevious call.command ≠ .null →
    PreviousRecords otherDocument tables.schedules call.command audit
  replayed : ∃ replay, call.replayed audit = .ok replay ∧
    replay.publishedVersion = result.publishedVersion ∧
    replay.supersededVersion = result.supersededVersion

theorem Recorded.step {tables' : PublicationTables} {audit : Json}
    {result : PublicationServiceResult} (h : Recorded otherDocument tables call audit result)
    (hstep : TablesStep otherDocument tables tables') :
    Recorded otherDocument tables' call audit result :=
  ⟨h.recorded.step hstep, h.schedule.step hstep, fun hne => (h.previous hne).step hstep, h.replayed⟩

end

end PlantNexus.Publishing
