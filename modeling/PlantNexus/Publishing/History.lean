import Mathlib.Data.List.Chain
import PlantNexus.Publishing.System

/-! The published history of a plane.

The table of results lists the versions that were published, in their order. That list is the
whole history: its versions are exactly those that are published or superseded, each superseded
one names its successor, and the current reference is the last. Every step keeps this; a step of
another service never touches a version of the history, and a publication supersedes the last
version and adds its own. -/
namespace PlantNexus.Publishing
open Data Domain

/-- The versions of the published results, in the order of their publication. -/
def publishedIds (tables : PublicationTables) : List Json :=
  tables.results.map fun result => (result.get "published_version").get "schedule_version_id"

/-- The reference to a row as a published version. -/
def ScheduleRow.reference (row : ScheduleRow) : Json := scheduleReference row.creation "PUBLISHED"

/-- The first version is superseded and names the second. -/
def SupersededBy (schedules : List ScheduleRow) (id next : Json) : Prop :=
  ∃ row row', findSchedule schedules id = some row ∧ findSchedule schedules next = some row' ∧
    row.state = .str "SUPERSEDED" ∧ row.document.get "superseded_by" = row'.reference

/-- The current reference is the last of some published versions, at its place and with the
fingerprint and the publication of its row. -/
structure IsCurrent (schedules : List ScheduleRow) (ids : List Json)
    (current : CurrentPublicationReference) : Prop where
  last : ids.getLast? = some (.str current.scheduleVersionId)
  revision : current.referenceRevision + 1 = ids.length
  row : ∃ row, findSchedule schedules (.str current.scheduleVersionId) = some row ∧
    row.state = .str "PUBLISHED" ∧ row.contentFingerprint = .str current.contentFingerprint ∧
    (row.document.get "publication").get "publication_id" = .str current.publicationId

def ScheduleRow.InHistory (row : ScheduleRow) : Prop :=
  row.state = .str "PUBLISHED" ∨ row.state = .str "SUPERSEDED"

structure PublishedHistory (tables : PublicationTables) : Prop where
  rows : (tables.schedules.map ScheduleRow.id).Nodup
  distinct : (publishedIds tables).Nodup
  exact : ∀ row ∈ tables.schedules, row.id ∈ publishedIds tables ↔ row.InHistory
  stored : ∀ id ∈ publishedIds tables, findSchedule tables.schedules id ≠ none
  linked : (publishedIds tables).IsChain (SupersededBy tables.schedules)
  current : match tables.current with
    | none => publishedIds tables = []
    | some current => IsCurrent tables.schedules (publishedIds tables) current

/-! ### Rows under a step -/

@[simp]
theorem ScheduleTransition.apply_creation (w : ScheduleTransition) (row : ScheduleRow) :
    (w.apply row).creation = row.creation := by
  unfold ScheduleTransition.apply
  split <;> rfl

@[simp]
theorem ScheduleTransition.apply_id (w : ScheduleTransition) (row : ScheduleRow) :
    (w.apply row).id = row.id := by
  rw [ScheduleRow.id, apply_creation, ScheduleRow.id]

theorem ScheduleTransition.apply_other {w : ScheduleTransition} {row : ScheduleRow}
    (h : row.id ≠ w.scheduleVersionId) : w.apply row = row := if_neg h

theorem ScheduleTransition.apply_own {w : ScheduleTransition} {row : ScheduleRow}
    (h : row.id = w.scheduleVersionId) : w.apply row =
      { row with document := w.candidate, stateRevision := w.expectedStateRevision + 1 } := if_pos h

theorem findSchedule_id {schedules : List ScheduleRow} {id : Json} {row : ScheduleRow}
    (h : findSchedule schedules id = some row) : row.id = id := by
  simpa using List.find?_some h

theorem findSchedule_mem {schedules : List ScheduleRow} {id : Json} {row : ScheduleRow}
    (h : findSchedule schedules id = some row) : row ∈ schedules := List.mem_of_find?_eq_some h

theorem findSchedule_of_mem {schedules : List ScheduleRow} {row : ScheduleRow}
    (hrows : (schedules.map ScheduleRow.id).Nodup) (h : row ∈ schedules) :
    findSchedule schedules row.id = some row := by
  induction schedules with
  | nil => cases h
  | cons first rest ih =>
    rw [List.map_cons, List.nodup_cons] at hrows
    rw [findSchedule, List.find?_cons]
    rcases List.mem_cons.mp h with rfl | h
    · simp
    · have hne : first.id ≠ row.id := fun heq => hrows.1 (heq ▸ List.mem_map_of_mem h)
      simp only [hne, decide_false]
      exact ih hrows.2 h

theorem findSchedule_map {schedules : List ScheduleRow} {f : ScheduleRow → ScheduleRow} (id : Json)
    (hf : ∀ row, (f row).creation = row.creation) :
    findSchedule (schedules.map f) id = (findSchedule schedules id).map f := by
  have hid : ∀ row, (f row).id = row.id := fun row => by rw [ScheduleRow.id, hf, ScheduleRow.id]
  rw [findSchedule, List.find?_map, findSchedule]
  congr 2
  funext row
  simp only [Function.comp_apply, hid]

theorem findSchedule_apply (schedules : List ScheduleRow) (w : ScheduleTransition) (id : Json) :
    findSchedule (schedules.map w.apply) id = (findSchedule schedules id).map w.apply :=
  findSchedule_map id w.apply_creation

theorem findSchedule_append_of_none {schedules : List ScheduleRow} {row : ScheduleRow} {id : Json}
    (h : id ≠ row.id) :
    findSchedule (schedules ++ [row]) id = findSchedule schedules id := by
  rw [findSchedule, List.find?_append, findSchedule]
  have hnone : [row].find? (fun row => decide (row.id = id)) = none := by
    simp [Ne.symm h]
  rw [hnone, Option.or_none]

theorem rows_apply {schedules : List ScheduleRow} (w : ScheduleTransition)
    (h : (schedules.map ScheduleRow.id).Nodup) :
    ((schedules.map w.apply).map ScheduleRow.id).Nodup := by
  rw [List.map_map]
  have hid : ScheduleRow.id ∘ w.apply = ScheduleRow.id := by
    funext row
    exact w.apply_id row
  rw [hid]
  exact h

/-- A link stays when a version moves that is not superseded. -/
theorem SupersededBy.apply {schedules : List ScheduleRow} {w : ScheduleTransition}
    {moved : ScheduleRow} {id next : Json} (h : SupersededBy schedules id next)
    (hmoved : findSchedule schedules w.scheduleVersionId = some moved)
    (hstate : moved.state ≠ .str "SUPERSEDED") :
    SupersededBy (schedules.map w.apply) id next := by
  obtain ⟨row, row', hrow, hrow', hsuperseded, hlink⟩ := h
  have hid : row.id ≠ w.scheduleVersionId := by
    intro heq
    rw [← heq, findSchedule_id hrow, hrow, Option.some.injEq] at hmoved
    exact hstate (hmoved ▸ hsuperseded)
  refine ⟨row, w.apply row', ?_, ?_, hsuperseded, ?_⟩
  · rw [findSchedule_apply, hrow, Option.map_some, ScheduleTransition.apply_other hid]
  · rw [findSchedule_apply, hrow', Option.map_some]
  · rw [hlink, ScheduleRow.reference, ScheduleRow.reference, ScheduleTransition.apply_creation]

/-! ### Steps of other services -/

section
variable {otherDocument : String → Json → Except P4ContractError Unit} {tables : PublicationTables}

theorem legal_state {state : String} {candidate : Json}
    (h : (state, (candidate.get "state").text) ∈ scheduleVersionTransitions) :
    candidate.get "state" = .str (candidate.get "state").text := by
  cases hstate : candidate.get "state" with
  | str text => rfl
  | _ =>
    rw [hstate] at h
    simp [scheduleVersionTransitions, Json.text] at h

/-- A version that moves to a state of the review is not in the history. -/
theorem review_outside {schedules : List ScheduleRow} {w : ScheduleTransition}
    {moved : ScheduleRow} (hstate : w.candidate.get "state" ∈
      [Json.str "READY_FOR_REVIEW", .str "APPROVED", .str "REJECTED"])
    (hmoved : Transitioned otherDocument schedules w moved) : ¬moved.InHistory := by
  have hbefore : w.expectedState ≠ "PUBLISHED" ∧ w.expectedState ≠ "SUPERSEDED" := by
    have hlegal := hmoved.legal
    simp only [List.mem_cons, List.not_mem_nil, or_false] at hstate
    rcases hstate with htarget | htarget | htarget <;>
      (rw [htarget] at hlegal
       simp only [scheduleVersionTransitions, Json.text, List.mem_cons, Prod.mk.injEq,
         List.not_mem_nil, or_false, String.reduceEq, and_false, false_or, and_true] at hlegal
       rw [hlegal]
       decide)
  rw [ScheduleRow.InHistory, hmoved.state]
  simpa using hbefore

/-- A transition that leaves the review states leaves the history alone. -/
theorem PublishedHistory.reviewed {schedules : List ScheduleRow} {w : ScheduleTransition}
    (h : PublishedHistory tables)
    (hstate : w.candidate.get "state" ∈
      [Json.str "READY_FOR_REVIEW", .str "APPROVED", .str "REJECTED"])
    (hwrite : transitionSchedule otherDocument tables.schedules w = .ok schedules) :
    PublishedHistory { tables with schedules } := by
  obtain ⟨moved, hmoved, rfl⟩ := transitionSchedule_ok hwrite
  have hout := review_outside hstate hmoved
  have hfree : w.scheduleVersionId ∉ publishedIds tables := by
    rw [← findSchedule_id hmoved.found]
    exact fun hmem => hout ((h.exact moved (findSchedule_mem hmoved.found)).mp hmem)
  have hsame : ∀ id ∈ publishedIds tables,
      findSchedule (tables.schedules.map w.apply) id = findSchedule tables.schedules id := by
    intro id hid
    rw [findSchedule_apply]
    cases hfind : findSchedule tables.schedules id with
    | none => rfl
    | some row =>
      have hne : row.id ≠ w.scheduleVersionId := by
        rw [findSchedule_id hfind]
        exact fun heq => hfree (heq ▸ hid)
      rw [Option.map_some, ScheduleTransition.apply_other hne]
  refine ⟨rows_apply w h.rows, h.distinct, ?_, ?_, ?_, ?_⟩
  · intro row hrow
    obtain ⟨before, hmem, rfl⟩ := List.mem_map.mp hrow
    rw [ScheduleTransition.apply_id]
    by_cases hid : before.id = w.scheduleVersionId
    · rw [hid, ScheduleTransition.apply_own hid]
      refine iff_of_false hfree ?_
      simp only [ScheduleRow.InHistory, ScheduleRow.state]
      simp only [List.mem_cons, List.not_mem_nil, or_false] at hstate
      rcases hstate with h' | h' | h' <;> rw [h'] <;> decide
    · rw [ScheduleTransition.apply_other hid]
      exact h.exact before hmem
  · intro id hid
    rw [hsame id hid]
    exact h.stored id hid
  · refine h.linked.imp ?_
    intro id next hlink
    exact hlink.apply hmoved.found fun heq => hout (.inr heq)
  · have hcurrent := h.current
    cases htables : tables.current with
    | none =>
      rw [htables] at hcurrent
      exact hcurrent
    | some current =>
      rw [htables] at hcurrent
      refine ⟨hcurrent.last, hcurrent.revision, ?_⟩
      rw [hsame _ (List.mem_of_getLast? hcurrent.last)]
      exact hcurrent.row

/-- A new draft is not in the history. -/
theorem PublishedHistory.drafted {schedules : List ScheduleRow} {document : Json} {replayed : Bool}
    (h : PublishedHistory tables) (hstate : document.get "state" = .str "DRAFT")
    (hwrite : putSchedule otherDocument tables.schedules document = .ok (schedules, replayed)) :
    PublishedHistory { tables with schedules } := by
  rcases putSchedule_ok hwrite with rfl | ⟨rfl, hfree⟩
  · exact h
  have hnew : ∀ id ∈ publishedIds tables, id ≠ document.get "schedule_version_id" := by
    intro id hid heq
    exact h.stored id hid (heq ▸ hfree)
  have hsame : ∀ id row, findSchedule tables.schedules id = some row →
      findSchedule (tables.schedules ++ [⟨document, document, 0⟩]) id = some row := by
    intro id row hfind
    rw [findSchedule_append_of_none, hfind]
    intro heq
    rw [heq, ScheduleRow.id, hfree] at hfind
    cases hfind
  have hrows : ∀ row ∈ tables.schedules, row.id ≠ document.get "schedule_version_id" := by
    intro row hrow heq
    have hfind := findSchedule_of_mem h.rows hrow
    rw [heq, hfree] at hfind
    cases hfind
  refine ⟨?_, h.distinct, ?_, ?_, ?_, ?_⟩
  · rw [List.map_append, List.nodup_append]
    refine ⟨h.rows, List.nodup_singleton _, ?_⟩
    intro id hid other hother heq
    obtain ⟨row, hrow, rfl⟩ := List.mem_map.mp hid
    obtain rfl := List.mem_singleton.mp hother
    exact hrows row hrow heq
  · intro row hrow
    rcases List.mem_append.mp hrow with hrow | hrow
    · exact h.exact row hrow
    · obtain rfl := List.mem_singleton.mp hrow
      refine iff_of_false (fun hmem => hnew _ hmem rfl) ?_
      simp only [ScheduleRow.InHistory, ScheduleRow.state, hstate]
      decide
  · intro id hid
    obtain ⟨row, hfind⟩ := Option.ne_none_iff_exists'.mp (h.stored id hid)
    rw [hsame id row hfind]
    exact Option.some_ne_none row
  · refine h.linked.imp ?_
    intro id next hlink
    obtain ⟨row, row', hrow, hrow', hrest⟩ := hlink
    exact ⟨row, row', hsame _ _ hrow, hsame _ _ hrow', hrest⟩
  · have hcurrent := h.current
    cases htables : tables.current with
    | none =>
      rw [htables] at hcurrent
      exact hcurrent
    | some current =>
      rw [htables] at hcurrent
      obtain ⟨row, hrow, hrest⟩ := hcurrent.row
      exact ⟨hcurrent.last, hcurrent.revision, row, hsame _ _ hrow, hrest⟩

end

/-! ### A publication -/

section
variable {otherDocument : String → Json → Except P4ContractError Unit} {tables : PublicationTables}
  {call : PublicationCall} {w : PublicationWrite}

theorem Prepared.source (h : Prepared otherDocument call w) :
    SourceChecked w.source.document call.command call.identity := checkSource_ok h.checkedSource

theorem Prepared.published_get (h : Prepared otherDocument call w) (key : String)
    (hkey : key ∉ ["state", "publication", "allowed_actions"]) :
    w.documents.publishedSchedule.get key = w.source.document.get key := by
  rw [h.documents]
  exact Json.get_update_of_notMem hkey

theorem Prepared.published_new (h : Prepared otherDocument call w) (key : String)
    (hkey : key ∈ ["state", "publication", "allowed_actions"]) :
    w.documents.publishedSchedule.get key =
      (Json.obj (publishedFields call.identity call.context.occurredAtUtc)).get key := by
  rw [h.documents]
  exact Json.get_update_mem (isObj_of_get h.source.id) hkey

/-- The version that a publication supersedes, when there is a current one. -/
structure Superseding (otherDocument : String → Json → Except P4ContractError Unit)
    (schedules : List ScheduleRow) (call : PublicationCall) (w : PublicationWrite)
    (current : CurrentPublicationReference) (previous : StoredScheduleVersion) (superseded : Json) :
    Prop where
  current_eq : w.current = some current
  previous_eq : w.previous = some previous
  checked : PreviousChecked previous.document call.command current.state call.identity
  document : superseded = previous.document.update
    (supersededFields (scheduleReference w.source.document "PUBLISHED"))
  row : ∃ row, Transitioned otherDocument schedules (supersession superseded previous) row

theorem supersede_ok {schedules schedules' : List ScheduleRow}
    (h : Prepared otherDocument call w)
    (hwrite : supersede otherDocument schedules w = .ok schedules') :
    (w.current = none ∧ schedules' = schedules) ∨
      ∃ current previous superseded,
        Superseding otherDocument schedules call w current previous superseded ∧
        schedules' = schedules.map (supersession superseded previous).apply := by
  have hdocuments : w.documents.supersededSchedule = w.previous.map fun previous =>
      previous.document.update
        (supersededFields (scheduleReference w.source.document "PUBLISHED")) := by
    rw [h.documents, PreparedPublication.documents, Option.map_map]
    rfl
  rcases checkCurrent_ok h.checkedCurrent with ⟨hcurrent, hprevious, -⟩ |
    ⟨state, document, hstate, hdocument, hchecked⟩
  · rw [Option.map_eq_none_iff] at hcurrent hprevious
    rw [supersede, hdocuments, hprevious] at hwrite
    exact .inl ⟨hcurrent, (Except.ok.inj hwrite).symm⟩
  · obtain ⟨current, hcurrent, rfl⟩ := Option.map_eq_some_iff.mp hstate
    obtain ⟨previous, hprevious, rfl⟩ := Option.map_eq_some_iff.mp hdocument
    rw [supersede, hdocuments, hprevious, Option.map_some] at hwrite
    obtain ⟨row, hrow, rfl⟩ := transitionSchedule_ok ((mapError_eq_ok ..).mp hwrite)
    exact .inr ⟨current, previous, _, ⟨hcurrent, hprevious, hchecked, rfl, row, hrow⟩, rfl⟩

theorem publishedIds_published {tables' : PublicationTables} (h : Prepared otherDocument call w)
    (hwrite : Published otherDocument tables call w tables') :
    publishedIds tables' = publishedIds tables ++ [.str call.identity.scheduleVersionId] := by
  rw [publishedIds, hwrite.current.results, List.map_append, publishedIds]
  congr 1
  rw [List.map_singleton, h.documents, PreparedPublication.documents, publicationResult_published,
    scheduleReference_id, h.source.id]

/-- A version joins the end of the history that supersedes its last. -/
theorem extended {ids : List Json} {schedules : List ScheduleRow} {id : Json}
    (hlinked : ids.IsChain (SupersededBy schedules))
    (hlast : ∀ last ∈ ids.getLast?, SupersededBy schedules last id) :
    (ids ++ [id]).IsChain (SupersededBy schedules) := by
  rw [List.isChain_append]
  refine ⟨hlinked, List.isChain_singleton id, ?_⟩
  intro last hmem next hnext
  obtain rfl : id = next := by simpa using hnext
  exact hlast last hmem

/-- The row of the source before a publication, and what the current reference says after it. -/
structure SourcePublished (otherDocument : String → Json → Except P4ContractError Unit)
    (tables : PublicationTables) (call : PublicationCall) (w : PublicationWrite)
    (row : ScheduleRow) : Prop where
  moved : Transitioned otherDocument tables.schedules (call.transition w) row
  approved : row.state = .str "APPROVED"
  state : ((call.transition w).apply row).state = .str "PUBLISHED"
  publication : (((call.transition w).apply row).document.get "publication").get
    "publication_id" = .str call.identity.publicationId

theorem Published.sourceRow {tables' : PublicationTables} (h : Prepared otherDocument call w)
    (hwrite : Published otherDocument tables call w tables') :
    ∃ row, SourcePublished otherDocument tables call w row := by
  obtain ⟨row, hrow⟩ := hwrite.source
  have hown := ScheduleTransition.apply_own (w := call.transition w) (findSchedule_id hrow.found)
  refine ⟨row, hrow, hrow.state, ?_, ?_⟩
  · rw [ScheduleRow.state, hown]
    exact h.published_new "state" (by decide)
  · rw [hown]
    show (w.documents.publishedSchedule.get "publication").get "publication_id" = _
    rw [h.published_new "publication" (by decide)]
    rfl

/-- What a publication does to the rows, whichever version it supersedes. -/
structure RowsPublished (tables : PublicationTables) (call : PublicationCall)
    (row : ScheduleRow) (f : ScheduleRow → ScheduleRow) : Prop where
  creation : ∀ row, (f row).creation = row.creation
  state : (f row).state = .str "PUBLISHED"
  publication : ((f row).document.get "publication").get "publication_id" =
    .str call.identity.publicationId
  others : ∀ other ∈ tables.schedules, other.id ≠ row.id →
    ((f other).InHistory ↔ other.InHistory)
  linked : ∀ id next, SupersededBy tables.schedules id next →
    SupersededBy (tables.schedules.map f) id next
  last : ∀ last ∈ (publishedIds tables).getLast?,
    SupersededBy (tables.schedules.map f) last (.str call.identity.scheduleVersionId)
  revision : (tables.current.elim 0 fun current => current.referenceRevision + 1) =
    (publishedIds tables).length

theorem PublishedHistory.entered {tables' : PublicationTables} {row : ScheduleRow}
    {f : ScheduleRow → ScheduleRow} (h : PublishedHistory tables)
    (hprepared : Prepared otherDocument call w)
    (hwrite : Published otherDocument tables call w tables')
    (hsource : SourcePublished otherDocument tables call w row)
    (hrows : tables'.schedules = tables.schedules.map f) (hf : RowsPublished tables call row f) :
    PublishedHistory tables' := by
  have hids := publishedIds_published hprepared hwrite
  have hrow : row.id = .str call.identity.scheduleVersionId := findSchedule_id hsource.moved.found
  have hfresh : .str call.identity.scheduleVersionId ∉ publishedIds tables := by
    rw [← hrow]
    intro hmem
    have hin := (h.exact row (findSchedule_mem hsource.moved.found)).mp hmem
    rw [ScheduleRow.InHistory, hsource.approved] at hin
    revert hin
    decide
  have hid : ∀ row, (f row).id = row.id := fun row => by
    rw [ScheduleRow.id, hf.creation, ScheduleRow.id]
  have hfound : findSchedule tables'.schedules (.str call.identity.scheduleVersionId) =
      some (f row) := by
    have hmoved := hsource.moved.found
    rw [PublicationCall.transition] at hmoved
    rw [hrows, findSchedule_map _ hf.creation, hmoved, Option.map_some]
  refine ⟨?_, ?_, ?_, ?_, ?_, ?_⟩
  · have hsame : ScheduleRow.id ∘ f = ScheduleRow.id := funext hid
    rw [hrows, List.map_map, hsame]
    exact h.rows
  · rw [hids, List.nodup_append]
    refine ⟨h.distinct, List.nodup_singleton _, ?_⟩
    intro id hid other hother heq
    obtain rfl := List.mem_singleton.mp hother
    exact hfresh (heq ▸ hid)
  · intro after hafter
    rw [hrows] at hafter
    obtain ⟨before, hmem, rfl⟩ := List.mem_map.mp hafter
    rw [hids, hid, List.mem_append, List.mem_singleton]
    by_cases heq : before.id = row.id
    · obtain rfl : before = row := by
        have hfind := findSchedule_of_mem h.rows hmem
        rw [heq, hrow] at hfind
        exact (Option.some.inj (hsource.moved.found.symm.trans hfind)).symm
      exact iff_of_true (.inr hrow) (.inl hf.state)
    · rw [hf.others before hmem heq, ← h.exact before hmem, hrow.symm]
      exact or_iff_left heq
  · intro id hmem
    rw [hrows, findSchedule_map _ hf.creation]
    rw [hids, List.mem_append, List.mem_singleton] at hmem
    rcases hmem with hmem | rfl
    · simpa using h.stored id hmem
    · have hmoved := hsource.moved.found
      rw [PublicationCall.transition] at hmoved
      rw [hmoved]
      exact Option.some_ne_none _
  · rw [hids, hrows]
    exact extended (h.linked.imp hf.linked) hf.last
  · rw [hwrite.current.current]
    have hdocument : w.documents.publicationResult.get "published_version" =
        scheduleReference w.source.document "PUBLISHED" := by
      rw [hprepared.documents]
      rfl
    obtain ⟨published, hpublished, -, hfingerprint⟩ := hwrite.current.published
    obtain ⟨text, htext⟩ := hwrite.current.texts "content_fingerprint" (by decide)
    rw [hdocument, scheduleReference_id, hprepared.source.id] at hpublished
    obtain rfl : f row = published := Option.some.inj (hfound.symm.trans hpublished)
    have hcurrent : currentOf w.documents.publicationResult
        (tables.current.elim 0 fun current => current.referenceRevision + 1) =
      { target := (w.documents.publicationResult.get "target").text
        scheduleVersionId := call.identity.scheduleVersionId
        contentFingerprint := text
        publicationId := call.identity.publicationId
        referenceRevision := (publishedIds tables).length
        updatedAtUtc := (w.documents.publicationResult.get "published_at_utc").text } := by
      rw [hdocument] at htext
      rw [currentOf, hdocument, hf.revision, scheduleReference_id, hprepared.source.id, htext]
      congr 1
      rw [hprepared.documents]
      rfl
    show IsCurrent _ _ (currentOf _ _)
    rw [hcurrent]
    refine ⟨?_, ?_, f row, hfound, hf.state, ?_, hf.publication⟩
    · rw [hids, List.getLast?_concat]
    · rw [hids, List.length_append, List.length_singleton]
    · rw [hfingerprint, htext]

/-- The published row is referred to as the result refers to it. -/
theorem Published.reference {tables' : PublicationTables} {row : ScheduleRow}
    {f : ScheduleRow → ScheduleRow} (hprepared : Prepared otherDocument call w)
    (hwrite : Published otherDocument tables call w tables')
    (hfound : findSchedule tables.schedules (.str call.identity.scheduleVersionId) = some row)
    (hrows : tables'.schedules = tables.schedules.map f)
    (hf : ∀ row, (f row).creation = row.creation) :
    (f row).reference = scheduleReference w.source.document "PUBLISHED" := by
  have hdocument : w.documents.publicationResult.get "published_version" =
      scheduleReference w.source.document "PUBLISHED" := by
    rw [hprepared.documents]
    rfl
  obtain ⟨published, hpublished, -, hfingerprint⟩ := hwrite.current.published
  rw [hdocument, scheduleReference_id, hprepared.source.id] at hpublished
  have hpublished' : findSchedule (tables.schedules.map f)
      (.str call.identity.scheduleVersionId) = some published := hrows ▸ hpublished
  rw [findSchedule_map _ hf, hfound, Option.map_some, Option.some.injEq] at hpublished'
  subst hpublished'
  have hid : (f row).id = .str call.identity.scheduleVersionId := findSchedule_id hpublished
  rw [hdocument, scheduleReference_fingerprint] at hfingerprint
  rw [ScheduleRow.reference, scheduleReference, scheduleReference, hprepared.source.id, ← hid,
    ← hfingerprint]
  rfl

theorem supersededFields_keys (reference : Json) :
    (supersededFields reference).map Prod.fst = ["state", "superseded_by", "allowed_actions"] := rfl

theorem Superseding.id {schedules : List ScheduleRow} {current : CurrentPublicationReference}
    {previous : StoredScheduleVersion} {superseded : Json}
    (h : Superseding otherDocument schedules call w current previous superseded) :
    (supersession superseded previous).scheduleVersionId = .str current.scheduleVersionId := by
  rw [supersession, h.document, Json.get_update_of_notMem
    (by rw [supersededFields_keys]; decide), h.checked.id]
  rfl

theorem Superseding.new {schedules : List ScheduleRow} {current : CurrentPublicationReference}
    {previous : StoredScheduleVersion} {superseded : Json} (key : String)
    (h : Superseding otherDocument schedules call w current previous superseded)
    (hkey : key ∈ ["state", "superseded_by", "allowed_actions"]) :
    superseded.get key = (Json.obj (supersededFields
      (scheduleReference w.source.document "PUBLISHED"))).get key := by
  rw [h.document]
  exact Json.get_update_mem (isObj_of_get h.checked.id) hkey

/-- **A publication extends the history by its source.** -/
theorem PublishedHistory.published {tables' : PublicationTables} (h : PublishedHistory tables)
    (hprepared : Prepared otherDocument call w)
    (hwrite : Published otherDocument tables call w tables') : PublishedHistory tables' := by
  obtain ⟨row, hsource⟩ := Published.sourceRow hprepared hwrite
  have hexpected : w.current = tables.current := hwrite.current.expected
  have hrow : row.id = .str call.identity.scheduleVersionId := findSchedule_id hsource.moved.found
  have hfound : findSchedule tables.schedules (.str call.identity.scheduleVersionId) = some row :=
    hsource.moved.found
  have hunsuperseded : row.state ≠ .str "SUPERSEDED" := by
    rw [hsource.approved]
    decide
  have hcurrent := h.current
  rcases supersede_ok hprepared hwrite.superseded with ⟨hnone, hschedules⟩ |
    ⟨current, previous, superseded, hsup, hschedules⟩
  · rw [← hexpected, hnone] at hcurrent
    refine h.entered hprepared hwrite hsource hschedules
      ⟨ScheduleTransition.apply_creation _, hsource.state, hsource.publication, ?_, ?_, ?_, ?_⟩
    · intro other hother hne
      rw [ScheduleTransition.apply_other (w := call.transition w) (fun heq => hne (heq.trans
        hrow.symm))]
    · exact fun id next hlink => hlink.apply hfound hunsuperseded
    · intro last hlast
      rw [hcurrent] at hlast
      cases hlast
    · rw [← hexpected, hnone, hcurrent]
      rfl
  · rw [← hexpected, hsup.current_eq] at hcurrent
    have hid := hsup.id
    obtain ⟨moved, hmoved⟩ := hsup.row
    have hne : (Json.str current.scheduleVersionId) ≠ .str call.identity.scheduleVersionId :=
      fun heq => hsup.checked.distinct (Json.str.inj heq)
    -- the superseded version is not the source, so the first write leaves it alone
    obtain ⟨before, hbefore, rfl⟩ : ∃ before, findSchedule tables.schedules
        (.str current.scheduleVersionId) = some before ∧
        (call.transition w).apply before = moved := by
      have hfind := hmoved.found
      rw [hid, findSchedule_apply] at hfind
      exact Option.map_eq_some_iff.mp hfind
    have hbeforeId : before.id = .str current.scheduleVersionId := findSchedule_id hbefore
    rw [ScheduleTransition.apply_other (by rw [hbeforeId]; exact hne)] at hmoved
    have hpublished : before.state = .str "PUBLISHED" := hmoved.state
    have hsuperseded : ((supersession superseded previous).apply before).state =
        .str "SUPERSEDED" := by
      rw [ScheduleTransition.apply_own (hid ▸ hbeforeId)]
      exact hsup.new "state" (by decide)
    let f : ScheduleRow → ScheduleRow :=
      fun row => (supersession superseded previous).apply ((call.transition w).apply row)
    have hf : ∀ row, (f row).creation = row.creation := fun row => by simp [f]
    have hrows : tables'.schedules = tables.schedules.map f := by
      rw [hschedules, List.map_map]
      rfl
    have hsourceRow : f row = (call.transition w).apply row := by
      refine ScheduleTransition.apply_other ?_
      rw [ScheduleTransition.apply_id, hrow, hid]
      exact hne.symm
    have hbeforeRow : f before = (supersession superseded previous).apply before := by
      show (supersession superseded previous).apply _ = _
      rw [ScheduleTransition.apply_other (w := call.transition w) (by rw [hbeforeId]; exact hne)]
    refine h.entered hprepared hwrite hsource hrows ⟨hf, ?_, ?_, ?_, ?_, ?_, ?_⟩
    · rw [hsourceRow]
      exact hsource.state
    · rw [hsourceRow]
      exact hsource.publication
    · intro other hother hne'
      by_cases heq : other.id = .str current.scheduleVersionId
      · obtain rfl : before = other := by
          have hfind := findSchedule_of_mem h.rows hother
          rw [heq, hbefore] at hfind
          exact Option.some.inj hfind
        rw [hbeforeRow]
        exact iff_of_true (.inr hsuperseded) (.inl hpublished)
      · have hsame : f other = other := by
          show (supersession superseded previous).apply _ = _
          rw [ScheduleTransition.apply_other (w := call.transition w) (fun heq => hne'
            (heq.trans hrow.symm)), ScheduleTransition.apply_other (by rw [hid]; exact heq)]
        rw [hsame]
    · intro id next hlink
      have hfirst := hlink.apply (w := call.transition w) hfound hunsuperseded
      have hmovedRow : findSchedule (tables.schedules.map (call.transition w).apply)
          (supersession superseded previous).scheduleVersionId = some before := by
        rw [hid, findSchedule_apply, hbefore, Option.map_some, ScheduleTransition.apply_other]
        rw [hbeforeId]
        exact hne
      have hsecond := hfirst.apply hmovedRow (by rw [hpublished]; decide)
      rwa [List.map_map] at hsecond
    · intro last hlast
      obtain rfl : .str current.scheduleVersionId = last :=
        Option.some.inj (hcurrent.last.symm.trans hlast)
      refine ⟨f before, f row, ?_, ?_, ?_, ?_⟩
      · rw [findSchedule_map _ hf, hbefore, Option.map_some]
      · rw [findSchedule_map _ hf, hfound, Option.map_some]
      · rw [hbeforeRow]
        exact hsuperseded
      · rw [Published.reference hprepared hwrite hfound hrows hf, hbeforeRow,
          ScheduleTransition.apply_own (hid ▸ hbeforeId)]
        exact hsup.new "superseded_by" (by decide)
    · rw [← hexpected, hsup.current_eq]
      exact hcurrent.revision

end

end PlantNexus.Publishing
