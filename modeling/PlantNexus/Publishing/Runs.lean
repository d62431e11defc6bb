import PlantNexus.Publishing.History

/-! The published history along a run.

Every reachable state keeps the history, whatever the order of the steps: the documents of a call
that is about to commit were prepared from what it has read, and the transaction checks that
against the tables. -/
namespace PlantNexus.Publishing
open Data Domain

/-! ### Steps of a call -/

section
variable {otherDocument : String → Json → Except P4ContractError Unit} {tables : PublicationTables}
  {call : PublicationCall}

/-- Where a read leads, and what it has found. -/
inductive ReadStep (otherDocument : String → Json → Except P4ContractError Unit)
    (tables : PublicationTables) (call : PublicationCall) : ReadPhase → PublicationPhase → Prop
  | denied {error : PublicationError} {audit : Json} :
      ReadStep otherDocument tables call (.denied error) (.denying error audit)
  | absent : ReadStep otherDocument tables call (.lookup none) (.reading .source)
  | recorded {raced : Option PublicationError} {audit : Json}
      (hread : getAudit tables.audits call.identity.auditEventId = .ok (some audit))
      (hidentity : checkAuditIdentity audit call.identity = .ok ())
      (hobject : (audit.get "result").isObj = true)
      (houtcome : (audit.get "result").get "outcome" = .str "SUCCEEDED") :
      ReadStep otherDocument tables call (.lookup raced) (.reading (.replaying audit))
  | superseding {audit : Json} {stored : Option Json}
      (hread : getSchedule otherDocument tables (.str call.identity.scheduleVersionId) =
        .ok stored)
      (hchecked : checkReplayedSchedule call.identity audit stored = .ok ())
      (hrequested : requestedPrevious call.command ≠ .null) :
      ReadStep otherDocument tables call (.replaying audit) (.reading (.superseding audit))
  | source {source : StoredScheduleVersion}
      (hread : getRecord otherDocument tables.schedules (.str call.identity.scheduleVersionId) =
        .ok (some source)) :
      ReadStep otherDocument tables call .source (.reading (.current source))
  | current {source : StoredScheduleVersion} {current : CurrentPublicationReference}
      (hcurrent : tables.current = some current) :
      ReadStep otherDocument tables call (.current source) (.reading (.previous source current))
  | first {source : StoredScheduleVersion} {w : PublicationWrite} (hsource : w.source = source)
      (hcurrent : w.current = none) (hprepared : Prepared otherDocument call w) :
      ReadStep otherDocument tables call (.current source) (.committing w)
  | previous {source previous : StoredScheduleVersion} {current : CurrentPublicationReference}
      {w : PublicationWrite}
      (hread : getRecord otherDocument tables.schedules (.str current.scheduleVersionId) =
        .ok (some previous))
      (hsource : w.source = source) (hprevious : w.previous = some previous)
      (hcurrent : w.current = some current) (hprepared : Prepared otherDocument call w) :
      ReadStep otherDocument tables call (.previous source current) (.committing w)

theorem read_next {phase : ReadPhase} {next : PublicationPhase}
    (hidentity : publicationIdentity call.command "SIMULATION" = .ok call.identity)
    (h : call.read otherDocument tables phase = .ok (.next next)) :
    ReadStep otherDocument tables call phase next := by
  cases phase with
  | denied error =>
    simp only [PublicationCall.read, bind_eq_ok, mapError_eq_ok] at h
    obtain ⟨audit, -, h⟩ := h
    cases audit with
    | none =>
      simp only [PublicationCall.deniedLookedUp, bind_eq_ok, pure, Except.pure, Except.ok.injEq,
        Progress.next.injEq] at h
      obtain ⟨_, -, rfl⟩ := h
      exact .denied
    | some audit => simp [PublicationCall.deniedLookedUp, bind_eq_ok, pure, Except.pure] at h
  | lookup raced =>
    simp only [PublicationCall.read, bind_eq_ok, mapError_eq_ok] at h
    obtain ⟨audit, hread, h⟩ := h
    cases audit with
    | none =>
      cases raced with
      | none =>
        obtain rfl := Progress.next.inj (Except.ok.inj h)
        exact .absent
      | some error => cases h
    | some audit =>
      simp only [PublicationCall.lookedUp, storedObject, bind_eq_ok, exists_unit_iff,
        require_eq_ok, pure, Except.pure, Except.ok.injEq, Progress.next.injEq] at h
      obtain ⟨hchecked, _, ⟨hobject, rfl⟩, -, houtcome, rfl⟩ := h
      exact .recorded hread hchecked hobject houtcome
  | replaying audit =>
    simp only [PublicationCall.read, bind_eq_ok, exists_unit_iff] at h
    obtain ⟨stored, hread, hchecked, h⟩ := h
    split at h
    · simp [pure, Except.pure] at h
    · rename_i hrequested
      obtain rfl := Progress.next.inj (Except.ok.inj h)
      exact .superseding hread hchecked hrequested
  | superseding audit =>
    simp [PublicationCall.read, bind_eq_ok, pure, Except.pure] at h
  | source =>
    simp only [PublicationCall.read, bind_eq_ok, mapError_eq_ok] at h
    obtain ⟨source, hread, h⟩ := h
    cases source with
    | none => cases h
    | some source =>
      obtain rfl := Progress.next.inj (Except.ok.inj h)
      exact .source hread
  | current source =>
    simp only [PublicationCall.read] at h
    split at h
    · obtain ⟨w, hw, hsource, -, hcurrent, hprepared⟩ := prepared_ok hidentity h
      obtain rfl := Progress.next.inj hw
      exact .first hsource hcurrent hprepared
    · rename_i current hcurrent
      obtain rfl := Progress.next.inj (Except.ok.inj h)
      exact .current hcurrent
  | previous source current =>
    simp only [PublicationCall.read, bind_eq_ok, mapError_eq_ok] at h
    obtain ⟨previous, hread, h⟩ := h
    cases previous with
    | none => cases h
    | some previous =>
      obtain ⟨w, hw, hsource, hprevious, hcurrent, hprepared⟩ := prepared_ok hidentity h
      obtain rfl := Progress.next.inj hw
      exact .previous hread hsource hprevious hcurrent hprepared

theorem of_eq_next {x : Except PublicationError Progress} {phase : PublicationPhase}
    (h : Progress.of x = .next phase) : x = .ok (.next phase) := by
  cases x with
  | error error => cases h
  | ok progress => exact congrArg Except.ok h

/-- What one repository call does to the tables. -/
theorem advance_tables {phase : PublicationPhase} {tables' : PublicationTables}
    {progress : Progress} (h : call.advance otherDocument tables phase = (tables', progress)) :
    tables' = tables ∨
      (∃ audit audits, appendAudit tables.audits audit = .ok audits ∧
        tables' = { tables with audits }) ∨
      ∃ w, phase = .committing w ∧ tables.publish otherDocument call w = .ok tables' := by
  cases phase with
  | reading phase => exact .inl (Prod.mk.inj h).1.symm
  | denying error audit =>
    simp only [PublicationCall.advance] at h
    split at h
    · rename_i audits hwrite
      exact .inr (.inl ⟨audit, audits, hwrite, (Prod.mk.inj h).1.symm⟩)
    · exact .inl (Prod.mk.inj h).1.symm
  | committing w =>
    simp only [PublicationCall.advance] at h
    split at h
    · rename_i after hwrite
      obtain ⟨rfl, -⟩ := Prod.mk.inj h
      exact .inr (.inr ⟨w, rfl, hwrite⟩)
    · exact .inl (Prod.mk.inj h).1.symm

theorem commitFailed_next {error : CommitError} {phase : PublicationPhase}
    (h : commitFailed error = .next phase) : ∃ raced, phase = .reading (.lookup (some raced)) := by
  cases error with
  | publication error => cases h
  | persistence error =>
    simp only [commitFailed] at h
    split at h
    · exact ⟨_, (Progress.next.inj h).symm⟩
    · cases h

/-- A call that goes on has read something, or its transaction has lost a race. -/
theorem advance_next {phase next : PublicationPhase} {tables' : PublicationTables}
    (hidentity : publicationIdentity call.command "SIMULATION" = .ok call.identity)
    (h : call.advance otherDocument tables phase = (tables', .next next)) :
    (∃ read, phase = .reading read ∧ tables' = tables ∧
      ReadStep otherDocument tables call read next) ∨
    ∃ raced, next = .reading (.lookup (some raced)) := by
  cases phase with
  | reading read =>
    obtain ⟨rfl, hnext⟩ := Prod.mk.inj h
    exact .inl ⟨read, rfl, rfl, read_next hidentity (of_eq_next hnext)⟩
  | denying error audit =>
    simp only [PublicationCall.advance] at h
    split at h <;> cases (Prod.mk.inj h).2
  | committing w =>
    simp only [PublicationCall.advance] at h
    split at h
    · cases (Prod.mk.inj h).2
    · exact .inr (commitFailed_next (Prod.mk.inj h).2)

theorem advance_committing {phase : PublicationPhase} {tables' : PublicationTables}
    {w : PublicationWrite}
    (hidentity : publicationIdentity call.command "SIMULATION" = .ok call.identity)
    (h : call.advance otherDocument tables phase = (tables', .next (.committing w))) :
    Prepared otherDocument call w := by
  rcases advance_next hidentity h with ⟨read, -, -, hread⟩ | ⟨raced, hraced⟩
  · cases hread with
    | first _ _ hprepared => exact hprepared
    | previous _ _ _ _ hprepared => exact hprepared
  · cases hraced

/-- What every reachable state keeps. -/
structure SystemValid (otherDocument : String → Json → Except P4ContractError Unit)
    (s : PublicationSystem) : Prop where
  history : PublishedHistory s.tables
  identified : ∀ client running, s.calls client = some running →
    publicationIdentity running.call.command "SIMULATION" = .ok running.call.identity
  prepared : ∀ client running w, s.calls client = some running →
    running.phase = .committing w → Prepared otherDocument running.call w

theorem begin_ok {command : Json} {context : PublicationContext} {call : PublicationCall}
    {phase : PublicationPhase} (h : PublicationCall.begin command context = .ok (call, phase)) :
    call.command = command ∧ call.context = context ∧
      publicationIdentity command "SIMULATION" = .ok call.identity ∧
      (phase = .reading (.lookup none) ∧ requirePublicationAuthorization context call.identity
          command "SIMULATION" = .ok () ∨
        ∃ error, phase = .reading (.denied error) ∧ requirePublicationAuthorization context
          call.identity command "SIMULATION" = .error error) := by
  simp only [PublicationCall.begin, bind_eq_ok] at h
  obtain ⟨identity, hidentity, h⟩ := h
  split at h
  · rename_i u hauthorized
    obtain ⟨rfl, rfl⟩ := Prod.mk.inj (Except.ok.inj h)
    exact ⟨rfl, rfl, hidentity, .inl ⟨rfl, hauthorized⟩⟩
  · rename_i error hdenied
    simp only [bind_eq_ok, exists_unit_iff, pure, Except.pure, Except.ok.injEq,
      Prod.mk.injEq] at h
    obtain ⟨-, rfl, rfl⟩ := h
    exact ⟨rfl, rfl, hidentity, .inr ⟨error, rfl, hdenied⟩⟩

/-- Another client's call is the one it was. -/
theorem update_other {calls : Nat → Option RunningCall} {client other : Nat}
    {running : Option RunningCall} {found : RunningCall}
    (h : Function.update calls client running other = some found) :
    (other = client ∧ running = some found) ∨ calls other = some found := by
  by_cases heq : other = client
  · subst heq
    rw [Function.update_self] at h
    exact .inl ⟨rfl, h⟩
  · rw [Function.update_of_ne heq] at h
    exact .inr h

theorem PublishedHistory.advanced {phase : PublicationPhase} {tables' : PublicationTables}
    {progress : Progress} (h : PublishedHistory tables)
    (hprepared : ∀ w, phase = .committing w → Prepared otherDocument call w)
    (hadvance : call.advance otherDocument tables phase = (tables', progress)) :
    PublishedHistory tables' := by
  rcases advance_tables hadvance with rfl | ⟨audit, audits, -, rfl⟩ | ⟨w, hphase, hwrite⟩
  · exact h
  · exact ⟨h.rows, h.distinct, h.exact, h.stored, h.linked, h.current⟩
  · exact h.published (hprepared w hphase) (publish_ok hwrite)

theorem systemValid_step {s s' : PublicationSystem} {event : PublicationEvent}
    (h : SystemValid otherDocument s) (hstep : PublicationStep otherDocument s event s') :
    SystemValid otherDocument s' := by
  cases hstep with
  | drafted hstate hwrite => exact ⟨h.history.drafted hstate hwrite, h.identified, h.prepared⟩
  | reviewed hstate hwrite => exact ⟨h.history.reviewed hstate hwrite, h.identified, h.prepared⟩
  | recorded hwrite =>
    have hhistory := h.history
    exact ⟨⟨hhistory.rows, hhistory.distinct, hhistory.exact, hhistory.stored, hhistory.linked,
      hhistory.current⟩, h.identified, h.prepared⟩
  | @started client command context call phase hidle hbegin =>
    obtain ⟨rfl, rfl, hidentity, hphase⟩ := begin_ok hbegin
    refine ⟨h.history, ?_, ?_⟩
    · intro other running hrunning
      rcases update_other hrunning with ⟨-, heq⟩ | hold
      · obtain rfl := Option.some.inj heq
        exact hidentity
      · exact h.identified other running hold
    · intro other running w hrunning hcommitting
      rcases update_other hrunning with ⟨-, heq⟩ | hold
      · obtain rfl := Option.some.inj heq
        rcases hphase with ⟨rfl, -⟩ | ⟨error, rfl, -⟩ <;> cases hcommitting
      · exact h.prepared other running w hold hcommitting
  | refused _ => exact h
  | @advanced client running tables phase hrunning hadvance =>
    have hidentity := h.identified client running hrunning
    refine ⟨h.history.advanced (h.prepared client running · hrunning) hadvance, ?_, ?_⟩
    · intro other found hfound
      rcases update_other hfound with ⟨-, heq⟩ | hold
      · obtain rfl := Option.some.inj heq
        exact hidentity
      · exact h.identified other found hold
    · intro other found w hfound hcommitting
      rcases update_other hfound with ⟨-, heq⟩ | hold
      · obtain rfl := Option.some.inj heq
        obtain rfl : phase = .committing w := hcommitting
        exact advance_committing hidentity hadvance
      · exact h.prepared other found w hold hcommitting
  | @answered client running tables answer hrunning hadvance =>
    refine ⟨h.history.advanced (h.prepared client running · hrunning) hadvance, ?_, ?_⟩
    · intro other found hfound
      rcases update_other hfound with ⟨-, heq⟩ | hold
      · cases heq
      · exact h.identified other found hold
    · intro other found w hfound hcommitting
      rcases update_other hfound with ⟨-, heq⟩ | hold
      · cases heq
      · exact h.prepared other found w hold hcommitting
  | @crashed client running hrunning =>
    refine ⟨h.history, ?_, ?_⟩
    · intro other found hfound
      rcases update_other hfound with ⟨-, heq⟩ | hold
      · cases heq
      · exact h.identified other found hold
    · intro other found w hfound hcommitting
      rcases update_other hfound with ⟨-, heq⟩ | hold
      · cases heq
      · exact h.prepared other found w hold hcommitting

theorem systemValid {s : PublicationSystem} (h : PublicationReachable otherDocument s) :
    SystemValid otherDocument s := by
  refine Reach.invariant (SystemValid otherDocument) (fun hs _ hstep => systemValid_step hs hstep)
    ?_ h
  refine ⟨⟨List.nodup_nil, List.nodup_nil, ?_, ?_, List.isChain_nil, rfl⟩, ?_, ?_⟩
  · intro row hrow
    cases hrow
  · intro id hid
    cases hid
  · intro client running hrunning
    cases hrunning
  · intro client running w hrunning
    cases hrunning

/-! ### What a run leaves behind -/

/-- The history grows at its end, and every version stays with the content that it was created
with. -/
structure Extends (tables tables' : PublicationTables) : Prop where
  ids : publishedIds tables <+: publishedIds tables'
  rows : ∀ row ∈ tables.schedules, ∃ row' ∈ tables'.schedules, row'.creation = row.creation ∧
    immutableScheduleFingerprint row'.document = immutableScheduleFingerprint row.document

theorem Extends.refl (tables : PublicationTables) : Extends tables tables :=
  ⟨List.prefix_refl _, fun row hrow => ⟨row, hrow, rfl, rfl⟩⟩

theorem Extends.audits (tables : PublicationTables) (audits : List Json) :
    Extends tables { tables with audits } :=
  ⟨List.prefix_refl _, fun row hrow => ⟨row, hrow, rfl, rfl⟩⟩

theorem Extends.trans {first second third : PublicationTables} (h : Extends first second)
    (h' : Extends second third) : Extends first third := by
  refine ⟨h.ids.trans h'.ids, ?_⟩
  intro row hrow
  obtain ⟨row', hrow', hcreation, hfingerprint⟩ := h.rows row hrow
  obtain ⟨row'', hrow'', hcreation', hfingerprint'⟩ := h'.rows row' hrow'
  exact ⟨row'', hrow'', hcreation'.trans hcreation, hfingerprint'.trans hfingerprint⟩

/-- A compare-and-swap keeps the immutable fingerprint of every row. -/
theorem transition_fingerprint {schedules : List ScheduleRow} {w : ScheduleTransition}
    {moved : ScheduleRow} (hrows : (schedules.map ScheduleRow.id).Nodup)
    (hmoved : Transitioned otherDocument schedules w moved) {row : ScheduleRow}
    (hrow : row ∈ schedules) : immutableScheduleFingerprint (w.apply row).document =
      immutableScheduleFingerprint row.document := by
  by_cases hid : row.id = w.scheduleVersionId
  · obtain rfl : moved = row := by
      have hfind := findSchedule_of_mem hrows hrow
      rw [hid, hmoved.found] at hfind
      exact Option.some.inj hfind
    rw [ScheduleTransition.apply_own hid]
    exact hmoved.immutable.symm
  · rw [ScheduleTransition.apply_other hid]

theorem extends_transition {schedules : List ScheduleRow} {w : ScheduleTransition}
    (hrows : (tables.schedules.map ScheduleRow.id).Nodup)
    (hwrite : transitionSchedule otherDocument tables.schedules w = .ok schedules) :
    Extends tables { tables with schedules } := by
  obtain ⟨moved, hmoved, rfl⟩ := transitionSchedule_ok hwrite
  exact ⟨List.prefix_refl _, fun row hrow => ⟨w.apply row, List.mem_map_of_mem hrow,
    w.apply_creation row, transition_fingerprint hrows hmoved hrow⟩⟩

theorem extends_published {tables' : PublicationTables} {w : PublicationWrite}
    (hrows : (tables.schedules.map ScheduleRow.id).Nodup)
    (hprepared : Prepared otherDocument call w)
    (hwrite : Published otherDocument tables call w tables') : Extends tables tables' := by
  refine ⟨⟨_, (publishedIds_published hprepared hwrite).symm⟩, ?_⟩
  intro row hrow
  obtain ⟨source, hsource⟩ := hwrite.source
  have hfirst := transition_fingerprint hrows hsource hrow
  have hmem : (call.transition w).apply row ∈ tables.schedules.map (call.transition w).apply :=
    List.mem_map_of_mem hrow
  rcases supersede_ok hprepared hwrite.superseded with ⟨-, hschedules⟩ |
    ⟨current, previous, superseded, hsup, hschedules⟩
  · rw [hschedules]
    exact ⟨_, hmem, ScheduleTransition.apply_creation .., hfirst⟩
  · obtain ⟨moved, hmoved⟩ := hsup.row
    rw [hschedules]
    refine ⟨_, List.mem_map_of_mem hmem, ?_, ?_⟩
    · rw [ScheduleTransition.apply_creation, ScheduleTransition.apply_creation]
    · rw [transition_fingerprint (rows_apply _ hrows) hmoved hmem, hfirst]

theorem extends_step {s s' : PublicationSystem} {event : PublicationEvent}
    (h : SystemValid otherDocument s) (hstep : PublicationStep otherDocument s event s') :
    Extends s.tables s'.tables := by
  have hadvanced : ∀ {client running tables progress}, s.calls client = some running →
      running.call.advance otherDocument s.tables running.phase = (tables, progress) →
      Extends s.tables tables := by
    intro client running tables progress hrunning hadvance
    rcases advance_tables hadvance with rfl | ⟨audit, audits, -, rfl⟩ | ⟨w, hphase, hwrite⟩
    · exact .refl _
    · exact .audits _ _
    · exact extends_published h.history.rows (h.prepared client running w hrunning hphase)
        (publish_ok hwrite)
  cases hstep with
  | drafted hstate hwrite =>
    refine ⟨List.prefix_refl _, fun row hrow => ⟨row, ?_, rfl, rfl⟩⟩
    rcases putSchedule_ok hwrite with rfl | ⟨rfl, -⟩
    · exact hrow
    · exact List.mem_append_left _ hrow
  | reviewed hstate hwrite => exact extends_transition h.history.rows hwrite
  | recorded hwrite => exact .audits _ _
  | started hidle hbegin => exact .refl _
  | refused _ => exact .refl _
  | advanced hrunning hadvance => exact hadvanced hrunning hadvance
  | answered hrunning hadvance => exact hadvanced hrunning hadvance
  | crashed hrunning => exact .refl _

/-- Only the current version is published. -/
theorem PublishedHistory.unique (h : PublishedHistory tables) {row : ScheduleRow}
    (hrow : row ∈ tables.schedules) (hstate : row.state = .str "PUBLISHED") :
    ∃ current, tables.current = some current ∧ row.id = .str current.scheduleVersionId := by
  have hmem : row.id ∈ publishedIds tables := (h.exact row hrow).mpr (.inl hstate)
  have hcurrent := h.current
  cases htables : tables.current with
  | none =>
    rw [htables] at hcurrent
    rw [hcurrent] at hmem
    cases hmem
  | some current =>
    rw [htables] at hcurrent
    refine ⟨current, rfl, ?_⟩
    -- a version before the last has a successor, and so it is superseded
    obtain ⟨before, hsplit⟩ := List.getLast?_eq_some_iff.mp hcurrent.last
    rw [hsplit, List.mem_append, List.mem_singleton] at hmem
    rcases hmem with hmem | heq
    · exfalso
      obtain ⟨left, right, rfl⟩ := List.append_of_mem hmem
      have hlinked := h.linked
      rw [hsplit, List.append_assoc, List.cons_append, List.isChain_append] at hlinked
      obtain ⟨found, _, hfound, -, hsuperseded, -⟩ : ∃ found next, findSchedule tables.schedules
          row.id = some found ∧ findSchedule tables.schedules next ≠ none ∧
          found.state = .str "SUPERSEDED" ∧ True := by
        cases hright : right ++ [Json.str current.scheduleVersionId] with
        | nil => simp at hright
        | cons next rest =>
          rw [hright] at hlinked
          obtain ⟨found, next', hfound, hnext, hstate', -⟩ :=
            (List.isChain_cons_cons.mp hlinked.2.1).1
          exact ⟨found, next, hfound, by rw [hnext]; exact Option.some_ne_none _, hstate', trivial⟩
      rw [findSchedule_of_mem h.rows hrow, Option.some.injEq] at hfound
      rw [← hfound, hstate] at hsuperseded
      exact absurd (Json.str.inj hsuperseded) (by decide)
    · exact heq

/-- **The published versions of a plane form one history, however the calls interleave.** In every
reachable state the table of results lists exactly the versions that are published or superseded,
each superseded version names its successor, and the current reference names the last, with its
fingerprint and its publication; no other version is published. A run only appends to the history,
and no version ever loses its row or its immutable content. -/
theorem publication_history {s s' : PublicationSystem} (h : PublicationReachable otherDocument s)
    (hrun : Reach (PublicationStep otherDocument) (fun _ _ => True) s s') :
    PublishedHistory s'.tables ∧
      (∀ row ∈ s'.tables.schedules, row.state = .str "PUBLISHED" →
        ∃ current, s'.tables.current = some current ∧
          row.id = .str current.scheduleVersionId) ∧
      Extends s.tables s'.tables := by
  have hvalid := systemValid (h.trans hrun)
  refine ⟨hvalid.history, fun row hrow hstate => hvalid.history.unique hrow hstate, ?_⟩
  induction hrun with
  | refl => exact .refl _
  | next hbefore _ hstep ih =>
    exact (ih (systemValid (h.trans hbefore))).trans
      (extends_step (systemValid (h.trans hbefore)) hstep)

end

end PlantNexus.Publishing
