import PlantNexus.Data.Reach
import PlantNexus.Execution.Lineage

/-! Exactly-once projection.

Events arrive in any order, snapshots and audit records of other services are stored, and calls
project what is available, answer again, are refused or are rolled back. In every reachable store
the snapshot of a checkpoint is the successive projection of the first events of its stream onto
the base of the first commit, and repeating the last successful call changes nothing. -/
namespace PlantNexus.Execution
open Data Domain Time Snapshot

/-! ### The events of a stream -/

/-- The columns of a row are those of its document, and a position is taken once. -/
structure LedgerInv (ledger : List LedgerRow) : Prop where
  columns : ∀ row ∈ ledger, row = .ofDocument row.document row.sourcePosition ∧
    row.document.get "source_position" = .int row.sourcePosition ∧ 1 ≤ row.sourcePosition
  positions : ∀ a ∈ ledger, ∀ b ∈ ledger, a.SamePosition b → a = b

/-- The events are those at the first positions of the stream, in order. -/
structure LedgerEvents (ledger : List LedgerRow) (scope : ProjectionScope) (events : List Json) :
    Prop where
  filed : ∀ (i : Nat) event, events[i]? = some event → ∃ row ∈ ledger, row.InStream scope ∧
    row.sourcePosition = (i : Int) + 1 ∧ row.document = event
  only : ∀ row ∈ ledger, row.InStream scope → row.sourcePosition ≤ events.length →
    ∃ i : Nat, row.sourcePosition = (i : Int) + 1 ∧ events[i]? = some row.document

section
variable {scope : ProjectionScope} {ledger ledger' : List LedgerRow} {events others : List Json}

theorem InStream.samePosition {a b : LedgerRow} (ha : a.InStream scope) (hb : b.InStream scope)
    (h : a.sourcePosition = b.sourcePosition) : a.SamePosition b :=
  ⟨ha.1.trans hb.1.symm, ha.2.1.trans hb.2.1.symm, ha.2.2.trans hb.2.2.symm, h⟩

theorem mem_listStream {event : Json} :
    event ∈ listStream ledger scope 0 ↔
      ∃ row ∈ ledger, row.InStream scope ∧ 0 < row.sourcePosition ∧ row.document = event := by
  simp only [listStream, List.mem_map, (sortByKey_perm _ _).mem_iff, List.mem_filter,
    decide_eq_true_eq]
  constructor
  · intro h
    obtain ⟨row, ⟨hrow, hin, hpos⟩, hdocument⟩ := h
    exact ⟨row, hrow, hin, by simpa using hpos, hdocument⟩
  · intro h
    obtain ⟨row, hrow, hin, hpos, hdocument⟩ := h
    exact ⟨row, ⟨hrow, hin, by simpa using hpos⟩, hdocument⟩

/-- A listing that passes the checks is the events from the first position on. -/
theorem listStream_events (h : LedgerInv ledger) {fingerprints : List String}
    (hvalid : validateEventPrefix scope (listStream ledger scope 0) = .ok fingerprints) :
    LedgerEvents ledger scope (listStream ledger scope 0) := by
  obtain ⟨hplaced, -, -⟩ := validateEventsFrom_placed hvalid
  have hposition : ∀ (i : Nat) row, row ∈ ledger →
      (listStream ledger scope 0)[i]? = some row.document →
      row.sourcePosition = (i : Int) + 1 := by
    intro i row hrow hevent
    obtain ⟨eventId, fingerprint, hat⟩ := hplaced i row.document hevent
    have hcolumn := (h.columns row hrow).2.1
    rw [hat.position] at hcolumn
    have := Json.int.inj hcolumn
    omega
  refine ⟨?_, ?_⟩
  · intro i event hevent
    obtain ⟨row, hrow, hin, -, rfl⟩ := mem_listStream.mp (List.mem_of_getElem? hevent)
    exact ⟨row, hrow, hin, hposition i row hrow hevent, rfl⟩
  · intro row hrow hin _
    have hpos : 0 < row.sourcePosition := by
      have := (h.columns row hrow).2.2
      omega
    obtain ⟨i, hi⟩ := List.mem_iff_getElem?.mp (mem_listStream.mpr ⟨row, hrow, hin, hpos, rfl⟩)
    exact ⟨i, hposition i row hrow hi, hi⟩

/-- Two lists of first events agree as far as both go. -/
theorem LedgerEvents.take (hevents : LedgerEvents ledger scope events)
    (hothers : LedgerEvents ledger scope others) (hle : events.length ≤ others.length) :
    others.take events.length = events := by
  apply List.ext_getElem?
  intro i
  rw [List.getElem?_take]
  by_cases hi : i < events.length
  · rw [if_pos hi]
    have hevent : events[i]? = some (events.get ⟨i, hi⟩) := List.getElem?_eq_getElem hi
    obtain ⟨row, hrow, hin, hposition, hdocument⟩ := hevents.filed i _ hevent
    obtain ⟨j, hj, hother⟩ := hothers.only row hrow hin (by omega)
    have hsame : j = i := by omega
    rw [hevent, ← hdocument, ← hother, hsame]
  · rw [if_neg hi, List.getElem?_eq_none (by omega)]

/-! ### Filing an event -/

theorem LedgerInv.append (h : LedgerInv ledger) {document : Json} {replayed : Bool}
    (happend : appendEvent ledger document = .ok (ledger', replayed)) : LedgerInv ledger' := by
  rcases appendEvent_ok happend with ⟨rfl, -, -⟩ | ⟨position, hposition, rfl, -, hnone⟩
  · exact h
  have hfree : ∀ row ∈ ledger, ¬row.SamePosition (.ofDocument document position) := by
    intro row hrow hsame
    rw [findEvent, Option.or_eq_none_iff] at hnone
    have := List.find?_eq_none.mp hnone.2 row hrow
    exact this (by simpa using hsame)
  refine ⟨?_, ?_⟩
  · intro row hrow
    rcases List.mem_append.mp hrow with hrow | hrow
    · exact h.columns row hrow
    · rw [List.mem_singleton.mp hrow]
      exact ⟨rfl, hposition, appendEvent_position happend hposition⟩
  · intro a ha b hb hsame
    rcases List.mem_append.mp ha with ha | ha
    · rcases List.mem_append.mp hb with hb | hb
      · exact h.positions a ha b hb hsame
      · rw [List.mem_singleton.mp hb] at hsame
        exact absurd hsame (hfree a ha)
    · rcases List.mem_append.mp hb with hb | hb
      · rw [List.mem_singleton.mp ha] at hsame
        exact absurd ⟨hsame.1.symm, hsame.2.1.symm, hsame.2.2.1.symm, hsame.2.2.2.symm⟩
          (hfree b hb)
      · rw [List.mem_singleton.mp ha, List.mem_singleton.mp hb]

/-- The first events stay what they are. -/
theorem LedgerEvents.append (h : LedgerEvents ledger scope events) {document : Json}
    {replayed : Bool} (happend : appendEvent ledger document = .ok (ledger', replayed)) :
    LedgerEvents ledger' scope events := by
  rcases appendEvent_ok happend with ⟨rfl, -, -⟩ | ⟨position, hposition, rfl, -, hnone⟩
  · exact h
  refine ⟨?_, ?_⟩
  · intro i event hevent
    obtain ⟨row, hrow, hrest⟩ := h.filed i event hevent
    exact ⟨row, List.mem_append_left _ hrow, hrest⟩
  · intro row hrow hin hle
    rcases List.mem_append.mp hrow with hrow | hrow
    · exact h.only row hrow hin hle
    -- a new row among the first positions would share its position with a filed one
    · exfalso
      have hpos := appendEvent_position happend hposition
      rw [List.mem_singleton.mp hrow] at hin hle
      have hlt : (position - 1).toNat < events.length := by
        have : position ≤ events.length := hle
        omega
      obtain ⟨stored, hstored, hstoredIn, hstoredPosition, -⟩ :=
        h.filed (position - 1).toNat _ (List.getElem?_eq_getElem hlt)
      have hsame : stored.SamePosition (.ofDocument document position) := by
        refine InStream.samePosition hstoredIn hin ?_
        rw [hstoredPosition]
        show ((position - 1).toNat : Int) + 1 = position
        omega
      rw [findEvent, Option.or_eq_none_iff] at hnone
      have := List.find?_eq_none.mp hnone.2 stored hstored
      exact this (by simpa using hsame)

end

/-! ### Runs -/

/-- What a run of the store does. -/
inductive ProjectionEvent (Inputs : Type) where
  | ingested (service : ProjectionScope) (document : Json) (result : ExecutionEventIngressResult)
  | rejected (service : ProjectionScope) (document : Json) (error : ProjectionError)
  | stored (snapshot : ImmutablePlanningSnapshot)
  | recorded (record : ReplanAuditRecord)
  | projected (scope : ProjectionScope) (base : ImmutablePlanningSnapshot)
      (imports : List (String × UrgentDemandImport Inputs)) (result : FactProjectionCommitResult)
  | raised (scope : ProjectionScope) (base : ImmutablePlanningSnapshot)
      (imports : List (String × UrgentDemandImport Inputs)) (error : ProjectionError)
  | rolledBack

def ProjectionTables.empty : ProjectionTables := ⟨⟨[], []⟩, [], []⟩

section
variable {Inputs : Type}
  (standardSnapshot : Inputs → String → Except ProjectionError ImmutablePlanningSnapshot)

/-- One transaction. -/
inductive ProjectionStep :
    ProjectionTables → ProjectionEvent Inputs → ProjectionTables → Prop
  | ingested {t : ProjectionTables} {service : ProjectionScope} {document : Json}
      {execution : ExecutionTables} {result : ExecutionEventIngressResult}
      (h : ingestEvent service t.execution document = .ok (execution, result)) :
      ProjectionStep t (.ingested service document result) { t with execution }
  | rejected {t : ProjectionTables} {service : ProjectionScope} {document : Json}
      {error : ProjectionError} (h : ingestEvent service t.execution document = .error error) :
      ProjectionStep t (.rejected service document error) t
  | stored {t : ProjectionTables} {snapshot : ImmutablePlanningSnapshot}
      {snapshots : List ImmutablePlanningSnapshot} {replayed : Bool}
      (h : putSnapshot t.snapshots snapshot = .ok (snapshots, replayed)) :
      ProjectionStep t (.stored snapshot) { t with snapshots }
  | recorded {t : ProjectionTables} {record : ReplanAuditRecord}
      {audits : List ReplanAuditRecord} {replayed : Bool}
      (h : appendAuditRecord t.execution.audits record = .ok (audits, replayed)) :
      ProjectionStep t (.recorded record) { t with execution := ⟨t.execution.ledger, audits⟩ }
  | projected {t t' : ProjectionTables} {scope : ProjectionScope}
      {base : ImmutablePlanningSnapshot} {imports : List (String × UrgentDemandImport Inputs)}
      {result : FactProjectionCommitResult}
      (h : projectAvailable standardSnapshot t scope base imports = .ok (t', result)) :
      ProjectionStep t (.projected scope base imports result) t'
  | raised {t : ProjectionTables} {scope : ProjectionScope} {base : ImmutablePlanningSnapshot}
      {imports : List (String × UrgentDemandImport Inputs)} {error : ProjectionError}
      (h : projectAvailable standardSnapshot t scope base imports = .error error) :
      ProjectionStep t (.raised scope base imports error) t
  | rolledBack {t : ProjectionTables} : ProjectionStep t .rolledBack t

/-- The events, batch after batch, each once and in order, lead from the initial snapshot to the
other one. -/
inductive Successive (scope : ProjectionScope) (initial : ImmutablePlanningSnapshot) :
    List Json → ImmutablePlanningSnapshot → Prop
  | initial : Successive scope initial [] initial
  | batch {events tail : List Json} {base snapshot : ImmutablePlanningSnapshot}
      {imports : List (String × UrgentDemandImport Inputs)} {projected : ProjectedFactBatch}
      (h : Successive scope initial events base)
      (htail : projectTail standardSnapshot scope base imports (events ++ tail) events.length =
        .ok (projected, snapshot)) :
      Successive scope initial (events ++ tail) snapshot

/-- The snapshot of a checkpoint is the projection of the first events of its stream, up to its
position, onto a snapshot without a lineage. -/
structure ProjectedFrom (t : ProjectionTables) (initial : ImmutablePlanningSnapshot)
    (stored : StoredProjectionCheckpoint) : Prop where
  stored_initial : initial ∈ t.snapshots
  lineage : dictValue initial.document.sourceVersions "plantnexus-execution-event-prefix" = none
  projection : ∃ events snapshot,
    LedgerEvents t.execution.ledger stored.checkpoint.scope events ∧
    events.length = stored.checkpoint.lastAppliedPosition ∧
    findSnapshot t.snapshots stored.checkpoint.factCheckpoint.artifactId = some snapshot ∧
    snapshot.snapshotHash = stored.checkpoint.factCheckpoint.fingerprint ∧
    Successive standardSnapshot stored.checkpoint.scope initial events snapshot

structure ProjectionInv (t : ProjectionTables) : Prop where
  ledger : LedgerInv t.execution.ledger
  checkpoints : ∀ stored ∈ t.checkpoints, ∃ initial, ProjectedFrom standardSnapshot t initial stored

/-- Neither a new event of the stream nor a successful call of the scope. -/
def Quiet (scope : ProjectionScope) : ProjectionEvent Inputs → Prop
  | .ingested _ document result =>
    result.replayed = true ∨ ¬(LedgerRow.ofDocument document 0).InStream scope
  | .projected other _ _ _ => other ≠ scope
  | _ => True

end

/-! ### Writes -/

theorem putSnapshot_ok {snapshots snapshots' : List ImmutablePlanningSnapshot}
    {snapshot : ImmutablePlanningSnapshot} {replayed : Bool}
    (h : putSnapshot snapshots snapshot = .ok (snapshots', replayed)) :
    (snapshots' = snapshots ∧ replayed = true) ∨
      (snapshots' = snapshots ++ [snapshot] ∧ replayed = false ∧
        findSnapshot snapshots snapshot.snapshotId = none) := by
  simp only [putSnapshot, bind_eq_ok, exists_unit_iff, require_eq_ok] at h
  obtain ⟨-, -, h⟩ := h
  split at h
  · simp only [bind_eq_ok, exists_unit_iff, pure, Except.pure, Except.ok.injEq,
      Prod.mk.injEq] at h
    exact .inl ⟨h.2.1.symm, h.2.2.symm⟩
  · rename_i hnone
    simp only [pure, Except.pure, Except.ok.injEq, Prod.mk.injEq] at h
    exact .inr ⟨h.1.symm, h.2.symm, (Option.or_eq_none_iff.mp hnone).2⟩

/-- A snapshot that is found stays found. -/
theorem findSnapshot_put {snapshots snapshots' : List ImmutablePlanningSnapshot}
    {snapshot found : ImmutablePlanningSnapshot} {replayed : Bool} {id : String}
    (h : putSnapshot snapshots snapshot = .ok (snapshots', replayed))
    (hfound : findSnapshot snapshots id = some found) :
    findSnapshot snapshots' id = some found := by
  rcases putSnapshot_ok h with ⟨rfl, -⟩ | ⟨rfl, -, -⟩
  · exact hfound
  · rw [findSnapshot, List.find?_append]
    exact Option.or_eq_some_iff.mpr (.inl hfound)

theorem find_replaceCheckpoint (checkpoints : List StoredProjectionCheckpoint)
    (stored : StoredProjectionCheckpoint) (scope : ProjectionScope) :
    findCheckpoint (replaceCheckpoint checkpoints stored) scope =
      if stored.checkpoint.scope = scope then (findCheckpoint checkpoints scope).map fun _ => stored
      else findCheckpoint checkpoints scope := by
  induction checkpoints with
  | nil => simp [findCheckpoint, replaceCheckpoint]
  | cons row rest ih =>
    simp only [findCheckpoint, replaceCheckpoint, List.map_cons, List.find?_cons] at ih ⊢
    by_cases hrow : row.checkpoint.scope = stored.checkpoint.scope
    · rw [if_pos hrow]
      by_cases hscope : stored.checkpoint.scope = scope
      · simp [hscope, hrow]
      · simp only [hscope, hrow, decide_false, if_false] at ih ⊢
        exact ih
    · rw [if_neg hrow]
      by_cases hscope : row.checkpoint.scope = scope
      · have hne : stored.checkpoint.scope ≠ scope := fun heq => hrow (hscope.trans heq.symm)
        simp [hscope, hne]
      · simp only [hscope, decide_false] at ih ⊢
        exact ih

/-- A checkpoint that is written is the only one of its scope. -/
theorem writeCheckpoint_ok {checkpoints checkpoints' : List StoredProjectionCheckpoint}
    {checkpoint : ProjectionCheckpoint} {write : CheckpointWriteResult}
    (h : writeCheckpoint checkpoints (findCheckpoint checkpoints checkpoint.scope) checkpoint =
      .ok (checkpoints', write))
    (hforward : ∀ stored, findCheckpoint checkpoints checkpoint.scope = some stored →
      stored.checkpoint.lastAppliedPosition < checkpoint.lastAppliedPosition) :
    write.replayed = false ∧ write.checkpoint = checkpoint ∧
      findCheckpoint checkpoints' checkpoint.scope = some ⟨checkpoint, write.stateRevision⟩ ∧
      (∀ scope, checkpoint.scope ≠ scope →
        findCheckpoint checkpoints' scope = findCheckpoint checkpoints scope) ∧
      ∀ row ∈ checkpoints', row = ⟨checkpoint, write.stateRevision⟩ ∨
        row ∈ checkpoints ∧ row.checkpoint.scope ≠ checkpoint.scope := by
  cases hfound : findCheckpoint checkpoints checkpoint.scope with
  | none =>
    simp only [hfound, writeCheckpoint, putInitial, bind_eq_ok, exists_unit_iff, pure, Except.pure,
      Except.ok.injEq, Prod.mk.injEq] at h
    obtain ⟨-, rfl, rfl⟩ := h
    have hnone := List.find?_eq_none.mp hfound
    refine ⟨rfl, rfl, ?_, ?_, ?_⟩
    · rw [findCheckpoint, List.find?_append]
      rw [findCheckpoint] at hfound
      rw [hfound]
      simp
    · intro scope hne
      simp [findCheckpoint, List.find?_append, hne]
    · intro row hrow
      rcases List.mem_append.mp hrow with hrow | hrow
      · exact .inr ⟨hrow, by simpa using hnone row hrow⟩
      · exact .inl (List.mem_singleton.mp hrow)
  | some stored =>
    have hlt := hforward stored hfound
    have hscope : stored.checkpoint.scope = checkpoint.scope := by
      simpa using List.find?_some hfound
    have hne : stored.checkpoint ≠ checkpoint := by
      intro heq
      rw [heq] at hlt
      omega
    simp only [hfound, writeCheckpoint, advanceCheckpoint, bind_eq_ok, exists_unit_iff, hne,
      if_false, pure, Except.pure, Except.ok.injEq, Prod.mk.injEq] at h
    obtain ⟨-, -, -, -, -, rfl, rfl⟩ := h
    refine ⟨rfl, rfl, ?_, ?_, ?_⟩
    · rw [find_replaceCheckpoint, if_pos rfl, hfound]
      rfl
    · intro scope hother
      rw [find_replaceCheckpoint, if_neg hother]
    · intro row hrow
      obtain ⟨old, hold, rfl⟩ := List.mem_map.mp hrow
      by_cases hsame : old.checkpoint.scope = checkpoint.scope
      · exact .inl (if_pos hsame)
      · rw [if_neg hsame]
        exact .inr ⟨hold, hsame⟩

/-! ### Decisions -/

section
variable {Inputs : Type}
  {standardSnapshot : Inputs → String → Except ProjectionError ImmutablePlanningSnapshot}
  {scope : ProjectionScope} {base snapshot : ImmutablePlanningSnapshot}
  {imports : List (String × UrgentDemandImport Inputs)} {reads : ProjectionReads}
  {after : Option StoredProjectionCheckpoint} {projected : ProjectedFactBatch}

/-- A snapshot at position zero has no lineage. -/
theorem snapshotStreamPosition_zero {fingerprints : List String}
    (h : snapshotStreamPosition scope snapshot fingerprints = .ok 0) :
    dictValue snapshot.document.sourceVersions "plantnexus-execution-event-prefix" = none := by
  cases hlineage : dictValue snapshot.document.sourceVersions
      "plantnexus-execution-event-prefix" with
  | none => rfl
  | some lineage =>
    simp only [snapshotStreamPosition, hlineage] at h
    split at h
    · cases h
    · simp only [bind_eq_ok, exists_unit_iff, require_eq_ok, pure, Except.pure,
        Except.ok.injEq] at h
      omega

theorem checkpointSnapshot_ok {stored : StoredProjectionCheckpoint}
    {found : Option ImmutablePlanningSnapshot}
    (h : checkpointSnapshot stored found = .ok snapshot) :
    found = some snapshot ∧
      snapshot.snapshotHash = stored.checkpoint.factCheckpoint.fingerprint := by
  simp only [checkpointSnapshot] at h
  split at h
  · cases h
  · cases found with
    | none => cases h
    | some stored =>
      simp only [bind_eq_ok, exists_unit_iff, require_eq_ok, pure, Except.pure,
        Except.ok.injEq] at h
      obtain ⟨hhash, rfl⟩ := h
      exact ⟨rfl, hhash⟩

/-- What a commit follows from. -/
structure CommitFrom (standardSnapshot :
    Inputs → String → Except ProjectionError ImmutablePlanningSnapshot)
    (scope : ProjectionScope) (base : ImmutablePlanningSnapshot)
    (imports : List (String × UrgentDemandImport Inputs)) (reads : ProjectionReads)
    (projected : ProjectedFactBatch) (snapshot : ImmutablePlanningSnapshot)
    (fingerprints : List String) (position : Nat) : Prop where
  found : reads.base = some base
  valid : validateEventPrefix scope reads.fullPrefix = .ok fingerprints
  at_position : snapshotStreamPosition scope base fingerprints = .ok position
  tail : projectTail standardSnapshot scope base imports reads.fullPrefix position =
    .ok (projected, snapshot)

theorem decideProjection_commit
    (h : decideProjection standardSnapshot scope base imports reads =
      .ok (.commit after projected snapshot)) :
    ∃ fingerprints position, CommitFrom standardSnapshot scope base imports reads projected
      snapshot fingerprints position ∧
      ((reads.checkpoint = none ∧ after = none ∧ position = 0) ∨
        ∃ stored, reads.checkpoint = some (stored, some base) ∧ after = some stored ∧
          position = stored.checkpoint.lastAppliedPosition ∧
          base.snapshotHash = stored.checkpoint.factCheckpoint.fingerprint) := by
  simp only [decideProjection, bind_eq_ok, exists_unit_iff, require_eq_ok] at h
  obtain ⟨hbase, fingerprints, hvalid, position, hposition, h⟩ := h
  split at h
  · rename_i hnone
    simp only [decideInitial, bind_eq_ok, exists_unit_iff, require_eq_ok, Prod.exists, pure,
      Except.pure, Except.ok.injEq, ProjectionDecision.commit.injEq] at h
    obtain ⟨rfl, -, projected', snapshot', htail, rfl, rfl, rfl⟩ := h
    exact ⟨fingerprints, 0, ⟨hbase, hvalid, hposition, htail⟩, .inl ⟨hnone, rfl, rfl⟩⟩
  · rename_i stored found hstored
    simp only [decideCheckpoint, bind_eq_ok, exists_unit_iff, require_eq_ok] at h
    obtain ⟨-, current, hcurrent, currentPosition, -, -, h⟩ := h
    split at h
    · rename_i hsame
      subst hsame
      simp only [decideCurrent, bind_eq_ok, exists_unit_iff, require_eq_ok] at h
      obtain ⟨rfl, h⟩ := h
      obtain ⟨rfl, hhash⟩ := checkpointSnapshot_ok hcurrent
      split at h
      · simp only [bind_eq_ok, exists_unit_iff, pure, Except.pure, Except.ok.injEq, reduceCtorEq,
          and_false] at h
      · simp only [bind_eq_ok, exists_unit_iff, Prod.exists, pure, Except.pure, Except.ok.injEq,
          ProjectionDecision.commit.injEq] at h
        obtain ⟨-, projected', snapshot', htail, rfl, rfl, rfl⟩ := h
        exact ⟨fingerprints, _, ⟨hbase, hvalid, hposition, htail⟩,
          .inr ⟨stored, hstored, rfl, rfl, hhash⟩⟩
    · simp only [decideStale] at h
      split at h
      · simp only [bind_eq_ok, pure, Except.pure, Except.ok.injEq, reduceCtorEq, and_false,
          exists_false] at h
      · cases h

theorem decideProjection_replay {result : FactProjectionCommitResult}
    (h : decideProjection standardSnapshot scope base imports reads = .ok (.replay result)) :
    result.replayed = true := by
  simp only [decideProjection, bind_eq_ok, exists_unit_iff, require_eq_ok] at h
  obtain ⟨-, fingerprints, -, position, -, h⟩ := h
  split at h
  · simp only [decideInitial, bind_eq_ok, pure, Except.pure, Except.ok.injEq, reduceCtorEq,
      and_false, exists_false] at h
  · simp only [decideCheckpoint, bind_eq_ok, exists_unit_iff, require_eq_ok] at h
    obtain ⟨-, current, -, currentPosition, -, -, h⟩ := h
    split at h
    · simp only [decideCurrent, bind_eq_ok, exists_unit_iff] at h
      obtain ⟨-, h⟩ := h
      split at h
      · simp only [bind_eq_ok, exists_unit_iff, pure, Except.pure, Except.ok.injEq,
          ProjectionDecision.replay.injEq] at h
        rw [← h.2]
        rfl
      · simp only [bind_eq_ok, pure, Except.pure, Except.ok.injEq, reduceCtorEq, and_false,
          exists_false] at h
    · simp only [decideStale] at h
      split at h
      · simp only [bind_eq_ok, exists_unit_iff, Prod.exists, pure, Except.pure, Except.ok.injEq,
          ProjectionDecision.replay.injEq] at h
        obtain ⟨-, -, -, -, rfl⟩ := h
        rfl
      · cases h

/-- After a commit, the base of the commit answers with what was committed. -/
theorem CommitFrom.again {reads' : ProjectionReads} {fingerprints : List String} {position : Nat}
    (h : CommitFrom standardSnapshot scope base imports reads projected snapshot fingerprints
      position)
    (hbase : verifySnapshot base = .ok ()) {revision : Nat}
    (hreads : reads' = ⟨some base, some (⟨projectedCheckpoint scope reads.fullPrefix projected
      snapshot, revision⟩, some snapshot), reads.fullPrefix⟩) :
    decideProjection standardSnapshot scope base imports reads' =
      .ok (.replay (replayed ⟨projectedCheckpoint scope reads.fullPrefix projected snapshot,
        revision⟩ snapshot)) := by
  obtain ⟨fingerprints', htail⟩ := projectTail_ok h.tail
  obtain rfl := Except.ok.inj (h.valid.symm.trans htail.valid)
  have hlength : fingerprints.length = reads.fullPrefix.length :=
    length_validateEventsFrom htail.valid
  have hafter := htail.after
  have hlineage : Lineage scope base.document.snapshotHash reads.fullPrefix.length
      (eventStreamFingerprint (fingerprints.take reads.fullPrefix.length))
      snapshot.document.sourceVersions := by
    rw [← hlength, List.take_length, hlength]
    exact htail.lineage
  have hposition := hlineage.position (by omega) (by omega)
  have hne : snapshot ≠ base := by
    intro heq
    have hsame := h.at_position
    rw [← heq, hposition] at hsame
    have := Except.ok.inj hsame
    omega
  have hhash : base.document.snapshotHash = base.snapshotHash := by
    have hverified := (verifySnapshot_eq_ok base).mp hbase
    exact hverified.documentHash.trans hverified.hash.symm
  subst hreads
  simp only [decideProjection, bind_eq_ok, exists_unit_iff, require_eq_ok]
  refine ⟨trivial, fingerprints, h.valid, position, h.at_position, ?_⟩
  have hcurrent : ∀ stored : StoredProjectionCheckpoint,
      stored.checkpoint = projectedCheckpoint scope reads.fullPrefix projected snapshot →
      checkpointSnapshot stored (some snapshot) = .ok snapshot := by
    intro stored hstored
    simp only [checkpointSnapshot, hstored, projectedCheckpoint]
    rfl
  simp only [decideCheckpoint, bind_eq_ok, exists_unit_iff, require_eq_ok]
  refine ⟨htail.through.le, snapshot, hcurrent _ rfl, _, hposition, htail.through.symm, ?_⟩
  rw [if_neg hne, decideStale, if_pos ⟨htail.through, hhash ▸ hlineage.base⟩]
  simp only [bind_eq_ok, exists_unit_iff, require_eq_ok, pure, Except.pure]
  exact ⟨_, h.tail, rfl, trivial⟩

/-! ### One step -/

variable {t t' : ProjectionTables} {result : FactProjectionCommitResult}

/-- One commit: the tail from the base, under a checkpoint of its own. -/
structure Committed (standardSnapshot :
    Inputs → String → Except ProjectionError ImmutablePlanningSnapshot)
    (scope : ProjectionScope) (base : ImmutablePlanningSnapshot)
    (imports : List (String × UrgentDemandImport Inputs)) (t : ProjectionTables)
    (projected : ProjectedFactBatch) (snapshot : ImmutablePlanningSnapshot)
    (fingerprints : List String) (position : Nat) (written : StoredProjectionCheckpoint)
    (t' : ProjectionTables) : Prop where
  commit : CommitFrom standardSnapshot scope base imports (t.reads scope base) projected snapshot
    fingerprints position
  first : findCheckpoint t.checkpoints scope = none → position = 0
  advance : ∀ stored, findCheckpoint t.checkpoints scope = some stored →
    position = stored.checkpoint.lastAppliedPosition ∧
    findSnapshot t.snapshots stored.checkpoint.factCheckpoint.artifactId = some base ∧
    base.snapshotHash = stored.checkpoint.factCheckpoint.fingerprint
  ledger : t'.execution.ledger = t.execution.ledger
  snapshots : t'.snapshots = t.snapshots ++ [snapshot]
  fresh : findSnapshot t.snapshots snapshot.snapshotId = none
  checkpoint : written.checkpoint = projectedCheckpoint scope
    (listStream t.execution.ledger scope 0) projected snapshot
  found : findCheckpoint t'.checkpoints scope = some written
  others : ∀ other, scope ≠ other →
    findCheckpoint t'.checkpoints other = findCheckpoint t.checkpoints other
  rows : ∀ row ∈ t'.checkpoints, row = written ∨
    row ∈ t.checkpoints ∧ row.checkpoint.scope ≠ scope

/-- A successful call answers from what it read, or commits. -/
theorem projectAvailable_call
    (h : projectAvailable standardSnapshot t scope base imports = .ok (t', result)) :
    verifySnapshot base = .ok () ∧ base.dataPlane = .simulation ∧
      ((t' = t ∧ decideProjection standardSnapshot scope base imports (t.reads scope base) =
        .ok (.replay result)) ∨
      ∃ projected snapshot fingerprints position written,
        Committed standardSnapshot scope base imports t projected snapshot fingerprints position
          written t' ∧
        result.snapshot = snapshot ∧ result.checkpoint = written.checkpoint) := by
  simp only [projectAvailable, bind_eq_ok, exists_unit_iff, mapError_eq_ok, require_eq_ok] at h
  obtain ⟨hverified, hplane, decision, hdecision, h⟩ := h
  refine ⟨hverified, hplane, ?_⟩
  cases decision with
  | replay answer =>
    simp only [pure, Except.pure, Except.ok.injEq, Prod.mk.injEq] at h
    obtain ⟨rfl, rfl⟩ := h
    exact .inl ⟨rfl, hdecision⟩
  | commit after projected snapshot =>
    obtain ⟨fingerprints, position, hfrom, hafter⟩ := decideProjection_commit hdecision
    obtain ⟨fingerprints', htail⟩ := projectTail_ok hfrom.tail
    have hread : after = findCheckpoint t.checkpoints scope := by
      rcases hafter with ⟨hnone, rfl, -⟩ | ⟨stored, hstored, rfl, -⟩
      · exact (Option.map_eq_none_iff.mp hnone).symm
      · obtain ⟨stored', hfound, heq⟩ := Option.map_eq_some_iff.mp hstored
        rw [hfound, (Prod.mk.inj heq).1]
    have hadvance : ∀ stored, findCheckpoint t.checkpoints scope = some stored →
        position = stored.checkpoint.lastAppliedPosition ∧
        findSnapshot t.snapshots stored.checkpoint.factCheckpoint.artifactId = some base ∧
        base.snapshotHash = stored.checkpoint.factCheckpoint.fingerprint := by
      intro stored hfound
      rcases hafter with ⟨-, rfl, -⟩ | ⟨stored', hstored, rfl, hposition, hhash⟩
      · rw [hfound] at hread
        cases hread
      · obtain rfl := Option.some.inj (hread.trans hfound)
        obtain ⟨_, hfound', heq⟩ := Option.map_eq_some_iff.mp hstored
        obtain ⟨rfl, hsnapshot⟩ := Prod.mk.inj heq
        exact ⟨hposition, hsnapshot, hhash⟩
    have hinitial : findCheckpoint t.checkpoints scope = none → position = 0 := by
      intro hnone
      rcases hafter with ⟨-, -, hposition⟩ | ⟨stored', hstored, rfl, -⟩
      · exact hposition
      · rw [hnone] at hread
        cases hread
    simp only [commitProjection, bind_eq_ok, exists_unit_iff, mapError_eq_ok, require_eq_ok,
      Prod.exists, pure, Except.pure, Except.ok.injEq, Prod.mk.injEq] at h
    obtain ⟨snapshots, snapshotReplayed, hput, checkpoints, write, hwrite, audits, auditReplayed,
      haudit, ⟨hflags, -⟩, rfl, rfl⟩ := h
    rw [hread] at hwrite
    have hforward : ∀ stored, findCheckpoint t.checkpoints scope = some stored →
        stored.checkpoint.lastAppliedPosition < projected.throughPosition := by
      intro stored hfound
      have hposition := (hadvance stored hfound).1
      have hlt := htail.after
      have hthrough := htail.through
      omega
    obtain ⟨hnew, hcheckpoint, hfind, hother, hrows⟩ := @writeCheckpoint_ok _ _
      (projectedCheckpoint scope (t.reads scope base).fullPrefix projected snapshot) _ hwrite
      hforward
    rcases putSnapshot_ok hput with ⟨-, htrue⟩ | ⟨hsnapshots, -, hnone⟩
    · rw [htrue, hnew] at hflags
      cases hflags
    · refine .inr ⟨projected, snapshot, fingerprints, position,
        ⟨projectedCheckpoint scope (t.reads scope base).fullPrefix projected snapshot,
          write.stateRevision⟩, ?_, rfl, hcheckpoint⟩
      exact ⟨hfrom, hinitial, hadvance, rfl, hsnapshots, hnone, rfl, hfind, hother, hrows⟩

/-- A snapshot that is found is among the rows. -/
theorem findSnapshot_mem {snapshots : List ImmutablePlanningSnapshot} {id : String}
    (h : findSnapshot snapshots id = some snapshot) : snapshot ∈ snapshots :=
  List.mem_of_find?_eq_some h

/-- What a checkpoint was projected from survives every other write. -/
theorem ProjectedFrom.mono {initial : ImmutablePlanningSnapshot}
    {stored : StoredProjectionCheckpoint} (h : ProjectedFrom standardSnapshot t initial stored)
    (hevents : ∀ events, LedgerEvents t.execution.ledger stored.checkpoint.scope events →
      LedgerEvents t'.execution.ledger stored.checkpoint.scope events)
    (hmem : ∀ row ∈ t.snapshots, row ∈ t'.snapshots)
    (hfound : ∀ id row, findSnapshot t.snapshots id = some row →
      findSnapshot t'.snapshots id = some row) :
    ProjectedFrom standardSnapshot t' initial stored := by
  obtain ⟨events, snapshot, hledger, hlength, hsnapshot, hrest⟩ := h.projection
  exact ⟨hmem _ h.stored_initial, h.lineage, events, snapshot, hevents events hledger, hlength,
    hfound _ _ hsnapshot, hrest⟩

section
variable {fingerprints : List String} {position : Nat} {written : StoredProjectionCheckpoint}

theorem Committed.findSnapshot_keep
    (h : Committed standardSnapshot scope base imports t projected snapshot fingerprints position
      written t') {id : String} {row : ImmutablePlanningSnapshot}
    (hrow : findSnapshot t.snapshots id = some row) : findSnapshot t'.snapshots id = some row := by
  rw [h.snapshots, findSnapshot, List.find?_append]
  exact Option.or_eq_some_iff.mpr (.inl hrow)

theorem Committed.findSnapshot_new
    (h : Committed standardSnapshot scope base imports t projected snapshot fingerprints position
      written t') : findSnapshot t'.snapshots snapshot.snapshotId = some snapshot := by
  have hfresh := h.fresh
  rw [h.snapshots, findSnapshot, List.find?_append]
  rw [findSnapshot] at hfresh
  rw [hfresh]
  simp

theorem Committed.keep
    (h : Committed standardSnapshot scope base imports t projected snapshot fingerprints position
      written t') {initial : ImmutablePlanningSnapshot} {stored : StoredProjectionCheckpoint}
    (hstored : ProjectedFrom standardSnapshot t initial stored) :
    ProjectedFrom standardSnapshot t' initial stored := by
  refine hstored.mono ?_ ?_ ?_
  · intro events hevents
    rw [h.ledger]
    exact hevents
  · intro row hrow
    rw [h.snapshots]
    exact List.mem_append_left _ hrow
  · intro id row hrow
    exact h.findSnapshot_keep hrow

/-- What the base was projected from is what the new snapshot is projected from. -/
theorem Committed.projectedFrom (hinv : LedgerInv t.execution.ledger)
    (h : Committed standardSnapshot scope base imports t projected snapshot fingerprints position
      written t') {initial : ImmutablePlanningSnapshot} {events : List Json}
    (hinitial : initial ∈ t.snapshots)
    (hlineage : dictValue initial.document.sourceVersions
      "plantnexus-execution-event-prefix" = none)
    (hevents : LedgerEvents t.execution.ledger scope events) (hlength : events.length = position)
    (hsuccessive : Successive standardSnapshot scope initial events base) :
    ProjectedFrom standardSnapshot t' initial written := by
  obtain ⟨fingerprints', htail⟩ := projectTail_ok h.commit.tail
  have hlisted := listStream_events hinv h.commit.valid
  have hafter := htail.after
  have htake : (t.reads scope base).fullPrefix.take position = events := by
    rw [← hlength]
    refine hevents.take hlisted ?_
    exact hlength ▸ hafter.le
  have happend : events ++ (t.reads scope base).fullPrefix.drop position =
      (t.reads scope base).fullPrefix := by
    rw [← htake]
    exact List.take_append_drop ..
  have hscope : written.checkpoint.scope = scope := by rw [h.checkpoint]; rfl
  have hthrough : written.checkpoint.lastAppliedPosition =
      (t.reads scope base).fullPrefix.length := by
    rw [h.checkpoint]
    exact htail.through
  have hfact : written.checkpoint.factCheckpoint =
      ⟨"planning-snapshot.v2", snapshot.snapshotId, snapshot.snapshotHash⟩ := by
    rw [h.checkpoint]
    rfl
  refine ⟨?_, hlineage, (t.reads scope base).fullPrefix, snapshot, ?_, hthrough.symm, ?_, ?_, ?_⟩
  · rw [h.snapshots]
    exact List.mem_append_left _ hinitial
  · rw [h.ledger, hscope]
    exact hlisted
  · rw [hfact]
    exact h.findSnapshot_new
  · rw [hfact]
  · rw [hscope, ← happend]
    refine hsuccessive.batch (?_ : projectTail standardSnapshot scope base imports _ _ =
      .ok (projected, snapshot))
    rw [happend, hlength]
    exact h.commit.tail

end

theorem LedgerInv.noEvents (h : LedgerInv t.execution.ledger) :
    LedgerEvents t.execution.ledger scope [] where
  filed := by
    intro i event hevent
    cases hevent
  only := by
    intro row hrow _ hle
    have hpos := (h.columns row hrow).2.2
    have hzero : row.sourcePosition ≤ 0 := hle
    omega

/-- What holds of a scope before and after a step: its position never decreases, and its initial
snapshot stays. -/
def ScopeKept (standardSnapshot :
    Inputs → String → Except ProjectionError ImmutablePlanningSnapshot)
    (t t' : ProjectionTables) : Prop :=
  ∀ scope stored, findCheckpoint t.checkpoints scope = some stored →
    ∃ stored', findCheckpoint t'.checkpoints scope = some stored' ∧
      stored.checkpoint.lastAppliedPosition ≤ stored'.checkpoint.lastAppliedPosition ∧
      ∀ initial, ProjectedFrom standardSnapshot t initial stored →
        ProjectedFrom standardSnapshot t' initial stored'

/-- A step that keeps the checkpoints. -/
theorem ProjectionInv.keep (h : ProjectionInv standardSnapshot t)
    (hledger : LedgerInv t'.execution.ledger)
    (hcheckpoints : t'.checkpoints = t.checkpoints)
    (hkeep : ∀ initial stored, ProjectedFrom standardSnapshot t initial stored →
      ProjectedFrom standardSnapshot t' initial stored) :
    ProjectionInv standardSnapshot t' ∧ ScopeKept standardSnapshot t t' := by
  refine ⟨⟨hledger, ?_⟩, ?_⟩
  · intro stored hstored
    rw [hcheckpoints] at hstored
    obtain ⟨initial, hfrom⟩ := h.checkpoints stored hstored
    exact ⟨initial, hkeep initial stored hfrom⟩
  · intro scope stored hstored
    rw [hcheckpoints]
    exact ⟨stored, hstored, le_refl _, fun initial => hkeep initial stored⟩

theorem ProjectionInv.committed (h : ProjectionInv standardSnapshot t) {fingerprints : List String}
    {position : Nat} {written : StoredProjectionCheckpoint}
    (hcommit : Committed standardSnapshot scope base imports t projected snapshot fingerprints
      position written t') :
    ProjectionInv standardSnapshot t' ∧ ScopeKept standardSnapshot t t' := by
  obtain ⟨fingerprints', htail⟩ := projectTail_ok hcommit.commit.tail
  have hscope : ∀ {stored}, findCheckpoint t.checkpoints scope = some stored →
      stored.checkpoint.scope = scope := by
    intro stored hstored
    simpa using List.find?_some hstored
  -- the base carries the projection of the checkpoint that it is the snapshot of
  have hadvance : ∀ {stored initial}, findCheckpoint t.checkpoints scope = some stored →
      ProjectedFrom standardSnapshot t initial stored →
      ProjectedFrom standardSnapshot t' initial written := by
    intro stored initial hstored hfrom
    obtain ⟨hposition, hbase, -⟩ := hcommit.advance stored hstored
    obtain ⟨events, found, hevents, hlength, hfound, -, hsuccessive⟩ := hfrom.projection
    obtain rfl := Option.some.inj (hbase.symm.trans hfound)
    rw [hscope hstored] at hevents hsuccessive
    exact hcommit.projectedFrom h.ledger hfrom.stored_initial hfrom.lineage hevents
      (hlength.trans hposition.symm) hsuccessive
  have hwritten : ∃ initial, ProjectedFrom standardSnapshot t' initial written := by
    cases hfound : findCheckpoint t.checkpoints scope with
    | none =>
      have hzero := hcommit.first hfound
      have hposition := hcommit.commit.at_position
      rw [hzero] at hposition
      exact ⟨base, hcommit.projectedFrom h.ledger (findSnapshot_mem hcommit.commit.found)
        (snapshotStreamPosition_zero hposition) h.ledger.noEvents hzero.symm .initial⟩
    | some stored =>
      obtain ⟨initial, hfrom⟩ := h.checkpoints stored (List.mem_of_find?_eq_some hfound)
      exact ⟨initial, hadvance hfound hfrom⟩
  refine ⟨⟨?_, ?_⟩, ?_⟩
  · rw [hcommit.ledger]
    exact h.ledger
  · intro stored hstored
    rcases hcommit.rows stored hstored with rfl | ⟨hold, -⟩
    · exact hwritten
    · obtain ⟨initial, hfrom⟩ := h.checkpoints stored hold
      exact ⟨initial, hcommit.keep hfrom⟩
  · intro other stored hstored
    by_cases hsame : scope = other
    · subst hsame
      refine ⟨written, hcommit.found, ?_, fun initial => hadvance hstored⟩
      have hposition := (hcommit.advance stored hstored).1
      have hlt := htail.after
      have hthrough := htail.through
      rw [hcommit.checkpoint]
      show stored.checkpoint.lastAppliedPosition ≤ projected.throughPosition
      omega
    · rw [hcommit.others other hsame]
      exact ⟨stored, hstored, le_refl _, fun initial => hcommit.keep⟩

/-- Every step keeps the invariant and every scope. -/
theorem projection_step {event : ProjectionEvent Inputs} (h : ProjectionInv standardSnapshot t)
    (hstep : ProjectionStep standardSnapshot t event t') :
    ProjectionInv standardSnapshot t' ∧ ScopeKept standardSnapshot t t' := by
  cases hstep with
  | ingested hingest =>
    obtain ⟨-, happend, -⟩ := ingestEvent_ok hingest
    refine h.keep (h.ledger.append happend) rfl ?_
    intro initial stored hfrom
    exact hfrom.mono (fun events hevents => hevents.append happend) (fun row hrow => hrow)
      (fun id row hrow => hrow)
  | stored hput =>
    refine h.keep h.ledger rfl ?_
    intro initial stored hfrom
    refine hfrom.mono (fun events hevents => hevents) ?_ (fun id row => findSnapshot_put hput)
    intro row hrow
    rcases putSnapshot_ok hput with ⟨hsame, -⟩ | ⟨hrows, -, -⟩
    · exact hsame ▸ hrow
    · exact hrows ▸ List.mem_append_left _ hrow
  | projected hcall =>
    obtain ⟨-, -, ⟨rfl, -⟩ | ⟨projected, snapshot, fingerprints, position, written, hcommit, -⟩⟩ :=
      projectAvailable_call hcall
    · exact h.keep h.ledger rfl fun initial stored hfrom => hfrom
    · exact h.committed hcommit
  | recorded _ => exact h.keep h.ledger rfl fun initial stored hfrom => ⟨hfrom.1, hfrom.2, hfrom.3⟩
  | rejected _ | raised _ | rolledBack =>
    exact h.keep h.ledger rfl fun initial stored hfrom => hfrom

/-! ### Repetition -/

/-- What a call of the scope reads is what it was. -/
structure ReadsKept (scope : ProjectionScope) (t t' : ProjectionTables) : Prop where
  found : ∀ {id row}, findSnapshot t.snapshots id = some row →
    findSnapshot t'.snapshots id = some row
  checkpoint : findCheckpoint t'.checkpoints scope = findCheckpoint t.checkpoints scope
  stream : listStream t'.execution.ledger scope 0 = listStream t.execution.ledger scope 0

theorem ReadsKept.refl (scope : ProjectionScope) (t : ProjectionTables) : ReadsKept scope t t :=
  ⟨fun h => h, rfl, rfl⟩

theorem quiet_step {event : ProjectionEvent Inputs} (hquiet : Quiet scope event)
    (hstep : ProjectionStep standardSnapshot t event t') : ReadsKept scope t t' := by
  cases hstep with
  | @ingested service document execution result hingest =>
    refine ⟨fun h => h, rfl, ?_⟩
    obtain ⟨-, happend, -⟩ := ingestEvent_ok hingest
    rcases appendEvent_ok happend with ⟨hsame, -, -⟩ | ⟨position, -, hrows, hnew, -⟩
    · show listStream execution.ledger scope 0 = _
      rw [hsame]
    · have hout : ¬(LedgerRow.ofDocument document position).InStream scope := by
        rcases hquiet with hreplayed | hout
        · rw [hnew] at hreplayed
          cases hreplayed
        · exact hout
      show listStream execution.ledger scope 0 = _
      rw [hrows, listStream, listStream, List.filter_append]
      simp [hout]
  | stored hput => exact ⟨findSnapshot_put hput, rfl, rfl⟩
  | projected hcall =>
    obtain ⟨-, -, ⟨rfl, -⟩ | ⟨projected, snapshot, fingerprints, position, written, hcommit, -⟩⟩ :=
      projectAvailable_call hcall
    · exact .refl scope _
    · exact ⟨hcommit.findSnapshot_keep, hcommit.others scope hquiet, by rw [hcommit.ledger]⟩
  | recorded _ => exact ⟨fun h => h, rfl, rfl⟩
  | rejected _ | raised _ | rolledBack => exact .refl scope _

theorem quiet_run {u : ProjectionTables}
    (h : Reach (ProjectionStep standardSnapshot) (fun _ event => Quiet scope event) t u) :
    ReadsKept scope t u := by
  refine Reach.invariant (fun u => ReadsKept scope t u) ?_ (.refl scope t) h
  intro u u' event hkept hquiet hstep
  have hnext := quiet_step hquiet hstep
  exact ⟨fun hrow => hnext.found (hkept.found hrow), hnext.checkpoint.trans hkept.checkpoint,
    hnext.stream.trans hkept.stream⟩

/-- The reads of a call whose snapshots are there. -/
theorem ReadsKept.same_reads (h : ReadsKept scope t t')
    (hbase : findSnapshot t.snapshots base.snapshotId = some base)
    (hcheckpoint : ∀ stored, findCheckpoint t.checkpoints scope = some stored →
      ∃ row, findSnapshot t.snapshots stored.checkpoint.factCheckpoint.artifactId = some row) :
    t'.reads scope base = t.reads scope base := by
  have hfound : findSnapshot t'.snapshots base.snapshotId =
      findSnapshot t.snapshots base.snapshotId := by
    rw [hbase]
    exact h.found hbase
  simp only [ProjectionTables.reads, hfound, h.checkpoint, h.stream]
  cases hstored : findCheckpoint t.checkpoints scope with
  | none => rfl
  | some stored =>
    obtain ⟨row, hrow⟩ := hcheckpoint stored hstored
    simp only [Option.map_some, hrow, h.found hrow]

/-- The snapshot of a checkpoint is there. -/
theorem ProjectionInv.found (h : ProjectionInv standardSnapshot t)
    {stored : StoredProjectionCheckpoint}
    (hstored : findCheckpoint t.checkpoints scope = some stored) :
    ∃ row, findSnapshot t.snapshots stored.checkpoint.factCheckpoint.artifactId = some row := by
  obtain ⟨initial, hfrom⟩ := h.checkpoints stored (List.mem_of_find?_eq_some hstored)
  obtain ⟨-, row, -, -, hrow, -⟩ := hfrom.projection
  exact ⟨row, hrow⟩

/-- A call that is repeated before anything new has happened. -/
theorem repeated_call {u : ProjectionTables} (h : ProjectionInv standardSnapshot t)
    (hcall : projectAvailable standardSnapshot t scope base imports = .ok (t', result))
    (hkept : ReadsKept scope t' u) :
    ∃ again, projectAvailable standardSnapshot u scope base imports = .ok (u, again) ∧
      again.snapshot = result.snapshot ∧ again.checkpoint = result.checkpoint ∧
      again.replayed = true := by
  obtain ⟨hverified, hplane, hdone⟩ := projectAvailable_call hcall
  have hanswer : ∀ again, decideProjection standardSnapshot scope base imports
      (u.reads scope base) = .ok (.replay again) →
      projectAvailable standardSnapshot u scope base imports = .ok (u, again) := by
    intro again hagain
    simp only [projectAvailable, bind_eq_ok, exists_unit_iff, mapError_eq_ok, require_eq_ok]
    exact ⟨hverified, hplane, _, hagain, rfl⟩
  rcases hdone with ⟨rfl, hreplay⟩ |
    ⟨projected, snapshot, fingerprints, position, written, hcommit, hsnapshot, hcheckpoint⟩
  · have hbase : findSnapshot t'.snapshots base.snapshotId = some base := by
      simp only [decideProjection, bind_eq_ok, exists_unit_iff, require_eq_ok] at hreplay
      exact hreplay.1
    have hreads := hkept.same_reads hbase fun stored => h.found
    exact ⟨result, hanswer result (by rw [hreads, hreplay]), rfl, rfl,
      decideProjection_replay hreplay⟩
  · have hbase := hcommit.findSnapshot_keep hcommit.commit.found
    have hnew := hcommit.findSnapshot_new
    have hfact : written.checkpoint.factCheckpoint.artifactId = snapshot.snapshotId := by
      rw [hcommit.checkpoint]
      rfl
    have hreads : u.reads scope base = ⟨some base, some (written, some snapshot),
        (t.reads scope base).fullPrefix⟩ := by
      rw [hkept.same_reads hbase fun stored => (h.committed hcommit).1.found]
      simp only [ProjectionTables.reads, hbase, hcommit.found, Option.map_some, hfact, hnew,
        hcommit.ledger]
    have hwritten : written = ⟨projectedCheckpoint scope (t.reads scope base).fullPrefix
        projected snapshot, written.stateRevision⟩ :=
      congrArg (StoredProjectionCheckpoint.mk · written.stateRevision) hcommit.checkpoint
    rw [hwritten] at hreads
    have hagain := hcommit.commit.again hverified hreads
    exact ⟨_, hanswer _ hagain, hsnapshot.symm, (hcheckpoint.trans hcommit.checkpoint).symm, rfl⟩

/-! ### Exactly once -/

/-- A call or a delivery that came to nothing. -/
def ProjectionEvent.IsFailure : ProjectionEvent Inputs → Prop
  | .rejected .. | .raised .. | .rolledBack => True
  | _ => False

theorem ProjectionInv.empty : ProjectionInv standardSnapshot .empty where
  ledger := ⟨by simp [ProjectionTables.empty], by simp [ProjectionTables.empty]⟩
  checkpoints := by simp [ProjectionTables.empty]

end

/-! ### A stored base

One snapshot is stored, and nothing has been projected yet. -/

def storedBase : PlanningSnapshot :=
  plainSnapshot (plainRecords 60 ["LOT1"]) [plainInstance 60 "O1" "LOT1"]

/-- A service without a registry of units. -/
def noImport (_ : Unit) (_ : String) : Except ProjectionError ImmutablePlanningSnapshot :=
  .error ⟨.urgentImportRequired, "unit_registry",
    "Urgent Demand requires the versioned standard unit registry"⟩

theorem storedBase_ok : verifySnapshot (sealSnapshot storedBase) = .ok () := by
  rw [verifySnapshot_eq_ok]
  exact verified_seal _ rfl (plainSnapshot_canonical (by decide +kernel) (by decide +kernel))
    (plainSnapshot_valid (by decide +kernel) (by decide +kernel))

/-- The store with the base. -/
def storedTables : ProjectionTables := ⟨⟨[], []⟩, [sealSnapshot storedBase], []⟩

theorem stored_step : ProjectionStep noImport .empty (.stored (sealSnapshot storedBase))
    storedTables := by
  have hput : putSnapshot [] (sealSnapshot storedBase) =
      .ok ([sealSnapshot storedBase], false) := by
    simp only [putSnapshot, bind_eq_ok, exists_unit_iff, require_eq_ok, storedBase_ok, true_and]
    exact ⟨rfl, rfl⟩
  exact .stored hput

end PlantNexus.Execution
