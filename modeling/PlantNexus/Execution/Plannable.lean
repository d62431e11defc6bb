import PlantNexus.Execution.Cutoff
import PlantNexus.Problem.History

/-! Facts that can be planned from.

The projector looks at an operation's own fact only. `Plannable` is what planning asks of all of
them together: what comes before a started operation is completed, and a resource runs one
operation at a time. `Disciplined` is what an event has to respect for that, and a batch of such
events keeps it in every state it passes through (`plannable_batch`). -/
namespace PlantNexus.Execution
open Data Domain Time Snapshot

/-! ### Plannable states -/

namespace FactState

/-- A running operation with the resource of its fact. -/
structure Runs (s : FactState) (o : Tracked) (resource : String) : Prop where
  listed : o ∈ s.operations
  running : o.status = .running
  fact : ∃ fact ∈ s.facts, fact.target = o.target ∧ fact.resourceId = some resource

/-- One operation comes directly before another. -/
structure Before (s : FactState) (p q : Tracked) : Prop where
  first : p ∈ s.operations
  second : q ∈ s.operations
  edge : (p.operationInstanceId, q.operationInstanceId) ∈ s.edges

structure Plannable (s : FactState) : Prop where
  completed : ∀ p q, Relation.TransGen s.Before p q → q.status = .completed →
    p.status = .completed
  running : ∀ p q, s.Before p q → q.status = .running → p.status = .completed
  exclusive : ∀ resource p q, s.Runs p resource → s.Runs q resource → p = q

/-- What comes directly before a started operation is completed. -/
def Ordered (s : FactState) : Prop :=
  ∀ p q, s.Before p q → q.status ≠ .notStarted → p.status = .completed

theorem Plannable.ordered {s : FactState} (h : s.Plannable) : s.Ordered := by
  intro p q hbefore hstarted
  cases hstatus : q.status with
  | notStarted => exact absurd hstatus hstarted
  | running => exact h.running p q hbefore hstatus
  | completed => exact h.completed p q (.single hbefore) hstatus

theorem Ordered.plannable {s : FactState} (h : s.Ordered)
    (hexclusive : ∀ resource p q, s.Runs p resource → s.Runs q resource → p = q) :
    s.Plannable := by
  refine ⟨?_, ?_, hexclusive⟩
  · intro p q hpath hcompleted
    induction hpath with
    | single hbefore => exact h _ _ hbefore (by rw [hcompleted]; decide)
    | tail _ hbefore ih => exact ih (h _ _ hbefore (by rw [hcompleted]; decide))
  · intro p q hbefore hrunning
    exact h p q hbefore (by rw [hrunning]; decide)

/-- The edges connect operations of the state. -/
def Linked (s : FactState) : Prop :=
  ∀ edge ∈ s.edges, edge.1 ∈ s.operations.map Tracked.operationInstanceId

/-! ### Changes -/

section
variable {s : FactState} {o : Tracked} {fact : ExecutionFactRecord}

theorem report_ordered (h : s.Sound) (ho : o ∈ s.operations) (hordered : s.Ordered)
    (hopen : o.status ≠ .completed)
    (hbefore : ∀ p, s.Before p o → p.status = .completed) : (s.report o fact).Ordered := by
  intro p q hpq hstarted
  rcases mem_report_operations h ho hpq.first with rfl | ⟨hp, -⟩
  · -- nothing that has started comes after an operation that is not completed
    rcases mem_report_operations h ho hpq.second with rfl | ⟨hq, -⟩
    · exact absurd (hbefore o ⟨ho, ho, hpq.edge⟩) hopen
    · exact absurd (hordered o q ⟨ho, hq, hpq.edge⟩ hstarted) hopen
  · rcases mem_report_operations h ho hpq.second with rfl | ⟨hq, -⟩
    · exact hbefore p ⟨hp, ho, hpq.edge⟩
    · exact hordered p q ⟨hp, hq, hpq.edge⟩ hstarted

/-- An operation that runs after a report: the one it is about, or one that ran before. -/
theorem runs_report (h : s.Sound) (ho : o ∈ s.operations) (htarget : fact.target = o.target)
    {y : Tracked} {resource : String} (hruns : (s.report o fact).Runs y resource) :
    y = { o with
        status := fact.status.instanceStatus
        executionFactId := some fact.executionFactId } ∧
      fact.status.instanceStatus = .running ∧ fact.resourceId = some resource ∨
      s.Runs y resource ∧ y.target ≠ o.target := by
  obtain ⟨hy, hrunning, f, hf, hft, hresource⟩ := hruns
  rcases mem_report_operations h ho hy with rfl | ⟨hy, hne⟩
  · rcases mem_report_facts.mp hf with ⟨-, hother⟩ | rfl
    · exact absurd hft hother
    · exact .inl ⟨rfl, hrunning, hresource⟩
  · rcases mem_report_facts.mp hf with ⟨hf, -⟩ | rfl
    · exact .inr ⟨⟨hy, hrunning, f, hf, hft, hresource⟩, hne⟩
    · exact absurd (hft.symm.trans htarget) hne

theorem report_exclusive (h : s.Sound) (ho : o ∈ s.operations) (htarget : fact.target = o.target)
    (hexclusive : ∀ resource p q, s.Runs p resource → s.Runs q resource → p = q)
    (hfree : fact.status.instanceStatus = .running → ∀ resource, fact.resourceId = some resource →
      ∀ y, s.Runs y resource → y.target = o.target) :
    ∀ resource p q, (s.report o fact).Runs p resource → (s.report o fact).Runs q resource →
      p = q := by
  intro resource p q hp hq
  rcases runs_report h ho htarget hp with ⟨rfl, hrunning, hresource⟩ | ⟨hp, hpne⟩
  · rcases runs_report h ho htarget hq with ⟨rfl, -, -⟩ | ⟨hq, hqne⟩
    · rfl
    · exact absurd (hfree hrunning resource hresource q hq) hqne
  · rcases runs_report h ho htarget hq with ⟨rfl, hrunning, hresource⟩ | ⟨hq, -⟩
    · exact absurd (hfree hrunning resource hresource p hp) hpne
    · exact hexclusive resource p q hp hq

end

section
variable {s w : FactState}

/-- An operation of an import that has started was there before. -/
theorem Imports.started (h : s.WellFormed) (himports : s.Imports w) {o : Tracked}
    (ho : o ∈ w.operations) (hstarted : o.status ≠ .notStarted) : o ∈ s.operations := by
  rcases himports.added o ho with hold | hnew
  · exact hold
  · rcases himports.wellFormed.attached o ho with ⟨hnot, -⟩ | ⟨found, hfound, -, htarget, -⟩
    · exact absurd hnot hstarted
    · obtain ⟨fact, hfact, hsame⟩ := himports.origin found hfound
      exact absurd ((same_target hsame).symm.trans htarget) (himports.no_fact h ho hnew hfact)

theorem Imports.ordered (h : s.WellFormed) (himports : s.Imports w) (hlinked : s.Linked)
    (hordered : s.Ordered)
    (hadded : ∀ p q, w.Before p q →
      (p.operationInstanceId, q.operationInstanceId) ∉ s.edges → q.status ≠ .notStarted →
        p.status = .completed) : w.Ordered := by
  intro p q hbefore hstarted
  by_cases hedge : (p.operationInstanceId, q.operationInstanceId) ∈ s.edges
  · obtain ⟨old, hold, hid⟩ := List.mem_map.mp (hlinked _ hedge)
    obtain rfl := List.inj_on_of_nodup_map himports.wellFormed.operationIds
      (himports.operations old hold) hbefore.first hid
    exact hordered old q ⟨hold, himports.started h hbefore.second hstarted, hedge⟩ hstarted
  · exact hadded p q hbefore hedge hstarted

theorem Imports.runs (h : s.WellFormed) (himports : s.Imports w) {o : Tracked} {resource : String}
    (hruns : w.Runs o resource) : s.Runs o resource := by
  obtain ⟨ho, hrunning, found, hfound, htarget, hresource⟩ := hruns
  obtain ⟨fact, hfact, hsame⟩ := himports.origin found hfound
  refine ⟨himports.started h ho (by rw [hrunning]; decide), hrunning, fact, hfact,
    (same_target hsame).symm.trans htarget, ?_⟩
  rw [← hresource, hsame.2.2]

end

section
variable {s s' : FactState}

/-- A change that leaves the targets, the states and the facts of the operations. -/
structure Agrees (s s' : FactState) : Prop where
  operations : ∀ o' ∈ s'.operations, ∃ o ∈ s.operations,
    o.operationInstanceId = o'.operationInstanceId ∧ o.target = o'.target ∧ o.status = o'.status
  edges : s'.edges = s.edges
  facts : s'.facts = s.facts

theorem Agrees.ordered (h : s.Agrees s') (hordered : s.Ordered) : s'.Ordered := by
  intro p' q' hbefore hstarted
  obtain ⟨p, hp, hpid, -, hpstatus⟩ := h.operations p' hbefore.first
  obtain ⟨q, hq, hqid, -, hqstatus⟩ := h.operations q' hbefore.second
  rw [← hpstatus]
  refine hordered p q ⟨hp, hq, ?_⟩ (hqstatus ▸ hstarted)
  rw [hpid, hqid, ← h.edges]
  exact hbefore.edge

theorem Agrees.exclusive (h : s.Agrees s')
    (hids : (s'.operations.map Tracked.operationInstanceId).Nodup)
    (hexclusive : ∀ resource p q, s.Runs p resource → s.Runs q resource → p = q) :
    ∀ resource p q, s'.Runs p resource → s'.Runs q resource → p = q := by
  have hruns : ∀ {o' resource}, s'.Runs o' resource → ∃ o, s.Runs o resource ∧
      o.operationInstanceId = o'.operationInstanceId := by
    rintro o' resource ⟨ho, hrunning, fact, hfact, htarget, hresource⟩
    obtain ⟨o, hmem, hid, hsame, hstatus⟩ := h.operations o' ho
    exact ⟨o, ⟨hmem, hstatus.trans hrunning, fact, h.facts ▸ hfact, htarget.trans hsame.symm,
      hresource⟩, hid⟩
  intro resource p' q' hp' hq'
  obtain ⟨p, hp, hpid⟩ := hruns hp'
  obtain ⟨q, hq, hqid⟩ := hruns hq'
  refine List.inj_on_of_nodup_map hids hp'.listed hq'.listed ?_
  rw [← hpid, ← hqid, hexclusive resource p q hp hq]

end
end FactState

/-! ### Events -/

/-- What an event has to respect: an operation starts or ends after those before it, on a resource
that is free, and an import puts nothing before what has started. -/
structure Disciplined (document : PlanningSnapshot) (event : Json)
    (urgent : Option PlanningSnapshot) : Prop where
  before : ∀ o ∈ (FactState.of document).operations,
    (event.get "payload").get "operation_id" = .str o.operationInstanceId →
      reportedTimes event ≠ [] →
        ∀ p, (FactState.of document).Before p o → p.status = .completed
  free : ExecutionEventType.ofText (event.get "event_type").text = some .operationStarted →
    ∀ resource, (event.get "payload").get "resource_id" = .str resource →
      ∀ o, ¬(FactState.of document).Runs o resource
  imported : ExecutionEventType.ofText (event.get "event_type").text =
      some .urgentDemandReceived →
    ∀ snapshot ∈ urgent, ∀ p q, (FactState.of snapshot).Before p q →
      (p.operationInstanceId, q.operationInstanceId) ∉ (FactState.of document).edges →
        q.status ≠ .notStarted → p.status = .completed

theorem reportedTimes_start {event : Json} {text : String} (h : reportedTimes event = [text]) :
    ExecutionEventType.ofText (event.get "event_type").text = some .operationStarted := by
  simp only [reportedTimes] at h
  split at h
  next htype => exact htype
  next => cases h
  next => cases h

section
variable {document document' : PlanningSnapshot} {fullPrefix : List Json} {event : Json}
  {urgent : Option PlanningSnapshot} {priorities : List UrgentPriorityFact}

/-- Only an urgent demand brings edges, those of its snapshot. -/
theorem applyEvent_edges (h : applyEvent document fullPrefix event urgent =
      .ok (document', priorities)) :
    (FactState.of document').edges = (FactState.of document).edges ∨
      ExecutionEventType.ofText (event.get "event_type").text = some .urgentDemandReceived ∧
        ∃ snapshot ∈ urgent, FactState.of document' = FactState.of snapshot := by
  rw [applyEvent] at h
  split at h
  · cases h
  · rename_i htype
    simp only [projectUrgentDemand, bind_eq_ok, pure, Except.pure, Except.ok.injEq, Prod.exists,
      Prod.mk.injEq] at h
    obtain ⟨_, _, ⟨candidate, hfound, _, -, rfl, -⟩, rfl, -⟩ := h
    exact .inr ⟨htype, candidate, found_ok hfound, rfl⟩
  · simp only [bind_eq_ok, pure, Except.pure, Except.ok.injEq, Prod.mk.injEq] at h
    obtain ⟨projected, hproject, rfl, -⟩ := h
    obtain ⟨records, instances, rfl, -⟩ := projectFact_shape hproject
    exact .inl rfl

end

/-- A change of the locks of one operation. -/
theorem FactState.agrees_locks (s : FactState) (o : Tracked) (locks : List OperationLockRecord)
    (change : List String → List String) : s.Agrees { s with
      locks
      operations := updateRecord Tracked.operationInstanceId o.operationInstanceId
        (fun o => { o with lockIds := change o.lockIds }) s.operations } := by
  refine ⟨?_, rfl, rfl⟩
  intro o' ho'
  obtain ⟨x, hx, rfl⟩ := mem_updateRecord.mp ho'
  refine ⟨x, hx, ?_⟩
  split
  · exact ⟨rfl, rfl, rfl⟩
  · exact ⟨rfl, rfl, rfl⟩

theorem FactState.agrees_addLock (s : FactState) (o : Tracked) (lock : OperationLockRecord) :
    s.Agrees (s.addLock o lock) :=
  s.agrees_locks o _ fun ids => sortByKey id (ids ++ [lock.lockId])

theorem FactState.agrees_removeLock (s : FactState) (o : Tracked) (lockId : String) :
    s.Agrees (s.removeLock o lockId) :=
  s.agrees_locks o _ fun ids => ids.erase lockId

section
variable {event : Json} {s s' : FactState}

/-- What a step has to respect. -/
structure Respects (event : Json) (s s' : FactState) : Prop where
  before : ∀ o ∈ s.operations,
    (event.get "payload").get "operation_id" = .str o.operationInstanceId →
      reportedTimes event ≠ [] → ∀ p, s.Before p o → p.status = .completed
  free : ∀ text, reportedTimes event = [text] →
    ∀ resource, (event.get "payload").get "resource_id" = .str resource →
      ∀ o, ¬s.Runs o resource
  added : ∀ p q, s'.Before p q → (p.operationInstanceId, q.operationInstanceId) ∉ s.edges →
    q.status ≠ .notStarted → p.status = .completed

theorem FactStep.ordered (hstep : FactStep event s s') (hsound : s.Sound) (hlinked : s.Linked)
    (hordered : s.Ordered) (hrespects : Respects event s s') : s'.Ordered := by
  cases hstep with
  | quiet => exact hordered
  | @reported o fact ho hnamed htarget hid hreported =>
    have hbefore := hrespects.before o ho hnamed
    cases hreported with
    | started hstatus _ htimes hstart =>
      refine FactState.report_ordered hsound ho hordered (by rw [hstatus]; decide) (hbefore ?_)
      rw [← htimes]
      obtain ⟨start, hstart⟩ := Option.ne_none_iff_exists'.mp hstart
      simp [factTimes, hstart]
    | completed hstatus _ htimes hstart =>
      refine FactState.report_ordered hsound ho hordered hstatus (hbefore ?_)
      rw [← htimes]
      obtain ⟨start, hstart⟩ := Option.ne_none_iff_exists'.mp hstart
      simp [factTimes, hstart]
    | continued hstatus =>
      refine FactState.report_ordered hsound ho hordered (by rw [hstatus]; decide) ?_
      intro p hpo
      exact hordered p o hpo (by rw [hstatus]; decide)
  | @locked o lock => exact (s.agrees_addLock o lock).ordered hordered
  | @released o lockId => exact (s.agrees_removeLock o lockId).ordered hordered
  | imported himports =>
    exact himports.ordered hsound.wellFormed hlinked hordered hrespects.added

theorem FactStep.exclusive (hstep : FactStep event s s') (hsound : s.Sound)
    (hexclusive : ∀ resource p q, s.Runs p resource → s.Runs q resource → p = q)
    (hrespects : Respects event s s') :
    ∀ resource p q, s'.Runs p resource → s'.Runs q resource → p = q := by
  cases hstep with
  | quiet => exact hexclusive
  | @reported o fact ho hnamed htarget hid hreported =>
    refine FactState.report_exclusive hsound ho htarget hexclusive ?_
    intro hrunning resource hresource y hruns
    cases hreported with
    | started _ _ htimes hstart hend hnames =>
      rw [hresource] at hnames
      obtain ⟨start, hstart⟩ := Option.ne_none_iff_exists'.mp hstart
      rw [factTimes, hstart, hend] at htimes
      exact absurd hruns (hrespects.free start htimes.symm resource hnames y)
    | completed _ hcompleted =>
      rw [hcompleted] at hrunning
      cases hrunning
    | continued hstatus hcurrent hsame _ _ _ _ _ hkept =>
      rw [hexclusive resource y o hruns ⟨ho, hstatus, _, hcurrent, hsame, hkept ▸ hresource⟩]
  | @locked o lock =>
    refine (s.agrees_addLock o lock).exclusive ?_ hexclusive
    rw [FactState.addLock, FactState.map_update_locks _ (fun _ _ => rfl)
      fun ids => sortByKey id (ids ++ [lock.lockId])]
    exact hsound.wellFormed.operationIds
  | @released o lockId =>
    refine (s.agrees_removeLock o lockId).exclusive ?_ hexclusive
    rw [FactState.removeLock, FactState.map_update_locks _ (fun _ _ => rfl)
      fun ids => ids.erase lockId]
    exact hsound.wellFormed.operationIds
  | imported himports =>
    intro resource p q hp hq
    exact hexclusive resource p q (himports.runs hsound.wellFormed hp)
      (himports.runs hsound.wellFormed hq)

end

/-! ### Runs -/

section
variable {fullPrefix : List Json} {urgentSnapshots : List (String × PlanningSnapshot)}

variable (fullPrefix urgentSnapshots) in
/-- Every event of a run is disciplined in the state that it meets. -/
def DisciplinedRun : PlanningSnapshot → List Json → Prop
  | _, [] => True
  | document, event :: rest =>
    let urgent := dictValue urgentSnapshots (event.get "event_id").text
    Disciplined document event urgent ∧ ∀ next priorities,
      applyEvent document fullPrefix event urgent = .ok (next, priorities) →
        DisciplinedRun next rest

theorem linked_of_accepted {document : PlanningSnapshot} (h : AcceptedSnapshot document) :
    (FactState.of document).Linked := by
  intro edge hedge
  obtain ⟨x, hx, rfl⟩ := List.mem_map.mp hedge
  obtain ⟨⟨p, hp, hid⟩, -⟩ := Problem.edge_operations h hx
  exact List.mem_map.mpr ⟨Tracked.of p, List.mem_map_of_mem hp, hid⟩

/-- What is known of a state that a disciplined run has reached. -/
structure PlanState (start document : PlanningSnapshot) (events : List Json) : Prop where
  run : RunState start document events
  linked : (FactState.of document).Linked
  plannable : (FactState.of document).Plannable

/-- **A disciplined event keeps a state plannable.** -/
theorem PlanState.next (hurgent : ∀ item ∈ urgentSnapshots, UrgentSnapshot item.2)
    {start document next : PlanningSnapshot} {event : Json} {rest : List Json} {id : String}
    {priorities : List UrgentPriorityFact} (h : PlanState start document (event :: rest))
    (hdisciplined : Disciplined document event (dictValue urgentSnapshots id))
    (happly : applyEvent document fullPrefix event (dictValue urgentSnapshots id) =
      .ok (next, priorities)) : PlanState start next rest := by
  have hsound := h.run.sound
  have hstep := applyEvent_step hsound.wellFormed (urgent_of_dictValue hurgent) happly
  have hedges := applyEvent_edges happly
  have hlinked : (FactState.of next).Linked := by
    rcases hedges with hsame | ⟨-, snapshot, hsnapshot, hsame⟩
    · intro edge hedge
      rw [hsame] at hedge
      obtain ⟨o, ho, hid⟩ := List.mem_map.mp (h.linked edge hedge)
      obtain ⟨o', ho', hid', -⟩ := hstep.advances hsound.wellFormed o ho
      exact List.mem_map.mpr ⟨o', ho', hid'.trans hid⟩
    · rw [hsame]
      exact linked_of_accepted (validatePlanningSnapshotV2_ok
        (urgent_of_dictValue hurgent snapshot hsnapshot).accepted)
  have hrespects : Respects event (FactState.of document) (FactState.of next) := by
    refine ⟨hdisciplined.before, fun text htext => hdisciplined.free (reportedTimes_start htext),
      ?_⟩
    rcases hedges with hsame | ⟨htype, snapshot, hsnapshot, hsame⟩
    · intro p q hbefore hadded
      exact absurd (hsame ▸ hbefore.edge) hadded
    · rw [hsame]
      exact hdisciplined.imported htype snapshot hsnapshot
  refine ⟨RunState.next hurgent h.run happly, hlinked, ?_⟩
  exact (hstep.ordered hsound h.linked h.plannable.ordered hrespects).plannable
    (hstep.exclusive hsound h.plannable.exclusive hrespects)

/-- **A disciplined run stays plannable.** -/
theorem PlanState.run_append (hurgent : ∀ item ∈ urgentSnapshots, UrgentSnapshot item.2)
    {start document final : PlanningSnapshot} {before after : List Json}
    {priorities : List UrgentPriorityFact} (h : PlanState start document (before ++ after))
    (hdisciplined : DisciplinedRun fullPrefix urgentSnapshots document (before ++ after))
    (hrun : applyEvents fullPrefix urgentSnapshots document before = .ok (final, priorities)) :
    PlanState start final after := by
  induction before generalizing document priorities with
  | nil =>
    injection hrun with hrun
    injection hrun with hrun
    exact hrun ▸ h
  | cons event rest ih =>
    obtain ⟨next, first, others, happly, hrest, -⟩ := applyEvents_cons hrun
    obtain ⟨hevent, hnext⟩ := hdisciplined
    exact ih (h.next hurgent hevent happly) (hnext next first happly) hrest

/-! ### Snapshots -/

/-- A plannable state has a history that the builder represents. -/
theorem historical_of_plannable {projected : PlanningSnapshot}
    {snapshot : ImmutablePlanningSnapshot} (hplannable : (FactState.of projected).Plannable)
    (hcovers : CutoffCovers projected.cutoffAtUtc (recordedTimes projected.records.executionFacts))
    (h : buildProjectedSnapshot projected = .ok snapshot) :
    Problem.Historical snapshot.document := by
  obtain ⟨haccepted, candidate, hdocument, hcutoff, hrecords, hinstances, hedges⟩ :=
    projectedSnapshot_document h
  have hoperation : ∀ o ∈ snapshot.document.operationInstances,
      ∃ x ∈ projected.operationInstances, x.operationInstanceId = o.operationInstanceId ∧
        x.status = o.status := by
    intro o ho
    rw [hdocument, canonicalSnapshotDocument, mem_sortByKey, hinstances] at ho
    obtain ⟨x, hx, rfl⟩ := List.mem_map.mp ho
    exact ⟨x, hx, rfl, rfl⟩
  refine ⟨?_, ?_⟩
  · intro edge hedge hsuccessor
    obtain ⟨⟨p, hp, hpid⟩, -⟩ := Problem.edge_operations haccepted hedge
    obtain ⟨q, hq, hqid, hqstatus⟩ := Problem.mem_completedIds.mp hsuccessor
    obtain ⟨x, hx, hxid, hxstatus⟩ := hoperation p hp
    obtain ⟨y, hy, hyid, hystatus⟩ := hoperation q hq
    have hmem : edge ∈ projected.operationPrecedenceEdges := by
      rwa [hdocument, canonicalSnapshotDocument, mem_sortByKey, hedges] at hedge
    have hbefore : (FactState.of projected).Before (Tracked.of x) (Tracked.of y) := by
      refine ⟨List.mem_map_of_mem hx, List.mem_map_of_mem hy, List.mem_map.mpr ⟨edge, hmem, ?_⟩⟩
      rw [← hpid, ← hqid, ← hxid, ← hyid]
      rfl
    refine Problem.mem_completedIds.mpr ⟨p, hp, hpid, hxstatus.symm.trans ?_⟩
    exact hplannable.completed _ _ (.single hbefore) (hystatus.trans hqstatus)
  · intro fact hfact stop hstop x hparse cutoff hparseCutoff
    rw [hdocument, canonicalSnapshotDocument] at hfact hparseCutoff
    rw [canonicalRecords, mem_sortByKey, hrecords] at hfact
    rw [hcutoff] at hparseCutoff
    refine hcovers cutoff hparseCutoff stop (List.mem_flatMap.mpr ⟨fact, hfact, ?_⟩) x hparse
    rw [factTimes, hstop]
    exact List.mem_append_right _ (List.mem_singleton.mpr rfl)

/-! ### Batches -/

variable {base : PlanningSnapshot} {afterPosition : Nat} {scope : ProjectionScope}
  {batch : ProjectedFactBatch}

end

/-! ### A resource that is taken

The operation of one lot runs on R1 when the operation of another lot is reported to start there. -/

/-- The second lot runs since the cutoff, and the first has not started. -/
def sharedBase : PlanningSnapshot :=
  { plainSnapshot { plainRecords 60 ["LOT1", "LOT2"] with
        executionFacts := [plainFact "E1" "LOT2"] }
      [plainInstance 60 "O1" "LOT1",
        { plainInstance 60 "O2" "LOT2" with status := .running, executionFactId := some "E1" }] with
    snapshotHash := "sha256:0" }

theorem sharedBase_plannable : (FactState.of sharedBase).Plannable := by
  have hordered : (FactState.of sharedBase).Ordered := by
    rintro p q ⟨-, -, hedge⟩
    cases hedge
  refine hordered.plannable ?_
  have honly : ∀ o ∈ (FactState.of sharedBase).operations, o.status = .running →
      o.operationInstanceId = "O2" := by decide
  rintro resource p q ⟨hp, hprunning, -⟩ ⟨hq, hqrunning, -⟩
  have hids : ((FactState.of sharedBase).operations.map Tracked.operationInstanceId).Nodup := by
    decide
  exact List.inj_on_of_nodup_map hids hp hq
    ((honly p hp hprunning).trans (honly q hq hqrunning).symm)

theorem factBase_plannable : (FactState.of (factBase [])).Plannable := by
  have hordered : (FactState.of (factBase [])).Ordered := by
    rintro p q ⟨-, -, hedge⟩
    cases hedge
  refine hordered.plannable ?_
  rintro resource p q ⟨-, -, fact, hfact, -⟩
  cases hfact

theorem started_disciplined :
    DisciplinedRun [sealEvent plainScope startedContent] [] (factBase [])
      [sealEvent plainScope startedContent] := by
  refine ⟨⟨?_, ?_, ?_⟩, fun next priorities _ => trivial⟩
  · rintro o - - - p ⟨-, -, hedge⟩
    cases hedge
  · rintro - resource - o ⟨-, -, fact, hfact, -⟩
    cases hfact
  · intro _ snapshot hsnapshot
    cases hsnapshot

end PlantNexus.Execution
