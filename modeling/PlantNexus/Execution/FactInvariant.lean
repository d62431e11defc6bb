import PlantNexus.Data.JsonEquality
import PlantNexus.Execution.FactSteps
import PlantNexus.Execution.SealedEvents

/-! The facts of a snapshot along a batch of events.

A step of the facts keeps a sound state sound and no operation falls back, as long as the fact of
the event takes an identity that is not yet there (`FactStep.sound`, `FactStep.advances`). The
events of a verified prefix have distinct identities, so a whole batch does the same, in every
state it passes through (`execution_fact_invariant`). -/
namespace PlantNexus.Execution
open Data Domain Time Snapshot

/-! ### Identities -/

theorem factUtc_ok {value : Json} {field : String} {instant : Datetime}
    (h : factUtc value field = .ok instant) : parseUtcInstant value.text = .ok instant := by
  simp only [factUtc, bind_eq_ok, mapError_eq_ok] at h
  obtain ⟨text, htext, hparse⟩ := h
  rw [factText_ok htext]
  exact hparse

/-- The identity of an accepted event ends in the digits of its fingerprint. -/
theorem requireEvent_identity {event : Json} (h : requireEvent event = .ok ()) :
    event.get "event_fingerprint" = .str (executionEventFingerprint event) ∧
      event.get "event_id" = .str (executionEventId (executionEventFingerprint event)) := by
  simp only [requireEvent, bind_eq_ok, exists_unit_iff, p4Equal, require_eq_ok] at h
  obtain ⟨-, _, -, -, _, -, _, -, -, _, -, _, -, -, hfingerprint, hid⟩ := h
  exact ⟨Json.eq_str_of_pyEq hfingerprint, Json.eq_str_of_pyEq hid⟩

/-- An accepted event passes the checks of its carrier. -/
theorem validateExecutionEvent_carrier {scope : ProjectionScope} {event : Json}
    (h : validateExecutionEvent scope event = .ok ()) : requireEvent event = .ok () := by
  simp only [validateExecutionEvent, bind_eq_ok, exists_unit_iff, Prod.exists, mapError_eq_ok,
    require_eq_ok] at h
  obtain ⟨-, version, hdocument, hconstants, -⟩ := h
  have hversion : (event.get "execution_event_version").pyEq (.str "execution-event.v1") = true :=
    hconstants _ (List.mem_cons_self ..)
  simp only [requireEventDocument, requireP4Document, bind_eq_ok, exists_unit_iff] at hdocument
  obtain ⟨found, hfound, -, -, -, hkind⟩ := hdocument
  -- the constants of an event leave its own version field as the one that is found
  have heq : found = "execution-event.v1" := by
    rw [p4DocumentVersion] at hfound
    split at hfound
    · rename_i field hfilter
      have hmem : ("execution_event_version", "execution-event.v1") ∈
          p4VersionFields.filter fun f => (event.get f.1).pyEq (.str f.2) :=
        List.mem_filter.mpr ⟨List.mem_cons_self .., hversion⟩
      rw [hfilter, List.mem_singleton] at hmem
      rw [← Except.ok.inj hfound, ← hmem]
    · cases hfound
  subst heq
  simp only [String.reduceEq, if_false, bind_eq_ok, exists_unit_iff] at hkind
  exact hkind.1

theorem validateEventsFrom_identity {scope : ProjectionScope} {position : Nat}
    {seen : List String} {events : List Json} {fingerprints : List String}
    (h : validateEventsFrom scope position seen events = .ok fingerprints) :
    ∀ event ∈ events, eventIdText event =
      executionEventId (event.get "event_fingerprint").text := by
  induction events generalizing position seen fingerprints with
  | nil => simp
  | cons first rest ih =>
    simp only [validateEventsFrom, bind_eq_ok, exists_unit_iff] at h
    obtain ⟨hvalid, -, _, -, -, _, -, _, hrest, -⟩ := h
    intro event hevent
    rcases List.mem_cons.mp hevent with rfl | hevent
    · obtain ⟨hfingerprint, hid⟩ :=
        requireEvent_identity (validateExecutionEvent_carrier hvalid)
      rw [eventIdText, hfingerprint, hid]
      rfl
    · exact ih hrest event hevent

/-- **The events of a verified prefix give distinct identities to their facts.** -/
theorem nodup_factIdText {scope : ProjectionScope} {events : List Json}
    {fingerprints : List String} (h : validateEventPrefix scope events = .ok fingerprints) :
    (events.map factIdText).Nodup := by
  have hids := (validateEventsFrom_placed h).2.1
  have hidentity := validateEventsFrom_identity h
  refine (hids.of_map _).map_on ?_
  intro a ha b hb hsame
  refine List.inj_on_of_nodup_map hids ha hb ?_
  rw [hidentity a ha, hidentity b hb, executionEventId, executionEventId]
  rw [factIdText, factIdText, String.append_right_inj] at hsame
  rw [hsame]

/-! ### One step -/

/-- No operation is lost or falls back. -/
def Advances (s s' : FactState) : Prop :=
  ∀ o ∈ s.operations, ∃ o' ∈ s'.operations,
    o'.operationInstanceId = o.operationInstanceId ∧ o.status.rank ≤ o'.status.rank

theorem Advances.refl (s : FactState) : Advances s s :=
  fun o ho => ⟨o, ho, rfl, le_refl _⟩

theorem Advances.trans {s s' s'' : FactState} (h : Advances s s') (h' : Advances s' s'') :
    Advances s s'' := by
  intro o ho
  obtain ⟨o', ho', hid, hrank⟩ := h o ho
  obtain ⟨o'', ho'', hid', hrank'⟩ := h' o' ho'
  exact ⟨o'', ho'', hid'.trans hid, hrank.trans hrank'⟩

theorem Reported.rank_le {event : Json} {s : FactState} {o : Tracked} {fact : ExecutionFactRecord}
    (h : Reported event s o fact) : o.status.rank ≤ fact.status.instanceStatus.rank := by
  cases h with
  | started hstatus =>
    rw [hstatus]
    exact Nat.zero_le _
  | completed _ hcompleted =>
    rw [hcompleted]
    cases o.status <;> decide
  | continued hstatus _ _ _ hrunning =>
    rw [hstatus, hrunning]
    exact le_refl _

theorem Reported.timed {event : Json} {s : FactState} {o : Tracked} {fact : ExecutionFactRecord}
    (hwell : s.WellFormed) (h : Reported event s o fact) : fact.actualStartAtUtc ≠ none ∧
      (fact.status = .running → fact.actualEndAtUtc = none) := by
  cases h with
  | started _ _ _ hstart hend => exact ⟨hstart, fun _ => hend⟩
  | completed _ hcompleted _ hstart =>
    refine ⟨hstart, ?_⟩
    intro hrunning
    rw [hcompleted] at hrunning
    cases hrunning
  | continued _ hcurrent _ hbefore _ _ hstart hend =>
    obtain ⟨hstarted, hopen⟩ := hwell.timed _ hcurrent
    rw [hstart, hend]
    exact ⟨hstarted, fun _ => hopen hbefore⟩

namespace FactStep
variable {event : Json} {s s' : FactState}

/-- The facts after a step keep their identities, but for that of the event. -/
theorem factIds (h : FactStep event s s') : ∀ fact ∈ s'.facts,
    fact.executionFactId = factIdText event ∨
      ∃ old ∈ s.facts, old.executionFactId = fact.executionFactId := by
  intro fact hfact
  cases h with
  | quiet => exact .inr ⟨fact, hfact, rfl⟩
  | reported _ _ _ hid =>
    rcases FactState.mem_report_facts.mp hfact with ⟨hold, -⟩ | rfl
    · exact .inr ⟨fact, hold, rfl⟩
    · exact .inl hid
  | locked | released => exact .inr ⟨fact, hfact, rfl⟩
  | imported himports =>
    obtain ⟨old, hold, hsame⟩ := himports.origin fact hfact
    exact .inr ⟨old, hold, (FactState.same_factId hsame).symm⟩

/-- **A step keeps a sound state sound**, where the identity of its fact is new. -/
theorem sound (h : FactStep event s s') (hsound : s.Sound)
    (hfresh : ∀ fact ∈ s.facts, fact.executionFactId ≠ factIdText event) : s'.Sound := by
  cases h with
  | quiet => exact hsound
  | reported ho _ htarget hid hreported =>
    refine FactState.report_sound hsound ho htarget ?_ (hreported.timed hsound.wellFormed)
    intro f hf _
    rw [hid]
    exact hfresh f hf
  | locked ho htarget hfresh => exact FactState.addLock_sound hsound ho htarget hfresh
  | released ho honly => exact FactState.removeLock_sound hsound ho honly
  | imported himports => exact himports.sound hsound

/-- **No operation falls back in a step.** -/
theorem advances (h : FactStep event s s') (hwell : s.WellFormed) : Advances s s' := by
  cases h with
  | quiet => exact .refl s
  | reported ho _ _ _ hreported =>
    intro y hy
    refine ⟨_, mem_updateRecord.mpr ⟨y, hy, rfl⟩, ?_⟩
    split
    · rename_i heq
      obtain rfl := List.inj_on_of_nodup_map hwell.operationIds hy ho heq
      exact ⟨rfl, hreported.rank_le⟩
    · exact ⟨rfl, le_refl _⟩
  | locked | released =>
    intro y hy
    refine ⟨_, mem_updateRecord.mpr ⟨y, hy, rfl⟩, ?_⟩
    split
    · exact ⟨rfl, le_refl _⟩
    · exact ⟨rfl, le_refl _⟩
  | imported himports => exact fun o ho => ⟨o, himports.operations o ho, rfl, le_refl _⟩

end FactStep

/-! ### Runs -/

section
variable {fullPrefix : List Json} {urgentSnapshots : List (String × PlanningSnapshot)}

theorem applyEvents_cons {document final : PlanningSnapshot} {event : Json} {rest : List Json}
    {priorities : List UrgentPriorityFact}
    (h : applyEvents fullPrefix urgentSnapshots document (event :: rest) = .ok (final, priorities)) :
    ∃ next first others,
      applyEvent document fullPrefix event (dictValue urgentSnapshots (event.get "event_id").text) =
        .ok (next, first) ∧
      applyEvents fullPrefix urgentSnapshots next rest = .ok (final, others) ∧
      priorities = first ++ others := by
  simp only [applyEvents, bind_eq_ok, Prod.exists, pure, Except.pure, Except.ok.injEq,
    Prod.mk.injEq] at h
  obtain ⟨id, hid, next, first, happly, final', others, hrest, rfl, rfl⟩ := h
  have htext : (event.get "event_id").text = id := by rw [factText_ok hid]; rfl
  exact ⟨next, first, others, by rw [htext]; exact happly, hrest, rfl⟩

/-- A batch passes through the state after each of its leading events. -/
theorem applyEvents_append {document final : PlanningSnapshot} {before after : List Json}
    {priorities : List UrgentPriorityFact}
    (h : applyEvents fullPrefix urgentSnapshots document (before ++ after) =
      .ok (final, priorities)) :
    ∃ middle first others,
      applyEvents fullPrefix urgentSnapshots document before = .ok (middle, first) ∧
      applyEvents fullPrefix urgentSnapshots middle after = .ok (final, others) ∧
      priorities = first ++ others := by
  induction before generalizing document priorities with
  | nil => exact ⟨document, [], priorities, rfl, h, rfl⟩
  | cons event rest ih =>
    rw [List.cons_append] at h
    simp only [applyEvents, bind_eq_ok, Prod.exists, pure, Except.pure, Except.ok.injEq,
      Prod.mk.injEq] at h
    obtain ⟨id, hid, next, first, happly, final', others, hrest, rfl, rfl⟩ := h
    obtain ⟨middle, first', others', hbefore, hafter, rfl⟩ := ih hrest
    refine ⟨middle, first ++ first', others', ?_, hafter, (List.append_assoc ..).symm⟩
    simp only [applyEvents, bind_eq_ok, Prod.exists]
    exact ⟨id, hid, next, first, happly, middle, first', hbefore, rfl⟩

theorem urgent_of_dictValue (hurgent : ∀ item ∈ urgentSnapshots, UrgentSnapshot item.2)
    {id : String} : ∀ snapshot ∈ dictValue urgentSnapshots id, UrgentSnapshot snapshot := by
  intro snapshot hget
  obtain ⟨item, hitem, rfl⟩ := Option.map_eq_some_iff.mp hget
  exact hurgent item (mem_of_dictGet hitem).1

/-- The facts of the events to come have identities that no fact has yet. -/
structure FreshFacts (document : PlanningSnapshot) (events : List Json) : Prop where
  distinct : (events.map factIdText).Nodup
  unused : ∀ event ∈ events, ∀ fact ∈ document.records.executionFacts,
    fact.executionFactId ≠ factIdText event

theorem FreshFacts.next {document next : PlanningSnapshot} {event : Json} {rest : List Json}
    (h : FreshFacts document (event :: rest))
    (hstep : FactStep event (FactState.of document) (FactState.of next)) :
    FreshFacts next rest := by
  obtain ⟨hdistinct, hunused⟩ := h
  rw [List.map_cons, List.nodup_cons] at hdistinct
  refine ⟨hdistinct.2, ?_⟩
  intro later hlater fact hfact hid
  rcases hstep.factIds fact hfact with hnew | ⟨old, hold, hsame⟩
  · exact hdistinct.1 (hnew ▸ hid ▸ List.mem_map_of_mem hlater)
  · exact hunused later (List.mem_cons_of_mem _ hlater) old hold (hsame.trans hid)

/-- What is known of the state that a run has reached. -/
structure RunState (start document : PlanningSnapshot) (events : List Json) : Prop where
  sound : (FactState.of document).Sound
  fresh : FreshFacts document events
  advances : Advances (FactState.of start) (FactState.of document)

theorem RunState.next (hurgent : ∀ item ∈ urgentSnapshots, UrgentSnapshot item.2)
    {start document next : PlanningSnapshot} {event : Json} {rest : List Json} {id : String}
    {priorities : List UrgentPriorityFact} (h : RunState start document (event :: rest))
    (happly : applyEvent document fullPrefix event (dictValue urgentSnapshots id) =
      .ok (next, priorities)) : RunState start next rest := by
  have hstep := applyEvent_step h.sound.wellFormed (urgent_of_dictValue hurgent) happly
  refine ⟨hstep.sound h.sound ?_, h.fresh.next hstep, ?_⟩
  · intro fact hfact
    exact h.fresh.unused event (List.mem_cons_self ..) fact hfact
  · exact h.advances.trans (hstep.advances h.sound.wellFormed)

theorem RunState.run (hurgent : ∀ item ∈ urgentSnapshots, UrgentSnapshot item.2)
    {start document final : PlanningSnapshot} {before after : List Json}
    {priorities : List UrgentPriorityFact} (h : RunState start document (before ++ after))
    (hrun : applyEvents fullPrefix urgentSnapshots document before = .ok (final, priorities)) :
    RunState start final after := by
  induction before generalizing document priorities with
  | nil =>
    injection hrun with hrun
    injection hrun with hrun
    exact hrun ▸ h
  | cons event rest ih =>
    obtain ⟨next, first, others, happly, hrest, -⟩ := applyEvents_cons hrun
    exact ih (RunState.next hurgent h happly) hrest

/-! ### Batches -/

variable {base : PlanningSnapshot} {afterPosition : Nat} {scope : ProjectionScope}
  {batch : ProjectedFactBatch}

/-- A batch applies the events after its position, and changes nothing else of the facts. -/
theorem projectExecutionEventBatch_ok
    (h : projectExecutionEventBatch base fullPrefix afterPosition scope urgentSnapshots =
      .ok batch) :
    (∃ fingerprints, validateEventPrefix scope fullPrefix = .ok fingerprints) ∧
      ∃ document priorities,
        applyEvents fullPrefix urgentSnapshots base (fullPrefix.drop afterPosition) =
          .ok (document, priorities) ∧
        FactState.of batch.document = FactState.of document := by
  simp only [projectExecutionEventBatch, bind_eq_ok, exists_unit_iff, Prod.exists, pure,
    Except.pure, Except.ok.injEq] at h
  obtain ⟨fingerprints, hevents, -, -, -, hash, -, -, document, priorities, happly, cutoff, -,
    occurred, -, rfl⟩ := h
  exact ⟨⟨fingerprints, hevents⟩, document, priorities, happly, rfl⟩

/-- The state that a batch starts from. -/
theorem RunState.first {fingerprints : List String}
    (hbase : validatePlanningSnapshotV2 base = .ok ())
    (hexpanded : (FactState.of base).Expanded)
    (hunused : ∀ event ∈ fullPrefix.drop afterPosition, ∀ fact ∈ base.records.executionFacts,
      fact.executionFactId ≠ factIdText event)
    (hevents : validateEventPrefix scope fullPrefix = .ok fingerprints) :
    RunState base base (fullPrefix.drop afterPosition) :=
  ⟨⟨FactState.wellFormed_of_accepted (validatePlanningSnapshotV2_ok hbase), hexpanded⟩,
    ⟨(nodup_factIdText hevents).sublist ((List.drop_sublist ..).map _), hunused⟩, .refl _⟩

/-- The document of a projected snapshot. -/
theorem projectedSnapshot_document {projected : PlanningSnapshot}
    {snapshot : ImmutablePlanningSnapshot}
    (h : buildProjectedSnapshot projected = .ok snapshot) :
    AcceptedSnapshot snapshot.document ∧ ∃ candidate : PlanningSnapshot,
      snapshot.document = canonicalSnapshotDocument candidate ∧
      candidate.cutoffAtUtc = projected.cutoffAtUtc ∧ candidate.records = projected.records ∧
      candidate.operationInstances = projected.operationInstances ∧
      candidate.operationPrecedenceEdges = projected.operationPrecedenceEdges := by
  simp only [buildProjectedSnapshot, bind_eq_ok, exists_unit_iff, pure, Except.pure,
    Except.ok.injEq] at h
  obtain ⟨-, hverify, rfl⟩ := h
  rw [verifySnapshot_eq_ok] at hverify
  exact ⟨validatePlanningSnapshotV2_ok hverify.valid, _, rfl, rfl, rfl, rfl, rfl⟩

/-- A batch of one sealed event. -/
theorem sealed_batch {content : EventContent} {occurred cutoff : Datetime}
    {document : PlanningSnapshot} {priorities : List UrgentPriorityFact}
    (hvalid : content.Valid occurred) (hfirst : content.position = 1)
    (hfactories : base.records.factories.map FactoryRecord.factoryId = [scope.factoryId])
    (hsynthetic : base.synthetic = true) (hhash : isFactText base.snapshotHash = true)
    (hurgent : ∀ urgent ∈ urgentSnapshots, urgent.1 = eventIdText (sealEvent scope content))
    (happly : applyEvent base [sealEvent scope content] (sealEvent scope content)
      (dictValue urgentSnapshots (eventIdText (sealEvent scope content))) =
        .ok (document, priorities))
    (hcutoff : factUtc (.str document.cutoffAtUtc) "snapshot.cutoff_at_utc" = .ok cutoff) :
    ∃ batch, projectExecutionEventBatch base [sealEvent scope content] 0 scope urgentSnapshots =
        .ok batch ∧
      batch.document = { document with
        sourceVersions := projectedVersions scope base.snapshotHash 1
          (eventStreamFingerprint [contentFingerprint scope content]) document.sourceVersions
        cutoffAtUtc := formatUtcInstant (latest [occurred] cutoff) } := by
  have hid : factText ((sealEvent scope content).get "event_id") "event_id" =
      .ok (eventIdText (sealEvent scope content)) :=
    factText_str (isFactText_sealed scope content).1
  have hevents : applyEvents [sealEvent scope content] urgentSnapshots base
      [sealEvent scope content] = .ok (document, priorities ++ []) := by
    simp only [applyEvents, bind_eq_ok, Prod.exists]
    exact ⟨_, hid, document, priorities, happly, document, [], rfl, rfl⟩
  have hoccurred : collect (fun event : Json => factUtc (event.get "occurred_at_utc")
      "occurred_at_utc") [sealEvent scope content] = .ok [occurred] := by
    simp only [collect, bind_eq_ok]
    exact ⟨occurred, hvalid.occurs, [], rfl, rfl⟩
  simp only [projectExecutionEventBatch, bind_eq_ok, exists_unit_iff, require_eq_ok, Prod.exists,
    sealEvent_prefix hvalid hfirst, List.drop_zero]
  refine ⟨_, ⟨_, rfl, Nat.zero_le _, List.cons_ne_nil _ _, ⟨?_, hsynthetic⟩, _, factText_str hhash,
    ?_, document, _, hevents, cutoff, hcutoff, _, hoccurred, rfl⟩, rfl⟩
  · rw [hfactories]
    exact ⟨List.cons_ne_nil _ _, by simp⟩
  · intro urgent hmem
    rw [hurgent urgent hmem]
    exact List.mem_singleton.mpr rfl

/-- A sealed event that is no urgent demand. -/
theorem sealed_apply {content : EventContent} {document : PlanningSnapshot}
    {urgent : Option PlanningSnapshot} (htype : content.type ≠ .urgentDemandReceived)
    (hproject : projectFact base fullPrefix (sealEvent scope content) content.type =
      .ok document) :
    applyEvent base fullPrefix (sealEvent scope content) urgent = .ok (document, []) := by
  have hkind : ExecutionEventType.ofText ((sealEvent scope content).get "event_type").text =
      some content.type := by
    show ExecutionEventType.ofText content.type.text = _
    cases content.type <;> rfl
  rw [applyEvent, hkind]
  split
  · rename_i heq
    cases heq
  · rename_i heq
    exact absurd (Option.some.inj heq) htype
  · rename_i heq
    rw [← Option.some.inj heq, hproject]
    rfl

/-- A batch of one sealed event that is no urgent demand. -/
theorem sealed_fact_batch {content : EventContent} {occurred cutoff : Datetime}
    {document : PlanningSnapshot} (hvalid : content.Valid occurred) (hfirst : content.position = 1)
    (htype : content.type ≠ .urgentDemandReceived)
    (hfactories : base.records.factories.map FactoryRecord.factoryId = [scope.factoryId])
    (hsynthetic : base.synthetic = true) (hhash : isFactText base.snapshotHash = true)
    (hcutoff : factUtc (.str base.cutoffAtUtc) "snapshot.cutoff_at_utc" = .ok cutoff)
    (hproject : projectFact base [sealEvent scope content] (sealEvent scope content)
      content.type = .ok document) :
    ∃ batch, projectExecutionEventBatch base [sealEvent scope content] 0 scope [] = .ok batch ∧
      batch.document.records = document.records ∧
      batch.document.operationInstances = document.operationInstances ∧
      batch.document.operationPrecedenceEdges = document.operationPrecedenceEdges := by
  have hnone : ∀ urgent ∈ ([] : List (String × PlanningSnapshot)),
      urgent.1 = eventIdText (sealEvent scope content) := by
    intro urgent hurgent
    cases hurgent
  have hkept : document.cutoffAtUtc = base.cutoffAtUtc := by
    obtain ⟨_, _, rfl, -⟩ := projectFact_shape hproject
    rfl
  obtain ⟨batch, hbatch, hdocument⟩ := sealed_batch hvalid hfirst hfactories hsynthetic hhash
    hnone (sealed_apply htype hproject) (by rw [hkept]; exact hcutoff)
  refine ⟨batch, hbatch, ?_⟩
  rw [hdocument]
  exact ⟨rfl, rfl, rfl⟩

end

/-! ### A stray fact

The snapshot contract leaves room for a fact that no operation names: here the operation of a lot
has not started, and a fact says that it runs. -/

def plainScope : ProjectionScope := ⟨"F1", "P1", "A1", "ST1", "1"⟩

theorem plainInstant_nonneg : (0 : Int) ≤ 63902822400000000 := by decide
theorem plainInstant_lt : 63902822400000000 < microsLimit := by decide

/-- 2026-01-01T00:00:00Z -/
def plainInstant : Datetime := ⟨63902822400000000, plainInstant_nonneg, plainInstant_lt⟩

def readyContent : EventContent where
  type := .materialReady
  references := [("MATERIAL", "PO1")]
  payload := .obj [("kind", .str "MATERIAL_READY"), ("material_id", .str "PO1"),
    ("available_at_utc", .str "2026-01-01T00:00:00Z")]
  position := 1
  occurredAtUtc := "2026-01-01T00:00:00Z"

theorem readyContent_valid : readyContent.Valid plainInstant := by
  constructor
  all_goals decide +kernel

/-- A fact that lot and routing operation are running since the cutoff. -/
def plainFact (factId lot : String) : ExecutionFactRecord where
  executionFactId := factId
  productionLotId := lot
  routingOperationId := "RO1"
  status := .running
  observedAtUtc := "2026-01-01T00:00:00Z"
  quantityUnit := "EA"
  source := plainSource factId
  resourceId := some "R1"
  actualStartAtUtc := some "2026-01-01T00:00:00Z"
  actualEndAtUtc := none
  completedQuantity := none
  remainingQuantity := some (.int 1)
  remainingSeconds := some 60

/-- One lot, its operation and the given facts, under a hash. -/
def factBase (facts : List ExecutionFactRecord) : PlanningSnapshot :=
  { plainSnapshot { plainRecords 60 ["LOT1"] with executionFacts := facts }
      [plainInstance 60 "O1" "LOT1"] with
    snapshotHash := "sha256:0" }

theorem plain_instant : parseUtcInstant "2026-01-01T00:00:00Z" = .ok plainInstant := by
  decide +kernel

theorem plain_utc (field : String) :
    factUtc (.str "2026-01-01T00:00:00Z") field = .ok plainInstant := by
  have htext : factText (.str "2026-01-01T00:00:00Z") field = .ok "2026-01-01T00:00:00Z" := rfl
  simp only [factUtc, htext, plain_instant, bind_eq_ok, Except.ok.injEq, exists_eq_left',
    Except.mapError]

theorem sealed_source (scope : ProjectionScope) (content : EventContent) :
    ∃ source, eventSource (sealEvent scope content) = .ok source := by
  simp only [eventSource, bind_eq_ok]
  exact ⟨_, _, factText_str (isFactText_sealed scope content).1, rfl⟩

theorem sealed_factId (content : EventContent) :
    ∃ id, factId (sealEvent plainScope content) = .ok id := by
  simp only [factId, eventDigits, bind_eq_ok]
  exact ⟨_, _, ⟨_, factText_str (isFactText_sealed plainScope content).2, rfl⟩, rfl⟩

theorem factBase_batch {facts : List ExecutionFactRecord} {content : EventContent}
    {occurred : Datetime} {document : PlanningSnapshot} (hvalid : content.Valid occurred)
    (hfirst : content.position = 1) (htype : content.type ≠ .urgentDemandReceived)
    (hproject : projectFact (factBase facts) [sealEvent plainScope content]
      (sealEvent plainScope content) content.type = .ok document) :
    ∃ batch, projectExecutionEventBatch (factBase facts) [sealEvent plainScope content] 0
        plainScope [] = .ok batch ∧ FactState.of batch.document = FactState.of document := by
  have hhash : isFactText (factBase facts).snapshotHash = true := by
    show isFactText "sha256:0" = true
    decide
  obtain ⟨batch, hbatch, hrecords, hinstances, hedges⟩ := sealed_fact_batch hvalid hfirst htype rfl
    rfl hhash (plain_utc _) hproject
  refine ⟨batch, hbatch, ?_⟩
  simp only [FactState.of, hrecords, hinstances, hedges]

theorem material_batch (facts : List ExecutionFactRecord) :
    ∃ batch, projectExecutionEventBatch (factBase facts) [sealEvent plainScope readyContent] 0
        plainScope [] = .ok batch ∧
      FactState.of batch.document = FactState.of (factBase facts) := by
  obtain ⟨source, hsource⟩ := sealed_source plainScope readyContent
  obtain ⟨document, hproject⟩ : ∃ document, projectMaterial (factBase facts)
      (sealEvent plainScope readyContent) = .ok document := by
    simp only [projectMaterial, bind_eq_ok, exists_unit_iff, require_eq_ok]
    exact ⟨_, _, rfl, _, rfl, _, plain_utc _, _, plain_utc _, le_refl _, rfl, _, hsource, rfl⟩
  obtain ⟨batch, hbatch, hsame⟩ := factBase_batch readyContent_valid rfl (by decide) hproject
  exact ⟨batch, hbatch, hsame.trans (projectMaterial_quiet hproject)⟩

theorem factBase_expanded : (FactState.of (factBase [])).Expanded := by
  refine ⟨by decide, by decide, ?_, ?_⟩
  · intro o _ fact hfact
    cases hfact
  · intro lock hlock
    cases hlock

theorem factBase_unused (events : List Json) :
    ∀ event ∈ events, ∀ fact ∈ (factBase []).records.executionFacts,
      fact.executionFactId ≠ factIdText event := by
  intro event _ fact hfact
  cases hfact

theorem factBase_valid : validatePlanningSnapshotV2 (factBase []) = .ok () :=
  validate_identity _ "S1" "sha256:0"
    (plainSnapshot_valid (by decide +kernel) (by decide +kernel)) (by decide)

end PlantNexus.Execution
