import PlantNexus.Execution.FactState

/-! What an event does to the facts.

`FactStep` lists the changes that an accepted event makes to the state of the facts: a report of
an operation, a new or released lock, an urgent import, or none. `applyEvent_step` says that the
projection of one event is such a step, and `applyEvents_run` lifts it to a run. -/
namespace PlantNexus.Execution
open Data Domain Time Snapshot

/-! ### Reports -/

/-- The identity that an event gives to the fact it reports. -/
def factIdText (event : Json) : String :=
  "execution-fact-" ++ fingerprintDigits (event.get "event_fingerprint").text

/-- The start and the end that a fact records. -/
def factTimes (fact : ExecutionFactRecord) : List String :=
  fact.actualStartAtUtc.toList ++ fact.actualEndAtUtc.toList

/-- The start and the end that an event reports of an operation. -/
def reportedTimes (event : Json) : List String :=
  let payload := event.get "payload"
  match ExecutionEventType.ofText (event.get "event_type").text with
  | some .operationStarted => [(payload.get "actual_start_at_utc").text]
  | some .operationCompleted =>
    [(payload.get "actual_start_at_utc").text, (payload.get "actual_end_at_utc").text]
  | _ => []

/-- A fact that an event reports of an operation: its start, its completion, or a new remainder
of a running one. -/
inductive Reported (event : Json) (s : FactState) (o : Tracked) : ExecutionFactRecord → Prop
  | started {fact : ExecutionFactRecord} (hstatus : o.status = .notStarted)
      (hrunning : fact.status = .running) (htimes : factTimes fact = reportedTimes event)
      (hstart : fact.actualStartAtUtc ≠ none) (hend : fact.actualEndAtUtc = none)
      (hresource : (event.get "payload").get "resource_id" = Json.ofOption .str fact.resourceId) :
      Reported event s o fact
  | completed {fact : ExecutionFactRecord} (hstatus : o.status ≠ .completed)
      (hcompleted : fact.status = .completed) (htimes : factTimes fact = reportedTimes event)
      (hstart : fact.actualStartAtUtc ≠ none)
      (hcontinues : o.status = .running → ∃ current ∈ s.facts, current.target = o.target ∧
        current.actualStartAtUtc = fact.actualStartAtUtc) :
      Reported event s o fact
  | continued {fact current : ExecutionFactRecord} (hstatus : o.status = .running)
      (hcurrent : current ∈ s.facts) (htarget : current.target = o.target)
      (hbefore : current.status = .running) (hrunning : fact.status = .running)
      (hnone : reportedTimes event = [])
      (hstart : fact.actualStartAtUtc = current.actualStartAtUtc)
      (hend : fact.actualEndAtUtc = current.actualEndAtUtc)
      (hresource : fact.resourceId = current.resourceId) :
      Reported event s o fact

/-- What one event does to the facts. -/
inductive FactStep (event : Json) (s : FactState) : FactState → Prop
  | quiet (hnone : reportedTimes event = []) : FactStep event s s
  | reported {o : Tracked} {fact : ExecutionFactRecord} (ho : o ∈ s.operations)
      (hnamed : (event.get "payload").get "operation_id" = .str o.operationInstanceId)
      (htarget : fact.target = o.target) (hid : fact.executionFactId = factIdText event)
      (hreported : Reported event s o fact) : FactStep event s (s.report o fact)
  | locked {o : Tracked} {lock : OperationLockRecord} (ho : o ∈ s.operations)
      (htarget : lock.target = o.target) (hfresh : ∀ l ∈ s.locks, l.lockId ≠ lock.lockId)
      (hnone : reportedTimes event = []) :
      FactStep event s (s.addLock o lock)
  | released {o : Tracked} {lockId : String} (ho : o ∈ s.operations)
      (honly : ∀ y ∈ s.operations, lockId ∈ y.lockIds → y = o)
      (hnone : reportedTimes event = []) :
      FactStep event s (s.removeLock o lockId)
  | imported {w : FactState} (himports : s.Imports w) (hnone : reportedTimes event = []) :
      FactStep event s w

theorem reportedTimes_none {event : Json} {type : ExecutionEventType}
    (htype : ExecutionEventType.ofText (event.get "event_type").text = some type)
    (hstarted : type ≠ .operationStarted) (hcompleted : type ≠ .operationCompleted) :
    reportedTimes event = [] := by
  simp only [reportedTimes, htype]
  split
  · rename_i heq
    exact absurd (Option.some.inj heq) hstarted
  · rename_i heq
    exact absurd (Option.some.inj heq) hcompleted
  · rfl

/-! ### Access -/

theorem factId_ok {event : Json} {id : String} (h : factId event = .ok id) :
    id = factIdText event := by
  simp only [factId, eventDigits, bind_eq_ok, pure, Except.pure, Except.ok.injEq] at h
  obtain ⟨digits, ⟨fingerprint, htext, rfl⟩, rfl⟩ := h
  rw [factIdText, factText_ok htext]
  rfl

theorem found_ok {α : Type} {record : Option α} {error : ProjectionError} {value : α}
    (h : found record error = .ok value) : record = some value := by
  cases record with
  | none => cases h
  | some x => rw [Except.ok.inj h]

section
variable {document : PlanningSnapshot}

theorem operationInstance_ok {value : Json} {o : OperationInstance}
    (h : operationInstance document value = .ok o) :
    o ∈ document.operationInstances ∧ value = .str o.operationInstanceId := by
  simp only [operationInstance, bind_eq_ok] at h
  obtain ⟨id, htext, hfound⟩ := h
  obtain ⟨hmem, hid⟩ := mem_of_dictGet (found_ok hfound)
  exact ⟨hmem, by rw [factText_ok htext, hid]⟩

theorem resourceOption_ok {o : OperationInstance} {value : Json} {option : OperationResourceOption}
    (h : resourceOption o value = .ok option) : value = .str option.resourceId := by
  simp only [resourceOption, bind_eq_ok] at h
  obtain ⟨id, htext, hmatch⟩ := h
  split at hmatch
  · rename_i hfilter
    have hmem : option ∈ o.resourceOptions.filter fun option => option.resourceId = id := by
      rw [hfilter, Except.ok.inj hmatch]
      exact List.mem_singleton.mpr rfl
    rw [factText_ok htext, of_decide_eq_true (List.mem_filter.mp hmem).2]
  · cases hmatch

/-- The fact that a started operation names is that of its target. -/
theorem fact?_target (h : (FactState.of document).WellFormed) {o : OperationInstance}
    (ho : o ∈ document.operationInstances) (hstarted : o.status ≠ .notStarted)
    {current : ExecutionFactRecord} (hfact : fact? document o.executionFactId = some current) :
    current ∈ document.records.executionFacts ∧ current.target = (Tracked.of o).target ∧
      o.status = current.status.instanceStatus := by
  obtain ⟨id, hid, hget⟩ := Option.bind_eq_some_iff.mp hfact
  obtain ⟨hmem, hname⟩ := mem_of_dictGet hget
  rcases h.attached (Tracked.of o) (List.mem_map_of_mem ho) with ⟨hstatus, -⟩ | hattached
  · exact absurd hstatus hstarted
  · obtain ⟨fact, hfact, hnamed, htarget, hstatus⟩ := hattached
    have hsame : fact.executionFactId = current.executionFactId := by
      rw [hname]
      exact Option.some.inj (hnamed.symm.trans hid)
    obtain rfl := List.inj_on_of_nodup_map h.factIds hfact hmem hsame
    exact ⟨hmem, htarget, hstatus⟩

theorem of_replaceExecutionFact (o : OperationInstance) (fact : ExecutionFactRecord) :
    FactState.of (replaceExecutionFact document o fact) =
      (FactState.of document).report (Tracked.of o) fact := by
  have hfilter : ∀ facts : List ExecutionFactRecord,
      facts.filter (fun existing => ¬(existing.productionLotId = o.productionLotId ∧
        existing.routingOperationId = o.routingOperationId)) =
      facts.filter (fun existing => existing.target ≠ (Tracked.of o).target) := by
    intro facts
    refine List.filter_congr ?_
    intro existing _
    simp [ExecutionFactRecord.target, Tracked.of, Prod.ext_iff]
  have hoperations : (updateRecord OperationInstance.operationInstanceId o.operationInstanceId
      (fun o => { o with
        status := fact.status.instanceStatus, executionFactId := some fact.executionFactId })
      document.operationInstances).map Tracked.of =
    updateRecord Tracked.operationInstanceId o.operationInstanceId
      (fun o => { o with
        status := fact.status.instanceStatus, executionFactId := some fact.executionFactId })
      (document.operationInstances.map Tracked.of) :=
    updateRecord_map Tracked.of (fun _ => rfl) (fun _ => rfl)
  simp only [FactState.of, FactState.report, replaceExecutionFact]
  rw [hfilter, hoperations]
  rfl

/-! ### Operations -/

theorem projectOperationStarted_step {document' : PlanningSnapshot} {event : Json}
    (htype : ExecutionEventType.ofText (event.get "event_type").text = some .operationStarted)
    (h : projectOperationStarted document event = .ok document') :
    FactStep event (FactState.of document) (FactState.of document') := by
  simp only [projectOperationStarted, bind_eq_ok, exists_unit_iff, require_eq_ok, pure,
    Except.pure, Except.ok.injEq] at h
  obtain ⟨o, ho, -, hstatus, option, hoption, -, id, hid, source, -, rfl⟩ := h
  obtain ⟨hmem, hnamed⟩ := operationInstance_ok ho
  rw [of_replaceExecutionFact]
  refine .reported (List.mem_map_of_mem hmem) hnamed rfl (factId_ok hid)
    (.started hstatus.1 rfl ?_ (Option.some_ne_none _) rfl (resourceOption_ok hoption))
  simp only [factTimes, reportedTimes, htype]
  rfl

theorem projectOperationCompleted_step {document' : PlanningSnapshot} {event : Json}
    (hwell : (FactState.of document).WellFormed)
    (htype : ExecutionEventType.ofText (event.get "event_type").text = some .operationCompleted)
    (h : projectOperationCompleted document event = .ok document') :
    FactStep event (FactState.of document) (FactState.of document') := by
  simp only [projectOperationCompleted, bind_eq_ok, exists_unit_iff, require_eq_ok, pure,
    Except.pure, Except.ok.injEq] at h
  obtain ⟨o, ho, hstatus, option, hoption, hcheck, id, hid, source, -, rfl⟩ := h
  obtain ⟨hmem, hnamed⟩ := operationInstance_ok ho
  rw [of_replaceExecutionFact]
  refine .reported (List.mem_map_of_mem hmem) hnamed rfl (factId_ok hid)
    (.completed hstatus rfl ?_ (Option.some_ne_none _) ?_)
  · simp only [factTimes, reportedTimes, htype]
    rfl
  · intro hrunning
    have hrunning : o.status = .running := hrunning
    simp only [checkCompletion, hrunning, bind_eq_ok, require_eq_ok] at hcheck
    obtain ⟨current, hfound, -, hstart⟩ := hcheck
    obtain ⟨hcurrent, htarget, -⟩ := fact?_target hwell hmem (by rw [hrunning]; decide)
      (found_ok hfound)
    refine ⟨current, hcurrent, htarget, ?_⟩
    cases hactual : current.actualStartAtUtc with
    | none => exact absurd hactual (hwell.timed current hcurrent).1
    | some text =>
      rw [hactual] at hstart
      show some text = some (((event.get "payload").get "actual_start_at_utc").text)
      rw [← hstart]
      rfl

theorem projectRemainingChanged_step {document' : PlanningSnapshot} {event : Json}
    (hwell : (FactState.of document).WellFormed) (hnone : reportedTimes event = [])
    (h : projectRemainingChanged document event = .ok document') :
    FactStep event (FactState.of document) (FactState.of document') := by
  simp only [projectRemainingChanged, bind_eq_ok, exists_unit_iff, require_eq_ok, pure,
    Except.pure, Except.ok.injEq] at h
  obtain ⟨remaining, -, -, o, ho, hrunning, current, hfound, asOf, -, start, -, -, id, hid, source,
    -, rfl⟩ := h
  obtain ⟨hmem, hnamed⟩ := operationInstance_ok ho
  obtain ⟨hcurrent, htarget, hstatus⟩ := fact?_target hwell hmem (by rw [hrunning]; decide)
    (found_ok hfound)
  have hfact : current.status = .running := by
    cases hcases : current.status with
    | running => rfl
    | completed =>
      rw [hrunning, hcases] at hstatus
      cases hstatus
  rw [of_replaceExecutionFact]
  exact .reported (List.mem_map_of_mem hmem) hnamed htarget (factId_ok hid)
    (.continued hrunning hcurrent htarget hfact hfact hnone rfl rfl rfl)

/-! ### Changes beside the facts -/

theorem projectDurationChanged_quiet {document' : PlanningSnapshot} {event : Json}
    (h : projectDurationChanged document event = .ok document') :
    FactState.of document' = FactState.of document := by
  simp only [projectDurationChanged, bind_eq_ok, exists_unit_iff, require_eq_ok, pure,
    Except.pure, Except.ok.injEq] at h
  obtain ⟨routingId, -, -, -, seconds, -, durationSource, -, version, -, source, -, rfl⟩ := h
  have htracked : ∀ o : OperationInstance, Tracked.of (if o.routingOperationId = routingId then
      changeDuration ((document.records.routingResourceOptions.filter fun option =>
        option.routingOperationId = routingId).map
          RoutingResourceOptionRecord.routingResourceOptionId) seconds durationSource version o
      else o) = Tracked.of o := by
    intro o
    split
    · rfl
    · rfl
  simp only [FactState.of, List.map_map, Function.comp_def, htracked]

theorem updateAvailability_quiet (resource : ResourceRecord) (status : String)
    (source : SourceReference) (interval : Option UnavailableIntervalRecord) :
    FactState.of (updateAvailability document resource status source interval) =
      FactState.of document := rfl

theorem projectMachineUnavailable_quiet {document' : PlanningSnapshot} {event : Json}
    (h : projectMachineUnavailable document event = .ok document') :
    FactState.of document' = FactState.of document := by
  simp only [projectMachineUnavailable, bind_eq_ok, exists_unit_iff, pure, Except.pure,
    Except.ok.injEq] at h
  obtain ⟨resource, -, -, source, -, interval, -, rfl⟩ := h
  exact updateAvailability_quiet ..

theorem projectMachineRecovered_quiet {document' : PlanningSnapshot} {fullPrefix : List Json}
    {event : Json} (h : projectMachineRecovered document fullPrefix event = .ok document') :
    FactState.of document' = FactState.of document := by
  simp only [projectMachineRecovered, bind_eq_ok, exists_unit_iff, pure, Except.pure,
    Except.ok.injEq] at h
  obtain ⟨resource, -, position, -, -, openEvent, -, available, -, start, -, -, calendar, -, digits,
    -, source, -, rfl⟩ := h
  exact updateAvailability_quiet ..

theorem projectMaterial_quiet {document' : PlanningSnapshot} {event : Json}
    (h : projectMaterial document event = .ok document') :
    FactState.of document' = FactState.of document := by
  simp only [projectMaterial, bind_eq_ok, exists_unit_iff, pure, Except.pure,
    Except.ok.injEq] at h
  obtain ⟨order, -, text, -, available, -, release, -, -, -, source, -, rfl⟩ := h
  have htracked : ∀ o : OperationInstance, Tracked.of
      (if o.productionOrderId = order.productionOrderId then { o with materialReadyAtUtc := text }
      else o) = Tracked.of o := by
    intro o
    split
    · rfl
    · rfl
  have horders : (updateRecord ProductionOrderRecord.productionOrderId order.productionOrderId
      (fun order => { order with materialReadyAtUtc := text, source })
      document.records.productionOrders).map ProductionOrderRecord.productionOrderId =
        document.records.productionOrders.map ProductionOrderRecord.productionOrderId :=
    map_updateRecord _ fun _ => rfl
  simp only [FactState.of, List.map_map, Function.comp_def, htracked, horders]

/-! ### Locks -/

theorem projectLockCreated_step {document' : PlanningSnapshot} {event : Json}
    (hnone : reportedTimes event = [])
    (h : projectLockCreated document event = .ok document') :
    FactStep event (FactState.of document) (FactState.of document') := by
  simp only [projectLockCreated, bind_eq_ok, exists_unit_iff, require_eq_ok, pure, Except.pure,
    Except.ok.injEq] at h
  obtain ⟨lockId, -, habsent, o, ho, -, option, -, source, -, rfl⟩ := h
  obtain ⟨hmem, -⟩ := operationInstance_ok ho
  have hoperations : (updateRecord OperationInstance.operationInstanceId o.operationInstanceId
      (fun o => { o with lockIds := sortByKey id (o.lockIds ++ [lockId]) })
      document.operationInstances).map Tracked.of =
    updateRecord Tracked.operationInstanceId o.operationInstanceId
      (fun o => { o with lockIds := sortByKey id (o.lockIds ++ [lockId]) })
      (document.operationInstances.map Tracked.of) :=
    updateRecord_map Tracked.of (fun _ => rfl) (fun _ => rfl)
  have hfresh : ∀ l ∈ (FactState.of document).locks, l.lockId ≠ lockId := by
    intro l hl hid
    exact (dictGet_eq_none_iff _ _ _).mp habsent (hid ▸ List.mem_map_of_mem hl)
  have hstep : FactStep event (FactState.of document)
      ((FactState.of document).addLock (Tracked.of o)
        { lockId
          productionLotId := o.productionLotId
          routingOperationId := o.routingOperationId
          lockType := if (event.get "payload").get "lock_type" = .str "HARD" then .hardLock
            else .softLock
          resourceId := option.resourceId
          startAtUtc := ((event.get "payload").get "start_at_utc").text
          endAtUtc := ((event.get "payload").get "end_at_utc").text
          source }) :=
    .locked (List.mem_map_of_mem hmem) rfl hfresh hnone
  simp only [FactState.of, hoperations]
  exact hstep

theorem projectLockReleased_step {document' : PlanningSnapshot} {event : Json}
    (hnone : reportedTimes event = [])
    (h : projectLockReleased document event = .ok document') :
    FactStep event (FactState.of document) (FactState.of document') := by
  simp only [projectLockReleased, bind_eq_ok] at h
  obtain ⟨lockId, -, lock, -, h⟩ := h
  split at h
  case h_2 => cases h
  rename_i o hfilter
  simp only [bind_eq_ok, exists_unit_iff, pure, Except.pure, Except.ok.injEq, exists_eq_left'] at h
  obtain ⟨-, rfl⟩ := h
  have hmem : o ∈ document.operationInstances := by
    have ho : o ∈ document.operationInstances.filter (fun o => lockId ∈ o.lockIds) := by
      rw [hfilter]
      exact List.mem_singleton.mpr rfl
    exact (List.mem_filter.mp ho).1
  have hoperations : (updateRecord OperationInstance.operationInstanceId o.operationInstanceId
      (fun o => { o with lockIds := o.lockIds.erase lockId })
      document.operationInstances).map Tracked.of =
    updateRecord Tracked.operationInstanceId o.operationInstanceId
      (fun o => { o with lockIds := o.lockIds.erase lockId })
      (document.operationInstances.map Tracked.of) :=
    updateRecord_map Tracked.of (fun _ => rfl) (fun _ => rfl)
  have honly : ∀ y ∈ (FactState.of document).operations, lockId ∈ y.lockIds →
      y = Tracked.of o := by
    intro y hy hlists
    obtain ⟨x, hx, rfl⟩ := List.mem_map.mp hy
    have hx : x ∈ document.operationInstances.filter (fun o => lockId ∈ o.lockIds) :=
      List.mem_filter.mpr ⟨hx, decide_eq_true hlists⟩
    rw [hfilter, List.mem_singleton] at hx
    rw [hx]
  have hstep : FactStep event (FactState.of document)
      ((FactState.of document).removeLock (Tracked.of o) lockId) :=
    .released (List.mem_map_of_mem hmem) honly hnone
  simp only [FactState.of, hoperations]
  exact hstep

/-! ### What no event but an urgent demand changes -/

/-- The identity, the lot and the order of an expanded operation. -/
def placed (o : OperationInstance) : String × String × String :=
  (o.operationInstanceId, o.productionLotId, o.productionOrderId)

/-- The identity and the route of an order. -/
def routed (order : ProductionOrderRecord) : String × String :=
  (order.productionOrderId, order.routingVersionId)

/-- The lots, the edges of the routes, and the routes of the orders. -/
structure KeepsRouting (r r' : CanonicalRecords) : Prop where
  lots : r'.productionLots = r.productionLots
  edges : r'.routingPrecedenceEdges = r.routingPrecedenceEdges
  orders : r'.productionOrders.map routed = r.productionOrders.map routed

/-- An event other than an urgent demand changes records and expanded operations, but neither
routes nor what an operation is of; only a machine event changes resources or calendars. -/
theorem projectFact_shape {document' : PlanningSnapshot} {fullPrefix : List Json} {event : Json}
    {type : ExecutionEventType} (h : projectFact document fullPrefix event type = .ok document') :
    ∃ records operationInstances, document' = { document with records, operationInstances } ∧
      KeepsRouting document.records records ∧
      operationInstances.map placed = document.operationInstances.map placed ∧
      (type ≠ .machineUnavailable → type ≠ .machineRecovered →
        records.resources = document.records.resources ∧
          records.calendars = document.records.calendars) := by
  cases type with
  | operationStarted =>
    simp only [projectFact, projectOperationStarted, bind_eq_ok, pure, Except.pure,
      Except.ok.injEq] at h
    obtain ⟨_, -, _, -, _, -, _, -, _, -, _, -, _, -, rfl⟩ := h
    exact ⟨_, _, rfl, ⟨rfl, rfl, rfl⟩, map_updateRecord _ fun _ => rfl, fun _ _ => ⟨rfl, rfl⟩⟩
  | operationCompleted =>
    simp only [projectFact, projectOperationCompleted, bind_eq_ok, pure, Except.pure,
      Except.ok.injEq] at h
    obtain ⟨_, -, _, -, _, -, _, -, _, -, _, -, rfl⟩ := h
    exact ⟨_, _, rfl, ⟨rfl, rfl, rfl⟩, map_updateRecord _ fun _ => rfl, fun _ _ => ⟨rfl, rfl⟩⟩
  | machineUnavailable =>
    simp only [projectFact, projectMachineUnavailable, bind_eq_ok, pure, Except.pure,
      Except.ok.injEq] at h
    obtain ⟨_, -, _, -, _, -, _, -, rfl⟩ := h
    exact ⟨_, _, rfl, ⟨rfl, rfl, rfl⟩, rfl, fun hdown _ => absurd rfl hdown⟩
  | machineRecovered =>
    simp only [projectFact, projectMachineRecovered, bind_eq_ok, pure, Except.pure,
      Except.ok.injEq] at h
    obtain ⟨_, -, _, -, _, -, _, -, _, -, _, -, _, -, _, -, _, -, _, -, rfl⟩ := h
    exact ⟨_, _, rfl, ⟨rfl, rfl, rfl⟩, rfl, fun _ hup => absurd rfl hup⟩
  | materialReady | materialDelayed =>
    simp only [projectFact, projectMaterial, bind_eq_ok, pure, Except.pure, Except.ok.injEq] at h
    obtain ⟨_, -, text, -, _, -, _, -, _, -, _, -, source, -, rfl⟩ := h
    have horders : ∀ order : ProductionOrderRecord,
        routed { order with materialReadyAtUtc := text, source } = routed order := fun _ => rfl
    have hplaced : ∀ o : OperationInstance,
        placed { o with materialReadyAtUtc := text } = placed o := fun _ => rfl
    exact ⟨_, _, rfl, ⟨rfl, rfl, map_updateRecord _ horders⟩, map_updateRecord _ hplaced,
      fun _ _ => ⟨rfl, rfl⟩⟩
  | processingDurationChanged =>
    simp only [projectFact, projectDurationChanged, bind_eq_ok, pure, Except.pure,
      Except.ok.injEq] at h
    obtain ⟨_, -, _, -, _, -, _, -, _, -, _, -, _, -, rfl⟩ := h
    exact ⟨_, _, rfl, ⟨rfl, rfl, rfl⟩, map_updateRecord _ fun _ => rfl, fun _ _ => ⟨rfl, rfl⟩⟩
  | processingRemainingChanged =>
    simp only [projectFact, projectRemainingChanged, bind_eq_ok, pure, Except.pure,
      Except.ok.injEq] at h
    obtain ⟨_, -, _, -, _, -, _, -, _, -, _, -, _, -, _, -, _, -, _, -, rfl⟩ := h
    exact ⟨_, _, rfl, ⟨rfl, rfl, rfl⟩, map_updateRecord _ fun _ => rfl, fun _ _ => ⟨rfl, rfl⟩⟩
  | urgentDemandReceived => cases h
  | lockCreated =>
    simp only [projectFact, projectLockCreated, bind_eq_ok, pure, Except.pure,
      Except.ok.injEq] at h
    obtain ⟨_, -, _, -, _, -, _, -, _, -, _, -, rfl⟩ := h
    exact ⟨_, _, rfl, ⟨rfl, rfl, rfl⟩, map_updateRecord _ fun _ => rfl, fun _ _ => ⟨rfl, rfl⟩⟩
  | lockReleased =>
    simp only [projectFact, projectLockReleased, bind_eq_ok] at h
    obtain ⟨_, -, _, -, h⟩ := h
    split at h
    · simp only [bind_eq_ok, pure, Except.pure, Except.ok.injEq] at h
      obtain ⟨_, -, _, -, rfl⟩ := h
      exact ⟨_, _, rfl, ⟨rfl, rfl, rfl⟩, map_updateRecord _ fun _ => rfl, fun _ _ => ⟨rfl, rfl⟩⟩
    · cases h

/-! ### Urgent demands -/

section
variable {α : Type} {key : α → String} {same : α → α → Prop} {before after : List α}

theorem KeepsRecords.mem (h : KeepsRecords key same before after) {record : α}
    (hmem : record ∈ before) : ∃ found ∈ after, key found = key record ∧ same found record := by
  obtain ⟨found, hget, hsame⟩ := h record hmem
  obtain ⟨hmem, hkey⟩ := mem_of_dictGet hget
  exact ⟨found, hmem, hkey, hsame⟩

/-- A record whose identity was there before is the one that was there. -/
theorem KeepsRecords.origin (h : KeepsRecords key same before after)
    (hnodup : (after.map key).Nodup) {record : α} (hmem : record ∈ after)
    (hid : key record ∈ before.map key) : ∃ old ∈ before, same record old := by
  obtain ⟨old, hold, hkey⟩ := List.mem_map.mp hid
  obtain ⟨found, hfound, hsamekey, hsame⟩ := h.mem hold
  obtain rfl := List.inj_on_of_nodup_map hnodup hfound hmem (hsamekey.trans hkey)
  exact ⟨old, hold, hsame⟩

end

/-- What the checks of an urgent import establish of its records and operations. -/
structure UrgentImport (current candidate : PlanningSnapshot) : Prop where
  kept : ∀ kept ∈ collectionsKept current.records candidate.records, kept.2 = true
  fixed : ∀ fixed ∈ collectionsFixed current.records candidate.records, fixed.2 = true
  instances : KeepsRecords OperationInstance.operationInstanceId OperationInstance.Same
    current.operationInstances candidate.operationInstances
  added : ∀ o ∈ addedRecords OperationInstance.operationInstanceId current.operationInstances
    candidate.operationInstances, o.productionOrderId ∈
      (addedRecords ProductionOrderRecord.productionOrderId current.records.productionOrders
        candidate.records.productionOrders).map ProductionOrderRecord.productionOrderId

theorem validateUrgentCandidate_ok {current candidate : PlanningSnapshot} {event : Json}
    {priority : UrgentPriorityFact}
    (h : validateUrgentCandidate current candidate event = .ok priority) :
    UrgentImport current candidate := by
  simp only [validateUrgentCandidate, checkUrgentOrders, checkUrgentInstances, bind_eq_ok,
    exists_unit_iff, require_eq_ok, pure, Except.pure, Except.ok.injEq] at h
  obtain ⟨demandId, -, -, hkept, quantity, -, -, orderIds, ⟨-, -, -, rfl⟩, hfixed,
    ⟨hinstances, -, hadded⟩, -⟩ := h
  refine ⟨forEach_ok_mem hkept ?_, forEach_ok_mem hfixed ?_, hinstances, hadded⟩
  · intro _ kept hrequire
    exact (require_eq_ok ..).mp hrequire
  · intro _ fixed hrequire
    exact (require_eq_ok ..).mp hrequire

namespace UrgentImport
variable {current candidate : PlanningSnapshot} (h : UrgentImport current candidate)
include h

theorem lots : KeepsRecords ProductionLotRecord.productionLotId ProductionLotRecord.Same
    current.records.productionLots candidate.records.productionLots :=
  of_decide_eq_true (h.kept _ (List.mem_of_getElem? (i := 13) rfl))

theorem facts : KeepsRecords ExecutionFactRecord.executionFactId ExecutionFactRecord.Same
    current.records.executionFacts candidate.records.executionFacts :=
  of_decide_eq_true (h.kept _ (List.mem_of_getElem? (i := 14) rfl))

theorem locks : KeepsRecords OperationLockRecord.lockId (· = ·)
    current.records.operationLocks candidate.records.operationLocks :=
  of_decide_eq_true (h.kept _ (List.mem_of_getElem? (i := 15) rfl))

theorem factIds : SameIds ExecutionFactRecord.executionFactId current.records.executionFacts
    candidate.records.executionFacts :=
  of_decide_eq_true (h.fixed _ (List.mem_of_getElem? (i := 6) rfl))

theorem lockIds : SameIds OperationLockRecord.lockId current.records.operationLocks
    candidate.records.operationLocks :=
  of_decide_eq_true (h.fixed _ (List.mem_of_getElem? (i := 7) rfl))

/-- **An accepted urgent import adds operations of new orders only.** -/
theorem imports (hcandidate : AcceptedSnapshot candidate)
    (htargets : ((FactState.of candidate).operations.map Tracked.target).Nodup) :
    (FactState.of current).Imports (FactState.of candidate) := by
  have htracked : ∀ {a b : OperationInstance}, a.Same b → Tracked.of a = Tracked.of b := by
    intro a b hsame
    rw [hsame.2]
    rfl
  refine ⟨FactState.wellFormed_of_accepted hcandidate, htargets, ?_, ?_, ?_, ?_, ?_, ?_⟩
  · intro o ho
    obtain ⟨x, hx, rfl⟩ := List.mem_map.mp ho
    obtain ⟨found, hfound, -, hsame⟩ := h.instances.mem hx
    exact List.mem_map.mpr ⟨found, hfound, htracked hsame⟩
  · intro o ho
    obtain ⟨x, hx, rfl⟩ := List.mem_map.mp ho
    by_cases hold : x.operationInstanceId ∈
        current.operationInstances.map OperationInstance.operationInstanceId
    · obtain ⟨old, hmem, hsame⟩ := h.instances.origin hcandidate.instanceIds hx hold
      exact .inl (List.mem_map.mpr ⟨old, hmem, (htracked hsame).symm⟩)
    · have hadded := h.added x (List.mem_filter.mpr ⟨hx, decide_eq_true hold⟩)
      obtain ⟨order, horder, hid⟩ := List.mem_map.mp hadded
      have hnew := of_decide_eq_true (List.mem_filter.mp horder).2
      rw [hid] at hnew
      exact .inr hnew
  · intro fact hmem
    obtain ⟨found, hfound, -, hsame⟩ := h.facts.mem hmem
    exact ⟨found, hfound, hsame⟩
  · intro found hfound
    exact h.facts.origin hcandidate.records.executionFactIds hfound (h.factIds.2 found hfound)
  · intro lock
    constructor
    · intro hlock
      obtain ⟨old, hold, rfl⟩ := h.locks.origin hcandidate.records.lockIds hlock
        (h.lockIds.2 lock hlock)
      exact hold
    · intro hlock
      obtain ⟨found, hfound, -, rfl⟩ := h.locks.mem hlock
      exact hfound
  · intro lot hlot
    obtain ⟨record, hrecord, rfl⟩ := List.mem_map.mp hlot
    obtain ⟨found, hfound, -, hsame⟩ := h.lots.mem hrecord
    refine List.mem_map.mpr ⟨found, hfound, ?_⟩
    rw [hsame.2]

end UrgentImport

/-! ### One event -/

/-- An urgent snapshot as the import pipeline builds it. -/
structure UrgentSnapshot (snapshot : PlanningSnapshot) : Prop where
  accepted : validatePlanningSnapshotV2 snapshot = .ok ()
  targets : ((FactState.of snapshot).operations.map Tracked.target).Nodup

/-- **The projection of an event is a step of the facts.** -/
theorem applyEvent_step {document' : PlanningSnapshot} {fullPrefix : List Json} {event : Json}
    {urgent : Option PlanningSnapshot} {priorities : List UrgentPriorityFact}
    (hwell : (FactState.of document).WellFormed)
    (hurgent : ∀ snapshot ∈ urgent, UrgentSnapshot snapshot)
    (h : applyEvent document fullPrefix event urgent = .ok (document', priorities)) :
    FactStep event (FactState.of document) (FactState.of document') := by
  rw [applyEvent] at h
  split at h
  · cases h
  · rename_i htype
    simp only [projectUrgentDemand, bind_eq_ok, pure, Except.pure, Except.ok.injEq,
      Prod.exists, Prod.mk.injEq] at h
    obtain ⟨projected, priority, ⟨candidate, hfound, found, hvalid, rfl, rfl⟩, rfl, -⟩ := h
    obtain ⟨haccepted, htargets⟩ := hurgent candidate (found_ok hfound)
    exact .imported ((validateUrgentCandidate_ok hvalid).imports
      (validatePlanningSnapshotV2_ok haccepted) htargets)
      (reportedTimes_none htype (by decide) (by decide))
  · rename_i type _ htype
    simp only [bind_eq_ok, pure, Except.pure, Except.ok.injEq, Prod.mk.injEq] at h
    obtain ⟨projected, hproject, rfl, -⟩ := h
    have hnone := reportedTimes_none htype
    cases type with
    | operationStarted => exact projectOperationStarted_step htype hproject
    | operationCompleted => exact projectOperationCompleted_step hwell htype hproject
    | machineUnavailable =>
      rw [projectMachineUnavailable_quiet hproject]
      exact .quiet (hnone (by decide) (by decide))
    | machineRecovered =>
      rw [projectMachineRecovered_quiet hproject]
      exact .quiet (hnone (by decide) (by decide))
    | materialReady | materialDelayed =>
      rw [projectMaterial_quiet hproject]
      exact .quiet (hnone (by decide) (by decide))
    | processingDurationChanged =>
      rw [projectDurationChanged_quiet hproject]
      exact .quiet (hnone (by decide) (by decide))
    | processingRemainingChanged =>
      exact projectRemainingChanged_step hwell (hnone (by decide) (by decide)) hproject
    | urgentDemandReceived => cases hproject
    | lockCreated => exact projectLockCreated_step (hnone (by decide) (by decide)) hproject
    | lockReleased => exact projectLockReleased_step (hnone (by decide) (by decide)) hproject

end

end PlantNexus.Execution
