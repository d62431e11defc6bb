import PlantNexus.Data.Intervals
import PlantNexus.Problem.Built
import PlantNexus.Problem.History
import PlantNexus.Validation.Catalog

/-! What a built problem contains of its snapshot.

Every projection of the builder is a map over records of the snapshot that may leave some out.
Here each is given as a function without errors, and a problem that was built is, up to the order
of its collections, the images of the records under them (`buildPlanningProblemV2_contents`). -/
namespace PlantNexus.Problem
open Data Time Domain Snapshot
open Validation (instantMicros instantMicros_eq)

/-! ### Loops -/

/-- A loop that returns has applied what its steps compute. -/
theorem collect_eq_map {ε α β : Type} {f : α → Except ε β} {g : α → β} {xs : List α} {ys : List β}
    (hf : ∀ x ∈ xs, ∀ y, f x = .ok y → y = g x) (h : collect f xs = .ok ys) : ys = xs.map g := by
  have hall := (collect_eq_ok_iff f xs ys).mp h
  clear h
  induction hall with
  | nil => rfl
  | @cons x y xs ys hx _ ih =>
    rw [List.map_cons, hf x (List.mem_cons_self ..) y hx,
      ih fun z hz => hf z (List.mem_cons_of_mem x hz)]

theorem filterMap_ite {α β : Type} (p : α → Prop) [DecidablePred p] (f : α → β) (xs : List α) :
    xs.filterMap (fun x => if p x then some (f x) else none) = (xs.filter p).map f := by
  induction xs with
  | nil => rfl
  | cons x xs ih =>
    by_cases hx : p x
    · simp only [List.filterMap_cons, List.filter_cons, hx, if_true, decide_true, List.map_cons, ih]
    · simp only [List.filterMap_cons, List.filter_cons, hx, if_false, decide_false,
        Bool.false_eq_true, ih]

/-! ### The images -/

section
variable (s : PlanningSnapshot)

/-- The operation that stands for an instance, unless it is completed. -/
def imageInstance (o : Snapshot.OperationInstance) : Option OperationInstance :=
  match o.status with
  | .completed => none
  | .running => (namedFact s o).map fun fact =>
    { projectedOperation o .running with
      actualStartAtUtc := fact.actualStartAtUtc
      assignedResourceId := fact.resourceId
      remainingSeconds := fact.remainingSeconds }
  | .notStarted => some (projectedOperation o .notStarted)

/-- The edges to operations that are not completed. -/
def keptEdges : List OperationPrecedenceEdge :=
  s.operationPrecedenceEdges.filter fun e =>
    e.successorOperationInstanceId ∈ activeInstanceIds s

/-- The anchor of a completed operation, from the fact that it names. -/
def AnchorOf (anchor : HistoricalCompletionAnchor) : Prop :=
  ∃ fact, (instanceById s anchor.operationId).bind (namedFact s) = some fact ∧
    fact.status = .completed ∧ anchor.executionFactId = fact.executionFactId ∧
    fact.resourceId = some anchor.resourceId ∧
    fact.actualStartAtUtc = some anchor.actualStartAtUtc ∧
    fact.actualEndAtUtc = some anchor.actualEndAtUtc

/-- A lock of an operation that ends after the horizon has started. -/
def imageLock (horizonStart : Datetime) (o : Snapshot.OperationInstance) (lockId : String) :
    Option OperationLock :=
  (s.records.lock? lockId).bind fun lock =>
    if instantMicros lock.endAtUtc ≤ horizonStart.micros then none
    else some ⟨lockId, o.operationInstanceId, lock.lockType, lock.resourceId, lock.startAtUtc,
      lock.endAtUtc, lock.source.sourceSystem, lock.source.sourceVersion,
      lock.source.sourceRecordId⟩

/-- The instances that are not completed. -/
def activeInstances : List Snapshot.OperationInstance :=
  s.operationInstances.filter fun o => o.status ≠ .completed

/-- An interval of a calendar that meets the horizon. -/
def imageInterval (horizonStart horizonEnd : Datetime) (resource : ResourceRecord)
    (interval : UnavailableIntervalRecord) : Option UnavailableInterval :=
  if horizonEnd.micros ≤ instantMicros interval.startAtUtc ∨
      instantMicros interval.endAtUtc ≤ horizonStart.micros then none
  else some ⟨resource.calendarId, resource.resourceId, interval.startAtUtc, interval.endAtUtc⟩

/-- `calendars[resource["calendar_id"]]` -/
def calendarOf (resource : ResourceRecord) : Option CalendarRecord :=
  dictGet CalendarRecord.calendarId s.records.calendars resource.calendarId

def imageIntervals (horizonStart horizonEnd : Datetime) (resource : ResourceRecord) :
    List UnavailableInterval :=
  match calendarOf s resource with
  | none => []
  | some calendar =>
    calendar.unavailableIntervals.filterMap (imageInterval horizonStart horizonEnd resource)

end

/-! ### Operations and edges -/

section
variable {s : PlanningSnapshot}

theorem projectInstance_image {tick : Int} {horizonStart horizonEnd : Datetime}
    {o : Snapshot.OperationInstance} {projected : Option OperationInstance}
    (h : projectInstance s tick horizonStart horizonEnd o = .ok projected) :
    projected = imageInstance s o := by
  rw [projectInstance] at h
  rw [imageInstance]
  cases hstatus : o.status with
  | completed =>
    simp only [hstatus, Except.ok.injEq] at h
    exact h.symm
  | running =>
    simp only [hstatus] at h ⊢
    obtain ⟨operation, hrunning, rfl⟩ := map_eq_ok.mp h
    rw [projectRunning] at hrunning
    cases hfact : namedFact s o with
    | none =>
      rw [hfact] at hrunning
      cases hrunning
    | some fact =>
      simp only [hfact, Option.map_some] at hrunning ⊢
      split at hrunning
      · rename_i hstart hresource hremaining
        simp only [bind_eq_ok, exists_unit_iff, pure, Except.pure, Except.ok.injEq] at hrunning
        obtain ⟨-, rfl⟩ := hrunning
        simp only [hstart, hresource, hremaining]
      · cases hrunning
  | notStarted =>
    simp only [hstatus] at h ⊢
    obtain ⟨operation, hwaiting, rfl⟩ := map_eq_ok.mp h
    rw [projectNotStarted_ok hwaiting]

theorem projectOperationsV2_images {tick : Int} {horizonStart horizonEnd : Datetime}
    {operations : List OperationInstance}
    (h : projectOperationsV2 s tick horizonStart horizonEnd = .ok operations) :
    operations = s.operationInstances.filterMap (imageInstance s) := by
  simp only [projectOperationsV2, bind_eq_ok, pure, Except.pure, Except.ok.injEq] at h
  obtain ⟨projected, hprojected, rfl⟩ := h
  rw [collect_eq_map (fun o _ _ hok => projectInstance_image hok) hprojected, List.filterMap_map]
  rfl

/-- The identities of an accepted snapshot are those of one instance each. -/
theorem not_active_of_completed (h : AcceptedSnapshot s) {id : String}
    (hcompleted : id ∈ completedIds s) : id ∉ activeInstanceIds s := by
  intro hactive
  obtain ⟨o, ho, rfl, hstatus⟩ := mem_completedIds.mp hcompleted
  obtain ⟨p, hp, hid, hother⟩ := mem_activeInstanceIds.mp hactive
  rw [List.inj_on_of_nodup_map h.instanceIds hp ho hid] at hother
  exact hother hstatus

theorem projectEdge_image (h : AcceptedSnapshot s) {edge : OperationPrecedenceEdge}
    {projected : Option PrecedenceEdge} (hok : projectEdge s edge = .ok projected) :
    projected = if edge.successorOperationInstanceId ∈ activeInstanceIds s then
      some (projectedEdge edge) else none := by
  rw [projectEdge] at hok
  split at hok
  · rename_i hboth
    rw [if_neg (not_active_of_completed h hboth.2), Except.ok.inj hok]
  · simp only [bind_eq_ok, exists_unit_iff, require_eq_ok, pure, Except.pure,
      Except.ok.injEq] at hok
    obtain ⟨-, ⟨hactive, -⟩, rfl⟩ := hok
    rw [if_pos hactive]

theorem projectEdgesV2_images (h : AcceptedSnapshot s) {edges : List PrecedenceEdge}
    (hok : projectEdgesV2 s = .ok edges) : edges = (keptEdges s).map projectedEdge := by
  simp only [projectEdgesV2, bind_eq_ok, pure, Except.pure, Except.ok.injEq] at hok
  obtain ⟨projected, hprojected, rfl⟩ := hok
  rw [collect_eq_map (fun e _ _ hedge => projectEdge_image h hedge) hprojected,
    List.filterMap_map, keptEdges, ← filterMap_ite]
  rfl

/-! ### Anchors -/

theorem projectAnchor_image {horizonStart : Datetime} {operationId : String}
    {anchor : HistoricalCompletionAnchor}
    (h : projectAnchor s horizonStart operationId = .ok anchor) :
    anchor.operationId = operationId ∧ AnchorOf s anchor := by
  rw [projectAnchor] at h
  split at h
  · cases h
  · rename_i fact hfact
    obtain ⟨hstatus, h⟩ := bind_unit_eq_ok.mp h
    rw [require_eq_ok] at hstatus
    split at h
    · rename_i hresource hstart hstop
      simp only [bind_eq_ok, exists_unit_iff, pure, Except.pure, Except.ok.injEq] at h
      obtain ⟨_, -, -, rfl⟩ := h
      exact ⟨rfl, fact, hfact, hstatus, rfl, hresource, hstart, hstop⟩
    · cases h

theorem projectHistoricalAnchorsV2_images {edges : List PrecedenceEdge} {horizonStart : Datetime}
    {anchors : List HistoricalCompletionAnchor}
    (h : projectHistoricalAnchorsV2 s edges horizonStart = .ok anchors) :
    anchors.map HistoricalCompletionAnchor.operationId =
        sortByKey id (anchorOperationIds s edges) ∧
      ∀ anchor ∈ anchors, AnchorOf s anchor := by
  have hall := (collect_eq_ok_iff _ _ _).mp h
  clear h
  generalize sortByKey id (anchorOperationIds s edges) = ids at hall ⊢
  induction hall with
  | nil => exact ⟨rfl, List.forall_mem_nil _⟩
  | cons hanchor _ ih =>
    obtain ⟨hid, hof⟩ := projectAnchor_image hanchor
    exact ⟨by rw [List.map_cons, hid, ih.1], List.forall_mem_cons.mpr ⟨hof, ih.2⟩⟩

/-! ### Locks -/

theorem snapshotInstant_ok {value : String} {d : Datetime} (h : snapshotInstant value = .ok d) :
    instantMicros value = d.micros :=
  instantMicros_eq value d ((mapError_eq_ok _ _ _).mp h)

theorem projectLock_image {horizonStart : Datetime} {o : Snapshot.OperationInstance}
    {lockId : String} {projected projected' : List OperationLock}
    (h : projectLock s horizonStart o projected lockId = .ok projected') :
    projected' = projected ++ (imageLock s horizonStart o lockId).toList := by
  rw [projectLock] at h
  unfold imageLock
  split at h
  · cases h
  · rename_i lock hlock
    obtain ⟨stop, hstop, h⟩ := bind_eq_ok.mp h
    rw [hlock, Option.bind_some, snapshotInstant_ok hstop]
    split at h
    · rename_i hended
      rw [if_pos ((Datetime.le_iff _ _).mp hended), Option.toList_none, List.append_nil]
      exact (Except.ok.inj h).symm
    · rename_i hlive
      simp only [bind_eq_ok, exists_unit_iff, pure, Except.pure, Except.ok.injEq] at h
      obtain ⟨-, -, rfl⟩ := h
      rw [if_neg fun hended => hlive ((Datetime.le_iff _ _).mpr hended), Option.toList_some]

/-- The locks that one round of the loop adds. -/
def imageLocks (s : PlanningSnapshot) (horizonStart : Datetime) (operationId : String) :
    List OperationLock :=
  match instanceById s operationId with
  | none => []
  | some o => o.lockIds.filterMap (imageLock s horizonStart o)

theorem projectLocksV2_rounds {horizonStart : Datetime} {locks : List OperationLock}
    (h : projectLocksV2 s horizonStart = .ok locks) :
    locks = (sortByKey id (activeInstanceIds s)).flatMap (imageLocks s horizonStart) := by
  rw [projectLocksV2] at h
  have hlocks := foldlM_append_ok (imageLocks s horizonStart) ?_ h
  · rw [hlocks, List.nil_append]
  · intro operationId _ before after hstep
    rw [imageLocks]
    cases hget : instanceById s operationId with
    | none =>
      simp only [hget, Except.ok.injEq] at hstep
      simp [hstep]
    | some o =>
      simp only [hget] at hstep
      rw [foldlM_append_ok (fun lockId => (imageLock s horizonStart o lockId).toList)
        (fun _ _ _ _ hlock => projectLock_image hlock) hstep, ← List.filterMap_eq_flatMap_toList]

/-- The locks of the active instances that are still to come. -/
theorem projectLocksV2_images (h : AcceptedSnapshot s) {horizonStart : Datetime}
    {locks : List OperationLock} (hok : projectLocksV2 s horizonStart = .ok locks) :
    locks.Perm ((activeInstances s).flatMap fun o =>
      o.lockIds.filterMap (imageLock s horizonStart o)) := by
  rw [projectLocksV2_rounds hok]
  refine ((sortByKey_perm id (activeInstanceIds s)).flatMap_right _).trans ?_
  rw [activeInstanceIds, List.flatMap_map]
  refine List.Perm.of_eq (List.flatMap_congr fun o ho => ?_)
  have hget : instanceById s o.operationInstanceId = some o :=
    (dictGet_eq_some_iff _ _ _ _ h.instanceIds).mpr ⟨(List.mem_filter.mp ho).1, rfl⟩
  rw [imageLocks, hget]

/-! ### Calendars -/

theorem projectResourceIntervals_image {horizonStart horizonEnd : Datetime}
    {resource : ResourceRecord} {intervals : List UnavailableInterval}
    (h : projectResourceIntervals s horizonStart horizonEnd resource = .ok intervals) :
    (calendarOf s resource).isSome ∧
      intervals = imageIntervals s horizonStart horizonEnd resource := by
  rw [projectResourceIntervals] at h
  unfold imageIntervals calendarOf
  split at h
  · cases h
  · rename_i calendar hcalendar
    rw [hcalendar]
    refine ⟨rfl, ?_⟩
    simp only [bind_eq_ok, pure, Except.pure, Except.ok.injEq] at h
    obtain ⟨kept, hkept, rfl⟩ := h
    rw [collect_eq_map (g := imageInterval horizonStart horizonEnd resource)
      (fun interval _ out hout => ?_) hkept, List.filterMap_map]
    · rfl
    · obtain ⟨start, hstart, hout⟩ := bind_eq_ok.mp hout
      obtain ⟨stop, hstop, hout⟩ := bind_eq_ok.mp hout
      rw [imageInterval, snapshotInstant_ok hstart, snapshotInstant_ok hstop]
      simp only [Datetime.le_iff] at hout
      split at hout
      · rename_i hoff
        rw [if_pos hoff, Except.ok.inj hout]
      · rename_i hmeets
        rw [if_neg hmeets, Except.ok.inj hout]

theorem projectUnavailableIntervalsV2_images {horizonStart horizonEnd : Datetime}
    {intervals : List UnavailableInterval}
    (h : projectUnavailableIntervalsV2 s horizonStart horizonEnd = .ok intervals) :
    (∀ resource ∈ s.records.resources, (calendarOf s resource).isSome) ∧
      intervals = s.records.resources.flatMap (imageIntervals s horizonStart horizonEnd) := by
  simp only [projectUnavailableIntervalsV2, bind_eq_ok, pure, Except.pure, Except.ok.injEq] at h
  obtain ⟨lists, hlists, rfl⟩ := h
  constructor
  · intro resource hresource
    obtain ⟨_, hok⟩ := (collect_isOk _ _).mp ⟨lists, hlists⟩ resource hresource
    exact (projectResourceIntervals_image hok).1
  · rw [collect_eq_map (fun _ _ _ hok => (projectResourceIntervals_image hok).2) hlists,
      List.flatMap_def]

/-- The unavailable intervals of a resource, in microseconds. -/
def unavailableOn (problem : PlanningProblem) (resourceId : String) : List (Int × Int) :=
  (problem.resourceUnavailableIntervals.filter fun i => i.resourceId = resourceId).map fun i =>
    (instantMicros i.startUtc, instantMicros i.endUtc)

/-- **Within the horizon a resource is unavailable exactly when its calendar says so.** -/
theorem covered_images (h : AcceptedSnapshot s) {horizonStart horizonEnd : Datetime}
    {problem : PlanningProblem}
    (hintervals : problem.resourceUnavailableIntervals.Perm
      (s.records.resources.flatMap (imageIntervals s horizonStart horizonEnd)))
    {resource : ResourceRecord} (hresource : resource ∈ s.records.resources)
    {calendar : CalendarRecord} (hcalendar : calendarOf s resource = some calendar) {t : Int}
    (hfrom : horizonStart.micros ≤ t) (hto : t < horizonEnd.micros) :
    t ∈ covered (unavailableOn problem resource.resourceId) ↔
      ∃ interval ∈ calendar.unavailableIntervals,
        instantMicros interval.startAtUtc ≤ t ∧ t < instantMicros interval.endAtUtc := by
  rw [mem_covered]
  constructor
  · rintro ⟨_, hx, hlow, hhigh⟩
    obtain ⟨image, himage, rfl⟩ := List.mem_map.mp hx
    obtain ⟨himage, hid⟩ := List.mem_filter.mp himage
    obtain ⟨other, hother, himage⟩ := List.mem_flatMap.mp (hintervals.mem_iff.mp himage)
    unfold imageIntervals at himage
    split at himage
    · cases himage
    · rename_i otherCalendar hotherCalendar
      obtain ⟨interval, hinterval, hsome⟩ := List.mem_filterMap.mp himage
      unfold imageInterval at hsome
      split at hsome
      · cases hsome
      · obtain rfl := Option.some.inj hsome
        have hsame : other = resource :=
          List.inj_on_of_nodup_map h.records.resourceIds hother hresource (of_decide_eq_true hid)
        rw [hsame, hcalendar] at hotherCalendar
        rw [← Option.some.inj hotherCalendar] at hinterval
        exact ⟨interval, hinterval, hlow, hhigh⟩
  · rintro ⟨interval, hinterval, hlow, hhigh⟩
    refine ⟨(instantMicros interval.startAtUtc, instantMicros interval.endAtUtc),
      List.mem_map.mpr ⟨⟨resource.calendarId, resource.resourceId, interval.startAtUtc,
        interval.endAtUtc⟩, ?_, rfl⟩, hlow, hhigh⟩
    refine List.mem_filter.mpr ⟨hintervals.mem_iff.mpr (List.mem_flatMap.mpr
      ⟨resource, hresource, ?_⟩), decide_eq_true rfl⟩
    rw [imageIntervals, hcalendar]
    refine List.mem_filterMap.mpr ⟨interval, hinterval, ?_⟩
    rw [imageInterval, if_neg (by omega)]

end

/-! ### The problem -/

/-- The problem holds the images of the snapshot's records, and no others. -/
structure Images (s : PlanningSnapshot) (problem : PlanningProblem)
    (horizonStart horizonEnd : Datetime) : Prop where
  operations : problem.operationInstances.Perm
    ((s.operationInstances.filterMap (imageInstance s)).map canonicalOperationV2)
  ids : (problem.operationInstances.map OperationInstance.operationId).Perm (activeInstanceIds s)
  edges : problem.precedenceEdges.Perm ((keptEdges s).map projectedEdge)
  anchors : (problem.historicalCompletionAnchors.map HistoricalCompletionAnchor.operationId).Perm
    (((keptEdges s).map OperationPrecedenceEdge.predecessorOperationInstanceId).filter
      (· ∈ completedIds s)).dedup
  anchorsOf : ∀ anchor ∈ problem.historicalCompletionAnchors, AnchorOf s anchor
  locks : problem.operationLocks.Perm ((activeInstances s).flatMap fun o =>
    o.lockIds.filterMap (imageLock s horizonStart o))
  unavailable : ∀ resource ∈ s.records.resources, ∃ calendar,
    calendarOf s resource = some calendar ∧
      ∀ t, horizonStart.micros ≤ t → t < horizonEnd.micros →
        (t ∈ covered (unavailableOn problem resource.resourceId) ↔
          ∃ interval ∈ calendar.unavailableIntervals,
            instantMicros interval.startAtUtc ≤ t ∧ t < instantMicros interval.endAtUtc)

theorem projectInstance_id {s : PlanningSnapshot} {tick : Int} {horizonStart horizonEnd : Datetime}
    {o : Snapshot.OperationInstance} {projected : Option OperationInstance}
    (h : projectInstance s tick horizonStart horizonEnd o = .ok projected) :
    projected.map OperationInstance.operationId =
      if o.status ≠ .completed then some o.operationInstanceId else none := by
  rw [projectInstance] at h
  split at h
  · rename_i hstatus
    rw [if_neg (not_not.mpr hstatus), ← Except.ok.inj h]
    rfl
  · rename_i hstatus
    obtain ⟨operation, hrunning, rfl⟩ := map_eq_ok.mp h
    rw [if_pos (by rw [hstatus]; decide), Option.map_some]
    rw [projectRunning] at hrunning
    split at hrunning
    · cases hrunning
    · split at hrunning
      · simp only [bind_eq_ok, exists_unit_iff, pure, Except.pure, Except.ok.injEq] at hrunning
        obtain ⟨-, rfl⟩ := hrunning
        rfl
      · cases hrunning
  · rename_i hstatus
    obtain ⟨operation, hwaiting, rfl⟩ := map_eq_ok.mp h
    rw [if_pos (by rw [hstatus]; decide), projectNotStarted_ok hwaiting]
    rfl

/-- The operations are named as the active instances are, in their order. -/
theorem projectOperationsV2_ids {s : PlanningSnapshot} {operations : List OperationInstance}
    {tick : Int} {horizonStart horizonEnd : Datetime}
    (h : projectOperationsV2 s tick horizonStart horizonEnd = .ok operations) :
    operations.map OperationInstance.operationId = activeInstanceIds s := by
  simp only [projectOperationsV2, bind_eq_ok, pure, Except.pure, Except.ok.injEq] at h
  obtain ⟨projected, hprojected, rfl⟩ := h
  have hids : projected.map (Option.map OperationInstance.operationId) =
      s.operationInstances.map fun o =>
        if o.status ≠ .completed then some o.operationInstanceId else none := by
    have hall := (collect_eq_ok_iff _ _ _).mp hprojected
    clear hprojected
    generalize s.operationInstances = instances at hall ⊢
    induction hall with
    | nil => rfl
    | cons ho _ ih => rw [List.map_cons, List.map_cons, projectInstance_id ho, ih]
  calc (projected.filterMap id).map OperationInstance.operationId
      = (projected.map (Option.map OperationInstance.operationId)).filterMap id := by
        rw [List.map_filterMap, List.filterMap_map]
        rfl
    _ = (s.operationInstances.filter fun o => o.status ≠ .completed).map
          Snapshot.OperationInstance.operationInstanceId := by
        rw [hids, List.filterMap_map, ← filterMap_ite]
        rfl
    _ = activeInstanceIds s := rfl

/-- A built problem has the horizon of the configuration, and the images of the snapshot. -/
theorem builtProblem_images {snapshot : ImmutablePlanningSnapshot}
    {priorityFacts : List (String × Json)} {config : BuildConfig}
    {built : ImmutablePlanningProblemV2}
    (h : buildPlanningProblemV2 snapshot priorityFacts config = .ok built) :
    ∃ horizonStart horizonEnd, parseUtcInstant config.horizonStartUtc = .ok horizonStart ∧
      parseUtcInstant config.horizonEndUtc = .ok horizonEnd ∧
      BuiltProblem built.document horizonStart horizonEnd ∧
      Images snapshot.document built.document horizonStart horizonEnd := by
  obtain ⟨start, stop, hfacts⟩ := buildPlanningProblemV2_ok h
  simp only [buildPlanningProblemV2, bind_eq_ok, exists_unit_iff, mapError_eq_ok, pure,
    Except.pure, Except.ok.injEq, Prod.exists] at h
  obtain ⟨hverified, horizonStart, horizonEnd, hconfig, -, operations, hoperations, demands, -,
    resources, -, edges, hedges, anchors, hanchors, locks, hlocks, intervals, hintervals, -, -,
    rfl⟩ := h
  have haccepted : AcceptedSnapshot snapshot.document :=
    validatePlanningSnapshotV2_ok ((verifySnapshot_eq_ok snapshot).mp hverified).valid
  obtain ⟨⟨hstart, -⟩, hstop, -⟩ := validateConfigV2_ok hconfig
  obtain rfl : start = horizonStart := Except.ok.inj (hfacts.start.symm.trans hstart)
  obtain rfl : stop = horizonEnd := Except.ok.inj (hfacts.stop.symm.trans hstop)
  obtain ⟨hcalendars, hintervals⟩ := projectUnavailableIntervalsV2_images hintervals
  refine ⟨start, stop, hstart, hstop, hfacts, ?_⟩
  have hedges := projectEdgesV2_images haccepted hedges
  obtain ⟨hanchorIds, hanchorsOf⟩ := projectHistoricalAnchorsV2_images hanchors
  refine
    { operations := ?_
      ids := ?_
      edges := ?_
      anchors := ?_
      anchorsOf := ?_
      locks := (sortByKey_perm _ _).trans (projectLocksV2_images haccepted hlocks)
      unavailable := ?_ }
  · rw [← projectOperationsV2_images hoperations]
    exact sortByKey_perm _ _
  · refine ((sortByKey_perm _ _).map _).trans ?_
    rw [List.map_map, ← projectOperationsV2_ids hoperations]
    exact List.Perm.refl _
  · rw [← hedges]
    exact sortByKey_perm _ _
  · refine ((sortByKey_perm _ _).map _).trans ?_
    rw [builtDocument, hanchorIds, hedges, anchorOperationIds, List.map_map]
    exact sortByKey_perm _ _
  · intro anchor hanchor
    exact hanchorsOf anchor ((mem_sortByKey _ _ _).mp hanchor)
  · intro resource hresource
    obtain ⟨calendar, hcalendar⟩ := Option.isSome_iff_exists.mp (hcalendars resource hresource)
    refine ⟨calendar, hcalendar, fun t hfrom hto => ?_⟩
    refine covered_images haccepted ?_ hresource hcalendar hfrom hto
    rw [← hintervals]
    exact sortByKey_perm _ _

end PlantNexus.Problem
