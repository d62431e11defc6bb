import PlantNexus.Data.Agreement
import PlantNexus.Freeze.Precheck

/-! The projector and its precheck on the same inputs.

Behind the base schedule the two computations agree step by step. They read a base
assignment differently: the projector wants its interval to be its ticks on the grid,
the precheck wants it to be its duration in seconds. Both hold exactly when the
duration is a whole number of ticks, so the precheck recomputes the projector's document
on such base schedules and refuses the others (`precheck_agrees_iff`). -/
namespace PlantNexus.Freeze
open Data Time Domain Snapshot
open Problem (ImmutablePlanningProblemV2 verifyProblemV2 PlanningProblem)

/-! ### Protected tuples and facts -/

theorem agree_utc (value : Json) (field field' entity entity' : String) :
    Agree (Projector.utcSecond value field entity) (Precheck.utc value field' entity') :=
  Agree.orReject _ _ _

theorem agree_comparable (a b : Moment) :
    Agree (Projector.comparable a b) (Precheck.comparable a b) :=
  Agree.require _ _ _

/-- A tuple on a candidate text passes both readings of the grid or neither. -/
theorem agree_tuple (operationId : String) (value : ProtectedTuple)
    (operation : Problem.OperationInstance) (grid : Projector.Grid)
    (failure : FreezeProjectionFailure) (reason : String) :
    Agree (Projector.requireGridTuple operationId value operation grid failure)
      (Precheck.requireProtectedTuple operationId (.str value.resourceId) value.startAtUtc
        value.endAtUtc operation grid reason) := by
  unfold Projector.requireGridTuple Precheck.requireProtectedTuple
  refine Agree.bind (agree_utc ..) fun start _ => ?_
  refine Agree.bind (agree_utc ..) fun stop _ => ?_
  refine Agree.bind (agree_comparable ..) fun _ _ => ?_
  refine Agree.bind (Agree.require ..) fun _ _ => ?_
  refine Agree.bind (agree_comparable ..) fun _ _ => ?_
  refine Agree.bind (Agree.require ..) fun _ _ => ?_
  refine Agree.bind (Agree.require ..) fun _ _ => ?_
  dsimp only
  cases Projector.expectedSeconds operation value.resourceId with
  | none => exact Agree.error _ _
  | some expected => exact Agree.bind (Agree.orOverflow _) fun ticks _ => Agree.require _ _ _

theorem agree_sameOperation (instances : List OperationInstance)
    (operation : Problem.OperationInstance) :
    Agree (Projector.requireSameOperation instances operation)
      (Precheck.requireSameOperation instances operation) := by
  unfold Projector.requireSameOperation Precheck.requireSameOperation
  cases dictGet OperationInstance.operationInstanceId instances operation.operationId with
  | none => exact Agree.error _ _
  | some o => exact Agree.bind (Agree.require ..) fun _ _ => Agree.require _ _ _

theorem agree_expectedLock (records : CanonicalRecords) (cutoff : Moment)
    (operationId lockId : String) :
    Agree (Projector.expectedLock records cutoff operationId lockId)
      (Precheck.expectedLock records cutoff operationId lockId) := by
  unfold Projector.expectedLock Precheck.expectedLock
  cases records.lock? lockId with
  | none => exact Agree.error _ _
  | some lock =>
    refine Agree.bind (agree_utc ..) fun stop _ => ?_
    exact Agree.bind (agree_comparable ..) fun _ _ => Agree.ok _

theorem agree_expectedLocksOf (records : CanonicalRecords) (instances : List OperationInstance)
    (cutoff : Moment) (operationId : String) :
    Agree (Projector.expectedLocksOf records instances cutoff operationId)
      (Precheck.expectedLocksOf records instances cutoff operationId) := by
  unfold Projector.expectedLocksOf Precheck.expectedLocksOf
  cases dictGet OperationInstance.operationInstanceId instances operationId with
  | none => exact Agree.error _ _
  | some o =>
    exact Agree.bind (Agree.collect fun lockId _ => agree_expectedLock ..) fun _ _ => Agree.ok _

theorem agree_snapshotProjection (snapshot : PlanningSnapshot) (problem : PlanningProblem)
    (cutoff : Moment) :
    Agree (Projector.requireProblemSnapshotProjection snapshot problem cutoff)
      (Precheck.requireSnapshotProblemEquivalence snapshot problem cutoff) := by
  unfold Projector.requireProblemSnapshotProjection Precheck.requireSnapshotProblemEquivalence
  refine Agree.bind (Agree.forEach fun _ _ _ => agree_sameOperation ..) fun _ _ => ?_
  refine Agree.bind (Agree.collect fun _ _ => agree_expectedLocksOf ..) fun _ _ => ?_
  exact Agree.require _ _ _

theorem agree_completedFact (records : CanonicalRecords) (o : OperationInstance) :
    Agree (Projector.completedFact records o) (Precheck.completedFact records o) := by
  unfold Projector.completedFact Precheck.completedFact
  cases o.executionFactId with
  | none => exact Agree.error _ _
  | some factId =>
    dsimp only
    cases records.fact? factId with
    | none => exact Agree.error _ _
    | some fact => exact Agree.bind (Agree.require ..) fun _ _ => Agree.ok _

theorem agree_anchors (snapshot : PlanningSnapshot) (problem : PlanningProblem)
    (completed : List (String × ExecutionFactRecord × Protection)) :
    Agree (Projector.requireAnchors snapshot problem completed)
      (Precheck.requireAnchors snapshot problem completed) := by
  unfold Projector.requireAnchors Precheck.requireAnchors
  refine Agree.bind (Agree.require ..) fun _ _ => Agree.forEach fun _ operationId _ => ?_
  unfold Projector.requireAnchor Precheck.requireAnchor
  cases dictGet Problem.HistoricalCompletionAnchor.operationId
      problem.historicalCompletionAnchors operationId with
  | none => exact Agree.error _ _
  | some anchor =>
    cases dictGet Prod.fst completed operationId with
    | none => exact Agree.error _ _
    | some entry => exact Agree.require _ _ _

theorem agree_running (snapshot : PlanningSnapshot) (grid : Projector.Grid)
    (operation : Problem.OperationInstance) :
    Agree (Projector.runningOperation snapshot grid operation)
      (Precheck.runningOperation snapshot grid operation) := by
  unfold Projector.runningOperation Precheck.runningOperation
  dsimp only
  cases dictGet OperationInstance.operationInstanceId snapshot.operationInstances
      operation.operationId with
  | none => exact Agree.error _ _
  | some o =>
    dsimp only
    cases o.executionFactId with
    | none => exact Agree.error _ _
    | some factId =>
      dsimp only
      cases snapshot.records.fact? factId with
      | none => exact Agree.error _ _
      | some fact =>
        refine Agree.bind (Agree.require ..) fun _ _ => ?_
        refine Agree.bind (Agree.orOverflow _) fun ticks _ => ?_
        refine Agree.bind (Agree.orOverflow _) fun stop _ => ?_
        exact Agree.bind (agree_tuple ..) fun _ _ => Agree.ok _

/-! ### Locks -/

/-- The two loops over explicit locks agree where every lock's operation is in the
problem; only then do they look at a soft lock in the same way. -/
theorem agree_explicitLock (problem : PlanningProblem) (grid : Projector.Grid)
    (state : Projector.ExplicitLocks) (lock : Problem.OperationLock)
    (hlock : lock.operationId ∈
      problem.operationInstances.map Problem.OperationInstance.operationId) :
    Agree (Projector.explicitLock problem grid state lock)
      (Precheck.explicitLock problem grid state lock) := by
  unfold Projector.explicitLock Precheck.explicitLock
  cases hget : dictGet Problem.OperationInstance.operationId problem.operationInstances
      lock.operationId with
  | none => exact absurd hlock ((dictGet_eq_none_iff _ _ _).mp hget)
  | some operation =>
    by_cases hsoft : lock.lockType = .softLock
    · simp only [hsoft, if_true]
      exact Agree.ok _
    · simp only [hsoft, if_false]
      refine Agree.bind (agree_tuple ..) fun _ _ => ?_
      exact Agree.bind (Agree.require ..) fun _ _ => Agree.ok _

theorem agree_window (w : Projector.WindowInputs) (state : Projector.WindowLocks)
    (assignment : BaseAssignment) (resourceId : String)
    (hresource : assignment.resourceId = .str resourceId) :
    Agree (Projector.windowAssignment w state assignment)
      (Precheck.windowAssignment w state assignment) := by
  unfold Projector.windowAssignment Precheck.windowAssignment
  dsimp only
  cases dictGet Problem.OperationInstance.operationId w.problem.operationInstances
      assignment.operationId with
  | none =>
    split
    · exact Agree.ok _
    · exact Agree.error _ _
  | some operation =>
    split
    · exact Agree.ok _
    · refine Agree.bind (agree_utc ..) fun start _ => ?_
      refine Agree.bind (agree_comparable ..) fun _ _ => ?_
      refine Agree.bind (Agree.require ..) fun _ _ => ?_
      refine Agree.bind (agree_comparable ..) fun _ _ => ?_
      by_cases houtside : w.freezeEnd.instant ≤ start.instant
      · rw [if_pos houtside, if_pos houtside]
        exact Agree.ok _
      · rw [if_neg houtside, if_neg houtside]
        have htuple : assignment.resourceId = .str assignment.tuple.resourceId := by
          simp only [BaseAssignment.tuple, hresource, Json.text]
        rw [htuple]
        refine Agree.bind (agree_tuple ..) fun _ _ => ?_
        exact Agree.bind (Agree.require ..) fun _ _ => Agree.ok _

/-- **Behind their inputs the projector and the precheck compute one document.** -/
theorem agree_classify (i : Projector.Inputs)
    (hlocks : ∀ lock ∈ i.problem.document.operationLocks, lock.operationId ∈ i.activeIds)
    (hresources : ∀ a ∈ i.assignments, ∃ resourceId, a.resourceId = .str resourceId) :
    Agree (Projector.classify i) (Precheck.classify i) := by
  unfold Projector.classify Precheck.classify
  refine Agree.bind (Agree.require ..) fun _ _ => ?_
  refine Agree.bind (agree_snapshotProjection ..) fun _ _ => ?_
  refine Agree.bind (Agree.collect fun _ _ => agree_completedFact ..) fun completed _ => ?_
  refine Agree.bind (agree_anchors ..) fun _ _ => ?_
  refine Agree.bind (Agree.collect fun _ _ => agree_running ..) fun running _ => ?_
  refine Agree.bind (Agree.foldlM (fun _ lock hmem => ?_) _) fun locks _ => ?_
  · exact agree_explicitLock _ _ _ lock (hlocks lock hmem)
  refine Agree.bind (Agree.forEach fun _ _ _ => Agree.require ..) fun _ _ => ?_
  refine Agree.bind (Agree.foldlM (fun _ a hmem => ?_) _) fun window _ => Agree.ok _
  obtain ⟨resourceId, hresource⟩ := hresources a ((mem_sortByKey ..).mp hmem)
  exact agree_window _ _ a resourceId hresource

/-! ### Reading the base schedule -/

theorem agree_baseContract (otherDocument : String → Json → Except P4ContractError Unit)
    (base : Json) :
    Agree (Projector.requireBaseContract otherDocument base)
      (Precheck.requireBaseContract otherDocument base) := by
  unfold Projector.requireBaseContract Precheck.requireBaseContract
  dsimp only
  split
  · exact Agree.orReject _ _ _
  · split
    · exact Agree.orReject _ _ _
    · exact Agree.error _ _

theorem identifier_eq_ok (value : Json) (field entityId id : String) :
    Projector.identifier value field entityId = .ok id ↔
      value = .str id ∧ Projector.IsIdentifier id := by
  unfold Projector.identifier
  cases value with
  | str text =>
    simp only [bind_unit_eq_ok, require_eq_ok, Json.str.injEq]
    constructor
    · intro hall
      obtain ⟨hid, heq⟩ := hall
      injection heq with heq
      subst heq
      exact ⟨rfl, hid⟩
    · intro hall
      obtain ⟨heq, hid⟩ := hall
      subst heq
      exact ⟨hid, rfl⟩
  | _ => simp

theorem integer_eq_ok (value : Json) (field entityId : String) (minimum n : Int) :
    Projector.integer value field entityId minimum = .ok n ↔ value = .int n ∧ minimum ≤ n := by
  unfold Projector.integer
  cases value with
  | int m =>
    simp only [bind_unit_eq_ok, require_eq_ok, Json.int.injEq]
    constructor
    · intro hall
      obtain ⟨hle, heq⟩ := hall
      injection heq with heq
      subst heq
      exact ⟨rfl, hle⟩
    · intro hall
      obtain ⟨heq, hle⟩ := hall
      subst heq
      exact ⟨hle, rfl⟩
  | _ => simp

theorem intAtLeast_eq_some (minimum n : Int) (value : Json) :
    Precheck.intAtLeast minimum value = some n ↔ value = .int n ∧ minimum ≤ n := by
  unfold Precheck.intAtLeast
  cases value with
  | int m =>
    by_cases h : minimum ≤ m
    · simp only [if_pos h, Option.some.injEq, Json.int.injEq]
      constructor
      · intro heq
        subst heq
        exact ⟨rfl, h⟩
      · exact fun heq => heq.1
    · simp only [if_neg h, Json.int.injEq]
      constructor
      · intro heq
        cases heq
      · intro hall
        obtain ⟨heq, hle⟩ := hall
        exact absurd (heq ▸ hle) h
  | _ => simp

theorem mapping_eq_ok (value : Json) (field entityId : String) (result : Json) :
    Projector.mapping value field entityId = .ok result ↔
      value.isObj = true ∧ value = result := by
  simp only [Projector.mapping, bind_unit_eq_ok, require_eq_ok, pure, Except.pure,
    Except.ok.injEq]

theorem asMapping_eq_ok (value : Json) (field : String) (result : Json) :
    Precheck.asMapping value field = .ok result ↔ value.isObj = true ∧ value = result := by
  simp only [Precheck.asMapping, bind_unit_eq_ok, require_eq_ok, pure, Except.pure,
    Except.ok.injEq]

theorem utcSecond_eq_ok (value : Json) (field entityId : String) (moment : Moment) :
    Projector.utcSecond value field entityId = .ok moment ↔ utcMomentOf value = .ok moment :=
  orReject_eq_ok _ _ _

theorem utc_eq_ok (value : Json) (field entityId : String) (moment : Moment) :
    Precheck.utc value field entityId = .ok moment ↔ utcMomentOf value = .ok moment :=
  orReject_eq_ok _ _ _

/-- What both readings of a base assignment ask for. -/
structure Readable (seen : List String) (raw : Json) (a : BaseAssignment) (start stop : Moment) :
    Prop where
  object : raw.isObj = true
  operation : raw.get "operation_id" = .str a.operationId
  nonempty : a.operationId ≠ ""
  fields : SameSet raw.keys assignmentFields
  fresh : a.operationId ∉ seen
  start_eq : utcMomentOf (raw.get "start_at_utc") = .ok start
  stop_eq : utcMomentOf (raw.get "end_at_utc") = .ok stop
  duration : raw.get "duration_seconds" = .int a.durationSeconds ∧ 1 ≤ a.durationSeconds
  startTick : raw.get "start_tick" = .int a.startTick ∧ 0 ≤ a.startTick
  endTick : raw.get "end_tick" = .int a.endTick ∧ 1 ≤ a.endTick
  ticks : raw.get "duration_ticks" = .int a.durationTicks ∧ 1 ≤ a.durationTicks
  comparable : start.aware = stop.aware
  forward : start.instant < stop.instant
  interval : a.endTick - a.startTick = a.durationTicks
  value : a = readAssignment raw a.operationId a.durationSeconds a.startTick a.endTick
    a.durationTicks

/-- The projector also wants identifiers, and the interval on the grid. -/
theorem indexAssignment_eq_ok (scheduleId : String) (tick : Int) (index : Nat)
    (seen : List String) (raw : Json) (a : BaseAssignment) :
    Projector.indexAssignment scheduleId tick index seen raw = .ok a ↔
      ∃ start stop, Readable seen raw a start stop ∧ Projector.IsIdentifier a.operationId ∧
        (∃ resourceId, raw.get "resource_id" = .str resourceId ∧
          Projector.IsIdentifier resourceId) ∧
        wholeSeconds (stop.instant.sub start.instant) = a.durationTicks * tick ∧
        a.durationTicks = durationTicks a.durationSeconds tick := by
  simp only [Projector.indexAssignment, bind_eq_ok, exists_unit_iff, require_eq_ok,
    mapping_eq_ok, identifier_eq_ok, integer_eq_ok, utcSecond_eq_ok, Projector.comparable,
    pure, Except.pure, Except.ok.injEq]
  constructor
  · intro hall
    obtain ⟨_, ⟨hobj, rfl⟩, operationId, ⟨hop, hid⟩, hfields, hfresh, resourceId, hresource, start,
      hstart, stop, hstop, duration, hduration, startTick, hstartTick, endTick, hendTick, ticks,
      hticks, hcomparable, ⟨hforward, hseconds⟩, ⟨hinterval, hceil⟩, hvalue⟩ := hall
    subst hvalue
    exact ⟨start, stop,
      ⟨hobj, hop, hid.1, hfields, hfresh, hstart, hstop, hduration, hstartTick, hendTick, hticks,
        hcomparable, hforward, hinterval, rfl⟩, hid, ⟨resourceId, hresource⟩, hseconds, hceil⟩
  · intro hall
    obtain ⟨start, stop, h, hid, ⟨resourceId, hresource⟩, hseconds, hceil⟩ := hall
    exact ⟨raw, ⟨h.object, rfl⟩, a.operationId, ⟨h.operation, hid⟩, h.fields, h.fresh,
      resourceId, hresource, start, h.start_eq, stop, h.stop_eq, a.durationSeconds, h.duration,
      a.startTick, h.startTick, a.endTick, h.endTick, a.durationTicks, h.ticks, h.comparable,
      ⟨h.forward, hseconds⟩, ⟨h.interval, hceil⟩, h.value.symm⟩

/-- The precheck wants the interval to last the duration in seconds. -/
theorem baseAssignment_eq_ok (scheduleId : String) (index : Nat) (seen : List String)
    (raw : Json) (a : BaseAssignment) :
    Precheck.baseAssignment scheduleId index seen raw = .ok a ↔
      ∃ start stop, Readable seen raw a start stop ∧
        wholeSeconds (stop.instant.sub start.instant) = a.durationSeconds := by
  simp only [Precheck.baseAssignment, bind_eq_ok, asMapping_eq_ok]
  constructor
  · intro hall
    obtain ⟨_, ⟨hobj, rfl⟩, h⟩ := hall
    split at h
    · rename_i operationId hop
      simp only [bind_eq_ok, exists_unit_iff, require_eq_ok, utc_eq_ok] at h
      obtain ⟨hne, hfields, hfresh, start, hstart, stop, hstop, h⟩ := h
      split at h
      · rename_i duration startTick endTick ticks hduration hstartTick hendTick hticks
        simp only [bind_unit_eq_ok, require_eq_ok, Precheck.comparable, pure, Except.pure,
          Except.ok.injEq] at h
        obtain ⟨hcomparable, ⟨hforward, hseconds, hinterval⟩, hvalue⟩ := h
        subst hvalue
        rw [intAtLeast_eq_some] at hduration hstartTick hendTick hticks
        exact ⟨start, stop,
          ⟨hobj, hop, hne, hfields, hfresh, hstart, hstop, hduration, hstartTick, hendTick,
            hticks, hcomparable, hforward, hinterval, rfl⟩, hseconds⟩
      · cases h
    · cases h
  · intro hall
    obtain ⟨start, stop, h, hseconds⟩ := hall
    refine ⟨raw, ⟨h.object, rfl⟩, ?_⟩
    have hduration := (intAtLeast_eq_some ..).mpr h.duration
    have hstartTick := (intAtLeast_eq_some ..).mpr h.startTick
    have hendTick := (intAtLeast_eq_some ..).mpr h.endTick
    have hticks := (intAtLeast_eq_some ..).mpr h.ticks
    rw [h.operation]
    simp only [bind_eq_ok, exists_unit_iff, require_eq_ok, utc_eq_ok]
    refine ⟨h.nonempty, h.fields, h.fresh, start, h.start_eq, stop, h.stop_eq, ?_⟩
    rw [hduration, hstartTick, hendTick, hticks]
    simp only [bind_unit_eq_ok, require_eq_ok, Precheck.comparable, pure, Except.pure,
      Except.ok.injEq]
    exact ⟨h.comparable, ⟨h.forward, hseconds, h.interval⟩, h.value.symm⟩

/-! ### Durations on the grid -/

/-- The assignments of a base schedule, as they stand in its document. -/
def baseAssignmentDocuments (base : Json) : List Json :=
  match (base.get "content").get "assignments" with
  | .arr items => items
  | _ => []

/-- Every base assignment lasts a whole number of ticks. -/
def BaseDurationsOnGrid (base : Json) (tick : Int) : Prop :=
  ∀ raw ∈ baseAssignmentDocuments base, ∃ duration,
    raw.get "duration_seconds" = .int duration ∧ tick ∣ duration

theorem durationTicks_mul_eq_iff (duration tick : Int) (htick : 0 < tick) :
    durationTicks duration tick * tick = duration ↔ tick ∣ duration := by
  constructor
  · intro h
    exact ⟨durationTicks duration tick, by rw [Int.mul_comm, h]⟩
  · intro hall
    obtain ⟨n, hn⟩ := hall
    subst hn
    have hle := (durationTicks_le_iff (tick * n) tick n htick).mpr (by rw [Int.mul_comm])
    have hge := (durationTicks_le_iff (tick * n) tick (durationTicks (tick * n) tick) htick).mp
      (Int.le_refl _)
    have hmul := Int.mul_le_mul_of_nonneg_right hle (Int.le_of_lt htick)
    rw [Int.mul_comm n tick] at hmul
    exact Int.le_antisymm hmul hge

/-- On one assignment, the precheck follows the projector exactly on the grid. -/
theorem baseAssignment_of_index (scheduleId scheduleId' : String) (tick : Int) (index : Nat)
    (seen : List String) (raw : Json) (a : BaseAssignment)
    (h : Projector.indexAssignment scheduleId tick index seen raw = .ok a) (htick : 0 < tick)
    (hgrid : ∃ duration, raw.get "duration_seconds" = .int duration ∧ tick ∣ duration) :
    Precheck.baseAssignment scheduleId' index seen raw = .ok a := by
  obtain ⟨start, stop, hread, -, -, hseconds, hceil⟩ := (indexAssignment_eq_ok ..).mp h
  obtain ⟨duration, hduration, hdvd⟩ := hgrid
  have heq : duration = a.durationSeconds := by
    rw [hread.duration.1] at hduration
    injection hduration with hduration
    exact hduration.symm
  rw [heq] at hdvd
  refine (baseAssignment_eq_ok ..).mpr ⟨start, stop, hread, ?_⟩
  rw [hseconds, hceil]
  exact (durationTicks_mul_eq_iff _ _ htick).mpr hdvd

theorem dvd_of_both (scheduleId scheduleId' : String) (tick : Int) (index index' : Nat)
    (seen seen' : List String) (raw : Json) (a b : BaseAssignment)
    (ha : Projector.indexAssignment scheduleId tick index seen raw = .ok a)
    (hb : Precheck.baseAssignment scheduleId' index' seen' raw = .ok b) :
    ∃ duration, raw.get "duration_seconds" = .int duration ∧ tick ∣ duration := by
  obtain ⟨start, stop, hread, -, -, hseconds, -⟩ := (indexAssignment_eq_ok ..).mp ha
  obtain ⟨start', stop', hread', hseconds'⟩ := (baseAssignment_eq_ok ..).mp hb
  have hstart : start = start' := Except.ok.inj (hread.start_eq.symm.trans hread'.start_eq)
  have hstop : stop = stop' := Except.ok.inj (hread.stop_eq.symm.trans hread'.stop_eq)
  rw [hstart, hstop, hseconds'] at hseconds
  exact ⟨b.durationSeconds, hread'.duration.1, a.durationTicks, by rw [hseconds, Int.mul_comm]⟩

section Index
variable {ε ε' : Type} {read : Nat → List String → Json → Except ε BaseAssignment}

theorem indexAssignments_transfer
    (read' : Nat → List String → Json → Except ε' BaseAssignment) (raws : List Json)
    (index : Nat) (seen : List String) (assignments : List BaseAssignment)
    (h : indexAssignments read index seen raws = .ok assignments)
    (hread : ∀ raw ∈ raws, ∀ index seen a, read index seen raw = .ok a →
      read' index seen raw = .ok a) :
    indexAssignments read' index seen raws = .ok assignments := by
  induction raws generalizing index seen assignments with
  | nil =>
    injection h with h
    rw [indexAssignments, h]
  | cons raw rest ih =>
    simp only [indexAssignments, bind_eq_ok, pure, Except.pure, Except.ok.injEq] at h ⊢
    obtain ⟨a, ha, others, hothers, hout⟩ := h
    exact ⟨a, hread raw (List.mem_cons_self ..) _ _ a ha, others,
      ih _ _ _ hothers fun r hr => hread r (List.mem_cons_of_mem raw hr), hout⟩

theorem indexAssignments_mem (raws : List Json) (index : Nat) (seen : List String)
    (assignments : List BaseAssignment)
    (h : indexAssignments read index seen raws = .ok assignments) :
    ∀ raw ∈ raws, ∃ index seen a, read index seen raw = .ok a := by
  induction raws generalizing index seen assignments with
  | nil => simp
  | cons raw rest ih =>
    simp only [indexAssignments, bind_eq_ok] at h
    obtain ⟨a, ha, others, hothers, -⟩ := h
    intro r hr
    cases List.mem_cons.mp hr with
    | inl heq => exact ⟨index, seen, a, heq ▸ ha⟩
    | inr hrest => exact ih _ _ _ hothers r hrest

theorem indexAssignments_result (raws : List Json) (index : Nat) (seen : List String)
    (assignments : List BaseAssignment)
    (h : indexAssignments read index seen raws = .ok assignments) :
    ∀ a ∈ assignments, ∃ index seen raw, raw ∈ raws ∧ read index seen raw = .ok a := by
  induction raws generalizing index seen assignments with
  | nil =>
    injection h with h
    subst h
    simp
  | cons raw rest ih =>
    simp only [indexAssignments, bind_eq_ok] at h
    obtain ⟨a, ha, others, hothers, hout⟩ := h
    injection hout with hout
    subst hout
    intro b hb
    cases List.mem_cons.mp hb with
    | inl heq => exact ⟨index, seen, raw, List.mem_cons_self .., heq ▸ ha⟩
    | inr hrest =>
      obtain ⟨i, s, r, hr, hread⟩ := ih _ _ _ hothers b hrest
      exact ⟨i, s, r, List.mem_cons_of_mem raw hr, hread⟩

end Index

/-! ### Reading the inputs -/

theorem requireBaseSchedule_eq_ok
    (otherDocument : String → Json → Except P4ContractError Unit) (base : Json) :
    Projector.requireBaseSchedule otherDocument base = .ok () ↔
      Projector.requireBaseContract otherDocument base = .ok () ∧
        (∃ id, base.get "schedule_version_id" = .str id ∧ Projector.IsIdentifier id) ∧
        (base.get "state").pyEq (.str "PUBLISHED") = true ∧
        ((base.get "data_plane").pyEq (.str "SIMULATION") = true ∧
          (base.get "synthetic" matches .bool true) ∧
          IsolatedEnvironment (base.get "environment")) := by
  simp only [Projector.requireBaseSchedule, bind_eq_ok, exists_unit_iff, identifier_eq_ok,
    require_eq_ok]
  constructor
  · intro hall
    obtain ⟨hcontract, id, hid, hstate, hplane⟩ := hall
    exact ⟨hcontract, ⟨id, hid⟩, hstate, hplane⟩
  · intro hall
    obtain ⟨hcontract, ⟨id, hid⟩, hstate, hplane⟩ := hall
    exact ⟨hcontract, id, hid, hstate, hplane⟩

theorem mem_keys_of_get (value : Json) (key text : String) (h : value.get key = .str text) :
    key ∈ value.keys := by
  cases value with
  | obj members =>
    simp only [Json.get] at h
    split at h
    · rename_i member hfind
      have hmem := List.mem_of_find?_eq_some hfind
      have hkey : member.1 = key := by simpa using List.find?_some hfind
      exact hkey ▸ List.mem_map_of_mem hmem
    · cases h
  | _ => cases h

/-- The list of assignments behind an accepted content. -/
theorem assignmentIndex_eq_ok (base : Json) (tick : Int) (assignments : List BaseAssignment) :
    Projector.assignmentIndex base tick = .ok assignments ↔
      (base.get "content").isObj = true ∧
        (base.get "content").get "assignments" = .arr (baseAssignmentDocuments base) ∧
        indexAssignments (Projector.indexAssignment (base.get "schedule_version_id").text tick) 0 []
          (baseAssignmentDocuments base) = .ok assignments := by
  simp only [Projector.assignmentIndex, bind_eq_ok, mapping_eq_ok]
  constructor
  · intro hall
    obtain ⟨_, ⟨hobj, rfl⟩, items, hitems, hindex⟩ := hall
    unfold Projector.sequence at hitems
    split at hitems
    · rename_i raws hraws
      injection hitems with hitems
      subst hitems
      have hdocuments : baseAssignmentDocuments base = raws := by
        simp only [baseAssignmentDocuments, hraws]
      rw [hdocuments]
      exact ⟨hobj, hraws, hindex⟩
    · cases hitems
  · intro hall
    obtain ⟨hobj, hraws, hindex⟩ := hall
    refine ⟨_, ⟨hobj, rfl⟩, baseAssignmentDocuments base, ?_, hindex⟩
    rw [hraws]
    rfl

theorem baseAssignments_eq_ok (otherDocument : String → Json → Except P4ContractError Unit)
    (base : Json) (assignments : List BaseAssignment) :
    Precheck.baseAssignments otherDocument base = .ok assignments ↔
      Precheck.requireBaseContract otherDocument base = .ok () ∧
        (base.get "state").pyEq (.str "PUBLISHED") = true ∧
        ((base.get "data_plane").pyEq (.str "SIMULATION") = true ∧
          (base.get "synthetic" matches .bool true) ∧
          IsolatedEnvironment (base.get "environment")) ∧
        (base.get "content").isObj = true ∧
        (base.get "content").get "assignments" = .arr (baseAssignmentDocuments base) ∧
        indexAssignments (Precheck.baseAssignment (Projector.scheduleIdText base)) 0 []
          (baseAssignmentDocuments base) = .ok assignments := by
  simp only [Precheck.baseAssignments, bind_eq_ok, exists_unit_iff, require_eq_ok,
    asMapping_eq_ok]
  constructor
  · intro hall
    obtain ⟨hcontract, hstate, hplane, _, ⟨hobj, rfl⟩, items, hitems, hindex⟩ := hall
    unfold Precheck.asList at hitems
    split at hitems
    · rename_i raws hraws
      injection hitems with hitems
      subst hitems
      have hdocuments : baseAssignmentDocuments base = raws := by
        simp only [baseAssignmentDocuments, hraws]
      rw [hdocuments]
      exact ⟨hcontract, hstate, hplane, hobj, hraws, hindex⟩
    · cases hitems
  · intro hall
    obtain ⟨hcontract, hstate, hplane, hobj, hraws, hindex⟩ := hall
    refine ⟨hcontract, hstate, hplane, _, ⟨hobj, rfl⟩, baseAssignmentDocuments base, ?_, hindex⟩
    rw [hraws]
    rfl

/-- A resolved policy is the approved one, and the window starts at the cutoff. -/
theorem resolve_ok (otherDocument : String → Json → Except P4ContractError Unit) (policy : Json)
    (snapshot : ImmutablePlanningSnapshot) (resolved : ResolvedFreezePolicy)
    (h : resolveSimulationFreezePolicy otherDocument policy snapshot = .ok resolved) :
    (∃ version, requireP4Document otherDocument policy = .ok version) ∧
      policy.pyEq simulationReplanPolicy = true ∧
      ∃ start window stop, utcMoment snapshot.document.cutoffAtUtc = .ok start ∧
        (policy.get "freeze_policy").get "window_seconds" = .int window ∧ 1 ≤ window ∧
        start.instant.addSeconds window = some stop ∧
        resolved = Precheck.policyResolution policy window snapshot.document.cutoffAtUtc
          ⟨stop, start.aware⟩ := by
  simp only [resolveSimulationFreezePolicy, bind_eq_ok, exists_unit_iff, require_eq_ok,
    orReject_eq_ok] at h
  obtain ⟨-, version, hversion, hpolicy, -, -, start, hstart, h⟩ := h
  have hmoment : utcMoment snapshot.document.cutoffAtUtc = .ok start := by
    unfold policyUtcSecond at hstart
    split at hstart
    · rename_i moment hmoment
      injection hstart with hstart
      rw [hmoment, hstart]
    · cases hstart
    · cases hstart
    · cases hstart
  refine ⟨⟨version, hversion⟩, hpolicy, start, ?_⟩
  split at h
  · rename_i window hwindow
    simp only [bind_eq_ok, exists_unit_iff, require_eq_ok, orOverflow_eq_ok, pure, Except.pure,
      Except.ok.injEq] at h
    obtain ⟨hpos, stop, hstop, hresolved⟩ := h
    exact ⟨window, stop, hmoment, hwindow, hpos, hstop, hresolved.symm⟩
  · cases h

/-- What the projector has read when it starts to classify. -/
structure ProjectorInputs (otherDocument : String → Json → Except P4ContractError Unit)
    (snapshot : ImmutablePlanningSnapshot) (problem : ImmutablePlanningProblemV2)
    (base policy : Json) (i : Projector.Inputs) : Prop where
  snapshot_ok : verifySnapshot snapshot = .ok ()
  problem_ok : verifyProblemV2 problem = .ok ()
  base_ok : Projector.requireBaseSchedule otherDocument base = .ok ()
  policy_ok : ∃ version, requireP4Document otherDocument policy = .ok version
  approved : policy.pyEq simulationReplanPolicy = true
  plane : snapshot.dataPlane = .simulation
  lineage : problem.document.snapshotId = snapshot.snapshotId ∧
    problem.document.horizonStartUtc = snapshot.document.cutoffAtUtc
  cutoff : utcMoment snapshot.document.cutoffAtUtc = .ok i.cutoff
  horizonEnd : utcMoment problem.document.horizonEndUtc = .ok i.horizonEnd
  window : ∃ seconds stop,
    (policy.get "freeze_policy").get "window_seconds" = .int seconds ∧ 1 ≤ seconds ∧
      i.cutoff.instant.addSeconds seconds = some stop ∧ i.freezeEnd = ⟨stop, i.cutoff.aware⟩ ∧
      i.resolved = Precheck.policyResolution policy seconds snapshot.document.cutoffAtUtc
        i.freezeEnd
  assignments : Projector.assignmentIndex base problem.document.tickSeconds = .ok i.assignments
  same : i.snapshot = snapshot ∧ i.problem = problem ∧ i.base = baseReference base

/-- The freeze window ends where its written end says: the cutoff has an offset, or the
written end would not be read back. -/
theorem freezeEnd_eq (start : Moment) (window : Int) (stop : Datetime) (freezeEnd : Moment)
    (text : String) (hstart : utcMoment text = .ok start)
    (hstop : start.instant.addSeconds window = some stop)
    (hread : utcMoment (formatMoment ⟨stop, start.aware⟩) = .ok freezeEnd) :
    freezeEnd = ⟨stop, start.aware⟩ := by
  obtain ⟨-, -, -, hwhole, -⟩ := (utcMoment_ok_iff ..).mp hstart
  cases haware : start.aware with
  | false =>
    rw [haware] at hread
    exact absurd hread (utcMoment_formatMoment_naive stop freezeEnd)
  | true =>
    have hstopWhole : stop.micros % 1000000 = 0 := by
      have := ((Datetime.addSeconds_eq_some ..).mp hstop)
      simp only [microsPerSecond] at this
      omega
    rw [haware, utcMoment_formatMoment stop hstopWhole] at hread
    injection hread with hread
    exact hread.symm

theorem project_ok (otherDocument : String → Json → Except P4ContractError Unit)
    (snapshot : ImmutablePlanningSnapshot) (problem : ImmutablePlanningProblemV2)
    (base policy : Json) (projection : EffectiveLocks)
    (h : projectEffectiveLocks otherDocument snapshot problem base policy = .ok projection) :
    ∃ i, ProjectorInputs otherDocument snapshot problem base policy i ∧
      Projector.classify i = .ok projection := by
  simp only [projectEffectiveLocks, bind_eq_ok, exists_unit_iff, require_eq_ok, orReject_eq_ok,
    mapError_eq_ok, utcSecond_eq_ok, utcMomentOf] at h
  obtain ⟨hsnapshot, hproblem, hbase, resolved, hresolved, hplane, hlineage, cutoff, hcutoff,
    freezeEnd, hfreeze, horizonEnd, hhorizon, assignments, hassignments, hclassify⟩ := h
  obtain ⟨hp4, happroved, start, window, stop, hstart, hwindow, hpos, hstop, hresolution⟩ :=
    resolve_ok _ _ _ _ hresolved
  have hcutoffEq : start = cutoff := Except.ok.inj (hstart.symm.trans hcutoff)
  subst hcutoffEq
  rw [hresolution] at hfreeze
  have hend := freezeEnd_eq start window stop freezeEnd _ hstart hstop hfreeze
  refine ⟨⟨snapshot, problem, baseReference base, resolved, start, freezeEnd, horizonEnd,
    assignments⟩, ?_, hclassify⟩
  exact ⟨hsnapshot, hproblem, hbase, hp4, happroved, hplane, hlineage, hcutoff, hhorizon,
    ⟨window, stop, hwindow, hpos, hstop, hend, by rw [hresolution, hend]⟩, hassignments,
    rfl, rfl, rfl⟩

theorem classify_agrees {otherDocument : String → Json → Except P4ContractError Unit}
    {snapshot : ImmutablePlanningSnapshot} {problem : ImmutablePlanningProblemV2}
    {base policy : Json} {i : Projector.Inputs}
    (h : ProjectorInputs otherDocument snapshot problem base policy i) :
    Agree (Projector.classify i) (Precheck.classify i) := by
  apply agree_classify
  · intro lock hlock
    rw [h.same.2.1] at hlock
    obtain ⟨hbuilt, -⟩ := (Problem.verifyProblemV2_eq_ok problem).mp h.problem_ok
    obtain ⟨horizonStart, horizonEnd, facts⟩ := Problem.builtProblem_facts problem.document hbuilt
    obtain ⟨operation, start, stop, hfacts⟩ := facts.locks lock hlock
    rw [Projector.Inputs.activeIds, h.same.2.1]
    exact hfacts.operation_eq ▸ List.mem_map_of_mem hfacts.mem
  · intro a ha
    obtain ⟨-, -, hindex⟩ := (assignmentIndex_eq_ok ..).mp h.assignments
    obtain ⟨index, seen, raw, -, hread⟩ := indexAssignments_result _ _ _ _ hindex a ha
    obtain ⟨start, stop, hreadable, -, ⟨resourceId, hresource, -⟩, -, -⟩ :=
      (indexAssignment_eq_ok ..).mp hread
    refine ⟨resourceId, ?_⟩
    rw [hreadable.value]
    exact hresource

theorem tick_pos {otherDocument : String → Json → Except P4ContractError Unit}
    {snapshot : ImmutablePlanningSnapshot} {problem : ImmutablePlanningProblemV2}
    {base policy : Json} {i : Projector.Inputs}
    (h : ProjectorInputs otherDocument snapshot problem base policy i) :
    0 < problem.document.tickSeconds := by
  obtain ⟨hbuilt, -⟩ := (Problem.verifyProblemV2_eq_ok problem).mp h.problem_ok
  obtain ⟨horizonStart, horizonEnd, facts⟩ := Problem.builtProblem_facts problem.document hbuilt
  exact facts.tick_pos

/-- **The precheck recomputes a projection exactly when the base durations are on the
grid**; otherwise it refuses the base schedule. -/
theorem expected_iff_onGrid (otherDocument : String → Json → Except P4ContractError Unit)
    (snapshot : ImmutablePlanningSnapshot) (problem : ImmutablePlanningProblemV2)
    (base policy : Json) (projection expected : EffectiveLocks)
    (h : projectEffectiveLocks otherDocument snapshot problem base policy = .ok projection) :
    Precheck.expectedProjection otherDocument snapshot problem base policy = .ok expected ↔
      BaseDurationsOnGrid base problem.document.tickSeconds ∧ expected = projection := by
  obtain ⟨i, hi, hclassify⟩ := project_ok _ _ _ _ _ _ h
  obtain ⟨hcontract, ⟨scheduleId, hid, -⟩, hstate, hplaneBase⟩ :=
    (requireBaseSchedule_eq_ok ..).mp hi.base_ok
  obtain ⟨hobj, hraws, hindex⟩ := (assignmentIndex_eq_ok ..).mp hi.assignments
  obtain ⟨seconds, stop, hwindow, hpos, hstop, hend, hresolved⟩ := hi.window
  simp only [Precheck.expectedProjection, bind_eq_ok, exists_unit_iff, require_eq_ok,
    orReject_eq_ok, utc_eq_ok, utcMomentOf, orOverflow_eq_ok, baseAssignments_eq_ok, pure,
    Except.pure, Except.ok.injEq]
  constructor
  · intro hexpected
    obtain ⟨-, -, -, -, -, -, -, assignments, ⟨-, -, -, -, -, hread⟩, cutoff, hcutoff,
      horizonEnd, hhorizon, window, hwindow', stop', hstop', result, hresult, -, heq⟩ := hexpected
    subst heq
    have hgrid : BaseDurationsOnGrid base problem.document.tickSeconds := by
      intro raw hraw
      obtain ⟨_, _, a, ha⟩ := indexAssignments_mem _ _ _ _ hindex raw hraw
      obtain ⟨_, _, b, hb⟩ := indexAssignments_mem _ _ _ _ hread raw hraw
      exact dvd_of_both _ _ _ _ _ _ _ _ _ _ ha hb
    have hsameReading : assignments = i.assignments := by
      have hprecheck := indexAssignments_transfer
        (Precheck.baseAssignment (Projector.scheduleIdText base)) _ _ _ _ hindex fun raw hraw index seen a ha =>
          baseAssignment_of_index _ _ _ _ _ _ _ ha (tick_pos hi) (hgrid raw hraw)
      exact Except.ok.inj (hread.symm.trans hprecheck)
    have hcutoffEq : cutoff = i.cutoff := Except.ok.inj (hcutoff.symm.trans hi.cutoff)
    have hhorizonEq : horizonEnd = i.horizonEnd :=
      Except.ok.inj (hhorizon.symm.trans hi.horizonEnd)
    have hwindowEq : window = seconds := by
      simp only [Precheck.windowSeconds, (intAtLeast_eq_some ..).mpr ⟨hwindow, hpos⟩] at hwindow'
      injection hwindow' with hwindow'
      exact hwindow'.symm
    subst hcutoffEq hhorizonEq hwindowEq hsameReading
    have hstopEq : stop' = stop := Option.some.inj (hstop'.symm.trans hstop)
    subst hstopEq
    rw [← hend, ← hresolved, ← hi.same.1, ← hi.same.2.1, ← hi.same.2.2] at hresult
    exact ⟨hgrid, Except.ok.inj (hresult.symm.trans ((classify_agrees hi).iff _ |>.mp hclassify))⟩
  · intro hall
    obtain ⟨hgrid, heq⟩ := hall
    subst heq
    have hprecheck := indexAssignments_transfer
      (Precheck.baseAssignment (Projector.scheduleIdText base)) _ _ _ _ hindex fun raw hraw index seen a ha =>
        baseAssignment_of_index _ _ _ _ _ _ _ ha (tick_pos hi) (hgrid raw hraw)
    obtain ⟨version, hversion⟩ := hi.policy_ok
    refine ⟨hi.snapshot_ok, hi.problem_ok, version, hversion, hi.plane, hi.approved, hi.lineage,
      i.assignments, ⟨((agree_baseContract ..).iff ()).mp hcontract, hstate, hplaneBase, hobj,
        hraws, hprecheck⟩, i.cutoff, hi.cutoff, i.horizonEnd, hi.horizonEnd, seconds, ?_, stop,
      hstop, expected, ?_, mem_keys_of_get _ _ _ hid, rfl⟩
    · simp only [Precheck.windowSeconds, (intAtLeast_eq_some ..).mpr ⟨hwindow, hpos⟩]
    · rw [← hend, ← hresolved, ← hi.same.1, ← hi.same.2.1, ← hi.same.2.2]
      exact ((classify_agrees hi).iff _).mp hclassify

/-! ### Inputs that are projected -/

theorem approvedPolicy_ok (otherDocument : String → Json → Except P4ContractError Unit) :
    requireP4Document otherDocument simulationReplanPolicy = .ok "planning-policy.v2" := by
  rfl

theorem approvedPolicy_self : simulationReplanPolicy.pyEq simulationReplanPolicy = true := by
  decide +kernel

/-- The approved policy resolves against every verified simulation snapshot whose window
is in range. -/
theorem resolve_eq_ok (otherDocument : String → Json → Except P4ContractError Unit)
    (snapshot : ImmutablePlanningSnapshot) (start : Moment) (stop : Datetime)
    (hsnapshot : verifySnapshot snapshot = .ok ()) (hplane : snapshot.dataPlane = .simulation)
    (hstart : utcMoment snapshot.document.cutoffAtUtc = .ok start)
    (hstop : start.instant.addSeconds simulationFreezeWindowSeconds = some stop) :
    resolveSimulationFreezePolicy otherDocument simulationReplanPolicy snapshot =
      .ok (Precheck.policyResolution simulationReplanPolicy simulationFreezeWindowSeconds
        snapshot.document.cutoffAtUtc ⟨stop, start.aware⟩) := by
  have hverified := (verifySnapshot_eq_ok snapshot).mp hsnapshot
  have hsynthetic : snapshot.document.synthetic = true := by
    have hexpected := hverified.plane
    rw [hplane, expectedPlane] at hexpected
    by_contra hne
    rw [if_neg hne] at hexpected
    cases hexpected
  have hread : policyUtcSecond snapshot.document.cutoffAtUtc "snapshot.cutoff_at_utc" =
      .ok start := by
    rw [policyUtcSecond, hstart]
  have hwindow : (simulationReplanPolicy.get "freeze_policy").get "window_seconds" =
      .int simulationFreezeWindowSeconds := rfl
  simp only [resolveSimulationFreezePolicy, bind_eq_ok, exists_unit_iff, require_eq_ok,
    orReject_eq_ok]
  refine ⟨by decide +kernel, _, approvedPolicy_ok otherDocument, approvedPolicy_self, hsnapshot,
    ⟨hplane, hsynthetic⟩, start, hread, ?_⟩
  simp only [hwindow, bind_eq_ok, exists_unit_iff, require_eq_ok, orOverflow_eq_ok, pure,
    Except.pure, Except.ok.injEq]
  exact ⟨by decide, stop, hstop, rfl⟩

/-- **The projector classifies what it has read**: inputs that pass every check before the
classification, resolved by the approved policy. -/
theorem project_of_inputs (otherDocument : String → Json → Except P4ContractError Unit)
    (snapshot : ImmutablePlanningSnapshot) (problem : ImmutablePlanningProblemV2) (base : Json)
    (i : Projector.Inputs)
    (h : ProjectorInputs otherDocument snapshot problem base simulationReplanPolicy i)
    (haware : i.cutoff.aware = true) :
    projectEffectiveLocks otherDocument snapshot problem base simulationReplanPolicy =
      Projector.classify i := by
  obtain ⟨seconds, stop, hwindow, -, hstop, hend, hresolved⟩ := h.window
  have hseconds : seconds = simulationFreezeWindowSeconds := by
    injection hwindow with hwindow
    exact hwindow.symm
  subst hseconds
  obtain ⟨-, -, -, hwhole, -⟩ := (utcMoment_ok_iff ..).mp h.cutoff
  have hstopWhole : stop.micros % 1000000 = 0 := by
    have := ((Datetime.addSeconds_eq_some ..).mp hstop)
    simp only [microsPerSecond] at this
    omega
  have hresolve := resolve_eq_ok otherDocument snapshot i.cutoff stop h.snapshot_ok h.plane
    h.cutoff hstop
  have hfreeze : utcMoment i.resolved.effectiveUntilUtc = .ok i.freezeEnd := by
    rw [hresolved, hend, haware]
    exact utcMoment_formatMoment stop hstopWhole
  rw [← hend, ← hresolved] at hresolve
  have hsame : i = ⟨snapshot, problem, baseReference base, i.resolved, i.cutoff, i.freezeEnd,
      i.horizonEnd, i.assignments⟩ := by
    rw [← h.same.1, ← h.same.2.1, ← h.same.2.2]
  have hread : ∀ {value : String} {moment : Moment} (field entityId : String),
      utcMoment value = .ok moment →
        Projector.utcSecond (.str value) field entityId = .ok moment :=
    fun field entityId hmoment => (utcSecond_eq_ok ..).mpr hmoment
  simp only [projectEffectiveLocks, h.snapshot_ok, h.problem_ok, h.base_ok, hresolve, h.plane,
    h.lineage, hread _ _ h.cutoff, hread _ _ hfreeze, hread _ _ h.horizonEnd, h.assignments,
    orReject, Except.mapError, require, bind, Except.bind, and_self, if_true]
  rw [← hsame]

end PlantNexus.Freeze
