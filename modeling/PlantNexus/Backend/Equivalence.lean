import PlantNexus.Backend.Mapping
import PlantNexus.Plan.Judged

/-! The core model and the independent validator agree.

A valuation satisfies the core model exactly when it selects a feasible plan, and the
validator passes the mapped candidate exactly when that plan is feasible. -/
namespace PlantNexus.Backend
open Data Time Domain Problem CpSat Validation Plan

/-! ### The model -/

section
variable {problem : PlanningProblem} {horizonStart horizonEnd : Datetime} {horizonTicks : Int}
  (h : PrecheckFacts problem horizonStart horizonEnd horizonTicks)
include h

theorem posts_factLocks :
    Posts problem (addFactLockConstraints problem (coreOperations problem)) fun _ plan =>
      (∀ fact ∈ problem.operationInstances, fact.status = .running → ∀ p ∈ plan,
        p.operationId = fact.operationId → p.start = 0 ∧
          (∀ remaining, fact.remainingSeconds = some remaining →
            p.stop = durationTicks remaining problem.tickSeconds) ∧
          fact.assignedResourceId = some p.resourceId) ∧
      ∀ lock ∈ problem.operationLocks, lock.lockType = .hardLock → ∀ p ∈ plan,
        lock.operationId = p.operationId → KeepsLock problem p lock := by
  obtain ⟨running, hrunning, hfacts⟩ := posts_collect _ problem.operationInstances _
    fun fact hm => posts_runningConstraints h fact hm
  obtain ⟨locks, hlocks, hlocked⟩ := posts_collect _ problem.operationLocks _
    fun lock hm => posts_lockConstraints h lock hm
  obtain ⟨runningLists, hrunningLists, hflat⟩ := bind_eq_ok.mp hrunning
  obtain ⟨lockLists, hlockLists, hflat'⟩ := bind_eq_ok.mp hlocks
  injection hflat with hflat
  injection hflat' with hflat'
  subst hflat hflat'
  refine ⟨_, bind_eq_ok.mpr ⟨runningLists, hrunningLists,
    bind_eq_ok.mpr ⟨lockLists, hlockLists, rfl⟩⟩, fun ν plan hsel => ?_⟩
  rw [List.forall_mem_append, hfacts ν plan hsel, hlocked ν plan hsel]

theorem posts_precedence :
    Posts problem (addPrecedenceAndTransport problem (coreOperations problem)) fun _ plan =>
      ∀ edge ∈ problem.precedenceEdges,
        (∀ p ∈ plan, ∀ q ∈ plan, p.operationId = edge.predecessorOperationId →
          q.operationId = edge.successorOperationId →
            LagFits problem edge p.resourceId q.resourceId
              (tickMicros problem q.start - tickMicros problem p.stop)) ∧
        ∀ anchor ∈ problem.historicalCompletionAnchors, ∀ q ∈ plan,
          anchor.operationId = edge.predecessorOperationId →
            q.operationId = edge.successorOperationId →
              LagFits problem edge anchor.resourceId q.resourceId
                (tickMicros problem q.start - instantMicros anchor.actualEndAtUtc) :=
  posts_collect _ _ _ fun edge hm => posts_edgeConstraints h edge hm

theorem posts_gates :
    Posts problem (addReleaseAndMaterialGates problem (coreOperations problem)) fun _ plan =>
      ∀ fact ∈ problem.operationInstances, ∀ p ∈ plan, p.operationId = fact.operationId →
        instantMicros fact.releaseAtUtc ≤ tickMicros problem (max 0 p.start) ∧
          instantMicros fact.materialReadyAtUtc ≤ tickMicros problem (max 0 p.start) :=
  posts_collect _ _ _ fun fact hm => posts_operationGates h fact hm

omit h in
/-- The variables stay in the horizon's ticks. -/
theorem domains_iff (ν : Valuation) (plan : List Placement) (hsel : Selects problem ν plan)
    (ticks : Int) :
    (∀ d ∈ (coreOperations problem).flatMap (operationDomains ticks),
      d.lower ≤ ν.int d.var ∧ ν.int d.var ≤ d.upper) ↔
      ∀ p ∈ plan, (0 ≤ p.start ∧ p.start ≤ ticks) ∧ 0 ≤ p.stop ∧ p.stop ≤ ticks := by
  rw [List.forall_mem_flatMap]
  have hone : ∀ operation p, Selected problem.tickSeconds ν operation p →
      ((∀ d ∈ operationDomains ticks operation, d.lower ≤ ν.int d.var ∧ ν.int d.var ≤ d.upper) ↔
        (0 ≤ p.start ∧ p.start ≤ ticks) ∧ 0 ≤ p.stop ∧ p.stop ≤ ticks) := by
    intro operation p hselected
    rw [← hselected.start, ← hselected.stop]
    simp [operationDomains]
  constructor
  · intro hall p hp
    obtain ⟨operation, hm, hselected⟩ := forall₂_exists_left hsel.selected hp
    exact (hone operation p hselected).mp (hall operation hm)
  · intro hall operation hm
    obtain ⟨p, hp, hselected⟩ := forall₂_exists_right hsel.selected hm
    exact (hone operation p hselected).mpr (hall p hp)

/-- The optional intervals give a placement its duration. -/
theorem assignmentConstraints_iff (ν : Valuation) (plan : List Placement)
    (hsel : Selects problem ν plan) :
    (∀ c ∈ (coreOperations problem).flatMap assignmentConstraints, c.Holds ν) ↔
      ∀ p ∈ plan, TakesDuration problem p := by
  rw [List.forall_mem_flatMap]
  have hone : ∀ operation, ∀ p ∈ plan, Selected problem.tickSeconds ν operation p →
      ((∀ c ∈ assignmentConstraints operation, c.Holds ν) ↔ TakesDuration problem p) := by
    intro operation p hp hselected
    have hnodup := (h.contract.operations _ (hsel.covers.mem hp)).options_nodup
    obtain ⟨option, hoption, hres, hfilter⟩ := hselected.filter_eq hnodup
    obtain ⟨hseconds, hticks⟩ := hselected.seconds option hoption hres
    have hunique : ∀ o ∈ operation.options, ν.bool o.presence = true → o = option := by
      intro o ho hpresent
      have hmem : o ∈ [option] := hfilter ▸ List.mem_filter.mpr ⟨ho, hpresent⟩
      exact List.mem_singleton.mp hmem
    have hexactly : (Constraint.exactlyOne (operation.options.map CoreOption.presence)).Holds ν := by
      rw [Constraint.Holds, List.filter_map, List.length_map]
      exact (congrArg List.length hfilter).trans rfl
    unfold assignmentConstraints
    rw [List.forall_mem_append, List.forall_mem_singleton, and_iff_left hexactly]
    simp only [List.forall_mem_map]
    constructor
    · intro hall
      have := hall option hoption ((hselected.present option hoption).mpr hres)
      refine ⟨option.durationSeconds, hseconds, ?_⟩
      simp only [CoreOperation.interval, Expr.eval, hselected.start, hselected.stop] at this
      omega
    · intro htakes o ho hpresent
      rw [hunique o ho hpresent]
      obtain ⟨seconds, hseconds', hdiff⟩ := htakes
      rw [takesSeconds_unique hseconds' hseconds, ← hticks] at hdiff
      simp only [CoreOperation.interval, Expr.eval, hselected.start, hselected.stop]
      omega
  constructor
  · intro hall p hp
    obtain ⟨operation, hm, hselected⟩ := forall₂_exists_left hsel.selected hp
    exact (hone operation p hp hselected).mp (hall operation hm)
  · intro hall operation hm
    obtain ⟨p, hp, hselected⟩ := forall₂_exists_right hsel.selected hm
    exact (hone operation p hp hselected).mpr (hall p hp)

omit h in
/-- A running placement ends with the remainder. -/
theorem running_stop {p : Placement} (hstatus : p.operation.status = .running) {remaining : Int}
    (hremaining : p.operation.remainingSeconds = some remaining)
    (htakes : TakesDuration problem p) :
    p.stop - p.start = durationTicks remaining problem.tickSeconds := by
  obtain ⟨seconds, hseconds, hdiff⟩ := htakes
  have : p.operation.remainingSeconds = some seconds := by
    simpa [TakesSeconds, hstatus] using hseconds
  rw [hremaining] at this
  injection this with this
  rw [hdiff, this]

/-- A feasible placement stays in the model's ticks, a running one because its remainder
fits. -/
theorem placement_inside {plan : List Placement} (hcovers : Covers problem plan)
    (hfeasible : Feasible problem plan) :
    ∀ p ∈ plan, 0 ≤ p.start ∧ p.stop ≤ horizonTicks := by
  intro p hp
  cases hstatus : p.operation.status with
  | notStarted => exact (inside_iff h _ _).mp (hfeasible.inside p hp hstatus)
  | running =>
    obtain ⟨-, hstart⟩ := hfeasible.running p hp hstatus
    obtain ⟨_, _, remaining, hfacts⟩ :=
      (h.contract.operations _ (hcovers.mem hp)).running hstatus
    have hstop := running_stop hstatus hfacts.remaining_eq (hfeasible.duration p hp)
    have := h.running _ (hcovers.mem hp) hstatus remaining hfacts.remaining_eq
    omega

/-- Every placement's resource has a calendar. -/
theorem placement_calendar {plan : List Placement} (hcovers : Covers problem plan)
    {blocks : List (String × List Block)}
    (hids : blocks.map Prod.fst = sortByKey id (problem.resources.map Resource.resourceId))
    {p : Placement} (hp : p ∈ plan) : ∃ b ∈ blocks, b.1 = p.resourceId := by
  have hdeclared := ((h.contract.operations _ (hcovers.mem hp)).options p.option
    (hcovers.options p hp)).resource
  have hmem : p.resourceId ∈ blocks.map Prod.fst := by
    rw [hids, mem_sortByKey]
    exact hdeclared
  exact List.mem_map.mp hmem

/-- **The core model is built, selects plans, and is satisfied by the feasible ones.** -/
theorem coreModel_spec (precheck : CorePrecheck) (hprecheck : precheckCoreProblem problem = .ok precheck)
    (hticks : precheck.horizonTicks = horizonTicks) :
    ∃ core : CoreCpSatModel, core.operations = coreOperations problem ∧
      (∀ validate : Model → Bool, validate core.model = true →
        buildCoreModel validate problem = .ok core) ∧
      (∀ validate core', buildCoreModel validate problem = .ok core' → core' = core) ∧
      (∀ ν, core.model.Satisfied ν → ∃ plan, Selects problem ν plan) ∧
      ∀ ν plan, Selects problem ν plan →
        (core.model.Satisfied ν ↔ Feasible problem plan) := by
  obtain ⟨factLocks, hfactLocks, hfacts⟩ := posts_factLocks h
  obtain ⟨precedence, hprecedence, hlags⟩ := posts_precedence h
  obtain ⟨gates, hgates, hgated⟩ := posts_gates h
  obtain ⟨blocks, hblocks, hids, hcalendar⟩ := calendarTickBlocks_ok h
  have htemporal : addTemporalConstraints problem (coreOperations problem) precheck.horizonTicks =
      .ok (precedence ++ gates ++
        ((calendarIntervals blocks).flatMap Prod.snd).map Constraint.interval,
        calendarIntervals blocks) := by
    rw [hticks]
    exact bind_eq_ok.mpr ⟨precedence, hprecedence, bind_eq_ok.mpr ⟨gates, hgates,
      bind_eq_ok.mpr ⟨blocks, hblocks, rfl⟩⟩⟩
  let model : Model :=
    ⟨(coreOperations problem).flatMap (operationDomains precheck.horizonTicks),
      (coreOperations problem).flatMap assignmentConstraints ++ factLocks ++
        (precedence ++ gates ++
          ((calendarIntervals blocks).flatMap Prod.snd).map Constraint.interval) ++
        (sortByKey id (problem.resources.map Resource.resourceId)).flatMap
          (noOverlapConstraint (coreOperations problem) (calendarIntervals blocks))⟩
  have hbuild : ∀ validate, buildCoreModel validate problem =
      (require (validate model = true)
        (.value "Pinned CP-SAT rejected the constructed core model") >>= fun _ =>
          .ok ⟨model, coreOperations problem, precheck.horizonTicks⟩) := by
    intro validate
    unfold buildCoreModel
    rw [hprecheck]
    change (addFactLockConstraints problem (coreOperations problem) >>= _) = _
    rw [hfactLocks]
    change (addTemporalConstraints problem (coreOperations problem) precheck.horizonTicks >>= _) = _
    rw [htemporal]
    rfl
  refine ⟨⟨model, coreOperations problem, precheck.horizonTicks⟩, rfl, ?_, ?_, ?_, ?_⟩
  · intro validate hvalidate
    rw [hbuild, bind_unit_eq_ok, require_eq_ok]
    exact ⟨hvalidate, rfl⟩
  · intro validate core' hok
    rw [hbuild, bind_unit_eq_ok] at hok
    injection hok.2 with heq
    exact heq.symm
  · intro ν hsat
    refine selects_of_exactlyOne h.contract ν fun operation hm => hsat.constraints _ ?_
    refine List.mem_append_left _ (List.mem_append_left _ (List.mem_append_left _ ?_))
    exact List.mem_flatMap.mpr ⟨operation, hm, List.mem_append_right _ (List.mem_singleton_self _)⟩
  · intro ν plan hsel
    have hblockIntervals : ∀ c ∈ ((calendarIntervals blocks).flatMap Prod.snd).map
        (Constraint.interval : Interval → Constraint), c.Holds ν := by
      intro c hc
      obtain ⟨i, hi, rfl⟩ := List.mem_map.mp hc
      obtain ⟨calendar, hcal, hi⟩ := List.mem_flatMap.mp hi
      obtain ⟨b, -, rfl⟩ := List.mem_map.mp hcal
      obtain ⟨block, -, rfl⟩ := List.mem_map.mp hi
      intro _
      simp only [blockInterval, Expr.eval]
      omega
    have hsat : model.Satisfied ν ↔
        (∀ d ∈ model.domains, d.lower ≤ ν.int d.var ∧ ν.int d.var ≤ d.upper) ∧
          ∀ c ∈ model.constraints, c.Holds ν :=
      ⟨fun hs => ⟨hs.1, hs.2⟩, fun hs => ⟨hs.1, hs.2⟩⟩
    rw [hsat, domains_iff ν plan hsel]
    simp only [model, List.forall_mem_append, assignmentConstraints_iff h ν plan hsel,
      hfacts ν plan hsel, hlags ν plan hsel, hgated ν plan hsel,
      holds_noOverlap h ν plan hsel blocks hids fun b hb => (hcalendar b hb).2.1, hticks]
    constructor
    · intro hall
      obtain ⟨hdomain, ⟨⟨hduration, hrunning, hlocked⟩, ⟨hedges, hgate⟩, -⟩, hapart, hblock⟩ := hall
      have hpos : ∀ p ∈ plan, p.start < p.stop := fun p hp =>
        start_lt_stop h.contract hsel.covers hp (hduration p hp)
      exact
        { duration := hduration
          inside := fun p hp _ => (inside_iff h _ _).mpr ⟨(hdomain p hp).1.1, (hdomain p hp).2.2⟩
          running := fun p hp hstatus => by
            obtain ⟨hstart, -, hres⟩ := hrunning _ (hsel.covers.mem hp) hstatus p hp rfl
            exact ⟨hres, hstart⟩
          locked := fun p hp lock hlock htype hid => hlocked lock hlock htype p hp hid
          gated := fun p hp => by
            have := hgate _ (hsel.covers.mem hp) p hp rfl
            rwa [max_eq_right (hdomain p hp).1.1] at this
          follows := fun edge hedge => (hedges edge hedge).1
          followsCompleted := fun edge hedge => (hedges edge hedge).2
          apart := hapart
          calendar := fun p hp interval hinterval hres => by
            obtain ⟨b, hb, hbid⟩ := placement_calendar h hsel.covers hids hp
            exact ((hcalendar b hb).2.2 p.start p.stop (hdomain p hp).1.1 (hpos p hp)
              (hdomain p hp).2.2).mp (hblock p hp b hb hbid) interval hinterval
              (hres.trans hbid.symm) }
    · intro hfeasible
      have hpos : ∀ p ∈ plan, p.start < p.stop := fun p hp =>
        start_lt_stop h.contract hsel.covers hp (hfeasible.duration p hp)
      have hinside := placement_inside h hsel.covers hfeasible
      refine ⟨fun p hp => ?_, ⟨⟨hfeasible.duration, ?_, ?_⟩, ⟨?_, ?_⟩, hblockIntervals⟩,
        hfeasible.apart, ?_⟩
      · have := hinside p hp
        have := hpos p hp
        omega
      · intro fact hm hstatus p hp hid
        have hsame : p.operation = fact :=
          List.inj_on_of_nodup_map h.contract.operations_nodup (hsel.covers.mem hp) hm hid
        subst hsame
        obtain ⟨hres, hstart⟩ := hfeasible.running p hp hstatus
        refine ⟨hstart, fun remaining hremaining => ?_, hres⟩
        have := running_stop hstatus hremaining (hfeasible.duration p hp)
        omega
      · intro lock hlock htype p hp hid
        exact hfeasible.locked p hp lock hlock htype hid
      · intro edge hedge
        exact ⟨hfeasible.follows edge hedge, hfeasible.followsCompleted edge hedge⟩
      · intro fact hm p hp hid
        have hsame : p.operation = fact :=
          List.inj_on_of_nodup_map h.contract.operations_nodup (hsel.covers.mem hp) hm hid
        rw [max_eq_right (hinside p hp).1, ← hsame]
        exact hfeasible.gated p hp
      · intro p hp b hb hbid
        refine ((hcalendar b hb).2.2 p.start p.stop (hinside p hp).1 (hpos p hp)
          (hinside p hp).2).mpr fun interval hinterval hres => ?_
        exact hfeasible.calendar p hp interval hinterval (hres.trans hbid)

end

/-! ### The candidate -/

/-- The validator's reading of one written assignment. -/
def readBack (index : Nat) (a : OperationAssignment) : Assignment :=
  readAssignment index a.toJson a.operationId

theorem candidateAssignments_document (problem : PlanningProblem)
    (values : List OperationAssignment)
    (hids : ∀ a ∈ values, isIdentifier a.operationId = true) :
    candidateAssignments (candidateDocument problem values) = values.mapIdx readBack := by
  have hread : (values.map OperationAssignment.toJson).mapIdx readEntry =
      (values.mapIdx readBack).map some := by
    apply List.ext_getElem
    · simp
    · intro i h₁ h₂
      have hi : i < values.length := by simpa using h₁
      have hid := hids values[i] (List.getElem_mem hi)
      simp [readEntry, readBack, OperationAssignment.toJson, isObject, Json.get, identifier, hid]
  show ((values.map OperationAssignment.toJson).mapIdx readEntry).filterMap id = _
  rw [hread, List.filterMap_map]
  exact List.filterMap_some

section
variable {problem : PlanningProblem} {horizonStart horizonEnd : Datetime} {horizonTicks : Int}
  (h : PrecheckFacts problem horizonStart horizonEnd horizonTicks)
include h

theorem tickMicros_whole (tick : Int) : microsPerSecond ∣ tickMicros problem tick := by
  rw [tickMicros_start h]
  exact Int.dvd_add h.start_whole (Int.dvd_mul_left _ _)

/-- A written tick instant is read back exactly. -/
theorem instant_format (d : Datetime) (tick : Int) (hd : d.micros = tickMicros problem tick) :
    instant (.str (formatUtcInstant d)) = some d := by
  have hwhole := Datetime.truncateToSecond_of_dvd d (hd ▸ tickMicros_whole h tick)
  simp only [instant, parseUtcInstant_formatUtcInstant, hwhole]
  rfl

theorem reads_readBack (p : Placement) (a : OperationAssignment) (index : Nat)
    (hmapped : Mapped problem p a) (hid : isIdentifier a.resourceId = true) :
    Reads problem p (readBack index a) := by
  obtain ⟨startAt, hs, hstartText⟩ := hmapped.startAt
  obtain ⟨endAt, he, hendText⟩ := hmapped.endAt
  have hstart : (readBack index a).startAtUtc = some startAt := by
    show instant (.str a.startAtUtc) = some startAt
    rw [hstartText, instant_format h startAt _ hs]
  have hend : (readBack index a).endAtUtc = some endAt := by
    show instant (.str a.endAtUtc) = some endAt
    rw [hendText, instant_format h endAt _ he]
  have hresource : (readBack index a).resourceId = some a.resourceId := by
    show identifier (.str a.resourceId) = some a.resourceId
    simp [identifier, hid]
  exact
    { operation := hmapped.operation
      resource := by rw [hresource, hmapped.resource]
      start := congrArg some hmapped.start
      stop := congrArg some hmapped.stop
      restates := ⟨⟨startAt, hstart, hs⟩, endAt, hend, he⟩
      duration := ⟨a.durationSeconds, hmapped.seconds, rfl, congrArg some hmapped.ticks⟩ }

end

/-- The identifiers the validator reads back: of operations and of the resources they may
take. -/
def CanonicalIdentifiers (problem : PlanningProblem) : Prop :=
  ∀ operation ∈ problem.operationInstances, isIdentifier operation.operationId = true ∧
    ∀ resource ∈ operation.optionResources, isIdentifier resource = true

instance (problem : PlanningProblem) : Decidable (CanonicalIdentifiers problem) := by
  unfold CanonicalIdentifiers
  infer_instance

section
variable {problem : PlanningProblem} {horizonStart horizonEnd : Datetime} {horizonTicks : Int}
  (h : PrecheckFacts problem horizonStart horizonEnd horizonTicks)
  (hcanonical : CanonicalIdentifiers problem) {plan : List Placement}
  (hcovers : Covers problem plan) {values : List OperationAssignment}
  (hmapped : List.Forall₂ (Mapped problem) plan values)
include h hcanonical hcovers hmapped

omit h in
theorem values_identifiers :
    ∀ a ∈ values, isIdentifier a.operationId = true ∧ isIdentifier a.resourceId = true := by
  intro a ha
  obtain ⟨p, hp, hm⟩ := forall₂_exists_left hmapped ha
  obtain ⟨hid, hresources⟩ := hcanonical _ (hcovers.mem hp)
  rw [hm.operation, hm.resource]
  exact ⟨hid, hresources _ (List.mem_map_of_mem (hcovers.options p hp))⟩

/-- The validator reads the plan. -/
theorem reads_document :
    List.Forall₂ (Reads problem) plan
      (candidateAssignments (candidateDocument problem values)) := by
  have hids := values_identifiers hcanonical hcovers hmapped
  rw [candidateAssignments_document problem values fun a ha => (hids a ha).1,
    List.forall₂_iff_get]
  refine ⟨by simpa using hmapped.length_eq, fun i h₁ h₂ => ?_⟩
  have hi : i < values.length := by simpa using h₂
  have := (List.forall₂_iff_get.mp hmapped).2 i h₁ hi
  simp only [List.get_eq_getElem, List.getElem_mapIdx] at this ⊢
  exact reads_readBack h _ _ i this (hids _ (List.getElem_mem hi)).2

omit h in
/-- The document is malformed only by an empty interval. -/
theorem not_malformed_document (hpos : ∀ p ∈ plan, p.start < p.stop) :
    ¬Malformed problem (candidateDocument problem values) := by
  have hids := values_identifiers hcanonical hcovers hmapped
  intro hmalformed
  have hentries : candidateEntries (candidateDocument problem values) =
      some (values.map OperationAssignment.toJson) := rfl
  unfold Malformed at hmalformed
  rw [referencesProblem_self problem _ rfl, hentries] at hmalformed
  simp only [Bool.true_eq_false, reduceCtorEq, false_or, Option.mem_def, Option.some.injEq,
    exists_eq_left', List.mem_map] at hmalformed
  obtain ⟨raw, ⟨a, ha, rfl⟩, hbad⟩ := hmalformed
  obtain ⟨p, hp, hm⟩ := forall₂_exists_left hmapped ha
  have hobject : isObject a.toJson = true := rfl
  have hidentifier : identifier (a.toJson.get "operation_id") = some a.operationId := by
    show identifier (.str a.operationId) = some a.operationId
    simp [identifier, (hids a ha).1]
  rw [hobject, hidentifier] at hbad
  have hempty : a.endTick ≤ a.startTick := by
    cases hbad with
    | inl hfalse => cases hfalse
    | inr hrest =>
      cases hrest with
      | inl hnone => cases hnone
      | inr hall => exact hall a.startTick a.endTick rfl rfl
  have := hpos p hp
  rw [← hm.start, ← hm.stop] at this
  omega

/-- Every tick of the document has an instant. -/
theorem representable_document :
    Representable problem (candidateAssignments (candidateDocument problem values)) := by
  have hreads := reads_document h hcanonical hcovers hmapped
  have hrange : ∀ d : Datetime, ∀ tick, d.micros = tickMicros problem tick →
      InRange problem tick := fun d tick hd => ⟨hd ▸ d.nonneg, hd ▸ d.lt⟩
  have hall : ∀ a ∈ candidateAssignments (candidateDocument problem values),
      (∀ t, a.startTick = some t → InRange problem t) ∧
        ∀ t, a.endTick = some t → InRange problem t := by
    intro a ha
    obtain ⟨p, hp, hread⟩ := forall₂_exists_left hreads ha
    obtain ⟨⟨s, -, hs⟩, e, -, he⟩ := hread.restates
    refine ⟨fun t ht => ?_, fun t ht => ?_⟩
    · rw [hread.start] at ht
      injection ht with ht
      exact ht ▸ hrange s _ hs
    · rw [hread.stop] at ht
      injection ht with ht
      exact ht ▸ hrange e _ he
  exact
    { placed := fun a ha _ start stop _ husable =>
        ⟨(hall a ha).1 start husable.1, (hall a ha).2 stop husable.2.1⟩
      gated := fun _ _ a start ha hstart => (hall a (of_assignmentsOf_eq ha).1).1 start hstart
      running := fun _ _ _ a ha => hall a (of_assignmentsOf_eq ha).1
      locked := fun _ _ _ a start stop ha husable =>
        ⟨(hall a (of_assignmentsOf_eq ha).1).1 start husable.1,
          (hall a (of_assignmentsOf_eq ha).1).2 stop husable.2.1⟩
      notStarted := fun a ha _ => hall a ha }

/-- **The validator passes the candidate of a plan exactly when the plan is feasible.** -/
theorem document_pass_iff (hvalid : validatedProblem problem = .ok ()) :
    (∃ report, validateProblemSchedule problem (candidateDocument problem values) = .ok report ∧
      report.status = "PASS") ↔ Feasible problem plan := by
  have hreads := reads_document h hcanonical hcovers hmapped
  have hslack := noSubsecondSlack_of_whole h.contract
    (candidateAssignments (candidateDocument problem values))
    (by rw [instantMicros_eq _ _ h.contract.start_eq]; exact h.start_whole)
    (fun anchor hm => by
      obtain ⟨d, hd, hdvd⟩ := h.anchors anchor hm
      rw [instantMicros_eq _ _ hd]
      exact hdvd)
  have hexact : ∀ k, ReportedRule problem
      (candidateAssignments (candidateDocument problem values)) k ↔
      BreaksRule problem (candidateAssignments (candidateDocument problem values)) k := by
    obtain ⟨hwindow, htransport⟩ := (noSubsecondSlack_iff h.contract _).mp hslack
    intro k
    cases k
    case c002 => exact hwindow
    case c009 => exact htransport
    all_goals exact Iff.rfl
  rw [validate_pass_iff, ← rules_iff_feasible h.contract hcovers hreads]
  simp only [hexact]
  constructor
  · intro hpass
    exact hpass.2.2.2
  · intro hrules
    have hfeasible := (rules_iff_feasible h.contract hcovers hreads).mp hrules
    have hpos : ∀ p ∈ plan, p.start < p.stop := fun p hp =>
      start_lt_stop h.contract hcovers hp (hfeasible.duration p hp)
    exact ⟨hvalid, representable_document h hcanonical hcovers hmapped,
      not_malformed_document hcanonical hcovers hmapped hpos, hrules⟩

end

/-! ### Agreement -/

theorem validated_of_precheck (problem : PlanningProblem) (precheck : CorePrecheck)
    (hprecheck : precheckCoreProblem problem = .ok precheck)
    (hhash : problem.problemHash = problemV2HashFor problem) :
    validatedProblem problem = .ok () := by
  simp only [precheckCoreProblem, bind_eq_ok, exists_unit_iff, requireBuilt_eq_ok] at hprecheck
  unfold validatedProblem
  rw [hprecheck.2.1]
  exact if_pos hhash

/-- The ticks of a feasible plan have instants. -/
theorem feasible_instants {problem : PlanningProblem} {horizonStart horizonEnd : Datetime}
    {horizonTicks : Int} (h : PrecheckFacts problem horizonStart horizonEnd horizonTicks)
    {plan : List Placement} (hcovers : Covers problem plan) (hfeasible : Feasible problem plan) :
    ∀ p ∈ plan, (∃ d : Datetime, d.micros = tickMicros problem p.start) ∧
      ∃ d : Datetime, d.micros = tickMicros problem p.stop := by
  intro p hp
  have hinside := placement_inside h hcovers hfeasible p hp
  have hpos := start_lt_stop h.contract hcovers hp (hfeasible.duration p hp)
  have hbetween : ∀ tick, 0 ≤ tick → tick ≤ horizonTicks →
      ∃ d : Datetime, d.micros = tickMicros problem tick := by
    intro tick hlow hhigh
    obtain ⟨hfrom, hto⟩ := (inside_iff h tick tick).mpr ⟨hlow, hhigh⟩
    rw [instantMicros_eq _ _ h.contract.start_eq] at hfrom
    rw [instantMicros_eq _ _ h.contract.end_eq] at hto
    exact ⟨⟨tickMicros problem tick, le_trans horizonStart.nonneg hfrom,
      lt_of_le_of_lt hto horizonEnd.lt⟩, rfl⟩
  exact ⟨hbetween p.start (by omega) (by omega), hbetween p.stop (by omega) (by omega)⟩

/-- **Model and validator agree.** For a problem the precheck accepts, with its content
hash and canonical identifiers, a valuation satisfies the core model exactly when the
mapper returns and the validator passes what it returns. -/
theorem model_validator_agree (problem : PlanningProblem) (precheck : CorePrecheck)
    (hprecheck : precheckCoreProblem problem = .ok precheck)
    (hhash : problem.problemHash = problemV2HashFor problem)
    (hcanonical : CanonicalIdentifiers problem) :
    ∃ core : CoreCpSatModel,
      (∀ validate : Model → Bool, validate core.model = true →
        buildCoreModel validate problem = .ok core) ∧
      (∀ validate core', buildCoreModel validate problem = .ok core' → core' = core) ∧
      ∀ ν, core.model.Satisfied ν ↔ ∃ values report,
        assignments problem core ν = .ok values ∧
          validateProblemSchedule problem (candidateDocument problem values) = .ok report ∧
          report.status = "PASS" := by
  obtain ⟨horizonStart, horizonEnd, h⟩ := precheck_facts problem precheck hprecheck
  have hvalid := validated_of_precheck problem precheck hprecheck hhash
  obtain ⟨core, hoperations, hbuild, honly, hselects, hfeasible⟩ :=
    coreModel_spec h precheck hprecheck rfl
  refine ⟨core, hbuild, honly, fun ν => ⟨fun hsat => ?_, fun hpass => ?_⟩⟩
  · obtain ⟨plan, hsel⟩ := hselects ν hsat
    have hplan := (hfeasible ν plan hsel).mp hsat
    obtain ⟨values, hvalues⟩ := assignments_isOk h.contract core hoperations ν plan hsel
      (feasible_instants h hsel.covers hplan)
    obtain ⟨plan₁, plan₂, hsel₁, hperm, hmapped⟩ :=
      assignments_plan h.contract core hoperations ν values hvalues
    have hplan₂ := ((hfeasible ν plan₁ hsel₁).mp hsat).perm hperm.symm
    obtain ⟨report, hreport, hstatus⟩ := (document_pass_iff h hcanonical
      (hsel₁.covers.perm hperm.symm) hmapped hvalid).mpr hplan₂
    exact ⟨values, report, hvalues, hreport, hstatus⟩
  · obtain ⟨values, report, hvalues, hreport, hstatus⟩ := hpass
    obtain ⟨plan, plan', hsel, hperm, hmapped⟩ :=
      assignments_plan h.contract core hoperations ν values hvalues
    have hplan' := (document_pass_iff h hcanonical (hsel.covers.perm hperm.symm) hmapped
      hvalid).mp ⟨report, hreport, hstatus⟩
    exact (hfeasible ν plan hsel).mpr (hplan'.perm hperm)

/-- One operation to plan, with its content hash. -/
def oneOperationProblem : PlanningProblem :=
  sealProblem { plainProblem with operationInstances := [plainOperation "O1"] }

theorem model_validator_agree_oneOperation :
    precheckCoreProblem oneOperationProblem = .ok ⟨240, 1, 1, 1⟩ ∧
      CanonicalIdentifiers oneOperationProblem ∧
      ∃ core : CoreCpSatModel, ∀ ν, core.model.Satisfied ν ↔ ∃ values report,
        assignments oneOperationProblem core ν = .ok values ∧
          validateProblemSchedule oneOperationProblem
            (candidateDocument oneOperationProblem values) = .ok report ∧
          report.status = "PASS" := by
  have hprecheck : precheckCoreProblem oneOperationProblem = .ok ⟨240, 1, 1, 1⟩ := by
    decide +kernel
  have hcanonical : CanonicalIdentifiers oneOperationProblem := by decide +kernel
  obtain ⟨core, -, -, hagree⟩ :=
    model_validator_agree oneOperationProblem _ hprecheck rfl hcanonical
  exact ⟨hprecheck, hcanonical, core, hagree⟩

/-! ### What the precheck does not check -/

/-- One operation to plan, without a hash. -/
def unsealedProblem : PlanningProblem :=
  { plainProblem with operationInstances := [plainOperation "O1"] }

/-- One operation to plan, with a space in its identifier. -/
def spacedProblem : PlanningProblem :=
  sealProblem { plainProblem with operationInstances := [plainOperation "O 1"] }

/-- The first operation in the first tick, on its first option. -/
def firstTick : Valuation where
  int
    | .stop _ => 1
    | _ => 0
  bool _ := true

theorem problemV2HashFor_ne_empty (problem : PlanningProblem) : problemV2HashFor problem ≠ "" := by
  intro hempty
  have hlist := congrArg String.toList hempty
  simp [problemV2HashFor, Sha256.hexdigest, Sha256.State.words, Sha256.hexWord] at hlist

/-- The precheck accepts a problem without its content hash and one whose identifiers the
validator does not read; their models have solutions that the validator does not pass. -/
theorem precheck_admits_unjudged :
    (∃ core, buildCoreModel (fun _ => true) unsealedProblem = .ok core ∧
      core.model.Satisfied firstTick ∧
      ¬∃ values report, assignments unsealedProblem core firstTick = .ok values ∧
        validateProblemSchedule unsealedProblem (candidateDocument unsealedProblem values) =
          .ok report ∧ report.status = "PASS") ∧
    ∃ core, buildCoreModel (fun _ => true) spacedProblem = .ok core ∧
      core.model.Satisfied firstTick ∧
      ¬∃ values report, assignments spacedProblem core firstTick = .ok values ∧
        validateProblemSchedule spacedProblem (candidateDocument spacedProblem values) =
          .ok report ∧ report.status = "PASS" := by
  have hsolved : ∀ problem : PlanningProblem,
      (buildCoreModel (fun _ => true) problem).toOption.map
        (fun core => decide (core.model.Satisfied firstTick)) = some true →
      ∃ core, buildCoreModel (fun _ => true) problem = .ok core ∧
        core.model.Satisfied firstTick := by
    intro problem hmap
    cases hbuild : buildCoreModel (fun _ => true) problem with
    | error e =>
      rw [hbuild] at hmap
      cases hmap
    | ok core =>
      rw [hbuild] at hmap
      exact ⟨core, rfl, of_decide_eq_true (Option.some.inj hmap)⟩
  refine ⟨?_, ?_⟩
  · obtain ⟨core, hbuild, hsat⟩ := hsolved unsealedProblem (by decide +kernel)
    refine ⟨core, hbuild, hsat, fun hpass => ?_⟩
    obtain ⟨_, report, -, hreport, -⟩ := hpass
    have hvalid := ((validateProblemSchedule_eq_ok _ _ _).mp hreport).1
    unfold validatedProblem at hvalid
    split at hvalid
    · cases hvalid
    · rw [require_eq_ok] at hvalid
      exact problemV2HashFor_ne_empty _ hvalid.symm
  · obtain ⟨core, hbuild, hsat⟩ := hsolved spacedProblem (by decide +kernel)
    refine ⟨core, hbuild, hsat, fun hpass => ?_⟩
    obtain ⟨values, report, hvalues, hreport, hstatus⟩ := hpass
    have hmapped : (buildCoreModel (fun _ => true) spacedProblem >>= fun core =>
        assignments spacedProblem core firstTick).toOption.map
          (fun values => values.map OperationAssignment.operationId) = some ["O 1"] := by
      decide +kernel
    rw [hbuild] at hmapped
    change (assignments spacedProblem core firstTick).toOption.map _ = _ at hmapped
    rw [hvalues] at hmapped
    have hids : values.map OperationAssignment.operationId = ["O 1"] := Option.some.inj hmapped
    obtain ⟨a, ha, hid⟩ : ∃ a ∈ values, a.operationId = "O 1" :=
      List.mem_map.mp (hids ▸ List.mem_singleton_self _)
    have hpass := (validate_pass_iff _ _).mp ⟨report, hreport, hstatus⟩
    refine hpass.2.2.1 (.inr (.inr ⟨values.map OperationAssignment.toJson, rfl, a.toJson,
      List.mem_map_of_mem ha, .inr (.inl ?_)⟩))
    show identifier (.str a.operationId) = none
    rw [hid]
    decide

end PlantNexus.Backend
