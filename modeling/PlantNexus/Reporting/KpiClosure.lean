import PlantNexus.Plan.Readback
import PlantNexus.Reporting.KpiRows

/-! Metrics of a validated schedule.

A candidate that the validator passes says a plan, entry by entry (`schedule_of_pass`). The
calculation ends on it exactly when every difference it takes is of whole seconds, and then it
agrees with what the backend measures from the same assignments (`kpi_closure`). -/
namespace PlantNexus.Reporting
open Data Time Domain Problem Validation Plan

/-! ### Metrics -/

/-- The metrics of a schedule are there exactly when its differences are of whole seconds. -/
theorem metrics_isOk {problem : PlanningProblem} {horizonStart horizonEnd : Datetime}
    {plan : List Placement} (h : Schedule problem horizonStart horizonEnd plan)
    (ratio : Int → Int → ℚ) {raws : List Json}
    (hraws : collect readScheduled raws = .ok (plan.map scheduledOf)) :
    (∃ metrics, calculateScheduleKpiMetrics ratio problem raws = .ok metrics) ↔
      WholeSeconds problem := by
  constructor
  · rintro ⟨metrics, hmetrics⟩
    simp only [calculateScheduleKpiMetrics, bind_eq_ok, hraws, Except.ok.injEq,
      exists_eq_left'] at hmetrics
    obtain ⟨delivery, hdelivery, resources, hresources, -⟩ := hmetrics
    exact ⟨(deliveryRows_isOk h).mp ⟨delivery, hdelivery⟩,
      (resourceRows_isOk h ratio).mp ⟨resources, hresources⟩⟩
  · intro hwhole
    obtain ⟨delivery, hdelivery⟩ := (deliveryRows_isOk h).mpr hwhole.due
    obtain ⟨resources, hresources⟩ := (resourceRows_isOk h ratio).mpr hwhole.unavailable
    exact ⟨_, bind_eq_ok.mpr ⟨_, hraws, bind_eq_ok.mpr ⟨delivery, hdelivery,
      bind_eq_ok.mpr ⟨resources, hresources, rfl⟩⟩⟩⟩

/-! ### Passing candidates -/

/-- An assignment of a candidate as a document. -/
def assignmentDocument (raw : Json) : Backend.OperationAssignment where
  operationId := (raw.get "operation_id").text
  resourceId := (raw.get "resource_id").text
  startTick := (integer (raw.get "start_tick")).getD 0
  endTick := (integer (raw.get "end_tick")).getD 0
  durationTicks := (integer (raw.get "duration_ticks")).getD 0
  startAtUtc := (raw.get "start_at_utc").text
  endAtUtc := (raw.get "end_at_utc").text
  durationSeconds := (integer (raw.get "duration_seconds")).getD 0
  lockIds := identifierTuple (raw.get "lock_ids")
  executionFactIds := identifierTuple (raw.get "execution_fact_ids")

/-- The latest end of the assignments, in seconds from the horizon start; zero without any. -/
def LatestEnd (problem : PlanningProblem) (raws : List Json) (offset : Int) : Prop :=
  (raws = [] → offset = 0) ∧
    (raws ≠ [] → IsGreatest
      {seconds | ∃ raw ∈ raws, ∃ tick, raw.get "end_tick" = .int tick ∧
        seconds = tick * problem.tickSeconds} offset)

/-- The metrics agree with the assignments they were calculated from. -/
structure Agrees (problem : PlanningProblem) (raws : List Json) (metrics : ScheduleKpiMetrics) :
    Prop where
  weighted : Backend.measuredWeightedTardinessSeconds problem (raws.map assignmentDocument) =
    .ok metrics.priorityWeightedTardinessSeconds
  makespan : LatestEnd problem raws metrics.makespanSeconds
  late : metrics.lateOrderCount =
    (metrics.deliveryRows.filter fun row => !row.onTime).length
  orders : metrics.onTimeOrderCount + metrics.lateOrderCount =
    (problem.operationInstances.map OperationInstance.demandOrderId).dedup.length
  resources : metrics.resourceRows.map ResourceRow.resourceId =
    (sortByKey Resource.resourceId problem.resources).map Resource.resourceId
  counts : ∃ horizonSeconds, horizonSeconds * microsPerSecond =
      instantMicros problem.horizonEndUtc - instantMicros problem.horizonStartUtc ∧
    ∀ row ∈ metrics.resourceRows, ResourceCounts problem horizonSeconds row

theorem readScheduled_ok {raw : Json} {o : ScheduledOperation} (h : readScheduled raw = .ok o) :
    raw.get "end_tick" = .int o.endTick := by
  unfold readScheduled at h
  split at h
  · rename_i hstop
    rw [← Except.ok.inj h]
    exact hstop
  · cases h

/-- The largest end tick, in seconds. -/
theorem latestEnd_eq (problem : PlanningProblem) (htick : 0 < problem.tickSeconds)
    {raws : List Json} {scheduled : List ScheduledOperation}
    (h : collect readScheduled raws = .ok scheduled) :
    LatestEnd problem raws
      (((scheduled.map ScheduledOperation.endTick).max?.map (· * problem.tickSeconds)).getD 0) := by
  have hlength := ((collect_eq_ok_iff _ _ _).mp h).length_eq
  constructor
  · rintro rfl
    rw [List.length_nil, eq_comm, List.length_eq_zero_iff] at hlength
    rw [hlength]
    rfl
  · intro hne
    cases hmax : (scheduled.map ScheduledOperation.endTick).max? with
    | none =>
      rw [List.max?_eq_none_iff, List.map_eq_nil_iff] at hmax
      rw [hmax, List.length_nil, List.length_eq_zero_iff] at hlength
      exact absurd hlength hne
    | some latest =>
      obtain ⟨hmem, hle⟩ := List.max?_eq_some_iff.mp hmax
      constructor
      · obtain ⟨o, ho, rfl⟩ := List.mem_map.mp hmem
        obtain ⟨raw, hraw, hread⟩ := (mem_collect h o).mp ho
        exact ⟨raw, hraw, o.endTick, readScheduled_ok hread, rfl⟩
      · rintro _ ⟨raw, hraw, tick, hstop, rfl⟩
        obtain ⟨o, ho⟩ := (collect_isOk readScheduled raws).mp ⟨scheduled, h⟩ raw hraw
        have hend := (readScheduled_ok ho).symm.trans hstop
        injection hend with hend
        rw [← hend]
        exact mul_le_mul_of_nonneg_right
          (hle _ (List.mem_map_of_mem ((mem_collect h o).mpr ⟨raw, hraw, ho⟩))) htick.le

/-- **Metrics of a schedule agree with its assignments.** -/
theorem metrics_agree {problem : PlanningProblem} {horizonStart horizonEnd : Datetime}
    {plan : List Placement} (h : Schedule problem horizonStart horizonEnd plan)
    {ratio : Int → Int → ℚ} {raws : List Json}
    (hraws : collect readScheduled raws = .ok (plan.map scheduledOf))
    (hvalues : List.Forall₂ (Backend.CompletesAt problem) plan (raws.map assignmentDocument))
    {metrics : ScheduleKpiMetrics}
    (hmetrics : calculateScheduleKpiMetrics ratio problem raws = .ok metrics) :
    Agrees problem raws metrics := by
  have hwhole := (metrics_isOk h ratio hraws).mp ⟨metrics, hmetrics⟩
  simp only [calculateScheduleKpiMetrics, bind_eq_ok, hraws, Except.ok.injEq, exists_eq_left',
    pure, Except.pure] at hmetrics
  obtain ⟨delivery, hdelivery, resources, hresources, rfl⟩ := hmetrics
  obtain ⟨hlength, hweighted⟩ := deliveryRows_facts h hdelivery
  obtain ⟨hids, hcounts⟩ := resourceRows_facts h hresources
  have hmeasured := Backend.measured_eq h.contract plan _ hvalues
    (fun d hd => (wholeDue_iff h d).mpr (hwhole.due d hd))
    (fun d hd => demandStops_ne_nil h hd)
  have hactive := h.built.demands.length_eq
  rw [List.length_map] at hactive
  have hsplit := List.length_eq_length_filter_add (l := delivery) fun row => row.onTime
  refine ⟨?_, latestEnd_eq problem h.contract.tick_pos hraws, ?_, ?_, hids, hcounts⟩
  · rw [hmeasured, hweighted]
  · simp only [ScheduleKpiMetrics.lateOrderCount]
    omega
  · simp only [ScheduleKpiMetrics.lateOrderCount]
    omega

/-! ### The plan of a passing candidate -/

/-- What two lists say of a third, entry by entry. -/
theorem forall₂_join {α β γ : Type} {R : α → γ → Prop} {S : β → γ → Prop} {xs : List α}
    {ys : List β} {zs : List γ} (hR : List.Forall₂ R xs zs) (hS : List.Forall₂ S ys zs) :
    List.Forall₂ (fun x y => ∃ z, R x z ∧ S y z) xs ys := by
  induction hR generalizing ys with
  | nil =>
    cases hS
    exact .nil
  | cons hx _ ih =>
    cases hS with
    | cons hy hrest => exact .cons ⟨_, hx, hy⟩ (ih hrest)

/-- Every entry of a well-formed candidate lists an assignment. -/
theorem entries_read {f : Nat → Json → Option Assignment} (raws : List Json)
    (h : ∀ i, ∀ raw ∈ raws, ∃ a, f i raw = some a) :
    List.Forall₂ (fun raw a => ∃ i, f i raw = some a) raws ((raws.mapIdx f).filterMap id) := by
  induction raws generalizing f with
  | nil => exact .nil
  | cons raw raws ih =>
    obtain ⟨a, ha⟩ := h 0 raw (List.mem_cons_self ..)
    have hrest := ih fun i r hr => h (i + 1) r (List.mem_cons_of_mem raw hr)
    rw [List.mapIdx_cons, ha, List.filterMap_cons, id]
    exact .cons ⟨0, ha⟩ (hrest.imp fun r b hread => ⟨_, hread.choose_spec⟩)

theorem identifier_eq_some {value : Json} {text : String} (h : identifier value = some text) :
    value = .str text := by
  cases value with
  | str value =>
    rw [identifier] at h
    split at h
    · rw [Option.some.inj h]
    · cases h
  | _ => cases h

theorem integer_eq_some {value : Json} {n : Int} (h : integer value = some n) :
    value = .int n := by
  cases value with
  | int value => rw [Option.some.inj h]
  | _ => cases h

theorem instant_eq_some {value : Json} {d : Datetime} (h : instant value = some d) :
    ∃ text, value = .str text ∧ parseUtcInstant text = .ok d := by
  cases value with
  | str text =>
    rw [instant] at h
    cases hparse : parseUtcInstant text with
    | error message =>
      rw [hparse] at h
      cases h
    | ok parsed =>
      rw [hparse] at h
      exact ⟨text, rfl, by rw [hparse, Option.some.inj h]⟩
  | _ => cases h

/-- An entry whose assignment says a placement is read as the placement, and ends when it does. -/
theorem entry_placed {problem : PlanningProblem} {horizonStart horizonEnd : Datetime}
    (h : ContractFacts problem horizonStart horizonEnd) {index : Nat} {raw : Json} {a : Assignment}
    {p : Placement} (hentry : readEntry index raw = some a) (hread : Reads problem p a)
    (hm : p.operation ∈ problem.operationInstances) :
    readScheduled raw = .ok (scheduledOf p) ∧
      Backend.CompletesAt problem p (assignmentDocument raw) := by
  unfold readEntry at hentry
  split at hentry
  · obtain ⟨id, hid, rfl⟩ := Option.map_eq_some_iff.mp hentry
    have hoperation := identifier_eq_some hid
    have hresource := identifier_eq_some hread.resource
    have hstart := integer_eq_some hread.start
    have hstop := integer_eq_some hread.stop
    obtain ⟨-, d, hend, hmicros⟩ := hread.restates
    obtain ⟨text, htext, hparse⟩ := instant_eq_some hend
    have hname : id = p.operationId := hread.operation
    constructor
    · rw [readScheduled, hoperation, hresource, hstart, hstop, hname]
      rfl
    · have hdocument : (assignmentDocument raw).operationId = p.operation.operationId := by
        rw [assignmentDocument, hoperation, hname]
        rfl
      constructor
      · rw [Backend.demandByOperation, hdocument, Backend.demandOf_active h p.operation hm]
      · refine ⟨d, ?_, hmicros⟩
        rw [Backend.instantAt_eq_ok, assignmentDocument, htext]
        exact hparse
  · cases hentry

/-- The entries of a well-formed candidate list its assignments. -/
theorem entries_of_shape {problem : PlanningProblem} {candidate : Json}
    (hshape : ¬Malformed problem candidate) :
    ∃ raws, candidate.get "assignments" = .arr raws ∧
      List.Forall₂ (fun raw a => ∃ i, readEntry i raw = some a) raws
        (candidateAssignments candidate) := by
  cases hentries : candidateEntries candidate with
  | none => exact absurd (.inr (.inl hentries)) hshape
  | some raws =>
    have hread : ∀ i, ∀ raw ∈ raws, ∃ a, readEntry i raw = some a := by
      intro i raw hraw
      have hgood : ¬(isObject raw = false ∨ identifier (raw.get "operation_id") = none) := by
        intro hbad
        refine hshape (.inr (.inr ⟨raws, hentries, raw, hraw, ?_⟩))
        exact hbad.imp_right .inl
      obtain ⟨hobject, hid⟩ := not_or.mp hgood
      obtain ⟨id, hid⟩ := Option.ne_none_iff_exists'.mp hid
      refine ⟨readAssignment i raw id, ?_⟩
      rw [readEntry, if_pos (Bool.eq_true_of_not_eq_false hobject), hid]
      rfl
    have hassignments : candidateAssignments candidate = (raws.mapIdx readEntry).filterMap id := by
      rw [candidateAssignments, hentries]
    rw [hassignments]
    refine ⟨raws, ?_, entries_read raws hread⟩
    unfold candidateEntries at hentries
    split at hentries
    · rename_i hlisted
      rw [hlisted, Option.some.inj hentries]
    · cases hentries

/-- The placements of a running operation end inside the horizon. -/
theorem running_inside {problem : PlanningProblem} {horizonStart horizonEnd : Datetime}
    (h : ContractFacts problem horizonStart horizonEnd)
    (hbuilt : BuiltProblem problem horizonStart horizonEnd) {p : Placement}
    (hm : p.operation ∈ problem.operationInstances) (hstatus : p.operation.status = .running)
    (htakes : TakesDuration problem p) (hstart : p.start = 0) :
    instantMicros problem.horizonStartUtc ≤ tickMicros problem p.start ∧
      tickMicros problem p.stop ≤ instantMicros problem.horizonEndUtc := by
  obtain ⟨seconds, hseconds, hdiff⟩ := htakes
  rw [TakesSeconds, hstatus] at hseconds
  have hfits := hbuilt.running p.operation hm hstatus seconds hseconds
  rw [hstart, Int.sub_zero] at hdiff
  rw [tickMicros_eq h, tickMicros_eq h, hstart, hdiff, instantMicros_eq _ _ h.start_eq,
    instantMicros_eq _ _ h.end_eq]
  omega

/-- **A passing candidate says a schedule**, entry by entry. -/
theorem schedule_of_pass {problem : PlanningProblem} {horizonStart horizonEnd : Datetime}
    (hbuilt : BuiltProblem problem horizonStart horizonEnd) {candidate : Json}
    (hpass : ∃ report, validateProblemSchedule problem candidate = .ok report ∧
      report.status = "PASS") :
    ∃ raws plan, candidate.get "assignments" = .arr raws ∧
      Schedule problem horizonStart horizonEnd plan ∧
      collect readScheduled raws = .ok (plan.map scheduledOf) ∧
      List.Forall₂ (Backend.CompletesAt problem) plan (raws.map assignmentDocument) := by
  obtain ⟨start, stop, h⟩ := builtProblem_facts problem hbuilt.valid
  obtain rfl := Except.ok.inj (h.start_eq.symm.trans hbuilt.start)
  obtain rfl := Except.ok.inj (h.end_eq.symm.trans hbuilt.stop)
  obtain ⟨-, -, hshape, hreported⟩ := (validate_pass_iff problem candidate).mp hpass
  have hrules : ∀ k, k ≠ .c002 → k ≠ .c009 →
      ¬BreaksRule problem (candidateAssignments candidate) k := by
    intro k hwindow htransport
    have hrule := hreported k
    cases k with
    | c002 => exact absurd rfl hwindow
    | c009 => exact absurd rfl htransport
    | _ => exact hrule
  obtain ⟨plan, hcovers, hreads⟩ := exists_plan h hrules
  have hduration := (c010_iff h hcovers hreads).mp (hreported .c010)
  have hpositive : ∀ p ∈ plan, p.start < p.stop := fun p hp =>
    start_lt_stop h hcovers hp (hduration p hp)
  have hinside := (c011_iff h hcovers hreads hpositive).mp (hreported .c011)
  have hrunning := (c007_iff h hcovers hreads hduration).mp (hreported .c007)
  have hschedule : Schedule problem start stop plan :=
    { contract := h
      built := hbuilt
      covers := hcovers
      positive := hpositive
      inside := by
        intro p hp
        cases hstatus : p.operation.status with
        | notStarted => exact hinside p hp hstatus
        | running =>
          exact running_inside h hbuilt (hcovers.mem hp) hstatus (hduration p hp)
            (hrunning p hp hstatus).2
      apart := (c004_iff h hcovers hreads hpositive).mp (hreported .c004)
      calendar := (c005_iff h hcovers hreads hpositive).mp (hreported .c005) }
  obtain ⟨raws, hraws, hentries⟩ := entries_of_shape hshape
  have hplaced := forall₂_join hentries
    ((List.forall₂_and_left _ _).mpr ⟨fun p hp => hcovers.mem hp, hreads⟩)
  have hentry := hplaced.imp fun raw p hboth => by
    obtain ⟨a, ⟨index, hindex⟩, hm, hread⟩ := hboth
    exact entry_placed h hindex hread hm
  refine ⟨raws, plan, hraws, hschedule, ?_, ?_⟩
  · rw [collect_eq_ok_iff, List.forall₂_map_right_iff]
    exact hentry.imp fun _ _ hboth => hboth.1
  · rw [List.forall₂_map_right_iff]
    exact hentry.flip.imp fun _ _ hboth => hboth.2

/-! ### Closure -/

/-- **The metrics of a passing candidate of a built problem** are there exactly when its demands
are due on whole seconds and its calendars leave whole seconds, and then they agree with the
candidate's assignments. -/
theorem kpi_closure (ratio : Int → Int → ℚ) {snapshot : Snapshot.ImmutablePlanningSnapshot}
    {priorityFacts : List (String × Json)} {config : BuildConfig}
    {built : ImmutablePlanningProblemV2}
    (hbuilt : buildPlanningProblemV2 snapshot priorityFacts config = .ok built)
    {candidate : Json}
    (hpass : ∃ report, validateProblemSchedule built.document candidate = .ok report ∧
      report.status = "PASS") :
    ∃ raws, candidate.get "assignments" = .arr raws ∧
      ((∃ metrics, calculateScheduleKpiMetrics ratio built.document raws = .ok metrics) ↔
        WholeSeconds built.document) ∧
      ∀ metrics, calculateScheduleKpiMetrics ratio built.document raws = .ok metrics →
        Agrees built.document raws metrics := by
  obtain ⟨horizonStart, horizonEnd, hfacts⟩ := buildPlanningProblemV2_ok hbuilt
  obtain ⟨raws, plan, hraws, hschedule, hread, hvalues⟩ := schedule_of_pass hfacts hpass
  exact ⟨raws, hraws, metrics_isOk hschedule ratio hread,
    fun metrics hmetrics => metrics_agree hschedule hread hvalues hmetrics⟩

/-! ### The plain lot -/

/-- The operation of the lot in the first minute. -/
def lotEntry : Json :=
  .obj
    [("operation_id", .str "O1"), ("resource_id", .str "R1"), ("start_tick", .int 0),
     ("end_tick", .int 1), ("duration_ticks", .int 1), ("duration_seconds", .int 60),
     ("start_at_utc", .str "2026-01-01T00:00:00Z"),
     ("end_at_utc", .str "2026-01-01T00:01:00Z"), ("lock_ids", .arr []),
     ("execution_fact_ids", .arr [])]

def lotCandidate : Json :=
  .obj
    [("problem", problemReference (sealProblem lotProblem)), ("assignments", .arr [lotEntry])]

theorem lotCandidate_passes :
    ∃ report, validateProblemSchedule (sealProblem lotProblem) lotCandidate = .ok report ∧
      report.status = "PASS" := by
  have hvalid : validatedProblem (sealProblem lotProblem) = .ok () :=
    validatedProblem_seal _ lotProblem_valid
  -- the hash is compared by name, the rest is evaluated
  have hreference : referenceViolations (sealProblem lotProblem) lotCandidate = [] :=
    if_pos (referencesProblem_self (sealProblem lotProblem) lotCandidate rfl)
  have hmaterialized : (materializeAssignments (sealProblem lotProblem) lotCandidate).2 = [] := by
    change referenceViolations (sealProblem lotProblem) lotCandidate ++ _ = []
    rw [hreference]
    exact List.length_eq_zero_iff.mp (by decide +kernel)
  have hevaluate : (evaluate (sealProblem lotProblem) lotCandidate).toOption.map List.length =
      some 0 := by
    simp only [evaluate, materializeAssignments_fst, hmaterialized]
    decide +kernel
  cases hvs : evaluate (sealProblem lotProblem) lotCandidate with
  | error e =>
    rw [hvs] at hevaluate
    cases hevaluate
  | ok vs =>
    rw [hvs] at hevaluate
    have hnil : vs = [] := by simpa [Except.toOption] using hevaluate
    exact ⟨_, (validateProblemSchedule_eq_ok _ _ _).mpr ⟨hvalid, vs, hvs, rfl⟩, by simp [hnil]⟩

/-- The lot is delivered on time, and the calculation says so. -/
theorem kpi_closure_lot :
    ∃ metrics, calculateScheduleKpiMetrics (fun _ _ => 0) (sealProblem lotProblem) [lotEntry] =
        .ok metrics ∧ Agrees (sealProblem lotProblem) [lotEntry] metrics := by
  obtain ⟨raws, hraws, hisOk, hagrees⟩ :=
    kpi_closure (fun _ _ => 0) lotProblem_built lotCandidate_passes
  obtain rfl : [lotEntry] = raws := by
    injection hraws
  have hwhole : WholeSeconds (sealProblem lotProblem) := by
    constructor
    · have hdue : ∀ demand ∈ lotProblem.deliveryDemands,
          microsPerSecond ∣ instantMicros demand.dueAtUtc := by decide +kernel
      exact hdue
    · intro resource _ x hx
      cases hx
  obtain ⟨metrics, hmetrics⟩ := hisOk.mpr hwhole
  exact ⟨metrics, hmetrics, hagrees metrics hmetrics⟩

end PlantNexus.Reporting
