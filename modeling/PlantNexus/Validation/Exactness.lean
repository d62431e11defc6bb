import PlantNexus.Validation.Endpoints

/-! When the validator's report is exact.

Every rule but C-002 and C-009 is reported exactly when it is broken, as long as the
ticks the validator restores are in the range of `datetime`. The two lag rules are exact
between assignments; after a completed operation whose end carries a fraction of a second
they miss a lag that is outside its window by less than the truncation. -/
namespace PlantNexus.Validation
open Data Time Domain Problem

/-! ### Lags after truncation -/

/-- The lag is short of the bound even when it is truncated to whole seconds. -/
def ShortBySeconds (bound lag : Int) : Prop :=
  (0 < bound ∧ totalSeconds lag < bound) ∨ (bound = 0 ∧ lag ≤ -microsPerSecond)

/-- The lag is a whole second past the bound. -/
def PastBySeconds (bound lag : Int) : Prop := (bound : ℚ) + 1 ≤ totalSeconds lag

theorem shortBySeconds_iff (bound lag : Int) (hb : 0 ≤ bound) :
    ShortBySeconds bound lag ↔ wholeSeconds lag < bound := by
  rcases eq_or_lt_of_le hb with rfl | hpos
  · rw [wholeSeconds_neg_iff, ShortBySeconds]
    simp
  · rw [wholeSeconds_lt_iff lag bound hpos, ShortBySeconds]
    have : bound ≠ 0 := by omega
    simp [hpos, this]

theorem pastBySeconds_iff (bound lag : Int) (hb : 0 ≤ bound) :
    PastBySeconds bound lag ↔ wholeSeconds lag > bound :=
  (lt_wholeSeconds_iff lag bound hb).symm

/-- The truncated lag is outside the edge's window. -/
def OutsideBySeconds (edge : PrecedenceEdge) (lag : Int) : Prop :=
  ShortBySeconds edge.minLagSeconds lag ∨
    ∃ maximum ∈ edge.maxLagSeconds, PastBySeconds maximum lag

section
variable {problem : PlanningProblem} {horizonStart horizonEnd : Datetime}
  (h : ContractFacts problem horizonStart horizonEnd)
include h

theorem outsideBySeconds_iff (edge : PrecedenceEdge) (hmem : edge ∈ problem.precedenceEdges)
    (lag : Int) :
    OutsideBySeconds edge lag ↔ wholeSeconds lag < edge.minLagSeconds ∨
      ∃ maximum ∈ edge.maxLagSeconds, wholeSeconds lag > maximum := by
  have hfacts := h.edges edge hmem
  rw [OutsideBySeconds, shortBySeconds_iff _ _ hfacts.min_nonneg]
  refine or_congr_right (exists_congr fun maximum => and_congr_right fun hmax => ?_)
  have := hfacts.max_ge maximum hmax
  have := hfacts.min_nonneg
  exact pastBySeconds_iff maximum lag (by omega)

end

/-- Truncation never takes a lag out of its window. -/
theorem lt_of_wholeSeconds_lt (lag bound : Int) (hb : 0 ≤ bound) (h : wholeSeconds lag < bound) :
    lag < bound * microsPerSecond := by
  by_contra hge
  have := le_wholeSeconds lag bound hb (by omega)
  omega

theorem lt_of_lt_wholeSeconds (lag bound : Int) (hb : 0 ≤ bound) (h : bound < wholeSeconds lag) :
    bound * microsPerSecond < lag := by
  by_contra hge
  have := wholeSeconds_le lag bound hb (by omega)
  omega

section
variable {problem : PlanningProblem} {horizonStart horizonEnd : Datetime}
  (h : ContractFacts problem horizonStart horizonEnd)
include h

theorem outside_of_bySeconds (edge : PrecedenceEdge) (hmem : edge ∈ problem.precedenceEdges)
    (lag : Int) (hout : OutsideBySeconds edge lag) : LagOutside edge lag := by
  have hfacts := h.edges edge hmem
  have hmin := hfacts.min_nonneg
  rcases (outsideBySeconds_iff h edge hmem lag).mp hout with hshort | ⟨maximum, hmax, hpast⟩
  · exact .inl (lt_of_wholeSeconds_lt lag _ hmin hshort)
  · have := hfacts.max_ge maximum hmax
    exact .inr ⟨maximum, hmax, lt_of_lt_wholeSeconds lag maximum (by omega) hpast⟩

omit h in
/-- A place that is not a completed operation's starts and ends on ticks. -/
theorem occupies_tick (assignments : List Assignment) (id resource : String) (s e : Int)
    (hocc : Occupies problem assignments id resource s e) (hactive : id ∉ anchorIds problem) :
    ∃ start stop, s = tickMicros problem start ∧ e = tickMicros problem stop := by
  cases hocc with
  | completed anchor hm => exact absurd (List.mem_map_of_mem hm) hactive
  | assigned a resource start stop => exact ⟨start, stop, rfl, rfl⟩

theorem successor_active (edge : PrecedenceEdge) (hmem : edge ∈ problem.precedenceEdges) :
    edge.successorOperationId ∉ anchorIds problem := by
  intro hanchor
  obtain ⟨anchor, hm, heq⟩ := List.mem_map.mp hanchor
  have hactive := (h.edges edge hmem).successor
  rw [← heq] at hactive
  exact h.anchors_disjoint anchor hm hactive

/-- Between two assignments a lag is a whole number of seconds. -/
theorem edgeLag_whole (assignments : List Assignment) (edge : PrecedenceEdge)
    (hmem : edge ∈ problem.precedenceEdges) (r r' : String) (lag : Int)
    (hlag : EdgeLag problem assignments edge r r' lag)
    (hactive : edge.predecessorOperationId ∉ anchorIds problem) :
    lag = wholeSeconds lag * microsPerSecond := by
  obtain ⟨ps, pe, ss, se, hp, hs, rfl⟩ := hlag
  obtain ⟨_, stop, -, rfl⟩ := occupies_tick assignments _ _ _ _ hp hactive
  obtain ⟨start, _, rfl, -⟩ := occupies_tick assignments _ _ _ _ hs (successor_active h edge hmem)
  have heq : tickMicros problem start - tickMicros problem stop =
      (start * problem.tickSeconds - stop * problem.tickSeconds) * microsPerSecond := by
    rw [tickMicros, tickMicros, Int.sub_mul]
    omega
  rw [heq, wholeSeconds_exact]

end

/-! ### The condition -/

section
variable (problem : PlanningProblem) (assignments : List Assignment)

/-- Every tick the validator restores is in the range of `datetime`: those of an interval
on a resource, of an assignment of an operation that has not started, and of the only
assignment of an operation that is running, hard-locked or gated. -/
structure Representable : Prop where
  placed : ∀ a ∈ assignments, ∀ resource start stop, a.resourceId = some resource →
    a.Usable start stop → InRange problem start ∧ InRange problem stop
  gated : ∀ operation ∈ problem.operationInstances, ∀ a start,
    assignmentsOf assignments operation.operationId = [a] → a.startTick = some start →
      InRange problem start
  running : ∀ operation ∈ problem.operationInstances, operation.status = .running →
    ∀ a, assignmentsOf assignments operation.operationId = [a] →
      (∀ t ∈ a.startTick, InRange problem t) ∧ ∀ t ∈ a.endTick, InRange problem t
  locked : ∀ lock ∈ problem.operationLocks, lock.lockType = .hardLock → ∀ a start stop,
    assignmentsOf assignments lock.operationId = [a] → a.Usable start stop →
      InRange problem start ∧ InRange problem stop
  notStarted : ∀ a ∈ assignments, PlansNotStarted problem a →
    (∀ t ∈ a.startTick, InRange problem t) ∧ ∀ t ∈ a.endTick, InRange problem t

/-- No lag after a completed operation is outside its bound only by a fraction of a
second, unless some lag is outside by whole seconds. -/
structure NoSubsecondSlack : Prop where
  window : ∀ edge ∈ problem.precedenceEdges, edge.predecessorOperationId ∈ anchorIds problem →
    ∀ r r' lag, EdgeLag problem assignments edge r r' lag → LagOutside edge lag →
      ∃ edge' ∈ problem.precedenceEdges, ∃ r r' lag,
        EdgeLag problem assignments edge' r r' lag ∧ OutsideBySeconds edge' lag
  transport : ∀ edge ∈ problem.precedenceEdges,
    edge.predecessorOperationId ∈ anchorIds problem → ∀ r r' lag,
      EdgeLag problem assignments edge r r' lag → CrossWorkshop problem r r' →
        lag < edge.transportLagSeconds * microsPerSecond →
          ∃ edge' ∈ problem.precedenceEdges, ∃ r r' lag,
            EdgeLag problem assignments edge' r r' lag ∧ CrossWorkshop problem r r' ∧
              ShortBySeconds edge'.transportLagSeconds lag

end

section
variable {problem : PlanningProblem} {horizonStart horizonEnd : Datetime}
  (h : ContractFacts problem horizonStart horizonEnd)
include h

theorem window_exact_iff (assignments : List Assignment) :
    ((∃ edge ∈ problem.precedenceEdges, ∃ r r' lag,
      EdgeLag problem assignments edge r r' lag ∧ OutsideBySeconds edge lag) ↔
      BreaksRule problem assignments .c002) ↔
    ∀ edge ∈ problem.precedenceEdges, edge.predecessorOperationId ∈ anchorIds problem →
      ∀ r r' lag, EdgeLag problem assignments edge r r' lag → LagOutside edge lag →
        ∃ edge' ∈ problem.precedenceEdges, ∃ r r' lag,
          EdgeLag problem assignments edge' r r' lag ∧ OutsideBySeconds edge' lag := by
  constructor
  · intro hiff edge hm _ r r' lag hlag hout
    exact hiff.mpr ⟨edge, hm, r, r', lag, hlag, hout⟩
  · intro hanchors
    constructor
    · intro hall
      obtain ⟨edge, hm, r, r', lag, hlag, hout⟩ := hall
      exact ⟨edge, hm, r, r', lag, hlag, outside_of_bySeconds h edge hm lag hout⟩
    · intro hall
      obtain ⟨edge, hm, r, r', lag, hlag, hout⟩ := hall
      by_cases hanchor : edge.predecessorOperationId ∈ anchorIds problem
      · exact hanchors edge hm hanchor r r' lag hlag hout
      · refine ⟨edge, hm, r, r', lag, hlag, (outsideBySeconds_iff h edge hm lag).mpr ?_⟩
        have hwhole := edgeLag_whole h assignments edge hm r r' lag hlag hanchor
        have hpos : (0 : Int) < microsPerSecond := by decide
        rcases hout with hshort | ⟨maximum, hmax, hpast⟩
        · rw [hwhole] at hshort
          exact .inl (lt_of_mul_lt_mul_right hshort hpos.le)
        · rw [hwhole] at hpast
          exact .inr ⟨maximum, hmax, lt_of_mul_lt_mul_right hpast hpos.le⟩

theorem transport_exact_iff (assignments : List Assignment) :
    ((∃ edge ∈ problem.precedenceEdges, ∃ r r' lag,
      EdgeLag problem assignments edge r r' lag ∧ CrossWorkshop problem r r' ∧
        ShortBySeconds edge.transportLagSeconds lag) ↔
      BreaksRule problem assignments .c009) ↔
    ∀ edge ∈ problem.precedenceEdges, edge.predecessorOperationId ∈ anchorIds problem →
      ∀ r r' lag, EdgeLag problem assignments edge r r' lag → CrossWorkshop problem r r' →
        lag < edge.transportLagSeconds * microsPerSecond →
          ∃ edge' ∈ problem.precedenceEdges, ∃ r r' lag,
            EdgeLag problem assignments edge' r r' lag ∧ CrossWorkshop problem r r' ∧
              ShortBySeconds edge'.transportLagSeconds lag := by
  constructor
  · intro hiff edge hm _ r r' lag hlag hcross hshort
    exact hiff.mpr ⟨edge, hm, r, r', lag, hlag, hcross, hshort⟩
  · intro hanchors
    constructor
    · intro hall
      obtain ⟨edge, hm, r, r', lag, hlag, hcross, hshort⟩ := hall
      have hnonneg := (h.edges edge hm).transport_nonneg
      exact ⟨edge, hm, r, r', lag, hlag, hcross, lt_of_wholeSeconds_lt lag _ hnonneg
        ((shortBySeconds_iff _ lag hnonneg).mp hshort)⟩
    · intro hall
      obtain ⟨edge, hm, r, r', lag, hlag, hcross, hshort⟩ := hall
      by_cases hanchor : edge.predecessorOperationId ∈ anchorIds problem
      · exact hanchors edge hm hanchor r r' lag hlag hcross hshort
      · have hnonneg := (h.edges edge hm).transport_nonneg
        refine ⟨edge, hm, r, r', lag, hlag, hcross, (shortBySeconds_iff _ lag hnonneg).mpr ?_⟩
        have hwhole := edgeLag_whole h assignments edge hm r r' lag hlag hanchor
        have hpos : (0 : Int) < microsPerSecond := by decide
        rw [hwhole] at hshort
        exact lt_of_mul_lt_mul_right hshort hpos.le

theorem noSubsecondSlack_iff (assignments : List Assignment) :
    NoSubsecondSlack problem assignments ↔
      ((∃ edge ∈ problem.precedenceEdges, ∃ r r' lag,
        EdgeLag problem assignments edge r r' lag ∧ OutsideBySeconds edge lag) ↔
        BreaksRule problem assignments .c002) ∧
      ((∃ edge ∈ problem.precedenceEdges, ∃ r r' lag,
        EdgeLag problem assignments edge r r' lag ∧ CrossWorkshop problem r r' ∧
          ShortBySeconds edge.transportLagSeconds lag) ↔
        BreaksRule problem assignments .c009) := by
  rw [window_exact_iff h, transport_exact_iff h]
  exact ⟨fun hn => ⟨hn.window, hn.transport⟩, fun hn => ⟨hn.1, hn.2⟩⟩

/-- With whole-second instants there is no slack. -/
theorem noSubsecondSlack_of_whole (assignments : List Assignment)
    (hstart : microsPerSecond ∣ instantMicros problem.horizonStartUtc)
    (hanchors : ∀ anchor ∈ problem.historicalCompletionAnchors,
      microsPerSecond ∣ instantMicros anchor.actualEndAtUtc) :
    NoSubsecondSlack problem assignments := by
  have hticks : ∀ tick, microsPerSecond ∣ tickMicros problem tick := fun tick =>
    Int.dvd_add hstart (Int.dvd_mul_left _ _)
  have hends : ∀ id resource s e, Occupies problem assignments id resource s e →
      microsPerSecond ∣ e := by
    intro id resource s e hocc
    cases hocc with
    | completed anchor hm => exact hanchors anchor hm
    | assigned a resource start stop => exact hticks stop
  have hwhole : ∀ edge ∈ problem.precedenceEdges, ∀ r r' lag,
      EdgeLag problem assignments edge r r' lag → lag = wholeSeconds lag * microsPerSecond := by
    intro edge hm r r' lag hlag
    obtain ⟨ps, pe, ss, se, hp, hs, rfl⟩ := hlag
    obtain ⟨start, _, rfl, -⟩ := occupies_tick assignments _ _ _ _ hs (successor_active h edge hm)
    obtain ⟨n, hn⟩ := Int.dvd_sub (hticks start) (hends _ _ _ _ hp)
    rw [hn, Int.mul_comm, wholeSeconds_exact]
  have hpos : (0 : Int) ≤ microsPerSecond := by decide
  constructor
  · intro edge hm _ r r' lag hlag hout
    refine ⟨edge, hm, r, r', lag, hlag, (outsideBySeconds_iff h edge hm lag).mpr ?_⟩
    rw [hwhole edge hm r r' lag hlag] at hout
    cases hout with
    | inl hshort => exact .inl (lt_of_mul_lt_mul_right hshort hpos)
    | inr hpast =>
      obtain ⟨maximum, hmax, hlt⟩ := hpast
      exact .inr ⟨maximum, hmax, lt_of_mul_lt_mul_right hlt hpos⟩
  · intro edge hm _ r r' lag hlag hcross hshort
    refine ⟨edge, hm, r, r', lag, hlag, hcross,
      (shortBySeconds_iff _ lag (h.edges edge hm).transport_nonneg).mpr ?_⟩
    rw [hwhole edge hm r r' lag hlag] at hshort
    exact lt_of_mul_lt_mul_right hshort hpos

/-! ### The whole report -/

/-- What the validator reports of a rule: C-002 and C-009 by truncated lags. -/
def ReportedRule (problem : PlanningProblem) (assignments : List Assignment) :
    ConstraintId → Prop
  | .c002 => ∃ edge ∈ problem.precedenceEdges, ∃ r r' lag,
      EdgeLag problem assignments edge r r' lag ∧ OutsideBySeconds edge lag
  | .c009 => ∃ edge ∈ problem.precedenceEdges, ∃ r r' lag,
      EdgeLag problem assignments edge r r' lag ∧ CrossWorkshop problem r r' ∧
        ShortBySeconds edge.transportLagSeconds lag
  | k => BreaksRule problem assignments k

theorem evaluate_isOk (candidate : Json) :
    (∃ vs, evaluate problem candidate = .ok vs) ↔
      Representable problem (candidateAssignments candidate) := by
  simp only [evaluate, instantAt, h.start_eq, h.end_eq, bind_eq_ok, Except.ok.injEq,
    exists_eq_left', materializeAssignments_fst]
  constructor
  · intro hall
    obtain ⟨_, endpoints, -, calendar, hcalendar, gates, hgates, facts, hfacts, locks, hlocks,
      durations, -, horizon, hhorizon, -⟩ := hall
    exact
      { placed := (evaluateC005_isOk h _).mp ⟨calendar, hcalendar⟩
        gated := (evaluateC006_isOk h _).mp ⟨gates, hgates⟩
        running := (evaluateC007_isOk h _).mp ⟨facts, hfacts⟩
        locked := (evaluateC008_isOk h _).mp ⟨locks, hlocks⟩
        notStarted := (evaluateC011_isOk h _).mp ⟨horizon, hhorizon⟩ }
  · intro hrep
    obtain ⟨endpoints, hendpoints⟩ := endpointMaps_isOk h _ hrep.placed
    obtain ⟨calendar, hcalendar⟩ := (evaluateC005_isOk h _).mpr hrep.placed
    obtain ⟨gates, hgates⟩ := (evaluateC006_isOk h _).mpr hrep.gated
    obtain ⟨facts, hfacts⟩ := (evaluateC007_isOk h _).mpr hrep.running
    obtain ⟨locks, hlocks⟩ := (evaluateC008_isOk h _).mpr hrep.locked
    obtain ⟨durations, hdurations⟩ := evaluateC010_ok h (candidateAssignments candidate)
    obtain ⟨horizon, hhorizon⟩ := (evaluateC011_isOk h _).mpr hrep.notStarted
    exact ⟨_, endpoints, hendpoints, calendar, hcalendar, gates, hgates, facts, hfacts, locks,
      hlocks, durations, hdurations, horizon, hhorizon, rfl⟩

theorem reports_evaluate (candidate : Json) (vs : List Violation)
    (hok : evaluate problem candidate = .ok vs) (k : ConstraintId) :
    Reports vs k ↔ (k = .c001 ∧ Malformed problem candidate) ∨
      ReportedRule problem (candidateAssignments candidate) k := by
  simp only [evaluate, instantAt, h.start_eq, h.end_eq, bind_eq_ok, Except.ok.injEq,
    exists_eq_left', materializeAssignments_fst] at hok
  obtain ⟨endpoints, hendpoints, calendar, hcalendar, gates, hgates, facts, hfacts, locks, hlocks,
      durations, hdurations, horizon, hhorizon, hvs⟩ := hok
  injection hvs with hvs
  subst hvs
  have hlags : ∀ edge ∈ problem.precedenceEdges, ∀ lag,
      (wholeSeconds lag < edge.transportLagSeconds ↔
        ShortBySeconds edge.transportLagSeconds lag) := fun edge hm lag =>
    (shortBySeconds_iff _ lag (h.edges edge hm).transport_nonneg).symm
  simp only [reports_append, reports_materialization, reports_evaluateC001,
    reports_evaluateC002 h _ _ hendpoints, reports_evaluateC003, reports_evaluateC004 _ _ _ _ h,
    reports_evaluateC005 h _ _ hcalendar, reports_evaluateC006 h _ _ hgates,
    reports_evaluateC007 h _ _ hfacts, reports_evaluateC008 h _ _ hlocks,
    reports_evaluateC009 h _ _ hendpoints, reports_evaluateC010 h _ _ hdurations,
    reports_evaluateC011 h _ _ hhorizon]
  -- every evaluator but its own says nothing of a rule
  cases k <;> simp only [reduceCtorEq, false_and, true_and, or_false, false_or, ReportedRule]
  · refine exists_congr fun edge => and_congr_right fun hm => exists₃_congr fun r r' lag =>
      and_congr_right fun _ => (outsideBySeconds_iff h edge hm lag).symm
  · rfl
  · refine exists_congr fun edge => and_congr_right fun hm => exists₃_congr fun r r' lag =>
      and_congr_right fun _ => and_congr_right fun _ => hlags edge hm lag

end

theorem validatedProblem_facts (problem : PlanningProblem)
    (h : validatedProblem problem = .ok ()) :
    ∃ horizonStart horizonEnd, ContractFacts problem horizonStart horizonEnd := by
  unfold validatedProblem at h
  split at h
  · cases h
  · rename_i hbuilt
    exact builtProblem_facts problem hbuilt

/-- The validator returns a report of a valid problem when the ticks are in range. -/
theorem validateProblemSchedule_eq_ok (problem : PlanningProblem) (candidate : Json)
    (report : Report) :
    validateProblemSchedule problem candidate = .ok report ↔
      validatedProblem problem = .ok () ∧ ∃ vs, evaluate problem candidate = .ok vs ∧
        report =
          { validationReportVersion := validationReportContract
            problemHash := problem.problemHash
            status := if (sortByKey violationSortKey vs).length = 0 then "PASS" else "FAIL"
            hardViolationCount := (sortByKey violationSortKey vs).length
            violations := sortByKey violationSortKey vs } := by
  simp only [validateProblemSchedule, bind_eq_ok, exists_unit_iff]
  refine and_congr_right fun _ => exists_congr fun vs => and_congr_right fun _ => ?_
  constructor
  · intro heq
    injection heq with heq
    exact heq.symm
  · rintro rfl
    rfl

theorem reports_report (problem : PlanningProblem) (candidate : Json) (report : Report)
    (hok : validateProblemSchedule problem candidate = .ok report) (k : ConstraintId) :
    Reports report.violations k ↔ (k = .c001 ∧ Malformed problem candidate) ∨
      ReportedRule problem (candidateAssignments candidate) k := by
  obtain ⟨hvalid, vs, hvs, rfl⟩ := (validateProblemSchedule_eq_ok problem candidate report).mp hok
  obtain ⟨_, _, h⟩ := validatedProblem_facts problem hvalid
  rw [reports_sortByKey, reports_evaluate h candidate vs hvs k]

theorem nil_of_not_reports (violations : List Violation)
    (h : ∀ k, ¬Reports violations k) : violations = [] := by
  cases violations with
  | nil => rfl
  | cons v rest => exact absurd ⟨v, List.mem_cons_self .., rfl⟩ (h v.constraintId)

/-- A report that passes is one without a reported rule, of ticks in range. -/
theorem validate_pass_iff (problem : PlanningProblem) (candidate : Json) :
    (∃ report, validateProblemSchedule problem candidate = .ok report ∧
      report.status = "PASS") ↔
    validatedProblem problem = .ok () ∧
      Representable problem (candidateAssignments candidate) ∧ ¬Malformed problem candidate ∧
      ∀ k, ¬ReportedRule problem (candidateAssignments candidate) k := by
  constructor
  · intro hall
    obtain ⟨report, hok, hstatus⟩ := hall
    have hreports := reports_report problem candidate report hok
    obtain ⟨hvalid, vs, hvs, hreport⟩ := (validateProblemSchedule_eq_ok _ _ _).mp hok
    obtain ⟨_, _, h⟩ := validatedProblem_facts problem hvalid
    have hnil : report.violations = [] := by
      rw [hreport] at hstatus ⊢
      by_contra hne
      have hlen : (sortByKey violationSortKey vs).length ≠ 0 := fun hzero =>
        hne (List.length_eq_zero_iff.mp hzero)
      simp only [hlen, if_false] at hstatus
      exact absurd hstatus (by decide)
    rw [hnil] at hreports
    refine ⟨hvalid, (evaluate_isOk h candidate).mp ⟨vs, hvs⟩, fun hmalformed => ?_, fun k hrule => ?_⟩
    · exact reports_nil .c001 ((hreports .c001).mpr (.inl ⟨rfl, hmalformed⟩))
    · exact reports_nil k ((hreports k).mpr (.inr hrule))
  · intro hall
    obtain ⟨hvalid, hrep, hshape, hrules⟩ := hall
    obtain ⟨_, _, h⟩ := validatedProblem_facts problem hvalid
    obtain ⟨vs, hvs⟩ := (evaluate_isOk h candidate).mpr hrep
    have hnil : vs = [] := by
      refine nil_of_not_reports vs fun k hreports => ?_
      cases (reports_evaluate h candidate vs hvs k).mp hreports with
      | inl hmalformed => exact hshape hmalformed.2
      | inr hrule => exact hrules k hrule
    refine ⟨_, (validateProblemSchedule_eq_ok problem candidate _).mpr ⟨hvalid, vs, hvs, rfl⟩, ?_⟩
    simp [hnil]

/-- **The validator reports exactly the broken constraints** if and only if it accepts the
problem, the restored ticks are in range and no completed operation's lag is outside its
bound by a fraction of a second only. -/
theorem validator_exact_iff (problem : PlanningProblem) (candidate : Json) :
    (∃ report, validateProblemSchedule problem candidate = .ok report ∧
      ∀ k, Reports report.violations k ↔ Breaks k problem candidate) ↔
    validatedProblem problem = .ok () ∧
      Representable problem (candidateAssignments candidate) ∧
      NoSubsecondSlack problem (candidateAssignments candidate) := by
  constructor
  · intro hall
    obtain ⟨report, hok, hexact⟩ := hall
    obtain ⟨hvalid, vs, hvs, -⟩ := (validateProblemSchedule_eq_ok _ _ _).mp hok
    obtain ⟨_, _, h⟩ := validatedProblem_facts problem hvalid
    refine ⟨hvalid, (evaluate_isOk h candidate).mp ⟨vs, hvs⟩, (noSubsecondSlack_iff h _).mpr ?_⟩
    simp only [reports_report problem candidate report hok, Breaks] at hexact
    exact ⟨by simpa [ReportedRule] using hexact .c002, by simpa [ReportedRule] using hexact .c009⟩
  · intro hall
    obtain ⟨hvalid, hrep, hslack⟩ := hall
    obtain ⟨_, _, h⟩ := validatedProblem_facts problem hvalid
    obtain ⟨vs, hvs⟩ := (evaluate_isOk h candidate).mpr hrep
    have hok := (validateProblemSchedule_eq_ok problem candidate _).mpr ⟨hvalid, vs, hvs, rfl⟩
    refine ⟨_, hok, fun k => ?_⟩
    rw [reports_report problem candidate _ hok, Breaks]
    obtain ⟨hwindow, htransport⟩ := (noSubsecondSlack_iff h _).mp hslack
    refine or_congr_right ?_
    cases k
    case c002 => exact hwindow
    case c009 => exact htransport
    all_goals exact Iff.rfl

/-! ### When the validator returns -/

/-- **The validator returns a report** on a problem it accepts if and only if every tick it
restores is in the range of `datetime`. -/
theorem validator_returns_iff (problem : PlanningProblem) (candidate : Json)
    (hvalid : validatedProblem problem = .ok ()) :
    (∃ report, validateProblemSchedule problem candidate = .ok report) ↔
      Representable problem (candidateAssignments candidate) := by
  obtain ⟨_, _, h⟩ := validatedProblem_facts problem hvalid
  rw [← evaluate_isOk h candidate]
  constructor
  · intro hall
    obtain ⟨report, hok⟩ := hall
    obtain ⟨-, vs, hvs, -⟩ := (validateProblemSchedule_eq_ok _ _ _).mp hok
    exact ⟨vs, hvs⟩
  · intro hall
    obtain ⟨vs, hvs⟩ := hall
    exact ⟨_, (validateProblemSchedule_eq_ok problem candidate _).mpr ⟨hvalid, vs, hvs, rfl⟩⟩

/-! ### A lag the truncation hides -/

/-- An operation completed half a second before the horizon. -/
def slackAnchor : HistoricalCompletionAnchor where
  operationId := "O1"
  executionFactId := "E1"
  resourceId := "R1"
  actualStartAtUtc := "2025-12-31T23:00:00Z"
  actualEndAtUtc := "2025-12-31T23:59:59.500000Z"
  sourceSystem := "MES"
  sourceVersion := "1"
  sourceRecordId := "E1"

/-- An operation that must follow at once the one that was completed. -/
def slackProblem : PlanningProblem :=
  sealProblem
    { plainProblem with
      operationInstances := [plainOperation "O2"]
      historicalCompletionAnchors := [slackAnchor]
      precedenceEdges := [⟨"P1", "O1", "O2", 0, 0, some 0⟩] }

/-- The operation in the horizon's first minute. -/
def slackCandidate : Json :=
  .obj
    [("problem", problemReference slackProblem),
     ("assignments", .arr
       [.obj
         [("operation_id", .str "O2"), ("resource_id", .str "R1"), ("start_tick", .int 0),
          ("end_tick", .int 1), ("duration_ticks", .int 1), ("duration_seconds", .int 60),
          ("start_at_utc", .str "2026-01-01T00:00:00Z"),
          ("end_at_utc", .str "2026-01-01T00:01:00Z"), ("lock_ids", .arr []),
          ("execution_fact_ids", .arr [])]])]

/-- A sealed document that passes the contract is one the validator accepts. -/
theorem validatedProblem_seal (problem : PlanningProblem)
    (h : validateBuiltProblemV2 (sealProblem problem) = .ok ()) :
    validatedProblem (sealProblem problem) = .ok () := by
  unfold validatedProblem
  rw [h]
  exact if_pos rfl

theorem slackProblem_valid : validatedProblem slackProblem = .ok () :=
  validatedProblem_seal _ (by decide +kernel)

theorem referencesProblem_self (problem : PlanningProblem) (candidate : Json)
    (h : candidate.get "problem" = problemReference problem) :
    referencesProblem problem candidate = true := by
  rw [referencesProblem, h]
  simp [problemReference, isObject, Json.pyEq, Json.pyEqMembers, Json.number]

/-- The only assignment of the slack candidate. -/
def slackAssignment : Assignment where
  index := 0
  operationId := "O2"
  resourceId := some "R1"
  startTick := some 0
  endTick := some 1
  durationTicks := some 1
  startAtUtc := instant (.str "2026-01-01T00:00:00Z")
  endAtUtc := instant (.str "2026-01-01T00:01:00Z")
  durationSeconds := some 60
  lockIds := []
  executionFactIds := []

/-- The successor starts half a second after a predecessor it must follow at once, and the
validator passes the candidate. -/
theorem slackCandidate_unreported :
    validatedProblem slackProblem = .ok () ∧ Breaks .c002 slackProblem slackCandidate ∧
      ∃ report, validateProblemSchedule slackProblem slackCandidate = .ok report ∧
        report.status = "PASS" ∧ report.violations = [] := by
  have hvalid := slackProblem_valid
  have hassignments : candidateAssignments slackCandidate = [slackAssignment] := by
    decide +kernel
  refine ⟨hvalid, .inr ?_, ?_⟩
  · rw [hassignments]
    have hcompleted : Occupies slackProblem [slackAssignment] "O1" "R1" _ _ :=
      .completed slackAnchor (List.mem_singleton_self _)
    have hassigned : Occupies slackProblem [slackAssignment] "O2" "R1" _ _ :=
      .assigned slackAssignment "R1" 0 1 (by decide) (by decide) rfl ⟨rfl, rfl, by decide⟩
    exact ⟨⟨"P1", "O1", "O2", 0, 0, some 0⟩, List.mem_singleton_self _, "R1", "R1", 500000,
      ⟨_, _, _, _, hcompleted, hassigned, by decide +kernel⟩, .inr ⟨0, rfl, by decide⟩⟩
  · -- the hash is compared by name, the rest is evaluated
    have hreference : referenceViolations slackProblem slackCandidate = [] :=
      if_pos (referencesProblem_self slackProblem slackCandidate rfl)
    have hmaterialized : (materializeAssignments slackProblem slackCandidate).2 = [] := by
      change referenceViolations slackProblem slackCandidate ++ _ = []
      rw [hreference]
      exact List.length_eq_zero_iff.mp (by decide +kernel)
    have hevaluate : (evaluate slackProblem slackCandidate).toOption.map List.length = some 0 := by
      simp only [evaluate, materializeAssignments_fst, hassignments, hmaterialized]
      decide +kernel
    cases hvs : evaluate slackProblem slackCandidate with
    | error e =>
      rw [hvs] at hevaluate
      cases hevaluate
    | ok vs =>
      rw [hvs] at hevaluate
      have hnil : vs = [] := by simpa [Except.toOption] using hevaluate
      exact ⟨_, (validateProblemSchedule_eq_ok _ _ _).mpr ⟨hvalid, vs, hvs, rfl⟩,
        by simp [hnil], by simp [hnil, sortByKey]⟩

/-- The validator returns on the slack candidate: its ticks are in range. -/
theorem validator_returns_slack :
    ∃ report, validateProblemSchedule slackProblem slackCandidate = .ok report := by
  have hvalid := slackProblem_valid
  obtain ⟨_, _, h⟩ := validatedProblem_facts slackProblem hvalid
  refine (validator_returns_iff slackProblem slackCandidate hvalid).mpr
    ((evaluate_isOk h slackCandidate).mp ?_)
  cases hvs : evaluate slackProblem slackCandidate with
  | ok vs => exact ⟨vs, rfl⟩
  | error e =>
    have hok : (evaluate slackProblem slackCandidate).isOk = true := by decide +kernel
    rw [hvs] at hok
    cases hok

/-- An assignment that starts ten million million ticks after the horizon start. -/
def distantCandidate : Json :=
  .obj
    [("problem", problemReference slackProblem),
     ("assignments", .arr
       [.obj
         [("operation_id", .str "O2"), ("resource_id", .str "R1"),
          ("start_tick", .int 10000000000000), ("end_tick", .int 10000000000001),
          ("duration_ticks", .int 1), ("duration_seconds", .int 60),
          ("start_at_utc", .str "2026-01-01T00:00:00Z"),
          ("end_at_utc", .str "2026-01-01T00:01:00Z"), ("lock_ids", .arr []),
          ("execution_fact_ids", .arr [])]])]

/-- The validator raises on a start tick beyond the range of `datetime`. -/
theorem distantCandidate_raises :
    validatedProblem slackProblem = .ok () ∧
      validateProblemSchedule slackProblem distantCandidate = .error .overflow := by
  have hvalid := slackProblem_valid
  have hevaluate : evaluate slackProblem distantCandidate = .error .overflow := rfl
  refine ⟨hvalid, ?_⟩
  rw [validateProblemSchedule, hvalid, hevaluate]
  rfl

end PlantNexus.Validation
