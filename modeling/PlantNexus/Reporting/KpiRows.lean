import PlantNexus.Backend.Measurement
import PlantNexus.Plan.Feasible
import PlantNexus.Problem.Contents
import PlantNexus.Reporting.Kpi

/-! Metric rows of a schedule.

On a plan the rows are counts of microseconds. What an operation occupies on a resource is off the
unavailable intervals and inside the horizon, so busy time fits into what they leave
(`resourceRow_facts`), and the rows of the demands add up to the weighted tardiness of the plan
(`deliveryRows_facts`). -/
namespace PlantNexus.Reporting
open Data Time Domain Problem Validation Plan

/-! ### Exact seconds -/

theorem exactSeconds_eq_ok (later earlier : Datetime) (field : String) (n : Int) :
    exactSeconds later earlier field = .ok n ↔
      later.micros - earlier.micros = n * microsPerSecond := by
  simp only [exactSeconds, bind_eq_ok, exists_unit_iff, require_eq_ok, pure, Except.pure,
    Except.ok.injEq]
  rw [Datetime.sub, microsPerSecond]
  omega

theorem kpiInstant_eq_ok (value : String) (d : Datetime) :
    kpiInstant value = .ok d ↔ parseUtcInstant value = .ok d := by
  unfold kpiInstant
  split <;> simp_all

/-- Amounts that are multiples add up to the multiple of the sum. -/
theorem sum_scaled {α : Type} {g : α → Int} {scale : Int} {xs : List α} {ns : List Int}
    (h : List.Forall₂ (fun x n => g x = n * scale) xs ns) :
    (∀ x ∈ xs, scale ∣ g x) ∧ (xs.map g).sum = ns.sum * scale := by
  induction h with
  | nil =>
    refine ⟨fun x hx => ?_, ?_⟩
    · cases hx
    · rw [List.sum_nil, Int.zero_mul]
      rfl
  | @cons x n xs ns hx _ ih =>
    refine ⟨List.forall_mem_cons.mpr ⟨⟨n, hx.trans (Int.mul_comm _ _)⟩, ih.1⟩, ?_⟩
    rw [List.map_cons, List.sum_cons, List.sum_cons, ih.2, hx, Int.add_mul]

theorem exists_scaled {α : Type} {g : α → Int} {scale : Int} {xs : List α}
    (h : ∀ x ∈ xs, scale ∣ g x) : ∃ ns, List.Forall₂ (fun x n => g x = n * scale) xs ns := by
  induction xs with
  | nil => exact ⟨[], .nil⟩
  | cons x xs ih =>
    obtain ⟨n, hn⟩ := h x (List.mem_cons_self ..)
    obtain ⟨ns, hns⟩ := ih fun y hy => h y (List.mem_cons_of_mem x hy)
    exact ⟨n :: ns, .cons (hn.trans (Int.mul_comm _ _)) hns⟩

/-! ### Merged intervals -/

def inMicros (x : Datetime × Datetime) : Int × Int :=
  Prod.map Datetime.micros Datetime.micros x

theorem mergeIntervals_inMicros (intervals : List (Datetime × Datetime)) :
    (mergeIntervals intervals).map inMicros = mergeIntervals (intervals.map inMicros) :=
  (mergeIntervals_map (fun d e h => (Datetime.lt_iff d e).mp h) intervals).symm

/-- **Merged seconds are what the intervals cover**, where every merged interval is of whole
seconds. -/
theorem mergedIntervalSeconds_eq_ok {intervals : List (Datetime × Datetime)}
    (h : ∀ x ∈ intervals.map inMicros, x.1 ≤ x.2) (n : Int) :
    mergedIntervalSeconds intervals = .ok n ↔
      (∀ x ∈ mergeIntervals (intervals.map inMicros), microsPerSecond ∣ intervalLength x) ∧
        n * microsPerSecond = (covered (intervals.map inMicros)).card := by
  have hlengths : ∀ lengths, collect (fun interval =>
      exactSeconds interval.2 interval.1 "resource interval") (mergeIntervals intervals) =
        .ok lengths ↔ List.Forall₂ (fun x n => intervalLength x = n * microsPerSecond)
          (mergeIntervals (intervals.map inMicros)) lengths := by
    intro lengths
    rw [collect_eq_ok_iff, ← mergeIntervals_inMicros, List.forall₂_map_left_iff]
    simp only [exactSeconds_eq_ok]
    exact Iff.rfl
  simp only [mergedIntervalSeconds, bind_eq_ok, hlengths, pure, Except.pure, Except.ok.injEq]
  rw [← mergeIntervals_length h]
  constructor
  · rintro ⟨lengths, hscaled, rfl⟩
    obtain ⟨hdvd, hsum⟩ := sum_scaled hscaled
    exact ⟨hdvd, hsum.symm⟩
  · rintro ⟨hdvd, hsum⟩
    obtain ⟨lengths, hscaled⟩ := exists_scaled hdvd
    refine ⟨lengths, hscaled, ?_⟩
    rw [(sum_scaled hscaled).2] at hsum
    exact (Int.eq_of_mul_eq_mul_right (by decide) hsum).symm

theorem mergedIntervalSeconds_isOk {intervals : List (Datetime × Datetime)}
    (h : ∀ x ∈ intervals.map inMicros, x.1 ≤ x.2) :
    (∃ n, mergedIntervalSeconds intervals = .ok n) ↔
      ∀ x ∈ mergeIntervals (intervals.map inMicros), microsPerSecond ∣ intervalLength x := by
  simp only [mergedIntervalSeconds_eq_ok h]
  constructor
  · rintro ⟨n, hdvd, -⟩
    exact hdvd
  · intro hdvd
    obtain ⟨lengths, hscaled⟩ := exists_scaled hdvd
    exact ⟨lengths.sum, hdvd, by rw [← mergeIntervals_length h, (sum_scaled hscaled).2]⟩

/-! ### The schedule of a candidate -/

/-- The unavailable intervals of a resource, as far as they are inside the horizon. -/
def unavailableInside (problem : PlanningProblem) (resourceId : String) : List (Int × Int) :=
  clip (instantMicros problem.horizonStartUtc) (instantMicros problem.horizonEndUtc)
    (unavailableOn problem resourceId)

/-- Demands are due on whole seconds, and what the calendars take from a resource inside the
horizon are stretches of whole seconds. -/
structure WholeSeconds (problem : PlanningProblem) : Prop where
  due : ∀ demand ∈ problem.deliveryDemands, microsPerSecond ∣ instantMicros demand.dueAtUtc
  unavailable : ∀ resource ∈ problem.resources,
    ∀ x ∈ mergeIntervals (unavailableInside problem resource.resourceId),
      microsPerSecond ∣ intervalLength x

/-- The assignment of a placement, as it is read. -/
def scheduledOf (p : Placement) : ScheduledOperation :=
  ⟨p.operationId, p.resourceId, p.start, p.stop⟩

/-- What is used of a plan that a passing candidate says. -/
structure Schedule (problem : PlanningProblem) (horizonStart horizonEnd : Datetime)
    (plan : List Placement) : Prop where
  contract : ContractFacts problem horizonStart horizonEnd
  built : BuiltProblem problem horizonStart horizonEnd
  covers : Covers problem plan
  positive : ∀ p ∈ plan, p.start < p.stop
  inside : ∀ p ∈ plan, instantMicros problem.horizonStartUtc ≤ tickMicros problem p.start ∧
    tickMicros problem p.stop ≤ instantMicros problem.horizonEndUtc
  apart : plan.Pairwise Apart
  calendar : ∀ p ∈ plan, ∀ interval ∈ problem.resourceUnavailableIntervals,
    interval.resourceId = p.resourceId → Avoids problem p interval

section
variable {problem : PlanningProblem} {horizonStart horizonEnd : Datetime} {plan : List Placement}
  (h : Schedule problem horizonStart horizonEnd plan)

/-! ### Resources -/

/-- The placements on a resource, in microseconds. -/
def placedOn (problem : PlanningProblem) (plan : List Placement) (resourceId : String) :
    List (Int × Int) :=
  (plan.filter fun p => p.resourceId = resourceId).map fun p =>
    (tickMicros problem p.start, tickMicros problem p.stop)

/-- Busy seconds are the length of the placements. -/
theorem busySeconds_eq (resourceId : String) :
    busySeconds problem (plan.map scheduledOf) resourceId * microsPerSecond =
      ((placedOn problem plan resourceId).map intervalLength).sum := by
  induction plan with
  | nil => rfl
  | cons p rest ih =>
    by_cases hres : p.resourceId = resourceId
    · have hlength : intervalLength (tickMicros problem p.start, tickMicros problem p.stop) =
          (p.stop - p.start) * problem.tickSeconds * microsPerSecond := by
        rw [intervalLength, tickMicros, tickMicros]
        ring
      simp only [busySeconds, placedOn, List.map_cons, List.filter_cons, scheduledOf, hres,
        decide_true, if_true, List.sum_cons, Int.add_mul, hlength] at ih ⊢
      rw [← ih]
    · simp only [busySeconds, placedOn, List.map_cons, List.filter_cons, scheduledOf, hres,
        decide_false, Bool.false_eq_true, if_false] at ih ⊢
      exact ih

include h

theorem placedOn_length_le (resourceId : String) :
    ((placedOn problem plan resourceId).map intervalLength).sum ≤
      ((Finset.Ico (instantMicros problem.horizonStartUtc)
        (instantMicros problem.horizonEndUtc) \
          covered (unavailableOn problem resourceId)).card : Int) := by
  have hmem : ∀ x ∈ placedOn problem plan resourceId, ∃ p ∈ plan, p.resourceId = resourceId ∧
      x = (tickMicros problem p.start, tickMicros problem p.stop) := by
    intro x hx
    obtain ⟨p, hp, rfl⟩ := List.mem_map.mp hx
    obtain ⟨hp, hres⟩ := List.mem_filter.mp hp
    exact ⟨p, hp, of_decide_eq_true hres, rfl⟩
  have hle : ∀ s t, s ≤ t → tickMicros problem s ≤ tickMicros problem t := by
    intro s t hst
    exact not_lt.mp fun hlt => absurd ((tickMicros_lt_iff h.contract t s).mp hlt) (not_lt.mpr hst)
  apply apart_length_le
  · intro x hx
    obtain ⟨p, hp, -, rfl⟩ := hmem x hx
    exact hle _ _ (h.positive p hp).le
  · rw [placedOn, List.pairwise_map]
    refine List.Pairwise.imp_of_mem ?_ (h.apart.filter _)
    intro p q hp hq hapart
    have hp := of_decide_eq_true (List.mem_filter.mp hp).2
    have hq := of_decide_eq_true (List.mem_filter.mp hq).2
    cases hapart (hp.trans hq.symm) with
    | inl hbefore => exact .inl (hle _ _ hbefore)
    | inr hafter => exact .inr (hle _ _ hafter)
  · intro x hx
    obtain ⟨p, hp, -, rfl⟩ := hmem x hx
    exact h.inside p hp
  · intro x hx y hy
    obtain ⟨p, hp, hres, rfl⟩ := hmem x hx
    obtain ⟨interval, hinterval, rfl⟩ := List.mem_map.mp hy
    obtain ⟨hinterval, hof⟩ := List.mem_filter.mp hinterval
    exact (h.calendar p hp interval hinterval ((of_decide_eq_true hof).trans hres.symm)).symm

omit h in
/-- The clipped intervals of a resource are the parts inside the horizon. -/
theorem unavailableOf_eq (h : ContractFacts problem horizonStart horizonEnd)
    {clipped : List (Option (String × Datetime × Datetime))}
    (hclipped : collect (clippedInterval horizonStart horizonEnd)
      problem.resourceUnavailableIntervals = .ok clipped) (resourceId : String) :
    (unavailableOf (clipped.filterMap id) resourceId).map inMicros =
      unavailableInside problem resourceId := by
  have hmax : ∀ d e : Datetime, (max d e).micros = max d.micros e.micros := by
    intro d e
    exact Monotone.map_max fun a b hab => (Datetime.le_iff a b).mp hab
  have hmin : ∀ d e : Datetime, (min d e).micros = min d.micros e.micros := by
    intro d e
    exact Monotone.map_min fun a b hab => (Datetime.le_iff a b).mp hab
  rw [unavailableInside, unavailableOn, instantMicros_eq _ _ h.start_eq,
    instantMicros_eq _ _ h.end_eq]
  have hall := (collect_eq_ok_iff _ _ _).mp hclipped
  clear hclipped
  generalize problem.resourceUnavailableIntervals = items at hall ⊢
  induction hall with
  | nil => rfl
  | @cons item out items outs hitem _ ih =>
    simp only [clippedInterval, bind_eq_ok, kpiInstant_eq_ok, pure, Except.pure,
      Except.ok.injEq] at hitem
    obtain ⟨start, hstart, stop, hstop, rfl⟩ := hitem
    have hlt : max start horizonStart < min stop horizonEnd ↔
        max start.micros horizonStart.micros < min stop.micros horizonEnd.micros := by
      rw [Datetime.lt_iff, hmax, hmin]
    by_cases hres : item.resourceId = resourceId
    · by_cases hinside : max start horizonStart < min stop horizonEnd
      · have hkept := hlt.mp hinside
        simp only [clip, List.filter_cons, hres, decide_true, if_true, List.map_cons, hinside,
          List.filterMap_cons, id, unavailableOf, instantMicros_eq _ _ hstart,
          instantMicros_eq _ _ hstop, hkept] at ih ⊢
        rw [← ih]
        simp only [inMicros, Prod.map, hmax, hmin]
      · have hdropped := hlt.not.mp hinside
        simp only [clip, List.filter_cons, hres, decide_true, if_true, List.map_cons, hinside,
          if_false, List.filterMap_cons, id, instantMicros_eq _ _ hstart,
          instantMicros_eq _ _ hstop, hdropped, decide_false, Bool.false_eq_true] at ih ⊢
        exact ih
    · simp only [List.filter_cons, hres, decide_false, Bool.false_eq_true, if_false] at ih ⊢
      rw [← ih]
      by_cases hinside : max start horizonStart < min stop horizonEnd
      · simp only [hinside, if_true, List.filterMap_cons, id, unavailableOf, List.filter_cons,
          hres, decide_false, Bool.false_eq_true, if_false]
      · simp only [hinside, if_false, List.filterMap_cons, id]

/-- Seconds between the ends of the horizon. -/
theorem horizonSeconds_eq {horizonSeconds : Int}
    (hseconds : exactSeconds horizonEnd horizonStart "problem.horizon" = .ok horizonSeconds) :
    horizonSeconds * microsPerSecond =
      instantMicros problem.horizonEndUtc - instantMicros problem.horizonStartUtc := by
  rw [instantMicros_eq _ _ h.contract.start_eq, instantMicros_eq _ _ h.contract.end_eq]
  exact ((exactSeconds_eq_ok _ _ _ _).mp hseconds).symm

section
variable {ratio : Int → Int → ℚ} {horizonSeconds : Int}
  (hhorizon : horizonSeconds * microsPerSecond =
    instantMicros problem.horizonEndUtc - instantMicros problem.horizonStartUtc)
  {clipped : List (String × Datetime × Datetime)}
  (hclipped : ∀ id, (unavailableOf clipped id).map inMicros = unavailableInside problem id)
include hhorizon hclipped

omit h hhorizon in
theorem clipped_ordered (resourceId : String) :
    ∀ x ∈ (unavailableOf clipped resourceId).map inMicros, x.1 ≤ x.2 := by
  rw [hclipped]
  exact fun x hx => le_of_mem_clip hx

/-- What is left of the horizon is what the unavailable intervals do not cover. -/
theorem available_eq {resourceId : String} {merged : Int}
    (hmerged : mergedIntervalSeconds (unavailableOf clipped resourceId) = .ok merged) :
    (horizonSeconds - merged) * microsPerSecond =
      ((Finset.Ico (instantMicros problem.horizonStartUtc)
        (instantMicros problem.horizonEndUtc) \
          covered (unavailableOn problem resourceId)).card : Int) := by
  have hle : instantMicros problem.horizonStartUtc ≤ instantMicros problem.horizonEndUtc := by
    rw [instantMicros_eq _ _ h.contract.start_eq, instantMicros_eq _ _ h.contract.end_eq]
    exact h.contract.horizon.le
  have hcovered :=
    (mergedIntervalSeconds_eq_ok (clipped_ordered hclipped resourceId) merged).mp hmerged
  rw [hclipped] at hcovered
  rw [card_uncovered hle, Int.sub_mul, hhorizon, hcovered.2]
  rfl

/-- Busy time fits into what the calendar leaves. -/
theorem busySeconds_le {resourceId : String} {merged : Int}
    (hmerged : mergedIntervalSeconds (unavailableOf clipped resourceId) = .ok merged) :
    busySeconds problem (plan.map scheduledOf) resourceId ≤ horizonSeconds - merged := by
  have hle := placedOn_length_le h resourceId
  rw [← busySeconds_eq, ← available_eq h hhorizon hclipped hmerged] at hle
  exact le_of_mul_le_mul_right hle (by decide)

/-- **A resource has a row exactly when its unavailable intervals are of whole seconds.** -/
theorem resourceRow_isOk (resource : Resource) :
    (∃ row, resourceRow problem (plan.map scheduledOf) ratio horizonSeconds clipped resource =
        .ok row) ↔
      ∀ x ∈ mergeIntervals (unavailableInside problem resource.resourceId),
        microsPerSecond ∣ intervalLength x := by
  rw [← hclipped, ← mergedIntervalSeconds_isOk (clipped_ordered hclipped _)]
  constructor
  · rintro ⟨row, hrow⟩
    obtain ⟨merged, hmerged, -⟩ := bind_eq_ok.mp hrow
    exact ⟨merged, hmerged⟩
  · rintro ⟨merged, hmerged⟩
    have hfits := busySeconds_le h hhorizon hclipped hmerged
    exact ⟨_, bind_eq_ok.mpr ⟨merged, hmerged,
      bind_unit_eq_ok.mpr ⟨(require_eq_ok _ _ ()).mpr hfits, rfl⟩⟩⟩

/-- What the row of a resource says. -/
structure ResourceCounts (problem : PlanningProblem) (horizonSeconds : Int) (row : ResourceRow) :
    Prop where
  busy_nonneg : 0 ≤ row.plannedBusySeconds
  busy_le : row.plannedBusySeconds ≤ row.availableSeconds
  available_le : row.availableSeconds ≤ horizonSeconds
  available_eq : row.availableSeconds * microsPerSecond =
    ((Finset.Ico (instantMicros problem.horizonStartUtc) (instantMicros problem.horizonEndUtc) \
      covered (unavailableOn problem row.resourceId)).card : Int)

theorem resourceRow_facts {resource : Resource} {row : ResourceRow}
    (hrow : resourceRow problem (plan.map scheduledOf) ratio horizonSeconds clipped resource =
      .ok row) :
    row.resourceId = resource.resourceId ∧ ResourceCounts problem horizonSeconds row := by
  simp only [resourceRow, bind_eq_ok, exists_unit_iff, require_eq_ok, pure, Except.pure,
    Except.ok.injEq] at hrow
  obtain ⟨merged, hmerged, hfits, rfl⟩ := hrow
  have hbusy : 0 ≤ busySeconds problem (plan.map scheduledOf) resource.resourceId := by
    refine List.sum_nonneg ?_
    intro n hn
    obtain ⟨a, ha, rfl⟩ := List.mem_map.mp hn
    obtain ⟨p, hp, rfl⟩ := List.mem_map.mp (List.mem_filter.mp ha).1
    have hpositive := h.positive p hp
    have htick := h.contract.tick_pos
    exact mul_nonneg (by simp only [scheduledOf]; omega) htick.le
  have hmerged_nonneg : 0 ≤ merged := by
    have hcovered := ((mergedIntervalSeconds_eq_ok (clipped_ordered hclipped _) merged).mp
      hmerged).2
    have hcard : 0 ≤ merged * microsPerSecond := hcovered ▸ Int.natCast_nonneg _
    exact nonneg_of_mul_nonneg_left hcard (by decide)
  exact ⟨rfl, hbusy, hfits, by simp only; omega, available_eq h hhorizon hclipped hmerged⟩

end

/-! ### Every resource -/

/-- The steps before the rows. -/
theorem resourceRows_steps :
    ∃ horizonSeconds clipped,
      horizonSeconds * microsPerSecond =
        instantMicros problem.horizonEndUtc - instantMicros problem.horizonStartUtc ∧
      (∀ id, (unavailableOf clipped id).map inMicros = unavailableInside problem id) ∧
      ∀ ratio, resourceRows problem (plan.map scheduledOf) ratio =
        collect (resourceRow problem (plan.map scheduledOf) ratio horizonSeconds clipped)
          (sortByKey Resource.resourceId problem.resources) := by
  have hclips : ∃ clipped, collect (clippedInterval horizonStart horizonEnd)
      problem.resourceUnavailableIntervals = .ok clipped := by
    rw [collect_isOk]
    intro interval hinterval
    obtain ⟨start, stop, hfacts⟩ := h.contract.intervals interval hinterval
    exact ⟨_, bind_eq_ok.mpr ⟨start, (kpiInstant_eq_ok _ _).mpr hfacts.start_eq,
      bind_eq_ok.mpr ⟨stop, (kpiInstant_eq_ok _ _).mpr hfacts.stop_eq, rfl⟩⟩⟩
  obtain ⟨clipped, hclipped⟩ := hclips
  obtain ⟨seconds, hwhole⟩ := Int.dvd_sub h.built.wholeStop h.built.wholeStart
  have hseconds : exactSeconds horizonEnd horizonStart "problem.horizon" = .ok seconds :=
    (exactSeconds_eq_ok _ _ _ _).mpr (hwhole.trans (Int.mul_comm _ _))
  refine ⟨seconds, clipped.filterMap id, horizonSeconds_eq h hseconds,
    unavailableOf_eq h.contract hclipped, fun ratio => ?_⟩
  rw [resourceRows, (kpiInstant_eq_ok _ _).mpr h.contract.start_eq,
    (kpiInstant_eq_ok _ _).mpr h.contract.end_eq]
  simp only [bind, Except.bind, hseconds, hclipped]

/-- **There are rows for all resources exactly when their unavailable intervals are of whole
seconds.** -/
theorem resourceRows_isOk (ratio : Int → Int → ℚ) :
    (∃ rows, resourceRows problem (plan.map scheduledOf) ratio = .ok rows) ↔
      ∀ resource ∈ problem.resources,
        ∀ x ∈ mergeIntervals (unavailableInside problem resource.resourceId),
          microsPerSecond ∣ intervalLength x := by
  obtain ⟨seconds, clipped, hhorizon, hclipped, hrows⟩ := resourceRows_steps h
  rw [hrows, collect_isOk]
  simp only [mem_sortByKey, resourceRow_isOk h hhorizon hclipped]

/-- The rows of all resources, in order of their ids. -/
theorem resourceRows_facts {ratio : Int → Int → ℚ} {rows : List ResourceRow}
    (hrows : resourceRows problem (plan.map scheduledOf) ratio = .ok rows) :
    rows.map ResourceRow.resourceId =
        (sortByKey Resource.resourceId problem.resources).map Resource.resourceId ∧
      ∃ horizonSeconds, horizonSeconds * microsPerSecond =
          instantMicros problem.horizonEndUtc - instantMicros problem.horizonStartUtc ∧
        ∀ row ∈ rows, ResourceCounts problem horizonSeconds row := by
  obtain ⟨seconds, clipped, hhorizon, hclipped, heq⟩ := resourceRows_steps h
  rw [heq] at hrows
  constructor
  · have hall := (collect_eq_ok_iff _ _ _).mp hrows
    clear hrows
    generalize sortByKey Resource.resourceId problem.resources = resources at hall ⊢
    induction hall with
    | nil => rfl
    | cons hrow _ ih =>
      rw [List.map_cons, List.map_cons, ih, (resourceRow_facts h hhorizon hclipped hrow).1]
  · refine ⟨seconds, hhorizon, fun row hrow => ?_⟩
    obtain ⟨resource, -, hok⟩ := (mem_collect hrows row).mp hrow
    exact (resourceRow_facts h hhorizon hclipped hok).2

/-! ### Demands -/

theorem completionTicks_eq (demandId : String) :
    completionTicks problem (plan.map scheduledOf) demandId =
      Backend.demandStops plan demandId := by
  rw [completionTicks, Backend.demandStops, List.filter_map, List.map_map]
  congr 1
  apply List.filter_congr
  intro p hp
  have hdemand := Backend.demandOf_active h.contract p.operation (h.covers.mem hp)
  simp only [Function.comp_apply, scheduledOf, Placement.operationId, hdemand,
    Option.some.injEq]

/-- Every demand of a built problem has an operation. -/
theorem demandStops_ne_nil {demand : DeliveryDemand} (hdemand : demand ∈ problem.deliveryDemands) :
    Backend.demandStops plan demand.demandOrderId ≠ [] := by
  have hactive := h.built.demands.mem_iff.mp (List.mem_map_of_mem hdemand)
  obtain ⟨operation, hm, hid⟩ := List.mem_map.mp (List.mem_dedup.mp hactive)
  obtain ⟨p, hp, rfl⟩ := h.covers.exists_placement hm
  exact List.ne_nil_of_mem (List.mem_map_of_mem (List.mem_filter.mpr ⟨hp, decide_eq_true hid⟩))

theorem tickMicros_whole (tick : Int) : microsPerSecond ∣ tickMicros problem tick := by
  rw [tickMicros_eq h.contract]
  exact Int.dvd_add h.built.wholeStart (Int.dvd_mul_left _ _)

theorem wholeDue_iff (demand : DeliveryDemand) :
    Backend.WholeDue problem demand ↔ microsPerSecond ∣ instantMicros demand.dueAtUtc := by
  have hstart : microsPerSecond ∣ instantMicros problem.horizonStartUtc := by
    rw [instantMicros_eq _ _ h.contract.start_eq]
    exact h.built.wholeStart
  rw [Backend.WholeDue, Backend.dueOffset]
  obtain ⟨n, hn⟩ := hstart
  rw [hn, microsPerSecond] at *
  omega

/-- The row of a demand, from the plan. -/
def demandRow (problem : PlanningProblem) (plan : List Placement) (demand : DeliveryDemand)
    (completionAt : Datetime) : DeliveryRow :=
  let tardiness := Backend.planTardiness problem plan demand
  ⟨demand.demandOrderId, demand.dueAtUtc, demand.priorityWeight,
    Backend.completionTick plan demand.demandOrderId, formatUtcInstant completionAt, tardiness,
    demand.priorityWeight * tardiness, tardiness = 0⟩

/-- The latest end of a demand has an instant. -/
theorem exists_completionAt {demand : DeliveryDemand}
    (hdemand : demand ∈ problem.deliveryDemands) :
    (completionTicks problem (plan.map scheduledOf) demand.demandOrderId).max? =
        some (Backend.completionTick plan demand.demandOrderId) ∧
      ∃ completionAt : Datetime, completionAt.micros =
        tickMicros problem (Backend.completionTick plan demand.demandOrderId) := by
  have hne := demandStops_ne_nil h hdemand
  obtain ⟨hmem, -⟩ := (Backend.completionTick_iff hne _).mp rfl
  constructor
  · rw [completionTicks_eq h, Backend.completionTick]
    cases hmax : (Backend.demandStops plan demand.demandOrderId).max? with
    | none => exact absurd (List.max?_eq_none_iff.mp hmax) hne
    | some latest => rfl
  · obtain ⟨p, hp, hstop⟩ := List.mem_map.mp hmem
    obtain ⟨hfrom, hto⟩ := h.inside p (List.mem_filter.mp hp).1
    have hlt := (tickMicros_lt_iff h.contract p.start p.stop).mpr
      (h.positive p (List.mem_filter.mp hp).1)
    rw [instantMicros_eq _ _ h.contract.start_eq] at hfrom
    rw [instantMicros_eq _ _ h.contract.end_eq] at hto
    rw [← hstop]
    have hlow := horizonStart.nonneg
    have hhigh := horizonEnd.lt
    exact ⟨⟨tickMicros problem p.stop, by omega, by omega⟩, rfl⟩

/-- The row of a demand, which is there exactly when the demand is due on a whole second. -/
theorem deliveryRow_eq_ok {demand : DeliveryDemand} (hdemand : demand ∈ problem.deliveryDemands)
    (row : DeliveryRow) :
    deliveryRow problem (plan.map scheduledOf) horizonStart demand = .ok row ↔
      Backend.WholeDue problem demand ∧ ∃ completionAt : Datetime,
        completionAt.micros =
          tickMicros problem (Backend.completionTick plan demand.demandOrderId) ∧
        row = demandRow problem plan demand completionAt := by
  obtain ⟨hmax, completionAt, hcompletion⟩ := exists_completionAt h hdemand
  obtain ⟨due, hdue⟩ := h.contract.due demand hdemand
  have hadd : horizonStart.addSeconds
      (Backend.completionTick plan demand.demandOrderId * problem.tickSeconds) =
        some completionAt := by
    rw [Datetime.addSeconds_eq_some, hcompletion, tickMicros_eq h.contract]
  have hunique : ∀ other : Datetime, other.micros =
      tickMicros problem (Backend.completionTick plan demand.demandOrderId) ↔
        completionAt = other := by
    intro other
    rw [Datetime.eq_iff, hcompletion, eq_comm]
  -- the difference to the due instant is exact when the demand is due on a whole second
  have hlate : ∀ late, exactSeconds completionAt due demand.demandOrderId = .ok late ↔
      Backend.WholeDue problem demand ∧
        late = problem.tickSeconds * Backend.completionTick plan demand.demandOrderId -
          Backend.dueOffset problem demand := by
    intro late
    obtain ⟨n, hn⟩ := h.built.wholeStart
    rw [exactSeconds_eq_ok, hcompletion, tickMicros_eq h.contract, Backend.WholeDue,
      Backend.dueOffset, instantMicros_eq _ _ h.contract.start_eq, instantMicros_eq _ _ hdue, hn,
      Int.mul_comm problem.tickSeconds]
    generalize Backend.completionTick plan demand.demandOrderId * problem.tickSeconds = seconds
    rw [microsPerSecond]
    omega
  simp only [deliveryRow, hmax, hadd, bind_eq_ok, kpiInstant_eq_ok, hdue, Except.ok.injEq,
    exists_eq_left', hlate, hunique, pure, Except.pure]
  constructor
  · rintro ⟨_, ⟨hwhole, rfl⟩, rfl⟩
    exact ⟨hwhole, rfl⟩
  · rintro ⟨hwhole, rfl⟩
    exact ⟨_, ⟨hwhole, rfl⟩, rfl⟩

/-- The assignments of a plan that covers the problem pass the coverage check. -/
theorem deliveryRows_eq :
    deliveryRows problem (plan.map scheduledOf) =
      collect (deliveryRow problem (plan.map scheduledOf) horizonStart)
        (sortByKey DeliveryDemand.demandOrderId problem.deliveryDemands) := by
  have hids : (plan.map scheduledOf).map ScheduledOperation.operationId =
      plan.map Placement.operationId := by
    rw [List.map_map]
    rfl
  have hperm := h.covers.ids_perm
  have hnodup : (problem.operationInstances.map OperationInstance.operationId).dedup =
      activeIds problem := List.Nodup.dedup h.contract.operations_nodup
  have hcovered : (∀ id ∈ plan.map Placement.operationId, id ∈ activeIds problem) ∧
      (∀ id ∈ activeIds problem, id ∈ plan.map Placement.operationId) ∧
        (plan.map Placement.operationId).length = (activeIds problem).length :=
    ⟨fun id hid => hperm.mem_iff.mp hid, fun id hid => hperm.mem_iff.mpr hid, hperm.length_eq⟩
  rw [deliveryRows, (kpiInstant_eq_ok _ _).mpr h.contract.start_eq]
  simp only [bind, Except.bind, hids, hnodup, require, if_pos hcovered]

theorem deliveryRows_isOk :
    (∃ rows, deliveryRows problem (plan.map scheduledOf) = .ok rows) ↔
      ∀ demand ∈ problem.deliveryDemands, microsPerSecond ∣ instantMicros demand.dueAtUtc := by
  rw [deliveryRows_eq h, collect_isOk]
  simp only [mem_sortByKey]
  refine forall₂_congr fun demand hdemand => ?_
  simp only [deliveryRow_eq_ok h hdemand, wholeDue_iff h]
  constructor
  · rintro ⟨_, hwhole, -⟩
    exact hwhole
  · intro hwhole
    obtain ⟨-, completionAt, hcompletion⟩ := exists_completionAt h hdemand
    exact ⟨_, hwhole, completionAt, hcompletion, rfl⟩

/-- **The rows of the demands add up to the plan's weighted tardiness.** -/
theorem deliveryRows_facts {rows : List DeliveryRow}
    (hrows : deliveryRows problem (plan.map scheduledOf) = .ok rows) :
    rows.length = problem.deliveryDemands.length ∧
      (rows.map DeliveryRow.priorityWeightedTardinessSeconds).sum =
        Backend.weightedTardiness problem plan := by
  rw [deliveryRows_eq h] at hrows
  have hall := (collect_eq_ok_iff _ _ _).mp hrows
  have hperm := sortByKey_perm DeliveryDemand.demandOrderId problem.deliveryDemands
  have hweighted : rows.map DeliveryRow.priorityWeightedTardinessSeconds =
      (sortByKey DeliveryDemand.demandOrderId problem.deliveryDemands).map fun d =>
        d.priorityWeight * Backend.planTardiness problem plan d := by
    have hmem : ∀ d ∈ sortByKey DeliveryDemand.demandOrderId problem.deliveryDemands,
        d ∈ problem.deliveryDemands := fun d hd => (mem_sortByKey _ _ d).mp hd
    clear hrows hperm
    generalize sortByKey DeliveryDemand.demandOrderId problem.deliveryDemands = demands at hall hmem ⊢
    induction hall with
    | nil => rfl
    | @cons d row demands rows hrow _ ih =>
      obtain ⟨-, completionAt, -, rfl⟩ :=
        (deliveryRow_eq_ok h (hmem d (List.mem_cons_self ..)) row).mp hrow
      rw [List.map_cons, List.map_cons, ih fun e he => hmem e (List.mem_cons_of_mem d he)]
      rfl
  refine ⟨hall.length_eq.symm.trans hperm.length_eq, ?_⟩
  rw [hweighted, Backend.weightedTardiness]
  exact (hperm.map _).sum_eq

end

end PlantNexus.Reporting
