import Mathlib.Data.List.Perm.Basic
import PlantNexus.Backend.Semantics
import PlantNexus.Backend.SolutionMapper

/-! From valuations to plans and from plans to assignments.

A valuation with one present option for each operation selects a plan; the mapper returns
exactly on these, as long as the ticks have instants, and its assignments say what the
plan says. -/
namespace PlantNexus.Backend
open Data Time Domain Problem CpSat Validation Plan

/-- The assignment the mapper writes for a placement. -/
structure Mapped (problem : PlanningProblem) (p : Placement) (a : OperationAssignment) : Prop where
  operation : a.operationId = p.operationId
  resource : a.resourceId = p.resourceId
  start : a.startTick = p.start
  stop : a.endTick = p.stop
  startAt : ∃ d : Datetime, d.micros = tickMicros problem p.start ∧
    a.startAtUtc = formatUtcInstant d
  endAt : ∃ d : Datetime, d.micros = tickMicros problem p.stop ∧ a.endAtUtc = formatUtcInstant d
  seconds : TakesSeconds p.operation p.option a.durationSeconds
  ticks : a.durationTicks = durationTicks a.durationSeconds problem.tickSeconds

/-! ### Selecting an option -/

section
variable {problem : PlanningProblem} {horizonStart horizonEnd : Datetime}
  (h : ContractFacts problem horizonStart horizonEnd)
include h

theorem takesSeconds_option (operation : OperationInstance)
    (hm : operation ∈ problem.operationInstances) (option : ResourceOption) :
    TakesSeconds operation option (optionDurationSeconds operation option) := by
  unfold TakesSeconds optionDurationSeconds
  cases hstatus : operation.status with
  | notStarted => rfl
  | running =>
    obtain ⟨_, _, remaining, hfacts⟩ := (h.operations operation hm).running hstatus
    simp [hfacts.remaining_eq]

/-- One present option is a placement. -/
theorem selected_of_filter (ν : Valuation) (index : Nat) (operation : OperationInstance)
    (hm : operation ∈ problem.operationInstances) (option : CoreOption)
    (hfilter : ((coreOperation problem.tickSeconds index operation).options.filter
      fun o => ν.bool o.presence) = [option]) :
    ∃ p : Placement, p.operation = operation ∧ p.option ∈ operation.resourceOptions ∧
      p.resourceId = option.resourceId ∧
      Selected problem.tickSeconds ν (coreOperation problem.tickSeconds index operation) p := by
  have hnodup := (h.operations operation hm).options_nodup
  have hoption : option ∈ (coreOperation problem.tickSeconds index operation).options ∧
      ν.bool option.presence = true := by
    apply List.mem_filter.mp
    rw [hfilter]
    exact List.mem_singleton_self _
  obtain ⟨j, hj, heq⟩ := List.mem_mapIdx.mp hoption.1
  have hinj : ∀ o ∈ (coreOperation problem.tickSeconds index operation).options,
      o.resourceId = option.resourceId → o = option := by
    intro o ho hres
    have hmap := coreOperation_resources problem.tickSeconds index operation
    exact List.inj_on_of_nodup_map (hmap ▸ hnodup) ho hoption.1 hres
  refine ⟨⟨operation, operation.resourceOptions[j], ν.int (.start index), ν.int (.stop index)⟩, rfl,
    List.getElem_mem hj, by rw [← heq]; rfl, ?_⟩
  have hres : option.resourceId = operation.resourceOptions[j].resourceId := by rw [← heq]; rfl
  exact
    { operation_id := rfl
      resources := coreOperation_resources _ _ _
      start := rfl
      stop := rfl
      present := by
        intro o ho
        constructor
        · intro hpresent
          have hmem : o ∈ [option] := hfilter ▸ List.mem_filter.mpr ⟨ho, hpresent⟩
          rw [List.mem_singleton.mp hmem]
          exact hres
        · intro heq'
          rw [hinj o ho (heq'.trans hres.symm)]
          exact hoption.2
      option := ⟨option, hoption.1, hres⟩
      seconds := by
        intro o ho heq'
        rw [hinj o ho (heq'.trans hres.symm), ← heq]
        exact ⟨takesSeconds_option h operation hm _, rfl⟩ }

omit h in
/-- Placements of every operation are a plan. -/
theorem selects_of_placements (ν : Valuation)
    (hall : ∀ i (hi : i < problem.operationInstances.length), ∃ p : Placement,
      p.operation = problem.operationInstances[i] ∧
        p.option ∈ problem.operationInstances[i].resourceOptions ∧
        Selected problem.tickSeconds ν
          (coreOperation problem.tickSeconds i problem.operationInstances[i]) p) :
    ∃ plan, Selects problem ν plan := by
  choose f hf using hall
  refine ⟨List.ofFn fun i : Fin problem.operationInstances.length => f i.1 i.2, ?_, ?_, ?_⟩
  · apply List.ext_getElem
    · simp
    · intro i h₁ h₂
      simp only [List.getElem_map, List.getElem_ofFn]
      exact (hf i h₂).1
  · intro p hp
    obtain ⟨i, rfl⟩ := List.mem_ofFn.mp hp
    rw [(hf i.1 i.2).1]
    exact (hf i.1 i.2).2.1
  · rw [List.forall₂_iff_get]
    refine ⟨by simp [coreOperations], fun i h₁ h₂ => ?_⟩
    simp only [coreOperations, List.get_eq_getElem, List.getElem_mapIdx, List.getElem_ofFn]
    exact (hf i _).2.2

/-- **A valuation with exactly one option for each operation selects a plan.** -/
theorem selects_of_exactlyOne (ν : Valuation)
    (hone : ∀ operation ∈ coreOperations problem,
      (Constraint.exactlyOne (operation.options.map CoreOption.presence)).Holds ν) :
    ∃ plan, Selects problem ν plan := by
  refine selects_of_placements ν fun i hi => ?_
  have hmem : coreOperation problem.tickSeconds i problem.operationInstances[i] ∈
      coreOperations problem := List.mem_mapIdx.mpr ⟨i, hi, rfl⟩
  have hlen := hone _ hmem
  rw [Constraint.Holds, List.filter_map, List.length_map] at hlen
  obtain ⟨option, hfilter⟩ := List.length_eq_one_iff.mp hlen
  obtain ⟨p, hop, hoption, -, hselected⟩ := selected_of_filter h ν i _ (List.getElem_mem hi) option
    hfilter
  exact ⟨p, hop, hoption, hselected⟩

end

/-! ### The mapper -/

/-- The present option of a selected operation. -/
theorem Selected.filter_eq {tick : Int} {ν : Valuation} {operation : CoreOperation}
    {p : Placement} (h : Selected tick ν operation p)
    (hnodup : p.operation.optionResources.Nodup) :
    ∃ option ∈ operation.options, option.resourceId = p.resourceId ∧
      (operation.options.filter fun o => ν.bool o.presence) = [option] := by
  obtain ⟨option, hoption, hres⟩ := h.option
  refine ⟨option, hoption, hres, ?_⟩
  rw [← h.resources] at hnodup
  have hfilter : (operation.options.filter fun o => ν.bool o.presence) =
      operation.options.filter fun o => o.resourceId = p.resourceId := by
    apply List.filter_congr
    intro o ho
    rw [Bool.eq_iff_iff, decide_eq_true_eq]
    exact h.present o ho
  rw [hfilter, ← hres]
  exact filter_key_eq_singleton CoreOption.resourceId operation.options hnodup hoption

section
variable {problem : PlanningProblem} {horizonStart horizonEnd : Datetime}
  (h : ContractFacts problem horizonStart horizonEnd)
include h

theorem addSecondsTo_tick (tick : Int) (d : Datetime) :
    addSecondsTo horizonStart (tick * problem.tickSeconds) = .ok d ↔
      d.micros = tickMicros problem tick := by
  rw [addSecondsTo_eq_ok, tickMicros, instantMicros_eq _ _ h.start_eq]

/-- The mapper writes the placement of a selected operation. -/
theorem assignmentOf_eq_ok (ν : Valuation) (operation : CoreOperation) (p : Placement)
    (hselected : Selected problem.tickSeconds ν operation p)
    (hnodup : p.operation.optionResources.Nodup) (a : OperationAssignment)
    (hok : assignmentOf problem ν operation = .ok a) : Mapped problem p a := by
  obtain ⟨option, hoption, hres, hfilter⟩ := hselected.filter_eq hnodup
  simp only [assignmentOf, instantAt_eq_ok, h.start_eq, bind_eq_ok, Except.ok.injEq,
    exists_eq_left', hfilter, addSecondsTo_tick h] at hok
  obtain ⟨startAt, hs, endAt, he, heq⟩ := hok
  injection heq with heq
  subst heq
  obtain ⟨hseconds, hticks⟩ := hselected.seconds option hoption hres
  exact
    { operation := hselected.operation_id
      resource := hres
      start := hselected.start
      stop := hselected.stop
      startAt := ⟨startAt, by rw [hs, hselected.start], rfl⟩
      endAt := ⟨endAt, by rw [he, hselected.stop], rfl⟩
      seconds := hseconds
      ticks := hticks }

/-- The mapper writes a placement whose ticks have instants. -/
theorem assignmentOf_isOk (ν : Valuation) (operation : CoreOperation) (p : Placement)
    (hselected : Selected problem.tickSeconds ν operation p)
    (hnodup : p.operation.optionResources.Nodup)
    (hstart : ∃ d : Datetime, d.micros = tickMicros problem p.start)
    (hstop : ∃ d : Datetime, d.micros = tickMicros problem p.stop) :
    ∃ a, assignmentOf problem ν operation = .ok a := by
  obtain ⟨option, hoption, hres, hfilter⟩ := hselected.filter_eq hnodup
  obtain ⟨startAt, hs⟩ := hstart
  obtain ⟨endAt, he⟩ := hstop
  rw [← hselected.start] at hs
  rw [← hselected.stop] at he
  simp only [assignmentOf, instantAt_eq_ok, h.start_eq, bind_eq_ok, Except.ok.injEq,
    exists_eq_left', hfilter, addSecondsTo_tick h]
  exact ⟨_, startAt, hs, endAt, he, rfl⟩

/-- The mapper fails on an operation without exactly one option. -/
theorem filter_of_assignmentOf (ν : Valuation) (operation : CoreOperation)
    (a : OperationAssignment) (hok : assignmentOf problem ν operation = .ok a) :
    ∃ option, (operation.options.filter fun o => ν.bool o.presence) = [option] := by
  simp only [assignmentOf, instantAt_eq_ok, h.start_eq, bind_eq_ok, Except.ok.injEq,
    exists_eq_left'] at hok
  split at hok
  · rename_i option hfilter
    exact ⟨option, hfilter⟩
  · cases hok

/-- **Where the mapper returns, the valuation selects a plan and the assignments say it.** -/
theorem assignments_plan (core : CoreCpSatModel) (hcore : core.operations = coreOperations problem)
    (ν : Valuation) (values : List OperationAssignment)
    (hok : assignments problem core ν = .ok values) :
    ∃ plan plan', Selects problem ν plan ∧ plan'.Perm plan ∧
      List.Forall₂ (Mapped problem) plan' values := by
  obtain ⟨written, hwritten, hvalues⟩ := bind_eq_ok.mp hok
  injection hvalues with hvalues
  rw [hcore] at hwritten
  have hforall := (collect_eq_ok_iff _ _ _).mp hwritten
  obtain ⟨plan, hsel⟩ := selects_of_placements ν fun i hi => by
    have hmem : coreOperation problem.tickSeconds i problem.operationInstances[i] ∈
        coreOperations problem := List.mem_mapIdx.mpr ⟨i, hi, rfl⟩
    obtain ⟨a, -, ha⟩ := forall₂_exists_right hforall hmem
    obtain ⟨option, hfilter⟩ := filter_of_assignmentOf h ν _ a ha
    obtain ⟨p, hop, hoption, -, hselected⟩ := selected_of_filter h ν i _ (List.getElem_mem hi)
      option hfilter
    exact ⟨p, hop, hoption, hselected⟩
  have hmapped : List.Forall₂ (Mapped problem) plan written := by
    have hlen := hforall.length_eq
    have hlen' := hsel.selected.length_eq
    rw [List.forall₂_iff_get]
    refine ⟨hlen'.symm.trans hlen, fun i h₁ h₂ => ?_⟩
    have hi : i < (coreOperations problem).length := hlen' ▸ h₁
    have hp : plan.get ⟨i, h₁⟩ ∈ plan := List.getElem_mem h₁
    exact assignmentOf_eq_ok h ν _ _ ((List.forall₂_iff_get.mp hsel.selected).2 i hi h₁)
      (h.operations _ (hsel.covers.mem hp)).options_nodup _
      ((List.forall₂_iff_get.mp hforall).2 i hi h₂)
  have hperm : written.Perm values := by
    rw [← hvalues]
    exact (sortByKey_perm _ _).symm
  obtain ⟨plan', hforall', hplan'⟩ := List.perm_comp_forall₂ hperm.symm hmapped.flip
  exact ⟨plan, plan', hsel, hplan', hforall'.flip⟩

/-- The mapper returns on a plan whose ticks have instants. -/
theorem assignments_isOk (core : CoreCpSatModel) (hcore : core.operations = coreOperations problem)
    (ν : Valuation) (plan : List Placement) (hsel : Selects problem ν plan)
    (hinstants : ∀ p ∈ plan, (∃ d : Datetime, d.micros = tickMicros problem p.start) ∧
      ∃ d : Datetime, d.micros = tickMicros problem p.stop) :
    ∃ values, assignments problem core ν = .ok values := by
  obtain ⟨written, hwritten⟩ := (collect_isOk (assignmentOf problem ν) core.operations).mpr
    fun operation hm => by
      rw [hcore] at hm
      obtain ⟨p, hp, hselected⟩ := hsel.exists_placement h hm
      exact assignmentOf_isOk h ν operation p hselected
        (h.operations _ (hsel.covers.mem hp)).options_nodup (hinstants p hp).1 (hinstants p hp).2
  exact ⟨_, bind_eq_ok.mpr ⟨written, hwritten, rfl⟩⟩

end
end PlantNexus.Backend
