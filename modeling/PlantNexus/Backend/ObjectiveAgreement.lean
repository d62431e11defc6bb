import Mathlib.Algebra.Order.BigOperators.Group.List
import PlantNexus.Backend.Equivalence
import PlantNexus.Backend.Objectives

/-! The posted objective is the measured one.

Every solution of the core model extends to the objective's variables inside their domains,
and in every extension the total is the weighted tardiness that is measured from the mapped
assignments: the completion of a demand is the latest end of its operations, and on whole
seconds the rounded difference of two instants is exact. -/
namespace PlantNexus.Backend
open Data Time Domain Problem CpSat Validation Plan

/-! ### What the loop over the demands builds -/

/-- The due time in seconds from the horizon's start. -/
def dueOffset (problem : PlanningProblem) (demand : DeliveryDemand) : Int :=
  (instantMicros demand.dueAtUtc - instantMicros problem.horizonStartUtc) / microsPerSecond

/-- The largest tardiness inside the horizon. -/
def tardinessUpper (problem : PlanningProblem) (horizonTicks : Int) (demand : DeliveryDemand) :
    Int :=
  max 0 (horizonTicks * problem.tickSeconds - dueOffset problem demand)

def demandVariables (problem : PlanningProblem) (index : Nat) (demand : DeliveryDemand) :
    DemandObjectiveVariables :=
  ⟨demand.demandOrderId, demand.priorityWeight, dueOffset problem demand, .completionTick index,
    .tardinessSeconds index⟩

/-- What a demand of an objective that was built satisfies. -/
structure DemandFacts (problem : PlanningProblem) (demand : DeliveryDemand) : Prop where
  weight_pos : 1 ≤ demand.priorityWeight
  weight_le : demand.priorityWeight ≤ cpSatIntMax
  due : IsInstant demand.dueAtUtc
  due_eq : instantMicros demand.dueAtUtc =
    instantMicros problem.horizonStartUtc + dueOffset problem demand * microsPerSecond

theorem objectiveInstant_eq_ok (value : String) (d : Datetime) :
    objectiveInstant value = .ok d ↔ parseUtcInstant value = .ok d := by
  unfold objectiveInstant
  split <;> simp_all

theorem exactSecondsBetween_eq_ok (problem : PlanningProblem) (demand : DeliveryDemand)
    (seconds : Int)
    (h : exactSecondsBetween demand.dueAtUtc problem.horizonStartUtc = .ok seconds) :
    seconds = dueOffset problem demand ∧ IsInstant demand.dueAtUtc ∧
      instantMicros demand.dueAtUtc =
        instantMicros problem.horizonStartUtc + dueOffset problem demand * microsPerSecond := by
  simp only [exactSecondsBetween, bind_eq_ok, exists_unit_iff, objectiveInstant_eq_ok,
    require_eq_ok] at h
  obtain ⟨due, hdue, start, hstart, hexact, hseconds⟩ := h
  injection hseconds with hseconds
  have hdueMicros := instantMicros_eq _ _ hdue
  have hstartMicros := instantMicros_eq _ _ hstart
  have hoffset : dueOffset problem demand = seconds := by
    rw [dueOffset, hdueMicros, hstartMicros, ← hseconds, Datetime.sub]
  refine ⟨hoffset.symm, ⟨due, hdue⟩, ?_⟩
  have hdvd := Int.ediv_mul_cancel (Int.dvd_of_emod_eq_zero hexact)
  rw [hoffset, ← hseconds, hdvd, hdueMicros, hstartMicros, Datetime.sub]
  omega

section
variable (problem : PlanningProblem) (core : CoreCpSatModel)

theorem addDemand_eq_ok (index : Nat) (demand : DeliveryDemand) (state state' : ObjectiveState)
    (h : addDemand problem core index demand state = .ok state') :
    DemandFacts problem demand ∧ state'.upperBound ≤ cpSatIntMax ∧ state' =
      { demands := state.demands ++ [demandVariables problem index demand]
        domains := state.domains ++ demandDomains core.horizonTicks
          (tardinessUpper problem core.horizonTicks demand) (demandVariables problem index demand)
        constraints := state.constraints ++ demandConstraints problem.tickSeconds
          (demandEnds problem core demand.demandOrderId) (demandVariables problem index demand)
        upperBound := state.upperBound +
          demand.priorityWeight * tardinessUpper problem core.horizonTicks demand } := by
  simp only [addDemand, requireObjective, bind_eq_ok, exists_unit_iff, require_eq_ok] at h
  obtain ⟨hpos, seconds, hseconds, hterm, hsum, hstate⟩ := h
  obtain ⟨rfl, hdue, hdueEq⟩ := exactSecondsBetween_eq_ok problem demand seconds hseconds
  injection hstate with hstate
  refine ⟨⟨by omega, by omega, hdue, hdueEq⟩, ?_, hstate.symm⟩
  rw [← hstate]
  exact not_lt.mp hsum

/-- The weighted bounds of the demands. -/
def weightedUppers (demands : List DeliveryDemand) : List Int :=
  demands.map fun d => d.priorityWeight * tardinessUpper problem core.horizonTicks d

theorem addDemands_eq_ok (demands : List DeliveryDemand) (index : Nat)
    (state state' : ObjectiveState) (hbound : state.upperBound ≤ cpSatIntMax)
    (h : addDemands problem core index demands state = .ok state') :
    (∀ d ∈ demands, DemandFacts problem d) ∧ state'.upperBound ≤ cpSatIntMax ∧
      state'.upperBound = state.upperBound + (weightedUppers problem core demands).sum ∧
      state'.demands = state.demands ++
        (demands.zipIdx index).map (fun x => demandVariables problem x.2 x.1) ∧
      state'.domains = state.domains ++ (demands.zipIdx index).flatMap (fun x =>
        demandDomains core.horizonTicks (tardinessUpper problem core.horizonTicks x.1)
          (demandVariables problem x.2 x.1)) ∧
      state'.constraints = state.constraints ++ (demands.zipIdx index).flatMap (fun x =>
        demandConstraints problem.tickSeconds (demandEnds problem core x.1.demandOrderId)
          (demandVariables problem x.2 x.1)) := by
  induction demands generalizing index state with
  | nil =>
    injection h with h
    subst h
    exact ⟨fun _ hd => absurd hd List.not_mem_nil, hbound, by simp [weightedUppers], by simp,
      by simp, by simp⟩
  | cons demand rest ih =>
    rw [addDemands, bind_eq_ok] at h
    obtain ⟨between, hthis, hrest⟩ := h
    obtain ⟨hfacts, hbetween, hstate⟩ := addDemand_eq_ok problem core index demand state between hthis
    obtain ⟨hall, hfinal, hupper, hdemands, hdomains, hconstraints⟩ :=
      ih (index + 1) between hbetween hrest
    refine ⟨?_, hfinal, ?_, ?_, ?_, ?_⟩
    · intro d hd
      cases List.mem_cons.mp hd with
      | inl heq => exact heq ▸ hfacts
      | inr hd => exact hall d hd
    · rw [hupper, hstate, weightedUppers, weightedUppers, List.map_cons, List.sum_cons]
      simp only
      ring
    · rw [hdemands, hstate, List.zipIdx_cons, List.map_cons]
      simp
    · rw [hdomains, hstate, List.zipIdx_cons, List.flatMap_cons]
      simp
    · rw [hconstraints, hstate, List.zipIdx_cons, List.flatMap_cons]
      simp

end

/-! ### The weighted tardiness of a plan -/

/-- The ends of a demand's placements. -/
def demandStops (plan : List Placement) (demandId : String) : List Int :=
  (plan.filter fun p => p.operation.demandOrderId = demandId).map Placement.stop

/-- The latest end of a demand's placements. -/
def completionTick (plan : List Placement) (demandId : String) : Int :=
  (demandStops plan demandId).max?.getD 0

/-- What the completion of a demand exceeds its due time by. -/
def planTardiness (problem : PlanningProblem) (plan : List Placement) (demand : DeliveryDemand) :
    Int :=
  max 0 (problem.tickSeconds * completionTick plan demand.demandOrderId -
    dueOffset problem demand)

/-- OBJ-001 of a plan. -/
def weightedTardiness (problem : PlanningProblem) (plan : List Placement) : Int :=
  (problem.deliveryDemands.map fun d => d.priorityWeight * planTardiness problem plan d).sum

theorem completionTick_iff {plan : List Placement} {demandId : String}
    (hne : demandStops plan demandId ≠ []) (tick : Int) :
    completionTick plan demandId = tick ↔
      tick ∈ demandStops plan demandId ∧ ∀ stop ∈ demandStops plan demandId, stop ≤ tick := by
  rw [completionTick]
  cases hmax : (demandStops plan demandId).max? with
  | none => exact absurd (List.max?_eq_none_iff.mp hmax) hne
  | some latest =>
    rw [← List.max?_eq_some_iff, hmax]
    simp

theorem demandStops_perm {plan plan' : List Placement} (hperm : plan.Perm plan')
    (demandId : String) : (demandStops plan demandId).Perm (demandStops plan' demandId) :=
  (hperm.filter _).map _

theorem completionTick_perm {plan plan' : List Placement} (hperm : plan.Perm plan')
    (demandId : String) : completionTick plan demandId = completionTick plan' demandId := by
  have hstops := demandStops_perm hperm demandId
  by_cases hne : demandStops plan' demandId = []
  · have hne' : demandStops plan demandId = [] := by
      rw [hne] at hstops
      exact hstops.eq_nil
    rw [completionTick, completionTick, hne, hne']
  · have hne' : demandStops plan demandId ≠ [] := by
      intro hnil
      rw [hnil] at hstops
      exact hne hstops.symm.eq_nil
    obtain ⟨hmem, hle⟩ := (completionTick_iff hne _).mp rfl
    rw [completionTick_iff hne']
    exact ⟨hstops.mem_iff.mpr hmem, fun stop hstop => hle stop (hstops.mem_iff.mp hstop)⟩

theorem weightedTardiness_perm (problem : PlanningProblem) {plan plan' : List Placement}
    (hperm : plan.Perm plan') : weightedTardiness problem plan = weightedTardiness problem plan' := by
  simp only [weightedTardiness, planTardiness, completionTick_perm hperm]

/-! ### What the objective posts -/

def objectiveDomains (problem : PlanningProblem) (core : CoreCpSatModel) : List (Domain IntVar) :=
  (problem.deliveryDemands.zipIdx.flatMap fun x =>
    demandDomains core.horizonTicks (tardinessUpper problem core.horizonTicks x.1)
      (demandVariables problem x.2 x.1)) ++
  [⟨.totalWeightedTardinessSeconds, 0, (weightedUppers problem core problem.deliveryDemands).sum⟩]

def objectiveConstraints (problem : PlanningProblem) (core : CoreCpSatModel) : List Constraint :=
  (problem.deliveryDemands.zipIdx.flatMap fun x =>
    demandConstraints problem.tickSeconds (demandEnds problem core x.1.demandOrderId)
      (demandVariables problem x.2 x.1)) ++
  [.linear (.int .totalWeightedTardinessSeconds) .eq
    (CpSat.Expr.sum (problem.deliveryDemands.zipIdx.map fun x =>
      weightedTerm (demandVariables problem x.2 x.1))) []]

/-- What is known where the objective was added. -/
structure ObjectiveFacts (problem : PlanningProblem) (core : CoreCpSatModel)
    (objective : DeliveryObjectiveModel) : Prop where
  demands : ∀ d ∈ problem.deliveryDemands, DemandFacts problem d
  active : ∀ d ∈ problem.deliveryDemands, ∃ o ∈ problem.operationInstances,
    o.demandOrderId = d.demandOrderId
  upper_le : (weightedUppers problem core problem.deliveryDemands).sum ≤ cpSatIntMax
  variables_eq : objective.demands =
    problem.deliveryDemands.zipIdx.map fun x => demandVariables problem x.2 x.1
  total : objective.totalWeightedTardinessSeconds = .totalWeightedTardinessSeconds
  model : objective.model =
    core.model.extend (objectiveDomains problem core) (objectiveConstraints problem core)

theorem addDeliveryObjective_facts (problem : PlanningProblem) (core : CoreCpSatModel)
    (objective : DeliveryObjectiveModel)
    (h : addDeliveryObjective problem core = .ok objective) :
    ObjectiveFacts problem core objective := by
  simp only [addDeliveryObjective, requireObjective, bind_eq_ok, exists_unit_iff,
    require_eq_ok] at h
  obtain ⟨⟨-, hactive, -⟩, -, state, hstate, hobjective⟩ := h
  obtain ⟨hdemands, hle, hupper, hvariables, hdomains, hconstraints⟩ :=
    addDemands_eq_ok problem core _ _ _ _ (by decide) hstate
  injection hobjective with hobjective
  rw [zero_add] at hupper
  subst hobjective
  exact
    { demands := hdemands
      active := by
        intro d hd
        exact List.mem_map.mp (hactive _ (List.mem_map_of_mem hd))
      upper_le := hupper ▸ hle
      variables_eq := by simp only [hvariables, List.nil_append]
      total := rfl
      model := by
        simp only [hdomains, hconstraints, hvariables, hupper, objectiveDomains,
          objectiveConstraints, List.nil_append, List.map_map]
        rfl }

theorem demandOf_active {problem : PlanningProblem} {horizonStart horizonEnd : Datetime}
    (h : ContractFacts problem horizonStart horizonEnd) (operation : OperationInstance)
    (hm : operation ∈ problem.operationInstances) :
    demandOf problem operation.operationId = some operation.demandOrderId := by
  have hget : dictGet OperationInstance.operationId problem.operationInstances
      operation.operationId = some operation :=
    (dictGet_eq_some_iff _ _ _ _ h.operations_nodup).mpr ⟨hm, rfl⟩
  rw [demandOf, hget]
  rfl

section
variable {problem : PlanningProblem} {horizonStart horizonEnd : Datetime} {horizonTicks : Int}
  (h : PrecheckFacts problem horizonStart horizonEnd horizonTicks)
  {core : CoreCpSatModel} (hoperations : core.operations = coreOperations problem)
  {ν : Valuation} {plan : List Placement} (hsel : Selects problem ν plan)

include h hoperations hsel in
/-- The ends that are posted for a demand are the ends of its placements. -/
theorem demandEnds_eval (demandId : String) :
    (demandEnds problem core demandId).map (CpSat.Expr.eval ν) = demandStops plan demandId := by
  have hpaired : List.Forall₂ (fun (o : CoreOperation) (p : Placement) =>
      demandOf problem o.operationId = some p.operation.demandOrderId ∧ ν.int o.stop = p.stop)
      (coreOperations problem) plan := by
    have hmem : ∀ p ∈ plan, p.operation ∈ problem.operationInstances :=
      fun p hp => hsel.covers.mem hp
    have hselected := hsel.selected
    generalize coreOperations problem = operations at hselected
    clear hsel
    induction hselected with
    | nil => exact .nil
    | cons hhead _ ih =>
      refine .cons ⟨?_, hhead.stop⟩ (ih fun p hp => hmem p (List.mem_cons_of_mem _ hp))
      rw [hhead.operation_id]
      exact demandOf_active h.contract _ (hmem _ (List.mem_cons_self ..))
  rw [demandEnds, hoperations, demandStops, List.map_map]
  generalize coreOperations problem = operations at hpaired
  clear hsel
  induction hpaired with
  | nil => rfl
  | @cons o p _ _ hhead _ ih =>
    rw [List.filter_cons, List.filter_cons]
    by_cases hdemand : p.operation.demandOrderId = demandId
    · rw [if_pos (by simp [hhead.1, hdemand]), if_pos (by simp [hdemand]), List.map_cons,
        List.map_cons, ih]
      congr 1
      exact hhead.2
    · rw [if_neg (by simp [hhead.1, hdemand]), if_neg (by simp [hdemand]), ih]


/-- The objective's variables say what the plan amounts to. -/
structure Measures (problem : PlanningProblem) (plan : List Placement) (ν : Valuation) : Prop where
  completion : ∀ x ∈ problem.deliveryDemands.zipIdx,
    ν.int (.completionTick x.2) = completionTick plan x.1.demandOrderId
  tardiness : ∀ x ∈ problem.deliveryDemands.zipIdx,
    ν.int (.tardinessSeconds x.2) = planTardiness problem plan x.1
  total : ν.int .totalWeightedTardinessSeconds = weightedTardiness problem plan

include h hoperations hsel in
/-- One demand's constraints determine its completion and its tardiness. -/
theorem demandConstraints_iff (demand : DeliveryDemand) (index : Nat)
    (hne : demandStops plan demand.demandOrderId ≠ []) :
    (∀ c ∈ demandConstraints problem.tickSeconds (demandEnds problem core demand.demandOrderId)
      (demandVariables problem index demand), c.Holds ν) ↔
      ν.int (.completionTick index) = completionTick plan demand.demandOrderId ∧
        ν.int (.tardinessSeconds index) = planTardiness problem plan demand := by
  have hstops := demandEnds_eval h hoperations hsel demand.demandOrderId
  have hcompletion : (Constraint.maxEquality (.int (.completionTick index))
      (demandEnds problem core demand.demandOrderId)).Holds ν ↔
      ν.int (.completionTick index) = completionTick plan demand.demandOrderId := by
    rw [eq_comm, completionTick_iff hne, ← hstops, Constraint.Holds, List.mem_map,
      List.forall_mem_map]
    rfl
  have htardiness : (Constraint.maxEquality (.int (.tardinessSeconds index))
      [.sub (.scale problem.tickSeconds (.int (.completionTick index)))
        (.const (dueOffset problem demand)), (.const 0 : Expr)]).Holds ν ↔
      ν.int (.tardinessSeconds index) = max 0
        (problem.tickSeconds * ν.int (.completionTick index) - dueOffset problem demand) := by
    simp only [Constraint.Holds, CpSat.Expr.eval, List.mem_cons, List.not_mem_nil, or_false,
      exists_eq_or_imp, exists_eq_left, forall_eq_or_imp, forall_eq]
    omega
  simp only [demandConstraints, demandVariables, List.forall_mem_cons, hcompletion, htardiness,
    planTardiness]
  refine and_congr_right fun heq => ?_
  rw [heq]
  simp

include h hoperations hsel in
/-- **The objective's constraints determine its variables.** -/
theorem objectiveConstraints_iff
    (hne : ∀ d ∈ problem.deliveryDemands, demandStops plan d.demandOrderId ≠ []) :
    (∀ c ∈ objectiveConstraints problem core, c.Holds ν) ↔ Measures problem plan ν := by
  have hdemand : ∀ x ∈ problem.deliveryDemands.zipIdx,
      ((∀ c ∈ demandConstraints problem.tickSeconds (demandEnds problem core x.1.demandOrderId)
        (demandVariables problem x.2 x.1), c.Holds ν) ↔
        ν.int (.completionTick x.2) = completionTick plan x.1.demandOrderId ∧
          ν.int (.tardinessSeconds x.2) = planTardiness problem plan x.1) :=
    fun x hx => demandConstraints_iff h hoperations hsel x.1 x.2
      (hne x.1 (List.fst_mem_of_mem_zipIdx hx))
  have htotal : ∀ c : Constraint, c = .linear (.int .totalWeightedTardinessSeconds) .eq
      (CpSat.Expr.sum (problem.deliveryDemands.zipIdx.map fun x =>
        weightedTerm (demandVariables problem x.2 x.1))) [] →
      (c.Holds ν ↔ ν.int .totalWeightedTardinessSeconds =
        (problem.deliveryDemands.zipIdx.map fun x =>
          x.1.priorityWeight * ν.int (.tardinessSeconds x.2)).sum) := by
    intro c hc
    subst hc
    simp only [Constraint.Holds, List.not_mem_nil, false_implies, implies_true, true_implies,
      Relation.Holds, CpSat.Expr.eval_sum, List.map_map]
    rfl
  have hsum : (∀ x ∈ problem.deliveryDemands.zipIdx,
        ν.int (.tardinessSeconds x.2) = planTardiness problem plan x.1) →
      (problem.deliveryDemands.zipIdx.map fun x =>
        x.1.priorityWeight * ν.int (.tardinessSeconds x.2)).sum =
          weightedTardiness problem plan := by
    intro htardiness
    have hterms : (problem.deliveryDemands.zipIdx.map fun x =>
        x.1.priorityWeight * ν.int (.tardinessSeconds x.2)) =
        (problem.deliveryDemands.zipIdx.map Prod.fst).map fun d =>
          d.priorityWeight * planTardiness problem plan d := by
      rw [List.map_map]
      refine List.map_congr_left fun x hx => ?_
      rw [htardiness x hx]
      rfl
    rw [hterms, List.zipIdx_map_fst, weightedTardiness]
  unfold objectiveConstraints
  rw [List.forall_mem_append, List.forall_mem_flatMap, List.forall_mem_singleton, htotal _ rfl]
  constructor
  · intro hall
    obtain ⟨hdemands, heq⟩ := hall
    have htardiness := fun x hx => ((hdemand x hx).mp (hdemands x hx)).2
    exact
      { completion := fun x hx => ((hdemand x hx).mp (hdemands x hx)).1
        tardiness := htardiness
        total := by rw [heq, hsum htardiness] }
  · intro hmeasures
    refine ⟨fun x hx => (hdemand x hx).mpr ⟨hmeasures.completion x hx, hmeasures.tardiness x hx⟩, ?_⟩
    rw [hmeasures.total, hsum hmeasures.tardiness]

end

/-! ### Bounds -/

/-- Every value that a demand's constraints compute from a tick of the horizon is in range. -/
structure DemandRange (problem : PlanningProblem) (horizonTicks : Int) (demand : DeliveryDemand)
    (tick : Int) : Prop where
  tickSeconds : Bounded (-2 ^ 63) cpSatIntMax problem.tickSeconds
  due : Bounded (-2 ^ 63) cpSatIntMax (dueOffset problem demand)
  value : Bounded (-2 ^ 63) cpSatIntMax tick
  elapsed : Bounded (-2 ^ 63) cpSatIntMax (problem.tickSeconds * tick)
  late : Bounded (-2 ^ 63) cpSatIntMax (problem.tickSeconds * tick - dueOffset problem demand)
  tardiness : 0 ≤ max 0 (problem.tickSeconds * tick - dueOffset problem demand)
  upper : max 0 (problem.tickSeconds * tick - dueOffset problem demand) ≤
    tardinessUpper problem horizonTicks demand
  upper_le : tardinessUpper problem horizonTicks demand ≤ cpSatIntMax

section
variable {problem : PlanningProblem} {horizonStart horizonEnd : Datetime} {horizonTicks : Int}
  (h : PrecheckFacts problem horizonStart horizonEnd horizonTicks)
include h

/-- The seconds of the horizon are far inside the solver's integers. -/
theorem horizonSeconds_lt : horizonTicks * problem.tickSeconds * microsPerSecond < microsLimit := by
  have hstop := ((inside_iff h 0 horizonTicks).mpr ⟨le_refl _, le_refl _⟩).2
  rw [tickMicros_start h, instantMicros_eq _ _ h.contract.end_eq] at hstop
  have hstart := horizonStart.nonneg
  have hend := horizonEnd.lt
  omega

/-- A due time is far inside the solver's integers. -/
theorem dueOffset_bounds (demand : DeliveryDemand) (hfacts : DemandFacts problem demand) :
    -microsLimit < dueOffset problem demand * microsPerSecond ∧
      dueOffset problem demand * microsPerSecond < microsLimit := by
  obtain ⟨due, hdue⟩ := hfacts.due
  have heq := hfacts.due_eq
  rw [instantMicros_eq _ _ hdue, instantMicros_eq _ _ h.contract.start_eq] at heq
  have hdueLow := due.nonneg
  have hdueHigh := due.lt
  have hstartLow := horizonStart.nonneg
  have hstartHigh := horizonStart.lt
  constructor <;> omega

theorem demandRange (demand : DeliveryDemand) (hfacts : DemandFacts problem demand) (tick : Int)
    (hlow : 0 ≤ tick) (hhigh : tick ≤ horizonTicks) :
    DemandRange problem horizonTicks demand tick := by
  have hpos := h.contract.tick_pos
  have hticks := h.ticks_pos
  have hseconds := horizonSeconds_lt h
  obtain ⟨hdueLow, hdueHigh⟩ := dueOffset_bounds h demand hfacts
  have hlimit : microsLimit = 3652059 * 86400 * 1000000 := by decide
  have hmax : cpSatIntMax = 2 ^ 63 - 1 := rfl
  rw [hlimit, microsPerSecond] at hseconds hdueLow hdueHigh
  have hunit : problem.tickSeconds ≤ horizonTicks * problem.tickSeconds := by nlinarith
  have htotal : tick ≤ tick * problem.tickSeconds := by nlinarith
  have hwithin : tick * problem.tickSeconds ≤ horizonTicks * problem.tickSeconds :=
    mul_le_mul_of_nonneg_right hhigh hpos.le
  rw [mul_comm tick] at htotal hwithin
  exact
    { tickSeconds := ⟨by omega, by omega⟩
      due := ⟨by omega, by omega⟩
      value := ⟨by omega, by omega⟩
      elapsed := ⟨by omega, by omega⟩
      late := ⟨by omega, by omega⟩
      tardiness := by omega
      upper := by rw [tardinessUpper]; omega
      upper_le := by rw [tardinessUpper]; omega }

variable {core : CoreCpSatModel} (hoperations : core.operations = coreOperations problem)
  (hcore : core.horizonTicks = horizonTicks) {objective : DeliveryObjectiveModel}
  (facts : ObjectiveFacts problem core objective) {ν : Valuation} {plan : List Placement}
  (hsel : Selects problem ν plan)
  (hinside : ∀ p ∈ plan, 0 ≤ p.stop ∧ p.stop ≤ horizonTicks)

omit h in
include facts hsel in
/-- A demand has a placement. -/
theorem demandStops_ne_nil (demand : DeliveryDemand) (hm : demand ∈ problem.deliveryDemands) :
    demandStops plan demand.demandOrderId ≠ [] := by
  obtain ⟨o, ho, hdemand⟩ := facts.active demand hm
  obtain ⟨p, hp, heq⟩ := hsel.covers.exists_placement ho
  refine List.ne_nil_of_mem (List.mem_map_of_mem (List.mem_filter.mpr ⟨hp, ?_⟩))
  rw [heq, hdemand]
  exact decide_eq_true rfl

omit h in
include facts hsel hinside in
theorem completionTick_inside (demand : DeliveryDemand) (hm : demand ∈ problem.deliveryDemands) :
    0 ≤ completionTick plan demand.demandOrderId ∧
      completionTick plan demand.demandOrderId ≤ horizonTicks := by
  have hmem := ((completionTick_iff (demandStops_ne_nil facts hsel demand hm) _).mp rfl).1
  obtain ⟨p, hp, heq⟩ := List.mem_map.mp hmem
  rw [← heq]
  exact hinside p (List.mem_filter.mp hp).1

include facts hsel hinside in
theorem planRange (demand : DeliveryDemand) (hm : demand ∈ problem.deliveryDemands) :
    DemandRange problem horizonTicks demand (completionTick plan demand.demandOrderId) := by
  obtain ⟨hlow, hhigh⟩ := completionTick_inside facts hsel hinside demand hm
  exact demandRange h demand (facts.demands demand hm) _ hlow hhigh

include hcore facts hsel hinside in
/-- The weighted tardiness of a plan inside the horizon is below the objective's bound. -/
theorem weightedTardiness_bounds :
    0 ≤ weightedTardiness problem plan ∧ weightedTardiness problem plan ≤
      (weightedUppers problem core problem.deliveryDemands).sum := by
  constructor
  · refine List.sum_nonneg fun term hterm => ?_
    obtain ⟨d, hd, rfl⟩ := List.mem_map.mp hterm
    have hweight := (facts.demands d hd).weight_pos
    exact mul_nonneg (by omega) (planRange h facts hsel hinside d hd).tardiness
  · rw [weightedUppers, hcore]
    refine List.sum_le_sum fun d hd => ?_
    have hweight := (facts.demands d hd).weight_pos
    exact mul_le_mul_of_nonneg_left (planRange h facts hsel hinside d hd).upper (by omega)

include hcore facts hsel hinside in
/-- The values that a plan gives the objective's variables are in their domains. -/
theorem objectiveDomains_hold (hmeasures : Measures problem plan ν) :
    ∀ d ∈ objectiveDomains problem core, d.lower ≤ ν.int d.var ∧ ν.int d.var ≤ d.upper := by
  unfold objectiveDomains
  rw [List.forall_mem_append, List.forall_mem_flatMap, List.forall_mem_singleton]
  constructor
  · intro x hx
    have hm := List.fst_mem_of_mem_zipIdx hx
    have hrange := planRange h facts hsel hinside x.1 hm
    simp only [demandDomains, demandVariables, List.forall_mem_cons, hcore,
      hmeasures.completion x hx, hmeasures.tardiness x hx]
    refine ⟨completionTick_inside facts hsel hinside x.1 hm,
      ⟨hrange.tardiness, hrange.upper⟩, ?_⟩
    exact fun _ hnil => absurd hnil List.not_mem_nil
  · simp only [hmeasures.total]
    exact weightedTardiness_bounds h hcore facts hsel hinside

include hcore facts in
/-- The domains of the objective's variables are in range. -/
theorem objectiveDomains_fit : ∀ d ∈ objectiveDomains problem core, d.Fits (-2 ^ 63) cpSatIntMax := by
  have hticks := h.ticks_pos
  have hzero : (-2 ^ 63 : Int) ≤ 0 := by decide
  unfold objectiveDomains
  rw [List.forall_mem_append, List.forall_mem_flatMap, List.forall_mem_singleton]
  refine ⟨fun x hx => ?_, hzero, facts.upper_le⟩
  have hm := List.fst_mem_of_mem_zipIdx hx
  have hrange := demandRange h x.1 (facts.demands x.1 hm) horizonTicks (by omega) (le_refl _)
  simp only [demandDomains, List.forall_mem_cons, hcore]
  refine ⟨⟨hzero, hrange.value.2⟩, ⟨hzero, hrange.upper_le⟩, ?_⟩
  exact fun _ hnil => absurd hnil List.not_mem_nil

include hoperations facts hsel hinside in
/-- One demand's constraints are evaluated in range. -/
theorem demandConstraints_fit (hmeasures : Measures problem plan ν) (x : DeliveryDemand × Nat)
    (hx : x ∈ problem.deliveryDemands.zipIdx) :
    ∀ c ∈ demandConstraints problem.tickSeconds (demandEnds problem core x.1.demandOrderId)
      (demandVariables problem x.2 x.1), c.Fits ν (-2 ^ 63) cpSatIntMax := by
  have hm := List.fst_mem_of_mem_zipIdx hx
  have hfacts := facts.demands x.1 hm
  have hrange := planRange h facts hsel hinside x.1 hm
  have hcompletion := hmeasures.completion x hx
  have htardiness := hmeasures.tardiness x hx
  have hends : ∀ e ∈ demandEnds problem core x.1.demandOrderId,
      e.Fits ν (-2 ^ 63) cpSatIntMax := by
    intro e he
    have hmem : e.eval ν ∈ demandStops plan x.1.demandOrderId := by
      rw [← demandEnds_eval h hoperations hsel]
      exact List.mem_map_of_mem he
    obtain ⟨p, hp, heq⟩ := List.mem_map.mp hmem
    obtain ⟨hlow, hhigh⟩ := hinside p (List.mem_filter.mp hp).1
    have hbounded := (demandRange h x.1 hfacts p.stop hlow hhigh).value
    obtain ⟨o, -, rfl⟩ := List.mem_map.mp he
    rw [heq] at hbounded
    exact hbounded
  have hzero : Bounded (-2 ^ 63) cpSatIntMax 0 := by
    constructor <;> decide
  simp only [demandConstraints, demandVariables, List.forall_mem_cons]
  refine ⟨⟨?_, hends⟩, ⟨?_, ?_⟩, fun _ hnil => absurd hnil List.not_mem_nil⟩
  · rw [Expr.Fits, hcompletion]
    exact hrange.value
  · rw [Expr.Fits, htardiness]
    exact ⟨le_trans hzero.1 hrange.tardiness, le_trans hrange.upper hrange.upper_le⟩
  · simp only [List.forall_mem_cons, Expr.Fits, CpSat.Expr.eval, hcompletion]
    exact ⟨⟨⟨hrange.tickSeconds, hrange.value, hrange.elapsed⟩, hrange.due, hrange.late⟩, hzero,
      fun _ hnil => absurd hnil List.not_mem_nil⟩

include hcore facts hsel hinside in
/-- The weighted sum is evaluated in range. -/
theorem weightedSum_fits (hmeasures : Measures problem plan ν) :
    (CpSat.Expr.sum (problem.deliveryDemands.zipIdx.map fun x =>
      weightedTerm (demandVariables problem x.2 x.1))).Fits ν (-2 ^ 63) cpSatIntMax := by
  have hzero : (-2 ^ 63 : Int) ≤ 0 := by decide
  obtain ⟨-, htotal⟩ := weightedTardiness_bounds h hcore facts hsel hinside
  have hterm : ∀ x ∈ problem.deliveryDemands.zipIdx,
      (weightedTerm (demandVariables problem x.2 x.1)).eval ν =
        x.1.priorityWeight * planTardiness problem plan x.1 := by
    intro x hx
    rw [← hmeasures.tardiness x hx]
    rfl
  have hsum : (CpSat.Expr.sum (problem.deliveryDemands.zipIdx.map fun x =>
      weightedTerm (demandVariables problem x.2 x.1))).eval ν =
        weightedTardiness problem plan := by
    rw [CpSat.Expr.eval_sum, List.map_map, weightedTardiness]
    conv_rhs => rw [← List.zipIdx_map_fst 0 problem.deliveryDemands, List.map_map]
    exact congrArg List.sum (List.map_congr_left hterm)
  have hsingle : ∀ d ∈ problem.deliveryDemands, 0 ≤ d.priorityWeight * planTardiness problem plan d ∧
      d.priorityWeight * planTardiness problem plan d ≤ weightedTardiness problem plan := by
    have hnonneg : ∀ d ∈ problem.deliveryDemands,
        0 ≤ d.priorityWeight * planTardiness problem plan d := by
      intro d hd
      have hweight := (facts.demands d hd).weight_pos
      exact mul_nonneg (by omega) (planRange h facts hsel hinside d hd).tardiness
    intro d hd
    refine ⟨hnonneg d hd, List.single_le_sum ?_ _ (List.mem_map_of_mem hd)⟩
    simpa using hnonneg
  refine CpSat.Expr.fits_sum ν hzero _ ?_ (hsum ▸ le_trans htotal facts.upper_le)
  rw [List.forall_mem_map]
  intro x hx
  have hm := List.fst_mem_of_mem_zipIdx hx
  have hfacts := facts.demands x.1 hm
  have hrange := planRange h facts hsel hinside x.1 hm
  have hweight := hfacts.weight_pos
  obtain ⟨hlow, hhigh⟩ := hsingle x.1 hm
  rw [hterm x hx]
  refine ⟨hlow, ⟨⟨?_, hfacts.weight_le⟩, ?_, ?_⟩⟩
  · exact le_trans hzero (by simp only [demandVariables]; omega)
  · rw [Expr.Fits, demandVariables, hmeasures.tardiness x hx]
    exact ⟨le_trans hzero hrange.tardiness, le_trans hrange.upper hrange.upper_le⟩
  · have heval := hterm x hx
    rw [weightedTerm, CpSat.Expr.eval] at heval
    rw [heval]
    exact ⟨le_trans hzero hlow, le_trans hhigh (le_trans htotal facts.upper_le)⟩

include hoperations hcore facts hsel hinside in
/-- The objective's constraints are evaluated in range. -/
theorem objectiveConstraints_fit (hmeasures : Measures problem plan ν) :
    ∀ c ∈ objectiveConstraints problem core, c.Fits ν (-2 ^ 63) cpSatIntMax := by
  obtain ⟨hlow, hhigh⟩ := weightedTardiness_bounds h hcore facts hsel hinside
  unfold objectiveConstraints
  rw [List.forall_mem_append, List.forall_mem_flatMap, List.forall_mem_singleton]
  refine ⟨demandConstraints_fit h hoperations facts hsel hinside hmeasures, ?_,
    weightedSum_fits h hcore facts hsel hinside hmeasures⟩
  rw [Expr.Fits, hmeasures.total]
  exact ⟨le_trans (by decide) hlow, le_trans hhigh facts.upper_le⟩

end

end PlantNexus.Backend
