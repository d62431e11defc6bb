import PlantNexus.Backend.ObjectiveAgreement

/-! Weighted tardiness measured from instants.

The loop over the assignments keeps the latest end of each demand. On the tick grid the
rounded difference of two instants is exact, so what is measured from the mapped
assignments is the weighted tardiness of the plan they say. -/
namespace PlantNexus.Backend
open Data Time Domain Problem CpSat Validation Plan

/-! ### Whole seconds -/

/-- On whole seconds the nearest double is the difference. -/
theorem totalSeconds_exact (n : Int) : totalSeconds (n * microsPerSecond) = n := by
  have hpos := secondsScale_pos (n * microsPerSecond).natAbs
  have hscale : (secondsScale (n * microsPerSecond).natAbs : ℚ) ≠ 0 := by
    exact_mod_cast hpos.ne'
  have habs : (n * microsPerSecond).natAbs = n.natAbs * 1000000 := by
    rw [Int.natAbs_mul]
    rfl
  have hround : roundHalfEven ((n * microsPerSecond).natAbs *
      secondsScale (n * microsPerSecond).natAbs) 1000000 =
        n.natAbs * secondsScale (n * microsPerSecond).natAbs := by
    generalize secondsScale (n * microsPerSecond).natAbs = scale
    rw [habs]
    apply le_antisymm
    · exact roundHalfEven_le _ _ _ (by omega) (le_of_eq (by ring))
    · refine le_trans (le_of_eq ?_) (le_roundHalfEven _ _)
      rw [show n.natAbs * 1000000 * scale = n.natAbs * scale * 1000000 by ring]
      exact (Nat.mul_div_cancel _ (by omega)).symm
  have hmagnitude : (n.natAbs : ℚ) = |(n : ℚ)| := by
    rw [Nat.cast_natAbs, Int.cast_abs]
  unfold totalSeconds
  simp only [hround, Nat.cast_mul, mul_div_cancel_right₀ _ hscale, hmagnitude]
  split
  · rename_i hneg
    have : n < 0 := by
      simp only [microsPerSecond] at hneg
      omega
    rw [abs_of_neg (by exact_mod_cast this), neg_neg]
  · rename_i hnonneg
    have : 0 ≤ n := by
      simp only [microsPerSecond] at hnonneg
      omega
    rw [abs_of_nonneg (by exact_mod_cast this)]

/-! ### The latest end of each demand -/

/-- The completions are those of the placements that were recorded. -/
def Recorded (problem : PlanningProblem) (plan : List Placement)
    (completions : List (String × Datetime)) : Prop :=
  ∀ demandId, (demandStops plan demandId = [] → dictGet Prod.fst completions demandId = none) ∧
    (demandStops plan demandId ≠ [] → ∃ d : Datetime,
      dictGet Prod.fst completions demandId = some (demandId, d) ∧
        d.micros = tickMicros problem (completionTick plan demandId))

theorem recorded_nil (problem : PlanningProblem) : Recorded problem [] [] :=
  fun _ => ⟨fun _ => rfl, fun hne => absurd rfl hne⟩

theorem demandStops_concat (plan : List Placement) (p : Placement) (demandId : String) :
    demandStops (plan ++ [p]) demandId =
      demandStops plan demandId ++
        if p.operation.demandOrderId = demandId then [p.stop] else [] := by
  by_cases hdemand : p.operation.demandOrderId = demandId
  · simp [demandStops, List.filter_append, hdemand]
  · simp [demandStops, List.filter_append, hdemand]

/-- The latest end after one more placement of the demand. -/
theorem completionTick_concat (plan : List Placement) (p : Placement) :
    completionTick (plan ++ [p]) p.operation.demandOrderId =
      if demandStops plan p.operation.demandOrderId = [] then p.stop
      else max (completionTick plan p.operation.demandOrderId) p.stop := by
  have hstops := demandStops_concat plan p p.operation.demandOrderId
  rw [if_pos rfl] at hstops
  have hne : demandStops (plan ++ [p]) p.operation.demandOrderId ≠ [] := by
    rw [hstops]
    exact List.append_ne_nil_of_right_ne_nil _ (List.cons_ne_nil _ _)
  rw [completionTick_iff hne, hstops]
  by_cases hnil : demandStops plan p.operation.demandOrderId = []
  · simp [hnil]
  · obtain ⟨hmem, hle⟩ := (completionTick_iff hnil _).mp rfl
    rw [if_neg hnil]
    constructor
    · cases max_choice (completionTick plan p.operation.demandOrderId) p.stop with
      | inl heq =>
        rw [heq]
        exact List.mem_append_left _ hmem
      | inr heq =>
        rw [heq]
        exact List.mem_append_right _ (List.mem_singleton_self _)
    · intro stop hstop
      cases List.mem_append.mp hstop with
      | inl hbefore => exact le_max_of_le_left (hle stop hbefore)
      | inr hlast => exact le_max_of_le_right (le_of_eq (List.mem_singleton.mp hlast))

/-- The demand is due on a whole second of the horizon. -/
def WholeDue (problem : PlanningProblem) (demand : DeliveryDemand) : Prop :=
  instantMicros demand.dueAtUtc =
    instantMicros problem.horizonStartUtc + dueOffset problem demand * microsPerSecond

/-- The assignment names an operation of the placement's demand, and ends when it does. -/
structure CompletesAt (problem : PlanningProblem) (p : Placement) (a : OperationAssignment) :
    Prop where
  demand : demandByOperation problem a.operationId = .ok p.operation.demandOrderId
  endAt : ∃ d : Datetime, instantAt a.endAtUtc = .ok d ∧ d.micros = tickMicros problem p.stop

section
variable {problem : PlanningProblem} {horizonStart horizonEnd : Datetime}
  (h : ContractFacts problem horizonStart horizonEnd)
include h

/-- Recording one more assignment. -/
theorem recordCompletion_recorded (plan : List Placement) (completions : List (String × Datetime))
    (hrecorded : Recorded problem plan completions) (p : Placement) (a : OperationAssignment)
    (hcompletes : CompletesAt problem p a) :
    ∃ completions', recordCompletion problem completions a = .ok completions' ∧
      Recorded problem (plan ++ [p]) completions' := by
  obtain ⟨d, hparse, hd⟩ := hcompletes.endAt
  obtain ⟨hnone, hsome⟩ := hrecorded p.operation.demandOrderId
  have hlatest := completionTick_concat plan p
  have hstops := demandStops_concat plan p
  refine ⟨_, bind_eq_ok.mpr ⟨_, hcompletes.demand, bind_eq_ok.mpr ⟨d, hparse, rfl⟩⟩, ?_⟩
  intro demandId
  by_cases hsame : p.operation.demandOrderId = demandId
  · subst hsame
    have hne : demandStops (plan ++ [p]) p.operation.demandOrderId ≠ [] := by
      rw [hstops, if_pos rfl]
      exact List.append_ne_nil_of_right_ne_nil _ (List.cons_ne_nil _ _)
    refine ⟨fun hnil => absurd hnil hne, fun _ => ?_⟩
    by_cases hnil : demandStops plan p.operation.demandOrderId = []
    · rw [if_pos hnil] at hlatest
      rw [hnone hnil, hlatest]
      exact ⟨d, by simp [dictGet], hd⟩
    · obtain ⟨previous, hget, hprevious⟩ := hsome hnil
      rw [if_neg hnil] at hlatest
      rw [hget, hlatest]
      simp only [gt_iff_lt, Datetime.lt_iff, hprevious, hd, tickMicros_lt_iff h]
      split
      · rename_i hlater
        rw [max_eq_right hlater.le]
        exact ⟨d, by simp [dictGet], hd⟩
      · rename_i hearlier
        rw [max_eq_left (not_lt.mp hearlier)]
        exact ⟨previous, hget, hprevious⟩
  · have hkeep : demandStops (plan ++ [p]) demandId = demandStops plan demandId := by
      rw [hstops, if_neg hsame, List.append_nil]
    have hget : ∀ d : Datetime, dictGet Prod.fst
        (completions ++ [(p.operation.demandOrderId, d)]) demandId =
          dictGet Prod.fst completions demandId := by
      intro d
      rw [dictGet_append]
      simp [dictGet, hsame]
    have hkept := hrecorded demandId
    unfold completionTick at hkept ⊢
    rw [hkeep]
    split
    · split
      · rw [hget]
        exact hkept
      · exact hkept
    · rw [hget]
      exact hkept

/-- The loop over the assignments keeps the latest end of each demand. -/
theorem completions_recorded (rest : List Placement) (values : List OperationAssignment)
    (hcompletes : List.Forall₂ (CompletesAt problem) rest values) (plan : List Placement)
    (completions : List (String × Datetime)) (hrecorded : Recorded problem plan completions) :
    ∃ completions', values.foldlM (recordCompletion problem) completions = .ok completions' ∧
      Recorded problem (plan ++ rest) completions' := by
  induction hcompletes generalizing plan completions with
  | nil =>
    rw [List.append_nil]
    exact ⟨completions, rfl, hrecorded⟩
  | @cons p a rest values hhead _ ih =>
    obtain ⟨between, hthis, hbetween⟩ := recordCompletion_recorded h plan completions hrecorded p a
      hhead
    obtain ⟨completions', hrest, hfinal⟩ := ih (plan ++ [p]) between hbetween
    refine ⟨completions', ?_, ?_⟩
    · rw [List.foldlM_cons, bind_eq_ok]
      exact ⟨between, hthis, hrest⟩
    · rw [List.append_assoc] at hfinal
      exact hfinal

omit h in
/-- One demand's share of the measurement. -/
theorem demandTardiness_recorded (plan : List Placement) (completions : List (String × Datetime))
    (hrecorded : Recorded problem plan completions) (demand : DeliveryDemand)
    (hinstant : IsInstant demand.dueAtUtc) (hwhole : WholeDue problem demand)
    (hne : demandStops plan demand.demandOrderId ≠ []) :
    demandTardiness completions demand =
      .ok (demand.priorityWeight * planTardiness problem plan demand) := by
  obtain ⟨d, hget, hd⟩ := (hrecorded demand.demandOrderId).2 hne
  obtain ⟨due, hdue⟩ := hinstant
  rw [WholeDue, instantMicros_eq _ _ hdue] at hwhole
  have hsub : d.sub due = (problem.tickSeconds * completionTick plan demand.demandOrderId -
      dueOffset problem demand) * microsPerSecond := by
    rw [Datetime.sub, hd, hwhole, tickMicros]
    ring
  unfold demandTardiness
  rw [hget]
  refine bind_eq_ok.mpr ⟨due, (instantAt_eq_ok _ _).mpr hdue, ?_⟩
  simp only [hsub, totalSeconds_exact, Int.ceil_intCast, planTardiness]
  rfl

/-- **What is measured from assignments of a plan is its weighted tardiness**, when demands are
due on whole seconds of the horizon. -/
theorem measured_eq (plan : List Placement) (values : List OperationAssignment)
    (hcompletes : List.Forall₂ (CompletesAt problem) plan values)
    (hwhole : ∀ d ∈ problem.deliveryDemands, WholeDue problem d)
    (hne : ∀ d ∈ problem.deliveryDemands, demandStops plan d.demandOrderId ≠ []) :
    measuredWeightedTardinessSeconds problem values = .ok (weightedTardiness problem plan) := by
  obtain ⟨completions, hcompletions, hrecorded⟩ :=
    completions_recorded h plan values hcompletes [] [] (recorded_nil problem)
  rw [List.nil_append] at hrecorded
  refine bind_eq_ok.mpr ⟨completions, hcompletions, bind_eq_ok.mpr
    ⟨problem.deliveryDemands.map fun d => d.priorityWeight * planTardiness problem plan d, ?_, rfl⟩⟩
  rw [collect_eq_ok_iff, List.forall₂_map_right_iff, List.forall₂_same]
  exact fun d hd => demandTardiness_recorded plan completions hrecorded d (h.due d hd)
    (hwhole d hd) (hne d hd)

end

/-! ### Mapped assignments -/

/-- A mapped assignment measures its placement. -/
theorem completesAt_of_mapped {problem : PlanningProblem} {horizonStart horizonEnd : Datetime}
    {horizonTicks : Int} (h : PrecheckFacts problem horizonStart horizonEnd horizonTicks)
    {p : Placement} {a : OperationAssignment} (hmapped : Mapped problem p a)
    (hm : p.operation ∈ problem.operationInstances) : CompletesAt problem p a := by
  constructor
  · rw [demandByOperation, hmapped.operation, Placement.operationId, demandOf_active h.contract _ hm]
  · obtain ⟨d, hd, htext⟩ := hmapped.endAt
    refine ⟨d, ?_, hd⟩
    rw [instantAt_eq_ok, htext, parseUtcInstant_formatUtcInstant,
      Datetime.truncateToSecond_of_dvd d (hd ▸ tickMicros_whole h p.stop)]

/-- A solution of the core model is mapped, and its plan's weighted tardiness is measured. -/
theorem measured_of_selects {problem : PlanningProblem} {horizonStart horizonEnd : Datetime}
    {horizonTicks : Int} (h : PrecheckFacts problem horizonStart horizonEnd horizonTicks)
    {core : CoreCpSatModel} (hoperations : core.operations = coreOperations problem)
    {objective : DeliveryObjectiveModel} (facts : ObjectiveFacts problem core objective)
    {ν : Valuation} {plan : List Placement} (hsel : Selects problem ν plan)
    (hfeasible : Feasible problem plan) :
    ∃ values, assignments problem core ν = .ok values ∧
      measuredWeightedTardinessSeconds problem values = .ok (weightedTardiness problem plan) := by
  obtain ⟨values, hvalues⟩ := assignments_isOk h.contract core hoperations ν plan hsel
    (feasible_instants h hsel.covers hfeasible)
  obtain ⟨plan₁, plan₂, hsel₁, hperm, hmapped⟩ :=
    assignments_plan h.contract core hoperations ν values hvalues
  have hsame : weightedTardiness problem plan₁ = weightedTardiness problem plan := by
    simp only [weightedTardiness, planTardiness, completionTick,
      ← demandEnds_eval h hoperations hsel, ← demandEnds_eval h hoperations hsel₁]
  refine ⟨values, hvalues, ?_⟩
  rw [← hsame, ← weightedTardiness_perm problem hperm]
  have hactive : ∀ p ∈ plan₂, p.operation ∈ problem.operationInstances := fun p hp =>
    hsel₁.covers.mem (hperm.mem_iff.mp hp)
  have hcompletes := ((List.forall₂_and_left _ _).mpr ⟨hactive, hmapped⟩).imp fun p a hboth =>
    completesAt_of_mapped h hboth.2 hboth.1
  refine measured_eq h.contract plan₂ values hcompletes
    (fun d hd => (facts.demands d hd).due_eq) fun d hd hnil => ?_
  have hstops := demandStops_perm hperm d.demandOrderId
  rw [hnil] at hstops
  exact demandStops_ne_nil facts hsel₁ d hd hstops.symm.eq_nil

/-! ### Agreement -/

/-- The two valuations agree on the variables of the core model. -/
structure SameSchedule (ν ν' : Valuation) : Prop where
  start : ∀ i, ν'.int (.start i) = ν.int (.start i)
  stop : ∀ i, ν'.int (.stop i) = ν.int (.stop i)
  presence : ∀ i j, ν'.bool (.presence i j) = ν.bool (.presence i j)

/-- Valuations that agree on the core model select the same plan. -/
theorem Selects.sameSchedule {problem : PlanningProblem} {ν ν' : Valuation}
    {plan : List Placement} (hsame : SameSchedule ν ν') (hsel : Selects problem ν plan) :
    Selects problem ν' plan := by
  refine ⟨hsel.operations, hsel.options, ?_⟩
  have hselected := List.forall₂_iff_get.mp hsel.selected
  refine List.forall₂_iff_get.mpr ⟨hselected.1, fun i h₁ h₂ => ?_⟩
  have hone := hselected.2 i h₁ h₂
  simp only [List.get_eq_getElem, coreOperations, List.getElem_mapIdx] at hone ⊢
  exact
    { operation_id := hone.operation_id
      resources := hone.resources
      start := (hsame.start i).trans hone.start
      stop := (hsame.stop i).trans hone.stop
      present := by
        intro option hoption
        obtain ⟨j, _, hj⟩ := List.mem_mapIdx.mp hoption
        have hpresence : ν'.bool option.presence = ν.bool option.presence := by
          rw [← hj]
          exact hsame.presence i j
        rw [hpresence]
        exact hone.present option hoption
      option := hone.option
      seconds := hone.seconds }

/-- The valuation with the objective's variables set to what the plan amounts to. -/
def withObjective (problem : PlanningProblem) (plan : List Placement) (ν : Valuation) :
    Valuation where
  int
    | .completionTick i => match problem.deliveryDemands[i]? with
      | some d => completionTick plan d.demandOrderId
      | none => 0
    | .tardinessSeconds i => match problem.deliveryDemands[i]? with
      | some d => planTardiness problem plan d
      | none => 0
    | .totalWeightedTardinessSeconds => weightedTardiness problem plan
    | v => ν.int v
  bool := ν.bool

theorem withObjective_sameSchedule (problem : PlanningProblem) (plan : List Placement)
    (ν : Valuation) : SameSchedule ν (withObjective problem plan ν) :=
  ⟨fun _ => rfl, fun _ => rfl, fun _ _ => rfl⟩

theorem withObjective_measures (problem : PlanningProblem) (plan : List Placement) (ν : Valuation) :
    Measures problem plan (withObjective problem plan ν) := by
  have hget : ∀ x ∈ problem.deliveryDemands.zipIdx, problem.deliveryDemands[x.2]? = some x.1 :=
    fun x hx => List.mk_mem_zipIdx_iff_getElem?.mp hx
  exact
    { completion := fun x hx => by simp only [withObjective, hget x hx]
      tardiness := fun x hx => by simp only [withObjective, hget x hx]
      total := rfl }

/-- The horizon of a model is the one its precheck found, and bounds its variables. -/
theorem buildCoreModel_precheck (validate : Model → Bool) (problem : PlanningProblem)
    (core : CoreCpSatModel) (h : buildCoreModel validate problem = .ok core) :
    ∃ precheck, precheckCoreProblem problem = .ok precheck ∧
      core.horizonTicks = precheck.horizonTicks ∧
      core.model.domains = core.operations.flatMap (operationDomains core.horizonTicks) := by
  obtain ⟨precheck, hprecheck, h⟩ := bind_eq_ok.mp h
  obtain ⟨_, -, h⟩ := bind_eq_ok.mp h
  obtain ⟨temporal, -, h⟩ := bind_eq_ok.mp h
  obtain ⟨-, h⟩ := bind_unit_eq_ok.mp h
  injection h with h
  exact ⟨precheck, hprecheck, by rw [← h], by rw [← h]⟩

/-- What the model of an objective says of a valuation that satisfies the core. -/
structure ObjectiveSpec (problem : PlanningProblem) (core : CoreCpSatModel)
    (objective : DeliveryObjectiveModel) (ν : Valuation) (plan : List Placement) : Prop where
  selects : Selects problem ν plan
  feasible : Feasible problem plan
  satisfied_iff : ∀ ν', SameSchedule ν ν' →
    (objective.model.Satisfied ν' ↔ Measures problem plan ν')
  fits : ∀ ν', SameSchedule ν ν' → Measures problem plan ν' →
    ∀ c ∈ objectiveConstraints problem core, c.Fits ν' (-2 ^ 63) cpSatIntMax

/-- **The objective's model holds exactly of what the plan amounts to.** -/
theorem objective_spec (validate : Model → Bool) (problem : PlanningProblem)
    (core : CoreCpSatModel) (objective : DeliveryObjectiveModel)
    (hbuild : buildCoreModel validate problem = .ok core)
    (hobjective : addDeliveryObjective problem core = .ok objective)
    (ν : Valuation) (plan : List Placement) (hsel : Selects problem ν plan)
    (hfeasible : Feasible problem plan) : ObjectiveSpec problem core objective ν plan := by
  obtain ⟨precheck, hprecheck, hticks, -⟩ := buildCoreModel_precheck validate problem core hbuild
  obtain ⟨horizonStart, horizonEnd, h⟩ := precheck_facts problem precheck hprecheck
  obtain ⟨core', hoperations, -, honly, -, hmodel⟩ := coreModel_spec h precheck hprecheck rfl
  have heq := honly validate core hbuild
  subst heq
  have facts := addDeliveryObjective_facts problem core objective hobjective
  have hinside : ∀ p ∈ plan, 0 ≤ p.stop ∧ p.stop ≤ precheck.horizonTicks := by
    intro p hp
    obtain ⟨hlow, hhigh⟩ := placement_inside h hsel.covers hfeasible p hp
    have := start_lt_stop h.contract hsel.covers hp (hfeasible.duration p hp)
    exact ⟨by omega, hhigh⟩
  refine ⟨hsel, hfeasible, fun ν' hsame => ?_, fun ν' hsame hcompletes => ?_⟩
  · have hsel' := hsel.sameSchedule hsame
    rw [facts.model, Model.satisfied_extend, hmodel ν' plan hsel', objectiveConstraints_iff h
      hoperations hsel' fun d hd => demandStops_ne_nil facts hsel' d hd]
    constructor
    · exact fun hall => hall.2.2
    · exact fun hcompletes => ⟨hfeasible,
        objectiveDomains_hold h hticks facts hsel' hinside hcompletes, hcompletes⟩
  · exact objectiveConstraints_fit h hoperations hticks facts (hsel.sameSchedule hsame) hinside
      hcompletes

/-- **No schedule is lost, and the total is the measured tardiness.** Where the core model and
the objective are built, the objective adds domains and constraints inside the signed 64-bit
integers; every solution of the core model is mapped and extends to the objective's
variables; and in every extension each constraint is evaluated in range and the total is what
is measured from the mapped assignments. -/
theorem objective_agreement (validate : Model → Bool) (problem : PlanningProblem)
    (core : CoreCpSatModel) (objective : DeliveryObjectiveModel)
    (hbuild : buildCoreModel validate problem = .ok core)
    (hobjective : addDeliveryObjective problem core = .ok objective) :
    ∃ domains constraints, objective.model = core.model.extend domains constraints ∧
      (∀ d ∈ domains, d.Fits (-2 ^ 63) (2 ^ 63 - 1)) ∧
      ∀ ν, core.model.Satisfied ν → ∃ values, assignments problem core ν = .ok values ∧
        (∃ ν', SameSchedule ν ν' ∧ objective.model.Satisfied ν') ∧
        ∀ ν', SameSchedule ν ν' → objective.model.Satisfied ν' →
          (∀ c ∈ constraints, c.Fits ν' (-2 ^ 63) (2 ^ 63 - 1)) ∧
          measuredWeightedTardinessSeconds problem values =
            .ok (ν'.int objective.totalWeightedTardinessSeconds) := by
  obtain ⟨precheck, hprecheck, hticks, -⟩ := buildCoreModel_precheck validate problem core hbuild
  obtain ⟨horizonStart, horizonEnd, h⟩ := precheck_facts problem precheck hprecheck
  obtain ⟨core', hoperations, -, honly, hselects, hmodel⟩ :=
    coreModel_spec h precheck hprecheck rfl
  have heq := honly validate core hbuild
  subst heq
  have facts := addDeliveryObjective_facts problem core objective hobjective
  refine ⟨_, _, facts.model, objectiveDomains_fit h hticks facts, fun ν hsat => ?_⟩
  obtain ⟨plan, hsel⟩ := hselects ν hsat
  have hfeasible := (hmodel ν plan hsel).mp hsat
  obtain ⟨values, hvalues, hmeasured⟩ := measured_of_selects h hoperations facts hsel hfeasible
  have hspec := objective_spec validate problem core objective hbuild hobjective ν plan hsel
    hfeasible
  have hextends := withObjective_sameSchedule problem plan ν
  refine ⟨values, hvalues, ⟨withObjective problem plan ν, hextends, ?_⟩,
    fun ν' hsame hsat' => ⟨?_, ?_⟩⟩
  · exact (hspec.satisfied_iff _ hextends).mpr (withObjective_measures problem plan ν)
  · exact hspec.fits ν' hsame ((hspec.satisfied_iff ν' hsame).mp hsat')
  · rw [facts.total, ((hspec.satisfied_iff ν' hsame).mp hsat').total]
    exact hmeasured

/-- The operation in the first tick solves the core model, and its tardiness is measured. -/
theorem objective_agreement_oneOperation :
    ∃ core objective values, buildCoreModel (fun _ => true) oneOperationProblem = .ok core ∧
      addDeliveryObjective oneOperationProblem core = .ok objective ∧
      core.model.Satisfied firstTick ∧
      assignments oneOperationProblem core firstTick = .ok values ∧
      ∃ ν', SameSchedule firstTick ν' ∧ objective.model.Satisfied ν' ∧
        measuredWeightedTardinessSeconds oneOperationProblem values =
          .ok (ν'.int objective.totalWeightedTardinessSeconds) := by
  have hcomputed : ((buildCoreModel (fun _ => true) oneOperationProblem).toOption.bind fun core =>
      (addDeliveryObjective oneOperationProblem core).toOption.map fun _ =>
        decide (core.model.Satisfied firstTick)) = some true := by
    decide +kernel
  cases hbuild : buildCoreModel (fun _ => true) oneOperationProblem with
  | error e =>
    rw [hbuild] at hcomputed
    cases hcomputed
  | ok core =>
    cases hobjective : addDeliveryObjective oneOperationProblem core with
    | error e =>
      simp [hbuild, hobjective, Except.toOption] at hcomputed
    | ok objective =>
      have hsat : core.model.Satisfied firstTick := by
        simpa [hbuild, hobjective, Except.toOption] using hcomputed
      obtain ⟨_, _, -, -, hall⟩ := objective_agreement _ _ core objective hbuild hobjective
      obtain ⟨values, hvalues, ⟨ν', hsame, hsat'⟩, hevery⟩ := hall firstTick hsat
      exact ⟨core, objective, values, rfl, hobjective, hsat, hvalues, ν', hsame, hsat',
        (hevery ν' hsame hsat').2⟩

end PlantNexus.Backend
