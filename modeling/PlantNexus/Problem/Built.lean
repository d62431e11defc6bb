import PlantNexus.Problem.Builder

/-! What the builder establishes of a problem beside its contract.

The horizon of a problem that was built consists of whole seconds, what is left of a running
operation fits into it, and its demands are those of its operations (`buildPlanningProblemV2_ok`). -/
namespace PlantNexus.Problem
open Data Time Domain Snapshot

/-- A problem that the builder returned. -/
structure BuiltProblem (problem : PlanningProblem) (horizonStart horizonEnd : Datetime) :
    Prop where
  start : parseUtcInstant problem.horizonStartUtc = .ok horizonStart
  stop : parseUtcInstant problem.horizonEndUtc = .ok horizonEnd
  wholeStart : microsPerSecond ∣ horizonStart.micros
  wholeStop : microsPerSecond ∣ horizonEnd.micros
  running : ∀ o ∈ problem.operationInstances, o.status = .running →
    ∀ remaining ∈ o.remainingSeconds,
      durationTicks remaining problem.tickSeconds * problem.tickSeconds * microsPerSecond ≤
        horizonEnd.micros - horizonStart.micros
  demands : (problem.deliveryDemands.map DeliveryDemand.demandOrderId).Perm
    (problem.operationInstances.map OperationInstance.demandOrderId).dedup
  valid : validateBuiltProblemV2 problem = .ok ()

/-! ### The horizon -/

/-- An instant at second precision is a whole second. -/
theorem secondPrecisionUtc_ok {value field snapshotId : String} {d : Datetime}
    (h : secondPrecisionUtc value field snapshotId = .ok d) :
    parseUtcInstant value = .ok d ∧ microsPerSecond ∣ d.micros := by
  rw [secondPrecisionUtc] at h
  cases hparse : parseUtcInstant value with
  | error message =>
    rw [hparse] at h
    cases h
  | ok parsed =>
    simp only [hparse, bind_eq_ok, exists_unit_iff, require_eq_ok, pure, Except.pure,
      Except.ok.injEq] at h
    obtain ⟨hformat, rfl⟩ := h
    have hwritten := parseUtcInstant_formatUtcInstant parsed
    rw [hformat, hparse, Except.ok.injEq] at hwritten
    exact ⟨rfl, (Datetime.truncateToSecond_eq_self_iff parsed).mp hwritten.symm⟩

theorem validateConfigV2_ok {s : PlanningSnapshot} {config : BuildConfig}
    {horizonStart horizonEnd : Datetime}
    (h : validateConfigV2 s config = .ok (horizonStart, horizonEnd)) :
    (parseUtcInstant config.horizonStartUtc = .ok horizonStart ∧
        microsPerSecond ∣ horizonStart.micros) ∧
      parseUtcInstant config.horizonEndUtc = .ok horizonEnd ∧
        microsPerSecond ∣ horizonEnd.micros := by
  simp only [validateConfigV2, bind_eq_ok, exists_unit_iff, pure, Except.pure, Except.ok.injEq,
    Prod.mk.injEq] at h
  obtain ⟨-, -, _, hstart, _, hstop, -, -, rfl, rfl⟩ := h
  exact ⟨secondPrecisionUtc_ok hstart, secondPrecisionUtc_ok hstop⟩

/-- The difference of two whole seconds is measured exactly. -/
theorem wholeSeconds_sub {d e : Datetime} (hd : microsPerSecond ∣ d.micros)
    (he : microsPerSecond ∣ e.micros) :
    wholeSeconds (d.sub e) * microsPerSecond = d.micros - e.micros := by
  obtain ⟨n, hn⟩ := Int.dvd_sub hd he
  have hsub : d.sub e = n * microsPerSecond := by rw [Datetime.sub, hn, Int.mul_comm]
  rw [hsub, wholeSeconds_exact, hn, Int.mul_comm]

/-! ### Operations -/

theorem projectRunning_ok {s : PlanningSnapshot} {tick horizonSeconds : Int}
    {o : Snapshot.OperationInstance} {projected : OperationInstance}
    (h : projectRunning s tick horizonSeconds o = .ok projected) :
    ∀ remaining ∈ projected.remainingSeconds,
      durationTicks remaining tick * tick ≤ horizonSeconds := by
  rw [projectRunning] at h
  split at h
  · cases h
  · split at h
    · simp only [bind_eq_ok, exists_unit_iff, require_eq_ok, pure, Except.pure,
        Except.ok.injEq] at h
      obtain ⟨hfits, rfl⟩ := h
      rintro remaining hremaining
      obtain rfl := Option.some.inj hremaining
      exact hfits
    · cases h

theorem projectNotStarted_ok {tick : Int} {horizonStart horizonEnd : Datetime}
    {o : Snapshot.OperationInstance} {projected : OperationInstance}
    (h : projectNotStarted tick horizonStart horizonEnd o = .ok projected) :
    projected = projectedOperation o .notStarted := by
  simp only [projectNotStarted, bind_eq_ok, exists_unit_iff, pure, Except.pure,
    Except.ok.injEq] at h
  obtain ⟨_, -, _, -, -, rfl⟩ := h
  rfl

theorem map_eq_ok {ε α β : Type} {f : α → β} {x : Except ε α} {b : β} :
    f <$> x = .ok b ↔ ∃ a, x = .ok a ∧ f a = b := by
  cases x with
  | error e =>
    constructor
    · intro h
      cases h
    · rintro ⟨_, h, -⟩
      cases h
  | ok a =>
    constructor
    · intro h
      exact ⟨a, rfl, Except.ok.inj h⟩
    · rintro ⟨_, h, rfl⟩
      obtain rfl := Except.ok.inj h
      rfl

/-- What is left of a projected running operation fits into the horizon. -/
theorem projectOperationsV2_running {s : PlanningSnapshot} {tick : Int}
    {horizonStart horizonEnd : Datetime} {operations : List OperationInstance}
    (h : projectOperationsV2 s tick horizonStart horizonEnd = .ok operations) :
    ∀ o ∈ operations, o.status = .running → ∀ remaining ∈ o.remainingSeconds,
      durationTicks remaining tick * tick ≤ wholeSeconds (horizonEnd.sub horizonStart) := by
  simp only [projectOperationsV2, bind_eq_ok, pure, Except.pure, Except.ok.injEq] at h
  obtain ⟨projected, hprojected, rfl⟩ := h
  intro o ho hstatus
  obtain ⟨_, hmem, hsome⟩ := List.mem_filterMap.mp ho
  obtain rfl : _ = some o := hsome
  obtain ⟨source, -, hproject⟩ := (mem_collect hprojected (some o)).mp hmem
  rw [projectInstance] at hproject
  split at hproject
  · cases hproject
  · obtain ⟨_, hrunning, heq⟩ := map_eq_ok.mp hproject
    obtain rfl := Option.some.inj heq
    exact projectRunning_ok hrunning
  · obtain ⟨_, hwaiting, heq⟩ := map_eq_ok.mp hproject
    obtain rfl := Option.some.inj heq
    rw [projectNotStarted_ok hwaiting] at hstatus
    cases hstatus

/-! ### Demands -/

theorem projectDemand_ok {s : PlanningSnapshot} {priorityFacts : List (String × Json)}
    {demandId : String} {projected : DeliveryDemand}
    (h : projectDemand s priorityFacts demandId = .ok projected) :
    projected.demandOrderId = demandId := by
  rw [projectDemand] at h
  split at h
  · simp only [bind_eq_ok, exists_unit_iff, pure, Except.pure, Except.ok.injEq] at h
    obtain ⟨-, _, -, -, rfl⟩ := h
    rfl
  · cases h

/-- The projected demands are the active ones, in order of their ids. -/
theorem projectDeliveryDemandsV2_ids {s : PlanningSnapshot} {activeDemandIds : List String}
    {priorityFacts : List (String × Json)} {demands : List DeliveryDemand}
    (h : projectDeliveryDemandsV2 s activeDemandIds priorityFacts = .ok demands) :
    demands.map DeliveryDemand.demandOrderId = sortByKey id activeDemandIds := by
  simp only [projectDeliveryDemandsV2, bind_eq_ok, exists_unit_iff] at h
  have hdemands := (collect_eq_ok_iff _ _ _).mp h.2
  clear h
  generalize sortByKey id activeDemandIds = ids at hdemands ⊢
  induction hdemands with
  | nil => rfl
  | cons hdemand _ ih => rw [List.map_cons, projectDemand_ok hdemand, ih]

/-! ### The problem -/

/-- The canonical form reorders demands and operations. -/
theorem canonical_ids (document : PlanningProblem) :
    ((canonicalProblemDocumentV2 document).deliveryDemands.map
        DeliveryDemand.demandOrderId).Perm
      (document.deliveryDemands.map DeliveryDemand.demandOrderId) ∧
    ((canonicalProblemDocumentV2 document).operationInstances.map
        OperationInstance.demandOrderId).Perm
      (document.operationInstances.map OperationInstance.demandOrderId) := by
  constructor
  · exact (sortByKey_perm _ _).map _
  · refine ((sortByKey_perm _ _).map _).trans ?_
    rw [List.map_map]
    exact List.Perm.refl _

/-- **What `buildPlanningProblemV2` returns is a built problem.** -/
theorem buildPlanningProblemV2_ok {snapshot : ImmutablePlanningSnapshot}
    {priorityFacts : List (String × Json)} {config : BuildConfig}
    {built : ImmutablePlanningProblemV2}
    (h : buildPlanningProblemV2 snapshot priorityFacts config = .ok built) :
    ∃ horizonStart horizonEnd, BuiltProblem built.document horizonStart horizonEnd := by
  simp only [buildPlanningProblemV2, bind_eq_ok, exists_unit_iff, pure, Except.pure,
    Except.ok.injEq, Prod.exists] at h
  obtain ⟨-, horizonStart, horizonEnd, hconfig, -, operations, hoperations, demands, hdemands, _,
    -, _, -, _, -, _, -, _, -, hvalid, -, rfl⟩ := h
  obtain ⟨⟨hstart, hwholeStart⟩, hstop, hwholeStop⟩ := validateConfigV2_ok hconfig
  refine ⟨horizonStart, horizonEnd, hstart, hstop, hwholeStart, hwholeStop, ?_, ?_, hvalid⟩
  · intro o ho hstatus remaining hremaining
    obtain ⟨source, hsource, rfl⟩ := List.mem_map.mp ((mem_sortByKey _ _ _).mp ho)
    have hrunning : source.status = .running := hstatus
    have hremaining : remaining ∈ source.remainingSeconds := by
      simpa only [canonicalOperationV2, hrunning, if_true] using hremaining
    have hfits := projectOperationsV2_running hoperations source hsource hrunning remaining
      hremaining
    rw [← wholeSeconds_sub hwholeStop hwholeStart]
    exact mul_le_mul_of_nonneg_right hfits (by decide)
  · refine (canonical_ids _).1.trans (.trans ?_ (canonical_ids _).2.symm.dedup)
    rw [builtDocument, projectDeliveryDemandsV2_ids hdemands]
    exact sortByKey_perm _ _

/-! ### A plain built problem -/

/-- One lot of one minute, to be planned in the plain day. -/
def lotSnapshot : PlanningSnapshot :=
  plainSnapshot (plainRecords 60 ["LOT1"]) [plainInstance 60 "O1" "LOT1"]

/-- A priority for the plain demand. -/
def plainPriorities : List (String × Json) :=
  [("D1", .obj [("priority_weight", .int 1), ("source_system", .str "ERP"),
    ("source_version", .str "1"), ("source_record_id", .str "D1")])]

/-- Four hours in ticks of one minute. -/
def plainConfig : BuildConfig :=
  ⟨problemBuilderVersionV2, 60, "2026-01-01T00:00:00Z", "2026-01-01T04:00:00Z"⟩

theorem plainStart_nonneg : (0 : Int) ≤ 63902822400000000 := by decide
theorem plainStart_lt : 63902822400000000 < microsLimit := by decide

/-- 2026-01-01T00:00:00Z -/
def plainStart : Datetime := ⟨63902822400000000, plainStart_nonneg, plainStart_lt⟩

/-- 2026-01-01T04:00:00Z -/
def plainEnd : Datetime := ⟨63902836800000000, by decide, by decide⟩

/-- What is built from the lot. -/
def lotProblem : PlanningProblem :=
  { plainProblem with
    snapshotId := (sealSnapshot lotSnapshot).snapshotId
    operationInstances := [plainOperation "O1"]
    requiredCapabilities := ["DAG_ROUTING", "RELEASE_AND_MATERIAL_GATE"] }

/-- A problem under its content-derived hash. -/
def immutableProblem (problem : PlanningProblem) : ImmutablePlanningProblemV2 :=
  ⟨sealProblem problem, problemV2HashFor problem, problem.snapshotId,
    problem.problemBuilderVersion⟩

theorem lotSnapshot_verified : verifySnapshot (sealSnapshot lotSnapshot) = .ok () := by
  rw [verifySnapshot_eq_ok]
  exact verified_seal _ rfl (plainSnapshot_canonical (by decide +kernel) (by decide +kernel))
    (plainSnapshot_valid (by decide +kernel) (by decide +kernel))

theorem lotProblem_valid : validateBuiltProblemV2 (sealProblem lotProblem) = .ok () := by
  decide +kernel

theorem lotProblem_built :
    buildPlanningProblemV2 (sealSnapshot lotSnapshot) plainPriorities plainConfig =
      .ok (immutableProblem lotProblem) := by
  have hconfig : validateConfigV2 (sealSnapshot lotSnapshot).document plainConfig =
      .ok (plainStart, plainEnd) := by decide +kernel
  have hoperations : projectOperationsV2 (sealSnapshot lotSnapshot).document 60 plainStart
      plainEnd = .ok [plainOperation "O1"] := by decide +kernel
  have hdemands : projectDeliveryDemandsV2 (sealSnapshot lotSnapshot).document ["D1"]
      plainPriorities = .ok [plainDemand] := by decide +kernel
  have hresources : projectResourcesV2 (sealSnapshot lotSnapshot).document =
      .ok [plainResource] := by decide +kernel
  have hintervals : projectUnavailableIntervalsV2 (sealSnapshot lotSnapshot).document plainStart
      plainEnd = .ok [] := by decide +kernel
  have hcanonical : canonicalProblemDocumentV2 lotProblem = lotProblem := rfl
  have hverified := verifyProblemV2_seal lotProblem hcanonical lotProblem_valid
  have hdocument : canonicalProblemDocumentV2 (builtDocument (sealSnapshot lotSnapshot).snapshotId
      plainConfig [plainDemand] [plainResource] [plainOperation "O1"] [] [] [] []
      (requiredCapabilitiesV2 (sealSnapshot lotSnapshot).document [plainOperation "O1"] [] [])) =
        lotProblem := rfl
  simp only [buildPlanningProblemV2, bind_eq_ok, exists_unit_iff, mapError_eq_ok, require_eq_ok,
    Prod.exists]
  exact ⟨lotSnapshot_verified, plainStart, plainEnd, hconfig, by decide, _, hoperations, _,
    hdemands, _, hresources, [], rfl, [], rfl, [], rfl, [], hintervals,
    hdocument ▸ lotProblem_valid, hdocument ▸ hverified, by rw [hdocument]; rfl⟩

end PlantNexus.Problem
