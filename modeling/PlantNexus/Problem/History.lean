import PlantNexus.Data.Fails
import PlantNexus.Problem.Builder
import PlantNexus.Snapshot.Accepted

/-! The historical facts of a built problem.

The builder rejects a snapshot because of its historical facts where an operation is completed
and one before it is not, or where a completion lies after the cutoff. `Historical` says that
neither happens, and `buildPlanningProblemV2_historical` that no such snapshot is rejected for
its history. -/
namespace PlantNexus.Problem
open Data Time Domain Snapshot

/-- The history of a snapshot that the builder can represent: no completed operation comes after
one that is not, and no completion lies after the cutoff. -/
structure Historical (s : PlanningSnapshot) : Prop where
  ordered : ∀ edge ∈ s.operationPrecedenceEdges,
    edge.successorOperationInstanceId ∈ completedIds s →
      edge.predecessorOperationInstanceId ∈ completedIds s
  past : ∀ fact ∈ s.records.executionFacts, ∀ stop, fact.actualEndAtUtc = some stop →
    ∀ x, parseUtcInstant stop = .ok x →
      ∀ cutoff, parseUtcInstant s.cutoffAtUtc = .ok cutoff → x ≤ cutoff

section
variable {s : PlanningSnapshot}

/-! ### Edges -/

theorem mem_completedIds {id : String} : id ∈ completedIds s ↔
    ∃ o ∈ s.operationInstances, o.operationInstanceId = id ∧ o.status = .completed := by
  simp only [completedIds, List.mem_map, List.mem_filter, decide_eq_true_eq]
  constructor
  · rintro ⟨o, ⟨ho, hstatus⟩, rfl⟩
    exact ⟨o, ho, rfl, hstatus⟩
  · rintro ⟨o, ho, rfl, hstatus⟩
    exact ⟨o, ⟨ho, hstatus⟩, rfl⟩

theorem mem_activeInstanceIds {id : String} : id ∈ activeInstanceIds s ↔
    ∃ o ∈ s.operationInstances, o.operationInstanceId = id ∧ o.status ≠ .completed := by
  simp only [activeInstanceIds, List.mem_map, List.mem_filter, decide_eq_true_eq]
  constructor
  · rintro ⟨o, ⟨ho, hstatus⟩, rfl⟩
    exact ⟨o, ho, rfl, hstatus⟩
  · rintro ⟨o, ho, rfl, hstatus⟩
    exact ⟨o, ⟨ho, hstatus⟩, rfl⟩

/-- The operations that an edge of an accepted snapshot connects. -/
theorem edge_operations (h : AcceptedSnapshot s) {edge : OperationPrecedenceEdge}
    (hedge : edge ∈ s.operationPrecedenceEdges) :
    (∃ p ∈ s.operationInstances,
      p.operationInstanceId = edge.predecessorOperationInstanceId) ∧
    ∃ q ∈ s.operationInstances, q.operationInstanceId = edge.successorOperationInstanceId := by
  obtain ⟨i, hcheck⟩ := h.edges edge hedge
  simp only [checkInstanceEdge, bind_eq_ok, exists_unit_iff, require_eq_ok] at hcheck
  obtain ⟨⟨hpredecessor, hsuccessor, -⟩, -⟩ := hcheck
  obtain ⟨p, hp⟩ := Option.ne_none_iff_exists'.mp hpredecessor
  obtain ⟨q, hq⟩ := Option.ne_none_iff_exists'.mp hsuccessor
  exact ⟨⟨p, mem_of_dictGet hp⟩, ⟨q, mem_of_dictGet hq⟩⟩

/-- **The edges of an accepted snapshot are projected exactly when** no completed operation
comes after one that is not. -/
theorem projectEdgesV2_isOk (h : AcceptedSnapshot s) :
    (∃ edges, projectEdgesV2 s = .ok edges) ↔
      ∀ edge ∈ s.operationPrecedenceEdges,
        edge.successorOperationInstanceId ∈ completedIds s →
          edge.predecessorOperationInstanceId ∈ completedIds s := by
  have hcollect : (∃ edges, projectEdgesV2 s = .ok edges) ↔
      ∃ projected, collect (projectEdge s) s.operationPrecedenceEdges = .ok projected := by
    simp only [projectEdgesV2, bind_eq_ok, pure, Except.pure, Except.ok.injEq]
    constructor
    · rintro ⟨edges, projected, hprojected, -⟩
      exact ⟨projected, hprojected⟩
    · rintro ⟨projected, hprojected⟩
      exact ⟨_, projected, hprojected, rfl⟩
  rw [hcollect, collect_isOk]
  refine forall₂_congr fun edge hedge => ?_
  obtain ⟨⟨p, hp, hpid⟩, q, hq, hqid⟩ := edge_operations h hedge
  -- an operation is active or completed, and never both
  have hstate : ∀ id, (∃ o ∈ s.operationInstances, o.operationInstanceId = id) →
      (id ∈ activeInstanceIds s ↔ id ∉ completedIds s) := by
    rintro id ⟨o, ho, rfl⟩
    rw [mem_activeInstanceIds, mem_completedIds]
    constructor
    · rintro ⟨x, hx, hxid, hactive⟩ ⟨y, hy, hyid, hcompleted⟩
      obtain rfl := List.inj_on_of_nodup_map h.instanceIds hx hy (hxid.trans hyid.symm)
      exact hactive hcompleted
    · intro hnot
      exact ⟨o, ho, rfl, fun hcompleted => hnot ⟨o, ho, rfl, hcompleted⟩⟩
  have hpredecessor := hstate _ ⟨p, hp, hpid⟩
  have hsuccessor := hstate _ ⟨q, hq, hqid⟩
  by_cases hp : edge.predecessorOperationInstanceId ∈ completedIds s
  · simp only [hp, imp_true_iff, iff_true]
    by_cases hq : edge.successorOperationInstanceId ∈ completedIds s
    · exact ⟨none, if_pos ⟨hp, hq⟩⟩
    · refine ⟨some (projectedEdge edge), ?_⟩
      simp only [projectEdge, hp, hq, hpredecessor, hsuccessor, require, and_false, if_false,
        not_true, not_false_iff, if_true, or_true, and_self]
      rfl
  · simp only [hp, imp_false]
    by_cases hq : edge.successorOperationInstanceId ∈ completedIds s
    · refine iff_of_false ?_ (not_not.mpr hq)
      rintro ⟨projected, hproject⟩
      simp only [projectEdge, hp, hq, hpredecessor, require, false_and, if_false, not_true,
        not_false_iff, and_self] at hproject
      cases hproject
    · refine iff_of_true ⟨some (projectedEdge edge), ?_⟩ hq
      simp only [projectEdge, hp, hq, hpredecessor, hsuccessor, require, and_false, if_false,
        not_false_iff, if_true, true_or, and_self]
      rfl

/-! ### Anchors -/

/-- The fact of a completed operation of an accepted snapshot. -/
theorem completed_fact (h : AcceptedSnapshot s) {o : Snapshot.OperationInstance}
    (ho : o ∈ s.operationInstances) (hstatus : o.status = .completed) :
    ∃ fact ∈ s.records.executionFacts, namedFact s o = some fact ∧ fact.status = .completed ∧
      fact.resourceId ≠ none ∧ fact.actualStartAtUtc ≠ none ∧
      ∃ stop x, fact.actualEndAtUtc = some stop ∧ parseUtcInstant stop = .ok x := by
  obtain ⟨fact, hfact, hnamed, -, hsame⟩ := h.started_fact ho (by rw [hstatus]; decide)
  have hcompleted : fact.status = .completed := by
    cases hcases : fact.status with
    | completed => rfl
    | running =>
      rw [hstatus, hcases] at hsame
      cases hsame
  have hget : namedFact s o = some fact := by
    rw [namedFact, hnamed, Option.bind_some]
    exact (dictGet_eq_some_iff _ _ _ _ h.records.executionFactIds).mpr ⟨hfact, rfl⟩
  obtain ⟨i, hcheck⟩ := h.records.facts fact hfact
  simp only [checkFact, bind_eq_ok, exists_unit_iff, require_eq_ok] at hcheck
  obtain ⟨-, -, -, ⟨hmissing, -⟩, -, -, -, stop, hstop, -⟩ := hcheck
  rw [hcompleted] at hmissing
  have hpresent : ∀ field ∈ FactStatus.completed.requiredFields, field ∈ fact.presentFields := by
    intro field hfield
    by_contra habsent
    have hmem : field ∈ FactStatus.completed.requiredFields.filter (· ∉ fact.presentFields) :=
      List.mem_filter.mpr ⟨hfield, decide_eq_true habsent⟩
    rw [hmissing] at hmem
    cases hmem
  have hresource : fact.resourceId ≠ none := by
    intro hnone
    have hmem := hpresent "resource_id" (by decide)
    simp [ExecutionFactRecord.presentFields, hnone] at hmem
  have hend : fact.actualEndAtUtc ≠ none := by
    intro hnone
    have hmem := hpresent "actual_end_at_utc" (by decide)
    simp [ExecutionFactRecord.presentFields, hnone] at hmem
  obtain ⟨text, htext⟩ := Option.ne_none_iff_exists'.mp hend
  simp only [htext, utc?, Snapshot.utc, bind_eq_ok, exists_unit_iff] at hstop
  obtain ⟨x, ⟨-, hparse⟩, -⟩ := hstop
  refine ⟨fact, hfact, hget, hcompleted, hresource, h.records.fact_start hfact, text, x, htext, ?_⟩
  cases hinstant : parseUtcInstant text with
  | ok y =>
    rw [hinstant] at hparse
    exact congrArg Except.ok (Except.ok.inj hparse)
  | error message =>
    rw [hinstant] at hparse
    cases hparse

/-- **A completed operation has an anchor**, unless its completion lies after the cutoff. -/
theorem projectAnchor_isOk (h : AcceptedSnapshot s) (hhistory : Historical s) {cutoff : Datetime}
    (hcutoff : parseUtcInstant s.cutoffAtUtc = .ok cutoff) {id : String}
    (hid : id ∈ completedIds s) : ∃ anchor, projectAnchor s cutoff id = .ok anchor := by
  obtain ⟨o, ho, rfl, hstatus⟩ := mem_completedIds.mp hid
  obtain ⟨fact, hfact, hnamed, hcompleted, hresource, hstart, stop, x, hstop, hparse⟩ :=
    completed_fact h ho hstatus
  obtain ⟨resource, hresource⟩ := Option.ne_none_iff_exists'.mp hresource
  obtain ⟨start, hstart⟩ := Option.ne_none_iff_exists'.mp hstart
  have hinstance : instanceById s o.operationInstanceId = some o :=
    (dictGet_eq_some_iff _ _ _ _ h.instanceIds).mpr ⟨ho, rfl⟩
  have hpast : x ≤ cutoff := hhistory.past fact hfact stop hstop x hparse cutoff hcutoff
  have hinstant : snapshotInstant stop = .ok x := by rw [snapshotInstant, hparse]; rfl
  simp only [projectAnchor, hinstance, Option.bind_some, hnamed, hresource, hstart, hstop,
    hinstant, bind_eq_ok, exists_unit_iff, require_eq_ok]
  exact ⟨_, hcompleted, x, rfl, hpast, rfl⟩

/-- The anchors are completed operations. -/
theorem anchorOperationIds_completed {edges : List PrecedenceEdge} {operationId : String}
    (h : operationId ∈ sortByKey id (anchorOperationIds s edges)) :
    operationId ∈ completedIds s := by
  rw [mem_sortByKey, anchorOperationIds, List.mem_dedup] at h
  exact of_decide_eq_true (List.mem_filter.mp h).2

/-- The horizon starts at the cutoff. -/
theorem validateConfigV2_cutoff {config : BuildConfig} {horizonStart horizonEnd : Datetime}
    (h : validateConfigV2 s config = .ok (horizonStart, horizonEnd)) :
    parseUtcInstant s.cutoffAtUtc = .ok horizonStart := by
  simp only [validateConfigV2, bind_eq_ok, exists_unit_iff, require_eq_ok, pure, Except.pure,
    Except.ok.injEq, Prod.mk.injEq] at h
  obtain ⟨-, -, start, hstart, stop, -, hsame, -, rfl, rfl⟩ := h
  rw [← hsame]
  rw [secondPrecisionUtc] at hstart
  cases hparse : parseUtcInstant config.horizonStartUtc with
  | error message =>
    rw [hparse] at hstart
    cases hstart
  | ok parsed =>
    simp only [hparse, bind_eq_ok, exists_unit_iff, pure, Except.pure, Except.ok.injEq] at hstart
    rw [hstart.2]

/-! ### Rejections -/

/-- The builder's rejection of the history of a snapshot. -/
def OfHistory (error : PlanningProblemError) : Prop := error.code = .invalidHistoricalFact

/-- The rejections of the other stages. -/
def Elsewhere (error : PlanningProblemError) : Prop := ¬OfHistory error

theorem elsewhere {code : PlanningProblemErrorCode} {field entityId expected message : String}
    (h : code ≠ .invalidHistoricalFact) :
    Elsewhere ⟨code, field, entityId, expected, message⟩ := h

theorem snapshotInstant_fails (value : String) : FailsWith Elsewhere (snapshotInstant value) :=
  .mapError fun _ => elsewhere (by decide)

theorem secondPrecisionUtc_fails (value field snapshotId : String) :
    FailsWith Elsewhere (secondPrecisionUtc value field snapshotId) := by
  rw [secondPrecisionUtc]
  split
  · exact .bind (.require (elsewhere (by decide))) fun _ _ => .ok _
  · exact .error (elsewhere (by decide))

theorem validateConfigV2_fails (config : BuildConfig) :
    FailsWith Elsewhere (validateConfigV2 s config) := by
  refine .bind (.require (elsewhere (by decide))) fun _ _ => ?_
  refine .bind (.require (elsewhere (by decide))) fun _ _ => ?_
  refine .bind (secondPrecisionUtc_fails _ _ _) fun _ _ => ?_
  refine .bind (secondPrecisionUtc_fails _ _ _) fun _ _ => ?_
  refine .bind (.require (elsewhere (by decide))) fun _ _ => ?_
  exact .bind (.require (elsewhere (by decide))) fun _ _ => .ok _

theorem projectOperationsV2_fails (tick : Int) (horizonStart horizonEnd : Datetime) :
    FailsWith Elsewhere (projectOperationsV2 s tick horizonStart horizonEnd) := by
  refine .bind (.collect fun o _ => ?_) fun _ _ => .ok _
  rw [projectInstance]
  split
  · exact .ok _
  · refine .map ?_
    rw [projectRunning]
    split
    · exact .error (elsewhere (by decide))
    · split
      · exact .bind (.require (elsewhere (by decide))) fun _ _ => .ok _
      · exact .error (elsewhere (by decide))
  · refine .map (.bind (snapshotInstant_fails _) fun _ _ => ?_)
    refine .bind (snapshotInstant_fails _) fun _ _ => ?_
    exact .bind (.require (elsewhere (by decide))) fun _ _ => .ok _

theorem projectDeliveryDemandsV2_fails (demandIds : List String)
    (priorityFacts : List (String × Json)) :
    FailsWith Elsewhere (projectDeliveryDemandsV2 s demandIds priorityFacts) := by
  refine .bind (.require (elsewhere (by decide))) fun _ _ => .collect fun demandId _ => ?_
  rw [projectDemand]
  split
  · refine .bind (.require (elsewhere (by decide))) fun _ _ => ?_
    refine .bind ?_ fun _ _ => .bind ?_ fun _ _ => .ok _
    · rw [priorityWeight]
      split
      · exact .bind (.require (elsewhere (by decide))) fun _ _ => .ok _
      · exact .error (elsewhere (by decide))
    · exact .forEach fun _ _ _ => .require (elsewhere (by decide))
  · exact .error (elsewhere (by decide))

theorem projectResourcesV2_fails : FailsWith Elsewhere (projectResourcesV2 s) := by
  refine .collect fun resource _ => ?_
  rw [projectResource]
  split
  · exact .ok _
  · exact .error (elsewhere (by decide))

theorem projectLocksV2_fails (horizonStart : Datetime) :
    FailsWith Elsewhere (projectLocksV2 s horizonStart) := by
  refine .foldlM fun projected operationId _ => ?_
  split
  · exact .ok _
  · refine .foldlM fun projected lockId _ => ?_
    rw [projectLock]
    split
    · exact .error (elsewhere (by decide))
    · refine .bind (snapshotInstant_fails _) fun _ _ => ?_
      split
      · exact .ok _
      · refine .bind (.require (elsewhere (by decide))) fun _ _ => ?_
        exact .bind (.require (elsewhere (by decide))) fun _ _ => .ok _

theorem projectUnavailableIntervalsV2_fails (horizonStart horizonEnd : Datetime) :
    FailsWith Elsewhere (projectUnavailableIntervalsV2 s horizonStart horizonEnd) := by
  refine .bind (.collect fun resource _ => ?_) fun _ _ => .ok _
  rw [projectResourceIntervals]
  split
  · exact .error (elsewhere (by decide))
  · refine .bind (.collect fun interval _ => ?_) fun _ _ => .ok _
    refine .bind (snapshotInstant_fails _) fun _ _ => ?_
    refine .bind (snapshotInstant_fails _) fun _ _ => ?_
    split
    · exact .ok _
    · exact .ok _

theorem validateBuiltProblemV2_fails (document : PlanningProblem) :
    FailsWith Elsewhere (validateBuiltProblemV2 document) := by
  refine .bind (.forEach fun _ _ _ => .require (elsewhere (by decide))) fun _ _ => ?_
  refine .bind (.forEach fun _ _ _ => .require (elsewhere (by decide))) fun _ _ => ?_
  split
  · exact .error (elsewhere (by decide))
  · split
    · exact .error (elsewhere (by decide))
    · exact .require (elsewhere (by decide))

theorem verifyProblemV2_fails (problem : ImmutablePlanningProblemV2) :
    FailsWith Elsewhere (verifyProblemV2 problem) := by
  refine .bind (validateBuiltProblemV2_fails _) fun _ _ => ?_
  refine .bind (.require (elsewhere (by decide))) fun _ _ => ?_
  exact .require (elsewhere (by decide))

end

/-- **A snapshot whose history can be represented is not rejected for it.** -/
theorem buildPlanningProblemV2_historical {snapshot : ImmutablePlanningSnapshot}
    (hhistory : Historical snapshot.document) (priorityFacts : List (String × Json))
    (config : BuildConfig) :
    FailsWith Elsewhere (buildPlanningProblemV2 snapshot priorityFacts config) := by
  refine .bind (.mapError fun _ => elsewhere (by decide)) fun _ hverified => ?_
  have haccepted : AcceptedSnapshot snapshot.document := by
    rw [mapError_eq_ok, verifySnapshot_eq_ok] at hverified
    exact validatePlanningSnapshotV2_ok hverified.valid
  refine .bind (validateConfigV2_fails _) fun horizon hconfig => ?_
  obtain ⟨horizonStart, horizonEnd⟩ := horizon
  have hcutoff := validateConfigV2_cutoff hconfig
  refine .bind (.require (elsewhere (by decide))) fun _ _ => ?_
  refine .bind (projectOperationsV2_fails _ _ _) fun operations _ => ?_
  refine .bind (projectDeliveryDemandsV2_fails _ _) fun demands _ => ?_
  refine .bind projectResourcesV2_fails fun resources _ => ?_
  refine .bind ?_ fun edges hedges => .bind ?_ fun anchors _ => ?_
  · obtain ⟨edges, hedges⟩ := (projectEdgesV2_isOk haccepted).mpr hhistory.ordered
    rw [hedges]
    exact .ok _
  · obtain ⟨anchors, hanchors⟩ := (collect_isOk (projectAnchor snapshot.document horizonStart)
      (sortByKey id (anchorOperationIds snapshot.document edges))).mpr fun operationId hid =>
        projectAnchor_isOk haccepted hhistory hcutoff (anchorOperationIds_completed hid)
    rw [projectHistoricalAnchorsV2, hanchors]
    exact .ok _
  refine .bind (projectLocksV2_fails _) fun locks _ => ?_
  refine .bind (projectUnavailableIntervalsV2_fails _ _) fun intervals _ => ?_
  refine .bind (validateBuiltProblemV2_fails _) fun _ _ => ?_
  exact .bind (verifyProblemV2_fails _) fun _ _ => .ok _

end PlantNexus.Problem
