import PlantNexus.Validation.Catalog
import PlantNexus.Validation.ProblemSchedule

/-! What each evaluator reports.

For every evaluator, a lemma says which constraint its violations name and that there is
one exactly when the catalogue's rule is broken. The evaluators that restore instants
need their ticks in range; `InRange` says which ticks are. C-002 and C-009 read a lag in
whole seconds, and are treated on their own. -/
namespace PlantNexus.Validation
open Data Time Domain Problem

/-! ### Reports of a constraint -/

/-- Some violation names the constraint. -/
def Reports (violations : List Violation) (k : ConstraintId) : Prop :=
  ∃ v ∈ violations, v.constraintId = k

@[simp]
theorem reports_nil (k : ConstraintId) : ¬Reports [] k := by simp [Reports]

@[simp]
theorem reports_append (xs ys : List Violation) (k : ConstraintId) :
    Reports (xs ++ ys) k ↔ Reports xs k ∨ Reports ys k := by
  simp only [Reports, List.mem_append, or_and_right, exists_or]

@[simp]
theorem reports_singleton (k' k : ConstraintId) (ids : List String) (observed : Json) :
    Reports [violation k' ids observed] k ↔ k' = k := by
  simp [Reports]

theorem reports_if (c : Prop) [Decidable c] (k' k : ConstraintId) (ids : List String)
    (observed : Json) :
    Reports (if c then [violation k' ids observed] else []) k ↔ k' = k ∧ c := by
  split <;> simp_all

theorem reports_unless (c : Prop) [Decidable c] (k' k : ConstraintId) (ids : List String)
    (observed : Json) :
    Reports (if c then [] else [violation k' ids observed]) k ↔ k' = k ∧ ¬c := by
  split <;> simp_all

theorem reports_flatten (xss : List (List Violation)) (k : ConstraintId) :
    Reports xss.flatten k ↔ ∃ xs ∈ xss, Reports xs k := by
  simp only [Reports, List.mem_flatten]
  constructor
  · intro hall
    obtain ⟨v, ⟨xs, hxs, hv⟩, hk⟩ := hall
    exact ⟨xs, hxs, v, hv, hk⟩
  · intro hall
    obtain ⟨xs, hxs, v, hv, hk⟩ := hall
    exact ⟨v, ⟨xs, hxs, hv⟩, hk⟩

theorem reports_flatMap {α : Type} (f : α → List Violation) (xs : List α) (k : ConstraintId) :
    Reports (xs.flatMap f) k ↔ ∃ x ∈ xs, Reports (f x) k := by
  rw [List.flatMap_def, reports_flatten]
  simp

theorem reports_sortByKey (xs : List Violation) (k : ConstraintId) :
    Reports (sortByKey violationSortKey xs) k ↔ Reports xs k := by
  simp [Reports]

/-- An evaluator that visits every element reports what some visit reports. -/
theorem reports_collect {α : Type} {f : α → Except ValidatorError (List Violation)}
    {xs : List α} {found : List (List Violation)} (h : collect f xs = .ok found)
    (k : ConstraintId) :
    Reports found.flatten k ↔ ∃ x ∈ xs, ∃ vs, f x = .ok vs ∧ Reports vs k := by
  rw [reports_flatten]
  have h2 := (collect_eq_ok_iff f xs found).mp h
  clear h
  induction h2 with
  | nil => simp
  | cons hy _ ih =>
    simp only [List.mem_cons, exists_eq_or_imp, ih, hy, Except.ok.injEq, exists_eq_left']

/-- An evaluator that gathers what its visits report returns when every visit does. -/
theorem collected_isOk {α : Type} (f : α → Except ValidatorError (List Violation))
    (xs : List α) :
    (∃ vs, (do let found ← collect f xs; return found.flatten) = Except.ok vs) ↔
      ∀ x ∈ xs, ∃ vs, f x = .ok vs := by
  rw [← collect_isOk]
  constructor
  · intro hall
    obtain ⟨vs, hvs⟩ := hall
    obtain ⟨found, hfound, -⟩ := bind_eq_ok.mp hvs
    exact ⟨found, hfound⟩
  · intro hall
    obtain ⟨found, hfound⟩ := hall
    exact ⟨found.flatten, bind_eq_ok.mpr ⟨found, hfound, rfl⟩⟩

/-- If a visit reports `k'` exactly on a bad element, the evaluator reports it exactly when
some element is bad. -/
theorem reports_collected {α : Type} {f : α → Except ValidatorError (List Violation)}
    {xs : List α} {vs : List Violation} {k k' : ConstraintId} {Bad : α → Prop}
    (h : (do let found ← collect f xs; return found.flatten) = Except.ok vs)
    (hone : ∀ x ∈ xs, ∀ ws, f x = .ok ws → (Reports ws k ↔ k' = k ∧ Bad x)) :
    Reports vs k ↔ k' = k ∧ ∃ x ∈ xs, Bad x := by
  obtain ⟨found, hfound, hvs⟩ := bind_eq_ok.mp h
  injection hvs with hvs
  subst hvs
  rw [reports_collect hfound]
  constructor
  · intro hall
    obtain ⟨x, hx, ws, hws, hrep⟩ := hall
    obtain ⟨hk, hbad⟩ := (hone x hx ws hws).mp hrep
    exact ⟨hk, x, hx, hbad⟩
  · intro hall
    obtain ⟨hk, x, hx, hbad⟩ := hall
    obtain ⟨ws, hws⟩ := (collect_isOk _ _).mp ⟨found, hfound⟩ x hx
    exact ⟨x, hx, ws, hws, (hone x hx ws hws).mpr ⟨hk, hbad⟩⟩

/-! ### The candidate's assignments -/

theorem materializeEntry_fst (index : Nat) (raw : Json) :
    (materializeEntry index raw).1 = readEntry index raw := by
  unfold materializeEntry readEntry
  split
  · split <;> simp_all
  · rfl

theorem materializeAssignments_fst (problem : PlanningProblem) (candidate : Json) :
    (materializeAssignments problem candidate).1 = candidateAssignments candidate := by
  unfold materializeAssignments candidateAssignments candidateEntries
  cases candidate.get "assignments" with
  | arr raws =>
    have : (raws.mapIdx materializeEntry).map Prod.fst = raws.mapIdx readEntry := by
      simp [List.mapIdx_eq_zipIdx_map, materializeEntry_fst]
    show (raws.mapIdx materializeEntry).filterMap Prod.fst = (raws.mapIdx readEntry).filterMap id
    rw [← this, List.filterMap_map]
    rfl
  | _ => rfl

theorem interval_eq_none (a : Assignment) :
    a.interval = none ↔
      ∀ start stop, a.startTick = some start → a.endTick = some stop → stop ≤ start := by
  constructor
  · intro h start stop hs he
    by_contra hlt
    have := (a.interval_eq_some start stop).mpr ⟨hs, he, by omega⟩
    rw [h] at this
    cases this
  · intro h
    cases hint : a.interval with
    | none => rfl
    | some p =>
      obtain ⟨start, stop⟩ := p
      obtain ⟨hs, he, hlt⟩ := (a.interval_eq_some start stop).mp hint
      have := h start stop hs he
      omega

/-- What is wrong with the shape of one entry. -/
theorem reports_materializeEntry (index : Nat) (raw : Json) (k : ConstraintId) :
    Reports (materializeEntry index raw).2 k ↔
      (k = .c001 ∧ (isObject raw = false ∨ identifier (raw.get "operation_id") = none ∨
        ∀ start stop, integer (raw.get "start_tick") = some start →
          integer (raw.get "end_tick") = some stop → stop ≤ start)) ∨
      (k = .c003 ∧ ∃ a ∈ readEntry index raw, a.resourceId = none) := by
  unfold materializeEntry readEntry
  by_cases hobj : isObject raw = true
  · simp only [hobj, if_true]
    cases hid : identifier (raw.get "operation_id") with
    | none => simp [eq_comm]
    | some id =>
      simp only [reports_append, reports_if, interval_eq_none, Option.map_some, Option.mem_def,
        Option.some.injEq, exists_eq_left', reduceCtorEq, false_or]
      show (_ ∨ _ ∧ ∀ start stop, integer (raw.get "start_tick") = some start →
          integer (raw.get "end_tick") = some stop → stop ≤ start) ↔ _
      rw [eq_comm (a := k) (b := ConstraintId.c001), eq_comm (a := k) (b := ConstraintId.c003)]
      tauto
  · have hobj' : isObject raw = false := by simpa using hobj
    simp [hobj', eq_comm]

theorem mem_candidateAssignments (candidate : Json) (raws : List Json)
    (h : candidateEntries candidate = some raws) (a : Assignment) :
    a ∈ candidateAssignments candidate ↔
      ∃ i, ∃ hi : i < raws.length, readEntry i raws[i] = some a := by
  simp only [candidateAssignments, h, List.mem_filterMap, List.mem_mapIdx, id_eq]
  constructor
  · intro hall
    obtain ⟨_, ⟨i, hi, rfl⟩, ha⟩ := hall
    exact ⟨i, hi, ha⟩
  · intro hall
    obtain ⟨i, hi, ha⟩ := hall
    exact ⟨_, ⟨i, hi, rfl⟩, ha⟩

/-- **Reading the candidate reports C-001 when it is malformed and C-003 when an
assignment names no resource.** -/
theorem reports_materialization (problem : PlanningProblem) (candidate : Json)
    (k : ConstraintId) :
    Reports (materializeAssignments problem candidate).2 k ↔
      (k = .c001 ∧ Malformed problem candidate) ∨
      (k = .c003 ∧ ∃ a ∈ candidateAssignments candidate, a.resourceId = none) := by
  have href : Reports (referenceViolations problem candidate) k ↔
      k = .c001 ∧ referencesProblem problem candidate = false := by
    unfold referenceViolations
    rw [reports_unless, Bool.not_eq_true]
    exact and_congr_left' eq_comm
  unfold materializeAssignments
  split
  · rename_i raws hraws
    have hentries : candidateEntries candidate = some raws := by simp [candidateEntries, hraws]
    rw [reports_append, href, reports_flatMap]
    have hmem : (∃ x ∈ raws.mapIdx materializeEntry, Reports x.2 k) ↔
        ∃ i, ∃ hi : i < raws.length, Reports (materializeEntry i raws[i]).2 k := by
      simp only [List.mem_mapIdx]
      constructor
      · intro hall
        obtain ⟨_, ⟨i, hi, rfl⟩, hx⟩ := hall
        exact ⟨i, hi, hx⟩
      · intro hall
        obtain ⟨i, hi, hx⟩ := hall
        exact ⟨_, ⟨i, hi, rfl⟩, hx⟩
    have hmalformed : Malformed problem candidate ↔
        referencesProblem problem candidate = false ∨ ∃ raw ∈ raws,
          isObject raw = false ∨ identifier (raw.get "operation_id") = none ∨
            ∀ start stop, integer (raw.get "start_tick") = some start →
              integer (raw.get "end_tick") = some stop → stop ≤ start := by
      simp [Malformed, hentries]
    rw [hmem, hmalformed]
    simp only [reports_materializeEntry, Option.mem_def]
    constructor
    · rintro (⟨rfl, hr⟩ | ⟨i, hi, ⟨rfl, hbad⟩ | ⟨rfl, a, ha, hres⟩⟩)
      · exact .inl ⟨rfl, .inl hr⟩
      · exact .inl ⟨rfl, .inr ⟨raws[i], List.getElem_mem hi, hbad⟩⟩
      · exact .inr ⟨rfl, a, (mem_candidateAssignments candidate raws hentries a).mpr ⟨i, hi, ha⟩,
          hres⟩
    · rintro (⟨rfl, hr | ⟨raw, hraw, hbad⟩⟩ | ⟨rfl, a, ha, hres⟩)
      · exact .inl ⟨rfl, hr⟩
      · obtain ⟨i, hi, rfl⟩ := List.getElem_of_mem hraw
        exact .inr ⟨i, hi, .inl ⟨rfl, hbad⟩⟩
      · obtain ⟨i, hi, hread⟩ := (mem_candidateAssignments candidate raws hentries a).mp ha
        exact .inr ⟨i, hi, .inr ⟨rfl, a, hread, hres⟩⟩
  · rename_i hraws
    have hentries : candidateEntries candidate = none := by
      unfold candidateEntries
      split
      · rename_i raws heq
        exact absurd heq (hraws raws)
      · rfl
    simp only [reports_append, href, reports_singleton, Malformed, hentries, candidateAssignments,
      List.not_mem_nil, false_and, exists_false, and_false, or_false, true_or, or_true, and_true]
    constructor
    · rintro (⟨hk, -⟩ | hk)
      · exact hk
      · exact hk.symm
    · intro hk
      exact .inr hk.symm

/-! ### Rules on counts and resources -/

theorem groups_length_eq (assignments : List Assignment) (id : String) :
    (groups assignments id).length = (assignmentsOf assignments id).length :=
  groups_length assignments id

theorem groups_eq_nil (assignments : List Assignment) (id : String) :
    groups assignments id = [] ↔ assignmentsOf assignments id = [] := by
  rw [← List.length_eq_zero_iff, groups_length_eq, List.length_eq_zero_iff]

theorem groups_eq_singleton (assignments : List Assignment) (id : String) (a : Assignment) :
    groups assignments id = [a] ↔ assignmentsOf assignments id = [a] := by
  rw [assignmentsOf, ← single_eq_some, single]
  constructor
  · intro h
    rw [h]
  · intro h
    split at h
    · rename_i b hb
      injection h with h
      rw [hb, h]
    · cases h

theorem mem_assignmentsOf (assignments : List Assignment) (id : String) (a : Assignment) :
    a ∈ assignmentsOf assignments id ↔ a ∈ assignments ∧ a.operationId = id := by
  simp [assignmentsOf]

/-- The only assignment of an operation is one of its own. -/
theorem of_assignmentsOf_eq {assignments : List Assignment} {id : String} {a : Assignment}
    (h : assignmentsOf assignments id = [a]) : a ∈ assignments ∧ a.operationId = id := by
  rw [← mem_assignmentsOf, h]
  exact List.mem_singleton_self a

theorem reports_evaluateC001 (problem : PlanningProblem) (assignments : List Assignment)
    (k : ConstraintId) :
    Reports (evaluateC001 problem assignments) k ↔
      .c001 = k ∧ BreaksRule problem assignments .c001 := by
  have hmissing : ∀ id, Reports (missingOrRepeated assignments id) k ↔
      .c001 = k ∧ (assignmentsOf assignments id).length ≠ 1 := by
    intro id
    unfold missingOrRepeated
    rw [reports_if, groups_length_eq]
  have hunknown : ∀ (ids : List String) (observed : String → Json),
      Reports (ids.map fun id => violation .c001 [id] (observed id)) k ↔
        .c001 = k ∧ ids ≠ [] := by
    intro ids observed
    simp only [Reports, List.mem_map]
    constructor
    · intro hall
      obtain ⟨_, ⟨id, hid, rfl⟩, hk⟩ := hall
      exact ⟨hk, List.ne_nil_of_mem hid⟩
    · intro hall
      obtain ⟨hk, hne⟩ := hall
      obtain ⟨id, hid⟩ := List.exists_mem_of_ne_nil ids hne
      exact ⟨_, ⟨id, hid, rfl⟩, hk⟩
  simp only [evaluateC001, reports_append, reports_flatMap, hmissing, hunknown, mem_sortByKey,
    List.mem_dedup, BreaksRule, activeIds, anchorIds]
  have hne : sortByKey id (((assignments.filter fun a => a.operationId ∉
      problem.operationInstances.map OperationInstance.operationId ++
        problem.historicalCompletionAnchors.map HistoricalCompletionAnchor.operationId).map
          Assignment.operationId).dedup) ≠ [] ↔
      ∃ a ∈ assignments,
        a.operationId ∉ problem.operationInstances.map OperationInstance.operationId ∧
          a.operationId ∉ problem.historicalCompletionAnchors.map
            HistoricalCompletionAnchor.operationId := by
    rw [← List.length_pos_iff_ne_nil, length_sortByKey, List.length_pos_iff_exists_mem]
    simp only [List.mem_dedup, List.mem_map, List.mem_filter, decide_eq_true_eq,
      List.mem_append, not_or]
    constructor
    · intro hall
      obtain ⟨_, a, ⟨ha, h⟩, rfl⟩ := hall
      exact ⟨a, ha, h⟩
    · intro hall
      obtain ⟨a, ha, h⟩ := hall
      exact ⟨_, a, ⟨ha, h⟩, rfl⟩
  rw [hne]
  constructor
  · rintro (⟨id, hid, hk, hlen⟩ | ⟨hk, h⟩)
    · exact ⟨hk, .inl ⟨id, hid, hlen⟩⟩
    · exact ⟨hk, .inr h⟩
  · intro hall
    obtain ⟨hk, ⟨id, hid, hlen⟩ | h⟩ := hall
    · exact .inl ⟨id, hid, hk, hlen⟩
    · exact .inr ⟨hk, h⟩

/-- C-003 reports an operation whose assignments do not name exactly one candidate. -/
theorem reports_evaluateC003 (problem : PlanningProblem) (assignments : List Assignment)
    (k : ConstraintId) :
    Reports (evaluateC003 problem assignments) k ↔
      .c003 = k ∧ ∃ operation ∈ problem.operationInstances,
        assignmentsOf assignments operation.operationId ≠ [] ∧
          ¬∃ a resource, assignmentsOf assignments operation.operationId = [a] ∧
            a.resourceId = some resource ∧ resource ∈ operation.optionResources := by
  have hone : ∀ operation : OperationInstance,
      Reports (resourceViolations assignments operation) k ↔
        .c003 = k ∧ assignmentsOf assignments operation.operationId ≠ [] ∧
          ¬∃ a resource, assignmentsOf assignments operation.operationId = [a] ∧
            a.resourceId = some resource ∧ resource ∈ operation.optionResources := by
    intro operation
    unfold resourceViolations
    rw [reports_if]
    refine and_congr_right fun _ => ?_
    rw [ne_eq, groups_eq_nil, groups_length_eq]
    refine and_congr_right fun hne => ?_
    cases hg : groups assignments operation.operationId with
    | nil => exact absurd ((groups_eq_nil _ _).mp hg) hne
    | cons a rest =>
      cases rest with
      | nil =>
        have ha := (groups_eq_singleton assignments operation.operationId a).mp hg
        simp only [ha, List.length_singleton, ne_eq, not_true_eq_false, false_or, List.map_cons,
          List.map_nil, List.head?_cons, Option.mem_def, Option.some.injEq, forall_eq',
          List.mem_map, not_exists, not_and, List.cons.injEq, and_true]
        constructor
        · rintro h b resource rfl hres hmem
          exact h resource hmem hres.symm
        · intro h resource hmem heq
          exact h a resource rfl heq.symm hmem
      | cons b rest =>
        have hlen := groups_length_eq assignments operation.operationId
        rw [hg] at hlen
        simp only [List.length_cons] at hlen
        constructor
        · rintro - ⟨c, resource, hc, -⟩
          rw [hc] at hlen
          simp at hlen
        · intro _
          left
          omega
  simp only [evaluateC003, reports_flatMap, hone]
  constructor
  · intro hall
    obtain ⟨operation, hmem, hk, h⟩ := hall
    exact ⟨hk, operation, hmem, h⟩
  · intro hall
    obtain ⟨hk, operation, hmem, h⟩ := hall
    exact ⟨operation, hmem, hk, h⟩

/-! ### Overlaps -/

/-- Two placements share a tick. -/
def Placed.Overlap (p q : Placed) : Prop := p.start < q.stop ∧ q.start < p.stop

theorem mem_takeWhile_of_sorted (bound : Int) (ps : List Placed) (q : Placed)
    (hsorted : ps.Pairwise fun p p' => p.start ≤ p'.start) (hq : q ∈ ps)
    (hlt : q.start < bound) : q ∈ ps.takeWhile fun p => p.start < bound := by
  induction ps with
  | nil => exact hq
  | cons p rest ih =>
    obtain ⟨hp, hrest⟩ := List.pairwise_cons.mp hsorted
    have hpb : p.start < bound := by
      rcases List.mem_cons.mp hq with rfl | hq
      · exact hlt
      · have := hp q hq
        omega
    rw [List.takeWhile_cons_of_pos (by simpa using hpb)]
    rcases List.mem_cons.mp hq with rfl | hq
    · exact List.mem_cons_self ..
    · exact List.mem_cons_of_mem _ (ih hrest hq)

/-- Stopping at the first later start misses no overlap when the starts ascend. -/
theorem reports_overlaps (resourceId : String) (ps : List Placed) (k : ConstraintId)
    (hsorted : ps.Pairwise fun p q => p.start ≤ q.start) :
    Reports (overlaps resourceId ps) k ↔
      .c004 = k ∧ ¬ps.Pairwise fun p q => ¬p.Overlap q := by
  induction ps with
  | nil => simp [overlaps]
  | cons first rest ih =>
    obtain ⟨hfirst, hrest⟩ := List.pairwise_cons.mp hsorted
    have hhead : Reports (((rest.takeWhile fun second => second.start < first.stop).filter
        fun second => first.start < second.stop).map (overlapViolation resourceId first)) k ↔
        .c004 = k ∧ ∃ q ∈ rest, first.Overlap q := by
      simp only [Reports, List.mem_map, List.mem_filter, decide_eq_true_eq]
      constructor
      · intro hall
        obtain ⟨_, ⟨q, ⟨hq, hstop⟩, rfl⟩, hk⟩ := hall
        have hmem := (List.takeWhile_sublist _).subset hq
        have hstart := List.mem_takeWhile_imp hq
        exact ⟨hk, q, hmem, hstop, by simpa using hstart⟩
      · intro hall
        obtain ⟨hk, q, hq, hstop, hstart⟩ := hall
        exact ⟨_, ⟨q, ⟨mem_takeWhile_of_sorted _ _ _ hrest hq hstart, hstop⟩, rfl⟩, hk⟩
    rw [overlaps, reports_append, hhead, ih hrest, List.pairwise_cons, not_and_or]
    simp only [not_forall, not_not, exists_prop]
    exact and_or_left.symm

theorem placedAt_iff {problem : PlanningProblem}
    (hcapacity : ∀ resource ∈ problem.resources, resource.capacity = 1) (resourceId : String)
    (a : Assignment) (p : Placed) :
    placedAt problem resourceId a = some p ↔
      p.assignment = a ∧ a.Usable p.start p.stop ∧ a.resourceId = some resourceId ∧
        resourceId ∈ problem.resources.map Resource.resourceId := by
  have hcap : (dictGet Resource.resourceId problem.resources resourceId).map Resource.capacity =
      some 1 ↔ resourceId ∈ problem.resources.map Resource.resourceId := by
    cases hget : dictGet Resource.resourceId problem.resources resourceId with
    | none => simpa using (dictGet_eq_none_iff _ _ _).mp hget
    | some r =>
      obtain ⟨hr, hid⟩ := mem_of_dictGet hget
      simp only [Option.map_some, hcapacity r hr, true_iff]
      exact List.mem_map.mpr ⟨r, hr, hid⟩
  unfold placedAt
  simp only [hcap]
  constructor
  · intro hp
    split at hp
    · rename_i start stop hinterval
      split at hp
      · rename_i hres
        rw [← Option.some.inj hp]
        exact ⟨rfl, (a.interval_eq_some start stop).mp hinterval, hres.1, hres.2⟩
      · cases hp
    · cases hp
  · rintro ⟨rfl, husable, hres, hmem⟩
    rw [(p.assignment.interval_eq_some p.start p.stop).mpr husable]
    simp only [hres, hmem, and_self, if_true]

theorem placed_starts_ascend (ps : List Placed) :
    (sortByKey
      (fun p : Placed => toLex (p.start, toLex (p.stop,
        toLex (p.assignment.operationId, p.assignment.index)))) ps).Pairwise
      fun p q => p.start ≤ q.start := by
  refine (sortByKey_pairwise _ _).imp ?_
  intro p q hpq
  rcases Prod.Lex.toLex_le_toLex.mp hpq with hlt | heq
  · exact le_of_lt hlt
  · exact le_of_eq heq.1

theorem reports_evaluateC004 (problem : PlanningProblem) (assignments : List Assignment)
    (horizonStart horizonEnd : Datetime) (h : ContractFacts problem horizonStart horizonEnd)
    (k : ConstraintId) :
    Reports (evaluateC004 problem assignments) k ↔
      .c004 = k ∧ BreaksRule problem assignments .c004 := by
  -- the placements of a resource overlap exactly when two of its assignments do
  have hplaced : ∀ resourceId,
      ((placedOn problem assignments resourceId).Pairwise fun p q => ¬p.Overlap q) ↔
        ∀ a b, [a, b].Sublist assignments → ∀ s e s' e',
          resourceId ∈ problem.resources.map Resource.resourceId →
          a.resourceId = some resourceId → b.resourceId = some resourceId →
          a.Usable s e → b.Usable s' e' → ¬(s < e' ∧ s' < e) := by
    intro resourceId
    unfold placedOn
    rw [List.pairwise_filterMap, List.pairwise_iff_forall_sublist]
    simp only [placedAt_iff h.capacity]
    constructor
    · intro hp a b hab s e s' e' hmem ha hb hua hub
      exact hp hab ⟨a, s, e⟩ ⟨rfl, hua, ha, hmem⟩ ⟨b, s', e'⟩ ⟨rfl, hub, hb, hmem⟩
    · rintro hp a b hab p ⟨-, hua, ha, hmem⟩ q ⟨-, hub, hb, -⟩
      exact hp a b hab _ _ _ _ hmem ha hb hua hub
  have hsymm : ∀ p q : Placed, ¬p.Overlap q → ¬q.Overlap p := by
    intro p q hpq hqp
    exact hpq ⟨hqp.2, hqp.1⟩
  simp only [evaluateC004, reports_flatMap, mem_sortByKey, List.mem_dedup, List.mem_filterMap,
    reports_overlaps _ _ _ (placed_starts_ascend _),
    List.Perm.pairwise_iff (fun {p q} => hsymm p q) (sortByKey_perm _ _), hplaced, BreaksRule,
    List.pairwise_iff_forall_sublist]
  constructor
  · intro hall
    obtain ⟨resourceId, -, hk, hnot⟩ := hall
    refine ⟨hk, fun hall => hnot ?_⟩
    intro a b hab s e s' e' hmem ha hb hua hub hlt
    exact hall hab ⟨resourceId, hmem, ha, hb, s, e, s', e', hua, hub, hlt⟩
  · intro hall
    obtain ⟨hk, hnot⟩ := hall
    by_contra hnone
    refine hnot ?_
    rintro a b hab ⟨resourceId, hmem, ha, hb, s, e, s', e', hua, hub, hlt⟩
    refine hnone ⟨resourceId, ⟨a, hab.subset (List.mem_cons_self ..), ha⟩, hk, fun hall => ?_⟩
    exact hall a b hab s e s' e' hmem ha hb hua hub hlt

end PlantNexus.Validation
