import PlantNexus.Problem.Reordering
import PlantNexus.Validation.Exactness
import PlantNexus.Validation.FromRules

/-! What the order of the collections can change in a validation report.

The evaluators read the problem's collections as sets and sort the assignments of one
operation or of one resource. Two assignments that a sort key does not tell apart stand in
the evidence in their order in the candidate; without such a pair the report is the same
for every order, except that an entry without an operation is named by its position. -/
namespace PlantNexus.Validation
open Data Time Domain Problem

/-! ### Candidates in another order -/

/-- The candidates list the same entries, in some order. -/
structure SameCandidate (candidate candidate' : Json) : Prop where
  problem : candidate'.get "problem" = candidate.get "problem"
  assignments : candidate'.get "assignments" = candidate.get "assignments" ∨
    ∃ raws raws', candidate.get "assignments" = .arr raws ∧
      candidate'.get "assignments" = .arr raws' ∧ raws.Perm raws'

/-- Every entry of the candidate names an operation. -/
def NamesOperations (candidate : Json) : Prop :=
  ∀ raws ∈ candidateEntries candidate, ∀ raw ∈ raws, (readEntry 0 raw).isSome

/-- The assignment without its position in the candidate. -/
def Assignment.unplaced (a : Assignment) : Assignment := { a with index := 0 }

/-- The two assignments differ in their positions only. -/
def SameEntry (a b : Assignment) : Prop := a.unplaced = b.unplaced

/-- The key by which the assignments of one operation are sorted. -/
def groupKey (a : Assignment) :
    String ×ₗ Int ×ₗ Int ×ₗ Int ×ₗ Int ×ₗ List String ×ₗ List String :=
  toLex (a.resourceId.getD "", toLex (a.startTick.getD (-1),
    toLex (a.endTick.getD (-1), toLex (a.durationTicks.getD (-1),
      toLex (a.durationSeconds.getD (-1), toLex (a.lockIds, a.executionFactIds))))))

section
variable (problem : PlanningProblem) (assignments : List Assignment)

/-- Assignments of one operation that a sort key does not tell apart show the same: those
that agree once a missing integer is read as `-1`, and those in one interval of one
resource. -/
structure DistinctDuplicates : Prop where
  grouped : ∀ a ∈ assignments, ∀ b ∈ assignments, a.operationId = b.operationId →
    a.operationId ∈ activeIds problem ++ anchorIds problem → groupKey a = groupKey b →
      a.observedTuple = b.observedTuple
  overlapping : ∀ a ∈ assignments, ∀ b ∈ assignments, a.operationId = b.operationId →
    ∀ resource ∈ problem.resources.map Resource.resourceId, a.resourceId = some resource →
      b.resourceId = some resource → ∀ start stop, a.Usable start stop → b.Usable start stop →
        a.observedTuple = b.observedTuple

end

/-! ### What a report shows -/

/-- A violation with its evidence as canonical text. -/
structure ShownViolation where
  constraintId : ConstraintId
  severity : String
  entityIds : List String
  observed : String
  expectedRule : String
  message : String
deriving DecidableEq

def Violation.shown (v : Violation) : ShownViolation where
  constraintId := v.constraintId
  severity := v.severity
  entityIds := v.entityIds
  observed := v.observedValue.dumps
  expectedRule := v.expectedRule
  message := v.message

/-- A report with the evidence of its violations as canonical text. -/
structure ShownReport where
  validationReportVersion : String
  problemHash : String
  status : String
  hardViolationCount : Nat
  violations : List ShownViolation
deriving DecidableEq

def Report.shown (r : Report) : ShownReport where
  validationReportVersion := r.validationReportVersion
  problemHash := r.problemHash
  status := r.status
  hardViolationCount := r.hardViolationCount
  violations := r.violations.map Violation.shown

/-- The violation names an entry of the candidate by its position. -/
def Violation.NamesPosition (v : Violation) : Prop :=
  v.observedValue.get "reason" = .str "assignment is not an object" ∨
    v.observedValue.get "reason" = .str "assignment has no canonical operation_id"

instance (v : Violation) : Decidable v.NamesPosition := by
  unfold Violation.NamesPosition
  infer_instance

/-- The violation without the position of the entry it names. -/
def Violation.positionless (v : Violation) : Violation :=
  if v.NamesPosition then { v with entityIds := ["candidate.assignments"] } else v

/-! ### Reading a candidate -/

theorem map_mapIdx_eq {α β γ : Type} {f : Nat → α → β} {h : β → γ} {g : α → γ} {xs : List α}
    (heq : ∀ i, ∀ x ∈ xs, h (f i x) = g x) : (xs.mapIdx f).map h = xs.map g := by
  refine List.ext_getElem (by simp) fun i hi _ => ?_
  rw [List.getElem_map, List.getElem_mapIdx, List.getElem_map]
  exact heq i _ (List.getElem_mem _)

theorem readEntry_unplaced (index : Nat) (raw : Json) :
    (readEntry index raw).map Assignment.unplaced = readEntry 0 raw := by
  unfold readEntry
  split
  · cases identifier (raw.get "operation_id") with
    | none => rfl
    | some operationId => rfl
  · rfl

theorem readEntries_unplaced (raws : List Json) :
    ((raws.mapIdx readEntry).filterMap id).map Assignment.unplaced =
      raws.filterMap (readEntry 0) := by
  have hentries : (raws.mapIdx readEntry).map (Option.map Assignment.unplaced) =
      raws.map (readEntry 0) := map_mapIdx_eq fun i raw _ => readEntry_unplaced i raw
  have hread := congrArg (List.filterMap id) hentries
  rw [List.filterMap_map, List.filterMap_map] at hread
  exact List.map_filterMap.trans hread

/-- Reordering the entries reorders the assignments. -/
theorem sameEntries_of_sameCandidate {candidate candidate' : Json}
    (h : SameCandidate candidate candidate') :
    PermUpTo SameEntry (candidateAssignments candidate) (candidateAssignments candidate') := by
  refine permUpTo_of_map ?_
  have hentries : (candidateEntries candidate' = candidateEntries candidate) ∨
      ∃ raws raws', candidateEntries candidate = some raws ∧
        candidateEntries candidate' = some raws' ∧ raws.Perm raws' := by
    unfold candidateEntries
    cases h.assignments with
    | inl heq => exact .inl (by rw [heq])
    | inr hall =>
      obtain ⟨raws, raws', hraws, hraws', hperm⟩ := hall
      exact .inr ⟨raws, raws', by rw [hraws], by rw [hraws'], hperm⟩
  cases hentries with
  | inl heq => rw [candidateAssignments, candidateAssignments, heq]
  | inr hall =>
    obtain ⟨raws, raws', hraws, hraws', hperm⟩ := hall
    simp only [candidateAssignments, hraws, hraws', readEntries_unplaced]
    exact hperm.filterMap _

/-- An entry's violations show its position only where it has no operation. -/
theorem materializeEntry_positionless (index : Nat) (raw : Json) :
    ((materializeEntry index raw).2.map Violation.positionless) =
      (materializeEntry 0 raw).2.map Violation.positionless := by
  unfold materializeEntry
  split
  · cases hid : identifier (raw.get "operation_id") with
    | none =>
      simp [Violation.positionless, Violation.NamesPosition, violation, Json.get]
    | some operationId => rfl
  · simp [Violation.positionless, Violation.NamesPosition, violation, Json.get]

theorem materializeEntry_named (index : Nat) (raw : Json) (h : (readEntry 0 raw).isSome) :
    (materializeEntry index raw).2 = (materializeEntry 0 raw).2 := by
  unfold readEntry at h
  unfold materializeEntry
  split
  · rename_i hobj
    rw [if_pos hobj] at h
    cases hid : identifier (raw.get "operation_id") with
    | none =>
      rw [hid] at h
      cases h
    | some operationId => rfl
  · rename_i hobj
    rw [if_neg hobj] at h
    cases h

/-- What reading the candidate reports is the same up to order, and up to the positions of
the entries without an operation. -/
theorem materialization_reorder {p q : PlanningProblem} (hproblem : SameUpToOrder p q)
    {candidate candidate' : Json} (h : SameCandidate candidate candidate') :
    ((materializeAssignments p candidate).2.map Violation.positionless).Perm
        ((materializeAssignments q candidate').2.map Violation.positionless) ∧
      (NamesOperations candidate → (materializeAssignments p candidate).2.Perm
        (materializeAssignments q candidate').2) := by
  have hreference : referenceViolations p candidate = referenceViolations q candidate' := by
    have hrest := hproblem.rest
    have hexpected : problemReference q = problemReference p := by
      rw [← hrest]
      rfl
    rw [referenceViolations, referenceViolations, referencesProblem, referencesProblem, h.problem,
      hexpected, hproblem.snapshotId]
  have hsame : candidate'.get "assignments" = candidate.get "assignments" →
      (materializeAssignments q candidate').2 = (materializeAssignments p candidate).2 := by
    intro heq
    unfold materializeAssignments
    rw [heq, hreference, hproblem.snapshotId]
  cases h.assignments with
  | inl heq =>
    rw [hsame heq]
    exact ⟨List.Perm.refl _, fun _ => List.Perm.refl _⟩
  | inr hall =>
    obtain ⟨raws, raws', hraws, hraws', hperm⟩ := hall
    have hmaterialized : (materializeAssignments p candidate).2 =
        referenceViolations p candidate ++ ((raws.mapIdx materializeEntry).map Prod.snd).flatten := by
      unfold materializeAssignments
      rw [hraws]
      exact congrArg _ (List.flatMap_def ..)
    have hmaterialized' : (materializeAssignments q candidate').2 =
        referenceViolations p candidate ++
          ((raws'.mapIdx materializeEntry).map Prod.snd).flatten := by
      unfold materializeAssignments
      rw [hraws', hreference]
      exact congrArg _ (List.flatMap_def ..)
    rw [hmaterialized, hmaterialized']
    constructor
    · have hentries : ∀ raws : List Json,
          (((raws.mapIdx materializeEntry).map Prod.snd).flatten).map Violation.positionless =
            (raws.map fun raw =>
              (materializeEntry 0 raw).2.map Violation.positionless).flatten := by
        intro raws
        rw [List.map_flatten, List.map_map]
        exact congrArg List.flatten
          (map_mapIdx_eq fun i raw _ => materializeEntry_positionless i raw)
      rw [List.map_append, List.map_append, hentries, hentries]
      exact ((hperm.map _).flatten).append_left _
    · intro hnamed
      have hall : ∀ raw ∈ raws, (readEntry 0 raw).isSome :=
        hnamed raws (by simp [candidateEntries, hraws])
      have hentries : ∀ entries : List Json, (∀ raw ∈ entries, (readEntry 0 raw).isSome) →
          (entries.mapIdx materializeEntry).map Prod.snd =
            entries.map fun raw => (materializeEntry 0 raw).2 := by
        intro entries hentries
        exact map_mapIdx_eq fun i raw hraw => materializeEntry_named i raw (hentries raw hraw)
      rw [hentries raws hall, hentries raws' fun raw hraw => hall raw (hperm.mem_iff.mpr hraw)]
      exact ((hperm.map _).flatten).append_left _

/-! ### The assignments of one operation -/

/-- What does not read the position is the same of both. -/
theorem SameEntry.read {a b : Assignment} (h : SameEntry a b) {β : Type} (f : Assignment → β)
    (hf : ∀ c, f c.unplaced = f c) : f a = f b := by
  rw [← hf a, ← hf b, h]

section Groups
variable {as bs : List Assignment} (hperm : PermUpTo SameEntry as bs)
include hperm

theorem unplaced_perm : (as.map Assignment.unplaced).Perm (bs.map Assignment.unplaced) :=
  hperm.map fun _ _ h => h

theorem assignmentsOf_unplaced_perm (id : String) :
    ((assignmentsOf as id).map Assignment.unplaced).Perm
      ((assignmentsOf bs id).map Assignment.unplaced) := by
  have hfilter : ∀ cs : List Assignment, (assignmentsOf cs id).map Assignment.unplaced =
      (cs.map Assignment.unplaced).filter fun a => a.operationId = id := by
    intro cs
    rw [assignmentsOf, List.filter_map]
    rfl
  rw [hfilter, hfilter]
  exact (unplaced_perm hperm).filter _

theorem groups_length_reorder (id : String) : (groups as id).length = (groups bs id).length := by
  have hlength := (assignmentsOf_unplaced_perm hperm id).length_eq
  rw [List.length_map, List.length_map] at hlength
  rw [groups_length_eq, groups_length_eq, hlength]

/-- What the assignments of one operation show in order, as long as assignments of one key
show the same. -/
theorem groups_map_reorder {β : Type} (f : Assignment → β) (hf : ∀ c, f c.unplaced = f c)
    (id : String)
    (hkey : ∀ a ∈ assignmentsOf as id, ∀ b ∈ assignmentsOf as id, groupKey a = groupKey b →
      f a = f b) :
    (groups as id).map f = (groups bs id).map f := by
  have hunplaced : ∀ cs : List Assignment, (groups cs id).map f =
      (sortByKey groupKey ((assignmentsOf cs id).map Assignment.unplaced)).map f := by
    intro cs
    rw [sortByKey_map, List.map_map]
    exact List.map_congr_left fun a _ => (hf a).symm
  rw [hunplaced as, hunplaced bs]
  refine sortByKey_map_eq_of_perm ?_ (assignmentsOf_unplaced_perm hperm id)
  intro x hx y hy heq
  obtain ⟨a, ha, rfl⟩ := List.mem_map.mp hx
  obtain ⟨b, hb, rfl⟩ := List.mem_map.mp hy
  rw [hf a, hf b]
  exact hkey a ha b hb heq

/-- An operation has one assignment in both orders or in neither. -/
theorem groups_cases (id : String) :
    (∃ a b, groups as id = [a] ∧ groups bs id = [b] ∧ SameEntry a b) ∨
      ((∀ a, groups as id ≠ [a]) ∧ ∀ b, groups bs id ≠ [b]) := by
  have hlength := groups_length_reorder hperm id
  by_cases hone : (groups as id).length = 1
  · obtain ⟨a, ha⟩ := List.length_eq_one_iff.mp hone
    obtain ⟨b, hb⟩ := List.length_eq_one_iff.mp (hlength ▸ hone)
    refine .inl ⟨a, b, ha, hb, ?_⟩
    have hof := assignmentsOf_unplaced_perm hperm id
    rw [(groups_eq_singleton as id a).mp ha, (groups_eq_singleton bs id b).mp hb] at hof
    exact List.singleton_perm_singleton.mp hof
  · refine .inr ⟨?_, ?_⟩
    · intro a ha
      exact hone (by rw [ha]; rfl)
    · intro b hb
      exact hone (by rw [hlength, hb]; rfl)

theorem single_cases (id : String) :
    (∃ a b, single as id = some a ∧ single bs id = some b ∧ SameEntry a b) ∨
      (single as id = none ∧ single bs id = none) := by
  unfold single
  cases groups_cases hperm id with
  | inl hall =>
    obtain ⟨a, b, ha, hb, hsame⟩ := hall
    exact .inl ⟨a, b, by rw [ha], by rw [hb], hsame⟩
  | inr hall =>
    refine .inr ⟨?_, ?_⟩
    · split
      · rename_i a ha
        exact absurd ha (hall.1 a)
      · rfl
    · split
      · rename_i b hb
        exact absurd hb (hall.2 b)
      · rfl

/-- Reading the only assignment of an operation. -/
theorem single_map_reorder {β : Type} (f : Assignment → β) (hf : ∀ c, f c.unplaced = f c)
    (id : String) : (single as id).map f = (single bs id).map f := by
  cases single_cases hperm id with
  | inl hall =>
    obtain ⟨a, b, ha, hb, hsame⟩ := hall
    rw [ha, hb, Option.map_some, Option.map_some, hsame.read f hf]
  | inr hall => rw [hall.1, hall.2]

end Groups

/-! ### The evaluators -/

section Evaluators
variable {p q : PlanningProblem} (h : SameUpToOrder p q) {as bs : List Assignment}
  (hperm : PermUpTo SameEntry as bs)
include h

theorem tickInstant_reorder (horizonStart : Datetime) (tick : Int) :
    tickInstant p horizonStart tick = tickInstant q horizonStart tick := by
  rw [tickInstant, tickInstant, h.tickSeconds]

theorem tickInstant?_reorder (horizonStart : Datetime) (tick : Option Int) :
    tickInstant? p horizonStart tick = tickInstant? q horizonStart tick := by
  cases tick with
  | none => rfl
  | some tick => simp only [tickInstant?, tickInstant_reorder h]

theorem workshopOf_reorder (hnodup : (p.resources.map Resource.resourceId).Nodup)
    (resourceId : String) : workshopOf p resourceId = workshopOf q resourceId :=
  h.resources.dictGet_map (fun _ _ hr => hr.resourceId) (fun _ _ hr => hr.workshopId) hnodup
    resourceId

theorem known_reorder (id : String) :
    id ∈ activeIds p ++ anchorIds p ↔ id ∈ activeIds q ++ anchorIds q := by
  rw [List.mem_append, List.mem_append, activeIds, activeIds, anchorIds, anchorIds,
    h.operationIds.mem_iff, h.anchorOperationIds.mem_iff]

include hperm

omit h in
/-- The evidence of an operation of the problem. -/
theorem observedTuples_reorder (hdistinct : DistinctDuplicates p as) (id : String)
    (hknown : id ∈ activeIds p ++ anchorIds p) :
    observedTuples (groups as id) = observedTuples (groups bs id) := by
  refine congrArg Json.arr (groups_map_reorder hperm Assignment.observedTuple (fun _ => rfl) id ?_)
  intro a ha b hb hkey
  obtain ⟨hmem, hid⟩ := (mem_assignmentsOf as id a).mp ha
  obtain ⟨hmem', hid'⟩ := (mem_assignmentsOf as id b).mp hb
  exact hdistinct.grouped a hmem b hmem' (by rw [hid, hid']) (by rw [hid]; exact hknown) hkey

omit h in
theorem groupResources_reorder (hdistinct : DistinctDuplicates p as) (id : String)
    (hknown : id ∈ activeIds p ++ anchorIds p) :
    (groups as id).map Assignment.resourceId = (groups bs id).map Assignment.resourceId := by
  have htuples := observedTuples_reorder hperm hdistinct id hknown
  have hitems := congrArg (List.map (Json.get "resource_id")) (Json.arr.inj htuples)
  rw [List.map_map, List.map_map] at hitems
  have hinjective : Function.Injective (Json.ofOption Json.str) := by
    intro x y hxy
    cases x with
    | none =>
      cases y with
      | none => rfl
      | some y => cases hxy
    | some x =>
      cases y with
      | none => cases hxy
      | some y => exact congrArg some (Json.str.inj hxy)
  refine List.map_injective_iff.mpr hinjective ?_
  rw [List.map_map, List.map_map]
  exact hitems

theorem evaluateC001_reorder (hdistinct : DistinctDuplicates p as) :
    evaluateC001 p as = evaluateC001 q bs := by
  have hoperations : (as.map Assignment.operationId).Perm (bs.map Assignment.operationId) :=
    hperm.map fun _ _ hab => hab.read Assignment.operationId fun _ => rfl
  have hunknown : ((as.filter fun a => a.operationId ∉ activeIds p ++ anchorIds p).map
        Assignment.operationId).Perm
      ((bs.filter fun a => a.operationId ∉ activeIds q ++ anchorIds q).map
        Assignment.operationId) := by
    have hfilter : ∀ (problem : PlanningProblem) (cs : List Assignment),
        (cs.filter fun a => a.operationId ∉ activeIds problem ++ anchorIds problem).map
            Assignment.operationId =
          (cs.map Assignment.operationId).filter
            fun id => id ∉ activeIds problem ++ anchorIds problem := by
      intro problem cs
      rw [List.filter_map]
      rfl
    rw [hfilter, hfilter]
    simp only [known_reorder h]
    exact hoperations.filter _
  have hmissing : (sortByKey id (activeIds p).dedup).flatMap (missingOrRepeated as) =
      (sortByKey id (activeIds q).dedup).flatMap (missingOrRepeated bs) := by
    have hactive : sortByKey id (activeIds p).dedup = sortByKey id (activeIds q).dedup :=
      sortByKey_ids_eq h.operationIds.dedup
    rw [← hactive]
    refine List.flatMap_congr fun id hid => ?_
    rw [mem_sortByKey, List.mem_dedup] at hid
    simp only [missingOrRepeated, groups_length_reorder hperm,
      observedTuples_reorder hperm hdistinct id (List.mem_append_left _ hid)]
  have hcount : (fun id : String => violation .c001 [id]
        (.obj
          [("operation_id", .str id),
           ("assignment_count", .int (((as.filter fun a =>
             a.operationId ∉ activeIds p ++ anchorIds p).map Assignment.operationId).count id)),
           ("reason", .str "operation is absent from the authoritative Problem")])) =
      fun id => violation .c001 [id]
        (.obj
          [("operation_id", .str id),
           ("assignment_count", .int (((bs.filter fun a =>
             a.operationId ∉ activeIds q ++ anchorIds q).map Assignment.operationId).count id)),
           ("reason", .str "operation is absent from the authoritative Problem")]) := by
    funext id
    rw [hunknown.count_eq]
  show (sortByKey id (activeIds p).dedup).flatMap (missingOrRepeated as) ++ _ =
    (sortByKey id (activeIds q).dedup).flatMap (missingOrRepeated bs) ++ _
  rw [hmissing]
  refine congrArg _ ?_
  show (sortByKey id _).map _ = (sortByKey id _).map _
  exact congrArg₂ List.map hcount (sortByKey_ids_eq hunknown.dedup)

theorem evaluateC003_reorder (hdistinct : DistinctDuplicates p as) :
    (evaluateC003 p as).Perm (evaluateC003 q bs) := by
  refine h.operationInstances.flatMap ?_
  intro o ho o' _ hsame
  have hknown : o.operationId ∈ activeIds p ++ anchorIds p :=
    List.mem_append_left _ (List.mem_map_of_mem ho)
  have hresources := groupResources_reorder hperm hdistinct o.operationId hknown
  have hlength := groups_length_reorder hperm o.operationId
  have hnil : groups as o.operationId ≠ [] ↔ groups bs o.operationId ≠ [] := by
    rw [← List.length_pos_iff, ← List.length_pos_iff, hlength]
  have hallowed : ∀ resource : Option String, resource ∉ o.optionResources.map some ↔
      resource ∉ o'.optionResources.map some :=
    fun resource => not_congr (hsame.optionResources.map some).mem_iff
  have hsorted : sortByKey id o.optionResources.dedup = sortByKey id o'.optionResources.dedup :=
    sortByKey_ids_eq hsame.optionResources.dedup
  unfold resourceViolations
  rw [← hsame.operationId]
  simp only [hresources, hlength, hnil, hallowed, hsorted]
  exact List.Perm.refl _

/-! ### Overlaps -/

omit h hperm in
/-- What an overlap shows of a placement, and what decides it. -/
def Placed.shown (placed : Placed) : Int × Int × String × Json :=
  (placed.start, placed.stop, placed.assignment.operationId, placed.assignment.observedTuple)

omit h hperm in
/-- Overlaps are read off what the placements show. -/
theorem overlaps_congr (resourceId : String) {ps qs : List Placed}
    (hshown : ps.map Placed.shown = qs.map Placed.shown) :
    overlaps resourceId ps = overlaps resourceId qs := by
  rw [← List.forall₂_eq_eq_eq, List.forall₂_map_left_iff, List.forall₂_map_right_iff] at hshown
  induction hshown with
  | nil => rfl
  | cons hfirst hrest ih =>
    rename_i first first' rest rest'
    simp only [Placed.shown, Prod.mk.injEq] at hfirst
    obtain ⟨hstart, hstop, hoperation, htuple⟩ := hfirst
    rw [overlaps, overlaps, ih]
    refine congrArg (· ++ _) ?_
    simp only [hstart, hstop]
    -- the placements against the first one, up to the first that starts after its end
    clear ih
    induction hrest with
    | nil => rfl
    | cons hsecond _ ih =>
      simp only [Placed.shown, Prod.mk.injEq] at hsecond
      obtain ⟨hstart', hstop', hoperation', htuple'⟩ := hsecond
      rw [List.takeWhile_cons, List.takeWhile_cons, hstart']
      split
      · rw [List.filter_cons, List.filter_cons, hstop']
        split
        · rw [List.map_cons, List.map_cons, ih, overlapViolation, overlapViolation, hoperation,
            hoperation', htuple, htuple']
        · exact ih
      · rfl

omit h hperm in
theorem placedAt_unplaced (resourceId : String) (a : Assignment) :
    (placedAt q resourceId a.unplaced).map Placed.shown =
      (placedAt q resourceId a).map Placed.shown := by
  have hinterval : a.unplaced.interval = a.interval := rfl
  have hresource : a.unplaced.resourceId = a.resourceId := rfl
  unfold placedAt
  rw [hinterval, hresource]
  split
  · split
    · rfl
    · rfl
  · rfl

theorem placedOn_reorder (hnodup : (p.resources.map Resource.resourceId).Nodup)
    (resourceId : String) :
    ((placedOn p as resourceId).map Placed.shown).Perm
      ((placedOn q bs resourceId).map Placed.shown) := by
  have hcapacity := h.resources.dictGet_map (fun _ _ hr => hr.resourceId)
    (fun _ _ hr => hr.capacity) hnodup resourceId
  have hplaced : placedOn p as resourceId = placedOn q as resourceId := by
    refine List.filterMap_congr fun a _ => ?_
    unfold placedAt
    rw [hcapacity]
  have hread : ∀ cs : List Assignment, (placedOn q cs resourceId).map Placed.shown =
      (cs.map Assignment.unplaced).filterMap
        fun a => (placedAt q resourceId a).map Placed.shown := by
    intro cs
    rw [placedOn, List.map_filterMap, List.filterMap_map]
    exact List.filterMap_congr fun a _ => (placedAt_unplaced resourceId a).symm
  rw [hplaced, hread, hread]
  exact (unplaced_perm hperm).filterMap _

omit h hperm in
theorem mem_placedOn_shown (assignments : List Assignment) (resourceId : String)
    (x : Int × Int × String × Json)
    (hx : x ∈ (placedOn p assignments resourceId).map Placed.shown) :
    resourceId ∈ p.resources.map Resource.resourceId ∧ ∃ a ∈ assignments,
      a.resourceId = some resourceId ∧ a.Usable x.1 x.2.1 ∧ x.2.2.1 = a.operationId ∧
        x.2.2.2 = a.observedTuple := by
  obtain ⟨placed, hplaced, rfl⟩ := List.mem_map.mp hx
  obtain ⟨a, ha, hat⟩ := List.mem_filterMap.mp hplaced
  unfold placedAt at hat
  split at hat
  · rename_i start stop hinterval
    split at hat
    · rename_i hcond
      injection hat with hat
      subst hat
      obtain ⟨resource, hresource, -⟩ := Option.map_eq_some_iff.mp hcond.2
      have hmem := List.mem_reverse.mp (List.mem_of_find?_eq_some hresource)
      have hid : resource.resourceId = resourceId := by simpa using List.find?_some hresource
      exact ⟨hid ▸ List.mem_map_of_mem hmem, a, ha, hcond.1,
        (a.interval_eq_some start stop).mp hinterval, rfl, rfl⟩
    · cases hat
  · cases hat

theorem evaluateC004_reorder (hnodup : (p.resources.map Resource.resourceId).Nodup)
    (hdistinct : DistinctDuplicates p as) : evaluateC004 p as = evaluateC004 q bs := by
  have hresources : (as.filterMap Assignment.resourceId).Perm
      (bs.filterMap Assignment.resourceId) := by
    have hread : ∀ cs : List Assignment, cs.filterMap Assignment.resourceId =
        (cs.map Assignment.unplaced).filterMap Assignment.resourceId := by
      intro cs
      rw [List.filterMap_map]
      rfl
    rw [hread as, hread bs]
    exact (unplaced_perm hperm).filterMap _
  unfold evaluateC004
  rw [← sortByKey_ids_eq hresources.dedup]
  refine List.flatMap_congr fun resourceId _ => overlaps_congr resourceId ?_
  -- both are sorted by start, end and operation, which decide what a placement shows
  have hsorted : ∀ placed : List Placed,
      ((sortByKey (fun x => toLex (x.start, toLex (x.stop,
          toLex (x.assignment.operationId, x.assignment.index)))) placed).map
        Placed.shown).Pairwise
        fun x y => toLex (x.1, toLex (x.2.1, x.2.2.1)) ≤ toLex (y.1, toLex (y.2.1, y.2.2.1)) := by
    intro placed
    rw [List.pairwise_map]
    refine (sortByKey_pairwise _ placed).imp fun {x y} hle => ?_
    simp only [Placed.shown, Prod.Lex.toLex_le_toLex] at hle ⊢
    rcases hle with hlt | ⟨hstart, hlt | ⟨hstop, hlt | ⟨hid, -⟩⟩⟩
    · exact .inl hlt
    · exact .inr ⟨hstart, .inl hlt⟩
    · exact .inr ⟨hstart, .inr ⟨hstop, le_of_lt hlt⟩⟩
    · exact .inr ⟨hstart, .inr ⟨hstop, le_of_eq hid⟩⟩
  refine List.Perm.eq_of_pairwise ?_ (hsorted _) (hsorted _)
    ((((sortByKey_perm _ _).map _).trans (placedOn_reorder h hperm hnodup resourceId)).trans
      ((sortByKey_perm _ _).map _).symm)
  intro x y hx hy hxy hyx
  have hkey := le_antisymm hxy hyx
  simp only [EmbeddingLike.apply_eq_iff_eq, Prod.mk.injEq] at hkey
  obtain ⟨hstart, hstop, hid⟩ := hkey
  have hx' := ((sortByKey_perm _ _).map _).mem_iff.mp hx
  have hy' := (placedOn_reorder h hperm hnodup resourceId).mem_iff.mpr
    (((sortByKey_perm _ _).map _).mem_iff.mp hy)
  obtain ⟨hresource, a, ha, hra, husable, hida, htuple⟩ := mem_placedOn_shown as resourceId x hx'
  obtain ⟨-, b, hb, hrb, husable', hidb, htuple'⟩ := mem_placedOn_shown as resourceId y hy'
  rw [hstart, hstop] at husable
  have hsame := hdistinct.overlapping a ha b hb (by rw [← hida, ← hidb, hid]) resourceId hresource
    hra hrb y.1 y.2.1 husable husable'
  exact Prod.ext hstart (Prod.ext hstop (Prod.ext hid (by rw [htuple, htuple', hsame])))

/-! ### Restored instants -/

variable {horizonStart horizonEnd : Datetime}

omit hperm in
theorem calendarViolations_reorder {a b : Assignment} (hsame : SameEntry a b)
    {out : List Violation} (hok : calendarViolations p horizonStart a = .ok out) :
    ∃ out', calendarViolations q horizonStart b = .ok out' ∧ out.Perm out' := by
  have hread : calendarViolations q horizonStart b = calendarViolations q horizonStart a :=
    (hsame.read (calendarViolations q horizonStart) fun _ => rfl).symm
  rw [hread]
  unfold calendarViolations at hok ⊢
  split at hok
  · simp only [bind_eq_ok, tickInstant_reorder h] at hok ⊢
    obtain ⟨start, hstart, stop, hstop, found, hfound, hout⟩ := hok
    injection hout with hout
    subst hout
    obtain ⟨found', hfound', hperm⟩ := collect_perm hfound h.resourceUnavailableIntervals
    exact ⟨found'.flatten, ⟨start, hstart, stop, hstop, found', hfound', rfl⟩, hperm.flatten⟩
  · exact ⟨out, hok, List.Perm.refl _⟩

omit h hperm in
/-- An evaluator that gathers the violations of each element of a collection. -/
theorem gathered_reorder {α : Type} {R : α → α → Prop} {xs ys : List α}
    (hxs : PermUpTo R xs ys) {f g : α → Except ValidatorError (List Violation)}
    (hf : ∀ x ∈ xs, ∀ y ∈ ys, R x y → ∀ out, f x = .ok out →
      ∃ out', g y = .ok out' ∧ out.Perm out') {out : List Violation}
    (hok : (do
      let found ← collect f xs
      return found.flatten) = .ok out) :
    ∃ out', (do
      let found ← collect g ys
      return found.flatten) = Except.ok out' ∧ out.Perm out' := by
  rw [bind_eq_ok] at hok
  obtain ⟨found, hfound, hout⟩ := hok
  injection hout with hout
  subst hout
  obtain ⟨found', hfound', hflat⟩ := hxs.collect_flatten hf hfound
  exact ⟨found'.flatten, bind_eq_ok.mpr ⟨found', hfound', rfl⟩, hflat⟩

omit h hperm in
theorem perm_of_eq {f g : Except ValidatorError (List Violation)} (heq : f = g)
    {out : List Violation} (hok : f = .ok out) : ∃ out', g = .ok out' ∧ out.Perm out' :=
  ⟨out, heq ▸ hok, List.Perm.refl _⟩

theorem evaluateC005_reorder {out : List Violation}
    (hok : evaluateC005 p horizonStart as = .ok out) :
    ∃ out', evaluateC005 q horizonStart bs = .ok out' ∧ out.Perm out' :=
  gathered_reorder hperm (fun _ _ _ _ hab _ hout => calendarViolations_reorder h hab hout) hok

theorem gateViolations_reorder {o o' : OperationInstance} (hsame : SameOperation o o') :
    gateViolations p horizonStart as o = gateViolations q horizonStart bs o' := by
  have hread : gateViolations q horizonStart bs o' = gateViolations q horizonStart bs o := by
    have hrest := hsame.rest
    rw [← hrest]
    rfl
  have hstart : (single as o.operationId).bind Assignment.startTick =
      (single bs o.operationId).bind Assignment.startTick := by
    cases single_cases hperm o.operationId with
    | inl hall =>
      obtain ⟨a, b, ha, hb, hab⟩ := hall
      rw [ha, hb]
      exact hab.read Assignment.startTick fun _ => rfl
    | inr hall => rw [hall.1, hall.2]
  rw [hread, gateViolations, gateViolations, hstart]
  simp only [tickInstant_reorder h]

theorem evaluateC006_reorder {out : List Violation}
    (hok : evaluateC006 p horizonStart as = .ok out) :
    ∃ out', evaluateC006 q horizonStart bs = .ok out' ∧ out.Perm out' :=
  gathered_reorder h.operationInstances
    (fun _ _ _ _ hoo _ hout => perm_of_eq (gateViolations_reorder h hperm hoo) hout) hok

theorem runningViolations_reorder (hdistinct : DistinctDuplicates p as)
    {o o' : OperationInstance} (ho : o ∈ p.operationInstances) (hsame : SameOperation o o') :
    runningViolations p horizonStart as o = runningViolations q horizonStart bs o' := by
  have hread : runningViolations q horizonStart bs o' =
      runningViolations q horizonStart bs o := by
    have hrest := hsame.rest
    rw [← hrest]
    rfl
  have htuples := observedTuples_reorder hperm hdistinct o.operationId
    (List.mem_append_left _ (List.mem_map_of_mem ho))
  rw [hread, runningViolations, runningViolations]
  cases o.status with
  | notStarted => rfl
  | running =>
    cases o.assignedResourceId with
    | none => rfl
    | some resource =>
      cases o.remainingSeconds with
      | none => rfl
      | some remaining =>
        simp only [h.tickSeconds, htuples, tickInstant?_reorder h]
        cases groups_cases hperm o.operationId with
        | inl hall =>
          obtain ⟨a, b, ha, hb, hab⟩ := hall
          have hstart : a.startTick = b.startTick := hab.read Assignment.startTick fun _ => rfl
          have hstop : a.endTick = b.endTick := hab.read Assignment.endTick fun _ => rfl
          have hmatches : ∀ resource endTick candidateStart candidateEnd,
              MatchesRunning a resource endTick candidateStart candidateEnd ↔
                MatchesRunning b resource endTick candidateStart candidateEnd := by
            intro resource endTick candidateStart candidateEnd
            exact iff_of_eq (hab.read
              (fun c => MatchesRunning c resource endTick candidateStart candidateEnd)
              fun _ => rfl)
          rw [ha, hb]
          simp only [hstart, hstop, hmatches]
        | inr hall =>
          split
          · rename_i a ha
            exact absurd ha (hall.1 a)
          · split
            · rename_i b hb
              exact absurd hb (hall.2 b)
            · rfl

theorem evaluateC007_reorder (hdistinct : DistinctDuplicates p as) {out : List Violation}
    (hok : evaluateC007 p horizonStart as = .ok out) :
    ∃ out', evaluateC007 q horizonStart bs = .ok out' ∧ out.Perm out' := by
  have hcompleted : (p.historicalCompletionAnchors.flatMap (completedViolations as)).Perm
      (q.historicalCompletionAnchors.flatMap (completedViolations bs)) := by
    refine (PermUpTo.of_perm h.historicalCompletionAnchors).flatMap ?_
    intro anchor hmem anchor' _ heq
    subst heq
    have hknown : anchor.operationId ∈ activeIds p ++ anchorIds p :=
      List.mem_append_right _ (List.mem_map_of_mem hmem)
    have hnil : groups as anchor.operationId ≠ [] ↔ groups bs anchor.operationId ≠ [] := by
      rw [← List.length_pos_iff, ← List.length_pos_iff, groups_length_reorder hperm]
    simp only [completedViolations, hnil, observedTuples_reorder hperm hdistinct _ hknown]
    exact List.Perm.refl _
  rw [evaluateC007, bind_eq_ok] at hok
  obtain ⟨found, hfound, hout⟩ := hok
  injection hout with hout
  subst hout
  obtain ⟨found', hfound', hflat⟩ := h.operationInstances.collect_flatten
    (fun o ho _ _ hoo _ hout =>
      perm_of_eq (runningViolations_reorder h hperm hdistinct ho hoo) hout) hfound
  exact ⟨_, bind_eq_ok.mpr ⟨found', hfound', rfl⟩, hcompleted.append hflat⟩

theorem restoredInterval_reorder (id : String) :
    restoredInterval p horizonStart (groups as id) =
      restoredInterval q horizonStart (groups bs id) := by
  cases groups_cases hperm id with
  | inl hall =>
    obtain ⟨a, b, ha, hb, hab⟩ := hall
    have hinterval : a.interval = b.interval := hab.read Assignment.interval fun _ => rfl
    rw [ha, hb]
    simp only [restoredInterval, hinterval, tickInstant_reorder h]
  | inr hall =>
    unfold restoredInterval
    split
    · rename_i a ha
      exact absurd ha (hall.1 a)
    · split
      · rename_i b hb
        exact absurd hb (hall.2 b)
      · rfl

theorem evaluateC008_reorder (hdistinct : DistinctDuplicates p as)
    (hknown : ∀ lock ∈ p.operationLocks, lock.operationId ∈ activeIds p ++ anchorIds p)
    {out : List Violation} (hok : evaluateC008 p horizonStart as = .ok out) :
    ∃ out', evaluateC008 q horizonStart bs = .ok out' ∧ out.Perm out' := by
  refine gathered_reorder (PermUpTo.of_perm h.operationLocks) ?_ hok
  intro lock hmem lock' _ heq out hout
  subst heq
  refine perm_of_eq ?_ hout
  unfold hardLockViolations
  simp only [restoredInterval_reorder h hperm,
    groupResources_reorder hperm hdistinct _ (hknown lock hmem),
    observedTuples_reorder hperm hdistinct _ (hknown lock hmem), groups_length_reorder hperm]

omit h hperm in
theorem find?_perm_of_nodup {options options' : List ResourceOption}
    (hoptions : options.Perm options') (hnodup : (options.map ResourceOption.resourceId).Nodup)
    (resourceId : String) :
    (options.find? fun o => o.resourceId = resourceId) =
      options'.find? fun o => o.resourceId = resourceId := by
  cases hfind : options.find? fun o => o.resourceId = resourceId with
  | none =>
    rw [List.find?_eq_none] at hfind
    exact (List.find?_eq_none.mpr fun o ho => hfind o (hoptions.mem_iff.mpr ho)).symm
  | some option =>
    have hmem := List.mem_of_find?_eq_some hfind
    have hid : option.resourceId = resourceId := by simpa using List.find?_some hfind
    cases hfind' : options'.find? fun o => o.resourceId = resourceId with
    | none =>
      have := List.find?_eq_none.mp hfind' option (hoptions.mem_iff.mp hmem)
      simp [hid] at this
    | some option' =>
      have hmem' := hoptions.mem_iff.mpr (List.mem_of_find?_eq_some hfind')
      have hid' : option'.resourceId = resourceId := by simpa using List.find?_some hfind'
      rw [List.inj_on_of_nodup_map hnodup hmem hmem' (by rw [hid, hid'])]

theorem durationViolations_reorder {o o' : OperationInstance} (hsame : SameOperation o o')
    (hnodup : o.optionResources.Nodup) :
    durationViolations p as o = durationViolations q bs o' := by
  have hoption := find?_perm_of_nodup hsame.resourceOptions hnodup
  have hseconds : ∀ option, expectedSeconds o' option = expectedSeconds o option := by
    intro option
    have hrest := hsame.rest
    rw [← hrest]
    rfl
  unfold durationViolations
  rw [← hsame.operationId]
  cases single_cases hperm o.operationId with
  | inl hall =>
    obtain ⟨a, b, ha, hb, hab⟩ := hall
    have hresource : a.resourceId = b.resourceId := hab.read Assignment.resourceId fun _ => rfl
    have hstart : a.startTick = b.startTick := hab.read Assignment.startTick fun _ => rfl
    have hstop : a.endTick = b.endTick := hab.read Assignment.endTick fun _ => rfl
    have hticks : a.durationTicks = b.durationTicks :=
      hab.read Assignment.durationTicks fun _ => rfl
    have htime : a.durationSeconds = b.durationSeconds :=
      hab.read Assignment.durationSeconds fun _ => rfl
    rw [ha, hb]
    simp only [hresource, hstart, hstop, hticks, htime, hoption, hseconds, h.tickSeconds,
      hsame.status]
  | inr hall => rw [hall.1, hall.2]

theorem evaluateC010_reorder
    (hnodup : ∀ o ∈ p.operationInstances, o.optionResources.Nodup) {out : List Violation}
    (hok : evaluateC010 p as = .ok out) :
    ∃ out', evaluateC010 q bs = .ok out' ∧ out.Perm out' :=
  gathered_reorder h.operationInstances
    (fun o ho _ _ hoo _ hout => perm_of_eq
      (durationViolations_reorder h hperm hoo (hnodup o ho)) hout) hok

theorem evaluateC011_reorder
    (hnodup : (p.operationInstances.map OperationInstance.operationId).Nodup)
    {out : List Violation} (hok : evaluateC011 p horizonStart horizonEnd as = .ok out) :
    ∃ out', evaluateC011 q horizonStart horizonEnd bs = .ok out' ∧ out.Perm out' := by
  refine gathered_reorder hperm ?_ hok
  intro a _ b _ hab out hout
  have hread : horizonViolations q horizonStart horizonEnd b =
      horizonViolations q horizonStart horizonEnd a :=
    (hab.read (horizonViolations q horizonStart horizonEnd) fun _ => rfl).symm
  refine perm_of_eq ?_ hout
  rw [hread, horizonViolations, horizonViolations,
    h.operationInstances.dictGet_map (fun _ _ ho => ho.operationId) (fun _ _ ho => ho.status) hnodup]
  simp only [tickInstant?_reorder h]

/-! ### Endpoints -/

omit h hperm in
/-- The place of an operation does not depend on the order of the assignments. -/
theorem occupies_reorder {p q : PlanningProblem} {as bs : List Assignment}
    (hanchors : p.historicalCompletionAnchors.Perm q.historicalCompletionAnchors)
    (hticks : ∀ tick, tickMicros p tick = tickMicros q tick)
    (hperm : PermUpTo SameEntry as bs) {id resource : String} {start stop : Int}
    (hplace : Occupies p as id resource start stop) :
    Occupies q bs id resource start stop := by
  cases hplace with
  | completed anchor hmem => exact .completed anchor (hanchors.mem_iff.mp hmem)
  | assigned a _ start stop honly hactive hresource husable =>
    cases groups_cases hperm a.operationId with
    | inl hall =>
      obtain ⟨a', b, ha, hb, hab⟩ := hall
      rw [groups_eq_singleton, honly] at ha
      injection ha with ha
      subst ha
      have hid : a.operationId = b.operationId := hab.read Assignment.operationId fun _ => rfl
      rw [hticks start, hticks stop, hid]
      refine .assigned b resource start stop ?_ ?_ ?_ ?_
      · rw [← hid, ← groups_eq_singleton]
        exact hb
      · rw [← hid, anchorIds, ← (hanchors.map _).mem_iff]
        exact hactive
      · rw [← hresource]
        exact (hab.read Assignment.resourceId fun _ => rfl).symm
      · exact cast (hab.read (fun c => c.Usable start stop) fun _ => rfl) husable
    | inr hall => exact absurd ((groups_eq_singleton as _ a).mpr honly) (hall.1 a)

theorem endpoint_reorder (hp : ContractFacts p horizonStart horizonEnd)
    (hq : ContractFacts q horizonStart horizonEnd) {endpoints endpoints' : List Endpoint}
    (hok : endpointMaps p horizonStart as = .ok endpoints)
    (hok' : endpointMaps q horizonStart bs = .ok endpoints') (id : String) :
    endpoint endpoints id = endpoint endpoints' id := by
  have hticks : ∀ tick, tickMicros p tick = tickMicros q tick := by
    intro tick
    rw [tickMicros, tickMicros, h.horizonStartUtc, h.tickSeconds]
  have hperm' : PermUpTo SameEntry bs as := permUpTo_of_map (unplaced_perm hperm).symm
  have hplaces : ∀ resource start stop,
      Occupies p as id resource start stop ↔ Occupies q bs id resource start stop := by
    intro resource start stop
    exact ⟨occupies_reorder h.historicalCompletionAnchors hticks hperm,
      occupies_reorder h.historicalCompletionAnchors.symm (fun tick => (hticks tick).symm) hperm'⟩
  have hname : ∀ (eps : List Endpoint) (ep : Endpoint), endpoint eps id = some ep →
      ep.operationId = id := by
    intro eps ep hep
    simpa using List.find?_some hep
  have hsame : ∀ ep, endpoint endpoints id = some ep ↔ endpoint endpoints' id = some ep := by
    intro ep
    have hfind := endpoint_iff hp as endpoints hok id ep.resourceId ep.startAt.micros ep.endAt.micros
    have hfind' :=
      endpoint_iff hq bs endpoints' hok' id ep.resourceId ep.startAt.micros ep.endAt.micros
    have hext : ∀ ep', ep'.operationId = ep.operationId → ep'.resourceId = ep.resourceId →
        ep'.startAt.micros = ep.startAt.micros → ep'.endAt.micros = ep.endAt.micros →
          ep' = ep := by
      intro ep' hid hresource hstart hstop
      have hstart' := Datetime.ext_micros hstart
      have hstop' := Datetime.ext_micros hstop
      cases ep
      cases ep'
      simp_all
    constructor
    · intro hep
      obtain ⟨ep', hep', hr, hs, he⟩ :=
        hfind'.mp ((hplaces _ _ _).mp (hfind.mpr ⟨ep, hep, rfl, rfl, rfl⟩))
      rw [← hext ep' (by rw [hname _ _ hep, hname _ _ hep']) hr hs he]
      exact hep'
    · intro hep
      obtain ⟨ep', hep', hr, hs, he⟩ :=
        hfind.mp ((hplaces _ _ _).mpr (hfind'.mpr ⟨ep, hep, rfl, rfl, rfl⟩))
      rw [← hext ep' (by rw [hname _ _ hep, hname _ _ hep']) hr hs he]
      exact hep'
  exact Option.ext hsame

omit hperm in
theorem lagRules_reorder (hnodup : (p.resources.map Resource.resourceId).Nodup)
    {endpoints endpoints' : List Endpoint}
    (hsame : ∀ id, endpoint endpoints id = endpoint endpoints' id) :
    (evaluateC002 p endpoints).Perm (evaluateC002 q endpoints') ∧
      (evaluateC009 p endpoints).Perm (evaluateC009 q endpoints') := by
  have hedges := PermUpTo.of_perm h.precedenceEdges
  have hcheck : ∀ edge check, onEdge endpoints edge check = onEdge endpoints' edge check := by
    intro edge check
    rw [onEdge, onEdge, hsame, hsame]
  have htransport : ∀ edge predecessor successor,
      transportViolations p edge predecessor successor =
        transportViolations q edge predecessor successor := by
    intro edge predecessor successor
    rw [transportViolations, transportViolations, workshopOf_reorder h hnodup,
      workshopOf_reorder h hnodup]
  constructor
  · refine hedges.flatMap ?_
    intro edge _ edge' _ heq
    rw [heq, hcheck]
  · refine hedges.flatMap ?_
    intro edge _ edge' _ heq
    rw [heq, hcheck]
    have hfun : transportViolations p edge' = transportViolations q edge' := by
      funext predecessor successor
      exact htransport edge' predecessor successor
    rw [hfun]

end Evaluators

/-! ### The whole report -/

theorem validatedProblem_reorder {p q : PlanningProblem} (h : SameUpToOrder p q)
    (hvalid : validatedProblem p = .ok ()) : validatedProblem q = .ok () := by
  unfold validatedProblem at hvalid ⊢
  split at hvalid
  · cases hvalid
  · rename_i hbuilt
    rw [require_eq_ok] at hvalid
    rw [validateBuiltProblemV2_reorder h hbuilt]
    simp only [require_eq_ok]
    have hcanonical := canonical_eq_of_same hbuilt h
    rw [← h.problemHash, hvalid, problemV2HashFor, problemV2HashFor, problemV2HashProjection,
      problemV2HashProjection, hcanonical]

/-- **Reordering the problem and the candidate reorders what the evaluators report**, up to
the positions of the entries without an operation. -/
theorem evaluate_reorder {p q : PlanningProblem} (h : SameUpToOrder p q)
    {horizonStart horizonEnd : Datetime} (hp : ContractFacts p horizonStart horizonEnd)
    (hq : ContractFacts q horizonStart horizonEnd) {candidate candidate' : Json}
    (hsame : SameCandidate candidate candidate')
    (hdistinct : DistinctDuplicates p (candidateAssignments candidate)) {vs : List Violation}
    (hok : evaluate p candidate = .ok vs) :
    ∃ vs', evaluate q candidate' = .ok vs' ∧
      (vs.map Violation.positionless).Perm (vs'.map Violation.positionless) ∧
      (NamesOperations candidate → vs.Perm vs') := by
  have hperm := sameEntries_of_sameCandidate hsame
  obtain ⟨hmaterialized, hnamed⟩ := materialization_reorder h hsame
  have hknown : ∀ lock ∈ p.operationLocks, lock.operationId ∈ activeIds p ++ anchorIds p := by
    intro lock hmem
    obtain ⟨operation, _, _, hlock⟩ := hp.locks lock hmem
    exact List.mem_append_left _ (hlock.operation_eq ▸ List.mem_map_of_mem hlock.mem)
  simp only [evaluate, instantAt, hp.start_eq, hp.end_eq, bind_eq_ok, Except.ok.injEq,
    exists_eq_left', materializeAssignments_fst] at hok
  obtain ⟨endpoints, hendpoints, calendar, hcalendar, gates, hgates, facts, hfacts, locks, hlocks,
    durations, hdurations, horizon, hhorizon, hvs⟩ := hok
  obtain ⟨calendar', hcalendar', hcalendars⟩ := evaluateC005_reorder h hperm hcalendar
  obtain ⟨gates', hgates', hgatesSame⟩ := evaluateC006_reorder h hperm hgates
  obtain ⟨facts', hfacts', hfactsSame⟩ := evaluateC007_reorder h hperm hdistinct hfacts
  obtain ⟨locks', hlocks', hlocksSame⟩ := evaluateC008_reorder h hperm hdistinct hknown hlocks
  obtain ⟨durations', hdurations', hdurationsSame⟩ := evaluateC010_reorder h hperm
    (fun o ho => (hp.operations o ho).options_nodup) hdurations
  obtain ⟨horizon', hhorizon', hhorizonSame⟩ :=
    evaluateC011_reorder h hperm hp.operations_nodup hhorizon
  obtain ⟨endpoints', hendpoints'⟩ := endpointMaps_isOk hq (candidateAssignments candidate')
    ((evaluateC005_isOk hq _).mp ⟨calendar', hcalendar'⟩)
  obtain ⟨hlag, htransport⟩ := lagRules_reorder h hp.resources_nodup
    (endpoint_reorder h hperm hp hq hendpoints hendpoints')
  have hrules := (List.Perm.of_eq (evaluateC001_reorder h hperm hdistinct)).append (hlag.append
    ((evaluateC003_reorder h hperm hdistinct).append
      ((List.Perm.of_eq (evaluateC004_reorder h hperm hp.resources_nodup hdistinct)).append
        (hcalendars.append (hgatesSame.append (hfactsSame.append (hlocksSame.append
          (htransport.append (hdurationsSame.append hhorizonSame)))))))))
  injection hvs with hvs
  simp only [List.append_assoc] at hvs
  subst hvs
  refine ⟨_, ?_, ?_, fun hnames => (hnamed hnames).append hrules⟩
  · simp only [evaluate, instantAt, hq.start_eq, hq.end_eq, bind_eq_ok, Except.ok.injEq,
      exists_eq_left', materializeAssignments_fst]
    refine ⟨endpoints', hendpoints', calendar', hcalendar', gates', hgates', facts', hfacts',
      locks', hlocks', durations', hdurations', horizon', hhorizon', ?_⟩
    simp only [List.append_assoc]
    rfl
  · simpa only [List.map_append] using hmaterialized.append (hrules.map Violation.positionless)

/-- Violations of one sort key show the same. -/
theorem shown_of_sortKey {v w : Violation} (hv : v.FromRule) (hw : w.FromRule)
    (h : violationSortKey v = violationSortKey w) : v.shown = w.shown := by
  simp only [violationSortKey, EmbeddingLike.apply_eq_iff_eq, Prod.mk.injEq] at h
  obtain ⟨htext, hids, hobserved⟩ := h
  have hid : v.constraintId = w.constraintId := by
    revert htext
    cases v.constraintId <;> cases w.constraintId <;> decide
  simp only [Violation.shown, hid, hids, hobserved, hv.severity, hw.severity, hv.expectedRule,
    hw.expectedRule, hv.message, hw.message]

/-- **The order of the problem's collections and of the candidate's assignments does not
change the report**, as long as the sort keys tell duplicate assignments apart, except for
the positions by which it names the entries without an operation. -/
theorem validator_order_independent (problem problem' : PlanningProblem)
    (candidate candidate' : Json) (report : Report)
    (hok : validateProblemSchedule problem candidate = .ok report)
    (hdistinct : DistinctDuplicates problem (candidateAssignments candidate))
    (hproblem : SameUpToOrder problem problem') (hcandidate : SameCandidate candidate candidate') :
    ∃ report', validateProblemSchedule problem' candidate' = .ok report' ∧
      report'.problemHash = report.problemHash ∧ report'.status = report.status ∧
      report'.hardViolationCount = report.hardViolationCount ∧
      (report'.violations.map Violation.positionless).Perm
        (report.violations.map Violation.positionless) ∧
      (NamesOperations candidate → report'.shown = report.shown) := by
  obtain ⟨hvalid, vs, hvs, hreport⟩ := (validateProblemSchedule_eq_ok _ _ _).mp hok
  have hvalid' := validatedProblem_reorder hproblem hvalid
  obtain ⟨horizonStart, horizonEnd, hp⟩ := validatedProblem_facts problem hvalid
  obtain ⟨horizonStart', horizonEnd', hq⟩ := validatedProblem_facts problem' hvalid'
  have hstart : horizonStart' = horizonStart := by
    have heq := hp.start_eq
    rw [hproblem.horizonStartUtc, hq.start_eq] at heq
    exact Except.ok.inj heq
  have hstop : horizonEnd' = horizonEnd := by
    have heq := hp.end_eq
    rw [hproblem.horizonEndUtc, hq.end_eq] at heq
    exact Except.ok.inj heq
  subst hstart
  subst hstop
  obtain ⟨vs', hvs', hpositionless, hnamed⟩ :=
    evaluate_reorder hproblem hp hq hcandidate hdistinct hvs
  have hlength : vs'.length = vs.length := by
    have hlength := hpositionless.length_eq
    rw [List.length_map, List.length_map] at hlength
    exact hlength.symm
  subst hreport
  refine ⟨_, (validateProblemSchedule_eq_ok problem' candidate' _).mpr ⟨hvalid', vs', hvs', rfl⟩,
    hproblem.problemHash.symm, ?_, ?_, ?_, ?_⟩
  · simp only [length_sortByKey, hlength]
  · simp only [length_sortByKey, hlength]
  · exact (((sortByKey_perm _ vs').map _).trans hpositionless.symm).trans
      ((sortByKey_perm _ vs).map _).symm
  · intro hnames
    have hshown : (sortByKey violationSortKey vs).map Violation.shown =
        (sortByKey violationSortKey vs').map Violation.shown :=
      sortByKey_map_eq_of_perm (fun v hv w hw hkey => shown_of_sortKey
        (gives_evaluate problem candidate vs hvs v hv)
        (gives_evaluate problem candidate vs hvs w hw) hkey) (hnamed hnames)
    simp only [Report.shown, length_sortByKey, hlength, hshown, hproblem.problemHash]

/-! ### Orders that show -/

/-- The only operation of the slack problem in its first minute, with a declared duration. -/
def minuteEntry (durationTicks : Int) : Json :=
  .obj
    [("operation_id", .str "O2"), ("resource_id", .str "R1"), ("start_tick", .int 0),
     ("end_tick", .int 1), ("duration_ticks", .int durationTicks), ("duration_seconds", .int 60),
     ("start_at_utc", .str "2026-01-01T00:00:00Z"), ("end_at_utc", .str "2026-01-01T00:01:00Z"),
     ("lock_ids", .arr []), ("execution_fact_ids", .arr [])]

def pairCandidate (first second : Json) : Json := .obj [("assignments", .arr [first, second])]

theorem sameCandidate_pair (first second : Json) :
    SameCandidate (pairCandidate first second) (pairCandidate second first) :=
  ⟨rfl, .inr ⟨[first, second], [second, first], rfl, rfl, List.Perm.swap ..⟩⟩

/-- Some violation, as it is shown, is as described. -/
def ShowsSome (candidate : Json) (describes : ShownViolation → Bool) : Option Bool :=
  (evaluate slackProblem candidate).toOption.map fun vs =>
    vs.any fun v => describes v.shown

/-- A description that fits one report only tells the reports apart. -/
theorem shown_ne_of_showsSome (candidate candidate' : Json) (describes : ShownViolation → Bool)
    (hvalid : validatedProblem slackProblem = .ok ())
    (h : ShowsSome candidate describes = some true)
    (h' : ShowsSome candidate' describes = some false) :
    ∃ report report', validateProblemSchedule slackProblem candidate = .ok report ∧
      validateProblemSchedule slackProblem candidate' = .ok report' ∧
      report.shown ≠ report'.shown := by
  unfold ShowsSome at h h'
  cases hvs : evaluate slackProblem candidate with
  | error e =>
    rw [hvs] at h
    cases h
  | ok vs =>
    cases hvs' : evaluate slackProblem candidate' with
    | error e =>
      rw [hvs'] at h'
      cases h'
    | ok vs' =>
      rw [hvs] at h
      rw [hvs'] at h'
      simp only [Except.toOption, Option.map_some, Option.some.injEq] at h h'
      refine ⟨_, _, (validateProblemSchedule_eq_ok _ _ _).mpr ⟨hvalid, vs, hvs, rfl⟩,
        (validateProblemSchedule_eq_ok _ _ _).mpr ⟨hvalid, vs', hvs', rfl⟩, ?_⟩
      intro hshown
      have hviolations := congrArg ShownReport.violations hshown
      obtain ⟨v, hv, hdescribed⟩ := List.any_eq_true.mp h
      have hmem : v.shown ∈ (sortByKey violationSortKey vs').map Violation.shown := by
        simp only [Report.shown] at hviolations
        rw [← hviolations]
        exact List.mem_map_of_mem ((mem_sortByKey _ _ _).mpr hv)
      obtain ⟨w, hw, heq⟩ := List.mem_map.mp hmem
      have hnone := List.any_eq_false.mp h' w ((mem_sortByKey _ _ _).mp hw)
      rw [heq, hdescribed] at hnone
      exact hnone rfl

/-- Swapping two entries changes the report: an entry without an operation is named by its
position, and two assignments of one operation in one interval of one resource stand in the
evidence of their overlap in the order of the candidate. -/
theorem swapped_entries_shown :
    validatedProblem slackProblem = .ok () ∧
      (∃ report report',
        validateProblemSchedule slackProblem (pairCandidate (.int 5) (minuteEntry 1)) =
            .ok report ∧
          validateProblemSchedule slackProblem (pairCandidate (minuteEntry 1) (.int 5)) =
            .ok report' ∧
          report.shown ≠ report'.shown) ∧
      ∃ report report',
        validateProblemSchedule slackProblem (pairCandidate (minuteEntry 1) (minuteEntry 2)) =
            .ok report ∧
          validateProblemSchedule slackProblem (pairCandidate (minuteEntry 2) (minuteEntry 1)) =
            .ok report' ∧
          report.shown ≠ report'.shown := by
  have hvalid := slackProblem_valid
  refine ⟨hvalid, ?_, ?_⟩
  · refine shown_ne_of_showsSome _ _
      (fun shown => shown.entityIds = ["candidate.assignments[0]"]) hvalid ?_ ?_
    · decide +kernel
    · decide +kernel
  · refine shown_ne_of_showsSome _ _
      (fun shown => shown.constraintId = .c004 ∧
        shown.observed = (overlapViolation "R1" ⟨slackAssignment, 0, 1⟩
          ⟨{ slackAssignment with durationTicks := some 2 }, 0, 1⟩).observedValue.dumps) hvalid ?_ ?_
    · decide +kernel
    · decide +kernel

theorem validator_order_independent_pair :
    ∃ report report',
      validateProblemSchedule slackProblem (pairCandidate (minuteEntry 1) (.int 5)) =
          .ok report ∧
        validateProblemSchedule slackProblem (pairCandidate (.int 5) (minuteEntry 1)) =
          .ok report' ∧
        report'.status = report.status ∧
        (report'.violations.map Violation.positionless).Perm
          (report.violations.map Violation.positionless) := by
  have hvalid := slackProblem_valid
  cases hvs : evaluate slackProblem (pairCandidate (minuteEntry 1) (.int 5)) with
  | error e =>
    have hok : (evaluate slackProblem (pairCandidate (minuteEntry 1) (.int 5))).isOk = true := by
      decide +kernel
    rw [hvs] at hok
    cases hok
  | ok vs =>
    have hok := (validateProblemSchedule_eq_ok slackProblem
      (pairCandidate (minuteEntry 1) (.int 5)) _).mpr ⟨hvalid, vs, hvs, rfl⟩
    have hassignments : candidateAssignments (pairCandidate (minuteEntry 1) (.int 5)) =
        [slackAssignment] := by decide +kernel
    obtain ⟨report', hok', -, hstatus, -, hperm, -⟩ := validator_order_independent slackProblem
      slackProblem _ _ _ hok
      (by
        rw [hassignments]
        constructor
        · intro a ha b hb _ _ _
          rw [List.mem_singleton.mp ha, List.mem_singleton.mp hb]
        · intro a ha b hb _ _ _ _ _ _ _ _ _
          rw [List.mem_singleton.mp ha, List.mem_singleton.mp hb])
      (SameUpToOrder.refl slackProblem) (sameCandidate_pair (minuteEntry 1) (.int 5))
    exact ⟨_, report', hok, hok', hstatus, hperm⟩

end PlantNexus.Validation
