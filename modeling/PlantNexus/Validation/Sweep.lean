import PlantNexus.Data.Pairs
import PlantNexus.Validation.Evaluators

/-! The overlap sweep.

On each resource the sweep of `_evaluate_c004` stops at the first later placement past the end of
the current one. It still reports every pair of positions whose assignments share a tick on one
resource, and each of them once (`evaluateC004_exact`): in the start order nothing after the
stop can reach back, and an assignment is dealt to one resource only. -/
namespace PlantNexus.Validation
open Data Domain Problem

/-- The assignments use one declared resource at a common tick. -/
def Collide (problem : PlanningProblem) (a b : Assignment) : Prop :=
  ∃ resourceId ∈ problem.resources.map Resource.resourceId,
    a.resourceId = some resourceId ∧ b.resourceId = some resourceId ∧
      ∃ start stop start' stop', a.Usable start stop ∧ b.Usable start' stop' ∧
        ∃ tick, start ≤ tick ∧ tick < stop ∧ start' ≤ tick ∧ tick < stop'

instance (p q : Placed) : Decidable (p.Overlap q) := inferInstanceAs (Decidable (_ ∧ _))

/-! ### One resource -/

theorem overlaps_eq (resourceId : String) {ps : List Placed}
    (hsorted : ps.Pairwise fun p q => p.start ≤ q.start) :
    overlaps resourceId ps = ((pairsOf ps).filter fun pair => pair.1.Overlap pair.2).map
      fun pair => overlapViolation resourceId pair.1 pair.2 := by
  induction ps with
  | nil => rfl
  | cons first rest ih =>
    obtain ⟨-, hrest⟩ := List.pairwise_cons.mp hsorted
    rw [overlaps, pairsOf, List.filter_append, List.map_append, ih hrest,
      takeWhile_eq_filter Placed.start first.stop hrest, List.filter_filter, List.filter_map,
      List.map_map]
    congr 2
    refine List.filter_congr fun second _ => ?_
    exact (Bool.decide_and _ _).symm

/-- Both assignments are placed on the resource, with a common tick. -/
def collideOn (problem : PlanningProblem) (resourceId : String) (pair : Assignment × Assignment) :
    Bool :=
  match placedAt problem resourceId pair.1, placedAt problem resourceId pair.2 with
  | some p, some q => p.Overlap q
  | _, _ => false

theorem placedAt_assignment {problem : PlanningProblem} {resourceId : String} {a : Assignment}
    {p : Placed} (h : placedAt problem resourceId a = some p) :
    p.assignment = a ∧ a.resourceId = some resourceId ∧ a.Usable p.start p.stop := by
  unfold placedAt at h
  split at h
  · rename_i start stop hinterval
    split at h
    · rename_i hres
      rw [← Option.some.inj h]
      exact ⟨rfl, hres.1, (a.interval_eq_some start stop).mp hinterval⟩
    · cases h
  · cases h

/-- The overlapping pairs of a resource are the colliding pairs of the assignments. -/
theorem pairsOf_placedOn (problem : PlanningProblem) (resourceId : String)
    (assignments : List Assignment) :
    ((pairsOf (placedOn problem assignments resourceId)).filter
        fun pair => pair.1.Overlap pair.2).map
      (fun pair => (pair.1.assignment, pair.2.assignment)) =
      (pairsOf assignments).filter (collideOn problem resourceId) := by
  unfold placedOn
  rw [pairsOf_filterMap]
  induction pairsOf assignments with
  | nil => rfl
  | cons pair rest ih =>
    obtain ⟨a, b⟩ := pair
    rw [List.filterMap_cons, List.filter_cons, ← ih]
    unfold collideOn
    dsimp only
    cases ha : placedAt problem resourceId a with
    | none => rfl
    | some p =>
      cases hb : placedAt problem resourceId b with
      | none => rfl
      | some q =>
        obtain ⟨rfl, -⟩ := placedAt_assignment ha
        obtain ⟨rfl, -⟩ := placedAt_assignment hb
        dsimp only [Option.bind_some, Option.map_some]
        rw [List.filter_cons]
        dsimp only
        split
        · rw [List.map_cons]
        · rfl

theorem collideOn_resource {problem : PlanningProblem} {resourceId : String}
    {pair : Assignment × Assignment} (h : collideOn problem resourceId pair = true) :
    pair.1.resourceId = some resourceId := by
  unfold collideOn at h
  split at h
  · rename_i p q ha hb
    exact (placedAt_assignment ha).2.1
  · cases h

/-! ### All resources -/

section
variable {problem : PlanningProblem}
  (hcapacity : ∀ resource ∈ problem.resources, resource.capacity = 1)
include hcapacity

theorem collideOn_iff (a b : Assignment) :
    (∃ resourceId, collideOn problem resourceId (a, b) = true) ↔ Collide problem a b := by
  constructor
  · rintro ⟨resourceId, h⟩
    unfold collideOn at h
    split at h
    · rename_i p q ha hb
      obtain ⟨-, hua, hra, hmem⟩ := (placedAt_iff hcapacity _ _ _).mp ha
      obtain ⟨-, hub, hrb, -⟩ := (placedAt_iff hcapacity _ _ _).mp hb
      have hover := decide_eq_true_eq.mp h
      have hlt := hua.2.2
      have hlt' := hub.2.2
      unfold Placed.Overlap at hover
      exact ⟨resourceId, hmem, hra, hrb, p.start, p.stop, q.start, q.stop, hua, hub,
        max p.start q.start, by omega⟩
    · cases h
  · rintro ⟨resourceId, hmem, hra, hrb, s, e, s', e', hua, hub, tick, hs, he, hs', he'⟩
    have ha := (placedAt_iff hcapacity resourceId a ⟨a, s, e⟩).mpr ⟨rfl, hua, hra, hmem⟩
    have hb := (placedAt_iff hcapacity resourceId b ⟨b, s', e'⟩).mpr ⟨rfl, hub, hrb, hmem⟩
    refine ⟨resourceId, ?_⟩
    simp only [collideOn, ha, hb]
    exact decide_eq_true ⟨by dsimp only; omega, by dsimp only; omega⟩

open Classical in
/-- **Each colliding pair of positions is reported once, and nothing else is.** The report of a
pair names its resource and its assignments, the earlier in the start order first. -/
theorem evaluateC004_exact (assignments : List Assignment) :
    ∃ found : List (String × Placed × Placed),
      evaluateC004 problem assignments =
        found.map (fun f => overlapViolation f.1 f.2.1 f.2.2) ∧
      (∀ f ∈ found, f.2.1.assignment.resourceId = some f.1 ∧
        f.2.2.assignment.resourceId = some f.1) ∧
      (found.map fun f => unordered (f.2.1.assignment, f.2.2.assignment)).Perm
        (((pairsOf assignments).filter fun pair => Collide problem pair.1 pair.2).map
          unordered) := by
  let order : Placed → Int ×ₗ Int ×ₗ String ×ₗ Nat := fun p =>
    toLex (p.start, toLex (p.stop, toLex (p.assignment.operationId, p.assignment.index)))
  let sorted : String → List Placed := fun resourceId =>
    sortByKey order (placedOn problem assignments resourceId)
  let keys := sortByKey id (assignments.filterMap Assignment.resourceId).dedup
  let pairs : String → List (Placed × Placed) := fun resourceId =>
    (pairsOf (sorted resourceId)).filter fun pair => pair.1.Overlap pair.2
  have hsorted : ∀ resourceId, (sorted resourceId).Pairwise fun p q => p.start ≤ q.start :=
    fun resourceId => placed_starts_ascend _
  refine ⟨keys.flatMap fun resourceId => (pairs resourceId).map fun pair =>
    (resourceId, pair.1, pair.2), ?_, ?_, ?_⟩
  · unfold evaluateC004
    rw [List.map_flatMap]
    refine List.flatMap_congr fun resourceId _ => ?_
    rw [overlaps_eq resourceId (hsorted resourceId), List.map_map]
    rfl
  · intro f hf
    obtain ⟨resourceId, -, hf⟩ := List.mem_flatMap.mp hf
    obtain ⟨pair, hpair, rfl⟩ := List.mem_map.mp hf
    obtain ⟨hfirst, hsecond⟩ := mem_pairsOf (List.mem_filter.mp hpair).1
    have hplaced : ∀ p ∈ sorted resourceId, p.assignment.resourceId = some resourceId := by
      intro p hp
      obtain ⟨a, -, ha⟩ := List.mem_filterMap.mp ((mem_sortByKey _ _ _).mp hp)
      obtain ⟨rfl, hres, -⟩ := placedAt_assignment ha
      exact hres
    exact ⟨hplaced _ hfirst, hplaced _ hsecond⟩
  · -- on each resource the sorted placements pair up as the assignments do
    have hgroup : ∀ resourceId, (((pairs resourceId).map fun pair =>
        unordered (pair.1.assignment, pair.2.assignment))).Perm
          (((pairsOf assignments).filter (collideOn problem resourceId)).map unordered) := by
      intro resourceId
      rw [← pairsOf_placedOn, List.map_map]
      have hperm := (pairsOf_perm (fun pair : Placed × Placed => decide (pair.1.Overlap pair.2))
        (fun p q => decide_eq_decide.mpr And.comm)
        (sortByKey_perm order (placedOn problem assignments resourceId))).map
          (Sym2.map Placed.assignment)
      rw [List.map_map, List.map_map] at hperm
      exact hperm
    have hkeys : keys.Nodup := (sortByKey_perm _ _).nodup_iff.mpr (List.nodup_dedup _)
    have hunique : ∀ pair ∈ pairsOf assignments, ∀ k ∈ keys, ∀ k' ∈ keys,
        collideOn problem k pair → collideOn problem k' pair → k = k' := by
      intro pair _ k _ k' _ hk hk'
      exact Option.some.inj ((collideOn_resource hk).symm.trans (collideOn_resource hk'))
    have hdealt := flatMap_filter_perm (collideOn problem) hkeys (pairsOf assignments) hunique
    have hany : ((pairsOf assignments).filter fun pair => keys.any fun k =>
        collideOn problem k pair) =
        (pairsOf assignments).filter fun pair => Collide problem pair.1 pair.2 := by
      refine List.filter_congr fun pair hpair => ?_
      rw [Bool.eq_iff_iff, List.any_eq_true, decide_eq_true_eq, ← collideOn_iff hcapacity]
      constructor
      · rintro ⟨k, -, hk⟩
        exact ⟨k, hk⟩
      · rintro ⟨k, hk⟩
        refine ⟨k, (mem_sortByKey _ _ _).mpr (List.mem_dedup.mpr ?_), hk⟩
        exact List.mem_filterMap.mpr ⟨pair.1, (mem_pairsOf hpair).1, collideOn_resource hk⟩
    rw [← hany]
    refine List.Perm.trans ?_ (hdealt.map unordered)
    rw [List.map_flatMap, List.map_flatMap]
    refine List.Perm.flatMap_left _ fun resourceId _ => ?_
    rw [List.map_map]
    exact hgroup resourceId

end

/-- An assignment of the plain resource from one tick to another. -/
def plainAssignment (index : Nat) (operationId : String) (start stop : Int) : Assignment where
  index
  operationId
  resourceId := some "R1"
  startTick := some start
  endTick := some stop
  durationTicks := none
  startAtUtc := none
  endAtUtc := none
  durationSeconds := none
  lockIds := []
  executionFactIds := []

open Classical in
/-- One operation given twice, within another. -/
theorem evaluateC004_exact_nested :
    (∀ resource ∈ plainProblem.resources, resource.capacity = 1) ∧
      ∃ found : List (String × Placed × Placed),
        evaluateC004 plainProblem [plainAssignment 0 "O1" 0 9, plainAssignment 1 "O2" 2 3,
            plainAssignment 2 "O2" 2 3] =
          found.map (fun f => overlapViolation f.1 f.2.1 f.2.2) ∧
        (found.map fun f => unordered (f.2.1.assignment, f.2.2.assignment)).Perm
          (((pairsOf [plainAssignment 0 "O1" 0 9, plainAssignment 1 "O2" 2 3,
            plainAssignment 2 "O2" 2 3]).filter fun pair =>
              Collide plainProblem pair.1 pair.2).map unordered) := by
  have hcapacity : ∀ resource ∈ plainProblem.resources, resource.capacity = 1 := by decide
  obtain ⟨found, hfound, -, hperm⟩ := evaluateC004_exact hcapacity
    [plainAssignment 0 "O1" 0 9, plainAssignment 1 "O2" 2 3, plainAssignment 2 "O2" 2 3]
  exact ⟨hcapacity, found, hfound, hperm⟩

end PlantNexus.Validation
