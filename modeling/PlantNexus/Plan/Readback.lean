import PlantNexus.Plan.Judged

/-! The plan that assignments say.

Assignments that break none of the rules on counts, resources, running operations, durations and
the horizon read back a plan that covers the problem (`exists_plan`). -/
namespace PlantNexus.Plan
open Data Time Domain Problem Validation

section
variable {problem : PlanningProblem} {horizonStart horizonEnd : Datetime}
  (h : ContractFacts problem horizonStart horizonEnd) {assignments : List Assignment}
  (hrules : ∀ k, k ≠ .c002 → k ≠ .c009 → ¬BreaksRule problem assignments k)
include h hrules

omit h in
theorem assigned_active {a : Assignment} (ha : a ∈ assignments) :
    a.operationId ∈ activeIds problem := by
  by_contra hactive
  by_cases hanchor : a.operationId ∈ anchorIds problem
  · exact hrules .c007 (by decide) (by decide) (.inl ⟨a, ha, hanchor⟩)
  · exact hrules .c001 (by decide) (by decide) (.inr ⟨a, ha, hactive, hanchor⟩)

omit h in
/-- An active operation has one assignment. -/
theorem assigned_once {id : String} (hid : id ∈ activeIds problem) :
    (assignmentsOf assignments id).length = 1 := by
  by_contra hcount
  exact hrules .c001 (by decide) (by decide) (.inl ⟨id, hid, hcount⟩)

/-- The assignments name each active operation once. -/
theorem assigned_ids : (assignments.map Assignment.operationId).Perm (activeIds problem) := by
  have hcount : ∀ id, (assignments.map Assignment.operationId).count id =
      (assignmentsOf assignments id).length := by
    intro id
    rw [List.count, List.countP_map, List.countP_eq_length_filter, assignmentsOf]
    congr 1
  have hnodup : (assignments.map Assignment.operationId).Nodup := by
    rw [List.nodup_iff_count_le_one]
    intro id
    by_cases hid : id ∈ activeIds problem
    · rw [hcount, assigned_once hrules hid]
    · have hnone : id ∉ assignments.map Assignment.operationId := by
        intro hmem
        obtain ⟨a, ha, rfl⟩ := List.mem_map.mp hmem
        exact hid (assigned_active hrules ha)
      rw [List.count_eq_zero_of_not_mem hnone]
      exact Nat.zero_le 1
  refine (List.perm_ext_iff_of_nodup hnodup h.operations_nodup).mpr fun id => ?_
  constructor
  · intro hmem
    obtain ⟨a, ha, rfl⟩ := List.mem_map.mp hmem
    exact assigned_active hrules ha
  · intro hid
    have hlength := assigned_once hrules hid
    obtain ⟨a, ha⟩ := List.length_pos_iff_exists_mem.mp (Nat.lt_of_lt_of_eq Nat.one_pos hlength.symm)
    obtain ⟨hmem, rfl⟩ := (mem_assignmentsOf assignments id a).mp ha
    exact List.mem_map_of_mem hmem

omit h in
theorem only_assigned {a : Assignment} (ha : a ∈ assignments) :
    assignmentsOf assignments a.operationId = [a] := by
  obtain ⟨b, hb⟩ := List.length_eq_one_iff.mp (assigned_once hrules (assigned_active hrules ha))
  have hmem : a ∈ assignmentsOf assignments a.operationId :=
    (mem_assignmentsOf assignments _ a).mpr ⟨ha, rfl⟩
  rw [hb, List.mem_singleton] at hmem
  rw [hb, hmem]

omit h in
/-- The ticks of the only assignment of an operation, with the instants it declares. -/
theorem assigned_ticks {operation : OperationInstance} (hm : operation ∈ problem.operationInstances)
    {a : Assignment} (ha : assignmentsOf assignments operation.operationId = [a]) :
    ∃ start stop, a.startTick = some start ∧ a.endTick = some stop ∧
      Restates problem a start stop := by
  obtain ⟨hmem, hid⟩ := of_assignmentsOf_eq ha
  cases hstatus : operation.status with
  | notStarted =>
    by_contra hnone
    refine hrules .c011 (by decide) (by decide) ⟨a, hmem, ⟨operation, hm, hid.symm, hstatus⟩, ?_⟩
    rintro ⟨start, stop, hstart, hstop, hrestates, -⟩
    exact hnone ⟨start, stop, hstart, hstop, hrestates⟩
  | running =>
    by_contra hnone
    refine hrules .c007 (by decide) (by decide) (.inr ⟨operation, hm, hstatus, ?_⟩)
    rintro ⟨b, hb, _, -, remaining, -, -, hstart, hstop, hrestates⟩
    obtain rfl := List.singleton_injective (hb.symm.trans ha)
    exact hnone ⟨_, _, hstart, hstop, hrestates⟩

omit hrules in
/-- What an operation takes on one of its options. -/
theorem exists_takesSeconds {operation : OperationInstance}
    (hm : operation ∈ problem.operationInstances) (option : ResourceOption) :
    ∃ seconds, TakesSeconds operation option seconds := by
  cases hstatus : operation.status with
  | notStarted => exact ⟨option.finalDurationSeconds, by rw [TakesSeconds, hstatus]⟩
  | running =>
    obtain ⟨_, _, remaining, hrunning⟩ := (h.operations operation hm).running hstatus
    refine ⟨remaining, ?_⟩
    rw [TakesSeconds, hstatus]
    exact hrunning.remaining_eq

/-- An assignment says a placement of its operation on one of its options. -/
theorem exists_placement {a : Assignment} (ha : a ∈ assignments) :
    ∃ p : Placement, (p.operation ∈ problem.operationInstances ∧
      p.option ∈ p.operation.resourceOptions) ∧ Reads problem p a := by
  obtain ⟨operation, hm, hid⟩ := List.mem_map.mp (assigned_active hrules ha)
  have honly := only_assigned hrules ha
  rw [← hid] at honly
  obtain ⟨start, stop, hstart, hstop, hrestates⟩ := assigned_ticks hrules hm honly
  have hresource : ∃ resource, a.resourceId = some resource ∧
      resource ∈ operation.optionResources := by
    by_contra hnone
    refine hrules .c003 (by decide) (by decide) (.inr ⟨operation, hm, ?_, ?_⟩)
    · rw [honly]
      exact List.cons_ne_nil _ _
    · rintro ⟨b, resource, hb, hres, hoption⟩
      obtain rfl := List.singleton_injective (hb.symm.trans honly)
      exact hnone ⟨resource, hres, hoption⟩
  obtain ⟨_, hres, hmem⟩ := hresource
  obtain ⟨option, hoption, rfl⟩ := List.mem_map.mp hmem
  obtain ⟨seconds, htakes⟩ := exists_takesSeconds h hm option
  have hduration : stop - start = durationTicks seconds problem.tickSeconds ∧
      a.durationTicks = some (stop - start) ∧ a.durationSeconds = some seconds := by
    by_contra hnot
    exact hrules .c010 (by decide) (by decide) ⟨operation, hm, a, option, start, stop, seconds,
      honly, hoption, hres, hstart, hstop, htakes, hnot⟩
  obtain ⟨hdiff, hticks, hseconds⟩ := hduration
  exact ⟨⟨operation, option, start, stop⟩, ⟨hm, hoption⟩,
    ⟨hid.symm, hres, hstart, hstop, hrestates, seconds, htakes, hseconds, hdiff ▸ hticks⟩⟩

/-- **Assignments that break no rule say a plan that covers the problem.** -/
theorem exists_plan : ∃ plan, Covers problem plan ∧
    List.Forall₂ (Reads problem) plan assignments := by
  have hplaced : ∃ plan : List Placement, List.Forall₂ (fun p a =>
      (p.operation ∈ problem.operationInstances ∧ p.option ∈ p.operation.resourceOptions) ∧
        Reads problem p a) plan assignments := by
    have hall : ∀ a ∈ assignments, _ := fun a ha => exists_placement h hrules ha
    clear h hrules
    induction assignments with
    | nil => exact ⟨[], .nil⟩
    | cons a rest ih =>
      obtain ⟨p, hp⟩ := hall a (List.mem_cons_self ..)
      obtain ⟨plan, hplan⟩ := ih fun b hb => hall b (List.mem_cons_of_mem a hb)
      exact ⟨p :: plan, .cons hp hplan⟩
  obtain ⟨plan, hplan⟩ := hplaced
  obtain ⟨hoperations, hreads⟩ := (List.forall₂_and_left _ _).mp hplan
  have hids : (plan.map Placement.operationId).Perm (activeIds problem) := by
    rw [← reads_ids hreads]
    exact assigned_ids h hrules
  have hnodup : (plan.map Placement.operation).Nodup := by
    refine List.Nodup.of_map OperationInstance.operationId ?_
    rw [List.map_map]
    exact hids.nodup_iff.mpr h.operations_nodup
  refine ⟨plan, ⟨?_, fun p hp => (hoperations p hp).2⟩, hreads⟩
  refine (List.perm_ext_iff_of_nodup hnodup (List.Nodup.of_map _ h.operations_nodup)).mpr
    fun operation => ?_
  constructor
  · intro hmem
    obtain ⟨p, hp, rfl⟩ := List.mem_map.mp hmem
    exact (hoperations p hp).1
  · intro hm
    obtain ⟨p, hp, hid⟩ := List.mem_map.mp (hids.mem_iff.mpr (List.mem_map_of_mem hm))
    have hsame := List.inj_on_of_nodup_map h.operations_nodup (hoperations p hp).1 hm hid
    exact hsame ▸ List.mem_map_of_mem hp

end

end PlantNexus.Plan
