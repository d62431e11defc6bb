import PlantNexus.Backend.Model
import PlantNexus.Backend.PrecheckFacts
import PlantNexus.Plan.Feasible

/-! Valuations of the core model as plans.

A valuation that takes one option for each operation selects a plan. A group of
constraints is described by `Posts`: it is built, and on a valuation that selects a plan
it holds exactly when the plan has a property. -/
namespace PlantNexus.Backend
open Data Time Domain Problem CpSat Validation Plan

/-! ### Rounding to ticks -/

theorem ceilSecondsToTicks_le_iff (seconds tick n : Int) (ht : 0 < tick) :
    ceilSecondsToTicks seconds tick ≤ n ↔ seconds ≤ n * tick := by
  unfold ceilSecondsToTicks
  have : -n ≤ -seconds / tick ↔ -n * tick ≤ -seconds := Int.le_ediv_iff_mul_le ht
  rw [Int.neg_mul] at this
  omega

theorem le_floorSecondsToTicks_iff (seconds tick n : Int) (ht : 0 < tick) :
    n ≤ floorSecondsToTicks seconds tick ↔ n * tick ≤ seconds :=
  Int.le_ediv_iff_mul_le ht

/-- The two ways the source rounds up agree. -/
theorem ceilSecondsToTicks_eq (seconds tick : Int) (ht : 0 < tick) :
    ceilSecondsToTicks seconds tick = durationTicks seconds tick := by
  apply le_antisymm
  · rw [ceilSecondsToTicks_le_iff _ _ _ ht, ← durationTicks_le_iff _ _ _ ht]
  · rw [durationTicks_le_iff _ _ _ ht, ← ceilSecondsToTicks_le_iff _ _ _ ht]

section
variable {problem : PlanningProblem} {horizonStart horizonEnd : Datetime} {horizonTicks : Int}
  (h : PrecheckFacts problem horizonStart horizonEnd horizonTicks)
include h

theorem tickMicros_start (tick : Int) :
    tickMicros problem tick =
      horizonStart.micros + tick * problem.tickSeconds * microsPerSecond := by
  rw [tickMicros, instantMicros_eq _ _ h.contract.start_eq]

/-- A whole-second instant in seconds from the horizon's start. -/
theorem relativeSeconds_ok (text : String) (hwhole : WholeSecond text) :
    ∃ n, relativeSeconds text problem.horizonStartUtc = .ok n ∧
      instantMicros text = horizonStart.micros + n * microsPerSecond := by
  obtain ⟨d, hd, hdvd⟩ := hwhole
  obtain ⟨n, hn⟩ := Int.dvd_sub hdvd h.start_whole
  have hmod : (microsPerSecond * n) % 1000000 = 0 := by
    rw [microsPerSecond]
    omega
  have hdiv : (microsPerSecond * n) / 1000000 = n := by
    rw [microsPerSecond]
    omega
  refine ⟨n, ?_, ?_⟩
  · simp [relativeSeconds, instantAt, hd, h.contract.start_eq, Datetime.sub, hn, hmod, hdiv, bind,
      Except.bind, pure, Except.pure]
  · rw [instantMicros_eq _ _ hd, Int.mul_comm]
    omega

/-- Against a tick, an instant compares as its seconds do. -/
theorem le_tickMicros_iff (text : String) (n tick : Int)
    (hn : instantMicros text = horizonStart.micros + n * microsPerSecond) :
    instantMicros text ≤ tickMicros problem tick ↔ n ≤ tick * problem.tickSeconds := by
  have hpos : (0 : Int) < microsPerSecond := by decide
  rw [hn, tickMicros_start h, Int.add_le_add_iff_left]
  exact ⟨fun hle => le_of_mul_le_mul_right hle hpos, fun hle => mul_le_mul_of_nonneg_right hle hpos.le⟩

theorem tickMicros_le_iff (text : String) (n tick : Int)
    (hn : instantMicros text = horizonStart.micros + n * microsPerSecond) :
    tickMicros problem tick ≤ instantMicros text ↔ tick * problem.tickSeconds ≤ n := by
  have hpos : (0 : Int) < microsPerSecond := by decide
  rw [hn, tickMicros_start h, Int.add_le_add_iff_left]
  exact ⟨fun hle => le_of_mul_le_mul_right hle hpos, fun hle => mul_le_mul_of_nonneg_right hle hpos.le⟩

/-- A tick is inside the horizon when it is one of the model's ticks. -/
theorem inside_iff (start stop : Int) :
    (instantMicros problem.horizonStartUtc ≤ tickMicros problem start ∧
      tickMicros problem stop ≤ instantMicros problem.horizonEndUtc) ↔
      0 ≤ start ∧ stop ≤ horizonTicks := by
  have ht := h.contract.tick_pos
  obtain ⟨n, hn⟩ := Int.dvd_sub h.end_whole h.start_whole
  have hend : instantMicros problem.horizonEndUtc = horizonStart.micros + n * microsPerSecond := by
    rw [instantMicros_eq _ _ h.contract.end_eq, Int.mul_comm]
    omega
  have hstart : instantMicros problem.horizonStartUtc =
      horizonStart.micros + 0 * microsPerSecond := by
    rw [instantMicros_eq _ _ h.contract.start_eq]
    omega
  rw [le_tickMicros_iff h _ 0 start hstart, tickMicros_le_iff h _ n stop hend, h.ticks_eq, hn,
    Int.mul_ediv_cancel_left _ (by decide : microsPerSecond ≠ 0), Int.le_ediv_iff_mul_le ht]
  refine and_congr_left' ⟨fun hle => ?_, fun hle => mul_nonneg hle ht.le⟩
  by_contra hneg
  have := mul_neg_of_neg_of_pos (not_le.mp hneg) ht
  omega

end

/-! ### Selected plans -/

/-- The valuation places the operation as the placement says. -/
structure Selected (tick : Int) (ν : Valuation) (operation : CoreOperation) (p : Placement) :
    Prop where
  operation_id : operation.operationId = p.operationId
  resources : operation.options.map CoreOption.resourceId = p.operation.optionResources
  start : ν.int operation.start = p.start
  stop : ν.int operation.stop = p.stop
  present : ∀ option ∈ operation.options,
    ν.bool option.presence = true ↔ option.resourceId = p.resourceId
  option : ∃ option ∈ operation.options, option.resourceId = p.resourceId
  seconds : ∀ option ∈ operation.options, option.resourceId = p.resourceId →
    TakesSeconds p.operation p.option option.durationSeconds ∧
      option.durationTicks = durationTicks option.durationSeconds tick

/-- The valuation selects the plan. -/
structure Selects (problem : PlanningProblem) (ν : Valuation) (plan : List Placement) : Prop where
  operations : plan.map Placement.operation = problem.operationInstances
  options : ∀ p ∈ plan, p.option ∈ p.operation.resourceOptions
  selected : List.Forall₂ (Selected problem.tickSeconds ν) (coreOperations problem) plan

theorem Selects.covers {problem : PlanningProblem} {ν : Valuation} {plan : List Placement}
    (h : Selects problem ν plan) : Covers problem plan :=
  ⟨by rw [h.operations], h.options⟩

theorem coreOperations_ids (problem : PlanningProblem) :
    (coreOperations problem).map CoreOperation.operationId = activeIds problem := by
  apply List.ext_getElem
  · simp [coreOperations, activeIds]
  · intro i _ _
    simp [coreOperations, activeIds, coreOperation]

theorem coreOperation_resources (tick : Int) (index : Nat) (operation : OperationInstance) :
    (coreOperation tick index operation).options.map CoreOption.resourceId =
      operation.optionResources := by
  apply List.ext_getElem
  · simp [coreOperation, OperationInstance.optionResources]
  · intro i _ _
    simp [coreOperation, coreOption, OperationInstance.optionResources]

section
variable {problem : PlanningProblem} {horizonStart horizonEnd : Datetime}
  (h : ContractFacts problem horizonStart horizonEnd)
include h

theorem operationById_eq_ok (id : String) (operation : CoreOperation) :
    operationById (coreOperations problem) id = .ok operation ↔
      operation ∈ coreOperations problem ∧ operation.operationId = id := by
  have hnodup : ((coreOperations problem).map CoreOperation.operationId).Nodup := by
    rw [coreOperations_ids]
    exact h.operations_nodup
  rw [← dictGet_eq_some_iff _ _ _ _ hnodup]
  unfold operationById
  split <;> simp_all

/-- An active operation has variables, one option for each of its own. -/
theorem operationById_ok (fact : OperationInstance) (hm : fact ∈ problem.operationInstances) :
    ∃ operation ∈ coreOperations problem, operation.operationId = fact.operationId ∧
      operation.options.map CoreOption.resourceId = fact.optionResources ∧
      operationById (coreOperations problem) fact.operationId = .ok operation := by
  obtain ⟨i, hi, rfl⟩ := List.getElem_of_mem hm
  have hop : coreOperation problem.tickSeconds i problem.operationInstances[i] ∈
      coreOperations problem := List.mem_mapIdx.mpr ⟨i, hi, rfl⟩
  exact ⟨_, hop, rfl, coreOperation_resources _ _ _,
    (operationById_eq_ok h _ _).mpr ⟨hop, rfl⟩⟩

/-- The variables of an operation belong to its placement. -/
theorem Selects.of_mem {ν : Valuation} {plan : List Placement} (hsel : Selects problem ν plan)
    {operation : CoreOperation} (hm : operation ∈ coreOperations problem) {p : Placement}
    (hp : p ∈ plan) (hid : operation.operationId = p.operationId) :
    Selected problem.tickSeconds ν operation p := by
  obtain ⟨operation', hm', hselected⟩ := forall₂_exists_left hsel.selected hp
  have hnodup : ((coreOperations problem).map CoreOperation.operationId).Nodup := by
    rw [coreOperations_ids]
    exact h.operations_nodup
  have : operation = operation' :=
    List.inj_on_of_nodup_map hnodup hm hm' (hid.trans hselected.operation_id.symm)
  exact this ▸ hselected

theorem Selects.exists_placement {ν : Valuation} {plan : List Placement}
    (hsel : Selects problem ν plan) {operation : CoreOperation}
    (hm : operation ∈ coreOperations problem) :
    ∃ p ∈ plan, Selected problem.tickSeconds ν operation p := by
  have hid : operation.operationId ∈ activeIds problem := by
    rw [← coreOperations_ids]
    exact List.mem_map_of_mem hm
  obtain ⟨p, hp, heq⟩ := List.mem_map.mp (hsel.covers.ids_perm.mem_iff.mpr hid)
  exact ⟨p, hp, hsel.of_mem h hm hp heq.symm⟩

/-- Only one placement is of an operation. -/
theorem Selects.unique {ν : Valuation} {plan : List Placement} (hsel : Selects problem ν plan)
    {p q : Placement} (hp : p ∈ plan) (hq : q ∈ plan) (hid : p.operationId = q.operationId) :
    p = q :=
  List.inj_on_of_nodup_map (hsel.covers.ids_nodup h.operations_nodup) hp hq hid

end

/-! ### Groups of constraints -/

section
variable (problem : PlanningProblem)

/-- The constraints are built, and say `P` of a selected plan. -/
def Posts (result : Except BackendError (List Constraint))
    (P : Valuation → List Placement → Prop) : Prop :=
  ∃ constraints, result = .ok constraints ∧ ∀ ν plan, Selects problem ν plan →
    ((∀ c ∈ constraints, c.Holds ν) ↔ P ν plan)

variable {problem}

theorem Posts.congr {result : Except BackendError (List Constraint)}
    {P Q : Valuation → List Placement → Prop} (h : Posts problem result P)
    (hPQ : ∀ ν plan, Selects problem ν plan → (P ν plan ↔ Q ν plan)) :
    Posts problem result Q := by
  obtain ⟨constraints, hok, hiff⟩ := h
  exact ⟨constraints, hok, fun ν plan hsel => (hiff ν plan hsel).trans (hPQ ν plan hsel)⟩

theorem posts_nil : Posts problem (.ok []) fun _ _ => True :=
  ⟨[], rfl, by simp⟩

/-- A loop posts what each of its rounds posts. -/
theorem posts_collect {α : Type} (f : α → Except BackendError (List Constraint)) (xs : List α)
    (P : α → Valuation → List Placement → Prop) (h : ∀ x ∈ xs, Posts problem (f x) (P x)) :
    Posts problem (do let cs ← collect f xs; return cs.flatten) fun ν plan =>
      ∀ x ∈ xs, P x ν plan := by
  suffices ∃ css, collect f xs = .ok css ∧ ∀ ν plan, Selects problem ν plan →
      ((∀ c ∈ css.flatten, c.Holds ν) ↔ ∀ x ∈ xs, P x ν plan) by
    obtain ⟨css, hcss, hiff⟩ := this
    exact ⟨css.flatten, bind_eq_ok.mpr ⟨css, hcss, rfl⟩, hiff⟩
  induction xs with
  | nil => exact ⟨[], rfl, by simp⟩
  | cons x xs ih =>
    obtain ⟨cs, hcs, hhead⟩ := h x (List.mem_cons_self ..)
    obtain ⟨css, hcss, htail⟩ := ih fun y hy => h y (List.mem_cons_of_mem _ hy)
    refine ⟨cs :: css, ?_, ?_⟩
    · exact bind_eq_ok.mpr ⟨cs, hcs, bind_eq_ok.mpr ⟨css, hcss, rfl⟩⟩
    · intro ν plan hsel
      rw [List.flatten_cons, List.forall_mem_append, hhead ν plan hsel, htail ν plan hsel,
        List.forall_mem_cons]

/-- Two groups, one after the other. -/
theorem posts_append {first second : Except BackendError (List Constraint)}
    {P Q : Valuation → List Placement → Prop} (hP : Posts problem first P)
    (hQ : Posts problem second Q) :
    Posts problem (do let cs ← first; let ds ← second; return cs ++ ds) fun ν plan =>
      P ν plan ∧ Q ν plan := by
  obtain ⟨cs, hcs, hfirst⟩ := hP
  obtain ⟨ds, hds, hsecond⟩ := hQ
  refine ⟨cs ++ ds, bind_eq_ok.mpr ⟨cs, hcs, bind_eq_ok.mpr ⟨ds, hds, rfl⟩⟩, ?_⟩
  intro ν plan hsel
  rw [List.forall_mem_append, hfirst ν plan hsel, hsecond ν plan hsel]

end
end PlantNexus.Backend
