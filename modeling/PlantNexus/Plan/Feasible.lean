import PlantNexus.Validation.Catalog

/-! Plans and what makes one feasible.

A plan places every active operation on one of its options, from a start tick to an end
tick. Feasibility is stated over exact instants, apart from both the constraint model and
the validator; each of the two is shown to decide it. -/
namespace PlantNexus.Plan
open Data Time Domain Problem Validation

/-- An operation on one of its options. -/
structure Placement where
  operation : OperationInstance
  option : ResourceOption
  start : Int
  stop : Int

namespace Placement

def operationId (p : Placement) : String := p.operation.operationId

def resourceId (p : Placement) : String := p.option.resourceId

end Placement

section
variable (problem : PlanningProblem)

/-- Every active operation is placed once, on an option of its own. -/
structure Covers (plan : List Placement) : Prop where
  operations : (plan.map Placement.operation).Perm problem.operationInstances
  options : ∀ p ∈ plan, p.option ∈ p.operation.resourceOptions

/-- The lag of an edge between two resources is inside its window, and covers the
transport when it leaves the workshop. -/
structure LagFits (edge : PrecedenceEdge) (fromResource toResource : String) (lag : Int) :
    Prop where
  window : ¬LagOutside edge lag
  transport : CrossWorkshop problem fromResource toResource →
    edge.transportLagSeconds * microsPerSecond ≤ lag

/-- The placement takes what its operation takes on its option. -/
def TakesDuration (p : Placement) : Prop :=
  ∃ seconds, TakesSeconds p.operation p.option seconds ∧
    p.stop - p.start = durationTicks seconds problem.tickSeconds

/-- The placement keeps what a lock fixes. -/
structure KeepsLock (p : Placement) (lock : OperationLock) : Prop where
  resource : p.resourceId = lock.resourceId
  start : tickMicros problem p.start = instantMicros lock.startAtUtc
  stop : tickMicros problem p.stop = instantMicros lock.endAtUtc

/-- The placement is after the interval or before it. -/
def Avoids (p : Placement) (interval : UnavailableInterval) : Prop :=
  instantMicros interval.endUtc ≤ tickMicros problem p.start ∨
    tickMicros problem p.stop ≤ instantMicros interval.startUtc

/-- Two placements do not share a resource and a tick. -/
def Apart (p q : Placement) : Prop :=
  p.resourceId = q.resourceId → p.stop ≤ q.start ∨ q.stop ≤ p.start

/-- The hard rules, over exact instants. -/
structure Feasible (plan : List Placement) : Prop where
  duration : ∀ p ∈ plan, TakesDuration problem p
  inside : ∀ p ∈ plan, p.operation.status = .notStarted →
    instantMicros problem.horizonStartUtc ≤ tickMicros problem p.start ∧
      tickMicros problem p.stop ≤ instantMicros problem.horizonEndUtc
  running : ∀ p ∈ plan, p.operation.status = .running →
    p.operation.assignedResourceId = some p.resourceId ∧ p.start = 0
  locked : ∀ p ∈ plan, ∀ lock ∈ problem.operationLocks, lock.lockType = .hardLock →
    lock.operationId = p.operationId → KeepsLock problem p lock
  gated : ∀ p ∈ plan, instantMicros p.operation.releaseAtUtc ≤ tickMicros problem p.start ∧
    instantMicros p.operation.materialReadyAtUtc ≤ tickMicros problem p.start
  follows : ∀ edge ∈ problem.precedenceEdges, ∀ p ∈ plan, ∀ q ∈ plan,
    p.operationId = edge.predecessorOperationId → q.operationId = edge.successorOperationId →
      LagFits problem edge p.resourceId q.resourceId
        (tickMicros problem q.start - tickMicros problem p.stop)
  followsCompleted : ∀ edge ∈ problem.precedenceEdges,
    ∀ anchor ∈ problem.historicalCompletionAnchors, ∀ q ∈ plan,
      anchor.operationId = edge.predecessorOperationId →
        q.operationId = edge.successorOperationId →
          LagFits problem edge anchor.resourceId q.resourceId
            (tickMicros problem q.start - instantMicros anchor.actualEndAtUtc)
  apart : plan.Pairwise Apart
  calendar : ∀ p ∈ plan, ∀ interval ∈ problem.resourceUnavailableIntervals,
    interval.resourceId = p.resourceId → Avoids problem p interval

end

section
variable {problem : PlanningProblem}

theorem Apart.symm {p q : Placement} (h : Apart p q) : Apart q p := by
  intro hres
  exact (h hres.symm).symm

/-- The order in which the placements are listed does not matter. -/
theorem Feasible.perm {plan plan' : List Placement} (hperm : plan.Perm plan')
    (h : Feasible problem plan) : Feasible problem plan' :=
  { duration := fun p hp => h.duration p (hperm.mem_iff.mpr hp)
    inside := fun p hp => h.inside p (hperm.mem_iff.mpr hp)
    running := fun p hp => h.running p (hperm.mem_iff.mpr hp)
    locked := fun p hp => h.locked p (hperm.mem_iff.mpr hp)
    gated := fun p hp => h.gated p (hperm.mem_iff.mpr hp)
    follows := fun edge he p hp q hq =>
      h.follows edge he p (hperm.mem_iff.mpr hp) q (hperm.mem_iff.mpr hq)
    followsCompleted := fun edge he anchor ha q hq =>
      h.followsCompleted edge he anchor ha q (hperm.mem_iff.mpr hq)
    apart := (hperm.pairwise_iff fun hpq => hpq.symm).mp h.apart
    calendar := fun p hp => h.calendar p (hperm.mem_iff.mpr hp) }

theorem Feasible.perm_iff {plan plan' : List Placement} (hperm : plan.Perm plan') :
    Feasible problem plan ↔ Feasible problem plan' :=
  ⟨Feasible.perm hperm, Feasible.perm hperm.symm⟩

theorem Covers.perm {plan plan' : List Placement} (hperm : plan.Perm plan')
    (h : Covers problem plan) : Covers problem plan' :=
  ⟨(hperm.map _).symm.trans h.operations, fun p hp => h.options p (hperm.mem_iff.mpr hp)⟩

variable {plan : List Placement} (h : Covers problem plan)
include h

theorem Covers.mem {p : Placement} (hp : p ∈ plan) : p.operation ∈ problem.operationInstances :=
  h.operations.mem_iff.mp (List.mem_map_of_mem hp)

theorem Covers.exists_placement {operation : OperationInstance}
    (hm : operation ∈ problem.operationInstances) : ∃ p ∈ plan, p.operation = operation := by
  have := h.operations.mem_iff.mpr hm
  obtain ⟨p, hp, heq⟩ := List.mem_map.mp this
  exact ⟨p, hp, heq⟩

theorem Covers.ids_perm : (plan.map Placement.operationId).Perm (activeIds problem) := by
  have := h.operations.map OperationInstance.operationId
  rw [List.map_map] at this
  exact this

theorem Covers.ids_nodup (hnodup : (activeIds problem).Nodup) :
    (plan.map Placement.operationId).Nodup :=
  h.ids_perm.nodup_iff.mpr hnodup

end
end PlantNexus.Plan
