import PlantNexus.Backend.TemporalConstraints

/-! Execution facts and hard locks of the core model.

A running operation keeps its resource, starts at the cutoff and ends with its
remainder; a hard lock fixes resource, start and end at exact grid ticks. Soft locks add
no constraint. -/
namespace PlantNexus.Backend
open Data Time Domain Problem CpSat

/-- `exact_tick_offset`, for the positive tick the contract guarantees. -/
def exactTickOffset (value origin : String) (tick : Int) : Except BackendError Int := do
  let v ← instantAt value
  let o ← instantAt origin
  let total := v.sub o
  if total % (tick * 1000000) ≠ 0 then
    .error (.value "UTC instant is not aligned to the exact solver tick grid")
  else return total / (tick * 1000000)

/-- `_fix_resource` -/
def fixResource (operation : CoreOperation) (resourceId : String) :
    Except BackendError Constraint :=
  match dictGet CoreOption.resourceId operation.options resourceId with
  | some option => .ok (.linear (.bool option.presence) .eq (.const 1) [])
  | none => .error (.missingKey resourceId)

/-- Start, end and resource of an operation, all fixed. -/
def fixOperation (operation : CoreOperation) (resourceId : String) (start stop : Int) :
    Except BackendError (List Constraint) := do
  let resource ← fixResource operation resourceId
  return [.linear (.int operation.start) .eq (.const start) [],
    .linear (.int operation.stop) .eq (.const stop) [], resource]

/-- The constraints of a running operation's fact. -/
def runningConstraints (problem : PlanningProblem) (operations : List CoreOperation)
    (fact : OperationInstance) : Except BackendError (List Constraint) :=
  if fact.status ≠ .running then .ok []
  else do
    let operation ← operationById operations fact.operationId
    match fact.remainingSeconds, fact.assignedResourceId with
    | some remaining, some resource =>
      fixOperation operation resource 0 (ceilSecondsToTicks remaining problem.tickSeconds)
    | _, _ => .error (.value "AssertionError")

/-- The constraints of a lock. -/
def lockConstraints (problem : PlanningProblem) (operations : List CoreOperation)
    (lock : OperationLock) : Except BackendError (List Constraint) :=
  match lock.lockType with
  | .softLock => .ok []
  | .hardLock => do
    let operation ← operationById operations lock.operationId
    let start ← exactTickOffset lock.startAtUtc problem.horizonStartUtc problem.tickSeconds
    let stop ← exactTickOffset lock.endAtUtc problem.horizonStartUtc problem.tickSeconds
    fixOperation operation lock.resourceId start stop

/-- `add_fact_lock_constraints` -/
def addFactLockConstraints (problem : PlanningProblem) (operations : List CoreOperation) :
    Except BackendError (List Constraint) := do
  let running ← collect (runningConstraints problem operations) problem.operationInstances
  let locks ← collect (lockConstraints problem operations) problem.operationLocks
  return running.flatten ++ locks.flatten

end PlantNexus.Backend
