import PlantNexus.Data.Lists
import PlantNexus.Runs.Service

/-! The durable rows of one planning run.

A write is one transaction: it looks for the record of its key, compares the run and the attempt
it was prepared on with the rows that are there now, and inserts and updates. A transaction that
fails is rolled back. One that lost a race then looks for the record of its key once more, which
is a step of its own. -/
namespace PlantNexus.Runs
open Data Time

/-- The rows of a run. A run row keeps its source columns for good; the document is replaced. -/
structure RunStore where
  run : Option RunAggregate
  attempts : List RunAttempt
  workItems : List RunWorkItem
  transitions : List RunTransition
  commands : List CommandRecord
deriving DecidableEq

def RunStore.empty : RunStore := ⟨none, [], [], [], []⟩

/-- `PlanningRunRepositoryWrite` -/
structure RepositoryWrite where
  command : CommandRecord
  replayed : Bool
deriving DecidableEq

/-- How a transaction fails: `lost` ends in `_race_result`, `rejected` is raised. -/
inductive WriteFailure where
  | lost (error : RunError)
  | rejected (error : RunError)
deriving DecidableEq, Repr

/-! ### Reads -/

def attemptNumbers (n : Nat) : List Int := (List.range n).map fun i : Nat => (i : Int) + 1

section
variable (P : Platform)

/-- `_work_item`: the item of an attempt that is there. -/
def checkStoredWorkItem (aggregate : RunAggregate) (attempts : List RunAttempt)
    (w : RunWorkItem) : Except RunError Unit :=
  match dictGet RunAttempt.attemptId attempts w.attemptId with
  | none => .error (lineage "stored.work_item.attempt_id" "Work item attempt is absent")
  | some attempt => verifyWorkItem P w aggregate attempt false

/-- `get` -/
def RunStore.get (store : RunStore) : Except RunError (Option ReadModel) :=
  match store.run with
  | none => .ok none
  | some aggregate => do
    require (aggregate.document.source.effectiveScope.dataPlane = P.dataPlane)
      (lineage "stored.planning_run" "PlanningRun row and canonical carrier differ")
    let attempts := sortByKey RunAttempt.attemptNumber store.attempts
    forEach (fun _ a => verifyAttempt P a aggregate.document none) attempts
    require (attempts.map RunAttempt.attemptNumber = attemptNumbers attempts.length)
      (lineage "stored.attempt_number" "Attempt sequence has a gap")
    let workItems := sortByKey RunWorkItem.attemptNumber store.workItems
    forEach (fun _ w => checkStoredWorkItem P aggregate attempts w) workItems
    require (workItems.map RunWorkItem.attemptId = attempts.map RunAttempt.attemptId)
      (lineage "stored.planning_run_work_items"
        "Attempt and immutable work-item sequences differ")
    return some ⟨aggregate, attempts, workItems⟩

/-- `read` -/
def RunStore.read (store : RunStore) (ctx : CommandContext) : Except RunError ReadModel := do
  match ← store.get P with
  | none =>
    .error ⟨.invalidReference, "planning_run_id",
      "PlanningRun does not exist in the selected data plane"⟩
  | some model => do
    authorize P model.aggregate ctx true
    verifyPlanningRun P model.aggregate none
    forEach (fun _ a => verifyAttempt P a model.aggregate.document none) model.attempts
    return model

/-- `get_command` -/
def RunStore.getCommand (store : RunStore) (scope keyReference : String) :
    Option CommandRecord :=
  store.commands.find? fun record =>
    record.scopeFingerprint = scope ∧ record.keyReference = keyReference

/-! ### Transactions -/

def rejecting {α : Type} (check : Except RunError α) : Except WriteFailure α :=
  check.mapError .rejected

/-- `_existing_command`: replay the record of the key, or go on to the write. -/
def RunStore.orReplay (store : RunStore) (command : CommandRecord)
    (next : Except WriteFailure RunStore) : Except WriteFailure (RunStore × RepositoryWrite) :=
  match store.getCommand command.scopeFingerprint command.keyReference with
  | some existing => do
    require (existing.requestFingerprint = command.requestFingerprint)
      (.rejected ⟨.idempotencyConflict, "idempotency_key",
        "Stored command uses the key for different content"⟩)
    return (store, ⟨existing, true⟩)
  | none => do
    let written ← next
    rejecting (verifyCommandRecord command)
    return ({ written with commands := written.commands ++ [command] }, ⟨command, false⟩)

/-- `_race_result` -/
def RunStore.raceResult (store : RunStore) (command : CommandRecord) (missing : RunError) :
    Except RunError RepositoryWrite :=
  match store.getCommand command.scopeFingerprint command.keyReference with
  | some existing => do
    require (existing.requestFingerprint = command.requestFingerprint)
      ⟨.idempotencyConflict, "idempotency_key",
        "Concurrent command reused a key for different content"⟩
    return ⟨existing, true⟩
  | none => .error missing

/-- `_require_current`; equal canonical bytes give equal revision, state and fingerprint. -/
def RunStore.requireCurrent (store : RunStore) (aggregate : RunAggregate) :
    Except WriteFailure RunAggregate :=
  match store.run with
  | none =>
    .error (.rejected ⟨.invalidReference, "planning_run_id", "PlanningRun does not exist"⟩)
  | some stored => do
    require (stored.document = aggregate.document)
      (.lost ⟨.staleRun, "planning_run", "PlanningRun CAS precondition is stale"⟩)
    return stored

/-- `_require_attempt` -/
def RunStore.requireAttempt (store : RunStore) (attempt : RunAttempt) :
    Except WriteFailure Unit :=
  match store.attempts.find? fun a => a.attemptId = attempt.attemptId with
  | none =>
    .error (.rejected ⟨.invalidReference, "attempt_id", "PlanningRun attempt does not exist"⟩)
  | some stored =>
    require (stored = attempt)
      (.lost ⟨.staleAttempt, "attempt", "Attempt CAS precondition is stale"⟩)

/-- `_update_attempt`, on the row that was just compared. -/
def RunStore.updateAttemptRow (store : RunStore) (previous attempt : RunAttempt) : RunStore :=
  if previous = attempt then store
  else
    { store with
      attempts := store.attempts.map fun a =>
        if a.attemptId = previous.attemptId ∧ a.revision = previous.revision ∧
            a.status = previous.status then attempt
        else a }

/-- The attempt that a transition binds. -/
def RunStore.writeAttempt (store : RunStore) (previous attempt : Option RunAttempt) :
    Except WriteFailure RunStore :=
  match previous with
  | none => .ok store
  | some previous => do
    store.requireAttempt previous
    return (attempt.map (store.updateAttemptRow previous)).getD store

/-- The insert of an attempt and its work item, under their unique keys. -/
def RunStore.insertAttempt (store : RunStore) (attempt : RunAttempt) (workItem : RunWorkItem)
    (attemptClash : RunError) (queueMessage : String) : Except WriteFailure RunStore := do
  require (∀ a ∈ store.attempts,
      a.attemptId ≠ attempt.attemptId ∧ a.attemptNumber ≠ attempt.attemptNumber)
    (.lost attemptClash)
  require (∀ w ∈ store.workItems,
      w.workItemId ≠ workItem.workItemId ∧ w.attemptId ≠ workItem.attemptId)
    (.rejected ⟨.queueFailed, "planning_run_work_item", queueMessage⟩)
  return { store with
    attempts := store.attempts ++ [attempt]
    workItems := store.workItems ++ [workItem] }

/-- `_insert_transition` -/
def RunStore.insertTransition (store : RunStore) (transition : RunTransition)
    (clash : RunError) : Except WriteFailure RunStore := do
  require (∀ t ∈ store.transitions, t.sequence ≠ transition.sequence) (.lost clash)
  return { store with transitions := store.transitions ++ [transition] }

def concurrentWrite : RunError :=
  ⟨.idempotencyConflict, "repository.write", "Concurrent PlanningRun write conflicted"⟩

/-- `materialize` -/
def RunStore.materialize (store : RunStore) (aggregate : RunAggregate) (attempt : RunAttempt)
    (workItem : RunWorkItem) (command : CommandRecord) :
    Except WriteFailure (RunStore × RepositoryWrite) := do
  rejecting (verifyAttempt P attempt aggregate.document none)
  rejecting (verifyWorkItem P workItem aggregate attempt true)
  rejecting (verifyCommandRecord command)
  store.orReplay command do
    rejecting (P.sourceMatches aggregate)
    require (store.run = none) (.lost concurrentWrite)
    let store ← store.insertTransition aggregate.initial.lastTransition concurrentWrite
    let store ← store.insertAttempt attempt workItem concurrentWrite
      "Queue-ready work item could not be committed"
    return { store with run := some aggregate }

/-- The attempt a transition writes; an unchanged one has no record before. -/
def verifyWrittenAttempt (m : TransitionMutation) : Except RunError Unit :=
  match m.attempt with
  | none => .ok ()
  | some attempt =>
    verifyAttempt P attempt m.aggregate.document
      (m.previousAttempt.filter fun previous => previous ≠ attempt)

/-- `apply_transition` -/
def RunStore.applyTransition (store : RunStore) (m : TransitionMutation) :
    Except WriteFailure (RunStore × RepositoryWrite) := do
  rejecting (verifyWrittenAttempt P m)
  rejecting (verifyCommandRecord m.command)
  store.orReplay m.command do
    let stored ← store.requireCurrent m.previous
    let store ← store.writeAttempt m.previousAttempt m.attempt
    let store ← store.insertTransition m.aggregate.document.lastTransition
      ⟨.staleRun, "planning_run", "Concurrent PlanningRun transition lost its CAS race"⟩
    return { store with run := some { stored with document := m.aggregate.document } }

/-- `append_retry` -/
def RunStore.appendRetry (store : RunStore) (aggregate : RunAggregate)
    (failed attempt : RunAttempt) (workItem : RunWorkItem) (command : CommandRecord) :
    Except WriteFailure (RunStore × RepositoryWrite) := do
  rejecting (verifyAttempt P attempt aggregate.document none)
  rejecting (verifyWorkItem P workItem aggregate attempt true)
  store.orReplay command do
    let _ ← store.requireCurrent aggregate
    store.requireAttempt failed
    require failed.status.Retryable
      (.rejected ⟨.attemptNotRetryable, "failed_attempt.status",
        "Stored attempt is not retryable"⟩)
    require ((store.attempts.map RunAttempt.attemptNumber).max? = some failed.attemptNumber)
      (.lost ⟨.staleAttempt, "failed_attempt", "Retry lost a newer-attempt race"⟩)
    store.insertAttempt attempt workItem
      ⟨.staleAttempt, "failed_attempt", "Concurrent PlanningRun retry lost its CAS race"⟩
      "Retry work item could not be committed"

/-- `update_attempt` -/
def RunStore.updateAttempt (store : RunStore) (aggregate : RunAggregate)
    (previous attempt : RunAttempt) (command : CommandRecord) :
    Except WriteFailure (RunStore × RepositoryWrite) := do
  rejecting (verifyAttempt P attempt aggregate.document (some previous))
  store.orReplay command do
    let _ ← store.requireCurrent aggregate
    store.requireAttempt previous
    return store.updateAttemptRow previous attempt

def RunStore.write (store : RunStore) :
    Mutation → Except WriteFailure (RunStore × RepositoryWrite)
  | .materialize aggregate attempt workItem command =>
    store.materialize P aggregate attempt workItem command
  | .transition mutation => store.applyTransition P mutation
  | .retry aggregate failed attempt workItem command =>
    store.appendRetry P aggregate failed attempt workItem command
  | .updateAttempt aggregate previous attempt command =>
    store.updateAttempt P aggregate previous attempt command

/-! ### Commands -/

inductive RunCommand where
  | materialize (command : MaterializeCommand)
  | transition (command : TransitionCommand)
  | cancel (command : CancelCommand)
  | startAttempt (command : AttemptStartCommand)
  | recordAttemptFailure (command : AttemptFailureCommand)
  | retry (command : RetryCommand)
deriving DecidableEq

/-- A command up to its write, on the rows it reads. -/
def RunStore.prepare (store : RunStore) (command : RunCommand) (ctx : CommandContext) :
    Except RunError Prepared :=
  match command with
  | .materialize c => prepareMaterialize P c ctx store.getCommand
  | .transition c => do
    let model ← store.read P ctx
    prepareTransition P c model ctx store.getCommand
  | .cancel c => do
    let model ← store.read P ctx
    prepareTransition P (c.toTransition model) model ctx store.getCommand
  | .startAttempt c => do
    let model ← store.read P ctx
    prepareAttemptStart P c model ctx store.getCommand
  | .recordAttemptFailure c => do
    let model ← store.read P ctx
    prepareAttemptFailure P c model ctx store.getCommand
  | .retry c => do
    let model ← store.read P ctx
    prepareRetry P c model ctx store.getCommand

end
end PlantNexus.Runs
