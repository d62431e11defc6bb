import PlantNexus.Data.Reach
import PlantNexus.Runs.Repository

/-! Concurrent commands on one planning run.

Any number of submissions run at a time. A submission reads in one step and ends there with a
replay or a rejection, or it goes on to a write, which is a later step. A write that lost a race
looks for the record of its key in a third one. What the submissions that succeeded were answered
is kept beside the store. -/
namespace PlantNexus.Runs
open Data

structure Submission where
  command : RunCommand
  context : CommandContext
deriving DecidableEq

/-- The latest attempt of the rows. -/
def RunStore.latest (store : RunStore) : Option RunAttempt :=
  (sortByKey RunAttempt.attemptNumber store.attempts).getLast?

/-- What a command asks of the repository, once `cancel` has read the rows it acts on. -/
inductive Request where
  | materialize (command : MaterializeCommand)
  | transition (command : TransitionCommand)
  | startAttempt (command : AttemptStartCommand)
  | recordAttemptFailure (command : AttemptFailureCommand)
  | retry (command : RetryCommand)
deriving DecidableEq

/-- The rows as `get` hands them out. -/
def RunStore.model (store : RunStore) (aggregate : RunAggregate) : ReadModel :=
  ⟨aggregate, sortByKey RunAttempt.attemptNumber store.attempts,
    sortByKey RunWorkItem.attemptNumber store.workItems⟩

def Artifacts.empty : Artifacts := ⟨none, none, none, none, none, none, none⟩

def RunStore.request (store : RunStore) : RunCommand → Request
  | .materialize c => .materialize c
  | .transition c => .transition c
  | .cancel c =>
    .transition
      { expected := c.expected
        toState := .cancelled
        idempotencyKey := c.idempotencyKey
        reason := c.reason
        artifacts := (store.run.map fun aggregate => aggregate.document.artifacts).getD .empty
        attemptId := store.latest.map RunAttempt.attemptId }
  | .startAttempt c => .startAttempt c
  | .recordAttemptFailure c => .recordAttemptFailure c
  | .retry c => .retry c

/-- The aggregate a mutation was prepared on. -/
def Mutation.source : Mutation → RunAggregate
  | .materialize aggregate _ _ _ => aggregate
  | .transition m => m.previous
  | .retry aggregate _ _ _ _ => aggregate
  | .updateAttempt aggregate _ _ _ => aggregate

/-- A submission between its read and its answer. -/
structure PendingWrite where
  submission : Submission
  -- what was asked and the latest attempt, as they were read
  request : Request
  latest : Option RunAttempt
  mutation : Mutation
  lost : Option RunError
deriving DecidableEq

/-- A submission that succeeded, and its answer. -/
structure Success where
  submission : Submission
  request : Request
  result : ActionResult
deriving DecidableEq

structure RunSystem where
  store : RunStore
  pending : List PendingWrite
  succeeded : List Success

def RunSystem.initial : RunSystem := ⟨.empty, [], []⟩

def RunSystem.hold (s : RunSystem) (write : PendingWrite) : RunSystem :=
  { s with pending := write :: s.pending }

def RunSystem.drop (s : RunSystem) (write : PendingWrite) : RunSystem :=
  { s with pending := s.pending.erase write }

/-- An answer, remembered when it is a success. -/
def RunSystem.answer (s : RunSystem) (submission : Submission) (request : Request) :
    Except RunError ActionResult → RunSystem
  | .ok result => { s with succeeded := ⟨submission, request, result⟩ :: s.succeeded }
  | .error _ => s

@[simp]
theorem RunSystem.answer_store (s : RunSystem) (submission : Submission) (request : Request)
    (answer : Except RunError ActionResult) :
    (s.answer submission request answer).store = s.store := by
  cases answer <;> rfl

@[simp]
theorem RunSystem.answer_pending (s : RunSystem) (submission : Submission)
    (request : Request) (answer : Except RunError ActionResult) :
    (s.answer submission request answer).pending = s.pending := by
  cases answer <;> rfl

inductive RunEvent where
  | read (write : PendingWrite)
  | lost (write : PendingWrite)
  | wrote (write : PendingWrite) (answer : Except RunError ActionResult)
  | answered (submission : Submission) (request : Request)
      (answer : Except RunError ActionResult)

section System
variable (P : Platform)

/-- The runs that `materialize` takes from verified ingress records. A record is identified by
its fingerprint. -/
structure Ingress (planningRunId : String) where
  aggregates : RunAggregate → Prop
  runId : ∀ {a}, aggregates a → a.document.source.planningRunId = planningRunId
  initial : ∀ {a}, aggregates a → a.document = a.initial
  verified : ∀ {a}, aggregates a → verifyPlanningRun P a none = .ok ()
  identified : ∀ {a b}, aggregates a → aggregates b →
    a.sourceRecordFingerprint = b.sourceRecordFingerprint → a = b

variable {planningRunId : String} (ingress : Ingress P planningRunId)

/-- A command on the run: it names the run, or brings it in. -/
def OnRun : RunCommand → Prop
  | .materialize c => ingress.aggregates c.aggregate
  | .transition c => c.expected.planningRunId = planningRunId
  | .cancel c => c.expected.planningRunId = planningRunId
  | .startAttempt c => c.expected.planningRunId = planningRunId
  | .recordAttemptFailure c => c.expected.planningRunId = planningRunId
  | .retry c => c.expected.planningRunId = planningRunId

/-- One atomic step. -/
inductive RunStep : RunSystem → RunEvent → RunSystem → Prop
  | read {s : RunSystem} {submission : Submission} {m : Mutation}
      (hon : OnRun P ingress submission.command)
      (h : s.store.prepare P submission.command submission.context = .ok (.write m)) :
      RunStep s
        (.read ⟨submission, s.store.request submission.command, s.store.latest, m, none⟩)
        (s.hold ⟨submission, s.store.request submission.command, s.store.latest, m, none⟩)
  | replayed {s : RunSystem} {submission : Submission} {result : ActionResult}
      (hon : OnRun P ingress submission.command)
      (h : s.store.prepare P submission.command submission.context = .ok (.replay result)) :
      RunStep s (.answered submission (s.store.request submission.command) (.ok result))
        (s.answer submission (s.store.request submission.command) (.ok result))
  | refused {s : RunSystem} {submission : Submission} {error : RunError}
      (hon : OnRun P ingress submission.command)
      (h : s.store.prepare P submission.command submission.context = .error error) :
      RunStep s (.answered submission (s.store.request submission.command) (.error error)) s
  | wrote {s : RunSystem} {write : PendingWrite} {store : RunStore} {command : CommandRecord}
      (hwrite : write ∈ s.pending) (hlost : write.lost = none)
      (h : s.store.write P write.mutation = .ok (store, ⟨command, false⟩)) :
      RunStep s (.wrote write (resultFromCommand P command write.mutation.source false))
        (({ s with store } : RunSystem).drop write |>.answer write.submission write.request
          (resultFromCommand P command write.mutation.source false))
  | replayedWrite {s : RunSystem} {write : PendingWrite} {store : RunStore}
      {command : CommandRecord} (hwrite : write ∈ s.pending) (hlost : write.lost = none)
      (h : s.store.write P write.mutation = .ok (store, ⟨command, true⟩)) :
      RunStep s
        (.answered write.submission write.request
          (resultFromCommand P command write.mutation.source true))
        (s.drop write |>.answer write.submission write.request
          (resultFromCommand P command write.mutation.source true))
  | rejectedWrite {s : RunSystem} {write : PendingWrite} {error : RunError}
      (hwrite : write ∈ s.pending) (hlost : write.lost = none)
      (h : s.store.write P write.mutation = .error (.rejected error)) :
      RunStep s (.answered write.submission write.request (.error error)) (s.drop write)
  | lost {s : RunSystem} {write : PendingWrite} {error : RunError}
      (hwrite : write ∈ s.pending) (hlost : write.lost = none)
      (h : s.store.write P write.mutation = .error (.lost error)) :
      RunStep s (.lost write) ((s.drop write).hold { write with lost := some error })
  | raced {s : RunSystem} {write : PendingWrite} {error : RunError} {found : RepositoryWrite}
      (hwrite : write ∈ s.pending) (hlost : write.lost = some error)
      (h : s.store.raceResult write.mutation.command error = .ok found) :
      RunStep s
        (.answered write.submission write.request
          (resultFromCommand P found.command write.mutation.source found.replayed))
        (s.drop write |>.answer write.submission write.request
          (resultFromCommand P found.command write.mutation.source found.replayed))
  | racedAway {s : RunSystem} {write : PendingWrite} {error raised : RunError}
      (hwrite : write ∈ s.pending) (hlost : write.lost = some error)
      (h : s.store.raceResult write.mutation.command error = .error raised) :
      RunStep s (.answered write.submission write.request (.error raised)) (s.drop write)

end System
end PlantNexus.Runs
