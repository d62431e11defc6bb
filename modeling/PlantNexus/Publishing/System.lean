import Mathlib.Logic.Function.Basic
import PlantNexus.Data.Reach
import PlantNexus.Publishing.Service

/-! Concurrent publications.

Any number of clients submit commands, each at most one at a time, and every repository call is
one step, so that the steps of the clients come in any order; a client may crash between two of
its calls. Beside them the other services insert drafts, move versions to review, approval and
rejection, and append audit events. A running call remembers the successes of its command that
were answered before it began. -/
namespace PlantNexus.Publishing
open Data Domain

structure RunningCall where
  call : PublicationCall
  phase : PublicationPhase
  earlier : List PublicationServiceResult

structure PublicationSystem where
  tables : PublicationTables
  calls : Nat → Option RunningCall
  successes : List (Json × PublicationServiceResult)

def PublicationSystem.initial : PublicationSystem := ⟨⟨[], [], [], none⟩, fun _ => none, []⟩

/-- The results that were answered to a command. -/
def PublicationSystem.successesOf (s : PublicationSystem) (command : Json) :
    List PublicationServiceResult :=
  (s.successes.filter fun success => success.1 = command).map Prod.snd

def PublicationSystem.setCall (s : PublicationSystem) (client : Nat)
    (running : Option RunningCall) :
    PublicationSystem :=
  { s with calls := Function.update s.calls client running }

/-- A success is added to the answers, an error is not. -/
def recordAnswer (successes : List (Json × PublicationServiceResult)) (command : Json)
    (answer : Except PublicationError PublicationServiceResult) :
    List (Json × PublicationServiceResult) :=
  match answer with
  | .ok result => (command, result) :: successes
  | .error _ => successes

inductive PublicationEvent where
  | environment
  | started (client : Nat) (call : PublicationCall)
  | refused (command : Json) (error : PublicationError)
  | advanced (client : Nat)
  | answered (client : Nat) (running : RunningCall)
      (answer : Except PublicationError PublicationServiceResult)
  | crashed (client : Nat)

section
variable (otherDocument : String → Json → Except P4ContractError Unit)

/-- One atomic step. -/
inductive PublicationStep :
    PublicationSystem → PublicationEvent → PublicationSystem → Prop
  | drafted {s : PublicationSystem} {document : Json} {schedules : List ScheduleRow}
      {replayed : Bool} (hstate : document.get "state" = .str "DRAFT")
      (h : putSchedule otherDocument s.tables.schedules document = .ok (schedules, replayed)) :
      PublicationStep s .environment { s with tables := { s.tables with schedules } }
  | reviewed {s : PublicationSystem} {w : ScheduleTransition} {schedules : List ScheduleRow}
      (hstate : w.candidate.get "state" ∈
        [Json.str "READY_FOR_REVIEW", .str "APPROVED", .str "REJECTED"])
      (h : transitionSchedule otherDocument s.tables.schedules w = .ok schedules) :
      PublicationStep s .environment { s with tables := { s.tables with schedules } }
  | recorded {s : PublicationSystem} {audit : Json} {audits : List Json}
      (h : appendAudit s.tables.audits audit = .ok audits) :
      PublicationStep s .environment { s with tables := { s.tables with audits } }
  | started {s : PublicationSystem} {client : Nat} {command : Json} {context : PublicationContext}
      {call : PublicationCall} {phase : PublicationPhase} (hidle : s.calls client = none)
      (h : PublicationCall.begin command context = .ok (call, phase)) :
      PublicationStep s (.started client call)
        (s.setCall client (some ⟨call, phase, s.successesOf command⟩))
  | refused {s : PublicationSystem} {command : Json} {context : PublicationContext}
      {error : PublicationError} (h : PublicationCall.begin command context = .error error) :
      PublicationStep s (.refused command error) s
  | advanced {s : PublicationSystem} {client : Nat} {running : RunningCall}
      {tables : PublicationTables} {phase : PublicationPhase}
      (hrunning : s.calls client = some running)
      (h : running.call.advance otherDocument s.tables running.phase = (tables, .next phase)) :
      PublicationStep s (.advanced client)
        { s.setCall client (some { running with phase }) with tables }
  | answered {s : PublicationSystem} {client : Nat} {running : RunningCall}
      {tables : PublicationTables} {answer : Except PublicationError PublicationServiceResult}
      (hrunning : s.calls client = some running)
      (h : running.call.advance otherDocument s.tables running.phase = (tables, .answer answer)) :
      PublicationStep s (.answered client running answer)
        { s.setCall client none with
          tables, successes := recordAnswer s.successes running.call.command answer }
  | crashed {s : PublicationSystem} {client : Nat} {running : RunningCall}
      (hrunning : s.calls client = some running) :
      PublicationStep s (.crashed client) (s.setCall client none)

/-- The states that any order of steps reaches. -/
def PublicationReachable : PublicationSystem → Prop :=
  Reach (PublicationStep otherDocument) (fun _ _ => True) .initial

end

end PlantNexus.Publishing
