import PlantNexus.Problem.Hashing

/-! Constraint identifiers, violations and reports of the schedule validator, and the
assignments it reads from a candidate. -/
namespace PlantNexus.Validation
open Data Time Domain Problem

inductive ConstraintId where
  | c001
  | c002
  | c003
  | c004
  | c005
  | c006
  | c007
  | c008
  | c009
  | c010
  | c011
deriving DecidableEq, Repr

namespace ConstraintId

def text : ConstraintId → String
  | c001 => "C-001"
  | c002 => "C-002"
  | c003 => "C-003"
  | c004 => "C-004"
  | c005 => "C-005"
  | c006 => "C-006"
  | c007 => "C-007"
  | c008 => "C-008"
  | c009 => "C-009"
  | c010 => "C-010"
  | c011 => "C-011"

/-- `FORMAL_RULE_METADATA`: the expected rule and the message of a violation. -/
def ruleMetadata : ConstraintId → String × String
  | c001 => ("exactly one assignment per unfinished operation",
      "operation assignment completeness violated")
  | c002 => ("successor start remains inside the declared lag window", "precedence lag violated")
  | c003 => ("exactly one listed candidate resource", "candidate resource selection violated")
  | c004 => ("capacity-1 resource intervals do not overlap", "resource overlap detected")
  | c005 => ("non-preemptive assignment avoids all unavailable intervals",
      "resource calendar violated")
  | c006 => ("start >= release_at and start >= material_ready_at",
      "release or material gate violated")
  | c007 => ("completed/running execution facts remain authoritative",
      "execution fact preservation violated")
  | c008 => ("HARD_LOCK resource/start/end remain fixed", "hard lock moved")
  | c009 => ("cross-workshop transport lag is respected",
      "cross-workshop transport lag violated")
  | c010 => ("interval length equals selected resource duration ticks",
      "operation duration inconsistent with selected resource")
  | c011 => ("NOT_STARTED assignment remains wholly inside horizon",
      "planning horizon violated")

end ConstraintId

/-- `ValidationViolationDocumentV2` -/
structure Violation where
  constraintId : ConstraintId
  severity : String
  entityIds : List String
  observedValue : Json
  expectedRule : String
  message : String

/-- `_violation` -/
def violation (constraintId : ConstraintId) (entityIds : List String) (observed : Json) :
    Violation :=
  let identifiers := (entityIds.filter (· ≠ "")).eraseDups
  { constraintId
    severity := "HARD"
    entityIds := if identifiers = [] then ["candidate"] else identifiers
    observedValue := observed
    expectedRule := constraintId.ruleMetadata.1
    message := constraintId.ruleMetadata.2 }

@[simp]
theorem violation_constraintId (k : ConstraintId) (ids : List String) (observed : Json) :
    (violation k ids observed).constraintId = k := rfl

/-- The exceptions that leave the validator. -/
inductive ValidatorError where
  | input (field expectedContract message : String)
  | value (message : String)
  | overflow
deriving DecidableEq, Repr

/-- `ValidationReportDocumentV2` -/
structure Report where
  validationReportVersion : String
  problemHash : String
  status : String
  hardViolationCount : Nat
  violations : List Violation

/-! ### Reading a candidate -/

/-- `_integer` -/
def integer : Json → Option Int
  | .int value => some value
  | _ => none

/-- `_identifier` accepts the text. -/
def isIdentifier (value : String) : Bool :=
  value ≠ "" && value.length ≤ 256 && value.toList.all fun c => !isSpace c

/-- `_identifier` -/
def identifier : Json → Option String
  | .str value => if isIdentifier value then some value else none
  | _ => none

/-- `_instant` -/
def instant : Json → Option Datetime
  | .str value => (parseUtcInstant value).toOption
  | _ => none

/-- `_identifier_tuple` -/
def identifierTuple : Json → List String
  | .arr items =>
    let identifiers := items.filterMap identifier
    if identifiers.length = items.length then identifiers else []
  | _ => []

/-- `_Assignment` -/
structure Assignment where
  index : Nat
  operationId : String
  resourceId : Option String
  startTick : Option Int
  endTick : Option Int
  durationTicks : Option Int
  startAtUtc : Option Datetime
  endAtUtc : Option Datetime
  durationSeconds : Option Int
  lockIds : List String
  executionFactIds : List String
deriving DecidableEq

/-- A start tick and a later end tick. -/
def Assignment.Usable (a : Assignment) (start stop : Int) : Prop :=
  a.startTick = some start ∧ a.endTick = some stop ∧ start < stop

/-- The interval of a usable assignment; `interval_is_usable` when there is one. -/
def Assignment.interval (a : Assignment) : Option (Int × Int) :=
  match a.startTick, a.endTick with
  | some start, some stop => if stop > start then some (start, stop) else none
  | _, _ => none

theorem Assignment.interval_eq_some (a : Assignment) (start stop : Int) :
    a.interval = some (start, stop) ↔ a.Usable start stop := by
  unfold interval Usable
  split
  · rename_i s e hs he
    rw [hs, he]
    split
    · simp only [Option.some.injEq, Prod.mk.injEq]
      constructor
      · intro hall
        obtain ⟨rfl, rfl⟩ := hall
        exact ⟨rfl, rfl, by assumption⟩
      · intro hall
        obtain ⟨rfl, rfl, -⟩ := hall
        exact ⟨rfl, rfl⟩
    · simp only [reduceCtorEq, Option.some.injEq, false_iff, not_and, not_lt]
      rintro rfl rfl
      omega
  · rename_i hnone
    simp only [reduceCtorEq, false_iff, not_and]
    intro hs he
    exact absurd he (hnone _ _ hs)

/-- `observed_tuple` -/
def Assignment.observedTuple (a : Assignment) : Json :=
  .obj
    [("operation_id", .str a.operationId), ("resource_id", .ofOption .str a.resourceId),
     ("start_tick", .ofOption .int a.startTick), ("end_tick", .ofOption .int a.endTick),
     ("duration_ticks", .ofOption .int a.durationTicks),
     ("duration_seconds", .ofOption .int a.durationSeconds)]

/-- `_problem_reference` -/
def problemReference (problem : PlanningProblem) : Json :=
  .obj
    [("problem_version", .str problem.problemVersion),
     ("problem_builder_version", .str problem.problemBuilderVersion),
     ("problem_hash_projection_version", .str problem.problemHashProjectionVersion),
     ("problem_hash", .str problem.problemHash), ("snapshot_id", .str problem.snapshotId),
     ("tick_seconds", .int problem.tickSeconds),
     ("horizon_start_utc", .str problem.horizonStartUtc),
     ("horizon_end_utc", .str problem.horizonEndUtc)]

/-- The value is an object. -/
def isObject : Json → Bool
  | .obj _ => true
  | _ => false

/-- The candidate names this problem. -/
def referencesProblem (problem : PlanningProblem) (candidate : Json) : Bool :=
  isObject (candidate.get "problem") &&
    (candidate.get "problem").pyEq (problemReference problem)

def referenceViolations (problem : PlanningProblem) (candidate : Json) : List Violation :=
  if referencesProblem problem candidate then []
  else
    [violation .c001 [problem.snapshotId]
      (.obj
        [("reason", .str "candidate references a different PlanningProblem"),
         ("observed_problem_reference", candidate.get "problem"),
         ("expected_problem_reference", problemReference problem)])]

/-- One entry of `candidate.assignments` that has an operation. -/
def readAssignment (index : Nat) (raw : Json) (operationId : String) : Assignment where
  index
  operationId
  resourceId := identifier (raw.get "resource_id")
  startTick := integer (raw.get "start_tick")
  endTick := integer (raw.get "end_tick")
  durationTicks := integer (raw.get "duration_ticks")
  startAtUtc := instant (raw.get "start_at_utc")
  endAtUtc := instant (raw.get "end_at_utc")
  durationSeconds := integer (raw.get "duration_seconds")
  lockIds := identifierTuple (raw.get "lock_ids")
  executionFactIds := identifierTuple (raw.get "execution_fact_ids")

/-- The assignment of an entry, if it has one, and what is wrong with its shape. -/
def materializeEntry (index : Nat) (raw : Json) : Option Assignment × List Violation :=
  let location := s!"candidate.assignments[{index}]"
  if isObject raw then
    match identifier (raw.get "operation_id") with
    | none =>
      (none, [violation .c001 [location]
        (.obj
          [("reason", .str "assignment has no canonical operation_id"),
           ("observed_operation_id", raw.get "operation_id")])])
    | some operationId =>
      let assignment := readAssignment index raw operationId
      let missingResource :=
        if assignment.resourceId = none then
          [violation .c003 [operationId]
            (.obj
              [("reason", .str "assignment has no canonical resource_id"),
               ("observed_resource_id", raw.get "resource_id")])]
        else []
      let unusable :=
        if assignment.interval = none then
          [violation .c001 [operationId]
            (.obj
              [("reason", .str "assignment has no positive scheduled interval"),
               ("start_tick", .ofOption .int assignment.startTick),
               ("end_tick", .ofOption .int assignment.endTick)])]
        else []
      (some assignment, missingResource ++ unusable)
  else
    (none, [violation .c001 [location]
      (.obj
        [("reason", .str "assignment is not an object"),
         ("observed_type", .str raw.typeName)])])

/-- `_materialize_assignments` -/
def materializeAssignments (problem : PlanningProblem) (candidate : Json) :
    List Assignment × List Violation :=
  let reference := referenceViolations problem candidate
  match candidate.get "assignments" with
  | .arr raws =>
    let entries := raws.mapIdx materializeEntry
    (entries.filterMap Prod.fst, reference ++ entries.flatMap Prod.snd)
  | raw =>
    ([], reference ++
      [violation .c001 [problem.snapshotId]
        (.obj
          [("reason", .str "candidate.assignments is not an array"),
           ("observed_type", .str raw.typeName)])])

/-- The assignments of one operation, in the validator's order. -/
def groups (assignments : List Assignment) (operationId : String) : List Assignment :=
  sortByKey
    (fun a => toLex (a.resourceId.getD "", toLex (a.startTick.getD (-1),
      toLex (a.endTick.getD (-1), toLex (a.durationTicks.getD (-1),
        toLex (a.durationSeconds.getD (-1), toLex (a.lockIds, a.executionFactIds)))))))
    (assignments.filter fun a => a.operationId = operationId)

/-- `_singles`: the assignment of an operation that has exactly one. -/
def single (assignments : List Assignment) (operationId : String) : Option Assignment :=
  match groups assignments operationId with
  | [a] => some a
  | _ => none

theorem mem_groups (assignments : List Assignment) (operationId : String) (a : Assignment) :
    a ∈ groups assignments operationId ↔ a ∈ assignments ∧ a.operationId = operationId := by
  simp [groups]

theorem groups_length (assignments : List Assignment) (operationId : String) :
    (groups assignments operationId).length =
      (assignments.filter fun a => a.operationId = operationId).length := by
  simp [groups]

theorem single_eq_some (assignments : List Assignment) (operationId : String) (a : Assignment) :
    single assignments operationId = some a ↔
      assignments.filter (fun b => b.operationId = operationId) = [a] := by
  have hperm : (groups assignments operationId).Perm
      (assignments.filter fun b => b.operationId = operationId) := sortByKey_perm _ _
  unfold single
  constructor
  · intro h
    split at h
    · rename_i b hb
      injection h with h
      subst h
      rw [hb] at hperm
      exact (List.singleton_perm.mp hperm).symm
    · cases h
  · intro h
    rw [h] at hperm
    rw [List.perm_singleton.mp hperm]

end PlantNexus.Validation
