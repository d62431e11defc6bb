import PlantNexus.CpSat
import PlantNexus.Problem.Hashing

/-! The decision variables of the CP-SAT backend and what may go wrong while they are
built.

A variable is named by what it stands for and by the position of the operation, option,
demand, lock or base assignment it belongs to, as the source's generated names are. -/
namespace PlantNexus.Backend
open Data Time Domain Problem

/-- Integer variables: `op_i_start`, `op_i_end`, and those of the objectives. -/
inductive IntVar where
  | start (operation : Nat)
  | stop (operation : Nat)
  | completionTick (demand : Nat)
  | tardinessSeconds (demand : Nat)
  | totalWeightedTardinessSeconds
  | startShift (existing : Nat)
  | softLockViolations
  | changedExistingOperations
  | resourceChanges
  | absoluteStartShiftSeconds
  | makespanTick
  | makespanSeconds
deriving DecidableEq, Repr

/-- Boolean variables: option presences, and the match literals of OBJ-002. -/
inductive BoolVar where
  | presence (operation option : Nat)
  | softStartMatch (lock : Nat)
  | softEndMatch (lock : Nat)
  | softExactMatch (lock : Nat)
  | softViolation (lock : Nat)
  | existingStartMatch (existing : Nat)
  | existingEndMatch (existing : Nat)
  | existingExactMatch (existing : Nat)
  | existingChanged (existing : Nat)
  | existingResourceChanged (existing : Nat)
deriving DecidableEq, Repr

abbrev Expr := CpSat.Expr IntVar BoolVar
abbrev Constraint := CpSat.Constraint IntVar BoolVar
abbrev Interval := CpSat.Interval IntVar BoolVar
abbrev Model := CpSat.Model IntVar BoolVar
abbrev Valuation := CpSat.Valuation IntVar BoolVar

inductive CoreModelReason where
  | zeroResourceOptions
  | durationExceedsHorizon
  | invalidHorizonTicks
  | factLockSelfConflict
  | hardLockNotTickAligned
  | temporalInstantNotSecondPrecision
  | tickValueOutOfRange
deriving DecidableEq, Repr

/-- `CoreModelInputError` -/
structure CoreModelInputError where
  reason : CoreModelReason
  field : String
  entityId : String
  message : String
deriving DecidableEq, Repr

/-- The exceptions that leave the backend's pure part. -/
inductive BackendError where
  | input (error : CoreModelInputError)
  | problem (error : PlanningProblemError)
  | value (message : String)
  | missingKey (key : String)
  | overflow
deriving DecidableEq, Repr

/-- `parse_utc_instant`, raising its `ContractValueError`. -/
def instantAt (value : String) : Except BackendError Datetime :=
  match parseUtcInstant value with
  | .ok d => .ok d
  | .error message => .error (.value message)

/-- `datetime + timedelta(seconds=...)`. -/
def addSecondsTo (d : Datetime) (seconds : Int) : Except BackendError Datetime :=
  match d.addSeconds seconds with
  | some e => .ok e
  | none => .error .overflow

/-- `CoreOptionVariables` -/
structure CoreOption where
  resourceId : String
  durationSeconds : Int
  durationTicks : Int
  presence : BoolVar
deriving DecidableEq, Repr

/-- `CoreOperationVariables` -/
structure CoreOperation where
  operationId : String
  start : IntVar
  stop : IntVar
  options : List CoreOption
deriving DecidableEq, Repr

/-- The optional interval of an operation on one of its options. -/
def CoreOperation.interval (operation : CoreOperation) (option : CoreOption) : Interval where
  start := .int operation.start
  size := option.durationTicks
  stop := .int operation.stop
  presence := some option.presence

/-- `operation_by_id[...]` -/
def operationById (operations : List CoreOperation) (id : String) :
    Except BackendError CoreOperation :=
  match dictGet CoreOperation.operationId operations id with
  | some operation => .ok operation
  | none => .error (.missingKey id)

theorem instantAt_eq_ok (value : String) (d : Datetime) :
    instantAt value = .ok d ↔ parseUtcInstant value = .ok d := by
  unfold instantAt
  split <;> simp_all

theorem addSecondsTo_eq_ok (d e : Datetime) (s : Int) :
    addSecondsTo d s = .ok e ↔ e.micros = d.micros + s * microsPerSecond := by
  rw [← Datetime.addSeconds_eq_some]
  unfold addSecondsTo
  split <;> simp_all

end PlantNexus.Backend
