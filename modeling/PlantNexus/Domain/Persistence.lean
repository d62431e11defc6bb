import PlantNexus.Data.Checks
import PlantNexus.Data.Json

/-! Fail-closed primitives that the repositories share. -/
namespace PlantNexus.Domain
open Data

inductive PersistenceFailure where
  | invalidDocument
  | dataPlaneMismatch
  | identityConflict
  | idempotencyConflict
  | stateConflict
  | leaseConflict
  | appendOnly
  | persistenceFailed
deriving DecidableEq, Repr

structure PersistenceError where
  reason : PersistenceFailure
  field : String
  message : String
deriving DecidableEq, Repr

/-- `require_text` -/
def requireText (value : Json) (field : String) : Except PersistenceError Unit :=
  match value with
  | .str text => require (text ≠ "") ⟨.invalidDocument, field, "must be non-empty text"⟩
  | _ => .error ⟨.invalidDocument, field, "must be non-empty text"⟩

/-- `require_integer` -/
def requireInteger (value : Json) (field : String) (minimum : Int) :
    Except PersistenceError Int :=
  let refused : PersistenceError :=
    ⟨.invalidDocument, field, s!"must be an integer >= {minimum}"⟩
  match value with
  | .int n => do
    require (minimum ≤ n) refused
    return n
  | _ => .error refused

/-- `require_mapping` -/
def requireMapping (value : Json) (field : String) : Except PersistenceError Json := do
  require (value.isObj = true) ⟨.invalidDocument, field, "must be an object"⟩
  return value

end PlantNexus.Domain
