import PlantNexus.Data.Checks
import PlantNexus.Data.Sha256
import PlantNexus.Data.Json

/-! Prechecks of the versioned carrier documents that freeze projection reads.

`requireP4Document` is the entry point of the execution contracts; planning policies
and `schedule-version.v2` documents are checked here, and the other seven kinds of
documents are a parameter, since none of them is a policy or a schedule.
`requireWorkspaceSchedule` is the workspace precheck of a document that names itself
`schedule-version.v1`. -/
namespace PlantNexus.Domain
open Data

/-! ### Fingerprints -/

/-- `contract_fingerprint`, and `workspace_fingerprint` with the same text. -/
def contractFingerprint (value : Json) : String := "sha256:" ++ Sha256.hexdigest value.dumps

/-! ### Execution contracts -/

inductive P4ContractReason where
  | unknownDocument
  | versionMismatch
  | planeViolation
  | identityMismatch
  | referenceMismatch
  | orderingViolation
deriving DecidableEq, Repr

structure P4ContractError where
  reason : P4ContractReason
  field : String
  message : String
deriving DecidableEq, Repr

def p4VersionFields : List (String × String) :=
  [("execution_event_version", "execution-event.v1"),
   ("replan_request_version", "replan-request.v1"),
   ("change_report_version", "change-report.v1"),
   ("execution_simulation_manifest_version", "execution-simulation-manifest.v1"),
   ("planning_policy_version", "planning-policy.v2"),
   ("solver_report_version", "solver-report.v2"),
   ("schedule_version_version", "schedule-version.v2"),
   ("export_manifest_version", "export-manifest.v3"),
   ("export_job_version", "export-job.v3")]

/-- `p4_document_version` -/
def p4DocumentVersion (document : Json) : Except P4ContractError String :=
  match p4VersionFields.filter fun f => (document.get f.1).pyEq (.str f.2) with
  | [found] => .ok found.2
  | _ =>
    .error ⟨.unknownDocument, "$", "exactly one supported P4 document version is required"⟩

/-- `_equal` -/
def p4Equal (actual expected : Json) (field : String) (reason : P4ContractReason) :
    Except P4ContractError Unit :=
  require (actual.pyEq expected = true)
    ⟨reason, field, "does not match the immutable contract projection"⟩

/-- `_mapping` -/
def p4Mapping (value : Json) (field : String) : Except P4ContractError Json := do
  require (value.isObj = true) ⟨.versionMismatch, field, "must be an object"⟩
  return value

/-- `_sequence` -/
def p4Sequence (value : Json) (field : String) : Except P4ContractError (List Json) :=
  match value with
  | .arr items => .ok items
  | _ => .error ⟨.versionMismatch, field, "must be an array"⟩

/-- `_integer` -/
def p4Integer (value : Json) (field : String) (minimum : Int) : Except P4ContractError Int :=
  match value with
  | .int n => do
    require (minimum ≤ n) ⟨.versionMismatch, field, "is below minimum"⟩
    return n
  | _ => .error ⟨.versionMismatch, field, "must be an integer"⟩

def isolatedEnvironments : List Json := [.str "DEVELOPMENT", .str "TEST", .str "BENCHMARK"]

/-- A text of one of the three isolated environments. -/
def IsolatedEnvironment (value : Json) : Prop :=
  isolatedEnvironments.any (fun e => value.pyEq e) = true

instance (value : Json) : Decidable (IsolatedEnvironment value) :=
  inferInstanceAs (Decidable (_ = _))

/-- `_require_simulation_boundary` -/
def requireSimulationBoundary (document : Json) : Except P4ContractError Unit := do
  if "data_plane" ∈ document.keys then
    p4Equal (document.get "data_plane") (.str "SIMULATION") "data_plane" .planeViolation
  require ("environment" ∈ document.keys → IsolatedEnvironment (document.get "environment"))
    ⟨.planeViolation, "environment", "is not isolated"⟩
  if "production_binding" ∈ document.keys then
    p4Equal (document.get "production_binding") (.bool false) "production_binding"
      .planeViolation
  if "synthetic" ∈ document.keys then
    p4Equal (document.get "synthetic") (.bool true) "synthetic" .planeViolation

def stageSignatures : Json :=
  .arr
    [.arr [.int 1, .str "OBJ-001", .str "WEIGHTED_TARDINESS_SECONDS", .str "MINIMIZE"],
     .arr [.int 2, .str "OBJ-002", .str "STABILITY_VECTOR", .str "LEXICOGRAPHIC_MINIMIZE"],
     .arr [.int 3, .str "OBJ-003", .str "MAKESPAN_SECONDS", .str "MINIMIZE"]]

def stabilityComponents : List String :=
  ["SOFT_LOCK_VIOLATIONS", "CHANGED_EXISTING_OPERATIONS", "RESOURCE_CHANGES",
   "ABSOLUTE_START_SHIFT_SECONDS"]

/-- `_require_policy` -/
def requirePolicy (document : Json) : Except P4ContractError Unit := do
  let freeze ← p4Mapping (document.get "freeze_policy") "freeze_policy"
  let _ ← p4Integer (freeze.get "window_seconds") "freeze_policy.window_seconds" 1
  let stages ← p4Sequence (document.get "objective_stages") "objective_stages"
  let signatures ←
    collect
      (fun stage => do
        let stage ← p4Mapping stage "objective_stages[]"
        return Json.arr
          [stage.get "stage_index", stage.get "objective_id", stage.get "metric",
           stage.get "sense"])
      stages
  p4Equal (.arr signatures) stageSignatures "objective_stages" .orderingViolation
  let stability ← p4Mapping (stages.getD 1 .null) "objective_stages[1]"
  let components ← p4Sequence (stability.get "components") "objective_stages[1].components"
  p4Equal (.arr components) (.strings stabilityComponents) "objective_stages[1].components"
    .orderingViolation

/-- `_require_schedule_version` -/
def requireScheduleVersion (document : Json) : Except P4ContractError Unit := do
  let content ← p4Mapping (document.get "content") "content"
  p4Equal (document.get "content_fingerprint") (.str (contractFingerprint content))
    "content_fingerprint" .identityMismatch
  let lineage ← p4Mapping (document.get "lineage") "lineage"
  p4Equal (document.get "parent_schedule_version") (lineage.get "base_schedule_version")
    "lineage.base_schedule_version" .referenceMismatch

section P4
variable (otherDocument : String → Json → Except P4ContractError Unit)

/-- `require_p4_document`; `otherDocument` checks the kinds that are neither policies nor
schedules. -/
def requireP4Document (document : Json) : Except P4ContractError String := do
  let version ← p4DocumentVersion document
  p4Equal (document.get "schema_set_version") (.str "2.8.0") "schema_set_version"
    .versionMismatch
  p4Equal (document.get "canonicalization_version") (.str "canonical-json.v1")
    "canonicalization_version" .versionMismatch
  requireSimulationBoundary document
  if version = "planning-policy.v2" then requirePolicy document
  else if version = "schedule-version.v2" then requireScheduleVersion document
  else otherDocument version document
  return version

end P4

/-! ### Workspace contracts -/

structure WorkspaceContractError where
  field : String
  message : String
deriving DecidableEq, Repr

def workspaceVersionFields : List (String × String) :=
  [("schedule_version_version", "schedule-version.v1"),
   ("workspace_query_version", "workspace-query.v1"),
   ("workspace_command_version", "workspace-command.v1"),
   ("schedule_version_comparison_version", "schedule-version-comparison.v1"),
   ("audit_event_version", "audit-event.v1"),
   ("publication_result_version", "publication-result.v1"),
   ("export_job_version", "export-job.v1"),
   ("export_job_version", "export-job.v2")]

def forbiddenSecretKeys : List String :=
  ["authorization", "authorization_header", "cookie", "credential", "credentials",
   "database_dsn", "password", "raw_sql", "secret", "stack_trace", "token"]

/-- `str.lower` as far as it can produce one of the forbidden keys: the Kelvin sign is the
one other character whose lower case is an ASCII letter. -/
def lowerKey (key : String) : String :=
  String.ofList (key.toList.map fun c => if c.toNat = 0x212A then 'k' else c.toLower)

mutual

/-- `_check_no_secret_keys` -/
def checkNoSecretKeys (field : String) : Json → Except WorkspaceContractError Unit
  | .obj members => checkNoSecretMembers field members
  | .arr items => checkNoSecretItems field 0 items
  | _ => .ok ()

def checkNoSecretMembers (field : String) :
    List (String × Json) → Except WorkspaceContractError Unit
  | [] => .ok ()
  | (key, nested) :: rest => do
    require (lowerKey key ∉ forbiddenSecretKeys)
      ⟨s!"{field}.{key}", "raw secret-bearing field is forbidden"⟩
    checkNoSecretKeys s!"{field}.{key}" nested
    checkNoSecretMembers field rest

def checkNoSecretItems (field : String) (index : Nat) :
    List Json → Except WorkspaceContractError Unit
  | [] => .ok ()
  | nested :: rest => do
    checkNoSecretKeys s!"{field}[{index}]" nested
    checkNoSecretItems field (index + 1) rest

end

def scheduleVersionStates : List Json :=
  [.str "DRAFT", .str "READY_FOR_REVIEW", .str "APPROVED", .str "REJECTED", .str "PUBLISHED",
   .str "SUPERSEDED"]

/-- `_require_equal` -/
def workspaceEqual (actual expected : Json) (field : String) :
    Except WorkspaceContractError Unit :=
  require (actual.pyEq expected = true) ⟨field, "does not match canonical projection"⟩

/-- `_mapping` -/
def workspaceMapping (value : Json) (field : String) : Except WorkspaceContractError Json := do
  require (value.isObj = true) ⟨field, "must be an object"⟩
  return value

/-- `_precheck_schedule` -/
def precheckSchedule (document : Json) : Except WorkspaceContractError Unit := do
  require (scheduleVersionStates.any (fun s => (document.get "state").pyEq s) = true)
    ⟨"state", "unknown ScheduleVersion state"⟩
  let content ← workspaceMapping (document.get "content") "content"
  workspaceEqual (document.get "content_fingerprint") (.str (contractFingerprint content))
    "content_fingerprint"
  let lineage ← workspaceMapping (document.get "lineage") "lineage"
  let validation ← workspaceMapping (document.get "validation") "validation"
  workspaceEqual (validation.get "validation_report") (lineage.get "validation_report")
    "validation.validation_report"

/-- `require_workspace_document` of a document whose `schedule_version_version` is
`schedule-version.v1`: another version beside it is refused. -/
def requireWorkspaceSchedule (document : Json) : Except WorkspaceContractError Unit := do
  require ((workspaceVersionFields.filter fun f => (document.get f.1).pyEq (.str f.2)).length = 1)
    ⟨"$", "exactly one supported workspace document version is required"⟩
  workspaceEqual (document.get "schema_set_version") (.str "2.6.0") "schema_set_version"
  workspaceEqual (document.get "canonicalization_version") (.str "canonical-json.v1")
    "canonicalization_version"
  precheckSchedule document
  checkNoSecretKeys "$" document

end PlantNexus.Domain
