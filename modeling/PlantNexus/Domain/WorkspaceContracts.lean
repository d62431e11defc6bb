import PlantNexus.Domain.CarrierContracts

/-! Prechecks of the workspace documents: queries, commands, comparisons, audit events,
publication results and export jobs.

`requireWorkspaceDocument` finds the one version that a document names, checks the fingerprint
that the version prescribes, and refuses secret-bearing keys at any depth. The precheck of a
schedule version is the one that freeze projection uses. -/
namespace PlantNexus.Domain
open Data

/-! ### Fingerprints -/

def queryFingerprintFields : List String :=
  ["workspace_query_version", "schema_set_version", "canonicalization_version", "query_kind",
   "data_plane", "environment", "synthetic", "synthetic_provenance", "resource", "view",
   "schedule_version_precondition", "sort", "filters", "page"]

def commandFingerprintFields : List String :=
  ["workspace_command_version", "schema_set_version", "canonicalization_version", "command_type",
   "source_id", "expected_state", "expected_content_fingerprint", "data_plane", "environment",
   "synthetic", "synthetic_provenance", "target", "reason", "payload"]

/-- `_projection`: the named fields that are there; all but one have to be. -/
def projection (document : Json) (fields : List String) : Except WorkspaceContractError Json :=
  match fields.find? fun f => f ∉ document.keys ∧ f ≠ "synthetic_provenance" with
  | some missing => .error ⟨missing, "field is required by fingerprint projection"⟩
  | none => .ok (.obj ((fields.filter (· ∈ document.keys)).map fun f => (f, document.get f)))

/-- The document without some of its fields. -/
def without (document : Json) (fields : List String) : Json :=
  match document with
  | .obj members => .obj (members.filter fun member => member.1 ∉ fields)
  | other => other

def workspaceQueryFingerprint (document : Json) : Except WorkspaceContractError String := do
  return contractFingerprint (← projection document queryFingerprintFields)

def workspaceCommandFingerprint (document : Json) : Except WorkspaceContractError String := do
  return contractFingerprint (← projection document commandFingerprintFields)

def comparisonFingerprint (document : Json) : String :=
  contractFingerprint
    (without document ["comparison_id", "comparison_fingerprint", "generated_at_utc"])

def publicationResultFingerprint (document : Json) : String :=
  contractFingerprint (without document ["result_fingerprint"])

def exportJobFingerprint (document : Json) : String :=
  contractFingerprint (without document ["job_fingerprint"])

/-! ### Prechecks -/

/-- `workspace_document_version` -/
def workspaceDocumentVersion (document : Json) : Except WorkspaceContractError String :=
  match workspaceVersionFields.filter fun f => (document.get f.1).pyEq (.str f.2) with
  | [found] => .ok found.2
  | _ => .error ⟨"$", "exactly one supported workspace document version is required"⟩

def documentSchemaSetVersion (version : String) : String :=
  if version = "export-job.v2" then "2.7.0" else "2.6.0"

/-- `_text` -/
def workspaceText (value : Json) (field : String) : Except WorkspaceContractError String := do
  match value with
  | .str text =>
    require (text ≠ "") ⟨field, "must be a non-empty string"⟩
    return text
  | _ => .error ⟨field, "must be a non-empty string"⟩

def commandCapabilities : List (String × String) :=
  [("MOVE_OPERATION", "edit"), ("ASSIGN_RESOURCE", "edit"), ("SET_LOCK", "lock"),
   ("REMOVE_LOCK", "lock"), ("SUBMIT_FOR_REVIEW", "edit"), ("APPROVE", "approve"),
   ("REJECT", "reject"), ("PUBLISH", "publish"), ("REQUEST_EXPORT", "export"),
   ("RETRY_EXPORT", "export"), ("CANCEL_EXPORT", "export")]

/-- The authority that a client body may not claim, in the order of its names. -/
def forbiddenAuthorityFields : List String :=
  ["actor", "actor_ref", "capabilities", "principal", "role"]

def precheckQuery (document : Json) : Except WorkspaceContractError Unit := do
  let fingerprint ← workspaceQueryFingerprint document
  workspaceEqual (document.get "query_fingerprint") (.str fingerprint) "query_fingerprint"

def precheckCommand (document : Json) : Except WorkspaceContractError Unit := do
  let commandType ← workspaceText (document.get "command_type") "command_type"
  match commandCapabilities.find? (·.1 = commandType) with
  | none => .error ⟨"command_type", "unsupported P3 command"⟩
  | some capability =>
    workspaceEqual (document.get "required_capability") (.str capability.2) "required_capability"
    let fingerprint ← workspaceCommandFingerprint document
    workspaceEqual (document.get "request_fingerprint") (.str fingerprint) "request_fingerprint"
    match forbiddenAuthorityFields.find? (· ∈ document.keys) with
    | some field => .error ⟨field, "client body must not claim authorization authority"⟩
    | none => .ok ()

def precheckComparison (document : Json) : Except WorkspaceContractError Unit := do
  let base ← workspaceMapping (document.get "base_version") "base_version"
  let compared ← workspaceMapping (document.get "compared_version") "compared_version"
  require ((base.get "schedule_version_id").pyEq (compared.get "schedule_version_id") = false)
    ⟨"compared_version.schedule_version_id", "must differ from base version"⟩
  workspaceEqual (document.get "comparison_fingerprint") (.str (comparisonFingerprint document))
    "comparison_fingerprint"
  let summary ← workspaceMapping (document.get "summary") "summary"
  match document.get "operation_deltas" with
  | .arr deltas =>
    let changed := deltas.countP fun delta =>
      delta.isObj && !(delta.get "change_kind").pyEq (.str "UNCHANGED")
    workspaceEqual (summary.get "changed_operation_count") (.int changed)
      "summary.changed_operation_count"
  | _ => .error ⟨"operation_deltas", "must be an array"⟩

def precheckAudit (document : Json) : Except WorkspaceContractError Unit := do
  let requestFingerprint := document.get "request_fingerprint"
  let idempotency := document.get "idempotency_reference"
  if requestFingerprint ≠ .null ∧ idempotency ≠ .null then
    let reference ← workspaceMapping idempotency "idempotency_reference"
    workspaceEqual (reference.get "request_fingerprint") requestFingerprint
      "idempotency_reference.request_fingerprint"
  checkNoSecretKeys "$" document

/-- The two fields by which a version reference is compared. -/
def checkReference (name : String) (actual expected : Json) :
    Except WorkspaceContractError Unit := do
  workspaceEqual (actual.get "schedule_version_id") (expected.get "schedule_version_id")
    (name ++ ".schedule_version_id")
  workspaceEqual (actual.get "content_fingerprint") (expected.get "content_fingerprint")
    (name ++ ".content_fingerprint")

def precheckPublication (document : Json) : Except WorkspaceContractError Unit := do
  let source ← workspaceMapping (document.get "source_approved_version") "source_approved_version"
  let published ← workspaceMapping (document.get "published_version") "published_version"
  checkReference "published_version" published source
  let previous := document.get "previous_current_version"
  let superseded := document.get "superseded_version"
  require (previous = .null ↔ superseded = .null)
    ⟨"superseded_version", "must be present exactly when previous current exists"⟩
  if previous ≠ .null ∧ superseded ≠ .null then
    let previousRef ← workspaceMapping previous "previous_current_version"
    let supersededRef ← workspaceMapping superseded "superseded_version"
    checkReference "superseded_version" supersededRef previousRef
  workspaceEqual (document.get "result_fingerprint") (.str (publicationResultFingerprint document))
    "result_fingerprint"

def exportJobStates : List Json :=
  [.str "CREATED", .str "EXPORTING", .str "EXPORTED", .str "EXPORT_FAILED", .str "CANCELLED"]

def precheckExportJob (document : Json) : Except WorkspaceContractError Unit := do
  require (exportJobStates.any (fun s => (document.get "state").pyEq s) = true)
    ⟨"state", "unknown ExportJob state"⟩
  let schedule ← workspaceMapping (document.get "schedule_version") "schedule_version"
  workspaceEqual (schedule.get "state") (.str "PUBLISHED") "schedule_version.state"
  workspaceEqual (document.get "job_fingerprint") (.str (exportJobFingerprint document))
    "job_fingerprint"

/-- The precheck that a version prescribes. -/
def precheck (version : String) (document : Json) : Except WorkspaceContractError Unit :=
  if version = "schedule-version.v1" then precheckSchedule document
  else if version = "workspace-query.v1" then precheckQuery document
  else if version = "workspace-command.v1" then precheckCommand document
  else if version = "schedule-version-comparison.v1" then precheckComparison document
  else if version = "audit-event.v1" then precheckAudit document
  else if version = "publication-result.v1" then precheckPublication document
  else precheckExportJob document

/-- `require_workspace_document` -/
def requireWorkspaceDocument (document : Json) : Except WorkspaceContractError String := do
  let version ← workspaceDocumentVersion document
  workspaceEqual (document.get "schema_set_version") (.str (documentSchemaSetVersion version))
    "schema_set_version"
  workspaceEqual (document.get "canonicalization_version") (.str "canonical-json.v1")
    "canonicalization_version"
  precheck version document
  checkNoSecretKeys "$" document
  return version

end PlantNexus.Domain
