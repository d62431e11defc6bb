import PlantNexus.Data.JsonUpdate
import PlantNexus.Domain.Types
import PlantNexus.Domain.WorkspaceContracts

/-! The documents of one publication.

A `PUBLISH` command names an approved schedule version and the version that is current; from
these two stored documents and the command come the published and the superseded document, the
publication result and the audit event. Identities are digests of the idempotency scope and key,
so that the same command always names the same publication. -/
namespace PlantNexus.Publishing
open Data Domain Time

/-! ### Failures -/

inductive PublicationFailure where
  | invalidRequest
  | authorizationDenied
  | productionAuthorityUnavailable
  | dataPlaneMismatch
  | sourceNotFound
  | previousCurrentNotFound
  | staleSource
  | invalidStateTransition
  | currentReferenceConflict
  | idempotencyConflict
  | persistenceFailed
deriving DecidableEq, Repr

structure PublicationError where
  reason : PublicationFailure
  field : String
  message : String
deriving DecidableEq, Repr

structure PublicationContext where
  actorRef : String
  authenticated : Bool
  resolvedCapabilities : List String
  scheduleVersionScope : List String
  authPolicyVersion : String
  productionBinding : Bool
  occurredAtUtc : String
  codeCommit : String
  parentAuditEventId : Option String
deriving DecidableEq, Repr

structure PublicationIdentity where
  requestFingerprint : String
  keyReference : String
  scheduleVersionId : String
  publicationId : String
  auditEventId : String
deriving DecidableEq, Repr

structure CurrentPublicationState where
  target : String
  scheduleVersionId : String
  contentFingerprint : String
  publicationId : String
deriving DecidableEq, Repr

structure PreparedPublication where
  source : Json
  previousCurrent : Option Json
  command : Json
  identity : PublicationIdentity
  context : PublicationContext

structure PublicationDocuments where
  publishedSchedule : Json
  supersededSchedule : Option Json
  publicationResult : Json
  auditEvent : Json

/-! ### Texts -/

/-- `_mapping` -/
def requireObject (value : Json) (field : String) : Except PublicationError Json := do
  require (value.isObj = true) ⟨.invalidRequest, field, "must be an object"⟩
  return value

/-- `_text` -/
def boundedText (value : Json) (field : String) (maximum : Nat) :
    Except PublicationError String := do
  let unbounded : PublicationError := ⟨.invalidRequest, field, "must be bounded non-empty text"⟩
  match value with
  | .str text =>
    require (text ≠ "" ∧ text.length ≤ maximum) unbounded
    require (text.toList.all (fun c => !(c.toNat < 32 || c.toNat == 127)) = true)
      ⟨.invalidRequest, field, "must not contain control characters"⟩
    return text
  | _ => .error unbounded

/-- A character under `re.IGNORECASE`: the lower case of a letter, where the dotless and the
dotted `i`, the long `s` and the Kelvin sign stand for ASCII letters. -/
def foldChar (c : Char) : Char :=
  if c.toNat = 0x130 ∨ c.toNat = 0x131 then 'i'
  else if c.toNat = 0x17F then 's'
  else if c.toNat = 0x212A then 'k'
  else c.toLower

/-- What follows a word that stands at the start of the characters. -/
def afterWord (word : String) (cs : List Char) : Option (List Char) :=
  if word.toList.isPrefixOf (cs.map foldChar) then some (cs.drop word.length) else none

/-- A word, then blanks, then one sign. -/
def wordThenSign (word : String) (sign : Char) (cs : List Char) : Bool :=
  (afterWord word cs).any fun rest => (rest.dropWhile isSpace).head? = some sign

/-- `_SECRET_TEXT` matches at the start of the characters. -/
def secretAt (cs : List Char) : Bool :=
  wordThenSign "authorization" ':' cs ||
  (afterWord "bearer" cs).any (fun rest => rest.head?.any isSpace) ||
  ["password", "token", "secret", "cookie"].any (fun word => wordThenSign word '=' cs) ||
  ["postgres://", "postgresql://", "redis://"].any fun word => (afterWord word cs).isSome

/-- `_reason` -/
def reasonText (value : Json) (field : String) : Except PublicationError String := do
  let text ← boundedText value field 512
  require (text.toList.tails.any secretAt = false)
    ⟨.invalidRequest, field, "must not contain credential-like material"⟩
  return text

/-- `_canonical_id` -/
def canonicalId (value : Json) (field : String) : Except PublicationError String := do
  let text ← boundedText value field 256
  require (text.toList.all (fun c => !isSpace c) = true)
    ⟨.invalidRequest, field, "must be a canonical identifier"⟩
  return text

def isHexDigit (c : Char) : Bool := c ∈ "0123456789abcdef".toList

/-- `_fingerprint` -/
def fingerprintText (value : Json) (field : String) : Except PublicationError String := do
  let text ← boundedText value field 71
  require ("sha256:".toList.isPrefixOf text.toList = true ∧ text.length = 71 ∧
      (text.toList.drop 7).all isHexDigit = true)
    ⟨.invalidRequest, field, "must be a sha256 fingerprint"⟩
  return text

/-- `_utc` -/
def utcText (value field : String) : Except PublicationError String := do
  let text ← boundedText (.str value) field 512
  let parsed ← (parseUtcInstant text).mapError fun _ => PublicationError.mk .invalidRequest field
    "must be a valid RFC 3339 UTC instant ending in Z"
  require (formatUtcInstant parsed = text)
    ⟨.invalidRequest, field, "must use canonical second-precision UTC"⟩
  return text

/-- `_require_fields` -/
def requireFields (value : Json) (expected : List String) (field : String) :
    Except PublicationError Unit :=
  require ((∀ key ∈ value.keys, key ∈ expected) ∧ ∀ key ∈ expected, key ∈ value.keys)
    ⟨.invalidRequest, field, "fields do not match the frozen publication contract"⟩

/-- A reference to a schedule version, as documents carry it. -/
structure VersionReference where
  scheduleVersionId : String
  state : String
  contentFingerprint : String
deriving DecidableEq, Repr

def VersionReference.toJson (r : VersionReference) : Json :=
  .obj
    [("schedule_version_id", .str r.scheduleVersionId), ("state", .str r.state),
     ("content_fingerprint", .str r.contentFingerprint)]

/-- `_version_reference` -/
def versionReference (value : Json) (field expectedState : String) :
    Except PublicationError VersionReference := do
  let reference ← requireObject value field
  requireFields reference ["schedule_version_id", "state", "content_fingerprint"] field
  let scheduleVersionId ← canonicalId (reference.get "schedule_version_id")
    s!"{field}.schedule_version_id"
  let state ← boundedText (reference.get "state") s!"{field}.state" 32
  let contentFingerprint ← fingerprintText (reference.get "content_fingerprint")
    s!"{field}.content_fingerprint"
  require (state = expectedState)
    ⟨.invalidStateTransition, s!"{field}.state", s!"must be {expectedState}"⟩
  return ⟨scheduleVersionId, state, contentFingerprint⟩

/-! ### Authorization -/

def applicationCapabilities : List String :=
  ["view", "edit", "lock", "approve", "reject", "publish", "export", "audit"]

/-- A character of `[A-Za-z0-9._:-]`. -/
def isKeyChar (c : Char) : Bool := c.isAlphanum || c ∈ ['.', '_', ':', '-']

/-- One text occurs in the other. -/
def occursIn (part text : String) : Bool :=
  text.toList.tails.any fun rest => part.toList.isPrefixOf rest

/-- `_validate_context` -/
def validateContext (context : PublicationContext) (dataPlane : String) :
    Except PublicationError Unit := do
  let actorRef ← boundedText (.str context.actorRef) "context.actor_ref" 256
  require ("actor:".toList.isPrefixOf actorRef.toList = true ∧ 7 ≤ actorRef.length ∧
      (actorRef.toList.drop 6).all isKeyChar = true)
    ⟨.invalidRequest, "context.actor_ref", "must be a sanitized actor reference"⟩
  let policy ← boundedText (.str context.authPolicyVersion) "context.auth_policy_version" 512
  let _ ← utcText context.occurredAtUtc "context.occurred_at_utc"
  require (context.codeCommit = "uncommitted" ∨
      (context.codeCommit.length = 40 ∧ context.codeCommit.toList.all isHexDigit = true))
    ⟨.invalidRequest, "context.code_commit", "must be a full Git commit or uncommitted"⟩
  match context.parentAuditEventId with
  | none => pure ()
  | some parent => let _ ← canonicalId (.str parent) "context.parent_audit_event_id"
  require (∀ capability ∈ context.resolvedCapabilities, capability ∈ applicationCapabilities)
    ⟨.invalidRequest, "context.resolved_capabilities",
      "contains an unknown application capability"⟩
  forEach (fun _ resourceId => do
    let _ ← canonicalId (.str resourceId) "context.schedule_version_scope")
    context.scheduleVersionScope
  require (dataPlane ∈ ["SIMULATION", "PRODUCTION"])
    ⟨.dataPlaneMismatch, "data_plane", "must be SIMULATION or PRODUCTION"⟩
  require (dataPlane = "SIMULATION" →
      ["simulation", "test"].any (fun marker => occursIn marker policy.toLower) = true)
    ⟨.authorizationDenied, "context.auth_policy_version",
      "Simulation publication requires an explicit test policy"⟩

def commandFields : List String :=
  ["workspace_command_version", "schema_set_version", "canonicalization_version", "command_id",
   "command_type", "required_capability", "idempotency_key", "idempotency_scope",
   "request_fingerprint", "source_id", "expected_state", "expected_content_fingerprint",
   "data_plane", "environment", "synthetic", "synthetic_provenance", "target", "reason",
   "correlation_id", "payload"]

/-- The environment of a command belongs to its data plane. -/
def checkEnvironment (command : Json) (dataPlane : String) : Except PublicationError Unit := do
  require (dataPlane = "SIMULATION" →
      command.get "environment" ∈ [Json.str "DEVELOPMENT", .str "TEST", .str "BENCHMARK"])
    ⟨.dataPlaneMismatch, "command.environment", "is not a Simulation environment"⟩
  require (dataPlane = "PRODUCTION" → command.get "environment" = .str "PRODUCTION" ∧
      command.get "synthetic" = .bool false)
    ⟨.dataPlaneMismatch, "command.environment/synthetic", "is not a Production carrier"⟩

/-- The synthetic flag of a command and the provenance that goes with it. -/
def checkSynthetic (command : Json) : Except PublicationError Unit :=
  match command.get "synthetic" with
  | .bool true => do
    let _ ← requireObject (command.get "synthetic_provenance") "command.synthetic_provenance"
  | .bool false =>
    require ("synthetic_provenance" ∉ command.keys)
      ⟨.invalidRequest, "command.synthetic_provenance",
        "is forbidden for non-synthetic publication"⟩
  | _ => .error ⟨.invalidRequest, "command.synthetic", "must be boolean"⟩

/-- The digest of an idempotency scope and key. -/
def keyReferenceOf (scope key : String) : String :=
  contractFingerprint (.obj [("idempotency_scope", .str scope), ("idempotency_key", .str key)])

/-- The identities that a key reference stands for; `removeprefix("sha256:")` leaves the digits. -/
def identityOf (requestFingerprint keyReference scheduleVersionId : String) :
    PublicationIdentity :=
  let suffix := String.ofList (keyReference.toList.drop 7)
  { requestFingerprint, keyReference, scheduleVersionId
    publicationId := s!"publication-{suffix}"
    auditEventId := s!"audit-event-publication-{suffix}" }

/-- `publication_identity` -/
def publicationIdentity (command : Json) (dataPlane : String) :
    Except PublicationError PublicationIdentity := do
  requireFields command
    (commandFields.filter fun field =>
      field ≠ "synthetic_provenance" ∨ field ∈ command.keys) "command"
  let _ ← (requireWorkspaceDocument command).mapError fun error =>
    PublicationError.mk .invalidRequest error.field "failed the frozen workspace command contract"
  require (command.get "command_type" = .str "PUBLISH")
    ⟨.invalidRequest, "command.command_type", "TASK-P3-08 accepts only PUBLISH"⟩
  require (command.get "required_capability" = .str "publish")
    ⟨.invalidRequest, "command.required_capability", "must be publish"⟩
  let sourceId ← canonicalId (command.get "source_id") "command.source_id"
  let _ ← canonicalId (command.get "command_id") "command.command_id"
  let _ ← canonicalId (command.get "correlation_id") "command.correlation_id"
  let _ ← reasonText (command.get "reason") "command.reason"
  let requestFingerprint ← fingerprintText (command.get "request_fingerprint")
    "command.request_fingerprint"
  let _ ← fingerprintText (command.get "expected_content_fingerprint")
    "command.expected_content_fingerprint"
  require (command.get "expected_state" = .str "APPROVED")
    ⟨.invalidStateTransition, "command.expected_state", "publication requires APPROVED"⟩
  require (command.get "data_plane" = .str dataPlane)
    ⟨.dataPlaneMismatch, "command.data_plane", "does not match the repository plane"⟩
  require (command.get "target" = .str "SIMULATION_INTERNAL")
    ⟨.dataPlaneMismatch, "command.target",
      "TASK-P3-08 accepts only the internal Simulation target"⟩
  checkSynthetic command
  checkEnvironment command dataPlane
  let key ← boundedText (command.get "idempotency_key") "command.idempotency_key" 128
  require (16 ≤ key.length ∧ key.toList.all isKeyChar = true)
    ⟨.invalidRequest, "command.idempotency_key",
      "does not match the frozen idempotency key contract"⟩
  let scope ← boundedText (command.get "idempotency_scope") "command.idempotency_scope" 512
  require (scope = s!"{dataPlane}/PUBLISH/{sourceId}/SIMULATION_INTERNAL")
    ⟨.invalidRequest, "command.idempotency_scope",
      "does not match the server-derived publication scope"⟩
  let payload ← requireObject (command.get "payload") "command.payload"
  requireFields payload ["previous_current_version"] "command.payload"
  if payload.get "previous_current_version" ≠ .null then
    let _ ← versionReference (payload.get "previous_current_version")
      "command.payload.previous_current_version" "PUBLISHED"
  return identityOf requestFingerprint (keyReferenceOf scope key) sourceId

/-- `require_publication_authorization` -/
def requirePublicationAuthorization (context : PublicationContext)
    (identity : PublicationIdentity) (command : Json) (dataPlane : String) :
    Except PublicationError Unit := do
  validateContext context dataPlane
  require (dataPlane ≠ "PRODUCTION")
    ⟨.productionAuthorityUnavailable, "data_plane",
      "Production publication authority and channel are not configured"⟩
  require (context.productionBinding = false)
    ⟨.authorizationDenied, "context.production_binding",
      "Simulation test policy cannot carry a Production binding"⟩
  require (command.get "synthetic" = .bool true)
    ⟨.authorizationDenied, "command.synthetic",
      "Simulation publication policy is limited to synthetic resources"⟩
  require (context.authenticated = true)
    ⟨.authorizationDenied, "context.authenticated", "an authenticated principal is required"⟩
  require ("publish" ∈ context.resolvedCapabilities)
    ⟨.authorizationDenied, "context.resolved_capabilities",
      "does not contain the server-required publish capability"⟩
  require (identity.scheduleVersionId ∈ context.scheduleVersionScope)
    ⟨.authorizationDenied, "context.schedule_version_scope",
      "does not include the requested ScheduleVersion"⟩

end PlantNexus.Publishing
