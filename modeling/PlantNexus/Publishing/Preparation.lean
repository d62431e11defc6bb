import PlantNexus.Publishing.Documents

/-! From an approved version to the documents that a publication commits.

`preparePublication` binds a command to the stored source and to the version that is current;
`buildPublicationDocuments` writes the published and the superseded schedule, which differ from
the stored ones in their mutable fields only, the result and the audit event. A replay rebuilds
the result from the audit event and the command alone. -/
namespace PlantNexus.Publishing
open Data Domain Time

section
variable (otherDocument : String → Json → Except P4ContractError Unit)

/-- `require_schedule_carrier`; a failure is the field that it names. -/
def requireScheduleCarrier (document : Json) : Except String String :=
  if document.get "schedule_version_version" = .str "schedule-version.v2" then
    (requireP4Document otherDocument document).mapError fun error => error.field
  else (requireWorkspaceDocument document).mapError fun error => error.field

/-- `_validate_schedule_document` -/
def validateScheduleDocument (document : Json) (failure : PublicationFailure) :
    Except PublicationError Unit := do
  let _ ← (requireScheduleCarrier otherDocument document).mapError fun field =>
    PublicationError.mk failure field
      "authoritative ScheduleVersion failed its frozen carrier contract"

/-! ### Preparation -/

/-- What the source of a publication has to be. -/
def checkSource (source command : Json) (identity : PublicationIdentity) :
    Except PublicationError Unit := do
  validateScheduleDocument otherDocument source .staleSource
  require (source.get "schedule_version_id" = .str identity.scheduleVersionId)
    ⟨.staleSource, "command.source_id", "does not match the authoritative ScheduleVersion"⟩
  require (source.get "state" = .str "APPROVED")
    ⟨.invalidStateTransition, "source.state", "only APPROVED can be published"⟩
  require ((source.get "content_fingerprint").pyEq
      (command.get "expected_content_fingerprint") = true)
    ⟨.staleSource, "command.expected_content_fingerprint",
      "does not match the authoritative ScheduleVersion"⟩
  forEach (fun _ field => require ((source.get field).pyEq (command.get field) = true)
    ⟨.dataPlaneMismatch, s!"command.{field}", "does not match the authoritative ScheduleVersion"⟩)
    ["data_plane", "environment", "synthetic"]
  require ((source.get "synthetic_provenance").pyEq (command.get "synthetic_provenance") = true)
    ⟨.dataPlaneMismatch, "command.synthetic_provenance",
      "does not match the authoritative ScheduleVersion"⟩
  let decision ← requireObject (source.get "decision") "source.decision"
  require (decision.get "decision" = .str "APPROVED" ∧ decision.get "capability" = .str "approve")
    ⟨.invalidStateTransition, "source.decision", "APPROVED source lacks approved decision evidence"⟩
  require (source.get "publication" = .null ∧ source.get "superseded_by" = .null)
    ⟨.invalidStateTransition, "source.publication/superseded_by",
      "APPROVED source must not contain publication state"⟩

/-- What the stored version has to be that a publication supersedes. -/
def checkPrevious (previous : Json) (current : CurrentPublicationState)
    (identity : PublicationIdentity) : Except PublicationError Unit := do
  validateScheduleDocument otherDocument previous .currentReferenceConflict
  require (previous.get "schedule_version_id" = .str current.scheduleVersionId)
    ⟨.currentReferenceConflict, "previous_current.schedule_version_id",
      "does not match the durable current reference"⟩
  require (previous.get "state" = .str "PUBLISHED")
    ⟨.currentReferenceConflict, "previous_current.state",
      "current ScheduleVersion must be PUBLISHED"⟩
  require (previous.get "content_fingerprint" = .str current.contentFingerprint)
    ⟨.currentReferenceConflict, "previous_current.content_fingerprint",
      "does not match the durable current reference"⟩
  let publication ← requireObject (previous.get "publication") "previous_current.publication"
  require (publication.get "publication_id" = .str current.publicationId ∧
      publication.get "target" = .str "SIMULATION_INTERNAL")
    ⟨.currentReferenceConflict, "previous_current.publication",
      "does not bind the durable current publication"⟩
  require (previous.get "superseded_by" = .null)
    ⟨.currentReferenceConflict, "previous_current.superseded_by",
      "current PUBLISHED ScheduleVersion is already superseded"⟩
  require (current.scheduleVersionId ≠ identity.scheduleVersionId)
    ⟨.invalidStateTransition, "source.schedule_version_id",
      "cannot publish the current ScheduleVersion again"⟩

/-- The previous version that the command names is the current one, and both are there or none. -/
def checkCurrent (command : Json) (previous : Option Json)
    (current : Option CurrentPublicationState) (identity : PublicationIdentity) :
    Except PublicationError Unit := do
  let payload ← requireObject (command.get "payload") "command.payload"
  let requested := payload.get "previous_current_version"
  match current with
  | none =>
    require (requested = .null ∧ previous = none)
      ⟨.currentReferenceConflict, "command.payload.previous_current_version",
        "must be null when no current publication exists"⟩
  | some current =>
    require (current.target = "SIMULATION_INTERNAL")
      ⟨.currentReferenceConflict, "current.target",
        "does not match the internal Simulation target"⟩
    let reference ← versionReference requested "command.payload.previous_current_version"
      "PUBLISHED"
    require (reference = ⟨current.scheduleVersionId, "PUBLISHED", current.contentFingerprint⟩)
      ⟨.currentReferenceConflict, "command.payload.previous_current_version",
        "does not match the durable current reference"⟩
    match previous with
    | none =>
      .error ⟨.previousCurrentNotFound, "current.schedule_version_id",
        "does not identify a durable current ScheduleVersion"⟩
    | some previous => checkPrevious otherDocument previous current identity

/-- `prepare_publication` -/
def preparePublication (source : Json) (previous : Option Json)
    (current : Option CurrentPublicationState) (command : Json) (context : PublicationContext)
    (dataPlane : String) : Except PublicationError PreparedPublication := do
  let identity ← publicationIdentity command dataPlane
  requirePublicationAuthorization context identity command dataPlane
  checkSource otherDocument source command identity
  checkCurrent otherDocument command previous current identity
  return ⟨source, previous, command, identity, context⟩

/-! What the checks leave known. -/

variable {otherDocument}

structure SourceChecked (source command : Json) (identity : PublicationIdentity) : Prop where
  id : source.get "schedule_version_id" = .str identity.scheduleVersionId
  state : source.get "state" = .str "APPROVED"
  fingerprint : (source.get "content_fingerprint").pyEq
    (command.get "expected_content_fingerprint") = true
  unsuperseded : source.get "superseded_by" = .null

theorem checkSource_ok {source command : Json} {identity : PublicationIdentity}
    (h : checkSource otherDocument source command identity = .ok ()) :
    SourceChecked source command identity := by
  simp only [checkSource, bind_eq_ok, exists_unit_iff, require_eq_ok] at h
  obtain ⟨-, hid, hstate, hfingerprint, -, -, _, -, -, -, hnone⟩ := h
  exact ⟨hid, hstate, hfingerprint, hnone⟩

/-- A version that is superseded is the one that the command names as current. -/
structure PreviousChecked (previous command : Json) (current : CurrentPublicationState)
    (identity : PublicationIdentity) : Prop where
  requested : versionReference ((command.get "payload").get "previous_current_version")
    "command.payload.previous_current_version" "PUBLISHED" =
      .ok ⟨current.scheduleVersionId, "PUBLISHED", current.contentFingerprint⟩
  id : previous.get "schedule_version_id" = .str current.scheduleVersionId
  state : previous.get "state" = .str "PUBLISHED"
  fingerprint : previous.get "content_fingerprint" = .str current.contentFingerprint
  distinct : current.scheduleVersionId ≠ identity.scheduleVersionId

theorem checkCurrent_ok {command : Json} {previous : Option Json}
    {current : Option CurrentPublicationState} {identity : PublicationIdentity}
    (h : checkCurrent otherDocument command previous current identity = .ok ()) :
    (current = none ∧ previous = none ∧
      (command.get "payload").get "previous_current_version" = .null) ∨
    ∃ state document, current = some state ∧ previous = some document ∧
      PreviousChecked document command state identity := by
  simp only [checkCurrent, requireObject, bind_eq_ok, exists_unit_iff, require_eq_ok, pure,
    Except.pure, Except.ok.injEq] at h
  obtain ⟨payload, ⟨-, rfl⟩, h⟩ := h
  cases current with
  | none =>
    obtain ⟨hnull, hnone⟩ := (require_eq_ok ..).mp h
    exact .inl ⟨rfl, hnone, hnull⟩
  | some state =>
    simp only [bind_eq_ok, exists_unit_iff, require_eq_ok] at h
    obtain ⟨-, reference, hreference, rfl, h⟩ := h
    cases previous with
    | none => cases h
    | some document =>
      simp only [checkPrevious, bind_eq_ok, exists_unit_iff, require_eq_ok] at h
      obtain ⟨-, hid, hstate, hfingerprint, _, -, -, -, hdistinct⟩ := h
      exact .inr ⟨state, document, rfl, rfl, hreference, hid, hstate, hfingerprint, hdistinct⟩

end

/-! ### Documents -/

/-- `_schedule_reference` -/
def scheduleReference (schedule : Json) (state : String) : Json :=
  .obj
    [("schedule_version_id", schedule.get "schedule_version_id"), ("state", .str state),
     ("content_fingerprint", schedule.get "content_fingerprint")]

def idempotencyReference (command : Json) (identity : PublicationIdentity) : Json :=
  .obj
    [("scope", command.get "idempotency_scope"), ("key_reference", .str identity.keyReference),
     ("request_fingerprint", .str identity.requestFingerprint)]

/-- The fields by which a published schedule differs from its approved source. -/
def publishedFields (identity : PublicationIdentity) (occurredAtUtc : String) :
    List (String × Json) :=
  [("state", .str "PUBLISHED"),
   ("publication", .obj
     [("publication_id", .str identity.publicationId), ("target", .str "SIMULATION_INTERNAL"),
      ("published_at_utc", .str occurredAtUtc), ("audit_event_id", .str identity.auditEventId)]),
   ("allowed_actions", .strings ["view", "export"])]

/-- The fields by which a superseded schedule differs from the published one. -/
def supersededFields (publishedReference : Json) : List (String × Json) :=
  [("state", .str "SUPERSEDED"), ("superseded_by", publishedReference),
   ("allowed_actions", .strings ["view"])]

/-- The references that a publication result carries. -/
structure ResultReferences where
  source : Json
  published : Json
  previous : Json
  superseded : Json
deriving DecidableEq

/-- The members of a publication result but for its fingerprint. -/
def resultMembers (command : Json) (identity : PublicationIdentity) (references : ResultReferences)
    (replayed : Bool) (publishedAtUtc : Json) : List (String × Json) :=
  [("publication_result_version", .str "publication-result.v1"),
   ("schema_set_version", .str "2.6.0"), ("canonicalization_version", .str "canonical-json.v1"),
   ("publication_id", .str identity.publicationId), ("data_plane", .str "SIMULATION"),
   ("environment", command.get "environment"), ("synthetic", .bool true),
   ("synthetic_provenance", command.get "synthetic_provenance"),
   ("target", .str "SIMULATION_INTERNAL"), ("source_approved_version", references.source),
   ("published_version", references.published), ("previous_current_version", references.previous),
   ("superseded_version", references.superseded),
   ("idempotency_reference", idempotencyReference command identity), ("replayed", .bool replayed),
   ("published_at_utc", publishedAtUtc), ("audit_event_id", .str identity.auditEventId)]

/-- A publication result; the placeholder that the fingerprint replaces is not part of it. -/
def publicationResult (command : Json) (identity : PublicationIdentity)
    (references : ResultReferences) (replayed : Bool) (publishedAtUtc : Json) : Json :=
  let members := resultMembers command identity references replayed publishedAtUtc
  .obj (members ++ [("result_fingerprint", .str (publicationResultFingerprint (.obj members)))])

/-- What tells the audit event of a success from that of a denial. -/
structure AuditOutcome where
  lineage : Json
  beforeState : Json
  afterState : Json
  sourceVersion : Json
  newVersion : Json
  result : Json

/-- `_audit_base`, with the fields that the callers set afterwards. -/
def auditEvent (command : Json) (context : PublicationContext) (identity : PublicationIdentity)
    (target : String) (outcome : AuditOutcome) : Json :=
  .obj
    ([("audit_event_version", .str "audit-event.v1"), ("schema_set_version", .str "2.6.0"),
      ("canonicalization_version", .str "canonical-json.v1"),
      ("audit_event_id", .str identity.auditEventId),
      ("occurred_at_utc", .str context.occurredAtUtc), ("actor_ref", .str context.actorRef),
      ("resolved_capability", .str "publish"),
      ("auth_policy_version", .str context.authPolicyVersion),
      ("environment", command.get "environment"), ("data_plane", command.get "data_plane"),
      ("synthetic", command.get "synthetic"), ("action", .str "PUBLISH"),
      ("aggregate_type", .str "SCHEDULE_VERSION"),
      ("aggregate_id", .str identity.scheduleVersionId), ("target", .str target),
      ("intent_type", .str "PUBLICATION"), ("reason", command.get "reason"),
      ("request_fingerprint", .str identity.requestFingerprint),
      ("idempotency_reference", idempotencyReference command identity),
      ("lineage", outcome.lineage), ("before_state", outcome.beforeState),
      ("after_state", outcome.afterState), ("source_version", outcome.sourceVersion),
      ("new_version", outcome.newVersion), ("export_job_id", .null),
      ("result", outcome.result), ("correlation_id", command.get "correlation_id"),
      ("parent_audit_event_id", Json.ofOption .str context.parentAuditEventId),
      ("code_commit", .str context.codeCommit)] ++
     if command.get "synthetic" = .bool true then
       [("synthetic_provenance", command.get "synthetic_provenance")]
     else [])

/-- The outcome of a committed publication. -/
def succeededOutcome (lineage source published : Json) : AuditOutcome :=
  { lineage
    beforeState := .str "APPROVED"
    afterState := .str "PUBLISHED"
    sourceVersion := source
    newVersion := published
    result := .obj
      [("outcome", .str "SUCCEEDED"), ("replayed", .bool false), ("retryable", .bool false),
       ("error", .null)] }

def deniedOutcome : AuditOutcome :=
  { lineage := .null
    beforeState := .null
    afterState := .null
    sourceVersion := .null
    newVersion := .null
    result := .obj
      [("outcome", .str "DENIED"), ("replayed", .bool false), ("retryable", .bool false),
       ("error", .obj
         [("error_namespace", .str "WORKSPACE_CONTROL"),
          ("reason", .str "AUTHORIZATION_DENIED"),
          ("message", .str "Publication authorization was denied.")])] }

/-- The documents that a prepared publication stands for. -/
def PreparedPublication.documents (p : PreparedPublication) : PublicationDocuments :=
  let publishedReference := scheduleReference p.source "PUBLISHED"
  let sourceReference := scheduleReference p.source "APPROVED"
  { publishedSchedule := p.source.update (publishedFields p.identity p.context.occurredAtUtc)
    supersededSchedule := p.previousCurrent.map fun previous =>
      previous.update (supersededFields publishedReference)
    publicationResult := publicationResult p.command p.identity
      { source := sourceReference
        published := publishedReference
        previous := Json.ofOption (scheduleReference · "PUBLISHED") p.previousCurrent
        superseded := Json.ofOption (scheduleReference · "SUPERSEDED") p.previousCurrent }
      false (.str p.context.occurredAtUtc)
    auditEvent := auditEvent p.command p.context p.identity "SIMULATION_INTERNAL"
      (succeededOutcome (p.source.get "lineage") sourceReference publishedReference) }

/-! What the documents say. -/

section
variable {command : Json} {identity : PublicationIdentity} {references : ResultReferences}
  {replayed : Bool} {publishedAtUtc : Json}

theorem publicationResult_published :
    (publicationResult command identity references replayed publishedAtUtc).get
      "published_version" = references.published := rfl

theorem publicationResult_superseded :
    (publicationResult command identity references replayed publishedAtUtc).get
      "superseded_version" = references.superseded := rfl

theorem publicationResult_publicationId :
    (publicationResult command identity references replayed publishedAtUtc).get
      "publication_id" = .str identity.publicationId := rfl

theorem scheduleReference_id (schedule : Json) (state : String) :
    (scheduleReference schedule state).get "schedule_version_id" =
      schedule.get "schedule_version_id" := rfl

theorem scheduleReference_fingerprint (schedule : Json) (state : String) :
    (scheduleReference schedule state).get "content_fingerprint" =
      schedule.get "content_fingerprint" := rfl

end

theorem isObj_of_get {document : Json} {key text : String} (h : document.get key = .str text) :
    document.isObj = true := by
  cases document with
  | obj members => rfl
  | _ => cases h

section
variable (otherDocument : String → Json → Except P4ContractError Unit)

/-- The four carriers are well formed; a failure is the field that it names. -/
def PublicationDocuments.check (documents : PublicationDocuments) : Except String Unit := do
  let _ ← requireScheduleCarrier otherDocument documents.publishedSchedule
  match documents.supersededSchedule with
  | none => pure ()
  | some superseded => let _ ← requireScheduleCarrier otherDocument superseded
  let _ ← (requireWorkspaceDocument documents.publicationResult).mapError (·.field)
  let _ ← (requireWorkspaceDocument documents.auditEvent).mapError (·.field)

/-- `build_publication_documents` -/
def buildPublicationDocuments (p : PreparedPublication) :
    Except PublicationError PublicationDocuments := do
  let _ ← requireObject (p.source.get "lineage") "source.lineage"
  (p.documents.check otherDocument).mapError fun field =>
    PublicationError.mk .invalidRequest field
      "constructed publication failed its frozen carrier contract"
  return p.documents

end

/-- `build_publication_replay_result` -/
def buildPublicationReplayResult (command : Json) (identity : PublicationIdentity)
    (audit : Json) : Except PublicationError Json := do
  let source ← versionReference (audit.get "source_version") "audit.source_version" "APPROVED"
  let published ← versionReference (audit.get "new_version") "audit.new_version" "PUBLISHED"
  let payload ← requireObject (command.get "payload") "command.payload"
  let previous ←
    if payload.get "previous_current_version" = .null then pure none
    else do
      let reference ← versionReference (payload.get "previous_current_version")
        "command.payload.previous_current_version" "PUBLISHED"
      pure (some reference)
  let result := publicationResult command identity
    { source := source.toJson
      published := published.toJson
      previous := Json.ofOption VersionReference.toJson previous
      superseded := Json.ofOption VersionReference.toJson
        (previous.map fun reference => { reference with state := "SUPERSEDED" }) }
    true (audit.get "occurred_at_utc")
  let _ ← (requireWorkspaceDocument result).mapError fun error =>
    PublicationError.mk .persistenceFailed error.field
      "stored publication evidence cannot form a replay result"
  return result

/-- `build_publication_authorization_denial_audit` -/
def buildPublicationAuthorizationDenialAudit (command : Json) (context : PublicationContext)
    (identity : PublicationIdentity) (dataPlane : String) : Except PublicationError Json := do
  validateContext context dataPlane
  let event := auditEvent command context identity
    (if dataPlane = "PRODUCTION" then "WORKSPACE_INTERNAL" else "SIMULATION_INTERNAL")
    deniedOutcome
  let _ ← (requireWorkspaceDocument event).mapError fun error =>
    PublicationError.mk .invalidRequest error.field
      "constructed denial audit failed its frozen carrier contract"
  return event

end PlantNexus.Publishing
