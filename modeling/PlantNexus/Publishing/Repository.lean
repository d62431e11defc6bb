import PlantNexus.Data.Lists
import PlantNexus.Domain.Persistence
import PlantNexus.Publishing.Preparation

/-! The tables of schedule versions, audit events, publication results and the current reference.

A schedule version is inserted once and then moves by compare-and-swap on its state and its state
revision, with the same immutable fingerprint; audit events and results are appended once and an
exact repetition changes nothing; the current reference moves by compare-and-swap on its whole
value. The columns of a row are fields of its creation document, and the state column is the one
field of the latest document that a transition rewrites. -/
namespace PlantNexus.Publishing
open Data Domain Time

/-! ### Carriers -/

/-- `_REQUIRED_TOP_LEVEL_FIELDS` -/
def requiredTopLevelFields (version : String) : List String :=
  if version = "schedule-version.v1" then
    ["schedule_version_version", "schema_set_version", "canonicalization_version",
     "schedule_version_id", "revision", "state", "data_plane", "environment", "synthetic",
     "parent_schedule_version", "source_kind", "lineage", "content", "content_fingerprint",
     "validation", "decision", "publication", "superseded_by", "allowed_actions",
     "created_at_utc", "created_by_actor_ref"]
  else if version = "audit-event.v1" then
    ["audit_event_version", "schema_set_version", "canonicalization_version", "audit_event_id",
     "occurred_at_utc", "actor_ref", "resolved_capability", "auth_policy_version", "environment",
     "data_plane", "synthetic", "action", "aggregate_type", "aggregate_id", "target",
     "intent_type", "reason", "request_fingerprint", "idempotency_reference", "lineage",
     "before_state", "after_state", "source_version", "new_version", "export_job_id", "result",
     "correlation_id", "parent_audit_event_id", "code_commit"]
  else
    ["publication_result_version", "schema_set_version", "canonicalization_version",
     "publication_id", "data_plane", "environment", "synthetic", "synthetic_provenance", "target",
     "source_approved_version", "published_version", "previous_current_version",
     "superseded_version", "idempotency_reference", "replayed", "published_at_utc",
     "audit_event_id", "result_fingerprint"]

/-- The first of some names in the order of their characters, which an error names. -/
def firstName (names : List String) : String :=
  (names.mergeSort fun a b => decide (a ≤ b)).headD ""

/-- What the Production plane asks of a carrier. -/
def checkProductionCarrier (document : Json) (version : String) : Except PersistenceError Unit := do
  require (document.get "environment" = .str "PRODUCTION" ∧ document.get "synthetic" = .bool false)
    ⟨.dataPlaneMismatch, "environment/synthetic",
      "Production carrier environment/provenance is invalid"⟩
  require (version = "schedule-version.v1" →
      document.get "state" ∈ [Json.str "DRAFT", .str "READY_FOR_REVIEW", .str "APPROVED",
        .str "REJECTED"] ∧
      document.get "publication" = .null ∧ document.get "superseded_by" = .null)
    ⟨.dataPlaneMismatch, "state/publication/superseded_by",
      "Production ScheduleVersion cannot carry publication state"⟩
  require (version = "audit-event.v1" → document.get "target" = .str "WORKSPACE_INTERNAL")
    ⟨.dataPlaneMismatch, "target", "Production AuditEvent target is invalid"⟩

/-- `_require_top_level_shape` -/
def requireTopLevelShape (document : Json) (version : String) : Except PersistenceError Unit := do
  let required := requiredTopLevelFields version
  let optional := if version = "publication-result.v1" then [] else ["synthetic_provenance"]
  let missing := required.filter (· ∉ document.keys)
  require (missing = [])
    ⟨.invalidDocument, firstName missing, "required carrier field is missing"⟩
  let unknown := document.keys.filter (· ∉ required ++ optional)
  require (unknown = [])
    ⟨.invalidDocument, firstName unknown, "unknown carrier field is forbidden"⟩
  require (document.get "synthetic" = .bool true → "synthetic_provenance" ∈ document.keys)
    ⟨.invalidDocument, "synthetic_provenance", "synthetic carrier requires explicit provenance"⟩
  require (document.get "synthetic" = .bool false → "synthetic_provenance" ∉ document.keys)
    ⟨.invalidDocument, "synthetic_provenance",
      "non-synthetic carrier cannot include synthetic provenance"⟩
  if document.get "data_plane" = .str "PRODUCTION" then checkProductionCarrier document version
  else
    require (document.get "environment" ∈ [Json.str "DEVELOPMENT", .str "TEST", .str "BENCHMARK"])
      ⟨.dataPlaneMismatch, "environment", "Simulation carrier environment is invalid"⟩
  require (version = "publication-result.v1" →
      document.get "target" = .str "SIMULATION_INTERNAL" ∧ document.get "synthetic" = .bool true)
    ⟨.dataPlaneMismatch, "target/synthetic", "internal Simulation carrier boundary is invalid"⟩

/-- `canonical_document` of a repository of the Simulation plane -/
def canonicalDocument (document : Json) (expectedVersion : String) :
    Except PersistenceError Unit := do
  let version ← (requireWorkspaceDocument document).mapError fun error =>
    PersistenceError.mk .invalidDocument error.field "workspace carrier failed integrity precheck"
  require (version = expectedVersion) ⟨.invalidDocument, "$", s!"expected {expectedVersion}"⟩
  requireTopLevelShape document expectedVersion
  require (document.get "data_plane" = .str "SIMULATION")
    ⟨.dataPlaneMismatch, "data_plane", "document does not belong to this repository plane"⟩

/-! ### Schedule versions -/

def mutableStateFields : List String :=
  ["state", "decision", "publication", "superseded_by", "allowed_actions"]

/-- `immutable_schedule_fingerprint` -/
def immutableScheduleFingerprint (document : Json) : String :=
  contractFingerprint (without document mutableStateFields)

/-- `_SCHEDULE_VERSION_TRANSITIONS` -/
def scheduleVersionTransitions : List (String × String) :=
  [("DRAFT", "READY_FOR_REVIEW"), ("READY_FOR_REVIEW", "APPROVED"),
   ("READY_FOR_REVIEW", "REJECTED"), ("APPROVED", "PUBLISHED"), ("PUBLISHED", "SUPERSEDED")]

structure ScheduleRow where
  creation : Json
  document : Json
  stateRevision : Nat
deriving DecidableEq

def ScheduleRow.id (row : ScheduleRow) : Json := row.creation.get "schedule_version_id"

def ScheduleRow.state (row : ScheduleRow) : Json := row.document.get "state"

def ScheduleRow.contentFingerprint (row : ScheduleRow) : Json :=
  row.creation.get "content_fingerprint"

def findSchedule (schedules : List ScheduleRow) (id : Json) : Option ScheduleRow :=
  schedules.find? fun row => row.id = id

structure StoredScheduleVersion where
  document : Json
  stateRevision : Nat
deriving DecidableEq

section
variable (otherDocument : String → Json → Except P4ContractError Unit)

/-- The carrier check of a document by the version that it names. -/
def checkScheduleCarrier (document : Json) : Except PersistenceError Unit := do
  if document.get "schedule_version_version" = .str "schedule-version.v2" then
    let version ← (requireP4Document otherDocument document).mapError fun _ =>
      PersistenceError.mk .invalidDocument "document"
        "P4 carrier failed semantic integrity precheck"
    require (version = "schedule-version.v2")
      ⟨.invalidDocument, "document_version",
        "P4 carrier version is not accepted by this repository"⟩
    require (document.get "data_plane" = .str "SIMULATION")
      ⟨.dataPlaneMismatch, "data_plane", "document does not belong to this repository plane"⟩
  else canonicalDocument document "schedule-version.v1"

/-- `_candidate` of the schedule repository -/
def checkScheduleCandidate (document : Json) : Except PersistenceError Unit := do
  checkScheduleCarrier otherDocument document
  requireText (document.get "schedule_version_id") "schedule_version_id"
  let _ ← requireInteger (document.get "revision") "revision" 1
  forEach (fun _ field => requireText (document.get field) field)
    ["state", "environment", "content_fingerprint", "created_at_utc"]
  require (document.get "synthetic" = .bool true ∨ document.get "synthetic" = .bool false)
    ⟨.invalidDocument, "synthetic", "must be boolean"⟩
  let _ ← requireMapping (document.get "content") "content"

/-- `_load` of the schedule repository -/
def loadSchedule (row : ScheduleRow) : Except PersistenceError Json := do
  (checkScheduleCarrier otherDocument row.document).mapError fun _ =>
    PersistenceError.mk .persistenceFailed "stored.document_json"
      "stored document failed integrity verification"
  require (["schedule_version_id", "revision", "content_fingerprint", "created_at_utc"].all
      (fun field => (row.document.get field).pyEq (row.creation.get field)) = true)
    ⟨.persistenceFailed, "stored.schedule_version",
      "stored ScheduleVersion metadata failed integrity verification"⟩
  require (immutableScheduleFingerprint row.document = immutableScheduleFingerprint row.creation)
    ⟨.persistenceFailed, "stored.immutable_fingerprint",
      "stored ScheduleVersion content failed integrity verification"⟩
  return row.document

/-- `get_record` -/
def getRecord (schedules : List ScheduleRow) (id : Json) :
    Except PersistenceError (Option StoredScheduleVersion) :=
  match findSchedule schedules id with
  | none => .ok none
  | some row => do
    let document ← loadSchedule otherDocument row
    return some ⟨document, row.stateRevision⟩

/-- `_assert_parent` -/
def assertParent (schedules : List ScheduleRow) (candidate : Json) :
    Except PersistenceError Unit := do
  let parent := candidate.get "parent_schedule_version"
  if parent ≠ .null then
    let parent ← requireMapping parent "parent_schedule_version"
    requireText (parent.get "schedule_version_id") "parent_schedule_version.schedule_version_id"
    match findSchedule schedules (parent.get "schedule_version_id") with
    | none =>
      .error ⟨.identityConflict, "parent_schedule_version.schedule_version_id",
        "parent ScheduleVersion is absent from this plane"⟩
    | some row =>
      let stored ← loadSchedule otherDocument row
      forEach (fun _ field => require ((stored.get field).pyEq (parent.get field) = true)
        ⟨.identityConflict, s!"parent_schedule_version.{field}",
          "parent reference does not match stored ScheduleVersion"⟩)
        ["state", "content_fingerprint"]

/-- `put_in_transaction`: the rows after it and whether it was a repetition. -/
def putSchedule (schedules : List ScheduleRow) (document : Json) :
    Except PersistenceError (List ScheduleRow × Bool) := do
  checkScheduleCandidate otherDocument document
  match findSchedule schedules (document.get "schedule_version_id") with
  | some row =>
    require (row.creation = document)
      ⟨.identityConflict, "schedule_version_id",
        "ScheduleVersion identity is bound to different creation bytes"⟩
    let _ ← loadSchedule otherDocument row
    return (schedules, true)
  | none =>
    assertParent otherDocument schedules document
    return (schedules ++ [⟨document, document, 0⟩], false)

/-- A compare-and-swap of a schedule row. -/
structure ScheduleTransition where
  scheduleVersionId : Json
  expectedState : String
  expectedStateRevision : Nat
  candidate : Json

/-- A row under `UPDATE … WHERE schedule_version_id = …`. -/
def ScheduleTransition.apply (w : ScheduleTransition) (row : ScheduleRow) : ScheduleRow :=
  if row.id = w.scheduleVersionId then
    { row with document := w.candidate, stateRevision := w.expectedStateRevision + 1 }
  else row

/-- `transition_in_transaction` -/
def transitionSchedule (schedules : List ScheduleRow) (w : ScheduleTransition) :
    Except PersistenceError (List ScheduleRow) := do
  requireText w.scheduleVersionId "schedule_version_id"
  checkScheduleCandidate otherDocument w.candidate
  require (w.candidate.get "schedule_version_id" = w.scheduleVersionId)
    ⟨.identityConflict, "schedule_version_id",
      "CAS candidate identity differs from requested identity"⟩
  match findSchedule schedules w.scheduleVersionId with
  | none =>
    .error ⟨.stateConflict, "schedule_version_id",
      "ScheduleVersion does not exist in this plane"⟩
  | some row =>
    let current ← loadSchedule otherDocument row
    require (row.state = .str w.expectedState ∧ row.stateRevision = w.expectedStateRevision)
      ⟨.stateConflict, "expected_state/expected_state_revision",
        "ScheduleVersion compare-and-set precondition failed"⟩
    require (((current.get "state").text, (w.candidate.get "state").text) ∈
          scheduleVersionTransitions ∧
        immutableScheduleFingerprint current = immutableScheduleFingerprint w.candidate)
      ⟨.stateConflict, "state/content",
        "ScheduleVersion transition or immutable content is invalid"⟩
    return schedules.map w.apply

/-- What a compare-and-swap of a schedule row finds. -/
structure Transitioned (schedules : List ScheduleRow) (w : ScheduleTransition)
    (row : ScheduleRow) : Prop where
  found : findSchedule schedules w.scheduleVersionId = some row
  loaded : loadSchedule otherDocument row = .ok row.document
  checked : checkScheduleCandidate otherDocument w.candidate = .ok ()
  id : w.candidate.get "schedule_version_id" = w.scheduleVersionId
  state : row.state = .str w.expectedState
  revision : row.stateRevision = w.expectedStateRevision
  legal : (w.expectedState, (w.candidate.get "state").text) ∈ scheduleVersionTransitions
  immutable : immutableScheduleFingerprint row.document = immutableScheduleFingerprint w.candidate

variable {otherDocument}

theorem loadSchedule_document {row : ScheduleRow} {document : Json}
    (h : loadSchedule otherDocument row = .ok document) : document = row.document := by
  simp only [loadSchedule, bind_eq_ok, exists_unit_iff, require_eq_ok] at h
  obtain ⟨-, -, -, h⟩ := h
  exact (Except.ok.inj h).symm

theorem transitionSchedule_ok {schedules schedules' : List ScheduleRow} {w : ScheduleTransition}
    (h : transitionSchedule otherDocument schedules w = .ok schedules') :
    ∃ row, Transitioned otherDocument schedules w row ∧
      schedules' = schedules.map w.apply := by
  simp only [transitionSchedule, bind_eq_ok, exists_unit_iff, require_eq_ok] at h
  obtain ⟨-, hchecked, hid, h⟩ := h
  cases hfound : findSchedule schedules w.scheduleVersionId with
  | none =>
    rw [hfound] at h
    cases h
  | some row =>
    simp only [hfound, bind_eq_ok, exists_unit_iff, require_eq_ok] at h
    obtain ⟨current, hloaded, ⟨hstate, hrevision⟩, ⟨hlegal, himmutable⟩, h⟩ := h
    obtain rfl := loadSchedule_document hloaded
    rw [← ScheduleRow.state, hstate] at hlegal
    exact ⟨row, ⟨hfound, hloaded, hchecked, hid, hstate, hrevision, hlegal, himmutable⟩,
      (Except.ok.inj h).symm⟩

/-- An insertion finds its own earlier row, or adds a row under an identity that was free. -/
theorem putSchedule_ok {schedules schedules' : List ScheduleRow} {document : Json}
    {replayed : Bool}
    (h : putSchedule otherDocument schedules document = .ok (schedules', replayed)) :
    schedules' = schedules ∨
      (schedules' = schedules ++ [⟨document, document, 0⟩] ∧
        findSchedule schedules (document.get "schedule_version_id") = none) := by
  simp only [putSchedule, bind_eq_ok, exists_unit_iff] at h
  obtain ⟨-, h⟩ := h
  cases hfound : findSchedule schedules (document.get "schedule_version_id") with
  | some row =>
    simp only [hfound, bind_eq_ok, exists_unit_iff, pure, Except.pure, Except.ok.injEq,
      Prod.mk.injEq] at h
    obtain ⟨-, -, -, rfl, -⟩ := h
    exact .inl rfl
  | none =>
    simp only [hfound, bind_eq_ok, exists_unit_iff, pure, Except.pure, Except.ok.injEq,
      Prod.mk.injEq] at h
    obtain ⟨-, rfl, -⟩ := h
    exact .inr ⟨rfl, rfl⟩

end

/-! ### Audit events -/

def findAudit (audits : List Json) (auditEventId : Json) : Option Json :=
  audits.find? fun audit => audit.get "audit_event_id" = auditEventId

/-- `idempotency_scope` and `idempotency_key_reference` of a row, when it has a reference. -/
def idempotencyKey (document : Json) : Option (Json × Json) :=
  let reference := document.get "idempotency_reference"
  if reference = .null then none
  else some (reference.get "scope", reference.get "key_reference")

/-- `_find_by_id`, then `_find_by_idempotency` -/
def findConflict (idField : String) (documents : List Json) (document : Json) : Option Json :=
  (documents.find? fun stored => stored.get idField = document.get idField).or
    (documents.find? fun stored => idempotencyKey document ≠ none ∧
      idempotencyKey stored = idempotencyKey document)

/-- `_candidate` of the audit repository -/
def checkAuditCandidate (document : Json) : Except PersistenceError Unit := do
  canonicalDocument document "audit-event.v1"
  forEach (fun _ field => requireText (document.get field) field)
    ["audit_event_id", "environment", "action", "aggregate_type", "aggregate_id",
     "correlation_id", "occurred_at_utc"]
  let idempotency := document.get "idempotency_reference"
  if idempotency ≠ .null then
    let idempotency ← requireMapping idempotency "idempotency_reference"
    requireText (idempotency.get "scope") "idempotency_reference.scope"
    requireText (idempotency.get "key_reference") "idempotency_reference.key_reference"

/-- `append_in_transaction` -/
def appendAudit (audits : List Json) (document : Json) : Except PersistenceError (List Json) := do
  checkAuditCandidate document
  match findConflict "audit_event_id" audits document with
  | some stored =>
    require (stored = document)
      ⟨.idempotencyConflict, "audit_event_id/idempotency_reference",
        "AuditEvent identity or key is bound to different content"⟩
    return audits
  | none =>
    let parent := document.get "parent_audit_event_id"
    if parent ≠ .null then
      requireText parent "parent_audit_event_id"
      require (findAudit audits parent ≠ none)
        ⟨.identityConflict, "parent_audit_event_id", "parent AuditEvent is absent from this plane"⟩
    return audits ++ [document]

/-- `get` of the audit repository -/
def getAudit (audits : List Json) (auditEventId : String) : Except PersistenceError (Option Json) :=
  match findAudit audits (.str auditEventId) with
  | none => .ok none
  | some audit => do
    (canonicalDocument audit "audit-event.v1").mapError fun _ =>
      PersistenceError.mk .persistenceFailed "stored.document_json"
        "stored document failed integrity verification"
    return some audit

/-- After an append the event is found under its identity, behind the events of before. -/
theorem appendAudit_ok {audits audits' : List Json} {document : Json}
    (h : appendAudit audits document = .ok audits') :
    checkAuditCandidate document = .ok () ∧
      findAudit audits' (document.get "audit_event_id") = some document ∧ audits <+: audits' := by
  simp only [appendAudit, bind_eq_ok, exists_unit_iff] at h
  obtain ⟨hchecked, h⟩ := h
  refine ⟨hchecked, ?_⟩
  cases hfound : findConflict "audit_event_id" audits document with
  | some stored =>
    simp only [hfound, bind_eq_ok, exists_unit_iff, require_eq_ok, pure, Except.pure,
      Except.ok.injEq] at h
    obtain ⟨rfl, rfl⟩ := h
    refine ⟨?_, List.prefix_refl _⟩
    rw [findConflict, Option.or_eq_some_iff] at hfound
    rcases hfound with hfound | ⟨hnone, hfound⟩
    · exact hfound
    · have hmem := List.mem_of_find?_eq_some hfound
      exact absurd (decide_eq_true rfl) (List.find?_eq_none.mp hnone stored hmem)
  | none =>
    rw [findConflict, Option.or_eq_none_iff] at hfound
    rw [findConflict, hfound.1, hfound.2] at h
    simp only [Option.none_or] at h
    obtain rfl : audits' = audits ++ [document] := by
      split at h
      · simp only [bind_eq_ok, exists_unit_iff, pure, Except.pure, Except.ok.injEq] at h
        exact h.2.2.symm
      · exact (Except.ok.inj h).symm
    refine ⟨?_, List.prefix_append ..⟩
    rw [findAudit, List.find?_append, hfound.1]
    simp

/-! ### Results and the current reference -/

structure CurrentPublicationReference where
  target : String
  scheduleVersionId : String
  contentFingerprint : String
  publicationId : String
  referenceRevision : Nat
  updatedAtUtc : String
deriving DecidableEq, Repr

structure PublicationTables where
  schedules : List ScheduleRow
  audits : List Json
  results : List Json
  current : Option CurrentPublicationReference

/-- `_candidate` of the publication repository -/
def checkResultCandidate (document : Json) : Except PersistenceError Unit := do
  canonicalDocument document "publication-result.v1"
  forEach (fun _ field => requireText (document.get field) field)
    ["publication_id", "target", "published_at_utc", "result_fingerprint"]
  let idempotency ← requireMapping (document.get "idempotency_reference") "idempotency_reference"
  forEach (fun _ field => requireText (idempotency.get field) s!"idempotency_reference.{field}")
    ["scope", "key_reference", "request_fingerprint"]

/-- `_require_published_schedule` -/
def requirePublishedSchedule (schedules : List ScheduleRow) (published : Json) :
    Except PersistenceError Unit := do
  requireText (published.get "schedule_version_id") "published_version.schedule_version_id"
  requireText (published.get "content_fingerprint") "published_version.content_fingerprint"
  require ((findSchedule schedules (published.get "schedule_version_id")).any (fun row =>
      row.state = .str "PUBLISHED" ∧
        row.contentFingerprint = published.get "content_fingerprint") = true)
    ⟨.stateConflict, "published_version",
      "published reference does not match stored PUBLISHED version"⟩

/-- `persist_result_in_transaction`: the results after it and whether it was a repetition. -/
def persistResult (tables : PublicationTables) (document : Json) :
    Except PersistenceError (List Json × Bool) := do
  checkResultCandidate document
  match findConflict "publication_id" tables.results document with
  | some stored =>
    require (stored = document)
      ⟨.idempotencyConflict, "publication_id/idempotency_reference",
        "publication identity or key is bound to a different result"⟩
    return (tables.results, true)
  | none =>
    let source ← requireMapping (document.get "source_approved_version") "source_approved_version"
    let published ← requireMapping (document.get "published_version") "published_version"
    let previous := document.get "previous_current_version"
    if previous ≠ .null then
      let _ ← requireMapping previous "previous_current_version"
    requirePublishedSchedule tables.schedules published
    requireText (source.get "schedule_version_id") "source_approved_version.schedule_version_id"
    require (source.get "schedule_version_id" = published.get "schedule_version_id" ∧
        source.get "content_fingerprint" = published.get "content_fingerprint")
      ⟨.identityConflict, "source_approved_version",
        "source and published references do not preserve identity/content"⟩
    if previous ≠ .null then
      requireText (previous.get "schedule_version_id")
        "previous_current_version.schedule_version_id"
    return (tables.results ++ [document], false)

/-- The current reference that a result makes, and the revision it has. -/
def currentOf (document : Json) (revision : Nat) : CurrentPublicationReference :=
  let published := document.get "published_version"
  { target := (document.get "target").text
    scheduleVersionId := (published.get "schedule_version_id").text
    contentFingerprint := (published.get "content_fingerprint").text
    publicationId := (document.get "publication_id").text
    referenceRevision := revision
    updatedAtUtc := (document.get "published_at_utc").text }

/-- `persist_and_set_current_in_transaction`: the tables after it and whether the current
reference changed. -/
def persistAndSetCurrent (tables : PublicationTables) (document : Json)
    (expectedCurrent : Option CurrentPublicationReference) :
    Except PersistenceError (PublicationTables × Bool) := do
  let (results, replayed) ← persistResult tables document
  let published ← requireMapping (document.get "published_version") "published_version"
  requirePublishedSchedule tables.schedules published
  if replayed then return (tables, false)
  let previous := document.get "previous_current_version"
  match tables.current with
  | none =>
    require (expectedCurrent = none ∧ previous = .null)
      ⟨.stateConflict, "previous_current_version",
        "current publication CAS expected an empty target"⟩
    return ({ tables with results, current := some (currentOf document 0) }, true)
  | some current =>
    require (expectedCurrent = some current)
      ⟨.stateConflict, "expected_current",
        "current publication compare-and-set precondition failed"⟩
    let previous ← requireMapping previous "previous_current_version"
    require (previous.get "schedule_version_id" = .str current.scheduleVersionId ∧
        previous.get "content_fingerprint" = .str current.contentFingerprint)
      ⟨.stateConflict, "previous_current_version",
        "result does not describe the stored current reference"⟩
    return ({ tables with
      results, current := some (currentOf document (current.referenceRevision + 1)) }, true)

/-- What a result that becomes current finds and leaves. -/
structure BecameCurrent (tables : PublicationTables) (document : Json)
    (expected : Option CurrentPublicationReference) (tables' : PublicationTables) : Prop where
  schedules : tables'.schedules = tables.schedules
  audits : tables'.audits = tables.audits
  results : tables'.results = tables.results ++ [document]
  expected : expected = tables.current
  current : tables'.current = some (currentOf document
    (tables.current.elim 0 fun current => current.referenceRevision + 1))
  fresh : tables.results.find? (fun stored =>
    stored.get "publication_id" = document.get "publication_id") = none
  published : ∃ row, findSchedule tables.schedules
      ((document.get "published_version").get "schedule_version_id") = some row ∧
    row.state = .str "PUBLISHED" ∧
    row.contentFingerprint = (document.get "published_version").get "content_fingerprint"
  texts : ∀ field ∈ ["schedule_version_id", "content_fingerprint"],
    ∃ text, (document.get "published_version").get field = .str text

theorem requireText_ok {value : Json} {field : String} (h : requireText value field = .ok ()) :
    ∃ text, value = .str text := by
  cases value with
  | str text => exact ⟨text, rfl⟩
  | _ => cases h

theorem requirePublishedSchedule_ok {schedules : List ScheduleRow} {published : Json}
    (h : requirePublishedSchedule schedules published = .ok ()) :
    (∃ row, findSchedule schedules (published.get "schedule_version_id") = some row ∧
      row.state = .str "PUBLISHED" ∧
      row.contentFingerprint = published.get "content_fingerprint") ∧
    ∀ field ∈ ["schedule_version_id", "content_fingerprint"],
      ∃ text, published.get field = .str text := by
  simp only [requirePublishedSchedule, bind_eq_ok, exists_unit_iff, require_eq_ok,
    Option.any_eq_true, decide_eq_true_eq] at h
  obtain ⟨hid, hfingerprint, hrow⟩ := h
  refine ⟨hrow, ?_⟩
  intro field hfield
  rcases List.mem_cons.mp hfield with rfl | hfield
  · exact requireText_ok hid
  · obtain rfl := List.mem_singleton.mp hfield
    exact requireText_ok hfingerprint

theorem persistResult_ok {tables : PublicationTables} {document : Json} {results : List Json}
    (h : persistResult tables document = .ok (results, false)) :
    results = tables.results ++ [document] ∧
      tables.results.find? (fun stored =>
        stored.get "publication_id" = document.get "publication_id") = none := by
  simp only [persistResult, bind_eq_ok, exists_unit_iff] at h
  obtain ⟨-, h⟩ := h
  cases hfound : findConflict "publication_id" tables.results document with
  | some stored =>
    simp only [hfound, bind_eq_ok, exists_unit_iff, pure, Except.pure, Except.ok.injEq,
      Prod.mk.injEq, reduceCtorEq, and_false] at h
  | none =>
    rw [findConflict, Option.or_eq_none_iff] at hfound
    rw [findConflict, hfound.1, hfound.2] at h
    refine ⟨?_, hfound.1⟩
    simp only [Option.none_or, bind_eq_ok] at h
    obtain ⟨source, -, published, -, h⟩ := h
    split at h
    · simp only [bind_eq_ok, exists_unit_iff, pure, Except.pure, Except.ok.injEq,
        Prod.mk.injEq, and_true] at h
      obtain ⟨-, -, -, -, -, -, h⟩ := h
      exact h.symm
    · simp only [bind_eq_ok, exists_unit_iff, pure, Except.pure, Except.ok.injEq,
        Prod.mk.injEq, and_true] at h
      obtain ⟨-, -, -, h⟩ := h
      exact h.symm

theorem persistAndSetCurrent_ok {tables tables' : PublicationTables} {document : Json}
    {expected : Option CurrentPublicationReference}
    (h : persistAndSetCurrent tables document expected = .ok (tables', true)) :
    BecameCurrent tables document expected tables' := by
  simp only [persistAndSetCurrent, bind_eq_ok, exists_unit_iff] at h
  obtain ⟨⟨results, replayed⟩, hpersist, published, hmapping, hpublished, h⟩ := h
  obtain rfl : document.get "published_version" = published := by
    simp only [requireMapping, bind_eq_ok, exists_unit_iff] at hmapping
    exact Except.ok.inj hmapping.2
  obtain ⟨hrow, htexts⟩ := requirePublishedSchedule_ok hpublished
  cases replayed with
  | true =>
    simp only [if_true, pure, Except.pure, Except.ok.injEq, Prod.mk.injEq, Bool.false_eq_true,
      and_false] at h
  | false =>
    obtain ⟨rfl, hfresh⟩ := persistResult_ok hpersist
    simp only [Bool.false_eq_true, if_false] at h
    cases hcurrent : tables.current with
    | none =>
      simp only [hcurrent, bind_eq_ok, exists_unit_iff, require_eq_ok, pure, Except.pure,
        Except.ok.injEq, Prod.mk.injEq, and_true] at h
      obtain ⟨⟨rfl, -⟩, rfl⟩ := h
      refine ⟨rfl, rfl, rfl, hcurrent.symm, ?_, hfresh, hrow, htexts⟩
      rw [hcurrent]
      rfl
    | some current =>
      simp only [hcurrent, bind_eq_ok, exists_unit_iff, require_eq_ok, pure, Except.pure,
        Except.ok.injEq, Prod.mk.injEq, and_true] at h
      obtain ⟨rfl, -, -, -, rfl⟩ := h
      refine ⟨rfl, rfl, rfl, hcurrent.symm, ?_, hfresh, hrow, htexts⟩
      rw [hcurrent]
      rfl

end PlantNexus.Publishing
