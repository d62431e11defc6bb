import PlantNexus.Domain.CarrierContracts
import PlantNexus.Domain.Types

/-! Execution events and the checks before any fact is read from them.

An event names one of eleven kinds, the entities its payload speaks of, the authority stream it
belongs to and its position there. Its identity is the digest of its content but for the time it
was received. `validateEventPrefix` accepts a stream without gaps from its first event on. -/
namespace PlantNexus.Execution
open Data Domain Time

/-! ### Kinds -/

inductive ExecutionEventType where
  | operationStarted
  | operationCompleted
  | machineUnavailable
  | machineRecovered
  | materialReady
  | materialDelayed
  | processingDurationChanged
  | processingRemainingChanged
  | urgentDemandReceived
  | lockCreated
  | lockReleased
deriving DecidableEq, Repr

namespace ExecutionEventType

def all : List ExecutionEventType :=
  [operationStarted, operationCompleted, machineUnavailable, machineRecovered, materialReady,
   materialDelayed, processingDurationChanged, processingRemainingChanged, urgentDemandReceived,
   lockCreated, lockReleased]

def text : ExecutionEventType → String
  | operationStarted => "OPERATION_STARTED"
  | operationCompleted => "OPERATION_COMPLETED"
  | machineUnavailable => "MACHINE_UNAVAILABLE"
  | machineRecovered => "MACHINE_RECOVERED"
  | materialReady => "MATERIAL_READY"
  | materialDelayed => "MATERIAL_DELAYED"
  | processingDurationChanged => "PROCESSING_DURATION_CHANGED"
  | processingRemainingChanged => "PROCESSING_REMAINING_CHANGED"
  | urgentDemandReceived => "URGENT_DEMAND_RECEIVED"
  | lockCreated => "LOCK_CREATED"
  | lockReleased => "LOCK_RELEASED"

def ofText (value : String) : Option ExecutionEventType := all.find? fun type => type.text = value

/-- `_PAYLOAD_FIELDS` -/
def payloadFields : ExecutionEventType → List String
  | operationStarted => ["kind", "operation_id", "resource_id", "actual_start_at_utc"]
  | operationCompleted =>
    ["kind", "operation_id", "resource_id", "actual_start_at_utc", "actual_end_at_utc"]
  | machineUnavailable =>
    ["kind", "resource_id", "unavailable_from_utc", "unavailable_until_utc"]
  | machineRecovered => ["kind", "resource_id", "available_from_utc"]
  | materialReady | materialDelayed => ["kind", "material_id", "available_at_utc"]
  | processingDurationChanged =>
    ["kind", "operation_id", "final_duration_seconds", "duration_source", "source_version"]
  | processingRemainingChanged => ["kind", "operation_id", "remaining_seconds", "as_of_utc"]
  | urgentDemandReceived =>
    ["kind", "demand_order_id", "quantity", "due_at_utc", "priority_weight", "priority_source"]
  | lockCreated =>
    ["kind", "lock_id", "operation_id", "lock_type", "resource_id", "start_at_utc", "end_at_utc",
     "policy_reference"]
  | lockReleased => ["kind", "lock_id", "release_reason", "policy_reference"]

/-- The entities that a payload speaks of, with the fields that name them, as the code reads
them. -/
def entityFields : ExecutionEventType → List (String × String)
  | operationStarted | operationCompleted =>
    [("OPERATION", "operation_id"), ("RESOURCE", "resource_id")]
  | processingDurationChanged | processingRemainingChanged => [("OPERATION", "operation_id")]
  | machineUnavailable | machineRecovered => [("RESOURCE", "resource_id")]
  | materialReady | materialDelayed => [("MATERIAL", "material_id")]
  | urgentDemandReceived => [("DEMAND_ORDER", "demand_order_id")]
  | lockCreated =>
    [("OPERATION", "operation_id"), ("RESOURCE", "resource_id"), ("OPERATION_LOCK", "lock_id")]
  | lockReleased => [("OPERATION_LOCK", "lock_id")]

end ExecutionEventType

/-- Entity references in the order of their types; a kind names each type once. -/
def sortedReferences (references : List (String × String)) : List (String × String) :=
  sortByKey Prod.fst references

/-! ### The carrier contract -/

/-- `_text` of the execution contracts -/
def p4Text (value : Json) (field : String) : Except P4ContractError String :=
  let refused : P4ContractError := ⟨.versionMismatch, field, "must be a canonical identifier"⟩
  match value with
  | .str text => do
    require (text ≠ "" ∧ text.toList.all (fun c => !isSpace c) = true) refused
    return text
  | _ => .error refused

/-- `value.replace("Z", "+00:00")` -/
def replaceZulu (cs : List Char) : List Char :=
  cs.flatMap fun c => if c = 'Z' then ['+', '0', '0', ':', '0', '0'] else [c]

/-- `_utc` of the execution contracts -/
def p4Utc (value : Json) (field : String) : Except P4ContractError Datetime :=
  match value with
  | .str text =>
    if text.toList.getLast? = some 'Z' then
      match fromisoformat (replaceZulu text.toList) with
      | some (instant, _) => .ok instant
      | none => .error ⟨.versionMismatch, field, "is not a valid instant"⟩
    else .error ⟨.versionMismatch, field, "must be RFC3339 UTC Z"⟩
  | _ => .error ⟨.versionMismatch, field, "must be RFC3339 UTC Z"⟩

/-- The scope that an authority speaks for. -/
def authorityScope (factoryId planningScopeId : String) : String :=
  s!"SIMULATION/{factoryId}/{planningScopeId}"

/-- `_authority_scope` -/
def requireAuthorityScope (document : Json) : Except P4ContractError Unit := do
  let authority ← p4Mapping (document.get "authority") "authority"
  let stream ← p4Mapping (document.get "source_stream") "source_stream"
  let scope := authorityScope (document.get "factory_id").text
    (document.get "planning_scope_id").text
  p4Equal (authority.get "authority_scope") (.str scope) "authority.authority_scope"
    .referenceMismatch
  p4Equal (stream.get "authority_id") (authority.get "authority_id") "source_stream.authority_id"
    .referenceMismatch

/-- The fields of a document but for those that are named. -/
def withoutFields (document : Json) (excluded : List String) : Json :=
  match document with
  | .obj members => .obj (members.filter fun member => member.1 ∉ excluded)
  | value => value

/-- `execution_event_fingerprint` -/
def executionEventFingerprint (document : Json) : String :=
  contractFingerprint
    (withoutFields document ["event_id", "event_fingerprint", "received_at_utc"])

/-- The digits of an algorithm-qualified fingerprint. -/
def fingerprintDigits (fingerprint : String) : String :=
  if "sha256:".toList.isPrefixOf fingerprint.toList then
    String.ofList (fingerprint.toList.drop 7)
  else fingerprint

def executionEventId (fingerprint : String) : String :=
  "execution-event-" ++ fingerprintDigits fingerprint

/-- `event_stream_fingerprint` -/
def eventStreamFingerprint (fingerprints : List String) : String :=
  contractFingerprint
    (.obj [("stream_projection_version", .str "execution-event-stream.v1"),
      ("ordered_event_fingerprints", .strings fingerprints)])

/-- Strictly increasing, first by type. -/
def SortedUnique (references : List (String × String)) : Prop :=
  references.IsChain fun a b => a.1 < b.1 ∨ a.1 = b.1 ∧ a.2 < b.2

instance (references : List (String × String)) : Decidable (SortedUnique references) := by
  unfold SortedUnique
  infer_instance

/-- `_require_event` -/
def requireEvent (document : Json) : Except P4ContractError Unit := do
  requireAuthorityScope document
  let payload ← p4Mapping (document.get "payload") "payload"
  p4Equal (payload.get "kind") (document.get "event_type") "payload.kind" .versionMismatch
  let items ← p4Sequence (document.get "entity_refs") "entity_refs"
  let references ←
    collect
      (fun item => do
        let item ← p4Mapping item "entity_refs[]"
        let entityType ← p4Text (item.get "entity_type") "entity_type"
        let entityId ← p4Text (item.get "entity_id") "entity_id"
        return (entityType, entityId))
      items
  require (SortedUnique references)
    ⟨.orderingViolation, "entity_refs", "must be sorted and unique"⟩
  let occurred ← p4Utc (document.get "occurred_at_utc") "occurred_at_utc"
  let received ← p4Utc (document.get "received_at_utc") "received_at_utc"
  require (occurred ≤ received)
    ⟨.orderingViolation, "received_at_utc", "cannot precede occurred_at_utc"⟩
  let expected := executionEventFingerprint document
  p4Equal (document.get "event_fingerprint") (.str expected) "event_fingerprint"
    .identityMismatch
  p4Equal (document.get "event_id") (.str (executionEventId expected)) "event_id"
    .identityMismatch

/-- `require_p4_document` of a document with the fields of an event: these leave room for no
other kind. -/
def requireEventDocument (document : Json) : Except P4ContractError String :=
  requireP4Document (fun _ => requireEvent) document

/-! ### The projection boundary -/

inductive ProjectionFailure where
  | invalidEvent
  | authorityMismatch
  | orderingViolation
  | invalidReference
  | factConflict
  | terminalRegression
  | urgentImportRequired
  | urgentImportMismatch
  | staleSnapshot
  | persistenceFailed
deriving DecidableEq, Repr

/-- `ExecutionFactProjectionError` -/
structure ProjectionError where
  reason : ProjectionFailure
  field : String
  message : String
deriving DecidableEq, Repr

structure ProjectionScope where
  factoryId : String
  planningScopeId : String
  authorityId : String
  streamId : String
  streamVersion : String
deriving DecidableEq, Repr

/-- Bounded text without control characters. -/
def isFactText (value : String) : Bool :=
  hasText value && value.length ≤ 768 &&
    value.toList.all fun c => !(c.toNat < 32 || c.toNat == 127)

/-- `_text` -/
def factText (value : Json) (field : String) : Except ProjectionError String :=
  let refused : ProjectionError :=
    ⟨.invalidEvent, field, "must be bounded non-empty text without control characters"⟩
  match value with
  | .str text => do
    require (isFactText text = true) refused
    return text
  | _ => .error refused

/-- `_mapping` -/
def factMapping (value : Json) (field : String) : Except ProjectionError Json := do
  require (value.isObj = true) ⟨.invalidEvent, field, "must be an object"⟩
  return value

/-- `_sequence` -/
def factSequence (value : Json) (field : String) : Except ProjectionError (List Json) :=
  match value with
  | .arr items => .ok items
  | _ => .error ⟨.invalidEvent, field, "must be an array"⟩

/-- `_integer` -/
def factInteger (value : Json) (field : String) (minimum : Int) : Except ProjectionError Int :=
  let refused : ProjectionError :=
    ⟨.invalidEvent, field, s!"must be an integer greater than or equal to {minimum}"⟩
  match value with
  | .int n => do
    require (minimum ≤ n) refused
    return n
  | _ => .error refused

/-- `_utc` -/
def factUtc (value : Json) (field : String) : Except ProjectionError Datetime := do
  let text ← factText value field
  (parseUtcInstant text).mapError fun _ =>
    ⟨.invalidEvent, field, "must be a canonical second-precision UTC instant ending in Z"⟩

/-- The document has the fields and no others. -/
def HasFields (document : Json) (expected : List String) : Prop :=
  (∀ key ∈ document.keys, key ∈ expected) ∧ ∀ key ∈ expected, key ∈ document.keys

instance (document : Json) (expected : List String) : Decidable (HasFields document expected) := by
  unfold HasFields
  infer_instance

/-- `_exact_fields` -/
def exactFields (document : Json) (expected : List String) (field : String) :
    Except ProjectionError Unit :=
  require (HasFields document expected)
    ⟨.invalidEvent, field, "field set does not match the approved carrier"⟩

/-- `_source_reference` -/
def sourceReference (value : Json) (field : String) : Except ProjectionError Unit := do
  let source ← factMapping value field
  exactFields source ["source_system", "source_version", "source_record_id"] field
  let _ ← factText (source.get "source_system") s!"{field}.source_system"
  let _ ← factText (source.get "source_version") s!"{field}.source_version"
  let _ ← factText (source.get "source_record_id") s!"{field}.source_record_id"

/-- `_artifact_reference` -/
def artifactReference (value : Json) (field : String) : Except ProjectionError Unit := do
  let reference ← factMapping value field
  exactFields reference ["document_version", "artifact_id", "fingerprint"] field
  let _ ← factText (reference.get "document_version") s!"{field}.document_version"
  let _ ← factText (reference.get "artifact_id") s!"{field}.artifact_id"
  let fingerprint ← factText (reference.get "fingerprint") s!"{field}.fingerprint"
  require (fingerprint.length = 71 ∧ "sha256:".toList.isPrefixOf fingerprint.toList = true)
    ⟨.invalidEvent, s!"{field}.fingerprint", "must be SHA-256"⟩

/-- `_expected_entity_references`, sorted -/
def expectedEntityReferences (type : ExecutionEventType) (payload : Json) :
    Except ProjectionError (List (String × String)) := do
  let references ←
    collect
      (fun (entity : String × String) => do
        let entityId ← factText (payload.get entity.2) s!"payload.{entity.2}"
        return (entity.1, entityId))
      type.entityFields
  return sortedReferences references

def eventRootFields : List String :=
  ["execution_event_version", "schema_set_version", "canonicalization_version", "event_id",
   "event_type", "data_plane", "environment", "factory_id", "planning_scope_id", "authority",
   "source_stream", "source_position", "occurred_at_utc", "received_at_utc", "entity_refs",
   "payload", "synthetic", "synthetic_provenance", "production_binding", "correlation_id",
   "event_fingerprint"]

/-- The constants of the carrier. -/
def eventConstants : List (String × Json) :=
  [("execution_event_version", .str "execution-event.v1"), ("schema_set_version", .str "2.8.0"),
   ("canonicalization_version", .str "canonical-json.v1"), ("data_plane", .str "SIMULATION"),
   ("synthetic", .bool true), ("production_binding", .bool false)]

/-- The kind of an event and its payload. -/
def checkKind (document : Json) : Except ProjectionError (ExecutionEventType × Json) := do
  let text ← factText (document.get "event_type") "event_type"
  match ExecutionEventType.ofText text with
  | none => .error ⟨.invalidEvent, "event_type", "unsupported event type"⟩
  | some type =>
    let payload ← factMapping (document.get "payload") "payload"
    exactFields payload type.payloadFields "payload"
    require ((payload.get "kind").pyEq (.str text) = true)
      ⟨.invalidEvent, "payload.kind", "must equal event_type"⟩
    return (type, payload)

/-- The authority and the stream of an event are those of the scope. -/
def checkAuthority (scope : ProjectionScope) (document : Json) : Except ProjectionError Unit := do
  let authority ← factMapping (document.get "authority") "authority"
  exactFields authority
    ["authority_version", "authority_id", "authority_scope", "source", "decision",
     "production_binding"] "authority"
  require (authority.get "authority_version" = .str "execution-event-authority.v1" ∧
    authority.get "decision" = .str "AUTHORIZED_SIMULATION_SOURCE" ∧
    authority.get "production_binding" = .bool false)
    ⟨.authorityMismatch, "authority", "authority decision is not approved for Simulation"⟩
  sourceReference (authority.get "source") "authority.source"
  let stream ← factMapping (document.get "source_stream") "source_stream"
  exactFields stream ["stream_id", "stream_version", "authority_id"] "source_stream"
  require (document.get "factory_id" = .str scope.factoryId ∧
    document.get "planning_scope_id" = .str scope.planningScopeId ∧
    authority.get "authority_id" = .str scope.authorityId ∧
    stream.get "stream_id" = .str scope.streamId ∧
    stream.get "stream_version" = .str scope.streamVersion ∧
    stream.get "authority_id" = .str scope.authorityId)
    ⟨.authorityMismatch, "authority/source_stream",
      "event is outside the selected projection scope"⟩
  require (authority.get "authority_scope" =
    .str (authorityScope scope.factoryId scope.planningScopeId))
    ⟨.authorityMismatch, "authority.authority_scope", "scope string is not canonical"⟩

def provenanceTexts : List String :=
  ["scenario_id", "scenario_version", "factory_profile_id", "profile_version", "generator_id",
   "generator_version", "simulator_id", "simulator_version"]

def checkProvenance (document : Json) : Except ProjectionError Unit := do
  let provenance ← factMapping (document.get "synthetic_provenance") "synthetic_provenance"
  exactFields provenance (provenanceTexts ++ ["seed"]) "synthetic_provenance"
  forEach (fun _ name => do
    let _ ← factText (provenance.get name) s!"synthetic_provenance.{name}") provenanceTexts
  let _ ← factInteger (provenance.get "seed") "synthetic_provenance.seed" 0

/-- The instant of an event, which is not received before it. -/
def checkOccurrence (document : Json) : Except ProjectionError Datetime := do
  let _ ← factInteger (document.get "source_position") "source_position" 1
  let occurred ← factUtc (document.get "occurred_at_utc") "occurred_at_utc"
  let received ← factUtc (document.get "received_at_utc") "received_at_utc"
  require (occurred ≤ received)
    ⟨.orderingViolation, "received_at_utc", "cannot precede occurred_at_utc"⟩
  return occurred

def entityReference (index : Nat) (value : Json) : Except ProjectionError (String × String) := do
  let reference ← factMapping value s!"entity_refs[{index}]"
  exactFields reference ["entity_type", "entity_id"] s!"entity_refs[{index}]"
  let entityType ← factText (reference.get "entity_type") s!"entity_refs[{index}].entity_type"
  let entityId ← factText (reference.get "entity_id") s!"entity_refs[{index}].entity_id"
  return (entityType, entityId)

def checkReferences (document : Json) (type : ExecutionEventType) (payload : Json) :
    Except ProjectionError Unit := do
  let items ← factSequence (document.get "entity_refs") "entity_refs"
  let references ← collect (fun item => entityReference item.2 item.1) items.zipIdx
  let expected ← expectedEntityReferences type payload
  require (references = expected)
    ⟨.invalidReference, "entity_refs", "must exactly match sorted payload references"⟩

def releaseReasons : List Json :=
  [.str "POLICY_REEVALUATION", .str "FACT_SUPERSEDED", .str "OPERATION_COMPLETED"]

/-- The fields of a payload that are neither entities nor instants. -/
def checkPayload (payload : Json) : ExecutionEventType → Except ProjectionError Unit
  | .processingDurationChanged => do
    let _ ← factInteger (payload.get "final_duration_seconds") "payload.final_duration_seconds" 1
    let _ ← factText (payload.get "duration_source") "payload.duration_source"
    let _ ← factText (payload.get "source_version") "payload.source_version"
  | .processingRemainingChanged => do
    let _ ← factInteger (payload.get "remaining_seconds") "payload.remaining_seconds" 0
  | .urgentDemandReceived => do
    let _ ← factInteger (payload.get "quantity") "payload.quantity" 1
    let _ ← factInteger (payload.get "priority_weight") "payload.priority_weight" 1
    let _ ← factUtc (payload.get "due_at_utc") "payload.due_at_utc"
    sourceReference (payload.get "priority_source") "payload.priority_source"
  | .lockCreated => do
    require (payload.get "lock_type" = .str "HARD" ∨ payload.get "lock_type" = .str "SOFT")
      ⟨.invalidEvent, "payload.lock_type", "unsupported lock type"⟩
    artifactReference (payload.get "policy_reference") "payload.policy_reference"
  | .lockReleased => do
    require (payload.get "release_reason" ∈ releaseReasons)
      ⟨.invalidEvent, "payload.release_reason", "unsupported release reason"⟩
    artifactReference (payload.get "policy_reference") "payload.policy_reference"
  | .operationStarted | .operationCompleted | .machineUnavailable | .machineRecovered
  | .materialReady | .materialDelayed => .ok ()

/-- A payload instant that may not follow the event. -/
def notAfter (payload : Json) (name message : String) (occurred : Datetime) :
    Except ProjectionError Datetime := do
  let instant ← factUtc (payload.get name) s!"payload.{name}"
  require (instant ≤ occurred) ⟨.factConflict, s!"payload.{name}", message⟩
  return instant

/-- The end of an unavailability, if it has one, follows its start. -/
def checkUnavailableUntil (payload : Json) (start : Datetime) : Except ProjectionError Unit :=
  if payload.get "unavailable_until_utc" = .null then .ok ()
  else do
    let stop ← factUtc (payload.get "unavailable_until_utc") "payload.unavailable_until_utc"
    require (start < stop)
      ⟨.factConflict, "payload.unavailable_until_utc", "must follow unavailable_from_utc"⟩

/-- `_validate_payload_times` -/
def validatePayloadTimes (payload : Json) (occurred : Datetime) :
    ExecutionEventType → Except ProjectionError Unit
  | .operationStarted => do
    let _ ← notAfter payload "actual_start_at_utc" "cannot follow event occurrence" occurred
  | .operationCompleted => do
    let start ← factUtc (payload.get "actual_start_at_utc") "payload.actual_start_at_utc"
    let stop ← factUtc (payload.get "actual_end_at_utc") "payload.actual_end_at_utc"
    require (start < stop ∧ stop ≤ occurred)
      ⟨.factConflict, "payload.actual_end_at_utc", "must follow start and not follow occurrence"⟩
  | .machineUnavailable => do
    let start ← notAfter payload "unavailable_from_utc" "cannot follow event occurrence" occurred
    checkUnavailableUntil payload start
  | .machineRecovered => do
    let _ ← notAfter payload "available_from_utc" "cannot follow event occurrence" occurred
  | .materialReady => do
    let _ ← notAfter payload "available_at_utc" "ready fact cannot be future-dated" occurred
  | .processingRemainingChanged => do
    let _ ← notAfter payload "as_of_utc" "cannot follow event occurrence" occurred
  | .lockCreated => do
    let start ← factUtc (payload.get "start_at_utc") "payload.start_at_utc"
    let stop ← factUtc (payload.get "end_at_utc") "payload.end_at_utc"
    require (start < stop) ⟨.factConflict, "payload.end_at_utc", "must follow lock start"⟩
  | .materialDelayed | .processingDurationChanged | .urgentDemandReceived | .lockReleased =>
    .ok ()

/-- `validate_execution_event` -/
def validateExecutionEvent (scope : ProjectionScope) (document : Json) :
    Except ProjectionError Unit := do
  exactFields document eventRootFields "event"
  let _ ← (requireEventDocument document).mapError fun error =>
    (⟨.invalidEvent, error.field, "ExecutionEvent semantic identity is invalid"⟩ :
      ProjectionError)
  require (∀ constant ∈ eventConstants, (document.get constant.1).pyEq constant.2 = true)
    ⟨.invalidEvent, "event", "version or Simulation boundary mismatch"⟩
  let (type, payload) ← checkKind document
  checkAuthority scope document
  checkProvenance document
  let occurred ← checkOccurrence document
  checkReferences document type payload
  checkPayload payload type
  validatePayloadTimes payload occurred type

/-- The events from a position on; `seen` are the identities before them. -/
def validateEventsFrom (scope : ProjectionScope) (position : Nat) (seen : List String) :
    List Json → Except ProjectionError (List String)
  | [] => .ok []
  | event :: rest => do
    validateExecutionEvent scope event
    require ((event.get "source_position").pyEq (.int position) = true)
      ⟨.orderingViolation, "source_position",
        "stream prefix contains a gap, duplicate, or late position"⟩
    let eventId ← factText (event.get "event_id") "event_id"
    require (eventId ∉ seen)
      ⟨.orderingViolation, "event_id", "stream prefix repeats an event identity"⟩
    let fingerprint ← factText (event.get "event_fingerprint") "event_fingerprint"
    let fingerprints ← validateEventsFrom scope (position + 1) (eventId :: seen) rest
    return fingerprint :: fingerprints

/-- `validate_event_prefix` -/
def validateEventPrefix (scope : ProjectionScope) (events : List Json) :
    Except ProjectionError (List String) :=
  validateEventsFrom scope 1 [] events

/-! ### What the checks establish -/

/-- The stream, the position and the identity of an event, as a ledger files it. -/
structure Placed (scope : ProjectionScope) (position : Nat) (eventId fingerprint : String)
    (event : Json) : Prop where
  authorityId : (event.get "authority").get "authority_id" = .str scope.authorityId
  streamId : (event.get "source_stream").get "stream_id" = .str scope.streamId
  streamVersion : (event.get "source_stream").get "stream_version" = .str scope.streamVersion
  position : event.get "source_position" = .int position
  eventId : event.get "event_id" = .str eventId
  fingerprint : event.get "event_fingerprint" = .str fingerprint

theorem factText_ok {value : Json} {field text : String} (h : factText value field = .ok text) :
    value = .str text := by
  cases value with
  | str found =>
    simp only [factText, bind_eq_ok, exists_unit_iff, require_eq_ok, pure, Except.pure,
      Except.ok.injEq] at h
    rw [h.2]
  | null | bool | int | float | arr | obj => cases h

theorem factInteger_ok {value : Json} {field : String} {minimum n : Int}
    (h : factInteger value field minimum = .ok n) : value = .int n ∧ minimum ≤ n := by
  cases value with
  | int found =>
    simp only [factInteger, bind_eq_ok, exists_unit_iff, require_eq_ok, pure, Except.pure,
      Except.ok.injEq] at h
    rw [← h.2]
    exact ⟨rfl, h.1⟩
  | null | bool | float | str | arr | obj => cases h

theorem factMapping_ok {value found : Json} {field : String}
    (h : factMapping value field = .ok found) : found = value := by
  simp only [factMapping, bind_eq_ok, exists_unit_iff, pure, Except.pure, Except.ok.injEq] at h
  exact h.2.symm

theorem pyEq_int {value : Json} {n m : Int} (hvalue : value = .int n)
    (h : value.pyEq (.int m) = true) : n = m := by
  subst hvalue
  simpa [Json.pyEq, Json.number] using h

/-- The position of an event that passes the checks is an integer. -/
theorem validateExecutionEvent_position {scope : ProjectionScope} {event : Json}
    (h : validateExecutionEvent scope event = .ok ()) :
    ∃ n, event.get "source_position" = .int n := by
  simp only [validateExecutionEvent, bind_eq_ok, exists_unit_iff, Prod.exists] at h
  obtain ⟨-, -, -, -, type, payload, -, -, -, occurred, hoccurred, -⟩ := h
  simp only [checkOccurrence, bind_eq_ok] at hoccurred
  obtain ⟨n, hn, -⟩ := hoccurred
  exact ⟨n, (factInteger_ok hn).1⟩

/-- An event that passes the checks belongs to the stream of the scope. -/
theorem validateExecutionEvent_stream {scope : ProjectionScope} {event : Json}
    (h : validateExecutionEvent scope event = .ok ()) :
    (event.get "authority").get "authority_id" = .str scope.authorityId ∧
      (event.get "source_stream").get "stream_id" = .str scope.streamId ∧
      (event.get "source_stream").get "stream_version" = .str scope.streamVersion := by
  simp only [validateExecutionEvent, bind_eq_ok, exists_unit_iff, Prod.exists] at h
  obtain ⟨-, -, -, -, type, payload, -, hauthority, -⟩ := h
  simp only [checkAuthority, bind_eq_ok, exists_unit_iff, require_eq_ok] at hauthority
  obtain ⟨authority, hfound, -, -, -, stream, hstream, -, hscope, -⟩ := hauthority
  obtain rfl := factMapping_ok hfound
  obtain rfl := factMapping_ok hstream
  exact ⟨hscope.2.2.1, hscope.2.2.2.1, hscope.2.2.2.2.1⟩

theorem validateEventsFrom_cons {scope : ProjectionScope} {position : Nat} {seen : List String}
    {event : Json} {rest : List Json} {fingerprints : List String}
    (h : validateEventsFrom scope position seen (event :: rest) = .ok fingerprints) :
    ∃ eventId fingerprint tail, Placed scope position eventId fingerprint event ∧
      eventId ∉ seen ∧ fingerprints = fingerprint :: tail ∧
      validateEventsFrom scope (position + 1) (eventId :: seen) rest = .ok tail := by
  simp only [validateEventsFrom, bind_eq_ok, exists_unit_iff, require_eq_ok, pure, Except.pure,
    Except.ok.injEq] at h
  obtain ⟨hvalid, hposition, eventId, hid, hseen, fingerprint, hfingerprint, tail, htail, rfl⟩ := h
  obtain ⟨hauthority, hstream, hversion⟩ := validateExecutionEvent_stream hvalid
  obtain ⟨n, hn⟩ := validateExecutionEvent_position hvalid
  obtain rfl := pyEq_int hn hposition
  exact ⟨eventId, fingerprint, tail, ⟨hauthority, hstream, hversion, hn, factText_ok hid,
    factText_ok hfingerprint⟩, hseen, rfl, htail⟩

theorem length_validateEventsFrom {scope : ProjectionScope} {position : Nat} {seen : List String} {events : List Json}
    {fingerprints : List String}
    (h : validateEventsFrom scope position seen events = .ok fingerprints) :
    fingerprints.length = events.length := by
  induction events generalizing position seen fingerprints with
  | nil =>
    obtain rfl := Except.ok.inj h
    rfl
  | cons event rest ih =>
    obtain ⟨eventId, fingerprint, tail, -, -, rfl, hrest⟩ := validateEventsFrom_cons h
    rw [List.length_cons, List.length_cons, ih hrest]

/-- The identity that an event is filed under. -/
def eventIdText (event : Json) : String := (event.get "event_id").text

theorem validateEventsFrom_placed {scope : ProjectionScope} {events : List Json}
    {fingerprints : List String} :
    ∀ {position : Nat} {seen : List String},
      validateEventsFrom scope position seen events = .ok fingerprints →
      (∀ i event, events[i]? = some event →
        ∃ eventId fingerprint, Placed scope (position + i) eventId fingerprint event) ∧
      (events.map eventIdText).Nodup ∧ ∀ eventId ∈ events.map eventIdText, eventId ∉ seen := by
  induction events generalizing fingerprints with
  | nil =>
    intro position seen _
    simp
  | cons event rest ih =>
    intro position seen h
    obtain ⟨eventId, fingerprint, tail, hplaced, hseen, -, hrest⟩ := validateEventsFrom_cons h
    obtain ⟨hall, hnodup, hfresh⟩ := ih hrest
    have hid : eventIdText event = eventId := by rw [eventIdText, hplaced.eventId]; rfl
    refine ⟨?_, ?_, ?_⟩
    · intro i found hfound
      cases i with
      | zero =>
        obtain rfl := Option.some.inj hfound
        exact ⟨eventId, fingerprint, hplaced⟩
      | succ i =>
        obtain ⟨id, digest, h⟩ := hall i found hfound
        exact ⟨id, digest, by rwa [Nat.add_right_comm] at h⟩
    · rw [List.map_cons, List.nodup_cons, hid]
      refine ⟨?_, hnodup⟩
      intro hmem
      exact hfresh eventId hmem (List.mem_cons_self ..)
    · intro id hmem
      rw [List.map_cons, List.mem_cons, hid] at hmem
      rcases hmem with rfl | hmem
      · exact hseen
      · exact fun h => hfresh id hmem (List.mem_cons_of_mem _ h)

end PlantNexus.Execution
