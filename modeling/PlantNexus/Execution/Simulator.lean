import PlantNexus.Execution.Ledger

/-! The execution simulator: compiling a declared schedule of events and delivering the stream.

The declared events are queued by their offset, then by a rank derived from the seed, then by
their key, and become events at positions 1, 2, … of a stream whose identity is the digest of the
whole input. A run delivers the events after a checkpoint through the ingress, one by one, and
returns a checkpoint when it is through. -/
namespace PlantNexus.Execution
open Data Domain Time

/-! ### Configurations -/

structure VersionedAssetReference where
  assetId : String
  assetVersion : String
  fingerprint : String
deriving DecidableEq, Repr

def VersionedAssetReference.toJson (r : VersionedAssetReference) : Json :=
  .obj
    [("asset_id", .str r.assetId), ("asset_version", .str r.assetVersion),
     ("fingerprint", .str r.fingerprint)]

/-- A published schedule; its state is a constant. -/
structure PublishedScheduleReference where
  scheduleVersionVersion : String
  scheduleVersionId : String
  contentFingerprint : String
deriving DecidableEq, Repr

def PublishedScheduleReference.toJson (r : PublishedScheduleReference) : Json :=
  .obj
    [("schedule_version_version", .str r.scheduleVersionVersion),
     ("schedule_version_id", .str r.scheduleVersionId), ("state", .str "PUBLISHED"),
     ("content_fingerprint", .str r.contentFingerprint)]

structure PlanningPolicyReference where
  policyId : String
  policyRevision : String
  policyFingerprint : String
deriving DecidableEq, Repr

def PlanningPolicyReference.toJson (r : PlanningPolicyReference) : Json :=
  .obj
    [("planning_policy_version", .str "planning-policy.v2"), ("policy_id", .str r.policyId),
     ("policy_revision", .str r.policyRevision), ("policy_fingerprint", .str r.policyFingerprint)]

structure SolveLimitsReference where
  limitsId : String
  limitsRevision : String
  limitsFingerprint : String
  maxWallTimeSeconds : Nat
  maxWorkers : Nat
  randomSeed : Nat
deriving DecidableEq, Repr

def SolveLimitsReference.toJson (r : SolveLimitsReference) : Json :=
  .obj
    [("solve_limits_version", .str "solve-limits.v1"), ("limits_id", .str r.limitsId),
     ("limits_revision", .str r.limitsRevision),
     ("limits_fingerprint", .str r.limitsFingerprint),
     ("max_wall_time_seconds", .int r.maxWallTimeSeconds), ("max_workers", .int r.maxWorkers),
     ("random_seed", .int r.randomSeed)]

structure VirtualClock where
  originAtUtc : String
  resolutionSeconds : Nat
deriving DecidableEq, Repr

def VirtualClock.toJson (clock : VirtualClock) : Json :=
  .obj
    [("clock_version", .str "virtual-clock.v1"), ("origin_at_utc", .str clock.originAtUtc),
     ("resolution_seconds", .int clock.resolutionSeconds)]

/-- What one run depends on besides its schedule. The data plane, the binding and the synthetic
flag are constants; what the constructor checks of the texts narrows the values only. -/
structure ExecutionSimulatorConfig where
  environment : String
  factoryId : String
  planningScopeId : String
  baseScheduleVersion : PublishedScheduleReference
  baseSnapshot : ArtifactReference
  baseProblem : ArtifactReference
  scenario : VersionedAssetReference
  factoryProfile : VersionedAssetReference
  generator : VersionedAssetReference
  simulator : VersionedAssetReference
  seed : Nat
  requiredCapabilities : List String
  virtualClock : VirtualClock
  planningPolicy : PlanningPolicyReference
  solveLimits : SolveLimitsReference
  codeCommit : String
deriving DecidableEq, Repr

/-- `as_document` -/
def ExecutionSimulatorConfig.toJson (config : ExecutionSimulatorConfig) : Json :=
  .obj
    [("run_version", .str "execution-simulator-run.v1"), ("data_plane", .str "SIMULATION"),
     ("environment", .str config.environment), ("production_binding", .bool false),
     ("synthetic", .bool true), ("factory_id", .str config.factoryId),
     ("planning_scope_id", .str config.planningScopeId),
     ("base_schedule_version", config.baseScheduleVersion.toJson),
     ("base_snapshot", config.baseSnapshot.toJson), ("base_problem", config.baseProblem.toJson),
     ("scenario", config.scenario.toJson), ("factory_profile", config.factoryProfile.toJson),
     ("generator", config.generator.toJson), ("simulator", config.simulator.toJson),
     ("seed", .int config.seed),
     ("required_capabilities", .strings config.requiredCapabilities),
     ("child_seed_derivation_version", .str "named-child-seed.v1"),
     ("virtual_clock", config.virtualClock.toJson),
     ("planning_policy", config.planningPolicy.toJson),
     ("solve_limits", config.solveLimits.toJson), ("code_commit", .str config.codeCommit)]

/-! ### Schedules of events -/

/-- A declared event; its payload stands for the canonical bytes. -/
structure ScheduledExecutionEvent where
  eventKey : String
  offsetSeconds : Nat
  eventType : ExecutionEventType
  payload : Json
  kind : payload.get "kind" = .str eventType.text

def ScheduledExecutionEvent.toJson (event : ScheduledExecutionEvent) : Json :=
  .obj
    [("event_key", .str event.eventKey), ("offset_seconds", .int event.offsetSeconds),
     ("event_type", .str event.eventType.text), ("payload", event.payload)]

/-- A schedule of events under distinct keys. -/
structure VersionedExecutionSchedule where
  configId : String
  configVersion : String
  baseScheduleContentFingerprint : String
  scenarioFingerprint : String
  factoryProfileFingerprint : String
  generatorFingerprint : String
  events : List ScheduledExecutionEvent
  nonempty : events ≠ []
  keys : (events.map ScheduledExecutionEvent.eventKey).Nodup

namespace VersionedExecutionSchedule

/-- `as_document` -/
def toJson (schedule : VersionedExecutionSchedule) : Json :=
  .obj
    [("schedule_version", .str "execution-event-schedule.v1"),
     ("config_id", .str schedule.configId), ("config_version", .str schedule.configVersion),
     ("base_schedule_content_fingerprint", .str schedule.baseScheduleContentFingerprint),
     ("scenario_fingerprint", .str schedule.scenarioFingerprint),
     ("factory_profile_fingerprint", .str schedule.factoryProfileFingerprint),
     ("generator_fingerprint", .str schedule.generatorFingerprint),
     ("events", .arr ((sortByKey ScheduledExecutionEvent.eventKey schedule.events).map
       ScheduledExecutionEvent.toJson))]

def fingerprint (schedule : VersionedExecutionSchedule) : String :=
  contractFingerprint schedule.toJson

/-- The same schedule with its events declared in another order. -/
structure Reordered (schedule other : VersionedExecutionSchedule) : Prop where
  configId : other.configId = schedule.configId
  configVersion : other.configVersion = schedule.configVersion
  baseScheduleContentFingerprint :
    other.baseScheduleContentFingerprint = schedule.baseScheduleContentFingerprint
  scenarioFingerprint : other.scenarioFingerprint = schedule.scenarioFingerprint
  factoryProfileFingerprint : other.factoryProfileFingerprint = schedule.factoryProfileFingerprint
  generatorFingerprint : other.generatorFingerprint = schedule.generatorFingerprint
  events : schedule.events.Perm other.events

end VersionedExecutionSchedule

/-! ### Seeds -/

structure SeedMaterial where
  rootSeed : Nat
  generatorId : String
  generatorVersion : String
  namespaceText : String
deriving DecidableEq, Repr

inductive SimulatorFailure where
  | invalidConfig
  | sourceMismatch
  | orderingViolation
  | checkpointMismatch
  | ingressRejected
deriving DecidableEq, Repr

/-- What the simulator raises: its own error, that of a seed name, or an instant past the last
year. -/
inductive SimulatorError where
  | rejected (reason : SimulatorFailure) (field message : String)
  | invalidIdentity (field : String)
  | overflow
deriving DecidableEq, Repr

/-- `child`; the name of the child and the whole name are identifiers. -/
def SeedMaterial.child (seed : SeedMaterial) (name : String) :
    Except SimulatorError SeedMaterial := do
  require (isCanonicalId name = true) (.invalidIdentity "seed child namespace")
  let namespaceText := s!"{seed.namespaceText}/{name}"
  require (isCanonicalId namespaceText = true) (.invalidIdentity "seed namespace")
  return { seed with namespaceText }

/-- `derive_uint64(label)`: the first eight bytes of the digest. -/
def SeedMaterial.deriveUint64 (seed : SeedMaterial) (label : String) : Nat :=
  let payload : Json :=
    .obj
      [("generator_id", .str seed.generatorId),
       ("generator_version", .str seed.generatorVersion), ("index", .int 0),
       ("label", .str label), ("namespace", .str seed.namespaceText),
       ("root_seed", .int seed.rootSeed)]
  let state := Sha256.digest (payload.dumps.toList.flatMap String.utf8EncodeChar)
  state.a.toNat * 2 ^ 32 + state.b.toNat

/-! ### Compiling -/

/-- `_synthetic_provenance` -/
def syntheticProvenance (config : ExecutionSimulatorConfig) : Json :=
  .obj
    [("scenario_id", .str config.scenario.assetId),
     ("scenario_version", .str config.scenario.assetVersion),
     ("factory_profile_id", .str config.factoryProfile.assetId),
     ("profile_version", .str config.factoryProfile.assetVersion),
     ("generator_id", .str config.generator.assetId),
     ("generator_version", .str config.generator.assetVersion),
     ("simulator_id", .str config.simulator.assetId),
     ("simulator_version", .str config.simulator.assetVersion), ("seed", .int config.seed)]

def referenceJson (reference : String × String) : Json :=
  .obj [("entity_type", .str reference.1), ("entity_id", .str reference.2)]

/-- An entity that the payload of a declared event names. -/
def declaredReference (payload : Json) (entity : String × String) :
    Except SimulatorError (String × String) :=
  match payload.get entity.2 with
  | .str value => .ok (entity.1, value)
  | _ => .error (.rejected .invalidConfig s!"payload.{entity.2}" "must be a canonical identifier")

/-- `_entity_references` -/
def entityReferences (type : ExecutionEventType) (payload : Json) : Except SimulatorError Json := do
  let references ← collect (declaredReference payload) type.entityFields
  return .arr ((sortedReferences references).map referenceJson)

/-- A binding of the schedule to the input of the run. -/
def requireBinding (field observed expected : String) : Except SimulatorError Unit :=
  require (observed = expected)
    (.rejected .sourceMismatch s!"event_schedule.{field}" "does not match the exact run input")

/-- `_binding_guard` -/
def bindingGuard (config : ExecutionSimulatorConfig) (schedule : VersionedExecutionSchedule) :
    Except SimulatorError Unit := do
  requireBinding "base_schedule_content_fingerprint" schedule.baseScheduleContentFingerprint
    config.baseScheduleVersion.contentFingerprint
  requireBinding "scenario_fingerprint" schedule.scenarioFingerprint config.scenario.fingerprint
  requireBinding "factory_profile_fingerprint" schedule.factoryProfileFingerprint
    config.factoryProfile.fingerprint
  requireBinding "generator_fingerprint" schedule.generatorFingerprint config.generator.fingerprint
  forEach
    (fun _ event => require (event.offsetSeconds % config.virtualClock.resolutionSeconds = 0)
      (.rejected .orderingViolation s!"event_schedule.events[{event.eventKey}].offset_seconds"
        "must align to the virtual-clock resolution"))
    schedule.events

/-- `_run_fingerprint` -/
def runFingerprint (config : ExecutionSimulatorConfig) (schedule : VersionedExecutionSchedule) :
    String :=
  contractFingerprint
    (.obj
      [("execution_simulator_run_version", .str "execution-simulator-run.v1"),
       ("config", config.toJson), ("event_schedule_fingerprint", .str schedule.fingerprint)])

/-- The identities that a run has from its fingerprint. -/
structure RunAuthority where
  scope : ProjectionScope
  authority : Json
  sourceStream : Json
deriving DecidableEq

/-- `_run_authority` -/
def runAuthority (config : ExecutionSimulatorConfig) (fingerprint : String) : RunAuthority :=
  let suffix := fingerprintDigits fingerprint
  let authorityId := s!"authority-execution-simulator-{suffix}"
  let streamId := s!"execution-stream-{suffix}"
  let version := config.simulator.assetVersion
  { scope := ⟨config.factoryId, config.planningScopeId, authorityId, streamId, version⟩
    authority := .obj
      [("authority_version", .str "execution-event-authority.v1"),
       ("authority_id", .str authorityId),
       ("authority_scope", .str (authorityScope config.factoryId config.planningScopeId)),
       ("source", .obj
         [("source_system", .str "plantnexus-execution-simulator"),
          ("source_version", .str version), ("source_record_id", .str streamId)]),
       ("decision", .str "AUTHORIZED_SIMULATION_SOURCE"), ("production_binding", .bool false)]
    sourceStream := .obj
      [("stream_id", .str streamId), ("stream_version", .str version),
       ("authority_id", .str authorityId)] }

/-- The members of an event document under an identity and a fingerprint. -/
def eventMembers (config : ExecutionSimulatorConfig) (run : RunAuthority) (fingerprint : String)
    (scheduled : ScheduledExecutionEvent) (references : Json) (position : Nat)
    (occurredAtUtc eventId eventFingerprint : String) : List (String × Json) :=
  let runText := String.ofList ((fingerprintDigits fingerprint).toList.take 32)
  let keyText := String.ofList ((Sha256.hexdigest scheduled.eventKey).toList.take 16)
  [("execution_event_version", .str "execution-event.v1"), ("schema_set_version", .str "2.8.0"),
   ("canonicalization_version", .str "canonical-json.v1"), ("event_id", .str eventId),
   ("event_type", .str scheduled.eventType.text), ("data_plane", .str "SIMULATION"),
   ("environment", .str config.environment), ("factory_id", .str config.factoryId),
   ("planning_scope_id", .str config.planningScopeId), ("authority", run.authority),
   ("source_stream", run.sourceStream), ("source_position", .int position),
   ("occurred_at_utc", .str occurredAtUtc), ("received_at_utc", .str occurredAtUtc),
   ("entity_refs", references), ("payload", scheduled.payload), ("synthetic", .bool true),
   ("synthetic_provenance", syntheticProvenance config), ("production_binding", .bool false),
   ("correlation_id", .str s!"execution-simulation-{runText}-{keyText}"),
   ("event_fingerprint", .str eventFingerprint)]

/-- `_event_document` -/
def eventDocument (config : ExecutionSimulatorConfig) (run : RunAuthority) (fingerprint : String)
    (scheduled : ScheduledExecutionEvent) (position : Nat) (occurredAtUtc : String) :
    Except SimulatorError Json := do
  let references ← entityReferences scheduled.eventType scheduled.payload
  let members := eventMembers config run fingerprint scheduled references position occurredAtUtc
  let eventFingerprint := executionEventFingerprint (.obj (members "pending" "pending"))
  return .obj (members (executionEventId eventFingerprint) eventFingerprint)

/-- An event in the queue, with the rank that breaks ties. -/
structure QueuedEvent where
  event : ScheduledExecutionEvent
  tieBreak : Nat

/-- The order of the queue: by offset, by rank, by key. -/
def QueuedEvent.key (queued : QueuedEvent) : Nat ×ₗ Nat ×ₗ String :=
  toLex (queued.event.offsetSeconds, toLex (queued.tieBreak, queued.event.eventKey))

def queueEvent (queueSeed : SeedMaterial) (event : ScheduledExecutionEvent) :
    Except SimulatorError QueuedEvent := do
  let seed ← queueSeed.child event.eventKey
  return ⟨event, seed.deriveUint64 "tie-break"⟩

/-- `origin + timedelta(seconds=offset)`, written as text. -/
def occurrence (origin : Datetime) (offsetSeconds : Nat) : Except SimulatorError String :=
  match origin.addSeconds offsetSeconds with
  | none => .error .overflow
  | some instant => .ok (formatUtcInstant instant)

/-- The document of a queued event; positions count from one. -/
def queuedDocument (config : ExecutionSimulatorConfig) (run : RunAuthority) (fingerprint : String)
    (origin : Datetime) (item : QueuedEvent × Nat) : Except SimulatorError Json := do
  let occurredAtUtc ← occurrence origin item.1.event.offsetSeconds
  eventDocument config run fingerprint item.1.event (item.2 + 1) occurredAtUtc

/-- `CompiledExecutionStream`; a document stands for its canonical bytes. -/
structure CompiledExecutionStream where
  runFingerprint : String
  scope : ProjectionScope
  eventKeys : List String
  tieBreakRanks : List Nat
  events : List Json
deriving DecidableEq

namespace CompiledExecutionStream

def eventBytes (compiled : CompiledExecutionStream) : List String := compiled.events.map Json.dumps

def eventFingerprints (compiled : CompiledExecutionStream) : List String :=
  compiled.events.map fun event => (event.get "event_fingerprint").text

end CompiledExecutionStream

/-- `compile` -/
def compile (config : ExecutionSimulatorConfig) (schedule : VersionedExecutionSchedule) :
    Except SimulatorError CompiledExecutionStream := do
  bindingGuard config schedule
  let fingerprint := runFingerprint config schedule
  let run := runAuthority config fingerprint
  let root : SeedMaterial := ⟨config.seed, config.simulator.assetId, config.simulator.assetVersion,
    "root"⟩
  let queueSeed ← root.child "execution-event-queue"
  let queued ← collect (queueEvent queueSeed) schedule.events
  let queue := sortByKey QueuedEvent.key queued
  let origin ← (parseUtcInstant config.virtualClock.originAtUtc).mapError fun _ =>
    SimulatorError.rejected .invalidConfig "virtual_clock.origin_at_utc"
      "must be an RFC3339 UTC instant"
  let documents ← collect (queuedDocument config run fingerprint origin) queue.zipIdx
  let _ ← (validateEventPrefix run.scope documents).mapError fun _ =>
    SimulatorError.rejected .invalidConfig "event_schedule.events"
      "compiled stream failed the P4-04 event contract"
  return ⟨fingerprint, run.scope, queue.map fun item => item.event.eventKey,
    queue.map QueuedEvent.tieBreak, documents⟩

/-! ### Running -/

/-- Restart evidence for a prefix of the stream. -/
structure ExecutionSimulatorCheckpoint where
  runFingerprint : String
  lastEmittedPosition : Nat
  prefixFingerprint : String
deriving DecidableEq, Repr

/-- The checkpoint after a number of events. -/
def CompiledExecutionStream.checkpoint (compiled : CompiledExecutionStream) (position : Nat) :
    ExecutionSimulatorCheckpoint :=
  ⟨compiled.runFingerprint, position,
    eventStreamFingerprint (compiled.eventFingerprints.take position)⟩

/-- A run between two deliveries: the events up to `next` have been delivered. -/
structure Delivery where
  compiled : CompiledExecutionStream
  maxEvents : Option Nat
  start : Nat
  next : Nat
deriving DecidableEq

structure ExecutionSimulationResult where
  compiled : CompiledExecutionStream
  throughPosition : Nat
  emittedPositions : List Nat
  checkpoint : ExecutionSimulatorCheckpoint
deriving DecidableEq

def ExecutionSimulationResult.eventBytes (result : ExecutionSimulationResult) : List String :=
  result.compiled.eventBytes.take result.throughPosition

/-- The position a run stops after. -/
def stopPosition (length start : Nat) : Option Nat → Nat
  | none => length
  | some maxEvents => min length (start + maxEvents)

def Delivery.stop (delivery : Delivery) : Nat :=
  stopPosition delivery.compiled.events.length delivery.start delivery.maxEvents

/-- `run` before its loop. -/
def startRun (config : ExecutionSimulatorConfig) (schedule : VersionedExecutionSchedule)
    (checkpoint : Option ExecutionSimulatorCheckpoint) (maxEvents : Option Nat) :
    Except SimulatorError Delivery := do
  let compiled ← compile config schedule
  let current := checkpoint.getD (compiled.checkpoint 0)
  require (current.runFingerprint = compiled.runFingerprint ∧
    current.lastEmittedPosition ≤ compiled.events.length ∧
    current.prefixFingerprint =
      eventStreamFingerprint (compiled.eventFingerprints.take current.lastEmittedPosition))
    (.rejected .checkpointMismatch "checkpoint" "does not match the exact run prefix")
  require (maxEvents ≠ some 0)
    (.rejected .invalidConfig "max_events" "must be a positive integer when provided")
  return ⟨compiled, maxEvents, current.lastEmittedPosition, current.lastEmittedPosition⟩

/-- `run` after its loop. -/
def Delivery.result (delivery : Delivery) : ExecutionSimulationResult :=
  { compiled := delivery.compiled
    throughPosition := delivery.stop
    emittedPositions :=
      (List.range' delivery.start (delivery.stop - delivery.start)).map (· + 1)
    checkpoint := delivery.compiled.checkpoint delivery.stop }

section
variable {σ ε : Type} (ingest : σ → Json → Except ε σ)

/-- The loop of `run` over the events that are left. -/
def deliverEvents (index : Nat) : List Json → σ → Except SimulatorError σ
  | [], s => .ok s
  | event :: rest, s =>
    match ingest s event with
    | .error _ => .error (.rejected .ingressRejected s!"event_stream.position[{index + 1}]"
        "the common ExecutionEvent ingress rejected the event")
    | .ok s' => deliverEvents (index + 1) rest s'

/-- `run` that nothing interrupts. -/
def runUninterrupted (config : ExecutionSimulatorConfig) (schedule : VersionedExecutionSchedule)
    (checkpoint : Option ExecutionSimulatorCheckpoint) (maxEvents : Option Nat) (s : σ) :
    Except SimulatorError (σ × ExecutionSimulationResult) := do
  let delivery ← startRun config schedule checkpoint maxEvents
  let s' ← deliverEvents ingest delivery.start
    ((delivery.compiled.events.take delivery.stop).drop delivery.start) s
  return (s', delivery.result)

end

end PlantNexus.Execution
