import PlantNexus.Data.Lists

/-! The capability registry and the declaration precheck. -/
namespace PlantNexus.Domain

inductive CapabilityStatus where
  | v1Supported
  | unsupported
  | deferred
deriving DecidableEq, Repr

inductive CapabilityName where
  | singleFactoryMultiWorkshop
  | dagRouting
  | alternativeResource
  | machineCalendar
  | releaseAndMaterialGate
  | runningOperation
  | hardSoftLock
  | approvalAndPublication
  | dynamicReplanning
  | secondaryCapacity
  | sequenceDependentSetup
  | batchProcessing
  | splitMerge
  | materialCompetition
  | preemptiveOperation
  | bufferCapacity
  | alternativeMaterial
  | multiFactory
  | aiDurationPrediction
  | realityCalibration
deriving DecidableEq, Repr

namespace CapabilityName

def text : CapabilityName → String
  | singleFactoryMultiWorkshop => "SINGLE_FACTORY_MULTI_WORKSHOP"
  | dagRouting => "DAG_ROUTING"
  | alternativeResource => "ALTERNATIVE_RESOURCE"
  | machineCalendar => "MACHINE_CALENDAR"
  | releaseAndMaterialGate => "RELEASE_AND_MATERIAL_GATE"
  | runningOperation => "RUNNING_OPERATION"
  | hardSoftLock => "HARD_SOFT_LOCK"
  | approvalAndPublication => "APPROVAL_AND_PUBLICATION"
  | dynamicReplanning => "DYNAMIC_REPLANNING"
  | secondaryCapacity => "SECONDARY_CAPACITY"
  | sequenceDependentSetup => "SEQUENCE_DEPENDENT_SETUP"
  | batchProcessing => "BATCH_PROCESSING"
  | splitMerge => "SPLIT_MERGE"
  | materialCompetition => "MATERIAL_COMPETITION"
  | preemptiveOperation => "PREEMPTIVE_OPERATION"
  | bufferCapacity => "BUFFER_CAPACITY"
  | alternativeMaterial => "ALTERNATIVE_MATERIAL"
  | multiFactory => "MULTI_FACTORY"
  | aiDurationPrediction => "AI_DURATION_PREDICTION"
  | realityCalibration => "REALITY_CALIBRATION"

/-- `CAPABILITY_STATUS_BY_NAME` -/
def status : CapabilityName → CapabilityStatus
  | secondaryCapacity | sequenceDependentSetup | batchProcessing | splitMerge
  | materialCompetition | preemptiveOperation | bufferCapacity | alternativeMaterial
  | multiFactory => .unsupported
  | aiDurationPrediction | realityCalibration => .deferred
  | _ => .v1Supported

def all : List CapabilityName :=
  [singleFactoryMultiWorkshop, dagRouting, alternativeResource, machineCalendar,
   releaseAndMaterialGate, runningOperation, hardSoftLock, approvalAndPublication,
   dynamicReplanning, secondaryCapacity, sequenceDependentSetup, batchProcessing, splitMerge,
   materialCompetition, preemptiveOperation, bufferCapacity, alternativeMaterial, multiFactory,
   aiDurationPrediction, realityCalibration]

/-- `CapabilityName(raw_name)` -/
def ofText (raw : String) : Option CapabilityName := all.find? fun name => name.text = raw

end CapabilityName

inductive CapabilityErrorCode where
  | duplicateCapability
  | invalidCapabilityDeclaration
  | unsupportedCapability
deriving DecidableEq, Repr

structure CapabilityContractError where
  code : CapabilityErrorCode
  capabilityNames : List String
deriving DecidableEq, Repr

/-- `require_v1_capability_contract` -/
def requireV1CapabilityContract (required : List String) :
    Except CapabilityContractError (List CapabilityName) :=
  let duplicates := (required.filter fun name => required.count name > 1).dedup
  let parsed := required.filterMap CapabilityName.ofText
  let unknown := required.filter fun name => (CapabilityName.ofText name).isNone
  let blocked := parsed.filter fun name => name.status ≠ .v1Supported
  if duplicates ≠ [] then
    .error ⟨.duplicateCapability, Data.sortByKey id duplicates⟩
  else if unknown ≠ [] then
    .error ⟨.invalidCapabilityDeclaration, Data.sortByKey id unknown⟩
  else if blocked ≠ [] then
    .error ⟨.unsupportedCapability, Data.sortByKey id (blocked.map CapabilityName.text)⟩
  else .ok parsed

end PlantNexus.Domain
