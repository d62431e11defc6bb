import PlantNexus.Execution.Events
import Mathlib.Algebra.Order.Field.Rat
import Mathlib.Algebra.Order.Ring.Rat

/-! The duration provider.

`predict` forms one prediction carrier from a request, the runtime policy and whatever the
candidate predictor does: the model value when every check of the feature record and of the
candidate passes, the standard seconds otherwise. A check that fails names its fallback reason;
a request that no carrier can answer raises `P6RuntimeError`. Other exceptions are those of the
interpreter: a missing key of the policy document, a value that is no dictionary key, an integer
that is no float. -/
namespace PlantNexus.Duration
open Data Time Domain
open Execution (HasFields withoutFields fingerprintDigits)

/-- An exception that leaves the provider. -/
inductive Failure where
  /-- `P6RuntimeError` -/
  | runtime (code detail : String)
  | typeError (message : String)
  | keyError (key : String)
  | overflowError (message : String)
deriving DecidableEq, Repr

/-- `REGISTERED_FALLBACK_REASONS` -/
inductive FallbackReason where
  | predictionMissing
  | providerUnavailable
  | providerTimeout
  | invalidQuantiles
  | confidenceMissing
  | confidenceInvalid
  | lowConfidence
  | modelNotApproved
  | modelOutOfScope
  | modelVersionIncompatible
  | featureVersionIncompatible
  | datasetVersionIncompatible
  | contractVersionIncompatible
  | artifactDigestMismatch
  | provenanceIncomplete
  | evaluationGateNotPassed
  | driftGateDisabled
  | authorityNotEstablished
  | privacyGovernanceFailed
deriving DecidableEq, Repr

namespace FallbackReason

def all : List FallbackReason :=
  [predictionMissing, providerUnavailable, providerTimeout, invalidQuantiles, confidenceMissing,
   confidenceInvalid, lowConfidence, modelNotApproved, modelOutOfScope, modelVersionIncompatible,
   featureVersionIncompatible, datasetVersionIncompatible, contractVersionIncompatible,
   artifactDigestMismatch, provenanceIncomplete, evaluationGateNotPassed, driftGateDisabled,
   authorityNotEstablished, privacyGovernanceFailed]

def text : FallbackReason → String
  | predictionMissing => "PREDICTION_MISSING"
  | providerUnavailable => "PROVIDER_UNAVAILABLE"
  | providerTimeout => "PROVIDER_TIMEOUT"
  | invalidQuantiles => "INVALID_QUANTILES"
  | confidenceMissing => "CONFIDENCE_MISSING"
  | confidenceInvalid => "CONFIDENCE_INVALID"
  | lowConfidence => "LOW_CONFIDENCE"
  | modelNotApproved => "MODEL_NOT_APPROVED"
  | modelOutOfScope => "MODEL_OUT_OF_SCOPE"
  | modelVersionIncompatible => "MODEL_VERSION_INCOMPATIBLE"
  | featureVersionIncompatible => "FEATURE_VERSION_INCOMPATIBLE"
  | datasetVersionIncompatible => "DATASET_VERSION_INCOMPATIBLE"
  | contractVersionIncompatible => "CONTRACT_VERSION_INCOMPATIBLE"
  | artifactDigestMismatch => "ARTIFACT_DIGEST_MISMATCH"
  | provenanceIncomplete => "PROVENANCE_INCOMPLETE"
  | evaluationGateNotPassed => "EVALUATION_GATE_NOT_PASSED"
  | driftGateDisabled => "DRIFT_GATE_DISABLED"
  | authorityNotEstablished => "AUTHORITY_NOT_ESTABLISHED"
  | privacyGovernanceFailed => "PRIVACY_GOVERNANCE_FAILED"

def ofText (value : String) : Option FallbackReason := all.find? fun reason => reason.text = value

end FallbackReason

/-! ### Values -/

mutual

/-- `json.dumps` has a text for the value: an integer of more than 4300 digits has none. -/
def writable : Json → Bool
  | .int value => value.natAbs < 10 ^ 4300
  | .arr items => writableItems items
  | .obj members => writableMembers members
  | _ => true

def writableItems : List Json → Bool
  | [] => true
  | item :: rest => writable item && writableItems rest

def writableMembers : List (String × Json) → Bool
  | [] => true
  | (_, value) :: rest => writable value && writableMembers rest

end

/-- `_canonical_json_bytes` -/
def canonicalJsonBytes (value : Json) : Except Failure String := do
  require (writable value = true) (.runtime "INVALID_JSON_VALUE" "runtime payload")
  return value.dumps

/-- `_fingerprint` -/
def fingerprint (value : Json) : Except Failure String := do
  let text ← canonicalJsonBytes value
  return "sha256:" ++ Sha256.hexdigest text

/-- `_expect_object` -/
def expectObject (value : Json) (path : String) : Except Failure Unit :=
  require (value.isObj = true) (.runtime "INVALID_OBJECT" path)

/-- `_expect_keys` -/
def expectKeys (value : Json) (expected : List String) (path : String) : Except Failure Unit :=
  require (HasFields value expected) (.runtime "OBJECT_SHAPE_MISMATCH" path)

/-- `_expect_int` -/
def expectInt (value : Json) (path : String) (minimum : Int) : Except Failure Int :=
  match value with
  | .int n => if n < minimum then .error (.runtime "INVALID_INTEGER" path) else .ok n
  | _ => .error (.runtime "INVALID_INTEGER" path)

/-- `_expect_identifier` -/
def expectIdentifier (value : Json) (path : String) : Except Failure String :=
  match value with
  | .str text =>
    if isCanonicalId text then .ok text else .error (.runtime "INVALID_IDENTIFIER" path)
  | _ => .error (.runtime "INVALID_IDENTIFIER" path)

/-- `_expect_fingerprint` -/
def expectFingerprint (value : Json) (path : String) : Except Failure String := do
  let text ← expectIdentifier value path
  require (text.length = 71 ∧ "sha256:".toList.isPrefixOf text.toList = true ∧
    (text.toList.drop 7).all (fun c => c ∈ "0123456789abcdef".toList) = true)
    (.runtime "INVALID_FINGERPRINT" path)
  return text

/-- `_utc_instant` -/
def utcInstant (value : Json) (path : String) : Except Failure Datetime :=
  match value with
  | .str text => (parseUtcInstant text).mapError fun _ => .runtime "INVALID_UTC_INSTANT" path
  | _ => .error (.runtime "INVALID_UTC_INSTANT" path)

/-- `document[key]` -/
def item (key : String) (document : Json) : Except Failure Json :=
  if key ∈ document.keys then .ok (document.get key) else .error (.keyError key)

/-! ### Inputs -/

/-- `LoadedRuntimePolicy`, as far as a prediction reads it. -/
structure LoadedRuntimePolicy where
  document : Json
  confidenceThreshold : ℚ
  predictionTimeoutNs : Int
  maxFeatureRecordBytes : Nat
  maxPredictionBytes : Nat
  maxFeatures : Nat
  maxSourceRecords : Nat

/-- A `confidence` of a candidate: absent, a finite number with its exact value, or anything
else. -/
inductive Confidence where
  | missing
  | exact (value : ℚ)
  | other

/-- `DurationCandidate`. A quantile that is no integer is `none`. -/
structure DurationCandidate where
  p50Seconds : Option Int
  p90Seconds : Option Int
  confidence : Confidence
  deriveConfidence : Bool

/-- What a call of the candidate predictor comes to. -/
inductive Predicted where
  /-- `DurationProviderSignal` -/
  | signal (fallbackReason : String)
  /-- `P6ModelError` -/
  | modelError (code : String)
  /-- Any other exception. -/
  | raised
  | none
  | candidate (value : DurationCandidate)

/-- `DurationPredictionProvider`; `elapsed` is the difference of its clock readings. The reasons
that building a provider ends with are registered ones. -/
structure DurationPredictionProvider (Model : Type) where
  policy : LoadedRuntimePolicy
  model : Option Model
  startupFallbackReason : Option FallbackReason
  candidatePredictor : Model → Json → Predicted
  elapsed : Int

/-- `DurationPredictionRequest`; the two mappings are their items. -/
structure DurationPredictionRequest where
  factoryId : Json
  operationId : Json
  resourceOptionId : Json
  resourceId : Json
  predictedAtUtc : Json
  asOfCutoffUtc : Json
  standardDuration : List (String × Json)
  featureRecord : List (String × Json)

def DurationPredictionRequest.record (request : DurationPredictionRequest) : Json :=
  .obj request.featureRecord

def DurationPredictionRequest.standard (request : DurationPredictionRequest) : Json :=
  .obj request.standardDuration

/-! ### The standard duration and the feature record -/

def standardDurationKeys : List String :=
  ["seconds", "duration_source", "source_version", "source_record_id",
   "source_record_fingerprint"]

/-- `_validate_standard_duration` -/
def validateStandardDuration (value : Json) : Except Failure Unit := do
  expectObject value "standard-duration"
  expectKeys value standardDurationKeys "standard-duration"
  let _ ← expectInt (value.get "seconds") "standard-duration.seconds" 1
  let _ ← expectIdentifier (value.get "duration_source") "standard-duration.duration_source"
  let _ ← expectIdentifier (value.get "source_version") "standard-duration.source_version"
  let _ ← expectIdentifier (value.get "source_record_id") "standard-duration.source_record_id"
  let _ ← expectFingerprint (value.get "source_record_fingerprint")
    "standard-duration.source_record_fingerprint"

def sensitiveKeys : List String :=
  ["actual_processing_seconds", "credential", "credentials", "email", "free_text", "label",
   "password", "phone", "raw_payload", "secret", "token"]

def sensitiveEndings : List String := ["_password", "_secret", "_token", "_credential"]

/-- A key that must not occur, whatever its case. -/
def isSensitive (key : String) : Bool :=
  lowerKey key ∈ sensitiveKeys ||
    sensitiveEndings.any fun ending => ending.toList.isSuffixOf (lowerKey key).toList

mutual

/-- `_contains_sensitive_key` -/
def containsSensitiveKey : Json → Bool
  | .obj members => sensitiveMembers members
  | .arr items => sensitiveItems items
  | _ => false

def sensitiveMembers : List (String × Json) → Bool
  | [] => false
  | (key, child) :: rest => isSensitive key || containsSensitiveKey child || sensitiveMembers rest

def sensitiveItems : List Json → Bool
  | [] => false
  | item :: rest => containsSensitiveKey item || sensitiveItems rest

end

def openAuthorityGaps : Json := .strings ["OPEN-010", "OPEN-011", "OPEN-014", "OPEN-015"]

def featureRootKeys : List String :=
  ["as_of_cutoff_utc", "canonicalization_version", "data_plane",
   "duration_feature_record_version", "environment", "factory_id", "feature_record_fingerprint",
   "feature_record_id", "feature_schema_version", "features", "governance_boundary",
   "operation_id", "pii_fields_present", "production_binding", "resource_id",
   "resource_option_id", "schema_set_version", "source_records", "synthetic",
   "synthetic_provenance", "target_fields_present"]

def sourceRecordKeys : List String :=
  ["available_at_utc", "observed_at_utc", "record_fingerprint", "source_record_id",
   "source_system", "source_version"]

def featureKeys : List String :=
  ["available_at_utc", "feature_name", "source_record_ids", "transform_version", "unit", "value",
   "value_type"]

def expectedFeatureNames : List String :=
  ["operation_family", "planned_quantity", "setup_seconds", "standard_duration_seconds"]

/-- `_feature_reference` -/
def featureReference (record : Json) : Except Failure Json := do
  let id ← expectIdentifier (record.get "feature_record_id") "feature-record.id"
  let fingerprint ← expectFingerprint (record.get "feature_record_fingerprint")
    "feature-record.fingerprint"
  return .obj
    [("duration_feature_record_version", .str "duration-feature-record.v1"),
     ("feature_record_id", .str id), ("feature_record_fingerprint", .str fingerprint),
     ("feature_schema_version", .str "duration-features.v1")]

/-- How the checks of a feature record end early. -/
inductive Stop where
  | fallback (reason : FallbackReason)
  | failure (failure : Failure)
deriving DecidableEq, Repr

/-- The fields of the record that must equal the request's. -/
def scopeFields (request : DurationPredictionRequest) : List (String × Json) :=
  [("factory_id", request.factoryId), ("operation_id", request.operationId),
   ("resource_option_id", request.resourceOptionId), ("resource_id", request.resourceId),
   ("as_of_cutoff_utc", request.asOfCutoffUtc)]

/-- The record without its identity. -/
def recordProjection (record : Json) : Json :=
  withoutFields record ["feature_record_id", "feature_record_fingerprint"]

/-- The checks of the record before its collections, which it returns. -/
def checkRecord (policy : LoadedRuntimePolicy) (request : DurationPredictionRequest)
    (record : Json) : Except Stop (List Json × List Json) := do
  require (writable record = true ∧ record.dumps.utf8ByteSize ≤ policy.maxFeatureRecordBytes)
    (.fallback .featureVersionIncompatible)
  require (containsSensitiveKey record = false) (.fallback .privacyGovernanceFailed)
  require (HasFields record featureRootKeys) (.fallback .contractVersionIncompatible)
  require (record.get "duration_feature_record_version" = .str "duration-feature-record.v1" ∧
    record.get "feature_schema_version" = .str "duration-features.v1")
    (.fallback .featureVersionIncompatible)
  require (record.get "schema_set_version" = .str "2.9.0" ∧
    record.get "canonicalization_version" = .str "canonical-json.v1")
    (.fallback .contractVersionIncompatible)
  require (record.get "data_plane" = .str "SIMULATION" ∧ record.get "environment" = .str "TEST")
    (.fallback .authorityNotEstablished)
  require (record.get "pii_fields_present" = .bool false ∧
    record.get "target_fields_present" = .bool false ∧ record.get "synthetic" = .bool true ∧
    record.get "production_binding" = .bool false ∧
    (record.get "governance_boundary").pyEq (.obj
      [("open_authority_gaps", openAuthorityGaps), ("production_authorized", .bool false)]) = true)
    (.fallback .privacyGovernanceFailed)
  let expected ← (fingerprint (recordProjection record)).mapError .failure
  require (record.get "feature_record_fingerprint" = .str expected ∧
    record.get "feature_record_id" =
      .str ("duration-feature-record-" ++ fingerprintDigits expected))
    (.fallback .provenanceIncomplete)
  require (∀ field ∈ scopeFields request, (record.get field.1).pyEq field.2 = true)
    (.fallback .provenanceIncomplete)
  match record.get "source_records", record.get "features" with
  | .arr sources, .arr features =>
    require (sources.length = policy.maxSourceRecords ∧ features.length = policy.maxFeatures)
      (.fallback .featureVersionIncompatible)
    return (sources, features)
  | _, _ => .error (.fallback .featureVersionIncompatible)

/-- `dictionary.get(key)` of a dictionary by its items. -/
def lookup (items : List (String × Json)) (key : String) : Option Json :=
  (items.find? fun entry => entry.1 = key).map Prod.snd

/-- One source record; what the `try` block raises is one fallback. -/
def checkSource (cutoff : Datetime) (sourceById : List (String × Json)) (source : Json) :
    Except Stop (List (String × Json)) := do
  require (source.isObj = true ∧ HasFields source sourceRecordKeys)
    (.fallback .featureVersionIncompatible)
  match source.get "source_record_id" with
  | .str sourceId =>
    require (sourceId ∉ sourceById.map Prod.fst) (.fallback .provenanceIncomplete)
    let (observed, available) ← (do
      let _ ← expectFingerprint (source.get "record_fingerprint") "source.fingerprint"
      let observed ← utcInstant (source.get "observed_at_utc") "source.observed"
      let available ← utcInstant (source.get "available_at_utc") "source.available"
      return (observed, available)).mapError fun _ => .fallback .featureVersionIncompatible
    require (¬(available < observed ∨ cutoff < available)) (.fallback .provenanceIncomplete)
    return sourceById ++ [(sourceId, source)]
  | _ => .error (.fallback .provenanceIncomplete)

/-- `source_ids[0] not in source_by_id`: a list or an object is no dictionary key. -/
def knownSource (sourceById : List (String × Json)) : Json → Except Failure Bool
  | .arr _ => .error (.typeError "unhashable type: 'list'")
  | .obj _ => .error (.typeError "unhashable type: 'dict'")
  | .str sourceId => .ok (sourceId ∈ sourceById.map Prod.fst)
  | _ => .ok false

/-- One feature. -/
def checkFeature (sourceById : List (String × Json)) (featureByName : List (String × Json))
    (feature : Json) : Except Stop (List (String × Json)) := do
  require (feature.isObj = true ∧ HasFields feature featureKeys)
    (.fallback .featureVersionIncompatible)
  match feature.get "feature_name" with
  | .str name =>
    require (name ∉ featureByName.map Prod.fst) (.fallback .featureVersionIncompatible)
    match feature.get "source_record_ids" with
    | .arr [sourceId] =>
      let known ← (knownSource sourceById sourceId).mapError .failure
      require (known = true) (.fallback .provenanceIncomplete)
      return featureByName ++ [(name, feature)]
    | _ => .error (.fallback .provenanceIncomplete)
  | _ => .error (.fallback .featureVersionIncompatible)

/-- The first of a feature's source record ids. -/
def sourceIdOf (feature : Json) : String :=
  match feature.get "source_record_ids" with
  | .arr (sourceId :: _) => sourceId.text
  | _ => ""

/-- The fields of the standard feature's source that must equal the standard duration's. -/
def standardFields : List (String × String) :=
  [("source_system", "duration_source"), ("source_version", "source_version"),
   ("source_record_id", "source_record_id"), ("record_fingerprint", "source_record_fingerprint")]

/-- The standard feature and its source name the standard duration. -/
def NamesStandard (standard feature source : Json) : Prop :=
  (feature.get "value").pyEq (standard.get "seconds") = true ∧
    ∀ field ∈ standardFields, (source.get field.1).pyEq (standard.get field.2) = true

instance (standard feature source : Json) : Decidable (NamesStandard standard feature source) :=
  inferInstanceAs (Decidable (_ ∧ _))

/-- The checks of all features together. -/
def checkStandard (standard : Json) (sourceById featureByName : List (String × Json)) :
    Except Stop Unit := do
  require (sortByKey id (featureByName.map Prod.fst) = expectedFeatureNames)
    (.fallback .featureVersionIncompatible)
  let feature := (lookup featureByName "standard_duration_seconds").getD .null
  let source := (lookup sourceById (sourceIdOf feature)).getD .null
  require (NamesStandard standard feature source) (.fallback .provenanceIncomplete)

/-- `_feature_fallback_reason`, with `None` as passing. -/
def checkFeatureRecord (policy : LoadedRuntimePolicy) (request : DurationPredictionRequest)
    (cutoff : Datetime) : Except Stop Unit := do
  let (sources, features) ← checkRecord policy request request.record
  let sourceById ← sources.foldlM (checkSource cutoff) []
  let featureByName ← features.foldlM (checkFeature sourceById) []
  checkStandard request.standard sourceById featureByName

def featureFallbackReason (policy : LoadedRuntimePolicy) (request : DurationPredictionRequest)
    (cutoff : Datetime) : Except Failure (Option FallbackReason) :=
  match checkFeatureRecord policy request cutoff with
  | .ok () => .ok none
  | .error (.fallback reason) => .ok (some reason)
  | .error (.failure failure) => .error failure

end PlantNexus.Duration
