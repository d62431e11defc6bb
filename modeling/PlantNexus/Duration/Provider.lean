import PlantNexus.Duration.Runtime

/-! The decision on a candidate, the prediction carrier and its validator. -/
namespace PlantNexus.Duration
open Data Time Domain
open Execution (HasFields withoutFields fingerprintDigits)

/-! ### Candidates -/

/-- `part in text` -/
def mentions (part text : String) : Bool :=
  text.toList.tails.any fun rest => part.toList.isPrefixOf rest

/-- `_model_fallback_reason` of an error by its code. -/
def modelFallbackReason (code : String) : FallbackReason :=
  if code ∈ ["ARTIFACT_READ_FAILED", "DEPENDENCY_LOCK_READ_FAILED"] then .providerUnavailable
  else if code ∈ ["ARTIFACT_DIGEST_MISMATCH", "FINGERPRINT_MISMATCH"] then .artifactDigestMismatch
  else if mentions "MODEL_VERSION" code ∨
      code ∈ ["ALGORITHM_INCOMPATIBLE", "SERIALIZATION_VERSION_INCOMPATIBLE"] then
    .modelVersionIncompatible
  else if mentions "FEATURE_VERSION" code ∨ code = "FEATURE_CONTRACT_MISMATCH" then
    .featureVersionIncompatible
  else if mentions "DATASET" code then .datasetVersionIncompatible
  else if code ∈ ["MODEL_OUT_OF_SCOPE", "MODEL_SCOPE_MISMATCH"] then .modelOutOfScope
  else if code ∈ ["GOVERNANCE_BOUNDARY_MISMATCH", "UNSAFE_SERIALIZATION_FORMAT",
      "UNSAFE_ARTIFACT_PATH"] then .modelNotApproved
  else if code ∈ ["INVALID_MODEL_OUTPUT", "INVALID_MODEL_PARAMETERS"] then .invalidQuantiles
  else .provenanceIncomplete

/-- `interval_tightness_confidence` -/
def intervalTightnessConfidence (p50 p90 : Int) : ℚ :=
  max 0 (((p50 - (p90 - p50) : Int) : ℚ) / p50)

/-- What is selected: the standard duration for a reason, or the model's quantiles with their
exact confidence. -/
inductive Decision where
  | fallback (reason : FallbackReason)
  | model (p50 p90 : Int) (confidence : ℚ)

/-- The confidence of a candidate, or why it has none. -/
def candidateConfidence (candidate : DurationCandidate) (p50 p90 : Int) :
    Except FallbackReason ℚ :=
  if candidate.deriveConfidence then .ok (intervalTightnessConfidence p50 p90)
  else
    match candidate.confidence with
    | .missing => .error .confidenceMissing
    | .other => .error .confidenceInvalid
    | .exact value => if value < 0 ∨ 1 < value then .error .confidenceInvalid else .ok value

/-- The checks of a candidate that was returned in time. -/
def judgeCandidate (policy : LoadedRuntimePolicy) (candidate : DurationCandidate) : Decision :=
  match candidate.p50Seconds, candidate.p90Seconds with
  | some p50, some p90 =>
    if p50 ≤ 0 ∨ p90 ≤ 0 ∨ p90 < p50 then .fallback .invalidQuantiles
    else
      match candidateConfidence candidate p50 p90 with
      | .error reason => .fallback reason
      | .ok confidence =>
        if confidence < policy.confidenceThreshold then .fallback .lowConfidence
        else .model p50 p90 confidence
  | _, _ => .fallback .invalidQuantiles

/-- `_candidate_decision` -/
def candidateDecision {Model : Type} (provider : DurationPredictionProvider Model)
    (featureRecord : Json) : Decision :=
  match provider.startupFallbackReason, provider.model with
  | some reason, _ => .fallback reason
  | none, none => .fallback .providerUnavailable
  | none, some model =>
    match provider.candidatePredictor model featureRecord with
    | .signal reason => .fallback ((FallbackReason.ofText reason).getD .providerUnavailable)
    | .modelError code => .fallback (modelFallbackReason code)
    | .raised => .fallback .providerUnavailable
    | .none =>
      if provider.elapsed < 0 ∨ provider.policy.predictionTimeoutNs < provider.elapsed then
        .fallback .providerTimeout
      else .fallback .predictionMissing
    | .candidate candidate =>
      if provider.elapsed < 0 ∨ provider.policy.predictionTimeoutNs < provider.elapsed then
        .fallback .providerTimeout
      else judgeCandidate provider.policy candidate

/-! ### The carrier -/

/-- The division of two integers as a float. A quotient from zero to one stays there. -/
structure TrueDivision where
  value : ℚ → FloatValue
  within (q : ℚ) (h0 : 0 ≤ q) (h1 : q ≤ 1) : 0 ≤ (value q).num ∧ (value q).num ≤ (value q).den

/-- The members of a carrier that are the policy's. -/
structure PolicyReferences where
  model : Json
  evaluation : Json
  policy : Json
  provenance : Json

/-- An object of the policy document. -/
def policyObject (document : Json) (key path : String) : Except Failure Json := do
  let value ← item key document
  expectObject value path
  return value

def modelReferenceOf (authorization : Json) : Except Failure Json := do
  let id ← item "model_manifest_id" authorization
  let fingerprint ← item "model_manifest_fingerprint" authorization
  let version ← item "model_version" authorization
  let digest ← item "model_artifact_digest" authorization
  return .obj
    [("duration_model_manifest_version", .str "duration-model-manifest.v1"),
     ("model_manifest_id", id), ("model_manifest_fingerprint", fingerprint),
     ("model_version", version), ("model_artifact_digest", digest)]

/-- The reference to the policy itself, which the validator forms again. -/
def policyReferenceOf (document : Json) : Except Failure Json := do
  let id ← item "policy_id" document
  let fingerprint ← item "policy_fingerprint" document
  return .obj
    [("document_version", .str "duration-runtime-policy.v1"), ("artifact_id", id),
     ("fingerprint", fingerprint)]

def policyReferences (document : Json) : Except Failure PolicyReferences := do
  let authorization ← policyObject document "model_authorization" "runtime-policy.model"
  let gate ← policyObject document "evaluation_gate" "runtime-policy.gate"
  let model ← modelReferenceOf authorization
  let evaluation ← item "measurement_reference" gate
  let policy ← policyReferenceOf document
  let provenance ← item "synthetic_provenance" document
  return ⟨model, evaluation, policy, provenance⟩

def governanceBoundary : Json :=
  .obj [("production_authorized", .bool false), ("open_authority_gaps", openAuthorityGaps),
    ("planning_authority", .str "ADVISORY_DURATION_ONLY")]

section
variable (division : TrueDivision)

/-- The members of a carrier that depend on the decision. -/
def decisionMembers (standard : Json) : Decision → List (String × Json)
  | .fallback reason =>
    [("p50_seconds", .null), ("p90_seconds", .null), ("confidence", .null),
     ("fallback_reason", .str reason.text), ("selected_duration_source", .str "STANDARD_DURATION"),
     ("selected_duration_seconds", standard.get "seconds")]
  | .model p50 p90 confidence =>
    [("p50_seconds", .int p50), ("p90_seconds", .int p90),
     ("confidence", .float (division.value confidence)), ("fallback_reason", .str "NONE"),
     ("selected_duration_source", .str "MODEL_CANDIDATE"),
     ("selected_duration_seconds", .int p50)]

/-- The other members of a carrier. -/
def carrierMembers (request : DurationPredictionRequest) (reference : Json)
    (references : PolicyReferences) : List (String × Json) :=
  [("duration_prediction_version", .str "duration-prediction.v1"),
   ("schema_set_version", .str "2.9.0"), ("canonicalization_version", .str "canonical-json.v1"),
   ("data_plane", .str "SIMULATION"), ("environment", .str "TEST"),
   ("factory_id", request.factoryId), ("operation_id", request.operationId),
   ("resource_option_id", request.resourceOptionId), ("resource_id", request.resourceId),
   ("predicted_at_utc", request.predictedAtUtc), ("as_of_cutoff_utc", request.asOfCutoffUtc),
   ("unit", .str "SECONDS"), ("model_version", .str "1.0.0"),
   ("feature_schema_version", .str "duration-features.v1"),
   ("standard_duration", request.standard), ("feature_record_reference", reference),
   ("model_reference", references.model), ("evaluation_reference", references.evaluation),
   ("prediction_policy_reference", references.policy), ("synthetic", .bool true),
   ("synthetic_provenance", references.provenance), ("production_binding", .bool false),
   ("governance_boundary", governanceBoundary)]

def carrierProjection (request : DurationPredictionRequest) (reference : Json)
    (references : PolicyReferences) (decision : Decision) : Json :=
  .obj (decisionMembers division request.standard decision ++
    carrierMembers request reference references)

/-- The document with its identity under a fingerprint. -/
def identified (projection : Json) (fingerprint : String) : Json :=
  match projection with
  | .obj members =>
    .obj (members ++ [("prediction_id",
        .str ("duration-prediction-" ++ fingerprintDigits fingerprint)),
      ("prediction_fingerprint", .str fingerprint)])
  | value => value

/-- `_with_identity` -/
def withIdentity (projection : Json) : Except Failure Json := do
  let fingerprint ← fingerprint projection
  return identified projection fingerprint

/-! ### The validator -/

def predictionKeys : List String :=
  ["p50_seconds", "p90_seconds", "confidence", "fallback_reason", "selected_duration_source",
   "selected_duration_seconds", "duration_prediction_version", "schema_set_version",
   "canonicalization_version", "data_plane", "environment", "factory_id", "operation_id",
   "resource_option_id", "resource_id", "predicted_at_utc", "as_of_cutoff_utc", "unit",
   "model_version", "feature_schema_version", "standard_duration", "feature_record_reference",
   "model_reference", "evaluation_reference", "prediction_policy_reference", "synthetic",
   "synthetic_provenance", "production_binding", "governance_boundary", "prediction_id",
   "prediction_fingerprint"]

/-- The header of a carrier. -/
def HasHeader (candidate : Json) : Prop :=
  candidate.get "duration_prediction_version" = .str "duration-prediction.v1" ∧
    candidate.get "schema_set_version" = .str "2.9.0" ∧
    candidate.get "canonicalization_version" = .str "canonical-json.v1" ∧
    candidate.get "data_plane" = .str "SIMULATION" ∧ candidate.get "environment" = .str "TEST" ∧
    candidate.get "unit" = .str "SECONDS" ∧ candidate.get "model_version" = .str "1.0.0" ∧
    candidate.get "feature_schema_version" = .str "duration-features.v1" ∧
    candidate.get "synthetic" = .bool true ∧ candidate.get "production_binding" = .bool false

instance (candidate : Json) : Decidable (HasHeader candidate) := by
  unfold HasHeader
  infer_instance

/-- `math.isfinite(float(confidence)) and 0 <= confidence <= 1` of a number. -/
def confidenceWithin : Json → Except Failure Bool
  | .int value =>
    if value.natAbs < 2 ^ 1024 - 2 ^ 970 then .ok (0 ≤ value ∧ value ≤ 1)
    else .error (.overflowError "int too large to convert to float")
  | .float value => .ok (0 ≤ value.num ∧ value.num ≤ value.den)
  | _ => .ok false

/-- The checks of the members that depend on the decision. -/
def checkSelection (candidate : Json) : Except Failure Unit := do
  let standard := candidate.get "standard_duration"
  if candidate.get "fallback_reason" = .str "NONE" then do
    let p50 ← expectInt (candidate.get "p50_seconds") "prediction.p50" 1
    let p90 ← expectInt (candidate.get "p90_seconds") "prediction.p90" 1
    let refused := Failure.runtime "PREDICTION_CANDIDATE_MISMATCH" "prediction.candidate"
    require (¬p90 < p50) refused
    let within ← confidenceWithin (candidate.get "confidence")
    require (within = true ∧
      candidate.get "selected_duration_source" = .str "MODEL_CANDIDATE" ∧
      (candidate.get "selected_duration_seconds").pyEq (.int p50) = true) refused
  else
    require (candidate.get "p50_seconds" = .null ∧ candidate.get "p90_seconds" = .null ∧
      candidate.get "confidence" = .null ∧
      candidate.get "selected_duration_source" = .str "STANDARD_DURATION" ∧
      (candidate.get "selected_duration_seconds").pyEq (standard.get "seconds") = true)
      (.runtime "PREDICTION_FALLBACK_MISMATCH" "prediction.fallback")

/-- A `fallback_reason` of a carrier. -/
def isReason (value : Json) : Bool :=
  value = .str "NONE" || (FallbackReason.all.any fun reason => value = .str reason.text)

/-- `validate_duration_prediction` -/
def validateDurationPrediction (candidate : Json) (policy : LoadedRuntimePolicy) :
    Except Failure Unit := do
  expectObject candidate "prediction"
  expectKeys candidate predictionKeys "prediction"
  let expected ← fingerprint
    (withoutFields candidate ["prediction_id", "prediction_fingerprint"])
  require (candidate.get "prediction_fingerprint" = .str expected ∧
    candidate.get "prediction_id" = .str ("duration-prediction-" ++ fingerprintDigits expected))
    (.runtime "PREDICTION_IDENTITY_MISMATCH" "prediction")
  require (HasHeader candidate) (.runtime "PREDICTION_CONTRACT_MISMATCH" "prediction.header")
  require (isReason (candidate.get "fallback_reason") = true)
    (.runtime "PREDICTION_FALLBACK_MISMATCH" "prediction.reason")
  validateStandardDuration (candidate.get "standard_duration")
  checkSelection candidate
  let reference ← policyReferenceOf policy.document
  require ((candidate.get "prediction_policy_reference").pyEq reference = true)
    (.runtime "PREDICTION_POLICY_MISMATCH" "prediction.policy")
  require ((candidate.get "governance_boundary").pyEq governanceBoundary = true)
    (.runtime "PREDICTION_AUTHORITY_MISMATCH" "prediction.governance")

/-! ### Predictions -/

/-- The checks of a request: its cutoff and the reference to its feature record. -/
def checkRequest (request : DurationPredictionRequest) : Except Failure (Datetime × Json) := do
  let _ ← expectIdentifier request.factoryId "request.factory-id"
  let _ ← expectIdentifier request.operationId "request.operation-id"
  let _ ← expectIdentifier request.resourceOptionId "request.resource-option-id"
  let _ ← expectIdentifier request.resourceId "request.resource-id"
  let predictedAt ← utcInstant request.predictedAtUtc "request.predicted-at"
  let cutoff ← utcInstant request.asOfCutoffUtc "request.as-of-cutoff"
  require (¬predictedAt < cutoff) (.runtime "INVALID_PREDICTION_TIME" "predicted-at-before-cutoff")
  validateStandardDuration request.standard
  let reference ← featureReference request.record
  return (cutoff, reference)

/-- The decision on a request whose feature record has been checked. -/
def decisionOf {Model : Type} (provider : DurationPredictionProvider Model)
    (request : DurationPredictionRequest) : Option FallbackReason → Decision
  | some reason => .fallback reason
  | none => candidateDecision provider request.record

/-- The carrier of a decision, once it is valid and small enough. -/
def publish (policy : LoadedRuntimePolicy) (projection : Json) : Except Failure Json := do
  let prediction ← withIdentity projection
  validateDurationPrediction prediction policy
  let text ← canonicalJsonBytes prediction
  require (text.utf8ByteSize ≤ policy.maxPredictionBytes)
    (.runtime "PREDICTION_RESOURCE_LIMIT" "prediction-bytes")
  return prediction

/-- `_predict` -/
def predict {Model : Type} (provider : DurationPredictionProvider Model)
    (request : DurationPredictionRequest) : Except Failure Json := do
  let (cutoff, reference) ← checkRequest request
  let reason ← featureFallbackReason provider.policy request cutoff
  let references ← policyReferences provider.policy.document
  publish provider.policy
    (carrierProjection division request reference references (decisionOf provider request reason))

end

end PlantNexus.Duration
