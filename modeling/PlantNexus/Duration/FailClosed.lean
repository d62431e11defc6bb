import PlantNexus.Data.Fails
import PlantNexus.Data.JsonEquality
import PlantNexus.Data.JsonSize
import PlantNexus.Duration.Provider
import PlantNexus.Execution.SealedEvents
import PlantNexus.Snapshot.Canonical

/-! When the provider fails closed.

`FailClosed` is what a prediction owes its caller. A provider over a valid policy keeps it but for
two kinds of requests (`predict_failClosed_iff`): a feature that names its source by a list or an
object leaves as a `TypeError`, and nothing before the predictor looks at when a feature became
available. -/
namespace PlantNexus.Duration
open Data Time Domain
open Execution (HasFields withoutFields fingerprintDigits)

/-! ### The purpose -/

/-- `P6RuntimeError` -/
def IsRuntime (failure : Failure) : Prop := ∃ code detail, failure = .runtime code detail

/-- The elements of a list. -/
def elements : Json → List Json
  | .arr items => items
  | _ => []

/-- Available at or before the cutoff, as UTC instants. -/
def AvailableBy (cutoff : Datetime) (document : Json) : Prop :=
  ∃ available, utcInstant (document.get "available_at_utc") "available" = .ok available ∧
    available ≤ cutoff

/-- A candidate that a policy accepts, with its quantiles and its exact confidence. -/
structure Acceptable (policy : LoadedRuntimePolicy) (candidate : DurationCandidate)
    (p50 p90 : Int) (confidence : ℚ) : Prop where
  first : candidate.p50Seconds = some p50
  second : candidate.p90Seconds = some p90
  positive : 0 < p50
  ordered : p50 ≤ p90
  exact : candidateConfidence candidate p50 p90 = .ok confidence
  reaches : policy.confidenceThreshold ≤ confidence

section
variable {Model : Type} (provider : DurationPredictionProvider Model)
  (request : DurationPredictionRequest)

/-- A live provider's candidate that was returned in time and is acceptable. -/
structure Accepts (p50 p90 : Int) (confidence : ℚ) : Prop where
  live : provider.startupFallbackReason = none
  timely : 0 ≤ provider.elapsed ∧ provider.elapsed ≤ provider.policy.predictionTimeoutNs
  candidate : ∃ model candidate, provider.model = some model ∧
    provider.candidatePredictor model request.record = .candidate candidate ∧
    Acceptable provider.policy candidate p50 p90 confidence

/-- What entitles a carrier to the model value. -/
structure Trustworthy (carrier : Json) : Prop where
  candidate : ∃ p50 p90 confidence, Accepts provider request p50 p90 confidence ∧
    carrier.get "selected_duration_seconds" = .int p50
  identity : ∃ digest, fingerprint (recordProjection request.record) = .ok digest ∧
    request.record.get "feature_record_fingerprint" = .str digest ∧
    request.record.get "feature_record_id" =
      .str ("duration-feature-record-" ++ fingerprintDigits digest)
  scope : ∀ field ∈ scopeFields request, (request.record.get field.1).pyEq field.2 = true
  standard : ∃ feature ∈ elements (request.record.get "features"),
    ∃ source ∈ elements (request.record.get "source_records"),
      feature.get "feature_name" = .str "standard_duration_seconds" ∧
      feature.get "source_record_ids" = .arr [source.get "source_record_id"] ∧
      NamesStandard request.standard feature source
  available : ∃ cutoff, utcInstant request.asOfCutoffUtc "cutoff" = .ok cutoff ∧
    (∀ source ∈ elements (request.record.get "source_records"), AvailableBy cutoff source) ∧
    ∀ feature ∈ elements (request.record.get "features"), AvailableBy cutoff feature

/-- What a prediction owes its caller. -/
structure FailClosed (result : Except Failure Json) : Prop where
  raises : ∀ failure, result = .error failure → IsRuntime failure
  valid : ∀ carrier, result = .ok carrier →
    validateDurationPrediction carrier provider.policy = .ok ()
  model : ∀ carrier, result = .ok carrier →
    carrier.get "selected_duration_source" = .str "MODEL_CANDIDATE" →
    Trustworthy provider request carrier
  standard : ∀ carrier, result = .ok carrier →
    carrier.get "selected_duration_source" ≠ .str "MODEL_CANDIDATE" →
    carrier.get "selected_duration_seconds" = request.standard.get "seconds"

end

/-- What the one policy that is accepted, pinned by its fingerprint, has of the members that a
prediction refers to. -/
structure ValidPolicy (policy : LoadedRuntimePolicy) : Prop where
  authorization : (policy.document.get "model_authorization").isObj = true
  gate : (policy.document.get "evaluation_gate").isObj = true
  members : ∀ key ∈ ["model_authorization", "evaluation_gate", "policy_id", "policy_fingerprint",
    "synthetic_provenance"], key ∈ policy.document.keys
  authorized : ∀ key ∈ ["model_manifest_id", "model_manifest_fingerprint", "model_version",
    "model_artifact_digest"], key ∈ (policy.document.get "model_authorization").keys
  measured : "measurement_reference" ∈ (policy.document.get "evaluation_gate").keys
  identifier : policy.document.get "policy_id" =
    .str "duration-runtime-policy-6acf154fe7ed2ed5b4b28060fd033896ad3ad1b66436c9edadeefe6245faebc7"
  fingerprint : policy.document.get "policy_fingerprint" =
    .str "sha256:6acf154fe7ed2ed5b4b28060fd033896ad3ad1b66436c9edadeefe6245faebc7"
  threshold : policy.confidenceThreshold = 9 / 10
  limits : policy.predictionTimeoutNs = 50000000 ∧ policy.maxFeatureRecordBytes = 16384 ∧
    policy.maxPredictionBytes = 32768 ∧ policy.maxFeatures = 4 ∧ policy.maxSourceRecords = 1

/-! ### The two kinds of requests -/

/-- A value that is no dictionary key. -/
def Unhashable : Json → Prop
  | .arr _ | .obj _ => True
  | _ => False

/-- A feature that passes what is checked before its source is looked up. -/
structure NamesUnhashable (featureByName : List (String × Json)) (feature : Json) : Prop where
  object : feature.isObj = true
  fields : HasFields feature featureKeys
  named : ∃ name, feature.get "feature_name" = .str name ∧ name ∉ featureByName.map Prod.fst
  source : ∃ key, feature.get "source_record_ids" = .arr [key] ∧ Unhashable key

section
variable {Model : Type} (division : TrueDivision) (provider : DurationPredictionProvider Model)
  (request : DurationPredictionRequest)

/-- The request passes, and among its features, after others that pass, stands one that names its
source by a list or an object. -/
def ReachesUnhashable : Prop :=
  ∃ cutoff reference, checkRequest request = .ok (cutoff, reference) ∧
    ∃ sources before feature after sourceById featureByName,
      checkRecord provider.policy request request.record =
        .ok (sources, before ++ feature :: after) ∧
      sources.foldlM (checkSource cutoff) [] = .ok sourceById ∧
      before.foldlM (checkFeature sourceById) [] = .ok featureByName ∧
      NamesUnhashable featureByName feature

/-- The model's carrier can be written within the byte limit. -/
def Publishable (reference : Json) (references : PolicyReferences) (p50 p90 : Int)
    (confidence : ℚ) : Prop :=
  let projection := carrierProjection division request reference references
    (.model p50 p90 confidence)
  writable projection = true ∧
    (identified projection ("sha256:" ++ Sha256.hexdigest projection.dumps)).dumps.utf8ByteSize ≤
      provider.policy.maxPredictionBytes

/-- The request and its record pass with a feature that was not available by the cutoff, and the
provider accepts a candidate whose carrier it can publish. -/
def TrustsLate : Prop :=
  ∃ cutoff reference references p50 p90 confidence,
    checkRequest request = .ok (cutoff, reference) ∧
    checkFeatureRecord provider.policy request cutoff = .ok () ∧
    (∃ feature ∈ elements (request.record.get "features"), ¬AvailableBy cutoff feature) ∧
    Accepts provider request p50 p90 confidence ∧
    policyReferences provider.policy.document = .ok references ∧
    Publishable division provider request reference references p50 p90 confidence

end

/-! ### What raises -/

theorem isRuntime (code detail : String) : IsRuntime (.runtime code detail) := ⟨code, detail, rfl⟩

theorem canonicalJsonBytes_fails (value : Json) : FailsWith IsRuntime (canonicalJsonBytes value) :=
  (FailsWith.require (isRuntime ..)).bind fun _ _ => .ok _

theorem fingerprint_fails (value : Json) : FailsWith IsRuntime (fingerprint value) :=
  (canonicalJsonBytes_fails value).bind fun _ _ => .ok _

theorem expectInt_fails (value : Json) (path : String) (minimum : Int) :
    FailsWith IsRuntime (expectInt value path minimum) := by
  unfold expectInt
  split
  · split_ifs
    · exact .error (isRuntime ..)
    · exact .ok _
  · exact .error (isRuntime ..)

theorem expectIdentifier_fails (value : Json) (path : String) :
    FailsWith IsRuntime (expectIdentifier value path) := by
  unfold expectIdentifier
  split
  · split_ifs
    · exact .ok _
    · exact .error (isRuntime ..)
  · exact .error (isRuntime ..)

theorem expectFingerprint_fails (value : Json) (path : String) :
    FailsWith IsRuntime (expectFingerprint value path) :=
  (expectIdentifier_fails _ _).bind fun _ _ =>
    (FailsWith.require (isRuntime ..)).bind fun _ _ => .ok _

theorem utcInstant_fails (value : Json) (path : String) :
    FailsWith IsRuntime (utcInstant value path) := by
  unfold utcInstant
  split
  · exact .mapError fun _ => isRuntime ..
  · exact .error (isRuntime ..)

theorem validateStandardDuration_fails (value : Json) :
    FailsWith IsRuntime (validateStandardDuration value) := by
  refine (FailsWith.require (isRuntime ..)).bind fun _ _ => ?_
  refine (FailsWith.require (isRuntime ..)).bind fun _ _ => ?_
  refine (expectInt_fails _ _ _).bind fun _ _ => ?_
  refine (expectIdentifier_fails _ _).bind fun _ _ => ?_
  refine (expectIdentifier_fails _ _).bind fun _ _ => ?_
  refine (expectIdentifier_fails _ _).bind fun _ _ => ?_
  exact (expectFingerprint_fails _ _).bind fun _ _ => .ok _

theorem featureReference_fails (record : Json) : FailsWith IsRuntime (featureReference record) :=
  (expectIdentifier_fails _ _).bind fun _ _ =>
    (expectFingerprint_fails _ _).bind fun _ _ => .ok _

theorem checkRequest_fails (request : DurationPredictionRequest) :
    FailsWith IsRuntime (checkRequest request) := by
  refine (expectIdentifier_fails _ _).bind fun _ _ => ?_
  refine (expectIdentifier_fails _ _).bind fun _ _ => ?_
  refine (expectIdentifier_fails _ _).bind fun _ _ => ?_
  refine (expectIdentifier_fails _ _).bind fun _ _ => ?_
  refine (utcInstant_fails _ _).bind fun _ _ => ?_
  refine (utcInstant_fails _ _).bind fun _ _ => ?_
  refine (FailsWith.require (isRuntime ..)).bind fun _ _ => ?_
  refine (validateStandardDuration_fails _).bind fun _ _ => ?_
  exact (featureReference_fails _).bind fun _ _ => .ok _

/-- A stop that is a fallback, or a failure of the runtime's own. -/
def Harmless : Stop → Prop
  | .fallback _ => True
  | .failure failure => IsRuntime failure

theorem checkRecord_fails (policy : LoadedRuntimePolicy) (request : DurationPredictionRequest)
    (record : Json) : FailsWith Harmless (checkRecord policy request record) := by
  unfold checkRecord
  iterate 7 refine (FailsWith.require trivial).bind fun _ _ => ?_
  refine FailsWith.bind ?_ fun _ _ => ?_
  · intro stop hstop
    cases hprint : fingerprint (recordProjection record) with
    | error failure =>
      rw [hprint] at hstop
      cases hstop
      exact fingerprint_fails _ _ hprint
    | ok digest =>
      rw [hprint] at hstop
      cases hstop
  · refine (FailsWith.require trivial).bind fun _ _ => ?_
    refine (FailsWith.require trivial).bind fun _ _ => ?_
    split
    · exact (FailsWith.require trivial).bind fun _ _ => .ok _
    · exact .error trivial

theorem checkSource_fails (cutoff : Datetime) (sourceById : List (String × Json)) (source : Json) :
    FailsWith Harmless (checkSource cutoff sourceById source) := by
  unfold checkSource
  refine (FailsWith.require trivial).bind fun _ _ => ?_
  split
  · refine (FailsWith.require trivial).bind fun _ _ => ?_
    refine FailsWith.bind (.mapError fun _ => trivial) fun _ _ => ?_
    exact (FailsWith.require trivial).bind fun _ _ => .ok _
  · exact .error trivial

theorem checkStandard_fails (standard : Json) (sourceById featureByName : List (String × Json)) :
    FailsWith Harmless (checkStandard standard sourceById featureByName) :=
  (FailsWith.require trivial).bind fun _ _ => FailsWith.require trivial

/-- **The one feature that leaves as another exception** names its source by a value that is no
dictionary key. -/
theorem checkFeature_error {sourceById featureByName : List (String × Json)} {feature : Json}
    {stop : Stop} (h : checkFeature sourceById featureByName feature = .error stop) :
    Harmless stop ∨ NamesUnhashable featureByName feature := by
  unfold checkFeature at h
  rcases bind_eq_error.mp h with hobject | ⟨_, hobject, h⟩
  · obtain ⟨-, rfl⟩ := (require_eq_error ..).mp hobject
    exact .inl trivial
  rw [require_eq_ok] at hobject
  split at h
  next name hname =>
    rcases bind_eq_error.mp h with hnew | ⟨_, hnew, h⟩
    · obtain ⟨-, rfl⟩ := (require_eq_error ..).mp hnew
      exact .inl trivial
    rw [require_eq_ok] at hnew
    split at h
    next key hkey =>
      rcases bind_eq_error.mp h with hlookup | ⟨known, -, h⟩
      · cases key with
        | arr items => exact .inr ⟨hobject.1, hobject.2, ⟨name, hname, hnew⟩, _, hkey, trivial⟩
        | obj members => exact .inr ⟨hobject.1, hobject.2, ⟨name, hname, hnew⟩, _, hkey, trivial⟩
        | null | bool _ | int _ | float _ | str _ => cases hlookup
      · rcases bind_eq_error.mp h with hknown | ⟨-, -, h⟩
        · obtain ⟨-, rfl⟩ := (require_eq_error ..).mp hknown
          exact .inl trivial
        · cases h
    next =>
      cases h
      exact .inl trivial
  next =>
    cases h
    exact .inl trivial

theorem checkFeature_unhashable (sourceById : List (String × Json))
    {featureByName : List (String × Json)} {feature : Json}
    (h : NamesUnhashable featureByName feature) :
    ∃ message, checkFeature sourceById featureByName feature =
      .error (.failure (.typeError message)) := by
  obtain ⟨hobject, hfields, ⟨name, hname, hnew⟩, key, hkey, hunhashable⟩ := h
  unfold checkFeature
  rw [require, if_pos ⟨hobject, hfields⟩, hname]
  show ∃ message, (require _ _ >>= _) = _
  rw [require, if_pos hnew, hkey]
  cases key with
  | arr items => exact ⟨_, rfl⟩
  | obj members => exact ⟨_, rfl⟩
  | null | bool _ | int _ | float _ | str _ => exact hunhashable.elim

/-! ### What passes -/

theorem utcInstant_path {value : Json} {path path' : String} {instant : Datetime}
    (h : utcInstant value path = .ok instant) : utcInstant value path' = .ok instant := by
  unfold utcInstant at h ⊢
  cases value with
  | str text =>
    rw [mapError_eq_ok] at h ⊢
    exact h
  | null | bool _ | int _ | float _ | arr _ | obj _ => cases h

/-- The sources that a feature record names are the items of the dictionary, each with its own
identifier and available by the cutoff. -/
structure SourcesPass (cutoff : Datetime) (sources : List Json)
    (sourceById : List (String × Json)) : Prop where
  available : ∀ source ∈ sources, AvailableBy cutoff source
  members : ∀ entry ∈ sourceById,
    entry.2 ∈ sources ∧ entry.2.get "source_record_id" = .str entry.1

theorem checkSource_ok {cutoff : Datetime} {sourceById next : List (String × Json)} {source : Json}
    (h : checkSource cutoff sourceById source = .ok next) :
    AvailableBy cutoff source ∧ ∃ id, source.get "source_record_id" = .str id ∧
      next = sourceById ++ [(id, source)] := by
  unfold checkSource at h
  obtain ⟨-, h⟩ := bind_unit_eq_ok.mp h
  split at h
  next id hid =>
    obtain ⟨-, h⟩ := bind_unit_eq_ok.mp h
    obtain ⟨instants, hinstants, h⟩ := bind_eq_ok.mp h
    rw [mapError_eq_ok] at hinstants
    simp only [bind_eq_ok, pure, Except.pure, Except.ok.injEq] at hinstants
    obtain ⟨_, -, observed, hobserved, available, havailable, rfl⟩ := hinstants
    obtain ⟨htimes, h⟩ := bind_unit_eq_ok.mp h
    rw [require_eq_ok] at htimes
    cases h
    exact ⟨⟨available, utcInstant_path havailable, not_lt.mp fun hlt => htimes (.inr hlt)⟩, id, hid,
      rfl⟩
  next => cases h

theorem sources_pass {cutoff : Datetime} {sources : List Json} {sourceById : List (String × Json)}
    (h : sources.foldlM (checkSource cutoff) [] = .ok sourceById) :
    SourcesPass cutoff sources sourceById := by
  constructor
  · intro source hsource
    obtain ⟨_, _, hstep⟩ := foldlM_ok_mem h source hsource
    exact (checkSource_ok hstep).1
  · refine foldlM_invariant (fun found : List (String × Json) => ∀ entry ∈ found,
      entry.2 ∈ sources ∧ entry.2.get "source_record_id" = .str entry.1) ?_ h
      fun _ hentry => absurd hentry List.not_mem_nil
    intro found source hsource next hfound hstep entry hentry
    obtain ⟨-, id, hid, rfl⟩ := checkSource_ok hstep
    rcases List.mem_append.mp hentry with hentry | hentry
    · exact hfound entry hentry
    · rw [List.mem_singleton.mp hentry]
      exact ⟨hsource, hid⟩

theorem checkFeature_ok {sourceById featureByName next : List (String × Json)} {feature : Json}
    (h : checkFeature sourceById featureByName feature = .ok next) :
    ∃ name id, feature.get "feature_name" = .str name ∧
      feature.get "source_record_ids" = .arr [.str id] ∧ id ∈ sourceById.map Prod.fst ∧
      next = featureByName ++ [(name, feature)] := by
  unfold checkFeature at h
  obtain ⟨-, h⟩ := bind_unit_eq_ok.mp h
  split at h
  next name hname =>
    obtain ⟨-, h⟩ := bind_unit_eq_ok.mp h
    split at h
    next key hkey =>
      obtain ⟨known, hknown, h⟩ := bind_eq_ok.mp h
      obtain ⟨htrue, h⟩ := bind_unit_eq_ok.mp h
      rw [require_eq_ok] at htrue
      rw [mapError_eq_ok, htrue] at hknown
      cases h
      cases key with
      | str id =>
        rw [knownSource, Except.ok.injEq, decide_eq_true_eq] at hknown
        exact ⟨name, id, hname, hkey, hknown, rfl⟩
      | null | bool _ | int _ | float _ | arr _ | obj _ => cases hknown
    next => cases h
  next => cases h

theorem mem_lookup {items : List (String × Json)} {key : String} {value : Json}
    (h : lookup items key = some value) : (key, value) ∈ items := by
  unfold lookup at h
  obtain ⟨entry, hfind, rfl⟩ := Option.map_eq_some_iff.mp h
  have hkey : entry.1 = key := of_decide_eq_true (List.find?_some hfind :)
  exact hkey ▸ List.mem_of_find?_eq_some hfind

theorem lookup_of_mem {items : List (String × Json)} {key : String}
    (h : key ∈ items.map Prod.fst) : ∃ value, lookup items key = some value := by
  obtain ⟨entry, hentry, rfl⟩ := List.mem_map.mp h
  unfold lookup
  cases hfind : items.find? (fun other => other.1 = entry.1) with
  | none => exact absurd (decide_eq_true rfl) (List.find?_eq_none.mp hfind entry hentry)
  | some found => exact ⟨found.2, rfl⟩

/-- What a feature record that passes says, but for when its features became available. -/
structure RecordPasses (request : DurationPredictionRequest) (cutoff : Datetime) : Prop where
  identity : ∃ digest, fingerprint (recordProjection request.record) = .ok digest ∧
    request.record.get "feature_record_fingerprint" = .str digest ∧
    request.record.get "feature_record_id" =
      .str ("duration-feature-record-" ++ fingerprintDigits digest)
  scope : ∀ field ∈ scopeFields request, (request.record.get field.1).pyEq field.2 = true
  sources : ∀ source ∈ elements (request.record.get "source_records"), AvailableBy cutoff source
  standard : ∃ feature ∈ elements (request.record.get "features"),
    ∃ source ∈ elements (request.record.get "source_records"),
      feature.get "feature_name" = .str "standard_duration_seconds" ∧
      feature.get "source_record_ids" = .arr [source.get "source_record_id"] ∧
      NamesStandard request.standard feature source

theorem checkRecord_ok {policy : LoadedRuntimePolicy} {request : DurationPredictionRequest}
    {record : Json} {sources features : List Json}
    (h : checkRecord policy request record = .ok (sources, features)) :
    (∃ digest, fingerprint (recordProjection record) = .ok digest ∧
      record.get "feature_record_fingerprint" = .str digest ∧
      record.get "feature_record_id" =
        .str ("duration-feature-record-" ++ fingerprintDigits digest)) ∧
      (∀ field ∈ scopeFields request, (record.get field.1).pyEq field.2 = true) ∧
      record.get "source_records" = .arr sources ∧ record.get "features" = .arr features := by
  simp only [checkRecord, bind_eq_ok, exists_unit_iff, require_eq_ok, mapError_eq_ok] at h
  obtain ⟨-, -, -, -, -, -, -, digest, hdigest, hidentity, hscope, h⟩ := h
  refine ⟨⟨digest, hdigest, hidentity⟩, hscope, ?_⟩
  split at h
  next found found' hsources hfeatures =>
    obtain ⟨-, h⟩ := bind_unit_eq_ok.mp h
    cases h
    exact ⟨hsources, hfeatures⟩
  next => cases h

theorem checkFeatureRecord_ok {policy : LoadedRuntimePolicy} {request : DurationPredictionRequest}
    {cutoff : Datetime} (h : checkFeatureRecord policy request cutoff = .ok ()) :
    RecordPasses request cutoff := by
  simp only [checkFeatureRecord, bind_eq_ok, Prod.exists] at h
  obtain ⟨sources, features, hrecord, sourceById, hsources, featureByName, hfeatures,
    hstandard⟩ := h
  obtain ⟨hidentity, hscope, hsourceItems, hfeatureItems⟩ := checkRecord_ok hrecord
  have hpass := sources_pass hsources
  have hnamed : ∀ entry ∈ featureByName, entry.2 ∈ features ∧
      entry.2.get "feature_name" = .str entry.1 ∧
      ∃ id, entry.2.get "source_record_ids" = .arr [.str id] ∧ id ∈ sourceById.map Prod.fst := by
    refine foldlM_invariant (fun found : List (String × Json) => ∀ entry ∈ found,
      entry.2 ∈ features ∧ entry.2.get "feature_name" = .str entry.1 ∧
      ∃ id, entry.2.get "source_record_ids" = .arr [.str id] ∧ id ∈ sourceById.map Prod.fst)
      ?_ hfeatures fun _ hentry => absurd hentry List.not_mem_nil
    intro found feature hfeature next hfound hstep entry hentry
    obtain ⟨name, id, hname, hid, hknown, rfl⟩ := checkFeature_ok hstep
    rcases List.mem_append.mp hentry with hentry | hentry
    · exact hfound entry hentry
    · rw [List.mem_singleton.mp hentry]
      exact ⟨hfeature, hname, id, hid, hknown⟩
  simp only [checkStandard, bind_unit_eq_ok, require_eq_ok] at hstandard
  obtain ⟨hnames, hmatch⟩ := hstandard
  have hlisted : "standard_duration_seconds" ∈ featureByName.map Prod.fst := by
    rw [← mem_sortByKey id (featureByName.map Prod.fst), hnames]
    decide
  obtain ⟨feature, hfeature⟩ := lookup_of_mem hlisted
  obtain ⟨hmem, hname, id, hid, hknown⟩ := hnamed _ (mem_lookup hfeature)
  obtain ⟨source, hsource⟩ := lookup_of_mem hknown
  obtain ⟨hsourceMem, hsourceId⟩ := hpass.members _ (mem_lookup hsource)
  have hof : sourceIdOf feature = id := by
    rw [sourceIdOf, hid]
    rfl
  rw [hfeature, Option.getD_some, hof, hsource, Option.getD_some] at hmatch
  refine ⟨hidentity, hscope, ?_, feature, ?_, source, ?_, hname, ?_, hmatch⟩
  · rw [hsourceItems]
    exact hpass.available
  · rw [hfeatureItems]
    exact hmem
  · rw [hsourceItems]
    exact hsourceMem
  · rw [hsourceId]
    exact hid

/-- The check of a feature record fails outside its fallbacks only on a source that is no
dictionary key. -/
theorem checkFeatureRecord_error {policy : LoadedRuntimePolicy}
    {request : DurationPredictionRequest} {cutoff : Datetime} {stop : Stop}
    (h : checkFeatureRecord policy request cutoff = .error stop) : Harmless stop ∨
      ∃ sources before feature after sourceById featureByName,
        checkRecord policy request request.record = .ok (sources, before ++ feature :: after) ∧
        sources.foldlM (checkSource cutoff) [] = .ok sourceById ∧
        before.foldlM (checkFeature sourceById) [] = .ok featureByName ∧
        NamesUnhashable featureByName feature := by
  unfold checkFeatureRecord at h
  rcases bind_eq_error.mp h with hrecord | ⟨found, hrecord, h⟩
  · exact .inl (checkRecord_fails _ _ _ stop hrecord)
  obtain ⟨sources, features⟩ := found
  rcases bind_eq_error.mp h with hsources | ⟨sourceById, hsources, h⟩
  · obtain ⟨_, source, _, found, -, -, hstep⟩ := foldlM_eq_error.mp hsources
    exact .inl (checkSource_fails _ _ _ stop hstep)
  rcases bind_eq_error.mp h with hfeatures | ⟨featureByName, -, h⟩
  · obtain ⟨before, feature, after, featureByName, rfl, hbefore, hstep⟩ :=
      foldlM_eq_error.mp hfeatures
    exact (checkFeature_error hstep).imp_right fun hnames =>
      ⟨sources, before, feature, after, sourceById, featureByName, hrecord, hsources, hbefore,
        hnames⟩
  · exact .inl (checkStandard_fails _ _ _ stop h)

/-! ### Candidates -/

theorem candidateConfidence_within {candidate : DurationCandidate} {p50 p90 : Int} {confidence : ℚ}
    (hpositive : 0 < p50) (hordered : p50 ≤ p90)
    (h : candidateConfidence candidate p50 p90 = .ok confidence) :
    0 ≤ confidence ∧ confidence ≤ 1 := by
  unfold candidateConfidence at h
  split_ifs at h with hderive
  · cases h
    refine ⟨le_max_left _ _, max_le zero_le_one ?_⟩
    have hpos : (0 : ℚ) < p50 := by exact_mod_cast hpositive
    rw [div_le_one hpos]
    have : p50 - (p90 - p50) ≤ p50 := by omega
    exact_mod_cast this
  · split at h
    next => cases h
    next => cases h
    next value _ =>
      split_ifs at h with hrange
      cases h
      exact ⟨not_lt.mp fun hlt => hrange (.inl hlt), not_lt.mp fun hlt => hrange (.inr hlt)⟩

theorem judgeCandidate_eq_model {policy : LoadedRuntimePolicy} {candidate : DurationCandidate}
    {p50 p90 : Int} {confidence : ℚ} :
    judgeCandidate policy candidate = .model p50 p90 confidence ↔
      Acceptable policy candidate p50 p90 confidence := by
  unfold judgeCandidate
  constructor
  · intro h
    split at h
    next first second hfirst hsecond =>
      split_ifs at h with hquantiles
      split at h
      next => cases h
      next value hvalue =>
        split_ifs at h with hlow
        cases h
        exact ⟨hfirst, hsecond, by omega, by omega, hvalue, not_lt.mp hlow⟩
    next => cases h
  · rintro ⟨hfirst, hsecond, hpositive, hordered, hexact, hreaches⟩
    rw [hfirst, hsecond]
    dsimp only
    rw [if_neg (by omega), hexact]
    dsimp only
    rw [if_neg (not_lt.mpr hreaches)]

section
variable {Model : Type} {division : TrueDivision} {provider : DurationPredictionProvider Model}
  {request : DurationPredictionRequest}

theorem candidateDecision_eq_model {p50 p90 : Int} {confidence : ℚ} :
    candidateDecision provider request.record = .model p50 p90 confidence ↔
      Accepts provider request p50 p90 confidence := by
  unfold candidateDecision
  constructor
  · intro h
    split at h
    next => cases h
    next => cases h
    next model hlive hmodel =>
      split at h
      next => cases h
      next => cases h
      next => cases h
      next =>
        split_ifs at h
      next candidate hcandidate =>
        split_ifs at h with htime
        exact ⟨hlive, by omega, model, candidate, hmodel, hcandidate,
          judgeCandidate_eq_model.mp h⟩
  · rintro ⟨hlive, htimely, model, candidate, hmodel, hcandidate, haccept⟩
    rw [hlive, hmodel]
    dsimp only
    rw [hcandidate]
    dsimp only
    rw [if_neg (by omega)]
    exact judgeCandidate_eq_model.mpr haccept

/-- A decision whose quantiles and confidence a carrier may show. -/
def Decision.Sound : Decision → Prop
  | .fallback _ => True
  | .model p50 p90 confidence => 0 < p50 ∧ p50 ≤ p90 ∧ 0 ≤ confidence ∧ confidence ≤ 1

theorem Accepts.sound {p50 p90 : Int} {confidence : ℚ}
    (h : Accepts provider request p50 p90 confidence) :
    (Decision.model p50 p90 confidence).Sound := by
  obtain ⟨-, -, model, candidate, -, -, haccept⟩ := h
  exact ⟨haccept.positive, haccept.ordered,
    candidateConfidence_within haccept.positive haccept.ordered haccept.exact⟩

theorem decisionOf_sound (reason : Option FallbackReason) :
    (decisionOf provider request reason).Sound := by
  cases reason with
  | some reason => exact trivial
  | none =>
    rw [decisionOf]
    cases hdecision : candidateDecision provider request.record with
    | fallback reason => exact trivial
    | model p50 p90 confidence => exact (candidateDecision_eq_model.mp hdecision).sound

/-! ### Carriers -/

theorem writableMembers_append (xs ys : List (String × Json)) :
    writableMembers (xs ++ ys) = (writableMembers xs && writableMembers ys) := by
  induction xs with
  | nil => rfl
  | cons member rest ih =>
    obtain ⟨key, value⟩ := member
    rw [List.cons_append, writableMembers, writableMembers, ih, Bool.and_assoc]

theorem writable_identified (members : List (String × Json)) (digest : String) :
    writable (identified (.obj members) digest) = writable (.obj members) := by
  rw [identified, writable, writableMembers_append, writable]
  exact Bool.and_true _

theorem fingerprint_ok {value : Json} (h : writable value = true) :
    fingerprint value = .ok ("sha256:" ++ Sha256.hexdigest value.dumps) := by
  simp only [fingerprint, canonicalJsonBytes, require, h, if_true]
  rfl

theorem item_ok {key : String} {document : Json} (h : key ∈ document.keys) :
    item key document = .ok (document.get key) := if_pos h

theorem validPolicy_references {policy : LoadedRuntimePolicy} (h : ValidPolicy policy) :
    ∃ references, policyReferences policy.document = .ok references ∧
      policyReferenceOf policy.document = .ok references.policy ∧
      references.policy.WellFormed := by
  have hmember := fun key hkey => item_ok (h.members key hkey)
  have hauthorized := fun key hkey => item_ok (h.authorized key hkey)
  have hreference : policyReferenceOf policy.document = .ok (.obj
      [("document_version", .str "duration-runtime-policy.v1"),
       ("artifact_id", policy.document.get "policy_id"),
       ("fingerprint", policy.document.get "policy_fingerprint")]) := by
    simp only [policyReferenceOf, bind_eq_ok]
    exact ⟨_, hmember "policy_id" (by simp), _, hmember "policy_fingerprint" (by simp), rfl⟩
  have hobject : ∀ key path, key ∈ policy.document.keys →
      (policy.document.get key).isObj = true →
      policyObject policy.document key path = .ok (policy.document.get key) := by
    intro key path hkey hobj
    simp only [policyObject, bind_eq_ok, exists_unit_iff, expectObject, require_eq_ok]
    exact ⟨_, item_ok hkey, hobj, rfl⟩
  have hmodel :
      ∃ model, modelReferenceOf (policy.document.get "model_authorization") = .ok model := by
    simp only [modelReferenceOf, hauthorized "model_manifest_id" (by simp),
      hauthorized "model_manifest_fingerprint" (by simp), hauthorized "model_version" (by simp),
      hauthorized "model_artifact_digest" (by simp)]
    exact ⟨_, rfl⟩
  obtain ⟨model, hmodel⟩ := hmodel
  refine ⟨⟨model, (policy.document.get "evaluation_gate").get "measurement_reference", .obj
    [("document_version", .str "duration-runtime-policy.v1"),
     ("artifact_id", policy.document.get "policy_id"),
     ("fingerprint", policy.document.get "policy_fingerprint")],
    policy.document.get "synthetic_provenance"⟩, ?_, hreference, ?_⟩
  · simp only [policyReferences, bind_eq_ok]
    exact ⟨_, hobject _ _ (h.members _ (by simp)) h.authorization, _,
      hobject _ _ (h.members _ (by simp)) h.gate, _, hmodel, _, item_ok h.measured, _, hreference,
      _, hmember "synthetic_provenance" (by simp), rfl⟩
  · dsimp only
    rw [h.identifier, h.fingerprint]
    exact ⟨by decide, trivial, trivial, trivial, trivial⟩

section
variable {reference : Json} {references : PolicyReferences} {decision : Decision}

theorem standard_seconds {standard : Json} (h : validateStandardDuration standard = .ok ()) :
    ∃ seconds, standard.get "seconds" = .int seconds := by
  simp only [validateStandardDuration, bind_eq_ok, exists_unit_iff] at h
  obtain ⟨-, -, seconds, hseconds, -⟩ := h
  unfold expectInt at hseconds
  cases hvalue : standard.get "seconds" with
  | int n => exact ⟨n, rfl⟩
  | null | bool _ | float _ | str _ | arr _ | obj _ =>
    rw [hvalue] at hseconds
    cases hseconds

theorem pyEq_int (n : Int) : (Json.int n).pyEq (.int n) = true := Json.pyEq_refl _ trivial

theorem text_ne_none (reason : FallbackReason) : reason.text ≠ "NONE" := by
  cases reason <;> decide

theorem isReason_text (reason : FallbackReason) : isReason (.str reason.text) = true := by
  cases reason <;> decide

/-- The members of a carrier that depend on the decision agree. -/
theorem checkSelection_carrier (hsound : decision.Sound)
    (hstandard : validateStandardDuration request.standard = .ok ()) (digest : String) :
    checkSelection (identified (carrierProjection division request reference references decision)
      digest) = .ok () := by
  obtain ⟨seconds, hseconds⟩ := standard_seconds hstandard
  cases decision with
  | fallback reason =>
    have hreason : Json.str reason.text ≠ .str "NONE" := fun heq =>
      text_ne_none reason (Json.str.inj heq)
    show (if Json.str reason.text = .str "NONE" then _ else _) = _
    rw [if_neg hreason, require_eq_ok]
    refine ⟨rfl, rfl, rfl, rfl, ?_⟩
    show (request.standard.get "seconds").pyEq (request.standard.get "seconds") = true
    rw [hseconds]
    exact pyEq_int seconds
  | model p50 p90 confidence =>
    obtain ⟨hpositive, hordered, hlow, hhigh⟩ := hsound
    have hexpect : ∀ {n : Int} (path : String), 1 ≤ n → expectInt (.int n) path 1 = .ok n := by
      intro n path hn
      rw [expectInt, if_neg (not_lt.mpr hn)]
    have hwithin : confidenceWithin (.float (division.value confidence)) = .ok true := by
      rw [confidenceWithin, decide_eq_true (division.within confidence hlow hhigh)]
    show (do
      let p50' ← expectInt (.int p50) "prediction.p50" 1
      let p90' ← expectInt (.int p90) "prediction.p90" 1
      let refused := Failure.runtime "PREDICTION_CANDIDATE_MISMATCH" "prediction.candidate"
      require (¬p90' < p50') refused
      let within ← confidenceWithin (.float (division.value confidence))
      require (within = true ∧ _ ∧ (Json.int p50).pyEq (.int p50') = true) refused) = _
    simp only [bind_eq_ok, exists_unit_iff, require_eq_ok]
    exact ⟨_, hexpect _ (by omega), _, hexpect _ (by omega), not_lt.mpr hordered, _, hwithin, rfl,
      rfl, pyEq_int p50⟩

/-- **A carrier of a sound decision is valid** under its own identity. -/
theorem validate_carrier {policy : LoadedRuntimePolicy}
    (hreference : policyReferenceOf policy.document = .ok references.policy)
    (hformed : references.policy.WellFormed)
    (hstandard : validateStandardDuration request.standard = .ok ()) (hsound : decision.Sound)
    (hwritable : writable (carrierProjection division request reference references decision) =
      true) :
    validateDurationPrediction
      (identified (carrierProjection division request reference references decision)
        ("sha256:" ++ Sha256.hexdigest
          (carrierProjection division request reference references decision).dumps)) policy =
      .ok () := by
  set projection := carrierProjection division request reference references decision with hproj
  set digest := "sha256:" ++ Sha256.hexdigest projection.dumps with hdigest
  have hselection : checkSelection (identified projection digest) = .ok () :=
    checkSelection_carrier hsound hstandard digest
  have hkeys : (identified projection digest).keys = predictionKeys := by
    cases decision <;> rfl
  have hprojection : withoutFields (identified projection digest)
      ["prediction_id", "prediction_fingerprint"] = projection := by
    cases decision <;> rfl
  have hfields : HasFields (identified projection digest) predictionKeys := by
    rw [HasFields, hkeys]
    exact ⟨fun _ h => h, fun _ h => h⟩
  have hidentity : (identified projection digest).get "prediction_fingerprint" = .str digest ∧
      (identified projection digest).get "prediction_id" =
        .str ("duration-prediction-" ++ fingerprintDigits digest) := by
    cases decision <;> exact ⟨rfl, rfl⟩
  have hheader : HasHeader (identified projection digest) := by
    cases decision <;> exact ⟨rfl, rfl, rfl, rfl, rfl, rfl, rfl, rfl, rfl, rfl⟩
  have hreason : isReason ((identified projection digest).get "fallback_reason") = true := by
    cases decision with
    | fallback reason => exact isReason_text reason
    | model p50 p90 confidence => rfl
  have hpolicy : (identified projection digest).get "prediction_policy_reference" =
      references.policy := by
    cases decision <;> rfl
  have hgovernance : (identified projection digest).get "governance_boundary" =
      governanceBoundary := by
    cases decision <;> rfl
  have hobject : (identified projection digest).isObj = true := by
    cases decision <;> rfl
  have hstandard' : validateStandardDuration
      ((identified projection digest).get "standard_duration") = .ok () := by
    cases decision <;> exact hstandard
  simp only [validateDurationPrediction, expectObject, expectKeys, bind_eq_ok, exists_unit_iff,
    require_eq_ok, hprojection]
  refine ⟨hobject, hfields, digest, fingerprint_ok hwritable, hidentity, hheader, hreason,
    hstandard', hselection, references.policy, hreference, ?_, ?_⟩
  · rw [hpolicy]
    exact Json.pyEq_refl _ hformed
  · rw [hgovernance]
    decide

/-! ### Predictions -/

/-- The carrier of a decision, or that it cannot be written within the byte limit. -/
theorem publish_eq {policy : LoadedRuntimePolicy}
    (hreference : policyReferenceOf policy.document = .ok references.policy)
    (hformed : references.policy.WellFormed)
    (hstandard : validateStandardDuration request.standard = .ok ()) (hsound : decision.Sound)
    {projection : Json}
    (hprojection : projection = carrierProjection division request reference references decision) :
    publish policy projection =
      if writable projection = true ∧
          (identified projection
            ("sha256:" ++ Sha256.hexdigest projection.dumps)).dumps.utf8ByteSize ≤
              policy.maxPredictionBytes then
        .ok (identified projection ("sha256:" ++ Sha256.hexdigest projection.dumps))
      else if writable projection = true then
        .error (.runtime "PREDICTION_RESOURCE_LIMIT" "prediction-bytes")
      else .error (.runtime "INVALID_JSON_VALUE" "runtime payload") := by
  by_cases hwritable : writable projection = true
  · have hvalid : validateDurationPrediction
        (identified projection ("sha256:" ++ Sha256.hexdigest projection.dumps)) policy =
          .ok () := by
      subst hprojection
      exact validate_carrier hreference hformed hstandard hsound hwritable
    have hbytes : writable
        (identified projection ("sha256:" ++ Sha256.hexdigest projection.dumps)) = true := by
      rw [hprojection, carrierProjection] at hwritable ⊢
      rw [writable_identified, hwritable]
    simp only [publish, withIdentity, fingerprint_ok hwritable, canonicalJsonBytes, require, hvalid,
      hbytes, hwritable, if_true, true_and, pure, Except.pure, bind, Except.bind]
    split_ifs <;> rfl
  · rw [if_neg fun h => hwritable h.1, if_neg hwritable]
    simp only [publish, withIdentity, fingerprint, canonicalJsonBytes, require, hwritable, bind,
      Except.bind]
    rfl

end

/-- The failures of the feature record that leave the provider. -/
theorem featureFallbackReason_error {policy : LoadedRuntimePolicy} {cutoff : Datetime}
    {failure : Failure} (h : featureFallbackReason policy request cutoff = .error failure) :
    checkFeatureRecord policy request cutoff = .error (.failure failure) := by
  unfold featureFallbackReason at h
  split at h
  next => cases h
  next => cases h
  next found hfound =>
    cases h
    exact hfound

variable (division) in
theorem predict_of_checks {cutoff : Datetime} {reference : Json} {references : PolicyReferences}
    {reason : Option FallbackReason} (hrequest : checkRequest request = .ok (cutoff, reference))
    (hreason : featureFallbackReason provider.policy request cutoff = .ok reason)
    (hreferences : policyReferences provider.policy.document = .ok references) :
    predict division provider request = publish provider.policy
      (carrierProjection division request reference references
        (decisionOf provider request reason)) := by
  rw [predict, hrequest]
  show (featureFallbackReason provider.policy request cutoff >>= _) = _
  rw [hreason]
  show (policyReferences provider.policy.document >>= _) = _
  rw [hreferences]
  rfl

theorem checkRequest_ok {cutoff : Datetime} {reference : Json}
    (h : checkRequest request = .ok (cutoff, reference)) :
    utcInstant request.asOfCutoffUtc "request.as-of-cutoff" = .ok cutoff ∧
      validateStandardDuration request.standard = .ok () := by
  simp only [checkRequest, bind_eq_ok, exists_unit_iff, pure, Except.pure, Except.ok.injEq,
    Prod.mk.injEq] at h
  obtain ⟨_, -, _, -, _, -, _, -, _, -, cutoff', hcutoff, -, hstandard, _, -, rfl, -⟩ := h
  exact ⟨hcutoff, hstandard⟩

variable (division) in
/-- A request that reaches such a feature leaves as a `TypeError`. -/
theorem predict_unhashable (h : ReachesUnhashable provider request) :
    ∃ message, predict division provider request = .error (.typeError message) := by
  obtain ⟨cutoff, reference, hrequest, sources, before, feature, after, sourceById, featureByName,
    hrecord, hsources, hbefore, hnames⟩ := h
  obtain ⟨message, hfeature⟩ := checkFeature_unhashable sourceById hnames
  have hfeatures : (before ++ feature :: after).foldlM (checkFeature sourceById) [] =
      .error (.failure (.typeError message)) :=
    foldlM_eq_error.mpr ⟨before, feature, after, featureByName, rfl, hbefore, hfeature⟩
  have hcheck : checkFeatureRecord provider.policy request cutoff =
      .error (.failure (.typeError message)) := by
    rw [checkFeatureRecord, hrecord]
    show (sources.foldlM (checkSource cutoff) [] >>= _) = _
    rw [hsources]
    show ((before ++ feature :: after).foldlM (checkFeature sourceById) [] >>= _) = _
    rw [hfeatures]
    rfl
  refine ⟨message, ?_⟩
  rw [predict, hrequest]
  show (featureFallbackReason provider.policy request cutoff >>= _) = _
  rw [featureFallbackReason, hcheck]
  rfl

theorem failClosed_error {failure : Failure} (h : IsRuntime failure) :
    FailClosed provider request (.error failure) := by
  refine ⟨fun other heq => ?_, ?_, ?_, ?_⟩
  · cases heq
    exact h
  all_goals
    intro carrier heq
    cases heq

/-- A reason of the feature record's checks is there exactly when they do not pass. -/
theorem checkFeatureRecord_of_none {policy : LoadedRuntimePolicy} {cutoff : Datetime}
    (h : featureFallbackReason policy request cutoff = .ok none) :
    checkFeatureRecord policy request cutoff = .ok () := by
  unfold featureFallbackReason at h
  split at h
  next hpass => exact hpass
  next => cases h
  next => cases h

/-- The carrier of a request that passes, where no late feature is trusted. -/
theorem failClosed_carrier {cutoff : Datetime} {reference : Json} {references : PolicyReferences}
    {reason : Option FallbackReason} {digest : String}
    (hrequest : checkRequest request = .ok (cutoff, reference))
    (hreason : featureFallbackReason provider.policy request cutoff = .ok reason)
    (hvalid : validateDurationPrediction
      (identified (carrierProjection division request reference references
        (decisionOf provider request reason)) digest) provider.policy = .ok ())
    (htimely : ∀ p50 p90 confidence, reason = none →
      decisionOf provider request reason = .model p50 p90 confidence →
      ∀ feature ∈ elements (request.record.get "features"), AvailableBy cutoff feature) :
    FailClosed provider request (.ok (identified (carrierProjection division request reference
      references (decisionOf provider request reason)) digest)) := by
  cases hdecision : decisionOf provider request reason with
  | fallback fallbackReason =>
    rw [hdecision] at hvalid
    refine ⟨fun failure heq => ?_, fun carrier heq => ?_, fun carrier heq hmodel => ?_,
      fun carrier heq _ => ?_⟩
    · cases heq
    all_goals cases heq
    · exact hvalid
    · have hsource : Json.str "STANDARD_DURATION" = .str "MODEL_CANDIDATE" := hmodel
      simp at hsource
    · rfl
  | model p50 p90 confidence =>
    have hnone : reason = none := by
      cases reason with
      | none => rfl
      | some reason => cases hdecision
    have haccepts : Accepts provider request p50 p90 confidence := by
      rw [hnone] at hdecision
      exact candidateDecision_eq_model.mp hdecision
    have hpass := checkFeatureRecord_ok (checkFeatureRecord_of_none (hnone ▸ hreason))
    have hfeatures := htimely p50 p90 confidence hnone hdecision
    rw [hdecision] at hvalid
    refine ⟨fun failure heq => ?_, fun carrier heq => ?_, fun carrier heq _ => ?_,
      fun carrier heq hother => ?_⟩
    · cases heq
    all_goals cases heq
    · exact hvalid
    · exact ⟨⟨p50, p90, confidence, haccepts, rfl⟩, hpass.identity, hpass.scope, hpass.standard,
        cutoff, utcInstant_path (checkRequest_ok hrequest).1, hpass.sources, hfeatures⟩
    · exact absurd rfl hother

/-- A request of the two kinds is not answered as it should be. -/
theorem not_failClosed (hpolicy : ValidPolicy provider.policy)
    (h : ReachesUnhashable provider request ∨ TrustsLate division provider request) :
    ¬FailClosed provider request (predict division provider request) := by
  obtain ⟨references, hreferences, hreference, hformed⟩ := validPolicy_references hpolicy
  intro hclosed
  rcases h with hunhashable | hlate
  · obtain ⟨message, hpredict⟩ := predict_unhashable division hunhashable
    obtain ⟨code, detail, heq⟩ := hclosed.raises _ hpredict
    cases heq
  · obtain ⟨cutoff, reference, references', p50, p90, confidence, hrequest, hcheck,
      ⟨feature, hfeature, hunavailable⟩, haccepts, hreferences', hpublishable⟩ := hlate
    rw [hreferences, Except.ok.injEq] at hreferences'
    subst hreferences'
    obtain ⟨hcutoff, hstandard⟩ := checkRequest_ok hrequest
    have hreason : featureFallbackReason provider.policy request cutoff = .ok none := by
      rw [featureFallbackReason, hcheck]
    have hdecision : decisionOf provider request none = .model p50 p90 confidence :=
      candidateDecision_eq_model.mpr haccepts
    have hpredict := predict_of_checks division hrequest hreason hreferences
    rw [hdecision, publish_eq hreference hformed hstandard haccepts.sound rfl] at hpredict
    have hpredict := hpredict.trans (if_pos hpublishable)
    obtain ⟨cutoff', hcutoff', -, hfeatures⟩ := (hclosed.model _ hpredict rfl).available
    rw [utcInstant_path hcutoff, Except.ok.injEq] at hcutoff'
    exact hunavailable (hcutoff' ▸ hfeatures feature hfeature)

/-- **The provider fails closed but for two kinds of requests**: over a valid policy a prediction
keeps what it owes exactly when the request neither reaches a feature that names its source by a
list or an object nor has a feature that was not available by the cutoff where the provider accepts
a candidate. -/
theorem predict_failClosed_iff (hpolicy : ValidPolicy provider.policy) :
    FailClosed provider request (predict division provider request) ↔
      ¬(ReachesUnhashable provider request ∨ TrustsLate division provider request) := by
  refine ⟨fun hclosed hkinds => not_failClosed hpolicy hkinds hclosed, fun hsafe => ?_⟩
  obtain ⟨hhashable, htimely⟩ := not_or.mp hsafe
  obtain ⟨references, hreferences, hreference, hformed⟩ := validPolicy_references hpolicy
  cases hrequest : checkRequest request with
  | error failure =>
    have hpredict : predict division provider request = .error failure := by
      rw [predict, hrequest]
      rfl
    rw [hpredict]
    exact failClosed_error (checkRequest_fails _ _ hrequest)
  | ok checked =>
    obtain ⟨cutoff, reference⟩ := checked
    obtain ⟨-, hstandard⟩ := checkRequest_ok hrequest
    cases hreason : featureFallbackReason provider.policy request cutoff with
    | error failure =>
      have hpredict : predict division provider request = .error failure := by
        rw [predict, hrequest]
        show (featureFallbackReason provider.policy request cutoff >>= _) = _
        rw [hreason]
        rfl
      rw [hpredict]
      rcases checkFeatureRecord_error (featureFallbackReason_error hreason) with
        hharmless | ⟨sources, hreaches⟩
      · exact failClosed_error hharmless
      · exact absurd ⟨cutoff, reference, hrequest, sources, hreaches⟩ hhashable
    | ok reason =>
      rw [predict_of_checks division hrequest hreason hreferences,
        publish_eq hreference hformed hstandard (decisionOf_sound reason) rfl]
      split_ifs with hfits hwritable
      · refine failClosed_carrier hrequest hreason
          (validate_carrier hreference hformed hstandard (decisionOf_sound reason) hfits.1) ?_
        intro p50 p90 confidence hnone hdecision feature hfeature
        by_contra hunavailable
        rw [hdecision] at hfits
        rw [hnone] at hdecision
        exact htimely ⟨cutoff, reference, references, p50, p90, confidence, hrequest,
          checkFeatureRecord_of_none (hnone ▸ hreason), ⟨feature, hfeature, hunavailable⟩,
          candidateDecision_eq_model.mp hdecision, hreferences, hfits⟩
      · exact failClosed_error (isRuntime ..)
      · exact failClosed_error (isRuntime ..)

end

/-! ### A source that is a list -/

/-- The members of the pinned policy that a prediction reads. -/
def pinnedDocument : Json :=
  .obj
    [("evaluation_gate", .obj [("measurement_reference", .obj
       [("duration_evaluation_report_version", .str "duration-evaluation-report.v1"),
        ("evaluation_report_fingerprint",
         .str "sha256:4c86069865003263c15e3a7e6d18a83b943a10a087d81ed34cdd3f353dfd799f"),
        ("evaluation_report_id", .str
          "duration-evaluation-report-4c86069865003263c15e3a7e6d18a83b943a10a087d81ed34cdd3f353dfd799f"),
        ("gate_decision", .str "NOT_EVALUATED_BY_P6_02")])]),
     ("model_authorization", .obj
       [("model_artifact_digest",
         .str "sha256:472cc92ada06b488fceb8477ac5a3dfe06d6391dd5ada8b441d55b96e9640ddd"),
        ("model_manifest_fingerprint",
         .str "sha256:35f84b792028a1bf135fcc44d415423d47593f2843058d119fe288efd7195bf0"),
        ("model_manifest_id", .str
          "duration-model-manifest-35f84b792028a1bf135fcc44d415423d47593f2843058d119fe288efd7195bf0"),
        ("model_version", .str "1.0.0")]),
     ("policy_fingerprint",
      .str "sha256:6acf154fe7ed2ed5b4b28060fd033896ad3ad1b66436c9edadeefe6245faebc7"),
     ("policy_id", .str
       "duration-runtime-policy-6acf154fe7ed2ed5b4b28060fd033896ad3ad1b66436c9edadeefe6245faebc7"),
     ("synthetic_provenance", .obj
       [("assumption_profile", .str "SIM-P6-DURATION-CONTRACT-001@1.0.0"),
        ("assumption_refs", .strings ["SIM-ASSUMPTION-021", "SIM-ASSUMPTION-022",
          "SIM-ASSUMPTION-023", "SIM-ASSUMPTION-024", "SIM-ASSUMPTION-025"])])]

def pinnedPolicy : LoadedRuntimePolicy where
  document := pinnedDocument
  confidenceThreshold := 9 / 10
  predictionTimeoutNs := 50000000
  maxFeatureRecordBytes := 16384
  maxPredictionBytes := 32768
  maxFeatures := 4
  maxSourceRecords := 1

theorem pinnedPolicy_valid : ValidPolicy pinnedPolicy :=
  ⟨rfl, rfl, by decide, by decide, by decide, rfl, rfl, rfl, rfl, rfl, rfl, rfl, rfl⟩

/-- A provider with a model that predicts nothing. -/
def silentProvider : DurationPredictionProvider Unit where
  policy := pinnedPolicy
  model := some ()
  startupFallbackReason := none
  candidatePredictor := fun _ _ => .none
  elapsed := 0

def zeroDigest : String :=
  "sha256:0000000000000000000000000000000000000000000000000000000000000000"

def sampleStandard : List (String × Json) :=
  [("seconds", .int 60), ("duration_source", .str "ROUTING"), ("source_version", .str "1"),
   ("source_record_id", .str "S1"), ("source_record_fingerprint", .str zeroDigest)]

def sampleSource : Json :=
  .obj [("available_at_utc", .str "2026-01-01T00:00:00Z"),
    ("observed_at_utc", .str "2026-01-01T00:00:00Z"), ("record_fingerprint", .str zeroDigest),
    ("source_record_id", .str "S1"), ("source_system", .str "ROUTING"),
    ("source_version", .str "1")]

def sampleFeature (name unit valueType : String) (value source : Json) : Json :=
  .obj [("available_at_utc", .str "2026-01-01T00:00:00Z"), ("feature_name", .str name),
    ("source_record_ids", .arr [source]), ("transform_version", .str "1"), ("unit", .str unit),
    ("value", value), ("value_type", .str valueType)]

/-- The features of a record whose first one names its source by a list. -/
def sampleFeatures : List Json :=
  [sampleFeature "operation_family" "CATEGORY" "CATEGORY" (.str "CUT") (.arr [.str "S1"]),
   sampleFeature "planned_quantity" "COUNT" "INTEGER" (.int 1) (.str "S1"),
   sampleFeature "setup_seconds" "SECONDS" "INTEGER" (.int 0) (.str "S1"),
   sampleFeature "standard_duration_seconds" "SECONDS" "INTEGER" (.int 60) (.str "S1")]

/-- The members of the record but for its identity. -/
def sampleMembers : List (String × Json) :=
  [("as_of_cutoff_utc", .str "2026-01-01T00:00:00Z"),
   ("canonicalization_version", .str "canonical-json.v1"), ("data_plane", .str "SIMULATION"),
   ("duration_feature_record_version", .str "duration-feature-record.v1"),
   ("environment", .str "TEST"), ("factory_id", .str "F1"),
   ("feature_schema_version", .str "duration-features.v1"), ("features", .arr sampleFeatures),
   ("governance_boundary", .obj
     [("open_authority_gaps", openAuthorityGaps), ("production_authorized", .bool false)]),
   ("operation_id", .str "O1"), ("pii_fields_present", .bool false),
   ("production_binding", .bool false), ("resource_id", .str "R1"),
   ("resource_option_id", .str "RO1"), ("schema_set_version", .str "2.9.0"),
   ("source_records", .arr [sampleSource]), ("synthetic", .bool true),
   ("synthetic_provenance", .obj []), ("target_fields_present", .bool false)]

/-- The members under an identity. -/
def sampleRecord (id digest : String) : List (String × Json) :=
  sampleMembers ++
    [("feature_record_fingerprint", .str digest), ("feature_record_id", .str id)]

/-- The text of the members, from which the identity is computed. -/
def sampleText : String := (Json.obj sampleMembers).dumps

def sampleDigest : String := "sha256:" ++ Sha256.hexdigest sampleText

def sampleId : String := "duration-feature-record-" ++ Sha256.hexdigest sampleText

def sampleRequest : DurationPredictionRequest where
  factoryId := .str "F1"
  operationId := .str "O1"
  resourceOptionId := .str "RO1"
  resourceId := .str "R1"
  predictedAtUtc := .str "2026-01-01T00:00:00Z"
  asOfCutoffUtc := .str "2026-01-01T00:00:00Z"
  standardDuration := sampleStandard
  featureRecord := sampleRecord sampleId sampleDigest

theorem sampleInstant_nonneg : (0 : Int) ≤ 63902822400000000 := by decide
theorem sampleInstant_lt : 63902822400000000 < microsLimit := by decide

/-- 2026-01-01T00:00:00Z -/
def sampleInstant : Datetime := ⟨63902822400000000, sampleInstant_nonneg, sampleInstant_lt⟩

theorem sample_instant (path : String) :
    utcInstant (.str "2026-01-01T00:00:00Z") path = .ok sampleInstant := by
  have hparse : parseUtcInstant "2026-01-01T00:00:00Z" = .ok sampleInstant := by decide +kernel
  rw [utcInstant, hparse]
  rfl

theorem length_sampleDigest : sampleDigest.length = 71 := by
  unfold sampleDigest
  rw [String.length_append, Sha256.length_hexdigest]
  exact congrArg (· + 64) (by decide : "sha256:".length = 7)

theorem length_sampleId : sampleId.length = 88 := by
  unfold sampleId
  rw [String.length_append, Sha256.length_hexdigest]
  exact congrArg (· + 64) (by decide : "duration-feature-record-".length = 24)

/-- The bound on the size of the record looks at its identity's lengths alone. -/
theorem sizeBound_sampleRecord (id digest : String) :
    Json.sizeBound (.obj (sampleRecord id digest)) =
      Json.membersBound sampleMembers + (6 * 26 + 3 + (6 * digest.length + 2) + 1 +
        (6 * 17 + 3 + (6 * id.length + 2) + 1)) + 2 := by
  have happend : ∀ xs ys : List (String × Json),
      Json.membersBound (xs ++ ys) = Json.membersBound xs + Json.membersBound ys := by
    intro xs ys
    induction xs with
    | nil => simp [Json.membersBound]
    | cons member rest ih =>
      obtain ⟨key, value⟩ := member
      rw [List.cons_append, Json.membersBound, Json.membersBound, ih]
      omega
  rw [Json.sizeBound, sampleRecord, happend]
  rfl

theorem sampleRecord_fits : (Json.obj (sampleRecord sampleId sampleDigest)).dumps.utf8ByteSize ≤
    16384 := by
  refine (Json.utf8ByteSize_dumps_le _).trans ?_
  rw [sizeBound_sampleRecord, length_sampleId, length_sampleDigest]
  decide

theorem expectFingerprint_digest (text path : String) :
    expectFingerprint (.str ("sha256:" ++ Sha256.hexdigest text)) path =
      .ok ("sha256:" ++ Sha256.hexdigest text) := by
  have hcanonical : isCanonicalId ("sha256:" ++ Sha256.hexdigest text) = true :=
    Snapshot.isCanonicalId_digest "sha256:" text (by decide) (by decide)
  have hlength : ("sha256:" ++ Sha256.hexdigest text).length = 71 := by
    rw [String.length_append, Sha256.length_hexdigest]
    exact congrArg (· + 64) (by decide : "sha256:".length = 7)
  have hleading : "sha256:".toList.isPrefixOf ("sha256:" ++ Sha256.hexdigest text).toList =
      true := by
    rw [String.toList_append, List.isPrefixOf_iff_prefix]
    exact List.prefix_append ..
  have hdigits : (("sha256:" ++ Sha256.hexdigest text).toList.drop 7).all
      (fun c => c ∈ "0123456789abcdef".toList) = true := by
    have hhex : ∀ n < 16, decide (Nat.digitChar n ∈ "0123456789abcdef".toList) = true := by decide
    have hdrop : ("sha256:" ++ Sha256.hexdigest text).toList.drop 7 =
        (Sha256.hexdigest text).toList := by
      rw [String.toList_append]
      rfl
    rw [hdrop, List.all_eq_true]
    intro c hc
    obtain ⟨n, hn, rfl⟩ := Sha256.mem_hexdigest _ c hc
    exact hhex n hn
  simp only [expectFingerprint, expectIdentifier, hcanonical, if_true, bind_eq_ok, exists_unit_iff,
    require_eq_ok, Except.ok.injEq, exists_eq_left']
  exact ⟨⟨hlength, hleading, hdigits⟩, rfl⟩

theorem sample_identifier (path : String) :
    expectIdentifier (.str sampleId) path = .ok sampleId := by
  have hcanonical : isCanonicalId sampleId = true :=
    Snapshot.isCanonicalId_digest "duration-feature-record-" _ (by decide) (by decide)
  rw [expectIdentifier, if_pos hcanonical]

theorem sample_zeroDigest (path : String) :
    expectFingerprint (.str zeroDigest) path = .ok zeroDigest := by
  have hcanonical : isCanonicalId zeroDigest = true := by decide
  have hshape : zeroDigest.length = 71 ∧ "sha256:".toList.isPrefixOf zeroDigest.toList = true ∧
      (zeroDigest.toList.drop 7).all (fun c => c ∈ "0123456789abcdef".toList) = true := by decide
  simp only [expectFingerprint, expectIdentifier, hcanonical, if_true, bind_eq_ok, exists_unit_iff,
    require_eq_ok, Except.ok.injEq, exists_eq_left']
  exact ⟨hshape, rfl⟩

theorem sample_request :
    ∃ reference, checkRequest sampleRequest = .ok (sampleInstant, reference) := by
  have hstandard : validateStandardDuration sampleRequest.standard = .ok () := by
    simp only [validateStandardDuration, bind_eq_ok, exists_unit_iff, expectObject, expectKeys,
      require_eq_ok]
    exact ⟨rfl, by decide, _, rfl, _, rfl, _, rfl, _, rfl, _, sample_zeroDigest _, rfl⟩
  have hreference : ∃ reference, featureReference sampleRequest.record = .ok reference := by
    have hid : sampleRequest.record.get "feature_record_id" = .str sampleId := rfl
    have hdigest : sampleRequest.record.get "feature_record_fingerprint" = .str sampleDigest := rfl
    simp only [featureReference, hid, hdigest, sample_identifier, sampleDigest,
      expectFingerprint_digest]
    exact ⟨_, rfl⟩
  obtain ⟨reference, hreference⟩ := hreference
  refine ⟨reference, ?_⟩
  simp only [checkRequest, bind_eq_ok, exists_unit_iff, require_eq_ok]
  exact ⟨_, rfl, _, rfl, _, rfl, _, rfl, _, sample_instant _, _, sample_instant _, lt_irrefl _,
    hstandard, _, hreference, rfl⟩

theorem thousand_le_pow {k : Nat} (h : 3 ≤ k) : 1000 ≤ 10 ^ k :=
  Nat.pow_le_pow_right (by decide : 0 < 10) h

theorem writable_int {n : Int} (h : n.natAbs < 1000) : writable (.int n) = true := by
  rw [writable, decide_eq_true_eq]
  exact h.trans_le (thousand_le_pow (by decide))

theorem sample_writable (id digest : String) :
    writable (.obj (sampleRecord id digest)) = true ∧ writable (.obj sampleMembers) = true := by
  have hone : writable (.int 1) = true := writable_int (by decide)
  have hzero : writable (.int 0) = true := writable_int (by decide)
  have hsixty : writable (.int 60) = true := writable_int (by decide)
  have hfeature : ∀ name unit valueType value source, writable value = true →
      writable source = true →
      writable (sampleFeature name unit valueType value source) = true := by
    intro name unit valueType value source hvalue hsource
    simp only [sampleFeature, writable, writableItems, writableMembers, hvalue, hsource,
      Bool.and_self]
  have hfeatures : writable (.arr sampleFeatures) = true := by
    rw [writable, sampleFeatures, writableItems, writableItems, writableItems, writableItems,
      hfeature _ _ _ _ _ rfl rfl, hfeature _ _ _ _ _ hone rfl, hfeature _ _ _ _ _ hzero rfl,
      hfeature _ _ _ _ _ hsixty rfl]
    rfl
  have hmembers : writableMembers sampleMembers = true := by
    rw [sampleMembers]
    repeat rw [writableMembers]
    rw [hfeatures]
    rfl
  refine ⟨?_, hmembers⟩
  rw [writable, sampleRecord, writableMembers_append, hmembers]
  rfl

theorem sample_record : checkRecord pinnedPolicy sampleRequest sampleRequest.record =
    .ok ([sampleSource], sampleFeatures) := by
  have hprojection : recordProjection sampleRequest.record = .obj sampleMembers := rfl
  have hfingerprint : fingerprint (recordProjection sampleRequest.record) = .ok sampleDigest := by
    rw [hprojection, fingerprint_ok (sample_writable "" "").2]
    rfl
  have hdigits : fingerprintDigits sampleDigest = Sha256.hexdigest sampleText :=
    Execution.fingerprintDigits_digest sampleText
  have hkeys : sampleRequest.record.keys = (sampleRecord "" "").map Prod.fst := rfl
  have hsensitive : containsSensitiveKey sampleRequest.record =
      containsSensitiveKey (.obj (sampleRecord "" "")) := rfl
  simp only [checkRecord, bind_eq_ok, exists_unit_iff, require_eq_ok, mapError_eq_ok]
  refine ⟨⟨(sample_writable sampleId sampleDigest).1, sampleRecord_fits⟩, ?_, ?_, ⟨rfl, rfl⟩,
    ⟨rfl, rfl⟩, ⟨rfl, rfl⟩, ⟨rfl, rfl, rfl, rfl, by decide⟩, sampleDigest, hfingerprint,
    ⟨rfl, ?_⟩, ?_, ?_⟩
  · rw [hsensitive]
    decide
  · rw [HasFields, hkeys]
    decide
  · rw [hdigits]
    rfl
  · decide
  · rfl

/-- A request whose first feature names its source by a list leaves as a `TypeError`. -/
theorem sample_reaches : ReachesUnhashable silentProvider sampleRequest := by
  obtain ⟨reference, hrequest⟩ := sample_request
  have hsource : checkSource sampleInstant [] sampleSource = .ok [("S1", sampleSource)] := by
    simp only [checkSource, bind_eq_ok, exists_unit_iff, require_eq_ok]
    refine ⟨by decide, ?_⟩
    show (require _ _ >>= _) = _
    simp only [bind_eq_ok, exists_unit_iff, require_eq_ok, mapError_eq_ok]
    exact ⟨by decide, _, ⟨_, sample_zeroDigest _, _, sample_instant _, _, sample_instant _, rfl⟩,
      by simp, rfl⟩
  refine ⟨sampleInstant, reference, hrequest, [sampleSource], [], _, _, [("S1", sampleSource)], [],
    sample_record, ?_, rfl, ⟨rfl, by decide, ⟨_, rfl, List.not_mem_nil⟩, _, rfl, trivial⟩⟩
  rw [List.foldlM_cons, hsource]
  rfl

theorem endpoint_within (q : ℚ) (_ : 0 ≤ q) (_ : q ≤ 1) :
    0 ≤ (if q = 1 then FloatValue.mk "1.0" 1 1 else FloatValue.mk "0.0" 0 1).num ∧
      (if q = 1 then FloatValue.mk "1.0" 1 1 else FloatValue.mk "0.0" 0 1).num ≤
        (if q = 1 then FloatValue.mk "1.0" 1 1 else FloatValue.mk "0.0" 0 1).den := by
  split <;> decide

/-- A division that is exact at zero and one. -/
def endpointDivision : TrueDivision :=
  ⟨fun q => if q = 1 then ⟨"1.0", 1, 1⟩ else ⟨"0.0", 0, 1⟩, endpoint_within⟩

/-- **The provider does not fail closed on every request.** A feature whose one source is named
by a list leaves the call as a `TypeError`. -/
theorem silent_leaks : ¬∀ division : TrueDivision,
    FailClosed silentProvider sampleRequest (predict division silentProvider sampleRequest) := by
  intro h
  exact not_failClosed pinnedPolicy_valid (.inl sample_reaches) (h endpointDivision)

/-- The condition fails at the request, and with it the property. -/
theorem silent_reaches : ReachesUnhashable silentProvider sampleRequest ∧
    ¬FailClosed silentProvider sampleRequest
      (predict endpointDivision silentProvider sampleRequest) :=
  ⟨sample_reaches, fun h => (predict_failClosed_iff pinnedPolicy_valid).mp h (.inl sample_reaches)⟩

end PlantNexus.Duration
