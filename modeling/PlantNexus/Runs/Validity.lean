import PlantNexus.Runs.Verification

/-! What the verification of a document establishes.

Each verifier passes exactly on the documents with the named properties, so that proofs read the
properties and never unfold a verifier. An attempt is checked against the source of a run alone:
it stays valid whatever the run goes through. -/
namespace PlantNexus.Runs
open Data Time

/-! ### Runs -/

theorem immutableFields_all (a b : RunSource) :
    (∀ field ∈ immutableFields a b, field.2 = true) ↔ a = b := by
  cases a
  cases b
  simp [immutableFields]

/-- Every reference that is set in `before` is the same in `after`. -/
structure ArtifactsKept (before after : Artifacts) : Prop where
  importQualityReport : before.importQualityReport ≠ none →
    after.importQualityReport = before.importQualityReport
  snapshot : before.snapshot ≠ none → after.snapshot = before.snapshot
  problem : before.problem ≠ none → after.problem = before.problem
  planningSolution : before.planningSolution ≠ none →
    after.planningSolution = before.planningSolution
  solverReport : before.solverReport ≠ none → after.solverReport = before.solverReport
  validationReport : before.validationReport ≠ none →
    after.validationReport = before.validationReport
  scheduleVersion : before.scheduleVersion ≠ none →
    after.scheduleVersion = before.scheduleVersion

theorem ArtifactsKept.refl (artifacts : Artifacts) : ArtifactsKept artifacts artifacts :=
  ⟨fun _ => rfl, fun _ => rfl, fun _ => rfl, fun _ => rfl, fun _ => rfl, fun _ => rfl,
    fun _ => rfl⟩

theorem checkArtifactsKept_eq_ok (before after : Artifacts) (path message : String) :
    checkArtifactsKept before after path message = .ok () ↔ ArtifactsKept before after := by
  rw [checkArtifactsKept, forEach_eq_ok_iff fun pair => pair.1.2 ≠ none → pair.2.2 = pair.1.2]
  · simp only [Artifacts.members, List.zip_cons_cons, List.zip_nil_right, List.forall_mem_cons,
      List.not_mem_nil, false_implies, implies_true, and_true]
    constructor
    · rintro ⟨h1, h2, h3, h4, h5, h6, h7⟩
      exact ⟨h1, h2, h3, h4, h5, h6, h7⟩
    · rintro ⟨h1, h2, h3, h4, h5, h6, h7⟩
      exact ⟨h1, h2, h3, h4, h5, h6, h7⟩
  · intro pair _ _
    exact require_eq_ok ..

/-- The references of a run that were prepared at ingress are the prepared ones. -/
structure ArtifactsPrepared (artifacts : Artifacts) (prepared : PreparedArtifacts) : Prop where
  importQualityReport : artifacts.importQualityReport ≠ none →
    artifacts.importQualityReport = prepared.importQualityReport
  snapshot : artifacts.snapshot ≠ none → artifacts.snapshot = prepared.snapshot
  problem : artifacts.problem ≠ none → artifacts.problem = prepared.problem

theorem preparedFields_all (artifacts : Artifacts) (prepared : PreparedArtifacts) :
    (∀ field ∈ preparedFields artifacts prepared, field.2.1 ≠ none → field.2.1 = field.2.2) ↔
      ArtifactsPrepared artifacts prepared := by
  simp only [preparedFields, List.forall_mem_cons, List.not_mem_nil, false_implies,
    implies_true, and_true]
  constructor
  · rintro ⟨h1, h2, h3⟩
    exact ⟨h1, h2, h3⟩
  · rintro ⟨h1, h2, h3⟩
    exact ⟨h1, h2, h3⟩

section
variable {P : Platform}

variable (P) in
/-- A run that `verify_planning_run` accepts on its own. -/
structure RunValid (aggregate : RunAggregate) : Prop where
  schema : schemaHolds P aggregate
  initial : aggregate.initial.state = .created ∧ aggregate.initial.revision = 1
  source : aggregate.document.source = aggregate.initial.source
  fingerprint : aggregate.document.runFingerprint = P.runFingerprint aggregate.document
  scope : aggregate.document.source.effectiveScope.scopeFingerprint =
    P.scopeFingerprint aggregate.document.source.effectiveScope
  runtime : aggregate.document.source.runtimeResolution.resolutionFingerprint =
    P.runtimeResolutionFingerprint aggregate.document.source.runtimeResolution
  transition : checkTransition aggregate.document = .ok ()
  prepared : ArtifactsPrepared aggregate.document.artifacts aggregate.prepared
  evidence : ∀ evidence ∈ aggregate.document.attempt, evidence.runtimeResolutionFingerprint =
    aggregate.document.source.runtimeResolution.resolutionFingerprint

theorem verifyPlanningRun_none {aggregate : RunAggregate} :
    verifyPlanningRun P aggregate none = .ok () ↔ RunValid P aggregate := by
  simp only [verifyPlanningRun, bind_eq_ok, exists_unit_iff, require_eq_ok]
  rw [forEach_eq_ok_iff fun field => field.2 = true, immutableFields_all,
    forEach_eq_ok_iff fun field => field.2.1 ≠ none → field.2.1 = field.2.2, preparedFields_all]
  · constructor
    · intro hall
      obtain ⟨h1, h2, h3, h4, h5, h6, h7, h8, h9⟩ := hall
      exact ⟨h1, h2, h3, h4, h5, h6, h7, h8, h9⟩
    · intro h
      exact ⟨h.schema, h.initial, h.source, h.fingerprint, h.scope, h.runtime, h.transition,
        h.prepared, h.evidence⟩
  · intro _ _ _
    exact require_eq_ok ..
  · intro _ _ _
    exact require_eq_ok ..

theorem verifyPlanningRun_some {aggregate : RunAggregate} {previous : PlanningRun} :
    verifyPlanningRun P aggregate (some previous) = .ok () ↔
      RunValid P aggregate ∧ checkSuccession aggregate.document previous = .ok () := by
  rw [← verifyPlanningRun_none]
  simp only [verifyPlanningRun, bind_eq_ok, exists_unit_iff, require_eq_ok]
  tauto

/-- A reference to an audit event. -/
def AuditValid (reference : Reference) : Prop :=
  (reference.documentVersion = "audit-event.v1" ∧ reference.artifactId ≠ "") ∧
    isFingerprint reference.fingerprint = true

theorem requireAuditReference_eq_ok {reference : Reference} {field : String} :
    requireAuditReference reference field = .ok () ↔ AuditValid reference := by
  simp only [requireAuditReference, bind_eq_ok, exists_unit_iff, require_eq_ok]
  exact Iff.rfl

/-- The step that a run says it has made last. -/
def LegalTransition (transition : RunTransition) : Prop :=
  if transition.sequence = 0 then transition.fromState = none ∧ transition.toState = .created
  else
    ∃ fromState, transition.fromState = some fromState ∧ ¬fromState.Terminal ∧
      (fromState, transition.toState) ∈ planningRunTransitions

/-- What a valid run says of its latest transition. -/
structure TransitionValid (document : PlanningRun) : Prop where
  revision : document.revision = document.lastTransition.sequence + 1
  state : document.state = document.lastTransition.toState
  updated : document.updatedAtUtc = document.lastTransition.occurredAtUtc
  audits : (document.auditReferences.length : Int) = document.revision
  auditsValid : ∀ reference ∈ document.auditReferences, AuditValid reference
  lastAudit : document.auditReferences.getLast? = some document.lastTransition.audit
  cancellation : ∀ cancellation ∈ document.cancellation,
    cancellation.audit = document.lastTransition.audit
  legal : LegalTransition document.lastTransition

theorem checkTransition_eq_ok {document : PlanningRun} :
    checkTransition document = .ok () ↔ TransitionValid document := by
  simp only [checkTransition, bind_eq_ok, exists_unit_iff, require_eq_ok]
  rw [forEach_eq_ok_iff AuditValid _ _ fun _ _ _ => requireAuditReference_eq_ok]
  constructor
  · intro hall
    obtain ⟨h1, h2, h3, h4, h5, h6, h7, h8⟩ := hall
    refine ⟨h1, h2, h3, h4, h5, h6, h7, ?_⟩
    unfold LegalTransition
    split at h8
    · rename_i hzero
      rw [if_pos hzero]
      exact (require_eq_ok ..).mp h8
    · rename_i hzero
      rw [if_neg hzero]
      cases hfrom : document.lastTransition.fromState with
      | none => simp [hfrom] at h8
      | some fromState => simpa [hfrom, requirePlanningRunTransition] using h8
  · intro h
    refine ⟨h.revision, h.state, h.updated, h.audits, h.auditsValid, h.lastAudit, h.cancellation,
      ?_⟩
    have hlegal := h.legal
    unfold LegalTransition at hlegal
    split
    · rename_i hzero
      rw [if_pos hzero] at hlegal
      exact (require_eq_ok ..).mpr hlegal
    · rename_i hzero
      rw [if_neg hzero] at hlegal
      obtain ⟨fromState, hfrom, hlegal⟩ := hlegal
      simpa [hfrom, requirePlanningRunTransition] using hlegal

theorem RunValid.transitionValid {aggregate : RunAggregate} (h : RunValid P aggregate) :
    TransitionValid aggregate.document := checkTransition_eq_ok.mp h.transition

/-- A run has a revision for each of its audits, and at least the first. -/
theorem TransitionValid.one_le_revision {document : PlanningRun} (h : TransitionValid document) :
    1 ≤ document.revision := by
  have hne : document.auditReferences ≠ [] := by
    intro hnil
    have := h.lastAudit
    rw [hnil] at this
    cases this
  have := List.length_pos_of_ne_nil hne
  have := h.audits
  omega

/-! ### Attempts -/

variable (P) in
/-- An attempt that `verify_attempt` accepts on its own. -/
structure AttemptValid (a : RunAttempt) (source : RunSource) : Prop where
  runId : a.planningRunId = source.planningRunId
  fingerprint : a.attemptFingerprint = a.fingerprintFor P
  positive : 1 ≤ a.attemptNumber ∧ 1 ≤ a.revision
  runForm : isFingerprint a.expectedRunFingerprint = true
  runtimeForm : isFingerprint a.runtimeResolutionFingerprint = true
  extensionForm : isFingerprint a.extensionSetFingerprint = true
  runtime : a.runtimeResolutionFingerprint = source.runtimeResolution.resolutionFingerprint ∧
    a.extensionSetFingerprint = source.runtimeResolution.extensionSetFingerprint
  expected : 1 ≤ a.expectedRunRevision
  window : ∃ available timeout, utc a.availableAtUtc "attempt.available_at_utc" = .ok available ∧
    utc a.timeoutAtUtc "attempt.timeout_at_utc" = .ok timeout ∧ available < timeout ∧
    checkWindow a available timeout = .ok ()
  evidence : checkEvidence a = .ok ()
  audit : requireAuditReference a.audit "planning_run_attempt.audit" = .ok ()

theorem verifyAttempt_none {a : RunAttempt} {run : PlanningRun} :
    verifyAttempt P a run none = .ok () ↔ AttemptValid P a run.source := by
  simp only [verifyAttempt, bind_eq_ok, exists_unit_iff, require_eq_ok]
  constructor
  · intro hall
    obtain ⟨h1, h2, h3, h4, h5, h6, h7, h8, available, h9, timeout, h10, h11, h12, h13, h14, _⟩ :=
      hall
    exact ⟨h1, h2, h3, h4, h5, h6, h7, h8, ⟨available, timeout, h9, h10, h11, h13⟩, h12, h14⟩
  · intro h
    obtain ⟨available, timeout, h9, h10, h11, h13⟩ := h.window
    exact ⟨h.runId, h.fingerprint, h.positive, h.runForm, h.runtimeForm, h.extensionForm,
      h.runtime, h.expected, available, h9, timeout, h10, h11, h.evidence, h13, h.audit, rfl⟩

/-- What a valid attempt says of its record before. -/
structure AttemptSucceeds (a previous : RunAttempt) : Prop where
  identity : a.identity = previous.identity
  status : (previous.status, a.status) ∈ attemptTransitions
  revision : a.revision = previous.revision + 1
  started : previous.startedAtUtc ≠ none → a.startedAtUtc = previous.startedAtUtc
  results : ArtifactsKept previous.resultReferences a.resultReferences
  previousAudit : requireAuditReference previous.audit "previous_attempt.audit" = .ok ()
  audit : a.audit ≠ previous.audit

theorem checkAttemptSuccession_eq_ok {a previous : RunAttempt} :
    checkAttemptSuccession a previous = .ok () ↔ AttemptSucceeds a previous := by
  simp only [checkAttemptSuccession, bind_eq_ok, exists_unit_iff, require_eq_ok,
    checkArtifactsKept_eq_ok]
  constructor
  · intro hall
    obtain ⟨h1, h2, h3, h4, h5, h6⟩ := hall
    exact ⟨h1, h2.1, h2.2, h3, h4, h5, h6⟩
  · intro h
    exact ⟨h.identity, ⟨h.status, h.revision⟩, h.started, h.results, h.previousAudit, h.audit⟩

theorem verifyAttempt_some {a previous : RunAttempt} {run : PlanningRun} :
    verifyAttempt P a run (some previous) = .ok () ↔
      AttemptValid P a run.source ∧ AttemptSucceeds a previous := by
  rw [← verifyAttempt_none, ← checkAttemptSuccession_eq_ok]
  simp only [verifyAttempt, bind_eq_ok, exists_unit_iff, require_eq_ok]
  aesop

theorem RunAttempt.id_of_identity {a b : RunAttempt} (h : a.identity = b.identity) :
    a.attemptId = b.attemptId := congrArg AttemptIdentity.attemptId h

theorem RunAttempt.number_of_identity {a b : RunAttempt} (h : a.identity = b.identity) :
    a.attemptNumber = b.attemptNumber := congrArg AttemptIdentity.attemptNumber h

/-- An attempt that has ended has no successor. -/
theorem not_terminal_of_transition {previous next : AttemptStatus}
    (h : (previous, next) ∈ attemptTransitions) : ¬previous.Terminal := by
  revert h
  cases previous <;> cases next <;> decide

/-! ### Work items and command records -/

variable (P) in
/-- A work item that is bound to its run and attempt. -/
structure WorkItemValid (w : RunWorkItem) (aggregate : RunAggregate) (a : RunAttempt) : Prop where
  runId : w.planningRunId = aggregate.document.source.planningRunId
  attemptId : w.attemptId = a.attemptId
  attemptNumber : w.attemptNumber = a.attemptNumber
  expected : w.expectedRunRevision = a.expectedRunRevision ∧
    w.expectedRunState = a.expectedRunState ∧
    w.expectedRunFingerprint = a.expectedRunFingerprint
  window : w.availableAtUtc = a.availableAtUtc ∧ w.timeoutAtUtc = a.timeoutAtUtc
  runtime : w.runtimeResolution = aggregate.document.source.runtimeResolution
  prepared : w.preparedArtifacts = aggregate.prepared
  inputs : w.inputs = aggregate.document.source.inputs
  audit : requireAuditReference w.audit "planning_run_work_item.audit" = .ok ()
  fingerprint : w.workItemFingerprint = w.fingerprintFor P

theorem verifyWorkItem_eq_ok {w : RunWorkItem} {aggregate : RunAggregate} {a : RunAttempt}
    {bindAttemptAudit : Bool} :
    verifyWorkItem P w aggregate a bindAttemptAudit = .ok () ↔
      WorkItemValid P w aggregate a ∧ (bindAttemptAudit = true → w.audit = a.audit) := by
  simp only [verifyWorkItem, bind_eq_ok, exists_unit_iff, require_eq_ok]
  constructor
  · intro hall
    obtain ⟨⟨h1, h2, h3, h4, h5, h6, h7, h8, h9, h10, h11, h12⟩, h13, h14⟩ := hall
    exact ⟨⟨h1, h2, h3, ⟨h4, h5, h6⟩, ⟨h7, h8⟩, h9, h10, h11, h13, h14⟩, h12⟩
  · intro hall
    obtain ⟨h, haudit⟩ := hall
    exact ⟨⟨h.runId, h.attemptId, h.attemptNumber, h.expected.1, h.expected.2.1, h.expected.2.2,
      h.window.1, h.window.2, h.runtime, h.prepared, h.inputs, haudit⟩, h.audit, h.fingerprint⟩

/-- A work item stays bound while its attempt keeps its identity and the run its source. -/
theorem WorkItemValid.congr {w : RunWorkItem} {aggregate aggregate' : RunAggregate}
    {a a' : RunAttempt} (h : WorkItemValid P w aggregate a) (ha : a'.identity = a.identity)
    (hsource : aggregate'.document.source = aggregate.document.source)
    (hprepared : aggregate'.prepared = aggregate.prepared) :
    WorkItemValid P w aggregate' a' := by
  have hid : ∀ {α : Type} (f : AttemptIdentity → α), f a.identity = f a'.identity :=
    fun f => congrArg f ha.symm
  exact
    { runId := h.runId.trans (congrArg RunSource.planningRunId hsource.symm)
      attemptId := h.attemptId.trans (hid AttemptIdentity.attemptId)
      attemptNumber := h.attemptNumber.trans (hid AttemptIdentity.attemptNumber)
      expected := ⟨h.expected.1.trans (hid AttemptIdentity.expectedRunRevision),
        h.expected.2.1.trans (hid AttemptIdentity.expectedRunState),
        h.expected.2.2.trans (hid AttemptIdentity.expectedRunFingerprint)⟩
      window := ⟨h.window.1.trans (hid AttemptIdentity.availableAtUtc),
        h.window.2.trans (hid AttemptIdentity.timeoutAtUtc)⟩
      runtime := h.runtime.trans (congrArg RunSource.runtimeResolution hsource.symm)
      prepared := h.prepared.trans hprepared.symm
      inputs := h.inputs.trans (congrArg RunSource.inputs hsource.symm)
      audit := h.audit
      fingerprint := h.fingerprint }

end
end PlantNexus.Runs
