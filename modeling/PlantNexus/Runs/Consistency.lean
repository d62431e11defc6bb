import PlantNexus.Runs.Acceptance

/-! Consistency of a run and its attempts.

The compare-and-swap of a transition covers the run row and the attempt it binds, and nothing
else: whether the latest attempt has ended is decided on what was read. `Undisturbed` says that
the answer is still the same when the transition commits. -/
namespace PlantNexus.Runs
open Data Domain

/-- A run that has ended has no open attempt; one that is completed has an attempt that
succeeded. -/
structure RunEnded (store : RunStore) : Prop where
  ended : ∀ run ∈ store.run, run.document.state.Terminal →
    ∀ a ∈ store.attempts.getLast?, a.status.Terminal
  completed : ∀ run ∈ store.run, run.document.state = .completed →
    ∀ a ∈ store.attempts.getLast?, a.status = .succeeded

/-- What holds of the rows of a run. -/
structure RunConsistent (store : RunStore) : Prop
    extends AttemptsConsistent store.attempts store.workItems, RunEnded store where
  attempted : store.run ≠ none → store.attempts ≠ []
  revision : ∀ run ∈ store.run, run.document.revision = store.transitions.length

/-- What holds of one step of the rows. -/
structure RunProgress (store store' : RunStore) : Prop where
  audits : ∀ run ∈ store.run, ∃ run' ∈ store'.run,
    run.document.auditReferences <+: run'.document.auditReferences
  fixed : ∀ run ∈ store.run, run.document.state.Terminal →
    store'.run = store.run ∧ store'.attempts = store.attempts ∧
      store'.transitions = store.transitions
  -- a run that moves on to a further open state moves on under an attempt that has not ended
  entered : ∀ run ∈ store.run, ∀ run' ∈ store'.run, run'.document ≠ run.document →
    ¬run'.document.state.Terminal → ∀ a ∈ store.attempts.getLast?, ¬a.status.Terminal

/-- A transition commits with the latest attempt ended exactly if it had ended when it was read,
and completes no run on an attempt that it read as queued. -/
def Undisturbed (s : RunSystem) : RunEvent → Prop
  | .wrote write _ =>
    ∀ m, write.mutation = .transition m → ∀ seen ∈ write.latest,
      (∀ latest ∈ s.store.latest, latest.status.Terminal ↔ seen.status.Terminal) ∧
        (m.aggregate.document.state = .completed → seen.status ≠ .queued)
  | _ => True

section
variable {P : Platform} {store store' : RunStore}

theorem RunProgress.refl (store : RunStore) : RunProgress store store :=
  { audits := fun run h => ⟨run, h, List.prefix_rfl⟩
    fixed := fun _ _ _ => ⟨rfl, rfl, rfl⟩
    entered := by
      intro run h run' h' hne
      rw [Option.some.inj (h.symm.trans h')] at hne
      exact absurd rfl hne }

/-! ### One transaction -/

theorem transition_progress {c : TransitionCommand} {model : ReadModel} {ctx : CommandContext}
    {id : CommandIdentity} {latest : RunAttempt} {t : TransitionMutation}
    (hprepared : TransitionPrepared P c model ctx id latest t)
    (hwrote : store.Wrote (.transition t) store')
    (hsame : ∀ a ∈ store.attempts.getLast?, a.status.Terminal ↔ latest.status.Terminal) :
    RunProgress store store' := by
  obtain ⟨audit, evidence, -, haggregate, -⟩ := hprepared.written
  cases hwrote with
  | @transition _ stored hrun hcurrent hfound =>
    have hstored : ∀ run ∈ store.run, run = stored :=
      fun run hmem => (Option.some.inj (hrun.symm.trans hmem)).symm
    exact
      { audits := by
          intro run hmem
          refine ⟨_, rfl, ?_⟩
          rw [hstored run hmem, hcurrent, hprepared.previous, haggregate]
          exact List.prefix_append ..
        fixed := by
          intro run hmem hterminal
          rw [hstored run hmem, hcurrent, hprepared.previous] at hterminal
          exact absurd hterminal hprepared.open_
        entered := by
          intro run _ run' hmem _ hto a ha
          obtain rfl := Option.some.inj hmem
          rw [hsame a ha]
          rw [haggregate] at hto
          exact hprepared.progresses hto }

theorem transition_ended {c : TransitionCommand} {model : ReadModel} {ctx : CommandContext}
    {id : CommandIdentity} {latest : RunAttempt} {t : TransitionMutation}
    (hinv : AttemptsConsistent store.attempts store.workItems)
    (hprepared : TransitionPrepared P c model ctx id latest t)
    (hwrote : store.Wrote (.transition t) store')
    (hsame : ∀ a ∈ store.attempts.getLast?, a.status.Terminal ↔ latest.status.Terminal)
    (hqueued : t.aggregate.document.state = .completed → latest.status ≠ .queued) :
    RunEnded store' := by
  obtain ⟨audit, evidence, -, haggregate, -⟩ := hprepared.written
  have hstate : t.aggregate.document.state = c.toState := by
    rw [haggregate]
    rfl
  rw [hstate] at hqueued
  cases hwrote with
  | @transition _ stored hrun hcurrent hfound =>
    rcases transition_attempts hinv hprepared hfound with
      ⟨hattempts, hends⟩ | ⟨init, next, -, hattempts, -, -, hends⟩
    · rw [hattempts]
      exact
        { ended := by
            intro run hmem hto a ha
            obtain rfl := Option.some.inj hmem
            exact (hsame a ha).mpr (hends (hstate ▸ hto)).1
          completed := by
            intro run hmem hto
            obtain rfl := Option.some.inj hmem
            have hto : c.toState = .completed := hstate.symm.trans hto
            exact absurd hto (hends (by rw [hto]; decide)).2 }
    · obtain ⟨hended, hsucceeded⟩ := hends hqueued
      rw [hattempts]
      exact
        { ended := by
            intro run hmem hto a ha
            obtain rfl := Option.some.inj hmem
            obtain rfl : next = a := by simpa using ha
            exact hended (hstate ▸ hto)
          completed := by
            intro run hmem hto a ha
            obtain rfl := Option.some.inj hmem
            obtain rfl : next = a := by simpa using ha
            exact hsucceeded (hstate.symm.trans hto) }

/-- A transaction that leaves an open run as it is. -/
theorem attempts_progress {run : RunAggregate} (hrun : store.run = some run)
    (hsame : store'.run = store.run) (hopen : ¬run.document.state.Terminal) :
    RunEnded store' ∧ RunProgress store store' := by
  have hstored : ∀ other ∈ store.run, other = run :=
    fun other hmem => (Option.some.inj (hrun.symm.trans hmem)).symm
  have hstored' : ∀ other ∈ store'.run, other = run :=
    fun other hmem => hstored other (hsame ▸ hmem)
  refine ⟨⟨?_, ?_⟩, ?_⟩
  · intro other hmem hto
    rw [hstored' other hmem] at hto
    exact absurd hto hopen
  · intro other hmem hto
    rw [hstored' other hmem] at hto
    exact absurd (by rw [hto]; decide) hopen
  · exact
      { audits := fun other hmem => ⟨other, hsame ▸ hmem, List.prefix_rfl⟩
        fixed := by
          intro other hmem hto
          rw [hstored other hmem] at hto
          exact absurd hto hopen
        entered := by
          intro other hmem other' hmem' hne
          rw [hstored other hmem, hstored' other' hmem'] at hne
          exact absurd rfl hne }

theorem materialize_progress {aggregate : RunAggregate} {attempt : RunAttempt}
    {workItem : RunWorkItem} {record : CommandRecord} (hvalid : RunValid P aggregate)
    (hinitial : aggregate.document = aggregate.initial)
    (hwrote : store.Wrote (.materialize aggregate attempt workItem record) store') :
    RunEnded store' ∧ RunProgress store store' := by
  cases hwrote with
  | materialize hrun hids =>
    have hopen : ¬aggregate.document.state.Terminal := by
      rw [hinitial, hvalid.initial.1]
      decide
    refine ⟨⟨?_, ?_⟩, ?_⟩
    · intro run hmem hto
      obtain rfl := Option.some.inj hmem
      exact absurd hto hopen
    · intro run hmem hto
      obtain rfl := Option.some.inj hmem
      exact absurd (by rw [hto]; decide) hopen
    · exact
        { audits := by simp [hrun]
          fixed := by simp [hrun]
          entered := by simp [hrun] }

/-! ### Whole runs -/

variable {planningRunId : String} {ingress : Ingress P planningRunId}

theorem wrote_progress {s : RunSystem} {write : PendingWrite} {store' : RunStore}
    {answer : Except RunError ActionResult} (hinv : StoreValid P ingress s.store)
    (hsound : write.Sound P ingress s.store)
    (hundisturbed : Undisturbed s (.wrote write answer))
    (hwrote : s.store.Wrote write.mutation store') :
    RunEnded store' ∧ RunProgress s.store store' := by
  obtain ⟨hon, read, hlatest, hrequest, hprepared, -⟩ := hsound
  have hundisturbed : ∀ m, write.mutation = .transition m → ∀ seen ∈ write.latest,
      (∀ latest ∈ s.store.latest, latest.status.Terminal ↔ seen.status.Terminal) ∧
        (m.aggregate.document.state = .completed → seen.status ≠ .queued) := hundisturbed
  generalize write.mutation = m at hprepared hwrote hundisturbed
  generalize hr : write.request = request at hprepared hrequest
  cases hprepared with
  | @materialize c attempt workItem record audit hvalid hauthorized hcreated hrecord =>
    rw [request_materialize hrequest.symm] at hon
    exact materialize_progress hvalid (ingress.initial hon) hwrote
  | @transition c model latest t hread hauthorized hprepared =>
    obtain ⟨hsame, hqueued⟩ := hundisturbed t rfl latest (by
      rw [hlatest, hread.latest]
      exact hprepared.seen)
    rw [hinv.attempts.latest] at hsame
    exact ⟨transition_ended hinv.attempts hprepared hwrote hsame hqueued,
      transition_progress hprepared hwrote hsame⟩
  | attempt hread hauthorized hlast hopen hvalid hsucceeds hrecord =>
    cases hwrote with
    | updateAttempt hrun hcurrent hprevious =>
      exact attempts_progress hrun rfl (by rwa [hcurrent])
  | retry hread hauthorized hlast hretryable hopen hcreated hrecord =>
    cases hwrote with
    | retry hrun hcurrent => exact attempts_progress hrun rfl (by rwa [hcurrent])

/-- One undisturbed step. -/
theorem step_progress {s s' : RunSystem} {event : RunEvent} (hinv : SystemValid P ingress s)
    (hended : RunEnded s.store) (hundisturbed : Undisturbed s event)
    (hstep : RunStep P ingress s event s') :
    RunEnded s'.store ∧ RunProgress s.store s'.store := by
  cases hstep with
  | @wrote write store command hwrite hlost h =>
    rw [RunSystem.answer_store]
    obtain ⟨hreplayed, -⟩ | ⟨-, -, hwrote⟩ := write_ok h
    · cases hreplayed
    · exact wrote_progress hinv.store (hinv.pending write hwrite) hundisturbed hwrote
  | replayedWrite | raced =>
    rw [RunSystem.answer_store]
    exact ⟨hended, .refl _⟩
  | read | replayed | refused | rejectedWrite | lost | racedAway => exact ⟨hended, .refl _⟩

theorem RunConsistent.of_valid (hvalid : StoreValid P ingress store) (hended : RunEnded store) :
    RunConsistent store :=
  { hvalid.attempts, hended with
    attempted := hvalid.attempted
    revision := hvalid.revision }

end

def firstExpected : ExpectedRun := ⟨"planning-run-1", 1, .created, firstRun.runFingerprint⟩

def ingestCommand : TransitionCommand :=
  { expected := firstExpected
    toState := .ingesting
    idempotencyKey := "ingest-1"
    reason := "Start ingestion."
    artifacts := .empty
    attemptId := none }

def timeoutCommand : AttemptFailureCommand :=
  { expected := firstExpected
    attemptId := "planning-run-attempt-f9cf7668a9a4aa7bd06639b2d708f5323fc5912edc417610d9a8cee333aa2e34"
    attemptNumber := 1
    expectedAttemptRevision := 1
    outcome := .timedOut
    failureCode := "ATTEMPT_TIMED_OUT"
    idempotencyKey := "timeout-1"
    reason := "The attempt timed out." }

def ingestIdentity : CommandIdentity :=
  ingestCommand.identity firstPlatform firstRun firstContext

def timeoutIdentity : CommandIdentity :=
  { operation := "ATTEMPT:TIMED_OUT"
    scope := "sha256:a975960269a8122ab8a3ec15fa63eb814ba51424443718ed99f9fd0fafb6fc0b"
    keyReference := "sha256:3a3eabf303d80d990e7ea8b9c67f7e58cdecf6969c2efad62adf6dbaa27aa984"
    requestFingerprint := "sha256:9fa8f5a438f94583bcb9642e8a0fe6727906638e1e6123cf928c1091dcfb3450" }

set_option maxRecDepth 100000 in
theorem timeout_fingerprints :
    contractFingerprint
        (.obj
          [("operation", .str "ATTEMPT:TIMED_OUT"), ("planning_run_id", .str "planning-run-1"),
           ("effective_scope", firstScope.toJson)]) = timeoutIdentity.scope ∧
      contractFingerprint timeoutCommand.request = timeoutIdentity.requestFingerprint ∧
      firstPlatform.keyReference "timeout-1" = timeoutIdentity.keyReference ∧
      firstPlatform.keyReference "ingest-1" =
        "sha256:133ce1fe3b3176b16074dd519c8bf142e3da997667807309ef86f094b6356a0f" :=
  ⟨fingerprint_spelled (by repeat constructor) (by decide +kernel) (by decide +kernel)
      (by decide +kernel),
    fingerprint_spelled (by repeat constructor) (by decide +kernel) (by decide +kernel)
      (by decide +kernel),
    keyReference_spelled (by decide +kernel) (by decide +kernel),
    keyReference_spelled (by decide +kernel) (by decide +kernel)⟩

set_option maxRecDepth 100000 in
theorem timeout_seeds :
    contractFingerprint (attemptSeed firstRun 1) =
        "sha256:f9cf7668a9a4aa7bd06639b2d708f5323fc5912edc417610d9a8cee333aa2e34" ∧
      contractFingerprint (firstIdentity.auditSeed "planning-run-1") =
        "sha256:04f12419ff043a76c272e5e73326b20f7d74551914829ea2e0fb6503bc4b1abf" ∧
      contractFingerprint (timeoutIdentity.auditSeed "planning-run-1") =
        "sha256:cb0767de934d2eb7d238e7ea55ebcaf2772382f6fc33c2918ca5264c34f741af" :=
  ⟨fingerprint_spelled (by repeat constructor) (by decide +kernel) (by decide +kernel)
      (by decide +kernel),
    fingerprint_spelled (by repeat constructor) (by decide +kernel) (by decide +kernel)
      (by decide +kernel),
    fingerprint_spelled (by repeat constructor) (by decide +kernel) (by decide +kernel)
      (by decide +kernel)⟩

theorem firstAttempt_id : firstAttempt.attemptId = timeoutCommand.attemptId := by
  have hid : firstAttempt.attemptId = "planning-run-attempt" ++ "-" ++
    String.ofList ((contractFingerprint (attemptSeed firstRun 1)).toList.drop 7) := rfl
  rw [hid, timeout_seeds.1]
  simp [timeoutCommand]

theorem timeout_identity :
    timeoutCommand.identity firstPlatform firstRun firstContext = timeoutIdentity := by
  have hscope : commandScope firstPlatform ("ATTEMPT:" ++ timeoutCommand.outcome.text)
      firstRun.source.planningRunId firstContext = timeoutIdentity.scope :=
    firstContext_command timeout_fingerprints.1
  have hrequest : firstPlatform.fingerprint timeoutCommand.request =
      timeoutIdentity.requestFingerprint := timeout_fingerprints.2.1
  have hkey : firstPlatform.keyReference timeoutCommand.idempotencyKey =
      timeoutIdentity.keyReference := timeout_fingerprints.2.2.1
  rw [AttemptFailureCommand.identity, hscope, hrequest, hkey]
  rfl

def timeoutAudit : Reference :=
  auditEventReference firstPlatform firstAggregate firstContext timeoutIdentity
    "The attempt timed out." "audit-event-0"

/-- The timeout has audit evidence of its own. -/
theorem timeoutAudit_fresh : timeoutAudit ≠ firstAttempt.audit := by
  intro h
  have hid : firstPlatform.derivedIdentity "audit-event" (timeoutIdentity.auditSeed
      "planning-run-1") = firstPlatform.derivedIdentity "audit-event" (firstIdentity.auditSeed
      "planning-run-1") := congrArg Reference.artifactId h
  have hfingerprint : contractFingerprint (timeoutIdentity.auditSeed "planning-run-1") =
      contractFingerprint (firstIdentity.auditSeed "planning-run-1") := derivedIdentity_inj hid
  rw [timeout_seeds.2.1, timeout_seeds.2.2] at hfingerprint
  simp at hfingerprint

theorem firstStore_valid : StoreValid firstPlatform firstIngress firstStore := by
  obtain ⟨succeeded, h, -⟩ := @first_reached (fun _ _ => True) trivial (fun _ => trivial)
  exact (reach_valid h).store

def firstModel : ReadModel := ⟨firstAggregate, [firstAttempt], [firstItem]⟩

theorem firstStore_read : firstStore.read firstPlatform firstContext = .ok firstModel := by
  have hrun : firstStore.run = some firstAggregate := rfl
  exact read_succeeds firstStore_valid hrun (authorize_readOnly firstContext_authorized)

theorem firstExpected_holds : requireExpected firstRun firstExpected = .ok () := by
  rw [requireExpected, require_eq_ok]
  exact ⟨rfl, rfl, rfl⟩

def ingestAudit : Reference :=
  auditEventReference firstPlatform firstAggregate firstContext ingestIdentity
    "Start ingestion." "audit-event-0"

def ingestedRun : PlanningRun :=
  nextRun firstPlatform ingestCommand firstRun none firstContext ingestAudit

def ingestMutation : TransitionMutation :=
  { previous := firstAggregate
    aggregate := { firstAggregate with document := ingestedRun }
    previousAttempt := none
    attempt := none
    command := ingestIdentity.record { firstAggregate with document := ingestedRun } none none
      ingestAudit firstContext.occurredAtUtc }

theorem ingest_mutation :
    transitionMutation firstPlatform ingestCommand firstModel firstContext ingestIdentity =
      .ok (.transition ingestMutation) := by
  have haudit : auditReference firstPlatform firstModel.aggregate firstContext ingestIdentity
      ingestCommand.reason firstModel.aggregate.document.lastTransition.audit.artifactId =
        .ok ingestAudit := auditReference_succeeds (by simp [firstContext]) rfl
  have hauditValid : AuditValid ingestAudit := auditEventReference_valid
  have hcheck : checkTransitionAttempt ingestCommand firstAttempt = .ok () := by
    simp only [checkTransitionAttempt, bind_eq_ok, exists_unit_iff, require_eq_ok]
    exact ⟨by decide, by decide, by decide⟩
  have hbound : bindAttempt firstPlatform ingestCommand firstModel firstAttempt firstContext
      ingestAudit = .ok none := rfl
  have hprepared : ArtifactsPrepared ingestCommand.artifacts firstModel.aggregate.prepared :=
    ⟨by simp [ingestCommand, Artifacts.empty], by simp [ingestCommand, Artifacts.empty],
      by simp [ingestCommand, Artifacts.empty]⟩
  have hlatest : firstModel.attempts.getLast? = some firstAttempt := rfl
  have hid : IdentityForm ingestIdentity := transition_identity_form ..
  have hbinds : boundEvidence none firstModel.aggregate.document ingestCommand.toState = none := rfl
  have hevidence : ingestCommand.toState ∈ statesWithAttemptEvidence →
      (none : Option AttemptEvidence) ≠ none := by decide
  have hlegal : (firstModel.aggregate.document.state, ingestCommand.toState) ∈
      planningRunTransitions := by decide
  have hopen : ¬firstModel.aggregate.document.state.Terminal := by decide
  have hschema : schemaHolds firstPlatform
      { firstModel.aggregate with
        document := nextRun firstPlatform ingestCommand firstModel.aggregate.document none
          firstContext ingestAudit } := by
    rw [schemaHolds, if_neg (by decide)]
    rfl
  have hbefore : Runs.utc firstModel.aggregate.document.updatedAtUtc "previous.updated_at_utc" =
      .ok firstInstant := firstInstant_utc _
  have hwritten := transitionMutation_succeeds firstAggregate_valid firstExpected_holds hopen hlegal
    haudit hauditValid hid hlatest hcheck hbound hbinds hevidence (by simp) hschema hprepared
    (.refl _) hbefore (firstTenth_utc _) (by decide) (by simp)
  exact hwritten

theorem ingest_prepared :
    firstStore.prepare firstPlatform (.transition ingestCommand) firstContext =
      .ok (.write (.transition ingestMutation)) := by
  have hkey : firstStore.getCommand ingestIdentity.scope ingestIdentity.keyReference = none := by
    apply getCommand_of_fresh
    intro record hrecord
    rw [List.mem_singleton.mp hrecord]
    show zeroFingerprint ≠ firstPlatform.keyReference "ingest-1"
    rw [timeout_fingerprints.2.2.2]
    simp [zeroFingerprint]
  have hprepare : prepareTransition firstPlatform ingestCommand firstModel firstContext
      firstStore.getCommand = .ok (.write (.transition ingestMutation)) := by
    simp only [prepareTransition, bind_eq_ok, exists_unit_iff, orExisting_write]
    exact ⟨firstContext_authorized, hkey, ingest_mutation⟩
  rw [RunStore.prepare, bind_eq_ok]
  exact ⟨firstModel, firstStore_read, hprepare⟩

def timedOutAttempt : RunAttempt :=
  firstAttempt.advanced firstPlatform .timedOut firstContext.occurredAtUtc timeoutAudit
    (some "ATTEMPT_TIMED_OUT") .empty

def timeoutRecord : CommandRecord :=
  timeoutIdentity.record firstAggregate (some timedOutAttempt) none timeoutAudit
    firstContext.occurredAtUtc

theorem timeout_attempt :
    transitionAttempt firstPlatform firstAttempt firstAggregate .timedOut
      firstContext.occurredAtUtc timeoutAudit (some "ATTEMPT_TIMED_OUT") .empty =
        .ok timedOutAttempt := by
  have hmem : firstAttempt ∈ firstStore.attempts := List.mem_singleton.mpr rfl
  have hvalid : AttemptValid firstPlatform firstAttempt firstAggregate.document.source :=
    firstStore_valid.attemptsValid firstAggregate rfl firstAttempt hmem
  have hevidence : checkEvidence timedOutAttempt = .ok () := by
    have hcode : isFailureCode "ATTEMPT_TIMED_OUT" = true := by decide
    have hfields : timedOutAttempt.status = .timedOut ∧ timedOutAttempt.startedAtUtc = none ∧
      timedOutAttempt.finishedAtUtc = some firstContext.occurredAtUtc ∧
      timedOutAttempt.failureCode = some "ATTEMPT_TIMED_OUT" := ⟨rfl, rfl, rfl, rfl⟩
    obtain ⟨hstatus, hstarted, hfinished, hfailure⟩ := hfields
    simp [checkEvidence, hstatus, hfinished, hfailure, hcode, bind_eq_ok]
  have hwindow : checkWindow timedOutAttempt firstInstant firstHour = .ok () := by
    have hstarted : timedOutAttempt.startedAtUtc = none := rfl
    rw [checkWindow, hstarted]
    rfl
  have hstatus : (firstAttempt.status, AttemptStatus.timedOut) ∈ attemptTransitions := by decide
  have havailable : Runs.utc firstAttempt.availableAtUtc "attempt.available_at_utc" =
      .ok firstInstant := firstInstant_utc _
  have htimeout : Runs.utc firstAttempt.timeoutAtUtc "attempt.timeout_at_utc" = .ok firstHour :=
    firstHour_utc _
  exact transitionAttempt_succeeds hvalid hstatus auditEventReference_valid timeoutAudit_fresh
    (.refl _) havailable htimeout hwindow hevidence

theorem timeout_fresh :
    firstStore.getCommand timeoutIdentity.scope timeoutIdentity.keyReference = none := by
  apply getCommand_of_fresh
  intro record hrecord
  rw [List.mem_singleton.mp hrecord]
  show zeroFingerprint ≠ timeoutIdentity.keyReference
  simp [zeroFingerprint, timeoutIdentity]

theorem timeout_mutation :
    attemptMutation firstPlatform firstModel firstContext timeoutIdentity timeoutCommand.expected
      "Terminal PlanningRun cannot accept attempt outcomes"
      (fun a => a.attemptId = timeoutCommand.attemptId ∧
        a.attemptNumber = timeoutCommand.attemptNumber ∧
        a.revision = timeoutCommand.expectedAttemptRevision)
      "Attempt precondition is stale" timeoutCommand.reason timeoutCommand.outcome
      (some timeoutCommand.failureCode) =
        .ok (.updateAttempt firstAggregate firstAttempt timedOutAttempt timeoutRecord) := by
  have haudit : auditReference firstPlatform firstModel.aggregate firstContext timeoutIdentity
      timeoutCommand.reason firstModel.aggregate.document.lastTransition.audit.artifactId =
        .ok timeoutAudit := auditReference_succeeds nofun rfl
  have hauditValid : AuditValid timeoutAudit := auditEventReference_valid
  have hlatest : firstModel.attempts.getLast? = some firstAttempt := rfl
  have hopen : ¬firstModel.aggregate.document.state.Terminal := by decide
  have hid : IdentityForm timeoutIdentity := timeout_identity ▸ failure_identity_form ..
  exact attemptMutation_succeeds hopen firstExpected_holds hlatest ⟨firstAttempt_id, rfl, rfl⟩
    haudit hauditValid hid timeout_attempt (firstTenth_utc _)

theorem timeout_prepared :
    firstStore.prepare firstPlatform (.recordAttemptFailure timeoutCommand) firstContext =
      .ok (.write (.updateAttempt firstAggregate firstAttempt timedOutAttempt timeoutRecord)) := by
  have hidentity : timeoutCommand.identity firstPlatform firstModel.aggregate.document
      firstContext = timeoutIdentity := timeout_identity
  have hprepare : prepareAttemptFailure firstPlatform timeoutCommand firstModel firstContext
      firstStore.getCommand =
        .ok (.write (.updateAttempt firstAggregate firstAttempt timedOutAttempt timeoutRecord)) := by
    simp only [prepareAttemptFailure, bind_eq_ok, exists_unit_iff, orExisting_write, require_eq_ok]
    rw [hidentity]
    exact ⟨.inr rfl, firstContext_authorized, timeout_fresh, timeout_mutation⟩
  rw [RunStore.prepare, bind_eq_ok]
  exact ⟨firstModel, firstStore_read, hprepare⟩

/-- The rows after the timeout. -/
def timedOutStore : RunStore :=
  { firstStore with
    attempts := firstStore.attemptsAfter (some firstAttempt) (some timedOutAttempt)
    commands := [firstRecord, timeoutRecord] }

theorem firstStore_find :
    firstStore.attempts.find? (fun a => a.attemptId = firstAttempt.attemptId) =
      some firstAttempt := by
  show [firstAttempt].find? _ = _
  rw [List.find?_cons_of_pos (by simp)]

theorem timeout_written :
    firstStore.write firstPlatform
        (.updateAttempt firstAggregate firstAttempt timedOutAttempt timeoutRecord) =
      .ok (timedOutStore, ⟨timeoutRecord, false⟩) := by
  obtain ⟨-, hvalid, hsucceeds⟩ := transitionAttempt_ok timeout_attempt
  have hverify := verifyAttempt_some.mpr ⟨hvalid, hsucceeds⟩
  have hrun : firstStore.run = some firstAggregate := rfl
  have hrecord := attempt_record_verified timeout_mutation
  exact write_updateAttempt hrun rfl hverify firstStore_find hrecord timeout_fresh

theorem ingest_written : ∃ store : RunStore,
    timedOutStore.write firstPlatform (.transition ingestMutation) =
      .ok (store, ⟨ingestMutation.command, false⟩) ∧
    store.run = some { firstAggregate with document := ingestedRun } := by
  have hrun : timedOutStore.run = some firstAggregate := rfl
  have hkey : timedOutStore.getCommand ingestMutation.command.scopeFingerprint
      ingestMutation.command.keyReference = none := by
    have hingest : ingestMutation.command.keyReference = _ :=
      timeout_fingerprints.2.2.2
    apply getCommand_of_fresh
    intro record hrecord
    rw [hingest]
    rcases List.mem_cons.mp hrecord with rfl | hrecord
    · show zeroFingerprint ≠ _
      simp [zeroFingerprint]
    · rw [List.mem_singleton.mp hrecord]
      show timeoutIdentity.keyReference ≠ _
      simp [timeoutIdentity]
  have hsequence : ∀ t ∈ timedOutStore.transitions,
      t.sequence ≠ ingestMutation.aggregate.document.lastTransition.sequence := by
    intro t ht
    rw [List.mem_singleton.mp ht]
    show (0 : Int) ≠ 1
    decide
  have hrecord := transition_record_verified ingest_mutation
  exact ⟨_, write_unbound hrun rfl rfl rfl hrecord hkey hsequence, rfl⟩

theorem timedOutStore_last : timedOutStore.attempts.getLast? = some timedOutAttempt := by
  have hlast : firstStore.attempts = [] ++ [firstAttempt] := rfl
  have hids : (firstStore.attempts.map RunAttempt.attemptId).Nodup := firstStore_valid.attempts.ids
  have hattempts := @attemptsAfter_last firstStore [] firstAttempt timedOutAttempt hids hlast
  simp only [timedOutStore, hattempts, List.nil_append, List.getLast?_singleton]

def ingestSubmission : Submission := ⟨.transition ingestCommand, firstContext⟩

def ingestWrite : PendingWrite :=
  ⟨ingestSubmission, .transition ingestCommand, some firstAttempt, .transition ingestMutation, none⟩

end PlantNexus.Runs
