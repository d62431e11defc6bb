import PlantNexus.Data.JsonEval
import PlantNexus.Domain.CarrierContracts
import PlantNexus.Runs.Stored

/-! When a command succeeds.

The converse of the inversion lemmas: on valid rows, with a context that is authorized and texts
that parse, the documents of a command pass their own verification. What a caller has to supply
is what verification reads from outside: the schema catalog, the times and the digests. -/
namespace PlantNexus.Runs
open Data Time Domain

section
variable {P : Platform} {store store' : RunStore} {ctx : CommandContext}
  {planningRunId : String} {ingress : Ingress P planningRunId}

/-! ### Reads -/

theorem workItemNumbers {run : RunAggregate} {workItems : List RunWorkItem}
    {attempts : List RunAttempt}
    (h : List.Forall₂ (fun w a => WorkItemValid P w run a) workItems attempts) :
    workItems.map RunWorkItem.attemptNumber = attempts.map RunAttempt.attemptNumber := by
  induction h with
  | nil => rfl
  | cons hw _ ih => rw [List.map_cons, List.map_cons, hw.attemptNumber, ih]

theorem StoreValid.sortedItems {run : RunAggregate} (h : StoreValid P ingress store)
    (hrun : store.run = some run) :
    sortByKey RunWorkItem.attemptNumber store.workItems = store.workItems := by
  apply sortByKey_eq_self
  have hlt := attemptNumbers_pairwise store.attempts.length
  rw [← h.attempts.numbers, ← workItemNumbers (h.itemsValid run hrun), List.pairwise_map] at hlt
  exact hlt.imp fun h => h.le

/-- Every row of a valid store is handed out. -/
theorem get_ok {run : RunAggregate} (h : StoreValid P ingress store)
    (hrun : store.run = some run) :
    store.get P = .ok (some ⟨run, store.attempts, store.workItems⟩) := by
  have hattempts : forEach (fun _ a => verifyAttempt P a run.document none) store.attempts =
      .ok () :=
    (forEach_eq_ok_iff (fun a => AttemptValid P a run.document.source) _ _
      fun _ _ _ => verifyAttempt_none).mpr (h.attemptsValid run hrun)
  have hitems : forEach (fun _ w => checkStoredWorkItem P run store.attempts w)
      store.workItems = .ok () := by
    refine (forEach_eq_ok_iff (fun w => checkStoredWorkItem P run store.attempts w = .ok ()) _ _
      fun _ _ _ => Iff.rfl).mpr ?_
    intro w hw
    obtain ⟨a, ha, hvalid⟩ := forall₂_exists_right (h.itemsValid run hrun) hw
    have hfind : dictGet RunAttempt.attemptId store.attempts w.attemptId = some a := by
      rw [hvalid.attemptId]
      exact (dictGet_eq_some_iff _ _ _ _ h.attempts.ids).mpr ⟨ha, rfl⟩
    unfold checkStoredWorkItem
    rw [hfind]
    exact verifyWorkItem_eq_ok.mpr ⟨hvalid, nofun⟩
  have hplane := h.plane run hrun
  have hnumbers := h.attempts.numbers
  have hids := h.attempts.items
  unfold RunStore.get
  rw [hrun]
  simp only [h.attempts.sorted, h.sortedItems hrun, bind_eq_ok, exists_unit_iff, require_eq_ok]
  exact ⟨hplane, hattempts, hnumbers, hitems, hids, rfl⟩

theorem read_succeeds {run : RunAggregate} (h : StoreValid P ingress store)
    (hrun : store.run = some run) (hauthorized : authorize P run ctx true = .ok ()) :
    store.read P ctx = .ok ⟨run, store.attempts, store.workItems⟩ := by
  have hattempts : forEach (fun _ a => verifyAttempt P a run.document none) store.attempts =
      .ok () :=
    (forEach_eq_ok_iff (fun a => AttemptValid P a run.document.source) _ _
      fun _ _ _ => verifyAttempt_none).mpr (h.attemptsValid run hrun)
  have hvalid := verifyPlanningRun_none.mpr (h.run run hrun)
  unfold RunStore.read
  rw [get_ok h hrun, bind_eq_ok]
  refine ⟨_, rfl, ?_⟩
  simp only [bind_eq_ok, exists_unit_iff]
  exact ⟨hauthorized, hvalid, hattempts, rfl⟩

theorem authorize_readOnly {run : RunAggregate} (h : authorize P run ctx false = .ok ()) :
    authorize P run ctx true = .ok () := by
  rw [authorize_ok] at h ⊢
  obtain ⟨hplane, hbinding, hcapability, hscope⟩ := h
  refine ⟨hplane, hbinding, .inl ?_, hscope⟩
  exact hcapability.resolve_right (by simp)

/-! ### Audits and records -/

theorem derivedIdentity_ne (name : String) (value : Json) : P.derivedIdentity name value ≠ "" := by
  intro h
  have := congrArg String.toList h
  simp [Platform.derivedIdentity] at this

theorem auditEventReference_valid {aggregate : RunAggregate} {id : CommandIdentity}
    {reason parent : String} :
    AuditValid (auditEventReference P aggregate ctx id reason parent) :=
  ⟨⟨rfl, derivedIdentity_ne _ _⟩, P.fingerprint_form _⟩

theorem auditReference_succeeds {aggregate : RunAggregate} {id : CommandIdentity}
    {reason parent : String}
    (hprovenance : ctx.dataPlane = "SIMULATION" → aggregate.prepared.syntheticProvenance ≠ none)
    (hschema : P.schemas auditEventSchemaId (auditDocument P aggregate ctx id reason parent) =
      true) :
    auditReference P aggregate ctx id reason parent =
      .ok (auditEventReference P aggregate ctx id reason parent) := by
  simp only [auditReference, bind_eq_ok, exists_unit_iff, require_eq_ok]
  exact ⟨hprovenance, hschema, rfl⟩

/-- An identity whose parts are digests. -/
structure IdentityForm (id : CommandIdentity) : Prop where
  scope : isFingerprint id.scope = true
  keyReference : isFingerprint id.keyReference = true
  requestFingerprint : isFingerprint id.requestFingerprint = true

theorem transition_identity_form (c : TransitionCommand) (run : PlanningRun) :
    IdentityForm (c.identity P run ctx) :=
  ⟨P.fingerprint_form _, P.keyReference_form _, P.fingerprint_form _⟩

theorem failure_identity_form (c : AttemptFailureCommand) (run : PlanningRun) :
    IdentityForm (c.identity P run ctx) :=
  ⟨P.fingerprint_form _, P.keyReference_form _, P.fingerprint_form _⟩

theorem retry_identity_form (c : RetryCommand) (run : PlanningRun) :
    IdentityForm (c.identity P run ctx) :=
  ⟨P.fingerprint_form _, P.keyReference_form _, P.fingerprint_form _⟩

/-- A key that no record has. -/
theorem getCommand_of_fresh {scope keyReference : String}
    (h : ∀ record ∈ store.commands, record.keyReference ≠ keyReference) :
    store.getCommand scope keyReference = none := by
  rw [RunStore.getCommand, List.find?_eq_none]
  intro record hrecord
  simp [h record hrecord]

theorem commandRecord_succeeds (aggregate : RunAggregate) (attempt : Option RunAttempt)
    (workItem : Option RunWorkItem) {id : CommandIdentity} {audit : Reference}
    {occurredAtUtc : String} (hid : IdentityForm id) (haudit : AuditValid audit)
    (hoccurred : ∃ at_, utc occurredAtUtc "planning_run_command.occurred_at_utc" = .ok at_)
    (hattempt : ∀ a ∈ attempt, a.planningRunId = aggregate.document.source.planningRunId)
    (hitem : ∀ w ∈ workItem, w.planningRunId = aggregate.document.source.planningRunId ∧
      ∃ a ∈ attempt, w.attemptId = a.attemptId) :
    commandRecord id aggregate attempt workItem audit occurredAtUtc =
        .ok (id.record aggregate attempt workItem audit occurredAtUtc) ∧
      verifyCommandRecord (id.record aggregate attempt workItem audit occurredAtUtc) =
        .ok () := by
  obtain ⟨at_, hat⟩ := hoccurred
  have hforms := (forEach_eq_ok_iff (fun field : String × String => isFingerprint field.2 = true)
    (fun _ field =>
      require (isFingerprint field.2 = true)
        (lineage ("planning_run_command." ++ field.1) "Expected a lowercase SHA-256 fingerprint"))
    [("scope_fingerprint", id.scope), ("key_reference", id.keyReference),
     ("request_fingerprint", id.requestFingerprint)] fun _ _ _ => require_eq_ok ..).mpr (by
      simp [hid.scope, hid.keyReference, hid.requestFingerprint])
  have hverify : verifyCommandRecord (id.record aggregate attempt workItem audit occurredAtUtc) =
      .ok () := by
    simp only [verifyCommandRecord, bind_eq_ok, exists_unit_iff, require_eq_ok]
    exact ⟨hforms, at_, hat, requireAuditReference_eq_ok.mpr haudit, rfl, hattempt, hitem⟩
  refine ⟨?_, hverify⟩
  simp only [commandRecord, bind_eq_ok, exists_unit_iff]
  exact ⟨hverify, rfl⟩

/-! ### Attempts -/

theorem createQueuedAttempt_succeeds {aggregate : RunAggregate} {number : Int}
    {availableAtUtc timeoutAtUtc : String} {audit : Reference} {available timeout : Datetime}
    (hvalid : RunValid P aggregate)
    (hextension : isFingerprint
      aggregate.document.source.runtimeResolution.extensionSetFingerprint = true)
    (hnumber : 1 ≤ number) (haudit : AuditValid audit)
    (havailable : utc availableAtUtc "attempt.available_at_utc" = .ok available)
    (htimeout : utc timeoutAtUtc "attempt.timeout_at_utc" = .ok timeout)
    (hwindow : available < timeout) :
    createQueuedAttempt P aggregate number availableAtUtc timeoutAtUtc audit =
      .ok (RunAttempt.queued P aggregate.document number availableAtUtc timeoutAtUtc audit) := by
  simp only [createQueuedAttempt, bind_eq_ok, exists_unit_iff]
  refine ⟨verifyAttempt_none.mpr ?_, rfl⟩
  exact
    { runId := rfl
      fingerprint := rfl
      positive := ⟨hnumber, le_refl 1⟩
      runForm := by
        show isFingerprint aggregate.document.runFingerprint = true
        rw [hvalid.fingerprint]
        exact P.fingerprint_form _
      runtimeForm := by
        show isFingerprint aggregate.document.source.runtimeResolution.resolutionFingerprint = true
        rw [hvalid.runtime]
        exact P.fingerprint_form _
      extensionForm := hextension
      runtime := ⟨rfl, rfl⟩
      expected := hvalid.transitionValid.one_le_revision
      window := ⟨available, timeout, havailable, htimeout, hwindow, rfl⟩
      evidence := by simp [checkEvidence, RunAttempt.queued, RunAttempt.withFingerprint]
      audit := requireAuditReference_eq_ok.mpr haudit }

theorem createWorkItem_succeeds {aggregate : RunAggregate} {attempt : RunAttempt}
    {correlationId : String} (haudit : AuditValid attempt.audit) :
    createWorkItem P aggregate attempt correlationId =
      .ok (RunWorkItem.queued P aggregate attempt correlationId) := by
  simp only [createWorkItem, bind_eq_ok, exists_unit_iff]
  refine ⟨verifyWorkItem_eq_ok.mpr ⟨?_, fun _ => rfl⟩, rfl⟩
  exact ⟨rfl, rfl, rfl, ⟨rfl, rfl, rfl⟩, ⟨rfl, rfl⟩, rfl, rfl, rfl,
    requireAuditReference_eq_ok.mpr haudit, rfl⟩

/-- An attempt that moves on by the table, with new audit evidence and sound times. -/
theorem transitionAttempt_succeeds {previous : RunAttempt} {aggregate : RunAggregate}
    {toStatus : AttemptStatus} {occurredAtUtc : String} {audit : Reference}
    {failureCode : Option String} {resultReferences : Artifacts} {available timeout : Datetime}
    (hvalid : AttemptValid P previous aggregate.document.source)
    (hstatus : (previous.status, toStatus) ∈ attemptTransitions)
    (haudit : AuditValid audit) (hfresh : audit ≠ previous.audit)
    (hresults : ArtifactsKept previous.resultReferences resultReferences)
    (havailable : utc previous.availableAtUtc "attempt.available_at_utc" = .ok available)
    (htimeout : utc previous.timeoutAtUtc "attempt.timeout_at_utc" = .ok timeout)
    (hwindow : checkWindow (previous.advanced P toStatus occurredAtUtc audit failureCode
      resultReferences) available timeout = .ok ())
    (hevidence : checkEvidence (previous.advanced P toStatus occurredAtUtc audit failureCode
      resultReferences) = .ok ()) :
    transitionAttempt P previous aggregate toStatus occurredAtUtc audit failureCode
        resultReferences =
      .ok (previous.advanced P toStatus occurredAtUtc audit failureCode resultReferences) := by
  simp only [transitionAttempt, bind_eq_ok, exists_unit_iff]
  refine ⟨verifyAttempt_some.mpr ⟨?_, ?_⟩, rfl⟩
  · obtain ⟨available', timeout', havailable', htimeout', hlt, -⟩ := hvalid.window
    rw [havailable] at havailable'
    rw [htimeout] at htimeout'
    injection havailable' with havailable'
    injection htimeout' with htimeout'
    subst havailable' htimeout'
    exact
      { runId := hvalid.runId
        fingerprint := rfl
        positive := ⟨hvalid.positive.1, by
          have := hvalid.positive.2
          show 1 ≤ previous.revision + 1
          omega⟩
        runForm := hvalid.runForm
        runtimeForm := hvalid.runtimeForm
        extensionForm := hvalid.extensionForm
        runtime := hvalid.runtime
        expected := hvalid.expected
        window := ⟨available, timeout, havailable, htimeout, hlt, hwindow⟩
        evidence := hevidence
        audit := requireAuditReference_eq_ok.mpr haudit }
  · exact
      { identity := rfl
        status := hstatus
        revision := rfl
        started := by
          intro h
          show (if toStatus = .active ∧ previous.startedAtUtc = none then some occurredAtUtc
            else previous.startedAtUtc) = previous.startedAtUtc
          rw [if_neg fun hstart => h hstart.2]
        results := hresults
        previousAudit :=
          requireAuditReference_eq_ok.mpr (requireAuditReference_eq_ok.mp hvalid.audit)
        audit := hfresh }

/-! ### Transitions -/

theorem utc_field {value field : String} {at_ : Datetime} (h : utc value field = .ok at_)
    (field' : String) : utc value field' = .ok at_ := by
  unfold utc at h ⊢
  split at h
  · rename_i hlast
    rw [if_pos hlast]
    cases hparse : parseUtcInstant value with
    | ok parsed => rwa [hparse] at h
    | error e => simp [hparse] at h
  · cases h

theorem nextRun_valid {aggregate : RunAggregate} {c : TransitionCommand}
    {evidence : Option AttemptEvidence} {audit : Reference} (hvalid : RunValid P aggregate)
    (hopen : ¬aggregate.document.state.Terminal)
    (hlegal : (aggregate.document.state, c.toState) ∈ planningRunTransitions)
    (hschema : schemaHolds P
      { aggregate with document := nextRun P c aggregate.document evidence ctx audit })
    (haudit : AuditValid audit) (hprepared : ArtifactsPrepared c.artifacts aggregate.prepared)
    (hevidence : ∀ e ∈ evidence, e.runtimeResolutionFingerprint =
      aggregate.document.source.runtimeResolution.resolutionFingerprint) :
    RunValid P
      { aggregate with document := nextRun P c aggregate.document evidence ctx audit } := by
  have hbefore := hvalid.transitionValid
  have hone := hbefore.one_le_revision
  exact
    { schema := hschema
      initial := hvalid.initial
      source := hvalid.source
      fingerprint := rfl
      scope := hvalid.scope
      runtime := hvalid.runtime
      transition := by
        refine checkTransition_eq_ok.mpr ?_
        exact
          { revision := rfl
            state := rfl
            updated := rfl
            audits := by
              show ((aggregate.document.auditReferences ++ [audit]).length : Int) =
                aggregate.document.revision + 1
              rw [List.length_append, List.length_singleton, Nat.cast_add, hbefore.audits]
              rfl
            auditsValid := by
              intro reference hmem
              rcases List.mem_append.mp hmem with hmem | hmem
              · exact hbefore.auditsValid reference hmem
              · rw [List.mem_singleton.mp hmem]
                exact haudit
            lastAudit := List.getLast?_concat ..
            cancellation := by
              intro cancellation hmem
              have hmem : cancellation ∈ (if c.toState = .cancelled then
                some (⟨ctx.actorReference, c.reason, ctx.occurredAtUtc, audit⟩ : Cancellation)
                else none) := hmem
              split at hmem
              · obtain rfl := Option.some.inj hmem
                rfl
              · cases hmem
            legal := by
              show LegalTransition ⟨aggregate.document.revision, some aggregate.document.state,
                c.toState, ctx.occurredAtUtc, audit⟩
              unfold LegalTransition
              rw [if_neg (show aggregate.document.revision ≠ 0 by omega)]
              exact ⟨_, rfl, hopen, hlegal⟩ }
      prepared := hprepared
      evidence := hevidence }

theorem nextRun_succession {current : PlanningRun} {c : TransitionCommand}
    {evidence : Option AttemptEvidence} {audit : Reference} {before now : Datetime}
    (hvalid : TransitionValid current) (hopen : ¬current.state.Terminal)
    (hbefore : utc current.updatedAtUtc "previous.updated_at_utc" = .ok before)
    (hnow : utc ctx.occurredAtUtc "planning_run.updated_at_utc" = .ok now) (hle : before ≤ now)
    (hkept : ArtifactsKept current.artifacts c.artifacts) :
    checkSuccession (nextRun P c current evidence ctx audit) current = .ok () := by
  have haudits : (current.auditReferences ++ [audit]).dropLast = current.auditReferences :=
    List.dropLast_concat ..
  simp only [checkSuccession, bind_eq_ok, exists_unit_iff, require_eq_ok,
    checkArtifactsKept_eq_ok]
  exact ⟨⟨hopen, rfl, rfl, hvalid.revision⟩, now, hnow, before, hbefore, hle, haudits, hkept⟩

/-- The write of a transition whose attempt can be bound. -/
theorem transitionMutation_succeeds {c : TransitionCommand} {model : ReadModel}
    {id : CommandIdentity} {latest : RunAttempt} {bound : Option (RunAttempt × RunAttempt)}
    {audit : Reference} {evidence : Option AttemptEvidence} {before now : Datetime}
    (hvalid : RunValid P model.aggregate)
    (hexpected : requireExpected model.aggregate.document c.expected = .ok ())
    (hopen : ¬model.aggregate.document.state.Terminal)
    (hlegal : (model.aggregate.document.state, c.toState) ∈ planningRunTransitions)
    (haudit : auditReference P model.aggregate ctx id c.reason
      model.aggregate.document.lastTransition.audit.artifactId = .ok audit)
    (hauditValid : AuditValid audit) (hid : IdentityForm id)
    (hlatest : model.attempts.getLast? = some latest)
    (hcheck : checkTransitionAttempt c latest = .ok ())
    (hbound : bindAttempt P c model latest ctx audit = .ok bound)
    (hbinds : boundEvidence bound model.aggregate.document c.toState = evidence)
    (hevidence : c.toState ∈ statesWithAttemptEvidence → evidence ≠ none)
    (hruntime : ∀ e ∈ evidence, e.runtimeResolutionFingerprint =
      model.aggregate.document.source.runtimeResolution.resolutionFingerprint)
    (hschema : schemaHolds P
      { model.aggregate with
        document := nextRun P c model.aggregate.document evidence ctx audit })
    (hprepared : ArtifactsPrepared c.artifacts model.aggregate.prepared)
    (hkept : ArtifactsKept model.aggregate.document.artifacts c.artifacts)
    (hbefore : utc model.aggregate.document.updatedAtUtc "previous.updated_at_utc" = .ok before)
    (hnow : utc ctx.occurredAtUtc "planning_run.updated_at_utc" = .ok now) (hle : before ≤ now)
    (hattempt : ∀ a ∈ bound.map Prod.snd,
      a.planningRunId = model.aggregate.document.source.planningRunId) :
    transitionMutation P c model ctx id =
      .ok (.transition
        { previous := model.aggregate
          aggregate := { model.aggregate with
            document := nextRun P c model.aggregate.document evidence ctx audit }
          previousAttempt := bound.map Prod.fst
          attempt := bound.map Prod.snd
          command := id.record
            { model.aggregate with
              document := nextRun P c model.aggregate.document evidence ctx audit }
            (bound.map Prod.snd) none audit ctx.occurredAtUtc }) := by
  have hnext : RunValid P
      { model.aggregate with
        document := nextRun P c model.aggregate.document evidence ctx audit } :=
    nextRun_valid hvalid hopen hlegal hschema hauditValid hprepared hruntime
  have hverify := verifyPlanningRun_some.mpr
    ⟨hnext, nextRun_succession hvalid.transitionValid hopen hbefore hnow hle hkept⟩
  obtain ⟨hrecord, -⟩ := commandRecord_succeeds
    { model.aggregate with
      document := nextRun P c model.aggregate.document evidence ctx audit }
    (bound.map Prod.snd) none hid hauditValid ⟨now, utc_field hnow _⟩ hattempt (by simp)
  subst hbinds
  simp only [transitionMutation, bind_eq_ok, exists_unit_iff, require_eq_ok]
  exact ⟨hexpected, by simp [requirePlanningRunTransition, hopen, hlegal], audit, haudit, latest,
    latestAttempt_eq_ok.mpr hlatest, hcheck, bound, hbound, hevidence, hverify, _, hrecord, rfl⟩

/-! ### Materialization and attempts -/

theorem queued_valid {aggregate : RunAggregate} {number : Int}
    {availableAtUtc timeoutAtUtc : String} {audit : Reference} {attempt : RunAttempt}
    (h : createQueuedAttempt P aggregate number availableAtUtc timeoutAtUtc audit = .ok attempt) :
    AttemptValid P attempt aggregate.document.source :=
  (createQueuedAttempt_ok h).2.2

/-- The record of a new attempt and its work item. -/
theorem queuedRecord_succeeds {aggregate : RunAggregate} {id : CommandIdentity} {number : Int}
    {availableAtUtc timeoutAtUtc : String} {audit : Reference} {attempt : RunAttempt}
    {now : Datetime} (hid : IdentityForm id) (hauditValid : AuditValid audit)
    (hnow : utc ctx.occurredAtUtc "planning_run_command.occurred_at_utc" = .ok now)
    (hattempt : createQueuedAttempt P aggregate number availableAtUtc timeoutAtUtc audit =
      .ok attempt) :
    commandRecord id aggregate (some attempt)
        (some (RunWorkItem.queued P aggregate attempt ctx.correlationId)) audit
        ctx.occurredAtUtc =
      .ok (id.record aggregate (some attempt)
        (some (RunWorkItem.queued P aggregate attempt ctx.correlationId)) audit
        ctx.occurredAtUtc) := by
  refine (commandRecord_succeeds aggregate (some attempt)
    (some (RunWorkItem.queued P aggregate attempt ctx.correlationId)) hid hauditValid ⟨now, hnow⟩
    ?_ ?_).1
  · intro a ha
    obtain rfl := Option.some.inj ha
    exact (queued_valid hattempt).runId
  · intro w hw
    obtain rfl := Option.some.inj hw
    exact ⟨rfl, attempt, rfl, rfl⟩

/-- The write of a materialization on a platform that accepts the run. -/
theorem materializeMutation_succeeds {c : MaterializeCommand} {id : CommandIdentity}
    {audit : Reference} {available timeout now : Datetime} (hvalid : RunValid P c.aggregate)
    (hextension : isFingerprint
      c.aggregate.document.source.runtimeResolution.extensionSetFingerprint = true)
    (haudit : auditReference P c.aggregate ctx id
      "Materialize the durable PlanningRun and queue-ready attempt."
      c.aggregate.initial.lastTransition.audit.artifactId = .ok audit)
    (hauditValid : AuditValid audit) (hid : IdentityForm id)
    (havailable : utc c.availableAtUtc "attempt.available_at_utc" = .ok available)
    (htimeout : utc c.timeoutAtUtc "attempt.timeout_at_utc" = .ok timeout)
    (hwindow : available < timeout)
    (hnow : utc ctx.occurredAtUtc "planning_run_command.occurred_at_utc" = .ok now)
    {attempt : RunAttempt} (hattempt : attempt = RunAttempt.queued P c.aggregate.document 1
      c.availableAtUtc c.timeoutAtUtc audit) :
    materializeMutation P c ctx id =
      .ok (.materialize c.aggregate attempt
        (RunWorkItem.queued P c.aggregate attempt ctx.correlationId)
        (id.record c.aggregate (some attempt)
          (some (RunWorkItem.queued P c.aggregate attempt ctx.correlationId)) audit
          ctx.occurredAtUtc)) := by
  subst hattempt
  have hattempt := createQueuedAttempt_succeeds hvalid hextension (le_refl 1) hauditValid havailable
    htimeout hwindow
  generalize hqueued : RunAttempt.queued P c.aggregate.document 1 c.availableAtUtc c.timeoutAtUtc
    audit = attempt at hattempt ⊢
  have hqueuedAudit : attempt.audit = audit := by
    rw [← hqueued]
    rfl
  have hitem : createWorkItem P c.aggregate attempt ctx.correlationId =
      .ok (RunWorkItem.queued P c.aggregate attempt ctx.correlationId) :=
    createWorkItem_succeeds (hqueuedAudit ▸ hauditValid)
  have hrecord := queuedRecord_succeeds hid hauditValid hnow hattempt
  simp only [materializeMutation, bind_eq_ok]
  exact ⟨audit, haudit, _, hattempt, _, hitem, _, hrecord, rfl⟩

/-- The write of a command that advances the latest attempt. -/
theorem attemptMutation_succeeds {model : ReadModel} {id : CommandIdentity}
    {expected : ExpectedRun} {terminalMessage : String} {current : RunAttempt → Prop}
    [DecidablePred current] {staleMessage reason : String} {toStatus : AttemptStatus}
    {failureCode : Option String} {latest next : RunAttempt} {audit : Reference} {now : Datetime}
    (hopen : ¬model.aggregate.document.state.Terminal)
    (hexpected : requireExpected model.aggregate.document expected = .ok ())
    (hlatest : model.attempts.getLast? = some latest) (hcurrent : current latest)
    (haudit : auditReference P model.aggregate ctx id reason
      model.aggregate.document.lastTransition.audit.artifactId = .ok audit)
    (hauditValid : AuditValid audit) (hid : IdentityForm id)
    (hnext : transitionAttempt P latest model.aggregate toStatus ctx.occurredAtUtc audit
      failureCode model.aggregate.document.artifacts = .ok next)
    (hnow : utc ctx.occurredAtUtc "planning_run_command.occurred_at_utc" = .ok now) :
    attemptMutation P model ctx id expected terminalMessage current staleMessage reason toStatus
        failureCode =
      .ok (.updateAttempt model.aggregate latest next
        (id.record model.aggregate (some next) none audit ctx.occurredAtUtc)) := by
  obtain ⟨-, hvalid, -⟩ := transitionAttempt_ok hnext
  obtain ⟨hrecord, -⟩ := commandRecord_succeeds model.aggregate (some next) none hid hauditValid
    ⟨now, hnow⟩ (fun a ha => Option.some.inj ha ▸ hvalid.runId) (by simp)
  simp only [attemptMutation, bind_eq_ok, exists_unit_iff, require_eq_ok]
  exact ⟨hopen, hexpected, latest, latestAttempt_eq_ok.mpr hlatest, hcurrent, audit, haudit, next,
    hnext, _, hrecord, rfl⟩

/-- The write of a retry of the latest attempt. -/
theorem retryMutation_succeeds {c : RetryCommand} {model : ReadModel} {id : CommandIdentity}
    {failed : RunAttempt} {audit : Reference} {available timeout now : Datetime}
    (hvalid : RunValid P model.aggregate)
    (hextension : isFingerprint
      model.aggregate.document.source.runtimeResolution.extensionSetFingerprint = true)
    (hexpected : requireExpected model.aggregate.document c.expected = .ok ())
    (hopen : ¬model.aggregate.document.state.Terminal)
    (hlatest : model.attempts.getLast? = some failed)
    (hcurrent : failed.attemptId = c.failedAttemptId ∧
      failed.attemptNumber = c.failedAttemptNumber)
    (hretryable : failed.status.Retryable) (hnumber : 1 ≤ failed.attemptNumber)
    (haudit : auditReference P model.aggregate ctx id c.reason
      model.aggregate.document.lastTransition.audit.artifactId = .ok audit)
    (hauditValid : AuditValid audit) (hid : IdentityForm id)
    (havailable : utc c.availableAtUtc "attempt.available_at_utc" = .ok available)
    (htimeout : utc c.timeoutAtUtc "attempt.timeout_at_utc" = .ok timeout)
    (hwindow : available < timeout)
    (hnow : utc ctx.occurredAtUtc "planning_run_command.occurred_at_utc" = .ok now)
    {attempt : RunAttempt} (hattempt : attempt = RunAttempt.queued P model.aggregate.document
      (failed.attemptNumber + 1) c.availableAtUtc c.timeoutAtUtc audit) :
    retryMutation P c model ctx id =
      .ok (.retry model.aggregate failed attempt
        (RunWorkItem.queued P model.aggregate attempt ctx.correlationId)
        (id.record model.aggregate (some attempt)
          (some (RunWorkItem.queued P model.aggregate attempt ctx.correlationId)) audit
          ctx.occurredAtUtc)) := by
  subst hattempt
  have hattempt := createQueuedAttempt_succeeds hvalid hextension
    (show (1 : Int) ≤ failed.attemptNumber + 1 by omega) hauditValid havailable htimeout hwindow
  generalize hqueued : RunAttempt.queued P model.aggregate.document (failed.attemptNumber + 1)
    c.availableAtUtc c.timeoutAtUtc audit = attempt at hattempt ⊢
  have hqueuedAudit : attempt.audit = audit := by
    rw [← hqueued]
    rfl
  have hitem : createWorkItem P model.aggregate attempt ctx.correlationId =
      .ok (RunWorkItem.queued P model.aggregate attempt ctx.correlationId) :=
    createWorkItem_succeeds (hqueuedAudit ▸ hauditValid)
  have hrecord := queuedRecord_succeeds hid hauditValid hnow hattempt
  simp only [retryMutation, bind_eq_ok, exists_unit_iff, require_eq_ok]
  exact ⟨hexpected, hopen, failed, latestAttempt_eq_ok.mpr hlatest, hcurrent, hretryable, audit,
    haudit, attempt, hattempt, _, hitem, _, hrecord, rfl⟩

/-! ### Transactions -/

/-- The first write of a run. -/
theorem write_materialize {aggregate : RunAggregate} {attempt : RunAttempt}
    {workItem : RunWorkItem} {record : CommandRecord}
    (hattempt : AttemptValid P attempt aggregate.document.source)
    (hitem : WorkItemValid P workItem aggregate attempt) (haudit : workItem.audit = attempt.audit)
    (hrecord : verifyCommandRecord record = .ok ())
    (hsource : P.sourceMatches aggregate = .ok ()) :
    RunStore.empty.write P (.materialize aggregate attempt workItem record) =
      .ok (⟨some aggregate, [attempt], [workItem], [aggregate.initial.lastTransition], [record]⟩,
        ⟨record, false⟩) := by
  have hverify := verifyAttempt_none.mpr hattempt
  have hwork : verifyWorkItem P workItem aggregate attempt true = .ok () :=
    verifyWorkItem_eq_ok.mpr ⟨hitem, fun _ => haudit⟩
  simp only [RunStore.write, RunStore.materialize, RunStore.orReplay, RunStore.getCommand,
    RunStore.insertTransition, RunStore.insertAttempt, RunStore.empty, rejecting, bind_eq_ok,
    exists_unit_iff, mapError_eq_ok, require_eq_ok, List.find?_nil]
  exact ⟨hverify, hwork, hrecord, _,
    ⟨hsource, trivial, _, ⟨by simp, rfl⟩, _, ⟨by simp, by simp, rfl⟩, rfl⟩, hrecord, rfl⟩

theorem requireCurrent_succeeds {aggregate stored : RunAggregate} (hrun : store.run = some stored)
    (hcurrent : stored.document = aggregate.document) :
    store.requireCurrent aggregate = .ok stored := by
  simp only [RunStore.requireCurrent, hrun, bind_eq_ok, exists_unit_iff, require_eq_ok]
  exact ⟨hcurrent, rfl⟩

theorem commandRecord_verified {id : CommandIdentity} {aggregate : RunAggregate}
    {attempt : Option RunAttempt} {workItem : Option RunWorkItem} {audit : Reference}
    {occurredAtUtc : String} {record : CommandRecord}
    (h : commandRecord id aggregate attempt workItem audit occurredAtUtc = .ok record) :
    verifyCommandRecord record = .ok () := by
  obtain rfl := commandRecord_ok h
  simp only [commandRecord, bind_eq_ok, exists_unit_iff] at h
  exact h.1

theorem attempt_record_verified {model : ReadModel} {id : CommandIdentity} {expected : ExpectedRun}
    {terminalMessage : String} {current : RunAttempt → Prop} [DecidablePred current]
    {staleMessage reason : String} {toStatus : AttemptStatus} {failureCode : Option String}
    {aggregate : RunAggregate} {previous attempt : RunAttempt} {record : CommandRecord}
    (h : attemptMutation P model ctx id expected terminalMessage current staleMessage reason
      toStatus failureCode = .ok (.updateAttempt aggregate previous attempt record)) :
    verifyCommandRecord record = .ok () := by
  obtain ⟨_, _, _, audit, hsame, -, -, -, -, -, hrecord⟩ := attemptMutation_ok h
  cases hsame
  exact commandRecord_verified hrecord

theorem transition_record_verified {c : TransitionCommand} {model : ReadModel}
    {id : CommandIdentity} {t : TransitionMutation}
    (h : transitionMutation P c model ctx id = .ok (.transition t)) :
    verifyCommandRecord t.command = .ok () := by
  obtain ⟨latest, _, hsame, hprepared⟩ := transitionMutation_ok h
  cases hsame
  obtain ⟨audit, evidence, -, -, hrecord⟩ := hprepared.written
  exact commandRecord_verified hrecord

theorem materialize_written {c : MaterializeCommand} {id : CommandIdentity} {attempt : RunAttempt}
    {workItem : RunWorkItem} {record : CommandRecord}
    (h : materializeMutation P c ctx id =
      .ok (.materialize c.aggregate attempt workItem record))
    (hsource : P.sourceMatches c.aggregate = .ok ()) :
    RunStore.empty.write P (.materialize c.aggregate attempt workItem record) =
      .ok (⟨some c.aggregate, [attempt], [workItem], [c.aggregate.initial.lastTransition],
        [record]⟩, ⟨record, false⟩) := by
  obtain ⟨_, _, _, audit, hsame, hcreated, hrecord⟩ := materializeMutation_ok h
  cases hsame
  exact write_materialize hcreated.valid hcreated.item hcreated.itemAudit
    (commandRecord_verified hrecord) hsource

/-- A transition that binds no attempt, on the run it was prepared on. -/
theorem write_unbound {m : TransitionMutation} {stored : RunAggregate}
    (hrun : store.run = some stored) (hcurrent : stored.document = m.previous.document)
    (hprevious : m.previousAttempt = none) (hattempt : m.attempt = none)
    (hrecord : verifyCommandRecord m.command = .ok ())
    (hkey : store.getCommand m.command.scopeFingerprint m.command.keyReference = none)
    (hsequence : ∀ t ∈ store.transitions,
      t.sequence ≠ m.aggregate.document.lastTransition.sequence) :
    store.write P (.transition m) =
      .ok ({ store with
          run := some { stored with document := m.aggregate.document }
          transitions := store.transitions ++ [m.aggregate.document.lastTransition]
          commands := store.commands ++ [m.command] }, ⟨m.command, false⟩) := by
  simp only [RunStore.write, RunStore.applyTransition, RunStore.orReplay, rejecting, bind_eq_ok,
    exists_unit_iff, mapError_eq_ok, hkey]
  refine ⟨by simp [verifyWrittenAttempt, hattempt], hrecord, _,
    ⟨stored, requireCurrent_succeeds hrun hcurrent, store, ?_,
      { store with transitions := store.transitions ++ [m.aggregate.document.lastTransition] },
      ?_, rfl⟩, hrecord, rfl⟩
  · rw [hprevious]
    rfl
  · simp only [RunStore.insertTransition, bind_eq_ok, exists_unit_iff, require_eq_ok]
    exact ⟨hsequence, rfl⟩

/-- A retry of the latest attempt, on the rows it was prepared on. -/
theorem write_retry {c : RetryCommand} {model : ReadModel} {id : CommandIdentity}
    {stored : RunAggregate} {failed attempt : RunAttempt} {workItem : RunWorkItem}
    {record : CommandRecord}
    (h : retryMutation P c model ctx id =
      .ok (.retry model.aggregate failed attempt workItem record))
    (hrun : store.run = some stored) (hcurrent : stored.document = model.aggregate.document)
    (hfound : store.attempts.find? (fun a => a.attemptId = failed.attemptId) = some failed)
    (hmax : (store.attempts.map RunAttempt.attemptNumber).max? = some failed.attemptNumber)
    (hattempts : ∀ a ∈ store.attempts, a.attemptId ≠ attempt.attemptId ∧
      a.attemptNumber ≠ attempt.attemptNumber)
    (hitems : ∀ w ∈ store.workItems, w.workItemId ≠ workItem.workItemId ∧
      w.attemptId ≠ workItem.attemptId)
    (hkey : store.getCommand record.scopeFingerprint record.keyReference = none) :
    store.write P (.retry model.aggregate failed attempt workItem record) =
      .ok ({ store with
          attempts := store.attempts ++ [attempt]
          workItems := store.workItems ++ [workItem]
          commands := store.commands ++ [record] }, ⟨record, false⟩) := by
  obtain ⟨_, _, _, _, audit, hsame, -, hretryable, -, hcreated, hrecord⟩ := retryMutation_ok h
  cases hsame
  have hrecord := commandRecord_verified hrecord
  have hverify := verifyAttempt_none.mpr hcreated.valid
  have hwork : verifyWorkItem P workItem model.aggregate attempt true = .ok () :=
    verifyWorkItem_eq_ok.mpr ⟨hcreated.item, fun _ => hcreated.itemAudit⟩
  have hinsert : ∀ clash message, store.insertAttempt attempt workItem clash message =
      .ok { store with
        attempts := store.attempts ++ [attempt]
        workItems := store.workItems ++ [workItem] } := by
    intro clash message
    simp only [RunStore.insertAttempt, bind_eq_ok, exists_unit_iff, require_eq_ok]
    exact ⟨hattempts, hitems, rfl⟩
  simp only [RunStore.write, RunStore.appendRetry, RunStore.orReplay, rejecting, bind_eq_ok,
    exists_unit_iff, mapError_eq_ok, hkey, require_eq_ok]
  refine ⟨hverify, hwork, _, ⟨stored, requireCurrent_succeeds hrun hcurrent, ?_, hretryable, hmax,
    hinsert _ _⟩, hrecord, rfl⟩
  simp [RunStore.requireAttempt, hfound]

/-- An attempt that is moved on, on the rows it was prepared on. -/
theorem write_updateAttempt {aggregate stored : RunAggregate} {previous attempt : RunAttempt}
    {record : CommandRecord} (hrun : store.run = some stored)
    (hcurrent : stored.document = aggregate.document)
    (hverify : verifyAttempt P attempt aggregate.document (some previous) = .ok ())
    (hfound : store.attempts.find? (fun a => a.attemptId = previous.attemptId) = some previous)
    (hrecord : verifyCommandRecord record = .ok ())
    (hkey : store.getCommand record.scopeFingerprint record.keyReference = none) :
    store.write P (.updateAttempt aggregate previous attempt record) =
      .ok ({ store with
          attempts := store.attemptsAfter (some previous) (some attempt)
          commands := store.commands ++ [record] }, ⟨record, false⟩) := by
  simp only [RunStore.write, RunStore.updateAttempt, RunStore.orReplay, rejecting, bind_eq_ok,
    exists_unit_iff, mapError_eq_ok, hkey]
  refine ⟨hverify, _, ⟨stored, requireCurrent_succeeds hrun hcurrent, ?_, rfl⟩, hrecord, ?_⟩
  · simp [RunStore.requireAttempt, hfound]
  · rw [updateAttemptRow_eq]
    rfl

end

/-! ### Steps -/

section
variable {P : Platform} {planningRunId : String} {ingress : Ingress P planningRunId}
  {allowed : RunSystem → RunEvent → Prop} {s : RunSystem}

/-- A submission that is read and written with nothing in between. -/
theorem reach_write {submission : Submission} {m : Mutation} {store : RunStore}
    {record : CommandRecord} (h : Reach (RunStep P ingress) allowed .initial s)
    (hon : OnRun P ingress submission.command)
    (hprepared : s.store.prepare P submission.command submission.context = .ok (.write m))
    (hread : allowed s
      (.read ⟨submission, s.store.request submission.command, s.store.latest, m, none⟩))
    (hwrote : ∀ answer, allowed
      (s.hold ⟨submission, s.store.request submission.command, s.store.latest, m, none⟩)
      (.wrote ⟨submission, s.store.request submission.command, s.store.latest, m, none⟩ answer))
    (hwritten : s.store.write P m = .ok (store, ⟨record, false⟩)) :
    ∃ succeeded, Reach (RunStep P ingress) allowed .initial ⟨store, s.pending, succeeded⟩ ∧
      (∀ result, resultFromCommand P record m.source false = .ok result →
        ⟨submission, s.store.request submission.command, result⟩ ∈ succeeded) ∧
      ∀ success ∈ s.succeeded, success ∈ succeeded := by
  obtain ⟨write, hwrite⟩ : ∃ write : PendingWrite, write =
      ⟨submission, s.store.request submission.command, s.store.latest, m, none⟩ := ⟨_, rfl⟩
  rw [← hwrite] at hread hwrote
  have hstep : RunStep P ingress s (.read write) (s.hold write) := by
    rw [hwrite]
    exact .read hon hprepared
  have hmutation : write.mutation = m := by rw [hwrite]
  have hnext : RunStep P ingress (s.hold write) (.wrote write _) _ :=
    .wrote (List.mem_cons_self ..) (by rw [hwrite]) (by rwa [hmutation])
  have hreach := (h.next hread hstep).next (hwrote _) hnext
  have hend : ∀ t : RunSystem, Reach (RunStep P ingress) allowed .initial t → t.store = store →
      t.pending = s.pending →
      Reach (RunStep P ingress) allowed .initial ⟨store, s.pending, t.succeeded⟩ := by
    intro t ht hstore hpending
    rwa [← hstore, ← hpending]
  refine ⟨_, hend _ hreach (RunSystem.answer_store ..) ?_, ?_, ?_⟩
  · rw [RunSystem.answer_pending]
    exact List.erase_cons_head ..
  · intro result hresult
    rw [hmutation, hresult, hwrite]
    exact List.mem_cons_self ..
  · intro success hsuccess
    cases resultFromCommand P record write.mutation.source false with
    | error e => exact hsuccess
    | ok result => exact List.mem_cons_of_mem _ hsuccess

end

/-! ### The digests of the source -/

theorem isFingerprint_hexdigest (text : String) :
    isFingerprint ("sha256:" ++ Sha256.hexdigest text) = true := by
  have hdigits : ∀ c ∈ (Sha256.hexdigest text).toList, c ∈ "0123456789abcdef".toList := by
    intro c hc
    have hdigit : ∀ n < 16, Nat.digitChar n ∈ "0123456789abcdef".toList := by decide
    obtain ⟨n, hn, rfl⟩ := Sha256.mem_hexdigest text c hc
    exact hdigit n hn
  have hleading : "sha256:".toList.isPrefixOf ("sha256:" ++ Sha256.hexdigest text).toList =
      true := by
    rw [String.toList_append, List.isPrefixOf_iff_prefix]
    exact List.prefix_append ..
  have hdrop : ("sha256:" ++ Sha256.hexdigest text).toList.drop 7 =
      (Sha256.hexdigest text).toList := by
    rw [String.toList_append]
    rfl
  have hlength : ("sha256:" ++ Sha256.hexdigest text).length = 71 := by
    rw [String.length_append, Sha256.length_hexdigest]
    rfl
  rw [isFingerprint, hlength, hleading, hdrop, Bool.and_eq_true, List.all_eq_true]
  exact ⟨rfl, fun c hc => decide_eq_true (hdigits c hc)⟩

/-- The platform with the digests that the source computes. -/
def Platform.canonical (schemas : String → Json → Bool) (dataPlane : String)
    (sourceMatches : RunAggregate → Except RunError Unit) : Platform :=
  { fingerprint := contractFingerprint
    keyReference := fun key => "sha256:" ++ Sha256.hexdigest key
    schemas
    dataPlane
    sourceMatches
    fingerprint_form := fun value => isFingerprint_hexdigest value.dumps
    keyReference_form := fun key => isFingerprint_hexdigest key }

/-- A fingerprint computed on the spelling of its document. -/
theorem fingerprint_spelled {value : Json} {spelling : Spelling} {chars : List Char}
    (h : Spelled value spelling) (hplain : spelling.plain = true)
    (hascii : spelling.chars.all (fun c => Nat.blt c.toNat 128) = true)
    (hdigest : 's' :: 'h' :: 'a' :: '2' :: '5' :: '6' :: ':' ::
      forceAll (spelling.chars.map Char.toNat) Sha256.natDigest = chars) :
    contractFingerprint value = String.ofList chars := by
  rw [contractFingerprint, h.digest hplain hascii rfl, ← hdigest]
  exact (@String.ofList_append ['s', 'h', 'a', '2', '5', '6', ':'] _).symm

theorem keyReference_spelled {key chars : List Char}
    (hascii : key.all (fun c => Nat.blt c.toNat 128) = true)
    (hdigest : 's' :: 'h' :: 'a' :: '2' :: '5' :: '6' :: ':' ::
      forceAll (key.map Char.toNat) Sha256.natDigest = chars) :
    "sha256:" ++ Sha256.hexdigest (String.ofList key) = String.ofList chars := by
  rw [← Sha256.natDigest_eq, Spelling.utf8_ascii hascii, ← hdigest, forceAll_eq]
  exact (@String.ofList_append ['s', 'h', 'a', '2', '5', '6', ':'] _).symm

/-! ### A first run

One ingress record on a platform with the digests of the source, and its materialization. -/

def zeroFingerprint : String :=
  "sha256:0000000000000000000000000000000000000000000000000000000000000000"

def zeroReference (documentVersion artifactId : String) : Reference :=
  ⟨documentVersion, artifactId, zeroFingerprint⟩

def firstScope : EffectiveScope :=
  ⟨"tenant-1", "factory-1", "scope-1", "PRODUCTION", "PRODUCTION",
    "sha256:aec14b9e19718bfbb448ad2c5d1d4ce823c854eab10b7c3e85ac1b0f70fe1780"⟩

def firstRuntime : RuntimeResolution :=
  { members :=
      [("runtime_resolution_version", .str "runtime-resolution.v1"),
       ("runtime_version", .str "1.0.0"), ("runtime_artifact_fingerprint", .str zeroFingerprint),
       ("core_version", .str "1.0.0"), ("core_artifact_fingerprint", .str zeroFingerprint),
       ("extension_sdk_version", .str "1.0.0"),
       ("registry_protocol_version", .str "plugin-registry.v1"),
       ("extension_set",
         .obj
           [("extension_set_id", .str "extensions-1"),
            ("extension_set_fingerprint", .str zeroFingerprint),
            ("configuration_fingerprint", .str zeroFingerprint)]),
       ("developer_kit_version", .str "1.0.0"),
       ("developer_kit_fingerprint", .str zeroFingerprint), ("solver_backend_id", .str "cp-sat"),
       ("solver_backend_version", .str "1.0.0"), ("validator_version", .str "1.0.0")]
    resolutionFingerprint :=
      "sha256:2ec73dc87a660126b547d3c2de0fcaaf61da5b5bc164a1f0d721a04d5c1d49ca" }

def firstSource : RunSource :=
  { planningRunVersion := "planning-run.v1"
    schemaSetVersion := "2.10.0"
    canonicalizationVersion := "canonical-json.v1"
    transitionRegistryVersion := "state-machines.v1"
    errorRegistryVersion := "headless-error-code-registry.v1"
    planningRunId := "planning-run-1"
    effectiveScope := firstScope
    ingress :=
      .obj
        [("request_id", .str "request-1"), ("request_fingerprint", .str zeroFingerprint),
         ("ingress_id", .str "ingress-1"),
         ("payload", (zeroReference "import-package.v2" "package-1").toJson),
         ("idempotency_key_reference", .str zeroFingerprint),
         ("idempotency_scope_fingerprint", .str zeroFingerprint)]
    runtimeResolution := firstRuntime
    inputs :=
      .obj
        [("planning_policy", (zeroReference "planning-policy.v1" "policy-1").toJson),
         ("solve_limits", (zeroReference "solve-limits.v1" "limits-1").toJson)]
    createdAtUtc := "2026-01-01T00:00:00Z" }

def firstRun : PlanningRun :=
  { source := firstSource
    revision := 1
    state := .created
    attempt := none
    artifacts := .empty
    cancellation := none
    error := none
    lastTransition :=
      ⟨0, none, .created, "2026-01-01T00:00:00Z", zeroReference "audit-event.v1" "audit-event-0"⟩
    auditReferences := [zeroReference "audit-event.v1" "audit-event-0"]
    updatedAtUtc := "2026-01-01T00:00:00Z"
    runFingerprint := "sha256:054c0e57c88a68faf813d5ce5c36d194ed2a55c361e384056851f7bafddb65e8" }

def firstAggregate : RunAggregate :=
  { document := firstRun
    initial := firstRun
    prepared :=
      { importQualityReport := some (zeroReference "import-quality-report.v1" "report-1")
        snapshot := some (zeroReference "planning-snapshot.v1" "snapshot-1")
        problem := some (zeroReference "planning-problem.v1" "problem-1")
        syntheticProvenance := none
        runtimeReplan := none
        others := [] }
    sourceIngressId := "ingress-1"
    sourceRecordFingerprint := zeroFingerprint }

/-- A catalog that accepts the documents below, and an ingress record that is there. -/
def firstPlatform : Platform := .canonical (fun _ _ => true) "PRODUCTION" fun _ => .ok ()

set_option maxRecDepth 100000 in
theorem first_fingerprints :
    contractFingerprint (.obj firstScope.membersWithoutFingerprint) =
        firstScope.scopeFingerprint ∧
      contractFingerprint (.obj firstRuntime.members) = firstRuntime.resolutionFingerprint ∧
      contractFingerprint (.obj firstRun.membersWithoutFingerprint) = firstRun.runFingerprint :=
  ⟨fingerprint_spelled (by repeat constructor) (by decide +kernel) (by decide +kernel)
      (by decide +kernel),
    fingerprint_spelled (by repeat constructor) (by decide +kernel) (by decide +kernel)
      (by decide +kernel),
    fingerprint_spelled (by repeat constructor) (by decide +kernel) (by decide +kernel)
      (by decide +kernel)⟩

theorem zeroFingerprint_form : isFingerprint zeroFingerprint = true := by decide

theorem zeroReference_valid (artifactId : String) (h : artifactId ≠ "") :
    AuditValid (zeroReference "audit-event.v1" artifactId) :=
  ⟨⟨rfl, h⟩, zeroFingerprint_form⟩

theorem firstAggregate_valid : RunValid firstPlatform firstAggregate :=
  { schema := rfl
    initial := ⟨rfl, rfl⟩
    source := rfl
    fingerprint := first_fingerprints.2.2.symm
    scope := first_fingerprints.1.symm
    runtime := first_fingerprints.2.1.symm
    transition := checkTransition_eq_ok.mpr
      { revision := rfl
        state := rfl
        updated := rfl
        audits := rfl
        auditsValid := by
          intro reference hmem
          rw [List.mem_singleton.mp hmem]
          exact zeroReference_valid "audit-event-0" (by decide)
        lastAudit := rfl
        cancellation := nofun
        legal := ⟨rfl, rfl⟩ }
    prepared := ⟨nofun, nofun, nofun⟩
    evidence := nofun }

/-- The one ingress record. -/
def firstIngress : Ingress firstPlatform "planning-run-1" where
  aggregates := fun a => a = firstAggregate
  runId := fun h => h ▸ rfl
  initial := fun h => h ▸ rfl
  verified := fun h => h ▸ verifyPlanningRun_none.mpr firstAggregate_valid
  identified := fun h h' _ => h.trans h'.symm

def firstContext : CommandContext :=
  { actorReference := "planner-1"
    capabilities := ["edit"]
    authPolicyVersion := "policy-1"
    tenantId := "tenant-1"
    factoryId := "factory-1"
    planningScopeId := "scope-1"
    dataPlane := "PRODUCTION"
    environment := "PRODUCTION"
    productionBinding := true
    correlationId := "correlation-1"
    occurredAtUtc := "2026-01-01T00:10:00Z"
    codeCommit := "0000000000000000000000000000000000000000" }

theorem firstContext_scope : firstContext.effectiveScope firstPlatform = firstScope := by
  show ({ firstContext.scopeBase with
    scopeFingerprint := contractFingerprint
      (.obj firstContext.scopeBase.membersWithoutFingerprint) } : EffectiveScope) = firstScope
  rw [show firstContext.scopeBase.membersWithoutFingerprint =
    firstScope.membersWithoutFingerprint from rfl, first_fingerprints.1]
  rfl

theorem firstContext_authorized : authorize firstPlatform firstAggregate firstContext false =
    .ok () :=
  authorize_ok.mpr ⟨rfl, fun _ => rfl, .inl (List.mem_singleton.mpr rfl), firstContext_scope.symm⟩

/-- Identities that are derived under one name tell the fingerprints apart. -/
theorem derivedIdentity_inj {P : Platform} {name : String} {a b : Json}
    (h : P.derivedIdentity name a = P.derivedIdentity name b) :
    P.fingerprint a = P.fingerprint b := by
  have hparts : ∀ value, (P.fingerprint value).toList =
      "sha256:".toList ++ (P.fingerprint value).toList.drop 7 := by
    intro value
    have hform := P.fingerprint_form value
    rw [isFingerprint, Bool.and_eq_true, Bool.and_eq_true, List.isPrefixOf_iff_prefix] at hform
    obtain ⟨rest, hrest⟩ := hform.1.2
    rw [← hrest]
    rfl
  have hdigits := congrArg String.toList h
  simp only [Platform.derivedIdentity, String.toList_append, String.toList_ofList,
    List.append_cancel_left_eq] at hdigits
  apply String.toList_injective
  rw [hparts a, hparts b, hdigits]

theorem firstInstant_nonneg : (0 : Int) ≤ 63902822400000000 := by decide
theorem firstInstant_lt : 63902822400000000 < microsLimit := by decide

/-- The first instant of the first run, ten minutes later and an hour later. -/
def firstInstant : Datetime := ⟨63902822400000000, firstInstant_nonneg, firstInstant_lt⟩
def firstTenth : Datetime := ⟨63902823000000000, by decide, by decide⟩
def firstHour : Datetime := ⟨63902826000000000, by decide, by decide⟩

theorem first_instants :
    utc "2026-01-01T00:00:00Z" "" = .ok firstInstant ∧
      utc "2026-01-01T00:10:00Z" "" = .ok firstTenth ∧
      utc "2026-01-01T01:00:00Z" "" = .ok firstHour :=
  ⟨by decide +kernel, by decide +kernel, by decide +kernel⟩

theorem firstInstant_utc (field : String) :
    utc "2026-01-01T00:00:00Z" field = .ok firstInstant :=
  utc_field first_instants.1 field

theorem firstTenth_utc (field : String) :
    utc firstContext.occurredAtUtc field = .ok firstTenth :=
  utc_field first_instants.2.1 field

theorem firstHour_utc (field : String) : utc "2026-01-01T01:00:00Z" field = .ok firstHour :=
  utc_field first_instants.2.2 field

def firstMaterialize : MaterializeCommand :=
  ⟨firstAggregate, zeroFingerprint, "2026-01-01T00:00:00Z", "2026-01-01T01:00:00Z"⟩

def firstIdentity : CommandIdentity :=
  { operation := "MATERIALIZE"
    scope := "sha256:cd8ff86c93ddd6d82bfd475b5d024f25f296b533d1732a2061f00f3ea817f663"
    keyReference := zeroFingerprint
    requestFingerprint := "sha256:df14ef6f8c7aedaf086f986d118daab4049f9812922bc6d409dc4b61117ddcbf" }

/-- The scope of a command on the first run. -/
theorem firstContext_command {operation scope : String}
    (h : contractFingerprint
      (.obj
        [("operation", .str operation), ("planning_run_id", .str "planning-run-1"),
         ("effective_scope", firstScope.toJson)]) = scope) :
    commandScope firstPlatform operation "planning-run-1" firstContext = scope := by
  rw [commandScope, firstContext_scope]
  exact h

set_option maxRecDepth 100000 in
theorem firstMaterialize_fingerprints :
    contractFingerprint
        (.obj
          [("operation", .str "MATERIALIZE"), ("planning_run_id", .str "planning-run-1"),
           ("effective_scope", firstScope.toJson)]) = firstIdentity.scope ∧
      contractFingerprint firstMaterialize.request = firstIdentity.requestFingerprint :=
  ⟨fingerprint_spelled (by repeat constructor) (by decide +kernel) (by decide +kernel)
      (by decide +kernel),
    fingerprint_spelled (by repeat constructor) (by decide +kernel) (by decide +kernel)
      (by decide +kernel)⟩

theorem firstMaterialize_identity :
    firstMaterialize.identity firstPlatform firstContext = firstIdentity := by
  rw [MaterializeCommand.identity]
  have hscope : commandScope firstPlatform "MATERIALIZE"
      firstMaterialize.aggregate.document.source.planningRunId firstContext =
      firstIdentity.scope := firstContext_command firstMaterialize_fingerprints.1
  have hrequest : firstPlatform.fingerprint firstMaterialize.request =
      firstIdentity.requestFingerprint := firstMaterialize_fingerprints.2
  rw [hscope, hrequest]
  rfl

def firstAudit : Reference :=
  auditEventReference firstPlatform firstAggregate firstContext firstIdentity
    "Materialize the durable PlanningRun and queue-ready attempt." "audit-event-0"

def firstAttempt : RunAttempt :=
  .queued firstPlatform firstRun 1 "2026-01-01T00:00:00Z" "2026-01-01T01:00:00Z" firstAudit

def firstItem : RunWorkItem :=
  .queued firstPlatform firstAggregate firstAttempt firstContext.correlationId

def firstRecord : CommandRecord :=
  firstIdentity.record firstAggregate (some firstAttempt) (some firstItem) firstAudit
    firstContext.occurredAtUtc

/-- The rows after the materialization. -/
def firstStore : RunStore :=
  ⟨some firstAggregate, [firstAttempt], [firstItem], [firstRun.lastTransition], [firstRecord]⟩

theorem firstIdentity_form : IdentityForm firstIdentity := by
  rw [← firstMaterialize_identity]
  exact ⟨firstPlatform.fingerprint_form _, zeroFingerprint_form, firstPlatform.fingerprint_form _⟩

theorem firstRuntime_extension : firstRuntime.extensionSetFingerprint = zeroFingerprint := by
  rfl

theorem firstAudit_reference : auditReference firstPlatform firstAggregate firstContext firstIdentity
    "Materialize the durable PlanningRun and queue-ready attempt." "audit-event-0" =
      .ok firstAudit := auditReference_succeeds nofun rfl

theorem firstMaterialize_mutation :
    materializeMutation firstPlatform firstMaterialize firstContext firstIdentity =
      .ok (.materialize firstAggregate firstAttempt firstItem firstRecord) := by
  have hextension : isFingerprint
      firstMaterialize.aggregate.document.source.runtimeResolution.extensionSetFingerprint =
        true := firstRuntime_extension ▸ zeroFingerprint_form
  have haudit : AuditValid firstAudit := auditEventReference_valid
  exact materializeMutation_succeeds firstAggregate_valid hextension firstAudit_reference
    haudit firstIdentity_form (firstInstant_utc _) (firstHour_utc _) (by decide)
    (firstTenth_utc _) rfl

theorem firstMaterialize_prepared :
    RunStore.empty.prepare firstPlatform (.materialize firstMaterialize) firstContext =
      .ok (.write (.materialize firstAggregate firstAttempt firstItem firstRecord)) := by
  have hrun : verifyPlanningRun firstPlatform firstMaterialize.aggregate none = .ok () :=
    verifyPlanningRun_none.mpr firstAggregate_valid
  simp only [RunStore.prepare, prepareMaterialize, bind_eq_ok, exists_unit_iff, orExisting_write,
    firstMaterialize_identity]
  exact ⟨hrun, firstContext_authorized, rfl, firstMaterialize_mutation⟩

theorem firstMaterialize_written :
    RunStore.empty.write firstPlatform
        (.materialize firstAggregate firstAttempt firstItem firstRecord) =
      .ok (firstStore, ⟨firstRecord, false⟩) := by
  have hsource : firstPlatform.sourceMatches firstMaterialize.aggregate = .ok () := rfl
  have hwritten := materialize_written firstMaterialize_mutation hsource
  exact hwritten

def firstSubmission : Submission := ⟨.materialize firstMaterialize, firstContext⟩

def firstWrite : PendingWrite :=
  ⟨firstSubmission, .materialize firstMaterialize, none,
    .materialize firstAggregate firstAttempt firstItem firstRecord, none⟩

/-- The answer to the materialization. -/
def firstSuccess : Success :=
  ⟨firstSubmission, .materialize firstMaterialize,
    ⟨firstAggregate, some firstAttempt, some firstItem, firstAudit, false⟩⟩

/-- The first run is materialized wherever reading and materializing are allowed. -/
theorem first_reached {allowed : RunSystem → RunEvent → Prop}
    (hread : allowed .initial (.read firstWrite))
    (hwrote : ∀ answer, allowed (RunSystem.initial.hold firstWrite) (.wrote firstWrite answer)) :
    ∃ succeeded, Reach (RunStep firstPlatform firstIngress) allowed .initial
      ⟨firstStore, [], succeeded⟩ ∧ firstSuccess ∈ succeeded := by
  have hon : OnRun firstPlatform firstIngress firstSubmission.command := by
    show firstMaterialize.aggregate = firstAggregate
    rfl
  obtain ⟨succeeded, hreach, hsuccess, -⟩ := @reach_write _ _ _ _ _ firstSubmission _ _ _ .refl hon
    firstMaterialize_prepared hread hwrote firstMaterialize_written
  refine ⟨succeeded, hreach, hsuccess _ ?_⟩
  have hrecord := (reach_valid hreach).store.records firstAggregate rfl firstRecord
    (List.mem_singleton.mpr rfl)
  exact resultFromCommand_ok hrecord

end PlantNexus.Runs
