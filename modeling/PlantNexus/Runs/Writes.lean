import PlantNexus.Runs.System
import PlantNexus.Runs.Validity

/-! What a prepared write is, and what a write does.

`prepare_write` gives all that a submission has checked before it goes on to its write, and
`write_ok` all that a transaction has compared and changed. Proofs about runs of the system start
from these two. -/
namespace PlantNexus.Runs
open Data Time

section
variable {P : Platform} {store store' : RunStore} {ctx : CommandContext}

/-! ### Reads -/

variable (P) in
/-- What a read establishes of the rows. -/
structure ReadValid (store : RunStore) (ctx : CommandContext) (model : ReadModel) : Prop where
  run : store.run = some model.aggregate
  attempts : model.attempts = sortByKey RunAttempt.attemptNumber store.attempts
  workItems : model.workItems = sortByKey RunWorkItem.attemptNumber store.workItems
  authorized : authorize P model.aggregate ctx true = .ok ()
  valid : RunValid P model.aggregate
  attemptsValid : ∀ a ∈ model.attempts, AttemptValid P a model.aggregate.document.source

theorem get_some {model : ReadModel} (h : store.get P = .ok (some model)) :
    ∃ aggregate, store.run = some aggregate ∧ model = store.model aggregate := by
  unfold RunStore.get at h
  cases hrun : store.run with
  | none => simp [hrun] at h
  | some aggregate =>
    simp only [hrun, bind_eq_ok, exists_unit_iff, require_eq_ok] at h
    obtain ⟨_, _, _, _, _, h⟩ := h
    injection h with h
    injection h with h
    exact ⟨aggregate, rfl, h.symm⟩

theorem read_ok {model : ReadModel} (h : store.read P ctx = .ok model) :
    ReadValid P store ctx model := by
  obtain ⟨found, hget, h⟩ := bind_eq_ok.mp h
  cases found with
  | none => cases h
  | some found =>
    simp only [bind_eq_ok, exists_unit_iff] at h
    obtain ⟨hauthorized, hvalid, hattempts, h⟩ := h
    injection h with h
    subst h
    obtain ⟨aggregate, hrun, hmodel⟩ := get_some hget
    subst hmodel
    exact
      { run := hrun
        attempts := rfl
        workItems := rfl
        authorized := hauthorized
        valid := verifyPlanningRun_none.mp hvalid
        attemptsValid := forEach_ok_mem hattempts fun _ _ h => verifyAttempt_none.mp h }

theorem ReadValid.latest {model : ReadModel} (h : ReadValid P store ctx model) :
    store.latest = model.attempts.getLast? := by
  rw [RunStore.latest, h.attempts]

theorem latestAttempt_eq_ok {model : ReadModel} {a : RunAttempt} :
    latestAttempt model = .ok a ↔ model.attempts.getLast? = some a := by
  unfold latestAttempt
  cases model.attempts.getLast? <;> simp

/-! ### Prepared writes -/

theorem orExisting_write {existing : Option CommandRecord} {id : CommandIdentity}
    {source : RunAggregate} {next : Except RunError Mutation} {m : Mutation} :
    orExisting P existing id source next = .ok (.write m) ↔ existing = none ∧ next = .ok m := by
  unfold orExisting existingResult
  cases existing with
  | none =>
    cases next <;> simp [bind, Except.bind, pure, Except.pure]
  | some record =>
    simp only [bind_eq_ok, reduceCtorEq, false_and, iff_false]
    intro hall
    obtain ⟨found, h, hout⟩ := hall
    simp only [exists_unit_iff] at h
    obtain ⟨_, result, _, h⟩ := h
    injection h with h
    subst h
    cases hout

/-- The latest attempt that a transition is checked against, and the one it writes. -/
inductive Bound (P : Platform) (c : TransitionCommand) (aggregate : RunAggregate)
    (latest : RunAttempt) (ctx : CommandContext) (audit : Reference) :
    Option RunAttempt → Option RunAttempt → Prop
  | unbound (hid : c.attemptId = none) : Bound P c aggregate latest ctx audit none none
  | kept (hid : c.attemptId = some latest.attemptId)
      (hstatus : nextAttemptStatus latest.status c.toState = .ok latest.status) :
      Bound P c aggregate latest ctx audit (some latest) (some latest)
  | advanced {status : AttemptStatus} (hid : c.attemptId = some latest.attemptId)
      (hstatus : nextAttemptStatus latest.status c.toState = .ok status)
      (hvalid : AttemptValid P
        (latest.advanced P status ctx.occurredAtUtc audit (transitionFailureCode c.toState)
          c.artifacts) aggregate.document.source)
      (hnext : AttemptSucceeds
        (latest.advanced P status ctx.occurredAtUtc audit (transitionFailureCode c.toState)
          c.artifacts) latest) :
      Bound P c aggregate latest ctx audit (some latest)
        (some (latest.advanced P status ctx.occurredAtUtc audit (transitionFailureCode c.toState)
          c.artifacts))

theorem transitionAttempt_ok {previous a : RunAttempt} {aggregate : RunAggregate}
    {toStatus : AttemptStatus} {occurredAtUtc : String} {audit : Reference}
    {failureCode : Option String} {resultReferences : Artifacts}
    (h : transitionAttempt P previous aggregate toStatus occurredAtUtc audit failureCode
      resultReferences = .ok a) :
    a = previous.advanced P toStatus occurredAtUtc audit failureCode resultReferences ∧
      AttemptValid P a aggregate.document.source ∧ AttemptSucceeds a previous := by
  simp only [transitionAttempt, bind_eq_ok, exists_unit_iff] at h
  obtain ⟨hverify, h⟩ := h
  injection h with h
  subst h
  exact ⟨rfl, verifyAttempt_some.mp hverify⟩

theorem bindAttempt_ok {c : TransitionCommand} {model : ReadModel} {latest : RunAttempt}
    {audit : Reference} {bound : Option (RunAttempt × RunAttempt)}
    (h : bindAttempt P c model latest ctx audit = .ok bound) :
    Bound P c model.aggregate latest ctx audit (bound.map Prod.fst) (bound.map Prod.snd) := by
  unfold bindAttempt at h
  cases hid : c.attemptId with
  | none =>
    simp only [hid] at h
    injection h with h
    subst h
    exact .unbound hid
  | some attemptId =>
    simp only [hid, bind_eq_ok, exists_unit_iff, require_eq_ok] at h
    obtain ⟨⟨-, rfl⟩, status, hstatus, h⟩ := h
    by_cases hsame : status = latest.status
    · rw [if_pos hsame] at h
      injection h with h
      subst h
      subst hsame
      exact .kept hid hstatus
    · rw [if_neg hsame, bind_eq_ok] at h
      obtain ⟨next, hnext, h⟩ := h
      injection h with h
      subst h
      obtain ⟨rfl, hvalid, hsucceeds⟩ := transitionAttempt_ok hnext
      exact .advanced hid hstatus hvalid hsucceeds

variable (P) in
/-- A transition that has passed all its checks on a model. -/
structure TransitionPrepared (c : TransitionCommand) (model : ReadModel) (ctx : CommandContext)
    (id : CommandIdentity) (latest : RunAttempt) (t : TransitionMutation) : Prop where
  seen : model.attempts.getLast? = some latest
  expected : requireExpected model.aggregate.document c.expected = .ok ()
  open_ : ¬model.aggregate.document.state.Terminal
  legal : (model.aggregate.document.state, c.toState) ∈ planningRunTransitions
  previous : t.previous = model.aggregate
  written : ∃ audit evidence,
    Bound P c model.aggregate latest ctx audit t.previousAttempt t.attempt ∧
    t.aggregate = { model.aggregate with
      document := nextRun P c model.aggregate.document evidence ctx audit } ∧
    commandRecord id t.aggregate t.attempt none audit ctx.occurredAtUtc = .ok t.command
  bindsTerminal : c.toState.Terminal → c.attemptId ≠ none
  progresses : ¬c.toState.Terminal → ¬latest.status.Terminal
  valid : RunValid P t.aggregate

theorem transitionMutation_ok {c : TransitionCommand} {model : ReadModel} {id : CommandIdentity}
    {m : Mutation} (h : transitionMutation P c model ctx id = .ok m) :
    ∃ latest t, m = .transition t ∧ TransitionPrepared P c model ctx id latest t := by
  simp only [transitionMutation, bind_eq_ok, exists_unit_iff, require_eq_ok] at h
  obtain ⟨hexpected, hlegal, audit, -, latest, hlatest, hcheck, bound, hbound, -, hverify, record,
    hrecord, h⟩ := h
  injection h with h
  simp only [requirePlanningRunTransition, require_eq_ok] at hlegal
  simp only [checkTransitionAttempt, bind_eq_ok, exists_unit_iff, require_eq_ok] at hcheck
  refine ⟨latest, _, h.symm, ?_⟩
  exact
    { seen := latestAttempt_eq_ok.mp hlatest
      expected := hexpected
      open_ := hlegal.1
      legal := hlegal.2
      previous := rfl
      written := ⟨audit, _, bindAttempt_ok hbound, rfl, hrecord⟩
      bindsTerminal := hcheck.1
      progresses := hcheck.2.1
      valid := (verifyPlanningRun_some.mp hverify).1 }

variable (P) in
/-- A new attempt with its work item. -/
structure AttemptCreated (aggregate : RunAggregate) (number : Int) (attempt : RunAttempt)
    (workItem : RunWorkItem) : Prop where
  number : attempt.attemptNumber = number
  status : attempt.status = .queued
  valid : AttemptValid P attempt aggregate.document.source
  item : WorkItemValid P workItem aggregate attempt
  itemAudit : workItem.audit = attempt.audit

theorem createQueuedAttempt_ok {aggregate : RunAggregate} {number : Int}
    {availableAtUtc timeoutAtUtc : String} {audit : Reference} {attempt : RunAttempt}
    (h : createQueuedAttempt P aggregate number availableAtUtc timeoutAtUtc audit =
      .ok attempt) :
    attempt.attemptNumber = number ∧ attempt.status = .queued ∧
      AttemptValid P attempt aggregate.document.source := by
  simp only [createQueuedAttempt, bind_eq_ok, exists_unit_iff] at h
  obtain ⟨hverify, h⟩ := h
  injection h with h
  subst h
  exact ⟨rfl, rfl, verifyAttempt_none.mp hverify⟩

theorem createWorkItem_ok {aggregate : RunAggregate} {attempt : RunAttempt}
    {correlationId : String} {workItem : RunWorkItem}
    (h : createWorkItem P aggregate attempt correlationId = .ok workItem) :
    WorkItemValid P workItem aggregate attempt ∧ workItem.audit = attempt.audit := by
  simp only [createWorkItem, bind_eq_ok, exists_unit_iff] at h
  obtain ⟨hverify, h⟩ := h
  injection h with h
  subst h
  exact ⟨(verifyWorkItem_eq_ok.mp hverify).1, rfl⟩

theorem materializeMutation_ok {c : MaterializeCommand} {id : CommandIdentity} {m : Mutation}
    (h : materializeMutation P c ctx id = .ok m) :
    ∃ attempt workItem record audit, m = .materialize c.aggregate attempt workItem record ∧
      AttemptCreated P c.aggregate 1 attempt workItem ∧
      commandRecord id c.aggregate (some attempt) (some workItem) audit ctx.occurredAtUtc =
        .ok record := by
  simp only [materializeMutation, bind_eq_ok] at h
  obtain ⟨audit, -, attempt, hattempt, workItem, hitem, record, hrecord, h⟩ := h
  injection h with h
  obtain ⟨hnumber, hstatus, hvalid⟩ := createQueuedAttempt_ok hattempt
  obtain ⟨hitem, haudit⟩ := createWorkItem_ok hitem
  exact ⟨attempt, workItem, record, audit, h.symm, ⟨hnumber, hstatus, hvalid, hitem, haudit⟩,
    hrecord⟩

theorem retryMutation_ok {c : RetryCommand} {model : ReadModel} {id : CommandIdentity}
    {m : Mutation} (h : retryMutation P c model ctx id = .ok m) :
    ∃ failed attempt workItem record audit,
      m = .retry model.aggregate failed attempt workItem record ∧
      model.attempts.getLast? = some failed ∧ failed.status.Retryable ∧
      ¬model.aggregate.document.state.Terminal ∧
      AttemptCreated P model.aggregate (failed.attemptNumber + 1) attempt workItem ∧
      commandRecord id model.aggregate (some attempt) (some workItem) audit ctx.occurredAtUtc =
        .ok record := by
  simp only [retryMutation, bind_eq_ok, exists_unit_iff, require_eq_ok] at h
  obtain ⟨-, hopen, failed, hfailed, -, hretryable, audit, -, attempt, hattempt, workItem, hitem,
    record, hrecord, h⟩ := h
  injection h with h
  obtain ⟨hnumber, hstatus, hvalid⟩ := createQueuedAttempt_ok hattempt
  obtain ⟨hitem, haudit⟩ := createWorkItem_ok hitem
  exact ⟨failed, attempt, workItem, record, audit, h.symm, latestAttempt_eq_ok.mp hfailed,
    hretryable, hopen, ⟨hnumber, hstatus, hvalid, hitem, haudit⟩, hrecord⟩

theorem attemptMutation_ok {model : ReadModel} {id : CommandIdentity} {expected : ExpectedRun}
    {terminalMessage : String} {current : RunAttempt → Prop} [DecidablePred current]
    {staleMessage reason : String} {toStatus : AttemptStatus} {failureCode : Option String}
    {m : Mutation}
    (h : attemptMutation P model ctx id expected terminalMessage current staleMessage reason
      toStatus failureCode = .ok m) :
    ∃ previous attempt record audit, m = .updateAttempt model.aggregate previous attempt record ∧
      model.attempts.getLast? = some previous ∧
      ¬model.aggregate.document.state.Terminal ∧ attempt.status = toStatus ∧
      AttemptValid P attempt model.aggregate.document.source ∧
      AttemptSucceeds attempt previous ∧
      commandRecord id model.aggregate (some attempt) none audit ctx.occurredAtUtc =
        .ok record := by
  simp only [attemptMutation, bind_eq_ok, exists_unit_iff, require_eq_ok] at h
  obtain ⟨hopen, -, previous, hprevious, -, audit, -, attempt, hattempt, record, hrecord, h⟩ := h
  injection h with h
  obtain ⟨rfl, hvalid, hsucceeds⟩ := transitionAttempt_ok hattempt
  exact ⟨previous, _, record, audit, h.symm, latestAttempt_eq_ok.mp hprevious, hopen, rfl, hvalid,
    hsucceeds, hrecord⟩

variable (P) in
/-- What a request is recorded under. -/
def Request.identity (run : PlanningRun) (ctx : CommandContext) : Request → CommandIdentity
  | .materialize c => c.identity P ctx
  | .transition c => c.identity P run ctx
  | .startAttempt c => c.identity P run ctx
  | .recordAttemptFailure c => c.identity P run ctx
  | .retry c => c.identity P run ctx

/-- The write that a submission goes on to, with all that was checked on the way. -/
inductive PreparedBy (P : Platform) (store : RunStore) (ctx : CommandContext) :
    Request → Mutation → Prop
  | materialize {c : MaterializeCommand} {attempt : RunAttempt} {workItem : RunWorkItem}
      {record : CommandRecord} {audit : Reference} (hvalid : RunValid P c.aggregate)
      (hauthorized : authorize P c.aggregate ctx false = .ok ())
      (hcreated : AttemptCreated P c.aggregate 1 attempt workItem)
      (hrecord : commandRecord (c.identity P ctx) c.aggregate (some attempt) (some workItem) audit
        ctx.occurredAtUtc = .ok record) :
      PreparedBy P store ctx (.materialize c) (.materialize c.aggregate attempt workItem record)
  | transition {c : TransitionCommand} {model : ReadModel} {latest : RunAttempt}
      {t : TransitionMutation} (hread : ReadValid P store ctx model)
      (hauthorized : authorize P model.aggregate ctx false = .ok ())
      (h : TransitionPrepared P c model ctx (c.identity P model.aggregate.document ctx) latest t) :
      PreparedBy P store ctx (.transition c) (.transition t)
  | attempt {request : Request} {model : ReadModel} {previous attempt : RunAttempt}
      {record : CommandRecord} {audit : Reference} (hread : ReadValid P store ctx model)
      (hauthorized : authorize P model.aggregate ctx false = .ok ())
      (hlatest : model.attempts.getLast? = some previous)
      (hopen : ¬model.aggregate.document.state.Terminal)
      (hvalid : AttemptValid P attempt model.aggregate.document.source)
      (hsucceeds : AttemptSucceeds attempt previous)
      (hrecord : commandRecord (request.identity P model.aggregate.document ctx) model.aggregate
        (some attempt) none audit ctx.occurredAtUtc = .ok record)
      (hkind : ∀ c, request ≠ .materialize c)
      (houtcome : ∀ c, request = .recordAttemptFailure c →
        c.outcome = .dispatchFailed ∨ c.outcome = .timedOut) :
      PreparedBy P store ctx request (.updateAttempt model.aggregate previous attempt record)
  | retry {c : RetryCommand} {model : ReadModel} {failed attempt : RunAttempt}
      {workItem : RunWorkItem} {record : CommandRecord} {audit : Reference}
      (hread : ReadValid P store ctx model)
      (hauthorized : authorize P model.aggregate ctx false = .ok ())
      (hlatest : model.attempts.getLast? = some failed) (hretryable : failed.status.Retryable)
      (hopen : ¬model.aggregate.document.state.Terminal)
      (hcreated : AttemptCreated P model.aggregate (failed.attemptNumber + 1) attempt workItem)
      (hrecord : commandRecord (c.identity P model.aggregate.document ctx) model.aggregate
        (some attempt) (some workItem) audit ctx.occurredAtUtc = .ok record) :
      PreparedBy P store ctx (.retry c)
        (.retry model.aggregate failed attempt workItem record)

theorem prepareTransition_write {c : TransitionCommand} {model : ReadModel} {m : Mutation}
    (hread : ReadValid P store ctx model)
    (h : prepareTransition P c model ctx store.getCommand = .ok (.write m)) :
    PreparedBy P store ctx (.transition c) m := by
  simp only [prepareTransition, bind_eq_ok, exists_unit_iff, orExisting_write] at h
  obtain ⟨hauthorized, -, h⟩ := h
  obtain ⟨latest, t, rfl, hprepared⟩ := transitionMutation_ok h
  exact .transition hread hauthorized hprepared

/-- The request of a cancellation is the transition that `cancel` builds of what it has read. -/
theorem request_cancel {model : ReadModel} (hread : ReadValid P store ctx model)
    (c : CancelCommand) : store.request (.cancel c) = .transition (c.toTransition model) := by
  simp [RunStore.request, CancelCommand.toTransition, hread.run, hread.latest]

/-- A submission that goes on to a write has passed every check of its command. -/
theorem prepare_write {command : RunCommand} {m : Mutation}
    (h : store.prepare P command ctx = .ok (.write m)) :
    PreparedBy P store ctx (store.request command) m := by
  cases command with
  | materialize c =>
    simp only [RunStore.prepare, prepareMaterialize, bind_eq_ok, exists_unit_iff,
      orExisting_write] at h
    obtain ⟨hvalid, hauthorized, -, h⟩ := h
    obtain ⟨attempt, workItem, record, audit, rfl, hcreated, hrecord⟩ := materializeMutation_ok h
    exact .materialize (verifyPlanningRun_none.mp hvalid) hauthorized hcreated hrecord
  | transition c =>
    obtain ⟨model, hread, h⟩ := bind_eq_ok.mp h
    exact prepareTransition_write (read_ok hread) h
  | cancel c =>
    obtain ⟨model, hread, h⟩ := bind_eq_ok.mp h
    rw [request_cancel (read_ok hread)]
    exact prepareTransition_write (read_ok hread) h
  | startAttempt c =>
    obtain ⟨model, hread, h⟩ := bind_eq_ok.mp h
    simp only [prepareAttemptStart, bind_eq_ok, exists_unit_iff, orExisting_write] at h
    obtain ⟨hauthorized, -, h⟩ := h
    obtain ⟨previous, attempt, record, audit, rfl, hlatest, hopen, -, hvalid, hsucceeds, hrecord⟩ :=
      attemptMutation_ok h
    exact .attempt (read_ok hread) hauthorized hlatest hopen hvalid hsucceeds hrecord
      (fun _ h => by cases h) (fun _ h => by cases h)
  | recordAttemptFailure c =>
    obtain ⟨model, hread, h⟩ := bind_eq_ok.mp h
    simp only [prepareAttemptFailure, bind_eq_ok, exists_unit_iff, orExisting_write,
      require_eq_ok] at h
    obtain ⟨houtcome, hauthorized, -, h⟩ := h
    obtain ⟨previous, attempt, record, audit, rfl, hlatest, hopen, -, hvalid, hsucceeds, hrecord⟩ :=
      attemptMutation_ok h
    refine .attempt (read_ok hread) hauthorized hlatest hopen hvalid hsucceeds hrecord
      (fun _ h => by cases h) ?_
    intro c' hc
    injection hc with hc
    exact hc ▸ houtcome
  | retry c =>
    obtain ⟨model, hread, h⟩ := bind_eq_ok.mp h
    simp only [prepareRetry, bind_eq_ok, exists_unit_iff, orExisting_write] at h
    obtain ⟨hauthorized, -, h⟩ := h
    obtain ⟨failed, attempt, workItem, record, audit, rfl, hlatest, hretryable, hopen, hcreated,
      hrecord⟩ := retryMutation_ok h
    exact .retry (read_ok hread) hauthorized hlatest hretryable hopen hcreated hrecord

/-! ### Transactions -/

/-- The attempts after a transaction on an attempt that is there. -/
def RunStore.attemptsAfter (store : RunStore) : Option RunAttempt → Option RunAttempt →
    List RunAttempt
  | some previous, some attempt => (store.updateAttemptRow previous attempt).attempts
  | _, _ => store.attempts

theorem updateAttemptRow_eq (previous attempt : RunAttempt) :
    store.updateAttemptRow previous attempt =
      { store with attempts := store.attemptsAfter (some previous) (some attempt) } := by
  by_cases h : previous = attempt
  · simp [RunStore.attemptsAfter, RunStore.updateAttemptRow, h]
  · simp [RunStore.attemptsAfter, RunStore.updateAttemptRow, h]

/-- A transaction that has changed the rows, with all that it has compared. -/
inductive RunStore.Wrote (store : RunStore) : Mutation → RunStore → Prop
  | materialize {aggregate : RunAggregate} {attempt : RunAttempt} {workItem : RunWorkItem}
      {record : CommandRecord} (hrun : store.run = none)
      (hids : ∀ a ∈ store.attempts, a.attemptId ≠ attempt.attemptId) :
      store.Wrote (.materialize aggregate attempt workItem record)
        { run := some aggregate
          attempts := store.attempts ++ [attempt]
          workItems := store.workItems ++ [workItem]
          transitions := store.transitions ++ [aggregate.initial.lastTransition]
          commands := store.commands ++ [record] }
  | transition {m : TransitionMutation} {stored : RunAggregate} (hrun : store.run = some stored)
      (hcurrent : stored.document = m.previous.document)
      (hattempt : ∀ previous ∈ m.previousAttempt,
        store.attempts.find? (fun a => a.attemptId = previous.attemptId) = some previous) :
      store.Wrote (.transition m)
        { store with
          run := some { stored with document := m.aggregate.document }
          attempts := store.attemptsAfter m.previousAttempt m.attempt
          transitions := store.transitions ++ [m.aggregate.document.lastTransition]
          commands := store.commands ++ [m.command] }
  | retry {aggregate stored : RunAggregate} {failed attempt : RunAttempt}
      {workItem : RunWorkItem} {record : CommandRecord} (hrun : store.run = some stored)
      (hcurrent : stored.document = aggregate.document)
      (hfailed : store.attempts.find? (fun a => a.attemptId = failed.attemptId) = some failed)
      (hretryable : failed.status.Retryable)
      (hlatest : (store.attempts.map RunAttempt.attemptNumber).max? = some failed.attemptNumber)
      (hids : ∀ a ∈ store.attempts, a.attemptId ≠ attempt.attemptId) :
      store.Wrote (.retry aggregate failed attempt workItem record)
        { store with
          attempts := store.attempts ++ [attempt]
          workItems := store.workItems ++ [workItem]
          commands := store.commands ++ [record] }
  | updateAttempt {aggregate stored : RunAggregate} {previous attempt : RunAttempt}
      {record : CommandRecord} (hrun : store.run = some stored)
      (hcurrent : stored.document = aggregate.document)
      (hprevious :
        store.attempts.find? (fun a => a.attemptId = previous.attemptId) = some previous) :
      store.Wrote (.updateAttempt aggregate previous attempt record)
        { store with
          attempts := store.attemptsAfter (some previous) (some attempt)
          commands := store.commands ++ [record] }

theorem orReplay_ok {command : CommandRecord} {next : Except WriteFailure RunStore}
    {write : RepositoryWrite} (h : store.orReplay command next = .ok (store', write)) :
    (write.replayed = true ∧ store' = store ∧
      store.getCommand command.scopeFingerprint command.keyReference = some write.command ∧
      write.command.requestFingerprint = command.requestFingerprint) ∨
    write = ⟨command, false⟩ ∧
      store.getCommand command.scopeFingerprint command.keyReference = none ∧
      verifyCommandRecord command = .ok () ∧
      ∃ written, next = .ok written ∧
        store' = { written with commands := written.commands ++ [command] } := by
  unfold RunStore.orReplay at h
  cases hfind : store.getCommand command.scopeFingerprint command.keyReference with
  | some existing =>
    simp only [hfind, bind_eq_ok, exists_unit_iff, require_eq_ok] at h
    obtain ⟨hsame, h⟩ := h
    injection h with h
    injection h with hstore hwrite
    subst hwrite
    exact .inl ⟨rfl, hstore.symm, rfl, hsame⟩
  | none =>
    simp only [hfind, rejecting, bind_eq_ok, exists_unit_iff, mapError_eq_ok] at h
    obtain ⟨written, hnext, hverify, h⟩ := h
    injection h with h
    injection h with hstore hwrite
    exact .inr ⟨hwrite.symm, rfl, hverify, written, hnext, hstore.symm⟩

theorem requireCurrent_ok {aggregate stored : RunAggregate}
    (h : store.requireCurrent aggregate = .ok stored) :
    store.run = some stored ∧ stored.document = aggregate.document := by
  unfold RunStore.requireCurrent at h
  cases hrun : store.run with
  | none => simp [hrun] at h
  | some found =>
    simp only [hrun, bind_eq_ok, exists_unit_iff, require_eq_ok] at h
    obtain ⟨hcurrent, h⟩ := h
    injection h with h
    subst h
    exact ⟨rfl, hcurrent⟩

theorem requireAttempt_ok {attempt : RunAttempt} (h : store.requireAttempt attempt = .ok ()) :
    store.attempts.find? (fun a => a.attemptId = attempt.attemptId) = some attempt := by
  unfold RunStore.requireAttempt at h
  cases hfind : store.attempts.find? fun a => a.attemptId = attempt.attemptId with
  | none => simp [hfind] at h
  | some stored =>
    simp only [hfind, require_eq_ok] at h
    rw [h]

theorem insertAttempt_ok {attempt : RunAttempt} {workItem : RunWorkItem} {clash : RunError}
    {message : String} (h : store.insertAttempt attempt workItem clash message = .ok store') :
    (∀ a ∈ store.attempts, a.attemptId ≠ attempt.attemptId) ∧
      store' = { store with
        attempts := store.attempts ++ [attempt]
        workItems := store.workItems ++ [workItem] } := by
  simp only [RunStore.insertAttempt, bind_eq_ok, exists_unit_iff, require_eq_ok] at h
  obtain ⟨hids, -, h⟩ := h
  injection h with h
  exact ⟨fun a ha => (hids a ha).1, h.symm⟩

theorem insertTransition_ok {transition : RunTransition} {clash : RunError}
    (h : store.insertTransition transition clash = .ok store') :
    store' = { store with transitions := store.transitions ++ [transition] } := by
  simp only [RunStore.insertTransition, bind_eq_ok, exists_unit_iff] at h
  obtain ⟨-, h⟩ := h
  injection h with h
  exact h.symm

theorem writeAttempt_ok {previous attempt : Option RunAttempt}
    (h : store.writeAttempt previous attempt = .ok store') :
    (∀ a ∈ previous, store.attempts.find? (fun b => b.attemptId = a.attemptId) = some a) ∧
      store' = { store with attempts := store.attemptsAfter previous attempt } := by
  cases previous with
  | none =>
    injection h with h
    exact ⟨by simp, h.symm⟩
  | some previous =>
    simp only [RunStore.writeAttempt, bind_eq_ok, exists_unit_iff] at h
    obtain ⟨hattempt, h⟩ := h
    injection h with h
    subst h
    refine ⟨by simpa using requireAttempt_ok hattempt, ?_⟩
    cases attempt with
    | none => rfl
    | some attempt => exact updateAttemptRow_eq previous attempt

/-- How a transaction that succeeds ends: in the replay of a record, or in a change of the rows
under a key that had no record. -/
theorem write_ok {m : Mutation} {write : RepositoryWrite}
    (h : store.write P m = .ok (store', write)) :
    (write.replayed = true ∧ store' = store ∧
      store.getCommand m.command.scopeFingerprint m.command.keyReference = some write.command ∧
      write.command.requestFingerprint = m.command.requestFingerprint) ∨
    write = ⟨m.command, false⟩ ∧
      store.getCommand m.command.scopeFingerprint m.command.keyReference = none ∧
      store.Wrote m store' := by
  cases m with
  | materialize aggregate attempt workItem record =>
    simp only [RunStore.write, RunStore.materialize, bind_eq_ok, exists_unit_iff] at h
    obtain ⟨-, -, -, h⟩ := h
    obtain hreplay | ⟨hwrite, hnone, -, written, hnext, rfl⟩ := orReplay_ok h
    · exact .inl hreplay
    · simp only [bind_eq_ok, exists_unit_iff, require_eq_ok] at hnext
      obtain ⟨-, hrun, withTransition, ht, inserted, hi, h⟩ := hnext
      injection h with h
      have ht := insertTransition_ok ht
      subst ht
      obtain ⟨hids, rfl⟩ := insertAttempt_ok hi
      subst h
      exact .inr ⟨hwrite, hnone, .materialize hrun hids⟩
  | transition m =>
    simp only [RunStore.write, RunStore.applyTransition, bind_eq_ok, exists_unit_iff] at h
    obtain ⟨-, -, h⟩ := h
    obtain hreplay | ⟨hwrite, hnone, -, written, hnext, rfl⟩ := orReplay_ok h
    · exact .inl hreplay
    · simp only [bind_eq_ok] at hnext
      obtain ⟨stored, hstored, bound, hbound, withTransition, ht, h⟩ := hnext
      injection h with h
      obtain ⟨hrun, hcurrent⟩ := requireCurrent_ok hstored
      obtain ⟨hattempt, rfl⟩ := writeAttempt_ok hbound
      have ht := insertTransition_ok ht
      subst ht
      subst h
      exact .inr ⟨hwrite, hnone, .transition hrun hcurrent hattempt⟩
  | retry aggregate failed attempt workItem record =>
    simp only [RunStore.write, RunStore.appendRetry, bind_eq_ok, exists_unit_iff] at h
    obtain ⟨-, -, h⟩ := h
    obtain hreplay | ⟨hwrite, hnone, -, written, hnext, rfl⟩ := orReplay_ok h
    · exact .inl hreplay
    · simp only [bind_eq_ok, exists_unit_iff, require_eq_ok] at hnext
      obtain ⟨stored, hstored, hfailed, hretryable, hlatest, hi⟩ := hnext
      obtain ⟨hrun, hcurrent⟩ := requireCurrent_ok hstored
      obtain ⟨hids, rfl⟩ := insertAttempt_ok hi
      exact .inr ⟨hwrite, hnone, .retry hrun hcurrent (requireAttempt_ok hfailed) hretryable
        hlatest hids⟩
  | updateAttempt aggregate previous attempt record =>
    simp only [RunStore.write, RunStore.updateAttempt, bind_eq_ok, exists_unit_iff] at h
    obtain ⟨-, h⟩ := h
    obtain hreplay | ⟨hwrite, hnone, -, written, hnext, rfl⟩ := orReplay_ok h
    · exact .inl hreplay
    · simp only [bind_eq_ok, exists_unit_iff] at hnext
      obtain ⟨stored, hstored, hprevious, h⟩ := hnext
      injection h with h
      obtain ⟨hrun, hcurrent⟩ := requireCurrent_ok hstored
      rw [updateAttemptRow_eq] at h
      subst h
      exact .inr ⟨hwrite, hnone, .updateAttempt hrun hcurrent (requireAttempt_ok hprevious)⟩

end
end PlantNexus.Runs
