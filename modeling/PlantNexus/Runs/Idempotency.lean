import PlantNexus.Runs.Consistency

/-! Idempotency of the run commands.

A key is looked up before the checks of a command, in its transaction and after a lost race, and
each time the record of the key decides. What is compared is the fingerprint of a request that
the service builds: for `cancel` from the rows it reads, for `retry` without the window of the
new attempt. -/
namespace PlantNexus.Runs
open Data Domain

/-! ### Scopes, keys and contents -/

/-- What the scope of a command depends on, beside the run and the scope of the caller. -/
inductive CommandScope where
  | materialize
  | transition (toState : RunState)
  | startAttempt
  | recordAttemptFailure (outcome : AttemptStatus)
  | retry
deriving DecidableEq, Repr

def CommandScope.operation : CommandScope → String
  | .materialize => "MATERIALIZE"
  | .transition toState => "TRANSITION:" ++ toState.text
  | .startAttempt => "ATTEMPT:ACTIVE"
  | .recordAttemptFailure outcome => "ATTEMPT:" ++ outcome.text
  | .retry => "RETRY"

def RunCommand.scope : RunCommand → CommandScope
  | .materialize _ => .materialize
  | .transition c => .transition c.toState
  | .cancel _ => .transition .cancelled
  | .startAttempt _ => .startAttempt
  | .recordAttemptFailure c => .recordAttemptFailure c.outcome
  | .retry _ => .retry

def RunCommand.key : RunCommand → String
  | .materialize c => c.keyReference
  | .transition c => c.idempotencyKey
  | .cancel c => c.idempotencyKey
  | .startAttempt c => c.idempotencyKey
  | .recordAttemptFailure c => c.idempotencyKey
  | .retry c => c.idempotencyKey

/-- Two submissions under one key and scope. -/
structure SameKey (a b : Submission) : Prop where
  scope : a.command.scope = b.command.scope
  caller : a.context.scopeBase = b.context.scopeBase
  key : a.command.key = b.command.key

def Request.scope : Request → CommandScope
  | .materialize _ => .materialize
  | .transition c => .transition c.toState
  | .startAttempt _ => .startAttempt
  | .recordAttemptFailure c => .recordAttemptFailure c.outcome
  | .retry _ => .retry

def Request.key : Request → String
  | .materialize c => c.keyReference
  | .transition c => c.idempotencyKey
  | .startAttempt c => c.idempotencyKey
  | .recordAttemptFailure c => c.idempotencyKey
  | .retry c => c.idempotencyKey

/-- The document that is fingerprinted. -/
def Request.document : Request → Json
  | .materialize c => c.request
  | .transition c => c.request
  | .startAttempt c => c.request
  | .recordAttemptFailure c => c.request
  | .retry c => c.request

/-- The aggregate that a request is answered from. -/
def RunStore.source (store : RunStore) : Request → Option RunAggregate
  | .materialize c => some c.aggregate
  | .transition _ | .startAttempt _ | .recordAttemptFailure _ | .retry _ => store.run

section
variable {P : Platform} {store store' : RunStore} {ctx : CommandContext}

@[simp]
theorem request_scope (store : RunStore) (command : RunCommand) :
    (store.request command).scope = command.scope := by
  cases command <;> rfl

@[simp]
theorem request_key (store : RunStore) (command : RunCommand) :
    (store.request command).key = command.key := by
  cases command <;> rfl

variable (P) in
/-- The reference that the key of a request is recorded under. -/
def Request.keyReference (request : Request) : String :=
  if request.scope = .materialize then request.key else P.keyReference request.key

variable (P) in
/-- What a request on a run is recorded under. -/
def Request.recorded (planningRunId : String) (ctx : CommandContext) (request : Request) :
    CommandIdentity :=
  { operation := request.scope.operation
    scope := commandScope P request.scope.operation planningRunId ctx
    keyReference := request.keyReference P
    requestFingerprint := P.fingerprint request.document }

theorem identity_eq {request : Request} {run : PlanningRun} {planningRunId : String}
    (hrun : run.source.planningRunId = planningRunId)
    (hmaterialize : ∀ c, request = .materialize c →
      c.aggregate.document.source.planningRunId = planningRunId) :
    request.identity P run ctx = request.recorded P planningRunId ctx := by
  cases request with
  | materialize c =>
    obtain rfl := hmaterialize c rfl
    rfl
  | transition c | startAttempt c | recordAttemptFailure c | retry c =>
    obtain rfl := hrun
    rfl

/-- One key and scope give one place to look for a record. -/
theorem recorded_congr {planningRunId : String} {ctx ctx' : CommandContext} {r r' : Request}
    (hscope : r.scope = r'.scope) (hkey : r.key = r'.key)
    (hcaller : ctx.scopeBase = ctx'.scopeBase) :
    (r.recorded P planningRunId ctx).scope = (r'.recorded P planningRunId ctx').scope ∧
      (r.recorded P planningRunId ctx).keyReference =
        (r'.recorded P planningRunId ctx').keyReference := by
  have heffective : ctx.effectiveScope P = ctx'.effectiveScope P := by
    rw [CommandContext.effectiveScope, CommandContext.effectiveScope, hcaller]
  simp only [Request.recorded, Request.keyReference, commandScope, hscope, heffective, hkey,
    and_self]

/-! ### Contents -/

theorem RunState.text_inj {a b : RunState} (h : a.text = b.text) : a = b := by
  revert h
  cases a <;> cases b <;> decide

theorem Reference.toJson_inj {a b : Reference} (h : a.toJson = b.toJson) : a = b := by
  cases a
  cases b
  simpa [Reference.toJson] using h

theorem Json.ofOption_inj {α : Type} {f : α → Json} (hinj : ∀ {x y}, f x = f y → x = y)
    (hnull : ∀ x, f x ≠ .null) {a b : Option α} (h : Json.ofOption f a = Json.ofOption f b) :
    a = b := by
  cases a with
  | none =>
    cases b with
    | none => rfl
    | some b => exact absurd h.symm (hnull b)
  | some a =>
    cases b with
    | none => exact absurd h (hnull a)
    | some b => exact congrArg some (hinj h)

theorem Artifacts.toJson_inj {a b : Artifacts} (h : a.toJson = b.toJson) : a = b := by
  have hreference : ∀ {x y : Option Reference},
      Json.ofOption Reference.toJson x = Json.ofOption Reference.toJson y → x = y :=
    Json.ofOption_inj Reference.toJson_inj fun _ => by simp [Reference.toJson]
  simp only [Artifacts.toJson, Artifacts.members, List.map_cons, List.map_nil, Json.obj.injEq,
    List.cons.injEq, Prod.mk.injEq, true_and, and_true] at h
  obtain ⟨h1, h2, h3, h4, h5, h6, h7⟩ := h
  cases a
  cases b
  simp only [Artifacts.mk.injEq]
  exact ⟨hreference h1, hreference h2, hreference h3, hreference h4, hreference h5,
    hreference h6, hreference h7⟩

theorem ExpectedRun.members_inj {a b : ExpectedRun} (h : a.members = b.members) : a = b := by
  simp only [ExpectedRun.members, List.cons.injEq, Prod.mk.injEq, true_and, and_true,
    Json.str.injEq, Json.int.injEq] at h
  obtain ⟨hid, hrevision, hstate, hfingerprint⟩ := h
  have hstate := RunState.text_inj hstate
  cases a
  cases b
  simp only [ExpectedRun.mk.injEq]
  exact ⟨hid, hrevision, hstate, hfingerprint⟩

/-- The two parts of a request that follow its operation. -/
theorem request_members_inj {operation operation' : Json} {a b : ExpectedRun}
    {rest rest' : List (String × Json)}
    (h : Json.obj ([("operation", operation)] ++ a.members ++ rest) =
      Json.obj ([("operation", operation')] ++ b.members ++ rest')) : a = b ∧ rest = rest' := by
  injection h with h
  have hlength : a.members.length = b.members.length := rfl
  rw [List.append_assoc, List.append_assoc, List.singleton_append, List.singleton_append,
    List.cons.injEq] at h
  obtain ⟨hmembers, hrest⟩ := List.append_inj h.2 hlength
  exact ⟨ExpectedRun.members_inj hmembers, hrest⟩

theorem TransitionCommand.request_inj {a b : TransitionCommand} (h : a.request = b.request)
    (hkey : a.idempotencyKey = b.idempotencyKey) : a = b := by
  obtain ⟨hexpected, hrest⟩ := request_members_inj h
  simp only [List.cons.injEq, Prod.mk.injEq, true_and, and_true, Json.str.injEq] at hrest
  obtain ⟨hstate, hreason, hartifacts, hattempt⟩ := hrest
  have hstate := RunState.text_inj hstate
  have hartifacts := Artifacts.toJson_inj hartifacts
  have hattempt : a.attemptId = b.attemptId :=
    Json.ofOption_inj (fun h => by simpa using h) (fun _ => by simp) hattempt
  cases a
  cases b
  simp only [TransitionCommand.mk.injEq]
  exact ⟨hexpected, hstate, hkey, hreason, hartifacts, hattempt⟩

theorem AttemptStartCommand.request_inj {a b : AttemptStartCommand} (h : a.request = b.request)
    (hkey : a.idempotencyKey = b.idempotencyKey) : a = b := by
  obtain ⟨hexpected, hrest⟩ := request_members_inj h
  simp only [List.cons.injEq, Prod.mk.injEq, true_and, and_true, Json.str.injEq,
    Json.int.injEq] at hrest
  obtain ⟨hid, hnumber, hrevision, hreason⟩ := hrest
  cases a
  cases b
  simp only [AttemptStartCommand.mk.injEq]
  exact ⟨hexpected, hid, hnumber, hrevision, hkey, hreason⟩

theorem AttemptFailureCommand.request_inj {a b : AttemptFailureCommand}
    (h : a.request = b.request) (hkey : a.idempotencyKey = b.idempotencyKey)
    (houtcome : a.outcome = b.outcome) : a = b := by
  obtain ⟨hexpected, hrest⟩ := request_members_inj h
  simp only [List.cons.injEq, Prod.mk.injEq, true_and, and_true, Json.str.injEq,
    Json.int.injEq] at hrest
  obtain ⟨hid, hnumber, hrevision, -, hcode, hreason⟩ := hrest
  cases a
  cases b
  simp only [AttemptFailureCommand.mk.injEq]
  exact ⟨hexpected, hid, hnumber, hrevision, houtcome, hcode, hkey, hreason⟩

/-- The window of the new attempt is all that a retry's request leaves out. -/
theorem RetryCommand.request_inj {a b : RetryCommand} (h : a.request = b.request)
    (hkey : a.idempotencyKey = b.idempotencyKey)
    (hwindow : a.availableAtUtc = b.availableAtUtc ∧ a.timeoutAtUtc = b.timeoutAtUtc) :
    a = b := by
  obtain ⟨hexpected, hrest⟩ := request_members_inj h
  simp only [List.cons.injEq, Prod.mk.injEq, true_and, and_true, Json.str.injEq,
    Json.int.injEq] at hrest
  obtain ⟨hid, hnumber, hreason⟩ := hrest
  cases a
  cases b
  simp only [RetryCommand.mk.injEq]
  exact ⟨hexpected, hid, hnumber, hkey, hreason, hwindow.1, hwindow.2⟩

theorem MaterializeCommand.request_inj {a b : MaterializeCommand} (h : a.request = b.request)
    (hkey : a.keyReference = b.keyReference)
    (hidentified : a.aggregate.sourceRecordFingerprint = b.aggregate.sourceRecordFingerprint →
      a.aggregate = b.aggregate) : a = b := by
  simp only [MaterializeCommand.request, Json.obj.injEq, List.cons.injEq, Prod.mk.injEq, true_and,
    and_true, Json.str.injEq] at h
  obtain ⟨-, hfingerprint, -, havailable, htimeout⟩ := h
  have haggregate := hidentified hfingerprint
  cases a
  cases b
  simp only [MaterializeCommand.mk.injEq]
  exact ⟨haggregate, hkey, havailable, htimeout⟩

/-- Requests of one scope and key with one document are one request, up to the window of a
retry and the identity of an ingress record. -/
theorem request_of_document {a b : Request} (hscope : a.scope = b.scope) (hkey : a.key = b.key)
    (h : a.document = b.document)
    (hidentified : ∀ c c', a = .materialize c → b = .materialize c' →
      c.aggregate.sourceRecordFingerprint = c'.aggregate.sourceRecordFingerprint →
      c.aggregate = c'.aggregate)
    (hwindow : ∀ c c', a = .retry c → b = .retry c' → c.request = c'.request →
      c.availableAtUtc = c'.availableAtUtc ∧ c.timeoutAtUtc = c'.timeoutAtUtc) : a = b := by
  cases a with
  | materialize c =>
    cases b with
    | materialize c' =>
      exact congrArg _ (MaterializeCommand.request_inj h hkey (hidentified c c' rfl rfl))
    | transition | startAttempt | recordAttemptFailure | retry => cases hscope
  | transition c =>
    cases b with
    | transition c' => exact congrArg _ (TransitionCommand.request_inj h hkey)
    | materialize | startAttempt | recordAttemptFailure | retry => cases hscope
  | startAttempt c =>
    cases b with
    | startAttempt c' => exact congrArg _ (AttemptStartCommand.request_inj h hkey)
    | materialize | transition | recordAttemptFailure | retry => cases hscope
  | recordAttemptFailure c =>
    cases b with
    | recordAttemptFailure c' =>
      injection hscope with houtcome
      exact congrArg _ (AttemptFailureCommand.request_inj h hkey houtcome)
    | materialize | transition | startAttempt | retry => cases hscope
  | retry c =>
    cases b with
    | retry c' => exact congrArg _ (RetryCommand.request_inj h hkey (hwindow c c' rfl rfl h))
    | materialize | transition | startAttempt | recordAttemptFailure => cases hscope

/-! ### The record of a key -/

theorem result_replayed {record : CommandRecord} {source : RunAggregate} {b : Bool}
    {result : ActionResult} (h : resultFromCommand P record source b = .ok result) (b' : Bool) :
    resultFromCommand P record source b' = .ok { result with replayed := b' } := by
  cases hattempt : record.attempt with
  | none =>
    cases hitem : record.workItem with
    | none =>
      simp only [resultFromCommand, hattempt, hitem, bind_eq_ok, exists_unit_iff] at h ⊢
      obtain ⟨hrun, h⟩ := h
      injection h with h
      subst h
      exact ⟨hrun, rfl⟩
    | some workItem => simp [resultFromCommand, hattempt, hitem, bind_eq_ok] at h
  | some attempt =>
    cases hitem : record.workItem with
    | none =>
      simp only [resultFromCommand, hattempt, hitem, bind_eq_ok, exists_unit_iff] at h ⊢
      obtain ⟨hrun, hverify, h⟩ := h
      injection h with h
      subst h
      exact ⟨hrun, hverify, rfl⟩
    | some workItem =>
      simp only [resultFromCommand, hattempt, hitem, bind_eq_ok, exists_unit_iff] at h ⊢
      obtain ⟨hrun, hverify, hwork, h⟩ := h
      injection h with h
      subst h
      exact ⟨hrun, hverify, hwork, rfl⟩

theorem result_congr {record : CommandRecord} {source source' : RunAggregate} {b : Bool}
    (h : source.columns = source'.columns) :
    resultFromCommand P record source b = resultFromCommand P record source' b := by
  simp only [resultFromCommand, columns_with_document h]

theorem bind_of_ok {ε α β : Type} {x : Except ε α} {f : α → Except ε β} {a : α}
    (h : x = .ok a) : (x >>= f) = f a := by
  rw [h]
  rfl

def keyReused : RunError :=
  ⟨.idempotencyConflict, "idempotency_key", "Idempotency key is bound to different command content"⟩

theorem orExisting_some {record : CommandRecord} {id : CommandIdentity} {source : RunAggregate}
    {next : Except RunError Mutation} :
    orExisting P (some record) id source next =
      if record.requestFingerprint = id.requestFingerprint then
        (resultFromCommand P record source true).map .replay
      else .error keyReused := by
  by_cases hsame : record.requestFingerprint = id.requestFingerprint
  · rw [if_pos hsame]
    simp only [orExisting, existingResult, require, if_pos hsame]
    cases resultFromCommand P record source true <;> rfl
  · rw [if_neg hsame]
    simp only [orExisting, existingResult, require, if_neg hsame]
    rfl

variable {planningRunId : String} {ingress : Ingress P planningRunId}

theorem StoreValid.runId {run : RunAggregate} (h : StoreValid P ingress store)
    (hrun : store.run = some run) : run.document.source.planningRunId = planningRunId := by
  rw [(h.run run hrun).source]
  exact ingress.runId (h.columns run hrun)

/-- A request to materialize is about the run of the ingress records. -/
theorem materialize_runId {command : RunCommand} (hon : OnRun P ingress command)
    {c : MaterializeCommand} (h : store.request command = .materialize c) :
    c.aggregate.document.source.planningRunId = planningRunId := by
  obtain rfl := request_materialize h
  exact ingress.runId hon

/-- A command on a run whose key has a record looks at nothing else. -/
theorem prepare_existing {run : RunAggregate} {command : RunCommand} {record : CommandRecord}
    {source : RunAggregate} (hvalid : StoreValid P ingress store) (hrun : store.run = some run)
    (hon : OnRun P ingress command) (hsource : store.source (store.request command) = some source)
    (hauthorized : authorize P source ctx false = .ok ())
    (houtcome : ∀ c, command = .recordAttemptFailure c →
      c.outcome = .dispatchFailed ∨ c.outcome = .timedOut)
    (hfound : store.getCommand
      ((store.request command).recorded P planningRunId ctx).scope
      ((store.request command).recorded P planningRunId ctx).keyReference = some record) :
    ∃ next, store.prepare P command ctx =
      orExisting P (some record) ((store.request command).recorded P planningRunId ctx) source
        next := by
  have hid : (store.request command).identity P run.document ctx =
      (store.request command).recorded P planningRunId ctx :=
    identity_eq (hvalid.runId hrun) fun c h => materialize_runId hon h
  rw [← hid] at hfound ⊢
  cases command with
  | materialize c =>
    obtain rfl := Option.some.inj hsource
    rw [RunStore.prepare, prepareMaterialize, bind_of_ok (ingress.verified hon),
      bind_of_ok hauthorized, ← hfound]
    exact ⟨_, rfl⟩
  | transition c =>
    obtain rfl := Option.some.inj (hrun.symm.trans hsource)
    have hread := read_succeeds hvalid hrun (authorize_readOnly hauthorized)
    rw [RunStore.prepare, bind_of_ok hread, prepareTransition, bind_of_ok hauthorized, ← hfound]
    exact ⟨_, rfl⟩
  | cancel c =>
    obtain rfl := Option.some.inj (hrun.symm.trans hsource)
    have hread := read_succeeds hvalid hrun (authorize_readOnly hauthorized)
    rw [request_cancel (read_ok hread)] at hfound ⊢
    rw [RunStore.prepare, bind_of_ok hread, prepareTransition, bind_of_ok hauthorized, ← hfound]
    exact ⟨_, rfl⟩
  | startAttempt c =>
    obtain rfl := Option.some.inj (hrun.symm.trans hsource)
    have hread := read_succeeds hvalid hrun (authorize_readOnly hauthorized)
    rw [RunStore.prepare, bind_of_ok hread, prepareAttemptStart, bind_of_ok hauthorized, ← hfound]
    exact ⟨_, rfl⟩
  | recordAttemptFailure c =>
    obtain rfl := Option.some.inj (hrun.symm.trans hsource)
    have hread := read_succeeds hvalid hrun (authorize_readOnly hauthorized)
    have hcheck : require (c.outcome = .dispatchFailed ∨ c.outcome = .timedOut)
        (⟨.unknownOutcome, "outcome",
          "Only dispatch failure or timeout is a P8-04 attempt outcome"⟩ : RunError) = .ok () :=
      (require_eq_ok ..).mpr (houtcome c rfl)
    rw [RunStore.prepare, bind_of_ok hread, prepareAttemptFailure, bind_of_ok hcheck,
      bind_of_ok hauthorized, ← hfound]
    exact ⟨_, rfl⟩
  | retry c =>
    obtain rfl := Option.some.inj (hrun.symm.trans hsource)
    have hread := read_succeeds hvalid hrun (authorize_readOnly hauthorized)
    rw [RunStore.prepare, bind_of_ok hread, prepareRetry, bind_of_ok hauthorized, ← hfound]
    exact ⟨_, rfl⟩

theorem rejecting_ok {α : Type} {check : Except RunError α} {a : α} (h : check = .ok a) :
    rejecting check = .ok a := by
  rw [rejecting, h]
  rfl

theorem Bound.verified {c : TransitionCommand} {model : ReadModel} {latest : RunAttempt}
    {audit : Reference} {t : TransitionMutation}
    (h : Bound P c model.aggregate latest ctx audit t.previousAttempt t.attempt)
    (hlatest : AttemptValid P latest model.aggregate.document.source)
    (hsource : t.aggregate.document.source = model.aggregate.document.source) :
    verifyWrittenAttempt P t = .ok () := by
  unfold verifyWrittenAttempt
  generalize t.previousAttempt = previous at h ⊢
  generalize t.attempt = attempt at h ⊢
  cases h with
  | unbound hid => rfl
  | kept hid hstatus =>
    simp only [Option.filter_some, ne_eq, not_true, decide_false, Bool.false_eq_true, if_false]
    exact verifyAttempt_none.mpr (hsource ▸ hlatest)
  | @advanced status hid hstatus hvalid hnext =>
    have hne : latest ≠ latest.advanced P status ctx.occurredAtUtc audit
        (transitionFailureCode c.toState) c.artifacts := by
      intro hsame
      have hrevision := congrArg RunAttempt.revision hsame
      rw [hnext.revision] at hrevision
      omega
    simp only [Option.filter_some, ne_eq, hne, not_false_iff, decide_true, if_true]
    exact verifyAttempt_some.mpr ⟨hsource ▸ hvalid, hnext⟩

/-- A write that was prepared has nothing to check before it looks for its key. -/
theorem write_existing {read : RunStore} {request : Request} {m : Mutation}
    (h : PreparedBy P read ctx request m) (store : RunStore) :
    ∃ next, store.write P m = store.orReplay m.command next := by
  cases h with
  | materialize hvalid hauthorized hcreated hrecord =>
    have hattempt := verifyAttempt_none.mpr hcreated.valid
    have hitem : verifyWorkItem P _ _ _ true = .ok () :=
      verifyWorkItem_eq_ok.mpr ⟨hcreated.item, fun _ => hcreated.itemAudit⟩
    have hrecord := commandRecord_verified hrecord
    rw [RunStore.write, RunStore.materialize, bind_of_ok (rejecting_ok hattempt),
      bind_of_ok (rejecting_ok hitem), bind_of_ok (rejecting_ok hrecord)]
    exact ⟨_, rfl⟩
  | @transition c model latest t hread hauthorized hprepared =>
    obtain ⟨audit, evidence, hbound, haggregate, hrecord⟩ := hprepared.written
    have hlatest := hread.attemptsValid latest (List.mem_of_getLast? hprepared.seen)
    have hsource : t.aggregate.document.source = model.aggregate.document.source := by
      rw [haggregate]
      rfl
    have hattempt := hbound.verified hlatest hsource
    have hrecord := commandRecord_verified hrecord
    rw [RunStore.write, RunStore.applyTransition, bind_of_ok (rejecting_ok hattempt),
      bind_of_ok (rejecting_ok hrecord)]
    exact ⟨_, rfl⟩
  | attempt hread hauthorized hlatest hopen hvalid hsucceeds hrecord =>
    have hattempt := verifyAttempt_some.mpr ⟨hvalid, hsucceeds⟩
    rw [RunStore.write, RunStore.updateAttempt, bind_of_ok (rejecting_ok hattempt)]
    exact ⟨_, rfl⟩
  | retry hread hauthorized hlatest hretryable hopen hcreated hrecord =>
    have hattempt := verifyAttempt_none.mpr hcreated.valid
    have hitem : verifyWorkItem P _ _ _ true = .ok () :=
      verifyWorkItem_eq_ok.mpr ⟨hcreated.item, fun _ => hcreated.itemAudit⟩
    rw [RunStore.write, RunStore.appendRetry, bind_of_ok (rejecting_ok hattempt),
      bind_of_ok (rejecting_ok hitem)]
    exact ⟨_, rfl⟩

/-- What a write in flight is recorded under, and what it is answered from. -/
theorem sound_recorded {write : PendingWrite} (hvalid : StoreValid P ingress store)
    (h : write.Sound P ingress store) :
    ∃ source, store.source write.request = some source ∧
      source.columns = write.mutation.source.columns ∧
      write.mutation.command.scopeFingerprint =
        (write.request.recorded P planningRunId write.submission.context).scope ∧
      write.mutation.command.keyReference =
        (write.request.recorded P planningRunId write.submission.context).keyReference ∧
      write.mutation.command.requestFingerprint = P.fingerprint write.request.document ∧
      write.request.scope = write.submission.command.scope ∧
      write.request.key = write.submission.command.key := by
  obtain ⟨hon, read, -, hrequest, hprepared, hkept⟩ := h
  have hscope : write.request.scope = write.submission.command.scope := by
    rw [hrequest, request_scope]
  have hkey : write.request.key = write.submission.command.key := by
    rw [hrequest, request_key]
  -- the run that was read still has its source
  have hrow : ∀ {model : ReadModel}, ReadValid P read write.submission.context model →
      ∃ run, store.run = some run ∧ run.columns = model.aggregate.columns ∧
        write.request.identity P model.aggregate.document write.submission.context =
          write.request.recorded P planningRunId write.submission.context := by
    intro model hread
    obtain ⟨run, hrun, hcolumns⟩ := hkept model.aggregate hread.run
    refine ⟨run, hrun, hcolumns, identity_eq ?_ ?_⟩
    · have hinitial : model.aggregate.initial = run.initial :=
        congrArg Prod.fst hcolumns.symm
      rw [hread.valid.source, hinitial]
      exact ingress.runId (hvalid.columns run hrun)
    · intro c hc
      exact materialize_runId hon (hrequest.symm.trans hc)
  generalize write.mutation = m at hprepared ⊢
  generalize hr : write.request = request at hprepared hrequest hscope hkey hrow ⊢
  cases hprepared with
  | @materialize c attempt workItem record audit hrun hauthorized hcreated hrecord =>
    obtain rfl := commandRecord_ok hrecord
    have hid : (Request.materialize c).recorded P planningRunId write.submission.context =
        c.identity P write.submission.context := by
      rw [← materialize_runId hon hrequest.symm]
      rfl
    rw [hid]
    exact ⟨c.aggregate, rfl, rfl, rfl, rfl, rfl, hscope, hkey⟩
  | @transition c model latest t hread hauthorized hprepared =>
    obtain ⟨run, hrun, hcolumns, hid⟩ := hrow hread
    obtain ⟨audit, evidence, -, -, hrecord⟩ := hprepared.written
    have hrecord : t.command = _ := commandRecord_ok hrecord
    rw [← hid]
    refine ⟨run, hrun, ?_, ?_, ?_, ?_, hscope, hkey⟩
    · rw [hcolumns, Mutation.source, hprepared.previous]
    · rw [Mutation.command, hrecord]
      rfl
    · rw [Mutation.command, hrecord]
      rfl
    · rw [Mutation.command, hrecord]
      rfl
  | attempt hread hauthorized hlatest hopen hattempt hsucceeds hrecord hkind =>
    obtain ⟨run, hrun, hcolumns, hid⟩ := hrow hread
    obtain rfl := commandRecord_ok hrecord
    have hsource : store.source request = some run := by
      cases request with
      | materialize c => exact absurd rfl (hkind c)
      | transition | startAttempt | recordAttemptFailure | retry => exact hrun
    have hfingerprint := congrArg CommandIdentity.requestFingerprint hid
    rw [← hid]
    exact ⟨run, hsource, hcolumns, rfl, rfl, hfingerprint, hscope, hkey⟩
  | retry hread hauthorized hlatest hretryable hopen hcreated hrecord =>
    obtain ⟨run, hrun, hcolumns, hid⟩ := hrow hread
    obtain rfl := commandRecord_ok hrecord
    rw [← hid]
    exact ⟨run, hrun, hcolumns, rfl, rfl, rfl, hscope, hkey⟩

theorem orExisting_replay {existing : Option CommandRecord} {id : CommandIdentity}
    {source : RunAggregate} {next : Except RunError Mutation} {result : ActionResult}
    (h : orExisting P existing id source next = .ok (.replay result)) :
    ∃ record, existing = some record ∧ record.requestFingerprint = id.requestFingerprint ∧
      resultFromCommand P record source true = .ok result := by
  cases existing with
  | none =>
    simp only [orExisting, existingResult, bind_eq_ok] at h
    obtain ⟨found, hfound, h⟩ := h
    injection hfound with hfound
    subst hfound
    obtain ⟨m, -, h⟩ := bind_eq_ok.mp h
    cases h
  | some record =>
    simp only [orExisting, existingResult, bind_eq_ok, exists_unit_iff, require_eq_ok] at h
    obtain ⟨found, ⟨hfingerprint, result', hresult, hfound⟩, h⟩ := h
    injection hfound with hfound
    subst hfound
    injection h with h
    injection h with h
    exact ⟨record, rfl, hfingerprint, h ▸ hresult⟩

/-- A replay before the write comes from the record of the key. -/
theorem prepare_replay {command : RunCommand} {result : ActionResult}
    (hvalid : StoreValid P ingress store) (hon : OnRun P ingress command)
    (h : store.prepare P command ctx = .ok (.replay result)) :
    (∃ record source,
      store.getCommand ((store.request command).recorded P planningRunId ctx).scope
        ((store.request command).recorded P planningRunId ctx).keyReference = some record ∧
      record.requestFingerprint = P.fingerprint (store.request command).document ∧
      store.source (store.request command) = some source ∧
      resultFromCommand P record source true = .ok result) ∧
    ∀ c, command = .recordAttemptFailure c →
      c.outcome = .dispatchFailed ∨ c.outcome = .timedOut := by
  have hid : ∀ {model : ReadModel}, ReadValid P store ctx model →
      (store.request command).identity P model.aggregate.document ctx =
        (store.request command).recorded P planningRunId ctx :=
    fun hread => identity_eq (hvalid.runId hread.run) fun c h => materialize_runId hon h
  cases command with
  | materialize c =>
    simp only [RunStore.prepare, prepareMaterialize, bind_eq_ok, exists_unit_iff] at h
    obtain ⟨-, -, h⟩ := h
    obtain ⟨record, hfound, hfingerprint, hresult⟩ := orExisting_replay h
    have hrecorded : (Request.materialize c).recorded P planningRunId ctx = c.identity P ctx := by
      rw [← ingress.runId hon]
      rfl
    refine ⟨⟨record, c.aggregate, ?_, hfingerprint, rfl, hresult⟩, fun _ h => by cases h⟩
    show store.getCommand ((Request.materialize c).recorded P planningRunId ctx).scope
      ((Request.materialize c).recorded P planningRunId ctx).keyReference = some record
    rw [hrecorded]
    exact hfound
  | transition c =>
    obtain ⟨model, hread, h⟩ := bind_eq_ok.mp h
    have hread := read_ok hread
    simp only [prepareTransition, bind_eq_ok, exists_unit_iff] at h
    obtain ⟨record, hfound, hfingerprint, hresult⟩ := orExisting_replay h.2
    rw [← hid hread]
    exact ⟨⟨record, model.aggregate, hfound, hfingerprint, hread.run, hresult⟩,
      fun _ h => by cases h⟩
  | cancel c =>
    obtain ⟨model, hread, h⟩ := bind_eq_ok.mp h
    have hread := read_ok hread
    simp only [prepareTransition, bind_eq_ok, exists_unit_iff] at h
    obtain ⟨record, hfound, hfingerprint, hresult⟩ := orExisting_replay h.2
    rw [← hid hread, request_cancel hread]
    exact ⟨⟨record, model.aggregate, hfound, hfingerprint, hread.run, hresult⟩,
      fun _ h => by cases h⟩
  | startAttempt c =>
    obtain ⟨model, hread, h⟩ := bind_eq_ok.mp h
    have hread := read_ok hread
    simp only [prepareAttemptStart, bind_eq_ok, exists_unit_iff] at h
    obtain ⟨record, hfound, hfingerprint, hresult⟩ := orExisting_replay h.2
    rw [← hid hread]
    exact ⟨⟨record, model.aggregate, hfound, hfingerprint, hread.run, hresult⟩,
      fun _ h => by cases h⟩
  | recordAttemptFailure c =>
    obtain ⟨model, hread, h⟩ := bind_eq_ok.mp h
    have hread := read_ok hread
    simp only [prepareAttemptFailure, bind_eq_ok, exists_unit_iff, require_eq_ok] at h
    obtain ⟨houtcome, -, h⟩ := h
    obtain ⟨record, hfound, hfingerprint, hresult⟩ := orExisting_replay h
    rw [← hid hread]
    refine ⟨⟨record, model.aggregate, hfound, hfingerprint, hread.run, hresult⟩, ?_⟩
    intro c' hc
    injection hc with hc
    exact hc ▸ houtcome
  | retry c =>
    obtain ⟨model, hread, h⟩ := bind_eq_ok.mp h
    have hread := read_ok hread
    simp only [prepareRetry, bind_eq_ok, exists_unit_iff] at h
    obtain ⟨record, hfound, hfingerprint, hresult⟩ := orExisting_replay h.2
    rw [← hid hread]
    exact ⟨⟨record, model.aggregate, hfound, hfingerprint, hread.run, hresult⟩,
      fun _ h => by cases h⟩

/-! ### Successes and their records -/

variable (P ingress) in
/-- A success whose key has the record it was answered from. -/
structure Recorded (store : RunStore) (success : Success) : Prop where
  on : OnRun P ingress success.submission.command
  asked : ∃ read : RunStore, success.request = read.request success.submission.command
  accepted : ∀ c, success.request = .recordAttemptFailure c →
    c.outcome = .dispatchFailed ∨ c.outcome = .timedOut
  record : ∃ record source,
    store.getCommand (success.request.recorded P planningRunId success.submission.context).scope
      (success.request.recorded P planningRunId success.submission.context).keyReference =
        some record ∧
    record.requestFingerprint = P.fingerprint success.request.document ∧
    store.source success.request = some source ∧
    resultFromCommand P record source true = .ok { success.result with replayed := true }

theorem source_kept {request : Request} {source : RunAggregate}
    (h : store.source request = some source) (hkept : ColumnsKept store store') :
    ∃ source', store'.source request = some source' ∧ source'.columns = source.columns := by
  cases request with
  | materialize c => exact ⟨source, h, rfl⟩
  | transition | startAttempt | recordAttemptFailure | retry => exact hkept source h

/-- Records stay where they are found. -/
def RecordsKept (store store' : RunStore) : Prop :=
  ∀ scope keyReference record, store.getCommand scope keyReference = some record →
    store'.getCommand scope keyReference = some record

theorem Recorded.mono {success : Success} (h : Recorded P ingress store success)
    (hrecords : RecordsKept store store') (hkept : ColumnsKept store store') :
    Recorded P ingress store' success := by
  obtain ⟨record, source, hfound, hfingerprint, hsource, hresult⟩ := h.record
  obtain ⟨source', hsource', hcolumns⟩ := source_kept hsource hkept
  exact
    { h with
      record := ⟨record, source', hrecords _ _ _ hfound, hfingerprint, hsource',
        (result_congr hcolumns).trans hresult⟩ }

theorem wrote_commands {m : Mutation} (h : store.Wrote m store') :
    store'.commands = store.commands ++ [m.command] := by
  cases h <;> rfl

theorem wrote_records {m : Mutation} (h : store.Wrote m store')
    (hnone : store.getCommand m.command.scopeFingerprint m.command.keyReference = none) :
    RecordsKept store store' ∧
      store'.getCommand m.command.scopeFingerprint m.command.keyReference = some m.command := by
  refine ⟨?_, ?_⟩
  · intro scope keyReference record hfound
    rw [RunStore.getCommand, wrote_commands h, List.find?_append,
      show store.commands.find? _ = some record from hfound]
    rfl
  · rw [RunStore.getCommand, wrote_commands h, List.find?_append,
      show store.commands.find? _ = none from hnone]
    simp

/-- An answer from the record of a write's key. -/
theorem sound_success {write : PendingWrite} {record : CommandRecord} {result : ActionResult}
    {b : Bool} (hvalid : StoreValid P ingress store) (hsound : write.Sound P ingress store)
    (hfound : store.getCommand write.mutation.command.scopeFingerprint
      write.mutation.command.keyReference = some record)
    (hfingerprint : record.requestFingerprint = write.mutation.command.requestFingerprint)
    (hresult : resultFromCommand P record write.mutation.source b = .ok result) :
    Recorded P ingress store ⟨write.submission, write.request, result⟩ := by
  obtain ⟨source, hsource, hcolumns, hscope, hkey, hrequest, -, -⟩ :=
    sound_recorded hvalid hsound
  obtain ⟨hon, read, -, hasked, hprepared, -⟩ := hsound
  rw [hscope, hkey] at hfound
  refine ⟨hon, ⟨read, hasked⟩, ?_, record, source, hfound, hfingerprint.trans hrequest, hsource,
    (result_congr hcolumns).trans (result_replayed hresult true)⟩
  intro c hc
  change write.request = _ at hc
  rw [hc] at hprepared
  generalize write.mutation = m at hprepared
  cases hprepared with
  | attempt hread hauthorized hlatest hopen hattempt hsucceeds hrecord hkind houtcome =>
    exact houtcome c rfl

theorem raceResult_ok {command : CommandRecord} {missing : RunError} {found : RepositoryWrite}
    (h : store.raceResult command missing = .ok found) :
    store.getCommand command.scopeFingerprint command.keyReference = some found.command ∧
      found.command.requestFingerprint = command.requestFingerprint := by
  unfold RunStore.raceResult at h
  cases hfind : store.getCommand command.scopeFingerprint command.keyReference with
  | none => simp [hfind] at h
  | some existing =>
    simp only [hfind, bind_eq_ok, exists_unit_iff, require_eq_ok] at h
    obtain ⟨hsame, h⟩ := h
    injection h with h
    subst h
    exact ⟨rfl, hsame⟩

theorem answer_recorded {s : RunSystem} {submission : Submission} {request : Request}
    {answer : Except RunError ActionResult}
    (h : ∀ success ∈ s.succeeded, Recorded P ingress s.store success)
    (hanswer : ∀ result, answer = .ok result →
      Recorded P ingress s.store ⟨submission, request, result⟩) :
    ∀ success ∈ (s.answer submission request answer).succeeded,
      Recorded P ingress (s.answer submission request answer).store success := by
  cases answer with
  | error e => exact h
  | ok result =>
    intro success hmem
    rcases List.mem_cons.mp hmem with rfl | hmem
    · exact hanswer result rfl
    · exact h success hmem

/-- One step keeps every success recorded. -/
theorem step_recorded {s s' : RunSystem} {event : RunEvent} (hinv : SystemValid P ingress s)
    (h : ∀ success ∈ s.succeeded, Recorded P ingress s.store success)
    (hstep : RunStep P ingress s event s') :
    ∀ success ∈ s'.succeeded, Recorded P ingress s'.store success := by
  cases hstep with
  | read | refused | rejectedWrite | lost | racedAway => exact h
  | @replayed submission result hon hprepared =>
    apply answer_recorded h
    intro result' hresult
    injection hresult with hresult
    subst hresult
    obtain ⟨⟨record, source, hfound, hfingerprint, hsource, hresult⟩, houtcome⟩ :=
      prepare_replay hinv.store hon hprepared
    refine ⟨hon, ⟨s.store, rfl⟩, ?_, record, source, hfound, hfingerprint, hsource,
      result_replayed hresult true⟩
    intro c hc
    cases hcommand : submission.command with
    | recordAttemptFailure c' =>
      have hc : s.store.request submission.command = .recordAttemptFailure c := hc
      rw [hcommand] at hc
      injection hc with hc
      exact hc ▸ houtcome c' hcommand
    | materialize | transition | cancel | startAttempt | retry =>
      have hc : s.store.request submission.command = .recordAttemptFailure c := hc
      rw [hcommand] at hc
      cases hc
  | @wrote write store command hwrite hlost hwritten =>
    obtain ⟨hreplayed, -⟩ | ⟨hcommand, hnone, hwrote⟩ := write_ok hwritten
    · cases hreplayed
    · injection hcommand with hcommand
      subst hcommand
      obtain ⟨hrecords, hfound⟩ := wrote_records hwrote hnone
      have hsound := hinv.pending write hwrite
      obtain ⟨hvalid, hkept⟩ := wrote_valid hinv.store hsound hnone hwrote
      apply answer_recorded
      · exact fun success hmem => (h success hmem).mono hrecords hkept
      · intro result hresult
        exact sound_success hvalid (hsound.mono hkept) hfound rfl hresult
  | @replayedWrite write store command hwrite hlost hwritten =>
    obtain ⟨-, -, hfound, hfingerprint⟩ | ⟨hfresh, -⟩ := write_ok hwritten
    · apply answer_recorded (show ∀ success ∈ (s.drop write).succeeded, _ from h)
      intro result hresult
      exact sound_success hinv.store (hinv.pending write hwrite) hfound hfingerprint hresult
    · cases hfresh
  | @raced write error found hwrite hlost hraced =>
    obtain ⟨hfound, hfingerprint⟩ := raceResult_ok hraced
    apply answer_recorded (show ∀ success ∈ (s.drop write).succeeded, _ from h)
    intro result hresult
    exact sound_success hinv.store (hinv.pending write hwrite) hfound hfingerprint hresult

theorem reach_recorded {allowed : RunSystem → RunEvent → Prop} {s : RunSystem}
    (h : Reach (RunStep P ingress) allowed .initial s) :
    SystemValid P ingress s ∧ ∀ success ∈ s.succeeded, Recorded P ingress s.store success := by
  refine h.invariant (fun s => SystemValid P ingress s ∧
    ∀ success ∈ s.succeeded, Recorded P ingress s.store success) ?_ ?_
  · intro s s' event hinv _ hstep
    exact ⟨(step_valid hinv.1 hstep).1, step_recorded hinv.1 hinv.2 hstep⟩
  · exact ⟨⟨empty_valid, by simp [RunSystem.initial]⟩, by simp [RunSystem.initial]⟩

/-! ### Answers under a recorded key -/

/-- The submission that an event answers, what it asked for and its answer. -/
def RunEvent.finishes : RunEvent → Option (Submission × Request × Except RunError ActionResult)
  | .read _ | .lost _ => none
  | .wrote write answer => some (write.submission, write.request, answer)
  | .answered submission request answer => some (submission, request, answer)

variable (P) in
/-- What a record answers: its result, or that its key is bound to other content. -/
def AnsweredFrom (record : CommandRecord) (source : RunAggregate) (request : Request)
    (answer : Except RunError ActionResult) : Prop :=
  (record.requestFingerprint = P.fingerprint request.document →
    answer = resultFromCommand P record source true) ∧
  (record.requestFingerprint ≠ P.fingerprint request.document →
    ∃ error, answer = .error error ∧ error.code = .idempotencyConflict)

theorem orReplay_existing {command record : CommandRecord} {next : Except WriteFailure RunStore}
    (hfound : store.getCommand command.scopeFingerprint command.keyReference = some record) :
    (record.requestFingerprint = command.requestFingerprint ∧
      store.orReplay command next = .ok (store, ⟨record, true⟩)) ∨
    (record.requestFingerprint ≠ command.requestFingerprint ∧
      ∃ error, error.code = .idempotencyConflict ∧
        store.orReplay command next = .error (.rejected error)) := by
  unfold RunStore.orReplay
  rw [hfound]
  by_cases hsame : record.requestFingerprint = command.requestFingerprint
  · refine .inl ⟨hsame, ?_⟩
    simp only [require, if_pos hsame]
    rfl
  · simp only [require, if_neg hsame]
    exact .inr ⟨hsame, _, rfl, rfl⟩

theorem raceResult_existing {command record : CommandRecord} {missing : RunError}
    (hfound : store.getCommand command.scopeFingerprint command.keyReference = some record) :
    (record.requestFingerprint = command.requestFingerprint ∧
      store.raceResult command missing = .ok ⟨record, true⟩) ∨
    (record.requestFingerprint ≠ command.requestFingerprint ∧
      ∃ error, error.code = .idempotencyConflict ∧
        store.raceResult command missing = .error error) := by
  unfold RunStore.raceResult
  rw [hfound]
  by_cases hsame : record.requestFingerprint = command.requestFingerprint
  · refine .inl ⟨hsame, ?_⟩
    simp only [require, if_pos hsame]
    rfl
  · simp only [require, if_neg hsame]
    exact .inr ⟨hsame, _, rfl, rfl⟩

/-- A submission that reads while its key has a record is answered from it. -/
theorem read_answer {run : RunAggregate} {submission : Submission} {record : CommandRecord}
    (hvalid : StoreValid P ingress store) (hrun : store.run = some run)
    (hon : OnRun P ingress submission.command)
    (hfound : store.getCommand
      ((store.request submission.command).recorded P planningRunId submission.context).scope
      ((store.request submission.command).recorded P planningRunId
        submission.context).keyReference = some record)
    (hpermitted : ∀ source ∈ store.source (store.request submission.command),
      authorize P source submission.context false = .ok ())
    (houtcome : ∀ c, store.request submission.command = .recordAttemptFailure c →
      c.outcome = .dispatchFailed ∨ c.outcome = .timedOut) :
    ∃ source, store.source (store.request submission.command) = some source ∧
      store.prepare P submission.command submission.context =
        if record.requestFingerprint =
            P.fingerprint (store.request submission.command).document then
          (resultFromCommand P record source true).map .replay
        else .error keyReused := by
  obtain ⟨source, hsource⟩ :
      ∃ source, store.source (store.request submission.command) = some source := by
    cases store.request submission.command with
    | materialize c => exact ⟨c.aggregate, rfl⟩
    | transition | startAttempt | recordAttemptFailure | retry => exact ⟨run, hrun⟩
  refine ⟨source, hsource, ?_⟩
  obtain ⟨next, hnext⟩ := prepare_existing hvalid hrun hon hsource (hpermitted source hsource)
    (fun c hc => houtcome c (by rw [hc]; rfl)) hfound
  rw [hnext, orExisting_some]
  rfl

/-- **A recorded key answers.** Whatever a submission does next, if it is answered while its key
has a record, the record answers it and the rows stay as they are. -/
theorem step_answer {s s' : RunSystem} {event : RunEvent} {submission : Submission}
    {request : Request} {answer : Except RunError ActionResult} {record : CommandRecord}
    (hinv : SystemValid P ingress s) (hstep : RunStep P ingress s event s')
    (hfinishes : event.finishes = some (submission, request, answer))
    (hfound : s.store.getCommand (request.recorded P planningRunId submission.context).scope
      (request.recorded P planningRunId submission.context).keyReference = some record)
    (hpresent : s.store.run ≠ none)
    (hpermitted : ∀ source ∈ s.store.source request,
      authorize P source submission.context false = .ok ())
    (houtcome : ∀ c, request = .recordAttemptFailure c →
      c.outcome = .dispatchFailed ∨ c.outcome = .timedOut) :
    s'.store = s.store ∧ ∃ source, s.store.source request = some source ∧
      AnsweredFrom P record source request answer := by
  obtain ⟨run, hrun⟩ := Option.ne_none_iff_exists'.mp hpresent
  cases hstep with
  | read | lost => cases hfinishes
  | @replayed sub result hon hprepared =>
    cases hfinishes
    obtain ⟨source, hsource, hread⟩ := read_answer hinv.store hrun hon hfound hpermitted houtcome
    refine ⟨rfl, source, hsource, ?_, ?_⟩
    · intro hsame
      rw [hprepared, if_pos hsame] at hread
      cases hresult : resultFromCommand P record source true with
      | error e => simp [hresult, Except.map] at hread
      | ok result' =>
        simp only [hresult, Except.map, Except.ok.injEq, Prepared.replay.injEq] at hread
        rw [hread]
    · intro hother
      rw [hprepared, if_neg hother] at hread
      cases hread
  | @refused sub error hon hprepared =>
    cases hfinishes
    obtain ⟨source, hsource, hread⟩ := read_answer hinv.store hrun hon hfound hpermitted houtcome
    refine ⟨rfl, source, hsource, ?_, ?_⟩
    · intro hsame
      rw [hprepared, if_pos hsame] at hread
      cases hresult : resultFromCommand P record source true with
      | error e =>
        simp only [hresult, Except.map, Except.error.injEq] at hread
        rw [hread]
      | ok result => simp [hresult, Except.map] at hread
    · intro hother
      rw [hprepared, if_neg hother] at hread
      injection hread with hread
      exact ⟨error, rfl, hread ▸ rfl⟩
  | @wrote write store command hwrite hlost hwritten =>
    cases hfinishes
    obtain ⟨source, -, -, hscope, hkey, -⟩ :=
      sound_recorded hinv.store (hinv.pending write hwrite)
    obtain ⟨hreplayed, -⟩ | ⟨-, hnone, -⟩ := write_ok hwritten
    · cases hreplayed
    · rw [hscope, hkey, hfound] at hnone
      cases hnone
  | @replayedWrite write store command hwrite hlost hwritten =>
    cases hfinishes
    obtain ⟨source, hsource, hcolumns, hscope, hkey, hrequest, -⟩ :=
      sound_recorded hinv.store (hinv.pending write hwrite)
    obtain ⟨-, -, hcommand, hfingerprint⟩ | ⟨hfresh, -⟩ := write_ok hwritten
    · rw [hscope, hkey, hfound] at hcommand
      obtain rfl := Option.some.inj hcommand
      refine ⟨RunSystem.answer_store .., source, hsource, ?_, ?_⟩
      · intro _
        exact (result_congr hcolumns).symm
      · intro hother
        exact absurd (hfingerprint.trans hrequest) hother
    · cases hfresh
  | @rejectedWrite write error hwrite hlost hwritten =>
    cases hfinishes
    have hsound := hinv.pending write hwrite
    obtain ⟨source, hsource, hcolumns, hscope, hkey, hrequest, -⟩ :=
      sound_recorded hinv.store hsound
    obtain ⟨-, read, -, -, hprepared, -⟩ := hsound
    obtain ⟨next, hnext⟩ := write_existing hprepared s.store
    rw [← hscope, ← hkey] at hfound
    rw [hnext] at hwritten
    obtain ⟨-, hreplayed⟩ | ⟨hother, raised, hcode, hraised⟩ := @orReplay_existing _ _ _ next hfound
    · rw [hreplayed] at hwritten
      cases hwritten
    · rw [hraised] at hwritten
      injection hwritten with hwritten
      injection hwritten with hwritten
      rw [hrequest] at hother
      exact ⟨rfl, source, hsource, fun hsame => absurd hsame hother,
        fun _ => ⟨error, rfl, hwritten ▸ hcode⟩⟩
  | @raced write error found hwrite hlost hraced =>
    cases hfinishes
    obtain ⟨source, hsource, hcolumns, hscope, hkey, hrequest, -⟩ :=
      sound_recorded hinv.store (hinv.pending write hwrite)
    rw [← hscope, ← hkey] at hfound
    obtain ⟨hsame, hresult⟩ | ⟨-, raised, -, hraised⟩ := @raceResult_existing _ _ _ error hfound
    · rw [hresult] at hraced
      injection hraced with hraced
      subst hraced
      refine ⟨RunSystem.answer_store .., source, hsource, ?_, ?_⟩
      · intro _
        exact (result_congr hcolumns).symm
      · intro hother
        exact absurd (hsame.trans hrequest) hother
    · rw [hraised] at hraced
      cases hraced
  | @racedAway write error raised hwrite hlost hraced =>
    cases hfinishes
    obtain ⟨source, hsource, hcolumns, hscope, hkey, hrequest, -⟩ :=
      sound_recorded hinv.store (hinv.pending write hwrite)
    rw [← hscope, ← hkey] at hfound
    obtain ⟨-, hresult⟩ | ⟨hother, raised', hcode, hraised⟩ :=
      @raceResult_existing _ _ _ error hfound
    · rw [hresult] at hraced
      cases hraced
    · rw [hraised] at hraced
      injection hraced with hraced
      rw [hrequest] at hother
      exact ⟨rfl, source, hsource, fun hsame => absurd hsame hother,
        fun _ => ⟨raised, rfl, hraced ▸ hcode⟩⟩

/-! ### Repeated submissions -/

/-- What an event answers was asked for by a submission on the run. -/
theorem finishes_asked {s s' : RunSystem} {event : RunEvent} {submission : Submission}
    {request : Request} {answer : Except RunError ActionResult} (hinv : SystemValid P ingress s)
    (hstep : RunStep P ingress s event s')
    (hfinishes : event.finishes = some (submission, request, answer)) :
    OnRun P ingress submission.command ∧
      ∃ read : RunStore, request = read.request submission.command := by
  have hpending : ∀ write ∈ s.pending, OnRun P ingress write.submission.command ∧
      ∃ read : RunStore, write.request = read.request write.submission.command := by
    intro write hwrite
    obtain ⟨hon, read, -, hrequest, -⟩ := hinv.pending write hwrite
    exact ⟨hon, read, hrequest⟩
  cases hstep with
  | read | lost => cases hfinishes
  | replayed hon | refused hon =>
    cases hfinishes
    exact ⟨hon, s.store, rfl⟩
  | wrote hwrite | replayedWrite hwrite | rejectedWrite hwrite | raced hwrite | racedAway hwrite =>
    cases hfinishes
    exact hpending _ hwrite

variable (P) in
/-- A later submission under the key of a success: what it asks for is told apart from what was
recorded exactly by its content. -/
structure Steady (prior : Success) (submission : Submission) (request : Request) : Prop where
  -- a repeated `cancel` finds the artifacts and the latest attempt that the recorded one found
  resolved : prior.submission.command = submission.command → prior.request = request
  -- retries that agree in everything else agree in the window of the new attempt
  window : ∀ c c', prior.request = .retry c → request = .retry c' → c.request = c'.request →
    c.availableAtUtc = c'.availableAtUtc ∧ c.timeoutAtUtc = c'.timeoutAtUtc
  -- the two request documents do not collide
  digest : P.fingerprint prior.request.document = P.fingerprint request.document →
    prior.request.document = request.document

/-- What an event does under the key of a success that was there before. -/
structure Idempotent (prior : Success) (submission : Submission) (request : Request)
    (answer : Except RunError ActionResult) : Prop where
  identical : prior.submission.command = submission.command →
    answer = .ok { prior.result with replayed := true }
  different : prior.submission.command ≠ submission.command → prior.request ≠ request →
    ∃ error, answer = .error error ∧ error.code = .idempotencyConflict

theorem Recorded.idempotent {s s' : RunSystem} {event : RunEvent} {submission : Submission}
    {request : Request} {answer : Except RunError ActionResult} {prior : Success}
    (hinv : SystemValid P ingress s) (hprior : Recorded P ingress s.store prior)
    (hstep : RunStep P ingress s event s')
    (hfinishes : event.finishes = some (submission, request, answer))
    (hkey : SameKey prior.submission submission)
    (hpermitted : ∀ source ∈ s.store.source request,
      authorize P source submission.context false = .ok ())
    (hsteady : Steady P prior submission request) :
    s'.store = s.store ∧ Idempotent prior submission request answer := by
  obtain ⟨hon, read, hasked⟩ := finishes_asked hinv hstep hfinishes
  obtain ⟨read', hasked'⟩ := hprior.asked
  obtain ⟨record, source, hfound, hfingerprint, hsource, hresult⟩ := hprior.record
  have hscope : prior.request.scope = request.scope := by
    rw [hasked, hasked', request_scope, request_scope, hkey.scope]
  have hsame : prior.request.key = request.key := by
    rw [hasked, hasked', request_key, request_key, hkey.key]
  obtain ⟨hplace, hreference⟩ :=
    @recorded_congr P planningRunId _ _ _ _ hscope hsame hkey.caller
  rw [hplace, hreference] at hfound
  have hpresent : s.store.run ≠ none := by
    intro hnone
    rw [hinv.store.absent hnone] at hfound
    cases hfound
  have houtcome : ∀ c, request = .recordAttemptFailure c →
      c.outcome = .dispatchFailed ∨ c.outcome = .timedOut := by
    intro c hc
    rw [hc] at hscope
    cases hrequest : prior.request with
    | recordAttemptFailure c' =>
      rw [hrequest] at hscope
      injection hscope with hscope
      exact hscope ▸ hprior.accepted c' hrequest
    | materialize | transition | startAttempt | retry =>
      rw [hrequest] at hscope
      cases hscope
  obtain ⟨hstore, source', hsource', hequal, hdiffer⟩ :=
    step_answer hinv hstep hfinishes hfound hpresent hpermitted houtcome
  refine ⟨hstore, ?_, ?_⟩
  · intro hcommand
    have hrequest := hsteady.resolved hcommand
    subst hrequest
    obtain rfl := Option.some.inj (hsource.symm.trans hsource')
    rw [hequal hfingerprint, hresult]
  · intro _ hrequest
    apply hdiffer
    intro hcollide
    apply hrequest
    apply request_of_document hscope hsame (hsteady.digest (hfingerprint.symm.trans hcollide))
      _ hsteady.window
    intro c c' hc hc' hrecord
    have hprior : ingress.aggregates c.aggregate := by
      have hcommand := request_materialize (hasked'.symm.trans hc)
      have hon := hprior.on
      rwa [hcommand] at hon
    have hlater : ingress.aggregates c'.aggregate := by
      have hcommand := request_materialize (hasked.symm.trans hc')
      rwa [hcommand] at hon
    exact ingress.identified hprior hlater hrecord

/-- What a step does to the rows: nothing, or one effect under a key that had no record. -/
theorem step_effect {s s' : RunSystem} {event : RunEvent} (hinv : SystemValid P ingress s)
    (hstep : RunStep P ingress s event s') :
    s'.store = s.store ∨ ∃ write answer, event = .wrote write answer ∧
      s.store.getCommand
        (write.request.recorded P planningRunId write.submission.context).scope
        (write.request.recorded P planningRunId write.submission.context).keyReference = none ∧
      s'.store.getCommand
        (write.request.recorded P planningRunId write.submission.context).scope
        (write.request.recorded P planningRunId write.submission.context).keyReference =
          some write.mutation.command ∧
      s'.store.commands = s.store.commands ++ [write.mutation.command] := by
  cases hstep with
  | read | replayed | refused | rejectedWrite | lost | racedAway => exact .inl rfl
  | replayedWrite | raced => exact .inl (RunSystem.answer_store ..)
  | @wrote write store command hwrite hlost hwritten =>
    obtain ⟨hreplayed, -⟩ | ⟨-, hnone, hwrote⟩ := write_ok hwritten
    · cases hreplayed
    · obtain ⟨source, -, -, hscope, hkey, -⟩ :=
        sound_recorded hinv.store (hinv.pending write hwrite)
      obtain ⟨-, hfound⟩ := wrote_records hwrote hnone
      rw [hscope, hkey] at hnone hfound
      rw [RunSystem.answer_store]
      exact .inr ⟨write, _, rfl, hnone, hfound, wrote_commands hwrote⟩

/-- **Commands are idempotent.** In every state that is reached, a step changes the rows under a
key without a record only, and leaves that record; once a submission has succeeded, a later one
under its key and scope is answered with the recorded result if it is identical and with a
conflict if its content differs, and changes nothing. -/
theorem command_idempotency {s : RunSystem}
    (h : Reach (RunStep P ingress) (fun _ _ => True) .initial s) :
    ∀ event s', RunStep P ingress s event s' →
      (s'.store = s.store ∨ ∃ write answer, event = .wrote write answer ∧
        s.store.getCommand
          (write.request.recorded P planningRunId write.submission.context).scope
          (write.request.recorded P planningRunId write.submission.context).keyReference = none ∧
        s'.store.getCommand
          (write.request.recorded P planningRunId write.submission.context).scope
          (write.request.recorded P planningRunId write.submission.context).keyReference =
            some write.mutation.command ∧
        s'.store.commands = s.store.commands ++ [write.mutation.command]) ∧
      ∀ submission request answer, event.finishes = some (submission, request, answer) →
        ∀ prior ∈ s.succeeded, SameKey prior.submission submission →
          (∀ source ∈ s.store.source request,
            authorize P source submission.context false = .ok ()) →
          Steady P prior submission request →
          s'.store = s.store ∧ Idempotent prior submission request answer := by
  intro event s' hstep
  obtain ⟨hinv, hrecorded⟩ := reach_recorded h
  refine ⟨step_effect hinv hstep, ?_⟩
  intro submission request answer hfinishes prior hprior hkey hpermitted hsteady
  exact (hrecorded prior hprior).idempotent hinv hstep hfinishes hkey hpermitted hsteady

/-- A retry with the key and the request document of one that has succeeded is answered with its
result. -/
theorem retry_answered {s : RunSystem} {run : RunAggregate} {ctx : CommandContext}
    {c c' : RetryCommand} {result : ActionResult}
    (h : Reach (RunStep P ingress) (fun _ _ => True) .initial s)
    (hprior : ⟨⟨.retry c, ctx⟩, .retry c, result⟩ ∈ s.succeeded) (hrun : s.store.run = some run)
    (hauthorized : authorize P run ctx false = .ok ())
    (hon : c'.expected.planningRunId = planningRunId)
    (hkey : c.idempotencyKey = c'.idempotencyKey) (hrequest : c.request = c'.request) :
    RunStep P ingress s
      (.answered ⟨.retry c', ctx⟩ (.retry c') (.ok { result with replayed := true }))
      (s.answer ⟨.retry c', ctx⟩ (.retry c') (.ok { result with replayed := true })) := by
  obtain ⟨hinv, hrecorded⟩ := reach_recorded h
  obtain ⟨record, source, hfound, hfingerprint, hsource, hresult⟩ := (hrecorded _ hprior).record
  have hplaces : Request.scope (.retry c) = Request.scope (.retry c') := rfl
  obtain ⟨hplace, hreference⟩ :=
    @recorded_congr P planningRunId ctx ctx (.retry c) (.retry c') hplaces hkey rfl
  have hfound : s.store.getCommand (Request.recorded P planningRunId ctx (.retry c')).scope
      (Request.recorded P planningRunId ctx (.retry c')).keyReference = some record := by
    rwa [← hplace, ← hreference]
  have hpermitted : ∀ source ∈ s.store.source (.retry c'),
      authorize P source ctx false = .ok () := by
    intro source hsource
    have hsource : s.store.run = some source := hsource
    rw [hrun] at hsource
    exact Option.some.inj hsource ▸ hauthorized
  have hon : OnRun P ingress (.retry c') := hon
  obtain ⟨source', hsource', hread⟩ := @read_answer _ _ _ _ _ ⟨.retry c', ctx⟩ _ hinv.store hrun hon
    hfound hpermitted (fun c h => by cases h)
  have hsame : source = source' := Option.some.inj (hsource.symm.trans hsource')
  have hdocument : record.requestFingerprint =
      P.fingerprint (Request.document (.retry c')) := by
    rw [hfingerprint]
    exact congrArg P.fingerprint hrequest
  have hread := hread.trans (if_pos hdocument)
  rw [← hsame, hresult] at hread
  exact @RunStep.replayed _ _ _ s ⟨.retry c', ctx⟩ _ hon hread

end

/-- A repeated materialization of the first run is answered with the recorded result. -/
theorem command_idempotency_first :
    ∃ s event s', Reach (RunStep firstPlatform firstIngress) (fun _ _ => True) .initial s ∧
      RunStep firstPlatform firstIngress s event s' ∧ firstSuccess ∈ s.succeeded ∧
      ∃ answer, event = .answered firstSubmission (.materialize firstMaterialize) answer ∧
        s'.store = s.store ∧ answer = .ok { firstSuccess.result with replayed := true } := by
  obtain ⟨succeeded, hreach, hmem⟩ := @first_reached (fun _ _ => True) trivial (fun _ => trivial)
  have hrecorded := (reach_recorded hreach).2 firstSuccess hmem
  have hrun : firstStore.run = some firstAggregate := rfl
  have hon : OnRun firstPlatform firstIngress firstSubmission.command := hrecorded.on
  have hpermitted : ∀ source ∈ firstStore.source (.materialize firstMaterialize),
      authorize firstPlatform source firstContext false = .ok () := by
    intro source hsource
    obtain rfl := Option.some.inj hsource
    exact firstContext_authorized
  have hsteady : Steady firstPlatform firstSuccess firstSubmission
      (.materialize firstMaterialize) :=
    { resolved := fun _ => rfl
      window := by
        intro c c' h
        cases h
      digest := fun _ => rfl }
  obtain ⟨record, source, hfound, hfingerprint, hsource, hresult⟩ := hrecorded.record
  obtain ⟨source', hsource', hread⟩ := read_answer (reach_valid hreach).store hrun hon hfound
    hpermitted (fun c h => by cases h)
  obtain rfl := Option.some.inj (hsource.symm.trans hsource')
  have hread := hread.trans (if_pos hfingerprint)
  rw [hresult] at hread
  have hstep := @RunStep.replayed _ _ firstIngress ⟨firstStore, [], succeeded⟩ firstSubmission _
    hon hread
  obtain ⟨hstore, hanswer⟩ := (command_idempotency hreach _ _ hstep).2 _ _ _ rfl firstSuccess
    hmem ⟨rfl, rfl, rfl⟩ hpermitted hsteady
  exact ⟨_, _, _, hreach, hstep, hmem, _, rfl, hstore, hanswer.identical rfl⟩

/-! ### A retry whose window is not compared

The latest attempt of the first run has timed out and is retried. A second retry under the same
key asks for another window and is answered as a repetition. -/

def retryCommand (timeoutAtUtc : String) : RetryCommand :=
  { expected := firstExpected
    failedAttemptId := timeoutCommand.attemptId
    failedAttemptNumber := 1
    idempotencyKey := "retry-1"
    reason := "Retry the attempt."
    availableAtUtc := "2026-01-01T00:00:00Z"
    timeoutAtUtc }

def retryIdentity : CommandIdentity :=
  (retryCommand "2026-01-01T01:00:00Z").identity firstPlatform firstRun firstContext

def retryAudit : Reference :=
  auditEventReference firstPlatform firstAggregate firstContext retryIdentity
    "Retry the attempt." "audit-event-0"

def secondAttempt : RunAttempt :=
  .queued firstPlatform firstRun 2 "2026-01-01T00:00:00Z" "2026-01-01T01:00:00Z" retryAudit

def secondItem : RunWorkItem :=
  .queued firstPlatform firstAggregate secondAttempt firstContext.correlationId

def retryRecord : CommandRecord :=
  retryIdentity.record firstAggregate (some secondAttempt) (some secondItem) retryAudit
    firstContext.occurredAtUtc

def timedOutModel : ReadModel := ⟨firstAggregate, [timedOutAttempt], [firstItem]⟩

def itemSeed (attemptId : String) (attemptNumber : Int) : Json :=
  .obj
    [("planning_run_id", .str "planning-run-1"), ("attempt_id", .str attemptId),
     ("attempt_number", .int attemptNumber)]

set_option maxRecDepth 100000 in
theorem retry_fingerprints :
    firstPlatform.keyReference "retry-1" =
        "sha256:3998fbdb8d844aa01d03de09b39b7b082e03bee469c40387bf2fedb81b1883f8" ∧
      contractFingerprint (attemptSeed firstRun 2) =
        "sha256:7c345eebe415701435743766db62d936db81c94a41d1aab89e28c1065a6b25da" ∧
      contractFingerprint (itemSeed timeoutCommand.attemptId 1) =
        "sha256:4146dcaf30e52ffccbbc98b0039acb64b99ed5d9868c743c2fd3ff43e01385e9" ∧
      contractFingerprint (itemSeed
        "planning-run-attempt-7c345eebe415701435743766db62d936db81c94a41d1aab89e28c1065a6b25da"
          2) =
        "sha256:2e3f3ea6fb98066e574ef5ed926503f428db4577703a87ad555610963638302b" :=
  ⟨keyReference_spelled (by decide +kernel) (by decide +kernel),
    fingerprint_spelled (by repeat constructor) (by decide +kernel) (by decide +kernel)
      (by decide +kernel),
    fingerprint_spelled (by repeat constructor) (by decide +kernel) (by decide +kernel)
      (by decide +kernel),
    fingerprint_spelled (by repeat constructor) (by decide +kernel) (by decide +kernel)
      (by decide +kernel)⟩

theorem secondAttempt_id : secondAttempt.attemptId =
    "planning-run-attempt-7c345eebe415701435743766db62d936db81c94a41d1aab89e28c1065a6b25da" := by
  have hid : secondAttempt.attemptId = "planning-run-attempt" ++ "-" ++
    String.ofList ((contractFingerprint (attemptSeed firstRun 2)).toList.drop 7) := rfl
  rw [hid, retry_fingerprints.2.1]
  simp

theorem secondItem_ne : firstItem.workItemId ≠ secondItem.workItemId := by
  intro h
  have hseeds : contractFingerprint (itemSeed firstAttempt.attemptId 1) =
      contractFingerprint (itemSeed secondAttempt.attemptId 2) :=
    @derivedIdentity_inj firstPlatform "planning-run-work-item" _ _ h
  rw [firstAttempt_id, secondAttempt_id, retry_fingerprints.2.2.1, retry_fingerprints.2.2.2]
    at hseeds
  simp at hseeds

theorem secondAttempt_ne : timedOutAttempt.attemptId ≠ secondAttempt.attemptId := by
  have hfirst : timedOutAttempt.attemptId = timeoutCommand.attemptId := firstAttempt_id
  rw [hfirst, secondAttempt_id]
  simp [timeoutCommand]

/-- The rows after the timeout, and the two commands that have succeeded. -/
theorem timedOut_reached :
    ∃ succeeded, Reach (RunStep firstPlatform firstIngress) (fun _ _ => True) .initial
      ⟨timedOutStore, [], succeeded⟩ := by
  obtain ⟨succeeded, hfirst, -⟩ := @first_reached (fun _ _ => True) trivial (fun _ => trivial)
  obtain ⟨succeeded', htimeout, -⟩ := @reach_write _ _ _ _ _
    ⟨.recordAttemptFailure timeoutCommand, firstContext⟩ _ _ _ hfirst rfl timeout_prepared trivial
    (fun _ => trivial) timeout_written
  exact ⟨succeeded', htimeout⟩

theorem timedOutStore_valid : StoreValid firstPlatform firstIngress timedOutStore := by
  obtain ⟨succeeded, h⟩ := timedOut_reached
  exact (reach_valid h).store

theorem timedOutStore_attempts : timedOutStore.attempts = [timedOutAttempt] := by
  have hlast : firstStore.attempts = [] ++ [firstAttempt] := rfl
  have hids : (firstStore.attempts.map RunAttempt.attemptId).Nodup := firstStore_valid.attempts.ids
  have hattempts := @attemptsAfter_last firstStore [] firstAttempt timedOutAttempt hids hlast
  simp only [timedOutStore, hattempts, List.nil_append]

theorem timedOutStore_read :
    timedOutStore.read firstPlatform firstContext = .ok timedOutModel := by
  have hrun : timedOutStore.run = some firstAggregate := rfl
  have hread := @read_succeeds firstPlatform timedOutStore firstContext _ firstIngress _
    timedOutStore_valid hrun (authorize_readOnly firstContext_authorized)
  rw [hread, timedOutStore_attempts]
  rfl

theorem retry_mutation :
    retryMutation firstPlatform (retryCommand "2026-01-01T01:00:00Z") timedOutModel firstContext
      retryIdentity = .ok (.retry firstAggregate timedOutAttempt secondAttempt secondItem
        retryRecord) := by
  have haudit : auditReference firstPlatform timedOutModel.aggregate firstContext retryIdentity
      (retryCommand "2026-01-01T01:00:00Z").reason
      timedOutModel.aggregate.document.lastTransition.audit.artifactId = .ok retryAudit :=
    auditReference_succeeds nofun rfl
  have hauditValid : AuditValid retryAudit := auditEventReference_valid
  have hlatest : timedOutModel.attempts.getLast? = some timedOutAttempt := rfl
  have hopen : ¬timedOutModel.aggregate.document.state.Terminal := by decide
  have hid : IdentityForm retryIdentity := retry_identity_form ..
  have hextension : isFingerprint
      timedOutModel.aggregate.document.source.runtimeResolution.extensionSetFingerprint = true :=
    zeroFingerprint_form
  have hcurrent : timedOutAttempt.attemptId =
        (retryCommand "2026-01-01T01:00:00Z").failedAttemptId ∧
      timedOutAttempt.attemptNumber =
        (retryCommand "2026-01-01T01:00:00Z").failedAttemptNumber := ⟨firstAttempt_id, rfl⟩
  have hretryable : timedOutAttempt.status.Retryable := by
    have hstatus : timedOutAttempt.status = .timedOut := rfl
    rw [hstatus]
    decide
  have hnumber : 1 ≤ timedOutAttempt.attemptNumber := le_refl 1
  have hexpected : requireExpected timedOutModel.aggregate.document
      (retryCommand "2026-01-01T01:00:00Z").expected = .ok () := firstExpected_holds
  have hattempt : secondAttempt = RunAttempt.queued firstPlatform timedOutModel.aggregate.document
      (timedOutAttempt.attemptNumber + 1) (retryCommand "2026-01-01T01:00:00Z").availableAtUtc
      (retryCommand "2026-01-01T01:00:00Z").timeoutAtUtc retryAudit := rfl
  exact retryMutation_succeeds firstAggregate_valid hextension hexpected hopen hlatest hcurrent
    hretryable hnumber haudit hauditValid hid (firstInstant_utc _) (firstHour_utc _) (by decide)
    (firstTenth_utc _) hattempt

theorem retry_fresh :
    timedOutStore.getCommand retryIdentity.scope retryIdentity.keyReference = none := by
  have hretry : retryIdentity.keyReference = _ := retry_fingerprints.1
  apply getCommand_of_fresh
  intro record hrecord
  rw [hretry]
  rcases List.mem_cons.mp hrecord with rfl | hrecord
  · show zeroFingerprint ≠ _
    simp [zeroFingerprint]
  · rw [List.mem_singleton.mp hrecord]
    show timeoutIdentity.keyReference ≠ _
    simp [timeoutIdentity]

theorem retry_prepared :
    timedOutStore.prepare firstPlatform (.retry (retryCommand "2026-01-01T01:00:00Z"))
      firstContext =
        .ok (.write (.retry firstAggregate timedOutAttempt secondAttempt secondItem
          retryRecord)) := by
  have hprepare : prepareRetry firstPlatform (retryCommand "2026-01-01T01:00:00Z") timedOutModel
      firstContext timedOutStore.getCommand =
        .ok (.write (.retry firstAggregate timedOutAttempt secondAttempt secondItem
          retryRecord)) := by
    simp only [prepareRetry, bind_eq_ok, exists_unit_iff, orExisting_write]
    exact ⟨firstContext_authorized, retry_fresh, retry_mutation⟩
  rw [RunStore.prepare, bind_eq_ok]
  exact ⟨timedOutModel, timedOutStore_read, hprepare⟩

/-- The rows after the retry. -/
def retriedStore : RunStore :=
  { timedOutStore with
    attempts := timedOutStore.attempts ++ [secondAttempt]
    workItems := timedOutStore.workItems ++ [secondItem]
    commands := timedOutStore.commands ++ [retryRecord] }

theorem retry_written :
    timedOutStore.write firstPlatform
        (.retry firstAggregate timedOutAttempt secondAttempt secondItem retryRecord) =
      .ok (retriedStore, ⟨retryRecord, false⟩) := by
  have hrun : timedOutStore.run = some firstAggregate := rfl
  have hfound : timedOutStore.attempts.find?
      (fun a => a.attemptId = timedOutAttempt.attemptId) = some timedOutAttempt := by
    rw [timedOutStore_attempts, List.find?_cons_of_pos (by simp)]
  have hmax : (timedOutStore.attempts.map RunAttempt.attemptNumber).max? =
      some timedOutAttempt.attemptNumber := by
    rw [timedOutStore_attempts]
    rfl
  have hattempts : ∀ a ∈ timedOutStore.attempts, a.attemptId ≠ secondAttempt.attemptId ∧
      a.attemptNumber ≠ secondAttempt.attemptNumber := by
    intro a ha
    rw [timedOutStore_attempts] at ha
    rw [List.mem_singleton.mp ha]
    have hnumbers : timedOutAttempt.attemptNumber = 1 ∧ secondAttempt.attemptNumber = 2 :=
      ⟨rfl, rfl⟩
    refine ⟨secondAttempt_ne, ?_⟩
    rw [hnumbers.1, hnumbers.2]
    decide
  have hitems : ∀ w ∈ timedOutStore.workItems, w.workItemId ≠ secondItem.workItemId ∧
      w.attemptId ≠ secondItem.attemptId := by
    intro w hw
    have hw : w ∈ [firstItem] := hw
    rw [List.mem_singleton.mp hw]
    exact ⟨secondItem_ne, secondAttempt_ne⟩
  have hcurrent : firstAggregate.document = timedOutModel.aggregate.document := rfl
  have hkey : timedOutStore.getCommand retryRecord.scopeFingerprint retryRecord.keyReference =
      none := retry_fresh
  have hwritten := write_retry retry_mutation hrun hcurrent hfound hmax hattempts hitems hkey
  exact hwritten

def retrySubmission (timeoutAtUtc : String) : Submission :=
  ⟨.retry (retryCommand timeoutAtUtc), firstContext⟩

/-- **A window that is not compared.** A retry has succeeded, and a later one under its key and
scope that asks for another window is answered with the recorded result instead of a conflict. -/
theorem retry_window_ignored :
    ∃ s event s' submission request answer,
      Reach (RunStep firstPlatform firstIngress) (fun _ _ => True) .initial s ∧
      RunStep firstPlatform firstIngress s event s' ∧
      event.finishes = some (submission, request, answer) ∧
      ∃ prior ∈ s.succeeded, SameKey prior.submission submission ∧
        (∀ source ∈ s.store.source request,
          authorize firstPlatform source submission.context false = .ok ()) ∧
        ¬Idempotent prior submission request answer := by
  obtain ⟨succeeded, htimedOut⟩ := timedOut_reached
  obtain ⟨succeeded', hretried, hmem, -⟩ := @reach_write _ _ _ _ _
    (retrySubmission "2026-01-01T01:00:00Z") _ _ _ htimedOut rfl retry_prepared trivial
    (fun _ => trivial) retry_written
  have hrun : retriedStore.run = some firstAggregate := rfl
  have hrecord : RecordValid firstPlatform firstAggregate retryRecord :=
    (reach_valid hretried).store.records firstAggregate hrun retryRecord
      (List.mem_append_right _ (List.mem_singleton.mpr rfl))
  have hprior := hmem _ (resultFromCommand_ok hrecord)
  have hstep := @retry_answered _ _ firstIngress _ _ _ _
    (retryCommand "2026-01-01T00:30:00Z") _ hretried hprior hrun firstContext_authorized rfl rfl rfl
  refine ⟨_, _, _, _, _, _, hretried, hstep, rfl, _, hprior, ⟨rfl, rfl, rfl⟩, ?_, ?_⟩
  · intro source hsource
    obtain rfl := Option.some.inj hsource
    exact firstContext_authorized
  · intro hidempotent
    have hwindows : retryCommand "2026-01-01T01:00:00Z" ≠ retryCommand "2026-01-01T00:30:00Z" := by
      decide
    obtain ⟨error, hanswer, -⟩ := hidempotent.different
      (fun h => hwindows (RunCommand.retry.inj h)) (fun h => hwindows (Request.retry.inj h))
    cases hanswer

end PlantNexus.Runs
