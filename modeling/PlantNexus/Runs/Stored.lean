import PlantNexus.Runs.Writes

/-! The rows of a run in any state that is reached.

Whatever the interleaving, the stored documents stay valid, the attempts stay numbered with all
but the last ended, and every command record can be handed out again. -/
namespace PlantNexus.Runs
open Data

/-! ### Attempts -/

/-- The attempts are numbered from one, each has its own work item, and all but the last have
ended. -/
structure AttemptsConsistent (attempts : List RunAttempt) (workItems : List RunWorkItem) :
    Prop where
  numbers : attempts.map RunAttempt.attemptNumber = attemptNumbers attempts.length
  ids : (attempts.map RunAttempt.attemptId).Nodup
  items : workItems.map RunWorkItem.attemptId = attempts.map RunAttempt.attemptId
  earlierEnded : ∀ a ∈ attempts.dropLast, a.status.Terminal

section
variable {P : Platform} {store store' : RunStore}

theorem attemptNumbers_pairwise (n : Nat) : (attemptNumbers n).Pairwise (· < ·) := by
  unfold attemptNumbers
  rw [List.pairwise_map]
  refine List.pairwise_lt_range.imp ?_
  intro a b h
  omega

theorem attemptNumbers_succ (n : Nat) :
    attemptNumbers (n + 1) = attemptNumbers n ++ [(n : Int) + 1] := by
  simp [attemptNumbers, List.range_succ]

/-- The rows are stored in the order in which they are read. -/
theorem AttemptsConsistent.sorted {attempts : List RunAttempt} {workItems : List RunWorkItem}
    (h : AttemptsConsistent attempts workItems) :
    sortByKey RunAttempt.attemptNumber attempts = attempts := by
  apply sortByKey_eq_self
  have hlt := attemptNumbers_pairwise attempts.length
  rw [← h.numbers, List.pairwise_map] at hlt
  exact hlt.imp fun h => h.le

theorem AttemptsConsistent.latest (h : AttemptsConsistent store.attempts store.workItems) :
    store.latest = store.attempts.getLast? := by
  rw [RunStore.latest, h.sorted]

/-- An attempt that has not ended is the latest. -/
theorem AttemptsConsistent.last_of_open (h : AttemptsConsistent store.attempts store.workItems) {a : RunAttempt}
    (ha : a ∈ store.attempts) (hopen : ¬a.status.Terminal) :
    store.attempts = store.attempts.dropLast ++ [a] := by
  have hne : store.attempts ≠ [] := List.ne_nil_of_mem ha
  have hsplit := List.dropLast_append_getLast hne
  rw [← hsplit, List.mem_append, List.mem_singleton] at ha
  rcases ha with ha | ha
  · exact absurd (h.earlierEnded a ha) hopen
  · rw [ha]
    exact hsplit.symm

/-- So is the attempt with the greatest number. -/
theorem AttemptsConsistent.last_of_max (h : AttemptsConsistent store.attempts store.workItems) {a : RunAttempt}
    (ha : a ∈ store.attempts)
    (hmax : (store.attempts.map RunAttempt.attemptNumber).max? = some a.attemptNumber) :
    store.attempts = store.attempts.dropLast ++ [a] := by
  have hne : store.attempts ≠ [] := List.ne_nil_of_mem ha
  have hsplit := List.dropLast_append_getLast hne
  have hlt := attemptNumbers_pairwise store.attempts.length
  rw [← h.numbers, List.pairwise_map, ← hsplit, List.pairwise_append] at hlt
  rw [← hsplit, List.mem_append, List.mem_singleton] at ha
  rcases ha with ha | ha
  · have hlast : (store.attempts.getLast hne).attemptNumber ≤ a.attemptNumber :=
      (List.max?_eq_some_iff.mp hmax).2 _
        (List.mem_map_of_mem (List.getLast_mem hne))
    have := hlt.2.2 a ha _ (List.mem_singleton.mpr rfl)
    omega
  · rw [ha]
    exact hsplit.symm

/-- A row that was compared and then written is the last row. -/
theorem attemptsAfter_last {init : List RunAttempt} {previous attempt : RunAttempt}
    (hids : (store.attempts.map RunAttempt.attemptId).Nodup)
    (hlast : store.attempts = init ++ [previous]) :
    store.attemptsAfter (some previous) (some attempt) = init ++ [attempt] := by
  unfold RunStore.attemptsAfter RunStore.updateAttemptRow
  by_cases hsame : previous = attempt
  · simp only [if_pos hsame]
    rw [hlast, hsame]
  · simp only [if_neg hsame]
    rw [hlast] at hids ⊢
    rw [List.map_append, List.nodup_append] at hids
    have hinit : ∀ a ∈ init, a.attemptId ≠ previous.attemptId := by
      intro a ha
      exact hids.2.2 _ (List.mem_map_of_mem ha) _ (by simp)
    rw [List.map_append]
    congr 1
    · conv_rhs => rw [← List.map_id init]
      apply List.map_congr_left
      intro a ha
      simp [hinit a ha]
    · simp

theorem AttemptsConsistent.replace_last {init : List RunAttempt} {workItems : List RunWorkItem}
    {previous attempt : RunAttempt} (h : AttemptsConsistent (init ++ [previous]) workItems)
    (hid : attempt.identity = previous.identity) :
    AttemptsConsistent (init ++ [attempt]) workItems := by
  have hids : (init ++ [attempt]).map RunAttempt.attemptId =
      (init ++ [previous]).map RunAttempt.attemptId := by
    simp [RunAttempt.id_of_identity hid]
  exact
    { numbers := by simpa [RunAttempt.number_of_identity hid] using h.numbers
      ids := hids ▸ h.ids
      items := hids ▸ h.items
      earlierEnded := by simpa using h.earlierEnded }

theorem AttemptsConsistent.append {attempts : List RunAttempt} {workItems : List RunWorkItem}
    {attempt : RunAttempt} {workItem : RunWorkItem} (h : AttemptsConsistent attempts workItems)
    (hnumber : attempt.attemptNumber = attempts.length + 1)
    (hfresh : ∀ a ∈ attempts, a.attemptId ≠ attempt.attemptId)
    (hitem : workItem.attemptId = attempt.attemptId)
    (hended : ∀ a ∈ attempts.getLast?, a.status.Terminal) :
    AttemptsConsistent (attempts ++ [attempt]) (workItems ++ [workItem]) :=
  { numbers := by
      rw [List.map_append, List.length_append, List.length_singleton, attemptNumbers_succ,
        h.numbers]
      simp [hnumber]
    ids := by
      rw [List.map_append, List.nodup_append]
      refine ⟨h.ids, by simp, ?_⟩
      intro id hid id' hid'
      obtain ⟨a, ha, rfl⟩ := List.mem_map.mp hid
      simp only [List.map_cons, List.map_nil, List.mem_singleton] at hid'
      rw [hid']
      exact hfresh a ha
    items := by
      rw [List.map_append, List.map_append, h.items]
      simp [hitem]
    earlierEnded := by
      rw [List.dropLast_concat]
      intro a ha
      have hne : attempts ≠ [] := List.ne_nil_of_mem ha
      rw [← List.dropLast_append_getLast hne, List.mem_append, List.mem_singleton] at ha
      rcases ha with ha | rfl
      · exact h.earlierEnded a ha
      · exact hended _ (List.getLast?_eq_some_getLast hne) }

/-! ### What a transition does to its attempt -/

theorem nextAttemptStatus_ended {status next : AttemptStatus} {toState : RunState}
    (h : nextAttemptStatus status toState = .ok next) (hended : status.Terminal) :
    next = status ∧ toState.Terminal ∧ toState ≠ .completed := by
  unfold nextAttemptStatus at h
  simp only [if_pos hended, bind_eq_ok, exists_unit_iff, require_eq_ok] at h
  obtain ⟨⟨-, hto⟩, h⟩ := h
  injection h with h
  rcases hto with rfl | rfl
  · exact ⟨h.symm, by decide, by decide⟩
  · exact ⟨h.symm, by decide, by decide⟩

/-- A terminal transition ends the attempt it binds. The exception is a queued attempt, which it
sets active; then the run is completed or the attempt takes over a failure code. -/
theorem nextAttemptStatus_open {status next : AttemptStatus} {toState : RunState}
    (h : nextAttemptStatus status toState = .ok next) (hopen : ¬status.Terminal) :
    (toState.Terminal → next.Terminal ∨
      next = .active ∧ status = .queued ∧
        (toState = .completed ∨ transitionFailureCode toState ≠ none)) ∧
    (¬toState.Terminal → ¬next.Terminal) ∧
    (toState = .completed → status ≠ .queued → next = .succeeded) := by
  unfold nextAttemptStatus at h
  rw [if_neg hopen] at h
  by_cases hqueued : status = .queued ∧ toState ∉ [.cancelled, .failed, .dataRejected]
  · rw [if_pos hqueued] at h
    injection h with h
    subst h
    obtain ⟨rfl, hto⟩ := hqueued
    refine ⟨?_, fun _ => by decide, by simp⟩
    intro hterminal
    right
    revert hterminal hto
    cases toState <;> decide
  · rw [if_neg hqueued] at h
    clear hqueued
    cases toState with
    | completed =>
      injection h with h
      subst h
      exact ⟨fun _ => .inl (by decide), fun hto => absurd (by decide) hto, fun _ _ => rfl⟩
    | failed =>
      injection h with h
      subst h
      exact ⟨fun _ => .inl (by split <;> decide), fun hto => absurd (by decide) hto, nofun⟩
    | cancelled | dataRejected | modelInvalid | infeasible | noSolutionWithinLimit |
      validationFailed =>
      injection h with h
      subst h
      exact ⟨fun _ => .inl (by decide), fun hto => absurd (by decide) hto, nofun⟩
    | created | ingesting | validating | snapshotted | building | solving | solved | verifying =>
      injection h with h
      subst h
      exact ⟨fun hto => absurd hto (by decide), fun _ => hopen, nofun⟩

/-- A transition that ends the run ends the attempt that it advances. -/
theorem advanced_ended {c : TransitionCommand} {latest : RunAttempt} {status : AttemptStatus}
    {occurredAtUtc : String} {audit : Reference}
    (hstatus : nextAttemptStatus latest.status c.toState = .ok status)
    (hopen : ¬latest.status.Terminal)
    (hevidence : checkEvidence (latest.advanced P status occurredAtUtc audit
      (transitionFailureCode c.toState) c.artifacts) = .ok ())
    (hqueued : c.toState = .completed → latest.status ≠ .queued) (hto : c.toState.Terminal) :
    status.Terminal := by
  rcases (nextAttemptStatus_open hstatus hopen).1 hto with hended | ⟨rfl, hlatest, hwhy⟩
  · exact hended
  · rcases hwhy with hcompleted | hcode
    · exact absurd hlatest (hqueued hcompleted)
    · -- an active attempt with a failure code fails its own verification
      simp only [checkEvidence, RunAttempt.advanced, RunAttempt.withFingerprint,
        require_eq_ok] at hevidence
      exact absurd hevidence.2.2 hcode

/-- The attempts that a transition leaves: those that were there, or the last one advanced. -/
theorem transition_attempts {c : TransitionCommand} {model : ReadModel} {ctx : CommandContext}
    {id : CommandIdentity} {latest : RunAttempt} {t : TransitionMutation}
    (hinv : AttemptsConsistent store.attempts store.workItems)
     (hprepared : TransitionPrepared P c model ctx id latest t)
    (hfound : ∀ previous ∈ t.previousAttempt,
      store.attempts.find? (fun a => a.attemptId = previous.attemptId) = some previous) :
    (store.attemptsAfter t.previousAttempt t.attempt = store.attempts ∧
      (c.toState.Terminal → latest.status.Terminal ∧ c.toState ≠ .completed)) ∨
    ∃ init next, store.attempts = init ++ [latest] ∧
      store.attemptsAfter t.previousAttempt t.attempt = init ++ [next] ∧
      next.identity = latest.identity ∧
      AttemptValid P next model.aggregate.document.source ∧
      ((c.toState = .completed → latest.status ≠ .queued) →
        (c.toState.Terminal → next.status.Terminal) ∧
          (c.toState = .completed → next.status = .succeeded)) := by
  obtain ⟨audit, evidence, hbound, -, -⟩ := hprepared.written
  generalize hp : t.previousAttempt = previousAttempt at hbound hfound
  generalize hn : t.attempt = attempt at hbound
  cases hbound with
  | unbound hid => exact .inl ⟨rfl, fun hto => absurd hid (hprepared.bindsTerminal hto)⟩
  | kept hid hstatus =>
    refine .inl ⟨by simp [RunStore.attemptsAfter, RunStore.updateAttemptRow], ?_⟩
    intro hto
    by_cases hended : latest.status.Terminal
    · exact ⟨hended, (nextAttemptStatus_ended hstatus hended).2.2⟩
    · rcases (nextAttemptStatus_open hstatus hended).1 hto with h | ⟨h, hlatest, -⟩
      · exact absurd h hended
      · rw [h] at hlatest
        cases hlatest
  | @advanced status hid hstatus hvalid hsucceeds =>
    have hopen := not_terminal_of_transition hsucceeds.status
    have hmem := List.mem_of_find?_eq_some (hfound latest rfl)
    have hlast := hinv.last_of_open hmem hopen
    refine .inr ⟨store.attempts.dropLast, _, hlast, attemptsAfter_last hinv.ids hlast,
      hsucceeds.identity, hvalid, ?_⟩
    intro hqueued
    refine ⟨advanced_ended hstatus hopen hvalid.evidence hqueued, ?_⟩
    intro hto
    exact (nextAttemptStatus_open hstatus hopen).2.2 hto (hqueued hto)

/-! ### Rows -/

/-- The columns of a run row that no write changes. -/
def RunAggregate.columns (a : RunAggregate) : PlanningRun × PreparedArtifacts × String × String :=
  (a.initial, a.prepared, a.sourceIngressId, a.sourceRecordFingerprint)

theorem columns_with_document {a b : RunAggregate} (h : a.columns = b.columns)
    (document : PlanningRun) :
    ({ a with document } : RunAggregate) = { b with document } := by
  simp only [RunAggregate.columns, Prod.mk.injEq] at h
  obtain ⟨hinitial, hprepared, hid, hfingerprint⟩ := h
  rw [hinitial, hprepared, hid, hfingerprint]

theorem with_initial {a : RunAggregate} (h : a.document = a.initial) :
    ({ a with document := a.initial } : RunAggregate) = a := by
  cases a
  cases h
  rfl

/-- The run row is still there, with the same source. -/
def ColumnsKept (store store' : RunStore) : Prop :=
  ∀ run ∈ store.run, ∃ run' ∈ store'.run, run'.columns = run.columns

theorem ColumnsKept.refl (store : RunStore) : ColumnsKept store store :=
  fun run hrun => ⟨run, hrun, rfl⟩

theorem ColumnsKept.trans {a b c : RunStore} (h : ColumnsKept a b) (h' : ColumnsKept b c) :
    ColumnsKept a c := by
  intro run hrun
  obtain ⟨run', hrun', hcolumns⟩ := h run hrun
  obtain ⟨run'', hrun'', hcolumns'⟩ := h' run' hrun'
  exact ⟨run'', hrun'', hcolumns'.trans hcolumns⟩

variable (P) in
/-- A command record from which the result can be built again. -/
structure RecordValid (run : RunAggregate) (record : CommandRecord) : Prop where
  document : RunValid P { run with document := record.planningRun }
  attempt : ∀ a ∈ record.attempt, AttemptValid P a record.planningRun.source
  item : ∀ w ∈ record.workItem, ∃ a ∈ record.attempt,
    WorkItemValid P w { run with document := record.planningRun } a ∧ w.audit = a.audit

theorem RecordValid.congr {run run' : RunAggregate} {record : CommandRecord}
    (h : RecordValid P run record) (hcolumns : run'.columns = run.columns) :
    RecordValid P run' record := by
  have hsame := columns_with_document hcolumns record.planningRun
  exact ⟨hsame ▸ h.document, h.attempt, hsame ▸ h.item⟩

/-- A valid record gives the result it was written with. -/
theorem resultFromCommand_ok {source : RunAggregate} {record : CommandRecord} {replayed : Bool}
    (h : RecordValid P source record) :
    resultFromCommand P record source replayed =
      .ok ⟨{ source with document := record.planningRun }, record.attempt, record.workItem,
        record.audit, replayed⟩ := by
  have hattempt := h.attempt
  have hitem := h.item
  have hrun := verifyPlanningRun_none.mpr h.document
  simp only [resultFromCommand, hrun]
  cases ha : record.attempt with
  | none =>
    cases hw : record.workItem with
    | none => rfl
    | some w =>
      obtain ⟨a, hmem, -⟩ := hitem w hw
      rw [ha] at hmem
      cases hmem
  | some a =>
    have hverify : verifyAttempt P a record.planningRun none = .ok () :=
      verifyAttempt_none.mpr (hattempt a ha)
    cases hw : record.workItem with
    | none => simp only [hverify]; rfl
    | some w =>
      obtain ⟨a', hmem, hvalid, haudit⟩ := hitem w hw
      obtain rfl : a = a' := Option.some.inj (ha.symm.trans hmem)
      have hwork : verifyWorkItem P w { source with document := record.planningRun } a true =
          .ok () := verifyWorkItem_eq_ok.mpr ⟨hvalid, fun _ => haudit⟩
      simp only [hverify, hwork]
      rfl

theorem commandRecord_ok {id : CommandIdentity} {aggregate : RunAggregate}
    {attempt : Option RunAttempt} {workItem : Option RunWorkItem} {audit : Reference}
    {occurredAtUtc : String} {record : CommandRecord}
    (h : commandRecord id aggregate attempt workItem audit occurredAtUtc = .ok record) :
    record = id.record aggregate attempt workItem audit occurredAtUtc := by
  simp only [commandRecord, bind_eq_ok, exists_unit_iff] at h
  obtain ⟨-, h⟩ := h
  injection h with h
  exact h.symm

theorem recordValid_of {id : CommandIdentity} {aggregate : RunAggregate}
    {attempt : Option RunAttempt} {workItem : Option RunWorkItem} {audit : Reference}
    {occurredAtUtc : String} {record : CommandRecord}
    (h : commandRecord id aggregate attempt workItem audit occurredAtUtc = .ok record)
    (hrun : RunValid P aggregate)
    (hattempt : ∀ a ∈ attempt, AttemptValid P a aggregate.document.source)
    (hitem : ∀ w ∈ workItem, ∃ a ∈ attempt,
      WorkItemValid P w aggregate a ∧ w.audit = a.audit) : RecordValid P aggregate record := by
  obtain rfl := commandRecord_ok h
  exact ⟨hrun, hattempt, hitem⟩

variable {planningRunId : String} {ingress : Ingress P planningRunId}

variable (P ingress) in
/-- What holds of the rows in every state that is reached. -/
structure StoreValid (store : RunStore) : Prop where
  attempts : AttemptsConsistent store.attempts store.workItems
  absent : store.run = none → store = .empty
  attempted : store.run ≠ none → store.attempts ≠ []
  revision : ∀ run ∈ store.run, run.document.revision = store.transitions.length
  run : ∀ run ∈ store.run, RunValid P run
  plane : ∀ run ∈ store.run, run.document.source.effectiveScope.dataPlane = P.dataPlane
  columns : ∀ run ∈ store.run, ingress.aggregates { run with document := run.initial }
  attemptsValid : ∀ run ∈ store.run, ∀ a ∈ store.attempts,
    AttemptValid P a run.document.source
  itemsValid : ∀ run ∈ store.run,
    List.Forall₂ (fun w a => WorkItemValid P w run a) store.workItems store.attempts
  keys : store.commands.Pairwise fun r r' =>
    ¬(r.scopeFingerprint = r'.scopeFingerprint ∧ r.keyReference = r'.keyReference)
  records : ∀ run ∈ store.run, ∀ record ∈ store.commands, RecordValid P run record

theorem empty_valid : StoreValid P ingress .empty where
  attempts := ⟨rfl, List.nodup_nil, rfl, by simp [RunStore.empty]⟩
  absent := fun _ => rfl
  attempted := by simp [RunStore.empty]
  revision := by simp [RunStore.empty]
  run := by simp [RunStore.empty]
  plane := by simp [RunStore.empty]
  columns := by simp [RunStore.empty]
  attemptsValid := by simp [RunStore.empty]
  itemsValid := by simp [RunStore.empty]
  keys := List.Pairwise.nil
  records := by simp [RunStore.empty]

theorem getCommand_none {scope keyReference : String}
    (h : store.getCommand scope keyReference = none) :
    ∀ record ∈ store.commands,
      ¬(record.scopeFingerprint = scope ∧ record.keyReference = keyReference) := by
  intro record hrecord
  simpa using List.find?_eq_none.mp h record hrecord

theorem keys_append {commands : List CommandRecord} {command : CommandRecord}
    (h : commands.Pairwise fun r r' : CommandRecord =>
      ¬(r.scopeFingerprint = r'.scopeFingerprint ∧ r.keyReference = r'.keyReference))
    (hnone : ∀ record ∈ commands, ¬(record.scopeFingerprint = command.scopeFingerprint ∧
      record.keyReference = command.keyReference)) :
    (commands ++ [command]).Pairwise fun r r' =>
      ¬(r.scopeFingerprint = r'.scopeFingerprint ∧ r.keyReference = r'.keyReference) := by
  rw [List.pairwise_append]
  refine ⟨h, List.pairwise_singleton .., ?_⟩
  intro record hrecord command' hcommand
  rw [List.mem_singleton.mp hcommand]
  exact hnone record hrecord

theorem forall₂_replace_last {α β : Type} {R S : α → β → Prop} {xs : List α} {init : List β}
    {y y' : β} (h : List.Forall₂ R xs (init ++ [y])) (hinit : ∀ x z, R x z → S x z)
    (hlast : ∀ x, R x y → S x y') : List.Forall₂ S xs (init ++ [y']) := by
  induction init generalizing xs with
  | nil =>
    cases h with
    | cons hx hrest =>
      cases hrest
      exact .cons (hlast _ hx) .nil
  | cons z init ih =>
    cases h with
    | cons hx hrest => exact .cons (hinit _ _ hx) (ih hrest)

/-- The new record of a write, beside the records that were there. -/
theorem records_append {run run' : RunAggregate} {commands : List CommandRecord}
    {command : CommandRecord} (h : ∀ record ∈ commands, RecordValid P run record)
    (hcolumns : run'.columns = run.columns) (hnew : RecordValid P run' command) :
    ∀ record ∈ commands ++ [command], RecordValid P run' record := by
  intro record hrecord
  rcases List.mem_append.mp hrecord with hrecord | hrecord
  · exact (h record hrecord).congr hcolumns
  · rw [List.mem_singleton.mp hrecord]
    exact hnew

theorem Bound.valid {c : TransitionCommand} {aggregate : RunAggregate} {latest : RunAttempt}
    {ctx : CommandContext} {audit : Reference} {previous attempt : Option RunAttempt}
    (h : Bound P c aggregate latest ctx audit previous attempt)
    (hlatest : AttemptValid P latest aggregate.document.source) :
    ∀ a ∈ attempt, AttemptValid P a aggregate.document.source := by
  intro a ha
  cases h with
  | unbound hid => cases ha
  | kept hid hstatus =>
    obtain rfl := Option.some.inj ha
    exact hlatest
  | advanced hid hstatus hvalid hsucceeds =>
    obtain rfl := Option.some.inj ha
    exact hvalid

theorem transition_valid {read : RunStore} {ctx : CommandContext} {c : TransitionCommand}
    {model : ReadModel} {id : CommandIdentity} {latest : RunAttempt} {t : TransitionMutation}
    (hinv : StoreValid P ingress store) (hread : ReadValid P read ctx model)
    (hprepared : TransitionPrepared P c model ctx id latest t) (hkept : ColumnsKept read store)
    (hnone : store.getCommand t.command.scopeFingerprint t.command.keyReference = none)
    (hwrote : store.Wrote (.transition t) store') :
    StoreValid P ingress store' ∧ ColumnsKept store store' := by
  cases hwrote with
  | @transition _ stored hrun hcurrent hfound =>
    obtain ⟨audit, evidence, hbound, haggregate, hrecord⟩ := hprepared.written
    obtain ⟨stored', hstored', hcolumns⟩ := hkept model.aggregate hread.run
    obtain rfl : stored = stored' := Option.some.inj (hrun.symm.trans hstored')
    have hdocument : stored.document = model.aggregate.document := by
      rw [hcurrent, hprepared.previous]
    -- the row that is written is the aggregate that was verified
    have hwritten : ({ stored with document := t.aggregate.document } : RunAggregate) =
        t.aggregate := by
      rw [columns_with_document hcolumns, haggregate]
    have hsource : t.aggregate.document.source = stored.document.source := by
      rw [hdocument, haggregate]
      rfl
    have hlatest : AttemptValid P latest model.aggregate.document.source :=
      hread.attemptsValid latest (List.mem_of_getLast? hprepared.seen)
    have hcolumns' : t.aggregate.columns = stored.columns := by
      rw [← hwritten]
      rfl
    have hnew : RecordValid P t.aggregate t.command := by
      refine recordValid_of hrecord hprepared.valid ?_ (by simp)
      intro a ha
      have := hbound.valid hlatest a ha
      rwa [← hdocument, ← hsource] at this
    rw [hwritten]
    refine ⟨?_, fun run hmem => ⟨t.aggregate, rfl, ?_⟩⟩
    · have hshared : ∀ attempts : List RunAttempt,
          AttemptsConsistent attempts store.workItems → attempts ≠ [] →
          (∀ a ∈ attempts, AttemptValid P a t.aggregate.document.source) →
          List.Forall₂ (fun w a => WorkItemValid P w t.aggregate a) store.workItems attempts →
          StoreValid P ingress
            { store with
              run := some t.aggregate
              attempts
              transitions := store.transitions ++ [t.aggregate.document.lastTransition]
              commands := store.commands ++ [t.command] } := by
        intro attempts hattempts hne hvalid hitems
        exact
          { attempts := hattempts
            absent := nofun
            attempted := fun _ => hne
            revision := by
              intro run hmem
              obtain rfl := Option.some.inj hmem
              have hnext : t.aggregate.document.revision =
                  model.aggregate.document.revision + 1 := by
                rw [haggregate]
                rfl
              have hlength := hinv.revision stored hrun
              rw [hnext, ← hdocument, hlength, List.length_append]
              simp
            run := by
              intro run hmem
              obtain rfl := Option.some.inj hmem
              exact hprepared.valid
            plane := by
              intro run hmem
              obtain rfl := Option.some.inj hmem
              rw [hsource]
              exact hinv.plane stored hrun
            columns := by
              intro run hmem
              obtain rfl := Option.some.inj hmem
              have hinitial : t.aggregate.initial = stored.initial := congrArg Prod.fst hcolumns'
              rw [columns_with_document hcolumns', hinitial]
              exact hinv.columns stored hrun
            attemptsValid := by
              intro run hmem
              obtain rfl := Option.some.inj hmem
              exact hvalid
            itemsValid := by
              intro run hmem
              obtain rfl := Option.some.inj hmem
              exact hitems
            keys := keys_append hinv.keys (getCommand_none hnone)
            records := by
              intro run hmem
              obtain rfl := Option.some.inj hmem
              exact records_append (hinv.records stored hrun) hcolumns' hnew }
      have hprep : t.aggregate.prepared = stored.prepared :=
        congrArg (fun columns => columns.2.1) hcolumns'
      have hcongr : ∀ w a, WorkItemValid P w stored a → WorkItemValid P w t.aggregate a :=
        fun w a h => h.congr rfl hsource hprep
      have hold := hinv.attemptsValid stored hrun
      rw [← hsource] at hold
      rcases transition_attempts hinv.attempts hprepared hfound with
        ⟨hattempts, -⟩ | ⟨init, next, hlast, hattempts, hid, hvalid, -⟩
      · rw [hattempts]
        exact hshared _ hinv.attempts (hinv.attempted (by simp [hrun])) hold
          ((hinv.itemsValid stored hrun).imp hcongr)
      · rw [hattempts]
        have hconsistent := hinv.attempts
        have hitems := hinv.itemsValid stored hrun
        rw [hlast] at hconsistent hitems hold
        refine hshared _ (hconsistent.replace_last hid) (by simp) ?_
          (forall₂_replace_last hitems hcongr fun w h => h.congr hid hsource hprep)
        intro a ha
        rcases List.mem_append.mp ha with ha | ha
        · exact hold a (List.mem_append_left _ ha)
        · rw [List.mem_singleton.mp ha, hsource, hdocument]
          exact hvalid
    · rw [hcolumns']
      exact congrArg RunAggregate.columns (Option.some.inj (hrun.symm.trans hmem))

/-- A write that leaves the run as it is. -/
theorem StoreValid.with_attempts {stored : RunAggregate} {attempts : List RunAttempt}
    {workItems : List RunWorkItem} {command : CommandRecord} (hinv : StoreValid P ingress store)
    (hrun : store.run = some stored) (hattempts : AttemptsConsistent attempts workItems)
    (hne : attempts ≠ [])
    (hvalid : ∀ a ∈ attempts, AttemptValid P a stored.document.source)
    (hitems : List.Forall₂ (fun w a => WorkItemValid P w stored a) workItems attempts)
    (hnone : store.getCommand command.scopeFingerprint command.keyReference = none)
    (hnew : RecordValid P stored command) :
    StoreValid P ingress
      { store with attempts, workItems, commands := store.commands ++ [command] } := by
  have hsame : ∀ run ∈ store.run, run = stored := by
    intro run hmem
    exact (Option.some.inj (hrun.symm.trans hmem)).symm
  exact
    { attempts := hattempts
      absent := by
        intro h
        cases hrun.symm.trans h
      attempted := fun _ => hne
      revision := hinv.revision
      run := hinv.run
      plane := hinv.plane
      columns := hinv.columns
      attemptsValid := by
        intro run hmem
        rw [hsame run hmem]
        exact hvalid
      itemsValid := by
        intro run hmem
        rw [hsame run hmem]
        exact hitems
      keys := keys_append hinv.keys (getCommand_none hnone)
      records := by
        intro run hmem
        rw [hsame run hmem]
        exact records_append (hinv.records stored hrun) rfl hnew }

/-- The row that a write was prepared on, when its document is still current. -/
theorem current_row {read : RunStore} {ctx : CommandContext} {model : ReadModel}
    {stored : RunAggregate} (hread : ReadValid P read ctx model) (hkept : ColumnsKept read store)
    (hrun : store.run = some stored) (hcurrent : stored.document = model.aggregate.document) :
    stored = model.aggregate := by
  obtain ⟨stored', hstored', hcolumns⟩ := hkept model.aggregate hread.run
  obtain rfl : stored = stored' := Option.some.inj (hrun.symm.trans hstored')
  have hsame := columns_with_document hcolumns model.aggregate.document
  rw [← hcurrent] at hsame
  exact hsame.trans (by rw [hcurrent])

theorem retry_valid {read : RunStore} {ctx : CommandContext} {model : ReadModel}
    {id : CommandIdentity} {audit : Reference} {failed attempt : RunAttempt}
    {workItem : RunWorkItem} {record : CommandRecord} (hinv : StoreValid P ingress store)
    (hread : ReadValid P read ctx model) (hkept : ColumnsKept read store)
    (hcreated : AttemptCreated P model.aggregate (failed.attemptNumber + 1) attempt workItem)
    (hrecord : commandRecord id model.aggregate (some attempt) (some workItem) audit
      ctx.occurredAtUtc = .ok record)
    (hnone : store.getCommand record.scopeFingerprint record.keyReference = none)
    (hwrote : store.Wrote (.retry model.aggregate failed attempt workItem record) store') :
    StoreValid P ingress store' ∧ ColumnsKept store store' := by
  cases hwrote with
  | @retry _ stored _ _ _ _ hrun hcurrent hfailed hretryable hlatest hids =>
    obtain rfl := current_row hread hkept hrun hcurrent
    have hmem := List.mem_of_find?_eq_some hfailed
    have hlast := hinv.attempts.last_of_max hmem hlatest
    have hended : failed.status.Terminal := by
      revert hretryable
      cases failed.status <;> decide
    have hnumber : attempt.attemptNumber = store.attempts.length + 1 := by
      have hnumbers := hinv.attempts.numbers
      rw [hlast, List.length_append, List.length_singleton, attemptNumbers_succ, List.map_append,
        List.map_singleton] at hnumbers
      have := List.append_inj_right' hnumbers rfl
      rw [hcreated.number, hlast, List.length_append, List.length_singleton]
      simp only [List.cons.injEq, and_true] at this
      omega
    refine ⟨hinv.with_attempts hrun ?_ (by simp) ?_ ?_ hnone ?_, .refl _⟩
    · refine hinv.attempts.append hnumber hids hcreated.item.attemptId ?_
      intro a ha
      rw [hlast, List.getLast?_concat] at ha
      obtain rfl := Option.some.inj ha
      exact hended
    · intro a ha
      rcases List.mem_append.mp ha with ha | ha
      · exact hinv.attemptsValid _ hrun a ha
      · rw [List.mem_singleton.mp ha]
        exact hcreated.valid
    · exact List.rel_append (hinv.itemsValid _ hrun) (.cons hcreated.item .nil)
    · refine recordValid_of hrecord (hinv.run _ hrun) ?_ ?_
      · intro a ha
        obtain rfl := Option.some.inj ha
        exact hcreated.valid
      · intro w hw
        obtain rfl := Option.some.inj hw
        exact ⟨attempt, rfl, hcreated.item, hcreated.itemAudit⟩

theorem updateAttempt_valid {read : RunStore} {ctx : CommandContext} {model : ReadModel}
    {id : CommandIdentity} {audit : Reference} {previous attempt : RunAttempt}
    {record : CommandRecord} (hinv : StoreValid P ingress store)
    (hread : ReadValid P read ctx model) (hkept : ColumnsKept read store)
    (hvalid : AttemptValid P attempt model.aggregate.document.source)
    (hsucceeds : AttemptSucceeds attempt previous)
    (hrecord : commandRecord id model.aggregate (some attempt) none audit ctx.occurredAtUtc =
      .ok record)
    (hnone : store.getCommand record.scopeFingerprint record.keyReference = none)
    (hwrote : store.Wrote (.updateAttempt model.aggregate previous attempt record) store') :
    StoreValid P ingress store' ∧ ColumnsKept store store' := by
  cases hwrote with
  | @updateAttempt _ stored _ _ _ hrun hcurrent hprevious =>
    obtain rfl := current_row hread hkept hrun hcurrent
    have hmem := List.mem_of_find?_eq_some hprevious
    have hlast := hinv.attempts.last_of_open hmem (not_terminal_of_transition hsucceeds.status)
    have hconsistent := hinv.attempts
    have hitems := hinv.itemsValid _ hrun
    have hold := hinv.attemptsValid _ hrun
    rw [attemptsAfter_last hinv.attempts.ids hlast]
    rw [hlast] at hconsistent hitems hold
    refine ⟨hinv.with_attempts hrun (hconsistent.replace_last hsucceeds.identity) (by simp) ?_ ?_
      hnone ?_, .refl _⟩
    · intro a ha
      rcases List.mem_append.mp ha with ha | ha
      · exact hold a (List.mem_append_left _ ha)
      · rw [List.mem_singleton.mp ha]
        exact hvalid
    · exact forall₂_replace_last hitems (fun _ _ h => h)
        fun w h => h.congr hsucceeds.identity rfl rfl
    · refine recordValid_of hrecord (hinv.run _ hrun) ?_ (by simp)
      intro a ha
      obtain rfl := Option.some.inj ha
      exact hvalid

theorem authorize_ok {aggregate : RunAggregate} {ctx : CommandContext} {readOnly : Bool} :
    authorize P aggregate ctx readOnly = .ok () ↔
      ctx.dataPlane = P.dataPlane ∧ (ctx.dataPlane = "PRODUCTION" → ctx.productionBinding = true) ∧
      ("edit" ∈ ctx.capabilities ∨ readOnly = true ∧ "view" ∈ ctx.capabilities) ∧
      aggregate.document.source.effectiveScope = ctx.effectiveScope P := by
  simp only [authorize, bind_eq_ok, exists_unit_iff, require_eq_ok]

theorem materialize_valid {ctx : CommandContext} {aggregate : RunAggregate}
    {id : CommandIdentity} {audit : Reference} {attempt : RunAttempt} {workItem : RunWorkItem}
    {record : CommandRecord} (hinv : StoreValid P ingress store)
    (hingress : ingress.aggregates aggregate) (hvalid : RunValid P aggregate)
    (hauthorized : authorize P aggregate ctx false = .ok ())
    (hcreated : AttemptCreated P aggregate 1 attempt workItem)
    (hrecord : commandRecord id aggregate (some attempt) (some workItem) audit
      ctx.occurredAtUtc = .ok record)
    (hwrote : store.Wrote (.materialize aggregate attempt workItem record) store') :
    StoreValid P ingress store' ∧ ColumnsKept store store' := by
  cases hwrote with
  | materialize hrun hids =>
    obtain rfl := hinv.absent hrun
    have hinitial := ingress.initial hingress
    have hscope := authorize_ok.mp hauthorized
    refine ⟨?_, by simp [ColumnsKept, RunStore.empty]⟩
    exact
      { attempts := hinv.attempts.append (by simp [hcreated.number, RunStore.empty])
          (by simp [RunStore.empty]) hcreated.item.attemptId (by simp [RunStore.empty])
        absent := nofun
        attempted := by simp
        revision := by
          intro run hmem
          obtain rfl := Option.some.inj hmem
          rw [hinitial, hvalid.initial.2]
          rfl
        run := by
          intro run hmem
          obtain rfl := Option.some.inj hmem
          exact hvalid
        plane := by
          intro run hmem
          obtain rfl := Option.some.inj hmem
          rw [hscope.2.2.2, ← hscope.1]
          rfl
        columns := by
          intro run hmem
          obtain rfl := Option.some.inj hmem
          rw [with_initial hinitial]
          exact hingress
        attemptsValid := by
          intro run hmem a ha
          obtain rfl := Option.some.inj hmem
          obtain rfl : a = attempt := by simpa [RunStore.empty] using ha
          exact hcreated.valid
        itemsValid := by
          intro run hmem
          obtain rfl := Option.some.inj hmem
          exact .cons hcreated.item .nil
        keys := by simp [RunStore.empty]
        records := by
          intro run hmem r hr
          obtain rfl := Option.some.inj hmem
          obtain rfl : r = record := by simpa [RunStore.empty] using hr
          refine recordValid_of hrecord hvalid ?_ ?_
          · intro a ha
            obtain rfl := Option.some.inj ha
            exact hcreated.valid
          · intro w hw
            obtain rfl := Option.some.inj hw
            exact ⟨attempt, rfl, hcreated.item, hcreated.itemAudit⟩ }

/-! ### Whole runs -/

variable (P ingress) in
/-- A write in flight has passed its checks on rows that were there. -/
def PendingWrite.Sound (store : RunStore) (write : PendingWrite) : Prop :=
  OnRun P ingress write.submission.command ∧
    ∃ read : RunStore, write.latest = read.latest ∧
      write.request = read.request write.submission.command ∧
      PreparedBy P read write.submission.context write.request write.mutation ∧
      ColumnsKept read store

variable (P ingress) in
structure SystemValid (s : RunSystem) : Prop where
  store : StoreValid P ingress s.store
  pending : ∀ write ∈ s.pending, write.Sound P ingress s.store

theorem PendingWrite.Sound.mono {write : PendingWrite} (h : write.Sound P ingress store)
    (hkept : ColumnsKept store store') : write.Sound P ingress store' := by
  obtain ⟨hon, read, hlatest, hrequest, hprepared, hread⟩ := h
  exact ⟨hon, read, hlatest, hrequest, hprepared, hread.trans hkept⟩

/-- A request to materialize comes from a materialize command. -/
theorem request_materialize {command : RunCommand} {c : MaterializeCommand}
    (h : store.request command = .materialize c) : command = .materialize c := by
  cases command <;> cases h
  rfl

theorem wrote_valid {write : PendingWrite} (hinv : StoreValid P ingress store)
    (hsound : write.Sound P ingress store)
    (hnone : store.getCommand write.mutation.command.scopeFingerprint
      write.mutation.command.keyReference = none)
    (hwrote : store.Wrote write.mutation store') :
    StoreValid P ingress store' ∧ ColumnsKept store store' := by
  obtain ⟨hon, read, -, hrequest, hprepared, hkept⟩ := hsound
  generalize write.mutation = m at hprepared hwrote hnone
  generalize hr : write.request = request at hprepared hrequest
  cases hprepared with
  | @materialize c attempt workItem record audit hvalid hauthorized hcreated hrecord =>
    rw [request_materialize hrequest.symm] at hon
    exact materialize_valid hinv hon hvalid hauthorized hcreated hrecord hwrote
  | transition hread hauthorized hprepared =>
    exact transition_valid hinv hread hprepared hkept hnone hwrote
  | attempt hread hauthorized hlast hopen hvalid hsucceeds hrecord =>
    exact updateAttempt_valid hinv hread hkept hvalid hsucceeds hrecord hnone hwrote
  | retry hread hauthorized hlast hretryable hopen hcreated hrecord =>
    exact retry_valid hinv hread hkept hcreated hrecord hnone hwrote

/-- One step keeps the rows valid and the source of the run as it is. -/
theorem step_valid {s s' : RunSystem} {event : RunEvent} (hinv : SystemValid P ingress s)
    (hstep : RunStep P ingress s event s') :
    SystemValid P ingress s' ∧ ColumnsKept s.store s'.store := by
  have herase : ∀ write, ∀ other ∈ s.pending.erase write, other.Sound P ingress s.store :=
    fun write other hother => hinv.pending other (List.mem_of_mem_erase hother)
  cases hstep with
  | @read submission m hon h =>
    refine ⟨⟨hinv.store, ?_⟩, .refl _⟩
    intro write hwrite
    rcases List.mem_cons.mp hwrite with rfl | hwrite
    · exact ⟨hon, s.store, rfl, rfl, prepare_write h, .refl _⟩
    · exact hinv.pending write hwrite
  | replayed hon h => exact ⟨⟨hinv.store, hinv.pending⟩, .refl _⟩
  | refused hon h => exact ⟨hinv, .refl _⟩
  | @wrote write store command hwrite hlost h =>
    obtain ⟨hreplayed, -⟩ | ⟨-, hnone, hwrote⟩ := write_ok h
    · cases hreplayed
    · obtain ⟨hvalid, hkept⟩ :=
        wrote_valid hinv.store (hinv.pending write hwrite) hnone hwrote
      refine ⟨⟨?_, ?_⟩, ?_⟩
      · rw [RunSystem.answer_store]
        exact hvalid
      · rw [RunSystem.answer_pending, RunSystem.answer_store]
        exact fun other hother => (herase write other hother).mono hkept
      · rw [RunSystem.answer_store]
        exact hkept
  | @replayedWrite write store command hwrite hlost h =>
    refine ⟨⟨?_, ?_⟩, ?_⟩
    · rw [RunSystem.answer_store]
      exact hinv.store
    · rw [RunSystem.answer_pending, RunSystem.answer_store]
      exact herase write
    · rw [RunSystem.answer_store]
      exact .refl _
  | @rejectedWrite write error hwrite hlost h => exact ⟨⟨hinv.store, herase write⟩, .refl _⟩
  | @lost write error hwrite hlost h =>
    refine ⟨⟨hinv.store, ?_⟩, .refl _⟩
    intro other hother
    rcases List.mem_cons.mp hother with rfl | hother
    · exact hinv.pending write hwrite
    · exact herase write other hother
  | @raced write error found hwrite hlost h =>
    refine ⟨⟨?_, ?_⟩, ?_⟩
    · rw [RunSystem.answer_store]
      exact hinv.store
    · rw [RunSystem.answer_pending, RunSystem.answer_store]
      exact herase write
    · rw [RunSystem.answer_store]
      exact .refl _
  | @racedAway write error raised hwrite hlost h =>
    exact ⟨⟨hinv.store, herase write⟩, .refl _⟩

/-- The rows are valid in every state that is reached. -/
theorem reach_valid {allowed : RunSystem → RunEvent → Prop} {s : RunSystem}
    (h : Reach (RunStep P ingress) allowed .initial s) : SystemValid P ingress s :=
  h.invariant _ (fun hinv _ hstep => (step_valid hinv hstep).1)
    ⟨empty_valid, by simp [RunSystem.initial]⟩

end
end PlantNexus.Runs
