import PlantNexus.Execution.Projection
import PlantNexus.Snapshot.Accepted

/-! The state of the execution facts of a snapshot.

A fact, a lock and an expanded operation meet in a lot and a routing operation, their target.
`FactState` keeps of a snapshot what the facts and locks of its operations are about;
`FactState.report`, `FactState.addLock` and `FactState.removeLock` are the changes that an event
makes to it, and `Imports` is what an urgent demand may do. `FactState.Sound` is what the
contract of a snapshot and its order expansion establish together, and each change keeps it. -/
namespace PlantNexus.Snapshot

def ExecutionFactRecord.target (fact : ExecutionFactRecord) : String × String :=
  (fact.productionLotId, fact.routingOperationId)

def OperationLockRecord.target (lock : OperationLockRecord) : String × String :=
  (lock.productionLotId, lock.routingOperationId)

/-- How far an operation has come. -/
def InstanceStatus.rank : InstanceStatus → Nat
  | .notStarted => 0
  | .running => 1
  | .completed => 2

end PlantNexus.Snapshot

namespace PlantNexus.Execution
open Data Domain Time Snapshot

/-! ### Records under an identity -/

section
variable {α β : Type} {key : α → String} {id : String} {f : α → α} {records : List α}

theorem mem_updateRecord {y : α} : y ∈ updateRecord key id f records ↔
    ∃ x ∈ records, y = if key x = id then f x else x := by
  simp only [updateRecord, List.mem_map, eq_comm]

/-- What an update keeps is unchanged over the whole collection. -/
theorem map_updateRecord (g : α → β) (h : ∀ x, g (f x) = g x) :
    (updateRecord key id f records).map g = records.map g := by
  rw [updateRecord, List.map_map]
  refine List.map_congr_left ?_
  intro x _
  simp only [Function.comp_apply]
  split
  · exact h x
  · rfl

/-- An update seen through a view of its records. -/
theorem updateRecord_map {key' : β → String} {f' : β → β} (g : α → β)
    (hkey : ∀ x, key' (g x) = key x) (hf : ∀ x, g (f x) = f' (g x)) :
    (updateRecord key id f records).map g = updateRecord key' id f' (records.map g) := by
  rw [updateRecord, updateRecord, List.map_map, List.map_map]
  refine List.map_congr_left ?_
  intro x _
  simp only [Function.comp_apply, hkey]
  split
  · exact hf x
  · rfl

end

/-! ### States -/

/-- What the facts and locks of a snapshot say of one expanded operation. -/
structure Tracked where
  operationInstanceId : String
  productionOrderId : String
  target : String × String
  status : InstanceStatus
  executionFactId : Option String
  lockIds : List String
deriving DecidableEq, Repr

def Tracked.of (o : OperationInstance) : Tracked :=
  ⟨o.operationInstanceId, o.productionOrderId, (o.productionLotId, o.routingOperationId),
    o.status, o.executionFactId, o.lockIds⟩

/-- The operations and their precedence, the facts and locks, and the order of each lot. -/
structure FactState where
  operations : List Tracked
  edges : List (String × String)
  facts : List ExecutionFactRecord
  locks : List OperationLockRecord
  lots : List (String × String)
  orders : List String

def FactState.of (document : PlanningSnapshot) : FactState where
  operations := document.operationInstances.map Tracked.of
  edges := document.operationPrecedenceEdges.map fun edge =>
    (edge.predecessorOperationInstanceId, edge.successorOperationInstanceId)
  facts := document.records.executionFacts
  locks := document.records.operationLocks
  lots := document.records.productionLots.map fun lot =>
    (lot.productionLotId, lot.productionOrderId)
  orders := document.records.productionOrders.map ProductionOrderRecord.productionOrderId

namespace FactState

/-- An operation takes a fact over; the fact replaces what its target had. -/
def report (s : FactState) (o : Tracked) (fact : ExecutionFactRecord) : FactState :=
  { s with
    facts := s.facts.filter (fun existing => existing.target ≠ o.target) ++ [fact]
    operations := updateRecord Tracked.operationInstanceId o.operationInstanceId
      (fun o => { o with
        status := fact.status.instanceStatus, executionFactId := some fact.executionFactId })
      s.operations }

def addLock (s : FactState) (o : Tracked) (lock : OperationLockRecord) : FactState :=
  { s with
    locks := s.locks ++ [lock]
    operations := updateRecord Tracked.operationInstanceId o.operationInstanceId
      (fun o => { o with lockIds := sortByKey id (o.lockIds ++ [lock.lockId]) }) s.operations }

def removeLock (s : FactState) (o : Tracked) (lockId : String) : FactState :=
  { s with
    locks := s.locks.filter fun lock => lock.lockId ≠ lockId
    operations := updateRecord Tracked.operationInstanceId o.operationInstanceId
      (fun o => { o with lockIds := o.lockIds.erase lockId }) s.operations }

/-- What the contract of a snapshot establishes. -/
structure WellFormed (s : FactState) : Prop where
  operationIds : (s.operations.map Tracked.operationInstanceId).Nodup
  factIds : (s.facts.map ExecutionFactRecord.executionFactId).Nodup
  lockIds : (s.locks.map OperationLockRecord.lockId).Nodup
  lotIds : (s.lots.map Prod.fst).Nodup
  factLots : ∀ fact ∈ s.facts, fact.target.1 ∈ s.lots.map Prod.fst
  lotOrders : ∀ lot ∈ s.lots, lot.2 ∈ s.orders
  operationLots : ∀ o ∈ s.operations, (o.target.1, o.productionOrderId) ∈ s.lots
  attached : ∀ o ∈ s.operations, o.status = .notStarted ∧ o.executionFactId = none ∨
    ∃ fact ∈ s.facts, o.executionFactId = some fact.executionFactId ∧ fact.target = o.target ∧
      o.status = fact.status.instanceStatus
  listed : ∀ o ∈ s.operations, o.lockIds.Nodup ∧
    ∀ id ∈ o.lockIds, ∃ lock ∈ s.locks, lock.lockId = id ∧ lock.target = o.target
  timed : ∀ fact ∈ s.facts, fact.actualStartAtUtc ≠ none ∧
    (fact.status = .running → fact.actualEndAtUtc = none)

/-- What order expansion establishes on top: one operation and at most one fact for a target, the
fact is the one that its operation names, and an operation lists every lock. -/
structure Expanded (s : FactState) : Prop where
  operationTargets : (s.operations.map Tracked.target).Nodup
  factTargets : (s.facts.map ExecutionFactRecord.target).Nodup
  effective : ∀ o ∈ s.operations, ∀ fact ∈ s.facts, fact.target = o.target →
    o.executionFactId = some fact.executionFactId ∧ o.status = fact.status.instanceStatus
  owned : ∀ lock ∈ s.locks, ∃ o ∈ s.operations, lock.lockId ∈ o.lockIds

structure Sound (s : FactState) : Prop where
  wellFormed : s.WellFormed
  expanded : s.Expanded

/-! ### The contract -/

theorem wellFormed_of_accepted {document : PlanningSnapshot} (h : AcceptedSnapshot document) :
    (FactState.of document).WellFormed := by
  refine ⟨?_, h.records.executionFactIds, h.records.lockIds, ?_, ?_, ?_, ?_, ?_, ?_,
    fun fact hmem => ⟨h.records.fact_start hmem, h.records.running_end hmem⟩⟩
  · simpa [FactState.of, Tracked.of, Function.comp_def] using h.instanceIds
  · simpa [FactState.of, Function.comp_def] using h.records.productionLotIds
  · intro fact hmem
    simpa [FactState.of, ExecutionFactRecord.target, Function.comp_def] using
      h.records.fact_lot hmem
  · intro lot hmem
    obtain ⟨record, hrecord, rfl⟩ := List.mem_map.mp hmem
    exact h.records.lot_order hrecord
  · intro o ho
    obtain ⟨x, hx, rfl⟩ := List.mem_map.mp ho
    obtain ⟨path, hlineage⟩ := h.lineage x hx
    simp only [checkLineage, bind_unit_eq_ok, require_eq_ok] at hlineage
    obtain ⟨lot, hget, horder⟩ := Option.map_eq_some_iff.mp hlineage.1.1
    obtain ⟨hmem, hid⟩ := mem_of_dictGet hget
    refine List.mem_map.mpr ⟨lot, hmem, ?_⟩
    rw [horder, hid]
    rfl
  · intro o ho
    obtain ⟨x, hx, rfl⟩ := List.mem_map.mp ho
    by_cases hstatus : x.status = .notStarted
    · exact .inl ⟨hstatus, (h.attached x hx).none_of_notStarted hstatus⟩
    · obtain ⟨fact, hmem, hname, ⟨hlot, hoperation⟩, hagree⟩ := h.started_fact hx hstatus
      exact .inr ⟨fact, hmem, hname, Prod.ext hlot hoperation, hagree.symm⟩
  · intro o ho
    obtain ⟨x, hx, rfl⟩ := List.mem_map.mp ho
    refine ⟨(h.locks x hx).1, ?_⟩
    intro id hid
    obtain ⟨lock, hget, hlot, hoperation⟩ := (h.locks x hx).2 id hid
    obtain ⟨hmem, heq⟩ := mem_of_dictGet hget
    exact ⟨lock, hmem, heq, Prod.ext hlot hoperation⟩

/-! ### Changes -/

section Report
variable {s : FactState} {o : Tracked} {fact : ExecutionFactRecord}

theorem mem_report_facts {f : ExecutionFactRecord} :
    f ∈ (s.report o fact).facts ↔ f ∈ s.facts ∧ f.target ≠ o.target ∨ f = fact := by
  simp [report]

/-- An operation after a report: the one it is about, or one with another target. -/
theorem mem_report_operations (h : s.Sound) (ho : o ∈ s.operations) {y : Tracked}
    (hy : y ∈ (s.report o fact).operations) :
    y = { o with
        status := fact.status.instanceStatus
        executionFactId := some fact.executionFactId } ∨
      y ∈ s.operations ∧ y.target ≠ o.target := by
  obtain ⟨x, hx, rfl⟩ := mem_updateRecord.mp hy
  by_cases hid : x.operationInstanceId = o.operationInstanceId
  · obtain rfl := List.inj_on_of_nodup_map h.wellFormed.operationIds hx ho hid
    rw [if_pos rfl]
    exact .inl rfl
  · rw [if_neg hid]
    refine .inr ⟨hx, ?_⟩
    intro htarget
    obtain rfl := List.inj_on_of_nodup_map h.expanded.operationTargets hx ho htarget
    exact hid rfl

theorem report_operations_map {β : Type} (g : Tracked → β)
    (hg : ∀ (x : Tracked) (status : InstanceStatus) (id : Option String),
      g { x with status, executionFactId := id } = g x) :
    (s.report o fact).operations.map g = s.operations.map g :=
  map_updateRecord g fun x => hg x _ _

/-- A list of facts stays without repetition under a key that the new fact brings. -/
theorem nodup_report {κ : Type} {key : ExecutionFactRecord → κ} (hnodup : (s.facts.map key).Nodup)
    (hnew : ∀ f ∈ s.facts, f.target ≠ o.target → key f ≠ key fact) :
    ((s.report o fact).facts.map key).Nodup := by
  rw [report, List.map_append, List.nodup_append]
  refine ⟨hnodup.sublist (List.filter_sublist.map key), List.nodup_singleton _, ?_⟩
  intro k hk k' hk' heq
  obtain ⟨f, hf, rfl⟩ := List.mem_map.mp hk
  obtain ⟨hmem, htarget⟩ := List.mem_filter.mp hf
  rw [List.map_singleton, List.mem_singleton] at hk'
  exact hnew f hmem (of_decide_eq_true htarget) (heq.trans hk')

/-- **A report keeps a sound state sound**, under a fresh identity. -/
theorem report_sound (h : s.Sound) (ho : o ∈ s.operations) (htarget : fact.target = o.target)
    (hfresh : ∀ f ∈ s.facts, f.target ≠ o.target → f.executionFactId ≠ fact.executionFactId)
    (htimed : fact.actualStartAtUtc ≠ none ∧
      (fact.status = .running → fact.actualEndAtUtc = none)) : (s.report o fact).Sound := by
  obtain ⟨hw, he⟩ := h
  have hmem := fun {y : Tracked} (hy : y ∈ (s.report o fact).operations) =>
    mem_report_operations ⟨hw, he⟩ ho hy
  have hnew : fact ∈ (s.report o fact).facts := mem_report_facts.mpr (.inr rfl)
  refine ⟨⟨?_, nodup_report hw.factIds hfresh, hw.lockIds, hw.lotIds, ?_, hw.lotOrders, ?_, ?_, ?_,
    ?_⟩, ⟨?_, ?_, ?_, ?_⟩⟩
  · rw [report_operations_map _ fun _ _ _ => rfl]
    exact hw.operationIds
  · intro f hf
    rcases mem_report_facts.mp hf with ⟨hf, -⟩ | rfl
    · exact hw.factLots f hf
    · rw [htarget]
      exact List.mem_map.mpr ⟨_, hw.operationLots o ho, rfl⟩
  · intro y hy
    rcases hmem hy with rfl | ⟨hy, -⟩
    · exact hw.operationLots o ho
    · exact hw.operationLots y hy
  · intro y hy
    rcases hmem hy with rfl | ⟨hy, hne⟩
    · exact .inr ⟨fact, hnew, rfl, htarget, rfl⟩
    · refine (hw.attached y hy).imp_right ?_
      rintro ⟨f, hf, hid, hft, hstatus⟩
      exact ⟨f, mem_report_facts.mpr (.inl ⟨hf, hft ▸ hne⟩), hid, hft, hstatus⟩
  · intro y hy
    rcases hmem hy with rfl | ⟨hy, -⟩
    · exact hw.listed o ho
    · exact hw.listed y hy
  · intro f hf
    rcases mem_report_facts.mp hf with ⟨hf, -⟩ | rfl
    · exact hw.timed f hf
    · exact htimed
  · rw [report_operations_map _ fun _ _ _ => rfl]
    exact he.operationTargets
  · refine nodup_report he.factTargets ?_
    intro f _ hne
    rwa [htarget]
  · intro y hy f hf hft
    rcases mem_report_facts.mp hf with ⟨hf, hfne⟩ | rfl
    · rcases hmem hy with rfl | ⟨hy, -⟩
      · exact absurd hft hfne
      · exact he.effective y hy f hf hft
    · rcases hmem hy with rfl | ⟨-, hne⟩
      · exact ⟨rfl, rfl⟩
      · exact absurd (hft.symm.trans htarget) hne
  · intro lock hlock
    obtain ⟨x, hx, hlisted⟩ := he.owned lock hlock
    refine ⟨_, mem_updateRecord.mpr ⟨x, hx, rfl⟩, ?_⟩
    split
    · exact hlisted
    · exact hlisted

end Report

section Locks
variable {s : FactState} {o : Tracked}

/-- An operation after a change of the locks of one. -/
theorem mem_update_locks (h : s.WellFormed) (ho : o ∈ s.operations)
    (change : List String → List String) {y : Tracked} (hy : y ∈ updateRecord Tracked.operationInstanceId o.operationInstanceId
      (fun o => { o with lockIds := change o.lockIds }) s.operations) :
    y = { o with lockIds := change o.lockIds } ∨ y ∈ s.operations ∧ y ≠ o := by
  obtain ⟨x, hx, rfl⟩ := mem_updateRecord.mp hy
  by_cases hid : x.operationInstanceId = o.operationInstanceId
  · obtain rfl := List.inj_on_of_nodup_map h.operationIds hx ho hid
    rw [if_pos rfl]
    exact .inl rfl
  · rw [if_neg hid]
    exact .inr ⟨hx, fun heq => hid (heq ▸ rfl)⟩

theorem map_update_locks {β : Type} (g : Tracked → β)
    (hg : ∀ (x : Tracked) (lockIds : List String), g { x with lockIds } = g x)
    (change : List String → List String) :
    (updateRecord Tracked.operationInstanceId o.operationInstanceId
      (fun o => { o with lockIds := change o.lockIds }) s.operations).map g =
      s.operations.map g :=
  map_updateRecord g fun x => hg x _

/-- **A new lock keeps a sound state sound.** -/
theorem addLock_sound {lock : OperationLockRecord} (h : s.Sound) (ho : o ∈ s.operations)
    (htarget : lock.target = o.target) (hfresh : ∀ l ∈ s.locks, l.lockId ≠ lock.lockId) :
    (s.addLock o lock).Sound := by
  obtain ⟨hw, he⟩ := h
  have hmem := fun {y : Tracked} (hy : y ∈ (s.addLock o lock).operations) =>
    mem_update_locks hw ho (fun ids => sortByKey id (ids ++ [lock.lockId])) hy
  have hlock : lock ∈ (s.addLock o lock).locks := by simp [addLock]
  have hkept : ∀ l ∈ s.locks, l ∈ (s.addLock o lock).locks := by
    intro l hl
    simp [addLock, hl]
  -- an identity that an operation lists is that of a lock already there
  have hunlisted : ∀ y ∈ s.operations, lock.lockId ∉ y.lockIds := by
    intro y hy hlisted
    obtain ⟨l, hl, hid, -⟩ := (hw.listed y hy).2 _ hlisted
    exact hfresh l hl hid
  have hperm := sortByKey_perm id (o.lockIds ++ [lock.lockId])
  refine ⟨⟨?_, hw.factIds, ?_, hw.lotIds, hw.factLots, hw.lotOrders, ?_, ?_, ?_, hw.timed⟩,
    ⟨?_, he.factTargets, ?_, ?_⟩⟩
  · rw [addLock, map_update_locks _ (fun _ _ => rfl) fun ids => sortByKey id (ids ++ [lock.lockId])]
    exact hw.operationIds
  · rw [addLock, List.map_append, List.nodup_append]
    refine ⟨hw.lockIds, List.nodup_singleton _, ?_⟩
    intro k hk k' hk' heq
    obtain ⟨l, hl, rfl⟩ := List.mem_map.mp hk
    rw [List.map_singleton, List.mem_singleton] at hk'
    exact hfresh l hl (heq.trans hk')
  · intro y hy
    rcases hmem hy with rfl | ⟨hy, -⟩
    · exact hw.operationLots o ho
    · exact hw.operationLots y hy
  · intro y hy
    rcases hmem hy with rfl | ⟨hy, -⟩
    · exact hw.attached o ho
    · exact hw.attached y hy
  · intro y hy
    rcases hmem hy with rfl | ⟨hy, -⟩
    · refine ⟨hperm.nodup_iff.mpr ?_, ?_⟩
      · rw [← List.concat_eq_append]
        exact (hw.listed o ho).1.concat (hunlisted o ho)
      · intro id hid
        rw [mem_sortByKey, List.mem_append, List.mem_singleton] at hid
        rcases hid with hid | rfl
        · obtain ⟨l, hl, heq, htl⟩ := (hw.listed o ho).2 id hid
          exact ⟨l, hkept l hl, heq, htl⟩
        · exact ⟨lock, hlock, rfl, htarget⟩
    · refine ⟨(hw.listed y hy).1, ?_⟩
      intro id hid
      obtain ⟨l, hl, heq, htl⟩ := (hw.listed y hy).2 id hid
      exact ⟨l, hkept l hl, heq, htl⟩
  · rw [addLock, map_update_locks _ (fun _ _ => rfl) fun ids => sortByKey id (ids ++ [lock.lockId])]
    exact he.operationTargets
  · intro y hy
    rcases hmem hy with rfl | ⟨hy, -⟩
    · exact he.effective o ho
    · exact he.effective y hy
  · intro l hl
    rw [addLock, List.mem_append, List.mem_singleton] at hl
    rcases hl with hl | rfl
    · obtain ⟨x, hx, hlisted⟩ := he.owned l hl
      refine ⟨_, mem_updateRecord.mpr ⟨x, hx, rfl⟩, ?_⟩
      split
      · rw [mem_sortByKey]
        exact List.mem_append_left _ hlisted
      · exact hlisted
    · refine ⟨_, mem_updateRecord.mpr ⟨o, ho, rfl⟩, ?_⟩
      rw [if_pos rfl, mem_sortByKey]
      exact List.mem_append_right _ (List.mem_singleton.mpr rfl)

/-- **The release of a lock keeps a sound state sound**, where one operation lists it. -/
theorem removeLock_sound {lockId : String} (h : s.Sound) (ho : o ∈ s.operations)
    (honly : ∀ y ∈ s.operations, lockId ∈ y.lockIds → y = o) : (s.removeLock o lockId).Sound := by
  obtain ⟨hw, he⟩ := h
  have hmem := fun {y : Tracked} (hy : y ∈ (s.removeLock o lockId).operations) =>
    mem_update_locks hw ho (fun ids => ids.erase lockId) hy
  have hkept : ∀ l ∈ s.locks, l.lockId ≠ lockId → l ∈ (s.removeLock o lockId).locks := by
    intro l hl hne
    exact List.mem_filter.mpr ⟨hl, decide_eq_true hne⟩
  have hresolve : ∀ y ∈ s.operations, ∀ id ∈ y.lockIds, id ≠ lockId →
      ∃ lock ∈ (s.removeLock o lockId).locks, lock.lockId = id ∧ lock.target = y.target := by
    intro y hy id hid hne
    obtain ⟨l, hl, rfl, htl⟩ := (hw.listed y hy).2 id hid
    exact ⟨l, hkept l hl hne, rfl, htl⟩
  refine ⟨⟨?_, hw.factIds, ?_, hw.lotIds, hw.factLots, hw.lotOrders, ?_, ?_, ?_, hw.timed⟩,
    ⟨?_, he.factTargets, ?_, ?_⟩⟩
  · rw [removeLock, map_update_locks _ (fun _ _ => rfl) fun ids => ids.erase lockId]
    exact hw.operationIds
  · exact hw.lockIds.sublist (List.filter_sublist.map _)
  · intro y hy
    rcases hmem hy with rfl | ⟨hy, -⟩
    · exact hw.operationLots o ho
    · exact hw.operationLots y hy
  · intro y hy
    rcases hmem hy with rfl | ⟨hy, -⟩
    · exact hw.attached o ho
    · exact hw.attached y hy
  · intro y hy
    rcases hmem hy with rfl | ⟨hy, hne⟩
    · refine ⟨(hw.listed o ho).1.erase _, ?_⟩
      intro id hid
      obtain ⟨hne, hid⟩ := (hw.listed o ho).1.mem_erase_iff.mp hid
      exact hresolve o ho id hid hne
    · refine ⟨(hw.listed y hy).1, ?_⟩
      intro id hid
      refine hresolve y hy id hid ?_
      intro heq
      rw [heq] at hid
      exact hne (honly y hy hid)
  · rw [removeLock, map_update_locks _ (fun _ _ => rfl) fun ids => ids.erase lockId]
    exact he.operationTargets
  · intro y hy
    rcases hmem hy with rfl | ⟨hy, -⟩
    · exact he.effective o ho
    · exact he.effective y hy
  · intro l hl
    obtain ⟨hl, hne⟩ := List.mem_filter.mp hl
    obtain ⟨x, hx, hlisted⟩ := he.owned l hl
    refine ⟨_, mem_updateRecord.mpr ⟨x, hx, rfl⟩, ?_⟩
    split
    · exact (List.mem_erase_of_ne (of_decide_eq_true hne)).mpr hlisted
    · exact hlisted

end Locks

/-! ### Imports -/

/-- The state of an urgent import: it keeps what there is and adds operations of new orders. -/
structure Imports (s w : FactState) : Prop where
  wellFormed : w.WellFormed
  operationTargets : (w.operations.map Tracked.target).Nodup
  operations : ∀ o ∈ s.operations, o ∈ w.operations
  added : ∀ o ∈ w.operations, o ∈ s.operations ∨ o.productionOrderId ∉ s.orders
  facts : ∀ fact ∈ s.facts, ∃ found ∈ w.facts, found.Same fact
  origin : ∀ found ∈ w.facts, ∃ fact ∈ s.facts, found.Same fact
  locks : ∀ lock, lock ∈ w.locks ↔ lock ∈ s.locks
  lots : ∀ lot ∈ s.lots, lot ∈ w.lots

theorem same_target {a b : ExecutionFactRecord} (h : a.Same b) : a.target = b.target := by
  rw [h.2.2]
  rfl

theorem same_factId {a b : ExecutionFactRecord} (h : a.Same b) :
    a.executionFactId = b.executionFactId := by
  rw [h.2.2]

theorem same_status {a b : ExecutionFactRecord} (h : a.Same b) : a.status = b.status := by
  rw [h.2.2]

/-- An operation that an import adds has no fact. -/
theorem Imports.no_fact {s w : FactState} (h : s.WellFormed) (himports : s.Imports w) {o : Tracked}
    (ho : o ∈ w.operations) (hnew : o.productionOrderId ∉ s.orders) {fact : ExecutionFactRecord}
    (hfact : fact ∈ s.facts) : fact.target ≠ o.target := by
  intro htarget
  -- the lot of the fact was there before, under an order that was there before
  obtain ⟨lot, hlot, hid⟩ := List.mem_map.mp (h.factLots fact hfact)
  have horder := h.lotOrders lot hlot
  have hsame := List.inj_on_of_nodup_map himports.wellFormed.lotIds (himports.lots lot hlot)
    (himports.wellFormed.operationLots o ho) (by rw [hid, htarget])
  rw [hsame] at horder
  exact hnew horder

/-- **An import keeps a sound state sound.** -/
theorem Imports.sound {s w : FactState} (h : s.Sound) (himports : s.Imports w) : w.Sound := by
  obtain ⟨hw, he⟩ := h
  refine ⟨himports.wellFormed, himports.operationTargets, ?_, ?_, ?_⟩
  · refine himports.wellFormed.factIds.of_map _ |>.map_on ?_
    intro a ha b hb htarget
    obtain ⟨fa, hfa, hsa⟩ := himports.origin a ha
    obtain ⟨fb, hfb, hsb⟩ := himports.origin b hb
    have heq : fa = fb := List.inj_on_of_nodup_map he.factTargets hfa hfb
      (by rw [← same_target hsa, ← same_target hsb, htarget])
    refine List.inj_on_of_nodup_map himports.wellFormed.factIds ha hb ?_
    rw [same_factId hsa, same_factId hsb, heq]
  · intro o ho found hfound htarget
    obtain ⟨fact, hfact, hsame⟩ := himports.origin found hfound
    rw [same_target hsame] at htarget
    rcases himports.added o ho with hold | hnew
    · rw [same_factId hsame, same_status hsame]
      exact he.effective o hold fact hfact htarget
    · exact absurd htarget (himports.no_fact hw ho hnew hfact)
  · intro lock hlock
    obtain ⟨o, ho, hlisted⟩ := he.owned lock ((himports.locks lock).mp hlock)
    exact ⟨o, himports.operations o ho, hlisted⟩

end FactState

end PlantNexus.Execution
