import PlantNexus.Data.Kahn
import PlantNexus.Problem.Hashing

/-! The precedence check of a built problem.

The sweep of `_validate_dag_v2` ends, and it visits every node exactly when the precedence edges
have no cycle (`validateDagV2_iff`). Between two rounds its in-degrees count the edges from
nodes not yet visited and its queue holds the unvisited nodes without one (`RoundState`). -/
namespace PlantNexus.Problem
open Data

/-- The operations that the sweep visits, the completed ones among them. -/
def dagNodes (document : PlanningProblem) : List String :=
  (document.operationInstances.map OperationInstance.operationId ++
    document.historicalCompletionAnchors.map HistoricalCompletionAnchor.operationId).dedup

/-- The precedence edges by their ends. -/
def dagEdges (document : PlanningProblem) : List (String × String) :=
  document.precedenceEdges.map fun e => (e.predecessorOperationId, e.successorOperationId)

/-- The `while ready` loop runs to its end, with so many nodes visited. -/
inductive LoopEnds (successors : String → List String) :
    List String → (String → Int) → Nat → Nat → Prop
  | done (indegree : String → Int) (visited : Nat) :
    LoopEnds successors [] indegree visited visited
  | round {node : String} {ready : List String} {indegree : String → Int} {visited total : Nat} :
    LoopEnds successors
        ((sortByKey id (successors node)).foldl releaseSuccessor (ready, indegree)).1
        ((sortByKey id (successors node)).foldl releaseSuccessor (ready, indegree)).2
        (visited + 1) total →
      LoopEnds successors (node :: ready) indegree visited total

/-! ### One round -/

/-- What the releases of a round make of the queue and the in-degrees. -/
structure Released (released ready : List String) (indegree : String → Int)
    (state : List String × (String → Int)) : Prop where
  indegree_eq : ∀ n, state.2 n = indegree n - released.count n
  nodup : state.1.Nodup
  mem : ∀ n, n ∈ state.1 ↔ n ∈ ready ∨ n ∈ released ∧ indegree n = released.count n

theorem releaseSuccessor_foldl {released ready : List String} {indegree : String → Int}
    (hready : ready.Nodup) (hzero : ∀ n ∈ ready, indegree n = 0)
    (hcount : ∀ n, (released.count n : Int) ≤ indegree n) :
    Released released ready indegree (released.foldl releaseSuccessor (ready, indegree)) := by
  induction released generalizing ready indegree with
  | nil => exact ⟨by simp, hready, by simp⟩
  | cons s rest ih =>
    have hs : s ∉ ready := by
      intro hmem
      have hdegree := hcount s
      rw [hzero s hmem, List.count_cons_self] at hdegree
      omega
    have hcons : ∀ n, ((s :: rest).count n : Int) = rest.count n + if n = s then 1 else 0 := by
      intro n
      rw [List.count_cons]
      by_cases hn : n = s
      · simp [hn]
      · simp [hn, Ne.symm hn]
    have hnext : ∀ n, (releaseSuccessor (ready, indegree) s).2 n =
        indegree n - if n = s then 1 else 0 := by
      intro n
      unfold releaseSuccessor
      dsimp only
      split_ifs with hn
      · rw [hn]
      · omega
    -- the queue after this release, up to order
    have hqueue : ∀ n, n ∈ (releaseSuccessor (ready, indegree) s).1 ↔
        n ∈ ready ∨ n = s ∧ indegree s = 1 := by
      intro n
      unfold releaseSuccessor
      dsimp only
      split_ifs with hone
      · rw [mem_sortByKey, List.mem_append, List.mem_singleton]
        have : indegree s = 1 := by omega
        simp [this]
      · have : indegree s ≠ 1 := by omega
        simp [this]
    have hnodup : (releaseSuccessor (ready, indegree) s).1.Nodup := by
      unfold releaseSuccessor
      dsimp only
      split_ifs with hone
      · refine (sortByKey_perm _ _).nodup_iff.mpr (List.nodup_append.mpr
          ⟨hready, List.nodup_singleton _, ?_⟩)
        rintro a ha b hb rfl
        exact hs (List.mem_singleton.mp hb ▸ ha)
      · exact hready
    have hrest : Released rest (releaseSuccessor (ready, indegree) s).1
        (releaseSuccessor (ready, indegree) s).2
        (rest.foldl releaseSuccessor (releaseSuccessor (ready, indegree) s)) := by
      refine ih hnodup ?_ ?_
      · intro n hn
        rw [hnext n]
        rcases (hqueue n).mp hn with hn | ⟨rfl, hone⟩
        · have hne : n ≠ s := fun heq => hs (heq ▸ hn)
          rw [if_neg hne, hzero n hn]
          rfl
        · rw [if_pos rfl, hone]
          rfl
      · intro n
        have hn := hcount n
        rw [hcons n] at hn
        rw [hnext n]
        omega
    refine ⟨?_, hrest.nodup, ?_⟩
    · intro n
      rw [List.foldl_cons, hrest.indegree_eq n, hnext n, hcons n]
      omega
    · intro n
      have hn := hcount n
      rw [List.foldl_cons, hrest.mem n, hqueue n, hnext n, List.mem_cons, hcons n]
      rw [hcons n] at hn
      by_cases hns : n = s
      · subst hns
        have hpos : n ∈ rest ↔ 0 < rest.count n := List.count_pos_iff.symm
        simp only [hs, hpos, if_true, true_and, true_or, false_or] at hn ⊢
        omega
      · simp only [hns, if_false, false_and, or_false, false_or, sub_zero, add_zero]

section
variable {nodes : List String} {edges : List (String × String)}

/-- Between two rounds of the loop. -/
structure RoundState (nodes : List String) (edges : List (String × String))
    (done ready : List String) (indegree : String → Int) : Prop where
  progress : Kahn.Progress nodes edges done ready
  indegree_eq : ∀ n, indegree n = Kahn.openDegree edges done n

theorem RoundState.round {done ready : List String} {indegree : String → Int} {node : String}
    (h : RoundState nodes edges done (node :: ready) indegree)
    (hdeclared : ∀ e ∈ edges, e.2 ∈ nodes) :
    RoundState nodes edges (node :: done)
      ((sortByKey id (Kahn.successors edges node)).foldl releaseSuccessor (ready, indegree)).1
      ((sortByKey id (Kahn.successors edges node)).foldl releaseSuccessor (ready, indegree)).2 := by
  obtain ⟨hnew, -⟩ := h.progress.node_new
  obtain ⟨-, hready, -⟩ := List.nodup_append.mp h.progress.nodup
  have hperm := sortByKey_perm id (Kahn.successors edges node)
  have hsplit : ∀ n, indegree n =
      Kahn.openDegree edges (node :: done) n + (Kahn.successors edges node).count n := by
    intro n
    rw [h.indegree_eq n, ← Kahn.openDegree_cons edges hnew n]
    exact Nat.cast_add _ _
  have hreleased : Released (sortByKey id (Kahn.successors edges node)) ready indegree
      ((sortByKey id (Kahn.successors edges node)).foldl releaseSuccessor (ready, indegree)) := by
    refine releaseSuccessor_foldl (List.nodup_cons.mp hready).2 ?_ ?_
    · intro n hn
      rw [h.indegree_eq n]
      exact_mod_cast ((h.progress.mem n).mp
        (List.mem_append_right _ (List.mem_cons_of_mem _ hn))).2
    · intro n
      rw [hperm.count_eq n, hsplit n]
      omega
  refine ⟨h.progress.step hdeclared ⟨hreleased.nodup, fun n => ?_⟩, fun n => ?_⟩
  · have hn := hsplit n
    rw [hreleased.mem n, mem_sortByKey, hperm.count_eq n]
    refine or_congr_right (and_congr_right fun _ => ?_)
    omega
  · have hn := hsplit n
    rw [hreleased.indegree_eq n, hperm.count_eq n]
    omega

/-! ### The loop -/

/-- With as many rounds as nodes are left, the sweep is the loop run to its end. -/
theorem RoundState.sweep_ends {rounds : Nat} {done ready : List String} {indegree : String → Int}
    (h : RoundState nodes edges done ready indegree) (hdeclared : ∀ e ∈ edges, e.2 ∈ nodes)
    (hrounds : nodes.length ≤ rounds + done.length) :
    LoopEnds (Kahn.successors edges) ready indegree done.length
        (sweep (Kahn.successors edges) rounds ready indegree done.length) ∧
      ∃ visited, Kahn.Progress nodes edges visited [] ∧
        sweep (Kahn.successors edges) rounds ready indegree done.length = visited.length := by
  induction rounds generalizing done ready indegree with
  | zero =>
    have hlength := h.progress.length_le
    have hempty : ready = [] := List.length_eq_zero_iff.mp (by omega)
    subst hempty
    exact ⟨.done _ _, done, h.progress, rfl⟩
  | succ rounds ih =>
    cases ready with
    | nil => exact ⟨.done _ _, done, h.progress, rfl⟩
    | cons node ready =>
      obtain ⟨hends, hvisited⟩ := ih (h.round hdeclared) (by rw [List.length_cons]; omega)
      exact ⟨.round hends, hvisited⟩

end

/-! ### The check -/

theorem successors_dagEdges (document : PlanningProblem) (node : String) :
    ((document.precedenceEdges.filter fun e => e.predecessorOperationId = node).map
      PrecedenceEdge.successorOperationId) = Kahn.successors (dagEdges document) node := by
  unfold Kahn.successors dagEdges
  rw [List.filter_map, List.map_map]
  rfl

theorem indegree_dagEdges (document : PlanningProblem) (node : String) :
    ((document.precedenceEdges.filter fun e => e.successorOperationId = node).length : Int) =
      Kahn.openDegree (dagEdges document) [] node := by
  unfold Kahn.openDegree dagEdges
  rw [List.countP_map, List.countP_eq_length_filter]
  congr 3
  funext e
  simp

/-- The number of nodes that the loop visits. -/
def visitedCount (document : PlanningProblem) : Nat :=
  let indegree := fun node => (Kahn.openDegree (dagEdges document) [] node : Int)
  sweep (Kahn.successors (dagEdges document)) (dagNodes document).length
    (sortByKey id ((dagNodes document).filter fun node => indegree node = 0)) indegree 0

theorem validateDagV2_eq (document : PlanningProblem) :
    validateDagV2 document = .ok () ↔ visitedCount document = (dagNodes document).length := by
  unfold validateDagV2 visitedCount
  simp only [successors_dagEdges, indegree_dagEdges, require_eq_ok]
  rfl

/-- **The check ends, and it accepts exactly the problems whose precedence has no cycle.** An
edge given twice is released twice, and an edge from an operation to itself is a cycle. -/
theorem validateDagV2_iff (document : PlanningProblem)
    (hdeclared : ∀ e ∈ document.precedenceEdges, e.predecessorOperationId ∈ dagNodes document ∧
      e.successorOperationId ∈ dagNodes document) :
    LoopEnds (Kahn.successors (dagEdges document))
        (sortByKey id ((dagNodes document).filter fun node =>
          (Kahn.openDegree (dagEdges document) [] node : Int) = 0))
        (fun node => Kahn.openDegree (dagEdges document) [] node) 0 (visitedCount document) ∧
      (validateDagV2 document = .ok () ↔ Acyclic fun a b => ∃ e ∈ document.precedenceEdges,
        e.predecessorOperationId = a ∧ e.successorOperationId = b) := by
  have hnodes : (dagNodes document).Nodup := List.nodup_dedup _
  have hdeclared' : ∀ e ∈ dagEdges document, e.1 ∈ dagNodes document ∧ e.2 ∈ dagNodes document := by
    intro e he
    obtain ⟨edge, hm, rfl⟩ := List.mem_map.mp he
    exact hdeclared edge hm
  have hready : ((dagNodes document).filter fun node =>
      decide ((Kahn.openDegree (dagEdges document) [] node : Int) = 0)) =
      (dagNodes document).filter fun node => Kahn.openDegree (dagEdges document) [] node = 0 := by
    congr 1
    funext node
    simp
  have hstart : RoundState (dagNodes document) (dagEdges document) []
      (sortByKey id ((dagNodes document).filter fun node =>
        (Kahn.openDegree (dagEdges document) [] node : Int) = 0))
      (fun node => Kahn.openDegree (dagEdges document) [] node) :=
    ⟨.initial hnodes (hready ▸ sortByKey_perm _ _), fun _ => rfl⟩
  obtain ⟨hends, visited, hprogress, hcount⟩ := hstart.sweep_ends
    (fun e he => (hdeclared' e he).2)
    (Nat.le_add_right (dagNodes document).length ([] : List String).length)
  refine ⟨hends, ?_⟩
  have hedge : Kahn.Edge (dagEdges document) = fun a b => ∃ e ∈ document.precedenceEdges,
      e.predecessorOperationId = a ∧ e.successorOperationId = b := by
    funext a b
    simp [Kahn.Edge, dagEdges]
  rw [validateDagV2_eq, ← hedge, ← hprogress.finished_iff hnodes hdeclared', ← hcount]
  rfl

/-- Two operations with an edge between them given twice. -/
def parallelProblem : PlanningProblem :=
  { plainProblem with
    operationInstances := [plainOperation "O1", plainOperation "O2"]
    precedenceEdges := [⟨"E1", "O1", "O2", 0, 0, none⟩, ⟨"E2", "O1", "O2", 0, 0, none⟩] }

theorem validateDagV2_iff_parallel :
    (∀ e ∈ parallelProblem.precedenceEdges,
      e.predecessorOperationId ∈ dagNodes parallelProblem ∧
        e.successorOperationId ∈ dagNodes parallelProblem) ∧
      Acyclic fun a b => ∃ e ∈ parallelProblem.precedenceEdges,
        e.predecessorOperationId = a ∧ e.successorOperationId = b := by
  have hdeclared : ∀ e ∈ parallelProblem.precedenceEdges,
      e.predecessorOperationId ∈ dagNodes parallelProblem ∧
        e.successorOperationId ∈ dagNodes parallelProblem := by decide +kernel
  have hok : validateDagV2 parallelProblem = .ok () := by decide +kernel
  exact ⟨hdeclared, (validateDagV2_iff parallelProblem hdeclared).2.mp hok⟩

end PlantNexus.Problem
