import PlantNexus.Data.Graph
import Mathlib.Data.List.Count
import Mathlib.Data.List.Perm.Subperm
import Mathlib.Data.Fintype.Card
import Mathlib.Data.Set.Finite.List

/-! Topological sweeps of a finite directed graph.

A sweep finishes a node when every edge into it starts at a finished one. `Progress` is what
holds between the steps of any such sweep, whatever the order in which ready nodes are taken:
the finished nodes are listed once, latest first, with the sources of the edges into each of
them further down, and the ready nodes are the others without an open edge. A sweep that has no
ready node left has finished them all exactly when the graph is acyclic (`Progress.finished_iff`).
Parallel edges count separately, and an edge from a node to itself is never closed. -/
namespace PlantNexus.Data.Kahn

variable {α : Type*}

/-- There is an edge from `a` to `b`. -/
def Edge (edges : List (α × α)) (a b : α) : Prop := (a, b) ∈ edges

section
variable [DecidableEq α]

/-- The ends of the edges from a node, one for each edge. -/
def successors (edges : List (α × α)) (node : α) : List α :=
  (edges.filter fun e => e.1 = node).map Prod.snd

/-- The number of edges into a node from nodes that are not done. -/
def openDegree (edges : List (α × α)) (done : List α) (n : α) : Nat :=
  edges.countP fun e => e.2 = n ∧ e.1 ∉ done

theorem mem_successors {edges : List (α × α)} {node n : α} :
    n ∈ successors edges node ↔ (node, n) ∈ edges := by
  simp [successors]

theorem openDegree_eq_zero {edges : List (α × α)} {done : List α} {n : α} :
    openDegree edges done n = 0 ↔ ∀ e ∈ edges, e.2 = n → e.1 ∈ done := by
  simp [openDegree, List.countP_eq_zero]

/-- Finishing a node closes the edges from it. -/
theorem openDegree_cons (edges : List (α × α)) {done : List α} {node : α} (hnew : node ∉ done)
    (n : α) :
    openDegree edges (node :: done) n + (successors edges node).count n =
      openDegree edges done n := by
  induction edges with
  | nil => rfl
  | cons e rest ih =>
    unfold openDegree successors at *
    rw [List.countP_cons, List.countP_cons, List.filter_cons]
    by_cases hsource : e.1 = node
    · have hopen : e.1 ∉ done := hsource ▸ hnew
      by_cases htarget : e.2 = n
      · simp [hsource, htarget, hnew] at ih ⊢
        omega
      · simp [hsource, htarget] at ih ⊢
        omega
    · by_cases hopen : e.2 = n ∧ e.1 ∉ done
      · simp [hsource, hopen] at ih ⊢
        omega
      · simp [hsource, hopen] at ih ⊢
        omega

theorem openDegree_cons_le (edges : List (α × α)) {done : List α} {node : α}
    (hnew : node ∉ done) (n : α) : openDegree edges (node :: done) n ≤ openDegree edges done n := by
  rw [← openDegree_cons edges hnew n]
  exact Nat.le_add_right _ _

end

/-- Every edge into a listed node starts further down the list. -/
def Topological (edges : List (α × α)) : List α → Prop
  | [] => True
  | n :: rest => (∀ e ∈ edges, e.2 = n → e.1 ∈ rest) ∧ Topological edges rest

theorem Topological.closed {edges : List (α × α)} {listed : List α} (h : Topological edges listed)
    {a b : α} (hedge : Edge edges a b) (hb : b ∈ listed) : a ∈ listed := by
  induction listed with
  | nil => exact absurd hb List.not_mem_nil
  | cons n rest ih =>
    rcases List.mem_cons.mp hb with rfl | hb
    · exact List.mem_cons_of_mem _ (h.1 (a, b) hedge rfl)
    · exact List.mem_cons_of_mem _ (ih h.2 hb)

theorem Topological.closed_walk {edges : List (α × α)} {listed : List α}
    (h : Topological edges listed) {a b : α} (hwalk : Relation.ReflTransGen (Edge edges) a b)
    (hb : b ∈ listed) : a ∈ listed := by
  induction hwalk with
  | refl => exact hb
  | tail _ hedge ih => exact ih (h.closed hedge hb)

/-- No cycle goes through a listed node. -/
theorem Topological.no_cycle {edges : List (α × α)} {listed : List α} (h : Topological edges listed)
    (hnodup : listed.Nodup) {a : α} (ha : a ∈ listed) : ¬Relation.TransGen (Edge edges) a a := by
  induction listed with
  | nil => exact absurd ha List.not_mem_nil
  | cons n rest ih =>
    obtain ⟨hnew, hrest⟩ := List.nodup_cons.mp hnodup
    intro hcycle
    rcases List.mem_cons.mp ha with rfl | ha
    · obtain ⟨last, hwalk, hedge⟩ := Relation.TransGen.tail'_iff.mp hcycle
      exact hnew (h.2.closed_walk hwalk (h.1 (last, a) hedge rfl))
    · exact ih h.2 hrest ha hcycle

/-- **Without cycles, a nonempty finite set of nodes has one with no edge from the set.** -/
theorem exists_source {edges : List (α × α)} (hacyclic : Acyclic (Edge edges)) {nodes : List α}
    {n : α} (hn : n ∈ nodes) : ∃ m ∈ nodes, ∀ a ∈ nodes, ¬Edge edges a m := by
  let reaches : {n // n ∈ nodes} → {n // n ∈ nodes} → Prop := fun a b =>
    Relation.TransGen (Edge edges) a.1 b.1
  have hfinite : Finite {n // n ∈ nodes} := (List.finite_toSet nodes).to_subtype
  have htrans : IsTrans _ reaches := ⟨fun _ _ _ => Relation.TransGen.trans⟩
  have hirrefl : Std.Irrefl reaches := ⟨fun a => hacyclic a.1⟩
  have hwell : WellFounded reaches := Finite.wellFounded_of_trans_of_irrefl reaches
  obtain ⟨m, -, hmin⟩ := hwell.has_min Set.univ ⟨⟨n, hn⟩, trivial⟩
  exact ⟨m.1, m.2, fun a ha hedge => hmin ⟨a, ha⟩ trivial (.single hedge)⟩

/-! ### The sweep -/

variable [DecidableEq α]

/-- Between two steps of a sweep. -/
structure Progress (nodes : List α) (edges : List (α × α)) (done ready : List α) : Prop where
  nodup : (done ++ ready).Nodup
  mem : ∀ n, n ∈ done ++ ready ↔ n ∈ nodes ∧ openDegree edges done n = 0
  topological : Topological edges done

variable {nodes : List α} {edges : List (α × α)} {done ready ready' : List α} {node : α}

theorem Progress.initial (hnodes : nodes.Nodup)
    (hready : ready.Perm (nodes.filter fun n => openDegree edges [] n = 0)) :
    Progress nodes edges [] ready where
  nodup := hready.nodup_iff.mpr (hnodes.filter _)
  mem n := by
    rw [List.nil_append, hready.mem_iff, List.mem_filter, decide_eq_true_eq]
  topological := trivial

theorem Progress.length_le (h : Progress nodes edges done ready) :
    done.length + ready.length ≤ nodes.length := by
  rw [← List.length_append]
  exact (h.nodup.subperm fun n hn => ((h.mem n).mp hn).1).length_le

/-- The nodes that a step makes ready are those whose last open edges it closes. -/
structure Releases (edges : List (α × α)) (done ready ready' : List α) (node : α) : Prop where
  nodup : ready'.Nodup
  mem : ∀ n, n ∈ ready' ↔
    n ∈ ready ∨ n ∈ successors edges node ∧ openDegree edges (node :: done) n = 0

theorem Progress.node_new (h : Progress nodes edges done (node :: ready)) :
    node ∉ done ∧ node ∉ ready := by
  obtain ⟨-, hready, hdisjoint⟩ := List.nodup_append.mp h.nodup
  refine ⟨fun hmem => hdisjoint node hmem node (List.mem_cons_self ..) rfl, ?_⟩
  exact (List.nodup_cons.mp hready).1

/-- A node with an edge from one that is not done is neither done nor ready. -/
theorem Progress.not_mem_of_edge (h : Progress nodes edges done ready) {a n : α}
    (hedge : (a, n) ∈ edges) (ha : a ∉ done) : n ∉ done ++ ready := fun hmem =>
  ha (openDegree_eq_zero.mp ((h.mem n).mp hmem).2 (a, n) hedge rfl)

theorem Progress.step (h : Progress nodes edges done (node :: ready))
    (hdeclared : ∀ e ∈ edges, e.2 ∈ nodes) (hrel : Releases edges done ready ready' node) :
    Progress nodes edges (node :: done) ready' := by
  obtain ⟨hnew, hnotReady⟩ := h.node_new
  obtain ⟨hdone, hready, hdisjoint⟩ := List.nodup_append.mp h.nodup
  have hreleased : ∀ n ∈ successors edges node, n ∉ done ++ node :: ready := fun n hn =>
    h.not_mem_of_edge (mem_successors.mp hn) hnew
  have hnode : node ∈ nodes ∧ openDegree edges done node = 0 :=
    (h.mem node).mp (List.mem_append_right _ (List.mem_cons_self ..))
  refine ⟨?_, ?_, ?_⟩
  · refine List.nodup_append.mpr ⟨List.nodup_cons.mpr ⟨hnew, hdone⟩, hrel.nodup, ?_⟩
    rintro a ha b hb rfl
    rcases (hrel.mem a).mp hb with hold | ⟨hsucc, -⟩
    · rcases List.mem_cons.mp ha with rfl | ha
      · exact hnotReady hold
      · exact hdisjoint a ha a (List.mem_cons_of_mem _ hold) rfl
    · refine hreleased a hsucc (List.mem_append.mpr ?_)
      rcases List.mem_cons.mp ha with rfl | ha
      · exact .inr (List.mem_cons_self ..)
      · exact .inl ha
  · intro n
    have hbefore : n ∈ node :: done ++ ready ↔ n ∈ nodes ∧ openDegree edges done n = 0 := by
      rw [← h.mem n]
      simp only [List.mem_append, List.mem_cons]
      tauto
    have hle := openDegree_cons_le edges hnew n
    have hsplit := openDegree_cons edges hnew n
    rw [List.mem_append, hrel.mem n, ← or_assoc, ← List.mem_append, hbefore]
    constructor
    · rintro (⟨hn, hzero⟩ | ⟨hsucc, hzero⟩)
      · exact ⟨hn, by omega⟩
      · exact ⟨hdeclared _ (mem_successors.mp hsucc), hzero⟩
    · rintro ⟨hn, hzero⟩
      by_cases hsucc : n ∈ successors edges node
      · exact .inr ⟨hsucc, hzero⟩
      · rw [List.count_eq_zero.mpr hsucc] at hsplit
        exact .inl ⟨hn, by omega⟩
  · exact ⟨openDegree_eq_zero.mp hnode.2, h.topological⟩

/-- **A sweep with nothing ready has finished every node exactly when there is no cycle.** -/
theorem Progress.finished_iff (h : Progress nodes edges done []) (hnodes : nodes.Nodup)
    (hdeclared : ∀ e ∈ edges, e.1 ∈ nodes ∧ e.2 ∈ nodes) :
    done.length = nodes.length ↔ Acyclic (Edge edges) := by
  have hmem : ∀ n, n ∈ done ↔ n ∈ nodes ∧ openDegree edges done n = 0 := by
    intro n
    rw [← h.mem n, List.append_nil]
  have hnodup : done.Nodup := by simpa using h.nodup
  have hsub : done ⊆ nodes := fun n hn => ((hmem n).mp hn).1
  constructor
  · intro hlength a hcycle
    have hperm : done.Perm nodes := (hnodup.subperm hsub).perm_of_length_le hlength.ge
    obtain ⟨b, hedge, -⟩ := Relation.TransGen.head'_iff.mp hcycle
    have ha : a ∈ done := hperm.mem_iff.mpr (hdeclared (a, b) hedge).1
    exact h.topological.no_cycle hnodup ha hcycle
  · intro hacyclic
    have hall : ∀ n ∈ nodes, n ∈ done := by
      by_contra hsome
      push Not at hsome
      obtain ⟨n, hn, hleft⟩ := hsome
      -- among the nodes left, one has no edge from the others, so it is ready
      have hn' : n ∈ nodes.filter (· ∉ done) :=
        List.mem_filter.mpr ⟨hn, by simpa using hleft⟩
      obtain ⟨m, hm, hsource⟩ := exists_source hacyclic hn'
      obtain ⟨hmNodes, hmLeft⟩ := List.mem_filter.mp hm
      refine (decide_eq_true_eq.mp hmLeft) ((hmem m).mpr ⟨hmNodes, openDegree_eq_zero.mpr ?_⟩)
      rintro ⟨a, m'⟩ hedge rfl
      by_contra ha
      exact hsource a (List.mem_filter.mpr ⟨(hdeclared _ hedge).1, by simpa using ha⟩) hedge
    exact le_antisymm (hnodup.subperm hsub).length_le (hnodes.subperm hall).length_le

end PlantNexus.Data.Kahn
