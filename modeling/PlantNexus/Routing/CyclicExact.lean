import PlantNexus.Routing.Components

/-! The search for cyclic components is exact.

Between two rounds of the first search the visited nodes are those that have finished and those
still on the stack as expanded, and every expanded node leads to what lies above it (`Searching`).
So the finished nodes stand in a finishing order, and each search of the second pass collects one
whole component (`Collecting`, `collectLoop_component`). -/
namespace PlantNexus.Routing
open Data Relation

variable {nodes : Finset String} {adjacency : Adjacency nodes}

/-! ### Edges -/

/-- The edges of an adjacency map. -/
def Edge (adjacency : Adjacency nodes) (a b : String) : Prop := b ∈ adjacency.get a

namespace Adjacency

theorem mem_get {a b : String} :
    b ∈ adjacency.get a ↔ ∃ item ∈ adjacency.items, item.1 = a ∧ b ∈ item.2 := by
  unfold get
  constructor
  · intro h
    cases hfind : adjacency.items.find? (fun item => item.1 = a) with
    | none =>
      rw [hfind] at h
      exact absurd h (Finset.notMem_empty b)
    | some item =>
      rw [hfind] at h
      exact ⟨item, List.mem_of_find?_eq_some hfind,
        of_decide_eq_true (List.find?_some hfind :), h⟩
  · rintro ⟨item, hitem, rfl, hb⟩
    have hfind : adjacency.items.find? (fun other => other.1 = item.1) = some item := by
      rw [← List.head?_filter, filter_key_eq_singleton Prod.fst _ adjacency.distinct hitem]
      rfl
    rw [hfind]
    exact hb

theorem mem_nodes_of_edge {a b : String} (h : Edge adjacency a b) : a ∈ nodes ∧ b ∈ nodes := by
  obtain ⟨item, hitem, rfl, hb⟩ := mem_get.mp h
  exact ⟨adjacency.keys item hitem, adjacency.targets item hitem hb⟩

theorem mem_of_reaches {a b : String} (h : ReflTransGen (Edge adjacency) a b) (ha : a ∈ nodes) :
    b ∈ nodes := by
  cases h with
  | refl => exact ha
  | tail _ hedge => exact (mem_nodes_of_edge hedge).2

theorem get_subset (a : String) : adjacency.get a ⊆ nodes :=
  fun _ hb => (mem_nodes_of_edge hb).2

theorem mem_transpose {a b : String} : a ∈ adjacency.transpose b ↔ Edge adjacency a b := by
  have hfold : ∀ (items : List (String × Finset String)) (start : String → Finset String),
      a ∈ items.foldl (fun transpose item node =>
        if node ∈ item.2 then insert item.1 (transpose node) else transpose node) start b ↔
      a ∈ start b ∨ ∃ item ∈ items, item.1 = a ∧ b ∈ item.2 := by
    intro items
    induction items with
    | nil =>
      intro start
      simp
    | cons item rest ih =>
      intro start
      rw [List.foldl_cons, ih]
      by_cases hb : b ∈ item.2
      · simp only [hb, if_true, Finset.mem_insert, List.mem_cons, exists_eq_or_imp, and_true]
        rw [eq_comm (a := a), or_comm (a := item.1 = a), or_assoc]
      · simp [hb]
  rw [transpose, hfold, Edge, mem_get]
  simp

end Adjacency

theorem mem_sortedReverse {values : Finset String} {a : String} :
    a ∈ sortedReverse values ↔ a ∈ values := by
  rw [sortedReverse, List.mem_reverse, Finset.mem_sort]

theorem length_sortedReverse (values : Finset String) :
    (sortedReverse values).length = values.card := by
  rw [sortedReverse, List.length_reverse, Finset.length_sort]

/-! ### The first search -/

/-- What lies above an expanded node on the stack: no second entry that expanded it, all its
neighbours that are not yet visited, and only nodes that it leads to. -/
structure Above (adjacency : Adjacency nodes) (visited : Finset String) (node : String)
    (above : List (String × Bool)) : Prop where
  once : (node, true) ∉ above
  pending : ∀ b, Edge adjacency node b → b ∈ visited ∨ (b, false) ∈ above
  led : ∀ entry ∈ above, ReflTransGen (Edge adjacency) node entry.1

/-- What holds between two rounds of the first search. -/
structure Searching (adjacency : Adjacency nodes) (state : SearchState) : Prop where
  order : FinishOrder (Edge adjacency) state.finishOrder.reverse
  nodup : state.finishOrder.Nodup
  visited_iff : ∀ n, n ∈ state.visited ↔ n ∈ state.finishOrder ∨ (n, true) ∈ state.stack
  active : ∀ n, (n, true) ∈ state.stack → n ∉ state.finishOrder
  finished : ∀ n ∈ state.finishOrder, ∀ b, Edge adjacency n b → b ∈ state.visited
  visited : state.visited ⊆ nodes
  entries : ∀ entry ∈ state.stack, entry.1 ∈ nodes
  above : ∀ above g below, state.stack = above ++ (g, true) :: below →
    Above adjacency state.visited g above

theorem pushes_eq (visited : Finset String) (values : List String) (stack : List (String × Bool)) :
    values.foldl (fun stack neighbor =>
      if neighbor ∈ visited then stack else (neighbor, false) :: stack) stack =
    ((values.filter fun n => n ∉ visited).map fun n => (n, false)).reverse ++ stack := by
  induction values generalizing stack with
  | nil => rfl
  | cons value rest ih =>
    rw [List.foldl_cons, ih]
    by_cases hvalue : value ∈ visited
    · simp [hvalue]
    · simp [hvalue]

/-- The entries that the expansion of a node pushes. -/
def pushed (adjacency : Adjacency nodes) (visited : Finset String) (node : String) :
    List (String × Bool) :=
  (((sortedReverse (adjacency.get node)).filter fun n => n ∉ visited).map
    fun n => (n, false)).reverse

theorem mem_pushed {visited : Finset String} {node : String} {entry : String × Bool} :
    entry ∈ pushed adjacency visited node ↔
      entry.2 = false ∧ Edge adjacency node entry.1 ∧ entry.1 ∉ visited := by
  rw [pushed, List.mem_reverse, List.mem_map]
  simp only [List.mem_filter, mem_sortedReverse, decide_eq_true_eq]
  constructor
  · rintro ⟨n, ⟨hedge, hnew⟩, rfl⟩
    exact ⟨rfl, hedge, hnew⟩
  · rintro ⟨hflag, hedge, hnew⟩
    exact ⟨entry.1, ⟨hedge, hnew⟩, Prod.ext rfl hflag.symm⟩

theorem length_pushed_le (visited : Finset String) (node : String) :
    (pushed adjacency visited node).length ≤ nodes.card := by
  rw [pushed, List.length_reverse, List.length_map]
  calc _ ≤ (sortedReverse (adjacency.get node)).length := List.length_filter_le ..
    _ = (adjacency.get node).card := length_sortedReverse _
    _ ≤ nodes.card := Finset.card_le_card (adjacency.get_subset node)

theorem expand_stack (state : SearchState) (node : String) (rest : List (String × Bool)) :
    (expand adjacency.get state node rest).stack =
      pushed adjacency (insert node state.visited) node ++ (node, true) :: rest :=
  pushes_eq _ _ _

/-- Where a list of entries that expanded nothing ends. -/
theorem split_above {entries rest above below : List (String × Bool)} {g : String}
    (hentries : ∀ entry ∈ entries, entry.2 = false)
    (h : entries ++ rest = above ++ (g, true) :: below) :
    ∃ tail, above = entries ++ tail ∧ rest = tail ++ (g, true) :: below := by
  rcases List.append_eq_append_iff.mp h with ⟨tail, habove, hrest⟩ | ⟨tail, hleft, hright⟩
  · exact ⟨tail, habove, hrest⟩
  · cases tail with
    | nil =>
      rw [List.append_nil] at hleft
      exact ⟨[], by rw [List.append_nil, hleft], hright.symm⟩
    | cons entry tail =>
      have hentry : (g, true) = entry := (List.cons.inj hright).1
      have hmem : entry ∈ entries := hleft ▸ List.mem_append_right _ (List.mem_cons_self ..)
      have hfalse := hentries entry hmem
      rw [← hentry] at hfalse
      cases hfalse

namespace Searching
variable {state : SearchState} {node : String} {rest : List (String × Bool)}

theorem initial (h : Searching adjacency state) (hstack : state.stack = []) {root : String}
    (hroot : root ∈ nodes) : Searching adjacency { state with stack := [(root, false)] } := by
  refine ⟨h.order, h.nodup, fun n => ?_, ?_, h.finished, h.visited, ?_, ?_⟩
  · rw [h.visited_iff, hstack]
    simp
  · intro n hn
    simp at hn
  · intro entry hentry
    rw [List.mem_singleton.mp hentry]
    exact hroot
  · intro above g below hsplit
    have hmem : (g, true) ∈ above ++ (g, true) :: below :=
      List.mem_append_right _ (List.mem_cons_self ..)
    rw [← hsplit] at hmem
    simp at hmem

/-- The top of the stack has been expanded: it finishes. -/
theorem finish (h : Searching adjacency state) (hstack : state.stack = (node, true) :: rest) :
    Searching adjacency
      { state with finishOrder := state.finishOrder ++ [node], stack := rest } := by
  have htop := h.above [] node rest hstack
  have hnew : node ∉ state.finishOrder := h.active node (hstack ▸ List.mem_cons_self ..)
  have hrest : (node, true) ∉ rest := by
    intro hmem
    obtain ⟨above, below, rfl⟩ := List.append_of_mem hmem
    exact (h.above ((node, true) :: above) node below hstack).once (List.mem_cons_self ..)
  have hexits : FinishesAfter (Edge adjacency) state.finishOrder.reverse node := by
    intro b hb
    have hclosed : ∀ a b, a ∈ node :: state.finishOrder.reverse → Edge adjacency a b →
        b ∈ node :: state.finishOrder.reverse ∨ (b, true) ∈ rest := by
      intro a b ha hedge
      have hb : b ∈ state.visited := by
        rcases List.mem_cons.mp ha with rfl | ha
        · exact (htop.pending b hedge).resolve_right List.not_mem_nil
        · exact h.finished a (List.mem_reverse.mp ha) b hedge
      rcases (h.visited_iff b).mp hb with hb | hb
      · exact .inl (List.mem_cons_of_mem _ (List.mem_reverse.mpr hb))
      · rw [hstack] at hb
        rcases List.mem_cons.mp hb with heq | hb
        · exact .inl ((Prod.mk.inj heq).1 ▸ List.mem_cons_self ..)
        · exact .inr hb
    rcases exists_exit hclosed (List.mem_cons_self ..) hb with hin | ⟨g, hg, hwalk⟩
    · exact .inl hin
    · obtain ⟨above, below, rfl⟩ := List.append_of_mem hg
      have hback := (h.above ((node, true) :: above) g below hstack).led (node, true)
        (List.mem_cons_self ..)
      refine .inr ⟨g, fun hmem => ?_, hwalk, hback⟩
      rcases List.mem_cons.mp hmem with rfl | hmem
      · exact hrest hg
      · exact h.active g (hstack ▸ List.mem_cons_of_mem _ hg) (List.mem_reverse.mp hmem)
  refine ⟨?_, ?_, fun n => ?_, fun n hn => ?_, fun n hn b hedge => ?_, h.visited,
    fun entry hentry => h.entries entry (hstack ▸ List.mem_cons_of_mem _ hentry), ?_⟩
  · show FinishOrder _ (state.finishOrder ++ [node]).reverse
    rw [List.reverse_append, List.reverse_singleton, List.singleton_append]
    exact ⟨hexits, h.order⟩
  · exact List.nodup_append.mpr ⟨h.nodup, List.nodup_singleton _, fun a ha b hb heq =>
      hnew (List.mem_singleton.mp hb ▸ heq ▸ ha)⟩
  · rw [h.visited_iff, hstack, List.mem_cons, List.mem_append, List.mem_singleton, Prod.mk.injEq,
      and_iff_left rfl, or_assoc]
  · rw [List.mem_append, List.mem_singleton]
    rintro (hmem | rfl)
    · exact h.active n (hstack ▸ List.mem_cons_of_mem _ hn) hmem
    · exact hrest hn
  · rcases List.mem_append.mp hn with hn | hn
    · exact h.finished n hn b hedge
    · rw [List.mem_singleton.mp hn] at hedge
      exact (htop.pending b hedge).resolve_right List.not_mem_nil
  · intro above g below hsplit
    have habove := h.above ((node, true) :: above) g below
      (hstack.trans (congrArg ((node, true) :: ·) hsplit))
    refine ⟨fun hmem => habove.once (List.mem_cons_of_mem _ hmem), fun b hedge => ?_,
      fun entry hentry => habove.led entry (List.mem_cons_of_mem _ hentry)⟩
    refine (habove.pending b hedge).imp_right fun hmem => ?_
    rcases List.mem_cons.mp hmem with heq | hmem
    · cases heq
    · exact hmem

/-- The top of the stack was visited on the way: it is dropped. -/
theorem drop (h : Searching adjacency state) (hstack : state.stack = (node, false) :: rest)
    (hnode : node ∈ state.visited) : Searching adjacency { state with stack := rest } := by
  refine ⟨h.order, h.nodup, fun n => ?_, fun n hn => ?_, h.finished, h.visited,
    fun entry hentry => h.entries entry (hstack ▸ List.mem_cons_of_mem _ hentry), ?_⟩
  · rw [h.visited_iff, hstack, List.mem_cons]
    simp
  · exact h.active n (hstack ▸ List.mem_cons_of_mem _ hn)
  · intro above g below hsplit
    have habove := h.above ((node, false) :: above) g below
      (hstack.trans (congrArg ((node, false) :: ·) hsplit))
    refine ⟨fun hmem => habove.once (List.mem_cons_of_mem _ hmem), fun b hedge => ?_,
      fun entry hentry => habove.led entry (List.mem_cons_of_mem _ hentry)⟩
    rcases habove.pending b hedge with hb | hb
    · exact .inl hb
    · rcases List.mem_cons.mp hb with heq | hb
      · exact .inl ((Prod.mk.inj heq).1 ▸ hnode)
      · exact .inr hb

/-- The top of the stack is new: it is expanded. -/
theorem expand (h : Searching adjacency state) (hstack : state.stack = (node, false) :: rest)
    (hnode : node ∉ state.visited) :
    Searching adjacency (expand adjacency.get state node rest) := by
  have hmem : node ∈ nodes := h.entries (node, false) (hstack ▸ List.mem_cons_self ..)
  have hflags : ∀ entry ∈ pushed adjacency (insert node state.visited) node, entry.2 = false :=
    fun entry hentry => (mem_pushed.mp hentry).1
  have hactive : ∀ n, (n, true) ∈ (Routing.expand adjacency.get state node rest).stack ↔
      n = node ∨ (n, true) ∈ state.stack := by
    intro n
    rw [expand_stack, List.mem_append, List.mem_cons, hstack, List.mem_cons, mem_pushed]
    simp
  refine ⟨h.order, h.nodup, fun n => ?_, fun n hn => ?_, fun n hn b hedge => ?_, ?_, ?_, ?_⟩
  · rw [hactive]
    show n ∈ insert node state.visited ↔ n ∈ state.finishOrder ∨ _
    rw [Finset.mem_insert, h.visited_iff, or_left_comm]
  · rcases (hactive n).mp hn with rfl | hn
    · exact fun hfinished => hnode ((h.visited_iff n).mpr (.inl hfinished))
    · exact h.active n hn
  · exact Finset.mem_insert_of_mem (h.finished n hn b hedge)
  · exact Finset.insert_subset hmem h.visited
  · intro entry hentry
    rw [expand_stack, List.mem_append, List.mem_cons, mem_pushed] at hentry
    rcases hentry with ⟨-, hedge, -⟩ | rfl | hentry
    · exact (Adjacency.mem_nodes_of_edge hedge).2
    · exact hmem
    · exact h.entries entry (hstack ▸ List.mem_cons_of_mem _ hentry)
  · intro above g below hsplit
    rw [expand_stack] at hsplit
    obtain ⟨tail, rfl, hrest⟩ := split_above hflags hsplit
    cases tail with
    | nil =>
      -- the node itself: its neighbours are visited or have just been pushed
      obtain ⟨rfl, -⟩ := Prod.mk.inj (List.cons.inj hrest).1
      rw [List.append_nil]
      refine ⟨fun hself => absurd (hflags _ hself) (by simp), fun b hedge => ?_,
        fun entry hentry => .single (mem_pushed.mp hentry).2.1⟩
      by_cases hb : b ∈ insert node state.visited
      · exact .inl hb
      · exact .inr (mem_pushed.mpr ⟨rfl, hedge, hb⟩)
    | cons entry tail =>
      obtain ⟨rfl, rfl⟩ := List.cons.inj hrest
      have habove := h.above ((node, false) :: tail) g below hstack
      have hgnode : ReflTransGen (Edge adjacency) g node :=
        habove.led (node, false) (List.mem_cons_self ..)
      refine ⟨fun hself => ?_, fun b hedge => ?_, fun entry hentry => ?_⟩
      · rcases List.mem_append.mp hself with hself | hself
        · exact absurd (hflags _ hself) (by simp)
        · rcases List.mem_cons.mp hself with heq | hself
          · refine hnode ((h.visited_iff node).mpr (.inr ?_))
            rw [hstack, ← (Prod.mk.inj heq).1]
            exact List.mem_cons_of_mem _ (List.mem_append_right _ (List.mem_cons_self ..))
          · exact habove.once (List.mem_cons_of_mem _ hself)
      · rcases habove.pending b hedge with hb | hb
        · exact .inl (Finset.mem_insert_of_mem hb)
        · rcases List.mem_cons.mp hb with heq | hb
          · exact .inl ((Prod.mk.inj heq).1 ▸ Finset.mem_insert_self ..)
          · exact .inr (List.mem_append_right _ (List.mem_cons_of_mem _ hb))
      · rcases List.mem_append.mp hentry with hentry | hentry
        · exact hgnode.tail (mem_pushed.mp hentry).2.1
        · rcases List.mem_cons.mp hentry with rfl | hentry
          · exact hgnode
          · exact habove.led entry (List.mem_cons_of_mem _ hentry)

theorem round {expanded : Bool} (h : Searching adjacency state)
    (hstack : state.stack = (node, expanded) :: rest) :
    Searching adjacency (searchRound adjacency.get state node expanded rest) := by
  unfold searchRound
  cases expanded with
  | true => exact h.finish hstack
  | false =>
    rw [if_neg Bool.false_ne_true]
    split_ifs with hnode
    · exact h.drop hstack hnode
    · exact h.expand hstack hnode

end Searching

/-- How many rounds a state of the first search has before it at most. -/
def roundsLeft (nodes : Finset String) (state : SearchState) : Nat :=
  (nodes.card - state.visited.card) * (nodes.card + 2) + state.stack.length

/-- A node that has been visited, or is about to be. -/
def SearchState.Found (state : SearchState) (n : String) : Prop :=
  n ∈ state.visited ∨ ∃ expanded, (n, expanded) ∈ state.stack

theorem searchRound_spec {state : SearchState} {node : String} {expanded : Bool}
    {rest : List (String × Bool)} (h : Searching adjacency state)
    (hstack : state.stack = (node, expanded) :: rest) :
    roundsLeft nodes (searchRound adjacency.get state node expanded rest) < roundsLeft nodes state ∧
      ∀ n, state.Found n → (searchRound adjacency.get state node expanded rest).Found n := by
  have hlength : state.stack.length = rest.length + 1 := by rw [hstack, List.length_cons]
  have hfound : ∀ (next : SearchState), state.visited ⊆ next.visited → node ∈ next.visited →
      (∀ entry ∈ rest, entry ∈ next.stack) → ∀ n, state.Found n → next.Found n := by
    rintro next hvisited hnode hrest n (hn | ⟨flag, hn⟩)
    · exact .inl (hvisited hn)
    · rw [hstack] at hn
      rcases List.mem_cons.mp hn with heq | hn
      · exact .inl ((Prod.mk.inj heq).1 ▸ hnode)
      · exact .inr ⟨flag, hrest _ hn⟩
  unfold searchRound roundsLeft
  cases expanded with
  | true =>
    have hnode : node ∈ state.visited :=
      (h.visited_iff node).mpr (.inr (hstack ▸ List.mem_cons_self ..))
    exact ⟨by simp only [if_true]; omega, hfound _ (fun _ hn => hn) hnode fun _ hentry => hentry⟩
  | false =>
    rw [if_neg Bool.false_ne_true]
    split_ifs with hnode
    · exact ⟨by dsimp only; omega, hfound _ (fun _ hn => hn) hnode fun _ hentry => hentry⟩
    · refine ⟨?_, hfound _ (fun n hn => Finset.mem_insert_of_mem hn)
        (Finset.mem_insert_self ..) fun entry hentry => ?_⟩
      · have hvisited : (expand adjacency.get state node rest).visited.card =
            state.visited.card + 1 := Finset.card_insert_of_notMem hnode
        have hle := Finset.card_le_card (h.expand hstack hnode).visited
        rw [hvisited] at hle
        have hpushed : (pushed adjacency (insert node state.visited) node).length ≤ nodes.card :=
          length_pushed_le _ _
        rw [expand_stack, hvisited, List.length_append, List.length_cons, hlength]
        obtain ⟨left, hleft⟩ : ∃ left, nodes.card - state.visited.card = left + 1 :=
          ⟨nodes.card - state.visited.card - 1, by omega⟩
        have hnext : nodes.card - (state.visited.card + 1) = left := by omega
        rw [hleft, hnext, Nat.succ_mul]
        omega
      · rw [expand_stack]
        exact List.mem_append_right _ (List.mem_cons_of_mem _ hentry)

theorem searchLoop_nil (neighbors : String → Finset String) (fuel : Nat) {state : SearchState}
    (hstack : state.stack = []) : searchLoop neighbors fuel state = some state := by
  obtain ⟨finishOrder, visited, stack⟩ := state
  cases hstack
  cases fuel <;> rfl

theorem searchLoop_cons (neighbors : String → Finset String) (fuel : Nat) {state : SearchState}
    {node : String} {expanded : Bool} {rest : List (String × Bool)}
    (hstack : state.stack = (node, expanded) :: rest) :
    searchLoop neighbors (fuel + 1) state =
      searchLoop neighbors fuel (searchRound neighbors state node expanded rest) := by
  obtain ⟨finishOrder, visited, stack⟩ := state
  cases hstack
  rfl

/-- **The first search ends** with every node that was on the stack visited. -/
theorem searchLoop_ends {fuel : Nat} {state : SearchState} (h : Searching adjacency state)
    (hfuel : roundsLeft nodes state ≤ fuel) :
    ∃ final, searchLoop adjacency.get fuel state = some final ∧ Searching adjacency final ∧
      final.stack = [] ∧ ∀ n, state.Found n → n ∈ final.visited := by
  induction fuel generalizing state with
  | zero =>
    have hstack : state.stack = [] := by
      unfold roundsLeft at hfuel
      exact List.length_eq_zero_iff.mp (by omega)
    refine ⟨state, searchLoop_nil _ _ hstack, h, hstack, fun n hn => hn.resolve_right ?_⟩
    rw [hstack]
    simp
  | succ fuel ih =>
    cases hstack : state.stack with
    | nil =>
      refine ⟨state, searchLoop_nil _ _ hstack, h, hstack, fun n hn => hn.resolve_right ?_⟩
      rw [hstack]
      simp
    | cons entry rest =>
      obtain ⟨node, expanded⟩ := entry
      obtain ⟨hless, hkeeps⟩ := searchRound_spec h hstack
      obtain ⟨final, hloop, hfinal, hempty, hfound⟩ := ih (h.round hstack) (by omega)
      exact ⟨final, (searchLoop_cons _ _ hstack).trans hloop, hfinal, hempty,
        fun n hn => hfound n (hkeeps n hn)⟩

/-- The fuel that every loop over a set of nodes runs in. -/
def enoughFuel (nodes : Finset String) : Nat := nodes.card * (nodes.card + 2) + 1

/-- The first search from every root: a finishing order of all nodes. -/
theorem search_ends (adjacency : Adjacency nodes) {fuel : Nat} (hfuel : enoughFuel nodes ≤ fuel) :
    ∃ final, nodes.sort.foldlM (searchFrom adjacency.get fuel) ⟨[], ∅, []⟩ = some final ∧
      FinishOrder (Edge adjacency) final.finishOrder.reverse ∧ final.finishOrder.Nodup ∧
      ∀ n, n ∈ final.finishOrder ↔ n ∈ nodes := by
  have hroots : ∀ (roots : List String) (state : SearchState), (∀ root ∈ roots, root ∈ nodes) →
      Searching adjacency state → state.stack = [] →
      ∃ final, roots.foldlM (searchFrom adjacency.get fuel) state = some final ∧
        Searching adjacency final ∧ final.stack = [] ∧
        ∀ n, n ∈ state.visited ∨ n ∈ roots → n ∈ final.visited := by
    intro roots
    induction roots with
    | nil =>
      intro state _ h hstack
      exact ⟨state, rfl, h, hstack, fun n hn => hn.resolve_right List.not_mem_nil⟩
    | cons root rest ih =>
      intro state hnodes h hstack
      have hroot := hnodes root (List.mem_cons_self ..)
      obtain ⟨next, hnext, hinv, hempty, hfound⟩ :
          ∃ next, searchFrom adjacency.get fuel state root = some next ∧
            Searching adjacency next ∧ next.stack = [] ∧
            ∀ n, n ∈ state.visited ∨ n = root → n ∈ next.visited := by
        unfold searchFrom
        by_cases hseen : root ∈ state.visited
        · rw [if_pos hseen]
          refine ⟨state, rfl, h, hstack, ?_⟩
          rintro n (hn | rfl)
          · exact hn
          · exact hseen
        · rw [if_neg hseen]
          have hle : roundsLeft nodes { state with stack := [(root, false)] } ≤ fuel := by
            refine le_trans ?_ hfuel
            exact Nat.add_le_add_right (Nat.mul_le_mul_right _ (Nat.sub_le ..)) _
          obtain ⟨final, hloop, hfinal, hempty, hfound⟩ :=
            searchLoop_ends (h.initial hstack hroot) hle
          refine ⟨final, hloop, hfinal, hempty, ?_⟩
          rintro n (hn | rfl)
          · exact hfound n (.inl hn)
          · exact hfound n (.inr ⟨false, List.mem_cons_self ..⟩)
      obtain ⟨final, hloop, hfinal, hend, hall⟩ :=
        ih next (fun n hn => hnodes n (List.mem_cons_of_mem _ hn)) hinv hempty
      refine ⟨final, by rw [List.foldlM_cons, hnext]; exact hloop, hfinal, hend, fun n hn => ?_⟩
      rw [List.mem_cons, ← or_assoc] at hn
      exact hall n (hn.imp_left (hfound n))
  obtain ⟨final, hloop, h, hstack, hall⟩ := hroots nodes.sort ⟨[], ∅, []⟩
    (fun root hroot => (Finset.mem_sort _).mp hroot)
    ⟨trivial, List.nodup_nil, by simp, by simp, by simp, by simp, by simp, by simp⟩ rfl
  have hvisited : ∀ n, n ∈ final.visited ↔ n ∈ final.finishOrder := by
    intro n
    rw [h.visited_iff, hstack]
    simp
  refine ⟨final, hloop, h.order, h.nodup, fun n => ⟨fun hn => ?_, fun hn => ?_⟩⟩
  · exact h.visited ((hvisited n).mpr hn)
  · exact (hvisited n).mp (hall n (.inr ((Finset.mem_sort _).mpr hn)))

/-! ### The second search -/

/-- What holds between two rounds of a search of the second pass: `taken` had been assigned
before it. -/
structure Collecting (adjacency : Adjacency nodes) (taken : Finset String) (root : String)
    (state : CollectState) : Prop where
  assigned_iff : ∀ n, n ∈ state.assigned ↔ n ∈ taken ∨ n ∈ state.component ++ state.stack
  nodup : (state.component ++ state.stack).Nodup
  free : ∀ n ∈ state.component ++ state.stack, n ∉ taken
  leads : ∀ n ∈ state.component ++ state.stack, ReflTransGen (Edge adjacency) n root
  within : ∀ n ∈ state.component ++ state.stack, n ∈ nodes
  first : state.component.head? = some root ∨ state.component = [] ∧ state.stack = [root]
  root : root ∈ state.component ++ state.stack

namespace Collecting
variable {taken : Finset String} {root : String} {state : CollectState}

theorem initial (hroot : root ∈ nodes) (hfree : root ∉ taken) :
    Collecting adjacency taken root ⟨[], insert root taken, [root]⟩ := by
  refine ⟨fun n => ?_, List.nodup_singleton _, ?_, ?_, ?_, .inr ⟨rfl, rfl⟩,
    List.mem_singleton_self _⟩
  · rw [Finset.mem_insert, List.nil_append, List.mem_singleton, or_comm]
  all_goals
    intro n hn
    rw [List.mem_singleton.mp hn]
  · exact hfree
  · exact hroot

/-- A neighbour that leads to the root is put on the stack unless it has been assigned. -/
theorem assign (h : Collecting adjacency taken root state) (hstart : state.component ≠ [])
    {neighbor : String} (hnode : neighbor ∈ nodes)
    (hleads : ReflTransGen (Edge adjacency) neighbor root) :
    Collecting adjacency taken root (assign state neighbor) := by
  unfold Routing.assign
  split_ifs with hassigned
  · exact h
  · have hperm : (state.component ++ neighbor :: state.stack).Perm
        (neighbor :: (state.component ++ state.stack)) := List.perm_middle
    have hnew := fun hmem => hassigned ((h.assigned_iff neighbor).mpr hmem)
    refine ⟨fun n => ?_, hperm.nodup_iff.mpr (List.nodup_cons.mpr
      ⟨fun hmem => hnew (.inr hmem), h.nodup⟩), ?_, ?_, ?_, ?_, ?_⟩
    · show n ∈ insert neighbor state.assigned ↔
        n ∈ taken ∨ n ∈ state.component ++ neighbor :: state.stack
      rw [Finset.mem_insert, h.assigned_iff, hperm.mem_iff, List.mem_cons, or_left_comm]
    · intro n hn
      rcases List.mem_cons.mp (hperm.mem_iff.mp hn) with rfl | hn
      · exact fun htaken => hnew (.inl htaken)
      · exact h.free n hn
    · intro n hn
      rcases List.mem_cons.mp (hperm.mem_iff.mp hn) with rfl | hn
      · exact hleads
      · exact h.leads n hn
    · intro n hn
      rcases List.mem_cons.mp (hperm.mem_iff.mp hn) with rfl | hn
      · exact hnode
      · exact h.within n hn
    · exact .inl (h.first.resolve_right fun hempty => hstart hempty.1)
    · exact hperm.mem_iff.mpr (List.mem_cons_of_mem _ h.root)

/-- All neighbours of a node at once. -/
theorem assign_all {values : List String} (h : Collecting adjacency taken root state)
    (hstart : state.component ≠ []) (hnodes : ∀ n ∈ values, n ∈ nodes)
    (hleads : ∀ n ∈ values, ReflTransGen (Edge adjacency) n root) :
    Collecting adjacency taken root (values.foldl Routing.assign state) ∧
      (values.foldl Routing.assign state).component = state.component ∧
      (∀ n ∈ values, n ∈ (values.foldl Routing.assign state).assigned) ∧
      state.assigned ⊆ (values.foldl Routing.assign state).assigned := by
  induction values generalizing state with
  | nil => exact ⟨h, rfl, fun _ hn => absurd hn List.not_mem_nil, fun _ hn => hn⟩
  | cons value rest ih =>
    have hcomponent : (Routing.assign state value).component = state.component := by
      unfold Routing.assign
      split_ifs <;> rfl
    have hassigned : insert value state.assigned ⊆ (Routing.assign state value).assigned := by
      unfold Routing.assign
      split_ifs with hvalue
      · exact Finset.insert_subset hvalue fun _ hn => hn
      · exact fun _ hn => hn
    obtain ⟨hinv, hsame, hall, hkeep⟩ := ih
      (h.assign hstart (hnodes value (List.mem_cons_self ..))
        (hleads value (List.mem_cons_self ..)))
      (hcomponent ▸ hstart) (fun n hn => hnodes n (List.mem_cons_of_mem _ hn))
      (fun n hn => hleads n (List.mem_cons_of_mem _ hn))
    refine ⟨hinv, hsame.trans hcomponent, fun n hn => ?_,
      fun n hn => hkeep (hassigned (Finset.mem_insert_of_mem hn))⟩
    rcases List.mem_cons.mp hn with rfl | hn
    · exact hkeep (hassigned (Finset.mem_insert_self ..))
    · exact hall n hn

/-- One round: the next node joins the component, and what leads to it is assigned. -/
theorem round {node : String} {rest : List String} (h : Collecting adjacency taken root state)
    (hstack : state.stack = node :: rest) :
    Collecting adjacency taken root (collectRound adjacency.transpose state node rest) ∧
      (collectRound adjacency.transpose state node rest).component = state.component ++ [node] ∧
      (∀ n, Edge adjacency n node →
        n ∈ (collectRound adjacency.transpose state node rest).assigned) ∧
      state.assigned ⊆ (collectRound adjacency.transpose state node rest).assigned := by
  have hsame : (state.component ++ [node]) ++ rest = state.component ++ state.stack := by
    rw [hstack, List.append_assoc, List.singleton_append]
  have hpopped : Collecting adjacency taken root
      { state with component := state.component ++ [node], stack := rest } := by
    refine ⟨?_, ?_, ?_, ?_, ?_, ?_, ?_⟩ <;> dsimp only
    · exact hsame ▸ h.assigned_iff
    · exact hsame ▸ h.nodup
    · exact hsame ▸ h.free
    · exact hsame ▸ h.leads
    · exact hsame ▸ h.within
    · rcases h.first with hfirst | ⟨hempty, hroot⟩
      · have hne : state.component ≠ [] := by
          intro hnil
          rw [hnil] at hfirst
          cases hfirst
        exact .inl ((List.head?_append_of_ne_nil _ hne).trans hfirst)
      · rw [hstack] at hroot
        rw [hempty, (List.cons.inj hroot).1]
        exact .inl rfl
    · exact hsame ▸ h.root
  have hnode : node ∈ state.component ++ state.stack :=
    List.mem_append_right _ (hstack ▸ List.mem_cons_self ..)
  have hleads : ∀ n ∈ sortedReverse (adjacency.transpose node),
      ReflTransGen (Edge adjacency) n root := fun n hn =>
    (ReflTransGen.single (Adjacency.mem_transpose.mp (mem_sortedReverse.mp hn))).trans
      (h.leads node hnode)
  have hnodes : ∀ n ∈ sortedReverse (adjacency.transpose node), n ∈ nodes := fun n hn =>
    (Adjacency.mem_nodes_of_edge (Adjacency.mem_transpose.mp (mem_sortedReverse.mp hn))).1
  obtain ⟨hinv, hcomponent, hall, hkeep⟩ := hpopped.assign_all
    (List.append_ne_nil_of_right_ne_nil _ (List.cons_ne_nil _ _)) hnodes hleads
  exact ⟨hinv, hcomponent, fun n hedge =>
    hall n (mem_sortedReverse.mpr (Adjacency.mem_transpose.mpr hedge)), hkeep⟩

end Collecting

/-- **A search of the second pass ends** with all that leads to a node it collected assigned. -/
theorem collectLoop_ends {taken : Finset String} {root : String} {fuel : Nat}
    {state : CollectState} (h : Collecting adjacency taken root state)
    (hfuel : nodes.card ≤ fuel + state.component.length)
    (hclosed : ∀ n ∈ state.component, ∀ p, Edge adjacency p n → p ∈ state.assigned) :
    ∃ final, collectLoop adjacency.transpose fuel state = some final ∧
      Collecting adjacency taken root final ∧ final.stack = [] ∧
      ∀ n ∈ final.component, ∀ p, Edge adjacency p n → p ∈ final.assigned := by
  have hcard : (state.component ++ state.stack).length ≤ nodes.card := by
    rw [← List.toFinset_card_of_nodup h.nodup]
    exact Finset.card_le_card fun n hn => h.within n (List.mem_toFinset.mp hn)
  induction fuel generalizing state with
  | zero =>
    have hstack : state.stack = [] := by
      rw [List.length_append] at hcard
      exact List.length_eq_zero_iff.mp (by omega)
    obtain ⟨component, assigned, stack⟩ := state
    cases hstack
    exact ⟨_, rfl, h, rfl, hclosed⟩
  | succ fuel ih =>
    cases hstack : state.stack with
    | nil =>
      obtain ⟨component, assigned, stack⟩ := state
      cases hstack
      exact ⟨_, rfl, h, rfl, hclosed⟩
    | cons node rest =>
      obtain ⟨hinv, hcomponent, hleading, hkeep⟩ := h.round hstack
      have hnext : nodes.card ≤ fuel +
          (collectRound adjacency.transpose state node rest).component.length := by
        rw [hcomponent, List.length_append, List.length_singleton]
        omega
      have hlength : ((collectRound adjacency.transpose state node rest).component ++
          (collectRound adjacency.transpose state node rest).stack).length ≤ nodes.card := by
        rw [← List.toFinset_card_of_nodup hinv.nodup]
        exact Finset.card_le_card fun n hn => hinv.within n (List.mem_toFinset.mp hn)
      obtain ⟨final, hloop, hfinal⟩ := ih hinv hnext (fun n hn p hedge => by
        rw [hcomponent, List.mem_append, List.mem_singleton] at hn
        rcases hn with hn | rfl
        · exact hkeep (hclosed n hn p hedge)
        · exact hleading p hedge) hlength
      refine ⟨final, ?_, hfinal⟩
      obtain ⟨component, assigned, stack⟩ := state
      cases hstack
      exact hloop

/-- The sorted nodes of a strongly connected component with a second node or a self-loop. -/
structure IsCyclicComponent (adjacency : Adjacency nodes) (component : List String) : Prop where
  sorted : component.Pairwise (· < ·)
  connected : ∃ root ∈ nodes, ∀ n, n ∈ component ↔ SameComponent (Edge adjacency) root n
  cyclic : (∃ a ∈ component, ∃ b ∈ component, a ≠ b) ∨ ∃ a ∈ component, Edge adjacency a a

theorem lt_of_sorted {values : List String} (hnodup : values.Nodup) :
    (sortByKey id values).Pairwise (· < ·) := by
  have hne : (sortByKey id values).Pairwise (· ≠ ·) :=
    (sortByKey_perm id values).nodup_iff.mpr hnodup
  exact (sortByKey_pairwise id values).imp₂ (fun a b hle hne => lt_of_le_of_ne hle hne) hne

/-- A search of the second pass collects the component of its root. -/
theorem collectLoop_component {latest earlier : List String} {root : String}
    {taken : Finset String} (horder : FinishOrder (Edge adjacency) (latest ++ root :: earlier))
    (hnodup : (latest ++ root :: earlier).Nodup)
    (hall : ∀ n, n ∈ latest ++ root :: earlier ↔ n ∈ nodes) (hlatest : ∀ n ∈ latest, n ∈ taken)
    (hwhole : ∀ a b, a ∈ taken → SameComponent (Edge adjacency) a b → b ∈ taken)
    (hfree : root ∉ taken) {fuel : Nat} (hfuel : nodes.card ≤ fuel) :
    ∃ final, collectLoop adjacency.transpose fuel ⟨[], insert root taken, [root]⟩ = some final ∧
      (∀ n, n ∈ final.assigned ↔ n ∈ taken ∨ n ∈ final.component) ∧ final.component.Nodup ∧
      final.component.head? = some root ∧
      ∀ n, n ∈ final.component ↔ SameComponent (Edge adjacency) root n := by
  have hroot : root ∈ nodes :=
    (hall root).mp (List.mem_append_right _ (List.mem_cons_self ..))
  have hstart : nodes.card ≤
      fuel + (CollectState.mk [] (insert root taken) [root]).component.length := hfuel
  obtain ⟨final, hloop, hinv, hstack, hclosed⟩ := collectLoop_ends
    (Collecting.initial hroot hfree) hstart (fun n hn => absurd hn List.not_mem_nil)
  have hsame : final.component ++ final.stack = final.component := by
    rw [hstack, List.append_nil]
  obtain ⟨hassigned, hnodup', hfree', hleads, hwithin, hfirst, hmem⟩ := hinv
  rw [hsame] at hnodup' hfree' hleads hwithin hmem
  simp only [hsame] at hassigned
  refine ⟨final, hloop, hassigned, hnodup', hfirst.resolve_right fun hempty => ?_,
    fun n => ⟨fun hn => ?_, fun hn => ?_⟩⟩
  · rw [hempty.1] at hmem
    exact absurd hmem List.not_mem_nil
  · refine ((FinishOrder.leading_iff (· ∈ taken) horder hnodup ?_ hlatest hwhole
      ((hall n).mpr (hwithin n hn)) (hfree' n hn)).mp (hleads n hn)).symm
    exact fun a b _ hedge => (hall b).mpr (Adjacency.mem_nodes_of_edge hedge).2
  · -- along a walk to the root, inside its component
    obtain ⟨hfrom, hto⟩ := hn
    induction hto using ReflTransGen.head_induction_on with
    | refl => exact hmem
    | @head a c hedge hwalk ih =>
      have hc : c ∈ final.component := ih (hfrom.tail hedge)
      have ha := (hassigned a).mp (hclosed c hc a hedge)
      refine ha.resolve_left fun htaken => hfree (hwhole a root htaken ⟨?_, hfrom⟩)
      exact ReflTransGen.head hedge hwalk

/-- What the second search has after the latest nodes. -/
structure Collected (adjacency : Adjacency nodes) (latest : List String) (state : Components) :
    Prop where
  covered : ∀ n ∈ latest, n ∈ state.assigned
  whole : ∀ a b, a ∈ state.assigned → SameComponent (Edge adjacency) a b → b ∈ state.assigned
  nodup : state.cyclic.Nodup
  mem_iff : ∀ component, component ∈ state.cyclic ↔
    IsCyclicComponent adjacency component ∧ ∀ n ∈ component, n ∈ state.assigned

theorem IsCyclicComponent.ne_nil {component : List String}
    (h : IsCyclicComponent adjacency component) : component ≠ [] := by
  obtain ⟨root, -, hiff⟩ := h.connected
  exact List.ne_nil_of_mem ((hiff root).mpr (.refl root))

/-- The component of a root is recorded when it is cyclic. -/
theorem recordComponent_spec {root : String} {component : List String} (hroot : root ∈ nodes)
    (hnodup : component.Nodup) (hfirst : component.head? = some root)
    (hiff : ∀ n, n ∈ component ↔ SameComponent (Edge adjacency) root n)
    (cyclic : List (List String)) :
    recordComponent adjacency cyclic component = cyclic ++ [sortByKey id component] ∧
        IsCyclicComponent adjacency (sortByKey id component) ∨
      recordComponent adjacency cyclic component = cyclic ∧
        ¬IsCyclicComponent adjacency (sortByKey id component) := by
  obtain ⟨rest, rfl⟩ : ∃ rest, component = root :: rest := by
    cases component with
    | nil => cases hfirst
    | cons first rest => exact ⟨rest, (Option.some.inj hfirst) ▸ rfl⟩
  have hmem : ∀ n, n ∈ sortByKey id (root :: rest) ↔ n ∈ root :: rest := mem_sortByKey id _
  unfold recordComponent
  dsimp only
  rw [length_sortByKey, List.length_cons]
  split_ifs with hcyclic
  · refine .inl ⟨rfl, lt_of_sorted hnodup, ⟨root, hroot, fun n => (hmem n).trans (hiff n)⟩, ?_⟩
    rcases hcyclic with hlength | hloop
    · obtain ⟨second, others, rfl⟩ :=
        List.exists_cons_of_length_pos (Nat.lt_of_succ_lt_succ hlength)
      refine .inl ⟨root, (hmem root).mpr (List.mem_cons_self ..), second,
        (hmem second).mpr (List.mem_cons_of_mem _ (List.mem_cons_self ..)), fun heq => ?_⟩
      exact (List.nodup_cons.mp hnodup).1 (heq ▸ List.mem_cons_self ..)
    · exact .inr ⟨root, (hmem root).mpr (List.mem_cons_self ..), hloop⟩
  · refine .inr ⟨rfl, fun h => hcyclic ?_⟩
    cases rest with
    | nil =>
      have hone : ∀ n ∈ sortByKey id [root], n = root := fun n hn =>
        List.mem_singleton.mp ((hmem n).mp hn)
      rcases h.cyclic with ⟨a, ha, b, hb, hne⟩ | ⟨a, ha, hloop⟩
      · exact absurd ((hone a ha).trans (hone b hb).symm) hne
      · exact .inr (hone a ha ▸ hloop)
    | cons second others => exact .inl (by simp)

/-- One root of the second search. -/
theorem Collected.step {latest earlier : List String} {root : String} {state : Components}
    (h : Collected adjacency latest state)
    (horder : FinishOrder (Edge adjacency) (latest ++ root :: earlier))
    (hnodup : (latest ++ root :: earlier).Nodup)
    (hall : ∀ n, n ∈ latest ++ root :: earlier ↔ n ∈ nodes) {fuel : Nat}
    (hfuel : nodes.card ≤ fuel) :
    ∃ next, collectFrom adjacency fuel state root = some next ∧
      Collected adjacency (latest ++ [root]) next := by
  unfold collectFrom
  by_cases hseen : root ∈ state.assigned
  · rw [if_pos hseen]
    refine ⟨state, rfl, fun n hn => ?_, h.whole, h.nodup, h.mem_iff⟩
    rcases List.mem_append.mp hn with hn | hn
    · exact h.covered n hn
    · exact List.mem_singleton.mp hn ▸ hseen
  rw [if_neg hseen]
  have hroot : root ∈ nodes :=
    (hall root).mp (List.mem_append_right _ (List.mem_cons_self ..))
  obtain ⟨final, hloop, hassigned, hdistinct, hfirst, hiff⟩ :=
    collectLoop_component horder hnodup hall h.covered h.whole hseen hfuel
  refine ⟨⟨final.assigned, recordComponent adjacency state.cyclic final.component⟩,
    by rw [hloop]; rfl, ?_⟩
  have hnew : root ∈ final.component := (hiff root).mpr (.refl root)
  have hwhole : ∀ a b, a ∈ final.assigned → SameComponent (Edge adjacency) a b →
      b ∈ final.assigned := by
    intro a b ha hsame
    rcases (hassigned a).mp ha with ha | ha
    · exact (hassigned b).mpr (.inl (h.whole a b ha hsame))
    · exact (hassigned b).mpr (.inr ((hiff b).mpr (((hiff a).mp ha).trans hsame)))
  -- a component with its nodes assigned had them assigned before, or is the one of the root
  have hsplit : ∀ component, IsCyclicComponent adjacency component →
      ((∀ n ∈ component, n ∈ final.assigned) ↔
        (∀ n ∈ component, n ∈ state.assigned) ∨ component = sortByKey id final.component) := by
    intro component hcomponent
    obtain ⟨start, -, hstart⟩ := hcomponent.connected
    constructor
    · intro hwithin
      rcases (hassigned start).mp (hwithin start ((hstart start).mpr (.refl start))) with hs | hs
      · exact .inl fun n hn => h.whole start n hs ((hstart n).mp hn)
      · refine .inr (List.SortedLT.eq_of_mem_iff hcomponent.sorted.sortedLT
          (lt_of_sorted hdistinct).sortedLT fun n => ?_)
        rw [mem_sortByKey, hstart, hiff]
        have hconnected := (hiff start).mp hs
        exact ⟨fun hn => hconnected.trans hn, fun hn => hconnected.symm.trans hn⟩
    · rintro (hbefore | rfl) n hn
      · exact (hassigned n).mpr (.inl (hbefore n hn))
      · exact (hassigned n).mpr (.inr ((mem_sortByKey id _ n).mp hn))
  have hfresh : ¬∀ n ∈ sortByKey id final.component, n ∈ state.assigned := fun hmem =>
    hseen (hmem root ((mem_sortByKey id _ root).mpr hnew))
  have hcovered : ∀ n ∈ latest ++ [root], n ∈ final.assigned := by
    intro n hn
    rcases List.mem_append.mp hn with hn | hn
    · exact (hassigned n).mpr (.inl (h.covered n hn))
    · exact (hassigned n).mpr (.inr (List.mem_singleton.mp hn ▸ hnew))
  rcases recordComponent_spec hroot hdistinct hfirst hiff state.cyclic with
    ⟨hrecord, hcyclic⟩ | ⟨hrecord, hcyclic⟩
  · refine ⟨hcovered, hwhole, ?_, fun component => ?_⟩
    · rw [hrecord]
      refine List.nodup_append.mpr ⟨h.nodup, List.nodup_singleton _, fun a ha b hb heq => ?_⟩
      rw [List.mem_singleton.mp hb] at heq
      exact hfresh (heq ▸ ((h.mem_iff a).mp ha).2)
    · rw [hrecord, List.mem_append, List.mem_singleton, h.mem_iff]
      constructor
      · rintro (⟨hcomponent, hbefore⟩ | rfl)
        · exact ⟨hcomponent, (hsplit component hcomponent).mpr (.inl hbefore)⟩
        · exact ⟨hcyclic, (hsplit _ hcyclic).mpr (.inr rfl)⟩
      · rintro ⟨hcomponent, hwithin⟩
        exact ((hsplit component hcomponent).mp hwithin).imp_left fun hbefore =>
          ⟨hcomponent, hbefore⟩
  · refine ⟨hcovered, hwhole, ?_, fun component => ?_⟩
    · rw [hrecord]
      exact h.nodup
    · rw [hrecord, h.mem_iff]
      refine and_congr_right fun hcomponent => ?_
      rw [hsplit component hcomponent, or_iff_left]
      rintro rfl
      exact hcyclic hcomponent

/-- The second search over the rest of the nodes. -/
theorem Collected.run {latest earlier : List String} {state : Components}
    (h : Collected adjacency latest state)
    (horder : FinishOrder (Edge adjacency) (latest ++ earlier))
    (hnodup : (latest ++ earlier).Nodup) (hall : ∀ n, n ∈ latest ++ earlier ↔ n ∈ nodes)
    {fuel : Nat} (hfuel : nodes.card ≤ fuel) :
    ∃ final, earlier.foldlM (collectFrom adjacency fuel) state = some final ∧
      Collected adjacency (latest ++ earlier) final := by
  induction earlier generalizing latest state with
  | nil => exact ⟨state, rfl, (List.append_nil latest).symm ▸ h⟩
  | cons root rest ih =>
    obtain ⟨next, hnext, hstep⟩ := h.step horder hnodup hall hfuel
    have hsame : latest ++ root :: rest = latest ++ [root] ++ rest := by
      rw [List.append_assoc, List.singleton_append]
    rw [hsame] at horder hnodup hall ⊢
    obtain ⟨final, hloop, hfinal⟩ := ih hstep horder hnodup hall
    exact ⟨final, by rw [List.foldlM_cons, hnext]; exact hloop, hfinal⟩

/-- The sorted list of cyclic components is all that enough fuel can give. -/
theorem cyclicComponents_spec (adjacency : Adjacency nodes) {fuel : Nat}
    (hfuel : enoughFuel nodes ≤ fuel) :
    ∃ components, cyclicComponents adjacency fuel = some components ∧
      components.Pairwise (· < ·) ∧
      ∀ component, component ∈ components ↔ IsCyclicComponent adjacency component := by
  obtain ⟨search, hsearch, horder, hnodup, hall⟩ := search_ends adjacency hfuel
  have hcard : nodes.card ≤ fuel := by
    refine le_trans (le_trans ?_ (Nat.le_succ _)) hfuel
    exact Nat.le_mul_of_pos_right _ (Nat.succ_pos _)
  have hstart : Collected adjacency [] ⟨∅, []⟩ := by
    refine ⟨fun n hn => absurd hn List.not_mem_nil, fun a b ha => absurd ha (Finset.notMem_empty a),
      List.nodup_nil, fun component => ⟨fun hmem => absurd hmem List.not_mem_nil, ?_⟩⟩
    rintro ⟨hcomponent, hnone⟩
    obtain ⟨n, hn⟩ := List.exists_mem_of_ne_nil _ hcomponent.ne_nil
    exact absurd (hnone n hn) (Finset.notMem_empty n)
  obtain ⟨final, hloop, h⟩ : ∃ final,
      search.finishOrder.reverse.foldlM (collectFrom adjacency fuel) ⟨∅, []⟩ = some final ∧
        Collected adjacency search.finishOrder.reverse final :=
    hstart.run horder (List.nodup_reverse.mpr hnodup)
      (fun n => List.mem_reverse.trans (hall n)) hcard
  refine ⟨sortByKey id final.cyclic, ?_, ?_, fun component => ?_⟩
  · rw [cyclicComponents, hsearch]
    show (search.finishOrder.reverse.foldlM (collectFrom adjacency fuel) ⟨∅, []⟩ >>= _) = _
    rw [hloop]
    rfl
  · have hne : (sortByKey id final.cyclic).Pairwise (· ≠ ·) :=
      (sortByKey_perm id final.cyclic).nodup_iff.mpr h.nodup
    exact (sortByKey_pairwise id final.cyclic).imp₂
      (fun a b hle hne => lt_of_le_of_ne hle hne) hne
  · rw [mem_sortByKey, h.mem_iff, and_iff_left_iff_imp]
    intro hcomponent n hn
    obtain ⟨root, hroot, hiff⟩ := hcomponent.connected
    refine h.covered n ?_
    rw [List.mem_reverse, hall]
    exact Adjacency.mem_of_reaches ((hiff n).mp hn).1 hroot

theorem isCyclicComponent_congr {other : Adjacency nodes} (h : other.items.Perm adjacency.items)
    (component : List String) :
    IsCyclicComponent other component ↔ IsCyclicComponent adjacency component := by
  have hedge : Edge other = Edge adjacency := by
    funext a b
    rw [Edge, Edge, Adjacency.mem_get, Adjacency.mem_get]
    simp only [h.mem_iff]
  constructor
  · rintro ⟨hsorted, hconnected, hcyclic⟩
    exact ⟨hsorted, hedge ▸ hconnected, hedge ▸ hcyclic⟩
  · rintro ⟨hsorted, hconnected, hcyclic⟩
    exact ⟨hsorted, hedge ▸ hconnected, hedge ▸ hcyclic⟩

/-- **The cyclic components are found**: with enough fuel the two searches end, whatever the order
of the items, with the sorted list of exactly the strongly connected components that have a second
node or a self-loop. -/
theorem cyclicComponents_exact (adjacency : Adjacency nodes) :
    ∃ components : List (List String),
      (∀ other : Adjacency nodes, other.items.Perm adjacency.items →
        ∀ fuel ≥ enoughFuel nodes, cyclicComponents other fuel = some components) ∧
      components.Pairwise (· < ·) ∧
      ∀ component, component ∈ components ↔ IsCyclicComponent adjacency component := by
  obtain ⟨components, -, hsorted, hiff⟩ := cyclicComponents_spec adjacency le_rfl
  refine ⟨components, fun other hperm fuel hfuel => ?_, hsorted, hiff⟩
  obtain ⟨found, hfound, hsorted', hiff'⟩ := cyclicComponents_spec other hfuel
  rw [hfound, Option.some.injEq]
  refine List.SortedLT.eq_of_mem_iff hsorted'.sortedLT hsorted.sortedLT fun component => ?_
  rw [hiff', hiff, isCyclicComponent_congr hperm]

end PlantNexus.Routing
