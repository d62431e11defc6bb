import Mathlib.Data.List.Pairwise
import PlantNexus.Backend.DispatchHints
import PlantNexus.Backend.Measurement

/-! A complete dispatch is a feasible schedule.

Each loop of the dispatch establishes what the next one needs: the bound over the
predecessors, a gap that overlaps no block, and from them what a placed operation keeps for
the rest of the dispatch. When every operation is placed, the hinted values satisfy the
core model and the objective. -/
namespace PlantNexus.Backend
open Data Time Domain Problem CpSat Validation Plan

/-! ### The inner loops -/

theorem returns_lift {α : Type} (x : Except BackendError α) :
    Returns (Dispatch.lift x) fun a => x = .ok a := by
  intro work a work' h
  unfold Dispatch.lift at h
  split at h
  · injection h with h
    injection h with h _
    rw [h]
  · cases h

section
variable (problem : PlanningProblem)

/-- The start keeps the lag of the edge from where its predecessor is placed. -/
structure LagKept (edge : PrecedenceEdge) (previous : Slot) (resourceId : String) (start : Int) :
    Prop where
  lag : previous.stop + ceilSecondsToTicks edge.minLagSeconds problem.tickSeconds ≤ start
  transport : ∀ w w', workshopOf problem previous.resourceId = .ok w →
    workshopOf problem resourceId = .ok w' → w ≠ w' →
      previous.stop + ceilSecondsToTicks edge.transportLagSeconds problem.tickSeconds ≤ start

variable {problem}

theorem LagKept.later {edge : PrecedenceEdge} {previous : Slot} {resourceId : String}
    {start start' : Int} (h : LagKept problem edge previous resourceId start)
    (hle : start ≤ start') : LagKept problem edge previous resourceId start' :=
  ⟨le_trans h.lag hle, fun w w' hw hw' hne => le_trans (h.transport w w' hw hw' hne) hle⟩

theorem ceilSecondsToTicks_mono {tick a b : Int} (htick : 0 < tick) (h : a ≤ b) :
    ceilSecondsToTicks a tick ≤ ceilSecondsToTicks b tick := by
  rw [ceilSecondsToTicks_le_iff _ _ _ htick]
  exact le_trans h ((ceilSecondsToTicks_le_iff _ _ _ htick).mp (le_refl _))

/-- One edge raises the start until its lag is kept. -/
theorem returns_afterPredecessor (htick : 0 < problem.tickSeconds)
    (placed : List (String × Slot)) (resourceId : String) (start : Int) (edge : PrecedenceEdge) :
    Returns (afterPredecessor problem placed resourceId start edge) fun start' =>
      start ≤ start' ∧ ∃ previous, slotOf placed edge.predecessorOperationId = .ok previous ∧
        LagKept problem edge previous resourceId start' := by
  unfold afterPredecessor
  refine .seq fun _ => ?_
  refine (returns_lift _).bind fun previous hprevious => ?_
  refine (returns_lift _).bind fun previousWorkshop hfrom => ?_
  refine (returns_lift _).bind fun workshop hto => ?_
  refine .pure ⟨le_max_left _ _, previous, hprevious, ?_⟩
  by_cases hsame : previousWorkshop = workshop
  · rw [if_neg (not_not.mpr hsame)]
    refine ⟨le_max_right _ _, fun w w' hw hw' hne => ?_⟩
    rw [hfrom] at hw
    rw [hto] at hw'
    injection hw with hw
    injection hw' with hw'
    exact absurd (hw ▸ hw' ▸ hsame) hne
  · rw [if_pos hsame]
    have hlag := ceilSecondsToTicks_mono htick
      (le_max_left edge.minLagSeconds edge.transportLagSeconds)
    have htransport := ceilSecondsToTicks_mono htick
      (le_max_right edge.minLagSeconds edge.transportLagSeconds)
    exact ⟨le_max_of_le_right (by omega), fun _ _ _ _ _ => le_max_of_le_right (by omega)⟩

/-- The loop over the predecessors keeps every lag. -/
theorem returns_afterPredecessors (htick : 0 < problem.tickSeconds)
    (placed : List (String × Slot)) (resourceId : String) (gate : Int)
    (predecessors : List PrecedenceEdge) :
    Returns (predecessors.foldlM (afterPredecessor problem placed resourceId) gate) fun start =>
      gate ≤ start ∧ ∀ edge ∈ predecessors, ∃ previous,
        slotOf placed edge.predecessorOperationId = .ok previous ∧
          LagKept problem edge previous resourceId start := by
  refine Returns.foldlM_each (le_refl gate) fun start hgate edge _ => ?_
  refine (returns_afterPredecessor htick placed resourceId start edge).mono ?_
  intro start' hstart
  obtain ⟨hle, hkept⟩ := hstart
  refine ⟨le_trans hgate hle, hkept, fun other hother => ?_⟩
  obtain ⟨previous, hprevious, hlag⟩ := hother
  exact ⟨previous, hprevious, hlag.later hle⟩

end

/-- The gap starts no earlier and overlaps no block. A later block starts no earlier, so it is
enough that the search stops at the first block the gap ends before. -/
theorem returns_searchGap (duration : Int) (blocks : List Block)
    (hsorted : blocks.Pairwise fun b c => b.1 ≤ c.1) (start : Int) :
    Returns (searchGap duration blocks start) fun start' =>
      start ≤ start' ∧ ∀ b ∈ blocks, start' + duration ≤ b.1 ∨ b.2 ≤ start' := by
  induction blocks generalizing start with
  | nil => exact .pure ⟨le_refl _, fun _ hb => absurd hb List.not_mem_nil⟩
  | cons block rest ih =>
    obtain ⟨hfirst, hrest⟩ := List.pairwise_cons.mp hsorted
    rw [searchGap]
    refine .seq fun _ => ?_
    split
    · rename_i hbefore
      refine .pure ⟨le_refl _, fun b hb => .inl ?_⟩
      cases List.mem_cons.mp hb with
      | inl heq => exact heq ▸ hbefore
      | inr hmem => exact le_trans hbefore (hfirst b hmem)
    · have hpast : start ≤ (if start < block.2 then block.2 else start) ∧
          block.2 ≤ (if start < block.2 then block.2 else start) := by
        split <;> omega
      refine (ih hrest _).mono fun start' hstart => ?_
      obtain ⟨hle, hclear⟩ := hstart
      refine ⟨le_trans hpast.1 hle, fun b hb => ?_⟩
      cases List.mem_cons.mp hb with
      | inl heq => exact .inr (heq ▸ le_trans hpast.2 hle)
      | inr hmem => exact hclear b hmem

theorem sortByKey_toLex_pairwise (blocks : List Block) :
    (sortByKey toLex blocks).Pairwise fun b c => b.1 ≤ c.1 := by
  refine (sortByKey_pairwise toLex blocks).imp fun {b c} hle => ?_
  cases Prod.Lex.le_iff.mp hle with
  | inl hlt => exact le_of_lt hlt
  | inr heq => exact le_of_eq heq.1

/-! ### Offers -/

section
variable (problem : PlanningProblem) (core : CoreCpSatModel)

/-- What an offer of an operation keeps, where the others are placed. -/
structure OfferFacts (state : DispatchState) (gate : Int) (predecessors : List PrecedenceEdge)
    (options : List CoreOption) (offer : Offer) : Prop where
  option : ∃ option ∈ options, option.resourceId = offer.resourceId ∧
    offer.stop = offer.start + option.durationTicks
  gated : gate ≤ offer.start
  inside : offer.stop ≤ core.horizonTicks
  follows : ∀ edge ∈ predecessors, ∃ previous,
    slotOf state.placed edge.predecessorOperationId = .ok previous ∧
      LagKept problem edge previous offer.resourceId offer.start
  free : ∃ blocks, occupiedOn state.occupied offer.resourceId = .ok blocks ∧
    ∀ b ∈ blocks, offer.stop ≤ b.1 ∨ b.2 ≤ offer.start

variable {problem core}

theorem returns_offerOption (htick : 0 < problem.tickSeconds) (state : DispatchState) (gate : Int)
    (predecessors : List PrecedenceEdge) (options : List CoreOption) (offers : List Offer)
    (hoffers : ∀ o ∈ offers, OfferFacts problem core state gate predecessors options o)
    (option : CoreOption) (hoption : option ∈ options) :
    Returns (offerOption problem core state gate predecessors offers option) fun offers' =>
      ∀ o ∈ offers', OfferFacts problem core state gate predecessors options o := by
  unfold offerOption
  refine .seq fun _ => ?_
  refine (returns_afterPredecessors htick state.placed option.resourceId gate predecessors).bind
    fun start hstart => ?_
  refine (returns_lift _).bind fun blocks hblocks => ?_
  refine (returns_searchGap option.durationTicks _ (sortByKey_toLex_pairwise blocks) start).bind
    fun start' hstart' => .pure ?_
  obtain ⟨hgate, hlags⟩ := hstart
  obtain ⟨hle, hclear⟩ := hstart'
  split
  · rename_i hinside
    intro o ho
    cases List.mem_append.mp ho with
    | inl hbefore => exact hoffers o hbefore
    | inr hnew =>
      rw [List.mem_singleton.mp hnew]
      exact
        { option := ⟨option, hoption, rfl, rfl⟩
          gated := le_trans hgate hle
          inside := hinside
          follows := by
            intro edge hedge
            obtain ⟨previous, hprevious, hlag⟩ := hlags edge hedge
            exact ⟨previous, hprevious, hlag.later hle⟩
          free := ⟨blocks, hblocks, fun b hb => hclear b ((mem_sortByKey _ _ _).mpr hb)⟩ }
  · exact hoffers

end

/-! ### Placed operations -/

theorem slotOf_eq_ok (placed : List (String × Slot)) (hnodup : (placed.map Prod.fst).Nodup)
    (operationId : String) (slot : Slot) :
    slotOf placed operationId = .ok slot ↔ (operationId, slot) ∈ placed := by
  have hget := dictGet_eq_some_iff Prod.fst placed operationId (operationId, slot) hnodup
  simp only [and_true] at hget
  rw [← hget]
  unfold slotOf
  split
  · rename_i entry hentry
    have hkey := ((dictGet_eq_some_iff Prod.fst placed operationId entry hnodup).mp hentry).2
    rw [hentry, ← hkey]
    simp [Prod.ext_iff]
  · rename_i hnone
    simp [hnone]

theorem occupiedOn_occupy (occupied : List (String × List Block)) (resourceId other : String)
    (block : Block) (blocks : List Block) (h : occupiedOn occupied other = .ok blocks) :
    occupiedOn (occupy occupied resourceId block) other =
      .ok (if other = resourceId then blocks ++ [block] else blocks) := by
  unfold occupiedOn at h ⊢
  split at h
  · rename_i entry hentry
    injection h with h
    have hkey : entry.1 = other := by
      have := List.find?_some hentry
      simpa using this
    have hget : dictGet Prod.fst (occupy occupied resourceId block) other =
        some (if entry.1 = resourceId then (entry.1, entry.2 ++ [block]) else entry) := by
      unfold dictGet at hentry ⊢
      rw [occupy, ← List.map_reverse, List.find?_map]
      have hpred : ((fun x : String × List Block => decide (x.1 = other)) ∘ fun entry =>
          if entry.1 = resourceId then (entry.1, entry.2 ++ [block]) else entry) =
            fun x => decide (x.1 = other) := by
        funext x
        simp only [Function.comp]
        split <;> rfl
      rw [hpred, hentry]
      rfl
    rw [hget, hkey]
    by_cases hsame : other = resourceId
    · simp [hsame, h]
    · simp [hsame, h]
  · cases h

section
variable (problem : PlanningProblem) (core : CoreCpSatModel)
  (blocks : List (String × List Block))

/-- What a placed operation keeps. -/
structure SlotFacts (placed : List (String × Slot)) (operationId : String) (slot : Slot) : Prop where
  option : ∃ bound ∈ core.operations, bound.operationId = operationId ∧
    ∃ option ∈ bound.options, option.resourceId = slot.resourceId ∧
      slot.stop = slot.start + option.durationTicks
  gated : ∃ operation ∈ problem.operationInstances, operation.operationId = operationId ∧
    ∃ gate, gateOf problem operation = .ok gate ∧ gate ≤ slot.start
  inside : slot.stop ≤ core.horizonTicks
  follows : ∀ edge ∈ incoming problem operationId, ∃ previous,
    (edge.predecessorOperationId, previous) ∈ placed ∧
      LagKept problem edge previous slot.resourceId slot.start
  free : ∀ calendar ∈ blocks, calendar.1 = slot.resourceId → ∀ b ∈ calendar.2,
    slot.stop ≤ b.1 ∨ b.2 ≤ slot.start

variable {problem core blocks} in
theorem SlotFacts.append {placed : List (String × Slot)} {operationId : String} {slot : Slot}
    (h : SlotFacts problem core blocks placed operationId slot) (more : List (String × Slot)) :
    SlotFacts problem core blocks (placed ++ more) operationId slot :=
  { option := h.option
    gated := h.gated
    inside := h.inside
    follows := by
      intro edge hedge
      obtain ⟨previous, hprevious, hlag⟩ := h.follows edge hedge
      exact ⟨previous, List.mem_append_left _ hprevious, hlag⟩
    free := h.free }

/-- Two placed operations do not share a resource and a tick. -/
def SlotsApart (e f : String × Slot) : Prop :=
  e.2.resourceId = f.2.resourceId → e.2.stop ≤ f.2.start ∨ f.2.stop ≤ e.2.start

/-- The invariant of a dispatch: what is placed fits together, and what is occupied holds at
least the calendar and everything placed. -/
structure Dispatched (state : DispatchState) : Prop where
  nodup : (state.placed.map Prod.fst).Nodup
  slots : ∀ e ∈ state.placed, SlotFacts problem core blocks state.placed e.1 e.2
  apart : state.placed.Pairwise SlotsApart
  calendar : ∀ c ∈ blocks, ∃ held, occupiedOn state.occupied c.1 = .ok held ∧ ∀ b ∈ c.2, b ∈ held
  held : ∀ e ∈ state.placed, ∃ held, occupiedOn state.occupied e.2.resourceId = .ok held ∧
    (e.2.start, e.2.stop) ∈ held

/-- What a choice of the round keeps. -/
structure ChoiceFacts (state : DispatchState) (choice : Choice) : Prop where
  unplaced : choice.operationId ∉ state.placed.map Prod.fst
  slot : SlotFacts problem core blocks state.placed choice.operationId choice.slot
  free : ∃ held, occupiedOn state.occupied choice.slot.resourceId = .ok held ∧
    ∀ b ∈ held, choice.slot.stop ≤ b.1 ∨ b.2 ≤ choice.slot.start

variable {problem core blocks}

/-- Before anything is placed the calendar is what is occupied. -/
theorem dispatched_start (hnodup : (blocks.map Prod.fst).Nodup) :
    Dispatched problem core blocks ⟨[], blocks⟩ :=
  { nodup := List.nodup_nil
    slots := fun _ he => absurd he List.not_mem_nil
    apart := List.Pairwise.nil
    calendar := by
      intro c hc
      have hget := (dictGet_eq_some_iff Prod.fst blocks c.1 c hnodup).mpr ⟨hc, rfl⟩
      exact ⟨c.2, by simp [occupiedOn, hget], fun _ hb => hb⟩
    held := fun _ he => absurd he List.not_mem_nil }

/-- Placing a choice keeps the invariant. -/
theorem Dispatched.place {state : DispatchState} (h : Dispatched problem core blocks state)
    {choice : Choice} (hchoice : ChoiceFacts problem core blocks state choice) :
    Dispatched problem core blocks
      { placed := state.placed ++ [(choice.operationId, choice.slot)]
        occupied := occupy state.occupied choice.slot.resourceId
          (choice.slot.start, choice.slot.stop) } := by
  obtain ⟨free, hfree, hclear⟩ := hchoice.free
  exact
    { nodup := by
        rw [List.map_append, List.nodup_append]
        refine ⟨h.nodup, List.nodup_singleton _, ?_⟩
        intro a ha b hb heq
        rw [List.map_singleton, List.mem_singleton] at hb
        rw [heq, hb] at ha
        exact hchoice.unplaced ha
      slots := by
        intro e he
        cases List.mem_append.mp he with
        | inl hbefore => exact (h.slots e hbefore).append _
        | inr hnew =>
          rw [List.mem_singleton.mp hnew]
          exact hchoice.slot.append _
      apart := by
        rw [List.pairwise_append]
        refine ⟨h.apart, List.pairwise_singleton _ _, fun e he f hf hres => ?_⟩
        rw [List.mem_singleton.mp hf] at hres ⊢
        obtain ⟨held, hheld, hmem⟩ := h.held e he
        rw [hres, hfree] at hheld
        injection hheld with hheld
        exact (hclear _ (hheld ▸ hmem)).symm
      calendar := by
        intro c hc
        obtain ⟨held, hheld, hall⟩ := h.calendar c hc
        refine ⟨_, occupiedOn_occupy _ _ _ _ _ hheld, fun b hb => ?_⟩
        split
        · exact List.mem_append_left _ (hall b hb)
        · exact hall b hb
      held := by
        intro e he
        cases List.mem_append.mp he with
        | inl hbefore =>
          obtain ⟨held, hheld, hmem⟩ := h.held e hbefore
          refine ⟨_, occupiedOn_occupy _ _ _ _ _ hheld, ?_⟩
          split
          · exact List.mem_append_left _ hmem
          · exact hmem
        | inr hnew =>
          rw [List.mem_singleton.mp hnew]
          refine ⟨_, occupiedOn_occupy _ _ _ _ _ hfree, ?_⟩
          rw [if_pos rfl]
          exact List.mem_append_right _ (List.mem_singleton_self _) }

theorem leastBy_mem {α κ : Type} [LinearOrder κ] {key : α → κ} {xs : List α} {x : α}
    (h : leastBy key xs = some x) : x ∈ xs :=
  (mem_sortByKey key xs x).mp (List.mem_of_head? h)

variable (objective : DeliveryObjectiveModel)

/-- Every choice of a round keeps what a placed operation has to keep. -/
theorem returns_offerOperation (htick : 0 < problem.tickSeconds) (rule : DispatchRule)
    (state : DispatchState) (hstate : Dispatched problem core blocks state)
    (choices : List Choice) (hchoices : ∀ c ∈ choices, ChoiceFacts problem core blocks state c)
    (operation : OperationInstance) (hm : operation ∈ unplaced problem state.placed) :
    Returns (offerOperation problem core objective rule state choices operation) fun choices' =>
      ∀ c ∈ choices', ChoiceFacts problem core blocks state c := by
  rw [unplaced, mem_sortByKey, List.mem_filter] at hm
  obtain ⟨hactive, hnone⟩ := hm
  rw [Option.isNone_iff_eq_none, dictGet_eq_none_iff] at hnone
  unfold offerOperation
  refine .seq fun _ => ?_
  dsimp only
  split
  · exact .pure hchoices
  refine (returns_lift _).bind fun bound hbound => ?_
  refine (returns_lift _).bind fun gate hgate => ?_
  refine Returns.bind (P := fun offers => ∀ o ∈ offers, OfferFacts problem core state gate
    (incoming problem operation.operationId) bound.options o) ?_ fun offers hoffers => ?_
  · exact Returns.foldlM (fun _ ho => absurd ho List.not_mem_nil) fun offers hoffers option hoption =>
      returns_offerOption htick state gate _ bound.options offers hoffers option hoption
  split
  · exact .pure hchoices
  rename_i offer hleast
  refine .seq fun demand => .seq fun release => .pure fun c hc => ?_
  cases List.mem_append.mp hc with
  | inl hbefore => exact hchoices c hbefore
  | inr hnew =>
    rw [List.mem_singleton.mp hnew]
    have hoffer := hoffers offer (leastBy_mem hleast)
    obtain ⟨held, hheld, hclear⟩ := hoffer.free
    have hboundFacts : bound ∈ core.operations ∧ bound.operationId = operation.operationId := by
      unfold operationById at hbound
      split at hbound
      · rename_i found hfound
        injection hbound with hbound
        subst hbound
        exact ⟨List.mem_reverse.mp (List.mem_of_find?_eq_some hfound), by
          simpa using List.find?_some hfound⟩
      · cases hbound
    refine ⟨hnone, ?_, held, hheld, hclear⟩
    exact
      { option := ⟨bound, hboundFacts.1, hboundFacts.2, hoffer.option⟩
        gated := ⟨operation, hactive, rfl, gate, hgate, hoffer.gated⟩
        inside := hoffer.inside
        follows := by
          intro edge hedge
          obtain ⟨previous, hprevious, hlag⟩ := hoffer.follows edge hedge
          exact ⟨previous, (slotOf_eq_ok _ hstate.nodup _ _).mp hprevious, hlag⟩
        free := by
          intro calendar hcalendar hres b hb
          obtain ⟨held', hheld', hall⟩ := hstate.calendar calendar hcalendar
          rw [hres, hheld] at hheld'
          injection hheld' with hheld'
          exact hclear b (hheld' ▸ hall b hb) }

/-- One round keeps the invariant. -/
theorem returns_dispatchRound (htick : 0 < problem.tickSeconds) (rule : DispatchRule)
    (state : DispatchState) (hstate : Dispatched problem core blocks state) :
    Returns (dispatchRound problem core objective rule state) fun next =>
      ∀ state', next = some state' → Dispatched problem core blocks state' := by
  unfold dispatchRound
  refine Returns.bind (P := fun choices => ∀ c ∈ choices, ChoiceFacts problem core blocks state c)
    ?_ fun choices hchoices => .pure ?_
  · exact Returns.foldlM (fun _ hc => absurd hc List.not_mem_nil)
      fun choices hchoices operation hm =>
        returns_offerOperation objective htick rule state hstate choices hchoices operation hm
  · intro state' hnext
    obtain ⟨choice, hchoice, rfl⟩ := Option.map_eq_some_iff.mp hnext
    exact hstate.place (hchoices choice (leastBy_mem hchoice))

/-- **A dispatch keeps the invariant, whatever its rule.** -/
theorem returns_dispatchWith (htick : 0 < problem.tickSeconds) (rule : DispatchRule)
    (rounds : Nat) (state : DispatchState) (hstate : Dispatched problem core blocks state) :
    Returns (dispatchWith problem core objective rule rounds state)
      (Dispatched problem core blocks) := by
  induction rounds generalizing state with
  | zero => exact .pure hstate
  | succ rounds ih =>
    rw [dispatchWith]
    split
    · refine (returns_dispatchRound objective htick rule state hstate).bind fun next hnext => ?_
      cases next with
      | none => exact .pure hstate
      | some state' => exact ih state' (hnext state' rfl)
    · exact .pure hstate

variable (problem core blocks)

/-- A complete dispatch and its score. -/
structure CompleteDispatch (best : List (String × Slot) × Int) : Prop where
  dispatched : ∃ occupied, Dispatched problem core blocks ⟨best.1, occupied⟩
  complete : best.1.length = problem.operationInstances.length
  score : dispatchScore problem objective best.1 = .ok best.2

variable {problem core blocks}

theorem returns_tryRule (htick : 0 < problem.tickSeconds) (hnodup : (blocks.map Prod.fst).Nodup)
    (best : Option (List (String × Slot) × Int))
    (hbest : ∀ b, best = some b → CompleteDispatch problem core blocks objective b)
    (rule : DispatchRule) :
    Returns (tryRule problem core objective blocks best rule) fun best' =>
      ∀ b, best' = some b → CompleteDispatch problem core blocks objective b := by
  unfold tryRule
  refine (returns_dispatchWith objective htick rule _ _ (dispatched_start hnodup)).bind
    fun final hfinal => ?_
  split
  · rename_i hcomplete
    refine (returns_lift _).bind fun value hvalue => .pure ?_
    have hnew : CompleteDispatch problem core blocks objective (final.placed, value) :=
      ⟨⟨final.occupied, hfinal⟩, hcomplete, hvalue⟩
    intro b hb
    split at hb
    · injection hb with hb
      exact hb ▸ hnew
    · split at hb
      · injection hb with hb
        exact hb ▸ hnew
      · exact hbest b hb
  · exact .pure hbest

end

/-! ### The schedule of a complete dispatch -/

/-- The valuation schedules every operation where it is placed. -/
def Schedules (problem : PlanningProblem) (placed : List (String × Slot)) (ν : Valuation) : Prop :=
  ∀ o ∈ coreOperations problem, ∃ slot, (o.operationId, slot) ∈ placed ∧
    ν.int o.start = slot.start ∧ ν.int o.stop = slot.stop ∧
      ∀ option ∈ o.options, ν.bool option.presence = decide (option.resourceId = slot.resourceId)

/-- The plan places every operation where the dispatch does. -/
def Follows (placed : List (String × Slot)) (plan : List Placement) : Prop :=
  ∀ p ∈ plan, ∃ slot, (p.operationId, slot) ∈ placed ∧ p.start = slot.start ∧
    p.stop = slot.stop ∧ p.resourceId = slot.resourceId

section
variable {problem : PlanningProblem} {horizonStart horizonEnd : Datetime} {horizonTicks : Int}
  (h : PrecheckFacts problem horizonStart horizonEnd horizonTicks)
  {core : CoreCpSatModel} (hoperations : core.operations = coreOperations problem)
  (hcore : core.horizonTicks = horizonTicks) {blocks : List (String × List Block)}
  {placed : List (String × Slot)} {occupied : List (String × List Block)}
  (hdispatched : Dispatched problem core blocks ⟨placed, occupied⟩)

omit h in
include hdispatched in
/-- A complete dispatch places every operation. -/
theorem placed_all (hcomplete : placed.length = problem.operationInstances.length)
    (operation : OperationInstance) (hm : operation ∈ problem.operationInstances) :
    ∃ slot, (operation.operationId, slot) ∈ placed := by
  have hsubset : placed.map Prod.fst ⊆ activeIds problem := by
    intro id hid
    obtain ⟨e, he, rfl⟩ := List.mem_map.mp hid
    obtain ⟨o, ho, heq, -⟩ := (hdispatched.slots e he).gated
    exact heq ▸ List.mem_map_of_mem ho
  have hperm : (placed.map Prod.fst).Perm (activeIds problem) := by
    refine (List.subperm_of_subset hdispatched.nodup hsubset).perm_of_length_le ?_
    rw [List.length_map, hcomplete, activeIds, List.length_map]
  have hmem : operation.operationId ∈ placed.map Prod.fst :=
    hperm.mem_iff.mpr (List.mem_map_of_mem hm)
  obtain ⟨e, he, heq⟩ := List.mem_map.mp hmem
  exact ⟨e.2, heq ▸ he⟩

include h hoperations hdispatched in
/-- The option a placed operation takes. -/
theorem slot_option {operationId : String} {slot : Slot} (hmem : (operationId, slot) ∈ placed)
    {o : CoreOperation} (ho : o ∈ coreOperations problem) (hid : o.operationId = operationId) :
    ∃ option ∈ o.options, option.resourceId = slot.resourceId ∧
      slot.stop = slot.start + option.durationTicks := by
  obtain ⟨bound, hbound, hboundId, hoption⟩ := (hdispatched.slots _ hmem).option
  rw [hoperations] at hbound
  have hnodup : ((coreOperations problem).map CoreOperation.operationId).Nodup := by
    rw [coreOperations_ids]
    exact h.contract.operations_nodup
  have hsame : o = bound := List.inj_on_of_nodup_map hnodup ho hbound (hid.trans hboundId.symm)
  exact hsame ▸ hoption

include h hoperations hdispatched in
/-- A valuation that schedules a dispatch selects a plan that follows it. -/
theorem selects_of_schedules {ν : Valuation} (hν : Schedules problem placed ν) :
    ∃ plan, Selects problem ν plan ∧ Follows placed plan := by
  have hone : ∀ o ∈ coreOperations problem,
      (Constraint.exactlyOne (o.options.map CoreOption.presence)).Holds ν := by
    intro o ho
    obtain ⟨slot, hmem, -, -, hpresence⟩ := hν o ho
    obtain ⟨option, hoption, hres, -⟩ := slot_option h hoperations hdispatched hmem ho rfl
    have hnodup : (o.options.map CoreOption.resourceId).Nodup := by
      obtain ⟨i, hi, rfl⟩ := List.mem_mapIdx.mp ho
      rw [coreOperation_resources]
      exact (h.contract.operations _ (List.getElem_mem hi)).options_nodup
    have hfilter : (o.options.filter fun x => ν.bool x.presence) = [option] := by
      rw [← filter_key_eq_singleton CoreOption.resourceId o.options hnodup hoption]
      refine List.filter_congr fun x hx => ?_
      rw [hpresence x hx, hres]
    rw [Constraint.Holds, List.filter_map, List.length_map]
    exact (congrArg List.length hfilter).trans rfl
  obtain ⟨plan, hsel⟩ := selects_of_exactlyOne h.contract ν hone
  refine ⟨plan, hsel, fun p hp => ?_⟩
  obtain ⟨o, ho, hselected⟩ := forall₂_exists_left hsel.selected hp
  obtain ⟨slot, hmem, hstart, hstop, hpresence⟩ := hν o ho
  refine ⟨slot, hselected.operation_id ▸ hmem, hselected.start ▸ hstart, hselected.stop ▸ hstop, ?_⟩
  obtain ⟨option, hoption, hres⟩ := hselected.option
  have hpresent := (hselected.present option hoption).mpr hres
  rw [hpresence option hoption, decide_eq_true_eq] at hpresent
  rw [← hres, hpresent]

include h in
/-- A gate of a placed operation, over instants. -/
theorem gateOf_instants (operation : OperationInstance)
    (hm : operation ∈ problem.operationInstances) (gate start : Int)
    (hgate : gateOf problem operation = .ok gate) (hle : gate ≤ start) :
    0 ≤ start ∧ instantMicros operation.releaseAtUtc ≤ tickMicros problem start ∧
      instantMicros operation.materialReadyAtUtc ≤ tickMicros problem start := by
  have hpos := h.contract.tick_pos
  have hseconds : ∀ text, WholeSecond text → ∀ n, secondsFromStart problem text = .ok n →
      ceilSecondsToTicks n problem.tickSeconds ≤ start →
        instantMicros text ≤ tickMicros problem start := by
    intro text hwhole n hn hceil
    obtain ⟨m, -, hm⟩ := relativeSeconds_ok h text hwhole
    obtain ⟨d, hd, -⟩ := hwhole
    simp only [secondsFromStart, bind_eq_ok, instantAt_eq_ok, h.contract.start_eq, hd,
      Except.ok.injEq, exists_eq_left'] at hn
    injection hn with hn
    rw [instantMicros_eq _ _ hd] at hm
    have hsub : d.sub horizonStart = m * microsPerSecond := by
      rw [Datetime.sub]
      omega
    rw [hsub, wholeSeconds_exact] at hn
    rw [le_tickMicros_iff h text m start (by rw [instantMicros_eq _ _ hd, hm]), hn]
    exact (ceilSecondsToTicks_le_iff _ _ _ hpos).mp hceil
  obtain ⟨release, hrelease, hrest⟩ := bind_eq_ok.mp hgate
  obtain ⟨material, hmaterial, hmax⟩ := bind_eq_ok.mp hrest
  injection hmax with hmax
  subst hmax
  obtain ⟨hzero, hrest⟩ := max_le_iff.mp hle
  obtain ⟨hrel, hmat⟩ := max_le_iff.mp hrest
  exact ⟨hzero, hseconds _ (h.release operation hm) release hrelease hrel,
    hseconds _ (h.material operation hm) material hmaterial hmat⟩

include h in
/-- A lag that is kept in ticks fits its edge. -/
theorem LagKept.fits {edge : PrecedenceEdge} {previous : Slot} {resourceId : String} {start : Int}
    (hkept : LagKept problem edge previous resourceId start) (hmax : edge.maxLagSeconds = none) :
    LagFits problem edge previous.resourceId resourceId
      (tickMicros problem start - tickMicros problem previous.stop) := by
  have hpos := h.contract.tick_pos
  have hmicros : tickMicros problem start - tickMicros problem previous.stop =
      (start - previous.stop) * problem.tickSeconds * microsPerSecond := by
    rw [tickMicros_start h, tickMicros_start h]
    ring
  have hbound : ∀ seconds,
      previous.stop + ceilSecondsToTicks seconds problem.tickSeconds ≤ start →
        seconds * microsPerSecond ≤
          tickMicros problem start - tickMicros problem previous.stop := by
    intro seconds hle
    rw [hmicros]
    refine mul_le_mul_of_nonneg_right ?_ (by decide)
    exact (ceilSecondsToTicks_le_iff _ _ _ hpos).mp (by omega)
  constructor
  · intro houtside
    cases houtside with
    | inl hshort => exact absurd (hbound _ hkept.lag) (not_le.mpr hshort)
    | inr hlong =>
      obtain ⟨maximum, hmem, -⟩ := hlong
      rw [hmax] at hmem
      cases hmem
  · intro hcross
    obtain ⟨r, hr, s, hs, hrId, hsId, hne⟩ := hcross
    have hworkshop : ∀ r ∈ problem.resources,
        workshopOf problem r.resourceId = .ok r.workshopId := by
      intro r hr
      have hget := (dictGet_eq_some_iff Resource.resourceId problem.resources r.resourceId r
        h.contract.resources_nodup).mpr ⟨hr, rfl⟩
      simp [workshopOf, hget]
    exact hbound _ (hkept.transport _ _ (hrId ▸ hworkshop r hr) (hsId ▸ hworkshop s hs) hne)

include h hoperations hdispatched in
/-- A placement that follows the dispatch takes what its operation takes. -/
theorem takesDuration_of_follows {ν : Valuation} {plan : List Placement}
    (hsel : Selects problem ν plan) {p : Placement} (hp : p ∈ plan) {slot : Slot}
    (hmem : (p.operationId, slot) ∈ placed) (hstart : p.start = slot.start)
    (hstop : p.stop = slot.stop) (hres : p.resourceId = slot.resourceId) :
    TakesDuration problem p := by
  obtain ⟨o, ho, hselected⟩ := forall₂_exists_left hsel.selected hp
  obtain ⟨option, hoption, hoptionRes, hduration⟩ :=
    slot_option h hoperations hdispatched hmem ho hselected.operation_id
  obtain ⟨hseconds, hticks⟩ := hselected.seconds option hoption (hoptionRes.trans hres.symm)
  exact ⟨option.durationSeconds, hseconds, by omega⟩

include h hoperations hcore hdispatched in
/-- **A plan that follows a dispatch is feasible.** -/
theorem feasible_of_follows (hdispatchable : Dispatchable problem)
    (hblocks : calendarTickBlocks problem core.horizonTicks = .ok blocks) {ν : Valuation}
    {plan : List Placement} (hsel : Selects problem ν plan) (hfollows : Follows placed plan) :
    Feasible problem plan := by
  obtain ⟨-, -, -, -, -, hanchors, hlocks, hstatus, hmaxLag⟩ := hdispatchable
  have hduration : ∀ p ∈ plan, TakesDuration problem p := by
    intro p hp
    obtain ⟨slot, hmem, hstart, hstop, hres⟩ := hfollows p hp
    exact takesDuration_of_follows h hoperations hdispatched hsel hp hmem hstart hstop hres
  have hgates : ∀ p ∈ plan, 0 ≤ p.start ∧
      instantMicros p.operation.releaseAtUtc ≤ tickMicros problem p.start ∧
        instantMicros p.operation.materialReadyAtUtc ≤ tickMicros problem p.start := by
    intro p hp
    obtain ⟨slot, hmem, hstart, -, -⟩ := hfollows p hp
    obtain ⟨operation, hm, hid, gate, hgate, hle⟩ := (hdispatched.slots _ hmem).gated
    have hsame : operation = p.operation :=
      List.inj_on_of_nodup_map h.contract.operations_nodup hm (hsel.covers.mem hp) hid
    subst hsame
    exact gateOf_instants h _ hm gate p.start hgate (hstart ▸ hle)
  have hinside : ∀ p ∈ plan, p.stop ≤ horizonTicks := by
    intro p hp
    obtain ⟨slot, hmem, -, hstop, -⟩ := hfollows p hp
    rw [hstop, ← hcore]
    exact (hdispatched.slots _ hmem).inside
  have hnotRunning : ∀ p ∈ plan, p.operation.status = .notStarted :=
    fun p hp => hstatus _ (hsel.covers.mem hp)
  exact
    { duration := hduration
      inside := fun p hp _ => (inside_iff h _ _).mpr ⟨(hgates p hp).1, hinside p hp⟩
      running := by
        intro p hp hrunning
        rw [hnotRunning p hp] at hrunning
        cases hrunning
      locked := by
        intro p _ lock hlock
        rw [hlocks] at hlock
        cases hlock
      gated := fun p hp => (hgates p hp).2
      follows := by
        intro edge hedge p hp q hq hpId hqId
        obtain ⟨slot, hmem, -, hstop, hres⟩ := hfollows p hp
        obtain ⟨slot', hmem', hstart', -, hres'⟩ := hfollows q hq
        have hincoming : edge ∈ incoming problem q.operationId :=
          List.mem_filter.mpr ⟨hedge, decide_eq_true hqId.symm⟩
        obtain ⟨previous, hprevious, hlag⟩ := (hdispatched.slots _ hmem').follows edge hincoming
        rw [← hpId] at hprevious
        have hsame : (p.operationId, previous) = (p.operationId, slot) :=
          List.inj_on_of_nodup_map hdispatched.nodup hprevious hmem rfl
        injection hsame with _ hsame
        subst hsame
        rw [hstart', hstop, hres, hres']
        exact hlag.fits h (hmaxLag edge hedge)
      followsCompleted := by
        intro edge _ anchor hanchor
        rw [hanchors] at hanchor
        cases hanchor
      apart := by
        have hids := hsel.covers.ids_nodup h.contract.operations_nodup
        rw [List.Nodup, List.pairwise_map] at hids
        refine hids.imp_of_mem fun {p q} hp hq hne hres => ?_
        obtain ⟨slot, hmem, hstart, hstop, hslotRes⟩ := hfollows p hp
        obtain ⟨slot', hmem', hstart', hstop', hslotRes'⟩ := hfollows q hq
        have hsymm : Std.Symm SlotsApart := ⟨fun e f hef hres => (hef hres.symm).symm⟩
        have hapart := hdispatched.apart.forall hmem hmem' fun heq => hne (congrArg Prod.fst heq)
        rw [hstart, hstop, hstart', hstop']
        exact hapart (hslotRes.symm.trans (hres.trans hslotRes'))
      calendar := by
        obtain ⟨blocks', hblocks', hids, hcalendar⟩ := calendarTickBlocks_ok h
        rw [hcore, hblocks'] at hblocks
        injection hblocks with hblocks
        subst hblocks
        intro p hp interval hinterval hres
        obtain ⟨b, hb, hbid⟩ := placement_calendar h hsel.covers hids hp
        obtain ⟨slot, hmem, hstart, hstop, hslotRes⟩ := hfollows p hp
        have hpos := start_lt_stop h.contract hsel.covers hp (hduration p hp)
        refine ((hcalendar b hb).2.2 p.start p.stop (hgates p hp).1 hpos (hinside p hp)).mp ?_
          interval hinterval (hres.trans hbid.symm)
        intro c hc
        rw [hstart, hstop]
        exact ((hdispatched.slots _ hmem).free b hb (hbid.trans hslotRes) c hc).symm }

end

/-! ### The hinted values -/

section
variable {problem : PlanningProblem} {placed : List (String × Slot)}
  (hnodup : (placed.map Prod.fst).Nodup) {ν : Valuation} {plan : List Placement}
  (hsel : Selects problem ν plan) (hfollows : Follows placed plan)
include hnodup hsel hfollows

/-- The ends that are looked up for a demand are the ends of its placements. -/
theorem slots_demandStops (demandId : String) (slots : List Slot)
    (hslots : collect (fun o : OperationInstance => slotOf placed o.operationId)
      (problem.operationInstances.filter fun o => o.demandOrderId = demandId) = .ok slots) :
    slots.map Slot.stop = demandStops plan demandId := by
  rw [collect_eq_ok_iff, ← hsel.operations, List.filter_map, List.forall₂_map_left_iff] at hslots
  have hplaced : ∀ p ∈ plan, ∀ slot, slotOf placed p.operationId = .ok slot →
      slot.stop = p.stop := by
    intro p hp slot hslot
    obtain ⟨slot', hmem, -, hstop, -⟩ := hfollows p hp
    rw [(slotOf_eq_ok placed hnodup _ _).mpr hmem] at hslot
    injection hslot with hslot
    rw [hstop, hslot]
  rw [demandStops]
  change List.Forall₂ _ (plan.filter fun p => decide (p.operation.demandOrderId = demandId)) slots
    at hslots
  have hsub : ∀ p ∈ plan.filter fun p => decide (p.operation.demandOrderId = demandId), p ∈ plan :=
    fun p hp => (List.mem_filter.mp hp).1
  generalize (plan.filter fun p => decide (p.operation.demandOrderId = demandId)) = mine
    at hslots hsub
  induction hslots with
  | nil => rfl
  | @cons p slot _ _ hhead _ ih =>
    rw [List.map_cons, List.map_cons, ih fun q hq => hsub q (List.mem_cons_of_mem _ hq),
      hplaced p (hsub p (List.mem_cons_self ..)) slot hhead]

/-- A demand's hinted completion and tardiness are the plan's. -/
theorem hintedDemand_eq (index : Nat) (demand : DeliveryDemand) (completion tardiness : Int)
    (hhinted : hintedDemand problem placed (demandVariables problem index demand) =
      .ok (completion, tardiness)) :
    completion = completionTick plan demand.demandOrderId ∧
      tardiness = planTardiness problem plan demand := by
  obtain ⟨latest, hlatest, hpair⟩ := bind_eq_ok.mp hhinted
  obtain ⟨slots, hslots, hmax⟩ := bind_eq_ok.mp hlatest
  have hstops := slots_demandStops hnodup hsel hfollows _ slots hslots
  rw [hstops] at hmax
  injection hpair with hpair
  injection hpair with hcompletion htardiness
  subst hcompletion
  have heq : latest = completionTick plan demand.demandOrderId := by
    rw [completionTick]
    split at hmax
    · rename_i value hvalue
      injection hmax with hmax
      rw [show (demandStops plan demand.demandOrderId).max? = some value from hvalue, ← hmax]
      rfl
    · cases hmax
  refine ⟨heq, ?_⟩
  rw [← htardiness, planTardiness, ← heq, Int.mul_comm]
  rfl

/-- The score of a dispatch is the weighted tardiness of the plan. -/
theorem dispatchScore_eq {core : CoreCpSatModel} {objective : DeliveryObjectiveModel}
    (facts : ObjectiveFacts problem core objective) (value : Int)
    (hscore : dispatchScore problem objective placed = .ok value) :
    value = weightedTardiness problem plan := by
  obtain ⟨terms, hterms, hsum⟩ := bind_eq_ok.mp hscore
  injection hsum with hsum
  rw [facts.variables_eq, collect_eq_ok_iff, List.forall₂_map_left_iff] at hterms
  have heach : ∀ (x : DeliveryDemand × Nat) (term : Int),
      (do
        let y ← hintedDemand problem placed (demandVariables problem x.2 x.1)
        return (demandVariables problem x.2 x.1).priorityWeight * y.2 : Except BackendError Int) =
          .ok term →
        x.1.priorityWeight * planTardiness problem plan x.1 = term := by
    intro x term hterm
    obtain ⟨⟨completion, tardiness⟩, hhinted, heq⟩ := bind_eq_ok.mp hterm
    injection heq with heq
    rw [← heq, (hintedDemand_eq hnodup hsel hfollows x.2 x.1 completion tardiness hhinted).2]
    rfl
  have hlist : problem.deliveryDemands.zipIdx.map
      (fun x => x.1.priorityWeight * planTardiness problem plan x.1) = terms := by
    rw [← List.forall₂_eq_eq_eq, List.forall₂_map_left_iff]
    exact hterms.imp heach
  rw [← hsum, ← hlist, weightedTardiness]
  conv_rhs => rw [← List.zipIdx_map_fst 0 problem.deliveryDemands, List.map_map]
  rfl

end

/-- The valuation takes the hinted values. -/
structure Hints.TakenBy (hints : Hints) (ν : Valuation) : Prop where
  ints : ∀ e ∈ hints.ints, ν.int e.1 = e.2
  bools : ∀ e ∈ hints.bools, ν.bool e.1 = e.2

/-- What is hinted, and nothing else is. -/
structure HintFacts (problem : PlanningProblem) (core : CoreCpSatModel)
    (objective : DeliveryObjectiveModel) (best : List (String × Slot) × Int) (hints : Hints) :
    Prop where
  slots : ∀ o ∈ core.operations, ∃ slot, slotOf best.1 o.operationId = .ok slot
  demands : ∀ d ∈ objective.demands, ∃ y, hintedDemand problem best.1 d = .ok y
  ints : ∀ e, e ∈ hints.ints ↔
    (∃ o ∈ core.operations, ∃ slot, slotOf best.1 o.operationId = .ok slot ∧
      (e = (o.start, slot.start) ∨ e = (o.stop, slot.stop))) ∨
    (∃ d ∈ objective.demands, ∃ y, hintedDemand problem best.1 d = .ok y ∧
      (e = (d.completionTick, y.1) ∨ e = (d.tardinessSeconds, y.2))) ∨
    e = (objective.totalWeightedTardinessSeconds, best.2)
  bools : ∀ e, e ∈ hints.bools ↔ ∃ o ∈ core.operations, ∃ slot,
    slotOf best.1 o.operationId = .ok slot ∧ ∃ option ∈ o.options,
      e = (option.presence, decide (option.resourceId = slot.resourceId))

theorem operationHints_eq_ok (placed : List (String × Slot)) (o : CoreOperation) (hints : Hints) :
    operationHints placed o = .ok hints ↔ ∃ slot, slotOf placed o.operationId = .ok slot ∧
      hints = ⟨[(o.start, slot.start), (o.stop, slot.stop)], o.options.map fun option =>
        (option.presence, decide (option.resourceId = slot.resourceId))⟩ := by
  rw [operationHints, bind_eq_ok]
  refine exists_congr fun slot => and_congr_right fun _ => ?_
  exact ⟨fun heq => (Except.ok.inj heq).symm, fun heq => heq ▸ rfl⟩

theorem demandHints_eq_ok (problem : PlanningProblem) (placed : List (String × Slot))
    (d : DemandObjectiveVariables) (hints : List (IntVar × Int)) :
    demandHints problem placed d = .ok hints ↔ ∃ y, hintedDemand problem placed d = .ok y ∧
      hints = [(d.completionTick, y.1), (d.tardinessSeconds, y.2)] := by
  rw [demandHints, bind_eq_ok]
  refine exists_congr fun y => and_congr_right fun _ => ?_
  exact ⟨fun heq => (Except.ok.inj heq).symm, fun heq => heq ▸ rfl⟩

theorem hintsOf_facts (problem : PlanningProblem) (core : CoreCpSatModel)
    (objective : DeliveryObjectiveModel) (best : List (String × Slot) × Int) (hints : Hints)
    (h : hintsOf problem core objective best = .ok hints) :
    HintFacts problem core objective best hints := by
  obtain ⟨operations, hoperations, h⟩ := bind_eq_ok.mp h
  obtain ⟨demands, hdemands, h⟩ := bind_eq_ok.mp h
  injection h with h
  subst h
  have hslot := (collect_isOk _ _).mp ⟨operations, hoperations⟩
  have hdemand := (collect_isOk _ _).mp ⟨demands, hdemands⟩
  exact
    { slots := by
        intro o ho
        obtain ⟨y, hy⟩ := hslot o ho
        obtain ⟨slot, hslot, -⟩ := (operationHints_eq_ok _ _ _).mp hy
        exact ⟨slot, hslot⟩
      demands := by
        intro d hd
        obtain ⟨y, hy⟩ := hdemand d hd
        obtain ⟨z, hz, -⟩ := (demandHints_eq_ok _ _ _ _).mp hy
        exact ⟨z, hz⟩
      ints := by
        intro e
        simp only [List.mem_append, List.mem_flatMap, List.mem_flatten, List.mem_singleton,
          mem_collect hoperations, mem_collect hdemands, operationHints_eq_ok, demandHints_eq_ok,
          or_assoc]
        refine or_congr ⟨?_, ?_⟩ (or_congr ⟨?_, ?_⟩ Iff.rfl)
        · intro hmem
          obtain ⟨_, ⟨o, ho, slot, hslot, rfl⟩, he⟩ := hmem
          exact ⟨o, ho, slot, hslot, by simpa using he⟩
        · intro hmem
          obtain ⟨o, ho, slot, hslot, he⟩ := hmem
          exact ⟨_, ⟨o, ho, slot, hslot, rfl⟩, by simpa using he⟩
        · intro hmem
          obtain ⟨_, ⟨d, hd, y, hy, rfl⟩, he⟩ := hmem
          exact ⟨d, hd, y, hy, by simpa using he⟩
        · intro hmem
          obtain ⟨d, hd, y, hy, he⟩ := hmem
          exact ⟨_, ⟨d, hd, y, hy, rfl⟩, by simpa using he⟩
      bools := by
        intro e
        simp only [List.mem_flatMap, mem_collect hoperations, operationHints_eq_ok]
        constructor
        · intro hmem
          obtain ⟨_, ⟨o, ho, slot, hslot, rfl⟩, he⟩ := hmem
          obtain ⟨option, hoption, heq⟩ := List.mem_map.mp he
          exact ⟨o, ho, slot, hslot, option, hoption, heq.symm⟩
        · intro hmem
          obtain ⟨o, ho, slot, hslot, option, hoption, heq⟩ := hmem
          exact ⟨_, ⟨o, ho, slot, hslot, rfl⟩, List.mem_map.mpr ⟨option, hoption, heq.symm⟩⟩ }

/-- The valuation of a dispatch; the objective's variables are not set. -/
def scheduleValuation (problem : PlanningProblem) (placed : List (String × Slot)) : Valuation :=
  let slot (i : Nat) : Slot := match problem.operationInstances[i]? with
    | some o => (slotOf placed o.operationId).toOption.getD ⟨0, 0, ""⟩
    | none => ⟨0, 0, ""⟩
  { int := fun v => match v with
      | .start i => (slot i).start
      | .stop i => (slot i).stop
      | _ => 0
    bool := fun b => match b with
      | .presence i j =>
        match (problem.operationInstances[i]?).bind fun o => o.resourceOptions[j]? with
        | some option => decide (option.resourceId = (slot i).resourceId)
        | none => false
      | _ => false }

/-- The valuation of a dispatch takes each operation's hinted values. -/
theorem scheduleValuation_eq (problem : PlanningProblem) (placed : List (String × Slot))
    (o : CoreOperation) (ho : o ∈ coreOperations problem) (slot : Slot)
    (hslot : slotOf placed o.operationId = .ok slot) :
    (scheduleValuation problem placed).int o.start = slot.start ∧
      (scheduleValuation problem placed).int o.stop = slot.stop ∧
      ∀ option ∈ o.options, (scheduleValuation problem placed).bool option.presence =
        decide (option.resourceId = slot.resourceId) := by
  obtain ⟨i, hi, rfl⟩ := List.mem_mapIdx.mp ho
  have hget : problem.operationInstances[i]? = some problem.operationInstances[i] :=
    List.getElem?_eq_getElem hi
  have hfound : (slotOf placed problem.operationInstances[i].operationId).toOption.getD ⟨0, 0, ""⟩ =
      slot := by
    rw [show slotOf placed problem.operationInstances[i].operationId = .ok slot from hslot]
    rfl
  refine ⟨?_, ?_, fun option hoption => ?_⟩
  · simp only [scheduleValuation, coreOperation, hget, hfound]
  · simp only [scheduleValuation, coreOperation, hget, hfound]
  · obtain ⟨j, hj, rfl⟩ := List.mem_mapIdx.mp hoption
    have hoptionGet : problem.operationInstances[i].resourceOptions[j]? =
        some problem.operationInstances[i].resourceOptions[j] := List.getElem?_eq_getElem hj
    simp only [scheduleValuation, coreOption, hget, hfound, Option.bind_some, hoptionGet]
    rfl

/-- Where hints are added, a complete dispatch was found. -/
theorem addDispatchHints_complete {problem : PlanningProblem} {horizonStart horizonEnd : Datetime}
    {horizonTicks : Int} (h : PrecheckFacts problem horizonStart horizonEnd horizonTicks)
    (core : CoreCpSatModel) (hcore : core.horizonTicks = horizonTicks)
    (objective : DeliveryObjectiveModel) (hints : Hints)
    (hhints : addDispatchHints problem core objective = .ok (some hints)) :
    Dispatchable problem ∧ ∃ blocks best,
      calendarTickBlocks problem core.horizonTicks = .ok blocks ∧
      CompleteDispatch problem core blocks objective best ∧
      HintFacts problem core objective best hints := by
  unfold addDispatchHints at hhints
  split at hhints
  · cases hhints
  rename_i hdispatchable
  refine ⟨not_not.mp hdispatchable, ?_⟩
  obtain ⟨-, -, hhints⟩ := bind_eq_ok.mp hhints
  obtain ⟨-, -, hhints⟩ := bind_eq_ok.mp hhints
  obtain ⟨blocks, hblocks, hhints⟩ := bind_eq_ok.mp hhints
  have hnodup : (blocks.map Prod.fst).Nodup := by
    obtain ⟨blocks', hblocks', hids, -⟩ := calendarTickBlocks_ok h
    rw [hcore, hblocks'] at hblocks
    injection hblocks with hblocks
    rw [← hblocks, hids]
    exact (sortByKey_perm _ _).nodup_iff.mpr h.contract.resources_nodup
  have hrules : Returns (dispatchRules.foldlM (tryRule problem core objective blocks) none)
      fun best => ∀ b, best = some b → CompleteDispatch problem core blocks objective b :=
    Returns.foldlM (fun _ hnone => by cases hnone) fun best hbest rule _ =>
      returns_tryRule objective h.contract.tick_pos hnodup best hbest rule
  split at hhints
  · cases hhints
  · cases hhints
  · cases hhints
  · rename_i best work hbest
    obtain ⟨hints', hhints', heq⟩ := bind_eq_ok.mp hhints
    injection heq with heq
    injection heq with heq
    subst heq
    exact ⟨blocks, best, hblocks, hrules 0 _ _ hbest best rfl,
      hintsOf_facts problem core objective best _ hhints'⟩

section
variable {problem : PlanningProblem} {core : CoreCpSatModel}
  (hoperations : core.operations = coreOperations problem) {objective : DeliveryObjectiveModel}
  (facts : ObjectiveFacts problem core objective) {best : List (String × Slot) × Int}
  (hnodup : (best.1.map Prod.fst).Nodup) {hints : Hints}
  (hfacts : HintFacts problem core objective best hints)

include facts in
theorem demandVariables_mem (x : DeliveryDemand × Nat) (hx : x ∈ problem.deliveryDemands.zipIdx) :
    demandVariables problem x.2 x.1 ∈ objective.demands := by
  rw [facts.variables_eq]
  exact List.mem_map.mpr ⟨x, hx, rfl⟩

include hoperations hnodup hfacts in
/-- A valuation that takes the hints schedules the dispatch. -/
theorem schedules_of_taken {ν : Valuation} (hν : hints.TakenBy ν) :
    Schedules problem best.1 ν := by
  intro o ho
  have hmem : o ∈ core.operations := hoperations ▸ ho
  obtain ⟨slot, hslot⟩ := hfacts.slots o hmem
  refine ⟨slot, (slotOf_eq_ok _ hnodup _ _).mp hslot, ?_, ?_, fun option hoption => ?_⟩
  · exact hν.ints _ ((hfacts.ints _).mpr (.inl ⟨o, hmem, slot, hslot, .inl rfl⟩))
  · exact hν.ints _ ((hfacts.ints _).mpr (.inl ⟨o, hmem, slot, hslot, .inr rfl⟩))
  · exact hν.bools _ ((hfacts.bools _).mpr ⟨o, hmem, slot, hslot, option, hoption, rfl⟩)

include hoperations hnodup hfacts in
theorem schedules_valuation : Schedules problem best.1 (scheduleValuation problem best.1) := by
  intro o ho
  obtain ⟨slot, hslot⟩ := hfacts.slots o (hoperations ▸ ho)
  exact ⟨slot, (slotOf_eq_ok _ hnodup _ _).mp hslot,
    scheduleValuation_eq problem best.1 o ho slot hslot⟩

section
variable (hscore : dispatchScore problem objective best.1 = .ok best.2) {ν : Valuation}
  {plan : List Placement} (hsel : Selects problem ν plan) (hfollows : Follows best.1 plan)

include facts hnodup hfacts hscore hsel hfollows in
/-- A valuation that takes the hints measures the plan. -/
theorem measures_of_taken (hν : hints.TakenBy ν) : Measures problem plan ν := by
  have hdemand : ∀ x ∈ problem.deliveryDemands.zipIdx,
      ν.int (.completionTick x.2) = completionTick plan x.1.demandOrderId ∧
        ν.int (.tardinessSeconds x.2) = planTardiness problem plan x.1 := by
    intro x hx
    have hmem := demandVariables_mem facts x hx
    obtain ⟨y, hy⟩ := hfacts.demands _ hmem
    obtain ⟨hcompletion, htardiness⟩ := hintedDemand_eq hnodup hsel hfollows x.2 x.1 y.1 y.2 hy
    rw [← hcompletion, ← htardiness]
    exact ⟨hν.ints _ ((hfacts.ints _).mpr (.inr (.inl ⟨_, hmem, y, hy, .inl rfl⟩))),
      hν.ints _ ((hfacts.ints _).mpr (.inr (.inl ⟨_, hmem, y, hy, .inr rfl⟩)))⟩
  exact
    { completion := fun x hx => (hdemand x hx).1
      tardiness := fun x hx => (hdemand x hx).2
      total := by
        rw [← facts.total, ← dispatchScore_eq hnodup hsel hfollows facts best.2 hscore]
        exact hν.ints _ ((hfacts.ints _).mpr (.inr (.inr rfl))) }

include hoperations facts hnodup hfacts hscore hsel hfollows in
/-- The schedule's valuation, with the objective it amounts to, takes the hints. -/
theorem taken_withObjective :
    hints.TakenBy (withObjective problem plan (scheduleValuation problem best.1)) := by
  have hmeasures := withObjective_measures problem plan (scheduleValuation problem best.1)
  refine ⟨fun e he => ?_, fun e he => ?_⟩
  · obtain hslot | hdemand | htotal := (hfacts.ints e).mp he
    · obtain ⟨o, ho, slot, hslot, hvalue⟩ := hslot
      rw [hoperations] at ho
      obtain ⟨hstart, hstop, -⟩ := scheduleValuation_eq problem best.1 o ho slot hslot
      obtain ⟨i, _, rfl⟩ := List.mem_mapIdx.mp ho
      cases hvalue with
      | inl hvalue =>
        rw [hvalue]
        exact hstart
      | inr hvalue =>
        rw [hvalue]
        exact hstop
    · obtain ⟨d, hd, y, hy, hvalue⟩ := hdemand
      rw [facts.variables_eq] at hd
      obtain ⟨x, hx, rfl⟩ := List.mem_map.mp hd
      obtain ⟨hcompletion, htardiness⟩ := hintedDemand_eq hnodup hsel hfollows x.2 x.1 y.1 y.2 hy
      cases hvalue with
      | inl hvalue =>
        rw [hvalue]
        exact (hmeasures.completion x hx).trans hcompletion.symm
      | inr hvalue =>
        rw [hvalue]
        exact (hmeasures.tardiness x hx).trans htardiness.symm
    · rw [htotal, facts.total]
      exact (dispatchScore_eq hnodup hsel hfollows facts best.2 hscore).symm
  · obtain ⟨o, ho, slot, hslot, option, hoption, rfl⟩ := (hfacts.bools e).mp he
    rw [hoperations] at ho
    exact (scheduleValuation_eq problem best.1 o ho slot hslot).2.2 option hoption

end

include facts hfacts in
/-- Every variable of the model has a hinted value. -/
theorem domains_hinted (hdomains : core.model.domains =
      core.operations.flatMap (operationDomains core.horizonTicks)) :
    ∀ d ∈ objective.model.domains, ∃ value, (d.var, value) ∈ hints.ints := by
  rw [facts.model, Model.extend, hdomains, List.forall_mem_append, List.forall_mem_flatMap]
  constructor
  · intro o ho
    obtain ⟨slot, hslot⟩ := hfacts.slots o ho
    have hstart := (hfacts.ints (o.start, slot.start)).mpr (.inl ⟨o, ho, slot, hslot, .inl rfl⟩)
    have hstop := (hfacts.ints (o.stop, slot.stop)).mpr (.inl ⟨o, ho, slot, hslot, .inr rfl⟩)
    simp only [operationDomains, List.forall_mem_cons]
    exact ⟨⟨_, hstart⟩, ⟨_, hstop⟩, fun _ hnil => absurd hnil List.not_mem_nil⟩
  · unfold objectiveDomains
    rw [List.forall_mem_append, List.forall_mem_flatMap, List.forall_mem_singleton]
    constructor
    · intro x hx
      have hmem := demandVariables_mem facts x hx
      obtain ⟨y, hy⟩ := hfacts.demands _ hmem
      have hcompletion := (hfacts.ints (.completionTick x.2, y.1)).mpr
        (.inr (.inl ⟨_, hmem, y, hy, .inl rfl⟩))
      have htardiness := (hfacts.ints (.tardinessSeconds x.2, y.2)).mpr
        (.inr (.inl ⟨_, hmem, y, hy, .inr rfl⟩))
      simp only [demandDomains, demandVariables, List.forall_mem_cons]
      exact ⟨⟨_, hcompletion⟩, ⟨_, htardiness⟩, fun _ hnil => absurd hnil List.not_mem_nil⟩
    · rw [← facts.total]
      exact ⟨_, (hfacts.ints _).mpr (.inr (.inr rfl))⟩

end

/-- **A hint is a feasible schedule with its weighted tardiness.** Where the core model and the
objective are built and hints are added, every variable has a hinted value, some valuation
takes them all, and every valuation that does satisfies the model with the objective; the
hinted total is what is measured from its mapped assignments. -/
theorem dispatchHints_feasible (validate : Model → Bool) (problem : PlanningProblem)
    (core : CoreCpSatModel) (objective : DeliveryObjectiveModel) (hints : Hints)
    (hbuild : buildCoreModel validate problem = .ok core)
    (hobjective : addDeliveryObjective problem core = .ok objective)
    (hhints : addDispatchHints problem core objective = .ok (some hints)) :
    (∃ ν, hints.TakenBy ν) ∧
      (∀ d ∈ objective.model.domains, ∃ value, (d.var, value) ∈ hints.ints) ∧
      (∀ o ∈ core.operations, ∀ option ∈ o.options,
        ∃ value, (option.presence, value) ∈ hints.bools) ∧
      ∃ total, (objective.totalWeightedTardinessSeconds, total) ∈ hints.ints ∧
        ∀ ν, hints.TakenBy ν → objective.model.Satisfied ν ∧ ∃ values,
          assignments problem core ν = .ok values ∧
            measuredWeightedTardinessSeconds problem values = .ok total := by
  obtain ⟨precheck, hprecheck, hticks, hdomains⟩ :=
    buildCoreModel_precheck validate problem core hbuild
  obtain ⟨horizonStart, horizonEnd, h⟩ := precheck_facts problem precheck hprecheck
  obtain ⟨core', hoperations, -, honly, -, -⟩ := coreModel_spec h precheck hprecheck rfl
  have heq := honly validate core hbuild
  subst heq
  have facts := addDeliveryObjective_facts problem core objective hobjective
  obtain ⟨hdispatchable, blocks, best, hblocks, hbest, hfacts⟩ :=
    addDispatchHints_complete h core hticks objective hints hhints
  obtain ⟨occupied, hdispatched⟩ := hbest.dispatched
  have hnodup := hdispatched.nodup
  refine ⟨?_, domains_hinted facts hfacts hdomains, ?_, best.2,
    (hfacts.ints _).mpr (.inr (.inr rfl)), fun ν hν => ?_⟩
  · obtain ⟨plan, hsel, hfollows⟩ := selects_of_schedules h hoperations hdispatched
      (schedules_valuation hoperations hnodup hfacts)
    exact ⟨_, taken_withObjective hoperations facts hnodup hfacts hbest.score hsel hfollows⟩
  · intro o ho option hoption
    obtain ⟨slot, hslot⟩ := hfacts.slots o ho
    exact ⟨_, (hfacts.bools _).mpr ⟨o, ho, slot, hslot, option, hoption, rfl⟩⟩
  · obtain ⟨plan, hsel, hfollows⟩ := selects_of_schedules h hoperations hdispatched
      (schedules_of_taken hoperations hnodup hfacts hν)
    have hfeasible := feasible_of_follows h hoperations hticks hdispatched hdispatchable hblocks
      hsel hfollows
    have hspec := objective_spec validate problem core objective hbuild hobjective ν plan hsel
      hfeasible
    obtain ⟨values, hvalues, hmeasured⟩ := measured_of_selects h hoperations facts hsel hfeasible
    refine ⟨?_, values, hvalues, ?_⟩
    · exact (hspec.satisfied_iff ν ⟨fun _ => rfl, fun _ => rfl, fun _ _ => rfl⟩).mpr
        (measures_of_taken facts hnodup hfacts hbest.score hsel hfollows hν)
    · rw [dispatchScore_eq hnodup hsel hfollows facts best.2 hbest.score]
      exact hmeasured

/-- The dispatch of one operation is hinted, and satisfies the model. -/
theorem dispatchHints_feasible_oneOperation :
    ∃ core objective hints, buildCoreModel (fun _ => true) oneOperationProblem = .ok core ∧
      addDeliveryObjective oneOperationProblem core = .ok objective ∧
      addDispatchHints oneOperationProblem core objective = .ok (some hints) ∧
      ∃ ν, hints.TakenBy ν ∧ objective.model.Satisfied ν := by
  have hcomputed : ((buildCoreModel (fun _ => true) oneOperationProblem).toOption.bind fun core =>
      (addDeliveryObjective oneOperationProblem core).toOption.bind fun objective =>
        (addDispatchHints oneOperationProblem core objective).toOption.map fun hints =>
          hints.isSome) = some true := by
    decide +kernel
  obtain ⟨core, hbuild, hcomputed⟩ := Option.bind_eq_some_iff.mp hcomputed
  obtain ⟨objective, hobjective, hcomputed⟩ := Option.bind_eq_some_iff.mp hcomputed
  obtain ⟨result, hresult, hsome⟩ := Option.map_eq_some_iff.mp hcomputed
  obtain ⟨hints, rfl⟩ := Option.isSome_iff_exists.mp hsome
  have hok : ∀ {ε α : Type} {x : Except ε α} {a : α}, x.toOption = some a → x = .ok a := by
    intro ε α x a hx
    cases x with
    | error e => cases hx
    | ok b => exact congrArg Except.ok (Option.some.inj hx)
  obtain ⟨⟨ν, hν⟩, -, -, total, -, hall⟩ := dispatchHints_feasible _ _ core objective hints
    (hok hbuild) (hok hobjective) (hok hresult)
  exact ⟨core, objective, hints, hok hbuild, hok hobjective, hok hresult, ν, hν, (hall ν hν).1⟩

end PlantNexus.Backend
