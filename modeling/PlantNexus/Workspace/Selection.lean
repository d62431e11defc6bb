import PlantNexus.Workspace.Paging

/-! The collection that a query pages through.

The loop of `_filtered` keeps the items that pass the identity filters, the state filter and the
range test on the text of the start, and raises where the state it asks for is not hashable
(`filtered_ok_iff`, `mem_filtered`). Sorting puts them in the lexicographic order of the sort terms
and the item ids (`sorted_pairwise`). -/
namespace PlantNexus.Workspace
open Data Domain JsonRead

/-! ### The filters -/

/-- The state filter, by the schedule's state or the item's. -/
def StateWanted (filters : QueryFilters) (scheduleState : Option String)
    (item : WorkspaceProjection) : Prop :=
  StateKnown filters scheduleState ∨
    ∃ state ∈ filters.states, item.payload.get "state" = .str state

/-- The filters as the loop applies them. -/
def Selected (filters : QueryFilters) (scheduleState : Option String)
    (item : WorkspaceProjection) : Prop :=
  Identified filters item ∧ StateWanted filters scheduleState item ∧ TextInRange filters item

/-- The state of an item is hashable where the loop asks for it. -/
def StateReadable (filters : QueryFilters) (scheduleState : Option String)
    (item : WorkspaceProjection) : Prop :=
  Identified filters item → ¬StateKnown filters scheduleState →
    Hashable (item.payload.get "state")

theorem startInRange_iff (filters : QueryFilters) (item : WorkspaceProjection) :
    startInRange filters item = true ↔ TextInRange filters item := by
  unfold startInRange TextInRange
  rw [Bool.and_eq_true]
  refine and_congr ?_ ?_
  · cases filters.startAtOrAfter with
    | none => simp
    | some low =>
      cases startText item with
      | none => simp
      | some start =>
        rw [decide_eq_true_iff, not_lt]
        simp only [Option.mem_some_iff, forall_eq', Option.some.injEq, exists_eq_left']
  · cases filters.startBefore with
    | none => simp
    | some high =>
      cases startText item with
      | none => simp
      | some start =>
        rw [decide_eq_true_iff, not_le]
        simp only [Option.mem_some_iff, forall_eq', Option.some.injEq, exists_eq_left']

theorem memberOf_ok_iff {value : Json} {texts : List String} {known : Bool} :
    memberOf value texts = .ok known ↔
      Hashable value ∧ (known = true ↔ ∃ text ∈ texts, value = .str text) := by
  rw [memberOf, bind_unit_eq_ok, require_eq_ok]
  refine and_congr_right fun _ => ?_
  show Except.ok _ = Except.ok known ↔ _
  rw [Except.ok.injEq]
  cases known with
  | true => simp
  | false => simp

/-- **One turn of the loop.** It fails on a state that is not hashable, and keeps an item by the
three kinds of filters. -/
theorem selects_ok_iff {filters : QueryFilters} {scheduleState : Option String}
    {item : WorkspaceProjection} {keep : Bool} :
    selects filters scheduleState item = .ok keep ↔
      StateReadable filters scheduleState item ∧
        (keep = true ↔ Selected filters scheduleState item) := by
  unfold selects StateReadable Selected StateWanted
  by_cases hid : Identified filters item
  · rw [if_neg (not_not.mpr hid)]
    by_cases hstate : StateKnown filters scheduleState
    · rw [if_pos hstate, Except.ok.injEq, Bool.eq_iff_iff, startInRange_iff]
      simp only [hid, hstate, not_true_eq_false, true_or, true_and, false_imp_iff, imp_true_iff]
      exact iff_comm
    · rw [if_neg hstate, bind_eq_ok]
      simp only [hid, hstate, not_false_eq_true, false_or, true_and, forall_const]
      constructor
      · rintro ⟨known, hknown, heq⟩
        obtain ⟨hhash, hmem⟩ := memberOf_ok_iff.mp hknown
        refine ⟨hhash, ?_⟩
        rw [← Except.ok.inj heq, Bool.and_eq_true, hmem, startInRange_iff]
      · rintro ⟨hhash, hkeep⟩
        refine ⟨decide (∃ text ∈ filters.states, item.payload.get "state" = .str text), ?_, ?_⟩
        · exact memberOf_ok_iff.mpr ⟨hhash, by simp⟩
        · refine congrArg Except.ok ?_
          rw [Bool.eq_iff_iff, hkeep, Bool.and_eq_true, startInRange_iff, decide_eq_true_iff]
  · rw [if_pos hid, Except.ok.injEq]
    simp only [hid, false_imp_iff, false_and, iff_false, true_and, Bool.not_eq_true]
    exact eq_comm

theorem filtered_sublist {filters : QueryFilters} {scheduleState : Option String}
    {items selected : List WorkspaceProjection}
    (h : filtered filters scheduleState items = .ok selected) : selected.Sublist items := by
  induction items generalizing selected with
  | nil => rw [← Except.ok.inj h]
  | cons item rest ih =>
    obtain ⟨keep, -, h⟩ := bind_eq_ok.mp h
    obtain ⟨more, hmore, h⟩ := bind_eq_ok.mp h
    rw [← Except.ok.inj h]
    cases keep with
    | true => exact (ih hmore).cons_cons item
    | false => exact (ih hmore).cons item

/-- **The loop keeps the selected items**, and fails exactly on a state that is not hashable. -/
theorem filtered_ok_iff {filters : QueryFilters} {scheduleState : Option String}
    {items : List WorkspaceProjection} :
    (∃ selected, filtered filters scheduleState items = .ok selected) ↔
      ∀ item ∈ items, StateReadable filters scheduleState item := by
  induction items with
  | nil => exact ⟨fun _ _ hmem => absurd hmem List.not_mem_nil, fun _ => ⟨[], rfl⟩⟩
  | cons item rest ih =>
    rw [List.forall_mem_cons, ← ih]
    constructor
    · rintro ⟨selected, h⟩
      obtain ⟨keep, hkeep, h⟩ := bind_eq_ok.mp h
      obtain ⟨more, hmore, -⟩ := bind_eq_ok.mp h
      exact ⟨(selects_ok_iff.mp hkeep).1, more, hmore⟩
    · rintro ⟨hreadable, more, hmore⟩
      by_cases hselected : Selected filters scheduleState item
      · have hkeep := selects_ok_iff.mpr ⟨hreadable, iff_of_true rfl hselected⟩
        exact ⟨_, bind_eq_ok.mpr ⟨true, hkeep, bind_eq_ok.mpr ⟨more, hmore, rfl⟩⟩⟩
      · have hkeep := selects_ok_iff.mpr ⟨hreadable, iff_of_false Bool.false_ne_true hselected⟩
        exact ⟨_, bind_eq_ok.mpr ⟨false, hkeep, bind_eq_ok.mpr ⟨more, hmore, rfl⟩⟩⟩

theorem mem_filtered {filters : QueryFilters} {scheduleState : Option String}
    {items selected : List WorkspaceProjection}
    (h : filtered filters scheduleState items = .ok selected) (item : WorkspaceProjection) :
    item ∈ selected ↔ item ∈ items ∧ Selected filters scheduleState item := by
  induction items generalizing selected with
  | nil =>
    rw [← Except.ok.inj h]
    simp
  | cons first rest ih =>
    obtain ⟨keep, hkeep, h⟩ := bind_eq_ok.mp h
    obtain ⟨more, hmore, h⟩ := bind_eq_ok.mp h
    have hselected := (selects_ok_iff.mp hkeep).2
    have hrest := ih hmore
    rw [← Except.ok.inj h, List.mem_cons]
    cases keep with
    | true =>
      rw [if_pos rfl, List.mem_cons, hrest, or_and_right]
      refine or_congr_left ?_
      exact ⟨fun heq => ⟨heq, heq ▸ hselected.mp rfl⟩, fun hboth => hboth.1⟩
    | false =>
      rw [if_neg Bool.false_ne_true, hrest, or_and_right]
      refine (or_iff_right ?_).symm
      rintro ⟨rfl, hyes⟩
      exact Bool.false_ne_true (hselected.mpr hyes)

/-! ### The order -/

/-- Ties are broken by the item id. -/
def IdBefore (a b : WorkspaceProjection) : Prop := a.itemId < b.itemId

/-- The requested order on the texts that the fields hold. -/
def TextBefore (spec : WorkspaceQuerySpec) : WorkspaceProjection → WorkspaceProjection → Prop :=
  LexBefore IdBefore (spec.sort.map sortTerm)

theorem textBefore_asymm (spec : WorkspaceQuerySpec) (a b : WorkspaceProjection)
    (h : TextBefore spec a b) : ¬TextBefore spec b a :=
  lexBefore_asymm (fun _ _ hlt => lt_asymm hlt) _ a b h

theorem mem_sorted {items : List WorkspaceProjection} {spec : WorkspaceQuerySpec}
    {item : WorkspaceProjection} : item ∈ sorted items spec ↔ item ∈ items := by
  rw [sorted, (sortTerms_perm _ _).mem_iff, mem_sortByKey]

theorem sorted_nodup {items : List WorkspaceProjection} (spec : WorkspaceQuerySpec)
    (hids : (items.map WorkspaceProjection.itemId).Nodup) : (sorted items spec).Nodup := by
  have hperm : (sorted items spec).Perm items := (sortTerms_perm _ _).trans (sortByKey_perm _ _)
  exact hperm.nodup_iff.mpr (List.Nodup.of_map _ hids)

theorem sorted_pairwise {items : List WorkspaceProjection} (spec : WorkspaceQuerySpec)
    (hids : (items.map WorkspaceProjection.itemId).Nodup) :
    (sorted items spec).Pairwise (TextBefore spec) := by
  refine sortTerms_pairwise _ ?_
  have hperm := (sortByKey_perm WorkspaceProjection.itemId items).map WorkspaceProjection.itemId
  have hne : (sortByKey WorkspaceProjection.itemId items).Pairwise
      fun a b => a.itemId ≠ b.itemId :=
    List.pairwise_map.mp (hperm.nodup_iff.mpr hids)
  refine ((sortByKey_pairwise WorkspaceProjection.itemId items).and hne).imp ?_
  intro a b hboth
  exact lt_of_le_of_ne hboth.1 hboth.2

end PlantNexus.Workspace
