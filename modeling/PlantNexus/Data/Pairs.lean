import Mathlib.Data.List.Perm.Basic
import Mathlib.Data.Sym.Sym2

/-! The unordered pairs of the positions of a list.

`pairsOf` lists each pair of positions once, the earlier first, so equal elements at two
positions make a pair of their own. Reordering a list only reorders its pairs and swaps their
ends (`pairsOf_perm`), and a list that is dealt into groups has the pairs that fall into one
group among those of the whole (`flatMap_filter_perm`). A sweep over an ordered list that stops
at the first element past a bound finds the same elements as one that goes on
(`takeWhile_eq_filter`). -/
namespace PlantNexus.Data

variable {α β κ : Type*}

/-- The pairs of positions, the earlier first. -/
def pairsOf : List α → List (α × α)
  | [] => []
  | a :: rest => rest.map (fun b => (a, b)) ++ pairsOf rest

/-- A pair without its order. -/
def unordered (pair : α × α) : Sym2 α := s(pair.1, pair.2)

theorem mem_pairsOf {xs : List α} {pair : α × α} (h : pair ∈ pairsOf xs) :
    pair.1 ∈ xs ∧ pair.2 ∈ xs := by
  induction xs with
  | nil => exact absurd h List.not_mem_nil
  | cons a rest ih =>
    rcases List.mem_append.mp h with h | h
    · obtain ⟨b, hb, rfl⟩ := List.mem_map.mp h
      exact ⟨List.mem_cons_self .., List.mem_cons_of_mem _ hb⟩
    · obtain ⟨hfirst, hsecond⟩ := ih h
      exact ⟨List.mem_cons_of_mem _ hfirst, List.mem_cons_of_mem _ hsecond⟩

/-- The pairs of what is left of a list are the pairs of which both ends are left. -/
theorem pairsOf_filterMap (f : α → Option β) (xs : List α) :
    pairsOf (xs.filterMap f) = (pairsOf xs).filterMap fun pair =>
      (f pair.1).bind fun x => (f pair.2).map fun y => (x, y) := by
  induction xs with
  | nil => rfl
  | cons a rest ih =>
    rw [pairsOf, List.filterMap_append, List.filterMap_map]
    cases ha : f a with
    | none =>
      rw [List.filterMap_cons_none ha, ih]
      simp [ha]
    | some x =>
      rw [List.filterMap_cons_some ha, pairsOf, ih, List.map_filterMap]
      simp [ha]

/-- **Reordering a list reorders its unordered pairs.** -/
theorem pairsOf_perm (p : α × α → Bool) (hsymm : ∀ a b, p (a, b) = p (b, a)) {xs ys : List α}
    (h : xs.Perm ys) :
    (((pairsOf xs).filter p).map unordered).Perm (((pairsOf ys).filter p).map unordered) := by
  induction h with
  | nil => exact .nil
  | cons a hrest ih =>
    simp only [pairsOf, List.filter_append, List.map_append]
    exact (((hrest.map _).filter _).map _).append ih
  | swap a b rest =>
    have hswap : p (b, a) = p (a, b) := hsymm b a
    have hends : unordered (b, a) = unordered (a, b) := Sym2.eq_swap
    have hrest : ∀ first second third : List (α × α),
        ((first ++ (second ++ third)).map unordered).Perm
          ((second ++ (first ++ third)).map unordered) := by
      intro first second third
      rw [← List.append_assoc, ← List.append_assoc]
      exact (List.perm_append_comm.append_right _).map _
    simp only [pairsOf, List.map_cons, List.cons_append, List.filter_cons, List.filter_append,
      hswap]
    split
    · simp only [List.map_cons, hends]
      exact (hrest _ _ _).cons _
    · exact hrest _ _ _
  | trans _ _ ih ih' => exact ih.trans ih'

theorem filter_or_perm (p q : α → Bool) (xs : List α) (hdisjoint : ∀ x ∈ xs, ¬(p x ∧ q x)) :
    (xs.filter p ++ xs.filter q).Perm (xs.filter fun x => p x || q x) := by
  induction xs with
  | nil => exact .nil
  | cons a rest ih =>
    have hrest := ih fun x hx => hdisjoint x (List.mem_cons_of_mem _ hx)
    have ha := hdisjoint a (List.mem_cons_self ..)
    cases hp : p a with
    | true =>
      have hq : q a = false := by simpa [hp] using ha
      simpa [List.filter_cons, hp, hq] using hrest
    | false =>
      cases hq : q a with
      | true =>
        simp only [List.filter_cons, hp, hq, Bool.false_or, if_true, Bool.false_eq_true, if_false]
        exact List.perm_middle.trans (hrest.cons a)
      | false => simpa [List.filter_cons, hp, hq] using hrest

/-- **Dealing a list into groups keeps it, when no element goes into two.** -/
theorem flatMap_filter_perm (p : κ → α → Bool) {keys : List κ} (hkeys : keys.Nodup) (xs : List α)
    (hunique : ∀ x ∈ xs, ∀ k ∈ keys, ∀ k' ∈ keys, p k x → p k' x → k = k') :
    (keys.flatMap fun k => xs.filter (p k)).Perm (xs.filter fun x => keys.any fun k => p k x) := by
  induction keys with
  | nil => simp
  | cons k rest ih =>
    obtain ⟨hnew, hrest⟩ := List.nodup_cons.mp hkeys
    have hdealt := ih hrest fun x hx a ha b hb =>
      hunique x hx a (List.mem_cons_of_mem _ ha) b (List.mem_cons_of_mem _ hb)
    simp only [List.flatMap_cons, List.any_cons]
    refine (hdealt.append_left _).trans (filter_or_perm _ _ _ fun x hx hboth => ?_)
    obtain ⟨k', hk', hp⟩ := List.any_eq_true.mp hboth.2
    have heq := hunique x hx k (List.mem_cons_self ..) k' (List.mem_cons_of_mem _ hk') hboth.1 hp
    exact hnew (heq ▸ hk')

/-- Past the first element at or after the bound there is none before it. -/
theorem takeWhile_eq_filter [LinearOrder κ] (key : α → κ) (bound : κ) {xs : List α}
    (hsorted : xs.Pairwise fun a b => key a ≤ key b) :
    (xs.takeWhile fun x => key x < bound) = xs.filter fun x => key x < bound := by
  induction xs with
  | nil => rfl
  | cons a rest ih =>
    obtain ⟨ha, hrest⟩ := List.pairwise_cons.mp hsorted
    by_cases hlt : key a < bound
    · rw [List.takeWhile_cons_of_pos (by simpa using hlt), List.filter_cons_of_pos (by simpa using hlt),
        ih hrest]
    · have hnone : ∀ x ∈ rest, ¬(decide (key x < bound) = true) := by
        intro x hx hx'
        exact hlt ((ha x hx).trans_lt (decide_eq_true_eq.mp hx'))
      rw [List.takeWhile_cons_of_neg (by simpa using hlt),
        List.filter_cons_of_neg (by simpa using hlt), List.filter_eq_nil_iff.mpr hnone]

end PlantNexus.Data
