import Mathlib
import PlantNexus.Data.Lists

/-! Half-open intervals of a line, and how much of it they cover.

`mergeIntervals` sorts intervals and joins those that overlap or touch. The lengths of what it
leaves add up to the number of points that the intervals cover (`mergeIntervals_length`), and so do
the lengths of intervals that keep apart (`apart_length`). -/
namespace PlantNexus.Data

/-! ### Merging -/

section Merging
variable {α β : Type*} [LinearOrder α] [LinearOrder β]

/-- One more interval, which starts at or after the last one. -/
def joinStep (merged : List (α × α)) (x : α × α) : List (α × α) :=
  match merged.getLast? with
  | none => [x]
  | some last =>
    if last.2 < x.1 then merged ++ [x]
    else if last.2 < x.2 then merged.dropLast ++ [(last.1, x.2)]
    else merged

def mergeIntervals (xs : List (α × α)) : List (α × α) :=
  (sortByKey (fun x => toLex (x.1, x.2)) xs).foldl joinStep []

/-- What merging leaves from a last interval on. -/
def mergeFrom (last : α × α) : List (α × α) → List (α × α)
  | [] => [last]
  | x :: xs =>
    if last.2 < x.1 then last :: mergeFrom x xs
    else if last.2 < x.2 then mergeFrom (last.1, x.2) xs
    else mergeFrom last xs

theorem foldl_joinStep (front : List (α × α)) (last : α × α) (xs : List (α × α)) :
    xs.foldl joinStep (front ++ [last]) = front ++ mergeFrom last xs := by
  induction xs generalizing front last with
  | nil => rfl
  | cons x xs ih =>
    rw [List.foldl_cons, joinStep, List.getLast?_concat, mergeFrom]
    dsimp only
    by_cases hnew : last.2 < x.1
    · rw [if_pos hnew, if_pos hnew, ih, List.append_assoc, List.singleton_append]
    · rw [if_neg hnew, if_neg hnew]
      by_cases hlonger : last.2 < x.2
      · rw [if_pos hlonger, if_pos hlonger, List.dropLast_concat, ih]
      · rw [if_neg hlonger, if_neg hlonger, ih]

theorem mergeIntervals_eq (xs : List (α × α)) :
    mergeIntervals xs = match sortByKey (fun x => toLex (x.1, x.2)) xs with
      | [] => []
      | x :: rest => mergeFrom x rest := by
  rw [mergeIntervals]
  cases sortByKey (fun x : α × α => toLex (x.1, x.2)) xs with
  | nil => rfl
  | cons x rest => exact foldl_joinStep [] x rest

/-- Merging goes along with a strictly increasing map. -/
theorem mergeIntervals_map {f : α → β} (hf : StrictMono f) (xs : List (α × α)) :
    mergeIntervals (xs.map (Prod.map f f)) = (mergeIntervals xs).map (Prod.map f f) := by
  have hsort : sortByKey (fun x : β × β => toLex (x.1, x.2)) (xs.map (Prod.map f f)) =
      (sortByKey (fun x : α × α => toLex (x.1, x.2)) xs).map (Prod.map f f) := by
    refine (List.map_insertionSort _ _ _ _ ?_).symm
    intro a _ b _
    simp only [Prod.Lex.toLex_le_toLex, Prod.map_fst, Prod.map_snd, hf.lt_iff_lt, hf.le_iff_le,
      hf.injective.eq_iff]
  have hfrom : ∀ (last : α × α) (rest : List (α × α)),
      mergeFrom (Prod.map f f last) (rest.map (Prod.map f f)) =
        (mergeFrom last rest).map (Prod.map f f) := by
    intro last rest
    induction rest generalizing last with
    | nil => rfl
    | cons x rest ih =>
      rw [List.map_cons, mergeFrom, mergeFrom]
      simp only [Prod.map_fst, Prod.map_snd, hf.lt_iff_lt]
      split_ifs
      · rw [ih, List.map_cons]
      · exact ih (last.1, x.2)
      · exact ih last
  rw [mergeIntervals_eq, mergeIntervals_eq, hsort]
  cases sortByKey (fun x : α × α => toLex (x.1, x.2)) xs with
  | nil => rfl
  | cons x rest => exact hfrom x rest

end Merging

/-! ### Covered points -/

/-- The points of intervals. -/
noncomputable def covered : List (Int × Int) → Finset Int
  | [] => ∅
  | x :: xs => Finset.Ico x.1 x.2 ∪ covered xs

theorem mem_covered {xs : List (Int × Int)} {t : Int} :
    t ∈ covered xs ↔ ∃ x ∈ xs, x.1 ≤ t ∧ t < x.2 := by
  induction xs with
  | nil => simp [covered]
  | cons x xs ih => simp [covered, ih, Finset.mem_union, Finset.mem_Ico]

theorem covered_congr {xs ys : List (Int × Int)} (h : ∀ x, x ∈ xs ↔ x ∈ ys) :
    covered xs = covered ys := by
  ext t
  simp only [mem_covered, h]

def intervalLength (x : Int × Int) : Int := x.2 - x.1

theorem card_Ico {x : Int × Int} (h : x.1 ≤ x.2) :
    ((Finset.Ico x.1 x.2).card : Int) = intervalLength x := by
  rw [Int.card_Ico, intervalLength, Int.toNat_of_nonneg (by omega)]

theorem disjoint_covered {x : Int × Int} {xs : List (Int × Int)}
    (h : ∀ y ∈ xs, x.2 ≤ y.1 ∨ y.2 ≤ x.1) : Disjoint (Finset.Ico x.1 x.2) (covered xs) := by
  rw [Finset.disjoint_left]
  intro t ht hcovered
  obtain ⟨y, hy, hlow, hhigh⟩ := mem_covered.mp hcovered
  rw [Finset.mem_Ico] at ht
  have := h y hy
  omega

/-- An interval with the points of two covers what the two cover. -/
theorem covered_join {x y join : Int × Int}
    (h : ∀ t, join.1 ≤ t ∧ t < join.2 ↔ (x.1 ≤ t ∧ t < x.2) ∨ (y.1 ≤ t ∧ t < y.2))
    (xs : List (Int × Int)) : covered (join :: xs) = covered (x :: y :: xs) := by
  ext t
  simp only [covered, Finset.mem_union, Finset.mem_Ico, h, or_assoc]

/-- An interval apart from the others adds its length. -/
theorem card_covered_cons {x : Int × Int} {xs : List (Int × Int)} (h : x.1 ≤ x.2)
    (hdisjoint : Disjoint (Finset.Ico x.1 x.2) (covered xs)) :
    ((covered (x :: xs)).card : Int) = intervalLength x + (covered xs).card := by
  rw [covered, Finset.card_union_of_disjoint hdisjoint, Nat.cast_add, card_Ico h]

/-- **Intervals that keep apart cover as much as they are long.** -/
theorem apart_length {xs : List (Int × Int)} (h : ∀ x ∈ xs, x.1 ≤ x.2)
    (hapart : xs.Pairwise fun x y => x.2 ≤ y.1 ∨ y.2 ≤ x.1) :
    (xs.map intervalLength).sum = (covered xs).card := by
  induction xs with
  | nil => rfl
  | cons x xs ih =>
    obtain ⟨hfirst, hrest⟩ := List.pairwise_cons.mp hapart
    rw [List.map_cons, List.sum_cons, ih (fun y hy => h y (List.mem_cons_of_mem x hy)) hrest,
      card_covered_cons (h x (List.mem_cons_self ..)) (disjoint_covered hfirst)]

theorem mergeFrom_length {last : Int × Int} {xs : List (Int × Int)} (hlast : last.1 ≤ last.2)
    (h : ∀ x ∈ xs, x.1 ≤ x.2) (hstarts : ∀ x ∈ xs, last.1 ≤ x.1)
    (hsorted : xs.Pairwise fun x y => x.1 ≤ y.1) :
    ((mergeFrom last xs).map intervalLength).sum = (covered (last :: xs)).card := by
  induction xs generalizing last with
  | nil =>
    rw [mergeFrom, List.map_singleton, List.sum_singleton,
      card_covered_cons hlast (Finset.disjoint_empty_right _), covered, Finset.card_empty,
      Nat.cast_zero, add_zero]
  | cons x xs ih =>
    obtain ⟨hfirst, hrest⟩ := List.pairwise_cons.mp hsorted
    have hx := h x (List.mem_cons_self ..)
    have hxs := fun y hy => h y (List.mem_cons_of_mem x hy)
    have hstart := hstarts x (List.mem_cons_self ..)
    rw [mergeFrom]
    split_ifs with hnew hlonger
    · -- Nothing that comes later starts before the end of the last interval.
      have hapart : ∀ y ∈ x :: xs, last.2 ≤ y.1 ∨ y.2 ≤ last.1 := by
        intro y hy
        rcases List.mem_cons.mp hy with rfl | hy
        · exact .inl hnew.le
        · exact .inl (hnew.le.trans (hfirst y hy))
      rw [List.map_cons, List.sum_cons, ih hx hxs hfirst hrest,
        card_covered_cons hlast (disjoint_covered hapart)]
    · have hle : ((last.1, x.2) : Int × Int).1 ≤ ((last.1, x.2) : Int × Int).2 := hstart.trans hx
      have hsame : covered ((last.1, x.2) :: xs) = covered (last :: x :: xs) :=
        covered_join (fun t => by dsimp only; omega) xs
      rw [ih hle hxs (fun y hy => hstart.trans (hfirst y hy)) hrest, hsame]
    · have hsame : covered (last :: xs) = covered (last :: x :: xs) :=
        covered_join (fun t => by omega) xs
      rw [ih hlast hxs (fun y hy => hstart.trans (hfirst y hy)) hrest, hsame]

/-- **What merging leaves is as long as the intervals cover.** -/
theorem mergeIntervals_length {xs : List (Int × Int)} (h : ∀ x ∈ xs, x.1 ≤ x.2) :
    ((mergeIntervals xs).map intervalLength).sum = (covered xs).card := by
  have hmem := mem_sortByKey (fun x : Int × Int => toLex (x.1, x.2)) xs
  have hsorted := sortByKey_pairwise (fun x : Int × Int => toLex (x.1, x.2)) xs
  rw [mergeIntervals_eq, ← covered_congr hmem]
  cases hsort : sortByKey (fun x : Int × Int => toLex (x.1, x.2)) xs with
  | nil => rfl
  | cons x rest =>
    rw [hsort] at hmem hsorted
    have hstarts : (x :: rest).Pairwise fun a b => a.1 ≤ b.1 := by
      refine hsorted.imp ?_
      intro a b hle
      rw [Prod.Lex.toLex_le_toLex] at hle
      omega
    obtain ⟨hfirst, hrest⟩ := List.pairwise_cons.mp hstarts
    have hle : ∀ y ∈ x :: rest, y.1 ≤ y.2 := fun y hy => h y ((hmem y).mp hy)
    exact mergeFrom_length (hle x (List.mem_cons_self ..))
      (fun y hy => hle y (List.mem_cons_of_mem x hy)) hfirst hrest

/-- **What keeps apart inside a bound, off the covered points, fits into what they leave.** -/
theorem apart_length_le {low high : Int} {xs taken : List (Int × Int)} (h : ∀ x ∈ xs, x.1 ≤ x.2)
    (hapart : xs.Pairwise fun x y => x.2 ≤ y.1 ∨ y.2 ≤ x.1)
    (hinside : ∀ x ∈ xs, low ≤ x.1 ∧ x.2 ≤ high)
    (hfree : ∀ x ∈ xs, ∀ y ∈ taken, x.2 ≤ y.1 ∨ y.2 ≤ x.1) :
    (xs.map intervalLength).sum ≤ ((Finset.Ico low high \ covered taken).card : Int) := by
  rw [apart_length h hapart]
  refine Int.ofNat_le.mpr (Finset.card_le_card ?_)
  intro t ht
  obtain ⟨x, hx, hlow, hhigh⟩ := mem_covered.mp ht
  rw [Finset.mem_sdiff, Finset.mem_Ico, mem_covered]
  have hbounds := hinside x hx
  refine ⟨by omega, ?_⟩
  rintro ⟨y, hy, hylow, hyhigh⟩
  have := hfree x hx y hy
  omega

/-! ### The part inside a bound -/

/-- The parts of intervals inside a bound. -/
def clip (low high : Int) (xs : List (Int × Int)) : List (Int × Int) :=
  (xs.map fun x => (max x.1 low, min x.2 high)).filter fun x => x.1 < x.2

theorem le_of_mem_clip {low high : Int} {xs : List (Int × Int)} {x : Int × Int}
    (h : x ∈ clip low high xs) : x.1 ≤ x.2 :=
  (of_decide_eq_true (List.mem_filter.mp h).2).le

theorem mem_covered_clip {low high : Int} {xs : List (Int × Int)} {t : Int} :
    t ∈ covered (clip low high xs) ↔ t ∈ covered xs ∧ low ≤ t ∧ t < high := by
  rw [mem_covered, mem_covered]
  constructor
  · rintro ⟨y, hy, hlow, hhigh⟩
    obtain ⟨x, hx, rfl⟩ := List.mem_map.mp (List.mem_filter.mp hy).1
    exact ⟨⟨x, hx, (le_max_left _ _).trans hlow, hhigh.trans_le (min_le_left _ _)⟩,
      (le_max_right _ _).trans hlow, hhigh.trans_le (min_le_right _ _)⟩
  · rintro ⟨⟨x, hx, hstart, hstop⟩, hlow, hhigh⟩
    have hfrom : max x.1 low ≤ t := max_le hstart hlow
    have hto : t < min x.2 high := lt_min hstop hhigh
    exact ⟨_, List.mem_filter.mpr ⟨List.mem_map_of_mem hx, decide_eq_true (hfrom.trans_lt hto)⟩,
      hfrom, hto⟩

/-- **What intervals leave of a bound is the bound without the parts inside it.** -/
theorem card_uncovered {low high : Int} (h : low ≤ high) (xs : List (Int × Int)) :
    ((Finset.Ico low high \ covered xs).card : Int) =
      high - low - (covered (clip low high xs)).card := by
  have hsame : Finset.Ico low high \ covered xs =
      Finset.Ico low high \ covered (clip low high xs) := by
    ext t
    simp only [Finset.mem_sdiff, Finset.mem_Ico, mem_covered_clip]
    tauto
  have hinside : covered (clip low high xs) ⊆ Finset.Ico low high := by
    intro t ht
    exact Finset.mem_Ico.mpr (mem_covered_clip.mp ht).2
  rw [hsame, Finset.card_sdiff_of_subset hinside, Nat.cast_sub (Finset.card_le_card hinside),
    Int.card_Ico, Int.toNat_of_nonneg (by omega)]

end PlantNexus.Data
