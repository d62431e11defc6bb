import PlantNexus.Data.Lists
import Mathlib.Order.Lattice
import Mathlib.Data.Int.Order.Basic

/-! Half-open blocks of integer ticks and their merging.

`mergeBlocks` sorts the blocks and joins those that overlap or touch. The merged blocks
cover exactly the ticks the given ones cover (`mem_mergeBlocks`), are not empty and are
pairwise separated (`mergeBlocks_separated`), so nothing is lost or counted twice when
they stand in for the original blocks. -/
namespace PlantNexus.Data

/-- The ticks `[start, stop)`. -/
abbrev Block := Int × Int

def Block.Covers (b : Block) (t : Int) : Prop := b.1 ≤ t ∧ t < b.2

/-- One block after those already merged, the latest of them first. -/
def mergeStep (merged : List Block) (b : Block) : List Block :=
  if b.1 ≥ b.2 then merged
  else match merged with
    | [] => [b]
    | top :: rest =>
      if b.1 > top.2 then b :: top :: rest else (top.1, max top.2 b.2) :: rest

/-- Sort the blocks and join those that overlap or touch. -/
def mergeBlocks (blocks : List Block) : List Block :=
  ((sortByKey toLex blocks).foldl mergeStep []).reverse

/-- Latest first: nonempty, separated by a gap, and no later block starts before the
latest one does. -/
structure Merging (merged : List Block) (floor : Int) : Prop where
  nonempty : ∀ b ∈ merged, b.1 < b.2
  separated : merged.Pairwise fun later earlier => earlier.2 < later.1
  starts : ∀ b ∈ merged, b.1 ≤ floor

theorem mergeStep_merging (merged : List Block) (b : Block) (floor : Int)
    (h : Merging merged floor) (hb : floor ≤ b.1) : Merging (mergeStep merged b) b.1 := by
  obtain ⟨hne, hsep, hstart⟩ := h
  unfold mergeStep
  split
  · exact ⟨hne, hsep, fun c hc => le_trans (hstart c hc) hb⟩
  · rename_i hlt
    cases merged with
    | nil => exact ⟨by simpa using hlt, List.pairwise_singleton _ _, by simp⟩
    | cons top rest =>
      have htop := hne top (List.mem_cons_self ..)
      have hts := hstart top (List.mem_cons_self ..)
      obtain ⟨hgap, hrest⟩ := List.pairwise_cons.mp hsep
      dsimp only
      split
      · rename_i hgt
        refine ⟨?_, ?_, ?_⟩
        · intro c hc
          rcases List.mem_cons.mp hc with rfl | hc
          · omega
          · exact hne c hc
        · refine List.pairwise_cons.mpr ⟨?_, hsep⟩
          intro c hc
          rcases List.mem_cons.mp hc with rfl | hc
          · exact hgt
          · have := hgap c hc
            omega
        · intro c hc
          rcases List.mem_cons.mp hc with rfl | hc
          · exact le_refl _
          · exact le_trans (hstart c hc) hb
      · refine ⟨?_, ?_, ?_⟩
        · intro c hc
          rcases List.mem_cons.mp hc with rfl | hc
          · exact lt_of_lt_of_le htop (le_max_left _ _)
          · exact hne c (List.mem_cons_of_mem _ hc)
        · exact List.pairwise_cons.mpr ⟨hgap, hrest⟩
        · intro c hc
          rcases List.mem_cons.mp hc with rfl | hc
          · exact le_trans hts hb
          · exact le_trans (hstart c (List.mem_cons_of_mem _ hc)) hb

theorem mergeStep_covers (merged : List Block) (b : Block) (floor t : Int)
    (h : Merging merged floor) (hb : floor ≤ b.1) :
    (∃ c ∈ mergeStep merged b, Block.Covers c t) ↔
      (∃ c ∈ merged, Block.Covers c t) ∨ Block.Covers b t := by
  unfold mergeStep
  split
  · rename_i hempty
    have : ¬Block.Covers b t := by
      unfold Block.Covers
      omega
    simp [this]
  · cases merged with
    | nil => simp
    | cons top rest =>
      have hts := h.starts top (List.mem_cons_self ..)
      have htop := h.nonempty top (List.mem_cons_self ..)
      dsimp only
      split
      · simp only [List.mem_cons, exists_eq_or_imp]
        exact or_comm
      · rename_i hlt hle
        -- the joined block covers what either covered, since the two touch
        have hjoin : Block.Covers (top.1, max top.2 b.2) t ↔
            Block.Covers top t ∨ Block.Covers b t := by
          unfold Block.Covers
          dsimp only
          rcases le_total top.2 b.2 with hm | hm
          · rw [max_eq_right hm]
            omega
          · rw [max_eq_left hm]
            omega
        simp only [List.mem_cons, exists_eq_or_imp, hjoin]
        exact or_right_comm

theorem foldl_mergeStep (blocks merged : List Block) (floor : Int)
    (hsorted : blocks.Pairwise fun a b => a.1 ≤ b.1) (hfloor : ∀ b ∈ blocks, floor ≤ b.1)
    (h : Merging merged floor) :
    (∃ floor', Merging (blocks.foldl mergeStep merged) floor') ∧
      ∀ t, (∃ c ∈ blocks.foldl mergeStep merged, Block.Covers c t) ↔
        (∃ c ∈ merged, Block.Covers c t) ∨ ∃ c ∈ blocks, Block.Covers c t := by
  induction blocks generalizing merged floor with
  | nil => exact ⟨⟨floor, h⟩, by simp⟩
  | cons b rest ih =>
    have hb := hfloor b (List.mem_cons_self ..)
    obtain ⟨hle, hrest⟩ := List.pairwise_cons.mp hsorted
    have hstep := mergeStep_merging merged b floor h hb
    obtain ⟨hm, hc⟩ := ih (mergeStep merged b) b.1 hrest (fun c hc => hle c hc) hstep
    refine ⟨hm, fun t => ?_⟩
    rw [List.foldl_cons, hc t, mergeStep_covers merged b floor t h hb]
    simp only [List.mem_cons, exists_eq_or_imp]
    exact or_assoc

theorem sortByKey_toLex_starts (blocks : List Block) :
    (sortByKey toLex blocks).Pairwise fun a b => a.1 ≤ b.1 := by
  refine (sortByKey_pairwise toLex blocks).imp ?_
  intro a b hab
  rcases Prod.Lex.toLex_le_toLex.mp hab with h | h
  · exact le_of_lt h
  · exact le_of_eq h.1

theorem mergeBlocks_merging (blocks : List Block) :
    (∃ floor, Merging ((sortByKey toLex blocks).foldl mergeStep []) floor) ∧
      ∀ t, (∃ c ∈ (sortByKey toLex blocks).foldl mergeStep [], Block.Covers c t) ↔
        ∃ c ∈ blocks, Block.Covers c t := by
  have hsorted := sortByKey_toLex_starts blocks
  cases hs : sortByKey toLex blocks with
  | nil =>
    have hnil : blocks = [] := by
      have := length_sortByKey toLex blocks
      rw [hs] at this
      exact List.length_eq_zero_iff.mp this.symm
    subst hnil
    exact ⟨⟨0, ⟨by simp, by simp, by simp⟩⟩, by simp⟩
  | cons b rest =>
    rw [hs] at hsorted
    have hfirst : ∀ c ∈ b :: rest, b.1 ≤ c.1 := by
      intro c hc
      rcases List.mem_cons.mp hc with rfl | hc
      · exact le_refl _
      · exact (List.pairwise_cons.mp hsorted).1 c hc
    obtain ⟨hm, hc⟩ := foldl_mergeStep (b :: rest) [] b.1 hsorted hfirst
      ⟨by simp, by simp, by simp⟩
    refine ⟨hm, fun t => ?_⟩
    rw [hc t]
    simp only [List.not_mem_nil, false_and, exists_false, false_or, ← hs, mem_sortByKey]

/-- **The merged blocks cover exactly the ticks the given blocks cover.** -/
theorem mem_mergeBlocks (blocks : List Block) (t : Int) :
    (∃ c ∈ mergeBlocks blocks, Block.Covers c t) ↔ ∃ c ∈ blocks, Block.Covers c t := by
  rw [← (mergeBlocks_merging blocks).2 t]
  simp [mergeBlocks]

theorem mergeBlocks_nonempty (blocks : List Block) : ∀ b ∈ mergeBlocks blocks, b.1 < b.2 := by
  obtain ⟨⟨_, h⟩, -⟩ := mergeBlocks_merging blocks
  intro b hb
  exact h.nonempty b (List.mem_reverse.mp hb)

/-- **The merged blocks are pairwise apart, each ending before the next starts.** -/
theorem mergeBlocks_separated (blocks : List Block) :
    (mergeBlocks blocks).Pairwise fun earlier later => earlier.2 < later.1 := by
  obtain ⟨⟨_, h⟩, -⟩ := mergeBlocks_merging blocks
  exact List.pairwise_reverse.mpr h.separated

/-- Merging stays within any bounds of the given blocks. -/
theorem mergeBlocks_within {blocks : List Block} {low high : Int}
    (h : ∀ c ∈ blocks, low ≤ c.1 ∧ c.2 ≤ high) :
    ∀ b ∈ mergeBlocks blocks, low ≤ b.1 ∧ b.2 ≤ high := by
  intro b hb
  have hne := mergeBlocks_nonempty blocks b hb
  -- the first and the last tick of a merged block are ticks of given ones
  obtain ⟨c, hc, hfirst, -⟩ := (mem_mergeBlocks blocks b.1).mp ⟨b, hb, le_refl _, hne⟩
  obtain ⟨d, hd, -, hlast⟩ :=
    (mem_mergeBlocks blocks (b.2 - 1)).mp ⟨b, hb, by omega, by omega⟩
  have hlow := (h c hc).1
  have hhigh := (h d hd).2
  omega

/-- A nonempty block misses every merged block exactly when it misses every given one. -/
theorem mergeBlocks_apart_iff (blocks : List Block) (s e : Int) (hse : s < e) :
    (∀ c ∈ mergeBlocks blocks, c.2 ≤ s ∨ e ≤ c.1) ↔
      ∀ c ∈ blocks, c.1 < c.2 → c.2 ≤ s ∨ e ≤ c.1 := by
  have overlap : ∀ c : Block, c.1 < c.2 →
      (¬(c.2 ≤ s ∨ e ≤ c.1) ↔ ∃ t, Block.Covers c t ∧ s ≤ t ∧ t < e) := by
    intro c hc
    unfold Block.Covers
    constructor
    · intro h
      exact ⟨max c.1 s, by omega⟩
    · intro hall
      obtain ⟨t, ht⟩ := hall
      omega
  constructor
  · intro h c hc hlt
    by_contra hover
    obtain ⟨t, hcov, hs, he⟩ := (overlap c hlt).mp hover
    obtain ⟨m, hm, hmcov⟩ := (mem_mergeBlocks blocks t).mpr ⟨c, hc, hcov⟩
    exact (overlap m (mergeBlocks_nonempty blocks m hm)).mpr ⟨t, hmcov, hs, he⟩ (h m hm)
  · intro h m hm
    by_contra hover
    obtain ⟨t, hcov, hs, he⟩ := (overlap m (mergeBlocks_nonempty blocks m hm)).mp hover
    obtain ⟨c, hc, hccov⟩ := (mem_mergeBlocks blocks t).mp ⟨m, hm, hcov⟩
    have hlt : c.1 < c.2 := lt_of_le_of_lt hccov.1 hccov.2
    exact (overlap c hlt).mpr ⟨t, hccov, hs, he⟩ (h c hc hlt)

end PlantNexus.Data
