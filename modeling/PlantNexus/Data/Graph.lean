import Mathlib.Logic.Relation

/-! Acyclic relations, and relations made of disjoint copies of others. -/
namespace PlantNexus.Data

variable {α β ι : Type*}

/-- No element reaches itself. -/
def Acyclic (R : α → α → Prop) : Prop := ∀ a, ¬Relation.TransGen R a a

/-- An element at an end of an edge. -/
def Touches (R : α → α → Prop) (a : α) : Prop := (∃ b, R a b) ∨ ∃ b, R b a

theorem touches_of_transGen {R : α → α → Prop} {a b : α} (h : Relation.TransGen R a b) :
    Touches R a ∧ Touches R b := by
  obtain ⟨next, hfirst, -⟩ := Relation.TransGen.head'_iff.mp h
  obtain ⟨last, -, hlast⟩ := Relation.TransGen.tail'_iff.mp h
  exact ⟨.inl ⟨next, hfirst⟩, .inr ⟨last, hlast⟩⟩

/-- `S` is made of one copy of each `R i`, and no two copies share an element. -/
structure DisjointCopies (R : ι → α → α → Prop) (f : ι → α → β) (S : β → β → Prop) : Prop where
  edge : ∀ x y, S x y ↔ ∃ i a b, R i a b ∧ x = f i a ∧ y = f i b
  disjoint : ∀ {i j a b}, Touches (R i) a → Touches (R j) b → f i a = f j b → i = j ∧ a = b

namespace DisjointCopies
variable {R : ι → α → α → Prop} {f : ι → α → β} {S : β → β → Prop} (h : DisjointCopies R f S)
include h

theorem transGen_copy {i : ι} {a b : α} (hab : Relation.TransGen (R i) a b) :
    Relation.TransGen S (f i a) (f i b) :=
  hab.lift (f i) fun _ _ hedge => (h.edge _ _).mpr ⟨i, _, _, hedge, rfl, rfl⟩

/-- A walk of the union stays in the copy that it starts in. -/
theorem copy_of_transGen {x y : β} (hxy : Relation.TransGen S x y) :
    ∃ i a b, x = f i a ∧ y = f i b ∧ Relation.TransGen (R i) a b := by
  induction hxy with
  | single hedge =>
    obtain ⟨i, a, b, hcopy, rfl, rfl⟩ := (h.edge _ _).mp hedge
    exact ⟨i, a, b, rfl, rfl, .single hcopy⟩
  | tail _ hedge ih =>
    obtain ⟨i, a, b, rfl, hy, hwalk⟩ := ih
    obtain ⟨j, b', c, hcopy, hy', rfl⟩ := (h.edge _ _).mp hedge
    obtain ⟨rfl, rfl⟩ := h.disjoint (.inl ⟨c, hcopy⟩) (touches_of_transGen hwalk).2
      (hy'.symm.trans hy)
    exact ⟨_, a, c, rfl, rfl, hwalk.tail hcopy⟩

/-- **A disjoint union of copies is acyclic exactly when each of them is.** -/
theorem acyclic_iff : Acyclic S ↔ ∀ i, Acyclic (R i) := by
  constructor
  · intro hacyclic i a hcycle
    exact hacyclic _ (h.transGen_copy hcycle)
  · intro hacyclic x hcycle
    obtain ⟨i, a, b, hx, hy, hwalk⟩ := h.copy_of_transGen hcycle
    obtain ⟨hfirst, hlast⟩ := touches_of_transGen hwalk
    obtain ⟨-, rfl⟩ := h.disjoint hfirst hlast (hx.symm.trans hy)
    exact hacyclic i a hwalk

end DisjointCopies

end PlantNexus.Data
