import Mathlib.Data.List.Nodup
import Mathlib.Logic.Relation

/-! Strongly connected components by finishing order.

A depth-first search finishes a node once all that it leads to has been found. What this says of
the order in which the nodes finish is `FinishOrder`: whatever a node reaches has finished before
it, or some node of its component finishes after it. That is enough for the second pass of the
two-pass algorithm: when components are taken from the latest node on, what still leads to the
next node is the component of that node (`FinishOrder.leading_iff`). -/
namespace PlantNexus.Data
open Relation

variable {α : Type*}

section Components
variable (R : α → α → Prop)

/-- The nodes lie on a common closed walk. -/
def SameComponent (a b : α) : Prop := ReflTransGen R a b ∧ ReflTransGen R b a

/-- Whatever `node` reaches is `node` or among the earlier nodes, or a node of its component is
not. -/
def FinishesAfter (earlier : List α) (node : α) : Prop :=
  ∀ b, ReflTransGen R node b → b ∈ node :: earlier ∨
    ∃ g, g ∉ node :: earlier ∧ SameComponent R node g

/-- A finishing order of a depth-first search, the latest node first. -/
def FinishOrder : List α → Prop
  | [] => True
  | node :: earlier => FinishesAfter R earlier node ∧ FinishOrder earlier

end Components

variable {R : α → α → Prop} {a b c root : α} {latest earlier : List α}

namespace SameComponent

theorem refl (a : α) : SameComponent R a a := ⟨.refl, .refl⟩

theorem symm (h : SameComponent R a b) : SameComponent R b a := ⟨h.2, h.1⟩

theorem trans (h : SameComponent R a b) (h' : SameComponent R b c) : SameComponent R a c :=
  ⟨h.1.trans h'.1, h'.2.trans h.2⟩

end SameComponent

/-- A walk that leaves a set closed but for some nodes goes through one of these. -/
theorem exists_exit {inside exits : α → Prop}
    (hclosed : ∀ a b, inside a → R a b → inside b ∨ exits b) (ha : inside a)
    (h : ReflTransGen R a b) : inside b ∨ ∃ g, exits g ∧ ReflTransGen R a g := by
  induction h with
  | refl => exact .inl ha
  | @tail c d hwalk hedge ih =>
    rcases ih with hinside | hexit
    · rcases hclosed c d hinside hedge with hd | hd
      · exact .inl hd
      · exact .inr ⟨d, hd, hwalk.tail hedge⟩
    · exact .inr hexit

/-- A walk stays in a closed list. -/
theorem mem_of_walk {listed : List α} (hclosed : ∀ a b, a ∈ listed → R a b → b ∈ listed)
    (ha : a ∈ listed) (h : ReflTransGen R a b) : b ∈ listed := by
  induction h with
  | refl => exact ha
  | tail _ hedge ih => exact hclosed _ _ ih hedge

/-- A node of the order that is the latest one of its component. -/
theorem exists_latest (R : α → α → Prop) (h : a ∈ earlier) :
    ∃ before w after, earlier = before ++ w :: after ∧ SameComponent R a w ∧
      ∀ g ∈ before, ¬SameComponent R a g := by
  induction earlier with
  | nil => cases h
  | cons first rest ih =>
    by_cases hfirst : SameComponent R a first
    · exact ⟨[], first, rest, rfl, hfirst, fun g hg => absurd hg List.not_mem_nil⟩
    · have hrest : a ∈ rest := by
        rcases List.mem_cons.mp h with rfl | hrest
        · exact absurd (SameComponent.refl a) hfirst
        · exact hrest
      obtain ⟨before, w, after, rfl, hw, hbefore⟩ := ih hrest
      refine ⟨first :: before, w, after, rfl, hw, fun g hg => ?_⟩
      rcases List.mem_cons.mp hg with rfl | hg
      · exact hfirst
      · exact hbefore g hg

namespace FinishOrder

theorem of_append (h : FinishOrder R (latest ++ earlier)) : FinishOrder R earlier := by
  induction latest with
  | nil => exact h
  | cons first rest ih => exact ih h.2

/-- **A node that leads to a later one lies in its component**, unless a node of its own component
finishes still later. -/
theorem component_of_leads (h : FinishOrder R (root :: earlier)) (hroot : root ∉ earlier)
    (ha : a ∈ earlier) (hleads : ReflTransGen R a root) :
    SameComponent R a root ∨ ∃ g, g ∉ root :: earlier ∧ SameComponent R a g := by
  obtain ⟨before, w, after, rfl, hw, hbefore⟩ := exists_latest R ha
  have hfinish : FinishesAfter R after w := (of_append h.2).1
  have hout : root ∉ w :: after := fun hmem => hroot (List.mem_append_right _ hmem)
  obtain ⟨g, hg, hsame⟩ := (hfinish root (hw.2.trans hleads)).resolve_left hout
  have hag := hw.trans hsame
  by_cases hgroot : g = root
  · exact .inl (hgroot ▸ hag)
  · refine .inr ⟨g, fun hmem => ?_, hag⟩
    rcases List.mem_cons.mp hmem with rfl | hmem
    · exact hgroot rfl
    · rcases List.mem_append.mp hmem with hmem | hmem
      · exact hbefore g hmem hag
      · exact hg hmem

/-- **What still leads to the next node is its component**, where whole components have been
taken up to it. -/
theorem leading_iff (assigned : α → Prop) (h : FinishOrder R (latest ++ root :: earlier))
    (hnodup : (latest ++ root :: earlier).Nodup)
    (hclosed : ∀ a b, a ∈ latest ++ root :: earlier → R a b → b ∈ latest ++ root :: earlier)
    (hlatest : ∀ a ∈ latest, assigned a)
    (hwhole : ∀ a b, assigned a → SameComponent R a b → assigned b)
    (ha : a ∈ latest ++ root :: earlier) (hfree : ¬assigned a) :
    ReflTransGen R a root ↔ SameComponent R a root := by
  refine ⟨fun hleads => ?_, fun hsame => hsame.1⟩
  rcases List.mem_append.mp ha with hmem | hmem
  · exact absurd (hlatest a hmem) hfree
  rcases List.mem_cons.mp hmem with rfl | hmem
  · exact .refl a
  have hroot : root ∉ earlier := (List.nodup_cons.mp (List.nodup_append.mp hnodup).2.1).1
  rcases component_of_leads (of_append h) hroot hmem hleads with hsame | ⟨g, hg, hsame⟩
  · exact hsame
  · have hgmem : g ∈ latest ++ root :: earlier := mem_of_walk hclosed ha hsame.1
    have hglatest : g ∈ latest := (List.mem_append.mp hgmem).resolve_right hg
    exact absurd (hwhole g a (hlatest g hglatest) hsame.symm) hfree

end FinishOrder
end PlantNexus.Data
