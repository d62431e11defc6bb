import PlantNexus.Data.Lists
import Mathlib.Data.List.Pairwise

/-! Sorting by several keys with one stable pass for each.

The passes run from the last term to the first, each ascending or descending, over a list that is
already in the order of ties. The outcome is in the lexicographic order of the terms
(`sortTerms_pairwise`). Two strict orders that sort one list agree on its elements
(`pairwise_iff_of_pairwise`). -/
namespace PlantNexus.Data

variable {α κ : Type*}

/-! ### One stable pass -/

section Insertion
variable {r tie : α → α → Prop} [DecidableRel r]

/-- The relation of a stable pass: in order, and where the order says nothing, as before. -/
def Stable (r tie : α → α → Prop) (a b : α) : Prop := r a b ∧ (r b a → tie a b)

theorem orderedInsert_stable (htotal : ∀ a b, r a b ∨ r b a)
    (htrans : ∀ a b c, r a b → r b c → r a c) {x : α} {xs : List α}
    (hxs : xs.Pairwise (Stable r tie)) (hx : ∀ y ∈ xs, tie x y) :
    (xs.orderedInsert r x).Pairwise (Stable r tie) := by
  induction xs with
  | nil => exact List.pairwise_singleton _ _
  | cons y ys ih =>
    obtain ⟨hy, hys⟩ := List.pairwise_cons.mp hxs
    rw [List.orderedInsert_cons]
    split_ifs with hle
    · refine List.pairwise_cons.mpr ⟨?_, hxs⟩
      intro z hz
      refine ⟨?_, fun _ => hx z hz⟩
      rcases List.mem_cons.mp hz with rfl | hz
      · exact hle
      · exact htrans x y z hle (hy z hz).1
    · refine List.pairwise_cons.mpr ⟨?_, ih hys fun z hz => hx z (List.mem_cons_of_mem y hz)⟩
      intro z hz
      rcases List.mem_orderedInsert r |>.mp hz with rfl | hz
      · exact ⟨(htotal y z).resolve_right hle, fun hback => absurd hback hle⟩
      · exact hy z hz

theorem insertionSort_stable (htotal : ∀ a b, r a b ∨ r b a)
    (htrans : ∀ a b c, r a b → r b c → r a c) {xs : List α} (hxs : xs.Pairwise tie) :
    (xs.insertionSort r).Pairwise (Stable r tie) := by
  induction xs with
  | nil => exact List.Pairwise.nil
  | cons x xs ih =>
    obtain ⟨hx, hxs⟩ := List.pairwise_cons.mp hxs
    rw [List.insertionSort_cons]
    refine orderedInsert_stable htotal htrans (ih hxs) ?_
    intro y hy
    exact hx y ((List.mem_insertionSort r).mp hy)

end Insertion

/-! ### Terms -/

/-- A key to sort by and its direction. -/
structure SortTerm (α κ : Type*) where
  key : α → κ
  descending : Bool

section Terms
variable [LinearOrder κ]

/-- The order that `list.sort(key=..., reverse=...)` keeps; a reversed pass is stable too. -/
def SortTerm.le (term : SortTerm α κ) (a b : α) : Prop :=
  (term.descending = true → term.key b ≤ term.key a) ∧
    (term.descending = false → term.key a ≤ term.key b)

instance (term : SortTerm α κ) : DecidableRel term.le :=
  fun a b => inferInstanceAs (Decidable
    ((term.descending = true → term.key b ≤ term.key a) ∧
      (term.descending = false → term.key a ≤ term.key b)))

/-- Strictly earlier in the direction of the term. -/
def SortTerm.Precedes (term : SortTerm α κ) (a b : α) : Prop :=
  (term.descending = true → term.key b < term.key a) ∧
    (term.descending = false → term.key a < term.key b)

def SortTerm.pass (term : SortTerm α κ) (xs : List α) : List α := xs.insertionSort term.le

theorem SortTerm.total (term : SortTerm α κ) (a b : α) : term.le a b ∨ term.le b a := by
  obtain ⟨key, descending⟩ := term
  cases descending with
  | true => simpa [SortTerm.le] using le_total (key b) (key a)
  | false => simpa [SortTerm.le] using le_total (key a) (key b)

theorem SortTerm.trans (term : SortTerm α κ) (a b c : α) (hab : term.le a b)
    (hbc : term.le b c) : term.le a c :=
  ⟨fun h => (hbc.1 h).trans (hab.1 h), fun h => (hab.2 h).trans (hbc.2 h)⟩

/-- A stable pass orders by the term first and by the earlier order after it. -/
theorem SortTerm.stable_iff (term : SortTerm α κ) (tie : α → α → Prop) (a b : α) :
    Stable term.le tie a b ↔ term.Precedes a b ∨ term.key a = term.key b ∧ tie a b := by
  obtain ⟨key, descending⟩ := term
  cases descending with
  | true =>
    simp only [Stable, SortTerm.le, SortTerm.Precedes, forall_const, Bool.true_eq_false,
      IsEmpty.forall_iff, and_true]
    rcases lt_trichotomy (key a) (key b) with hlt | heq | hgt
    · simp [hlt.not_ge, hlt.not_gt, hlt.ne]
    · simp [heq]
    · simp [hgt, hgt.le, hgt.not_ge]
  | false =>
    simp only [Stable, SortTerm.le, SortTerm.Precedes, forall_const, Bool.false_eq_true,
      IsEmpty.forall_iff, true_and]
    rcases lt_trichotomy (key a) (key b) with hlt | heq | hgt
    · simp [hlt, hlt.le, hlt.not_ge]
    · simp [heq]
    · simp [hgt.not_ge, hgt.not_gt, hgt.ne']

/-- The first term that tells two elements apart decides, and `tie` decides the rest. -/
def LexBefore (tie : α → α → Prop) : List (SortTerm α κ) → α → α → Prop
  | [], a, b => tie a b
  | term :: terms, a, b =>
    term.Precedes a b ∨ term.key a = term.key b ∧ LexBefore tie terms a b

/-- One stable pass for each term, from the last to the first. -/
def sortTerms (terms : List (SortTerm α κ)) (xs : List α) : List α :=
  terms.foldr (fun term values => term.pass values) xs

theorem sortTerms_perm (terms : List (SortTerm α κ)) (xs : List α) :
    (sortTerms terms xs).Perm xs := by
  induction terms with
  | nil => exact List.Perm.refl xs
  | cons term terms ih => exact (List.perm_insertionSort _ _).trans ih

/-- **Stable passes sort lexicographically.** -/
theorem sortTerms_pairwise {tie : α → α → Prop} (terms : List (SortTerm α κ)) {xs : List α}
    (hxs : xs.Pairwise tie) : (sortTerms terms xs).Pairwise (LexBefore tie terms) := by
  induction terms with
  | nil => exact hxs
  | cons term terms ih =>
    refine (insertionSort_stable term.total term.trans ih).imp ?_
    intro a b hstable
    exact (term.stable_iff _ a b).mp hstable

theorem lexBefore_asymm {tie : α → α → Prop} (htie : ∀ a b, tie a b → ¬tie b a)
    (terms : List (SortTerm α κ)) (a b : α) (hab : LexBefore tie terms a b) :
    ¬LexBefore tie terms b a := by
  induction terms with
  | nil => exact htie a b hab
  | cons term terms ih =>
    have hneither : ∀ x y, term.Precedes x y → ¬term.Precedes y x ∧ term.key x ≠ term.key y := by
      intro x y hxy
      cases hdirection : term.descending with
      | true =>
        exact ⟨fun hyx => (hxy.1 hdirection).asymm (hyx.1 hdirection), (hxy.1 hdirection).ne'⟩
      | false =>
        exact ⟨fun hyx => (hxy.2 hdirection).asymm (hyx.2 hdirection), (hxy.2 hdirection).ne⟩
    rintro (hba | ⟨hkey, hba⟩)
    · obtain hab | ⟨hkey, -⟩ := hab
      · exact (hneither a b hab).1 hba
      · exact (hneither b a hba).2 hkey.symm
    · obtain hab | ⟨-, hab⟩ := hab
      · exact (hneither a b hab).2 hkey.symm
      · exact ih hab hba

end Terms

/-- A list that one strict order sorts is sorted by another exactly if the two agree on it. -/
theorem pairwise_iff_of_pairwise {p q : α → α → Prop} (hasymm : ∀ a b, p a b → ¬p b a)
    {xs : List α} (hxs : xs.Pairwise p) :
    xs.Pairwise q ↔ ∀ a ∈ xs, ∀ b ∈ xs, p a b → q a b := by
  refine ⟨?_, fun h => hxs.imp_of_mem fun ha hb hab => h _ ha _ hb hab⟩
  intro hq
  have hagree : xs.Pairwise fun x y => p x y → q x y := by
    refine hq.imp ?_
    intro x y hxy _
    exact hxy
  have hflip : xs.Pairwise (flip fun x y => p x y → q x y) := by
    refine hxs.imp ?_
    intro x y hxy hback
    exact absurd hback (hasymm x y hxy)
  have hself : ∀ x ∈ xs, p x x → q x x := fun x _ hxx => absurd hxx (hasymm x x hxx)
  intro a ha b hb
  exact hagree.forall_of_forall_of_flip hself hflip ha hb

end PlantNexus.Data
