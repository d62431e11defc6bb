import Mathlib.Data.String.Basic
import Mathlib.Data.List.Sort
import Mathlib.Data.List.Nodup
import Mathlib.Data.List.Dedup
import Mathlib.Data.List.TakeWhile
import Mathlib.Data.List.Perm.Basic
import Mathlib.Data.Prod.Lex

/-! Lists used as the records and dictionaries of a document.

`sortByKey` is the stable `list.sort(key=...)`. `dictGet` is the lookup in a
dictionary built by a comprehension over a list, where a later entry of the same key
replaces an earlier one; with distinct keys it is membership
(`dictGet_eq_some_iff`). -/
namespace PlantNexus.Data

variable {α β κ : Type*}

section Sorting
variable [LinearOrder κ]

/-- Stable sorting by a key. -/
def sortByKey (key : α → κ) (xs : List α) : List α :=
  xs.insertionSort fun a b => key a ≤ key b

theorem sortByKey_perm (key : α → κ) (xs : List α) : (sortByKey key xs).Perm xs :=
  List.perm_insertionSort _ xs

@[simp]
theorem mem_sortByKey (key : α → κ) (xs : List α) (x : α) : x ∈ sortByKey key xs ↔ x ∈ xs :=
  List.mem_insertionSort _

@[simp]
theorem length_sortByKey (key : α → κ) (xs : List α) :
    (sortByKey key xs).length = xs.length :=
  List.length_insertionSort _ xs

theorem sortByKey_pairwise (key : α → κ) (xs : List α) :
    (sortByKey key xs).Pairwise fun a b => key a ≤ key b := by
  have : Std.Total (fun a b : α => key a ≤ key b) := ⟨fun a b => le_total (key a) (key b)⟩
  have : IsTrans α fun a b : α => key a ≤ key b := ⟨fun _ _ _ hab hbc => le_trans hab hbc⟩
  exact List.pairwise_insertionSort _ xs

theorem sortByKey_map (f : α → β) (key : β → κ) (xs : List α) :
    sortByKey key (xs.map f) = (sortByKey (fun x => key (f x)) xs).map f :=
  (List.map_insertionSort (fun a b => key (f a) ≤ key (f b)) (fun a b => key a ≤ key b) f xs
    fun _ _ _ _ => Iff.rfl).symm

/-- A key that tells the elements apart makes the sorted list independent of their order. -/
theorem sortByKey_eq_of_perm {key : α → κ} {xs ys : List α}
    (hkey : ∀ x ∈ xs, ∀ y ∈ xs, key x = key y → x = y) (h : xs.Perm ys) :
    sortByKey key xs = sortByKey key ys := by
  refine List.Perm.eq_of_pairwise ?_ (sortByKey_pairwise key xs) (sortByKey_pairwise key ys)
    (((sortByKey_perm key xs).trans h).trans (sortByKey_perm key ys).symm)
  intro a b ha hb hab hba
  rw [mem_sortByKey] at ha hb
  exact hkey a ha b (h.mem_iff.mpr hb) (le_antisymm hab hba)

theorem perm_of_sortByKey_eq {key : α → κ} {xs ys : List α}
    (h : sortByKey key xs = sortByKey key ys) : xs.Perm ys :=
  (sortByKey_perm key xs).symm.trans (h ▸ sortByKey_perm key ys)

theorem sortByKey_eq_self {key : α → κ} {xs : List α}
    (h : xs.Pairwise fun a b => key a ≤ key b) : sortByKey key xs = xs :=
  h.insertionSort_eq

theorem sortByKey_sortByKey (key : α → κ) (xs : List α) :
    sortByKey key (sortByKey key xs) = sortByKey key xs :=
  sortByKey_eq_self (sortByKey_pairwise key xs)

end Sorting

section Dict
variable [DecidableEq κ]

/-- The entry of a key in a dictionary built from a list: the last one wins. -/
def dictGet (key : α → κ) (xs : List α) (k : κ) : Option α :=
  xs.reverse.find? fun x => key x = k

theorem mem_of_dictGet {key : α → κ} {xs : List α} {k : κ} {x : α}
    (h : dictGet key xs k = some x) : x ∈ xs ∧ key x = k := by
  have hmem := List.mem_of_find?_eq_some h
  have hkey := List.find?_some h
  exact ⟨List.mem_reverse.mp hmem, by simpa using hkey⟩

theorem dictGet_eq_some_iff (key : α → κ) (xs : List α) (k : κ) (x : α)
    (hnodup : (xs.map key).Nodup) : dictGet key xs k = some x ↔ x ∈ xs ∧ key x = k := by
  constructor
  · exact mem_of_dictGet
  · intro hall
    obtain ⟨hx, rfl⟩ := hall
    cases hfind : dictGet key xs (key x) with
    | none =>
      have := List.find?_eq_none.mp hfind x (List.mem_reverse.mpr hx)
      simp at this
    | some y =>
      have hy := List.mem_reverse.mp (List.mem_of_find?_eq_some hfind)
      have hkey : key y = key x := by simpa using List.find?_some hfind
      rw [List.inj_on_of_nodup_map hnodup hy hx hkey]

theorem dictGet_append (key : α → κ) (xs ys : List α) (k : κ) :
    dictGet key (xs ++ ys) k = (dictGet key ys k).or (dictGet key xs k) := by
  simp [dictGet]

/-- Without distinct keys, the entries of one key must agree. -/
theorem dictGet_eq_some_of_unique (key : α → κ) (xs : List α) (x : α)
    (hunique : ∀ y ∈ xs, key y = key x → y = x) : dictGet key xs (key x) = some x ↔ x ∈ xs := by
  constructor
  · intro h
    exact List.mem_reverse.mp (List.mem_of_find?_eq_some h)
  · intro hx
    cases hfind : dictGet key xs (key x) with
    | none =>
      have := List.find?_eq_none.mp hfind x (List.mem_reverse.mpr hx)
      simp at this
    | some y =>
      have hy := List.mem_reverse.mp (List.mem_of_find?_eq_some hfind)
      rw [hunique y hy (by simpa using List.find?_some hfind)]

theorem dictGet_eq_none_iff (key : α → κ) (xs : List α) (k : κ) :
    dictGet key xs k = none ↔ k ∉ xs.map key := by
  simp only [dictGet, List.find?_eq_none, List.mem_reverse, decide_eq_true_eq, List.mem_map,
    not_exists, not_and]

end Dict

/-- `UPDATE … WHERE key = k`, then a search by key. -/
theorem find?_key_update [DecidableEq κ] (key : α → κ) (xs : List α) (k id : κ) (a : α)
    (ha : key a = k) :
    (xs.map fun x => if key x = k then a else x).find? (fun x => key x = id) =
      if id = k then (xs.find? fun x => key x = k).map fun _ => a
      else xs.find? fun x => key x = id := by
  induction xs with
  | nil => simp
  | cons x rest ih =>
    rw [List.map_cons, List.find?_cons, List.find?_cons, List.find?_cons, ih]
    by_cases hid : id = k
    · subst hid
      by_cases hx : key x = id
      · simp [hx, ha]
      · simp [hx]
    · have hne : ¬k = id := fun h => hid h.symm
      by_cases hx : key x = k
      · simp [hx, ha, hne, hid]
      · simp [hx, hid]


/-- With distinct keys one element has a key. -/
theorem filter_key_eq_singleton [DecidableEq κ] (key : α → κ) (xs : List α)
    (hnodup : (xs.map key).Nodup) {x : α} (hx : x ∈ xs) :
    xs.filter (fun y => key y = key x) = [x] := by
  induction xs with
  | nil => cases hx
  | cons y rest ih =>
    rw [List.map_cons, List.nodup_cons] at hnodup
    cases List.mem_cons.mp hx with
    | inl heq =>
      subst heq
      have hnone : rest.filter (fun y => key y = key x) = [] := by
        rw [List.filter_eq_nil_iff]
        intro z hz heq
        exact hnodup.1 (of_decide_eq_true heq ▸ List.mem_map_of_mem hz)
      rw [List.filter_cons_of_pos (by simp), hnone]
    | inr hrest =>
      have hne : key y ≠ key x := fun heq => hnodup.1 (heq ▸ List.mem_map_of_mem hrest)
      rw [List.filter_cons_of_neg (by simpa using hne)]
      exact ih hnodup.2 hrest

/-! ### Lists in step -/

theorem forall₂_exists_left {R : α → β → Prop} {xs : List α} {ys : List β}
    (h : List.Forall₂ R xs ys) {y : β} (hy : y ∈ ys) : ∃ x ∈ xs, R x y := by
  induction h with
  | nil => cases hy
  | cons hxy _ ih =>
    cases List.mem_cons.mp hy with
    | inl heq => exact ⟨_, List.mem_cons_self .., heq ▸ hxy⟩
    | inr hrest =>
      obtain ⟨x, hx, hr⟩ := ih hrest
      exact ⟨x, List.mem_cons_of_mem _ hx, hr⟩

theorem forall₂_exists_right {R : α → β → Prop} {xs : List α} {ys : List β}
    (h : List.Forall₂ R xs ys) {x : α} (hx : x ∈ xs) : ∃ y ∈ ys, R x y := by
  obtain ⟨y, hy, hr⟩ := forall₂_exists_left h.flip hx
  exact ⟨y, hy, hr⟩

/-! ### Permutations up to a relation -/

/-- The elements correspond under `R`, in some order. -/
def PermUpTo (R : α → α → Prop) (xs ys : List α) : Prop :=
  ∃ zs, List.Forall₂ R xs zs ∧ zs.Perm ys

/-- Elements that `f` does not tell apart have the same images. -/
theorem PermUpTo.map {R : α → α → Prop} {f : α → β} {xs ys : List α}
    (hf : ∀ a b, R a b → f a = f b) (h : PermUpTo R xs ys) :
    (xs.map f).Perm (ys.map f) := by
  obtain ⟨zs, hzs, hperm⟩ := h
  have hmap : xs.map f = zs.map f := by
    clear hperm
    induction hzs with
    | nil => rfl
    | cons hr _ ih => rw [List.map_cons, List.map_cons, hf _ _ hr, ih]
  rw [hmap]
  exact hperm.map f

theorem permUpTo_of_map {f : α → β} {xs ys : List α} (h : (xs.map f).Perm (ys.map f)) :
    PermUpTo (fun a b => f a = f b) xs ys := by
  have himage : List.Forall₂ (fun c y => c = f y) (ys.map f) ys := by
    rw [List.forall₂_map_left_iff]
    exact List.forall₂_same.mpr fun _ _ => rfl
  obtain ⟨zs, hzs, hperm⟩ := List.perm_comp_forall₂ h himage
  exact ⟨zs, (List.forall₂_map_left_iff).mp hzs, hperm⟩

theorem PermUpTo.mono {R S : α → α → Prop} {xs ys : List α} (h : PermUpTo R xs ys)
    (hsub : ∀ a ∈ xs, ∀ b ∈ ys, R a b → S a b) : PermUpTo S xs ys := by
  obtain ⟨zs, hzs, hperm⟩ := h
  refine ⟨zs, ?_, hperm⟩
  have hmem : ∀ z ∈ zs, z ∈ ys := fun z hz => hperm.mem_iff.mp hz
  clear hperm
  induction hzs with
  | nil => exact .nil
  | cons hr _ ih =>
    refine .cons (hsub _ (List.mem_cons_self ..) _ (hmem _ (List.mem_cons_self ..)) hr) ?_
    exact ih (fun a ha b hb => hsub a (List.mem_cons_of_mem _ ha) b hb)
      fun z hz => hmem z (List.mem_cons_of_mem _ hz)

end PlantNexus.Data
