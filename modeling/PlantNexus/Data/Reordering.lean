import PlantNexus.Data.Checks
import PlantNexus.Data.Lists

/-! What a loop over a collection keeps when the collection is reordered.

The elements of two collections correspond under a relation, in some order. A sorted
collection shows the same as long as the key determines what is shown; a loop of checks
passes on both or on neither; what a loop gathers is the same up to order. -/
namespace PlantNexus.Data

variable {α β κ ε : Type}

/-- With distinct keys, sorting by the key leaves every lookup as it was. -/
theorem dictGet_sortByKey [LinearOrder κ] {key : α → κ} {xs : List α}
    (hnodup : (xs.map key).Nodup) (k : κ) :
    dictGet key (sortByKey key xs) k = dictGet key xs k := by
  have hsorted : ((sortByKey key xs).map key).Nodup :=
    ((sortByKey_perm key xs).map key).nodup_iff.mpr hnodup
  ext x
  rw [dictGet_eq_some_iff _ _ _ _ hsorted, dictGet_eq_some_iff _ _ _ _ hnodup, mem_sortByKey]

/-- Elements of one key that show the same make the shown sorted list independent of
their order. -/
theorem sortByKey_map_eq_of_perm [LinearOrder κ] {key : α → κ} {f : α → β} {xs ys : List α}
    (hkey : ∀ x ∈ xs, ∀ y ∈ xs, key x = key y → f x = f y) (h : xs.Perm ys) :
    (sortByKey key xs).map f = (sortByKey key ys).map f := by
  -- with its key beside what it shows, the list is sorted by what it holds
  have hpairs : (sortByKey key xs).map (fun x => (key x, f x)) =
      (sortByKey key ys).map (fun x => (key x, f x)) := by
    have hsorted : ∀ zs : List α, ((sortByKey key zs).map fun x => (key x, f x)).Pairwise
        fun p q => p.1 ≤ q.1 := by
      intro zs
      rw [List.pairwise_map]
      exact sortByKey_pairwise key zs
    refine List.Perm.eq_of_pairwise ?_ (hsorted xs) (hsorted ys)
      ((((sortByKey_perm key xs).trans h).trans (sortByKey_perm key ys).symm).map _)
    intro p q hp hq hpq hqp
    obtain ⟨x, hx, rfl⟩ := List.mem_map.mp hp
    obtain ⟨y, hy, rfl⟩ := List.mem_map.mp hq
    rw [mem_sortByKey] at hx hy
    have heq : key x = key y := le_antisymm hpq hqp
    exact Prod.ext heq (hkey x hx y (h.mem_iff.mpr hy) heq)
  have hsecond := congrArg (List.map Prod.snd) hpairs
  rw [List.map_map, List.map_map] at hsecond
  exact hsecond

namespace PermUpTo
variable {R : α → α → Prop} {xs ys : List α}

theorem of_perm (h : xs.Perm ys) : PermUpTo Eq xs ys :=
  ⟨xs, List.forall₂_same.mpr fun _ _ => rfl, h⟩

theorem exists_right (h : PermUpTo R xs ys) {x : α} (hx : x ∈ xs) : ∃ y ∈ ys, R x y := by
  obtain ⟨zs, hzs, hperm⟩ := h
  obtain ⟨y, hy, hr⟩ := forall₂_exists_right hzs hx
  exact ⟨y, hperm.mem_iff.mp hy, hr⟩

theorem exists_left (h : PermUpTo R xs ys) {y : α} (hy : y ∈ ys) : ∃ x ∈ xs, R x y := by
  obtain ⟨zs, hzs, hperm⟩ := h
  exact forall₂_exists_left hzs (hperm.mem_iff.mpr hy)

theorem flatMap (h : PermUpTo R xs ys) {f g : α → List β}
    (hf : ∀ x ∈ xs, ∀ y ∈ ys, R x y → (f x).Perm (g y)) :
    (xs.flatMap f).Perm (ys.flatMap g) := by
  obtain ⟨zs, hzs, hperm⟩ := h
  refine List.Perm.trans ?_ (hperm.flatMap_right g)
  have hmem : ∀ z ∈ zs, z ∈ ys := fun z hz => hperm.mem_iff.mp hz
  clear hperm
  induction hzs with
  | nil => exact .nil
  | cons hr _ ih =>
    rw [List.flatMap_cons, List.flatMap_cons]
    refine List.Perm.append (hf _ (List.mem_cons_self ..) _ (hmem _ (List.mem_cons_self ..)) hr) ?_
    exact ih (fun a ha b hb => hf a (List.mem_cons_of_mem _ ha) b hb)
      fun z hz => hmem z (List.mem_cons_of_mem _ hz)

/-- A loop of checks passes on the reordered elements. -/
theorem forEach (h : PermUpTo R xs ys) {f g : Nat → α → Except ε Unit}
    (hf : ∀ x ∈ xs, ∀ y ∈ ys, R x y → ∀ i j, f i x = .ok () → g j y = .ok ())
    (hok : Data.forEach f xs = .ok ()) : Data.forEach g ys = .ok () := by
  have hpass : ∀ x ∈ xs, ∃ i, f i x = .ok () := forEach_ok_mem hok fun i x hx => ⟨i, hx⟩
  have hall : ∀ y ∈ ys, ∀ j, g j y = .ok () := by
    intro y hy j
    obtain ⟨x, hx, hr⟩ := h.exists_left hy
    obtain ⟨i, hi⟩ := hpass x hx
    exact hf x hx y hy hr i j hi
  rw [forEach_eq_ok_iff (fun _ => True) g ys fun y hy j => iff_of_true (hall y hy j) trivial]
  intro _ _
  trivial

/-- What a loop that may fail gathers is the same up to order. -/
theorem collect_flatten (h : PermUpTo R xs ys) {f g : α → Except ε (List β)}
    (hf : ∀ x ∈ xs, ∀ y ∈ ys, R x y → ∀ out, f x = .ok out →
      ∃ out', g y = .ok out' ∧ out.Perm out')
    {outs : List (List β)} (hok : collect f xs = .ok outs) :
    ∃ outs', collect g ys = .ok outs' ∧ outs.flatten.Perm outs'.flatten := by
  obtain ⟨zs, hzs, hperm⟩ := h
  have hmem : ∀ z ∈ zs, z ∈ ys := fun z hz => hperm.mem_iff.mp hz
  have hinstep : ∃ outs', collect g zs = .ok outs' ∧ outs.flatten.Perm outs'.flatten := by
    clear hperm
    induction hzs generalizing outs with
    | nil =>
      injection hok with hok
      exact ⟨[], rfl, hok ▸ .nil⟩
    | cons hr _ ih =>
      rw [collect, bind_eq_ok] at hok
      obtain ⟨out, hout, hnext⟩ := hok
      obtain ⟨rest, hrest, heq⟩ := bind_eq_ok.mp hnext
      injection heq with heq
      subst heq
      obtain ⟨out', hout', hperm⟩ :=
        hf _ (List.mem_cons_self ..) _ (hmem _ (List.mem_cons_self ..)) hr out hout
      obtain ⟨rest', hrest', hperms⟩ := ih
        (fun a ha b hb => hf a (List.mem_cons_of_mem _ ha) b hb) hrest
        fun z hz => hmem z (List.mem_cons_of_mem _ hz)
      refine ⟨out' :: rest', bind_eq_ok.mpr ⟨out', hout', bind_eq_ok.mpr ⟨rest', hrest', rfl⟩⟩, ?_⟩
      rw [List.flatten_cons, List.flatten_cons]
      exact hperm.append hperms
  obtain ⟨outs', hcollect, hsame⟩ := hinstep
  obtain ⟨outs'', hcollect', hperm'⟩ := collect_perm hcollect hperm
  exact ⟨outs'', hcollect', hsame.trans hperm'.flatten⟩

/-- With distinct keys, a lookup gives an element that corresponds. -/
theorem dictGet [DecidableEq κ] {key : α → κ} (h : PermUpTo R xs ys)
    (hkey : ∀ x y, R x y → key x = key y) (hnodup : (xs.map key).Nodup) {k : κ} {x : α}
    (hx : dictGet key xs k = some x) : ∃ y, Data.dictGet key ys k = some y ∧ R x y := by
  obtain ⟨hmem, hk⟩ := (dictGet_eq_some_iff key xs k x hnodup).mp hx
  obtain ⟨y, hy, hr⟩ := h.exists_right hmem
  have hnodup' : (ys.map key).Nodup := (h.map hkey).nodup_iff.mp hnodup
  exact ⟨y, (dictGet_eq_some_iff key ys k y hnodup').mpr ⟨hy, by rw [← hkey x y hr, hk]⟩, hr⟩

theorem dictGet_map [DecidableEq κ] {key : α → κ} {f : α → β} (h : PermUpTo R xs ys)
    (hkey : ∀ x y, R x y → key x = key y) (hf : ∀ x y, R x y → f x = f y)
    (hnodup : (xs.map key).Nodup) (k : κ) :
    (Data.dictGet key xs k).map f = (Data.dictGet key ys k).map f := by
  cases hx : Data.dictGet key xs k with
  | some x =>
    obtain ⟨y, hy, hr⟩ := h.dictGet hkey hnodup hx
    rw [hy, Option.map_some, Option.map_some, hf x y hr]
  | none =>
    have hnone : Data.dictGet key ys k = none := by
      rw [dictGet_eq_none_iff] at hx ⊢
      rwa [← (h.map hkey).mem_iff]
    rw [hnone]

end PermUpTo
end PlantNexus.Data
