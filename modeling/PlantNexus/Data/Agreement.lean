import PlantNexus.Data.Checks

/-! Two fail-closed computations that return the same values.

`Agree x y` says that `x` and `y` succeed together and with one result, whatever their
errors are. It passes through sequencing and through the loops of `Checks`, so two
implementations of one computation are compared step by step. -/
namespace PlantNexus.Data

variable {ε ε' α β σ : Type}

structure Agree (x : Except ε α) (y : Except ε' α) : Prop where
  iff : ∀ a, x = .ok a ↔ y = .ok a

namespace Agree

theorem ok (a : α) : Agree (.ok a : Except ε α) (.ok a : Except ε' α) := by
  constructor
  intro b
  rw [Except.ok.injEq, Except.ok.injEq]

theorem error (e : ε) (e' : ε') : Agree (.error e : Except ε α) (.error e' : Except ε' α) := by
  constructor
  intro b
  constructor <;> intro h <;> cases h

theorem bind {x : Except ε α} {y : Except ε' α} {f : α → Except ε β} {g : α → Except ε' β}
    (h : Agree x y) (hfg : ∀ a, x = .ok a → Agree (f a) (g a)) :
    Agree (x >>= f) (y >>= g) := by
  constructor
  intro b
  rw [bind_eq_ok, bind_eq_ok]
  constructor
  · intro hall
    obtain ⟨a, ha, hb⟩ := hall
    exact ⟨a, (h.iff a).mp ha, ((hfg a ha).iff b).mp hb⟩
  · intro hall
    obtain ⟨a, ha, hb⟩ := hall
    have hx := (h.iff a).mpr ha
    exact ⟨a, hx, ((hfg a hx).iff b).mpr hb⟩

theorem require (c : Prop) [Decidable c] (e : ε) (e' : ε') :
    Agree (Data.require c e) (Data.require c e') := by
  constructor
  intro u
  rw [require_eq_ok, require_eq_ok]

theorem orReject {γ γ' : Type} (e : ε → γ) (e' : ε → γ') (x : Except ε α) :
    Agree (Data.orReject e x) (Data.orReject e' x) := by
  constructor
  intro a
  rw [orReject_eq_ok, orReject_eq_ok]

theorem orOverflow (x : Option α) :
    Agree (Data.orOverflow x : Except (Raised ε) α) (Data.orOverflow x : Except (Raised ε') α) := by
  constructor
  intro a
  rw [orOverflow_eq_ok, orOverflow_eq_ok]

theorem forEach {f : Nat → α → Except ε Unit} {g : Nat → α → Except ε' Unit} {xs : List α}
    (h : ∀ i, ∀ x ∈ xs, Agree (f i x) (g i x)) : Agree (forEach f xs) (forEach g xs) := by
  suffices ∀ start, Agree (forEachFrom f start xs) (forEachFrom g start xs) from this 0
  induction xs with
  | nil => exact fun _ => ok ()
  | cons x xs ih =>
    intro start
    exact bind (h start x (List.mem_cons_self ..)) fun _ _ =>
      ih (fun i y hy => h i y (List.mem_cons_of_mem x hy)) (start + 1)

theorem collect {f : α → Except ε β} {g : α → Except ε' β} {xs : List α}
    (h : ∀ x ∈ xs, Agree (f x) (g x)) : Agree (collect f xs) (collect g xs) := by
  induction xs with
  | nil => exact ok []
  | cons x xs ih =>
    refine bind (h x (List.mem_cons_self ..)) fun y _ => ?_
    exact bind (ih fun z hz => h z (List.mem_cons_of_mem x hz)) fun ys _ => ok (y :: ys)

theorem foldlM {f : σ → α → Except ε σ} {g : σ → α → Except ε' σ} {xs : List α}
    (h : ∀ s, ∀ x ∈ xs, Agree (f s x) (g s x)) (init : σ) :
    Agree (xs.foldlM f init) (xs.foldlM g init) := by
  induction xs generalizing init with
  | nil => exact ok init
  | cons x xs ih =>
    simp only [List.foldlM_cons]
    exact bind (h init x (List.mem_cons_self ..)) fun s _ =>
      ih (fun s y hy => h s y (List.mem_cons_of_mem x hy)) s

end Agree

end PlantNexus.Data
