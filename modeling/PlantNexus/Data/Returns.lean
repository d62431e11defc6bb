import Mathlib.Data.List.Basic

/-! What a computation with a state may return.

`Returns m P` says that a computation over a state which may stop early satisfies `P`
whenever it returns, from whatever state it started. The rules follow the shape of the
program: a bind establishes what its continuation needs, and a fold keeps an invariant. -/
namespace PlantNexus.Data

variable {σ ε α β : Type}

def Returns (m : StateT σ (Except ε) α) (P : α → Prop) : Prop :=
  ∀ s a s', m s = .ok (a, s') → P a

namespace Returns

theorem pure {P : α → Prop} {a : α} (h : P a) :
    Returns (Pure.pure a : StateT σ (Except ε) α) P := by
  intro s b s' heq
  injection heq with heq
  injection heq with heq _
  exact heq ▸ h

theorem mono {m : StateT σ (Except ε) α} {P Q : α → Prop} (h : Returns m P)
    (himp : ∀ a, P a → Q a) : Returns m Q :=
  fun s a s' heq => himp a (h s a s' heq)

theorem trivial (m : StateT σ (Except ε) α) : Returns m fun _ => True :=
  fun _ _ _ _ => True.intro

theorem bind {m : StateT σ (Except ε) α} {f : α → StateT σ (Except ε) β} {P : α → Prop}
    {Q : β → Prop} (h : Returns m P) (hf : ∀ a, P a → Returns (f a) Q) :
    Returns (m >>= f) Q := by
  intro s b s' heq
  cases hm : m s with
  | error e =>
    have herror : (m >>= f) s = .error e := by
      show (m s >>= fun x => f x.1 x.2) = _
      rw [hm]
      rfl
    rw [herror] at heq
    cases heq
  | ok x =>
    have hok : (m >>= f) s = f x.1 x.2 := by
      show (m s >>= fun x => f x.1 x.2) = _
      rw [hm]
      rfl
    rw [hok] at heq
    exact hf x.1 (h s x.1 x.2 hm) x.2 b s' heq

/-- A step whose value does not matter. -/
theorem seq {m : StateT σ (Except ε) α} {f : α → StateT σ (Except ε) β} {Q : β → Prop}
    (hf : ∀ a, Returns (f a) Q) : Returns (m >>= f) Q :=
  (trivial m).bind fun a _ => hf a

/-- A fold keeps what each round keeps. -/
theorem foldlM {f : β → α → StateT σ (Except ε) β} {P : β → Prop} {xs : List α} {init : β}
    (hinit : P init) (hstep : ∀ acc, P acc → ∀ x ∈ xs, Returns (f acc x) P) :
    Returns (xs.foldlM f init) P := by
  induction xs generalizing init with
  | nil => exact pure hinit
  | cons x xs ih =>
    rw [List.foldlM_cons]
    refine (hstep init hinit x (List.mem_cons_self ..)).bind fun acc hacc => ih hacc ?_
    exact fun acc' hacc' y hy => hstep acc' hacc' y (List.mem_cons_of_mem _ hy)

/-- A fold that, round by round, establishes something of each element. -/
theorem foldlM_each {f : β → α → StateT σ (Except ε) β} {P : β → Prop} {R : α → β → Prop}
    {xs : List α} {init : β} (hinit : P init)
    (hstep : ∀ acc, P acc → ∀ x ∈ xs, Returns (f acc x) fun acc' =>
      P acc' ∧ R x acc' ∧ ∀ y, R y acc → R y acc') :
    Returns (xs.foldlM f init) fun acc => P acc ∧ ∀ x ∈ xs, R x acc := by
  suffices ∀ done : α → Prop, (∀ y, done y → R y init) →
      Returns (xs.foldlM f init) fun acc => P acc ∧ (∀ y, done y → R y acc) ∧ ∀ x ∈ xs, R x acc from
    (this (fun _ => False) fun _ hy => hy.elim).mono fun acc hacc => ⟨hacc.1, hacc.2.2⟩
  induction xs generalizing init with
  | nil =>
    intro done hdone
    exact pure ⟨hinit, hdone, fun _ hx => absurd hx List.not_mem_nil⟩
  | cons x xs ih =>
    intro done hdone
    rw [List.foldlM_cons]
    refine (hstep init hinit x (List.mem_cons_self ..)).bind fun acc hacc => ?_
    obtain ⟨hP, hx, hkeep⟩ := hacc
    refine (ih hP (fun acc' hacc' y hy => hstep acc' hacc' y (List.mem_cons_of_mem _ hy))
      (fun y => done y ∨ y = x) ?_).mono fun final hfinal => ?_
    · intro y hy
      cases hy with
      | inl hold => exact hkeep y (hdone y hold)
      | inr heq => exact heq ▸ hx
    · obtain ⟨hPfinal, hold, hrest⟩ := hfinal
      refine ⟨hPfinal, fun y hy => hold y (.inl hy), fun y hy => ?_⟩
      cases List.mem_cons.mp hy with
      | inl heq => exact heq ▸ hold x (.inr rfl)
      | inr hy => exact hrest y hy

end Returns
end PlantNexus.Data
