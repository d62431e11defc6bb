import PlantNexus.Data.Checks

/-! What the failures of a computation have in common.

`FailsWith P x` says that `x` fails, if at all, with an error that satisfies `P`. The rules follow
the shape of the program, so that the errors of a sequence of checks are those of its checks. -/
namespace PlantNexus.Data

variable {ε δ α β : Type}

def FailsWith (P : ε → Prop) (x : Except ε α) : Prop := ∀ e, x = .error e → P e

namespace FailsWith
variable {P : ε → Prop}

theorem ok (a : α) : FailsWith P (.ok a : Except ε α) := by
  intro e h
  cases h

theorem error {e : ε} (h : P e) : FailsWith P (.error e : Except ε α) := by
  intro e' heq
  cases heq
  exact h

theorem require {c : Prop} [Decidable c] {e : ε} (h : P e) : FailsWith P (require c e) := by
  intro e' heq
  obtain ⟨-, rfl⟩ := (require_eq_error c e e').mp heq
  exact h

theorem bind {x : Except ε α} {f : α → Except ε β} (hx : FailsWith P x)
    (hf : ∀ a, x = .ok a → FailsWith P (f a)) : FailsWith P (x >>= f) := by
  intro e heq
  rcases bind_eq_error.mp heq with hfirst | ⟨a, ha, hrest⟩
  · exact hx e hfirst
  · exact hf a ha e hrest

theorem mapError {f : δ → ε} {x : Except δ α} (h : ∀ e, P (f e)) :
    FailsWith P (x.mapError f) := by
  intro e heq
  cases x with
  | error e' =>
    cases heq
    exact h e'
  | ok a => cases heq

theorem map {f : α → β} {x : Except ε α} (hx : FailsWith P x) : FailsWith P (f <$> x) := by
  intro e heq
  cases x with
  | error found =>
    cases heq
    exact hx e rfl
  | ok a => cases heq

/-- A loop fails as its steps do. -/
theorem foldlM {f : β → α → Except ε β} {xs : List α} {init : β}
    (h : ∀ b, ∀ x ∈ xs, FailsWith P (f b x)) : FailsWith P (xs.foldlM f init) := by
  induction xs generalizing init with
  | nil => exact .ok init
  | cons x xs ih =>
    rw [List.foldlM_cons]
    refine .bind (h init x (List.mem_cons_self ..)) fun b _ => ih fun b y hy => ?_
    exact h b y (List.mem_cons_of_mem x hy)

theorem forEachFrom {f : Nat → α → Except ε Unit} {xs : List α} {start : Nat}
    (h : ∀ i, ∀ x ∈ xs, FailsWith P (f i x)) : FailsWith P (forEachFrom f start xs) := by
  induction xs generalizing start with
  | nil => exact .ok ()
  | cons x xs ih =>
    refine .bind (h start x (List.mem_cons_self ..)) fun _ _ => ih fun i y hy => ?_
    exact h i y (List.mem_cons_of_mem x hy)

theorem forEach {f : Nat → α → Except ε Unit} {xs : List α}
    (h : ∀ i, ∀ x ∈ xs, FailsWith P (f i x)) : FailsWith P (forEach f xs) :=
  forEachFrom h

theorem collect {f : α → Except ε β} {xs : List α} (h : ∀ x ∈ xs, FailsWith P (f x)) :
    FailsWith P (collect f xs) := by
  induction xs with
  | nil => exact .ok []
  | cons x xs ih =>
    refine .bind (h x (List.mem_cons_self ..)) fun y _ => .bind (ih fun z hz => ?_) fun _ _ => .ok _
    exact h z (List.mem_cons_of_mem x hz)

end FailsWith
end PlantNexus.Data
