import Mathlib.Data.List.Basic
import Mathlib.Data.List.Forall2
import Mathlib.Data.List.Perm.Basic

/-! Fail-closed checks.

A validator is a sequence of checks in `Except ε Unit`; the first that fails decides
the error. The lemmas here say when a sequence passes, in terms of what each check
passes on, so that callers never unfold a loop. -/
namespace PlantNexus.Data

variable {ε α β : Type}

/-- Raise `e` unless the condition holds. -/
def require (c : Prop) [Decidable c] (e : ε) : Except ε Unit :=
  if c then .ok () else .error e

@[simp]
theorem require_eq_ok (c : Prop) [Decidable c] (e : ε) (u : Unit) :
    require c e = .ok u ↔ c := by
  unfold require
  split <;> simp_all

theorem require_eq_error (c : Prop) [Decidable c] (e e' : ε) :
    require c e = .error e' ↔ ¬c ∧ e = e' := by
  unfold require
  split <;> simp_all

/-- Run a check on every element, handing it the element's position. -/
def forEachFrom (f : Nat → α → Except ε Unit) : Nat → List α → Except ε Unit
  | _, [] => .ok ()
  | i, x :: xs => do
    f i x
    forEachFrom f (i + 1) xs

def forEach (f : Nat → α → Except ε Unit) (xs : List α) : Except ε Unit :=
  forEachFrom f 0 xs

/-- Compute a value for every element, failing with the first failure. -/
def collect (f : α → Except ε β) : List α → Except ε (List β)
  | [] => .ok []
  | x :: xs => do
    let y ← f x
    let ys ← collect f xs
    return y :: ys

theorem bind_eq_ok {x : Except ε α} {f : α → Except ε β} {b : β} :
    (x >>= f) = .ok b ↔ ∃ a, x = .ok a ∧ f a = .ok b := by
  cases x with
  | error e => simp [bind, Except.bind]
  | ok a => simp [bind, Except.bind]

theorem bind_eq_error {x : Except ε α} {f : α → Except ε β} {e : ε} :
    (x >>= f) = .error e ↔ x = .error e ∨ ∃ a, x = .ok a ∧ f a = .error e := by
  cases x with
  | error e' => simp [bind, Except.bind]
  | ok a => simp [bind, Except.bind]

theorem exists_unit_iff {p : Unit → Prop} : (∃ u, p u) ↔ p () :=
  ⟨fun ⟨(), h⟩ => h, fun h => ⟨(), h⟩⟩

theorem bind_unit_eq_ok {x : Except ε Unit} {f : Unit → Except ε β} {b : β} :
    (x >>= f) = .ok b ↔ x = .ok () ∧ f () = .ok b := by
  rw [bind_eq_ok, exists_unit_iff]

theorem mapError_eq_ok {ε' : Type} (f : ε → ε') (x : Except ε α) (a : α) :
    x.mapError f = .ok a ↔ x = .ok a := by
  cases x <;> simp [Except.mapError]

theorem forEachFrom_eq_ok_iff (P : α → Prop) (f : Nat → α → Except ε Unit) (start : Nat)
    (xs : List α) (h : ∀ x ∈ xs, ∀ i, f i x = .ok () ↔ P x) :
    forEachFrom f start xs = .ok () ↔ ∀ x ∈ xs, P x := by
  induction xs generalizing start with
  | nil => simp [forEachFrom]
  | cons x xs ih =>
    rw [forEachFrom, bind_unit_eq_ok, h x (List.mem_cons_self ..),
      ih (start + 1) fun y hy => h y (List.mem_cons_of_mem x hy)]
    simp

/-- A loop of checks passes exactly when every element passes, as long as the position
only enters the error. -/
theorem forEach_eq_ok_iff (P : α → Prop) (f : Nat → α → Except ε Unit) (xs : List α)
    (h : ∀ x ∈ xs, ∀ i, f i x = .ok () ↔ P x) : forEach f xs = .ok () ↔ ∀ x ∈ xs, P x :=
  forEachFrom_eq_ok_iff P f 0 xs h

/-- What a check that passes is known to give, of every element of a loop that passes. -/
theorem forEach_ok_mem {f : Nat → α → Except ε Unit} {P : α → Prop}
    {xs : List α} (h : forEach f xs = .ok ()) (hf : ∀ i x, f i x = .ok () → P x) :
    ∀ x ∈ xs, P x := by
  suffices ∀ start, forEachFrom f start xs = .ok () → ∀ x ∈ xs, P x from this 0 h
  clear h
  induction xs with
  | nil => simp
  | cons y ys ih =>
    intro start h x hx
    rw [forEachFrom, bind_unit_eq_ok] at h
    rcases List.mem_cons.mp hx with rfl | hx
    · exact hf start x h.1
    · exact ih (start + 1) h.2 x hx

theorem collect_eq_ok_iff (f : α → Except ε β) (xs : List α) (ys : List β) :
    collect f xs = .ok ys ↔ List.Forall₂ (fun x y => f x = .ok y) xs ys := by
  induction xs generalizing ys with
  | nil =>
    rw [collect, List.forall₂_nil_left_iff]
    constructor
    · intro h
      injection h with h
      exact h.symm
    · rintro rfl
      rfl
  | cons x xs ih =>
    rw [collect, bind_eq_ok]
    constructor
    · intro hall
      obtain ⟨y, hy, hrest⟩ := hall
      obtain ⟨ys', hys', hout⟩ := bind_eq_ok.mp hrest
      injection hout with hout
      subst hout
      exact .cons hy ((ih ys').mp hys')
    · intro h
      cases h with
      | cons hy hys => exact ⟨_, hy, bind_eq_ok.mpr ⟨_, (ih _).mpr hys, rfl⟩⟩

/-- A function that may fail gives a permutation of its results on a permutation of its inputs. -/
theorem collect_perm {f : α → Except ε β} {xs xs' : List α} {ys : List β}
    (h : collect f xs = .ok ys) (hperm : xs.Perm xs') :
    ∃ ys', collect f xs' = .ok ys' ∧ ys.Perm ys' := by
  rw [collect_eq_ok_iff] at h
  obtain ⟨ys', hall, hperm'⟩ := List.perm_comp_forall₂ hperm.symm h
  exact ⟨ys', (collect_eq_ok_iff f xs' ys').mpr hall, hperm'.symm⟩

/-- Every element has a value when each has one. -/
theorem collect_isOk (f : α → Except ε β) (xs : List α) :
    (∃ ys, collect f xs = .ok ys) ↔ ∀ x ∈ xs, ∃ y, f x = .ok y := by
  induction xs with
  | nil => simp [collect]
  | cons x xs ih =>
    constructor
    · intro hall
      obtain ⟨ys, h⟩ := hall
      obtain ⟨y, hy, hrest⟩ := bind_eq_ok.mp h
      obtain ⟨ys', hys, -⟩ := bind_eq_ok.mp hrest
      intro z hz
      rcases List.mem_cons.mp hz with rfl | hz
      · exact ⟨y, hy⟩
      · exact ih.mp ⟨ys', hys⟩ z hz
    · intro h
      obtain ⟨y, hy⟩ := h x (List.mem_cons_self ..)
      obtain ⟨ys, hys⟩ := ih.mpr fun z hz => h z (List.mem_cons_of_mem x hz)
      exact ⟨y :: ys, bind_eq_ok.mpr ⟨y, hy, bind_eq_ok.mpr ⟨ys, hys, rfl⟩⟩⟩

theorem mem_collect {f : α → Except ε β} {xs : List α} {ys : List β}
    (h : collect f xs = .ok ys) (y : β) : y ∈ ys ↔ ∃ x ∈ xs, f x = .ok y := by
  have h2 := (collect_eq_ok_iff f xs ys).mp h
  clear h
  induction h2 with
  | nil => simp
  | cons hx _ ih =>
    simp only [List.mem_cons, exists_eq_or_imp, ih, hx, Except.ok.injEq]
    exact or_congr_left eq_comm

/-- A loop keeps what each of its steps keeps. -/
theorem foldlM_invariant {σ : Type} {f : σ → α → Except ε σ} (P : σ → Prop) {xs : List α}
    (hstep : ∀ s, ∀ x ∈ xs, ∀ s', P s → f s x = .ok s' → P s') {init final : σ}
    (h : xs.foldlM f init = .ok final) (hinit : P init) : P final := by
  induction xs generalizing init with
  | nil =>
    injection h with h
    exact h ▸ hinit
  | cons x xs ih =>
    rw [List.foldlM_cons, bind_eq_ok] at h
    obtain ⟨s, hs, hrest⟩ := h
    exact ih (fun s y hy => hstep s y (List.mem_cons_of_mem x hy)) hrest
      (hstep init x (List.mem_cons_self ..) s hinit hs)

/-- A loop whose steps each append what belongs to their element. -/
theorem foldlM_append_ok {β : Type} {f : List β → α → Except ε (List β)} (g : α → List β)
    {xs : List α} (hstep : ∀ x ∈ xs, ∀ s s', f s x = .ok s' → s' = s ++ g x) {s s' : List β}
    (h : xs.foldlM f s = .ok s') : s' = s ++ xs.flatMap g := by
  induction xs generalizing s with
  | nil =>
    cases h
    exact (List.append_nil _).symm
  | cons x rest ih =>
    rw [List.foldlM_cons, bind_eq_ok] at h
    obtain ⟨middle, hfirst, hrest⟩ := h
    rw [ih (fun y hy => hstep y (List.mem_cons_of_mem _ hy)) hrest,
      hstep x (List.mem_cons_self ..) _ _ hfirst, List.flatMap_cons, List.append_assoc]

/-- Every step of a loop that ends has been taken. -/
theorem foldlM_ok_mem {σ : Type} {f : σ → α → Except ε σ} {xs : List α} {s s' : σ}
    (h : xs.foldlM f s = .ok s') : ∀ x ∈ xs, ∃ t t', f t x = .ok t' := by
  induction xs generalizing s with
  | nil =>
    intro x hx
    cases hx
  | cons first rest ih =>
    rw [List.foldlM_cons, bind_eq_ok] at h
    obtain ⟨middle, hfirst, hrest⟩ := h
    intro x hx
    rcases List.mem_cons.mp hx with rfl | hx
    · exact ⟨s, middle, hfirst⟩
    · exact ih hrest x hx

/-- A loop fails at the first element whose step fails. -/
theorem foldlM_eq_error {σ : Type} {f : σ → α → Except ε σ} {xs : List α} {s : σ} {e : ε} :
    xs.foldlM f s = .error e ↔ ∃ before x after s', xs = before ++ x :: after ∧
      before.foldlM f s = .ok s' ∧ f s' x = .error e := by
  constructor
  · intro h
    induction xs generalizing s with
    | nil => cases h
    | cons x rest ih =>
      rw [List.foldlM_cons, bind_eq_error] at h
      rcases h with hfirst | ⟨middle, hfirst, hrest⟩
      · exact ⟨[], x, rest, s, rfl, rfl, hfirst⟩
      · obtain ⟨before, y, after, s', rfl, hbefore, hy⟩ := ih hrest
        refine ⟨x :: before, y, after, s', rfl, ?_, hy⟩
        rw [List.foldlM_cons, bind_eq_ok]
        exact ⟨middle, hfirst, hbefore⟩
  · rintro ⟨before, x, after, s', rfl, hbefore, hx⟩
    rw [List.foldlM_append, bind_eq_error]
    refine .inr ⟨s', hbefore, ?_⟩
    rw [List.foldlM_cons, bind_eq_error]
    exact .inl hx

/-- A module's own error, or one of the interpreter's exceptions that it does not catch. -/
inductive Raised (ε : Type) where
  | rejected (error : ε)
  | overflowError
  | typeError
  | keyError
  | valueError
deriving DecidableEq, Repr

/-- Another module's failure, reported as this one's. -/
def orReject (e : ε → β) : Except ε α → Except (Raised β) α
  | .ok a => .ok a
  | .error inner => .error (.rejected (e inner))

@[simp]
theorem orReject_eq_ok (e : ε → β) (x : Except ε α) (a : α) :
    orReject e x = .ok a ↔ x = .ok a := by
  cases x <;> simp [orReject]

/-- A value that may not be representable. -/
def orOverflow : Option α → Except (Raised ε) α
  | some a => .ok a
  | none => .error .overflowError

@[simp]
theorem orOverflow_eq_ok (x : Option α) (a : α) :
    (orOverflow x : Except (Raised ε) α) = .ok a ↔ x = some a := by
  cases x <;> simp [orOverflow]

/-! ### Loops that also refuse a repeated key -/

section Distinct
variable {κ : Type} [DecidableEq κ]

/-- Run `before` on every element, refuse a key seen earlier, then run `after`. -/
def forEachDistinct (key : α → κ) (before after : Nat → α → Except ε Unit)
    (repeated : Nat → α → ε) : Nat → List κ → List α → Except ε Unit
  | _, _, [] => .ok ()
  | i, seen, x :: xs => do
    before i x
    require (key x ∉ seen) (repeated i x)
    after i x
    forEachDistinct key before after repeated (i + 1) (key x :: seen) xs

/-- The loop passes on distinct new keys when every element passes both checks. -/
theorem forEachDistinct_eq_ok_iff (P Q : α → Prop) (key : α → κ)
    (before after : Nat → α → Except ε Unit) (repeated : Nat → α → ε)
    (hbefore : ∀ i x, before i x = .ok () ↔ P x) (hafter : ∀ i x, after i x = .ok () ↔ Q x)
    (start : Nat) (seen : List κ) (xs : List α) :
    forEachDistinct key before after repeated start seen xs = .ok () ↔
      (xs.map key).Nodup ∧ ∀ x ∈ xs, key x ∉ seen ∧ P x ∧ Q x := by
  induction xs generalizing start seen with
  | nil => simp [forEachDistinct]
  | cons x xs ih =>
    rw [List.forall_mem_cons]
    simp only [forEachDistinct, bind_unit_eq_ok, hbefore, require_eq_ok, hafter, ih,
      List.map_cons, List.nodup_cons, List.mem_cons, not_or]
    constructor
    · intro hall
      obtain ⟨hp, hseen, hq, hnodup, hrest⟩ := hall
      refine ⟨⟨?_, hnodup⟩, ⟨hseen, hp, hq⟩, fun y hy => ⟨(hrest y hy).1.2, (hrest y hy).2⟩⟩
      intro hmem
      obtain ⟨y, hy, heq⟩ := List.mem_map.mp hmem
      exact (hrest y hy).1.1 heq
    · intro hall
      obtain ⟨⟨hnot, hnodup⟩, ⟨hseen, hp, hq⟩, hrest⟩ := hall
      refine ⟨hp, hseen, hq, hnodup, fun y hy => ⟨⟨?_, (hrest y hy).1⟩, (hrest y hy).2⟩⟩
      intro heq
      exact hnot (heq ▸ List.mem_map_of_mem hy)

/-- What a loop that passes says of its elements. -/
theorem forEachDistinct_ok {key : α → κ} {before after : Nat → α → Except ε Unit}
    {repeated : Nat → α → ε} {start : Nat} {seen : List κ} {xs : List α}
    (h : forEachDistinct key before after repeated start seen xs = .ok ()) :
    (xs.map key).Nodup ∧
      ∀ x ∈ xs, key x ∉ seen ∧ (∃ i, before i x = .ok ()) ∧ ∃ i, after i x = .ok () := by
  induction xs generalizing start seen with
  | nil => simp
  | cons x xs ih =>
    simp only [forEachDistinct, bind_unit_eq_ok, require_eq_ok] at h
    obtain ⟨hbefore, hseen, hafter, hrest⟩ := h
    obtain ⟨hnodup, hall⟩ := ih hrest
    refine ⟨?_, ?_⟩
    · rw [List.map_cons, List.nodup_cons]
      refine ⟨?_, hnodup⟩
      intro hmem
      obtain ⟨y, hy, heq⟩ := List.mem_map.mp hmem
      exact (hall y hy).1 (heq ▸ List.mem_cons_self ..)
    · intro y hy
      rcases List.mem_cons.mp hy with rfl | hy
      · exact ⟨hseen, ⟨start, hbefore⟩, start, hafter⟩
      · exact ⟨fun hmem => (hall y hy).1 (List.mem_cons_of_mem _ hmem), (hall y hy).2⟩

end Distinct

end PlantNexus.Data
