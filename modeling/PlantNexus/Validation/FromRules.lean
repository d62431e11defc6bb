import PlantNexus.Validation.ProblemSchedule

/-! Every violation the validator reports is built from its rule.

The severity, the expected rule and the message of a violation are those of its constraint,
so its identifiers and its evidence are all that tells it from another of the same
constraint. -/
namespace PlantNexus.Validation
open Data Time Domain Problem

/-- The violation has the severity, the rule and the message of its constraint. -/
structure Violation.FromRule (v : Violation) : Prop where
  severity : v.severity = "HARD"
  expectedRule : v.expectedRule = v.constraintId.ruleMetadata.1
  message : v.message = v.constraintId.ruleMetadata.2

def FromRules (vs : List Violation) : Prop := ∀ v ∈ vs, v.FromRule

theorem fromRules_nil : FromRules [] := by
  intro v hv
  cases hv

theorem fromRules_append {xs ys : List Violation} (hx : FromRules xs) (hy : FromRules ys) :
    FromRules (xs ++ ys) := by
  intro v hv
  cases List.mem_append.mp hv with
  | inl hv => exact hx v hv
  | inr hv => exact hy v hv

theorem fromRules_flatMap {α : Type} {f : α → List Violation} {xs : List α}
    (hf : ∀ x, FromRules (f x)) : FromRules (xs.flatMap f) := by
  intro v hv
  obtain ⟨x, -, hx⟩ := List.mem_flatMap.mp hv
  exact hf x v hx

theorem fromRules_singleton (k : ConstraintId) (ids : List String) (observed : Json) :
    FromRules [violation k ids observed] := by
  intro v hv
  rw [List.mem_singleton] at hv
  subst hv
  exact ⟨rfl, rfl, rfl⟩

theorem fromRules_if (c : Prop) [Decidable c] (k : ConstraintId) (ids : List String)
    (observed : Json) : FromRules (if c then [violation k ids observed] else []) := by
  split
  · exact fromRules_singleton k ids observed
  · exact fromRules_nil

theorem fromRules_unless (c : Prop) [Decidable c] (k : ConstraintId) (ids : List String)
    (observed : Json) : FromRules (if c then [] else [violation k ids observed]) := by
  split
  · exact fromRules_nil
  · exact fromRules_singleton k ids observed

/-! ### Evaluators that may raise -/

/-- An evaluator that returns returns violations built from their rules. -/
def Gives (result : Except ValidatorError (List Violation)) : Prop :=
  ∀ vs, result = .ok vs → FromRules vs

theorem gives_pure {vs : List Violation} (h : FromRules vs) : Gives (.ok vs) := by
  intro vs' hok
  injection hok with hok
  exact hok ▸ h

theorem gives_error (e : ValidatorError) : Gives (.error e) := by
  intro vs hok
  cases hok

theorem gives_bind {α : Type} {x : Except ValidatorError α}
    {f : α → Except ValidatorError (List Violation)} (hf : ∀ a, Gives (f a)) :
    Gives (x >>= f) := by
  intro vs hok
  obtain ⟨a, -, ha⟩ := bind_eq_ok.mp hok
  exact hf a vs ha

theorem fromRules_collect {α : Type} {f : α → Except ValidatorError (List Violation)}
    {xs : List α} {found : List (List Violation)} (hok : collect f xs = .ok found)
    (hf : ∀ x, Gives (f x)) : FromRules found.flatten := by
  intro v hv
  obtain ⟨out, hout, hmem⟩ := List.mem_flatten.mp hv
  obtain ⟨x, -, hx⟩ := (mem_collect hok out).mp hout
  exact hf x out hx v hmem

theorem gives_gathered {α : Type} {f : α → Except ValidatorError (List Violation)}
    {xs : List α} (hf : ∀ x, Gives (f x)) :
    Gives (do
      let found ← collect f xs
      return found.flatten) := by
  intro vs hok
  obtain ⟨found, hfound, hout⟩ := bind_eq_ok.mp hok
  injection hout with hout
  exact hout ▸ fromRules_collect hfound hf

/-! ### The evaluators -/

theorem fromRules_materialization (problem : PlanningProblem) (candidate : Json) :
    FromRules (materializeAssignments problem candidate).2 := by
  have hreference : FromRules (referenceViolations problem candidate) := by
    unfold referenceViolations
    exact fromRules_unless _ _ _ _
  unfold materializeAssignments
  split
  · rename_i raws _
    refine fromRules_append hreference ?_
    intro v hv
    obtain ⟨entry, hentry, hmem⟩ := List.mem_flatMap.mp hv
    obtain ⟨i, hi, rfl⟩ := List.mem_mapIdx.mp hentry
    unfold materializeEntry at hmem
    split at hmem
    · split at hmem
      · exact fromRules_singleton _ _ _ v hmem
      · exact fromRules_append (fromRules_if _ _ _ _) (fromRules_if _ _ _ _) v hmem
    · exact fromRules_singleton _ _ _ v hmem
  · exact fromRules_append hreference (fromRules_singleton _ _ _)

theorem fromRules_overlaps (resourceId : String) (placed : List Placed) :
    FromRules (overlaps resourceId placed) := by
  induction placed with
  | nil => exact fromRules_nil
  | cons first rest ih =>
    refine fromRules_append ?_ ih
    intro v hv
    obtain ⟨second, -, rfl⟩ := List.mem_map.mp hv
    exact ⟨rfl, rfl, rfl⟩

section
variable (problem : PlanningProblem) (horizonStart horizonEnd : Datetime)
  (assignments : List Assignment)

theorem fromRules_evaluateC001 : FromRules (evaluateC001 problem assignments) := by
  refine fromRules_append (fromRules_flatMap fun id => fromRules_if _ _ _ _) ?_
  intro v hv
  obtain ⟨id, -, rfl⟩ := List.mem_map.mp hv
  exact ⟨rfl, rfl, rfl⟩

theorem fromRules_onEdge (endpoints : List Endpoint) (edge : PrecedenceEdge)
    (check : Endpoint → Endpoint → List Violation) (hcheck : ∀ p s, FromRules (check p s)) :
    FromRules (onEdge endpoints edge check) := by
  unfold onEdge
  split
  · exact hcheck _ _
  · exact fromRules_nil

theorem fromRules_evaluateC002 (endpoints : List Endpoint) :
    FromRules (evaluateC002 problem endpoints) :=
  fromRules_flatMap fun edge =>
    fromRules_onEdge endpoints edge _ fun _ _ => fromRules_if _ _ _ _

theorem fromRules_evaluateC003 : FromRules (evaluateC003 problem assignments) :=
  fromRules_flatMap fun _ => fromRules_if _ _ _ _

theorem fromRules_evaluateC004 : FromRules (evaluateC004 problem assignments) :=
  fromRules_flatMap fun resourceId => fromRules_overlaps resourceId _

theorem fromRules_evaluateC009 (endpoints : List Endpoint) :
    FromRules (evaluateC009 problem endpoints) := by
  refine fromRules_flatMap fun edge => fromRules_onEdge endpoints edge _ fun p s => ?_
  unfold transportViolations
  split
  · exact fromRules_if _ _ _ _
  · exact fromRules_nil

theorem gives_evaluateC005 : Gives (evaluateC005 problem horizonStart assignments) := by
  refine gives_gathered fun a => ?_
  unfold calendarViolations
  split
  · refine gives_bind fun _ => gives_bind fun _ => gives_gathered fun interval => ?_
    unfold calendarViolation
    split
    · exact gives_pure fromRules_nil
    · exact gives_bind fun _ => gives_bind fun _ => gives_pure (fromRules_if _ _ _ _)
  · exact gives_pure fromRules_nil

theorem gives_evaluateC006 : Gives (evaluateC006 problem horizonStart assignments) := by
  refine gives_gathered fun operation => ?_
  unfold gateViolations
  split
  · exact gives_pure fromRules_nil
  · exact gives_bind fun _ => gives_bind fun _ => gives_bind fun _ =>
      gives_pure (fromRules_if _ _ _ _)

theorem gives_evaluateC007 : Gives (evaluateC007 problem horizonStart assignments) := by
  intro vs hok
  obtain ⟨found, hfound, hout⟩ := bind_eq_ok.mp hok
  injection hout with hout
  rw [← hout]
  refine fromRules_append (fromRules_flatMap fun anchor => fromRules_if _ _ _ _)
    (fromRules_collect hfound fun operation => ?_)
  unfold runningViolations
  split
  · dsimp only
    split
    · exact gives_bind fun _ => gives_bind fun _ => gives_pure (fromRules_unless _ _ _ _)
    · exact gives_pure (fromRules_singleton _ _ _)
  · exact gives_error _
  · exact gives_pure fromRules_nil

theorem gives_evaluateC008 : Gives (evaluateC008 problem horizonStart assignments) := by
  refine gives_gathered fun lock => ?_
  unfold hardLockViolations
  split
  · exact gives_pure fromRules_nil
  · exact gives_bind fun _ => gives_bind fun _ => gives_bind fun _ =>
      gives_pure (fromRules_unless _ _ _ _)

theorem gives_evaluateC010 : Gives (evaluateC010 problem assignments) := by
  refine gives_gathered fun operation => ?_
  unfold durationViolations
  split
  · exact gives_pure fromRules_nil
  · split
    · split
      · exact gives_pure fromRules_nil
      · split
        · exact gives_error _
        · dsimp only
          split
          · exact gives_pure fromRules_nil
          · exact gives_pure (fromRules_singleton _ _ _)
    · exact gives_pure fromRules_nil

theorem gives_evaluateC011 :
    Gives (evaluateC011 problem horizonStart horizonEnd assignments) := by
  refine gives_gathered fun a => ?_
  unfold horizonViolations
  split
  · exact gives_bind fun _ => gives_bind fun _ => gives_pure (fromRules_unless _ _ _ _)
  · exact gives_pure fromRules_nil

theorem gives_evaluate (candidate : Json) : Gives (evaluate problem candidate) := by
  intro vs hok
  simp only [evaluate, bind_eq_ok] at hok
  obtain ⟨start, -, stop, -, endpoints, -, calendar, hcalendar, gates, hgates, facts, hfacts,
    locks, hlocks, durations, hdurations, horizon, hhorizon, hvs⟩ := hok
  injection hvs with hvs
  rw [← hvs]
  refine fromRules_append (fromRules_append (fromRules_append (fromRules_append (fromRules_append
    (fromRules_append (fromRules_append (fromRules_append (fromRules_append (fromRules_append
      (fromRules_append (fromRules_materialization problem candidate) ?_) ?_) ?_) ?_) ?_) ?_) ?_)
        ?_) ?_) ?_) ?_
  · exact fromRules_evaluateC001 problem _
  · exact fromRules_evaluateC002 problem endpoints
  · exact fromRules_evaluateC003 problem _
  · exact fromRules_evaluateC004 problem _
  · exact gives_evaluateC005 problem start _ calendar hcalendar
  · exact gives_evaluateC006 problem start _ gates hgates
  · exact gives_evaluateC007 problem start _ facts hfacts
  · exact gives_evaluateC008 problem start _ locks hlocks
  · exact fromRules_evaluateC009 problem endpoints
  · exact gives_evaluateC010 problem _ durations hdurations
  · exact gives_evaluateC011 problem start stop _ horizon hhorizon

end

end PlantNexus.Validation
