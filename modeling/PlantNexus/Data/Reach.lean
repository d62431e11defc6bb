/-! Reachability in a labelled transition system.

`Reach step allowed start` holds of the states that a run from `start` reaches when each of its
steps is allowed in the state it leaves. An unrestricted run has the trivial condition. -/
namespace PlantNexus.Data

variable {State Label : Type}

inductive Reach (step : State → Label → State → Prop) (allowed : State → Label → Prop)
    (start : State) : State → Prop
  | refl : Reach step allowed start start
  | next {s s' : State} {label : Label} : Reach step allowed start s → allowed s label →
      step s label s' → Reach step allowed start s'

variable {step : State → Label → State → Prop} {allowed : State → Label → Prop}
  {start s s' : State}

/-- A property that every allowed step keeps holds along a whole run. -/
theorem Reach.invariant (Inv : State → Prop)
    (hstep : ∀ {s s' : State} {label : Label}, Inv s → allowed s label → step s label s' → Inv s')
    (hstart : Inv start) (h : Reach step allowed start s) : Inv s := by
  induction h with
  | refl => exact hstart
  | next _ hallowed hnext ih => exact hstep ih hallowed hnext

theorem Reach.trans (h : Reach step allowed start s) (h' : Reach step allowed s s') :
    Reach step allowed start s' := by
  induction h' with
  | refl => exact h
  | next _ hallowed hnext ih => exact .next ih hallowed hnext

end PlantNexus.Data
