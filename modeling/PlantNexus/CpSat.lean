import Mathlib.Data.List.Basic
import Mathlib.Algebra.Order.Group.Int
import Mathlib.Algebra.Order.Group.Abs
import Mathlib.Algebra.Order.Ring.Int

/-! The constraint language of a CP-SAT model and its documented meaning.

A model has integer variables with interval domains, Boolean variables, and a list of
constraints. A valuation satisfies it when every integer variable is in its domain and
every constraint holds: a linear relation enforced by literals, exactly one literal, an
optional interval (`start + size = end` when present), no two present intervals
overlapping, conjunctions and disjunctions of literals, and the equalities with a
maximum and with an absolute value. Nothing is said about how a solver finds a
valuation. -/
namespace PlantNexus.CpSat

variable {ι β : Type}

structure Valuation (ι β : Type) where
  int : ι → Int
  bool : β → Bool

/-- A linear expression; a Boolean variable counts as zero or one. -/
inductive Expr (ι β : Type) where
  | const (value : Int)
  | int (v : ι)
  | bool (b : β)
  | add (a b : Expr ι β)
  | sub (a b : Expr ι β)
  | scale (factor : Int) (a : Expr ι β)

/-- `sum(values, 0)`. -/
def Expr.sum : List (Expr ι β) → Expr ι β
  | [] => .const 0
  | e :: es => .add e (Expr.sum es)

inductive Relation where
  | le
  | ge
  | eq
  | ne

/-- A Boolean variable or its negation. -/
structure Literal (β : Type) where
  var : β
  positive : Bool

def pos (b : β) : Literal β := ⟨b, true⟩
def neg (b : β) : Literal β := ⟨b, false⟩

/-- An interval of fixed size, optional when it has a presence variable. -/
structure Interval (ι β : Type) where
  start : Expr ι β
  size : Int
  stop : Expr ι β
  presence : Option β

inductive Constraint (ι β : Type) where
  | linear (lhs : Expr ι β) (rel : Relation) (rhs : Expr ι β) (onlyIf : List (Literal β))
  | exactlyOne (literals : List β)
  | interval (i : Interval ι β)
  | noOverlap (intervals : List (Interval ι β))
  | boolAnd (literals : List (Literal β)) (onlyIf : List (Literal β))
  | boolOr (literals : List (Literal β)) (onlyIf : List (Literal β))
  | maxEquality (target : Expr ι β) (exprs : List (Expr ι β))
  | absEquality (target : Expr ι β) (expr : Expr ι β)

/-- A variable's domain `[lower, upper]`. -/
structure Domain (ι : Type) where
  var : ι
  lower : Int
  upper : Int

structure Model (ι β : Type) where
  domains : List (Domain ι)
  constraints : List (Constraint ι β)

def Model.empty : Model ι β := ⟨[], []⟩

/-- The model after further variables and constraints. -/
def Model.extend (m : Model ι β) (domains : List (Domain ι))
    (constraints : List (Constraint ι β)) : Model ι β :=
  ⟨m.domains ++ domains, m.constraints ++ constraints⟩

section Meaning
variable (ν : Valuation ι β)

def Expr.eval : Expr ι β → Int
  | .const value => value
  | .int v => ν.int v
  | .bool b => if ν.bool b then 1 else 0
  | .add a b => a.eval + b.eval
  | .sub a b => a.eval - b.eval
  | .scale factor a => factor * a.eval

def Literal.Holds (l : Literal β) : Prop := ν.bool l.var = l.positive

instance (l : Literal β) : Decidable (l.Holds ν) := by unfold Literal.Holds; infer_instance

def Relation.Holds : Relation → Int → Int → Prop
  | .le, a, b => a ≤ b
  | .ge, a, b => a ≥ b
  | .eq, a, b => a = b
  | .ne, a, b => a ≠ b

instance (r : Relation) (a b : Int) : Decidable (r.Holds a b) := by
  cases r <;> unfold Relation.Holds <;> infer_instance

def Interval.Present (i : Interval ι β) : Prop :=
  match i.presence with
  | none => True
  | some b => ν.bool b = true

instance (i : Interval ι β) : Decidable (i.Present ν) := by
  unfold Interval.Present
  cases i.presence <;> infer_instance

/-- Two present intervals do not share a tick. -/
def Interval.Apart (i j : Interval ι β) : Prop :=
  i.Present ν → j.Present ν →
    i.stop.eval ν ≤ j.start.eval ν ∨ j.stop.eval ν ≤ i.start.eval ν

instance (i j : Interval ι β) : Decidable (i.Apart ν j) := by
  unfold Interval.Apart
  infer_instance

def Constraint.Holds : Constraint ι β → Prop
  | .linear lhs rel rhs onlyIf =>
    (∀ l ∈ onlyIf, l.Holds ν) → rel.Holds (lhs.eval ν) (rhs.eval ν)
  | .exactlyOne literals => (literals.filter fun b => ν.bool b).length = 1
  | .interval i => i.Present ν → i.start.eval ν + i.size = i.stop.eval ν
  | .noOverlap intervals => intervals.Pairwise fun i j => i.Apart ν j
  | .boolAnd literals onlyIf => (∀ l ∈ onlyIf, l.Holds ν) → ∀ l ∈ literals, l.Holds ν
  | .boolOr literals onlyIf => (∀ l ∈ onlyIf, l.Holds ν) → ∃ l ∈ literals, l.Holds ν
  | .maxEquality target exprs =>
    (∃ e ∈ exprs, e.eval ν = target.eval ν) ∧ ∀ e ∈ exprs, e.eval ν ≤ target.eval ν
  | .absEquality target expr => target.eval ν = |expr.eval ν|

instance (c : Constraint ι β) : Decidable (c.Holds ν) := by
  cases c <;> unfold Constraint.Holds <;> infer_instance

/-- What a solution of the model is. -/
structure Model.Satisfied (m : Model ι β) : Prop where
  domains : ∀ d ∈ m.domains, d.lower ≤ ν.int d.var ∧ ν.int d.var ≤ d.upper
  constraints : ∀ c ∈ m.constraints, c.Holds ν

instance (m : Model ι β) : Decidable (m.Satisfied ν) :=
  decidable_of_iff
    ((∀ d ∈ m.domains, d.lower ≤ ν.int d.var ∧ ν.int d.var ≤ d.upper) ∧
      ∀ c ∈ m.constraints, c.Holds ν)
    ⟨fun h => ⟨h.1, h.2⟩, fun h => ⟨h.1, h.2⟩⟩

end Meaning

theorem Model.satisfied_extend (ν : Valuation ι β) (m : Model ι β) (domains : List (Domain ι))
    (constraints : List (Constraint ι β)) :
    (m.extend domains constraints).Satisfied ν ↔
      m.Satisfied ν ∧ (∀ d ∈ domains, d.lower ≤ ν.int d.var ∧ ν.int d.var ≤ d.upper) ∧
        ∀ c ∈ constraints, c.Holds ν := by
  constructor
  · intro hall
    obtain ⟨hd, hc⟩ := hall
    exact ⟨⟨fun d hm => hd d (List.mem_append_left _ hm),
        fun c hm => hc c (List.mem_append_left _ hm)⟩,
      fun d hm => hd d (List.mem_append_right _ hm),
      fun c hm => hc c (List.mem_append_right _ hm)⟩
  · intro hall
    obtain ⟨⟨hd, hc⟩, hd', hc'⟩ := hall
    exact ⟨fun d hm => (List.mem_append.mp hm).elim (hd d) (hd' d),
      fun c hm => (List.mem_append.mp hm).elim (hc c) (hc' c)⟩

/-! ### Bounded evaluation -/

section Range
variable (ν : Valuation ι β) (lower upper : Int)

def Bounded (value : Int) : Prop := lower ≤ value ∧ value ≤ upper

/-- Every constant, coefficient and intermediate value of the expression is in range. -/
def Expr.Fits : Expr ι β → Prop
  | .const value => Bounded lower upper value
  | .int v => Bounded lower upper (ν.int v)
  | .bool _ => Bounded lower upper 0 ∧ Bounded lower upper 1
  | .add a b => a.Fits ∧ b.Fits ∧ Bounded lower upper (a.eval ν + b.eval ν)
  | .sub a b => a.Fits ∧ b.Fits ∧ Bounded lower upper (a.eval ν - b.eval ν)
  | .scale factor a =>
    Bounded lower upper factor ∧ a.Fits ∧ Bounded lower upper (factor * a.eval ν)

def Interval.Fits (i : Interval ι β) : Prop :=
  i.start.Fits ν lower upper ∧ i.stop.Fits ν lower upper ∧ Bounded lower upper i.size

/-- Every expression of the constraint is in range. -/
def Constraint.Fits : Constraint ι β → Prop
  | .linear lhs _ rhs _ => lhs.Fits ν lower upper ∧ rhs.Fits ν lower upper
  | .interval i => i.Fits ν lower upper
  | .noOverlap intervals => ∀ i ∈ intervals, i.Fits ν lower upper
  | .maxEquality target exprs =>
    target.Fits ν lower upper ∧ ∀ e ∈ exprs, e.Fits ν lower upper
  | .absEquality target expr => target.Fits ν lower upper ∧ expr.Fits ν lower upper
  | .exactlyOne _ | .boolAnd _ _ | .boolOr _ _ => True

def Domain.Fits (d : Domain ι) : Prop := lower ≤ d.lower ∧ d.upper ≤ upper

end Range

theorem Expr.eval_sum (ν : Valuation ι β) (es : List (Expr ι β)) :
    (Expr.sum es).eval ν = (es.map (Expr.eval ν)).sum := by
  induction es with
  | nil => rfl
  | cons e es ih => rw [Expr.sum, Expr.eval, ih, List.map_cons, List.sum_cons]

/-- The sum of terms that are not negative is in range when its value is. -/
theorem Expr.fits_sum (ν : Valuation ι β) {lower upper : Int} (hlower : lower ≤ 0)
    (es : List (Expr ι β)) (hterms : ∀ e ∈ es, 0 ≤ e.eval ν ∧ e.Fits ν lower upper)
    (htotal : (Expr.sum es).eval ν ≤ upper) : (Expr.sum es).Fits ν lower upper := by
  have hnonneg : ∀ es : List (Expr ι β), (∀ e ∈ es, 0 ≤ e.eval ν) →
      0 ≤ (Expr.sum es).eval ν := by
    intro es hes
    induction es with
    | nil => exact le_refl _
    | cons e es ih =>
      have hhead := hes e (List.mem_cons_self ..)
      have htail := ih fun f hf => hes f (List.mem_cons_of_mem _ hf)
      rw [Expr.sum, Expr.eval]
      omega
  induction es with
  | nil => exact ⟨hlower, htotal⟩
  | cons e es ih =>
    obtain ⟨hhead, hfits⟩ := hterms e (List.mem_cons_self ..)
    have htail : ∀ f ∈ es, 0 ≤ f.eval ν ∧ f.Fits ν lower upper :=
      fun f hf => hterms f (List.mem_cons_of_mem _ hf)
    have hrest := hnonneg es fun f hf => (htail f hf).1
    rw [Expr.sum, Expr.eval] at htotal
    rw [Expr.sum]
    refine ⟨hfits, ih htail (by omega), ?_, ?_⟩
    · omega
    · exact htotal

/-- An equality with a maximum determines its target. -/
theorem maxEquality_unique (ν : Valuation ι β) {target : Expr ι β} {exprs : List (Expr ι β)}
    (h : (Constraint.maxEquality target exprs).Holds ν) {value : Int}
    (hattained : ∃ e ∈ exprs, e.eval ν = value) (hbound : ∀ e ∈ exprs, e.eval ν ≤ value) :
    target.eval ν = value := by
  obtain ⟨⟨e, he, heq⟩, hle⟩ := h
  obtain ⟨f, hf, hfeq⟩ := hattained
  have := hbound e he
  have := hle f hf
  omega

end PlantNexus.CpSat
