import PlantNexus.Data.Components
import PlantNexus.Data.Lists
import Mathlib.Data.Finset.Sort
import Mathlib.Data.List.Lex
import Mathlib.Data.String.Basic

/-! The cyclic components of a routing version.

`_cyclic_components` searches the graph twice. The first search lists the nodes as they finish;
the second takes them from the latest on and collects along the transposed edges whatever has not
been taken. Both loops keep their own stack and are bounded by fuel here. -/
namespace PlantNexus.Routing
open Data Relation

/-- An adjacency map over a set of nodes: a dictionary by its items, in their order. -/
structure Adjacency (nodes : Finset String) where
  items : List (String × Finset String)
  distinct : (items.map Prod.fst).Nodup
  keys : ∀ item ∈ items, item.1 ∈ nodes
  targets : ∀ item ∈ items, item.2 ⊆ nodes

namespace Adjacency
variable {nodes : Finset String}

/-- `adjacency.get(node, set())` -/
def get (adjacency : Adjacency nodes) (node : String) : Finset String :=
  ((adjacency.items.find? fun item => item.1 = node).map Prod.snd).getD ∅

/-- `transpose`, once every node has its empty set. -/
def transpose (adjacency : Adjacency nodes) : String → Finset String :=
  adjacency.items.foldl
    (fun transpose item node =>
      if node ∈ item.2 then insert item.1 (transpose node) else transpose node)
    fun _ => ∅

end Adjacency

/-- `sorted(values, reverse=True)` -/
def sortedReverse (values : Finset String) : List String := values.sort.reverse

/-! ### The first search -/

/-- The variables of the first search; the top of the stack comes first. -/
structure SearchState where
  finishOrder : List String
  visited : Finset String
  stack : List (String × Bool)

section
variable (neighbors : String → Finset String)

/-- A node that is popped for the first time: its neighbours are pushed above it. -/
def expand (state : SearchState) (node : String) (rest : List (String × Bool)) : SearchState :=
  let visited := insert node state.visited
  { finishOrder := state.finishOrder
    visited := visited
    stack := (sortedReverse (neighbors node)).foldl
      (fun stack neighbor => if neighbor ∈ visited then stack else (neighbor, false) :: stack)
      ((node, true) :: rest) }

/-- One round of `while stack`. -/
def searchRound (state : SearchState) (node : String) (expanded : Bool)
    (rest : List (String × Bool)) : SearchState :=
  if expanded then { state with finishOrder := state.finishOrder ++ [node], stack := rest }
  else if node ∈ state.visited then { state with stack := rest }
  else expand neighbors state node rest

def searchLoop : Nat → SearchState → Option SearchState
  | fuel, state =>
    match state.stack, fuel with
    | [], _ => some state
    | _ :: _, 0 => none
    | (node, expanded) :: rest, fuel + 1 =>
      searchLoop fuel (searchRound neighbors state node expanded rest)

/-- The search from one root. -/
def searchFrom (fuel : Nat) (state : SearchState) (root : String) : Option SearchState :=
  if root ∈ state.visited then some state
  else searchLoop neighbors fuel { state with stack := [(root, false)] }

end

/-! ### The second search -/

/-- The variables of the second search from one root. -/
structure CollectState where
  component : List String
  assigned : Finset String
  stack : List String

section
variable (transpose : String → Finset String)

/-- A neighbour that has not been taken. -/
def assign (state : CollectState) (neighbor : String) : CollectState :=
  if neighbor ∈ state.assigned then state
  else { state with
    assigned := insert neighbor state.assigned
    stack := neighbor :: state.stack }

/-- One round of `while component_stack`. -/
def collectRound (state : CollectState) (node : String) (rest : List String) : CollectState :=
  (sortedReverse (transpose node)).foldl assign
    { state with component := state.component ++ [node], stack := rest }

def collectLoop : Nat → CollectState → Option CollectState
  | fuel, state =>
    match state.stack, fuel with
    | [], _ => some state
    | _ :: _, 0 => none
    | node :: rest, fuel + 1 => collectLoop fuel (collectRound transpose state node rest)

end

/-- What the second search keeps from root to root. -/
structure Components where
  assigned : Finset String
  cyclic : List (List String)

section
variable {nodes : Finset String} (adjacency : Adjacency nodes)

/-- The component of a root, kept when it is cyclic. -/
def recordComponent (cyclic : List (List String)) (component : List String) :
    List (List String) :=
  let ordered := sortByKey id component
  match component with
  | [] => cyclic
  | first :: _ =>
    if 1 < ordered.length ∨ first ∈ adjacency.get first then cyclic ++ [ordered] else cyclic

/-- The search from one root along the transposed edges. -/
def collectFrom (fuel : Nat) (state : Components) (root : String) : Option Components :=
  if root ∈ state.assigned then some state
  else do
    let final ← collectLoop adjacency.transpose fuel ⟨[], insert root state.assigned, [root]⟩
    return ⟨final.assigned, recordComponent adjacency state.cyclic final.component⟩

/-- `_cyclic_components` -/
def cyclicComponents (fuel : Nat) : Option (List (List String)) := do
  let search ← nodes.sort.foldlM (searchFrom adjacency.get fuel) ⟨[], ∅, []⟩
  let components ← search.finishOrder.reverse.foldlM (collectFrom adjacency fuel) ⟨∅, []⟩
  return sortByKey id components.cyclic

end

end PlantNexus.Routing
