import DependencyRules.Graph.Links

/-!
# Strongly connected components

Two modules are in one component when each can be reached from the other. A depth-first search
finds the components: it numbers modules in the order in which they are opened and keeps for each
the least number that can be reached through modules still on the path stack. A module that
reaches none below its own number closes a component.
-/

namespace DependencyRules

structure ComponentSearch (n : Nat) where
  /-- The number of a module in the order of opening. -/
  order : Vector (Option Nat) n
  /-- The least number known to be reachable through open modules. -/
  lowlink : Vector Nat n
  onStack : Vector Bool n
  /-- The modules of components that are not closed yet, last one first. -/
  pathStack : List (Fin n)
  /-- The component of a module, once it is closed. -/
  component : Vector (Option Nat) n
  nextOrder : Nat
  components : Nat

namespace ComponentSearch

variable {n : Nat}

def initial (n : Nat) : ComponentSearch n :=
  { order := Vector.replicate n none
    lowlink := Vector.replicate n 0
    onStack := Vector.replicate n false
    pathStack := []
    component := Vector.replicate n none
    nextOrder := 0
    components := 0 }

/-- Opens a module: gives it the next number and puts it on the path stack. -/
def openNode (state : ComponentSearch n) (node : Fin n) : ComponentSearch n :=
  { state with
    order := state.order.set node (some state.nextOrder) node.isLt
    lowlink := state.lowlink.set node state.nextOrder node.isLt
    onStack := state.onStack.set node true node.isLt
    pathStack := node :: state.pathStack
    nextOrder := state.nextOrder + 1 }

/-- Lowers the lowlink of a module to a number, unless it is lower already. -/
def lower (state : ComponentSearch n) (node : Fin n) (number : Nat) : ComponentSearch n :=
  { state with lowlink := state.lowlink.set node (min (state.lowlink.get node) number) node.isLt }

/-- Takes modules off the path stack up to the root and gives them the present component. -/
def unstack (root : Fin n) : List (Fin n) → ComponentSearch n → ComponentSearch n
  | [], state => { state with pathStack := [] }
  | node :: rest, state =>
      let state :=
        { state with
          onStack := state.onStack.set node false node.isLt
          component := state.component.set node (some state.components) node.isLt
          pathStack := rest }
      if node = root then state else unstack root rest state

def closeComponent (state : ComponentSearch n) (root : Fin n) : ComponentSearch n :=
  let state := unstack root state.pathStack state
  { state with components := state.components + 1 }

/-- A module on the current path with the edges that are still to be followed. -/
structure Frame (n : Nat) where
  node : Fin n
  edges : List (Edge n)

/-- Leaves a module whose edges are all followed: its lowlink goes over to the module before it,
and a root of a component closes it. -/
def leave (state : ComponentSearch n) (node : Fin n) (frames : List (Frame n)) :
    ComponentSearch n :=
  let number := state.lowlink.get node
  let state :=
    match frames with
    | [] => state
    | parent :: _ => state.lower parent.node number
  if some number = state.order.get node then state.closeComponent node else state

/-- Runs the search along the current path. Each step follows an edge or leaves a module, so the
number of edges and modules bounds the steps. -/
def run (links : Links n) : Nat → List (Frame n) → ComponentSearch n → ComponentSearch n
  | 0, _, state => state
  | _ + 1, [], state => state
  | fuel + 1, ⟨node, []⟩ :: frames, state => run links fuel frames (state.leave node frames)
  | fuel + 1, ⟨node, edge :: edges⟩ :: frames, state =>
      match state.order.get edge.target with
      | none =>
          run links fuel (⟨edge.target, links.row edge.target⟩ :: ⟨node, edges⟩ :: frames)
            (state.openNode edge.target)
      | some number =>
          run links fuel (⟨node, edges⟩ :: frames)
            (if state.onStack.get edge.target then state.lower node number else state)

/-- Goes through a module and what can be reached from it, unless that has been done before. -/
def searchFrom (links : Links n) (state : ComponentSearch n) (root : Fin n) : ComponentSearch n :=
  if (state.order.get root).isNone then
    run links (links.edgeCount + n) [⟨root, links.row root⟩] (state.openNode root)
  else state

end ComponentSearch

namespace Links

variable {n : Nat}

def componentSearch (links : Links n) : ComponentSearch n :=
  (List.finRange n).foldl (ComponentSearch.searchFrom links) (ComponentSearch.initial n)

def components (links : Links n) : Vector (Option Nat) n := links.componentSearch.component

end Links

end DependencyRules
