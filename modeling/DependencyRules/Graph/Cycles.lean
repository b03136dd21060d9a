import DependencyRules.Graph.Components
import DependencyRules.Graph.Exploration

/-!
# Cycles

An edge is circular when its target leads back to its module. The cycle of a circular edge is the
shortest way back, from the target to the module. `Graph.cycles` lists the distinct cycles of a
graph whose edges are marked.
-/

namespace DependencyRules

namespace Links

variable {n : Nat}

/-- The shortest way from one module to another of the same component, both ends included. -/
def wayBack (links : Links n) (components : Vector (Option Nat) n) (start goal : Fin n) :
    List (Fin n) :=
  if start = goal then [start]
  else
    let admissible (_ : Fin n) (edge : Edge n) : Bool :=
      components.get edge.target = components.get start
    let ways := links.explore admissible (· = goal) start
    match ways.find? fun way => way.head? = some goal with
    | some way => way.reverse
    | none => [start, goal]

/-- The cycle that an edge of a module closes, if it closes one. -/
def cycleOf? (links : Links n) (components : Vector (Option Nat) n) (node : Fin n)
    (edge : Edge n) : Option (List String) :=
  if edge.target = node ∨ components.get edge.target = components.get node then
    some ((links.wayBack components edge.target node).map links.nameAt)
  else none

end Links

namespace Dependency

/-- A dependency with the cycle it closes, or with none. -/
def withCycle (dependency : Dependency) (cycle : Option (List String)) : Dependency :=
  { dependency with circular := cycle.isSome, cycle := cycle.getD [] }

end Dependency

namespace Graph

/-- The dependencies of a module from a position on, each with the cycle of its edge. The edges are
those of the module in the order of the dependencies. -/
def markCycles {n : Nat} (cycle? : Edge n → Option (List String)) :
    Nat → List Dependency → List (Edge n) → List Dependency
  | _, [], _ => []
  | position, dependency :: rest, [] =>
      dependency.withCycle none :: markCycles cycle? (position + 1) rest []
  | position, dependency :: rest, edge :: edges =>
      if edge.dependency = position then
        dependency.withCycle (cycle? edge) :: markCycles cycle? (position + 1) rest edges
      else dependency.withCycle none :: markCycles cycle? (position + 1) rest (edge :: edges)

/-- The graph with every dependency marked as circular or not, and with its cycle. What the input
says about cycles makes no difference. -/
def withCycles (graph : Graph) : Graph :=
  let links := graph.links
  let components := links.components
  let modules := Vector.ofFn fun i =>
    let m := graph.moduleVector.get i
    { m with
      dependencies := markCycles (links.cycleOf? components i) 0 m.dependencies (links.row i) }
  { graph with modules := modules.toList }

def leastString (least : String) : List String → String
  | [] => least
  | s :: rest => leastString (if s < least then s else least) rest

/-- The rotation of a cycle that starts at its smallest module. -/
def canonicalCycle : List String → List String
  | [] => []
  | s :: rest =>
      let least := leastString s rest
      let cycle := s :: rest
      cycle.dropWhile (· ≠ least) ++ cycle.takeWhile (· ≠ least)

/-- Inserts a cycle into a list in ascending order, unless it is there. -/
def insertCycle (cycle : List String) : List (List String) → List (List String)
  | [] => [cycle]
  | other :: rest =>
      match compare cycle other with
      | .lt => cycle :: other :: rest
      | .eq => other :: rest
      | .gt => other :: insertCycle cycle rest

/-- The distinct cycles of the marked dependencies, each from its smallest module on, in ascending
order. -/
def cycles (graph : Graph) : List (List String) :=
  (graph.modules.flatMap Module.dependencies).foldl
    (fun found dependency =>
      if dependency.circular && !dependency.cycle.isEmpty then
        insertCycle (canonicalCycle dependency.cycle) found
      else found) []

end Graph

end DependencyRules
