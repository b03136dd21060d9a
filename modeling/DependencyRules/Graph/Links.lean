import DependencyRules.Graph.Basic
import Std.Data.TreeMap

/-!
# The links of a graph

The links of a graph number its modules by position and hold the edges that lead to one of
them. A source that occurs more than once stands for its last position.
-/

namespace DependencyRules

/-- A dependency that leads to a module of the graph. -/
structure Edge (n : Nat) where
  /-- The position of the dependency in its module. -/
  dependency : Nat
  /-- The position of the module it leads to. -/
  target : Fin n
  /-- Whether the edge is followed beyond the first step of a walk. -/
  followable : Bool
deriving DecidableEq

/-- The modules of a graph by position, with their edges. -/
structure Links (n : Nat) where
  sources : Vector String n
  positions : Std.TreeMap String (Fin n)
  rows : Vector (List (Edge n)) n

namespace Graph

def moduleVector (graph : Graph) : Vector Module graph.modules.length :=
  ⟨graph.modules.toArray, by simp⟩

def lastPositions {n : Nat} (sources : Vector String n) : Std.TreeMap String (Fin n) :=
  (List.finRange n).foldl (fun positions i => positions.insert (sources.get i) i) ∅

/-- The edges of a module, in the order of its dependencies. -/
def edgesOf {n : Nat} (positions : Std.TreeMap String (Fin n)) (m : Module) : List (Edge n) :=
  m.dependencies.zipIdx.filterMap fun (dependency, position) =>
    if dependency.couldNotResolve then none
    else
      positions[dependency.resolved]?.map fun target =>
        { dependency := position, target,
          followable := dependency.followable && !dependency.isDynamic }

def links (graph : Graph) : Links graph.modules.length :=
  let sources := graph.moduleVector.map Module.source
  let positions := lastPositions sources
  { sources, positions, rows := graph.moduleVector.map (edgesOf positions) }

end Graph

namespace Links

variable {n : Nat}

def position? (links : Links n) (source : String) : Option (Fin n) := links.positions[source]?

def nameAt (links : Links n) (i : Fin n) : String := links.sources.get i

def row (links : Links n) (i : Fin n) : List (Edge n) := links.rows.get i

/-- The edges at a position; beyond the last module there are none. -/
def edgesAt (links : Links n) (position : Nat) : List (Edge n) :=
  if h : position < n then links.row ⟨position, h⟩ else []

def edgeCount (links : Links n) : Nat :=
  (links.rows.toList.map List.length).foldr (· + ·) 0

end Links

end DependencyRules
