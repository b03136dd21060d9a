import DependencyRules.Graph.Links

/-!
# Breadth-first exploration

From a root, an exploration finds the modules that can be reached along admissible edges, nearest
first and, at equal distance, in the order of the edges. With each module it keeps the way that was
taken. Ways are lists of positions, the last module first and the root last.
-/

namespace DependencyRules

namespace Links

variable {n : Nat}

/-- A way through the graph: the module reached, the module before it, and so on to the root. -/
abbrev Way (n : Nat) := List (Fin n)

/-- The modules found so far, and the ways found in the present round, last one first. -/
structure Discovery (n : Nat) where
  seen : Vector Bool n
  found : List (Way n)

/-- Follows the admissible edges at the end of a way to modules that are new. -/
def extend (admissible : Edge n → Bool) (way : Way n) :
    List (Edge n) → Discovery n → Discovery n
  | [], discovery => discovery
  | edge :: rest, discovery =>
      if admissible edge && !discovery.seen.get edge.target then
        extend admissible way rest
          { seen := discovery.seen.set edge.target true edge.target.isLt
            found := (edge.target :: way) :: discovery.found }
      else extend admissible way rest discovery

def extendAll (links : Links n) (admissible : Fin n → Edge n → Bool) :
    List (Way n) → Discovery n → Discovery n
  | [], discovery => discovery
  | [] :: rest, discovery => extendAll links admissible rest discovery
  | (node :: before) :: rest, discovery =>
      extendAll links admissible rest
        (extend (admissible node) (node :: before) (links.row node) discovery)

/-- Explores in rounds: `ways` are those of the round before. Ends when a round finds nothing or
finds a module at which to stop. Every other round finds a new module, so as many rounds as there
are modules are enough. -/
def rounds (links : Links n) (admissible : Fin n → Edge n → Bool) (stop : Fin n → Bool) :
    Nat → Vector Bool n → List (Way n) → List (Way n)
  | 0, _, _ => []
  | fuel + 1, seen, ways =>
      let discovery := extendAll links admissible ways { seen, found := [] }
      let found := discovery.found.reverse
      if found.isEmpty then []
      else if found.any (fun way => way.head?.any stop) then found
      else found ++ rounds links admissible stop fuel discovery.seen found

/-- The ways from a root to the modules that can be reached, in the order of their discovery. -/
def explore (links : Links n) (admissible : Fin n → Edge n → Bool) (stop : Fin n → Bool)
    (root : Fin n) : List (Way n) :=
  rounds links admissible stop n ((Vector.replicate n false).set root true root.isLt) [[root]]

end Links

end DependencyRules
