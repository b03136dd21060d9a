import DependencyRules.Graph.Exploration
import DependencyRules.Rule.Clauses

/-!
# Reachability

For every rule about reachability, the modules that the rule starts from are the roots of walks. A
walk takes any edge of its root and followable edges after that. Each module is then told which
targets of the rule it reaches and, as a target, from which root it is reached first.
-/

namespace DependencyRules

namespace Links

variable {n : Nat}

def isTaken (root node : Fin n) (edge : Edge n) : Bool := node = root || edge.followable

/-- The ways from a root to all modules that a walk reaches. -/
def waysFrom (links : Links n) (root : Fin n) : List (Way n) :=
  links.explore (isTaken root) (fun _ => false) root

/-- The modules of a way after its root, in the order of the walk. -/
def Way.steps (way : Way n) : List (Fin n) := way.dropLast.reverse

end Links

/-- What one rule says about the modules of a graph. -/
structure RuleReach (n : Nat) where
  reaches : Vector (Option Routes) n
  reachable : Vector (Option Arrival) n

namespace RuleReach

variable {n : Nat}

def targetWays (links : Links n) (isTarget : Vector Bool n) (root : Fin n) :
    List (Links.Way n) :=
  (links.waysFrom root).filter fun way => way.head?.any fun target => isTarget.get target

/-- Books a root for the targets that no root was booked for before. -/
def bookRoot (booked : Vector (Option (Fin n)) n) (root : Fin n) (ways : List (Links.Way n)) :
    Vector (Option (Fin n)) n :=
  ways.foldl (fun booked way =>
    match way with
    | [] => booked
    | target :: _ =>
        if (booked.get target).isNone then booked.set target (some root) target.isLt else booked)
    booked

def routes? (links : Links n) (heading : String) (ways : List (Links.Way n)) : Option Routes :=
  if ways.isEmpty then none
  else
    some {
      routes := ways.filterMap fun way =>
        way.head?.map fun target =>
          { source := links.nameAt target, via := way.steps.map links.nameAt }
      heading }

/-- What a rule says about the modules of a graph. A root counts as reached from itself. -/
def ofRule (links : Links n) (modules : Vector Module n) (rule : PreparedRule) : RuleReach n :=
  let isTarget := modules.map fun m => rule.aimsAt m.source
  let isRoot := modules.map rule.appliesTo
  let ways : Vector (List (Links.Way n)) n := Vector.ofFn fun i =>
    if isRoot.get i then targetWays links isTarget i else []
  let booked := (List.finRange n).foldl (fun booked root => bookRoot booked root (ways.get root))
    (Vector.replicate n none)
  { reaches := ways.map (routes? links rule.heading)
    reachable := Vector.ofFn fun i =>
      if isTarget.get i then
        let root := if isRoot.get i then some i else booked.get i
        some {
          isReached := root.isSome
          heading := rule.heading
          root := root.map links.nameAt }
      else none }

end RuleReach

def nonEmpty? {α : Type} (items : List α) : Option (List α) :=
  if items.isEmpty then none else some items

namespace Graph

/-- The graph with what each module reaches, and from where it is reached, for every rule about
reachability in their order. What the input says about reachability makes no difference. -/
def withReachability (graph : Graph) (rules : PreparedRuleSet) : Graph :=
  let links := graph.links
  let modules := graph.moduleVector
  let reach := rules.aboutReachability.map (RuleReach.ofRule links modules)
  let marked : Vector Module graph.modules.length := Vector.ofFn fun i =>
    { modules.get i with
      reaches := nonEmpty? (reach.filterMap fun r => r.reaches.get i)
      reachable := nonEmpty? (reach.filterMap fun r => r.reachable.get i) }
  { graph with modules := marked.toList }

end Graph

end DependencyRules
