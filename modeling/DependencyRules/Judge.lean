import DependencyRules.Graph.Cycles
import DependencyRules.Graph.Defect
import DependencyRules.Graph.Reachability
import DependencyRules.Rule.Standalone
import DependencyRules.Violation.Tally

/-!
# Judging a graph

A judge holds the rules. It marks cycles and reachability on a graph, looks for violations at every
module and every dependency, and returns the graph with its verdicts and the summary.
-/

namespace DependencyRules

/-- Rules ready for use and the settings of a run. Running in parallel makes no difference to the
result. -/
structure Judge where
  rules : PreparedRuleSet := {}
  standalone : StandaloneNames := .builtIn
  isParallel : Bool := true

/-- A rule that is broken, and the violation that shows it. -/
structure Finding where
  rule : BrokenRule
  violation : Violation

namespace Finding

def ofModule (rule : BrokenRule) (m : Module) : Finding :=
  { rule, violation := { rule, source := m.source, target := m.source } }

def ofRoute (rule : BrokenRule) (m : Module) (route : Route) : Finding :=
  { rule
    violation := { rule, source := m.source, target := route.source, via := some route.via } }

def ofDependency (rule : BrokenRule) (m : Module) (dependency : Dependency) : Finding :=
  { rule
    violation :=
      { rule, source := m.source, target := dependency.target,
        cycle := if dependency.circular then dependency.cycle else [] } }

end Finding

/-- The findings about one module: about itself and about each of its dependencies. -/
structure Findings where
  atModule : List Finding
  atDependencies : List (List Finding)

namespace Findings

def violations (findings : Findings) : List Violation :=
  (findings.atModule ++ findings.atDependencies.flatten).map Finding.violation

end Findings

/-- Routes, one for each module reached and each at its first place. -/
def distinctRoutes (seen : List String) : List Route → List Route
  | [] => []
  | route :: rest =>
      if seen.contains route.source then distinctRoutes seen rest
      else route :: distinctRoutes (route.source :: seen) rest

namespace Judge

/-- A judge for a rule set, with the built-in names of files that stand alone. -/
def ofRules (rules : RuleSet) : Except Error Judge := rules.prepare.map fun rules => { rules }

/-- The rule that is broken by what no allowed rule covers. -/
def notAllowed (judge : Judge) : BrokenRule :=
  { name := notInAllowed, severity := judge.rules.allowedSeverity }

/-- The routes of a module to what a rule aims at. Rules of one name share their heading, so the
routes to other modules are left out. -/
def routesOf (rule : PreparedRule) (m : Module) : List Route :=
  distinctRoutes []
    (((m.routesUnder rule.heading).flatMap Routes.routes).filter fun route =>
      rule.aimsAt route.source)

/-- What a forbidden rule about modules finds at a module. -/
def forbiddenAtModule (judge : Judge) (rule : PreparedRule) (m : Module) : List Finding :=
  if rule.rule.wantedOrphan.isSome then
    if rule.appliesTo m && rule.rule.objectsTo judge.standalone m then [.ofModule rule.broken m]
    else []
  else
    match rule.wantedReach with
    | some true =>
        if rule.appliesTo m && rule.rule.findsRoutes m then
          (routesOf rule m).map (.ofRoute rule.broken m)
        else []
    | some false => if rule.rule.findsArrival m false then [.ofModule rule.broken m] else []
    | none => []

/-- What the allowed rules about reachability find at a module: some of them aim at it, and none of
them finds it reached, or not reached, as it wants. -/
def notAllowedAtModule (judge : Judge) (m : Module) : List Finding :=
  let relevant := judge.rules.allowed.filter fun rule =>
    rule.isAboutReachability && !(m.arrivalsUnder rule.heading).isEmpty
  let isSatisfied := relevant.any fun rule =>
    rule.wantedReach.any fun wanted => rule.rule.findsArrival m wanted
  if relevant.isEmpty || isSatisfied then [] else [.ofModule judge.notAllowed m]

/-- What the allowed rules find at a dependency: some of them apply to its module, and none of them
accepts the dependency. -/
def notAllowedAtDependency (judge : Judge) (m : Module) (dependency : Dependency) :
    List Finding :=
  let relevant := judge.rules.allowed.filter fun rule => !rule.isAboutModules && rule.appliesTo m
  let isAccepted := relevant.any fun rule => rule.accepts dependency
  if relevant.isEmpty || isAccepted then [] else [.ofDependency judge.notAllowed m dependency]

def atModule (judge : Judge) (m : Module) : List Finding :=
  (judge.rules.forbidden.filter PreparedRule.isAboutModules).flatMap
      (fun rule => judge.forbiddenAtModule rule m) ++
    judge.notAllowedAtModule m

def atDependency (judge : Judge) (m : Module) (dependency : Dependency) : List Finding :=
  ((judge.rules.forbidden.filter fun rule =>
      !rule.isAboutModules && rule.covers m dependency).map fun rule =>
    .ofDependency rule.broken m dependency) ++
  judge.notAllowedAtDependency m dependency

/-- What the rules find at a module and at its dependencies. The module carries its marks. -/
def findings (judge : Judge) (m : Module) : Findings :=
  { atModule := judge.atModule m
    atDependencies := m.dependencies.map (judge.atDependency m) }

/-- Equal neighbours as one. -/
def dropRepeats : List BrokenRule → List BrokenRule
  | a :: b :: rest => if a = b then dropRepeats (b :: rest) else a :: dropRepeats (b :: rest)
  | rules => rules

/-- The rules of some findings in their order, without repetitions and without comments. -/
def references (findings : List Finding) : List RuleReference :=
  (dropRepeats ((findings.map Finding.rule).mergeSort fun a b => (compare a b).isLE)).map
    BrokenRule.reference

def judgedDependency (dependency : Dependency) (findings : List Finding) : Dependency :=
  { dependency with valid := some findings.isEmpty, rules := references findings }

def judgedModule (m : Module) (findings : Findings) : Module :=
  { m with
    valid := some findings.atModule.isEmpty
    rules := references findings.atModule
    dependencies := m.dependencies.zipWith judgedDependency findings.atDependencies }

/-- The verdicts on a graph that carries its marks; `extra` is what the summary says besides. -/
def verdicts (judge : Judge) (graph : Graph) (extra : List (String × Json)) : Graph × Summary :=
  let findings := graph.modules.map judge.findings
  let tally : Tally := ⟨findings.flatMap Findings.violations⟩
  let modules := graph.modules.zipWith judgedModule findings
  let summary := tally.summary graph.modules.length graph.dependencyCount extra
  ({ graph with modules, summary }, summary)

def mark (judge : Judge) (graph : Graph) : Graph :=
  graph.withCycles.withReachability judge.rules

/-- Judges a graph by the rules: the graph with all its marks and verdicts, and the summary. -/
def assess (judge : Judge) (graph : Graph) : Except Error (Graph × Summary) := do
  graph.ensureSound
  return judge.verdicts (judge.mark graph) graph.summary.extra

end Judge

end DependencyRules
