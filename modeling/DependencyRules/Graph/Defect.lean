import DependencyRules.Error
import DependencyRules.Graph.Basic
import Std.Data.TreeSet

/-!
# Sound graphs

Analyses rely on two facts: no two modules have the same source, and a dependency has a path
exactly when it could be resolved. `Graph.defect?` finds the first violation of either.
-/

namespace DependencyRules

namespace Dependency

/-- Whether there is a path exactly when the dependency could be resolved. -/
def isConsistent (dependency : Dependency) : Bool :=
  dependency.resolved.isEmpty == dependency.couldNotResolve

end Dependency

namespace Graph

/-- The first defect of some modules; `seen` are the sources of the modules before. -/
def firstDefect? (seen : Std.TreeSet String) : List Module → Option GraphDefect
  | [] => none
  | m :: rest =>
      if seen.contains m.source then some (.duplicateSource m.source)
      else
        match m.dependencies.find? fun dependency => !dependency.isConsistent with
        | some dependency => some (.inconsistentDependency m.source dependency.specifier)
        | none => firstDefect? (seen.insert m.source) rest

/-- The first defect of a graph: module by module, its source before its dependencies. -/
def defect? (graph : Graph) : Option GraphDefect := firstDefect? ∅ graph.modules

def ensureSound (graph : Graph) : Except Error Unit :=
  match graph.defect? with
  | none => .ok ()
  | some defect => .error (.badGraph defect)

end Graph

end DependencyRules
