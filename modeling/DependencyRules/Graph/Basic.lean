import DependencyRules.Graph.DependencyType
import DependencyRules.Violation.Basic

/-!
# Dependency graphs

A graph is a list of modules, each with the list of its dependencies. What an extractor says about
them beyond the fields below travels along as extra data.
-/

namespace DependencyRules

structure Dependency where
  /-- The name by which the module asks for it. -/
  specifier : String
  /-- The path it stands for; empty exactly when it could not be resolved. -/
  resolved : String := ""
  dependencyTypes : List DependencyType := []
  isDynamic : Bool := false
  /-- False for an edge that is not to be followed. -/
  followable : Bool := true
  circular : Bool := false
  /-- The way from the target back to the module, when the edge is circular. -/
  cycle : List String := []
  couldNotResolve : Bool := false
  license : Option String := none
  exoticallyRequired : Bool := false
  exoticRequire : Option String := none
  valid : Option Bool := none
  rules : List RuleReference := []
  extra : List (String × Json) := []
deriving DecidableEq

namespace Dependency

def localFile (path : String) : Dependency :=
  { specifier := path, resolved := path, dependencyTypes := [.localFile] }

def unresolved (specifier : String) : Dependency :=
  { specifier, dependencyTypes := [.unknown], couldNotResolve := true }

/-- What rules test a dependency by: the resolved path, or the specifier when there is none. -/
def target (dependency : Dependency) : String :=
  if dependency.couldNotResolve || dependency.resolved.isEmpty then dependency.specifier
  else dependency.resolved

end Dependency

/-- A way to a module: its source, and the modules on the way up to it. -/
structure Route where
  source : String
  via : List String := []
deriving DecidableEq

/-- The ways from a module to what one rule aims at, under the heading of the rule. -/
structure Routes where
  routes : List Route
  heading : String
deriving DecidableEq

/-- Whether a module is reached from where one rule starts, and from which module first. -/
structure Arrival where
  isReached : Bool
  heading : String
  root : Option String := none
deriving DecidableEq

structure Module where
  source : String
  /-- Without dependents and without dependencies. -/
  orphan : Bool := false
  dependencies : List Dependency := []
  dependents : Option (List String) := none
  reaches : Option (List Routes) := none
  reachable : Option (List Arrival) := none
  valid : Option Bool := none
  rules : List RuleReference := []
  extra : List (String × Json) := []
deriving DecidableEq

/-- The modules of a program and what is known about the program as a whole. -/
structure Graph where
  modules : List Module := []
  /-- Carried along, never judged. -/
  folders : Option (List Json) := none
  summary : Summary := {}
  extra : List (String × Json) := []
deriving DecidableEq

namespace Graph

def module? (graph : Graph) (source : String) : Option Module :=
  graph.modules.find? fun m => m.source = source

def dependencyCount (graph : Graph) : Nat :=
  (graph.modules.flatMap Module.dependencies).length

/-- Appends a module, whatever its source. -/
def addModule (graph : Graph) (m : Module) : Graph :=
  { graph with modules := graph.modules ++ [m] }

/-- Appends a dependency to the first of the modules with the given source. -/
def appendDependency (source : String) (dependency : Dependency) : List Module → List Module
  | [] => []
  | m :: rest =>
      if m.source = source then { m with dependencies := m.dependencies ++ [dependency] } :: rest
      else m :: appendDependency source dependency rest

/-- Appends a dependency to the first module with the given source, if there is one. -/
def addDependency (graph : Graph) (source : String) (dependency : Dependency) : Graph :=
  { graph with modules := appendDependency source dependency graph.modules }

/-- Removes every module with the given source. -/
def removeModule (graph : Graph) (source : String) : Graph :=
  { graph with modules := graph.modules.filter fun m => m.source ≠ source }

def reverse (graph : Graph) : Graph := { graph with modules := graph.modules.reverse }

end Graph

end DependencyRules
