import DependencyRules.Graph.DependencyType
import DependencyRules.Severity

/-!
# Rules

A rule restricts both ends of a dependency, or speaks about a module as such. A rule set lists what
is forbidden and what is allowed.
-/

namespace DependencyRules

/-- The name under which rules without a name of their own are booked, and under which a module or
an edge that no allowed rule covers is reported. -/
def notInAllowed : String := "not-in-allowed"

/-- What a rule asks of the module that a dependency starts from. -/
structure SourceRestriction where
  path : Option String := none
  pathNot : Option String := none
  /-- The orphan clause of a rule may stand at either end. -/
  orphan : Option Bool := none
deriving DecidableEq

/-- What a rule asks of a dependency and the module it leads to. Every clause present must hold. -/
structure TargetRestriction where
  path : Option String := none
  pathNot : Option String := none
  couldNotResolve : Option Bool := none
  circular : Option Bool := none
  isDynamic : Option Bool := none
  dependencyTypes : Option (List DependencyType) := none
  dependencyTypesNot : Option (List DependencyType) := none
  moreThanOneDependencyType : Option Bool := none
  license : Option String := none
  licenseNot : Option String := none
  exoticallyRequired : Option Bool := none
  exoticRequire : Option String := none
  exoticRequireNot : Option String := none
  via : Option String := none
  viaNot : Option String := none
  /-- Absent when the rule says nothing about reachability. -/
  reachable : Option Bool := none
  orphan : Option Bool := none
deriving DecidableEq

namespace TargetRestriction

/-- Whether some clause makes sense for a dependency only. -/
def restrictsDependency (target : TargetRestriction) : Bool :=
  target.couldNotResolve.isSome || target.circular.isSome || target.isDynamic.isSome ||
  target.dependencyTypes.isSome || target.dependencyTypesNot.isSome ||
  target.moreThanOneDependencyType.isSome || target.license.isSome || target.licenseNot.isSome ||
  target.exoticallyRequired.isSome || target.exoticRequire.isSome ||
  target.exoticRequireNot.isSome || target.via.isSome || target.viaNot.isSome

end TargetRestriction

structure Rule where
  name : Option String := none
  severity : Option Severity := none
  comment : Option String := none
  source : SourceRestriction := {}
  target : TargetRestriction := {}
deriving DecidableEq

namespace Rule

/-- The name under which the rule books what modules reach. -/
def heading (rule : Rule) : String := rule.name.getD notInAllowed

/-- The orphan clause, at whichever end it stands. -/
def wantedOrphan (rule : Rule) : Option Bool := rule.target.orphan.or rule.source.orphan

/-- Whether the rule is judged once for each module instead of once for each dependency. -/
def isAboutModules (rule : Rule) : Bool :=
  rule.wantedOrphan.isSome || rule.target.reachable.isSome

end Rule

/-- What is forbidden, what is allowed, and how much it weighs to be covered by no allowed rule. -/
structure RuleSet where
  forbidden : List Rule := []
  allowed : List Rule := []
  allowedSeverity : Severity := .warn
  /-- Options of the extractor; only checked for sanity. -/
  options : Option Json := none
deriving DecidableEq

end DependencyRules
