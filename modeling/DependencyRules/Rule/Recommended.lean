import DependencyRules.Rule.Basic

/-!
# Ready-made rules

Rules for the most common constraints, and the rule set that is used when none is given.
-/

namespace DependencyRules

namespace Rule

/-- A module that depends on nothing and on which nothing depends. -/
def noOrphans : Rule :=
  { name := some "no-orphans"
    severity := some .warn
    comment := some
      ("This module is not used by anything and does not use anything itself. " ++
        "Either remove it or wire it up.")
    target := { orphan := some true } }

def noCircular : Rule :=
  { name := some "no-circular"
    severity := some .warn
    comment := some "This dependency is part of a circular relationship."
    target := { circular := some true } }

def notToUnresolvable : Rule :=
  { name := some "not-to-unresolvable"
    severity := some .error
    comment := some "This module depends on a module that cannot be found."
    target := { couldNotResolve := some true } }

def noDuplicateDependencyTypes : Rule :=
  { name := some "no-duplicate-dep-types"
    severity := some .warn
    comment := some
      ("This dependency is declared more than once in the manifest (e.g. both as a " ++
        "regular and as a dev dependency).")
    target := { moreThanOneDependencyType := some true, dependencyTypesNot := some [.npmPeer] } }

def notToDeprecated : Rule :=
  { name := some "not-to-deprecated"
    severity := some .warn
    comment := some "This module uses a deprecated package. Upgrade it or find an alternative."
    target := { dependencyTypes := some [.deprecated] } }

def noUndeclaredPackage : Rule :=
  { name := some "no-non-package-json"
    severity := some .error
    comment := some "This module depends on a package that is not declared in the manifest."
    target := { dependencyTypes := some [.npmNoPkg, .npmUnknown] } }

end Rule

namespace RuleSet

/-- The rule set that is used when none is given. -/
def recommended : RuleSet :=
  { forbidden :=
      [Rule.noCircular, Rule.noOrphans, Rule.notToUnresolvable, Rule.noUndeclaredPackage,
        Rule.noDuplicateDependencyTypes, Rule.notToDeprecated] }

end RuleSet

end DependencyRules
