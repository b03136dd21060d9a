import DependencyRules.Severity

/-!
# Violations

A violation says which rule is broken by which edge or module. A summary is the ordered list of
violations with their counts.
-/

namespace DependencyRules

/-- A rule as it is named on a module or a dependency that breaks it. -/
structure RuleReference where
  name : String
  severity : Severity
deriving DecidableEq

/-- A rule as it is named in a violation. -/
structure BrokenRule where
  name : String
  severity : Severity
  comment : Option String := none
deriving DecidableEq

namespace BrokenRule

def reference (rule : BrokenRule) : RuleReference := ⟨rule.name, rule.severity⟩

/-- Rules are ordered by name, then severity, then comment; no comment comes first. -/
instance : Ord BrokenRule :=
  ⟨compareLex (compareOn name) (compareLex (compareOn severity) (compareOn comment))⟩

end BrokenRule

/-- A rule broken by a module or by one of its dependencies. -/
structure Violation where
  rule : BrokenRule
  source : String
  /-- What it depends on or reaches; the module itself when the module as such is at fault. -/
  target : String
  cycle : List String := []
  /-- The modules on the way to a target that may not be reached. -/
  via : Option (List String) := none
deriving DecidableEq

namespace Violation

def severity (violation : Violation) : Severity := violation.rule.severity

/-- Violations are ordered by source, target, rule, way and cycle. -/
instance : Ord Violation :=
  ⟨compareLex (compareOn source) (compareLex (compareOn target) (compareLex (compareOn rule)
    (compareLex (compareOn via) (compareOn cycle))))⟩

end Violation

/-- The outcome of a run: the violations, their counts, and what the input said besides. -/
structure Summary where
  violations : List Violation := []
  error : Nat := 0
  warn : Nat := 0
  info : Nat := 0
  totalCruised : Nat := 0
  totalDependenciesCruised : Nat := 0
  extra : List (String × Json) := []
deriving DecidableEq

namespace Summary

def isClean (summary : Summary) : Bool := summary.violations.isEmpty

/-- The number of violations at or above a severity. -/
def countFrom (summary : Summary) (severity : Severity) : Nat :=
  summary.violations.countP fun violation => severity ≤ violation.severity

end Summary

end DependencyRules
