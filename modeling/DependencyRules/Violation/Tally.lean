import DependencyRules.Violation.Basic

/-!
# Counting violations

A tally takes violations in any order and ends in a summary that does not depend on it.
-/

namespace DependencyRules

/-- The violations met so far. -/
structure Tally where
  violations : List Violation := []

namespace Tally

def add (tally : Tally) (violation : Violation) : Tally := ⟨tally.violations ++ [violation]⟩

def addAll (tally : Tally) (violations : List Violation) : Tally :=
  ⟨tally.violations ++ violations⟩

def size (tally : Tally) : Nat := tally.violations.length

def isEmpty (tally : Tally) : Bool := tally.violations.isEmpty

def sorted (violations : List Violation) : List Violation :=
  violations.mergeSort fun a b => (compare a b).isLE

def countOf (severity : Severity) (violations : List Violation) : Nat :=
  violations.countP fun violation => violation.severity = severity

/-- The summary of what was met: the violations in order, counted by severity. -/
def summary (tally : Tally) (totalCruised totalDependenciesCruised : Nat)
    (extra : List (String × Json)) : Summary :=
  { violations := sorted tally.violations
    error := countOf .error tally.violations
    warn := countOf .warn tally.violations
    info := countOf .info tally.violations
    totalCruised
    totalDependenciesCruised
    extra }

end Tally

end DependencyRules
