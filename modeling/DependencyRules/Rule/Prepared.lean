import DependencyRules.Pattern
import DependencyRules.Rule.Fault
import DependencyRules.Violation.Basic

/-!
# Rules ready for use

A rule is ready for use when its patterns have been read. A rule set is accepted when it has no
fault and all its patterns denote regular expressions; otherwise the first error is reported, faults
before patterns.
-/

namespace DependencyRules

/-- A clause about a text and its negated form. -/
structure TextClauses where
  wanted : Option Pattern := none
  unwanted : Option Pattern := none
deriving DecidableEq

structure PreparedRule where
  rule : Rule
  /-- The name under which violations are reported. -/
  name : String
  severity : Severity
  /-- What is asked of the path that a dependency starts from. -/
  source : TextClauses := {}
  /-- What is asked of the path that a dependency leads to. -/
  target : TextClauses := {}
  license : TextClauses := {}
  exoticRequire : TextClauses := {}
  /-- What is asked of the modules of a cycle. -/
  via : TextClauses := {}
deriving DecidableEq

inductive RuleList where
  | forbidden
  | allowed
deriving DecidableEq

/-- The name of a forbidden rule that has none of its own. -/
def unnamed : String := "unnamed"

/-- Reads the pattern of a clause, if the clause is there. -/
def readPattern (label field : String) : Option String → Except Error (Option Pattern)
  | none => .ok none
  | some text =>
      match Pattern.ofText? text with
      | some pattern => .ok (some pattern)
      | none => .error (.badPattern label field)

def readClauses (label field : String) (wanted unwanted : Option String) :
    Except Error TextClauses := do
  let wanted ← readPattern label field wanted
  let unwanted ← readPattern label (field ++ "Not") unwanted
  return { wanted, unwanted }

namespace Rule

/-- Reads the patterns of a rule in their order; `label` is what the rule is called in errors.
Allowed rules share one name. -/
def prepare (rule : Rule) (list : RuleList) (label : String) : Except Error PreparedRule := do
  let clauses := readClauses label
  let source ← clauses "from.path" rule.source.path rule.source.pathNot
  let target ← clauses "to.path" rule.target.path rule.target.pathNot
  let license ← clauses "to.license" rule.target.license rule.target.licenseNot
  let exoticRequire ←
    clauses "to.exoticRequire" rule.target.exoticRequire rule.target.exoticRequireNot
  let via ← clauses "to.via" rule.target.via rule.target.viaNot
  let (name, severity) :=
    match list with
    | .forbidden => (rule.name.getD unnamed, rule.severity.getD .error)
    | .allowed => (notInAllowed, rule.severity.getD .warn)
  return { rule, name, severity, source, target, license, exoticRequire, via }

end Rule

namespace PreparedRule

/-- The name under which the rule books what modules reach. -/
def heading (rule : PreparedRule) : String := rule.rule.heading

def isAboutModules (rule : PreparedRule) : Bool := rule.rule.isAboutModules

def wantedReach (rule : PreparedRule) : Option Bool := rule.rule.target.reachable

def isAboutReachability (rule : PreparedRule) : Bool := rule.wantedReach.isSome

/-- The rule as it is named in violations. -/
def broken (rule : PreparedRule) : BrokenRule := ⟨rule.name, rule.severity, rule.rule.comment⟩

end PreparedRule

structure PreparedRuleSet where
  forbidden : List PreparedRule := []
  allowed : List PreparedRule := []
  allowedSeverity : Severity := .warn
deriving DecidableEq

namespace RuleSet

/-- Accepts a rule set and reads its patterns. Every allowed rule weighs what the rule set says. -/
def prepare (rules : RuleSet) : Except Error PreparedRuleSet := do
  if let some error := rules.fault? then throw error
  let forbidden ← rules.forbidden.zipIdx.mapM fun (rule, position) =>
    rule.prepare .forbidden (rule.label "forbidden" position)
  let allowed ← rules.allowed.zipIdx.mapM fun (rule, position) => do
    let prepared ← rule.prepare .allowed (rule.label "allowed" position)
    return { prepared with severity := rules.allowedSeverity }
  return { forbidden, allowed, allowedSeverity := rules.allowedSeverity }

end RuleSet

namespace PreparedRuleSet

/-- The rules that speak about reachability, forbidden ones first. -/
def aboutReachability (rules : PreparedRuleSet) : List PreparedRule :=
  (rules.forbidden ++ rules.allowed).filter PreparedRule.isAboutReachability

def isEmpty (rules : PreparedRuleSet) : Bool := rules.forbidden.isEmpty && rules.allowed.isEmpty

end PreparedRuleSet

end DependencyRules
