import DependencyRules.Error
import DependencyRules.Rule.Basic

/-!
# Sensible rule sets

Some combinations of clauses make no sense, and some options are out of range. The first such fault
is reported: of the forbidden rules, then of the allowed ones, then of the options.
-/

namespace DependencyRules

namespace Rule

/-- What a rule is called in errors: its list, its position there and its name. -/
def label (rule : Rule) (list : String) (position : Nat) : String :=
  match rule.name with
  | some name => s!"{list}[{position}] ({name})"
  | none => s!"{list}[{position}]"

/-- What makes no sense in a rule of either list. -/
def fault? (rule : Rule) : Option RuleFault :=
  if rule.wantedOrphan.isSome && rule.target.reachable.isSome then some .orphanAndReachable
  else if rule.isAboutModules && rule.target.restrictsDependency then some .dependencyClauses
  else if rule.target.dependencyTypes = some [] then some .noDependencyTypes
  else none

/-- What makes no sense in an allowed rule. -/
def allowedFault? (rule : Rule) : Option RuleFault :=
  if rule.wantedOrphan.isSome then some .orphanAllowed else rule.fault?

end Rule

namespace RuleSet

def depthLimit : Int := 99

def moduleSystems : List String := ["cjs", "amd", "es6", "tsd"]

def isDepth : Json → Bool
  | .int depth => 0 ≤ depth && depth ≤ depthLimit
  | _ => false

def isModuleSystems : Json → Bool
  | .array items => items.all fun item =>
      match item with
      | .string name => moduleSystems.contains name
      | _ => false
  | _ => false

def optionFault? : Json → Option OptionFault
  | .object entries =>
      match Json.lookup "maxDepth" entries, Json.lookup "moduleSystems" entries with
      | some depth, systems =>
          if !isDepth depth then some (.depth depth)
          else if systems.all isModuleSystems then none
          else some .moduleSystems
      | none, systems => if systems.all isModuleSystems then none else some .moduleSystems
  | _ => some .notAnObject

def firstFault? (list : String) (fault? : Rule → Option RuleFault) (rules : List Rule) :
    Option Error :=
  rules.zipIdx.findSome? fun (rule, position) =>
    (fault? rule).map fun fault => .badRule (rule.label list position) fault

def fault? (rules : RuleSet) : Option Error :=
  (firstFault? "forbidden" Rule.fault? rules.forbidden).or
    ((firstFault? "allowed" Rule.allowedFault? rules.allowed).or
      ((rules.options.bind optionFault?).map .badOptions))

end RuleSet

end DependencyRules
