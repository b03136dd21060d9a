import DependencyRules.Graph.Basic
import DependencyRules.Rule.Prepared

/-!
# When clauses hold

Whether an end of a rule holds for a module or a dependency. All clauses that are present must
hold; an end without clauses holds for everything. A clause about a value that the candidate lacks
does not hold.
-/

namespace DependencyRules

namespace TextClauses

def isEmpty (clauses : TextClauses) : Bool := clauses.wanted.isNone && clauses.unwanted.isNone

def hold (clauses : TextClauses) (text : String) : Bool :=
  clauses.wanted.all (·.isMatch text) &&
    clauses.unwanted.all fun pattern => !pattern.isMatch text

def holdOptional (clauses : TextClauses) (text : Option String) : Bool :=
  clauses.isEmpty || text.any clauses.hold

/-- Whether the clauses hold for a list: one element is wanted and no element unwanted. An empty
list has none to show. -/
def holdAmong (clauses : TextClauses) (texts : List String) : Bool :=
  clauses.isEmpty ||
    (!texts.isEmpty && clauses.wanted.all (fun pattern => texts.any pattern.isMatch) &&
      clauses.unwanted.all fun pattern => !texts.any pattern.isMatch)

end TextClauses

/-- Whether a flag has the wanted value, if one is wanted. -/
def agrees (wanted : Option Bool) (actual : Bool) : Bool := wanted.all (· == actual)

namespace TargetRestriction

def acceptsTypes (target : TargetRestriction) (types : List DependencyType) : Bool :=
  target.dependencyTypes.all (fun wanted => types.any wanted.contains) &&
    target.dependencyTypesNot.all (fun unwanted => !types.any unwanted.contains) &&
    agrees target.moreThanOneDependencyType (1 < types.length)

def acceptsFlags (target : TargetRestriction) (dependency : Dependency) : Bool :=
  agrees target.couldNotResolve dependency.couldNotResolve &&
    agrees target.circular dependency.circular &&
    agrees target.isDynamic dependency.isDynamic &&
    agrees target.exoticallyRequired dependency.exoticallyRequired

end TargetRestriction

namespace PreparedRule

def appliesTo (rule : PreparedRule) (m : Module) : Bool := rule.source.hold m.source

/-- Whether a source is one that the rule aims at, by its path. -/
def aimsAt (rule : PreparedRule) (source : String) : Bool := rule.target.hold source

/-- Whether every clause about the target holds for a dependency. -/
def accepts (rule : PreparedRule) (dependency : Dependency) : Bool :=
  rule.aimsAt dependency.target &&
    rule.rule.target.acceptsTypes dependency.dependencyTypes &&
    rule.rule.target.acceptsFlags dependency &&
    rule.license.holdOptional dependency.license &&
    rule.exoticRequire.holdOptional dependency.exoticRequire &&
    rule.via.holdAmong dependency.cycle

/-- Whether both ends of the rule hold for a dependency of a module. -/
def covers (rule : PreparedRule) (m : Module) (dependency : Dependency) : Bool :=
  rule.appliesTo m && rule.accepts dependency

end PreparedRule

namespace Module

def routesUnder (m : Module) (heading : String) : List Routes :=
  (m.reaches.getD []).filter fun routes => routes.heading = heading

def arrivalsUnder (m : Module) (heading : String) : List Arrival :=
  (m.reachable.getD []).filter fun arrival => arrival.heading = heading

end Module

namespace Rule

/-- Whether the rule speaks about reachability and the module reaches something that is booked
under the heading of the rule. -/
def findsRoutes (rule : Rule) (m : Module) : Bool :=
  rule.target.reachable.isSome && !(m.routesUnder rule.heading).isEmpty

/-- Whether the rule speaks about reachability and the module is booked under the heading of the
rule as reached or, respectively, as not reached. -/
def findsArrival (rule : Rule) (m : Module) (isReached : Bool) : Bool :=
  rule.target.reachable.isSome && (m.arrivalsUnder rule.heading).any fun arrival =>
    arrival.isReached == isReached

end Rule

end DependencyRules
