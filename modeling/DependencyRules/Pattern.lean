import DependencyRules.Pattern.Matching
import DependencyRules.Pattern.Reader
import DependencyRules.Pattern.Size

/-!
# Patterns

A pattern is a regular expression together with the text it was read from. It matches a text when
some part of the text matches the expression.
-/

namespace DependencyRules

/-- A regular expression and the text that denotes it. -/
structure Pattern where
  text : String
  expr : Expr
deriving DecidableEq

namespace Pattern

/-- Reads a pattern; `none` when the text denotes no expression or one that is too large. -/
def ofText? (text : String) : Option Pattern := do
  let expr ← readExpr? text.toList
  if expr.fits then some { text, expr } else none

def isMatch (pattern : Pattern) (text : String) : Bool :=
  pattern.expr.matchesSomewhere text.toList

end Pattern

end DependencyRules
