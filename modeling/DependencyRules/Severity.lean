import DependencyRules.Document.Record

/-!
# Severities

How much a violation weighs. Severities are ordered `info < warn < error`, and a forbidden rule
that names none has severity `error`.
-/

namespace DependencyRules

/-- How much a violation weighs, the lightest first. -/
inductive Severity where
  | info
  | warn
  | error
deriving DecidableEq

namespace Severity

instance : Inhabited Severity := ⟨.error⟩

def label : Severity → String
  | .info => "info"
  | .warn => "warn"
  | .error => "error"

def ofLabel? (word : String) : Option Severity :=
  if word = "info" then some .info
  else if word = "warn" then some .warn
  else if word = "error" then some .error
  else none

def rank : Severity → Nat
  | .info => 0
  | .warn => 1
  | .error => 2

instance : Ord Severity := ⟨compareOn rank⟩

instance : LE Severity := ⟨fun a b => a.rank ≤ b.rank⟩

instance (a b : Severity) : Decidable (a ≤ b) := inferInstanceAs (Decidable (a.rank ≤ b.rank))

instance : ToString Severity := ⟨label⟩

instance : FromDocument Severity where
  ofDocument? format document := (document.word? format).bind ofLabel?

def toJson (severity : Severity) : Json := .string severity.label

theorem ofLabel?_label (severity : Severity) : ofLabel? severity.label = some severity := by
  cases severity <;> decide

end Severity

end DependencyRules
