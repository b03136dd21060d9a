import DependencyRules.Json.Writer

/-!
# Errors

Why a run cannot be carried out. Each error is a cause; `Error.message` words it.
-/

namespace DependencyRules

inductive RuleFault where
  | orphanAllowed
  | orphanAndReachable
  /-- A rule about modules with a clause about dependencies. -/
  | dependencyClauses
  | noDependencyTypes
deriving DecidableEq

namespace RuleFault

def message : RuleFault → String
  | .orphanAllowed => "orphan clauses are only supported in forbidden rules"
  | .orphanAndReachable => "a rule cannot combine 'orphan' and 'reachable'"
  | .dependencyClauses =>
      "'orphan' and 'reachable' rules only accept path and pathNot in 'to'"
  | .noDependencyTypes => "'dependencyTypes' must not be empty"

end RuleFault

inductive OptionFault where
  | notAnObject
  /-- A depth that is no integer of the range. -/
  | depth (value : Json)
  | moduleSystems
deriving DecidableEq

namespace OptionFault

def message : OptionFault → String
  | .notAnObject => "'options' must be an object"
  | .depth value => "'maxDepth' must be an integer between 0 and 99, got " ++ value.compact
  | .moduleSystems =>
      "'moduleSystems' must be a list drawn from [\"cjs\", \"amd\", \"es6\", \"tsd\"]"

end OptionFault

inductive GraphDefect where
  /-- A source that an earlier module has. -/
  | duplicateSource (source : String)
  /-- A dependency whose path is missing, or present although it could not be resolved. -/
  | inconsistentDependency (source specifier : String)
deriving DecidableEq

namespace GraphDefect

def message : GraphDefect → String
  | .duplicateSource source => s!"duplicate module source '{source}'"
  | .inconsistentDependency source specifier =>
      s!"'{source}' -> '{specifier}': " ++
        "resolved must be present exactly when couldNotResolve is false"

end GraphDefect

inductive FileFailure where
  | notFound
  | isDirectory
  | notDirectory
  | nameTooLong
  /-- A name with the character that ends names in the calls of operating systems. -/
  | nulInName
  /-- Any other cause, in the words of the operating system. -/
  | other (description : String)
deriving DecidableEq

namespace FileFailure

/-- The wording of a failure, as operating systems word it. -/
def message : FileFailure → String
  | .notFound => "No such file or directory (os error 2)"
  | .isDirectory => "Is a directory (os error 21)"
  | .notDirectory => "Not a directory (os error 20)"
  | .nameTooLong => "File name too long (os error 36)"
  | .nulInName => "file name contained an unexpected NUL byte"
  | .other description => description

end FileFailure

inductive Error where
  | badPattern (label field : String)
  | badRule (label : String) (fault : RuleFault)
  | badOptions (fault : OptionFault)
  | badGraph (defect : GraphDefect)
  | unreadable (path : String) (failure : FileFailure)
  /-- A text that is no document of the expected kind. -/
  | malformed (path : String)
deriving DecidableEq

namespace Error

def message : Error → String
  | .badPattern label field => s!"rule '{label}': invalid regular expression in '{field}'"
  | .badRule label fault => s!"rule '{label}': " ++ fault.message
  | .badOptions fault => "invalid options: " ++ fault.message
  | .badGraph defect => "invalid graph: " ++ defect.message
  | .unreadable path failure => "I/O error: " ++ failure.message ++ s!" (path: {path})"
  | .malformed path => s!"could not parse {path}"

end Error

end DependencyRules
