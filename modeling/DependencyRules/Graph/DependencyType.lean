import DependencyRules.Document.Record

/-!
# Dependency types

How a dependency is provided to its module. One dependency can have several types.
-/

namespace DependencyRules

/-- How a dependency was found to be needed by its module. -/
inductive DependencyType where
  | localFile
  | npm
  | npmDev
  | npmOptional
  | npmPeer
  | npmBundled
  | npmNoPkg
  | npmUnknown
  | core
  | unknown
  | undetermined
  | deprecated
deriving DecidableEq

namespace DependencyType

def label : DependencyType → String
  | .localFile => "local"
  | .npm => "npm"
  | .npmDev => "npm-dev"
  | .npmOptional => "npm-optional"
  | .npmPeer => "npm-peer"
  | .npmBundled => "npm-bundled"
  | .npmNoPkg => "npm-no-pkg"
  | .npmUnknown => "npm-unknown"
  | .core => "core"
  | .unknown => "unknown"
  | .undetermined => "undetermined"
  | .deprecated => "deprecated"

def all : List DependencyType :=
  [.localFile, .npm, .npmDev, .npmOptional, .npmPeer, .npmBundled, .npmNoPkg, .npmUnknown, .core,
    .unknown, .undetermined, .deprecated]

def ofLabel? (word : String) : Option DependencyType := all.find? fun type => type.label = word

def rank (type : DependencyType) : Nat := all.idxOf type

instance : Ord DependencyType := ⟨compareOn rank⟩

instance : ToString DependencyType := ⟨label⟩

instance : FromDocument DependencyType where
  ofDocument? format document := (document.word? format).bind ofLabel?

def toJson (type : DependencyType) : Json := .string type.label

theorem ofLabel?_label (type : DependencyType) : ofLabel? type.label = some type := by
  cases type <;> decide

end DependencyType

end DependencyRules
