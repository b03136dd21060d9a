import DependencyRules.Graph.Basic
import DependencyRules.Rule.Prepared

/-!
# Files that stand alone

Some files stand alone by nature: dotfiles, type declarations and the configuration of tools. They
are recognised by the last part of their path alone, and no rule about orphans objects to them.
-/

namespace DependencyRules

/-- The part of a path after its last separator. -/
def lastPart (path : String) : String :=
  String.ofList
    (path.toList.reverse.takeWhile fun c => c ≠ '/' ∧ c ≠ '\\').reverse

/-- A way to recognise a file by the last part of its path. -/
inductive NameTest where
  | startsWith (start : String)
  | endsWith (ending : String)
  | matching (pattern : Pattern)
deriving DecidableEq

namespace NameTest

/-- What the list of additional patterns is called in errors. -/
def extraLabel : String := "orphans.extra_exceptions"

def ofPattern (text : String) : Except Error NameTest :=
  match Pattern.ofText? text with
  | some pattern => .ok (.matching pattern)
  | none => .error (.badPattern extraLabel "pattern")

def accepts (test : NameTest) (name : String) : Bool :=
  match test with
  | .startsWith start => start.toList.isPrefixOf name.toList
  | .endsWith ending => ending.toList.isSuffixOf name.toList
  | .matching pattern => pattern.isMatch name

end NameTest

structure StandaloneNames where
  tests : List NameTest
deriving DecidableEq

namespace StandaloneNames

def toolFiles : List String :=
  ["^babel\\.config\\.[^.]+$", "^webpack\\.config\\.[^.]+$", "^tsconfig\\.json$"]

/-- The names that always count. -/
def builtIn : StandaloneNames :=
  ⟨[.startsWith ".", .endsWith ".d.ts"] ++ (toolFiles.filterMap Pattern.ofText?).map .matching⟩

instance : Inhabited StandaloneNames := ⟨builtIn⟩

/-- The names that always count, and those that match additional patterns. -/
def withPatterns (patterns : List String) : Except Error StandaloneNames := do
  let extra ← patterns.mapM NameTest.ofPattern
  return ⟨builtIn.tests ++ extra⟩

/-- Whether a source stands alone by nature. -/
def includes (names : StandaloneNames) (source : String) : Bool :=
  let name := lastPart source
  names.tests.any fun test => test.accepts name

end StandaloneNames

namespace Rule

/-- Whether a rule about orphans objects to a module. -/
def objectsTo (rule : Rule) (names : StandaloneNames) (m : Module) : Bool :=
  rule.wantedOrphan = some true && m.orphan && !names.includes m.source

end Rule

end DependencyRules
