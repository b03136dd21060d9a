import DependencyRules.CommandLine.FileStore
import DependencyRules.Graph.Format
import DependencyRules.Rule.Format
import DependencyRules.Rule.Recommended
import DependencyRules.Settings

/-!
# Loading documents

Documents from files. A rule set is in TOML when its file says so by its extension, and in JSON
otherwise.
-/

namespace DependencyRules

abbrev ReadFile := String → Except FileFailure String

def loadText {α : Type} (read : ReadFile) (ofText? : String → Option α) (path : String) :
    Except Error α :=
  match read path with
  | .error failure => .error (.unreadable path failure)
  | .ok text =>
      match ofText? text with
      | some document => .ok document
      | none => .error (.malformed path)

/-- The last part of a path, unless it stands for a directory. -/
def fileName? (path : String) : Option String := do
  let name ← ((path.splitOn "/").filter fun part => part ≠ "" ∧ part ≠ ".").getLast?
  if name = ".." then none else some name

/-- The part of a file name after its last point. A point at the start does not count. -/
def extension? (path : String) : Option String := do
  let name ← fileName? path
  let reversed := name.toList.reverse
  match reversed.dropWhile (· ≠ '.') with
  | _ :: _ :: _ => some (String.ofList (reversed.takeWhile (· ≠ '.')).reverse)
  | _ => none

def Graph.load (read : ReadFile) (path : String) : Except Error Graph :=
  loadText read Graph.ofJsonText? path

/-- Loads a rule set, or the recommended one when no file is named. -/
def RuleSet.load (read : ReadFile) : Option String → Except Error RuleSet
  | none => .ok RuleSet.recommended
  | some path =>
      if extension? path = some "toml" then loadText read RuleSet.ofTomlText? path
      else loadText read RuleSet.ofJsonText? path

namespace Settings

def defaultPath : String := "depfence.toml"

/-- Loads the settings. Without a named file, a default file that is not found means the
defaults. -/
def load (files : FileSystem) : Option String → Except Error Settings
  | some path => loadText files.read ofTomlText? path
  | none =>
      if files.isFound defaultPath then loadText files.read ofTomlText? defaultPath else .ok {}

end Settings

end DependencyRules
