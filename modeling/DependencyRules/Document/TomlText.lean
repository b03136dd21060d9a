import DependencyRules.Toml.Value

/-!
# Reading TOML text

`Document.ofTomlText?` reads a whole text: headers that open tables, and entries of the table that
was opened last.
-/

namespace DependencyRules

namespace Toml

/-- What a text has said so far. -/
structure Progress where
  root : Entries := []
  /-- The path of the table that was opened last. -/
  path : List String := []

namespace Progress

/-- Opens the table at a path; `change` opens it in the table that holds it. -/
def openAt? (change : String → Entries → Option Entries) (progress : Progress)
    (path : List String) : Option Progress := do
  let key ← path.getLast?
  let root ← progress.root.modifyAt? (change key) path.dropLast
  return { root, path }

/-- Puts a value at a key of the table that was opened last. -/
def insert? (progress : Progress) (key : List String) (value : Document) : Option Progress := do
  let root ← progress.root.modifyAt? (Entries.insert? value key) progress.path
  return { progress with root }

end Progress

def readHeaderEnd? (closing : List Char) (text : List Char) : Option (List Char) :=
  if closing.isPrefixOf text then readLineEnd? (text.drop closing.length) else none

/-- Reads headers and entries up to the end of the text. Each takes at least one character, so the
length of the text bounds their number. -/
def readDocument? : Nat → Progress → List Char → Option Entries
  | 0, _, _ => none
  | fuel + 1, progress, text =>
      match skipTrivia false text with
      | [] => some progress.root
      | '[' :: '[' :: rest => do
          let (path, rest) ← readKey? rest
          let rest ← readHeaderEnd? [']', ']'] rest
          let progress ← progress.openAt? Entries.push? path
          readDocument? fuel progress rest
      | '[' :: rest => do
          let (path, rest) ← readKey? rest
          let rest ← readHeaderEnd? [']'] rest
          let progress ← progress.openAt? Entries.state? path
          readDocument? fuel progress rest
      | rest => do
          let (key, value, rest) ← readPair? (readValue? maxDepth) rest
          let rest ← readLineEnd? rest
          let progress ← progress.insert? key value
          readDocument? fuel progress rest

def skipMark : List Char → List Char
  | '\ufeff' :: rest => rest
  | text => text

end Toml

def Document.ofTomlText? (text : String) : Option Document := do
  let chars := Toml.skipMark text.toList
  let entries ← Toml.readDocument? (chars.length + 1) {} chars
  return .object (Toml.entriesToDocument entries)

end DependencyRules
