import DependencyRules.Toml.Moment
import DependencyRules.Toml.Number
import DependencyRules.Toml.Table
import DependencyRules.Toml.Text

/-!
# Values in TOML

Reading a value: a scalar, an array over several lines with a comma allowed at its end, or a table
in braces on one line.
-/

namespace DependencyRules

namespace Toml

/-- The key under which the text of a moment stands. -/
def momentKey : String := "$__toml_private_datetime"

def ofMoment (text : String) : Document := .object [(momentKey, .string text)]

/-- Reads the items of an array after its opening bracket; `seen` holds the items before, last one
first. The length of the text bounds their number. -/
def readItems? (readItem? : List Char → Option (Document × List Char)) :
    Nat → List Document → List Char → Option (List Document × List Char)
  | 0, _, _ => none
  | fuel + 1, seen, text =>
      match skipTrivia false text with
      | ']' :: rest => some (seen.reverse, rest)
      | rest => do
          let (item, rest) ← readItem? rest
          match skipTrivia false rest with
          | ',' :: rest => readItems? readItem? fuel (item :: seen) rest
          | ']' :: rest => some ((item :: seen).reverse, rest)
          | _ => none

/-- Reads a key, the sign after it and a value. -/
def readPair? (readItem? : List Char → Option (Document × List Char)) (text : List Char) :
    Option (List String × Document × List Char) := do
  let (key, rest) ← readKey? text
  match rest with
  | '=' :: rest => do
      let (value, rest) ← readItem? (skipBlanks rest)
      some (key, value, rest)
  | _ => none

/-- Reads the entries of a table in braces, at least one, after its opening brace. -/
def readEntries? (readItem? : List Char → Option (Document × List Char)) :
    Nat → Entries → List Char → Option (Entries × List Char)
  | 0, _, _ => none
  | fuel + 1, seen, text => do
      let (key, value, rest) ← readPair? readItem? text
      let entries ← seen.insert? value key
      match skipBlanks rest with
      | ',' :: rest => readEntries? readItem? fuel entries rest
      | '\x7d' :: rest => some (entries, rest)
      | _ => none

/-- Reads a value that is no array and no table. -/
def readScalar? (text : List Char) : Option (Document × List Char) :=
  match text with
  | '"' :: _ => (readString? text).map fun (string, rest) => (.string string, rest)
  | '\'' :: _ => (readString? text).map fun (string, rest) => (.string string, rest)
  | 't' :: 'r' :: 'u' :: 'e' :: rest => some (.bool true, rest)
  | 'f' :: 'a' :: 'l' :: 's' :: 'e' :: rest => some (.bool false, rest)
  | text =>
      match readMoment? text with
      | some (moment, rest) => some (ofMoment moment, rest)
      | none => readNumber? text

/-- Reads a value in which arrays and tables are nested at most as deep as given. -/
def readValue? : Nat → List Char → Option (Document × List Char)
  | 0, text => readScalar? text
  | depth + 1, text =>
      match text with
      | '[' :: rest => do
          let (items, rest) ← readItems? (readValue? depth) (rest.length + 1) [] rest
          some (.array items, rest)
      | '\x7b' :: rest =>
          match skipBlanks rest with
          | '\x7d' :: rest => some (.object [], rest)
          | rest => do
              let (entries, rest) ← readEntries? (readValue? depth) (rest.length + 1) [] rest
              some (.object (entriesToDocument entries), rest)
      | text => readScalar? text

end Toml

end DependencyRules
