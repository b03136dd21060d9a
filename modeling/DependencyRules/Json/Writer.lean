import DependencyRules.Json.Basic
import DependencyRules.Number.Shortest

/-!
# Writing JSON

`Json.compact` writes a value without blanks, `Json.pretty` on indented lines; they differ in their
layout alone. Of the characters of a string, only the quote, the backslash and the control
characters are escaped.
-/

namespace DependencyRules

namespace Json

def escapeChar (c : Char) : List Char :=
  if c = '"' then ['\\', '"']
  else if c = '\\' then ['\\', '\\']
  else if c = '\n' then ['\\', 'n']
  else if c = '\r' then ['\\', 'r']
  else if c = '\t' then ['\\', 't']
  else if c = '\x08' then ['\\', 'b']
  else if c = '\x0c' then ['\\', 'f']
  else if c.toNat < 0x20 then
    ['\\', 'u', '0', '0', Nat.digitChar (c.toNat / 16), Nat.digitChar (c.toNat % 16)]
  else [c]

def escape (text : List Char) : List Char := text.flatMap escapeChar

def quote (text : String) : List Char := '"' :: (escape text.toList ++ ['"'])

def intText (i : Int) : List Char :=
  if i < 0 then '-' :: Nat.toDigits 10 i.natAbs else Nat.toDigits 10 i.natAbs

/-- The text of a value that has no parts. -/
def scalarText : Json → List Char
  | .null => ['n', 'u', 'l', 'l']
  | .bool true => ['t', 'r', 'u', 'e']
  | .bool false => ['f', 'a', 'l', 's', 'e']
  | .int i => intText i
  | .float x => x.text
  | .string s => quote s
  | .array _ => ['[', ']']
  | .object _ => ['\x7b', '\x7d']

/-- Where blanks stand between the parts of a value. -/
structure Layout where
  /-- What stands before an item and before a closing bracket, by the level of nesting. -/
  lineBreak : Nat → List Char
  /-- What stands between a colon and a value. -/
  gap : List Char

def Layout.dense : Layout where
  lineBreak _ := []
  gap := []

/-- Each item on a line of its own, two spaces further in for each level. -/
def Layout.indented : Layout where
  lineBreak level := '\n' :: List.replicate (2 * level) ' '
  gap := [' ']

mutual

/-- The characters of a value at a level of nesting; an empty array or object has no blanks. -/
def chars (layout : Layout) (level : Nat) : Json → List Char
  | .array (item :: rest) =>
      '[' :: (itemChars layout (level + 1) (item :: rest) ++ layout.lineBreak level ++ [']'])
  | .object (entry :: rest) =>
      '\x7b' :: (entryChars layout (level + 1) (entry :: rest) ++ layout.lineBreak level ++
        ['\x7d'])
  | value => scalarText value

def itemChars (layout : Layout) (level : Nat) : List Json → List Char
  | [] => []
  | [item] => layout.lineBreak level ++ chars layout level item
  | item :: rest =>
      layout.lineBreak level ++ (chars layout level item ++ ',' :: itemChars layout level rest)

def entryChars (layout : Layout) (level : Nat) : List (String × Json) → List Char
  | [] => []
  | [(key, value)] =>
      layout.lineBreak level ++ (quote key ++ ':' :: (layout.gap ++ chars layout level value))
  | (key, value) :: rest =>
      layout.lineBreak level ++ (quote key ++ ':' :: (layout.gap ++ (chars layout level value ++
        ',' :: entryChars layout level rest)))

end

def textIn (layout : Layout) (value : Json) : String := String.ofList (chars layout 0 value)

def compact (value : Json) : String := value.textIn .dense

def pretty (value : Json) : String := value.textIn .indented

end Json

end DependencyRules
