import DependencyRules.Document.Literal
import DependencyRules.Text.Digit

/-!
# Reading JSON text

`Document.ofJsonText?` reads a whole text by recursive descent over its characters. The grammar is
strict: no comments, no trailing commas, no raw control characters in strings. Arrays and objects
nested beyond `Document.maxDepth` are read, but flawed.
-/

namespace DependencyRules

namespace Document

/-- The deepest nesting of arrays and objects that has a value. -/
def maxDepth : Nat := 127

namespace JsonText

def isBlank (c : Char) : Bool := c = ' ' || c = '\n' || c = '\t' || c = '\r'

def skipBlanks (text : List Char) : List Char := text.dropWhile isBlank

def escapedChar? (c : Char) : Option Char :=
  if c = '"' then some '"'
  else if c = '\\' then some '\\'
  else if c = '/' then some '/'
  else if c = 'b' then some '\x08'
  else if c = 'f' then some '\x0c'
  else if c = 'n' then some '\n'
  else if c = 'r' then some '\r'
  else if c = 't' then some '\t'
  else none

structure StringState where
  /-- The characters, last one first. -/
  chars : List Char := []
  /-- The first half of a surrogate pair whose second half must follow. -/
  pending : Option Nat := none
  /-- Whether each surrogate so far found its other half. -/
  paired : Bool := true

namespace StringState

/-- Adds a character; a pending half stays alone. -/
def push (state : StringState) (c : Char) : StringState :=
  { chars := c :: state.chars, pending := none, paired := state.paired && state.pending.isNone }

def pushUnit (state : StringState) (unit : Nat) : StringState :=
  if 0xDC00 ≤ unit ∧ unit ≤ 0xDFFF then
    match state.pending with
    | some high =>
        { state with
          chars := Char.ofNat (0x10000 + (high - 0xD800) * 0x400 + (unit - 0xDC00)) :: state.chars
          pending := none }
    | none => { state with paired := false }
  else if 0xD800 ≤ unit ∧ unit ≤ 0xDBFF then
    { state with pending := some unit, paired := state.paired && state.pending.isNone }
  else state.push (Char.ofNat unit)

/-- The string, unless a surrogate stayed alone. -/
def finish (state : StringState) : Option String :=
  if state.paired && state.pending.isNone then some (String.ofList state.chars.reverse) else none

end StringState

/-- Reads a string after its opening quote: its content, if it has one, and what follows the
closing quote. -/
def readString (state : StringState) : List Char → Option (Option String × List Char)
  | [] => none
  | '"' :: rest => some (state.finish, rest)
  | '\\' :: 'u' :: a :: b :: c :: d :: rest => do
      let unit ← Digit.number? 16 [a, b, c, d]
      readString (state.pushUnit unit) rest
  | '\\' :: c :: rest => do
      let escaped ← escapedChar? c
      readString (state.push escaped) rest
  | c :: rest => if c.toNat < 0x20 then none else readString (state.push c) rest

def readDigits? (text : List Char) : Option (List Char × List Char) :=
  let digits := text.takeWhile Digit.isDecimal
  if digits.isEmpty then none else some (digits, text.dropWhile Digit.isDecimal)

/-- Reads the digits before the point: a zero stands alone. -/
def readWhole? (text : List Char) : Option (List Char × List Char) := do
  let (digits, rest) ← readDigits? text
  match digits with
  | '0' :: _ :: _ => none
  | _ => some (digits, rest)

def readFraction? : List Char → Option (Option (List Char) × List Char)
  | '.' :: rest => do
      let (digits, rest) ← readDigits? rest
      return (some digits, rest)
  | text => some (none, text)

def readExponentDigits? (negative : Bool) (text : List Char) : Option (Option Int × List Char) := do
  let (digits, rest) ← readDigits? text
  let magnitude : Int := NumberLiteral.digitsValue digits
  return (some (if negative then -magnitude else magnitude), rest)

def readExponent? (text : List Char) : Option (Option Int × List Char) :=
  match text with
  | [] => some (none, text)
  | mark :: rest =>
      if mark = 'e' ∨ mark = 'E' then
        match rest with
        | '+' :: rest => readExponentDigits? false rest
        | '-' :: rest => readExponentDigits? true rest
        | _ => readExponentDigits? false rest
      else some (none, text)

/-- Reads the rest of a number after its sign. -/
def readMagnitude? (negative : Bool) (text : List Char) : Option (Document × List Char) := do
  let (whole, rest) ← readWhole? text
  let (fraction, rest) ← readFraction? rest
  let (exponent, rest) ← readExponent? rest
  let literal : NumberLiteral := { negative, whole, fraction, exponent }
  return (literal.toDocument, rest)

/-- An array or object at a level of nesting. -/
def nested (depth : Nat) (document : Document) : Document :=
  if depth ≤ maxDepth then document else .flawed

/-- An object from its entries; a key without content leaves the object without content. -/
def ofEntries (entries : List (Option String × Document)) : Document :=
  match entries.mapM (fun entry => entry.1.map fun key => (key, entry.2)) with
  | some entries => .object entries
  | none => .flawed

mutual

/-- Reads a value that starts with the first character; `depth` is the level of nesting that an
array or object here would have. -/
def readValue : Nat → Nat → List Char → Option (Document × List Char)
  | 0, _, _ => none
  | fuel + 1, depth, text =>
      match text with
      | 'n' :: 'u' :: 'l' :: 'l' :: rest => some (.null, rest)
      | 't' :: 'r' :: 'u' :: 'e' :: rest => some (.bool true, rest)
      | 'f' :: 'a' :: 'l' :: 's' :: 'e' :: rest => some (.bool false, rest)
      | '"' :: rest => do
          let (content, rest) ← readString {} rest
          return ((content.map .string).getD .flawed, rest)
      | '[' :: rest =>
          match skipBlanks rest with
          | ']' :: rest => some (nested depth (.array []), rest)
          | rest => do
              let (items, rest) ← readItems fuel (depth + 1) [] rest
              return (nested depth (.array items), rest)
      | '\x7b' :: rest =>
          match skipBlanks rest with
          | '\x7d' :: rest => some (nested depth (.object []), rest)
          | rest => do
              let (entries, rest) ← readEntries fuel (depth + 1) [] rest
              return (nested depth (ofEntries entries), rest)
      | '-' :: rest => readMagnitude? true rest
      | text => readMagnitude? false text

/-- Reads the items of an array up to its closing bracket; `seen` holds the items before, last
one first. -/
def readItems : Nat → Nat → List Document → List Char → Option (List Document × List Char)
  | 0, _, _, _ => none
  | fuel + 1, depth, seen, text => do
      let (item, rest) ← readValue fuel depth text
      match skipBlanks rest with
      | ',' :: rest => readItems fuel depth (item :: seen) (skipBlanks rest)
      | ']' :: rest => some ((item :: seen).reverse, rest)
      | _ => none

def readEntries : Nat → Nat → List (Option String × Document) → List Char →
    Option (List (Option String × Document) × List Char)
  | 0, _, _, _ => none
  | fuel + 1, depth, seen, text =>
      match text with
      | '"' :: rest => do
          let (key, rest) ← readString {} rest
          match skipBlanks rest with
          | ':' :: rest => do
              let (value, rest) ← readValue fuel depth (skipBlanks rest)
              match skipBlanks rest with
              | ',' :: rest => readEntries fuel depth ((key, value) :: seen) (skipBlanks rest)
              | '\x7d' :: rest => some (((key, value) :: seen).reverse, rest)
              | _ => none
          | _ => none
      | _ => none

end

end JsonText

/-- Reads a text that holds one JSON value and nothing else. Each step of the descent is followed
by a step that takes a character, so twice the length of the text bounds the descent. -/
def ofJsonText? (text : String) : Option Document := do
  let chars := JsonText.skipBlanks text.toList
  let (document, rest) ← JsonText.readValue (2 * chars.length + 2) 1 chars
  match JsonText.skipBlanks rest with
  | [] => some document
  | _ => none

end Document

end DependencyRules
