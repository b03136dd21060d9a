import DependencyRules.Pattern.Basic
import DependencyRules.Pattern.Flags
import DependencyRules.Text.Digit
import DependencyRules.Unicode.Name

/-!
# Escape sequences

Reading what follows a backslash: a character by its code, a class of characters, a condition on
the position, or a character that would otherwise have a meaning of its own.
-/

namespace DependencyRules

namespace Pattern

/-- Passes over blanks and comments; a comment goes from a hash to the end of its line. -/
def skipComments (inComment : Bool) : List Char → List Char
  | [] => []
  | c :: rest =>
      if inComment then skipComments (c ≠ '\n') rest
      else if Unicode.whiteSpace.contains c then skipComments false rest
      else if c = '#' then skipComments true rest
      else c :: rest

def skipBlanks (flags : Flags) (text : List Char) : List Char :=
  if flags.ignoreBlanks then skipComments false text else text

/-- Collects characters as long as they are accepted, passing over blanks after each one. The
length of the text bounds their number. -/
def collect (flags : Flags) (accept : Char → Bool) : Nat → List Char → List Char × List Char
  | 0, text => ([], text)
  | _ + 1, [] => ([], [])
  | fuel + 1, c :: rest =>
      if accept c then
        let (collected, rest) := collect flags accept fuel (skipBlanks flags rest)
        (c :: collected, rest)
      else ([], c :: rest)

/-- Collects characters up to a closing brace, which must be there. -/
def collectToBrace? (flags : Flags) (text : List Char) : Option (List Char × List Char) :=
  let text := skipBlanks flags text
  match collect flags (· ≠ '\x7d') text.length text with
  | (collected, _ :: rest) => some (collected, rest)
  | (_, []) => none

/-- What one escape sequence, or one plain character, stands for. -/
inductive Atom where
  /-- A character; `rawByte` when it is written as the two digits of a byte. -/
  | char (c : Char) (rawByte : Bool)
  | set (set : CharSet)
  | look (condition : Look)

/-- Takes a number of characters, passing over blanks between them. -/
def takeSpaced? (flags : Flags) : Nat → List Char → Option (List Char × List Char)
  | 0, text => some ([], text)
  | _ + 1, [] => none
  | count + 1, c :: rest => do
      let (taken, rest) ← takeSpaced? flags count (skipBlanks flags rest)
      return (c :: taken, rest)

/-- Reads the code of a character: a fixed number of digits, or any number between braces. -/
def readCode? (flags : Flags) (digits : Nat) (text : List Char) : Option (Atom × List Char) :=
  match skipBlanks flags text with
  | '\x7b' :: rest => do
      let (code, rest) ← collectToBrace? flags rest
      let c ← if code.isEmpty then none else Digit.charOfCode? (← Digit.number? 16 code)
      return (.char c false, rest)
  | text => do
      let (code, rest) ← takeSpaced? flags digits text
      let c ← Digit.charOfCode? (← Digit.number? 16 code)
      return (.char c (digits = 2), rest)

/-- Closes a set under case, where case is ignored. -/
def foldCase (flags : Flags) (set : CharSet) : CharSet :=
  if flags.ignoreCase then
    if flags.unicode then Unicode.foldCase set else Unicode.foldAsciiCase set
  else set

/-- Closes a set under case and takes what is outside, where that is asked for. Without Unicode
the result must not go beyond ASCII, since the rest of a character cannot be told. -/
def foldAndNegate? (flags : Flags) (negated : Bool) (set : CharSet) : Option CharSet :=
  let folded := foldCase flags set
  let result := if negated then folded.complement else folded
  if flags.unicode || result.isAscii then some result else none

/-- The position of the first occurrence of `part`, as what stands before and after it. -/
def splitAt? (part : List Char) : List Char → Option (List Char × List Char)
  | [] => none
  | c :: rest =>
      if part.isPrefixOf (c :: rest) then some ([], (c :: rest).drop part.length)
      else (splitAt? part rest).map fun (before, after) => (c :: before, after)

/-- A set asked for by the name of a property, or all characters outside of it. -/
structure PropertyQuery where
  set : CharSet
  negated : Bool := false

/-- What the text between the braces of a property asks for: the characters that have a property,
that have a certain value of it (`=` or `:`), or that do not have the value (`!=`). -/
def propertyQuery? (name : List Char) : Option PropertyQuery :=
  match splitAt? ['!', '='] name, splitAt? [':'] name, splitAt? ['='] name with
  | some (property, value), _, _ =>
      (Unicode.propertySet? property value).map fun set => { set, negated := true }
  | none, some (property, value), _ =>
      (Unicode.propertySet? property value).map fun set => { set }
  | none, none, some (property, value) =>
      (Unicode.propertySet? property value).map fun set => { set }
  | none, none, none => (Unicode.namedSet? name).map fun set => { set }

/-- Reads the name of a property, one letter or any name between braces. -/
def readPropertyName? (flags : Flags) (text : List Char) : Option (PropertyQuery × List Char) :=
  match skipBlanks flags text with
  | [] => none
  | '\x7b' :: rest => do
      let (name, rest) ← collectToBrace? flags rest
      return (← propertyQuery? name, rest)
  | c :: rest =>
      if c = '\\' then none
      else (Unicode.namedSet? [c]).map fun set => ({ set }, skipBlanks flags rest)

/-- Reads a property after its letter. Properties speak of all characters, so they need Unicode.
An upper case letter and the sign `!=` both ask for what is outside, and so cancel each other. -/
def readProperty? (flags : Flags) (negated : Bool) (text : List Char) :
    Option (Atom × List Char) := do
  let (query, rest) ← readPropertyName? flags text
  if flags.unicode then
    return (.set (← foldAndNegate? flags (negated != query.negated) query.set), rest)
  else none

def asciiDigit : CharSet := .range '0' '9'

/-- The letters, digits and the underscore of ASCII. -/
def asciiWord : CharSet :=
  .unions [.range '0' '9', .range 'A' 'Z', .single '_', .range 'a' 'z']

def asciiSpace : CharSet := .unions [.range '\t' '\r', .single ' ']

/-- The class that a letter names: digits, blanks or characters of words. -/
def letterClass? (flags : Flags) (c : Char) : Option CharSet :=
  if c = 'd' then some (if flags.unicode then Unicode.decimalNumber else asciiDigit)
  else if c = 's' then some (if flags.unicode then Unicode.whiteSpace else asciiSpace)
  else if c = 'w' then some (if flags.unicode then Unicode.wordChar else asciiWord)
  else none

/-- The class that a letter names; an upper case letter names what is outside. -/
def readLetterClass? (flags : Flags) (c : Char) : Option CharSet := do
  let set ← letterClass? flags c.toLower
  let result := if c.isUpper then set.complement else set
  if flags.unicode || result.isAscii then some result else none

/-- The condition that a name between the braces of `\b` stands for. -/
def namedBoundary? (unicode : Bool) (name : String) : Option Look :=
  if name = "start" then some (.wordStart unicode)
  else if name = "end" then some (.wordStop unicode)
  else if name = "start-half" then some (.noWordBefore unicode)
  else if name = "end-half" then some (.noWordAfter unicode)
  else none

def isBoundaryChar (c : Char) : Bool := c.isAlpha || c = '-'

/-- Reads what follows `\b`: the name of a condition between braces, if there is one. Braces with
a number are left alone, since they repeat. -/
def readBoundary? (flags : Flags) (text : List Char) : Option (Atom × List Char) :=
  match text with
  | '\x7b' :: inner =>
      match skipBlanks flags inner with
      | [] => none
      | c :: rest =>
          if isBoundaryChar c then
            let inner := c :: rest
            match collect flags isBoundaryChar inner.length inner with
            | (name, '\x7d' :: rest) => do
                let condition ← namedBoundary? flags.unicode (String.ofList name)
                return (.look condition, rest)
            | _ => none
          else some (.look (.wordBoundary flags.unicode), text)
  | _ => some (.look (.wordBoundary flags.unicode), text)

/-- Whether a character of ASCII stands for itself after a backslash: all but letters, digits and
the two signs for the ends of words. -/
def isEscapable (c : Char) : Bool :=
  c.toNat ≤ 0x7F && !c.isAlphanum && c ≠ '<' && c ≠ '>'

def controlChar? (c : Char) : Option Char :=
  if c = 'a' then some '\x07'
  else if c = 'f' then some '\x0c'
  else if c = 't' then some '\t'
  else if c = 'n' then some '\n'
  else if c = 'r' then some '\r'
  else if c = 'v' then some '\x0b'
  else none

def readEscape? (flags : Flags) : List Char → Option (Atom × List Char)
  | [] => none
  | c :: rest =>
      if c = 'x' then readCode? flags 2 rest
      else if c = 'u' then readCode? flags 4 rest
      else if c = 'U' then readCode? flags 8 rest
      else if c = 'p' ∨ c = 'P' then readProperty? flags (c = 'P') rest
      else if (letterClass? flags c.toLower).isSome then
        (readLetterClass? flags c).map fun set => (.set set, rest)
      else if isEscapable c then some (.char c false, rest)
      else if c = 'A' then some (.look .start, rest)
      else if c = 'z' then some (.look .stop, rest)
      else if c = 'b' then readBoundary? flags rest
      else if c = 'B' then some (.look (.noWordBoundary flags.unicode), rest)
      else if c = '<' then some (.look (.wordStart flags.unicode), rest)
      else if c = '>' then some (.look (.wordStop flags.unicode), rest)
      else (controlChar? c).map fun control => (.char control false, rest)

end Pattern

end DependencyRules
