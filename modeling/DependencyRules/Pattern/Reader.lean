import DependencyRules.Pattern.Class

/-!
# Reading patterns

`Pattern.readExpr?` turns the text of a pattern into an expression. There is no look-around and no
reference back to a group; groups have names and numbers for the reader's sake only. Parts of a
pattern may not be nested more than `Pattern.maxDepth` levels deep.
-/

namespace DependencyRules

namespace Pattern

/-- The deepest nesting of groups, classes, repetitions, sequences and choices. -/
def maxDepth : Nat := 250

structure Part where
  expr : Expr
  /-- How deeply parts are nested in it. -/
  depth : Nat := 0
  /-- Whether it only changes flags, and so cannot be repeated. -/
  isDirective : Bool := false

def maxPartDepth (parts : List Part) : Nat := parts.foldl (fun depth part => max depth part.depth) 0

def sequencePart : List Part → Part
  | [] => { expr := .empty }
  | [part] => part
  | parts => { expr := .sequence (parts.map Part.expr), depth := maxPartDepth parts + 1 }

def choicePart : List Part → Part
  | [part] => part
  | parts => { expr := .choice (parts.map Part.expr), depth := maxPartDepth parts + 1 }

/-- The choice between the alternatives before and the present one, each last one first. -/
def closeChoices (done parts : List Part) : Part :=
  choicePart (sequencePart parts.reverse :: done).reverse

/-- The set of one character, or of all its forms where case is ignored. -/
def charSet (flags : Flags) (c : Char) : CharSet := foldCase flags (.single c)

/-- The expression for an escape sequence or a plain character. A byte beyond ASCII is no text. -/
def atomExpr? (flags : Flags) : Atom → Option Expr
  | .char c rawByte =>
      if rawByte && !flags.unicode && 0x7F < c.toNat then none
      else some (.oneOf (charSet flags c))
  | .set set => some (.oneOf set)
  | .look condition => some (.look condition)

def dotSet? (flags : Flags) : Option CharSet :=
  if !flags.unicode then none
  else if flags.dotMatchesLineEnd then some .all
  else if flags.anyLineEnd then some (CharSet.ofChars ['\n', '\r']).complement
  else some (CharSet.single '\n').complement

def caret (flags : Flags) : Look :=
  if flags.multiLine then (if flags.anyLineEnd then .anyLineStart else .lineStart) else .start

def dollar (flags : Flags) : Look :=
  if flags.multiLine then (if flags.anyLineEnd then .anyLineStop else .lineStop) else .stop

def readAtom? (flags : Flags) : List Char → Option (Expr × List Char)
  | [] => none
  | '\\' :: rest => do
      let (atom, rest) ← readEscape? flags rest
      return (← atomExpr? flags atom, rest)
  | '.' :: rest => (dotSet? flags).map fun set => (.oneOf set, rest)
  | '^' :: rest => some (.look (caret flags), rest)
  | '$' :: rest => some (.look (dollar flags), rest)
  | c :: rest => some (.oneOf (charSet flags c), rest)

/-- Reads a decimal number with blanks around it; it has at most 32 bits. -/
def readNumber? (flags : Flags) (text : List Char) : Option (Nat × List Char) :=
  let text := text.dropWhile Unicode.whiteSpace.contains
  let (digits, rest) := collect flags (fun c => '0' ≤ c && c ≤ '9') text.length text
  let value := digits.foldl (fun value c => 10 * value + (c.toNat - '0'.toNat)) 0
  if digits.isEmpty || Nat.pow 2 32 ≤ value then none
  else some (value, rest.dropWhile Unicode.whiteSpace.contains)

/-- How often a part is to occur: at least `least` times, and at most `most` times if given. -/
structure Counts where
  least : Nat
  most : Option Nat

def readMost? (flags : Flags) (least : Nat) (text : List Char) : Option (Counts × List Char) :=
  match skipBlanks flags text with
  | '\x7d' :: rest => some (⟨least, none⟩, rest)
  | text => do
      let (most, rest) ← readNumber? flags text
      match rest with
      | '\x7d' :: rest => if least ≤ most then some (⟨least, some most⟩, rest) else none
      | _ => none

/-- Reads counts after their opening brace: `2}`, `2,}` or `2,4}`. -/
def readCounts? (flags : Flags) (text : List Char) : Option (Counts × List Char) := do
  let (least, rest) ← readNumber? flags (skipBlanks flags text)
  match rest with
  | ',' :: rest => readMost? flags least rest
  | '\x7d' :: rest => some (⟨least, some least⟩, rest)
  | _ => none

/-- Reads the mark of a reluctant repetition, if there is one. -/
def readMark : List Char → Bool × List Char
  | '?' :: rest => (true, rest)
  | text => (false, text)

/-- Repeats the last of the parts, which come last first, and passes over the mark of a reluctant
repetition. -/
def repeatLast? (counts : Counts) (parts : List Part) (text : List Char) :
    Option (List Part × List Char) :=
  match parts with
  | [] => none
  | part :: parts =>
      let (reluctant, rest) := readMark text
      let expr := part.expr.repeated counts.least counts.most reluctant
      if part.isDirective then none
      else some ({ expr, depth := part.depth + 1 } :: parts, rest)

def isNameStart (c : Char) : Bool := c = '_' || Unicode.alphabetic.contains c

def isNameChar (c : Char) : Bool :=
  c = '_' || c = '.' || c = '[' || c = ']' || Unicode.alphabetic.contains c ||
    Unicode.number.contains c

structure Groups where
  /-- How many of them have a number. -/
  count : Nat := 0
  names : List (List Char) := []

/-- Reads the name of a group up to its closing angle; it must differ from those before. -/
def readGroupName? (groups : Groups) (text : List Char) : Option (List Char × List Char) :=
  let name := text.takeWhile (· ≠ '>')
  match name, text.dropWhile (· ≠ '>') with
  | c :: others, _ :: rest =>
      if isNameStart c && others.all isNameChar && !groups.names.contains name then
        some (name, rest)
      else none
  | _, _ => none

inductive GroupStart where
  /-- A group, with the flags that hold inside of it and its number, if it has one. -/
  | group (flags : Flags) (number : Option Nat)
  /-- A change of flags for the rest of the group around. -/
  | directive (flags : Flags)

/-- Reads the start of a group after its parenthesis. Groups have numbers, unless they start with
flags. -/
def readGroupStart? (flags : Flags) (groups : Groups) (text : List Char) :
    Option (GroupStart × Groups × List Char) :=
  let numbered := GroupStart.group flags (some (groups.count + 1))
  let named := fun (name, rest) =>
    (numbered, { count := groups.count + 1, names := name :: groups.names }, rest)
  match skipBlanks flags text with
  | '?' :: '=' :: _ => none
  | '?' :: '!' :: _ => none
  | '?' :: '<' :: '=' :: _ => none
  | '?' :: '<' :: '!' :: _ => none
  | '?' :: 'P' :: '<' :: rest => (readGroupName? groups rest).map named
  | '?' :: '<' :: rest => (readGroupName? groups rest).map named
  | '?' :: rest => do
      let (change, rest) ← flags.read false false [] rest
      if change.startsGroup then some (.group change.flags none, groups, rest)
      else if change.isEmpty then none
      else some (.directive change.flags, groups, rest)
  | text => some (numbered, { groups with count := groups.count + 1 }, text)

def groupPart (number : Option Nat) (part : Part) : Part :=
  { expr := match number with
      | some number => .group number part.expr
      | none => part.expr
    depth := part.depth + 1 }

/-- Reads alternatives up to a closing parenthesis or the end. `done` holds the alternatives
before, `parts` the parts of the present one, each last one first. Flags changed by a directive
hold up to the end of the group. Every step takes at least one character, and so does every second
step within a class. -/
def readChoices? : Nat → Flags → Groups → List Part → List Part → List Char →
    Option (Part × Groups × List Char)
  | 0, _, _, _, _, _ => none
  | fuel + 1, flags, groups, done, parts, text =>
      match skipBlanks flags text with
      | [] => some (closeChoices done parts, groups, [])
      | ')' :: rest => some (closeChoices done parts, groups, ')' :: rest)
      | '|' :: rest =>
          readChoices? fuel flags groups (sequencePart parts.reverse :: done) [] rest
      | '(' :: rest => do
          match ← readGroupStart? flags groups rest with
          | (.directive flags, groups, rest) =>
              readChoices? fuel flags groups done
                ({ expr := .empty, isDirective := true } :: parts) rest
          | (.group inner number, groups, rest) => do
              match ← readChoices? fuel inner groups [] [] rest with
              | (part, groups, ')' :: rest) =>
                  readChoices? fuel flags groups done (groupPart number part :: parts) rest
              | _ => none
      | '[' :: rest => do
          let (part, rest) ← readClass? (2 * rest.length + 2) flags rest
          readChoices? fuel flags groups done
            ({ expr := .oneOf part.set, depth := part.depth } :: parts) rest
      | '?' :: rest => do
          let (parts, rest) ← repeatLast? ⟨0, some 1⟩ parts rest
          readChoices? fuel flags groups done parts rest
      | '*' :: rest => do
          let (parts, rest) ← repeatLast? ⟨0, none⟩ parts rest
          readChoices? fuel flags groups done parts rest
      | '+' :: rest => do
          let (parts, rest) ← repeatLast? ⟨1, none⟩ parts rest
          readChoices? fuel flags groups done parts rest
      | '\x7b' :: rest => do
          let (counts, rest) ← readCounts? flags rest
          let (parts, rest) ← repeatLast? counts parts (skipBlanks flags rest)
          readChoices? fuel flags groups done parts rest
      | text => do
          let (expr, rest) ← readAtom? flags text
          readChoices? fuel flags groups done ({ expr } :: parts) rest

def readExpr? (text : List Char) : Option Expr := do
  match ← readChoices? (text.length + 1) {} {} [] [] text with
  | (part, _, []) => if part.depth ≤ maxDepth then some part.expr else none
  | _ => none

end Pattern

end DependencyRules
