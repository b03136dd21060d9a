import DependencyRules.Pattern.Escape

/-!
# Bracketed classes

Reading `[...]`: characters, ranges, named classes and further classes, joined or combined by
`&&`, `--` and `~~`, which all bind equally and from the left.
-/

namespace DependencyRules

namespace Pattern

/-- How two parts of a class are combined. -/
inductive SetOperation where
  | intersection
  | difference
  | symmetricDifference

def SetOperation.apply : SetOperation → CharSet → CharSet → CharSet
  | .intersection => CharSet.inter
  | .difference => CharSet.difference
  | .symmetricDifference => CharSet.symmetricDifference

/-- A part of a class, and how deeply parts are nested in it. -/
structure ClassPart where
  set : CharSet
  depth : Nat

/-- The items read so far of a part of a class. -/
structure ClassUnion where
  set : CharSet := .empty
  count : Nat := 0
  depth : Nat := 0

def ClassUnion.push (union : ClassUnion) (part : ClassPart) : ClassUnion :=
  ⟨union.set.union part.set, union.count + 1, max union.depth part.depth⟩

/-- The items as one part; several items are one level deeper than each of them. -/
def ClassUnion.toPart (union : ClassUnion) : ClassPart :=
  ⟨union.set, if union.count ≤ 1 then union.depth else union.depth + 1⟩

/-- An operation that waits for its second part. -/
structure PendingOperation where
  operation : SetOperation
  first : ClassPart

def finishOperation (flags : Flags) (pending : Option PendingOperation) (second : ClassPart) :
    ClassPart :=
  match pending with
  | none => second
  | some ⟨operation, first⟩ =>
      ⟨operation.apply (foldCase flags first.set) (foldCase flags second.set),
        max first.depth second.depth + 1⟩

def asciiClass? (name : String) : Option CharSet :=
  if name = "alnum" then some (.unions [.range '0' '9', .range 'A' 'Z', .range 'a' 'z'])
  else if name = "alpha" then some (.unions [.range 'A' 'Z', .range 'a' 'z'])
  else if name = "ascii" then some .ascii
  else if name = "blank" then some (.unions [.single '\t', .single ' '])
  else if name = "cntrl" then some (.unions [.range '\x00' '\x1f', .single '\x7f'])
  else if name = "digit" then some asciiDigit
  else if name = "graph" then some (.range '!' '~')
  else if name = "lower" then some (.range 'a' 'z')
  else if name = "print" then some (.range ' ' '~')
  else if name = "punct" then
    some (.unions [.range '!' '/', .range ':' '@', .range '[' '\x60', .range '\x7b' '~'])
  else if name = "space" then some asciiSpace
  else if name = "upper" then some (.range 'A' 'Z')
  else if name = "word" then some asciiWord
  else if name = "xdigit" then
    some (.unions [.range '0' '9', .range 'A' 'F', .range 'a' 'f'])
  else none

/-- A named class of ASCII, written as `[:name:]` or `[:^name:]`. -/
structure AsciiClass where
  set : CharSet
  negated : Bool

/-- Reads a named class after its opening bracket, if there is one. -/
def readAsciiClass? : List Char → Option (AsciiClass × List Char)
  | ':' :: rest =>
      let (negated, rest) :=
        match rest with
        | '^' :: rest => (true, rest)
        | rest => (false, rest)
      let name := rest.takeWhile (· ≠ ':')
      match rest.dropWhile (· ≠ ':') with
      | ':' :: ']' :: rest =>
          (asciiClass? (String.ofList name)).map fun set => (⟨set, negated⟩, rest)
      | _ => none
  | _ => none

/-- The character that the next part of a class would start with, after one that is still to be
passed. Where blanks do not count, a hash is passed over once. -/
def peekAfter (flags : Flags) (rest : List Char) : Option Char :=
  if flags.ignoreBlanks then
    let afterBlanks := rest.dropWhile Unicode.whiteSpace.contains
    match afterBlanks with
    | '#' :: comment => (comment.dropWhile Unicode.whiteSpace.contains).head?.or rest.head?
    | _ => afterBlanks.head?.or rest.head?
  else rest.head?

/-- A character in a class. Without Unicode it must be of ASCII. -/
def classChar? (flags : Flags) (c : Char) : Option Char :=
  if flags.unicode || c.toNat ≤ 0x7F then some c else none

/-- Reads one end of a range, or a class that is named by an escape sequence. -/
def readClassAtom? (flags : Flags) : List Char → Option (Atom × List Char)
  | [] => none
  | '\\' :: rest => readEscape? flags rest
  | c :: rest => some (.char c false, rest)

/-- An item of a class that is no range. -/
def atomPart? (flags : Flags) : Atom → Option ClassPart
  | .char c _ => (classChar? flags c).map fun c => ⟨.single c, 0⟩
  | .set set => some ⟨set, 0⟩
  | .look _ => none

/-- The character at an end of a range. -/
def atomChar? (flags : Flags) : Atom → Option Char
  | .char c _ => classChar? flags c
  | _ => none

/-- Reads a character, a range or an escaped class. A dash is an end of a range unless a bracket or
another dash follows. -/
def readClassItem? (flags : Flags) (text : List Char) : Option (ClassPart × List Char) := do
  let (first, rest) ← readClassAtom? flags text
  match skipBlanks flags rest with
  | [] => none
  | '-' :: rest =>
      if peekAfter flags rest = some ']' ∨ peekAfter flags rest = some '-' then
        return (← atomPart? flags first, '-' :: rest)
      else do
        let (second, rest) ← readClassAtom? flags (skipBlanks flags rest)
        let low ← atomChar? flags first
        let high ← atomChar? flags second
        if low ≤ high then some (⟨.range low high, 0⟩, rest) else none
  | rest => return (← atomPart? flags first, rest)

/-- Reads the dashes that a class may start with; each stands for itself. -/
def readLeadingDashes? (flags : Flags) (union : ClassUnion) :
    Nat → List Char → Option (ClassUnion × List Char)
  | 0, _ => none
  | _ + 1, [] => none
  | fuel + 1, c :: rest =>
      if c = '-' then
        readLeadingDashes? flags (union.push ⟨.single '-', 0⟩) fuel (skipBlanks flags rest)
      else some (union, c :: rest)

/-- Reads the start of a class after its bracket: a caret negates, and then dashes or one closing
bracket stand for themselves. -/
def readClassStart? (flags : Flags) (text : List Char) :
    Option (Bool × ClassUnion × List Char) := do
  let (negated, text) ←
    match skipBlanks flags text with
    | [] => none
    | '^' :: rest => some (true, skipBlanks flags rest)
    | text => some (false, text)
  let (union, text) ← readLeadingDashes? flags {} (text.length + 1) text
  match text with
  | ']' :: rest =>
      if union.count = 0 then
        match skipBlanks flags rest with
        | [] => none
        | rest => some (negated, union.push ⟨.single ']', 0⟩, rest)
      else some (negated, union, text)
  | text => some (negated, union, text)

mutual

def readClass? : Nat → Flags → List Char → Option (ClassPart × List Char)
  | 0, _, _ => none
  | fuel + 1, flags, text => do
      let (negated, union, text) ← readClassStart? flags text
      let (part, rest) ← readClassItems? fuel flags none union text
      let set ← foldAndNegate? flags negated part.set
      return (⟨set, part.depth + 1⟩, rest)

def readClassItems? : Nat → Flags → Option PendingOperation → ClassUnion → List Char →
    Option (ClassPart × List Char)
  | 0, _, _, _, _ => none
  | fuel + 1, flags, pending, union, text =>
      let next (operation : SetOperation) (rest : List Char) :=
        readClassItems? fuel flags
          (some ⟨operation, finishOperation flags pending union.toPart⟩) {} rest
      match skipBlanks flags text with
      | [] => none
      | '[' :: rest =>
          match readAsciiClass? rest with
          | some (named, rest) => do
              let set ← foldAndNegate? flags named.negated named.set
              readClassItems? fuel flags pending (union.push ⟨set, 0⟩) rest
          | none => do
              let (part, rest) ← readClass? fuel flags rest
              readClassItems? fuel flags pending (union.push part) rest
      | ']' :: rest => some (finishOperation flags pending union.toPart, rest)
      | '&' :: '&' :: rest => next .intersection rest
      | '-' :: '-' :: rest => next .difference rest
      | '~' :: '~' :: rest => next .symmetricDifference rest
      | text => do
          let (part, rest) ← readClassItem? flags text
          readClassItems? fuel flags pending (union.push part) rest

end

end Pattern

end DependencyRules
