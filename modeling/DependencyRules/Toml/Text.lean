import DependencyRules.Text.Digit

/-!
# The lexical elements of TOML

Blanks, comments, strings and keys. Every reader takes the characters that are left and answers
what it read with the characters after it.
-/

namespace DependencyRules

namespace Toml

/-- Blanks within a line. -/
def isBlank (c : Char) : Bool := c = ' ' || c = '\t'

def skipBlanks (text : List Char) : List Char := text.dropWhile isBlank

/-- A character that may stand in a comment or a string: no control character but the tab. -/
def isPlain (c : Char) : Bool :=
  c = '\t' || (' ' ≤ c && c ≤ '~') || 0x80 ≤ c.toNat

/-- Passes over blanks, line ends and comments. -/
def skipTrivia (inComment : Bool) : List Char → List Char
  | [] => []
  | '\n' :: rest => skipTrivia false rest
  | '\r' :: '\n' :: rest => skipTrivia false rest
  | c :: rest =>
      if inComment then if isPlain c then skipTrivia true rest else c :: rest
      else if c = '#' then skipTrivia true rest
      else if isBlank c then skipTrivia false rest
      else c :: rest

def readNewline? : List Char → Option (List Char)
  | '\n' :: rest => some rest
  | '\r' :: '\n' :: rest => some rest
  | _ => none

/-- Reads the remainder of a line: blanks, maybe a comment, and the end of the line or of the
text. -/
def readLineEnd? (text : List Char) : Option (List Char) :=
  let rest :=
    match skipBlanks text with
    | '#' :: comment => comment.dropWhile isPlain
    | rest => rest
  match rest with
  | [] => some []
  | rest => readNewline? rest

def skipNewline (text : List Char) : List Char := (readNewline? text).getD text

def escapedChar? (c : Char) : Option Char :=
  if c = 'b' then some '\x08'
  else if c = 't' then some '\t'
  else if c = 'n' then some '\n'
  else if c = 'f' then some '\x0c'
  else if c = 'r' then some '\r'
  else if c = '"' then some '"'
  else if c = '\\' then some '\\'
  else none

/-- The character with the code that the given digits write. -/
def codedChar? (digits : List Char) : Option Char :=
  (Digit.number? 16 digits).bind Digit.charOfCode?

/-- Reads a string after its opening quote; `chars` holds the characters before, last one first. -/
def readBasic? (chars : List Char) : List Char → Option (String × List Char)
  | [] => none
  | '"' :: rest => some (String.ofList chars.reverse, rest)
  | '\\' :: 'u' :: a :: b :: c :: d :: rest => do
      let coded ← codedChar? [a, b, c, d]
      readBasic? (coded :: chars) rest
  | '\\' :: 'U' :: a :: b :: c :: d :: e :: f :: g :: h :: rest => do
      let coded ← codedChar? [a, b, c, d, e, f, g, h]
      readBasic? (coded :: chars) rest
  | '\\' :: c :: rest => do
      let escaped ← escapedChar? c
      readBasic? (escaped :: chars) rest
  | c :: rest => if isPlain c then readBasic? (c :: chars) rest else none

/-- Whether only blanks stand before the end of the line. -/
def isLineBreak (text : List Char) : Bool := (readNewline? (skipBlanks text)).isSome

/-- Reads a string of several lines after its opening quotes. A backslash at the end of a line
takes away the line end and all blanks and line ends after it, which `trimming` remembers. Up to
two quotes may stand before the closing ones. -/
def readLongBasic? (trimming : Bool) (chars : List Char) : List Char → Option (String × List Char)
  | [] => none
  | '"' :: '"' :: '"' :: '"' :: '"' :: rest =>
      some (String.ofList ('"' :: '"' :: chars).reverse, rest)
  | '"' :: '"' :: '"' :: '"' :: rest => some (String.ofList ('"' :: chars).reverse, rest)
  | '"' :: '"' :: '"' :: rest => some (String.ofList chars.reverse, rest)
  | '\r' :: '\n' :: rest =>
      if trimming then readLongBasic? true chars rest
      else readLongBasic? false ('\n' :: chars) rest
  | '\n' :: rest =>
      if trimming then readLongBasic? true chars rest
      else readLongBasic? false ('\n' :: chars) rest
  | '\\' :: 'u' :: a :: b :: c :: d :: rest => do
      let coded ← codedChar? [a, b, c, d]
      readLongBasic? false (coded :: chars) rest
  | '\\' :: 'U' :: a :: b :: c :: d :: e :: f :: g :: h :: rest => do
      let coded ← codedChar? [a, b, c, d, e, f, g, h]
      readLongBasic? false (coded :: chars) rest
  | '\\' :: c :: rest =>
      if isLineBreak (c :: rest) then readLongBasic? true chars (c :: rest)
      else do
        let escaped ← escapedChar? c
        readLongBasic? false (escaped :: chars) rest
  | c :: rest =>
      if trimming && isBlank c then readLongBasic? true chars rest
      else if isPlain c then readLongBasic? false (c :: chars) rest
      else none

/-- Reads a string without escapes after its opening apostrophe. -/
def readLiteral? (text : List Char) : Option (String × List Char) :=
  let isContent (c : Char) : Bool := c ≠ '\'' && isPlain c
  match text.dropWhile isContent with
  | '\'' :: rest => some (String.ofList (text.takeWhile isContent), rest)
  | _ => none

/-- Reads a string of several lines without escapes after its opening apostrophes. -/
def readLongLiteral? (chars : List Char) : List Char → Option (String × List Char)
  | [] => none
  | '\'' :: '\'' :: '\'' :: '\'' :: '\'' :: rest =>
      some (String.ofList ('\'' :: '\'' :: chars).reverse, rest)
  | '\'' :: '\'' :: '\'' :: '\'' :: rest => some (String.ofList ('\'' :: chars).reverse, rest)
  | '\'' :: '\'' :: '\'' :: rest => some (String.ofList chars.reverse, rest)
  | '\r' :: '\n' :: rest => readLongLiteral? ('\n' :: chars) rest
  | '\n' :: rest => readLongLiteral? ('\n' :: chars) rest
  | c :: rest => if isPlain c then readLongLiteral? (c :: chars) rest else none

/-- Reads a string of any kind. A line end right after the opening of a long string does not
count. -/
def readString? : List Char → Option (String × List Char)
  | '"' :: '"' :: '"' :: rest => readLongBasic? false [] (skipNewline rest)
  | '"' :: rest => readBasic? [] rest
  | '\'' :: '\'' :: '\'' :: rest => readLongLiteral? [] (skipNewline rest)
  | '\'' :: rest => readLiteral? rest
  | _ => none

def isBareKeyChar (c : Char) : Bool :=
  ('a' ≤ c && c ≤ 'z') || ('A' ≤ c && c ≤ 'Z') || Digit.isDecimal c || c = '-' || c = '_'

/-- Reads one part of a key: bare, or a string of one line. -/
def readKeyPart? : List Char → Option (String × List Char)
  | '"' :: rest => readBasic? [] rest
  | '\'' :: rest => readLiteral? rest
  | text =>
      let part := text.takeWhile isBareKeyChar
      if part.isEmpty then none else some (String.ofList part, text.dropWhile isBareKeyChar)

/-- The deepest nesting: one more level, or one more part of a key, is an error. -/
def maxDepth : Nat := 79

/-- Reads the parts of a key with points between them, at most as many as given. -/
def readKeyParts? : Nat → List Char → Option (List String × List Char)
  | 0, _ => none
  | count + 1, text => do
      let (part, rest) ← readKeyPart? (skipBlanks text)
      match skipBlanks rest with
      | '.' :: rest => do
          let (parts, rest) ← readKeyParts? count rest
          return (part :: parts, rest)
      | rest => some ([part], rest)

/-- Reads a key and the blanks around it. -/
def readKey? (text : List Char) : Option (List String × List Char) := readKeyParts? maxDepth text

end Toml

end DependencyRules
