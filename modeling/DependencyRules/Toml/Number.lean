import DependencyRules.Document.Basic
import DependencyRules.Text.Digit

/-!
# Numbers in TOML

Integers of 64 bits in four bases, and binary64 numbers, rounded to the nearest. An underscore may
stand between two digits. A number too large for binary64 is an error, but one too large below
zero is minus infinity.
-/

namespace DependencyRules

namespace Toml

/-- The digits of a base at the start of a text, without the underscores between them. A first
digit is required before any underscore. -/
def takeDigits (base : Nat) : List Char → List Char × List Char
  | [] => ([], [])
  | '_' :: c :: rest =>
      if (Digit.value? base c).isSome then
        let (digits, rest) := takeDigits base rest
        (c :: digits, rest)
      else ([], '_' :: c :: rest)
  | c :: rest =>
      if (Digit.value? base c).isSome then
        let (digits, rest) := takeDigits base rest
        (c :: digits, rest)
      else ([], c :: rest)

def readDigits? (base : Nat) (text : List Char) : Option (List Char × List Char) :=
  match text with
  | '_' :: _ => none
  | text =>
      match takeDigits base text with
      | ([], _) => none
      | (digits, rest) => some (digits, rest)

def decimalValue (digits : List Char) : Nat := (Digit.number? 10 digits).getD 0

/-- An integer, if it has 64 bits. -/
def integer? (negative : Bool) (magnitude : Nat) : Option Document :=
  if negative then
    if magnitude ≤ Nat.pow 2 63 then some (.int (-(magnitude : Int))) else none
  else if magnitude < Nat.pow 2 63 then some (.int magnitude)
  else none

/-- A binary64 number from its digits, of which `places` stand after the point. -/
def float? (negative : Bool) (digits : List Char) (places : Nat) (exponent : Int) :
    Option Document :=
  match Binary64.ofDecimal negative (decimalValue digits) (exponent - places) with
  | some value => some (.float value)
  | none => if negative then some .nonFinite else none

/-- Reads the digits of an integer: a zero stands alone. -/
def readWhole? : List Char → Option (List Char × List Char)
  | '0' :: rest => some (['0'], rest)
  | text => readDigits? 10 text

def readExponent? : List Char → Option (Int × List Char)
  | '-' :: text => do
      let (digits, rest) ← readDigits? 10 text
      return (-(decimalValue digits : Int), rest)
  | '+' :: text => do
      let (digits, rest) ← readDigits? 10 text
      return ((decimalValue digits : Int), rest)
  | text => do
      let (digits, rest) ← readDigits? 10 text
      return ((decimalValue digits : Int), rest)

/-- Reads a number after its sign. -/
def readUnsigned? (negative : Bool) (text : List Char) : Option (Document × List Char) :=
  match text with
  | 'i' :: 'n' :: 'f' :: rest => some (.nonFinite, rest)
  | 'n' :: 'a' :: 'n' :: rest => some (.nonFinite, rest)
  | text => do
      let (whole, rest) ← readWhole? text
      match rest with
      | '.' :: rest => do
          let (fraction, rest) ← readDigits? 10 rest
          let (exponent, rest) ←
            match rest with
            | 'e' :: rest => readExponent? rest
            | 'E' :: rest => readExponent? rest
            | rest => some (0, rest)
          return (← float? negative (whole ++ fraction) fraction.length exponent, rest)
      | 'e' :: rest => do
          let (exponent, rest) ← readExponent? rest
          return (← float? negative whole 0 exponent, rest)
      | 'E' :: rest => do
          let (exponent, rest) ← readExponent? rest
          return (← float? negative whole 0 exponent, rest)
      | rest => return (← integer? negative (decimalValue whole), rest)

/-- Reads an integer of another base after the letter for the base. -/
def readBased? (base : Nat) (text : List Char) : Option (Document × List Char) := do
  let (digits, rest) ← readDigits? base text
  return (← integer? false (← Digit.number? base digits), rest)

def readNumber? : List Char → Option (Document × List Char)
  | '0' :: 'x' :: rest => readBased? 16 rest
  | '0' :: 'o' :: rest => readBased? 8 rest
  | '0' :: 'b' :: rest => readBased? 2 rest
  | '+' :: rest => readUnsigned? false rest
  | '-' :: rest => readUnsigned? true rest
  | text => readUnsigned? false text

end Toml

end DependencyRules
