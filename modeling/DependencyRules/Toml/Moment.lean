import DependencyRules.Text.Digit

/-!
# Dates and times in TOML

A date, a time of day, or both with an offset. A moment is kept as its text in normal form: a `T`
between date and time, no zeros at the end of a fraction of a second and at most nine digits in it,
a capital `Z`, and no negative zero offset.
-/

namespace DependencyRules

namespace Toml

/-- Reads two digits whose value lies in a range. -/
def readTwo? (least greatest : Nat) : List Char → Option (Nat × List Char)
  | a :: b :: rest => do
      let value ← Digit.number? 10 [a, b]
      if least ≤ value ∧ value ≤ greatest then some (value, rest) else none
  | _ => none

def twoDigits (value : Nat) : String :=
  String.ofList [Nat.digitChar (value / 10), Nat.digitChar (value % 10)]

def isLeapYear (year : Nat) : Bool := year % 4 = 0 && (year % 100 ≠ 0 || year % 400 = 0)

def daysInMonth (year month : Nat) : Nat :=
  if month = 2 then if isLeapYear year then 29 else 28
  else if [4, 6, 9, 11].contains month then 30
  else 31

def readDate? : List Char → Option (String × List Char)
  | a :: b :: c :: d :: '-' :: text => do
      let year ← Digit.number? 10 [a, b, c, d]
      let (month, rest) ← readTwo? 1 12 text
      match rest with
      | '-' :: rest => do
          let (day, rest) ← readTwo? 1 (daysInMonth year month) rest
          some (String.ofList [a, b, c, d] ++ "-" ++ twoDigits month ++ "-" ++ twoDigits day,
            rest)
      | _ => none
  | _ => none

/-- The most digits that a fraction of a second keeps. -/
def fractionDigits : Nat := 9

def fractionText (digits : List Char) : String :=
  let kept := ((digits.take fractionDigits).reverse.dropWhile (· = '0')).reverse
  if kept.isEmpty then "" else "." ++ String.ofList kept

def readFraction (text : List Char) : String × List Char :=
  match text with
  | '.' :: rest =>
      let digits := rest.takeWhile Digit.isDecimal
      if digits.isEmpty then ("", text)
      else (fractionText digits, rest.dropWhile Digit.isDecimal)
  | _ => ("", text)

/-- Reads a time of day; a leap second may follow the last one of a minute. -/
def readTime? (text : List Char) : Option (String × List Char) := do
  let (hour, rest) ← readTwo? 0 23 text
  match rest with
  | ':' :: rest => do
      let (minute, rest) ← readTwo? 0 59 rest
      match rest with
      | ':' :: rest => do
          let (second, rest) ← readTwo? 0 60 rest
          let (fraction, rest) := readFraction rest
          some (twoDigits hour ++ ":" ++ twoDigits minute ++ ":" ++ twoDigits second ++ fraction,
            rest)
      | _ => none
  | _ => none

/-- Reads the hours and minutes of an offset after its sign. -/
def readOffset? (negative : Bool) (text : List Char) : Option (String × List Char) := do
  let (hour, rest) ← readTwo? 0 23 text
  match rest with
  | ':' :: rest => do
      let (minute, rest) ← readTwo? 0 59 rest
      let sign := if negative ∧ 0 < hour + minute then "-" else "+"
      some (sign ++ twoDigits hour ++ ":" ++ twoDigits minute, rest)
  | _ => none

def readZone (text : List Char) : String × List Char :=
  match text with
  | 'Z' :: rest => ("Z", rest)
  | 'z' :: rest => ("Z", rest)
  | '+' :: rest => (readOffset? false rest).getD ("", text)
  | '-' :: rest => (readOffset? true rest).getD ("", text)
  | _ => ("", text)

def readTimeOfDate? : List Char → Option (String × List Char)
  | [] => none
  | mark :: rest => do
      if mark = 'T' ∨ mark = 't' ∨ mark = ' ' then
        let (time, rest) ← readTime? rest
        let (zone, rest) := readZone rest
        some ("T" ++ time ++ zone, rest)
      else none

/-- Reads a date, a time, or both. -/
def readMoment? (text : List Char) : Option (String × List Char) :=
  match readDate? text with
  | some (date, rest) =>
      match readTimeOfDate? rest with
      | some (time, rest) => some (date ++ time, rest)
      | none => some (date, rest)
  | none => readTime? text

end Toml

end DependencyRules
