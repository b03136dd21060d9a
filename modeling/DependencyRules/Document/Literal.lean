import DependencyRules.Document.Basic

/-!
# Number literals

A literal is kept as its digits until its value is asked for. An integer of 64 bits stays an
integer. Any other literal becomes a binary64 number from its leading digits, as many as fit into
64 bits, multiplied or divided by a power of ten in binary64 arithmetic.
-/

namespace DependencyRules

/-- A decimal literal: sign, digits before and after the point, and a written exponent. -/
structure NumberLiteral where
  negative : Bool
  whole : List Char
  fraction : Option (List Char)
  exponent : Option Int

namespace NumberLiteral

def digitValue (c : Char) : Nat := c.toNat - '0'.toNat

def digitsValue (digits : List Char) : Nat :=
  digits.foldl (fun value c => 10 * value + digitValue c) 0

def wordMax : Nat := Nat.pow 2 64 - 1

/-- Appends digits to a number as long as it fits into 64 bits; also answers how many digits are
left over. -/
def absorb (value : Nat) : List Char → Nat × Nat
  | [] => (value, 0)
  | c :: rest =>
      let next := 10 * value + digitValue c
      if wordMax < next then (value, rest.length + 1) else absorb next rest

def powerOfTen (exponent : Nat) : Option Binary64 :=
  Binary64.ofDecimal false 1 exponent

def greatestPower : Nat := 308

/-- Multiplies by a power of ten, in several divisions when the exponent is very small. Zero stays
zero whatever the exponent. -/
def scale (value : Binary64) (exponent : Int) : Nat → Option Binary64
  | 0 => some value
  | fuel + 1 =>
      if exponent.natAbs ≤ greatestPower then do
        let power ← powerOfTen exponent.natAbs
        if 0 ≤ exponent then value.mul power else value.div power
      else if value.significand = 0 then some value
      else if 0 ≤ exponent then none
      else do
        let power ← powerOfTen greatestPower
        let smaller ← value.div power
        scale smaller (exponent + greatestPower) fuel

/-- The binary64 number of a literal, `none` when it is too large. -/
def toBinary64? (literal : NumberLiteral) : Option Binary64 := do
  let (leading, skipped) := absorb 0 literal.whole
  let fraction := literal.fraction.getD []
  let (digits, unread) := absorb leading fraction
  let exponent : Int :=
    (skipped : Int) - ((fraction.length - unread : Nat) : Int) + literal.exponent.getD 0
  let start ← Binary64.ofRatio literal.negative digits 1
  scale start exponent (exponent.natAbs / greatestPower + 1)

/-- The value of a literal. Minus zero is a binary64 number, because no integer has that sign. -/
def toDocument (literal : NumberLiteral) : Document :=
  let magnitude := digitsValue literal.whole
  let isInteger := literal.fraction.isNone && literal.exponent.isNone &&
    (if literal.negative then 0 < magnitude && magnitude ≤ Nat.pow 2 63 else magnitude ≤ wordMax)
  if isInteger then .int (if literal.negative then -(magnitude : Int) else magnitude)
  else
    match literal.toBinary64? with
    | some value => .float value
    | none => .flawed

end NumberLiteral

end DependencyRules
