/-!
# Digits

The values of digits and of rows of digits, in any base up to sixteen.
-/

namespace DependencyRules

namespace Digit

def isDecimal (c : Char) : Bool := '0' ≤ c && c ≤ '9'

/-- The value of a digit; the letters of both cases follow nine. -/
def value? (base : Nat) (c : Char) : Option Nat :=
  let value :=
    if '0' ≤ c ∧ c ≤ '9' then c.toNat - '0'.toNat
    else if 'a' ≤ c ∧ c ≤ 'f' then c.toNat - 'a'.toNat + 10
    else if 'A' ≤ c ∧ c ≤ 'F' then c.toNat - 'A'.toNat + 10
    else base
  if value < base then some value else none

/-- The number that a row of digits denotes, unless one of them is none. -/
def number? (base : Nat) (digits : List Char) : Option Nat :=
  digits.foldlM (fun number c => (value? base c).map (base * number + ·)) 0

/-- The character with a code; surrogates and codes beyond the last one have none. -/
def charOfCode? (code : Nat) : Option Char :=
  if h : code.isValidChar then some (Char.ofNatAux code h) else none

end Digit

end DependencyRules
