import DependencyRules.Number.Binary64

/-!
# The shortest decimal of a binary64 number

A number is written with the fewest decimal digits that read back as the same number; of two such
decimals the nearer one is taken. `Binary64.shortest` finds the digits and `Binary64.text` lays
them out.
-/

namespace DependencyRules

namespace Binary64

/-- The decimal `digits * 10 ^ exponent`. -/
structure Decimal where
  digits : Nat
  exponent : Int
deriving DecidableEq

/-- The largest `e` with `10 ^ e ≤ numerator / denominator`, for positive arguments. -/
def floorLog10 (numerator denominator : Nat) : Int :=
  let estimate : Int := (decimalLength numerator : Int) - (decimalLength denominator : Int)
  let reached :=
    if 0 ≤ estimate then denominator * Nat.pow 10 estimate.toNat ≤ numerator
    else denominator ≤ numerator * Nat.pow 10 (-estimate).toNat
  if reached then estimate else estimate - 1

/-- Whether the decimal reads back as the magnitude of `x`. -/
def readsBack (x : Binary64) (decimal : Decimal) : Bool :=
  ofDecimal x.negative decimal.digits decimal.exponent = some x

/-- The neighbours of `x` among the multiples of `10 ^ exponent`, the nearer one first. A value in
the middle prefers the even neighbour. -/
def neighbours (x : Binary64) (exponent : Int) : List Decimal :=
  let (numerator, denominator) :=
    if 0 ≤ exponent then (x.ratio.1, x.ratio.2 * Nat.pow 10 exponent.toNat)
    else (x.ratio.1 * Nat.pow 10 (-exponent).toNat, x.ratio.2)
  let below := numerator / denominator
  let nearest := roundDiv numerator denominator
  let other := if nearest = below then below + 1 else below
  [⟨nearest, exponent⟩, ⟨other, exponent⟩]

/-- The first decimal that reads back, with `tried + 1`, `tried + 2`, … digits. -/
def shortestFrom (x : Binary64) (leading : Int) : Nat → Nat → Option Decimal
  | 0, _ => none
  | fuel + 1, tried =>
      match (neighbours x (leading - tried)).find? (readsBack x) with
      | some decimal => some decimal
      | none => shortestFrom x leading fuel (tried + 1)

/-- The exact value of `x` as a decimal: a power of two in the denominator is cleared by the same
power of five. -/
def exactDecimal (x : Binary64) : Decimal :=
  if 0 ≤ x.exponent then ⟨x.significand * Nat.pow 2 x.exponent.toNat, 0⟩
  else ⟨x.significand * Nat.pow 5 (-x.exponent).toNat, x.exponent⟩

/-- The shortest decimal that reads back as `x`. Seventeen digits always suffice; the exact
decimal stands behind them. -/
def shortest (x : Binary64) : Decimal :=
  if x.significand = 0 then ⟨0, 0⟩
  else
    let leading := floorLog10 x.ratio.1 x.ratio.2
    (shortestFrom x leading 17 0).getD (exactDecimal x)

/-- The digits without the zeros at their end, and how many zeros those were. -/
def dropTrailingZeros (digits : List Char) : List Char × Nat :=
  let kept := (digits.reverse.dropWhile (· = '0')).reverse
  (kept, digits.length - kept.length)

/-- Whether a number whose leading digit has weight `10 ^ e` is written without an exponent. -/
def isPositional (e : Int) : Bool := -5 ≤ e && e < 16

/-- The digits of a number whose leading digit has weight `10 ^ e`, written out. A fraction is
always present in positional notation, and an exponent always has a sign. -/
def layout (digits : List Char) (e : Int) : List Char :=
  if isPositional e then
    if e < 0 then
      '0' :: '.' :: (List.replicate (-e - 1).toNat '0' ++ digits)
    else
      let whole := e.toNat + 1
      if digits.length ≤ whole then
        digits ++ List.replicate (whole - digits.length) '0' ++ ['.', '0']
      else
        digits.take whole ++ '.' :: digits.drop whole
  else
    let mantissa :=
      match digits with
      | [] => ['0']
      | [d] => [d]
      | d :: rest => d :: '.' :: rest
    let sign := if e < 0 then '-' else '+'
    mantissa ++ 'e' :: sign :: Nat.toDigits 10 e.natAbs

/-- The text of a number: its sign, and the shortest digits that read back. -/
def text (x : Binary64) : List Char :=
  let decimal := x.shortest
  let digits := Nat.toDigits 10 decimal.digits
  let (kept, _) := dropTrailingZeros digits
  let magnitude :=
    if decimal.digits = 0 then ['0', '.', '0']
    else layout kept (decimal.exponent + (digits.length - 1 : Nat))
  if x.negative then '-' :: magnitude else magnitude

end Binary64

end DependencyRules
