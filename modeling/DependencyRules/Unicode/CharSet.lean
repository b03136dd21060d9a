/-!
# Sets of characters

A set of characters as ranges of code points, in ascending order and with gaps between them.
-/

namespace DependencyRules

/-- A set of characters: the code points of the ranges, both ends included. -/
structure CharSet where
  ranges : List (Nat × Nat)
deriving DecidableEq

namespace CharSet

def maxCode : Nat := 0x10FFFF

def empty : CharSet := ⟨[]⟩

def all : CharSet := ⟨[(0, maxCode)]⟩

def ascii : CharSet := ⟨[(0, 0x7F)]⟩

/-- The code points that are halves of pairs and stand for no character. -/
def surrogates : CharSet := ⟨[(0xD800, 0xDFFF)]⟩

def range (low high : Char) : CharSet := ⟨[(low.toNat, high.toNat)]⟩

def single (c : Char) : CharSet := range c c

/-- The code of the only character of a set, if it has just one. -/
def code? (set : CharSet) : Option Nat :=
  match set.ranges with
  | [(low, high)] => if low = high then some low else none
  | _ => none

def contains (set : CharSet) (c : Char) : Bool :=
  set.ranges.any fun r => r.1 ≤ c.toNat && c.toNat ≤ r.2

/-- Two lists of ranges in ascending order as one; `fuel` bounds their length together. -/
def mergeRanges : Nat → List (Nat × Nat) → List (Nat × Nat) → List (Nat × Nat)
  | 0, as, bs => as ++ bs
  | _ + 1, [], bs => bs
  | _ + 1, as, [] => as
  | fuel + 1, a :: as, b :: bs =>
      if a.1 ≤ b.1 then a :: mergeRanges fuel as (b :: bs) else b :: mergeRanges fuel (a :: as) bs

/-- Joins ranges in ascending order that meet or overlap; `r` is the range so far. -/
def coalesceFrom (r : Nat × Nat) : List (Nat × Nat) → List (Nat × Nat)
  | [] => [r]
  | s :: rest =>
      if s.1 ≤ r.2 + 1 then coalesceFrom (r.1, max r.2 s.2) rest else r :: coalesceFrom s rest

def coalesce : List (Nat × Nat) → List (Nat × Nat)
  | [] => []
  | r :: rest => coalesceFrom r rest

def union (a b : CharSet) : CharSet :=
  ⟨coalesce (mergeRanges (a.ranges.length + b.ranges.length) a.ranges b.ranges)⟩

def unions (sets : List CharSet) : CharSet := sets.foldr union empty

/-- The ranges between the given ones, from `next` on. -/
def gaps (next : Nat) : List (Nat × Nat) → List (Nat × Nat)
  | [] => if next ≤ maxCode then [(next, maxCode)] else []
  | r :: rest => if next < r.1 then (next, r.1 - 1) :: gaps (r.2 + 1) rest else gaps (r.2 + 1) rest

def complement (set : CharSet) : CharSet := ⟨gaps 0 set.ranges⟩

def inter (a b : CharSet) : CharSet := (a.complement.union b.complement).complement

def difference (a b : CharSet) : CharSet := a.inter b.complement

def symmetricDifference (a b : CharSet) : CharSet := (a.union b).difference (a.inter b)

def ofChars (chars : List Char) : CharSet :=
  ⟨coalesce ((chars.mergeSort fun a b => a ≤ b).map fun c => (c.toNat, c.toNat))⟩

def isAscii (set : CharSet) : Bool := set.ranges.all fun r => r.2 ≤ 0x7F

/-- The words of a text, divided by single spaces. -/
def words (text : List Char) : List (List Char) :=
  text.foldr (fun c found =>
    if c = ' ' then [] :: found
    else
      match found with
      | [] => [[c]]
      | word :: rest => (c :: word) :: rest) [[]]

/-- The number that upper case hexadecimal digits denote. -/
def hexNumber (digits : List Char) : Nat :=
  digits.foldl (fun value c =>
    16 * value + (if c ≤ '9' then c.toNat - '0'.toNat else c.toNat - 'A'.toNat + 10)) 0

/-- The range that a word of a table denotes: a code point, or two with a dash between them. -/
def tableRange (word : List Char) : Nat × Nat :=
  let low := word.takeWhile (· ≠ '-')
  match word.dropWhile (· ≠ '-') with
  | _ :: high => (hexNumber low, hexNumber high)
  | [] => (hexNumber low, hexNumber low)

/-- The set that the lines of a table denote: ranges of code points in ascending order, divided by
spaces. -/
def ofTable (table : List String) : CharSet :=
  ⟨coalesce ((table.flatMap fun line => words line.toList).map tableRange)⟩

end CharSet

end DependencyRules
