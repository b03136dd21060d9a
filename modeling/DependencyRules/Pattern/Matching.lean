import DependencyRules.Pattern.Basic
import DependencyRules.Unicode.Property

/-!
# Matching

An expression maps a set of positions of a text to the set of positions where a match that starts
in the given set can end. Sets of positions are natural numbers: position `i` belongs to a set when
bit `i` is set. The work for a text grows with the length of the text and not with the number of
ways to match it.
-/

namespace DependencyRules

namespace Look

def isWord (unicode : Bool) (c : Char) : Bool :=
  if unicode then Unicode.wordChar.contains c else c.isAlphanum || c = '_'

def hasWord (unicode : Bool) (c : Option Char) : Bool := c.any (isWord unicode)

/-- Whether the condition holds between two neighbouring characters; at an end of the text there
is no neighbour. -/
def holds (before after : Option Char) : Look → Bool
  | .start => before.isNone
  | .stop => after.isNone
  | .lineStart => before.isNone || before = some '\n'
  | .lineStop => after.isNone || after = some '\n'
  | .anyLineStart =>
      before.isNone || before = some '\n' || (before = some '\r' && after ≠ some '\n')
  | .anyLineStop =>
      after.isNone || after = some '\r' || (after = some '\n' && before ≠ some '\r')
  | .wordBoundary unicode => hasWord unicode before != hasWord unicode after
  | .noWordBoundary unicode => hasWord unicode before == hasWord unicode after
  | .wordStart unicode => !hasWord unicode before && hasWord unicode after
  | .wordStop unicode => hasWord unicode before && !hasWord unicode after
  | .noWordBefore unicode => !hasWord unicode before
  | .noWordAfter unicode => !hasWord unicode after

end Look

/-- The positions before the characters that have a property. -/
def charMask (test : Char → Bool) : List Char → Nat
  | [] => 0
  | c :: rest => (if test c then 1 else 0) + 2 * charMask test rest

/-- The positions that have a property, which may look at the characters on both sides. -/
def positionMask (test : Option Char → Option Char → Bool) (before : Option Char) :
    List Char → Nat
  | [] => if test before none then 1 else 0
  | c :: rest => (if test before (some c) then 1 else 0) + 2 * positionMask test (some c) rest

/-- An expression for one text: sets of characters and conditions are replaced by the positions
where they hold. -/
inductive Located where
  | empty
  /-- Moves on from each of the given positions. -/
  | step (mask : Nat)
  /-- Stays at each of the given positions. -/
  | guard (mask : Nat)
  | seq (first second : Located)
  | alt (left right : Located)
  | times (body : Located) (least : Nat) (most : Option Nat)

namespace Expr

def locate (text : List Char) : Expr → Located
  | .empty => .empty
  | .oneOf set => .step (charMask set.contains text)
  | .look condition =>
      .guard (positionMask (fun before after => condition.holds before after) none text)
  | .group _ body => body.locate text
  | .seq first second => .seq (first.locate text) (second.locate text)
  | .alt left right => .alt (left.locate text) (right.locate text)
  | .times body least most _ => .times (body.locate text) least most

end Expr

namespace Located

/-- Applies `f` a number of times, or until no position is left. -/
def iterate (f : Nat → Nat) : Nat → Nat → Nat
  | 0, positions => positions
  | count + 1, positions => if positions = 0 then 0 else iterate f count (f positions)

/-- The positions reached from `start` by applying `f` at most `count` times, given those reached
so far. Stops as soon as nothing is added. -/
def reach (f : Nat → Nat) (start : Nat) : Nat → Nat → Nat
  | 0, reached => reached
  | count + 1, reached =>
      let next := start ||| f reached
      if next = reached then reached else reach f start count next

/-- The ends of the matches that start at the given positions, in a text of the given length. -/
def ends (length : Nat) : Located → Nat → Nat
  | .empty, positions => positions
  | .step mask, positions => (positions &&& mask) <<< 1
  | .guard mask, positions => positions &&& mask
  | .seq first second, positions => second.ends length (first.ends length positions)
  | .alt left right, positions => left.ends length positions ||| right.ends length positions
  | .times body least most, positions =>
      let start := iterate (body.ends length) least positions
      let count :=
        match most with
        | some most => most - least
        | none => length + 1
      reach (body.ends length) start count start

end Located

namespace Expr

def matchesSomewhere (e : Expr) (text : List Char) : Bool :=
  (e.locate text).ends text.length (Nat.pow 2 (text.length + 1) - 1) ≠ 0

end Expr

end DependencyRules
