import DependencyRules.Unicode.CharSet

/-!
# Regular expressions

The expressions that patterns are made of. An expression describes the texts between two positions
of a larger text; `Look` describes positions.
-/

namespace DependencyRules

/-- A condition on a position of a text. Conditions on words say which letters count: all of them
or those of ASCII only. -/
inductive Look where
  | start
  | stop
  | lineStart
  | lineStop
  /-- A line may also end in a carriage return. -/
  | anyLineStart
  | anyLineStop
  | wordBoundary (unicode : Bool)
  | noWordBoundary (unicode : Bool)
  | wordStart (unicode : Bool)
  | wordStop (unicode : Bool)
  | noWordBefore (unicode : Bool)
  | noWordAfter (unicode : Bool)
deriving DecidableEq

/-- A regular expression. Sequences and choices are nested to the right: `sequence` and `choice`
make no sequence whose first part is a sequence, and no choice whose first alternative is one. -/
inductive Expr where
  | empty
  | oneOf (set : CharSet)
  /-- The empty text at a position with the given property. -/
  | look (condition : Look)
  /-- An expression that has been given a number. -/
  | group (number : Nat) (body : Expr)
  | seq (first second : Expr)
  | alt (left right : Expr)
  /-- An expression at least `least` times, and at most `most` times if that is given. A reluctant
  repetition prefers fewer times, which says something about the order of matches only. -/
  | times (body : Expr) (least : Nat) (most : Option Nat) (reluctant : Bool)
deriving DecidableEq

namespace Expr

/-- Whether only the empty text matches, whatever stands around it. -/
def onlyEmpty : Expr → Bool
  | .empty => true
  | .oneOf _ => false
  | .look _ => true
  | .group _ body => body.onlyEmpty
  | .seq first second => first.onlyEmpty && second.onlyEmpty
  | .alt left right => left.onlyEmpty && right.onlyEmpty
  | .times body _ most _ => body.onlyEmpty || most = some 0

/-- Repetition. An expression that takes no characters need not be tried more than once. -/
def repeated (body : Expr) (least : Nat) (most : Option Nat) (reluctant : Bool) : Expr :=
  let least := if body.onlyEmpty then min least 1 else least
  let most := if body.onlyEmpty then some (min (most.getD 1) 1) else most
  if most = some 0 then .empty
  else if least = 1 ∧ most = some 1 then body
  else .times body least most reluctant

/-- The parts of a sequence. The empty text adds nothing to one. -/
def parts : Expr → List Expr
  | .empty => []
  | .seq first second => first.parts ++ second.parts
  | e => [e]

def ofParts : List Expr → Expr
  | [] => .empty
  | [e] => e
  | e :: rest => .seq e (ofParts rest)

def sequence (exprs : List Expr) : Expr := ofParts (exprs.flatMap parts)

def alternatives : Expr → List Expr
  | .alt left right => left.alternatives ++ right.alternatives
  | e => [e]

def ofAlternatives : List Expr → Expr
  | [] => .oneOf .empty
  | [e] => e
  | e :: rest => .alt e (ofAlternatives rest)

/-- The set that an expression takes one character of. -/
def set? : Expr → Option CharSet
  | .oneOf set => some set
  | _ => none

/-- The code of the only character that an expression takes. -/
def code? (e : Expr) : Option Nat := e.set?.bind CharSet.code?

/-- Whether an expression takes a certain character. -/
def isChar (e : Expr) : Bool := e.code?.isSome

/-- Whether an expression takes a character of a set that does not have just one. -/
def isClass (e : Expr) : Bool := e.set?.isSome && !e.isChar

/-- One of several expressions. Single characters make a set, and so do sets. -/
def anyOf (exprs : List Expr) : Expr :=
  let alternatives := exprs.flatMap alternatives
  if alternatives.all isChar || alternatives.all isClass then
    .oneOf (.unions (alternatives.filterMap set?))
  else ofAlternatives alternatives

/-- The parts of a sequence, where characters that follow each other make one part. -/
def elements (e : Expr) : List Expr :=
  (e.parts.splitBy fun a b => a.isChar && b.isChar).map ofParts

/-- The length of the part that two lists have in common at their start. -/
def commonLength {α : Type} [DecidableEq α] : List α → List α → Nat
  | a :: as, b :: bs => if a = b then commonLength as bs + 1 else 0
  | _, _ => 0

/-- One of several expressions. When all of them are sequences that start alike, what they share
comes first and the choice is between what is left. -/
def choice (exprs : List Expr) : Expr :=
  let alternatives := exprs.flatMap alternatives
  match alternatives.map elements with
  | first :: second :: rest =>
      let others := second :: rest
      let shared := others.foldl (fun length other => min length (commonLength first other))
        first.length
      if 0 < shared && (first :: others).all fun elements => 2 ≤ elements.length then
        sequence (first.take shared ++
          [anyOf ((first :: others).map fun elements => sequence (elements.drop shared))])
      else anyOf alternatives
  | _ => anyOf alternatives

end Expr

end DependencyRules
