import DependencyRules.Pattern.Basic
import DependencyRules.Pattern.Meter

/-!
# The size of an expression

Matching is promised to be cheap, so an expression may not grow without bounds: its automaton has
to fit into ten megabytes, and so has the one that reads backward. Repetitions count as often as
their body has to be written out.
-/

namespace DependencyRules

namespace Expr

/-- The number of bytes that every match has at least; there is none if nothing can match. -/
def minLength? : Expr → Option Nat
  | .empty => some 0
  | .oneOf set => set.ranges.head?.map fun range => (CharSet.utf8Bytes range.1).length
  | .look _ => some 0
  | .group _ body => body.minLength?
  | .seq first second => do return (← first.minLength?) + (← second.minLength?)
  | .alt left right => do return min (← left.minLength?) (← right.minLength?)
  | .times body least _ _ => body.minLength?.map (· * least)

/-- Whether every match starts at a position with the given property. -/
def startsWith (condition : Look) : Expr → Bool
  | .empty => false
  | .oneOf _ => false
  | .look other => other = condition
  | .group _ body => body.startsWith condition
  | .seq first second =>
      first.startsWith condition || first.onlyEmpty && second.startsWith condition
  | .alt left right => left.startsWith condition && right.startsWith condition
  | .times body least _ _ => 0 < least && body.startsWith condition

/-- Whether every match ends at a position with the given property. -/
def endsWith (condition : Look) : Expr → Bool
  | .empty => false
  | .oneOf _ => false
  | .look other => other = condition
  | .group _ body => body.endsWith condition
  | .seq first second => second.endsWith condition || second.onlyEmpty && first.endsWith condition
  | .alt left right => left.endsWith condition && right.endsWith condition
  | .times body least _ _ => 0 < least && body.endsWith condition

/-- The bytes of an expression that is a certain text; the empty text does not count. -/
def textBytes? (e : Expr) : Option (List Nat) :=
  match e.parts with
  | [] => none
  | parts => (parts.mapM code?).map fun codes => codes.flatMap CharSet.utf8Bytes

/-- The texts of an expression that is a choice between certain texts. -/
def texts? (e : Expr) : Option (List (List Nat)) :=
  match e.alternatives with
  | [_] => none
  | alternatives => alternatives.mapM textBytes?

/-- Adds the automata of alternatives, given as what adds each of them. Where there are several, a
state to choose from and a common end come after the second. -/
def addChoice : List (Meter → Meter) → Meter → Meter
  | [], meter => meter
  | [one], meter => one meter
  | first :: second :: rest, meter =>
      let meter := ((second (first meter)).addAlternatives (rest.length + 2)).add 1
      rest.foldl (fun meter one => one meter) meter

/-- Adds the automaton of an expression, given what adds each of its alternatives. -/
def addAs (direction : Direction) (e : Expr) (alternatives : List (Meter → Meter)) :
    Meter → Meter :=
  match e.texts? with
  | some texts => Meter.addTexts direction texts
  | none => addChoice alternatives

/-- Adds the automaton of a repetition, given what adds its body. `takes` says that the body takes
at least one byte. -/
def addRepetition (body : Meter → Meter) (takes : Bool) :
    Nat → Option Nat → Meter → Meter
  | 0, some 1, meter => (body (meter.addAlternatives 2)).add 1
  | 0, none, meter =>
      if takes then body (meter.addAlternatives 2)
      else (((body meter).addAlternatives 2).addAlternatives 2).add 1
  | least, none, meter => (meter.addTimes body least).addAlternatives 2
  | least, some most, meter =>
      let meter := if least = 0 then meter.add 1 else meter.addTimes body least
      if least = most then meter
      else (meter.add 1).addTimes (fun meter => body (meter.addAlternatives 2)) (most - least)

/-- What adds the automata of the alternatives of an expression. Groups leave a mark on both sides
when they are read forward. -/
def measures (direction : Direction) : Expr → List (Meter → Meter)
  | .empty => [Meter.add 1]
  | .oneOf set => [Meter.addSet direction set]
  | .look _ => [Meter.add 1]
  | .group _ body =>
      let body := body.addAs direction (body.measures direction)
      match direction with
      | .forward => [fun meter => (body (meter.add 1)).add 1]
      | .backward => [body]
  | .seq first second =>
      let first := first.addAs direction (first.measures direction)
      let second := second.addAs direction (second.measures direction)
      match direction with
      | .forward => [fun meter => second (first meter)]
      | .backward => [fun meter => first (second meter)]
  | .alt left right =>
      left.addAs direction (left.measures direction) :: right.measures direction
  | .times body least most _ =>
      let takes := body.minLength?.any (0 < ·)
      [addRepetition (body.addAs direction (body.measures direction)) takes least most]

/-- The automaton of an expression. Unless every match is at the end where reading starts, it can
start anywhere. Forward, the whole match is marked like a group. -/
def meter (direction : Direction) (e : Expr) : Meter :=
  let anchored :=
    match direction with
    | .forward => e.startsWith .start
    | .backward => e.endsWith .stop
  let start : Meter :=
    if anchored then Meter.add 1 {} else ((Meter.addAlternatives 2 {}).add 1).addTransitions 1
  let body := e.addAs direction (e.measures direction)
  match direction with
  | .forward => (body (start.add 1)).add 2
  | .backward => (body start).add 1

/-- The number of texts from which on they are looked up one by one, without an automaton. -/
def manyTexts : Nat := 3000

def fits (e : Expr) : Bool :=
  e.texts?.any (manyTexts ≤ ·.length) ||
    (e.meter .forward).fits && (e.meter .backward).fits

end Expr

end DependencyRules
