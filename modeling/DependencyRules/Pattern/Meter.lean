import DependencyRules.Pattern.Utf8
import Std.Data.HashMap

/-!
# Measuring automata

How much room an automaton over the bytes of UTF-8 takes. Nothing is built: a `Meter` counts the
states, which are numbered in the order in which they come into being, and the room that their
lists of transitions take. Sets of characters share equal states as far as a table of bounded size
remembers them.
-/

namespace DependencyRules

/-- The direction in which an automaton reads. -/
inductive Direction where
  | forward
  | backward
deriving DecidableEq

/-- The states of an automaton and the bytes that their lists take. -/
structure Meter where
  states : Nat := 0
  extra : Nat := 0
deriving DecidableEq

namespace Meter

/-- The size of a state, in bytes, without its list. -/
def stateSize : Nat := 32

def transitionSize : Nat := 8

def alternativeSize : Nat := 4

def limit : Nat := 10 * 1024 * 1024

def size (meter : Meter) : Nat := stateSize * meter.states + meter.extra

def fits (meter : Meter) : Bool := meter.size ≤ limit

def add (count : Nat) (meter : Meter) : Meter := { meter with states := meter.states + count }

def addTransitions (count : Nat) (meter : Meter) : Meter :=
  { states := meter.states + 1, extra := meter.extra + transitionSize * count }

def addAlternatives (count : Nat) (meter : Meter) : Meter :=
  { states := meter.states + 1, extra := meter.extra + alternativeSize * count }

/-- Adds the same a number of times, or until it is too much. -/
def addTimes (part : Meter → Meter) : Nat → Meter → Meter
  | 0, meter => meter
  | count + 1, meter => if meter.fits then addTimes part count (part meter) else meter

end Meter

/-- A table of states. Each has a slot that depends on what it is, and a later state takes the slot
of an earlier one. -/
structure StateTable where
  slotCount : Nat
  slots : Std.HashMap Nat (List Nat × Nat) := {}

namespace StateTable

/-- A number of 64 bits for a description of a state. -/
def mix (description : List Nat) : UInt64 :=
  description.foldl (fun mixed n => (mixed ^^^ n.toUInt64) * 1099511628211) 14695981039346656037

def slot (table : StateTable) (description : List Nat) : Nat :=
  (mix description).toNat % table.slotCount

/-- The number of the state of the given description, if the table remembers it. -/
def find? (table : StateTable) (description : List Nat) : Option Nat :=
  match table.slots[table.slot description]? with
  | some (known, state) => if known = description then some state else none
  | none => none

def insert (table : StateTable) (description : List Nat) (state : Nat) : StateTable :=
  { table with slots := table.slots.insert (table.slot description) (description, state) }

end StateTable

/-- An automaton for a set of characters while its states are found. -/
structure Assembly where
  meter : Meter
  table : StateTable

namespace Assembly

/-- The state of the given description: a remembered one, or a new one made by `make`. -/
def state (make : Meter → Meter) (description : List Nat) (assembly : Assembly) :
    Nat × Assembly :=
  match assembly.table.find? description with
  | some state => (state, assembly)
  | none =>
      let state := assembly.meter.states
      (state, { meter := make assembly.meter, table := assembly.table.insert description state })

/-- Groups neighbouring sequences that start with the same range; the groups hold what follows. -/
def groups : List ByteRanges → List ((Nat × Nat) × List ByteRanges)
  | [] => []
  | [] :: rest => groups rest
  | (range :: ranges) :: rest =>
      match groups rest with
      | (next, followers) :: others =>
          if range = next then (range, ranges :: followers) :: others
          else (range, [ranges]) :: (next, followers) :: others
      | [] => [(range, [ranges])]

/-- The state from which the sequences lead to `target`. A state for each range of a sequence comes
after another, so the length of the sequences bounds the depth. -/
def stateFor (target : Nat) : Nat → List ByteRanges → Assembly → Nat × Assembly
  | 0, _, assembly => (target, assembly)
  | depth + 1, sequences, assembly =>
      match groups sequences with
      | [] => (target, assembly)
      | found =>
          let (description, assembly) := found.foldl
            (fun (description, assembly) (range, followers) =>
              let (next, assembly) := stateFor target depth followers assembly
              (description ++ [range.1, range.2, next], assembly))
            ([], assembly)
          assembly.state (Meter.addTransitions found.length) description

/-- The state from which the ranges lead to `target` when they are read from the last to the
first. -/
def stateBackward (target : Nat) (ranges : ByteRanges) (assembly : Assembly) : Nat × Assembly :=
  ranges.foldl
    (fun (next, assembly) range =>
      assembly.state (Meter.add 1) [next, range.1, range.2])
    (target, assembly)

end Assembly

namespace Meter

def maxBytes : Nat := 4

/-- Adds an automaton for one character of a set beyond ASCII, given as sequences. Forward, states
with a list of ranges lead to a common end. Backward, each sequence is an alternative of its
own. -/
def addSequences (direction : Direction) (sequences : List ByteRanges) (meter : Meter) : Meter :=
  match direction with
  | .forward =>
      let target := meter.states
      let start : Assembly := { meter := meter.add 1, table := { slotCount := 10000 } }
      (Assembly.stateFor target maxBytes sequences start).2.meter
  | .backward =>
      let target := meter.states + 1
      let start : Assembly :=
        { meter := (meter.addAlternatives sequences.length).add 1
          table := { slotCount := 1000 } }
      (sequences.foldl (fun assembly ranges => (assembly.stateBackward target ranges).2)
        start).meter

/-- Adds an automaton for one character of a set: a state for each byte of a single character, and
one with a list of ranges for a set of ASCII. -/
def addSet (direction : Direction) (set : CharSet) : Meter → Meter :=
  match set.code? with
  | some code => add (CharSet.utf8Bytes code).length
  | none =>
      if set.isAscii then fun meter => (meter.add 1).addTransitions set.ranges.length
      else
        let sequences := set.utf8Sequences
        addSequences direction sequences

/-- Divides texts where one of them ends. An end at the very start counts once. -/
def chunks (texts : List (List Nat)) : List (List (List Nat)) :=
  match texts with
  | [] :: rest => [] :: divide (rest.dropWhile List.isEmpty)
  | texts => divide texts
where
  /-- Divides texts at each empty one. -/
  divide : List (List Nat) → List (List (List Nat))
    | [] => [[]]
    | [] :: rest => [] :: divide rest
    | text :: rest =>
        match divide rest with
        | chunk :: others => (text :: chunk) :: others
        | [] => [[text]]

/-- Adds the states for what is left of some texts: one for the alternatives, one for the bytes of
each chunk, and those for what follows each byte. The length of the texts bounds the depth. -/
def addTails : Nat → List (List Nat) → Meter → Meter
  | 0, _, meter => meter
  | depth + 1, texts, meter =>
      if texts.all List.isEmpty then meter
      else
        let chunks := chunks texts
        let filled := chunks.filter fun chunk => !chunk.isEmpty
        filled.foldl
          (fun meter chunk =>
            let bytes := (chunk.filterMap List.head?).eraseDups
            let meter := if bytes.length = 1 then meter.add 1 else meter.addTransitions bytes.length
            bytes.foldl
              (fun meter byte =>
                let followers := chunk.filter fun text => text.head? = some byte
                addTails depth (followers.map List.tail) meter)
              meter)
          (meter.addAlternatives (filled.length + chunks.length - 1))

/-- Adds an automaton for one of several texts, given as bytes. -/
def addTexts (direction : Direction) (texts : List (List Nat)) (meter : Meter) : Meter :=
  let texts :=
    match direction with
    | .forward => texts
    | .backward => texts.map List.reverse
  addTails (texts.foldl (fun length text => max length text.length) 0) texts (meter.add 1)

end Meter

end DependencyRules
