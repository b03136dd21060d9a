import DependencyRules.Document.Basic

/-!
# Tables under construction

A TOML text builds up tables piece by piece. How a table came about decides what may still be added
to it: a table is stated at most once, and dotted keys add only to tables that dotted keys made.
-/

namespace DependencyRules

namespace Toml

/-- How a table came about. -/
inductive Origin where
  /-- By a dotted key. -/
  | dotted
  /-- As a step of the path in a header. -/
  | implied
  /-- By a header of its own. -/
  | stated
deriving DecidableEq

inductive Node where
  /-- A value, to which nothing can be added. -/
  | value (document : Document)
  | table (origin : Origin) (entries : List (String × Node))
  /-- The tables of an array, the newest first. -/
  | tables (items : List Node)

abbrev Entries := List (String × Node)

namespace Entries

def find? (entries : Entries) (key : String) : Option Node :=
  (List.find? (fun entry => entry.1 = key) entries).map Prod.snd

def add (entries : Entries) (key : String) (node : Node) : Entries := entries ++ [(key, node)]

def set (entries : Entries) (key : String) (node : Node) : Entries :=
  entries.map fun entry => if entry.1 = key then (key, node) else entry

def remove (entries : Entries) (key : String) : Entries :=
  entries.filter fun entry => entry.1 ≠ key

/-- Puts a value at a dotted key. A new table on the way is a dotted one; the table that takes the
value must be dotted, and no stated table may be passed, unless it is the newest of an array. -/
def insert? (value : Document) : List String → Entries → Option Entries
  | [], _ => none
  | [key], entries =>
      match entries.find? key with
      | none => some (entries.add key (.value value))
      | some _ => none
  | key :: next :: rest, entries =>
      match entries.find? key with
      | none => do
          let inner ← insert? value (next :: rest) []
          return entries.add key (.table .dotted inner)
      | some (.table origin inner) =>
          if origin = .stated ∨ (origin = .implied ∧ rest = []) then none
          else do
            let inner ← insert? value (next :: rest) inner
            return entries.set key (.table origin inner)
      | some (.tables (.table origin newest :: earlier)) =>
          if rest = [] then none
          else do
            let newest ← insert? value (next :: rest) newest
            return entries.set key (.tables (.table origin newest :: earlier))
      | some _ => none

/-- Changes the table at the path of a header. A new table on the way is an implied one; of an
array, the newest table is meant. -/
def modifyAt? (change : Entries → Option Entries) : List String → Entries → Option Entries
  | [], entries => change entries
  | key :: rest, entries =>
      match entries.find? key with
      | none => do
          let inner ← modifyAt? change rest []
          return entries.add key (.table .implied inner)
      | some (.table origin inner) => do
          let inner ← modifyAt? change rest inner
          return entries.set key (.table origin inner)
      | some (.tables (.table origin newest :: earlier)) => do
          let newest ← modifyAt? change rest newest
          return entries.set key (.tables (.table origin newest :: earlier))
      | some _ => none

/-- States a table. An implied one becomes stated and moves to the end. -/
def state? (key : String) (entries : Entries) : Option Entries :=
  match entries.find? key with
  | none => some (entries.add key (.table .stated []))
  | some (.table .implied inner) => some ((entries.remove key).add key (.table .stated inner))
  | some _ => none

/-- Starts a new table of an array. -/
def push? (key : String) (entries : Entries) : Option Entries :=
  match entries.find? key with
  | none => some (entries.add key (.tables [.table .stated []]))
  | some (.tables items) => some (entries.set key (.tables (.table .stated [] :: items)))
  | some _ => none

end Entries

mutual

/-- The document that a node denotes. -/
def Node.toDocument : Node → Document
  | .value document => document
  | .table _ entries => .object (entriesToDocument entries)
  | .tables items => .array (nodesToDocument items).reverse

def entriesToDocument : List (String × Node) → List (String × Document)
  | [] => []
  | (key, node) :: rest => (key, node.toDocument) :: entriesToDocument rest

def nodesToDocument : List Node → List Document
  | [] => []
  | node :: rest => node.toDocument :: nodesToDocument rest

end

end Toml

end DependencyRules
