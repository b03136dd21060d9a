import DependencyRules.Error

/-!
# Files

What a run needs to know about files: the text at a path, whether anything is found there, and
whether the path can be written. A `FileStore` is a working directory held in memory.
-/

namespace DependencyRules

/-- The files as a run sees them. -/
structure FileSystem where
  read : String → Except FileFailure String
  /-- Whether a path leads to anything. What it leads to need not be readable, and a failure to
  read does not say whether it leads anywhere. -/
  isFound : String → Bool
  write : String → Except FileFailure Unit

inductive FileEntry where
  | file (text : String)
  | directory
deriving DecidableEq

/-- A working directory by the names below it. -/
structure FileStore where
  entries : List (String × FileEntry) := []
deriving DecidableEq

namespace FileStore

def nameOf (place : List String) : String := "/".intercalate place

/-- What stands at a place. A name that continues another one makes that one a directory. -/
def entry? (store : FileStore) (place : List String) : Option FileEntry :=
  if place.isEmpty then some .directory
  else
    match store.entries.find? fun entry => entry.1 = nameOf place with
    | some (_, entry) => some entry
    | none =>
        let start := (nameOf place ++ "/").toList
        if store.entries.any fun entry => start.isPrefixOf entry.1.toList then some .directory
        else none

/-- Whether the steps of a path lead nowhere but upwards. -/
def isUpward (steps : List String) : Bool :=
  steps.all fun step => step = "" || step = "." || step = ".."

/-- Why nothing is found outside the working directory: only directories lie above it. -/
def outside {α : Type} (steps : List String) : Except FileFailure α :=
  if isUpward steps then .error .isDirectory else .error .notFound

/-- Whether steps lead to the null device, which is empty and keeps nothing of what is written. -/
def isNullDevice (steps : List String) : Bool :=
  steps.head? = some "" && steps.getLast? = some "null" &&
    steps.filter (fun step => step ≠ "" ∧ step ≠ ".") = ["dev", "null"]

def maxNameBytes : Nat := 255

def maxPathBytes : Nat := 4095

/-- Follows the steps of a path from a place; each step starts from a directory. -/
def follow (store : FileStore) (place : List String) :
    List String → Except FileFailure (List String)
  | [] => .ok place
  | step :: rest =>
      match store.entry? place with
      | none => .error .notFound
      | some (.file _) => .error .notDirectory
      | some .directory =>
          if step = "" ∨ step = "." then follow store place rest
          else if step = ".." then
            if place.isEmpty then outside rest else follow store place.dropLast rest
          else if maxNameBytes < step.utf8ByteSize then .error .nameTooLong
          else follow store (place ++ [step]) rest

def steps (path : String) : Except FileFailure (List String) :=
  if path.contains '\x00' then .error .nulInName
  else if path.isEmpty then .error .notFound
  else if maxPathBytes < path.utf8ByteSize then .error .nameTooLong
  else .ok (path.splitOn "/")

/-- The place that the steps of a path lead to, from the working directory or, where an empty step
comes first, from the root. -/
def place (store : FileStore) : List String → Except FileFailure (List String)
  | "" :: rest => outside rest
  | steps => store.follow [] steps

def read (store : FileStore) (path : String) : Except FileFailure String := do
  let steps ← steps path
  if isNullDevice steps then return ""
  let place ← store.place steps
  match store.entry? place with
  | none => .error .notFound
  | some .directory => .error .isDirectory
  | some (.file text) => .ok text

def isFound (store : FileStore) (path : String) : Bool :=
  match store.read path with
  | .ok _ | .error .isDirectory => true
  | .error _ => false

def set (store : FileStore) (place : List String) (text : String) : FileStore :=
  let name := nameOf place
  if store.entries.any fun entry => entry.1 = name then
    { entries := store.entries.map fun entry =>
        if entry.1 = name then (name, .file text) else entry }
  else { entries := store.entries ++ [(name, .file text)] }

/-- The steps to the directory of what a path names; separators at the end do not count. -/
def parentSteps (steps : List String) : List String :=
  (steps.reverse.dropWhile (· = "")).tail.reverse ++ ["."]

/-- The working directory after a text has been written to a path. Where the path ends in a
separator it can only name a directory, whatever stands there. -/
def write (store : FileStore) (path text : String) : Except FileFailure FileStore := do
  let steps ← steps path
  if steps.getLast? = some "" then
    let _ ← store.place (parentSteps steps)
    throw .isDirectory
  if isNullDevice steps then return store
  let place ← store.place steps
  match store.entry? place with
  | some .directory => .error .isDirectory
  | _ => .ok (store.set place text)

def toFileSystem (store : FileStore) : FileSystem :=
  { read := store.read
    isFound := store.isFound
    write := fun path => (store.write path "").map fun _ => () }

end FileStore

end DependencyRules
