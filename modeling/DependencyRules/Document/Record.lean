import DependencyRules.Document.Basic

/-!
# Records in documents

Reading typed values out of a document. A record states its fields by name; a field that is stated
twice is an error, and a field that nobody asks for is either ignored or kept as extra data. A
record without extra data may also be written as the list of its field values.
-/

namespace DependencyRules

/-- The formats that documents are written in. They differ in how a value without content is
written, and in whether a list of field values may be longer than the list of fields. -/
inductive Document.Format where
  | json
  | toml
deriving DecidableEq

class FromDocument (α : Type) where
  ofDocument? : Document.Format → Document → Option α

export FromDocument (ofDocument?)

namespace Document

instance : FromDocument Bool where
  ofDocument?
    | _, .bool b => some b
    | _, _ => none

instance : FromDocument String where
  ofDocument?
    | _, .string s => some s
    | _, _ => none

instance : FromDocument Json where
  ofDocument? _ := toJson?

/-- Counters are unsigned integers of 64 bits. -/
instance : FromDocument Nat where
  ofDocument?
    | _, .int i => if 0 ≤ i ∧ i.toNat < Nat.pow 2 64 then some i.toNat else none
    | _, _ => none

instance {α : Type} [FromDocument α] : FromDocument (List α) where
  ofDocument?
    | format, .array items => items.mapM (ofDocument? format)
    | _, _ => none

/-- Whether a value says nothing: null in JSON, and, as TOML has no null, an empty table or array
there. -/
def isBlank (format : Format) : Document → Bool
  | .null => format = .json
  | .object [] => format = .toml
  | .array [] => format = .toml
  | _ => false

/-- A value that is one of a few words: the word itself, or an object with the word as its only
key and a value that says nothing. -/
def word? (format : Format) : Document → Option String
  | .string s => some s
  | .object [(key, value)] => if value.isBlank format then some key else none
  | _ => none

/-- The fields that a record states, in a document of the given format. -/
structure Fields where
  format : Format
  entries : List (String × Document)

/-- The fields of a record that is written as an object, or as the list of its first field values
in the order of `names`. In TOML further values do no harm. -/
def fields? (format : Format) (names : List String) : Document → Option Fields
  | .object entries => some { format, entries }
  | .array items =>
      if items.length ≤ names.length ∨ format = .toml then
        some { format, entries := names.zip items }
      else none
  | _ => none

/-- The fields of a record that must be written as an object. -/
def entries? (format : Format) : Document → Option Fields
  | .object entries => some { format, entries }
  | _ => none

namespace Fields

/-- The value of a field, if it is stated; stating it twice is an error. -/
def find? (fields : Fields) (name : String) : Option (Option Document) :=
  match fields.entries.filter (fun entry => entry.1 = name) with
  | [] => some none
  | [(_, value)] => some (some value)
  | _ => none

def required {α : Type} [FromDocument α] (fields : Fields) (name : String) : Option α := do
  let value ← fields.find? name
  ofDocument? fields.format (← value)

def withDefault {α : Type} [FromDocument α] (fields : Fields) (name : String) (default : α) :
    Option α := do
  match ← fields.find? name with
  | none => some default
  | some value => ofDocument? fields.format value

/-- A field that may be absent; null says that it is. -/
def optional {α : Type} [FromDocument α] (fields : Fields) (name : String) :
    Option (Option α) := do
  match ← fields.find? name with
  | none => some none
  | some .null => some none
  | some value => (ofDocument? fields.format value).map some

/-- The entries with none of the given names, as pass-through data. -/
def extra? (fields : Fields) (names : List String) : Option (List (String × Json)) :=
  entriesToJson? [] (fields.entries.filter fun entry => !names.contains entry.1)

end Fields

end Document

end DependencyRules
