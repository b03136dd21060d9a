import DependencyRules.Json.Basic

/-!
# Documents

A document is what a text says before anything is made of it: the entries of an object as often as
they are written, in their order. A part that is well written but denotes no value is `flawed`; it
does no harm where its content is not looked at.
-/

namespace DependencyRules

/-- The content of a text in one of the document formats. -/
inductive Document where
  | null
  | bool (value : Bool)
  | int (value : Int)
  | float (value : Binary64)
  /-- An infinity or a NaN; a format that has them lets them pass as null. -/
  | nonFinite
  | string (value : String)
  | array (items : List Document)
  | object (entries : List (String × Document))
  /-- Well-formed text without a value: a number out of range, half of a surrogate pair, or
  nesting beyond the limit. -/
  | flawed
deriving Inhabited

namespace Document

mutual

/-- The value of a document. Of several entries with one key the last value counts, at the place
of the first. -/
def toJson? : Document → Option Json
  | .null => some .null
  | .bool b => some (.bool b)
  | .int i => some (.int i)
  | .float x => some (.float x)
  | .nonFinite => some .null
  | .string s => some (.string s)
  | .array items => (itemsToJson? items).map .array
  | .object entries => (entriesToJson? [] entries).map .object
  | .flawed => none

def itemsToJson? : List Document → Option (List Json)
  | [] => some []
  | item :: rest => do
      let value ← toJson? item
      let values ← itemsToJson? rest
      return value :: values

/-- The values of the entries, put one after the other into `seen`. -/
def entriesToJson? (seen : List (String × Json)) :
    List (String × Document) → Option (List (String × Json))
  | [] => some seen
  | (key, item) :: rest => do
      let value ← toJson? item
      entriesToJson? (Json.insertEntry seen key value) rest

end

end Document

end DependencyRules
