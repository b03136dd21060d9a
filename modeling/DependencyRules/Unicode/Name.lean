import DependencyRules.Unicode.Age
import DependencyRules.Unicode.Segmentation

/-!
# Named sets of characters

Finding a set of characters by the name of a property, a general category or a script. Names are
compared loosely: case, blanks, dashes, underscores and a leading "is" do not count.
-/

namespace DependencyRules

namespace Unicode

/-- A name without what does not count. The name `isc` keeps its first letters, since `c` alone
names a category. -/
def looseName (name : List Char) : String :=
  let (hasIs, rest) :=
    match name with
    | a :: b :: rest => if a.toLower = 'i' ∧ b.toLower = 's' then (true, rest) else (false, name)
    | _ => (false, name)
  let kept := (rest.filter fun c => c.toNat ≤ 0x7F ∧ c ≠ ' ' ∧ c ≠ '_' ∧ c ≠ '-').map Char.toLower
  if hasIs ∧ kept = ['c'] then "isc" else String.ofList kept

def findNamed? (table : List (List String × CharSet)) (name : String) : Option CharSet :=
  (table.find? fun row => row.1.contains name).map Prod.snd

def script? (name : String) : Option ScriptTable :=
  scripts.find? fun script => script.names.contains name

/-- The set with a name that says no more: a binary property, a general category or a script. -/
def namedSet? (name : List Char) : Option CharSet :=
  let name := looseName name
  (findNamed? properties name).or
    ((findNamed? categories name).or ((script? name).map ScriptTable.set))

/-- The set of a property that has the given value. -/
def propertySet? (property value : List Char) : Option CharSet :=
  let property := looseName property
  let value := looseName value
  if property = "gc" ∨ property = "generalcategory" then findNamed? categories value
  else if property = "sc" ∨ property = "script" then (script? value).map ScriptTable.set
  else if property = "scx" ∨ property = "scriptextensions" then
    (script? value).map ScriptTable.extendedSet
  else if property = "age" then ageSet? value
  else if property = "gcb" ∨ property = "graphemeclusterbreak" then
    findNamed? clusterBreaks value
  else if property = "wb" ∨ property = "wordbreak" then findNamed? wordBreaks value
  else if property = "sb" ∨ property = "sentencebreak" then findNamed? sentenceBreaks value
  else none

end Unicode

end DependencyRules
