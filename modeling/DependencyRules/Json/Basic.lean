import DependencyRules.Number.Binary64

/-!
# JSON values

The values that a document carries through unchanged and that reports are made of. An object keeps
its entries in order, and an integer is told apart from a fractional number.
-/

namespace DependencyRules

inductive Json where
  | null
  | bool (value : Bool)
  | int (value : Int)
  | float (value : Binary64)
  | string (value : String)
  | array (items : List Json)
  | object (entries : List (String × Json))
deriving Inhabited

namespace Json

mutual

/-- Structural equality of values; entries are compared in order. -/
def beq : Json → Json → Bool
  | .null, .null => true
  | .bool a, .bool b => a == b
  | .int a, .int b => a == b
  | .float a, .float b => a == b
  | .string a, .string b => a == b
  | .array a, .array b => beqItems a b
  | .object a, .object b => beqEntries a b
  | _, _ => false

def beqItems : List Json → List Json → Bool
  | [], [] => true
  | a :: as, b :: bs => beq a b && beqItems as bs
  | _, _ => false

def beqEntries : List (String × Json) → List (String × Json) → Bool
  | [], [] => true
  | (j, a) :: as, (k, b) :: bs => j == k && beq a b && beqEntries as bs
  | _, _ => false

end

instance : BEq Json := ⟨beq⟩

mutual

theorem eq_of_beq : ∀ {a b : Json}, beq a b = true → a = b
  | .null, b, h => by cases b <;> simp_all [beq]
  | .bool _, b, h => by cases b <;> simp_all [beq]
  | .int _, b, h => by cases b <;> simp_all [beq]
  | .float _, b, h => by cases b <;> simp_all [beq]
  | .string _, b, h => by cases b <;> simp_all [beq]
  | .array _, .array _, h => congrArg Json.array (eq_of_beqItems (by simpa [beq] using h))
  | .object _, .object _, h => congrArg Json.object (eq_of_beqEntries (by simpa [beq] using h))

theorem eq_of_beqItems : ∀ {as bs : List Json}, beqItems as bs = true → as = bs
  | [], [], _ => rfl
  | a :: as, b :: bs, h => by
      simp only [beqItems, Bool.and_eq_true] at h
      rw [eq_of_beq h.1, eq_of_beqItems h.2]

theorem eq_of_beqEntries :
    ∀ {as bs : List (String × Json)}, beqEntries as bs = true → as = bs
  | [], [], _ => rfl
  | (j, a) :: as, (k, b) :: bs, h => by
      simp only [beqEntries, Bool.and_eq_true, beq_iff_eq] at h
      rw [h.1.1, eq_of_beq h.1.2, eq_of_beqEntries h.2]

end

mutual

theorem beq_refl : ∀ a : Json, beq a a = true
  | .null => rfl
  | .bool _ => by simp [beq]
  | .int _ => by simp [beq]
  | .float _ => by simp [beq]
  | .string _ => by simp [beq]
  | .array as => by simpa [beq] using beqItems_refl as
  | .object as => by simpa [beq] using beqEntries_refl as

theorem beqItems_refl : ∀ as : List Json, beqItems as as = true
  | [] => rfl
  | a :: as => by simp [beqItems, beq_refl a, beqItems_refl as]

theorem beqEntries_refl : ∀ as : List (String × Json), beqEntries as as = true
  | [] => rfl
  | (_, a) :: as => by simp [beqEntries, beq_refl a, beqEntries_refl as]

end

instance : LawfulBEq Json where
  eq_of_beq := eq_of_beq
  rfl := beq_refl _

instance : DecidableEq Json := fun a b =>
  if h : beq a b then isTrue (eq_of_beq h)
  else isFalse fun hab => h (hab ▸ beq_refl a)

/-- Entries with `value` at `key`: an earlier value of the same key is replaced where it stands,
a new key goes to the end. -/
def insertEntry (entries : List (String × Json)) (key : String) (value : Json) :
    List (String × Json) :=
  match entries with
  | [] => [(key, value)]
  | (other, old) :: rest =>
      if other = key then (key, value) :: rest
      else (other, old) :: insertEntry rest key value

def lookup (key : String) : List (String × Json) → Option Json
  | [] => none
  | (other, value) :: rest => if other = key then some value else lookup key rest

theorem lookup_insertEntry (entries : List (String × Json)) (key probe : String) (value : Json) :
    lookup probe (insertEntry entries key value) =
      if probe = key then some value else lookup probe entries := by
  induction entries with
  | nil => simp [insertEntry, lookup, eq_comm]
  | cons entry rest ih =>
      obtain ⟨other, old⟩ := entry
      by_cases hother : other = key
      · subst hother
        by_cases hprobe : probe = other <;> simp [insertEntry, lookup, hprobe, Ne.symm]
      · by_cases hprobe : other = probe
        · subst hprobe
          simp [insertEntry, lookup, hother]
        · simp [insertEntry, lookup, hother, hprobe, ih]

/-- The entries of an object from its fields; a field without a value is left out. -/
def stated (fields : List (String × Option Json)) : List (String × Json) :=
  fields.filterMap fun field => field.2.map fun value => (field.1, value)

/-- An object from its fields, with further entries after them. -/
def record (fields : List (String × Option Json)) (extra : List (String × Json) := []) : Json :=
  .object (stated fields ++ extra)

/-- An array, or no value when it would be empty. -/
def nonEmptyArray : List Json → Option Json
  | [] => none
  | items => some (.array items)

def strings (texts : List String) : Json := .array (texts.map .string)

end Json

end DependencyRules
