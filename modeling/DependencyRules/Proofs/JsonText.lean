import DependencyRules.Proofs.JsonScalars

/-!
# Values are read as they are written

A value within the limits of the format, `Json.Fits`, is read back from its text in every layout of
blanks. Reading gives the value as a document, `Document.ofJson`.
-/

namespace DependencyRules

open Document.JsonText

/-! ## Limits -/

/-- The value can be written where an array or object has `depth` levels of nesting: its integers
have 64 bits, it is not nested too deeply, and no key is stated twice. -/
inductive Json.Fits : Nat → Json → Prop
  | null {depth : Nat} : Fits depth .null
  | bool {depth : Nat} (b : Bool) : Fits depth (.bool b)
  | int {depth : Nat} {i : Int} (hi : IsInteger64 i) : Fits depth (.int i)
  | float {depth : Nat} (x : Binary64) : Fits depth (.float x)
  | string {depth : Nat} (s : String) : Fits depth (.string s)
  | array {depth : Nat} {items : List Json} (hdepth : depth ≤ Document.maxDepth)
      (hitems : ∀ item ∈ items, Fits (depth + 1) item) : Fits depth (.array items)
  | object {depth : Nat} {entries : List (String × Json)} (hdepth : depth ≤ Document.maxDepth)
      (hkeys : (entries.map Prod.fst).Nodup)
      (hentries : ∀ entry ∈ entries, Fits (depth + 1) entry.2) : Fits depth (.object entries)

mutual

def Json.floats : Json → List Binary64
  | .float x => [x]
  | .array items => itemFloats items
  | .object entries => entryFloats entries
  | _ => []

def Json.itemFloats : List Json → List Binary64
  | [] => []
  | item :: rest => floats item ++ itemFloats rest

def Json.entryFloats : List (String × Json) → List Binary64
  | [] => []
  | (_, value) :: rest => floats value ++ entryFloats rest

end

mutual

def Document.ofJson : Json → Document
  | .null => .null
  | .bool b => .bool b
  | .int i => .int i
  | .float x => .float x
  | .string s => .string s
  | .array items => .array (ofJsonItems items)
  | .object entries => .object (ofJsonEntries entries)

def Document.ofJsonItems : List Json → List Document
  | [] => []
  | item :: rest => ofJson item :: ofJsonItems rest

def Document.ofJsonEntries : List (String × Json) → List (String × Document)
  | [] => []
  | (key, value) :: rest => (key, ofJson value) :: ofJsonEntries rest

end

namespace Document

@[simp] theorem ofJson_array (items : List Json) :
    ofJson (.array items) = .array (items.map ofJson) := by
  have hitems : ofJsonItems items = items.map ofJson := by
    induction items with
    | nil => rfl
    | cons item rest ih => rw [ofJsonItems, ih, List.map_cons]
  rw [ofJson, hitems]

def entriesOfJson (entries : List (String × Json)) : List (String × Document) :=
  entries.map fun entry => (entry.1, ofJson entry.2)

@[simp] theorem ofJson_object (entries : List (String × Json)) :
    ofJson (.object entries) = .object (entriesOfJson entries) := by
  have hentries : ofJsonEntries entries = entriesOfJson entries := by
    induction entries with
    | nil => rfl
    | cons entry rest ih => rw [ofJsonEntries, ih, entriesOfJson, entriesOfJson, List.map_cons]
  rw [ofJson, hentries]

end Document

namespace Json

theorem mem_floats_array {items : List Json} {item : Json} (hitem : item ∈ items) {x : Binary64}
    (hx : x ∈ item.floats) : x ∈ (array items).floats := by
  rw [floats]
  induction items with
  | nil => cases hitem
  | cons first rest ih =>
      rw [itemFloats, List.mem_append]
      rcases List.mem_cons.1 hitem with rfl | hitem
      · exact .inl hx
      · exact .inr (ih hitem)

theorem mem_floats_object {entries : List (String × Json)} {entry : String × Json}
    (hentry : entry ∈ entries) {x : Binary64} (hx : x ∈ entry.2.floats) :
    x ∈ (object entries).floats := by
  rw [floats]
  induction entries with
  | nil => cases hentry
  | cons first rest ih =>
      rw [entryFloats, List.mem_append]
      rcases List.mem_cons.1 hentry with rfl | hentry
      · exact .inl hx
      · exact .inr (ih hentry)

/-! ## Layouts -/

/-- The layout puts nothing but blanks between the parts of a value. -/
structure Layout.IsBlank (layout : Layout) : Prop where
  lineBreak : ∀ level, ∀ c ∈ layout.lineBreak level, Document.JsonText.isBlank c = true
  gap : ∀ c ∈ layout.gap, Document.JsonText.isBlank c = true

theorem Layout.isBlank_dense : Layout.dense.IsBlank where
  lineBreak := by simp [Layout.dense]
  gap := by simp [Layout.dense]

theorem Layout.isBlank_indented : Layout.indented.IsBlank where
  lineBreak level c hc := by
    rcases List.mem_cons.1 hc with rfl | hc
    · rfl
    · rw [(List.mem_replicate.1 hc).2]
      rfl
  gap := by simp [Layout.indented, Document.JsonText.isBlank]

end Json

/-! ## Reading what is written -/

namespace Document.JsonText

theorem skipBlanks_append {blanks : List Char} (hblanks : ∀ c ∈ blanks, isBlank c = true)
    (text : List Char) : skipBlanks (blanks ++ text) = skipBlanks text := by
  rw [skipBlanks, List.dropWhile_append_of_pos hblanks]
  rfl

theorem endsNumber_append {blanks : List Char} (hblanks : ∀ c ∈ blanks, isBlank c = true)
    {rest : List Char} (hrest : EndsNumber rest) : EndsNumber (blanks ++ rest) := by
  cases blanks with
  | nil => exact hrest
  | cons c blanks =>
      refine endsNumber_cons.2 ?_
      have hc := hblanks c List.mem_cons_self
      simp only [isBlank, Bool.or_eq_true, decide_eq_true_eq] at hc
      rcases hc with ((rfl | rfl) | rfl) | rfl <;> rfl

/-- The text denotes the document wherever it stands, at a level of nesting. -/
def ReadsAs (depth : Nat) (text : List Char) (document : Document) : Prop :=
  ∀ rest, EndsNumber rest → ∀ fuel, 2 * text.length < fuel →
    readValue fuel depth (text ++ rest) = some (document, rest)

theorem readsAs_of_succ {depth : Nat} {text : List Char} {document : Document}
    (h : ∀ rest, EndsNumber rest → ∀ fuel, 2 * text.length ≤ fuel →
      readValue (fuel + 1) depth (text ++ rest) = some (document, rest)) :
    ReadsAs depth text document := by
  intro rest hends fuel hfuel
  obtain ⟨fuel, rfl⟩ : ∃ n, fuel = n + 1 := ⟨fuel - 1, by omega⟩
  exact h rest hends fuel (by omega)

/-- No value starts with a blank or a closing bracket. -/
theorem readValue_head {fuel depth : Nat} {text : List Char} {found : Document × List Char}
    (h : readValue fuel depth text = some found) :
    ∃ c rest, text = c :: rest ∧ isBlank c = false ∧ c ≠ ']' := by
  match fuel, text with
  | 0, _ => cases h
  | fuel + 1, [] => cases h
  | fuel + 1, c :: rest =>
      refine ⟨c, rest, rfl, ?_, ?_⟩
      · by_contra hblank
        simp only [isBlank, Bool.not_eq_false, Bool.or_eq_true, decide_eq_true_eq] at hblank
        rcases hblank with ((rfl | rfl) | rfl) | rfl <;> cases h
      · rintro rfl
        cases h

theorem ReadsAs.head {depth : Nat} {text : List Char} {document : Document}
    (h : ReadsAs depth text document) {rest : List Char} (hends : EndsNumber rest) :
    ∃ c after, text ++ rest = c :: after ∧ isBlank c = false ∧ c ≠ ']' :=
  readValue_head (h rest hends _ (Nat.lt_succ_self _))

theorem ReadsAs.skipBlanks {depth : Nat} {text : List Char} {document : Document}
    (h : ReadsAs depth text document) {rest : List Char} (hends : EndsNumber rest) :
    skipBlanks (text ++ rest) = text ++ rest := by
  obtain ⟨c, after, hcons, hc, -⟩ := h.head hends
  rw [hcons]
  exact skipBlanks_eq_self (by simpa using hc)

/-- An array whose items are read is read. -/
theorem readValue_array {fuel depth : Nat} {text rest : List Char} {items : List Document}
    (hdepth : depth ≤ maxDepth)
    (h : readItems fuel (depth + 1) [] (skipBlanks text) = some (items, rest)) :
    readValue (fuel + 1) depth ('[' :: text) = some (.array items, rest) := by
  have hhead : ∀ after, skipBlanks text ≠ ']' :: after := by
    intro after heq
    cases fuel with
    | zero => cases h
    | succ fuel =>
        obtain ⟨found, hfound, -⟩ := Option.bind_eq_some_iff.1 h
        obtain ⟨c, rest, hcons, -, hc⟩ := readValue_head hfound
        exact hc (List.cons.inj (hcons.symm.trans heq)).1
  rw [readValue]
  split
  · rename_i after heq
    exact absurd heq (hhead after)
  · rw [h]
    simp [nested, hdepth]

/-- An object whose entries are read, with a content for each key, is read. -/
theorem readValue_object {fuel depth : Nat} {text rest : List Char}
    {entries : List (String × Document)} (hdepth : depth ≤ maxDepth)
    (h : readEntries fuel (depth + 1) [] (skipBlanks text) =
      some (entries.map fun entry => (some entry.1, entry.2), rest)) :
    readValue (fuel + 1) depth ('\x7b' :: text) = some (.object entries, rest) := by
  have hhead : ∀ after, skipBlanks text ≠ '\x7d' :: after := by
    intro after heq
    rw [heq] at h
    cases fuel <;> cases h
  have hentries : (entries.map fun entry => (some entry.1, entry.2)).mapM
      (fun entry => entry.1.map fun key => (key, entry.2)) = some entries := by
    clear h
    induction entries with
    | nil => rfl
    | cons entry entries ih => simp [ih]
  rw [readValue]
  split
  · rename_i after heq
    exact absurd heq (hhead after)
  · rw [h]
    simp [nested, hdepth, ofEntries, hentries]

theorem readItems_comma {fuel depth : Nat} {text : List Char} {document : Document}
    (h : ReadsAs depth text document) (hfuel : 2 * text.length < fuel) (seen : List Document)
    (after : List Char) :
    readItems (fuel + 1) depth seen (text ++ ',' :: after) =
      readItems fuel depth (document :: seen) (skipBlanks after) := by
  rw [readItems, h _ (endsNumber_cons.2 rfl) fuel hfuel]
  rfl

theorem readItems_close {fuel depth : Nat} {text : List Char} {document : Document}
    (h : ReadsAs depth text document) (hfuel : 2 * text.length < fuel) (seen : List Document)
    {blanks : List Char} (hblanks : ∀ c ∈ blanks, isBlank c = true) (rest : List Char) :
    readItems (fuel + 1) depth seen (text ++ (blanks ++ ']' :: rest)) =
      some ((document :: seen).reverse, rest) := by
  rw [readItems, h _ (endsNumber_append hblanks (endsNumber_cons.2 rfl)) fuel hfuel]
  dsimp only [Option.bind_eq_bind, Option.bind_some]
  rw [skipBlanks_append hblanks]
  rfl

/-- Reads an entry up to the end of its value. -/
theorem readEntries_value {fuel depth : Nat} {text : List Char} {document : Document}
    (h : ReadsAs depth text document) (hfuel : 2 * text.length < fuel)
    (seen : List (Option String × Document)) (key : String) {gap : List Char}
    (hgap : ∀ c ∈ gap, isBlank c = true) {rest : List Char} (hends : EndsNumber rest) :
    readEntries (fuel + 1) depth seen (Json.quote key ++ ':' :: (gap ++ (text ++ rest))) =
      match skipBlanks rest with
      | ',' :: rest => readEntries fuel depth ((some key, document) :: seen) (skipBlanks rest)
      | '\x7d' :: rest => some (((some key, document) :: seen).reverse, rest)
      | _ => none := by
  have hvalue : readValue fuel depth (skipBlanks (gap ++ (text ++ rest))) =
      some (document, rest) := by
    rw [skipBlanks_append hgap, h.skipBlanks hends, h rest hends fuel hfuel]
  rw [Json.quote, List.cons_append, List.append_assoc, readEntries, List.singleton_append,
    readString_quote]
  show (readValue fuel depth (skipBlanks (gap ++ (text ++ rest)))).bind _ = _
  rw [hvalue]
  rfl

section Parts

variable {layout : Json.Layout} (hlayout : layout.IsBlank) {depth level : Nat}
  {blanks : List Char} (hblanks : ∀ c ∈ blanks, isBlank c = true) (rest : List Char)

include hlayout hblanks

/-- The items of an array are read one by one up to its closing bracket. -/
theorem readItems_itemChars (item : Json) (items : List Json)
    (hitems : ∀ i ∈ item :: items, ReadsAs depth (Json.chars layout level i) (ofJson i)) :
    ∀ (fuel : Nat) (seen : List Document),
      2 * (Json.itemChars layout level (item :: items)).length + 1 < fuel →
      readItems fuel depth seen
          (skipBlanks (Json.itemChars layout level (item :: items) ++ (blanks ++ ']' :: rest))) =
        some (seen.reverse ++ (item :: items).map ofJson, rest) := by
  -- Each item costs a step of the descent; the comma after it pays for the step.
  induction items generalizing item with
  | nil =>
      intro fuel seen hfuel
      obtain ⟨fuel, rfl⟩ : ∃ n, fuel = n + 1 := ⟨fuel - 1, by omega⟩
      have hitem := hitems item List.mem_cons_self
      rw [Json.itemChars, List.length_append] at hfuel
      rw [Json.itemChars, List.append_assoc, skipBlanks_append (hlayout.lineBreak level),
        hitem.skipBlanks (endsNumber_append hblanks (endsNumber_cons.2 rfl)),
        readItems_close hitem (by omega) seen hblanks]
      simp
  | cons next items ih =>
      intro fuel seen hfuel
      obtain ⟨fuel, rfl⟩ : ∃ n, fuel = n + 1 := ⟨fuel - 1, by omega⟩
      have hitem := hitems item List.mem_cons_self
      have hchars : Json.itemChars layout level (item :: next :: items) =
          layout.lineBreak level ++ (Json.chars layout level item ++
            ',' :: Json.itemChars layout level (next :: items)) := by
        rw [Json.itemChars]
        simp
      rw [hchars, List.length_append, List.length_append, List.length_cons] at hfuel
      rw [hchars, List.append_assoc, List.append_assoc, List.cons_append,
        skipBlanks_append (hlayout.lineBreak level), hitem.skipBlanks (endsNumber_cons.2 rfl),
        readItems_comma hitem (by omega), ih next (fun i hi => hitems i (List.mem_cons_of_mem _ hi))
          fuel _ (by omega)]
      simp

/-- The entries of an object are read one by one up to its closing brace. -/
theorem readEntries_entryChars (entry : String × Json) (entries : List (String × Json))
    (hentries : ∀ e ∈ entry :: entries, ReadsAs depth (Json.chars layout level e.2) (ofJson e.2)) :
    ∀ (fuel : Nat) (seen : List (Option String × Document)),
      2 * (Json.entryChars layout level (entry :: entries)).length + 1 < fuel →
      readEntries fuel depth seen
          (skipBlanks (Json.entryChars layout level (entry :: entries) ++
            (blanks ++ '\x7d' :: rest))) =
        some (seen.reverse ++ (entry :: entries).map fun e => (some e.1, ofJson e.2), rest) := by
  have hquote : ∀ key after, skipBlanks (Json.quote key ++ after) = Json.quote key ++ after :=
    fun key after => rfl
  induction entries generalizing entry with
  | nil =>
      intro fuel seen hfuel
      obtain ⟨fuel, rfl⟩ : ∃ n, fuel = n + 1 := ⟨fuel - 1, by omega⟩
      have hvalue := hentries entry List.mem_cons_self
      have hchars : Json.entryChars layout level [entry] = layout.lineBreak level ++
          (Json.quote entry.1 ++ ':' :: (layout.gap ++ Json.chars layout level entry.2)) := by
        rw [Json.entryChars]
      rw [hchars] at hfuel ⊢
      simp only [List.length_append, List.length_cons] at hfuel
      simp only [List.append_assoc, List.cons_append]
      rw [skipBlanks_append (hlayout.lineBreak level), hquote,
        readEntries_value hvalue (by omega) seen entry.1 hlayout.gap
          (endsNumber_append hblanks (endsNumber_cons.2 rfl)), skipBlanks_append hblanks]
      simp [skipBlanks, isBlank]
  | cons next entries ih =>
      intro fuel seen hfuel
      obtain ⟨fuel, rfl⟩ : ∃ n, fuel = n + 1 := ⟨fuel - 1, by omega⟩
      have hvalue := hentries entry List.mem_cons_self
      have hchars : Json.entryChars layout level (entry :: next :: entries) =
          layout.lineBreak level ++ (Json.quote entry.1 ++ ':' :: (layout.gap ++
            (Json.chars layout level entry.2 ++
              ',' :: Json.entryChars layout level (next :: entries)))) := by
        rw [Json.entryChars]
        simp
      rw [hchars] at hfuel ⊢
      simp only [List.length_append, List.length_cons] at hfuel
      simp only [List.append_assoc, List.cons_append]
      rw [skipBlanks_append (hlayout.lineBreak level), hquote,
        readEntries_value hvalue (by omega) seen entry.1 hlayout.gap (endsNumber_cons.2 rfl)]
      have hrest := ih next (fun e he => hentries e (List.mem_cons_of_mem _ he)) fuel
        ((some entry.1, ofJson entry.2) :: seen) (by omega)
      simp only [List.reverse_cons, List.append_assoc, List.singleton_append] at hrest
      exact hrest

end Parts

/-- A value within the limits is read back from its written form. -/
theorem readsAs_chars {layout : Json.Layout} (hlayout : layout.IsBlank) {depth : Nat} {value : Json}
    (hfits : value.Fits depth) (hfloats : ∀ x ∈ value.floats, x.IsReadBack) (level : Nat) :
    ReadsAs depth (Json.chars layout level value) (ofJson value) := by
  -- The level of the layout counts what is around the value in the text, the depth what the reader
  -- has entered; they rise together but start apart.
  induction hfits generalizing level with
  | null => exact readsAs_of_succ fun rest _ fuel _ => rfl
  | bool b =>
      refine readsAs_of_succ fun rest _ fuel _ => ?_
      cases b <;> rfl
  | int hi => exact readsAs_of_succ fun rest hends fuel _ => readValue_intText hi hends fuel _
  | float x =>
      have hx : x.IsReadBack := hfloats x (by simp [Json.floats])
      exact readsAs_of_succ fun rest hends fuel _ => hx.readValue hends fuel _
  | string s =>
      refine readsAs_of_succ fun rest _ fuel _ => ?_
      show readValue (fuel + 1) _ ('"' :: (Json.escape s.toList ++ ['"']) ++ rest) = _
      rw [List.cons_append, List.append_assoc, List.singleton_append, readValue, readString_quote]
      rfl
  | @array depth items hdepth hitems ih =>
      refine readsAs_of_succ fun rest _ fuel hfuel => ?_
      cases items with
      | nil => simp [Json.chars, Json.scalarText, readValue, skipBlanks, isBlank, nested, hdepth]
      | cons item items =>
          have hread : ∀ i ∈ item :: items,
              ReadsAs (depth + 1) (Json.chars layout (level + 1) i) (ofJson i) := fun i hi =>
            ih i hi (fun x hx => hfloats x (Json.mem_floats_array hi hx)) (level + 1)
          rw [Json.chars] at hfuel ⊢
          simp only [List.length_cons, List.length_append] at hfuel
          have hmore := readItems_itemChars hlayout (hlayout.lineBreak level) rest item items hread
            fuel [] (by omega)
          rw [ofJson_array, List.cons_append]
          refine readValue_array hdepth ?_
          simpa using hmore
  | @object depth entries hdepth hkeys hentries ih =>
      refine readsAs_of_succ fun rest _ fuel hfuel => ?_
      cases entries with
      | nil =>
          simp [Json.chars, Json.scalarText, readValue, skipBlanks, isBlank, nested, hdepth,
            entriesOfJson]
      | cons entry entries =>
          have hread : ∀ e ∈ entry :: entries,
              ReadsAs (depth + 1) (Json.chars layout (level + 1) e.2) (ofJson e.2) := fun e he =>
            ih e he (fun x hx => hfloats x (Json.mem_floats_object he hx)) (level + 1)
          rw [Json.chars] at hfuel ⊢
          simp only [List.length_cons, List.length_append] at hfuel
          have hmore := readEntries_entryChars hlayout (hlayout.lineBreak level) rest entry entries
            hread fuel [] (by omega)
          rw [ofJson_object, List.cons_append]
          refine readValue_object hdepth ?_
          simpa [entriesOfJson, Function.comp_def] using hmore

end Document.JsonText

/-- The text of a value within the limits is read as the value, in every layout of blanks. -/
theorem Document.ofJsonText?_textIn {layout : Json.Layout} (hlayout : layout.IsBlank) {value : Json}
    (hfits : value.Fits 1) (hfloats : ∀ x ∈ value.floats, x.IsReadBack) :
    ofJsonText? (value.textIn layout) = some (ofJson value) := by
  have hreads := readsAs_chars hlayout hfits hfloats 0
  have hskip := hreads.skipBlanks endsNumber_nil
  have hvalue := hreads [] endsNumber_nil (2 * (Json.chars layout 0 value).length + 2) (by omega)
  rw [List.append_nil] at hskip hvalue
  rw [ofJsonText?, Json.textIn, String.toList_ofList, hskip]
  dsimp only
  rw [hvalue]
  rfl

end DependencyRules
