import DependencyRules.Proofs.JsonText
import DependencyRules.Proofs.Lists

/-!
# Documents within the limits

Whatever is read from a text is within the limits of the format, `Document.Fits`, and so is the
value it has. Of the entries with one key the value keeps the last, so its keys are all different,
and written as a document it has itself as its value.
-/

namespace DependencyRules

open Document.JsonText

/-- What a document has in common with the values that can be written; its keys may repeat. -/
inductive Document.Fits : Nat → Document → Prop
  | null {depth : Nat} : Fits depth .null
  | bool {depth : Nat} (b : Bool) : Fits depth (.bool b)
  | int {depth : Nat} {i : Int} (hi : IsInteger64 i) : Fits depth (.int i)
  | float {depth : Nat} (x : Binary64) : Fits depth (.float x)
  | string {depth : Nat} (s : String) : Fits depth (.string s)
  | array {depth : Nat} {items : List Document} (hdepth : depth ≤ Document.maxDepth)
      (hitems : ∀ item ∈ items, Fits (depth + 1) item) : Fits depth (.array items)
  | object {depth : Nat} {entries : List (String × Document)} (hdepth : depth ≤ Document.maxDepth)
      (hentries : ∀ entry ∈ entries, Fits (depth + 1) entry.2) : Fits depth (.object entries)
  | flawed {depth : Nat} : Fits depth .flawed

namespace Json

theorem insertEntry_of_notMem {entries : List (String × Json)} {key : String}
    (h : key ∉ entries.map Prod.fst) (value : Json) :
    insertEntry entries key value = entries ++ [(key, value)] := by
  induction entries with
  | nil => rfl
  | cons entry entries ih =>
      rw [List.map_cons, List.mem_cons, not_or] at h
      rw [insertEntry, if_neg (Ne.symm h.1), ih h.2, List.cons_append]

theorem mem_insertEntry {entries : List (String × Json)} {key : String} {value : Json}
    {entry : String × Json} (h : entry ∈ insertEntry entries key value) :
    entry ∈ entries ∨ entry = (key, value) := by
  induction entries with
  | nil => exact .inr (List.mem_singleton.1 h)
  | cons first entries ih =>
      rw [insertEntry] at h
      split at h
      · rcases List.mem_cons.1 h with rfl | h
        · exact .inr rfl
        · exact .inl (List.mem_cons_of_mem _ h)
      · rcases List.mem_cons.1 h with rfl | h
        · exact .inl List.mem_cons_self
        · exact (ih h).imp_left (List.mem_cons_of_mem _)

theorem nodup_keys_insertEntry {entries : List (String × Json)} (key : String) (value : Json)
    (h : (entries.map Prod.fst).Nodup) : ((insertEntry entries key value).map Prod.fst).Nodup := by
  induction entries with
  | nil => simp [insertEntry]
  | cons first entries ih =>
      rw [List.map_cons, List.nodup_cons] at h
      rw [insertEntry]
      split
      · rename_i heq
        rw [List.map_cons, List.nodup_cons, ← heq]
        exact h
      · rename_i hne
        rw [List.map_cons, List.nodup_cons]
        refine ⟨fun hmem => ?_, ih h.2⟩
        obtain ⟨entry, hentry, hkey⟩ := List.mem_map.1 hmem
        rcases mem_insertEntry hentry with hentry | rfl
        · exact h.1 (hkey ▸ List.mem_map_of_mem hentry)
        · exact hne hkey.symm

end Json

namespace Document

/-! ## A value as a document -/

theorem itemsToJson?_map_ofJson {items : List Json}
    (h : ∀ item ∈ items, (ofJson item).toJson? = some item) :
    itemsToJson? (items.map ofJson) = some items := by
  induction items with
  | nil => rfl
  | cons item items ih =>
      have hitem := h item List.mem_cons_self
      have hitems := ih fun i hi => h i (List.mem_cons_of_mem _ hi)
      simp [itemsToJson?, hitem, hitems]

/-- Entries with different keys are put one after the other. -/
theorem entriesToJson?_entriesOfJson {entries : List (String × Json)}
    (h : ∀ entry ∈ entries, (ofJson entry.2).toJson? = some entry.2) {seen : List (String × Json)}
    (hkeys : ((seen ++ entries).map Prod.fst).Nodup) :
    entriesToJson? seen (entriesOfJson entries) = some (seen ++ entries) := by
  induction entries generalizing seen with
  | nil => simp [entriesOfJson, entriesToJson?]
  | cons entry entries ih =>
      have hnew : entry.1 ∉ seen.map Prod.fst := by
        rw [List.map_append, List.map_cons] at hkeys
        exact fun hmem => (List.nodup_append.1 hkeys).2.2 _ hmem _ List.mem_cons_self rfl
      have hmove : seen ++ entry :: entries = (seen ++ [(entry.1, entry.2)]) ++ entries := by simp
      rw [hmove] at hkeys ⊢
      rw [entriesOfJson, List.map_cons, entriesToJson?, h entry List.mem_cons_self]
      dsimp only [Option.bind_eq_bind, Option.bind_some]
      rw [Json.insertEntry_of_notMem hnew]
      exact ih (fun e he => h e (List.mem_cons_of_mem _ he)) hkeys

/-- The document of a value within the limits has that value. -/
theorem toJson?_ofJson {depth : Nat} {value : Json} (hfits : value.Fits depth) :
    (ofJson value).toJson? = some value := by
  induction hfits with
  | null => rfl
  | bool b => rfl
  | int hi => rfl
  | float x => rfl
  | string s => rfl
  | array hdepth hitems ih =>
      rw [ofJson_array, toJson?, itemsToJson?_map_ofJson ih]
      rfl
  | object hdepth hkeys hentries ih =>
      rw [ofJson_object, toJson?, entriesToJson?_entriesOfJson ih (by simpa using hkeys)]
      rfl

/-! ## The value of a document -/

theorem mem_itemsToJson? {items : List Document} {values : List Json}
    (h : itemsToJson? items = some values) {value : Json} (hvalue : value ∈ values) :
    ∃ item ∈ items, item.toJson? = some value := by
  induction items generalizing values with
  | nil =>
      cases h
      cases hvalue
  | cons item items ih =>
      obtain ⟨first, hfirst, h⟩ := Option.bind_eq_some_iff.1 h
      obtain ⟨others, hothers, h⟩ := Option.bind_eq_some_iff.1 h
      cases h
      rcases List.mem_cons.1 hvalue with rfl | hvalue
      · exact ⟨item, List.mem_cons_self, hfirst⟩
      · obtain ⟨found, hfound, hvalue⟩ := ih hothers hvalue
        exact ⟨found, List.mem_cons_of_mem _ hfound, hvalue⟩

theorem mem_entriesToJson? {entries : List (String × Document)} {seen values : List (String × Json)}
    (h : entriesToJson? seen entries = some values) {value : String × Json}
    (hvalue : value ∈ values) :
    value ∈ seen ∨ ∃ entry ∈ entries, entry.1 = value.1 ∧ entry.2.toJson? = some value.2 := by
  induction entries generalizing seen with
  | nil =>
      cases h
      exact .inl hvalue
  | cons entry entries ih =>
      obtain ⟨first, hfirst, h⟩ := Option.bind_eq_some_iff.1 h
      rcases ih h with hseen | ⟨found, hfound, hkey⟩
      · rcases Json.mem_insertEntry hseen with hseen | rfl
        · exact .inl hseen
        · exact .inr ⟨entry, List.mem_cons_self, rfl, hfirst⟩
      · exact .inr ⟨found, List.mem_cons_of_mem _ hfound, hkey⟩

theorem nodup_keys_entriesToJson? {entries : List (String × Document)}
    {seen values : List (String × Json)} (h : entriesToJson? seen entries = some values)
    (hseen : (seen.map Prod.fst).Nodup) : (values.map Prod.fst).Nodup := by
  induction entries generalizing seen with
  | nil =>
      cases h
      exact hseen
  | cons entry entries ih =>
      obtain ⟨first, -, h⟩ := Option.bind_eq_some_iff.1 h
      exact ih h (Json.nodup_keys_insertEntry _ _ hseen)

/-- The value of a document within the limits is within the limits. -/
theorem Fits.fits_of_toJson? {depth : Nat} {document : Document} (hfits : document.Fits depth)
    {value : Json} (h : document.toJson? = some value) : value.Fits depth := by
  induction hfits generalizing value with
  | null =>
      cases h
      exact .null
  | bool b =>
      cases h
      exact .bool b
  | int hi =>
      cases h
      exact .int hi
  | float x =>
      cases h
      exact .float x
  | string s =>
      cases h
      exact .string s
  | array hdepth hitems ih =>
      obtain ⟨values, hvalues, rfl⟩ := Option.map_eq_some_iff.1 h
      refine .array hdepth fun value hvalue => ?_
      obtain ⟨item, hitem, hvalue⟩ := mem_itemsToJson? hvalues hvalue
      exact ih item hitem hvalue
  | object hdepth hentries ih =>
      obtain ⟨values, hvalues, rfl⟩ := Option.map_eq_some_iff.1 h
      have hkeys := nodup_keys_entriesToJson? hvalues List.nodup_nil
      refine .object hdepth hkeys fun value hvalue => ?_
      rcases mem_entriesToJson? hvalues hvalue with hseen | ⟨entry, hentry, -, hvalue⟩
      · cases hseen
      · exact ih entry hentry hvalue
  | flawed => cases h

/-! ## What is read is within the limits -/

theorem fits_toDocument (depth : Nat) (literal : NumberLiteral) :
    literal.toDocument.Fits depth := by
  obtain ⟨negative, whole, fraction, exponent⟩ := literal
  cases negative with
  | true =>
      simp only [NumberLiteral.toDocument, if_true]
      split
      · rename_i hinteger
        simp only [Bool.and_eq_true, decide_eq_true_eq] at hinteger
        have hbound := hinteger.2.2
        exact .int ⟨by omega, by omega⟩
      · split
        · exact .float _
        · exact .flawed
  | false =>
      simp only [NumberLiteral.toDocument, Bool.false_eq_true, if_false]
      split
      · rename_i hinteger
        simp only [Bool.and_eq_true, decide_eq_true_eq] at hinteger
        have hbound := hinteger.2
        exact .int ⟨by omega, by omega⟩
      · split
        · exact .float _
        · exact .flawed

theorem fits_of_readMagnitude? {negative : Bool} {text rest : List Char} {document : Document}
    (h : readMagnitude? negative text = some (document, rest)) (depth : Nat) :
    document.Fits depth := by
  obtain ⟨whole, -, h⟩ := Option.bind_eq_some_iff.1 h
  obtain ⟨fraction, -, h⟩ := Option.bind_eq_some_iff.1 h
  obtain ⟨exponent, -, h⟩ := Option.bind_eq_some_iff.1 h
  cases h
  exact fits_toDocument depth _

theorem fits_nested {depth : Nat} {document : Document}
    (h : depth ≤ maxDepth → document.Fits depth) : (nested depth document).Fits depth := by
  unfold nested
  split
  · rename_i hdepth
    exact h hdepth
  · exact .flawed

theorem fits_ofEntries {depth : Nat} {entries : List (Option String × Document)}
    (hdepth : depth ≤ maxDepth) (h : ∀ entry ∈ entries, entry.2.Fits (depth + 1)) :
    (ofEntries entries).Fits depth := by
  unfold ofEntries
  split
  · rename_i found hfound
    refine .object hdepth fun entry hentry => ?_
    obtain ⟨given, hgiven, heq⟩ := mem_of_mapM_eq_some hfound hentry
    obtain ⟨key, -, rfl⟩ := Option.map_eq_some_iff.1 heq
    exact h given hgiven
  · exact .flawed

/-- The three readers, run with some fuel, give what is within the limits. -/
structure ReadersFit (fuel : Nat) : Prop where
  value : ∀ {depth text document rest}, readValue fuel depth text = some (document, rest) →
    document.Fits depth
  items : ∀ {depth seen text items rest}, readItems fuel depth seen text = some (items, rest) →
    (∀ item ∈ seen, item.Fits depth) → ∀ item ∈ items, item.Fits depth
  entries : ∀ {depth seen text entries rest},
    readEntries fuel depth seen text = some (entries, rest) →
    (∀ entry ∈ seen, entry.2.Fits depth) → ∀ entry ∈ entries, entry.2.Fits depth

theorem ReadersFit.value_succ {fuel depth : Nat} {text rest : List Char} {document : Document}
    (ih : ReadersFit fuel) (h : readValue (fuel + 1) depth text = some (document, rest)) :
    document.Fits depth := by
  rw [readValue.eq_def] at h
  dsimp only at h
  split at h
  · cases h
    exact .null
  · cases h
    exact .bool true
  · cases h
    exact .bool false
  · obtain ⟨⟨content, after⟩, -, h⟩ := Option.bind_eq_some_iff.1 h
    cases content <;> cases h
    · exact .flawed
    · exact .string _
  · split at h
    · cases h
      exact fits_nested fun hdepth => .array hdepth (by simp)
    · obtain ⟨⟨items, after⟩, hitems, h⟩ := Option.bind_eq_some_iff.1 h
      cases h
      exact fits_nested fun hdepth => .array hdepth (ih.items hitems (by simp))
  · split at h
    · cases h
      exact fits_nested fun hdepth => .object hdepth (by simp)
    · obtain ⟨⟨entries, after⟩, hentries, h⟩ := Option.bind_eq_some_iff.1 h
      cases h
      exact fits_nested fun hdepth => fits_ofEntries hdepth (ih.entries hentries (by simp))
  · exact fits_of_readMagnitude? h depth
  · exact fits_of_readMagnitude? h depth

theorem ReadersFit.items_succ {fuel depth : Nat} {seen items : List Document}
    {text rest : List Char} (ih : ReadersFit fuel)
    (h : readItems (fuel + 1) depth seen text = some (items, rest))
    (hseen : ∀ item ∈ seen, item.Fits depth) : ∀ item ∈ items, item.Fits depth := by
  obtain ⟨⟨item, after⟩, hitem, h⟩ := Option.bind_eq_some_iff.1 h
  have hfits : ∀ i ∈ item :: seen, i.Fits depth := by
    rintro i (_ | ⟨_, hi⟩)
    · exact ih.value hitem
    · exact hseen i hi
  dsimp only at h
  split at h
  · exact ih.items h hfits
  · cases h
    exact fun i hi => hfits i (List.mem_reverse.1 hi)
  · cases h

theorem ReadersFit.entries_succ {fuel depth : Nat} {seen entries : List (Option String × Document)}
    {text rest : List Char} (ih : ReadersFit fuel)
    (h : readEntries (fuel + 1) depth seen text = some (entries, rest))
    (hseen : ∀ entry ∈ seen, entry.2.Fits depth) : ∀ entry ∈ entries, entry.2.Fits depth := by
  rw [readEntries.eq_def] at h
  dsimp only at h
  split at h
  · obtain ⟨⟨key, after⟩, -, h⟩ := Option.bind_eq_some_iff.1 h
    dsimp only at h
    split at h
    · obtain ⟨⟨value, after⟩, hvalue, h⟩ := Option.bind_eq_some_iff.1 h
      have hfits : ∀ e ∈ (key, value) :: seen, e.2.Fits depth := by
        rintro e (_ | ⟨_, he⟩)
        · exact ih.value hvalue
        · exact hseen e he
      dsimp only at h
      split at h
      · exact ih.entries h hfits
      · cases h
        exact fun e he => hfits e (List.mem_reverse.1 he)
      · cases h
    · cases h
  · cases h

theorem readersFit (fuel : Nat) : ReadersFit fuel := by
  induction fuel with
  | zero => constructor <;> intros <;> contradiction
  | succ fuel ih => exact ⟨ih.value_succ, ih.items_succ, ih.entries_succ⟩

/-- Every document that is read from a text is within the limits. -/
theorem fits_of_ofJsonText? {text : String} {document : Document}
    (h : ofJsonText? text = some document) : document.Fits 1 := by
  obtain ⟨⟨found, rest⟩, hfound, h⟩ := Option.bind_eq_some_iff.1 h
  dsimp only at h
  split at h
  · cases h
    exact (readersFit _).value hfound
  · cases h

end Document

end DependencyRules
