import DependencyRules.Document.Record
import DependencyRules.Proofs.DocumentValues
import Mathlib.Data.List.Nodup

/-!
# Records are read as they are written

A record is written as the object of its stated fields, followed by its extra data. Reading a field
by its name finds what was written there, since no name is written twice; a field that was left out
is read as its default. What is read as extra data has none of the names, and each key once.
-/

namespace DependencyRules

open Document

/-! ## Values -/

/-- At a level of nesting, the value is within the limits, and `a` is read from it. -/
structure Json.Gives {α : Type} [FromDocument α] (depth : Nat) (value : Json) (a : α) : Prop where
  fits : value.Fits depth
  read : ofDocument? .json (ofJson value) = some a

namespace Json

attribute [simp] Fits.bool Fits.string

theorem gives_string {depth : Nat} (text : String) : Gives depth (.string text) text :=
  ⟨.string text, rfl⟩

theorem gives_bool {depth : Nat} (b : Bool) : Gives depth (.bool b) b := ⟨.bool b, rfl⟩

theorem gives_count {depth n : Nat} (hn : n < Nat.pow 2 64) : Gives depth (.int n) n := by
  have hmax : n ≤ NumberLiteral.wordMax := Nat.le_sub_one_of_lt hn
  refine ⟨.int ⟨by omega, by exact_mod_cast hmax⟩, ?_⟩
  show (if 0 ≤ (n : Int) ∧ (n : Int).toNat < Nat.pow 2 64 then some (n : Int).toNat else none) = _
  rw [if_pos ⟨by omega, hn⟩]
  rfl

theorem Fits.gives {depth : Nat} {value : Json} (hfits : value.Fits depth) :
    Gives depth value value :=
  ⟨hfits, toJson?_ofJson hfits⟩

theorem gives_array {α : Type} [FromDocument α] {depth : Nat} (hdepth : depth ≤ maxDepth)
    {write : α → Json} {values : List α}
    (h : ∀ a ∈ values, Gives (depth + 1) (write a) a) :
    Gives depth (.array (values.map write)) values := by
  refine ⟨.array hdepth ?_, ?_⟩
  · intro item hitem
    obtain ⟨a, ha, rfl⟩ := List.mem_map.1 hitem
    exact (h a ha).fits
  · rw [ofJson_array, List.map_map]
    show ((values.map _).mapM (ofDocument? .json)) = some values
    induction values with
    | nil => rfl
    | cons a values ih =>
        have hread := (h a List.mem_cons_self).read
        have hmore := ih fun b hb => h b (List.mem_cons_of_mem _ hb)
        rw [List.map_cons, List.mapM_cons, hmore]
        simp [hread]

theorem gives_strings {depth : Nat} (hdepth : depth ≤ maxDepth) (texts : List String) :
    Gives depth (strings texts) texts :=
  gives_array hdepth fun text _ => gives_string text

/-- The value of a field is within the limits, if it is stated. -/
def StatedFits (depth : Nat) (value? : Option Json) : Prop := ∀ value ∈ value?, value.Fits depth

@[simp] theorem statedFits_some {depth : Nat} {value : Json} :
    StatedFits depth (some value) ↔ value.Fits depth := by
  simp [StatedFits]

@[simp] theorem statedFits_map {α : Type} {depth : Nat} {write : α → Json} {a? : Option α} :
    StatedFits depth (a?.map write) ↔ ∀ a ∈ a?, (write a).Fits depth := by
  cases a? <;> simp [StatedFits]

theorem Gives.nonEmptyArray {α : Type} [FromDocument α] {depth : Nat} {items : List Json}
    {values : List α} (h : Gives depth (.array items) values) :
    StatedFits depth (nonEmptyArray items) := by
  cases items with
  | nil => simp [StatedFits, Json.nonEmptyArray]
  | cons item items => exact statedFits_some.2 h.fits

/-! ## Records -/

/-- The extra data of a record with the given field names, at a level of nesting. -/
structure IsExtra (depth : Nat) (names : List String) (extra : List (String × Json)) : Prop where
  keys : (extra.map Prod.fst).Nodup
  apart : ∀ entry ∈ extra, entry.1 ∉ names
  fits : ∀ entry ∈ extra, entry.2.Fits depth

theorem isExtra_nil (depth : Nat) (names : List String) : IsExtra depth names [] :=
  ⟨List.nodup_nil, by simp, by simp⟩

theorem mem_stated {fields : List (String × Option Json)} {name : String} {value : Json} :
    (name, value) ∈ stated fields ↔ (name, some value) ∈ fields := by
  simp only [stated, List.mem_filterMap, Option.map_eq_some_iff, Prod.mk.injEq]
  constructor
  · rintro ⟨⟨key, _⟩, hmem, found, rfl, rfl, rfl⟩
    exact hmem
  · intro hmem
    exact ⟨_, hmem, value, rfl, rfl, rfl⟩

theorem keys_stated_sublist (fields : List (String × Option Json)) :
    ((stated fields).map Prod.fst).Sublist (fields.map Prod.fst) := by
  induction fields with
  | nil => exact .slnil
  | cons field fields ih =>
      obtain ⟨name, _ | value⟩ := field
      · exact ih.cons name
      · exact ih.cons_cons name

/-- Fields and extra data that can be written as a record at a level of nesting. -/
structure IsRecord (depth : Nat) (fields : List (String × Option Json))
    (extra : List (String × Json)) : Prop where
  room : depth ≤ maxDepth
  names : (fields.map Prod.fst).Nodup
  values : ∀ field ∈ fields, StatedFits (depth + 1) field.2
  extra : IsExtra (depth + 1) (fields.map Prod.fst) extra

namespace IsRecord

variable {depth : Nat} {fields : List (String × Option Json)} {extra : List (String × Json)}

theorem keys (h : IsRecord depth fields extra) :
    ((stated fields ++ extra).map Prod.fst).Nodup := by
  have hsublist := keys_stated_sublist fields
  rw [List.map_append, List.nodup_append]
  refine ⟨hsublist.nodup h.names, h.extra.keys, ?_⟩
  rintro key hkey _ hextra rfl
  obtain ⟨entry, hentry, rfl⟩ := List.mem_map.1 hextra
  exact h.extra.apart entry hentry (hsublist.subset hkey)

theorem fits (h : IsRecord depth fields extra) : (record fields extra).Fits depth := by
  refine .object h.room h.keys fun entry hentry => ?_
  rcases List.mem_append.1 hentry with hentry | hentry
  · exact h.values _ (mem_stated.1 hentry) entry.2 rfl
  · exact h.extra.fits entry hentry

end IsRecord

end Json

namespace Document.Fields

theorem find?_of_mem {fields : Fields} (hkeys : (fields.entries.map Prod.fst).Nodup)
    {entry : String × Document} (hentry : entry ∈ fields.entries) :
    fields.find? entry.1 = some (some entry.2) := by
  have hfilter : ∀ entries : List (String × Document), (entries.map Prod.fst).Nodup →
      entry ∈ entries → entries.filter (fun other => other.1 = entry.1) = [entry] := by
    intro entries hkeys hentry
    induction entries with
    | nil => cases hentry
    | cons first entries ih =>
        rw [List.map_cons, List.nodup_cons] at hkeys
        rcases List.mem_cons.1 hentry with rfl | hentry
        · have hnone : entries.filter (fun other => other.1 = entry.1) = [] := by
            refine List.filter_eq_nil_iff.2 fun other hother heq => ?_
            exact hkeys.1 (of_decide_eq_true heq ▸ List.mem_map_of_mem hother)
          rw [List.filter_cons_of_pos (by simp), hnone]
        · have hne : first.1 ≠ entry.1 := by
            intro heq
            exact hkeys.1 (heq ▸ List.mem_map_of_mem hentry)
          rw [List.filter_cons_of_neg (by simpa using hne), ih hkeys.2 hentry]
  rw [find?, hfilter _ hkeys hentry]

theorem find?_of_notMem {fields : Fields} {name : String}
    (hname : name ∉ fields.entries.map Prod.fst) : fields.find? name = some none := by
  have hnone : fields.entries.filter (fun entry => entry.1 = name) = [] := by
    refine List.filter_eq_nil_iff.2 fun entry hentry heq => ?_
    exact hname (of_decide_eq_true heq ▸ List.mem_map_of_mem hentry)
  rw [find?, hnone]

/-- Reading goes on with what the next field gives. -/
theorem bind_of_eq_some {α β : Type} {read? : Option α} {next : α → Option β} {a : α}
    {result : Option β} (hread : read? = some a) (hnext : next a = result) :
    read?.bind next = result := by
  rw [hread, Option.bind_some, hnext]

/-- What is found under the names of a record, and besides them; the values of the fields are at a
level of nesting. -/
structure States (depth : Nat) (found : Fields) (fields : List (String × Option Json))
    (extra : List (String × Json)) : Prop where
  format : found.format = .json
  find : ∀ {name value}, (name, value) ∈ fields → found.find? name = some (value.map ofJson)
  extra : found.extra? (fields.map Prod.fst) = some extra

namespace States

variable {depth : Nat} {found : Fields} {fields : List (String × Option Json)}
  {extra : List (String × Json)} {α β : Type} [FromDocument α] {next : α → Option β}
  {result : Option β}

theorem required (h : States depth found fields extra) (name : String) {value : Json} {a : α}
    (ha : value.Gives depth a) (hmem : (name, some value) ∈ fields) (hnext : next a = result) :
    (found.required name).bind next = result := by
  refine bind_of_eq_some ?_ hnext
  rw [Fields.required, h.find hmem, h.format]
  exact ha.read

theorem withDefault (h : States depth found fields extra) (name : String) {default : α}
    {value : Json} {a : α} (ha : value.Gives depth a) (hmem : (name, some value) ∈ fields)
    (hnext : next a = result) : (found.withDefault name default).bind next = result := by
  refine bind_of_eq_some ?_ hnext
  rw [Fields.withDefault, h.find hmem, h.format]
  exact ha.read

/-- A list that is left out when it is empty. -/
theorem list (h : States depth found fields extra) (name : String) {next : List α → Option β}
    {write : α → Json} {values : List α} (ha : Json.Gives depth (.array (values.map write)) values)
    (hmem : (name, Json.nonEmptyArray (values.map write)) ∈ fields)
    (hnext : next values = result) : (found.withDefault name []).bind next = result := by
  refine bind_of_eq_some ?_ hnext
  rw [Fields.withDefault, h.find hmem, h.format]
  cases values with
  | nil => rfl
  | cons a values => exact ha.read

/-- A field that is left out when it is absent. -/
theorem optional (h : States depth found fields extra) (name : String)
    {next : Option α → Option β} {write : α → Json} {a? : Option α}
    (ha : ∀ a ∈ a?, (write a).Gives depth a) (hnull : ∀ a ∈ a?, write a ≠ .null)
    (hmem : (name, a?.map write) ∈ fields) (hnext : next a? = result) :
    (found.optional name).bind next = result := by
  refine bind_of_eq_some ?_ hnext
  rw [Fields.optional, h.find hmem, h.format]
  cases a? with
  | none => rfl
  | some a =>
      have hread := (ha a rfl).read
      have hstated : ofJson (write a) ≠ .null := by
        have hne := hnull a rfl
        cases hwrite : write a <;> simp_all [ofJson]
      simp only [Option.map_some, Option.bind_eq_bind, Option.bind_some]
      rw [hread, Option.map_some]

theorem optionalString (h : States depth found fields extra) (name : String)
    (text? : Option String) (hmem : (name, text?.map .string) ∈ fields)
    {next : Option String → Option β} (hnext : next text? = result) :
    (found.optional name).bind next = result :=
  h.optional name (fun text _ => Json.gives_string text) (by simp) hmem hnext

theorem optionalBool (h : States depth found fields extra) (name : String) (b? : Option Bool)
    (hmem : (name, b?.map .bool) ∈ fields) {next : Option Bool → Option β}
    (hnext : next b? = result) : (found.optional name).bind next = result :=
  h.optional name (fun b _ => Json.gives_bool b) (by simp) hmem hnext

end States

end Document.Fields

namespace Json.IsRecord

variable {depth : Nat} {fields : List (String × Option Json)} {extra : List (String × Json)}

theorem find? (h : IsRecord depth fields extra) {name : String} {value : Option Json}
    (hmem : (name, value) ∈ fields) :
    Fields.find? ⟨.json, entriesOfJson (stated fields ++ extra)⟩ name =
      some (value.map ofJson) := by
  have hnames : (entriesOfJson (stated fields ++ extra)).map Prod.fst =
      (stated fields ++ extra).map Prod.fst := by
    simp [entriesOfJson, Function.comp_def]
  have hkeys : ((entriesOfJson (stated fields ++ extra)).map Prod.fst).Nodup :=
    hnames ▸ h.keys
  cases value with
  | some value =>
      have hentry : (name, ofJson value) ∈ entriesOfJson (stated fields ++ extra) :=
        List.mem_map.2 ⟨(name, value), List.mem_append_left _ (mem_stated.2 hmem), rfl⟩
      exact @Fields.find?_of_mem ⟨.json, _⟩ hkeys _ hentry
  | none =>
      refine Fields.find?_of_notMem ?_
      rw [hnames, List.map_append, List.mem_append, not_or]
      constructor
      · intro hstated
        obtain ⟨⟨key, value⟩, hentry, rfl⟩ := List.mem_map.1 hstated
        have heq := List.inj_on_of_nodup_map h.names hmem (mem_stated.1 hentry) rfl
        cases heq
      · intro hextra
        obtain ⟨entry, hentry, rfl⟩ := List.mem_map.1 hextra
        exact h.extra.apart entry hentry (List.mem_map.2 ⟨_, hmem, rfl⟩)

theorem extra? (h : IsRecord depth fields extra) :
    Fields.extra? ⟨.json, entriesOfJson (stated fields ++ extra)⟩ (fields.map Prod.fst) =
      some extra := by
  have hfields : (entriesOfJson (stated fields)).filter
      (fun entry => !(fields.map Prod.fst).contains entry.1) = [] := by
    refine List.filter_eq_nil_iff.2 fun entry hentry => ?_
    obtain ⟨given, hgiven, rfl⟩ := List.mem_map.1 hentry
    have hname : given.1 ∈ fields.map Prod.fst := List.mem_map_of_mem (mem_stated.1 hgiven)
    simpa using hname
  have hextra : (entriesOfJson extra).filter
      (fun entry => !(fields.map Prod.fst).contains entry.1) = entriesOfJson extra := by
    refine List.filter_eq_self.2 fun entry hentry => ?_
    obtain ⟨given, hgiven, rfl⟩ := List.mem_map.1 hentry
    simpa using h.extra.apart given hgiven
  have hsplit : entriesOfJson (stated fields ++ extra) =
      entriesOfJson (stated fields) ++ entriesOfJson extra := List.map_append
  rw [Fields.extra?, hsplit, List.filter_append, hfields, hextra, List.nil_append]
  have hvalues : ∀ entry ∈ extra, (ofJson entry.2).toJson? = some entry.2 := fun entry hentry =>
    toJson?_ofJson (h.extra.fits entry hentry)
  exact entriesToJson?_entriesOfJson hvalues h.extra.keys

theorem states (h : IsRecord depth fields extra) :
    Fields.States (depth + 1) ⟨.json, entriesOfJson (stated fields ++ extra)⟩ fields extra :=
  ⟨rfl, h.find?, h.extra?⟩

/-- A record gives back what is read from any fields that state the same. -/
theorem gives {α : Type} [FromDocument α] {a : α} (h : IsRecord depth fields extra)
    (hread : ∀ entries, Fields.States (depth + 1) ⟨.json, entries⟩ fields extra →
      ofDocument? .json (.object entries) = some a) :
    (record fields extra).Gives depth a := by
  refine ⟨h.fits, ?_⟩
  rw [record, ofJson_object]
  exact hread _ h.states

end Json.IsRecord

/-! ## What is read -/

/-- The value is read from a document within the limits at a level of nesting. -/
def IsRead {α : Type} [FromDocument α] (depth : Nat) (a : α) : Prop :=
  ∃ document : Document, document.Fits depth ∧ ofDocument? .json document = some a

theorem IsRead.fits {depth : Nat} {value : Json} (h : IsRead depth value) : value.Fits depth := by
  obtain ⟨document, hfits, hread⟩ := h
  exact hfits.fits_of_toJson? hread

theorem IsRead.lt {depth n : Nat} (h : IsRead depth n) : n < Nat.pow 2 64 := by
  obtain ⟨document, -, hread⟩ := h
  cases document with
  | int i =>
      change (if 0 ≤ i ∧ i.toNat < Nat.pow 2 64 then some i.toNat else none) = some n at hread
      split at hread
      · rename_i hrange
        cases hread
        exact hrange.2
      · cases hread
  | _ => cases hread

theorem IsRead.of_mem {α : Type} [FromDocument α] {depth : Nat} {values : List α}
    (h : IsRead depth values) {a : α} (ha : a ∈ values) : IsRead (depth + 1) a := by
  obtain ⟨document, hfits, hread⟩ := h
  cases hfits with
  | array hdepth hitems =>
      obtain ⟨item, hitem, hread⟩ := mem_of_mapM_eq_some hread ha
      exact ⟨item, hitems item hitem, hread⟩
  | _ => cases hread

namespace Document.Fields

/-- Fields whose values are within the limits at a level of nesting. -/
structure Fits (fields : Fields) (depth : Nat) : Prop where
  format : fields.format = .json
  values : ∀ entry ∈ fields.entries, entry.2.Fits depth

theorem fits_of_entries? {depth : Nat} {document : Document} (hfits : document.Fits depth)
    {fields : Fields} (h : document.entries? .json = some fields) : fields.Fits (depth + 1) := by
  cases hfits with
  | object hdepth hentries =>
      cases h
      exact ⟨rfl, hentries⟩
  | _ => cases h

theorem fits_of_fields? {depth : Nat} {document : Document} (hfits : document.Fits depth)
    {names : List String} {fields : Fields} (h : document.fields? .json names = some fields) :
    fields.Fits (depth + 1) := by
  cases hfits with
  | object hdepth hentries =>
      cases h
      exact ⟨rfl, hentries⟩
  | array hdepth hitems =>
      rw [fields?] at h
      split at h
      · cases h
        exact ⟨rfl, fun entry hentry => hitems _ (List.of_mem_zip hentry).2⟩
      · cases h
  | _ => cases h

variable {fields : Fields} {depth : Nat} {name : String}

theorem mem_of_find? {value : Document} (h : fields.find? name = some (some value)) :
    (name, value) ∈ fields.entries := by
  unfold find? at h
  split at h
  · cases h
  · rename_i key found heq
    cases h
    have hmem : (key, value) ∈ fields.entries.filter fun entry => entry.1 = name := by
      rw [heq]
      exact List.mem_singleton.2 rfl
    obtain ⟨hmem, hname⟩ := List.mem_filter.1 hmem
    exact of_decide_eq_true hname ▸ hmem
  · cases h

variable {α : Type} [FromDocument α]

theorem Fits.isRead_of_required (hfits : fields.Fits depth) {a : α}
    (h : fields.required name = some a) : IsRead depth a := by
  obtain ⟨value?, hfind, h⟩ := Option.bind_eq_some_iff.1 h
  obtain ⟨value, rfl, hread⟩ := Option.bind_eq_some_iff.1 h
  exact ⟨value, hfits.values _ (mem_of_find? hfind), hfits.format ▸ hread⟩

theorem Fits.isRead_of_withDefault (hfits : fields.Fits depth) {default a : α}
    (h : fields.withDefault name default = some a) : a = default ∨ IsRead depth a := by
  obtain ⟨value?, hfind, h⟩ := Option.bind_eq_some_iff.1 h
  cases value? with
  | none => exact .inl (Option.some.inj h).symm
  | some value => exact .inr ⟨value, hfits.values _ (mem_of_find? hfind), hfits.format ▸ h⟩

/-- A field that is present is not null. -/
theorem Fits.isRead_of_optional (hfits : fields.Fits depth) {a : α}
    (h : fields.optional name = some (some a)) :
    ∃ document : Document, document ≠ .null ∧ document.Fits depth ∧
      ofDocument? .json document = some a := by
  obtain ⟨value?, hfind, h⟩ := Option.bind_eq_some_iff.1 h
  split at h
  · cases h
  · cases h
  · rename_i value hnull
    obtain ⟨found, hread, heq⟩ := Option.map_eq_some_iff.1 h
    cases heq
    refine ⟨value, ?_, hfits.values _ (mem_of_find? hfind), hfits.format ▸ hread⟩
    rintro rfl
    exact hnull rfl

/-- What is kept besides the names of a record is extra data. -/
theorem Fits.isExtra (hfits : fields.Fits depth) {names : List String}
    {extra : List (String × Json)} (h : fields.extra? names = some extra) :
    Json.IsExtra depth names extra := by
  have hmem : ∀ value ∈ extra, ∃ entry ∈ fields.entries, entry.1 ∉ names ∧ entry.1 = value.1 ∧
      entry.2.toJson? = some value.2 := by
    intro value hvalue
    rcases mem_entriesToJson? h hvalue with hseen | ⟨entry, hentry, hkey, hread⟩
    · cases hseen
    · obtain ⟨hentry, hnames⟩ := List.mem_filter.1 hentry
      exact ⟨entry, hentry, by simpa using hnames, hkey, hread⟩
  refine ⟨nodup_keys_entriesToJson? h List.nodup_nil, ?_, ?_⟩
  · intro value hvalue
    obtain ⟨entry, -, hnames, hkey, -⟩ := hmem value hvalue
    exact hkey ▸ hnames
  · intro value hvalue
    obtain ⟨entry, hentry, -, -, hread⟩ := hmem value hvalue
    exact (hfits.values entry hentry).fits_of_toJson? hread

end Document.Fields

end DependencyRules
