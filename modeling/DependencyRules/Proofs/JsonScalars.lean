import DependencyRules.Document.JsonText
import DependencyRules.Json.Writer
import Mathlib.Data.List.TakeWhile

/-!
# Strings and numbers are read as they are written

A string is read back from its escaped form, and an integer of 64 bits from its digits. A number
ends where a character follows that no number has, so what is read from a number alone is read from
it in any text. Fractional numbers are read by rounding in several steps; `Binary64.IsReadBack` says
of a number that this leads back to it.
-/

namespace DependencyRules

namespace Document.JsonText

/-! ## Strings -/

theorem value?_digitChar {d : Nat} (h : d < 16) : Digit.value? 16 (Nat.digitChar d) = some d := by
  have hall : ∀ d < 16, Digit.value? 16 (Nat.digitChar d) = some d := by decide
  exact hall d h

theorem number?_control {n : Nat} (h : n < 0x20) :
    Digit.number? 16 ['0', '0', Nat.digitChar (n / 16), Nat.digitChar (n % 16)] = some n := by
  have hzero : Digit.value? 16 '0' = some 0 := by decide
  have hhigh := value?_digitChar (d := n / 16) (by omega)
  have hlow := value?_digitChar (d := n % 16) (by omega)
  simp [Digit.number?, hzero, hhigh, hlow]
  omega

theorem pushUnit_of_lt (state : StringState) {n : Nat} (h : n < 0x20) :
    state.pushUnit n = state.push (Char.ofNat n) := by
  rw [StringState.pushUnit, if_neg (by omega), if_neg (by omega)]

theorem readString_plain (state : StringState) {c : Char} (hquote : c ≠ '"') (hslash : c ≠ '\\')
    (hcontrol : ¬ c.toNat < 0x20) (rest : List Char) :
    readString state (c :: rest) = readString (state.push c) rest := by
  rw [readString.eq_def]
  split
  · rename_i heq
    cases heq
  · rename_i heq
    cases heq
    exact absurd rfl hquote
  · rename_i heq
    cases heq
    exact absurd rfl hslash
  · rename_i heq
    cases heq
    exact absurd rfl hslash
  · rename_i heq
    cases heq
    exact if_neg hcontrol

/-- The escaped form of a character is read as that character. -/
theorem readString_escapeChar (state : StringState) (c : Char) (rest : List Char) :
    readString state (Json.escapeChar c ++ rest) = readString (state.push c) rest := by
  unfold Json.escapeChar
  -- Seven characters have a letter of their own.
  iterate 7
    split
    · subst c
      simp [readString, escapedChar?]
  split
  · rename_i hcontrol
    have hnumber := number?_control hcontrol
    simp [readString, hnumber, pushUnit_of_lt state hcontrol]
  · rename_i hquote hslash _ _ _ _ _ hcontrol
    exact readString_plain state hquote hslash hcontrol rest

theorem readString_escape (state : StringState) (text rest : List Char) :
    readString state (Json.escape text ++ rest) =
      readString (text.foldl StringState.push state) rest := by
  induction text generalizing state with
  | nil => rfl
  | cons c text ih =>
      rw [Json.escape, List.flatMap_cons, List.append_assoc, readString_escapeChar]
      exact ih (state.push c)

theorem foldl_push (text seen : List Char) :
    text.foldl StringState.push { chars := seen } = { chars := text.reverse ++ seen } := by
  induction text generalizing seen with
  | nil => rfl
  | cons c text ih =>
      rw [List.foldl_cons]
      exact (ih (c :: seen)).trans (by simp)

/-- A string is read back from its written form. -/
theorem readString_quote (text : String) (rest : List Char) :
    readString {} (Json.escape text.toList ++ '"' :: rest) = some (some text, rest) := by
  rw [readString_escape, foldl_push, readString]
  simp [StringState.finish]

/-! ## Where a number ends -/

/-- Whether a character after a number could belong to it. -/
def continuesNumber (c : Char) : Bool := Digit.isDecimal c || c = '.' || c = 'e' || c = 'E'

/-- A number ends before a text that does not continue it. -/
def EndsNumber (rest : List Char) : Prop := ∀ c ∈ rest.head?, continuesNumber c = false

theorem endsNumber_nil : EndsNumber [] := by simp [EndsNumber]

theorem endsNumber_cons {c : Char} {rest : List Char} :
    EndsNumber (c :: rest) ↔ continuesNumber c = false := by
  simp [EndsNumber]

theorem takeWhile_append_of_endsNumber (text : List Char) {rest : List Char}
    (hends : EndsNumber rest) :
    (text ++ rest).takeWhile Digit.isDecimal = text.takeWhile Digit.isDecimal ∧
      (text ++ rest).dropWhile Digit.isDecimal = text.dropWhile Digit.isDecimal ++ rest := by
  induction text with
  | nil =>
      cases rest with
      | nil => exact ⟨rfl, rfl⟩
      | cons c rest =>
          have hc : Digit.isDecimal c = false := by
            have := endsNumber_cons.1 hends
            simp [continuesNumber] at this
            exact this.1.1.1
          simp [hc]
  | cons c text ih =>
      cases hc : Digit.isDecimal c with
      | false => simp [hc]
      | true => simp [hc, ih]

/-- A reader that leaves an end of the text, and takes the same from a text before another one that
does not continue a number. -/
def IsNumberReader {α : Type} (read : List Char → Option (α × List Char)) : Prop :=
  ∀ ⦃text : List Char⦄ ⦃a : α⦄ ⦃after : List Char⦄, read text = some (a, after) →
    after <:+ text ∧
      ∀ rest, EndsNumber rest → read (text ++ rest) = some (a, after ++ rest)

theorem isNumberReader_pure {α : Type} (a : α) : IsNumberReader fun text => some (a, text) := by
  intro text b after h
  cases h
  exact ⟨List.suffix_refl _, fun _ _ => rfl⟩

theorem IsNumberReader.bind {α β : Type} {read : List Char → Option (α × List Char)}
    {next : α → List Char → Option (β × List Char)} (hread : IsNumberReader read)
    (hnext : ∀ a, IsNumberReader (next a)) :
    IsNumberReader fun text => (read text).bind fun found => next found.1 found.2 := by
  intro text b after h
  obtain ⟨⟨a, between⟩, ha, hb⟩ := Option.bind_eq_some_iff.1 h
  obtain ⟨hsuffix, happend⟩ := hread ha
  obtain ⟨hsuffix', happend'⟩ := hnext a hb
  refine ⟨hsuffix'.trans hsuffix, fun rest hends => ?_⟩
  have hfirst := happend rest hends
  simpa [hfirst] using happend' rest hends

theorem isNumberReader_readDigits? : IsNumberReader readDigits? := by
  intro text digits after h
  unfold readDigits? at h ⊢
  dsimp only at h ⊢
  split at h
  · cases h
  · rename_i hsome
    cases h
    refine ⟨List.dropWhile_suffix _, fun rest hends => ?_⟩
    obtain ⟨htake, hdrop⟩ := takeWhile_append_of_endsNumber text hends
    rw [htake, hdrop, if_neg hsome]

theorem isNumberReader_readWhole? : IsNumberReader readWhole? := by
  intro text digits after h
  obtain ⟨⟨found, left⟩, hfound, h⟩ := Option.bind_eq_some_iff.1 h
  obtain ⟨hsuffix, happend⟩ := isNumberReader_readDigits? hfound
  dsimp only at h
  split at h
  · cases h
  · rename_i hzero
    cases h
    refine ⟨hsuffix, fun rest hends => ?_⟩
    rw [readWhole?, happend rest hends]
    dsimp only [Option.bind_eq_bind, Option.bind_some]
    split
    · exact absurd rfl (hzero _ _)
    · rfl

theorem readFraction?_of_endsNumber {rest : List Char} (hends : EndsNumber rest) :
    readFraction? rest = some (none, rest) := by
  unfold readFraction?
  split
  · cases endsNumber_cons.1 hends
  · rfl

theorem isNumberReader_readFraction? : IsNumberReader readFraction? := by
  intro text fraction after h
  match text with
  | [] =>
      cases h
      exact ⟨List.suffix_refl _, fun rest hends => readFraction?_of_endsNumber hends⟩
  | c :: text =>
      by_cases hpoint : c = '.'
      · subst hpoint
        have hdigits : IsNumberReader fun text => (readDigits? text).bind fun found =>
            some (some found.1, found.2) :=
          isNumberReader_readDigits?.bind fun _ => isNumberReader_pure _
        obtain ⟨hsuffix, happend⟩ := hdigits h
        exact ⟨hsuffix.trans (List.suffix_cons _ _), happend⟩
      · have hnone : ∀ text, readFraction? (c :: text) = some (none, c :: text) := by
          intro text
          simp [readFraction?, hpoint]
        rw [hnone] at h
        cases h
        exact ⟨List.suffix_refl _, fun rest _ => hnone _⟩

theorem isNumberReader_readExponentDigits? (negative : Bool) :
    IsNumberReader (readExponentDigits? negative) := by
  have h := isNumberReader_readDigits?.bind fun digits => isNumberReader_pure
    (some (if negative then -(NumberLiteral.digitsValue digits : Int)
      else NumberLiteral.digitsValue digits))
  exact h

theorem readExponent?_of_endsNumber {rest : List Char} (hends : EndsNumber rest) :
    readExponent? rest = some (none, rest) := by
  cases rest with
  | nil => rfl
  | cons c rest =>
      have hc := endsNumber_cons.1 hends
      refine if_neg ?_
      rintro (rfl | rfl) <;> cases hc

/-- After its mark, an exponent has a sign or starts with its digits. -/
theorem exists_readExponent?_mark {c : Char} (hmark : c = 'e' ∨ c = 'E') (text : List Char) :
    readExponent? (c :: text) = none ∨
      ∃ negative dropped digits, text = dropped ++ digits ∧
        ∀ rest, readExponent? (c :: (text ++ rest)) =
          readExponentDigits? negative (digits ++ rest) := by
  match text with
  | [] => exact .inl ((if_pos hmark).trans rfl)
  | d :: text =>
      right
      by_cases hplus : d = '+'
      · subst hplus
        exact ⟨false, ['+'], text, rfl, fun rest => if_pos hmark⟩
      · by_cases hminus : d = '-'
        · subst hminus
          exact ⟨true, ['-'], text, rfl, fun rest => if_pos hmark⟩
        · refine ⟨false, [], d :: text, rfl, fun rest => (if_pos hmark).trans ?_⟩
          split
          · rename_i heq
            cases heq
            exact absurd rfl hplus
          · rename_i heq
            cases heq
            exact absurd rfl hminus
          · rfl

theorem isNumberReader_readExponent? : IsNumberReader readExponent? := by
  intro text exponent after h
  match text with
  | [] =>
      cases h
      exact ⟨List.suffix_refl _, fun rest hends => readExponent?_of_endsNumber hends⟩
  | c :: text =>
      by_cases hmark : c = 'e' ∨ c = 'E'
      · obtain hnone | ⟨negative, dropped, digits, rfl, hdigits⟩ :=
          exists_readExponent?_mark hmark text
        · cases hnone.symm.trans h
        · have halone := hdigits []
          rw [List.append_nil, List.append_nil] at halone
          obtain ⟨hsuffix, happend⟩ :=
            isNumberReader_readExponentDigits? negative (halone.symm.trans h)
          refine ⟨(hsuffix.trans (List.suffix_append _ _)).trans (List.suffix_cons _ _), ?_⟩
          exact fun rest hends => (hdigits rest).trans (happend rest hends)
      · have hnone : ∀ text, readExponent? (c :: text) = some (none, c :: text) :=
          fun text => if_neg hmark
        rw [hnone] at h
        cases h
        exact ⟨List.suffix_refl _, fun rest _ => hnone _⟩

theorem isNumberReader_readMagnitude? (negative : Bool) :
    IsNumberReader (readMagnitude? negative) := by
  have h := isNumberReader_readWhole?.bind fun whole =>
    isNumberReader_readFraction?.bind fun fraction =>
      isNumberReader_readExponent?.bind fun exponent => isNumberReader_pure
        (NumberLiteral.toDocument ⟨negative, whole, fraction, exponent⟩)
  exact h

/-! ## Numbers -/

/-- The characters that numbers are written with. -/
def isNumberChar (c : Char) : Bool := continuesNumber c || c = '+' || c = '-'

theorem isNumberChar_of_isDecimal {c : Char} (h : Digit.isDecimal c = true) :
    isNumberChar c = true := by
  simp [isNumberChar, continuesNumber, h]

theorem isBlank_of_isNumberChar {c : Char} (h : isNumberChar c = true) : isBlank c = false := by
  by_contra hblank
  simp only [isBlank, Bool.not_eq_false, Bool.or_eq_true, decide_eq_true_eq] at hblank
  rcases hblank with ((rfl | rfl) | rfl) | rfl <;> cases h

theorem skipBlanks_eq_self {text : List Char} (h : ∀ c ∈ text.head?, isBlank c = false) :
    skipBlanks text = text := by
  cases text with
  | nil => rfl
  | cons c text => simp [skipBlanks, h c rfl]

/-- What reads a number, by its first character. -/
theorem readValue_number (fuel depth : Nat) {c : Char} (h : isNumberChar c = true)
    (text : List Char) :
    readValue (fuel + 1) depth (c :: text) =
      if c = '-' then readMagnitude? true text else readMagnitude? false (c :: text) := by
  by_cases hminus : c = '-'
  · subst hminus
    rw [readValue, if_pos rfl]
  · rw [readValue, if_neg hminus]
    all_goals rintro rest ⟨⟩
    any_goals cases h
    exact hminus rfl

theorem readValue_append_number {text after : List Char} {document : Document} {fuel depth : Nat}
    (hchars : ∀ c ∈ text, isNumberChar c = true)
    (h : readValue (fuel + 1) depth text = some (document, after)) :
    after <:+ text ∧ ∀ rest, EndsNumber rest → ∀ fuel depth,
      readValue (fuel + 1) depth (text ++ rest) = some (document, after ++ rest) := by
  match text with
  | [] => cases h
  | c :: text =>
      have hc := hchars c List.mem_cons_self
      rw [readValue_number _ _ hc] at h
      by_cases hminus : c = '-'
      · rw [if_pos hminus] at h
        obtain ⟨hsuffix, happend⟩ := isNumberReader_readMagnitude? true h
        refine ⟨hsuffix.trans (List.suffix_cons _ _), fun rest hends fuel depth => ?_⟩
        rw [List.cons_append, readValue_number _ _ hc, if_pos hminus]
        exact happend rest hends
      · rw [if_neg hminus] at h
        obtain ⟨hsuffix, happend⟩ := isNumberReader_readMagnitude? false h
        refine ⟨hsuffix, fun rest hends fuel depth => ?_⟩
        rw [List.cons_append, readValue_number _ _ hc, if_neg hminus]
        exact happend rest hends

/-- What a number alone is read as, it is read as before any text that does not continue it. -/
theorem readValue_of_ofJsonText? {text : List Char} {document : Document}
    (hchars : ∀ c ∈ text, isNumberChar c = true)
    (h : Document.ofJsonText? (String.ofList text) = some document) {rest : List Char}
    (hends : EndsNumber rest) (fuel depth : Nat) :
    readValue (fuel + 1) depth (text ++ rest) = some (document, rest) := by
  have hskip : ∀ part, part <:+ text → skipBlanks part = part := fun part hpart =>
    skipBlanks_eq_self fun c hc =>
      isBlank_of_isNumberChar (hchars c (hpart.subset (List.mem_of_mem_head? hc)))
  rw [Document.ofJsonText?, String.toList_ofList, hskip text (List.suffix_refl _)] at h
  obtain ⟨⟨found, after⟩, hfound, h⟩ := Option.bind_eq_some_iff.1 h
  obtain ⟨hsuffix, happend⟩ := readValue_append_number hchars hfound
  dsimp only at h
  rw [hskip after hsuffix] at h
  split at h
  · cases h
    exact happend rest hends fuel depth
  · cases h

theorem isDecimal_of_mem_toDigits {n : Nat} {c : Char} (h : c ∈ Nat.toDigits 10 n) :
    Digit.isDecimal c = true := by
  have hdigit := Nat.isDigit_of_mem_toDigits (by decide) (by decide) h
  simpa [Char.isDigit, Digit.isDecimal, Char.le_def] using hdigit

theorem digitsValue_toDigits (n : Nat) : NumberLiteral.digitsValue (Nat.toDigits 10 n) = n := by
  have h := Nat.ofDigitChars_ten_toDigits (n := n)
  exact h

/-- Only zero is written with a leading zero. -/
theorem eq_zero_of_toDigits_eq {n : Nat} {rest : List Char}
    (h : Nat.toDigits 10 n = '0' :: rest) : n = 0 := by
  induction n using Nat.strongRecOn generalizing rest with
  | ind n ih =>
      by_cases hn : n < 10
      · rw [Nat.toDigits_of_lt_base hn] at h
        have hall : ∀ n < 10, Nat.digitChar n = '0' → n = 0 := by decide
        exact hall n hn (List.cons.inj h).1
      · rw [Nat.toDigits_of_base_le (by decide) (by omega)] at h
        cases hdigits : Nat.toDigits 10 (n / 10) with
        | nil => exact absurd hdigits Nat.toDigits_ne_nil
        | cons d digits =>
            rw [hdigits] at h
            obtain rfl := (List.cons.inj h).1
            have := ih (n / 10) (by omega) hdigits
            omega

theorem readMagnitude?_toDigits (negative : Bool) (n : Nat) :
    readMagnitude? negative (Nat.toDigits 10 n) =
      some (NumberLiteral.toDocument ⟨negative, Nat.toDigits 10 n, none, none⟩, []) := by
  have hall : ∀ c ∈ Nat.toDigits 10 n, Digit.isDecimal c = true :=
    fun c hc => isDecimal_of_mem_toDigits hc
  have hdigits : readDigits? (Nat.toDigits 10 n) = some (Nat.toDigits 10 n, []) := by
    rw [readDigits?, List.takeWhile_eq_self_iff.2 hall, List.dropWhile_eq_nil_iff.2 hall]
    simp [Nat.toDigits_ne_nil]
  have hwhole : readWhole? (Nat.toDigits 10 n) = some (Nat.toDigits 10 n, []) := by
    rw [readWhole?, hdigits]
    dsimp only [Option.bind_eq_bind, Option.bind_some]
    split
    · rename_i heq
      rw [eq_zero_of_toDigits_eq heq] at heq
      cases heq
    · rfl
  rw [readMagnitude?, hwhole]
  rfl

/-- The integers that are read as integers: those of 64 bits, with or without a sign. -/
def IsInteger64 (i : Int) : Prop := -(Nat.pow 2 63 : Int) ≤ i ∧ i ≤ NumberLiteral.wordMax

instance (i : Int) : Decidable (IsInteger64 i) := inferInstanceAs (Decidable (_ ∧ _))

theorem toDocument_toDigits_of_nonneg {i : Int} (hi : IsInteger64 i) (hsign : ¬ i < 0) :
    NumberLiteral.toDocument ⟨false, Nat.toDigits 10 i.natAbs, none, none⟩ = .int i := by
  have hle : i.natAbs ≤ NumberLiteral.wordMax := by
    have := hi.2
    omega
  have hvalue : (i.natAbs : Int) = i := by omega
  simp only [NumberLiteral.toDocument, digitsValue_toDigits, Option.isNone_none, Bool.and_self,
    Bool.false_eq_true, if_false, hle, decide_true, if_true, hvalue]

theorem toDocument_toDigits_of_neg {i : Int} (hi : IsInteger64 i) (hsign : i < 0) :
    NumberLiteral.toDocument ⟨true, Nat.toDigits 10 i.natAbs, none, none⟩ = .int i := by
  have hle : i.natAbs ≤ Nat.pow 2 63 := by
    have := hi.1
    omega
  have hpos : 0 < i.natAbs := by omega
  have hvalue : -(i.natAbs : Int) = i := by omega
  simp only [NumberLiteral.toDocument, digitsValue_toDigits, Option.isNone_none, Bool.and_self,
    if_true, hpos, hle, decide_true, hvalue]

/-- An integer of 64 bits is read back from its written form. -/
theorem readValue_intText {i : Int} (hi : IsInteger64 i) {rest : List Char}
    (hends : EndsNumber rest) (fuel depth : Nat) :
    readValue (fuel + 1) depth (Json.intText i ++ rest) = some (.int i, rest) := by
  have hread := fun negative => (isNumberReader_readMagnitude? negative
    (readMagnitude?_toDigits negative i.natAbs)).2 rest hends
  unfold Json.intText
  split
  · rename_i hsign
    rw [List.cons_append, readValue_number _ _ rfl, if_pos rfl, hread true,
      toDocument_toDigits_of_neg hi hsign]
    rfl
  · rename_i hsign
    rw [← toDocument_toDigits_of_nonneg hi hsign]
    cases hdigits : Nat.toDigits 10 i.natAbs with
    | nil => exact absurd hdigits Nat.toDigits_ne_nil
    | cons c digits =>
        have hc : Digit.isDecimal c = true := by
          apply isDecimal_of_mem_toDigits (n := i.natAbs)
          simp [hdigits]
        have hminus : c ≠ '-' := by
          rintro rfl
          cases hc
        have hfalse := hread false
        rw [hdigits] at hfalse
        rw [List.cons_append, readValue_number _ _ (isNumberChar_of_isDecimal hc), if_neg hminus]
        exact hfalse

end Document.JsonText

namespace Binary64

open Document.JsonText

theorem isNumberChar_of_mem_toDigits {n : Nat} {c : Char} (h : c ∈ Nat.toDigits 10 n) :
    isNumberChar c = true :=
  isNumberChar_of_isDecimal (isDecimal_of_mem_toDigits h)

theorem isNumberChar_layout {digits : List Char} (hdigits : ∀ c ∈ digits, isNumberChar c = true)
    (e : Int) : ∀ c ∈ layout digits e, isNumberChar c = true := by
  have hmarks : isNumberChar '0' = true ∧ isNumberChar '.' = true ∧ isNumberChar 'e' = true ∧
      isNumberChar '+' = true ∧ isNumberChar '-' = true := by decide
  intro c hc
  unfold layout at hc
  split at hc
  · split at hc
    · grind
    · dsimp only at hc
      split at hc
      · grind
      · grind [List.mem_of_mem_take, List.mem_of_mem_drop]
  · grind [isNumberChar_of_mem_toDigits]

theorem isNumberChar_text (x : Binary64) : ∀ c ∈ x.text, isNumberChar c = true := by
  have hkept : ∀ c ∈ (dropTrailingZeros (Nat.toDigits 10 x.shortest.digits)).1,
      isNumberChar c = true := by
    intro c hc
    have hmem := (List.dropWhile_suffix _).subset (List.mem_reverse.1 hc)
    exact isNumberChar_of_mem_toDigits (List.mem_reverse.1 hmem)
  have hmagnitude : ∀ e : Int, ∀ c ∈ (if x.shortest.digits = 0 then ['0', '.', '0']
      else layout (dropTrailingZeros (Nat.toDigits 10 x.shortest.digits)).1 e),
      isNumberChar c = true := by
    intro e
    split
    · exact List.all_eq_true.1 rfl
    · exact isNumberChar_layout hkept e
  intro c hc
  unfold text at hc
  dsimp only at hc
  split at hc
  · rcases List.mem_cons.1 hc with rfl | hc
    · rfl
    · exact hmagnitude _ c hc
  · exact hmagnitude _ c hc

/-- The written form of the number is read as the number itself. -/
def IsReadBack (x : Binary64) : Prop :=
  Document.ofJsonText? (String.ofList x.text) = some (.float x)

/-- A number whose written form leads back to it does so before any text that does not continue
the number. -/
theorem IsReadBack.readValue {x : Binary64} (hx : x.IsReadBack) {rest : List Char}
    (hends : EndsNumber rest) (fuel depth : Nat) :
    readValue (fuel + 1) depth (x.text ++ rest) = some (.float x, rest) :=
  readValue_of_ofJsonText? x.isNumberChar_text hx hends fuel depth

end Binary64

end DependencyRules
