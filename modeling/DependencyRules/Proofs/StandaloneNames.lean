import DependencyRules.Proofs.FirstError
import DependencyRules.Proofs.Matching
import DependencyRules.Proofs.PatternSize
import DependencyRules.Rule.Standalone

/-!
# Which files stand alone

The names of files that stand alone by nature, said without patterns: dotfiles, type declarations
and the configuration files of three tools, and what additional patterns match. Only the part of a
path after its last separator counts.
-/

namespace DependencyRules

/-! ## Patterns for whole names -/

namespace Expr

/-- The parts of an expression that takes certain characters one after the other. -/
def literal (chars : List Char) : List Expr := chars.map fun c => .oneOf (.single c)

/-- An expression for a whole name that starts with certain characters. -/
def wholeName (chars : List Char) (rest : List Expr) : Expr :=
  .ofParts (.look .start :: (literal chars ++ (rest ++ [.look .stop])))

def dotless : Expr := .times (.oneOf (CharSet.single '.').complement) 1 none false

section Parts

variable {text : List Char} {i j : Nat}

theorem matches_ofParts_cons (e : Expr) (rest : List Expr) :
    (ofParts (e :: rest)).Matches text i j ↔
      ∃ k, e.Matches text i k ∧ (ofParts rest).Matches text k j := by
  cases rest with
  | nil => simp [ofParts, Matches]
  | cons next rest => rfl

theorem drop_eq_cons_iff {c : Char} {rest : List Char} :
    text.drop i = c :: rest ↔ text[i]? = some c ∧ text.drop (i + 1) = rest := by
  rw [← List.head?_drop, ← List.tail_drop]
  cases text.drop i <;> simp

theorem contains_single {c d : Char} : (CharSet.single c).contains d = true ↔ d = c := by
  rw [← Char.toNat_inj]
  simp only [CharSet.contains, CharSet.single, CharSet.range, List.any_cons, List.any_nil,
    Bool.or_false, Bool.and_eq_true, decide_eq_true_eq]
  omega

theorem contains_complement_dot {d : Char} :
    (CharSet.single '.').complement.contains d = true ↔ d ≠ '.' := by
  have hset : (CharSet.single '.').complement = ⟨[(0, 45), (47, 0x10FFFF)]⟩ := by decide
  have hvalid : d.toNat < 0xD800 ∨ 0xDFFF < d.toNat ∧ d.toNat < 0x110000 := d.valid
  have hdot : d = '.' ↔ d.toNat = 46 := by
    rw [← Char.toNat_inj]
    rfl
  rw [hset, ne_eq, hdot]
  simp only [CharSet.contains, List.any_cons, List.any_nil, Bool.or_false, Bool.or_eq_true,
    Bool.and_eq_true, decide_eq_true_eq]
  omega

theorem matches_literal (chars : List Char) (rest : List Expr) :
    (ofParts (literal chars ++ rest)).Matches text i j ↔
      ∃ tail, text.drop i = chars ++ tail ∧
        (ofParts rest).Matches text (i + chars.length) j := by
  induction chars generalizing i with
  | nil => simp [literal]
  | cons c chars ih =>
      have hparts : literal (c :: chars) ++ rest =
          .oneOf (.single c) :: (literal chars ++ rest) := rfl
      rw [hparts, matches_ofParts_cons]
      simp only [Matches, contains_single, ih, List.cons_append, drop_eq_cons_iff,
        List.length_cons]
      constructor
      · rintro ⟨_, ⟨rfl, _, hget, rfl⟩, tail, hdrop, hrest⟩
        exact ⟨tail, ⟨hget, hdrop⟩, by rwa [Nat.add_comm chars.length, ← Nat.add_assoc]⟩
      · rintro ⟨tail, ⟨hget, hdrop⟩, hrest⟩
        exact ⟨i + 1, ⟨rfl, c, hget, rfl⟩, tail, hdrop,
          by rwa [Nat.add_comm chars.length, ← Nat.add_assoc] at hrest⟩

theorem repeated_oneOf {set : CharSet} {count : Nat} :
    Repeated ((oneOf set).Matches text) count i j ↔
      j = i + count ∧ ∃ part tail, text.drop i = part ++ tail ∧ part.length = count ∧
        ∀ c ∈ part, set.contains c = true := by
  induction count generalizing i with
  | zero =>
      constructor
      · intro hij
        exact ⟨hij.symm, [], text.drop i, rfl, rfl, by simp⟩
      · rintro ⟨hij, _⟩
        exact hij.symm
  | succ count ih =>
      simp only [Repeated, ih]
      constructor
      · rintro ⟨_, ⟨rfl, c, hget, hset⟩, rfl, part, tail, hdrop, hlength, hpart⟩
        refine ⟨by omega, c :: part, tail, drop_eq_cons_iff.2 ⟨hget, hdrop⟩, by simp [hlength], ?_⟩
        simpa [hset] using hpart
      · rintro ⟨rfl, part, tail, hdrop, hlength, hpart⟩
        cases part with
        | nil => cases hlength
        | cons c part =>
            obtain ⟨hget, hrest⟩ := drop_eq_cons_iff.1 hdrop
            rw [List.forall_mem_cons] at hpart
            exact ⟨i + 1, ⟨rfl, c, hget, hpart.1⟩, by omega, part, tail, hrest,
              by simpa using hlength, hpart.2⟩

end Parts

theorem matchesSomewhere_wholeName (chars : List Char) (rest : List Expr) (text : List Char) :
    (wholeName chars rest).matchesSomewhere text = true ↔
      ∃ tail, text = chars ++ tail ∧
        ∃ j, (ofParts (rest ++ [.look .stop])).Matches text chars.length j := by
  rw [matchesSomewhere_iff]
  simp only [wholeName, matches_ofParts_cons (.look .start), matches_literal]
  constructor
  · rintro ⟨i, j, hi, _, ⟨rfl, hstart⟩, tail, hdrop, hrest⟩
    -- Only at the very start is there no character before.
    have hzero : i = 0 := by
      have hnone : (text.take i).getLast? = none := by simpa [Look.holds] using hstart
      rw [List.getLast?_eq_none_iff, List.take_eq_nil_iff] at hnone
      rcases hnone with hnone | hnone
      · exact hnone
      · simpa [hnone] using hi
    subst hzero
    rw [Nat.zero_add] at hrest
    exact ⟨tail, hdrop, j, hrest⟩
  · rintro ⟨tail, htext, j, hrest⟩
    exact ⟨0, j, Nat.zero_le _, 0, ⟨rfl, by simp [Look.holds]⟩, tail, htext, by rwa [Nat.zero_add]⟩

theorem matches_stop {text : List Char} {i j : Nat} :
    (look .stop).Matches text i j ↔ i = j ∧ text.length ≤ i := by
  simp [Matches, Look.holds]

theorem matchesSomewhere_wholeName_nil (chars text : List Char) :
    (wholeName chars []).matchesSomewhere text = true ↔ text = chars := by
  rw [matchesSomewhere_wholeName]
  simp only [List.nil_append, ofParts, matches_stop]
  constructor
  · rintro ⟨tail, rfl, j, _, hle⟩
    have htail : tail.length = 0 := by
      rw [List.length_append] at hle
      omega
    rw [List.length_eq_zero_iff.1 htail, List.append_nil]
  · rintro rfl
    exact ⟨[], by simp, text.length, rfl, le_rfl⟩

theorem exists_matches_dotless {text : List Char} {i : Nat} :
    (∃ j, (ofParts [dotless, .look .stop]).Matches text i j) ↔
      text.drop i ≠ [] ∧ '.' ∉ text.drop i := by
  constructor
  · rintro ⟨j, k, ⟨count, hleast, _, hrepeated⟩, hstop⟩
    obtain ⟨rfl, hle⟩ := matches_stop.1 hstop
    obtain ⟨rfl, part, tail, hdrop, hlength, hpart⟩ := repeated_oneOf.1 hrepeated
    have htotal : text.length - i = part.length + tail.length := by
      rw [← List.length_drop, hdrop, List.length_append]
    have htail : tail = [] := List.length_eq_zero_iff.1 (by omega)
    rw [hdrop, htail, List.append_nil]
    constructor
    · rintro rfl
      simp only [List.length_nil] at hlength
      omega
    · intro hdot
      exact contains_complement_dot.1 (hpart '.' hdot) rfl
  · rintro ⟨hne, hdot⟩
    have hpos : 0 < (text.drop i).length := List.length_pos_iff.2 hne
    refine ⟨i + (text.drop i).length, i + (text.drop i).length,
      ⟨(text.drop i).length, hpos, by simp, ?_⟩, ?_⟩
    · refine repeated_oneOf.2 ⟨rfl, text.drop i, [], by simp, rfl, fun c hc => ?_⟩
      rw [contains_complement_dot]
      rintro rfl
      exact hdot hc
    · refine matches_stop.2 ⟨rfl, ?_⟩
      rw [List.length_drop]
      omega

theorem matchesSomewhere_wholeName_dotless (chars text : List Char) :
    (wholeName chars [dotless]).matchesSomewhere text = true ↔
      ∃ tail, text = chars ++ tail ∧ tail ≠ [] ∧ '.' ∉ tail := by
  rw [matchesSomewhere_wholeName]
  refine exists_congr fun tail => and_congr_right fun htext => ?_
  rw [List.cons_append, List.nil_append, exists_matches_dotless, htext, List.drop_left]

/-! ## The patterns of tools -/

/-- The automaton for characters other than a dot, between other states, is small. -/
theorem fits_addSequences (direction : Direction) (before : Meter) (after : Nat)
    (hsmall : before.size + 32 * after ≤ 10000) :
    (((before.addSequences direction (CharSet.single '.').complement.utf8Sequences).addAlternatives
      2).add after).fits = true := by
  have hcount : rangeCount (CharSet.single '.').complement.utf8Sequences ≤ 100 := by decide +kernel
  have hlength : (CharSet.single '.').complement.utf8Sequences.length ≤ 100 := by decide +kernel
  have hsize := Meter.size_addSequences_le direction
    (CharSet.single '.').complement.utf8Sequences before
  simp only [Meter.fits, Meter.size_add, Meter.size_addAlternatives, Meter.limit,
    decide_eq_true_eq]
  omega

theorem fits_wholeName_dotless {chars : List Char} (front behind back ahead : Nat)
    (htexts : (wholeName chars [dotless]).texts? = none)
    (hforward : (wholeName chars [dotless]).meter .forward =
      (((Meter.mk front 0).addSequences .forward
        (CharSet.single '.').complement.utf8Sequences).addAlternatives 2).add behind)
    (hbackward : (wholeName chars [dotless]).meter .backward =
      (((Meter.mk back 0).addSequences .backward
        (CharSet.single '.').complement.utf8Sequences).addAlternatives 2).add ahead)
    (hsmall : front + behind ≤ 100 ∧ back + ahead ≤ 100) :
    (wholeName chars [dotless]).fits = true := by
  have hsize : ∀ states, (Meter.mk states 0).size = 32 * states := fun _ => rfl
  rw [fits, htexts, hforward, hbackward, fits_addSequences _ _ _ (by rw [hsize]; omega),
    fits_addSequences _ _ _ (by rw [hsize]; omega)]
  rfl

end Expr

theorem ofText?_of_readExpr? {text : String} {e : Expr}
    (hread : Pattern.readExpr? text.toList = some e) (hfits : e.fits = true) :
    Pattern.ofText? text = some ⟨text, e⟩ := by
  simp [Pattern.ofText?, hread, hfits]

namespace StandaloneNames

theorem filterMap_toolFiles :
    toolFiles.filterMap Pattern.ofText? =
      [⟨"^babel\\.config\\.[^.]+$", .wholeName "babel.config.".toList [.dotless]⟩,
        ⟨"^webpack\\.config\\.[^.]+$", .wholeName "webpack.config.".toList [.dotless]⟩,
        ⟨"^tsconfig\\.json$", .wholeName "tsconfig.json".toList []⟩] := by
  have hbabel : (Expr.wholeName "babel.config.".toList [.dotless]).fits = true :=
    Expr.fits_wholeName_dotless 16 3 2 15 (by decide +kernel) rfl rfl (by decide)
  have hwebpack : (Expr.wholeName "webpack.config.".toList [.dotless]).fits = true :=
    Expr.fits_wholeName_dotless 18 3 2 17 (by decide +kernel) rfl rfl (by decide)
  have htsconfig : (Expr.wholeName "tsconfig.json".toList []).fits = true := by decide +kernel
  rw [toolFiles, List.filterMap_cons_some (ofText?_of_readExpr? (by decide +kernel) hbabel),
    List.filterMap_cons_some (ofText?_of_readExpr? (by decide +kernel) hwebpack),
    List.filterMap_cons_some (ofText?_of_readExpr? (by decide +kernel) htsconfig),
    List.filterMap_nil]

/-! ## Names -/

/-- The names that always stand alone. -/
inductive IsExempt : String → Prop
  | dotfile (rest : String) : IsExempt ("." ++ rest)
  | declaration (stem : String) : IsExempt (stem ++ ".d.ts")
  | typescript : IsExempt "tsconfig.json"
  | tool {start ending : String} (hstart : start = "babel.config." ∨ start = "webpack.config.")
      (hne : ending ≠ "") (hdot : '.' ∉ ending.toList) : IsExempt (start ++ ending)

/-- A name stands alone if it always does or if one of the additional patterns matches it. -/
def StandsAlone (extra : List String) (name : String) : Prop :=
  IsExempt name ∨
    ∃ text ∈ extra, ∃ pattern, Pattern.ofText? text = some pattern ∧ pattern.isMatch name = true

theorem startsWith_accepts_iff {start name : String} :
    (NameTest.startsWith start).accepts name = true ↔ ∃ rest, name = start ++ rest := by
  rw [NameTest.accepts, List.isPrefixOf_iff_prefix]
  constructor
  · intro h
    obtain ⟨tail, htail⟩ := h
    exact ⟨String.ofList tail, String.toList_injective (by simp [htail])⟩
  · intro h
    obtain ⟨rest, rfl⟩ := h
    exact ⟨rest.toList, (String.toList_append ..).symm⟩

theorem endsWith_accepts_iff {ending name : String} :
    (NameTest.endsWith ending).accepts name = true ↔ ∃ stem, name = stem ++ ending := by
  rw [NameTest.accepts, List.isSuffixOf_iff_suffix]
  constructor
  · intro h
    obtain ⟨front, hfront⟩ := h
    exact ⟨String.ofList front, String.toList_injective (by simp [hfront])⟩
  · intro h
    obtain ⟨stem, rfl⟩ := h
    exact ⟨stem.toList, (String.toList_append ..).symm⟩

theorem isMatch_dotless_iff {text start name : String} :
    Pattern.isMatch ⟨text, .wholeName start.toList [.dotless]⟩ name = true ↔
      ∃ ending, name = start ++ ending ∧ ending ≠ "" ∧ '.' ∉ ending.toList := by
  rw [Pattern.isMatch, Expr.matchesSomewhere_wholeName_dotless]
  constructor
  · intro h
    obtain ⟨tail, htail, hne, hdot⟩ := h
    refine ⟨String.ofList tail, String.toList_injective (by simp [htail]), ?_, ?_⟩
    · intro hempty
      exact hne (by simpa using congrArg String.toList hempty)
    · rwa [String.toList_ofList]
  · intro h
    obtain ⟨ending, rfl, hne, hdot⟩ := h
    exact ⟨ending.toList, String.toList_append .., fun hnil => hne (String.toList_injective hnil),
      hdot⟩

theorem isMatch_nil_iff {text whole name : String} :
    Pattern.isMatch ⟨text, .wholeName whole.toList []⟩ name = true ↔ name = whole := by
  rw [Pattern.isMatch, Expr.matchesSomewhere_wholeName_nil, String.toList_inj]

theorem any_builtIn_iff (name : String) :
    (builtIn.tests.any fun test => test.accepts name) = true ↔ IsExempt name := by
  have htests : builtIn.tests = [.startsWith ".", .endsWith ".d.ts"] ++
      (toolFiles.filterMap Pattern.ofText?).map .matching := rfl
  simp only [htests, filterMap_toolFiles, List.map_cons, List.map_nil, List.cons_append,
    List.nil_append, List.any_cons, List.any_nil, Bool.or_false, Bool.or_eq_true,
    startsWith_accepts_iff, endsWith_accepts_iff]
  simp only [NameTest.accepts, isMatch_dotless_iff, isMatch_nil_iff]
  constructor
  · intro h
    rcases h with ⟨rest, rfl⟩ | ⟨stem, rfl⟩ | ⟨ending, rfl, hne, hdot⟩ |
      ⟨ending, rfl, hne, hdot⟩ | rfl
    · exact .dotfile rest
    · exact .declaration stem
    · exact .tool (.inl rfl) hne hdot
    · exact .tool (.inr rfl) hne hdot
    · exact .typescript
  · intro h
    cases h with
    | dotfile rest => exact .inl ⟨rest, rfl⟩
    | declaration stem => exact .inr (.inl ⟨stem, rfl⟩)
    | typescript => exact .inr (.inr (.inr (.inr rfl)))
    | tool hstart hne hdot =>
        rcases hstart with rfl | rfl
        · exact .inr (.inr (.inl ⟨_, rfl, hne, hdot⟩))
        · exact .inr (.inr (.inr (.inl ⟨_, rfl, hne, hdot⟩)))

/-! ## Additional patterns -/

theorem ofPattern_eq_ok_iff {text : String} {test : NameTest} :
    NameTest.ofPattern text = .ok test ↔
      ∃ pattern, Pattern.ofText? text = some pattern ∧ test = .matching pattern := by
  unfold NameTest.ofPattern
  cases Pattern.ofText? text <;> simp [eq_comm]

theorem ofPattern_eq_error_iff {text : String} {error : Error} :
    NameTest.ofPattern text = .error error ↔
      error = .badPattern NameTest.extraLabel "pattern" ∧ Pattern.ofText? text = none := by
  unfold NameTest.ofPattern
  cases Pattern.ofText? text <;> simp [eq_comm]

theorem withPatterns_eq_error_iff {extra : List String} {error : Error} :
    withPatterns extra = .error error ↔
      error = .badPattern NameTest.extraLabel "pattern" ∧
        ∃ text ∈ extra, Pattern.ofText? text = none := by
  have hfirst : errorOf? (withPatterns extra) =
      extra.findSome? fun text => errorOf? (NameTest.ofPattern text) := by
    rw [← errorOf?_mapM]
    exact errorOf?_bind_pure ..
  constructor
  · intro h
    rw [← errorOf?_eq_some_iff, hfirst] at h
    obtain ⟨text, hmem, herror⟩ := List.exists_of_findSome?_eq_some h
    obtain ⟨heq, hnone⟩ := ofPattern_eq_error_iff.1 (errorOf?_eq_some_iff.1 herror)
    exact ⟨heq, text, hmem, hnone⟩
  · intro h
    obtain ⟨rfl, text, hmem, hnone⟩ := h
    have herror := errorOf?_eq_some_iff.2 (ofPattern_eq_error_iff.2 ⟨rfl, hnone⟩)
    cases hresult : withPatterns extra with
    | ok names =>
        rw [errorOf?_eq_none_iff.2 ⟨names, hresult⟩] at hfirst
        rw [List.findSome?_eq_none_iff.1 hfirst.symm text hmem] at herror
        cases herror
    | error error' =>
        -- Whichever pattern is found first, the error is the same.
        rw [errorOf?_eq_some_iff.2 hresult] at hfirst
        obtain ⟨_, _, herror'⟩ := List.exists_of_findSome?_eq_some hfirst.symm
        rw [(ofPattern_eq_error_iff.1 (errorOf?_eq_some_iff.1 herror')).1]

theorem any_tests_iff {extra : List String} {tests : List NameTest}
    (h : List.Forall₂ (fun text test => NameTest.ofPattern text = .ok test) extra tests)
    (name : String) :
    (tests.any fun test => test.accepts name) = true ↔
      ∃ text ∈ extra, ∃ pattern, Pattern.ofText? text = some pattern ∧
        pattern.isMatch name = true := by
  induction h with
  | nil => simp
  | cons hread _ ih =>
      obtain ⟨pattern, hpattern, rfl⟩ := ofPattern_eq_ok_iff.1 hread
      rw [List.any_cons, Bool.or_eq_true, ih]
      simp [NameTest.accepts, hpattern]

section Verdicts

variable {extra other : List String} {names : StandaloneNames}

theorem includes_iff (h : withPatterns extra = .ok names) (source : String) :
    names.includes source = true ↔ StandsAlone extra (lastPart source) := by
  obtain ⟨tests, htests, hnames⟩ := bind_eq_ok h
  cases hnames
  rw [includes, StandsAlone, List.any_append, Bool.or_eq_true, any_builtIn_iff,
    any_tests_iff (mapM_eq_ok_iff.1 htests)]

theorem exists_withPatterns (h : withPatterns extra = .ok names) (hsub : other ⊆ extra) :
    ∃ fewer, withPatterns other = .ok fewer := by
  cases hother : withPatterns other with
  | ok fewer => exact ⟨fewer, rfl⟩
  | error error =>
      obtain ⟨heq, text, hmem, hnone⟩ := withPatterns_eq_error_iff.1 hother
      rw [withPatterns_eq_error_iff.2 ⟨heq, text, hsub hmem, hnone⟩] at h
      cases h

theorem StandsAlone.mono {name : String} (h : StandsAlone other name) (hsub : other ⊆ extra) :
    StandsAlone extra name := by
  refine h.imp_right fun hextra => ?_
  obtain ⟨text, hmem, hpattern⟩ := hextra
  exact ⟨text, hsub hmem, hpattern⟩

theorem includes_mono {fewer : StandaloneNames} (h : withPatterns extra = .ok names)
    (hfewer : withPatterns other = .ok fewer) (hsub : other ⊆ extra) {source : String}
    (hincludes : fewer.includes source = true) : names.includes source = true := by
  rw [includes_iff h]
  exact ((includes_iff hfewer source).1 hincludes).mono hsub

end Verdicts

end StandaloneNames

/-! ## Last parts -/

/-- What may stand before the last part of a path. -/
inductive IsFolder : String → Prop
  | none : IsFolder ""
  | slash (start : String) : IsFolder (start ++ "/")
  | backslash (start : String) : IsFolder (start ++ "\\")

/-- A name without separators, after a separator or alone. -/
def IsLastPart (path name : String) : Prop :=
  '/' ∉ name.toList ∧ '\\' ∉ name.toList ∧ ∃ folder, IsFolder folder ∧ path = folder ++ name

theorem lastPart_folder_append {folder : String} (h : IsFolder folder) (path : String) :
    lastPart (folder ++ path) = lastPart path := by
  have hfolder : (folder.toList.reverse.takeWhile fun c => c ≠ '/' ∧ c ≠ '\\') = [] := by
    cases h <;> simp
  rw [lastPart, lastPart, String.toList_append, List.reverse_append, List.takeWhile_append,
    hfolder, List.append_nil]
  split
  next hall => rw [(List.takeWhile_prefix _).eq_of_length hall]
  next => rfl

theorem isFolder_dropWhile (chars : List Char) :
    IsFolder (String.ofList (chars.dropWhile fun c => c ≠ '/' ∧ c ≠ '\\').reverse) := by
  cases hrest : chars.dropWhile fun c => c ≠ '/' ∧ c ≠ '\\' with
  | nil => exact .none
  | cons c rest =>
      have hc : c = '/' ∨ c = '\\' := by
        have hhead := List.head?_dropWhile_not (fun c => c ≠ '/' ∧ c ≠ '\\') chars
        rw [hrest] at hhead
        simpa [Classical.or_iff_not_imp_left] using hhead
      have happend : ∀ d, String.ofList (d :: rest).reverse =
          String.ofList rest.reverse ++ String.ofList [d] := by
        intro d
        rw [List.reverse_cons, String.ofList_append]
      rw [happend]
      rcases hc with rfl | rfl
      · exact .slash _
      · exact .backslash _

theorem isLastPart_lastPart (path : String) : IsLastPart path (lastPart path) := by
  have hclean : ∀ c ∈ (lastPart path).toList, c ≠ '/' ∧ c ≠ '\\' := by
    intro c hc
    rw [lastPart, String.toList_ofList, List.mem_reverse] at hc
    simpa using List.mem_takeWhile_imp hc
  refine ⟨fun hc => (hclean _ hc).1 rfl, fun hc => (hclean _ hc).2 rfl, _,
    isFolder_dropWhile path.toList.reverse, ?_⟩
  rw [lastPart, ← String.ofList_append, ← List.reverse_append, List.takeWhile_append_dropWhile,
    List.reverse_reverse, String.ofList_toList]

theorem lastPart_eq {path name : String} (h : IsLastPart path name) : lastPart path = name := by
  obtain ⟨hslash, hbackslash, folder, hfolder, rfl⟩ := h
  rw [lastPart_folder_append hfolder]
  have hall : (name.toList.reverse.takeWhile fun c => c ≠ '/' ∧ c ≠ '\\') =
      name.toList.reverse := by
    rw [List.takeWhile_eq_self_iff]
    intro c hc
    rw [List.mem_reverse] at hc
    simp only [decide_eq_true_eq]
    exact ⟨fun heq => hslash (heq ▸ hc), fun heq => hbackslash (heq ▸ hc)⟩
  rw [lastPart, hall, List.reverse_reverse, String.ofList_toList]

namespace StandaloneNames

/-- What is said of the files that stand alone, given additional patterns. -/
structure Recognises (extra : List String) : Prop where
  /-- The names are unreadable exactly if one of the patterns is. -/
  fails_iff : ∀ error, withPatterns extra = .error error ↔
    error = .badPattern "orphans.extra_exceptions" "pattern" ∧
      ∃ text ∈ extra, Pattern.ofText? text = none
  /-- Every source has one last part. -/
  last : ∀ source, ∃! name, IsLastPart source name
  /-- The last part decides. -/
  includes_iff : ∀ names, withPatterns extra = .ok names → ∀ source name,
    IsLastPart source name → (names.includes source = true ↔ StandsAlone extra name)
  /-- The folder of a file plays no part. -/
  folder : ∀ names, withPatterns extra = .ok names → ∀ folder, IsFolder folder → ∀ source,
    names.includes (folder ++ source) = names.includes source
  /-- Nor does the order of the patterns. -/
  order : ∀ names, withPatterns extra = .ok names → ∀ other, other.Perm extra →
    ∃ reordered, withPatterns other = .ok reordered ∧
      ∀ source, reordered.includes source = names.includes source
  /-- Without some of the patterns, no other file stands alone. -/
  fewer : ∀ names, withPatterns extra = .ok names → ∀ other, other ⊆ extra →
    ∃ fewer, withPatterns other = .ok fewer ∧
      ∀ source, fewer.includes source = true → names.includes source = true

/-- A file stands alone by the last part of its path: if it is a dotfile, a type declaration or the
configuration of a tool, or if an additional pattern matches it. -/
theorem withPatterns_recognises (extra : List String) : Recognises extra where
  fails_iff _ := withPatterns_eq_error_iff
  last source := ⟨lastPart source, isLastPart_lastPart source, fun _ h => (lastPart_eq h).symm⟩
  includes_iff names h source name hname := by
    rw [StandaloneNames.includes_iff h, lastPart_eq hname]
  folder names h folder hfolder source := by
    rw [includes, includes, lastPart_folder_append hfolder]
  order names h other hperm := by
    obtain ⟨reordered, hreordered⟩ := exists_withPatterns h hperm.subset
    refine ⟨reordered, hreordered, fun source => Bool.eq_iff_iff.2 ⟨?_, ?_⟩⟩
    · exact includes_mono h hreordered hperm.subset
    · exact includes_mono hreordered h hperm.symm.subset
  fewer names h other hsub := by
    obtain ⟨fewer, hfewer⟩ := exists_withPatterns h hsub
    exact ⟨fewer, hfewer, fun _ => includes_mono h hfewer hsub⟩

end StandaloneNames

end DependencyRules
