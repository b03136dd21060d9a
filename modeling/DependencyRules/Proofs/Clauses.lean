import DependencyRules.Proofs.Acceptance
import DependencyRules.Rule.Clauses

/-!
# Rules as conjunctions of clauses

A rule about dependencies is made of clauses: texts that must or must not match, types that must or
must not occur, and flags. Each clause has a meaning of its own, and a rule covers a dependency when
every clause that it has holds, however the clauses are grouped when they are checked.
-/

namespace DependencyRules

/-! ## Clauses and their meaning -/

inductive TextPlace where
  | source
  | target
  | license
  | exoticRequire
  | via
deriving DecidableEq

/-- The texts at a place: none if the candidate lacks the value, several for a cycle. -/
def TextPlace.texts (m : Module) (dependency : Dependency) : TextPlace → List String
  | .source => [m.source]
  | .target => [dependency.target]
  | .license => dependency.license.toList
  | .exoticRequire => dependency.exoticRequire.toList
  | .via => dependency.cycle

inductive FlagPlace where
  | couldNotResolve
  | circular
  | isDynamic
  | moreThanOneDependencyType
  | exoticallyRequired
deriving DecidableEq

def FlagPlace.value (dependency : Dependency) : FlagPlace → Bool
  | .couldNotResolve => dependency.couldNotResolve
  | .circular => dependency.circular
  | .isDynamic => dependency.isDynamic
  | .moreThanOneDependencyType => 1 < dependency.dependencyTypes.length
  | .exoticallyRequired => dependency.exoticallyRequired

inductive Clause where
  | text (place : TextPlace) (isNegated : Bool) (pattern : String)
  | types (isNegated : Bool) (types : List DependencyType)
  | flag (place : FlagPlace) (wanted : Bool)
deriving DecidableEq

/-- What a clause says by itself. One about a text that the candidate lacks does not hold, be it
negated or not. -/
def Clause.Holds (m : Module) (dependency : Dependency) : Clause → Prop
  | .text place isNegated written => ∃ pattern, Pattern.ofText? written = some pattern ∧
      place.texts m dependency ≠ [] ∧
      ((∃ text ∈ place.texts m dependency, pattern.isMatch text = true) ↔ isNegated = false)
  | .types isNegated named =>
      (∃ type ∈ dependency.dependencyTypes, type ∈ named) ↔ isNegated = false
  | .flag place wanted => place.value dependency = wanted

namespace Rule

/-- The pattern of a rule about the texts at a place, or that of the negated form. -/
def textAt (rule : Rule) (place : TextPlace) (isNegated : Bool) : Option String :=
  match place with
  | .source => if isNegated then rule.source.pathNot else rule.source.path
  | .target => if isNegated then rule.target.pathNot else rule.target.path
  | .license => if isNegated then rule.target.licenseNot else rule.target.license
  | .exoticRequire => if isNegated then rule.target.exoticRequireNot else rule.target.exoticRequire
  | .via => if isNegated then rule.target.viaNot else rule.target.via

def typesAt (rule : Rule) (isNegated : Bool) : Option (List DependencyType) :=
  if isNegated then rule.target.dependencyTypesNot else rule.target.dependencyTypes

def flagAt (rule : Rule) : FlagPlace → Option Bool
  | .couldNotResolve => rule.target.couldNotResolve
  | .circular => rule.target.circular
  | .isDynamic => rule.target.isDynamic
  | .moreThanOneDependencyType => rule.target.moreThanOneDependencyType
  | .exoticallyRequired => rule.target.exoticallyRequired

def HasClause (rule : Rule) : Clause → Prop
  | .text place isNegated pattern => rule.textAt place isNegated = some pattern
  | .types isNegated types => rule.typesAt isNegated = some types
  | .flag place wanted => rule.flagAt place = some wanted

end Rule

/-! ## Clauses about texts -/

namespace TextClauses

def part (clauses : TextClauses) (isNegated : Bool) : Option Pattern :=
  if isNegated then clauses.unwanted else clauses.wanted

/-- Both clauses hold for some texts, each by itself. -/
def HoldFor (clauses : TextClauses) (texts : List String) : Prop :=
  ∀ isNegated pattern, clauses.part isNegated = some pattern →
    texts ≠ [] ∧ ((∃ text ∈ texts, pattern.isMatch text = true) ↔ isNegated = false)

theorem holdFor_iff (clauses : TextClauses) (texts : List String) :
    clauses.HoldFor texts ↔
      (∀ pattern, clauses.wanted = some pattern →
        texts ≠ [] ∧ ∃ text ∈ texts, pattern.isMatch text = true) ∧
      ∀ pattern, clauses.unwanted = some pattern →
        texts ≠ [] ∧ ¬ ∃ text ∈ texts, pattern.isMatch text = true := by
  unfold HoldFor
  rw [Bool.forall_bool]
  simp [part]

theorem holdAmong_iff (clauses : TextClauses) (texts : List String) :
    clauses.holdAmong texts = true ↔ clauses.HoldFor texts := by
  rw [holdFor_iff]
  obtain ⟨wanted, unwanted⟩ := clauses
  cases wanted <;> cases unwanted <;> simp [holdAmong, isEmpty, and_assoc]
  tauto

theorem hold_eq (clauses : TextClauses) (text : String) :
    clauses.hold text = clauses.holdAmong [text] := by
  obtain ⟨wanted, unwanted⟩ := clauses
  cases wanted <;> cases unwanted <;> simp [hold, holdAmong, isEmpty]

theorem holdOptional_eq (clauses : TextClauses) (text : Option String) :
    clauses.holdOptional text = clauses.holdAmong text.toList := by
  cases text with
  | none => simp [holdOptional, holdAmong]
  | some text =>
      rw [holdOptional, Option.toList_some, ← hold_eq, Option.any_some]
      obtain ⟨wanted, unwanted⟩ := clauses
      cases wanted <;> cases unwanted <;> simp [hold, isEmpty]

end TextClauses

/-- A pattern is what a text reads as, and both are there or both are not. -/
def ReadsAsPattern (text : Option String) (pattern : Option Pattern) : Prop :=
  text.map Pattern.ofText? = pattern.map some

theorem readsAsPattern_of_readPattern {label field : String} {text : Option String}
    {pattern : Option Pattern} (h : readPattern label field text = .ok pattern) :
    ReadsAsPattern text pattern := by
  cases text with
  | none =>
      cases h
      rfl
  | some text =>
      unfold readPattern at h
      cases hread : Pattern.ofText? text with
      | none => simp [hread] at h
      | some read =>
          simp only [hread, Except.ok.injEq] at h
          simp [ReadsAsPattern, hread, ← h]

theorem readsAsPattern_of_readClauses {label field : String} {wanted unwanted : Option String}
    {clauses : TextClauses} (h : readClauses label field wanted unwanted = .ok clauses)
    (isNegated : Bool) :
    ReadsAsPattern (if isNegated then unwanted else wanted) (clauses.part isNegated) := by
  obtain ⟨read, hread, h⟩ := bind_eq_ok h
  obtain ⟨readNot, hreadNot, h⟩ := bind_eq_ok h
  cases h
  cases isNegated with
  | false => exact readsAsPattern_of_readPattern hread
  | true => exact readsAsPattern_of_readPattern hreadNot

theorem exists_readPattern {text : Option String} (label field : String)
    (h : ∀ written, text = some written → ∃ pattern, Pattern.ofText? written = some pattern) :
    ∃ pattern, readPattern label field text = .ok pattern := by
  cases text with
  | none => exact ⟨none, rfl⟩
  | some written =>
      obtain ⟨pattern, hpattern⟩ := h written rfl
      exact ⟨some pattern, by simp [readPattern, hpattern]⟩

theorem exists_readClauses {wanted unwanted : Option String} (label field : String)
    (h : ∀ (isNegated : Bool) (written : String),
      (if isNegated then unwanted else wanted) = some written →
        ∃ pattern, Pattern.ofText? written = some pattern) :
    ∃ clauses, readClauses label field wanted unwanted = .ok clauses := by
  obtain ⟨read, hread⟩ := exists_readPattern label field (h false)
  obtain ⟨readNot, hreadNot⟩ := exists_readPattern label (field ++ "Not") (h true)
  exact ⟨_, bind_of_eq_ok hread (bind_of_eq_ok hreadNot rfl)⟩

/-- Where a pattern is what a text reads as, a statement about the pattern is one about the text. -/
theorem ReadsAsPattern.forall_iff {text : Option String} {pattern : Option Pattern}
    (h : ReadsAsPattern text pattern) {P : Pattern → Prop} :
    (∀ read, pattern = some read → P read) ↔
      ∀ written, text = some written → ∃ read, Pattern.ofText? written = some read ∧ P read := by
  cases text with
  | none =>
      cases pattern with
      | none => simp
      | some read => simp [ReadsAsPattern] at h
  | some written =>
      cases pattern with
      | none => simp [ReadsAsPattern] at h
      | some read =>
          have hread : Pattern.ofText? written = some read := by simpa [ReadsAsPattern] using h
          simp [hread]

namespace PreparedRule

/-- The clauses of a rule about the texts at a place, with their patterns read. -/
def clausesAt (rule : PreparedRule) : TextPlace → TextClauses
  | .source => rule.source
  | .target => rule.target
  | .license => rule.license
  | .exoticRequire => rule.exoticRequire
  | .via => rule.via

/-- A rule covers a dependency when the clauses at every place, those about types and those about
flags hold. -/
theorem covers_iff (rule : PreparedRule) (m : Module) (dependency : Dependency) :
    rule.covers m dependency = true ↔
      (∀ place, (rule.clausesAt place).HoldFor (place.texts m dependency)) ∧
      rule.rule.target.acceptsTypes dependency.dependencyTypes = true ∧
      rule.rule.target.acceptsFlags dependency = true := by
  have hplaces : (∀ place, (rule.clausesAt place).HoldFor (place.texts m dependency)) ↔
      rule.source.hold m.source = true ∧ rule.target.hold dependency.target = true ∧
      rule.license.holdOptional dependency.license = true ∧
      rule.exoticRequire.holdOptional dependency.exoticRequire = true ∧
      rule.via.holdAmong dependency.cycle = true := by
    simp only [TextClauses.hold_eq, TextClauses.holdOptional_eq, TextClauses.holdAmong_iff]
    refine ⟨fun h => ⟨h .source, h .target, h .license, h .exoticRequire, h .via⟩, ?_⟩
    rintro ⟨hsource, htarget, hlicense, hexoticRequire, hvia⟩ place
    cases place <;> assumption
  rw [hplaces]
  simp only [covers, appliesTo, accepts, aimsAt, Bool.and_eq_true]
  tauto

end PreparedRule

/-! ## Clauses about types and flags -/

theorem agrees_iff {wanted : Option Bool} {actual : Bool} :
    agrees wanted actual = true ↔ ∀ value, wanted = some value → actual = value := by
  cases wanted with
  | none => simp [agrees]
  | some value => simpa [agrees] using eq_comm

namespace Rule

theorem acceptsTypes_and_acceptsFlags_iff (rule : Rule) (dependency : Dependency) :
    rule.target.acceptsTypes dependency.dependencyTypes = true ∧
        rule.target.acceptsFlags dependency = true ↔
      (∀ isNegated types, rule.typesAt isNegated = some types →
        ((∃ type ∈ dependency.dependencyTypes, type ∈ types) ↔ isNegated = false)) ∧
      ∀ place wanted, rule.flagAt place = some wanted → place.value dependency = wanted := by
  have hflags : (∀ place wanted, rule.flagAt place = some wanted →
        place.value dependency = wanted) ↔
      ∀ place, agrees (rule.flagAt place) (place.value dependency) = true := by
    simp only [agrees_iff]
  have htypes : (∀ isNegated types, rule.typesAt isNegated = some types →
        ((∃ type ∈ dependency.dependencyTypes, type ∈ types) ↔ isNegated = false)) ↔
      rule.target.dependencyTypes.all
          (fun wanted => dependency.dependencyTypes.any wanted.contains) = true ∧
      rule.target.dependencyTypesNot.all
          (fun unwanted => !dependency.dependencyTypes.any unwanted.contains) = true := by
    rw [Bool.forall_bool]
    simp [typesAt, Option.all_eq_true]
  rw [hflags, htypes]
  simp only [TargetRestriction.acceptsTypes, TargetRestriction.acceptsFlags, Bool.and_eq_true]
  constructor
  · rintro ⟨⟨⟨hwanted, hunwanted⟩, hmany⟩, ⟨⟨hresolve, hcircular⟩, hdynamic⟩, hexotic⟩
    refine ⟨⟨hwanted, hunwanted⟩, fun place => ?_⟩
    cases place <;> assumption
  · rintro ⟨⟨hwanted, hunwanted⟩, h⟩
    exact ⟨⟨⟨hwanted, hunwanted⟩, h .moreThanOneDependencyType⟩,
      ⟨⟨h .couldNotResolve, h .circular⟩, h .isDynamic⟩, h .exoticallyRequired⟩

/-! ## Whole rules -/

theorem readsAsPattern_of_prepare {rule : Rule} {list : RuleList} {label : String}
    {prepared : PreparedRule} (h : rule.prepare list label = .ok prepared) (place : TextPlace)
    (isNegated : Bool) :
    ReadsAsPattern (rule.textAt place isNegated) ((prepared.clausesAt place).part isNegated) := by
  obtain ⟨source, hsource, h⟩ := bind_eq_ok h
  obtain ⟨target, htarget, h⟩ := bind_eq_ok h
  obtain ⟨license, hlicense, h⟩ := bind_eq_ok h
  obtain ⟨exoticRequire, hexoticRequire, h⟩ := bind_eq_ok h
  obtain ⟨via, hvia, h⟩ := bind_eq_ok h
  cases h
  cases place with
  | source => exact readsAsPattern_of_readClauses hsource isNegated
  | target => exact readsAsPattern_of_readClauses htarget isNegated
  | license => exact readsAsPattern_of_readClauses hlicense isNegated
  | exoticRequire => exact readsAsPattern_of_readClauses hexoticRequire isNegated
  | via => exact readsAsPattern_of_readClauses hvia isNegated

/-- A rule can be read when each of its patterns can. -/
theorem exists_prepare {rule : Rule} (list : RuleList) (label : String)
    (h : ∀ place isNegated written, rule.textAt place isNegated = some written →
      ∃ pattern, Pattern.ofText? written = some pattern) :
    ∃ prepared, rule.prepare list label = .ok prepared := by
  obtain ⟨source, hsource⟩ := exists_readClauses label "from.path" (h .source)
  obtain ⟨target, htarget⟩ := exists_readClauses label "to.path" (h .target)
  obtain ⟨license, hlicense⟩ := exists_readClauses label "to.license" (h .license)
  obtain ⟨exoticRequire, hexoticRequire⟩ :=
    exists_readClauses label "to.exoticRequire" (h .exoticRequire)
  obtain ⟨via, hvia⟩ := exists_readClauses label "to.via" (h .via)
  exact ⟨_, bind_of_eq_ok hsource (bind_of_eq_ok htarget (bind_of_eq_ok hlicense
    (bind_of_eq_ok hexoticRequire (bind_of_eq_ok hvia rfl))))⟩

/-- The patterns of a rule that can be read. -/
theorem exists_pattern_of_prepare {rule : Rule} {list : RuleList} {label : String}
    {prepared : PreparedRule} (h : rule.prepare list label = .ok prepared) {place : TextPlace}
    {isNegated : Bool} {written : String} (hwritten : rule.textAt place isNegated = some written) :
    ∃ pattern, Pattern.ofText? written = some pattern := by
  have hread := readsAsPattern_of_prepare h place isNegated
  rw [hwritten, ReadsAsPattern, Option.map_some] at hread
  obtain ⟨pattern, _, hpattern⟩ := Option.map_eq_some_iff.1 hread.symm
  exact ⟨pattern, hpattern.symm⟩

theorem covers_iff_clauses {rule : Rule} {list : RuleList} {label : String}
    {prepared : PreparedRule} (h : rule.prepare list label = .ok prepared) (m : Module)
    (dependency : Dependency) :
    prepared.covers m dependency = true ↔
      ∀ clause, rule.HasClause clause → clause.Holds m dependency := by
  have htexts : (∀ place, (prepared.clausesAt place).HoldFor (place.texts m dependency)) ↔
      ∀ place isNegated written, rule.HasClause (.text place isNegated written) →
        Clause.Holds m dependency (.text place isNegated written) :=
    forall_congr' fun place => forall_congr' fun isNegated =>
      (readsAsPattern_of_prepare h place isNegated).forall_iff
  rw [prepared.covers_iff, rule_of_prepare h, acceptsTypes_and_acceptsFlags_iff, htexts]
  constructor
  · rintro ⟨htext, htypes, hflag⟩ clause hclause
    cases clause with
    | text place isNegated written => exact htext place isNegated written hclause
    | types isNegated types => exact htypes isNegated types hclause
    | flag place wanted => exact hflag place wanted hclause
  · intro hall
    exact ⟨fun place isNegated written => hall (.text place isNegated written),
      fun isNegated types => hall (.types isNegated types),
      fun place wanted => hall (.flag place wanted)⟩

/-- Two rules together have exactly the clauses of a third. They may share some. -/
def SplitsInto (rule left right : Rule) : Prop :=
  ∀ clause, rule.HasClause clause ↔ left.HasClause clause ∨ right.HasClause clause

/-- A rule with its patterns read is the conjunction of its clauses. -/
structure IsConjunction (rule : Rule) (prepared : PreparedRule) : Prop where
  clauses : ∀ m dependency, prepared.covers m dependency = true ↔
    ∀ clause, rule.HasClause clause → clause.Holds m dependency
  /-- However the clauses are divided, the parts can be read and the rule covers what both cover. -/
  split : ∀ left right, rule.SplitsInto left right → ∀ list label list' label',
    ∃ first second, left.prepare list label = .ok first ∧
      right.prepare list' label' = .ok second ∧
      ∀ m dependency, prepared.covers m dependency = true ↔
        first.covers m dependency = true ∧ second.covers m dependency = true
  /-- With fewer clauses a rule covers no less. -/
  weaken : ∀ part : Rule, (∀ clause, part.HasClause clause → rule.HasClause clause) →
    ∀ list label, ∃ weaker, part.prepare list label = .ok weaker ∧
      ∀ m dependency, prepared.covers m dependency = true → weaker.covers m dependency = true
  /-- A rule without clauses covers everything. -/
  bare : ∀ other : Rule, (∀ clause, ¬ other.HasClause clause) → ∀ list label,
    ∃ read, other.prepare list label = .ok read ∧
      ∀ m dependency, read.covers m dependency = true

/-- Some of the clauses of a rule that can be read make a rule that can be read. -/
theorem exists_prepare_of_part {rule part : Rule} {list : RuleList} {label : String}
    {prepared : PreparedRule} (h : rule.prepare list label = .ok prepared)
    (hpart : ∀ clause, part.HasClause clause → rule.HasClause clause) (list' : RuleList)
    (label' : String) : ∃ read, part.prepare list' label' = .ok read := by
  refine exists_prepare list' label' fun place isNegated written hwritten => ?_
  have hrule : rule.HasClause (.text place isNegated written) := hpart _ hwritten
  exact exists_pattern_of_prepare h hrule

/-- A rule covers a dependency when each of its clauses holds for itself. So its clauses may be
divided among rules at will, and a clause more never makes it cover more. -/
theorem covers_isConjunction {rule : Rule} {list : RuleList} {label : String}
    {prepared : PreparedRule} (h : rule.prepare list label = .ok prepared) :
    rule.IsConjunction prepared where
  clauses := covers_iff_clauses h
  split left right hsplit list label list' label' := by
    obtain ⟨first, hfirst⟩ := exists_prepare_of_part h
      (fun clause hclause => (hsplit clause).2 (.inl hclause)) list label
    obtain ⟨second, hsecond⟩ := exists_prepare_of_part h
      (fun clause hclause => (hsplit clause).2 (.inr hclause)) list' label'
    refine ⟨first, second, hfirst, hsecond, fun m dependency => ?_⟩
    rw [covers_iff_clauses h, covers_iff_clauses hfirst, covers_iff_clauses hsecond,
      ← forall_and]
    refine forall_congr' fun clause => ?_
    rw [hsplit clause, or_imp]
  weaken part hpart list label := by
    obtain ⟨weaker, hweaker⟩ := exists_prepare_of_part h hpart list label
    refine ⟨weaker, hweaker, fun m dependency hcovers => ?_⟩
    rw [covers_iff_clauses h] at hcovers
    rw [covers_iff_clauses hweaker]
    exact fun clause hclause => hcovers clause (hpart clause hclause)
  bare other hnone list label := by
    obtain ⟨read, hread⟩ := exists_prepare_of_part h
      (fun clause hclause => (hnone clause hclause).elim) list label
    refine ⟨read, hread, fun m dependency => ?_⟩
    rw [covers_iff_clauses hread]
    exact fun clause hclause => (hnone clause hclause).elim

/-- A rule with both clauses about licenses and both about cycles, and two rules that share out its
clauses. -/
def licenseRule : Rule :=
  { source := { path := some "^a" }
    target :=
      { license := some "^G", licenseNot := some "3$", via := some "b", viaNot := some "c",
        circular := some true } }

def wantedLicenseRule : Rule := { target := { license := some "^G", viaNot := some "c" } }

def unwantedLicenseRule : Rule :=
  { source := { path := some "^a" }
    target := { licenseNot := some "3$", via := some "b", circular := some true } }

theorem exists_prepare_licenseRule :
    ∃ whole, licenseRule.prepare .forbidden "license" = .ok whole := by
  refine exists_prepare _ _ fun place isNegated written hwritten => ?_
  have hmem : written ∈ ["^a", "^G", "3$", "b", "c"] := by
    cases place <;> cases isNegated <;> simp_all [licenseRule, textAt]
  have hread : ["^a", "^G", "3$", "b", "c"].all fun text => (Pattern.ofText? text).isSome := by
    decide +kernel
  exact Option.isSome_iff_exists.1 (List.all_eq_true.1 hread written hmem)

/-- Neither part covers a dependency without a license, though one of them only refuses licenses. -/
theorem covers_isConjunction_license :
    ∃ whole wanted unwanted, licenseRule.prepare .forbidden "license" = .ok whole ∧
      wantedLicenseRule.prepare .forbidden "wanted" = .ok wanted ∧
      unwantedLicenseRule.prepare .allowed "unwanted" = .ok unwanted ∧
      (∀ m dependency, whole.covers m dependency = true ↔
        wanted.covers m dependency = true ∧ unwanted.covers m dependency = true) ∧
      ∀ m dependency, dependency.license = none →
        wanted.covers m dependency = false ∧ unwanted.covers m dependency = false := by
  obtain ⟨whole, hwhole⟩ := exists_prepare_licenseRule
  have hsplit : licenseRule.SplitsInto wantedLicenseRule unwantedLicenseRule := by
    intro clause
    cases clause with
    | text place isNegated written =>
        cases place <;> cases isNegated <;>
          simp [HasClause, textAt, licenseRule, wantedLicenseRule, unwantedLicenseRule]
    | types isNegated named =>
        simp [HasClause, typesAt, licenseRule, wantedLicenseRule, unwantedLicenseRule]
    | flag place value =>
        cases place <;>
          simp [HasClause, flagAt, licenseRule, wantedLicenseRule, unwantedLicenseRule]
  obtain ⟨wanted, unwanted, hwanted, hunwanted, hiff⟩ :=
    (covers_isConjunction hwhole).split _ _ hsplit .forbidden "wanted" .allowed "unwanted"
  refine ⟨whole, wanted, unwanted, hwhole, hwanted, hunwanted, hiff, fun m dependency hnone => ?_⟩
  have htexts : TextPlace.license.texts m dependency = [] := by simp [TextPlace.texts, hnone]
  constructor
  · rw [← Bool.not_eq_true, covers_iff_clauses hwanted]
    intro hall
    obtain ⟨_, _, hne, _⟩ := hall (.text .license false "^G") rfl
    exact hne htexts
  · rw [← Bool.not_eq_true, covers_iff_clauses hunwanted]
    intro hall
    obtain ⟨_, _, hne, _⟩ := hall (.text .license true "3$") rfl
    exact hne htexts

end Rule

end DependencyRules
