import DependencyRules.Proofs.FirstError

/-!
# Which rule sets are accepted

A rule set is accepted when every rule and the options make sense and every pattern denotes an
expression. Otherwise the error is that of the first mistake: the clauses of the forbidden rules
come before those of the allowed ones, then the options, and only then the patterns, field by field.
-/

namespace DependencyRules

/-! ## Mistakes -/

namespace RuleList

def name : RuleList → String
  | .forbidden => "forbidden"
  | .allowed => "allowed"

def rank : RuleList → Nat
  | .forbidden => 0
  | .allowed => 1

end RuleList

def RuleFault.rank : RuleFault → Nat
  | .orphanAllowed => 0
  | .orphanAndReachable => 1
  | .dependencyClauses => 2
  | .noDependencyTypes => 3

def OptionFault.rank : OptionFault → Nat
  | .notAnObject => 0
  | .depth _ => 1
  | .moduleSystems => 2

namespace Rule

def SpeaksOfOrphans (rule : Rule) : Prop :=
  rule.target.orphan ≠ none ∨ rule.source.orphan ≠ none

def SpeaksOfReach (rule : Rule) : Prop := rule.target.reachable ≠ none

/-- Besides its path, the target is restricted in its role as a module only. -/
def HasModuleTarget (rule : Rule) : Prop :=
  rule.target =
    { path := rule.target.path, pathNot := rule.target.pathNot,
      reachable := rule.target.reachable, orphan := rule.target.orphan }

/-- What makes no sense in a rule of a list. -/
def Breaks (rule : Rule) (list : RuleList) : RuleFault → Prop
  | .orphanAllowed => list = .allowed ∧ rule.SpeaksOfOrphans
  | .orphanAndReachable => rule.SpeaksOfOrphans ∧ rule.SpeaksOfReach
  | .dependencyClauses => (rule.SpeaksOfOrphans ∨ rule.SpeaksOfReach) ∧ ¬ rule.HasModuleTarget
  | .noDependencyTypes => rule.target.dependencyTypes = some []

/-- The fields that hold patterns, in the order in which they are read. -/
def patternFields (rule : Rule) : List (String × Option String) :=
  [("from.path", rule.source.path), ("from.pathNot", rule.source.pathNot),
    ("to.path", rule.target.path), ("to.pathNot", rule.target.pathNot),
    ("to.license", rule.target.license), ("to.licenseNot", rule.target.licenseNot),
    ("to.exoticRequire", rule.target.exoticRequire),
    ("to.exoticRequireNot", rule.target.exoticRequireNot),
    ("to.via", rule.target.via), ("to.viaNot", rule.target.viaNot)]

end Rule

namespace RuleSet

def IsDepth (value : Json) : Prop := ∃ depth : Int, value = .int depth ∧ 0 ≤ depth ∧ depth ≤ 99

def IsSystemList (value : Json) : Prop :=
  ∃ names : List String, value = .array (names.map .string) ∧
    ∀ name ∈ names, name ∈ ["cjs", "amd", "es6", "tsd"]

/-- What is wrong with some options. -/
def OptionsBreak (options : Json) : OptionFault → Prop
  | .notAnObject => ∀ entries, options ≠ .object entries
  | .depth value => ∃ entries, options = .object entries ∧
      Json.lookup "maxDepth" entries = some value ∧ ¬ IsDepth value
  | .moduleSystems => ∃ entries value, options = .object entries ∧
      Json.lookup "moduleSystems" entries = some value ∧ ¬ IsSystemList value

def rulesOf (rules : RuleSet) : RuleList → List Rule
  | .forbidden => rules.forbidden
  | .allowed => rules.allowed

/-- A place in a rule set, by sweep, position of the rule, and check or field. Earlier places have
smaller numbers. -/
def place (sweep position part : Nat) : Nat ×ₗ Nat ×ₗ Nat := toLex (sweep, toLex (position, part))

/-- A mistake, its place, and the error that reports it. -/
inductive IsMistake (rules : RuleSet) : Nat ×ₗ Nat ×ₗ Nat → Error → Prop
  | clauses {list : RuleList} {position : Nat} {rule : Rule} {fault : RuleFault} :
      (rules.rulesOf list)[position]? = some rule → rule.Breaks list fault →
      IsMistake rules (place list.rank position fault.rank)
        (.badRule (rule.label list.name position) fault)
  | options {options : Json} {fault : OptionFault} :
      rules.options = some options → OptionsBreak options fault →
      IsMistake rules (place 2 0 fault.rank) (.badOptions fault)
  | pattern {list : RuleList} {position field : Nat} {rule : Rule} {name text : String} :
      (rules.rulesOf list)[position]? = some rule →
      rule.patternFields[field]? = some (name, some text) → Pattern.ofText? text = none →
      IsMistake rules (place (3 + list.rank) position field)
        (.badPattern (rule.label list.name position) name)

def IsFirstMistake (rules : RuleSet) (error : Error) : Prop :=
  ∃ place, rules.IsMistake place error ∧
    ∀ other error', rules.IsMistake other error' → place ≤ other

/-- Every rule makes sense, the options are in range, and all patterns denote expressions. -/
structure IsAcceptable (rules : RuleSet) : Prop where
  not_both : ∀ rule ∈ rules.forbidden ++ rules.allowed,
    ¬ (rule.SpeaksOfOrphans ∧ rule.SpeaksOfReach)
  module_target : ∀ rule ∈ rules.forbidden ++ rules.allowed,
    rule.SpeaksOfOrphans ∨ rule.SpeaksOfReach → rule.HasModuleTarget
  dependency_types : ∀ rule ∈ rules.forbidden ++ rules.allowed,
    rule.target.dependencyTypes ≠ some []
  no_orphans : ∀ rule ∈ rules.allowed, ¬ rule.SpeaksOfOrphans
  options : ∀ options, rules.options = some options → ∃ entries, options = .object entries ∧
    (∀ value, Json.lookup "maxDepth" entries = some value → IsDepth value) ∧
    ∀ value, Json.lookup "moduleSystems" entries = some value → IsSystemList value
  patterns : ∀ rule ∈ rules.forbidden ++ rules.allowed, ∀ name text,
    (name, some text) ∈ rule.patternFields → ∃ pattern, Pattern.ofText? text = some pattern

end RuleSet

/-! ## The clauses of a rule -/

namespace Rule

theorem isSome_wantedOrphan {rule : Rule} :
    rule.wantedOrphan.isSome = true ↔ rule.SpeaksOfOrphans := by
  unfold wantedOrphan SpeaksOfOrphans
  cases rule.target.orphan <;> simp [Option.isSome_iff_ne_none]

theorem isSome_reachable {rule : Rule} :
    rule.target.reachable.isSome = true ↔ rule.SpeaksOfReach :=
  Option.isSome_iff_ne_none

theorem isAboutModules_iff {rule : Rule} :
    rule.isAboutModules = true ↔ rule.SpeaksOfOrphans ∨ rule.SpeaksOfReach := by
  rw [isAboutModules, Bool.or_eq_true, isSome_wantedOrphan, isSome_reachable]

theorem restrictsDependency_iff {rule : Rule} :
    rule.target.restrictsDependency = true ↔ ¬ rule.HasModuleTarget := by
  unfold HasModuleTarget TargetRestriction.restrictsDependency
  cases rule.target
  simp [Option.isSome_iff_ne_none, not_and_or, or_assoc, -not_and]

theorem findsFirst_fault? (rule : Rule) :
    FindsFirst rule.fault? fun (check : Nat) fault =>
      check = fault.rank ∧ rule.Breaks .forbidden fault := by
  unfold fault?
  refine (((FindsFirst.check _ 3 _).afterCheck _ 2 _ ?_).afterCheck _ 1 _ ?_).congr
    fun check fault => ?_
  · rintro _ _ ⟨rfl, _⟩
    decide
  · rintro _ _ (⟨rfl, _⟩ | ⟨rfl, _⟩) <;> decide
  · simp only [Bool.and_eq_true, isSome_wantedOrphan, isSome_reachable, isAboutModules_iff,
      restrictsDependency_iff]
    cases fault <;> simp [Breaks, RuleFault.rank]

theorem findsFirst_allowedFault? (rule : Rule) :
    FindsFirst rule.allowedFault? fun (check : Nat) fault =>
      check = fault.rank ∧ rule.Breaks .allowed fault := by
  unfold allowedFault?
  refine (rule.findsFirst_fault?.afterCheck _ 0 _ ?_).congr fun check fault => ?_
  · rintro _ fault ⟨rfl, hbreaks⟩
    cases fault with
    | orphanAllowed => cases hbreaks.1
    | _ => decide
  · rw [isSome_wantedOrphan]
    cases fault <;> simp [Breaks, RuleFault.rank]

end Rule

/-! ## The options -/

namespace RuleSet

theorem isDepth_iff {value : Json} : isDepth value = true ↔ IsDepth value := by
  cases value with
  | int depth =>
      have hlimit : depth ≤ depthLimit ↔ depth ≤ 99 := Iff.rfl
      simp [isDepth, IsDepth, hlimit]
  | _ => simp [isDepth, IsDepth]

theorem isSystemList_cons {item : Json} {rest : List Json} :
    IsSystemList (.array (item :: rest)) ↔
      (∃ name ∈ ["cjs", "amd", "es6", "tsd"], item = .string name) ∧
        IsSystemList (.array rest) := by
  constructor
  · rintro ⟨names, heq, hnames⟩
    cases names with
    | nil => simp at heq
    | cons name names =>
        rw [Json.array.injEq, List.map_cons, List.cons.injEq] at heq
        obtain ⟨rfl, rfl⟩ := heq
        rw [List.forall_mem_cons] at hnames
        exact ⟨⟨name, hnames.1, rfl⟩, names, rfl, hnames.2⟩
  · rintro ⟨⟨name, hname, rfl⟩, names, heq, hnames⟩
    rw [Json.array.injEq] at heq
    subst heq
    exact ⟨name :: names, rfl, List.forall_mem_cons.2 ⟨hname, hnames⟩⟩

theorem isModuleSystems_iff {value : Json} : isModuleSystems value = true ↔ IsSystemList value := by
  cases value with
  | array items =>
      induction items with
      | nil => exact iff_of_true rfl ⟨[], rfl, by simp⟩
      | cons item rest ih =>
          rw [isSystemList_cons, ← ih]
          cases item <;> simp [isModuleSystems, moduleSystems]
  | _ => simp [isModuleSystems, IsSystemList]

theorem all_isModuleSystems_iff {entries : List (String × Json)} :
    (Json.lookup "moduleSystems" entries).all isModuleSystems = true ↔
      ¬ OptionsBreak (.object entries) .moduleSystems := by
  rw [Option.all_eq_true]
  simp only [isModuleSystems_iff, OptionsBreak, Json.object.injEq]
  constructor
  · rintro hall ⟨_, value, rfl, hlookup, hnot⟩
    exact hnot (hall value hlookup)
  · intro hnot value hlookup
    by_contra hsystems
    exact hnot ⟨entries, value, rfl, hlookup, hsystems⟩

theorem findsFirst_optionFault? (options : Json) :
    FindsFirst (optionFault? options) fun (check : Nat) fault =>
      check = fault.rank ∧ OptionsBreak options fault := by
  cases options with
  | object entries =>
      have hsystems : FindsFirst
          (if (Json.lookup "moduleSystems" entries).all isModuleSystems then none
            else some OptionFault.moduleSystems)
          fun (check : Nat) fault => check = 2 ∧ fault = .moduleSystems ∧
            OptionsBreak (.object entries) .moduleSystems := by
        have hcheck := FindsFirst.check
          (¬ (Json.lookup "moduleSystems" entries).all isModuleSystems = true) 2
          OptionFault.moduleSystems
        simpa only [ite_not, all_isModuleSystems_iff, not_not] using hcheck
      cases hdepth : Json.lookup "maxDepth" entries with
      | none =>
          simp only [optionFault?, hdepth]
          refine hsystems.congr fun check fault => ?_
          cases fault <;> simp [OptionsBreak, OptionFault.rank, hdepth]
      | some depth =>
          simp only [optionFault?, hdepth]
          refine (hsystems.afterCheck _ 1 _ ?_).congr fun check fault => ?_
          · rintro _ _ ⟨rfl, _⟩
            decide
          · rw [Bool.not_eq_true', ← Bool.not_eq_true, isDepth_iff]
            cases fault with
            | depth value =>
                have hvalue : value = depth ∧ ¬ IsDepth depth ↔
                    depth = value ∧ ¬ IsDepth value := by
                  constructor <;> (rintro ⟨rfl, hnot⟩; exact ⟨rfl, hnot⟩)
                simp [OptionsBreak, OptionFault.rank, hdepth, hvalue]
            | _ => simp [OptionsBreak, OptionFault.rank]
  | _ =>
      refine (FindsFirst.check True 0 OptionFault.notAnObject).congr fun check fault => ?_
      cases fault <;> simp [OptionsBreak, OptionFault.rank]

/-! ## The rules of a list -/

theorem findsFirst_firstFault? {list : RuleList} {fault? : Rule → Option RuleFault}
    (h : ∀ rule, FindsFirst (fault? rule) fun (check : Nat) fault =>
      check = fault.rank ∧ rule.Breaks list fault) (rules : List Rule) :
    FindsFirst (firstFault? list.name fault? rules) fun (place : Nat ×ₗ Nat) error =>
      ∃ position rule fault, place = toLex (position, fault.rank) ∧
        rules[position]? = some rule ∧ rule.Breaks list fault ∧
        error = .badRule (rule.label list.name position) fault := by
  refine (FindsFirst.zipIdx (fun rule position =>
    (h rule).map (Error.badRule (rule.label list.name position))) rules).congr fun place error => ?_
  constructor
  · rintro ⟨position, rule, _, rfl, hget, fault, ⟨rfl, hbreaks⟩, rfl⟩
    exact ⟨position, rule, fault, rfl, hget, hbreaks, rfl⟩
  · rintro ⟨position, rule, fault, rfl, hget, hbreaks, rfl⟩
    exact ⟨position, rule, _, rfl, hget, fault, ⟨rfl, hbreaks⟩, rfl⟩

end RuleSet

theorem errorOf?_readPattern {label field : String} {text : Option String} {error : Error} :
    errorOf? (readPattern label field text) = some error ↔
      ∃ pattern, text = some pattern ∧ Pattern.ofText? pattern = none ∧
        error = .badPattern label field := by
  cases text with
  | none => simp [readPattern, errorOf?]
  | some text =>
      cases hread : Pattern.ofText? text <;> simp [readPattern, errorOf?, hread, eq_comm]

theorem errorOf?_readClauses (label field : String) (wanted unwanted : Option String) :
    errorOf? (readClauses label field wanted unwanted) =
      (errorOf? (readPattern label field wanted)).or
        (errorOf? (readPattern label (field ++ "Not") unwanted)) := by
  exact errorOf?_bind fun _ _ => errorOf?_bind_pure ..

theorem Rule.errorOf?_prepare (rule : Rule) (list : RuleList) (label : String) :
    errorOf? (rule.prepare list label) =
      rule.patternFields.findSome? fun field => errorOf? (readPattern label field.1 field.2) := by
  have hclauses : errorOf? (rule.prepare list label) =
      (errorOf? (readClauses label "from.path" rule.source.path rule.source.pathNot)).or
        ((errorOf? (readClauses label "to.path" rule.target.path rule.target.pathNot)).or
          ((errorOf? (readClauses label "to.license" rule.target.license rule.target.licenseNot)).or
            ((errorOf? (readClauses label "to.exoticRequire" rule.target.exoticRequire
                rule.target.exoticRequireNot)).or
              ((errorOf? (readClauses label "to.via" rule.target.via rule.target.viaNot)).or
                none)))) :=
    errorOf?_bind fun _ _ => errorOf?_bind fun _ _ => errorOf?_bind fun _ _ =>
      errorOf?_bind fun _ _ => errorOf?_bind fun _ _ => by cases list <;> rfl
  simp only [hclauses, errorOf?_readClauses, patternFields, findSome?_cons_eq_or,
    List.findSome?_nil, Option.or_assoc]
  rfl

theorem Rule.findsFirst_prepare (rule : Rule) (list : RuleList) (label : String) :
    FindsFirst (errorOf? (rule.prepare list label)) fun (field : Nat) error =>
      ∃ name text, rule.patternFields[field]? = some (name, some text) ∧
        Pattern.ofText? text = none ∧ error = .badPattern label name := by
  rw [errorOf?_prepare]
  refine (FindsFirst.atItem _ rule.patternFields).congr fun field error => ?_
  simp only [errorOf?_readPattern, Prod.exists]
  constructor
  · rintro ⟨name, _, hget, text, rfl, hread, rfl⟩
    exact ⟨name, text, hget, hread, rfl⟩
  · rintro ⟨name, text, hget, hread, rfl⟩
    exact ⟨name, _, hget, text, rfl, hread, rfl⟩

namespace RuleSet

theorem findsFirst_patterns (list : RuleList) (rules : List Rule) :
    FindsFirst
      (rules.zipIdx.findSome? fun item =>
        errorOf? (item.1.prepare list (item.1.label list.name item.2)))
      fun (place : Nat ×ₗ Nat) error => ∃ position rule field name text,
        place = toLex (position, field) ∧ rules[position]? = some rule ∧
        rule.patternFields[field]? = some (name, some text) ∧ Pattern.ofText? text = none ∧
        error = .badPattern (rule.label list.name position) name := by
  refine (FindsFirst.zipIdx (fun rule position =>
    rule.findsFirst_prepare list (rule.label list.name position)) rules).congr fun place error => ?_
  constructor
  · rintro ⟨position, rule, field, rfl, hget, name, text, hfield, hread, rfl⟩
    exact ⟨position, rule, field, name, text, rfl, hget, hfield, hread, rfl⟩
  · rintro ⟨position, rule, field, name, text, rfl, hget, hfield, hread, rfl⟩
    exact ⟨position, rule, field, rfl, hget, name, text, hfield, hread, rfl⟩

/-- The error of a rule set that is not accepted, sweep by sweep. -/
theorem errorOf?_prepare (rules : RuleSet) :
    errorOf? rules.prepare =
      rules.fault?.or
        ((rules.forbidden.zipIdx.findSome? fun item =>
            errorOf? (item.1.prepare .forbidden (item.1.label "forbidden" item.2))).or
          (rules.allowed.zipIdx.findSome? fun item =>
            errorOf? (item.1.prepare .allowed (item.1.label "allowed" item.2)))) := by
  unfold prepare
  cases rules.fault? with
  | some error => rfl
  | none =>
      rw [Option.none_or]
      have hallowed : ∀ item : Rule × Nat, errorOf? (do
          let prepared ← item.1.prepare .allowed (item.1.label "allowed" item.2)
          return { prepared with severity := rules.allowedSeverity }) =
            errorOf? (item.1.prepare .allowed (item.1.label "allowed" item.2)) :=
        fun item => errorOf?_bind_pure ..
      simp only [← hallowed, ← errorOf?_mapM]
      exact errorOf?_bind fun _ _ => errorOf?_bind_pure ..

theorem findsFirst_options (rules : RuleSet) :
    FindsFirst ((rules.options.bind optionFault?).map Error.badOptions)
      fun (place : Nat ×ₗ Nat) error => ∃ options fault, place = toLex (0, fault.rank) ∧
        rules.options = some options ∧ OptionsBreak options fault ∧ error = .badOptions fault := by
  cases hoptions : rules.options with
  | none => exact ⟨by simp, by simp, by simp⟩
  | some options =>
      rw [Option.bind_some]
      refine (((findsFirst_optionFault? options).map Error.badOptions).moved
        (FindsFirst.strictMono_toLex 0)).congr fun place error => ?_
      constructor
      · rintro ⟨_, rfl, fault, ⟨rfl, hbreak⟩, rfl⟩
        exact ⟨options, fault, rfl, rfl, hbreak, rfl⟩
      · rintro ⟨_, fault, rfl, hsome, hbreak, rfl⟩
        cases hsome
        exact ⟨_, rfl, fault, ⟨rfl, hbreak⟩, rfl⟩

theorem findsFirst_prepare (rules : RuleSet) :
    FindsFirst (errorOf? rules.prepare) rules.IsMistake := by
  rw [errorOf?_prepare, fault?, Option.or_assoc, Option.or_assoc]
  have hallowed := (findsFirst_patterns .allowed rules.allowed).moved
    (FindsFirst.strictMono_toLex 4)
  have hpatterns := (findsFirst_patterns .forbidden rules.forbidden).sweep 3 hallowed (by
    rintro _ _ ⟨_, rfl, _⟩
    simp)
  have hoptions := rules.findsFirst_options.sweep 2 hpatterns (by
    rintro _ _ (⟨_, rfl, _⟩ | ⟨_, rfl, _⟩) <;> simp)
  have hclauses := (findsFirst_firstFault? Rule.findsFirst_allowedFault? rules.allowed).sweep 1
    hoptions (by rintro _ _ (⟨_, rfl, _⟩ | ⟨_, rfl, _⟩ | ⟨_, rfl, _⟩) <;> simp)
  refine ((findsFirst_firstFault? Rule.findsFirst_fault? rules.forbidden).sweep 0 hclauses (by
    rintro _ _ (⟨_, rfl, _⟩ | ⟨_, rfl, _⟩ | ⟨_, rfl, _⟩ | ⟨_, rfl, _⟩) <;> simp)).congr
      fun place error => ?_
  constructor
  · rintro (⟨_, rfl, position, rule, fault, rfl, hget, hbreaks, rfl⟩ |
      ⟨_, rfl, position, rule, fault, rfl, hget, hbreaks, rfl⟩ |
      ⟨_, rfl, options, fault, rfl, hsome, hbreak, rfl⟩ |
      ⟨_, rfl, position, rule, field, name, text, rfl, hget, hfield, hread, rfl⟩ |
      ⟨_, rfl, position, rule, field, name, text, rfl, hget, hfield, hread, rfl⟩)
    · exact @IsMistake.clauses rules .forbidden _ _ _ hget hbreaks
    · exact @IsMistake.clauses rules .allowed _ _ _ hget hbreaks
    · exact .options hsome hbreak
    · exact @IsMistake.pattern rules .forbidden _ _ _ _ _ hget hfield hread
    · exact @IsMistake.pattern rules .allowed _ _ _ _ _ hget hfield hread
  · intro hmistake
    cases hmistake with
    | @clauses list position rule fault hget hbreaks =>
        cases list with
        | forbidden => exact .inl ⟨_, rfl, position, rule, fault, rfl, hget, hbreaks, rfl⟩
        | allowed => exact .inr (.inl ⟨_, rfl, position, rule, fault, rfl, hget, hbreaks, rfl⟩)
    | @options options fault hsome hbreak =>
        exact .inr (.inr (.inl ⟨_, rfl, options, fault, rfl, hsome, hbreak, rfl⟩))
    | @pattern list position field rule name text hget hfield hread =>
        cases list with
        | forbidden =>
            exact .inr (.inr (.inr (.inl
              ⟨_, rfl, position, rule, field, name, text, rfl, hget, hfield, hread, rfl⟩)))
        | allowed =>
            exact .inr (.inr (.inr (.inr
              ⟨_, rfl, position, rule, field, name, text, rfl, hget, hfield, hread, rfl⟩)))

theorem mem_rules_iff {rules : RuleSet} {rule : Rule} :
    rule ∈ rules.forbidden ++ rules.allowed ↔
      ∃ (list : RuleList) (position : Nat), (rules.rulesOf list)[position]? = some rule := by
  rw [List.mem_append, List.mem_iff_getElem?, List.mem_iff_getElem?]
  constructor
  · rintro (⟨position, hget⟩ | ⟨position, hget⟩)
    · exact ⟨.forbidden, position, hget⟩
    · exact ⟨.allowed, position, hget⟩
  · rintro ⟨list, position, hget⟩
    cases list with
    | forbidden => exact .inl ⟨position, hget⟩
    | allowed => exact .inr ⟨position, hget⟩

theorem IsAcceptable.not_isMistake {rules : RuleSet} (h : rules.IsAcceptable)
    {place : Nat ×ₗ Nat ×ₗ Nat} {error : Error} : ¬ rules.IsMistake place error := by
  intro hmistake
  cases hmistake with
  | @clauses list position rule fault hget hbreaks =>
      have hmem : rule ∈ rules.forbidden ++ rules.allowed := mem_rules_iff.2 ⟨list, position, hget⟩
      cases fault with
      | orphanAllowed =>
          obtain ⟨rfl, horphans⟩ := hbreaks
          exact h.no_orphans rule (List.mem_of_getElem? hget) horphans
      | orphanAndReachable => exact h.not_both rule hmem hbreaks
      | dependencyClauses => exact hbreaks.2 (h.module_target rule hmem hbreaks.1)
      | noDependencyTypes => exact h.dependency_types rule hmem hbreaks
  | @options options fault hsome hbreak =>
      obtain ⟨entries, rfl, hdepth, hsystems⟩ := h.options options hsome
      cases fault with
      | notAnObject => exact hbreak entries rfl
      | depth value =>
          obtain ⟨_, hobject, hlookup, hnot⟩ := hbreak
          cases hobject
          exact hnot (hdepth value hlookup)
      | moduleSystems =>
          obtain ⟨_, value, hobject, hlookup, hnot⟩ := hbreak
          cases hobject
          exact hnot (hsystems value hlookup)
  | @pattern list position field rule name text hget hfield hread =>
      have hmem : rule ∈ rules.forbidden ++ rules.allowed := mem_rules_iff.2 ⟨list, position, hget⟩
      obtain ⟨pattern, hpattern⟩ :=
        h.patterns rule hmem name text (List.mem_of_getElem? hfield)
      rw [hread] at hpattern
      cases hpattern

theorem isAcceptable_of_not_isMistake {rules : RuleSet}
    (h : ∀ place error, ¬ rules.IsMistake place error) : rules.IsAcceptable := by
  have hclauses : ∀ rule ∈ rules.forbidden ++ rules.allowed, ∃ list, ∀ fault,
      ¬ rule.Breaks list fault := by
    intro rule hmem
    obtain ⟨list, position, hget⟩ := mem_rules_iff.1 hmem
    exact ⟨list, fun fault hbreaks => h _ _ (.clauses hget hbreaks)⟩
  refine
    { not_both := fun rule hmem hboth => ?_, module_target := fun rule hmem habout => ?_
      dependency_types := fun rule hmem hempty => ?_, no_orphans := fun rule hmem horphans => ?_
      options := fun options hsome => ?_, patterns := fun rule hmem name text hfield => ?_ }
  · obtain ⟨list, hnot⟩ := hclauses rule hmem
    exact hnot .orphanAndReachable hboth
  · obtain ⟨list, hnot⟩ := hclauses rule hmem
    by_contra htarget
    exact hnot .dependencyClauses ⟨habout, htarget⟩
  · obtain ⟨list, hnot⟩ := hclauses rule hmem
    exact hnot .noDependencyTypes hempty
  · obtain ⟨position, hget⟩ := List.getElem?_of_mem hmem
    exact h _ _ (@IsMistake.clauses rules .allowed _ _ .orphanAllowed hget ⟨rfl, horphans⟩)
  · have hfits : ∀ fault, ¬ OptionsBreak options fault :=
      fun fault hbreak => h _ _ (.options hsome hbreak)
    by_cases hobject : ∃ entries, options = .object entries
    · obtain ⟨entries, rfl⟩ := hobject
      refine ⟨entries, rfl, fun value hlookup => ?_, fun value hlookup => ?_⟩
      · by_contra hdepth
        exact hfits (.depth value) ⟨entries, rfl, hlookup, hdepth⟩
      · by_contra hsystems
        exact hfits .moduleSystems ⟨entries, value, rfl, hlookup, hsystems⟩
    · exact (hfits .notAnObject fun entries heq => hobject ⟨entries, heq⟩).elim
  · obtain ⟨list, position, hget⟩ := mem_rules_iff.1 hmem
    obtain ⟨field, hgetField⟩ := List.getElem?_of_mem hfield
    cases hread : Pattern.ofText? text with
    | some pattern => exact ⟨pattern, rfl⟩
    | none => exact (h _ _ (.pattern hget hgetField hread)).elim

/-- A rule set is accepted exactly when it is acceptable, and the error of any other is that of its
first mistake. -/
theorem prepare_finds_first_mistake (rules : RuleSet) :
    ((∃ prepared, rules.prepare = .ok prepared) ↔ rules.IsAcceptable) ∧
      ∀ error, rules.prepare = .error error ↔ rules.IsFirstMistake error := by
  constructor
  · rw [← errorOf?_eq_none_iff, rules.findsFirst_prepare.eq_none_iff]
    exact ⟨isAcceptable_of_not_isMistake, fun h _ _ => h.not_isMistake⟩
  · intro error
    rw [← errorOf?_eq_some_iff, rules.findsFirst_prepare.eq_some_iff]
    rfl

end RuleSet

end DependencyRules
