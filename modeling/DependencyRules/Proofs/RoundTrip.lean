import DependencyRules.Graph.Format
import DependencyRules.Proofs.Records
import DependencyRules.Rule.Format

/-!
# Graphs and rule sets survive the round trip

Every type of the two documents is read back from its written form, from the leaves up. Types
without pass-through data are read back whatever their value; a dependency, a module, a summary, a
graph and a rule set are read back when they were read before, since then their pass-through data
is within the limits of the format and clashes with none of their fields. `hroom` counts the levels
of arrays and objects that a type needs below its own.
-/

namespace DependencyRules

open Document Document.Fields Json

variable {depth : Nat}

theorem Severity.gives (severity : Severity) : severity.toJson.Gives depth severity :=
  ⟨.string _, ofLabel?_label severity⟩

theorem DependencyType.gives (type : DependencyType) : type.toJson.Gives depth type :=
  ⟨.string _, ofLabel?_label type⟩

/-! ## Violations -/

theorem RuleReference.gives (hroom : depth ≤ maxDepth) (rule : RuleReference) :
    rule.toJson.Gives depth rule := by
  have hseverity : Json.Gives (depth + 1) rule.severity.toJson rule.severity :=
    rule.severity.gives
  refine IsRecord.gives ⟨hroom, by simp, by simp [hseverity.fits], isExtra_nil _ _⟩ ?_
  intro entries h
  apply bind_of_eq_some rfl
  apply h.required "name" (gives_string rule.name) (by simp)
  apply h.required "severity" hseverity (by simp)
  rfl

theorem BrokenRule.gives (hroom : depth ≤ maxDepth) (rule : BrokenRule) :
    rule.toJson.Gives depth rule := by
  have hseverity : Json.Gives (depth + 1) rule.severity.toJson rule.severity :=
    rule.severity.gives
  refine IsRecord.gives ⟨hroom, by simp, by simp [hseverity.fits], isExtra_nil _ _⟩ ?_
  intro entries h
  apply bind_of_eq_some rfl
  apply h.required "name" (gives_string rule.name) (by simp)
  apply h.required "severity" hseverity (by simp)
  apply h.optionalString "comment" rule.comment (by simp)
  rfl

theorem Violation.gives (hroom : depth + 1 ≤ maxDepth) (violation : Violation) :
    violation.toJson.Gives depth violation := by
  have hrule := violation.rule.gives hroom
  have hcycle := gives_strings hroom violation.cycle
  have hvia := fun way (_ : way ∈ violation.via) => gives_strings hroom way
  refine IsRecord.gives ⟨by omega, by simp, ?_, isExtra_nil _ _⟩ ?_
  · simp +contextual [hrule.fits, hcycle.nonEmptyArray, fun way hway => (hvia way hway).fits]
  · intro entries h
    apply bind_of_eq_some rfl
    apply h.required "rule" hrule (by simp)
    apply h.required "from" (gives_string violation.source) (by simp)
    apply h.required "to" (gives_string violation.target) (by simp)
    apply h.list "cycle" hcycle (by simp)
    apply h.optional "via" hvia (by simp [strings]) (by simp)
    rfl

/-- What reading a summary ensures: counts of 64 bits and extra data within the limits. -/
structure Summary.Fits (depth : Nat) (summary : Summary) : Prop where
  error : summary.error < Nat.pow 2 64
  warn : summary.warn < Nat.pow 2 64
  info : summary.info < Nat.pow 2 64
  totalCruised : summary.totalCruised < Nat.pow 2 64
  totalDependenciesCruised : summary.totalDependenciesCruised < Nat.pow 2 64
  extra : IsExtra (depth + 1) fieldNames summary.extra

theorem Summary.fits_empty : Fits depth {} where
  error := by decide
  warn := by decide
  info := by decide
  totalCruised := by decide
  totalDependenciesCruised := by decide
  extra := isExtra_nil _ _

theorem Summary.fits_of_isRead {summary : Summary} (h : IsRead depth summary) :
    summary.Fits depth := by
  obtain ⟨document, hfits, hread⟩ := h
  obtain ⟨fields, hfields, hread⟩ := Option.bind_eq_some_iff.1 hread
  obtain ⟨_, -, hread⟩ := Option.bind_eq_some_iff.1 hread
  obtain ⟨error, herror, hread⟩ := Option.bind_eq_some_iff.1 hread
  obtain ⟨warn, hwarn, hread⟩ := Option.bind_eq_some_iff.1 hread
  obtain ⟨info, hinfo, hread⟩ := Option.bind_eq_some_iff.1 hread
  obtain ⟨total, htotal, hread⟩ := Option.bind_eq_some_iff.1 hread
  obtain ⟨totalDependencies, htotalDependencies, hread⟩ := Option.bind_eq_some_iff.1 hread
  obtain ⟨extra, hextra, hread⟩ := Option.bind_eq_some_iff.1 hread
  cases hread
  have hfields := Fields.fits_of_entries? hfits hfields
  have hcount : ∀ {name n}, fields.withDefault name 0 = some n → n < Nat.pow 2 64 := by
    intro name n hn
    rcases hfields.isRead_of_withDefault hn with rfl | hn
    · decide
    · exact hn.lt
  exact ⟨hcount herror, hcount hwarn, hcount hinfo, hcount htotal, hcount htotalDependencies,
    hfields.isExtra hextra⟩

theorem Summary.Fits.gives (hroom : depth + 3 ≤ maxDepth) {summary : Summary}
    (hsummary : summary.Fits depth) : summary.toJson.Gives depth summary := by
  have hviolations : Json.Gives (depth + 1)
      (.array (summary.violations.map Violation.toJson)) summary.violations :=
    gives_array (by omega) fun violation _ => violation.gives (by omega)
  have hcount : ∀ {n : Nat}, n < Nat.pow 2 64 → Json.Gives (depth + 1) (.int n) n := gives_count
  refine IsRecord.gives ⟨by omega, by simp, ?_, hsummary.extra⟩ ?_
  · simp [hviolations.fits, (hcount hsummary.error).fits, (hcount hsummary.warn).fits,
      (hcount hsummary.info).fits, (hcount hsummary.totalCruised).fits,
      (hcount hsummary.totalDependenciesCruised).fits]
  · intro entries h
    -- The names of the written fields are the names that reading sets apart from the extra data.
    have hextra : Fields.extra? ⟨.json, entries⟩ fieldNames = some summary.extra := h.extra
    apply bind_of_eq_some rfl
    apply h.withDefault "violations" hviolations (by simp)
    apply h.withDefault "error" (hcount hsummary.error) (by simp)
    apply h.withDefault "warn" (hcount hsummary.warn) (by simp)
    apply h.withDefault "info" (hcount hsummary.info) (by simp)
    apply h.withDefault "totalCruised" (hcount hsummary.totalCruised) (by simp)
    apply h.withDefault "totalDependenciesCruised" (hcount hsummary.totalDependenciesCruised)
      (by simp)
    apply bind_of_eq_some hextra
    rfl

/-! ## Graphs -/

theorem Dependency.isExtra_of_isRead {dependency : Dependency} (h : IsRead depth dependency) :
    IsExtra (depth + 1) fieldNames dependency.extra := by
  obtain ⟨document, hfits, hread⟩ := h
  obtain ⟨fields, hfields, hread⟩ := Option.bind_eq_some_iff.1 hread
  -- Nothing is needed about the thirteen fields before the extra data.
  iterate 13 obtain ⟨_, -, hread⟩ := Option.bind_eq_some_iff.1 hread
  obtain ⟨extra, hextra, hread⟩ := Option.bind_eq_some_iff.1 hread
  cases hread
  exact (Fields.fits_of_entries? hfits hfields).isExtra hextra

theorem Dependency.gives (hroom : depth + 2 ≤ maxDepth) {dependency : Dependency}
    (hread : IsRead depth dependency) : dependency.toJson.Gives depth dependency := by
  have htypes : Json.Gives (depth + 1)
      (.array (dependency.dependencyTypes.map DependencyType.toJson)) dependency.dependencyTypes :=
    gives_array (by omega) fun type _ => type.gives
  have hcycle : Json.Gives (depth + 1) (strings dependency.cycle) dependency.cycle :=
    gives_strings (by omega) _
  have hrules : Json.Gives (depth + 1)
      (.array (dependency.rules.map RuleReference.toJson)) dependency.rules :=
    gives_array (by omega) fun rule _ => rule.gives (by omega)
  refine IsRecord.gives ⟨by omega, by simp, ?_, isExtra_of_isRead hread⟩ ?_
  · simp [htypes.fits, hcycle.nonEmptyArray, hrules.nonEmptyArray]
  · intro entries h
    have hextra : Fields.extra? ⟨.json, entries⟩ fieldNames = some dependency.extra := h.extra
    apply bind_of_eq_some rfl
    apply h.required "module" (gives_string dependency.specifier) (by simp)
    apply h.withDefault "resolved" (gives_string dependency.resolved) (by simp)
    apply h.withDefault "dependencyTypes" htypes (by simp)
    apply h.withDefault "dynamic" (gives_bool dependency.isDynamic) (by simp)
    apply h.withDefault "followable" (gives_bool dependency.followable) (by simp)
    apply h.withDefault "circular" (gives_bool dependency.circular) (by simp)
    apply h.list "cycle" hcycle (by simp)
    apply h.withDefault "couldNotResolve" (gives_bool dependency.couldNotResolve) (by simp)
    apply h.optionalString "license" dependency.license (by simp)
    apply h.withDefault "exoticallyRequired" (gives_bool dependency.exoticallyRequired) (by simp)
    apply h.optionalString "exoticRequire" dependency.exoticRequire (by simp)
    apply h.optionalBool "valid" dependency.valid (by simp)
    apply h.list "rules" hrules (by simp)
    apply bind_of_eq_some hextra
    rfl

theorem Route.gives (hroom : depth + 1 ≤ maxDepth) (route : Route) :
    route.toJson.Gives depth route := by
  have hvia := gives_strings hroom route.via
  refine IsRecord.gives ⟨by omega, by simp, ?_, isExtra_nil _ _⟩ ?_
  · simp [hvia.nonEmptyArray]
  · intro entries h
    apply bind_of_eq_some rfl
    apply h.required "source" (gives_string route.source) (by simp)
    apply h.list "via" hvia (by simp)
    rfl

theorem Routes.gives (hroom : depth + 3 ≤ maxDepth) (routes : Routes) :
    routes.toJson.Gives depth routes := by
  have hroutes : Json.Gives (depth + 1) (.array (routes.routes.map Route.toJson)) routes.routes :=
    gives_array (by omega) fun route _ => route.gives (by omega)
  refine IsRecord.gives ⟨by omega, by simp, by simp [hroutes.fits], isExtra_nil _ _⟩ ?_
  intro entries h
  apply bind_of_eq_some rfl
  apply h.required "modules" hroutes (by simp)
  apply h.required "asDefinedInRule" (gives_string routes.heading) (by simp)
  rfl

theorem Arrival.gives (hroom : depth ≤ maxDepth) (arrival : Arrival) :
    arrival.toJson.Gives depth arrival := by
  refine IsRecord.gives ⟨hroom, by simp, by simp, isExtra_nil _ _⟩ ?_
  intro entries h
  apply bind_of_eq_some rfl
  apply h.required "value" (gives_bool arrival.isReached) (by simp)
  apply h.required "asDefinedInRule" (gives_string arrival.heading) (by simp)
  apply h.optionalString "matchedFrom" arrival.root (by simp)
  rfl

theorem Module.of_isRead {m : Module} (h : IsRead depth m) :
    (∀ dependency ∈ m.dependencies, IsRead (depth + 2) dependency) ∧
      IsExtra (depth + 1) fieldNames m.extra := by
  obtain ⟨document, hfits, hread⟩ := h
  obtain ⟨fields, hfields, hread⟩ := Option.bind_eq_some_iff.1 hread
  iterate 2 obtain ⟨_, -, hread⟩ := Option.bind_eq_some_iff.1 hread
  obtain ⟨dependencies, hdependencies, hread⟩ := Option.bind_eq_some_iff.1 hread
  iterate 5 obtain ⟨_, -, hread⟩ := Option.bind_eq_some_iff.1 hread
  obtain ⟨extra, hextra, hread⟩ := Option.bind_eq_some_iff.1 hread
  cases hread
  have hfields := Fields.fits_of_entries? hfits hfields
  refine ⟨fun dependency hmem => ?_, hfields.isExtra hextra⟩
  rcases hfields.isRead_of_withDefault hdependencies with rfl | hread
  · cases hmem
  · exact hread.of_mem hmem

theorem Module.gives (hroom : depth + 5 ≤ maxDepth) {m : Module} (hread : IsRead depth m) :
    m.toJson.Gives depth m := by
  obtain ⟨hdependencies, hextra⟩ := of_isRead hread
  have hdependencies : Json.Gives (depth + 1)
      (.array (m.dependencies.map Dependency.toJson)) m.dependencies :=
    gives_array (by omega) fun dependency hmem =>
      Dependency.gives (by omega) (hdependencies dependency hmem)
  have hdependents : ∀ sources ∈ m.dependents, Json.Gives (depth + 1) (strings sources) sources :=
    fun sources _ => gives_strings (by omega) sources
  have hreaches : ∀ entries ∈ m.reaches,
      Json.Gives (depth + 1) (.array (entries.map Routes.toJson)) entries := fun entries _ =>
    gives_array (by omega) fun routes _ => routes.gives (by omega)
  have hreachable : ∀ entries ∈ m.reachable,
      Json.Gives (depth + 1) (.array (entries.map Arrival.toJson)) entries := fun entries _ =>
    gives_array (by omega) fun arrival _ => arrival.gives (by omega)
  have hrules : Json.Gives (depth + 1) (.array (m.rules.map RuleReference.toJson)) m.rules :=
    gives_array (by omega) fun rule _ => rule.gives (by omega)
  refine IsRecord.gives ⟨by omega, by simp, ?_, hextra⟩ ?_
  · simp +contextual [hdependencies.fits, fun sources h => (hdependents sources h).fits,
      fun entries h => (hreaches entries h).fits, fun entries h => (hreachable entries h).fits,
      hrules.nonEmptyArray]
  · intro entries h
    have hextra : Fields.extra? ⟨.json, entries⟩ fieldNames = some m.extra := h.extra
    apply bind_of_eq_some rfl
    apply h.required "source" (gives_string m.source) (by simp)
    apply h.withDefault "orphan" (gives_bool m.orphan) (by simp)
    apply h.withDefault "dependencies" hdependencies (by simp)
    apply h.optional "dependents" hdependents (by simp [strings]) (by simp)
    apply h.optional "reaches" hreaches (by simp) (by simp)
    apply h.optional "reachable" hreachable (by simp) (by simp)
    apply h.optionalBool "valid" m.valid (by simp)
    apply h.list "rules" hrules (by simp)
    apply bind_of_eq_some hextra
    rfl

theorem Graph.of_isRead {graph : Graph} (h : IsRead depth graph) :
    (∀ m ∈ graph.modules, IsRead (depth + 2) m) ∧
      (∀ folders ∈ graph.folders, ∀ folder ∈ folders, folder.Fits (depth + 2)) ∧
      graph.summary.Fits (depth + 1) ∧ IsExtra (depth + 1) fieldNames graph.extra := by
  obtain ⟨document, hfits, hread⟩ := h
  obtain ⟨fields, hfields, hread⟩ := Option.bind_eq_some_iff.1 hread
  obtain ⟨modules, hmodules, hread⟩ := Option.bind_eq_some_iff.1 hread
  obtain ⟨folders, hfolders, hread⟩ := Option.bind_eq_some_iff.1 hread
  obtain ⟨summary, hsummary, hread⟩ := Option.bind_eq_some_iff.1 hread
  obtain ⟨extra, hextra, hread⟩ := Option.bind_eq_some_iff.1 hread
  cases hread
  have hfields := Fields.fits_of_entries? hfits hfields
  refine ⟨fun m hm => ?_, ?_, ?_, hfields.isExtra hextra⟩
  · exact (hfields.isRead_of_required hmodules).of_mem hm
  · rintro listed rfl folder hfolder
    obtain ⟨document, -, hread⟩ := hfields.isRead_of_optional hfolders
    exact (IsRead.of_mem ⟨document, hread⟩ hfolder).fits
  · rcases hfields.isRead_of_withDefault hsummary with rfl | hread
    · exact Summary.fits_empty
    · exact Summary.fits_of_isRead hread

theorem Graph.gives (hroom : depth + 7 ≤ maxDepth) {graph : Graph} (hread : IsRead depth graph) :
    graph.toJson.Gives depth graph := by
  obtain ⟨hmodules, hfolders, hsummary, hextra⟩ := of_isRead hread
  have hmodules : Json.Gives (depth + 1) (.array (graph.modules.map Module.toJson)) graph.modules :=
    gives_array (by omega) fun m hm => Module.gives (by omega) (hmodules m hm)
  have hfolders : ∀ folders ∈ graph.folders, Json.Gives (depth + 1) (.array folders) folders := by
    intro folders hmem
    have hgives : Json.Gives (depth + 1) (.array (folders.map id)) folders :=
      gives_array (by omega) fun folder hfolder => (hfolders folders hmem folder hfolder).gives
    rwa [List.map_id] at hgives
  have hsummary := hsummary.gives (by omega)
  refine IsRecord.gives ⟨by omega, by simp, ?_, hextra⟩ ?_
  · simp +contextual [hmodules.fits, fun folders h => (hfolders folders h).fits, hsummary.fits]
  · intro entries h
    have hextra : Fields.extra? ⟨.json, entries⟩ fieldNames = some graph.extra := h.extra
    apply bind_of_eq_some rfl
    apply h.required "modules" hmodules (by simp)
    apply h.optional "folders" hfolders (by simp) (by simp)
    apply h.withDefault "summary" hsummary (by simp)
    apply bind_of_eq_some hextra
    rfl

/-! ## Rule sets -/

theorem SourceRestriction.gives (hroom : depth ≤ maxDepth) (source : SourceRestriction) :
    source.toJson.Gives depth source := by
  refine IsRecord.gives ⟨hroom, by simp, ?_, isExtra_nil _ _⟩ ?_
  · simp
  · intro entries h
    apply bind_of_eq_some rfl
    apply h.optionalString "path" source.path (by simp)
    apply h.optionalString "pathNot" source.pathNot (by simp)
    apply h.optionalBool "orphan" source.orphan (by simp)
    rfl

theorem TargetRestriction.gives (hroom : depth + 1 ≤ maxDepth) (target : TargetRestriction) :
    target.toJson.Gives depth target := by
  have htypes : ∀ types, (typesToJson types).Gives (depth + 1) types := fun types =>
    gives_array hroom fun type _ => type.gives
  have hwanted := fun types (_ : types ∈ target.dependencyTypes) => htypes types
  have hunwanted := fun types (_ : types ∈ target.dependencyTypesNot) => htypes types
  refine IsRecord.gives ⟨by omega, by simp, ?_, isExtra_nil _ _⟩ ?_
  · simp [fun types => (htypes types).fits]
  · intro entries h
    apply bind_of_eq_some rfl
    apply h.optionalString "path" target.path (by simp)
    apply h.optionalString "pathNot" target.pathNot (by simp)
    apply h.optionalBool "couldNotResolve" target.couldNotResolve (by simp)
    apply h.optionalBool "circular" target.circular (by simp)
    apply h.optionalBool "dynamic" target.isDynamic (by simp)
    apply h.optional "dependencyTypes" hwanted (by simp [typesToJson]) (by simp)
    apply h.optional "dependencyTypesNot" hunwanted (by simp [typesToJson]) (by simp)
    apply h.optionalBool "moreThanOneDependencyType" target.moreThanOneDependencyType (by simp)
    apply h.optionalString "license" target.license (by simp)
    apply h.optionalString "licenseNot" target.licenseNot (by simp)
    apply h.optionalBool "exoticallyRequired" target.exoticallyRequired (by simp)
    apply h.optionalString "exoticRequire" target.exoticRequire (by simp)
    apply h.optionalString "exoticRequireNot" target.exoticRequireNot (by simp)
    apply h.optionalString "via" target.via (by simp)
    apply h.optionalString "viaNot" target.viaNot (by simp)
    apply h.optionalBool "reachable" target.reachable (by simp)
    apply h.optionalBool "orphan" target.orphan (by simp)
    rfl

theorem Rule.gives (hroom : depth + 2 ≤ maxDepth) (rule : Rule) : rule.toJson.Gives depth rule := by
  have hseverity : ∀ severity ∈ rule.severity, Json.Gives (depth + 1) severity.toJson severity :=
    fun severity _ => severity.gives
  have hsource : Json.Gives (depth + 1) rule.source.toJson rule.source :=
    rule.source.gives (by omega)
  have htarget : Json.Gives (depth + 1) rule.target.toJson rule.target :=
    rule.target.gives (by omega)
  refine IsRecord.gives ⟨by omega, by simp, ?_, isExtra_nil _ _⟩ ?_
  · simp +contextual [fun severity h => (hseverity severity h).fits, hsource.fits, htarget.fits]
  · intro entries h
    apply bind_of_eq_some rfl
    apply h.optionalString "name" rule.name (by simp)
    apply h.optional "severity" hseverity (by simp [Severity.toJson]) (by simp)
    apply h.optionalString "comment" rule.comment (by simp)
    apply h.withDefault "from" hsource (by simp)
    apply h.withDefault "to" htarget (by simp)
    rfl

theorem RuleSet.of_isRead {rules : RuleSet} (h : IsRead depth rules) :
    ∀ options ∈ rules.options, options ≠ .null ∧ options.Fits (depth + 1) := by
  obtain ⟨document, hfits, hread⟩ := h
  obtain ⟨fields, hfields, hread⟩ := Option.bind_eq_some_iff.1 hread
  iterate 3 obtain ⟨_, -, hread⟩ := Option.bind_eq_some_iff.1 hread
  obtain ⟨options, hoptions, hread⟩ := Option.bind_eq_some_iff.1 hread
  cases hread
  rintro value rfl
  obtain ⟨document, hnull, hfits, hread⟩ :=
    (Fields.fits_of_fields? hfits hfields).isRead_of_optional hoptions
  refine ⟨?_, IsRead.fits ⟨document, hfits, hread⟩⟩
  rintro rfl
  have hread : document.toJson? = some .null := hread
  cases hfits <;> simp_all [toJson?]

theorem RuleSet.gives (hroom : depth + 4 ≤ maxDepth) {rules : RuleSet}
    (hread : IsRead depth rules) : rules.toJson.Gives depth rules := by
  have hrules : ∀ rules : List Rule,
      Json.Gives (depth + 1) (.array (rules.map Rule.toJson)) rules := fun rules =>
    gives_array (by omega) fun rule _ => rule.gives (by omega)
  have hseverity : Json.Gives (depth + 1) rules.allowedSeverity.toJson rules.allowedSeverity :=
    rules.allowedSeverity.gives
  have hoptions : ∀ options ∈ rules.options, Json.Gives (depth + 1) (id options) options :=
    fun options h => (of_isRead hread options h).2.gives
  have hnull : ∀ options ∈ rules.options, id options ≠ .null :=
    fun options h => (of_isRead hread options h).1
  refine IsRecord.gives ⟨by omega, by simp, ?_, isExtra_nil _ _⟩ ?_
  · have hstated : StatedFits (depth + 1) rules.options := fun options h =>
      (of_isRead hread options h).2
    simp [(hrules rules.forbidden).fits, (hrules rules.allowed).fits, hseverity.fits, hstated]
  · intro entries h
    apply bind_of_eq_some rfl
    apply h.withDefault "forbidden" (hrules rules.forbidden) (by simp)
    apply h.withDefault "allowed" (hrules rules.allowed) (by simp)
    apply h.withDefault "allowedSeverity" hseverity (by simp)
    apply h.optional "options" hoptions hnull (by simp)
    rfl

/-! ## Texts -/

theorem isRead_of_ofJsonText? {α : Type} [FromDocument α] {text : String} {a : α}
    (h : (Document.ofJsonText? text).bind (ofDocument? .json) = some a) : IsRead 1 a := by
  obtain ⟨document, htext, hread⟩ := Option.bind_eq_some_iff.1 h
  exact ⟨document, fits_of_ofJsonText? htext, hread⟩

theorem Json.Gives.ofJsonText?_textIn {α : Type} [FromDocument α] {value : Json} {a : α}
    (h : value.Gives 1 a) (hfloats : ∀ x ∈ value.floats, x.IsReadBack) {layout : Layout}
    (hlayout : layout.IsBlank) :
    (Document.ofJsonText? (value.textIn layout)).bind (ofDocument? .json) = some a := by
  rw [Document.ofJsonText?_textIn hlayout h.fits hfloats]
  exact h.read

/-- Written without blanks or on indented lines, a value is read back, and writing it again gives
the same text. -/
structure SurvivesWriting {α : Type} (read : String → Option α) (write : α → Json) (a : α) :
    Prop where
  compact : read (write a).compact = some a
  pretty : read (write a).pretty = some a
  compact_again : (read (write a).compact).map (fun b => (write b).compact) =
    some (write a).compact
  pretty_again : (read (write a).pretty).map (fun b => (write b).pretty) = some (write a).pretty

theorem survivesWriting_of_gives {α : Type} [FromDocument α] {write : α → Json} {a : α}
    (h : (write a).Gives 1 a) (hfloats : ∀ x ∈ (write a).floats, x.IsReadBack) :
    SurvivesWriting (fun text => (Document.ofJsonText? text).bind (ofDocument? .json)) write a := by
  have hcompact := h.ofJsonText?_textIn hfloats Layout.isBlank_dense
  have hpretty := h.ofJsonText?_textIn hfloats Layout.isBlank_indented
  exact ⟨hcompact, hpretty, congrArg (Option.map _) hcompact, congrArg (Option.map _) hpretty⟩

/-- Whatever is read as a graph or as a rule set survives the round trip: the text written for it
reads as exactly the same value. Strings and integers always do; of the fractional numbers in the
pass-through data it is assumed that each is read back from its own literal. -/
theorem survivesWriting_of_ofJsonText? :
    (∀ {text : String} {graph : Graph}, Graph.ofJsonText? text = some graph →
      (∀ x ∈ graph.toJson.floats, x.IsReadBack) →
        SurvivesWriting Graph.ofJsonText? Graph.toJson graph) ∧
    (∀ {text : String} {rules : RuleSet}, RuleSet.ofJsonText? text = some rules →
      (∀ x ∈ rules.toJson.floats, x.IsReadBack) →
        SurvivesWriting RuleSet.ofJsonText? RuleSet.toJson rules) := by
  constructor
  · intro text graph h hfloats
    have hgives := Graph.gives (by decide) (isRead_of_ofJsonText? h)
    exact survivesWriting_of_gives hgives hfloats
  · intro text rules h hfloats
    have hgives := RuleSet.gives (by decide) (isRead_of_ofJsonText? h)
    exact survivesWriting_of_gives hgives hfloats

/-- A graph with an extra key that is stated twice, a minus zero and a rule as a list of values. -/
def looseGraphText : String :=
  "\x7b\"tool\":1e3,\"modules\":[\x7b\"source\":\"a\",\"cost\":-0,\"rules\":[[\"r\",\"info\"]]\x7d]" ++
    ",\"kind\":null,\"tool\":7.25\x7d"

def looseGraph : Graph where
  modules :=
    [{ source := "a"
       rules := [⟨"r", .info⟩]
       extra := [("cost", .float ⟨true, 0, -1074⟩)] }]
  extra := [("tool", .float ⟨false, 8162774324609024, -50⟩), ("kind", .null)]

/-- A rule set as a list of values, with a severity as an object and a rule as a list again. -/
def looseRulesText : String :=
  "[[[\"r\",\x7b\"warn\":null\x7d,null,[\"^a\"]]],[],\"info\",\x7b\"ratio\":0.5\x7d]"

def looseRules : RuleSet where
  forbidden := [{ name := some "r", severity := some .warn, source := { path := some "^a" } }]
  allowedSeverity := .info
  options := some (.object [("ratio", .float ⟨false, 4503599627370496, -53⟩)])

theorem survivesWriting_of_ofJsonText?_loose :
    (Graph.ofJsonText? looseGraphText = some looseGraph ∧
      SurvivesWriting Graph.ofJsonText? Graph.toJson looseGraph) ∧
    (RuleSet.ofJsonText? looseRulesText = some looseRules ∧
      SurvivesWriting RuleSet.ofJsonText? RuleSet.toJson looseRules) := by
  have hgraph : Graph.ofJsonText? looseGraphText = some looseGraph := by decide +kernel
  have hrules : RuleSet.ofJsonText? looseRulesText = some looseRules := by decide +kernel
  have hcarried : looseGraph.toJson.floats =
      [⟨true, 0, -1074⟩, ⟨false, 8162774324609024, -50⟩] := by decide +kernel
  have hgraphFloats : ∀ x ∈ looseGraph.toJson.floats, x.IsReadBack := by
    rw [hcarried]
    rintro x (_ | ⟨_, _ | ⟨_, ⟨⟩⟩⟩) <;> rfl
  have hcarried : looseRules.toJson.floats = [⟨false, 4503599627370496, -53⟩] := by decide +kernel
  have hrulesFloats : ∀ x ∈ looseRules.toJson.floats, x.IsReadBack := by
    rw [hcarried]
    rintro x (_ | ⟨_, ⟨⟩⟩)
    rfl
  exact ⟨⟨hgraph, survivesWriting_of_ofJsonText?.1 hgraph hgraphFloats⟩,
    hrules, survivesWriting_of_ofJsonText?.2 hrules hrulesFloats⟩

end DependencyRules
