import DependencyRules.Proofs.DerivedData

/-!
# Verdicts agree with the summary

The verdicts on modules and dependencies and the violations of the summary come from the same
findings. So either can be read off the other: a flag is set exactly where a rule is named, every
rule that is named somewhere has its violation, and every violation is named where it belongs.
-/

namespace DependencyRules

namespace Judge

/-! ## Rules that are named -/

theorem mem_dropRepeats {rule : BrokenRule} {rules : List BrokenRule} :
    rule ∈ dropRepeats rules ↔ rule ∈ rules := by
  fun_induction dropRepeats rules with
  | case1 b rest ih =>
      rw [ih]
      simp
  | case2 a b rest _ ih => rw [List.mem_cons, ih, List.mem_cons (a := rule) (b := a)]
  | case3 rules => rfl

theorem mem_references {reference : RuleReference} {found : List Finding} :
    reference ∈ references found ↔ ∃ finding ∈ found, finding.rule.reference = reference := by
  simp [references, mem_dropRepeats, List.mem_mergeSort]

theorem references_eq_nil_iff {found : List Finding} : references found = [] ↔ found = [] := by
  constructor
  · intro hnil
    rw [List.eq_nil_iff_forall_not_mem]
    intro finding hfinding
    have hmem : finding.rule.reference ∈ references found :=
      mem_references.2 ⟨finding, hfinding, rfl⟩
    rw [hnil] at hmem
    cases hmem
  · rintro rfl
    simp [references, dropRepeats]

/-! ## What findings say -/

section Findings

variable {judge : Judge} {m : Module} {finding : Finding}

theorem forbiddenAtModule_spec {rule : PreparedRule}
    (h : finding ∈ judge.forbiddenAtModule rule m) :
    finding.violation.rule = finding.rule ∧ finding.violation.source = m.source := by
  have hself : ∀ {b : Bool},
      finding ∈ (if b then [Finding.ofModule rule.broken m] else []) →
        finding.violation.rule = finding.rule ∧ finding.violation.source = m.source := by
    intro b hmem
    cases b with
    | false => cases hmem
    | true =>
        rw [List.mem_singleton.1 hmem]
        exact ⟨rfl, rfl⟩
  unfold forbiddenAtModule at h
  split at h
  · exact hself h
  · split at h
    · split at h
      · obtain ⟨route, _, rfl⟩ := List.mem_map.1 h
        exact ⟨rfl, rfl⟩
      · cases h
    · exact hself h
    · cases h

theorem atModule_spec (h : finding ∈ judge.atModule m) :
    finding.violation.rule = finding.rule ∧ finding.violation.source = m.source := by
  rcases List.mem_append.1 h with hforbidden | hallowed
  · obtain ⟨rule, _, hrule⟩ := List.mem_flatMap.1 hforbidden
    exact forbiddenAtModule_spec hrule
  · unfold notAllowedAtModule at hallowed
    dsimp only at hallowed
    split at hallowed
    · cases hallowed
    · rw [List.mem_singleton.1 hallowed]
      exact ⟨rfl, rfl⟩

theorem atDependency_spec {dependency : Dependency}
    (h : finding ∈ judge.atDependency m dependency) :
    finding = .ofDependency finding.rule m dependency := by
  rcases List.mem_append.1 h with hforbidden | hallowed
  · obtain ⟨rule, _, rfl⟩ := List.mem_map.1 hforbidden
    rfl
  · unfold notAllowedAtDependency at hallowed
    dsimp only at hallowed
    split at hallowed
    · cases hallowed
    · rw [List.mem_singleton.1 hallowed]
      rfl

theorem mem_violations_findings {violation : Violation} :
    violation ∈ (judge.findings m).violations ↔
      (∃ finding ∈ judge.atModule m, finding.violation = violation) ∨
        ∃ dependency ∈ m.dependencies, ∃ finding ∈ judge.atDependency m dependency,
          finding.violation = violation := by
  rw [violations_findings, List.map_append, List.mem_append, List.mem_map, List.mem_map]
  simp only [List.mem_flatMap]
  constructor
  · rintro (hmodule | ⟨finding, ⟨dependency, hdependency, hfinding⟩, hviolation⟩)
    · exact .inl hmodule
    · exact .inr ⟨dependency, hdependency, finding, hfinding, hviolation⟩
  · rintro (hmodule | ⟨dependency, hdependency, finding, hfinding, hviolation⟩)
    · exact .inl hmodule
    · exact .inr ⟨finding, ⟨dependency, hdependency, hfinding⟩, hviolation⟩

theorem violations_findings_eq_nil_iff :
    (judge.findings m).violations = [] ↔
      judge.atModule m = [] ∧
        ∀ dependency ∈ m.dependencies, judge.atDependency m dependency = [] := by
  rw [violations_findings, List.map_eq_nil_iff, List.append_eq_nil_iff, List.flatMap_eq_nil_iff]

end Findings

theorem mem_violations_summaryOf {judge : Judge} {modules : List Module}
    {extra : List (String × Json)} {violation : Violation} :
    violation ∈ (judge.summaryOf modules extra).violations ↔
      ∃ m ∈ modules, violation ∈ (judge.findings m).violations := by
  simp [summaryOf, Tally.summary, Tally.sorted, List.mem_mergeSort]

theorem violations_summaryOf_eq_nil_iff {judge : Judge} {modules : List Module}
    {extra : List (String × Json)} :
    (judge.summaryOf modules extra).violations = [] ↔
      ∀ m ∈ modules, (judge.findings m).violations = [] := by
  simp only [List.eq_nil_iff_forall_not_mem, mem_violations_summaryOf, not_exists, not_and]
  exact ⟨fun h m hm violation => h violation m hm, fun h violation m hm => h m hm violation⟩

/-- A dependency that is judged has a cycle only if it is circular. -/
theorem cycle_of_mem_mark {judge : Judge} {graph : Graph} {m : Module}
    (hm : m ∈ (judge.mark graph).modules) {dependency : Dependency}
    (hdependency : dependency ∈ m.dependencies) :
    (if dependency.circular then dependency.cycle else []) = dependency.cycle := by
  rw [mark_eq, List.mem_ofFn] at hm
  obtain ⟨i, rfl⟩ := hm
  obtain ⟨k, rfl⟩ := List.mem_iff_get.1 hdependency
  have hmarks := List.forall₂_iff_get.1 (graph.forall₂_markedDependencies i)
  have hmark := hmarks.2 k.val (hmarks.1.symm ▸ k.isLt) k.isLt
  split
  · rfl
  · rename_i hcircular
    exact (not_not.1 (mt hmark.cycle_ne_nil_iff.1 hcircular)).symm

end Judge

/-! ## Agreement -/

structure Graph.AgreesWith (graph : Graph) (summary : Summary) : Prop where
  summary_eq : graph.summary = summary
  clean_iff : summary.violations = [] ↔
    ∀ m ∈ graph.modules, m.valid = some true ∧
      ∀ dependency ∈ m.dependencies, dependency.valid = some true
  module_invalid_iff : ∀ m ∈ graph.modules, m.valid = some false ↔ m.rules ≠ []
  dependency_invalid_iff : ∀ m ∈ graph.modules, ∀ dependency ∈ m.dependencies,
    dependency.valid = some false ↔ dependency.rules ≠ []
  valid_isSome : ∀ m ∈ graph.modules, m.valid.isSome = true ∧
    ∀ dependency ∈ m.dependencies, dependency.valid.isSome = true
  named : ∀ violation ∈ summary.violations, ∃ m ∈ graph.modules, m.source = violation.source ∧
    (violation.rule.reference ∈ m.rules ∨
      ∃ dependency ∈ m.dependencies, dependency.target = violation.target ∧
        violation.rule.reference ∈ dependency.rules)
  module_rules : ∀ m ∈ graph.modules, ∀ reference ∈ m.rules,
    ∃ violation ∈ summary.violations, violation.rule.reference = reference ∧
      violation.source = m.source
  dependency_rules : ∀ m ∈ graph.modules, ∀ dependency ∈ m.dependencies,
    ∀ reference ∈ dependency.rules, ∃ violation ∈ summary.violations,
      violation.rule.reference = reference ∧ violation.source = m.source ∧
        violation.target = dependency.target ∧ violation.cycle = dependency.cycle

namespace Judge

section Judged

variable {judge : Judge} {m : Module}

theorem mem_dependencies_judged {dependency : Dependency} :
    dependency ∈ (judge.judged m).dependencies ↔
      ∃ marked ∈ m.dependencies,
        judgedDependency marked (judge.atDependency m marked) = dependency := by
  rw [judged_eq]
  exact List.mem_map

theorem valid_judged : (judge.judged m).valid = some (judge.atModule m).isEmpty := rfl

theorem rules_judged : (judge.judged m).rules = references (judge.atModule m) := rfl

/-- A flag that tells whether nothing was found is false exactly where rules are named. -/
theorem isEmpty_eq_false_iff_references {found : List Finding} :
    some found.isEmpty = some false ↔ references found ≠ [] := by
  rw [Ne, references_eq_nil_iff, Option.some.injEq, List.isEmpty_eq_false_iff]

theorem violations_eq_nil_iff_valid :
    (judge.findings m).violations = [] ↔
      (judge.judged m).valid = some true ∧
        ∀ dependency ∈ (judge.judged m).dependencies, dependency.valid = some true := by
  rw [violations_findings_eq_nil_iff, valid_judged, Option.some.injEq, List.isEmpty_iff]
  refine and_congr_right fun _ => ?_
  constructor
  · intro hnil dependency hdependency
    obtain ⟨marked, hmarked, rfl⟩ := mem_dependencies_judged.1 hdependency
    simp [judgedDependency, hnil marked hmarked]
  · intro hvalid marked hmarked
    have hflag := hvalid _ (mem_dependencies_judged.2 ⟨marked, hmarked, rfl⟩)
    simpa [judgedDependency] using hflag

/-- Every violation found at a module is named on the module or on the dependency it is about. -/
theorem named_of_mem_violations {violation : Violation}
    (h : violation ∈ (judge.findings m).violations) :
    (judge.judged m).source = violation.source ∧
      (violation.rule.reference ∈ (judge.judged m).rules ∨
        ∃ dependency ∈ (judge.judged m).dependencies, dependency.target = violation.target ∧
          violation.rule.reference ∈ dependency.rules) := by
  rcases mem_violations_findings.1 h with ⟨finding, hfinding, rfl⟩ |
    ⟨dependency, hdependency, finding, hfinding, rfl⟩
  · obtain ⟨hrule, hsource⟩ := atModule_spec hfinding
    refine ⟨hsource.symm, .inl ?_⟩
    rw [hrule, rules_judged]
    exact mem_references.2 ⟨finding, hfinding, rfl⟩
  · have hspec := atDependency_spec hfinding
    rw [hspec]
    refine ⟨rfl, .inr ⟨_, mem_dependencies_judged.2 ⟨dependency, hdependency, rfl⟩, rfl, ?_⟩⟩
    exact mem_references.2 ⟨finding, hfinding, rfl⟩

theorem exists_violation_of_mem_rules {reference : RuleReference}
    (h : reference ∈ (judge.judged m).rules) :
    ∃ violation ∈ (judge.findings m).violations, violation.rule.reference = reference ∧
      violation.source = m.source := by
  rw [rules_judged] at h
  obtain ⟨finding, hfinding, rfl⟩ := mem_references.1 h
  obtain ⟨hrule, hsource⟩ := atModule_spec hfinding
  exact ⟨_, mem_violations_findings.2 (.inl ⟨finding, hfinding, rfl⟩),
    congrArg BrokenRule.reference hrule, hsource⟩

theorem exists_violation_of_mem_dependency_rules {marked : Dependency}
    (hmarked : marked ∈ m.dependencies) {reference : RuleReference}
    (h : reference ∈ references (judge.atDependency m marked)) :
    ∃ violation ∈ (judge.findings m).violations, violation.rule.reference = reference ∧
      violation.source = m.source ∧ violation.target = marked.target ∧
        violation.cycle = if marked.circular then marked.cycle else [] := by
  obtain ⟨finding, hfinding, rfl⟩ := mem_references.1 h
  have hspec := atDependency_spec hfinding
  refine ⟨_, mem_violations_findings.2 (.inr ⟨marked, hmarked, finding, hfinding, rfl⟩), ?_⟩
  rw [hspec]
  exact ⟨rfl, rfl, rfl, rfl⟩

end Judged

/-- A judge writes on a sound graph what the summary says, and says in the summary what is written
on the graph. -/
theorem assess_agrees (judge : Judge) {graph : Graph} (hsound : graph.ensureSound = .ok ()) :
    ∃ assessed summary, judge.assess graph = .ok (assessed, summary) ∧
      assessed.AgreesWith summary := by
  have hassess := judge.assess_eq_ok hsound
  rw [verdicts_eq] at hassess
  refine ⟨_, _, hassess, ?_⟩
  refine
    { summary_eq := rfl, clean_iff := ?_, module_invalid_iff := ?_, dependency_invalid_iff := ?_
      valid_isSome := ?_, named := ?_, module_rules := ?_, dependency_rules := ?_ }
  · rw [violations_summaryOf_eq_nil_iff, List.forall_mem_map]
    exact forall₂_congr fun m _ => violations_eq_nil_iff_valid
  · rw [List.forall_mem_map]
    exact fun m _ => isEmpty_eq_false_iff_references
  · rw [List.forall_mem_map]
    intro m _ dependency hdependency
    obtain ⟨marked, _, rfl⟩ := mem_dependencies_judged.1 hdependency
    exact isEmpty_eq_false_iff_references
  · rw [List.forall_mem_map]
    intro m _
    refine ⟨rfl, fun dependency hdependency => ?_⟩
    obtain ⟨marked, _, rfl⟩ := mem_dependencies_judged.1 hdependency
    rfl
  · intro violation hviolation
    obtain ⟨m, hm, hfound⟩ := mem_violations_summaryOf.1 hviolation
    exact ⟨_, List.mem_map_of_mem hm, named_of_mem_violations hfound⟩
  · rw [List.forall_mem_map]
    intro m hm reference hreference
    obtain ⟨violation, hfound, hspec⟩ := exists_violation_of_mem_rules hreference
    exact ⟨violation, mem_violations_summaryOf.2 ⟨m, hm, hfound⟩, hspec⟩
  · rw [List.forall_mem_map]
    intro m hm dependency hdependency reference hreference
    obtain ⟨marked, hmarked, rfl⟩ := mem_dependencies_judged.1 hdependency
    obtain ⟨violation, hfound, hrule, hsource, htarget, hcycle⟩ :=
      exists_violation_of_mem_dependency_rules hmarked hreference
    refine ⟨violation, mem_violations_summaryOf.2 ⟨m, hm, hfound⟩, hrule, hsource, htarget, ?_⟩
    exact hcycle.trans (cycle_of_mem_mark hm hmarked)

theorem assess_agrees_stale :
    staleGraph.ensureSound = .ok () ∧ ∃ assessed summary,
      cycleJudge.assess staleGraph = .ok (assessed, summary) ∧ assessed.AgreesWith summary :=
  ⟨rfl, cycleJudge.assess_agrees rfl⟩

end Judge

end DependencyRules
