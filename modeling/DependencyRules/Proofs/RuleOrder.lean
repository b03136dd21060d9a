import DependencyRules.Proofs.Judgement
import DependencyRules.Proofs.SharedHeadings

/-!
# The order of the rules

Rules may be written in any order. A rule set that is accepted is accepted in every order of its
forbidden and of its allowed rules, the summary is the same, and so is every verdict. Only the
entries of the tables follow the order of the rules.
-/

namespace DependencyRules

/-! ## Rules in another order -/

namespace PreparedRuleSet

structure IsReordering (rules other : PreparedRuleSet) : Prop where
  forbidden : other.forbidden.Perm rules.forbidden
  allowed : other.allowed.Perm rules.allowed
  allowedSeverity : other.allowedSeverity = rules.allowedSeverity

theorem IsReordering.all {rules other : PreparedRuleSet} (h : rules.IsReordering other) :
    (other.forbidden ++ other.allowed).Perm (rules.forbidden ++ rules.allowed) :=
  h.forbidden.append h.allowed

theorem IsReordering.aboutReachability {rules other : PreparedRuleSet}
    (h : rules.IsReordering other) : other.aboutReachability.Perm rules.aboutReachability :=
  h.all.filter _

end PreparedRuleSet

namespace RuleSet

/-- An accepted rule set is accepted in every order of its rules. -/
theorem exists_prepare_of_perm {ruleSet : RuleSet} {rules : PreparedRuleSet}
    (hrules : ruleSet.prepare = .ok rules) {forbidden allowed : List Rule}
    (hforbidden : forbidden.Perm ruleSet.forbidden) (hallowed : allowed.Perm ruleSet.allowed) :
    ∃ other, { ruleSet with forbidden, allowed }.prepare = .ok other ∧
      rules.IsReordering other := by
  obtain ⟨hfault, hread, hreadAllowed, hseverity⟩ := prepare_eq_ok_iff.1 hrules
  obtain ⟨otherForbidden, hother, hperm⟩ := List.perm_comp_forall₂ hforbidden hread
  obtain ⟨otherAllowed, hotherAllowed, hpermAllowed⟩ :=
    List.perm_comp_forall₂ hallowed hreadAllowed
  obtain ⟨hfaults, hfaultsAllowed, hoptions⟩ := fault?_eq_none_iff.1 hfault
  have hfault' : ({ ruleSet with forbidden, allowed } : RuleSet).fault? = none :=
    fault?_eq_none_iff.2 ⟨fun rule hrule => hfaults rule (hforbidden.mem_iff.1 hrule),
      fun rule hrule => hfaultsAllowed rule (hallowed.mem_iff.1 hrule), hoptions⟩
  exact ⟨⟨otherForbidden, otherAllowed, ruleSet.allowedSeverity⟩,
    prepare_eq_ok_iff.2 ⟨hfault', hother, hotherAllowed, rfl⟩, hperm, hpermAllowed,
    hseverity.symm⟩

end RuleSet

/-! ## Modules with tables in another order -/

namespace Module

/-- Two modules agree but for the order of the entries in their tables. -/
structure SameUpToOrder (m other : Module) : Prop where
  unchanged : other = { m with reaches := other.reaches, reachable := other.reachable }
  reaches : Option.Rel List.Perm m.reaches other.reaches
  reachable : Option.Rel List.Perm m.reachable other.reachable

theorem getD_perm {α : Type} {items other : Option (List α)}
    (h : Option.Rel List.Perm items other) : (items.getD []).Perm (other.getD []) := by
  cases h with
  | none => exact .nil
  | some h => exact h

theorem rel_nonEmpty? {α : Type} {items other : List α} (h : items.Perm other) :
    Option.Rel List.Perm (nonEmpty? items) (nonEmpty? other) := by
  unfold nonEmpty?
  rw [h.isEmpty_eq]
  split
  · exact .none
  · exact .some h

section Same

variable {m other : Module}

theorem SameUpToOrder.arrivalsUnder (h : m.SameUpToOrder other) (heading : String) :
    (m.arrivalsUnder heading).Perm (other.arrivalsUnder heading) :=
  (getD_perm h.reachable).filter _

theorem SameUpToOrder.findsArrival_eq (h : m.SameUpToOrder other) (rule : Rule)
    (isReached : Bool) : rule.findsArrival other isReached = rule.findsArrival m isReached := by
  unfold Rule.findsArrival
  rw [(h.arrivalsUnder rule.heading).any_eq]

end Same

end Module

namespace Judge

def withRules (judge : Judge) (rules : PreparedRuleSet) : Judge := { judge with rules }

section Reordered

variable {judge : Judge} {rules : PreparedRuleSet} (h : judge.rules.IsReordering rules)
  (graph : Graph) (marked : graph.Position → List Dependency) (i : graph.Position)

include h

theorem markedModule_sameUpToOrder :
    (judge.markedModule graph marked i).SameUpToOrder
      ((judge.withRules rules).markedModule graph marked i) := by
  refine ⟨rfl, ?_, ?_⟩
  · exact Module.rel_nonEmpty? ((h.all.symm.filter _).map _)
  · exact Module.rel_nonEmpty? ((h.all.symm.filter _).map _)

/-! ## Findings -/

theorem forbiddenAtModule_reordered {rule : PreparedRule} (hmem : rule ∈ judge.rules.forbidden)
    (hfault : rule.rule.fault? = none) :
    (judge.forbiddenAtModule rule (judge.markedModule graph marked i)).Perm
      ((judge.withRules rules).forbiddenAtModule rule
        ((judge.withRules rules).markedModule graph marked i)) := by
  cases hreach : rule.wantedReach with
  | none =>
      unfold forbiddenAtModule
      rw [hreach]
      exact .rfl
  | some wanted =>
      have habout : rule.isAboutReachability = true := congrArg Option.isSome hreach
      have horphan := Rule.wantedOrphan_eq_none hfault habout
      cases wanted with
      | true =>
          -- Either judge finds the routes of the rule itself.
          have hown : rule ∈ judge.rules.aboutReachability :=
            PreparedRuleSet.mem_aboutReachability.2 ⟨.inl hmem, habout⟩
          have hother : rule ∈ (judge.withRules rules).rules.aboutReachability :=
            h.aboutReachability.mem_iff.2 hown
          exact (forbiddenAtModule_perm_own horphan hreach hown).trans
            (forbiddenAtModule_perm_own horphan hreach hother).symm
      | false =>
          have hsame := markedModule_sameUpToOrder h graph marked i
          unfold forbiddenAtModule
          rw [horphan, hreach]
          dsimp only
          rw [hsame.findsArrival_eq]
          exact .rfl

theorem notAllowed_reordered : (judge.withRules rules).notAllowed = judge.notAllowed := by
  unfold notAllowed
  rw [show (judge.withRules rules).rules.allowedSeverity = judge.rules.allowedSeverity from
    h.allowedSeverity]

theorem notAllowedAtModule_reordered :
    (judge.withRules rules).notAllowedAtModule
        ((judge.withRules rules).markedModule graph marked i) =
      judge.notAllowedAtModule (judge.markedModule graph marked i) := by
  have hsame := markedModule_sameUpToOrder h graph marked i
  have hbooked : ∀ heading,
      (((judge.withRules rules).markedModule graph marked i).arrivalsUnder heading).isEmpty =
        ((judge.markedModule graph marked i).arrivalsUnder heading).isEmpty :=
    fun heading => (hsame.arrivalsUnder heading).isEmpty_eq.symm
  have hrelevant : ((judge.withRules rules).rules.allowed.filter fun rule =>
      rule.isAboutReachability &&
        !((judge.markedModule graph marked i).arrivalsUnder rule.heading).isEmpty).Perm
      (judge.rules.allowed.filter fun rule => rule.isAboutReachability &&
        !((judge.markedModule graph marked i).arrivalsUnder rule.heading).isEmpty) :=
    h.allowed.filter _
  simp only [notAllowedAtModule, hbooked, hsame.findsArrival_eq, notAllowed_reordered h,
    hrelevant.isEmpty_eq, hrelevant.any_eq]
  rfl

theorem notAllowedAtDependency_reordered (dependency : Dependency) :
    (judge.withRules rules).notAllowedAtDependency
        ((judge.withRules rules).markedModule graph marked i) dependency =
      judge.notAllowedAtDependency (judge.markedModule graph marked i) dependency := by
  have hrelevant : ((judge.withRules rules).rules.allowed.filter fun rule =>
      !rule.isAboutModules &&
        rule.appliesTo ((judge.withRules rules).markedModule graph marked i)).Perm
      (judge.rules.allowed.filter fun rule => !rule.isAboutModules &&
        rule.appliesTo (judge.markedModule graph marked i)) :=
    h.allowed.filter _
  simp only [notAllowedAtDependency, notAllowed_reordered h, hrelevant.isEmpty_eq,
    hrelevant.any_eq]
  rfl

theorem atModule_reordered (hfault : ∀ rule ∈ judge.rules.forbidden, rule.rule.fault? = none) :
    (judge.atModule (judge.markedModule graph marked i)).Perm
      ((judge.withRules rules).atModule
        ((judge.withRules rules).markedModule graph marked i)) := by
  unfold atModule
  rw [notAllowedAtModule_reordered h]
  refine List.Perm.append_right _ ?_
  refine (List.Perm.flatMap_left _ fun rule hrule => ?_).trans
    ((h.forbidden.symm.filter _).flatMap_right _)
  have hmem : rule ∈ judge.rules.forbidden := List.mem_of_mem_filter hrule
  exact forbiddenAtModule_reordered h graph marked i hmem (hfault rule hmem)

theorem atDependency_reordered (dependency : Dependency) :
    (judge.atDependency (judge.markedModule graph marked i) dependency).Perm
      ((judge.withRules rules).atDependency
        ((judge.withRules rules).markedModule graph marked i) dependency) := by
  unfold atDependency
  rw [notAllowedAtDependency_reordered h]
  exact ((h.forbidden.symm.filter _).map _).append_right _

/-! ## Verdicts -/

theorem judged_reordered (hfault : ∀ rule ∈ judge.rules.forbidden, rule.rule.fault? = none) :
    (judge.judged (judge.markedModule graph marked i)).SameUpToOrder
      ((judge.withRules rules).judged
        ((judge.withRules rules).markedModule graph marked i)) := by
  have hsame := markedModule_sameUpToOrder h graph marked i
  have hmodule := atModule_reordered h graph marked i hfault
  have hdependency : ∀ dependency, judgedDependency dependency ((judge.withRules rules).atDependency
      ((judge.withRules rules).markedModule graph marked i) dependency) =
        judgedDependency dependency
          (judge.atDependency (judge.markedModule graph marked i) dependency) :=
    fun dependency => judgedDependency_eq_of_perm dependency
      (atDependency_reordered h graph marked i dependency).symm
  refine ⟨?_, hsame.reaches, hsame.reachable⟩
  simp only [judged_eq, hdependency, hmodule.isEmpty_eq, references_eq_of_perm hmodule]
  rfl

theorem violations_reordered (hfault : ∀ rule ∈ judge.rules.forbidden, rule.rule.fault? = none) :
    (judge.findings (judge.markedModule graph marked i)).violations.Perm
      ((judge.withRules rules).findings
        ((judge.withRules rules).markedModule graph marked i)).violations := by
  rw [violations_findings, violations_findings]
  refine List.Perm.map _ ((atModule_reordered h graph marked i hfault).append ?_)
  exact List.Perm.flatMap_left _ fun dependency _ =>
    atDependency_reordered h graph marked i dependency

omit i in
theorem summaryOf_reordered (hfault : ∀ rule ∈ judge.rules.forbidden, rule.rule.fault? = none)
    (extra : List (String × Json)) :
    (judge.withRules rules).summaryOf
        (List.ofFn ((judge.withRules rules).markedModule graph marked)) extra =
      judge.summaryOf (List.ofFn (judge.markedModule graph marked)) extra := by
  have hcount : (List.ofFn ((judge.withRules rules).markedModule graph marked)).flatMap
      Module.dependencies =
        (List.ofFn (judge.markedModule graph marked)).flatMap Module.dependencies := by
    rw [List.ofFn_eq_map, List.ofFn_eq_map, List.flatMap_map, List.flatMap_map]
    rfl
  have hperm : ((List.ofFn ((judge.withRules rules).markedModule graph marked)).flatMap
      fun m => ((judge.withRules rules).findings m).violations).Perm
        ((List.ofFn (judge.markedModule graph marked)).flatMap
          fun m => (judge.findings m).violations) := by
    rw [List.ofFn_eq_map, List.ofFn_eq_map, List.flatMap_map, List.flatMap_map]
    exact List.Perm.flatMap_left _ fun i _ => (violations_reordered h graph marked i hfault).symm
  rw [summaryOf, summaryOf, hcount, List.length_ofFn, List.length_ofFn]
  exact Tally.summary_eq_of_perm hperm _ _ _

end Reordered

/-- Two judges agree on a graph: both accept it, their summaries are the same, and the modules
differ in the order of their tables only. -/
def AgreesUpToOrder (judge other : Judge) (graph : Graph) : Prop :=
  ∃ assessed reordered summary,
    judge.assess graph = .ok (assessed, summary) ∧
    other.assess graph = .ok (reordered, summary) ∧
    reordered = { assessed with modules := reordered.modules } ∧
    List.Forall₂ Module.SameUpToOrder assessed.modules reordered.modules

/-- An accepted rule set is accepted in every order of its forbidden and of its allowed rules, and
sound graphs are judged alike. -/
theorem assess_rules_reordered {ruleSet : RuleSet} {judge : Judge} {forbidden allowed : List Rule}
    {graph : Graph} (hrules : ruleSet.prepare = .ok judge.rules)
    (hforbidden : forbidden.Perm ruleSet.forbidden) (hallowed : allowed.Perm ruleSet.allowed)
    (hsound : graph.ensureSound = .ok ()) :
    ∃ rules, { ruleSet with forbidden, allowed }.prepare = .ok rules ∧
      judge.AgreesUpToOrder (judge.withRules rules) graph := by
  obtain ⟨rules, hother, h⟩ := RuleSet.exists_prepare_of_perm hrules hforbidden hallowed
  have hfault : ∀ rule ∈ judge.rules.forbidden, rule.rule.fault? = none :=
    fun rule hmem => RuleSet.fault?_forbidden_eq_none hrules hmem
  have hassess := judge.assess_eq_ok hsound
  have hassess' := (judge.withRules rules).assess_eq_ok hsound
  have hsummary := summaryOf_reordered h graph graph.markedDependencies hfault graph.summary.extra
  rw [mark_eq, verdicts_eq] at hassess hassess'
  rw [hsummary] at hassess'
  refine ⟨rules, hother, _, _, _, hassess, hassess', rfl, ?_⟩
  simp only [List.map_ofFn]
  rw [List.forall₂_iff_get]
  refine ⟨by simp, fun k hk _ => ?_⟩
  simpa using judged_reordered h graph graph.markedDependencies ⟨k, by simpa using hk⟩ hfault

theorem assess_rules_reordered_nameless :
    namelessRules.prepare = .ok namelessJudge.rules ∧
      namelessRules.forbidden.reverse.Perm namelessRules.forbidden ∧
      namelessRules.allowed.reverse.Perm namelessRules.allowed ∧
      layeredGraph.ensureSound = .ok () ∧
      ∃ rules,
        { namelessRules with
          forbidden := namelessRules.forbidden.reverse
          allowed := namelessRules.allowed.reverse }.prepare = .ok rules ∧
        namelessJudge.AgreesUpToOrder (namelessJudge.withRules rules) layeredGraph := by
  have hrules : namelessRules.prepare = .ok namelessJudge.rules := rfl
  have hforbidden := List.reverse_perm namelessRules.forbidden
  have hallowed := List.reverse_perm namelessRules.allowed
  have hsound : layeredGraph.ensureSound = .ok () := rfl
  exact ⟨hrules, hforbidden, hallowed, hsound,
    assess_rules_reordered hrules hforbidden hallowed hsound⟩

end Judge

end DependencyRules
