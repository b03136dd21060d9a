import DependencyRules.Proofs.Agreement
import DependencyRules.Proofs.BookedArrivals
import DependencyRules.Proofs.Deliveries

/-!
# Rules that are named on modules and dependencies

A judge names on a module or a dependency the rules that it breaks, in the order of their names and
severities. Repetitions are dropped while the rules still have their comments. So a name comes again
with the same severity exactly where rules that differ in nothing but their comments are broken
together.
-/

namespace DependencyRules

/-! ## The order of references -/

/-- What references are ordered by: the name, then the severity. -/
def RuleReference.key (reference : RuleReference) : String ×ₗ Nat :=
  toLex (reference.name, reference.severity.rank)

theorem Severity.rank_injective : Function.Injective Severity.rank := by
  intro a b h
  cases a <;> cases b <;> first | rfl | cases h

namespace BrokenRule

theorem ordersBy_name : OrdersBy compare fun rule : BrokenRule =>
    toLex (rule.name, toLex (rule.severity.rank, absentFirst id rule.comment)) := by
  have hseverity := (ordersBy_rank.on BrokenRule.severity).lex
    (ordersBy_text.option.on BrokenRule.comment)
  exact (ordersBy_text.on BrokenRule.name).lex hseverity

/-- Of two rules in order, either the references are in order or only the comments differ. -/
theorem key_lt_or_of_compare {a b : BrokenRule} (h : compare a b = .lt) :
    a.reference.key < b.reference.key ∨ a.reference = b.reference ∧ a ≠ b := by
  have hkey := ordersBy_name.lt_iff.1 h
  have hne : a ≠ b := by
    rintro rfl
    exact lt_irrefl _ hkey
  simp only [Prod.Lex.toLex_lt_toLex] at hkey
  unfold RuleReference.key
  rw [Prod.Lex.toLex_lt_toLex]
  rcases hkey with hname | ⟨hname, hrank | ⟨hrank, _⟩⟩
  · exact .inl (.inl hname)
  · exact .inl (.inr ⟨hname, hrank⟩)
  · refine .inr ⟨?_, hne⟩
    rw [reference, reference, hname, Severity.rank_injective hrank]

end BrokenRule

/-- References name the rules that are broken: they are those of the broken rules in strict order,
and themselves in order. Each of them comes once unless two broken rules have the same name and
severity. -/
structure NamesBroken (isBroken : BrokenRule → Prop) (references : List RuleReference) : Prop where
  listing : ∃ listed : List BrokenRule, listed.Pairwise (fun a b => compare a b = .lt) ∧
    (∀ rule, rule ∈ listed ↔ isBroken rule) ∧ references = listed.map BrokenRule.reference
  mem_iff : ∀ reference, reference ∈ references ↔
    ∃ rule, isBroken rule ∧ rule.reference = reference
  ascending : references.Pairwise fun a b => a.key ≤ b.key
  strict_iff : references.Pairwise (fun a b => a.key < b.key) ↔
    ∀ a b, isBroken a → isBroken b → a.reference = b.reference → a = b

namespace Judge

theorem dropRepeats_pairwise {rules : List BrokenRule}
    (h : rules.Pairwise fun a b => (compare a b).isLE = true) :
    (dropRepeats rules).Pairwise fun a b => compare a b = .lt := by
  fun_induction dropRepeats rules with
  | case1 b rest ih => exact ih (List.pairwise_cons.1 h).2
  | case2 a b rest hne ih =>
      obtain ⟨hfirst, hrest⟩ := List.pairwise_cons.1 h
      have hlt : compare a b = .lt := by
        refine (Ordering.isLE_iff_eq_lt_or_eq_eq.1 (hfirst b List.mem_cons_self)).resolve_right ?_
        exact fun heq => hne (Std.LawfulEqOrd.eq_of_compare heq)
      refine List.pairwise_cons.2 ⟨fun rule hrule => ?_, ih hrest⟩
      rcases List.mem_cons.1 (mem_dropRepeats.1 hrule) with rfl | hmem
      · exact hlt
      · exact Std.TransCmp.lt_of_lt_of_isLE hlt ((List.pairwise_cons.1 hrest).1 rule hmem)
  | case3 rules hshort =>
      cases rules with
      | nil => exact .nil
      | cons a rest =>
          cases rest with
          | nil => exact List.pairwise_singleton ..
          | cons b rest => exact (hshort a b rest rfl).elim

theorem namesBroken_of_listing {isBroken : BrokenRule → Prop} {listed : List BrokenRule}
    (hsorted : listed.Pairwise fun a b => compare a b = .lt)
    (hmem : ∀ rule, rule ∈ listed ↔ isBroken rule) :
    NamesBroken isBroken (listed.map BrokenRule.reference) := by
  refine ⟨⟨listed, hsorted, hmem, rfl⟩, fun reference => ?_, ?_, ?_⟩
  · simp only [List.mem_map, hmem]
  · rw [List.pairwise_map]
    refine hsorted.imp fun h => ?_
    rcases BrokenRule.key_lt_or_of_compare h with hlt | ⟨heq, _⟩
    · exact hlt.le
    · rw [heq]
  · rw [List.pairwise_map]
    constructor
    · intro hstrict a b ha hb heq
      have hnodup : (listed.map fun rule => rule.reference.key).Nodup :=
        List.pairwise_map.2 (hstrict.imp ne_of_lt)
      exact List.inj_on_of_nodup_map hnodup ((hmem a).2 ha) ((hmem b).2 hb)
        (congrArg RuleReference.key heq)
    · intro hone
      refine hsorted.imp_of_mem fun {a b} ha hb h => ?_
      refine (BrokenRule.key_lt_or_of_compare h).resolve_right fun hsame => ?_
      exact hsame.2 (hone a b ((hmem a).1 ha) ((hmem b).1 hb) hsame.1)

theorem namesBroken_references {isBroken : BrokenRule → Prop} {found : List Finding}
    (h : ∀ rule, (∃ finding ∈ found, finding.rule = rule) ↔ isBroken rule) :
    NamesBroken isBroken (references found) := by
  refine namesBroken_of_listing (dropRepeats_pairwise (mergeSort_compare_pairwise _))
    fun rule => ?_
  rw [mem_dropRepeats, List.mem_mergeSort, List.mem_map, h]

theorem references_of_pairwise {found : List Finding}
    (h : (found.map Finding.rule).Pairwise fun a b => (compare a b).isLE = true) :
    references found = (dropRepeats (found.map Finding.rule)).map BrokenRule.reference := by
  rw [references, ← eq_mergeSort_compare_iff.2 ⟨h, .refl _⟩]

/-! ## Broken rules -/

section Broken

variable (judge : Judge) (graph : Graph) (i : graph.Position)

/-- A module breaks a forbidden rule about modules: it is an orphan that should not be one, it has a
route to something else that the rule aims at, or it is missed by some rule under the heading of a
rule that forbids not to be reached. -/
def Breaks (rule : PreparedRule) : Prop :=
  (rule.rule.wantedOrphan = some true ∧ rule.appliesTo (graph.moduleAt i) = true ∧
    (graph.moduleAt i).orphan = true ∧ judge.standalone.includes (graph.sourceAt i) = false) ∨
  (rule.wantedReach = some true ∧ rule.appliesTo (graph.moduleAt i) = true ∧
    ∃ t, t ≠ i ∧ rule.aimsAt (graph.sourceAt t) = true ∧ graph.HasRoute i t) ∨
  (rule.wantedReach = some false ∧ judge.BooksAs graph rule.heading i false)

def IsBrokenAt (broken : BrokenRule) : Prop :=
  (∃ rule ∈ judge.rules.forbidden, judge.Breaks graph i rule ∧ rule.broken = broken) ∨
  (judge.IsOutOfBookedReach graph i ∧ judge.notAllowed = broken)

def IsBrokenBy (dependency : Dependency) (broken : BrokenRule) : Prop :=
  (∃ rule ∈ judge.rules.forbidden, rule.isAboutModules = false ∧
    rule.appliesTo (graph.moduleAt i) = true ∧ rule.accepts dependency = true ∧
    rule.broken = broken) ∨
  (judge.IsOutOfBounds graph i dependency ∧ judge.notAllowed = broken)

variable {judge graph i} {marked : graph.Position → List Dependency} {rule : PreparedRule}
  {broken : BrokenRule}

theorem exists_rule_iff_exists_violation {found : List Finding}
    (h : ∀ finding ∈ found, finding.violation.rule = finding.rule) :
    (∃ finding ∈ found, finding.rule = broken) ↔
      ∃ violation ∈ found.map Finding.violation, violation.rule = broken := by
  simp only [List.mem_map, exists_exists_and_eq_and]
  refine exists_congr fun finding => and_congr_right fun hfinding => ?_
  rw [h finding hfinding]

theorem breaks_of_wantedReach_none (hreach : rule.wantedReach = none) :
    (∃ finding ∈ judge.forbiddenAtModule rule (judge.markedModule graph marked i),
        finding.rule = broken) ↔
      judge.Breaks graph i rule ∧ rule.broken = broken := by
  cases horphan : rule.rule.wantedOrphan with
  | none =>
      rw [forbiddenAtModule, horphan, hreach]
      simp [Breaks, horphan, hreach]
  | some wanted =>
      have hsome : rule.rule.wantedOrphan.isSome = true := by rw [horphan]; rfl
      rw [exists_rule_iff_exists_violation fun _ hfinding => (forbiddenAtModule_spec hfinding).1,
        forbiddenAtModule_of_orphan hsome, orphanViolation]
      have hbreaks : judge.Breaks graph i rule ↔ rule.rule.wantedOrphan = some true ∧
          rule.appliesTo (graph.moduleAt i) = true ∧ (graph.moduleAt i).orphan = true ∧
          judge.standalone.includes (graph.sourceAt i) = false := by
        simp [Breaks, hreach]
      rw [hbreaks, exists_mem_ite]
      rfl

theorem breaks_of_wantedReach_true (hmem : rule ∈ judge.rules.aboutReachability)
    (horphan : rule.rule.wantedOrphan = none) (hreach : rule.wantedReach = some true) :
    (∃ finding ∈ judge.forbiddenAtModule rule (judge.markedModule graph marked i),
        finding.rule = broken) ↔
      judge.Breaks graph i rule ∧ rule.broken = broken := by
  have hbreaks : judge.Breaks graph i rule ↔
      ∃ t, t ∈ (graph.foundRoutes rule i).map Prod.fst := by
    simp [Breaks, horphan, hreach, Graph.mem_map_fst_foundRoutes]
  have hperm : (judge.forbiddenAtModule rule (judge.markedModule graph marked i)).Perm _ :=
    forbiddenAtModule_perm_own horphan hreach hmem
  rw [hbreaks]
  constructor
  · rintro ⟨finding, hfinding, rfl⟩
    obtain ⟨t, ht, rfl⟩ := List.mem_map.1 (hperm.mem_iff.1 hfinding)
    exact ⟨⟨t, ht⟩, rfl⟩
  · rintro ⟨⟨t, ht⟩, rfl⟩
    exact ⟨_, hperm.mem_iff.2 (List.mem_map_of_mem ht), rfl⟩

theorem breaks_of_wantedReach_false (horphan : rule.rule.wantedOrphan = none)
    (hreach : rule.wantedReach = some false) :
    (∃ finding ∈ judge.forbiddenAtModule rule (judge.markedModule graph marked i),
        finding.rule = broken) ↔
      judge.Breaks graph i rule ∧ rule.broken = broken := by
  have hbreaks : judge.Breaks graph i rule ↔ judge.BooksAs graph rule.heading i false := by
    simp [Breaks, horphan, hreach]
  rw [forbiddenAtModule_of_wantedReach_false horphan hreach, exists_mem_ite, hbreaks,
    findsArrival_booked (congrArg Option.isSome hreach)]
  rfl

variable (marked)

/-- A forbidden rule finds something at a module exactly when the module breaks it. -/
theorem exists_mem_forbiddenAtModule_iff (hmem : rule ∈ judge.rules.forbidden)
    (hfault : rule.rule.fault? = none) :
    (∃ finding ∈ judge.forbiddenAtModule rule (judge.markedModule graph marked i),
        finding.rule = broken) ↔
      judge.Breaks graph i rule ∧ rule.broken = broken := by
  cases hreach : rule.wantedReach with
  | none => exact breaks_of_wantedReach_none hreach
  | some wanted =>
      have habout : rule.isAboutReachability = true := congrArg Option.isSome hreach
      have horphan := Rule.wantedOrphan_eq_none hfault habout
      cases wanted with
      | true =>
          exact breaks_of_wantedReach_true
            (PreparedRuleSet.mem_aboutReachability.2 ⟨.inl hmem, habout⟩) horphan hreach
      | false => exact breaks_of_wantedReach_false horphan hreach

theorem exists_mem_notAllowedAtModule_iff :
    (∃ finding ∈ judge.notAllowedAtModule (judge.markedModule graph marked i),
        finding.rule = broken) ↔
      judge.IsOutOfBookedReach graph i ∧ judge.notAllowed = broken := by
  rw [notAllowedAtModule, ← ite_not, exists_mem_ite, isOutOfBookedReach_iff]
  rfl

theorem exists_mem_atModule_iff
    (hfault : ∀ rule ∈ judge.rules.forbidden, rule.rule.fault? = none) :
    (∃ finding ∈ judge.atModule (judge.markedModule graph marked i), finding.rule = broken) ↔
      judge.IsBrokenAt graph i broken := by
  have hforbidden : (∃ finding ∈ (judge.rules.forbidden.filter PreparedRule.isAboutModules).flatMap
      fun rule => judge.forbiddenAtModule rule (judge.markedModule graph marked i),
        finding.rule = broken) ↔
      ∃ rule ∈ judge.rules.forbidden, judge.Breaks graph i rule ∧ rule.broken = broken := by
    simp only [exists_mem_flatMap, List.mem_filter]
    refine exists_congr fun rule => ?_
    constructor
    · rintro ⟨⟨hrule, _⟩, hfound⟩
      exact ⟨hrule, (exists_mem_forbiddenAtModule_iff marked hrule (hfault rule hrule)).1 hfound⟩
    · rintro ⟨hrule, hbreaks⟩
      have hfound :=
        (exists_mem_forbiddenAtModule_iff marked hrule (hfault rule hrule)).2 hbreaks
      refine ⟨⟨hrule, ?_⟩, hfound⟩
      -- A rule that is not about modules finds nothing at a module.
      by_contra hnot
      obtain ⟨finding, hfinding, _⟩ := hfound
      rw [forbiddenAtModule_eq_nil (by simpa using hnot)] at hfinding
      cases hfinding
  rw [IsBrokenAt, ← hforbidden, ← exists_mem_notAllowedAtModule_iff marked, atModule,
    exists_mem_append]

theorem exists_mem_atDependency_iff {dependency : Dependency} :
    (∃ finding ∈ judge.atDependency (judge.markedModule graph marked i) dependency,
        finding.rule = broken) ↔
      judge.IsBrokenBy graph i dependency broken := by
  have hspec : ∀ finding ∈ judge.atDependency (judge.markedModule graph marked i) dependency,
      finding.violation.rule = finding.rule := by
    intro finding hfinding
    rw [atDependency_spec hfinding]
    rfl
  rw [exists_rule_iff_exists_violation hspec, atDependency_eq, exists_mem_append,
    exists_mem_flatMap]
  simp only [forbiddenViolation, outOfBoundsViolation, exists_mem_ite, and_assoc]
  rfl

end Broken

/-- A judged graph names on each module and each dependency the rules that it breaks. -/
def NamesRulesOn (judge : Judge) (graph assessed : Graph) : Prop :=
  assessed.modules.length = graph.modules.length ∧
    ∀ i : graph.Position, ∃ m, assessed.modules[i.val]? = some m ∧
      NamesBroken (judge.IsBrokenAt graph i) m.rules ∧
      ∀ dependency ∈ m.dependencies,
        NamesBroken (judge.IsBrokenBy graph i dependency) dependency.rules

/-- A judge by an accepted rule set names on a sound graph the rules that are broken, each as often
as it is broken with different comments. -/
theorem assess_names_broken {ruleSet : RuleSet} {judge : Judge} {graph : Graph}
    (hrules : ruleSet.prepare = .ok judge.rules) (hsound : graph.ensureSound = .ok ()) :
    ∃ assessed summary, judge.assess graph = .ok (assessed, summary) ∧
      judge.NamesRulesOn graph assessed := by
  have hfault : ∀ rule ∈ judge.rules.forbidden, rule.rule.fault? = none :=
    fun rule hrule => RuleSet.fault?_forbidden_eq_none hrules hrule
  have hassess := judge.assess_eq_ok hsound
  rw [verdicts_eq] at hassess
  refine ⟨_, _, hassess, ?_, fun i => ?_⟩
  · rw [List.length_map, mark_eq, List.length_ofFn]
  · refine ⟨_, by rw [List.getElem?_map, getElem?_mark, Option.map_some], ?_, ?_⟩
    · rw [rules_judged]
      exact namesBroken_references fun rule => exists_mem_atModule_iff _ hfault
    · intro dependency hdependency
      obtain ⟨marked, _, rfl⟩ := mem_dependencies_judged.1 hdependency
      exact namesBroken_references fun rule => exists_mem_atDependency_iff _

/-- Two rules that forbid the same and differ in their comments alone. -/
def twofoldRules : RuleSet :=
  { forbidden := [
      { name := some "no-lib", comment := some "too old", target := { path := some "^lib$" } },
      { name := some "no-lib", comment := some "too slow", target := { path := some "^lib$" } }] }

def twofoldJudge : Judge := { rules := twofoldRules.prepare.toOption.getD {} }

def twofoldGraph : Graph :=
  { modules := [
      { source := "app", dependencies := [.localFile "lib"] },
      { source := "lib" }] }

theorem assess_names_broken_twofold :
    twofoldRules.prepare = .ok twofoldJudge.rules ∧ twofoldGraph.ensureSound = .ok () ∧
      ∃ assessed summary, twofoldJudge.assess twofoldGraph = .ok (assessed, summary) ∧
        twofoldJudge.NamesRulesOn twofoldGraph assessed := by
  have hrules : twofoldRules.prepare = .ok twofoldJudge.rules := rfl
  have hsound : twofoldGraph.ensureSound = .ok () := rfl
  exact ⟨hrules, hsound, assess_names_broken hrules hsound⟩

/-- Both rules are broken by the same dependency, and their common name is written on it twice. -/
theorem assess_names_twice :
    twofoldRules.prepare = .ok twofoldJudge.rules ∧ twofoldGraph.ensureSound = .ok () ∧
      ∃ assessed summary, twofoldJudge.assess twofoldGraph = .ok (assessed, summary) ∧
        ∃ m ∈ assessed.modules, ∃ dependency ∈ m.dependencies,
          dependency.rules = [⟨"no-lib", .error⟩, ⟨"no-lib", .error⟩] ∧
            ¬ dependency.rules.Pairwise fun a b => a.key < b.key := by
  have hsound : twofoldGraph.ensureSound = .ok () := rfl
  have hfound : ((twofoldJudge.mark twofoldGraph).modules[0]?.any fun m =>
      m.dependencies[0]?.any fun dependency =>
        (twofoldJudge.atDependency m dependency).map Finding.rule ==
          [⟨"no-lib", .error, some "too old"⟩, ⟨"no-lib", .error, some "too slow"⟩]) = true := by
    decide +kernel
  obtain ⟨m, hm, hany⟩ := (Option.any_eq_true _ _).1 hfound
  obtain ⟨dependency, hdependency, hrules⟩ := (Option.any_eq_true _ _).1 hany
  rw [beq_iff_eq] at hrules
  have hnamed : references (twofoldJudge.atDependency m dependency) =
      [⟨"no-lib", .error⟩, ⟨"no-lib", .error⟩] := by
    rw [references_of_pairwise (by rw [hrules]; decide), hrules]
    decide
  refine ⟨rfl, hsound, _, _, (twofoldJudge.assess_eq_ok hsound).trans (by rw [verdicts_eq]),
    _, List.mem_map_of_mem (List.mem_of_getElem? hm), _,
    mem_dependencies_judged.2 ⟨dependency, List.mem_of_getElem? hdependency, rfl⟩, hnamed,
    fun hstrict => ?_⟩
  change (references (twofoldJudge.atDependency m dependency)).Pairwise _ at hstrict
  rw [hnamed, List.pairwise_pair] at hstrict
  exact lt_irrefl _ hstrict

end Judge

end DependencyRules
