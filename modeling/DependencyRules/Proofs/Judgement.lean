import DependencyRules.Judge
import DependencyRules.Proofs.Tally

/-!
# Verdicts, module by module

The verdicts on a graph are made for one module after the other, and the summary collects what was
found. Neither earlier verdicts nor the roots of arrivals are looked at, and what is written on a
module does not depend on the order in which its findings were made.
-/

namespace DependencyRules

namespace Dependency

def withoutVerdict (dependency : Dependency) : Dependency :=
  { dependency with valid := none, rules := [] }

end Dependency

namespace Arrival

/-- An arrival that does not tell where it comes from. -/
def withoutRoot (arrival : Arrival) : Arrival := { arrival with root := none }

end Arrival

namespace Module

def withoutVerdicts (m : Module) : Module :=
  { m with
    dependencies := m.dependencies.map Dependency.withoutVerdict
    valid := none
    rules := [] }

/-- A module whose arrivals do not tell where they come from. -/
def withoutRoots (m : Module) : Module :=
  { m with reachable := m.reachable.map (List.map Arrival.withoutRoot) }

theorem arrivalsUnder_withoutRoots (m : Module) (heading : String) :
    m.withoutRoots.arrivalsUnder heading =
      (m.arrivalsUnder heading).map Arrival.withoutRoot := by
  unfold arrivalsUnder withoutRoots
  cases m.reachable with
  | none => rfl
  | some arrivals =>
      simp only [Option.map_some, Option.getD_some, List.filter_map]
      rfl

end Module

theorem Rule.findsArrival_withoutRoots (rule : Rule) (m : Module) (isReached : Bool) :
    rule.findsArrival m.withoutRoots isReached = rule.findsArrival m isReached := by
  simp [findsArrival, Module.arrivalsUnder_withoutRoots, Function.comp_def, Arrival.withoutRoot]

namespace Judge

section Judged

variable (judge : Judge)

def judged (m : Module) : Module := judgedModule m (judge.findings m)

theorem judged_eq (m : Module) :
    judge.judged m =
      { m with
        valid := some (judge.atModule m).isEmpty
        rules := references (judge.atModule m)
        dependencies := m.dependencies.map fun dependency =>
          judgedDependency dependency (judge.atDependency m dependency) } := by
  simp [judged, judgedModule, findings, List.zipWith_map_right, List.zipWith_self]

theorem violations_findings (m : Module) :
    (judge.findings m).violations =
      (judge.atModule m ++ m.dependencies.flatMap (judge.atDependency m)).map
        Finding.violation := by
  rw [Findings.violations, findings, List.flatMap_def]

def summaryOf (modules : List Module) (extra : List (String × Json)) : Summary :=
  Tally.summary ⟨modules.flatMap fun m => (judge.findings m).violations⟩ modules.length
    (modules.flatMap Module.dependencies).length extra

theorem verdicts_eq (graph : Graph) (extra : List (String × Json)) :
    judge.verdicts graph extra =
      ({ graph with
          modules := graph.modules.map judge.judged
          summary := judge.summaryOf graph.modules extra },
        judge.summaryOf graph.modules extra) := by
  have hmodules : graph.modules.zipWith judgedModule (graph.modules.map judge.findings) =
      graph.modules.map judge.judged := by
    rw [List.zipWith_map_right, List.zipWith_self]
    rfl
  simp only [verdicts, hmodules, summaryOf, List.flatMap_map, Graph.dependencyCount]

theorem assess_eq_ok {graph : Graph} (h : graph.ensureSound = .ok ()) :
    judge.assess graph = .ok (judge.verdicts (judge.mark graph) graph.summary.extra) := by
  rw [assess, h]
  rfl

theorem assess_eq_error {graph : Graph} {error : Error} (h : graph.ensureSound = .error error) :
    judge.assess graph = .error error := by
  rw [assess, h]
  rfl

/-! ## What is not looked at -/

theorem findings_withoutVerdicts (m : Module) :
    judge.findings m.withoutVerdicts = judge.findings m := by
  have hdependencies : m.withoutVerdicts.dependencies.map
      (judge.atDependency m.withoutVerdicts) = m.dependencies.map (judge.atDependency m) := by
    rw [Module.withoutVerdicts, List.map_map]
    rfl
  simp only [findings, hdependencies]
  rfl

theorem judged_withoutVerdicts (m : Module) : judge.judged m.withoutVerdicts = judge.judged m := by
  have hmap : m.withoutVerdicts.dependencies.zipWith judgedDependency
      (judge.findings m).atDependencies =
        m.dependencies.zipWith judgedDependency (judge.findings m).atDependencies := by
    rw [Module.withoutVerdicts, List.zipWith_map_left]
    rfl
  unfold judged judgedModule
  rw [findings_withoutVerdicts, hmap]
  rfl

theorem findings_withoutRoots (m : Module) :
    judge.findings m.withoutRoots = judge.findings m := by
  have hforbidden : ∀ rule, judge.forbiddenAtModule rule m.withoutRoots =
      judge.forbiddenAtModule rule m := by
    intro rule
    simp only [forbiddenAtModule, Rule.findsArrival_withoutRoots]
    rfl
  have hallowed : judge.notAllowedAtModule m.withoutRoots = judge.notAllowedAtModule m := by
    simp only [notAllowedAtModule, Rule.findsArrival_withoutRoots,
      Module.arrivalsUnder_withoutRoots, List.isEmpty_map]
    rfl
  simp only [findings, atModule, hforbidden, hallowed]
  rfl

theorem judged_withoutRoots (m : Module) :
    judge.judged m.withoutRoots = (judge.judged m).withoutRoots := by
  unfold judged
  rw [findings_withoutRoots]
  rfl

end Judged

/-! ## The order of findings -/

theorem references_eq_of_perm {found other : List Finding} (h : found.Perm other) :
    references found = references other := by
  unfold references
  rw [mergeSort_compare_eq_of_perm (h.map Finding.rule)]

theorem judgedDependency_eq_of_perm (dependency : Dependency) {found other : List Finding}
    (h : found.Perm other) :
    judgedDependency dependency found = judgedDependency dependency other := by
  unfold judgedDependency
  rw [references_eq_of_perm h, h.isEmpty_eq]

end Judge

end DependencyRules
