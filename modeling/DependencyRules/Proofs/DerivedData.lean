import DependencyRules.Proofs.Judgement
import DependencyRules.Proofs.Marks

/-!
# Derived data

Marks, tables, verdicts and the counts of a summary are derived: a judge writes them and never reads
what an earlier run wrote. Graphs that differ in derived data only are judged alike, and a graph
that has been judged is judged the same way again.
-/

namespace DependencyRules

/-! ## Graphs without derived data -/

/-- A dependency as it was extracted. -/
def Dependency.withoutDerived (dependency : Dependency) : Dependency :=
  { dependency with circular := false, cycle := [], valid := none, rules := [] }

def Module.withoutDerived (m : Module) : Module :=
  { m with
    dependencies := m.dependencies.map Dependency.withoutDerived
    reaches := none
    reachable := none
    valid := none
    rules := [] }

/-- What a summary says besides its violations and counts. -/
def Summary.withoutDerived (summary : Summary) : Summary :=
  { summary with
    violations := []
    error := 0
    warn := 0
    info := 0
    totalCruised := 0
    totalDependenciesCruised := 0 }

def Graph.withoutDerived (graph : Graph) : Graph :=
  { graph with
    modules := graph.modules.map Module.withoutDerived
    summary := graph.summary.withoutDerived }

namespace Graph

/-! ## Checking and marking -/

theorem firstDefect?_map_withoutDerived (seen : Std.TreeSet String) (modules : List Module) :
    firstDefect? seen (modules.map Module.withoutDerived) = firstDefect? seen modules := by
  induction modules generalizing seen with
  | nil => rfl
  | cons m rest ih =>
      have hfind :
          m.withoutDerived.dependencies.find? (fun dependency => !dependency.isConsistent) =
          (m.dependencies.find? fun dependency => !dependency.isConsistent).map
            Dependency.withoutDerived := by
        rw [Module.withoutDerived, List.find?_map]
        rfl
      rw [List.map_cons, firstDefect?, firstDefect?, hfind, ih]
      cases m.dependencies.find? fun dependency => !dependency.isConsistent <;> rfl

theorem ensureSound_withoutDerived (graph : Graph) :
    graph.withoutDerived.ensureSound = graph.ensureSound := by
  have hdefect : graph.withoutDerived.defect? = graph.defect? :=
    firstDefect?_map_withoutDerived ∅ graph.modules
  unfold ensureSound
  rw [hdefect]

section Marks

variable {n : Nat} (modules : Vector Module n)

theorem edgeData_withoutDerived (m : Module) :
    m.withoutDerived.dependencies.map Dependency.edgeData =
      m.dependencies.map Dependency.edgeData := by
  rw [Module.withoutDerived, List.map_map]
  rfl

theorem cycleMarked_map_withoutDerived (i : Fin n) :
    (cycleMarked (modules.map Module.withoutDerived)).get i =
      { ((cycleMarked modules).get i).withoutVerdicts with
        reaches := none, reachable := none } := by
  have hlinks : Links.ofModules (modules.map Module.withoutDerived) = Links.ofModules modules := by
    refine Links.ofModules_congr (fun i => ?_) (fun i => ?_)
    · rw [Vector.get_map]
      rfl
    · rw [Vector.get_map, edgeData_withoutDerived]
  have hmark : ∀ (cycle? : Edge n → Option (List String)) (edges : List (Edge n)),
      markCycles cycle? 0 ((modules.get i).dependencies.map Dependency.withoutDerived) edges =
        (markCycles cycle? 0 (modules.get i).dependencies edges).map Dependency.withoutVerdict :=
    fun cycle? edges => markCycles_map cycle? (fun _ _ => rfl) 0 _ edges
  simp only [cycleMarked, hlinks, Vector.get_ofFn, Vector.get_map, Module.withoutDerived,
    Module.withoutVerdicts, hmark]

/-- The marks of a module do not depend on derived data, and its earlier verdicts stay behind. -/
theorem reachMarked_map_withoutDerived (rules : PreparedRuleSet) (i : Fin n) :
    (reachMarked rules (cycleMarked (modules.map Module.withoutDerived))).get i =
      ((reachMarked rules (cycleMarked modules)).get i).withoutVerdicts := by
  have hget := cycleMarked_map_withoutDerived modules
  have hsource : ∀ i, ((cycleMarked (modules.map Module.withoutDerived)).get i).source =
      ((cycleMarked modules).get i).source := by
    intro i
    rw [hget]
    rfl
  have hedges : ∀ i, ((cycleMarked (modules.map Module.withoutDerived)).get i).dependencies.map
      Dependency.edgeData = ((cycleMarked modules).get i).dependencies.map Dependency.edgeData := by
    intro i
    rw [hget, Module.withoutVerdicts, List.map_map]
    rfl
  have hself : (reachMarked rules (cycleMarked modules)).get i =
      { (cycleMarked modules).get i with
        reaches := ((reachMarked rules (cycleMarked modules)).get i).reaches
        reachable := ((reachMarked rules (cycleMarked modules)).get i).reachable } :=
    reachMarked_get rules _ _ (fun _ => rfl) (fun _ => rfl) i
  rw [reachMarked_get rules _ _ hsource hedges i, hget, hself]
  rfl

end Marks

end Graph

namespace Judge

variable (judge : Judge)

theorem mark_eq_of_toList_eq {graph : Graph} {n : Nat} {modules : Vector Module n}
    (h : modules.toList = graph.modules) :
    judge.mark graph =
      { graph with
        modules := (Graph.reachMarked judge.rules (Graph.cycleMarked modules)).toList } := by
  rw [mark, Graph.withCycles_eq_cycleMarked h,
    Graph.withReachability_eq_reachMarked judge.rules rfl]

theorem mark_withoutDerived (graph : Graph) :
    judge.mark graph.withoutDerived =
      { judge.mark graph with
        modules := (judge.mark graph).modules.map Module.withoutVerdicts
        summary := graph.summary.withoutDerived } := by
  have hmodules : graph.moduleVector.toList = graph.modules := by simp [Graph.moduleVector]
  have hderived : (graph.moduleVector.map Module.withoutDerived).toList =
      graph.withoutDerived.modules := by
    rw [Vector.toList_map, hmodules]
    rfl
  rw [judge.mark_eq_of_toList_eq hmodules, judge.mark_eq_of_toList_eq hderived, toList_eq_ofFn,
    toList_eq_ofFn, List.map_ofFn]
  simp only [Graph.reachMarked_map_withoutDerived, Function.comp_def]
  rfl

/-! ## Judging -/

theorem verdicts_map_withoutVerdicts (graph : Graph) (summary : Summary)
    (extra : List (String × Json)) :
    judge.verdicts
        { graph with modules := graph.modules.map Module.withoutVerdicts, summary } extra =
      judge.verdicts graph extra := by
  have hsummary : judge.summaryOf (graph.modules.map Module.withoutVerdicts) extra =
      judge.summaryOf graph.modules extra := by
    have hcount : ((graph.modules.map Module.withoutVerdicts).flatMap Module.dependencies).length =
        (graph.modules.flatMap Module.dependencies).length := by
      simp [List.length_flatMap, Function.comp_def, Module.withoutVerdicts]
    rw [summaryOf, summaryOf, hcount, List.length_map, List.flatMap_map]
    simp only [findings_withoutVerdicts]
  simp only [verdicts_eq, hsummary, List.map_map, Function.comp_def, judged_withoutVerdicts]

theorem assess_withoutDerived (graph : Graph) :
    judge.assess graph.withoutDerived = judge.assess graph := by
  cases hsound : graph.ensureSound with
  | error error =>
      rw [judge.assess_eq_error hsound,
        judge.assess_eq_error (graph.ensureSound_withoutDerived.trans hsound)]
  | ok =>
      rw [judge.assess_eq_ok hsound,
        judge.assess_eq_ok (graph.ensureSound_withoutDerived.trans hsound), mark_withoutDerived,
        verdicts_map_withoutVerdicts]
      rfl

theorem withoutDerived_judged (m : Module) :
    (judge.judged m).withoutDerived = m.withoutDerived := by
  have hdependencies : (m.dependencies.map fun dependency =>
      judgedDependency dependency (judge.atDependency m dependency)).map
        Dependency.withoutDerived = m.dependencies.map Dependency.withoutDerived := by
    rw [List.map_map]
    rfl
  rw [judged_eq]
  unfold Module.withoutDerived
  rw [hdependencies]

theorem withoutDerived_markedModule (graph : Graph) (i : graph.Position) :
    (judge.markedModule graph graph.markedDependencies i).withoutDerived =
      (graph.moduleAt i).withoutDerived := by
  have hdependencies : (graph.markedDependencies i).map Dependency.withoutDerived =
      (graph.moduleAt i).dependencies.map Dependency.withoutDerived := by
    rw [← List.forall₂_eq_eq_eq, List.forall₂_map_left_iff, List.forall₂_map_right_iff]
    refine (graph.forall₂_markedDependencies i).flip.imp fun marked dependency hmark => ?_
    rw [hmark.unchanged]
    rfl
  unfold Module.withoutDerived markedModule
  rw [hdependencies]

/-- What a judge writes on a graph is derived data. -/
theorem withoutDerived_of_assess {graph assessed : Graph} {summary : Summary}
    (h : judge.assess graph = .ok (assessed, summary)) :
    assessed.withoutDerived = graph.withoutDerived := by
  have hsound : graph.ensureSound = .ok () := by
    cases hsound : graph.ensureSound with
    | error error =>
        rw [judge.assess_eq_error hsound] at h
        cases h
    | ok => rfl
  rw [judge.assess_eq_ok hsound, verdicts_eq, Except.ok.injEq, Prod.mk.injEq] at h
  obtain ⟨rfl, _⟩ := h
  have hmodules : ((judge.mark graph).modules.map judge.judged).map Module.withoutDerived =
      graph.modules.map Module.withoutDerived := by
    conv_rhs => rw [← graph.ofFn_moduleAt, List.map_ofFn]
    simp only [mark_eq, List.map_ofFn, Function.comp_def, withoutDerived_judged,
      withoutDerived_markedModule]
  unfold Graph.withoutDerived
  rw [hmodules]
  rfl

/-- Graphs that differ in derived data only are judged alike, accepted or not. So a second run on
the outcome of a first changes nothing. -/
theorem assess_ignores_derived :
    (∀ graph other : Graph, graph.withoutDerived = other.withoutDerived →
      judge.assess graph = judge.assess other) ∧
    ∀ (graph assessed : Graph) (summary : Summary),
      judge.assess graph = .ok (assessed, summary) →
        judge.assess assessed = .ok (assessed, summary) := by
  have hderived : ∀ graph other : Graph, graph.withoutDerived = other.withoutDerived →
      judge.assess graph = judge.assess other := by
    intro graph other heq
    rw [← judge.assess_withoutDerived graph, heq, assess_withoutDerived]
  refine ⟨hderived, fun graph assessed summary h => ?_⟩
  rw [hderived assessed graph (judge.withoutDerived_of_assess h), h]

def cycleJudge : Judge :=
  { rules :=
      { forbidden := [
          { rule := { target := { circular := some true } }, name := "no-cycles",
            severity := .error }] } }

/-- Two modules that depend on each other, with the marks of a run on some other graph. -/
def staleGraph : Graph :=
  { modules := [
      { source := "a", reaches := some [], valid := some true
        dependencies := [
          { Dependency.localFile "b" with
            cycle := ["c"], valid := some true, rules := [⟨"old", .warn⟩] }] },
      { source := "b", reachable := some [⟨true, "old", none⟩], rules := [⟨"old", .warn⟩]
        dependencies := [.localFile "a"] }]
    summary := { warn := 7, totalCruised := 3 } }

theorem assess_ignores_derived_stale :
    staleGraph.withoutDerived.withoutDerived = staleGraph.withoutDerived ∧
      cycleJudge.assess staleGraph.withoutDerived = cycleJudge.assess staleGraph ∧
      ∃ assessed summary, cycleJudge.assess staleGraph = .ok (assessed, summary) ∧
        cycleJudge.assess assessed = .ok (assessed, summary) := by
  have hderived : staleGraph.withoutDerived.withoutDerived = staleGraph.withoutDerived := rfl
  have hsound : staleGraph.ensureSound = .ok () := rfl
  have hassess := cycleJudge.assess_eq_ok hsound
  exact ⟨hderived, cycleJudge.assess_ignores_derived.1 _ _ hderived, _, _, hassess,
    cycleJudge.assess_ignores_derived.2 _ _ _ hassess⟩

end Judge

end DependencyRules
