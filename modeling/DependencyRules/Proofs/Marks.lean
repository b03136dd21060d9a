import DependencyRules.Judge
import DependencyRules.Proofs.Cycles
import DependencyRules.Proofs.Reachability

/-!
# The modules that a judge looks at

A judge looks at the modules of a graph after both kinds of marks have been made. The marks on
dependencies leave the edges as they are, so the tables are those of the graph itself. Where rules
about reachability have distinct headings, what is booked under the heading of a rule is its own.
-/

namespace DependencyRules

/-! ## Marks -/

namespace Judge

/-- A module as it is judged: with marks on its dependencies and with its tables. -/
def markedModule (judge : Judge) (graph : Graph) (marked : graph.Position → List Dependency)
    (i : graph.Position) : Module :=
  { graph.moduleAt i with
    dependencies := marked i
    reaches := graph.reachesTable judge.rules graph.foundRoutes i
    reachable := graph.reachableTable judge.rules graph.arrivalAt i }

/-- Marks leave the edges of a module as they are. -/
theorem edgeData_of_isCycleMark {graph : Graph} {i : graph.Position}
    {dependencies marked : List Dependency}
    (h : List.Forall₂ (graph.IsCycleMark i) dependencies marked) :
    marked.map Dependency.edgeData = dependencies.map Dependency.edgeData := by
  induction h with
  | nil => rfl
  | cons hmark _ ih =>
      rw [List.map_cons, List.map_cons, ih, hmark.unchanged]
      rfl

/-- The tables of a judged module are those of the graph before its cycles were marked. -/
theorem mark_eq (judge : Judge) (graph : Graph) :
    judge.mark graph =
      { graph with
        modules := List.ofFn (judge.markedModule graph graph.markedDependencies) } := by
  let modules : Vector Module graph.modules.length := Vector.ofFn fun i =>
    { graph.moduleAt i with dependencies := graph.markedDependencies i }
  have hmodules : modules.toList = (graph.withDependencies graph.markedDependencies).modules :=
    Vector.toList_ofFn
  have hget : ∀ i : graph.Position,
      modules.get i = { graph.moduleAt i with dependencies := graph.markedDependencies i } :=
    fun i => Vector.get_ofFn _ i
  have hedges : ∀ i : graph.Position, (modules.get i).dependencies.map Dependency.edgeData =
      (graph.moduleVector.get i).dependencies.map Dependency.edgeData := by
    intro i
    rw [hget, graph.moduleVector_get]
    exact edgeData_of_isCycleMark (graph.forall₂_markedDependencies i)
  have hmark : ∀ i : graph.Position, (Graph.reachMarked judge.rules modules).get i =
      judge.markedModule graph graph.markedDependencies i := by
    intro i
    rw [Graph.reachMarked_get judge.rules graph.moduleVector modules
      (fun i => by rw [hget, graph.moduleVector_get]) hedges,
      Graph.reachMarked_moduleVector, hget]
    rfl
  rw [mark, Graph.withCycles_eq, Graph.withReachability_eq_reachMarked judge.rules hmodules,
    toList_eq_ofFn]
  simp only [hmark]
  rfl

theorem exists_mark_eq (judge : Judge) (graph : Graph) :
    ∃ marked : graph.Position → List Dependency,
      (∀ i, List.Forall₂ (graph.IsCycleMark i) (graph.moduleAt i).dependencies (marked i)) ∧
        judge.mark graph =
          { graph with modules := List.ofFn (judge.markedModule graph marked) } :=
  ⟨_, graph.forall₂_markedDependencies, judge.mark_eq graph⟩

end Judge

/-! ## Looking up a heading -/

/-- No two rules about reachability share a heading. -/
abbrev PreparedRuleSet.HasDistinctHeadings (rules : PreparedRuleSet) : Prop :=
  (rules.aboutReachability.map PreparedRule.heading).Nodup

theorem PreparedRuleSet.mem_aboutReachability {rules : PreparedRuleSet} {rule : PreparedRule} :
    rule ∈ rules.aboutReachability ↔
      (rule ∈ rules.forbidden ∨ rule ∈ rules.allowed) ∧ rule.isAboutReachability = true := by
  rw [aboutReachability, List.mem_filter, List.mem_append]

namespace Judge

section Lookup

variable {judge : Judge} {graph : Graph} {marked : graph.Position → List Dependency}
  {rule : PreparedRule}

/-- Where headings are distinct, the entries under the heading of a rule are its own. -/
theorem filter_heading_eq {β : Type} {rules : List PreparedRule}
    (hheadings : (rules.map PreparedRule.heading).Nodup) (hmem : rule ∈ rules)
    (p : PreparedRule → Bool) (entry : PreparedRule → β) (heading : β → String)
    (hentry : ∀ r, heading (entry r) = r.heading) :
    ((rules.filter p).map entry).filter (fun b => heading b = rule.heading) =
      if p rule then [entry rule] else [] := by
  have hsame : ∀ r ∈ rules, decide (heading (entry r) = rule.heading) = (r == rule) := by
    intro r hr
    rw [hentry, Bool.eq_iff_iff, decide_eq_true_eq, beq_iff_eq]
    exact ⟨fun h => List.inj_on_of_nodup_map hheadings hr hmem h, fun h => h ▸ rfl⟩
  have hone : rules.filter (fun r => heading (entry r) = rule.heading) = [rule] := by
    rw [List.filter_congr hsame, List.filter_beq,
      List.count_eq_one_of_mem hheadings.of_map hmem]
    rfl
  rw [List.filter_map, Function.comp_def, List.filter_comm, hone, List.filter_singleton]
  cases p rule <;> rfl

theorem getD_nonEmpty? {α : Type} (items : List α) : (nonEmpty? items).getD [] = items := by
  cases items <;> rfl

theorem filter_aboutReachability (rules : PreparedRuleSet) (p : PreparedRule → Bool) :
    (rules.forbidden ++ rules.allowed).filter (fun rule => rule.isAboutReachability && p rule) =
      rules.aboutReachability.filter p := by
  rw [PreparedRuleSet.aboutReachability, List.filter_filter]
  simp only [Bool.and_comm]

variable (hheadings : judge.rules.HasDistinctHeadings)
  (hmem : rule ∈ judge.rules.aboutReachability) (i : graph.Position)

include hheadings hmem

theorem routesUnder_markedModule :
    (judge.markedModule graph marked i).routesUnder rule.heading =
      if (graph.foundRoutes rule i).isEmpty then []
      else [graph.routesEntry rule.heading (graph.foundRoutes rule i)] := by
  unfold Module.routesUnder markedModule Graph.reachesTable
  rw [getD_nonEmpty?, filter_aboutReachability, filter_heading_eq hheadings hmem _
    (fun rule => graph.routesEntry rule.heading (graph.foundRoutes rule i)) _ fun _ => rfl]
  cases (graph.foundRoutes rule i).isEmpty <;> rfl

theorem arrivalsUnder_markedModule :
    (judge.markedModule graph marked i).arrivalsUnder rule.heading =
      if rule.aimsAt (graph.sourceAt i) then [graph.arrivalAt rule i] else [] := by
  unfold Module.arrivalsUnder markedModule Graph.reachableTable
  rw [getD_nonEmpty?, filter_aboutReachability, filter_heading_eq hheadings hmem _
    (fun rule => graph.arrivalAt rule i) _ fun _ => rfl]

end Lookup

end Judge

end DependencyRules
