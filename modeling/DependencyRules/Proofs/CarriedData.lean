import DependencyRules.Proofs.DerivedData
import DependencyRules.Proofs.RuleSets

/-!
# Data that a judge carries along

A judge writes derived data and leaves everything else as it was extracted: the modules and their
dependencies stay in their order, with the same pass-through data. The totals of the summary count
the modules and dependencies of the graph that was judged.
-/

namespace DependencyRules

/-! ## What is carried over -/

/-- Nothing but derived data tells a dependency from the judged one. -/
def Dependency.CarriesOver (dependency judged : Dependency) : Prop :=
  judged = { dependency with
    circular := judged.circular, cycle := judged.cycle, valid := judged.valid,
    rules := judged.rules }

structure Module.CarriesOver (m judged : Module) : Prop where
  unchanged : judged = { m with
    dependencies := judged.dependencies, reaches := judged.reaches, reachable := judged.reachable,
    valid := judged.valid, rules := judged.rules }
  dependencies : List.Forall₂ Dependency.CarriesOver m.dependencies judged.dependencies

structure Graph.CarriesOver (graph judged : Graph) : Prop where
  unchanged : judged = { graph with modules := judged.modules, summary := judged.summary }
  modules : List.Forall₂ Module.CarriesOver graph.modules judged.modules
  extra : judged.summary.extra = graph.summary.extra

theorem Dependency.carriesOver_iff (dependency judged : Dependency) :
    dependency.CarriesOver judged ↔ judged.withoutDerived = dependency.withoutDerived := by
  cases dependency
  cases judged
  simp only [CarriesOver, withoutDerived, Dependency.mk.injEq, true_and]

theorem Module.carriesOver_iff (m judged : Module) :
    m.CarriesOver judged ↔ judged.withoutDerived = m.withoutDerived := by
  have hdependencies : List.Forall₂ Dependency.CarriesOver m.dependencies judged.dependencies ↔
      judged.dependencies.map Dependency.withoutDerived =
        m.dependencies.map Dependency.withoutDerived :=
    forall₂_iff_map_eq Dependency.carriesOver_iff
  constructor
  · intro h
    rw [h.unchanged]
    unfold withoutDerived
    rw [hdependencies.1 h.dependencies]
  · intro h
    cases m
    cases judged
    simp only [withoutDerived, Module.mk.injEq, true_and] at h
    obtain ⟨hsource, horphan, hmap, hdependents, hextra⟩ := h
    exact ⟨by rw [hsource, horphan, hdependents, hextra], hdependencies.2 hmap⟩

/-- Erasing the derived data of a judged graph gives what erasing it before gives exactly when all
the other data is there, in its place. -/
theorem Graph.carriesOver_iff (graph judged : Graph) :
    graph.CarriesOver judged ↔ judged.withoutDerived = graph.withoutDerived := by
  have hmodules : List.Forall₂ Module.CarriesOver graph.modules judged.modules ↔
      judged.modules.map Module.withoutDerived = graph.modules.map Module.withoutDerived :=
    forall₂_iff_map_eq Module.carriesOver_iff
  have hsummary : judged.summary.withoutDerived = graph.summary.withoutDerived ↔
      judged.summary.extra = graph.summary.extra := by
    simp [Summary.withoutDerived]
  constructor
  · intro h
    rw [h.unchanged]
    unfold withoutDerived
    rw [hmodules.1 h.modules, hsummary.2 h.extra]
  · intro h
    cases graph
    cases judged
    simp only [withoutDerived, Graph.mk.injEq] at h
    obtain ⟨hmap, hfolders, hderived, hextra⟩ := h
    exact ⟨by rw [hfolders, hextra], hmodules.2 hmap, hsummary.1 hderived⟩

/-! ## Counts -/

namespace Graph.CarriesOver

variable {graph judged : Graph}

theorem length_modules (h : graph.CarriesOver judged) :
    judged.modules.length = graph.modules.length :=
  h.modules.length_eq.symm

theorem dependencyCount_eq (h : graph.CarriesOver judged) :
    judged.dependencyCount = graph.dependencyCount := by
  have hcount : ∀ {modules others : List Module}, List.Forall₂ Module.CarriesOver modules others →
      (others.flatMap Module.dependencies).length =
        (modules.flatMap Module.dependencies).length := by
    intro modules others hmodules
    induction hmodules with
    | nil => rfl
    | cons hmodule _ ih =>
        simp only [List.flatMap_cons, List.length_append]
        rw [ih, hmodule.dependencies.length_eq]
  exact hcount h.modules

end Graph.CarriesOver

namespace Judge

variable (judge : Judge)

/-- The totals of a summary count what the judged graph holds. -/
theorem totals_of_assess {graph assessed : Graph} {summary : Summary}
    (h : judge.assess graph = .ok (assessed, summary)) :
    assessed.summary = summary ∧ summary.totalCruised = assessed.modules.length ∧
      summary.totalDependenciesCruised = assessed.dependencyCount := by
  obtain ⟨_, _, h⟩ := bind_eq_ok h
  rw [verdicts_eq] at h
  cases h
  have hcount : ∀ m, (judge.judged m).dependencies.length = m.dependencies.length := by
    intro m
    rw [judged_eq, List.length_map]
  simp [summaryOf, Tally.summary, Graph.dependencyCount, List.length_flatMap, Function.comp_def,
    hcount]

/-- A judge leaves all data that it does not derive as it is, in its order. -/
theorem assess_carries_over {graph assessed : Graph} {summary : Summary}
    (h : judge.assess graph = .ok (assessed, summary)) :
    assessed.withoutDerived = graph.withoutDerived ∧ graph.CarriesOver assessed ∧
      assessed.summary = summary ∧ summary.totalCruised = graph.modules.length ∧
      summary.totalDependenciesCruised = graph.dependencyCount := by
  have hderived := judge.withoutDerived_of_assess h
  have hcarries := (graph.carriesOver_iff assessed).2 hderived
  obtain ⟨hsummary, hcruised, hdependencies⟩ := judge.totals_of_assess h
  rw [hcarries.length_modules] at hcruised
  rw [hcarries.dependencyCount_eq] at hdependencies
  exact ⟨hderived, hcarries, hsummary, hcruised, hdependencies⟩

/-- Modules with pass-through data at every place and with the marks of an earlier run. -/
def annotatedGraph : Graph :=
  { modules := [
      { source := "a", dependents := some ["b"], valid := some false
        extra := [("type", .string "script"), ("size", .int 3)]
        dependencies := [
          { Dependency.localFile "b" with
            license := some "MIT", cycle := ["c"], extra := [("system", .string "es6")] },
          .unresolved "missing"] },
      { source := "b", dependencies := [.localFile "a"] },
      { source := "c", orphan := true, rules := [⟨"old", .warn⟩] }]
    folders := some [.string "src"]
    summary := { warn := 7, totalCruised := 1, extra := [("options", .object [])] }
    extra := [("version", .null)] }

theorem assess_carries_over_annotated :
    ∃ assessed summary, cycleJudge.assess annotatedGraph = .ok (assessed, summary) ∧
      assessed.withoutDerived = annotatedGraph.withoutDerived ∧
      annotatedGraph.CarriesOver assessed ∧ assessed.summary = summary ∧
      summary.totalCruised = 3 ∧ summary.totalDependenciesCruised = 3 := by
  have hsound : annotatedGraph.ensureSound = .ok () := rfl
  have hassess := cycleJudge.assess_eq_ok hsound
  exact ⟨_, _, hassess, cycleJudge.assess_carries_over hassess⟩

end Judge

end DependencyRules
