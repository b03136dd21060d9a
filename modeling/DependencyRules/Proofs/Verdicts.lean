import DependencyRules.Proofs.Marks
import DependencyRules.Proofs.RuleSets
import DependencyRules.Proofs.Tally

/-!
# What a judge reports

The violations that a judge reports are told without walks, tables and headings: six kinds of them,
each read off the rules and the edges of the graph.
-/

namespace DependencyRules

/-! ## Expected violations -/

namespace Graph

def selfViolation (graph : Graph) (rule : BrokenRule) (i : graph.Position) : Violation :=
  { rule, source := graph.sourceAt i, target := graph.sourceAt i }

def routeViolation (graph : Graph) (rule : BrokenRule) (i t : graph.Position)
    (route : List graph.Position) : Violation :=
  { rule, source := graph.sourceAt i, target := graph.sourceAt t,
    via := some (route.map graph.sourceAt) }

def edgeViolation (graph : Graph) (rule : BrokenRule) (i : graph.Position)
    (dependency : Dependency) : Violation :=
  { rule, source := graph.sourceAt i, target := dependency.target,
    cycle := if dependency.circular then dependency.cycle else [] }

end Graph

namespace Judge

section Expected

variable (judge : Judge) (graph : Graph)

/-- The violation of a rule about orphans by a module: the module is an orphan, the rule objects to
orphans and applies to it, and its name is not one of those that stand alone. -/
def orphanViolation (rule : PreparedRule) (i : graph.Position) : List Violation :=
  if rule.rule.wantedOrphan = some true ∧ rule.appliesTo (graph.moduleAt i) = true ∧
      (graph.moduleAt i).orphan = true ∧ judge.standalone.includes (graph.sourceAt i) = false then
    [graph.selfViolation rule.broken i]
  else []

open Classical in
/-- The violations by a module of a rule that forbids to reach something: one for each other module
that the rule aims at and that some route leads to. -/
noncomputable def routeViolations (route : graph.Position → graph.Position → List graph.Position)
    (rule : PreparedRule) (i : graph.Position) : List Violation :=
  (List.finRange _).flatMap fun t =>
    if rule.wantedReach = some true ∧ rule.appliesTo (graph.moduleAt i) = true ∧ t ≠ i ∧
        rule.aimsAt (graph.sourceAt t) = true ∧ graph.HasRoute i t then
      [graph.routeViolation rule.broken i t (route i t)]
    else []

open Classical in
noncomputable def unreachedViolation (rule : PreparedRule) (i : graph.Position) :
    List Violation :=
  if rule.wantedReach = some false ∧ rule.aimsAt (graph.sourceAt i) = true ∧
      ¬ graph.IsReached rule i then
    [graph.selfViolation rule.broken i]
  else []

/-- Some allowed rule about reachability aims at a module, and each that does wants it reached just
when it is not. -/
def IsOutOfReach (i : graph.Position) : Prop :=
  (∃ rule ∈ judge.rules.allowed, rule.isAboutReachability = true ∧
    rule.aimsAt (graph.sourceAt i) = true) ∧
  ∀ rule ∈ judge.rules.allowed, rule.aimsAt (graph.sourceAt i) = true →
    ∀ wanted, rule.wantedReach = some wanted → ¬ (wanted = true ↔ graph.IsReached rule i)

open Classical in
noncomputable def outOfReachViolation (i : graph.Position) : List Violation :=
  if judge.IsOutOfReach graph i then [graph.selfViolation judge.notAllowed i] else []

def forbiddenViolation (rule : PreparedRule) (i : graph.Position) (dependency : Dependency) :
    List Violation :=
  if rule.isAboutModules = false ∧ rule.appliesTo (graph.moduleAt i) = true ∧
      rule.accepts dependency = true then
    [graph.edgeViolation rule.broken i dependency]
  else []

/-- Some allowed rule about dependencies applies to a module, and none that does accepts a
dependency. -/
def IsOutOfBounds (i : graph.Position) (dependency : Dependency) : Prop :=
  (∃ rule ∈ judge.rules.allowed, rule.isAboutModules = false ∧
    rule.appliesTo (graph.moduleAt i) = true) ∧
  ∀ rule ∈ judge.rules.allowed, rule.isAboutModules = false →
    rule.appliesTo (graph.moduleAt i) = true → rule.accepts dependency = false

open Classical in
noncomputable def outOfBoundsViolation (i : graph.Position) (dependency : Dependency) :
    List Violation :=
  if judge.IsOutOfBounds graph i dependency then
    [graph.edgeViolation judge.notAllowed i dependency]
  else []

/-- All violations by a module and its dependencies, given the dependencies with their marks and the
routes to report. -/
noncomputable def expectedViolations (marked : graph.Position → List Dependency)
    (route : graph.Position → graph.Position → List graph.Position) (i : graph.Position) :
    List Violation :=
  (judge.rules.forbidden.flatMap fun rule => judge.orphanViolation graph rule i) ++
  (judge.rules.forbidden.flatMap fun rule => routeViolations graph route rule i) ++
  (judge.rules.forbidden.flatMap fun rule => unreachedViolation graph rule i) ++
  judge.outOfReachViolation graph i ++
  ((marked i).flatMap fun dependency =>
    judge.rules.forbidden.flatMap fun rule => forbiddenViolation graph rule i dependency) ++
  ((marked i).flatMap fun dependency => judge.outOfBoundsViolation graph i dependency)

end Expected

end Judge

/-! ## Findings of one rule -/

theorem distinctRoutes_eq_self {seen : List String} {routes : List Route}
    (hnodup : (routes.map Route.source).Nodup) (hseen : ∀ route ∈ routes, route.source ∉ seen) :
    distinctRoutes seen routes = routes := by
  induction routes generalizing seen with
  | nil => rfl
  | cons route rest ih =>
      rw [List.map_cons, List.nodup_cons] at hnodup
      have hnew : seen.contains route.source = false := by
        simpa using hseen route (List.mem_cons_self ..)
      rw [distinctRoutes, hnew, if_neg Bool.false_ne_true, ih hnodup.2]
      intro other hother hmem
      rcases List.mem_cons.1 hmem with heq | hmem'
      · exact hnodup.1 (heq ▸ List.mem_map_of_mem hother)
      · exact hseen other (List.mem_cons_of_mem _ hother) hmem'

namespace Judge

section Forbidden

variable {judge : Judge} {graph : Graph} {marked : graph.Position → List Dependency}
  {rule : PreparedRule}

theorem nodup_sources_foundRoutes (graph : Graph) (rule : PreparedRule) (i : graph.Position) :
    ((graph.routesEntry rule.heading (graph.foundRoutes rule i)).routes.map
      Route.source).Nodup := by
  have hlists := graph.listsRoutes_foundRoutes rule i
  have hmap : (graph.routesEntry rule.heading (graph.foundRoutes rule i)).routes.map Route.source =
      ((graph.foundRoutes rule i).map Prod.fst).map graph.sourceAt := by
    simp [Graph.routesEntry, Function.comp_def]
  rw [hmap]
  refine hlists.nodup.map_on fun s hs t ht heq => ?_
  have hs' := ((hlists.mem_iff s).1 hs).2.2.2.isLast
  have ht' := ((hlists.mem_iff t).1 ht).2.2.2.isLast
  exact hs'.unique (heq ▸ ht')

/-- The routes of a module to what a rule aims at are those that the rule found. -/
theorem routesOf_markedModule
    (hheadings : judge.rules.HasDistinctHeadings)
    (hmem : rule ∈ judge.rules.aboutReachability) (i : graph.Position) :
    routesOf rule (judge.markedModule graph marked i) =
      (graph.routesEntry rule.heading (graph.foundRoutes rule i)).routes := by
  have hunder : ((judge.markedModule graph marked i).routesUnder rule.heading).flatMap
      Routes.routes = (graph.routesEntry rule.heading (graph.foundRoutes rule i)).routes := by
    rw [routesUnder_markedModule hheadings hmem]
    split
    · rename_i hempty
      rw [List.isEmpty_iff] at hempty
      simp [Graph.routesEntry, hempty]
    · simp
  have haims : ∀ route ∈ (graph.routesEntry rule.heading (graph.foundRoutes rule i)).routes,
      rule.aimsAt route.source = true := by
    intro route hroute
    obtain ⟨⟨t, path⟩, hfound, rfl⟩ := List.mem_map.1 hroute
    exact (Graph.mem_map_fst_foundRoutes.1 (List.mem_map_of_mem hfound)).2.2.1
  rw [routesOf, hunder, List.filter_eq_self.2 haims]
  exact distinctRoutes_eq_self (nodup_sources_foundRoutes graph rule i) (by simp)

open Classical in
theorem map_routeViolation_perm (graph : Graph) (rule : PreparedRule) (i : graph.Position)
    (hreach : rule.wantedReach = some true) (happlies : rule.appliesTo (graph.moduleAt i) = true) :
    ((graph.foundRoutes rule i).map fun entry =>
        graph.routeViolation rule.broken i entry.1 entry.2).Perm
      (routeViolations graph graph.routeTo rule i) := by
  have hlists := graph.listsRoutes_foundRoutes rule i
  have hexpected : routeViolations graph graph.routeTo rule i =
      ((List.finRange _).filter fun t => t ∈ (graph.foundRoutes rule i).map Prod.fst).map
        fun t => graph.routeViolation rule.broken i t (graph.routeTo i t) := by
    rw [List.map_eq_flatMap, flatMap_filter]
    refine List.flatMap_congr fun t _ => ?_
    simp only [hlists.mem_iff, hreach, happlies, true_and, decide_eq_true_eq]
  have htargets : ((graph.foundRoutes rule i).map Prod.fst).Perm
      ((List.finRange _).filter fun t => t ∈ (graph.foundRoutes rule i).map Prod.fst) := by
    rw [List.perm_ext_iff_of_nodup hlists.nodup ((List.nodup_finRange _).filter _)]
    intro t
    simp
  have hfound : ((graph.foundRoutes rule i).map fun entry =>
      graph.routeViolation rule.broken i entry.1 entry.2) =
        ((graph.foundRoutes rule i).map Prod.fst).map fun t =>
          graph.routeViolation rule.broken i t (graph.routeTo i t) := by
    conv_lhs => rw [graph.foundRoutes_eq_map rule i, List.map_map]
    rfl
  rw [hfound, hexpected]
  exact htargets.map _

/-- A rule finds no route where it does not forbid any or does not apply. -/
theorem routeViolations_eq_nil {i : graph.Position}
    (h : ¬ (rule.wantedReach = some true ∧ rule.appliesTo (graph.moduleAt i) = true))
    (route : graph.Position → graph.Position → List graph.Position) :
    routeViolations graph route rule i = [] := by
  rw [routeViolations, List.flatMap_eq_nil_iff]
  exact fun t _ => if_neg fun hroute => h ⟨hroute.1, hroute.2.1⟩

theorem findsArrival_markedModule
    (hheadings : judge.rules.HasDistinctHeadings)
    (hmem : rule ∈ judge.rules.aboutReachability) (i : graph.Position) (isReached : Bool) :
    rule.rule.findsArrival (judge.markedModule graph marked i) isReached = true ↔
      rule.aimsAt (graph.sourceAt i) = true ∧
        (isReached = true ↔ graph.IsReached rule i) := by
  have habout : rule.rule.target.reachable.isSome = true :=
    (PreparedRuleSet.mem_aboutReachability.1 hmem).2
  have hunder : (judge.markedModule graph marked i).arrivalsUnder rule.rule.heading = _ :=
    arrivalsUnder_markedModule hheadings hmem i
  rw [Rule.findsArrival, habout, Bool.true_and, hunder]
  by_cases haims : rule.aimsAt (graph.sourceAt i) = true
  · rw [if_pos haims, List.any_cons, List.any_nil, Bool.or_false, beq_iff_eq,
      ← (Graph.isArrival_arrivalAt haims).isReached_iff, and_iff_right haims, Bool.eq_iff_iff]
    exact iff_comm
  · simp [haims]

theorem forbiddenAtModule_of_orphan (horphan : rule.rule.wantedOrphan.isSome = true)
    (i : graph.Position) :
    (judge.forbiddenAtModule rule (judge.markedModule graph marked i)).map Finding.violation =
      judge.orphanViolation graph rule i := by
  have hobjects : (rule.appliesTo (judge.markedModule graph marked i) &&
      rule.rule.objectsTo judge.standalone (judge.markedModule graph marked i)) = true ↔
        rule.rule.wantedOrphan = some true ∧ rule.appliesTo (graph.moduleAt i) = true ∧
          (graph.moduleAt i).orphan = true ∧
          judge.standalone.includes (graph.sourceAt i) = false := by
    simp only [Rule.objectsTo, Bool.and_eq_true, decide_eq_true_eq, Bool.not_eq_true']
    exact ⟨fun h => ⟨h.2.1.1, h.1, h.2.1.2, h.2.2⟩, fun h => ⟨h.2.1, ⟨h.1, h.2.2.1⟩, h.2.2.2⟩⟩
  rw [forbiddenAtModule, if_pos horphan, orphanViolation, apply_ite (List.map Finding.violation)]
  exact if_congr hobjects rfl rfl

theorem orphanViolation_eq_nil (horphan : rule.rule.wantedOrphan = none) (i : graph.Position) :
    judge.orphanViolation graph rule i = [] := by
  rw [orphanViolation, horphan]
  exact if_neg fun h => by cases h.1

/-- The guard of a rule about routes only skips modules without routes. -/
theorem forbiddenAtModule_eq_map_routesOf (horphan : rule.rule.wantedOrphan = none)
    (hreach : rule.wantedReach = some true) {m : Module} (happlies : rule.appliesTo m = true) :
    judge.forbiddenAtModule rule m = (routesOf rule m).map (.ofRoute rule.broken m) := by
  rw [forbiddenAtModule, horphan, hreach]
  change (if rule.appliesTo m && rule.rule.findsRoutes m then _ else _) = _
  rw [happlies, Bool.true_and]
  split
  · rfl
  · rename_i hfinds
    have hunder : m.routesUnder rule.heading = [] := by
      have habout : rule.rule.target.reachable.isSome = true := congrArg Option.isSome hreach
      rw [Rule.findsRoutes, habout, Bool.true_and, Bool.not_eq_true', Bool.not_eq_false,
        List.isEmpty_iff] at hfinds
      exact hfinds
    rw [routesOf, hunder]
    rfl

theorem forbiddenAtModule_of_route (horphan : rule.rule.wantedOrphan = none)
    (hreach : rule.wantedReach = some true)
    (hheadings : judge.rules.HasDistinctHeadings)
    (hmem : rule ∈ judge.rules.aboutReachability) (i : graph.Position) :
    ((judge.forbiddenAtModule rule (judge.markedModule graph marked i)).map
      Finding.violation).Perm (routeViolations graph graph.routeTo rule i) := by
  by_cases happlies : rule.appliesTo (graph.moduleAt i) = true
  · have happlies' : rule.appliesTo (judge.markedModule graph marked i) = true := happlies
    rw [forbiddenAtModule_eq_map_routesOf horphan hreach happlies',
      routesOf_markedModule hheadings hmem, Graph.routesEntry, List.map_map, List.map_map]
    exact map_routeViolation_perm graph rule i hreach happlies
  · rw [routeViolations_eq_nil fun h => happlies h.2, forbiddenAtModule, horphan, hreach]
    change
      ((if rule.appliesTo (graph.moduleAt i) && _ then _ else []).map Finding.violation).Perm []
    rw [if_neg fun h => happlies (Bool.and_eq_true_iff.1 h).1]
    exact .nil

theorem forbiddenAtModule_of_unreached (horphan : rule.rule.wantedOrphan = none)
    (hreach : rule.wantedReach = some false)
    (hheadings : judge.rules.HasDistinctHeadings)
    (hmem : rule ∈ judge.rules.aboutReachability) (i : graph.Position) :
    (judge.forbiddenAtModule rule (judge.markedModule graph marked i)).map Finding.violation =
      unreachedViolation graph rule i := by
  classical
  have hfinds : rule.rule.findsArrival (judge.markedModule graph marked i) false = true ↔
      rule.wantedReach = some false ∧ rule.aimsAt (graph.sourceAt i) = true ∧
        ¬ graph.IsReached rule i := by
    rw [findsArrival_markedModule hheadings hmem]
    simp [hreach]
  rw [forbiddenAtModule, horphan, hreach, unreachedViolation]
  change (if rule.rule.findsArrival _ false then _ else _ : List Finding).map _ = _
  rw [apply_ite (List.map Finding.violation)]
  exact if_congr hfinds rfl rfl

/-- What a forbidden rule finds at a module is what is expected of it. -/
theorem forbiddenAtModule_perm
    (hheadings : judge.rules.HasDistinctHeadings)
    (hmem : rule ∈ judge.rules.forbidden) (hfault : rule.rule.fault? = none)
    (i : graph.Position) :
    ((judge.forbiddenAtModule rule (judge.markedModule graph marked i)).map
      Finding.violation).Perm (judge.orphanViolation graph rule i ++
        (routeViolations graph graph.routeTo rule i ++ unreachedViolation graph rule i)) := by
  have hunreached (h : rule.wantedReach ≠ some false) : unreachedViolation graph rule i = [] :=
    if_neg fun h' => h h'.1
  cases hreach : rule.wantedReach with
  | none =>
      rw [routeViolations_eq_nil (by simp [hreach]), hunreached (by simp [hreach]),
        List.append_nil, List.append_nil]
      cases horphan : rule.rule.wantedOrphan with
      | none =>
          rw [orphanViolation_eq_nil horphan, forbiddenAtModule, horphan, hreach]
          exact .nil
      | some wanted =>
          rw [forbiddenAtModule_of_orphan (by simp [horphan])]
  | some wanted =>
      have habout : rule.isAboutReachability = true := congrArg Option.isSome hreach
      have hmem' : rule ∈ judge.rules.aboutReachability :=
        PreparedRuleSet.mem_aboutReachability.2 ⟨.inl hmem, habout⟩
      have horphan := Rule.wantedOrphan_eq_none hfault habout
      rw [orphanViolation_eq_nil horphan, List.nil_append]
      cases wanted with
      | true =>
          rw [hunreached (by simp [hreach]), List.append_nil]
          exact forbiddenAtModule_of_route horphan hreach hheadings hmem' i
      | false =>
          rw [routeViolations_eq_nil (by simp [hreach]), List.nil_append,
            forbiddenAtModule_of_unreached horphan hreach hheadings hmem']

theorem forbiddenAtModule_eq_nil (h : rule.isAboutModules = false) (m : Module) :
    judge.forbiddenAtModule rule m = [] := by
  obtain ⟨horphan, hreach⟩ : rule.rule.wantedOrphan.isSome = false ∧
      rule.wantedReach.isSome = false := Bool.or_eq_false_iff.1 h
  rw [Option.isSome_eq_false_iff, Option.isNone_iff_eq_none] at horphan hreach
  rw [forbiddenAtModule, horphan, hreach]
  rfl

end Forbidden

/-! ## Findings at a module -/

section Findings

variable {judge : Judge} {graph : Graph} {marked : graph.Position → List Dependency}

theorem mem_filter_arrivalsUnder
    (hheadings : judge.rules.HasDistinctHeadings)
    (marked : graph.Position → List Dependency) (i : graph.Position) (rule : PreparedRule) :
    rule ∈ judge.rules.allowed.filter (fun rule => rule.isAboutReachability &&
        !((judge.markedModule graph marked i).arrivalsUnder rule.heading).isEmpty) ↔
      rule ∈ judge.rules.allowed ∧ rule.isAboutReachability = true ∧
        rule.aimsAt (graph.sourceAt i) = true := by
  rw [List.mem_filter, Bool.and_eq_true]
  refine and_congr_right fun hallowed => and_congr_right fun habout => ?_
  have hmem : rule ∈ judge.rules.aboutReachability :=
    PreparedRuleSet.mem_aboutReachability.2 ⟨.inr hallowed, habout⟩
  rw [arrivalsUnder_markedModule hheadings hmem]
  cases rule.aimsAt (graph.sourceAt i) <;> simp

theorem isOutOfReach_iff
    (hheadings : judge.rules.HasDistinctHeadings)
    (marked : graph.Position → List Dependency) (i : graph.Position) {relevant : List PreparedRule}
    (hrelevant : ∀ rule, rule ∈ relevant ↔ rule ∈ judge.rules.allowed ∧
      rule.isAboutReachability = true ∧ rule.aimsAt (graph.sourceAt i) = true) :
    ¬ (relevant.isEmpty || relevant.any fun rule => rule.wantedReach.any fun wanted =>
      rule.rule.findsArrival (judge.markedModule graph marked i) wanted) = true ↔
        judge.IsOutOfReach graph i := by
  rw [not_isEmpty_or_any, IsOutOfReach]
  refine and_congr (exists_congr hrelevant) (forall_congr' fun rule => ?_)
  constructor
  · intro h hallowed haims wanted hwanted hreached
    have habout : rule.isAboutReachability = true := congrArg Option.isSome hwanted
    have hmem : rule ∈ judge.rules.aboutReachability :=
      PreparedRuleSet.mem_aboutReachability.2 ⟨.inr hallowed, habout⟩
    have hfinds : rule.rule.findsArrival (judge.markedModule graph marked i) wanted = true :=
      (findsArrival_markedModule hheadings hmem i wanted).2 ⟨haims, hreached⟩
    have hnone := h ((hrelevant rule).2 ⟨hallowed, habout, haims⟩)
    rw [hwanted, Option.any_some, hfinds] at hnone
    cases hnone
  · intro h hmem
    obtain ⟨hallowed, habout, haims⟩ := (hrelevant rule).1 hmem
    have hmem' : rule ∈ judge.rules.aboutReachability :=
      PreparedRuleSet.mem_aboutReachability.2 ⟨.inr hallowed, habout⟩
    obtain ⟨wanted, hwanted⟩ := Option.isSome_iff_exists.1 habout
    have hnot := h hallowed haims wanted hwanted
    rw [hwanted, Option.any_some, ← Bool.not_eq_true, findsArrival_markedModule hheadings hmem']
    exact fun hfinds => hnot hfinds.2

theorem notAllowedAtModule_eq
    (hheadings : judge.rules.HasDistinctHeadings)
    (i : graph.Position) :
    (judge.notAllowedAtModule (judge.markedModule graph marked i)).map Finding.violation =
      judge.outOfReachViolation graph i := by
  classical
  have hout := isOutOfReach_iff hheadings marked i (mem_filter_arrivalsUnder hheadings marked i)
  rw [notAllowedAtModule, apply_ite (List.map Finding.violation), ← ite_not]
  exact if_congr hout rfl rfl

/-- What the allowed rules find at a dependency is what is expected of them. -/
theorem notAllowedAtDependency_eq (i : graph.Position) (dependency : Dependency) :
    (judge.notAllowedAtDependency (judge.markedModule graph marked i) dependency).map
      Finding.violation = judge.outOfBoundsViolation graph i dependency := by
  classical
  rw [notAllowedAtDependency, apply_ite (List.map Finding.violation), ← ite_not]
  refine if_congr ?_ rfl rfl
  rw [not_isEmpty_or_any, IsOutOfBounds]
  simp only [List.mem_filter, Bool.and_eq_true, Bool.not_eq_true', and_imp]
  rfl

theorem atDependency_eq (i : graph.Position) (dependency : Dependency) :
    (judge.atDependency (judge.markedModule graph marked i) dependency).map Finding.violation =
      (judge.rules.forbidden.flatMap fun rule => forbiddenViolation graph rule i dependency) ++
        judge.outOfBoundsViolation graph i dependency := by
  rw [atDependency, List.map_append, notAllowedAtDependency_eq, List.map_map, List.map_eq_flatMap,
    flatMap_filter]
  refine congrArg (· ++ _) (List.flatMap_congr fun rule _ => if_congr ?_ rfl rfl)
  rw [PreparedRule.covers, Bool.and_eq_true, Bool.and_eq_true, Bool.not_eq_true']
  rfl

theorem forbidden_perm (hheadings : judge.rules.HasDistinctHeadings)
    (hfault : ∀ rule ∈ judge.rules.forbidden, rule.rule.fault? = none) (i : graph.Position) :
    (((judge.rules.forbidden.filter PreparedRule.isAboutModules).flatMap fun rule =>
        judge.forbiddenAtModule rule (judge.markedModule graph marked i)).map
      Finding.violation).Perm
      ((judge.rules.forbidden.flatMap fun rule => judge.orphanViolation graph rule i) ++
        ((judge.rules.forbidden.flatMap fun rule =>
            routeViolations graph graph.routeTo rule i) ++
          judge.rules.forbidden.flatMap fun rule => unreachedViolation graph rule i)) := by
  -- The other rules find nothing at a module, so the filter can be dropped.
  have hall : ((judge.rules.forbidden.filter PreparedRule.isAboutModules).flatMap fun rule =>
      judge.forbiddenAtModule rule (judge.markedModule graph marked i)) =
        judge.rules.forbidden.flatMap fun rule =>
          judge.forbiddenAtModule rule (judge.markedModule graph marked i) := by
    rw [flatMap_filter]
    refine List.flatMap_congr fun rule _ => ?_
    split
    · rfl
    · rename_i habout
      rw [forbiddenAtModule_eq_nil (by simpa using habout)]
  rw [hall, List.map_flatMap]
  refine (List.Perm.flatMap_left _ fun rule hmem =>
    forbiddenAtModule_perm hheadings hmem (hfault rule hmem) i).trans ?_
  refine (List.flatMap_append_perm ..).symm.trans ?_
  exact (List.flatMap_append_perm ..).symm.append_left _

/-- What the rules find at a module and its dependencies is what is expected. -/
theorem violations_perm (hheadings : judge.rules.HasDistinctHeadings)
    (hfault : ∀ rule ∈ judge.rules.forbidden, rule.rule.fault? = none) (i : graph.Position) :
    (judge.findings (judge.markedModule graph marked i)).violations.Perm
      (judge.expectedViolations graph marked graph.routeTo i) := by
  have hdependencies : ((((marked i).map
      (judge.atDependency (judge.markedModule graph marked i))).flatten).map
        Finding.violation).Perm
      (((marked i).flatMap fun dependency =>
          judge.rules.forbidden.flatMap fun rule => forbiddenViolation graph rule i dependency) ++
        (marked i).flatMap fun dependency => judge.outOfBoundsViolation graph i dependency) := by
    rw [← List.flatMap_def, List.map_flatMap]
    simp only [atDependency_eq]
    exact (List.flatMap_append_perm ..).symm
  have hmodule : ((judge.atModule (judge.markedModule graph marked i)).map
      Finding.violation).Perm
      ((judge.rules.forbidden.flatMap fun rule => judge.orphanViolation graph rule i) ++
        ((judge.rules.forbidden.flatMap fun rule =>
            routeViolations graph graph.routeTo rule i) ++
          judge.rules.forbidden.flatMap fun rule => unreachedViolation graph rule i) ++
        judge.outOfReachViolation graph i) := by
    rw [atModule, List.map_append, notAllowedAtModule_eq hheadings]
    exact (forbidden_perm hheadings hfault i).append_right _
  have hboth := hmodule.append hdependencies
  unfold expectedViolations Findings.violations findings
  rw [List.map_append]
  simp only [List.append_assoc] at hboth ⊢
  exact hboth

end Findings

/-! ## The summary -/

/-- The violations reported about a graph are right: they are the expected ones, in order, for
right marks on the dependencies and for shortest routes. -/
def Reports (judge : Judge) (graph : Graph) (violations : List Violation) : Prop :=
  ∃ (marked : graph.Position → List Dependency)
      (route : graph.Position → graph.Position → List graph.Position),
    (∀ i, List.Forall₂ (graph.IsCycleMark i) (graph.moduleAt i).dependencies (marked i)) ∧
    (∀ i t, t ≠ i → graph.HasRoute i t → graph.IsShortestRoute i t (route i t)) ∧
    ∀ other, other = violations ↔
      other.Pairwise (fun a b => (compare a b).isLE = true) ∧
        other.Perm ((List.finRange _).flatMap (judge.expectedViolations graph marked route))

/-- For an accepted rule set in which rules about reachability have distinct headings, and for a
sound graph, a judge reports the expected violations. -/
theorem assess_violations_exact {ruleSet : RuleSet} {judge : Judge} {graph : Graph}
    (hrules : ruleSet.prepare = .ok judge.rules)
    (hheadings : judge.rules.HasDistinctHeadings)
    (hsound : graph.ensureSound = .ok ()) :
    ∃ assessed summary, judge.assess graph = .ok (assessed, summary) ∧
      judge.Reports graph summary.violations := by
  obtain ⟨marked, hmarked, hmark⟩ := judge.exists_mark_eq graph
  have hassess : judge.assess graph =
      .ok (judge.verdicts (judge.mark graph) graph.summary.extra) := by
    rw [assess, hsound]
    rfl
  have hfault : ∀ rule ∈ judge.rules.forbidden, rule.rule.fault? = none :=
    fun rule hmem => RuleSet.fault?_forbidden_eq_none hrules hmem
  refine ⟨_, _, hassess, marked, graph.routeTo, hmarked,
    fun i t hne hroute => Graph.isShortestRoute_routeTo hne hroute, fun other => ?_⟩
  have hperm : ((((judge.mark graph).modules.map judge.findings).flatMap
      Findings.violations)).Perm
      ((List.finRange _).flatMap (judge.expectedViolations graph marked graph.routeTo)) := by
    rw [hmark, List.ofFn_eq_map, List.map_map, List.flatMap_map]
    exact List.Perm.flatMap_left _ fun i _ => violations_perm hheadings hfault i
  refine Tally.eq_sorted_iff.trans (and_congr_right fun _ => ?_)
  exact ⟨fun h => h.trans hperm, fun h => h.trans hperm.symm⟩

/-- Rules of all kinds about a program in three layers. -/
def layeredRules : RuleSet :=
  { forbidden := [
      { name := some "no-orphans", source := { orphan := some true } },
      { name := some "no-cycles", target := { circular := some true } },
      { name := some "no-deep-reach", source := { path := some "^ui/" },
        target := { path := some "^db/", reachable := some true } },
      { name := some "no-dead-code", source := { path := some "^ui/main" },
        target := { pathNot := some "[.]md$", reachable := some false } }]
    allowed := [
      { source := { path := some "^ui/" }, target := { path := some "^core/" } },
      { name := some "served", source := { path := some "^ui/" },
        target := { path := some "^core/", reachable := some true } }] }

/-- A program in three layers, with a cycle between two of them and a file that stands alone. -/
def layeredGraph : Graph :=
  { modules := [
      { source := "ui/main", dependencies := [.localFile "core/a", .localFile "db/b"] },
      { source := "core/a", dependencies := [.localFile "db/b"] },
      { source := "db/b", dependencies := [.localFile "core/a"] },
      { source := "core/old", orphan := true }] }

def layeredJudge : Judge := { rules := layeredRules.prepare.toOption.getD {} }

theorem assess_violations_exact_layered :
    layeredRules.prepare = .ok layeredJudge.rules ∧
      layeredJudge.rules.HasDistinctHeadings ∧
      layeredGraph.ensureSound = .ok () ∧
      ∃ assessed summary, layeredJudge.assess layeredGraph = .ok (assessed, summary) ∧
        layeredJudge.Reports layeredGraph summary.violations := by
  have hrules : layeredRules.prepare = .ok layeredJudge.rules := rfl
  have hheadings : layeredJudge.rules.HasDistinctHeadings := by
    decide
  have hsound : layeredGraph.ensureSound = .ok () := rfl
  exact ⟨hrules, hheadings, hsound, assess_violations_exact hrules hheadings hsound⟩

end Judge

end DependencyRules
