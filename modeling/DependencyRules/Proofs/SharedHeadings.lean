import DependencyRules.Proofs.Verdicts

/-!
# Rules that share a heading

Several rules about reachability may book what they find under one heading. A walk from a module
does not depend on the rule that asks for it, so all of them book the same route to the same target.
A rule that forbids to reach something therefore picks its own targets from what is booked, and
neither misses one nor reports a way of its own for it.
-/

namespace DependencyRules

/-! ## One route for each source -/

theorem not_mem_seen_of_mem_distinctRoutes {seen : List String} {routes : List Route}
    {route : Route} (h : route ∈ distinctRoutes seen routes) : route.source ∉ seen := by
  induction routes generalizing seen with
  | nil => simp [distinctRoutes] at h
  | cons first rest ih =>
      unfold distinctRoutes at h
      split at h
      · exact ih h
      · rename_i hnew
        rcases List.mem_cons.1 h with rfl | hrest
        · simpa using hnew
        · exact fun hmem => ih hrest (List.mem_cons_of_mem _ hmem)

theorem nodup_distinctRoutes (seen : List String) (routes : List Route) :
    (distinctRoutes seen routes).Nodup := by
  induction routes generalizing seen with
  | nil => exact List.nodup_nil
  | cons first rest ih =>
      unfold distinctRoutes
      split
      · exact ih seen
      · refine List.nodup_cons.2 ⟨fun hmem => ?_, ih _⟩
        exact not_mem_seen_of_mem_distinctRoutes hmem (List.mem_cons_self ..)

/-- Where the source determines the route, nothing is lost by taking the first one only. -/
theorem mem_distinctRoutes_iff {seen : List String} {routes : List Route} {route : Route}
    (hsame : ∀ a ∈ routes, ∀ b ∈ routes, a.source = b.source → a = b) :
    route ∈ distinctRoutes seen routes ↔ route ∈ routes ∧ route.source ∉ seen := by
  induction routes generalizing seen with
  | nil => simp [distinctRoutes]
  | cons first rest ih =>
      have hrest : ∀ a ∈ rest, ∀ b ∈ rest, a.source = b.source → a = b :=
        fun a ha b hb => hsame a (List.mem_cons_of_mem _ ha) b (List.mem_cons_of_mem _ hb)
      by_cases hseen : first.source ∈ seen
      · rw [distinctRoutes, if_pos (by simpa using hseen), ih hrest, List.mem_cons]
        constructor
        · exact fun h => ⟨.inr h.1, h.2⟩
        · rintro ⟨rfl | hmem, hnew⟩
          · exact absurd hseen hnew
          · exact ⟨hmem, hnew⟩
      · rw [distinctRoutes, if_neg (by simpa using hseen), List.mem_cons, ih hrest, List.mem_cons,
          List.mem_cons, not_or]
        constructor
        · rintro (rfl | ⟨hmem, _, hnew⟩)
          · exact ⟨.inl rfl, hseen⟩
          · exact ⟨.inr hmem, hnew⟩
        · rintro ⟨rfl | hmem, hnew⟩
          · exact .inl rfl
          · by_cases hfirst : route.source = first.source
            · exact .inl (hsame route (List.mem_cons_of_mem _ hmem) first (List.mem_cons_self ..)
                hfirst)
            · exact .inr ⟨hmem, hfirst, hnew⟩

/-! ## What is booked under a heading -/

namespace Graph

def bookedRoute (graph : Graph) (i t : graph.Position) : Route :=
  { source := graph.sourceAt t, via := (graph.routeTo i t).map graph.sourceAt }

theorem routesEntry_foundRoutes (graph : Graph) (heading : String) (rule : PreparedRule)
    (i : graph.Position) :
    (graph.routesEntry heading (graph.foundRoutes rule i)).routes =
      ((graph.foundRoutes rule i).map Prod.fst).map (graph.bookedRoute i) := by
  conv_lhs => rw [graph.foundRoutes_eq_map rule i, routesEntry, List.map_map]
  rfl

end Graph

namespace Judge

section Shared

variable {judge : Judge} {graph : Graph} {marked : graph.Position → List Dependency}
  {rule : PreparedRule} {i : graph.Position}

theorem mem_routesUnder_markedModule {heading : String} {route : Route} :
    route ∈ ((judge.markedModule graph marked i).routesUnder heading).flatMap Routes.routes ↔
      ∃ other ∈ judge.rules.aboutReachability, other.heading = heading ∧
        ∃ t ∈ (graph.foundRoutes other i).map Prod.fst, graph.bookedRoute i t = route := by
  unfold Module.routesUnder markedModule Graph.reachesTable
  rw [getD_nonEmpty?, filter_aboutReachability]
  simp only [List.mem_flatMap, List.mem_filter, List.mem_map (f := fun rule =>
    graph.routesEntry rule.heading (graph.foundRoutes rule i)), decide_eq_true_eq]
  constructor
  · rintro ⟨_, ⟨⟨other, ⟨hother, _⟩, rfl⟩, hheading⟩, hroute⟩
    rw [graph.routesEntry_foundRoutes, List.mem_map] at hroute
    exact ⟨other, hother, hheading, hroute⟩
  · rintro ⟨other, hother, hheading, hroute⟩
    rw [← List.mem_map, ← graph.routesEntry_foundRoutes other.heading] at hroute
    have hfound : (!(graph.foundRoutes other i).isEmpty) = true := by
      rw [Bool.not_eq_true', List.isEmpty_eq_false_iff]
      intro hnil
      rw [hnil] at hroute
      cases hroute
    exact ⟨_, ⟨⟨other, ⟨hother, hfound⟩, rfl⟩, hheading⟩, hroute⟩

/-- Two routes from a module to one source are the same route, whichever rules booked them. -/
theorem eq_of_mem_routesUnder {heading : String} {a b : Route}
    (ha : a ∈ ((judge.markedModule graph marked i).routesUnder heading).flatMap Routes.routes)
    (hb : b ∈ ((judge.markedModule graph marked i).routesUnder heading).flatMap Routes.routes)
    (hsource : a.source = b.source) : a = b := by
  obtain ⟨_, _, _, s, hs, rfl⟩ := mem_routesUnder_markedModule.1 ha
  obtain ⟨_, _, _, t, ht, rfl⟩ := mem_routesUnder_markedModule.1 hb
  have hs' := (Graph.mem_map_fst_foundRoutes.1 hs).2.2.2.isLast
  have ht' := (Graph.mem_map_fst_foundRoutes.1 ht).2.2.2.isLast
  have hsame : graph.sourceAt s = graph.sourceAt t := hsource
  rw [hs'.unique (hsame ▸ ht')]

/-- The routes to what a rule aims at are its own, whatever else is booked under its heading. -/
theorem routesOf_markedModule_perm (hmem : rule ∈ judge.rules.aboutReachability)
    (happlies : rule.appliesTo (graph.moduleAt i) = true) :
    (routesOf rule (judge.markedModule graph marked i)).Perm
      (((graph.foundRoutes rule i).map Prod.fst).map (graph.bookedRoute i)) := by
  have hown : (((graph.foundRoutes rule i).map Prod.fst).map (graph.bookedRoute i)).Nodup := by
    rw [← graph.routesEntry_foundRoutes rule.heading]
    exact (nodup_sources_foundRoutes graph rule i).of_map
  rw [routesOf, List.perm_ext_iff_of_nodup (nodup_distinctRoutes _ _) hown]
  intro route
  have hsame : ∀ a ∈ (((judge.markedModule graph marked i).routesUnder rule.heading).flatMap
        Routes.routes).filter (fun route => rule.aimsAt route.source),
      ∀ b ∈ (((judge.markedModule graph marked i).routesUnder rule.heading).flatMap
        Routes.routes).filter (fun route => rule.aimsAt route.source),
      a.source = b.source → a = b :=
    fun a ha b hb => eq_of_mem_routesUnder (List.mem_of_mem_filter ha) (List.mem_of_mem_filter hb)
  rw [mem_distinctRoutes_iff hsame, List.mem_filter, mem_routesUnder_markedModule, List.mem_map]
  constructor
  · rintro ⟨⟨⟨other, _, _, t, ht, rfl⟩, haims⟩, _⟩
    obtain ⟨_, hne, _, hroute⟩ := Graph.mem_map_fst_foundRoutes.1 ht
    exact ⟨t, Graph.mem_map_fst_foundRoutes.2 ⟨happlies, hne, haims, hroute⟩, rfl⟩
  · rintro ⟨t, ht, rfl⟩
    have haims : rule.aimsAt (graph.sourceAt t) = true := (Graph.mem_map_fst_foundRoutes.1 ht).2.2.1
    exact ⟨⟨⟨rule, hmem, rfl, t, ht, rfl⟩, haims⟩, by simp⟩

/-! ## A rule by itself -/

def withOnly (judge : Judge) (rule : PreparedRule) : Judge :=
  { judge with rules := { forbidden := [rule], allowedSeverity := judge.rules.allowedSeverity } }

theorem flatMap_routes_withOnly (habout : rule.isAboutReachability = true) :
    (((judge.withOnly rule).markedModule graph marked i).reaches.getD []).flatMap Routes.routes =
      ((graph.foundRoutes rule i).map Prod.fst).map (graph.bookedRoute i) := by
  unfold markedModule Graph.reachesTable withOnly
  rw [getD_nonEmpty?, List.append_nil, List.filter_singleton, habout, Bool.true_and]
  cases hempty : (graph.foundRoutes rule i).isEmpty with
  | true =>
      rw [List.isEmpty_iff.1 hempty]
      rfl
  | false => simp [graph.routesEntry_foundRoutes]

theorem getElem?_mark (judge : Judge) (graph : Graph) (i : graph.Position) :
    (judge.mark graph).modules[i.val]? =
      some (judge.markedModule graph graph.markedDependencies i) := by
  simp [mark_eq]

theorem forbiddenAtModule_eq_nil_of_not_appliesTo (horphan : rule.rule.wantedOrphan = none)
    (hreach : rule.wantedReach = some true) {m : Module} (happlies : ¬ rule.appliesTo m = true) :
    judge.forbiddenAtModule rule m = [] := by
  rw [forbiddenAtModule, horphan, hreach]
  change (if rule.appliesTo m && rule.rule.findsRoutes m then _ else []) = []
  rw [if_neg fun h => happlies (Bool.and_eq_true_iff.1 h).1]

/-- What a forbidden rule about routes finds at a module, whatever other rules there are. -/
theorem forbiddenAtModule_perm_own (horphan : rule.rule.wantedOrphan = none)
    (hreach : rule.wantedReach = some true) (hmem : rule ∈ judge.rules.aboutReachability) :
    (judge.forbiddenAtModule rule (judge.markedModule graph marked i)).Perm
      (((graph.foundRoutes rule i).map Prod.fst).map fun t =>
        .ofRoute rule.broken (graph.moduleAt i) (graph.bookedRoute i t)) := by
  by_cases happlies : rule.appliesTo (graph.moduleAt i) = true
  · have happlies' : rule.appliesTo (judge.markedModule graph marked i) = true := happlies
    rw [forbiddenAtModule_eq_map_routesOf horphan hreach happlies']
    have hroutes : (routesOf rule (judge.markedModule graph marked i)).Perm
        (((graph.foundRoutes rule i).map Prod.fst).map (graph.bookedRoute i)) :=
      routesOf_markedModule_perm hmem happlies
    have hfindings := hroutes.map
      (Finding.ofRoute rule.broken (judge.markedModule graph marked i))
    rwa [List.map_map] at hfindings
  · have hnone : (graph.foundRoutes rule i).map Prod.fst = [] := by
      rw [List.eq_nil_iff_forall_not_mem]
      exact fun t ht => happlies (Graph.mem_map_fst_foundRoutes.1 ht).1
    have happlies' : ¬ rule.appliesTo (judge.markedModule graph marked i) = true := happlies
    rw [forbiddenAtModule_eq_nil_of_not_appliesTo horphan hreach happlies', hnone]
    exact .nil

end Shared

/-- What a rule that forbids to reach something finds at a module is its own: one violation for each
other module that it aims at and that some route leads to, if it applies to the module, and none
otherwise. Each tells the route that is booked for the module when the rule is the only one. -/
def FindsOwnRoutes (judge : Judge) (rule : PreparedRule) (graph : Graph) (i : graph.Position) :
    Prop :=
  ∃ (m alone : Module) (targets : List graph.Position) (via : graph.Position → List String),
    (judge.mark graph).modules[i.val]? = some m ∧
    ((judge.withOnly rule).mark graph).modules[i.val]? = some alone ∧
    targets.Nodup ∧
    (∀ t, t ∈ targets ↔ rule.appliesTo (graph.moduleAt i) = true ∧ t ≠ i ∧
      rule.aimsAt (graph.sourceAt t) = true ∧ graph.HasRoute i t) ∧
    (judge.forbiddenAtModule rule m).Perm (targets.map fun t =>
      { rule := rule.broken
        violation :=
          { rule := rule.broken, source := graph.sourceAt i, target := graph.sourceAt t,
            via := some (via t) } }) ∧
    (alone.reaches.getD []).flatMap Routes.routes =
      targets.map fun t => { source := graph.sourceAt t, via := via t }

/-- A rule of an accepted rule set that forbids to reach something is judged by its own ends, even
where other rules share its heading. -/
theorem forbiddenAtModule_by_own_ends {ruleSet : RuleSet} {judge : Judge} {rule : PreparedRule}
    (hrules : ruleSet.prepare = .ok judge.rules) (hmem : rule ∈ judge.rules.forbidden)
    (hreach : rule.wantedReach = some true) (graph : Graph) (i : graph.Position) :
    judge.FindsOwnRoutes rule graph i := by
  have habout : rule.isAboutReachability = true := congrArg Option.isSome hreach
  have hmem' : rule ∈ judge.rules.aboutReachability :=
    PreparedRuleSet.mem_aboutReachability.2 ⟨.inl hmem, habout⟩
  have horphan := Rule.wantedOrphan_eq_none (RuleSet.fault?_forbidden_eq_none hrules hmem) habout
  have hlists := graph.listsRoutes_foundRoutes rule i
  refine ⟨_, _, (graph.foundRoutes rule i).map Prod.fst,
    fun t => (graph.routeTo i t).map graph.sourceAt, judge.getElem?_mark graph i,
    (judge.withOnly rule).getElem?_mark graph i, hlists.nodup, hlists.mem_iff, ?_, ?_⟩
  · exact forbiddenAtModule_perm_own horphan hreach hmem'
  · exact flatMap_routes_withOnly habout

/-- Rules without names. Three of them share one heading: two forbid what the third wants. -/
def namelessRules : RuleSet :=
  { forbidden := [
      { source := { path := some "^ui/" },
        target := { path := some "^db/", reachable := some true } },
      { source := { path := some "^ui/" },
        target := { path := some "^core/", reachable := some true } }]
    allowed := [
      { source := { path := some "^ui/" },
        target := { path := some "/[ab]$", reachable := some true } },
      { source := { path := some "^core/" }, target := { path := some "^db/" } }] }

def namelessJudge : Judge := { rules := namelessRules.prepare.toOption.getD {} }

theorem forbidden_namelessJudge_ne_nil : namelessJudge.rules.forbidden ≠ [] :=
  List.cons_ne_nil _ _

def namelessRule : PreparedRule := namelessJudge.rules.forbidden.head forbidden_namelessJudge_ne_nil

theorem forbiddenAtModule_by_own_ends_nameless :
    namelessRules.prepare = .ok namelessJudge.rules ∧
      namelessRule ∈ namelessJudge.rules.forbidden ∧ namelessRule.wantedReach = some true ∧
      namelessJudge.FindsOwnRoutes namelessRule layeredGraph ⟨0, by decide⟩ := by
  have hrules : namelessRules.prepare = .ok namelessJudge.rules := rfl
  have hmem : namelessRule ∈ namelessJudge.rules.forbidden := List.head_mem _
  have hreach : namelessRule.wantedReach = some true := rfl
  exact ⟨hrules, hmem, hreach, forbiddenAtModule_by_own_ends hrules hmem hreach _ _⟩

end Judge

end DependencyRules
