import DependencyRules.Proofs.Routes

/-!
# Reachability is exact

For every rule about reachability, each module that the rule starts from is told all modules it has
a route to and that the rule aims at, each with a shortest route; each module that the rule aims at
is told whether there is a route to it, and from which module first.
-/

namespace DependencyRules

namespace Graph

/-! ## What a rule finds -/

/-- The routes found from a module are right for a rule: they are shortest routes to exactly those
other modules that the rule aims at and that some route leads to, shorter routes first. -/
structure ListsRoutes (graph : Graph) (rule : PreparedRule) (i : graph.Position)
    (found : List (graph.Position × List graph.Position)) : Prop where
  mem_iff : ∀ t, t ∈ found.map Prod.fst ↔
    rule.appliesTo (graph.moduleAt i) = true ∧ t ≠ i ∧ rule.aimsAt (graph.sourceAt t) = true ∧
      graph.HasRoute i t
  nodup : (found.map Prod.fst).Nodup
  shortest : ∀ t path, (t, path) ∈ found →
    graph.IsShortestRoute i t path ∧ path.Nodup ∧ i ∉ path
  sorted : found.Pairwise fun a b => a.2.length ≤ b.2.length

def targets (graph : Graph) (rule : PreparedRule) : Vector Bool graph.modules.length :=
  graph.moduleVector.map fun m => rule.aimsAt m.source

def ruleWays (graph : Graph) (rule : PreparedRule) (i : graph.Position) :
    List (Links.Way graph.modules.length) :=
  if rule.appliesTo (graph.moduleAt i) then RuleReach.targetWays graph.links (graph.targets rule) i
  else []

/-- The targets of a rule that a module has a route to, with the route to each. -/
def foundRoutes (graph : Graph) (rule : PreparedRule) (i : graph.Position) :
    List (graph.Position × List graph.Position) :=
  (graph.ruleWays rule i).filterMap fun way => way.head?.map fun t => (t, way.steps)

section Found

variable {graph : Graph} {rule : PreparedRule} {i t : graph.Position}
  {way : Links.Way graph.modules.length}

@[simp] theorem targets_get (graph : Graph) (rule : PreparedRule) (t : graph.Position) :
    (graph.targets rule).get t = rule.aimsAt (graph.sourceAt t) := by
  simp only [targets, sourceAt, Vector.get_map, moduleVector_get]

theorem mem_ruleWays : way ∈ graph.ruleWays rule i ↔
    rule.appliesTo (graph.moduleAt i) = true ∧ way ∈ graph.links.waysFrom i ∧
      ∃ t, way.head? = some t ∧ rule.aimsAt (graph.sourceAt t) = true := by
  unfold ruleWays
  split
  · rename_i happlies
    simp only [RuleReach.targetWays, List.mem_filter, Option.any_eq_true, targets_get,
      happlies, true_and]
  · rename_i happlies
    exact ⟨fun h => absurd h List.not_mem_nil, fun h => absurd h.1 happlies⟩

theorem mem_foundRoutes {path : List graph.Position} : (t, path) ∈ graph.foundRoutes rule i ↔
    ∃ way ∈ graph.ruleWays rule i, way.head? = some t ∧ way.steps = path := by
  simp [foundRoutes]

theorem foundRoutes_eq_map (graph : Graph) (rule : PreparedRule) (i : graph.Position) :
    graph.foundRoutes rule i =
      ((graph.foundRoutes rule i).map Prod.fst).map fun t => (t, graph.routeTo i t) := by
  rw [List.map_map]
  conv_lhs => rw [← List.map_id (graph.foundRoutes rule i)]
  refine List.map_congr_left fun entry hentry => ?_
  obtain ⟨way, hmem, hhead, hsteps⟩ := mem_foundRoutes.1 hentry
  obtain ⟨_, hway, _⟩ := mem_ruleWays.1 hmem
  exact Prod.ext rfl (hsteps.symm.trans (routeTo_eq_steps hway hhead).symm)

/-- Each way that a rule has a module walk is a shortest one to a target other than the module. -/
theorem ruleWays_shortest (hmem : way ∈ graph.ruleWays rule i) (hhead : way.head? = some t) :
    t ≠ i ∧ rule.aimsAt (graph.sourceAt t) = true ∧
      graph.links.IsShortest (Links.isTaken i) i t way := by
  obtain ⟨_, hway, t', hhead', haims⟩ := mem_ruleWays.1 hmem
  obtain ⟨x, hne, hshortest⟩ := Links.explore_shortest hway
  obtain rfl : x = t := by simpa [hshortest.1.head?_eq] using hhead
  obtain rfl : x = t' := by simpa [hshortest.1.head?_eq] using hhead'
  exact ⟨hne, haims, hshortest⟩

theorem mem_map_fst_foundRoutes : t ∈ (graph.foundRoutes rule i).map Prod.fst ↔
    rule.appliesTo (graph.moduleAt i) = true ∧ t ≠ i ∧ rule.aimsAt (graph.sourceAt t) = true ∧
      graph.HasRoute i t := by
  simp only [List.mem_map, Prod.exists, exists_and_right, exists_eq_right, mem_foundRoutes]
  constructor
  · rintro ⟨path, way, hmem, hhead, _⟩
    obtain ⟨hne, haims, hshortest⟩ := ruleWays_shortest hmem hhead
    exact ⟨(mem_ruleWays.1 hmem).1, hne, haims, _, (isRoute_steps hshortest hne).2⟩
  · rintro ⟨happlies, hne, haims, hroute⟩
    obtain ⟨way, hway, hhead⟩ :=
      Links.exists_mem_explore_iff.2 ⟨hne, (hasRoute_iff_isWay hne).1 hroute⟩
    exact ⟨_, way, mem_ruleWays.2 ⟨happlies, hway, t, hhead, haims⟩, hhead, rfl⟩

theorem foundRoutes_pairwise (graph : Graph) (rule : PreparedRule) (i : graph.Position) :
    (graph.foundRoutes rule i).Pairwise fun a b => a.1 ≠ b.1 ∧ a.2.length ≤ b.2.length := by
  have hways : (graph.ruleWays rule i).Pairwise
      fun v w => v.head? ≠ w.head? ∧ v.length ≤ w.length := by
    unfold ruleWays
    split
    · exact (Links.explore_pairwise ..).filter _
    · exact .nil
  refine hways.filterMap _ fun v w hvw a ha b hb => ?_
  obtain ⟨s, hs, rfl⟩ := Option.map_eq_some_iff.1 ha
  obtain ⟨t, ht, rfl⟩ := Option.map_eq_some_iff.1 hb
  rw [hs, ht] at hvw
  refine ⟨fun heq => hvw.1 (congrArg some heq), ?_⟩
  simp only [Links.Way.steps, List.length_reverse, List.length_dropLast]
  omega

theorem listsRoutes_foundRoutes (graph : Graph) (rule : PreparedRule) (i : graph.Position) :
    graph.ListsRoutes rule i (graph.foundRoutes rule i) := by
  have hpairwise := graph.foundRoutes_pairwise rule i
  refine ⟨fun t => mem_map_fst_foundRoutes, ?_, fun t path hmem => ?_, ?_⟩
  · exact List.pairwise_map.2 (hpairwise.imp And.left)
  · obtain ⟨way, hway, hhead, rfl⟩ := mem_foundRoutes.1 hmem
    obtain ⟨hne, _, hshortest⟩ := ruleWays_shortest hway hhead
    exact isShortestRoute_steps hshortest hne
  · exact hpairwise.imp And.right

end Found

/-! ## Where a target is reached from -/

/-- A rule starts from a module, or some route leads to it from a module that the rule starts
from. -/
def IsReached (graph : Graph) (rule : PreparedRule) (t : graph.Position) : Prop :=
  rule.appliesTo (graph.moduleAt t) = true ∨
    ∃ root, rule.appliesTo (graph.moduleAt root) = true ∧ graph.HasRoute root t

/-- A module is reached first from another: from itself if the rule starts there, and otherwise
from the first module in the graph that the rule starts from and that has a route to it. -/
def ArrivesFrom (graph : Graph) (rule : PreparedRule) (t root : graph.Position) : Prop :=
  if rule.appliesTo (graph.moduleAt t) then root = t
  else (rule.appliesTo (graph.moduleAt root) = true ∧ graph.HasRoute root t) ∧
    ∀ k < root, ¬ (rule.appliesTo (graph.moduleAt k) = true ∧ graph.HasRoute k t)

/-- What is said about a module that a rule aims at is right. -/
structure IsArrival (graph : Graph) (rule : PreparedRule) (t : graph.Position)
    (arrival : Arrival) : Prop where
  heading_eq : arrival.heading = rule.heading
  isReached_iff : arrival.isReached = true ↔ graph.IsReached rule t
  arrives : arrival.isReached = true →
    ∃ root, graph.ArrivesFrom rule t root ∧ arrival.root = some (graph.sourceAt root)
  root_eq_none_iff : arrival.root = none ↔ arrival.isReached = false

/-- The module that a target of a rule is reached from first, if there is any. -/
def firstRoot? (graph : Graph) (rule : PreparedRule) (t : graph.Position) :
    Option graph.Position :=
  if rule.appliesTo (graph.moduleAt t) then some t
  else (List.finRange _).find? fun root => t ∈ (graph.foundRoutes rule root).map Prod.fst

def arrivalAt (graph : Graph) (rule : PreparedRule) (t : graph.Position) : Arrival :=
  { isReached := (graph.firstRoot? rule t).isSome
    heading := rule.heading
    root := (graph.firstRoot? rule t).map graph.sourceAt }

section Arrivals

variable {graph : Graph} {rule : PreparedRule} {t root : graph.Position}

theorem mem_map_fst_foundRoutes_of_not_applies
    (happlies : ¬ rule.appliesTo (graph.moduleAt t) = true)
    (haims : rule.aimsAt (graph.sourceAt t) = true) :
    t ∈ (graph.foundRoutes rule root).map Prod.fst ↔
      rule.appliesTo (graph.moduleAt root) = true ∧ graph.HasRoute root t := by
  rw [mem_map_fst_foundRoutes]
  constructor
  · exact fun h => ⟨h.1, h.2.2.2⟩
  · exact fun h => ⟨h.1, fun heq => happlies (heq ▸ h.1), haims, h.2⟩

theorem firstRoot?_eq_some_iff (haims : rule.aimsAt (graph.sourceAt t) = true) :
    graph.firstRoot? rule t = some root ↔ graph.ArrivesFrom rule t root := by
  unfold firstRoot? ArrivesFrom
  split
  · rw [Option.some.injEq, eq_comm]
  · rename_i happlies
    rw [find?_eq_some_iff_of_pairwise (List.pairwise_lt_finRange _)]
    simp only [List.mem_finRange, true_and, true_implies, decide_eq_true_eq,
      decide_eq_false_iff_not, mem_map_fst_foundRoutes_of_not_applies happlies haims]

theorem isSome_firstRoot?_iff (haims : rule.aimsAt (graph.sourceAt t) = true) :
    (graph.firstRoot? rule t).isSome = true ↔ graph.IsReached rule t := by
  unfold firstRoot? IsReached
  split
  · rename_i happlies
    exact ⟨fun _ => .inl happlies, fun _ => rfl⟩
  · rename_i happlies
    rw [List.find?_isSome]
    simp only [List.mem_finRange, true_and, decide_eq_true_eq, happlies, Bool.false_eq_true,
      false_or, mem_map_fst_foundRoutes_of_not_applies happlies haims]

theorem isArrival_arrivalAt (haims : rule.aimsAt (graph.sourceAt t) = true) :
    graph.IsArrival rule t (graph.arrivalAt rule t) := by
  refine ⟨rfl, isSome_firstRoot?_iff haims, fun h => ?_, ?_⟩
  · obtain ⟨root, hroot⟩ := Option.isSome_iff_exists.1 h
    exact ⟨root, (firstRoot?_eq_some_iff haims).1 hroot, by simp [arrivalAt, hroot]⟩
  · simp [arrivalAt]

/-- A target that some module lists is reached. -/
theorem isReached_of_mem_foundRoutes (h : t ∈ (graph.foundRoutes rule root).map Prod.fst) :
    rule.aimsAt (graph.sourceAt t) = true ∧ (graph.arrivalAt rule t).isReached = true := by
  obtain ⟨happlies, _, haims, hroute⟩ := mem_map_fst_foundRoutes.1 h
  exact ⟨haims, (isSome_firstRoot?_iff haims).2 (.inr ⟨root, happlies, hroute⟩)⟩

/-- A target is listed by the module that it is reached from first, unless that is itself. -/
theorem ArrivesFrom.mem_foundRoutes (h : graph.ArrivesFrom rule t root)
    (haims : rule.aimsAt (graph.sourceAt t) = true) (hne : root ≠ t) :
    t ∈ (graph.foundRoutes rule root).map Prod.fst := by
  unfold ArrivesFrom at h
  split at h
  · exact absurd h hne
  · rename_i happlies
    exact (mem_map_fst_foundRoutes_of_not_applies happlies haims).2 h.1

end Arrivals

end Graph

/-! ## Booking -/

namespace RuleReach

variable {n : Nat}

theorem bookRoot_get (booked : Vector (Option (Fin n)) n) (root : Fin n)
    (ways : List (Links.Way n)) (t : Fin n) :
    (bookRoot booked root ways).get t =
      (booked.get t).or (if ∃ way ∈ ways, way.head? = some t then some root else none) := by
  induction ways generalizing booked with
  | nil => simp [bookRoot]
  | cons way rest ih =>
      cases way with
      | nil =>
          have hskip : bookRoot booked root ([] :: rest) = bookRoot booked root rest := rfl
          rw [hskip, ih]
          simp
      | cons x before =>
          have hstep : bookRoot booked root ((x :: before) :: rest) = bookRoot
              (if (booked.get x).isNone then booked.set x (some root) x.isLt else booked)
              root rest := rfl
          rw [hstep, ih]
          -- A booking changes its own target alone, and only if that was free.
          by_cases hx : x = t
          · subst hx
            cases hbooked : booked.get x with
            | none => simp [get_set_fin]
            | some other => simp [hbooked]
          · have hsame : (if (booked.get x).isNone then booked.set x (some root) x.isLt
                else booked).get t = booked.get t := by
              split
              · rw [get_set_fin, if_neg (fun h => hx h.symm)]
              · rfl
            rw [hsame]
            simp [hx]

/-- Booking root after root leaves each target with the first root that found it. -/
theorem foldl_bookRoot_get (ways : Vector (List (Links.Way n)) n) (roots : List (Fin n))
    (booked : Vector (Option (Fin n)) n) (t : Fin n) :
    (roots.foldl (fun booked root => bookRoot booked root (ways.get root)) booked).get t =
      (booked.get t).or (roots.find? fun root => ∃ way ∈ ways.get root, way.head? = some t) := by
  induction roots generalizing booked with
  | nil => simp
  | cons root rest ih =>
      rw [List.foldl_cons, ih, bookRoot_get, Option.or_assoc, List.find?_cons]
      by_cases hroot : ∃ way ∈ ways.get root, way.head? = some t
      · rw [if_pos hroot, decide_eq_true hroot, Option.some_or]
      · rw [if_neg hroot, decide_eq_false hroot, Option.none_or]

end RuleReach

/-! ## Entries -/

namespace Graph

def routesEntry (graph : Graph) (heading : String)
    (found : List (graph.Position × List graph.Position)) : Routes :=
  { routes := found.map fun (t, path) =>
      { source := graph.sourceAt t, via := path.map graph.sourceAt }
    heading }

theorem isEmpty_foundRoutes (graph : Graph) (rule : PreparedRule) (i : graph.Position) :
    (graph.foundRoutes rule i).isEmpty = (graph.ruleWays rule i).isEmpty := by
  rw [Bool.eq_iff_iff, List.isEmpty_iff, List.isEmpty_iff]
  constructor
  · intro hnil
    rw [List.eq_nil_iff_forall_not_mem]
    intro way hway
    obtain ⟨_, _, t, hhead, _⟩ := mem_ruleWays.1 hway
    have hmem : (t, way.steps) ∈ graph.foundRoutes rule i :=
      mem_foundRoutes.2 ⟨way, hway, hhead, rfl⟩
    rw [hnil] at hmem
    cases hmem
  · intro hnil
    rw [foundRoutes, hnil, List.filterMap_nil]

theorem ofRule_reaches_eq_routes? (graph : Graph) (rule : PreparedRule) (i : graph.Position) :
    (RuleReach.ofRule graph.links graph.moduleVector rule).reaches.get i =
      RuleReach.routes? graph.links rule.heading (graph.ruleWays rule i) := by
  simp only [RuleReach.ofRule, ruleWays, targets, Vector.get_map, Vector.get_ofFn,
    moduleVector_get]

theorem ofRule_reaches (graph : Graph) (rule : PreparedRule) (i : graph.Position) :
    (RuleReach.ofRule graph.links graph.moduleVector rule).reaches.get i =
      if !(graph.foundRoutes rule i).isEmpty then
        some (graph.routesEntry rule.heading (graph.foundRoutes rule i))
      else none := by
  have hroutes : (graph.ruleWays rule i).filterMap (fun way => way.head?.map fun target =>
      ({ source := graph.links.nameAt target
         via := way.steps.map graph.links.nameAt } : Route)) =
        (graph.routesEntry rule.heading (graph.foundRoutes rule i)).routes := by
    simp only [routesEntry, foundRoutes, List.map_filterMap, Option.map_map, Function.comp_def,
      links_nameAt]
  rw [ofRule_reaches_eq_routes?, isEmpty_foundRoutes, RuleReach.routes?, hroutes]
  cases (graph.ruleWays rule i).isEmpty <;> rfl

theorem foldl_bookRoot_ruleWays (graph : Graph) (rule : PreparedRule) (t : graph.Position) :
    ((List.finRange _).foldl
        (fun booked root => RuleReach.bookRoot booked root
          ((Vector.ofFn (graph.ruleWays rule)).get root)) (Vector.replicate _ none)).get t =
      (List.finRange _).find? fun root => t ∈ (graph.foundRoutes rule root).map Prod.fst := by
  rw [RuleReach.foldl_bookRoot_get]
  simp [mem_foundRoutes]

theorem ofRule_reachable (graph : Graph) (rule : PreparedRule) (t : graph.Position) :
    (RuleReach.ofRule graph.links graph.moduleVector rule).reachable.get t =
      if rule.aimsAt (graph.sourceAt t) then some (graph.arrivalAt rule t) else none := by
  rw [arrivalAt, firstRoot?, ← foldl_bookRoot_ruleWays]
  simp only [RuleReach.ofRule, ruleWays, targets, sourceAt, Vector.get_map, Vector.get_ofFn,
    moduleVector_get, links_nameAt]

/-! ## Tables -/

def withTables (graph : Graph) (reaches : graph.Position → Option (List Routes))
    (reachable : graph.Position → Option (List Arrival)) : Graph :=
  { graph with
    modules := List.ofFn fun i =>
      { graph.moduleAt i with reaches := reaches i, reachable := reachable i } }

/-- The routes from a module: an entry for each rule about reachability that found any, in the order
of the rules. -/
def reachesTable (graph : Graph) (rules : PreparedRuleSet)
    (found : PreparedRule → graph.Position → List (graph.Position × List graph.Position))
    (i : graph.Position) : Option (List Routes) :=
  nonEmpty? (((rules.forbidden ++ rules.allowed).filter fun rule =>
    rule.isAboutReachability && !(found rule i).isEmpty).map fun rule =>
      graph.routesEntry rule.heading (found rule i))

/-- The arrivals at a module: an entry for each rule about reachability that aims at it, in the
order of the rules. -/
def reachableTable (graph : Graph) (rules : PreparedRuleSet)
    (arrival : PreparedRule → graph.Position → Arrival) (t : graph.Position) :
    Option (List Arrival) :=
  nonEmpty? (((rules.forbidden ++ rules.allowed).filter fun rule =>
    rule.isAboutReachability && rule.aimsAt (graph.sourceAt t)).map fun rule => arrival rule t)

def reachMarked (rules : PreparedRuleSet) {n : Nat} (modules : Vector Module n) :
    Vector Module n :=
  let reach := rules.aboutReachability.map (RuleReach.ofRule (Links.ofModules modules) modules)
  Vector.ofFn fun i =>
    { modules.get i with
      reaches := nonEmpty? (reach.filterMap fun r => r.reaches.get i)
      reachable := nonEmpty? (reach.filterMap fun r => r.reachable.get i) }

theorem withReachability_eq_reachMarked {graph : Graph} (rules : PreparedRuleSet) {n : Nat}
    {modules : Vector Module n} (h : modules.toList = graph.modules) :
    graph.withReachability rules = { graph with modules := (reachMarked rules modules).toList } :=
  of_toList_eq h (P := fun modules => graph.withReachability rules =
    { graph with modules := (reachMarked rules modules).toList }) rfl

/-- The entries that rules make where a condition holds, in the order of the rules. -/
theorem filterMap_aboutReachability (rules : PreparedRuleSet) {β : Type}
    {booked? : PreparedRule → Option β} {p : PreparedRule → Bool} {entry : PreparedRule → β}
    (h : ∀ rule, booked? rule = if p rule then some (entry rule) else none) :
    rules.aboutReachability.filterMap booked? =
      ((rules.forbidden ++ rules.allowed).filter fun rule =>
        rule.isAboutReachability && p rule).map entry := by
  rw [PreparedRuleSet.aboutReachability, List.filterMap_filter, ← List.filterMap_eq_map',
    List.filterMap_filter]
  refine List.filterMap_congr fun rule _ => ?_
  rw [h]
  cases rule.isAboutReachability <;> rfl

theorem filterMap_reaches (graph : Graph) (rules : PreparedRuleSet) (i : graph.Position) :
    nonEmpty? ((rules.aboutReachability.map
        (RuleReach.ofRule graph.links graph.moduleVector)).filterMap fun r => r.reaches.get i) =
      graph.reachesTable rules graph.foundRoutes i := by
  rw [List.filterMap_map]
  exact congrArg nonEmpty?
    (filterMap_aboutReachability rules fun rule => graph.ofRule_reaches rule i)

theorem filterMap_reachable (graph : Graph) (rules : PreparedRuleSet) (t : graph.Position) :
    nonEmpty? ((rules.aboutReachability.map
        (RuleReach.ofRule graph.links graph.moduleVector)).filterMap fun r => r.reachable.get t) =
      graph.reachableTable rules graph.arrivalAt t := by
  rw [List.filterMap_map]
  exact congrArg nonEmpty?
    (filterMap_aboutReachability rules fun rule => graph.ofRule_reachable rule t)

theorem reachMarked_moduleVector (graph : Graph) (rules : PreparedRuleSet)
    (i : graph.Position) :
    (reachMarked rules graph.moduleVector).get i =
      { graph.moduleAt i with
        reaches := graph.reachesTable rules graph.foundRoutes i
        reachable := graph.reachableTable rules graph.arrivalAt i } := by
  rw [← filterMap_reaches, ← filterMap_reachable, ← moduleVector_get, reachMarked,
    Vector.get_ofFn, links_eq_ofModules]

theorem withReachability_eq (graph : Graph) (rules : PreparedRuleSet) :
    graph.withReachability rules = graph.withTables (graph.reachesTable rules graph.foundRoutes)
      (graph.reachableTable rules graph.arrivalAt) := by
  have hmodules : graph.moduleVector.toList = graph.modules := by simp [moduleVector]
  rw [withReachability_eq_reachMarked rules hmodules, toList_eq_ofFn]
  simp only [reachMarked_moduleVector, withTables]

/-- The tables depend on the sources and on the edges of the modules alone. -/
theorem reachMarked_get (rules : PreparedRuleSet) {n : Nat} (modules modules' : Vector Module n)
    (hsource : ∀ i : Fin n, (modules'.get i).source = (modules.get i).source)
    (hedges : ∀ i : Fin n, (modules'.get i).dependencies.map Dependency.edgeData =
      (modules.get i).dependencies.map Dependency.edgeData) (i : Fin n) :
    (reachMarked rules modules').get i =
      { modules'.get i with
        reaches := ((reachMarked rules modules).get i).reaches
        reachable := ((reachMarked rules modules).get i).reachable } := by
  have hlinks := Links.ofModules_congr hsource hedges
  have htargets : ∀ rule : PreparedRule,
      (modules'.map fun m => rule.aimsAt m.source) = modules.map fun m => rule.aimsAt m.source :=
    fun rule => map_eq_map_of_get fun i => congrArg rule.aimsAt (hsource i)
  have hroots : ∀ rule : PreparedRule,
      modules'.map rule.appliesTo = modules.map rule.appliesTo :=
    fun rule => map_eq_map_of_get fun i => congrArg rule.source.hold (hsource i)
  have hrule : RuleReach.ofRule (Links.ofModules modules') modules' =
      RuleReach.ofRule (Links.ofModules modules) modules := by
    funext rule
    unfold RuleReach.ofRule
    rw [hlinks, htargets, hroots]
  simp [reachMarked, hrule]

end Graph

def Module.withoutTables (m : Module) : Module := { m with reaches := none, reachable := none }

def Graph.withoutTables (graph : Graph) : Graph :=
  { graph with modules := graph.modules.map Module.withoutTables }

namespace Graph

theorem withReachability_withoutTables (graph : Graph) (rules : PreparedRuleSet) :
    graph.withoutTables.withReachability rules = graph.withReachability rules := by
  have hmodules : (graph.moduleVector.map Module.withoutTables).toList =
      graph.withoutTables.modules := by
    simp [withoutTables, moduleVector]
  have hmarked : reachMarked rules (graph.moduleVector.map Module.withoutTables) =
      reachMarked rules graph.moduleVector := by
    apply Vector.ext
    intro i hi
    have hget := reachMarked_get rules graph.moduleVector
      (graph.moduleVector.map Module.withoutTables)
      (fun i => by simp [Module.withoutTables]) (fun i => by simp [Module.withoutTables]) ⟨i, hi⟩
    refine hget.trans ?_
    simp [reachMarked, Module.withoutTables]
  rw [withReachability_eq_reachMarked rules hmodules, hmarked]
  rfl

/-- Each module lists, for each rule about reachability that starts from it, the routes to what the
rule aims at, and the tables on the input make no difference. -/
theorem withReachability_reaches_exact (graph : Graph) (rules : PreparedRuleSet) :
    (∃ (found : PreparedRule → graph.Position → List (graph.Position × List graph.Position))
        (reachable : graph.Position → Option (List Arrival)),
      (∀ rule i, graph.ListsRoutes rule i (found rule i)) ∧
        graph.withReachability rules =
          graph.withTables (graph.reachesTable rules found) reachable) ∧
      ∀ other : Graph, other.withoutTables = graph.withoutTables →
        other.withReachability rules = graph.withReachability rules := by
  refine ⟨⟨graph.foundRoutes, _, graph.listsRoutes_foundRoutes,
    graph.withReachability_eq rules⟩, fun other hother => ?_⟩
  rw [← withReachability_withoutTables other, hother, withReachability_withoutTables]

/-- Each module tells, for each rule about reachability that aims at it, whether it is reached and
from where, in agreement with the routes that the modules list. -/
theorem withReachability_reachable_exact (graph : Graph) (rules : PreparedRuleSet) :
    ∃ (found : PreparedRule → graph.Position → List (graph.Position × List graph.Position))
        (arrival : PreparedRule → graph.Position → Arrival),
      graph.withReachability rules = graph.withTables (graph.reachesTable rules found)
          (graph.reachableTable rules arrival) ∧
        (∀ rule i, graph.ListsRoutes rule i (found rule i)) ∧
        (∀ rule t, rule.aimsAt (graph.sourceAt t) = true →
          graph.IsArrival rule t (arrival rule t)) ∧
        (∀ rule root t, t ∈ (found rule root).map Prod.fst →
          rule.aimsAt (graph.sourceAt t) = true ∧ (arrival rule t).isReached = true) ∧
        ∀ rule root t, rule.aimsAt (graph.sourceAt t) = true → graph.ArrivesFrom rule t root →
          root ≠ t → t ∈ (found rule root).map Prod.fst := by
  refine ⟨graph.foundRoutes, graph.arrivalAt, graph.withReachability_eq rules,
    graph.listsRoutes_foundRoutes, ?_, ?_, ?_⟩
  · exact fun rule t haims => isArrival_arrivalAt haims
  · exact fun rule root t hmem => isReached_of_mem_foundRoutes hmem
  · exact fun rule root t haims harrives hne => harrives.mem_foundRoutes haims hne

end Graph

end DependencyRules
