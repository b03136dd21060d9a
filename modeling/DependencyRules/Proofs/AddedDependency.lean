import DependencyRules.Proofs.Reachability
import DependencyRules.Proofs.Rings

/-!
# Adding a dependency

A graph with one dependency more has all edges that it had before, between the same modules, so
every path and every route stays. What was found is still found: circular dependencies stay circular
with cycles that are not longer, and modules that were reached are still reached by routes that are
not longer.
-/

namespace DependencyRules

theorem IsPath.map {α β : Type} {R : α → α → Prop} {S : β → β → Prop} {start goal : α}
    {path : List α} (h : IsPath R start goal path) {f : α → β}
    (hf : ∀ x y, R x y → S (f x) (f y)) : IsPath S (f start) (f goal) (path.map f) := by
  refine ⟨(List.isChain_map f).2 (h.chain.imp hf), ?_, ?_⟩
  · rw [List.head?_map, h.head, Option.map_some]
  · rw [List.getLast?_map, h.last, Option.map_some]

namespace Graph

/-- A graph has the modules of another in their order and all their dependencies, each at the place
that is given for its old one. -/
structure IsEnlargement {graph other : Graph} (σ : graph.Position ≃o other.Position)
    (place : Nat → Nat → Nat) : Prop where
  sourceAt_eq : ∀ i, other.sourceAt (σ i) = graph.sourceAt i
  kept : ∀ {i : graph.Position} {k dependency},
    (graph.moduleAt i).dependencies[k]? = some dependency →
      (other.moduleAt (σ i)).dependencies[place i k]? = some dependency

section Enlargement

variable {graph other : Graph} {σ : graph.Position ≃o other.Position} {place : Nat → Nat → Nat}
  {i j t : graph.Position} {dependency : Dependency}

/-! ## Edges and routes -/

theorem IsEnlargement.mem (h : IsEnlargement σ place)
    (hmem : dependency ∈ (graph.moduleAt i).dependencies) :
    dependency ∈ (other.moduleAt (σ i)).dependencies := by
  obtain ⟨k, hk⟩ := List.getElem?_of_mem hmem
  exact List.mem_of_getElem? (h.kept hk)

theorem IsEnlargement.leadsTo (h : IsEnlargement σ place) (hleads : graph.LeadsTo dependency j) :
    other.LeadsTo dependency (σ j) := by
  obtain ⟨hresolve, hsource, hlast⟩ := hleads
  refine ⟨hresolve, (h.sourceAt_eq j).trans hsource, fun k hk => ?_⟩
  obtain ⟨k, rfl⟩ := σ.surjective k
  rw [h.sourceAt_eq]
  exact hlast k (σ.lt_iff_lt.1 hk)

theorem IsEnlargement.joins (h : IsEnlargement σ place) (hjoins : graph.Joins i j) :
    other.Joins (σ i) (σ j) := by
  obtain ⟨dependency, hmem, hleads⟩ := hjoins
  exact ⟨dependency, h.mem hmem, h.leadsTo hleads⟩

theorem IsEnlargement.follows (h : IsEnlargement σ place) (hfollows : graph.Follows i j) :
    other.Follows (σ i) (σ j) := by
  obtain ⟨dependency, hmem, hfollowable, hstatic, hleads⟩ := hfollows
  exact ⟨dependency, h.mem hmem, hfollowable, hstatic, h.leadsTo hleads⟩

theorem IsEnlargement.isRoute (h : IsEnlargement σ place) {path : List graph.Position}
    (hroute : graph.IsRoute i t path) : other.IsRoute (σ i) (σ t) (path.map σ) := by
  obtain ⟨j, hjoins, hpath⟩ := hroute
  exact ⟨σ j, h.joins hjoins, hpath.map fun _ _ => h.follows⟩

/-! ## Cycles -/

/-- A dependency that was circular is circular, with a cycle that is not longer. -/
theorem IsEnlargement.cycle_le (h : IsEnlargement σ place) {marked marked' : Dependency}
    (hmark : graph.IsCycleMark i dependency marked)
    (hmark' : other.IsCycleMark (σ i) dependency marked') (hcircular : marked.circular = true) :
    marked'.circular = true ∧ marked'.cycle.length ≤ marked.cycle.length := by
  obtain ⟨j, hleads, _⟩ := hmark.circular_iff.1 hcircular
  obtain ⟨path, ⟨hpath, _⟩, hcycle⟩ := hmark.cycle_eq j hleads hcircular
  have hpath' : IsPath other.Joins (σ j) (σ i) (path.map σ) := hpath.map fun _ _ => h.joins
  have hcircular' : marked'.circular = true :=
    hmark'.circular_iff.2 ⟨σ j, h.leadsTo hleads, hpath'.reaches_mem hpath'.goal_mem⟩
  obtain ⟨path', hshortest', hcycle'⟩ := hmark'.cycle_eq (σ j) (h.leadsTo hleads) hcircular'
  refine ⟨hcircular', ?_⟩
  have hle := hshortest'.2 _ hpath'
  rwa [hcycle, hcycle', List.length_map, List.length_map, ← List.length_map σ]

/-! ## Routes -/

theorem IsEnlargement.appliesTo_eq (h : IsEnlargement σ place) (rule : PreparedRule)
    (i : graph.Position) :
    rule.appliesTo (other.moduleAt (σ i)) = rule.appliesTo (graph.moduleAt i) :=
  congrArg rule.source.hold (h.sourceAt_eq i)

/-- A route that is found to a target is found again or replaced by one that is not longer. -/
theorem IsEnlargement.foundRoutes_le (h : IsEnlargement σ place) {rule : PreparedRule}
    {path : List graph.Position} (hfound : (t, path) ∈ graph.foundRoutes rule i) :
    ∃ path', (σ t, path') ∈ other.foundRoutes rule (σ i) ∧ path'.length ≤ path.length := by
  obtain ⟨⟨hroute, _⟩, _⟩ := (graph.listsRoutes_foundRoutes rule i).shortest t path hfound
  obtain ⟨happlies, hne, haims, _⟩ :=
    mem_map_fst_foundRoutes.1 (List.mem_map_of_mem (f := Prod.fst) hfound)
  have hfound' : σ t ∈ (other.foundRoutes rule (σ i)).map Prod.fst := by
    refine mem_map_fst_foundRoutes.2 ⟨?_, σ.injective.ne hne, ?_, _, h.isRoute hroute⟩
    · rw [h.appliesTo_eq, happlies]
    · rw [h.sourceAt_eq, haims]
  obtain ⟨⟨_, path'⟩, hmem, rfl⟩ := List.mem_map.1 hfound'
  obtain ⟨⟨_, hshortest⟩, _⟩ := (other.listsRoutes_foundRoutes rule (σ i)).shortest _ path' hmem
  have hle := hshortest _ (h.isRoute hroute)
  rw [List.length_map] at hle
  exact ⟨path', hmem, hle⟩

theorem IsEnlargement.isReached (h : IsEnlargement σ place) {rule : PreparedRule}
    (hreached : graph.IsReached rule t) : other.IsReached rule (σ t) := by
  rcases hreached with happlies | ⟨root, happlies, path, hroute⟩
  · exact .inl ((h.appliesTo_eq rule t).trans happlies)
  · exact .inr ⟨σ root, (h.appliesTo_eq rule root).trans happlies, _, h.isRoute hroute⟩

end Enlargement

/-! ## What rules book -/

def routesBooked (graph : Graph) (rule : PreparedRule) (position : Nat) : Option Routes :=
  if h : position < graph.modules.length then
    (RuleReach.ofRule graph.links graph.moduleVector rule).reaches.get ⟨position, h⟩
  else none

def arrivalBooked (graph : Graph) (rule : PreparedRule) (position : Nat) : Option Arrival :=
  if h : position < graph.modules.length then
    (RuleReach.ofRule graph.links graph.moduleVector rule).reachable.get ⟨position, h⟩
  else none

theorem routesBooked_eq (graph : Graph) (rule : PreparedRule) (i : graph.Position) :
    graph.routesBooked rule i =
      if !(graph.foundRoutes rule i).isEmpty then
        some (graph.routesEntry rule.heading (graph.foundRoutes rule i))
      else none := by
  rw [routesBooked, dif_pos i.isLt]
  exact graph.ofRule_reaches rule i

theorem arrivalBooked_eq (graph : Graph) (rule : PreparedRule) (t : graph.Position) :
    graph.arrivalBooked rule t =
      if rule.aimsAt (graph.sourceAt t) then some (graph.arrivalAt rule t) else none := by
  rw [arrivalBooked, dif_pos t.isLt]
  exact graph.ofRule_reachable rule t

/-- The tables of a graph hold what the rules about reachability book, in the order of the rules. -/
def HasBookedTables (graph : Graph) (rules : PreparedRuleSet) : Prop :=
  ∀ position : Nat, (graph.withReachability rules).modules[position]? =
    graph.modules[position]?.map fun m =>
      { m with
        reaches := nonEmpty? (rules.aboutReachability.filterMap fun rule =>
          graph.routesBooked rule position)
        reachable := nonEmpty? (rules.aboutReachability.filterMap fun rule =>
          graph.arrivalBooked rule position) }

theorem hasBookedTables (graph : Graph) (rules : PreparedRuleSet) :
    graph.HasBookedTables rules := by
  intro position
  unfold withReachability
  by_cases h : position < graph.modules.length
  · simp [routesBooked, arrivalBooked, h, List.filterMap_map, moduleAt]
  · simp [h]

section Booked

variable {graph other : Graph} {σ : graph.Position ≃o other.Position} {place : Nat → Nat → Nat}
  {rule : PreparedRule} {i t : graph.Position}

theorem IsEnlargement.routesBooked_le (h : IsEnlargement σ place) {entry : Routes}
    (hentry : graph.routesBooked rule i = some entry) :
    ∃ entry', other.routesBooked rule (σ i) = some entry' ∧
      ∀ route ∈ entry.routes, ∃ route' ∈ entry'.routes,
        route'.source = route.source ∧ route'.via.length ≤ route.via.length := by
  rw [routesBooked_eq, Option.ite_none_right_eq_some, Option.some.injEq] at hentry
  obtain ⟨hfound, rfl⟩ := hentry
  have hroutes : ∀ route ∈ (graph.routesEntry rule.heading (graph.foundRoutes rule i)).routes,
      ∃ route' ∈ (other.routesEntry rule.heading (other.foundRoutes rule (σ i))).routes,
        route'.source = route.source ∧ route'.via.length ≤ route.via.length := by
    intro route hroute
    obtain ⟨⟨t, path⟩, hmem, rfl⟩ := List.mem_map.1 hroute
    obtain ⟨path', hmem', hle⟩ := h.foundRoutes_le hmem
    refine ⟨_, List.mem_map_of_mem hmem', h.sourceAt_eq t, ?_⟩
    simpa using hle
  refine ⟨_, ?_, hroutes⟩
  rw [routesBooked_eq, if_pos]
  rw [Bool.not_eq_true', List.isEmpty_eq_false_iff_exists_mem] at hfound ⊢
  obtain ⟨⟨t, path⟩, hmem⟩ := hfound
  obtain ⟨path', hmem', _⟩ := h.foundRoutes_le hmem
  exact ⟨_, hmem'⟩

theorem IsEnlargement.arrivalBooked_le (h : IsEnlargement σ place) {arrival : Arrival}
    (harrival : graph.arrivalBooked rule t = some arrival) :
    ∃ arrival', other.arrivalBooked rule (σ t) = some arrival' ∧
      (arrival.isReached = true → arrival'.isReached = true) := by
  rw [arrivalBooked_eq, Option.ite_none_right_eq_some, Option.some.injEq] at harrival
  obtain ⟨haims, rfl⟩ := harrival
  have haims' : rule.aimsAt (other.sourceAt (σ t)) = true := by
    rw [h.sourceAt_eq, haims]
  refine ⟨_, by rw [arrivalBooked_eq, if_pos haims'], fun hreached => ?_⟩
  rw [(isArrival_arrivalAt haims).isReached_iff] at hreached
  rw [(isArrival_arrivalAt haims').isReached_iff]
  exact h.isReached hreached

theorem IsEnlargement.withCycles_le (h : IsEnlargement σ place) {k : Nat} {marked : Dependency}
    (hmarked : (graph.markedDependencies i)[k]? = some marked)
    (hcircular : marked.circular = true) :
    ∃ marked', (other.markedDependencies (σ i))[place i k]? = some marked' ∧
      marked'.withCycle none = marked.withCycle none ∧ marked'.circular = true ∧
        marked'.cycle.length ≤ marked.cycle.length := by
  obtain ⟨dependency, hget, hmark⟩ := exists_isCycleMark_of_getElem?_marked hmarked
  obtain ⟨marked', hmarked', hmark'⟩ := exists_isCycleMark_of_getElem? (h.kept hget)
  refine ⟨marked', hmarked', ?_, h.cycle_le hmark hmark' hcircular⟩
  rw [hmark.unchanged, hmark'.unchanged]
  rfl

end Booked

/-! ## One dependency more -/

/-- A graph with a dependency more, at a place among the dependencies of one of its modules. -/
def insertDependency (graph : Graph) (i : graph.Position) (position : Nat) (added : Dependency) :
    Graph :=
  { graph with
    modules := graph.modules.modify i fun m =>
      { m with dependencies := m.dependencies.insertIdx position added } }

/-- The place of a dependency after another one was inserted into a module at a position. -/
def placeAfter (i position : Nat) (a k : Nat) : Nat := if a = i ∧ position ≤ k then k + 1 else k

section Inserted

variable (graph : Graph) (i : graph.Position) (position : Nat) (added : Dependency)

theorem length_insertDependency :
    graph.modules.length = (graph.insertDependency i position added).modules.length := by
  rw [insertDependency, List.length_modify]

theorem moduleAt_insertDependency (a : graph.Position) :
    (graph.insertDependency i position added).moduleAt
        (Fin.castOrderIso (graph.length_insertDependency i position added) a) =
      if i.val = a then
        { graph.moduleAt a with
          dependencies := (graph.moduleAt a).dependencies.insertIdx position added }
      else graph.moduleAt a :=
  List.getElem_modify _ _ _ a.val _

theorem isEnlargement_insertDependency :
    IsEnlargement (Fin.castOrderIso (graph.length_insertDependency i position added))
      (placeAfter i position) := by
  refine ⟨fun a => ?_, fun {a k dependency} hget => ?_⟩
  · rw [sourceAt, moduleAt_insertDependency]
    split <;> rfl
  · rw [moduleAt_insertDependency, placeAfter]
    by_cases ha : a.val = i
    · by_cases hk : position ≤ k
      · rw [if_pos ha.symm, if_pos ⟨ha, hk⟩, List.getElem?_insertIdx_of_gt (by omega)]
        exact hget
      · rw [if_pos ha.symm, if_neg fun h => hk h.2, List.getElem?_insertIdx_of_lt (by omega)]
        exact hget
    · rw [if_neg fun h => ha h.symm, if_neg fun h => ha h.1]
      exact hget

end Inserted

/-- What was found in a graph is found in another, each dependency being at the place that is given
for its old one: circular dependencies with cycles that are not longer and, for every rule about
reachability, the modules that are listed as reached with ways that are not longer, and the modules
that are booked as reached. -/
structure KeepsFound (graph other : Graph) (place : Nat → Nat → Nat) (rules : PreparedRuleSet) :
    Prop where
  cycles : ∀ {a k m dependency}, graph.withCycles.modules[a]? = some m →
    m.dependencies[k]? = some dependency → dependency.circular = true →
      ∃ m' dependency', other.withCycles.modules[a]? = some m' ∧
        m'.dependencies[place a k]? = some dependency' ∧
        dependency'.withCycle none = dependency.withCycle none ∧ dependency'.circular = true ∧
        dependency'.cycle.length ≤ dependency.cycle.length
  tables : graph.HasBookedTables rules ∧ other.HasBookedTables rules
  routes : ∀ rule ∈ rules.aboutReachability, ∀ {a entry}, graph.routesBooked rule a = some entry →
    ∃ entry', other.routesBooked rule a = some entry' ∧
      ∀ route ∈ entry.routes, ∃ route' ∈ entry'.routes,
        route'.source = route.source ∧ route'.via.length ≤ route.via.length
  arrivals : ∀ rule ∈ rules.aboutReachability, ∀ {t arrival},
    graph.arrivalBooked rule t = some arrival → ∃ arrival',
      other.arrivalBooked rule t = some arrival' ∧
        (arrival.isReached = true → arrival'.isReached = true)

theorem getElem?_withCycles_eq_some_iff {graph : Graph} {a : Nat} {m : Module} :
    graph.withCycles.modules[a]? = some m ↔
      ∃ i : graph.Position, i.val = a ∧
        { graph.moduleAt i with dependencies := graph.markedDependencies i } = m := by
  rw [withCycles_eq, withDependencies, List.getElem?_ofFn]
  constructor
  · intro h
    obtain ⟨ha, hm⟩ := Option.dite_none_right_eq_some.1 h
    exact ⟨⟨a, ha⟩, rfl, Option.some.inj hm⟩
  · rintro ⟨i, rfl, rfl⟩
    rw [dif_pos i.isLt]

/-- Inserting a dependency anywhere loses nothing that was found and makes nothing longer. -/
theorem insertDependency_keepsFound (graph : Graph) (rules : PreparedRuleSet) (i : graph.Position)
    (position : Nat) (added : Dependency) :
    graph.KeepsFound (graph.insertDependency i position added) (placeAfter i position) rules := by
  have h := graph.isEnlargement_insertDependency i position added
  refine ⟨?_, ⟨hasBookedTables _ _, hasBookedTables _ _⟩, ?_, ?_⟩
  · intro a k m dependency hm hdependency hcircular
    obtain ⟨a, rfl, rfl⟩ := getElem?_withCycles_eq_some_iff.1 hm
    obtain ⟨marked, hmarked, hkept⟩ := h.withCycles_le hdependency hcircular
    exact ⟨_, marked, getElem?_withCycles_eq_some_iff.2 ⟨_, rfl, rfl⟩, hmarked, hkept⟩
  · intro rule _ a entry hentry
    by_cases ha : a < graph.modules.length
    · exact h.routesBooked_le (i := ⟨a, ha⟩) hentry
    · rw [routesBooked, dif_neg ha] at hentry
      cases hentry
  · intro rule _ t arrival harrival
    by_cases ht : t < graph.modules.length
    · exact h.arrivalBooked_le (t := ⟨t, ht⟩) harrival
    · rw [arrivalBooked, dif_neg ht] at harrival
      cases harrival

end Graph

end DependencyRules
