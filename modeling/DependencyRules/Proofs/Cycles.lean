import DependencyRules.Graph.Cycles
import DependencyRules.Proofs.Components
import DependencyRules.Proofs.Exploration

/-!
# Cycle marks are exact

An edge is marked as circular exactly when its target leads back to its module, and its cycle is a
shortest path from the target back to the module. That the search for the path keeps to one
component loses nothing: every path between modules of a component stays in it. What the graph said
about cycles before makes no difference.
-/

namespace DependencyRules

namespace Links

variable {n : Nat}

/-! ## The way back -/

/-- A path between two modules that lead to each other stays in their component. -/
theorem isPath_stepsTo_component (links : Links n) {start goal : Fin n}
    (hback : links.Reaches goal start) {path : List (Fin n)}
    (h : IsPath links.Joins start goal path) :
    IsPath (links.StepsTo fun _ edge =>
        links.components.get edge.target = links.components.get start)
      start goal path := by
  refine h.imp_of_mem fun x _ y hy hxy => ?_
  obtain ⟨edge, hrow, rfl⟩ := hxy
  have hsame : links.components.get edge.target = links.components.get start :=
    (links.components_eq_iff _ _).2 ⟨(h.mem_reaches hy).trans hback, h.reaches_mem hy⟩
  exact ⟨edge, hrow, decide_eq_true hsame, rfl⟩

theorem StepsTo.joins {links : Links n} {admissible : Fin n → Edge n → Bool} {i j : Fin n}
    (h : links.StepsTo admissible i j) : links.Joins i j := by
  obtain ⟨edge, hrow, _, htarget⟩ := h
  exact ⟨edge, hrow, htarget⟩

/-- Between modules that lead to each other, the way back is a shortest path of the whole graph, and
it visits no module twice. -/
theorem wayBack_spec (links : Links n) {start goal : Fin n} (hforth : links.Reaches start goal)
    (hback : links.Reaches goal start) :
    IsShortestPath links.Joins start goal (links.wayBack links.components start goal) ∧
      (links.wayBack links.components start goal).Nodup := by
  unfold wayBack
  split
  · rename_i heq
    subst heq
    refine ⟨⟨isPath_singleton .., fun other hother => ?_⟩, List.nodup_singleton _⟩
    exact List.length_pos_iff.2 hother.ne_nil
  · rename_i hne
    -- No path leaves the component, so the exploration within it misses none.
    have hways : ∀ path, IsPath links.Joins start goal path →
        links.IsWay (fun _ edge => links.components.get edge.target = links.components.get start)
          start goal path.reverse := by
      intro path hpath
      rw [isWay_iff, List.reverse_reverse]
      exact links.isPath_stepsTo_component hback hpath
    obtain ⟨path, hpath⟩ := exists_isPath hforth
    obtain ⟨found, hfind, hshortest⟩ := explore_find? (hways path hpath) (Ne.symm hne)
    dsimp only
    rw [hfind]
    refine ⟨⟨?_, fun other hother => ?_⟩, List.nodup_reverse.2 hshortest.nodup⟩
    · exact (isWay_iff.1 hshortest.1).imp_of_mem fun _ _ _ _ hstep => hstep.joins
    · have hle := hshortest.2 _ (hways other hother)
      simpa using hle

/-- An edge closes a cycle exactly when its target leads back to its module. -/
theorem cycleOf?_isSome_iff (links : Links n) {node : Fin n} {edge : Edge n}
    (hedge : edge ∈ links.row node) :
    (links.cycleOf? links.components node edge).isSome = true ↔
      links.Reaches edge.target node := by
  have hforth : links.Reaches node edge.target := .single ⟨edge, hedge, rfl⟩
  unfold cycleOf?
  constructor
  · intro h
    split at h
    · rename_i hcircular
      rcases hcircular with heq | heq
      · rw [heq]
      · exact ((links.components_eq_iff _ _).1 heq).1
    · cases h
  · intro hback
    rw [if_pos (.inr ((links.components_eq_iff _ _).2 ⟨hback, hforth⟩))]
    rfl

theorem cycleOf?_eq_some {links : Links n} {node : Fin n} {edge : Edge n} {cycle : List String}
    (hedge : edge ∈ links.row node)
    (h : links.cycleOf? links.components node edge = some cycle) :
    ∃ path, IsShortestPath links.Joins edge.target node path ∧ path.Nodup ∧
      cycle = path.map links.nameAt := by
  have hback : links.Reaches edge.target node :=
    (links.cycleOf?_isSome_iff hedge).1 (by rw [h]; rfl)
  have hspec := links.wayBack_spec hback (.single ⟨edge, hedge, rfl⟩)
  refine ⟨_, hspec.1, hspec.2, ?_⟩
  unfold cycleOf? at h
  split at h
  · exact (Option.some.inj h).symm
  · cases h

end Links

namespace Graph

/-! ## Marking the dependencies of a module -/

/-- Marking goes through the dependencies and gives each the cycle of the edge with its position. -/
theorem markCycles_eq_mapIdx {n : Nat} (cycle? : Edge n → Option (List String)) (position : Nat)
    (dependencies : List Dependency) (edges : List (Edge n))
    (hsorted : edges.Pairwise fun a b => a.dependency < b.dependency)
    (hbound : ∀ edge ∈ edges, position ≤ edge.dependency) :
    markCycles cycle? position dependencies edges =
      dependencies.mapIdx fun k dependency =>
        dependency.withCycle ((edges.find? fun edge => edge.dependency = position + k).bind
          cycle?) := by
  induction dependencies generalizing position edges with
  | nil => simp [markCycles]
  | cons dependency rest ih =>
      rw [List.mapIdx_cons]
      have hshift : ∀ k, position + (k + 1) = position + 1 + k := fun k => by omega
      cases edges with
      | nil =>
          rw [markCycles, ih (position + 1) [] List.Pairwise.nil (by simp)]
          rfl
      | cons edge edges =>
          obtain ⟨hfirst, hlater⟩ := List.pairwise_cons.1 hsorted
          by_cases hedge : edge.dependency = position
          · have hrest : ∀ other ∈ edges, position + 1 ≤ other.dependency := by
              intro other hother
              have hlt := hfirst other hother
              omega
            rw [markCycles, if_pos hedge, ih (position + 1) edges hlater hrest]
            refine congrArg₂ List.cons ?_ (congrArg (List.mapIdx · rest) (funext fun k => ?_))
            · rw [List.find?_cons_of_pos (by simpa using hedge), Option.bind_some]
            · rw [hshift k, List.find?_cons_of_neg (by rw [hedge]; simp; omega)]
          · have hrest : ∀ other ∈ edge :: edges, position + 1 ≤ other.dependency := by
              intro other hother
              have hle := hbound edge (List.mem_cons_self ..)
              rcases List.mem_cons.1 hother with rfl | hother
              · omega
              · have hlt := hfirst other hother
                omega
            have hnone : (edge :: edges).find? (fun other => other.dependency = position + 0) =
                none := by
              rw [List.find?_eq_none]
              intro other hother
              have hle := hrest other hother
              simp only [decide_eq_true_eq]
              omega
            rw [markCycles, if_neg hedge, ih (position + 1) (edge :: edges) hsorted hrest, hnone,
              Option.bind_none]
            refine congrArg (_ :: List.mapIdx · rest) (funext fun k => ?_)
            rw [hshift k]

/-- What the mark on a dependency of a module says when it is right: the dependency is circular
exactly when it leads to a module that leads back, and then the cycle is a shortest path from that
module back, without repetitions. -/
structure IsCycleMark (graph : Graph) (i : graph.Position) (dependency marked : Dependency) :
    Prop where
  unchanged : marked = { dependency with circular := marked.circular, cycle := marked.cycle }
  circular_iff : marked.circular = true ↔
    ∃ j, graph.LeadsTo dependency j ∧ Relation.ReflTransGen graph.Joins j i
  cycle_ne_nil_iff : marked.cycle ≠ [] ↔ marked.circular = true
  cycle_eq : ∀ j, graph.LeadsTo dependency j → marked.circular = true →
    ∃ path, IsShortestPath graph.Joins j i path ∧ marked.cycle = path.map graph.sourceAt
  cycle_nodup : marked.cycle.Nodup

/-- Along a path that starts where an edge leads to, every module is the last one with its source,
so a path without repetitions repeats no source either. -/
theorem nodup_map_sourceAt {graph : Graph} {i j : graph.Position} {dependency : Dependency}
    {path : List graph.Position} (hleads : graph.LeadsTo dependency j)
    (hpath : IsPath graph.Joins j i path) (hnodup : path.Nodup) :
    (path.map graph.sourceAt).Nodup := by
  have hlast : ∀ x ∈ path, graph.IsLast (graph.sourceAt x) x :=
    hpath.forall_mem (fun _ _ hxy _ => hxy.isLast) hleads.isLast
  refine hnodup.map_on fun x hx y hy heq => ?_
  exact (hlast x hx).unique (heq ▸ hlast y hy)

theorem isCycleMark_withCycle {graph : Graph} {i : graph.Position} {position : Nat}
    {dependency : Dependency}
    (hget : (graph.moduleAt i).dependencies[position]? = some dependency) :
    graph.IsCycleMark i dependency (dependency.withCycle
      (((graph.links.row i).find? fun edge => edge.dependency = position).bind
        (graph.links.cycleOf? graph.links.components i))) := by
  cases hfind : (graph.links.row i).find? fun edge => edge.dependency = position with
  | none =>
      have hno : ¬ ∃ j, graph.LeadsTo dependency j ∧ Relation.ReflTransGen graph.Joins j i := by
        rintro ⟨j, hleads, _⟩
        rw [List.find?_eq_none] at hfind
        refine hfind ⟨position, j, dependency.followable && !dependency.isDynamic⟩ ?_ (by simp)
        exact mem_links_row.2 ⟨dependency, hget, hleads, rfl⟩
      refine ⟨rfl, ⟨(fun h => by cases h), fun h => absurd h hno⟩, ?_, ?_, List.nodup_nil⟩
      · exact ⟨fun h => absurd rfl h, fun h => by cases h⟩
      · exact fun j _ h => by cases h
  | some edge =>
      have hedge : edge ∈ graph.links.row i := List.mem_of_find?_eq_some hfind
      have hleads : graph.LeadsTo dependency edge.target := by
        obtain ⟨other, hother, hleads, _⟩ := mem_links_row.1 hedge
        have hposition : edge.dependency = position := by simpa using List.find?_some hfind
        rw [hposition, hget, Option.some.injEq] at hother
        exact hother ▸ hleads
      have hiff := graph.links.cycleOf?_isSome_iff hedge
      rw [Option.bind_some]
      have hcircular : (graph.links.cycleOf? graph.links.components i edge).isSome = true ↔
          ∃ j, graph.LeadsTo dependency j ∧ Relation.ReflTransGen graph.Joins j i := by
        rw [hiff, Links.Reaches, links_joins]
        constructor
        · exact fun h => ⟨edge.target, hleads, h⟩
        · rintro ⟨j, hj, hreach⟩
          exact (hleads.2.unique hj.2) ▸ hreach
      cases hcycle : graph.links.cycleOf? graph.links.components i edge with
      | none =>
          rw [hcycle] at hcircular
          refine ⟨rfl, hcircular, ?_, ?_, List.nodup_nil⟩
          · exact ⟨fun h => absurd rfl h, fun h => by cases h⟩
          · exact fun j _ h => by cases h
      | some cycle =>
          rw [hcycle] at hcircular
          obtain ⟨path, hshortest, hnodup, rfl⟩ := Links.cycleOf?_eq_some hedge hcycle
          rw [links_joins] at hshortest
          rw [links_nameAt]
          refine ⟨rfl, hcircular, ⟨fun _ => rfl, fun _ => ?_⟩, fun j hj _ => ?_, ?_⟩
          · exact fun h => hshortest.1.ne_nil (List.map_eq_nil_iff.1 h)
          · exact ⟨path, (hleads.2.unique hj.2) ▸ hshortest, rfl⟩
          · exact nodup_map_sourceAt hleads hshortest.1 hnodup

/-! ## Marking a graph -/

def withDependencies (graph : Graph) (dependencies : graph.Position → List Dependency) : Graph :=
  { graph with
    modules := List.ofFn fun i => { graph.moduleAt i with dependencies := dependencies i } }

def markedDependencies (graph : Graph) (i : graph.Position) : List Dependency :=
  markCycles (graph.links.cycleOf? graph.links.components i) 0 (graph.moduleAt i).dependencies
    (graph.links.row i)

theorem forall₂_markedDependencies (graph : Graph) (i : graph.Position) :
    List.Forall₂ (graph.IsCycleMark i) (graph.moduleAt i).dependencies
      (graph.markedDependencies i) := by
  rw [markedDependencies, markCycles_eq_mapIdx _ _ _ _ (graph.links_row_pairwise i) (by simp),
    List.forall₂_iff_get]
  refine ⟨by simp, fun position hposition hmarked => ?_⟩
  have hget := List.getElem?_eq_getElem hposition
  simpa using isCycleMark_withCycle hget

theorem withCycles_eq (graph : Graph) :
    graph.withCycles = graph.withDependencies graph.markedDependencies := by
  unfold withCycles withDependencies
  simp only [moduleVector_get, Vector.toList_ofFn, markedDependencies]

theorem exists_withCycles_eq (graph : Graph) :
    ∃ marked : graph.Position → List Dependency,
      (∀ i, List.Forall₂ (graph.IsCycleMark i) (graph.moduleAt i).dependencies (marked i)) ∧
        graph.withCycles = graph.withDependencies marked :=
  ⟨_, graph.forall₂_markedDependencies, graph.withCycles_eq⟩

def cycleMarked {n : Nat} (modules : Vector Module n) : Vector Module n :=
  let links := Links.ofModules modules
  Vector.ofFn fun i =>
    { modules.get i with
      dependencies := markCycles (links.cycleOf? links.components i) 0 (modules.get i).dependencies
        (links.row i) }

theorem withCycles_eq_cycleMarked {graph : Graph} {n : Nat} {modules : Vector Module n}
    (h : modules.toList = graph.modules) :
    graph.withCycles = { graph with modules := (cycleMarked modules).toList } :=
  of_toList_eq h (P := fun modules =>
    graph.withCycles = { graph with modules := (cycleMarked modules).toList }) rfl

end Graph

def Module.withoutCycles (m : Module) : Module :=
  { m with dependencies := m.dependencies.map fun dependency => dependency.withCycle none }

def Graph.withoutCycles (graph : Graph) : Graph :=
  { graph with modules := graph.modules.map Module.withoutCycles }

namespace Graph

/-- Marking passes over what it does not look at. -/
theorem markCycles_map {n : Nat} (cycle? : Edge n → Option (List String))
    {f g : Dependency → Dependency}
    (h : ∀ dependency cycle, (f dependency).withCycle cycle = g (dependency.withCycle cycle))
    (position : Nat) (dependencies : List Dependency) (edges : List (Edge n)) :
    markCycles cycle? position (dependencies.map f) edges =
      (markCycles cycle? position dependencies edges).map g := by
  induction dependencies generalizing position edges with
  | nil => rfl
  | cons dependency rest ih =>
      cases edges with
      | nil => simp only [List.map_cons, markCycles, ih, h]
      | cons edge edges =>
          simp only [List.map_cons, markCycles, ih, h]
          split <;> rfl

theorem markCycles_map_withCycle {n : Nat} (cycle? : Edge n → Option (List String))
    (position : Nat) (dependencies : List Dependency) (edges : List (Edge n)) :
    markCycles cycle? position
        (dependencies.map fun dependency => dependency.withCycle none) edges =
      markCycles cycle? position dependencies edges := by
  have hmap := markCycles_map cycle? (f := fun dependency => dependency.withCycle none) (g := id)
    (fun _ _ => rfl) position dependencies edges
  rwa [List.map_id] at hmap

theorem cycleMarked_map_withoutCycles {n : Nat} (modules : Vector Module n) :
    cycleMarked (modules.map Module.withoutCycles) = cycleMarked modules := by
  have hlinks : Links.ofModules (modules.map Module.withoutCycles) = Links.ofModules modules := by
    refine Links.ofModules_congr (fun i => ?_) (fun i => ?_)
    · simp [Module.withoutCycles]
    · simp [Module.withoutCycles, Function.comp_def, Dependency.edgeData, Dependency.withCycle]
  unfold cycleMarked
  rw [hlinks]
  refine congrArg Vector.ofFn (funext fun i => ?_)
  simp only [Vector.get_map, Module.withoutCycles, markCycles_map_withCycle]

theorem withCycles_withoutCycles (graph : Graph) :
    graph.withoutCycles.withCycles = graph.withCycles := by
  have hmodules : (graph.moduleVector.map Module.withoutCycles).toList =
      graph.withoutCycles.modules := by
    simp [withoutCycles, moduleVector]
  rw [withCycles_eq_cycleMarked hmodules, cycleMarked_map_withoutCycles]
  rfl

/-- The marks are those of the cycles in the graph, and the marks on the input make no
difference. -/
theorem withCycles_exact (graph : Graph) :
    (∃ marked : graph.Position → List Dependency,
      (∀ i, List.Forall₂ (graph.IsCycleMark i) (graph.moduleAt i).dependencies (marked i)) ∧
        graph.withCycles = graph.withDependencies marked) ∧
      ∀ other : Graph, other.withoutCycles = graph.withoutCycles →
        other.withCycles = graph.withCycles := by
  refine ⟨graph.exists_withCycles_eq, fun other hother => ?_⟩
  rw [← withCycles_withoutCycles other, hother, withCycles_withoutCycles]

end Graph

end DependencyRules
