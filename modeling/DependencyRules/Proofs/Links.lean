import DependencyRules.Graph.Links
import DependencyRules.Proofs.Lists
import Mathlib

/-!
# Edges of a graph

An edge of a graph is a dependency that was resolved to the source of one of its modules; of
several modules with that source it leads to the last. The links of a graph hold exactly these
edges, in the order of the dependencies.
-/

namespace DependencyRules

/-! ## Paths -/

/-- A path from one point to another along a relation, both ends included. -/
structure IsPath {α : Type} (R : α → α → Prop) (start goal : α) (path : List α) : Prop where
  chain : path.IsChain R
  head : path.head? = some start
  last : path.getLast? = some goal

def IsShortestPath {α : Type} (R : α → α → Prop) (start goal : α) (path : List α) : Prop :=
  IsPath R start goal path ∧ ∀ other, IsPath R start goal other → path.length ≤ other.length

section Paths

variable {α : Type} {R S : α → α → Prop} {start goal : α} {path : List α}

theorem isPath_singleton (R : α → α → Prop) (start : α) : IsPath R start start [start] :=
  ⟨List.isChain_singleton _, rfl, rfl⟩

theorem IsPath.ne_nil (h : IsPath R start goal path) : path ≠ [] := by
  rintro rfl
  cases h.head

theorem IsPath.cons (h : IsPath R start goal path) {before : α} (hstep : R before start) :
    IsPath R before goal (before :: path) := by
  obtain ⟨hchain, hhead, hlast⟩ := h
  cases path with
  | nil => cases hhead
  | cons x rest =>
      obtain rfl : x = start := Option.some.inj hhead
      exact ⟨hchain.cons_cons hstep, rfl, by rwa [List.getLast?_cons_cons]⟩

/-- A path between different points starts with a step. -/
theorem IsPath.exists_cons (h : IsPath R start goal path) (hne : start ≠ goal) :
    ∃ next rest, path = start :: rest ∧ R start next ∧ IsPath R next goal rest := by
  obtain ⟨hchain, hhead, hlast⟩ := h
  cases path with
  | nil => cases hhead
  | cons x rest =>
      obtain rfl : x = start := Option.some.inj hhead
      cases rest with
      | nil => exact absurd (Option.some.inj hlast) hne
      | cons next rest =>
          rw [List.isChain_cons_cons] at hchain
          rw [List.getLast?_cons_cons] at hlast
          exact ⟨next, next :: rest, rfl, hchain.1, hchain.2, rfl, hlast⟩

theorem IsPath.goal_mem (h : IsPath R start goal path) : goal ∈ path :=
  List.mem_of_getLast? h.last

/-- What holds at the start and is carried along the relation holds all along a path. -/
theorem IsPath.forall_mem (h : IsPath R start goal path) {P : α → Prop}
    (carries : ∀ x y, R x y → P x → P y) (hstart : P start) : ∀ x ∈ path, P x := by
  refine h.chain.induction P path (fun x y => carries x y) fun hne => ?_
  have hhead : path.head hne = start :=
    Option.some.inj ((List.head?_eq_some_head hne).symm.trans h.head)
  rw [hhead]
  exact hstart

/-- What holds at the goal and is carried back along the relation holds all along a path. -/
theorem IsPath.forall_mem_back (h : IsPath R start goal path) {P : α → Prop}
    (carries : ∀ x y, R x y → P y → P x) (hgoal : P goal) : ∀ x ∈ path, P x := by
  refine h.chain.backwards_induction P path (fun x y => carries x y) fun hne => ?_
  have hlast : path.getLast hne = goal :=
    Option.some.inj ((List.getLast?_eq_some_getLast hne).symm.trans h.last)
  rw [hlast]
  exact hgoal

theorem IsPath.reaches_mem (h : IsPath R start goal path) {x : α} (hx : x ∈ path) :
    Relation.ReflTransGen R start x :=
  h.forall_mem (P := Relation.ReflTransGen R start) (fun _ _ hstep hreach => hreach.tail hstep)
    .refl x hx

theorem IsPath.mem_reaches (h : IsPath R start goal path) {x : α} (hx : x ∈ path) :
    Relation.ReflTransGen R x goal :=
  h.forall_mem_back (P := fun y => Relation.ReflTransGen R y goal)
    (fun _ _ hstep hreach => hreach.head hstep) .refl x hx

theorem exists_isPath (h : Relation.ReflTransGen R start goal) :
    ∃ path, IsPath R start goal path := by
  obtain ⟨path, hne, hchain, hhead, hlast⟩ :=
    List.exists_isChain_ne_nil_of_relationReflTransGen h
  refine ⟨path, hchain, ?_, ?_⟩
  · rw [List.head?_eq_some_head hne, hhead]
  · rw [List.getLast?_eq_some_getLast hne, hlast]

theorem IsPath.imp_of_mem (h : IsPath R start goal path)
    (himp : ∀ x ∈ path, ∀ y ∈ path, R x y → S x y) : IsPath S start goal path :=
  ⟨h.chain.imp_of_mem_imp fun x y hx hy hxy => himp x hx y hy hxy, h.head, h.last⟩

end Paths

/-! ## Edges -/

namespace Graph

abbrev Position (graph : Graph) := Fin graph.modules.length

def moduleAt (graph : Graph) (i : graph.Position) : Module := graph.modules.get i

def sourceAt (graph : Graph) (i : graph.Position) : String := (graph.moduleAt i).source

def IsLast (graph : Graph) (source : String) (j : graph.Position) : Prop :=
  graph.sourceAt j = source ∧ ∀ k, j < k → graph.sourceAt k ≠ source

def LeadsTo (graph : Graph) (dependency : Dependency) (j : graph.Position) : Prop :=
  dependency.couldNotResolve = false ∧ graph.IsLast dependency.resolved j

/-- Some dependency of one module leads to another. -/
def Joins (graph : Graph) (i j : graph.Position) : Prop :=
  ∃ dependency ∈ (graph.moduleAt i).dependencies, graph.LeadsTo dependency j

/-- Some dependency of one module leads to another and is followed: it is followable and not
dynamic. -/
def Follows (graph : Graph) (i j : graph.Position) : Prop :=
  ∃ dependency ∈ (graph.moduleAt i).dependencies,
    dependency.followable = true ∧ dependency.isDynamic = false ∧ graph.LeadsTo dependency j

theorem IsLast.unique {graph : Graph} {source : String} {i j : graph.Position}
    (hi : graph.IsLast source i) (hj : graph.IsLast source j) : i = j := by
  rcases lt_trichotomy i j with h | h | h
  · exact absurd hj.1 (hi.2 j h)
  · exact h
  · exact absurd hi.1 (hj.2 i h)

/-- A module that some edge leads to is the last one with its source. -/
theorem LeadsTo.isLast {graph : Graph} {dependency : Dependency} {j : graph.Position}
    (h : graph.LeadsTo dependency j) : graph.IsLast (graph.sourceAt j) j := by
  obtain ⟨_, hsource, hlast⟩ := h
  exact ⟨rfl, fun k hk => hsource ▸ hlast k hk⟩

theorem Joins.isLast {graph : Graph} {i j : graph.Position} (h : graph.Joins i j) :
    graph.IsLast (graph.sourceAt j) j := by
  obtain ⟨dependency, _, hleads⟩ := h
  exact hleads.isLast

theorem Follows.joins {graph : Graph} {i j : graph.Position} (h : graph.Follows i j) :
    graph.Joins i j := by
  obtain ⟨dependency, hmem, _, _, hleads⟩ := h
  exact ⟨dependency, hmem, hleads⟩

@[simp] theorem moduleVector_get (graph : Graph) (i : graph.Position) :
    graph.moduleVector.get i = graph.moduleAt i := by
  simp [moduleVector, moduleAt, Vector.get_eq_getElem]

theorem ofFn_moduleAt (graph : Graph) : List.ofFn graph.moduleAt = graph.modules :=
  List.ofFn_get graph.modules

/-- What holds of the modules of a graph by position holds of any vector that lists them. -/
theorem of_toList_eq {graph : Graph} {n : Nat} {modules : Vector Module n}
    (h : modules.toList = graph.modules) {P : {n : Nat} → Vector Module n → Prop}
    (hvector : P graph.moduleVector) : P modules := by
  have hn : n = graph.modules.length := by
    rw [← h, Vector.length_toList]
  subst hn
  obtain rfl : modules = graph.moduleVector := Vector.toList_inj.1 h
  exact hvector

/-! ## Positions -/

theorem getElem?_foldl_insert {n : Nat} (sources : Vector String n) (source : String)
    (indices : List (Fin n)) (positions : Std.TreeMap String (Fin n)) :
    (indices.foldl (fun positions i => positions.insert (sources.get i) i) positions)[source]? =
      (indices.reverse.find? fun i => sources.get i = source).or positions[source]? := by
  induction indices generalizing positions with
  | nil => simp
  | cons i rest ih =>
      rw [List.foldl_cons, ih, List.reverse_cons, List.find?_append, Option.or_assoc,
        Std.TreeMap.getElem?_insert, List.find?_singleton]
      by_cases hi : sources.get i = source
      · rw [if_pos (Std.compare_eq_iff_eq.2 hi), if_pos (decide_eq_true hi), Option.some_or]
      · rw [if_neg (fun h => hi (Std.compare_eq_iff_eq.1 h)), if_neg (by simpa using hi),
          Option.none_or]

theorem lastPositions_eq_some_iff {n : Nat} (sources : Vector String n) (source : String)
    (j : Fin n) :
    (lastPositions sources)[source]? = some j ↔
      sources.get j = source ∧ ∀ k, j < k → sources.get k ≠ source := by
  have hsorted : (List.finRange n).reverse.Pairwise (· > ·) := by
    rw [List.pairwise_reverse]
    exact List.pairwise_lt_finRange n
  rw [lastPositions, getElem?_foldl_insert, Std.TreeMap.getElem?_emptyc, Option.or_none,
    find?_eq_some_iff_of_pairwise hsorted]
  simp

/-! ## Rows -/

theorem mem_edgesOf {n : Nat} {positions : Std.TreeMap String (Fin n)} {m : Module}
    {edge : Edge n} :
    edge ∈ edgesOf positions m ↔
      ∃ dependency, m.dependencies[edge.dependency]? = some dependency ∧
        dependency.couldNotResolve = false ∧
        positions[dependency.resolved]? = some edge.target ∧
        edge.followable = (dependency.followable && !dependency.isDynamic) := by
  simp only [edgesOf, List.mem_filterMap, Prod.exists, List.mem_zipIdx_iff_getElem?]
  constructor
  · rintro ⟨dependency, position, hget, hedge⟩
    cases hresolve : dependency.couldNotResolve with
    | true => simp [hresolve] at hedge
    | false =>
        simp only [hresolve, Bool.false_eq_true, if_false, Option.map_eq_some_iff] at hedge
        obtain ⟨target, htarget, rfl⟩ := hedge
        exact ⟨dependency, hget, hresolve, htarget, rfl⟩
  · rintro ⟨dependency, hget, hresolve, htarget, hfollow⟩
    refine ⟨dependency, edge.dependency, hget, ?_⟩
    rw [hresolve, htarget, ← hfollow]
    rfl

/-- The edges of a module stand in the order of its dependencies, one at most for each. -/
theorem edgesOf_pairwise {n : Nat} (positions : Std.TreeMap String (Fin n)) (m : Module) :
    (edgesOf positions m).Pairwise fun a b => a.dependency < b.dependency := by
  have hindices : m.dependencies.zipIdx.Pairwise fun a b => a.2 < b.2 := by
    rw [← List.pairwise_map (f := Prod.snd), List.zipIdx_map_snd]
    exact List.pairwise_lt_range'
  unfold edgesOf
  refine hindices.filterMap _ fun a b hab edge hedge edge' hedge' => ?_
  have key : ∀ (c : Dependency × Nat) (e : Edge n),
      (if c.1.couldNotResolve then none
        else positions[c.1.resolved]?.map fun target =>
          ({ dependency := c.2, target, followable := c.1.followable && !c.1.isDynamic } :
            Edge n)) = some e → e.dependency = c.2 := by
    intro c e h
    split at h
    · cases h
    · obtain ⟨target, _, rfl⟩ := Option.map_eq_some_iff.1 h
      rfl
  rw [key a edge hedge, key b edge' hedge']
  exact hab

@[simp] theorem links_nameAt (graph : Graph) : graph.links.nameAt = graph.sourceAt := by
  funext i
  simp only [links, Links.nameAt, sourceAt, Vector.get_map, moduleVector_get]

theorem links_row (graph : Graph) (i : graph.Position) :
    graph.links.row i = edgesOf graph.links.positions (graph.moduleAt i) := by
  simp only [links, Links.row, Vector.get_map, moduleVector_get]

/-- A source stands for the last position that has it. -/
theorem links_position?_eq_some_iff (graph : Graph) (source : String) (j : graph.Position) :
    graph.links.position? source = some j ↔ graph.IsLast source j := by
  unfold Links.position? links IsLast
  rw [lastPositions_eq_some_iff]
  simp only [sourceAt, Vector.get_map, moduleVector_get]

/-- The row of a module holds its edges and nothing else. -/
theorem mem_links_row {graph : Graph} {i : graph.Position} {edge : Edge graph.modules.length} :
    edge ∈ graph.links.row i ↔
      ∃ dependency, (graph.moduleAt i).dependencies[edge.dependency]? = some dependency ∧
        graph.LeadsTo dependency edge.target ∧
        edge.followable = (dependency.followable && !dependency.isDynamic) := by
  rw [links_row, mem_edgesOf]
  simp only [LeadsTo, ← links_position?_eq_some_iff, Links.position?, and_assoc]

theorem links_row_pairwise (graph : Graph) (i : graph.Position) :
    (graph.links.row i).Pairwise fun a b => a.dependency < b.dependency := by
  rw [links_row]
  exact edgesOf_pairwise _ _

end Graph

namespace Dependency

/-- What the edge of a dependency depends on. -/
def edgeData (dependency : Dependency) : String × Bool × Bool :=
  (dependency.resolved, dependency.couldNotResolve,
    dependency.followable && !dependency.isDynamic)

end Dependency

namespace Graph

theorem edgesOf_congr {n : Nat} (positions : Std.TreeMap String (Fin n)) {m m' : Module}
    (h : m.dependencies.map Dependency.edgeData = m'.dependencies.map Dependency.edgeData) :
    edgesOf positions m = edgesOf positions m' := by
  have key : ∀ m : Module, edgesOf positions m =
      (m.dependencies.map Dependency.edgeData).zipIdx.filterMap fun (data, position) =>
        if data.2.1 then none
        else positions[data.1]?.map fun target =>
          { dependency := position, target, followable := data.2.2 } := by
    intro m
    rw [List.zipIdx_map, List.filterMap_map]
    rfl
  rw [key, key, h]

end Graph

namespace Links

variable {n : Nat}

def ofModules (modules : Vector Module n) : Links n :=
  let sources := modules.map Module.source
  let positions := Graph.lastPositions sources
  { sources, positions, rows := modules.map (Graph.edgesOf positions) }

/-- The links depend on the sources and on the edges of the modules alone. -/
theorem ofModules_congr {modules modules' : Vector Module n}
    (hsource : ∀ i : Fin n, (modules.get i).source = (modules'.get i).source)
    (hedges : ∀ i : Fin n, (modules.get i).dependencies.map Dependency.edgeData =
      (modules'.get i).dependencies.map Dependency.edgeData) :
    ofModules modules = ofModules modules' := by
  have hsources : modules.map Module.source = modules'.map Module.source :=
    map_eq_map_of_get hsource
  have hrows : ∀ positions : Std.TreeMap String (Fin n),
      modules.map (Graph.edgesOf positions) = modules'.map (Graph.edgesOf positions) :=
    fun positions => map_eq_map_of_get fun i => Graph.edgesOf_congr positions (hedges i)
  unfold ofModules
  rw [hsources]
  dsimp only
  rw [hrows]

def Joins (links : Links n) (i j : Fin n) : Prop := ∃ edge ∈ links.row i, edge.target = j

/-- Some edge of one module leads to another and is followed beyond the first step of a walk. -/
def Follows (links : Links n) (i j : Fin n) : Prop :=
  ∃ edge ∈ links.row i, edge.target = j ∧ edge.followable = true

abbrev Reaches (links : Links n) : Fin n → Fin n → Prop := Relation.ReflTransGen links.Joins

end Links

namespace Graph

theorem links_eq_ofModules (graph : Graph) :
    graph.links = Links.ofModules graph.moduleVector := rfl

theorem links_joins_iff {graph : Graph} {i j : graph.Position} :
    graph.links.Joins i j ↔ graph.Joins i j := by
  constructor
  · rintro ⟨edge, hedge, rfl⟩
    obtain ⟨dependency, hget, hleads, _⟩ := mem_links_row.1 hedge
    exact ⟨dependency, List.mem_of_getElem? hget, hleads⟩
  · rintro ⟨dependency, hmem, hleads⟩
    obtain ⟨position, hget⟩ := List.getElem?_of_mem hmem
    exact ⟨⟨position, j, dependency.followable && !dependency.isDynamic⟩,
      mem_links_row.2 ⟨dependency, hget, hleads, rfl⟩, rfl⟩

theorem links_follows_iff {graph : Graph} {i j : graph.Position} :
    graph.links.Follows i j ↔ graph.Follows i j := by
  constructor
  · rintro ⟨edge, hedge, rfl, hfollow⟩
    obtain ⟨dependency, hget, hleads, heq⟩ := mem_links_row.1 hedge
    rw [hfollow] at heq
    have hboth : dependency.followable = true ∧ dependency.isDynamic = false := by
      simpa using heq.symm
    exact ⟨dependency, List.mem_of_getElem? hget, hboth.1, hboth.2, hleads⟩
  · rintro ⟨dependency, hmem, hfollow, hstatic, hleads⟩
    obtain ⟨position, hget⟩ := List.getElem?_of_mem hmem
    exact ⟨⟨position, j, true⟩,
      mem_links_row.2 ⟨dependency, hget, hleads, by simp [hfollow, hstatic]⟩, rfl, rfl⟩

theorem links_joins (graph : Graph) : graph.links.Joins = graph.Joins := by
  funext i j
  exact propext links_joins_iff

end Graph

end DependencyRules
