import DependencyRules.Proofs.Cycles
import DependencyRules.Proofs.Reachability

/-!
# Modules numbered anew

The place of a module in the list is its number in a walk, and nothing else. When modules are
numbered anew, the edges of each module keep their order, so an exploration finds the same modules
in the same order and by the same ways. Components may be closed in another order, but the same
modules share one. Hence cycles and routes stay as they are.
-/

namespace DependencyRules

namespace Edge

/-- An edge when modules are numbered anew. -/
def renumbered {n m : Nat} (σ : Fin n ≃ Fin m) (edge : Edge n) : Edge m :=
  { dependency := edge.dependency, target := σ edge.target, followable := edge.followable }

end Edge

namespace Links

variable {n m : Nat}

/-- The same links between modules that are numbered anew. -/
structure IsRenumbering (σ : Fin n ≃ Fin m) (links : Links n) (other : Links m) : Prop where
  nameAt_eq : ∀ i, other.nameAt (σ i) = links.nameAt i
  row_eq : ∀ i, other.row (σ i) = (links.row i).map (Edge.renumbered σ)

section Renumbering

variable {σ : Fin n ≃ Fin m} {links : Links n} {other : Links m}

theorem IsRenumbering.joins_iff (h : IsRenumbering σ links other) {i j : Fin n} :
    other.Joins (σ i) (σ j) ↔ links.Joins i j := by
  unfold Joins
  rw [h.row_eq]
  simp [Edge.renumbered]

theorem IsRenumbering.reaches_iff (h : IsRenumbering σ links other) {i j : Fin n} :
    other.Reaches (σ i) (σ j) ↔ links.Reaches i j := by
  constructor
  · intro hreach
    have hstep : ∀ x y, other.Joins x y → links.Joins (σ.symm x) (σ.symm y) := by
      intro x y hxy
      rw [← h.joins_iff, σ.apply_symm_apply, σ.apply_symm_apply]
      exact hxy
    have hback : links.Reaches (σ.symm (σ i)) (σ.symm (σ j)) := hreach.lift σ.symm hstep
    rwa [σ.symm_apply_apply, σ.symm_apply_apply] at hback
  · exact fun hreach => hreach.lift σ fun _ _ hxy => h.joins_iff.2 hxy

/-- Modules share a component exactly if they did before. -/
theorem IsRenumbering.components_eq_iff (h : IsRenumbering σ links other) {i j : Fin n} :
    other.components.get (σ i) = other.components.get (σ j) ↔
      links.components.get i = links.components.get j := by
  rw [Links.components_eq_iff, Links.components_eq_iff, h.reaches_iff, h.reaches_iff]

/-! ## Explorations -/

theorem firstWays_map {seen : Vector Bool n} {seen' : Vector Bool m}
    (hseen : ∀ x, seen'.get (σ x) = seen.get x) (ways : List (Way n)) :
    firstWays seen' (ways.map (List.map σ)) = (firstWays seen ways).map (List.map σ) := by
  induction ways generalizing seen seen' with
  | nil => rfl
  | cons way rest ih =>
      cases way with
      | nil => exact ih hseen
      | cons node before =>
          have hset : ∀ x, (seen'.set (σ node) true (σ node).isLt).get (σ x) =
              (seen.set node true node.isLt).get x := by
            intro x
            simp only [get_set_fin, hseen, σ.injective.eq_iff]
          simp only [List.map_cons, firstWays, hseen]
          split
          · exact ih hseen
          · rw [ih hset, List.map_cons, List.map_cons]

section Explorations

variable {admissible : Fin n → Edge n → Bool} {admissible' : Fin m → Edge m → Bool}

theorem IsRenumbering.extensions_map (h : IsRenumbering σ links other)
    (hadmissible : ∀ i edge, admissible' (σ i) (edge.renumbered σ) = admissible i edge)
    (way : Way n) :
    extensions other admissible' (way.map σ) =
      (extensions links admissible way).map (List.map σ) := by
  cases way with
  | nil => rfl
  | cons node before =>
      have hfilter : (admissible' (σ node)) ∘ Edge.renumbered σ = admissible node := by
        funext edge
        exact hadmissible node edge
      simp only [List.map_cons, extensions, h.row_eq, List.filter_map, hfilter, List.map_map]
      rfl

/-- One round: it finds the same ways, and the same modules have been seen after it. -/
theorem IsRenumbering.extendAll_map (h : IsRenumbering σ links other)
    (hadmissible : ∀ i edge, admissible' (σ i) (edge.renumbered σ) = admissible i edge)
    {seen : Vector Bool n} {seen' : Vector Bool m} (hseen : ∀ x, seen'.get (σ x) = seen.get x)
    (ways : List (Way n)) :
    (extendAll other admissible' (ways.map (List.map σ)) ⟨seen', []⟩).found.reverse =
        (extendAll links admissible ways ⟨seen, []⟩).found.reverse.map (List.map σ) ∧
      ∀ x, (extendAll other admissible' (ways.map (List.map σ)) ⟨seen', []⟩).seen.get (σ x) =
        (extendAll links admissible ways ⟨seen, []⟩).seen.get x := by
  have hextensions : (ways.map (List.map σ)).flatMap (extensions other admissible') =
      (ways.flatMap (extensions links admissible)).map (List.map σ) := by
    rw [List.flatMap_map, List.map_flatMap]
    exact List.flatMap_congr fun way _ => h.extensions_map hadmissible way
  rw [extendAll_eq_foldl, extendAll_eq_foldl, hextensions]
  constructor
  · rw [foldl_take_found, foldl_take_found, firstWays_map hseen, List.map_append]
    rfl
  · intro x
    rw [Bool.eq_iff_iff, foldl_take_seen, foldl_take_seen, firstWays_map hseen, hseen]
    have hhead : ∀ way : Way n, (way.map σ).head? = some (σ x) ↔ way.head? = some x := by
      intro way
      cases way <;> simp
    simp only [List.mem_map, exists_exists_and_eq_and, hhead]

variable {stop : Fin n → Bool} {stop' : Fin m → Bool}

theorem IsRenumbering.rounds_map (h : IsRenumbering σ links other)
    (hadmissible : ∀ i edge, admissible' (σ i) (edge.renumbered σ) = admissible i edge)
    (hstop : ∀ x, stop' (σ x) = stop x) (fuel : Nat) {seen : Vector Bool n}
    {seen' : Vector Bool m} (hseen : ∀ x, seen'.get (σ x) = seen.get x) (ways : List (Way n)) :
    rounds other admissible' stop' fuel seen' (ways.map (List.map σ)) =
      (rounds links admissible stop fuel seen ways).map (List.map σ) := by
  induction fuel generalizing seen seen' ways with
  | zero => rfl
  | succ fuel ih =>
      obtain ⟨hfound, hnext⟩ := h.extendAll_map hadmissible hseen ways
      have hstops : ∀ way : Way n, (way.map σ).head?.any stop' = way.head?.any stop := by
        intro way
        cases way <;> simp [hstop]
      unfold rounds
      simp only [hfound, List.isEmpty_map, List.any_map, Function.comp_def, hstops, ih hnext]
      split
      · rfl
      · split
        · rfl
        · rw [List.map_append]

theorem IsRenumbering.explore_map (h : IsRenumbering σ links other)
    (hadmissible : ∀ i edge, admissible' (σ i) (edge.renumbered σ) = admissible i edge)
    (hstop : ∀ x, stop' (σ x) = stop x) (root : Fin n) :
    other.explore admissible' stop' (σ root) =
      (links.explore admissible stop root).map (List.map σ) := by
  -- There are as many modules as before, so both explorations may go on for as many rounds.
  obtain rfl : n = m := Fin.equiv_iff_eq.1 ⟨σ⟩
  have hseen : ∀ x, ((Vector.replicate n false).set (σ root) true (σ root).isLt).get (σ x) =
      ((Vector.replicate n false).set root true root.isLt).get x := by
    intro x
    simp [get_set_fin]
  exact h.rounds_map hadmissible hstop n hseen [[root]]

end Explorations

/-! ## Cycles and walks -/

theorem IsRenumbering.wayBack_map (h : IsRenumbering σ links other) (start goal : Fin n) :
    other.wayBack other.components (σ start) (σ goal) =
      (links.wayBack links.components start goal).map σ := by
  unfold wayBack
  by_cases heq : start = goal
  · rw [if_pos heq, if_pos (congrArg σ heq)]
    rfl
  · rw [if_neg heq, if_neg fun hσ => heq (σ.injective hσ)]
    -- The numbers of the components differ, but the search asks only whether two of them are equal.
    have hways : other.explore
          (fun _ edge => other.components.get edge.target = other.components.get (σ start))
          (· = σ goal) (σ start) =
        (links.explore
          (fun _ edge => links.components.get edge.target = links.components.get start)
          (· = goal) start).map (List.map σ) :=
      h.explore_map (fun _ edge => decide_eq_decide.2 h.components_eq_iff)
        (fun x => decide_eq_decide.2 σ.injective.eq_iff) start
    have hhead : ∀ way : Way n, decide ((way.map σ).head? = some (σ goal)) =
        decide (way.head? = some goal) := by
      intro way
      cases way <;> simp
    dsimp only
    rw [hways, List.find?_map]
    simp only [Function.comp_def, hhead]
    cases (links.explore _ _ start).find? _ with
    | none => rfl
    | some way => exact List.map_reverse.symm

theorem IsRenumbering.cycleOf?_eq (h : IsRenumbering σ links other) (node : Fin n)
    (edge : Edge n) :
    other.cycleOf? other.components (σ node) (edge.renumbered σ) =
      links.cycleOf? links.components node edge := by
  have hnames : ∀ path : List (Fin n), (path.map σ).map other.nameAt = path.map links.nameAt := by
    intro path
    rw [List.map_map]
    exact List.map_congr_left fun i _ => h.nameAt_eq i
  unfold cycleOf?
  simp only [Edge.renumbered, σ.injective.eq_iff, h.components_eq_iff, h.wayBack_map, hnames]

theorem IsRenumbering.waysFrom_map (h : IsRenumbering σ links other) (root : Fin n) :
    other.waysFrom (σ root) = (links.waysFrom root).map (List.map σ) := by
  refine h.explore_map (fun i edge => ?_) (fun _ => rfl) root
  simp [isTaken, Edge.renumbered]

theorem Way.steps_map (way : Way n) : Way.steps (way.map σ) = (Way.steps way).map σ := by
  simp [Way.steps, List.map_dropLast]

end Renumbering

end Links

namespace Graph

/-- The modules of a graph with distinct sources, at other positions. -/
structure IsRearrangement {graph other : Graph} (σ : graph.Position ≃ other.Position) :
    Prop where
  moduleAt_eq : ∀ i, other.moduleAt (σ i) = graph.moduleAt i
  injective : Function.Injective graph.sourceAt

theorem isLast_iff_of_injective {graph : Graph} (h : Function.Injective graph.sourceAt)
    {source : String} {j : graph.Position} :
    graph.IsLast source j ↔ graph.sourceAt j = source := by
  refine ⟨And.left, fun hsource => ⟨hsource, fun k hk heq => ?_⟩⟩
  exact (ne_of_lt hk) (h (hsource.trans heq.symm))

theorem markCycles_renumbered {n m : Nat} {σ : Fin n ≃ Fin m}
    {cycle? : Edge n → Option (List String)} {cycle?' : Edge m → Option (List String)}
    (h : ∀ edge, cycle?' (edge.renumbered σ) = cycle? edge) (position : Nat)
    (dependencies : List Dependency) (edges : List (Edge n)) :
    markCycles cycle?' position dependencies (edges.map (Edge.renumbered σ)) =
      markCycles cycle? position dependencies edges := by
  induction dependencies generalizing position edges with
  | nil => rfl
  | cons dependency rest ih =>
      cases edges with
      | nil =>
          have hrest := ih (position + 1) []
          rw [List.map_nil] at hrest ⊢
          rw [markCycles, markCycles, hrest]
      | cons edge edges =>
          have hlater := ih (position + 1) (edge :: edges)
          rw [List.map_cons] at hlater ⊢
          rw [markCycles, markCycles, ih, hlater, h]
          rfl

section Rearrangement

variable {graph other : Graph} {σ : graph.Position ≃ other.Position}

theorem IsRearrangement.sourceAt_eq (h : IsRearrangement σ) (i : graph.Position) :
    other.sourceAt (σ i) = graph.sourceAt i :=
  congrArg Module.source (h.moduleAt_eq i)

theorem IsRearrangement.injective_sourceAt (h : IsRearrangement σ) :
    Function.Injective other.sourceAt := by
  intro x y heq
  obtain ⟨i, rfl⟩ := σ.surjective x
  obtain ⟨j, rfl⟩ := σ.surjective y
  rw [h.sourceAt_eq, h.sourceAt_eq] at heq
  rw [h.injective heq]

/-- A source stands for the same module as before. -/
theorem IsRearrangement.position?_eq (h : IsRearrangement σ) (source : String) :
    other.links.position? source = (graph.links.position? source).map σ := by
  ext j
  obtain ⟨i, rfl⟩ := σ.surjective j
  rw [links_position?_eq_some_iff, isLast_iff_of_injective h.injective_sourceAt, h.sourceAt_eq]
  simp only [Option.map_eq_some_iff, links_position?_eq_some_iff,
    isLast_iff_of_injective h.injective, σ.injective.eq_iff, exists_eq_right]

theorem IsRearrangement.links_isRenumbering (h : IsRearrangement σ) :
    Links.IsRenumbering σ graph.links other.links := by
  refine ⟨fun i => ?_, fun i => ?_⟩
  · rw [links_nameAt, links_nameAt, h.sourceAt_eq]
  · rw [links_row, links_row, h.moduleAt_eq, edgesOf, edgesOf, List.map_filterMap]
    refine List.filterMap_congr fun indexed _ => ?_
    have hposition : other.links.positions[indexed.1.resolved]? =
        graph.links.positions[indexed.1.resolved]?.map σ := h.position?_eq _
    dsimp only
    rw [hposition, apply_ite (Option.map (Edge.renumbered σ)), Option.map_map, Option.map_map]
    rfl

theorem IsRearrangement.markedDependencies_eq (h : IsRearrangement σ) (i : graph.Position) :
    other.markedDependencies (σ i) = graph.markedDependencies i := by
  have hlinks := h.links_isRenumbering
  unfold markedDependencies
  rw [h.moduleAt_eq, hlinks.row_eq]
  exact markCycles_renumbered (hlinks.cycleOf?_eq i) 0 _ _

/-! ## Routes -/

theorem IsRearrangement.ruleWays_map (h : IsRearrangement σ) (rule : PreparedRule)
    (i : graph.Position) :
    other.ruleWays rule (σ i) = (graph.ruleWays rule i).map (List.map σ) := by
  have htarget : ∀ way : Links.Way graph.modules.length,
      ((way.map σ).head?.any fun t => (other.targets rule).get t) =
        way.head?.any fun t => (graph.targets rule).get t := by
    intro way
    cases way with
    | nil => rfl
    | cons t before => simp [h.sourceAt_eq]
  unfold ruleWays RuleReach.targetWays
  rw [h.moduleAt_eq, h.links_isRenumbering.waysFrom_map, List.filter_map]
  simp only [Function.comp_def, htarget]
  split <;> rfl

theorem IsRearrangement.foundRoutes_map (h : IsRearrangement σ) (rule : PreparedRule)
    (i : graph.Position) :
    other.foundRoutes rule (σ i) =
      (graph.foundRoutes rule i).map (Prod.map σ (List.map σ)) := by
  unfold foundRoutes
  rw [h.ruleWays_map, List.filterMap_map, List.map_filterMap]
  refine List.filterMap_congr fun way _ => ?_
  simp only [Function.comp_def, List.head?_map, Option.map_map, Links.Way.steps_map, Prod.map]

theorem IsRearrangement.routesEntry_eq (h : IsRearrangement σ) (heading : String)
    (found : List (graph.Position × List graph.Position)) :
    other.routesEntry heading (found.map (Prod.map σ (List.map σ))) =
      graph.routesEntry heading found := by
  simp [routesEntry, Function.comp_def, h.sourceAt_eq]

theorem IsRearrangement.reachesTable_eq (h : IsRearrangement σ) (rules : PreparedRuleSet)
    (i : graph.Position) :
    other.reachesTable rules other.foundRoutes (σ i) =
      graph.reachesTable rules graph.foundRoutes i := by
  unfold reachesTable
  simp only [h.foundRoutes_map, h.routesEntry_eq, List.isEmpty_map]

/-- Some root is found for a target exactly if one was before. Which one comes first may change. -/
theorem IsRearrangement.isSome_firstRoot?_eq (h : IsRearrangement σ) (rule : PreparedRule)
    (t : graph.Position) :
    (other.firstRoot? rule (σ t)).isSome = (graph.firstRoot? rule t).isSome := by
  have hmem : ∀ root, σ t ∈ (other.foundRoutes rule (σ root)).map Prod.fst ↔
      t ∈ (graph.foundRoutes rule root).map Prod.fst := by
    intro root
    rw [h.foundRoutes_map, List.map_map]
    simp
  unfold firstRoot?
  rw [h.moduleAt_eq]
  split
  · rfl
  · rw [Bool.eq_iff_iff, List.find?_isSome, List.find?_isSome]
    simp only [List.mem_finRange, true_and, decide_eq_true_eq, ← σ.exists_congr_right, hmem]

end Rearrangement

end Graph

end DependencyRules
