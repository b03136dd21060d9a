import DependencyRules.Graph.Reachability
import DependencyRules.Proofs.Exploration

/-!
# Routes

A route leaves a module by any edge and follows followable edges that are not dynamic after that. A
walk from a module takes a shortest route to every other module that some route leads to.
-/

namespace DependencyRules

namespace Graph

/-- A route from one module to another, without the module that it leaves. -/
def IsRoute (graph : Graph) (i t : graph.Position) (path : List graph.Position) : Prop :=
  ∃ j, graph.Joins i j ∧ IsPath graph.Follows j t path

def HasRoute (graph : Graph) (i t : graph.Position) : Prop := ∃ path, graph.IsRoute i t path

def IsShortestRoute (graph : Graph) (i t : graph.Position) (path : List graph.Position) : Prop :=
  graph.IsRoute i t path ∧ ∀ other, graph.IsRoute i t other → path.length ≤ other.length

section Routes

variable {graph : Graph} {i j t x y : graph.Position} {path : List graph.Position}
  {way : Links.Way graph.modules.length}

theorem Joins.stepsTo_isTaken (h : graph.Joins i j) :
    graph.links.StepsTo (Links.isTaken i) i j := by
  obtain ⟨edge, hedge, htarget⟩ := links_joins_iff.2 h
  exact ⟨edge, hedge, by simp [Links.isTaken], htarget⟩

theorem Follows.stepsTo_isTaken (i : graph.Position) (h : graph.Follows x y) :
    graph.links.StepsTo (Links.isTaken i) x y := by
  obtain ⟨edge, hedge, htarget, hfollow⟩ := links_follows_iff.2 h
  exact ⟨edge, hedge, by simp [Links.isTaken, hfollow], htarget⟩

theorem joins_of_stepsTo (h : graph.links.StepsTo (Links.isTaken i) x y) : graph.Joins x y := by
  obtain ⟨edge, hedge, _, htarget⟩ := h
  exact links_joins_iff.1 ⟨edge, hedge, htarget⟩

theorem follows_of_stepsTo (h : graph.links.StepsTo (Links.isTaken i) x y) (hne : x ≠ i) :
    graph.Follows x y := by
  obtain ⟨edge, hedge, htaken, htarget⟩ := h
  have hfollow : edge.followable = true := by simpa [Links.isTaken, hne] using htaken
  exact links_follows_iff.1 ⟨edge, hedge, htarget, hfollow⟩

/-- A route gives a way that a walk can take. -/
theorem IsRoute.isWay (h : graph.IsRoute i t path) :
    graph.links.IsWay (Links.isTaken i) i t (path.reverse ++ [i]) := by
  obtain ⟨j, hjoins, hpath⟩ := h
  rw [Links.isWay_iff, List.reverse_append, List.reverse_reverse]
  have hsteps : IsPath (graph.links.StepsTo (Links.isTaken i)) j t path :=
    hpath.imp_of_mem fun x _ y _ hxy => hxy.stepsTo_isTaken i
  exact hsteps.cons hjoins.stepsTo_isTaken

-- A shortest way does not come back to its root, so it takes followed edges after the first.
theorem isRoute_steps (h : graph.links.IsShortest (Links.isTaken i) i t way) (hne : t ≠ i) :
    way.reverse = i :: way.steps ∧ graph.IsRoute i t way.steps := by
  obtain ⟨j, rest, hrest, hstep, hpath⟩ :=
    (Links.isWay_iff.1 h.1).exists_cons (fun heq => hne heq.symm)
  have hsteps : way.steps = rest := by
    rw [Links.Way.steps, ← List.tail_reverse, hrest, List.tail_cons]
  have hnotin : i ∉ rest := by
    have hnodup : way.reverse.Nodup := List.nodup_reverse.2 h.nodup
    rw [hrest, List.nodup_cons] at hnodup
    exact hnodup.1
  rw [hsteps]
  refine ⟨hrest, j, joins_of_stepsTo hstep, hpath.imp_of_mem fun x hx y _ hxy => ?_⟩
  exact follows_of_stepsTo hxy fun heq => hnotin (heq ▸ hx)

theorem isShortestRoute_steps (h : graph.links.IsShortest (Links.isTaken i) i t way)
    (hne : t ≠ i) :
    graph.IsShortestRoute i t way.steps ∧ way.steps.Nodup ∧ i ∉ way.steps := by
  obtain ⟨hreverse, hroute⟩ := isRoute_steps h hne
  have hnodup : (i :: way.steps).Nodup := hreverse ▸ List.nodup_reverse.2 h.nodup
  rw [List.nodup_cons] at hnodup
  refine ⟨⟨hroute, fun other hother => ?_⟩, hnodup.2, hnodup.1⟩
  have hlength := congrArg List.length hreverse
  have hle := h.2 _ hother.isWay
  simp only [List.length_reverse, List.length_cons, List.length_append, List.length_nil]
    at hlength hle
  omega

theorem hasRoute_iff_isWay (hne : t ≠ i) :
    graph.HasRoute i t ↔ ∃ way, graph.links.IsWay (Links.isTaken i) i t way := by
  constructor
  · rintro ⟨path, hpath⟩
    exact ⟨_, hpath.isWay⟩
  · rintro ⟨way, hway⟩
    obtain ⟨found, hfound, hhead⟩ := Links.exists_mem_explore_iff.2 ⟨hne, way, hway⟩
    obtain ⟨x, _, hshortest⟩ := Links.explore_shortest hfound
    obtain rfl : x = t := by simpa [hshortest.1.head?_eq] using hhead
    exact ⟨_, (isRoute_steps hshortest hne).2⟩

theorem HasRoute.isLast (h : graph.HasRoute i t) : graph.IsLast (graph.sourceAt t) t := by
  obtain ⟨path, j, hjoins, hpath⟩ := h
  exact hpath.forall_mem (P := fun x => graph.IsLast (graph.sourceAt x) x)
    (fun _ _ hxy _ => hxy.joins.isLast) hjoins.isLast t hpath.goal_mem

/-- The route that a walk from one module to another takes. -/
def routeTo (graph : Graph) (i t : graph.Position) : List graph.Position :=
  ((graph.links.waysFrom i).find? fun way => way.head? = some t).elim [] Links.Way.steps

theorem routeTo_eq_steps (hway : way ∈ graph.links.waysFrom i) (hhead : way.head? = some t) :
    graph.routeTo i t = way.steps := by
  have hsome : ((graph.links.waysFrom i).find? fun way => way.head? = some t).isSome := by
    rw [List.find?_isSome]
    exact ⟨way, hway, by simpa using hhead⟩
  obtain ⟨found, hfind⟩ := Option.isSome_iff_exists.1 hsome
  have hfound : found.head? = some t := by simpa using List.find?_some hfind
  -- The walk lists one way for each module.
  have hheads : ((graph.links.waysFrom i).map List.head?).Nodup :=
    List.pairwise_map.2 ((Links.explore_pairwise ..).imp And.left)
  have hsame : found = way :=
    List.inj_on_of_nodup_map hheads (List.mem_of_find?_eq_some hfind) hway
      (hfound.trans hhead.symm)
  rw [routeTo, hfind, hsame, Option.elim_some]

theorem isShortestRoute_routeTo (hne : t ≠ i) (h : graph.HasRoute i t) :
    graph.IsShortestRoute i t (graph.routeTo i t) := by
  obtain ⟨way, hway, hhead⟩ :=
    Links.exists_mem_explore_iff.2 ⟨hne, (hasRoute_iff_isWay hne).1 h⟩
  obtain ⟨x, _, hshortest⟩ := Links.explore_shortest hway
  obtain rfl : x = t := by simpa [hshortest.1.head?_eq] using hhead
  rw [routeTo_eq_steps hway hhead]
  exact (isShortestRoute_steps hshortest hne).1

end Routes

end Graph

end DependencyRules
