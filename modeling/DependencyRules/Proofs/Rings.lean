import DependencyRules.Proofs.Cycles
import DependencyRules.Proofs.ModuleOrder

/-!
# Rings

A cycle is a ring: each of its modules has an edge to the next one, and the last module has one to
the first. Turned to the right place, a ring is a way back for each of its edges. So where a cycle
is reported, all its edges are circular, and none of them has a longer cycle.
-/

namespace DependencyRules

/-- Each point of a list is joined to the next, and the last point to the first. -/
def IsRing {α : Type} (R : α → α → Prop) (ring : List α) : Prop :=
  ∀ k a b, ring[k]? = some a → ring[(k + 1) % ring.length]? = some b → R a b

section Rings

variable {α : Type} {R : α → α → Prop} {start goal : α} {path ring : List α}

theorem IsPath.isRing (h : IsPath R start goal path) (hclose : R goal start) : IsRing R path := by
  intro k a b ha hb
  obtain ⟨hk, rfl⟩ := List.getElem?_eq_some_iff.1 ha
  by_cases hlast : k + 1 < path.length
  · rw [Nat.mod_eq_of_lt hlast, List.getElem?_eq_getElem hlast, Option.some.injEq] at hb
    exact hb ▸ List.isChain_iff_getElem.1 h.chain k hlast
  · have hend : k + 1 = path.length := by omega
    have hgoal : path[k] = goal := by
      have hlast? := h.last
      rw [List.getLast?_eq_getElem?, ← hend, Nat.add_sub_cancel, ha] at hlast?
      exact Option.some.inj hlast?
    have hstart : b = start := by
      rw [hend, Nat.mod_self, ← List.head?_eq_getElem?, h.head] at hb
      exact (Option.some.inj hb).symm
    rw [hgoal, hstart]
    exact hclose

theorem IsRing.rotate (h : IsRing R ring) (n : Nat) : IsRing R (ring.rotate n) := by
  intro k a b ha hb
  have hk : k < ring.length := by
    rw [← List.length_rotate]
    exact (List.getElem?_eq_some_iff.1 ha).1
  have hnext : (k + 1) % ring.length < ring.length := Nat.mod_lt _ (by omega)
  rw [List.getElem?_rotate hk] at ha
  rw [List.length_rotate, List.getElem?_rotate hnext] at hb
  refine h _ a b ha ?_
  rw [← hb, Nat.mod_add_mod, Nat.mod_add_mod, Nat.add_right_comm]

theorem IsRing.isPath (h : IsRing R ring) (hhead : ring.head? = some start)
    (hlast : ring.getLast? = some goal) : IsPath R start goal ring := by
  refine ⟨List.isChain_iff_getElem.2 fun k hk => ?_, hhead, hlast⟩
  refine h k _ _ (List.getElem?_eq_getElem (Nat.lt_of_succ_lt hk)) ?_
  rw [Nat.mod_eq_of_lt hk, List.getElem?_eq_getElem hk]

/-- A ring leads from the end of each of its edges back to its beginning. -/
theorem IsRing.wayBack (h : IsRing R ring) {k : Nat} (hgoal : ring[k]? = some goal)
    (hstart : ring[(k + 1) % ring.length]? = some start) :
    IsPath R start goal (ring.rotate (k + 1)) := by
  have hk : k < ring.length := (List.getElem?_eq_some_iff.1 hgoal).1
  have hhead : (ring.rotate (k + 1)).head? = some start := by
    rw [List.head?_eq_getElem?, List.getElem?_rotate (by omega), Nat.zero_add, hstart]
  have hlast : (ring.rotate (k + 1)).getLast? = some goal := by
    have hturn : ring.length - 1 + (k + 1) = k + ring.length := by omega
    rw [List.getLast?_eq_getElem?, List.length_rotate, List.getElem?_rotate (by omega), hturn,
      Nat.add_mod_right, Nat.mod_eq_of_lt hk, hgoal]
  exact (h.rotate (k + 1)).isPath hhead hlast

end Rings

namespace Graph

section Marks

variable {graph : Graph} {i a b : graph.Position} {dependency marked : Dependency}
  {ring : List graph.Position}

/-- The cycle of a circular dependency is a ring of the graph. -/
theorem IsCycleMark.exists_ring (hmark : graph.IsCycleMark i dependency marked)
    (hmem : dependency ∈ (graph.moduleAt i).dependencies) (hcircular : marked.circular = true) :
    ∃ ring : List graph.Position,
      IsRing graph.Joins ring ∧ marked.cycle = ring.map graph.sourceAt := by
  obtain ⟨j, hleads, _⟩ := hmark.circular_iff.1 hcircular
  obtain ⟨path, ⟨hpath, _⟩, hcycle⟩ := hmark.cycle_eq j hleads hcircular
  have hclose : graph.Joins i j := ⟨dependency, hmem, hleads⟩
  exact ⟨path, hpath.isRing hclose, hcycle⟩

theorem IsCycleMark.leadsTo_iff (hmark : graph.IsCycleMark i dependency marked) :
    graph.LeadsTo marked b ↔ graph.LeadsTo dependency b := by
  rw [hmark.unchanged]
  rfl

/-- An edge of a ring is circular, and the ring bounds the length of its cycle. -/
theorem IsCycleMark.circular_of_isRing (hmark : graph.IsCycleMark a dependency marked)
    (hleads : graph.LeadsTo dependency b) (hring : IsRing graph.Joins ring) {k : Nat}
    (ha : ring[k]? = some a) (hb : ring[(k + 1) % ring.length]? = some b) :
    marked.circular = true ∧ marked.cycle.length ≤ ring.length := by
  have hback := hring.wayBack ha hb
  have hcircular : marked.circular = true :=
    hmark.circular_iff.2 ⟨b, hleads, hback.reaches_mem hback.goal_mem⟩
  obtain ⟨path, hshortest, hcycle⟩ := hmark.cycle_eq b hleads hcircular
  have hle := hshortest.2 _ hback
  rw [List.length_rotate, ← List.length_map graph.sourceAt, ← hcycle] at hle
  exact ⟨hcircular, hle⟩

theorem exists_isCycleMark_of_getElem?_marked {k : Nat}
    (h : (graph.markedDependencies i)[k]? = some marked) :
    ∃ dependency, (graph.moduleAt i).dependencies[k]? = some dependency ∧
      graph.IsCycleMark i dependency marked := by
  have hmarks := List.forall₂_iff_get.1 (graph.forall₂_markedDependencies i)
  obtain ⟨hk, rfl⟩ := List.getElem?_eq_some_iff.1 h
  have hk' : k < (graph.moduleAt i).dependencies.length := hmarks.1.symm ▸ hk
  exact ⟨_, List.getElem?_eq_getElem hk', hmarks.2 k hk' hk⟩

theorem exists_isCycleMark_of_getElem? {k : Nat}
    (h : (graph.moduleAt i).dependencies[k]? = some dependency) :
    ∃ marked, (graph.markedDependencies i)[k]? = some marked ∧
      graph.IsCycleMark i dependency marked := by
  have hmarks := List.forall₂_iff_get.1 (graph.forall₂_markedDependencies i)
  obtain ⟨hk, rfl⟩ := List.getElem?_eq_some_iff.1 h
  have hk' : k < (graph.markedDependencies i).length := hmarks.1 ▸ hk
  exact ⟨_, List.getElem?_eq_getElem hk', hmarks.2 k hk hk'⟩

theorem exists_isCycleMark_of_mem_marked (hmem : marked ∈ graph.markedDependencies i) :
    ∃ dependency ∈ (graph.moduleAt i).dependencies, graph.IsCycleMark i dependency marked := by
  obtain ⟨k, hk⟩ := List.getElem?_of_mem hmem
  obtain ⟨dependency, hdependency, hmark⟩ := exists_isCycleMark_of_getElem?_marked hk
  exact ⟨dependency, List.mem_of_getElem? hdependency, hmark⟩

theorem exists_isCycleMark_of_mem (hmem : dependency ∈ (graph.moduleAt i).dependencies) :
    ∃ marked ∈ graph.markedDependencies i, graph.IsCycleMark i dependency marked := by
  obtain ⟨k, hk⟩ := List.getElem?_of_mem hmem
  obtain ⟨marked, hmarked, hmark⟩ := exists_isCycleMark_of_getElem? hk
  exact ⟨marked, List.mem_of_getElem? hmarked, hmark⟩

theorem mem_modules_withCycles {m : Module} :
    m ∈ graph.withCycles.modules ↔
      ∃ i, { graph.moduleAt i with dependencies := graph.markedDependencies i } = m := by
  rw [withCycles_eq]
  exact List.mem_ofFn

theorem map_source_withCycles (graph : Graph) :
    graph.withCycles.modules.map Module.source = graph.modules.map Module.source := by
  rw [withCycles_eq, withDependencies, List.map_ofFn]
  conv_rhs => rw [← graph.ofFn_moduleAt, List.map_ofFn]
  rfl

end Marks

/-- From each module of a cycle some dependency leads to the next one, and all that do are reported
as circular, with cycles that are not longer. -/
def ReportsHops (graph : Graph) (cycle : List String) : Prop :=
  ∀ k source next, cycle[k]? = some source → cycle[(k + 1) % cycle.length]? = some next →
    ∃ m, graph.module? source = some m ∧
      (∃ hop ∈ m.dependencies, hop.resolved = next ∧ hop.couldNotResolve = false) ∧
      ∀ hop ∈ m.dependencies, hop.resolved = next → hop.couldNotResolve = false →
        hop.circular = true ∧ hop.cycle.length ≤ cycle.length

theorem reportsHops_of_isRing {graph : Graph} (hnodup : (graph.modules.map Module.source).Nodup)
    {ring : List graph.Position} (hring : IsRing graph.Joins ring) :
    graph.withCycles.ReportsHops (ring.map graph.sourceAt) := by
  intro k source next hsource hnext
  rw [List.length_map] at hnext
  rw [List.getElem?_map, Option.map_eq_some_iff] at hsource hnext
  obtain ⟨a, ha, rfl⟩ := hsource
  obtain ⟨b, hb, rfl⟩ := hnext
  have hjoins : graph.Joins a b := hring k a b ha hb
  have hlast := hjoins.isLast
  obtain ⟨dependency, hmem, hleads⟩ := hjoins
  rw [← graph.map_source_withCycles] at hnodup
  have hmodule := mem_modules_withCycles.2 ⟨a, rfl⟩
  refine ⟨_, (module?_eq_some_iff hnodup).2 ⟨hmodule, rfl⟩, ?_, ?_⟩
  · obtain ⟨hop, hhop, hmark⟩ := exists_isCycleMark_of_mem hmem
    obtain ⟨hresolve, hsource, _⟩ := hmark.leadsTo_iff.2 hleads
    exact ⟨hop, hhop, hsource.symm, hresolve⟩
  · intro hop hhop hresolved hresolve
    obtain ⟨dependency, _, hmark⟩ := exists_isCycleMark_of_mem_marked hhop
    have hleads : graph.LeadsTo hop b := ⟨hresolve, hresolved ▸ hlast⟩
    rw [List.length_map]
    exact hmark.circular_of_isRing (hmark.leadsTo_iff.1 hleads) hring ha hb

/-- Where sources are distinct, every edge of a reported cycle is reported. -/
theorem withCycles_reports_hops {graph : Graph} (hnodup : (graph.modules.map Module.source).Nodup)
    {m : Module} (hm : m ∈ graph.withCycles.modules) {dependency : Dependency}
    (hdependency : dependency ∈ m.dependencies) (hcircular : dependency.circular = true) :
    dependency.cycle ≠ [] ∧ graph.withCycles.ReportsHops dependency.cycle := by
  obtain ⟨i, rfl⟩ := mem_modules_withCycles.1 hm
  obtain ⟨unmarked, hmem, hmark⟩ := exists_isCycleMark_of_mem_marked hdependency
  obtain ⟨ring, hring, hcycle⟩ := hmark.exists_ring hmem hcircular
  refine ⟨hmark.cycle_ne_nil_iff.2 hcircular, ?_⟩
  rw [hcycle]
  exact reportsHops_of_isRing hnodup hring

/-- A ring of three modules with a way back from the second to the first. -/
def shortcutGraph : Graph :=
  { modules := [
      { source := "a", dependencies := [.localFile "b"] },
      { source := "b", dependencies := [.localFile "c", .localFile "a"] },
      { source := "c", dependencies := [.localFile "a"] }] }

theorem withCycles_reports_hops_shortcut :
    (shortcutGraph.modules.map Module.source).Nodup ∧
      ∃ m ∈ shortcutGraph.withCycles.modules, ∃ dependency ∈ m.dependencies,
        dependency.circular = true ∧ dependency.cycle = ["a", "b", "c"] ∧
        dependency.cycle ≠ [] ∧ shortcutGraph.withCycles.ReportsHops dependency.cycle := by
  have hmarked : (shortcutGraph.withCycles.modules[2]?.any fun m : Module =>
      m.dependencies[0]?.any fun dependency : Dependency =>
        dependency.circular && dependency.cycle == ["a", "b", "c"]) = true := by
    decide +kernel
  obtain ⟨m, hm, hany⟩ := (Option.any_eq_true _ _).1 hmarked
  obtain ⟨dependency, hdependency, hboth⟩ := (Option.any_eq_true _ _).1 hany
  rw [Bool.and_eq_true, beq_iff_eq] at hboth
  have hm' := List.mem_of_getElem? hm
  have hdependency' := List.mem_of_getElem? hdependency
  have hnodup : (shortcutGraph.modules.map Module.source).Nodup := by
    decide
  exact ⟨hnodup, m, hm', dependency, hdependency', hboth.1, hboth.2,
    withCycles_reports_hops hnodup hm' hdependency' hboth.1⟩

end Graph

end DependencyRules
