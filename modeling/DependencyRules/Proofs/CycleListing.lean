import DependencyRules.Proofs.Deliveries
import DependencyRules.Proofs.Rings

/-!
# The listing of cycles

The cycles of a marked graph are listed once each, from their smallest modules on and in ascending
order. A cycle repeats no source, so only one of its turns starts with the smallest, and two cycles
of the listing are never turns of each other.
-/

namespace DependencyRules

namespace Graph

/-! ## Turning a cycle -/

theorem leastString_mem (least : String) (rest : List String) :
    leastString least rest ∈ least :: rest := by
  induction rest generalizing least with
  | nil => exact List.mem_singleton_self _
  | cons s rest ih =>
      unfold leastString
      by_cases hlt : s < least
      · rw [if_pos hlt]
        exact List.mem_cons_of_mem _ (ih s)
      · rw [if_neg hlt]
        rcases List.mem_cons.1 (ih least) with heq | hmem
        · rw [heq]
          exact List.mem_cons_self
        · exact List.mem_cons_of_mem _ (List.mem_cons_of_mem _ hmem)

theorem leastString_le (least : String) (rest : List String) :
    ∀ s ∈ least :: rest, leastString least rest ≤ s := by
  induction rest generalizing least with
  | nil =>
      intro s hs
      rw [List.mem_singleton.1 hs]
      exact le_rfl
  | cons first rest ih =>
      intro s hs
      unfold leastString
      by_cases hlt : first < least
      · rw [if_pos hlt]
        rcases List.mem_cons.1 hs with rfl | hmem
        · exact (ih first first List.mem_cons_self).trans hlt.le
        · exact ih first s hmem
      · rw [if_neg hlt]
        have hleast : leastString least rest ≤ least := ih least least List.mem_cons_self
        rcases List.mem_cons.1 hs with rfl | hmem
        · exact hleast
        · rcases List.mem_cons.1 hmem with rfl | hrest
          · exact hleast.trans (not_lt.1 hlt)
          · exact ih least s (List.mem_cons_of_mem _ hrest)

theorem canonicalCycle_isRotated (cycle : List String) :
    (canonicalCycle cycle).IsRotated cycle := by
  cases cycle with
  | nil => exact List.IsRotated.refl _
  | cons s rest =>
      unfold canonicalCycle
      dsimp only
      conv_rhs => rw [← List.takeWhile_append_dropWhile (p := (· ≠ leastString s rest))
        (l := s :: rest)]
      exact List.isRotated_append

theorem exists_canonicalCycle_eq_cons {cycle : List String} (hne : cycle ≠ []) :
    ∃ first rest, canonicalCycle cycle = first :: rest ∧ ∀ s ∈ cycle, first ≤ s := by
  cases cycle with
  | nil => exact absurd rfl hne
  | cons s rest =>
      have hdrop : (s :: rest).dropWhile (· ≠ leastString s rest) ≠ [] := by
        intro hnil
        have hall := List.dropWhile_eq_nil_iff.1 hnil _ (leastString_mem s rest)
        simp at hall
      obtain ⟨first, after, hcons⟩ := List.exists_cons_of_ne_nil hdrop
      have hfirst : first = leastString s rest := by
        have hhead := List.head?_dropWhile_not (· ≠ leastString s rest) (s :: rest)
        rw [hcons] at hhead
        simpa using hhead
      refine ⟨first, after ++ (s :: rest).takeWhile (· ≠ leastString s rest), ?_, ?_⟩
      · unfold canonicalCycle
        dsimp only
        rw [hcons, List.cons_append]
      · rw [hfirst]
        exact leastString_le s rest

/-- A list without repetitions has only one turn with a given first element. -/
theorem eq_of_isRotated {α : Type} {first : α} {rest other : List α}
    (hnodup : (first :: rest).Nodup) (h : (first :: rest).IsRotated (first :: other)) :
    first :: rest = first :: other := by
  obtain ⟨n, hn⟩ := h
  have hlength : n % (first :: rest).length < (first :: rest).length :=
    Nat.mod_lt _ (Nat.succ_pos _)
  have hhead : (first :: rest)[n % (first :: rest).length]? = (first :: rest)[0]? := by
    have hzero := congrArg (fun turned => turned[0]?) hn
    rwa [List.getElem?_rotate (Nat.succ_pos _), Nat.zero_add] at hzero
  have hturn : n % (first :: rest).length = 0 := (List.getElem?_inj hlength hnodup).1 hhead
  rw [← hn, ← List.rotate_mod, hturn, List.rotate_zero]

/-- A cycle starts with its smallest module and does not come back to it. -/
def StartsLeast (cycle : List String) : Prop :=
  ∃ first rest, cycle = first :: rest ∧ ∀ s ∈ rest, first < s

theorem startsLeast_canonicalCycle {cycle : List String} (hne : cycle ≠ [])
    (hnodup : cycle.Nodup) : StartsLeast (canonicalCycle cycle) := by
  obtain ⟨first, rest, hcons, hle⟩ := exists_canonicalCycle_eq_cons hne
  have hturn := canonicalCycle_isRotated cycle
  rw [hcons] at hturn
  refine ⟨first, rest, hcons, fun s hs => ?_⟩
  have hmem : s ∈ cycle := hturn.mem_iff.1 (List.mem_cons_of_mem _ hs)
  have hfirst : first ≠ s := by
    rintro rfl
    exact (List.nodup_cons.1 (hturn.nodup_iff.2 hnodup)).1 hs
  exact lt_of_le_of_ne (hle s hmem) hfirst

theorem StartsLeast.eq_of_isRotated {cycle other : List String} (h : StartsLeast cycle)
    (hother : StartsLeast other) (hnodup : cycle.Nodup) (hturn : cycle.IsRotated other) :
    cycle = other := by
  obtain ⟨first, rest, rfl, hleast⟩ := h
  obtain ⟨first', rest', rfl, hleast'⟩ := hother
  have hsame : first = first' := by
    by_contra hne
    have hin : first ∈ rest' :=
      List.mem_of_ne_of_mem hne (hturn.mem_iff.1 List.mem_cons_self)
    have hin' : first' ∈ rest :=
      List.mem_of_ne_of_mem (Ne.symm hne) (hturn.mem_iff.2 List.mem_cons_self)
    exact lt_asymm (hleast first' hin') (hleast' first hin)
  subst hsame
  exact Graph.eq_of_isRotated hnodup hturn

/-! ## Listing in order -/

theorem ordersBy_cycles : OrdersBy compare (id : List String → List String) := by
  simpa using ordersBy_text.list

theorem mem_insertCycle {cycle new : List String} {listed : List (List String)} :
    cycle ∈ insertCycle new listed ↔ cycle = new ∨ cycle ∈ listed := by
  induction listed with
  | nil => simp [insertCycle]
  | cons other rest ih =>
      unfold insertCycle
      cases hcompare : compare new other with
      | lt => simp
      | eq =>
          obtain rfl : new = other := ordersBy_cycles.eq_iff.1 hcompare
          simp
      | gt =>
          simp only [List.mem_cons, ih]
          exact or_left_comm

theorem insertCycle_pairwise (new : List String) {listed : List (List String)}
    (h : listed.Pairwise (· < ·)) : (insertCycle new listed).Pairwise (· < ·) := by
  induction listed with
  | nil => exact List.pairwise_singleton ..
  | cons other rest ih =>
      obtain ⟨hfirst, hrest⟩ := List.pairwise_cons.1 h
      unfold insertCycle
      cases hcompare : compare new other with
      | lt =>
          have hlt : new < other := ordersBy_cycles.lt_iff.1 hcompare
          refine List.pairwise_cons.2 ⟨fun cycle hcycle => ?_, h⟩
          rcases List.mem_cons.1 hcycle with rfl | hmem
          · exact hlt
          · exact hlt.trans (hfirst cycle hmem)
      | eq => exact h
      | gt =>
          have hgt : other < new :=
            ordersBy_cycles.lt_iff.1 (Std.OrientedCmp.gt_iff_lt.1 hcompare)
          refine List.pairwise_cons.2 ⟨fun cycle hcycle => ?_, ih hrest⟩
          rcases mem_insertCycle.1 hcycle with rfl | hmem
          · exact hgt
          · exact hfirst cycle hmem

def listCycle (listed : List (List String)) (dependency : Dependency) : List (List String) :=
  if dependency.circular && !dependency.cycle.isEmpty then
    insertCycle (canonicalCycle dependency.cycle) listed
  else listed

def Contributes (dependency : Dependency) (cycle : List String) : Prop :=
  dependency.circular = true ∧ dependency.cycle ≠ [] ∧ canonicalCycle dependency.cycle = cycle

theorem mem_listCycle {cycle : List String} {listed : List (List String)}
    {dependency : Dependency} :
    cycle ∈ listCycle listed dependency ↔ Contributes dependency cycle ∨ cycle ∈ listed := by
  unfold listCycle Contributes
  by_cases hlisted : (dependency.circular && !dependency.cycle.isEmpty) = true
  · rw [if_pos hlisted, mem_insertCycle]
    rw [Bool.and_eq_true, Bool.not_eq_true', List.isEmpty_eq_false_iff] at hlisted
    rw [eq_comm (a := cycle), ← and_assoc, and_iff_right hlisted]
  · rw [if_neg hlisted]
    refine ⟨.inr, fun h => h.resolve_left fun hnew => hlisted ?_⟩
    rw [Bool.and_eq_true, Bool.not_eq_true', List.isEmpty_eq_false_iff]
    exact ⟨hnew.1, hnew.2.1⟩

theorem listCycle_pairwise {listed : List (List String)} (h : listed.Pairwise (· < ·))
    (dependency : Dependency) : (listCycle listed dependency).Pairwise (· < ·) := by
  unfold listCycle
  split
  · exact insertCycle_pairwise _ h
  · exact h

theorem mem_foldl_listCycle {cycle : List String} {dependencies : List Dependency}
    {listed : List (List String)} :
    cycle ∈ dependencies.foldl listCycle listed ↔
      (∃ dependency ∈ dependencies, Contributes dependency cycle) ∨ cycle ∈ listed := by
  induction dependencies generalizing listed with
  | nil => simp
  | cons dependency rest ih =>
      rw [List.foldl_cons, ih, mem_listCycle, List.exists_mem_cons_iff, ← or_assoc]
      exact or_congr_left or_comm

theorem foldl_listCycle_pairwise (dependencies : List Dependency) {listed : List (List String)}
    (h : listed.Pairwise (· < ·)) : (dependencies.foldl listCycle listed).Pairwise (· < ·) := by
  induction dependencies generalizing listed with
  | nil => exact h
  | cons dependency rest ih => exact ih (listCycle_pairwise h dependency)

theorem mem_cycles {graph : Graph} {cycle : List String} :
    cycle ∈ graph.cycles ↔
      ∃ m ∈ graph.modules, ∃ dependency ∈ m.dependencies, Contributes dependency cycle := by
  change cycle ∈ (graph.modules.flatMap Module.dependencies).foldl listCycle [] ↔ _
  rw [mem_foldl_listCycle]
  simp only [List.mem_flatMap, List.not_mem_nil, or_false]
  constructor
  · rintro ⟨dependency, ⟨m, hm, hdependency⟩, hcycle⟩
    exact ⟨m, hm, dependency, hdependency, hcycle⟩
  · rintro ⟨m, hm, dependency, hdependency, hcycle⟩
    exact ⟨dependency, ⟨m, hm, hdependency⟩, hcycle⟩

theorem cycles_pairwise (graph : Graph) : graph.cycles.Pairwise (· < ·) :=
  foldl_listCycle_pairwise _ List.Pairwise.nil

/-! ## The cycles of a graph -/

/-- A list holds the cycles of a graph: in ascending order, each of them a ring of the graph from
its smallest module on, and each reported cycle in exactly one of its turns. It is empty exactly
when no module leads back to itself. -/
structure ListsCycles (graph : Graph) (listed : List (List String)) : Prop where
  ascending : listed.Pairwise (· < ·)
  nodup : ∀ cycle ∈ listed, cycle.Nodup
  startsLeast : ∀ cycle ∈ listed, StartsLeast cycle
  isRing : ∀ cycle ∈ listed, ∃ ring : List graph.Position,
    IsRing graph.Joins ring ∧ ring.map graph.sourceAt = cycle
  eq_of_isRotated : ∀ cycle ∈ listed, ∀ other ∈ listed, cycle.IsRotated other → cycle = other
  complete : ∀ m ∈ graph.withCycles.modules, ∀ dependency ∈ m.dependencies,
    dependency.circular = true → ∃! cycle, cycle ∈ listed ∧ cycle.IsRotated dependency.cycle
  sound : ∀ cycle ∈ listed, ∃ m ∈ graph.withCycles.modules, ∃ dependency ∈ m.dependencies,
    dependency.circular = true ∧ cycle.IsRotated dependency.cycle
  eq_nil_iff : listed = [] ↔ ∀ i, ¬ Relation.TransGen graph.Joins i i

section Listed

variable {graph : Graph} {i : graph.Position} {dependency marked : Dependency}
  {cycle : List String}

theorem IsCycleMark.contributes (hmark : graph.IsCycleMark i dependency marked)
    (hcircular : marked.circular = true) : Contributes marked (canonicalCycle marked.cycle) :=
  ⟨hcircular, hmark.cycle_ne_nil_iff.2 hcircular, rfl⟩

theorem exists_mark_of_mem_cycles (h : cycle ∈ graph.withCycles.cycles) :
    ∃ i, ∃ dependency ∈ (graph.moduleAt i).dependencies, ∃ marked ∈ graph.markedDependencies i,
      graph.IsCycleMark i dependency marked ∧ Contributes marked cycle := by
  obtain ⟨m, hm, marked, hmarked, hcycle⟩ := mem_cycles.1 h
  obtain ⟨i, rfl⟩ := mem_modules_withCycles.1 hm
  obtain ⟨dependency, hmem, hmark⟩ := exists_isCycleMark_of_mem_marked hmarked
  exact ⟨i, dependency, hmem, marked, hmarked, hmark, hcycle⟩

theorem canonicalCycle_mem_cycles (hmarked : marked ∈ graph.markedDependencies i)
    (hcircular : marked.circular = true) :
    canonicalCycle marked.cycle ∈ graph.withCycles.cycles := by
  obtain ⟨dependency, _, hmark⟩ := exists_isCycleMark_of_mem_marked hmarked
  exact mem_cycles.2 ⟨_, mem_modules_withCycles.2 ⟨i, rfl⟩, marked, hmarked,
    hmark.contributes hcircular⟩

/-- A turn of a ring is a ring, so what is listed is a ring too. -/
theorem isRing_of_mem_cycles (h : cycle ∈ graph.withCycles.cycles) :
    cycle.Nodup ∧ StartsLeast cycle ∧
      ∃ ring : List graph.Position, IsRing graph.Joins ring ∧ ring.map graph.sourceAt = cycle := by
  obtain ⟨i, dependency, hmem, marked, _, hmark, hcircular, hne, rfl⟩ :=
    exists_mark_of_mem_cycles h
  have hturn := canonicalCycle_isRotated marked.cycle
  obtain ⟨ring, hring, hsources⟩ := hmark.exists_ring hmem hcircular
  obtain ⟨n, hn⟩ := hturn.symm
  refine ⟨hturn.nodup_iff.2 hmark.cycle_nodup,
    startsLeast_canonicalCycle hne hmark.cycle_nodup, ring.rotate n, hring.rotate n, ?_⟩
  rw [List.map_rotate, ← hsources, hn]

theorem eq_of_isRotated_of_mem_cycles {other : List String}
    (h : cycle ∈ graph.withCycles.cycles) (hother : other ∈ graph.withCycles.cycles)
    (hturn : cycle.IsRotated other) : cycle = other := by
  obtain ⟨hnodup, hleast, _⟩ := isRing_of_mem_cycles h
  obtain ⟨_, hleast', _⟩ := isRing_of_mem_cycles hother
  exact hleast.eq_of_isRotated hleast' hnodup hturn

theorem cycles_withCycles_eq_nil_iff :
    graph.withCycles.cycles = [] ↔ ∀ i, ¬ Relation.TransGen graph.Joins i i := by
  rw [List.eq_nil_iff_forall_not_mem]
  constructor
  · intro hnone i hback
    obtain ⟨j, ⟨dependency, hmem, hleads⟩, hreach⟩ := Relation.TransGen.head'_iff.1 hback
    obtain ⟨marked, hmarked, hmark⟩ := exists_isCycleMark_of_mem hmem
    have hcircular : marked.circular = true := hmark.circular_iff.2 ⟨j, hleads, hreach⟩
    exact hnone _ (canonicalCycle_mem_cycles hmarked hcircular)
  · intro hnone cycle hcycle
    obtain ⟨i, dependency, hmem, marked, _, hmark, hcircular, _⟩ :=
      exists_mark_of_mem_cycles hcycle
    obtain ⟨j, hleads, hreach⟩ := hmark.circular_iff.1 hcircular
    exact hnone i (Relation.TransGen.head' ⟨dependency, hmem, hleads⟩ hreach)

end Listed

/-- The cycles that are listed for a marked graph are its cycles. -/
theorem cycles_withCycles_listsCycles (graph : Graph) :
    graph.ListsCycles graph.withCycles.cycles := by
  refine
    { ascending := graph.withCycles.cycles_pairwise
      nodup := fun cycle hcycle => (isRing_of_mem_cycles hcycle).1
      startsLeast := fun cycle hcycle => (isRing_of_mem_cycles hcycle).2.1
      isRing := fun cycle hcycle => (isRing_of_mem_cycles hcycle).2.2
      eq_of_isRotated := fun _ hcycle _ hother => eq_of_isRotated_of_mem_cycles hcycle hother
      complete := ?_
      sound := ?_
      eq_nil_iff := cycles_withCycles_eq_nil_iff }
  · intro m hm marked hmarked hcircular
    obtain ⟨i, rfl⟩ := mem_modules_withCycles.1 hm
    have hlisted := canonicalCycle_mem_cycles hmarked hcircular
    have hturn := canonicalCycle_isRotated marked.cycle
    refine ⟨_, ⟨hlisted, hturn⟩, fun other hother => ?_⟩
    exact eq_of_isRotated_of_mem_cycles hother.1 hlisted (hother.2.trans hturn.symm)
  · intro cycle hcycle
    obtain ⟨m, hm, marked, hmarked, hcircular, _, rfl⟩ := mem_cycles.1 hcycle
    exact ⟨m, hm, marked, hmarked, hcircular, canonicalCycle_isRotated marked.cycle⟩

end Graph

end DependencyRules
