import DependencyRules.Proofs.PlainComponents
import DependencyRules.Proofs.PlainExploration

/-!
# The index keeps the analyses in range

On the index of a graph both analyses have a result by plain numbers, and it is that of the library:
they look up nothing beyond the end of a table, and all their loops come to an end. What the index
says about a graph is all that this takes, so duplicate sources, dependencies on modules that are
not there and cycles make no difference.
-/

namespace DependencyRules

namespace Plain.Index

variable {n : Nat} {index : Index} {links : Links n}

theorem mapM_sources (hindex : index.Agrees links) (positions : List (Fin n)) :
    ((positions.map Fin.val).mapM fun position => index.sources[position]?) =
      some (positions.map links.nameAt) :=
  mapM_map_eq_some Fin.val hindex.source_eq positions

/-! ## Cycles -/

theorem cycleOf?_eq_some (hindex : index.Agrees links) (components : Vector (Option Nat) n)
    (node : Fin n) (edge : Edge n) :
    index.cycleOf? components.toArray node.val edge.arc =
      some (links.cycleOf? components node edge) := by
  have hsame : isSame? components.toArray edge.target.val node.val =
      some (decide (components.get edge.target = components.get node)) := by
    rw [isSame?, getElem?_toArray, getElem?_toArray]
    rfl
  have hpath := wayBack?_eq_some hindex components edge.target node
  have hnames := mapM_sources hindex (links.wayBack components edge.target node)
  unfold cycleOf? Links.cycleOf?
  by_cases hself : edge.target = node
  · have hval : edge.arc.target = node.val := congrArg Fin.val hself
    rw [if_pos hval, if_pos (.inl hself)]
    simp [Edge.arc, hpath, hnames]
  · have hval : edge.arc.target ≠ node.val := fun heq => hself (Fin.ext heq)
    rw [if_neg hval]
    by_cases hcomponent : components.get edge.target = components.get node
    · rw [if_pos (.inr hcomponent)]
      simp [Edge.arc, hsame, hcomponent, hpath, hnames]
    · rw [if_neg (not_or.2 ⟨hself, hcomponent⟩)]
      simp [Edge.arc, hsame, hcomponent]

theorem getElem?_withCycleAt (dependencies : List Dependency) (position k : Nat)
    (cycle : Option (List String)) :
    (withCycleAt dependencies position cycle)[k]? =
      if k = position then
        dependencies[k]?.map fun dependency =>
          if cycle.isSome then dependency.withCycle cycle else dependency
      else dependencies[k]? := by
  cases cycle with
  | none => simp [withCycleAt]
  | some cycle =>
      rw [withCycleAt, List.getElem?_modify]
      by_cases hk : k = position
      · simp [hk]
      · have hne : position ≠ k := fun heq => hk heq.symm
        simp [hk, hne]

theorem getElem?_foldl_withCycleAt_of_ne (cycle? : Edge n → Option (List String))
    {edges : List (Edge n)} {k : Nat} (hedges : ∀ edge ∈ edges, edge.dependency ≠ k)
    (marked : List Dependency) :
    (edges.foldl (fun marked edge => withCycleAt marked edge.dependency (cycle? edge))
      marked)[k]? = marked[k]? := by
  induction edges generalizing marked with
  | nil => rfl
  | cons edge rest ih =>
      have hne : k ≠ edge.dependency := fun heq => hedges edge (List.mem_cons_self ..) heq.symm
      rw [List.foldl_cons, ih (fun other hother => hedges other (List.mem_cons_of_mem _ hother)),
        getElem?_withCycleAt, if_neg hne]

/-- Marking edge by edge marks a dependency once at most, for the edge with its position. -/
theorem getElem?_foldl_withCycleAt (cycle? : Edge n → Option (List String))
    {edges : List (Edge n)} (hsorted : edges.Pairwise fun a b => a.dependency < b.dependency)
    (marked : List Dependency) (k : Nat) :
    (edges.foldl (fun marked edge => withCycleAt marked edge.dependency (cycle? edge))
        marked)[k]? =
      (withCycleAt marked k
        ((edges.find? fun edge => edge.dependency = k).bind cycle?))[k]? := by
  induction edges generalizing marked with
  | nil => rfl
  | cons edge rest ih =>
      obtain ⟨hfirst, hlater⟩ := List.pairwise_cons.1 hsorted
      rw [List.foldl_cons]
      by_cases hedge : edge.dependency = k
      · have hrest : ∀ other ∈ rest, other.dependency ≠ k := by
          intro other hother
          have hlt := hfirst other hother
          omega
        rw [getElem?_foldl_withCycleAt_of_ne cycle? hrest,
          List.find?_cons_of_pos (by simpa using hedge), hedge, Option.bind_some]
      · have hne : k ≠ edge.dependency := fun heq => hedge heq.symm
        rw [ih hlater, List.find?_cons_of_neg (by simpa using hedge)]
        simp only [getElem?_withCycleAt, if_true, if_neg hne]

theorem markEdge?_eq_some (hindex : index.Agrees links) (components : Vector (Option Nat) n)
    (node : Fin n) (marked : List Dependency) (edge : Edge n) :
    index.markEdge? components.toArray node.val marked edge.arc =
      some (withCycleAt marked edge.dependency (links.cycleOf? components node edge)) := by
  rw [markEdge?, cycleOf?_eq_some hindex]
  rfl

theorem foldl_withCycleAt_eq_markCycles (cycle? : Edge n → Option (List String))
    {edges : List (Edge n)} (hsorted : edges.Pairwise fun a b => a.dependency < b.dependency)
    (dependencies : List Dependency) :
    edges.foldl (fun marked edge => withCycleAt marked edge.dependency (cycle? edge))
      (dependencies.map (·.withCycle none)) =
    Graph.markCycles cycle? 0 dependencies edges := by
  rw [Graph.markCycles_eq_mapIdx _ _ _ _ hsorted (by simp)]
  refine List.ext_getElem? fun k => ?_
  rw [getElem?_foldl_withCycleAt _ hsorted, getElem?_withCycleAt, if_pos rfl, List.getElem?_map,
    List.getElem?_mapIdx, Option.map_map]
  refine congrArg (Option.map · dependencies[k]?) (funext fun dependency => ?_)
  rw [Nat.zero_add]
  cases (edges.find? fun edge => edge.dependency = k).bind cycle? <;> rfl

theorem markModule?_eq_some (hindex : index.Agrees links) (components : Vector (Option Nat) n)
    (node : Fin n) (m : Module)
    (hsorted : (links.row node).Pairwise fun a b => a.dependency < b.dependency) :
    index.markModule? components.toArray (m, node.val) =
      some { m with
        dependencies := Graph.markCycles (links.cycleOf? components node) 0 m.dependencies
          (links.row node) } := by
  have hfold : ((links.row node).map Edge.arc).foldlM
      (index.markEdge? components.toArray node.val) (m.dependencies.map (·.withCycle none)) =
      some (Graph.markCycles (links.cycleOf? components node) 0 m.dependencies
        (links.row node)) := by
    rw [← foldl_withCycleAt_eq_markCycles _ hsorted]
    exact foldlM_map_eq_some id Edge.arc (markEdge?_eq_some hindex components node) _ _
  simp only [markModule?, hindex.edges_eq, hfold]
  rfl

end Plain.Index

/-- Marking the cycles of a graph looks up nothing out of range and comes to an end. -/
theorem Plain.withCycles?_eq_some (graph : Graph) :
    withCycles? graph = some graph.withCycles := by
  have hindex := Index.ofGraph_agrees graph
  have hmodules := mapM_map_eq_some (fun i => (graph.moduleAt i, i.val))
    (fun i => Index.markModule?_eq_some hindex graph.links.components i (graph.moduleAt i)
      (graph.links_row_pairwise i)) (List.finRange _)
  rw [withCycles?, Index.components?_eq_some hindex, Option.bind_eq_bind, Option.bind_some,
    Index.zipIdx_modules, hmodules, Graph.withCycles_eq, Graph.withDependencies, List.ofFn_eq_map]
  rfl

/-! ## Reachability -/

namespace Plain

section Entries

variable {α : Type} {n : Nat}

def withEntry (table : Vector (List α) n) (i : Fin n) (entry : Option α) : Vector (List α) n :=
  table.set i (table.get i ++ entry.toList) i.isLt

theorem withEntry_get (table : Vector (List α) n) (i j : Fin n) (entry : Option α) :
    (withEntry table i entry).get j = table.get j ++ if j = i then entry.toList else [] := by
  rw [withEntry, get_set_fin]
  by_cases hj : j = i
  · rw [if_pos hj, if_pos hj, hj]
  · rw [if_neg hj, if_neg hj, List.append_nil]

theorem withEntry_none (table : Vector (List α) n) (i : Fin n) :
    withEntry table i none = table := by
  simp [withEntry, Vector.get_eq_getElem]

theorem append?_toArray (table : Vector (List α) n) (i : Fin n) (value : α) :
    append? table.toArray i.val value = some (withEntry table i (some value)).toArray := by
  rw [append?, getElem?_toArray, Option.bind_eq_bind, Option.bind_some, put?_toArray]
  rfl

theorem foldl_withEntry_get (entry : Fin n → Option α) {positions : List (Fin n)}
    (hnodup : positions.Nodup) (table : Vector (List α) n) (j : Fin n) :
    (positions.foldl (fun table i => withEntry table i (entry i)) table).get j =
      table.get j ++ if j ∈ positions then (entry j).toList else [] := by
  induction positions generalizing table with
  | nil => simp
  | cons i rest ih =>
      obtain ⟨hi, hrest⟩ := List.nodup_cons.1 hnodup
      rw [List.foldl_cons, ih hrest, withEntry_get, List.append_assoc]
      by_cases hj : j = i
      · subst hj
        simp [hi]
      · simp [hj]

end Entries

/-- The roots that are booked for each module, by plain numbers. -/
def numbers {n : Nat} (booked : Vector (Option (Fin n)) n) : Array (Option Nat) :=
  (booked.map (Option.map Fin.val)).toArray

section Booking

variable {n : Nat} (booked : Vector (Option (Fin n)) n) (root target : Fin n)

theorem getElem?_numbers : (numbers booked)[target.val]? =
    some ((booked.get target).map Fin.val) := by
  rw [numbers, getElem?_toArray, Vector.get_map]

theorem put?_numbers : put? (numbers booked) target.val (some root.val) =
    some (numbers (booked.set target (some root) target.isLt)) := by
  rw [numbers, put?_toArray, numbers, Vector.map_set]
  rfl

theorem book?_numbers : book? (numbers booked) root.val target.val =
    some (numbers
      (if (booked.get target).isNone then booked.set target (some root) target.isLt
      else booked)) := by
  rw [book?, getElem?_numbers, Option.bind_eq_bind, Option.bind_some, put?_numbers]
  cases booked.get target <;> rfl

/-- Booking each root for itself. -/
theorem foldl_set_get (roots : List (Fin n)) (j : Fin n) :
    (roots.foldl (fun booked root => booked.set root (some root) root.isLt) booked).get j =
      if j ∈ roots then some j else booked.get j := by
  induction roots generalizing booked with
  | nil => simp
  | cons root rest ih =>
      rw [List.foldl_cons, ih, get_set_fin]
      by_cases hj : j = root
      · simp [hj]
      · simp [hj]

end Booking

namespace Index

variable {n : Nat} {index : Index} {links : Links n}

def routeOf (links : Links n) (way : Links.Way n) : Option Route :=
  way.head?.map fun target =>
    { source := links.nameAt target, via := way.steps.map links.nameAt }

theorem recordFound?_of_target (hindex : index.Agrees links) {isTarget : Vector Bool n}
    {target : Fin n} (htarget : isTarget.get target = true) (root : Fin n)
    (steps : List (Fin n)) (booked : Vector (Option (Fin n)) n) (routes : List Route) :
    index.recordFound? isTarget.toArray root.val (numbers booked, routes)
        (target.val, steps.map Fin.val) =
      some (
        numbers (if (booked.get target).isNone then booked.set target (some root) target.isLt
          else booked),
        routes ++ [⟨links.nameAt target, steps.map links.nameAt⟩]) := by
  have hget : isTarget.toArray[target.val]? = some true := htarget ▸ getElem?_toArray _ _
  simp only [recordFound?, hget, book?_numbers, hindex.source_eq, mapM_sources hindex,
    Option.bind_eq_bind, Option.bind_some, if_true]
  rfl

theorem recordFound?_of_other {isTarget : Vector Bool n} {target : Fin n}
    (htarget : isTarget.get target = false) (root : Nat) (steps : List Nat)
    (state : Array (Option Nat) × List Route) :
    index.recordFound? isTarget.toArray root state (target.val, steps) = some state := by
  have hget : isTarget.toArray[target.val]? = some false := htarget ▸ getElem?_toArray _ _
  simp only [recordFound?, hget, Option.bind_eq_bind, Option.bind_some, Bool.false_eq_true,
    if_false]
  rfl

theorem foldlM_recordFound? (hindex : index.Agrees links) (isTarget : Vector Bool n)
    (root : Fin n) (ways : List (Links.Way n)) (booked : Vector (Option (Fin n)) n)
    (routes : List Route) :
    (ways.filterMap fun way => way.head?.map fun target =>
        (target.val, way.steps.map Fin.val)).foldlM
      (index.recordFound? isTarget.toArray root.val) (numbers booked, routes) =
    some (
      numbers (RuleReach.bookRoot booked root
        (ways.filter fun way => way.head?.any fun target => isTarget.get target)),
      routes ++ (ways.filter fun way => way.head?.any fun target => isTarget.get target).filterMap
        (routeOf links)) := by
  induction ways generalizing booked routes with
  | nil => simp [RuleReach.bookRoot]
  | cons way rest ih =>
      cases way with
      | nil => exact ih booked routes
      | cons target before =>
          have hhead : (target :: before : Links.Way n).head? = some target := rfl
          rw [List.filterMap_cons_some (by rw [hhead]; rfl), List.foldlM_cons]
          cases htarget : isTarget.get target with
          | true =>
              rw [recordFound?_of_target hindex htarget, Option.bind_eq_bind, Option.bind_some, ih,
                List.filter_cons_of_pos (by rw [hhead]; exact htarget),
                List.filterMap_cons_some (by rw [routeOf, hhead]; rfl), List.append_assoc]
              rfl
          | false =>
              rw [recordFound?_of_other htarget, Option.bind_eq_bind, Option.bind_some, ih,
                List.filter_cons_of_neg (by rw [hhead]; simpa using htarget)]

theorem filterMap_routeOf_eq_nil (links : Links n) {ways : List (Links.Way n)}
    (hways : ∀ way ∈ ways, way.head?.isSome = true) :
    ways.filterMap (routeOf links) = [] ↔ ways = [] := by
  rw [List.filterMap_eq_nil_iff]
  constructor
  · intro hnone
    cases ways with
    | nil => rfl
    | cons way rest =>
        have hhead := hways way (List.mem_cons_self ..)
        have hroute := hnone way (List.mem_cons_self ..)
        rw [routeOf, Option.map_eq_none_iff] at hroute
        rw [hroute] at hhead
        cases hhead
  · intro hnil way hmem
    rw [hnil] at hmem
    cases hmem

/-- A root books what it reaches and makes an entry for it. -/
theorem recordRoot?_eq_some (hindex : index.Agrees links) (heading : String)
    (isTarget : Vector Bool n) (booked : Vector (Option (Fin n)) n)
    (reaches : Vector (List Routes) n) (root : Fin n) :
    index.recordRoot? heading isTarget.toArray (numbers booked, reaches.toArray) root.val =
      some (
        numbers (RuleReach.bookRoot booked root (RuleReach.targetWays links isTarget root)),
        (withEntry reaches root (RuleReach.routes? links heading
          (RuleReach.targetWays links isTarget root))).toArray) := by
  have hfound : ((links.waysFrom root).filterMap fun way => way.head?.map fun target =>
        (target.val, way.steps.map Fin.val)).foldlM
      (index.recordFound? isTarget.toArray root.val) (numbers booked, []) =
      some (numbers (RuleReach.bookRoot booked root (RuleReach.targetWays links isTarget root)),
        (RuleReach.targetWays links isTarget root).filterMap (routeOf links)) :=
    foldlM_recordFound? hindex isTarget root (links.waysFrom root) booked []
  have hheads : ∀ way ∈ RuleReach.targetWays links isTarget root, way.head?.isSome = true := by
    intro way hmem
    have hany := (List.mem_filter.1 hmem).2
    cases hhead : way.head? with
    | none => rw [hhead] at hany; cases hany
    | some target => rfl
  simp only [recordRoot?, walk?_eq_some hindex, Option.bind_eq_bind, Option.bind_some, hfound]
  by_cases hnil : RuleReach.targetWays links isTarget root = []
  · rw [hnil, List.filterMap_nil, List.isEmpty_nil, if_pos rfl, RuleReach.routes?,
      List.isEmpty_nil, if_pos rfl, withEntry_none]
    rfl
  · have hroutes := mt (filterMap_routeOf_eq_nil links hheads).1 hnil
    rw [if_neg (by simpa using hroutes), append?_toArray, Option.bind_some, RuleReach.routes?,
      if_neg (by simpa using hnil)]
    rfl

/-- The arrival at a target of a rule when roots are booked. -/
def arrivalOf (links : Links n) (heading : String) (isTarget : Vector Bool n)
    (booked : Vector (Option (Fin n)) n) (target : Fin n) : Option Arrival :=
  if isTarget.get target then
    some {
      isReached := (booked.get target).isSome
      heading
      root := (booked.get target).map links.nameAt }
  else none

theorem recordArrival?_eq_some (hindex : index.Agrees links) (heading : String)
    (isTarget : Vector Bool n) (booked : Vector (Option (Fin n)) n)
    (reachable : Vector (List Arrival) n) (target : Fin n) :
    index.recordArrival? heading (numbers booked) reachable.toArray
        (isTarget.get target, target.val) =
      some (withEntry reachable target
        (arrivalOf links heading isTarget booked target)).toArray := by
  rw [recordArrival?, arrivalOf]
  cases isTarget.get target with
  | false =>
      rw [if_neg (by simp), if_neg (by simp), withEntry_none]
      rfl
  | true =>
      have hname : (((booked.get target).map Fin.val).mapM fun position =>
          index.sources[position]?) = some ((booked.get target).map links.nameAt) := by
        cases booked.get target with
        | none => rfl
        | some root =>
            simp [hindex.source_eq]
      rw [if_pos rfl, if_pos rfl, getElem?_numbers, Option.bind_eq_bind, Option.bind_some, hname,
        Option.bind_eq_bind, Option.bind_some, append?_toArray, Option.isSome_map]

end Index

/-! ## Rules -/

def withEntries {α : Type} {n : Nat} (table : Vector (List α) n) (entries : Vector (Option α) n) :
    Vector (List α) n :=
  Vector.ofFn fun i => table.get i ++ (entries.get i).toList

theorem foldl_withEntry_eq {α : Type} {n : Nat} (entry : Fin n → Option α)
    {positions : List (Fin n)} (hnodup : positions.Nodup) {entries : Vector (Option α) n}
    (hentries : ∀ j, entries.get j = if j ∈ positions then entry j else none)
    (table : Vector (List α) n) :
    positions.foldl (fun table i => withEntry table i (entry i)) table =
      withEntries table entries := by
  refine Vector.ext fun j hj => ?_
  have hget := foldl_withEntry_get entry hnodup table ⟨j, hj⟩
  have hentry : (entries.get ⟨j, hj⟩).toList =
      if ⟨j, hj⟩ ∈ positions then (entry ⟨j, hj⟩).toList else [] := by
    rw [hentries]
    split <;> rfl
  rw [← hentry] at hget
  simpa [withEntries, Vector.get_eq_getElem] using hget

section Rules

variable (graph : Graph) (rule : PreparedRule)

def rootsOf : List graph.Position :=
  (List.finRange _).filter fun i => rule.appliesTo (graph.moduleAt i)

def bookedOf : Vector (Option graph.Position) graph.modules.length :=
  (rootsOf graph rule).foldl
    (fun booked root => RuleReach.bookRoot booked root
      (RuleReach.targetWays graph.links (graph.targets rule) root))
    (Vector.replicate _ none)

/-- The roots that are booked for each module in the end, each root for itself too. -/
def finallyBookedOf : Vector (Option graph.Position) graph.modules.length :=
  (rootsOf graph rule).foldl
    (fun booked (root : graph.Position) => booked.set root (some root) root.isLt)
    (bookedOf graph rule)

theorem nodup_rootsOf : (rootsOf graph rule).Nodup := (List.nodup_finRange _).filter _

theorem mem_rootsOf (i : graph.Position) :
    i ∈ rootsOf graph rule ↔ rule.appliesTo (graph.moduleAt i) = true := by
  simp [rootsOf]

theorem map_val_rootsOf :
    (graph.modules.zipIdx.filter fun entry => rule.appliesTo entry.1).map Prod.snd =
      (rootsOf graph rule).map Fin.val := by
  rw [Index.zipIdx_modules, List.filter_map, List.map_map]
  rfl

theorem toArray_targets :
    (graph.modules.map fun m => rule.aimsAt m.source).toArray = (graph.targets rule).toArray := by
  simp [Graph.targets, Graph.moduleVector]

theorem zipIdx_targets :
    (graph.modules.map fun m => rule.aimsAt m.source).zipIdx =
      (List.finRange _).map fun i => ((graph.targets rule).get i, i.val) := by
  rw [List.zipIdx_map, Index.zipIdx_modules, List.map_map]
  refine List.map_congr_left fun i _ => ?_
  rw [Graph.targets_get]
  rfl

/-- Walking from all modules books the same roots, as only those that the rule starts from find
anything. -/
theorem bookedOf_eq :
    (List.finRange _).foldl (fun booked root => RuleReach.bookRoot booked root
      ((Vector.ofFn (graph.ruleWays rule)).get root)) (Vector.replicate _ none) =
    bookedOf graph rule := by
  rw [bookedOf, rootsOf, List.foldl_filter]
  refine List.foldl_ext _ _ _ fun booked root _ => ?_
  rw [Vector.get_ofFn, Graph.ruleWays]
  split <;> rfl

theorem ofRule_reaches_get (i : graph.Position) :
    (RuleReach.ofRule graph.links graph.moduleVector rule).reaches.get i =
      if i ∈ rootsOf graph rule then
        RuleReach.routes? graph.links rule.heading
          (RuleReach.targetWays graph.links (graph.targets rule) i)
      else none := by
  rw [Graph.ofRule_reaches_eq_routes?, Graph.ruleWays]
  simp only [mem_rootsOf]
  split <;> rfl

theorem ofRule_reachable_get (i : graph.Position) :
    (RuleReach.ofRule graph.links graph.moduleVector rule).reachable.get i =
      Index.arrivalOf graph.links rule.heading (graph.targets rule)
        (finallyBookedOf graph rule) i := by
  rw [Index.arrivalOf, finallyBookedOf, foldl_set_get, ← bookedOf_eq]
  simp only [RuleReach.ofRule, mem_rootsOf, Graph.ruleWays, Graph.targets, Vector.get_map,
    Vector.get_ofFn, Graph.moduleVector_get]

theorem foldlM_recordRoot? (reaches : Vector (List Routes) graph.modules.length) :
    ((rootsOf graph rule).map Fin.val).foldlM
      ((Index.ofGraph graph).recordRoot? rule.heading (graph.targets rule).toArray)
      (Array.replicate (Index.ofGraph graph).size none, reaches.toArray) =
    some (numbers (bookedOf graph rule),
      (withEntries reaches
        (RuleReach.ofRule graph.links graph.moduleVector rule).reaches).toArray) := by
  have hindex := Index.ofGraph_agrees graph
  have hstart : Array.replicate (Index.ofGraph graph).size none =
      numbers (Vector.replicate graph.modules.length none) := by
    simp [numbers, hindex.size_eq]
  rw [hstart, bookedOf,
    ← foldl_withEntry_eq _ (nodup_rootsOf graph rule) (ofRule_reaches_get graph rule) reaches]
  have hstep := Index.recordRoot?_eq_some hindex rule.heading (graph.targets rule)
  generalize Vector.replicate graph.modules.length none = booked
  -- The walks of a rule fill both tables together, root by root.
  induction rootsOf graph rule generalizing booked reaches with
  | nil => rfl
  | cons root rest ih =>
      rw [List.map_cons, List.foldlM_cons, hstep]
      exact ih _ _

theorem recordRule?_eq_some (reaches : Vector (List Routes) graph.modules.length)
    (reachable : Vector (List Arrival) graph.modules.length) :
    (Index.ofGraph graph).recordRule? graph ⟨reaches.toArray, reachable.toArray⟩ rule =
      some ⟨
        (withEntries reaches
          (RuleReach.ofRule graph.links graph.moduleVector rule).reaches).toArray,
        (withEntries reachable
          (RuleReach.ofRule graph.links graph.moduleVector rule).reachable).toArray⟩ := by
  have hindex := Index.ofGraph_agrees graph
  have hselves : ((rootsOf graph rule).map Fin.val).foldlM
      (fun booked root => put? booked root (some root)) (numbers (bookedOf graph rule)) =
      some (numbers (finallyBookedOf graph rule)) :=
    foldlM_map_eq_some numbers Fin.val (fun booked root => put?_numbers booked root root) _ _
  have harrivals : ((List.finRange _).map fun i => ((graph.targets rule).get i, i.val)).foldlM
      ((Index.ofGraph graph).recordArrival? rule.heading (numbers (finallyBookedOf graph rule)))
      reachable.toArray =
      some (withEntries reachable
        (RuleReach.ofRule graph.links graph.moduleVector rule).reachable).toArray := by
    rw [← foldl_withEntry_eq _ (List.nodup_finRange _) (fun j => ?_) reachable]
    · exact foldlM_map_eq_some Vector.toArray _
        (Index.recordArrival?_eq_some hindex rule.heading (graph.targets rule)
          (finallyBookedOf graph rule)) _ _
    · rw [ofRule_reachable_get, if_pos (List.mem_finRange j)]
  simp only [Index.recordRule?, toArray_targets, map_val_rootsOf, zipIdx_targets,
    foldlM_recordRoot?, hselves, harrivals, Option.bind_eq_bind, Option.bind_some]
  rfl

end Rules

/-- Entries for item after item fill each list with those that there are, in the same order. -/
theorem foldl_withEntries_get {α β : Type} {n : Nat} (entries : β → Vector (Option α) n)
    (items : List β) (table : Vector (List α) n) (i : Fin n) :
    (items.foldl (fun table item => withEntries table (entries item)) table).get i =
      table.get i ++ items.filterMap fun item => (entries item).get i := by
  induction items generalizing table with
  | nil => simp
  | cons item rest ih =>
      rw [List.foldl_cons, ih, withEntries, Vector.get_ofFn, List.filterMap_cons,
        List.append_assoc]
      cases (entries item).get i <;> rfl

theorem foldlM_recordRule? (graph : Graph) (rules : List PreparedRule)
    (reaches : Vector (List Routes) graph.modules.length)
    (reachable : Vector (List Arrival) graph.modules.length) :
    rules.foldlM ((Index.ofGraph graph).recordRule? graph)
      ⟨reaches.toArray, reachable.toArray⟩ =
    some ⟨
      (rules.foldl (fun table rule => withEntries table
        (RuleReach.ofRule graph.links graph.moduleVector rule).reaches) reaches).toArray,
      (rules.foldl (fun table rule => withEntries table
        (RuleReach.ofRule graph.links graph.moduleVector rule).reachable) reachable).toArray⟩ := by
  induction rules generalizing reaches reachable with
  | nil => rfl
  | cons rule rest ih =>
      rw [List.foldlM_cons, recordRule?_eq_some]
      exact ih _ _

theorem map_zip_modules {α β γ : Type} (graph : Graph) (as : Vector α graph.modules.length)
    (bs : Vector β graph.modules.length) (f : (Module × α) × β → γ) :
    ((graph.modules.zip as.toList).zip bs.toList).map f =
      List.ofFn fun i : graph.Position => f ((graph.moduleAt i, as.get i), bs.get i) := by
  refine List.ext_getElem (by simp) fun i _ _ => ?_
  simp [Graph.moduleAt, Vector.get_eq_getElem]

/-- Recording what is reached looks up nothing out of range and comes to an end. -/
theorem withReachability?_eq_some (graph : Graph) (rules : PreparedRuleSet) :
    withReachability? graph rules = some (graph.withReachability rules) := by
  have hempty : ∀ α : Type, Array.replicate (Index.ofGraph graph).size ([] : List α) =
      (Vector.replicate graph.modules.length []).toArray := by
    intro α
    rw [(Index.ofGraph_agrees graph).size_eq]
    rfl
  simp only [withReachability?, hempty, foldlM_recordRule?, Option.bind_eq_bind, Option.bind_some]
  simp only [Vector.toList_toArray, map_zip_modules, foldl_withEntries_get]
  simp [Graph.withReachability, List.filterMap_map, Vector.toList_ofFn]

end Plain

/-! ## The index of a graph -/

namespace Graph

section Index

variable {graph : Graph}

theorem exists_isLast {source : String} {j : graph.Position} (hj : graph.sourceAt j = source) :
    ∃ last, graph.IsLast source last := by
  obtain ⟨last, hlast, hmax⟩ := Finset.exists_max_image
    (Finset.univ.filter fun k => graph.sourceAt k = source) id ⟨j, by simpa using hj⟩
  refine ⟨last, by simpa using hlast, fun k hlt hk => ?_⟩
  have hle : k ≤ last := hmax k (by simpa using hk)
  exact absurd hlt (not_lt.2 hle)

theorem links_position?_eq_none_iff (source : String) :
    graph.links.position? source = none ↔ ∀ j, graph.sourceAt j ≠ source := by
  constructor
  · intro hnone j hj
    obtain ⟨last, hlast⟩ := exists_isLast hj
    rw [(links_position?_eq_some_iff graph source last).2 hlast] at hnone
    cases hnone
  · intro hno
    cases hposition : graph.links.position? source with
    | none => rfl
    | some j => exact absurd ((links_position?_eq_some_iff graph source j).1 hposition).1 (hno j)

theorem mem_map_dependency_iff (i : graph.Position) (position : Nat) :
    position ∈ (graph.links.row i).map Edge.dependency ↔
      ∃ dependency, (graph.moduleAt i).dependencies[position]? = some dependency ∧
        dependency.couldNotResolve = false ∧ ∃ j, graph.sourceAt j = dependency.resolved := by
  rw [List.mem_map]
  constructor
  · intro hmem
    obtain ⟨edge, hedge, rfl⟩ := hmem
    obtain ⟨dependency, hget, hleads, _⟩ := mem_links_row.1 hedge
    exact ⟨dependency, hget, hleads.1, edge.target, hleads.2.1⟩
  · intro hdependency
    obtain ⟨dependency, hget, hresolved, j, hj⟩ := hdependency
    obtain ⟨last, hlast⟩ := exists_isLast hj
    exact ⟨⟨position, last, dependency.followable && !dependency.isDynamic⟩,
      mem_links_row.2 ⟨dependency, hget, ⟨hresolved, hlast⟩, rfl⟩, rfl⟩

end Index

/-- The index of a graph lists the edges of the graph and nothing else, and the analyses that look
up its numbers in their tables stay in range and come to an end. -/
structure StaysInRange (graph : Graph) : Prop where
  row_count : (Plain.Index.ofGraph graph).rows.size = graph.modules.length
  /-- By plain numbers the index says the same. -/
  agrees : (Plain.Index.ofGraph graph).Agrees graph.links
  row_ascending : ∀ i : graph.Position,
    (graph.links.row i).Pairwise fun a b => a.dependency < b.dependency
  /-- The edges of a module are those of its dependencies that are resolved to a source that some
  module has. -/
  row_dependencies : ∀ (i : graph.Position) (position : Nat),
    position ∈ (graph.links.row i).map Edge.dependency ↔
      ∃ dependency, (graph.moduleAt i).dependencies[position]? = some dependency ∧
        dependency.couldNotResolve = false ∧ ∃ j, graph.sourceAt j = dependency.resolved
  /-- An edge leads to the last module with that source. -/
  edge_exact : ∀ (i : graph.Position), ∀ edge ∈ graph.links.row i,
    ∃ dependency, (graph.moduleAt i).dependencies[edge.dependency]? = some dependency ∧
      graph.IsLast dependency.resolved edge.target ∧
      edge.followable = (dependency.followable && !dependency.isDynamic)
  position_some : ∀ source j, graph.links.position? source = some j ↔ graph.IsLast source j
  position_none : ∀ source,
    graph.links.position? source = none ↔ ∀ j, graph.sourceAt j ≠ source
  /-- From parent to parent a way back comes to its start, whatever the components are. -/
  wayBack_ends : ∀ (components : Vector (Option Nat) graph.modules.length)
    (start goal : graph.Position),
    (Plain.Index.ofGraph graph).wayBack? components.toArray start.val goal.val =
      some ((graph.links.wayBack components start goal).map Fin.val)
  /-- From parent to parent the steps to each module that a walk finds come to its root. -/
  walk_ends : ∀ root : graph.Position,
    (Plain.Index.ofGraph graph).walk? root.val =
      some ((graph.links.waysFrom root).filterMap fun way =>
        way.head?.map fun target => (target.val, way.steps.map Fin.val))
  cycles : Plain.withCycles? graph = some graph.withCycles
  reachability : ∀ rules : PreparedRuleSet,
    Plain.withReachability? graph rules = some (graph.withReachability rules)

theorem links_staysInRange (graph : Graph) : graph.StaysInRange where
  row_count := by simp [Plain.Index.ofGraph]
  agrees := Plain.Index.ofGraph_agrees graph
  row_ascending := graph.links_row_pairwise
  row_dependencies := mem_map_dependency_iff
  edge_exact i edge hedge := by
    obtain ⟨dependency, hget, hleads, hfollowable⟩ := mem_links_row.1 hedge
    exact ⟨dependency, hget, hleads.2, hfollowable⟩
  position_some := graph.links_position?_eq_some_iff
  position_none := links_position?_eq_none_iff
  wayBack_ends := Plain.Index.wayBack?_eq_some (Plain.Index.ofGraph_agrees graph)
  walk_ends := Plain.Index.walk?_eq_some (Plain.Index.ofGraph_agrees graph)
  cycles := Plain.withCycles?_eq_some graph
  reachability := Plain.withReachability?_eq_some graph

end Graph

end DependencyRules
