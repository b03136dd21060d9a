import DependencyRules.Proofs.Cycles
import DependencyRules.Proofs.Reachability

/-!
# The analyses on plain tables

The library numbers modules by positions that are in range by their type, keeps whole ways where an
exploration could keep parents, and gives its loops fuel. Here the analyses are written once more
without that: a position is any number, an entry of a table is looked up where the number says, and
a loop goes on as long as it goes on. A function has no result when it looks beyond the end of a
table or does not come to an end.

The index that the analyses start from is shown to be that of the library.
-/

namespace DependencyRules

namespace Plain

/-! ## Tables -/

/-- A table with another entry at a position. Beyond its end there is none. -/
def put? {α : Type} (table : Array α) (position : Nat) (value : α) : Option (Array α) :=
  if h : position < table.size then some (table.set position value h) else none

/-- A table of lists with one more entry in the list at a position. -/
def append? {α : Type} (table : Array (List α)) (position : Nat) (value : α) :
    Option (Array (List α)) := do
  put? table position ((← table[position]?) ++ [value])

/-! ## The index -/

/-- An edge that may lead to any number. -/
structure Arc where
  dependency : Nat
  target : Nat
  followable : Bool

structure Index where
  positions : Std.TreeMap String Nat
  sources : Array String
  rows : Array (List Arc)

def edgesOf (positions : Std.TreeMap String Nat) (m : Module) : List Arc :=
  m.dependencies.zipIdx.filterMap fun entry =>
    if entry.1.couldNotResolve then none
    else
      positions[entry.1.resolved]?.map fun target =>
        { dependency := entry.2, target, followable := entry.1.followable && !entry.1.isDynamic }

namespace Index

/-- The index of a graph. Later modules take the place of earlier ones with the same source. -/
def ofGraph (graph : Graph) : Index :=
  let sources := graph.modules.map Module.source
  let positions := sources.zipIdx.foldl (fun positions entry => positions.insert entry.1 entry.2) ∅
  { positions
    sources := sources.toArray
    rows := (graph.modules.map (edgesOf positions)).toArray }

def size (index : Index) : Nat := index.sources.size

def position? (index : Index) (source : String) : Option Nat := index.positions[source]?

def edges (index : Index) (position : Nat) : List Arc := index.rows[position]?.getD []

end Index

/-! ## Loops -/

/-- Steps come to an end: one after the other has a result, and one of them is the last. -/
inductive Ends {σ : Type} (step? : σ → Option (Bool × σ)) : σ → σ → Prop
  | last {state final : σ} (h : step? state = some (true, final)) : Ends step? state final
  | next {state after final : σ} (h : step? state = some (false, after))
      (rest : Ends step? after final) : Ends step? state final

open Classical in
/-- Repeats a step until it says that it was the last one. There is no result if a step has none or
no step is the last. -/
noncomputable def loop {σ : Type} (step? : σ → Option (Bool × σ)) (state : σ) : Option σ :=
  if h : ∃ final, Ends step? state final then some h.choose else none

section Loops

variable {σ : Type} {step? : σ → Option (Bool × σ)} {state after final : σ}

theorem Ends.unique (h : Ends step? state final) (h' : Ends step? state after) :
    final = after := by
  induction h with
  | last h =>
      cases h' with
      | last h' => simpa [h] using h'
      | next h' _ => simp [h] at h'
  | next h _ ih =>
      cases h' with
      | last h' => simp [h] at h'
      | next h' rest =>
          obtain rfl := (Prod.mk.inj (Option.some.inj (h.symm.trans h'))).2
          exact ih rest

theorem loop_eq_some_iff : loop step? state = some final ↔ Ends step? state final := by
  unfold loop
  constructor
  · intro h
    split at h
    · rename_i hends
      exact Option.some.inj h ▸ hends.choose_spec
    · cases h
  · intro h
    have hends : ∃ final, Ends step? state final := ⟨final, h⟩
    rw [dif_pos hends, hends.choose_spec.unique h]

theorem loop_last (h : step? state = some (true, final)) : loop step? state = some final :=
  loop_eq_some_iff.2 (.last h)

theorem loop_next (h : step? state = some (false, after)) :
    loop step? state = loop step? after := by
  ext final
  rw [loop_eq_some_iff, loop_eq_some_iff]
  constructor
  · intro hends
    cases hends with
    | last h' => simp [h] at h'
    | next h' rest =>
        obtain rfl := (Prod.mk.inj (Option.some.inj (h.symm.trans h'))).2
        exact rest
  · exact .next h

end Loops

/-! ## Explorations -/

/-- An exploration: for each module found the one it was found from, the modules seen, those whose
edges are still to be followed, those found in the order of their discovery, and whether the goal is
one of them. -/
structure Exploration where
  parent : Array (Option Nat)
  seen : Array Bool
  queue : List Nat
  found : List Nat := []
  isAtGoal : Bool := false

namespace Exploration

def start? (size root : Nat) : Option Exploration := do
  let seen ← put? (Array.replicate size false) root true
  return { parent := Array.replicate size none, seen, queue := [root] }

def discover? (state : Exploration) (goal : Option Nat) (node target : Nat) :
    Option Exploration := do
  let seen ← put? state.seen target true
  let parent ← put? state.parent target (some node)
  return {
    parent, seen, queue := state.queue ++ [target], found := state.found ++ [target]
    isAtGoal := goal = some target }

/-- Follows the admitted edges of a module to modules that are new, up to the goal. -/
def follow? (admits? : Nat → Arc → Option Bool) (goal : Option Nat) (node : Nat) :
    List Arc → Exploration → Option Exploration
  | [], state => some state
  | edge :: edges, state => do
      let isSeen ← state.seen[edge.target]?
      let isAdmitted ← admits? node edge
      if isAdmitted && !isSeen then
        let state ← state.discover? goal node edge.target
        if state.isAtGoal then some state else follow? admits? goal node edges state
      else follow? admits? goal node edges state

/-- Takes a module off the queue and follows its edges. The last step finds the queue empty or comes
to the goal. -/
def step? (index : Index) (admits? : Nat → Arc → Option Bool) (goal : Option Nat)
    (state : Exploration) : Option (Bool × Exploration) :=
  match state.queue with
  | [] => some (true, state)
  | node :: queue => do
      let state ← follow? admits? goal node (index.edges node) { state with queue }
      return (state.isAtGoal, state)

end Exploration

/-- Goes from a module to its parent and puts that before the path, unless the module is the
start. -/
def unwindStep? (parent : Array (Option Nat)) (start : Nat) (state : Nat × List Nat) :
    Option (Bool × Nat × List Nat) := do
  if state.1 = start then some (true, state)
  else
    match ← parent[state.1]? with
    | none => some (true, state)
    | some previous => some (false, previous, previous :: state.2)

/-- The path from the start to a module, from parent to parent. -/
noncomputable def unwind? (parent : Array (Option Nat)) (start goal : Nat) : Option (List Nat) := do
  let state ← loop (unwindStep? parent start) (goal, [goal])
  return state.2

/-- Goes from a module to its parent and puts that before the path, unless the parent is the
root. -/
def hopStep? (parent : Array (Option Nat)) (root : Nat) (state : Nat × List Nat) :
    Option (Bool × Nat × List Nat) := do
  match ← parent[state.1]? with
  | none => some (true, state)
  | some previous =>
      if previous = root then some (true, state) else some (false, previous, previous :: state.2)

/-- The path from a root to a module without the root, from parent to parent. -/
noncomputable def hops? (parent : Array (Option Nat)) (root target : Nat) : Option (List Nat) := do
  let state ← loop (hopStep? parent root) (target, [target])
  return state.2

def isTaken? (root node : Nat) (edge : Arc) : Option Bool := some (node = root || edge.followable)

def isSame? (components : Array (Option Nat)) (i j : Nat) : Option Bool := do
  return (← components[i]?) = (← components[j]?)

def leadsInto? (components : Array (Option Nat)) (start _node : Nat) (edge : Arc) : Option Bool :=
  isSame? components edge.target start

namespace Index

noncomputable def wayBack? (index : Index) (components : Array (Option Nat)) (start goal : Nat) :
    Option (List Nat) :=
  if start = goal then some [start]
  else do
    let state ← Exploration.start? index.size start
    let state ← loop (Exploration.step? index (leadsInto? components start) (some goal)) state
    if state.isAtGoal then unwind? state.parent start goal else some [start, goal]

noncomputable def walk? (index : Index) (root : Nat) : Option (List (Nat × List Nat)) := do
  let state ← Exploration.start? index.size root
  let state ← loop (Exploration.step? index (isTaken? root) none) state
  state.found.mapM fun target => do return (target, ← hops? state.parent root target)

end Index

/-! ## Components -/

structure ComponentTables where
  order : Array (Option Nat)
  lowlink : Array Nat
  onStack : Array Bool
  pathStack : List Nat
  component : Array (Option Nat)
  nextOrder : Nat
  components : Nat

namespace ComponentTables

def initial (size : Nat) : ComponentTables :=
  { order := Array.replicate size none
    lowlink := Array.replicate size 0
    onStack := Array.replicate size false
    pathStack := []
    component := Array.replicate size none
    nextOrder := 0
    components := 0 }

def openNode? (state : ComponentTables) (node : Nat) : Option ComponentTables := do
  let order ← put? state.order node (some state.nextOrder)
  let lowlink ← put? state.lowlink node state.nextOrder
  let onStack ← put? state.onStack node true
  return { state with
    order, lowlink, onStack, pathStack := node :: state.pathStack
    nextOrder := state.nextOrder + 1 }

def lower? (state : ComponentTables) (node number : Nat) : Option ComponentTables := do
  let lowlink ← put? state.lowlink node (min (← state.lowlink[node]?) number)
  return { state with lowlink }

def unstack? (root : Nat) : List Nat → ComponentTables → Option ComponentTables
  | [], state => some { state with pathStack := [] }
  | node :: rest, state => do
      let onStack ← put? state.onStack node false
      let component ← put? state.component node (some state.components)
      let state := { state with onStack, component, pathStack := rest }
      if node = root then some state else unstack? root rest state

def closeComponent? (state : ComponentTables) (root : Nat) : Option ComponentTables := do
  let state ← unstack? root state.pathStack state
  return { state with components := state.components + 1 }

def passOn? (state : ComponentTables) (node : Nat) : List (Nat × Nat) → Option ComponentTables
  | [] => some state
  | parent :: _ => do state.lower? parent.1 (← state.lowlink[node]?)

/-- Follows an edge of the last module on the current path, or leaves the module. The path is given
by its modules, last one first, each with the number of its edges that are followed. -/
def step? (index : Index) (state : List (Nat × Nat) × ComponentTables) :
    Option (Bool × List (Nat × Nat) × ComponentTables) :=
  match state.1 with
  | [] => some (true, state)
  | frame :: rest =>
      match (index.edges frame.1)[frame.2]? with
      | some edge => do
          match ← state.2.order[edge.target]? with
          | none =>
              let opened ← state.2.openNode? edge.target
              return (false, (edge.target, 0) :: (frame.1, frame.2 + 1) :: rest, opened)
          | some number =>
              let followed ←
                (if ← state.2.onStack[edge.target]? then state.2.lower? frame.1 number
                else some state.2)
              return (false, (frame.1, frame.2 + 1) :: rest, followed)
      | none => do
          let left ← state.2.passOn? frame.1 rest
          if some (← left.lowlink[frame.1]?) = (← left.order[frame.1]?) then
            return (false, rest, ← left.closeComponent? frame.1)
          else return (false, rest, left)

noncomputable def searchFrom? (index : Index) (state : ComponentTables) (root : Nat) :
    Option ComponentTables := do
  if (← state.order[root]?).isNone then
    let last ← loop (step? index) ([(root, 0)], ← state.openNode? root)
    return last.2
  else some state

end ComponentTables

namespace Index

noncomputable def components? (index : Index) : Option (Array (Option Nat)) := do
  let state ← (List.range index.size).foldlM (ComponentTables.searchFrom? index)
    (ComponentTables.initial index.size)
  return state.component

/-! ## Cycles -/

noncomputable def cycleOf? (index : Index) (components : Array (Option Nat)) (node : Nat)
    (edge : Arc) : Option (Option (List String)) := do
  let isCircular ← (if edge.target = node then some true else isSame? components edge.target node)
  if isCircular then
    let path ← index.wayBack? components edge.target node
    return some (← path.mapM fun position => index.sources[position]?)
  else return none

def withCycleAt (dependencies : List Dependency) (position : Nat) :
    Option (List String) → List Dependency
  | none => dependencies
  | some cycle => dependencies.modify position (·.withCycle (some cycle))

/-- The dependencies of a module after the mark for one of its edges. -/
noncomputable def markEdge? (index : Index) (components : Array (Option Nat)) (node : Nat)
    (dependencies : List Dependency) (edge : Arc) : Option (List Dependency) := do
  return withCycleAt dependencies edge.dependency (← index.cycleOf? components node edge)

/-- The module with its dependencies first without marks and then marked edge by edge. -/
noncomputable def markModule? (index : Index) (components : Array (Option Nat))
    (entry : Module × Nat) : Option Module := do
  let dependencies ← (index.edges entry.2).foldlM (index.markEdge? components entry.2)
    (entry.1.dependencies.map (·.withCycle none))
  return { entry.1 with dependencies }

end Index

noncomputable def withCycles? (graph : Graph) : Option Graph := do
  let index := Index.ofGraph graph
  let components ← index.components?
  let modules ← graph.modules.zipIdx.mapM (index.markModule? components)
  return { graph with modules }

/-! ## Reachability -/

structure ReachTables where
  reaches : Array (List Routes)
  reachable : Array (List Arrival)

def book? (booked : Array (Option Nat)) (root target : Nat) : Option (Array (Option Nat)) := do
  if (← booked[target]?).isNone then put? booked target (some root) else some booked

namespace Index

/-- Books a module that a walk found and makes an entry for it, if it is a target. -/
def recordFound? (index : Index) (isTarget : Array Bool) (root : Nat)
    (state : Array (Option Nat) × List Route) (found : Nat × List Nat) :
    Option (Array (Option Nat) × List Route) := do
  if ← isTarget[found.1]? then
    let booked ← book? state.1 root found.1
    let source ← index.sources[found.1]?
    let via ← found.2.mapM fun position => index.sources[position]?
    return (booked, state.2 ++ [⟨source, via⟩])
  else return state

/-- Books what a root reaches, and lists it in the table. -/
noncomputable def recordRoot? (index : Index) (heading : String) (isTarget : Array Bool)
    (state : Array (Option Nat) × Array (List Routes)) (root : Nat) :
    Option (Array (Option Nat) × Array (List Routes)) := do
  let found ← index.walk? root
  let result ← found.foldlM (index.recordFound? isTarget root) (state.1, [])
  if result.2.isEmpty then return (result.1, state.2)
  else return (result.1, ← append? state.2 root { routes := result.2, heading })

def recordArrival? (index : Index) (heading : String) (booked : Array (Option Nat))
    (reachable : Array (List Arrival)) (entry : Bool × Nat) : Option (Array (List Arrival)) := do
  if entry.1 then
    let root ← booked[entry.2]?
    let name ← root.mapM fun position => index.sources[position]?
    append? reachable entry.2 { isReached := root.isSome, heading, root := name }
  else return reachable

/-- Adds to the tables what a rule says. A root counts as reached from itself. -/
noncomputable def recordRule? (index : Index) (graph : Graph) (tables : ReachTables)
    (rule : PreparedRule) : Option ReachTables := do
  let isTarget := (graph.modules.map fun m => rule.aimsAt m.source).toArray
  let roots := (graph.modules.zipIdx.filter fun entry => rule.appliesTo entry.1).map Prod.snd
  let result ← roots.foldlM (index.recordRoot? rule.heading isTarget)
    (Array.replicate index.size none, tables.reaches)
  let booked ← roots.foldlM (fun booked root => put? booked root (some root)) result.1
  let reachable ← isTarget.toList.zipIdx.foldlM (index.recordArrival? rule.heading booked)
    tables.reachable
  return { reaches := result.2, reachable }

end Index

noncomputable def withReachability? (graph : Graph) (rules : PreparedRuleSet) : Option Graph := do
  let index := Index.ofGraph graph
  let tables ← rules.aboutReachability.foldlM (index.recordRule? graph)
    { reaches := Array.replicate index.size [], reachable := Array.replicate index.size [] }
  let entries := (graph.modules.zip tables.reaches.toList).zip tables.reachable.toList
  let modules := entries.map fun entry =>
    { entry.1.1 with reaches := nonEmpty? entry.1.2, reachable := nonEmpty? entry.2 }
  return { graph with modules }

/-! ## Positions in range -/

section InRange

variable {α : Type} {n : Nat}

@[simp] theorem getElem?_toArray (values : Vector α n) (i : Fin n) :
    values.toArray[i.val]? = some (values.get i) := by
  simp [Vector.get_eq_getElem]

@[simp] theorem put?_toArray (values : Vector α n) (i : Fin n) (value : α) :
    put? values.toArray i.val value = some (values.set i value i.isLt).toArray := by
  have hlt : i.val < values.toArray.size := by simp
  rw [put?, dif_pos hlt]
  rfl

end InRange

end Plain

/-- An edge with a plain number for its target. -/
def Edge.arc {n : Nat} (edge : Edge n) : Plain.Arc :=
  { dependency := edge.dependency, target := edge.target.val, followable := edge.followable }

namespace Plain.Index

/-- An index by plain numbers says the same as the links of a graph. -/
structure Agrees {n : Nat} (index : Index) (links : Links n) : Prop where
  size_eq : index.size = n
  source_eq : ∀ i : Fin n, index.sources[i.val]? = some (links.nameAt i)
  edges_eq : ∀ i : Fin n, index.edges i.val = (links.row i).map Edge.arc
  position?_eq : ∀ source, index.position? source = (links.position? source).map Fin.val

theorem getElem?_foldl_insert_val {n : Nat} (sources : Vector String n) (indices : List (Fin n))
    {plain : Std.TreeMap String Nat} {positions : Std.TreeMap String (Fin n)}
    (h : ∀ source : String, plain[source]? = positions[source]?.map Fin.val) (source : String) :
    (indices.foldl (fun plain i => plain.insert (sources.get i) i.val) plain)[source]? =
      ((indices.foldl (fun positions i => positions.insert (sources.get i) i)
        positions)[source]?).map Fin.val := by
  induction indices generalizing plain positions with
  | nil => exact h source
  | cons i rest ih =>
      refine ih fun other => ?_
      rw [Std.TreeMap.getElem?_insert, Std.TreeMap.getElem?_insert, h]
      split <;> rfl

theorem zipIdx_modules (graph : Graph) :
    graph.modules.zipIdx =
      (List.finRange graph.modules.length).map fun i => (graph.moduleAt i, i.val) := by
  refine List.ext_getElem (by simp) fun i _ _ => ?_
  simp [Graph.moduleAt]

theorem getElem?_lastPositions (graph : Graph) (source : String) :
    (((graph.modules.map Module.source).zipIdx.foldl
        (fun positions entry => positions.insert entry.1 entry.2)
        (∅ : Std.TreeMap String Nat))[source]?) =
      (graph.links.position? source).map Fin.val := by
  have hentries : (graph.modules.map Module.source).zipIdx =
      (List.finRange graph.modules.length).map
        fun i => ((graph.moduleVector.map Module.source).get i, i.val) := by
    rw [List.zipIdx_map, zipIdx_modules, List.map_map]
    simp [Function.comp_def]
  rw [hentries, List.foldl_map]
  exact getElem?_foldl_insert_val _ _ (by simp) source

theorem edgesOf_eq_map_arc {n : Nat} {plain : Std.TreeMap String Nat}
    {positions : Std.TreeMap String (Fin n)}
    (h : ∀ source : String, plain[source]? = positions[source]?.map Fin.val) (m : Module) :
    edgesOf plain m = (Graph.edgesOf positions m).map Edge.arc := by
  unfold edgesOf Graph.edgesOf
  rw [List.map_filterMap]
  refine List.filterMap_congr fun entry _ => ?_
  rw [h]
  cases hresolve : entry.1.couldNotResolve with
  | true => simp [hresolve]
  | false =>
      simp only [hresolve, Bool.false_eq_true, if_false, Option.map_map]
      rfl

/-- The index of a graph by plain numbers says the same as its links. -/
theorem ofGraph_agrees (graph : Graph) : (ofGraph graph).Agrees graph.links where
  size_eq := by simp [ofGraph, size]
  source_eq i := by
    simp [ofGraph, Graph.sourceAt, Graph.moduleAt]
  edges_eq i := by
    have hedges := edgesOf_eq_map_arc (getElem?_lastPositions graph) (graph.moduleAt i)
    rw [Graph.links_row, ← hedges]
    simp [ofGraph, edges, Graph.moduleAt]
  position?_eq := getElem?_lastPositions graph

end Plain.Index

end DependencyRules
