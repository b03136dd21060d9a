import DependencyRules.Proofs.Components
import DependencyRules.Proofs.PlainTables

/-!
# The search for components on plain tables

A search for components takes the same steps on plain tables: each of them finds its entries, and
the last one comes when no frame is left.
-/

namespace DependencyRules

namespace ComponentSearch

variable {n : Nat}

/-- The state of a search by plain numbers. -/
def tables (state : ComponentSearch n) : Plain.ComponentTables :=
  { order := state.order.toArray
    lowlink := state.lowlink.toArray
    onStack := state.onStack.toArray
    pathStack := state.pathStack.map Fin.val
    component := state.component.toArray
    nextOrder := state.nextOrder
    components := state.components }

/-- The number of edges of a module that are followed when some of them are left. -/
def followed (links : Links n) (node : Fin n) (left : List (Edge n)) : Nat :=
  (links.row node).length - left.length

/-- The frames of a path by plain numbers: each module with the number of its edges that are
followed. -/
def places (links : Links n) (frames : List (Frame n)) : List (Nat × Nat) :=
  frames.map fun frame => (frame.node.val, followed links frame.node frame.edges)

section Followed

variable {links : Links n} {node : Fin n} {edge : Edge n} {left : List (Edge n)}

theorem places_cons (frames : List (Frame n)) :
    places links (⟨node, left⟩ :: frames) = (node.val, followed links node left) ::
      places links frames := rfl

theorem followed_row : followed links node (links.row node) = 0 := Nat.sub_self _

theorem followed_cons (hleft : edge :: left <:+ links.row node) :
    followed links node (edge :: left) + 1 = followed links node left := by
  have hle := hleft.length_le
  unfold followed
  rw [List.length_cons] at hle ⊢
  omega

theorem getElem?_followed (hleft : left <:+ links.row node) :
    (links.row node)[followed links node left]? = left.head? := by
  obtain ⟨before, hrow⟩ := hleft
  have hlength : followed links node left = before.length := by
    rw [followed, ← hrow, List.length_append]
    omega
  rw [hlength, ← hrow, List.getElem?_append_right (by omega), Nat.sub_self,
    List.head?_eq_getElem?]

end Followed

section Tables

variable (state : ComponentSearch n) (node : Fin n)

theorem tables_initial : (initial n).tables = Plain.ComponentTables.initial n := rfl

theorem openNode?_tables :
    state.tables.openNode? node.val = some (state.openNode node).tables := by
  simp [Plain.ComponentTables.openNode?, tables, openNode]

theorem lower?_tables (number : Nat) :
    state.tables.lower? node.val number = some (state.lower node number).tables := by
  simp [Plain.ComponentTables.lower?, tables, lower, Vector.get_eq_getElem]

theorem unstack?_tables (stack : List (Fin n)) :
    Plain.ComponentTables.unstack? node.val (stack.map Fin.val) state.tables =
      some (unstack node stack state).tables := by
  induction stack generalizing state with
  | nil => rfl
  | cons top rest ih =>
      have hpopped := ih
        { state with
          onStack := state.onStack.set top false top.isLt
          component := state.component.set top (some state.components) top.isLt
          pathStack := rest }
      rw [List.map_cons, Plain.ComponentTables.unstack?, unstack]
      by_cases htop : top = node
      · simp [tables, htop]
      · have hval : top.val ≠ node.val := fun heq => htop (Fin.ext heq)
        simpa [tables, htop, hval] using hpopped

theorem closeComponent?_tables :
    state.tables.closeComponent? node.val = some (state.closeComponent node).tables := by
  have hunstack := state.unstack?_tables node state.pathStack
  have hstack : state.tables.pathStack = state.pathStack.map Fin.val := rfl
  rw [Plain.ComponentTables.closeComponent?, hstack, hunstack]
  rfl

theorem passOn?_tables (links : Links n) (frames : List (Frame n)) :
    state.tables.passOn? node.val (places links frames) =
      some (state.passOn node frames).tables := by
  cases frames with
  | nil => rfl
  | cons parent rest =>
      have hlow : state.tables.lowlink[node.val]? = some (state.lowlink.get node) :=
        Plain.getElem?_toArray _ _
      have hlower := state.lower?_tables parent.node (state.lowlink.get node)
      simpa [places, Plain.ComponentTables.passOn?, passOn, hlow] using hlower

/-- Handing its lowlink over does not change that of the module itself. -/
theorem passOn_lowlink (frames : List (Frame n)) :
    (state.passOn node frames).lowlink.get node = state.lowlink.get node := by
  cases frames with
  | nil => rfl
  | cons parent rest =>
      show (state.lowlink.set parent.node _ parent.node.isLt).get node = _
      rw [get_set_fin]
      by_cases hparent : node = parent.node
      · rw [if_pos hparent, hparent, Nat.min_self]
      · rw [if_neg hparent]

end Tables

end ComponentSearch

namespace Plain.ComponentTables

open ComponentSearch

variable {n : Nat} {index : Index} {links : Links n}

/-- Each step of a search is a step on its tables. -/
theorem step?_eq_some (hindex : index.Agrees links)
    {before after : List (Frame n) × ComponentSearch n} (hstep : Step links before after)
    (hedges : ∀ frame ∈ before.1, frame.edges <:+ links.row frame.node) :
    step? index (places links before.1, before.2.tables) =
      some (false, places links after.1, after.2.tables) := by
  have hnext : ∀ {node : Fin n} {left : List (Edge n)}, left <:+ links.row node →
      (index.edges node.val)[followed links node left]? = left.head?.map Edge.arc := by
    intro node left hleft
    rw [hindex.edges_eq, List.getElem?_map, getElem?_followed hleft]
  cases hstep with
  | openNode frames state node edge left hnew =>
      have hleft : edge :: left <:+ links.row node := hedges ⟨node, edge :: left⟩ (by simp)
      have hnone : state.order.get edge.target = none := by simpa [IsOpened] using hnew
      have horder : state.tables.order[edge.target.val]? = some none :=
        hnone ▸ getElem?_toArray _ _
      have hopen := state.openNode?_tables edge.target
      simp [step?, places_cons, hnext hleft, Edge.arc, horder, hopen, followed_cons hleft,
        followed_row]
  | follow frames state node edge left k hnumber =>
      have hleft : edge :: left <:+ links.row node := hedges ⟨node, edge :: left⟩ (by simp)
      have horder : state.tables.order[edge.target.val]? = some (some k) :=
        hnumber ▸ getElem?_toArray _ _
      have honStack : state.tables.onStack[edge.target.val]? =
          some (state.onStack.get edge.target) := getElem?_toArray _ _
      have hlower := state.lower?_tables node k
      cases hstack : state.onStack.get edge.target with
      | true =>
          rw [hstack] at honStack
          simp [step?, places_cons, hnext hleft, Edge.arc, horder, honStack, hlower,
            followed_cons hleft]
      | false =>
          rw [hstack] at honStack
          simp [step?, places_cons, hnext hleft, Edge.arc, horder, honStack, followed_cons hleft]
  | leave frames state node =>
      have hleft : [] <:+ links.row node := List.nil_suffix
      have hpass := state.passOn?_tables node links frames
      have hlow : (state.passOn node frames).tables.lowlink[node.val]? =
          some (state.lowlink.get node) :=
        state.passOn_lowlink node frames ▸ getElem?_toArray _ _
      have horder : (state.passOn node frames).tables.order[node.val]? =
          some (state.order.get node) :=
        state.passOn_order node frames ▸ getElem?_toArray _ _
      have hclose := (state.passOn node frames).closeComponent?_tables node
      rw [leave_eq]
      by_cases hroot : some (state.lowlink.get node) = state.order.get node
      · rw [if_pos hroot]
        rw [← hroot] at horder
        simp [step?, places_cons, hnext hleft, hpass, hlow, horder, hclose]
      · simp [step?, places_cons, hnext hleft, hpass, hlow, horder, hroot]

/-- A search comes to its end on its tables. -/
theorem ends_of_steps (hindex : index.Agrees links)
    {before : List (Frame n) × ComponentSearch n} {final : ComponentSearch n}
    (hsteps : Relation.ReflTransGen (Step links) before ([], final))
    (hrunning : Running links before.1 before.2) :
    Ends (step? index) (places links before.1, before.2.tables) ([], final.tables) := by
  induction hsteps using Relation.ReflTransGen.head_induction_on with
  | refl => exact .last rfl
  | head hstep _ ih =>
      exact .next (step?_eq_some hindex hstep hrunning.edges) (ih (hstep.running hrunning))

theorem searchFrom?_eq_some (hindex : index.Agrees links) {state : ComponentSearch n}
    (hrunning : Running links [] state) (root : Fin n) :
    searchFrom? index state.tables root.val = some (searchFrom links state root).tables := by
  have horder : state.tables.order[root.val]? = some (state.order.get root) := getElem?_toArray _ _
  rw [searchFrom?, horder]
  by_cases hnone : (state.order.get root).isNone = true
  · have hnew : ¬ state.IsOpened root := by
      simpa [IsOpened, Option.isSome_iff_ne_none] using hnone
    have hends := ends_of_steps hindex (steps_searchFrom hnew) (hrunning.start hnew)
    have hplaces : places links [⟨root, links.row root⟩] = [(root.val, 0)] := by
      rw [places_cons, followed_row]
      rfl
    have hloop : loop (step? index) ([(root.val, 0)], (state.openNode root).tables) =
        some ([], (searchFrom links state root).tables) := by
      rw [loop_eq_some_iff, ← hplaces]
      exact hends
    have hopen := state.openNode?_tables root
    simp only [Option.bind_eq_bind, Option.bind_some, if_pos hnone, hopen, hloop]
    rfl
  · rw [searchFrom, if_neg hnone]
    simp only [Option.bind_eq_bind, Option.bind_some, if_neg hnone]

theorem foldlM_searchFrom? (hindex : index.Agrees links) {state : ComponentSearch n}
    (hrunning : Running links [] state) (roots : List (Fin n)) :
    (roots.map Fin.val).foldlM (searchFrom? index) state.tables =
      some (roots.foldl (searchFrom links) state).tables := by
  induction roots generalizing state with
  | nil => rfl
  | cons root rest ih =>
      rw [List.map_cons, List.foldlM_cons, searchFrom?_eq_some hindex hrunning root]
      exact ih (hrunning.searchFrom root).1

end Plain.ComponentTables

/-- The search for components finds every entry that it looks up and comes to an end. -/
theorem Plain.Index.components?_eq_some {n : Nat} {index : Index} {links : Links n}
    (hindex : index.Agrees links) : index.components? = some links.components.toArray := by
  have hroots : List.range index.size = (List.finRange n).map Fin.val := by
    rw [hindex.size_eq, List.map_coe_finRange_eq_range]
  have hsearch := ComponentTables.foldlM_searchFrom? hindex (ComponentSearch.running_initial links)
    (List.finRange n)
  rw [ComponentSearch.tables_initial] at hsearch
  rw [components?, hroots, hindex.size_eq, hsearch]
  rfl

end DependencyRules
