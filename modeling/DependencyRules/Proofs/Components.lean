import DependencyRules.Proofs.SearchInvariant
import Mathlib.Algebra.BigOperators.Fin
import Mathlib.Algebra.Order.BigOperators.Group.Finset

/-!
# The search finds the strongly connected components

A run keeps the invariant of the search from step to step. No sequence of steps is endless, and a
run has fuel for all of its steps. In the end every module is closed, and two modules are in one
component exactly when each leads to the other.
-/

namespace DependencyRules

namespace ComponentSearch

variable {n : Nat}

/-! ## The steps of a run -/

/-- An edge from one module to another is not waiting on a frame any more. -/
def IsFollowed (links : Links n) (frames : List (Frame n)) (x y : Fin n) : Prop :=
  ∃ before edge after, links.row x = before ++ edge :: after ∧ edge.target = y ∧
    ∀ frame ∈ frames, frame.node = x → frame.edges.length ≤ after.length

/-- What holds between the steps of a run: the frames hold the last edges of their modules, and the
invariant holds of the path that they make. -/
structure Running (links : Links n) (frames : List (Frame n)) (state : ComponentSearch n) :
    Prop where
  edges : ∀ frame ∈ frames, frame.edges <:+ links.row frame.node
  invariant : Invariant links (frames.map Frame.node) (IsFollowed links frames) state

section Runs

variable {links : Links n} {frames : List (Frame n)} {state : ComponentSearch n}
  {node : Fin n} {edge : Edge n} {edges : List (Edge n)}

/-- Taking an edge off a frame makes it followed, and no other. -/
theorem isFollowed_of_take (pushed : List (Frame n)) (hedges : edge :: edges <:+ links.row node)
    {x y : Fin n} (h : IsFollowed links (pushed ++ ⟨node, edges⟩ :: frames) x y) :
    IsFollowed links (pushed ++ ⟨node, edge :: edges⟩ :: frames) x y ∨
      x = node ∧ y = edge.target := by
  obtain ⟨before, taken, after, hrow, rfl, hwaiting⟩ := h
  have hothers : ∀ frame ∈ pushed ++ frames, frame.node = x →
      frame.edges.length ≤ after.length := by
    intro frame hmem
    apply hwaiting
    simp only [List.mem_append, List.mem_cons] at hmem ⊢
    tauto
  by_cases hx : node = x
  · subst hx
    have hle : edges.length ≤ after.length := hwaiting ⟨node, edges⟩ (by simp) rfl
    by_cases hlt : edges.length < after.length
    · refine .inl ⟨before, taken, after, hrow, rfl, fun frame hmem hframe => ?_⟩
      simp only [List.mem_append, List.mem_cons] at hmem
      rcases hmem with hmem | rfl | hmem
      · exact hothers frame (List.mem_append_left _ hmem) hframe
      · exact hlt
      · exact hothers frame (List.mem_append_right _ hmem) hframe
    · -- As many edges come after the one taken as wait on the frame, so it is the first of those.
      have hlength : (edge :: edges).length = (taken :: after).length := by
        simp only [List.length_cons]
        omega
      obtain ⟨front, hfront⟩ := hedges
      rw [hrow] at hfront
      have heq := (List.append_inj' hfront hlength).2
      rw [List.cons.injEq] at heq
      exact .inr ⟨rfl, heq.1 ▸ rfl⟩
  · refine .inl ⟨before, taken, after, hrow, rfl, fun frame hmem hframe => ?_⟩
    simp only [List.mem_append, List.mem_cons] at hmem
    rcases hmem with hmem | rfl | hmem
    · exact hothers frame (List.mem_append_left _ hmem) hframe
    · exact absurd hframe hx
    · exact hothers frame (List.mem_append_right _ hmem) hframe

theorem isFollowed_of_open {target x y : Fin n}
    (h : IsFollowed links (⟨target, links.row target⟩ :: frames) x y) :
    x ≠ target ∧ IsFollowed links frames x y := by
  obtain ⟨before, taken, after, hrow, htarget, hwaiting⟩ := h
  refine ⟨?_, before, taken, after, hrow, htarget,
    fun frame hmem => hwaiting frame (List.mem_cons_of_mem _ hmem)⟩
  rintro rfl
  have hle : (links.row x).length ≤ after.length := hwaiting _ (List.mem_cons_self ..) rfl
  rw [hrow] at hle
  simp only [List.length_append, List.length_cons] at hle
  omega

/-- A step along an edge to a module that is not open yet. -/
theorem Running.openNode (h : Running links (⟨node, edge :: edges⟩ :: frames) state)
    (hnew : ¬ state.IsOpened edge.target) :
    Running links (⟨edge.target, links.row edge.target⟩ :: ⟨node, edges⟩ :: frames)
      (state.openNode edge.target) := by
  have hedges : edge :: edges <:+ links.row node :=
    h.edges ⟨node, edge :: edges⟩ (List.mem_cons_self ..)
  have hjoins : links.Joins node edge.target :=
    ⟨edge, hedges.mem (List.mem_cons_self ..), rfl⟩
  have hopen := h.invariant.openNode hnew
    (by simpa using hjoins) (fun x y hxy => isFollowed_of_open hxy)
  refine ⟨?_, ?_⟩
  · intro frame hmem
    simp only [List.mem_cons] at hmem
    rcases hmem with rfl | rfl | hmem
    · exact List.suffix_refl _
    · exact (List.suffix_cons ..).trans hedges
    · exact h.edges frame (List.mem_cons_of_mem _ hmem)
  · have hmem : node ∈ edge.target :: node :: frames.map Frame.node := by simp
    have hlt := (List.pairwise_cons.1 hopen.path_sorted).1 node (by simp)
    have hle := hopen.low_le node hmem
    exact hopen.follow hmem ((openNode_isOpened ..).2 (.inl rfl)) (fun _ => by omega)
      (fun x y hxy => isFollowed_of_take [_] hedges hxy)

/-- A step along an edge to a module that is open or closed. -/
theorem Running.follow (h : Running links (⟨node, edge :: edges⟩ :: frames) state) {k : Nat}
    (hnumber : state.order.get edge.target = some k) :
    Running links (⟨node, edges⟩ :: frames)
      (if state.onStack.get edge.target then state.lower node k else state) := by
  have hedges : edge :: edges <:+ links.row node :=
    h.edges ⟨node, edge :: edges⟩ (List.mem_cons_self ..)
  have hjoins : links.Joins node edge.target :=
    ⟨edge, hedges.mem (List.mem_cons_self ..), rfl⟩
  have hopened : state.IsOpened edge.target := by simp [IsOpened, hnumber]
  have hk : state.number edge.target = k := by simp [number, hnumber]
  have hmem : node ∈ node :: frames.map Frame.node := List.mem_cons_self ..
  refine ⟨?_, ?_⟩
  · intro frame hframe
    rcases List.mem_cons.1 hframe with rfl | hframe
    · exact (List.suffix_cons ..).trans hedges
    · exact h.edges frame (List.mem_cons_of_mem _ hframe)
  · split
    · rename_i honStack
      have hstack := (h.invariant.onStack_iff edge.target).1 honStack
      have hlower := h.invariant.lower hmem hstack (.single hjoins)
      rw [hk] at hlower
      refine hlower.follow hmem hopened (fun _ => ?_)
        (fun x y hxy => isFollowed_of_take [] hedges hxy)
      show (state.lowlink.set node (min (state.lowlink.get node) k) node.isLt).get node ≤
        state.number edge.target
      rw [get_set_fin, if_pos rfl, hk]
      exact Nat.min_le_right _ _
    · rename_i honStack
      refine h.invariant.follow hmem hopened (fun hstack => ?_)
        (fun x y hxy => isFollowed_of_take [] hedges hxy)
      exact absurd ((h.invariant.onStack_iff edge.target).2 hstack) honStack

/-- The lowlink of a module goes over to the module before it on the path. -/
def passOn (state : ComponentSearch n) (node : Fin n) : List (Frame n) → ComponentSearch n
  | [] => state
  | parent :: _ => state.lower parent.node (state.lowlink.get node)

theorem leave_eq (state : ComponentSearch n) (node : Fin n) (frames : List (Frame n)) :
    state.leave node frames =
      if some (state.lowlink.get node) = state.order.get node then
        (state.passOn node frames).closeComponent node
      else state.passOn node frames := by
  cases frames <;> rfl

theorem passOn_order (state : ComponentSearch n) (node : Fin n) (frames : List (Frame n)) :
    (state.passOn node frames).order = state.order := by
  cases frames <;> rfl

theorem Invariant.passOn {Followed : Fin n → Fin n → Prop}
    (h : Invariant links (node :: frames.map Frame.node) Followed state) :
    Invariant links (node :: frames.map Frame.node) Followed (state.passOn node frames) ∧
      (state.passOn node frames).lowlink.get node = state.lowlink.get node ∧
      ∀ parent ∈ (frames.map Frame.node).head?,
        (state.passOn node frames).lowlink.get parent ≤ state.lowlink.get node := by
  cases frames with
  | nil => exact ⟨h, rfl, by simp⟩
  | cons parent before =>
      have hnode := h.path_mem node (List.mem_cons_self ..)
      have hparent : parent.node ∈ node :: (parent :: before).map Frame.node := by simp
      have hlt := (List.pairwise_cons.1 h.path_sorted).1 parent.node (by simp)
      have hlow : ∀ x : Fin n, (state.lower parent.node (state.lowlink.get node)).lowlink.get x =
          if x = parent.node then min (state.lowlink.get parent.node) (state.lowlink.get node)
          else state.lowlink.get x := fun x => get_set_fin ..
      obtain ⟨x, hx, heq, hreach⟩ := h.low_reached node (List.mem_cons_self ..)
      have hdown := h.down parent.node hparent node hnode (Nat.le_of_lt hlt)
      have hlower := h.lower hparent hx (hdown.trans hreach)
      rw [heq] at hlower
      unfold ComponentSearch.passOn
      refine ⟨hlower, ?_, ?_⟩
      · have hne : node ≠ parent.node := by
          intro hsame
          rw [← hsame] at hlt
          exact Nat.lt_irrefl _ hlt
        rw [hlow, if_neg hne]
      · intro first hfirst
        obtain rfl : parent.node = first := by simpa using hfirst
        rw [hlow, if_pos rfl]
        exact Nat.min_le_right _ _

theorem isFollowed_of_left {x y : Fin n} (h : IsFollowed links frames x y) :
    IsFollowed links (⟨node, []⟩ :: frames) x y := by
  obtain ⟨before, taken, rest, hrow, htarget, hwaiting⟩ := h
  refine ⟨before, taken, rest, hrow, htarget, fun frame hmem hframe => ?_⟩
  rcases List.mem_cons.1 hmem with rfl | hmem
  · exact Nat.zero_le _
  · exact hwaiting frame hmem hframe

/-- A step that leaves a module whose edges are all followed. -/
theorem Running.leave (h : Running links (⟨node, []⟩ :: frames) state) :
    Running links frames (state.leave node frames) := by
  obtain ⟨hinvariant, hlow, hparent⟩ := h.invariant.passOn
  have horder := passOn_order state node frames
  refine ⟨fun frame hmem => h.edges frame (List.mem_cons_of_mem _ hmem), ?_⟩
  rw [leave_eq, ← horder, ← hlow]
  rw [← hlow] at hparent
  generalize state.passOn node frames = after at hinvariant hparent ⊢
  have hopened : after.order.get node = some (after.number node) := by
    have hnode := hinvariant.path_mem node (List.mem_cons_self ..)
    obtain ⟨k, hk⟩ := Option.isSome_iff_exists.1 (hinvariant.opened hnode)
    rw [number, hk, Option.getD_some]
  simp only [hopened, Option.some.injEq]
  split
  · rename_i hroot
    refine (hinvariant.leaveClosed hroot fun x hx hle y hxy => ?_).mono
      fun x y => isFollowed_of_left
    obtain ⟨taken, hmem, rfl⟩ := hxy
    obtain ⟨before, rest, hrow⟩ := List.append_of_mem hmem
    refine ⟨before, taken, rest, hrow, rfl, fun frame hframe hx => ?_⟩
    rcases List.mem_cons.1 hframe with rfl | hframe
    · exact Nat.zero_le _
    · have hlt := (List.pairwise_cons.1 hinvariant.path_sorted).1 frame.node
        (List.mem_map_of_mem hframe)
      rw [hx] at hlt
      omega
  · rename_i hroot
    exact (hinvariant.leaveOpen hroot hparent).mono fun x y => isFollowed_of_left

/-! ## Whole runs -/

/-- The steps that are left: one for each edge that waits on a frame and one for each frame, and the
same for the modules that are still to be opened. -/
def work (links : Links n) (frames : List (Frame n)) (state : ComponentSearch n) : Nat :=
  (frames.map fun frame => frame.edges.length + 1).sum +
    ∑ x : Fin n, if (state.order.get x).isSome then 0 else (links.row x).length + 1

theorem work_openNode {target : Fin n} (hnew : ¬ state.IsOpened target) :
    work links (⟨target, links.row target⟩ :: frames) (state.openNode target) =
      work links frames state := by
  have hothers : ∑ x ∈ Finset.univ.erase target, (if ((state.openNode target).order.get x).isSome
        then 0 else (links.row x).length + 1) =
      ∑ x ∈ Finset.univ.erase target, if (state.order.get x).isSome then 0
        else (links.row x).length + 1 := by
    refine Finset.sum_congr rfl fun x hx => ?_
    have hne : x ≠ target := Finset.ne_of_mem_erase hx
    show (if ((state.order.set target (some state.nextOrder) target.isLt).get x).isSome
      then 0 else _) = _
    rw [get_set_fin, if_neg hne]
  have hself : ((state.openNode target).order.get target).isSome = true :=
    (openNode_isOpened state target target).2 (.inl rfl)
  have hwhite : ¬ (state.order.get target).isSome = true := hnew
  unfold work
  rw [← Finset.add_sum_erase _ _ (Finset.mem_univ target),
    ← Finset.add_sum_erase Finset.univ _ (Finset.mem_univ target), hothers, if_pos hself,
    if_neg hwhite]
  simp only [List.map_cons, List.sum_cons]
  omega

theorem work_le (links : Links n) (state : ComponentSearch n) :
    work links [] state ≤ links.edgeCount + n := by
  have hcount : links.edgeCount = ∑ x : Fin n, (links.row x).length := by
    have hrows : links.rows.toList = List.ofFn links.row := toList_eq_ofFn links.rows
    have hsum : links.edgeCount = (links.rows.toList.map List.length).sum := rfl
    rw [hsum, hrows, List.map_ofFn, List.sum_ofFn]
    rfl
  have htotal : ∑ x : Fin n, ((links.row x).length + 1) = links.edgeCount + n := by
    rw [Finset.sum_add_distrib, hcount]
    simp
  unfold work
  rw [← htotal]
  simp only [List.map_nil, List.sum_nil, Nat.zero_add]
  refine Finset.sum_le_sum fun x _ => ?_
  split <;> omega

theorem leave_order (state : ComponentSearch n) (node : Fin n) (frames : List (Frame n)) :
    (state.leave node frames).order = state.order := by
  rw [leave_eq]
  split
  · rw [closeComponent_order, passOn_order]
  · rw [passOn_order]

/-- One step along the current path, from frames and a state to the next ones: an edge leads to a
module that is opened, an edge leads to a module that has a number, or a module is left. -/
inductive Step (links : Links n) :
    List (Frame n) × ComponentSearch n → List (Frame n) × ComponentSearch n → Prop
  | openNode (frames : List (Frame n)) (state : ComponentSearch n) (node : Fin n) (edge : Edge n)
      (edges : List (Edge n)) (hnew : ¬ state.IsOpened edge.target) :
      Step links (⟨node, edge :: edges⟩ :: frames, state)
        (⟨edge.target, links.row edge.target⟩ :: ⟨node, edges⟩ :: frames,
          state.openNode edge.target)
  | follow (frames : List (Frame n)) (state : ComponentSearch n) (node : Fin n) (edge : Edge n)
      (edges : List (Edge n)) (k : Nat) (hnumber : state.order.get edge.target = some k) :
      Step links (⟨node, edge :: edges⟩ :: frames, state)
        (⟨node, edges⟩ :: frames,
          if state.onStack.get edge.target then state.lower node k else state)
  | leave (frames : List (Frame n)) (state : ComponentSearch n) (node : Fin n) :
      Step links (⟨node, []⟩ :: frames, state) (frames, state.leave node frames)

section Steps

variable {before after : List (Frame n) × ComponentSearch n}

theorem Step.running (hstep : Step links before after) (h : Running links before.1 before.2) :
    Running links after.1 after.2 := by
  cases hstep with
  | openNode frames state node edge edges hnew => exact h.openNode hnew
  | follow frames state node edge edges k hnumber => exact h.follow hnumber
  | leave frames state node => exact h.leave

theorem Step.isOpened (hstep : Step links before after) {x : Fin n} (hx : before.2.IsOpened x) :
    after.2.IsOpened x := by
  cases hstep with
  | openNode frames state node edge edges hnew => exact (openNode_isOpened ..).2 (.inr hx)
  | follow frames state node edge edges k hnumber =>
      show (ComponentSearch.IsOpened (if state.onStack.get edge.target then _ else _) x)
      split <;> exact hx
  | leave frames state node =>
      unfold IsOpened
      rw [leave_order]
      exact hx

/-- Each step takes one off the work that is left. -/
theorem Step.work_eq (hstep : Step links before after) :
    work links before.1 before.2 = work links after.1 after.2 + 1 := by
  cases hstep with
  | openNode frames state node edge edges hnew =>
      rw [work_openNode hnew]
      simp only [work, List.map_cons, List.sum_cons, List.length_cons]
      omega
  | follow frames state node edge edges k hnumber =>
      have horder : (if state.onStack.get edge.target then state.lower node k
          else state).order = state.order := by
        split <;> rfl
      simp only [work, List.map_cons, List.sum_cons, List.length_cons, horder]
      omega
  | leave frames state node =>
      simp only [work, List.map_cons, List.sum_cons, List.length_nil, leave_order]
      omega

/-- As long as there is a frame there is a step, and it is the one that a run takes. -/
theorem exists_step (links : Links n) (frame : Frame n) (rest : List (Frame n))
    (state : ComponentSearch n) :
    ∃ after, Step links (frame :: rest, state) after ∧
      ∀ fuel, ComponentSearch.run links (fuel + 1) (frame :: rest) state =
        ComponentSearch.run links fuel after.1 after.2 := by
  obtain ⟨node, edges⟩ := frame
  cases edges with
  | nil => exact ⟨_, .leave rest state node, fun fuel => rfl⟩
  | cons edge edges =>
      cases hnumber : state.order.get edge.target with
      | none =>
          have hnew : ¬ state.IsOpened edge.target := by simp [IsOpened, hnumber]
          refine ⟨_, .openNode rest state node edge edges hnew, fun fuel => ?_⟩
          rw [ComponentSearch.run, hnumber]
      | some k =>
          refine ⟨_, .follow rest state node edge edges k hnumber, fun fuel => ?_⟩
          rw [ComponentSearch.run, hnumber]

/-- With enough fuel a run goes on, step by step, until no frame is left. -/
theorem steps_run {fuel : Nat} (hfuel : work links frames state ≤ fuel) :
    Relation.ReflTransGen (Step links) (frames, state)
      ([], ComponentSearch.run links fuel frames state) := by
  induction fuel generalizing frames state with
  | zero =>
      cases frames with
      | nil => exact .refl
      | cons frame rest =>
          simp only [work, List.map_cons, List.sum_cons] at hfuel
          omega
  | succ fuel ih =>
      cases frames with
      | nil => exact .refl
      | cons frame rest =>
          obtain ⟨after, hstep, hrun⟩ := exists_step links frame rest state
          have hwork : work links after.1 after.2 ≤ fuel := by
            have heq : work links (frame :: rest) state = work links after.1 after.2 + 1 :=
              hstep.work_eq
            omega
          rw [hrun]
          exact .head hstep (ih hwork)

/-- There is no endless sequence of steps. -/
theorem wellFounded_step (links : Links n) :
    WellFounded fun after before => Step links before after :=
  Subrelation.wf (r := InvImage (· < ·) fun place => work links place.1 place.2)
    (fun hstep => by
      have heq := hstep.work_eq
      show work links _ _ < work links _ _
      omega)
    (InvImage.wf _ Nat.lt_wfRel.wf)

end Steps

/-- What a whole run does: with enough steps it comes to the end of the path, and what was opened
before stays opened. -/
theorem Running.run (h : Running links frames state) {fuel : Nat}
    (hfuel : work links frames state ≤ fuel) :
    Running links [] (run links fuel frames state) ∧
      ∀ x, state.IsOpened x → (run links fuel frames state).IsOpened x := by
  have hsteps : ∀ after, Relation.ReflTransGen (Step links) (frames, state) after →
      Running links after.1 after.2 ∧ ∀ x, state.IsOpened x → after.2.IsOpened x := by
    intro after hreach
    induction hreach with
    | refl => exact ⟨h, fun x hx => hx⟩
    | tail _ hstep ih => exact ⟨hstep.running ih.1, fun x hx => hstep.isOpened (ih.2 x hx)⟩
  exact hsteps _ (steps_run hfuel)

theorem work_start_le {root : Fin n} (hnew : ¬ state.IsOpened root) :
    work links [⟨root, links.row root⟩] (state.openNode root) ≤ links.edgeCount + n := by
  rw [work_openNode hnew]
  exact work_le links state

/-- A search from a module goes on until no frame is left. -/
theorem steps_searchFrom {root : Fin n} (hnew : ¬ state.IsOpened root) :
    Relation.ReflTransGen (Step links) ([⟨root, links.row root⟩], state.openNode root)
      ([], searchFrom links state root) := by
  have hnone : (state.order.get root).isNone = true := by
    simpa [IsOpened, Option.isSome_iff_ne_none] using hnew
  rw [searchFrom, if_pos hnone]
  exact steps_run (work_start_le hnew)

/-- Between searches a new module may be opened. -/
theorem Running.start (h : Running links [] state) {root : Fin n} (hnew : ¬ state.IsOpened root) :
    Running links [⟨root, links.row root⟩] (state.openNode root) := by
  refine ⟨?_, h.invariant.openNode hnew (by simp) fun x y hxy => isFollowed_of_open hxy⟩
  intro frame hmem
  obtain rfl : frame = ⟨root, links.row root⟩ := by simpa using hmem
  exact List.suffix_refl _

/-- A search from one module closes all that it opens. -/
theorem Running.searchFrom (h : Running links [] state) (root : Fin n) :
    Running links [] (searchFrom links state root) ∧
      ∀ x, x = root ∨ state.IsOpened x → (searchFrom links state root).IsOpened x := by
  unfold ComponentSearch.searchFrom
  split
  · rename_i hnone
    have hnew : ¬ state.IsOpened root := by
      rw [Option.isNone_iff_eq_none] at hnone
      simp [IsOpened, hnone]
    obtain ⟨hrun, hopened⟩ := (h.start hnew).run (work_start_le hnew)
    exact ⟨hrun, fun x hx => hopened x ((openNode_isOpened ..).2 hx)⟩
  · rename_i hsome
    refine ⟨h, ?_⟩
    rintro x (rfl | hx)
    · simpa [IsOpened, Option.isNone_iff_eq_none, Option.isSome_iff_ne_none] using hsome
    · exact hx

theorem running_initial (links : Links n) : Running links [] (initial n) := by
  have horder : ∀ x : Fin n, (initial n).order.get x = none := by simp [initial]
  have hcomponent : ∀ x : Fin n, (initial n).component.get x = none := by simp [initial]
  have hopened : ∀ x, ¬ (initial n).IsOpened x := by
    intro x hx
    simp [IsOpened, horder] at hx
  refine ⟨by simp, ⟨⟨?_, ?_, ?_, ?_, List.Pairwise.nil, ?_⟩, ⟨?_, ?_, ?_, ?_⟩,
    ⟨List.Pairwise.nil, by simp, ?_, by simp, ?_, by simp, by simp, by simp⟩⟩⟩
  · exact fun x hx => absurd hx (hopened x)
  · exact fun x y hx => absurd hx (hopened x)
  · intro x
    exact ⟨fun hx => by simp [initial] at hx, fun hx => absurd hx.1 (hopened x)⟩
  · simp [initial]
  · intro x c hc
    rw [hcomponent] at hc
    cases hc
  · intro x c hc
    rw [hcomponent] at hc
    cases hc
  · exact fun c hc => absurd hc (Nat.not_lt_zero c)
  · intro x y c hc
    rw [hcomponent] at hc
    cases hc
  · intro x y c hc
    rw [hcomponent] at hc
    cases hc
  · intro x y hx
    simp [initial] at hx
  · intro x hx
    simp [initial] at hx

theorem Running.foldl_searchFrom (h : Running links [] state) (roots : List (Fin n)) :
    let after := roots.foldl (ComponentSearch.searchFrom links) state
    Running links [] after ∧ ∀ x, x ∈ roots ∨ state.IsOpened x → after.IsOpened x := by
  induction roots generalizing state with
  | nil => exact ⟨h, fun x hx => hx.resolve_left (List.not_mem_nil)⟩
  | cons root roots ih =>
      obtain ⟨hfirst, hopenedFirst⟩ := h.searchFrom root
      obtain ⟨hrun, hopened⟩ := ih hfirst
      refine ⟨hrun, fun x hx => hopened x ?_⟩
      rcases hx with hx | hx
      · rcases List.mem_cons.1 hx with hx | hx
        · exact .inr (hopenedFirst x (.inl hx))
        · exact .inl hx
      · exact .inr (hopenedFirst x (.inr hx))

/-- Between searches the path stack is empty. -/
theorem Running.pathStack_eq_nil (h : Running links [] state) : state.pathStack = [] := by
  rw [List.eq_nil_iff_forall_not_mem]
  intro x hx
  obtain ⟨node, hnode, _⟩ := h.invariant.up x hx
  simp at hnode

end Runs

end ComponentSearch

namespace Links

variable {n : Nat}

theorem componentSearch_running (links : Links n) :
    ComponentSearch.Running links [] links.componentSearch :=
  ((ComponentSearch.running_initial links).foldl_searchFrom (List.finRange n)).1

/-- In the end every module has a component. -/
theorem components_isSome (links : Links n) (x : Fin n) : ∃ c, links.components.get x = some c := by
  obtain ⟨hrunning, hopened⟩ :=
    (ComponentSearch.running_initial links).foldl_searchFrom (List.finRange n)
  cases hc : links.components.get x with
  | some c => exact ⟨c, rfl⟩
  | none =>
      -- An opened module without a component would still be on the stack.
      have hmem := (hrunning.invariant.mem_pathStack x).2
        ⟨hopened x (.inl (List.mem_finRange x)), hc⟩
      rw [hrunning.pathStack_eq_nil] at hmem
      simp at hmem

/-- Along edges components do not grow. -/
theorem components_le_of_reaches (links : Links n) {x y : Fin n} (h : links.Reaches x y)
    {c d : Nat} (hx : links.components.get x = some c) (hy : links.components.get y = some d) :
    d ≤ c := by
  induction h generalizing d with
  | refl =>
      rw [hx, Option.some.injEq] at hy
      omega
  | @tail middle last _ hedge ih =>
      obtain ⟨e, he⟩ := links.components_isSome middle
      obtain ⟨d', hd', hle⟩ := links.componentSearch_running.invariant.edge middle last e he hedge
      have hlast := ih he
      have hsame : some d' = some d := hd'.symm.trans hy
      rw [Option.some.injEq] at hsame
      omega

/-- Two modules are in one component exactly when each leads to the other. -/
theorem components_eq_iff (links : Links n) (x y : Fin n) :
    links.components.get x = links.components.get y ↔ links.Reaches x y ∧ links.Reaches y x := by
  obtain ⟨c, hc⟩ := links.components_isSome x
  obtain ⟨d, hd⟩ := links.components_isSome y
  have hclosed := links.componentSearch_running.invariant.toClosed
  rw [hc, hd, Option.some.injEq]
  constructor
  · rintro rfl
    exact ⟨hclosed.connected x y c hc hd, hclosed.connected y x c hd hc⟩
  · rintro ⟨hxy, hyx⟩
    exact Nat.le_antisymm (links.components_le_of_reaches hyx hd hc)
      (links.components_le_of_reaches hxy hc hd)

/-- The search after some of the modules, in their order. -/
def searchedFrom (links : Links n) (roots : List (Fin n)) : ComponentSearch n :=
  roots.foldl (ComponentSearch.searchFrom links) (ComponentSearch.initial n)

theorem searchedFrom_running (links : Links n) (roots : List (Fin n)) :
    ComponentSearch.Running links [] (links.searchedFrom roots) :=
  ((ComponentSearch.running_initial links).foldl_searchFrom roots).1

/-- What is expected of the search for components, for the modules of a graph and their edges. -/
structure FindsComponents (links : Links n) : Prop where
  /-- From no frames and no state is there an endless sequence of steps. -/
  terminates : WellFounded fun after before => ComponentSearch.Step links before after
  /-- A visit of a module that is not opened yet takes steps until no frame is left. -/
  visit_ends : ∀ roots root, roots ++ [root] <+: List.finRange n →
    (links.searchedFrom roots).order.get root = none →
      Relation.ReflTransGen (ComponentSearch.Step links)
        ([⟨root, links.row root⟩], (links.searchedFrom roots).openNode root)
        ([], links.searchedFrom (roots ++ [root]))
  /-- After each visit nothing is left on the path stack. -/
  stack_empty : ∀ roots, roots <+: List.finRange n → (links.searchedFrom roots).pathStack = [] ∧
    ∀ x : Fin n, (links.searchedFrom roots).onStack.get x = false
  /-- In the end every module has the number of a component. -/
  numbered : ∀ x : Fin n, ∃ c, links.components.get x = some c ∧
    c < links.componentSearch.components
  /-- Every number is that of some module. -/
  used : ∀ c, c < links.componentSearch.components → ∃ x : Fin n, links.components.get x = some c
  same_iff : ∀ x y : Fin n, links.components.get x = links.components.get y ↔
    links.Reaches x y ∧ links.Reaches y x
  /-- Between components edges lead to earlier ones. -/
  descending : ∀ (x y : Fin n) (c d : Nat), links.Joins x y → links.components.get x = some c →
    links.components.get y = some d → c ≠ d → d < c

/-- The search ends and finds the strongly connected components, in an order in which edges lead
back only. -/
theorem componentSearch_findsComponents (links : Links n) : links.FindsComponents where
  terminates := ComponentSearch.wellFounded_step links
  visit_ends roots root _ hnone := by
    have hnew : ¬ (links.searchedFrom roots).IsOpened root := by
      simp [ComponentSearch.IsOpened, hnone]
    have hlast : links.searchedFrom (roots ++ [root]) =
        ComponentSearch.searchFrom links (links.searchedFrom roots) root := by
      rw [searchedFrom, List.foldl_append]
      rfl
    rw [hlast]
    exact ComponentSearch.steps_searchFrom hnew
  stack_empty roots _ := by
    have hrunning := links.searchedFrom_running roots
    have hempty := hrunning.pathStack_eq_nil
    refine ⟨hempty, fun x => ?_⟩
    have honStack := hrunning.invariant.onStack_iff x
    rw [hempty] at honStack
    simpa using honStack
  numbered x := by
    obtain ⟨c, hc⟩ := links.components_isSome x
    exact ⟨c, hc, links.componentSearch_running.invariant.component_lt x c hc⟩
  used := links.componentSearch_running.invariant.exists_member
  same_iff := links.components_eq_iff
  descending x y c d hjoins hx hy hne := by
    have hle := links.components_le_of_reaches (.single hjoins) hx hy
    omega

end Links

end DependencyRules
