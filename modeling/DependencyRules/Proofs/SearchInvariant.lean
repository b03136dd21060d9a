import DependencyRules.Graph.Components
import DependencyRules.Proofs.Links

/-!
# The invariant of the component search

The invariant of the search speaks about three things: the numbers and the path stack, the
components that are closed, and the modules on the current path with their lowlinks. Each thing the
search does is shown to keep it: opening a module, following an edge, and leaving a module with or
without closing its component.
-/

namespace DependencyRules

namespace ComponentSearch

variable {n : Nat}

def IsOpened (state : ComponentSearch n) (x : Fin n) : Prop := (state.order.get x).isSome = true

def number (state : ComponentSearch n) (x : Fin n) : Nat := (state.order.get x).getD 0

/-- Numbers are distinct, and the path stack holds the modules that are opened and not closed, the
last one opened first. -/
structure Numbered (state : ComponentSearch n) : Prop where
  number_lt : ∀ x, state.IsOpened x → state.number x < state.nextOrder
  number_inj : ∀ x y, state.IsOpened x → state.IsOpened y → state.number x = state.number y → x = y
  mem_pathStack : ∀ x, x ∈ state.pathStack ↔ state.IsOpened x ∧ state.component.get x = none
  onStack_iff : ∀ x, state.onStack.get x = true ↔ x ∈ state.pathStack
  sorted : state.pathStack.Pairwise fun x y => state.number y < state.number x
  opened_of_closed : ∀ x c, state.component.get x = some c → state.IsOpened x

/-- Closed components are strongly connected, lead to closed components only, and are numbered so
that no edge leads to a later one. -/
structure Closed (links : Links n) (state : ComponentSearch n) : Prop where
  component_lt : ∀ (x : Fin n) c, state.component.get x = some c → c < state.components
  exists_member : ∀ c, c < state.components → ∃ x : Fin n, state.component.get x = some c
  edge : ∀ (x y : Fin n) c, state.component.get x = some c → links.Joins x y →
    ∃ d, state.component.get y = some d ∧ d ≤ c
  connected : ∀ (x y : Fin n) c, state.component.get x = some c → state.component.get y = some c →
    links.Reaches x y

/-- A module is the last one on the current path that was opened no later than another. -/
def IsNearest (state : ComponentSearch n) (path : List (Fin n)) (node x : Fin n) : Prop :=
  state.number node ≤ state.number x ∧
    ∀ other ∈ path, state.number other ≤ state.number x → state.number other ≤ state.number node

/-- What holds along the current path, given which edges have been followed. Every module of the
path leads to what was opened after it and is on the stack, and every module of the stack leads back
to the path. A lowlink is a number that can be reached, and no edge followed from behind its module
leads below it. -/
structure Along (links : Links n) (path : List (Fin n)) (Followed : Fin n → Fin n → Prop)
    (state : ComponentSearch n) : Prop where
  path_sorted : path.Pairwise fun x y => state.number y < state.number x
  path_mem : ∀ node ∈ path, node ∈ state.pathStack
  followed : ∀ x y, x ∈ state.pathStack → Followed x y → state.IsOpened y
  down : ∀ node ∈ path, ∀ x ∈ state.pathStack, state.number node ≤ state.number x →
    links.Reaches node x
  up : ∀ x ∈ state.pathStack, ∃ node ∈ path, state.number node ≤ state.number x ∧
    links.Reaches x node
  low_le : ∀ node ∈ path, state.lowlink.get node ≤ state.number node
  low_reached : ∀ node ∈ path, ∃ x ∈ state.pathStack, state.number x = state.lowlink.get node ∧
    links.Reaches node x
  low_bound : ∀ node ∈ path, ∀ x ∈ state.pathStack, state.IsNearest path node x →
    ∀ y ∈ state.pathStack, Followed x y → state.lowlink.get node ≤ state.number y

structure Invariant (links : Links n) (path : List (Fin n)) (Followed : Fin n → Fin n → Prop)
    (state : ComponentSearch n) : Prop extends
  Numbered state, Closed links state, Along links path Followed state

theorem Numbered.opened {state : ComponentSearch n} (h : Numbered state) {x : Fin n}
    (hx : x ∈ state.pathStack) : state.IsOpened x :=
  ((h.mem_pathStack x).1 hx).1

theorem Numbered.eq_of_number_eq {state : ComponentSearch n} (h : Numbered state) {x y : Fin n}
    (hx : x ∈ state.pathStack) (hy : y ∈ state.pathStack)
    (heq : state.number x = state.number y) : x = y :=
  h.number_inj x y (h.opened hx) (h.opened hy) heq

section Steps

variable {links : Links n} {path rest : List (Fin n)} {Followed Followed' : Fin n → Fin n → Prop}
  {state : ComponentSearch n} {node target : Fin n}

theorem Invariant.number_le_head (h : Invariant links (node :: rest) Followed state) {x : Fin n}
    (hx : x ∈ node :: rest) : state.number x ≤ state.number node := by
  rcases List.mem_cons.1 hx with rfl | hx
  · exact Nat.le_refl _
  · exact Nat.le_of_lt ((List.pairwise_cons.1 h.path_sorted).1 x hx)

/-! ## Opening a module -/

theorem openNode_isOpened (state : ComponentSearch n) (node x : Fin n) :
    (state.openNode node).IsOpened x ↔ x = node ∨ state.IsOpened x := by
  unfold IsOpened openNode
  rw [get_set_fin]
  by_cases hx : x = node <;> simp [hx]

theorem openNode_number (state : ComponentSearch n) (node x : Fin n) :
    (state.openNode node).number x = if x = node then state.nextOrder else state.number x := by
  unfold number openNode
  rw [get_set_fin]
  by_cases hx : x = node <;> simp [hx]

theorem openNode_number_of_opened (hnew : ¬ state.IsOpened target) {x : Fin n}
    (hx : state.IsOpened x) : (state.openNode target).number x = state.number x := by
  have hne : x ≠ target := by
    rintro rfl
    exact hnew hx
  rw [openNode_number, if_neg hne]

theorem openNode_number_self (state : ComponentSearch n) (node : Fin n) :
    (state.openNode node).number node = state.nextOrder := by
  rw [openNode_number, if_pos rfl]

theorem openNode_lowlink (state : ComponentSearch n) (node x : Fin n) :
    (state.openNode node).lowlink.get x =
      if x = node then state.nextOrder else state.lowlink.get x :=
  get_set_fin ..

theorem Numbered.component_eq_none (h : Numbered state) (hnew : ¬ state.IsOpened target) :
    state.component.get target = none := by
  cases hc : state.component.get target with
  | none => rfl
  | some c => exact absurd (h.opened_of_closed target c hc) hnew

theorem Numbered.number_inj_openNode (h : Numbered state) (hnew : ¬ state.IsOpened target)
    {x y : Fin n} (hx : (state.openNode target).IsOpened x)
    (hy : (state.openNode target).IsOpened y)
    (heq : (state.openNode target).number x = (state.openNode target).number y) : x = y := by
  rw [openNode_isOpened] at hx hy
  rcases hx with rfl | hx' <;> rcases hy with rfl | hy'
  · rfl
  · have hlt := h.number_lt y hy'
    rw [openNode_number_self, openNode_number_of_opened hnew hy'] at heq
    omega
  · have hlt := h.number_lt x hx'
    rw [openNode_number_self, openNode_number_of_opened hnew hx'] at heq
    omega
  · rw [openNode_number_of_opened hnew hx', openNode_number_of_opened hnew hy'] at heq
    exact h.number_inj x y hx' hy' heq

theorem Numbered.openNode (h : Numbered state) (hnew : ¬ state.IsOpened target) :
    Numbered (state.openNode target) where
  number_lt x hx := by
    show (state.openNode target).number x < state.nextOrder + 1
    rcases (openNode_isOpened state target x).1 hx with rfl | hx
    · rw [openNode_number_self]
      omega
    · have hlt := h.number_lt x hx
      rw [openNode_number_of_opened hnew hx]
      omega
  number_inj x y := h.number_inj_openNode hnew
  mem_pathStack x := by
    rw [openNode_isOpened]
    show x ∈ target :: state.pathStack ↔
      (x = target ∨ state.IsOpened x) ∧ state.component.get x = none
    rw [List.mem_cons, h.mem_pathStack]
    by_cases hx : x = target
    · simp [hx, h.component_eq_none hnew]
    · simp [hx]
  onStack_iff x := by
    show (state.onStack.set target true target.isLt).get x = true ↔ x ∈ target :: state.pathStack
    rw [get_set_fin, List.mem_cons, ← h.onStack_iff]
    by_cases hx : x = target <;> simp [hx]
  sorted := by
    refine List.pairwise_cons.2 ⟨fun x hx => ?_, ?_⟩
    · rw [openNode_number_self, openNode_number_of_opened hnew (h.opened hx)]
      exact h.number_lt x (h.opened hx)
    · refine h.sorted.imp_of_mem fun {x y} hx hy hlt => ?_
      rw [openNode_number_of_opened hnew (h.opened hx),
        openNode_number_of_opened hnew (h.opened hy)]
      exact hlt
  opened_of_closed x c hc := (openNode_isOpened state target x).2 (.inr (h.opened_of_closed x c hc))

theorem Numbered.openNode_number_of_mem (h : Numbered state) (hnew : ¬ state.IsOpened target)
    {x : Fin n} (hx : x ∈ state.pathStack) : (state.openNode target).number x = state.number x :=
  openNode_number_of_opened hnew (h.opened hx)

theorem Numbered.openNode_lowlink_of_mem (h : Numbered state) (hnew : ¬ state.IsOpened target)
    {x : Fin n} (hx : x ∈ state.pathStack) :
    (state.openNode target).lowlink.get x = state.lowlink.get x := by
  have hne : x ≠ target := by
    rintro rfl
    exact hnew (h.opened hx)
  rw [openNode_lowlink, if_neg hne]

/-- The path leads to its last module, and from there an edge leads to the new one. -/
theorem Invariant.down_openNode (h : Invariant links path Followed state)
    (hnew : ¬ state.IsOpened target) (hedge : ∀ last ∈ path.head?, links.Joins last target)
    {x y : Fin n} (hx : x ∈ target :: path) (hy : y ∈ target :: state.pathStack)
    (hle : (state.openNode target).number x ≤ (state.openNode target).number y) :
    links.Reaches x y := by
  rcases List.mem_cons.1 hx with rfl | hx' <;> rcases List.mem_cons.1 hy with rfl | hy'
  · exact .refl
  · have hlt := h.number_lt y (h.opened hy')
    rw [openNode_number_self, h.openNode_number_of_mem hnew hy'] at hle
    omega
  · cases path with
    | nil => simp at hx'
    | cons last before =>
        have hlast := h.down x hx' last (h.path_mem last (List.mem_cons_self ..))
          (h.number_le_head hx')
        exact hlast.tail (hedge last rfl)
  · rw [h.openNode_number_of_mem hnew (h.path_mem x hx'), h.openNode_number_of_mem hnew hy'] at hle
    exact h.down x hx' y hy' hle

theorem Invariant.up_openNode (h : Invariant links path Followed state)
    (hnew : ¬ state.IsOpened target) {x : Fin n} (hx : x ∈ target :: state.pathStack) :
    ∃ node ∈ target :: path,
      (state.openNode target).number node ≤ (state.openNode target).number x ∧
        links.Reaches x node := by
  rcases List.mem_cons.1 hx with rfl | hx
  · exact ⟨x, List.mem_cons_self .., Nat.le_refl _, .refl⟩
  · obtain ⟨back, hback, hle, hreach⟩ := h.up x hx
    refine ⟨back, List.mem_cons_of_mem _ hback, ?_, hreach⟩
    rw [h.openNode_number_of_mem hnew (h.path_mem back hback), h.openNode_number_of_mem hnew hx]
    exact hle

theorem Invariant.low_reached_openNode (h : Invariant links path Followed state)
    (hnew : ¬ state.IsOpened target) {x : Fin n} (hx : x ∈ target :: path) :
    ∃ y ∈ target :: state.pathStack,
      (state.openNode target).number y = (state.openNode target).lowlink.get x ∧
        links.Reaches x y := by
  rcases List.mem_cons.1 hx with rfl | hx
  · refine ⟨x, List.mem_cons_self .., ?_, .refl⟩
    rw [openNode_number_self, openNode_lowlink, if_pos rfl]
  · obtain ⟨y, hy, heq, hreach⟩ := h.low_reached x hx
    refine ⟨y, List.mem_cons_of_mem _ hy, ?_, hreach⟩
    rw [h.openNode_number_of_mem hnew hy, h.openNode_lowlink_of_mem hnew (h.path_mem x hx)]
    exact heq

theorem Invariant.low_bound_openNode (h : Invariant links path Followed state)
    (hnew : ¬ state.IsOpened target) {x y z : Fin n} (hx : x ∈ target :: path)
    (hy : y ∈ state.pathStack) (hnearest : (state.openNode target).IsNearest (target :: path) x y)
    (hz : z ∈ target :: state.pathStack) (hyz : Followed y z) :
    (state.openNode target).lowlink.get x ≤ (state.openNode target).number z := by
  have hnumber := fun {x} (hx : x ∈ state.pathStack) => h.openNode_number_of_mem hnew hx
  have hz' : z ∈ state.pathStack := by
    refine (List.mem_cons.1 hz).resolve_left fun heq => ?_
    exact hnew (heq ▸ h.followed y z hy hyz)
  obtain ⟨hle, hnearest⟩ := hnearest
  rw [hnumber hy] at hle
  rcases List.mem_cons.1 hx with rfl | hx'
  · have hlt := h.number_lt y (h.opened hy)
    rw [openNode_number_self] at hle
    omega
  · rw [h.openNode_lowlink_of_mem hnew (h.path_mem x hx'), hnumber hz']
    rw [hnumber (h.path_mem x hx')] at hle
    refine h.low_bound x hx' y hy ⟨hle, fun other hother hother' => ?_⟩ z hz' hyz
    have hnear := hnearest other (List.mem_cons_of_mem _ hother)
    rw [hnumber (h.path_mem other hother), hnumber hy, hnumber (h.path_mem x hx')] at hnear
    exact hnear hother'

/-- The path goes on to a new module, of which no edge is followed yet. -/
theorem Invariant.openNode (h : Invariant links path Followed state)
    (hnew : ¬ state.IsOpened target) (hedge : ∀ last ∈ path.head?, links.Joins last target)
    (hfollowed : ∀ x y, Followed' x y → x ≠ target ∧ Followed x y) :
    Invariant links (target :: path) Followed' (state.openNode target) where
  toNumbered := h.toNumbered.openNode hnew
  toClosed := ⟨h.component_lt, h.exists_member, h.edge, h.connected⟩
  path_sorted := by
    have hnumber := fun {x} (hx : x ∈ path) => h.openNode_number_of_mem hnew (h.path_mem x hx)
    refine List.pairwise_cons.2 ⟨fun x hx => ?_, ?_⟩
    · rw [openNode_number_self, hnumber hx]
      exact h.number_lt x (h.opened (h.path_mem x hx))
    · refine h.path_sorted.imp_of_mem fun {x y} hx hy hlt => ?_
      rw [hnumber hx, hnumber hy]
      exact hlt
  path_mem x hx := by
    rcases List.mem_cons.1 hx with rfl | hx
    · exact List.mem_cons_self ..
    · exact List.mem_cons_of_mem _ (h.path_mem x hx)
  followed x y hx hxy := by
    obtain ⟨hne, hxy⟩ := hfollowed x y hxy
    have hx := (List.mem_cons.1 hx).resolve_left hne
    exact (openNode_isOpened state target y).2 (.inr (h.followed x y hx hxy))
  down x hx y hy hle := h.down_openNode hnew hedge hx hy hle
  up x hx := h.up_openNode hnew hx
  low_le x hx := by
    rcases List.mem_cons.1 hx with rfl | hx
    · rw [openNode_number_self, openNode_lowlink, if_pos rfl]
    · rw [h.openNode_lowlink_of_mem hnew (h.path_mem x hx),
        h.openNode_number_of_mem hnew (h.path_mem x hx)]
      exact h.low_le x hx
  low_reached x hx := h.low_reached_openNode hnew hx
  low_bound x hx y hy hnearest z hz hyz := by
    obtain ⟨hne, hyz⟩ := hfollowed y z hyz
    exact h.low_bound_openNode hnew hx ((List.mem_cons.1 hy).resolve_left hne) hnearest hz hyz

/-! ## Following an edge -/

/-- An edge of a module on the path counts as followed once its target is open and, if the target is
on the stack, the lowlink of the module is not above it. -/
theorem Invariant.follow (h : Invariant links path Followed state) (hnode : node ∈ path)
    (htarget : state.IsOpened target)
    (hlow : target ∈ state.pathStack → state.lowlink.get node ≤ state.number target)
    (hfollowed : ∀ x y, Followed' x y → Followed x y ∨ x = node ∧ y = target) :
    Invariant links path Followed' state := by
  refine ⟨h.toNumbered, h.toClosed, ⟨h.path_sorted, h.path_mem, ?_, h.down, h.up, h.low_le,
    h.low_reached, ?_⟩⟩
  · intro x y hx hxy
    rcases hfollowed x y hxy with hxy | ⟨rfl, rfl⟩
    · exact h.followed x y hx hxy
    · exact htarget
  · intro x hx y hy hnearest z hz hyz
    rcases hfollowed y z hyz with hyz | ⟨rfl, rfl⟩
    · exact h.low_bound x hx y hy hnearest z hz hyz
    · have hle := hnearest.2 y hnode (Nat.le_refl _)
      obtain rfl := h.eq_of_number_eq (h.path_mem x hx) hy (Nat.le_antisymm hnearest.1 hle)
      exact hlow hz

theorem Invariant.mono (h : Invariant links path Followed state)
    (hfollowed : ∀ x y, Followed' x y → Followed x y) : Invariant links path Followed' state := by
  refine ⟨h.toNumbered, h.toClosed, ⟨h.path_sorted, h.path_mem, ?_, h.down, h.up, h.low_le,
    h.low_reached, ?_⟩⟩
  · intro x y hx hxy
    exact h.followed x y hx (hfollowed x y hxy)
  · intro x hx y hy hnearest z hz hyz
    exact h.low_bound x hx y hy hnearest z hz (hfollowed y z hyz)

theorem lower_lowlink (state : ComponentSearch n) (node x : Fin n) (bound : Nat) :
    (state.lower node bound).lowlink.get x =
      if x = node then min (state.lowlink.get node) bound else state.lowlink.get x :=
  get_set_fin ..

theorem lower_lowlink_le (state : ComponentSearch n) (node x : Fin n) (bound : Nat) :
    (state.lower node bound).lowlink.get x ≤ state.lowlink.get x := by
  rw [lower_lowlink]
  split
  · rename_i heq
    rw [heq]
    exact Nat.min_le_left _ _
  · exact Nat.le_refl _

/-- A lowlink may be lowered to the number of any module of the stack that can be reached. -/
theorem Invariant.lower (h : Invariant links path Followed state) (hnode : node ∈ path)
    (htarget : target ∈ state.pathStack) (hreach : links.Reaches node target) :
    Invariant links path Followed (state.lower node (state.number target)) where
  toNumbered := ⟨h.number_lt, h.number_inj, h.mem_pathStack, h.onStack_iff, h.sorted,
    h.opened_of_closed⟩
  toClosed := ⟨h.component_lt, h.exists_member, h.edge, h.connected⟩
  path_sorted := h.path_sorted
  path_mem := h.path_mem
  followed := h.followed
  down := h.down
  up := h.up
  low_le x hx := Nat.le_trans (lower_lowlink_le ..) (h.low_le x hx)
  low_reached x hx := by
    rw [lower_lowlink]
    split
    · rename_i heq
      subst heq
      rcases Nat.le_total (state.lowlink.get x) (state.number target) with hle | hle
      · rw [Nat.min_eq_left hle]
        exact h.low_reached x hx
      · rw [Nat.min_eq_right hle]
        exact ⟨target, htarget, rfl, hreach⟩
    · exact h.low_reached x hx
  low_bound x hx y hy hnearest z hz hyz :=
    Nat.le_trans (lower_lowlink_le ..) (h.low_bound x hx y hy hnearest z hz hyz)

/-! ## Leaving a module -/

theorem mem_of_number_lt {x : Fin n} (hx : x ∈ node :: rest)
    (hlt : state.number x < state.number node) : x ∈ rest := by
  refine (List.mem_cons.1 hx).resolve_left ?_
  rintro rfl
  exact Nat.lt_irrefl _ hlt

/-- The module left is no nearer to what was opened before it. -/
theorem IsNearest.cons {x y : Fin n} (h : state.IsNearest rest x y)
    (hlt : state.number y < state.number node) : state.IsNearest (node :: rest) x y := by
  refine ⟨h.1, fun other hother hle => ?_⟩
  rcases List.mem_cons.1 hother with rfl | hother
  · omega
  · exact h.2 other hother hle

/-- What led back to a module that reaches below itself leads back to a module before it. -/
theorem Invariant.up_leaveOpen (h : Invariant links (node :: rest) Followed state)
    (hlow : state.lowlink.get node < state.number node) {x : Fin n} (hx : x ∈ state.pathStack) :
    ∃ back ∈ rest, state.number back ≤ state.number x ∧ links.Reaches x back := by
  obtain ⟨back, hback, hle, hreach⟩ := h.up x hx
  rcases List.mem_cons.1 hback with rfl | hback
  · obtain ⟨y, hy, heq, hreachLow⟩ := h.low_reached back (List.mem_cons_self ..)
    obtain ⟨lower, hlower, hlowerLe, hreachLower⟩ := h.up y hy
    have hlt : state.number lower < state.number back := by omega
    exact ⟨lower, mem_of_number_lt hlower hlt, by omega,
      (hreach.trans hreachLow).trans hreachLower⟩
  · exact ⟨back, hback, hle, hreach⟩

/-- Among the modules before the one left, the nearest to a module opened after it is the parent. -/
theorem Invariant.nearest_eq_parent {parent x y : Fin n} {before : List (Fin n)}
    (h : Invariant links (node :: parent :: before) Followed state) (hx : x ∈ parent :: before)
    (hy : state.number node ≤ state.number y)
    (hnearest : state.IsNearest (parent :: before) x y) : x = parent := by
  obtain ⟨hfirst, hrest⟩ := List.pairwise_cons.1 h.path_sorted
  have hparentLt := hfirst parent (List.mem_cons_self ..)
  have hparentLe := hnearest.2 parent (List.mem_cons_self ..) (by omega)
  have hxLe : state.number x ≤ state.number parent := by
    rcases List.mem_cons.1 hx with rfl | hx
    · exact Nat.le_refl _
    · exact Nat.le_of_lt ((List.pairwise_cons.1 hrest).1 x hx)
  exact h.eq_of_number_eq (h.path_mem x (.tail _ hx))
    (h.path_mem parent (.tail _ (List.mem_cons_self ..))) (Nat.le_antisymm hxLe hparentLe)

theorem Invariant.low_bound_leaveOpen (h : Invariant links (node :: rest) Followed state)
    (hparent : ∀ parent ∈ rest.head?, state.lowlink.get parent ≤ state.lowlink.get node)
    {x y z : Fin n} (hx : x ∈ rest) (hy : y ∈ state.pathStack)
    (hnearest : state.IsNearest rest x y) (hz : z ∈ state.pathStack) (hyz : Followed y z) :
    state.lowlink.get x ≤ state.number z := by
  by_cases hnode : state.number node ≤ state.number y
  · have hbound := h.low_bound node (List.mem_cons_self ..) y hy
      ⟨hnode, fun other hother _ => h.number_le_head hother⟩ z hz hyz
    cases rest with
    | nil => simp at hx
    | cons parent before =>
        obtain rfl := h.nearest_eq_parent hx hnode hnearest
        exact Nat.le_trans (hparent x rfl) hbound
  · exact h.low_bound x (.tail _ hx) y hy (hnearest.cons (Nat.lt_of_not_le hnode)) z hz hyz

/-- A module that reaches below itself leaves the path without closing a component. -/
theorem Invariant.leaveOpen (h : Invariant links (node :: rest) Followed state)
    (hlow : state.lowlink.get node ≠ state.number node)
    (hparent : ∀ parent ∈ rest.head?, state.lowlink.get parent ≤ state.lowlink.get node) :
    Invariant links rest Followed state where
  toNumbered := h.toNumbered
  toClosed := h.toClosed
  path_sorted := (List.pairwise_cons.1 h.path_sorted).2
  path_mem x hx := h.path_mem x (.tail _ hx)
  followed := h.followed
  down x hx := h.down x (.tail _ hx)
  up _ hx := h.up_leaveOpen (Nat.lt_of_le_of_ne (h.low_le node (List.mem_cons_self ..)) hlow) hx
  low_le x hx := h.low_le x (.tail _ hx)
  low_reached x hx := h.low_reached x (.tail _ hx)
  low_bound _ hx _ hy hnearest _ hz hyz := h.low_bound_leaveOpen hparent hx hy hnearest hz hyz

/-- Unstacking keeps the numbers, the lowlinks and the count of components. -/
theorem unstack_kept (root : Fin n) (stack : List (Fin n)) (state : ComponentSearch n) :
    let after := unstack root stack state
    after.order = state.order ∧ after.lowlink = state.lowlink ∧
      after.nextOrder = state.nextOrder ∧ after.components = state.components := by
  induction stack generalizing state with
  | nil => exact ⟨rfl, rfl, rfl, rfl⟩
  | cons first rest ih =>
      unfold unstack
      dsimp only
      split
      · exact ⟨rfl, rfl, rfl, rfl⟩
      · exact ih _

/-- Unstacking gives the component at hand to the modules down to the root, and to no other. -/
theorem unstack_spec (root : Fin n) (above below : List (Fin n)) (hroot : root ∉ above)
    (state : ComponentSearch n) :
    let after := unstack root (above ++ root :: below) state
    after.pathStack = below ∧
      (∀ x : Fin n, after.onStack.get x =
        if x ∈ above ++ [root] then false else state.onStack.get x) ∧
      ∀ x : Fin n, after.component.get x =
        if x ∈ above ++ [root] then some state.components else state.component.get x := by
  induction above generalizing state with
  | nil =>
      simp only [List.nil_append, unstack, if_true, List.mem_singleton]
      exact ⟨trivial, fun x => get_set_fin .., fun x => get_set_fin ..⟩
  | cons first above ih =>
      obtain ⟨hne, hroot⟩ : root ≠ first ∧ root ∉ above := by simpa using hroot
      rw [List.cons_append, unstack]
      dsimp only
      rw [if_neg hne.symm]
      obtain ⟨hstack, honStack, hcomponent⟩ := ih hroot
        { state with
          onStack := state.onStack.set first false first.isLt
          component := state.component.set first (some state.components) first.isLt
          pathStack := above ++ root :: below }
      refine ⟨hstack, fun x => ?_, fun x => ?_⟩
      · rw [honStack x, get_set_fin]
        by_cases hx : x = first <;> simp [hx]
      · rw [hcomponent x, get_set_fin]
        by_cases hx : x = first <;> simp [hx]

theorem closeComponent_order (state : ComponentSearch n) (root : Fin n) :
    (state.closeComponent root).order = state.order :=
  (unstack_kept root state.pathStack state).1

theorem closeComponent_lowlink (state : ComponentSearch n) (root : Fin n) :
    (state.closeComponent root).lowlink = state.lowlink :=
  (unstack_kept root state.pathStack state).2.1

theorem closeComponent_nextOrder (state : ComponentSearch n) (root : Fin n) :
    (state.closeComponent root).nextOrder = state.nextOrder :=
  (unstack_kept root state.pathStack state).2.2.1

theorem closeComponent_components (state : ComponentSearch n) (root : Fin n) :
    (state.closeComponent root).components = state.components + 1 :=
  congrArg (· + 1) (unstack_kept root state.pathStack state).2.2.2

theorem closeComponent_isOpened (state : ComponentSearch n) (root x : Fin n) :
    (state.closeComponent root).IsOpened x ↔ state.IsOpened x := by
  rw [IsOpened, IsOpened, closeComponent_order]

theorem closeComponent_number (state : ComponentSearch n) (root x : Fin n) :
    (state.closeComponent root).number x = state.number x := by
  rw [number, number, closeComponent_order]

/-- The path stack at one of its modules: above it are those opened later, below it those opened
before. -/
theorem Numbered.exists_split (h : Numbered state) (hnode : node ∈ state.pathStack) :
    ∃ above below, state.pathStack = above ++ node :: below ∧
      (∀ x ∈ above, state.number node < state.number x) ∧
      ∀ x ∈ below, state.number x < state.number node := by
  obtain ⟨above, below, hstack⟩ := List.append_of_mem hnode
  have hsorted := h.sorted
  rw [hstack, List.pairwise_append, List.pairwise_cons] at hsorted
  obtain ⟨_, ⟨hbelow, _⟩, hacross⟩ := hsorted
  exact ⟨above, below, hstack, fun x hx => hacross x hx node (List.mem_cons_self ..), hbelow⟩

section Split

variable {above below : List (Fin n)} (hstack : state.pathStack = above ++ node :: below)
  (habove : ∀ x ∈ above, state.number node < state.number x)
  (hbelow : ∀ x ∈ below, state.number x < state.number node)

include hstack habove hbelow

theorem mem_above_iff (x : Fin n) : x ∈ above ++ [node] ↔
    x ∈ state.pathStack ∧ state.number node ≤ state.number x := by
  rw [hstack]
  simp only [List.mem_append, List.mem_cons, List.not_mem_nil, or_false]
  constructor
  · rintro (hx | rfl)
    · exact ⟨.inl hx, Nat.le_of_lt (habove x hx)⟩
    · exact ⟨.inr (.inl rfl), Nat.le_refl _⟩
  · rintro ⟨hx | rfl | hx, hle⟩
    · exact .inl hx
    · exact .inr rfl
    · have hlt := hbelow x hx
      omega

theorem mem_below_iff (x : Fin n) : x ∈ below ↔
    x ∈ state.pathStack ∧ state.number x < state.number node := by
  rw [hstack]
  simp only [List.mem_append, List.mem_cons]
  constructor
  · intro hx
    exact ⟨.inr (.inr hx), hbelow x hx⟩
  · rintro ⟨hx | rfl | hx, hlt⟩
    · have hgt := habove x hx
      omega
    · omega
    · exact hx

end Split

/-- What closing a component does: the modules opened from its root on leave the stack and get the
component, and no other module does. -/
theorem Numbered.closeComponent_spec (h : Numbered state) (hnode : node ∈ state.pathStack) :
    let after := state.closeComponent node
    after.pathStack.Sublist state.pathStack ∧
      (∀ x, x ∈ after.pathStack ↔ x ∈ state.pathStack ∧ state.number x < state.number node) ∧
      (∀ x, after.onStack.get x = true ↔ x ∈ after.pathStack) ∧
      ∀ x : Fin n, after.component.get x =
        if x ∈ state.pathStack ∧ state.number node ≤ state.number x then some state.components
        else state.component.get x := by
  obtain ⟨above, below, hstack, habove, hbelow⟩ := h.exists_split hnode
  have hupper := mem_above_iff hstack habove hbelow
  have hlower := mem_below_iff hstack habove hbelow
  have hroot : node ∉ above := fun hmem => Nat.lt_irrefl _ (habove node hmem)
  obtain ⟨hafter, honStack, hcomponent⟩ := unstack_spec node above below hroot state
  rw [← hstack] at hafter honStack hcomponent
  have hpathStack : (state.closeComponent node).pathStack = below := hafter
  refine ⟨?_, fun x => ?_, fun x => ?_, fun x => ?_⟩
  · rw [hpathStack, hstack]
    exact (List.sublist_cons_self ..).trans (List.sublist_append_right ..)
  · rw [hpathStack]
    exact hlower x
  · show (unstack node state.pathStack state).onStack.get x = true ↔ _
    rw [hpathStack, honStack x, hlower x]
    by_cases hx : x ∈ above ++ [node]
    · have hle := ((hupper x).1 hx).2
      simp only [if_pos hx, Bool.false_eq_true, false_iff, not_and]
      omega
    · rw [if_neg hx, h.onStack_iff]
      rw [hupper x, not_and] at hx
      constructor
      · intro hmem
        have hlt := hx hmem
        exact ⟨hmem, by omega⟩
      · exact fun hmem => hmem.1
  · show (unstack node state.pathStack state).component.get x = _
    rw [hcomponent x]
    simp only [hupper]

/-- The modules opened from the root of a component on lead to each other. -/
theorem Invariant.reaches_of_number_le (h : Invariant links (node :: rest) Followed state)
    {x y : Fin n} (hx : x ∈ state.pathStack)
    (hy : y ∈ state.pathStack) (hyLe : state.number node ≤ state.number y) :
    links.Reaches x y := by
  have hnode := h.path_mem node (List.mem_cons_self ..)
  -- From x up to some module of the path, from there down to the root, and down again to y.
  obtain ⟨back, hback, _, hreach⟩ := h.up x hx
  have hdown := h.down back hback node hnode (h.number_le_head hback)
  exact (hreach.trans hdown).trans (h.down node (List.mem_cons_self ..) y hy hyLe)

/-- Edges lead from the component that is closed to itself and to closed components. -/
theorem Invariant.target_of_root (h : Invariant links (node :: rest) Followed state)
    (hlow : state.lowlink.get node = state.number node)
    (hall : ∀ x ∈ state.pathStack, state.number node ≤ state.number x →
      ∀ y, links.Joins x y → Followed x y)
    {x y : Fin n} (hx : x ∈ state.pathStack) (hle : state.number node ≤ state.number x)
    (hxy : links.Joins x y) :
    y ∈ state.pathStack ∧ state.number node ≤ state.number y ∨
      y ∉ state.pathStack ∧ ∃ d, state.component.get y = some d ∧ d < state.components := by
  have hfollowed := hall x hx hle y hxy
  -- On the stack the lowlink of the root bounds y; off the stack y was closed before.
  by_cases hy : y ∈ state.pathStack
  · have hbound := h.low_bound node (List.mem_cons_self ..) x hx
      ⟨hle, fun other hother _ => h.number_le_head hother⟩ y hy hfollowed
    exact .inl ⟨hy, by omega⟩
  · have hopened := h.followed x y hx hfollowed
    cases hc : state.component.get y with
    | none => exact absurd ((h.mem_pathStack y).2 ⟨hopened, hc⟩) hy
    | some d => exact .inr ⟨hy, d, rfl, h.component_lt y d hc⟩

/-- After a component is closed, a module has its component since before, or it belongs to that
one. -/
theorem Invariant.component_closeComponent (h : Invariant links (node :: rest) Followed state)
    {x : Fin n} {c : Nat} (hc : (state.closeComponent node).component.get x = some c) :
    state.component.get x = some c ∧ c < state.components ∨
      c = state.components ∧ x ∈ state.pathStack ∧ state.number node ≤ state.number x := by
  obtain ⟨_, _, _, hcomponent⟩ := h.closeComponent_spec (h.path_mem node (List.mem_cons_self ..))
  rw [hcomponent x] at hc
  split at hc
  · rename_i hx
    exact .inr ⟨(Option.some.inj hc).symm, hx⟩
  · exact .inl ⟨hc, h.component_lt x c hc⟩

theorem Numbered.closeComponent_keeps (h : Numbered state) (hnode : node ∈ state.pathStack)
    {x : Fin n} {c : Nat} (hc : state.component.get x = some c) :
    (state.closeComponent node).component.get x = some c := by
  obtain ⟨_, _, _, hcomponent⟩ := h.closeComponent_spec hnode
  have hold : x ∉ state.pathStack := by
    intro hx
    rw [((h.mem_pathStack x).1 hx).2] at hc
    cases hc
  rw [hcomponent x, if_neg (fun hx => hold hx.1)]
  exact hc

theorem Numbered.closeComponent_gives (h : Numbered state) (hnode : node ∈ state.pathStack)
    {x : Fin n} (hx : x ∈ state.pathStack ∧ state.number node ≤ state.number x) :
    (state.closeComponent node).component.get x = some state.components := by
  obtain ⟨_, _, _, hcomponent⟩ := h.closeComponent_spec hnode
  rw [hcomponent x, if_pos hx]

theorem Invariant.closed_closeComponent (h : Invariant links (node :: rest) Followed state)
    (hlow : state.lowlink.get node = state.number node)
    (hall : ∀ x ∈ state.pathStack, state.number node ≤ state.number x →
      ∀ y, links.Joins x y → Followed x y) :
    Closed links (state.closeComponent node) where
  component_lt x c hc := by
    rw [closeComponent_components]
    rcases h.component_closeComponent hc with ⟨_, hlt⟩ | ⟨rfl, _⟩ <;> omega
  exists_member c hc := by
    have hnode := h.path_mem node (List.mem_cons_self ..)
    rw [closeComponent_components] at hc
    rcases Nat.lt_succ_iff_lt_or_eq.1 hc with hlt | rfl
    · obtain ⟨x, hx⟩ := h.exists_member c hlt
      exact ⟨x, h.closeComponent_keeps hnode hx⟩
    · exact ⟨node, h.closeComponent_gives hnode ⟨hnode, Nat.le_refl _⟩⟩
  edge x y c hc hxy := by
    have hnode := h.path_mem node (List.mem_cons_self ..)
    rcases h.component_closeComponent hc with ⟨hx, _⟩ | ⟨rfl, hx, hle⟩
    · obtain ⟨d, hd, hdc⟩ := h.edge x y c hx hxy
      exact ⟨d, h.closeComponent_keeps hnode hd, hdc⟩
    · rcases h.target_of_root hlow hall hx hle hxy with hy | ⟨_, d, hd, hlt⟩
      · exact ⟨state.components, h.closeComponent_gives hnode hy, Nat.le_refl _⟩
      · exact ⟨d, h.closeComponent_keeps hnode hd, Nat.le_of_lt hlt⟩
  connected x y c hxc hyc := by
    rcases h.component_closeComponent hxc with ⟨hx, hlt⟩ | ⟨rfl, hx, hxLe⟩
    · rcases h.component_closeComponent hyc with ⟨hy, _⟩ | ⟨rfl, _⟩
      · exact h.connected x y c hx hy
      · omega
    · rcases h.component_closeComponent hyc with ⟨_, hlt⟩ | ⟨_, hy, hyLe⟩
      · omega
      · exact h.reaches_of_number_le hx hy hyLe

theorem Numbered.mem_pathStack_closeComponent (h : Numbered state)
    (hnode : node ∈ state.pathStack) (x : Fin n) :
    x ∈ (state.closeComponent node).pathStack ↔
      (state.closeComponent node).IsOpened x ∧
        (state.closeComponent node).component.get x = none := by
  obtain ⟨_, hmem, _, hcomponent⟩ := h.closeComponent_spec hnode
  rw [hmem, closeComponent_isOpened, hcomponent x]
  by_cases hx : x ∈ state.pathStack ∧ state.number node ≤ state.number x
  · rw [if_pos hx]
    simp only [reduceCtorEq, and_false, iff_false, not_and]
    omega
  · rw [if_neg hx, ← h.mem_pathStack]
    rw [not_and] at hx
    refine ⟨fun hmem => hmem.1, fun hmem => ?_⟩
    have hlt := hx hmem
    exact ⟨hmem, by omega⟩

theorem Numbered.closeComponent (h : Numbered state) (hnode : node ∈ state.pathStack) :
    Numbered (state.closeComponent node) where
  number_lt x hx := by
    rw [closeComponent_number, closeComponent_nextOrder]
    exact h.number_lt x ((closeComponent_isOpened ..).1 hx)
  number_inj x y hx hy heq := by
    rw [closeComponent_number, closeComponent_number] at heq
    exact h.number_inj x y ((closeComponent_isOpened ..).1 hx) ((closeComponent_isOpened ..).1 hy)
      heq
  mem_pathStack := h.mem_pathStack_closeComponent hnode
  onStack_iff := (h.closeComponent_spec hnode).2.2.1
  sorted := by
    simp only [closeComponent_number]
    exact h.sorted.sublist (h.closeComponent_spec hnode).1
  opened_of_closed x c hc := by
    rw [closeComponent_isOpened]
    rw [(h.closeComponent_spec hnode).2.2.2 x] at hc
    split at hc
    · rename_i hx
      exact h.opened hx.1
    · exact h.opened_of_closed x c hc

/-- What is left on the stack leads back to what is left of the path. -/
theorem Invariant.up_closeComponent (h : Invariant links (node :: rest) Followed state)
    {x : Fin n} (hx : x ∈ state.pathStack) (hlt : state.number x < state.number node) :
    ∃ back ∈ rest, state.number back ≤ state.number x ∧ links.Reaches x back := by
  obtain ⟨back, hback, hle, hreach⟩ := h.up x hx
  exact ⟨back, mem_of_number_lt hback (Nat.lt_of_le_of_lt hle hlt), hle, hreach⟩

/-- A module that does not reach below itself closes its component. -/
theorem Invariant.leaveClosed (h : Invariant links (node :: rest) Followed state)
    (hlow : state.lowlink.get node = state.number node)
    (hall : ∀ x ∈ state.pathStack, state.number node ≤ state.number x →
      ∀ y, links.Joins x y → Followed x y) :
    Invariant links rest Followed (state.closeComponent node) := by
  have hnode := h.path_mem node (List.mem_cons_self ..)
  obtain ⟨_, hmem, _, _⟩ := h.closeComponent_spec hnode
  have hlowlink := closeComponent_lowlink state node
  have hnumber := closeComponent_number state node
  have hsorted := List.pairwise_cons.1 h.path_sorted
  exact {
    toNumbered := h.toNumbered.closeComponent hnode
    toClosed := h.closed_closeComponent hlow hall
    path_sorted := by
      simp only [hnumber]
      exact hsorted.2
    path_mem := fun x hx => (hmem x).2 ⟨h.path_mem x (.tail _ hx), hsorted.1 x hx⟩
    followed := fun x y hx hxy =>
      (closeComponent_isOpened ..).2 (h.followed x y ((hmem x).1 hx).1 hxy)
    down := by
      intro x hx y hy hle
      rw [hnumber, hnumber] at hle
      exact h.down x (.tail _ hx) y ((hmem y).1 hy).1 hle
    up := by
      intro x hx
      simp only [hnumber]
      exact h.up_closeComponent ((hmem x).1 hx).1 ((hmem x).1 hx).2
    low_le := by
      intro x hx
      rw [hlowlink, hnumber]
      exact h.low_le x (.tail _ hx)
    low_reached := by
      intro x hx
      obtain ⟨y, hy, heq, hreach⟩ := h.low_reached x (.tail _ hx)
      have hle := h.low_le x (.tail _ hx)
      have hlt := hsorted.1 x hx
      refine ⟨y, (hmem y).2 ⟨hy, by omega⟩, ?_, hreach⟩
      rw [hlowlink, hnumber]
      exact heq
    low_bound := by
      intro x hx y hy hnearest z hz hyz
      obtain ⟨hy, hlt⟩ := (hmem y).1 hy
      simp only [IsNearest, hnumber] at hnearest
      rw [hlowlink, hnumber]
      exact h.low_bound x (.tail _ hx) y hy (IsNearest.cons hnearest hlt) z ((hmem z).1 hz).1 hyz }

end Steps

end ComponentSearch

end DependencyRules
