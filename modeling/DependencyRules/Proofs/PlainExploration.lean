import DependencyRules.Proofs.PlainTables

/-!
# Explorations on plain tables

An exploration with a queue and a table of parents comes to an end without looking beyond a table,
and finds what the exploration in rounds finds. A round takes the ways of the round before off the
queue, and the parents of a module give back the way to it. So going from parent to parent ends as
well.
-/

namespace DependencyRules

namespace Plain

variable {n : Nat}

/-- The modules where ways end. -/
def ends (ways : List (Links.Way n)) : List Nat :=
  ways.filterMap fun way => way.head?.map Fin.val

/-- The parents of the modules on a way are the modules before them. -/
def IsRecorded (parent : Array (Option Nat)) (way : Links.Way n) : Prop :=
  way.IsChain fun x y => parent[x.val]? = some (some y.val)

/-- The tables of an exploration tell which modules are seen, which ways wait and which are
found. -/
structure Exploration.Tracks (root : Fin n) (state : Exploration) (seen : Vector Bool n)
    (waiting found : List (Links.Way n)) : Prop where
  seen_eq : state.seen = seen.toArray
  size_parent : state.parent.size = n
  queue_eq : state.queue = ends waiting
  found_eq : state.found = ends found
  waiting_mem : ∀ way ∈ waiting, way ∈ [root] :: found
  recorded : ∀ way ∈ [root] :: found, IsRecorded state.parent way ∧ ∀ x ∈ way, seen.get x = true

/-! ## From parent to parent -/

section Parents

variable {parent : Array (Option Nat)} {root x : Fin n} {rest : Links.Way n}

theorem loop_unwindStep? (hrecorded : IsRecorded parent (x :: rest)) (hnodup : (x :: rest).Nodup)
    (hlast : (x :: rest).getLast? = some root) (path : List Nat) :
    loop (unwindStep? parent root.val) (x.val, path) =
      some (root.val, rest.reverse.map Fin.val ++ path) := by
  induction rest generalizing x path with
  | nil =>
      obtain rfl : x = root := Option.some.inj hlast
      exact loop_last (by simp [unwindStep?])
  | cons y rest ih =>
      obtain ⟨hparent, hrecorded⟩ := List.isChain_cons_cons.1 hrecorded
      obtain ⟨hnotin, hnodup⟩ := List.nodup_cons.1 hnodup
      rw [List.getLast?_cons_cons] at hlast
      have hne : x.val ≠ root.val := fun heq =>
        hnotin (Fin.ext heq ▸ List.mem_of_getLast? hlast)
      have hstep : unwindStep? parent root.val (x.val, path) =
          some (false, y.val, y.val :: path) := by
        simp [unwindStep?, hne, hparent]
      rw [loop_next hstep, ih hrecorded hnodup hlast]
      simp

theorem loop_hopStep? (hrecorded : IsRecorded parent (x :: rest)) (hnodup : (x :: rest).Nodup)
    (hlast : (x :: rest).getLast? = some root) (hne : x ≠ root) (path : List Nat) :
    ∃ first, loop (hopStep? parent root.val) (x.val, path) =
      some (first, rest.dropLast.reverse.map Fin.val ++ path) := by
  induction rest generalizing x path with
  | nil => exact absurd (Option.some.inj hlast) hne
  | cons y rest ih =>
      obtain ⟨hparent, hrecorded⟩ := List.isChain_cons_cons.1 hrecorded
      obtain ⟨_, hnodup⟩ := List.nodup_cons.1 hnodup
      rw [List.getLast?_cons_cons] at hlast
      by_cases hroot : y = root
      · subst hroot
        -- The root stands at the end only, so nothing comes after it.
        have hnil : rest = [] := by
          cases rest with
          | nil => rfl
          | cons z rest =>
              rw [List.getLast?_cons_cons] at hlast
              exact absurd (List.mem_of_getLast? hlast) (List.nodup_cons.1 hnodup).1
        refine ⟨x.val, loop_last ?_⟩
        simp [hopStep?, hparent, hnil]
      · have hstep : hopStep? parent root.val (x.val, path) =
            some (false, y.val, y.val :: path) := by
          simp [hopStep?, hparent, Fin.val_inj, hroot]
        obtain ⟨first, hloop⟩ := ih hrecorded hnodup hlast hroot (y.val :: path)
        refine ⟨first, ?_⟩
        rw [loop_next hstep, hloop]
        cases rest with
        | nil => exact absurd (Option.some.inj hlast) hroot
        | cons z rest => simp [List.dropLast_cons_cons]

variable {links : Links n} {admissible : Fin n → Edge n → Bool} {target : Fin n}
  {way : Links.Way n}

theorem getLast?_of_isWay (hway : links.IsWay admissible root target way) :
    way.getLast? = some root := by
  rw [List.getLast?_eq_head?_reverse]
  exact (Links.isWay_iff.1 hway).head

theorem unwind?_eq_some (hway : links.IsWay admissible root target way) (hnodup : way.Nodup)
    (hrecorded : IsRecorded parent way) :
    unwind? parent root.val target.val = some (way.reverse.map Fin.val) := by
  have hlast := getLast?_of_isWay hway
  obtain ⟨rest, rfl⟩ := hway.eq_cons
  unfold unwind?
  rw [loop_unwindStep? hrecorded hnodup hlast]
  simp

theorem hops?_eq_some (hway : links.IsWay admissible root target way) (hnodup : way.Nodup)
    (hne : target ≠ root) (hrecorded : IsRecorded parent way) :
    hops? parent root.val target.val = some (way.steps.map Fin.val) := by
  have hlast := getLast?_of_isWay hway
  obtain ⟨rest, rfl⟩ := hway.eq_cons
  obtain ⟨first, hloop⟩ := loop_hopStep? hrecorded hnodup hlast hne [target.val]
  unfold hops?
  rw [hloop]
  cases rest with
  | nil => exact absurd (Option.some.inj hlast) hne
  | cons y rest => simp [Links.Way.steps, List.dropLast_cons_cons]

end Parents

/-! ## One module of the queue -/

namespace Exploration

section Follow

variable {admits? : Nat → Arc → Option Bool} {admissible : Fin n → Edge n → Bool}
  {goal : Option (Fin n)} {root node target : Fin n} {before : Links.Way n} {state : Exploration}
  {seen : Vector Bool n} {waiting found : List (Links.Way n)}

theorem isRecorded_of_set {parent : Array (Option Nat)} {way : Links.Way n} {target : Fin n}
    (hlt : target.val < parent.size) (value : Option Nat) (hrecorded : IsRecorded parent way)
    (hnotin : target ∉ way) : IsRecorded (parent.set target.val value hlt) way := by
  refine hrecorded.imp_of_mem_imp fun x y hx _ hxy => ?_
  have hne : target.val ≠ x.val := fun heq => hnotin (Fin.ext heq ▸ hx)
  rwa [Array.getElem?_set_ne hlt hne]

/-- No way that is known leads through a module that is not seen yet, so what a discovery writes
leaves them all as they are. -/
theorem Tracks.recorded_of_set (h : Tracks root state seen waiting found)
    (hlt : target.val < state.parent.size) (value : Option Nat)
    (hnew : seen.get target = false) {way : Links.Way n} (hmem : way ∈ [root] :: found) :
    IsRecorded (state.parent.set target.val value hlt) way ∧
      ∀ x ∈ way, (seen.set target true target.isLt).get x = true := by
  obtain ⟨hrecorded, hseen⟩ := h.recorded way hmem
  have hnotin : target ∉ way := fun hin => by simp [hseen target hin] at hnew
  refine ⟨isRecorded_of_set hlt value hrecorded hnotin, fun x hx => ?_⟩
  rw [get_set_fin]
  split
  · rfl
  · exact hseen x hx

/-- Finding a new module adds the way to it. -/
theorem Tracks.discover? (h : Tracks root state seen waiting found) (goal : Option (Fin n))
    (hway : node :: before ∈ [root] :: found) (hnew : seen.get target = false) :
    ∃ after, state.discover? (goal.map Fin.val) node.val target.val = some after ∧
      after.isAtGoal = decide (goal = some target) ∧
      Tracks root after (seen.set target true target.isLt)
        (waiting ++ [target :: node :: before]) (found ++ [target :: node :: before]) := by
  have hlt : target.val < state.parent.size := by
    rw [h.size_parent]
    exact target.isLt
  have hdiscover : state.discover? (goal.map Fin.val) node.val target.val = some
      { parent := state.parent.set target.val (some node.val) hlt
        seen := (seen.set target true target.isLt).toArray
        queue := state.queue ++ [target.val]
        found := state.found ++ [target.val]
        isAtGoal := goal.map Fin.val = some target.val } := by
    have hparent : put? state.parent target.val (some node.val) =
        some (state.parent.set target.val (some node.val) hlt) := dif_pos hlt
    rw [Exploration.discover?, h.seen_eq, put?_toArray, hparent]
    rfl
  refine ⟨_, hdiscover, ?_, ⟨rfl, ?_, ?_, ?_, ?_, ?_⟩⟩
  · simp [Option.map_eq_some_iff, Fin.val_inj]
  · simpa using h.size_parent
  · simp [h.queue_eq, ends]
  · simp [h.found_eq, ends]
  · intro way hmem
    rcases List.mem_append.1 hmem with hmem | hmem
    · exact List.mem_append_left [_] (h.waiting_mem way hmem)
    · exact List.mem_append_right ([root] :: found) hmem
  · intro way hmem
    rcases List.mem_append.1 (show way ∈ ([root] :: found) ++ [_] from hmem) with hmem | hmem
    · exact h.recorded_of_set hlt _ hnew hmem
    · obtain rfl := List.mem_singleton.1 hmem
      obtain ⟨hrecorded, hseen⟩ := h.recorded_of_set hlt (some node.val) hnew hway
      refine ⟨List.isChain_cons_cons.2 ⟨?_, hrecorded⟩, fun x hx => ?_⟩
      · simp
      · rcases List.mem_cons.1 hx with rfl | hx
        · rw [get_set_fin, if_pos rfl]
        · exact hseen x hx

/-- What following the edges of a module comes to: it is at the goal by one of the ways found, or it
has found the ways that the library finds, and none of them leads to the goal. -/
def Follows (root : Fin n) (goal : Option (Fin n)) (waiting found : List (Links.Way n))
    (discovery : Links.Discovery n) (after : Exploration) : Prop :=
  (after.isAtGoal = true ∧
      ∃ way ∈ discovery.found, way.head? = goal ∧ IsRecorded after.parent way) ∨
    after.isAtGoal = false ∧
      Tracks root after discovery.seen (waiting ++ discovery.found.reverse)
        (found ++ discovery.found.reverse) ∧
      ∀ way ∈ discovery.found, way.head? ≠ goal

theorem mem_found_foldl_take {way : Links.Way n} (candidates : List (Links.Way n))
    {discovery : Links.Discovery n} (hmem : way ∈ discovery.found) :
    way ∈ (candidates.foldl Links.Discovery.take discovery).found := by
  rw [← List.mem_reverse, Links.foldl_take_found, List.mem_append, List.mem_reverse]
  exact .inl hmem

theorem mem_found_extend {admissible : Edge n → Bool} {way other : Links.Way n}
    (edges : List (Edge n)) {discovery : Links.Discovery n} (hmem : other ∈ discovery.found) :
    other ∈ (Links.extend admissible way edges discovery).found := by
  rw [Links.extend_eq_foldl]
  exact mem_found_foldl_take _ hmem

theorem exists_follow?
    (hadmits : ∀ edge, admits? node.val (Edge.arc edge) = some (admissible node edge))
    {discovery : Links.Discovery n}
    (h : Tracks root state discovery.seen (waiting ++ discovery.found.reverse)
      (found ++ discovery.found.reverse))
    (hway : node :: before ∈ [root] :: (found ++ discovery.found.reverse))
    (hnot : state.isAtGoal = false) (hmiss : ∀ way ∈ discovery.found, way.head? ≠ goal)
    (edges : List (Edge n)) :
    ∃ after, follow? admits? (goal.map Fin.val) node.val (edges.map Edge.arc) state =
        some after ∧
      Follows root goal waiting found
        (Links.extend (admissible node) (node :: before) edges discovery) after := by
  induction edges generalizing state discovery with
  | nil => exact ⟨state, rfl, .inr ⟨hnot, h, hmiss⟩⟩
  | cons edge edges ih =>
      have hseen : state.seen[edge.arc.target]? = some (discovery.seen.get edge.target) := by
        rw [h.seen_eq]
        exact getElem?_toArray ..
      rw [List.map_cons, follow?, hseen, hadmits]
      unfold Links.extend
      by_cases hnew : (admissible node edge && !discovery.seen.get edge.target) = true
      · simp only [Option.bind_eq_bind, Option.bind_some, if_pos hnew]
        have hunseen : discovery.seen.get edge.target = false := by
          simp only [Bool.and_eq_true, Bool.not_eq_true'] at hnew
          exact hnew.2
        obtain ⟨after, hdiscover, hgoal, htracks⟩ := h.discover? goal hway hunseen
        have hdiscover' : state.discover? (goal.map Fin.val) node.val edge.arc.target =
            some after := hdiscover
        rw [hdiscover', Option.bind_some]
        by_cases hfound : goal = some edge.target
        · have hat : after.isAtGoal = true := by rw [hgoal, decide_eq_true hfound]
          rw [if_pos hat]
          refine ⟨after, rfl, .inl ⟨hat, edge.target :: node :: before,
            mem_found_extend edges (List.mem_cons_self ..), hfound.symm, ?_⟩⟩
          exact (htracks.recorded _ (by simp)).1
        · have hat : after.isAtGoal = false := by rw [hgoal, decide_eq_false hfound]
          rw [if_neg (by simp [hat])]
          have hreverse : ∀ ways : List (Links.Way n),
              ways ++ ((edge.target :: node :: before) :: discovery.found).reverse =
                ways ++ discovery.found.reverse ++ [edge.target :: node :: before] := by
            intro ways
            rw [List.reverse_cons, List.append_assoc]
          refine ih ?_ ?_ hat ?_
          · rwa [hreverse, hreverse]
          · rw [hreverse]
            exact List.mem_append_left [_] hway
          · intro way hmem
            rcases List.mem_cons.1 hmem with rfl | hmem
            · exact fun heq => hfound heq.symm
            · exact hmiss way hmem
      · simp only [Option.bind_eq_bind, Option.bind_some, if_neg hnew]
        exact ih h hway hnot hmiss

end Follow

/-! ## Rounds -/

section Rounds

variable {links : Links n} {index : Index} {admits? : Nat → Arc → Option Bool}
  {admissible : Fin n → Edge n → Bool} {goal : Option (Fin n)} {root : Fin n}
  {state : Exploration} {found : List (Links.Way n)}

theorem mem_found_extendAll {way : Links.Way n} (ways : List (Links.Way n))
    {discovery : Links.Discovery n} (hmem : way ∈ discovery.found) :
    way ∈ (Links.extendAll links admissible ways discovery).found := by
  rw [Links.extendAll_eq_foldl]
  exact mem_found_foldl_take _ hmem

/-- What taking the ways of a round off the queue comes to. -/
theorem loop_round (hindex : index.Agrees links)
    (hadmits : ∀ node edge, admits? node.val (Edge.arc edge) = some (admissible node edge))
    (ways : List (Links.Way n)) (discovery : Links.Discovery n)
    (h : Tracks root state discovery.seen (ways ++ discovery.found.reverse)
      (found ++ discovery.found.reverse))
    (hnot : state.isAtGoal = false) (hmiss : ∀ way ∈ discovery.found, way.head? ≠ goal) :
    ∃ after, Follows root goal [] found (Links.extendAll links admissible ways discovery) after ∧
      loop (step? index admits? (goal.map Fin.val)) state =
        if after.isAtGoal then some after
        else loop (step? index admits? (goal.map Fin.val)) after := by
  induction ways generalizing state discovery with
  | nil => exact ⟨state, .inr ⟨hnot, h, hmiss⟩, by rw [if_neg (by simp [hnot])]⟩
  | cons way rest ih =>
      cases way with
      | nil =>
          refine ih _ ⟨h.seen_eq, h.size_parent, h.queue_eq, h.found_eq, ?_, h.recorded⟩ hnot hmiss
          exact fun way hmem => h.waiting_mem way (List.mem_cons_of_mem _ hmem)
      | cons node before =>
          have hqueue : state.queue = node.val :: ends (rest ++ discovery.found.reverse) :=
            h.queue_eq
          have hpopped : Tracks root { state with queue := ends (rest ++ discovery.found.reverse) }
              discovery.seen (rest ++ discovery.found.reverse)
              (found ++ discovery.found.reverse) :=
            ⟨h.seen_eq, h.size_parent, rfl, h.found_eq,
              fun way hmem => h.waiting_mem way (List.mem_cons_of_mem _ hmem), h.recorded⟩
          have hway := h.waiting_mem (node :: before) (List.mem_cons_self ..)
          obtain ⟨after, hfollow, houtcome⟩ := exists_follow? (hadmits node) hpopped hway hnot
            hmiss (links.row node)
          have hstep : step? index admits? (goal.map Fin.val) state =
              some (after.isAtGoal, after) := by
            rw [step?, hqueue]
            dsimp only
            rw [hindex.edges_eq, hfollow]
            rfl
          rcases houtcome with ⟨hat, way, hmem, hhead, hrecorded⟩ | ⟨hat, htracks, hmissed⟩
          · refine ⟨after, .inl ⟨hat, way, mem_found_extendAll rest hmem, hhead, hrecorded⟩, ?_⟩
            rw [hat] at hstep
            rw [if_pos hat, loop_last hstep]
          · rw [hat] at hstep
            rw [loop_next hstep]
            exact ih _ htracks hat hmissed

/-- What an exploration comes to in the end: it is at the goal by one of the ways that the library
finds, or it has found the modules where all of these end, and none of them is the goal. -/
def Completes (goal : Option (Fin n)) (found later : List (Links.Way n)) (after : Exploration) :
    Prop :=
  (after.isAtGoal = true ∧ ∃ way ∈ later, way.head? = goal ∧ IsRecorded after.parent way) ∨
    after.isAtGoal = false ∧ after.found = ends (found ++ later) ∧
      (∀ way ∈ later, way.head? ≠ goal) ∧ ∀ way ∈ found ++ later, IsRecorded after.parent way

/-- An exploration that waits for nothing is complete. -/
theorem Tracks.completes {seen : Vector Bool n} (h : Tracks root state seen [] found)
    (hnot : state.isAtGoal = false) :
    loop (step? index admits? (goal.map Fin.val)) state = some state ∧
      Completes goal found [] state := by
  have hqueue : state.queue = [] := h.queue_eq
  constructor
  · apply loop_last
    rw [step?, hqueue]
  · refine .inr ⟨hnot, ?_, by simp, fun way hmem => ?_⟩
    · rw [List.append_nil]
      exact h.found_eq
    · rw [List.append_nil] at hmem
      exact (h.recorded way (List.mem_cons_of_mem _ hmem)).1

theorem Completes.append {ways later : List (Links.Way n)} {after : Exploration}
    (h : Completes goal (found ++ ways) later after) (hmiss : ∀ way ∈ ways, way.head? ≠ goal) :
    Completes goal found (ways ++ later) after := by
  rcases h with ⟨hat, way, hmem, hhead, hrecorded⟩ | ⟨hat, hfound, hmissed, hrecorded⟩
  · exact .inl ⟨hat, way, List.mem_append_right _ hmem, hhead, hrecorded⟩
  · rw [List.append_assoc] at hfound hrecorded
    refine .inr ⟨hat, hfound, fun way hmem => ?_, hrecorded⟩
    exact (List.mem_append.1 hmem).elim (hmiss way) (hmissed way)

/-- A round is the last one exactly when one of its ways leads to the goal. -/
theorem any_head?_eq_true_iff {ways : List (Links.Way n)}
    (hheads : ∀ way ∈ ways, ∃ x, way.head? = some x) :
    (ways.any fun way => way.head?.any fun x => goal = some x) = true ↔
      ∃ way ∈ ways, way.head? = goal := by
  rw [List.any_eq_true]
  refine exists_congr fun way => and_congr_right fun hmem => ?_
  obtain ⟨x, hx⟩ := hheads way hmem
  simp [hx, eq_comm]

/-- From a layer on, the loop ends and finds what the rounds find. -/
theorem loop_rounds (hindex : index.Agrees links)
    (hadmits : ∀ node edge, admits? node.val (Edge.arc edge) = some (admissible node edge))
    {k fuel : Nat} {seen : Vector Bool n} {ways : List (Links.Way n)}
    (hlayer : Links.Layer links admissible root k seen ways) (hfuel : fuel + k = n)
    (h : Tracks root state seen ways found) (hnot : state.isAtGoal = false) :
    ∃ after, loop (step? index admits? (goal.map Fin.val)) state = some after ∧
      Completes goal found
        (Links.rounds links admissible (fun x => goal = some x) fuel seen ways) after := by
  induction fuel generalizing k seen ways found state with
  | zero =>
      -- A way of n + 1 modules would repeat one, and no shortest way does.
      obtain rfl : ways = [] := by
        rw [List.eq_nil_iff_forall_not_mem]
        intro way hmem
        obtain ⟨x, hx, hlength⟩ := hlayer.shortest way hmem
        have hle := hx.length_le
        omega
      exact ⟨state, h.completes hnot⟩
  | succ fuel ih =>
      have hstart : Tracks root state seen (ways ++ [].reverse) (found ++ [].reverse) := by
        simpa using h
      obtain ⟨after, houtcome, hloop⟩ := loop_round hindex hadmits ways { seen, found := [] }
        hstart hnot (by simp)
      have hnext := hlayer.next
      unfold Links.rounds
      generalize Links.extendAll links admissible ways { seen, found := [] } = discovery
        at houtcome hnext ⊢
      have hheads : ∀ way ∈ discovery.found.reverse, ∃ x, way.head? = some x := by
        intro way hmem
        obtain ⟨x, hx, _⟩ := hnext.shortest way hmem
        exact ⟨x, hx.1.head?_eq⟩
      rw [hloop]
      dsimp only
      rcases houtcome with ⟨hat, way, hmem, hhead, hrecorded⟩ | ⟨hat, htracks, hmissed⟩
      · have hmem : way ∈ discovery.found.reverse := List.mem_reverse.2 hmem
        have hnonempty : ¬ discovery.found.reverse.isEmpty = true := by
          rw [List.isEmpty_iff]
          exact List.ne_nil_of_mem hmem
        rw [if_pos hat, if_neg hnonempty,
          if_pos ((any_head?_eq_true_iff hheads).2 ⟨way, hmem, hhead⟩)]
        exact ⟨after, rfl, .inl ⟨hat, way, hmem, hhead, hrecorded⟩⟩
      · rw [if_neg (by simp [hat])]
        rw [List.nil_append] at htracks
        by_cases hempty : discovery.found.reverse.isEmpty = true
        · rw [if_pos hempty]
          rw [List.isEmpty_iff.1 hempty, List.append_nil] at htracks
          exact ⟨after, htracks.completes hat⟩
        · have hmissed : ∀ way ∈ discovery.found.reverse, way.head? ≠ goal :=
            fun way hmem => hmissed way (List.mem_reverse.1 hmem)
          have hnone : ¬ ∃ way ∈ discovery.found.reverse, way.head? = goal :=
            fun hgoal => hgoal.elim fun way hway => hmissed way hway.1 hway.2
          rw [if_neg hempty, if_neg (mt (any_head?_eq_true_iff hheads).1 hnone)]
          obtain ⟨final, hfinal, hcompletes⟩ := ih hnext (by omega) htracks hat
          exact ⟨final, hfinal, hcompletes.append hmissed⟩

theorem exists_start? (root : Fin n) :
    ∃ state, start? n root.val = some state ∧ state.isAtGoal = false ∧
      Tracks root state ((Vector.replicate n false).set root true root.isLt) [[root]] [] := by
  have hstart : start? n root.val = some
      { parent := Array.replicate n none
        seen := ((Vector.replicate n false).set root true root.isLt).toArray
        queue := [root.val] } := by
    have hput := put?_toArray (Vector.replicate n false) root true
    rw [Vector.toArray_replicate] at hput
    rw [start?, hput]
    rfl
  refine ⟨_, hstart, rfl, ⟨rfl, by simp, rfl, rfl, by simp, fun way hmem => ?_⟩⟩
  obtain rfl : way = [root] := by simpa using hmem
  refine ⟨List.isChain_singleton _, fun x hx => ?_⟩
  rw [get_set_fin, if_pos (List.mem_singleton.1 hx)]

/-- A whole exploration comes to an end and finds the ways that the library finds. -/
theorem exists_explore (hindex : index.Agrees links)
    (hadmits : ∀ node edge, admits? node.val (Edge.arc edge) = some (admissible node edge))
    (goal : Option (Fin n)) (root : Fin n) :
    ∃ state after, start? index.size root.val = some state ∧
      loop (step? index admits? (goal.map Fin.val)) state = some after ∧
      Completes goal [] (links.explore admissible (fun x => goal = some x) root) after := by
  obtain ⟨state, hstart, hnot, htracks⟩ := exists_start? root
  obtain ⟨after, hloop, hcompletes⟩ := loop_rounds hindex hadmits
    (Links.layer_start links admissible root) (Nat.add_zero n) htracks hnot
  refine ⟨state, after, ?_, hloop, hcompletes⟩
  rw [hindex.size_eq]
  exact hstart

end Rounds

end Exploration

/-! ## Walks and ways back -/

theorem mapM_ends {β : Type} {f : Nat → Option β} {g : Fin n → Links.Way n → β}
    {ways : List (Links.Way n)}
    (h : ∀ way ∈ ways, ∀ target, way.head? = some target → f target.val = some (g target way)) :
    (ends ways).mapM f =
      some (ways.filterMap fun way => way.head?.map fun target => g target way) := by
  induction ways with
  | nil => rfl
  | cons way rest ih =>
      have hrest := ih fun other hother => h other (List.mem_cons_of_mem _ hother)
      cases way with
      | nil => exact hrest
      | cons target before =>
          have hfirst := h (target :: before) (List.mem_cons_self ..) target rfl
          show (target.val :: ends rest).mapM f = _
          rw [List.mapM_cons, hfirst, hrest]
          rfl

/-- Of ways to different modules only one is found for a module. -/
theorem find?_head?_eq_some {ways : List (Links.Way n)}
    (hheads : ways.Pairwise fun v w => v.head? ≠ w.head?) {way : Links.Way n} (hmem : way ∈ ways)
    {target : Fin n} (hhead : way.head? = some target) :
    (ways.find? fun way => way.head? = some target) = some way := by
  have hsome : (ways.find? fun way => way.head? = some target).isSome := by
    rw [List.find?_isSome]
    exact ⟨way, hmem, by simpa using hhead⟩
  obtain ⟨found, hfind⟩ := Option.isSome_iff_exists.1 hsome
  have hfound : found.head? = some target := by simpa using List.find?_some hfind
  have hsame : found = way :=
    List.inj_on_of_nodup_map (List.pairwise_map.2 hheads) (List.mem_of_find?_eq_some hfind) hmem
      (hfound.trans hhead.symm)
  rw [hfind, hsame]

namespace Index

variable {links : Links n} {index : Index}

/-- A walk by plain numbers finds what a walk finds. -/
theorem walk?_eq_some (hindex : index.Agrees links) (root : Fin n) :
    index.walk? root.val = some ((links.waysFrom root).filterMap fun way =>
      way.head?.map fun target => (target.val, way.steps.map Fin.val)) := by
  have hadmits : ∀ (node : Fin n) (edge : Edge n),
      isTaken? root.val node.val edge.arc = some (Links.isTaken root node edge) := by
    intro node edge
    simp [isTaken?, Links.isTaken, Edge.arc, Fin.val_inj]
  have hstop : (fun x : Fin n => decide ((none : Option (Fin n)) = some x)) = fun _ => false := by
    funext x
    simp
  obtain ⟨state, after, hstart, hloop, hcompletes⟩ :=
    Exploration.exists_explore hindex hadmits none root
  rw [hstop] at hcompletes
  rw [walk?, hstart, Option.bind_eq_bind, Option.bind_some]
  rw [Option.map_none] at hloop
  rw [hloop, Option.bind_eq_bind, Option.bind_some]
  have hshortest : ∀ way ∈ links.waysFrom root, ∃ target, target ≠ root ∧
      links.IsShortest (Links.isTaken root) root target way :=
    fun way hmem => Links.explore_shortest hmem
  rcases hcompletes with ⟨_, way, hmem, hhead, _⟩ | ⟨_, hfound, _, hrecorded⟩
  · obtain ⟨target, _, hway⟩ := hshortest way hmem
    rw [hway.1.head?_eq] at hhead
    cases hhead
  · rw [hfound, List.nil_append]
    refine mapM_ends fun way hmem target hhead => ?_
    obtain ⟨x, hne, hway⟩ := hshortest way hmem
    obtain rfl : x = target := Option.some.inj (hway.1.head?_eq.symm.trans hhead)
    rw [hops?_eq_some hway.1 hway.nodup hne (hrecorded way hmem)]
    rfl

/-- A way back by plain numbers is the way back. -/
theorem wayBack?_eq_some (hindex : index.Agrees links) (components : Vector (Option Nat) n)
    (start goal : Fin n) :
    index.wayBack? components.toArray start.val goal.val =
      some ((links.wayBack components start goal).map Fin.val) := by
  unfold wayBack? Links.wayBack
  by_cases heq : start = goal
  · rw [if_pos (congrArg Fin.val heq), if_pos heq]
    rfl
  · rw [if_neg (fun hval => heq (Fin.ext hval)), if_neg heq]
    have hadmits : ∀ (node : Fin n) (edge : Edge n),
        leadsInto? components.toArray start.val node.val edge.arc =
          some (decide (components.get edge.target = components.get start)) := by
      intro node edge
      rw [leadsInto?, isSame?, Edge.arc, getElem?_toArray, getElem?_toArray]
      rfl
    have hstop : (fun x : Fin n => decide (some goal = some x)) = fun x => decide (x = goal) := by
      funext x
      simp [eq_comm]
    obtain ⟨state, after, hrun, hloop, hcompletes⟩ :=
      Exploration.exists_explore hindex hadmits (some goal) start
    rw [hstop] at hcompletes
    rw [hrun, Option.bind_eq_bind, Option.bind_some]
    rw [Option.map_some] at hloop
    rw [hloop, Option.bind_some]
    dsimp only
    rcases hcompletes with ⟨hat, way, hmem, hhead, hrecorded⟩ | ⟨hat, _, hmissed, _⟩
    · -- The exploration lists one way for each module, so the first to the goal is this one.
      obtain ⟨x, _, hway⟩ := Links.explore_shortest hmem
      obtain rfl : x = goal := Option.some.inj (hway.1.head?_eq.symm.trans hhead)
      have hfind := find?_head?_eq_some ((Links.explore_pairwise ..).imp And.left) hmem hhead
      rw [if_pos hat, hfind, unwind?_eq_some hway.1 hway.nodup hrecorded]
    · have hfind : (links.explore (fun _ edge => components.get edge.target = components.get start)
          (· = goal) start).find? (fun way => way.head? = some goal) = none := by
        rw [List.find?_eq_none]
        intro way hmem
        simpa using hmissed way hmem
      rw [if_neg (by simp [hat]), hfind]
      rfl

end Index

end Plain

end DependencyRules
