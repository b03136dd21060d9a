import DependencyRules.Graph.Exploration
import DependencyRules.Proofs.Links
import Mathlib.Data.Fintype.Card

/-!
# Exploration finds shortest ways

`IsWay` says what a way is: it starts at the root and takes one admissible edge after the other. An
exploration lists a shortest way to every module that some way leads to, the root excepted, shorter
ways before longer ones. If it is told where to stop, it ends with the round that finds the place.
-/

namespace DependencyRules

namespace Links

variable {n : Nat}

def StepsTo (links : Links n) (admissible : Fin n → Edge n → Bool) (i j : Fin n) : Prop :=
  ∃ edge ∈ links.row i, admissible i edge = true ∧ edge.target = j

/-- A way from a root to a module along admissible edges. -/
inductive IsWay (links : Links n) (admissible : Fin n → Edge n → Bool) (root : Fin n) :
    Fin n → Way n → Prop where
  | start : IsWay links admissible root root [root]
  | step {node target : Fin n} {way : Way n} (before : IsWay links admissible root node way)
      (edge : links.StepsTo admissible node target) :
      IsWay links admissible root target (target :: way)

def IsShortest (links : Links n) (admissible : Fin n → Edge n → Bool) (root target : Fin n)
    (way : Way n) : Prop :=
  IsWay links admissible root target way ∧
    ∀ other, IsWay links admissible root target other → way.length ≤ other.length

section Ways

variable {links : Links n} {admissible : Fin n → Edge n → Bool} {root target : Fin n}
  {way : Way n}

theorem IsWay.head?_eq (h : IsWay links admissible root target way) :
    way.head? = some target := by
  cases h <;> rfl

theorem IsWay.eq_cons (h : IsWay links admissible root target way) :
    ∃ before, way = target :: before := by
  cases h with
  | start => exact ⟨[], rfl⟩
  | step before edge => exact ⟨_, rfl⟩

theorem IsWay.length_pos (h : IsWay links admissible root target way) : 0 < way.length := by
  obtain ⟨before, rfl⟩ := h.eq_cons
  simp

/-- Read from its root on, a way is a path of admissible steps. -/
theorem isWay_iff :
    IsWay links admissible root target way ↔
      IsPath (links.StepsTo admissible) root target way.reverse := by
  constructor
  · intro h
    induction h with
    | start => exact isPath_singleton ..
    | @step node target way before edge ih =>
        refine ⟨?_, ?_, ?_⟩
        · rw [List.reverse_cons, List.isChain_append]
          refine ⟨ih.chain, List.isChain_singleton _, ?_⟩
          simpa [ih.last] using edge
        · rw [List.reverse_cons, List.head?_append, ih.head, Option.some_or]
        · rw [List.reverse_cons, List.getLast?_concat]
  · induction way generalizing target with
    | nil => exact fun h => absurd rfl h.ne_nil
    | cons node before ih =>
        rintro ⟨hchain, hroot, htarget⟩
        obtain rfl : node = target := by simpa using htarget
        cases before with
        | nil =>
            obtain rfl : node = root := by simpa using hroot
            exact .start
        | cons previous before =>
            rw [List.reverse_cons, List.isChain_append] at hchain
            have hroot' : (previous :: before).reverse.head? = some root := by
              rw [List.reverse_cons, List.head?_append] at hroot
              cases h : (previous :: before).reverse.head? with
              | none => simp at h
              | some first => rwa [h, Option.some_or] at hroot
            have hprevious : (previous :: before).reverse.getLast? = some previous := by simp
            refine .step (ih ⟨hchain.1, hroot', hprevious⟩) ?_
            exact hchain.2.2 previous (by simp) node (by simp)

/-- A module on a way has a way of its own that is no longer. -/
theorem IsWay.exists_of_mem (h : IsWay links admissible root target way) {node : Fin n}
    (hmem : node ∈ way) :
    ∃ part, IsWay links admissible root node part ∧ part.length ≤ way.length := by
  induction h with
  | start =>
      obtain rfl : node = root := by simpa using hmem
      exact ⟨[node], .start, Nat.le_refl _⟩
  | @step previous target way before edge ih =>
      rcases List.mem_cons.1 hmem with rfl | hmem
      · exact ⟨node :: way, .step before edge, Nat.le_refl _⟩
      · obtain ⟨part, hpart, hlength⟩ := ih hmem
        exact ⟨part, hpart, by simp; omega⟩

theorem IsShortest.of_step {node : Fin n} (edge : links.StepsTo admissible node target)
    (before : IsWay links admissible root node way)
    (h : IsShortest links admissible root target (target :: way)) :
    IsShortest links admissible root node way := by
  refine ⟨before, fun other hother => ?_⟩
  have hlength := h.2 (target :: other) (.step hother edge)
  simpa using hlength

/-- A shortest way visits no module twice. -/
theorem IsShortest.nodup (h : IsShortest links admissible root target way) : way.Nodup := by
  obtain ⟨hway, hmin⟩ := h
  induction hway with
  | start => simp
  | @step node target way before edge ih =>
      have hbefore := IsShortest.of_step edge before ⟨.step before edge, hmin⟩
      refine List.nodup_cons.2 ⟨fun hmem => ?_, ih hbefore.2⟩
      obtain ⟨part, hpart, hlength⟩ := before.exists_of_mem hmem
      have hle := hmin part hpart
      simp only [List.length_cons] at hle
      omega

theorem IsShortest.length_le (h : IsShortest links admissible root target way) :
    way.length ≤ n := by
  simpa using h.nodup.length_le_card

theorem IsShortest.length_eq {other : Way n} (h : IsShortest links admissible root target way)
    (hother : IsShortest links admissible root target other) : way.length = other.length :=
  Nat.le_antisymm (h.2 other hother.1) (hother.2 way h.1)

/-- Distances have no gaps: if no way to a module has fewer than `k` modules, some module is reached
with exactly `k` and not with fewer. -/
theorem IsWay.exists_length_eq (h : IsWay links admissible root target way) {k : Nat} (hk : 0 < k)
    (hmin : ∀ other, IsWay links admissible root target other → k ≤ other.length) :
    ∃ node part, IsShortest links admissible root node part ∧ part.length = k := by
  induction h with
  | start =>
      have hle := hmin [root] .start
      have hone : k = 1 := by simp only [List.length_singleton] at hle; omega
      subst hone
      exact ⟨root, [root], ⟨.start, hmin⟩, rfl⟩
  | @step node target way before edge ih =>
      by_cases hnode : ∀ other, IsWay links admissible root node other → k ≤ other.length
      · exact ih hnode
      · obtain ⟨other, hother, hlt⟩ : ∃ other, IsWay links admissible root node other ∧
            other.length < k := by simpa using hnode
        have hle := hmin (target :: other) (.step hother edge)
        have hlength : (target :: other).length = k := by
          simp only [List.length_cons] at hle ⊢
          omega
        exact ⟨target, target :: other, ⟨.step hother edge, fun u hu => hlength ▸ hmin u hu⟩,
          hlength⟩

end Ways

/-! ## One round -/

/-- The ways that are one admissible edge longer than a given one, in the order of the edges. -/
def extensions (links : Links n) (admissible : Fin n → Edge n → Bool) : Way n → List (Way n)
  | [] => []
  | node :: before =>
      ((links.row node).filter (admissible node)).map fun edge => edge.target :: node :: before

def Discovery.take (discovery : Discovery n) : Way n → Discovery n
  | [] => discovery
  | node :: before =>
      if discovery.seen.get node then discovery
      else
        { seen := discovery.seen.set node true node.isLt
          found := (node :: before) :: discovery.found }

/-- The ways of a list that lead to modules not seen before, the first one to each module. -/
def firstWays (seen : Vector Bool n) : List (Way n) → List (Way n)
  | [] => []
  | [] :: rest => firstWays seen rest
  | (node :: before) :: rest =>
      if seen.get node then firstWays seen rest
      else (node :: before) :: firstWays (seen.set node true node.isLt) rest

theorem mem_extensions {links : Links n} {admissible : Fin n → Edge n → Bool} {way new : Way n}
    {node : Fin n} (hnode : way.head? = some node) :
    new ∈ extensions links admissible way ↔
      ∃ target, links.StepsTo admissible node target ∧ new = target :: way := by
  cases way with
  | nil => simp at hnode
  | cons first before =>
      obtain rfl : first = node := by simpa using hnode
      simp only [extensions, List.mem_map, List.mem_filter, StepsTo]
      constructor
      · rintro ⟨edge, ⟨hrow, hadmissible⟩, rfl⟩
        exact ⟨edge.target, ⟨edge, hrow, hadmissible, rfl⟩, rfl⟩
      · rintro ⟨target, ⟨edge, hrow, hadmissible, rfl⟩, rfl⟩
        exact ⟨edge, ⟨hrow, hadmissible⟩, rfl⟩

theorem extend_eq_foldl (admissible : Edge n → Bool) (way : Way n) (edges : List (Edge n))
    (discovery : Discovery n) :
    extend admissible way edges discovery =
      ((edges.filter admissible).map fun edge => edge.target :: way).foldl Discovery.take
        discovery := by
  induction edges generalizing discovery with
  | nil => rfl
  | cons edge edges ih =>
      unfold extend
      by_cases hadmissible : admissible edge = true
      · by_cases hseen : discovery.seen.get edge.target = true
        · rw [if_neg (by simpa using fun _ => hseen), ih, List.filter_cons_of_pos hadmissible,
            List.map_cons, List.foldl_cons, Discovery.take, if_pos hseen]
        · rw [if_pos (by simpa [hadmissible] using hseen), ih,
            List.filter_cons_of_pos hadmissible, List.map_cons, List.foldl_cons,
            Discovery.take, if_neg hseen]
      · rw [if_neg (by simp [hadmissible]), ih, List.filter_cons_of_neg hadmissible]

/-- A round takes the extensions of its ways one by one. -/
theorem extendAll_eq_foldl (links : Links n) (admissible : Fin n → Edge n → Bool)
    (ways : List (Way n)) (discovery : Discovery n) :
    extendAll links admissible ways discovery =
      (ways.flatMap (extensions links admissible)).foldl Discovery.take discovery := by
  induction ways generalizing discovery with
  | nil => rfl
  | cons way rest ih =>
      cases way with
      | nil => rw [extendAll, ih, List.flatMap_cons, extensions, List.nil_append]
      | cons node before =>
          rw [extendAll, ih, List.flatMap_cons, List.foldl_append, extensions, extend_eq_foldl]

theorem foldl_take_found (ways : List (Way n)) (discovery : Discovery n) :
    (ways.foldl Discovery.take discovery).found.reverse =
      discovery.found.reverse ++ firstWays discovery.seen ways := by
  induction ways generalizing discovery with
  | nil => simp [firstWays]
  | cons way rest ih =>
      rw [List.foldl_cons, ih]
      cases way with
      | nil => rfl
      | cons node before =>
          by_cases hseen : discovery.seen.get node = true
          · rw [Discovery.take, if_pos hseen, firstWays, if_pos hseen]
          · rw [Discovery.take, if_neg hseen, firstWays, if_neg hseen, List.reverse_cons,
              List.append_assoc, List.singleton_append]

theorem foldl_take_seen (ways : List (Way n)) (discovery : Discovery n) (x : Fin n) :
    (ways.foldl Discovery.take discovery).seen.get x = true ↔
      discovery.seen.get x = true ∨ ∃ way ∈ firstWays discovery.seen ways, way.head? = some x := by
  induction ways generalizing discovery with
  | nil => simp [firstWays]
  | cons way rest ih =>
      rw [List.foldl_cons, ih]
      cases way with
      | nil => rfl
      | cons node before =>
          by_cases hseen : discovery.seen.get node = true
          · rw [Discovery.take, if_pos hseen, firstWays, if_pos hseen]
          · rw [Discovery.take, if_neg hseen, firstWays, if_neg hseen]
            simp only [get_set_fin]
            by_cases hx : x = node
            · simp [hx]
            · simp [hx, Ne.symm hx]

theorem firstWays_sublist (seen : Vector Bool n) (ways : List (Way n)) :
    (firstWays seen ways).Sublist ways := by
  induction ways generalizing seen with
  | nil => exact List.Sublist.slnil
  | cons way rest ih =>
      cases way with
      | nil => exact (ih seen).cons _
      | cons node before =>
          unfold firstWays
          split
          · exact (ih seen).cons _
          · exact (ih _).cons_cons _

theorem not_seen_of_mem_firstWays {seen : Vector Bool n} {ways : List (Way n)} {way : Way n}
    (hmem : way ∈ firstWays seen ways) {node : Fin n} (hnode : way.head? = some node) :
    seen.get node = false := by
  induction ways generalizing seen with
  | nil => simp [firstWays] at hmem
  | cons first rest ih =>
      cases first with
      | nil => exact ih hmem
      | cons other before =>
          unfold firstWays at hmem
          split at hmem
          · exact ih hmem
          · rename_i hseen
            rcases List.mem_cons.1 hmem with rfl | hmem
            · obtain rfl : other = node := by simpa using hnode
              simpa using hseen
            · have hlater := ih hmem
              rw [get_set_fin] at hlater
              split at hlater
              · cases hlater
              · exact hlater

theorem firstWays_pairwise (seen : Vector Bool n) (ways : List (Way n)) :
    (firstWays seen ways).Pairwise fun v w => v.head? ≠ w.head? := by
  induction ways generalizing seen with
  | nil => exact List.Pairwise.nil
  | cons way rest ih =>
      cases way with
      | nil => exact ih seen
      | cons node before =>
          unfold firstWays
          split
          · exact ih seen
          · refine List.pairwise_cons.2 ⟨fun other hother hhead => ?_, ih _⟩
            have hseen := not_seen_of_mem_firstWays hother hhead.symm
            rw [get_set_fin, if_pos rfl] at hseen
            cases hseen

theorem exists_mem_firstWays {seen : Vector Bool n} {ways : List (Way n)} {way : Way n}
    (hmem : way ∈ ways) {node : Fin n} (hnode : way.head? = some node)
    (hseen : seen.get node = false) : ∃ first ∈ firstWays seen ways, first.head? = some node := by
  induction ways generalizing seen with
  | nil => simp at hmem
  | cons other rest ih =>
      cases other with
      | nil =>
          rcases List.mem_cons.1 hmem with rfl | hmem
          · simp at hnode
          · exact ih hmem hseen
      | cons start before =>
          unfold firstWays
          by_cases hstart : node = start
          · subst hstart
            rw [if_neg (by simp [hseen])]
            exact ⟨_, List.mem_cons_self .., rfl⟩
          · have hmem : way ∈ rest := by
              rcases List.mem_cons.1 hmem with rfl | hmem
              · exact absurd (by simpa using hnode.symm) hstart
              · exact hmem
            split
            · exact ih hmem hseen
            · have hlater : (seen.set start true start.isLt).get node = false := by
                rw [get_set_fin, if_neg hstart]
                exact hseen
              obtain ⟨first, hfirst, hhead⟩ := ih hmem hlater
              exact ⟨first, List.mem_cons_of_mem _ hfirst, hhead⟩

/-! ## Round after round -/

/-- What is known before a round: the ways are shortest ways with `k + 1` modules, one to each
module that is as far as that, and the modules seen are those no farther. -/
structure Layer (links : Links n) (admissible : Fin n → Edge n → Bool) (root : Fin n) (k : Nat)
    (seen : Vector Bool n) (ways : List (Way n)) : Prop where
  shortest : ∀ way ∈ ways, ∃ target,
    IsShortest links admissible root target way ∧ way.length = k + 1
  heads : ways.Pairwise fun v w => v.head? ≠ w.head?
  complete : ∀ target way, IsShortest links admissible root target way →
    way.length = k + 1 → ∃ listed ∈ ways, listed.head? = some target
  seen_iff : ∀ x, seen.get x = true ↔
    ∃ way, IsWay links admissible root x way ∧ way.length ≤ k + 1

section Rounds

variable {links : Links n} {admissible : Fin n → Edge n → Bool} {root : Fin n}
  {stop : Fin n → Bool} {k : Nat} {seen : Vector Bool n} {ways : List (Way n)}

theorem layer_start (links : Links n) (admissible : Fin n → Edge n → Bool) (root : Fin n) :
    Layer links admissible root 0 ((Vector.replicate n false).set root true root.isLt)
      [[root]] := by
  have hone : ∀ target way, IsWay links admissible root target way → way.length ≤ 1 →
      target = root := by
    intro target way hway hlength
    cases hway with
    | start => rfl
    | step before edge =>
        have hpos := before.length_pos
        simp only [List.length_cons] at hlength
        omega
  refine ⟨?_, List.pairwise_singleton .., ?_, ?_⟩
  · intro way hmem
    obtain rfl : way = [root] := by simpa using hmem
    exact ⟨root, ⟨.start, fun other hother => hother.length_pos⟩, rfl⟩
  · intro target way hway hlength
    obtain rfl := hone target way hway.1 (Nat.le_of_eq hlength)
    exact ⟨[target], List.mem_singleton_self _, rfl⟩
  · intro x
    rw [get_set_fin]
    constructor
    · intro hseen
      split at hseen
      · rename_i hx
        exact ⟨[root], hx ▸ .start, Nat.le_refl _⟩
      · simp at hseen
    · rintro ⟨way, hway, hlength⟩
      rw [if_pos (hone x way hway hlength)]

/-- A new way that a round finds is a shortest one. -/
theorem Layer.isShortest_of_mem (h : Layer links admissible root k seen ways) {new : Way n}
    (hmem : new ∈ firstWays seen (ways.flatMap (extensions links admissible))) :
    ∃ target, IsShortest links admissible root target new ∧ new.length = k + 2 := by
  obtain ⟨way, hway, hnew⟩ := List.mem_flatMap.1 ((firstWays_sublist _ _).mem hmem)
  obtain ⟨node, hnode, hlength⟩ := h.shortest way hway
  obtain ⟨target, hstep, rfl⟩ := (mem_extensions hnode.1.head?_eq).1 hnew
  have hunseen : seen.get target = false := not_seen_of_mem_firstWays hmem rfl
  refine ⟨target, ⟨.step hnode.1 hstep, fun other hother => ?_⟩, by simp [hlength]⟩
  by_contra hlt
  have hseen : seen.get target = true :=
    (h.seen_iff target).2 ⟨other, hother, by simp only [List.length_cons] at hlt; omega⟩
  simp [hunseen] at hseen

/-- A round finds every module that is one step farther. -/
theorem Layer.exists_new (h : Layer links admissible root k seen ways) {target : Fin n}
    {way : Way n} (hway : IsShortest links admissible root target way)
    (hlength : way.length = k + 2) :
    ∃ new ∈ firstWays seen (ways.flatMap (extensions links admissible)),
      new.head? = some target := by
  have hunseen : seen.get target = false := by
    rw [Bool.eq_false_iff]
    intro hseen
    obtain ⟨other, hother, hle⟩ := (h.seen_iff target).1 hseen
    have hmin := hway.2 other hother
    omega
  obtain ⟨hway, hmin⟩ := hway
  cases hway with
  | start => simp at hlength
  | @step node target before hbefore hstep =>
      have hnode := IsShortest.of_step hstep hbefore ⟨.step hbefore hstep, hmin⟩
      obtain ⟨listed, hlisted, hhead⟩ := h.complete node before hnode (by simpa using hlength)
      have hnew : target :: listed ∈ extensions links admissible listed :=
        (mem_extensions hhead).2 ⟨target, hstep, rfl⟩
      exact exists_mem_firstWays (List.mem_flatMap.2 ⟨listed, hlisted, hnew⟩) rfl hunseen

/-- What one round does: it goes from a layer to the next. -/
theorem Layer.next (h : Layer links admissible root k seen ways) :
    Layer links admissible root (k + 1)
      (extendAll links admissible ways { seen, found := [] }).seen
      (extendAll links admissible ways { seen, found := [] }).found.reverse := by
  rw [extendAll_eq_foldl, foldl_take_found, List.reverse_nil, List.nil_append]
  refine ⟨fun new hnew => h.isShortest_of_mem hnew, firstWays_pairwise _ _,
    fun target way hway hlength => h.exists_new hway hlength, fun x => ?_⟩
  rw [foldl_take_seen]
  constructor
  · rintro (hseen | ⟨new, hnew, hhead⟩)
    · obtain ⟨way, hway, hle⟩ := (h.seen_iff x).1 hseen
      exact ⟨way, hway, by omega⟩
    · obtain ⟨target, hshortest, hlength⟩ := h.isShortest_of_mem hnew
      obtain rfl : target = x := by simpa [hshortest.1.head?_eq] using hhead
      exact ⟨new, hshortest.1, Nat.le_of_eq hlength⟩
  · rintro ⟨way, hway, hle⟩
    by_cases hnear : ∃ other, IsWay links admissible root x other ∧ other.length ≤ k + 1
    · exact .inl ((h.seen_iff x).2 hnear)
    · have hfar : ∀ other, IsWay links admissible root x other → k + 2 ≤ other.length := by
        intro other hother
        by_contra hlt
        exact hnear ⟨other, hother, by omega⟩
      have hlength : way.length = k + 2 := Nat.le_antisymm hle (hfar way hway)
      exact .inr (h.exists_new ⟨hway, fun other hother => hlength ▸ hfar other hother⟩ hlength)

/-- The ways of all rounds from a layer on are shortest ways, to one module each and in the order
of their length. -/
theorem Layer.rounds_shortest (h : Layer links admissible root k seen ways) (fuel : Nat) :
    (∀ way ∈ rounds links admissible stop fuel seen ways, ∃ target,
        IsShortest links admissible root target way ∧ k + 2 ≤ way.length) ∧
      (rounds links admissible stop fuel seen ways).Pairwise
        fun v w => v.head? ≠ w.head? ∧ v.length ≤ w.length := by
  induction fuel generalizing k seen ways with
  | zero => simp [rounds]
  | succ fuel ih =>
      have hnext := h.next
      unfold rounds
      generalize extendAll links admissible ways { seen, found := [] } = discovery at hnext ⊢
      have hfound : ∀ way ∈ discovery.found.reverse, ∃ target,
          IsShortest links admissible root target way ∧ k + 2 ≤ way.length := by
        intro way hmem
        obtain ⟨target, hway, hlength⟩ := hnext.shortest way hmem
        exact ⟨target, hway, by omega⟩
      have hpairs : discovery.found.reverse.Pairwise
          fun v w => v.head? ≠ w.head? ∧ v.length ≤ w.length := by
        refine hnext.heads.imp_of_mem fun {v w} hv hw hne => ⟨hne, ?_⟩
        obtain ⟨_, _, hvlength⟩ := hnext.shortest v hv
        obtain ⟨_, _, hwlength⟩ := hnext.shortest w hw
        omega
      dsimp only
      split
      · simp
      · split
        · exact ⟨hfound, hpairs⟩
        · obtain ⟨hlater, hlaterPairs⟩ := ih hnext
          refine ⟨fun way hmem => ?_, List.pairwise_append.2 ⟨hpairs, hlaterPairs, ?_⟩⟩
          · rcases List.mem_append.1 hmem with hmem | hmem
            · exact hfound way hmem
            · obtain ⟨target, hway, hlength⟩ := hlater way hmem
              exact ⟨target, hway, by omega⟩
          · intro v hv w hw
            obtain ⟨x, hx, hxlength⟩ := hnext.shortest v hv
            obtain ⟨y, hy, hylength⟩ := hlater w hw
            refine ⟨fun hhead => ?_, by omega⟩
            -- Shortest ways to one module are equally long, and these are not.
            rw [hx.1.head?_eq, hy.1.head?_eq, Option.some.injEq] at hhead
            subst hhead
            have heq := hx.length_eq hy
            omega

/-- The rounds from a layer on find every module beyond it, unless they stop at some module. -/
theorem Layer.rounds_complete (h : Layer links admissible root k seen ways) (hne : ways ≠ [])
    {fuel : Nat} (hfuel : fuel + k = n) {target : Fin n} {way : Way n}
    (hway : IsWay links admissible root target way)
    (hfar : ∀ other, IsWay links admissible root target other → k + 2 ≤ other.length) :
    ∃ found ∈ rounds links admissible stop fuel seen ways,
      found.head? = some target ∨ found.head?.any stop = true := by
  induction fuel generalizing k seen ways with
  | zero =>
      -- A way of n + 1 modules would repeat one, and no shortest way does.
      obtain ⟨first, hfirst⟩ := List.exists_mem_of_ne_nil ways hne
      obtain ⟨x, hx, hlength⟩ := h.shortest first hfirst
      have hle := hx.length_le
      omega
  | succ fuel ih =>
      have hnext := h.next
      unfold rounds
      generalize extendAll links admissible ways { seen, found := [] } = discovery at hnext ⊢
      dsimp only
      split
      · rename_i hempty
        -- Some part of the way ends in the next layer, which therefore is not empty.
        obtain ⟨node, part, hpart, hlength⟩ := hway.exists_length_eq (k := k + 2) (by omega) hfar
        obtain ⟨listed, hlisted, _⟩ := hnext.complete node part hpart hlength
        rw [List.isEmpty_iff.1 hempty] at hlisted
        simp at hlisted
      · rename_i hnonempty
        split
        · rename_i hstop
          obtain ⟨found, hmem, hfound⟩ := List.any_eq_true.1 hstop
          exact ⟨found, hmem, .inr hfound⟩
        · by_cases hnear : ∃ other, IsWay links admissible root target other ∧
              other.length ≤ k + 2
          · obtain ⟨other, hother, hle⟩ := hnear
            have hlength : other.length = k + 2 := Nat.le_antisymm hle (hfar other hother)
            obtain ⟨listed, hlisted, hhead⟩ := hnext.complete target other
              ⟨hother, fun u hu => hlength ▸ hfar u hu⟩ hlength
            exact ⟨listed, List.mem_append_left _ hlisted, .inl hhead⟩
          · have hfar' : ∀ other, IsWay links admissible root target other →
                k + 1 + 2 ≤ other.length := by
              intro other hother
              by_contra hlt
              exact hnear ⟨other, hother, by omega⟩
            obtain ⟨found, hmem, hfound⟩ := ih hnext
              (by simpa [List.isEmpty_iff] using hnonempty) (by omega) hfar'
            exact ⟨found, List.mem_append_right _ hmem, hfound⟩

end Rounds

/-! ## Whole explorations -/

section Explore

variable {links : Links n} {admissible : Fin n → Edge n → Bool} {stop : Fin n → Bool}
  {root : Fin n}

/-- Every way that an exploration lists is a shortest way to a module other than the root. -/
theorem explore_shortest {way : Way n} (hmem : way ∈ links.explore admissible stop root) :
    ∃ target, target ≠ root ∧ IsShortest links admissible root target way := by
  obtain ⟨target, hway, hlength⟩ := ((layer_start links admissible root).rounds_shortest n).1
    way hmem
  refine ⟨target, ?_, hway⟩
  rintro rfl
  have hle := hway.2 [target] .start
  simp only [List.length_singleton] at hle
  omega

/-- An exploration lists one way for each module, and longer ways later. -/
theorem explore_pairwise (links : Links n) (admissible : Fin n → Edge n → Bool)
    (stop : Fin n → Bool) (root : Fin n) :
    (links.explore admissible stop root).Pairwise
      fun v w => v.head? ≠ w.head? ∧ v.length ≤ w.length :=
  ((layer_start links admissible root).rounds_shortest n).2

theorem explore_complete (stop : Fin n → Bool) {target : Fin n} {way : Way n}
    (hway : IsWay links admissible root target way) (hne : target ≠ root) :
    ∃ found ∈ links.explore admissible stop root,
      found.head? = some target ∨ found.head?.any stop = true := by
  refine (layer_start links admissible root).rounds_complete (by simp) (by omega) hway ?_
  intro other hother
  cases hother with
  | start => exact absurd rfl hne
  | step before edge =>
      have hpos := before.length_pos
      simp only [List.length_cons]
      omega

/-- An exploration that stops at a module finds a shortest way to it, if there is any way. -/
theorem explore_find? {goal : Fin n} {way : Way n}
    (hway : IsWay links admissible root goal way) (hne : goal ≠ root) :
    ∃ found, (links.explore admissible (· = goal) root).find? (fun way => way.head? = some goal) =
        some found ∧ IsShortest links admissible root goal found := by
  have hsome : ((links.explore admissible (· = goal) root).find?
      fun way => way.head? = some goal).isSome := by
    rw [List.find?_isSome]
    obtain ⟨found, hmem, hfound⟩ := explore_complete (· = goal) hway hne
    refine ⟨found, hmem, ?_⟩
    cases hhead : found.head? with
    | none => simp [hhead] at hfound
    | some x => simpa [hhead] using hfound
  obtain ⟨found, hfind⟩ := Option.isSome_iff_exists.1 hsome
  have hgoal : found.head? = some goal := by simpa using List.find?_some hfind
  obtain ⟨target, _, hshortest⟩ := explore_shortest (List.mem_of_find?_eq_some hfind)
  obtain rfl : target = goal := by simpa [hshortest.1.head?_eq] using hgoal
  exact ⟨found, hfind, hshortest⟩

/-- An exploration that does not stop finds a way to every module that some way leads to. -/
theorem exists_mem_explore_iff {target : Fin n} :
    (∃ way ∈ links.explore admissible (fun _ => false) root, way.head? = some target) ↔
      target ≠ root ∧ ∃ way, IsWay links admissible root target way := by
  constructor
  · rintro ⟨way, hmem, hhead⟩
    obtain ⟨x, hne, hshortest⟩ := explore_shortest hmem
    obtain rfl : x = target := by simpa [hshortest.1.head?_eq] using hhead
    exact ⟨hne, way, hshortest.1⟩
  · rintro ⟨hne, way, hway⟩
    obtain ⟨found, hmem, hfound⟩ := explore_complete (fun _ => false) hway hne
    refine ⟨found, hmem, hfound.resolve_right ?_⟩
    cases found.head? <;> simp

end Explore

end Links

end DependencyRules
