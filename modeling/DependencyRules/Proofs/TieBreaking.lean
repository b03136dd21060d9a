import DependencyRules.Proofs.Cycles
import DependencyRules.Proofs.Routes

/-!
# Ties are decided by the order of the dependencies

A path is told by the places of its steps: for each step, the first dependency that takes it. Of the
paths of equal length an exploration finds the one whose places come first in lexicographic order.
Each round of an exploration lists its ways in the order of their places, and that is why the way
that is found first is the first one in order. So cycles and routes depend on the order of the
dependencies alone.
-/

namespace DependencyRules

/-! ## Places along a path -/

/-- The places at which the steps of a path are taken, where each step has one. -/
def placesAlong {α : Type} (place : α → α → Nat) : List α → List Nat
  | [] => []
  | [_] => []
  | x :: y :: path => place x y :: placesAlong place (y :: path)

section Places

variable {α : Type} {place place' : α → α → Nat} {path other : List α}

theorem length_placesAlong (place : α → α → Nat) (path : List α) :
    (placesAlong place path).length = path.length - 1 := by
  fun_induction placesAlong place path with
  | case1 => rfl
  | case2 x => rfl
  | case3 x y path ih => simp [ih]

theorem placesAlong_concat (place : α → α → Nat) (path : List α) (x y : α) :
    placesAlong place (path ++ [x] ++ [y]) = placesAlong place (path ++ [x]) ++ [place x y] := by
  induction path with
  | nil => rfl
  | cons first path ih =>
      cases path with
      | nil => rfl
      | cons second path =>
          simp only [List.cons_append, placesAlong] at ih ⊢
          rw [ih]

theorem placesAlong_congr (h : path.IsChain fun x y => place x y = place' x y) :
    placesAlong place path = placesAlong place' path := by
  fun_induction placesAlong place path with
  | case1 => rfl
  | case2 x => rfl
  | case3 x y path ih =>
      rw [List.isChain_cons_cons] at h
      rw [placesAlong, h.1, ih h.2]

/-- If the place of a step tells where the step leads, the places of a path tell the path. -/
theorem eq_of_placesAlong_eq {R : α → α → Prop}
    (hplace : ∀ x y z, R x y → R x z → place x y = place x z → y = z)
    (hpath : path.IsChain R) (hother : other.IsChain R) (hhead : path.head? = other.head?)
    (h : placesAlong place path = placesAlong place other) : path = other := by
  induction path generalizing other with
  | nil => exact (List.head?_eq_none_iff.1 hhead.symm).symm
  | cons x path ih =>
      obtain ⟨rest, rfl⟩ : ∃ rest, other = x :: rest := List.head?_eq_some_iff.1 hhead.symm
      cases path with
      | nil =>
          cases rest with
          | nil => rfl
          | cons z rest => cases h
      | cons y path =>
          cases rest with
          | nil => cases h
          | cons z rest =>
              rw [List.isChain_cons_cons] at hpath hother
              simp only [placesAlong, List.cons.injEq] at h
              obtain rfl := hplace x y z hpath.1 hother.1 h.1
              rw [ih hpath.2 hother.2 rfl h.2]

end Places

namespace Links

variable {n : Nat}

/-! ## Ways in the order of their places -/

/-- The place of a step is that of the first admissible edge that takes it, in rows that stand in
the order of their dependencies. -/
structure IsPlacing (links : Links n) (admissible : Fin n → Edge n → Bool)
    (place : Fin n → Fin n → Nat) : Prop where
  sorted : ∀ node, (links.row node).Pairwise fun a b => a.dependency < b.dependency
  exists_edge : ∀ {node target}, links.StepsTo admissible node target →
    ∃ edge ∈ links.row node, admissible node edge = true ∧ edge.target = target ∧
      edge.dependency = place node target
  le : ∀ {node}, ∀ edge ∈ links.row node, admissible node edge = true →
    place node edge.target ≤ edge.dependency

def Way.places (place : Fin n → Fin n → Nat) (way : Way n) : List Nat :=
  placesAlong place way.reverse

/-- The ways that are one admissible edge longer than a given one, each with the places of the given
one and of that edge. -/
def placedExtensions (links : Links n) (admissible : Fin n → Edge n → Bool)
    (place : Fin n → Fin n → Nat) : Way n → List (List Nat × Way n)
  | [] => []
  | node :: before =>
      ((links.row node).filter (admissible node)).map fun edge =>
        (Way.places place (node :: before) ++ [edge.dependency], edge.target :: node :: before)

section Ordered

variable {links : Links n} {admissible : Fin n → Edge n → Bool} {place : Fin n → Fin n → Nat}
  {root : Fin n} {stop : Fin n → Bool} {k : Nat} {seen : Vector Bool n} {ways : List (Way n)}

theorem length_places (place : Fin n → Fin n → Nat) (way : Way n) :
    (Way.places place way).length = way.length - 1 := by
  rw [Way.places, length_placesAlong, List.length_reverse]

theorem places_cons (place : Fin n → Fin n → Nat) (target : Fin n) {node : Fin n} {way : Way n}
    (hnode : way.head? = some node) :
    Way.places place (target :: way) = Way.places place way ++ [place node target] := by
  obtain ⟨before, rfl⟩ := List.head?_eq_some_iff.1 hnode
  simp only [Way.places, List.reverse_cons]
  rw [placesAlong_concat]

/-- The place of a step tells where it leads. -/
theorem IsPlacing.target_eq (h : links.IsPlacing admissible place) {node target other : Fin n}
    (htarget : links.StepsTo admissible node target) (hother : links.StepsTo admissible node other)
    (heq : place node target = place node other) : target = other := by
  obtain ⟨edge, hedge, _, rfl, hplace⟩ := h.exists_edge htarget
  obtain ⟨edge', hedge', _, rfl, hplace'⟩ := h.exists_edge hother
  have hnodup : ((links.row node).map Edge.dependency).Nodup :=
    List.pairwise_map.2 ((h.sorted node).imp Nat.ne_of_lt)
  rw [List.inj_on_of_nodup_map hnodup hedge hedge' (by rw [hplace, hplace', heq])]

theorem IsPlacing.way_eq (h : links.IsPlacing admissible place) {target : Fin n}
    {way other : Way n} (hway : IsWay links admissible root target way)
    (hother : IsWay links admissible root target other)
    (heq : Way.places place way = Way.places place other) : way = other := by
  have hpath := isWay_iff.1 hway
  have hpath' := isWay_iff.1 hother
  have htarget : ∀ x y z, links.StepsTo admissible x y → links.StepsTo admissible x z →
      place x y = place x z → y = z := fun _ _ _ => h.target_eq
  exact List.reverse_inj.1 (eq_of_placesAlong_eq htarget hpath.chain hpath'.chain
    (hpath.head.trans hpath'.head.symm) heq)

theorem map_snd_placedExtensions (way : Way n) :
    (placedExtensions links admissible place way).map Prod.snd =
      extensions links admissible way := by
  cases way with
  | nil => rfl
  | cons node before => simp [placedExtensions, extensions]

theorem mem_placedExtensions {way new : Way n} {places : List Nat} {node : Fin n}
    (hnode : way.head? = some node) :
    (places, new) ∈ placedExtensions links admissible place way ↔
      ∃ edge ∈ links.row node, admissible node edge = true ∧
        places = Way.places place way ++ [edge.dependency] ∧ new = edge.target :: way := by
  obtain ⟨before, rfl⟩ := List.head?_eq_some_iff.1 hnode
  simp only [placedExtensions, List.mem_map, List.mem_filter, Prod.mk.injEq, and_assoc, eq_comm]

/-- The ways before a round, in the order of their places, each of which has the least places of all
ways of its length to the same module. -/
structure Ordered (links : Links n) (admissible : Fin n → Edge n → Bool)
    (place : Fin n → Fin n → Nat) (root : Fin n) (ways : List (Way n)) : Prop where
  ascending : ways.Pairwise fun v w => Way.places place v < Way.places place w
  least : ∀ way ∈ ways, ∀ target, way.head? = some target →
    ∀ other, IsWay links admissible root target other → other.length = way.length →
      Way.places place way ≤ Way.places place other

/-- The candidates of a round stand in the order of their places. -/
theorem IsPlacing.ascending_candidates (h : links.IsPlacing admissible place)
    (hlayer : Layer links admissible root k seen ways)
    (hascending : ways.Pairwise fun v w => Way.places place v < Way.places place w) :
    (ways.flatMap (placedExtensions links admissible place)).Pairwise fun a b => a.1 < b.1 := by
  rw [List.pairwise_flatMap]
  constructor
  · intro way _
    cases way with
    | nil => exact List.Pairwise.nil
    | cons node before =>
        refine List.pairwise_map.2 (((h.sorted node).filter _).imp fun hlt => ?_)
        exact concat_lt_concat hlt
  · refine hascending.imp_of_mem fun {v w} hv hw hlt => ?_
    obtain ⟨x, hx, hvlength⟩ := hlayer.shortest v hv
    obtain ⟨y, hy, hwlength⟩ := hlayer.shortest w hw
    rintro ⟨places, new⟩ hnew ⟨places', new'⟩ hnew'
    obtain ⟨edge, _, _, rfl, _⟩ := (mem_placedExtensions hx.1.head?_eq).1 hnew
    obtain ⟨edge', _, _, rfl, _⟩ := (mem_placedExtensions hy.1.head?_eq).1 hnew'
    refine append_lt_append_of_lt ?_ hlt
    rw [length_places, length_places, hvlength, hwlength]

/-- Of the candidates for a module a round keeps the first, which has the least places. -/
theorem exists_kept (seen : Vector Bool n) {candidates : List (List Nat × Way n)}
    (hascending : candidates.Pairwise fun a b => a.1 < b.1) :
    ∃ kept : List (List Nat × Way n), kept.Sublist candidates ∧
      kept.map Prod.snd = firstWays seen (candidates.map Prod.snd) ∧
      ∀ a ∈ kept, ∀ b ∈ candidates, ∀ target, a.2.head? = some target → b.2.head? = some target →
        a.1 ≤ b.1 := by
  induction candidates generalizing seen with
  | nil => exact ⟨[], List.Sublist.slnil, rfl, by simp⟩
  | cons candidate rest ih =>
      obtain ⟨hfirst, hrest⟩ := List.pairwise_cons.1 hascending
      obtain ⟨places, way⟩ := candidate
      cases way with
      | nil =>
          obtain ⟨kept, hsublist, hmap, hleast⟩ := ih seen hrest
          refine ⟨kept, hsublist.cons _, hmap, fun a ha b hb target htarget hsame => ?_⟩
          rcases List.mem_cons.1 hb with rfl | hb
          · cases hsame
          · exact hleast a ha b hb target htarget hsame
      | cons node before =>
          by_cases hseen : seen.get node = true
          · obtain ⟨kept, hsublist, hmap, hleast⟩ := ih seen hrest
            refine ⟨kept, hsublist.cons _, ?_, fun a ha b hb target htarget hsame => ?_⟩
            · rw [hmap, List.map_cons, firstWays, if_pos hseen]
            · rcases List.mem_cons.1 hb with rfl | hb
              · obtain rfl : node = target := Option.some.inj hsame
                have hmem : a.2 ∈ firstWays seen (rest.map Prod.snd) :=
                  hmap ▸ List.mem_map_of_mem ha
                rw [not_seen_of_mem_firstWays hmem htarget] at hseen
                cases hseen
              · exact hleast a ha b hb target htarget hsame
          · obtain ⟨kept, hsublist, hmap, hleast⟩ := ih (seen.set node true node.isLt) hrest
            refine ⟨(places, node :: before) :: kept, hsublist.cons_cons _, ?_,
              fun a ha b hb target htarget hsame => ?_⟩
            · rw [List.map_cons, hmap, List.map_cons, firstWays, if_neg hseen]
            · rcases List.mem_cons.1 ha with rfl | ha
              · rcases List.mem_cons.1 hb with rfl | hb
                · exact le_rfl
                · exact (hfirst b hb).le
              · rcases List.mem_cons.1 hb with rfl | hb
                · obtain rfl : node = target := Option.some.inj hsame
                  have hmem : a.2 ∈ firstWays (seen.set node true node.isLt)
                      (rest.map Prod.snd) := hmap ▸ List.mem_map_of_mem ha
                  have hnew := not_seen_of_mem_firstWays hmem htarget
                  rw [get_set_fin, if_pos rfl] at hnew
                  cases hnew
                · exact hleast a ha b hb target htarget hsame

/-- No candidate stands before the places of its own way. -/
theorem IsPlacing.places_le_candidate (h : links.IsPlacing admissible place)
    (hlayer : Layer links admissible root k seen ways) {places : List Nat} {new : Way n}
    (hmem : (places, new) ∈ ways.flatMap (placedExtensions links admissible place)) :
    Way.places place new ≤ places := by
  obtain ⟨way, hway, hnew⟩ := List.mem_flatMap.1 hmem
  obtain ⟨node, hnode, _⟩ := hlayer.shortest way hway
  obtain ⟨edge, hedge, hadmissible, rfl, rfl⟩ := (mem_placedExtensions hnode.1.head?_eq).1 hnew
  rw [places_cons place _ hnode.1.head?_eq]
  exact concat_le_concat rfl le_rfl (h.le edge hedge hadmissible)

/-- For every module of the next layer, some candidate does not stand after a given shortest way. -/
theorem Ordered.exists_candidate_le (h : Ordered links admissible place root ways)
    (hplacing : links.IsPlacing admissible place)
    (hlayer : Layer links admissible root k seen ways) {target : Fin n} {way : Way n}
    (hway : IsShortest links admissible root target way) (hlength : way.length = k + 2) :
    ∃ candidate ∈ ways.flatMap (placedExtensions links admissible place),
      candidate.2.head? = some target ∧ candidate.1 ≤ Way.places place way := by
  obtain ⟨hway, hmin⟩ := hway
  cases hway with
  | start => simp at hlength
  | @step node target before hbefore hstep =>
      have hnode := IsShortest.of_step hstep hbefore ⟨.step hbefore hstep, hmin⟩
      have hbeforeLength : before.length = k + 1 := by simpa using hlength
      obtain ⟨listed, hlisted, hhead⟩ := hlayer.complete node before hnode hbeforeLength
      obtain ⟨_, _, hlistedLength⟩ := hlayer.shortest listed hlisted
      obtain ⟨edge, hedge, hadmissible, rfl, hplace⟩ := hplacing.exists_edge hstep
      refine ⟨(Way.places place listed ++ [edge.dependency], edge.target :: listed), ?_, rfl, ?_⟩
      · exact List.mem_flatMap.2 ⟨listed, hlisted,
          (mem_placedExtensions hhead).2 ⟨edge, hedge, hadmissible, rfl, rfl⟩⟩
      · rw [places_cons place _ hbefore.head?_eq]
        refine concat_le_concat ?_ ?_ hplace.le
        · rw [length_places, length_places, hlistedLength, hbeforeLength]
        · exact h.least listed hlisted node hhead before hbefore
            (hbeforeLength.trans hlistedLength.symm)

/-- What a round does to the order: the ways that it finds are ordered, too. -/
theorem Ordered.next (h : Ordered links admissible place root ways)
    (hplacing : links.IsPlacing admissible place)
    (hlayer : Layer links admissible root k seen ways) :
    Ordered links admissible place root
      (extendAll links admissible ways { seen, found := [] }).found.reverse := by
  rw [extendAll_eq_foldl, foldl_take_found, List.reverse_nil, List.nil_append]
  have hcandidates : (ways.flatMap (placedExtensions links admissible place)).map Prod.snd =
      ways.flatMap (extensions links admissible) := by
    rw [List.map_flatMap]
    simp only [map_snd_placedExtensions]
  obtain ⟨kept, hsublist, hkept, hleast⟩ :=
    exists_kept seen (hplacing.ascending_candidates hlayer h.ascending)
  rw [hcandidates] at hkept
  have hshortest : ∀ a ∈ kept, ∃ target,
      IsShortest links admissible root target a.2 ∧ a.2.length = k + 2 := fun a ha =>
    hlayer.isShortest_of_mem (hkept ▸ List.mem_map_of_mem ha)
  have hle : ∀ a ∈ kept, ∀ target, a.2.head? = some target →
      ∀ way, IsShortest links admissible root target way → way.length = k + 2 →
        a.1 ≤ Way.places place way := by
    intro a ha target htarget way hway hlength
    obtain ⟨candidate, hmem, hhead, hcandidate⟩ :=
      h.exists_candidate_le hplacing hlayer hway hlength
    exact (hleast a ha candidate hmem target htarget hhead).trans hcandidate
  -- What is kept with a way are its own places.
  have hplaces : ∀ a ∈ kept, a.1 = Way.places place a.2 := by
    intro a ha
    obtain ⟨target, hway, hlength⟩ := hshortest a ha
    exact le_antisymm (hle a ha target hway.1.head?_eq a.2 hway hlength)
      (hplacing.places_le_candidate hlayer (hsublist.mem ha))
  rw [← hkept]
  constructor
  · refine List.pairwise_map.2 (((hplacing.ascending_candidates hlayer
      h.ascending).sublist hsublist).imp_of_mem fun {a b} ha hb hlt => ?_)
    rwa [← hplaces a ha, ← hplaces b hb]
  · intro way hmem target hhead other hother hlength
    obtain ⟨a, ha, rfl⟩ := List.mem_map.1 hmem
    obtain ⟨x, hway, hwayLength⟩ := hshortest a ha
    obtain rfl : x = target := Option.some.inj (hway.1.head?_eq.symm.trans hhead)
    rw [← hplaces a ha]
    refine hle a ha x hhead other ⟨hother, fun u hu => ?_⟩ (hlength.trans hwayLength)
    rw [hlength]
    exact hway.2 u hu

/-! ## Round after round -/

theorem ordered_start (links : Links n) (admissible : Fin n → Edge n → Bool)
    (place : Fin n → Fin n → Nat) (root : Fin n) :
    Ordered links admissible place root [[root]] := by
  refine ⟨List.pairwise_singleton .., fun way hmem target _ other _ _ => ?_⟩
  obtain rfl : way = [root] := by simpa using hmem
  exact not_lt.1 (List.not_lt_nil (Way.places place other))

/-- All rounds from ordered ways on find ways with least places, shorter ones first and equally long
ones in the order of their places. -/
theorem Ordered.rounds (h : Ordered links admissible place root ways)
    (hplacing : links.IsPlacing admissible place)
    (hlayer : Layer links admissible root k seen ways) (fuel : Nat) :
    (∀ way ∈ rounds links admissible stop fuel seen ways, ∀ target, way.head? = some target →
      ∀ other, IsWay links admissible root target other → other.length = way.length →
        Way.places place way ≤ Way.places place other) ∧
      (rounds links admissible stop fuel seen ways).Pairwise fun v w =>
        v.length < w.length ∨ v.length = w.length ∧ Way.places place v < Way.places place w := by
  induction fuel generalizing k seen ways with
  | zero => simp [Links.rounds]
  | succ fuel ih =>
      have hnext := hlayer.next
      have hordered := h.next hplacing hlayer
      unfold Links.rounds
      generalize extendAll links admissible ways { seen, found := [] } = discovery
        at hnext hordered ⊢
      have hpairs : discovery.found.reverse.Pairwise fun v w =>
          v.length < w.length ∨ v.length = w.length ∧ Way.places place v < Way.places place w := by
        refine hordered.ascending.imp_of_mem fun {v w} hv hw hlt => .inr ⟨?_, hlt⟩
        obtain ⟨_, _, hvlength⟩ := hnext.shortest v hv
        obtain ⟨_, _, hwlength⟩ := hnext.shortest w hw
        rw [hvlength, hwlength]
      dsimp only
      split
      · simp
      · split
        · exact ⟨hordered.least, hpairs⟩
        · obtain ⟨hlater, hlaterPairs⟩ := ih hordered hnext
          refine ⟨fun way hmem => ?_, List.pairwise_append.2 ⟨hpairs, hlaterPairs, ?_⟩⟩
          · exact (List.mem_append.1 hmem).elim (hordered.least way) (hlater way)
          · intro v hv w hw
            obtain ⟨_, _, hvlength⟩ := hnext.shortest v hv
            obtain ⟨_, _, hwlength⟩ := (hnext.rounds_shortest fuel).1 w hw
            exact .inl (by omega)

/-- Each way that is found goes on from one found before, or from one of the round before. -/
theorem tail_mem_rounds (links : Links n) (admissible : Fin n → Edge n → Bool)
    (stop : Fin n → Bool) (fuel : Nat) (seen : Vector Bool n) (ways : List (Way n)) {way : Way n}
    (hmem : way ∈ rounds links admissible stop fuel seen ways) :
    way.tail ∈ ways ∨ way.tail ∈ rounds links admissible stop fuel seen ways := by
  induction fuel generalizing seen ways with
  | zero => simp [Links.rounds] at hmem
  | succ fuel ih =>
      unfold Links.rounds at hmem ⊢
      have hfound : ∀ way ∈ (extendAll links admissible ways { seen, found := [] }).found.reverse,
          way.tail ∈ ways := by
        intro way hway
        rw [extendAll_eq_foldl, foldl_take_found, List.reverse_nil, List.nil_append] at hway
        obtain ⟨before, hbefore, hextended⟩ :=
          List.mem_flatMap.1 ((firstWays_sublist _ _).mem hway)
        cases before with
        | nil => simp [extensions] at hextended
        | cons node before =>
            obtain ⟨target, _, rfl⟩ := (mem_extensions rfl).1 hextended
            exact hbefore
      generalize extendAll links admissible ways { seen, found := [] } = discovery
        at hmem hfound ⊢
      dsimp only at hmem ⊢
      split at hmem
      · simp at hmem
      · rename_i hnonempty
        rw [if_neg hnonempty]
        split at hmem
        · exact .inl (hfound way hmem)
        · rename_i hstop
          rw [if_neg hstop]
          rcases List.mem_append.1 hmem with hmem | hmem
          · exact .inl (hfound way hmem)
          · exact .inr (List.mem_append.2 (ih _ _ hmem))

/-! ## Whole explorations -/

/-- An exploration finds the way with the least places of all ways of its length to a module. -/
theorem IsPlacing.explore_first (h : links.IsPlacing admissible place) {target : Fin n}
    {way other : Way n} (hmem : way ∈ links.explore admissible stop root)
    (hhead : way.head? = some target) (hother : IsWay links admissible root target other)
    (hlength : other.length = way.length) (hne : other ≠ way) :
    Way.places place way < Way.places place other := by
  have hle := ((ordered_start links admissible place root).rounds h
    (layer_start links admissible root) n).1 way hmem target hhead other hother hlength
  obtain ⟨x, _, hshortest⟩ := explore_shortest hmem
  obtain rfl : x = target := Option.some.inj (hshortest.1.head?_eq.symm.trans hhead)
  exact lt_of_le_of_ne hle fun heq => hne (h.way_eq hother hshortest.1 heq.symm)

theorem IsPlacing.explore_ascending (h : links.IsPlacing admissible place)
    (stop : Fin n → Bool) (root : Fin n) :
    (links.explore admissible stop root).Pairwise fun v w =>
      v.length < w.length ∨ v.length = w.length ∧ Way.places place v < Way.places place w :=
  ((ordered_start links admissible place root).rounds h (layer_start links admissible root) n).2

/-- The first part of a way that is found is the way found to the module where it ends. -/
theorem mem_explore_of_suffix {way part : Way n}
    (hmem : way ∈ links.explore admissible stop root) (hpart : part <:+ way) (hne : part ≠ [])
    (hroot : part ≠ [root]) : part ∈ links.explore admissible stop root := by
  induction way with
  | nil => exact absurd (List.suffix_nil.1 hpart) hne
  | cons node before ih =>
      rcases List.suffix_cons_iff.1 hpart with rfl | hpart
      · exact hmem
      · rcases tail_mem_rounds _ _ _ _ _ _ hmem with hbefore | hbefore
        · obtain rfl : before = [root] := by simpa using hbefore
          rcases List.suffix_cons_iff.1 hpart with rfl | hpart
          · exact absurd rfl hroot
          · exact absurd (List.suffix_nil.1 hpart) hne
        · exact ih hbefore hpart

end Ordered

end Links

namespace Graph

/-! ## Places in a graph -/

instance (graph : Graph) (dependency : Dependency) (j : graph.Position) :
    Decidable (graph.LeadsTo dependency j) :=
  inferInstanceAs (Decidable (_ ∧ _ ∧ _))

/-- The place of the first dependency of a kind that leads from one module to another; the number of
dependencies if there is none. -/
def firstPlace (graph : Graph) (kind : Dependency → Bool) (i j : graph.Position) : Nat :=
  (graph.moduleAt i).dependencies.findIdx fun dependency =>
    kind dependency && graph.LeadsTo dependency j

/-- The places of a path: for each step, the first dependency that takes it. -/
def places (graph : Graph) (path : List graph.Position) : List Nat :=
  placesAlong (graph.firstPlace fun _ => true) path

/-- The places of a route from a module: the first dependency that takes the first step, then for
each step the first one that is followed. -/
def routePlaces (graph : Graph) (i : graph.Position) : List graph.Position → List Nat
  | [] => []
  | j :: path =>
      graph.firstPlace (fun _ => true) i j ::
        placesAlong
          (graph.firstPlace fun dependency => dependency.followable && !dependency.isDynamic)
          (j :: path)

/-- A path with the least places of all paths of its length between its ends. -/
def IsFirstPath (graph : Graph) (j i : graph.Position) (path : List graph.Position) : Prop :=
  IsPath graph.Joins j i path ∧
    ∀ other, IsPath graph.Joins j i other → other.length = path.length → other ≠ path →
      graph.places path < graph.places other

/-- A route with the least places of all routes of its length between its ends. -/
def IsFirstRoute (graph : Graph) (i t : graph.Position) (path : List graph.Position) : Prop :=
  graph.IsRoute i t path ∧
    ∀ other, graph.IsRoute i t other → other.length = path.length → other ≠ path →
      graph.routePlaces i path < graph.routePlaces i other

section FirstPlace

variable {graph : Graph} {kind : Dependency → Bool} {i j : graph.Position} {position : Nat}
  {dependency : Dependency}

theorem firstPlace_le (hget : (graph.moduleAt i).dependencies[position]? = some dependency)
    (hkind : kind dependency = true) (hleads : graph.LeadsTo dependency j) :
    graph.firstPlace kind i j ≤ position := by
  obtain ⟨hposition, rfl⟩ := List.getElem?_eq_some_iff.1 hget
  by_contra hlt
  have hnot := List.not_of_lt_findIdx (Nat.not_le.1 hlt)
  simp [hkind, hleads] at hnot

theorem exists_firstPlace (hget : (graph.moduleAt i).dependencies[position]? = some dependency)
    (hkind : kind dependency = true) (hleads : graph.LeadsTo dependency j) :
    ∃ first, (graph.moduleAt i).dependencies[graph.firstPlace kind i j]? = some first ∧
      kind first = true ∧ graph.LeadsTo first j := by
  have hlt : graph.firstPlace kind i j < (graph.moduleAt i).dependencies.length :=
    Nat.lt_of_le_of_lt (firstPlace_le hget hkind hleads) (List.getElem?_eq_some_iff.1 hget).1
  have hfound : (kind _ && decide (graph.LeadsTo _ j)) = true := List.findIdx_getElem (w := hlt)
  rw [Bool.and_eq_true, decide_eq_true_eq] at hfound
  exact ⟨_, List.getElem?_eq_getElem hlt, hfound⟩

/-- Where edges are admissible by the kind of their dependency and by their target, the place of a
step is that of the first dependency of the kind. -/
theorem links_isPlacing (kinds : graph.Position → Dependency → Bool)
    (allowed : graph.Position → Bool)
    {admissible : graph.Position → Edge graph.modules.length → Bool}
    (hadmissible : ∀ i position j dependency,
      admissible i ⟨position, j, dependency.followable && !dependency.isDynamic⟩ =
        (allowed j && kinds i dependency)) :
    graph.links.IsPlacing admissible fun i j => graph.firstPlace (kinds i) i j := by
  have hedge : ∀ i, ∀ edge ∈ graph.links.row i, admissible i edge = true →
      ∃ dependency, (graph.moduleAt i).dependencies[edge.dependency]? = some dependency ∧
        graph.LeadsTo dependency edge.target ∧ allowed edge.target = true ∧
        kinds i dependency = true := by
    rintro i ⟨position, j, followable⟩ hrow htaken
    obtain ⟨dependency, hget, hleads, rfl⟩ := mem_links_row.1 hrow
    rw [hadmissible, Bool.and_eq_true] at htaken
    exact ⟨dependency, hget, hleads, htaken⟩
  refine ⟨graph.links_row_pairwise, ?_, ?_⟩
  · rintro i j ⟨edge, hrow, htaken, rfl⟩
    obtain ⟨dependency, hget, hleads, hallowed, hkind⟩ := hedge i edge hrow htaken
    obtain ⟨first, hfirst, hfirstKind, hfirstLeads⟩ := exists_firstPlace hget hkind hleads
    refine ⟨⟨_, edge.target, first.followable && !first.isDynamic⟩,
      mem_links_row.2 ⟨first, hfirst, hfirstLeads, rfl⟩, ?_, rfl, rfl⟩
    rw [hadmissible, hallowed, hfirstKind]
    rfl
  · intro i edge hrow htaken
    obtain ⟨dependency, hget, hleads, _, hkind⟩ := hedge i edge hrow htaken
    exact firstPlace_le hget hkind hleads

end FirstPlace

section Reported

variable {graph : Graph} {i j t : graph.Position} {path : List graph.Position}
  {way : Links.Way graph.modules.length}

/-- The way back from a module that leads back has the least places. -/
theorem isFirstPath_wayBack (hforth : Relation.ReflTransGen graph.Joins j i)
    (hback : Relation.ReflTransGen graph.Joins i j) :
    graph.IsFirstPath j i (graph.links.wayBack graph.links.components j i) := by
  rw [← links_joins] at hforth hback
  have hspec := (graph.links.wayBack_spec hforth hback).1.1
  rw [links_joins] at hspec
  refine ⟨hspec, fun other hother hlength hne => ?_⟩
  by_cases heq : j = i
  · -- The way from a module to itself is the module alone, and so is every path of that length.
    subst heq
    rw [Links.wayBack, if_pos rfl] at hlength hne
    obtain ⟨x, rfl⟩ := List.length_eq_one_iff.1 hlength
    obtain rfl : x = j := Option.some.inj hother.head
    exact absurd rfl hne
  · have hway : ∀ path, IsPath graph.Joins j i path →
        graph.links.IsWay (fun _ edge => graph.links.components.get edge.target =
          graph.links.components.get j) j i path.reverse := by
      intro path hpath
      rw [← links_joins] at hpath
      rw [Links.isWay_iff, List.reverse_reverse]
      exact graph.links.isPath_stepsTo_component hback hpath
    obtain ⟨found, hfind, _⟩ := Links.explore_find? (hway _ hspec) (Ne.symm heq)
    have hfound : graph.links.wayBack graph.links.components j i = found.reverse := by
      unfold Links.wayBack
      rw [if_neg heq]
      dsimp only
      rw [hfind]
    rw [hfound, List.length_reverse] at hlength
    rw [hfound] at hne ⊢
    have hplacing : graph.links.IsPlacing
        (fun _ edge => graph.links.components.get edge.target = graph.links.components.get j)
        (graph.firstPlace fun _ => true) :=
      links_isPlacing (fun _ _ => true)
        (fun x => graph.links.components.get x = graph.links.components.get j)
        fun _ _ _ _ => (Bool.and_true _).symm
    have hfirst := hplacing.explore_first (List.mem_of_find?_eq_some hfind)
      (by simpa using List.find?_some hfind) (hway other hother)
      (by rw [List.length_reverse, hlength])
      (fun hsame => hne (List.reverse_eq_iff.1 hsame))
    rwa [Links.Way.places, Links.Way.places, List.reverse_reverse] at hfirst

/-- The kinds of dependencies that a walk takes at a module. -/
def takenKind (root i : graph.Position) (dependency : Dependency) : Bool :=
  decide (i = root) || dependency.followable && !dependency.isDynamic

theorem isPlacing_isTaken (root : graph.Position) :
    graph.links.IsPlacing (Links.isTaken root) fun i j =>
      graph.firstPlace (takenKind root i) i j :=
  links_isPlacing (takenKind root) (fun _ => true) fun _ _ _ _ => rfl

/-- A shortest way does not come back to its root, so after its first step it has the places of
followed dependencies. -/
theorem places_eq_routePlaces (h : graph.links.IsShortest (Links.isTaken i) i t way)
    (hne : t ≠ i) :
    Links.Way.places (fun x y => graph.firstPlace (takenKind i x) x y) way =
      graph.routePlaces i way.steps := by
  obtain ⟨hreverse, hroute⟩ := isRoute_steps h hne
  have hnotin := (isShortestRoute_steps h hne).2.2
  have hchain := (Links.isWay_iff.1 h.1).chain
  rw [hreverse] at hchain
  rw [Links.Way.places, hreverse]
  obtain ⟨j, hjoins, hpath⟩ := hroute
  obtain ⟨rest, hsteps⟩ := List.head?_eq_some_iff.1 hpath.head
  rw [hsteps] at hchain hnotin ⊢
  rw [placesAlong, routePlaces]
  congr 1
  · congr 1
    funext dependency
    simp [takenKind]
  · refine placesAlong_congr (hchain.tail.imp_of_mem_imp fun x y hx _ _ => ?_)
    have hx : x ≠ i := fun heq => hnotin (heq ▸ hx)
    congr 1
    funext dependency
    simp [takenKind, hx]

/-- A route that is as short as a walk's is a shortest way, and its steps are the route. -/
theorem IsRoute.isShortest_of_length_eq {other : List graph.Position}
    (h : graph.IsRoute i t other) (hway : graph.links.IsShortest (Links.isTaken i) i t way)
    (hne : t ≠ i) (hlength : other.length = way.steps.length) :
    graph.links.IsShortest (Links.isTaken i) i t (other.reverse ++ [i]) ∧
      Links.Way.steps (other.reverse ++ [i]) = other := by
  have hreverse := congrArg List.length (isRoute_steps hway hne).1
  rw [List.length_reverse, List.length_cons, ← hlength] at hreverse
  refine ⟨⟨h.isWay, fun u hu => ?_⟩, by simp [Links.Way.steps]⟩
  have hle := hway.2 u hu
  simpa [← hreverse] using hle

theorem isFirstRoute_steps (hmem : way ∈ graph.links.waysFrom i) (hhead : way.head? = some t) :
    graph.IsFirstRoute i t way.steps := by
  obtain ⟨x, hne, hway⟩ := Links.explore_shortest hmem
  obtain rfl : x = t := Option.some.inj (hway.1.head?_eq.symm.trans hhead)
  refine ⟨(isRoute_steps hway hne).2, fun other hother hlength hdiffers => ?_⟩
  obtain ⟨hshortest, hsteps⟩ := hother.isShortest_of_length_eq hway hne hlength
  have hfirst := (isPlacing_isTaken i).explore_first hmem hhead hshortest.1
    (hshortest.length_eq hway) (fun heq => hdiffers (by rw [← hsteps, heq]))
  rwa [places_eq_routePlaces hway hne, places_eq_routePlaces hshortest hne, hsteps] at hfirst

end Reported

/-- Where paths are equally short, the order of the dependencies decides. -/
structure DecidesTies (graph : Graph) : Prop where
  /-- The cycle of a circular edge is the first of the paths of its length from the target back to
  the module. -/
  cycle_first : ∀ i, ∀ edge ∈ graph.links.row i, ∀ cycle,
    graph.links.cycleOf? graph.links.components i edge = some cycle →
      cycle =
          (graph.links.wayBack graph.links.components edge.target i).map graph.links.nameAt ∧
        graph.IsFirstPath edge.target i
          (graph.links.wayBack graph.links.components edge.target i)
  /-- The route to a module that a walk finds is the first of the routes of its length. -/
  route_first : ∀ i, ∀ way ∈ graph.links.waysFrom i,
    ∃ t, way.head? = some t ∧ graph.IsFirstRoute i t way.steps
  /-- A walk lists shorter routes first, and equally long ones in the order of their places. -/
  routes_ascending : ∀ i, (graph.links.waysFrom i).Pairwise fun v w =>
    toLex (v.steps.length, graph.routePlaces i v.steps) <
      toLex (w.steps.length, graph.routePlaces i w.steps)
  /-- Every first part of a route is the route to the module where it ends. -/
  route_parts : ∀ i, ∀ way ∈ graph.links.waysFrom i, ∀ part, part <+: way.steps → part ≠ [] →
    ∃ listed ∈ graph.links.waysFrom i, listed.head? = part.getLast? ∧ listed.steps = part

theorem links_decidesTies (graph : Graph) : graph.DecidesTies where
  cycle_first i edge hedge cycle hcycle := by
    have hback : graph.links.Reaches edge.target i :=
      (graph.links.cycleOf?_isSome_iff hedge).1 (by rw [hcycle]; rfl)
    have hforth : graph.links.Joins i edge.target := ⟨edge, hedge, rfl⟩
    rw [Links.Reaches, links_joins] at hback
    rw [links_joins] at hforth
    refine ⟨?_, isFirstPath_wayBack hback (.single hforth)⟩
    unfold Links.cycleOf? at hcycle
    split at hcycle
    · exact (Option.some.inj hcycle).symm
    · cases hcycle
  route_first i way hmem := by
    obtain ⟨t, _, hway⟩ := Links.explore_shortest hmem
    exact ⟨t, hway.1.head?_eq, isFirstRoute_steps hmem hway.1.head?_eq⟩
  routes_ascending i := by
    refine ((isPlacing_isTaken i).explore_ascending (fun _ => false) i).imp_of_mem
      fun {v w} hv hw hlt => ?_
    obtain ⟨x, hx, hshortest⟩ := Links.explore_shortest hv
    obtain ⟨y, hy, hshortest'⟩ := Links.explore_shortest hw
    have hlength := congrArg List.length (isRoute_steps hshortest hx).1
    have hlength' := congrArg List.length (isRoute_steps hshortest' hy).1
    simp only [List.length_reverse, List.length_cons] at hlength hlength'
    rw [places_eq_routePlaces hshortest hx, places_eq_routePlaces hshortest' hy] at hlt
    rw [Prod.Lex.toLex_lt_toLex]
    exact hlt.imp (fun h => by omega) (fun h => ⟨by omega, h.2⟩)
  route_parts i way hmem part hpart hne := by
    obtain ⟨x, hx, hshortest⟩ := Links.explore_shortest hmem
    have hreverse := (isRoute_steps hshortest hx).1
    have hsuffix : part.reverse ++ [i] <:+ way := by
      rw [← List.reverse_prefix, List.reverse_append, List.reverse_reverse, hreverse]
      simpa using hpart
    have hlisted := Links.mem_explore_of_suffix hmem hsuffix (by simp) (by simpa using hne)
    refine ⟨_, hlisted, ?_, by simp [Links.Way.steps]⟩
    cases h : part.reverse with
    | nil => exact absurd (List.reverse_eq_nil_iff.1 h) hne
    | cons last before => simp [List.getLast?_eq_head?_reverse, h]

end Graph

end DependencyRules
