import DependencyRules.Proofs.Judgement
import DependencyRules.Proofs.Renumbering
import DependencyRules.Proofs.Soundness
import DependencyRules.Proofs.Verdicts

/-!
# The order of modules

The order of the modules of a sound graph makes no difference to its summary, and each module gets
the same marks and verdicts wherever it stands. Only the root that an arrival names may be another,
since it is the first one in the order of the modules.
-/

namespace DependencyRules

theorem map_nonEmpty? {α β : Type} (f : α → β) (items : List α) :
    (nonEmpty? items).map (List.map f) = nonEmpty? (items.map f) := by
  cases items <;> rfl

namespace Graph

/-! ## The same modules at other positions -/

/-- Modules with distinct sources in another order are the same modules at other positions. -/
theorem exists_isRearrangement {graph other : Graph} (h : graph.IsSound)
    (hperm : other.modules.Perm graph.modules) :
    ∃ σ : graph.Position ≃ other.Position, IsRearrangement σ := by
  have hnodup : graph.modules.Nodup := h.nodup.of_map
  have hsame : ∀ m, m ∈ graph.modules ↔ m ∈ other.modules := fun m => hperm.mem_iff.symm
  -- A module occurs once in either list, so it leads from its position in one to that in the other.
  let σ : graph.Position ≃ other.Position :=
    (hnodup.getEquiv _).trans
      ((Equiv.subtypeEquivRight hsame).trans ((hperm.nodup_iff.2 hnodup).getEquiv _).symm)
  refine ⟨σ, fun i => ?_, fun i j hij => ?_⟩
  · have hget := congrArg Subtype.val (((hperm.nodup_iff.2 hnodup).getEquiv _).apply_symm_apply
      (Equiv.subtypeEquivRight hsame (hnodup.getEquiv _ i)))
    exact hget
  · refine (hnodup.getEquiv _).injective (Subtype.ext ?_)
    exact List.inj_on_of_nodup_map h.nodup (List.get_mem ..) (List.get_mem ..) hij

/-! ## Looking up a source -/

theorem module?_eq_some_iff {graph : Graph} (h : (graph.modules.map Module.source).Nodup)
    {source : String} {m : Module} :
    graph.module? source = some m ↔ m ∈ graph.modules ∧ m.source = source := by
  constructor
  · intro hfind
    exact ⟨List.mem_of_find?_eq_some hfind, by simpa using List.find?_some hfind⟩
  · rintro ⟨hmem, hsource⟩
    have hsome : (graph.module? source).isSome = true := by
      rw [module?, List.find?_isSome]
      exact ⟨m, hmem, decide_eq_true hsource⟩
    obtain ⟨first, hfirst⟩ := Option.isSome_iff_exists.1 hsome
    have heq : first.source = source := by simpa using List.find?_some hfirst
    obtain rfl : first = m := List.inj_on_of_nodup_map h (List.mem_of_find?_eq_some hfirst) hmem
      (heq.trans hsource.symm)
    exact hfirst

/-- Where sources are distinct, a source names the same module in every order. -/
theorem module?_eq_of_perm {graph other : Graph} (h : (graph.modules.map Module.source).Nodup)
    (hperm : other.modules.Perm graph.modules) (source : String) :
    other.module? source = graph.module? source := by
  have hother : (other.modules.map Module.source).Nodup :=
    (hperm.map Module.source).nodup_iff.2 h
  ext m
  rw [module?_eq_some_iff hother, module?_eq_some_iff h, hperm.mem_iff]

def withoutRoots (graph : Graph) : Graph :=
  { graph with modules := graph.modules.map Module.withoutRoots }

theorem module?_withoutRoots (graph : Graph) (source : String) :
    graph.withoutRoots.module? source = (graph.module? source).map Module.withoutRoots := by
  rw [module?, module?, withoutRoots, List.find?_map]
  rfl

theorem map_source_withoutRoots (graph : Graph) :
    graph.withoutRoots.modules.map Module.source = graph.modules.map Module.source := by
  rw [withoutRoots, List.map_map]
  rfl

/-! ## Marks -/

section Rearrangement

variable {graph other : Graph} {σ : graph.Position ≃ other.Position}

theorem IsRearrangement.withoutRoot_arrivalAt (h : IsRearrangement σ) (rule : PreparedRule)
    (t : graph.Position) :
    (other.arrivalAt rule (σ t)).withoutRoot = (graph.arrivalAt rule t).withoutRoot := by
  simp only [arrivalAt, Arrival.withoutRoot, h.isSome_firstRoot?_eq]

theorem IsRearrangement.reachableTable_eq (h : IsRearrangement σ) (rules : PreparedRuleSet)
    (t : graph.Position) :
    (other.reachableTable rules other.arrivalAt (σ t)).map (List.map Arrival.withoutRoot) =
      (graph.reachableTable rules graph.arrivalAt t).map (List.map Arrival.withoutRoot) := by
  simp only [reachableTable, map_nonEmpty?, List.map_map, Function.comp_def,
    h.withoutRoot_arrivalAt, h.sourceAt_eq]

/-- A module is marked alike wherever it stands, but for the roots of its arrivals. -/
theorem IsRearrangement.withoutRoots_markedModule (h : IsRearrangement σ) (judge : Judge)
    (i : graph.Position) :
    (judge.markedModule other other.markedDependencies (σ i)).withoutRoots =
      (judge.markedModule graph graph.markedDependencies i).withoutRoots := by
  unfold Judge.markedModule Module.withoutRoots
  simp only [h.moduleAt_eq, h.markedDependencies_eq, h.reachesTable_eq, h.reachableTable_eq]

theorem IsRearrangement.withoutRoots_mark_perm (h : IsRearrangement σ) (judge : Judge) :
    (judge.mark other).withoutRoots.modules.Perm (judge.mark graph).withoutRoots.modules := by
  rw [Judge.mark_eq, Judge.mark_eq]
  simp only [withoutRoots, List.map_ofFn]
  exact ofFn_perm_of_equiv σ (h.withoutRoots_markedModule judge)

end Rearrangement

end Graph

/-! ## Verdicts -/

namespace Judge

theorem map_source_mark (judge : Judge) (graph : Graph) :
    (judge.mark graph).modules.map Module.source = graph.modules.map Module.source := by
  have hsources := congrArg (List.map Module.source) graph.ofFn_moduleAt
  rw [List.map_ofFn] at hsources
  rw [mark_eq, List.map_ofFn, ← hsources]
  rfl

theorem map_source_judged (judge : Judge) (modules : List Module) :
    (modules.map judge.judged).map Module.source = modules.map Module.source := by
  rw [List.map_map]
  rfl

theorem map_withoutRoots_judged (judge : Judge) (modules : List Module) :
    (modules.map judge.judged).map Module.withoutRoots =
      (modules.map Module.withoutRoots).map judge.judged := by
  rw [List.map_map, List.map_map]
  exact List.map_congr_left fun m _ => (judge.judged_withoutRoots m).symm

/-- The summary depends neither on the order of the marked modules nor on the roots of arrivals. -/
theorem summaryOf_eq_of_perm (judge : Judge) {modules other : List Module}
    (h : (other.map Module.withoutRoots).Perm (modules.map Module.withoutRoots))
    (extra : List (String × Json)) :
    judge.summaryOf other extra = judge.summaryOf modules extra := by
  have hlength : other.length = modules.length := by simpa using h.length_eq
  have hcount : (other.flatMap Module.dependencies).length =
      (modules.flatMap Module.dependencies).length := by
    have hperm := h.flatMap_right Module.dependencies
    rw [List.flatMap_map, List.flatMap_map] at hperm
    exact hperm.length_eq
  have hviolations : (other.flatMap fun m => (judge.findings m).violations).Perm
      (modules.flatMap fun m => (judge.findings m).violations) := by
    have hperm := h.flatMap_right fun m => (judge.findings m).violations
    simp only [List.flatMap_map, findings_withoutRoots] at hperm
    exact hperm
  rw [summaryOf, summaryOf, hlength, hcount]
  exact Tally.summary_eq_of_perm hviolations _ _ _

/-- A judge gives the modules of a graph the same verdicts in another order: both graphs are
accepted with one summary, their modules keep their places, and each module is the same in both but
for the roots of its arrivals. -/
def JudgesAlike (judge : Judge) (graph : Graph) (modules : List Module) : Prop :=
  ∃ assessed reordered summary,
    judge.assess graph = .ok (assessed, summary) ∧
    judge.assess { graph with modules } = .ok (reordered, summary) ∧
    assessed.modules.map Module.source = graph.modules.map Module.source ∧
    reordered.modules.map Module.source = modules.map Module.source ∧
    reordered = { assessed with modules := reordered.modules } ∧
    ∀ source, (reordered.module? source).map Module.withoutRoots =
      (assessed.module? source).map Module.withoutRoots

/-- The order of the modules of a sound graph makes no difference to its judgement. -/
theorem assess_modules_reordered {judge : Judge} {graph : Graph} {modules : List Module}
    (hsound : graph.ensureSound = .ok ()) (hperm : modules.Perm graph.modules) :
    judge.JudgesAlike graph modules := by
  have hgraph : graph.IsSound := Graph.ensureSound_eq_ok_iff.1 hsound
  have hother : ({ graph with modules } : Graph).IsSound := hgraph.of_perm hperm
  have hσ : ∃ σ : graph.Position ≃ ({ graph with modules } : Graph).Position,
      Graph.IsRearrangement σ := Graph.exists_isRearrangement hgraph hperm
  obtain ⟨σ, h⟩ := hσ
  have hmarked := h.withoutRoots_mark_perm judge
  have hassess := judge.assess_eq_ok hsound
  have hassess' := judge.assess_eq_ok (Graph.ensureSound_eq_ok_iff.2 hother)
  rw [verdicts_eq] at hassess hassess'
  rw [judge.summaryOf_eq_of_perm hmarked] at hassess'
  refine ⟨_, _, _, hassess, hassess', ?_, ?_, rfl, fun source => ?_⟩
  · rw [map_source_judged, map_source_mark]
  · rw [map_source_judged, map_source_mark]
  · rw [← Graph.module?_withoutRoots, ← Graph.module?_withoutRoots]
    refine Graph.module?_eq_of_perm ?_ ?_ source
    · rw [Graph.map_source_withoutRoots, map_source_judged, map_source_mark]
      exact hgraph.nodup
    · simp only [Graph.withoutRoots, map_withoutRoots_judged]
      exact hmarked.map judge.judged

theorem assess_modules_reordered_layered :
    layeredGraph.ensureSound = .ok () ∧
      layeredGraph.modules.reverse.Perm layeredGraph.modules ∧
      layeredJudge.JudgesAlike layeredGraph layeredGraph.modules.reverse := by
  have hsound : layeredGraph.ensureSound = .ok () := rfl
  have hperm := List.reverse_perm layeredGraph.modules
  exact ⟨hsound, hperm, assess_modules_reordered hsound hperm⟩

end Judge

end DependencyRules
