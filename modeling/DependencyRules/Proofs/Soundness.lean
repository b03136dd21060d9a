import DependencyRules.Graph.Defect
import Mathlib.Data.List.Nodup
import Mathlib.Tactic.Tauto

/-!
# Sound graphs

A graph is accepted exactly when its sources are distinct and its dependencies consistent.
-/

namespace DependencyRules

namespace Graph

/-- No two modules have the same source, and a dependency has a path exactly when it could be
resolved. -/
structure IsSound (graph : Graph) : Prop where
  nodup : (graph.modules.map Module.source).Nodup
  consistent : ∀ m ∈ graph.modules, ∀ dependency ∈ m.dependencies,
    dependency.isConsistent = true

theorem find?_not_isConsistent_eq_none_iff {dependencies : List Dependency} :
    (dependencies.find? fun dependency => !dependency.isConsistent) = none ↔
      ∀ dependency ∈ dependencies, dependency.isConsistent = true := by
  simp [List.find?_eq_none]

theorem firstDefect?_eq_none_iff {seen : Std.TreeSet String} {modules : List Module} :
    firstDefect? seen modules = none ↔
      (∀ m ∈ modules, m.source ∉ seen) ∧ (modules.map Module.source).Nodup ∧
        ∀ m ∈ modules, ∀ dependency ∈ m.dependencies, dependency.isConsistent = true := by
  induction modules generalizing seen with
  | nil => simp [firstDefect?]
  | cons m rest ih =>
      have hnew : (∀ other ∈ rest, other.source ∉ seen.insert m.source) ↔
          m.source ∉ rest.map Module.source ∧ ∀ other ∈ rest, other.source ∉ seen := by
        simp only [Std.TreeSet.mem_insert, Std.compare_eq_iff_eq, not_or, List.mem_map,
          not_exists, not_and]
        exact ⟨fun h => ⟨fun other hother heq => (h other hother).1 heq.symm,
            fun other hother => (h other hother).2⟩,
          fun h other hother => ⟨fun heq => h.1 other hother heq.symm, h.2 other hother⟩⟩
      simp only [List.forall_mem_cons, List.map_cons, List.nodup_cons]
      unfold firstDefect?
      by_cases hseen : m.source ∈ seen
      · simp [hseen]
      · rw [if_neg (by simpa using hseen)]
        cases hfind : m.dependencies.find? fun dependency => !dependency.isConsistent with
        | none =>
            rw [find?_not_isConsistent_eq_none_iff] at hfind
            simp only [ih, hnew, hseen, not_false_eq_true, true_and]
            tauto
        | some dependency =>
            have hbad : ¬ ∀ dependency ∈ m.dependencies, dependency.isConsistent = true := by
              rw [← find?_not_isConsistent_eq_none_iff, hfind]
              simp
            simp [hbad]

theorem ensureSound_eq_ok_iff {graph : Graph} : graph.ensureSound = .ok () ↔ graph.IsSound := by
  have hdefect : graph.ensureSound = .ok () ↔ graph.defect? = none := by
    unfold ensureSound
    cases graph.defect? <;> simp
  rw [hdefect, defect?, firstDefect?_eq_none_iff]
  constructor
  · rintro ⟨_, hnodup, hconsistent⟩
    exact ⟨hnodup, hconsistent⟩
  · rintro ⟨hnodup, hconsistent⟩
    exact ⟨by simp, hnodup, hconsistent⟩

/-- The order of the modules makes no difference to soundness. -/
theorem IsSound.of_perm {graph other : Graph} (h : graph.IsSound)
    (hperm : other.modules.Perm graph.modules) : other.IsSound := by
  refine ⟨?_, fun m hm => h.consistent m (hperm.mem_iff.1 hm)⟩
  exact (hperm.map Module.source).nodup_iff.2 h.nodup

end Graph

end DependencyRules
