import DependencyRules.Proofs.FirstError
import DependencyRules.Proofs.Judgement
import DependencyRules.Proofs.Soundness

/-!
# The first defect of a graph

A graph is gone through module by module, the source of a module before its dependencies. The
sources of the modules before are kept as a set, and the first defect met is the one reported. A
judge reports the same defect, whatever its rules.
-/

namespace DependencyRules

namespace Dependency

theorem isConsistent_iff (dependency : Dependency) :
    dependency.isConsistent = true ↔
      (dependency.resolved = "" ↔ dependency.couldNotResolve = true) := by
  rw [isConsistent, beq_iff_eq, Bool.eq_iff_iff, String.isEmpty_iff]

end Dependency

namespace Graph

/-- What is wrong at a place among some modules. A place is the position of a module and a number
within it: zero for its source, one more than its position for a dependency. -/
inductive HasDefect (modules : List Module) : Nat ×ₗ Nat → GraphDefect → Prop
  | source {i : Nat} {m : Module} (hget : modules[i]? = some m)
      (hearlier : m.source ∈ (modules.take i).map Module.source) :
      HasDefect modules (toLex (i, 0)) (.duplicateSource m.source)
  | dependency {i k : Nat} {m : Module} {dependency : Dependency} (hget : modules[i]? = some m)
      (hdependency : m.dependencies[k]? = some dependency)
      (hbad : ¬ (dependency.resolved = "" ↔ dependency.couldNotResolve = true)) :
      HasDefect modules (toLex (i, k + 1))
        (.inconsistentDependency m.source dependency.specifier)

/-- A defect of a graph at a place that no other defect comes before. -/
def IsFirstDefect (graph : Graph) (defect : GraphDefect) : Prop :=
  ∃ place, HasDefect graph.modules place defect ∧
    ∀ other defect', HasDefect graph.modules other defect' → place ≤ other

/-- The search for an inconsistent dependency of a module at a position. -/
theorem findsFirst_dependencies (modules : List Module) {i : Nat} {m : Module}
    (hget : modules[i]? = some m) :
    FindsFirst ((m.dependencies.find? fun dependency => !dependency.isConsistent).map
        fun dependency => .inconsistentDependency m.source dependency.specifier)
      fun place defect => (ofLex place).1 = i ∧ 0 < (ofLex place).2 ∧
        HasDefect modules place defect := by
  have hmove : StrictMono fun k : Nat => toLex (i, k + 1) := by
    intro k l hlt
    exact Prod.Lex.toLex_lt_toLex.2 (.inr ⟨rfl, Nat.succ_lt_succ hlt⟩)
  rw [← List.findSome?_guard]
  refine (((FindsFirst.atItem _ m.dependencies).map _).moved hmove).congr fun place defect => ?_
  constructor
  · rintro ⟨k, rfl, dependency, ⟨found, hfound, hguard⟩, rfl⟩
    rw [Option.guard_eq_some_iff] at hguard
    obtain ⟨rfl, hbad⟩ := hguard
    refine ⟨rfl, Nat.succ_pos k, .dependency hget hfound ?_⟩
    rw [← Dependency.isConsistent_iff]
    simpa using hbad
  · rintro ⟨hplace, hpos, hdefect⟩
    cases hdefect with
    | source _ _ => exact absurd hpos (Nat.lt_irrefl 0)
    | @dependency j k m' dependency hget' hdependency hbad =>
        obtain rfl : j = i := hplace
        obtain rfl : m = m' := Option.some.inj (hget.symm.trans hget')
        rw [← Dependency.isConsistent_iff] at hbad
        refine ⟨k, rfl, dependency, ⟨dependency, hdependency, ?_⟩, rfl⟩
        rw [Option.guard_eq_some_iff]
        exact ⟨rfl, by simpa using hbad⟩

theorem firstDefect?_cons (seen : Std.TreeSet String) (m : Module) (rest : List Module) :
    firstDefect? seen (m :: rest) =
      if m.source ∈ seen then some (.duplicateSource m.source)
      else
        ((m.dependencies.find? fun dependency => !dependency.isConsistent).map
          fun dependency => .inconsistentDependency m.source dependency.specifier).or
            (firstDefect? (seen.insert m.source) rest) := by
  rw [firstDefect?]
  simp only [Std.TreeSet.contains_iff_mem]
  cases m.dependencies.find? fun dependency => !dependency.isConsistent <;> rfl

/-- The search at a module and after it finds the first defect that is not before the module. -/
theorem findsFirst_firstDefect? (before rest : List Module) (seen : Std.TreeSet String)
    (hseen : ∀ source, source ∈ seen ↔ source ∈ before.map Module.source) :
    FindsFirst (firstDefect? seen rest) fun place defect =>
      before.length ≤ (ofLex place).1 ∧ HasDefect (before ++ rest) place defect := by
  induction rest generalizing before seen with
  | nil =>
      have hnot : ∀ place defect, ¬ (before.length ≤ (ofLex place).1 ∧
          HasDefect (before ++ []) place defect) := by
        rintro place defect ⟨hle, hdefect⟩
        cases hdefect with
        | source hget _ | dependency hget _ _ =>
            have hlt := (List.getElem?_eq_some_iff.1 hget).1
            simp only [List.append_nil] at hlt
            exact absurd hle (Nat.not_le.2 hlt)
      exact ⟨fun _ => hnot, fun _ h => by simp [firstDefect?] at h,
        fun h => (hnot _ _ h).elim⟩
  | cons m rest ih =>
      have hget : (before ++ m :: rest)[before.length]? = some m := by simp
      have htake : (before ++ m :: rest).take before.length = before := by simp
      have hlater := ih (before ++ [m]) (seen.insert m.source) (by
        intro source
        simp only [Std.TreeSet.mem_insert, hseen, Std.compare_eq_iff_eq, List.map_append,
          List.mem_append, List.map_cons, List.map_nil, List.mem_singleton]
        tauto)
      rw [List.append_assoc, List.singleton_append, List.length_append, List.length_singleton]
        at hlater
      rw [firstDefect?_cons]
      refine (((findsFirst_dependencies _ hget).or hlater ?_).afterCheck (m.source ∈ seen)
        (toLex (before.length, 0)) (.duplicateSource m.source) ?_).congr fun place defect => ?_
      · rintro place _ place' _ ⟨hplace, _, _⟩ ⟨hle, _⟩
        exact Prod.Lex.lt_iff.2 (.inl (by omega))
      · rintro place _ (⟨hplace, hpos, _⟩ | ⟨hle, _⟩)
        · exact Prod.Lex.lt_iff.2 (.inr ⟨hplace.symm, hpos⟩)
        · exact Prod.Lex.lt_iff.2 (.inl hle)
      · constructor
        · rintro (⟨rfl, rfl, hmem⟩ | ⟨hplace, _, hdefect⟩ | ⟨hle, hdefect⟩)
          · refine ⟨le_rfl, .source hget ?_⟩
            rw [htake]
            exact (hseen m.source).1 hmem
          · exact ⟨hplace.ge, hdefect⟩
          · exact ⟨Nat.le_of_succ_le hle, hdefect⟩
        · rintro ⟨hle, hdefect⟩
          by_cases hplace : (ofLex place).1 = before.length
          · cases hdefect with
            | @source i m' hget' hearlier =>
                obtain rfl : i = before.length := hplace
                obtain rfl : m = m' := Option.some.inj (hget.symm.trans hget')
                rw [htake] at hearlier
                exact .inl ⟨rfl, rfl, (hseen m.source).2 hearlier⟩
            | dependency hget' hdependency hbad =>
                exact .inr (.inl ⟨hplace, Nat.succ_pos _, .dependency hget' hdependency hbad⟩)
          · exact .inr (.inr ⟨by omega, hdefect⟩)

theorem findsFirst_defect? (graph : Graph) :
    FindsFirst graph.defect? (HasDefect graph.modules) :=
  (findsFirst_firstDefect? [] graph.modules ∅ (by simp)).congr fun _ _ => by simp

theorem isSound_iff (graph : Graph) :
    graph.IsSound ↔ (graph.modules.map Module.source).Nodup ∧
      ∀ m ∈ graph.modules, ∀ dependency ∈ m.dependencies,
        (dependency.resolved = "" ↔ dependency.couldNotResolve = true) := by
  constructor
  · intro h
    refine ⟨h.nodup, fun m hm dependency hdependency => ?_⟩
    rw [← Dependency.isConsistent_iff]
    exact h.consistent m hm dependency hdependency
  · rintro ⟨hnodup, hconsistent⟩
    refine ⟨hnodup, fun m hm dependency hdependency => ?_⟩
    rw [Dependency.isConsistent_iff]
    exact hconsistent m hm dependency hdependency

theorem ensureSound_eq_error_iff (graph : Graph) (error : Error) :
    graph.ensureSound = .error error ↔
      ∃ defect, error = .badGraph defect ∧ graph.IsFirstDefect defect := by
  unfold IsFirstDefect
  simp only [← graph.findsFirst_defect?.eq_some_iff, ensureSound]
  cases graph.defect? with
  | none => simp
  | some defect => simp [eq_comm]

end Graph

namespace Judge

theorem assess_eq_error_iff (judge : Judge) (graph : Graph) (error : Error) :
    judge.assess graph = .error error ↔ graph.ensureSound = .error error := by
  cases hsound : graph.ensureSound with
  | ok => simp [judge.assess_eq_ok hsound]
  | error error' => simp [judge.assess_eq_error hsound]

theorem exists_assess_eq_ok_iff_ensureSound (judge : Judge) (graph : Graph) :
    (∃ result, judge.assess graph = .ok result) ↔ graph.ensureSound = .ok () := by
  cases hsound : graph.ensureSound with
  | ok => simp [judge.assess_eq_ok hsound]
  | error error => simp [judge.assess_eq_error hsound]

/-- A graph is accepted exactly when its sources are distinct and its dependencies have a path
unless they could not be resolved. Any other graph is refused with its first defect, and every judge
refuses the same graphs with the same error. -/
theorem assess_names_first_defect (graph : Graph) :
    (graph.ensureSound = .ok () ↔ (graph.modules.map Module.source).Nodup ∧
      ∀ m ∈ graph.modules, ∀ dependency ∈ m.dependencies,
        (dependency.resolved = "" ↔ dependency.couldNotResolve = true)) ∧
    (∀ error, graph.ensureSound = .error error ↔
      ∃ defect, error = .badGraph defect ∧ graph.IsFirstDefect defect) ∧
    ∀ judge : Judge, ((∃ result, judge.assess graph = .ok result) ↔ graph.ensureSound = .ok ()) ∧
      ∀ error, judge.assess graph = .error error ↔ graph.ensureSound = .error error := by
  refine ⟨?_, graph.ensureSound_eq_error_iff, fun judge => ?_⟩
  · rw [Graph.ensureSound_eq_ok_iff, graph.isSound_iff]
  · exact ⟨judge.exists_assess_eq_ok_iff_ensureSound graph, judge.assess_eq_error_iff graph⟩

end Judge

end DependencyRules
