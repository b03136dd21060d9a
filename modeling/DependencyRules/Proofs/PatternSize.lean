import DependencyRules.Pattern
import Mathlib

/-!
# How much room a set of characters takes

An automaton for a set of characters has a state for each byte range of the set at most. States that
the table remembers are shared and only make it smaller, so the bound does not depend on what the
table holds.
-/

namespace DependencyRules

def rangeCount (sequences : List ByteRanges) : Nat := (sequences.map List.length).sum

theorem rangeCount_cons (ranges : ByteRanges) (sequences : List ByteRanges) :
    rangeCount (ranges :: sequences) = ranges.length + rangeCount sequences := by
  simp [rangeCount]

/-- A measure that every step of a loop raises by the cost of its item at most. -/
theorem foldl_le_add_sum {α σ : Type} {step : σ → α → σ} (measure : σ → Nat) (cost : α → Nat)
    (h : ∀ s a, measure (step s a) ≤ measure s + cost a) (items : List α) (s : σ) :
    measure (items.foldl step s) ≤ measure s + (items.map cost).sum := by
  induction items generalizing s with
  | nil => simp
  | cons a rest ih =>
      have hstep := h s a
      have hrest := ih (step s a)
      simp only [List.foldl_cons, List.map_cons, List.sum_cons]
      omega

namespace Meter

@[simp] theorem size_add (count : Nat) (meter : Meter) :
    (meter.add count).size = meter.size + 32 * count := by
  simp only [size, add, stateSize]
  omega

@[simp] theorem size_addTransitions (count : Nat) (meter : Meter) :
    (meter.addTransitions count).size = meter.size + (32 + 8 * count) := by
  simp only [size, addTransitions, stateSize, transitionSize]
  omega

@[simp] theorem size_addAlternatives (count : Nat) (meter : Meter) :
    (meter.addAlternatives count).size = meter.size + (32 + 4 * count) := by
  simp only [size, addAlternatives, stateSize, alternativeSize]
  omega

end Meter

namespace Assembly

/-- A state costs what making it costs, or nothing if the table remembers it. -/
theorem size_state_le {make : Meter → Meter} {cost : Nat}
    (hmake : ∀ meter, (make meter).size = meter.size + cost) (description : List Nat)
    (assembly : Assembly) :
    (assembly.state make description).2.meter.size ≤ assembly.meter.size + cost := by
  unfold state
  cases assembly.table.find? description with
  | some known => simp
  | none => simp [hmake]

/-- Grouping takes the first range off each sequence, and there are not more groups than that. -/
theorem sum_groups_le (sequences : List ByteRanges) :
    ((groups sequences).map fun group => rangeCount group.2 + 1).sum ≤ rangeCount sequences := by
  fun_induction groups sequences with
  | case1 => simp
  | case2 rest ih =>
      rw [rangeCount_cons]
      simpa using ih
  | case3 ranges rest next followers others hgroups ih =>
      rw [hgroups] at ih
      simp only [List.map_cons, List.sum_cons, rangeCount_cons, List.length_cons] at ih ⊢
      omega
  | case4 range ranges rest next followers others hgroups hdiffer ih =>
      rw [hgroups] at ih
      simp only [List.map_cons, List.sum_cons, rangeCount_cons, List.length_cons] at ih ⊢
      simp only [rangeCount, List.map_nil, List.sum_nil] at ih ⊢
      omega
  | case5 range ranges rest hgroups ih =>
      simp [rangeCount]

theorem sum_groups_cost (found : List ((Nat × Nat) × List ByteRanges)) :
    (found.map fun group => 40 * rangeCount group.2).sum + 40 * found.length =
      40 * (found.map fun group => rangeCount group.2 + 1).sum := by
  induction found with
  | nil => rfl
  | cons group rest ih =>
      simp only [List.map_cons, List.sum_cons, List.length_cons]
      omega

theorem size_stateFor_le (target depth : Nat) (sequences : List ByteRanges) (assembly : Assembly) :
    (stateFor target depth sequences assembly).2.meter.size ≤
      assembly.meter.size + 40 * rangeCount sequences := by
  induction depth generalizing sequences assembly with
  | zero => simp [stateFor]
  | succ depth ih =>
      have hgroups := sum_groups_le sequences
      unfold stateFor
      cases hfound : groups sequences with
      | nil => simp
      | cons group rest =>
          rw [hfound] at hgroups
          have hcost := sum_groups_cost (group :: rest)
          rw [List.length_cons] at hcost
          -- One state for the groups comes on top of what their followers need.
          refine (size_state_le (Meter.size_addTransitions _) _ _).trans ?_
          refine (Nat.add_le_add_right (foldl_le_add_sum
            (fun s : List Nat × Assembly => s.2.meter.size)
            (fun group : (Nat × Nat) × List ByteRanges => 40 * rangeCount group.2)
            (fun s group => ih group.2 s.2) (group :: rest) ([], assembly)) _).trans ?_
          simp only [List.length_cons]
          omega

theorem size_stateBackward_le (target : Nat) (ranges : ByteRanges) (assembly : Assembly) :
    (stateBackward target ranges assembly).2.meter.size ≤
      assembly.meter.size + 40 * ranges.length := by
  refine (foldl_le_add_sum (fun s : Nat × Assembly => s.2.meter.size) (fun _ => 32)
    (fun s range => size_state_le (Meter.size_add 1) _ s.2) ranges (target, assembly)).trans ?_
  simp only [List.map_const', List.sum_replicate, smul_eq_mul]
  omega

end Assembly

theorem Meter.size_addSequences_le (direction : Direction) (sequences : List ByteRanges)
    (meter : Meter) :
    (meter.addSequences direction sequences).size ≤
      meter.size + 64 + 4 * sequences.length + 40 * rangeCount sequences := by
  cases direction with
  | forward =>
      refine (Assembly.size_stateFor_le ..).trans ?_
      simp only [size_add]
      omega
  | backward =>
      refine (foldl_le_add_sum (fun assembly : Assembly => assembly.meter.size)
        (fun ranges : ByteRanges => 40 * ranges.length)
        (fun assembly ranges => Assembly.size_stateBackward_le _ ranges assembly)
        sequences _).trans ?_
      have hsum : (sequences.map fun ranges => 40 * ranges.length).sum =
          40 * rangeCount sequences := List.sum_map_mul_left ..
      simp only [size_add, size_addAlternatives, hsum]
      omega

end DependencyRules
