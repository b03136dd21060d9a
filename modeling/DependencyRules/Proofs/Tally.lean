import DependencyRules.Violation.Tally

/-!
# Violations in order

Violations are in a linear order, so a summary lists them in the only way that respects it.
-/

namespace DependencyRules

instance : Std.TransOrd Severity := inferInstanceAs (Std.TransCmp (compareOn Severity.rank))

instance : Std.TransOrd BrokenRule := inferInstanceAs (Std.TransCmp (compareLex _ _))

instance : Std.TransOrd Violation := inferInstanceAs (Std.TransCmp (compareLex _ _))

instance : Std.LawfulEqOrd Severity where
  eq_of_compare {a b} h := by
    revert h
    cases a <;> cases b <;> decide

instance : Std.LawfulEqOrd BrokenRule where
  eq_of_compare {a b} h := by
    obtain ⟨hname, hrest⟩ := compareLex_eq_eq.1 h
    obtain ⟨hseverity, hcomment⟩ := compareLex_eq_eq.1 hrest
    cases a
    cases b
    rw [BrokenRule.mk.injEq]
    exact ⟨Std.LawfulEqOrd.eq_of_compare hname, Std.LawfulEqOrd.eq_of_compare hseverity,
      Std.LawfulEqOrd.eq_of_compare hcomment⟩

instance : Std.LawfulEqOrd Violation where
  eq_of_compare {a b} h := by
    obtain ⟨hsource, hrest⟩ := compareLex_eq_eq.1 h
    obtain ⟨htarget, hrest⟩ := compareLex_eq_eq.1 hrest
    obtain ⟨hrule, hrest⟩ := compareLex_eq_eq.1 hrest
    obtain ⟨hvia, hcycle⟩ := compareLex_eq_eq.1 hrest
    cases a
    cases b
    rw [Violation.mk.injEq]
    exact ⟨Std.LawfulEqOrd.eq_of_compare hrule, Std.LawfulEqOrd.eq_of_compare hsource,
      Std.LawfulEqOrd.eq_of_compare htarget, Std.LawfulEqOrd.eq_of_compare hcycle,
      Std.LawfulEqOrd.eq_of_compare hvia⟩

section Sorting

variable {α : Type} [Ord α] [Std.TransOrd α]

theorem mergeSort_compare_pairwise (items : List α) :
    (items.mergeSort fun a b => (compare a b).isLE).Pairwise
      fun a b => (compare a b).isLE = true := by
  refine List.pairwise_mergeSort (fun a b c hab hbc => ?_) (fun a b => ?_) items
  · exact Std.TransCmp.isLE_trans hab hbc
  · have hswap : compare a b = (compare b a).swap := Std.OrientedCmp.eq_swap
    rw [hswap]
    cases compare b a <;> rfl

/-- Sorting gives the only list of the same items that is in order. -/
theorem eq_mergeSort_compare_iff [Std.LawfulEqOrd α] {items other : List α} :
    (other = items.mergeSort fun a b => (compare a b).isLE) ↔
      other.Pairwise (fun a b => (compare a b).isLE = true) ∧ other.Perm items := by
  constructor
  · rintro rfl
    exact ⟨mergeSort_compare_pairwise items, List.mergeSort_perm ..⟩
  · rintro ⟨hsorted, hperm⟩
    refine (hperm.trans (List.mergeSort_perm ..).symm).eq_of_pairwise ?_ hsorted
      (mergeSort_compare_pairwise items)
    intro a b _ _ hab hba
    exact Std.LawfulEqOrd.eq_of_compare (Std.OrientedCmp.isLE_antisymm hab hba)

theorem mergeSort_compare_eq_of_perm [Std.LawfulEqOrd α] {items other : List α}
    (h : items.Perm other) :
    (items.mergeSort fun a b => (compare a b).isLE) =
      other.mergeSort fun a b => (compare a b).isLE :=
  eq_mergeSort_compare_iff.2
    ⟨mergeSort_compare_pairwise items, (List.mergeSort_perm ..).trans h⟩

end Sorting

namespace Tally

theorem eq_sorted_iff {violations other : List Violation} :
    other = sorted violations ↔
      other.Pairwise (fun a b => (compare a b).isLE = true) ∧ other.Perm violations :=
  eq_mergeSort_compare_iff

/-- The order in which violations are met makes no difference to the summary. -/
theorem summary_eq_of_perm {tally other : Tally} (h : tally.violations.Perm other.violations)
    (totalCruised totalDependenciesCruised : Nat) (extra : List (String × Json)) :
    tally.summary totalCruised totalDependenciesCruised extra =
      other.summary totalCruised totalDependenciesCruised extra := by
  have hsorted : sorted tally.violations = sorted other.violations :=
    mergeSort_compare_eq_of_perm h
  have hcount : ∀ severity, countOf severity tally.violations =
      countOf severity other.violations := fun severity => h.countP_eq _
  simp only [summary, hsorted, hcount]

end Tally

end DependencyRules
