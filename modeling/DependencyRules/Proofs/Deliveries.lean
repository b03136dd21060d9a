import DependencyRules.Proofs.Tally
import DependencyRules.Settings
import Mathlib

/-!
# Violations as they are delivered

A tally is fed one violation at a time or several at once. Its summary depends on what was delivered
and not on how: it lists the violations in ascending order of a key in which all their fields take
part, and its counts are those of the list.
-/

namespace DependencyRules

/-! ## Keys -/

/-- Comparing items comes to comparing their keys. -/
structure OrdersBy {α β : Type} [LinearOrder β] (comparison : α → α → Ordering) (key : α → β) :
    Prop where
  lt_iff : ∀ {a b}, comparison a b = .lt ↔ key a < key b
  eq_iff : ∀ {a b}, comparison a b = .eq ↔ key a = key b

/-- A key for optional items, by which an absent one comes first. -/
def absentFirst {α β : Type} (key : α → β) : Option α → WithBot β
  | none => ⊥
  | some a => key a

namespace OrdersBy

variable {α β γ : Type} [LinearOrder β] {key : α → β}

theorem isLE_iff {comparison : α → α → Ordering} (h : OrdersBy comparison key) {a b : α} :
    (comparison a b).isLE = true ↔ key a ≤ key b := by
  rw [le_iff_lt_or_eq, ← h.lt_iff, ← h.eq_iff]
  cases comparison a b <;> simp

theorem on {comparison : α → α → Ordering} (h : OrdersBy comparison key) (f : γ → α) :
    OrdersBy (fun a b => comparison (f a) (f b)) fun c => key (f c) :=
  ⟨h.lt_iff, h.eq_iff⟩

theorem lex [LinearOrder γ] {first second : α → α → Ordering} {other : α → γ}
    (hfirst : OrdersBy first key) (hsecond : OrdersBy second other) :
    OrdersBy (compareLex first second) fun a => toLex (key a, other a) where
  lt_iff := by
    simp [compareLex, Ordering.then_eq_lt, Prod.Lex.toLex_lt_toLex, hfirst.lt_iff, hfirst.eq_iff,
      hsecond.lt_iff]
  eq_iff := by
    simp [compareLex, Ordering.then_eq_eq, hfirst.eq_iff, hsecond.eq_iff]

section Compound

variable [Ord α] (h : OrdersBy compare key)

include h

theorem list : OrdersBy compare (List.map key) := by
  have hall : ∀ items others : List α,
      (compare items others = .lt ↔ items.map key < others.map key) ∧
        (compare items others = .eq ↔ items.map key = others.map key) := by
    intro items
    induction items with
    | nil =>
        intro others
        cases others <;> simp [compare, List.compareLex]
    | cons a rest ih =>
        intro others
        cases others with
        | nil => simp [compare, List.compareLex]
        | cons b others =>
            obtain ⟨hlt, heq⟩ := ih others
            rw [List.compare_cons_cons, Ordering.then_eq_lt, Ordering.then_eq_eq, h.lt_iff,
              h.eq_iff, hlt, heq, List.map_cons, List.map_cons, List.cons_lt_cons_iff,
              List.cons.injEq]
            exact ⟨Iff.rfl, Iff.rfl⟩
  exact ⟨(hall _ _).1, (hall _ _).2⟩

theorem option : OrdersBy compare (absentFirst key) where
  lt_iff {a b} := by
    cases a <;> cases b <;> simp [compare, absentFirst, h.lt_iff]
  eq_iff {a b} := by
    cases a <;> cases b <;> simp [compare, absentFirst, h.eq_iff]

end Compound

end OrdersBy

def codePoints (text : String) : List Nat := text.toList.map Char.toNat

theorem strictMono_map_toNat : StrictMono (List.map Char.toNat) :=
  fun _ _ h => List.map_lt (fun _ _ hlt => UInt32.lt_iff_toNat_lt.1 hlt) h

theorem ordersBy_codePoints : OrdersBy compare codePoints where
  lt_iff := by
    intro a b
    rw [compare_lt_iff_lt, String.lt_iff_toList_lt]
    exact strictMono_map_toNat.lt_iff_lt.symm
  eq_iff := by
    intro a b
    rw [Std.compare_eq_iff_eq, codePoints, codePoints, strictMono_map_toNat.injective.eq_iff,
      String.toList_inj]

theorem ordersBy_text : OrdersBy compare (id : String → String) :=
  ⟨compare_lt_iff_lt, Std.compare_eq_iff_eq⟩

theorem ordersBy_rank : OrdersBy compare Severity.rank where
  lt_iff := Nat.compare_eq_lt
  eq_iff := Nat.compare_eq_eq

/-- What violations are ordered by: source, target, name, severity and comment of the rule, way and
cycle. -/
def Violation.key (violation : Violation) :
    List Nat ×ₗ List Nat ×ₗ List Nat ×ₗ Nat ×ₗ WithBot (List Nat) ×ₗ
      WithBot (List (List Nat)) ×ₗ List (List Nat) :=
  toLex (codePoints violation.source, toLex (codePoints violation.target,
    toLex (codePoints violation.rule.name, toLex (violation.rule.severity.rank,
      toLex (absentFirst codePoints violation.rule.comment,
        toLex (absentFirst (List.map codePoints) violation.via,
          violation.cycle.map codePoints))))))

theorem Violation.ordersBy_key : OrdersBy compare Violation.key := by
  -- The comparison of rules is nested in that of violations; the key has their parts in one row.
  have hflat : (compare : Violation → Violation → Ordering) =
      compareLex (compareOn source) (compareLex (compareOn target)
        (compareLex (compareOn fun violation => violation.rule.name)
          (compareLex (compareOn fun violation => violation.rule.severity)
            (compareLex (compareOn fun violation => violation.rule.comment)
              (compareLex (compareOn via) (compareOn cycle)))))) := by
    funext a b
    simp [compare, compareLex, compareOn, Ordering.then_assoc]
  rw [hflat]
  have hcycle := ordersBy_codePoints.list.on cycle
  have hvia := (ordersBy_codePoints.list.option.on via).lex hcycle
  have hcomment :=
    (ordersBy_codePoints.option.on fun violation : Violation => violation.rule.comment).lex hvia
  have hseverity := (ordersBy_rank.on fun violation : Violation => violation.rule.severity).lex
    hcomment
  have hname := (ordersBy_codePoints.on fun violation : Violation => violation.rule.name).lex
    hseverity
  exact (ordersBy_codePoints.on source).lex ((ordersBy_codePoints.on target).lex hname)

/-! ## Deliveries -/

namespace Tally

inductive Delivery where
  | one (violation : Violation)
  | several (violations : List Violation)

def Delivery.violations : Delivery → List Violation
  | .one violation => [violation]
  | .several violations => violations

def take (tally : Tally) : Delivery → Tally
  | .one violation => tally.add violation
  | .several violations => tally.addAll violations

def ofDeliveries (deliveries : List Delivery) : Tally := deliveries.foldl take {}

def delivered (deliveries : List Delivery) : List Violation :=
  deliveries.flatMap Delivery.violations

theorem violations_take (tally : Tally) (delivery : Delivery) :
    (tally.take delivery).violations = tally.violations ++ delivery.violations := by
  cases delivery <;> rfl

theorem violations_foldl_take (tally : Tally) (deliveries : List Delivery) :
    (deliveries.foldl take tally).violations = tally.violations ++ delivered deliveries := by
  induction deliveries generalizing tally with
  | nil => simp [delivered]
  | cons delivery rest ih =>
      rw [List.foldl_cons, ih, violations_take, List.append_assoc]
      rfl

theorem violations_ofDeliveries (deliveries : List Delivery) :
    (ofDeliveries deliveries).violations = delivered deliveries :=
  violations_foldl_take {} deliveries

end Tally

/-! ## Counts -/

namespace Severity

theorem info_le (severity : Severity) : info ≤ severity := Nat.zero_le _

theorem warn_le_iff {severity : Severity} :
    warn ≤ severity ↔ severity = error ∨ severity = warn := by
  cases severity <;> decide

theorem error_le_iff {severity : Severity} : error ≤ severity ↔ severity = error := by
  cases severity <;> decide

end Severity

namespace Tally

theorem countOf_add (violations : List Violation) :
    countOf .error violations + countOf .warn violations + countOf .info violations =
      violations.length := by
  induction violations with
  | nil => rfl
  | cons violation rest ih =>
      simp only [countOf, List.countP_cons, List.length_cons] at ih ⊢
      cases violation.severity <;> simp <;> omega

theorem countP_warn_le (violations : List Violation) :
    (violations.countP fun violation => Severity.warn ≤ violation.severity) =
      countOf .error violations + countOf .warn violations := by
  induction violations with
  | nil => rfl
  | cons violation rest ih =>
      simp only [countOf, List.countP_cons] at ih ⊢
      rw [ih]
      cases violation.severity <;> simp [Severity.warn_le_iff] <;> omega

end Tally

theorem FailureLevel.fails_iff {level : FailureLevel} {severity : Severity}
    (h : level.threshold = some severity) (summary : Summary) :
    level.fails summary = true ↔ 0 < summary.countFrom severity := by
  simp [fails, h]

/-- A summary lists the violations that were delivered in ascending order, and counts them. -/
structure Summary.Accounts (summary : Summary) (delivered : List Violation) : Prop where
  perm : summary.violations.Perm delivered
  ascending : summary.violations.Pairwise fun a b => a.key ≤ b.key
  total : summary.error + summary.warn + summary.info = summary.violations.length
  from_info : summary.countFrom .info = summary.error + summary.warn + summary.info
  from_warn : summary.countFrom .warn = summary.error + summary.warn
  from_error : summary.countFrom .error = summary.error
  fails_info : FailureLevel.info.fails summary = true ↔
    0 < summary.error + summary.warn + summary.info
  fails_warn : FailureLevel.warn.fails summary = true ↔ 0 < summary.error + summary.warn
  fails_error : FailureLevel.error.fails summary = true ↔ 0 < summary.error
  fails_never : FailureLevel.never.fails summary = false

theorem Summary.Accounts.of_counts {summary : Summary} {delivered : List Violation}
    (hperm : summary.violations.Perm delivered)
    (hascending : summary.violations.Pairwise fun a b => a.key ≤ b.key)
    (hcount : summary.error = Tally.countOf .error delivered ∧
      summary.warn = Tally.countOf .warn delivered ∧
      summary.info = Tally.countOf .info delivered) : summary.Accounts delivered := by
  obtain ⟨herror, hwarn, hinfo⟩ := hcount
  have htotal : summary.error + summary.warn + summary.info = summary.violations.length := by
    rw [herror, hwarn, hinfo, Tally.countOf_add, hperm.length_eq]
  have hfromInfo : summary.countFrom .info = summary.error + summary.warn + summary.info := by
    simp [countFrom, Severity.info_le, htotal]
  have hfromWarn : summary.countFrom .warn = summary.error + summary.warn := by
    rw [countFrom, hperm.countP_eq, Tally.countP_warn_le, herror, hwarn]
  have hfromError : summary.countFrom .error = summary.error := by
    simp only [countFrom, hperm.countP_eq, Severity.error_le_iff, herror, Tally.countOf]
  exact {
    perm := hperm
    ascending := hascending
    total := htotal
    from_info := hfromInfo
    from_warn := hfromWarn
    from_error := hfromError
    fails_info := hfromInfo ▸ FailureLevel.fails_iff rfl summary
    fails_warn := hfromWarn ▸ FailureLevel.fails_iff rfl summary
    fails_error := hfromError ▸ FailureLevel.fails_iff rfl summary
    fails_never := rfl }

namespace Tally

theorem sorted_ascending (violations : List Violation) :
    (sorted violations).Pairwise fun a b => a.key ≤ b.key :=
  (mergeSort_compare_pairwise violations).imp Violation.ordersBy_key.isLE_iff.1

/-- However violations are delivered, one by one or several at once and in whatever order, the
summary is the same, and it accounts for exactly what was delivered. -/
theorem summary_of_deliveries (totalCruised totalDependenciesCruised : Nat)
    (extra : List (String × Json)) :
    (∀ deliveries other : List Delivery, (delivered deliveries).Perm (delivered other) →
      (ofDeliveries deliveries).summary totalCruised totalDependenciesCruised extra =
        (ofDeliveries other).summary totalCruised totalDependenciesCruised extra) ∧
    ∀ deliveries : List Delivery,
      ((ofDeliveries deliveries).summary totalCruised totalDependenciesCruised extra).Accounts
        (delivered deliveries) := by
  constructor
  · intro deliveries other hperm
    rw [← violations_ofDeliveries, ← violations_ofDeliveries other] at hperm
    exact summary_eq_of_perm hperm totalCruised totalDependenciesCruised extra
  · intro deliveries
    rw [← violations_ofDeliveries]
    exact .of_counts (List.mergeSort_perm ..) (sorted_ascending _) ⟨rfl, rfl, rfl⟩

def sampleViolations : List Violation :=
  [{ rule := ⟨"no-cycles", .error, none⟩, source := "a", target := "b", cycle := ["b", "a"] },
    { rule := ⟨"no-orphans", .warn, some "unused"⟩, source := "b", target := "b" }]

theorem summary_of_deliveries_batched :
    (delivered [.several sampleViolations.reverse, .several [], .several sampleViolations]).Perm
        (delivered ((sampleViolations ++ sampleViolations).map .one)) ∧
      (ofDeliveries [.several sampleViolations.reverse, .several [],
          .several sampleViolations]).summary 2 1 [] =
        (ofDeliveries ((sampleViolations ++ sampleViolations).map .one)).summary 2 1 [] ∧
      ((ofDeliveries ((sampleViolations ++ sampleViolations).map .one)).summary 2 1 []).Accounts
        (sampleViolations ++ sampleViolations) := by
  have hperm : (delivered [.several sampleViolations.reverse, .several [],
      .several sampleViolations]).Perm
        (delivered ((sampleViolations ++ sampleViolations).map .one)) := by decide
  obtain ⟨hsame, haccounts⟩ := summary_of_deliveries 2 1 []
  exact ⟨hperm, hsame _ _ hperm, haccounts _⟩

end Tally

end DependencyRules
