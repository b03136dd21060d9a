import DependencyRules.Pattern
import Mathlib

/-!
# What an expression matches

`Expr.Matches` says which stretches of a text an expression matches, constructor by constructor.
The matcher works on sets of positions that are kept as the bits of numbers; it computes exactly
this relation. A repetition without a bound needs no more rounds than the text has positions, since
a round that moves no position forward adds nothing.
-/

namespace DependencyRules

/-- A relation applied a number of times. -/
def Repeated (R : Nat → Nat → Prop) : Nat → Nat → Nat → Prop
  | 0, i, j => i = j
  | count + 1, i, j => ∃ k, R i k ∧ Repeated R count k j

/-- The expression matches what stands between two positions of a text. -/
def Expr.Matches (text : List Char) : Expr → Nat → Nat → Prop
  | .empty, i, j => i = j
  | .oneOf set, i, j => j = i + 1 ∧ ∃ c, text[i]? = some c ∧ set.contains c = true
  | .look condition, i, j =>
      i = j ∧ condition.holds (text.take i).getLast? text[i]? = true
  | .group _ body, i, j => body.Matches text i j
  | .seq first second, i, j => ∃ k, first.Matches text i k ∧ second.Matches text k j
  | .alt left right, i, j => left.Matches text i j ∨ right.Matches text i j
  | .times body least most _, i, j => ∃ count, least ≤ count ∧
      (∀ bound, most = some bound → count ≤ max least bound) ∧
      Repeated (body.Matches text) count i j

section Repetition

variable {R : Nat → Nat → Prop} {length : Nat}

theorem repeated_add {first second i j : Nat} :
    Repeated R (first + second) i j ↔ ∃ k, Repeated R first i k ∧ Repeated R second k j := by
  induction first generalizing i with
  | zero => simp [Repeated]
  | succ first ih =>
      rw [Nat.succ_add]
      simp only [Repeated, ih]
      constructor
      · rintro ⟨l, hl, k, hk, hj⟩
        exact ⟨k, ⟨l, hl, hk⟩, hj⟩
      · rintro ⟨k, ⟨l, hl, hk⟩, hj⟩
        exact ⟨l, hl, k, hk, hj⟩

theorem repeated_succ {count i j : Nat} :
    Repeated R (count + 1) i j ↔ ∃ k, Repeated R count i k ∧ R k j := by
  rw [repeated_add]
  simp [Repeated]

theorem repeated_of_le {least count i j : Nat} (hle : least ≤ count) :
    Repeated R count i j ↔ ∃ k, Repeated R least i k ∧ Repeated R (count - least) k j := by
  rw [← repeated_add, Nat.add_sub_cancel' hle]

/-- A relation only leads forward, and not beyond the end. -/
def LeadsForward (length : Nat) (R : Nat → Nat → Prop) : Prop :=
  ∀ i j, i ≤ length → R i j → i ≤ j ∧ j ≤ length

theorem LeadsForward.repeated (h : LeadsForward length R) (count : Nat) :
    LeadsForward length (Repeated R count) := by
  induction count with
  | zero =>
      intro i j hi hij
      cases hij
      exact ⟨le_rfl, hi⟩
  | succ count ih =>
      rintro i j hi ⟨k, hk, hj⟩
      have hfirst := h i k hi hk
      have hrest := ih k j hfirst.2 hj
      omega

/-- Rounds that stay where they are can be left out. -/
theorem LeadsForward.shorten (h : LeadsForward length R) {count i j : Nat} (hi : i ≤ length)
    (hij : Repeated R count i j) : ∃ fewer, fewer ≤ j - i ∧ Repeated R fewer i j := by
  induction count generalizing i with
  | zero => exact ⟨0, Nat.zero_le _, hij⟩
  | succ count ih =>
      obtain ⟨k, hk, hj⟩ := hij
      have hfirst := h i k hi hk
      have hrest := h.repeated count k j hfirst.2 hj
      obtain ⟨fewer, hle, hfewer⟩ := ih hfirst.2 hj
      by_cases hstay : i = k
      · subst hstay
        exact ⟨fewer, hle, hfewer⟩
      · exact ⟨fewer + 1, by omega, k, hk, hfewer⟩

end Repetition

/-! ## Sets of positions -/

/-- A function on sets of positions takes a set to all that its members lead to. -/
structure Computes (length : Nat) (f : Nat → Nat) (R : Nat → Nat → Prop) : Prop where
  forward : LeadsForward length R
  testBit_iff : ∀ positions, (∀ i, positions.testBit i = true → i ≤ length) →
    ∀ j, (f positions).testBit j = true ↔ ∃ i, positions.testBit i = true ∧ R i j

namespace Computes

variable {length : Nat} {f g : Nat → Nat} {R S : Nat → Nat → Prop}

theorem within (h : Computes length f R) {positions : Nat}
    (hwithin : ∀ i, positions.testBit i = true → i ≤ length) :
    ∀ j, (f positions).testBit j = true → j ≤ length := by
  intro j hj
  obtain ⟨i, hi, hij⟩ := (h.testBit_iff positions hwithin j).1 hj
  exact (h.forward i j (hwithin i hi) hij).2

theorem seq (hf : Computes length f R) (hg : Computes length g S) :
    Computes length (fun positions => g (f positions)) fun i j => ∃ k, R i k ∧ S k j where
  forward := by
    rintro i j hi ⟨k, hk, hj⟩
    have hfirst := hf.forward i k hi hk
    have hsecond := hg.forward k j hfirst.2 hj
    omega
  testBit_iff positions hwithin j := by
    rw [hg.testBit_iff _ (hf.within hwithin)]
    simp only [hf.testBit_iff positions hwithin]
    constructor
    · rintro ⟨k, ⟨i, hi, hik⟩, hkj⟩
      exact ⟨i, hi, k, hik, hkj⟩
    · rintro ⟨i, hi, k, hik, hkj⟩
      exact ⟨k, ⟨i, hi, hik⟩, hkj⟩

theorem alt (hf : Computes length f R) (hg : Computes length g S) :
    Computes length (fun positions => f positions ||| g positions) fun i j => R i j ∨ S i j where
  forward := by
    rintro i j hi (hij | hij)
    · exact hf.forward i j hi hij
    · exact hg.forward i j hi hij
  testBit_iff positions hwithin j := by
    rw [Nat.testBit_or, Bool.or_eq_true, hf.testBit_iff positions hwithin,
      hg.testBit_iff positions hwithin]
    simp only [and_or_left, exists_or]

theorem congr (h : Computes length f R) (hiff : ∀ i j, i ≤ length → (R i j ↔ S i j)) :
    Computes length f S where
  forward i j hi hij := h.forward i j hi ((hiff i j hi).2 hij)
  testBit_iff positions hwithin j := by
    rw [h.testBit_iff positions hwithin]
    refine exists_congr fun i => and_congr_right fun hi => hiff i j (hwithin i hi)

theorem iterate (h : Computes length f R) (count : Nat) :
    Computes length (Located.iterate f count) (Repeated R count) where
  forward := h.forward.repeated count
  testBit_iff positions hwithin j := by
    induction count generalizing positions with
    | zero => simp [Located.iterate, Repeated]
    | succ count ih =>
        unfold Located.iterate
        by_cases hzero : positions = 0
        · simp [hzero]
        · rw [if_neg hzero, ih (f positions) (h.within hwithin)]
          simp only [h.testBit_iff positions hwithin, Repeated]
          constructor
          · rintro ⟨k, ⟨i, hi, hik⟩, hkj⟩
            exact ⟨i, hi, k, hik, hkj⟩
          · rintro ⟨i, hi, k, hik, hkj⟩
            exact ⟨k, ⟨i, hi, hik⟩, hkj⟩

/-- Some positions are those that a set leads to within a number of rounds. -/
def IsReached (R : Nat → Nat → Prop) (start rounds reached : Nat) : Prop :=
  ∀ j, reached.testBit j = true ↔
    ∃ i, start.testBit i = true ∧ ∃ count ≤ rounds, Repeated R count i j

theorem isReached_next (h : Computes length f R) {start rounds reached : Nat}
    (hreached : IsReached R start rounds reached)
    (hwithin : ∀ i, reached.testBit i = true → i ≤ length) :
    IsReached R start (rounds + 1) (start ||| f reached) := by
  intro j
  rw [Nat.testBit_or, Bool.or_eq_true, h.testBit_iff reached hwithin]
  constructor
  · rintro (hstart | ⟨k, hk, hkj⟩)
    · exact ⟨j, hstart, 0, Nat.zero_le _, rfl⟩
    · obtain ⟨i, hi, count, hle, hik⟩ := (hreached k).1 hk
      exact ⟨i, hi, count + 1, Nat.succ_le_succ hle, repeated_succ.2 ⟨k, hik, hkj⟩⟩
  · rintro ⟨i, hi, count, hle, hij⟩
    cases count with
    | zero =>
        cases hij
        exact .inl hi
    | succ count =>
        obtain ⟨k, hik, hkj⟩ := repeated_succ.1 hij
        exact .inr ⟨k, (hreached k).2 ⟨i, hi, count, Nat.le_of_succ_le_succ hle, hik⟩, hkj⟩

/-- Once a round adds nothing, no later round does. -/
theorem isReached_of_stable (h : Computes length f R) {start rounds reached : Nat}
    (hreached : IsReached R start rounds reached)
    (hwithin : ∀ i, reached.testBit i = true → i ≤ length) (hstable : start ||| f reached = reached)
    (more : Nat) : IsReached R start (rounds + more) reached := by
  induction more with
  | zero => exact hreached
  | succ more ih =>
      have hnext := isReached_next h ih hwithin
      rwa [hstable] at hnext

theorem isReached_reach (h : Computes length f R) {start rounds reached : Nat}
    (hreached : IsReached R start rounds reached)
    (hwithin : ∀ i, start.testBit i = true → i ≤ length) (count : Nat) :
    IsReached R start (rounds + count) (Located.reach f start count reached) := by
  have hbound : ∀ {rounds reached}, IsReached R start rounds reached →
      ∀ j, reached.testBit j = true → j ≤ length := by
    intro rounds reached hreached j hj
    obtain ⟨i, hi, count, _, hij⟩ := (hreached j).1 hj
    exact (h.forward.repeated count i j (hwithin i hi) hij).2
  induction count generalizing rounds reached with
  | zero => exact hreached
  | succ count ih =>
      unfold Located.reach
      by_cases hstable : start ||| f reached = reached
      · rw [if_pos hstable]
        exact isReached_of_stable h hreached (hbound hreached) hstable (count + 1)
      · rw [if_neg hstable]
        have hnext := ih (isReached_next h hreached (hbound hreached))
        rwa [Nat.add_assoc, Nat.add_comm 1] at hnext

theorem reach (h : Computes length f R) (count : Nat) :
    Computes length (fun positions => Located.reach f positions count positions)
      fun i j => ∃ rounds ≤ count, Repeated R rounds i j where
  forward := by
    rintro i j hi ⟨rounds, _, hij⟩
    exact h.forward.repeated rounds i j hi hij
  testBit_iff positions hwithin j := by
    have hstart : IsReached R positions 0 positions := by
      intro j
      simp [Repeated]
    have hreached := isReached_reach h hstart hwithin count
    rw [Nat.zero_add] at hreached
    exact hreached j

/-- At least a number of rounds and up to a number more. -/
theorem times (h : Computes length f R) (least more : Nat) :
    Computes length
      (fun positions =>
        Located.reach f (Located.iterate f least positions) more
          (Located.iterate f least positions))
      fun i j => ∃ count, least ≤ count ∧ count ≤ least + more ∧ Repeated R count i j := by
  refine ((h.iterate least).seq (h.reach more)).congr fun i j _ => ?_
  constructor
  · rintro ⟨k, hik, rounds, hle, hkj⟩
    exact ⟨least + rounds, by omega, by omega, repeated_add.2 ⟨k, hik, hkj⟩⟩
  · rintro ⟨count, hleast, hmost, hij⟩
    obtain ⟨k, hik, hkj⟩ := (repeated_of_le hleast).1 hij
    exact ⟨k, hik, count - least, by omega, hkj⟩

/-- With as many rounds as there are positions, there is no bound on their number. -/
theorem times_unbounded (h : Computes length f R) (least : Nat) :
    Computes length
      (fun positions =>
        Located.reach f (Located.iterate f least positions) (length + 1)
          (Located.iterate f least positions))
      fun i j => ∃ count, least ≤ count ∧ Repeated R count i j := by
  refine (h.times least (length + 1)).congr fun i j hi => ?_
  constructor
  · rintro ⟨count, hleast, _, hij⟩
    exact ⟨count, hleast, hij⟩
  · rintro ⟨count, hleast, hij⟩
    obtain ⟨k, hik, hkj⟩ := (repeated_of_le hleast).1 hij
    have hk := h.forward.repeated least i k hi hik
    have hj := h.forward.repeated _ k j hk.2 hkj
    obtain ⟨fewer, hle, hfewer⟩ := h.forward.shorten hk.2 hkj
    exact ⟨least + fewer, by omega, by omega, repeated_add.2 ⟨k, hik, hfewer⟩⟩

end Computes

/-! ## Masks -/

theorem testBit_add_two_mul (b : Bool) (n i : Nat) :
    ((if b = true then 1 else 0) + 2 * n).testBit i = if i = 0 then b else n.testBit (i - 1) := by
  have hbit : (if b = true then 1 else 0) + 2 * n = Nat.bit b n := by
    cases b <;> simp [Nat.bit_val, Nat.add_comm]
  rw [hbit]
  cases i with
  | zero => simp
  | succ i => simp [Nat.testBit_bit_succ]

theorem testBit_charMask (test : Char → Bool) (text : List Char) (i : Nat) :
    (charMask test text).testBit i = text[i]?.any test := by
  induction text generalizing i with
  | nil => simp [charMask]
  | cons c rest ih =>
      rw [charMask, testBit_add_two_mul]
      cases i with
      | zero => simp
      | succ i => simp [ih]

theorem testBit_positionMask (test : Option Char → Option Char → Bool) (before : Option Char)
    (text : List Char) (i : Nat) :
    (positionMask test before text).testBit i =
      (decide (i ≤ text.length) && test ((text.take i).getLast?.or before) text[i]?) := by
  induction text generalizing before i with
  | nil =>
      have hzero := testBit_add_two_mul (test before none) 0 i
      rw [Nat.mul_zero, Nat.add_zero] at hzero
      rw [positionMask, hzero]
      cases i <;> simp
  | cons c rest ih =>
      rw [positionMask, testBit_add_two_mul]
      cases i with
      | zero => simp
      | succ i =>
          rw [if_neg (Nat.succ_ne_zero i), Nat.add_sub_cancel, ih]
          simp [List.getLast?_cons]

/-! ## Expressions -/

theorem computes_empty (length : Nat) : Computes length (fun positions => positions) Eq where
  forward i j hi hij := by omega
  testBit_iff positions _ j := by simp

theorem computes_step (set : CharSet) (text : List Char) :
    Computes text.length (fun positions => (positions &&& charMask set.contains text) <<< 1)
      ((Expr.oneOf set).Matches text) where
  forward := by
    rintro i j hi ⟨rfl, c, hget, _⟩
    have hlt := (List.getElem?_eq_some_iff.1 hget).1
    omega
  testBit_iff positions _ j := by
    rw [Nat.testBit_shiftLeft, Nat.testBit_and, testBit_charMask]
    simp only [Bool.and_eq_true, decide_eq_true_eq, Option.any_eq_true]
    constructor
    · rintro ⟨hpos, hbit, c, hget, hset⟩
      exact ⟨j - 1, hbit, by omega, c, hget, hset⟩
    · rintro ⟨i, hbit, rfl, c, hget, hset⟩
      exact ⟨by omega, hbit, c, hget, hset⟩

theorem computes_guard (condition : Look) (text : List Char) :
    Computes text.length
      (fun positions => positions &&&
        positionMask (fun before after => condition.holds before after) none text)
      ((Expr.look condition).Matches text) where
  forward := by
    rintro i j hi ⟨rfl, _⟩
    exact ⟨le_rfl, hi⟩
  testBit_iff positions hwithin j := by
    rw [Nat.testBit_and, testBit_positionMask, Option.or_none]
    simp only [Bool.and_eq_true, decide_eq_true_eq]
    constructor
    · rintro ⟨hbit, _, hholds⟩
      exact ⟨j, hbit, rfl, hholds⟩
    · rintro ⟨i, hbit, rfl, hholds⟩
      exact ⟨hbit, hwithin i hbit, hholds⟩

namespace Expr

/-- The matcher computes what an expression matches. -/
theorem computes_ends (text : List Char) (e : Expr) :
    Computes text.length ((e.locate text).ends text.length) (e.Matches text) := by
  induction e with
  | empty => exact computes_empty text.length
  | oneOf set => exact computes_step set text
  | look condition => exact computes_guard condition text
  | group number body ih => exact ih
  | seq first second hfirst hsecond => exact hfirst.seq hsecond
  | alt left right hleft hright => exact hleft.alt hright
  | times body least most reluctant ih =>
      cases most with
      | none =>
          refine (ih.times_unbounded least).congr fun i j _ => ?_
          simp [Matches]
      | some bound =>
          refine (ih.times least (bound - least)).congr fun i j _ => ?_
          have hmost : ∀ count, count ≤ least + (bound - least) ↔ count ≤ max least bound := by
            omega
          simp [Matches, hmost]

theorem matchesSomewhere_iff (e : Expr) (text : List Char) :
    e.matchesSomewhere text = true ↔ ∃ i j, i ≤ text.length ∧ e.Matches text i j := by
  have hall : ∀ i, (Nat.pow 2 (text.length + 1) - 1).testBit i = true ↔ i ≤ text.length := by
    intro i
    rw [Nat.pow_eq, Nat.testBit_two_pow_sub_one, decide_eq_true_eq, Nat.lt_succ_iff]
  have hends := (e.computes_ends text).testBit_iff _ fun i hi => (hall i).1 hi
  unfold matchesSomewhere
  rw [decide_eq_true_eq]
  constructor
  · intro hne
    obtain ⟨j, hj⟩ := Nat.exists_testBit_of_ne_zero hne
    obtain ⟨i, hi, hij⟩ := (hends j).1 hj
    exact ⟨i, j, (hall i).1 hi, hij⟩
  · rintro ⟨i, j, hi, hij⟩ hzero
    have hj := (hends j).2 ⟨i, (hall i).2 hi, hij⟩
    rw [hzero, Nat.zero_testBit] at hj
    cases hj

end Expr

end DependencyRules
