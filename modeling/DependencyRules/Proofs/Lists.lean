import Mathlib.Data.List.FinRange
import Mathlib.Data.List.Forall2
import Mathlib.Data.List.Lex
import Mathlib.Logic.Equiv.Fin.Basic

/-!
# Lists and vectors

Facts about lists and vectors of any values that the theory of graphs, rules and documents rests
on.
-/

namespace DependencyRules

/-! ## Members -/

theorem exists_mem_ite {α : Type} {p : Prop} [Decidable p] {item : α} {P : α → Prop} :
    (∃ a ∈ (if p then [item] else []), P a) ↔ p ∧ P item := by
  by_cases h : p <;> simp [h]

theorem exists_mem_append {α : Type} {items others : List α} {P : α → Prop} :
    (∃ a ∈ items ++ others, P a) ↔ (∃ a ∈ items, P a) ∨ ∃ a ∈ others, P a := by
  simp only [List.mem_append, or_and_right, exists_or]

theorem exists_mem_flatMap {α β : Type} {items : List α} {f : α → List β} {P : β → Prop} :
    (∃ b ∈ items.flatMap f, P b) ↔ ∃ a ∈ items, ∃ b ∈ f a, P b := by
  simp only [List.mem_flatMap]
  constructor
  · rintro ⟨b, ⟨a, ha, hb⟩, hP⟩
    exact ⟨a, ha, b, hb, hP⟩
  · rintro ⟨a, ha, b, hb, hP⟩
    exact ⟨b, ⟨a, ha, hb⟩, hP⟩

theorem not_isEmpty_or_any {α : Type} {relevant : List α} {ok : α → Bool} :
    ¬ (relevant.isEmpty || relevant.any ok) = true ↔
      (∃ a, a ∈ relevant) ∧ ∀ a ∈ relevant, ok a = false := by
  rw [Bool.not_eq_true, Bool.or_eq_false_iff, List.isEmpty_eq_false_iff_exists_mem,
    List.any_eq_false]
  simp only [Bool.not_eq_true]

theorem flatMap_filter {α β : Type} (p : α → Bool) (f : α → List β) (items : List α) :
    (items.filter p).flatMap f = items.flatMap fun a => if p a then f a else [] := by
  induction items with
  | nil => rfl
  | cons a rest ih =>
      rw [List.flatMap_cons, ← ih]
      by_cases ha : p a = true
      · rw [List.filter_cons_of_pos ha, List.flatMap_cons, if_pos ha]
      · rw [List.filter_cons_of_neg ha, if_neg ha, List.nil_append]

theorem forall₂_iff_map_eq {α β : Type} {R : α → α → Prop} {f : α → β}
    (h : ∀ a b, R a b ↔ f b = f a) {items others : List α} :
    List.Forall₂ R items others ↔ others.map f = items.map f := by
  induction items generalizing others with
  | nil => simp
  | cons a rest ih =>
      cases others with
      | nil => simp
      | cons b others => simp [h, ih]

/-! ## First elements -/

theorem findSome?_cons_eq_or {α β : Type} {f : α → Option β} {a : α} {rest : List α} :
    (a :: rest).findSome? f = (f a).or (rest.findSome? f) := by
  cases h : f a <;> simp [h]

/-- In a list in strict order, the first element with a property is the least one. -/
theorem find?_eq_some_iff_of_pairwise {α : Type} {R : α → α → Prop} [Std.Asymm R] {l : List α}
    (hsorted : l.Pairwise R) {p : α → Bool} {a : α} :
    l.find? p = some a ↔ a ∈ l ∧ p a = true ∧ ∀ b ∈ l, R b a → p b = false := by
  rw [List.find?_eq_some_iff_append]
  constructor
  · rintro ⟨ha, before, after, rfl, hbefore⟩
    refine ⟨by simp, ha, fun b hb hba => ?_⟩
    rw [List.pairwise_append, List.pairwise_cons] at hsorted
    rcases List.mem_append.1 hb with hb' | hb'
    · simpa using hbefore b hb'
    · rcases List.mem_cons.1 hb' with rfl | hb'
      · exact absurd hba (Std.Asymm.asymm _ _ hba)
      · exact absurd hba (Std.Asymm.asymm _ _ (hsorted.2.1.1 b hb'))
  · rintro ⟨hmem, ha, hleast⟩
    obtain ⟨before, after, rfl⟩ := List.append_of_mem hmem
    refine ⟨ha, before, after, rfl, fun b hb => ?_⟩
    rw [List.pairwise_append] at hsorted
    have hba : R b a := hsorted.2.2 b hb a (List.mem_cons_self ..)
    simpa using hleast b (List.mem_append_left _ hb) hba

/-! ## The lexicographic order -/

theorem append_lt_append_of_lt {before before' rest rest' : List Nat}
    (hlength : before.length = before'.length) (h : before < before') :
    before ++ rest < before' ++ rest' := by
  induction h with
  | nil => simp at hlength
  | rel hlt => exact .rel hlt
  | cons _ ih => exact .cons (ih (by simpa using hlength))

theorem concat_lt_concat {before : List Nat} {last last' : Nat} (h : last < last') :
    before ++ [last] < before ++ [last'] :=
  List.Lex.append_left _ (.rel h) before

theorem concat_le_concat {before before' : List Nat} {last last' : Nat}
    (hlength : before.length = before'.length) (hbefore : before ≤ before')
    (hlast : last ≤ last') : before ++ [last] ≤ before' ++ [last'] := by
  rcases hbefore.lt_or_eq with hlt | rfl
  · exact (append_lt_append_of_lt hlength hlt).le
  · rcases hlast.lt_or_eq with hlt | rfl
    · exact (concat_lt_concat hlt).le
    · exact le_rfl

/-! ## Functions that may fail -/

theorem mem_of_mapM_eq_some {α β : Type} {f : α → Option β} {as : List α} {bs : List β}
    (h : as.mapM f = some bs) {b : β} (hb : b ∈ bs) : ∃ a ∈ as, f a = some b := by
  induction as generalizing bs with
  | nil =>
      cases h
      cases hb
  | cons a as ih =>
      rw [List.mapM_cons] at h
      obtain ⟨first, hfirst, h⟩ := Option.bind_eq_some_iff.1 h
      obtain ⟨others, hothers, h⟩ := Option.bind_eq_some_iff.1 h
      cases h
      rcases List.mem_cons.1 hb with rfl | hb
      · exact ⟨a, List.mem_cons_self, hfirst⟩
      · obtain ⟨found, hfound, hb⟩ := ih hothers hb
        exact ⟨found, List.mem_cons_of_mem _ hfound, hb⟩

theorem mapM_map_eq_some {α β γ : Type} {f : β → Option γ} (enc : α → β) {g : α → γ}
    (h : ∀ item, f (enc item) = some (g item)) (items : List α) :
    (items.map enc).mapM f = some (items.map g) := by
  induction items with
  | nil => rfl
  | cons item rest ih =>
      rw [List.map_cons, List.mapM_cons, h, ih]
      rfl

/-- Where each step on an encoded state has a result, and that is the state after a step on states,
so it is with all steps. -/
theorem foldlM_map_eq_some {α β σ τ : Type} {f : σ → β → Option σ} (enc : τ → σ) (code : α → β)
    {step : τ → α → τ} (h : ∀ state item, f (enc state) (code item) = some (enc (step state item)))
    (items : List α) (state : τ) :
    (items.map code).foldlM f (enc state) = some (enc (items.foldl step state)) := by
  induction items generalizing state with
  | nil => rfl
  | cons item rest ih =>
      rw [List.map_cons, List.foldlM_cons, h]
      exact ih (step state item)

/-! ## Values at positions -/

theorem get_set_fin {α : Type} {n : Nat} (values : Vector α n) (i j : Fin n) (value : α) :
    (values.set i value i.isLt).get j = if j = i then value else values.get j := by
  show (values.set i value i.isLt)[j.val] = if j = i then value else values[j.val]
  simp only [Vector.getElem_set, Fin.ext_iff, eq_comm (a := i.val)]

theorem toList_eq_ofFn {α : Type} {n : Nat} (values : Vector α n) :
    values.toList = List.ofFn fun i : Fin n => values.get i :=
  List.ext_getElem (by simp) (by simp [Vector.get])

theorem map_eq_map_of_get {α β : Type} {n : Nat} {values values' : Vector α n} {f : α → β}
    (h : ∀ i, f (values.get i) = f (values'.get i)) : values.map f = values'.map f := by
  apply Vector.ext
  intro i hi
  rw [Vector.getElem_map, Vector.getElem_map]
  exact h ⟨i, hi⟩

theorem ofFn_perm_of_equiv {α : Type} {n m : Nat} (σ : Fin n ≃ Fin m) {f : Fin n → α}
    {g : Fin m → α} (h : ∀ i, g (σ i) = f i) : (List.ofFn g).Perm (List.ofFn f) := by
  obtain rfl : n = m := Fin.equiv_iff_eq.1 ⟨σ⟩
  have hf : f = g ∘ σ := funext fun i => (h i).symm
  rw [hf]
  exact (Equiv.Perm.ofFn_comp_perm σ g).symm

end DependencyRules
