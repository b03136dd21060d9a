import DependencyRules.Proofs.Lists
import DependencyRules.Proofs.RuleSets
import Mathlib

/-!
# The first error

Checks are made one after the other, and the first one that fails decides. What counts as a mistake,
and where, is said without regard to the order of the checks; a search is then right when it finds
the mistake at the first place.
-/

namespace DependencyRules

section Errors

variable {ε α β : Type}

/-- The error that a computation ends in, if it ends in one. -/
def errorOf? : Except ε α → Option ε
  | .ok _ => none
  | .error error => some error

theorem errorOf?_eq_some_iff {x : Except ε α} {error : ε} :
    errorOf? x = some error ↔ x = .error error := by
  cases x <;> simp [errorOf?]

theorem errorOf?_eq_none_iff {x : Except ε α} : errorOf? x = none ↔ ∃ a, x = .ok a := by
  cases x <;> simp [errorOf?]

theorem errorOf?_bind {x : Except ε α} {f : α → Except ε β} {later : Option ε}
    (h : ∀ a, x = .ok a → errorOf? (f a) = later) :
    errorOf? (x >>= f) = (errorOf? x).or later := by
  cases x with
  | error error => rfl
  | ok a => exact h a rfl

theorem errorOf?_bind_pure (x : Except ε α) (f : α → β) :
    errorOf? (x >>= fun a => pure (f a)) = errorOf? x := by
  cases x <;> rfl

theorem errorOf?_map (x : Except ε α) (f : α → β) : errorOf? (x.map f) = errorOf? x := by
  cases x <;> rfl

theorem errorOf?_mapError {ε' : Type} (x : Except ε α) (f : ε → ε') :
    errorOf? (x.mapError f) = (errorOf? x).map f := by
  cases x <;> rfl

theorem mapError_eq_ok_iff {ε' : Type} {x : Except ε α} {f : ε → ε'} {a : α} :
    x.mapError f = .ok a ↔ x = .ok a := by
  cases x <;> simp [Except.mapError]

theorem errorOf?_mapM (f : α → Except ε β) (items : List α) :
    errorOf? (items.mapM f) = items.findSome? fun a => errorOf? (f a) := by
  induction items with
  | nil => rfl
  | cons a rest ih =>
      rw [List.mapM_cons, findSome?_cons_eq_or]
      refine errorOf?_bind fun b _ => ?_
      rw [errorOf?_bind_pure, ih]

end Errors

/-! ## Searches for the first mistake -/

/-- A search finds the mistake at the first place, and nothing where there is no mistake. At every
place there is one mistake at most. -/
structure FindsFirst {κ ε : Type} [LinearOrder κ] (found : Option ε) (mistake : κ → ε → Prop) :
    Prop where
  nothing : found = none → ∀ place error, ¬ mistake place error
  first : ∀ error, found = some error → ∃ place, mistake place error ∧
    ∀ other error', mistake other error' → place ≤ other
  unique : ∀ {place error error'}, mistake place error → mistake place error' → error = error'

namespace FindsFirst

variable {κ ε α : Type} [LinearOrder κ] {found later : Option ε} {mistake other : κ → ε → Prop}

theorem eq_none_iff (h : FindsFirst found mistake) :
    found = none ↔ ∀ place error, ¬ mistake place error := by
  refine ⟨h.nothing, fun hnot => ?_⟩
  cases hfound : found with
  | none => rfl
  | some error =>
      obtain ⟨place, hmistake, _⟩ := h.first error hfound
      exact (hnot place error hmistake).elim

theorem eq_some_iff (h : FindsFirst found mistake) {error : ε} :
    found = some error ↔ ∃ place, mistake place error ∧
      ∀ other error', mistake other error' → place ≤ other := by
  refine ⟨h.first error, fun ⟨place, hmistake, hleast⟩ => ?_⟩
  cases hfound : found with
  | none => exact (h.nothing hfound place error hmistake).elim
  | some error' =>
      obtain ⟨place', hmistake', hleast'⟩ := h.first error' hfound
      have hplace : place = place' :=
        le_antisymm (hleast place' error' hmistake') (hleast' place error hmistake)
      subst hplace
      rw [h.unique hmistake hmistake']

theorem congr (h : FindsFirst found mistake)
    (hiff : ∀ place error, mistake place error ↔ other place error) : FindsFirst found other := by
  have heq : mistake = other := funext fun place => funext fun error => propext (hiff place error)
  exact heq ▸ h

/-- A single check. -/
theorem check (failed : Prop) [Decidable failed] (place : κ) (error : ε) :
    FindsFirst (if failed then some error else none)
      fun other error' => other = place ∧ error' = error ∧ failed where
  nothing h := by
    rintro _ _ ⟨_, _, hfailed⟩
    simp [hfailed] at h
  first error' h := by
    by_cases hfailed : failed
    · rw [if_pos hfailed, Option.some.injEq] at h
      exact ⟨place, ⟨rfl, h.symm, hfailed⟩, fun _ _ hother => hother.1.ge⟩
    · simp [hfailed] at h
  unique := by
    rintro _ _ _ ⟨_, rfl, _⟩ ⟨_, rfl, _⟩
    rfl

/-- A search that goes on at later places. -/
theorem or (h : FindsFirst found mistake) (hlater : FindsFirst later other)
    (hlt : ∀ {place error place' error'}, mistake place error → other place' error' →
      place < place') :
    FindsFirst (found.or later) fun place error => mistake place error ∨ other place error where
  nothing hnone := by
    obtain ⟨hfound, hrest⟩ := Option.or_eq_none_iff.1 hnone
    exact fun place error hor => hor.elim (h.nothing hfound place error)
      (hlater.nothing hrest place error)
  first error hsome := by
    cases hfound : found with
    | none =>
        rw [hfound, Option.none_or] at hsome
        obtain ⟨place, hmistake, hleast⟩ := hlater.first error hsome
        refine ⟨place, .inr hmistake, fun place' error' hor => ?_⟩
        exact hor.elim (fun hearly => (h.nothing hfound _ _ hearly).elim) (hleast place' error')
    | some error' =>
        rw [hfound, Option.some_or] at hsome
        obtain ⟨place, hmistake, hleast⟩ := h.first error (hfound.trans hsome)
        refine ⟨place, .inl hmistake, fun place' error' hor => ?_⟩
        exact hor.elim (hleast place' error') fun hlate => (hlt hmistake hlate).le
  unique := by
    rintro place error error' (hearly | hlate) (hearly' | hlate')
    · exact h.unique hearly hearly'
    · exact (lt_irrefl _ (hlt hearly hlate')).elim
    · exact (lt_irrefl _ (hlt hearly' hlate)).elim
    · exact hlater.unique hlate hlate'

/-- A search that is made only where a check before it does not fail. -/
theorem afterCheck (h : FindsFirst found mistake) (failed : Prop) [Decidable failed] (place : κ)
    (error : ε) (hlt : ∀ {other error'}, mistake other error' → place < other) :
    FindsFirst (if failed then some error else found) fun other error' =>
      (other = place ∧ error' = error ∧ failed) ∨ mistake other error' := by
  have hor : (if failed then some error else found) =
      (if failed then some error else none).or found := by
    split <;> rfl
  rw [hor]
  refine (check failed place error).or h ?_
  rintro _ _ _ _ ⟨rfl, _⟩ hmistake
  exact hlt hmistake

/-- The same search, with its mistakes worded in another way. -/
theorem map {ε' : Type} (h : FindsFirst found mistake) (f : ε → ε') :
    FindsFirst (found.map f) fun place error' =>
      ∃ error, mistake place error ∧ f error = error' where
  nothing hnone := by
    rintro place _ ⟨error, hmistake, _⟩
    exact h.nothing (Option.map_eq_none_iff.1 hnone) place error hmistake
  first error' hsome := by
    obtain ⟨error, hfound, rfl⟩ := Option.map_eq_some_iff.1 hsome
    obtain ⟨place, hmistake, hleast⟩ := h.first error hfound
    refine ⟨place, ⟨error, hmistake, rfl⟩, ?_⟩
    rintro place' _ ⟨error', hmistake', _⟩
    exact hleast place' error' hmistake'
  unique := by
    rintro place _ _ ⟨error, hmistake, rfl⟩ ⟨error', hmistake', rfl⟩
    rw [h.unique hmistake hmistake']

/-- The same search, with its places among others. -/
theorem moved {κ' : Type} [LinearOrder κ'] (h : FindsFirst found mistake) {move : κ → κ'}
    (hmove : StrictMono move) :
    FindsFirst found fun place error => ∃ origin, move origin = place ∧ mistake origin error where
  nothing hnone := fun _ error ⟨origin, _, hmistake⟩ => h.nothing hnone origin error hmistake
  first error hsome := by
    obtain ⟨origin, hmistake, hleast⟩ := h.first error hsome
    refine ⟨move origin, ⟨origin, rfl, hmistake⟩, ?_⟩
    rintro _ error' ⟨origin', rfl, hmistake'⟩
    exact hmove.monotone (hleast origin' error' hmistake')
  unique := by
    rintro _ error error' ⟨origin, rfl, hmistake⟩ ⟨origin', horigin, hmistake'⟩
    rw [hmove.injective horigin] at hmistake'
    exact h.unique hmistake hmistake'

theorem strictMono_toLex (first : Nat) : StrictMono fun place : κ => toLex (first, place) :=
  fun _ _ hlt => Prod.Lex.toLex_lt_toLex.2 (.inr ⟨rfl, hlt⟩)

theorem strictMono_succ :
    StrictMono fun place : Nat ×ₗ κ => toLex ((ofLex place).1 + 1, (ofLex place).2) := by
  intro place other hlt
  rcases Prod.Lex.lt_iff.1 hlt with hfirst | ⟨hfirst, hrest⟩
  · exact Prod.Lex.toLex_lt_toLex.2 (.inl (Nat.succ_lt_succ hfirst))
  · exact Prod.Lex.toLex_lt_toLex.2 (.inr ⟨congrArg Nat.succ hfirst, hrest⟩)

/-- A search through a list, item by item. -/
theorem findSome? {search : α → Option ε} {mistakeAt : α → κ → ε → Prop}
    (h : ∀ item, FindsFirst (search item) (mistakeAt item)) (items : List α) :
    FindsFirst (items.findSome? search) fun (place : Nat ×ₗ κ) error => ∃ position item inner,
      place = toLex (position, inner) ∧ items[position]? = some item ∧
        mistakeAt item inner error := by
  induction items with
  | nil => exact ⟨by simp, by simp, by simp⟩
  | cons a rest ih =>
      rw [findSome?_cons_eq_or]
      refine (((h a).moved (strictMono_toLex 0)).or (ih.moved strictMono_succ) ?_).congr
        fun place error => ?_
      · rintro _ _ _ _ ⟨_, rfl, _⟩ ⟨_, rfl, _⟩
        exact Prod.Lex.toLex_lt_toLex.2 (.inl (Nat.succ_pos _))
      · constructor
        · rintro (⟨inner, rfl, hmistake⟩ | ⟨_, rfl, position, item, inner, rfl, hget, hmistake⟩)
          · exact ⟨0, a, inner, rfl, rfl, hmistake⟩
          · exact ⟨position + 1, item, inner, rfl, hget, hmistake⟩
        · rintro ⟨position, item, inner, rfl, hget, hmistake⟩
          cases position with
          | zero =>
              cases hget
              exact .inl ⟨inner, rfl, hmistake⟩
          | succ position => exact .inr ⟨_, rfl, position, item, inner, rfl, hget, hmistake⟩

/-- A search through a list that may look at the position of an item. -/
theorem zipIdx {search : α × Nat → Option ε} {mistakeAt : α → Nat → κ → ε → Prop}
    (h : ∀ item position, FindsFirst (search (item, position)) (mistakeAt item position))
    (items : List α) :
    FindsFirst (items.zipIdx.findSome? search) fun (place : Nat ×ₗ κ) error =>
      ∃ position item inner, place = toLex (position, inner) ∧ items[position]? = some item ∧
        mistakeAt item position inner error := by
  refine (findSome? (fun item : α × Nat => h item.1 item.2) items.zipIdx).congr
    fun place error => ?_
  simp only [List.getElem?_zipIdx, Option.map_eq_some_iff, Nat.zero_add]
  constructor
  · rintro ⟨position, _, inner, rfl, ⟨item, hget, rfl⟩, hmistake⟩
    exact ⟨position, item, inner, rfl, hget, hmistake⟩
  · rintro ⟨position, item, inner, rfl, hget, hmistake⟩
    exact ⟨position, _, inner, rfl, ⟨item, hget, rfl⟩, hmistake⟩

/-- A search through a list where an item has one mistake at most. -/
theorem atItem (search : α → Option ε) (items : List α) :
    FindsFirst (items.findSome? search) fun (position : Nat) error =>
      ∃ item, items[position]? = some item ∧ search item = some error := by
  have hitem : ∀ item, FindsFirst (search item) fun (_ : Unit) error => search item = some error :=
    fun item => ⟨by simp +contextual, fun _ h => ⟨(), h, fun _ _ _ => le_rfl⟩, by simp +contextual⟩
  have hfst : StrictMono fun place : Nat ×ₗ Unit => (ofLex place).1 := by
    intro place other hlt
    rcases Prod.Lex.lt_iff.1 hlt with hfirst | ⟨_, hrest⟩
    · exact hfirst
    · exact (lt_irrefl _ hrest).elim
  refine ((findSome? hitem items).moved hfst).congr fun position error => ?_
  constructor
  · rintro ⟨_, rfl, position, item, _, rfl, hget, hsome⟩
    exact ⟨item, hget, hsome⟩
  · rintro ⟨item, hget, hsome⟩
    exact ⟨toLex (position, ()), rfl, position, item, (), rfl, hget, hsome⟩

/-- A search that is followed by searches in later sweeps. -/
theorem sweep (h : FindsFirst found mistake) (number : Nat)
    {other : Nat ×ₗ κ → ε → Prop} (hlater : FindsFirst later other)
    (hlt : ∀ {place error}, other place error → number < (ofLex place).1) :
    FindsFirst (found.or later) fun place error =>
      (∃ origin, toLex (number, origin) = place ∧ mistake origin error) ∨ other place error := by
  refine (h.moved (strictMono_toLex number)).or hlater ?_
  rintro _ _ place error' ⟨origin, rfl, _⟩ hother
  exact Prod.Lex.lt_iff.2 (.inl (hlt hother))

end FindsFirst

end DependencyRules
