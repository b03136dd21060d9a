import DependencyRules.Rule.Prepared
import Mathlib.Data.List.Forall2
import Mathlib.Data.List.Perm.Basic

/-!
# Accepted rule sets

A rule set is accepted when it has no fault and all its rules can be read. Preparing it keeps its
rules in their order, and an accepted rule set is accepted in any other order too.
-/

namespace DependencyRules

section Results

variable {ε α β : Type}

theorem bind_eq_ok {x : Except ε α} {f : α → Except ε β} {result : β}
    (h : x >>= f = .ok result) : ∃ a, x = .ok a ∧ f a = .ok result := by
  cases x with
  | error e => cases h
  | ok a => exact ⟨a, rfl, h⟩

theorem bind_of_eq_ok {x : Except ε α} {f : α → Except ε β} {a : α} {result : β}
    (hx : x = .ok a) (hf : f a = .ok result) : x >>= f = .ok result := by
  rw [hx]
  exact hf

theorem mapM_eq_ok_iff {f : α → Except ε β} {items : List α} {results : List β} :
    items.mapM f = .ok results ↔ List.Forall₂ (fun a b => f a = .ok b) items results := by
  constructor
  · intro h
    induction items generalizing results with
    | nil =>
        cases h
        exact .nil
    | cons a rest ih =>
        rw [List.mapM_cons] at h
        obtain ⟨b, hb, h⟩ := bind_eq_ok h
        obtain ⟨bs, hbs, h⟩ := bind_eq_ok h
        cases h
        exact .cons hb (ih hbs)
  · intro h
    induction h with
    | nil => rfl
    | cons hb _ ih =>
        rw [List.mapM_cons]
        exact bind_of_eq_ok hb (bind_of_eq_ok ih rfl)

/-- Results for the items of a list by position, where the position makes no difference. -/
theorem mapM_zipIdx_eq_ok_iff {f : α × Nat → Except ε β} {R : α → β → Prop}
    (hf : ∀ a position b, f (a, position) = .ok b ↔ R a b) {items : List α} {results : List β} :
    items.zipIdx.mapM f = .ok results ↔ List.Forall₂ R items results := by
  have hresults : List.Forall₂ R (items.zipIdx.map Prod.fst) results ↔
      List.Forall₂ R items results := by rw [List.zipIdx_map_fst]
  rw [mapM_eq_ok_iff, ← hresults, List.forall₂_map_left_iff]
  constructor
  · exact List.Forall₂.imp fun (indexed : α × Nat) b => (hf indexed.1 indexed.2 b).1
  · exact List.Forall₂.imp fun (indexed : α × Nat) b => (hf indexed.1 indexed.2 b).2

end Results

/-! ## Reading a rule -/

theorem readPattern_of_label {label other field : String} {text : Option String}
    {pattern : Option Pattern} (h : readPattern label field text = .ok pattern) :
    readPattern other field text = .ok pattern := by
  cases text with
  | none => exact h
  | some text =>
      unfold readPattern at h ⊢
      cases hpattern : Pattern.ofText? text with
      | none => simp [hpattern] at h
      | some read => simpa [hpattern] using h

theorem readClauses_of_label {label other field : String} {wanted unwanted : Option String}
    {clauses : TextClauses} (h : readClauses label field wanted unwanted = .ok clauses) :
    readClauses other field wanted unwanted = .ok clauses := by
  obtain ⟨read, hread, h⟩ := bind_eq_ok h
  obtain ⟨readNot, hreadNot, h⟩ := bind_eq_ok h
  exact bind_of_eq_ok (readPattern_of_label hread)
    (bind_of_eq_ok (readPattern_of_label hreadNot) h)

namespace Rule

/-- What a rule is called in errors makes no difference to what is read. -/
theorem prepare_of_label {rule : Rule} {list : RuleList} {label : String} (other : String)
    {prepared : PreparedRule} (h : rule.prepare list label = .ok prepared) :
    rule.prepare list other = .ok prepared := by
  obtain ⟨source, hsource, h⟩ := bind_eq_ok h
  obtain ⟨target, htarget, h⟩ := bind_eq_ok h
  obtain ⟨license, hlicense, h⟩ := bind_eq_ok h
  obtain ⟨exoticRequire, hexoticRequire, h⟩ := bind_eq_ok h
  obtain ⟨via, hvia, h⟩ := bind_eq_ok h
  refine bind_of_eq_ok (readClauses_of_label hsource) ?_
  refine bind_of_eq_ok (readClauses_of_label htarget) ?_
  refine bind_of_eq_ok (readClauses_of_label hlicense) ?_
  refine bind_of_eq_ok (readClauses_of_label hexoticRequire) ?_
  exact bind_of_eq_ok (readClauses_of_label hvia) h

/-- A rule reads as a prepared one, whatever it is called in errors. -/
def ReadsAs (rule : Rule) (list : RuleList) (prepared : PreparedRule) : Prop :=
  ∀ label, rule.prepare list label = .ok prepared

theorem prepare_eq_ok_iff {rule : Rule} {list : RuleList} {label : String}
    {prepared : PreparedRule} :
    rule.prepare list label = .ok prepared ↔ rule.ReadsAs list prepared :=
  ⟨fun h other => prepare_of_label other h, fun h => h label⟩

/-- Reading the patterns of a rule keeps the rule as it is written. -/
theorem rule_of_prepare {rule : Rule} {list : RuleList} {label : String}
    {prepared : PreparedRule} (h : rule.prepare list label = .ok prepared) :
    prepared.rule = rule := by
  obtain ⟨source, _, h⟩ := bind_eq_ok h
  obtain ⟨target, _, h⟩ := bind_eq_ok h
  obtain ⟨license, _, h⟩ := bind_eq_ok h
  obtain ⟨exoticRequire, _, h⟩ := bind_eq_ok h
  obtain ⟨via, _, h⟩ := bind_eq_ok h
  cases h
  rfl

/-- A rule without a fault does not speak about orphans and about reachability at once. -/
theorem wantedOrphan_eq_none {rule : Rule} (h : rule.fault? = none)
    (hreach : rule.target.reachable.isSome = true) : rule.wantedOrphan = none := by
  unfold fault? at h
  split at h
  · cases h
  · rename_i hboth
    simpa [hreach] using hboth

end Rule

/-! ## Reading a rule set -/

namespace RuleSet

theorem firstFault?_eq_none_iff {list : String} {fault? : Rule → Option RuleFault}
    {rules : List Rule} :
    firstFault? list fault? rules = none ↔ ∀ rule ∈ rules, fault? rule = none := by
  unfold firstFault?
  rw [List.findSome?_eq_none_iff]
  simp only [Prod.forall, Option.map_eq_none_iff, List.mem_zipIdx_iff_getElem?]
  constructor
  · intro h rule hmem
    obtain ⟨position, hget⟩ := List.getElem?_of_mem hmem
    exact h rule position hget
  · exact fun h rule position hget => h rule (List.mem_of_getElem? hget)

theorem fault?_eq_none_iff {ruleSet : RuleSet} :
    ruleSet.fault? = none ↔
      (∀ rule ∈ ruleSet.forbidden, rule.fault? = none) ∧
      (∀ rule ∈ ruleSet.allowed, rule.allowedFault? = none) ∧
      ruleSet.options.bind optionFault? = none := by
  rw [fault?, Option.or_eq_none_iff, Option.or_eq_none_iff, firstFault?_eq_none_iff,
    firstFault?_eq_none_iff, Option.map_eq_none_iff]

/-- A rule set is accepted when it has no fault and each of its rules can be read. -/
theorem prepare_eq_ok_iff {ruleSet : RuleSet} {rules : PreparedRuleSet} :
    ruleSet.prepare = .ok rules ↔
      ruleSet.fault? = none ∧
      List.Forall₂ (fun rule prepared => rule.ReadsAs .forbidden prepared) ruleSet.forbidden
        rules.forbidden ∧
      List.Forall₂ (fun rule prepared => ∃ read, rule.ReadsAs .allowed read ∧
        prepared = { read with severity := ruleSet.allowedSeverity }) ruleSet.allowed
        rules.allowed ∧
      rules.allowedSeverity = ruleSet.allowedSeverity := by
  have hforbidden : ∀ results, (ruleSet.forbidden.zipIdx.mapM fun indexed =>
      indexed.1.prepare .forbidden (indexed.1.label "forbidden" indexed.2)) = .ok results ↔
        List.Forall₂ (fun rule prepared => rule.ReadsAs .forbidden prepared) ruleSet.forbidden
          results :=
    fun results => mapM_zipIdx_eq_ok_iff fun rule position prepared => Rule.prepare_eq_ok_iff
  have hallowed : ∀ results, (ruleSet.allowed.zipIdx.mapM fun indexed => do
      let prepared ← indexed.1.prepare .allowed (indexed.1.label "allowed" indexed.2)
      return { prepared with severity := ruleSet.allowedSeverity }) = .ok results ↔
        List.Forall₂ (fun rule prepared => ∃ read, rule.ReadsAs .allowed read ∧
          prepared = { read with severity := ruleSet.allowedSeverity }) ruleSet.allowed
          results := by
    refine fun results => mapM_zipIdx_eq_ok_iff fun rule position prepared => ⟨fun h => ?_, ?_⟩
    · obtain ⟨read, hread, h⟩ := bind_eq_ok h
      cases h
      exact ⟨read, Rule.prepare_eq_ok_iff.1 hread, rfl⟩
    · rintro ⟨read, hread, rfl⟩
      exact bind_of_eq_ok (hread _) rfl
  constructor
  · intro h
    unfold prepare at h
    cases hfault : ruleSet.fault? with
    | some error =>
        rw [hfault] at h
        cases h
    | none =>
        rw [hfault] at h
        obtain ⟨forbidden, hread, h⟩ := bind_eq_ok h
        obtain ⟨allowed, hreadAllowed, h⟩ := bind_eq_ok h
        cases h
        exact ⟨rfl, (hforbidden _).1 hread, (hallowed _).1 hreadAllowed, rfl⟩
  · rintro ⟨hfault, hread, hreadAllowed, hseverity⟩
    unfold prepare
    rw [hfault]
    refine bind_of_eq_ok ((hforbidden _).2 hread) (bind_of_eq_ok ((hallowed _).2 hreadAllowed) ?_)
    rw [← hseverity]
    rfl

theorem forbidden_of_prepare {ruleSet : RuleSet} {rules : PreparedRuleSet}
    (h : ruleSet.prepare = .ok rules) :
    rules.forbidden.map PreparedRule.rule = ruleSet.forbidden := by
  obtain ⟨_, hforbidden, _⟩ := prepare_eq_ok_iff.1 h
  rw [← List.forall₂_eq_eq_eq, List.forall₂_map_left_iff]
  exact (hforbidden.imp fun _ _ hreads => Rule.rule_of_prepare (hreads "")).flip

/-- The forbidden rules of an accepted rule set have no fault. -/
theorem fault?_forbidden_eq_none {ruleSet : RuleSet} {rules : PreparedRuleSet}
    (h : ruleSet.prepare = .ok rules) {rule : PreparedRule} (hmem : rule ∈ rules.forbidden) :
    rule.rule.fault? = none := by
  obtain ⟨hfault, _⟩ := prepare_eq_ok_iff.1 h
  refine (fault?_eq_none_iff.1 hfault).1 rule.rule ?_
  rw [← forbidden_of_prepare h]
  exact List.mem_map_of_mem hmem

end RuleSet

end DependencyRules
