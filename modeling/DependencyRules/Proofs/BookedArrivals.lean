import DependencyRules.Proofs.SharedHeadings

/-!
# Arrivals under a shared heading

Whether a module is reached is booked under the heading of the rule that asks, and looked up by the
heading alone. Where rules share a heading, each of them takes what any of them booked for its own.
A rule that forbids not to be reached therefore misses nothing of its own, but also reports what the
others miss, and an allowed rule may be satisfied by what another rule found.
-/

namespace DependencyRules

namespace Graph

/-- A rule aims at a module and does not find it reached. -/
def IsMissedBy (graph : Graph) (rule : PreparedRule) (i : graph.Position) : Prop :=
  rule.aimsAt (graph.sourceAt i) = true ∧ ¬ graph.IsReached rule i

end Graph

namespace Judge

/-- Some rule about reachability with the given heading aims at a module and finds it reached or,
respectively, not reached. -/
def BooksAs (judge : Judge) (graph : Graph) (heading : String) (i : graph.Position)
    (isReached : Bool) : Prop :=
  ∃ other ∈ judge.rules.aboutReachability, other.heading = heading ∧
    other.aimsAt (graph.sourceAt i) = true ∧ (isReached = true ↔ graph.IsReached other i)

section Booked

variable {judge : Judge} {graph : Graph} {marked : graph.Position → List Dependency}
  {rule : PreparedRule} {i : graph.Position}

theorem mem_arrivalsUnder_booked {heading : String} {arrival : Arrival} :
    arrival ∈ (judge.markedModule graph marked i).arrivalsUnder heading ↔
      ∃ other ∈ judge.rules.aboutReachability, other.heading = heading ∧
        other.aimsAt (graph.sourceAt i) = true ∧ graph.arrivalAt other i = arrival := by
  unfold Module.arrivalsUnder markedModule Graph.reachableTable
  rw [getD_nonEmpty?, filter_aboutReachability]
  simp only [List.mem_filter, List.mem_map, decide_eq_true_eq]
  constructor
  · rintro ⟨⟨other, ⟨hother, haims⟩, rfl⟩, hheading⟩
    exact ⟨other, hother, hheading, haims, rfl⟩
  · rintro ⟨other, hother, hheading, haims, rfl⟩
    exact ⟨⟨other, ⟨hother, haims⟩, rfl⟩, hheading⟩

theorem any_arrivalsUnder_booked {heading : String} {isReached : Bool} :
    (((judge.markedModule graph marked i).arrivalsUnder heading).any fun arrival =>
        arrival.isReached == isReached) = true ↔
      judge.BooksAs graph heading i isReached := by
  have hvalue : ∀ other : PreparedRule, other.aimsAt (graph.sourceAt i) = true →
      ((graph.arrivalAt other i).isReached = isReached ↔
        (isReached = true ↔ graph.IsReached other i)) := by
    intro other haims
    rw [← (Graph.isArrival_arrivalAt haims).isReached_iff, Bool.eq_iff_iff]
    exact iff_comm
  rw [List.any_eq_true]
  constructor
  · rintro ⟨arrival, harrival, hreached⟩
    obtain ⟨other, hother, hheading, haims, rfl⟩ := mem_arrivalsUnder_booked.1 harrival
    exact ⟨other, hother, hheading, haims, (hvalue other haims).1 (by simpa using hreached)⟩
  · rintro ⟨other, hother, hheading, haims, hreached⟩
    have harrival := (hvalue other haims).2 hreached
    exact ⟨_, mem_arrivalsUnder_booked.2 ⟨other, hother, hheading, haims, rfl⟩,
      by simpa using harrival⟩

theorem findsArrival_booked (habout : rule.isAboutReachability = true) {isReached : Bool} :
    rule.rule.findsArrival (judge.markedModule graph marked i) isReached = true ↔
      judge.BooksAs graph rule.heading i isReached := by
  have hreach : rule.rule.target.reachable.isSome = true := habout
  rw [Rule.findsArrival, hreach, Bool.true_and]
  exact any_arrivalsUnder_booked

/-- What a module is booked as under a heading is booked by a rule that aims at it. -/
theorem arrivalsUnder_ne_nil_iff {heading : String} :
    (!((judge.markedModule graph marked i).arrivalsUnder heading).isEmpty) = true ↔
      ∃ isReached, judge.BooksAs graph heading i isReached := by
  rw [Bool.not_eq_true', List.isEmpty_eq_false_iff_exists_mem]
  constructor
  · rintro ⟨arrival, harrival⟩
    have hany : (((judge.markedModule graph marked i).arrivalsUnder heading).any fun other =>
        other.isReached == arrival.isReached) = true :=
      List.any_eq_true.2 ⟨arrival, harrival, by simp⟩
    exact ⟨arrival.isReached, any_arrivalsUnder_booked.1 hany⟩
  · rintro ⟨isReached, other, hother, hheading, haims, _⟩
    exact ⟨_, mem_arrivalsUnder_booked.2 ⟨other, hother, hheading, haims, rfl⟩⟩

/-- A rule books under its own heading what it finds itself. -/
theorem booksAs_of_isMissedBy (hmem : rule ∈ judge.rules.aboutReachability)
    (hmissed : graph.IsMissedBy rule i) : judge.BooksAs graph rule.heading i false := by
  refine ⟨rule, hmem, rfl, hmissed.1, ?_⟩
  simpa using hmissed.2

/-! ## Rules that forbid not to be reached -/

theorem forbiddenAtModule_of_wantedReach_false (horphan : rule.rule.wantedOrphan = none)
    (hreach : rule.wantedReach = some false) (m : Module) :
    judge.forbiddenAtModule rule m =
      if rule.rule.findsArrival m false then [.ofModule rule.broken m] else [] := by
  rw [forbiddenAtModule, horphan, hreach]
  rfl

end Booked

/-- A rule reports a module once, if some rule under its heading misses it, and not at all
otherwise. So it keeps to its own ends at the module unless another rule under its heading misses
the module and the rule itself does not. -/
def ReportsByHeading (judge : Judge) (rule : PreparedRule) (graph : Graph) (i : graph.Position) :
    Prop :=
  ∃ m, (judge.mark graph).modules[i.val]? = some m ∧
    (judge.BooksAs graph rule.heading i false →
      judge.forbiddenAtModule rule m = [.ofModule rule.broken m]) ∧
    (¬ judge.BooksAs graph rule.heading i false → judge.forbiddenAtModule rule m = []) ∧
    ((judge.forbiddenAtModule rule m = [.ofModule rule.broken m] ↔ graph.IsMissedBy rule i) ↔
      ∀ other ∈ judge.rules.aboutReachability, other.heading = rule.heading →
        graph.IsMissedBy other i → graph.IsMissedBy rule i)

/-- The rules of an accepted rule set that forbid not to be reached are judged by their headings. -/
theorem forbiddenAtModule_by_heading {ruleSet : RuleSet} {judge : Judge} {rule : PreparedRule}
    (hrules : ruleSet.prepare = .ok judge.rules) (hmem : rule ∈ judge.rules.forbidden)
    (hreach : rule.wantedReach = some false) (graph : Graph) (i : graph.Position) :
    judge.ReportsByHeading rule graph i := by
  have habout : rule.isAboutReachability = true := congrArg Option.isSome hreach
  have hmem' : rule ∈ judge.rules.aboutReachability :=
    PreparedRuleSet.mem_aboutReachability.2 ⟨.inl hmem, habout⟩
  have horphan := Rule.wantedOrphan_eq_none (RuleSet.fault?_forbidden_eq_none hrules hmem) habout
  refine ⟨_, judge.getElem?_mark graph i, ?_⟩
  rw [forbiddenAtModule_of_wantedReach_false horphan hreach]
  have hfinds : rule.rule.findsArrival (judge.markedModule graph graph.markedDependencies i) false =
      true ↔ judge.BooksAs graph rule.heading i false := findsArrival_booked habout
  refine ⟨fun hbooks => if_pos (hfinds.2 hbooks), fun hbooks => if_neg (mt hfinds.1 hbooks), ?_⟩
  constructor
  · intro hown other hother hheading hmissed
    have hbooks : judge.BooksAs graph rule.heading i false :=
      hheading ▸ booksAs_of_isMissedBy hother hmissed
    exact hown.1 (if_pos (hfinds.2 hbooks))
  · intro hothers
    constructor
    · intro hfound
      by_cases hbooks : judge.BooksAs graph rule.heading i false
      · obtain ⟨other, hother, hheading, haims, hreached⟩ := hbooks
        exact hothers other hother hheading ⟨haims, by simpa using hreached⟩
      · rw [if_neg (mt hfinds.1 hbooks)] at hfound
        cases hfound
    · exact fun hmissed => if_pos (hfinds.2 (booksAs_of_isMissedBy hmem' hmissed))

/-- Two rules without names that forbid not to be reached, about different modules. -/
def strayRules : RuleSet :=
  { forbidden := [
      { severity := some .error, source := { path := some "^app$" },
        target := { path := some "^lib$", reachable := some false } },
      { severity := some .warn, source := { path := some "^test$" },
        target := { path := some "^mock$", reachable := some false } }] }

def strayJudge : Judge := { rules := strayRules.prepare.toOption.getD {} }

def strayGraph : Graph :=
  { modules := [
      { source := "app", dependencies := [.localFile "lib"] },
      { source := "lib" },
      { source := "test" },
      { source := "mock" }] }

theorem forbidden_strayJudge_ne_nil : strayJudge.rules.forbidden ≠ [] := List.cons_ne_nil _ _

def strayRule : PreparedRule := strayJudge.rules.forbidden.head forbidden_strayJudge_ne_nil

theorem forbiddenAtModule_by_heading_stray :
    strayRules.prepare = .ok strayJudge.rules ∧ strayRule ∈ strayJudge.rules.forbidden ∧
      strayRule.wantedReach = some false ∧
      strayJudge.ReportsByHeading strayRule strayGraph ⟨3, by decide⟩ := by
  have hrules : strayRules.prepare = .ok strayJudge.rules := rfl
  have hmem : strayRule ∈ strayJudge.rules.forbidden := List.head_mem _
  have hreach : strayRule.wantedReach = some false := rfl
  exact ⟨hrules, hmem, hreach, forbiddenAtModule_by_heading hrules hmem hreach _ _⟩

/-- The first rule reports `mock`, which it does not aim at: the second rule misses it. -/
theorem forbiddenAtModule_reports_stray :
    strayRules.prepare = .ok strayJudge.rules ∧ strayGraph.ensureSound = .ok () ∧
      strayRule ∈ strayJudge.rules.forbidden ∧ strayRule.wantedReach = some false ∧
      ∃ m, (strayJudge.mark strayGraph).modules[3]? = some m ∧
        strayJudge.forbiddenAtModule strayRule m = [.ofModule strayRule.broken m] ∧
        strayRule.aimsAt m.source = false := by
  have hfinds : ((strayJudge.mark strayGraph).modules[3]?.any fun m =>
      strayRule.rule.findsArrival m false && !strayRule.aimsAt m.source) = true := by
    decide +kernel
  obtain ⟨m, hm, hboth⟩ := (Option.any_eq_true _ _).1 hfinds
  rw [Bool.and_eq_true, Bool.not_eq_true'] at hboth
  refine ⟨rfl, rfl, List.head_mem _, rfl, m, hm, ?_, hboth.2⟩
  rw [forbiddenAtModule_of_wantedReach_false rfl rfl]
  exact if_pos hboth.1

/-! ## Allowed rules about reachability -/

section Allowed

variable (judge : Judge) (graph : Graph) (i : graph.Position)

/-- Something is booked for a module under the heading of some allowed rule about reachability, and
nothing that such a rule wants is booked under its heading. -/
def IsOutOfBookedReach : Prop :=
  (∃ rule ∈ judge.rules.allowed, rule.isAboutReachability = true ∧
    ∃ isReached, judge.BooksAs graph rule.heading i isReached) ∧
  ∀ rule ∈ judge.rules.allowed, ∀ wanted, rule.wantedReach = some wanted →
    ¬ judge.BooksAs graph rule.heading i wanted

theorem isOutOfBookedReach_iff (marked : graph.Position → List Dependency) :
    ¬ ((judge.rules.allowed.filter fun rule => rule.isAboutReachability &&
          !((judge.markedModule graph marked i).arrivalsUnder rule.heading).isEmpty).isEmpty ||
        (judge.rules.allowed.filter fun rule => rule.isAboutReachability &&
          !((judge.markedModule graph marked i).arrivalsUnder rule.heading).isEmpty).any
            fun rule => rule.wantedReach.any fun wanted =>
              rule.rule.findsArrival (judge.markedModule graph marked i) wanted) = true ↔
      judge.IsOutOfBookedReach graph i := by
  rw [not_isEmpty_or_any, IsOutOfBookedReach]
  simp only [List.mem_filter, Bool.and_eq_true, arrivalsUnder_ne_nil_iff]
  refine and_congr_right fun _ => ?_
  constructor
  · intro h rule hallowed wanted hwanted hbooks
    have habout : rule.isAboutReachability = true := congrArg Option.isSome hwanted
    have hnone := h rule ⟨hallowed, habout, wanted, hbooks⟩
    rw [hwanted, Option.any_some, (findsArrival_booked habout).2 hbooks] at hnone
    cases hnone
  · rintro h rule ⟨hallowed, habout, _⟩
    obtain ⟨wanted, hwanted⟩ := Option.isSome_iff_exists.1 habout
    have hnot := h rule hallowed wanted hwanted
    rw [hwanted, Option.any_some, ← Bool.not_eq_true, findsArrival_booked habout]
    exact hnot

variable {judge graph i}

/-- An allowed rule that aims at a module books what it finds there. -/
theorem exists_booksAs {rule : PreparedRule} (hallowed : rule ∈ judge.rules.allowed)
    (habout : rule.isAboutReachability = true) (haims : rule.aimsAt (graph.sourceAt i) = true) :
    ∃ isReached, judge.BooksAs graph rule.heading i isReached := by
  classical
  have hmem : rule ∈ judge.rules.aboutReachability :=
    PreparedRuleSet.mem_aboutReachability.2 ⟨.inr hallowed, habout⟩
  exact ⟨decide (graph.IsReached rule i), rule, hmem, rfl, haims, decide_eq_true_iff⟩

/-- What is booked is out of reach by the rules' own ends too, as far as rules aim at it. -/
theorem IsOutOfBookedReach.isOutOfReach (h : judge.IsOutOfBookedReach graph i)
    (haims : ∃ rule ∈ judge.rules.allowed, rule.isAboutReachability = true ∧
      rule.aimsAt (graph.sourceAt i) = true) : judge.IsOutOfReach graph i := by
  refine ⟨haims, fun rule hallowed haims wanted hwanted hreached => ?_⟩
  have hmem : rule ∈ judge.rules.aboutReachability :=
    PreparedRuleSet.mem_aboutReachability.2 ⟨.inr hallowed, congrArg Option.isSome hwanted⟩
  exact h.2 rule hallowed wanted hwanted ⟨rule, hmem, rfl, haims, hreached⟩

end Allowed

/-- The allowed rules about reachability report a module once, if something is booked for it under
their headings and nothing that they want, and not at all otherwise. So they are judged by their own
ends at a module unless a rule is satisfied by what another one booked for a module that is out of
reach, or the module is reported and no allowed rule aims at it. -/
theorem notAllowedAtModule_by_headings (judge : Judge) (graph : Graph) (i : graph.Position) :
    ∃ m, (judge.mark graph).modules[i.val]? = some m ∧
      (judge.IsOutOfBookedReach graph i →
        judge.notAllowedAtModule m = [.ofModule judge.notAllowed m]) ∧
      (¬ judge.IsOutOfBookedReach graph i → judge.notAllowedAtModule m = []) ∧
      ((judge.notAllowedAtModule m = [.ofModule judge.notAllowed m] ↔
          judge.IsOutOfReach graph i) ↔
        (judge.IsOutOfReach graph i → ∀ rule ∈ judge.rules.allowed, ∀ wanted,
          rule.wantedReach = some wanted → ¬ judge.BooksAs graph rule.heading i wanted) ∧
        (judge.IsOutOfBookedReach graph i → ∃ rule ∈ judge.rules.allowed,
          rule.isAboutReachability = true ∧ rule.aimsAt (graph.sourceAt i) = true)) := by
  refine ⟨_, judge.getElem?_mark graph i, ?_⟩
  have hout := judge.isOutOfBookedReach_iff graph i graph.markedDependencies
  have hreports : judge.IsOutOfBookedReach graph i →
      judge.notAllowedAtModule (judge.markedModule graph graph.markedDependencies i) =
        [.ofModule judge.notAllowed (judge.markedModule graph graph.markedDependencies i)] :=
    fun h => if_neg (hout.2 h)
  have hsilent : ¬ judge.IsOutOfBookedReach graph i →
      judge.notAllowedAtModule (judge.markedModule graph graph.markedDependencies i) = [] :=
    fun h => if_pos (not_not.1 (mt hout.1 h))
  have hreported : judge.notAllowedAtModule
      (judge.markedModule graph graph.markedDependencies i) =
        [.ofModule judge.notAllowed (judge.markedModule graph graph.markedDependencies i)] ↔
      judge.IsOutOfBookedReach graph i := by
    refine ⟨fun h => ?_, hreports⟩
    by_contra hnot
    rw [hsilent hnot] at h
    cases h
  refine ⟨hreports, hsilent, ?_⟩
  rw [hreported]
  constructor
  · intro hiff
    exact ⟨fun hown => (hiff.2 hown).2, fun hbooked => (hiff.1 hbooked).1⟩
  · rintro ⟨hunsatisfied, haimed⟩
    constructor
    · exact fun hbooked => hbooked.isOutOfReach (haimed hbooked)
    · intro hown
      obtain ⟨rule, hallowed, habout, haims⟩ := hown.1
      exact ⟨⟨rule, hallowed, habout, exists_booksAs hallowed habout haims⟩, hunsatisfied hown⟩

/-- Two allowed rules without names about one module, with opposite demands. -/
def opposedRules : RuleSet :=
  { allowed := [
      { source := { path := some "^app$" },
        target := { path := some "^lib$", reachable := some true } },
      { source := { path := some "^test$" },
        target := { path := some "^lib$", reachable := some false } }] }

def opposedJudge : Judge := { rules := opposedRules.prepare.toOption.getD {} }

def opposedGraph : Graph :=
  { modules := [
      { source := "app" },
      { source := "test", dependencies := [.localFile "lib"] },
      { source := "lib" }] }

/-- Both rules find `lib` otherwise than they want, but each finds under the common heading what the
other booked, so `lib` is not reported. -/
theorem notAllowedAtModule_silent_opposed :
    opposedRules.prepare = .ok opposedJudge.rules ∧ opposedGraph.ensureSound = .ok () ∧
      opposedJudge.IsOutOfReach opposedGraph ⟨2, by decide⟩ ∧
      ∃ m, (opposedJudge.mark opposedGraph).modules[2]? = some m ∧
        opposedJudge.notAllowedAtModule m = [] := by
  have hfinds : ((opposedJudge.mark opposedGraph).modules[2]?.any fun m =>
      (opposedJudge.notAllowedAtModule m).isEmpty) = true := by
    decide +kernel
  obtain ⟨m, hm, hnone⟩ := (Option.any_eq_true _ _).1 hfinds
  have hends : opposedJudge.rules.allowed.all (fun rule =>
      rule.aimsAt (opposedGraph.sourceAt ⟨2, by decide⟩) &&
        !(rule.wantedReach.any fun wanted =>
          (opposedGraph.arrivalAt rule ⟨2, by decide⟩).isReached == wanted)) = true := by
    decide +kernel
  rw [List.all_eq_true] at hends
  refine ⟨rfl, rfl, ⟨?_, ?_⟩, m, hm, List.isEmpty_iff.1 hnone⟩
  · have hmem : opposedJudge.rules.allowed.head (List.cons_ne_nil _ _) ∈
        opposedJudge.rules.allowed := List.head_mem _
    exact ⟨_, hmem, rfl, (Bool.and_eq_true_iff.1 (hends _ hmem)).1⟩
  · intro rule hallowed haims wanted hwanted hreached
    have hdiffers := (Bool.and_eq_true_iff.1 (hends rule hallowed)).2
    rw [hwanted, Option.any_some] at hdiffers
    rw [← (Graph.isArrival_arrivalAt haims).isReached_iff, ← Bool.eq_iff_iff] at hreached
    simp [hreached] at hdiffers

end Judge

end DependencyRules
