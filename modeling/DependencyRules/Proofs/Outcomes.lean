import DependencyRules.CommandLine.Run
import DependencyRules.Proofs.Acceptance
import DependencyRules.Proofs.Judgement
import DependencyRules.Proofs.StandaloneNames

/-!
# How a run ends

A run that judges a graph passes through six stages. Whether a stage fails is said by the files
alone, without regard to the stages before it; the first one that fails decides how the run ends.
Where none fails, the run shows the judged graph, writes it where that is asked for, and ends by its
violations.
-/

namespace DependencyRules

theorem StandaloneSettings.eq_badPattern_of_names {settings : StandaloneSettings} {error : Error}
    (h : settings.names = .error error) : error = .badPattern NameTest.extraLabel "pattern" := by
  unfold StandaloneSettings.names at h
  exact (StandaloneNames.withPatterns_eq_error_iff.1 h).1

theorem FailureLevel.threshold_eq_some_iff {level : FailureLevel} {severity : Severity} :
    level.threshold = some severity ↔ severity.label = level.label := by
  cases level <;> cases severity <;> decide

namespace CommandLine

/-! ## Documents and stages -/

section Documents

variable {α : Type} (read : ReadFile) (ofText? : String → Option α) (path : String)

/-- The text at a path is that of a document. -/
def Holds (document : α) : Prop := ∃ text, read path = .ok text ∧ ofText? text = some document

/-- Why there is no document at a path. -/
inductive Refuses : Error → Prop
  | unreadable {cause : FileFailure} :
      read path = .error cause → Refuses (.unreadable path cause)
  | malformed {text : String} :
      read path = .ok text → ofText? text = none → Refuses (.malformed path)

end Documents

inductive Stage where
  | settings
  | rules
  | preparation
  | standaloneNames
  | graph
  | soundness

namespace Stage

def rank : Stage → Nat
  | .settings => 0
  | .rules => 1
  | .preparation => 2
  | .standaloneNames => 3
  | .graph => 4
  | .soundness => 5

def all : List Stage := [.settings, .rules, .preparation, .standaloneNames, .graph, .soundness]

theorem getElem?_all {position : Nat} {stage : Stage} :
    all[position]? = some stage ↔ stage.rank = position := by
  constructor
  · intro h
    rcases position with _ | _ | _ | _ | _ | _ | position <;> cases h <;> rfl
  · rintro rfl
    cases stage <;> rfl

def report (arguments : ValidateArguments) : Stage → Error → Failure
  | .settings => .loadingSettings
  | .rules => .loadingRules (arguments.rules.getD "")
  | .graph => .loadingGraph arguments.graph
  | .preparation | .standaloneNames | .soundness => .judging

end Stage

section Stages

variable (files : FileSystem) (arguments : ValidateArguments)

/-- No settings are named, and nothing is found at the usual place. -/
def LacksSettings : Prop := arguments.config = none ∧ files.isFound "depfence.toml" = false

def settingsPath : String := arguments.config.getD "depfence.toml"

def GivesSettings (settings : Settings) : Prop :=
  (LacksSettings files arguments ∧ settings = {}) ∨
    (¬ LacksSettings files arguments ∧
      Holds files.read Settings.ofTomlText? (settingsPath arguments) settings)

/-- How the text of a rule set is read, by the extension of its file. -/
def rulesOfText? (path : String) : String → Option RuleSet :=
  if extension? path = some "toml" then RuleSet.ofTomlText? else RuleSet.ofJsonText?

def GivesRules (rules : RuleSet) : Prop :=
  (arguments.rules = none ∧ rules = RuleSet.recommended) ∨
    ∃ path, arguments.rules = some path ∧ Holds files.read (rulesOfText? path) path rules

/-- What makes a stage fail. -/
def FailsAt (error : Error) : Stage → Prop
  | .settings =>
      Refuses files.read Settings.ofTomlText? (settingsPath arguments) error ∧
        ¬ LacksSettings files arguments
  | .rules =>
      ∃ path, arguments.rules = some path ∧ Refuses files.read (rulesOfText? path) path error
  | .preparation => ∃ rules, GivesRules files arguments rules ∧ rules.prepare = .error error
  | .standaloneNames =>
      ∃ settings, GivesSettings files arguments settings ∧ settings.standalone.names = .error error
  | .graph => Refuses files.read Graph.ofJsonText? arguments.graph error
  | .soundness =>
      ∃ graph, Holds files.read Graph.ofJsonText? arguments.graph graph ∧
        graph.ensureSound = .error error

def FailsFirst (stage : Stage) (error : Error) : Prop :=
  FailsAt files arguments error stage ∧
    ∀ other error', FailsAt files arguments error' other → stage.rank ≤ other.rank

def Succeeds (assessment : Assessment) : Prop :=
  ∃ rules prepared names graph,
    GivesSettings files arguments assessment.settings ∧ GivesRules files arguments rules ∧
    rules.prepare = .ok prepared ∧ assessment.settings.standalone.names = .ok names ∧
    Holds files.read Graph.ofJsonText? arguments.graph graph ∧
    Judge.assess
        { rules := prepared
          standalone := names
          isParallel := assessment.settings.judge.isParallel && !arguments.isSequential } graph =
      .ok (assessment.graph, assessment.summary)

end Stages

/-! ## Outcomes -/

/-- An error that is due to a file that cannot be read. -/
def IsReadingError (read : ReadFile) (error : Error) : Prop :=
  ∃ path cause, read path = .error cause ∧ error = .unreadable path cause

/-- What is left behind by a run that an error stops. -/
structure IsStopped (read : ReadFile) (error : Error) (failure : Failure) (outcome : Outcome) :
    Prop where
  stdout : outcome.stdout = ""
  written : outcome.written = none
  failure : outcome.failure = some failure
  code_one : outcome.exit.code = 1 ↔ IsReadingError read error
  code_two : outcome.exit.code = 2 ↔ ¬ IsReadingError read error

/-- The judged graph is to be written where it cannot be. -/
def FailsToWrite (files : FileSystem) (arguments : ValidateArguments) (path : String)
    (cause : FileFailure) : Prop :=
  arguments.output = some path ∧ files.write path = .error cause

/-- Some violation is at least as severe as the severity that a level names. -/
def IsViolated (level : FailureLevel) (summary : Summary) : Prop :=
  level ≠ .never ∧ ∃ severity : Severity, severity.label = level.label ∧
    ∃ violation ∈ summary.violations, severity ≤ violation.severity

/-- What is left behind by a run that judges a graph. -/
structure IsCompleted (files : FileSystem) (painted : Bool) (arguments : ValidateArguments)
    (assessment : Assessment) (outcome : Outcome) : Prop where
  stdout_text : arguments.format = .text →
    outcome.stdout = Report.text painted assessment.graph assessment.summary
  stdout_json : arguments.format = .json →
    outcome.stdout = assessment.graph.toJson.pretty ++ "\n"
  written : ∀ path text, outcome.written = some (path, text) ↔
    arguments.output = some path ∧ files.write path = .ok () ∧
      text = assessment.graph.toJson.pretty
  failure : ∀ failure, outcome.failure = some failure ↔
    ∃ path cause, FailsToWrite files arguments path cause ∧ failure = .writing path cause
  code_one : outcome.exit.code = 1 ↔ ∃ path cause, FailsToWrite files arguments path cause
  code_six : outcome.exit.code = 6 ↔ (∀ path cause, ¬ FailsToWrite files arguments path cause) ∧
    IsViolated assessment.settings.judge.failureLevel assessment.summary
  code_zero : outcome.exit.code = 0 ↔ (∀ path cause, ¬ FailsToWrite files arguments path cause) ∧
    ¬ IsViolated assessment.settings.judge.failureLevel assessment.summary

/-! ## Loading -/

section Loading

variable {files : FileSystem} {read : ReadFile} {arguments : ValidateArguments} {error : Error}

theorem loadText_eq_ok_iff {α : Type} {ofText? : String → Option α} {path : String} {document : α} :
    loadText read ofText? path = .ok document ↔ Holds read ofText? path document := by
  unfold loadText Holds
  cases read path with
  | error cause => simp
  | ok text => cases htext : ofText? text <;> simp [htext]

theorem loadText_eq_error_iff {α : Type} {ofText? : String → Option α} {path : String} :
    loadText read ofText? path = .error error ↔ Refuses read ofText? path error := by
  unfold loadText
  constructor
  · intro h
    cases hread : read path with
    | error cause =>
        rw [hread] at h
        cases h
        exact .unreadable hread
    | ok text =>
        cases htext : ofText? text with
        | none =>
            simp only [hread, htext] at h
            cases h
            exact .malformed hread htext
        | some document => simp [hread, htext] at h
  · rintro (hread | ⟨hread, htext⟩)
    · rw [hread]
    · simp only [hread, htext]

theorem load_settings_of_lacks (h : LacksSettings files arguments) :
    Settings.load files arguments.config = .ok {} := by
  obtain ⟨hconfig, hmissing⟩ := h
  have hmissing : ¬ files.isFound Settings.defaultPath = true := by
    rw [Settings.defaultPath, hmissing]
    exact Bool.false_ne_true
  rw [hconfig, Settings.load, if_neg hmissing]

theorem load_settings_of_not_lacks (h : ¬ LacksSettings files arguments) :
    Settings.load files arguments.config =
      loadText files.read Settings.ofTomlText? (settingsPath arguments) := by
  unfold settingsPath
  cases hconfig : arguments.config with
  | some path => rfl
  | none =>
      have hfound : files.isFound Settings.defaultPath = true := by
        rw [← Bool.not_eq_false]
        exact fun hmissing => h ⟨hconfig, hmissing⟩
      rw [Settings.load, if_pos hfound]
      rfl

theorem load_settings_eq_ok_iff {settings : Settings} :
    Settings.load files arguments.config = .ok settings ↔
      GivesSettings files arguments settings := by
  unfold GivesSettings
  by_cases hlacks : LacksSettings files arguments
  · simp [load_settings_of_lacks hlacks, hlacks, eq_comm]
  · simp [load_settings_of_not_lacks hlacks, hlacks, loadText_eq_ok_iff]

theorem load_settings_eq_error_iff :
    Settings.load files arguments.config = .error error ↔
      FailsAt files arguments error .settings := by
  unfold FailsAt
  by_cases hlacks : LacksSettings files arguments
  · simp [load_settings_of_lacks hlacks, hlacks]
  · simp [load_settings_of_not_lacks hlacks, hlacks, loadText_eq_error_iff]

theorem load_rules_of_path (path : String) :
    RuleSet.load read (some path) = loadText read (rulesOfText? path) path := by
  by_cases htoml : extension? path = some "toml"
  · simp only [RuleSet.load, rulesOfText?, if_pos htoml]
  · simp only [RuleSet.load, rulesOfText?, if_neg htoml]

theorem load_rules_eq_ok_iff {rules : RuleSet} :
    RuleSet.load files.read arguments.rules = .ok rules ↔ GivesRules files arguments rules := by
  unfold GivesRules
  cases arguments.rules with
  | none => simp [RuleSet.load, eq_comm]
  | some path => simp [load_rules_of_path, loadText_eq_ok_iff]

theorem load_rules_eq_error_iff :
    RuleSet.load files.read arguments.rules = .error error ↔
      FailsAt files arguments error .rules := by
  unfold FailsAt
  cases arguments.rules with
  | none => simp [RuleSet.load]
  | some path => simp [load_rules_of_path, loadText_eq_error_iff]

end Loading

/-! ## The first stage that fails -/

section Stages

variable {files : FileSystem} {arguments : ValidateArguments} {error : Error}

variable (files arguments) in
/-- The error of a stage. A stage that uses a document has none where there is no document. -/
def stageError? : Stage → Option Error
  | .settings => errorOf? (Settings.load files arguments.config)
  | .rules => errorOf? (RuleSet.load files.read arguments.rules)
  | .preparation =>
      (RuleSet.load files.read arguments.rules).toOption.bind fun rules => errorOf? rules.prepare
  | .standaloneNames =>
      (Settings.load files arguments.config).toOption.bind fun settings =>
        errorOf? settings.standalone.names
  | .graph => errorOf? (Graph.load files.read arguments.graph)
  | .soundness =>
      (Graph.load files.read arguments.graph).toOption.bind fun graph => errorOf? graph.ensureSound

theorem stageError?_eq_some_iff {stage : Stage} :
    stageError? files arguments stage = some error ↔ FailsAt files arguments error stage := by
  have hbind : ∀ {α : Type} {x : Except Error α} {f : α → Option Error},
      x.toOption.bind f = some error ↔ ∃ a, x = .ok a ∧ f a = some error := by
    intro α x f
    cases x <;> simp [Except.toOption]
  cases stage with
  | settings => exact errorOf?_eq_some_iff.trans load_settings_eq_error_iff
  | rules => exact errorOf?_eq_some_iff.trans load_rules_eq_error_iff
  | preparation =>
      simp only [stageError?, FailsAt, hbind, load_rules_eq_ok_iff, errorOf?_eq_some_iff]
  | standaloneNames =>
      simp only [stageError?, FailsAt, hbind, load_settings_eq_ok_iff, errorOf?_eq_some_iff]
  | graph => exact errorOf?_eq_some_iff.trans loadText_eq_error_iff
  | soundness =>
      simp only [stageError?, FailsAt, hbind, Graph.load, loadText_eq_ok_iff, errorOf?_eq_some_iff]

/-- A stage that reports its own error, and the stages after it. -/
theorem errorOf?_stage {α β : Type} {x : Except Error α} {found : Option Error}
    (hx : errorOf? x = found) {report : Error → Failure} {f : α → Except Failure β}
    {later : Option Failure} (h : ∀ a, x = .ok a → errorOf? (f a) = later) :
    errorOf? (x.mapError report >>= f) = (found.map report).or later := by
  rw [← hx, ← errorOf?_mapError]
  exact errorOf?_bind fun a ha => h a (mapError_eq_ok_iff.1 ha)

theorem errorOf?_assess :
    errorOf? (assess files arguments) = Stage.all.findSome? fun stage =>
      (stageError? files arguments stage).map (stage.report arguments) := by
  simp only [Stage.all, findSome?_cons_eq_or, List.findSome?_nil]
  unfold assess appoint
  refine errorOf?_stage rfl fun settings hsettings => ?_
  -- Loading the rules and preparing them are two stages, but one step of the run.
  rw [bind_assoc]
  refine errorOf?_stage rfl fun rules hrules => ?_
  refine errorOf?_stage ?_ fun judge _ => ?_
  · rw [Judge.ofRules, errorOf?_map, stageError?, hrules]
    rfl
  refine errorOf?_stage ?_ fun judge _ => ?_
  · rw [Settings.applyTo, errorOf?_bind_pure, stageError?, hsettings]
    rfl
  refine errorOf?_stage rfl fun graph hgraph => ?_
  refine errorOf?_stage ?_ fun judged _ => rfl
  rw [Judge.assess, errorOf?_bind_pure, stageError?, hgraph]
  rfl

theorem findsFirst_assess :
    FindsFirst (errorOf? (assess files arguments)) fun (place : Nat) failure =>
      ∃ stage error, stage.rank = place ∧ FailsAt files arguments error stage ∧
        stage.report arguments error = failure := by
  rw [errorOf?_assess]
  refine (FindsFirst.atItem _ Stage.all).congr fun place failure => ?_
  simp only [Stage.getElem?_all, Option.map_eq_some_iff, stageError?_eq_some_iff]
  constructor
  · rintro ⟨stage, hrank, error, hfails, hreport⟩
    exact ⟨stage, error, hrank, hfails, hreport⟩
  · rintro ⟨stage, error, hrank, hfails, hreport⟩
    exact ⟨stage, hrank, error, hfails, hreport⟩

theorem assess_eq_error {stage : Stage} (h : FailsFirst files arguments stage error) :
    assess files arguments = .error (stage.report arguments error) := by
  obtain ⟨hfails, hfirst⟩ := h
  refine errorOf?_eq_some_iff.1 (findsFirst_assess.eq_some_iff.2 ?_)
  refine ⟨stage.rank, ⟨stage, error, rfl, hfails, rfl⟩, ?_⟩
  rintro _ _ ⟨other, error', rfl, hother, _⟩
  exact hfirst other error' hother

theorem exists_assess_eq_ok_iff :
    (∃ assessment, assess files arguments = .ok assessment) ↔
      ∀ stage error, ¬ FailsAt files arguments error stage := by
  rw [← errorOf?_eq_none_iff, findsFirst_assess.eq_none_iff]
  constructor
  · exact fun h stage error hfails => h _ _ ⟨stage, error, rfl, hfails, rfl⟩
  · rintro h _ _ ⟨stage, error, _, hfails, _⟩
    exact h stage error hfails

theorem exists_failsFirst {stage : Stage} (h : FailsAt files arguments error stage) :
    ∃ first error', FailsFirst files arguments first error' := by
  cases hassess : errorOf? (assess files arguments) with
  | none => exact (findsFirst_assess.nothing hassess _ _ ⟨stage, error, rfl, h, rfl⟩).elim
  | some failure =>
      obtain ⟨_, ⟨first, error', rfl, hfails, _⟩, hleast⟩ := findsFirst_assess.first _ hassess
      refine ⟨first, error', hfails, fun other error'' hother => ?_⟩
      exact hleast _ _ ⟨other, error'', rfl, hother, rfl⟩

theorem appoint_eq_ok_iff {judge : Judge} :
    appoint files.read arguments.rules = .ok judge ↔
      ∃ rules prepared, GivesRules files arguments rules ∧ rules.prepare = .ok prepared ∧
        judge = { rules := prepared } := by
  simp only [← load_rules_eq_ok_iff]
  constructor
  · intro h
    obtain ⟨rules, hrules, h⟩ := bind_eq_ok h
    rw [mapError_eq_ok_iff] at hrules h
    cases hprepared : rules.prepare with
    | error error =>
        rw [Judge.ofRules, hprepared] at h
        cases h
    | ok prepared =>
        rw [Judge.ofRules, hprepared] at h
        cases h
        exact ⟨rules, prepared, hrules, hprepared, rfl⟩
  · rintro ⟨rules, prepared, hrules, hprepared, rfl⟩
    refine bind_of_eq_ok (mapError_eq_ok_iff.2 hrules) ?_
    rw [Judge.ofRules, hprepared]
    rfl

theorem assess_eq_ok_iff {assessment : Assessment} :
    assess files arguments = .ok assessment ↔ Succeeds files arguments assessment := by
  constructor
  · intro h
    obtain ⟨settings, hsettings, h⟩ := bind_eq_ok h
    obtain ⟨judge, hjudge, h⟩ := bind_eq_ok h
    obtain ⟨rules, prepared, hrules, hprepared, rfl⟩ := appoint_eq_ok_iff.1 hjudge
    obtain ⟨judge, happlied, h⟩ := bind_eq_ok h
    obtain ⟨names, hnames, happlied⟩ := bind_eq_ok (mapError_eq_ok_iff.1 happlied)
    cases happlied
    obtain ⟨graph, hgraph, h⟩ := bind_eq_ok h
    obtain ⟨judged, hjudged, h⟩ := bind_eq_ok h
    cases h
    rw [mapError_eq_ok_iff] at hsettings hgraph hjudged
    refine ⟨rules, prepared, names, graph, load_settings_eq_ok_iff.1 hsettings, hrules, hprepared,
      hnames, loadText_eq_ok_iff.1 hgraph, ?_⟩
    cases hsequential : arguments.isSequential <;> simpa [hsequential] using hjudged
  · obtain ⟨settings, assessed, summary⟩ := assessment
    rintro ⟨rules, prepared, names, graph, hsettings, hrules, hprepared, hnames, hgraph, hjudged⟩
    refine bind_of_eq_ok (mapError_eq_ok_iff.2 (load_settings_eq_ok_iff.2 hsettings)) ?_
    refine bind_of_eq_ok (appoint_eq_ok_iff.2 ⟨rules, prepared, hrules, hprepared, rfl⟩) ?_
    refine bind_of_eq_ok (mapError_eq_ok_iff.2 (bind_of_eq_ok hnames rfl)) ?_
    refine bind_of_eq_ok (mapError_eq_ok_iff.2 (loadText_eq_ok_iff.2 hgraph)) ?_
    refine bind_of_eq_ok (mapError_eq_ok_iff.2 (Eq.trans ?_ hjudged)) rfl
    cases hsequential : arguments.isSequential <;> simp

end Stages

/-! ## Ends of a run -/

section Ends

variable {files : FileSystem} {arguments : ValidateArguments} {error : Error}

/-- Only a stage that reads a file can fail by that file. -/
theorem FailsAt.read_eq {stage : Stage} {path : String} {cause : FileFailure}
    (h : FailsAt files arguments (.unreadable path cause) stage) :
    files.read path = .error cause := by
  cases stage with
  | settings =>
      obtain ⟨⟨hread⟩, _⟩ := h
      exact hread
  | rules =>
      obtain ⟨_, _, ⟨hread⟩⟩ := h
      exact hread
  | preparation =>
      obtain ⟨rules, _, hprepare⟩ := h
      -- No mistake in a rule set is reported as a file that cannot be read.
      obtain ⟨_, hmistake, _⟩ := rules.findsFirst_prepare.first _ (errorOf?_eq_some_iff.2 hprepare)
      cases hmistake
  | standaloneNames =>
      obtain ⟨settings, _, hnames⟩ := h
      cases StandaloneSettings.eq_badPattern_of_names hnames
  | graph =>
      obtain ⟨hread⟩ := h
      exact hread
  | soundness =>
      obtain ⟨graph, _, hsound⟩ := h
      unfold Graph.ensureSound at hsound
      split at hsound <;> cases hsound

theorem FailsAt.code_ofError {stage : Stage} (h : FailsAt files arguments error stage) :
    ((Exit.ofError error).code = 1 ↔ IsReadingError files.read error) ∧
      ((Exit.ofError error).code = 2 ↔ ¬ IsReadingError files.read error) := by
  cases error with
  | unreadable path cause =>
      have hreading : IsReadingError files.read (.unreadable path cause) :=
        ⟨path, cause, h.read_eq, rfl⟩
      simp [Exit.ofError, Exit.code, hreading]
  | _ => simp [Exit.ofError, Exit.code, IsReadingError]

theorem FailsFirst.isStopped {stage : Stage} (h : FailsFirst files arguments stage error)
    (painted : Bool) :
    IsStopped files.read error (stage.report arguments error)
      (run files painted (.validate arguments)) := by
  have hrun : run files painted (.validate arguments) =
      .ofFailure (stage.report arguments error) := by
    simp only [run, runValidate, assess_eq_error h]
  have hexit : (stage.report arguments error).exit = Exit.ofError error := by
    cases stage <;> rfl
  obtain ⟨hone, htwo⟩ := h.1.code_ofError
  rw [← hexit] at hone htwo
  rw [hrun]
  exact ⟨rfl, rfl, rfl, hone, htwo⟩

theorem isViolated_iff {level : FailureLevel} {summary : Summary} :
    IsViolated level summary ↔ level.fails summary = true := by
  have hnever : ∀ severity : Severity, severity.label = level.label → level ≠ .never := by
    rintro severity hlabel rfl
    cases FailureLevel.threshold_eq_some_iff.2 hlabel
  simp only [IsViolated, FailureLevel.fails, Option.any_eq_true,
    FailureLevel.threshold_eq_some_iff, Summary.countFrom, decide_eq_true_eq, List.countP_pos_iff]
  constructor
  · exact fun h => h.2
  · rintro ⟨severity, hlabel, hviolation⟩
    exact ⟨hnever severity hlabel, severity, hlabel, hviolation⟩

theorem Assessment.code_exit (assessment : Assessment) :
    assessment.exit.code ≠ 1 ∧
      (assessment.exit.code = 6 ↔
        IsViolated assessment.settings.judge.failureLevel assessment.summary) ∧
      (assessment.exit.code = 0 ↔
        ¬ IsViolated assessment.settings.judge.failureLevel assessment.summary) := by
  rw [isViolated_iff, Assessment.exit]
  cases assessment.settings.judge.failureLevel.fails assessment.summary <;> simp [Exit.code]

theorem Assessment.shown_text {arguments : ValidateArguments} (assessment : Assessment)
    (painted : Bool) (h : arguments.format = .text) :
    assessment.shown painted arguments.format =
      Report.text painted assessment.graph assessment.summary := by
  rw [h, Assessment.shown]

theorem Assessment.shown_json {arguments : ValidateArguments} (assessment : Assessment)
    (painted : Bool) (h : arguments.format = .json) :
    assessment.shown painted arguments.format = assessment.graph.toJson.pretty ++ "\n" := by
  rw [h, Assessment.shown]

/-- Where writing does not fail, the violations alone decide how a run ends. -/
theorem isCompleted_of_written {painted : Bool} {assessment : Assessment}
    {written : Option (String × String)}
    (hwrites : ∀ path cause, ¬ FailsToWrite files arguments path cause)
    (hwritten : ∀ path text, written = some (path, text) ↔
      arguments.output = some path ∧ files.write path = .ok () ∧
        text = assessment.graph.toJson.pretty) :
    IsCompleted files painted arguments assessment
      { exit := assessment.exit
        stdout := assessment.shown painted arguments.format
        written } := by
  obtain ⟨hone, hsix, hzero⟩ := assessment.code_exit
  exact {
    stdout_text := assessment.shown_text painted
    stdout_json := assessment.shown_json painted
    written := hwritten
    failure := by simp [hwrites]
    code_one := by simp [hwrites, hone]
    code_six := by simp [hwrites, hsix]
    code_zero := by simp [hwrites, hzero] }

/-- Where writing fails, the outcome is still shown, and the violations do not matter. -/
theorem isCompleted_of_failsToWrite {painted : Bool} {assessment : Assessment} {path : String}
    {cause : FileFailure} (h : FailsToWrite files arguments path cause) :
    IsCompleted files painted arguments assessment
      { exit := (Failure.writing path cause).exit
        stdout := assessment.shown painted arguments.format
        failure := some (.writing path cause) } := by
  obtain ⟨houtput, hwrite⟩ := h
  have hfails : ∀ other cause', FailsToWrite files arguments other cause' ↔
      other = path ∧ cause' = cause := by
    intro other cause'
    constructor
    · rintro ⟨hother, hcause⟩
      cases houtput.symm.trans hother
      cases hwrite.symm.trans hcause
      exact ⟨rfl, rfl⟩
    · rintro ⟨rfl, rfl⟩
      exact ⟨houtput, hwrite⟩
  have hwritten : ∀ other, arguments.output = some other → files.write other ≠ .ok () := by
    intro other hother hok
    cases houtput.symm.trans hother
    cases hwrite.symm.trans hok
  exact {
    stdout_text := assessment.shown_text painted
    stdout_json := assessment.shown_json painted
    written := fun other text => ⟨nofun, fun hdone => (hwritten other hdone.1 hdone.2.1).elim⟩
    failure := by simp [hfails, eq_comm]
    code_one := by simp [hfails, Failure.exit, Exit.code]
    code_six := by simp [hfails, Failure.exit, Exit.code]
    code_zero := by simp [hfails, Failure.exit, Exit.code] }

theorem Succeeds.isCompleted {assessment : Assessment}
    (h : Succeeds files arguments assessment) (painted : Bool) :
    IsCompleted files painted arguments assessment (run files painted (.validate arguments)) := by
  simp only [run, runValidate, assess_eq_ok_iff.2 h]
  cases houtput : arguments.output with
  | none =>
      have hwrites : ∀ path cause, ¬ FailsToWrite files arguments path cause := by
        simp [FailsToWrite, houtput]
      exact isCompleted_of_written hwrites (by simp [houtput])
  | some path =>
      cases hwrite : files.write path with
      | error cause =>
          simp only [hwrite]
          exact isCompleted_of_failsToWrite ⟨houtput, hwrite⟩
      | ok done =>
          simp only [hwrite]
          refine isCompleted_of_written ?_ fun other text => ?_
          · rintro other cause ⟨hother, hcause⟩
            cases houtput.symm.trans hother
            cases hwrite.symm.trans hcause
          · constructor
            · rintro ⟨⟩
              exact ⟨houtput, hwrite, rfl⟩
            · rintro ⟨hother, _, rfl⟩
              cases houtput.symm.trans hother
              rfl

end Ends

/-- A run that is to judge a graph is stopped by the first stage that fails or, where no stage
fails, shows what was judged and ends by the violations. -/
theorem run_validate_outcome (files : FileSystem) (painted : Bool) (arguments : ValidateArguments) :
    (∀ stage error, FailsFirst files arguments stage error →
      IsStopped files.read error (stage.report arguments error)
        (run files painted (.validate arguments))) ∧
    (∀ assessment, Succeeds files arguments assessment →
      IsCompleted files painted arguments assessment (run files painted (.validate arguments))) ∧
    ((∃ stage error, FailsFirst files arguments stage error) ↔
      ∃ stage error, FailsAt files arguments error stage) ∧
    ((∃ assessment, Succeeds files arguments assessment) ↔
      ∀ stage error, ¬ FailsAt files arguments error stage) := by
  refine ⟨fun stage error h => h.isStopped painted, fun assessment h => h.isCompleted painted,
    ⟨?_, ?_⟩, ?_⟩
  · rintro ⟨stage, error, hfails, _⟩
    exact ⟨stage, error, hfails⟩
  · rintro ⟨stage, error, hfails⟩
    exact exists_failsFirst hfails
  · simp only [← assess_eq_ok_iff]
    exact exists_assess_eq_ok_iff

def sampleGraphText : String :=
  "\x7b\"modules\":[\x7b\"source\":\"a\",\"dependencies\":" ++
    "[\x7b\"module\":\"b\",\"couldNotResolve\":true\x7d]\x7d]\x7d"

def sampleGraph : Graph where
  modules := [{ source := "a", dependencies := [{ specifier := "b", couldNotResolve := true }] }]

/-- Every dependency is forbidden. -/
def sampleRulesText : String := "\x7b\"forbidden\":[\x7b\"from\":\x7b\x7d,\"to\":\x7b\x7d\x7d]\x7d"

def sampleJudge : Judge where
  rules := { forbidden := [{ rule := {}, name := "unnamed", severity := .error }] }
  standalone := ⟨StandaloneNames.builtIn.tests ++ []⟩

/-- At the usual place of the settings stands a link to itself, which leads nowhere. -/
def sampleFiles : FileSystem where
  read path :=
    if path = "g" then .ok sampleGraphText
    else if path = "r" then .ok sampleRulesText
    else if path = "depfence.toml" then
      .error (.other "Too many levels of symbolic links (os error 40)")
    else .error .notFound
  isFound path := path = "g" || path = "r"
  write _ := .ok ()

theorem rulesOfText?_sample : rulesOfText? "r" sampleRulesText = some { forbidden := [{}] } := by
  -- Splitting a path is no structural recursion: its two steps are taken by hand.
  have hsplit : "r".splitOn "/" = ["r"] := by
    rw [String.splitOn, if_neg (by decide), String.splitOnAux, if_neg (by decide +kernel),
      if_neg (by decide +kernel), String.splitOnAux, if_pos (by decide +kernel)]
    decide +kernel
  have hextension : extension? "r" ≠ some "toml" := by
    rw [extension?, fileName?, hsplit]
    decide
  rw [rulesOfText?, if_neg hextension]
  decide +kernel

theorem run_validate_outcome_sample :
    (FailsFirst sampleFiles { graph := "g", rules := some "s" } .rules
        (.unreadable "s" .notFound) ∧
      (run sampleFiles false (.validate { graph := "g", rules := some "s" })).exit.code = 1) ∧
    ∃ assessment,
      Succeeds sampleFiles { graph := "g", rules := some "r", output := some "o" } assessment ∧
      (run sampleFiles false
        (.validate { graph := "g", rules := some "r", output := some "o" })).exit.code = 6 ∧
      (run sampleFiles false
        (.validate { graph := "g", rules := some "r", output := some "o" })).written =
          some ("o", assessment.graph.toJson.pretty) := by
  constructor
  · have hfails : FailsFirst sampleFiles { graph := "g", rules := some "s" } .rules
        (.unreadable "s" .notFound) := by
      refine ⟨⟨"s", rfl, .unreadable rfl⟩, fun other error hother => ?_⟩
      cases other with
      | settings => exact (hother.2 ⟨rfl, rfl⟩).elim
      | _ => simp [Stage.rank]
    obtain ⟨hstopped, _⟩ := run_validate_outcome sampleFiles false
      { graph := "g", rules := some "s" }
    exact ⟨hfails, (hstopped _ _ hfails).code_one.2 ⟨"s", .notFound, rfl, rfl⟩⟩
  · have hsound : sampleGraph.ensureSound = .ok () := rfl
    have hjudged := sampleJudge.assess_eq_ok hsound
    have hgraph : Graph.ofJsonText? sampleGraphText = some sampleGraph := by decide +kernel
    have hsucceeds : Succeeds sampleFiles
        { graph := "g", rules := some "r", output := some "o" } ⟨{}, _, _⟩ :=
      ⟨_, _, _, _, .inl ⟨⟨rfl, rfl⟩, rfl⟩, .inr ⟨"r", rfl, _, rfl, rulesOfText?_sample⟩, rfl, rfl,
        ⟨_, rfl, hgraph⟩, hjudged⟩
    have hviolated : ∃ violation ∈ (sampleJudge.verdicts (sampleJudge.mark sampleGraph)
        sampleGraph.summary.extra).2.violations, Severity.error ≤ violation.severity := by
      decide +kernel
    obtain ⟨_, hcompleted, _⟩ := run_validate_outcome sampleFiles false
      { graph := "g", rules := some "r", output := some "o" }
    have hdone := hcompleted _ hsucceeds
    refine ⟨_, hsucceeds, hdone.code_six.2 ⟨?_, nofun, .error, rfl, hviolated⟩,
      (hdone.written _ _).2 ⟨rfl, rfl, rfl⟩⟩
    rintro path cause ⟨_, hwrite⟩
    cases hwrite

end CommandLine

end DependencyRules
