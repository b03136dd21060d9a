import DependencyRules.CommandLine.Arguments
import DependencyRules.CommandLine.Load
import DependencyRules.Report

/-!
# Carrying out a command

A run loads the settings, the rules and the graph in this order, judges the graph, and shows the
outcome. The first stage that fails decides; nothing is shown or written before all have succeeded.
-/

namespace DependencyRules

namespace CommandLine

inductive Exit where
  | passed
  /-- A file could not be read or written. -/
  | failed
  /-- The arguments or a document make no sense. -/
  | badInput
  /-- There are violations that fail the run. -/
  | violated
deriving DecidableEq

namespace Exit

def code : Exit → Nat
  | .passed => 0
  | .failed => 1
  | .badInput => 2
  | .violated => 6

def ofError : Error → Exit
  | .unreadable .. => .failed
  | _ => .badInput

end Exit

namespace Stop

def exit : Stop → Exit
  | .help | .version => .passed
  | _ => .badInput

end Stop

inductive Failure where
  | loadingSettings (error : Error)
  | loadingRules (path : String) (error : Error)
  | loadingGraph (path : String) (error : Error)
  /-- Rules, patterns or a graph that make no sense. -/
  | judging (error : Error)
  | writing (path : String) (failure : FileFailure)
deriving DecidableEq

namespace Failure

def message : Failure → String
  | .loadingSettings error => "loading configuration: " ++ error.message
  | .loadingRules path error => s!"loading rules from {path}: " ++ error.message
  | .loadingGraph path error => s!"loading graph from {path}: " ++ error.message
  | .judging error => error.message
  | .writing path failure => s!"writing {path}: " ++ failure.message

def exit : Failure → Exit
  | .loadingSettings error | .loadingRules _ error | .loadingGraph _ error | .judging error =>
      .ofError error
  | .writing .. => .failed

end Failure

structure Outcome where
  exit : Exit
  stdout : String := ""
  /-- A file that was written, with its text. -/
  written : Option (String × String) := none
  failure : Option Failure := none
deriving DecidableEq

namespace Outcome

def ofFailure (failure : Failure) : Outcome := { exit := failure.exit, failure := some failure }

end Outcome

def usageText : String := Report.unlines
  ["Validates a module dependency graph against architectural rules",
    "",
    "Usage: depfence [OPTIONS] [COMMAND]",
    "",
    "Commands:",
    "  validate     Evaluate a rule set against a graph document",
    "  check-rules  Validate a rule set without evaluating anything",
    "  help         Print this message or the help of the given subcommand(s)",
    "",
    "Options:",
    "      --config <FILE>  Configuration file (default: ./depfence.toml when present)",
    "  -v, --verbose        Log phase timings and counts to stderr",
    "  -h, --help           Print help",
    "  -V, --version        Print version"]

def versionText : String := Report.unlines ["depfence 0.1.0"]

structure Assessment where
  settings : Settings
  graph : Graph
  summary : Summary

/-- Loads the rules, from a file if one is named, and makes a judge of them. -/
def appoint (read : ReadFile) (path : Option String) : Except Failure Judge := do
  let rules ← (RuleSet.load read path).mapError (.loadingRules (path.getD ""))
  (Judge.ofRules rules).mapError .judging

/-- The stages of a run up to the judgement. -/
def assess (files : FileSystem) (arguments : ValidateArguments) : Except Failure Assessment := do
  let settings ← (Settings.load files arguments.config).mapError .loadingSettings
  let judge ← appoint files.read arguments.rules
  let judge ← (settings.applyTo judge).mapError .judging
  let judge := if arguments.isSequential then { judge with isParallel := false } else judge
  let graph ← (Graph.load files.read arguments.graph).mapError (.loadingGraph arguments.graph)
  let (graph, summary) ← (judge.assess graph).mapError .judging
  return { settings, graph, summary }

namespace Assessment

def shown (painted : Bool) (format : Format) (assessment : Assessment) : String :=
  match format with
  | .text => Report.text painted assessment.graph assessment.summary
  | .json => assessment.graph.toJson.pretty ++ "\n"

/-- How a run ends whose stages all succeed. -/
def exit (assessment : Assessment) : Exit :=
  if assessment.settings.judge.failureLevel.fails assessment.summary then .violated else .passed

end Assessment

/-- Judges a graph, shows the outcome, and writes the graph where that is asked for. -/
def runValidate (files : FileSystem) (painted : Bool) (arguments : ValidateArguments) : Outcome :=
  match assess files arguments with
  | .error failure => .ofFailure failure
  | .ok assessment =>
      let stdout := assessment.shown painted arguments.format
      match arguments.output with
      | none => { exit := assessment.exit, stdout }
      | some path =>
          match files.write path with
          | .error failure =>
              let failure := Failure.writing path failure
              { exit := failure.exit, stdout, failure }
          | .ok () =>
              { exit := assessment.exit, stdout,
                written := some (path, assessment.graph.toJson.pretty) }

def runCheckRules (files : FileSystem) (painted : Bool) (path : String) : Outcome :=
  match appoint files.read (some path) with
  | .error failure => .ofFailure failure
  | .ok judge =>
      let forbidden := judge.rules.forbidden.length
      let allowed := judge.rules.allowed.length
      { exit := .passed
        stdout := Report.unlines
          [Report.paint painted .green "✓ Rule set is valid:" ++
            s!" {forbidden} forbidden, {allowed} allowed"] }

def run (files : FileSystem) (painted : Bool) : Command → Outcome
  | .usage => { exit := .passed, stdout := usageText }
  | .validate arguments => runValidate files painted arguments
  | .checkRules path => runCheckRules files painted path

end CommandLine

end DependencyRules
