import DependencyRules.Graph.Cycles
import DependencyRules.Violation.Basic

/-!
# The report for a terminal

The violations of a summary one by one, the distinct cycles of the graph, and a tally. A report is
plain text or is painted with terminal escapes.
-/

namespace DependencyRules

namespace Report

inductive Paint where
  | bold
  | dimmed
  | red
  | green
  | yellow
  | blue
  | boldRed
  | boldYellow
  | boldCyan
deriving DecidableEq

namespace Paint

def codes : Paint → String
  | .bold => "1"
  | .dimmed => "2"
  | .red => "31"
  | .green => "32"
  | .yellow => "33"
  | .blue => "34"
  | .boldRed => "1;31"
  | .boldYellow => "1;33"
  | .boldCyan => "1;36"

end Paint

/-- The escape that ends all painting. -/
def reset : String := "\x1b[0m"

/-- A text in a paint, where the report is painted. A text that ends painting itself is painted
again after that. -/
def paint (painted : Bool) (paint : Paint) (text : String) : String :=
  if painted then
    let start := "\x1b[" ++ paint.codes ++ "m"
    start ++ text.replace reset (reset ++ start) ++ reset
  else text

def severity (painted : Bool) (severity : Severity) : String :=
  match severity with
  | .error => paint painted .boldRed severity.label
  | .warn => paint painted .boldYellow severity.label
  | .info => paint painted .blue severity.label

/-- What stands between the modules of a way. -/
def arrow : String := " → "

/-- The first line of a report, after a blank one. -/
def header (painted : Bool) (summary : Summary) : List String :=
  ["", paint painted .boldCyan "DEPFENCE" ++
    s!" {summary.totalCruised} modules | {summary.totalDependenciesCruised} dependencies"]

/-- The lines about a violation: the rule and both ends, the cycle, the way and the comment. -/
def violation (painted : Bool) (violation : Violation) : List String :=
  let target :=
    if violation.source = violation.target then ""
    else arrow ++ paint painted .red violation.target
  let steps (label : String) (modules : List String) : String :=
    "      " ++ label ++ ": " ++ paint painted .dimmed (arrow.intercalate modules)
  let via := (violation.via.filter fun via => 1 < via.length).toList
  ["", "  " ++ severity painted violation.severity ++ " " ++
      paint painted .bold violation.rule.name ++ ": " ++ violation.source ++ target] ++
    (if violation.cycle.isEmpty then [] else [steps "cycle" violation.cycle]) ++
    via.map (steps "via") ++
    violation.rule.comment.toList.map fun comment => "      " ++ paint painted .dimmed comment

def cycles (painted : Bool) (cycles : List (List String)) : List String :=
  if cycles.isEmpty then []
  else
    ["", paint painted .boldYellow "CYCLES"] ++ cycles.map fun cycle =>
      "  " ++ arrow.intercalate cycle ++ arrow ++ cycle.head?.getD ""

/-- A count that should be zero. -/
def count (painted : Bool) (n : Nat) : String :=
  paint painted (if n = 0 then .green else .red) (toString n)

/-- The last line of a report, after a blank one. -/
def tally (painted : Bool) (summary : Summary) : List String :=
  ["", "  " ++ count painted summary.violations.length ++ " violations (" ++
    count painted summary.error ++ " errors, " ++
    paint painted .yellow (toString summary.warn) ++ " warnings, " ++
    toString summary.info ++ " info)"]

def lines (painted : Bool) (graph : Graph) (summary : Summary) : List String :=
  header painted summary ++
    if summary.isClean then [paint painted .green "  ✓ No dependency violations found."]
    else
      summary.violations.flatMap (violation painted) ++ cycles painted graph.cycles ++
        tally painted summary

def unlines (lines : List String) : String := String.join (lines.map (· ++ "\n"))

def text (painted : Bool) (graph : Graph) (summary : Summary) : String :=
  unlines (lines painted graph summary)

end Report

end DependencyRules
