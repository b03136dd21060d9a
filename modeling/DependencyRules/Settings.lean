import DependencyRules.Document.TomlText
import DependencyRules.Judge

/-!
# Settings

Settings that do not belong to a rule set: how a run is carried out, when it counts as failed, and
which further files stand alone.
-/

namespace DependencyRules

open Document

/-- The lightest violation that fails a run. -/
inductive FailureLevel where
  | error
  | warn
  | info
  /-- No violation fails a run. -/
  | never
deriving DecidableEq

namespace FailureLevel

instance : Inhabited FailureLevel := ⟨.error⟩

def label : FailureLevel → String
  | .error => "error"
  | .warn => "warn"
  | .info => "info"
  | .never => "never"

def ofLabel? (word : String) : Option FailureLevel :=
  if word = "error" then some .error
  else if word = "warn" then some .warn
  else if word = "info" then some .info
  else if word = "never" then some .never
  else none

/-- The least severity that fails a run, if any does. -/
def threshold : FailureLevel → Option Severity
  | .error => some .error
  | .warn => some .warn
  | .info => some .info
  | .never => none

def fails (level : FailureLevel) (summary : Summary) : Bool :=
  level.threshold.any fun severity => 0 < summary.countFrom severity

instance : FromDocument FailureLevel where
  ofDocument? format document := (document.word? format).bind ofLabel?

theorem ofLabel?_label (level : FailureLevel) : ofLabel? level.label = some level := by
  cases level <;> decide

end FailureLevel

structure JudgeSettings where
  isParallel : Bool := true
  failureLevel : FailureLevel := .error
deriving DecidableEq

namespace JudgeSettings

instance : FromDocument JudgeSettings where
  ofDocument? format document := do
    let fields ← document.fields? format ["parallel", "fail_on"]
    return {
      isParallel := ← fields.withDefault "parallel" true
      failureLevel := ← fields.withDefault "fail_on" .error }

end JudgeSettings

/-- Which files stand alone, besides the built-in ones. -/
structure StandaloneSettings where
  patterns : List String := []
deriving DecidableEq

namespace StandaloneSettings

instance : FromDocument StandaloneSettings where
  ofDocument? format document := do
    let fields ← document.fields? format ["extra_exceptions"]
    return { patterns := ← fields.withDefault "extra_exceptions" [] }

def names (settings : StandaloneSettings) : Except Error StandaloneNames :=
  StandaloneNames.withPatterns settings.patterns

end StandaloneSettings

structure Settings where
  judge : JudgeSettings := {}
  standalone : StandaloneSettings := {}
deriving DecidableEq

namespace Settings

instance : FromDocument Settings where
  ofDocument? format document := do
    let fields ← document.fields? format ["engine", "orphans"]
    return {
      judge := ← fields.withDefault "engine" {}
      standalone := ← fields.withDefault "orphans" {} }

def ofTomlText? (text : String) : Option Settings :=
  (Document.ofTomlText? text).bind (ofDocument? .toml)

def applyTo (settings : Settings) (judge : Judge) : Except Error Judge := do
  let standalone ← settings.standalone.names
  return { judge with isParallel := settings.judge.isParallel, standalone }

end Settings

end DependencyRules
