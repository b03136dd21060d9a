import DependencyRules.Violation.Basic

/-!
# The written form of violations and summaries

Reading from documents and writing as JSON. Fields are written in a fixed order; absent comments
and ways and empty cycles are left out.
-/

namespace DependencyRules

open Document

namespace RuleReference

instance : FromDocument RuleReference where
  ofDocument? format document := do
    let fields ← document.fields? format ["name", "severity"]
    return {
      name := ← fields.required "name"
      severity := ← fields.required "severity" }

def toJson (rule : RuleReference) : Json :=
  .record [("name", some (.string rule.name)), ("severity", some rule.severity.toJson)]

end RuleReference

namespace BrokenRule

instance : FromDocument BrokenRule where
  ofDocument? format document := do
    let fields ← document.fields? format ["name", "severity", "comment"]
    return {
      name := ← fields.required "name"
      severity := ← fields.required "severity"
      comment := ← fields.optional "comment" }

def toJson (rule : BrokenRule) : Json :=
  .record [("name", some (.string rule.name)), ("severity", some rule.severity.toJson),
    ("comment", rule.comment.map .string)]

end BrokenRule

namespace Violation

instance : FromDocument Violation where
  ofDocument? format document := do
    let fields ← document.fields? format ["rule", "from", "to", "cycle", "via"]
    return {
      rule := ← fields.required "rule"
      source := ← fields.required "from"
      target := ← fields.required "to"
      cycle := ← fields.withDefault "cycle" []
      via := ← fields.optional "via" }

def toJson (violation : Violation) : Json :=
  .record [("rule", some violation.rule.toJson),
    ("from", some (.string violation.source)),
    ("to", some (.string violation.target)),
    ("cycle", Json.nonEmptyArray (violation.cycle.map .string)),
    ("via", violation.via.map Json.strings)]

end Violation

namespace Summary

def fieldNames : List String :=
  ["violations", "error", "warn", "info", "totalCruised", "totalDependenciesCruised"]

instance : FromDocument Summary where
  ofDocument? format document := do
    let fields ← document.entries? format
    return {
      violations := ← fields.withDefault "violations" []
      error := ← fields.withDefault "error" 0
      warn := ← fields.withDefault "warn" 0
      info := ← fields.withDefault "info" 0
      totalCruised := ← fields.withDefault "totalCruised" 0
      totalDependenciesCruised := ← fields.withDefault "totalDependenciesCruised" 0
      extra := ← fields.extra? fieldNames }

def toJson (summary : Summary) : Json :=
  .record
    [("violations", some (.array (summary.violations.map Violation.toJson))),
      ("error", some (.int summary.error)),
      ("warn", some (.int summary.warn)),
      ("info", some (.int summary.info)),
      ("totalCruised", some (.int summary.totalCruised)),
      ("totalDependenciesCruised", some (.int summary.totalDependenciesCruised))]
    summary.extra

end Summary

end DependencyRules
