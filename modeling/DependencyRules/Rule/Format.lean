import DependencyRules.Document.JsonText
import DependencyRules.Document.TomlText
import DependencyRules.Json.Writer
import DependencyRules.Rule.Basic

/-!
# The written form of rules

Reading rule sets from documents and writing them as JSON. Absent clauses are left out; both ends
of a rule are always written.
-/

namespace DependencyRules

open Document

namespace SourceRestriction

instance : FromDocument SourceRestriction where
  ofDocument? format document := do
    let fields ← document.fields? format ["path", "pathNot", "orphan"]
    return {
      path := ← fields.optional "path"
      pathNot := ← fields.optional "pathNot"
      orphan := ← fields.optional "orphan" }

def toJson (source : SourceRestriction) : Json :=
  .record [("path", source.path.map .string),
    ("pathNot", source.pathNot.map .string),
    ("orphan", source.orphan.map .bool)]

end SourceRestriction

namespace TargetRestriction

/-- The clauses of a restriction in their order. -/
def fieldNames : List String :=
  ["path", "pathNot", "couldNotResolve", "circular", "dynamic", "dependencyTypes",
    "dependencyTypesNot", "moreThanOneDependencyType", "license", "licenseNot",
    "exoticallyRequired", "exoticRequire", "exoticRequireNot", "via", "viaNot", "reachable",
    "orphan"]

instance : FromDocument TargetRestriction where
  ofDocument? format document := do
    let fields ← document.fields? format fieldNames
    return {
      path := ← fields.optional "path"
      pathNot := ← fields.optional "pathNot"
      couldNotResolve := ← fields.optional "couldNotResolve"
      circular := ← fields.optional "circular"
      isDynamic := ← fields.optional "dynamic"
      dependencyTypes := ← fields.optional "dependencyTypes"
      dependencyTypesNot := ← fields.optional "dependencyTypesNot"
      moreThanOneDependencyType := ← fields.optional "moreThanOneDependencyType"
      license := ← fields.optional "license"
      licenseNot := ← fields.optional "licenseNot"
      exoticallyRequired := ← fields.optional "exoticallyRequired"
      exoticRequire := ← fields.optional "exoticRequire"
      exoticRequireNot := ← fields.optional "exoticRequireNot"
      via := ← fields.optional "via"
      viaNot := ← fields.optional "viaNot"
      reachable := ← fields.optional "reachable"
      orphan := ← fields.optional "orphan" }

def typesToJson (types : List DependencyType) : Json := .array (types.map DependencyType.toJson)

def toJson (target : TargetRestriction) : Json :=
  .record [("path", target.path.map .string),
    ("pathNot", target.pathNot.map .string),
    ("couldNotResolve", target.couldNotResolve.map .bool),
    ("circular", target.circular.map .bool),
    ("dynamic", target.isDynamic.map .bool),
    ("dependencyTypes", target.dependencyTypes.map typesToJson),
    ("dependencyTypesNot", target.dependencyTypesNot.map typesToJson),
    ("moreThanOneDependencyType", target.moreThanOneDependencyType.map .bool),
    ("license", target.license.map .string),
    ("licenseNot", target.licenseNot.map .string),
    ("exoticallyRequired", target.exoticallyRequired.map .bool),
    ("exoticRequire", target.exoticRequire.map .string),
    ("exoticRequireNot", target.exoticRequireNot.map .string),
    ("via", target.via.map .string),
    ("viaNot", target.viaNot.map .string),
    ("reachable", target.reachable.map .bool),
    ("orphan", target.orphan.map .bool)]

end TargetRestriction

namespace Rule

instance : FromDocument Rule where
  ofDocument? format document := do
    let fields ← document.fields? format ["name", "severity", "comment", "from", "to"]
    return {
      name := ← fields.optional "name"
      severity := ← fields.optional "severity"
      comment := ← fields.optional "comment"
      source := ← fields.withDefault "from" {}
      target := ← fields.withDefault "to" {} }

def toJson (rule : Rule) : Json :=
  .record [("name", rule.name.map .string),
    ("severity", rule.severity.map Severity.toJson),
    ("comment", rule.comment.map .string),
    ("from", some rule.source.toJson),
    ("to", some rule.target.toJson)]

end Rule

namespace RuleSet

instance : FromDocument RuleSet where
  ofDocument? format document := do
    let fields ← document.fields? format ["forbidden", "allowed", "allowedSeverity", "options"]
    return {
      forbidden := ← fields.withDefault "forbidden" []
      allowed := ← fields.withDefault "allowed" []
      allowedSeverity := ← fields.withDefault "allowedSeverity" .warn
      options := ← fields.optional "options" }

def toJson (rules : RuleSet) : Json :=
  .record [("forbidden", some (.array (rules.forbidden.map Rule.toJson))),
    ("allowed", some (.array (rules.allowed.map Rule.toJson))),
    ("allowedSeverity", some rules.allowedSeverity.toJson),
    ("options", rules.options)]

def ofJsonText? (text : String) : Option RuleSet :=
  (Document.ofJsonText? text).bind (ofDocument? .json)

def ofTomlText? (text : String) : Option RuleSet :=
  (Document.ofTomlText? text).bind (ofDocument? .toml)

end RuleSet

end DependencyRules
