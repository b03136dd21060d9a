import DependencyRules.Document.JsonText
import DependencyRules.Graph.Basic
import DependencyRules.Json.Writer
import DependencyRules.Violation.Format

/-!
# The written form of graphs

Reading graphs from documents and writing them as JSON. Entries without a field of their own are
extra data: they keep their order and are written after the fields.
-/

namespace DependencyRules

open Document

namespace Dependency

/-- The fields of a dependency; every other entry is extra data. -/
def fieldNames : List String :=
  ["module", "resolved", "dependencyTypes", "dynamic", "followable", "circular", "cycle",
    "couldNotResolve", "license", "exoticallyRequired", "exoticRequire", "valid", "rules"]

instance : FromDocument Dependency where
  ofDocument? format document := do
    let fields ← document.entries? format
    return {
      specifier := ← fields.required "module"
      resolved := ← fields.withDefault "resolved" ""
      dependencyTypes := ← fields.withDefault "dependencyTypes" []
      isDynamic := ← fields.withDefault "dynamic" false
      followable := ← fields.withDefault "followable" true
      circular := ← fields.withDefault "circular" false
      cycle := ← fields.withDefault "cycle" []
      couldNotResolve := ← fields.withDefault "couldNotResolve" false
      license := ← fields.optional "license"
      exoticallyRequired := ← fields.withDefault "exoticallyRequired" false
      exoticRequire := ← fields.optional "exoticRequire"
      valid := ← fields.optional "valid"
      rules := ← fields.withDefault "rules" []
      extra := ← fields.extra? fieldNames }

def toJson (dependency : Dependency) : Json :=
  .record
    [("module", some (.string dependency.specifier)),
      ("resolved", some (.string dependency.resolved)),
      ("dependencyTypes", some (.array (dependency.dependencyTypes.map DependencyType.toJson))),
      ("dynamic", some (.bool dependency.isDynamic)),
      ("followable", some (.bool dependency.followable)),
      ("circular", some (.bool dependency.circular)),
      ("cycle", Json.nonEmptyArray (dependency.cycle.map .string)),
      ("couldNotResolve", some (.bool dependency.couldNotResolve)),
      ("license", dependency.license.map .string),
      ("exoticallyRequired", some (.bool dependency.exoticallyRequired)),
      ("exoticRequire", dependency.exoticRequire.map .string),
      ("valid", dependency.valid.map .bool),
      ("rules", Json.nonEmptyArray (dependency.rules.map RuleReference.toJson))]
    dependency.extra

end Dependency

namespace Route

instance : FromDocument Route where
  ofDocument? format document := do
    let fields ← document.fields? format ["source", "via"]
    return {
      source := ← fields.required "source"
      via := ← fields.withDefault "via" [] }

def toJson (route : Route) : Json :=
  .record [("source", some (.string route.source)),
    ("via", Json.nonEmptyArray (route.via.map .string))]

end Route

namespace Routes

instance : FromDocument Routes where
  ofDocument? format document := do
    let fields ← document.fields? format ["modules", "asDefinedInRule"]
    return {
      routes := ← fields.required "modules"
      heading := ← fields.required "asDefinedInRule" }

def toJson (routes : Routes) : Json :=
  .record [("modules", some (.array (routes.routes.map Route.toJson))),
    ("asDefinedInRule", some (.string routes.heading))]

end Routes

namespace Arrival

instance : FromDocument Arrival where
  ofDocument? format document := do
    let fields ← document.fields? format ["value", "asDefinedInRule", "matchedFrom"]
    return {
      isReached := ← fields.required "value"
      heading := ← fields.required "asDefinedInRule"
      root := ← fields.optional "matchedFrom" }

def toJson (arrival : Arrival) : Json :=
  .record [("value", some (.bool arrival.isReached)),
    ("asDefinedInRule", some (.string arrival.heading)),
    ("matchedFrom", arrival.root.map .string)]

end Arrival

namespace Module

def fieldNames : List String :=
  ["source", "orphan", "dependencies", "dependents", "reaches", "reachable", "valid", "rules"]

instance : FromDocument Module where
  ofDocument? format document := do
    let fields ← document.entries? format
    return {
      source := ← fields.required "source"
      orphan := ← fields.withDefault "orphan" false
      dependencies := ← fields.withDefault "dependencies" []
      dependents := ← fields.optional "dependents"
      reaches := ← fields.optional "reaches"
      reachable := ← fields.optional "reachable"
      valid := ← fields.optional "valid"
      rules := ← fields.withDefault "rules" []
      extra := ← fields.extra? fieldNames }

def toJson (m : Module) : Json :=
  .record
    [("source", some (.string m.source)),
      ("orphan", some (.bool m.orphan)),
      ("dependencies", some (.array (m.dependencies.map Dependency.toJson))),
      ("dependents", m.dependents.map Json.strings),
      ("reaches", m.reaches.map fun entries => .array (entries.map Routes.toJson)),
      ("reachable", m.reachable.map fun entries => .array (entries.map Arrival.toJson)),
      ("valid", m.valid.map .bool),
      ("rules", Json.nonEmptyArray (m.rules.map RuleReference.toJson))]
    m.extra

end Module

namespace Graph

def fieldNames : List String := ["modules", "folders", "summary"]

instance : FromDocument Graph where
  ofDocument? format document := do
    let fields ← document.entries? format
    return {
      modules := ← fields.required "modules"
      folders := ← fields.optional "folders"
      summary := ← fields.withDefault "summary" {}
      extra := ← fields.extra? fieldNames }

def toJson (graph : Graph) : Json :=
  .record
    [("modules", some (.array (graph.modules.map Module.toJson))),
      ("folders", graph.folders.map .array),
      ("summary", some graph.summary.toJson)]
    graph.extra

def ofJsonText? (text : String) : Option Graph :=
  (Document.ofJsonText? text).bind (ofDocument? .json)

end Graph

end DependencyRules
