import DependencyRules.CommandLine.Run
import DependencyRules.Main
import DependencyRules.Proofs.Acceptance
import DependencyRules.Proofs.AddedDependency
import DependencyRules.Proofs.Agreement
import DependencyRules.Proofs.BookedArrivals
import DependencyRules.Proofs.CarriedData
import DependencyRules.Proofs.Clauses
import DependencyRules.Proofs.Components
import DependencyRules.Proofs.CycleListing
import DependencyRules.Proofs.Cycles
import DependencyRules.Proofs.Deliveries
import DependencyRules.Proofs.DerivedData
import DependencyRules.Proofs.DocumentValues
import DependencyRules.Proofs.Exploration
import DependencyRules.Proofs.FirstDefect
import DependencyRules.Proofs.FirstError
import DependencyRules.Proofs.JsonScalars
import DependencyRules.Proofs.JsonText
import DependencyRules.Proofs.Judgement
import DependencyRules.Proofs.Links
import DependencyRules.Proofs.Lists
import DependencyRules.Proofs.Marks
import DependencyRules.Proofs.Matching
import DependencyRules.Proofs.ModuleOrder
import DependencyRules.Proofs.NamedRules
import DependencyRules.Proofs.Outcomes
import DependencyRules.Proofs.PatternSize
import DependencyRules.Proofs.PlainAnalyses
import DependencyRules.Proofs.PlainComponents
import DependencyRules.Proofs.PlainExploration
import DependencyRules.Proofs.PlainTables
import DependencyRules.Proofs.Reachability
import DependencyRules.Proofs.Records
import DependencyRules.Proofs.Renumbering
import DependencyRules.Proofs.Rings
import DependencyRules.Proofs.RoundTrip
import DependencyRules.Proofs.Routes
import DependencyRules.Proofs.RuleOrder
import DependencyRules.Proofs.RuleSets
import DependencyRules.Proofs.SearchInvariant
import DependencyRules.Proofs.SharedHeadings
import DependencyRules.Proofs.Soundness
import DependencyRules.Proofs.StandaloneNames
import DependencyRules.Proofs.Tally
import DependencyRules.Proofs.TieBreaking
import DependencyRules.Proofs.Verdicts
