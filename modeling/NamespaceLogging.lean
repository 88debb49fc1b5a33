import NamespaceLogging.Proofs.Acts
import NamespaceLogging.Record.ErrorReport
import NamespaceLogging.Session.Run
import NamespaceLogging.Proofs.Turns
import NamespaceLogging.Proofs.Changes
import NamespaceLogging.Proofs.Lasting
import NamespaceLogging.Proofs.Balance
import NamespaceLogging.Proofs.Regular
import NamespaceLogging.Proofs.RegularObjects
import NamespaceLogging.Proofs.RegularHooks
import NamespaceLogging.Proofs.Closing
import NamespaceLogging.Proofs.Failing
import NamespaceLogging.Proofs.RegularEngines
import NamespaceLogging.Proofs.RegularRouters
import NamespaceLogging.Proofs.RegularSteps
import NamespaceLogging.Proofs.Programs
import NamespaceLogging.Proofs.Order
import NamespaceLogging.Proofs.Conservation
import NamespaceLogging.Proofs.RouteCache
import NamespaceLogging.Proofs.Listing
import NamespaceLogging.Proofs.HookDiscipline
import NamespaceLogging.Proofs.Parting
import NamespaceLogging.Proofs.KillSwitch
import NamespaceLogging.Proofs.Namespaces
import NamespaceLogging.Proofs.Precedence
import NamespaceLogging.Proofs.LastFlush
import NamespaceLogging.Proofs.LogCalls
import NamespaceLogging.Proofs.Gates
import NamespaceLogging.Proofs.Passages
import NamespaceLogging.Proofs.StreamEngines
import NamespaceLogging.Proofs.Building
import NamespaceLogging.Proofs.EffectiveLevels
import NamespaceLogging.Proofs.Writers
import NamespaceLogging.Proofs.TargetLines
import NamespaceLogging.Proofs.TargetShutdown
import NamespaceLogging.Proofs.ConfiguredTarget
import NamespaceLogging.Proofs.LayoutPrinting
import NamespaceLogging.Proofs.LayoutGrammar
import NamespaceLogging.Proofs.TemplateMeaning
import NamespaceLogging.Proofs.Readings
import NamespaceLogging.Proofs.ReportedProblems
import NamespaceLogging.Proofs.FinalValidation
import NamespaceLogging.Proofs.Edits
import NamespaceLogging.Proofs.References
import NamespaceLogging.Proofs.RegisteredNames
import NamespaceLogging.Proofs.Editing
import NamespaceLogging.Proofs.EditingRouters
import NamespaceLogging.Proofs.EditingEngines
import NamespaceLogging.Proofs.EditingSteps
import NamespaceLogging.Proofs.Delivery
import NamespaceLogging.Proofs.RouterShutdown
import NamespaceLogging.Proofs.Settling
import NamespaceLogging.Proofs.CascadeSteps
import NamespaceLogging.Proofs.LastWords
import NamespaceLogging.Proofs.Cascades
import NamespaceLogging.Proofs.Interleaving
import NamespaceLogging.Proofs.SharedLocks
import NamespaceLogging.Proofs.SharedRoutes
import NamespaceLogging.Proofs.SharedDrains
import NamespaceLogging.Proofs.PanickingHooks
import NamespaceLogging.Proofs.Acceptance
import NamespaceLogging.Proofs.OverrideLists
import NamespaceLogging.Proofs.IntegerDirectives
import NamespaceLogging.Proofs.SharedFilters
import NamespaceLogging.Proofs.TextParts
import NamespaceLogging.Proofs.SourcePositions
import NamespaceLogging.Proofs.Normalizing
import NamespaceLogging.Proofs.CauseChains
import NamespaceLogging.Proofs.ArgumentFates
import NamespaceLogging.Proofs.BacktraceText
import NamespaceLogging.Proofs.CapturedStacks
import NamespaceLogging.Proofs.LazyMessages
import NamespaceLogging.Proofs.Brackets
import NamespaceLogging.Proofs.SymbolParts
import NamespaceLogging.Proofs.Refilling
import NamespaceLogging.Proofs.LocatedFrames
import NamespaceLogging.Proofs.RecordPositions
