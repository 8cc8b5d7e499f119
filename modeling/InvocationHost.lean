import InvocationHost.Backtrace.Selection
import InvocationHost.Host
import InvocationHost.Json.Access
import InvocationHost.Log.Settings
import InvocationHost.Rehearsal.Handlers
import InvocationHost.Rehearsal.Performance
import InvocationHost.Rehearsal.Script
import InvocationHost.Proofs.UserCode
import InvocationHost.Proofs.Stages
import InvocationHost.Proofs.Reports
import InvocationHost.Proofs.PanicRecords
import InvocationHost.Proofs.Run
import InvocationHost.Proofs.Moves
import InvocationHost.Proofs.Alternation
import InvocationHost.Proofs.Talk
import InvocationHost.Proofs.Hooks
import InvocationHost.Proofs.GracefulEnd
import InvocationHost.Proofs.Lanes
import InvocationHost.Proofs.OrderlyShutdown
import InvocationHost.Proofs.Enrolment
import InvocationHost.Proofs.LoopRounds
import InvocationHost.Proofs.Delivery
import InvocationHost.Proofs.Completion
import InvocationHost.Proofs.Lines
import InvocationHost.Proofs.Numerals
import InvocationHost.Proofs.OwnBlock
import InvocationHost.Proofs.Rendering
import InvocationHost.Proofs.CrateNames
import InvocationHost.Proofs.Containment
import InvocationHost.Proofs.Turns
import InvocationHost.Proofs.UserPart
import InvocationHost.Proofs.TraceSlot
import InvocationHost.Proofs.FetchedInvocation
import InvocationHost.Proofs.Verdicts
import InvocationHost.Proofs.Independence
import InvocationHost.Proofs.Characters
import InvocationHost.Proofs.Lexemes
import InvocationHost.Proofs.Documents
import InvocationHost.Proofs.Records
import InvocationHost.Proofs.FailureBodies
import InvocationHost.Proofs.EventBodies
import InvocationHost.Proofs.TraitImpls
import InvocationHost.Proofs.PanicSites
import InvocationHost.Proofs.References
import InvocationHost.Proofs.DefaultTags
import InvocationHost.Proofs.ReferredNames
import InvocationHost.Proofs.ScopedNames
import InvocationHost.Proofs.Overrides
import InvocationHost.Proofs.Deadlines
import InvocationHost.Proofs.SourcePaths
import InvocationHost.Proofs.ReportPaths
import InvocationHost.Proofs.Journal
import InvocationHost.Proofs.Labels
