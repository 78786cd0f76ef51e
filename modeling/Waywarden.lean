import Waywarden.Lib.Effect
import Waywarden.Lib.Machine
import Waywarden.Lib.Trim
import Waywarden.Lib.KeyedTable
import Waywarden.Lib.InPlace
import Waywarden.Lib.SeqLog
import Waywarden.Lib.Wildcard
import Waywarden.Lib.Delimited
import Waywarden.Lib.PosixPath
import Waywarden.Lib.Decimal
import Waywarden.Lib.Json
import Waywarden.Lib.JsonText
import Waywarden.Lib.DataClass
import Waywarden.Lib.Lines
import Waywarden.Lib.DepthFirst
import Waywarden.Lib.Lowercase
import Waywarden.Lib.Tally
import Waywarden.Domain.Basic
import Waywarden.Domain.Run
import Waywarden.Domain.RunEvent
import Waywarden.Domain.Approval
import Waywarden.Domain.Task
import Waywarden.Infra.Store
import Waywarden.Infra.RunRepository
import Waywarden.Infra.RunEventRepository
import Waywarden.Infra.RecordRepositories
import Waywarden.Infra.WorkspaceManifestRepository
import Waywarden.Infra.ManifestWriter
import Waywarden.Domain.Manifest
import Waywarden.Domain.ManifestFields
import Waywarden.Domain.Narrowing
import Waywarden.Domain.Validation
import Waywarden.Domain.Delegation
import Waywarden.Domain.Handoff
import Waywarden.Policy.Loader
import Waywarden.Domain.Durability
import Waywarden.Domain.Team
import Waywarden.Services.RunLifecycle
import Waywarden.Services.Resume
import Waywarden.Services.ApprovalEngine
import Waywarden.Services.ApprovalHook
import Waywarden.Services.AdversarialReview
import Waywarden.Services.Milestones
import Waywarden.Services.Orchestration
import Waywarden.Services.EATaskService
import Waywarden.Services.TaskOutcomes
import Waywarden.Services.CodingHandoff
import Waywarden.Services.DispatcherWorkflow
import Waywarden.Services.PlanRevision
import Waywarden.Services.TillDone
import Waywarden.Api.Chat
import Waywarden.Api.EventFrames
import Waywarden.Cli.Chat
import Waywarden.Api.RunEvents
import Waywarden.System.EntryMachine
import Waywarden.System.EventNames
import Waywarden.System.EventStream
import Waywarden.System.RecoveryMachine
import Waywarden.System.RecoveryLoop
import Waywarden.System.RunMachine
import Waywarden.System.ApprovalMachine
import Waywarden.System.TaskMachine
import Waywarden.System.ConcurrentAppend
import Waywarden.System.ConcurrentVerbs
import Waywarden.System.ConcurrentCreate
import Waywarden.Properties.TerminalImmutability
import Waywarden.Properties.Replay
import Waywarden.Properties.ApprovalFinality
import Waywarden.Properties.TaskApproval
import Waywarden.Properties.DelegatedAuthority
import Waywarden.Properties.DelegationChains
import Waywarden.Properties.SequenceContiguity
import Waywarden.Properties.ConcurrentLog
import Waywarden.Properties.ApprovalAtomicity
import Waywarden.Properties.GateIsolation
import Waywarden.Properties.EventIds
import Waywarden.Properties.Recovery
import Waywarden.Properties.RecoveryOrder
import Waywarden.Properties.ManifestDrift
import Waywarden.Properties.CreatedRuns
import Waywarden.Properties.StreamFrames
import Waywarden.Properties.StreamEnd
import Waywarden.Properties.StreamWakeUp
import Waywarden.Properties.EndedTasks
import Waywarden.Properties.TaskCoherence
import Waywarden.Properties.TaskAtomicity
import Waywarden.Properties.CreatedTasks
import Waywarden.Properties.PolicyOverrides
import Waywarden.Properties.ManifestSchema
import Waywarden.Properties.ManifestRoundTrip
import Waywarden.Properties.DelegationEnvelopes
import Waywarden.Properties.DispatcherPackages
import Waywarden.Properties.RecordedResumes
import Waywarden.Properties.FrameContents
import Waywarden.Properties.ChatDecoding
import Waywarden.Properties.TillDoneStream
import Waywarden.Properties.TillDoneRevisions
import Waywarden.Properties.HandoffCycles
import Waywarden.Domain.Pipeline
import Waywarden.Assets.Schema
import Waywarden.Properties.AssetSchemas
import Waywarden.Services.Scheduler
import Waywarden.Properties.SchedulerAccounts
import Waywarden.Services.HandoffCheckpoints
import Waywarden.Services.Briefing
import Waywarden.System.MilestoneMachine
import Waywarden.Properties.MilestoneCatalog
import Waywarden.Properties.WritableOverlaps
import Waywarden.Properties.TillDonePolicy
import Waywarden.Properties.DecisionEvents
import Waywarden.Properties.AdversarialGate
import Waywarden.Properties.HostileMetadata
import Waywarden.Properties.StartedRuns
import Waywarden.Domain.TokenUsage
import Waywarden.Infra.TimestampColumn
import Waywarden.Infra.TokenUsageRepository
import Waywarden.Properties.TokenAccounting
import Waywarden.Adapters.ModelRouter
import Waywarden.Properties.ModelCallAccounting
import Waywarden.Lib.IntText
import Waywarden.Domain.ValueText
import Waywarden.Services.Visibility
import Waywarden.Properties.RunSnapshots
import Waywarden.Properties.EventRoundTrip
import Waywarden.Lib.Itinerary
import Waywarden.Services.PipelineExecution
import Waywarden.Properties.PipelineWalks
import Waywarden.Properties.DeadlockChecks
import Waywarden.Properties.DeclaredRoutes
import Waywarden.System.ConcurrentHandoffs
import Waywarden.Properties.HandoffIds
import Waywarden.Properties.SelectedOutputs
import Waywarden.Services.ContextBuilder
import Waywarden.Properties.ContextBounds
import Waywarden.Lib.Regex
import Waywarden.Domain.ContextProvider
import Waywarden.Properties.ScrubbedSecrets
import Waywarden.Assets.Loader
import Waywarden.Properties.AssetFilters
import Waywarden.Properties.MalformedFilters
import Waywarden.Lib.LetterPatterns
import Waywarden.Assets.Version
import Waywarden.Lib.RecordSchema
import Waywarden.Assets.Fields
import Waywarden.Assets.Entries
import Waywarden.Assets.Metadata
import Waywarden.Properties.AssetVersions
import Waywarden.Properties.AssetDicts
import Waywarden.Lib.Occurrence
import Waywarden.Lib.Ranking
import Waywarden.Adapters.FilesystemKnowledge
import Waywarden.Properties.KnowledgeSearch
import Waywarden.Services.Triage
import Waywarden.Services.Routine
import Waywarden.System.StoreWrites
import Waywarden.System.Harness
import Waywarden.Api.RunView
import Waywarden.Properties.HarnessRuns
import Waywarden.Properties.RunViews
import Waywarden.Properties.ChatDelivery
import Waywarden.Api.Subscribers
import Waywarden.Properties.ManyClients
import Waywarden.Properties.RoutineTasks
import Waywarden.Lib.Collect
import Waywarden.Extensions.Registry
import Waywarden.Domain.Profile
import Waywarden.Profiles.Loader
import Waywarden.Properties.ProfileStartup
import Waywarden.Assets.Directory
import Waywarden.Profiles.Hydrate
import Waywarden.Properties.HydratedViews
import Waywarden.Properties.RoutineFiles
import Waywarden.Properties.WrittenAssets
import Waywarden.Adapters.FakeMemory
import Waywarden.Properties.MemoryContext
import Waywarden.Services.TeamProgress
import Waywarden.Properties.TeamReports
import Waywarden.Tools.Registry
import Waywarden.Tools.ShellRead
import Waywarden.Properties.ToolDispatch
