import Dipecs.Action.AndroidAdapter
import Dipecs.Action.BridgeReading
import Dipecs.Agent.AuthorisableIntents
import Dipecs.Agent.CandidateSelection
import Dipecs.Agent.CircuitBreaker
import Dipecs.Agent.CloudLlm.Translate
import Dipecs.Agent.CloudLlm.Translation
import Dipecs.Agent.CompositeLocalEvaluator
import Dipecs.Agent.ConfidenceRange
import Dipecs.Agent.IntentOrder
import Dipecs.Agent.LocalEvaluator
import Dipecs.Agent.Predictive.Accepted
import Dipecs.Agent.Predictive.Backend
import Dipecs.Agent.Predictive.Components
import Dipecs.Agent.Predictive.CoordinateAscent
import Dipecs.Agent.Predictive.EnsembleFit
import Dipecs.Agent.Predictive.Fusion
import Dipecs.Agent.Predictive.PopularityFallback
import Dipecs.Agent.Predictive.RankFusion
import Dipecs.Agent.Predictive.Ranking
import Dipecs.Agent.Predictive.RankingOrder
import Dipecs.Agent.Predictive.RankingSafety
import Dipecs.Agent.Predictive.TemporalTransitions
import Dipecs.Agent.Predictive.TrainedArtifacts
import Dipecs.Agent.Predictive.Training
import Dipecs.Agent.Predictive.Types
import Dipecs.Agent.Predictive.Validation
import Dipecs.Agent.PrefetchTarget
import Dipecs.Agent.Router
import Dipecs.Agent.RuleBased
import Dipecs.Agent.RuleTargets
import Dipecs.Bridge.Completion
import Dipecs.Bridge.ExecuteResponse
import Dipecs.Bridge.RemoteCalls
import Dipecs.Bridge.Runs
import Dipecs.Cli.AndroidBridge
import Dipecs.Cli.AuditStream
import Dipecs.Cli.NextApp.Delimited
import Dipecs.Cli.NextApp.Leakage
import Dipecs.Cli.NextApp.Loader
import Dipecs.Cli.NextApp.Split
import Dipecs.Cli.NextApp.Timestamps
import Dipecs.Cli.Replay
import Dipecs.Cli.ReplayAnonymity
import Dipecs.Cli.ReplayDeterminism
import Dipecs.Cli.ReplayIngress
import Dipecs.Cli.ReplaySteps
import Dipecs.Cli.ReplayWindows
import Dipecs.Cli.StageTallies
import Dipecs.Collector.AndroidJsonl
import Dipecs.Collector.CollectionStats
import Dipecs.Collector.ProcReader
import Dipecs.Collector.TailerClears
import Dipecs.Collector.TailerRuns
import Dipecs.Core.ActionLifecycle
import Dipecs.Core.AirgapNoninterference
import Dipecs.Core.BehaviorProfile
import Dipecs.Core.ContextBuilder
import Dipecs.Core.ContextMemory
import Dipecs.Core.MemoryCounters
import Dipecs.Core.MemoryPersistence
import Dipecs.Core.MemoryTallies
import Dipecs.Core.PolicyEngine
import Dipecs.Core.PrewarmAccounting
import Dipecs.Core.PrewarmAttribution
import Dipecs.Core.PrewarmFeedback
import Dipecs.Core.PrewarmRestarts
import Dipecs.Core.PrivacyAirgap
import Dipecs.Core.RecentFeedback
import Dipecs.Core.TextAnalysis
import Dipecs.Core.TraceEngine
import Dipecs.Core.TraceValidation
import Dipecs.Core.WindowArithmetic
import Dipecs.Core.WindowSummary
import Dipecs.Daemon.GracefulShutdown
import Dipecs.Daemon.Pipeline
import Dipecs.Daemon.PrivacyGate
import Dipecs.Daemon.ProcessingLoop
import Dipecs.Daemon.SummaryJobs
import Dipecs.Daemon.TwoTasks
import Dipecs.Device.ActionExecutors
import Dipecs.Device.ActionInputs
import Dipecs.Device.ActionSignature
import Dipecs.Device.ActionSocketServer
import Dipecs.Device.AndroidRawEventMapper
import Dipecs.Device.AuthBackoff
import Dipecs.Device.ContentPrefetcher
import Dipecs.Device.EnvelopeBinding
import Dipecs.Device.EventStore
import Dipecs.Device.Freshness
import Dipecs.Device.HonestOutcomes
import Dipecs.Device.NotificationAnalysis
import Dipecs.Device.OrgJson
import Dipecs.Device.PayloadSegments
import Dipecs.Device.Platform
import Dipecs.Device.PrefetchGuard
import Dipecs.Device.RawEventDecoding
import Dipecs.Device.RawEventRedaction
import Dipecs.Device.RawEventWire
import Dipecs.Device.ServerAuthenticity
import Dipecs.Device.SocketClients
import Dipecs.Device.Tags
import Dipecs.Device.TargetGate
import Dipecs.Device.TraceRedaction
import Dipecs.Library.Backoff
import Dipecs.Library.BufferedFile
import Dipecs.Library.Calendar
import Dipecs.Library.ChangeFeed
import Dipecs.Library.Channel
import Dipecs.Library.Checks
import Dipecs.Library.Comparison
import Dipecs.Library.Decay
import Dipecs.Library.Decimal
import Dipecs.Library.Descending
import Dipecs.Library.Folds
import Dipecs.Library.Framing
import Dipecs.Library.Grouping
import Dipecs.Library.Guards
import Dipecs.Library.Ieee
import Dipecs.Library.Json
import Dipecs.Library.Keyed
import Dipecs.Library.Lines
import Dipecs.Library.Lowercase
import Dipecs.Library.Machine
import Dipecs.Library.MachineInt
import Dipecs.Library.Merging
import Dipecs.Library.Positional
import Dipecs.Library.Progress
import Dipecs.Library.Ranking
import Dipecs.Library.Reordering
import Dipecs.Library.SortBy
import Dipecs.Library.SortedMap
import Dipecs.Library.Subnet
import Dipecs.Library.Tally
import Dipecs.Library.Text
import Dipecs.Library.Utf16
import Dipecs.Library.Utf8
import Dipecs.Library.Windowing
import Dipecs.Spec.Context
import Dipecs.Spec.Event
import Dipecs.Spec.Governance
import Dipecs.Spec.Intent
import Dipecs.Spec.Serialize
import Dipecs.Spec.Trace
