import Nanihold.Library.OrderedDict
import Nanihold.Library.Program
import Nanihold.Library.Runs
import Nanihold.Library.Checked
import Nanihold.Library.EventSourcing
import Nanihold.Errors
import Nanihold.Kernel.Models
import Nanihold.Activation.Models
import Nanihold.AgentNaming
import Nanihold.Notifications
import Nanihold.Interface.Models
import Nanihold.Pilot.Models
import Nanihold.TokenLab.Lab
import Nanihold.Routing.Evidence
import Nanihold.Documents
import Nanihold.EnvironmentInstance.Models
import Nanihold.Events
import Nanihold.Kernel.Ledger
import Nanihold.Library.Paging
import Nanihold.Safety.LedgerHistory
import Nanihold.Recording
import Nanihold.Library.Counter
import Nanihold.Migration.Legacy
import Nanihold.Activation.Service
import Nanihold.Auth
import Nanihold.Kernel.State
import Nanihold.Library.Reachability
import Nanihold.Kernel.Work
import Nanihold.Kernel.Executions
import Nanihold.Kernel.Effects
import Nanihold.TokenLab.Service
import Nanihold.Interface.State
import Nanihold.EnvironmentInstance.Service
import Nanihold.System
import Nanihold.Commands
import Nanihold.Replay.Plans
import Nanihold.Projection
import Nanihold.Kernel.Permits
import Nanihold.Activation.HistoryTools
import Nanihold.Replay.Kernel
import Nanihold.Replay.Changes
import Nanihold.Replay.Activation
import Nanihold.Replay.Interface
import Nanihold.Replay.KernelSync
import Nanihold.Replay.Sync
import Nanihold.Replay.Record
import Nanihold.Replay.Commands
import Nanihold.Replay.Runs
import Nanihold.Replay.Environment
import Nanihold.Library.Versioned
import Nanihold.Replay.Failover
import Nanihold.Safety.Lifecycle
import Nanihold.Safety.Failover
import Nanihold.Lethe.Client
import Nanihold.Safety.Attachment
import Nanihold.Safety.Effects
import Nanihold.Safety.Findings
import Nanihold.Safety.Routes
import Nanihold.Safety.Completion
import Nanihold.Safety.Content
import Nanihold.Library.Acyclic
import Nanihold.Safety.Dependencies
import Nanihold.Library.Forest
import Nanihold.Safety.WorkTree
import Nanihold.Safety.Intervention
import Nanihold.Runtime
import Nanihold.Replay.Restart
import Nanihold.Safety.Commissioning
import Nanihold.Safety.OwnerBootstrap
import Nanihold.Safety.AgentNames
import Nanihold.Safety.Promotions
import Nanihold.Safety.StreamVersions
import Nanihold.Safety.PromotionAtomicity
import Nanihold.Pilot.Host
import Nanihold.Safety.PilotSessions
import Nanihold.Safety.Rebuilds
import Nanihold.Safety.Scope
import Nanihold.Safety.RiskAcceptance
import Nanihold.Library.Handout
import Nanihold.Dispatcher
import Nanihold.Safety.EventDeltas
import Nanihold.Safety.Dispatch
import Nanihold.Routing.Bayesian
import Nanihold.Safety.Hosts
import Nanihold.Safety.Eligibility
import Nanihold.Safety.ReservedName
import Nanihold.Safety.AuditTraces
import Nanihold.Safety.Acceptance
import Nanihold.Safety.Preflight
import Nanihold.Safety.Settlement
import Nanihold.Library.PaddedLex
import Nanihold.Library.PyValue
import Nanihold.Preflight.Versions
import Nanihold.Preflight.Gate
import Nanihold.Safety.PreflightCache
import Nanihold.Safety.EvidenceHook
import Nanihold.Safety.IdentityRegistration
import Nanihold.Library.Lines
import Nanihold.Library.Json
import Nanihold.Migration.Planning
import Nanihold.Safety.LegacyImport
import Nanihold.Safety.LegacyResume
import Nanihold.PilotHost.Receipts
import Nanihold.PilotHost.Codex
import Nanihold.PilotHost.Host
import Nanihold.Safety.ReceiptReplay
import Nanihold.Safety.ProviderVerdict
import Nanihold.Library.ConjugatePriors
import Nanihold.Library.Ranking
import Nanihold.Routing.Exact
import Nanihold.Safety.Degradation
import Nanihold.Safety.PosteriorOrder
import Nanihold.Safety.Ranking
import Nanihold.Safety.PreflightReplacement
import Nanihold.ReplyAuthoring
import Nanihold.AuditTrace.Reply
import Nanihold.Safety.ReplyLineage
import Nanihold.Safety.DeadEnds
import Nanihold.Library.Traversal
import Nanihold.Reorientation
import Nanihold.Safety.Pagination
import Nanihold.Safety.ReorientationDeltas
import Nanihold.Safety.ActivationSafety
import Nanihold.PilotHost.Threads
import Nanihold.Safety.ProviderCalls
import Nanihold.Interface.Turn
import Nanihold.Interface.Requests
import Nanihold.Replay.TokenLab
import Nanihold.Replay.Requests
import Nanihold.Replay.Rebuilt
import Nanihold.Safety.OwnerTurns
import Nanihold.PilotHost.Client
import Nanihold.PilotHost.Protocol
import Nanihold.Safety.ReceiptProtocol
import Nanihold.Safety.ResultAgreement
