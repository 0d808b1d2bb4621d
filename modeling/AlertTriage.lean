import AlertTriage.Library.Base64
import AlertTriage.Library.Effects
import AlertTriage.Library.Json
import AlertTriage.Library.JsonRoundTrip
import AlertTriage.Library.JsonShapes
import AlertTriage.Library.JsonStrings
import AlertTriage.Library.Quoting
import AlertTriage.Library.Regex
import AlertTriage.Library.Transition
import AlertTriage.Library.TtlStore
import AlertTriage.Schemas
import AlertTriage.Runtime.NatsBroker
import AlertTriage.Runtime.IngestReconciler
import AlertTriage.Runtime.RuntimeGlue
import AlertTriage.Runtime.Reconciliation
import AlertTriage.Runtime.JwtService
import AlertTriage.Runtime.TriageWorker
import AlertTriage.Runtime.Producers
import AlertTriage.AlertPersistence
import AlertTriage.Runtime.Delivery
import AlertTriage.Runtime.OutcomeOnRecord
import AlertTriage.Library.Jws
import AlertTriage.Gateway.Hs256
import AlertTriage.Gateway.ServiceTokens
import AlertTriage.Gateway.Base64Url
import AlertTriage.Runtime.TokenLifetime
import AlertTriage.Runtime.AckWindow
import AlertTriage.Library.StateGraph
import AlertTriage.Pipeline.ContentFilter
import AlertTriage.Pipeline.Enrichment
import AlertTriage.Pipeline.TriageGraph
import AlertTriage.Pipeline.NodeSpecs
import AlertTriage.Pipeline.RunTriage
import AlertTriage.Pipeline.ToolBudget
import AlertTriage.Pipeline.GuardedTools
import AlertTriage.Pipeline.RunVerdict
import AlertTriage.Pipeline.Cancellation
import AlertTriage.Pipeline.CrashResume
import AlertTriage.Api.ApiStores
import AlertTriage.Api.Requests
import AlertTriage.Api.Verdicts
import AlertTriage.Runtime.TokenTenant
import AlertTriage.Runtime.PhaseProtocol
import AlertTriage.Ingest.PayloadValues
import AlertTriage.Ingest.AlertNormalizer
import AlertTriage.Ingest.AutoIngest
import AlertTriage.Ingest.SourceDetection
import AlertTriage.Ingest.Unwrapping
import AlertTriage.Library.JsonPath
import AlertTriage.Ingest.AlertIdentity
import AlertTriage.Ingest.EventSeparation
import AlertTriage.Ingest.WholeAlert
import AlertTriage.Ingest.AlertWire
import AlertTriage.Ingest.DetectionFinding
import AlertTriage.Ingest.OcsfFindings
import AlertTriage.Pipeline.HeuristicEntities
import AlertTriage.Pipeline.ThreatIntel
import AlertTriage.Runtime.Checkpointers
import AlertTriage.Api.Ingest
import AlertTriage.Api.InputGuard
import AlertTriage.Api.OutputFilter
import AlertTriage.Api.ScrubbedVerdicts
import AlertTriage.Api.TenantProvenance
import AlertTriage.Api.BackgroundTriage
import AlertTriage.Api.BatchItems
import AlertTriage.Runtime.CancelRegistry
import AlertTriage.Api.AlertFootprint
import AlertTriage.Api.TenantSeparation
import AlertTriage.Gateway.SnapshotUrls
import AlertTriage.Bff.WatcherRegistry
import AlertTriage.Bff.EventFanout
import AlertTriage.Bff.RegistryRuns
import AlertTriage.Bff.RevocationReach
import AlertTriage.Bff.RegistryTenants
import AlertTriage.Bff.RemovalFinality
import AlertTriage.Bff.SubjectRouting
import AlertTriage.Gateway.AnalystSession
import AlertTriage.Gateway.Sessions
import AlertTriage.Gateway.OneSession
import AlertTriage.Gateway.CancelOnClose
import AlertTriage.Gateway.WatchLinearity
import AlertTriage.Live.AlertFeed
import AlertTriage.Live.SubjectDecoding
import AlertTriage.Live.SnapshotGap
import AlertTriage.Live.PushOrder
import AlertTriage.Auth.SessionStore
import AlertTriage.Auth.SessionCalls
import AlertTriage.Auth.RefreshRaces
import AlertTriage.Auth.RefreshFrame
import AlertTriage.Auth.RefreshChain
import AlertTriage.Auth.AccessTokens
import AlertTriage.Runtime.VerifyCache
import AlertTriage.Runtime.CacheBound
import AlertTriage.Runtime.SecretStore
import AlertTriage.Runtime.VerifySound
import AlertTriage.Runtime.RotationSchedulers
import AlertTriage.Runtime.SecretRotation
import AlertTriage.Runtime.ReconcilerSteps
import AlertTriage.Runtime.LeaseExclusion
import AlertTriage.Runtime.WalResidue
import AlertTriage.Runtime.BackoffSchedule
import AlertTriage.Runtime.PassFairness
import AlertTriage.Runtime.SequenceNumbers
import AlertTriage.Runtime.CancelDebounce
import AlertTriage.Runtime.DispatchPool
import AlertTriage.Runtime.PoisonBodies
import AlertTriage.Runtime.BlankTenants
import AlertTriage.Pipeline.BurstSchedule
import AlertTriage.Pipeline.BurstRecords
import AlertTriage.Pipeline.CacheBudget
import AlertTriage.Pipeline.ToolRouting
import AlertTriage.Pipeline.ToolSchemas
import AlertTriage.Api.TriageJobs
import AlertTriage.Api.StatusViews
import AlertTriage.Api.JobRecords
import AlertTriage.Api.AuditBundle
import AlertTriage.Bff.WatchRetention
import AlertTriage.Gateway.Hibernation
import AlertTriage.Pipeline.Conversation
import AlertTriage.Pipeline.VerdictAccounts
import AlertTriage.Pipeline.FilterSoundness
import AlertTriage.Pipeline.QueryBuilder
import AlertTriage.Library.Format
import AlertTriage.Pipeline.Prompts
import AlertTriage.Scripts.TenantLint
import AlertTriage.Pipeline.ContextCache
import AlertTriage.Library.TwoRuns
import AlertTriage.Library.GrowingWorld
import AlertTriage.Library.Exchanges
import AlertTriage.Auth.LoginRoutes
import AlertTriage.Gateway.PostedIdentities
import AlertTriage.Auth.Identity
import AlertTriage.Pipeline.VendorTools
import AlertTriage.Pipeline.VendorAnswers
import AlertTriage.Pipeline.VendorRecords
import AlertTriage.Pipeline.TokenCaches
import AlertTriage.Library.RowLocks
import AlertTriage.Runtime.SecretTransactions
import AlertTriage.Api.LiveStreams
