import Noema.Lib.Machine
import Noema.Lib.KeyedTable
import Noema.Lib.FencedLease
import Noema.Types
import Noema.JsonText
import Noema.Events
import Noema.Lib.Replay
import Noema.Situation
import Noema.Lib.OrderedLog
import Noema.EventStore
import Noema.StandardStores
import Noema.Kernel
import Noema.Lib.TaskPool
import Noema.KernelRuntime
import Noema.KernelInvariant
import Noema.KernelConvergence
import Noema.KernelCancellation
import Noema.EventBus
import Noema.EventBusDeadlock
import Noema.EventBusSaturation
import Noema.DeliveryStore
import Noema.DeliveryFencing
import Noema.Lib.AsyncQueue
import Noema.Lib.History
import Noema.Attention
import Noema.AttentionLeases
import Noema.Authority
import Noema.Capabilities
import Noema.AgentRuntime
import Noema.AgentMoves
import Noema.AgentAccounts
import Noema.AgentAuthority
import Noema.CursorReads
import Noema.MemoryModels
import Noema.MemoryProjection
import Noema.MemoryQueries
import Noema.MemoryKnowledgeTime
import Noema.MemoryRetrieval
import Noema.MemoryDenial
import Noema.WorkModels
import Noema.WorkPlanning
import Noema.WorkProjection
import Noema.WorkSteps
import Noema.WorkLedger
import Noema.WorkSafety
import Noema.WorkPlans
import Noema.WorkPlanner
import Noema.Lib.Programs
import Noema.WorkMatching
import Noema.WorkCoordination
import Noema.WorkCommands
import Noema.WorkFits
import Noema.WorkReplay
import Noema.WorkViews
import Noema.WorkInterleaving
import Noema.WorkGrants
import Noema.Lib.Glob
import Noema.AutonomicModels
import Noema.RuleCell
import Noema.RuleReplay
import Noema.IntentModels
import Noema.IntentPayloads
import Noema.IntentSchemas
import Noema.Lib.Folding
import Noema.StrategicProjection
import Noema.StrategicSteps
import Noema.GoalAuthority
import Noema.CommitmentLifecycle
import Noema.IntentMigration
import Noema.IntentViews
import Noema.GoalViews
import Noema.CommitmentViews
import Noema.IntentAgreement
import Noema.Lib.GrownGraph
import Noema.InformationModels
import Noema.InformationDecisions
import Noema.InformationPayloads
import Noema.InformationPolicies
import Noema.InformationProjection
import Noema.InformationSteps
import Noema.InformationLineages
import Noema.InformationCompositions
import Noema.InformationRestriction
import Noema.Lib.StableOrder
import Noema.InformationHolds
import Noema.InformationFailClosed
import Noema.InformationAdditions
import Noema.Checkpoints
import Noema.CheckpointWorkers
import Noema.CheckpointSafety
import Noema.Lib.Binary64
import Noema.Lib.PrefixCode
import Noema.EndogenousModels
import Noema.RulePayloads
import Noema.RuleRegistry
import Noema.EndogenousPayloads
import Noema.ContentIds
import Noema.JsonCode
import Noema.StoredPayloads
import Noema.ExposureModels
import Noema.ExposurePayloads
import Noema.GivenRecords
import Noema.GivenPolicies
import Noema.RecordStorage
import Noema.WorkRecordStorage
import Noema.PolicyStorage
import Noema.ScarceStorage
import Noema.SchemaStorage
import Noema.StoredRecords
import Noema.EndogenousPolicy
import Noema.EndogenousProjection
import Noema.EndogenousSteps
import Noema.EndogenousSafety
import Noema.ExposureProjection
import Noema.ExposureReplay
import Noema.ShadowEpochs
import Noema.ShadowRestart
import Noema.ReconsiderationModels
import Noema.ReconsiderationPayloads
import Noema.DependencyValidation
import Noema.FrontierProgress
import Noema.MemoryRejection
import Noema.MemorySupersession
import Noema.Lib.UnitInterval
import Noema.SalienceResolver
import Noema.SalienceInhibition
import Noema.Lib.GreedyBudget
import Noema.WakeModels
import Noema.WakePlanning
import Noema.WakeCoverage
import Noema.WakePlans
import Noema.WakeGaps
import Noema.Lib.DividedLine
import Noema.ContinuityWorker
import Noema.MemoryIntervals
import Noema.TemporalInsertion
import Noema.ArrivalOrder
import Noema.ReconsiderationPolicy
import Noema.TrustLedger
import Noema.SchemaNormalization
import Noema.IsoFormat
import Noema.OutboxReadiness
import Noema.JsonSchema
import Noema.ActionIntents
import Noema.Deliberation
import Noema.Lib.KeyedQueues
import Noema.ModelRecords
import Noema.ModelReplay
import Noema.Lib.RoundedSum
import Noema.AgendaSelection
import Noema.AgendaSafety
import Noema.RecordUpcasters
import Noema.RecordWriters
import Noema.PolicyRoundTrip
import Noema.AttentionRoundTrip
import Noema.RawRecords
import Noema.Lib.RevisionChain
import Noema.RevisionHistory
import Noema.PortfolioSelection
import Noema.PortfolioSafety
import Noema.PortfolioPromises
import Noema.ExposureAudit
import Noema.DenominatorStability
import Noema.DenominatorBlindness
import Noema.DormantInquiries
import Noema.ReconsiderationProjection
import Noema.ReconsiderationSteps
import Noema.ReconsiderationSafety
import Noema.Lib.Redelivery
import Noema.ProjectionReplay
