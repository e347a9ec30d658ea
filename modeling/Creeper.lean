import Creeper.Runs
import Creeper.Tables
import Creeper.ResultLog
import Creeper.LeaseInvariant
import Creeper.StrandedWork
import Creeper.BatchPayload
import Creeper.WorkerOutbox
import Creeper.ProviderPermits
import Creeper.PostgresPermits
import Creeper.RequestAuth
import Creeper.RegionHarvest
import Creeper.WorkLeases
import Creeper.ProductionExposures
import Creeper.EvidenceTasks
import Creeper.EvidenceQueue
import Creeper.EvidenceStore
import Creeper.PlatformHarvests
import Creeper.Readiness
import Creeper.SourceLineage
import Creeper.BacklogAdmission
import Creeper.SourceActivation
import Creeper.ActionRewards
import Creeper.FinalProjection
import Creeper.RunEnds
import Creeper.RunClosing
import Creeper.RunRecovery
import Creeper.FrozenFrontier
import Creeper.Transactions
import Creeper.ResultCommit
import Creeper.EvidenceBridge
import Creeper.Interleavings
import Creeper.EvidenceRouting
import Creeper.Decimals
import Creeper.ArchiveLines
import Creeper.EvidenceSemantics
import Creeper.SubmissionVerify
import Creeper.IndexRegions
import Creeper.RegionTomography
import Creeper.SearchResults
import Creeper.ResidualQuery
import Creeper.IndexRows
import Creeper.ArchiveRecords
import Creeper.RegionProbes
import Creeper.CandidateMarking
import Creeper.SourceCoordinator
import Creeper.CoordinatorRecovery
import Creeper.RequestTimelines
import Creeper.RetryAfter
import Creeper.CdxPacing
import Creeper.RdapPacing
import Creeper.ProviderPacing
import Creeper.Base64
import Creeper.Splices
import Creeper.BindingTokens
import Creeper.AdapterBindings
import Creeper.BindingRoundTrips
import Creeper.RowTexts
import Creeper.StructuredRecords
import Creeper.DirectAuthority
import Creeper.ProviderReports
import Creeper.DigestNumbers
import Creeper.ClaimOrder
import Creeper.NullLogic
import Creeper.ClaimBackends
import Creeper.ShardConsumption
import Creeper.OldestFirst
import Creeper.SpilloverLanes
import Creeper.BridgeDrain
import Creeper.ResultCodec
import Creeper.BitSketches
import Creeper.DomainFanout
import Creeper.Checkpoints
import Creeper.BaselineIndex
import Creeper.JsonLengths
import Creeper.CdxRows
import Creeper.CdxQueries
import Creeper.ArquivoRows
import Creeper.CdxReading
import Creeper.CdxPaging
import Creeper.CdxResults
import Creeper.CdxAcceptance
import Creeper.LeasePlanning
import Creeper.Suppressions
import Creeper.NumberedCursors
import Creeper.SitelistLeases
import Creeper.ProbeWindows
import Creeper.CaptureSemantics
import Creeper.HostTexts
import Creeper.WarcLeases
import Creeper.TableSums
import Creeper.CellEconomics
import Creeper.ContractRegistries
import Creeper.ResourceGovernors
import Creeper.RdapBackfill
import Creeper.SourceGrants
