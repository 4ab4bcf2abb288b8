import WorkloadGovernor.ApplicationCounter
import WorkloadGovernor.Assignments
import WorkloadGovernor.Refinement
import WorkloadGovernor.Exclusivity
import WorkloadGovernor.Journal
import WorkloadGovernor.Provenance
import WorkloadGovernor.Isolation
import WorkloadGovernor.Indexer
import WorkloadGovernor.Polling
import WorkloadGovernor.XdrSignature
import WorkloadGovernor.SignerAgreement
import WorkloadGovernor.ApplyRoute
import WorkloadGovernor.SlotRecovery
import WorkloadGovernor.Capacity
import WorkloadGovernor.InverseLaws
import WorkloadGovernor.Diagnostics
import WorkloadGovernor.AdminAudit
import WorkloadGovernor.LiveCounters
import WorkloadGovernor.DedupKeys
import WorkloadGovernor.LivePublication
import WorkloadGovernor.AdminRoutes
import WorkloadGovernor.OrgQueues
import WorkloadGovernor.GitHubSync
import WorkloadGovernor.TtlJob
import WorkloadGovernor.Webhooks
import WorkloadGovernor.RequestIds
import WorkloadGovernor.Submission
import WorkloadGovernor.TtlAccounting
import WorkloadGovernor.RepositorySync
import WorkloadGovernor.IssuePages
import WorkloadGovernor.WalletLimiter
import WorkloadGovernor.RedisLimiter
import WorkloadGovernor.EventListing
import WorkloadGovernor.IssueCache
import WorkloadGovernor.Fees
import WorkloadGovernor.FuzzSeeds
import WorkloadGovernor.OrgCreation
import WorkloadGovernor.PolledCounters
import WorkloadGovernor.PanelRollback
import WorkloadGovernor.InfiniteScroll
import WorkloadGovernor.CacheInvalidation
import WorkloadGovernor.WebhookSignature
import WorkloadGovernor.Interleavings
import WorkloadGovernor.Draining
import WorkloadGovernor.FuzzTargets
import WorkloadGovernor.ApiKeys
import WorkloadGovernor.WebhookDispatcher
import WorkloadGovernor.LiveStream
import WorkloadGovernor.LivePipeline
import WorkloadGovernor.LiveConnection
import WorkloadGovernor.WithdrawFlow
