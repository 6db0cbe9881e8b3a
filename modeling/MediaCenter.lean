import MediaCenter.Analysis.HitlPayout.AllOrNothing
import MediaCenter.Analysis.HitlPayout.SinglePayment
import MediaCenter.Analysis.Shared.FreshRequests
import MediaCenter.Analysis.Shared.TenantIdentifiers
import MediaCenter.Analysis.Shared.RateLimitKeys
import MediaCenter.Analysis.Shared.OperationSlots
import MediaCenter.Analysis.Shared.TopicDelivery
import MediaCenter.Analysis.NeuroAgentOrchestrator.ProxyFairness
import MediaCenter.Analysis.Shared.TenantQuotas
import MediaCenter.Analysis.Shared.CacheIsolation
import MediaCenter.Analysis.Shared.IdempotentEvents
import MediaCenter.Analysis.Shared.VectorStores
import MediaCenter.Analysis.Wallet.WalletFailures
import MediaCenter.Analysis.Shared.ObjectIsolation
import MediaCenter.Analysis.NotificationGateway.EmailSends
import MediaCenter.Analysis.NotificationGateway.DispatchFailures
import MediaCenter.Analysis.Shared.MarketplaceSlugIndex
import MediaCenter.Analysis.MessengerAdapter.OutboundPacing
import MediaCenter.Analysis.WebCabinet.PrivacyJournal
import MediaCenter.Analysis.BlockchainAuditor.MetadataKeys
import MediaCenter.Analysis.HitlPayout.RedactedMetadata
import MediaCenter.Analysis.ContributionLedger.CouncilCap
import MediaCenter.Analysis.Shared.RetryBudget
import MediaCenter.Analysis.Shared.CleanFailures
import MediaCenter.Analysis.Shared.RsaReplay
import MediaCenter.Analysis.Shared.AccessTokens
import MediaCenter.Analysis.Shared.CleanRejection
import MediaCenter.Analysis.WebCabinet.PanelTruth
import MediaCenter.Analysis.Shared.TotpWindow
import MediaCenter.Analysis.MessengerAdapter.PlatformContent
import MediaCenter.Analysis.Wallet.Statements
import MediaCenter.Analysis.Shared.EndpointGuard
import MediaCenter.Analysis.Cglr.TrackedUrls
import MediaCenter.Analysis.Shared.GatewayRouting
import MediaCenter.Analysis.AnalyticsEngine.KpiTargets
import MediaCenter.Analysis.MessengerAdapter.TokenBinding
import MediaCenter.Analysis.MessengerAdapter.BadMessages
import MediaCenter.Analysis.ActivityCommandCenter.AllOrNothing
import MediaCenter.Analysis.Shared.AuditHashes
import MediaCenter.Analysis.Shared.OwnedRecords
import MediaCenter.Analysis.Shared.PublicPaths
import MediaCenter.Analysis.Shared.OperationMetrics
import MediaCenter.Analysis.Cglr.TemplateCache
import MediaCenter.Analysis.Shared.SecretSources
import MediaCenter.Analysis.PolicyManager.PolicyUpdates
