import PlanBuddy.JobClaims
import PlanBuddy.JournalCompletion
import PlanBuddy.OutboxOrder
import PlanBuddy.OutboxRecovery
import PlanBuddy.CircuitRecovery
import PlanBuddy.WorkerShutdown
import PlanBuddy.WorkerDrain
import PlanBuddy.ProviderTokens
import PlanBuddy.BucketTransactions
import PlanBuddy.CancellationCapacity
import PlanBuddy.RefundClaims
import PlanBuddy.DeliveryOrder
import PlanBuddy.IdempotencyLock
import PlanBuddy.IdempotencyScopes
import PlanBuddy.LeaseOverlaps
import PlanBuddy.SplitBrain
import PlanBuddy.EpochDisputes
import PlanBuddy.ShardFailover
import PlanBuddy.LoginLockout
import PlanBuddy.ResetCodes
import PlanBuddy.MigrationLedger
import PlanBuddy.HalfOpenProbes
import PlanBuddy.ConcurrencyLaw
import PlanBuddy.CircuitBreaker
import PlanBuddy.DrainConcurrency
import PlanBuddy.WakeupRouting
import PlanBuddy.ListenerClients
import PlanBuddy.ReplayBodies
import PlanBuddy.FallbackLifetime
import PlanBuddy.PaymentEvents
import PlanBuddy.WebhookSignatures
import PlanBuddy.OrderAmounts
import PlanBuddy.ProxyHeaders
import PlanBuddy.StatementTimeouts
import PlanBuddy.WebhookLeases
import PlanBuddy.TokenRevocation
import PlanBuddy.TokenLifetimes
import PlanBuddy.ActiveCache
import PlanBuddy.Reconnection
import PlanBuddy.RateLimits
import PlanBuddy.BookingLists
import PlanBuddy.RequestGuards
import PlanBuddy.ResponseSlots
import PlanBuddy.ConflictLimiter
import PlanBuddy.ExecutionLog
import PlanBuddy.Availability
import PlanBuddy.ErrorHandler
import PlanBuddy.QueueHealth
import PlanBuddy.Doubles
import PlanBuddy.DecimalTexts
import PlanBuddy.Money
import PlanBuddy.MoneyDecimals
import PlanBuddy.MoneyOrder
import PlanBuddy.LeaseRenewals
import PlanBuddy.AuditTrail
import PlanBuddy.BucketFleet
import PlanBuddy.Shutdown
import PlanBuddy.FixedWindow
import PlanBuddy.RateLimiters
import PlanBuddy.RetrySchedule
import PlanBuddy.RegionFailover
import PlanBuddy.BucketStarvation
import PlanBuddy.Accounts
import PlanBuddy.Credentials
import PlanBuddy.SqlText
import PlanBuddy.SqlConditions
import PlanBuddy.ClaimStatements
