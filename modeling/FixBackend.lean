import FixBackend.Calendar
import FixBackend.Table
import FixBackend.Effects
import FixBackend.Ids
import FixBackend.Events
import FixBackend.Workspaces
import FixBackend.TierCycle
import FixBackend.Metering
import FixBackend.Subscriptions
import FixBackend.Billing
import FixBackend.CloudAccounts
import FixBackend.AccountRepository
import FixBackend.AccountService
import FixBackend.AccountSpecs
import FixBackend.AccountStates
import FixBackend.AccountLimit
import FixBackend.Machine
import FixBackend.Optimistic
import FixBackend.AccountUpdate
import FixBackend.AccountCalls
import FixBackend.AccountConfigure
import FixBackend.CollectProgress
import FixBackend.AccountUsage
import FixBackend.BillingPeriods
import FixBackend.ChargeFactors
import FixBackend.Flags
import FixBackend.Permissions
import FixBackend.Access
import FixBackend.AccessRoles
import FixBackend.AccessEscalation
import FixBackend.ApiTokens
import FixBackend.Sessions
import FixBackend.SubscriptionRepository
import FixBackend.Payments
import FixBackend.Marketplace
import FixBackend.MarketplaceFlags
import FixBackend.MarketplaceUsage
import FixBackend.Stripe
import FixBackend.UnreportedEntries
import FixBackend.AccountPayments
import FixBackend.Cancellation
import FixBackend.DomainEvents
import FixBackend.Resubscription
import FixBackend.BillingUpdates
import FixBackend.AccountStandings
import FixBackend.CollectEvents
import FixBackend.FailedScans
import FixBackend.DegradedEvents
import FixBackend.AccountDisabling
import FixBackend.AccountCleanup
import FixBackend.Dispatcher
import FixBackend.Scheduling
import FixBackend.GraphCollection
import FixBackend.TenantIsolation
import FixBackend.TierUpdates
import FixBackend.BillingProgress
import FixBackend.SessionExpiry
import FixBackend.Mfa
import FixBackend.RecoveryCodes
import FixBackend.Invitations
import FixBackend.Seats
import FixBackend.Registration
import FixBackend.WorkspaceCreation
import FixBackend.OneTimeEmails
import FixBackend.CollectRuns
import FixBackend.Redeliveries
import FixBackend.DispatcherSteps
import FixBackend.OngoingCollects
import FixBackend.CollectReports
import FixBackend.PendingCollects
import FixBackend.ScheduledEmails
import FixBackend.StatusUpdates
import FixBackend.FirstScan
import FixBackend.TaskGroup
import FixBackend.EventHandlers
import FixBackend.IgnoredAccounts
import FixBackend.IgnoreList
import FixBackend.NotificationRoutes
import FixBackend.Chunks
import FixBackend.AnalyticsBatches
import FixBackend.NoUsageReports
import FixBackend.StripeRedelivery
import FixBackend.StackAnswers
import FixBackend.Sqs
import FixBackend.AccountPersistence
import FixBackend.FirstConfigurations
import FixBackend.Redeployments
import FixBackend.TrialEnd
import FixBackend.TokenBucket
import FixBackend.RateLimiter
import FixBackend.StreamingResponse
import FixBackend.NextRuns
import FixBackend.StuckRuns
import FixBackend.Timeseries
import FixBackend.OverallScore
import FixBackend.BenchmarkAlerts
import FixBackend.CloudCredentials
import FixBackend.AzureRoles
import FixBackend.OAuthAccounts
import FixBackend.RoleHistories
import FixBackend.PendingEmails
import FixBackend.EmailRounds
import FixBackend.Texts
import FixBackend.Codecs
import FixBackend.EventMessages
import FixBackend.SigningKeys
import FixBackend.AlertDelivery
import FixBackend.InventoryNames
import FixBackend.Gathering
import FixBackend.DescendantSummary
import FixBackend.Ranking
import FixBackend.ReportSummary
import FixBackend.TrialRounds
import FixBackend.Unsubscribes
import FixBackend.ApiTokenStore
import FixBackend.AzureSetup
