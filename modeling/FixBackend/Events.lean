import FixBackend.Ids
/-!
# Events — the domain events the services publish

`fixbackend/domain_events/events.py`: the events the modelled services publish or receive, with their own fields.  The
id and the creation time that every event has are left out.  A dictionary of accounts is a list of pairs.
-/
namespace Fix

open Calendar

inductive DegradationReason where
  | stackDeleted
  | other
deriving DecidableEq

structure CloudAccountCollectInfo where
  accountId : CloudAccountId
  scannedResources : Nat
  durationSeconds : Nat
  startedAt : DateTime
  taskId : Option TaskId
  errors : List String
deriving DecidableEq

inductive StateName where
  | detected
  | discovered
  | configured
  | degraded
  | deleted
deriving DecidableEq

inductive SubscriptionKind where
  | awsMarketplace
  | stripe
deriving DecidableEq

inductive DomainEvent where
  | cloudAccountDiscovered (cloud : CloudName) (cloudAccountId : FixCloudAccountId) (tenantId : WorkspaceId)
      (accountId : CloudAccountId)
  | cloudAccountConfigured (cloud : CloudName) (cloudAccountId : FixCloudAccountId) (tenantId : WorkspaceId)
      (accountId : CloudAccountId)
  | cloudAccountDeleted (cloud : CloudName) (userId : UserId) (cloudAccountId : FixCloudAccountId)
      (tenantId : WorkspaceId) (accountId : CloudAccountId)
  | cloudAccountDegraded (cloud : CloudName) (cloudAccountId : FixCloudAccountId) (tenantId : WorkspaceId)
      (accountId : CloudAccountId) (accountName : Option String) (error : String) (reason : Option DegradationReason)
  | cloudAccountNameChanged (cloudAccountId : FixCloudAccountId) (tenantId : WorkspaceId) (cloud : CloudName)
      (accountId : CloudAccountId) (state : StateName) (name : Option UserCloudAccountName) (finalName : Option String)
  | cloudAccountActiveToggled (tenantId : WorkspaceId) (cloudAccountId : FixCloudAccountId)
      (accountId : CloudAccountId) (enabled : Bool)
  | cloudAccountScanToggled (tenantId : WorkspaceId) (cloudAccountId : FixCloudAccountId)
      (accountId : CloudAccountId) (enabled scan : Bool)
  | tenantAccountsCollected (tenantId : WorkspaceId)
      (cloudAccounts cloudAccountsFailed : List (FixCloudAccountId × CloudAccountCollectInfo))
        (nextRun : Option DateTime)
  | tenantAccountsCollectFailed (tenantId : WorkspaceId)
      (cloudAccounts : List (FixCloudAccountId × CloudAccountCollectInfo)) (nextRun : Option DateTime)
  | billingEntryCreated (tenantId : WorkspaceId) (subscriptionId : SubscriptionId) (productTier : ProductTier)
      (usage : Int)
  | productTierChanged (workspaceId : WorkspaceId) (userId : UserId) (productTier : ProductTier)
      (isPaidTier isHigherTier : Bool) (previousTier : ProductTier)
  | subscriptionCreated (workspaceId : Option WorkspaceId) (userId : UserId) (subscriptionId : SubscriptionId)
      (method : SubscriptionKind)
  | subscriptionCancelled (subscriptionId : SubscriptionId) (method : SubscriptionKind)
deriving DecidableEq

end Fix
