import FixBackend.AccountService
/-!
# AccountPayments — what a subscription event does to workspaces and accounts

The branches of `process_domain_event` of `fixbackend/cloud_accounts/service.py` for subscriptions that were cancelled
or created, with `disable_cloud_accounts`, `enable_cloud_accounts` and `update_next_run_for`.  The tasks of a group
run one after another.
-/
namespace Fix

open Calendar Effects

def nextRunFor (productTier : ProductTier) (lastRun : Option DateTime) (now : DateTime) : DateTime :=
  let delta := (productTierSettings productTier).scanIntervalHours * 3600000000
  let initialTime := lastRun.getD now
  let diff := now.sub initialTime
  -- when the last run is in the past the next one is in the future
  if 0 < diff then initialTime.addMicros (delta * (diff.toNat / delta + 1)) else initialTime.addMicros delta

/-- `update_next_run_for`; a tenant without a next run gets none. -/
def updateNextRunFor (tenant : WorkspaceId) (productTier : ProductTier) (lastRun : Option DateTime) :
    Service DateTime := do
  let now ← utc
  let result := nextRunFor productTier lastRun now
  modify fun w => { w with
    nextRuns := w.nextRuns.updateWhere (fun r => decide (r.tenantId = tenant)) (fun r => { r with time := result })
      fun _ => rfl }
  return result

def listAccounts (workspaceId : WorkspaceId) : Service (List CloudAccount) := do
  let nextScan ← getNextScan workspaceId
  let w ← get
  lift ((w.accounts.rows.filter fun r => decide (r.tenantId = workspaceId) &&
    CloudAccountRepository.nonDeleted r).mapM (·.toModel nextScan))

/-- `disable_account` and `enable_account`: an error is logged. -/
def toggleAccount (workspaceId : WorkspaceId) (enabled : Bool) (account : CloudAccount) : Service PUnit :=
  tryCatch (updateCloudAccountEnabled workspaceId account.id enabled *> return) fun _ => return

/-- The accounts that `disable_cloud_accounts` looks at. -/
def CloudAccount.disablable (a : CloudAccount) : Bool :=
  match a.state with
  | .configured _ enabled _ | .discovered _ enabled | .degraded _ enabled _ _ => enabled
  | _ => false

/-- The accounts that `enable_cloud_accounts` looks at. -/
def CloudAccount.canBeEnabled (a : CloudAccount) : Bool :=
  match a.state with
  | .configured _ enabled _ | .degraded _ enabled _ _ => !enabled
  | _ => false

/-- `xs[:-n]`. -/
def withoutLast {α : Type} (n : Nat) (xs : List α) : List α := if n = 0 then [] else xs.take (xs.length - n)

def disableCloudAccounts (workspaceId : WorkspaceId) (keepEnabled : Nat) : Service PUnit := do
  let allAccounts ← listAccounts workspaceId
  (withoutLast keepEnabled (allAccounts.filter (·.disablable))).forM (toggleAccount workspaceId false)

def getProductTier (workspaceId : WorkspaceId) : Service ProductTier := do
  let w ← get
  match getWorkspace w.organizations workspaceId with
  | none => throw (.resourceNotFound s!"Organization {workspaceId} does not exist.")
  | some workspace => return workspace.currentProductTier (← utc)

def enableCloudAccounts (workspaceId : WorkspaceId) : Service PUnit := do
  let tier ← getProductTier workspaceId
  let allAccounts ← listAccounts workspaceId
  let canBeEnabled := allAccounts.filter (·.canBeEnabled)
  -- non paid tiers cannot have more than one account
  let enabled := if tier.paid then canBeEnabled else canBeEnabled.take 1
  enabled.forM (toggleAccount workspaceId true)

/-- The limit of the free tier, or one account. -/
def freeAccountLimit : Nat :=
  match (productTierSettings .free).accountLimit with
  | some limit => if limit = 0 then 1 else limit
  | none => 1

/-! ## The events -/

/-- The tier of a workspace moves to free: the payment is put on hold. -/
def holdPayment (workspaceId : WorkspaceId) : Service PUnit := do
  let now ← utc
  let _ ← inOrganizations fun orgs => updatePaymentOnHold orgs workspaceId (some now)

def removeSubscription (workspaceId : WorkspaceId) : Service PUnit := do
  let _ ← inOrganizations fun orgs => updateSubscription orgs workspaceId none

def cancelWorkspace (workspace : Workspace) : Service PUnit := do
  holdPayment workspace.id
  removeSubscription workspace.id
  disableCloudAccounts workspace.id freeAccountLimit

def processSubscriptionCancelled (subscriptionId : SubscriptionId) : Service PUnit := do
  let w ← get
  (listWorkspacesBySubscriptionId w.organizations subscriptionId).forM cancelWorkspace

def resumeWorkspace (workspace : Workspace) : Service PUnit := do
  let _ ← inOrganizations fun orgs => updatePaymentOnHold orgs workspace.id none
  let tier := workspace.currentProductTier (← utc)
  let _ ← updateNextRunFor workspace.id tier none
  enableCloudAccounts workspace.id

def processSubscriptionCreated (subscriptionId : SubscriptionId) : Service PUnit := do
  let w ← get
  (listWorkspacesBySubscriptionId w.organizations subscriptionId).forM resumeWorkspace

end Fix
