import FixBackend.AccountRepository
/-!
# AccountService — the operations on cloud accounts

`fixbackend/cloud_accounts/service.py` with the answers of `account_setup.py` as arguments.  Logging and the context
variables of the log are left out.  A closure that the source hands to `update` is a definition of its own; it takes the
reading of the clock it may use.
-/
namespace Fix

open Calendar Effects

/-- The fields of a message that every account has from the start. -/
def newAccount (id : FixCloudAccountId) (accountId : CloudAccountId) (workspaceId : WorkspaceId) (cloud : CloudName)
    (state : CloudAccountState) (accountName : Option CloudAccountName) (createdAt : DateTime) : CloudAccount where
  id := id
  accountId := accountId
  workspaceId := workspaceId
  cloud := cloud
  state := state
  accountName := accountName
  accountAlias := none
  userAccountName := none
  privileged := false
  nextScan := none
  lastScanDurationSeconds := 0
  lastScanStartedAt := none
  lastScanResourcesScanned := 0
  lastScanResourcesErrors := 0
  createdAt := createdAt
  updatedAt := createdAt
  stateUpdatedAt := createdAt
  cfStackVersion := some 0
  failedScanCount := 0
  lastTaskId := none
  lastDegradedScanStartedAt := none

/-- `ProductTierSettings[workspace.current_product_tier()].account_limit` where it is tested for truth: no limit, and a
limit of zero, restrict nothing. -/
def Workspace.accountLimit (w : Workspace) (now : DateTime) : Option Nat :=
  (productTierSettings (w.currentProductTier now)).accountLimit.filter (· ≠ 0)

def findWorkspace (workspaceId : WorkspaceId) : Service (Option Workspace) := do
  let w ← get
  return Fix.getWorkspace w.organizations workspaceId

/-! ## Creating accounts -/

/-- Fewer accounts than the limit are stored, deleted ones not counted. -/
def withinAccountLimit (workspace : Workspace) (now : DateTime) : Service Bool :=
  match workspace.accountLimit now with
  | none => return true
  | some limit => do
    let existingAccounts ← CloudAccountRepository.countByWorkspaceId workspace.id false true
    return decide (existingAccounts < limit)

def shouldBeEnabled (workspace : Workspace) : Service Bool := do
  let now ← utc
  let withinLimit ← withinAccountLimit workspace now
  return withinLimit && workspace.paymentOnHoldSince.isNone

/-- The closure of `create_aws_account` that only names an account. -/
def renamed (newName : Option CloudAccountName) (newCreatedAt : DateTime) (_ : DateTime) (a : CloudAccount) :
    Except Err CloudAccount :=
  .ok { a with accountName := newName, createdAt := newCreatedAt }

/-- The closure of `create_aws_account` that moves an account to the discovered state. -/
def discoveredAgain (newState : CloudAccountState) (newName : Option CloudAccountName) (newCreatedAt now : DateTime)
    (a : CloudAccount) : Except Err CloudAccount :=
  .ok { a with state := newState, accountName := newName, stateUpdatedAt := now, createdAt := newCreatedAt }

/-- The discovered state of a role, or the detected one without a role. -/
def initialState (roleName : Option AwsRoleName) (externalId : ExternalId) (enabled : Bool) : CloudAccountState :=
  match roleName with
  | none => .detected
  | some roleName => .discovered (.aws externalId roleName) enabled

/-- The end of `create_aws_account` for an account that is only named. -/
def renameAccount (workspaceId : WorkspaceId) (existing : CloudAccount) (newName : Option CloudAccountName)
    (newCreatedAt : DateTime) : Service CloudAccount := do
  let result ← CloudAccountRepository.update existing.id (renamed newName newCreatedAt)
  if existing.finalName ≠ result.finalName then
    publish (.cloudAccountNameChanged result.id workspaceId result.cloud result.accountId result.state.stateName
      result.userAccountName result.finalName)
  return result

/-- The creation time of an account that is created again: a deleted one starts anew. -/
def createdAgain (existing : CloudAccount) : Service DateTime :=
  if existing.state = .deleted then utc else return existing.createdAt

/-- `create_aws_account` for an account that exists; the account is returned with whether it is to be announced. -/
def updateAwsAccount (workspaceId : WorkspaceId) (existing : CloudAccount) (roleName : Option AwsRoleName)
    (externalId : ExternalId) (accountName : Option CloudAccountName) (enabled : Bool) :
    Service (CloudAccount × Bool) := do
  let newName := (truthy accountName).or existing.accountName
  let newCreatedAt ← createdAgain existing
  match roleName with
  | none =>
    let result ← renameAccount workspaceId existing newName newCreatedAt
    return (result, false)
  | some roleName =>
    if existing.awsAccess = some (externalId, roleName) then
      let result ← renameAccount workspaceId existing newName newCreatedAt
      return (result, false)
    else
      let newState := CloudAccountState.discovered (.aws externalId roleName) enabled
      let result ← CloudAccountRepository.update existing.id (discoveredAgain newState newName newCreatedAt)
      return (result, true)

/-- `create_aws_account` after the checks: the account is updated or created. -/
def storeAwsAccount (workspaceId : WorkspaceId) (accountId : CloudAccountId) (roleName : Option AwsRoleName)
    (externalId : ExternalId) (accountName : Option CloudAccountName) (enabled : Bool) :
    Service (CloudAccount × Bool) := do
  match ← CloudAccountRepository.getByAccountId workspaceId accountId with
  | some existing => updateAwsAccount workspaceId existing roleName externalId accountName enabled
  | none =>
    let createdAt ← utc
    let id ← uuid4
    let result ← CloudAccountRepository.create
      (newAccount id accountId workspaceId .aws (initialState roleName externalId enabled) accountName createdAt)
    return (result, true)

def createAwsAccount (workspaceId : WorkspaceId) (accountId : CloudAccountId) (roleName : Option AwsRoleName)
    (externalId : ExternalId) (accountName : Option CloudAccountName) : Service CloudAccount := do
  match ← findWorkspace workspaceId with
  | none => throw (.resourceNotFound "Organization does not exist")
  | some workspace =>
    if workspace.externalId ≠ externalId then throw (.wrongExternalId "External ids does not match")
    else
      let enabled ← shouldBeEnabled workspace
      let (result, announce) ← storeAwsAccount workspaceId accountId roleName externalId accountName enabled
      -- a detected account is not announced
      if announce && decide (result.state ≠ .detected) then
        publish (.cloudAccountDiscovered .aws result.id workspaceId accountId)
        return result
      else return result

/-- `create_gcp_account` and `create_azure_account`, which differ in the cloud and the access. -/
def createConfiguredAccount (workspaceId : WorkspaceId) (accountId : CloudAccountId) (access : CloudAccess)
    (accountName : Option CloudAccountName) : Service CloudAccount := do
  match ← findWorkspace workspaceId with
  | none => throw (.resourceNotFound "Organization does not exist")
  | some workspace =>
    match ← CloudAccountRepository.getByAccountId workspaceId accountId with
    | some existing => return existing
    | none =>
      let enabled ← shouldBeEnabled workspace
      let createdAt ← utc
      let id ← uuid4
      let result ← CloudAccountRepository.create
        (newAccount id accountId workspaceId access.cloud (.configured access enabled enabled) accountName createdAt)
      publish (.cloudAccountConfigured access.cloud result.id workspaceId accountId)
      return result

def createGcpAccount (workspaceId : WorkspaceId) (accountId : CloudAccountId) (keyId : GcpServiceAccountKeyId)
    (accountName : Option CloudAccountName) : Service CloudAccount :=
  createConfiguredAccount workspaceId accountId (.gcp keyId) accountName

def createAzureAccount (workspaceId : WorkspaceId) (accountId : CloudAccountId)
    (subscriptionCredentialsId : AzureSubscriptionCredentialsId) (accountName : Option CloudAccountName) :
    Service CloudAccount :=
  createConfiguredAccount workspaceId accountId (.azure subscriptionCredentialsId) accountName

/-! ## Degrading and back -/

/-- The closure of `__degrade_account`. -/
def setDegraded (error : String) (now : DateTime) (a : CloudAccount) : Except Err CloudAccount :=
  .ok (match a.state.cloudAccess with
    | some access =>
      { a with
        nextScan := none
        state := .degraded access a.state.enabled a.state.scan error
        stateUpdatedAt := now }
    | none => a)

def degradeAccount (accountId : FixCloudAccountId) (error : String) (reason : DegradationReason) :
    Service CloudAccount := do
  match ← CloudAccountRepository.get accountId with
  | none => throw (.resourceNotFound s!"Account {accountId} not found")
  | some account =>
    if account.state.stateName = .degraded then return account
    else
      let account ← CloudAccountRepository.update accountId (setDegraded error)
      publish (.cloudAccountDegraded account.cloud account.id account.workspaceId account.accountId account.finalName
        error (some reason))
      return account

/-- The closure of `__undegrade_account`: only a degraded state hands on what was enabled. -/
def setConfigured (now : DateTime) (a : CloudAccount) : Except Err CloudAccount :=
  .ok (match a.state.cloudAccess with
    | some access =>
      let (enabled, scan) := match a.state with
        | .degraded _ enabled scan _ => (enabled, scan)
        | _ => (false, false)
      { a with state := .configured access enabled scan, stateUpdatedAt := now }
    | none => a)

def undegradeAccount (accountId : FixCloudAccountId) : Service CloudAccount := do
  match ← CloudAccountRepository.get accountId with
  | none => throw (.resourceNotFound s!"Account {accountId} not found")
  | some account =>
    if account.state.stateName ≠ .degraded then return account
    else CloudAccountRepository.update accountId setConfigured

/-! ## Configuring -/

inductive AssumeRoleResult where
  | success
  | failure (reason : String)
deriving DecidableEq

/-- What AWS answers to one `configure_account`: `describeRegions` is the message of the error it raises, if any. -/
structure AwsAnswers where
  canAssumeRole : AssumeRoleResult
  describeRegions : Option String
  listAccounts : List (CloudAccountId × CloudAccountName)
  listAccountAliases : Option CloudAccountAlias

inductive ConfigureResult where
  | configured (a : CloudAccount)
  | unknownCloud (cloud : CloudName)
  | unknownAccessType (access : CloudAccess)
  | wrongAccountState (state : CloudAccountState)
  | cantAssumeRole (retryLimitReached : Bool)
  | concurrentUpdate
deriving DecidableEq

/-- `become_degraded_timeout`, `fast_lane_timeout` and the half hour of `configure_discovered_accounts`. -/
def minutes (n : Int) : Int := 60000000 * n

/-- The closure of `configure_account`, with the access of the account object it was called with. -/
def updateToConfigured (access : CloudAccess) (privileged : Bool) (now : DateTime) (a : CloudAccount) :
    Except Err CloudAccount :=
  match a.state with
  | .discovered _ enabled =>
    .ok { a with state := .configured access enabled enabled, privileged := privileged, stateUpdatedAt := now }
  | _ => .error (.valueError s!"Account {a.id} is not in the discovered state, skipping")

/-- The part of `configure_account` after the role was assumed and before the account is configured: the other accounts
of the organization, or the alias of this one.  It returns whether the account is privileged. -/
def exploreAccount (account : CloudAccount) (externalId : ExternalId) (aws : AwsAnswers) : Service Bool := do
  match aws.describeRegions with
  | some msg => throw (.clientError msg)
  | none =>
    if aws.listAccounts ≠ [] then
      aws.listAccounts.forM fun (accountId, name) => do
        let _ ← createAwsAccount account.workspaceId accountId none externalId (some name)
      return true
    else
      match truthy aws.listAccountAliases with
      | none => return false
      | some name =>
        let _ ← CloudAccountRepository.update account.id fun _ a => .ok { a with accountAlias := some name }
        return false

/-- The end of `configure_account`. -/
def finishConfigure (account : CloudAccount) (access : CloudAccess) (privileged : Bool) : Service ConfigureResult :=
  tryCatch
    (do
      let updated ← CloudAccountRepository.update account.id (updateToConfigured access privileged)
      publish (.cloudAccountConfigured .aws account.id account.workspaceId account.accountId)
      return .configured updated)
    (fun
      | .valueError _ => return .concurrentUpdate
      | e => throw e)

def configureAccount (account : CloudAccount) (calledFromEvent : Bool) (aws : AwsAnswers) :
    Service ConfigureResult := do
  if account.cloud ≠ .aws then return .unknownCloud account.cloud
  else
    match account.state with
    | .discovered access _ =>
      match access with
      | .aws externalId _ =>
        match aws.canAssumeRole with
        | .failure reason =>
          let now ← utc
          let tryingToConfigureTime := now.sub account.stateUpdatedAt
          if !calledFromEvent && decide (minutes 15 < tryingToConfigureTime) then
            let _ ← degradeAccount account.id "Cannot assume role" .other
            return .cantAssumeRole true
          else if calledFromEvent && decide (minutes 1 < tryingToConfigureTime) then return .cantAssumeRole false
          else throw (.runtimeError
            s!"Cannot assume role for account {account.id}: {reason}, retrying again later")
        | .success =>
          let privileged ← exploreAccount account externalId aws
          finishConfigure account access privileged
      | _ => return .unknownAccessType access
    | state => return .wrongAccountState state

/-- One pass of the loop of `configure_discovered_accounts`. -/
def configureDiscovered (aws : AwsAnswers) (account : CloudAccount) : Service PUnit := do
  let now ← utc
  if minutes 30 < now.sub account.stateUpdatedAt then
    let _ ← degradeAccount account.id "Account in discovered state for too long" .other
  else tryCatch (do let _ ← configureAccount account false aws) (fun _ => pure ⟨⟩)

def configureDiscoveredAccounts (aws : FixCloudAccountId → AwsAnswers) : Service PUnit := do
  let accounts ← CloudAccountRepository.listAllDiscoveredAccounts
  accounts.forM fun account => configureDiscovered (aws account.id) account

/-! ## CloudFormation messages -/

structure CfResourceProperties where
  roleName : Option AwsRoleName
  workspaceId : Option Uuid
  externalId : Option Uuid
  stackId : Option String

/-- The JSON body of a message; a field is `none` when it is missing, an id also when it is no UUID. -/
structure CfBody where
  requestType : Option String
  requestId : Option String
  logicalResourceId : Option String
  responseUrl : Option String
  physicalResourceId : Option PhysicalResourceId
  resourceProperties : Option CfResourceProperties

/-- The message that carries the body has none of its fields. -/
def CfBody.empty : CfBody := ⟨none, none, none, none, none, none⟩

def markFailed : Service PUnit := modify fun w => { w with cfFailures := w.cfFailures + 1 }

/-- `send_response`; the URL answers with an error unless `accepts`. -/
def sendResponse (accepts : Bool) (msg : CfBody) (physicalResourceId : Option PhysicalResourceId)
    (errorMessage : Option String) : Service PUnit := do
  let response := do
    let physicalResourceId ← physicalResourceId.or msg.physicalResourceId
    let requestId ← msg.requestId
    let logicalResourceId ← msg.logicalResourceId
    let responseUrl ← msg.responseUrl
    let resourceProperties ← msg.resourceProperties
    let roleName ← resourceProperties.roleName
    let stackId ← resourceProperties.stackId
    return ({ responseUrl, success := (truthy errorMessage).isNone, reason := (truthy errorMessage).getD "OK",
              logicalResourceId, physicalResourceId, stackId, requestId, roleName } : CfResponse)
  match response with
  | none => markFailed
  | some r =>
    modify fun w => { w with cfResponses := w.cfResponses ++ [r] }
    if accepts then return else throw (.runtimeError "Failed to signal CF that we're done")

/-- The account id of a stack id `arn:aws:cloudformation:<region>:<account>:<stack>`. -/
def stackAccountId (stackId : String) : Option CloudAccountId :=
  if stackId.startsWith "arn:aws:cloudformation:" then
    match stackId.splitOn ":" with
    | [_, _, _, _, accountId, _] => some accountId
    | _ => none
  else none

def handleStackCreated (accepts : Bool) (msg : CfBody) : Service (Option CloudAccount) := do
  let fields := do
    let resourceProperties ← msg.resourceProperties
    let workspaceId ← resourceProperties.workspaceId
    let externalId ← resourceProperties.externalId
    let roleName ← resourceProperties.roleName
    let accountId ← resourceProperties.stackId.bind stackAccountId
    return (workspaceId, externalId, roleName, accountId)
  match fields with
  | none =>
    markFailed
    let physicalId ← uuid4
    sendResponse accepts msg (some (.uuid physicalId)) (some "Invalid format for CF stack create/update event")
    return none
  | some (workspaceId, externalId, roleName, accountId) =>
    let account ← createAwsAccount workspaceId accountId (some roleName) externalId none
    sendResponse accepts msg (some (.uuid account.id)) none
    return some account

/-- The account of a deleted stack, degraded when the stack refers to the role and the external id that are stored. -/
def degradeStack (cloudAccountId : FixCloudAccountId) (roleName : AwsRoleName) (externalId : ExternalId) :
    Service (Option CloudAccount) := do
  match ← CloudAccountRepository.get cloudAccountId with
  | none => return none
  | some account =>
    if account.awsAccess = some (externalId, roleName) then
      let account ← degradeAccount cloudAccountId "CloudformationStack deleted" .stackDeleted
      return some account
    else return some account

def handleStackDeleted (accepts : Bool) (msg : CfBody) : Service (Option CloudAccount) := do
  let fields := do
    let resourceProperties ← msg.resourceProperties
    let roleName ← resourceProperties.roleName
    let externalId ← resourceProperties.externalId
    match ← msg.physicalResourceId with
    | .uuid cloudAccountId => some (roleName, externalId, cloudAccountId)
    | .text _ => none
  match fields with
  | none =>
    markFailed
    let physicalId ← uuid4
    sendResponse accepts msg (some (.uuid physicalId)) (some "Invalid format for CF stack delete event")
    return none
  | some (roleName, externalId, cloudAccountId) =>
    let account ← degradeStack cloudAccountId roleName externalId
    sendResponse accepts msg (some (.uuid cloudAccountId)) none
    return account

/-- `process_cf_stack_event`, `none` being a message whose body is no JSON object. -/
def processCfStackEvent (accepts : Bool) (message : Option CfBody) : Service (Option CloudAccount) :=
  tryCatch
    (do
      match message with
      | none => throw (.valueError "Expecting value")
      | some body =>
        match body.requestType with
        | none => throw (.keyError "RequestType")
        | some "Create" => handleStackCreated accepts body
        | some "Delete" => handleStackDeleted accepts body
        | some "Update" => handleStackCreated accepts body
        | some _ =>
          sendResponse accepts .empty none none
          return none)
    (fun _ => do
      markFailed
      return none)

/-! ## Collect events -/

def computeFailedScanCount (threshold : Int) (info : CloudAccountCollectInfo) (a : CloudAccount)
    (failed : Bool) : Nat :=
  if failed then a.failedScanCount + 1
  else if (info.scannedResources : Int) ≤ threshold then a.failedScanCount + 1
  else 0

/-- The closure of `process_domain_event` that records a scan. -/
def recordScan (threshold : Int) (info : CloudAccountCollectInfo) (nextRun : Option DateTime) (failed : Bool)
    (_ : DateTime) (a : CloudAccount) : Except Err CloudAccount :=
  .ok { a with
    lastScanDurationSeconds := info.durationSeconds
    lastScanResourcesScanned := info.scannedResources
    lastScanStartedAt := some info.startedAt
    nextScan := nextRun
    failedScanCount := computeFailedScanCount threshold info a failed
    lastTaskId := info.taskId
    lastScanResourcesErrors := info.errors.length }

/-- The scan of one account of a collect event, and its degradation. -/
def recordCollected (nextRun : Option DateTime) (failed : Bool) (item : FixCloudAccountId × CloudAccountCollectInfo) :
    Service CloudAccount := do
  let w ← get
  let updated ← CloudAccountRepository.update item.1
    (recordScan w.accountFailedResourceCount item.2 nextRun failed)
  if 3 < updated.failedScanCount then
    let _ ← degradeAccount updated.id "Too many consecutive failed scans" .other
    return updated
  else return updated

/-- One account of a collect event; only an event of collected accounts brings an account back. -/
def processCollected (nextRun : Option DateTime) (failed : Bool)
    (item : FixCloudAccountId × CloudAccountCollectInfo) : Service PUnit := do
  let updated ← recordCollected nextRun failed item
  if !failed && updated.failedScanCount == 0 then
    let _ ← undegradeAccount updated.id

/-- `left | right` of two dictionaries. -/
def unionDict {κ ν : Type} [DecidableEq κ] (left right : List (κ × ν)) : List (κ × ν) :=
  left.map (fun p => (p.1, (right.lookup p.1).getD p.2)) ++
    right.filter (fun p => decide (p.1 ∉ left.map Prod.fst))

def notify (n : Notice) : Service PUnit := modify fun w => { w with notices := w.notices ++ [n] }

/-- What `process_domain_event` sends after the accounts of the event are recorded: `accounts` are the collected ones as
they were before, all of them never scanned in a first collect of the workspace. -/
def announceCollected (tenantId : WorkspaceId)
    (cloudAccounts cloudAccountsFailed : List (FixCloudAccountId × CloudAccountCollectInfo))
    (nextRun : Option DateTime) (accounts : List CloudAccount) : Service PUnit := do
  let firstWorkspaceCollect := accounts.all (·.lastScanStartedAt.isNone)
  let firstAccountCollect := accounts.any (·.lastScanStartedAt.isNone)
  notify (.pubSub (.tenantAccountsCollected tenantId cloudAccounts cloudAccountsFailed nextRun))
  let first : List Notice :=
    (if firstWorkspaceCollect then [.firstWorkspaceCollectFinished tenantId, .securityScanFinished tenantId] else []) ++
      if firstAccountCollect then [.firstAccountCollectFinished tenantId] else []
  first.forM notify
  notify (.workspaceCollectFinished tenantId cloudAccounts.length (cloudAccounts.map (·.2.scannedResources)).sum)

def processTenantAccountsCollected (tenantId : WorkspaceId)
    (cloudAccounts cloudAccountsFailed : List (FixCloudAccountId × CloudAccountCollectInfo))
    (nextRun : Option DateTime) : Service PUnit := do
  let accounts ← CloudAccountRepository.list (cloudAccounts.map Prod.fst)
  (unionDict cloudAccounts cloudAccountsFailed).forM (processCollected nextRun false)
  announceCollected tenantId cloudAccounts cloudAccountsFailed nextRun accounts

def processTenantAccountsCollectFailed (cloudAccounts : List (FixCloudAccountId × CloudAccountCollectInfo))
    (nextRun : Option DateTime) : Service PUnit :=
  cloudAccounts.forM (processCollected nextRun true)

/-! ## Toggles and deletion -/

def getCloudAccount (cloudAccountId : FixCloudAccountId) (workspaceId : WorkspaceId) : Service CloudAccount := do
  match ← CloudAccountRepository.get cloudAccountId with
  | none => throw (.resourceNotFound s!"Cloud account {cloudAccountId} not found")
  | some account =>
    if account.workspaceId ≠ workspaceId then throw (.notAllowed "This account does not belong to this workspace.")
    else return account

def validateTierRestrictions (enabled : Bool) (workspace : Workspace) (accountsCount : Nat) (now : DateTime) :
    Except Err Unit :=
  if enabled then
    if (workspace.accountLimit now).any (fun limit => limit ≤ accountsCount) then
      .error (.notAllowed "Account limit reached")
    else if workspace.paymentOnHoldSince.isSome then .error (.notAllowed "Payment on hold")
    else .ok ()
  else .ok ()

/-- The closure of `update_cloud_account_enabled`. -/
def setEnabled (enabled : Bool) (workspace : Workspace) (accountsCount : Nat) (now : DateTime) (a : CloudAccount) :
    Except Err CloudAccount :=
  match a.state with
  | .configured access _ scan => do
    validateTierRestrictions enabled workspace accountsCount now
    return { a with state := .configured access enabled scan }
  | .degraded access _ scan error => do
    validateTierRestrictions enabled workspace accountsCount now
    return { a with state := .degraded access enabled scan error }
  | _ => .error (.wrongState s!"Account {a.id} is not configured, cannot enable account")

def updateCloudAccountEnabled (workspaceId : WorkspaceId) (cloudAccountId : FixCloudAccountId) (enabled : Bool) :
    Service CloudAccount := do
  let _ ← getCloudAccount cloudAccountId workspaceId
  match ← findWorkspace workspaceId with
  | none => throw (.resourceNotFound "")
  | some workspace =>
    let accountsCount ← CloudAccountRepository.countByWorkspaceId workspaceId true false
    let result ← CloudAccountRepository.update cloudAccountId (setEnabled enabled workspace accountsCount)
    publish (.cloudAccountActiveToggled workspaceId cloudAccountId result.accountId enabled)
    return result

/-- The closure of `update_cloud_account_scan_enabled` and the event it sets. -/
def setScan (workspaceId : WorkspaceId) (scan : Bool) (_ : DateTime) (a : CloudAccount) :
    Except Err (CloudAccount × Option DomainEvent) :=
  match a.state with
  | .configured access enabled _ =>
    .ok ({ a with state := .configured access enabled scan },
      some (.cloudAccountScanToggled workspaceId a.id a.accountId enabled scan))
  | .degraded access enabled _ error => .ok ({ a with state := .degraded access enabled scan error }, none)
  | _ => .error (.wrongState s!"Account {a.id} is not configured, cannot enable account")

def updateCloudAccountScanEnabled (workspaceId : WorkspaceId) (cloudAccountId : FixCloudAccountId) (scan : Bool) :
    Service CloudAccount := do
  let _ ← getCloudAccount cloudAccountId workspaceId
  let (result, event) ← CloudAccountRepository.updateWith cloudAccountId (setScan workspaceId scan)
  event.forM publish
  return result

/-- The closure of `disable_cloud_account`. -/
def setDisabled (_ : DateTime) (a : CloudAccount) : Except Err CloudAccount :=
  match a.state with
  | .configured access _ _ => .ok { a with state := .configured access false false }
  | _ => .error (.wrongState s!"Account {a.id} is not configured, cannot enable account")

def disableCloudAccount (workspaceId : WorkspaceId) (cloudAccountId : FixCloudAccountId) : Service CloudAccount := do
  let _ ← getCloudAccount cloudAccountId workspaceId
  CloudAccountRepository.update cloudAccountId setDisabled

/-- The closure of `delete_cloud_account`. -/
def setDeleted (now : DateTime) (a : CloudAccount) : Except Err CloudAccount :=
  .ok { a with
    stateUpdatedAt := now
    state := .deleted
    nextScan := none
    lastScanResourcesScanned := 0
    lastScanDurationSeconds := 0
    lastScanStartedAt := none }

def deleteCloudAccount (userId : UserId) (cloudAccountId : FixCloudAccountId) (workspaceId : WorkspaceId) :
    Service PUnit := do
  match ← CloudAccountRepository.get cloudAccountId with
  | none => return
  | some account =>
    if account.workspaceId ≠ workspaceId then
      throw (.notAllowed "Deletion of cloud accounts is only allowed by the owning organization.")
    else
      let _ ← CloudAccountRepository.update cloudAccountId setDeleted
      publish (.cloudAccountDeleted account.cloud userId cloudAccountId workspaceId account.accountId)

end Fix
