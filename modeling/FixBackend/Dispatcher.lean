import FixBackend.AccountPayments
import FixBackend.CollectProgress
import FixBackend.Metering
/-!
# Dispatcher — collect jobs and what becomes of them

`fixbackend/dispatcher/dispatcher_service.py`: the runs that are scheduled, the jobs that are enqueued and the messages
that come back.  One call runs after another here.  The id and the reason with which a job was triggered are remembered
in it; no function reads them.
-/
namespace Fix

open Calendar Effects

structure GraphDatabaseAccess where
  workspaceId : WorkspaceId
  server : String
  username : String
  password : String
  database : String
deriving DecidableEq

theorem oneDatabase_unique :
    ([(⟨1, "server", "fix", "secret", "one"⟩ : GraphDatabaseAccess)].map GraphDatabaseAccess.workspaceId).Nodup := by
  decide

structure AzureSubscriptionCredentials where
  azureTenantId : String
  clientId : String
  clientSecret : String
deriving DecidableEq

inductive CollectReason where
  | awsAccountConfigured
  | regularCollect
  | degradedAccountPing
  | failedAccountScan
deriving DecidableEq

/-- What a collect job is enqueued with besides its id; times are in microseconds. -/
structure CollectRequest where
  db : GraphDatabaseAccess
  account : AccountInformation
  deferBy : Option Nat
  retryFailedFor : Option Nat
  cloudAccountId : FixCloudAccountId
  reason : CollectReason
deriving DecidableEq

structure CollectJob where
  jobId : JobId
  request : CollectRequest
deriving DecidableEq

structure PostCollectAccountInfo where
  cloud : CloudName
  accountId : CloudAccountId
  taskId : TaskId
deriving DecidableEq

structure PostCollectJob where
  db : GraphDatabaseAccess
  accountsCollected : List PostCollectAccountInfo
deriving DecidableEq

/-- What the dispatcher reads and writes.  The key of a service account is the JSON that it is. -/
structure Dispatcher where
  world : World
  collects : CollectStore
  serviceAccountKeys : GcpServiceAccountKeyId → Option String
  azureCredentials : AzureSubscriptionCredentialsId → Option AzureSubscriptionCredentials
  databaseAccess : Table GraphDatabaseAccess.workspaceId
  degradedAccountsPingIntervalHours : Nat
  collectQueue : List CollectJob
  postCollectQueue : List PostCollectJob
  metering : List MeteringRecord

abbrev Dispatching := Call Err Dispatcher

namespace CloudAccountRepository

/-- `list_by_workspace_id(workspace_id, ready_for_collection=True)`. -/
def listReadyForCollection (workspaceId : WorkspaceId) : Service (List CloudAccount) := do
  let nextScan ← getNextScan workspaceId
  let w ← MonadState.get
  lift ((w.accounts.rows.filter fun r => decide (r.tenantId = workspaceId) && readyForCollection r).mapM
    (·.toModel nextScan))

/-- The condition of `list_degraded_for_ping`, for the interval that `last_ping_before` is before `now`. -/
def degradedForPing (now : DateTime) (interval : Nat) (r : AccountRow) : Bool :=
  r.enabled && decide (r.state = some .degraded) &&
    r.lastDegradedScanStartedAt.all fun t => decide ((interval : Int) < now.sub t)

/-- `list_degraded_for_ping`; the workspace is not read. -/
def listDegradedForPing (_workspace : WorkspaceId) (now : DateTime) (interval : Nat) : Service (List CloudAccount) := do
  let w ← MonadState.get
  lift ((w.accounts.rows.filter (degradedForPing now interval)).mapM (·.toModel none))

def listNonHourlyFailedScansAccounts (now : DateTime) : Service (List CloudAccount) := do
  let w ← MonadState.get
  let rows := w.accounts.rows.filter fun r =>
    readyForCollection r && decide (0 < r.failedScanCount) &&
      (w.nextRuns.find r.tenantId).any fun run => decide (now.addMicros (2 * 3600000000) < run.time)
  lift (rows.mapM (·.toModel none))

end CloudAccountRepository

def olderThan (now : DateTime) : Service (List NextTenantRun) := do
  let w ← get
  return w.nextRuns.rows.filter fun run => decide (run.time < now)

namespace DispatcherService

def inWorld {α : Type} (m : Service α) : Dispatching α := embed Dispatcher.world (fun d w => { d with world := w }) m

/-! ## Triggering collects -/

def accountInformation (account : CloudAccount) (collectMicrosoftGraph : Bool) (d : Dispatcher) :
    Option AccountInformation :=
  match account.state with
  | .configured access _ _ | .degraded access _ _ _ =>
    match access with
    | .aws externalId roleName =>
      some (.aws account.accountId account.finalName s!"arn:aws:iam::{account.accountId}:role/{roleName}" externalId)
    | .gcp serviceAccountKeyId =>
      (d.serviceAccountKeys serviceAccountKeyId).map fun value => .gcp account.accountId value
    | .azure credentialId =>
      (d.azureCredentials credentialId).map fun credential =>
        .azure account.accountId credential.azureTenantId credential.clientId credential.clientSecret
          collectMicrosoftGraph
  | _ => none

def trackAccountCollectionProgress (workspaceId : WorkspaceId) (cloudAccountId : FixCloudAccountId)
    (info : AccountInformation) (jobId : JobId) (now : DateTime) : Dispatching PUnit :=
  modify fun d => { d with collects := d.collects.track workspaceId cloudAccountId info jobId now }

/-- `enqueue`; a job with an id that `uuid4` returned is not enqueued yet. -/
def enqueue (job : CollectJob) : Dispatching PUnit := modify fun d => { d with collectQueue := d.collectQueue ++ [job] }

def triggerCollect (account : CloudAccount) (reason : CollectReason) (deferBy retryFailedFor : Option Nat)
    (collectMicrosoftGraph : Bool) : Dispatching PUnit := do
  let d ← get
  if (d.collects.accountCollectState account.workspaceId account.id).isSome then return
  else
    match accountInformation account collectMicrosoftGraph d, d.databaseAccess.find account.workspaceId with
    | some info, some db => do
      let jobId ← inWorld uuid4
      let now ← inWorld utc
      trackAccountCollectionProgress account.workspaceId account.id info jobId now
      enqueue ⟨jobId, db, info, deferBy, retryFailedFor, account.id, reason⟩
    | _, _ => return

def processAwsAccountConfigured (cloudAccountId : FixCloudAccountId) : Dispatching PUnit := do
  match ← inWorld (CloudAccountRepository.get cloudAccountId) with
  | none => return
  | some account =>
    triggerCollect account .awsAccountConfigured (some (3 * 60000000)) (some (15 * 60000000)) false

/-! ## Scheduling -/

/-- The body of the loop over the accounts; it hands on `azure_graph_scheduled`. -/
def scheduleAccount (azureGraphScheduled : Bool) (account : CloudAccount) : Dispatching Bool := do
  let reason := if account.state.stateName = .degraded then .degradedAccountPing else .regularCollect
  if account.cloud = .azure ∧ azureGraphScheduled = false then
    triggerCollect account reason none none true
    return true
  else
    triggerCollect account reason none none false
    return azureGraphScheduled

/-- The closure that `schedule_next_runs` hands to `update`. -/
def setPinged (startedAt : DateTime) (_ : DateTime) (a : CloudAccount) : Except Err CloudAccount :=
  .ok { a with lastDegradedScanStartedAt := some startedAt }

def scheduleWorkspace (now : DateTime) (azureGraphScheduled : Bool) (run : NextTenantRun) : Dispatching Bool := do
  let d ← get
  let healthyAccounts ← inWorld (CloudAccountRepository.listReadyForCollection run.tenantId)
  let degradedAccounts ← inWorld (CloudAccountRepository.listDegradedForPing run.tenantId now
    (d.degradedAccountsPingIntervalHours * 3600000000))
  let productTier ← inWorld (getProductTier run.tenantId)
  let scheduled ← (healthyAccounts ++ degradedAccounts).foldlM scheduleAccount azureGraphScheduled
  degradedAccounts.forM fun account => inWorld (CloudAccountRepository.update account.id (setPinged now) *> return)
  let _ ← inWorld (updateNextRunFor run.tenantId productTier (some run.time))
  return scheduled

def scheduleNextRuns : Dispatching PUnit := do
  let now ← inWorld utc
  let due ← inWorld (olderThan now)
  let _ ← due.foldlM (scheduleWorkspace now) false
  let failedAccounts ← inWorld (CloudAccountRepository.listNonHourlyFailedScansAccounts now)
  failedAccounts.forM fun account => triggerCollect account .failedAccountScan none none false

/-! ## Results -/

structure AccountDetails where
  cloud : String
  name : Option String
  summary : List Nat
deriving DecidableEq

/-- What a `collect-done` message holds of a finished collect. -/
structure CollectResult where
  tenantId : WorkspaceId
  accountInfo : List (CloudAccountId × AccountDetails)
  messages : List String
  startedAt : DateTime
deriving DecidableEq

/-- A `collect-done` or `job-failed` message; what a message may lack is an option. -/
structure JobMessage where
  jobId : JobId
  error : Option String
  taskId : Option TaskId
  duration : Option Nat
  result : Option CollectResult
deriving DecidableEq

inductive CollectMessage where
  | collectDone (m : JobMessage)
  | jobFailed (m : JobMessage)
  | postCollectDone (tenantId : WorkspaceId) (success : Bool)
deriving DecidableEq

def setProgress (workspaceId : WorkspaceId) (accountId : FixCloudAccountId) (p : AccountCollectProgress) :
    Dispatching PUnit :=
  modify fun d => { d with collects := d.collects.setProgress workspaceId accountId p }

def accountCollectStateByJobId (c : CollectStore) (workspaceId : WorkspaceId) (jobId : JobId) :
    Option AccountCollectProgress :=
  (c.jobAccount workspaceId jobId).bind (c.accountCollectState workspaceId)

def markJobAsFailed (jobId : JobId) (duration : Nat) (taskId : Option TaskId) (error : String) : Dispatching PUnit := do
  let d ← get
  match d.collects.jobTenant jobId with
  | none => return
  | some workspaceId =>
    match accountCollectStateByJobId d.collects workspaceId jobId with
    | none => return
    | some state => setProgress workspaceId state.cloudAccountId (state.failed error duration taskId)

def markAccountAsCollected (workspaceId : WorkspaceId) (cloudAccountId : FixCloudAccountId)
    (nrOfResourcesCollected scanDurationSeconds : Nat) (taskId : TaskId) (errorMessages : List String) :
    Dispatching PUnit := do
  let d ← get
  match d.collects.accountCollectState workspaceId cloudAccountId with
  | none => throw (.runtimeError s!"Could not find collect job context for accound id {cloudAccountId}")
  | some state =>
    setProgress workspaceId cloudAccountId (state.done nrOfResourcesCollected scanDurationSeconds taskId errorMessages)

def deleteTenantCollectState (workspaceId : WorkspaceId) : Dispatching PUnit := do
  modify fun d => { d with collects := d.collects.deleteProgress workspaceId }
  let d ← get
  ((d.collects.jobs workspaceId).rows.map Prod.fst).forM fun jobId =>
    modify fun d => { d with collects := d.collects.deleteJobTenant jobId }
  modify fun d => { d with collects := d.collects.deleteJobs workspaceId }

def collectedSuccess (state : CollectState) : List (FixCloudAccountId × CloudAccountCollectInfo) :=
  state.rows.filterMap fun (k, v) =>
    match v.collectionDone with
    | some (.success scannedResources durationSeconds taskId resourceErrors) =>
      some (k, ⟨v.accountId, scannedResources, durationSeconds, v.startedAt, some taskId, resourceErrors⟩)
    | _ => none

def collectedFailed (state : CollectState) : List (FixCloudAccountId × CloudAccountCollectInfo) :=
  state.rows.filterMap fun (k, v) =>
    match v.collectionDone with
    | some (.failure durationSeconds taskId error) =>
      some (k, ⟨v.accountId, 0, durationSeconds, v.startedAt, taskId, [error]⟩)
    | _ => none

def sendDomainEvent (workspaceId : WorkspaceId) (state : CollectState) : Dispatching PUnit := do
  let nextRun ← inWorld (getNextScan workspaceId)
  if (collectedSuccess state).isEmpty = false then
    inWorld (publish (.tenantAccountsCollected workspaceId (collectedSuccess state) (collectedFailed state) nextRun))
  else if (collectedFailed state).isEmpty = false then
    inWorld (publish (.tenantAccountsCollectFailed workspaceId (collectedFailed state) nextRun))
  else return

def completeCollectJob (workspaceId : WorkspaceId) : Dispatching PUnit := do
  let d ← get
  let state := d.collects.progress workspaceId
  if state.allDone = false then return
  else
    sendDomainEvent workspaceId state
    deleteTenantCollectState workspaceId

def processPostCollectDoneMessage (workspaceId : WorkspaceId) (success : Bool) : Dispatching PUnit := do
  let d ← get
  if (d.collects.progress workspaceId).allDone = false then return
  else if success = false then return
  else completeCollectJob workspaceId

def triggerPostCollect (workspaceId : WorkspaceId) (collected : List PostCollectAccountInfo) : Dispatching PUnit := do
  let d ← get
  match d.databaseAccess.find workspaceId with
  | none => return
  | some db => modify fun d => { d with postCollectQueue := d.postCollectQueue ++ [⟨db, collected⟩] }

/-- The tier of a workspace; the free one when the workspace is gone. -/
def tierOrFree (workspaceId : WorkspaceId) : Service ProductTier := do
  match ← findWorkspace workspaceId with
  | some workspace => return workspace.currentProductTier (← utc)
  | none => return .free

def meteringRecord (m : JobMessage) (taskId : TaskId) (duration : Nat) (r : CollectResult) (tier : ProductTier)
    (accountId : CloudAccountId) (details : AccountDetails) : Service MeteringRecord := do
  let id ← uuid4
  let timestamp ← utc
  pure
    { id := id
      workspaceId := r.tenantId
      cloud := details.cloud
      accountId := accountId
      accountName := details.name
      timestamp := timestamp
      jobId := s!"{m.jobId}"
      taskId := taskId
      nrOfResourcesCollected := details.summary.sum
      nrOfErrorMessages := r.messages.length
      startedAt := r.startedAt
      duration := duration
      productTier := tier }

def handleError (m : JobMessage) (error : String) : Dispatching PUnit :=
  markJobAsFailed m.jobId (m.duration.getD 0) m.taskId error

def handleSuccess (m : JobMessage) : Dispatching PUnit := do
  match m.taskId, m.result, m.duration with
  | some taskId, some r, some duration => do
    let tier ← inWorld (tierOrFree r.tenantId)
    let records ← inWorld (r.accountInfo.mapM fun (accountId, details) =>
      meteringRecord m taskId duration r tier accountId details)
    modify fun d => { d with metering := d.metering ++ records }
    let d ← get
    match accountCollectStateByJobId d.collects r.tenantId m.jobId with
    | none => return
    | some progress =>
      markAccountAsCollected r.tenantId progress.cloudAccountId (records.map (·.nrOfResourcesCollected)).sum duration
        taskId r.messages
  | _, _, _ => throw (.keyError "collect-done")

def postCollectAccounts (state : CollectState) : List PostCollectAccountInfo :=
  state.rows.filterMap fun (_, v) =>
    match v.collectionDone with
    | some (.success _ _ taskId _) => some ⟨v.cloud, v.accountId, taskId⟩
    | _ => none

/-- `collect_job_finished` when the result of the job is stored. -/
def continueRun (jobId : JobId) : Dispatching PUnit := do
  let d ← get
  match d.collects.jobTenant jobId with
  | none => return
  | some workspaceId =>
    let state := d.collects.progress workspaceId
    if state.allDone = false then return
    else if state.allFailed then completeCollectJob workspaceId
    else
      let collected := postCollectAccounts state
      if collected.isEmpty then completeCollectJob workspaceId
      triggerPostCollect workspaceId collected

def JobMessage.failure (m : JobMessage) (failed : Bool) : Option String :=
  if failed then some ((truthy m.error).getD "received job failed message") else truthy m.error

def collectJobFinished (m : JobMessage) (failed : Bool) : Dispatching PUnit := do
  match JobMessage.failure m failed with
  | some error => handleError m error
  | none => handleSuccess m
  continueRun m.jobId

def processCollectDoneMessage : CollectMessage → Dispatching PUnit
  | .postCollectDone tenantId success => processPostCollectDoneMessage tenantId success
  | .collectDone m => collectJobFinished m false
  | .jobFailed m => collectJobFinished m true

end DispatcherService

end Fix
