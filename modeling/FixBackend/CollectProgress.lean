import FixBackend.Ids
import FixBackend.Table
/-!
# CollectProgress — the redis hashes of the collect runs

`fixbackend/dispatcher/collect_progress.py` and the commands of `CollectAccountProgress`.  A hash is a dictionary, the
JSON of a value is the value, and the expiry after four hours is left out.  `attempt` remembers the job under which an
entry was tracked; no function reads it.
-/
namespace Fix

open Calendar

abbrev JobId := Uuid

inductive CollectionResult where
  | failure (durationSeconds : Nat) (taskId : Option TaskId) (error : String)
  | success (scannedResources durationSeconds : Nat) (taskId : TaskId) (resourceErrors : List String)
deriving DecidableEq

def CollectionResult.isFailure : CollectionResult → Bool
  | failure .. => true
  | success .. => false

structure AccountCollectProgress where
  cloud : CloudName
  cloudAccountId : FixCloudAccountId
  accountId : CloudAccountId
  startedAt : DateTime
  collectionDone : Option CollectionResult
  attempt : JobId
deriving DecidableEq

namespace AccountCollectProgress

def done (p : AccountCollectProgress) (scannedResources scanDuration : Nat) (taskId : TaskId)
    (resourceErrors : List String) : AccountCollectProgress :=
  { p with collectionDone := some (.success scannedResources scanDuration taskId resourceErrors) }

def failed (p : AccountCollectProgress) (error : String) (scanDuration : Nat) (taskId : Option TaskId) :
    AccountCollectProgress :=
  { p with collectionDone := some (.failure scanDuration taskId error) }

def isDone (p : AccountCollectProgress) : Bool := p.collectionDone.isSome

@[simp] theorem done_attempt (p : AccountCollectProgress) (n d : Nat) (t : TaskId) (es : List String) :
    (p.done n d t es).attempt = p.attempt := rfl

@[simp] theorem failed_attempt (p : AccountCollectProgress) (e : String) (d : Nat) (t : Option TaskId) :
    (p.failed e d t).attempt = p.attempt := rfl

@[simp] theorem done_isDone (p : AccountCollectProgress) (n d : Nat) (t : TaskId) (es : List String) :
    (p.done n d t es).isDone = true := rfl

@[simp] theorem failed_isDone (p : AccountCollectProgress) (e : String) (d : Nat) (t : Option TaskId) :
    (p.failed e d t).isDone = true := rfl

@[simp] theorem done_cloudAccountId (p : AccountCollectProgress) (n d : Nat) (t : TaskId) (es : List String) :
    (p.done n d t es).cloudAccountId = p.cloudAccountId := rfl

@[simp] theorem failed_cloudAccountId (p : AccountCollectProgress) (e : String) (d : Nat) (t : Option TaskId) :
    (p.failed e d t).cloudAccountId = p.cloudAccountId := rfl

end AccountCollectProgress

abbrev CollectState := Dict FixCloudAccountId AccountCollectProgress

/-- `all(job.is_done() for job in tenant_collect_state.values())`. -/
def CollectState.allDone (c : CollectState) : Bool := Dict.allValues c (·.isDone)

/-- Every entry holds a failure; one that is not done holds no result at all. -/
def CollectState.allFailed (c : CollectState) : Bool :=
  Dict.allValues c (fun p => p.collectionDone.any (·.isFailure))

inductive AccountInformation where
  | aws (awsAccountId : CloudAccountId) (awsAccountName : Option String) (awsRoleArn : String)
      (externalId : ExternalId)
  | gcp (gcpProjectId : CloudAccountId) (googleApplicationCredentials : String)
  | azure (azureSubscriptionId : CloudAccountId) (tenantId clientId clientSecret : String)
      (collectMicrosoftGraph : Bool)
deriving DecidableEq

def AccountInformation.cloud : AccountInformation → CloudName
  | aws .. => .aws
  | gcp .. => .gcp
  | azure .. => .azure

def AccountInformation.accountId : AccountInformation → CloudAccountId
  | aws id .. => id
  | gcp id .. => id
  | azure id .. => id

/-- The keys of the dispatcher: a hash of progress and a hash of jobs for each workspace, the workspace of each job. -/
structure CollectStore where
  progress : WorkspaceId → CollectState
  jobs : WorkspaceId → Dict JobId FixCloudAccountId
  jobTenant : JobId → Option WorkspaceId

namespace CollectStore

def accountCollectState (c : CollectStore) (workspaceId : WorkspaceId) (accountId : FixCloudAccountId) :
    Option AccountCollectProgress :=
  Dict.get (c.progress workspaceId) accountId

def jobAccount (c : CollectStore) (workspaceId : WorkspaceId) (jobId : JobId) : Option FixCloudAccountId :=
  Dict.get (c.jobs workspaceId) jobId

def setProgress (c : CollectStore) (workspaceId : WorkspaceId) (accountId : FixCloudAccountId)
    (p : AccountCollectProgress) : CollectStore :=
  { c with progress := Function.update c.progress workspaceId (Dict.put (c.progress workspaceId) accountId p) }

/-- The pipeline of `track_account_collection_progress`, which is one transaction. -/
def track (c : CollectStore) (workspaceId : WorkspaceId) (cloudAccountId : FixCloudAccountId)
    (info : AccountInformation) (jobId : JobId) (now : DateTime) : CollectStore where
  progress := Function.update c.progress workspaceId (Dict.put (c.progress workspaceId) cloudAccountId
    ⟨info.cloud, cloudAccountId, info.accountId, now, none, jobId⟩)
  jobs := Function.update c.jobs workspaceId (Dict.put (c.jobs workspaceId) jobId cloudAccountId)
  jobTenant := Function.update c.jobTenant jobId (some workspaceId)

def deleteProgress (c : CollectStore) (workspaceId : WorkspaceId) : CollectStore :=
  { c with progress := Function.update c.progress workspaceId default }

def deleteJobTenant (c : CollectStore) (jobId : JobId) : CollectStore :=
  { c with jobTenant := Function.update c.jobTenant jobId none }

def deleteJobs (c : CollectStore) (workspaceId : WorkspaceId) : CollectStore :=
  { c with jobs := Function.update c.jobs workspaceId default }

variable (c : CollectStore) {ws ws' : WorkspaceId} {A A' : FixCloudAccountId} {J J' : JobId}

/-! ## What is found after a command -/

theorem get_update_put {ν : Type} (f : WorkspaceId → Dict Uuid ν) (ws ws' : WorkspaceId) (k k' : Uuid) (v : ν) :
    Dict.get (Function.update f ws (Dict.put (f ws) k v) ws') k' =
      if ws' = ws ∧ k' = k then some v else Dict.get (f ws') k' := by
  by_cases hws : ws' = ws
  · subst hws
    by_cases hk : k' = k
    · subst hk
      simp only [Function.update_self, Dict.get_put_self, and_self, if_true]
    · simp only [Function.update_self, Dict.get_put_of_ne _ v hk, hk, and_false, if_false]
  · simp only [Function.update_of_ne hws, hws, false_and, if_false]

theorem get_update_default {ν : Type} (f : WorkspaceId → Dict Uuid ν) (ws ws' : WorkspaceId) (k : Uuid) :
    Dict.get (Function.update f ws default ws') k = if ws' = ws then none else Dict.get (f ws') k := by
  by_cases hws : ws' = ws
  · subst hws
    simp only [Function.update_self, Dict.get_default, if_true]
  · simp only [Function.update_of_ne hws, hws, if_false]

theorem entry_setProgress (p : AccountCollectProgress) :
    (c.setProgress ws A p).accountCollectState ws' A' =
      if ws' = ws ∧ A' = A then some p else c.accountCollectState ws' A' :=
  get_update_put c.progress ws ws' A A' p

theorem entry_track (info : AccountInformation) (now : DateTime) :
    (c.track ws A info J now).accountCollectState ws' A' =
      if ws' = ws ∧ A' = A then some ⟨info.cloud, A, info.accountId, now, none, J⟩
      else c.accountCollectState ws' A' :=
  entry_setProgress c _

theorem jobTenant_track (info : AccountInformation) (now : DateTime) :
    (c.track ws A info J now).jobTenant J' = if J' = J then some ws else c.jobTenant J' :=
  Function.update_apply _ _ _ _

theorem jobAccount_track (info : AccountInformation) (now : DateTime) :
    (c.track ws A info J now).jobAccount ws' J' = if ws' = ws ∧ J' = J then some A else c.jobAccount ws' J' :=
  get_update_put c.jobs ws ws' J J' A

theorem entry_deleteProgress : (c.deleteProgress ws).accountCollectState ws' A =
    if ws' = ws then none else c.accountCollectState ws' A :=
  get_update_default c.progress ws ws' A

theorem jobAccount_deleteJobs : (c.deleteJobs ws).jobAccount ws' J = if ws' = ws then none else c.jobAccount ws' J :=
  get_update_default c.jobs ws ws' J

theorem jobTenant_deleteJobTenant : (c.deleteJobTenant J).jobTenant J' = if J' = J then none else c.jobTenant J' :=
  Function.update_apply _ _ _ _

theorem allDone_iff : (c.progress ws).allDone = true ↔
    ∀ A p, c.accountCollectState ws A = some p → p.isDone = true :=
  Dict.allValues_iff _ _

end CollectStore

end Fix
