import FixBackend.Events
/-!
# CloudAccounts — the states of a cloud account and the row that stores it

`fixbackend/cloud_accounts/models` with the table `cloud_account` of `models/orm.py` and
`_update_state_dependent_fields` of `repository.py`.  The column `state` holds one of the five state names, or null in a
row from before the column.
-/
namespace Fix

open Calendar

inductive CloudAccess where
  | aws (externalId : ExternalId) (roleName : AwsRoleName)
  | gcp (serviceAccountKeyId : GcpServiceAccountKeyId)
  | azure (subscriptionCredentialsId : AzureSubscriptionCredentialsId)
deriving DecidableEq

def CloudAccess.cloud : CloudAccess → CloudName
  | .aws .. => .aws
  | .gcp .. => .gcp
  | .azure .. => .azure

inductive CloudAccountState where
  | detected
  | discovered (access : CloudAccess) (enabled : Bool)
  | configured (access : CloudAccess) (enabled scan : Bool)
  | degraded (access : CloudAccess) (enabled scan : Bool) (error : String)
  | deleted
deriving DecidableEq

namespace CloudAccountState

def stateName : CloudAccountState → StateName
  | detected => .detected
  | discovered .. => .discovered
  | configured .. => .configured
  | degraded .. => .degraded
  | deleted => .deleted

def cloudAccess : CloudAccountState → Option CloudAccess
  | detected => none
  | discovered access _ => some access
  | configured access _ _ => some access
  | degraded access _ _ _ => some access
  | deleted => none

def enabled : CloudAccountState → Bool
  | detected => false
  | discovered _ enabled => enabled
  | configured _ enabled _ => enabled
  | degraded _ enabled _ _ => enabled
  | deleted => false

def scan : CloudAccountState → Bool
  | detected => false
  | discovered .. => false
  | configured _ _ scan => scan
  | degraded _ _ scan _ => scan
  | deleted => false

def error : CloudAccountState → Option String
  | degraded _ _ _ error => some error
  | _ => none

@[simp] theorem of_detected : stateName detected = .detected ∧ cloudAccess detected = none ∧ enabled detected = false ∧
    scan detected = false := ⟨rfl, rfl, rfl, rfl⟩

@[simp] theorem of_discovered (a : CloudAccess) (e : Bool) : stateName (discovered a e) = .discovered ∧
    cloudAccess (discovered a e) = some a ∧ enabled (discovered a e) = e ∧ scan (discovered a e) = false :=
  ⟨rfl, rfl, rfl, rfl⟩

@[simp] theorem of_configured (a : CloudAccess) (e s : Bool) : stateName (configured a e s) = .configured ∧
    cloudAccess (configured a e s) = some a ∧ enabled (configured a e s) = e ∧ scan (configured a e s) = s :=
  ⟨rfl, rfl, rfl, rfl⟩

@[simp] theorem of_degraded (a : CloudAccess) (e s : Bool) (error : String) :
    stateName (degraded a e s error) = .degraded ∧ cloudAccess (degraded a e s error) = some a ∧
      enabled (degraded a e s error) = e ∧ scan (degraded a e s error) = s := ⟨rfl, rfl, rfl, rfl⟩

@[simp] theorem of_deleted : stateName deleted = .deleted ∧ cloudAccess deleted = none ∧ enabled deleted = false ∧
    scan deleted = false := ⟨rfl, rfl, rfl, rfl⟩

end CloudAccountState

structure CloudAccount where
  id : FixCloudAccountId
  accountId : CloudAccountId
  workspaceId : WorkspaceId
  cloud : CloudName
  state : CloudAccountState
  accountName : Option CloudAccountName
  accountAlias : Option CloudAccountAlias
  userAccountName : Option UserCloudAccountName
  privileged : Bool
  nextScan : Option DateTime
  lastScanDurationSeconds : Nat
  lastScanStartedAt : Option DateTime
  lastScanResourcesScanned : Nat
  lastScanResourcesErrors : Nat
  createdAt : DateTime
  updatedAt : DateTime
  stateUpdatedAt : DateTime
  cfStackVersion : Option Int
  failedScanCount : Nat
  lastTaskId : Option TaskId
  lastDegradedScanStartedAt : Option DateTime
deriving DecidableEq

def CloudAccount.awsAccess (a : CloudAccount) : Option (ExternalId × AwsRoleName) :=
  match a.state.cloudAccess with
  | some (.aws externalId roleName) => some (externalId, roleName)
  | _ => none

def CloudAccount.finalName (a : CloudAccount) : Option String :=
  (truthy a.userAccountName).or ((truthy a.accountName).or a.accountAlias)

structure AccountRow where
  id : FixCloudAccountId
  tenantId : WorkspaceId
  cloud : CloudName
  accountId : CloudAccountId
  awsExternalId : Option ExternalId
  awsRoleName : Option AwsRoleName
  gcpServiceAccountKeyId : Option GcpServiceAccountKeyId
  azureCredentialId : Option AzureSubscriptionCredentialsId
  privileged : Bool
  userAccountName : Option UserCloudAccountName
  apiAccountName : Option CloudAccountName
  apiAccountAlias : Option CloudAccountAlias
  isConfigured : Bool
  enabled : Bool
  state : Option StateName
  error : Option String
  lastScanDurationSeconds : Nat
  lastScanStartedAt : Option DateTime
  lastScanResourcesScanned : Nat
  lastScanResourcesErrors : Nat
  createdAt : DateTime
  updatedAt : DateTime
  stateUpdatedAt : DateTime
  cfStackVersion : Option Int
  versionId : Nat
  scan : Bool
  failedScanCount : Nat
  lastTaskId : Option TaskId
  lastDegradedScanStartedAt : Option DateTime
deriving DecidableEq

namespace AccountRow

def access (r : AccountRow) : Except Err CloudAccess :=
  match r.cloud with
  | .aws =>
    match r.awsRoleName, r.awsExternalId with
    | some roleName, some externalId => .ok (.aws externalId roleName)
    | _, _ => .error (.valueError "AWS role name or external_id is not set")
  | .gcp =>
    match r.gcpServiceAccountKeyId with
    | some key => .ok (.gcp key)
    | none => .error (.valueError "GCP service account key id is not set")
  | .azure =>
    match r.azureCredentialId with
    | some credentials => .ok (.azure credentials)
    | none => .error (.valueError "Azure credential id is not set")

/-- The name of the state `to_model` builds, a null state being read from `is_configured`. -/
def stateName (r : AccountRow) : StateName :=
  r.state.getD (if r.isConfigured then .configured else .discovered)

def accountState (r : AccountRow) : Except Err CloudAccountState :=
  match r.stateName with
  | .detected => .ok .detected
  | .discovered => (CloudAccountState.discovered · r.enabled) <$> r.access
  | .configured => (CloudAccountState.configured · r.enabled r.scan) <$> r.access
  | .degraded =>
    match r.error with
    | none => .error (.valueError "Degraded account must have an error")
    | some error => (CloudAccountState.degraded · r.enabled r.scan error) <$> r.access
  | .deleted => .ok .deleted

def toModel (r : AccountRow) (nextScan : Option DateTime) : Except Err CloudAccount :=
  match r.accountState with
  | .error e => .error e
  | .ok state => .ok
    { id := r.id
      accountId := r.accountId
      workspaceId := r.tenantId
      cloud := r.cloud
      state := state
      accountName := r.apiAccountName
      accountAlias := r.apiAccountAlias
      userAccountName := r.userAccountName
      privileged := r.privileged
      nextScan := nextScan
      lastScanDurationSeconds := r.lastScanDurationSeconds
      lastScanStartedAt := r.lastScanStartedAt
      lastScanResourcesScanned := r.lastScanResourcesScanned
      lastScanResourcesErrors := r.lastScanResourcesErrors
      createdAt := r.createdAt
      updatedAt := r.updatedAt
      stateUpdatedAt := r.stateUpdatedAt
      cfStackVersion := r.cfStackVersion
      failedScanCount := r.failedScanCount
      lastTaskId := r.lastTaskId
      lastDegradedScanStartedAt := r.lastDegradedScanStartedAt }

def updateStateDependentFields (r : AccountRow) (state : CloudAccountState) : AccountRow :=
  { r with
    awsExternalId := match state.cloudAccess with | some (.aws externalId _) => some externalId | _ => none
    awsRoleName := match state.cloudAccess with | some (.aws _ roleName) => some roleName | _ => none
    gcpServiceAccountKeyId := match state.cloudAccess with | some (.gcp key) => some key | _ => none
    azureCredentialId := match state.cloudAccess with | some (.azure credentials) => some credentials | _ => none
    state := some state.stateName
    error := state.error
    enabled := state.enabled
    scan := state.scan }

/-- The row `CloudAccountRepository.create` inserts; the version starts at 1. -/
def ofModel (a : CloudAccount) : AccountRow :=
  updateStateDependentFields
    { id := a.id
      tenantId := a.workspaceId
      cloud := a.cloud
      accountId := a.accountId
      awsExternalId := none
      awsRoleName := none
      gcpServiceAccountKeyId := none
      azureCredentialId := none
      privileged := a.privileged
      userAccountName := a.userAccountName
      apiAccountName := a.accountName
      apiAccountAlias := a.accountAlias
      isConfigured := false
      enabled := false
      state := none
      error := none
      lastScanDurationSeconds := 0
      lastScanStartedAt := none
      lastScanResourcesScanned := 0
      lastScanResourcesErrors := 0
      createdAt := a.createdAt
      updatedAt := a.updatedAt
      stateUpdatedAt := a.stateUpdatedAt
      cfStackVersion := a.cfStackVersion
      versionId := 1
      scan := true
      failedScanCount := a.failedScanCount
      lastTaskId := none
      lastDegradedScanStartedAt := a.lastDegradedScanStartedAt } a.state

/-- The columns `CloudAccountRepository.update` writes, `updatedAt` being the time of the write. -/
def assign (r : AccountRow) (a : CloudAccount) (updatedAt : DateTime) : AccountRow :=
  updateStateDependentFields { r with
    tenantId := a.workspaceId
    cloud := a.cloud
    accountId := a.accountId
    apiAccountName := a.accountName
    apiAccountAlias := a.accountAlias
    userAccountName := a.userAccountName
    privileged := a.privileged
    lastScanDurationSeconds := a.lastScanDurationSeconds
    lastScanStartedAt := a.lastScanStartedAt
    lastScanResourcesScanned := a.lastScanResourcesScanned
    createdAt := a.createdAt
    updatedAt := updatedAt
    stateUpdatedAt := a.stateUpdatedAt
    cfStackVersion := a.cfStackVersion
    failedScanCount := a.failedScanCount
    lastTaskId := a.lastTaskId
    lastScanResourcesErrors := a.lastScanResourcesErrors
    lastDegradedScanStartedAt := a.lastDegradedScanStartedAt } a.state

/-- The row an update commits: the columns written and the version counted up. -/
def written (r : AccountRow) (a : CloudAccount) (updatedAt : DateTime) : AccountRow :=
  { r.assign a updatedAt with versionId := r.versionId + 1 }

/-! ## What is read back -/

@[simp] theorem written_id (r : AccountRow) (a : CloudAccount) (t : DateTime) : (r.written a t).id = r.id := rfl

@[simp] theorem written_tenantId (r : AccountRow) (a : CloudAccount) (t : DateTime) :
    (r.written a t).tenantId = a.workspaceId := rfl

@[simp] theorem written_stateName (r : AccountRow) (a : CloudAccount) (t : DateTime) :
    (r.written a t).stateName = a.state.stateName := rfl

@[simp] theorem written_enabled (r : AccountRow) (a : CloudAccount) (t : DateTime) :
    (r.written a t).enabled = a.state.enabled := rfl

@[simp] theorem written_scan (r : AccountRow) (a : CloudAccount) (t : DateTime) :
    (r.written a t).scan = a.state.scan := rfl

@[simp] theorem ofModel_stateName (a : CloudAccount) : (ofModel a).stateName = a.state.stateName := rfl

@[simp] theorem ofModel_enabled (a : CloudAccount) : (ofModel a).enabled = a.state.enabled := rfl

theorem toModel_ok {r : AccountRow} {nextScan : Option DateTime} {a : CloudAccount} (h : r.toModel nextScan = .ok a) :
    r.accountState = .ok a.state ∧ a.id = r.id ∧ a.workspaceId = r.tenantId ∧ a.cloud = r.cloud ∧
      a.accountId = r.accountId := by
  unfold toModel at h
  split at h
  · cases h
  · rename_i state hstate
    cases h
    exact ⟨hstate, rfl, rfl, rfl, rfl⟩

theorem accountState_ok {r : AccountRow} {state : CloudAccountState} (h : r.accountState = .ok state) :
    r.stateName = state.stateName := by
  unfold accountState at h
  split at h
  · cases h
    assumption
  · rename_i hname
    cases ha : r.access <;> rw [ha] at h <;> cases h
    exact hname
  · rename_i hname
    cases ha : r.access <;> rw [ha] at h <;> cases h
    exact hname
  · rename_i hname
    split at h
    · cases h
    · cases ha : r.access <;> rw [ha] at h <;> cases h
      exact hname
  · cases h
    assumption

theorem access_cloud {r : AccountRow} {access : CloudAccess} (h : r.access = .ok access) : access.cloud = r.cloud := by
  unfold AccountRow.access at h
  split at h
  · split at h <;> cases h
    exact Eq.symm (by assumption)
  · split at h <;> cases h
    exact Eq.symm (by assumption)
  · split at h <;> cases h
    exact Eq.symm (by assumption)

theorem access_aws {r : AccountRow} {externalId : ExternalId} {roleName : AwsRoleName}
    (h : r.access = .ok (.aws externalId roleName)) : r.awsRoleName = some roleName := by
  unfold AccountRow.access at h
  split at h
  · split at h <;> cases h
    assumption
  · split at h <;> cases h
  · split at h <;> cases h

theorem accountState_access {r : AccountRow} {state : CloudAccountState} {access : CloudAccess}
    (h : r.accountState = .ok state) (ha : state.cloudAccess = some access) : r.access = .ok access := by
  unfold accountState at h
  split at h
  · cases h
    cases ha
  · cases hr : r.access <;> rw [hr] at h <;> cases h
    cases ha
    rfl
  · cases hr : r.access <;> rw [hr] at h <;> cases h
    cases ha
    rfl
  · split at h
    · cases h
    · cases hr : r.access <;> rw [hr] at h <;> cases h
      cases ha
      rfl
  · cases h
    cases ha

theorem accountState_error {r : AccountRow} {state : CloudAccountState} {error : String}
    (h : r.accountState = .ok state) (he : state.error = some error) : r.error = some error := by
  unfold accountState at h
  split at h
  · cases h
    cases he
  · cases hr : r.access <;> rw [hr] at h <;> cases h
    cases he
  · cases hr : r.access <;> rw [hr] at h <;> cases h
    cases he
  · split at h
    · cases h
    · cases hr : r.access <;> rw [hr] at h <;> cases h
      cases he
      assumption
  · cases h
    cases he

theorem accountState_settings {r : AccountRow} {state : CloudAccountState} (h : r.accountState = .ok state)
    (hname : state.stateName = .configured ∨ state.stateName = .degraded) :
    ∃ access, state.cloudAccess = some access ∧ r.access = .ok access ∧ r.enabled = state.enabled ∧
      r.scan = state.scan := by
  unfold accountState at h
  split at h
  · cases h
    rcases hname with h | h <;> cases h
  · cases ha : r.access <;> rw [ha] at h <;> cases h
    rcases hname with h | h <;> cases h
  · cases ha : r.access with
    | error e => rw [ha] at h; cases h
    | ok access =>
      rw [ha] at h
      cases h
      exact ⟨access, rfl, rfl, rfl, rfl⟩
  · split at h
    · cases h
    · cases ha : r.access with
      | error e => rw [ha] at h; cases h
      | ok access =>
        rw [ha] at h
        cases h
        exact ⟨access, rfl, rfl, rfl, rfl⟩
  · cases h
    rcases hname with h | h <;> cases h

theorem access_updateStateDependentFields {r : AccountRow} {state : CloudAccountState} {access : CloudAccess}
    (hs : state.cloudAccess = some access) (hcloud : access.cloud = r.cloud) :
    (r.updateStateDependentFields state).access = .ok access := by
  unfold AccountRow.access updateStateDependentFields
  cases access <;> simp only [CloudAccess.cloud] at hcloud <;> simp only [hs, ← hcloud]

theorem written_access {r : AccountRow} {a : CloudAccount} {t : DateTime} {access : CloudAccess}
    (hs : a.state.cloudAccess = some access) (hcloud : access.cloud = a.cloud) :
    (r.written a t).access = .ok access :=
  access_updateStateDependentFields hs hcloud

/-- **Writing a state and reading it gives the same state**, when its access is one of the account's cloud. -/
theorem accountState_updateStateDependentFields (r : AccountRow) (state : CloudAccountState)
    (h : ∀ access, state.cloudAccess = some access → access.cloud = r.cloud) :
    (r.updateStateDependentFields state).accountState = .ok state := by
  cases state with
  | detected => rfl
  | discovered access enabled =>
    change _ <$> (r.updateStateDependentFields _).access = _
    rw [access_updateStateDependentFields rfl (h access rfl)]
    rfl
  | configured access enabled scan =>
    change _ <$> (r.updateStateDependentFields _).access = _
    rw [access_updateStateDependentFields rfl (h access rfl)]
    rfl
  | degraded access enabled scan error =>
    change _ <$> (r.updateStateDependentFields _).access = _
    rw [access_updateStateDependentFields rfl (h access rfl)]
    rfl
  | deleted => rfl

theorem accountState_of_updateStateDependentFields {r : AccountRow} {state read : CloudAccountState}
    (h : (r.updateStateDependentFields state).accountState = .ok read) : read = state := by
  by_cases hcloud : ∀ access, state.cloudAccess = some access → access.cloud = r.cloud
  · rw [accountState_updateStateDependentFields r state hcloud] at h
    cases h
    rfl
  · -- an access of another cloud is not read back
    obtain ⟨access, hne⟩ := not_forall.1 hcloud
    obtain ⟨hsome, hne⟩ := Classical.not_imp.1 hne
    have herror : ∀ a, (r.updateStateDependentFields state).access ≠ .ok a := by
      intro a ha
      have hsame := access_cloud ha
      unfold AccountRow.access updateStateDependentFields at ha
      cases access <;> cases hr : r.cloud <;> simp_all [CloudAccess.cloud]
    unfold accountState at h
    cases state with
    | detected | deleted => cases hsome
    | discovered | configured | degraded =>
      change _ <$> (r.updateStateDependentFields _).access = _ at h
      cases ha : (r.updateStateDependentFields _).access with
      | error e =>
        rw [ha] at h
        cases h
      | ok a => exact absurd ha (herror a)

theorem accountState_written {r : AccountRow} {a : CloudAccount} {t : DateTime} {state : CloudAccountState}
    (h : (r.written a t).accountState = .ok state) : state = a.state :=
  accountState_of_updateStateDependentFields h

theorem accountState_ofModel {a : CloudAccount} {state : CloudAccountState}
    (h : (ofModel a).accountState = .ok state) : state = a.state :=
  accountState_of_updateStateDependentFields h

end AccountRow

/-! ## The columns of text -/

/-- The columns that hold a text of somebody else's.  The names of the clouds and states and the ids of the tasks are
shorter than their columns. -/
inductive Column where
  | accountId
  | awsRoleName
  | userAccountName
  | apiAccountName
  | apiAccountAlias
  | error

namespace Column

def all : List Column := [accountId, awsRoleName, userAccountName, apiAccountName, apiAccountAlias, error]

theorem mem_all (c : Column) : c ∈ all := by
  cases c <;> simp [all]

def length : Column → Nat
  | accountId => 64
  | awsRoleName => 2048
  | userAccountName => 256
  | apiAccountName => 256
  | apiAccountAlias => 256
  | error => 64

/-- The text is no longer than the column and without the character that the database refuses in texts. -/
def Takes (c : Column) (s : String) : Prop := s.length ≤ c.length ∧ Char.ofNat 0 ∉ s.toList

instance (c : Column) (s : String) : Decidable (c.Takes s) := inferInstanceAs (Decidable (_ ∧ _))

end Column

def AccountRow.text (r : AccountRow) : Column → Option String
  | .accountId => some r.accountId
  | .awsRoleName => r.awsRoleName
  | .userAccountName => r.userAccountName
  | .apiAccountName => r.apiAccountName
  | .apiAccountAlias => r.apiAccountAlias
  | .error => r.error

/-- A column does not take its text; over a stored row only the columns that differ are written. -/
def AccountRow.unfit (stored : Option AccountRow) (r : AccountRow) : Bool :=
  Column.all.any fun c => (r.text c).any fun s => decide (stored.bind (·.text c) ≠ some s ∧ ¬ c.Takes s)

def CloudAccount.text (a : CloudAccount) : Column → Option String
  | .accountId => some a.accountId
  | .awsRoleName => a.awsAccess.map Prod.snd
  | .userAccountName => a.userAccountName
  | .apiAccountName => a.accountName
  | .apiAccountAlias => a.accountAlias
  | .error => a.state.error

theorem AccountRow.unfit_eq_false_iff (stored : Option AccountRow) (r : AccountRow) :
    r.unfit stored = false ↔
      ∀ c s, r.text c = some s → stored.bind (·.text c) = some s ∨ c.Takes s := by
  unfold unfit
  rw [List.any_eq_false]
  constructor
  · intro h c s hs
    have hc := h c (Column.mem_all c)
    rwa [hs, Option.any_some, decide_eq_true_eq, not_and_or, not_not, not_not] at hc
  · intro h c _
    cases hs : r.text c with
    | none => exact Bool.false_ne_true
    | some s =>
      rw [Option.any_some, decide_eq_true_eq, not_and_or, not_not, not_not]
      exact h c s hs

theorem AccountRow.text_written (r : AccountRow) (a : CloudAccount) (t : DateTime) (c : Column) :
    (r.written a t).text c = a.text c := by
  cases c with
  | awsRoleName =>
    change (match a.state.cloudAccess with | some (.aws _ roleName) => some roleName | _ => none) =
      (match a.state.cloudAccess with | some (.aws e r) => some (e, r) | _ => none).map Prod.snd
    split <;> rfl
  | accountId | userAccountName | apiAccountName | apiAccountAlias | error => rfl

theorem AccountRow.text_toModel {r : AccountRow} {nextScan : Option DateTime} {a : CloudAccount}
    (h : r.toModel nextScan = .ok a) {c : Column} {s : String} (hs : a.text c = some s) : r.text c = some s := by
  have hstate := (toModel_ok h).1
  cases c with
  | awsRoleName =>
    change a.awsAccess.map Prod.snd = some s at hs
    unfold CloudAccount.awsAccess at hs
    split at hs <;> cases hs
    exact access_aws (accountState_access hstate ‹_›)
  | error => exact accountState_error hstate hs
  | accountId | userAccountName | apiAccountName | apiAccountAlias =>
    unfold toModel at h
    split at h <;> cases h
    exact hs

theorem AccountRow.not_unfit_of_state {r : AccountRow} {nextScan : Option DateTime} {a updated : CloudAccount}
    (h : r.toModel nextScan = .ok a)
    (htexts : (updated.accountId, updated.userAccountName, updated.accountName, updated.accountAlias) =
      (a.accountId, a.userAccountName, a.accountName, a.accountAlias))
    (haccess : ∀ access, updated.state.cloudAccess = some access → a.state.cloudAccess = some access)
    (herror : ∀ e, updated.state.error = some e → a.state.error = some e ∨ Column.error.Takes e)
    (t : DateTime) : (r.written updated t).unfit (some r) = false := by
  simp only [Prod.mk.injEq] at htexts
  refine (unfit_eq_false_iff _ _).2 fun c s hs => ?_
  rw [text_written] at hs
  refine Or.imp_left (text_toModel h) ?_
  cases c with
  | accountId => exact .inl ((congrArg some htexts.1.symm).trans hs)
  | awsRoleName =>
    left
    change updated.awsAccess.map Prod.snd = some s at hs
    change a.awsAccess.map Prod.snd = some s
    unfold CloudAccount.awsAccess at hs ⊢
    split at hs <;> cases hs
    rw [haccess _ ‹_›]
    rfl
  | userAccountName => exact .inl (htexts.2.1.symm.trans hs)
  | apiAccountName => exact .inl (htexts.2.2.1.symm.trans hs)
  | apiAccountAlias => exact .inl (htexts.2.2.2.symm.trans hs)
  | error => exact herror s hs

end Fix
