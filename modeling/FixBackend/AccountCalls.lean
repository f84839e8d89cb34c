import FixBackend.AccountSpecs
import FixBackend.AccountUpdate
/-!
# AccountCalls — operations on cloud accounts taken apart at their awaits

Each call of `create_aws_account`, `configure_account`, `__degrade_account`, `__undegrade_account` and
`delete_cloud_account` is a program counter with the local variables that are used later.  A step runs from one await to
the next, an update in the steps of `updateStep`; what AWS answers to `configure_account` comes with the step.
-/
namespace Fix

open Calendar Effects Machine

/-! ## Program counters -/

structure CreateArgs where
  workspaceId : WorkspaceId
  accountId : CloudAccountId
  roleName : Option AwsRoleName
  externalId : ExternalId
  accountName : Option CloudAccountName

inductive CreatePc where
  | start
  | enabling (workspace : Workspace)
  | loading (enabled : Bool)
  | naming (existing : CloudAccount) (newName : Option CloudAccountName) (newCreatedAt : DateTime) (p : UpdatePhase)
  | redeploying (existing : CloudAccount) (access : CloudAccess) (enabled : Bool) (newName : Option CloudAccountName)
    (newCreatedAt : DateTime) (p : UpdatePhase)
  | creating (account : CloudAccount)
  | inserting (account : CloudAccount) (nextScan : Option DateTime)
  | refreshing (account : CloudAccount) (nextScan : Option DateTime)
  | publishing (e : DomainEvent)
  | ended
  | raised (e : Err)

/-- Of a call that gets an account, updates it and publishes that. -/
inductive UpdatePc where
  | start
  | updating (account : CloudAccount) (p : UpdatePhase)
  | publishing (e : DomainEvent)
  | ended
  | raised (e : Err)

inductive ConfigurePc where
  | start
  | assuming (externalId : ExternalId) (roleName : AwsRoleName)
  | degrading (pc : UpdatePc)
  | describing (access : CloudAccess) (externalId : ExternalId)
  | listing (access : CloudAccess) (externalId : ExternalId)
  | creating (access : CloudAccess) (externalId : ExternalId) (rest : List (CloudAccountId × CloudAccountName))
    (args : CreateArgs) (pc : CreatePc)
  | aliasing (access : CloudAccess)
  | naming (access : CloudAccess) (name : CloudAccountAlias) (p : UpdatePhase)
  | finishing (access : CloudAccess) (privileged : Bool) (p : UpdatePhase)
  | publishing (updated : CloudAccount)
  | ended (r : ConfigureResult)
  | raised (e : Err)

inductive AccountCall where
  | create (args : CreateArgs) (pc : CreatePc)
  | configure (account : CloudAccount) (calledFromEvent : Bool) (pc : ConfigurePc)
  | degrade (id : FixCloudAccountId) (error : String) (reason : DegradationReason) (pc : UpdatePc)
  | undegrade (id : FixCloudAccountId) (pc : UpdatePc)
  | delete (userId : UserId) (id : FixCloudAccountId) (workspaceId : WorkspaceId) (pc : UpdatePc)

/-! ## Steps -/

def updates {π : Type} (id : FixCloudAccountId) (f : DateTime → CloudAccount → Except Err CloudAccount)
    (p : UpdatePhase) (updating : UpdatePhase → π) (raised : Err → π) (next : CloudAccount → π) (w : World) :
    Option (π × World) :=
  (updateStep id f w p).map fun
    | (.returned a, w') => (next a, w')
    | (.raised e, w') => (raised e, w')
    | (p', w') => (updating p', w')

def updateExisting (args : CreateArgs) (enabled : Bool) (existing : CloudAccount) (newCreatedAt : DateTime) :
    CreatePc :=
  let newName := (truthy args.accountName).or existing.accountName
  match args.roleName with
  | none => .naming existing newName newCreatedAt .idle
  | some roleName =>
    if existing.awsAccess = some (args.externalId, roleName) then .naming existing newName newCreatedAt .idle
    else .redeploying existing (.aws args.externalId roleName) enabled newName newCreatedAt .idle

/-- `create_aws_account` when it has looked for the account, up to its next await. -/
def existingOrNew (args : CreateArgs) (enabled : Bool) : Service CreatePc := do
  match ← CloudAccountRepository.getByAccountId args.workspaceId args.accountId with
  | some existing => do
    let newCreatedAt ← createdAgain existing
    return updateExisting args enabled existing newCreatedAt
  | none =>
    let createdAt ← utc
    let id ← uuid4
    return .creating (newAccount id args.accountId args.workspaceId .aws
      (initialState args.roleName args.externalId enabled) args.accountName createdAt)

/-- The end of `create_aws_account`: a detected account is not announced. -/
def announced (args : CreateArgs) (result : CloudAccount) : CreatePc :=
  if result.state = .detected then .ended
  else .publishing (.cloudAccountDiscovered .aws result.id args.workspaceId args.accountId)

def nameChanged (args : CreateArgs) (existing result : CloudAccount) : CreatePc :=
  if existing.finalName = result.finalName then .ended
  else .publishing (.cloudAccountNameChanged result.id args.workspaceId result.cloud result.accountId
    result.state.stateName result.userAccountName result.finalName)

def createStep (args : CreateArgs) (w : World) : CreatePc → Option (CreatePc × World)
  | .start => some (awaits (findWorkspace args.workspaceId) .raised (fun
      | none => .raised (.resourceNotFound "Organization does not exist")
      | some workspace =>
        if workspace.externalId ≠ args.externalId then .raised (.wrongExternalId "External ids does not match")
        else .enabling workspace) w)
  | .enabling workspace => some (awaits (shouldBeEnabled workspace) .raised .loading w)
  | .loading enabled => some (awaits (existingOrNew args enabled) .raised id w)
  | .naming existing newName newCreatedAt p =>
    updates existing.id (renamed newName newCreatedAt) p (.naming existing newName newCreatedAt) .raised
      (nameChanged args existing) w
  | .redeploying existing access enabled newName newCreatedAt p =>
    updates existing.id (discoveredAgain (.discovered access enabled) newName newCreatedAt) p
      (.redeploying existing access enabled newName newCreatedAt) .raised (announced args) w
  | .creating account => some (awaits (getNextScan account.workspaceId) .raised (.inserting account) w)
  | .inserting account nextScan =>
    some (awaits (insertAccount (.ofModel account)) .raised (fun _ => .refreshing account nextScan) w)
  | .refreshing account nextScan =>
    some (match w.accounts.find account.id with
      | none => (.raised (.runtimeError "Could not refresh instance"), w)
      | some row => awaits (lift (row.toModel nextScan)) .raised (announced args) w)
  | .publishing e => some (awaits (publish e) .raised (fun _ => .ended) w)
  | .ended | .raised _ => none

def degradeStep (id : FixCloudAccountId) (error : String) (reason : DegradationReason) (w : World) :
    UpdatePc → Option (UpdatePc × World)
  | .start => some (awaits (CloudAccountRepository.get id) .raised (fun
      | none => .raised (.resourceNotFound s!"Account {id} not found")
      | some account => if account.state.stateName = .degraded then .ended else .updating account .idle) w)
  | .updating account p => updates id (setDegraded error) p (.updating account) .raised (fun result =>
      .publishing (.cloudAccountDegraded result.cloud result.id result.workspaceId result.accountId result.finalName
        error (some reason))) w
  | .publishing e => some (awaits (publish e) .raised (fun _ => .ended) w)
  | .ended | .raised _ => none

def undegradeStep (id : FixCloudAccountId) (w : World) : UpdatePc → Option (UpdatePc × World)
  | .start => some (awaits (CloudAccountRepository.get id) .raised (fun
      | none => .raised (.resourceNotFound s!"Account {id} not found")
      | some account => if account.state.stateName ≠ .degraded then .ended else .updating account .idle) w)
  | .updating account p => updates id setConfigured p (.updating account) .raised (fun _ => .ended) w
  | .publishing _ | .ended | .raised _ => none

def deleteStep (userId : UserId) (id : FixCloudAccountId) (workspaceId : WorkspaceId) (w : World) :
    UpdatePc → Option (UpdatePc × World)
  | .start => some (awaits (CloudAccountRepository.get id) .raised (fun
      | none => .ended
      | some account =>
        if account.workspaceId ≠ workspaceId then
          .raised (.notAllowed "Deletion of cloud accounts is only allowed by the owning organization.")
        else .updating account .idle) w)
  | .updating account p => updates id setDeleted p (.updating account) .raised (fun _ =>
      .publishing (.cloudAccountDeleted account.cloud userId id workspaceId account.accountId)) w
  | .publishing e => some (awaits (publish e) .raised (fun _ => .ended) w)
  | .ended | .raised _ => none

/-- `configure_account` up to its first await. -/
def checkConfigurable (account : CloudAccount) : ConfigurePc :=
  if account.cloud ≠ .aws then .ended (.unknownCloud account.cloud)
  else
    match account.state with
    | .discovered (.aws externalId roleName) _ => .assuming externalId roleName
    | .discovered access _ => .ended (.unknownAccessType access)
    | state => .ended (.wrongAccountState state)

/-- `configure_account` when the role cannot be assumed. -/
def cannotAssume (account : CloudAccount) (calledFromEvent : Bool) (reason : String) (now : DateTime) : ConfigurePc :=
  let tryingToConfigureTime := now.sub account.stateUpdatedAt
  if !calledFromEvent && decide (minutes 15 < tryingToConfigureTime) then .degrading .start
  else if calledFromEvent && decide (minutes 1 < tryingToConfigureTime) then .ended (.cantAssumeRole false)
  else .raised (.runtimeError s!"Cannot assume role for account {account.id}: {reason}, retrying again later")

/-- The loop of `configure_account` over the accounts of the organization. -/
def nextAccount (account : CloudAccount) (access : CloudAccess) (externalId : ExternalId) :
    List (CloudAccountId × CloudAccountName) → ConfigurePc
  | [] => .finishing access true .idle
  | (accountId, name) :: rest =>
    .creating access externalId rest ⟨account.workspaceId, accountId, none, externalId, some name⟩ .start

/-- The closure of `configure_account` that sets the alias. -/
def aliased (name : CloudAccountAlias) (_ : DateTime) (a : CloudAccount) : Except Err CloudAccount :=
  .ok { a with accountAlias := some name }

def configureStep (account : CloudAccount) (calledFromEvent : Bool) (aws : AwsAnswers) (w : World) :
    ConfigurePc → Option (ConfigurePc × World)
  | .start => some (checkConfigurable account, w)
  | .assuming externalId roleName =>
    match aws.canAssumeRole with
    | .failure reason => some (awaits utc .raised (cannotAssume account calledFromEvent reason) w)
    | .success => some (.describing (.aws externalId roleName) externalId, w)
  | .degrading pc => (degradeStep account.id "Cannot assume role" .other w pc).map fun
      | (.ended, w') => (.ended (.cantAssumeRole true), w')
      | (.raised e, w') => (.raised e, w')
      | (pc', w') => (.degrading pc', w')
  | .describing access externalId =>
    match aws.describeRegions with
    | some msg => some (.raised (.clientError msg), w)
    | none => some (.listing access externalId, w)
  | .listing access externalId =>
    match aws.listAccounts with
    | [] => some (.aliasing access, w)
    | accounts => some (nextAccount account access externalId accounts, w)
  | .creating access externalId rest args pc => (createStep args w pc).map fun
      | (.ended, w') => (nextAccount account access externalId rest, w')
      | (.raised e, w') => (.raised e, w')
      | (pc', w') => (.creating access externalId rest args pc', w')
  | .aliasing access =>
    match truthy aws.listAccountAliases with
    | none => some (.finishing access false .idle, w)
    | some name => some (.naming access name .idle, w)
  | .naming access name p =>
    updates account.id (aliased name) p (.naming access name) .raised (fun _ => .finishing access false .idle) w
  | .finishing access privileged p =>
    updates account.id (updateToConfigured access privileged) p (.finishing access privileged) (fun
      | .valueError _ => .ended .concurrentUpdate
      | e => .raised e) .publishing w
  | .publishing updated =>
    some (awaits (publish (.cloudAccountConfigured .aws account.id account.workspaceId account.accountId)) .raised
      (fun _ => .ended (.configured updated)) w)
  | .ended _ | .raised _ => none

def AccountCall.step (aws : AwsAnswers) (w : World) : AccountCall → Option (AccountCall × World)
  | .create args pc => (createStep args w pc).map (Prod.map (.create args) fun w => w)
  | .configure account calledFromEvent pc =>
    (configureStep account calledFromEvent aws w pc).map (Prod.map (.configure account calledFromEvent) fun w => w)
  | .degrade id error reason pc => (degradeStep id error reason w pc).map
      (Prod.map (.degrade id error reason) fun w => w)
  | .undegrade id pc => (undegradeStep id w pc).map (Prod.map (.undegrade id) fun w => w)
  | .delete userId id workspaceId pc =>
    (deleteStep userId id workspaceId w pc).map (Prod.map (.delete userId id workspaceId) fun w => w)

end Fix
