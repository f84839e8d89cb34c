import FixBackend.AccountLimit
import FixBackend.AccountStates
import FixBackend.AccountStandings
/-!
# StackAnswers — what CloudFormation is told about a stack

CloudFormation waits for one answer to each message about a stack.  `process_cf_stack_event` answers from inside its
handlers; an error of `create_aws_account` or of `__degrade_account` passes them by and only marks the message as
failed.
-/
namespace Fix

open Calendar Effects

namespace StackEvents

/-- What every answer repeats of the message. -/
structure Request where
  responseUrl : String
  requestId : String
  logicalResourceId : String
  roleName : AwsRoleName
  stackId : String

def request (msg : CfBody) : Option Request := do
  let requestId ← msg.requestId
  let logicalResourceId ← msg.logicalResourceId
  let responseUrl ← msg.responseUrl
  let resourceProperties ← msg.resourceProperties
  let roleName ← resourceProperties.roleName
  let stackId ← resourceProperties.stackId
  return { responseUrl, requestId, logicalResourceId, roleName, stackId }

def Request.answer (q : Request) (physicalResourceId : PhysicalResourceId) (errorMessage : Option String) :
    CfResponse where
  responseUrl := q.responseUrl
  success := (truthy errorMessage).isNone
  reason := (truthy errorMessage).getD "OK"
  logicalResourceId := q.logicalResourceId
  physicalResourceId := physicalResourceId
  stackId := q.stackId
  requestId := q.requestId
  roleName := q.roleName

/-- The message has what an answer to it needs. -/
structure Answerable (msg : CfBody) : Prop where
  request : (request msg).isSome
  physicalResourceId : msg.requestType ≠ some "Create" → msg.physicalResourceId.isSome

def createFields (msg : CfBody) : Option (WorkspaceId × ExternalId × AwsRoleName × CloudAccountId) := do
  let resourceProperties ← msg.resourceProperties
  let workspaceId ← resourceProperties.workspaceId
  let externalId ← resourceProperties.externalId
  let roleName ← resourceProperties.roleName
  let accountId ← resourceProperties.stackId.bind stackAccountId
  return (workspaceId, externalId, roleName, accountId)

def deleteFields (msg : CfBody) : Option (AwsRoleName × ExternalId × FixCloudAccountId) := do
  let resourceProperties ← msg.resourceProperties
  let roleName ← resourceProperties.roleName
  let externalId ← resourceProperties.externalId
  match ← msg.physicalResourceId with
  | .uuid cloudAccountId => some (roleName, externalId, cloudAccountId)
  | .text _ => none

/-- The stored account has the role and the external id. -/
def HasRole (w : World) (id : FixCloudAccountId) (workspaceId : WorkspaceId) (accountId : CloudAccountId)
    (externalId : ExternalId) (roleName : AwsRoleName) : Prop :=
  ∃ row a, w.accounts.find id = some row ∧ row.toModel none = .ok a ∧ a.workspaceId = workspaceId ∧
    a.accountId = accountId ∧ a.awsAccess = some (externalId, roleName)

/-- What a deleted stack leaves: its account is degraded, or it was not the account's stack. -/
def StackGone (cloudAccountId : FixCloudAccountId) (roleName : AwsRoleName) (externalId : ExternalId)
    (w w' : World) : Prop :=
  ∀ row a, w.accounts.find cloudAccountId = some row → row.toModel none = .ok a →
    a.awsAccess = some (externalId, roleName) →
      ∃ row', w'.accounts.find cloudAccountId = some row' ∧ row'.stateName = .degraded

/-- The account of the stack is stored under `id` with the role of the message. -/
def CreationDone (msg : CfBody) (id : PhysicalResourceId) (w' : World) : Prop :=
  ∃ workspaceId externalId roleName accountId cloudAccountId,
    createFields msg = some (workspaceId, externalId, roleName, accountId) ∧ id = .uuid cloudAccountId ∧
      HasRole w' cloudAccountId workspaceId accountId externalId roleName

def DeletionDone (msg : CfBody) (w : World) (id : PhysicalResourceId) (w' : World) : Prop :=
  ∃ roleName externalId cloudAccountId, deleteFields msg = some (roleName, externalId, cloudAccountId) ∧
    id = .uuid cloudAccountId ∧ StackGone cloudAccountId roleName externalId w w'

/-- What the message asks for is carried out, or it asks for nothing. -/
def CarriedOut (msg : CfBody) (w : World) (id : PhysicalResourceId) (w' : World) : Prop :=
  match msg.requestType with
  | some "Create" => CreationDone msg id w'
  | some "Update" => CreationDone msg id w'
  | some "Delete" => DeletionDone msg w id w'
  | _ => True

/-- One answer is sent, a success just when the change is carried out. -/
def Answered (msg : CfBody) (w w' : World) : Prop :=
  ∃ q id error, request msg = some q ∧ w'.cfResponses = w.cfResponses ++ [q.answer id error] ∧
    ((q.answer id error).success = true ↔ CarriedOut msg w id w')

def accountOf (w : World) (workspaceId : WorkspaceId) (accountId : CloudAccountId) : Option AccountRow :=
  w.accounts.rows.find? fun r => decide (r.tenantId = workspaceId ∧ r.accountId = accountId)

/-- The account is new, under an id that no account has and with texts that fit their columns, or a readable AWS account
that has the role already or whose column takes it. -/
def TakesRole (w : World) (workspaceId : WorkspaceId) (accountId : CloudAccountId) (roleName : AwsRoleName) : Prop :=
  match accountOf w workspaceId accountId with
  | none => w.accounts.find w.nextUuid = none ∧ Column.accountId.Takes accountId ∧
      Column.awsRoleName.Takes roleName
  | some row => (∃ a, row.toModel none = .ok a) ∧ row.cloud = .aws ∧
      (row.awsRoleName = some roleName ∨ Column.awsRoleName.Takes roleName)

structure Creatable (w : World) (workspaceId : WorkspaceId) (externalId : ExternalId) (roleName : AwsRoleName)
    (accountId : CloudAccountId) : Prop where
  workspace : ∃ workspace, getWorkspace w.organizations workspaceId = some workspace ∧ workspace.externalId = externalId
  account : TakesRole w workspaceId accountId roleName

def CreationHandled (msg : CfBody) (w : World) : Prop :=
  ∀ workspaceId externalId roleName accountId,
    createFields msg = some (workspaceId, externalId, roleName, accountId) →
      Creatable w workspaceId externalId roleName accountId

def DeletionHandled (msg : CfBody) (w : World) : Prop :=
  ∀ roleName externalId cloudAccountId, deleteFields msg = some (roleName, externalId, cloudAccountId) →
    ∀ row, w.accounts.find cloudAccountId = some row → ∃ a, row.toModel none = .ok a

/-- The type is known, and the rest of the message is malformed or asks for what can be done. -/
def Handled (msg : CfBody) (w : World) : Prop :=
  match msg.requestType with
  | some "Create" => CreationHandled msg w
  | some "Update" => CreationHandled msg w
  | some "Delete" => DeletionHandled msg w
  | _ => False

/-! ## Sending -/

theorem exec_sendResponse {msg : CfBody} {q : Request} (h : request msg = some q) (id : PhysicalResourceId)
    (error : Option String) (w : World) : exec (sendResponse true msg (some id) error) w =
      (.ok ⟨⟩, { w with cfResponses := w.cfResponses ++ [q.answer id error] }) := by
  unfold request at h
  simp only [Option.bind_eq_bind, Option.bind_eq_some_iff, Option.pure_def, Option.some.injEq] at h
  obtain ⟨requestId, hrequest, logicalResourceId, hlogical, responseUrl, hurl, properties, hproperties, roleName, hrole,
    stackId, hstack, rfl⟩ := h
  unfold sendResponse
  rw [hrequest, hlogical, hurl, hproperties]
  simp only [Option.bind_eq_bind, Option.bind_some, Option.some_or, hrole, hstack]
  rfl

/-- A handler that cannot read its fields. -/
def invalid (msg : CfBody) (error : String) : Service (Option CloudAccount) := do
  markFailed
  let physicalId ← uuid4
  sendResponse true msg (some (.uuid physicalId)) (some error)
  return none

theorem exec_invalid {msg : CfBody} {q : Request} (h : request msg = some q) (error : String) (w : World) :
    exec (invalid msg error) w = (.ok none, { w with
      cfFailures := w.cfFailures + 1
      nextUuid := w.nextUuid + 1
      cfResponses := w.cfResponses ++ [q.answer (.uuid w.nextUuid) (some error)] }) := by
  unfold invalid
  rw [exec_bind, markFailed, exec_modify]
  dsimp only
  rw [exec_bind, uuid4, exec_modifyGet]
  dsimp only
  rw [exec_bind, exec_sendResponse h]
  rfl

theorem handleStackCreated_eq (msg : CfBody) : handleStackCreated true msg =
    match createFields msg with
    | none => invalid msg "Invalid format for CF stack create/update event"
    | some (workspaceId, externalId, roleName, accountId) => do
      let account ← createAwsAccount workspaceId accountId (some roleName) externalId none
      sendResponse true msg (some (.uuid account.id)) none
      return some account := rfl

theorem handleStackDeleted_eq (msg : CfBody) : handleStackDeleted true msg =
    match deleteFields msg with
    | none => invalid msg "Invalid format for CF stack delete event"
    | some (roleName, externalId, cloudAccountId) => do
      let account ← degradeStack cloudAccountId roleName externalId
      sendResponse true msg (some (.uuid cloudAccountId)) none
      return account := rfl

/-! ## Storing the account of a stack -/

section Storing

variable {w : World} {workspaceId : WorkspaceId} {accountId : CloudAccountId} {roleName : AwsRoleName}
  {externalId : ExternalId} {enabled : Bool}

theorem exec_getByAccountId (w : World) (workspaceId : WorkspaceId) (accountId : CloudAccountId) :
    exec (CloudAccountRepository.getByAccountId workspaceId accountId) w =
      match accountOf w workspaceId accountId with
      | none => (.ok none, w)
      | some row => ((row.toModel ((w.nextRuns.find workspaceId).map (·.time))).map some, w) := by
  unfold CloudAccountRepository.getByAccountId accountOf
  rw [exec_bind, exec_get]
  dsimp only
  cases w.accounts.rows.find? fun r => decide (r.tenantId = workspaceId ∧ r.accountId = accountId) with
  | none => rfl
  | some row =>
    dsimp only
    rw [exec_bind, exec_getNextScan]
    dsimp only
    rw [map_eq_pure_bind, exec_bind, exec_lift]
    cases row.toModel _ <;> rfl

theorem accountOf_some {row : AccountRow} (h : accountOf w workspaceId accountId = some row) :
    w.accounts.find row.id = some row ∧ row.tenantId = workspaceId ∧ row.accountId = accountId := by
  have hkeys := List.find?_some h
  simp only [decide_eq_true_eq] at hkeys
  exact ⟨(Table.find_eq_some_iff _ _ _).2 ⟨List.mem_of_find?_eq_some h, rfl⟩, hkeys⟩

theorem create_refused {a : CloudAccount}
    (h : w.accounts.find a.id ≠ none ∨ (AccountRow.ofModel a).unfit none = true) :
    ∃ e, exec (CloudAccountRepository.create a) w = (.error e, w) := by
  unfold CloudAccountRepository.create
  rw [exec_bind, exec_getNextScan]
  dsimp only
  rw [exec_bind, insertAccount, exec_bind, exec_get]
  dsimp only
  cases hrefusal : w.refusal none (.ofModel a) with
  | some e => exact ⟨e, rfl⟩
  | none =>
    rcases h with h | h
    · have hid : w.accounts.find (AccountRow.ofModel a).id ≠ none := h
      dsimp only
      rw [dif_neg hid]
      exact ⟨.integrityError, rfl⟩
    · unfold World.refusal at hrefusal
      rw [if_pos h] at hrefusal
      cases hrefusal

theorem not_taken_of_accountOf {row : AccountRow} (h : accountOf w row.tenantId row.accountId = none) :
    w.taken row = false := by
  unfold World.taken
  rw [List.any_eq_false]
  intro x hx hkeys
  simp only [decide_eq_true_eq] at hkeys
  exact List.find?_eq_none.1 h x hx (decide_eq_true hkeys.2)

theorem create_new {a : CloudAccount} (hnew : w.accounts.find a.id = none)
    (haccount : accountOf w a.workspaceId a.accountId = none)
    (hfits : (AccountRow.ofModel a).unfit none = false) (horganization : w.organizations.find a.workspaceId ≠ none)
    (hcloud : ∀ access, a.state.cloudAccess = some access → access.cloud = a.cloud) :
    ∃ b w', exec (CloudAccountRepository.create a) w = (.ok b, w') ∧ b.id = a.id ∧
      w'.accounts.find a.id = some (.ofModel a) ∧ (AccountRow.ofModel a).accountState = .ok a.state := by
  have hid : w.accounts.find (AccountRow.ofModel a).id = none := hnew
  have hrefusal : w.refusal none (.ofModel a) = none := by
    have htaken : w.taken (.ofModel a) = false := not_taken_of_accountOf haccount
    have horphaned : w.orphaned none (.ofModel a) = false := decide_eq_false fun h => horganization h.2
    unfold World.refusal
    rw [hfits, htaken, horphaned]
    rfl
  have hstate : (AccountRow.ofModel a).accountState = .ok a.state :=
    AccountRow.accountState_updateStateDependentFields _ a.state hcloud
  obtain ⟨b, hb, -⟩ := AccountRow.exists_toModel hstate ((w.nextRuns.find a.workspaceId).map (·.time))
  refine ⟨b, w.insert (.ofModel a) hid, ?_, (AccountRow.toModel_ok hb).2.1, Table.find_insert_self _ _ hid, hstate⟩
  unfold CloudAccountRepository.create
  rw [exec_bind, exec_getNextScan]
  dsimp only
  rw [exec_bind, insertAccount, exec_bind, exec_get]
  dsimp only
  rw [hrefusal]
  dsimp only
  rw [dif_pos hid, exec_set]
  dsimp only
  rw [exec_lift, hb]

theorem unfit_newAccount {id : Uuid} {createdAt : DateTime} :
    (AccountRow.ofModel (newAccount id accountId workspaceId .aws (initialState (some roleName) externalId enabled)
        none createdAt)).unfit none = false ↔
      Column.accountId.Takes accountId ∧ Column.awsRoleName.Takes roleName := by
  rw [AccountRow.unfit_eq_false_iff]
  constructor
  · intro h
    exact ⟨(h .accountId _ rfl).resolve_left nofun, (h .awsRoleName _ rfl).resolve_left nofun⟩
  · rintro ⟨haccountId, hroleName⟩ c s hs
    right
    cases c with
    | accountId =>
      cases hs
      exact haccountId
    | awsRoleName =>
      cases hs
      exact hroleName
    | userAccountName | apiAccountName | apiAccountAlias | error => cases hs

theorem hasRole_of_row {id : FixCloudAccountId} {row : AccountRow} {state : CloudAccountState}
    (hfind : w.accounts.find id = some row) (hstate : row.accountState = .ok state)
    (htenant : row.tenantId = workspaceId) (haccount : row.accountId = accountId)
    (haccess : state.cloudAccess = some (.aws externalId roleName)) :
    HasRole w id workspaceId accountId externalId roleName := by
  obtain ⟨a, ha, hastate⟩ := AccountRow.exists_toModel hstate none
  obtain ⟨-, -, hworkspace, -, haccountId⟩ := AccountRow.toModel_ok ha
  refine ⟨row, a, hfind, ha, hworkspace.trans htenant, haccountId.trans haccount, ?_⟩
  unfold CloudAccount.awsAccess
  rw [hastate, haccess]

/-- **A new account** is stored, unless the next id is that of another one or a text does not fit. -/
theorem store_new (h : accountOf w workspaceId accountId = none) (hnew : w.accounts.find w.nextUuid = none)
    (hfits : Column.accountId.Takes accountId ∧ Column.awsRoleName.Takes roleName)
    (horganization : w.organizations.find workspaceId ≠ none) :
    ∃ p w', exec (storeAwsAccount workspaceId accountId (some roleName) externalId none enabled) w = (.ok p, w') ∧
      HasRole w' p.1.id workspaceId accountId externalId roleName := by
  unfold storeAwsAccount
  rw [exec_bind, exec_getByAccountId, h]
  dsimp only
  rw [exec_bind, exec_utc]
  dsimp only
  rw [exec_bind, uuid4, exec_modifyGet]
  dsimp only
  obtain ⟨b, w', hexec, hid, hfind, hstate⟩ := @create_new { w.tick with nextUuid := w.tick.nextUuid + 1 }
    (newAccount w.tick.nextUuid accountId workspaceId .aws (initialState (some roleName) externalId enabled) none w.now)
    hnew h (unfit_newAccount.2 hfits) horganization (fun access haccess => by cases haccess; rfl)
  rw [exec_bind, hexec]
  exact ⟨(b, true), w', rfl, hasRole_of_row (hid ▸ hfind) hstate rfl rfl rfl⟩

theorem store_refused (h : accountOf w workspaceId accountId = none)
    (hnot : ¬ (w.accounts.find w.nextUuid = none ∧ Column.accountId.Takes accountId ∧
      Column.awsRoleName.Takes roleName)) :
    ∃ e w', exec (storeAwsAccount workspaceId accountId (some roleName) externalId none enabled) w =
      (.error e, w') := by
  unfold storeAwsAccount
  rw [exec_bind, exec_getByAccountId, h]
  dsimp only
  rw [exec_bind, exec_utc]
  dsimp only
  rw [exec_bind, uuid4, exec_modifyGet]
  dsimp only
  obtain ⟨e, hexec⟩ := @create_refused { w.tick with nextUuid := w.tick.nextUuid + 1 }
    (newAccount w.tick.nextUuid accountId workspaceId .aws (initialState (some roleName) externalId enabled) none w.now)
    ((not_and_or.1 hnot).imp id fun hunfit => Bool.eq_true_of_not_eq_false fun hfits =>
      hunfit (unfit_newAccount.1 hfits))
  rw [exec_bind, hexec]
  exact ⟨e, _, rfl⟩

theorem store_unreadable {row : AccountRow} {e : Err} (h : accountOf w workspaceId accountId = some row)
    (hread : row.toModel ((w.nextRuns.find workspaceId).map (·.time)) = .error e) :
    exec (storeAwsAccount workspaceId accountId (some roleName) externalId none enabled) w = (.error e, w) := by
  unfold storeAwsAccount
  rw [exec_bind, exec_getByAccountId, h]
  dsimp only
  rw [hread]
  rfl

theorem exec_store_stored {row : AccountRow} {existing : CloudAccount}
    (h : accountOf w workspaceId accountId = some row)
    (hread : row.toModel ((w.nextRuns.find workspaceId).map (·.time)) = .ok existing) :
    exec (storeAwsAccount workspaceId accountId (some roleName) externalId none enabled) w =
      exec (updateAwsAccount workspaceId existing (some roleName) externalId none enabled) w := by
  unfold storeAwsAccount
  rw [exec_bind, exec_getByAccountId, h]
  dsimp only
  rw [hread]
  rfl

theorem exec_renameAccount {row : AccountRow} {existing : CloudAccount} (hfind : w.accounts.find existing.id = some row)
    (hread : row.toModel none = .ok { existing with nextScan := none }) :
    exec (renameAccount workspaceId existing existing.accountName existing.createdAt) w =
      (.ok { existing with nextScan := none }, w.tick) := by
  unfold renameAccount
  rw [exec_bind, CloudAccountRepository.exec_update hfind hread]
  dsimp only [renamed]
  rw [if_pos rfl]
  dsimp only
  have hname : ¬ existing.finalName ≠ ({ existing with nextScan := none } : CloudAccount).finalName := not_not.2 rfl
  rw [if_neg hname, exec_pure]

theorem cloud_of_awsAccess {row : AccountRow} {nextScan : Option DateTime} {a : CloudAccount}
    (hread : row.toModel nextScan = .ok a) (haccess : a.awsAccess = some (externalId, roleName)) :
    row.cloud = .aws := by
  obtain ⟨hstate, -⟩ := AccountRow.toModel_ok hread
  unfold CloudAccount.awsAccess at haccess
  split at haccess
  · rename_i hcloud
    exact (AccountRow.accountState_cloud hstate hcloud).symm
  · cases haccess

theorem exec_createdAgain (existing : CloudAccount) (w : World) :
    ∃ created w', exec (createdAgain existing) w = (.ok created, w') ∧ (w' = w ∨ w' = w.tick) := by
  unfold createdAgain
  split
  · exact ⟨_, _, rfl, .inr rfl⟩
  · exact ⟨_, _, rfl, .inl rfl⟩

theorem store_same {row : AccountRow} {existing : CloudAccount} (h : accountOf w workspaceId accountId = some row)
    (hread : row.toModel ((w.nextRuns.find workspaceId).map (·.time)) = .ok existing)
    (hsame : existing.awsAccess = some (externalId, roleName)) :
    ∃ p w', exec (storeAwsAccount workspaceId accountId (some roleName) externalId none enabled) w = (.ok p, w') ∧
      HasRole w' p.1.id workspaceId accountId externalId roleName := by
  obtain ⟨hfind, htenant, haccount⟩ := accountOf_some h
  obtain ⟨hstate, hid, hworkspace, -, haccountId⟩ := AccountRow.toModel_ok hread
  have hread' : row.toModel none = .ok { existing with nextScan := none } := AccountRow.toModel_nextScan hread
  have hlive : existing.state ≠ .deleted := by
    intro hdeleted
    unfold CloudAccount.awsAccess at hsame
    rw [hdeleted] at hsame
    cases hsame
  rw [exec_store_stored h hread]
  unfold updateAwsAccount createdAgain
  rw [if_neg hlive, exec_bind, exec_pure]
  dsimp only
  rw [if_pos hsame, exec_bind]
  have hname : (truthy none).or existing.accountName = existing.accountName := rfl
  rw [hname, exec_renameAccount (hid ▸ hfind) hread']
  exact ⟨_, _, rfl, row, _, hid ▸ hfind, hread', hworkspace.trans htenant, haccountId.trans haccount, hsame⟩

theorem unfit_discoveredAgain {row : AccountRow} {nextScan : Option DateTime} {a updated : CloudAccount}
    (hread : row.toModel nextScan = .ok a) {accountName : Option CloudAccountName} {createdAt now : DateTime}
    (hf : discoveredAgain (.discovered (.aws externalId roleName) enabled) accountName createdAt now a = .ok updated)
    (t : DateTime) : (row.written updated t).unfit (some row) = false ↔
      (row.awsRoleName = some roleName ∨ Column.awsRoleName.Takes roleName) ∧
        ∀ name, accountName = some name → row.apiAccountName = some name ∨ Column.apiAccountName.Takes name := by
  cases hf
  rw [AccountRow.unfit_eq_false_iff]
  constructor
  · intro h
    exact ⟨h .awsRoleName roleName rfl, fun name hname => h .apiAccountName name hname⟩
  · rintro ⟨hroleName, haccountName⟩ c s hs
    cases c with
    | awsRoleName =>
      cases hs
      exact hroleName
    | apiAccountName => exact haccountName s hs
    | error => cases hs
    | accountId => exact .inl (AccountRow.text_toModel hread (c := .accountId) hs)
    | userAccountName => exact .inl (AccountRow.text_toModel hread (c := .userAccountName) hs)
    | apiAccountAlias => exact .inl (AccountRow.text_toModel hread (c := .apiAccountAlias) hs)

/-- The update of a stored account that has another role changes it, but not what identifies it. -/
theorem discoveredAgain_stored {row : AccountRow} {nextScan : Option DateTime} {a : CloudAccount}
    (hread : row.toModel nextScan = .ok a) (hother : a.awsAccess ≠ some (externalId, roleName)) (enabled : Bool)
    (accountName : Option CloudAccountName) (createdAt now : DateTime) :
    ∃ updated, discoveredAgain (.discovered (.aws externalId roleName) enabled) accountName createdAt now a =
        .ok updated ∧
      updated.state = .discovered (.aws externalId roleName) enabled ∧ a ≠ updated ∧
      ∀ t, (row.written updated t).identity = row.identity := by
  obtain ⟨-, -, hworkspace, hcloud, haccountId⟩ := AccountRow.toModel_ok hread
  obtain ⟨updated, hf, hstate, hkeys⟩ : ∃ updated,
      discoveredAgain (.discovered (.aws externalId roleName) enabled) accountName createdAt now a = .ok updated ∧
      updated.state = .discovered (.aws externalId roleName) enabled ∧
      (updated.workspaceId, updated.accountId, updated.cloud) = (a.workspaceId, a.accountId, a.cloud) :=
    ⟨_, rfl, rfl, rfl⟩
  simp only [Prod.mk.injEq] at hkeys
  refine ⟨updated, hf, hstate, fun hsame => hother ?_, fun t => ?_⟩
  · unfold CloudAccount.awsAccess
    rw [hsame, hstate]
    rfl
  · change (row.id, updated.workspaceId, updated.accountId, updated.cloud) = _
    rw [hkeys.1, hkeys.2.1, hkeys.2.2, hworkspace, haccountId, hcloud]
    rfl

section ReadBack

variable {row : AccountRow} {updated : CloudAccount} {nextScan : Option DateTime} {t : DateTime}
  (hupdated : updated.state = .discovered (.aws externalId roleName) enabled)
  (hidentity : (row.written updated t).identity = row.identity)
include hupdated hidentity

theorem readBack_ok {result : CloudAccount} (h : (row.written updated t).toModel nextScan = .ok result) :
    row.cloud = .aws ∧
      (row.written updated t).accountState = .ok (.discovered (.aws externalId roleName) enabled) := by
  have hstate := (AccountRow.toModel_ok h).1
  rw [AccountRow.accountState_written hstate, hupdated] at hstate
  have haws : CloudName.aws = (row.written updated t).cloud := AccountRow.accountState_cloud hstate rfl
  simp only [AccountRow.identity, Prod.mk.injEq] at hidentity
  exact ⟨(haws.trans hidentity.2.2.2).symm, hstate⟩

theorem readBack_error {e : Err} (h : (row.written updated t).toModel nextScan = .error e) : row.cloud ≠ .aws := by
  intro haws
  simp only [AccountRow.identity, Prod.mk.injEq] at hidentity
  have hread : ∀ access, updated.state.cloudAccess = some access → access.cloud = updated.cloud := by
    intro access haccess
    rw [hupdated] at haccess
    cases haccess
    exact (hidentity.2.2.2.trans haws).symm
  rw [AccountRow.toModel_written hread] at h
  cases h

end ReadBack

/-- **The account takes the role**: it is read back when it is an AWS account. -/
theorem store_other {row : AccountRow} {existing : CloudAccount} (hu : w.Unique)
    (h : accountOf w workspaceId accountId = some row)
    (hread : row.toModel ((w.nextRuns.find workspaceId).map (·.time)) = .ok existing)
    (hother : existing.awsAccess ≠ some (externalId, roleName)) :
    (∃ p w', exec (storeAwsAccount workspaceId accountId (some roleName) externalId none enabled) w = (.ok p, w') ∧
      (row.cloud = .aws ∧ (row.awsRoleName = some roleName ∨ Column.awsRoleName.Takes roleName)) ∧
        HasRole w' p.1.id workspaceId accountId externalId roleName) ∨
    ∃ e w', exec (storeAwsAccount workspaceId accountId (some roleName) externalId none enabled) w = (.error e, w') ∧
      ¬ (row.cloud = .aws ∧ (row.awsRoleName = some roleName ∨ Column.awsRoleName.Takes roleName)) := by
  obtain ⟨hfind, htenant, haccount⟩ := accountOf_some h
  obtain ⟨-, hid, -⟩ := AccountRow.toModel_ok hread
  rw [exec_store_stored h hread]
  unfold updateAwsAccount
  obtain ⟨created, w₁, hcreated, hw₁⟩ := exec_createdAgain existing w
  rw [exec_bind, hcreated]
  dsimp only
  rw [if_neg hother, exec_bind]
  have hfind₁ : w₁.accounts.find existing.id = some row := by
    rcases hw₁ with rfl | rfl <;> exact hid ▸ hfind
  have hu₁ : w₁.Unique := by
    rcases hw₁ with rfl | rfl <;> exact hu
  have hread' : row.toModel none = .ok { existing with nextScan := none } := AccountRow.toModel_nextScan hread
  obtain ⟨updated, hf, hupdated, hne, hidentity⟩ := discoveredAgain_stored hread' hother enabled
    ((truthy none).or existing.accountName) created w₁.now
  replace hidentity := hidentity w₁.tick.now
  by_cases hunfit : (row.written updated w₁.tick.now).unfit (some row) = true
  · right
    have hrefusal : w₁.refusal (some row) (row.written updated w₁.tick.now) = some .dataError := if_pos hunfit
    rw [CloudAccountRepository.exec_update_refused hfind₁ hread' hf hne hrefusal]
    refine ⟨.dataError, _, rfl, fun hok => ?_⟩
    rw [(unfit_discoveredAgain hread' hf w₁.tick.now).2 ⟨hok.2, fun name hname => .inl ?_⟩] at hunfit
    · cases hunfit
    · exact AccountRow.text_toModel hread (c := .apiAccountName) hname
  have hfits := Bool.eq_false_of_not_eq_true hunfit
  have hroleName := ((unfit_discoveredAgain hread' hf w₁.tick.now).1 hfits).1
  rw [CloudAccountRepository.exec_update_written hfind₁ hread' hf hne
    (World.not_refused_of_identity hu₁ (Table.mem_of_find hfind₁) hidentity hfits)]
  have hfound : (w₁.tick.tick.commit row (row.written updated w₁.tick.now)).accounts.find existing.id =
      some (row.written updated w₁.tick.now) := World.find_commit (w := w₁.tick.tick) hfind₁ hid.symm
  cases hmodel : (row.written updated w₁.tick.now).toModel ((w₁.nextRuns.find updated.workspaceId).map (·.time)) with
  | ok result =>
    left
    obtain ⟨haws, hstate⟩ := readBack_ok hupdated hidentity hmodel
    have hkey : result.id = existing.id := (AccountRow.toModel_ok hmodel).2.1.trans hid.symm
    simp only [AccountRow.identity, Prod.mk.injEq] at hidentity
    exact ⟨_, _, rfl, ⟨haws, hroleName⟩, hasRole_of_row (hkey ▸ hfound) hstate (hidentity.2.1.trans htenant)
      (hidentity.2.2.1.trans haccount) rfl⟩
  | error e => exact .inr ⟨e, _, rfl, fun hok => readBack_error hupdated hidentity hmodel hok.1⟩

theorem store_spec (hu : w.Unique) (workspaceId : WorkspaceId) (accountId : CloudAccountId) (roleName : AwsRoleName)
    (externalId : ExternalId) (enabled : Bool) (horganization : w.organizations.find workspaceId ≠ none) :
    (∃ p w', exec (storeAwsAccount workspaceId accountId (some roleName) externalId none enabled) w = (.ok p, w') ∧
      TakesRole w workspaceId accountId roleName ∧ HasRole w' p.1.id workspaceId accountId externalId roleName) ∨
    ∃ e w', exec (storeAwsAccount workspaceId accountId (some roleName) externalId none enabled) w = (.error e, w') ∧
      ¬ TakesRole w workspaceId accountId roleName := by
  unfold TakesRole
  cases h : accountOf w workspaceId accountId with
  | none =>
    by_cases hnew : w.accounts.find w.nextUuid = none ∧ Column.accountId.Takes accountId ∧
      Column.awsRoleName.Takes roleName
    · obtain ⟨p, w', hexec, hrole⟩ := store_new h hnew.1 hnew.2 horganization
      exact .inl ⟨p, w', hexec, hnew, hrole⟩
    · obtain ⟨e, w', hexec⟩ := store_refused h hnew
      exact .inr ⟨e, w', hexec, hnew⟩
  | some row =>
    cases hread : row.toModel ((w.nextRuns.find workspaceId).map (·.time)) with
    | error e =>
      refine .inr ⟨e, w, store_unreadable h hread, fun hok => ?_⟩
      obtain ⟨⟨a, ha⟩, -⟩ := hok
      cases (AccountRow.toModel_nextScan ha).symm.trans hread
    | ok existing =>
      have hreadable : ∃ a, row.toModel none = .ok a := ⟨_, AccountRow.toModel_nextScan hread⟩
      by_cases hsame : existing.awsAccess = some (externalId, roleName)
      · obtain ⟨p, w', hexec, hrole⟩ := store_same h hread hsame
        refine .inl ⟨p, w', hexec, ⟨hreadable, cloud_of_awsAccess hread hsame, .inl ?_⟩, hrole⟩
        exact AccountRow.text_toModel hread (c := .awsRoleName) (congrArg (Option.map Prod.snd) hsame)
      · rcases store_other hu h hread hsame with ⟨p, w', hexec, htakes, hrole⟩ | ⟨e, w', hexec, hnot⟩
        · exact .inl ⟨p, w', hexec, ⟨hreadable, htakes⟩, hrole⟩
        · exact .inr ⟨e, w', hexec, fun hok => hnot hok.2⟩

/-- **`create_aws_account` with a role** stores the account for the workspace of the external id, or raises. -/
theorem create_spec (hu : w.Unique) (workspaceId : WorkspaceId) (accountId : CloudAccountId) (roleName : AwsRoleName)
    (externalId : ExternalId) :
    (∃ a w', exec (createAwsAccount workspaceId accountId (some roleName) externalId none) w = (.ok a, w') ∧
      Creatable w workspaceId externalId roleName accountId ∧
        HasRole w' a.id workspaceId accountId externalId roleName) ∨
    ∃ e w', exec (createAwsAccount workspaceId accountId (some roleName) externalId none) w = (.error e, w') ∧
      ¬ Creatable w workspaceId externalId roleName accountId := by
  have hfind : exec (findWorkspace workspaceId) w = (.ok (getWorkspace w.organizations workspaceId), w) := rfl
  unfold createAwsAccount
  rw [exec_bind, hfind]
  cases hworkspace : getWorkspace w.organizations workspaceId with
  | none =>
    refine .inr ⟨_, w, rfl, fun h => ?_⟩
    obtain ⟨workspace, hsome, -⟩ := h.workspace
    cases hworkspace.symm.trans hsome
  | some workspace =>
    dsimp only
    by_cases hexternal : workspace.externalId = externalId
    · rw [if_neg (not_not.2 hexternal)]
      rw [exec_bind, exec_shouldBeEnabled]
      generalize (w.belowLimit workspace && workspace.paymentOnHoldSince.isNone) = enabled
      dsimp only
      rw [exec_bind]
      have horganization : w.tick.organizations.find workspaceId ≠ none := by
        obtain ⟨row, hrow, -⟩ := Option.map_eq_some_iff.1 hworkspace
        exact fun hnone => Option.some_ne_none row (hrow.symm.trans hnone)
      rcases @store_spec w.tick hu workspaceId accountId roleName externalId enabled horganization with
        ⟨p, w', hexec, hstorable, hrole⟩ | ⟨e, w', hexec, hnot⟩
      · left
        rw [hexec]
        dsimp only
        split
        · exact ⟨p.1, _, rfl, ⟨⟨workspace, hworkspace, hexternal⟩, hstorable⟩, hrole⟩
        · exact ⟨p.1, _, rfl, ⟨⟨workspace, hworkspace, hexternal⟩, hstorable⟩, hrole⟩
      · right
        rw [hexec]
        exact ⟨e, w', rfl, fun h => hnot h.account⟩
    · rw [if_pos hexternal]
      refine .inr ⟨_, w, rfl, fun h => ?_⟩
      obtain ⟨workspace', hsome, hexternal'⟩ := h.workspace
      cases hworkspace.symm.trans hsome
      exact hexternal hexternal'

end Storing

/-! ## Degrading the account of a stack -/

theorem stateName_degradedBy {a : CloudAccount} {externalId : ExternalId} {roleName : AwsRoleName}
    (h : a.awsAccess = some (externalId, roleName)) (error : String) :
    (a.state.degradedBy error).stateName = .degraded := by
  unfold CloudAccountState.degradedBy
  split
  · assumption
  · unfold CloudAccount.awsAccess at h
    cases haccess : a.state.cloudAccess with
    | none =>
      rw [haccess] at h
      cases h
    | some access => rfl

theorem degrade_spec {w : World} (hu : w.Unique) (cloudAccountId : FixCloudAccountId) (roleName : AwsRoleName)
    (externalId : ExternalId) :
    (∃ o w', exec (degradeStack cloudAccountId roleName externalId) w = (.ok o, w') ∧
      (∀ row, w.accounts.find cloudAccountId = some row → ∃ a, row.toModel none = .ok a) ∧
      StackGone cloudAccountId roleName externalId w w') ∨
    ∃ e w', exec (degradeStack cloudAccountId roleName externalId) w = (.error e, w') ∧
      ¬ ∀ row, w.accounts.find cloudAccountId = some row → ∃ a, row.toModel none = .ok a := by
  unfold degradeStack
  cases hfind : w.accounts.find cloudAccountId with
  | none =>
    have hget : exec (CloudAccountRepository.get cloudAccountId) w = (.ok none, w) := by
      unfold CloudAccountRepository.get
      rw [exec_bind, exec_get]
      dsimp only
      rw [hfind]
      rfl
    rw [exec_bind, hget]
    dsimp only
    rw [exec_pure]
    refine .inl ⟨none, w, rfl, fun row hrow => (by cases hrow), fun row a hrow => ?_⟩
    cases hfind.symm.trans hrow
  | some row =>
    rw [exec_bind, CloudAccountRepository.exec_get_stored hfind]
    cases hread : row.toModel ((w.nextRuns.find row.tenantId).map (·.time)) with
    | error e =>
      refine .inr ⟨e, w, rfl, fun h => ?_⟩
      obtain ⟨a, ha⟩ := h row rfl
      cases (AccountRow.toModel_nextScan ha).symm.trans hread
    | ok account =>
      have hreadable : ∀ row', some row = some row' → ∃ a, row'.toModel none = .ok a := by
        rintro _ ⟨⟩
        exact ⟨_, AccountRow.toModel_nextScan hread⟩
      dsimp only [Except.map]
      by_cases hsame : account.awsAccess = some (externalId, roleName)
      · rw [if_pos hsame, exec_bind]
        have hstanding : w.standing cloudAccountId = some (.ok account.state, row.failedScanCount) := by
          unfold World.standing AccountRow.standing
          rw [hfind, Option.map_some, (AccountRow.toModel_ok hread).1]
        obtain ⟨a, w', hexec, hchanges, -⟩ :=
          degradeAccount_ok hu hstanding "CloudformationStack deleted" (by decide) .stackDeleted
        rw [hexec]
        refine .inl ⟨some a, w', rfl, hreadable, fun _ _ _ _ _ => ?_⟩
        obtain ⟨row', hrow', hstate', -⟩ := World.standing_eq_some hchanges.standing
        exact ⟨row', hrow', (AccountRow.accountState_ok hstate').trans (stateName_degradedBy hsame _)⟩
      · rw [if_neg hsame]
        refine .inl ⟨some account, w, rfl, hreadable, fun row' a hrow' ha haccess => ?_⟩
        cases hfind.symm.trans hrow'
        cases (AccountRow.toModel_nextScan hread).symm.trans ha
        exact absurd haccess hsame

/-! ## The answer -/

section Answer

variable {msg : CfBody} {q : Request} {w w' : World}

theorem answers_kept {α : Type} {m : Service α} {x : Except Err α}
    (hkeeps : ∀ {I : World → Prop}, Aside I → Keeps I m) (hexec : exec m w = (x, w')) :
    w'.cfResponses = w.cfResponses := by
  have hI : Aside fun v => v.cfResponses = w.cfResponses := fun _ _ _ hsame _ h => hsame.trans h
  have hafter := Keeps.after (hkeeps hI) (s := w) rfl
  rw [hexec] at hafter
  exact hafter

/-- How a handler ends: with its answer, or with an error and none. -/
def Ends (m : Service (Option CloudAccount)) (q : Request) (w : World) (handled : Prop)
    (done : PhysicalResourceId → World → Prop) : Prop :=
  (∃ o w' id error, exec m w = (.ok o, w') ∧ handled ∧ w'.cfResponses = w.cfResponses ++ [q.answer id error] ∧
    ((q.answer id error).success = true ↔ done id w')) ∨
  ∃ e w', exec m w = (.error e, w') ∧ ¬ handled ∧ w'.cfResponses = w.cfResponses

/-- **A created or updated stack** is answered when its message is malformed or its account is stored. -/
theorem created_ends (hu : w.Unique) (hq : request msg = some q) :
    Ends (handleStackCreated true msg) q w (CreationHandled msg w) (CreationDone msg) := by
  unfold CreationHandled CreationDone
  rw [handleStackCreated_eq]
  cases hfields : createFields msg with
  | none =>
    refine .inl ⟨none, _, _, _, exec_invalid hq _ w, fun _ _ _ _ h => (by cases h), rfl, ?_⟩
    refine ⟨fun h => (by cases h), ?_⟩
    rintro ⟨_, _, _, _, _, h, -⟩
    cases h
  | some fields =>
    obtain ⟨workspaceId, externalId, roleName, accountId⟩ := fields
    dsimp only
    unfold Ends
    rw [exec_bind]
    rcases create_spec hu workspaceId accountId roleName externalId with
      ⟨a, w₁, hexec, hcreatable, hrole⟩ | ⟨e, w₁, hexec, hnot⟩
    · have hkept := answers_kept (fun hI => hI.tolerant.createAwsAccount trivial (fun _ => trivial) _ _ _ _) hexec
      rw [hexec]
      dsimp only
      rw [exec_bind, exec_sendResponse hq]
      dsimp only
      rw [exec_pure]
      refine .inl ⟨_, _, .uuid a.id, none, rfl, ?_, ?_, fun _ => ⟨_, _, _, _, _, rfl, rfl, hrole⟩, fun _ => rfl⟩
      · rintro _ _ _ _ ⟨⟩
        exact hcreatable
      · dsimp only
        rw [hkept]
    · rw [hexec]
      have hkept := answers_kept (fun hI => hI.tolerant.createAwsAccount trivial (fun _ => trivial) _ _ _ _) hexec
      exact .inr ⟨e, w₁, rfl, fun h => hnot (h _ _ _ _ rfl), hkept⟩

/-- **A deleted stack** is answered when its message is malformed or its account can be read. -/
theorem deleted_ends (hu : w.Unique) (hq : request msg = some q) :
    Ends (handleStackDeleted true msg) q w (DeletionHandled msg w) (DeletionDone msg w) := by
  unfold DeletionHandled DeletionDone
  rw [handleStackDeleted_eq]
  cases hfields : deleteFields msg with
  | none =>
    refine .inl ⟨none, _, _, _, exec_invalid hq _ w, fun _ _ _ h => (by cases h), rfl, ?_⟩
    refine ⟨fun h => (by cases h), ?_⟩
    rintro ⟨_, _, _, h, -⟩
    cases h
  | some fields =>
    obtain ⟨roleName, externalId, cloudAccountId⟩ := fields
    dsimp only
    unfold Ends
    rw [exec_bind]
    rcases degrade_spec hu cloudAccountId roleName externalId with
      ⟨o, w₁, hexec, hreadable, hgone⟩ | ⟨e, w₁, hexec, hnot⟩
    · have hkept := answers_kept (fun hI => hI.tolerant.degradeStack trivial _ _ _) hexec
      rw [hexec]
      dsimp only
      rw [exec_bind, exec_sendResponse hq]
      dsimp only
      rw [exec_pure]
      refine .inl ⟨_, _, .uuid cloudAccountId, none, rfl, ?_, ?_, fun _ => ⟨_, _, _, rfl, rfl, hgone⟩, fun _ => rfl⟩
      · rintro _ _ _ ⟨⟩
        exact hreadable
      · dsimp only
        rw [hkept]
    · rw [hexec]
      have hkept := answers_kept (fun hI => hI.tolerant.degradeStack trivial _ _ _) hexec
      exact .inr ⟨e, w₁, rfl, fun h => hnot (h _ _ _ rfl), hkept⟩

/-- What the outermost handler leaves of the answers. -/
def caught (m : Service (Option CloudAccount)) : Service (Option CloudAccount) :=
  tryCatch m fun _ => do
    markFailed
    return none

theorem caught_error {m : Service (Option CloudAccount)} {e : Err} (h : exec m w = (.error e, w')) :
    exec (caught m) w = (.ok none, { w' with cfFailures := w'.cfFailures + 1 }) := by
  unfold caught
  rw [exec_tryCatch, h]
  rfl

theorem caught_ok {m : Service (Option CloudAccount)} {o : Option CloudAccount} (h : exec m w = (.ok o, w')) :
    exec (caught m) w = (.ok o, w') := by
  unfold caught
  rw [exec_tryCatch, h]

theorem no_answer {msg : CfBody} (h : w'.cfResponses = w.cfResponses) : ¬ Answered msg w w' := by
  rintro ⟨q, id, error, -, hresponses, -⟩
  rw [h] at hresponses
  cases List.self_eq_append_right.1 hresponses

theorem answered_caught {m : Service (Option CloudAccount)} {handled : Prop} (hq : request msg = some q)
    (h : Ends m q w handled (CarriedOut msg w)) : Answered msg w (exec (caught m) w).2 ↔ handled := by
  rcases h with ⟨o, w', id, error, hexec, hhandled, hresponses, hsuccess⟩ | ⟨e, w', hexec, hnot, hresponses⟩
  · rw [caught_ok hexec]
    exact iff_of_true ⟨q, id, error, hq, hresponses, hsuccess⟩ hhandled
  · rw [caught_error hexec]
    exact iff_of_false (no_answer hresponses) hnot

theorem processCfStackEvent_eq (msg : CfBody) : processCfStackEvent true (some msg) =
    caught (match msg.requestType with
      | none => throw (.keyError "RequestType")
      | some "Create" => handleStackCreated true msg
      | some "Delete" => handleStackDeleted true msg
      | some "Update" => handleStackCreated true msg
      | some _ => do
        sendResponse true .empty none none
        return none) := rfl

/-- **A message gets its answer** just when its type is known and the rest of it is malformed or asks for what can be
done. -/
theorem answered_iff (msg : CfBody) (w : World) (hmsg : Answerable msg) (hu : w.Unique) :
    Answered msg w (exec (processCfStackEvent true (some msg)) w).2 ↔ Handled msg w := by
  obtain ⟨q, hq⟩ := Option.isSome_iff_exists.1 hmsg.request
  rw [processCfStackEvent_eq]
  have hCreation := created_ends hu hq
  have hDeletion := deleted_ends hu hq
  split
  · rename_i hkind
    have hexec := @exec_throw Err World (Option CloudAccount) (.keyError "RequestType") w
    rw [caught_error hexec, Handled, hkind]
    exact iff_of_false (no_answer rfl) not_false
  · rename_i hkind
    have hends : Ends (handleStackCreated true msg) q w (Handled msg w) (CarriedOut msg w) := by
      unfold Handled CarriedOut
      rw [hkind]
      exact hCreation
    exact answered_caught hq hends
  · rename_i hkind
    have hends : Ends (handleStackDeleted true msg) q w (Handled msg w) (CarriedOut msg w) := by
      unfold Handled CarriedOut
      rw [hkind]
      exact hDeletion
    exact answered_caught hq hends
  · rename_i hkind
    have hends : Ends (handleStackCreated true msg) q w (Handled msg w) (CarriedOut msg w) := by
      unfold Handled CarriedOut
      rw [hkind]
      exact hCreation
    exact answered_caught hq hends
  · rename_i kind hCreate hDelete hUpdate hkind
    -- the message is given to `send_response` instead of its body
    have hexec : exec (do
        sendResponse true .empty none none
        return (none : Option CloudAccount)) w = (.ok none, { w with cfFailures := w.cfFailures + 1 }) := rfl
    rw [caught_ok hexec]
    refine iff_of_false (no_answer rfl) ?_
    unfold Handled
    rw [hkind]
    split
    · rename_i heq
      cases heq
      exact fun _ => hCreate rfl
    · rename_i heq
      cases heq
      exact fun _ => hUpdate rfl
    · rename_i heq
      cases heq
      exact fun _ => hDelete rfl
    · exact not_false

end Answer

def stackProperties : CfResourceProperties :=
  ⟨some "role", some 1, some 2, some "arn:aws:cloudformation:eu-central-1:111111111111:stack/fix"⟩

def aboutStack (requestType : String) : CfBody :=
  ⟨some requestType, some "request", some "logical", some "url", some (.uuid 10), some stackProperties⟩

def stackWorld : World :=
  { freeWorld with accounts := ⟨[.ofModel (discoveredAccount 10 "111111111111" true)], discoveredAccount_unique⟩ }

theorem stackWorld_unique : stackWorld.Unique := by
  unfold World.Unique
  decide

theorem deletedStack_answered : Answered (aboutStack "Delete") stackWorld
    (exec (processCfStackEvent true (some (aboutStack "Delete"))) stackWorld).2 := by
  refine (answered_iff (aboutStack "Delete") stackWorld ⟨rfl, fun _ => rfl⟩ stackWorld_unique).2 ?_
  intro roleName externalId cloudAccountId hfields row hrow
  cases hfields
  cases hrow
  exact ⟨_, rfl⟩

/-- A type that is not handled is acknowledged with the message around the body, which has nothing to answer with. -/
theorem unknownType_unanswered : Answerable (aboutStack "Refresh") ∧ stackWorld.Unique ∧
    ¬ Answered (aboutStack "Refresh") stackWorld
      (exec (processCfStackEvent true (some (aboutStack "Refresh"))) stackWorld).2 :=
  ⟨⟨rfl, fun _ => rfl⟩, stackWorld_unique, no_answer rfl⟩

end StackEvents

end Fix
