import FixBackend.AccountPayments
/-!
# DomainEvents — the domain events that the cloud account service handles

`process_domain_event` of `fixbackend/cloud_accounts/service.py`.  What AWS answers about an account is a parameter.
The tasks that delete accounts run one after another.
-/
namespace Fix

open Calendar Effects

def processDiscoveredEvent (aws : FixCloudAccountId → AwsAnswers) (cloudAccountId : FixCloudAccountId) :
    Service PUnit := do
  match ← CloudAccountRepository.get cloudAccountId with
  | none => return
  | some account =>
    let _ ← configureAccount account true (aws account.id)

def processDegradedEvent (event : DomainEvent) (cloud : CloudName) (tenantId : WorkspaceId) (accountId : CloudAccountId)
    (accountName : Option String) (reason : Option DegradationReason) : Service PUnit := do
  match ← findWorkspace tenantId with
  | none => return
  | some workspace =>
    if cloud ≠ .gcp then
      notify (.accountDegraded cloud accountId tenantId workspace.name accountName
        (decide (reason = some .stackDeleted)))
    notify (.pubSub event)

/-- `ProductTierSettings[tier].account_limit or math.inf`, `none` being infinity. -/
def accountLimitOrInf (tier : ProductTier) : Option Nat := (productTierSettings tier).accountLimit.filter (· ≠ 0)

/-- `<` of two limits. -/
def limitBelow : Option Nat → Option Nat → Bool
  | some a, some b => decide (a < b)
  | some _, none => true
  | none, _ => false

def deleteAccountsAbove (userId : UserId) (workspaceId : WorkspaceId) (limit : Nat) : Service PUnit := do
  let allAccounts ← listAccounts workspaceId
  (withoutLast limit allAccounts).forM fun account => deleteCloudAccount userId account.id workspaceId

/-- The accounts of a workspace after its tier has changed. -/
def adjustAccounts (userId : UserId) (workspaceId : WorkspaceId) (newLimit oldLimit : Option Nat) : Service PUnit :=
  match newLimit with
  | some limit =>
    if limitBelow newLimit oldLimit then deleteAccountsAbove userId workspaceId limit
    else if limitBelow oldLimit newLimit then enableCloudAccounts workspaceId
    else return
  | none => if limitBelow oldLimit none then enableCloudAccounts workspaceId else return

def processProductTierChanged (workspaceId : WorkspaceId) (userId : UserId) (productTier previousTier : ProductTier) :
    Service PUnit := do
  let _ ← updateNextRunFor workspaceId productTier none
  match ← findWorkspace workspaceId with
  | none => return
  | some _ => adjustAccounts userId workspaceId (accountLimitOrInf productTier) (accountLimitOrInf previousTier)

def processDomainEvent (aws : FixCloudAccountId → AwsAnswers) (event : DomainEvent) : Service PUnit :=
  match event with
  | .tenantAccountsCollected tenantId accounts failed nextRun =>
    processTenantAccountsCollected tenantId accounts failed nextRun
  | .tenantAccountsCollectFailed _ accounts nextRun => processTenantAccountsCollectFailed accounts nextRun
  | .cloudAccountDiscovered _ cloudAccountId _ _ => do
    processDiscoveredEvent aws cloudAccountId
    notify (.pubSub event)
  | .cloudAccountConfigured _ _ _ _ => notify (.pubSub event)
  | .cloudAccountDeleted _ _ _ _ _ => notify (.pubSub event)
  | .cloudAccountDegraded cloud _ tenantId accountId accountName _ reason =>
    processDegradedEvent event cloud tenantId accountId accountName reason
  | .productTierChanged workspaceId userId productTier _ _ previousTier =>
    processProductTierChanged workspaceId userId productTier previousTier
  | .subscriptionCancelled subscriptionId _ => processSubscriptionCancelled subscriptionId
  | .subscriptionCreated _ _ subscriptionId _ => processSubscriptionCreated subscriptionId
  -- other domain events are ignored
  | .cloudAccountNameChanged .. | .cloudAccountActiveToggled .. | .cloudAccountScanToggled
      .. | .billingEntryCreated .. =>
    return

/-! ## What handling the events of payments keeps -/

def DomainEvent.ofAccount : DomainEvent → Prop
  | .cloudAccountActiveToggled .. | .cloudAccountDeleted .. => True
  | _ => False

/-- An invariant of the workspaces, the published events and the next id that every change of accounts keeps. -/
structure AccountsMayChange (I : World → Prop) : Prop where
  quiet : ∀ w w' : World, w'.organizations = w.organizations → w'.published = w.published → w'.nextUuid = w.nextUuid →
    I w → I w'
  published : ∀ (w : World) (e : DomainEvent), e.ofAccount → I w → I { w with published := w.published ++ [e] }

namespace AccountsMayChange

variable {I : World → Prop}

theorem utc (hI : AccountsMayChange I) : Keeps I Fix.utc := Triple.modifyGet _ fun w hw => hI.quiet w _ rfl rfl rfl hw

theorem publish (hI : AccountsMayChange I) {e : DomainEvent} (he : e.ofAccount) : Keeps I (Fix.publish e) :=
  Keeps.modify _ fun w hw => hI.published w e he hw

theorem notify (hI : AccountsMayChange I) (n : Notice) : Keeps I (Fix.notify n) :=
  Keeps.modify _ fun w hw => hI.quiet w _ rfl rfl rfl hw

theorem commitAccount (hI : AccountsMayChange I) (stored row : AccountRow) :
    Keeps I (Fix.commitAccount stored row) := by
  refine Triple.get_bind fun w hw => ?_
  split
  · exact Triple.throw _ fun w' hw' => hw' ▸ hw
  · exact Triple.modify (fun _ => w.commit stored row) fun _ _ => hI.quiet w _ rfl rfl rfl hw

theorem update (hI : AccountsMayChange I) (id : FixCloudAccountId)
    (f : DateTime → CloudAccount → Except Err CloudAccount) :
    Keeps I (CloudAccountRepository.update id f) := by
  unfold CloudAccountRepository.update CloudAccountRepository.updateWith
  refine Keeps.bind (Keeps.bind Keeps.get fun w => ?_) fun _ => Keeps.pure _
  cases w.accounts.find id with
  | none => exact Keeps.throw _
  | some stored =>
    refine Keeps.bind (Keeps.lift _) fun account => Keeps.bind hI.utc fun now => Keeps.bind (Keeps.lift _) fun p => ?_
    dsimp only
    split
    · exact Keeps.pure _
    · refine Keeps.bind (keeps_of_rests fun _ => rfl) fun nextScan => Keeps.bind hI.utc fun updatedAt => ?_
      exact Keeps.bind (hI.commitAccount _ _) fun _ => Keeps.bind (Keeps.lift _) fun _ => Keeps.pure _

theorem getCloudAccount (id : FixCloudAccountId) (workspaceId : WorkspaceId) :
    Keeps I (Fix.getCloudAccount id workspaceId) := by
  refine Keeps.bind (keeps_of_rests (CloudAccountRepository.get_reads id)) fun found => ?_
  cases found with
  | none => exact Keeps.throw _
  | some account =>
    dsimp only
    split
    · exact Keeps.throw _
    · exact Keeps.pure _

theorem findWorkspace (workspaceId : WorkspaceId) : Keeps I (Fix.findWorkspace workspaceId) :=
  keeps_of_rests fun _ => rfl

theorem toggleAccount (hI : AccountsMayChange I) (workspaceId : WorkspaceId) (enabled : Bool) (account : CloudAccount) :
    Keeps I (Fix.toggleAccount workspaceId enabled account) := by
  unfold Fix.toggleAccount
  refine Keeps.tryCatch ?_ fun _ => Keeps.pure _
  rw [seqRight_eq_bind]
  refine Keeps.bind ?_ fun _ => Keeps.pure _
  refine Keeps.bind (getCloudAccount _ _) fun _ => Keeps.bind (findWorkspace workspaceId) fun found => ?_
  cases found with
  | none => exact Keeps.throw _
  | some workspace =>
    refine Keeps.bind (keeps_of_rests fun _ => rfl) fun count => Keeps.bind (hI.update _ _) fun result => ?_
    exact Keeps.bind (hI.publish trivial) fun _ => Keeps.pure _

theorem listAccounts (workspaceId : WorkspaceId) : Keeps I (Fix.listAccounts workspaceId) :=
  Keeps.bind (keeps_of_rests fun _ => rfl) fun _ => Keeps.bind Keeps.get fun _ => Keeps.lift _

theorem disableCloudAccounts (hI : AccountsMayChange I) (workspaceId : WorkspaceId) (keepEnabled : Nat) :
    Keeps I (Fix.disableCloudAccounts workspaceId keepEnabled) :=
  Keeps.bind (listAccounts workspaceId) fun _ => Keeps.forM _ fun account _ =>
    hI.toggleAccount workspaceId false account

theorem enableCloudAccounts (hI : AccountsMayChange I) (workspaceId : WorkspaceId) :
    Keeps I (Fix.enableCloudAccounts workspaceId) := by
  refine Keeps.bind (Keeps.bind Keeps.get fun w => ?_) fun tier => Keeps.bind (listAccounts workspaceId) fun accounts =>
    Keeps.forM _ fun account _ => hI.toggleAccount workspaceId true account
  cases getWorkspace w.organizations workspaceId with
  | none => exact Keeps.throw _
  | some workspace => exact Keeps.bind hI.utc fun _ => Keeps.pure _

theorem deleteCloudAccount (hI : AccountsMayChange I) (userId : UserId) (id : FixCloudAccountId)
    (workspaceId : WorkspaceId) : Keeps I (Fix.deleteCloudAccount userId id workspaceId) := by
  refine Keeps.bind (keeps_of_rests (CloudAccountRepository.get_reads id)) fun found => ?_
  cases found with
  | none => exact Keeps.pure _
  | some account =>
    dsimp only
    split
    · exact Keeps.throw _
    · exact Keeps.bind (hI.update _ _) fun _ => hI.publish trivial

theorem updateNextRunFor (hI : AccountsMayChange I) (tenant : WorkspaceId) (tier : ProductTier)
    (lastRun : Option DateTime) : Keeps I (Fix.updateNextRunFor tenant tier lastRun) :=
  Keeps.bind hI.utc fun _ => Keeps.bind (Keeps.modify _ fun w hw => hI.quiet w _ rfl rfl rfl hw) fun _ => Keeps.pure _

theorem processProductTierChanged (hI : AccountsMayChange I) (workspaceId : WorkspaceId) (userId : UserId)
    (tier previous : ProductTier) : Keeps I (Fix.processProductTierChanged workspaceId userId tier previous) := by
  refine Keeps.bind (hI.updateNextRunFor _ _ _) fun _ => Keeps.bind (findWorkspace workspaceId) fun found => ?_
  cases found with
  | none => exact Keeps.pure _
  | some workspace =>
    have hdelete : ∀ limit, Keeps I (deleteAccountsAbove userId workspaceId limit) := fun limit =>
      Keeps.bind (listAccounts workspaceId) fun _ => Keeps.forM _ fun account _ =>
        hI.deleteCloudAccount userId account.id workspaceId
    dsimp only
    unfold adjustAccounts
    cases accountLimitOrInf tier with
    | none =>
      dsimp only
      split
      · exact hI.enableCloudAccounts workspaceId
      · exact Keeps.pure _
    | some limit =>
      dsimp only
      split
      · exact hdelete limit
      · split
        · exact hI.enableCloudAccounts workspaceId
        · exact Keeps.pure _

theorem changeOrganization (workspaceId : WorkspaceId) (f : Organization → Organization)
    (hf : ∀ w o, I w → w.organizations.find workspaceId = some o →
      I { w with organizations := w.organizations.replace (f o) }) :
    Keeps I (inOrganizations fun orgs => Fix.changeOrganization orgs workspaceId f) := by
  apply Triple.of_exec
  intro w hw
  rw [exec_inOrganizations]
  unfold Fix.changeOrganization
  cases hfind : w.organizations.find workspaceId with
  | none => exact hw
  | some o => exact hf w o hw hfind

structure Allows (I : World → Prop) (changes : WorkspaceId → Prop) : Prop where
  hold : ∀ w o since, I w → changes o.id → w.organizations.find o.id = some o →
    I { w with organizations := w.organizations.replace { o with paymentOnHoldSince := since } }
  unlink : ∀ w o, I w → changes o.id → w.organizations.find o.id = some o →
    I { w with organizations := w.organizations.replace { o with subscriptionId := none } }

variable {changes : WorkspaceId → Prop}

theorem hold (hA : Allows I changes) {workspaceId : WorkspaceId} (hid : changes workspaceId) (since : Option DateTime) :
    Keeps I (inOrganizations fun orgs => updatePaymentOnHold orgs workspaceId since) := by
  refine changeOrganization workspaceId _ fun w o hw hfind => ?_
  have hkey := Table.key_of_find hfind
  subst hkey
  exact hA.hold w o since hw hid hfind

theorem unlink (hA : Allows I changes) {workspaceId : WorkspaceId} (hid : changes workspaceId) :
    Keeps I (inOrganizations fun orgs => updateSubscription orgs workspaceId none) := by
  refine changeOrganization workspaceId _ fun w o hw hfind => ?_
  have hkey := Table.key_of_find hfind
  subst hkey
  exact hA.unlink w o hw hid hfind

theorem mem_listWorkspacesBySubscriptionId {orgs : Organizations} {x : SubscriptionId} {workspace : Workspace}
    (h : workspace ∈ listWorkspacesBySubscriptionId orgs x) :
    ∃ o ∈ orgs.rows, o.subscriptionId = some x ∧ workspace = o.toModel none := by
  obtain ⟨o, ho, rfl⟩ := List.mem_map.1 h
  obtain ⟨hmem, hx⟩ := List.mem_filter.1 ho
  exact ⟨o, hmem, of_decide_eq_true hx, rfl⟩

theorem processSubscriptionCancelled (hI : AccountsMayChange I) (hA : Allows I changes) {x : SubscriptionId}
    (hx : ∀ w, I w → ∀ o ∈ w.organizations.rows, o.subscriptionId = some x → changes o.id) :
    Keeps I (Fix.processSubscriptionCancelled x) := by
  refine Triple.get_bind fun w hw => ?_
  refine Triple.imp (P := I) ?_ (fun w' hw' => hw' ▸ hw) (fun _ _ h => h) (fun _ h => h)
  refine Keeps.forM _ fun workspace hmem => ?_
  obtain ⟨o, ho, hox, rfl⟩ := mem_listWorkspacesBySubscriptionId hmem
  have hid := hx w hw o ho hox
  refine Keeps.bind (Keeps.bind hI.utc fun now => Keeps.bind (hold hA hid _) fun _ => Keeps.pure _) fun _ => ?_
  refine Keeps.bind (Keeps.bind (unlink hA hid) fun _ => Keeps.pure _) fun _ => ?_
  exact hI.disableCloudAccounts _ _

theorem resumeWorkspace {P : World → Prop} (hI : AccountsMayChange I) {workspace : Workspace}
    (hhold : Triple P (inOrganizations fun orgs => updatePaymentOnHold orgs workspace.id none) (fun _ => I) I) :
    Triple P (Fix.resumeWorkspace workspace) (fun _ => I) I :=
  Triple.bind hhold fun _ => Keeps.bind hI.utc fun _ => Keeps.bind (hI.updateNextRunFor _ _ _) fun _ =>
    hI.enableCloudAccounts _

theorem processSubscriptionCreated (hI : AccountsMayChange I) (hA : Allows I changes) {x : SubscriptionId}
    (hx : ∀ w, I w → ∀ o ∈ w.organizations.rows, o.subscriptionId = some x → changes o.id) :
    Keeps I (Fix.processSubscriptionCreated x) := by
  refine Triple.get_bind fun w hw => ?_
  refine Triple.imp (P := I) ?_ (fun w' hw' => hw' ▸ hw) (fun _ _ h => h) (fun _ h => h)
  refine Keeps.forM _ fun workspace hmem => ?_
  obtain ⟨o, ho, hox, rfl⟩ := mem_listWorkspacesBySubscriptionId hmem
  exact resumeWorkspace hI (hold hA (hx w hw o ho hox) none)

end AccountsMayChange

end Fix
