import FixBackend.Ids
import FixBackend.Table
/-!
# Subscriptions — payment subscriptions and the billing entries charged to them

`fixbackend/subscription/models.py`, `fixbackend/subscription/subscription_repository.py` and the `BillingEntry` of
`fixbackend/billing/models.py`.
-/
namespace Fix

open Calendar

structure AwsMarketplaceSubscription where
  id : SubscriptionId
  userId : Option UserId
  customerIdentifier : String
  customerAwsAccountId : String
  productCode : String
  active : Bool
  lastChargeTimestamp : Option DateTime
  nextChargeTimestamp : Option DateTime
deriving DecidableEq

structure StripeSubscription where
  id : SubscriptionId
  workspaceId : Option WorkspaceId
  customerIdentifier : String
  stripeSubscriptionId : String
  active : Bool
  lastChargeTimestamp : Option DateTime
  nextChargeTimestamp : Option DateTime
deriving DecidableEq

inductive SubscriptionMethod where
  | awsMarketplace (s : AwsMarketplaceSubscription)
  | stripe (s : StripeSubscription)
deriving DecidableEq

def SubscriptionMethod.id : SubscriptionMethod → SubscriptionId
  | .awsMarketplace s => s.id
  | .stripe s => s.id

def SubscriptionMethod.active : SubscriptionMethod → Bool
  | .awsMarketplace s => s.active
  | .stripe s => s.active

def SubscriptionMethod.lastChargeTimestamp : SubscriptionMethod → Option DateTime
  | .awsMarketplace s => s.lastChargeTimestamp
  | .stripe s => s.lastChargeTimestamp

structure SubscriptionEntity where
  id : SubscriptionId
  userId : Option UserId
  awsCustomerIdentifier : Option String
  awsCustomerAccountId : Option String
  awsProductCode : Option String
  stripeCustomerIdentifier : Option String
  stripeSubscriptionId : Option String
  stripeWorkspaceId : Option WorkspaceId
  active : Bool
  lastChargeTimestamp : Option DateTime
  nextChargeTimestamp : Option DateTime
deriving DecidableEq

def SubscriptionEntity.toModel (e : SubscriptionEntity) : Except Err SubscriptionMethod :=
  match truthy e.stripeSubscriptionId, truthy e.stripeCustomerIdentifier with
  | some stripeSubscriptionId, some customerIdentifier =>
    .ok (.stripe ⟨e.id, e.stripeWorkspaceId, customerIdentifier, stripeSubscriptionId, e.active, e.lastChargeTimestamp,
      e.nextChargeTimestamp⟩)
  | _, _ =>
    match truthy e.awsCustomerIdentifier, truthy e.awsCustomerAccountId, truthy e.awsProductCode with
    | some customerIdentifier, some customerAwsAccountId, some productCode =>
      .ok (.awsMarketplace ⟨e.id, e.userId, customerIdentifier, customerAwsAccountId, productCode, e.active,
        e.lastChargeTimestamp, e.nextChargeTimestamp⟩)
    | _, _, _ => .error (.valueError "Subscription is neither AWS Marketplace nor Stripe")

theorem SubscriptionEntity.toModel_ok {e : SubscriptionEntity} {s : SubscriptionMethod} (h : e.toModel = .ok s) :
    s.id = e.id ∧ s.active = e.active ∧ s.lastChargeTimestamp = e.lastChargeTimestamp := by
  unfold SubscriptionEntity.toModel at h
  split at h
  · cases h
    exact ⟨rfl, rfl, rfl⟩
  · split at h
    · cases h
      exact ⟨rfl, rfl, rfl⟩
    · cases h

theorem SubscriptionEntity.toModel_owner {e : SubscriptionEntity} {s : SubscriptionMethod} (h : e.toModel = .ok s) :
    match s with
    | .awsMarketplace s => s.userId = e.userId
    | .stripe s => s.workspaceId = e.stripeWorkspaceId := by
  unfold SubscriptionEntity.toModel at h
  split at h
  · cases h
    rfl
  · split at h
    · cases h
      rfl
    · cases h

structure BillingEntry where
  id : BillingId
  workspaceId : WorkspaceId
  subscriptionId : SubscriptionId
  tier : ProductTier
  nrOfAccountsCharged : Int
  periodStart : DateTime
  periodEnd : DateTime
  reported : Bool
deriving DecidableEq

abbrev Subscriptions := Table SubscriptionEntity.id

def getSubscription (subscriptions : Subscriptions) (subscriptionId : SubscriptionId) :
    Except Err (Option SubscriptionMethod) :=
  match subscriptions.find subscriptionId with
  | some row => some <$> row.toModel
  | none => .ok none

def updateChargeTimestamp (subscriptions : Subscriptions) (sid : SubscriptionId) (now nextChargeTimestamp : DateTime) :
    Subscriptions :=
  match subscriptions.find sid with
  | some row =>
    subscriptions.replace { row with lastChargeTimestamp := some now, nextChargeTimestamp := some nextChargeTimestamp }
  | none => subscriptions

def addBillingEntry (subscriptions : Subscriptions) (billing : List BillingEntry) (sid : SubscriptionId)
    (workspaceId : WorkspaceId) (tier : ProductTier) (nrOfAccountsCharged : Int)
    (lastChargeTimestamp now nextChargeTimestamp : DateTime) (uid : BillingId) :
    BillingEntry × List BillingEntry × Subscriptions :=
  let entry : BillingEntry :=
    { id := uid
      workspaceId := workspaceId
      subscriptionId := sid
      tier := tier
      nrOfAccountsCharged := nrOfAccountsCharged
      periodStart := lastChargeTimestamp
      periodEnd := now
      reported := false }
  (entry, billing ++ [entry], updateChargeTimestamp subscriptions sid now nextChargeTimestamp)

/-- **The charge timestamp of a stored subscription is the one it was moved to.** -/
theorem find_updateChargeTimestamp {subscriptions : Subscriptions} {sid : SubscriptionId} {row : SubscriptionEntity}
    (h : subscriptions.find sid = some row) (now next : DateTime) :
    (updateChargeTimestamp subscriptions sid now next).find sid =
      some { row with lastChargeTimestamp := some now, nextChargeTimestamp := some next } := by
  have hid := Table.key_of_find h
  subst hid
  unfold updateChargeTimestamp
  rw [h]
  exact Table.find_replace_self (r := { row with lastChargeTimestamp := some now, nextChargeTimestamp := some next }) h

theorem mem_updateChargeTimestamp {subscriptions : Subscriptions} {sid : SubscriptionId} {now next : DateTime}
    {row' : SubscriptionEntity} (h : row' ∈ (updateChargeTimestamp subscriptions sid now next).rows) :
    ∃ row ∈ subscriptions.rows, row' = row ∨
      row' = { row with lastChargeTimestamp := some now, nextChargeTimestamp := some next } := by
  unfold updateChargeTimestamp at h
  split at h
  · rename_i row hrow
    obtain ⟨x, hx, rfl⟩ := List.mem_map.1 h
    split
    · exact ⟨row, Table.mem_of_find hrow, Or.inr rfl⟩
    · exact ⟨x, hx, Or.inl rfl⟩
  · exact ⟨row', h, Or.inl rfl⟩

theorem exists_mem_updateChargeTimestamp {subscriptions : Subscriptions} {row : SubscriptionEntity}
    (hrow : row ∈ subscriptions.rows) (sid : SubscriptionId) (now next : DateTime) :
    ∃ row' ∈ (updateChargeTimestamp subscriptions sid now next).rows, row'.id = row.id := by
  unfold updateChargeTimestamp
  split
  · rename_i stored hstored
    refine ⟨_, List.mem_map.2 ⟨row, hrow, rfl⟩, ?_⟩
    split
    · rename_i h
      exact h.symm
    · rfl
  · exact ⟨row, hrow, rfl⟩

end Fix
