import FixBackend.AccountRepository
import FixBackend.Billing
import FixBackend.SubscriptionRepository
/-!
# Payments — the billing service over subscriptions, workspaces and accounts

`BillingEntryService` of `fixbackend/billing/service.py`, and the state it shares with the two payment providers: the
`World` of the accounts, the subscription tables, the metering records and what has been sent to the providers.
-/
namespace Fix

open Calendar Effects

/-- One usage record of `batch_meter_usage`, the time as a time where the source sends its text. -/
structure UsageRecord where
  customerIdentifier : String
  dimension : String
  quantity : Int
  timestamp : DateTime
deriving DecidableEq

structure StripeCustomerEntity where
  workspaceId : WorkspaceId
  customerId : StripeCustomerId
  desiredProductTier : Option ProductTier
deriving DecidableEq

structure AwsTierPreferenceEntity where
  workspaceId : WorkspaceId
  desiredProductTier : Option ProductTier
deriving DecidableEq

/-- A request to Stripe that changes something there. -/
inductive StripeRequest where
  | createSubscription (customerId : StripeCustomerId) (paymentMethodId : String)
  | createUsageRecord (subscriptionId : StripeSubscriptionId) (tier : ProductTier) (nrOfAccounts nrOfSeats : Int)
  | refund (paymentIntentId : String)
  | updateCustomer (customerId : StripeCustomerId) (name taxExempt : Option String)
deriving DecidableEq

/-- What the payment services read and write.  `metered` holds the batches sent to the marketplace; `meteredFor` holds
the ids of the billing entries that the sent records are of, and no function reads it. -/
structure Payments where
  world : World
  tables : SubscriptionTables
  metering : List MeteringRecord
  stripeCustomers : Table StripeCustomerEntity.workspaceId
  awsTierPreferences : Table AwsTierPreferenceEntity.workspaceId
  metered : List (String × List UsageRecord)
  meteredFor : List BillingId
  stripeRequests : List StripeRequest

abbrev PaymentService := Call Err Payments

def inWorld {α : Type} (m : Service α) : PaymentService α := embed Payments.world (fun p w => { p with world := w }) m

def inRepository {α : Type} (m : SubscriptionRepository.Repository α) : PaymentService α :=
  embed Payments.tables (fun p t => { p with tables := t }) m

def Payments.billingStore (p : Payments) : BillingStore where
  organizations := p.world.organizations
  subscriptions := p.tables.subscriptions
  billing := p.tables.billing
  metering := p.metering
  published := p.world.published

/-- The payments with the store as a call of `create_billing_entry` leaves it. -/
def Payments.billed (p : Payments) (st : BillingStore) : Payments :=
  { p with
    world := { p.world with organizations := st.organizations, published := st.published }
    tables := ⟨st.subscriptions, st.billing⟩
    metering := st.metering }

inductive PaymentMethod where
  | awsSubscription (subscriptionId : SubscriptionId)
  | stripeSubscription (subscriptionId : SubscriptionId)
  | noPaymentMethod
deriving DecidableEq

structure WorkspacePaymentMethods where
  current : PaymentMethod
  available : List PaymentMethod
deriving DecidableEq

def SubscriptionMethod.paymentMethod : SubscriptionMethod → PaymentMethod
  | .awsMarketplace s => .awsSubscription s.id
  | .stripe s => .stripeSubscription s.id

def SubscriptionMethod.isAws : SubscriptionMethod → Bool
  | .awsMarketplace _ => true
  | .stripe _ => false

namespace BillingEntryService

def createBillingEntry (period : BillingPeriod) (subscription : SubscriptionMethod) (now : Option DateTime) :
    PaymentService (Option BillingEntry) := do
  let utcNow ← inWorld utc
  let uid ← inWorld uuid4
  modifyGet fun p =>
    let (entry, st) := Fix.createBillingEntry period p.billingStore subscription now utcNow uid
    (entry, p.billed st)

/-- `get_current_subscription`, as the payment method it becomes. -/
def currentPaymentMethod (workspace : Workspace) : PaymentService PaymentMethod :=
  match workspace.subscriptionId with
  | none => return .noPaymentMethod
  | some subscriptionId => do
    match ← inRepository (SubscriptionRepository.getSubscription subscriptionId) with
    | some subscription => if subscription.active then return subscription.paymentMethod else return .noPaymentMethod
    | none => return .noPaymentMethod

/-- The subscriptions a query yields; reading stops at the first row that cannot be read. -/
def allSubscriptions (f : SubscriptionFilter) : PaymentService (List SubscriptionMethod) := do
  let rows ← inRepository (SubscriptionRepository.subscriptions f)
  lift (rows.mapM id)

def getPaymentMethods (workspace : Workspace) (userId : Option UserId) : PaymentService WorkspacePaymentMethods := do
  let now ← inWorld utc
  let later ← inWorld utc
  let without : List PaymentMethod :=
    if workspace.currentProductTier now = .free ∨ workspace.currentProductTier later = .trial then [.noPaymentMethod]
    else []
  let current ← currentPaymentMethod workspace
  let ofUser ← allSubscriptions { userId := userId, active := some true }
  let ofWorkspace ← allSubscriptions { stripeWorkspaceId := some workspace.id, active := some true }
  let aws := (ofUser.filter (·.isAws)).map (·.paymentMethod)
  let stripe := (ofWorkspace.filter (!·.isAws)).map (·.paymentMethod)
  return ⟨current, without ++ aws ++ stripe⟩

/-- What `update_billing` refuses of a tier.  A paid tier needs a payment method, but the current method is compared by
identity with a new instance, so there always is one. -/
def validateProductTier (workspace : Workspace) (numberOfCloudAccounts : Nat) (newProductTier : ProductTier) :
    Except Err Unit :=
  let settings := productTierSettings newProductTier
  if settings.accountLimit.any fun limit => decide (limit ≠ 0 ∧ limit < numberOfCloudAccounts) then
    .error (.notAllowed "too_many_cloud_accounts")
  else if settings.seatsIncluded ≠ 0 ∧ settings.seatsIncluded < workspace.allUsers.length then
    .error (.notAllowed "too_many_users")
  else .ok ⟨⟩

/-- What `update_billing` refuses of a payment method. -/
def validatePaymentMethod (methods : WorkspacePaymentMethods) (newPaymentMethod : PaymentMethod) : Except Err Unit :=
  if newPaymentMethod ∈ methods.available then .ok ⟨⟩ else .error (.notAllowed "unknown_payment_method")

def updatePaymentMethod (workspace : Workspace) (methods : WorkspacePaymentMethods) (paymentMethod : PaymentMethod) :
    PaymentService Workspace :=
  if paymentMethod = methods.current then return workspace
  else
    match paymentMethod with
    | .awsSubscription subscriptionId | .stripeSubscription subscriptionId =>
      inWorld (inOrganizations fun orgs => updateSubscription orgs workspace.id (some subscriptionId))
    | .noPaymentMethod => throw (.notAllowed "downgrade_not_allowed")

def updateProductTier (userId : Option UserId) (workspace : Workspace) (currentTier productTier : ProductTier) :
    PaymentService Workspace :=
  if productTier = currentTier then return workspace
  else do
    let now ← inWorld utc
    let updatedWorkspace ← inWorld (inOrganizations fun orgs => Fix.updateProductTier orgs workspace.id productTier now)
    inWorld (publish (.productTierChanged workspace.id (userId.getD workspace.ownerId) productTier productTier.paid
      (decide (currentTier < productTier)) currentTier))
    return updatedWorkspace

def whenGiven {β : Type} (given : Option β) (workspace : Workspace) (m : β → PaymentService Workspace) :
    PaymentService Workspace :=
  match given with
  | some b => m b
  | none => return workspace

def updateBilling (userId : Option UserId) (workspace : Workspace) (newProductTier : Option ProductTier)
    (newPaymentMethod : Option PaymentMethod) : PaymentService Workspace := do
  let currentTier := workspace.currentProductTier (← inWorld utc)
  let methods ← getPaymentMethods workspace userId
  let numberOfCloudAccounts ← inWorld (CloudAccountRepository.countByWorkspaceId workspace.id false true)
  newProductTier.forM fun tier => lift (validateProductTier workspace numberOfCloudAccounts tier)
  newPaymentMethod.forM fun method => lift (validatePaymentMethod methods method)
  let workspace ← whenGiven newPaymentMethod workspace (updatePaymentMethod workspace methods)
  whenGiven newProductTier workspace (updateProductTier userId workspace currentTier)

end BillingEntryService

/-! ## What the calls keep -/

section Keeps

variable {I : Payments → Prop}

theorem exec_inRepository {α : Type} (m : SubscriptionRepository.Repository α) (p : Payments) :
    exec (inRepository m) p = ((exec m p.tables).1, { p with tables := (exec m p.tables).2 }) := by
  unfold inRepository
  rw [exec_embed]

theorem exec_inWorld {α : Type} (m : Service α) (p : Payments) :
    exec (inWorld m) p = ((exec m p.world).1, { p with world := (exec m p.world).2 }) := by
  unfold inWorld
  rw [exec_embed]

theorem exec_inRepository_reading {α : Type} (f : SubscriptionTables → Except Err α) (p : Payments) :
    exec (inRepository (SubscriptionRepository.reading f)) p = (f p.tables, p) := by
  rw [exec_inRepository, SubscriptionRepository.exec_reading]

theorem keeps_inRepository {J : SubscriptionTables → Prop} {α : Type} {m : SubscriptionRepository.Repository α}
    (hm : Keeps J m) : Keeps (fun p => J p.tables) (inRepository m) := by
  apply Triple.of_exec
  intro p hp
  rw [exec_inRepository]
  have hJ := hm.after hp
  rcases hr : exec m p.tables with ⟨e | a, t⟩ <;> rw [hr] at hJ <;> exact hJ

theorem keeps_tables {J : SubscriptionTables → Prop} {α : Type} (m : Service α) :
    Keeps (fun p => J p.tables) (inWorld m) := by
  apply Triple.of_exec
  intro p hp
  rw [exec_inWorld]
  cases (exec m p.world).1 <;> exact hp

/-- **The rule of reading**: what follows starts where the reading was made. -/
theorem keeps_reading_bind {α β : Type} {f : SubscriptionTables → Except Err α} {g : α → PaymentService β}
    (h : ∀ p a, I p → f p.tables = .ok a → Triple (fun p' => p' = p) (g a) (fun _ => I) I) :
    Keeps I (inRepository (SubscriptionRepository.reading f) >>= g) := by
  intro p hp
  cases hf : f p.tables with
  | error e =>
    rw [exec_bind, exec_inRepository_reading, hf]
    refine ⟨fun a s' hr => (by cases hr), fun e s' hr => ?_⟩
    cases hr
    exact hp
  | ok a =>
    rw [exec_bind, exec_inRepository_reading, hf]
    exact h p a hp hf p rfl

theorem keeps_forEach {α : Type} {f : α → PaymentService PUnit} (rows : List (Except Err α))
    (h : ∀ a, .ok a ∈ rows → Keeps I (f a)) : Keeps I (rows.forM fun x => lift x >>= f) :=
  Keeps.forM rows fun _ hx => Triple.lift_bind (fun a ha => h a (ha ▸ hx)) fun _ hp => hp

end Keeps

namespace BillingEntryService

section Reading

variable {I : Payments → Prop}

theorem keeps_currentPaymentMethod (workspace : Workspace) : Keeps I (currentPaymentMethod workspace) := by
  unfold currentPaymentMethod
  cases workspace.subscriptionId with
  | none => exact Keeps.pure _
  | some subscriptionId =>
    refine Keeps.bind
      (keeps_of_rests fun p => by rw [SubscriptionRepository.getSubscription, exec_inRepository_reading])
      fun found => ?_
    cases found with
    | none => exact Keeps.pure _
    | some subscription =>
      dsimp only
      split <;> exact Keeps.pure _

theorem keeps_allSubscriptions (f : SubscriptionFilter) : Keeps I (allSubscriptions f) :=
  Keeps.bind (keeps_of_rests fun p => by rw [SubscriptionRepository.subscriptions, exec_inRepository_reading]) fun _ =>
    Keeps.lift _

theorem keeps_getPaymentMethods (hutc : Keeps I (inWorld utc)) (workspace : Workspace) (userId : Option UserId) :
    Keeps I (getPaymentMethods workspace userId) :=
  Keeps.bind hutc fun _ => Keeps.bind hutc fun _ => Keeps.bind (keeps_currentPaymentMethod _) fun _ =>
    Keeps.bind (keeps_allSubscriptions _) fun _ => Keeps.bind (keeps_allSubscriptions _) fun _ => Keeps.pure _

end Reading

section Tables

variable {J : SubscriptionTables → Prop}

theorem keeps_optionForM {α : Type} {I : Payments → Prop} {f : α → PaymentService PUnit} (o : Option α)
    (h : ∀ a ∈ o, Keeps I (f a)) : Keeps I (o.forM f) := by
  cases o with
  | none => exact Keeps.pure _
  | some a => exact h a rfl

theorem keeps_whenGiven {β : Type} {I : Payments → Prop} {m : β → PaymentService Workspace} (given : Option β)
    (workspace : Workspace) (h : ∀ b, Keeps I (m b)) : Keeps I (whenGiven given workspace m) := by
  cases given with
  | none => exact Keeps.pure _
  | some b => exact h b

/-- **`update_billing` changes neither subscriptions nor billing entries.** -/
theorem keeps_updateBilling (userId : Option UserId) (workspace : Workspace) (tier : Option ProductTier)
    (method : Option PaymentMethod) : Keeps (fun p => J p.tables) (updateBilling userId workspace tier method) := by
  unfold updateBilling
  refine Keeps.bind (keeps_tables _) fun now => Keeps.bind (keeps_getPaymentMethods (keeps_tables _) _ _) fun methods =>
    Keeps.bind (keeps_tables _) fun n => Keeps.bind (keeps_optionForM _ fun _ _ => Keeps.lift _) fun _ =>
      Keeps.bind (keeps_optionForM _ fun _ _ => Keeps.lift _) fun _ =>
        Keeps.bind (keeps_whenGiven _ _ fun method => ?_) fun workspace => keeps_whenGiven _ _ fun tier => ?_
  · unfold updatePaymentMethod
    split
    · exact Keeps.pure _
    · cases method <;> first | exact keeps_tables _ | exact Keeps.throw _
  · unfold updateProductTier
    split
    · exact Keeps.pure _
    · exact Keeps.bind (keeps_tables _) fun _ => Keeps.bind (keeps_tables _) fun _ =>
        Keeps.bind (keeps_tables _) fun _ => Keeps.pure _

end Tables

/-- What a call of the billing service does: its own clock and id readings, and a call of `create_billing_entry`. -/
theorem exec_createBillingEntry (period : BillingPeriod) (subscription : SubscriptionMethod) (now : Option DateTime)
    (p : Payments) :
    let called := Fix.createBillingEntry period p.billingStore subscription now (p.world.clock p.world.ticks)
      p.world.nextUuid
    exec (createBillingEntry period subscription now) p = (.ok called.1,
      { p with
        world := { p.world with
          organizations := called.2.organizations
          published := called.2.published
          ticks := p.world.ticks + 1
          nextUuid := p.world.nextUuid + 1 }
        tables := ⟨called.2.subscriptions, called.2.billing⟩
        metering := called.2.metering }) := rfl

end BillingEntryService

end Fix
