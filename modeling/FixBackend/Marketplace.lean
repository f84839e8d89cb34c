import FixBackend.Payments
import FixBackend.Permissions
/-!
# Marketplace — AWS Marketplace subscriptions

`AwsMarketplaceHandler` of `fixbackend/subscription/aws_marketplace.py`.  What the marketplace answers is a parameter:
the customer data of a token, and the records of a batch it leaves unprocessed.  The tasks of `report_unreported_usages`
are awaited one by one, so they run in sequence.
-/
namespace Fix

open Calendar Effects IntFlag

def productTierToMarketplaceDimension : ProductTier → Option String
  | .plus => some "PlusAccount"
  | .business => some "BusinessAccount"
  | .enterprise => some "EnterpriseAccount"
  | .free | .trial => none

def usageRecord (subscription : AwsMarketplaceSubscription) (entry : BillingEntry) : Option UsageRecord :=
  (productTierToMarketplaceDimension entry.tier).map fun dimension =>
    { customerIdentifier := subscription.customerIdentifier
      dimension := dimension
      quantity := entry.nrOfAccountsCharged
      timestamp := entry.periodEnd }

structure CustomerData where
  productCode : String
  customerIdentifier : String
  customerAwsAccountId : String
deriving DecidableEq

/-- The client of the marketplace; `batchMeterUsage` returns the unprocessed records. -/
structure MarketplaceClient where
  resolveCustomer : String → Except Err CustomerData
  batchMeterUsage : String → List UsageRecord → Except Err (List UsageRecord)

/-- `WorkspaceRepository.list_workspaces` of the workspaces whose subscription the user can assign. -/
def listAssignableWorkspaces (orgs : Organizations) (user : User) : List Workspace :=
  ((orgs.rows.filter fun o => decide (o.ownerId = user.id ∨ user.id ∈ o.members)).map (·.toModel none)).filter fun w =>
    (validateWorkspacePermissions user w.id (mask WorkspacePermission.updateBilling)).isNone

/-- The fields of a message's body that the handler reads. -/
structure MarketplaceMessage where
  action : Option String
  customerIdentifier : Option String
deriving DecidableEq

def MarketplaceMessage.cancels (m : MarketplaceMessage) : Option String :=
  if m.action = some "unsubscribe-pending" then m.customerIdentifier else none

def required {α : Type} (key : String) (value : Option α) : Except Err α :=
  match value with
  | some a => .ok a
  | none => .error (.keyError key)

def Payments.sent (p : Payments) (productCode : String) (entries : List (AwsMarketplaceSubscription × BillingEntry)) :
    Payments :=
  { p with
    metered := p.metered ++ [(productCode, entries.filterMap fun (s, e) => usageRecord s e)]
    meteredFor := p.meteredFor ++ (entries.filter fun (s, e) => (usageRecord s e).isSome).map (·.2.id) }

/-- The subscriptions that a cancellation of the customer reads. -/
def Payments.subscriptionsOf (p : Payments) (customerId : String) : List (Except Err SubscriptionMethod) :=
  (p.tables.subscriptions.rows.filter
    (SubscriptionFilter.selects { awsCustomerIdentifier := some customerId })).map (·.toModel)

namespace AwsMarketplaceHandler

variable (client : MarketplaceClient) (period : BillingPeriod)

def reportUsage (productCode : String) (entries : List (AwsMarketplaceSubscription × BillingEntry)) :
    PaymentService PUnit := do
  modify (·.sent productCode entries)
  let unprocessed ← lift (client.batchMeterUsage productCode (entries.filterMap fun (s, e) => usageRecord s e))
  if unprocessed ≠ [] then throw (.valueError "Could not report usage for billing entries") else return

/-- The body of `send`; a subscription of another kind has no product code. -/
def reportEntry (entry : BillingEntry) : SubscriptionMethod → PaymentService PUnit
  | .awsMarketplace s => do
    reportUsage client s.productCode [(s, entry)]
    inRepository (SubscriptionRepository.markBillingEntryReported entry.id)
  | .stripe _ => throw (.attributeError "product_code")

def send (raiseException : Bool) (entry : BillingEntry) (subscription : SubscriptionMethod) : PaymentService PUnit :=
  tryCatch (reportEntry client entry subscription) fun e => if raiseException then throw e else return

def reportUnreportedUsages (raiseException : Bool) : PaymentService PUnit := do
  let entries ← inRepository SubscriptionRepository.unreportedAwsBillingEntries
  entries.forM fun x => do
    let (entry, subscription) ← lift x
    send client raiseException entry subscription

/-- The pass of `subscription_canceled` for one subscription. -/
def cancel : SubscriptionMethod → PaymentService PUnit
  | .stripe _ => throw (.assertionError "Subscription is not from AWS Marketplace")
  | .awsMarketplace s => do
    inWorld (publish (.subscriptionCancelled s.id .awsMarketplace))
    match ← BillingEntryService.createBillingEntry period (.awsMarketplace s) none with
    | some billing => reportUsage client s.productCode [(s, billing)]
    | none => return

def subscriptionCanceled (customerId : String) : PaymentService PUnit := do
  let rows ← inRepository (SubscriptionRepository.subscriptions { awsCustomerIdentifier := some customerId })
  rows.forM fun x => do
    let subscription ← lift x
    cancel client period subscription

def handleAction (customerIdentifier : String) : String → PaymentService PUnit
  | "subscribe-success" => do
    let _ ← inRepository (SubscriptionRepository.markAwsMarketplaceSubscriptions customerIdentifier true)
  | "unsubscribe-pending" => subscriptionCanceled client period customerIdentifier
  | "subscribe-fail" | "unsubscribe-success" => do
    let _ ← inRepository (SubscriptionRepository.markAwsMarketplaceSubscriptions customerIdentifier false)
  | action => throw (.valueError s!"Unknown action: {action}")

def handleMessage (message : MarketplaceMessage) : PaymentService PUnit := do
  let action ← lift (required "action" message.action)
  let customerIdentifier ← lift (required "customer-identifier" message.customerIdentifier)
  handleAction client period customerIdentifier action

/-- What `report_usage` makes of the marketplace's answer. -/
def reportOutcome (productCode : String) (entries : List (AwsMarketplaceSubscription × BillingEntry)) :
    Except Err Unit :=
  match client.batchMeterUsage productCode (entries.filterMap fun (s, e) => usageRecord s e) with
  | .error e => .error e
  | .ok unprocessed =>
    if unprocessed ≠ [] then .error (.valueError "Could not report usage for billing entries") else .ok ⟨⟩

theorem exec_reportUsage (productCode : String) (entries : List (AwsMarketplaceSubscription × BillingEntry))
    (p : Payments) :
    exec (reportUsage client productCode entries) p =
      (reportOutcome client productCode entries, p.sent productCode entries) := by
  unfold reportUsage reportOutcome
  rw [exec_bind, exec_modify]
  dsimp only
  rw [exec_bind, exec_lift]
  rcases client.batchMeterUsage productCode _ with e | unprocessed
  · rfl
  · dsimp only
    split <;> rfl

theorem keeps_reportUsage {J : SubscriptionTables → Prop} (productCode : String)
    (entries : List (AwsMarketplaceSubscription × BillingEntry)) :
    Keeps (fun p => J p.tables) (reportUsage client productCode entries) := by
  unfold reportUsage
  refine Keeps.bind (Keeps.modify _ fun p hp => hp) fun _ => Keeps.bind (Keeps.lift _) fun unprocessed => ?_
  split
  · exact Keeps.throw _
  · exact Keeps.pure _

theorem handleMessage_cancels {m : MarketplaceMessage} {c : String} (hm : m.cancels = some c) :
    handleMessage client period m = subscriptionCanceled client period c := by
  obtain ⟨action, customer⟩ := m
  unfold MarketplaceMessage.cancels at hm
  split at hm
  · rename_i haction
    dsimp only at haction hm
    subst haction hm
    rfl
  · cases hm

/-- **Every other message leaves the payments as they were**: what it marks is rolled back. -/
theorem handleMessage_rests {m : MarketplaceMessage} (hm : m.cancels = none) (p : Payments) :
    (exec (handleMessage client period m) p).2 = p := by
  obtain ⟨action, customer⟩ := m
  cases action with
  | none => rfl
  | some action =>
    cases customer with
    | none => rfl
    | some c =>
      change (exec (handleAction client period c action) p).2 = p
      unfold handleAction
      split
      · rfl
      · cases hm
      · rfl
      · rfl
      · rfl

/-! ## A user subscribes -/

def onlyWorkspace : List Workspace → Option Workspace
  | [workspace] => some workspace
  | _ => none

/-- The preferred tier of the workspace is taken over; an error is logged. -/
def takePreferredTier (workspace : Workspace) : PaymentService PUnit := do
  let p ← get
  match (p.awsTierPreferences.find workspace.id).bind (·.desiredProductTier) with
  | some tier =>
    tryCatch (do let _ ← BillingEntryService.updateBilling none workspace (some tier) none) fun _ => return
  | none => return

/-- A new subscription is assigned to a workspace without one; it says whether it was. -/
def assign (subscriptionId : SubscriptionId) : Option Workspace → PaymentService Bool
  | none => return false
  | some workspace =>
    if workspace.subscriptionId = none then do
      let _ ← inWorld (inOrganizations fun orgs => updateSubscription orgs workspace.id (some subscriptionId))
      takePreferredTier workspace
      return true
    else return false

/-- The workspaces of a subscription that exists already are taken off hold. -/
def resume (existing : SubscriptionMethod) : PaymentService PUnit := do
  let p ← get
  (listWorkspacesBySubscriptionId p.world.organizations existing.id).forM fun workspace => do
    let _ ← inWorld (inOrganizations fun orgs => updatePaymentOnHold orgs workspace.id none)

def subscribe (user : User) (customer : CustomerData) (workspace : Option Workspace) :
    PaymentService (SubscriptionMethod × Bool) := do
  let id ← inWorld uuid4
  let now ← inWorld utc
  let periodStart ← inWorld utc
  let subscription : SubscriptionMethod := .awsMarketplace
    { id := id
      userId := some user.id
      customerIdentifier := customer.customerIdentifier
      customerAwsAccountId := customer.customerAwsAccountId
      productCode := customer.productCode
      active := true
      lastChargeTimestamp := some now
      nextChargeTimestamp := some (startOfNextPeriod period periodStart 9) }
  let result ← inRepository (SubscriptionRepository.create subscription)
  let workspaceAssigned ← assign result.id workspace
  inWorld (publish (.subscriptionCreated (workspace.map (·.id)) user.id id .awsMarketplace))
  return (result, workspaceAssigned)

def subscribed (user : User) (token : String) : PaymentService (SubscriptionMethod × Bool) := do
  let customer ← lift (client.resolveCustomer token)
  let p ← get
  let workspace := onlyWorkspace (listAssignableWorkspaces p.world.organizations user)
  match ← inRepository (SubscriptionRepository.awsMarketplaceSubscription user.id customer.customerIdentifier) with
  | some existing =>
    resume existing
    return (existing, false)
  | none => subscribe period user customer workspace

end AwsMarketplaceHandler

/-! ## One customer in March -/

/-- A marketplace that resolves every token to one customer and accepts every batch. -/
def acceptingClient : MarketplaceClient where
  resolveCustomer _ := .ok ⟨"product", "customer", "123456789012"⟩
  batchMeterUsage _ _ := .ok []

/-- The customer's active subscription, charged in February for workspace 1, and the usage since then. -/
def marchPayments : Payments where
  world :=
    { accounts := ⟨[], by decide⟩
      organizations := ⟨[plusOrganization 1], plusOrganization_unique⟩
      nextRuns := ⟨[], by decide⟩
      clock := fun _ => mar
      ticks := 0
      nextUuid := 40
      accountFailedResourceCount := 0
      published := []
      notices := []
      cfResponses := []
      cfFailures := 0
      commits := [] }
  tables := ⟨⟨[plusSubscription], plusSubscription_unique⟩, []⟩
  metering := [plusCollect 31 1, plusCollect 32 1, plusCollect 33 1]
  stripeCustomers := ⟨[], by decide⟩
  awsTierPreferences := ⟨[], by decide⟩
  metered := []
  meteredFor := []
  stripeRequests := []

end Fix
