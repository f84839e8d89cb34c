import FixBackend.Payments
/-!
# Stripe — Stripe subscriptions

`StripeServiceImpl` of `fixbackend/subscription/stripe_subscription.py` with the repository of its customers.  The
client is a parameter that answers each request; what is requested is kept.
-/
namespace Fix

open Calendar Effects

structure StripeClient where
  paymentMethodIdFromIntent : String → Except Err String
  createSubscription : StripeCustomerId → String → Except Err StripeSubscriptionId
  createUsageRecord : StripeSubscriptionId → ProductTier → Int → Except Err Unit
  refund : String → Except Err Unit
  updateCustomer : StripeCustomerId → Option String → Option String → Except Err Unit

def eu : List String :=
  ["AT", "BE", "BG", "HR", "CY", "CZ", "DK", "EE", "FI", "FR", "DE", "GR", "HU", "IE", "IT", "LV", "LT",
    "LU", "MT", "NL",
    "PL", "PT", "RO", "SK", "SI", "ES", "SE"]

def reverseCharge : List String :=
  eu ++ ["IS", "LI", "NO", "CH", "GB", "AU", "CA", "IN", "NZ", "SG", "ZA", "AE", "JP"]

/-- A verified event with the fields of its object that the service reads. -/
inductive StripeEvent where
  | checkoutSessionCompleted (customer paymentIntent company country : Option String)
  | paymentIntentSucceeded (id customer reason : Option String)
  | customerUpdated (customer previousCountry country : Option String)
  | customerSubscriptionDeleted (id : Option String)
  | other (type : String)
deriving DecidableEq

namespace StripeCustomerRepository

def workspaceOfCustomer (customers : Table StripeCustomerEntity.workspaceId) (customerId : StripeCustomerId) :
    Except Err (Option WorkspaceId) :=
  (Option.map (·.workspaceId)) <$> scalarOneOrNone (customers.rows.filter fun c => decide (c.customerId = customerId))

def getProductTier (customers : Table StripeCustomerEntity.workspaceId) (workspaceId : WorkspaceId) :
    Option ProductTier :=
  (customers.find workspaceId).bind (·.desiredProductTier)

end StripeCustomerRepository

namespace StripeServiceImpl

variable (client : StripeClient) (period : BillingPeriod)

def request {α : Type} (r : StripeRequest) (answer : Except Err α) : PaymentService α := do
  modify fun p => { p with stripeRequests := p.stripeRequests ++ [r] }
  lift answer

/-! ## Reporting -/

/-- The body of `send`; a subscription of another kind has no Stripe id. -/
def reportEntry (entry : BillingEntry) : SubscriptionMethod → PaymentService PUnit
  | .stripe s => do
    request (.createUsageRecord s.stripeSubscriptionId entry.tier entry.nrOfAccountsCharged 0)
      (client.createUsageRecord s.stripeSubscriptionId entry.tier entry.nrOfAccountsCharged)
    inRepository (SubscriptionRepository.markBillingEntryReported entry.id)
  | .awsMarketplace _ => throw (.attributeError "stripe_subscription_id")

def send (raiseException : Bool) (entry : BillingEntry) (subscription : SubscriptionMethod) : PaymentService PUnit :=
  tryCatch (reportEntry client entry subscription) fun e => if raiseException then throw e else return

def reportUnreportedUsages (raiseException : Bool) : PaymentService Nat := do
  let entries ← inRepository SubscriptionRepository.unreportedStripeBillingEntries
  entries.forM fun x => do
    let (entry, subscription) ← lift x
    send client raiseException entry subscription
  return entries.length

/-! ## Events -/

/-- The tax exemption that `_update_customer` sets for a country; the United States unset it. -/
def taxExempt (countryCode : String) : Option String :=
  if countryCode.toUpper = "US" then some "none"
  else if countryCode.toUpper ∈ reverseCharge then some "reverse"
  else none

def updateCustomer (cid : StripeCustomerId) (company countryCode : Option String) : PaymentService PUnit :=
  let name := truthy company
  let exempt := (truthy countryCode).bind taxExempt
  if name = none ∧ exempt = none then return
  else request (.updateCustomer cid name exempt) (client.updateCustomer cid name exempt)

def subscribedAlready (workspaceId : WorkspaceId) : PaymentService Bool := do
  let p ← get
  match (getWorkspace p.world.organizations workspaceId).bind (·.subscriptionId) with
  | none => return false
  | some subscriptionId =>
    match ← inRepository (SubscriptionRepository.getSubscription subscriptionId) with
    | some (.stripe existing) => return existing.active
    | _ => return false

def storeSubscription (customerId : StripeCustomerId) (workspaceId : WorkspaceId)
    (stripeSubscription : StripeSubscriptionId) : PaymentService PUnit := do
  let id ← inWorld uuid4
  let now ← inWorld utc
  let periodStart ← inWorld utc
  let subscription ← inRepository <| SubscriptionRepository.create <| .stripe
    { id := id
      workspaceId := some workspaceId
      customerIdentifier := customerId
      stripeSubscriptionId := stripeSubscription
      active := true
      lastChargeTimestamp := some now
      nextChargeTimestamp := some (startOfNextPeriod period periodStart 9) }
  let workspace ← inWorld (inOrganizations fun orgs => updateSubscription orgs workspaceId (some subscription.id))
  let p ← get
  (StripeCustomerRepository.getProductTier p.stripeCustomers workspaceId).forM fun tier => do
    let _ ← BillingEntryService.updateBilling none workspace (some tier) none
  inWorld (publish (.subscriptionCreated (some workspaceId) workspace.ownerId subscription.id .stripe))

def createStripeSubscription (customerId : StripeCustomerId) (paymentIntentId : String) : PaymentService PUnit := do
  let p ← get
  match ← lift (StripeCustomerRepository.workspaceOfCustomer p.stripeCustomers customerId) with
  | none => throw (.valueError s!"Stripe customer {customerId} has no workspace?")
  | some workspaceId =>
    if ← subscribedAlready workspaceId then return
    else
      let paymentMethodId ← lift (client.paymentMethodIdFromIntent paymentIntentId)
      let stripeSubscription ← request (.createSubscription customerId paymentMethodId)
        (client.createSubscription customerId paymentMethodId)
      storeSubscription period customerId workspaceId stripeSubscription

def deleteSubscription (subscription : SubscriptionMethod) : PaymentService PUnit := do
  let _ ← inRepository (SubscriptionRepository.deleteSubscriptions subscription.id)
  inWorld (publish (.subscriptionCancelled subscription.id .stripe))

def stripeSubscriptionCancelled (sid : StripeSubscriptionId) : PaymentService PUnit := do
  let rows ← inRepository (SubscriptionRepository.subscriptions { stripeSubscriptionIdentifier := some sid })
  rows.forM fun x => lift x >>= deleteSubscription

/-- A value that is there and truthy. -/
def whenTruthy (s : Option String) (m : String → PaymentService PUnit) : PaymentService PUnit := (truthy s).forM m

def handleVerifiedEvent : StripeEvent → PaymentService PUnit
  | .checkoutSessionCompleted customer paymentIntent company country => do
    whenTruthy customer fun cid => whenTruthy company fun _ => whenTruthy country fun _ =>
      updateCustomer client cid company country
    -- a missing customer or payment intent is logged
    whenTruthy customer fun cid => paymentIntent.forM fun pid => createStripeSubscription client period cid pid
  | .paymentIntentSucceeded id customer reason =>
    if reason = some "activation" then
      whenTruthy id fun intentId => whenTruthy customer fun _ => request (.refund intentId) (client.refund intentId)
    else return
  | .customerUpdated customer previousCountry country =>
    whenTruthy customer fun cid => whenTruthy previousCountry fun _ => whenTruthy country fun _ =>
      updateCustomer client cid none country
  | .customerSubscriptionDeleted id => whenTruthy id stripeSubscriptionCancelled
  | .other _ => return

end StripeServiceImpl

end Fix
