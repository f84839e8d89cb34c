import FixBackend.Sessions
import FixBackend.Subscriptions
/-!
# SubscriptionRepository — the stored subscriptions and billing entries

`SubscriptionRepository` of `fixbackend/subscription/subscription_repository.py`: each method opens a session of its own
and ends with it.  A stream of rows is the list of what its reader receives one after another, the model of a row or the
error of reading it; a join lists the billing entries in their order.
-/
namespace Fix

open Calendar Effects Sessions

structure SubscriptionTables where
  subscriptions : Subscriptions
  billing : List BillingEntry

def scalarOneOrNone {α : Type} : List α → Except Err (Option α)
  | [] => .ok none
  | [a] => .ok (some a)
  | _ => .error .multipleResultsFound

def SubscriptionEntity.fromModel : SubscriptionMethod → SubscriptionEntity
  | .awsMarketplace s =>
    { id := s.id
      userId := s.userId
      awsCustomerIdentifier := some s.customerIdentifier
      awsCustomerAccountId := some s.customerAwsAccountId
      awsProductCode := some s.productCode
      stripeCustomerIdentifier := none
      stripeSubscriptionId := none
      stripeWorkspaceId := none
      active := s.active
      lastChargeTimestamp := s.lastChargeTimestamp
      nextChargeTimestamp := s.nextChargeTimestamp }
  | .stripe s =>
    { id := s.id
      userId := none
      -- the default of the column
      awsCustomerIdentifier := none
      awsCustomerAccountId := some ""
      awsProductCode := none
      stripeCustomerIdentifier := some s.customerIdentifier
      stripeSubscriptionId := some s.stripeSubscriptionId
      stripeWorkspaceId := s.workspaceId
      active := s.active
      lastChargeTimestamp := s.lastChargeTimestamp
      nextChargeTimestamp := s.nextChargeTimestamp }

@[simp] theorem SubscriptionEntity.fromModel_id (s : SubscriptionMethod) : (fromModel s).id = s.id := by
  cases s <;> rfl

structure SubscriptionFilter where
  userId : Option UserId := none
  awsCustomerIdentifier : Option String := none
  stripeCustomerIdentifier : Option StripeCustomerId := none
  stripeSubscriptionIdentifier : Option StripeSubscriptionId := none
  active : Option Bool := none
  nextChargeTimestampBefore : Option DateTime := none
  nextChargeTimestampAfter : Option DateTime := none
  isAwsMarketplaceSubscription : Option Bool := none
  isStripeSubscription : Option Bool := none
  stripeWorkspaceId : Option WorkspaceId := none

def equalsGiven {α : Type} [DecidableEq α] (given column : Option α) : Bool :=
  given.all fun a => decide (column = some a)

/-- A row satisfies every condition of the query.  A comparison with null holds of no row, and an argument that is the
empty string gives no condition. -/
def SubscriptionFilter.selects (f : SubscriptionFilter) (e : SubscriptionEntity) : Bool :=
  equalsGiven f.userId e.userId && equalsGiven (truthy f.awsCustomerIdentifier) e.awsCustomerIdentifier &&
  f.active.all (· == e.active) &&
  f.nextChargeTimestampBefore.all (fun t => e.nextChargeTimestamp.any fun n => decide (n ≤ t)) &&
  f.nextChargeTimestampAfter.all (fun t => e.nextChargeTimestamp.any fun n => decide (t < n)) &&
  equalsGiven (truthy f.stripeCustomerIdentifier) e.stripeCustomerIdentifier &&
  equalsGiven (truthy f.stripeSubscriptionIdentifier) e.stripeSubscriptionId &&
  f.isAwsMarketplaceSubscription.all (· == e.awsCustomerIdentifier.isSome) &&
  f.isStripeSubscription.all (· == e.stripeSubscriptionId.isSome) &&
  equalsGiven f.stripeWorkspaceId e.stripeWorkspaceId

def SubscriptionTables.subscriptionOf (t : SubscriptionTables) (be : BillingEntry) : Option SubscriptionEntity :=
  t.subscriptions.find be.subscriptionId

/-- The unreported billing entries joined with the subscriptions of a kind. -/
def SubscriptionTables.unreported (t : SubscriptionTables) (kind : SubscriptionEntity → Bool) :
    List (BillingEntry × SubscriptionEntity) :=
  t.billing.filterMap fun be =>
    if be.reported then none
    else (t.subscriptionOf be).bind fun e => if kind e then some (be, e) else none

theorem SubscriptionTables.mem_unreported {t : SubscriptionTables} {kind : SubscriptionEntity → Bool}
    {be : BillingEntry}
    {e : SubscriptionEntity} : (be, e) ∈ t.unreported kind ↔
      be ∈ t.billing ∧ be.reported = false ∧ t.subscriptionOf be = some e ∧ kind e = true := by
  unfold SubscriptionTables.unreported
  rw [List.mem_filterMap]
  constructor
  · rintro ⟨x, hx, h⟩
    split at h
    · cases h
    · rename_i hrep
      obtain ⟨row, hrow, h⟩ := Option.bind_eq_some_iff.1 h
      split at h
      · rename_i hkind
        cases h
        exact ⟨hx, Bool.eq_false_iff.2 hrep, hrow, hkind⟩
      · cases h
  · rintro ⟨hbe, hrep, hrow, hkind⟩
    refine ⟨be, hbe, ?_⟩
    rw [hrep, hrow]
    simp [hkind]

theorem SubscriptionTables.unreported_sublist (t : SubscriptionTables) (kind : SubscriptionEntity → Bool) :
    List.Sublist ((t.unreported kind).map (·.1)) t.billing := by
  unfold SubscriptionTables.unreported
  induction t.billing with
  | nil => exact List.Sublist.slnil
  | cons be rest ih =>
    rw [List.filterMap_cons]
    split
    · exact ih.cons be
    · rename_i x hx
      have hfst : x.1 = be := by
        split at hx
        · cases hx
        · obtain ⟨row, -, hx⟩ := Option.bind_eq_some_iff.1 hx
          split at hx <;> cases hx
          rfl
      rw [List.map_cons, hfst]
      exact ih.cons_cons be

def BillingEntry.markReported (bid : BillingId) (be : BillingEntry) : BillingEntry :=
  if be.id = bid then { be with reported := true } else be

@[simp] theorem BillingEntry.markReported_id (bid : BillingId) (be : BillingEntry) :
    (be.markReported bid).id = be.id := by
  unfold markReported
  split <;> rfl

@[simp] theorem BillingEntry.markReported_reported (bid : BillingId) (be : BillingEntry) :
    (be.markReported bid).reported = (be.reported || decide (be.id = bid)) := by
  unfold markReported
  split
  · rename_i h
    simp [h]
  · rename_i h
    simp [h]

theorem BillingEntry.markReported_of_ne {bid : BillingId} {be : BillingEntry} (h : be.id ≠ bid) :
    be.markReported bid = be := if_neg h

namespace SubscriptionRepository

abbrev Repository := Call Err SubscriptionTables

/-! ## Reading -/

def reading {α : Type} (f : SubscriptionTables → Except Err α) : Repository α := do
  let r ← inSession (execute fun t => (f t, t))
  lift r

def awsMarketplaceSubscription (userId : UserId) (customerIdentifier : String) :
    Repository (Option SubscriptionMethod) :=
  reading fun t => do
    match ← scalarOneOrNone (t.subscriptions.rows.filter fun e =>
        decide (e.awsCustomerIdentifier = some customerIdentifier ∧ e.userId = some userId)) with
    | some row => some <$> row.toModel
    | none => return none

def getSubscription (subscriptionId : SubscriptionId) : Repository (Option SubscriptionMethod) :=
  reading fun t => Fix.getSubscription t.subscriptions subscriptionId

def subscriptions (f : SubscriptionFilter) : Repository (List (Except Err SubscriptionMethod)) :=
  reading fun t => .ok ((t.subscriptions.rows.filter f.selects).map (·.toModel))

def joinedModels (rows : List (BillingEntry × SubscriptionEntity)) :
    List (Except Err (BillingEntry × SubscriptionMethod)) :=
  rows.map fun (be, e) => (fun s => (be, s)) <$> e.toModel

theorem joinedModels_error {be : BillingEntry} {e : SubscriptionEntity} {err : Err} (h : e.toModel = .error err)
    (rest : List (BillingEntry × SubscriptionEntity)) :
    joinedModels ((be, e) :: rest) = .error err :: joinedModels rest := by
  simp only [joinedModels, List.map_cons, h]
  rfl

theorem joinedModels_ok {be : BillingEntry} {e : SubscriptionEntity} {s : SubscriptionMethod} (h : e.toModel = .ok s)
    (rest : List (BillingEntry × SubscriptionEntity)) :
    joinedModels ((be, e) :: rest) = .ok (be, s) :: joinedModels rest := by
  simp only [joinedModels, List.map_cons, h]
  rfl

/-- A join read to its end. -/
def readOut (t : SubscriptionTables) (kind : SubscriptionEntity → Bool) :
    Except Err (List (BillingEntry × SubscriptionMethod)) :=
  (joinedModels (t.unreported kind)).mapM id

theorem mapM_joinedModels : ∀ (rows : List (BillingEntry × SubscriptionEntity)),
    (∀ x ∈ rows, ∃ s, x.2.toModel = .ok s) →
      ∃ l, (joinedModels rows).mapM id = .ok l ∧ ∀ x ∈ rows, ∃ s, (x.1, s) ∈ l
  | [], _ => ⟨[], rfl, fun _ h => absurd h List.not_mem_nil⟩
  | (be, e) :: rest, h => by
    obtain ⟨s, hs⟩ := h (be, e) List.mem_cons_self
    obtain ⟨l, hl, hmem⟩ := mapM_joinedModels rest fun x hx => h x (List.mem_cons_of_mem _ hx)
    refine ⟨(be, s) :: l, ?_, fun x hx => ?_⟩
    · rw [joinedModels_ok hs, List.mapM_cons, hl]
      rfl
    · rcases List.mem_cons.1 hx with rfl | hx
      · exact ⟨s, List.mem_cons_self⟩
      · obtain ⟨s', hs'⟩ := hmem x hx
        exact ⟨s', List.mem_cons_of_mem _ hs'⟩

def unreportedAwsBillingEntries : Repository (List (Except Err (BillingEntry × SubscriptionMethod))) :=
  reading fun t => .ok (joinedModels (t.unreported (·.awsCustomerIdentifier.isSome)))

def unreportedStripeBillingEntries : Repository (List (Except Err (BillingEntry × SubscriptionMethod))) :=
  reading fun t => .ok (joinedModels (t.unreported (·.stripeSubscriptionId.isSome)))

def userHasSubscription (userId : UserId) (subscriptionId : SubscriptionId) : Repository Bool :=
  reading fun t => .ok ((t.subscriptions.find subscriptionId).any fun e => decide (e.userId = some userId))

theorem exec_reading {α : Type} (f : SubscriptionTables → Except Err α) (t : SubscriptionTables) :
    exec (reading f) t = (f t, t) := by
  unfold reading
  rw [exec_bind, exec_inSession_execute]
  exact exec_lift _ _

theorem keeps_reading {J : SubscriptionTables → Prop} {α : Type} (f : SubscriptionTables → Except Err α) :
    Keeps J (reading f) := by
  apply Triple.of_exec
  intro t ht
  rw [exec_reading]
  cases f t <;> exact ht

/-! ## Writing -/

/-- `mark_aws_marketplace_subscriptions`; the statement is executed and not committed. -/
def markAwsMarketplaceSubscriptions (customerIdentifier : String) (active : Bool) : Repository Nat :=
  inSession <| execute fun t =>
    let ofCustomer (e : SubscriptionEntity) : Bool := decide (e.awsCustomerIdentifier = some customerIdentifier)
    (t.subscriptions.count ofCustomer,
      { t with
        subscriptions := t.subscriptions.updateWhere ofCustomer (fun e => { e with active := active }) fun _ => rfl })

def addBillingEntry (sid : SubscriptionId) (workspaceId : WorkspaceId) (tier : ProductTier) (nrOfAccountsCharged : Int)
    (lastChargeTimestamp now nextChargeTimestamp : DateTime) (uid : BillingId) : Repository BillingEntry :=
  inSession <| executeAndCommit fun t =>
    let (entry, billing, subscriptions) := Fix.addBillingEntry t.subscriptions t.billing sid workspaceId tier
      nrOfAccountsCharged lastChargeTimestamp now nextChargeTimestamp uid
    (entry, ⟨subscriptions, billing⟩)

def updateChargeTimestamp (sid : SubscriptionId) (now nextChargeTimestamp : DateTime) : Repository Nat :=
  inSession <| executeAndCommit fun t =>
    (t.subscriptions.count (fun e => decide (e.id = sid)),
      { t with subscriptions := Fix.updateChargeTimestamp t.subscriptions sid now nextChargeTimestamp })

/-- A statement that deletes subscriptions, committed. -/
def deleteWhere (p : SubscriptionEntity → Bool) : Repository Nat :=
  inSession <| executeAndCommit fun t =>
    (t.subscriptions.count p, { t with subscriptions := t.subscriptions.deleteWhere p })

def deleteSubscriptions (sid : SubscriptionId) : Repository Nat := deleteWhere fun e => decide (e.id = sid)

def deleteAwsMarketplaceSubscriptions (customerIdentifier : String) : Repository Nat :=
  deleteWhere fun e => decide (e.awsCustomerIdentifier = some customerIdentifier)

/-- `create`; its argument `session` is shadowed by the session it opens. -/
def create (subscription : SubscriptionMethod) : Repository SubscriptionMethod :=
  inSession do
    let t ← get
    let row := SubscriptionEntity.fromModel subscription
    if h : t.working.subscriptions.find row.id = none then
      set { t with working := { t.working with subscriptions := t.working.subscriptions.insert row h } }
      commit
      return subscription
    else throw .integrityError

def markBillingEntryReported (bid : BillingId) : Repository PUnit :=
  inSession <| executeAndCommit fun t =>
    (⟨⟩, { t with billing := t.billing.map (·.markReported bid) })

theorem exec_markBillingEntryReported (bid : BillingId) (t : SubscriptionTables) :
    exec (markBillingEntryReported bid) t =
      (.ok ⟨⟩, { t with billing := t.billing.map (·.markReported bid) }) :=
  rfl

/-- **The marks are rolled back**: the method returns how many rows it marked and leaves every row as it was. -/
theorem exec_markAwsMarketplaceSubscriptions (customerIdentifier : String) (active : Bool) (t : SubscriptionTables) :
    exec (markAwsMarketplaceSubscriptions customerIdentifier active) t =
      (.ok (t.subscriptions.count fun e => decide (e.awsCustomerIdentifier = some customerIdentifier)), t) := rfl

theorem exec_create_new {subscription : SubscriptionMethod} (t : SubscriptionTables)
    (h : t.subscriptions.find (SubscriptionEntity.fromModel subscription).id = none) :
    exec (create subscription) t =
      (.ok subscription, { t with subscriptions := t.subscriptions.insert (.fromModel subscription) h }) := by
  unfold create inSession
  rw [exec_embed, exec_bind, exec_get]
  dsimp only
  rw [dif_pos h]
  rfl

theorem exec_create_old {subscription : SubscriptionMethod} (t : SubscriptionTables)
    (h : t.subscriptions.find (SubscriptionEntity.fromModel subscription).id ≠ none) :
    exec (create subscription) t = (.error .integrityError, t) := by
  unfold create inSession
  rw [exec_embed, exec_bind, exec_get]
  dsimp only
  rw [dif_neg h]
  rfl

end SubscriptionRepository

end Fix
