import FixBackend.Ids
import FixBackend.Table
/-!
# Workspaces — the organization table and the workspace read from it

`fixbackend/workspaces/models` and `fixbackend/workspaces/repository.py`.  The tier columns hold the tier that
`ProductTier.from_str` reads from them.  A repository function takes the table and, when it commits, returns it changed.
-/
namespace Fix

open Calendar

structure Organization where
  id : WorkspaceId
  slug : String
  name : String
  externalId : ExternalId
  ownerId : UserId
  members : List UserId
  tier : ProductTier
  subscriptionId : Option SubscriptionId
  paymentOnHoldSince : Option DateTime
  createdAt : DateTime
  updatedAt : DateTime
  highestCurrentCycleTier : Option ProductTier
  currentCycleEndsAt : Option DateTime
  tierUpdatedAt : Option DateTime
deriving DecidableEq

structure Workspace where
  id : WorkspaceId
  slug : String
  name : String
  externalId : ExternalId
  ownerId : UserId
  members : List UserId
  selectedProductTier : ProductTier
  createdAt : DateTime
  updatedAt : DateTime
  subscriptionId : Option SubscriptionId
  paymentOnHoldSince : Option DateTime
  highestCurrentCycleTier : Option ProductTier
  currentCycleEndsAt : Option DateTime
  moveToFreeAcknowledgedAt : Option DateTime
  tierUpdatedAt : Option DateTime
deriving DecidableEq

def Organization.toModel (o : Organization) (moveToFreeAcknowledgedAt : Option DateTime) : Workspace where
  id := o.id
  slug := o.slug
  name := o.name
  externalId := o.externalId
  ownerId := o.ownerId
  members := o.members
  selectedProductTier := o.tier
  highestCurrentCycleTier := o.highestCurrentCycleTier
  currentCycleEndsAt := o.currentCycleEndsAt
  subscriptionId := o.subscriptionId
  paymentOnHoldSince := o.paymentOnHoldSince
  createdAt := o.createdAt
  updatedAt := o.updatedAt
  moveToFreeAcknowledgedAt := moveToFreeAcknowledgedAt
  tierUpdatedAt := o.tierUpdatedAt

/-- `Workspace.current_product_tier`, `now` being what `utc()` returns. -/
def Workspace.currentProductTier (w : Workspace) (now : DateTime) : ProductTier :=
  match w.currentCycleEndsAt with
  | some cycleEnd =>
    if now < cycleEnd then
      match w.highestCurrentCycleTier with
      | some highest => max highest w.selectedProductTier
      | none => w.selectedProductTier
    else w.selectedProductTier
  | none => w.selectedProductTier

def Workspace.allUsers (w : Workspace) : List UserId := (w.ownerId :: w.members).dedup

/-! ## The repository -/

abbrev Organizations := Table Organization.id

def getWorkspace (orgs : Organizations) (workspaceId : WorkspaceId) : Option Workspace :=
  (orgs.find workspaceId).map (·.toModel none)

def listWorkspacesBySubscriptionId (orgs : Organizations) (subscriptionId : SubscriptionId) : List Workspace :=
  (orgs.rows.filter (fun o => o.subscriptionId = some subscriptionId)).map (·.toModel none)

/-- The row `update_product_tier` commits, or the refusal of a paid tier without a subscription. -/
def Organization.selectTier (o : Organization) (newTier : ProductTier) (now : DateTime) : Except Err Organization :=
  if o.subscriptionId.isNone && newTier.paid then
    .error (.notAllowed "Workspace must have a subscription to change the security tier")
  else
    let activeTier := o.highestCurrentCycleTier.getD .free
    .ok { o with
      tier := newTier
      currentCycleEndsAt :=
        if o.highestCurrentCycleTier = none ∨ activeTier < newTier then some now.endOfMonth else o.currentCycleEndsAt
      highestCurrentCycleTier := some (max activeTier newTier)
      tierUpdatedAt := some now }

def updateProductTier (orgs : Organizations) (workspaceId : WorkspaceId) (newTier : ProductTier) (now : DateTime) :
    Except Err (Workspace × Organizations) :=
  match orgs.find workspaceId with
  | none => .error (.resourceNotFound s!"Organization {workspaceId} does not exist.")
  | some org =>
    match org.selectTier newTier now with
    | .error e => .error e
    | .ok org' => .ok (org'.toModel none, orgs.replace org')

/-- A method that changes the row of a workspace and commits it. -/
def changeOrganization (orgs : Organizations) (workspaceId : WorkspaceId) (f : Organization → Organization) :
    Except Err (Workspace × Organizations) :=
  match orgs.find workspaceId with
  | none => .error (.resourceNotFound s!"Organization {workspaceId} does not exist.")
  | some org => .ok ((f org).toModel none, orgs.replace (f org))

def updateSubscription (orgs : Organizations) (workspaceId : WorkspaceId) (subscriptionId : Option SubscriptionId) :
    Except Err (Workspace × Organizations) :=
  changeOrganization orgs workspaceId fun o => { o with subscriptionId := subscriptionId }

def updatePaymentOnHold (orgs : Organizations) (workspaceId : WorkspaceId) (onHoldSince : Option DateTime) :
    Except Err (Workspace × Organizations) :=
  changeOrganization orgs workspaceId fun o => { o with paymentOnHoldSince := onHoldSince }

theorem Organization.selectTier_keeps {o o' : Organization} {newTier : ProductTier} {now : DateTime}
    (h : o.selectTier newTier now = .ok o') :
    o'.id = o.id ∧ o'.subscriptionId = o.subscriptionId ∧ o'.paymentOnHoldSince = o.paymentOnHoldSince := by
  unfold Organization.selectTier at h
  split at h
  · cases h
  · cases h
    exact ⟨rfl, rfl, rfl⟩

theorem Organization.selectTier_ok {o : Organization} (hsub : o.subscriptionId.isSome) (newTier : ProductTier)
    (now : DateTime) : ∃ o', o.selectTier newTier now = .ok o' ∧ o'.id = o.id ∧ o'.tier = newTier ∧
      o'.subscriptionId = o.subscriptionId ∧
      o'.highestCurrentCycleTier = some (max (o.highestCurrentCycleTier.getD .free) newTier) ∧
      o'.currentCycleEndsAt = (if o.highestCurrentCycleTier = none ∨ o.highestCurrentCycleTier.getD .free < newTier
        then some now.endOfMonth else o.currentCycleEndsAt) := by
  unfold Organization.selectTier
  rw [if_neg (by simp [Option.isSome_iff_ne_none.1 hsub])]
  exact ⟨_, rfl, rfl, rfl, rfl, rfl, rfl⟩

/-- **A committed tier change is found under the workspace's id**, every other workspace as it was. -/
theorem updateProductTier_ok {orgs : Organizations} {workspaceId : WorkspaceId} {o o' : Organization}
    {newTier : ProductTier}
    {now : DateTime} (hfind : orgs.find workspaceId = some o) (hsel : o.selectTier newTier now = .ok o')
    (hid : o'.id = o.id) : ∃ orgs', updateProductTier orgs workspaceId newTier now = .ok (o'.toModel none, orgs') ∧
      orgs'.find workspaceId = some o' ∧ ∀ other, other ≠ workspaceId → orgs'.find other = orgs.find other := by
  have hkey : o'.id = workspaceId := hid.trans (Table.key_of_find hfind)
  refine ⟨orgs.replace o', ?_, ?_, ?_⟩
  · simp only [updateProductTier, hfind, hsel]
  · subst hkey
    exact Table.find_replace_self hfind
  · intro other hne
    exact Table.find_replace_of_ne orgs (by rw [hkey]; exact hne)

end Fix
