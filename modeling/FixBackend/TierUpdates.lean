import FixBackend.BillingUpdates
import FixBackend.TierCycle
/-!
# TierUpdates — when a change of the tier takes effect

`update_billing` compares the tier it is asked for with the tier in force, which within a cycle is the highest seen, and
the repository stores the tier that is selected.  A tier that was given up within the cycle is still in force, so asking
for it again returns normally and writes nothing.
-/
namespace Fix

open Calendar Effects

namespace BillingEntryService

/-- The tier is stored as the selected one, and is the tier of the workspace once the cycle is over. -/
def TakesEffect (workspaceId : WorkspaceId) (tier : ProductTier) (p : Payments) : Prop :=
  ∃ o, p.world.organizations.find workspaceId = some o ∧ o.tier = tier ∧
    ∀ t, (∀ cycleEnd, o.currentCycleEndsAt = some cycleEnd → cycleEnd ≤ t) →
      (o.toModel none).currentProductTier t = tier

def selectedTier (p : Payments) (workspaceId : WorkspaceId) : Option ProductTier :=
  (p.world.organizations.find workspaceId).map (·.tier)

theorem selectedTier_ticked (p : Payments) (n : Nat) (workspaceId : WorkspaceId) :
    selectedTier (p.ticked n) workspaceId = selectedTier p workspaceId := rfl

theorem currentProductTier_after {w : Workspace} {t : DateTime}
    (h : ∀ cycleEnd, w.currentCycleEndsAt = some cycleEnd → cycleEnd ≤ t) :
    w.currentProductTier t = w.selectedProductTier := by
  refine currentProductTier_of_not_running (Or.inl ?_)
  rintro ⟨cycleEnd, hend, ht⟩
  exact absurd ht (Nat.not_lt.2 (h cycleEnd hend))

theorem takesEffect_iff {workspaceId : WorkspaceId} {tier : ProductTier} {p : Payments} :
    TakesEffect workspaceId tier p ↔ selectedTier p workspaceId = some tier := by
  unfold TakesEffect selectedTier
  constructor
  · rintro ⟨o, ho, htier, -⟩
    rw [ho, Option.map_some, htier]
  · intro h
    obtain ⟨o, ho, htier⟩ := Option.map_eq_some_iff.1 h
    refine ⟨o, ho, htier, fun t hend => ?_⟩
    have hafter : (o.toModel none).currentProductTier t = o.tier := currentProductTier_after hend
    rw [hafter, htier]

theorem selectedTier_withOrganization {p : Payments} {workspaceId : WorkspaceId} {o : Organization}
    (hfind : p.world.organizations.find workspaceId = some o) (subscriptionId : Option SubscriptionId) :
    selectedTier (withOrganization p { o with subscriptionId := subscriptionId }) workspaceId =
      selectedTier p workspaceId := by
  let linked : Organization := { o with subscriptionId := subscriptionId }
  have hlinked : (withOrganization p linked).world.organizations.find workspaceId = some linked :=
    find_withOrganization hfind rfl
  unfold selectedTier
  rw [hlinked, hfind, Option.map_some, Option.map_some]

theorem updatePaymentMethod_selectedTier {workspace updated : Workspace} {methods : WorkspacePaymentMethods}
    {m : PaymentMethod} {p p' : Payments}
    (h : exec (updatePaymentMethod workspace methods m) p = (.ok updated, p')) :
    updated.id = workspace.id ∧ selectedTier p' workspace.id = selectedTier p workspace.id := by
  rcases updatePaymentMethod_cases workspace methods m p with
    ⟨-, hexec⟩ | ⟨-, e, hexec⟩ | ⟨sid, o, -, -, hid, hfind, hexec⟩
  · cases hexec.symm.trans h
    exact ⟨rfl, rfl⟩
  · cases hexec.symm.trans h
  · cases hexec.symm.trans h
    exact ⟨hid, selectedTier_withOrganization hfind _⟩

/-- **The tier is written exactly when it is not the tier in force.** -/
theorem updateProductTier_selectedTier {userId : Option UserId} {workspace updated : Workspace}
    {currentTier tier : ProductTier} {p p' : Payments}
    (h : exec (updateProductTier userId workspace currentTier tier) p = (.ok updated, p')) :
    selectedTier p' workspace.id = if tier = currentTier then selectedTier p workspace.id else some tier := by
  rcases updateProductTier_cases userId workspace currentTier tier p with
    ⟨hsame, hexec⟩ | ⟨-, e, hexec⟩ | ⟨o, o', q, hother, hfind, hsel, hafter, hexec⟩
  · cases hexec.symm.trans h
    rw [if_pos hsame]
  · cases hexec.symm.trans h
  · cases hexec.symm.trans h
    have htier : o'.tier = tier := by
      unfold Organization.selectTier at hsel
      split at hsel
      · cases hsel
      · cases hsel
        rfl
    rw [if_neg hother]
    unfold selectedTier
    rw [hafter, Option.map_some, htier]

theorem updateBilling_selectedTier {userId : Option UserId} {workspace updated : Workspace} {tier : ProductTier}
    {method : Option PaymentMethod} {p p' : Payments}
    (h : exec (updateBilling userId workspace (some tier) method) p = (.ok updated, p')) :
    selectedTier p' workspace.id =
      if tier = workspace.currentProductTier (p.world.clock p.world.ticks) then selectedTier p workspace.id
      else some tier := by
  rw [exec_updateBilling] at h
  cases hchecked : checked p userId workspace (some tier) method with
  | error e =>
    rw [hchecked] at h
    cases h
  | ok methods =>
  rw [hchecked] at h
  dsimp only at h
  unfold write at h
  rw [exec_bind] at h
  cases method with
  | none =>
    have htier : exec
        (updateProductTier userId workspace (workspace.currentProductTier (p.world.clock p.world.ticks)) tier)
      (p.ticked 3) = (.ok updated, p') := h
    rw [updateProductTier_selectedTier htier, selectedTier_ticked]
  | some m =>
    dsimp only [whenGiven] at h
    rcases hpaid : exec (updatePaymentMethod workspace methods m) (p.ticked 3) with ⟨e | written, q⟩
    · rw [hpaid] at h
      cases h
    · rw [hpaid] at h
      -- the row that is written next is the row of the same workspace, its tier not touched yet
      obtain ⟨hid, htier⟩ := updatePaymentMethod_selectedTier hpaid
      have hwritten := updateProductTier_selectedTier h
      rw [hid, htier, selectedTier_ticked] at hwritten
      exact hwritten

/-- **When a change of the tier takes effect**: when the tier is not the one in force, or is stored already. -/
theorem updateBilling_takesEffect_iff {userId : Option UserId} {workspace updated : Workspace} {tier : ProductTier}
    {method : Option PaymentMethod} {p p' : Payments}
    (h : exec (updateBilling userId workspace (some tier) method) p = (.ok updated, p')) :
    TakesEffect workspace.id tier p' ↔
      tier ≠ workspace.currentProductTier (p.world.clock p.world.ticks) ∨ selectedTier p workspace.id = some tier := by
  rw [takesEffect_iff, updateBilling_selectedTier h]
  by_cases hsame : tier = workspace.currentProductTier (p.world.clock p.world.ticks)
  · rw [if_pos hsame]
    exact ⟨Or.inr, fun h => h.resolve_left fun hne => hne hsame⟩
  · rw [if_neg hsame]
    exact ⟨fun _ => Or.inl hsame, fun _ => rfl⟩

theorem updateBilling_takesEffect_business : TakesEffect 1 .business
    (exec (updateBilling (some 11) ((plusOrganization 1).toModel none) (some .business) none) marchPayments).2 :=
  (@updateBilling_takesEffect_iff (some 11) ((plusOrganization 1).toModel none) _ .business none marchPayments _ rfl).2
    (Or.inl (by decide +kernel))

/-! ## A tier given up and asked for again -/

def tierRequested (tier : ProductTier) (p : Payments) : Payments :=
  match getWorkspace p.world.organizations 1 with
  | none => p
  | some workspace => (exec (updateBilling (some 11) workspace (some tier) none) p).2

/-- Workspace 1 went up to Business and down to Free, within one cycle. -/
def downgradedPayments : Payments := tierRequested .free (tierRequested .business marchPayments)

def downgradedWorkspace : Workspace := (getWorkspace downgradedPayments.world.organizations 1).get (by decide +kernel)

theorem tier_regained_not_stored : ¬∀ updated p',
    exec (updateBilling (some 11) downgradedWorkspace (some .business) none) downgradedPayments = (.ok updated, p') →
    TakesEffect 1 .business p' := by
  intro h
  have hok : (exec (updateBilling (some 11) downgradedWorkspace (some .business) none) downgradedPayments).1 =
    .ok downgradedWorkspace := by decide +kernel
  have hstored := takesEffect_iff.1 (h _ _ (Prod.ext hok rfl))
  revert hstored
  decide +kernel

end BillingEntryService

end Fix
