import FixBackend.Access
import FixBackend.OneTimeEmails
/-!
# TrialEnd — who may enter a workspace

`fixbackend/workspaces/dependencies.py` and `Workspace.paid_tier_access`.  The days that are left of a trial are tested
for truth before they are compared with zero, so the end of a trial locks nobody out (`paidTierAccess_iff`).
-/
namespace Fix

open Calendar Effects
open OneTimeEmailService (trialPeriodDuration)

/-! ## The dependency of the routes -/

inductive WorkspaceError where
  | workspaceNotFound
  | unauthorized
  | forbidden
  | trialEnded
  | paymentOnHold
deriving DecidableEq

def getOptionalUserWorkspace (organizations : Organizations) (workspaceId : WorkspaceId) (user : Option User)
    (now : DateTime) : Except WorkspaceError Workspace :=
  match user with
  | none => .error .unauthorized
  | some user =>
    match getWorkspace organizations workspaceId with
    | none => .error .workspaceNotFound
    | some workspace =>
      if user.id ∉ workspace.allUsers then .error .forbidden
      else if workspace.paymentOnHoldSince.isSome ∧ user.id ≠ workspace.ownerId then .error .paymentOnHold
      else if !workspace.paidTierAccess user.id now then .error .trialEnded
      else .ok workspace

/-- The answer of `get_user_workspace` to an error. -/
def WorkspaceError.httpException : WorkspaceError → HttpException
  | unauthorized => ⟨401, .text "unauthorized"⟩
  | workspaceNotFound => ⟨404, .text "workspace_not_found"⟩
  | forbidden => ⟨403, .text "not_a_workspace_member"⟩
  | trialEnded => ⟨403, .text "trial_ended"⟩
  | paymentOnHold => ⟨403, .text "workspace_payment_on_hold"⟩

/-- **A request to a workspace** has the workspace of the dependency, or the answer to its error. -/
theorem exec_getUserWorkspace (workspaceId : WorkspaceId) (user : User) (now : DateTime) (st : AccessStore) :
    exec (getUserWorkspace workspaceId user now) st =
      ((getOptionalUserWorkspace st.organizations workspaceId (some user) now).mapError fun e =>
        .http e.httpException, st) := by
  unfold getUserWorkspace getOptionalUserWorkspace refuse
  rw [exec_bind, exec_get]
  dsimp only
  cases getWorkspace st.organizations workspaceId with
  | none => rfl
  | some workspace =>
    dsimp only
    split
    · rfl
    · split
      · rfl
      · split <;> rfl

/-! ## Who has access -/

def Workspace.trialOver (w : Workspace) (now : DateTime) : Prop :=
  w.currentProductTier now = .trial ∧ w.createdAt.addMicros trialPeriodDuration ≤ now ∧ w.subscriptionId = none

/-- Who is meant to have access: the owner, and the others while the workspace pays or is in its trial. -/
def Workspace.MayEnter (w : Workspace) (userId : UserId) (now : DateTime) : Prop :=
  userId = w.ownerId ∨ w.paymentOnHoldSince = none ∧ ¬ w.trialOver now

/-- **Access is a matter of the owner and of the payment alone.** -/
theorem paidTierAccess_iff {w : Workspace} {userId : UserId} {now : DateTime} :
    w.paidTierAccess userId now = true ↔ userId = w.ownerId ∨ w.paymentOnHoldSince = none := by
  unfold Workspace.paidTierAccess
  split
  · rename_i howner
    simp [howner]
  · rename_i howner
    split
    · rename_i hhold
      simp only [howner, false_or, Bool.false_eq_true, false_iff]
      exact Option.isSome_iff_ne_none.1 hhold
    · rename_i hhold
      have hnone : w.paymentOnHoldSince = none := Option.not_isSome_iff_eq_none.1 hhold
      rw [hnone]
      simp only [or_true, iff_true]
      -- a number of days that is true is not zero
      split
      · split
        · rename_i hdays
          rw [decide_eq_false hdays, Bool.false_and, Bool.not_false]
        · rfl
      · rfl

/-- **The dependency returns the workspace** to its users with access, and to nobody else. -/
theorem getOptionalUserWorkspace_eq_ok {organizations : Organizations} {workspaceId : WorkspaceId} {user : Option User}
    {now : DateTime} {workspace : Workspace} :
    getOptionalUserWorkspace organizations workspaceId user now = .ok workspace ↔
      ∃ u, user = some u ∧ getWorkspace organizations workspaceId = some workspace ∧ u.id ∈ workspace.allUsers ∧
        workspace.paidTierAccess u.id now = true := by
  unfold getOptionalUserWorkspace
  cases user with
  | none => simp
  | some user =>
    cases getWorkspace organizations workspaceId with
    | none => simp
    | some found =>
      simp only [Option.some.injEq, exists_eq_left']
      split
      · rename_i hmember
        constructor
        · exact nofun
        · rintro ⟨rfl, hin, -⟩
          exact absurd hin hmember
      · rename_i hmember
        split
        · rename_i hhold
          constructor
          · exact nofun
          · rintro ⟨rfl, -, haccess⟩
            rcases paidTierAccess_iff.1 haccess with howner | hnone
            · exact absurd howner hhold.2
            · rw [hnone] at hhold
              exact absurd hhold.1 Bool.false_ne_true
        · split
          · rename_i haccess
            constructor
            · exact nofun
            · rintro ⟨rfl, -, hyes⟩
              rw [hyes] at haccess
              exact absurd haccess Bool.false_ne_true
          · rename_i haccess
            simp only [Except.ok.injEq]
            constructor
            · rintro rfl
              exact ⟨rfl, not_not.1 hmember, by simpa using haccess⟩
            · exact fun h => h.1

/-- **Nobody is told that the trial has ended.** -/
theorem getOptionalUserWorkspace_ne_trialEnded (organizations : Organizations) (workspaceId : WorkspaceId)
    (user : Option User) (now : DateTime) :
    getOptionalUserWorkspace organizations workspaceId user now ≠ .error .trialEnded := by
  unfold getOptionalUserWorkspace
  cases user with
  | none => nofun
  | some user =>
    cases getWorkspace organizations workspaceId with
    | none => nofun
    | some workspace =>
      dsimp only
      split
      · nofun
      · split
        · nofun
        · rename_i hhold
          have haccess : workspace.paidTierAccess user.id now = true := by
            rw [paidTierAccess_iff]
            by_contra hnot
            obtain ⟨howner, hsome⟩ := not_or.1 hnot
            exact hhold ⟨Option.isSome_iff_ne_none.2 hsome, howner⟩
          rw [haccess]
          nofun

/-- **Members are locked out of an ended trial**, exactly where there is none: for the owner, on payment hold, before
the end of the trial, in another tier or with a subscription.  To whom the workspace is returned follows the access. -/
theorem lockedOut_iff (w : Workspace) (userId : UserId) (now : DateTime) :
    ((w.paidTierAccess userId now = true ↔ w.MayEnter userId now) ∧
      ∀ organizations workspaceId user workspace,
        getOptionalUserWorkspace organizations workspaceId user now = .ok workspace ↔
          ∃ u, user = some u ∧ getWorkspace organizations workspaceId = some workspace ∧ u.id ∈ workspace.allUsers ∧
            workspace.paidTierAccess u.id now = true) ↔
      userId = w.ownerId ∨ w.paymentOnHoldSince ≠ none ∨ ¬ w.trialOver now := by
  rw [and_iff_left fun _ _ _ _ => getOptionalUserWorkspace_eq_ok, paidTierAccess_iff]
  unfold Workspace.MayEnter
  tauto

/-! ## A trial of long ago -/

def endedTrial : Workspace where
  id := 1
  slug := "acme"
  name := "acme"
  externalId := 2
  ownerId := 3
  members := [3, 4]
  selectedProductTier := .trial
  createdAt := ⟨⟨2024, 1, 1, valid_newYear⟩, 0, midnight_inDay⟩
  updatedAt := ⟨⟨2024, 1, 1, valid_newYear⟩, 0, midnight_inDay⟩
  subscriptionId := none
  paymentOnHoldSince := none
  highestCurrentCycleTier := none
  currentCycleEndsAt := none
  moveToFreeAcknowledgedAt := none
  tierUpdatedAt := none

/-- A member without a subscription enters in March. -/
theorem endedTrial_entered :
    endedTrial.paidTierAccess 4 ⟨⟨2024, 3, 1, by decide⟩, 0, by decide⟩ = true ∧
      ¬ endedTrial.MayEnter 4 ⟨⟨2024, 3, 1, by decide⟩, 0, by decide⟩ := by
  unfold Workspace.MayEnter Workspace.trialOver
  decide +kernel

end Fix
