import FixBackend.AccountPersistence
import FixBackend.StackAnswers
/-!
# Redeployments — an account whose role is deployed again

`create_aws_account` moves an account with another role or external id back to the discovered state, enabled when
`_should_be_enabled` says so.  That check counts the account itself, so at the limit of the tier it switches off an
account that was within it (`redeployed_enabled_iff`).
-/
namespace Fix

open Calendar Effects StackEvents

/-- An enabled account of a workspace that pays, stored as `row` and read as `a`, is deployed with another role or
external id. -/
structure Redeployed (w : World) (workspaceId : WorkspaceId) (accountId : CloudAccountId) (roleName : AwsRoleName)
    (externalId : ExternalId) (workspace : Workspace) (row : AccountRow) (a : CloudAccount) : Prop where
  found : getWorkspace w.organizations workspaceId = some workspace
  secret : workspace.externalId = externalId
  pays : workspace.paymentOnHoldSince = none
  stored : accountOf w workspaceId accountId = some row
  read : row.toModel none = .ok a
  state : a.state.stateName = .configured ∨ a.state.stateName = .degraded ∨ a.state.stateName = .discovered
  enabled : a.state.enabled = true
  role : a.awsAccess ≠ some (externalId, roleName)

/-- The call leaves the account discovered with the role and enabled. -/
def LeftEnabled (w : World) (workspaceId : WorkspaceId) (accountId : CloudAccountId) (roleName : AwsRoleName)
    (externalId : ExternalId) (accountName : Option CloudAccountName) (id : FixCloudAccountId) : Prop :=
  ∃ result w' n, exec (createAwsAccount workspaceId accountId (some roleName) externalId accountName) w =
      (.ok result, w') ∧ w'.standing id = some (.ok (.discovered (.aws externalId roleName) true), n)

namespace Redeployed

variable {w : World} {workspaceId : WorkspaceId} {accountId : CloudAccountId} {roleName : AwsRoleName}
  {externalId : ExternalId} {workspace : Workspace} {row : AccountRow} {a : CloudAccount}

/-- **The call is the update of the account**, and it ends with the announcement. -/
theorem exec_createAwsAccount (h : Redeployed w workspaceId accountId roleName externalId workspace row a)
    (accountName : Option CloudAccountName) :
    exec (createAwsAccount workspaceId accountId (some roleName) externalId accountName) w =
      match exec (CloudAccountRepository.update row.id (discoveredAgain
          (.discovered (.aws externalId roleName) (w.belowLimit workspace)) ((truthy accountName).or a.accountName)
          a.createdAt)) w.tick with
      | (.error e, w') => (.error e, w')
      | (.ok result, w') =>
        if result.state ≠ .detected then
          exec (do
            publish (.cloudAccountDiscovered .aws result.id workspaceId accountId)
            return result) w'
        else (.ok result, w') := by
  have hfind : exec (findWorkspace workspaceId) w = (.ok (getWorkspace w.organizations workspaceId), w) := rfl
  obtain ⟨-, hid, -⟩ := AccountRow.toModel_ok h.read
  have hlive : a.state ≠ .deleted := by
    intro hdeleted
    have hstate := h.state
    rw [hdeleted] at hstate
    rcases hstate with hstate | hstate | hstate <;> cases hstate
  unfold createAwsAccount
  rw [exec_bind, hfind, h.found]
  dsimp only
  rw [if_neg (not_not.2 h.secret), exec_bind, exec_shouldBeEnabled, h.pays, Option.isNone_none,
    Bool.and_true]
  dsimp only
  have hstored : accountOf w.tick workspaceId accountId = some row := h.stored
  unfold storeAwsAccount
  rw [exec_bind, exec_bind, exec_getByAccountId, hstored]
  dsimp only
  rw [AccountRow.toModel_nextScan h.read]
  dsimp only [Except.map]
  unfold updateAwsAccount createdAgain
  dsimp only
  rw [if_neg hlive, exec_bind, exec_pure]
  dsimp only
  have hrole : ({ a with nextScan := (w.tick.nextRuns.find workspaceId).map (·.time) } : CloudAccount).awsAccess ≠
      some (externalId, roleName) := h.role
  rw [if_neg hrole, exec_bind, hid]
  cases exec (CloudAccountRepository.update row.id _) w.tick with
  | mk result w' =>
    cases result with
    | error e => rfl
    | ok result =>
      dsimp only
      rw [exec_pure]
      dsimp only
      rw [Bool.true_and]
      by_cases hstate : result.state = .detected
      · rw [if_neg (not_not.2 hstate), if_neg (by rw [hstate]; decide)]
        rfl
      · rw [if_pos hstate, if_pos (decide_eq_true hstate)]

def Takes (row : AccountRow) (roleName : AwsRoleName) (accountName : Option CloudAccountName) : Prop :=
  (row.awsRoleName = some roleName ∨ Column.awsRoleName.Takes roleName) ∧
    ∀ name, truthy accountName = some name → row.apiAccountName = some name ∨ Column.apiAccountName.Takes name

theorem takes_iff (h : Redeployed w workspaceId accountId roleName externalId workspace row a)
    {accountName : Option CloudAccountName} {enabled : Bool} {createdAt now : DateTime} {updated : CloudAccount}
    (hf : discoveredAgain (.discovered (.aws externalId roleName) enabled) ((truthy accountName).or a.accountName)
      createdAt now a = .ok updated) (t : DateTime) :
    (row.written updated t).unfit (some row) = false ↔ Takes row roleName accountName := by
  rw [unfit_discoveredAgain h.read hf]
  refine and_congr_right fun _ => ?_
  cases truthy accountName with
  | some name => exact Iff.rfl
  | none =>
    refine iff_of_true (fun name hname => .inl ?_) fun name hname => (by cases hname)
    exact AccountRow.text_toModel h.read (c := .apiAccountName) hname

/-- **An AWS account is moved**, enabled as the check says. -/
theorem exec_aws (hu : w.Unique) (h : Redeployed w workspaceId accountId roleName externalId workspace row a)
    (haws : row.cloud = .aws) {accountName : Option CloudAccountName} (htakes : Takes row roleName accountName) :
    ∃ result w' n, exec (createAwsAccount workspaceId accountId (some roleName) externalId accountName) w =
      (.ok result, w') ∧
        w'.standing row.id = some (.ok (.discovered (.aws externalId roleName) (w.belowLimit workspace)), n) := by
  obtain ⟨hfind, -, -⟩ := accountOf_some h.stored
  obtain ⟨-, -, -, hcloud, -⟩ := AccountRow.toModel_ok h.read
  obtain ⟨nextScan, updatedAt, w', hexec, hupdated⟩ := CloudAccountRepository.update_ok
    (f := discoveredAgain (.discovered (.aws externalId roleName) (w.belowLimit workspace))
      ((truthy accountName).or a.accountName) a.createdAt)
    (w := w.tick) hu hfind h.read rfl
    ⟨rfl, rfl, rfl, rfl, fun access haccess => by cases haccess; exact (hcloud.trans haws).symm,
      (h.takes_iff rfl · |>.2 htakes)⟩
  rw [h.exec_createAwsAccount accountName, hexec]
  dsimp only
  rw [if_pos nofun, exec_bind, publish, exec_modify]
  exact ⟨_, _, _, rfl, hupdated.standing⟩

/-- Texts that do not fit are refused, and an account of another cloud cannot be read with the role of an AWS account.
-/
theorem exec_other (hu : w.Unique) (h : Redeployed w workspaceId accountId roleName externalId workspace row a)
    {accountName : Option CloudAccountName} (hnot : ¬ (row.cloud = .aws ∧ Takes row roleName accountName)) :
    ∃ e w', exec (createAwsAccount workspaceId accountId (some roleName) externalId accountName) w =
      (.error e, w') := by
  obtain ⟨hfind, -, -⟩ := accountOf_some h.stored
  let f := discoveredAgain (.discovered (.aws externalId roleName) (w.belowLimit workspace))
    ((truthy accountName).or a.accountName) a.createdAt
  obtain ⟨updated, hf, hstate, hne, hidentity⟩ : ∃ updated, f w.tick.now a = .ok updated ∧ _ :=
    discoveredAgain_stored h.read h.role (w.belowLimit workspace) _ _ _
  replace hidentity := hidentity w.tick.tick.now
  rw [h.exec_createAwsAccount accountName]
  by_cases hunfit : (row.written updated w.tick.tick.now).unfit (some row) = true
  · have hrefusal : w.tick.refusal (some row) (row.written updated w.tick.tick.now) = some .dataError := if_pos hunfit
    rw [CloudAccountRepository.exec_update_refused (w := w.tick) (f := f) hfind h.read hf hne hrefusal]
    exact ⟨.dataError, _, rfl⟩
  have hfits := Bool.eq_false_of_not_eq_true hunfit
  have haws : row.cloud ≠ .aws := fun haws => hnot ⟨haws, (h.takes_iff hf w.tick.tick.now).1 hfits⟩
  rw [CloudAccountRepository.exec_update_written (w := w.tick) (f := f) hfind h.read hf hne
    (World.not_refused_of_identity (w := w.tick) hu (Table.mem_of_find hfind) hidentity hfits)]
  cases hmodel : (row.written updated w.tick.tick.now).toModel
      ((w.tick.nextRuns.find updated.workspaceId).map (·.time)) with
  | error e => exact ⟨e, _, rfl⟩
  | ok result => exact absurd (readBack_ok hstate hidentity hmodel).1 haws

end Redeployed

/-- **An account that is deployed again stays enabled**, exactly when it is an AWS account whose columns take the role
and the name and fewer accounts than the limit are stored, itself counted. -/
theorem redeployed_enabled_iff {w : World} {workspaceId : WorkspaceId} {accountId : CloudAccountId}
    {roleName : AwsRoleName} {externalId : ExternalId} {workspace : Workspace} {row : AccountRow} {a : CloudAccount}
    (hu : w.Unique) (h : Redeployed w workspaceId accountId roleName externalId workspace row a)
    (accountName : Option CloudAccountName) :
    LeftEnabled w workspaceId accountId roleName externalId accountName row.id ↔
      (row.cloud = .aws ∧ Redeployed.Takes row roleName accountName) ∧
        ∀ limit, workspace.accountLimit w.now = some limit → w.nonDeletedCount workspace.id < limit := by
  rw [← World.belowLimit_iff]
  unfold LeftEnabled
  by_cases haws : row.cloud = .aws ∧ Redeployed.Takes row roleName accountName
  · obtain ⟨result, w', n, hexec, hstanding⟩ := h.exec_aws hu haws.1 haws.2
    rw [hexec]
    constructor
    · rintro ⟨result', w'', n', hresult, hleft⟩
      cases hresult
      rw [hstanding] at hleft
      simp only [Option.some.injEq, Prod.mk.injEq, Except.ok.injEq, CloudAccountState.discovered.injEq] at hleft
      exact ⟨haws, hleft.1.2⟩
    · rintro ⟨-, hbelow⟩
      rw [hbelow] at hstanding
      exact ⟨result, w', n, rfl, hstanding⟩
  · obtain ⟨e, w', hexec⟩ := h.exec_other hu haws
    rw [hexec]
    constructor
    · rintro ⟨result, w'', n, hresult, -⟩
      cases hresult
    · exact fun hok => absurd hok.1 haws

/-! ## The only account of a workspace -/

def onlyAccount : CloudAccount :=
  newAccount 10 "111111111111" 1 .aws (.configured (.aws 2 "role") true true) none
    ⟨⟨2024, 1, 2, valid_january2⟩, 0, midnight_inDay⟩

def onlyAccountWorld (tier : ProductTier) : World :=
  { freeWorld with
    accounts := ⟨[.ofModel onlyAccount], by decide⟩
    organizations := ⟨[{ freeOrganization with tier }], by simp⟩ }

theorem onlyAccount_redeployed (tier : ProductTier) :
    Redeployed (onlyAccountWorld tier) 1 "111111111111" "role-2" 2 ({ freeOrganization with tier }.toModel none)
      (.ofModel onlyAccount) onlyAccount :=
  ⟨rfl, rfl, rfl, rfl, rfl, .inl rfl, rfl, by decide⟩

theorem onlyAccount_unique (tier : ProductTier) : (onlyAccountWorld tier).Unique := by
  unfold World.Unique
  intro r hr
  cases List.mem_singleton.1 hr
  rfl

theorem plus_stays_enabled : LeftEnabled (onlyAccountWorld .plus) 1 "111111111111" "role-2" 2 none 10 :=
  (redeployed_enabled_iff (onlyAccount_unique .plus) (onlyAccount_redeployed .plus) none).2
    ⟨⟨rfl, .inr (by decide), fun name hname => by cases hname⟩, fun limit hlimit => by cases hlimit⟩

/-- The free tier has room for the account, and a new role switches it off. -/
theorem free_switched_off : Redeployed (onlyAccountWorld .free) 1 "111111111111" "role-2" 2
      (freeOrganization.toModel none) (.ofModel onlyAccount) onlyAccount ∧
    (onlyAccountWorld .free).nonDeletedCount 1 = 1 ∧
    (freeOrganization.toModel none).accountLimit (onlyAccountWorld .free).now = some 1 ∧
    ¬ LeftEnabled (onlyAccountWorld .free) 1 "111111111111" "role-2" 2 none 10 := by
  refine ⟨onlyAccount_redeployed .free, by decide, by decide, ?_⟩
  rintro ⟨result, w', n, hexec, hstanding⟩
  have hoff : (exec (createAwsAccount 1 "111111111111" (some "role-2") 2 none) (onlyAccountWorld .free)).2.standing 10 =
      some (.ok (.discovered (.aws 2 "role-2") false), 0) := by decide +kernel
  rw [hexec] at hoff
  cases hoff.symm.trans hstanding

end Fix
