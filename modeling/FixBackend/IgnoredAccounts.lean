import FixBackend.AccountStandings
/-!
# IgnoredAccounts — the accounts whose findings are not reported

An account is ignored when it is configured and enabled but not scanned.  A call that changes what is ignored in a
workspace is one of the toggles, which announce it, or ends or begins with an ignored account.
-/
namespace Fix

open Calendar Effects

/-! ## Ignored accounts -/

def CloudAccountState.ignored : CloudAccountState → Bool
  | .configured _ enabled scan => enabled && !scan
  | _ => false

def AccountRow.ignored (r : AccountRow) : Bool := CloudAccountRepository.readyForCollection r && !r.scan

def World.Ignores (w : World) (workspaceId : WorkspaceId) (accountId : CloudAccountId) : Prop :=
  ∃ id r, w.accounts.find id = some r ∧ r.ignored = true ∧ r.tenantId = workspaceId ∧ r.accountId = accountId

/-- The access of a state that is stored: that of the account's cloud when it is configured, one of AWS when it is
discovered. -/
def CloudAccountState.Fits (cloud : CloudName) : CloudAccountState → Prop
  | .configured access _ _ => access.cloud = cloud
  | .discovered access _ => access.cloud = .aws
  | _ => True

/-- A row as the service writes it: its state is set, a configured account can be read, and a discovered one has no
access of another cloud than AWS. -/
structure AccountRow.Sound (r : AccountRow) : Prop where
  state : r.state ≠ none
  configured : r.state = some .configured → ∃ access, r.access = .ok access
  discovered : r.state = some .discovered → r.gcpServiceAccountKeyId = none ∧ r.azureCredentialId = none

def World.Sound (w : World) : Prop := ∀ id r, w.accounts.find id = some r → r.Sound

theorem AccountRow.Sound.stateName {r : AccountRow} (h : r.Sound) : r.state = some r.stateName := by
  unfold AccountRow.stateName
  cases hstate : r.state with
  | none => exact absurd hstate h.state
  | some name => rfl

theorem AccountRow.ignored_updateStateDependentFields (r : AccountRow) (state : CloudAccountState) :
    (r.updateStateDependentFields state).ignored = state.ignored := by
  cases state <;> rfl

theorem AccountRow.sound_updateStateDependentFields {r : AccountRow} {state : CloudAccountState}
    (h : state.Fits r.cloud) : (r.updateStateDependentFields state).Sound := by
  refine ⟨nofun, fun hstate => ?_, fun hstate => ?_⟩
  · cases state with
    | configured access enabled scan => exact ⟨access, access_updateStateDependentFields rfl h⟩
    | detected | discovered | degraded | deleted => cases hstate
  · cases state with
    | discovered access enabled =>
      cases access with
      | aws => exact ⟨rfl, rfl⟩
      | gcp | azure => cases h
    | detected | configured | degraded | deleted => cases hstate

section Read

variable {r : AccountRow} {nextScan : Option DateTime} {a : CloudAccount}

theorem AccountRow.toModel_ignored (hr : r.Sound) (h : r.toModel nextScan = .ok a) : a.state.ignored = r.ignored := by
  have hstate := (AccountRow.toModel_ok h).1
  have hname := hr.stateName.trans (congrArg some (AccountRow.accountState_ok hstate))
  unfold AccountRow.ignored CloudAccountRepository.readyForCollection
  rw [hname]
  cases hs : a.state with
  | configured access enabled scan =>
    rw [hs] at hstate
    obtain ⟨-, -, -, henabled, hscan⟩ := AccountRow.accountState_settings hstate (.inl rfl)
    rw [henabled, hscan]
    rfl
  | detected | discovered | degraded | deleted => rfl

theorem AccountRow.toModel_fits (hr : r.Sound) (h : r.toModel nextScan = .ok a) : a.state.Fits a.cloud := by
  obtain ⟨hstate, -, -, hcloud, -⟩ := AccountRow.toModel_ok h
  have hname := hr.stateName.trans (congrArg some (AccountRow.accountState_ok hstate))
  cases hs : a.state with
  | configured access enabled scan =>
    rw [hs] at hstate
    exact (AccountRow.accountState_cloud hstate rfl).trans hcloud.symm
  | discovered access enabled =>
    rw [hs] at hstate hname
    obtain ⟨hgcp, hazure⟩ := hr.discovered hname
    have haccess : r.access = .ok access := by
      unfold AccountRow.accountState at hstate
      rw [AccountRow.accountState_ok hstate] at hstate
      cases hread : r.access <;> rw [hread] at hstate <;> cases hstate
      rfl
    show access.cloud = .aws
    rw [AccountRow.access_cloud haccess]
    unfold AccountRow.access at haccess
    cases hrow : r.cloud with
    | aws => rfl
    | gcp => rw [hrow, hgcp] at haccess; cases haccess
    | azure => rw [hrow, hazure] at haccess; cases haccess
  | detected | degraded | deleted => trivial

theorem AccountRow.toModel_discovered (hr : r.Sound) (h : r.toModel nextScan = .ok a) {access : CloudAccess}
    {enabled : Bool} (hs : a.state = .discovered access enabled) : a.cloud = .aws := by
  obtain ⟨hstate, -, -, hcloud, -⟩ := AccountRow.toModel_ok h
  have hfits := AccountRow.toModel_fits hr h
  rw [hs] at hfits hstate
  rw [hcloud, ← AccountRow.accountState_cloud hstate rfl]
  exact hfits

end Read

/-! ## Invariants of what is ignored -/

/-- A change of an account that leaves what is ignored as it was. -/
structure CloudAccount.Alike (a updated : CloudAccount) : Prop where
  workspaceId : updated.workspaceId = a.workspaceId
  accountId : updated.accountId = a.accountId
  cloud : updated.cloud = a.cloud
  ignored : updated.state.ignored = a.state.ignored
  fits : updated.state.Fits a.cloud

/-- An invariant of sound accounts that reads what is ignored. -/
structure IgnoreInvariant (I : World → Prop) : Prop where
  sound : ∀ w, I w → w.Sound
  reads : ∀ w w' : World, w'.accounts = w.accounts → I w → I w'
  commit : ∀ w row a updated updatedAt, I w → w.accounts.find row.id = some row → row.toModel none = .ok a →
    a.Alike updated → I (w.commit row (row.written updated updatedAt))
  insert : ∀ w a (h : w.accounts.find (AccountRow.ofModel a).id = none), I w → a.state.ignored = false →
    a.state.Fits a.cloud → I (w.insert (.ofModel a) h)

/-- The workspaces ignore what `T` says, and nothing else. -/
def Settled (T : WorkspaceId → CloudAccountId → Prop) (w : World) : Prop :=
  w.Sound ∧ ∀ workspaceId accountId, w.Ignores workspaceId accountId ↔ T workspaceId accountId

section Commit

variable {w : World} {row : AccountRow} {a updated : CloudAccount} {updatedAt : DateTime}

theorem AccountRow.ignored_written (row : AccountRow) (updated : CloudAccount) (updatedAt : DateTime) :
    (row.written updated updatedAt).ignored = updated.state.ignored := by
  cases hs : updated.state <;>
    simp [AccountRow.ignored, AccountRow.written, AccountRow.assign, AccountRow.updateStateDependentFields,
      CloudAccountRepository.readyForCollection, hs, CloudAccountState.ignored]

theorem World.find_commit_self (h : w.accounts.find row.id = some row) :
    (w.commit row (row.written updated updatedAt)).accounts.find row.id = some (row.written updated updatedAt) :=
  World.find_commit h (AccountRow.written_id ..)

theorem World.find_commit_of_ne {id : FixCloudAccountId} (hid : id ≠ row.id) :
    (w.commit row (row.written updated updatedAt)).accounts.find id = w.accounts.find id :=
  Table.find_replace_of_ne _ (by rw [AccountRow.written_id]; exact hid)

theorem World.Sound.commit (hw : w.Sound) (h : w.accounts.find row.id = some row)
    (hfits : updated.state.Fits updated.cloud) :
    (w.commit row (row.written updated updatedAt)).Sound := by
  intro id r hr
  by_cases hid : id = row.id
  · subst hid
    rw [World.find_commit_self h] at hr
    cases hr
    have hsound : ((row.assign updated updatedAt)).Sound := AccountRow.sound_updateStateDependentFields hfits
    exact ⟨hsound.state, hsound.configured, hsound.discovered⟩
  · rw [World.find_commit_of_ne hid] at hr
    exact hw id r hr

theorem World.ignores_commit (h : w.accounts.find row.id = some row) (workspaceId : WorkspaceId)
    (accountId : CloudAccountId) :
    (w.commit row (row.written updated updatedAt)).Ignores workspaceId accountId ↔
      (updated.state.ignored = true ∧ updated.workspaceId = workspaceId ∧ updated.accountId = accountId) ∨
        ∃ id r, id ≠ row.id ∧ w.accounts.find id = some r ∧ r.ignored = true ∧ r.tenantId = workspaceId ∧
          r.accountId = accountId := by
  constructor
  · rintro ⟨id, r, hr, hignored⟩
    by_cases hid : id = row.id
    · subst hid
      rw [World.find_commit_self h] at hr
      cases hr
      rw [AccountRow.ignored_written] at hignored
      exact .inl hignored
    · rw [World.find_commit_of_ne hid] at hr
      exact .inr ⟨id, r, hid, hr, hignored⟩
  · rintro (hignored | ⟨id, r, hid, hr, hignored⟩)
    · refine ⟨row.id, _, World.find_commit_self h, ?_⟩
      rw [AccountRow.ignored_written]
      exact hignored
    · exact ⟨id, r, (World.find_commit_of_ne hid).trans hr, hignored⟩

theorem World.ignores_split (h : w.accounts.find row.id = some row) (workspaceId : WorkspaceId)
    (accountId : CloudAccountId) : w.Ignores workspaceId accountId ↔
      (row.ignored = true ∧ row.tenantId = workspaceId ∧ row.accountId = accountId) ∨
        ∃ id r, id ≠ row.id ∧ w.accounts.find id = some r ∧ r.ignored = true ∧ r.tenantId = workspaceId ∧
          r.accountId = accountId := by
  constructor
  · rintro ⟨id, r, hr, hignored⟩
    by_cases hid : id = row.id
    · subst hid
      rw [h] at hr
      cases hr
      exact .inl hignored
    · exact .inr ⟨id, r, hid, hr, hignored⟩
  · rintro (hignored | ⟨id, r, -, hr, hignored⟩)
    · exact ⟨row.id, row, h, hignored⟩
    · exact ⟨id, r, hr, hignored⟩

theorem ignoreInvariant_settled (T : WorkspaceId → CloudAccountId → Prop) : IgnoreInvariant (Settled T) where
  sound _ h := h.1
  reads w w' haccounts h := by
    unfold Settled World.Sound World.Ignores
    rw [haccounts]
    exact h
  commit w row a updated updatedAt h hfind hmodel halike := by
    refine ⟨h.1.commit hfind (halike.cloud ▸ halike.fits), fun workspaceId accountId => ?_⟩
    obtain ⟨-, -, hworkspace, -, haccount⟩ := AccountRow.toModel_ok hmodel
    rw [← h.2 workspaceId accountId, World.ignores_commit hfind, World.ignores_split hfind, halike.ignored,
      AccountRow.toModel_ignored (h.1 _ row hfind) hmodel, halike.workspaceId, halike.accountId, hworkspace, haccount]
  insert w a hnone h hignored hfits := by
    have hrow : (AccountRow.ofModel a).ignored = false :=
      (AccountRow.ignored_updateStateDependentFields _ a.state).trans hignored
    have hself := Table.find_insert_self w.accounts (AccountRow.ofModel a) hnone
    refine ⟨fun id r hr => ?_, fun workspaceId accountId => (Iff.trans ⟨?_, ?_⟩ (h.2 workspaceId accountId))⟩
    · by_cases hid : id = (AccountRow.ofModel a).id
      · subst hid
        cases hself.symm.trans hr
        exact AccountRow.sound_updateStateDependentFields hfits
      · exact h.1 id r ((Table.find_insert_of_ne _ _ hnone hid).symm.trans hr)
    · rintro ⟨id, r, hr, hr'⟩
      by_cases hid : id = (AccountRow.ofModel a).id
      · subst hid
        cases hself.symm.trans hr
        rw [hrow] at hr'
        cases hr'.1
      · exact ⟨id, r, (Table.find_insert_of_ne _ _ hnone hid).symm.trans hr, hr'⟩
    · rintro ⟨id, r, hr, hr'⟩
      by_cases hid : id = (AccountRow.ofModel a).id
      · subst hid
        cases hnone.symm.trans hr
      · exact ⟨id, r, (Table.find_insert_of_ne _ _ hnone hid).trans hr, hr'⟩

end Commit

/-! ## Closures that leave what is ignored as it was -/

section Closures

variable {a updated : CloudAccount} {now : DateTime}

theorem alike_of_state (hfits : a.state.Fits a.cloud) (hworkspace : updated.workspaceId = a.workspaceId)
    (haccount : updated.accountId = a.accountId) (hcloud : updated.cloud = a.cloud) (hstate : updated.state = a.state) :
    a.Alike updated := ⟨hworkspace, haccount, hcloud, by rw [hstate], by rw [hstate]; exact hfits⟩

theorem alike_renamed {name : Option CloudAccountName} {created : DateTime} (hfits : a.state.Fits a.cloud)
    (h : renamed name created now a = .ok updated) : a.Alike updated := by
  cases h
  exact alike_of_state hfits rfl rfl rfl rfl

theorem alike_discoveredAgain {access : CloudAccess} {enabled : Bool} {name : Option CloudAccountName}
    {created : DateTime} (haccess : access.cloud = .aws) (hignored : a.state.ignored = false)
    (h : discoveredAgain (.discovered access enabled) name created now a = .ok updated) : a.Alike updated := by
  cases h
  exact ⟨rfl, rfl, rfl, hignored.symm, haccess⟩

theorem alike_setDegraded {error : String} (hfits : a.state.Fits a.cloud) (hignored : a.state.ignored = false)
    (h : setDegraded error now a = .ok updated) : a.Alike updated := by
  cases h
  cases haccess : a.state.cloudAccess with
  | none => exact alike_of_state hfits rfl rfl rfl rfl
  | some access => exact ⟨rfl, rfl, rfl, hignored.symm, trivial⟩

/-- An account comes back ignored when it is enabled but not scanned. -/
theorem alike_setConfigured {access : CloudAccess} {enabled scan : Bool} {error : String}
    (hstate : a.state = .degraded access enabled scan error) (haccess : access.cloud = a.cloud)
    (hscan : enabled = true → scan = true) (h : setConfigured now a = .ok updated) : a.Alike updated := by
  cases h
  rw [hstate]
  refine ⟨rfl, rfl, rfl, ?_, haccess⟩
  show (enabled && !scan) = a.state.ignored
  rw [hstate]
  cases enabled with
  | false => rfl
  | true => rw [hscan rfl]; rfl

theorem alike_updateToConfigured {access : CloudAccess} {privileged : Bool} (haccess : access.cloud = a.cloud)
    (h : updateToConfigured access privileged now a = .ok updated) : a.Alike updated := by
  unfold updateToConfigured at h
  cases hstate : a.state with
  | discovered stored enabled =>
    rw [hstate] at h
    cases h
    refine ⟨rfl, rfl, rfl, ?_, haccess⟩
    show (enabled && !enabled) = a.state.ignored
    rw [hstate, Bool.and_not_self]
    rfl
  | detected | configured | degraded | deleted => rw [hstate] at h; cases h

theorem alike_setDeleted (hignored : a.state.ignored = false) (h : setDeleted now a = .ok updated) :
    a.Alike updated := by
  cases h
  exact ⟨rfl, rfl, rfl, hignored.symm, trivial⟩

end Closures

/-! ## Calls that leave what is ignored as it was -/

namespace IgnoreInvariant

variable {I P : World → Prop}

theorem framed (hI : IgnoreInvariant I) : Framed I := fun w w' haccounts _ _ _ h => hI.reads w w' haccounts h

/-- **An update leaves what is ignored as it was** when its closure does. -/
theorem update (hI : IgnoreInvariant I) (hP : Framed P) (hPI : ∀ w, P w → I w) {id : FixCloudAccountId}
    {f : DateTime → CloudAccount → Except Err CloudAccount}
    (hf : ∀ w row a now updated, P w → w.accounts.find id = some row → row.toModel none = .ok a →
      f now a = .ok updated → a.Alike updated) :
    Triple P (CloudAccountRepository.update id f) (fun _ => I) I := by
  refine CloudAccountRepository.triple_update hP hPI fun w row a now updated updatedAt hw hfind hmodel _ hok => ?_
  obtain rfl : row.id = id := Table.key_of_find hfind
  exact hI.commit w row a updated updatedAt (hPI w hw) hfind hmodel (hf w row a now updated hw hfind hmodel hok)

theorem publish (hI : IgnoreInvariant I) (e : DomainEvent) : Keeps I (Fix.publish e) := keeps_publish hI.framed e

theorem get (id : FixCloudAccountId) : Triple P (CloudAccountRepository.get id)
    (fun found w => P w ∧ ∀ a, found = some a → ∃ row nextScan, w.accounts.find id = some row ∧
      row.toModel nextScan = .ok a) P := by
  intro w hw
  constructor
  · intro found w' h
    obtain rfl : w' = w := by rw [← CloudAccountRepository.get_reads id w, h]
    refine ⟨hw, fun a ha => ?_⟩
    subst ha
    exact (CloudAccountRepository.get_ok h).2
  · intro e w' h
    rw [show w' = w by rw [← CloudAccountRepository.get_reads id w, h]]
    exact hw

theorem renameAccount (hI : IgnoreInvariant I) (workspaceId : WorkspaceId) (existing : CloudAccount)
    (name : Option CloudAccountName) (created : DateTime) :
    Keeps I (Fix.renameAccount workspaceId existing name created) := by
  refine Keeps.bind (hI.update hI.framed (fun _ h => h) fun w row a now updated hw hfind hmodel h => ?_) fun result =>
    ?_
  · exact alike_renamed (AccountRow.toModel_fits (hI.sound w hw _ row hfind) hmodel) h
  · dsimp only
    split
    · exact Keeps.bind (hI.publish _) fun _ => Keeps.pure _
    · exact Keeps.pure _

theorem updateAwsAccount (hI : IgnoreInvariant I) (workspaceId : WorkspaceId) (existing : CloudAccount)
    (roleName : Option AwsRoleName) (externalId : ExternalId) (accountName : Option CloudAccountName) (enabled : Bool)
    {row : AccountRow}
    (hsame : row.ignored = true → ∀ name ∈ roleName, existing.awsAccess = some (externalId, name)) :
    Triple (fun w => I w ∧ w.accounts.find existing.id = some row)
      (Fix.updateAwsAccount workspaceId existing roleName externalId accountName enabled) (fun _ => I) I := by
  have hframed : Framed fun w => I w ∧ w.accounts.find existing.id = some row := by
    rintro w w' haccounts - - - ⟨hw, hfind⟩
    exact ⟨hI.reads w w' haccounts hw, haccounts ▸ hfind⟩
  have hcreated : Triple (fun w => I w ∧ w.accounts.find existing.id = some row) (createdAgain existing)
      (fun _ w => I w ∧ w.accounts.find existing.id = some row) I := by
    unfold createdAgain
    split
    · exact (keeps_utc hframed).imp (fun _ h => h) (fun _ _ h => h) fun _ h => h.1
    · exact Triple.pure _ fun _ h => h
  have hrename : ∀ created, Triple (fun w => I w ∧ w.accounts.find existing.id = some row)
      (do
        let result ← Fix.renameAccount workspaceId existing ((truthy accountName).or existing.accountName) created
        return (result, false)) (fun _ => I) I := fun created =>
    Triple.bind ((hI.renameAccount workspaceId existing _ created).imp (fun _ h => h.1) (fun _ _ h => h) fun _ h => h)
      fun _ => Keeps.pure _
  refine Triple.bind hcreated fun created => ?_
  cases roleName with
  | none => exact hrename created
  | some roleName =>
    dsimp only
    split
    · exact hrename created
    · next haccess =>
      refine Triple.bind (hI.update hframed (fun _ h => h.1) fun w stored a now updated hw hfind hread h => ?_) fun _ =>
        Keeps.pure _
      cases hw.2.symm.trans hfind
      refine alike_discoveredAgain rfl ?_ h
      rw [AccountRow.toModel_ignored (hI.sound w hw.1 _ row hfind) hread]
      cases hignored : row.ignored with
      | false => rfl
      | true => exact absurd (hsame hignored roleName rfl) haccess

/-- An ignored account of the workspace with the account id is created again with the access that it has. -/
def KeepsAccess (workspaceId : WorkspaceId) (accountId : CloudAccountId) (roleName : Option AwsRoleName)
    (externalId : ExternalId) (w : World) : Prop :=
  ∀ r ∈ w.accounts.rows, r.tenantId = workspaceId → r.accountId = accountId → r.ignored = true →
    ∀ name ∈ roleName, r.access = .ok (.aws externalId name)

theorem keepsAccess_none (workspaceId : WorkspaceId) (accountId : CloudAccountId)
    (externalId : ExternalId) (w : World) :
    KeepsAccess workspaceId accountId none externalId w :=
  fun _ _ _ _ _ name hname => absurd hname (Option.not_mem_none name)

theorem awsAccess_of_ignored {row : AccountRow} {nextScan : Option DateTime} {a : CloudAccount}
    {externalId : ExternalId}
    {name : AwsRoleName} (hsound : row.Sound) (hmodel : row.toModel nextScan = .ok a) (hignored : row.ignored = true)
    (haccess : row.access = .ok (.aws externalId name)) : a.awsAccess = some (externalId, name) := by
  rw [← AccountRow.toModel_ignored hsound hmodel] at hignored
  have hstate := (AccountRow.toModel_ok hmodel).1
  cases hs : a.state with
  | configured access enabled scan =>
    rw [hs] at hstate
    obtain ⟨stored, hstored, hread, -⟩ := AccountRow.accountState_settings hstate (.inl rfl)
    cases hstored
    rw [haccess] at hread
    cases hread
    unfold CloudAccount.awsAccess
    rw [hs]
    rfl
  | detected | discovered | degraded | deleted => rw [hs] at hignored; cases hignored

theorem triple_getByAccountId (workspaceId : WorkspaceId) (accountId : CloudAccountId) :
    Triple P (CloudAccountRepository.getByAccountId workspaceId accountId)
      (fun found w => P w ∧ ∀ a, found = some a → ∃ row nextScan, w.accounts.find a.id = some row ∧
        row.toModel nextScan = .ok a ∧ row.tenantId = workspaceId ∧ row.accountId = accountId) P := by
  refine Triple.of_exec fun w hw => ?_
  unfold CloudAccountRepository.getByAccountId
  rw [exec_bind, exec_get]
  dsimp only
  cases hfind : w.accounts.rows.find? fun r => decide (r.tenantId = workspaceId ∧ r.accountId = accountId) with
  | none =>
    dsimp only
    rw [exec_pure]
    exact ⟨hw, fun a ha => absurd ha (by simp)⟩
  | some row =>
    dsimp only
    rw [exec_bind, exec_getNextScan]
    dsimp only
    rw [map_eq_pure_bind, exec_bind, exec_lift]
    cases hmodel : row.toModel ((w.nextRuns.find workspaceId).map (·.time)) with
    | error e =>
      dsimp only
      exact hw
    | ok a =>
      dsimp only
      rw [exec_pure]
      refine ⟨hw, fun a' ha' => ?_⟩
      rw [Option.some_inj] at ha'
      subst ha'
      have hkey := List.find?_some hfind
      rw [decide_eq_true_eq] at hkey
      have hid := (AccountRow.toModel_ok hmodel).2.1
      exact ⟨row, _, (Table.find_eq_some_iff _ _ _).2 ⟨List.mem_of_find?_eq_some hfind, hid.symm⟩, hmodel, hkey⟩

theorem storeAwsAccount (hI : IgnoreInvariant I) (workspaceId : WorkspaceId) (accountId : CloudAccountId)
    (roleName : Option AwsRoleName) (externalId : ExternalId) (accountName : Option CloudAccountName) (enabled : Bool) :
    Triple (fun w => I w ∧ KeepsAccess workspaceId accountId roleName externalId w)
      (Fix.storeAwsAccount workspaceId accountId roleName externalId accountName enabled) (fun _ => I) I := by
  refine Triple.bind ((triple_getByAccountId workspaceId accountId).imp (fun _ h => h) (fun _ _ h => h)
    fun _ h => h.1) fun found => ?_
  cases found with
  | some existing =>
    intro w hw
    obtain ⟨⟨hI', hkept⟩, hfound⟩ := hw
    obtain ⟨row, nextScan, hfind, hmodel, htenant, haccount⟩ := hfound existing rfl
    exact hI.updateAwsAccount workspaceId existing roleName externalId accountName enabled (fun hignored name hname =>
      awsAccess_of_ignored (hI.sound w hI' _ row hfind) hmodel hignored
        (hkept row (Table.mem_of_find hfind) htenant haccount hignored name hname)) w ⟨hI', hfind⟩
  | none =>
    refine Triple.imp (P := I) ?_ (fun _ h => h.1.1) (fun _ _ h => h) fun _ h => h
    refine Keeps.bind (keeps_utc hI.framed) fun createdAt => Keeps.bind (keeps_uuid4 hI.framed) fun id => ?_
    refine Keeps.bind (CloudAccountRepository.triple_create (fun _ h => h) fun w hnone hw => ?_) fun _ => Keeps.pure _
    cases roleName with
    | none => exact hI.insert w _ hnone hw rfl trivial
    | some name => exact hI.insert w _ hnone hw rfl rfl

theorem createAwsAccount (hI : IgnoreInvariant I) (workspaceId : WorkspaceId) (accountId : CloudAccountId)
    (roleName : Option AwsRoleName) (externalId : ExternalId) (accountName : Option CloudAccountName) :
    Triple (fun w => I w ∧ KeepsAccess workspaceId accountId roleName externalId w)
      (Fix.createAwsAccount workspaceId accountId roleName externalId accountName) (fun _ => I) I := by
  have hframed : Framed fun w => I w ∧ KeepsAccess workspaceId accountId roleName externalId w := by
    rintro w w' haccounts - - - ⟨hw, hkept⟩
    refine ⟨hI.reads w w' haccounts hw, ?_⟩
    unfold KeepsAccess
    rw [haccounts]
    exact hkept
  refine Triple.bind (triple_of_reads (fun _ => rfl) fun _ h => h.1) fun found => ?_
  cases found with
  | none => exact Triple.throw _ fun _ h => h.1
  | some workspace =>
    dsimp only
    split
    · exact Triple.throw _ fun _ h => h.1
    · refine Triple.bind ((keeps_shouldBeEnabled (keeps_utc hframed) workspace).imp (fun _ h => h) (fun _ _ h => h)
        fun _ h => h.1) fun enabled => ?_
      refine Triple.bind (hI.storeAwsAccount workspaceId accountId roleName externalId accountName enabled) fun p => ?_
      split
      · exact Keeps.bind (hI.publish _) fun _ => Keeps.pure _
      · exact Keeps.pure _

theorem createConfiguredAccount (hI : IgnoreInvariant I) (workspaceId : WorkspaceId) (accountId : CloudAccountId)
    (access : CloudAccess) (accountName : Option CloudAccountName) :
    Keeps I (Fix.createConfiguredAccount workspaceId accountId access accountName) :=
  keeps_createConfiguredAccount (keeps_utc hI.framed) (keeps_uuid4 hI.framed) hI.publish workspaceId accountId access
    accountName fun _ enabled _ => CloudAccountRepository.triple_create (fun _ h => h) fun w hnone hw =>
      hI.insert w _ hnone hw (Bool.and_not_self enabled) rfl

def Stored (id : FixCloudAccountId) (C : AccountRow → Prop) (w : World) : Prop := ∀ r, w.accounts.find id = some r → C r

theorem framed_stored (hI : IgnoreInvariant I) (id : FixCloudAccountId) (C : AccountRow → Prop) :
    Framed fun w => I w ∧ Stored id C w := by
  rintro w w' haccounts - - - ⟨hw, hstored⟩
  refine ⟨hI.reads w w' haccounts hw, ?_⟩
  unfold Stored
  rw [haccounts]
  exact hstored

theorem framed_found {P : World → Prop} (hP : Framed P) (id : FixCloudAccountId) (found : Option CloudAccount) :
    Framed fun w => P w ∧ ∀ a, found = some a → ∃ row nextScan, w.accounts.find id = some row ∧
      row.toModel nextScan = .ok a := by
  rintro w w' haccounts hcommits horganizations hclock ⟨hw, hfound⟩
  exact ⟨hP w w' haccounts hcommits horganizations hclock hw, haccounts ▸ hfound⟩

theorem degradeAccount (hI : IgnoreInvariant I) (id : FixCloudAccountId) (error : String) (reason : DegradationReason) :
    Triple (fun w => I w ∧ Stored id (·.ignored = false) w) (Fix.degradeAccount id error reason) (fun _ => I) I := by
  refine Triple.bind (triple_of_reads (CloudAccountRepository.get_reads id) fun _ h => h.1) fun found => ?_
  cases found with
  | none => exact Triple.throw _ fun _ h => h.1
  | some account =>
    dsimp only
    split
    · exact Triple.pure _ fun _ h => h.1
    · refine Triple.bind
        (hI.update (hI.framed_stored id _) (fun _ h => h.1) fun w row a now updated hw hfind hmodel h =>
        ?_) fun _ => Keeps.bind (hI.publish _) fun _ => Keeps.pure _
      have hsound := hI.sound w hw.1 _ row hfind
      exact alike_setDegraded (AccountRow.toModel_fits hsound hmodel)
        ((AccountRow.toModel_ignored hsound hmodel).trans (hw.2 row hfind)) h

/-- Bringing back an account that is scanned, or not enabled. -/
theorem undegradeAccount (hI : IgnoreInvariant I) (id : FixCloudAccountId) :
    Triple (fun w => I w ∧ Stored id (fun r => r.state = some .degraded → r.enabled = true → r.scan = true) w)
      (Fix.undegradeAccount id) (fun _ => I) I := by
  have hframed := hI.framed_stored id fun r => r.state = some .degraded → r.enabled = true → r.scan = true
  refine Triple.bind ((get id).imp (fun _ h => h) (fun _ _ h => h) fun _ h => h.1) fun found => ?_
  cases found with
  | none => exact Triple.throw _ fun _ h => h.1.1
  | some account =>
    dsimp only
    split
    · exact Triple.pure _ fun _ h => h.1.1
    · next hname =>
      refine hI.update (framed_found hframed id (some account)) (fun _ h => h.1.1) fun w row a now updated hw hfind
        hmodel h => ?_
      obtain ⟨⟨hw, hstored⟩, hfound⟩ := hw
      obtain ⟨row', nextScan, hfind', hmodel'⟩ := hfound account rfl
      cases hfind.symm.trans hfind'
      have hsound := hI.sound w hw _ row hfind
      obtain ⟨hstate, -, -, hcloud, -⟩ := AccountRow.toModel_ok hmodel
      have hsame : account.state = a.state := Except.ok.inj ((AccountRow.toModel_ok hmodel').1.symm.trans hstate)
      rw [hsame] at hname
      have hcolumn := hsound.stateName.trans (congrArg some (AccountRow.accountState_ok hstate))
      cases hs : a.state with
      | degraded access enabled scan error =>
        rw [hs] at hstate hcolumn
        obtain ⟨-, -, -, henabled, hscan⟩ := AccountRow.accountState_settings hstate (.inr rfl)
        refine alike_setConfigured hs ((AccountRow.accountState_cloud hstate rfl).trans hcloud.symm) (fun he => ?_) h
        exact hscan.symm.trans (hstored row hfind hcolumn (henabled.trans he))
      | detected | discovered | configured | deleted => simp [hs] at hname

theorem exploreAccount (hI : IgnoreInvariant I) (account : CloudAccount) (externalId : ExternalId) (aws : AwsAnswers) :
    Keeps I (Fix.exploreAccount account externalId aws) := by
  refine keeps_exploreAccount account externalId aws (fun accountId name => ?_) fun name => ?_
  · exact (hI.createAwsAccount _ accountId none externalId name).imp (fun w h => ⟨h, keepsAccess_none _ _ _ w⟩)
      (fun _ _ h => h) fun _ h => h
  · refine hI.update hI.framed (fun _ h => h) fun w row a now updated hw hfind hmodel h => ?_
    cases h
    exact alike_of_state (AccountRow.toModel_fits (hI.sound w hw _ row hfind) hmodel) rfl rfl rfl rfl

theorem finishConfigure (hI : IgnoreInvariant I) (account : CloudAccount) {access : CloudAccess}
    (haccess : access.cloud = .aws)
    (privileged : Bool) : Keeps I (Fix.finishConfigure account access privileged) := by
  refine triple_finishConfigure hI.publish account access privileged ?_
  refine hI.update hI.framed (fun _ h => h) fun w row a now updated hw hfind hmodel h => ?_
  have hsound := hI.sound w hw _ row hfind
  have hcloud : a.cloud = .aws := by
    cases hs : a.state with
    | discovered stored enabled => exact AccountRow.toModel_discovered hsound hmodel hs
    | detected | configured | degraded | deleted => unfold updateToConfigured at h; rw [hs] at h; cases h
  exact alike_updateToConfigured (haccess.trans hcloud.symm) h

/-- Configuring an account that is not ignored, if its role cannot be assumed. -/
theorem configureAccount (hI : IgnoreInvariant I) (account : CloudAccount) (calledFromEvent : Bool) (aws : AwsAnswers) :
    Triple (fun w => I w ∧ (aws.canAssumeRole ≠ .success → calledFromEvent = false →
        Stored account.id (·.ignored = false) w))
      (Fix.configureAccount account calledFromEvent aws) (fun _ => I) I := by
  unfold Fix.configureAccount
  split
  · exact Triple.pure _ fun _ h => h.1
  · split
    · rename_i access enabled hstate
      split
      · rename_i externalId role
        split
        · next reason hassume =>
          have hframed : Framed fun w => I w ∧ (calledFromEvent = false → Stored account.id (·.ignored = false) w) := by
            rintro w w' haccounts hcommits horganizations hclock ⟨hw, hstored⟩
            exact ⟨hI.reads w w' haccounts hw, fun h =>
              (hI.framed_stored account.id _ w w' haccounts hcommits horganizations hclock ⟨hw, hstored h⟩).2⟩
          refine Triple.bind ((keeps_utc hframed).imp (fun w h => ⟨h.1, fun hevent => h.2 (by rw [hassume]; exact nofun)
            hevent⟩) (fun _ _ h => h) fun _ h => h.1) fun now => ?_
          dsimp only
          split
          · next hlate =>
            have hevent : calledFromEvent = false := by
              rw [Bool.and_eq_true] at hlate
              simpa using hlate.1
            exact Triple.bind ((hI.degradeAccount account.id _ _).imp (fun w h => ⟨h.1, h.2 hevent⟩) (fun _ _ h => h)
              fun _ h => h) fun _ => Keeps.pure _
          · split
            · exact Triple.pure _ fun _ h => h.1
            · exact Triple.throw _ fun _ h => h.1
        · exact (Keeps.bind (hI.exploreAccount account externalId aws) fun privileged =>
            hI.finishConfigure account rfl privileged).imp (fun _ h => h.1) (fun _ _ h => h) fun _ h => h
      · exact Triple.pure _ fun _ h => h.1
    · exact Triple.pure _ fun _ h => h.1

theorem deleteCloudAccount (hI : IgnoreInvariant I) (userId : UserId) (id : FixCloudAccountId)
    (workspaceId : WorkspaceId) :
    Triple (fun w => I w ∧ Stored id (fun r => r.ignored = true → r.tenantId ≠ workspaceId) w)
      (Fix.deleteCloudAccount userId id workspaceId) (fun _ => I) I := by
  have hframed := hI.framed_stored id fun r => r.ignored = true → r.tenantId ≠ workspaceId
  refine Triple.bind ((get id).imp (fun _ h => h) (fun _ _ h => h) fun _ h => h.1) fun found => ?_
  cases found with
  | none => exact Triple.pure _ fun _ h => h.1.1
  | some account =>
    dsimp only
    split
    · exact Triple.throw _ fun _ h => h.1.1
    · next hworkspace =>
      refine Triple.bind (hI.update (framed_found hframed id (some account)) (fun _ h => h.1.1)
        fun w row a now updated hw hfind hmodel h => ?_) fun _ => hI.publish _
      obtain ⟨⟨hw, hstored⟩, hfound⟩ := hw
      obtain ⟨row', nextScan, hfind', hmodel'⟩ := hfound account rfl
      cases hfind.symm.trans hfind'
      have htenant := (AccountRow.toModel_ok hmodel').2.2.1
      refine alike_setDeleted ?_ h
      rw [AccountRow.toModel_ignored (hI.sound w hw _ row hfind) hmodel]
      cases hignored : row.ignored with
      | false => rfl
      | true => exact absurd (htenant ▸ not_not.1 hworkspace) (hstored row hfind hignored)

end IgnoreInvariant

/-! ## The toggles -/

def DomainEvent.toggles : DomainEvent → Option WorkspaceId
  | .cloudAccountActiveToggled tenantId .. => some tenantId
  | .cloudAccountScanToggled tenantId .. => some tenantId
  | _ => none

/-- A workspace whose ignored accounts have changed is one for which a toggle is announced. -/
structure Toggled (w w' : World) : Prop where
  sound : w'.Sound
  toggles : ∀ workspaceId, (∀ accountId, w'.Ignores workspaceId accountId ↔ w.Ignores workspaceId accountId) ∨
    ∃ e ∈ w'.published, e.toggles = some workspaceId

theorem toggled_of_accounts {w w' : World} (hw : w.Sound) (h : w'.accounts = w.accounts) : Toggled w w' := by
  refine ⟨?_, fun workspaceId => .inl fun accountId => ?_⟩
  · unfold World.Sound
    rw [h]
    exact hw
  · unfold World.Ignores
    rw [h]

theorem toggled_of_settled {m : Service PUnit} {P : World → Prop} {w : World} (hw : w.Sound) (hP : P w)
    (hm : ∀ T, Triple (fun w => Settled T w ∧ P w) m (fun _ => Settled T) (Settled T)) : Toggled w (exec m w).2 :=
  have h := Triple.after (hm w.Ignores) ⟨⟨hw, fun _ _ => Iff.rfl⟩, hP⟩
  ⟨h.1, fun workspaceId => .inl (h.2 workspaceId)⟩

namespace CloudAccountRepository

variable {β : Type} {id : FixCloudAccountId} {f : DateTime → CloudAccount → Except Err (CloudAccount × β)} {w : World}

/-- **How an update ends**: it leaves the accounts as they were, or it writes what its closure makes of the account and
returns, when what is written can be read back. -/
theorem updateWith_ends (hread : ∀ row a now updated b, w.accounts.find id = some row → row.toModel none = .ok a →
    f now a = .ok (updated, b) → ∀ access, updated.state.cloudAccess = some access → access.cloud = updated.cloud) :
    (exec (updateWith id f) w).2.accounts = w.accounts ∨
      ∃ row a now updated b updatedAt result, w.accounts.find id = some row ∧ row.toModel none = .ok a ∧
        f now a = .ok (updated, b) ∧ (exec (updateWith id f) w).1 = .ok (result, b) ∧
        (exec (updateWith id f) w).2.accounts = (w.commit row (row.written updated updatedAt)).accounts := by
  unfold updateWith
  rw [exec_bind, exec_get]
  dsimp only
  cases hfind : w.accounts.find id with
  | none => exact .inl rfl
  | some row =>
    dsimp only
    rw [exec_bind, exec_lift]
    cases hmodel : row.toModel none with
    | error e => exact .inl rfl
    | ok a =>
      dsimp only
      rw [exec_bind, exec_utc]
      dsimp only
      rw [exec_bind, exec_lift]
      cases hf : f w.now a with
      | error e => exact .inl rfl
      | ok p =>
        obtain ⟨updated, b⟩ := p
        dsimp only
        by_cases hsame : a = updated
        · rw [if_pos hsame]
          exact .inl rfl
        · rw [if_neg hsame, exec_bind, exec_getNextScan, World.tick_nextRuns]
          dsimp only
          rw [exec_bind, exec_utc]
          dsimp only
          rw [exec_bind, commitAccount, exec_bind, exec_get]
          dsimp only
          cases w.tick.tick.refusal (some row) (row.written updated w.tick.now) with
          | some e => exact .inl rfl
          | none =>
            dsimp only
            rw [exec_set]
            dsimp only
            rw [exec_bind, exec_lift,
              AccountRow.toModel_written (hread row a w.now updated b hfind hmodel hf) w.tick.now _]
            exact .inr ⟨row, a, w.now, updated, b, w.tick.now, _, rfl, hmodel, hf, rfl, rfl⟩

/-- The row that an update has written, and the value that its closure hands out. -/
structure Wrote (id : FixCloudAccountId) (f : DateTime → CloudAccount → Except Err (CloudAccount × β)) (w w' : World)
    (b : β) (row : AccountRow) (a updated : CloudAccount) : Prop where
  found : w.accounts.find id = some row
  read : row.toModel none = .ok a
  closure : ∃ now, f now a = .ok (updated, b)
  accounts : ∃ updatedAt, w'.accounts = (w.commit row (row.written updated updatedAt)).accounts

theorem triple_updateWith_ends
    (hread : ∀ row a now updated b, w.accounts.find id = some row → row.toModel none = .ok a →
      f now a = .ok (updated, b) → ∀ access, updated.state.cloudAccess = some access → access.cloud = updated.cloud) :
    Triple (· = w) (updateWith id f)
      (fun p w' => w'.accounts = w.accounts ∨ ∃ row a updated, Wrote id f w w' p.2 row a updated)
      (fun w' => w'.accounts = w.accounts) := by
  rintro w₁ rfl
  have hends := updateWith_ends hread
  refine ⟨fun p w' h => ?_, fun e w' h => ?_⟩ <;> rw [h] at hends
  · refine hends.imp (fun h => h) ?_
    rintro ⟨row, a, now, updated, b, updatedAt, result, hfind, hmodel, hf, hvalue, haccounts⟩
    cases hvalue
    exact ⟨row, a, updated, hfind, hmodel, ⟨now, hf⟩, updatedAt, haccounts⟩
  · rcases hends with haccounts | ⟨row, a, now, updated, b, updatedAt, result, -, -, -, hvalue, -⟩
    · exact haccounts
    · cases hvalue

end CloudAccountRepository

section Toggles

variable {w : World}

theorem World.ignores_commit_of_ne {row : AccountRow} {updated : CloudAccount} (updatedAt : DateTime)
    (hfind : w.accounts.find row.id = some row) (hworkspace : updated.workspaceId = row.tenantId)
    {workspaceId : WorkspaceId} (hne : workspaceId ≠ row.tenantId) (accountId : CloudAccountId) :
    (w.commit row (row.written updated updatedAt)).Ignores workspaceId accountId ↔ w.Ignores workspaceId accountId := by
  rw [World.ignores_commit hfind, World.ignores_split hfind, hworkspace]
  have hnot : ∀ p q : Prop, ¬ (p ∧ row.tenantId = workspaceId ∧ q) := fun p q h => hne h.2.1.symm
  rw [or_iff_right (hnot _ _), or_iff_right (hnot _ _)]

theorem getCloudAccount_ends (id : FixCloudAccountId) (workspaceId : WorkspaceId) :
    Triple (· = w) (getCloudAccount id workspaceId)
      (fun _ w' => w' = w ∧ ∀ row, w.accounts.find id = some row → row.tenantId = workspaceId) (· = w) := by
  refine Triple.bind (IgnoreInvariant.get id) fun found => ?_
  cases found with
  | none => exact Triple.throw _ fun _ h => h.1
  | some account =>
    dsimp only
    split
    · exact Triple.throw _ fun _ h => h.1
    · next hworkspace =>
      refine Triple.pure _ fun w' h => ⟨h.1, fun row hfind => ?_⟩
      obtain ⟨rfl, hfound⟩ := h
      obtain ⟨row', nextScan, hfind', hmodel⟩ := hfound account rfl
      cases hfind.symm.trans hfind'
      exact (AccountRow.toModel_ok hmodel).2.2.1.symm.trans (not_not.1 hworkspace)

theorem Step.switched {k : StepKind} {s s' : CloudAccountState} (h : Step k s s')
    (hk : (∃ value, k = .enabled value) ∨ k = .scanSet) :
    s'.cloudAccess = s.cloudAccess ∧ ∀ cloud, s.Fits cloud → s'.Fits cloud := by
  cases h with
  | enabledConfigured | enabledDegraded | scanConfigured | scanDegraded => exact ⟨rfl, fun _ h => h⟩
  | _ => rcases hk with ⟨value, hk⟩ | hk <;> cases hk

theorem Change.readable {k : StepKind} {row : AccountRow} {a updated : CloudAccount} (h : Change k a updated)
    (hk : (∃ value, k = .enabled value) ∨ k = .scanSet) (hmodel : row.toModel none = .ok a) {access : CloudAccess}
    (haccess : updated.state.cloudAccess = some access) : access.cloud = updated.cloud := by
  obtain ⟨hstate, -, -, hcloud, -⟩ := AccountRow.toModel_ok hmodel
  rw [(h.step.switched hk).1] at haccess
  rw [h.cloud, hcloud]
  exact AccountRow.accountState_cloud hstate haccess

/-- **A switch that is written and announced.** -/
theorem toggled_of_wrote {β : Type} {id : FixCloudAccountId}
    {f : DateTime → CloudAccount → Except Err (CloudAccount × β)} {w' : World} {b : β} {row : AccountRow}
    {a updated : CloudAccount} {k : StepKind} {workspaceId : WorkspaceId} {e : DomainEvent} (hw : w.Sound)
    (h : CloudAccountRepository.Wrote id f w w' b row a updated) (hchange : Change k a updated)
    (hk : (∃ value, k = .enabled value) ∨ k = .scanSet) (htenant : row.tenantId = workspaceId)
    (he : e.toggles = some workspaceId) : Toggled w { w' with published := w'.published ++ [e] } := by
  obtain ⟨hfind, hmodel, -, updatedAt, haccounts⟩ := h
  obtain rfl : row.id = id := Table.key_of_find hfind
  obtain ⟨-, -, hworkspace, -⟩ := AccountRow.toModel_ok hmodel
  constructor
  · unfold World.Sound
    dsimp only
    rw [haccounts]
    refine hw.commit hfind ?_
    rw [hchange.cloud]
    exact (hchange.step.switched hk).2 _ (AccountRow.toModel_fits (hw _ row hfind) hmodel)
  · intro workspaceId'
    by_cases hne : workspaceId' = workspaceId
    · exact .inr ⟨e, List.mem_append_right _ (List.mem_singleton.2 rfl), hne ▸ he⟩
    · refine .inl fun accountId => ?_
      rw [← World.ignores_commit_of_ne updatedAt hfind (hchange.workspaceId.trans hworkspace) (htenant ▸ hne) accountId]
      unfold World.Ignores
      dsimp only
      rw [haccounts]

/-- **Enabling or disabling an account is announced.** -/
theorem toggled_updateCloudAccountEnabled (hw : w.Sound) (workspaceId : WorkspaceId) (id : FixCloudAccountId)
    (enabled : Bool) :
    Triple (· = w) (updateCloudAccountEnabled workspaceId id enabled) (fun _ => Toggled w) (Toggled w) := by
  have hquiet : ∀ w', w' = w → Toggled w w' := fun w' h => toggled_of_accounts hw (h ▸ rfl)
  refine Triple.bind ((getCloudAccount_ends id workspaceId).imp (fun _ h => h) (fun _ _ h => h) hquiet) fun _ => ?_
  refine Triple.bind (triple_of_reads (fun _ => rfl) fun w' h => hquiet w' h.1) fun found => ?_
  cases found with
  | none => exact Triple.throw _ fun w' h => hquiet w' h.1
  | some workspace =>
    refine Triple.bind (triple_of_reads (fun _ => rfl) fun w' h => hquiet w' h.1) fun count => ?_
    have hchange : ∀ now a updated (b : PUnit), ((·, b) <$> setEnabled enabled workspace count now a) =
        .ok (updated, b) →
        Change (.enabled enabled) a updated := fun now a updated b h => by
      cases hset : setEnabled enabled workspace count now a with
      | error e => rw [hset] at h; cases h
      | ok updated' => rw [hset] at h; cases h; exact within_setEnabled enabled workspace count now a _ hset
    rintro w' ⟨rfl, htenant⟩
    refine Triple.bind (R := fun _ w₁ => w₁.accounts = w'.accounts ∨ ∃ row a updated, CloudAccountRepository.Wrote id
        (fun now a => (·, PUnit.unit) <$> setEnabled enabled workspace count now a) w' w₁ () row a updated)
      (Triple.bind ((CloudAccountRepository.triple_updateWith_ends ?_).imp (fun _ h => h) (fun _ _ h => h)
        fun w₁ h => toggled_of_accounts hw h) fun p => Triple.pure _ fun _ h => h) (fun result => ?_) w' rfl
    · intro row a now updated b hfind hmodel hf access haccess
      exact (hchange now a updated b hf).readable (.inl ⟨enabled, rfl⟩) hmodel haccess
    · refine Triple.bind (R := fun _ => Toggled w') (Triple.modify _ fun w₁ h => ?_) fun _ => Triple.pure _ fun _ h => h
      rcases h with haccounts | ⟨row, a, updated, hwrote⟩
      · exact toggled_of_accounts hw haccounts
      · obtain ⟨now, hf⟩ := hwrote.closure
        exact toggled_of_wrote hw hwrote (hchange now a updated _ hf) (.inl ⟨enabled, rfl⟩)
          (htenant row hwrote.found) rfl

/-- The scan of a degraded account is switched without an announcement, and it is not ignored before or after. -/
theorem setScan_quiet {workspaceId : WorkspaceId} {scan : Bool} {now : DateTime} {a updated : CloudAccount}
    (h : setScan workspaceId scan now a = .ok (updated, none)) : a.Alike updated := by
  unfold setScan at h
  cases hs : a.state with
  | degraded access enabled stored error =>
    rw [hs] at h
    cases h
    refine ⟨rfl, rfl, rfl, ?_, trivial⟩
    rw [hs]
    rfl
  | detected | discovered | configured | deleted => rw [hs] at h; cases h

theorem setScan_toggles {workspaceId : WorkspaceId} {scan : Bool} {now : DateTime} {a updated : CloudAccount}
    {e : DomainEvent} (h : setScan workspaceId scan now a = .ok (updated, some e)) : e.toggles = some workspaceId := by
  unfold setScan at h
  cases hs : a.state with
  | configured access enabled stored =>
    rw [hs] at h
    cases h
    rfl
  | detected | discovered | degraded | deleted => rw [hs] at h; cases h

/-- **Switching the scan of an account is announced when it changes what is ignored.** -/
theorem toggled_updateCloudAccountScanEnabled (hw : w.Sound) (workspaceId : WorkspaceId) (id : FixCloudAccountId)
    (scan : Bool) :
    Triple (· = w) (updateCloudAccountScanEnabled workspaceId id scan) (fun _ => Toggled w) (Toggled w) := by
  have hquiet : ∀ w', w' = w → Toggled w w' := fun w' h => toggled_of_accounts hw (h ▸ rfl)
  refine Triple.bind ((getCloudAccount_ends id workspaceId).imp (fun _ h => h) (fun _ _ h => h) hquiet) fun _ => ?_
  rintro w' ⟨rfl, htenant⟩
  refine Triple.bind
    ((CloudAccountRepository.triple_updateWith_ends fun row a now updated b _ hmodel hf access haccess =>
    (within_setScan workspaceId scan now a updated b hf).readable (.inr rfl) hmodel haccess).imp (fun _ h => h)
      (fun _ _ h => h) fun w₁ h => toggled_of_accounts hw h) (fun p => ?_) w' rfl
  obtain ⟨result, event⟩ := p
  cases event with
  | none =>
    refine Triple.pure _ fun w₁ h => ?_
    rcases h with haccounts | ⟨row, a, updated, hwrote⟩
    · exact toggled_of_accounts hw haccounts
    · obtain ⟨hfind, hmodel, ⟨now, hf⟩, updatedAt, haccounts⟩ := hwrote
      obtain rfl : row.id = id := Table.key_of_find hfind
      have halike := setScan_quiet hf
      have hsteady := ignoreInvariant_settled w'.Ignores
      have hsettled := hsteady.reads _ w₁ haccounts (hsteady.commit w' row a updated updatedAt
        ⟨hw, fun _ _ => Iff.rfl⟩ hfind hmodel halike)
      exact ⟨hsettled.1, fun workspaceId' => .inl (hsettled.2 workspaceId')⟩
  | some e =>
    refine Triple.bind (R := fun _ => Toggled w') (Triple.modify _ fun w₁ h => ?_) fun _ => Triple.pure _ fun _ h => h
    rcases h with haccounts | ⟨row, a, updated, hwrote⟩
    · exact toggled_of_accounts hw haccounts
    · obtain ⟨now, hf⟩ := hwrote.closure
      exact toggled_of_wrote hw hwrote (within_setScan workspaceId scan now a updated _ hf) (.inr rfl)
        (htenant row hwrote.found) (setScan_toggles hf)

end Toggles

end Fix
