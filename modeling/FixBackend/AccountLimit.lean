import FixBackend.AccountStates
import FixBackend.AccountUpdate
/-!
# AccountLimit — how many accounts of a workspace are collected

The account limit of a tier is checked when an account is created and when it is enabled.  An account also becomes
configured and enabled when it is configured or comes back from the degraded state, and there nothing is checked; a row
without a state is not counted by either check.  `Guarded` says that no such step is taken at the limit, and then the
limit holds over every run.
-/
namespace Fix

open Calendar Effects

/-! ## The check of an account that is created -/

/-- How many accounts of the workspace `_should_be_enabled` counts. -/
def World.nonDeletedCount (w : World) (workspaceId : WorkspaceId) : Nat :=
  w.accounts.count fun r => decide (r.tenantId = workspaceId) && CloudAccountRepository.nonDeleted r

def World.belowLimit (w : World) (workspace : Workspace) : Bool :=
  match workspace.accountLimit w.now with
  | none => true
  | some limit => decide (w.nonDeletedCount workspace.id < limit)

theorem exec_shouldBeEnabled (workspace : Workspace) (w : World) :
    exec (shouldBeEnabled workspace) w =
      (.ok (w.belowLimit workspace && workspace.paymentOnHoldSince.isNone), w.tick) := by
  unfold shouldBeEnabled
  rw [exec_bind, exec_utc]
  dsimp only
  unfold withinAccountLimit World.belowLimit
  cases workspace.accountLimit w.now with
  | none => rfl
  | some limit =>
    dsimp only
    rw [exec_bind, exec_bind, CloudAccountRepository.exec_countByWorkspaceId]
    simp only [Bool.not_false, Bool.true_or, Bool.and_true, Bool.not_true, Bool.false_or]
    rfl

theorem World.belowLimit_iff {w : World} {workspace : Workspace} : w.belowLimit workspace = true ↔
    ∀ limit, workspace.accountLimit w.now = some limit → w.nonDeletedCount workspace.id < limit := by
  unfold belowLimit
  cases workspace.accountLimit w.now with
  | none => simp
  | some limit => simp

/-! ## The accounts that are collected -/

def ready (workspaceId : WorkspaceId) (r : AccountRow) : Bool :=
  decide (r.tenantId = workspaceId) && decide (r.stateName = .configured) && r.enabled

def World.readyCount (w : World) (workspaceId : WorkspaceId) : Nat := w.accounts.count (ready workspaceId)

/-- The tier of the workspace has the limit at every reading of the clock. -/
def World.limitedTo (w : World) (workspaceId : WorkspaceId) (limit : Nat) : Prop :=
  ∃ workspace, getWorkspace w.organizations workspaceId = some workspace ∧
    ∀ n, (productTierSettings (workspace.currentProductTier (w.clock n))).accountLimit = some limit

/-! ## The guards -/

section Guards

variable (workspaceId : WorkspaceId) (limit : Nat)

/-- If the stored account is in the state and enabled, the limit is not reached. -/
def freeSlotFor (id : FixCloudAccountId) (name : StateName) (w : World) : Prop :=
  ∀ row a, w.accounts.find id = some row → row.toModel none = .ok a → a.workspaceId = workspaceId →
    a.state.stateName = name → a.state.enabled = true → w.readyCount workspaceId < limit

/-- If a row of the workspace has no state, the limit is not reached. -/
def freeSlotForOld (w : World) : Prop :=
  (∃ r ∈ w.accounts.rows, r.tenantId = workspaceId ∧ r.state = none) → w.readyCount workspaceId < limit

/-- `configure_account` finds a free slot where it would configure an enabled account. -/
def configureGuard (account : CloudAccount) (aws : AwsAnswers) (w : World) : Prop :=
  ∀ externalId role enabled privileged w', account.state = .discovered (.aws externalId role) enabled →
    aws.canAssumeRole = .success → exec (exploreAccount account externalId aws) w = (.ok privileged, w') →
      freeSlotFor workspaceId limit account.id .discovered w'

/-- The same of a pass of `configure_discovered_accounts` that does not degrade the account. -/
def discoverGuard (aws : FixCloudAccountId → AwsAnswers) (account : CloudAccount) (w : World) : Prop :=
  ∀ now w', exec utc w = (.ok now, w') → ¬ minutes 30 < now.sub account.stateUpdatedAt →
    configureGuard workspaceId limit account (aws account.id) w'

/-- A collect event finds a free slot where it would bring an enabled account back. -/
def collectGuard (nextRun : Option DateTime) (failed : Bool) (item : FixCloudAccountId × CloudAccountCollectInfo)
    (w : World) : Prop :=
  ∀ updated w', exec (recordCollected nextRun failed item) w = (.ok updated, w') →
    (!failed && updated.failedScanCount == 0) = true → freeSlotFor workspaceId limit updated.id .degraded w'

/-- No unchecked step of the operation is taken at the limit. -/
def Operation.guarded (w : World) : Operation → Prop
  | .createGcpAccount .. => freeSlotForOld workspaceId limit w
  | .createAzureAccount .. => freeSlotForOld workspaceId limit w
  | .configureAccount account _ aws => configureGuard workspaceId limit account aws w
  | .configureDiscoveredAccounts aws =>
    ∀ accounts w', exec CloudAccountRepository.listAllDiscoveredAccounts w = (.ok accounts, w') →
      AlongLoop (fun account => configureDiscovered (aws account.id) account) (discoverGuard workspaceId limit aws)
        accounts w'
  | .tenantAccountsCollected _ accounts failed nextRun =>
    AlongLoop (processCollected nextRun false) (collectGuard workspaceId limit nextRun false)
      (unionDict accounts failed) w
  | .updateCloudAccountEnabled _ _ true => freeSlotForOld workspaceId limit w
  | _ => True

def Guarded : World → List Operation → Prop
  | _, [] => True
  | w, op :: ops => op.guarded workspaceId limit w ∧ Guarded (op.run w) ops

end Guards

/-! ## Counting through commits -/

def CloudAccountState.isReady (s : CloudAccountState) : Bool := decide (s.stateName = .configured) && s.enabled

theorem ready_of_toModel {r : AccountRow} {a : CloudAccount} (workspaceId : WorkspaceId)
    (h : r.toModel none = .ok a) : ready workspaceId r = (decide (a.workspaceId = workspaceId) && a.state.isReady) := by
  obtain ⟨hstate, -, hworkspace, -, -⟩ := AccountRow.toModel_ok h
  have hname := AccountRow.accountState_ok hstate
  unfold ready CloudAccountState.isReady
  rw [hworkspace, hname]
  by_cases hconf : a.state.stateName = .configured
  · obtain ⟨-, -, -, henabled, -⟩ := AccountRow.accountState_settings hstate (Or.inl hconf)
    rw [henabled, Bool.and_assoc]
  · simp [hconf]

theorem ready_written (workspaceId : WorkspaceId) (r : AccountRow) (a : CloudAccount) (t : DateTime) :
    ready workspaceId (r.written a t) = (decide (a.workspaceId = workspaceId) && a.state.isReady) := by
  unfold ready CloudAccountState.isReady
  rw [AccountRow.written_tenantId, AccountRow.written_stateName, AccountRow.written_enabled, Bool.and_assoc]

/-- The kinds of change that make no account ready. -/
def checkedKind (k : StepKind) : Prop := k ≠ .undegraded ∧ k ≠ .configured ∧ k ≠ .enabled true

/-- **A change of another kind than undegrading, configuring and enabling makes no account ready.** -/
theorem Step.isReady {k : StepKind} {s s' : CloudAccountState} (h : Step k s s') (hk : checkedKind k)
    (hs : s'.isReady = true) : s.isReady = true := by
  obtain ⟨hund, hconf, hen⟩ := hk
  cases h with
  | named => exact hs
  | notDegraded => exact hs
  | undegraded => exact absurd rfl hund
  | switchedOff => exact absurd rfl hund
  | notUndegraded => exact hs
  | configured => exact absurd rfl hconf
  | enabledConfigured access enabled scan value =>
    cases value with
    | true => exact absurd rfl hen
    | false => simp [CloudAccountState.isReady] at hs
  | scanConfigured => exact hs
  | _ => simp [CloudAccountState.isReady] at hs

/-- The limit is kept, in the workspaces and on the clock of the start. -/
structure Limited (workspaceId : WorkspaceId) (limit : Nat) (w₀ w : World) : Prop where
  organizations : w.organizations = w₀.organizations
  clock : w.clock = w₀.clock
  count : w.readyCount workspaceId ≤ limit

variable {workspaceId : WorkspaceId} {limit : Nat} {w₀ : World}

theorem framed_limited : Framed (Limited workspaceId limit w₀) := by
  rintro w w' hacc - horg hclock ⟨h1, h2, h3⟩
  refine ⟨horg.trans h1, hclock.trans h2, ?_⟩
  unfold World.readyCount at h3 ⊢
  rw [hacc]
  exact h3

/-- **A commit keeps the limit when the account was ready already, or a slot is free.** -/
theorem Limited.commit {w : World} {row : AccountRow} {a updated : CloudAccount} (h : Limited workspaceId limit w₀ w)
    (hfind : w.accounts.find row.id = some row) (hmodel : row.toModel none = .ok a) {k : StepKind}
    (hchange : Change k a updated) (updatedAt : DateTime)
    (hslot : a.workspaceId = workspaceId → updated.state.isReady = true →
      a.state.isReady = true ∨ w.readyCount workspaceId < limit) :
    Limited workspaceId limit w₀ (w.commit row (row.written updated updatedAt)) := by
  refine ⟨h.organizations, h.clock, ?_⟩
  have hcount := h.count
  have hold := ready_of_toModel workspaceId hmodel
  have hnew := ready_written workspaceId row updated updatedAt
  have hreplace := Table.count_replace (r := row.written updated updatedAt) (ready workspaceId) hfind
  change (w.accounts.replace _).count _ ≤ limit
  unfold World.readyCount at hcount hslot
  rw [hold, hnew, hchange.workspaceId] at hreplace
  by_cases hw : a.workspaceId = workspaceId
  · cases hr : updated.state.isReady with
    | false => simp [hw, hr] at hreplace; omega
    | true =>
      rcases hslot hw hr with ha | hlt
      · simp [hw, hr, ha] at hreplace; omega
      · simp [hw, hr] at hreplace
        have := Bool.toNat_le a.state.isReady
        omega
  · simp [hw] at hreplace
    omega

theorem readyCount_insert (w : World) (a : CloudAccount) (h : w.accounts.find (AccountRow.ofModel a).id = none) :
    (w.insert (.ofModel a) h).readyCount workspaceId =
      w.readyCount workspaceId + (decide (a.workspaceId = workspaceId) && a.state.isReady).toNat := by
  unfold World.readyCount World.insert
  rw [Table.count_insert]
  congr 2
  unfold ready CloudAccountState.isReady
  rw [AccountRow.ofModel_stateName, AccountRow.ofModel_enabled, Bool.and_assoc]
  rfl

theorem closed_limited : Closed (Limited workspaceId limit w₀) checkedKind where
  framed := framed_limited
  commit := fun w row a updated updatedAt k h hfind hmodel hk hchange =>
    h.commit hfind hmodel hchange updatedAt fun _ hr => Or.inl (hchange.step.isReady hk hr)
  insert := by
    intro w a hnone h hconf
    refine ⟨h.organizations, h.clock, ?_⟩
    rw [readyCount_insert]
    have : a.state.isReady = false := by simp [CloudAccountState.isReady, hconf]
    simp [this, h.count]

/-! ## The unchecked steps -/

theorem framed_freeSlotFor (id : FixCloudAccountId) (name : StateName) :
    Framed (freeSlotFor workspaceId limit id name) := by
  intro w w' hacc _ _ _ h row a
  have hcount : w'.readyCount workspaceId = w.readyCount workspaceId := by rw [World.readyCount, hacc]; rfl
  rw [hacc, hcount]
  exact h row a

theorem framed_and {P Q : World → Prop} (hP : Framed P) (hQ : Framed Q) : Framed fun w => P w ∧ Q w :=
  fun w w' h1 h2 h3 h4 h => ⟨hP w w' h1 h2 h3 h4 h.1, hQ w w' h1 h2 h3 h4 h.2⟩

theorem limited_undegradeAccount (id : FixCloudAccountId) :
    Triple (fun w => Limited workspaceId limit w₀ w ∧ freeSlotFor workspaceId limit id .degraded w)
      (undegradeAccount id) (fun _ => Limited workspaceId limit w₀) (Limited workspaceId limit w₀) := by
  refine Triple.bind (triple_of_reads (CloudAccountRepository.get_reads id) fun w hw => hw.1) fun found => ?_
  cases found with
  | none => exact Triple.throw _ fun w hw => hw.1
  | some account =>
    dsimp only
    split
    · exact Triple.pure _ fun w hw => hw.1
    · refine CloudAccountRepository.triple_update (framed_and framed_limited (framed_freeSlotFor id .degraded))
        (fun w hw => hw.1) ?_
      intro w row a now updated updatedAt hw hfind hmodel _ hok
      have hid : row.id = id := Table.key_of_find hfind
      have hchange := within_setConfigured now a updated hok
      refine hw.1.commit (hid ▸ hfind) hmodel hchange updatedAt fun hws hr => ?_
      generalize hs : a.state = s, hs' : updated.state = s' at hr
      have hstep := hchange.step
      rw [hs, hs'] at hstep
      cases hstep with
      | undegraded access enabled scan error =>
        refine Or.inr (hw.2 row a hfind hmodel hws (by rw [hs]; rfl) ?_)
        rw [hs]
        simpa [CloudAccountState.isReady] using hr
      | switchedOff => simp [CloudAccountState.isReady] at hr
      | notUndegraded => exact Or.inl hr

theorem limited_finishConfigure (account : CloudAccount) (access : CloudAccess) (privileged : Bool) :
    Triple (fun w => Limited workspaceId limit w₀ w ∧ freeSlotFor workspaceId limit account.id .discovered w)
      (finishConfigure account access privileged) (fun _ => Limited workspaceId limit w₀)
      (Limited workspaceId limit w₀) := by
  refine triple_finishConfigure (keeps_publish framed_limited) account access privileged
    (CloudAccountRepository.triple_update
    (framed_and framed_limited (framed_freeSlotFor account.id .discovered)) (fun w hw => hw.1) ?_)
  intro w row a now updated updatedAt hw hfind hmodel _ hok
  have hid : row.id = account.id := Table.key_of_find hfind
  have hchange := within_updateToConfigured access privileged now a updated hok
  refine hw.1.commit (hid ▸ hfind) hmodel hchange updatedAt fun hws hr => Or.inr ?_
  generalize hs : a.state = s, hs' : updated.state = s' at hr
  have hstep := hchange.step
  rw [hs, hs'] at hstep
  cases hstep with
  | configured stored enabled =>
    refine hw.2 row a hfind hmodel hws (by rw [hs]; rfl) ?_
    rw [hs]
    simpa [CloudAccountState.isReady] using hr

theorem limited_configureAccount (account : CloudAccount) (calledFromEvent : Bool) (aws : AwsAnswers) :
    Triple (fun w => Limited workspaceId limit w₀ w ∧ configureGuard workspaceId limit account aws w)
      (configureAccount account calledFromEvent aws) (fun _ => Limited workspaceId limit w₀)
      (Limited workspaceId limit w₀) := by
  have htolerant : Tolerant (Limited workspaceId limit w₀) checkedKind := closed_limited.tolerant
  have hnamed : checkedKind .named := ⟨nofun, nofun, nofun⟩
  refine htolerant.triple_configureAccount ⟨nofun, nofun, nofun⟩ account calledFromEvent aws (fun w hw => hw.1) ?_
  intro ext role enabled hstate hassume
  have hexplore : Triple (fun w => Limited workspaceId limit w₀ w ∧ configureGuard workspaceId limit account aws w)
      (exploreAccount account ext aws) (fun _ => Limited workspaceId limit w₀) (Limited workspaceId limit w₀) :=
    Triple.imp (htolerant.exploreAccount hnamed account ext aws) (fun w hw => hw.1) (fun _ _ h => h) (fun _ h => h)
  refine Triple.bind hexplore.with_exec fun privileged => ?_
  refine Triple.imp (limited_finishConfigure account _ privileged) ?_ (fun _ _ h => h) (fun _ h => h)
  rintro w' ⟨hw', w, hw, hexec⟩
  exact ⟨hw', hw.2 ext role enabled privileged w' hstate hassume hexec⟩

theorem limited_configureDiscovered (aws : FixCloudAccountId → AwsAnswers) (account : CloudAccount) :
    Triple (fun w => Limited workspaceId limit w₀ w ∧ discoverGuard workspaceId limit aws account w)
      (configureDiscovered (aws account.id) account) (fun _ => Limited workspaceId limit w₀)
      (Limited workspaceId limit w₀) := by
  have hutc : Triple (fun w => Limited workspaceId limit w₀ w ∧ discoverGuard workspaceId limit aws account w) utc
      (fun _ => Limited workspaceId limit w₀) (Limited workspaceId limit w₀) :=
    Triple.imp (keeps_utc framed_limited) (fun w hw => hw.1) (fun _ _ h => h) (fun _ h => h)
  refine Triple.bind hutc.with_exec fun now => ?_
  split
  · refine Triple.imp (Keeps.bind (closed_limited.tolerant.degradeAccount ⟨nofun, nofun, nofun⟩ _ _ _)
      fun _ => Keeps.pure _)
      (fun w hw => hw.1) (fun _ _ h => h) (fun _ h => h)
  · rename_i hrecent
    refine Triple.tryCatch (Triple.bind (Triple.imp (limited_configureAccount account false (aws account.id)) ?_
      (fun _ _ h => h) (fun _ h => h)) fun _ => Keeps.pure _) fun _ => Keeps.pure _
    rintro w' ⟨hw', w, hw, hexec⟩
    exact ⟨hw', hw.2 now w' hexec hrecent⟩

theorem limited_processCollected (nextRun : Option DateTime) (failed : Bool)
    (item : FixCloudAccountId × CloudAccountCollectInfo) :
    Triple (fun w => Limited workspaceId limit w₀ w ∧ collectGuard workspaceId limit nextRun failed item w)
      (processCollected nextRun failed item) (fun _ => Limited workspaceId limit w₀)
      (Limited workspaceId limit w₀) := by
  have hrecord : Triple
      (fun w => Limited workspaceId limit w₀ w ∧ collectGuard workspaceId limit nextRun failed item w)
      (recordCollected nextRun failed item) (fun _ => Limited workspaceId limit w₀) (Limited workspaceId limit w₀) :=
    Triple.imp (closed_limited.tolerant.recordCollected ⟨nofun, nofun, nofun⟩ ⟨nofun, nofun, nofun⟩ nextRun failed item)
      (fun w hw => hw.1) (fun _ _ h => h) (fun _ h => h)
  refine Triple.bind hrecord.with_exec fun updated => ?_
  split
  · rename_i hback
    refine Triple.bind (Triple.imp (limited_undegradeAccount updated.id) ?_ (fun _ _ h => h) (fun _ h => h))
      fun _ => Keeps.pure _
    rintro w' ⟨hw', w, hw, hexec⟩
    exact ⟨hw', hw.2 updated w' hexec hback⟩
  · exact Triple.pure _ fun w hw => hw.1

/-! ## The checked steps -/

/-- The only limit of a tier is one account. -/
theorem accountLimit_eq_one {tier : ProductTier} {limit : Nat}
    (h : (productTierSettings tier).accountLimit = some limit) : limit = 1 := by
  cases tier <;> cases h
  rfl

theorem limitedTo_accountLimit {workspace : Workspace} (h : w₀.limitedTo workspaceId limit)
    (hfind : getWorkspace w₀.organizations workspaceId = some workspace) {now : DateTime}
    (hnow : ∃ n, now = w₀.clock n) : workspace.accountLimit now = some limit := by
  obtain ⟨workspace', hfind', hlimit⟩ := h
  obtain ⟨n, rfl⟩ := hnow
  rw [hfind] at hfind'
  cases hfind'
  have hone := accountLimit_eq_one (hlimit n)
  unfold Workspace.accountLimit
  rw [hlimit n, hone]
  rfl

theorem id_of_getWorkspace {orgs : Organizations} {id : WorkspaceId} {workspace : Workspace}
    (h : getWorkspace orgs id = some workspace) : workspace.id = id := by
  unfold getWorkspace at h
  cases hfind : orgs.find id with
  | none => rw [hfind] at h; cases h
  | some o =>
    rw [hfind] at h
    cases h
    have hid : o.id = id := Table.key_of_find hfind
    exact hid

/-- **A check that finds fewer accounts than the limit leaves a slot free**, also where old rows are not counted. -/
theorem readyCount_lt_of_check {w : World} {p : AccountRow → Bool} (hold : freeSlotForOld workspaceId limit w)
    (hp : ∀ r, r.tenantId = workspaceId → r.state = some .configured → r.enabled = true → p r = true)
    (hcheck : w.accounts.count p < limit) : w.readyCount workspaceId < limit := by
  by_cases h : ∃ r ∈ w.accounts.rows, r.tenantId = workspaceId ∧ r.state = none
  · exact hold h
  · refine Nat.lt_of_le_of_lt (List.countP_mono_left fun r hr hready => ?_) hcheck
    unfold ready at hready
    simp only [Bool.and_eq_true, decide_eq_true_eq] at hready
    obtain ⟨⟨htenant, hname⟩, henabled⟩ := hready
    refine hp r htenant ?_ henabled
    cases hstate : r.state with
    | none => exact absurd ⟨r, hr, htenant, hstate⟩ h
    | some name =>
      rw [AccountRow.stateName, hstate] at hname
      rw [← hname]
      rfl

theorem framed_freeSlotForOld : Framed (freeSlotForOld workspaceId limit) := by
  intro w w' hacc _ _ _ h
  have hcount : w'.readyCount workspaceId = w.readyCount workspaceId := by rw [World.readyCount, hacc]; rfl
  unfold freeSlotForOld
  rw [hacc, hcount]
  exact h

/-- The limit is kept and the old rows leave a slot. -/
def Checked (workspaceId : WorkspaceId) (limit : Nat) (w₀ w : World) : Prop :=
  Limited workspaceId limit w₀ w ∧ freeSlotForOld workspaceId limit w

theorem framed_checked : Framed (Checked workspaceId limit w₀) := framed_and framed_limited framed_freeSlotForOld

theorem checked_shouldBeEnabled (hlimit : w₀.limitedTo workspaceId limit) {workspace : Workspace}
    (hfind : workspace.id = workspaceId → getWorkspace w₀.organizations workspaceId = some workspace) :
    Triple (Checked workspaceId limit w₀) (shouldBeEnabled workspace)
      (fun enabled w => Checked workspaceId limit w₀ w ∧
        (enabled = true → workspace.id = workspaceId → w.readyCount workspaceId < limit))
      (Limited workspaceId limit w₀) := by
  refine Triple.bind (triple_utc framed_checked) fun now => ?_
  refine Triple.bind (R := fun within w => Checked workspaceId limit w₀ w ∧
    (within = true → workspace.id = workspaceId → w.readyCount workspaceId < limit)) ?_ fun within => ?_
  · apply Triple.of_exec
    rintro w ⟨hw, n, rfl⟩
    unfold withinAccountLimit
    cases hl : workspace.accountLimit (w.clock n) with
    | none =>
      refine ⟨hw, fun _ hid => ?_⟩
      rw [limitedTo_accountLimit hlimit (hfind hid) ⟨n, by rw [hw.1.clock]⟩] at hl
      cases hl
    | some l =>
      refine ⟨hw, fun hlt hid => ?_⟩
      rw [limitedTo_accountLimit hlimit (hfind hid) ⟨n, by rw [hw.1.clock]⟩] at hl
      cases hl
      refine readyCount_lt_of_check hw.2 ?_ (of_decide_eq_true hlt)
      intro r htenant hstate _
      simp [htenant, hstate, hid, CloudAccountRepository.nonDeleted]
  · refine Triple.pure _ fun w hw => ⟨hw.1, fun henabled => hw.2 ?_⟩
    exact (Bool.and_eq_true_iff.1 henabled).1

theorem limited_createConfiguredAccount (hlimit : w₀.limitedTo workspaceId limit) (ws : WorkspaceId)
    (accountId : CloudAccountId) (access : CloudAccess) (accountName : Option CloudAccountName) :
    Triple (Checked workspaceId limit w₀) (createConfiguredAccount ws accountId access accountName)
      (fun _ => Limited workspaceId limit w₀) (Limited workspaceId limit w₀) := by
  refine Triple.get_bind fun w hw => ?_
  refine Triple.imp (P := Checked workspaceId limit w₀) ?_ (by rintro _ rfl; exact hw) (fun _ _ h => h) (fun _ h => h)
  cases hfound : getWorkspace w.organizations ws with
  | none => exact Triple.throw _ fun _ h => h.1
  | some workspace =>
    have hid : workspace.id = ws := id_of_getWorkspace hfound
    refine Triple.bind (triple_of_reads (CloudAccountRepository.getByAccountId_reads ws accountId) fun _ h => h.1)
      fun found => ?_
    cases found with
    | some existing => exact Triple.pure _ fun _ h => h.1
    | none =>
      refine Triple.bind (checked_shouldBeEnabled hlimit fun h => ?_) fun enabled => ?_
      · rw [← hw.1.organizations, ← h, hid, hfound]
      · -- the clock and the ids do not matter to the count
        have hframed : Framed fun w => Checked workspaceId limit w₀ w ∧
            (enabled = true → workspace.id = workspaceId → w.readyCount workspaceId < limit) := by
          refine framed_and framed_checked ?_
          intro w w' hacc _ _ _ h
          have hcount : w'.readyCount workspaceId = w.readyCount workspaceId := by rw [World.readyCount, hacc]; rfl
          rw [hcount]
          exact h
        have hlast : ∀ w, (Checked workspaceId limit w₀ w ∧
            (enabled = true → workspace.id = workspaceId → w.readyCount workspaceId < limit)) →
            Limited workspaceId limit w₀ w := fun w h => h.1.1
        refine Triple.bind (Triple.imp (keeps_utc hframed) (fun _ h => h) (fun _ _ h => h) hlast) fun createdAt => ?_
        refine Triple.bind (Triple.imp (keeps_uuid4 hframed) (fun _ h => h) (fun _ _ h => h) hlast) fun id => ?_
        refine Triple.bind (CloudAccountRepository.triple_create hlast fun w' hnone h => ?_) fun _ =>
          Keeps.bind (keeps_publish framed_limited _) fun _ => Keeps.pure _
        refine ⟨h.1.1.organizations, h.1.1.clock, ?_⟩
        rw [readyCount_insert]
        have hcount := h.1.1.count
        have hslot := h.2
        cases enabled with
        | false => simpa [newAccount, CloudAccountState.isReady] using hcount
        | true =>
          by_cases hws : ws = workspaceId
          · have := hslot rfl (hid.trans hws)
            simp [newAccount, CloudAccountState.isReady, hws]
            omega
          · simpa [newAccount, hws] using hcount

theorem setEnabled_ok {workspace : Workspace} {count : Nat} {now : DateTime} {a updated : CloudAccount}
    (h : setEnabled true workspace count now a = .ok updated) (hlimit : workspace.accountLimit now = some limit) :
    count < limit := by
  have hvalid : validateTierRestrictions true workspace count now = .ok () := by
    unfold setEnabled at h
    cases hv : validateTierRestrictions true workspace count now with
    | ok u => rfl
    | error e =>
      rw [hv] at h
      split at h <;> cases h
  unfold validateTierRestrictions at hvalid
  rw [hlimit] at hvalid
  by_contra hle
  simp [Nat.not_lt.1 hle] at hvalid

theorem triple_getCloudAccount (ws : WorkspaceId) (id : FixCloudAccountId) :
    Triple (Checked workspaceId limit w₀) (getCloudAccount id ws)
      (fun _ w => Checked workspaceId limit w₀ w ∧ ∃ row, w.accounts.find id = some row ∧ row.tenantId = ws)
      (Limited workspaceId limit w₀) := by
  refine Triple.bind (R := fun found w => Checked workspaceId limit w₀ w ∧ ∀ a, found = some a →
    ∃ row, w.accounts.find id = some row ∧ row.tenantId = a.workspaceId) ?_ fun found => ?_
  · intro w hw
    have hreads := CloudAccountRepository.get_reads id w
    refine ⟨fun found w' hexec => ?_, fun e w' hexec => ?_⟩ <;> rw [hexec] at hreads <;> subst hreads
    · refine ⟨hw, fun a ha => ?_⟩
      subst ha
      obtain ⟨-, row, nextScan, hfind, hmodel⟩ := CloudAccountRepository.get_ok hexec
      exact ⟨row, hfind, (AccountRow.toModel_ok hmodel).2.2.1.symm⟩
    · exact hw.1
  · cases found with
    | none => exact Triple.throw _ fun w hw => hw.1.1
    | some account =>
      dsimp only
      split
      · exact Triple.throw _ fun w hw => hw.1.1
      · rename_i hws
        refine Triple.pure _ fun w hw => ⟨hw.1, ?_⟩
        obtain ⟨row, hfind, htenant⟩ := hw.2 account rfl
        exact ⟨row, hfind, htenant.trans (not_not.1 hws)⟩

theorem limited_updateCloudAccountEnabled (hlimit : w₀.limitedTo workspaceId limit) (ws : WorkspaceId)
    (id : FixCloudAccountId) :
    Triple (Checked workspaceId limit w₀) (updateCloudAccountEnabled ws id true)
      (fun _ => Limited workspaceId limit w₀) (Limited workspaceId limit w₀) := by
  refine Triple.bind (triple_getCloudAccount ws id) fun _ => Triple.get_bind fun w hw => ?_
  refine Triple.imp (P := fun w' => w' = w) ?_ (fun _ h => h) (fun _ _ h => h) (fun _ h => h)
  cases hfound : getWorkspace w.organizations ws with
  | none => exact Triple.throw _ fun _ h => h ▸ hw.1.1
  | some workspace =>
    have hid : workspace.id = ws := id_of_getWorkspace hfound
    refine Triple.get_bind fun w' hw' => ?_
    subst hw'
    obtain ⟨hchecked, row, hrow, htenant⟩ := hw
    refine Triple.bind (R := fun _ => Limited workspaceId limit w₀) ?_ fun _ =>
      Keeps.bind (keeps_publish framed_limited _) fun _ => Keeps.pure _
    refine Triple.imp (P := fun w => Checked workspaceId limit w₀ w ∧ w.accounts = w'.accounts)
      (CloudAccountRepository.triple_update ?_ (fun w h => h.1.1) ?_) (by rintro _ rfl; exact ⟨hchecked, rfl⟩)
      (fun _ _ h => h) (fun _ h => h)
    · refine framed_and framed_checked fun w w'' hacc _ _ _ h => hacc.trans h
    · intro w row' a now updated updatedAt h hfind hmodel hnow hok
      have hid' : row'.id = id := Table.key_of_find hfind
      refine h.1.1.commit (hid' ▸ hfind) hmodel (within_setEnabled true workspace _ now a updated hok) updatedAt ?_
      intro hws _
      right
      -- the account is one of `ws`, so the count that was checked is the one of the limited workspace
      have hrows : row' = row := by
        rw [h.2, hrow] at hfind
        exact (Option.some_inj.1 hfind).symm
      have hsame : ws = workspaceId := by
        rw [← htenant, ← hrows, ← (AccountRow.toModel_ok hmodel).2.2.1, hws]
      have hworkspace : getWorkspace w₀.organizations workspaceId = some workspace := by
        rw [← hchecked.1.organizations, ← hsame, hfound]
      have hcheck := setEnabled_ok hok (limitedTo_accountLimit hlimit hworkspace (by rw [← h.1.1.clock]; exact hnow))
      refine readyCount_lt_of_check h.1.2 ?_ (by rw [h.2]; exact hcheck)
      intro r hr hstate henabled
      simp [hr, hsame, hstate, henabled, CloudAccountRepository.readyForCollection]

/-! ## Runs -/

theorem limited_operation (hlimit : w₀.limitedTo workspaceId limit) (op : Operation) {w : World}
    (h : Limited workspaceId limit w₀ w) (hguard : op.guarded workspaceId limit w) :
    Limited workspaceId limit w₀ (op.run w) := by
  have hclosed : Closed (Limited workspaceId limit w₀) checkedKind := closed_limited
  have htolerant := hclosed.tolerant
  have hnamed : checkedKind .named := ⟨nofun, nofun, nofun⟩
  have hdeg : checkedKind .degraded := ⟨nofun, nofun, nofun⟩
  have hdis : checkedKind .discovered := ⟨nofun, nofun, nofun⟩
  have hdiscard : ∀ {α : Type} {m : Service α} {P : World → Prop},
      Triple P m (fun _ => Limited workspaceId limit w₀) (Limited workspaceId limit w₀) → P w →
      Limited workspaceId limit w₀ (exec (discarded m) w).2 := fun hm hP =>
    Triple.after (Triple.bind hm fun _ => Keeps.pure _) hP
  cases op with
  | createAwsAccount ws acc role ext name =>
    exact hdiscard (htolerant.createAwsAccount hnamed (fun _ => hdis) ws acc ext name) h
  | createGcpAccount ws acc key name =>
    exact hdiscard (limited_createConfiguredAccount hlimit ws acc _ name) ⟨h, hguard⟩
  | createAzureAccount ws acc credentials name =>
    exact hdiscard (limited_createConfiguredAccount hlimit ws acc _ name) ⟨h, hguard⟩
  | configureAccount account fromEvent aws =>
    exact hdiscard (limited_configureAccount account fromEvent aws) ⟨h, hguard⟩
  | configureDiscoveredAccounts aws =>
    have hlist : Triple (fun s => s = w) CloudAccountRepository.listAllDiscoveredAccounts (fun _ s => s = w)
        (Limited workspaceId limit w₀) :=
      triple_of_reads CloudAccountRepository.listAllDiscoveredAccounts_reads fun s hs => hs ▸ h
    refine Triple.after (Triple.bind hlist.with_exec fun accounts => ?_) rfl
    refine Triple.imp (Triple.forM_along (limited_configureDiscovered aws) accounts) ?_ (fun _ _ h => h) (fun _ h => h)
    rintro s ⟨rfl, s', rfl, hexec⟩
    exact ⟨h, hguard accounts s' hexec⟩
  | cfStackEvent accepts message =>
    exact hdiscard (htolerant.processCfStackEvent hclosed.answers hnamed hdeg accepts message fun _ _ _ => hdis) h
  | tenantAccountsCollected tenantId accounts failed nextRun =>
    have hlist : Triple (fun s => s = w) (CloudAccountRepository.list (accounts.map Prod.fst)) (fun _ s => s = w)
        (Limited workspaceId limit w₀) :=
      triple_of_reads (CloudAccountRepository.list_reads _) fun s hs => hs ▸ h
    refine Triple.after (Triple.bind hlist fun accounts => Triple.bind
      (Triple.imp (Triple.forM_along (limited_processCollected nextRun false) _) ?_ (fun _ _ h => h) (fun _ h => h))
      fun _ => hclosed.announceCollected _ _ _ _ _) rfl
    rintro s rfl
    exact ⟨h, hguard⟩
  | tenantAccountsCollectFailed accounts nextRun =>
    refine Keeps.after (Keeps.forM _ fun item _ => ?_) h
    refine Triple.imp (limited_processCollected nextRun true item) (fun s hs => ⟨hs, ?_⟩) (fun _ _ h => h)
      (fun _ h => h)
    intro updated w' _ hback
    simp at hback
  | updateCloudAccountEnabled ws id enabled =>
    cases enabled with
    | true => exact hdiscard (limited_updateCloudAccountEnabled hlimit ws id) ⟨h, hguard⟩
    | false =>
      have hoff : checkedKind (.enabled false) := ⟨nofun, nofun, nofun⟩
      exact hdiscard (htolerant.updateCloudAccountEnabled hoff ws id) h
  | updateCloudAccountScanEnabled ws id scan =>
    exact hdiscard (htolerant.updateCloudAccountScanEnabled ⟨nofun, nofun, nofun⟩ ws id scan) h
  | disableCloudAccount ws id => exact hdiscard (htolerant.disableCloudAccount ⟨nofun, nofun, nofun⟩ ws id) h
  | deleteCloudAccount user id ws =>
    exact (htolerant.deleteCloudAccount ⟨nofun, nofun, nofun⟩ user id ws).after h

theorem limited_runAll (hlimit : w₀.limitedTo workspaceId limit) :
    ∀ (ops : List Operation) {w : World}, Limited workspaceId limit w₀ w → Guarded workspaceId limit w ops →
      ∀ pre post, ops = pre ++ post → Limited workspaceId limit w₀ (runAll pre w)
  | [], w, h, _, pre, post, hops => by
    obtain ⟨rfl, -⟩ := List.append_eq_nil_iff.1 hops.symm
    exact h
  | op :: ops, w, h, hguard, [], _, _ => h
  | op :: ops, w, h, hguard, op' :: pre, post, hops => by
    rw [List.cons_append, List.cons_eq_cons] at hops
    obtain ⟨rfl, hrest⟩ := hops
    exact limited_runAll hlimit ops (limited_operation hlimit op h hguard.1) hguard.2 pre post hrest

/-- **The account limit holds over every guarded run**, in every state between two operations. -/
theorem runAll_readyCount_le (w : World) (workspaceId : WorkspaceId) (limit : Nat)
    (hlimit : w.limitedTo workspaceId limit) (hstart : w.readyCount workspaceId ≤ limit) (ops : List Operation)
    (hguard : Guarded workspaceId limit w ops) (pre post : List Operation) (hops : ops = pre ++ post) :
    (runAll pre w).readyCount workspaceId ≤ limit :=
  (limited_runAll hlimit ops ⟨rfl, rfl, hstart⟩ hguard pre post hops).count

/-! ## Two accounts of a free workspace -/

def freeOrganization : Organization where
  id := 1
  slug := "acme"
  name := "acme"
  externalId := 2
  ownerId := 3
  members := [3]
  tier := .free
  subscriptionId := none
  paymentOnHoldSince := none
  createdAt := ⟨⟨2024, 1, 1, valid_newYear⟩, 0, midnight_inDay⟩
  updatedAt := ⟨⟨2024, 1, 1, valid_newYear⟩, 0, midnight_inDay⟩
  highestCurrentCycleTier := none
  currentCycleEndsAt := none
  tierUpdatedAt := none

/-- The free workspace without accounts; the clock stands still. -/
def freeWorld : World where
  accounts := ⟨[], List.nodup_nil⟩
  organizations := ⟨[freeOrganization], by decide⟩
  nextRuns := ⟨[], List.nodup_nil⟩
  clock := fun _ => ⟨⟨2024, 1, 2, valid_january2⟩, 0, midnight_inDay⟩
  ticks := 0
  nextUuid := 10
  accountFailedResourceCount := 0
  published := []
  notices := []
  cfResponses := []
  cfFailures := 0
  commits := []

theorem freeWorld_limitedTo : freeWorld.limitedTo 1 1 := ⟨freeOrganization.toModel none, by decide, fun _ => rfl⟩

/-- An account of the free workspace as `create_aws_account` returns it. -/
def discoveredAccount (id : FixCloudAccountId) (accountId : CloudAccountId) (enabled : Bool) : CloudAccount :=
  newAccount id accountId 1 .aws (.discovered (.aws 2 "role") enabled) none
    ⟨⟨2024, 1, 2, valid_january2⟩, 0, midnight_inDay⟩

theorem discoveredAccount_unique :
    ([AccountRow.ofModel (discoveredAccount 10 "111111111111" true)].map AccountRow.id).Nodup := by decide

def assumed : AwsAnswers := ⟨.success, none, [], none⟩

/-- The first account is configured, and a second one of another cloud cannot be enabled beside it. -/
def inTurn : List Operation :=
  [.createAwsAccount 1 "111111111111" (some "role") 2 none,
    .configureAccount (discoveredAccount 10 "111111111111" true) true assumed,
    .createGcpAccount 1 "project" 20 none, .updateCloudAccountEnabled 1 11 true]

theorem inTurn_guarded : Guarded 1 1 freeWorld inTurn := by
  refine ⟨trivial, ?_, ?_, ?_, trivial⟩
  · intro ext role enabled privileged w' hstate _ hexec row a _ _ _ _ _
    cases hstate
    cases hexec
    decide
  · simp only [Operation.guarded, freeSlotForOld]
    decide
  · simp only [Operation.guarded, freeSlotForOld]
    decide

theorem runAll_readyCount_le_inTurn : (runAll inTurn freeWorld).readyCount 1 ≤ 1 :=
  runAll_readyCount_le freeWorld 1 1 freeWorld_limitedTo (by decide) inTurn inTurn_guarded inTurn [] (by simp)

/-- The second account is created disabled, configured and enabled before the first one is configured. -/
def overtaking : List Operation :=
  [.createAwsAccount 1 "111111111111" (some "role") 2 none, .createAwsAccount 1 "222222222222" (some "role") 2 none,
    .configureAccount (discoveredAccount 11 "222222222222" false) true assumed, .updateCloudAccountEnabled 1 11 true,
    .configureAccount (discoveredAccount 10 "111111111111" true) true assumed]

theorem overtaking_exceeds_limit :
    freeWorld.limitedTo 1 1 ∧ freeWorld.readyCount 1 ≤ 1 ∧ (runAll overtaking freeWorld).readyCount 1 = 2 :=
  ⟨freeWorld_limitedTo, by decide, by decide⟩

end Fix
