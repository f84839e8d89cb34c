import FixBackend.AccountLimit
import FixBackend.Dispatcher
import FixBackend.IgnoredAccounts
import FixBackend.Machine
/-!
# IgnoreList — the accounts that the inventory is told to ignore

`_configure_disabled_accounts` of `inventory/inventory_service.py`, which writes the ignored accounts of a workspace
into the report configuration of its database when an account is switched.  The operations on accounts and the
handling of the events that they publish go on in any order.
-/
namespace Fix

open Calendar Effects Machine

def CloudAccount.enabledForScanning (a : CloudAccount) : Bool :=
  match a.state with
  | .configured _ _ scan => scan
  | _ => false

/-- `ignoreAccounts` is the value of `report_config.ignore_accounts` in the database of a workspace, `queue` the events
that are published and not yet handled. -/
structure Inventory where
  world : World
  queue : List DomainEvent
  databaseAccess : Table GraphDatabaseAccess.workspaceId
  ignoreAccounts : Dict WorkspaceId (List CloudAccountId)

namespace InventoryService

def inWorld {α : Type} (m : Service α) : Call Err Inventory α :=
  embed Inventory.world (fun s w => { s with world := w }) m

def updateConfig (db : GraphDatabaseAccess) (disabled : List CloudAccountId) : Call Err Inventory PUnit :=
  modify fun s => { s with ignoreAccounts := s.ignoreAccounts.put db.workspaceId disabled }

def configureDisabledAccounts (tenantId : WorkspaceId) : Call Err Inventory PUnit := do
  let s ← get
  match s.databaseAccess.find tenantId with
  | none => return
  | some db =>
    let acs ← inWorld (CloudAccountRepository.listReadyForCollection tenantId)
    updateConfig db ((acs.filter fun a => !a.enabledForScanning).map (·.accountId))

def handle (e : DomainEvent) : Call Err Inventory PUnit :=
  match e with
  | .cloudAccountScanToggled tenantId .. | .cloudAccountActiveToggled tenantId .. => configureDisabledAccounts tenantId
  | _ => pure ⟨⟩

/-! ## Runs -/

/-- An operation on an account, the handling of the next event, or a change of what other services store. -/
inductive Move where
  | createAwsAccount (workspaceId : WorkspaceId) (accountId : CloudAccountId) (roleName : Option AwsRoleName)
      (externalId : ExternalId) (accountName : Option CloudAccountName)
  | createGcpAccount (workspaceId : WorkspaceId) (accountId : CloudAccountId) (keyId : GcpServiceAccountKeyId)
      (accountName : Option CloudAccountName)
  | createAzureAccount (workspaceId : WorkspaceId) (accountId : CloudAccountId)
      (subscriptionCredentialsId : AzureSubscriptionCredentialsId) (accountName : Option CloudAccountName)
  | configureAccount (account : CloudAccount) (calledFromEvent : Bool) (aws : AwsAnswers)
  | degradeAccount (cloudAccountId : FixCloudAccountId) (error : String) (reason : DegradationReason)
  | undegradeAccount (cloudAccountId : FixCloudAccountId)
  | updateCloudAccountEnabled (workspaceId : WorkspaceId) (cloudAccountId : FixCloudAccountId) (enabled : Bool)
  | updateCloudAccountScanEnabled (workspaceId : WorkspaceId) (cloudAccountId : FixCloudAccountId) (scan : Bool)
  | deleteCloudAccount (userId : UserId) (cloudAccountId : FixCloudAccountId) (workspaceId : WorkspaceId)
  | handles
  | elsewhere (organizations : Organizations) (databaseAccess : Table GraphDatabaseAccess.workspaceId)

def Move.call : Move → Option (Service PUnit)
  | .createAwsAccount ws acc role ext name => some (discarded (Fix.createAwsAccount ws acc role ext name))
  | .createGcpAccount ws acc key name => some (discarded (Fix.createGcpAccount ws acc key name))
  | .createAzureAccount ws acc credentials name => some (discarded (Fix.createAzureAccount ws acc credentials name))
  | .configureAccount account fromEvent aws => some (discarded (Fix.configureAccount account fromEvent aws))
  | .degradeAccount id error reason => some (discarded (Fix.degradeAccount id error reason))
  | .undegradeAccount id => some (discarded (Fix.undegradeAccount id))
  | .updateCloudAccountEnabled ws id enabled => some (discarded (Fix.updateCloudAccountEnabled ws id enabled))
  | .updateCloudAccountScanEnabled ws id scan => some (discarded (Fix.updateCloudAccountScanEnabled ws id scan))
  | .deleteCloudAccount user id ws => some (Fix.deleteCloudAccount user id ws)
  | .handles | .elsewhere .. => none

/-- The operation is called, and what it publishes is queued. -/
def called (m : Service PUnit) (s : Inventory) : Inventory :=
  let w := (exec m { s.world with published := [] }).2
  { s with world := w, queue := s.queue ++ w.published }

/-- One move; an event is gone from the queue also when its handling raises. -/
def step (s : Inventory) (move : Move) : Option Inventory :=
  match move.call, move with
  | some m, _ => some (called m s)
  | none, .elsewhere organizations databaseAccess =>
    some { s with world := { s.world with organizations := organizations }, databaseAccess := databaseAccess }
  | none, _ =>
    match s.queue with
    | [] => none
    | e :: rest => some (exec (handle e) { s with queue := rest }).2

/-! ## The list follows the accounts -/

/-- The accounts of the workspace that are configured and enabled and not scanned. -/
def shouldIgnore (w : World) (workspaceId : WorkspaceId) : Set CloudAccountId :=
  { accountId | ∃ r ∈ w.accounts.rows, r.tenantId = workspaceId ∧ r.accountId = accountId ∧
    ∃ access, r.accountState = .ok (.configured access true false) }

/-- The accounts that the inventory of the workspace ignores; none before anything is written. -/
def ignores (s : Inventory) (workspaceId : WorkspaceId) : Set CloudAccountId :=
  { accountId | accountId ∈ (s.ignoreAccounts.get workspaceId).getD [] }

/-- When all events are handled, each workspace ignores the accounts that it should. -/
def ListFollows (s : Inventory) : Prop :=
  s.queue = [] → ∀ workspaceId, ignores s workspaceId = shouldIgnore s.world workspaceId

/-- No accounts, and nothing that the inventory was told or is to be told. -/
structure Fresh (s : Inventory) : Prop where
  accounts : s.world.accounts.rows = []
  queue : s.queue = []
  ignoreAccounts : s.ignoreAccounts.rows = []

def ignored (w : World) (id : FixCloudAccountId) : Bool := (w.accounts.find id).any (·.ignored)

/-- A move that leaves what is to be ignored as it is, or a switch of an account, and no toggle is handled without the
database of its workspace. -/
def ToggledOnly (s : Inventory) : Move → Prop
  | .createAwsAccount workspaceId accountId roleName externalId _ =>
    IgnoreInvariant.KeepsAccess workspaceId accountId roleName externalId s.world
  | .configureAccount account calledFromEvent aws =>
    aws.canAssumeRole ≠ .success → calledFromEvent = false → ignored s.world account.id = false
  | .degradeAccount id _ _ => ignored s.world id = false
  | .undegradeAccount id => ∀ r ∈ s.world.accounts.find id, r.state = some .degraded → r.enabled = true → r.scan = true
  | .deleteCloudAccount _ id workspaceId =>
    ∀ r ∈ s.world.accounts.find id, r.ignored = true → r.tenantId ≠ workspaceId
  | .handles => ∀ e ∈ s.queue.head?, ∀ workspaceId ∈ e.toggles, (s.databaseAccess.find workspaceId).isSome
  | _ => True

instance decidableToggledOnly (s : Inventory) (move : Move) : Decidable (ToggledOnly s move) := by
  cases move <;> unfold ToggledOnly <;> first | infer_instance | (unfold IgnoreInvariant.KeepsAccess; infer_instance)

/-! ## What is written -/

section Written

variable {w : World} {workspaceId : WorkspaceId}

theorem mem_shouldIgnore (hw : w.Sound) (accountId : CloudAccountId) :
    accountId ∈ shouldIgnore w workspaceId ↔ w.Ignores workspaceId accountId := by
  constructor
  · rintro ⟨r, hr, htenant, haccount, access, hstate⟩
    have hfind := (Table.find_eq_some_iff w.accounts r.id r).2 ⟨hr, rfl⟩
    obtain ⟨a, ha, hs⟩ := AccountRow.exists_toModel hstate none
    refine ⟨r.id, r, hfind, ?_, htenant, haccount⟩
    rw [← AccountRow.toModel_ignored (hw _ r hfind) ha, hs]
    rfl
  · rintro ⟨id, r, hfind, hignored, htenant, haccount⟩
    refine ⟨r, Table.mem_of_find hfind, htenant, haccount, ?_⟩
    unfold AccountRow.ignored CloudAccountRepository.readyForCollection at hignored
    simp only [Bool.and_eq_true, decide_eq_true_eq, Bool.not_eq_true'] at hignored
    obtain ⟨⟨hstate, henabled⟩, hscan⟩ := hignored
    obtain ⟨access, haccess⟩ := (hw id r hfind).configured hstate
    refine ⟨access, ?_⟩
    unfold AccountRow.accountState AccountRow.stateName
    rw [hstate, haccess, henabled, hscan]
    rfl

theorem toModel_of_ready {r : AccountRow} (hr : r.Sound) (hready : CloudAccountRepository.readyForCollection r = true)
    (nextScan : Option DateTime) :
    ∃ a, r.toModel nextScan = .ok a ∧ a.enabledForScanning = r.scan ∧ a.accountId = r.accountId := by
  unfold CloudAccountRepository.readyForCollection at hready
  rw [Bool.and_eq_true, decide_eq_true_eq] at hready
  obtain ⟨access, haccess⟩ := hr.configured hready.1
  have hstate : r.accountState = .ok (.configured access r.enabled r.scan) := by
    unfold AccountRow.accountState AccountRow.stateName
    rw [hready.1, haccess]
    rfl
  obtain ⟨a, ha, hs⟩ := AccountRow.exists_toModel hstate nextScan
  refine ⟨a, ha, ?_, (AccountRow.toModel_ok ha).2.2.2.2⟩
  unfold CloudAccount.enabledForScanning
  rw [hs]

/-- **The accounts that are ready can be read, and those that are not scanned are the ignored ones.** -/
theorem exec_listReadyForCollection (hw : w.Sound) (workspaceId : WorkspaceId) : ∃ acs,
    exec (CloudAccountRepository.listReadyForCollection workspaceId) w = (.ok acs, w) ∧
      ∀ accountId, accountId ∈ (acs.filter fun a => !a.enabledForScanning).map (·.accountId) ↔
        w.Ignores workspaceId accountId := by
  let listed := w.accounts.rows.filter fun r =>
    decide (r.tenantId = workspaceId) && CloudAccountRepository.readyForCollection r
  let nextScan := (w.nextRuns.find workspaceId).map (·.time)
  have hlisted : ∀ r, r ∈ listed ↔ r ∈ w.accounts.rows ∧ r.tenantId = workspaceId ∧
      CloudAccountRepository.readyForCollection r = true := fun r => by
    rw [List.mem_filter, Bool.and_eq_true, decide_eq_true_eq]
  have hsound : ∀ r ∈ w.accounts.rows, r.Sound := fun r hr => hw r.id r ((Table.find_eq_some_iff _ _ _).2 ⟨hr, rfl⟩)
  have hread : ∀ r ∈ listed, ∃ a, r.toModel nextScan = .ok a := fun r hr => by
    obtain ⟨hmem, -, hready⟩ := (hlisted r).1 hr
    obtain ⟨a, ha, -⟩ := toModel_of_ready (hsound r hmem) hready nextScan
    exact ⟨a, ha⟩
  obtain ⟨acs, hacs⟩ := exists_mapM_ok_iff.2 hread
  refine ⟨acs, ?_, fun accountId => ?_⟩
  · unfold CloudAccountRepository.listReadyForCollection
    rw [exec_bind, exec_getNextScan]
    dsimp only
    rw [exec_bind, exec_get]
    dsimp only
    rw [exec_lift]
    exact congrArg (·, w) hacs
  · rw [List.mem_map]
    constructor
    · rintro ⟨a, ha, rfl⟩
      obtain ⟨hmem, hscan⟩ := List.mem_filter.1 ha
      obtain ⟨r, hr, hmodel⟩ := (mem_of_mapM_ok hacs a).1 hmem
      obtain ⟨hrow, htenant, hready⟩ := (hlisted r).1 hr
      obtain ⟨a', ha', hscan', haccount⟩ := toModel_of_ready (hsound r hrow) hready nextScan
      cases hmodel.symm.trans ha'
      rw [hscan'] at hscan
      refine ⟨r.id, r, (Table.find_eq_some_iff _ _ _).2 ⟨hrow, rfl⟩, ?_, htenant, haccount.symm⟩
      unfold AccountRow.ignored
      rw [hready, hscan]
      rfl
    · rintro ⟨id, r, hfind, hignored, htenant, rfl⟩
      unfold AccountRow.ignored at hignored
      rw [Bool.and_eq_true] at hignored
      have hrow := Table.mem_of_find hfind
      obtain ⟨a, ha, hscan, haccount⟩ := toModel_of_ready (hsound r hrow) hignored.1 nextScan
      refine ⟨a, List.mem_filter.2 ⟨(mem_of_mapM_ok hacs a).2 ⟨r, (hlisted r).2 ⟨hrow, htenant, hignored.1⟩, ha⟩, ?_⟩,
        haccount⟩
      rw [hscan]
      exact hignored.2

end Written

/-- The list of the workspace is what it should ignore now. -/
def Follows (s : Inventory) (workspaceId : WorkspaceId) : Prop :=
  ∀ accountId, accountId ∈ ignores s workspaceId ↔ s.world.Ignores workspaceId accountId

/-- **A toggle that is handled brings the list up to date.** -/
theorem exec_configureDisabledAccounts {s : Inventory} {workspaceId : WorkspaceId} {db : GraphDatabaseAccess}
    (hs : s.world.Sound) (hdb : s.databaseAccess.find workspaceId = some db) : ∃ list,
      exec (configureDisabledAccounts workspaceId) s =
        (.ok ⟨⟩, { s with ignoreAccounts := s.ignoreAccounts.put workspaceId list }) ∧
      ∀ accountId, accountId ∈ list ↔ s.world.Ignores workspaceId accountId := by
  obtain ⟨acs, hacs, hlist⟩ := exec_listReadyForCollection hs workspaceId
  refine ⟨_, ?_, hlist⟩
  unfold configureDisabledAccounts
  rw [exec_bind, exec_get]
  dsimp only
  rw [hdb]
  dsimp only
  rw [exec_bind, inWorld, exec_embed, hacs]
  dsimp only
  rw [updateConfig, exec_modify, (Table.key_of_find hdb : db.workspaceId = workspaceId)]

/-! ## Moves -/

theorem stored_of_ignored {w : World} {id : FixCloudAccountId} (h : ignored w id = false) :
    IgnoreInvariant.Stored id (·.ignored = false) w := by
  intro r hr
  unfold ignored at h
  rw [hr, Option.any_some] at h
  exact h

/-- A workspace whose list is behind has a toggle in the queue. -/
structure InStep (s : Inventory) : Prop where
  sound : s.world.Sound
  behind : ∀ workspaceId, Follows s workspaceId ∨ ∃ e ∈ s.queue, e.toggles = some workspaceId

theorem inStep_called {s : Inventory} {m : Service PUnit} (hs : InStep s)
    (h : Toggled { s.world with published := [] } (exec m { s.world with published := [] }).2) :
    InStep (called m s) := by
  refine ⟨h.sound, fun workspaceId => ?_⟩
  rcases h.toggles workspaceId with hsame | ⟨e, he, htoggles⟩
  · rcases hs.behind workspaceId with hfollows | ⟨e, he, htoggles⟩
    · exact .inl fun accountId => (hfollows accountId).trans (hsame accountId).symm
    · exact .inr ⟨e, List.mem_append_left _ he, htoggles⟩
  · exact .inr ⟨e, List.mem_append_right _ he, htoggles⟩

theorem inStep_handles {s : Inventory} {e : DomainEvent} {rest : List DomainEvent} (hs : InStep s)
    (hqueue : s.queue = e :: rest)
    (hdb : ∀ workspaceId ∈ e.toggles, (s.databaseAccess.find workspaceId).isSome) :
    InStep (exec (handle e) { s with queue := rest }).2 := by
  have hrest : ∀ workspaceId, e.toggles ≠ some workspaceId →
      Follows s workspaceId ∨ ∃ e' ∈ rest, e'.toggles = some workspaceId := fun workspaceId hne => by
    refine (hs.behind workspaceId).imp_right ?_
    rintro ⟨e', he', htoggles⟩
    rw [hqueue] at he'
    rcases List.mem_cons.1 he' with rfl | hmem
    · exact absurd htoggles hne
    · exact ⟨e', hmem, htoggles⟩
  cases htoggles : e.toggles with
  | none =>
    have hhandle : handle e = pure ⟨⟩ := by cases e <;> first | rfl | cases htoggles
    rw [hhandle]
    exact ⟨hs.sound, fun workspaceId => hrest workspaceId (by rw [htoggles]; exact nofun)⟩
  | some tenantId =>
    have hhandle : handle e = configureDisabledAccounts tenantId := by cases e <;> cases htoggles <;> rfl
    obtain ⟨db, hfind⟩ := Option.isSome_iff_exists.1 (hdb tenantId htoggles)
    obtain ⟨list, hexec, hlist⟩ := exec_configureDisabledAccounts (s := { s with queue := rest }) hs.sound hfind
    rw [hhandle, hexec]
    refine ⟨hs.sound, fun workspaceId => ?_⟩
    by_cases hw : workspaceId = tenantId
    · subst hw
      refine .inl fun accountId => ?_
      show accountId ∈ (Dict.get (s.ignoreAccounts.put workspaceId list) workspaceId).getD [] ↔ _
      rw [Dict.get_put_self]
      exact hlist accountId
    · refine (hrest workspaceId fun h => hw (Option.some_inj.1 (h.symm.trans htoggles))).imp_left fun hfollows
        accountId => ?_
      show accountId ∈ (Dict.get (s.ignoreAccounts.put tenantId list) workspaceId).getD [] ↔ _
      rw [Dict.get_put_of_ne _ _ hw]
      exact hfollows accountId

theorem toggled_call {s : Inventory} {move : Move} {m : Service PUnit} (hs : s.world.Sound) (hmove : ToggledOnly s move)
    (hm : move.call = some m) :
    Toggled { s.world with published := [] } (exec m { s.world with published := [] }).2 := by
  have hstart : World.Sound { s.world with published := [] } := hs
  have hdiscarded : ∀ {α : Type} {P Q : World → Prop} {m : Service α}, Triple P m (fun _ => Q) Q →
      Triple P (discarded m) (fun _ => Q) Q := fun h => Triple.bind h fun _ => Keeps.pure _
  have hkeeps : ∀ {α : Type} {m : Service α}, (∀ T, Keeps (Settled T) m) →
      Toggled { s.world with published := [] } (exec (discarded m) { s.world with published := [] }).2 := fun h =>
    toggled_of_settled (P := fun _ => True) hs trivial fun T =>
      hdiscarded ((h T).imp (fun _ h => h.1) (fun _ _ h => h) fun _ h => h)
  cases move with
  | createAwsAccount ws acc role ext name =>
    cases hm
    exact toggled_of_settled hs hmove fun T => hdiscarded
      ((ignoreInvariant_settled T).createAwsAccount ws acc role ext name)
  | createGcpAccount ws acc key name =>
    cases hm
    exact hkeeps fun T => (ignoreInvariant_settled T).createConfiguredAccount ws acc (.gcp key) name
  | createAzureAccount ws acc credentials name =>
    cases hm
    exact hkeeps fun T => (ignoreInvariant_settled T).createConfiguredAccount ws acc (.azure credentials) name
  | configureAccount account fromEvent aws =>
    cases hm
    exact toggled_of_settled hs (fun hfails hevent => stored_of_ignored (hmove hfails hevent)) fun T =>
      hdiscarded ((ignoreInvariant_settled T).configureAccount account fromEvent aws)
  | degradeAccount id error reason =>
    cases hm
    refine toggled_of_settled hs (stored_of_ignored hmove) fun T =>
      hdiscarded ((ignoreInvariant_settled T).degradeAccount id error reason)
  | undegradeAccount id =>
    cases hm
    exact toggled_of_settled hs (fun r hr => hmove r hr) fun T =>
      hdiscarded ((ignoreInvariant_settled T).undegradeAccount id)
  | updateCloudAccountEnabled ws id enabled =>
    cases hm
    exact Triple.after (hdiscarded (toggled_updateCloudAccountEnabled hstart ws id enabled)) rfl
  | updateCloudAccountScanEnabled ws id scan =>
    cases hm
    exact Triple.after (hdiscarded (toggled_updateCloudAccountScanEnabled hstart ws id scan)) rfl
  | deleteCloudAccount user id ws =>
    cases hm
    exact toggled_of_settled hs (fun r hr => hmove r hr) fun T =>
      (ignoreInvariant_settled T).deleteCloudAccount user id ws
  | handles => cases hm
  | elsewhere organizations databaseAccess => cases hm

theorem inStep_step {s s' : Inventory} {move : Move} (hs : InStep s) (hmove : ToggledOnly s move)
    (h : step s move = some s') : InStep s' := by
  unfold step at h
  cases hcall : move.call with
  | some m =>
    rw [hcall] at h
    cases h
    exact inStep_called hs (toggled_call hs.sound hmove hcall)
  | none =>
    rw [hcall] at h
    cases move with
    | elsewhere organizations databaseAccess =>
      cases h
      exact ⟨hs.sound, hs.behind⟩
    | handles =>
      dsimp only at h
      cases hqueue : s.queue with
      | nil => rw [hqueue] at h; cases h
      | cons e rest =>
        rw [hqueue] at h
        cases h
        refine inStep_handles hs hqueue (hmove e ?_)
        rw [hqueue]
        rfl
    | _ => cases hcall

theorem inStep_of_fresh {s : Inventory} (hs : Fresh s) : InStep s := by
  have hnone : ∀ id, s.world.accounts.find id = none := fun id => by
    unfold Table.find
    rw [hs.accounts]
    rfl
  refine ⟨fun id r hr => ?_, fun workspaceId => .inl fun accountId => ?_⟩
  · rw [hnone] at hr
    cases hr
  · have hlist : s.ignoreAccounts.get workspaceId = none := by
      rw [Dict.get_eq_none_iff, hs.ignoreAccounts]
      exact List.not_mem_nil
    unfold ignores
    rw [Set.mem_ofPred_eq, hlist]
    refine ⟨fun h => absurd h List.not_mem_nil, ?_⟩
    rintro ⟨id, r, hr, -⟩
    rw [hnone] at hr
    cases hr

/-- **The list follows the accounts** in every run that changes what is to be ignored by switching accounts only. -/
theorem listFollows_of_toggledOnly {s s' : Inventory} (hs : Fresh s) {moves : List Move}
    (hmoves : Along step ToggledOnly s moves) (hrun : run step s moves = some s') : ListFollows s' := by
  have hend := run_along (fun _ _ _ h hC hstep => inStep_step h hC hstep) (inStep_of_fresh hs) hmoves hrun
  intro hqueue workspaceId
  refine Set.ext fun accountId => ?_
  rw [mem_shouldIgnore hend.sound]
  rcases hend.behind workspaceId with hfollows | ⟨e, he, -⟩
  · exact hfollows accountId
  · rw [hqueue] at he
    exact absurd he List.not_mem_nil

/-! ### An account of the free workspace -/

def freeInventory : Inventory where
  world := freeWorld
  queue := []
  databaseAccess := ⟨[⟨1, "server", "fix", "secret", "one"⟩], oneDatabase_unique⟩
  ignoreAccounts := default

theorem fresh_freeInventory : Fresh freeInventory := ⟨rfl, rfl, rfl⟩

def switched : List Move :=
  [.createGcpAccount 1 "project" 20 none, .handles, .updateCloudAccountScanEnabled 1 10 false, .handles]

def switchedInventory : Inventory := (run step freeInventory switched).get (by decide +kernel)

theorem switched_listFollows : ListFollows switchedInventory :=
  @listFollows_of_toggledOnly freeInventory switchedInventory fresh_freeInventory switched (by decide +kernel)
    (Option.some_get _).symm

/-- The scan of an account is switched off while it is degraded, and the account comes back. -/
def recovered : List Move :=
  [.createAwsAccount 1 "111111111111" (some "role") 2 none,
    .configureAccount (discoveredAccount 10 "111111111111" true) true assumed,
    .degradeAccount 10 "Too many consecutive failed scans" .other, .updateCloudAccountScanEnabled 1 10 false,
    .undegradeAccount 10, .handles, .handles, .handles]

def recoveredInventory : Inventory := (run step freeInventory recovered).get (by decide +kernel)

theorem recovered_not_listFollows : Fresh freeInventory ∧ run step freeInventory recovered = some recoveredInventory ∧
    ¬ ListFollows recoveredInventory := by
  refine ⟨⟨rfl, rfl, rfl⟩, (Option.some_get _).symm, fun h => ?_⟩
  have hqueue : recoveredInventory.queue = [] := by decide +kernel
  have hlist : (recoveredInventory.ignoreAccounts.get 1).getD [] = [] := by decide +kernel
  have hrow : ∃ r ∈ recoveredInventory.world.accounts.rows, r.tenantId = 1 ∧ r.accountId = "111111111111" ∧
      r.accountState = .ok (.configured (.aws 2 "role") true false) := by decide +kernel
  obtain ⟨r, hr, htenant, haccount, hstate⟩ := hrow
  have hmem : "111111111111" ∈ shouldIgnore recoveredInventory.world 1 := ⟨r, hr, htenant, haccount, _, hstate⟩
  rw [← h hqueue 1] at hmem
  have hmem : "111111111111" ∈ (recoveredInventory.ignoreAccounts.get 1).getD [] := hmem
  rw [hlist] at hmem
  exact absurd hmem List.not_mem_nil

end InventoryService

end Fix
