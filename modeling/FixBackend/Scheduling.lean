import FixBackend.AccountStandings
import FixBackend.Dispatcher
/-!
# Scheduling — what a run of the scheduler enqueues and writes

A run of `schedule_next_runs` is a list of calls of `trigger_collect`, and the first pass over a workspace pings the
degraded accounts of every workspace, so that the later passes find none.  Each part of a run is told by the calls that
it makes (`Triggered`) and by the rows that it writes (`Scheduled`).
-/
namespace Fix

open Calendar Effects

namespace DispatcherService

/-! ## Calls of `trigger_collect` -/

structure Trigger where
  account : CloudAccount
  reason : CollectReason
  collectMicrosoftGraph : Bool

namespace Trigger

variable {t : Trigger} {d d' : Dispatcher}

def key (t : Trigger) : WorkspaceId × FixCloudAccountId := (t.account.workspaceId, t.account.id)

def run (t : Trigger) : Dispatching PUnit := triggerCollect t.account t.reason none none t.collectMicrosoftGraph

def request (t : Trigger) (d : Dispatcher) : Option CollectRequest :=
  if (d.collects.accountCollectState t.account.workspaceId t.account.id).isSome then none
  else
    match accountInformation t.account t.collectMicrosoftGraph d, d.databaseAccess.find t.account.workspaceId with
    | some info, some db => some ⟨db, info, none, none, t.account.id, t.reason⟩
    | _, _ => none

theorem request_eq_some {r : CollectRequest} (h : t.request d = some r) :
    d.collects.accountCollectState t.account.workspaceId t.account.id = none ∧
      accountInformation t.account t.collectMicrosoftGraph d = some r.account ∧
      d.databaseAccess.find t.account.workspaceId = some r.db ∧ r.cloudAccountId = t.account.id ∧
        r.reason = t.reason := by
  unfold request at h
  split at h
  · cases h
  · rename_i hongoing
    split at h
    · rename_i info db hinfo hdb
      cases h
      exact ⟨Option.not_isSome_iff_eq_none.1 hongoing, hinfo, hdb, rfl, rfl⟩
    · cases h

end Trigger

structure Triggered (calls : List Trigger) (d d' : Dispatcher) : Prop where
  requests : d'.collectQueue.map (·.request) = d.collectQueue.map (·.request) ++ calls.filterMap (·.request d)
  ongoing : ∀ ws id, (d'.collects.accountCollectState ws id).isSome = true ↔
    (d.collects.accountCollectState ws id).isSome = true ∨ ∃ t ∈ calls, t.key = (ws, id) ∧ (t.request d).isSome = true
  serviceAccountKeys : d'.serviceAccountKeys = d.serviceAccountKeys
  azureCredentials : d'.azureCredentials = d.azureCredentials
  databaseAccess : d'.databaseAccess = d.databaseAccess
  interval : d'.degradedAccountsPingIntervalHours = d.degradedAccountsPingIntervalHours

namespace Triggered

variable {calls calls' : List Trigger} {d d' d'' : Dispatcher} {t : Trigger}

theorem of_world (d : Dispatcher) (w : World) : Triggered [] d { d with world := w } :=
  ⟨(List.append_nil _).symm, fun _ _ => ⟨Or.inl, fun h => h.elim id fun ⟨_, ht, _⟩ => absurd ht List.not_mem_nil⟩,
    rfl, rfl,
    rfl, rfl⟩

theorem refl (d : Dispatcher) : Triggered [] d d := of_world d d.world

theorem accountInformation_eq (h : Triggered calls d d') (a : CloudAccount) (graph : Bool) :
    accountInformation a graph d' = accountInformation a graph d := by
  unfold accountInformation
  rw [h.serviceAccountKeys, h.azureCredentials]

theorem request_of_ongoing (h : Triggered calls d d')
    (hongoing : (d'.collects.accountCollectState t.account.workspaceId t.account.id).isSome =
      (d.collects.accountCollectState t.account.workspaceId t.account.id).isSome) : t.request d' = t.request d := by
  unfold Trigger.request
  rw [hongoing, h.accountInformation_eq, h.databaseAccess]

theorem request_eq (h : Triggered calls d d') (hkey : ∀ t' ∈ calls, t'.key ≠ t.key) : t.request d' = t.request d := by
  refine h.request_of_ongoing ?_
  rw [Bool.eq_iff_iff, h.ongoing]
  refine ⟨fun hor => hor.elim id ?_, Or.inl⟩
  rintro ⟨t', ht', heq, -⟩
  exact absurd heq (hkey t' ht')

theorem trans (h : Triggered calls d d') (h' : Triggered calls' d' d'')
    (hkeys : ∀ t ∈ calls, ∀ t' ∈ calls', t.key ≠ t'.key) : Triggered (calls ++ calls') d d'' := by
  have heq : ∀ t' ∈ calls', t'.request d' = t'.request d := fun t' ht' =>
    h.request_eq fun t ht => hkeys t ht t' ht'
  refine ⟨?_, fun ws id => ?_, h'.serviceAccountKeys.trans h.serviceAccountKeys,
    h'.azureCredentials.trans h.azureCredentials, h'.databaseAccess.trans h.databaseAccess,
    h'.interval.trans h.interval⟩
  · rw [h'.requests, h.requests, List.filterMap_append, List.append_assoc, List.filterMap_congr heq]
  · rw [h'.ongoing, h.ongoing, or_assoc]
    refine or_congr_right ?_
    constructor
    · rintro (⟨t, ht, hkey, hsome⟩ | ⟨t, ht, hkey, hsome⟩)
      · exact ⟨t, List.mem_append_left _ ht, hkey, hsome⟩
      · exact ⟨t, List.mem_append_right _ ht, hkey, heq t ht ▸ hsome⟩
    · rintro ⟨t, ht, hkey, hsome⟩
      rcases List.mem_append.1 ht with ht | ht
      · exact Or.inl ⟨t, ht, hkey, hsome⟩
      · exact Or.inr ⟨t, ht, hkey, (heq t ht).symm ▸ hsome⟩

end Triggered

/-- The tables of two worlds are the same, and so are their clocks. -/
structure SameTables (w w' : World) : Prop where
  accounts : w'.accounts = w.accounts
  organizations : w'.organizations = w.organizations
  nextRuns : w'.nextRuns = w.nextRuns
  clock : w'.clock = w.clock

theorem SameTables.refl (w : World) : SameTables w w := ⟨rfl, rfl, rfl, rfl⟩

theorem SameTables.trans {w w' w'' : World} (h : SameTables w w') (h' : SameTables w' w'') : SameTables w w'' :=
  ⟨h'.accounts.trans h.accounts, h'.organizations.trans h.organizations, h'.nextRuns.trans h.nextRuns,
    h'.clock.trans h.clock⟩

/-- **One call** gets through, and enqueues its request if it has one. -/
theorem Trigger.run_ok (t : Trigger) (d : Dispatcher) :
    ∃ d', exec t.run d = (.ok ⟨⟩, d') ∧ Triggered [t] d d' ∧ SameTables d.world d'.world := by
  have hrest : t.request d = none → Triggered [t] d d := by
    intro hnone
    refine ⟨?_, fun ws id => ⟨Or.inl, fun h => h.elim (fun h => h) ?_⟩, rfl, rfl, rfl, rfl⟩
    · rw [List.filterMap_cons, hnone]
      exact (List.append_nil _).symm
    · rintro ⟨t', ht', -, hsome⟩
      rw [List.mem_singleton.1 ht', hnone] at hsome
      cases hsome
  unfold run triggerCollect
  rw [exec_bind, exec_get]
  dsimp only
  by_cases hongoing : (d.collects.accountCollectState t.account.workspaceId t.account.id).isSome = true
  · rw [if_pos hongoing]
    refine ⟨d, rfl, hrest ?_, SameTables.refl _⟩
    unfold request
    rw [if_pos hongoing]
  · rw [if_neg hongoing]
    have hrequest : t.request d = match accountInformation t.account t.collectMicrosoftGraph d,
        d.databaseAccess.find t.account.workspaceId with
      | some info, some db => some ⟨db, info, none, none, t.account.id, t.reason⟩
      | _, _ => none := if_neg hongoing
    cases hinfo : accountInformation t.account t.collectMicrosoftGraph d with
    | none =>
      rw [hinfo] at hrequest
      exact ⟨d, rfl, hrest hrequest, SameTables.refl _⟩
    | some info =>
      cases hdb : d.databaseAccess.find t.account.workspaceId with
      | none =>
        rw [hinfo, hdb] at hrequest
        exact ⟨d, rfl, hrest hrequest, SameTables.refl _⟩
      | some db =>
        rw [hinfo, hdb] at hrequest
        refine ⟨_, rfl, ⟨?_, fun ws id => ?_, rfl, rfl, rfl, rfl⟩, rfl, rfl, rfl, rfl⟩
        · rw [List.filterMap_cons, hrequest]
          exact List.map_append
        · change ((d.collects.track t.account.workspaceId t.account.id info d.world.nextUuid
            (d.world.clock d.world.ticks)).accountCollectState ws id).isSome = true ↔ _
          rw [CollectStore.entry_track]
          have hone : (∃ t' ∈ [t], t'.key = (ws, id) ∧ (t'.request d).isSome = true) ↔
              ws = t.account.workspaceId ∧ id = t.account.id := by
            constructor
            · rintro ⟨t', ht', hkey, -⟩
              rw [List.mem_singleton.1 ht'] at hkey
              cases hkey
              exact ⟨rfl, rfl⟩
            · rintro ⟨rfl, rfl⟩
              exact ⟨t, List.mem_singleton_self t, rfl, by rw [hrequest]; rfl⟩
          rw [hone]
          split <;> simp_all

/-- **A loop of calls** for different accounts. -/
theorem forM_run_ok : ∀ (calls : List Trigger) (d : Dispatcher), (calls.map Trigger.key).Nodup →
    ∃ d', exec (calls.forM Trigger.run) d = (.ok ⟨⟩, d') ∧ Triggered calls d d' ∧ SameTables d.world d'.world
  | [], d, _ => ⟨d, rfl, Triggered.refl d, SameTables.refl _⟩
  | t :: calls, d, hkeys => by
    obtain ⟨hfresh, hkeys⟩ := List.nodup_cons.1 hkeys
    obtain ⟨d', hexec, htriggered, hsame⟩ := t.run_ok d
    obtain ⟨d'', hexec', htriggered', hsame'⟩ := forM_run_ok calls d' hkeys
    refine ⟨d'', ?_, htriggered.trans htriggered' fun t' ht' c hc heq => ?_, hsame.trans hsame'⟩
    · rw [forM_cons, exec_bind, hexec]
      exact hexec'
    · rw [List.mem_singleton.1 ht'] at heq
      exact hfresh (heq ▸ List.mem_map_of_mem hc)

/-! ## The accounts of one workspace -/

def collectReason (account : CloudAccount) : CollectReason :=
  if account.state.stateName = .degraded then .degradedAccountPing else .regularCollect

/-- The calls for the accounts of a pass; the flag goes to the first Azure account as long as no pass gave it away. -/
def triggers (azureGraphScheduled : Bool) : List CloudAccount → List Trigger
  | [] => []
  | a :: accounts =>
    ⟨a, collectReason a, decide (a.cloud = .azure) && !azureGraphScheduled⟩ ::
      triggers (azureGraphScheduled || decide (a.cloud = .azure)) accounts

theorem triggers_append (azureGraphScheduled : Bool) (accounts accounts' : List CloudAccount) :
    triggers azureGraphScheduled (accounts ++ accounts') = triggers azureGraphScheduled accounts ++
      triggers (azureGraphScheduled || accounts.any fun a => decide (a.cloud = .azure)) accounts' := by
  induction accounts generalizing azureGraphScheduled with
  | nil => rw [List.nil_append, List.any_nil, Bool.or_false]; rfl
  | cons a accounts ih =>
    rw [List.cons_append, triggers, ih, triggers, List.cons_append, List.any_cons, Bool.or_assoc]

theorem map_account_triggers (azureGraphScheduled : Bool) (accounts : List CloudAccount) :
    (triggers azureGraphScheduled accounts).map (·.account) = accounts := by
  induction accounts generalizing azureGraphScheduled with
  | nil => rfl
  | cons a accounts ih => rw [triggers, List.map_cons, ih]

def accountKey (a : CloudAccount) : WorkspaceId × FixCloudAccountId := (a.workspaceId, a.id)

theorem map_key_triggers (azureGraphScheduled : Bool) (accounts : List CloudAccount) :
    (triggers azureGraphScheduled accounts).map Trigger.key = accounts.map accountKey := by
  rw [← map_account_triggers azureGraphScheduled accounts, List.map_map, map_account_triggers]
  rfl

theorem exec_scheduleAccounts : ∀ (accounts : List CloudAccount) (azureGraphScheduled : Bool) (d d' : Dispatcher),
    exec ((triggers azureGraphScheduled accounts).forM Trigger.run) d = (.ok ⟨⟩, d') →
    exec (accounts.foldlM scheduleAccount azureGraphScheduled) d =
      (.ok (azureGraphScheduled || accounts.any fun a => decide (a.cloud = .azure)), d')
  | [], azureGraphScheduled, d, d', h => by
    cases h
    rw [List.any_nil, Bool.or_false]
    rfl
  | a :: accounts, azureGraphScheduled, d, d', h => by
    have hcons : (triggers azureGraphScheduled (a :: accounts)).forM Trigger.run =
        triggerCollect a (collectReason a) none none (decide (a.cloud = .azure) && !azureGraphScheduled) >>= fun _ =>
          (triggers (azureGraphScheduled || decide (a.cloud = .azure)) accounts).forM Trigger.run := rfl
    rw [hcons, exec_bind] at h
    obtain ⟨d₁, hexec, -, -⟩ :=
      Trigger.run_ok ⟨a, collectReason a, decide (a.cloud = .azure) && !azureGraphScheduled⟩ d
    rw [show exec (triggerCollect a (collectReason a) none none (decide (a.cloud = .azure) && !azureGraphScheduled)) d =
      (.ok ⟨⟩, d₁) from hexec] at h
    dsimp only at h
    have hstep : exec (scheduleAccount azureGraphScheduled a) d =
        (.ok (azureGraphScheduled || decide (a.cloud = .azure)), d₁) := by
      unfold scheduleAccount
      by_cases hazure : a.cloud = .azure ∧ azureGraphScheduled = false
      · dsimp only
        rw [if_pos hazure, exec_bind]
        have hflag : (decide (a.cloud = .azure) && !azureGraphScheduled) = true := by
          rw [hazure.2, decide_eq_true hazure.1]
          rfl
        have hexec' : exec (triggerCollect a (collectReason a) none none true) d = (.ok ⟨⟩, d₁) := by
          rw [← hflag]
          exact hexec
        unfold collectReason at hexec'
        rw [hexec', decide_eq_true hazure.1, Bool.or_true]
        rfl
      · dsimp only
        rw [if_neg hazure, exec_bind]
        have hflag : (decide (a.cloud = .azure) && !azureGraphScheduled) = false := by
          cases azureGraphScheduled with
          | true => exact Bool.and_false _
          | false => rw [decide_eq_false fun h => hazure ⟨h, rfl⟩, Bool.false_and]
        have hexec' : exec (triggerCollect a (collectReason a) none none false) d = (.ok ⟨⟩, d₁) := by
          rw [← hflag]
          exact hexec
        unfold collectReason at hexec'
        rw [hexec']
        have hscheduled : (azureGraphScheduled || decide (a.cloud = .azure)) = azureGraphScheduled := by
          cases azureGraphScheduled with
          | true => rfl
          | false => rw [decide_eq_false fun h => hazure ⟨h, rfl⟩, Bool.or_false]
        rw [hscheduled]
        rfl
    rw [List.foldlM_cons, exec_bind, hstep]
    dsimp only
    rw [exec_scheduleAccounts accounts _ d₁ d' h, List.any_cons, Bool.or_assoc]

end DispatcherService

/-! ## What a run writes -/

def AccountRow.pinged (now updatedAt : DateTime) (r : AccountRow) : AccountRow :=
  match r.toModel none with
  | .ok a => r.written { a with lastDegradedScanStartedAt := some now } updatedAt
  | .error _ => r

/-- The next run of a workspace after the run before it, with the tier at `at_` and the time at `now`. -/
def NextTenantRun.rescheduled (organizations : Organizations) (times : DateTime × DateTime) (run : NextTenantRun) :
    NextTenantRun :=
  match getWorkspace organizations run.tenantId with
  | some workspace => { run with time := nextRunFor (workspace.currentProductTier times.1) (some run.time) times.2 }
  | none => run

@[simp] theorem NextTenantRun.rescheduled_tenantId (organizations : Organizations) (times : DateTime × DateTime)
    (run : NextTenantRun) : (run.rescheduled organizations times).tenantId = run.tenantId := by
  unfold rescheduled
  cases getWorkspace organizations run.tenantId <;> rfl

namespace AccountRow

variable (now updatedAt : DateTime) (r : AccountRow)

theorem pinged_eq {a : CloudAccount} (h : r.toModel none = .ok a) :
    r.pinged now updatedAt = r.written { a with lastDegradedScanStartedAt := some now } updatedAt := by
  unfold pinged
  rw [h]

@[simp] theorem pinged_identity : (r.pinged now updatedAt).identity = r.identity := by
  unfold pinged
  cases h : r.toModel none with
  | error e => rfl
  | ok a =>
    obtain ⟨-, -, hworkspace, hcloud, haccount⟩ := toModel_ok h
    change (r.id, a.workspaceId, a.accountId, a.cloud) = _
    rw [hworkspace, hcloud, haccount]
    rfl

@[simp] theorem pinged_id : (r.pinged now updatedAt).id = r.id := congrArg (·.1) (pinged_identity now updatedAt r)

@[simp] theorem pinged_tenantId : (r.pinged now updatedAt).tenantId = r.tenantId :=
  congrArg (·.2.1) (pinged_identity now updatedAt r)

theorem toModel_lastDegradedScanStartedAt {r : AccountRow} {nextScan : Option DateTime} {a : CloudAccount}
    (h : r.toModel nextScan = .ok a) : a.lastDegradedScanStartedAt = r.lastDegradedScanStartedAt := by
  unfold toModel at h
  split at h
  · cases h
  · cases h
    rfl

theorem stateName_of_state {name : StateName} (h : r.state = some name) : r.stateName = name := by
  unfold stateName
  rw [h]
  rfl

end AccountRow

/-- What a part of a run leaves of the tables: the pinged accounts, and the workspaces that it moved to their next
run. -/
structure World.Scheduled (now : DateTime) (pinged : List FixCloudAccountId) (moved : List WorkspaceId) (w w' : World) :
    Prop where
  organizations : w'.organizations = w.organizations
  clock : w'.clock = w.clock
  accounts : ∃ stamp : FixCloudAccountId → Nat, w'.accounts.rows =
    Table.rewriteKeys AccountRow.id (fun n => AccountRow.pinged now (w.clock n)) pinged stamp w.accounts.rows
  nextRuns : ∃ stamp : WorkspaceId → Nat × Nat, w'.nextRuns.rows =
    Table.rewriteKeys NextTenantRun.tenantId
      (fun n => NextTenantRun.rescheduled w.organizations (w.clock n.1, w.clock n.2)) moved stamp w.nextRuns.rows

namespace World.Scheduled

variable {now : DateTime} {pinged pinged' : List FixCloudAccountId} {moved moved' : List WorkspaceId} {w w' w'' : World}

theorem of_sameTables (now : DateTime) (h : DispatcherService.SameTables w w') : w.Scheduled now [] [] w' :=
  ⟨h.organizations, h.clock, ⟨fun _ => 0, by rw [Table.rewriteKeys_nil, h.accounts]⟩,
    fun _ => (0, 0), by rw [Table.rewriteKeys_nil, h.nextRuns]⟩

theorem trans (h : w.Scheduled now pinged moved w') (h' : w'.Scheduled now pinged' moved' w'')
    (hpinged : ∀ id ∈ pinged, id ∉ pinged') (hmoved : ∀ ws ∈ moved, ws ∉ moved') :
    w.Scheduled now (pinged ++ pinged') (moved ++ moved') w'' := by
  obtain ⟨stamp, hrows⟩ := h.accounts
  obtain ⟨stamp', hrows'⟩ := h'.accounts
  obtain ⟨time, hruns⟩ := h.nextRuns
  obtain ⟨time', hruns'⟩ := h'.nextRuns
  rw [h.clock, hrows] at hrows'
  rw [h.clock, h.organizations, hruns] at hruns'
  refine ⟨h'.organizations.trans h.organizations, h'.clock.trans h.clock,
    ⟨fun id => if id ∈ pinged then stamp id else stamp' id, hrows'.trans ?_⟩,
    fun ws => if ws ∈ moved then time ws else time' ws, hruns'.trans ?_⟩
  · exact Table.rewriteKeys_append pinged pinged' stamp stamp' _ (fun _ r => AccountRow.pinged_id now _ r) hpinged
  · exact Table.rewriteKeys_append moved moved' time time' _
      (fun n r => NextTenantRun.rescheduled_tenantId w.organizations _ r) hmoved

theorem find_nextRuns (h : w.Scheduled now pinged moved w') {workspaceId : WorkspaceId} (hws : workspaceId ∉ moved) :
    w'.nextRuns.find workspaceId = w.nextRuns.find workspaceId := by
  obtain ⟨stamp, hrows⟩ := h.nextRuns
  rw [Table.find_of_rewriteKeys _ _ (fun n r => NextTenantRun.rescheduled_tenantId _ _ r) hrows]
  simp only [if_neg hws]
  exact Option.map_id'

theorem identities (h : w.Scheduled now pinged moved w') :
    w'.accounts.rows.map AccountRow.identity = w.accounts.rows.map AccountRow.identity := by
  obtain ⟨stamp, hrows⟩ := h.accounts
  rw [hrows]
  unfold Table.rewriteKeys
  rw [List.map_map]
  refine List.map_congr_left fun r _ => ?_
  rw [Function.comp_apply]
  split
  · exact AccountRow.pinged_identity now _ r
  · rfl

end World.Scheduled

theorem World.Unique.of_identities {w w' : World} (hu : w.Unique)
    (h : w'.accounts.rows.map AccountRow.identity = w.accounts.rows.map AccountRow.identity) : w'.Unique :=
  have halike : w.Alike { w with accounts := w'.accounts } := ⟨h, rfl, rfl, rfl, rfl⟩
  have hu' : World.Unique { w with accounts := w'.accounts } := hu.of_alike halike
  hu'

theorem CloudAccountRepository.exec_ping {now : DateTime} {w : World} {r : AccountRow} {a : CloudAccount}
    (hu : w.Unique)
    (hfind : w.accounts.find r.id = some r) (hr : r.toModel none = .ok a)
    (hold : r.lastDegradedScanStartedAt ≠ some now) :
    ∃ a', exec (update r.id (DispatcherService.setPinged now)) w =
      (.ok a', w.tick.tick.commit r (r.pinged now w.tick.now)) := by
  obtain ⟨hstate, -, hworkspace, hcloud, haccount⟩ := AccountRow.toModel_ok hr
  have hlast := AccountRow.toModel_lastDegradedScanStartedAt hr
  have hne : a ≠ { a with lastDegradedScanStartedAt := some now } := fun hsame =>
    hold (hlast.symm.trans (congrArg CloudAccount.lastDegradedScanStartedAt hsame))
  have hstorable : Storable r a { a with lastDegradedScanStartedAt := some now } :=
    ⟨rfl, rfl, rfl, rfl, fun access haccess => (AccountRow.accountState_cloud hstate haccess).trans hcloud.symm,
      AccountRow.not_unfit_of_state hr rfl (fun _ hx => hx) fun _ he => .inl he⟩
  have hrefusal := hstorable.not_refused hu (Table.mem_of_find hfind) hr w.tick.now
  rw [AccountRow.pinged_eq now w.tick.now r hr]
  rw [exec_update_written (f := DispatcherService.setPinged now) hfind hr rfl hne hrefusal, AccountRow.toModel_written]
  · exact ⟨_, rfl⟩
  · intro access haccess
    exact (AccountRow.accountState_cloud hstate haccess).trans hcloud.symm

/-! ## One pass -/

namespace World

def healthyAccounts (w : World) (workspaceId : WorkspaceId) : Except Err (List CloudAccount) :=
  (w.accounts.rows.filter fun r => decide (r.tenantId = workspaceId) &&
    CloudAccountRepository.readyForCollection r).mapM
    (·.toModel ((w.nextRuns.find workspaceId).map (·.time)))

def pingableRows (w : World) (now : DateTime) (interval : Nat) : List AccountRow :=
  w.accounts.rows.filter (CloudAccountRepository.degradedForPing now interval)

def passAccounts (w : World) (degraded : List AccountRow) (workspaceId : WorkspaceId) :
    Except Err (List CloudAccount) := do
  let healthyAccounts ← w.healthyAccounts workspaceId
  let degradedAccounts ← degraded.mapM (·.toModel none)
  match getWorkspace w.organizations workspaceId with
  | none => .error (.resourceNotFound s!"Organization {workspaceId} does not exist.")
  | some _ => .ok (healthyAccounts ++ degradedAccounts)

theorem passAccounts_eq_ok {w : World} {degraded : List AccountRow} {workspaceId : WorkspaceId}
    {accounts : List CloudAccount} : w.passAccounts degraded workspaceId = .ok accounts ↔
      ∃ healthyAccounts degradedAccounts, w.healthyAccounts workspaceId = .ok healthyAccounts ∧
        degraded.mapM (·.toModel none) = .ok degradedAccounts ∧
        (∃ workspace, getWorkspace w.organizations workspaceId = some workspace) ∧
        accounts = healthyAccounts ++ degradedAccounts := by
  unfold passAccounts
  constructor
  · intro h
    cases hhealthy : w.healthyAccounts workspaceId with
    | error e => rw [hhealthy] at h; cases h
    | ok healthyAccounts =>
      cases hdegraded : degraded.mapM (·.toModel none) with
      | error e => rw [hhealthy, hdegraded] at h; cases h
      | ok degradedAccounts =>
        cases hworkspace : getWorkspace w.organizations workspaceId with
        | none => rw [hhealthy, hdegraded, hworkspace] at h; cases h
        | some workspace =>
          rw [hhealthy, hdegraded, hworkspace] at h
          cases h
          exact ⟨_, _, rfl, rfl, ⟨workspace, rfl⟩, rfl⟩
  · rintro ⟨healthyAccounts, degradedAccounts, hhealthy, hdegraded, ⟨workspace, hworkspace⟩, rfl⟩
    rw [hhealthy, hdegraded, hworkspace]
    rfl

theorem nodup_passAccounts {w : World} {now : DateTime} {interval : Nat} {workspaceId : WorkspaceId}
    {degraded : List AccountRow} {accounts : List CloudAccount}
    (hdegradedRows : degraded.Sublist (w.pingableRows now interval))
    (h : w.passAccounts degraded workspaceId = .ok accounts) : (accounts.map DispatcherService.accountKey).Nodup := by
  obtain ⟨healthyAccounts, degradedAccounts, hhealthy, hdegraded, -, rfl⟩ := passAccounts_eq_ok.1 h
  have hids : ((healthyAccounts ++ degradedAccounts).map (·.id)).Nodup := by
    rw [List.map_append, map_of_mapM_ok (g := CloudAccount.id) (k := AccountRow.id) hhealthy
      fun r _ a ha => (AccountRow.toModel_ok ha).2.1, map_of_mapM_ok (g := CloudAccount.id)
        (k := AccountRow.id) hdegraded
      fun r _ a ha => (AccountRow.toModel_ok ha).2.1, List.nodup_append]
    refine ⟨w.accounts.unique.sublist (List.filter_sublist.map _),
      w.accounts.unique.sublist ((hdegradedRows.trans List.filter_sublist).map _), ?_⟩
    rintro _ hid id' hid' rfl
    obtain ⟨r, hr, hrid⟩ := List.mem_map.1 hid
    obtain ⟨r', hr', hrid'⟩ := List.mem_map.1 hid'
    obtain ⟨hmem, hready⟩ := List.mem_filter.1 hr
    obtain ⟨hmem', hping⟩ := List.mem_filter.1 (hdegradedRows.subset hr')
    -- a row is not configured and degraded at once
    have heq : r = r' := List.inj_on_of_nodup_map w.accounts.unique hmem hmem' (hrid.trans hrid'.symm)
    subst heq
    unfold CloudAccountRepository.readyForCollection at hready
    unfold CloudAccountRepository.degradedForPing at hping
    simp only [Bool.and_eq_true, decide_eq_true_eq] at hready hping
    rw [hready.2.1] at hping
    cases hping.1.2
  have hmap : (healthyAccounts ++ degradedAccounts).map (·.id) =
      ((healthyAccounts ++ degradedAccounts).map DispatcherService.accountKey).map Prod.snd := by
    rw [List.map_map]
    rfl
  rw [hmap] at hids
  exact hids.of_map _

theorem Scheduled.of_ping {now : DateTime} {w : World} {r : AccountRow} (hfind : w.accounts.find r.id = some r) :
    w.Scheduled now [r.id] [] (w.tick.tick.commit r (r.pinged now w.tick.now)) := by
  refine ⟨rfl, rfl, ⟨fun _ => w.ticks + 1, ?_⟩, fun _ => (0, 0), ?_⟩
  · exact Table.rows_replace hfind rfl (AccountRow.pinged_id now _ r)
  · rw [Table.rewriteKeys_nil]
    rfl

end World

namespace DispatcherService

variable (now : DateTime)

theorem pings_ok : ∀ (rows : List AccountRow) (accounts : List CloudAccount) (d : Dispatcher), d.world.Unique →
    (∀ r ∈ rows, d.world.accounts.find r.id = some r) → (∀ r ∈ rows, r.lastDegradedScanStartedAt ≠ some now) →
    (rows.map AccountRow.id).Nodup → rows.mapM (·.toModel none) = .ok accounts →
    ∃ w', exec (accounts.forM fun a => inWorld (CloudAccountRepository.update a.id (setPinged now) *> return)) d =
      (.ok ⟨⟩, { d with world := w' }) ∧ d.world.Scheduled now (rows.map AccountRow.id) [] w'
  | [], accounts, d, _, _, _, _, h => by
    rw [List.map_eq_nil_iff.1 (mapM_eq_ok_iff.1 h).symm]
    exact ⟨d.world, rfl, World.Scheduled.of_sameTables _ (SameTables.refl _)⟩
  | r :: rows, [], d, _, _, _, _, h => by cases mapM_eq_ok_iff.1 h
  | r :: rows, a :: accounts, d, hu, hfind, hold, hids, h => by
    have hl := mapM_eq_ok_iff.1 h
    rw [List.map_cons, List.map_cons, List.cons.injEq] at hl
    obtain ⟨hr, hrest⟩ := hl
    rw [List.map_cons, List.nodup_cons] at hids
    obtain ⟨hfresh, hids⟩ := hids
    have hid : a.id = r.id := (AccountRow.toModel_ok hr).2.1
    have hstored := hfind r List.mem_cons_self
    obtain ⟨a', hping⟩ := CloudAccountRepository.exec_ping hu hstored hr (hold r List.mem_cons_self)
    have hscheduled : d.world.Scheduled now [r.id] [] _ := World.Scheduled.of_ping hstored
    generalize hw : d.world.tick.tick.commit r (r.pinged now d.world.tick.now) = w₁ at hping hscheduled
    have hfind' : ∀ x ∈ rows, w₁.accounts.find x.id = some x := by
      intro x hx
      rw [← hfind x (List.mem_cons_of_mem r hx), ← hw]
      refine Table.find_replace_of_ne d.world.accounts ?_
      rw [AccountRow.pinged_id]
      exact fun heq => hfresh (heq ▸ List.mem_map_of_mem hx)
    obtain ⟨w', hexec, hscheduled'⟩ := pings_ok rows accounts { d with world := w₁ }
      (hu.of_identities hscheduled.identities) hfind' (fun x hx => hold x (List.mem_cons_of_mem r hx)) hids
      (mapM_eq_ok_iff.2 hrest)
    refine ⟨w', ?_, ?_⟩
    · rw [forM_cons, exec_bind, inWorld, exec_embed, seqRight_eq_bind, exec_bind, hid, hping]
      exact hexec
    · rw [List.map_cons]
      refine hscheduled.trans hscheduled' (fun id hid hmem => ?_) fun ws hws => absurd hws List.not_mem_nil
      rw [List.mem_singleton.1 hid] at hmem
      exact hfresh hmem

theorem exec_inWorld {α : Type} (m : Service α) (d : Dispatcher) :
    exec (inWorld m) d = ((exec m d.world).1, { d with world := (exec m d.world).2 }) := exec_embed _ _ m d

theorem exec_listReadyForCollection (workspaceId : WorkspaceId) (w : World) :
    exec (CloudAccountRepository.listReadyForCollection workspaceId) w = (w.healthyAccounts workspaceId, w) := by
  unfold CloudAccountRepository.listReadyForCollection World.healthyAccounts
  rw [exec_bind, exec_getNextScan]
  dsimp only
  rw [exec_bind, exec_get]
  exact exec_lift _ _

theorem exec_listDegradedForPing (workspaceId : WorkspaceId) (interval : Nat) (w : World) :
    exec (CloudAccountRepository.listDegradedForPing workspaceId now interval) w =
      ((w.pingableRows now interval).mapM (·.toModel none), w) := by
  unfold CloudAccountRepository.listDegradedForPing World.pingableRows
  rw [exec_bind, exec_get]
  exact exec_lift _ _

theorem exec_updateNextRunFor {run : NextTenantRun} {workspace : Workspace} {w : World} {n : Nat}
    (hrun : w.nextRuns.find run.tenantId = some run)
    (hworkspace : getWorkspace w.organizations run.tenantId = some workspace) :
    ∃ next w', exec (updateNextRunFor run.tenantId (workspace.currentProductTier (w.clock n)) (some run.time)) w =
      (.ok next, w') ∧ w.Scheduled now [] [run.tenantId] w' := by
  refine ⟨_, _, rfl, rfl, rfl, ⟨fun _ => 0, ?_⟩, fun _ => (n, w.ticks), ?_⟩
  · rw [Table.rewriteKeys_nil]
  · refine List.map_congr_left fun x hx => ?_
    have hone : decide (x.tenantId = run.tenantId) = true ↔ x.tenantId ∈ [run.tenantId] := by
      rw [decide_eq_true_eq, List.mem_singleton]
    simp only [hone]
    by_cases hmem : x.tenantId ∈ [run.tenantId]
    · have hx' : x = run := by
        have hfindx := (Table.find_eq_some_iff w.nextRuns x.tenantId x).2 ⟨hx, rfl⟩
        rw [List.mem_singleton.1 hmem, hrun] at hfindx
        exact (Option.some.inj hfindx).symm
      rw [if_pos hmem, if_pos hmem, hx']
      unfold NextTenantRun.rescheduled
      rw [hworkspace]
    · rw [if_neg hmem, if_neg hmem]

/-- **The pass over a workspace**: it raises before it triggers anything, or it gets through. -/
theorem exec_scheduleWorkspace {run : NextTenantRun} {d : Dispatcher} (hu : d.world.Unique)
    (hrun : d.world.nextRuns.find run.tenantId = some run) (azureGraphScheduled : Bool) :
    match d.world.passAccounts (d.world.pingableRows now (d.degradedAccountsPingIntervalHours * 3600000000))
      run.tenantId with
    | .error e => exec (scheduleWorkspace now azureGraphScheduled run) d = (.error e, d)
    | .ok accounts => ∃ d', exec (scheduleWorkspace now azureGraphScheduled run) d =
        (.ok (azureGraphScheduled || accounts.any fun a => decide (a.cloud = .azure)), d') ∧
        Triggered (triggers azureGraphScheduled accounts) d d' ∧
        d.world.Scheduled now ((d.world.pingableRows now
          (d.degradedAccountsPingIntervalHours * 3600000000)).map AccountRow.id) [run.tenantId] d'.world := by
  have hnodup : ∀ accounts, d.world.passAccounts
      (d.world.pingableRows now (d.degradedAccountsPingIntervalHours * 3600000000)) run.tenantId = .ok accounts →
        (accounts.map accountKey).Nodup := fun _ => World.nodup_passAccounts (List.Sublist.refl _)
  generalize hpingable : d.world.pingableRows now (d.degradedAccountsPingIntervalHours * 3600000000) = pingable at *
  unfold scheduleWorkspace
  rw [exec_bind, exec_get]
  dsimp only
  rw [exec_bind, exec_inWorld, exec_listReadyForCollection]
  unfold World.passAccounts
  cases hhealthy : d.world.healthyAccounts run.tenantId with
  | error e => rfl
  | ok healthyAccounts =>
    dsimp only
    rw [exec_bind, exec_inWorld, exec_listDegradedForPing, hpingable]
    cases hdegraded : pingable.mapM (·.toModel none) with
    | error e => rfl
    | ok degradedAccounts =>
      dsimp only
      rw [exec_bind, exec_inWorld]
      unfold getProductTier
      rw [exec_bind, exec_get]
      dsimp only
      cases hworkspace : getWorkspace d.world.organizations run.tenantId with
      | none => rfl
      | some workspace =>
        have hkeys := hnodup _ (World.passAccounts_eq_ok.2 ⟨healthyAccounts, degradedAccounts, hhealthy, hdegraded,
          ⟨workspace, hworkspace⟩, rfl⟩)
        generalize hd₁ : ({ d with world := d.world.tick } : Dispatcher) = d₁
        have htick : SameTables d.world d₁.world := hd₁ ▸ ⟨rfl, rfl, rfl, rfl⟩
        have hstart : Triggered [] d d₁ := hd₁ ▸ Triggered.of_world d _
        obtain ⟨d₂, htriggers, htriggered, hsame⟩ :=
          forM_run_ok (triggers azureGraphScheduled (healthyAccounts ++ degradedAccounts)) d₁
            (by rw [map_key_triggers]; exact hkeys)
        have hsame := htick.trans hsame
        obtain ⟨w₃, hpings, hscheduled⟩ := pings_ok now pingable degradedAccounts d₂
          (hu.of_identities (by rw [hsame.accounts]))
          (fun r hr => by
            rw [hsame.accounts, Table.find_eq_some_iff]
            rw [← hpingable] at hr
            exact ⟨(List.mem_filter.1 hr).1, rfl⟩)
          (fun r hr hlast => by
            rw [← hpingable] at hr
            have hping := (List.mem_filter.1 hr).2
            unfold CloudAccountRepository.degradedForPing at hping
            rw [hlast, Option.all_some, Bool.and_eq_true, decide_eq_true_eq] at hping
            have hzero : now.sub now = 0 := Int.sub_self _
            rw [hzero] at hping
            exact absurd hping.2 (by omega))
          (by
            rw [← hpingable]
            exact d.world.accounts.unique.sublist (List.filter_sublist.map _))
          hdegraded
        have hscheduled := (World.Scheduled.of_sameTables now hsame).trans hscheduled
          (fun _ h => absurd h List.not_mem_nil) fun _ h => absurd h List.not_mem_nil
        have hruns : w₃.nextRuns.find run.tenantId = some run :=
          (hscheduled.find_nextRuns List.not_mem_nil).trans hrun
        obtain ⟨next, w₄, hupdate, hmoved⟩ := exec_updateNextRunFor now (n := d.world.ticks) hruns
          (by rw [hscheduled.organizations]; exact hworkspace)
        refine ⟨{ d₂ with world := w₄ }, ?_, ?_, ?_⟩
        · have hutc : exec utc d.world = (.ok (d.world.clock d.world.ticks), d.world.tick) := rfl
          dsimp only
          rw [exec_bind, hutc]
          dsimp only [exec_pure]
          rw [exec_bind, hd₁, exec_scheduleAccounts _ _ _ _ htriggers]
          dsimp only
          rw [exec_bind, hpings]
          dsimp only
          rw [hscheduled.clock] at hupdate
          rw [exec_bind, exec_inWorld, hupdate]
          rfl
        · have h := hstart.trans htriggered fun t ht => absurd ht List.not_mem_nil
          exact ⟨h.requests, h.ongoing, h.serviceAccountKeys, h.azureCredentials, h.databaseAccess, h.interval⟩
        · have h := hscheduled.trans hmoved (fun _ _ h => absurd h List.not_mem_nil)
            fun _ h => absurd h List.not_mem_nil
          rw [List.append_nil] at h
          exact h

end DispatcherService

/-! ## The loop over the workspaces -/

namespace World

variable {now : DateTime} {interval : Nat} {w w' : World} {moved : List WorkspaceId} {workspaceId : WorkspaceId}

/-- The accounts of the passes over `due`, up to the first one that raises; the first pass alone finds rows to ping. -/
def plannedAccounts (w : World) : List AccountRow → List NextTenantRun → List CloudAccount
  | _, [] => []
  | degraded, run :: due =>
    match w.passAccounts degraded run.tenantId with
    | .error _ => []
    | .ok accounts => accounts ++ w.plannedAccounts [] due

/-- No pass raises. -/
def GetsThrough (w : World) : List AccountRow → List NextTenantRun → Prop
  | _, [] => True
  | degraded, run :: due => (∃ accounts, w.passAccounts degraded run.tenantId = .ok accounts) ∧ w.GetsThrough [] due

/-- The accounts that the passes over `due` ping. -/
def pingedIds (degraded : List AccountRow) : List NextTenantRun → List FixCloudAccountId
  | [] => []
  | _ :: _ => degraded.map AccountRow.id

theorem mem_passAccounts {degraded : List AccountRow} {accounts : List CloudAccount} {a : CloudAccount}
    (h : w.passAccounts degraded workspaceId = .ok accounts) (ha : a ∈ accounts) :
    ∃ r, a.id = r.id ∧ a.workspaceId = r.tenantId ∧ (r ∈ degraded ∨
      r ∈ w.accounts.rows ∧ r.tenantId = workspaceId ∧ CloudAccountRepository.readyForCollection r = true) := by
  obtain ⟨healthyAccounts, degradedAccounts, hhealthy, hdegraded, -, rfl⟩ := passAccounts_eq_ok.1 h
  rcases List.mem_append.1 ha with ha | ha
  · obtain ⟨r, hr, hread⟩ := (mem_of_mapM_ok hhealthy a).1 ha
    obtain ⟨-, hid, hworkspace, -⟩ := AccountRow.toModel_ok hread
    obtain ⟨hmem, hp⟩ := List.mem_filter.1 hr
    rw [Bool.and_eq_true, decide_eq_true_eq] at hp
    exact ⟨r, hid, hworkspace, Or.inr ⟨hmem, hp⟩⟩
  · obtain ⟨r, hr, hread⟩ := (mem_of_mapM_ok hdegraded a).1 ha
    obtain ⟨-, hid, hworkspace, -⟩ := AccountRow.toModel_ok hread
    exact ⟨r, hid, hworkspace, Or.inl hr⟩

theorem mem_plannedAccounts_nil {a : CloudAccount} : ∀ {due : List NextTenantRun}, a ∈ w.plannedAccounts [] due →
    ∃ r ∈ w.accounts.rows, a.id = r.id ∧ a.workspaceId = r.tenantId ∧ r.tenantId ∈ due.map NextTenantRun.tenantId ∧
      CloudAccountRepository.readyForCollection r = true
  | [], h => absurd h List.not_mem_nil
  | run :: due, h => by
    unfold plannedAccounts at h
    cases hpass : w.passAccounts [] run.tenantId with
    | error e => rw [hpass] at h; cases h
    | ok accounts =>
      rw [hpass] at h
      rcases List.mem_append.1 h with ha | ha
      · obtain ⟨r, hid, hworkspace, hr | ⟨hmem, htenant, hready⟩⟩ := mem_passAccounts hpass ha
        · cases hr
        · exact ⟨r, hmem, hid, hworkspace, htenant ▸ List.mem_cons_self, hready⟩
      · obtain ⟨r, hmem, hid, hworkspace, htenant, hready⟩ := mem_plannedAccounts_nil ha
        exact ⟨r, hmem, hid, hworkspace, List.mem_cons_of_mem _ htenant, hready⟩

theorem plannedAccounts_tick (w : World) : ∀ (degraded : List AccountRow) (due : List NextTenantRun),
    w.tick.plannedAccounts degraded due = w.plannedAccounts degraded due ∧
      (w.tick.GetsThrough degraded due ↔ w.GetsThrough degraded due)
  | _, [] => ⟨rfl, Iff.rfl⟩
  | degraded, run :: due => by
    have hpass : w.tick.passAccounts degraded run.tenantId = w.passAccounts degraded run.tenantId := rfl
    obtain ⟨hplanned, hgets⟩ := plannedAccounts_tick w [] due
    unfold plannedAccounts GetsThrough
    rw [hpass, hplanned, hgets]
    exact ⟨rfl, Iff.rfl⟩

theorem not_ready_of_pingable {r : AccountRow} (h : CloudAccountRepository.degradedForPing now interval r = true)
    (updatedAt : DateTime) : CloudAccountRepository.readyForCollection r = false ∧
      CloudAccountRepository.readyForCollection (r.pinged now updatedAt) = false := by
  unfold CloudAccountRepository.degradedForPing at h
  simp only [Bool.and_eq_true, decide_eq_true_eq] at h
  have hstate := h.1.2
  have hold : CloudAccountRepository.readyForCollection r = false := by
    unfold CloudAccountRepository.readyForCollection
    rw [hstate]
    rfl
  refine ⟨hold, ?_⟩
  cases hread : r.toModel none with
  | error e =>
    unfold AccountRow.pinged
    rw [hread]
    exact hold
  | ok a =>
    rw [AccountRow.pinged_eq now updatedAt r hread]
    unfold CloudAccountRepository.readyForCollection
    change (decide (some a.state.stateName = some .configured) && _) = false
    rw [← AccountRow.accountState_ok (AccountRow.toModel_ok hread).1, r.stateName_of_state hstate]
    rfl

theorem nodup_plannedAccounts {degraded : List AccountRow}
    (hdegraded : degraded.Sublist (w.pingableRows now interval)) :
    ∀ {due : List NextTenantRun}, (due.map NextTenantRun.tenantId).Nodup →
      ((w.plannedAccounts degraded due).map DispatcherService.accountKey).Nodup
  | [], _ => List.nodup_nil
  | run :: due, hnodup => by
    obtain ⟨hfresh, hnodup⟩ := List.nodup_cons.1 hnodup
    unfold plannedAccounts
    cases hpass : w.passAccounts degraded run.tenantId with
    | error e => exact List.nodup_nil
    | ok accounts =>
      dsimp only
      rw [List.map_append, List.nodup_append]
      refine ⟨nodup_passAccounts hdegraded hpass, nodup_plannedAccounts (List.nil_sublist _) hnodup, ?_⟩
      rintro _ hkey key' hkey' rfl
      obtain ⟨a, ha, hakey⟩ := List.mem_map.1 hkey
      obtain ⟨a', ha', hakey'⟩ := List.mem_map.1 hkey'
      obtain ⟨r', hr', hid', hworkspace', htenant', hready'⟩ := mem_plannedAccounts_nil ha'
      obtain ⟨r, hid, hworkspace, hr⟩ := mem_passAccounts hpass ha
      have hsame := hakey.trans hakey'.symm
      rw [DispatcherService.accountKey, DispatcherService.accountKey, Prod.mk.injEq] at hsame
      rcases hr with hr | ⟨-, htenant, -⟩
      · obtain ⟨hmem, hping⟩ := List.mem_filter.1 (hdegraded.subset hr)
        have heq : r = r' := List.inj_on_of_nodup_map w.accounts.unique hmem hr' (hid.symm.trans (hsame.2.trans hid'))
        rw [← heq, (not_ready_of_pingable hping now).1] at hready'
        cases hready'
      · exact hfresh (by rw [← htenant, ← hworkspace, hsame.1, hworkspace']; exact htenant')

theorem pingable_of_mem {r : AccountRow} (hr : r ∈ w.accounts.rows)
    (hid : r.id ∈ (w.pingableRows now interval).map AccountRow.id) :
    CloudAccountRepository.degradedForPing now interval r = true := by
  obtain ⟨x, hx, hxid⟩ := List.mem_map.1 hid
  obtain ⟨hmem, hping⟩ := List.mem_filter.1 hx
  rw [← List.inj_on_of_nodup_map w.accounts.unique hmem hr hxid]
  exact hping

namespace Scheduled

variable (h : w.Scheduled now ((w.pingableRows now interval).map AccountRow.id) moved w')
include h

theorem healthyAccounts_eq (hws : workspaceId ∉ moved) :
    w'.healthyAccounts workspaceId = w.healthyAccounts workspaceId := by
  obtain ⟨stamp, hrows⟩ := h.accounts
  unfold healthyAccounts
  rw [h.find_nextRuns hws, hrows, Table.filter_rewriteKeys]
  intro r hr hid
  obtain ⟨hold, hnew⟩ := not_ready_of_pingable (pingable_of_mem hr hid) (w.clock (stamp r.id))
  rw [hold, hnew, Bool.and_false, Bool.and_false]
  exact ⟨rfl, rfl⟩

theorem passAccounts_eq (hws : workspaceId ∉ moved) :
    w'.passAccounts [] workspaceId = w.passAccounts [] workspaceId := by
  unfold passAccounts
  rw [h.healthyAccounts_eq hws, h.organizations]

theorem plannedAccounts_eq : ∀ {due : List NextTenantRun}, (∀ run ∈ due, run.tenantId ∉ moved) →
    w'.plannedAccounts [] due = w.plannedAccounts [] due ∧ (w'.GetsThrough [] due ↔ w.GetsThrough [] due)
  | [], _ => ⟨rfl, Iff.rfl⟩
  | run :: due, hdue => by
    have ih := plannedAccounts_eq fun x hx => hdue x (List.mem_cons_of_mem run hx)
    unfold plannedAccounts GetsThrough
    rw [h.passAccounts_eq (hdue run List.mem_cons_self), ih.1, ih.2]
    exact ⟨rfl, Iff.rfl⟩

theorem pingableRows_eq_nil {accounts : List CloudAccount}
    (hread : (w.pingableRows now interval).mapM (·.toModel none) = .ok accounts) :
      w'.pingableRows now interval = [] := by
  obtain ⟨stamp, hrows⟩ := h.accounts
  refine List.filter_eq_nil_iff.2 fun x hx => ?_
  rw [hrows] at hx
  obtain ⟨r, hr, rfl⟩ := List.mem_map.1 hx
  by_cases hid : r.id ∈ (w.pingableRows now interval).map AccountRow.id
  · have hmem := List.mem_filter.2 ⟨hr, pingable_of_mem hr hid⟩
    obtain ⟨a, ha⟩ := exists_mapM_ok_iff.1 ⟨accounts, hread⟩ r hmem
    rw [if_pos hid]
    dsimp only
    rw [AccountRow.pinged_eq _ _ _ ha]
    unfold CloudAccountRepository.degradedForPing
    rw [Bool.and_eq_true]
    rintro ⟨-, hlast⟩
    change (some now).all _ = true at hlast
    have hzero : now.sub now = 0 := Int.sub_self _
    rw [Option.all_some, decide_eq_true_eq, hzero] at hlast
    omega
  · rw [if_neg hid]
    exact fun hping => hid (List.mem_map_of_mem (List.mem_filter.2 ⟨hr, hping⟩))

end Scheduled

end World

namespace DispatcherService

variable (now : DateTime)

/-- **The loop over the due workspaces** makes the planned calls; when no pass raises it returns, and it has pinged the
degraded accounts and moved the workspaces. -/
theorem exec_schedulePasses : ∀ (due : List NextTenantRun) (azureGraphScheduled : Bool) (d : Dispatcher),
    d.world.Unique →
    (∀ run ∈ due, d.world.nextRuns.find run.tenantId = some run) → (due.map NextTenantRun.tenantId).Nodup →
    Triggered (triggers azureGraphScheduled (d.world.plannedAccounts
      (d.world.pingableRows now (d.degradedAccountsPingIntervalHours * 3600000000)) due)) d
      (exec (due.foldlM (scheduleWorkspace now) azureGraphScheduled) d).2 ∧
    (d.world.GetsThrough (d.world.pingableRows now (d.degradedAccountsPingIntervalHours * 3600000000)) due →
      ∃ scheduled, (exec (due.foldlM (scheduleWorkspace now) azureGraphScheduled) d).1 = .ok scheduled ∧
        d.world.Scheduled now (World.pingedIds (d.world.pingableRows now
          (d.degradedAccountsPingIntervalHours * 3600000000)) due) (due.map NextTenantRun.tenantId)
          (exec (due.foldlM (scheduleWorkspace now) azureGraphScheduled) d).2.world)
  | [], azureGraphScheduled, d, _, _, _ =>
    ⟨Triggered.refl d, fun _ => ⟨azureGraphScheduled, rfl, World.Scheduled.of_sameTables _ (SameTables.refl _)⟩⟩
  | run :: due, azureGraphScheduled, d, hu, hruns, hnodup => by
    obtain ⟨hfresh, hnodup⟩ := List.nodup_cons.1 hnodup
    have hpass := exec_scheduleWorkspace now hu (hruns run List.mem_cons_self) azureGraphScheduled
    generalize hpingable :
      d.world.pingableRows now (d.degradedAccountsPingIntervalHours * 3600000000) = pingable at hpass ⊢
    rw [List.foldlM_cons, exec_bind]
    unfold World.plannedAccounts World.GetsThrough
    cases haccounts : d.world.passAccounts pingable run.tenantId with
    | error e =>
      rw [haccounts] at hpass
      rw [hpass]
      refine ⟨Triggered.refl d, ?_⟩
      rintro ⟨⟨_, h⟩, -⟩
      cases h
    | ok accounts =>
      rw [haccounts] at hpass
      obtain ⟨d', hexec, htriggered, hscheduled⟩ := hpass
      rw [hexec]
      dsimp only
      rw [← hpingable] at haccounts hscheduled
      obtain ⟨-, degradedAccounts, -, hdegraded, -⟩ := World.passAccounts_eq_ok.1 haccounts
      have hdue : ∀ x ∈ due, x.tenantId ∉ [run.tenantId] := fun x hx hmem =>
        hfresh (List.mem_singleton.1 hmem ▸ List.mem_map_of_mem hx)
      have hnone : d'.world.pingableRows now (d'.degradedAccountsPingIntervalHours * 3600000000) = [] := by
        rw [htriggered.interval]
        exact hscheduled.pingableRows_eq_nil hdegraded
      obtain ⟨hplanned, hgets⟩ := hscheduled.plannedAccounts_eq hdue
      have hruns' : ∀ x ∈ due, d'.world.nextRuns.find x.tenantId = some x := by
        intro x hx
        rw [hscheduled.find_nextRuns (hdue x hx)]
        exact hruns x (List.mem_cons_of_mem run hx)
      obtain ⟨htriggered', hreturns⟩ := exec_schedulePasses due
        (azureGraphScheduled || accounts.any fun a => decide (a.cloud = .azure)) d'
        (hu.of_identities hscheduled.identities) hruns' hnodup
      rw [hnone] at htriggered' hreturns
      rw [hplanned] at htriggered'
      constructor
      · rw [triggers_append]
        refine htriggered.trans htriggered' fun t ht t' ht' hkey => ?_
        have hkeys : ((d.world.plannedAccounts (d.world.pingableRows now
            (d.degradedAccountsPingIntervalHours * 3600000000)) (run :: due)).map accountKey).Nodup :=
          World.nodup_plannedAccounts (List.Sublist.refl _) (List.nodup_cons.2 ⟨hfresh, hnodup⟩)
        unfold World.plannedAccounts at hkeys
        rw [haccounts] at hkeys
        dsimp only at hkeys
        rw [List.map_append, List.nodup_append, ← map_key_triggers azureGraphScheduled accounts,
          ← map_key_triggers (azureGraphScheduled || accounts.any fun a => decide (a.cloud = .azure))
            (d.world.plannedAccounts [] due)] at hkeys
        exact hkeys.2.2 _ (List.mem_map_of_mem ht) _ (List.mem_map_of_mem ht') hkey
      · rintro ⟨-, hthrough⟩
        obtain ⟨scheduled, hok, hscheduled'⟩ := hreturns (hgets.2 hthrough)
        refine ⟨scheduled, hok, ?_⟩
        have h := hscheduled.trans hscheduled' (fun id _ hmem => ?_) fun ws hws hmem => ?_
        · have hpinged : World.pingedIds [] due = [] := by cases due <;> rfl
          rw [hpinged, List.append_nil, hpingable] at h
          exact h
        · cases due <;> cases hmem
        · rw [List.mem_singleton.1 hws] at hmem
          exact hfresh hmem

end DispatcherService

/-! ## The whole run -/

namespace World

/-- What `older_than` lists at the start of a run. -/
def dueRuns (w : World) : List NextTenantRun := w.nextRuns.rows.filter fun run => decide (run.time < w.now)

def failedScanRows (w : World) (now : DateTime) : List AccountRow :=
  w.accounts.rows.filter fun r =>
    CloudAccountRepository.readyForCollection r && decide (0 < r.failedScanCount) &&
      (w.nextRuns.find r.tenantId).any fun run => decide (now.addMicros (2 * 3600000000) < run.time)

end World

namespace Dispatcher

/-- The degraded accounts that the first pass of a run finds. -/
def pingableRows (d : Dispatcher) : List AccountRow :=
  d.world.pingableRows d.world.now (d.degradedAccountsPingIntervalHours * 3600000000)

/-- The accounts that the passes of a run trigger, in their order. -/
def plannedAccounts (d : Dispatcher) : List CloudAccount := d.world.plannedAccounts d.pingableRows d.world.dueRuns

end Dispatcher

namespace DispatcherService

def failedScans (accounts : List CloudAccount) : List Trigger := accounts.map fun a => ⟨a, .failedAccountScan, false⟩

theorem failedScans_ok {rows : List AccountRow} {accounts : List CloudAccount} (hids : (rows.map AccountRow.id).Nodup)
    (h : rows.mapM (·.toModel none) = .ok accounts) (d : Dispatcher) :
    ∃ d', exec (accounts.forM fun a => triggerCollect a .failedAccountScan none none false) d = (.ok ⟨⟩, d') ∧
      Triggered (failedScans accounts) d d' ∧ SameTables d.world d'.world := by
  have hloop : ∀ accounts : List CloudAccount, (failedScans accounts).forM Trigger.run =
      accounts.forM fun a => triggerCollect a .failedAccountScan none none false := by
    intro accounts
    induction accounts with
    | nil => rfl
    | cons a accounts ih =>
      have hcons : (failedScans (a :: accounts)).forM Trigger.run =
          triggerCollect a .failedAccountScan none none false >>= fun _ =>
            (failedScans accounts).forM Trigger.run := rfl
      rw [hcons, ih]
      rfl
  rw [← hloop]
  refine forM_run_ok _ d ?_
  have hkeys : ((failedScans accounts).map Trigger.key).map Prod.snd = rows.map AccountRow.id := by
    unfold failedScans
    rw [List.map_map, List.map_map, ← map_of_mapM_ok (g := CloudAccount.id) h fun r _ a ha =>
      (AccountRow.toModel_ok ha).2.1]
    rfl
  exact List.Nodup.of_map Prod.snd (hkeys ▸ hids)

/-- A run in its parts: the passes, the list of the accounts with failed scans, and the loop over them. -/
theorem exec_scheduleNextRuns_eq (d : Dispatcher) : exec scheduleNextRuns d =
    match exec (d.world.dueRuns.foldlM (scheduleWorkspace d.world.now) false) { d with world := d.world.tick } with
    | (.ok _, d₁) => match (d₁.world.failedScanRows d.world.now).mapM (·.toModel none) with
      | .ok accounts => exec (accounts.forM fun a => triggerCollect a .failedAccountScan none none false) d₁
      | .error e => (.error e, d₁)
    | (.error e, d₁) => (.error e, d₁) := by
  have hutc : exec (inWorld utc) d = (.ok d.world.now, { d with world := d.world.tick }) := rfl
  have holder : exec (inWorld (olderThan d.world.now)) { d with world := d.world.tick } =
      (.ok d.world.dueRuns, { d with world := d.world.tick }) := rfl
  unfold scheduleNextRuns
  rw [exec_bind, hutc]
  dsimp only
  rw [exec_bind, holder]
  dsimp only
  rw [exec_bind]
  rcases exec (d.world.dueRuns.foldlM (scheduleWorkspace d.world.now) false) { d with world := d.world.tick } with
    ⟨e | scheduled, d₁⟩
  · rfl
  · dsimp only
    have hlist : exec (inWorld (CloudAccountRepository.listNonHourlyFailedScansAccounts d.world.now)) d₁ =
        ((d₁.world.failedScanRows d.world.now).mapM (·.toModel none), d₁) := by
      have hread : exec (CloudAccountRepository.listNonHourlyFailedScansAccounts d.world.now) d₁.world =
          ((d₁.world.failedScanRows d.world.now).mapM (·.toModel none), d₁.world) := exec_lift _ _
      rw [exec_inWorld, hread]
    rw [exec_bind, hlist]
    cases (d₁.world.failedScanRows d.world.now).mapM (·.toModel none) <;> rfl

/-- **A run of the scheduler**: the planned calls, and then calls for accounts with failed scans. -/
theorem exec_scheduleNextRuns {d : Dispatcher} (hu : d.world.Unique) :
    ∃ d₁, Triggered (triggers false d.plannedAccounts) d d₁ ∧
      (∃ failedAccounts, Triggered (failedScans failedAccounts) d₁ (exec scheduleNextRuns d).2) ∧
      (d.world.GetsThrough d.pingableRows d.world.dueRuns →
        d.world.Scheduled d.world.now (World.pingedIds d.pingableRows d.world.dueRuns)
          (d.world.dueRuns.map NextTenantRun.tenantId) d₁.world ∧
        ∀ failedAccounts, (d₁.world.failedScanRows d.world.now).mapM (·.toModel none) = .ok failedAccounts →
          (exec scheduleNextRuns d).1 = .ok ⟨⟩ ∧
          Triggered (failedScans failedAccounts) d₁ (exec scheduleNextRuns d).2 ∧
          SameTables d₁.world (exec scheduleNextRuns d).2.world) := by
  generalize hd₀ : ({ d with world := d.world.tick } : Dispatcher) = d₀
  have hsame : SameTables d.world d₀.world := hd₀ ▸ ⟨rfl, rfl, rfl, rfl⟩
  have hstart : Triggered [] d d₀ := hd₀ ▸ Triggered.of_world d _
  have hpingable : d₀.world.pingableRows d.world.now (d₀.degradedAccountsPingIntervalHours * 3600000000) =
      d.pingableRows := by
    subst hd₀
    rfl
  obtain ⟨hplanned, hgets⟩ : d₀.world.plannedAccounts d.pingableRows d.world.dueRuns = d.plannedAccounts ∧
      (d₀.world.GetsThrough d.pingableRows d.world.dueRuns ↔
        d.world.GetsThrough d.pingableRows d.world.dueRuns) := by
    subst hd₀
    exact World.plannedAccounts_tick d.world _ _
  have hruns : ∀ run ∈ d.world.dueRuns, d₀.world.nextRuns.find run.tenantId = some run := by
    intro run hrun
    rw [hsame.nextRuns, Table.find_eq_some_iff]
    exact ⟨(List.mem_filter.1 hrun).1, rfl⟩
  obtain ⟨htriggered, hreturns⟩ := exec_schedulePasses d.world.now d.world.dueRuns false d₀
    (hu.of_identities (by rw [hsame.accounts])) hruns (d.world.nextRuns.unique.sublist (List.filter_sublist.map _))
  rw [hpingable] at htriggered hreturns
  rw [hplanned] at htriggered
  have hexec := exec_scheduleNextRuns_eq d
  rw [hd₀] at hexec
  have hfailed : ∀ d₁ : Dispatcher, ((d₁.world.failedScanRows d.world.now).map AccountRow.id).Nodup := fun d₁ =>
    d₁.world.accounts.unique.sublist (List.filter_sublist.map _)
  rw [hexec]
  rcases hloop : exec (d.world.dueRuns.foldlM (scheduleWorkspace d.world.now) false) d₀ with ⟨outcome, d₁⟩
  rw [hloop] at htriggered hreturns
  refine ⟨d₁, hstart.trans htriggered fun t ht => absurd ht List.not_mem_nil, ?_, fun hthrough => ?_⟩
  · cases outcome with
    | error e => exact ⟨[], Triggered.refl d₁⟩
    | ok scheduled =>
      dsimp only
      cases hread : (d₁.world.failedScanRows d.world.now).mapM (·.toModel none) with
      | error e => exact ⟨[], Triggered.refl d₁⟩
      | ok accounts =>
        obtain ⟨d₂, hexec₂, htriggered₂, -⟩ := failedScans_ok (hfailed d₁) hread d₁
        dsimp only
        rw [hexec₂]
        exact ⟨accounts, htriggered₂⟩
  · obtain ⟨scheduled, hok, hscheduled⟩ := hreturns (hgets.2 hthrough)
    dsimp only at hok hscheduled
    subst hok
    refine ⟨?_, fun accounts hread => ?_⟩
    · exact (World.Scheduled.of_sameTables _ hsame).trans hscheduled (fun _ h => absurd h List.not_mem_nil)
        fun _ h => absurd h List.not_mem_nil
    · obtain ⟨d₂, hexec₂, htriggered₂, hsame₂⟩ := failedScans_ok (hfailed d₁) hread d₁
      dsimp only
      rw [hread]
      dsimp only
      rw [hexec₂]
      exact ⟨rfl, htriggered₂, hsame₂⟩

def scheduledRequests (d : Dispatcher) : List CollectRequest :=
  ((exec scheduleNextRuns d).2.collectQueue.drop d.collectQueue.length).map (·.request)

theorem scheduledRequests_eq {d d₁ : Dispatcher} {calls calls' : List Trigger} (h : Triggered calls d d₁)
    (h' : Triggered calls' d₁ (exec scheduleNextRuns d).2) :
    scheduledRequests d = calls.filterMap (·.request d) ++ calls'.filterMap (·.request d₁) := by
  have hlength : d.collectQueue.length = (d.collectQueue.map (·.request)).length := (List.length_map _).symm
  unfold scheduledRequests
  rw [List.map_drop, h'.requests, h.requests, List.append_assoc, hlength, List.drop_left]

end DispatcherService

end Fix
