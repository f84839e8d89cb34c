import FixBackend.GraphCollection
/-!
# TenantIsolation — what a run of the scheduler lets one workspace see of another

`list_degraded_for_ping` does not read its workspace: the first pass of a run pings the degraded accounts of all of
them. When every account that it finds belongs to a due workspace, and no two workspaces share the flag for Microsoft
Graph, each workspace gets what its own accounts and its own next run ask for.
-/
namespace Fix

open Calendar Effects

namespace World

def readRows (nextScan : Option DateTime) (rows : List AccountRow) : List CloudAccount :=
  rows.filterMap fun r => (r.toModel nextScan).toOption

def readyAccounts (w : World) (workspaceId : WorkspaceId) : List CloudAccount :=
  readRows ((w.nextRuns.find workspaceId).map (·.time)) (w.accounts.rows.filter fun r =>
    decide (r.tenantId = workspaceId) && CloudAccountRepository.readyForCollection r)

theorem readRows_cons_error {nextScan : Option DateTime} {r : AccountRow} {e : Err} (h : r.toModel nextScan = .error e)
    (rows : List AccountRow) : readRows nextScan (r :: rows) = readRows nextScan rows := by
  unfold readRows
  rw [List.filterMap_cons, h]
  rfl

theorem readRows_cons_ok {nextScan : Option DateTime} {r : AccountRow} {a : CloudAccount}
    (h : r.toModel nextScan = .ok a) (rows : List AccountRow) :
    readRows nextScan (r :: rows) = a :: readRows nextScan rows := by
  unfold readRows
  rw [List.filterMap_cons, h]
  rfl

theorem eq_readRows {nextScan : Option DateTime} {rows : List AccountRow} {accounts : List CloudAccount}
    (h : rows.mapM (·.toModel nextScan) = .ok accounts) : accounts = readRows nextScan rows := by
  have hl := mapM_eq_ok_iff.1 h
  induction rows generalizing accounts with
  | nil => exact List.map_eq_nil_iff.1 hl.symm
  | cons r rows ih =>
    cases accounts with
    | nil => cases hl
    | cons a accounts =>
      rw [List.map_cons, List.map_cons, List.cons.injEq] at hl
      rw [readRows_cons_ok hl.1, ← ih (mapM_eq_ok_iff.2 hl.2) hl.2]

theorem filter_readRows {nextScan : Option DateTime} {p : CloudAccount → Bool} {q : AccountRow → Bool}
    (h : ∀ r a, r.toModel nextScan = .ok a → p a = q r) (rows : List AccountRow) :
    (readRows nextScan rows).filter p = readRows nextScan (rows.filter q) := by
  induction rows with
  | nil => rfl
  | cons r rows ih =>
    rw [List.filter_cons]
    cases hr : r.toModel nextScan with
    | error e =>
      rw [readRows_cons_error hr, ih]
      split
      · rw [readRows_cons_error hr]
      · rfl
    | ok a =>
      rw [readRows_cons_ok hr, List.filter_cons, h r a hr, ih]
      split
      · rw [readRows_cons_ok hr]
      · rfl

theorem mem_readRows {nextScan : Option DateTime} {rows : List AccountRow} {a : CloudAccount}
    (h : a ∈ readRows nextScan rows) : ∃ r ∈ rows, r.toModel nextScan = .ok a := by
  obtain ⟨r, hr, hread⟩ := List.mem_filterMap.1 h
  refine ⟨r, hr, ?_⟩
  cases hmodel : r.toModel nextScan with
  | error e => rw [hmodel] at hread; cases hread
  | ok a' =>
    rw [hmodel] at hread
    cases hread
    rfl

variable {w : World} {degraded : List AccountRow} {run : NextTenantRun} {due : List NextTenantRun}

/-- **What a run plans when no pass raises.** -/
theorem plannedAccounts_eq_append (h : w.GetsThrough degraded (run :: due)) :
    w.plannedAccounts degraded (run :: due) = w.readyAccounts run.tenantId ++ readRows none degraded ++
      due.flatMap fun run => w.readyAccounts run.tenantId := by
  have hpass : ∀ {degraded : List AccountRow} {workspaceId : WorkspaceId} {accounts : List CloudAccount},
      w.passAccounts degraded workspaceId = .ok accounts →
        accounts = w.readyAccounts workspaceId ++ readRows none degraded := by
    intro degraded workspaceId accounts haccounts
    obtain ⟨healthyAccounts, degradedAccounts, hhealthy, hdegraded, -, rfl⟩ := passAccounts_eq_ok.1 haccounts
    rw [eq_readRows hdegraded, eq_readRows hhealthy]
    rfl
  induction due generalizing run degraded with
  | nil =>
    obtain ⟨⟨accounts, haccounts⟩, -⟩ := h
    unfold plannedAccounts
    rw [haccounts, hpass haccounts]
    rfl
  | cons next due ih =>
    obtain ⟨⟨accounts, haccounts⟩, hrest⟩ := h
    have hrest := ih hrest
    unfold plannedAccounts
    rw [haccounts, hpass haccounts]
    dsimp only
    rw [hrest, List.flatMap_cons]
    change _ ++ (w.readyAccounts next.tenantId ++ [] ++ _) = _
    rw [List.append_nil]

theorem filter_readyAccounts (w : World) (workspaceId tenantId : WorkspaceId) :
    (w.readyAccounts tenantId).filter (fun a => decide (a.workspaceId = workspaceId)) =
      if tenantId = workspaceId then w.readyAccounts workspaceId else [] := by
  unfold readyAccounts
  have hread : ∀ (r : AccountRow) (a : CloudAccount), r.toModel ((w.nextRuns.find tenantId).map (·.time)) = .ok a →
      decide (a.workspaceId = workspaceId) = decide (r.tenantId = workspaceId) := by
    intro r a ha
    rw [(AccountRow.toModel_ok ha).2.2.1]
  rw [filter_readRows hread, List.filter_filter]
  by_cases htenant : tenantId = workspaceId
  · subst htenant
    rw [if_pos rfl]
    refine congrArg _ (List.filter_congr fun r _ => ?_)
    cases decide (r.tenantId = tenantId) <;> rfl
  · rw [if_neg htenant]
    have hnone : w.accounts.rows.filter (fun r => decide (r.tenantId = workspaceId) &&
        (decide (r.tenantId = tenantId) && CloudAccountRepository.readyForCollection r)) = [] := by
      refine List.filter_eq_nil_iff.2 fun r _ hr => ?_
      rw [Bool.and_eq_true, Bool.and_eq_true, decide_eq_true_eq, decide_eq_true_eq] at hr
      exact htenant (hr.2.1.symm.trans hr.1)
    rw [hnone]
    rfl

theorem filter_flatMap_readyAccounts (w : World) (workspaceId : WorkspaceId)
    (hnodup : (due.map NextTenantRun.tenantId).Nodup) :
    (due.flatMap fun run => w.readyAccounts run.tenantId).filter (fun a => decide (a.workspaceId = workspaceId)) =
      if workspaceId ∈ due.map NextTenantRun.tenantId then w.readyAccounts workspaceId else [] := by
  induction due with
  | nil => rfl
  | cons run due ih =>
    obtain ⟨hfresh, hnodup⟩ := List.nodup_cons.1 hnodup
    rw [List.flatMap_cons, List.filter_append, filter_readyAccounts, ih hnodup, List.map_cons]
    by_cases htenant : run.tenantId = workspaceId
    · subst htenant
      rw [if_pos rfl, if_neg hfresh, if_pos List.mem_cons_self, List.append_nil]
    · rw [if_neg htenant, List.nil_append]
      refine if_congr ?_ rfl rfl
      rw [List.mem_cons, or_iff_right (Ne.symm htenant)]

end World

/-! ## The condition -/

namespace Dispatcher

def isDue (d : Dispatcher) (workspaceId : WorkspaceId) : Bool :=
  (d.world.nextRuns.find workspaceId).any fun run => decide (run.time < d.world.now)

/-- The next run of a workspace when the scheduler has run, and the clock has not moved. -/
def nextRunAfter (d : Dispatcher) (workspaceId : WorkspaceId) : Option NextTenantRun :=
  (d.world.nextRuns.find workspaceId).map fun run =>
    if run.time < d.world.now then run.rescheduled d.world.organizations (d.world.now, d.world.now) else run

/-- The workspace runs again in more than two hours. -/
def isFarOff (d : Dispatcher) (workspaceId : WorkspaceId) : Bool :=
  (d.nextRunAfter workspaceId).any fun run => decide (d.world.now.addMicros (2 * 3600000000) < run.time)

/-- The due workspaces are stored, and the accounts that the run reads can be read. -/
structure ReadsThrough (d : Dispatcher) : Prop where
  stored : ∀ run ∈ d.world.dueRuns, ∃ workspace, getWorkspace d.world.organizations run.tenantId = some workspace
  ready : ∀ r ∈ d.world.accounts.rows, CloudAccountRepository.readyForCollection r = true → d.isDue r.tenantId = true →
    ∃ state, r.accountState = .ok state
  pingable : d.world.dueRuns ≠ [] → ∀ r ∈ d.pingableRows, ∃ state, r.accountState = .ok state
  failed : ∀ r ∈ d.world.accounts.rows, CloudAccountRepository.readyForCollection r = true → 0 < r.failedScanCount →
    d.isFarOff r.tenantId = true → ∃ state, r.accountState = .ok state

/-- Once a workspace is due, every degraded account that waits for a ping belongs to a due one. -/
def PingsDue (d : Dispatcher) : Prop := d.world.dueRuns ≠ [] → ∀ r ∈ d.pingableRows, d.isDue r.tenantId = true

/-- The Azure accounts of the run belong to one workspace, and the first of them is configured if any is. -/
def GraphOfOne (d : Dispatcher) : Prop :=
  ∀ first, d.plannedAccounts.find? (fun a => decide (a.cloud = .azure)) = some first →
    ∀ a ∈ d.plannedAccounts, a.cloud = .azure → a.workspaceId = first.workspaceId ∧
      (a.state.stateName = .configured → first.state.stateName = .configured)

def pingAccounts (d : Dispatcher) (workspaceId : WorkspaceId) : List CloudAccount :=
  World.readRows none (d.pingableRows.filter fun r => decide (r.tenantId = workspaceId))

def ownAccounts (d : Dispatcher) (workspaceId : WorkspaceId) : List CloudAccount :=
  d.world.readyAccounts workspaceId ++ d.pingAccounts workspaceId

variable {d : Dispatcher} {workspaceId : WorkspaceId}

theorem isDue_iff : d.isDue workspaceId = true ↔ workspaceId ∈ d.world.dueRuns.map NextTenantRun.tenantId := by
  unfold isDue World.dueRuns
  rw [Option.any_eq_true]
  constructor
  · rintro ⟨run, hfind, hdue⟩
    obtain ⟨hmem, rfl⟩ := (Table.find_eq_some_iff d.world.nextRuns workspaceId run).1 hfind
    exact List.mem_map_of_mem (List.mem_filter.2 ⟨hmem, hdue⟩)
  · intro h
    obtain ⟨run, hrun, rfl⟩ := List.mem_map.1 h
    obtain ⟨hmem, hdue⟩ := List.mem_filter.1 hrun
    exact ⟨run, (Table.find_eq_some_iff d.world.nextRuns run.tenantId run).2 ⟨hmem, rfl⟩, hdue⟩

theorem nodup_dueRuns (d : Dispatcher) : (d.world.dueRuns.map NextTenantRun.tenantId).Nodup :=
  d.world.nextRuns.unique.sublist (List.filter_sublist.map _)

theorem ReadsThrough.getsThrough (h : d.ReadsThrough) : d.world.GetsThrough d.pingableRows d.world.dueRuns := by
  have hread : ∀ (rows : List AccountRow) (nextScan : Option DateTime),
      (∀ r ∈ rows, ∃ state, r.accountState = .ok state) → ∃ accounts, rows.mapM (·.toModel nextScan) =
        .ok accounts := by
    intro rows nextScan hrows
    refine exists_mapM_ok_iff.2 fun r hr => ?_
    obtain ⟨state, hstate⟩ := hrows r hr
    obtain ⟨a, ha, -⟩ := AccountRow.exists_toModel hstate nextScan
    exact ⟨a, ha⟩
  have hpass : ∀ run ∈ d.world.dueRuns, ∀ degraded accounts, degraded.mapM (·.toModel none) = .ok accounts →
      ∃ accounts, d.world.passAccounts degraded run.tenantId = .ok accounts := by
    intro run hrun degraded accounts hdegraded
    have hdue : d.isDue run.tenantId = true := isDue_iff.2 (List.mem_map_of_mem hrun)
    obtain ⟨healthyAccounts, hhealthy⟩ := hread
      (d.world.accounts.rows.filter fun r => decide (r.tenantId = run.tenantId) &&
        CloudAccountRepository.readyForCollection r)
      ((d.world.nextRuns.find run.tenantId).map (·.time)) fun r hr => by
        obtain ⟨hmem, hp⟩ := List.mem_filter.1 hr
        rw [Bool.and_eq_true, decide_eq_true_eq] at hp
        exact h.ready r hmem hp.2 (hp.1 ▸ hdue)
    exact ⟨_, World.passAccounts_eq_ok.2 ⟨healthyAccounts, accounts, hhealthy, hdegraded, h.stored run hrun, rfl⟩⟩
  have hrest : ∀ due : List NextTenantRun, (∀ run ∈ due, run ∈ d.world.dueRuns) → d.world.GetsThrough [] due := by
    intro due
    induction due with
    | nil => exact fun _ => trivial
    | cons run due ih =>
      exact fun hdue => ⟨hpass run (hdue run List.mem_cons_self) [] [] rfl,
        ih fun x hx => hdue x (List.mem_cons_of_mem run hx)⟩
  have hpingable := h.pingable
  generalize hdue : d.world.dueRuns = due at hpass hrest hpingable
  cases due with
  | nil => trivial
  | cons run due =>
    obtain ⟨accounts, hdegraded⟩ := hread _ none (hpingable (List.cons_ne_nil _ _))
    exact ⟨hpass run List.mem_cons_self _ _ hdegraded, hrest due fun x hx => List.mem_cons_of_mem run hx⟩

/-- **What a run collects of one workspace**: nothing of one that is not due; else what is ready and what is pinged, in
one order or the other. -/
theorem filter_plannedAccounts (hreads : d.ReadsThrough) (hpings : d.PingsDue) (workspaceId : WorkspaceId) :
    (d.isDue workspaceId = false →
      d.plannedAccounts.filter (fun a => decide (a.workspaceId = workspaceId)) = []) ∧
    (d.isDue workspaceId = true →
      d.plannedAccounts.filter (fun a => decide (a.workspaceId = workspaceId)) = d.ownAccounts workspaceId ∨
      d.plannedAccounts.filter (fun a => decide (a.workspaceId = workspaceId)) =
        d.pingAccounts workspaceId ++ d.world.readyAccounts workspaceId) := by
  have hthrough := hreads.getsThrough
  have hnodup := d.nodup_dueRuns
  have hisDue : d.isDue workspaceId = true ↔ _ := isDue_iff
  have hping : (World.readRows none d.pingableRows).filter (fun a => decide (a.workspaceId = workspaceId)) =
      d.pingAccounts workspaceId := by
    refine World.filter_readRows (fun r a ha => ?_) _
    rw [(AccountRow.toModel_ok ha).2.2.1]
  have hnone : d.world.dueRuns ≠ [] → d.isDue workspaceId = false → d.pingAccounts workspaceId = [] := by
    intro hsome hdue
    have hrows : d.pingableRows.filter (fun r => decide (r.tenantId = workspaceId)) = [] := by
      refine List.filter_eq_nil_iff.2 fun r hr htenant => ?_
      rw [decide_eq_true_eq] at htenant
      rw [← htenant, hpings hsome r hr] at hdue
      cases hdue
    unfold pingAccounts
    rw [hrows]
    rfl
  unfold plannedAccounts
  cases hruns : d.world.dueRuns with
  | nil =>
    rw [hruns] at hisDue
    exact ⟨fun _ => rfl, fun h => absurd (hisDue.1 h) List.not_mem_nil⟩
  | cons run due =>
    rw [hruns] at hthrough hnodup hisDue hnone
    have hnone := hnone (List.cons_ne_nil _ _)
    obtain ⟨hfresh, hnodup⟩ := List.nodup_cons.1 hnodup
    rw [World.plannedAccounts_eq_append hthrough, List.filter_append, List.filter_append,
      World.filter_readyAccounts, hping,
      World.filter_flatMap_readyAccounts _ _ hnodup]
    by_cases htenant : run.tenantId = workspaceId
    · subst htenant
      rw [if_pos rfl, if_neg hfresh, List.append_nil]
      exact ⟨fun h => absurd (hisDue.2 List.mem_cons_self) (h ▸ Bool.false_ne_true), fun _ => Or.inl rfl⟩
    · rw [if_neg htenant, List.nil_append]
      rw [List.map_cons, List.mem_cons, or_iff_right (Ne.symm htenant)] at hisDue
      refine ⟨fun h => ?_, fun h => Or.inr (by rw [if_pos (hisDue.1 h)])⟩
      rw [hnone h, if_neg fun hmem => (by rw [hisDue.2 hmem] at h; cases h)]
      rfl

/-! ## The flag for Microsoft Graph -/

theorem state_of_readyAccounts {a : CloudAccount} (h : a ∈ d.world.readyAccounts workspaceId) :
    a.state.stateName = .configured := by
  obtain ⟨r, hr, hread⟩ := World.mem_readRows h
  have hready := (List.mem_filter.1 hr).2
  unfold CloudAccountRepository.readyForCollection at hready
  simp only [Bool.and_eq_true, decide_eq_true_eq] at hready
  rw [← AccountRow.accountState_ok (AccountRow.toModel_ok hread).1, r.stateName_of_state hready.2.1]

theorem state_of_pingAccounts {a : CloudAccount} (h : a ∈ d.pingAccounts workspaceId) :
    a.state.stateName = .degraded := by
  obtain ⟨r, hr, hread⟩ := World.mem_readRows h
  have hping := (List.mem_filter.1 (List.mem_filter.1 hr).1).2
  unfold CloudAccountRepository.degradedForPing at hping
  simp only [Bool.and_eq_true, decide_eq_true_eq] at hping
  rw [← AccountRow.accountState_ok (AccountRow.toModel_ok hread).1, r.stateName_of_state hping.1.2]

theorem find_azure_iff (hgraph : d.GraphOfOne)
    (hfilter : d.plannedAccounts.filter (fun a => decide (a.workspaceId = workspaceId)) = d.ownAccounts workspaceId ∨
      d.plannedAccounts.filter (fun a => decide (a.workspaceId = workspaceId)) =
        d.pingAccounts workspaceId ++ d.world.readyAccounts workspaceId) {a : CloudAccount}
    (ha : a ∈ d.ownAccounts workspaceId) : d.plannedAccounts.find? (fun a => decide (a.cloud = .azure)) = some a ↔
      (d.ownAccounts workspaceId).find? (fun a => decide (a.cloud = .azure)) = some a := by
  have hmem : ∀ b, b ∈ d.ownAccounts workspaceId ↔ b ∈ d.plannedAccounts ∧ b.workspaceId = workspaceId := by
    intro b
    have hb : b ∈ d.plannedAccounts.filter (fun a => decide (a.workspaceId = workspaceId)) ↔
        b ∈ d.plannedAccounts ∧ b.workspaceId = workspaceId := by
      rw [List.mem_filter, decide_eq_true_eq]
    rw [← hb]
    unfold ownAccounts at hfilter ⊢
    rcases hfilter with hfilter | hfilter <;> rw [hfilter]
    rw [List.mem_append, List.mem_append, or_comm]
  have hforward : ∀ b ∈ d.ownAccounts workspaceId,
      d.plannedAccounts.find? (fun a => decide (a.cloud = .azure)) = some b →
      (d.ownAccounts workspaceId).find? (fun a => decide (a.cloud = .azure)) = some b := by
    intro b hb hfirst
    have hone := hgraph b hfirst
    -- every Azure account of the run is one of the workspace
    have hfound : (d.plannedAccounts.filter (fun a => decide (a.workspaceId = workspaceId))).find?
        (fun a => decide (a.cloud = .azure)) = some b := by
      rw [List.find?_filter, ← hfirst, ← List.find?_filter, ← List.head?_filter, ← List.head?_filter,
        List.filter_filter]
      refine congrArg _ (List.filter_congr fun x hx => ?_)
      by_cases hazure : x.cloud = .azure
      · rw [(hone x hx hazure).1, ((hmem b).1 hb).2, decide_eq_true rfl, Bool.and_true]
      · rw [decide_eq_false hazure, Bool.false_and]
    rcases hfilter with hfilter | hfilter
    · rw [← hfilter]
      exact hfound
    · rw [hfilter, List.find?_append] at hfound
      unfold ownAccounts
      rw [List.find?_append]
      cases hping : (d.pingAccounts workspaceId).find? (fun a => decide (a.cloud = .azure)) with
      | none =>
        rw [hping, Option.none_or] at hfound
        rw [hfound]
        rfl
      | some first =>
        rw [hping, Option.some_or] at hfound
        cases hfound
        have hdegraded := state_of_pingAccounts (List.mem_of_find?_eq_some hping)
        have hnone : (d.world.readyAccounts workspaceId).find? (fun a => decide (a.cloud = .azure)) = none := by
          refine List.find?_eq_none.2 fun x hx hazure => ?_
          have hplanned := ((hmem x).1 (List.mem_append_left _ hx)).1
          have hconfigured := (hone x hplanned (of_decide_eq_true hazure)).2 (state_of_readyAccounts hx)
          rw [hdegraded] at hconfigured
          cases hconfigured
        rw [hnone]
        rfl
  refine ⟨hforward a ha, fun hown => ?_⟩
  have hazure := List.find?_some hown
  rw [decide_eq_true_eq] at hazure
  obtain ⟨hplanned, hworkspace⟩ := (hmem a).1 ha
  cases hfirst : d.plannedAccounts.find? (fun a => decide (a.cloud = .azure)) with
  | none => exact absurd (decide_eq_true hazure) (List.find?_eq_none.1 hfirst a hplanned)
  | some first =>
    have hsame := (hgraph first hfirst a hplanned hazure).1
    have hfirstOwn := (hmem first).2 ⟨List.mem_of_find?_eq_some hfirst, hsame.symm.trans hworkspace⟩
    rw [← hown, hforward first hfirstOwn hfirst]

end Dispatcher

namespace DispatcherService

/-- The flag goes to the first Azure account. -/
theorem triggers_eq_map {accounts : List CloudAccount} (hnodup : accounts.Nodup) : triggers false accounts =
    accounts.map fun a =>
      ⟨a, collectReason a, decide (accounts.find? (fun a => decide (a.cloud = .azure)) = some a)⟩ := by
  have htrue : ∀ accounts, triggers true accounts = accounts.map fun a => ⟨a, collectReason a, false⟩ := by
    intro accounts
    induction accounts with
    | nil => rfl
    | cons a accounts ih => rw [triggers, Bool.not_true, Bool.and_false, Bool.true_or, ih, List.map_cons]
  induction accounts with
  | nil => rfl
  | cons a accounts ih =>
    obtain ⟨hfresh, hnodup⟩ := List.nodup_cons.1 hnodup
    rw [triggers, List.map_cons, List.find?_cons]
    by_cases hazure : a.cloud = .azure
    · rw [decide_eq_true hazure, Bool.or_true, htrue]
      dsimp only
      rw [decide_eq_true rfl]
      refine congrArg _ (List.map_congr_left fun b hb => ?_)
      have hne : some a ≠ some b := fun h => hfresh (Option.some.inj h ▸ hb)
      rw [decide_eq_false hne]
    · rw [decide_eq_false hazure, Bool.or_false, ih hnodup]
      dsimp only
      have hhead : accounts.find? (fun a => decide (a.cloud = .azure)) ≠ some a := by
        intro h
        have hfound := List.find?_some h
        rw [decide_eq_true_eq] at hfound
        exact hazure hfound
      rw [decide_eq_false hhead, Bool.false_and]

/-- The calls of a run for one workspace, as far as its own accounts and its own next run tell. -/
def ownTriggers (d : Dispatcher) (workspaceId : WorkspaceId) : List Trigger :=
  if d.isDue workspaceId then triggers false (d.ownAccounts workspaceId) else []

/-- **The calls of a run for one workspace** are those of its own, in some order. -/
theorem filter_triggers {d : Dispatcher} (hreads : d.ReadsThrough) (hpings : d.PingsDue) (hgraph : d.GraphOfOne)
    (workspaceId : WorkspaceId) :
    ((triggers false d.plannedAccounts).filter fun t => decide (t.account.workspaceId = workspaceId)).Perm
      (ownTriggers d workspaceId) := by
  have hkeys : (d.plannedAccounts.map accountKey).Nodup :=
    World.nodup_plannedAccounts (List.Sublist.refl _) d.nodup_dueRuns
  have hnodup : d.plannedAccounts.Nodup := List.Nodup.of_map accountKey hkeys
  obtain ⟨hnotDue, hisDue⟩ := Dispatcher.filter_plannedAccounts hreads hpings workspaceId
  rw [triggers_eq_map hnodup, List.filter_map]
  change ((d.plannedAccounts.filter fun a => decide (a.workspaceId = workspaceId)).map _).Perm _
  unfold ownTriggers
  cases hdue : d.isDue workspaceId with
  | false =>
    rw [hnotDue hdue]
    exact List.Perm.refl _
  | true =>
    have hfilter := hisDue hdue
    have hperm : (d.plannedAccounts.filter fun a => decide (a.workspaceId = workspaceId)).Perm
        (d.ownAccounts workspaceId) := by
      rcases hfilter with h | h
      · rw [h]
      · rw [h]
        exact List.perm_append_comm
    have hown : (d.ownAccounts workspaceId).Nodup := hperm.nodup_iff.1 (hnodup.filter _)
    rw [if_pos rfl, triggers_eq_map hown]
    refine (hperm.map _).trans (List.Perm.of_eq (List.map_congr_left fun a ha => ?_))
    rw [decide_eq_decide.2 (Dispatcher.find_azure_iff hgraph hfilter ha)]

/-! ## What a run leaves -/

def RunsAt (now : DateTime) (d : Dispatcher) : Prop := ∀ n, d.world.clock n = now

theorem RunsAt.now_eq {now : DateTime} {d d' : Dispatcher} (h : RunsAt now d) (h' : RunsAt now d') :
    d'.world.now = d.world.now := (h' d'.world.ticks).trans (h d.world.ticks).symm

def rowAfter (d : Dispatcher) (r : AccountRow) : AccountRow :=
  if d.world.dueRuns ≠ [] ∧ r ∈ d.pingableRows then r.pinged d.world.now d.world.now else r

def failedRows (d : Dispatcher) : List AccountRow :=
  d.world.accounts.rows.filter fun r =>
    CloudAccountRepository.readyForCollection r && decide (0 < r.failedScanCount) && d.isFarOff r.tenantId

def failedAccounts (d : Dispatcher) : List CloudAccount := World.readRows none (failedRows d)

variable {now : DateTime} {d : Dispatcher}

/-- The rows and the calls of a run that gets through. -/
structure Ran (d d₁ : Dispatcher) : Prop where
  planned : Triggered (triggers false d.plannedAccounts) d d₁
  failed : Triggered (failedScans (failedAccounts d)) d₁ (exec scheduleNextRuns d).2
  accounts : (exec scheduleNextRuns d).2.world.accounts.rows = d.world.accounts.rows.map (rowAfter d)
  nextRuns : ∀ workspaceId, (exec scheduleNextRuns d).2.world.nextRuns.find workspaceId = d.nextRunAfter workspaceId

theorem mem_pingedIds {r : AccountRow} (hr : r ∈ d.world.accounts.rows) :
    r.id ∈ World.pingedIds d.pingableRows d.world.dueRuns ↔ d.world.dueRuns ≠ [] ∧ r ∈ d.pingableRows := by
  have hmem : r.id ∈ d.pingableRows.map AccountRow.id ↔ r ∈ d.pingableRows :=
    ⟨fun h => List.mem_filter.2 ⟨hr, World.pingable_of_mem hr h⟩, fun h => List.mem_map_of_mem h⟩
  cases d.world.dueRuns with
  | nil => exact ⟨fun h => absurd h List.not_mem_nil, fun h => absurd rfl h.1⟩
  | cons run due => exact hmem.trans (and_iff_right (List.cons_ne_nil run due)).symm

section After

variable {w : World} (hclock : ∀ n, d.world.clock n = d.world.now)
  (h : d.world.Scheduled d.world.now (World.pingedIds d.pingableRows d.world.dueRuns)
    (d.world.dueRuns.map NextTenantRun.tenantId) w)
include hclock h

theorem accounts_after : w.accounts.rows = d.world.accounts.rows.map (rowAfter d) := by
  obtain ⟨stamp, hrows⟩ := h.accounts
  rw [hrows]
  refine List.map_congr_left fun r hr => ?_
  dsimp only
  rw [hclock]
  unfold rowAfter
  by_cases hid : r.id ∈ World.pingedIds d.pingableRows d.world.dueRuns
  · rw [if_pos hid, if_pos ((mem_pingedIds hr).1 hid)]
  · rw [if_neg hid, if_neg fun hp => hid ((mem_pingedIds hr).2 hp)]

theorem nextRuns_after (workspaceId : WorkspaceId) : w.nextRuns.find workspaceId = d.nextRunAfter workspaceId := by
  obtain ⟨stamp, hruns⟩ := h.nextRuns
  have hdue : d.isDue workspaceId = true ↔ workspaceId ∈ d.world.dueRuns.map NextTenantRun.tenantId :=
    Dispatcher.isDue_iff
  rw [Table.find_of_rewriteKeys _ _ (fun n r => NextTenantRun.rescheduled_tenantId _ _ r) hruns]
  unfold Dispatcher.nextRunAfter
  unfold Dispatcher.isDue at hdue
  cases hfind : d.world.nextRuns.find workspaceId with
  | none => rw [Option.map_none, Option.map_none]
  | some run =>
    rw [hfind, Option.any_some, decide_eq_true_eq] at hdue
    rw [Option.map_some, Option.map_some, hclock, hclock, if_congr hdue rfl rfl]

theorem failedScanRows_after : w.failedScanRows d.world.now = failedRows d := by
  obtain ⟨stamp, hrows⟩ := h.accounts
  unfold World.failedScanRows failedRows Dispatcher.isFarOff
  simp only [nextRuns_after hclock h]
  rw [hrows]
  refine Table.filter_rewriteKeys _ _ _ fun r hr hid => ?_
  have hping := (List.mem_filter.1 ((mem_pingedIds hr).1 hid).2).2
  obtain ⟨hold, hnew⟩ := World.not_ready_of_pingable hping (d.world.clock (stamp r.id))
  rw [hold, hnew, Bool.false_and, Bool.false_and, Bool.false_and, Bool.false_and]
  exact ⟨rfl, rfl⟩

end After

/-- **A run at one time gets through** when all that it reads can be read. -/
theorem exists_ran (hu : d.world.Unique) (hnow : RunsAt now d) (hreads : d.ReadsThrough) : ∃ d₁, Ran d d₁ := by
  obtain ⟨d₁, hplanned, -, hthrough⟩ := exec_scheduleNextRuns hu
  obtain ⟨hscheduled, hfailed⟩ := hthrough hreads.getsThrough
  have hclock : ∀ n, d.world.clock n = d.world.now := fun n => (hnow n).trans (hnow d.world.ticks).symm
  have hlisted := failedScanRows_after hclock hscheduled
  have hread : ∃ accounts, (failedRows d).mapM (·.toModel none) = .ok accounts := by
    refine exists_mapM_ok_iff.2 fun r hr => ?_
    obtain ⟨hmem, hp⟩ := List.mem_filter.1 hr
    rw [Bool.and_eq_true, Bool.and_eq_true, decide_eq_true_eq] at hp
    obtain ⟨state, hstate⟩ := hreads.failed r hmem hp.1.1 hp.1.2 hp.2
    obtain ⟨a, ha, -⟩ := AccountRow.exists_toModel hstate none
    exact ⟨a, ha⟩
  obtain ⟨accounts, hread⟩ := hread
  have haccounts : accounts = failedAccounts d := World.eq_readRows hread
  rw [← hlisted] at hread
  obtain ⟨-, htriggered, hsame⟩ := hfailed accounts hread
  rw [haccounts] at htriggered
  refine ⟨d₁, hplanned, htriggered, ?_, fun workspaceId => ?_⟩
  · rw [hsame.accounts, accounts_after hclock hscheduled]
  · rw [hsame.nextRuns, nextRuns_after hclock hscheduled]

/-! ## Only due workspaces -/

/-- Regular collects, pings and their marks are for due workspaces, and the other collects for accounts with failed
scans of workspaces that run again in more than two hours. -/
structure OnlyDue (d : Dispatcher) : Prop where
  triggers : ∀ q ∈ scheduledRequests d, q.reason = .regularCollect ∨ q.reason = .degradedAccountPing →
    d.isDue q.db.workspaceId = true
  writes : ∀ r ∈ d.world.accounts.rows, ∀ r', (exec scheduleNextRuns d).2.world.accounts.find r.id = some r' →
    r'.lastDegradedScanStartedAt ≠ r.lastDegradedScanStartedAt → d.isDue r.tenantId = true
  failedScans : ∀ q ∈ scheduledRequests d, q.reason = .failedAccountScan →
    ∃ r ∈ d.world.accounts.rows, r.id = q.cloudAccountId ∧ r.tenantId = q.db.workspaceId ∧ r.enabled = true ∧
      r.state = some .configured ∧ 0 < r.failedScanCount ∧
      ∃ run, (exec scheduleNextRuns d).2.world.nextRuns.find r.tenantId = some run ∧
        d.world.now.addMicros (2 * 3600000000) < run.time

theorem workspaceId_of_request {t : Trigger} {q : CollectRequest} (h : t.request d = some q) :
    q.db.workspaceId = t.account.workspaceId :=
  Table.key_of_find (Trigger.request_eq_some h).2.2.1

theorem reason_of_mem_triggers {graph : Bool} {accounts : List CloudAccount} {t : Trigger}
    (h : t ∈ triggers graph accounts) : t.account ∈ accounts ∧ t.reason ≠ .failedAccountScan := by
  induction accounts generalizing graph with
  | nil => cases h
  | cons a accounts ih =>
    rw [triggers, List.mem_cons] at h
    rcases h with rfl | h
    · refine ⟨List.mem_cons_self, ?_⟩
      dsimp only
      unfold collectReason
      split <;> exact CollectReason.noConfusion
    · exact ⟨List.mem_cons_of_mem _ (ih h).1, (ih h).2⟩

/-- **Only due workspaces are collected, pinged and marked** if and only if no other one has an account to ping. -/
theorem onlyDue_iff (hu : d.world.Unique) (hnow : RunsAt now d) (hreads : d.ReadsThrough) :
    OnlyDue d ↔ d.PingsDue := by
  obtain ⟨d₁, hran⟩ := exists_ran hu hnow hreads
  have hfind : ∀ r ∈ d.world.accounts.rows,
      (exec scheduleNextRuns d).2.world.accounts.find r.id = some (rowAfter d r) := by
    intro r hr
    rw [Table.find_eq_some_iff, hran.accounts]
    refine ⟨List.mem_map_of_mem hr, ?_⟩
    unfold rowAfter
    split
    · exact AccountRow.pinged_id _ _ r
    · rfl
  have hrequests := scheduledRequests_eq hran.planned hran.failed
  constructor
  · intro h hdue r hr
    obtain ⟨hmem, hping⟩ := List.mem_filter.1 hr
    refine h.writes r hmem _ (hfind r hmem) ?_
    obtain ⟨state, hstate⟩ := hreads.pingable hdue r hr
    obtain ⟨a, ha, -⟩ := AccountRow.exists_toModel hstate none
    unfold rowAfter
    rw [if_pos ⟨hdue, hr⟩, AccountRow.pinged_eq _ _ r ha]
    intro hlast
    unfold CloudAccountRepository.degradedForPing at hping
    have hzero : d.world.now.sub d.world.now = 0 := Int.sub_self _
    rw [← hlast, Bool.and_eq_true] at hping
    have hbefore := hping.2
    change decide (_ < d.world.now.sub d.world.now) = true at hbefore
    rw [hzero, decide_eq_true_eq] at hbefore
    omega
  · intro hpings
    refine ⟨fun q hq hreason => ?_, fun r hr r' hr' hchanged => ?_, fun q hq hreason => ?_⟩
    · rw [hrequests] at hq
      rcases List.mem_append.1 hq with hq | hq
      · obtain ⟨t, ht, hrequest⟩ := List.mem_filterMap.1 hq
        rw [workspaceId_of_request hrequest]
        cases hdue : d.isDue t.account.workspaceId with
        | true => rfl
        | false =>
          have hnone := (Dispatcher.filter_plannedAccounts hreads hpings t.account.workspaceId).1 hdue
          have hmem : t.account ∈ d.plannedAccounts.filter
              (fun a => decide (a.workspaceId = t.account.workspaceId)) :=
            List.mem_filter.2 ⟨(reason_of_mem_triggers ht).1, decide_eq_true rfl⟩
          rw [hnone] at hmem
          cases hmem
      · obtain ⟨t, ht, hrequest⟩ := List.mem_filterMap.1 hq
        obtain ⟨a, -, rfl⟩ := List.mem_map.1 ht
        rw [(Trigger.request_eq_some hrequest).2.2.2.2] at hreason
        rcases hreason with h | h <;> cases h
    · rw [hfind r hr] at hr'
      cases hr'
      unfold rowAfter at hchanged
      by_cases hping : d.world.dueRuns ≠ [] ∧ r ∈ d.pingableRows
      · exact hpings hping.1 r hping.2
      · rw [if_neg hping] at hchanged
        exact absurd rfl hchanged
    · rw [hrequests] at hq
      rcases List.mem_append.1 hq with hq | hq
      · obtain ⟨t, ht, hrequest⟩ := List.mem_filterMap.1 hq
        exact absurd ((Trigger.request_eq_some hrequest).2.2.2.2.symm.trans hreason) (reason_of_mem_triggers ht).2
      · obtain ⟨t, ht, hrequest⟩ := List.mem_filterMap.1 hq
        obtain ⟨a, ha, rfl⟩ := List.mem_map.1 ht
        obtain ⟨r, hr, hread⟩ := World.mem_readRows ha
        obtain ⟨-, hid, hworkspace, -⟩ := AccountRow.toModel_ok hread
        obtain ⟨hmem, hp⟩ := List.mem_filter.1 hr
        unfold CloudAccountRepository.readyForCollection at hp
        simp only [Bool.and_eq_true, decide_eq_true_eq] at hp
        refine ⟨r, hmem, ?_, ?_, hp.1.1.2, hp.1.1.1, hp.1.2, ?_⟩
        · rw [(Trigger.request_eq_some hrequest).2.2.2.1]
          exact hid.symm
        · rw [workspaceId_of_request hrequest]
          exact hworkspace.symm
        · rw [hran.nextRuns]
          have hfar := hp.2
          unfold Dispatcher.isFarOff at hfar
          obtain ⟨run, hrun, hlate⟩ := Option.any_eq_true _ _ |>.1 hfar
          exact ⟨run, hrun, of_decide_eq_true hlate⟩

/-! ## Two runs -/

/-- Two states that show a workspace the same accounts, the same next run, and the same besides the two tables. -/
structure AgreeOn (workspaceId : WorkspaceId) (d d' : Dispatcher) : Prop where
  accounts : d'.world.accounts.rows.filter (fun r => decide (r.tenantId = workspaceId)) =
    d.world.accounts.rows.filter fun r => decide (r.tenantId = workspaceId)
  nextRun : d'.world.nextRuns.find workspaceId = d.world.nextRuns.find workspaceId
  organizations : d'.world.organizations = d.world.organizations
  collects : d'.collects = d.collects
  serviceAccountKeys : d'.serviceAccountKeys = d.serviceAccountKeys
  azureCredentials : d'.azureCredentials = d.azureCredentials
  databaseAccess : d'.databaseAccess = d.databaseAccess
  interval : d'.degradedAccountsPingIntervalHours = d.degradedAccountsPingIntervalHours

/-- The runs trigger and write the same for a workspace. -/
structure SameFor (workspaceId : WorkspaceId) (d d' : Dispatcher) : Prop where
  triggered : ((scheduledRequests d').filter fun q => decide (q.db.workspaceId = workspaceId)).Perm
    ((scheduledRequests d).filter fun q => decide (q.db.workspaceId = workspaceId))
  accounts : (exec scheduleNextRuns d').2.world.accounts.rows.filter (fun r => decide (r.tenantId = workspaceId)) =
    (exec scheduleNextRuns d).2.world.accounts.rows.filter fun r => decide (r.tenantId = workspaceId)
  nextRun : (exec scheduleNextRuns d').2.world.nextRuns.find workspaceId =
    (exec scheduleNextRuns d).2.world.nextRuns.find workspaceId

/-- The condition under which a run isolates the workspaces. -/
structure Isolating (d : Dispatcher) : Prop where
  reads : d.ReadsThrough
  pings : d.PingsDue
  graph : d.GraphOfOne

theorem filter_requests (calls : List Trigger) (d : Dispatcher) (workspaceId : WorkspaceId) :
    (calls.filterMap (·.request d)).filter (fun q => decide (q.db.workspaceId = workspaceId)) =
      (calls.filter fun t => decide (t.account.workspaceId = workspaceId)).filterMap (·.request d) := by
  induction calls with
  | nil => rfl
  | cons t calls ih =>
    rw [List.filterMap_cons, List.filter_cons]
    cases hrequest : t.request d with
    | none =>
      dsimp only
      rw [ih]
      split
      · rw [List.filterMap_cons, hrequest]
      · rfl
    | some q =>
      dsimp only
      rw [List.filter_cons, workspaceId_of_request hrequest, ih]
      split
      · rw [List.filterMap_cons, hrequest]
      · rfl

theorem request_congr {t : Trigger} {d d' : Dispatcher} (hkeys : d'.serviceAccountKeys = d.serviceAccountKeys)
    (hcredentials : d'.azureCredentials = d.azureCredentials) (hdb : d'.databaseAccess = d.databaseAccess)
    (hongoing : (d'.collects.accountCollectState t.account.workspaceId t.account.id).isSome =
      (d.collects.accountCollectState t.account.workspaceId t.account.id).isSome) : t.request d' = t.request d := by
  have hinfo : accountInformation t.account t.collectMicrosoftGraph d' =
      accountInformation t.account t.collectMicrosoftGraph d := by
    unfold accountInformation
    rw [hkeys, hcredentials]
  unfold Trigger.request
  rw [hongoing, hinfo, hdb]

namespace AgreeOn

variable {d' : Dispatcher} {workspaceId : WorkspaceId} (h : AgreeOn workspaceId d d')
include h

theorem request (t : Trigger) : t.request d' = t.request d :=
  request_congr h.serviceAccountKeys h.azureCredentials h.databaseAccess (by rw [h.collects])

theorem filter_rows {p p' : AccountRow → Bool}
    (hp : ∀ r ∈ d.world.accounts.rows, r.tenantId = workspaceId → p' r = p r) :
    (d'.world.accounts.rows.filter fun r => decide (r.tenantId = workspaceId) && p' r) =
      d.world.accounts.rows.filter fun r => decide (r.tenantId = workspaceId) && p r := by
  have hswap : ∀ (rows : List AccountRow) (p : AccountRow → Bool),
      (rows.filter fun r => decide (r.tenantId = workspaceId) && p r) =
        (rows.filter fun r => decide (r.tenantId = workspaceId)).filter p := by
    intro rows p
    rw [List.filter_filter]
    exact List.filter_congr fun r _ => Bool.and_comm _ _
  rw [hswap, hswap, h.accounts]
  refine List.filter_congr fun r hr => ?_
  obtain ⟨hmem, htenant⟩ := List.mem_filter.1 hr
  exact hp r hmem (of_decide_eq_true htenant)

variable (hnow : RunsAt now d) (hnow' : RunsAt now d')
include hnow hnow'

theorem isDue_eq : d'.isDue workspaceId = d.isDue workspaceId := by
  unfold Dispatcher.isDue
  rw [h.nextRun, hnow.now_eq hnow']

theorem nextRunAfter_eq : d'.nextRunAfter workspaceId = d.nextRunAfter workspaceId := by
  unfold Dispatcher.nextRunAfter
  rw [h.nextRun, hnow.now_eq hnow', h.organizations]

theorem pings_eq (r : AccountRow) :
    CloudAccountRepository.degradedForPing d'.world.now (d'.degradedAccountsPingIntervalHours * 3600000000) r =
      CloudAccountRepository.degradedForPing d.world.now (d.degradedAccountsPingIntervalHours * 3600000000) r := by
  rw [hnow.now_eq hnow', h.interval]

theorem ownTriggers_eq : ownTriggers d' workspaceId = ownTriggers d workspaceId := by
  have hready : d'.world.readyAccounts workspaceId = d.world.readyAccounts workspaceId := by
    unfold World.readyAccounts
    rw [h.nextRun, h.filter_rows fun _ _ _ => rfl]
  have hping : d'.pingAccounts workspaceId = d.pingAccounts workspaceId := by
    unfold Dispatcher.pingAccounts Dispatcher.pingableRows World.pingableRows
    rw [List.filter_filter, List.filter_filter, h.filter_rows fun r _ _ => h.pings_eq hnow hnow' r]
  unfold ownTriggers Dispatcher.ownAccounts
  rw [h.isDue_eq hnow hnow', hready, hping]

theorem failedAccounts_eq : (failedAccounts d').filter (fun a => decide (a.workspaceId = workspaceId)) =
    (failedAccounts d).filter fun a => decide (a.workspaceId = workspaceId) := by
  have hread : ∀ (r : AccountRow) (a : CloudAccount), r.toModel none = .ok a →
      decide (a.workspaceId = workspaceId) = decide (r.tenantId = workspaceId) := by
    intro r a ha
    rw [(AccountRow.toModel_ok ha).2.2.1]
  unfold failedAccounts failedRows
  rw [World.filter_readRows hread, World.filter_readRows hread, List.filter_filter, List.filter_filter, h.filter_rows]
  intro r _ htenant
  unfold Dispatcher.isFarOff
  rw [htenant, h.nextRunAfter_eq hnow hnow', hnow.now_eq hnow']

theorem rowAfter_eq (hpings : d.PingsDue) (hpings' : d'.PingsDue) {r : AccountRow} (hr : r ∈ d.world.accounts.rows)
    (htenant : r.tenantId = workspaceId) : rowAfter d' r = rowAfter d r := by
  have hmem : r ∈ d'.world.accounts.rows := by
    have hfilter : r ∈ d.world.accounts.rows.filter fun r => decide (r.tenantId = workspaceId) :=
      List.mem_filter.2 ⟨hr, decide_eq_true htenant⟩
    rw [← h.accounts] at hfilter
    exact (List.mem_filter.1 hfilter).1
  have hping : r ∈ d'.pingableRows ↔ r ∈ d.pingableRows := by
    unfold Dispatcher.pingableRows World.pingableRows
    rw [List.mem_filter, List.mem_filter, h.pings_eq hnow hnow', and_iff_right hmem, and_iff_right hr]
  -- an account that is pinged is one of a due workspace
  have hown : ∀ d : Dispatcher, d.PingsDue → (d.world.dueRuns ≠ [] ∧ r ∈ d.pingableRows ↔
      d.isDue workspaceId = true ∧ r ∈ d.pingableRows) := by
    intro d hpings
    refine and_congr_left fun hrow => ⟨fun hsome => htenant ▸ hpings hsome r hrow, fun hdue hnone => ?_⟩
    have hmem := Dispatcher.isDue_iff.1 hdue
    rw [hnone] at hmem
    cases hmem
  have hiff : d'.world.dueRuns ≠ [] ∧ r ∈ d'.pingableRows ↔ d.world.dueRuns ≠ [] ∧ r ∈ d.pingableRows := by
    rw [hown d' hpings', hown d hpings, hping, h.isDue_eq hnow hnow']
  unfold rowAfter
  rw [hnow.now_eq hnow', if_congr hiff rfl rfl]

end AgreeOn

theorem filter_rowAfter (d : Dispatcher) (workspaceId : WorkspaceId) :
    ((d.world.accounts.rows.map (rowAfter d)).filter fun r => decide (r.tenantId = workspaceId)) =
      (d.world.accounts.rows.filter fun r => decide (r.tenantId = workspaceId)).map (rowAfter d) := by
  rw [List.filter_map]
  refine congrArg _ (List.filter_congr fun r _ => ?_)
  rw [Function.comp_apply]
  unfold rowAfter
  split
  · rw [AccountRow.pinged_tenantId]
  · rfl

/-- **Two runs are the same for a workspace** that sees no difference before them. -/
theorem sameFor_of_agreeOn {d' : Dispatcher} {workspaceId : WorkspaceId} (h : AgreeOn workspaceId d d')
    (hu : d.world.Unique) (hu' : d'.world.Unique) (hnow : RunsAt now d) (hnow' : RunsAt now d') (hd : Isolating d)
    (hd' : Isolating d') : SameFor workspaceId d d' := by
  obtain ⟨d₁, hran⟩ := exists_ran hu hnow hd.reads
  obtain ⟨d₁', hran'⟩ := exists_ran hu' hnow' hd'.reads
  have hcalls := filter_triggers hd.reads hd.pings hd.graph workspaceId
  have hcalls' := filter_triggers hd'.reads hd'.pings hd'.graph workspaceId
  rw [h.ownTriggers_eq hnow hnow'] at hcalls'
  have hboth := hcalls'.trans hcalls.symm
  -- the same collects of the workspace are in progress when the accounts with failed scans are listed
  have hongoing : ∀ id, (d₁'.collects.accountCollectState workspaceId id).isSome =
      (d₁.collects.accountCollectState workspaceId id).isSome := by
    intro id
    have hcall : ∀ d : Dispatcher, (∃ t ∈ triggers false d.plannedAccounts, t.key = (workspaceId, id) ∧
        (t.request d).isSome = true) ↔ ∃ t ∈ (triggers false d.plannedAccounts).filter
          (fun t => decide (t.account.workspaceId = workspaceId)), t.key = (workspaceId, id) ∧
            (t.request d).isSome = true := by
      intro d
      constructor
      · rintro ⟨t, ht, hkey, hsome⟩
        exact ⟨t, List.mem_filter.2 ⟨ht, decide_eq_true (congrArg Prod.fst hkey)⟩, hkey, hsome⟩
      · rintro ⟨t, ht, hkey, hsome⟩
        exact ⟨t, (List.mem_filter.1 ht).1, hkey, hsome⟩
    rw [Bool.eq_iff_iff, hran'.planned.ongoing, hran.planned.ongoing, h.collects, hcall, hcall]
    refine or_congr_right (exists_congr fun t => ?_)
    rw [hboth.mem_iff, h.request]
  have hfailed : ∀ t ∈ failedScans ((failedAccounts d).filter fun a => decide (a.workspaceId = workspaceId)),
      t.request d₁' = t.request d₁ := by
    intro t ht
    obtain ⟨a, ha, rfl⟩ := List.mem_map.1 ht
    have hworkspace : a.workspaceId = workspaceId := of_decide_eq_true (List.mem_filter.1 ha).2
    refine request_congr ?_ ?_ ?_ ?_
    · rw [hran'.planned.serviceAccountKeys, hran.planned.serviceAccountKeys, h.serviceAccountKeys]
    · rw [hran'.planned.azureCredentials, hran.planned.azureCredentials, h.azureCredentials]
    · rw [hran'.planned.databaseAccess, hran.planned.databaseAccess, h.databaseAccess]
    · rw [hworkspace]
      exact hongoing a.id
  have hscans : ∀ accounts : List CloudAccount, (failedScans accounts).filter
      (fun t => decide (t.account.workspaceId = workspaceId)) =
        failedScans (accounts.filter fun a => decide (a.workspaceId = workspaceId)) := by
    intro accounts
    unfold failedScans
    rw [List.filter_map]
    rfl
  refine ⟨?_, ?_, ?_⟩
  · rw [scheduledRequests_eq hran.planned hran.failed, scheduledRequests_eq hran'.planned hran'.failed,
      List.filter_append, List.filter_append, filter_requests, filter_requests, filter_requests,
        filter_requests, hscans,
      hscans, h.failedAccounts_eq hnow hnow', List.filterMap_congr hfailed,
      List.filterMap_congr fun t _ => h.request t]
    exact (hboth.filterMap _).append_right _
  · rw [hran.accounts, hran'.accounts, filter_rowAfter, filter_rowAfter, h.accounts]
    refine List.map_congr_left fun r hr => ?_
    obtain ⟨hmem, htenant⟩ := List.mem_filter.1 hr
    exact h.rowAfter_eq hnow hnow' hd.pings hd'.pings hmem (of_decide_eq_true htenant)
  · rw [hran.nextRuns, hran'.nextRuns, h.nextRunAfter_eq hnow hnow']

/-- **Tenant isolation**: only due workspaces are collected and marked, and what a workspace gets depends on its own
accounts and its own next run. -/
theorem scheduleNextRuns_isolates (hu : d.world.Unique) (hnow : RunsAt now d) :
    (d.ReadsThrough → (OnlyDue d ↔ d.PingsDue)) ∧
      (Isolating d → ∀ workspaceId d', AgreeOn workspaceId d d' → d'.world.Unique → RunsAt now d' → Isolating d' →
        SameFor workspaceId d d') :=
  ⟨fun hreads => onlyDue_iff hu hnow hreads, fun hd _ _ h hu' hnow' hd' =>
    sameFor_of_agreeOn h hu hu' hnow hnow' hd hd'⟩

def azureRow : AccountRow :=
  .ofModel (newAccount 10 "subscription-1" 1 .azure (.configured (.azure 5) true true) none yesterday)

def degradedRow (workspaceId : WorkspaceId) : AccountRow :=
  .ofModel (newAccount 11 "111111111111" workspaceId .aws (.degraded (.aws 2 "role") true true "denied") none yesterday)

def failedRow : AccountRow :=
  { AccountRow.ofModel (newAccount 12 "222222222222" 2 .aws (.configured (.aws 2 "role") true true) none yesterday) with
    failedScanCount := 2 }

/-- Workspace 1 is due, and workspace 2 runs again tomorrow. -/
def oneDue (accounts : Table AccountRow.id) : Dispatcher :=
  { twoAzureWorkspaces with
    world := { twoAzureWorkspaces.world with
      accounts := accounts
      nextRuns := ⟨[⟨1, yesterday⟩, ⟨2, ⟨⟨2024, 1, 3, valid_january3⟩, 0, midnight_inDay⟩⟩], by decide⟩ } }

def ownRows : Table AccountRow.id := ⟨[azureRow, degradedRow 1], by decide⟩

def ownAndOtherRows : Table AccountRow.id := ⟨[azureRow, failedRow, degradedRow 1], by decide⟩

theorem oneDue_isolating {accounts : Table AccountRow.id} (h : accounts = ownRows ∨ accounts = ownAndOtherRows) :
    (oneDue accounts).world.Unique ∧ Isolating (oneDue accounts) := by
  have hstored : ∀ run ∈ (oneDue accounts).world.dueRuns,
      (getWorkspace (oneDue accounts).world.organizations run.tenantId).isSome = true := by
    rcases h with rfl | rfl <;> decide +kernel
  have hread : ∀ r ∈ accounts.rows, ∃ state, r.accountState = .ok state := by
    rcases h with rfl | rfl
    · exact List.forall_mem_cons.2 ⟨⟨_, rfl⟩, List.forall_mem_cons.2 ⟨⟨_, rfl⟩, List.forall_mem_nil _⟩⟩
    · exact List.forall_mem_cons.2 ⟨⟨_, rfl⟩, List.forall_mem_cons.2 ⟨⟨_, rfl⟩, List.forall_mem_cons.2 ⟨⟨_, rfl⟩,
        List.forall_mem_nil _⟩⟩⟩
  have hgraph : ∀ first ∈ (oneDue accounts).plannedAccounts,
      (oneDue accounts).plannedAccounts.find? (fun a => decide (a.cloud = .azure)) = some first →
        ∀ a ∈ (oneDue accounts).plannedAccounts, a.cloud = .azure → a.workspaceId = first.workspaceId ∧
          (a.state.stateName = .configured → first.state.stateName = .configured) := by
    rcases h with rfl | rfl <;> decide +kernel
  refine ⟨?_, ⟨fun run hrun => Option.isSome_iff_exists.1 (hstored run hrun), fun r hr _ _ => hread r hr,
    fun _ r hr => hread r (List.mem_filter.1 hr).1, fun r hr _ _ _ => hread r hr⟩, ?_,
    fun first hfirst => hgraph first (List.mem_of_find?_eq_some hfirst) hfirst⟩
  · unfold World.Unique
    rcases h with rfl | rfl <;> decide +kernel
  · unfold Dispatcher.PingsDue
    rcases h with rfl | rfl <;> decide +kernel

theorem scheduleNextRuns_isolates_oneDue : OnlyDue (oneDue ownRows) ∧ SameFor 1 (oneDue ownRows)
    (oneDue ownAndOtherRows) := by
  obtain ⟨hu, hd⟩ := oneDue_isolating (Or.inl rfl)
  obtain ⟨hu', hd'⟩ := oneDue_isolating (Or.inr rfl)
  have hagree : AgreeOn 1 (oneDue ownRows) (oneDue ownAndOtherRows) :=
    ⟨by decide +kernel, rfl, rfl, rfl, rfl, rfl, rfl, rfl⟩
  have h := scheduleNextRuns_isolates hu (fun _ => rfl : RunsAt today (oneDue ownRows))
  exact ⟨(h.1 hd.reads).2 hd.pings, h.2 hd 1 _ hagree hu' (fun _ => rfl) hd'⟩

/-- The account of workspace 2 is pinged and marked in the pass over workspace 1. -/
theorem other_workspace_pinged : ¬OnlyDue (oneDue ⟨[azureRow, degradedRow 2], by decide⟩) := by
  intro h
  have hpinged : ∃ q ∈ scheduledRequests (oneDue ⟨[azureRow, degradedRow 2], by decide⟩),
      q.reason = .degradedAccountPing ∧ q.db.workspaceId = 2 := by decide +kernel
  obtain ⟨q, hq, hreason, hworkspace⟩ := hpinged
  have hdue := h.triggers q hq (Or.inr hreason)
  rw [hworkspace] at hdue
  exact absurd hdue (by decide +kernel)

end DispatcherService

end Fix
