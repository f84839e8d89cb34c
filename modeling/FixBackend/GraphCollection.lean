import FixBackend.Scheduling
/-!
# GraphCollection — for which workspaces Microsoft Graph is collected

The flag of `schedule_next_runs` is not reset between two workspaces, and it is raised before `trigger_collect` decides
whether it skips the account.  So of all that a run enqueues at most one job collects Microsoft Graph.
-/
namespace Fix

open Calendar Effects

/-- The regular collect or the ping of an Azure account of a workspace. -/
def CollectRequest.isScheduledAzure (workspaceId : WorkspaceId) (r : CollectRequest) : Bool :=
  decide (r.reason = .regularCollect ∨ r.reason = .degradedAccountPing) && decide (r.account.cloud = .azure) &&
    decide (r.db.workspaceId = workspaceId)

def CollectRequest.collectsMicrosoftGraph (r : CollectRequest) : Bool :=
  match r.account with
  | .azure _ _ _ _ collectMicrosoftGraph => collectMicrosoftGraph
  | _ => false

namespace DispatcherService

/-- Every workspace with such a job has exactly one that collects Microsoft Graph. -/
def GraphOnce (requests : List CollectRequest) : Prop :=
  ∀ workspaceId, (∃ r ∈ requests, r.isScheduledAzure workspaceId = true) →
    requests.countP (fun r => r.isScheduledAzure workspaceId && r.collectsMicrosoftGraph) = 1

/-- The account is one of Azure and `trigger_collect` does not skip it. -/
def collectsAzure (d : Dispatcher) (a : CloudAccount) : Bool :=
  (d.collects.accountCollectState a.workspaceId a.id).isNone &&
    (accountInformation a false d).any (fun info => decide (info.cloud = .azure)) &&
    (d.databaseAccess.find a.workspaceId).isSome

/-- The first Azure account of the run is not skipped, and no other workspace has one that is not. -/
def GraphReaches (d : Dispatcher) : Prop :=
  ∀ a ∈ d.plannedAccounts, collectsAzure d a = true →
    ∃ first, d.plannedAccounts.find? (fun a => decide (a.cloud = .azure)) = some first ∧ collectsAzure d first = true ∧
      first.workspaceId = a.workspaceId

/-! ## One call -/

def withGraph (graph : Bool) : AccountInformation → AccountInformation
  | .azure subscriptionId tenantId clientId clientSecret _ => .azure subscriptionId tenantId clientId clientSecret graph
  | info => info

theorem accountInformation_eq_map (a : CloudAccount) (graph : Bool) (d : Dispatcher) :
    accountInformation a graph d = (accountInformation a false d).map (withGraph graph) := by
  unfold accountInformation
  cases a.state with
  | detected => rfl
  | discovered access enabled => rfl
  | configured access enabled scan =>
    cases access with
    | aws externalId roleName => rfl
    | gcp key => dsimp only; cases d.serviceAccountKeys key <;> rfl
    | azure credentialId => dsimp only; cases d.azureCredentials credentialId <;> rfl
  | degraded access enabled scan error =>
    cases access with
    | aws externalId roleName => rfl
    | gcp key => dsimp only; cases d.serviceAccountKeys key <;> rfl
    | azure credentialId => dsimp only; cases d.azureCredentials credentialId <;> rfl
  | deleted => rfl

theorem request_scheduledAzure (d : Dispatcher) (a : CloudAccount) (graph : Bool) (workspaceId : WorkspaceId) :
    ((Trigger.mk a (collectReason a) graph).request d).any (·.isScheduledAzure workspaceId) =
        (collectsAzure d a && decide (a.workspaceId = workspaceId)) ∧
      ((Trigger.mk a (collectReason a) graph).request d).any
          (fun r => r.isScheduledAzure workspaceId && r.collectsMicrosoftGraph) =
        (graph && (collectsAzure d a && decide (a.workspaceId = workspaceId))) := by
  have hreason : collectReason a = .regularCollect ∨ collectReason a = .degradedAccountPing := by
    unfold collectReason
    split
    · exact Or.inr rfl
    · exact Or.inl rfl
  unfold Trigger.request collectsAzure
  dsimp only
  cases hongoing : d.collects.accountCollectState a.workspaceId a.id with
  | some p => cases graph <;> exact ⟨rfl, rfl⟩
  | none =>
    rw [accountInformation_eq_map a graph]
    cases hinfo : accountInformation a false d with
    | none => cases graph <;> exact ⟨rfl, rfl⟩
    | some info =>
      cases hdb : d.databaseAccess.find a.workspaceId with
      | none => cases graph <;> cases info <;> exact ⟨rfl, rfl⟩
      | some db =>
        have hworkspace : db.workspaceId = a.workspaceId := Table.key_of_find hdb
        cases info <;> cases graph <;>
          simp [CollectRequest.isScheduledAzure, CollectRequest.collectsMicrosoftGraph, withGraph,
            AccountInformation.cloud, hreason, hworkspace]

/-! ## The calls of a run -/

theorem any_scheduledAzure (d : Dispatcher) (workspaceId : WorkspaceId) (graph : Bool) (accounts : List CloudAccount) :
    (∃ r ∈ (triggers graph accounts).filterMap (·.request d), r.isScheduledAzure workspaceId = true) ↔
      ∃ a ∈ accounts, collectsAzure d a = true ∧ a.workspaceId = workspaceId := by
  induction accounts generalizing graph with
  | nil => exact ⟨fun ⟨_, hr, _⟩ => absurd hr List.not_mem_nil, fun ⟨_, ha, _⟩ => absurd ha List.not_mem_nil⟩
  | cons a accounts ih =>
    have hhead := (request_scheduledAzure d a (decide (a.cloud = .azure) && !graph) workspaceId).1
    rw [Bool.eq_iff_iff, Bool.and_eq_true, decide_eq_true_eq, Option.any_eq_true] at hhead
    rw [List.exists_mem_cons_iff, ← hhead, ← ih (graph || decide (a.cloud = .azure)), triggers, List.filterMap_cons]
    cases (Trigger.mk a (collectReason a) (decide (a.cloud = .azure) && !graph)).request d with
    | none =>
      constructor
      · exact Or.inr
      · rintro (⟨_, hr, -⟩ | h)
        · cases hr
        · exact h
    | some r =>
      rw [List.exists_mem_cons_iff]
      refine or_congr_left ⟨fun h => ⟨r, rfl, h⟩, ?_⟩
      rintro ⟨_, hr, h⟩
      cases hr
      exact h

/-- **At most one job of a run collects Microsoft Graph**: that of its first Azure account. -/
theorem countP_collectsMicrosoftGraph (d : Dispatcher) (workspaceId : WorkspaceId) (accounts : List CloudAccount) :
    ((triggers true accounts).filterMap (·.request d)).countP
        (fun r => r.isScheduledAzure workspaceId && r.collectsMicrosoftGraph) = 0 ∧
      ((triggers false accounts).filterMap (·.request d)).countP
          (fun r => r.isScheduledAzure workspaceId && r.collectsMicrosoftGraph) =
        match accounts.find? fun a => decide (a.cloud = .azure) with
        | some first => if collectsAzure d first = true ∧ first.workspaceId = workspaceId then 1 else 0
        | none => 0 := by
  have hany : ∀ (o : Option CollectRequest) (p : CollectRequest → Bool), (o.map p).getD false = o.any p := by
    intro o p
    cases o <;> rfl
  simp only [List.countP_filterMap, hany]
  have hfalse : ∀ accounts, (triggers true accounts).countP (fun t =>
      (t.request d).any fun r => r.isScheduledAzure workspaceId && r.collectsMicrosoftGraph) = 0 := by
    intro accounts
    induction accounts with
    | nil => rfl
    | cons a accounts ih =>
      rw [triggers, Bool.not_true, Bool.and_false, Bool.true_or, List.countP_cons, ih,
        (request_scheduledAzure d a false workspaceId).2, Bool.false_and]
      rfl
  refine ⟨hfalse accounts, ?_⟩
  induction accounts with
  | nil => rfl
  | cons a accounts ih =>
    rw [triggers, Bool.not_false, Bool.and_true, Bool.false_or, List.countP_cons,
      (request_scheduledAzure d a _ workspaceId).2, List.find?_cons]
    by_cases hazure : a.cloud = .azure
    · rw [decide_eq_true hazure, hfalse, Bool.true_and, Nat.zero_add]
      dsimp only
      refine if_congr ?_ rfl rfl
      rw [Bool.and_eq_true, decide_eq_true_eq]
    · rw [decide_eq_false hazure, ih, Bool.false_and, if_neg Bool.false_ne_true, Nat.add_zero]

/-- **Microsoft Graph is collected once for each workspace** if and only if the first Azure account of the run is not
skipped and belongs to the only workspace with an Azure account that is not. -/
theorem graphOnce_iff {d : Dispatcher} (hu : d.world.Unique) : GraphOnce (scheduledRequests d) ↔ GraphReaches d := by
  obtain ⟨d₁, hplanned, ⟨failedAccounts, hfailed⟩, -⟩ := exec_scheduleNextRuns hu
  have hrequests := scheduledRequests_eq hplanned hfailed
  -- the collects of accounts with failed scans are not counted
  have hnone : ∀ r ∈ (failedScans failedAccounts).filterMap (·.request d₁), ∀ workspaceId,
      r.isScheduledAzure workspaceId = false := by
    intro r hr workspaceId
    obtain ⟨t, ht, hrequest⟩ := List.mem_filterMap.1 hr
    obtain ⟨a, -, rfl⟩ := List.mem_map.1 ht
    obtain ⟨-, -, -, -, hreason⟩ := Trigger.request_eq_some hrequest
    unfold CollectRequest.isScheduledAzure
    rw [hreason]
    rfl
  have hcount : ∀ workspaceId, (scheduledRequests d).countP
      (fun r => r.isScheduledAzure workspaceId && r.collectsMicrosoftGraph) =
        match d.plannedAccounts.find? fun a => decide (a.cloud = .azure) with
        | some first => if collectsAzure d first = true ∧ first.workspaceId = workspaceId then 1 else 0
        | none => 0 := by
    intro workspaceId
    have hzero : ((failedScans failedAccounts).filterMap (·.request d₁)).countP
        (fun r => r.isScheduledAzure workspaceId && r.collectsMicrosoftGraph) = 0 := by
      refine List.countP_eq_zero.2 fun r hr => ?_
      rw [hnone r hr, Bool.false_and]
      exact Bool.false_ne_true
    rw [hrequests, List.countP_append, hzero, (countP_collectsMicrosoftGraph d workspaceId _).2, Nat.add_zero]
  have hexists : ∀ workspaceId, (∃ r ∈ scheduledRequests d, r.isScheduledAzure workspaceId = true) ↔
      ∃ a ∈ d.plannedAccounts, collectsAzure d a = true ∧ a.workspaceId = workspaceId := by
    intro workspaceId
    rw [← any_scheduledAzure d workspaceId false, hrequests]
    constructor
    · rintro ⟨r, hr, hscheduled⟩
      rcases List.mem_append.1 hr with hr | hr
      · exact ⟨r, hr, hscheduled⟩
      · rw [hnone r hr] at hscheduled
        cases hscheduled
    · rintro ⟨r, hr, hscheduled⟩
      exact ⟨r, List.mem_append_left _ hr, hscheduled⟩
  unfold GraphOnce GraphReaches
  simp only [hcount, hexists]
  constructor
  · intro h a ha hcollects
    have hone := h a.workspaceId ⟨a, ha, hcollects, rfl⟩
    cases hfirst : d.plannedAccounts.find? fun a => decide (a.cloud = .azure) with
    | none => rw [hfirst] at hone; cases hone
    | some first =>
      rw [hfirst] at hone
      dsimp only at hone
      by_cases hreaches : collectsAzure d first = true ∧ first.workspaceId = a.workspaceId
      · exact ⟨first, rfl, hreaches⟩
      · rw [if_neg hreaches] at hone
        cases hone
  · rintro h workspaceId ⟨a, ha, hcollects, rfl⟩
    obtain ⟨first, hfirst, hreaches⟩ := h a ha hcollects
    rw [hfirst]
    exact if_pos hreaches

def yesterday : DateTime := ⟨⟨2024, 1, 1, valid_newYear⟩, 0, midnight_inDay⟩

def today : DateTime := ⟨⟨2024, 1, 2, valid_january2⟩, 0, midnight_inDay⟩

def organizationOf (id : WorkspaceId) : Organization where
  id := id
  slug := "acme"
  name := "acme"
  externalId := 7
  ownerId := 8
  members := []
  tier := .enterprise
  subscriptionId := none
  paymentOnHoldSince := none
  createdAt := yesterday
  updatedAt := yesterday
  highestCurrentCycleTier := none
  currentCycleEndsAt := none
  tierUpdatedAt := none

/-- Two workspaces whose scans are due, with one Azure account each. -/
def twoAzureWorkspaces : Dispatcher where
  world :=
    { accounts := ⟨[
        .ofModel (newAccount 10 "subscription-1" 1 .azure (.configured (.azure 5) true true) none yesterday),
        .ofModel (newAccount 11 "subscription-2" 2 .azure (.configured (.azure 6) true true) none yesterday)],
        by decide⟩
      organizations := ⟨[organizationOf 1, organizationOf 2], by decide⟩
      nextRuns := ⟨[⟨1, yesterday⟩, ⟨2, yesterday⟩], by decide⟩
      clock := fun _ => today
      ticks := 0
      nextUuid := 100
      accountFailedResourceCount := 0
      published := []
      notices := []
      cfResponses := []
      cfFailures := 0
      commits := [] }
  collects := ⟨fun _ => default, fun _ => default, fun _ => none⟩
  serviceAccountKeys := fun _ => none
  azureCredentials := fun _ => some ⟨"azure", "client", "secret"⟩
  databaseAccess := ⟨[⟨1, "server", "fix", "secret", "one"⟩, ⟨2, "server", "fix", "secret", "two"⟩], by decide⟩
  degradedAccountsPingIntervalHours := 24
  collectQueue := []
  postCollectQueue := []
  metering := []

theorem twoAzureWorkspaces_unique : twoAzureWorkspaces.world.Unique := by
  unfold World.Unique
  decide +kernel

theorem graphOnce_iff_twoAzureWorkspaces : twoAzureWorkspaces.world.Unique ∧
    (GraphOnce (scheduledRequests twoAzureWorkspaces) ↔ GraphReaches twoAzureWorkspaces) :=
  ⟨twoAzureWorkspaces_unique, graphOnce_iff twoAzureWorkspaces_unique⟩

/-- Both accounts are collected, and Microsoft Graph for the first workspace alone. -/
theorem second_workspace_without_graph : ¬GraphOnce (scheduledRequests twoAzureWorkspaces) := by
  have hjob : ∃ r ∈ scheduledRequests twoAzureWorkspaces, r.isScheduledAzure 2 = true := by decide +kernel
  have hcount : (scheduledRequests twoAzureWorkspaces).countP
      (fun r => r.isScheduledAzure 2 && r.collectsMicrosoftGraph) = 0 := by decide +kernel
  intro h
  have hone := h 2 hjob
  rw [hcount] at hone
  cases hone

end DispatcherService

end Fix
