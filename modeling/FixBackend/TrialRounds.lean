import FixBackend.AccountCleanup
import FixBackend.Machine
import FixBackend.OneTimeEmails
/-!
# TrialRounds — the trials that are over move to the free tier

`TrialEndService.move_trials_to_free_tier` of `fixbackend/workspaces/trial_end_service.py`, which runs every hour.  A
round goes through the trials that are over one after another, so an account that cannot be read ends it, and the
trials behind wait for the next round, which ends at the same account.
-/
namespace Fix

open Calendar Effects Machine
open OneTimeEmailService (trialPeriodDuration)

namespace TrialEndService

def expired (now : DateTime) (o : Organization) : Bool :=
  decide (o.tier = .trial ∧ (trialPeriodDuration : Int) < now.sub o.createdAt)

def listExpiredTrials : Service (List Workspace) := do
  let now ← utc
  let w ← get
  return (w.organizations.rows.filter (expired now)).map (·.toModel none)

/-- The body of the loop of `move_trials_to_free_tier`. -/
def moveTrial (workspace : Workspace) : Service PUnit := do
  match (productTierSettings .free).accountLimit.filter (· ≠ 0) with
  | some limit => disableCloudAccounts workspace.id limit
  | none => pure ⟨⟩
  let now ← utc
  let _ ← inOrganizations fun orgs => updateProductTier orgs workspace.id .free now

def moveTrialsToFreeTier : Service PUnit := do
  let workspaces ← listExpiredTrials
  workspaces.forM moveTrial

/-! ## The accounts of a workspace -/

def accountsOf (w : World) (workspaceId : WorkspaceId) : List AccountRow :=
  w.accounts.rows.filter fun r => decide (r.tenantId = workspaceId)

section Rows

variable {w w' : World} {workspaceId : WorkspaceId}

theorem enabledIds_eq (w : World) (workspaceId : WorkspaceId) :
    w.enabledIds workspaceId = ((accountsOf w workspaceId).filter (enabledRow workspaceId)).map (·.id) := by
  unfold World.enabledIds accountsOf
  rw [List.filter_filter]
  refine congrArg _ (List.filter_congr fun r _ => ?_)
  unfold enabledRow
  cases decide (r.tenantId = workspaceId) <;> simp

theorem readable_iff : w.Readable workspaceId ↔
    ∀ r ∈ accountsOf w workspaceId, listedRow workspaceId r = true → ∃ state, r.accountState = .ok state := by
  unfold World.Readable accountsOf
  constructor
  · exact fun h r hr => h r (List.mem_of_mem_filter hr)
  · intro h r hr hlisted
    refine h r (List.mem_filter.2 ⟨hr, ?_⟩) hlisted
    unfold listedRow at hlisted
    rw [Bool.and_eq_true] at hlisted
    exact hlisted.1

theorem stated_iff : w.Stated workspaceId ↔ ∀ r ∈ accountsOf w workspaceId, r.state ≠ none := by
  unfold World.Stated accountsOf
  simp only [List.mem_filter, decide_eq_true_eq, and_imp]

theorem filter_tenant_eq : ∀ {rows rows' : List AccountRow}, rows'.map AccountRow.identity =
    rows.map AccountRow.identity →
    (∀ r ∈ rows, ∀ r' ∈ rows', r'.identity = r.identity → r.tenantId = workspaceId → r' = r) →
      (rows'.filter fun r => decide (r.tenantId = workspaceId)) = rows.filter fun r => decide (r.tenantId = workspaceId)
  | [], rows', hids, _ => by
    rw [List.map_eq_nil_iff.1 hids]
  | r :: rows, [], hids, _ => by cases hids
  | r :: rows, r' :: rows', hids, hsame => by
    rw [List.map_cons, List.map_cons, List.cons.injEq] at hids
    have ih := filter_tenant_eq hids.2 fun x hx x' hx' =>
      hsame x (List.mem_cons_of_mem r hx) x' (List.mem_cons_of_mem r' hx')
    have htenant : r'.tenantId = r.tenantId := congrArg (·.2.1) hids.1
    rw [List.filter_cons, List.filter_cons, ih, htenant]
    by_cases ht : r.tenantId = workspaceId
    · rw [hsame r List.mem_cons_self r' List.mem_cons_self hids.1 ht]
    · rw [if_neg (by simpa using ht), if_neg (by simpa using ht)]

theorem accountsOf_eq (halike : w'.accounts.rows.map AccountRow.identity = w.accounts.rows.map AccountRow.identity)
    (hfind : ∀ r, w.accounts.find r.id = some r → r.tenantId = workspaceId → w'.accounts.find r.id = some r) :
    accountsOf w' workspaceId = accountsOf w workspaceId := by
  refine filter_tenant_eq halike fun r hr r' hr' hidentity htenant => ?_
  have hid : r'.id = r.id := congrArg Prod.fst hidentity
  have hold := hfind r ((Table.find_eq_some_iff w.accounts r.id r).2 ⟨hr, rfl⟩) htenant
  have hnew := (Table.find_eq_some_iff w'.accounts r.id r').2 ⟨hr', hid⟩
  rw [hold] at hnew
  exact (Option.some.inj hnew).symm

end Rows

/-! ## What a round does -/

/-- The accounts that stay enabled: those that a trial may keep, and those that cannot be switched off. -/
def keptIds (w : World) (workspaceId : WorkspaceId) : List FixCloudAccountId :=
  (w.enabledIds workspaceId).filter fun id =>
    !(decide (id ∈ withoutLast 1 (w.enabledIds workspaceId)) && w.switchable workspaceId id)

/-- **Some workspaces have moved to the free tier**, and nothing else has changed. -/
structure MovesAll (moved : List WorkspaceId) (w w' : World) : Prop where
  identities : w'.accounts.rows.map AccountRow.identity = w.accounts.rows.map AccountRow.identity
  organizationIds : w'.organizations.rows.map (·.id) = w.organizations.rows.map (·.id)
  freed : ∀ id ∈ moved, ∃ o o' now, w.organizations.find id = some o ∧ o.selectTier .free now = .ok o' ∧
    w'.organizations.find id = some o'
  enabled : ∀ id ∈ moved, w'.enabledIds id = keptIds w id
  organizations : ∀ id, id ∉ moved → w'.organizations.find id = w.organizations.find id
  accounts : ∀ id, id ∉ moved → accountsOf w' id = accountsOf w id
  clock : w'.clock = w.clock

section Moving

variable {w w' w₁ : World} {workspaceId : WorkspaceId}

theorem MovesAll.refl (w : World) : MovesAll [] w w :=
  ⟨rfl, rfl, fun _ h => absurd h List.not_mem_nil, fun _ h => absurd h List.not_mem_nil, fun _ _ => rfl,
    fun _ _ => rfl, rfl⟩

/-- What is kept depends on the accounts of the workspace and on whether there is one. -/
theorem keptIds_congr (haccounts : accountsOf w₁ workspaceId = accountsOf w workspaceId)
    (horganization : w₁.organizations.find workspaceId = w.organizations.find workspaceId) :
    keptIds w₁ workspaceId = keptIds w workspaceId := by
  have henabled : w₁.enabledIds workspaceId = w.enabledIds workspaceId := by
    rw [enabledIds_eq, enabledIds_eq, haccounts]
  unfold keptIds
  rw [henabled]
  refine List.filter_congr fun id hid => ?_
  obtain ⟨r, hr, hrow⟩ := World.mem_enabledIds.1 hid
  have htenant := (enabledRow_tenant hrow).1
  have hmem : r ∈ accountsOf w₁ workspaceId := by
    rw [haccounts]
    exact List.mem_filter.2 ⟨Table.mem_of_find hr, decide_eq_true htenant⟩
  have hr₁ : w₁.accounts.find id = some r :=
    (Table.find_eq_some_iff w₁.accounts id r).2 ⟨(List.mem_filter.1 hmem).1, Table.key_of_find hr⟩
  unfold World.switchable getWorkspace
  rw [hr, hr₁, horganization]

theorem MovesAll.cons {id : WorkspaceId} {rest : List WorkspaceId} (h : MovesAll [id] w w₁) (h' : MovesAll rest w₁ w')
    (hnew : id ∉ rest) : MovesAll (id :: rest) w w' := by
  have hfirst : ∀ x ∈ rest, x ∉ [id] := fun x hx hmem => hnew (List.mem_singleton.1 hmem ▸ hx)
  refine ⟨h'.identities.trans h.identities, h'.organizationIds.trans h.organizationIds, fun x hx => ?_, fun x hx => ?_,
    fun x hx => ?_, fun x hx => ?_, h'.clock.trans h.clock⟩
  · obtain rfl | hx := List.mem_cons.1 hx
    · rw [h'.organizations x hnew]
      exact h.freed x (List.mem_singleton_self x)
    · rw [← h.organizations x (hfirst x hx)]
      exact h'.freed x hx
  · obtain rfl | hx := List.mem_cons.1 hx
    · rw [enabledIds_eq, h'.accounts x hnew, ← enabledIds_eq]
      exact h.enabled x (List.mem_singleton_self x)
    · rw [h'.enabled x hx]
      exact keptIds_congr (h.accounts x (hfirst x hx)) (h.organizations x (hfirst x hx))
  · rw [List.mem_cons, not_or] at hx
    exact (h'.organizations x hx.2).trans (h.organizations x fun hmem => hx.1 (List.mem_singleton.1 hmem))
  · rw [List.mem_cons, not_or] at hx
    exact (h'.accounts x hx.2).trans (h.accounts x fun hmem => hx.1 (List.mem_singleton.1 hmem))

/-- What a round relies on. -/
structure Sound (w : World) : Prop where
  unique : w.Unique
  stated : ∀ workspaceId, w.Stated workspaceId

theorem selectTier_free (o : Organization) (now : DateTime) : ∃ o', o.selectTier .free now = .ok o' ∧ o'.id = o.id := by
  unfold Organization.selectTier
  rw [if_neg (by simp [ProductTier.paid])]
  exact ⟨_, rfl, rfl⟩

theorem moveTrial_eq (workspace : Workspace) : moveTrial workspace = (do
    disableCloudAccounts workspace.id 1
    let now ← utc
    let _ ← inOrganizations fun orgs => updateProductTier orgs workspace.id .free now
    return) := rfl

/-- **One trial moves** when its accounts can be read. -/
theorem moveTrial_ok {workspace : Workspace} {o : Organization} (hw : Sound w) (hread : w.Readable workspace.id)
    (ho : w.organizations.find workspace.id = some o) :
    ∃ w', exec (moveTrial workspace) w = (.ok ⟨⟩, w') ∧ MovesAll [workspace.id] w w' ∧ Sound w' := by
  obtain ⟨w₁, hexec, hall⟩ : ∃ w₁, exec (disableCloudAccounts workspace.id 1) w = (.ok ⟨⟩, w₁) ∧ ChangesAll _ _ w w₁ :=
    disableCloudAccounts_ok hw.unique (hw.stated workspace.id) hread
  obtain ⟨o', hselect, hid⟩ := selectTier_free o w₁.now
  have hkey : o'.id = workspace.id := hid.trans (Table.key_of_find ho)
  have horganizations : w₁.tick.organizations = w.organizations := hall.alike.organizations
  have hothers : ∀ x, x ≠ workspace.id → accountsOf w₁ x = accountsOf w x := by
    intro x hx
    refine accountsOf_eq hall.alike.accounts fun r hr htenant => ?_
    rw [hall.others r.id fun hmem => ?_]
    · exact hr
    · obtain ⟨r', hr', henabled⟩ := World.mem_enabledIds.1 (mem_of_mem_withoutLast hmem)
      rw [hr] at hr'
      cases hr'
      exact hx (htenant.symm.trans (enabledRow_tenant henabled).1)
  have henabled : w₁.enabledIds workspace.id = keptIds w workspace.id :=
    enabledIds_disabled hw.unique (hw.stated workspace.id) hexec
  have hunique : w₁.Unique := hw.unique.of_alike hall.alike
  have hstated : w₁.Stated workspace.id := stated_of_disabled (hw.stated workspace.id) hexec
  refine ⟨{ w₁.tick with organizations := w.organizations.replace o' }, ?_, ?_, ?_⟩
  · have hupdate : updateProductTier w.organizations workspace.id .free w₁.now =
        .ok (o'.toModel none, w.organizations.replace o') := by
      simp only [updateProductTier, ho, hselect]
    rw [moveTrial_eq, exec_bind, hexec]
    dsimp only
    rw [exec_bind, exec_utc]
    dsimp only
    rw [exec_bind, exec_inOrganizations, horganizations, hupdate]
    rfl
  · refine ⟨hall.alike.accounts, Table.keys_replace _ _, fun x hx => ?_, fun x hx => ?_, fun x hx => ?_, fun x hx => ?_,
      hall.alike.clock⟩
    · rw [List.mem_singleton.1 hx]
      refine ⟨o, o', w₁.now, ho, hselect, ?_⟩
      rw [← hkey]
      exact Table.find_replace_self (hkey.symm ▸ ho)
    · rw [List.mem_singleton.1 hx]
      exact henabled
    · exact Table.find_replace_of_ne _ (hkey ▸ fun heq => hx (List.mem_singleton.2 heq))
    · exact hothers x fun heq => hx (List.mem_singleton.2 heq)
  · refine ⟨hunique, fun x => ?_⟩
    by_cases hx : x = workspace.id
    · rw [hx]
      exact hstated
    · refine stated_iff.2 ?_
      have hsame : accountsOf { w₁.tick with organizations := w.organizations.replace o' } x =
          accountsOf w x := hothers x hx
      rw [hsame]
      exact stated_iff.1 (hw.stated x)

theorem moveTrial_error {workspace : Workspace} (hread : ¬ w.Readable workspace.id) :
    ∃ e, exec (moveTrial workspace) w = (.error e, w) := by
  have hlist : exec (listAccounts workspace.id) w = _ := exec_listAccounts w
  rw [moveTrial_eq]
  unfold disableCloudAccounts
  cases hrows : (w.accounts.rows.filter (listedRow workspace.id)).mapM
      (·.toModel ((w.nextRuns.find workspace.id).map (·.time))) with
  | error e =>
    rw [hrows] at hlist
    exact ⟨e, by rw [exec_bind, exec_bind, hlist]⟩
  | ok accounts =>
    rw [hrows] at hlist
    exact absurd (readable_of_listed hlist) hread

/-- What the loop over some workspaces has done, and how it ended. -/
def Looped (xs : List Workspace) (w : World) (r : Except Err PUnit) (w' : World) : Prop :=
  ∃ moved rest, xs = moved ++ rest ∧ (∀ x ∈ moved, w.Readable x.id) ∧ MovesAll (moved.map (·.id)) w w' ∧ Sound w' ∧
    (rest = [] ∧ r = .ok ⟨⟩ ∨ ∃ x more e, rest = x :: more ∧ ¬ w.Readable x.id ∧ r = .error e)

theorem Looped.cons {x : Workspace} {xs : List Workspace} {r : Except Err PUnit} (hread : w.Readable x.id)
    (hnew : ∀ y ∈ xs, y.id ≠ x.id) (hmoves : MovesAll [x.id] w w₁) (h : Looped xs w₁ r w') :
    Looped (x :: xs) w r w' := by
  have hsame : ∀ y ∈ xs, w₁.Readable y.id ↔ w.Readable y.id := fun y hy => by
    rw [readable_iff, readable_iff, hmoves.accounts y.id fun hmem => hnew y hy (List.mem_singleton.1 hmem)]
  obtain ⟨moved, rest, rfl, hreadable, hmoves', hw', hend⟩ := h
  refine ⟨x :: moved, rest, rfl, fun y hy => ?_, ?_, hw', ?_⟩
  · obtain rfl | hy := List.mem_cons.1 hy
    · exact hread
    · exact (hsame y (List.mem_append_left rest hy)).1 (hreadable y hy)
  · refine hmoves.cons hmoves' fun hmem => ?_
    obtain ⟨y, hy, hid⟩ := List.mem_map.1 hmem
    exact hnew y (List.mem_append_left rest hy) hid
  · refine hend.imp_right fun ⟨y, more, e, hrest, hnot, hr⟩ => ⟨y, more, e, hrest, fun h => hnot ?_, hr⟩
    exact (hsame y (List.mem_append_right moved (hrest ▸ List.mem_cons_self))).2 h

theorem forM_moveTrial (xs : List Workspace) (hw : Sound w) (hnodup : (xs.map (·.id)).Nodup)
    (hstored : ∀ x ∈ xs, (w.organizations.find x.id).isSome) :
    Looped xs w (exec (xs.forM moveTrial) w).1 (exec (xs.forM moveTrial) w).2 := by
  induction xs generalizing w with
  | nil =>
    have hnil : exec (([] : List Workspace).forM moveTrial) w = (.ok ⟨⟩, w) := rfl
    rw [hnil]
    exact ⟨[], [], rfl, fun _ h => absurd h List.not_mem_nil, MovesAll.refl w, hw, .inl ⟨rfl, rfl⟩⟩
  | cons x xs ih =>
    rw [List.map_cons, List.nodup_cons] at hnodup
    rw [forM_cons, exec_bind]
    by_cases hread : w.Readable x.id
    · obtain ⟨o, ho⟩ := Option.isSome_iff_exists.1 (hstored x List.mem_cons_self)
      obtain ⟨w₁, hexec, hmoves, hw₁⟩ := moveTrial_ok hw hread ho
      have hnew : ∀ y ∈ xs, y.id ≠ x.id := fun y hy heq => hnodup.1 (heq ▸ List.mem_map_of_mem hy)
      rw [hexec]
      refine Looped.cons hread hnew hmoves (ih hw₁ hnodup.2 fun y hy => ?_)
      rw [hmoves.organizations y.id fun hmem => hnew y hy (List.mem_singleton.1 hmem)]
      exact hstored y (List.mem_cons_of_mem x hy)
    · obtain ⟨e, hexec⟩ := moveTrial_error hread
      rw [hexec]
      exact ⟨[], x :: xs, rfl, fun _ h => absurd h List.not_mem_nil, MovesAll.refl w, hw,
        .inr ⟨x, xs, e, rfl, hread, rfl⟩⟩

end Moving

/-! ## Rounds -/

/-- The trials that are over when a round starts, in the order of the table. -/
def expiredIds (w : World) : List WorkspaceId := (w.organizations.rows.filter (expired w.now)).map (·.id)

theorem exec_listExpiredTrials (w : World) : exec listExpiredTrials w =
    (.ok ((w.organizations.rows.filter (expired w.now)).map (·.toModel none)), w.tick) := rfl

/-- **A round moves the trials that are over** to the free tier, up to the first one with an account that cannot be
read, and leaves every other workspace and its accounts as they are. -/
theorem round_moves {w : World} (hw : Sound w) : ∃ moved rest r w', expiredIds w = moved ++ rest ∧
    exec moveTrialsToFreeTier w = (r, w') ∧ (∀ id ∈ moved, w.Readable id) ∧ MovesAll moved w w' ∧ Sound w' ∧
      (rest = [] ∧ r = .ok ⟨⟩ ∨ ∃ id more e, rest = id :: more ∧ ¬ w.Readable id ∧ r = .error e) := by
  let xs := (w.organizations.rows.filter (expired w.now)).map fun o => o.toModel none
  have hids : xs.map (·.id) = expiredIds w := by
    rw [List.map_map]
    rfl
  have hnodup : (xs.map (·.id)).Nodup := by
    rw [hids]
    exact w.organizations.unique.sublist (List.filter_sublist.map Organization.id)
  have hstored : ∀ x ∈ xs, (w.organizations.find x.id).isSome := fun x hx => by
    obtain ⟨o, ho, rfl⟩ := List.mem_map.1 hx
    have hfind : w.organizations.find o.id = some o :=
      (Table.find_eq_some_iff w.organizations o.id o).2 ⟨List.mem_of_mem_filter ho, rfl⟩
    exact Option.isSome_iff_exists.2 ⟨o, hfind⟩
  have htick : Sound w.tick := ⟨hw.unique, hw.stated⟩
  obtain ⟨moved, rest, hxs, hreadable, hmoves, hsound, hend⟩ := forM_moveTrial xs htick hnodup hstored
  have hexec : exec moveTrialsToFreeTier w = exec (xs.forM moveTrial) w.tick := by
    unfold moveTrialsToFreeTier
    rw [exec_bind, exec_listExpiredTrials]
  refine ⟨moved.map (·.id), rest.map (·.id), _, _, ?_, hexec, fun id hid => ?_,
    ⟨hmoves.identities, hmoves.organizationIds,
    hmoves.freed, hmoves.enabled, hmoves.organizations, hmoves.accounts, hmoves.clock⟩, hsound, ?_⟩
  · rw [← hids, hxs, List.map_append]
  · obtain ⟨x, hx, rfl⟩ := List.mem_map.1 hid
    exact hreadable x hx
  · refine hend.imp (fun h => ⟨by rw [h.1]; rfl, h.2⟩) fun ⟨x, more, e, hrest, hnot, hr⟩ => ?_
    exact ⟨x.id, more.map (·.id), e, by rw [hrest]; rfl, hnot, hr⟩

def round (w : World) : World := (exec moveTrialsToFreeTier w).2

theorem expiredIds_eq (w : World) : expiredIds w =
    (w.organizations.rows.map (·.id)).filter fun id => (w.organizations.find id).any (expired w.now) :=
  Table.map_key_filter w.organizations (expired w.now)

/-! ## A trial behind an account that cannot be read -/

theorem not_mem_of_behind {α : Type} {pre post moved rest : List α} {b x : α} (h : pre ++ b :: post = moved ++ rest)
    (hnodup : (pre ++ b :: post).Nodup) (hb : b ∉ moved) (hx : x ∈ post) : x ∉ moved := by
  have hcut : ∃ c, pre = moved ++ c := by
    obtain ⟨c, hmoved, hc⟩ | ⟨c, hpre, -⟩ := List.append_eq_append_iff.1 h
    · cases c with
      | nil => exact ⟨[], by rw [hmoved, List.append_nil, List.append_nil]⟩
      | cons y c =>
        rw [List.cons_append, List.cons.injEq] at hc
        refine absurd ?_ hb
        rw [hmoved, hc.1]
        exact List.mem_append_right pre List.mem_cons_self
    · exact ⟨c, hpre⟩
  obtain ⟨c, rfl⟩ := hcut
  intro hmoved
  exact (List.nodup_append.1 hnodup).2.2 x (List.mem_append_left c hmoved) x (List.mem_cons_of_mem b hx) rfl

/-- One trial stands behind another in the table, which has an account that cannot be read and is over at every time. -/
structure Blocked (b x : WorkspaceId) (o : Organization) (w : World) : Prop where
  sound : Sound w
  found : w.organizations.find b = some o
  unreadable : ¬ w.Readable b
  ended : ∀ n, expired (w.clock n) o = true
  behind : ∃ pre post, w.organizations.rows.map (·.id) = pre ++ b :: post ∧ x ∈ post

section Blocking

variable {b x : WorkspaceId} {o : Organization} {w : World}

theorem Blocked.not_moved (h : Blocked b x o w) {moved rest : List WorkspaceId} (hids : expiredIds w = moved ++ rest)
    (hreadable : ∀ id ∈ moved, w.Readable id) : b ∉ moved ∧ x ∉ moved := by
  have hb : b ∉ moved := fun hmem => h.unreadable (hreadable b hmem)
  obtain ⟨pre, post, hall, hx⟩ := h.behind
  have hnodup : (expiredIds w).Nodup := w.organizations.unique.sublist (List.filter_sublist.map Organization.id)
  have hended : (w.organizations.find b).any (expired w.now) = true := by
    rw [h.found]
    exact h.ended w.ticks
  have hexpired := expiredIds_eq w
  rw [hall, List.filter_append, List.filter_cons, if_pos hended] at hexpired
  refine ⟨hb, fun hmem => ?_⟩
  have hstill : (w.organizations.find x).any (expired w.now) = true := by
    have hxe : x ∈ expiredIds w := hids ▸ List.mem_append_left rest hmem
    rw [expiredIds_eq] at hxe
    exact (List.mem_filter.1 hxe).2
  rw [hexpired] at hids hnodup
  exact not_mem_of_behind hids hnodup hb (List.mem_filter.2 ⟨hx, hstill⟩) hmem

theorem Blocked.kept (h : Blocked b x o w) : Blocked b x o (round w) ∧
    (round w).organizations.find x = w.organizations.find x ∧
      accountsOf (round w) x = accountsOf w x := by
  obtain ⟨moved, rest, r, w', hids, hexec, hreadable, hmoves, hsound, -⟩ := round_moves h.sound
  have hround : round w = w' := congrArg Prod.snd hexec
  obtain ⟨hb, hx⟩ := h.not_moved hids hreadable
  rw [hround]
  refine ⟨⟨hsound, (hmoves.organizations b hb).trans h.found, ?_, hmoves.clock ▸ h.ended, ?_⟩,
    hmoves.organizations x hx, hmoves.accounts x hx⟩
  · rw [readable_iff, hmoves.accounts b hb, ← readable_iff]
    exact h.unreadable
  · rw [hmoves.organizationIds]
    exact h.behind

/-- **A trial behind an account that cannot be read never ends**: no number of rounds moves it or switches its accounts
off. -/
theorem trial_stays (h : Blocked b x o w) (n : Nat) :
    (round^[n] w).organizations.find x = w.organizations.find x ∧
      accountsOf (round^[n] w) x = accountsOf w x := by
  induction n generalizing w with
  | zero => exact ⟨rfl, rfl⟩
  | succ n ih =>
    obtain ⟨hblocked, hfind, haccounts⟩ := h.kept
    obtain ⟨hfind', haccounts'⟩ := ih hblocked
    rw [Function.iterate_succ_apply]
    exact ⟨hfind'.trans hfind, haccounts'.trans haccounts⟩

end Blocking

/-! ## Two trials in January -/

def trialOf (id : WorkspaceId) : Organization := { freeOrganization with id := id, tier := .trial }

def twoTrials : World :=
  { freeWorld with
    organizations := ⟨[trialOf 1, trialOf 2], by decide⟩
    accounts :=
      ⟨[.ofModel
        (newAccount 10 "111111111111" 1 .aws (.configured (.aws 2 "role") true true) none waitingAccount.createdAt),
        .ofModel (newAccount 11 "222222222222" 1 .aws (.configured (.aws 2 "role") true true) none
          waitingAccount.createdAt),
        .ofModel (newAccount 12 "333333333333" 2 .aws (.configured (.aws 2 "role") true true) none
          waitingAccount.createdAt)], by decide⟩
    clock := fun _ => ⟨⟨2024, 2, 1, valid_february1⟩, 0, midnight_inDay⟩ }

theorem sound_twoTrials : Sound twoTrials := by
  have hstates : ∀ r ∈ twoTrials.accounts.rows, r.state ≠ none := by decide
  exact ⟨by unfold World.Unique; decide, fun _ r hr _ => hstates r hr⟩

theorem round_moves_twoTrials : ∃ moved rest r w', [1, 2] = moved ++ rest ∧
    exec moveTrialsToFreeTier twoTrials = (r, w') ∧ (∀ id ∈ moved, twoTrials.Readable id) ∧
      MovesAll moved twoTrials w' ∧
      Sound w' ∧ (rest = [] ∧ r = .ok ⟨⟩ ∨ ∃ id more e, rest = id :: more ∧ ¬ twoTrials.Readable id ∧ r = .error e) :=
  round_moves sound_twoTrials

def withoutRole : AccountRow :=
  { AccountRow.ofModel
      (newAccount 10 "111111111111" 1 .aws (.configured (.aws 2 "role") true true) none waitingAccount.createdAt) with
    awsRoleName := none }

def brokenTrial : World := { twoTrials with accounts := ⟨[withoutRole], by decide⟩ }

theorem blocked_brokenTrial : Blocked 1 2 (trialOf 1) brokenTrial where
  sound := by
    have hstates : ∀ r ∈ brokenTrial.accounts.rows, r.state ≠ none := by decide
    exact ⟨by unfold World.Unique; decide, fun _ r hr _ => hstates r hr⟩
  found := by decide
  unreadable hread := by
    obtain ⟨state, hstate⟩ := hread withoutRole List.mem_cons_self (by decide)
    cases hstate
  ended := by
    have hended : expired (brokenTrial.clock 0) (trialOf 1) = true := by decide
    exact fun _ => hended
  behind := ⟨[], [2], rfl, List.mem_singleton_self 2⟩

theorem trial_stays_brokenTrial : (round^[1000] brokenTrial).organizations.find 2 = some (trialOf 2) :=
  (trial_stays blocked_brokenTrial 1000).1.trans (by decide)

end TrialEndService

end Fix
