import FixBackend.AccountDisabling
import FixBackend.DomainEvents
/-!
# AccountCleanup — which accounts survive a lower limit

At the end of a trial or a subscription `disable_cloud_accounts` keeps the last accounts of a workspace enabled, and
when the tier goes down the last ones are kept too; `cleanup_free_tiers` keeps the first ones.  The paths agree on the
accounts that survive exactly when no account has to go (`limits_agree_iff`).
-/
namespace Fix

open Calendar Effects

/-! ## The cleanup of free tiers -/

/-- `list_overdue_free_tier_cleanup`, in microseconds; the window is a day. -/
def listOverdueFreeTierCleanup (beenInFreeTierFor : Int) : Service (List Workspace) := do
  let before ← utc
  let after ← utc
  let w ← get
  let overdue := w.organizations.rows.filter fun o =>
    decide (o.tier = .free) && o.tierUpdatedAt.any fun t =>
      decide (beenInFreeTierFor < before.sub t ∧ after.sub t < beenInFreeTierFor + dayMicros)
  return overdue.map (·.toModel none)

/-- The body of the loop of `cleanup_free_tiers`, for an account limit. -/
def cleanupWorkspace (accountLimit : Nat) (workspace : Workspace) : Service PUnit := do
  let accounts ← listAccounts workspace.id
  if accounts.length ≤ accountLimit then return
  else
    accounts.zipIdx.forM fun (account, i) =>
      if i < accountLimit then return else deleteCloudAccount workspace.ownerId account.id workspace.id

def cleanupFreeTiers (freeTierCleanupTimeout : Int) : Service PUnit := do
  let workspaces ← listOverdueFreeTierCleanup freeTierCleanupTimeout
  workspaces.forM fun workspace =>
    match (productTierSettings .free).accountLimit with
    | none => return
    | some accountLimit => cleanupWorkspace accountLimit workspace

/-! ## Deleting accounts -/

def markedDeleted (standing : Standing) : Standing := (.ok .deleted, standing.2)

section Deleting

variable {workspaceId : WorkspaceId} {w : World}

theorem deleteCloudAccount_ok (userId : UserId) {id : FixCloudAccountId} {r : AccountRow} {state : CloudAccountState}
    (hu : w.Unique) (hfind : w.accounts.find id = some r) (hstate : r.accountState = .ok state)
    (htenant : r.tenantId = workspaceId) :
    ∃ w', exec (deleteCloudAccount userId id workspaceId) w = (.ok ⟨⟩, w') ∧ ChangesAll [id] markedDeleted w w' := by
  have hstanding : w.standing id = some (.ok state, r.failedScanCount) := by
    unfold World.standing AccountRow.standing
    rw [hfind, ← hstate]
    rfl
  obtain ⟨read, hread, -⟩ := AccountRow.exists_toModel hstate ((w.nextRuns.find r.tenantId).map (·.time))
  obtain ⟨a, ha, -⟩ := AccountRow.exists_toModel hstate none
  have hworkspace : read.workspaceId = workspaceId := (AccountRow.toModel_ok hread).2.2.1.trans htenant
  have hfailed := AccountRow.toModel_failedScanCount ha
  unfold deleteCloudAccount
  rw [exec_bind, CloudAccountRepository.exec_get_stored hfind, hread]
  dsimp only [Except.map]
  rw [if_neg (not_not.2 hworkspace), exec_bind]
  have hstorable : CloudAccountRepository.Storable r a
      { a with
        stateUpdatedAt := w.now
        state := .deleted
        nextScan := none
        lastScanResourcesScanned := 0
        lastScanDurationSeconds := 0
        lastScanStartedAt := none } := ⟨rfl, rfl, rfl, rfl, nofun, AccountRow.not_unfit_of_state ha rfl nofun nofun⟩
  obtain ⟨nextScan, updatedAt, w', hexec, hupdated⟩ :=
    CloudAccountRepository.update_ok (f := setDeleted) hu hfind ha rfl hstorable
  rw [hexec]
  dsimp only
  rw [publish, exec_modify]
  refine ⟨_, rfl, ChangesOne.changesAll ⟨?_, ?_, hupdated.others⟩ hstanding⟩
  · exact hupdated.alike.trans (World.Alike.of_accounts rfl rfl rfl rfl rfl)
  · have hnew := hupdated.standing
    rw [hfailed] at hnew
    exact hnew

theorem forM_deleteCloudAccount (userId : UserId) {accounts chosen : List CloudAccount} (hu : w.Unique)
    (hlisted : Listed workspaceId w accounts) (hchosen : chosen.Sublist accounts) :
    ∃ w', exec (chosen.forM fun account => deleteCloudAccount userId account.id workspaceId) w = (.ok ⟨⟩, w') ∧
      ChangesAll (chosen.map (·.id)) markedDeleted w w' := by
  have hnodup : (chosen.map (·.id)).Nodup := by
    have hall := w.listedIds_nodup workspaceId
    rw [← hlisted.ids] at hall
    exact hall.sublist (hchosen.map _)
  refine forM_changesAll chosen hnodup fun a ha w₁ halike hfind => ?_
  obtain ⟨r, state, hr, hstate, htenant⟩ := hlisted.stored a (hchosen.subset ha)
  exact deleteCloudAccount_ok userId (hu.of_alike halike) (hfind.trans hr) hstate htenant

theorem listedIds_deleted {ids : List FixCloudAccountId} {w' : World} (h : ChangesAll ids markedDeleted w w') :
    w'.listedIds workspaceId = (w.listedIds workspaceId).filter fun id => !decide (id ∈ ids) := by
  refine Table.map_key_filter_of_keys h.alike.keys fun id r r' hr hr' => ?_
  by_cases hid : id ∈ ids
  · have hnew := h.changed id hid
    unfold World.standing at hnew
    rw [hr, hr'] at hnew
    have hstate : r'.accountState = .ok .deleted := congrArg Prod.fst (Option.some.inj hnew)
    have hname := AccountRow.accountState_ok hstate
    have hgone : listedRow workspaceId r' = false := by
      unfold listedRow CloudAccountRepository.nonDeleted
      unfold AccountRow.stateName at hname
      cases hcolumn : r'.state with
      | none =>
        rw [hcolumn, Option.getD_none] at hname
        split at hname <;> cases hname
      | some name =>
        rw [hcolumn, Option.getD_some] at hname
        rw [hname]
        simp [CloudAccountState.stateName]
    rw [hgone, decide_eq_true hid, Bool.not_true, Bool.and_false]
  · have hsame : r' = r := by
      have hfind := h.others id hid
      rw [hr, hr'] at hfind
      exact Option.some.inj hfind
    rw [hsame, decide_eq_false hid, Bool.not_false, Bool.and_true]

/-- **The tier goes down**: the last accounts are left. -/
theorem adjustAccounts_ok (userId : UserId) {limit : Nat} {oldLimit : Option Nat} (hu : w.Unique)
    (hread : w.Readable workspaceId) (hlower : limitBelow (some limit) oldLimit = true) :
    ∃ w', exec (adjustAccounts userId workspaceId (some limit) oldLimit) w = (.ok ⟨⟩, w') ∧
      w'.listedIds workspaceId = (w.listedIds workspaceId).filter fun id =>
        !decide (id ∈ withoutLast limit (w.listedIds workspaceId)) := by
  obtain ⟨accounts, hexec, hlisted⟩ := listAccounts_ok hread
  have hchosen : (withoutLast limit accounts).Sublist accounts := by
    unfold withoutLast
    split
    · exact List.nil_sublist _
    · exact List.take_sublist _ _
  obtain ⟨w', hdelete, hall⟩ := forM_deleteCloudAccount userId hu hlisted hchosen
  refine ⟨w', ?_, ?_⟩
  · unfold adjustAccounts deleteAccountsAbove
    dsimp only
    rw [if_pos hlower, exec_bind, hexec]
    exact hdelete
  · rw [listedIds_deleted hall, ← withoutLast_map, hlisted.ids]

theorem forM_zipIdx {α : Type} (op : α → Service PUnit) (limit : Nat) : ∀ (xs : List α) (n : Nat),
    ((xs.zipIdx n).forM fun x => if x.2 < limit then (return : Service PUnit) else op x.1) =
      (xs.drop (limit - n)).forM op
  | [], n => by
    rw [List.drop_nil]
    rfl
  | x :: xs, n => by
    have ih := forM_zipIdx op limit xs (n + 1)
    have hcons : ∀ (β : Type) (g : β → Service PUnit) (y : β) (ys : List β), (y :: ys).forM g = g y >>=
        fun _ => ys.forM g :=
      fun _ _ _ _ => rfl
    rw [List.zipIdx_cons, hcons, ih]
    dsimp only
    by_cases hn : n < limit
    · rw [if_pos hn, pure_bind]
      obtain ⟨m, hm⟩ : ∃ m, limit - n = m + 1 := ⟨limit - n - 1, by omega⟩
      rw [hm, List.drop_succ_cons]
      congr 2
      omega
    · have hzero : limit - n = 0 := by omega
      have hzero' : limit - (n + 1) = 0 := by omega
      rw [if_neg hn, hzero, hzero', List.drop_zero, List.drop_zero, hcons]

theorem cleanupWorkspace_ok {workspace : Workspace} (limit : Nat) (hu : w.Unique) (hread : w.Readable workspace.id) :
    ∃ w', exec (cleanupWorkspace limit workspace) w = (.ok ⟨⟩, w') ∧
      w'.listedIds workspace.id = (w.listedIds workspace.id).filter fun id =>
        !decide (id ∈ (w.listedIds workspace.id).drop limit) := by
  obtain ⟨accounts, hexec, hlisted⟩ := listAccounts_ok hread
  unfold cleanupWorkspace
  rw [exec_bind, hexec]
  dsimp only
  by_cases hfew : accounts.length ≤ limit
  · rw [if_pos hfew]
    refine ⟨w, rfl, ?_⟩
    rw [← hlisted.ids, List.drop_eq_nil_of_le (by rw [List.length_map]; exact hfew)]
    refine (List.filter_eq_self.2 fun id _ => ?_).symm
    rw [decide_eq_false List.not_mem_nil]
    rfl
  · obtain ⟨w', hdelete, hall⟩ := forM_deleteCloudAccount workspace.ownerId hu hlisted
        (List.drop_sublist limit accounts)
    have hloop :=
      forM_zipIdx (fun account : CloudAccount => deleteCloudAccount workspace.ownerId account.id workspace.id)
      limit accounts 0
    rw [if_neg hfew]
    refine ⟨w', (congrArg (exec · w) hloop).trans hdelete, ?_⟩
    rw [listedIds_deleted hall, List.map_drop, hlisted.ids]

end Deleting

/-! ## Disabling keeps the accounts -/

section Kept

variable {workspaceId : WorkspaceId} {w : World}

theorem closed_stated (workspaceId : WorkspaceId) : Closed (fun w => w.Stated workspaceId) fun _ => True where
  framed := by
    intro w w' haccounts _ _ _ h r hr
    rw [haccounts] at hr
    exact h r hr
  commit := by
    intro w row a updated updatedAt k h hfind hmodel _ _ r hr htenant
    rcases Table.mem_replace hr with hold | rfl
    · exact h r hold htenant
    · intro hnone
      cases hnone
  insert := by
    intro w a hnone h _ r hr htenant
    rcases List.mem_append.1 hr with hold | hnew
    · exact h r hold htenant
    · rw [List.mem_singleton.1 hnew]
      intro hnone
      cases hnone

theorem stated_of_disabled {keepEnabled : Nat} {w' : World} (hstates : w.Stated workspaceId)
    (h : exec (disableCloudAccounts workspaceId keepEnabled) w = (.ok ⟨⟩, w')) : w'.Stated workspaceId := by
  have hI := closed_stated workspaceId
  have hkeeps : Keeps (fun w => w.Stated workspaceId) (disableCloudAccounts workspaceId keepEnabled) := by
    refine Keeps.bind (AccountsMayChange.listAccounts workspaceId) fun accounts => Keeps.forM _ fun account _ => ?_
    unfold toggleAccount
    refine Keeps.tryCatch ?_ fun _ => Keeps.pure _
    rw [seqRight_eq_bind]
    exact Keeps.bind (hI.tolerant.updateCloudAccountEnabled trivial _ _) fun _ => Keeps.pure _
  exact (hkeeps w hstates).1 _ _ h

/-- All accounts of the workspace that are not deleted are configured and enabled. -/
def World.AllConfigured (w : World) (workspaceId : WorkspaceId) : Prop :=
  ∀ r ∈ w.accounts.rows, r.tenantId = workspaceId → r.state = some .deleted ∨
    r.state = some .configured ∧ ∃ access scan, r.accountState = .ok (.configured access true scan)

namespace World.AllConfigured

theorem stated (h : w.AllConfigured workspaceId) : w.Stated workspaceId := by
  intro r hr htenant
  rcases h r hr htenant with hstate | ⟨hstate, -⟩ <;> rw [hstate] <;> exact Option.some_ne_none _

theorem of_listed (h : w.AllConfigured workspaceId) {r : AccountRow} (hr : r ∈ w.accounts.rows)
    (hlisted : listedRow workspaceId r = true) :
    r.tenantId = workspaceId ∧ ∃ access scan, r.accountState = .ok (.configured access true scan) := by
  unfold listedRow CloudAccountRepository.nonDeleted at hlisted
  rw [Bool.and_eq_true, decide_eq_true_eq, decide_eq_true_eq] at hlisted
  obtain ⟨htenant, -, hdeleted⟩ := hlisted
  exact ⟨htenant, ((h r hr htenant).resolve_left hdeleted).2⟩

theorem readable (h : w.AllConfigured workspaceId) : w.Readable workspaceId := by
  intro r hr hlisted
  obtain ⟨-, access, scan, hstate⟩ := h.of_listed hr hlisted
  exact ⟨_, hstate⟩

theorem enabledIds_eq (h : w.AllConfigured workspaceId) : w.enabledIds workspaceId = w.listedIds workspaceId := by
  refine congrArg _ (List.filter_congr fun r hr => ?_)
  cases hlisted : listedRow workspaceId r with
  | true =>
    obtain ⟨htenant, access, scan, hstate⟩ := h.of_listed hr hlisted
    rw [enabledRow_of_accountState workspaceId hstate, htenant, decide_eq_true rfl]
    rfl
  | false =>
    cases henabled : enabledRow workspaceId r with
    | false => rfl
    | true =>
      have htenant := (enabledRow_tenant henabled).1
      rw [listedRow_of_enabled (h.stated r hr htenant) henabled] at hlisted
      cases hlisted

end World.AllConfigured

/-- **Disabling deletes no account**, and those that can be listed can be read afterwards. -/
theorem AllConfigured_disabled {keepEnabled : Nat} {w' : World} (hw : w.AllConfigured workspaceId) (hu : w.Unique)
    (h : exec (disableCloudAccounts workspaceId keepEnabled) w = (.ok ⟨⟩, w')) :
    w'.listedIds workspaceId = w.listedIds workspaceId ∧ w'.Readable workspaceId ∧ w'.Unique := by
  have hstated := stated_of_disabled hw.stated h
  have hdisabled : ∃ w'', exec (disableCloudAccounts workspaceId keepEnabled) w = (.ok ⟨⟩, w'') ∧ _ :=
    disableCloudAccounts_ok hu hw.stated hw.readable
  obtain ⟨w'', hexec, hall⟩ := hdisabled
  rw [hexec] at h
  cases h
  -- the rows of the same id are both configured, or the same
  have hrows : ∀ id r r', w.accounts.find id = some r → w'.accounts.find id = some r' → r' = r ∨
      listedRow workspaceId r = true ∧ ∃ access enabled scan,
        r'.accountState = .ok (.configured access enabled scan) := by
    intro id r r' hr hr'
    by_cases hid : id ∈ withoutLast keepEnabled (w.enabledIds workspaceId)
    · right
      obtain ⟨r₁, hr₁, henabled⟩ := World.mem_enabledIds.1 (mem_of_mem_withoutLast hid)
      rw [hr] at hr₁
      cases hr₁
      have hmem := Table.mem_of_find hr
      have hlisted := listedRow_of_enabled (hw.stated r hmem (enabledRow_tenant henabled).1) henabled
      obtain ⟨-, access, scan, hstate⟩ := hw.of_listed hmem hlisted
      have hstate' := accountState_of_switchedOff hall hid hr hr' hstate
      split at hstate'
      · exact ⟨hlisted, access, false, scan, hstate'⟩
      · exact ⟨hlisted, access, true, scan, hstate'⟩
    · left
      have hfind := hall.others id hid
      rw [hr, hr'] at hfind
      exact Option.some.inj hfind
  refine ⟨?_, fun r' hr' hlisted => ?_, hu.of_alike hall.alike⟩
  · have hids : w'.listedIds workspaceId = (w.listedIds workspaceId).filter fun _ => true := by
      refine Table.map_key_filter_of_keys hall.alike.keys fun id r r' hr hr' => ?_
      rw [Bool.and_true]
      rcases hrows id r r' hr hr' with rfl | ⟨hlisted, access, enabled, scan, hstate⟩
      · rfl
      · have htenant := (hw.of_listed (Table.mem_of_find hr) hlisted).1
        have htenant' : r'.tenantId = workspaceId := (congrArg (·.2.1) (hall.alike.find hr hr')).trans htenant
        have hname := AccountRow.accountState_ok hstate
        rw [hlisted]
        unfold listedRow CloudAccountRepository.nonDeleted
        rw [htenant', decide_eq_true rfl, Bool.true_and, decide_eq_true_eq]
        refine ⟨hstated r' (Table.mem_of_find hr') htenant', fun hcolumn => ?_⟩
        unfold AccountRow.stateName at hname
        rw [hcolumn] at hname
        cases hname
    rw [hids, List.filter_true]
  · have hfind' := (Table.find_eq_some_iff w'.accounts r'.id r').2 ⟨hr', rfl⟩
    have hkey : r'.id ∈ w.accounts.rows.map AccountRow.id := hall.alike.keys ▸ List.mem_map_of_mem hr'
    obtain ⟨r, hr⟩ := Table.exists_find_of_mem_keys hkey
    rcases hrows r'.id r r' hr hfind' with rfl | ⟨-, access, enabled, scan, hstate⟩
    · exact hw.readable _ (Table.mem_of_find hr) hlisted
    · exact ⟨_, hstate⟩

end Kept

/-! ## The paths together -/

theorem last_eq_first_iff {α : Type} [DecidableEq α] {n : Nat} (hn : 1 ≤ n) {xs : List α} (hnodup : xs.Nodup) :
    (∀ x, x ∈ (xs.filter fun x => !decide (x ∈ withoutLast n xs)) ↔ x ∈ xs.filter fun x => !decide (x ∈ xs.drop n)) ↔
      xs.length ≤ n := by
  have htake : withoutLast n xs = xs.take (xs.length - n) := if_neg (by omega)
  rw [htake]
  constructor
  · intro hsame
    by_contra hlong
    -- the first one is among the first, but not among the last
    cases xs with
    | nil => exact hlong (Nat.zero_le n)
    | cons x xs =>
      obtain ⟨m, rfl⟩ : ∃ m, n = m + 1 := ⟨n - 1, by omega⟩
      obtain ⟨d, hd⟩ : ∃ d, (x :: xs).length - (m + 1) = d + 1 := ⟨(x :: xs).length - (m + 1) - 1, by omega⟩
      have hx := (hsame x).2 (by
        rw [List.mem_filter, List.drop_succ_cons]
        refine ⟨List.mem_cons_self, ?_⟩
        have hnot : x ∉ xs.drop m := fun hmem => (List.nodup_cons.1 hnodup).1 (List.mem_of_mem_drop hmem)
        rw [decide_eq_false hnot]
        rfl)
      rw [List.mem_filter, hd, List.take_succ_cons, decide_eq_true List.mem_cons_self] at hx
      cases hx.2
  · intro hshort x
    have hnone : xs.length - n = 0 := by omega
    rw [hnone, List.take_zero, List.drop_eq_nil_of_le hshort]

section Agreement

variable {w : World} {workspaceId : WorkspaceId} {limit : Nat}

theorem World.AllConfigured.enabledIds_disabled {w' : World} (hw : w.AllConfigured workspaceId) (hu : w.Unique)
    (hworkspace : (getWorkspace w.organizations workspaceId).isSome = true)
    (h : exec (disableCloudAccounts workspaceId limit) w = (.ok ⟨⟩, w')) :
    w'.enabledIds workspaceId = (w.listedIds workspaceId).filter fun id =>
      !decide (id ∈ withoutLast limit (w.listedIds workspaceId)) := by
  rw [Fix.enabledIds_disabled hu hw.stated h, hw.enabledIds_eq]
  refine List.filter_congr fun id hid => ?_
  have hswitchable : w.switchable workspaceId id = true := by
    obtain ⟨r, hr, rfl⟩ := List.mem_map.1 hid
    obtain ⟨hmem, hlisted⟩ := List.mem_filter.1 hr
    obtain ⟨-, access, scan, hstate⟩ := hw.of_listed hmem hlisted
    unfold World.switchable
    rw [hworkspace, (Table.find_eq_some_iff w.accounts r.id r).2 ⟨hmem, rfl⟩, Option.any_some,
      AccountRow.accountState_ok hstate]
    rfl
  rw [hswitchable, Bool.and_true]

/-- **The paths that enforce a limit agree exactly when no account is above it**: on the accounts that survive, and the
cleanup after a trial on which it deletes. -/
theorem limits_agree_iff (userId : UserId) {workspace : Workspace} {oldLimit : Option Nat} (hu : w.Unique)
    (hw : w.AllConfigured workspaceId) (hworkspace : getWorkspace w.organizations workspaceId = some workspace)
    (hlimit : 1 ≤ limit) (hlower : limitBelow (some limit) oldLimit = true) :
    ∃ disabled lowered cleaned after, exec (disableCloudAccounts workspaceId limit) w = (.ok ⟨⟩, disabled) ∧
      exec (adjustAccounts userId workspaceId (some limit) oldLimit) w = (.ok ⟨⟩, lowered) ∧
      exec (cleanupWorkspace limit workspace) w = (.ok ⟨⟩, cleaned) ∧
      exec (cleanupWorkspace limit workspace) disabled = (.ok ⟨⟩, after) ∧
      (((∀ id, id ∈ disabled.enabledIds workspaceId ↔ id ∈ lowered.listedIds workspaceId) ∧
          (∀ id, id ∈ disabled.enabledIds workspaceId ↔ id ∈ cleaned.listedIds workspaceId) ∧
          ∀ id ∈ disabled.listedIds workspaceId, id ∉ after.listedIds workspaceId →
            id ∉ disabled.enabledIds workspaceId) ↔
        (w.listedIds workspaceId).length ≤ limit) := by
  have hid : workspace.id = workspaceId := by
    obtain ⟨o, ho, rfl⟩ := Option.map_eq_some_iff.1 hworkspace
    have hkey : o.id = workspaceId := Table.key_of_find ho
    exact hkey
  subst hid
  have hdisabled : ∃ w', exec (disableCloudAccounts workspace.id limit) w = (.ok ⟨⟩, w') ∧ _ :=
    disableCloudAccounts_ok hu hw.stated hw.readable
  obtain ⟨disabled, hdisable, -⟩ := hdisabled
  obtain ⟨hlistedSame, hreadable, hunique⟩ := AllConfigured_disabled hw hu hdisable
  obtain ⟨lowered, hadjust, hloweredIds⟩ := adjustAccounts_ok userId hu hw.readable hlower
  obtain ⟨cleaned, hclean, hcleanedIds⟩ := cleanupWorkspace_ok limit hu hw.readable
  obtain ⟨after, hafter, hafterIds⟩ := cleanupWorkspace_ok limit hunique hreadable
  have henabled := hw.enabledIds_disabled hu (by rw [hworkspace]; rfl) hdisable
  have hagree := last_eq_first_iff hlimit (w.listedIds_nodup workspace.id)
  rw [← henabled, ← hcleanedIds] at hagree
  refine ⟨disabled, lowered, cleaned, after, hdisable, hadjust, hclean, hafter, fun h => hagree.1 h.2.1,
    fun hshort => ?_⟩
  refine ⟨fun id => ?_, hagree.2 hshort, fun id hid hgone => absurd ?_ hgone⟩
  · rw [henabled, hloweredIds]
  · rw [hafterIds, List.mem_filter, hlistedSame, List.drop_eq_nil_of_le hshort, decide_eq_false List.not_mem_nil]
    rw [hlistedSame] at hid
    exact ⟨hid, rfl⟩

end Agreement

def twoAccounts : World :=
  { freeWorld with
    accounts :=
      ⟨[.ofModel
        (newAccount 10 "111111111111" 1 .aws (.configured (.aws 2 "role") true true) none waitingAccount.createdAt),
        .ofModel (newAccount 11 "222222222222" 1 .aws (.configured (.aws 2 "role") true true) none
          waitingAccount.createdAt)], by decide⟩ }

theorem twoAccounts_allConfigured : twoAccounts.AllConfigured 1 := by
  intro r hr _
  rcases List.mem_cons.1 hr with rfl | hr
  · exact .inr ⟨rfl, _, _, rfl⟩
  · rw [List.mem_singleton.1 hr]
    exact .inr ⟨rfl, _, _, rfl⟩

theorem limits_agree_iff_twoAccounts :
    ∃ disabled lowered cleaned after, exec (disableCloudAccounts 1 2) twoAccounts = (.ok ⟨⟩, disabled) ∧
      exec (adjustAccounts 11 1 (some 2) (some 3)) twoAccounts = (.ok ⟨⟩, lowered) ∧
      exec (cleanupWorkspace 2 (freeOrganization.toModel none)) twoAccounts = (.ok ⟨⟩, cleaned) ∧
      exec (cleanupWorkspace 2 (freeOrganization.toModel none)) disabled = (.ok ⟨⟩, after) ∧
      (((∀ id, id ∈ disabled.enabledIds 1 ↔ id ∈ lowered.listedIds 1) ∧
          (∀ id, id ∈ disabled.enabledIds 1 ↔ id ∈ cleaned.listedIds 1) ∧
          ∀ id ∈ disabled.listedIds 1, id ∉ after.listedIds 1 → id ∉ disabled.enabledIds 1) ↔
        (twoAccounts.listedIds 1).length ≤ 2) :=
  limits_agree_iff 11 (by unfold World.Unique; decide) twoAccounts_allConfigured rfl (by decide) (by decide)

/-- At the limit of one account the cleanup deletes the account that the other paths keep. -/
theorem cleanup_keeps_first :
    (exec (disableCloudAccounts 1 1) twoAccounts).2.enabledIds 1 = [11] ∧
      (exec (adjustAccounts 11 1 (some 1) none) twoAccounts).2.listedIds 1 = [11] ∧
      (exec (cleanupWorkspace 1 (freeOrganization.toModel none)) twoAccounts).2.listedIds 1 = [10] ∧
      (exec (disableCloudAccounts 1 1 *> cleanupWorkspace 1 (freeOrganization.toModel none)) twoAccounts).2.listedIds
        1 =
        [10] := by
  decide +kernel

end Fix
