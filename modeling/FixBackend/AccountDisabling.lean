import FixBackend.AccountConfigure
import FixBackend.AccountPayments
import FixBackend.AccountStandings
/-!
# AccountDisabling — which accounts of a workspace stay enabled

`disable_cloud_accounts` looks at discovered accounts too, but `update_cloud_account_enabled` refuses them, and the
error is only logged.  A discovered account that kept its flag is collected as soon as `configure_account` gets to it.
-/
namespace Fix

open Calendar Effects Machine

/-! ## Enabled accounts -/

/-- A discovered, configured or degraded account of the workspace with the flag set. -/
def enabledRow (workspaceId : WorkspaceId) (r : AccountRow) : Bool :=
  decide (r.tenantId = workspaceId) && (r.enabled && decide (r.stateName ≠ .detected ∧ r.stateName ≠ .deleted))

def World.enabledIds (w : World) (workspaceId : WorkspaceId) : List FixCloudAccountId :=
  (w.accounts.rows.filter (enabledRow workspaceId)).map (·.id)

theorem AccountRow.accountState_enabled {r : AccountRow} {s : CloudAccountState} (h : r.accountState = .ok s) :
    (r.enabled && decide (r.stateName ≠ .detected ∧ r.stateName ≠ .deleted)) = s.enabled := by
  have hname := AccountRow.accountState_ok h
  cases s with
  | detected | deleted =>
    rw [hname]
    exact Bool.and_false _
  | discovered access enabled =>
    unfold AccountRow.accountState at h
    rw [hname] at h ⊢
    dsimp only [CloudAccountState.stateName] at h
    cases haccess : r.access <;> rw [haccess] at h <;> cases h
    exact Bool.and_true _
  | configured access enabled scan =>
    obtain ⟨-, -, -, henabled, -⟩ := AccountRow.accountState_settings h (.inl rfl)
    rw [henabled, hname]
    exact Bool.and_true _
  | degraded access enabled scan error =>
    obtain ⟨-, -, -, henabled, -⟩ := AccountRow.accountState_settings h (.inr rfl)
    rw [henabled, hname]
    exact Bool.and_true _

theorem enabledRow_of_accountState {r : AccountRow} {s : CloudAccountState} (workspaceId : WorkspaceId)
    (h : r.accountState = .ok s) : enabledRow workspaceId r = (decide (r.tenantId = workspaceId) && s.enabled) := by
  unfold enabledRow
  rw [AccountRow.accountState_enabled h]

theorem enabledRow_tenant {workspaceId : WorkspaceId} {r : AccountRow} (h : enabledRow workspaceId r = true) :
    r.tenantId = workspaceId ∧ r.stateName ≠ .detected ∧ r.stateName ≠ .deleted := by
  unfold enabledRow at h
  rw [Bool.and_eq_true, Bool.and_eq_true, decide_eq_true_eq, decide_eq_true_eq] at h
  exact ⟨h.1, h.2.2⟩

theorem CloudAccount.disablable_eq (a : CloudAccount) : a.disablable = a.state.enabled := by
  unfold disablable
  cases a.state <;> rfl

theorem World.mem_enabledIds {w : World} {workspaceId : WorkspaceId} {id : FixCloudAccountId} :
    id ∈ w.enabledIds workspaceId ↔ ∃ r, w.accounts.find id = some r ∧ enabledRow workspaceId r = true := by
  unfold enabledIds
  rw [List.mem_map]
  constructor
  · rintro ⟨r, hr, rfl⟩
    obtain ⟨hmem, henabled⟩ := List.mem_filter.1 hr
    exact ⟨r, (Table.find_eq_some_iff w.accounts r.id r).2 ⟨hmem, rfl⟩, henabled⟩
  · rintro ⟨r, hr, henabled⟩
    exact ⟨r, List.mem_filter.2 ⟨Table.mem_of_find hr, henabled⟩, Table.key_of_find hr⟩

theorem World.enabledIds_nodup (w : World) (workspaceId : WorkspaceId) : (w.enabledIds workspaceId).Nodup :=
  w.accounts.unique.sublist (List.filter_sublist.map AccountRow.id)

/-! ## The listed accounts -/

section Listing

variable {workspaceId : WorkspaceId}

def listedRow (workspaceId : WorkspaceId) (r : AccountRow) : Bool :=
  decide (r.tenantId = workspaceId) && CloudAccountRepository.nonDeleted r

theorem exec_listAccounts (w : World) : exec (listAccounts workspaceId) w =
    ((w.accounts.rows.filter (listedRow workspaceId)).mapM
      (·.toModel ((w.nextRuns.find workspaceId).map (·.time))), w) := by
  unfold listAccounts
  rw [exec_bind, exec_getNextScan]
  dsimp only
  rw [exec_bind, exec_get]
  dsimp only
  rw [exec_lift]
  rfl

theorem ids_of_read {nextScan : Option DateTime} {p : CloudAccount → Bool} {q : AccountRow → Bool} :
    ∀ {rows : List AccountRow} {accounts : List CloudAccount}, rows.map (·.toModel nextScan) = accounts.map .ok →
      (∀ r ∈ rows, ∀ a, r.toModel nextScan = .ok a → q r = p a) →
        (accounts.filter p).map (·.id) = (rows.filter q).map (·.id)
  | [], accounts, h, _ => by
    rw [List.map_eq_nil_iff.1 h.symm]
    rfl
  | r :: rows, [], h, _ => by cases h
  | r :: rows, a :: accounts, h, hsame => by
    rw [List.map_cons, List.map_cons, List.cons.injEq] at h
    obtain ⟨hr, hrest⟩ := h
    have ih := ids_of_read hrest fun x hx => hsame x (List.mem_cons_of_mem r hx)
    obtain ⟨-, hid, -⟩ := AccountRow.toModel_ok hr
    rw [List.filter_cons, List.filter_cons, hsame r List.mem_cons_self a hr]
    cases p a with
    | true =>
      rw [if_pos rfl, if_pos rfl, List.map_cons, List.map_cons, ih, hid]
    | false =>
      rw [if_neg Bool.false_ne_true, if_neg Bool.false_ne_true, ih]

theorem withoutLast_map {α β : Type} (n : Nat) (xs : List α) (f : α → β) :
    withoutLast n (xs.map f) = (withoutLast n xs).map f := by
  unfold withoutLast
  by_cases hn : n = 0
  · rw [if_pos hn, if_pos hn]
    rfl
  · rw [if_neg hn, if_neg hn, List.length_map, List.map_take]

theorem mem_of_mem_withoutLast {α : Type} {n : Nat} {xs : List α} {x : α} (h : x ∈ withoutLast n xs) : x ∈ xs := by
  unfold withoutLast at h
  split at h
  · cases h
  · exact List.mem_of_mem_take h

theorem withoutLast_nodup {α : Type} {n : Nat} {xs : List α} (h : xs.Nodup) : (withoutLast n xs).Nodup := by
  unfold withoutLast
  split
  · exact List.nodup_nil
  · exact h.sublist (List.take_sublist _ _)

theorem listedRow_of_enabled {r : AccountRow} (hstate : r.state ≠ none) (henabled : enabledRow workspaceId r = true) :
    listedRow workspaceId r = true := by
  obtain ⟨htenant, -, hdeleted⟩ := enabledRow_tenant henabled
  unfold listedRow CloudAccountRepository.nonDeleted
  rw [htenant, decide_eq_true rfl, Bool.true_and, decide_eq_true_eq]
  refine ⟨hstate, fun hname => hdeleted ?_⟩
  unfold AccountRow.stateName
  rw [hname]
  rfl

def World.Stated (w : World) (workspaceId : WorkspaceId) : Prop :=
  ∀ r ∈ w.accounts.rows, r.tenantId = workspaceId → r.state ≠ none

theorem filter_listed {w : World} (hstates : w.Stated workspaceId) :
    (w.accounts.rows.filter (listedRow workspaceId)).filter (enabledRow workspaceId) =
      w.accounts.rows.filter (enabledRow workspaceId) := by
  rw [List.filter_filter]
  refine List.filter_congr fun r hr => ?_
  cases henabled : enabledRow workspaceId r with
  | false => rfl
  | true =>
    rw [listedRow_of_enabled (hstates r hr (enabledRow_tenant henabled).1) henabled]
    rfl

/-- The accounts of the workspace that are not deleted, in the order of the table. -/
def World.listedIds (w : World) (workspaceId : WorkspaceId) : List FixCloudAccountId :=
  (w.accounts.rows.filter (listedRow workspaceId)).map (·.id)

theorem World.listedIds_nodup (w : World) (workspaceId : WorkspaceId) : (w.listedIds workspaceId).Nodup :=
  w.accounts.unique.sublist (List.filter_sublist.map AccountRow.id)

structure Listed (workspaceId : WorkspaceId) (w : World) (accounts : List CloudAccount) : Prop where
  ids : accounts.map (·.id) = w.listedIds workspaceId
  enabled : (accounts.filter (·.disablable)).map (·.id) =
    ((w.accounts.rows.filter (listedRow workspaceId)).filter (enabledRow workspaceId)).map (·.id)
  stored : ∀ a ∈ accounts, ∃ r state, w.accounts.find a.id = some r ∧ r.accountState = .ok state ∧
    r.tenantId = workspaceId

theorem listed_of_mapM {w : World} {nextScan : Option DateTime} {accounts : List CloudAccount}
    (h : (w.accounts.rows.filter (listedRow workspaceId)).mapM (·.toModel nextScan) = .ok accounts) :
    Listed workspaceId w accounts := by
  have hrows := mapM_eq_ok_iff.1 h
  have htenant : ∀ r ∈ w.accounts.rows.filter (listedRow workspaceId), r.tenantId = workspaceId := by
    intro r hr
    have hlisted := (List.mem_filter.1 hr).2
    unfold listedRow at hlisted
    rw [Bool.and_eq_true, decide_eq_true_eq] at hlisted
    exact hlisted.1
  refine ⟨?_, ids_of_read hrows fun r hr a hmodel => ?_, fun a ha => ?_⟩
  · have hids := ids_of_read (p := fun _ => true) (q := fun _ => true) hrows fun _ _ _ _ => rfl
    rw [List.filter_true, List.filter_true] at hids
    exact hids
  · rw [enabledRow_of_accountState workspaceId (AccountRow.toModel_ok hmodel).1, htenant r hr, decide_eq_true rfl,
      Bool.true_and, CloudAccount.disablable_eq]
  · obtain ⟨r, hr, hmodel⟩ := (mem_of_mapM_ok h a).1 ha
    obtain ⟨hstate, hid, -⟩ := AccountRow.toModel_ok hmodel
    exact ⟨r, a.state, (Table.find_eq_some_iff w.accounts a.id r).2 ⟨(List.mem_filter.1 hr).1, hid.symm⟩, hstate,
      htenant r hr⟩

def World.Readable (w : World) (workspaceId : WorkspaceId) : Prop :=
  ∀ r ∈ w.accounts.rows, listedRow workspaceId r = true → ∃ state, r.accountState = .ok state

theorem listAccounts_ok {w : World} (hread : w.Readable workspaceId) :
    ∃ accounts, exec (listAccounts workspaceId) w = (.ok accounts, w) ∧ Listed workspaceId w accounts := by
  have hrows : ∃ accounts, (w.accounts.rows.filter (listedRow workspaceId)).mapM
      (·.toModel ((w.nextRuns.find workspaceId).map (·.time))) = .ok accounts := by
    rw [exists_mapM_ok_iff]
    intro r hr
    obtain ⟨hmem, hlisted⟩ := List.mem_filter.1 hr
    obtain ⟨state, hstate⟩ := hread r hmem hlisted
    obtain ⟨a, ha, -⟩ := AccountRow.exists_toModel hstate ((w.nextRuns.find workspaceId).map (·.time))
    exact ⟨a, ha⟩
  obtain ⟨accounts, haccounts⟩ := hrows
  refine ⟨accounts, ?_, listed_of_mapM haccounts⟩
  rw [exec_listAccounts, haccounts]

theorem readable_of_listed {w w' : World} {accounts : List CloudAccount}
    (h : exec (listAccounts workspaceId) w = (.ok accounts, w')) : w.Readable workspaceId := by
  rw [exec_listAccounts] at h
  have haccounts := congrArg Prod.fst h
  intro r hr hlisted
  obtain ⟨a, ha⟩ := exists_mapM_ok_iff.1 ⟨accounts, haccounts⟩ r (List.mem_filter.2 ⟨hr, hlisted⟩)
  exact ⟨a.state, (AccountRow.toModel_ok ha).1⟩

end Listing

/-! ## Changing some accounts -/

structure ChangesAll (ids : List FixCloudAccountId) (g : Standing → Standing) (w w' : World) : Prop where
  alike : w.Alike w'
  changed : ∀ x ∈ ids, w'.standing x = (w.standing x).map g
  others : ∀ x, x ∉ ids → w'.accounts.find x = w.accounts.find x

theorem ChangesOne.changesAll {id : FixCloudAccountId} {standing : Standing} {g : Standing → Standing} {w w' : World}
    (h : ChangesOne id (g standing) w w') (hstanding : w.standing id = some standing) : ChangesAll [id] g w w' := by
  refine ⟨h.alike, fun x hx => ?_, fun x hx => h.others x (fun heq => hx (heq ▸ List.mem_singleton_self id))⟩
  rw [List.mem_singleton.1 hx, h.standing, hstanding]
  rfl

/-- **A loop over accounts changes each of them**, when each pass changes its account and finds it as it was. -/
theorem forM_changesAll {α : Type} {op : α → Service PUnit} {idOf : α → FixCloudAccountId} {g : Standing → Standing} :
    ∀ (xs : List α) {w : World}, (xs.map idOf).Nodup →
      (∀ a ∈ xs, ∀ w₁ : World, w.Alike w₁ → w₁.accounts.find (idOf a) = w.accounts.find (idOf a) →
        ∃ w₂, exec (op a) w₁ = (.ok ⟨⟩, w₂) ∧ ChangesAll [idOf a] g w₁ w₂) →
      ∃ w', exec (xs.forM op) w = (.ok ⟨⟩, w') ∧ ChangesAll (xs.map idOf) g w w'
  | [], w, _, _ => ⟨w, rfl, World.Alike.refl w, fun x hx => absurd hx List.not_mem_nil, fun _ _ => rfl⟩
  | a :: xs, w, hnodup, hop => by
    rw [List.map_cons, List.nodup_cons] at hnodup
    obtain ⟨w₁, hexec, hone⟩ := hop a List.mem_cons_self w (World.Alike.refl w) rfl
    have hrest : ∀ b ∈ xs, ∀ w₂ : World, w₁.Alike w₂ → w₂.accounts.find (idOf b) = w₁.accounts.find (idOf b) →
        ∃ w₃, exec (op b) w₂ = (.ok ⟨⟩, w₃) ∧ ChangesAll [idOf b] g w₂ w₃ := by
      intro b hb w₂ halike hfind
      have hne : idOf b ∉ [idOf a] := fun hmem =>
        hnodup.1 (List.mem_singleton.1 hmem ▸ List.mem_map_of_mem hb)
      exact hop b (List.mem_cons_of_mem a hb) w₂ (hone.alike.trans halike) (hfind.trans (hone.others _ hne))
    obtain ⟨w', hexec', hall⟩ := forM_changesAll xs hnodup.2 hrest
    refine ⟨w', ?_, hone.alike.trans hall.alike, fun x hx => ?_, fun x hx => ?_⟩
    · rw [forM_cons, exec_bind, hexec]
      exact hexec'
    · rw [List.map_cons, List.mem_cons] at hx
      by_cases hxa : x = idOf a
      · subst hxa
        have hsame : w'.standing (idOf a) = w₁.standing (idOf a) :=
          congrArg (Option.map AccountRow.standing) (hall.others _ hnodup.1)
        rw [hsame]
        exact hone.changed _ (List.mem_singleton_self _)
      · have hsame : w₁.standing x = w.standing x :=
          congrArg (Option.map AccountRow.standing) (hone.others x fun hmem => hxa (List.mem_singleton.1 hmem))
        rw [hall.changed x (hx.resolve_left hxa), hsame]
    · rw [List.map_cons, List.mem_cons, not_or] at hx
      exact (hall.others x hx.2).trans (hone.others x fun hmem => hx.1 (List.mem_singleton.1 hmem))

theorem World.Alike.find {w w' : World} (h : w.Alike w') {id : FixCloudAccountId} {r r' : AccountRow}
    (hr : w.accounts.find id = some r) (hr' : w'.accounts.find id = some r') : r'.identity = r.identity := by
  have hmem : r'.identity ∈ w.accounts.rows.map AccountRow.identity :=
    h.accounts ▸ List.mem_map_of_mem (Table.mem_of_find hr')
  obtain ⟨x, hx, hidentity⟩ := List.mem_map.1 hmem
  have hkey : r'.id = id := Table.key_of_find hr'
  have hid : x.id = id := (congrArg (·.1) hidentity).trans hkey
  have hfind := (Table.find_eq_some_iff w.accounts id x).2 ⟨hx, hid⟩
  rw [hr] at hfind
  rw [← hidentity, Option.some.inj hfind]

theorem World.Alike.keys {w w' : World} (h : w.Alike w') :
    w'.accounts.rows.map AccountRow.id = w.accounts.rows.map AccountRow.id := by
  have hids := congrArg (List.map Prod.fst) h.accounts
  rw [List.map_map, List.map_map] at hids
  exact hids

/-! ## Disabling -/

/-- What `update_cloud_account_enabled` makes of a state; a state that it refuses stays. -/
def CloudAccountState.switched (enabled : Bool) : CloudAccountState → CloudAccountState
  | .configured access _ scan => .configured access enabled scan
  | .degraded access _ scan error => .degraded access enabled scan error
  | s => s

theorem setDisabled_cases (workspace : Workspace) (count : Nat) (now : DateTime) (a : CloudAccount) :
    setEnabled false workspace count now a = .ok { a with state := a.state.switched false } ∨
      a.state.switched false = a.state ∧ ∃ e, setEnabled false workspace count now a = .error e := by
  unfold setEnabled
  cases hstate : a.state with
  | configured | degraded => exact .inl rfl
  | detected | discovered | deleted => exact .inr ⟨rfl, _, rfl⟩

theorem CloudAccountState.switched_cloudAccess (enabled : Bool) (s : CloudAccountState) :
    (s.switched enabled).cloudAccess = s.cloudAccess := by
  cases s <;> rfl

theorem CloudAccountState.switched_error (enabled : Bool) (s : CloudAccountState) :
    (s.switched enabled).error = s.error := by
  cases s <;> rfl

/-- What disabling makes of an account, when the workspace is stored. -/
def switchedOff (stored : Bool) (standing : Standing) : Standing :=
  if stored then (standing.1.map (·.switched false), standing.2) else standing

section Disabling

variable {workspaceId : WorkspaceId} {w : World}

theorem exec_getCloudAccount {id : FixCloudAccountId} {r : AccountRow} {a : CloudAccount}
    (hfind : w.accounts.find id = some r) (hmodel : r.toModel ((w.nextRuns.find r.tenantId).map (·.time)) = .ok a)
    (htenant : r.tenantId = workspaceId) : exec (getCloudAccount id workspaceId) w = (.ok a, w) := by
  have hworkspace : a.workspaceId = workspaceId := (AccountRow.toModel_ok hmodel).2.2.1.trans htenant
  unfold getCloudAccount
  rw [exec_bind, CloudAccountRepository.exec_get_stored hfind, hmodel]
  dsimp only [Except.map]
  rw [if_neg (not_not.2 hworkspace)]
  rfl

/-- **Disabling one account**: an account that is neither configured nor degraded stays as it is. -/
theorem toggleAccount_ok {account : CloudAccount} {r : AccountRow} {state : CloudAccountState} (hu : w.Unique)
    (hfind : w.accounts.find account.id = some r) (hstate : r.accountState = .ok state)
    (htenant : r.tenantId = workspaceId) :
    ∃ w', exec (toggleAccount workspaceId false account) w = (.ok ⟨⟩, w') ∧
      ChangesAll [account.id] (switchedOff (getWorkspace w.organizations workspaceId).isSome) w w' := by
  have hstanding : w.standing account.id = some (.ok state, r.failedScanCount) := by
    unfold World.standing AccountRow.standing
    rw [hfind, ← hstate]
    rfl
  obtain ⟨read, hread, -⟩ := AccountRow.exists_toModel hstate ((w.nextRuns.find r.tenantId).map (·.time))
  obtain ⟨a, ha, hastate⟩ := AccountRow.exists_toModel hstate none
  unfold toggleAccount updateCloudAccountEnabled
  rw [exec_tryCatch, seqRight_eq_bind, exec_bind, exec_bind, exec_getCloudAccount hfind hread htenant]
  dsimp only
  rw [exec_bind, findWorkspace, exec_bind, exec_get]
  dsimp only
  rw [exec_pure]
  dsimp only
  cases hworkspace : getWorkspace w.organizations workspaceId with
  | none =>
    dsimp only
    rw [exec_throw]
    exact ⟨w, rfl, ChangesOne.changesAll (ChangesOne.of_standing hstanding) hstanding⟩
  | some workspace =>
    dsimp only
    rw [exec_bind, CloudAccountRepository.exec_countByWorkspaceId]
    dsimp only
    rw [exec_bind]
    generalize hcount : w.accounts.count _ = count
    obtain ⟨-, -, -, hcloud, -⟩ := AccountRow.toModel_ok ha
    have hfailed := AccountRow.toModel_failedScanCount ha
    rcases setDisabled_cases workspace count w.now a with hf | ⟨hrests, e, hf⟩
    · have hstorable : CloudAccountRepository.Storable r a { a with state := a.state.switched false } := by
        refine ⟨rfl, rfl, rfl, rfl, fun access hx => ?_,
          AccountRow.not_unfit_of_state ha rfl (fun access hx => ?_) fun e he => .inl ?_⟩
        · rw [CloudAccountState.switched_cloudAccess, hastate] at hx
          exact (AccountRow.accountState_cloud hstate hx).trans hcloud.symm
        · rwa [CloudAccountState.switched_cloudAccess] at hx
        · rwa [CloudAccountState.switched_error] at he
      obtain ⟨nextScan, updatedAt, w', hexec, hupdated⟩ := CloudAccountRepository.update_ok hu hfind ha hf hstorable
      rw [hexec]
      dsimp only
      rw [exec_bind, publish, exec_modify]
      refine ⟨_, rfl, ChangesOne.changesAll ⟨?_, ?_, hupdated.others⟩ hstanding⟩
      · exact hupdated.alike.trans (World.Alike.of_accounts rfl rfl rfl rfl rfl)
      · have hnew := hupdated.standing
        rw [hastate, hfailed] at hnew
        exact hnew
    · rw [CloudAccountRepository.exec_update hfind ha, hf]
      refine ⟨w.tick, rfl, ChangesOne.changesAll ⟨World.Alike.of_accounts rfl rfl rfl rfl rfl, ?_,
        fun _ _ => rfl⟩ hstanding⟩
      rw [hastate] at hrests
      unfold World.standing
      rw [World.find_tick]
      unfold switchedOff
      rw [Option.isSome_some, if_pos rfl]
      dsimp only [Except.map]
      rw [hrests]
      exact hstanding

theorem disableCloudAccounts_ok {keepEnabled : Nat} (hu : w.Unique) (hstates : w.Stated workspaceId)
    (hread : w.Readable workspaceId) : ∃ w', exec (disableCloudAccounts workspaceId keepEnabled) w = (.ok ⟨⟩, w') ∧
      ChangesAll (withoutLast keepEnabled (w.enabledIds workspaceId))
        (switchedOff (getWorkspace w.organizations workspaceId).isSome) w w' := by
  obtain ⟨accounts, hexec, hlisted⟩ := listAccounts_ok hread
  have hids : (accounts.filter (·.disablable)).map (·.id) = w.enabledIds workspaceId := by
    rw [hlisted.enabled, filter_listed hstates]
    rfl
  have hdisable : (withoutLast keepEnabled (accounts.filter (·.disablable))).map (·.id) =
      withoutLast keepEnabled (w.enabledIds workspaceId) := by
    rw [← withoutLast_map, hids]
  have hnodup : (withoutLast keepEnabled (w.enabledIds workspaceId)).Nodup :=
    withoutLast_nodup (w.enabledIds_nodup workspaceId)
  have hpasses : ∀ a ∈ withoutLast keepEnabled (accounts.filter (·.disablable)), ∀ w₁ : World, w.Alike w₁ →
      w₁.accounts.find a.id = w.accounts.find a.id → ∃ w₂, exec (toggleAccount workspaceId false a) w₁ = (.ok ⟨⟩, w₂) ∧
        ChangesAll [a.id] (switchedOff (getWorkspace w.organizations workspaceId).isSome) w₁ w₂ := by
    intro a ha w₁ halike hfind
    obtain ⟨r, state, hr, hstate, htenant⟩ := hlisted.stored a (List.mem_filter.1 (mem_of_mem_withoutLast ha)).1
    rw [← halike.organizations]
    exact toggleAccount_ok (hu.of_alike halike) (hfind.trans hr) hstate htenant
  obtain ⟨w', hall⟩ := forM_changesAll _ (hdisable ▸ hnodup) hpasses
  rw [hdisable] at hall
  refine ⟨w', ?_, hall.2⟩
  unfold disableCloudAccounts
  rw [exec_bind, hexec]
  exact hall.1

theorem readable_of_disabled {keepEnabled : Nat} {w' : World}
    (h : exec (disableCloudAccounts workspaceId keepEnabled) w = (.ok ⟨⟩, w')) : w.Readable workspaceId := by
  unfold disableCloudAccounts at h
  rw [exec_bind] at h
  rcases hlist : exec (listAccounts workspaceId) w with ⟨e | accounts, w₁⟩
  · rw [hlist] at h
    cases h
  · exact readable_of_listed hlist

def World.switchable (w : World) (workspaceId : WorkspaceId) (id : FixCloudAccountId) : Bool :=
  (getWorkspace w.organizations workspaceId).isSome &&
    (w.accounts.find id).any fun r => decide (r.stateName ≠ .discovered)

theorem CloudAccountState.switched_enabled {s : CloudAccountState} (h : s.enabled = true) :
    (s.switched false).enabled = !decide (s.stateName ≠ .discovered) := by
  cases s with
  | detected | deleted => cases h
  | discovered access enabled => exact h
  | configured | degraded => rfl

theorem accountState_of_switchedOff {ids : List FixCloudAccountId} {stored : Bool} {w' : World}
    (hall : ChangesAll ids (switchedOff stored) w w') {id : FixCloudAccountId} (hid : id ∈ ids) {r r' : AccountRow}
    (hr : w.accounts.find id = some r) (hr' : w'.accounts.find id = some r') {state : CloudAccountState}
    (hstate : r.accountState = .ok state) :
    r'.accountState = .ok (if stored then state.switched false else state) := by
  have hnew := hall.changed id hid
  unfold World.standing at hnew
  rw [hr, hr'] at hnew
  have hstate' : r'.accountState = (switchedOff stored r.standing).1 := congrArg Prod.fst (Option.some.inj hnew)
  unfold AccountRow.standing switchedOff at hstate'
  rw [hstate', hstate]
  cases stored <;> rfl

theorem enabledIds_disabled {keepEnabled : Nat} {w' : World} (hu : w.Unique)
    (hstates : w.Stated workspaceId)
    (h : exec (disableCloudAccounts workspaceId keepEnabled) w = (.ok ⟨⟩, w')) :
    w'.enabledIds workspaceId = (w.enabledIds workspaceId).filter fun id =>
      !(decide (id ∈ withoutLast keepEnabled (w.enabledIds workspaceId)) && w.switchable workspaceId id) := by
  have hread := readable_of_disabled h
  obtain ⟨w'', hexec, hall⟩ := disableCloudAccounts_ok hu hstates hread
  rw [hexec] at h
  cases h
  refine Table.map_key_filter_of_keys hall.alike.keys fun id r r' hr hr' => ?_
  by_cases hid : id ∈ withoutLast keepEnabled (w.enabledIds workspaceId)
  · have henabledId := mem_of_mem_withoutLast hid
    obtain ⟨r₁, hr₁, henabled⟩ := World.mem_enabledIds.1 henabledId
    rw [hr] at hr₁
    cases hr₁
    have htenant := (enabledRow_tenant henabled).1
    have hmem := Table.mem_of_find hr
    obtain ⟨state, hstate⟩ := hread r hmem (listedRow_of_enabled (hstates r hmem htenant) henabled)
    have htenant' : r'.tenantId = workspaceId :=
      (congrArg (·.2.1) (hall.alike.find hr hr')).trans htenant
    have hstateEnabled : state.enabled = true := by
      rw [enabledRow_of_accountState workspaceId hstate, Bool.and_eq_true] at henabled
      exact henabled.2
    have hstate' := accountState_of_switchedOff hall hid hr hr' hstate
    rw [henabled, decide_eq_true hid, Bool.true_and, Bool.true_and]
    unfold World.switchable
    rw [hr, Option.any_some, AccountRow.accountState_ok hstate]
    cases hworkspace : (getWorkspace w.organizations workspaceId).isSome with
    | true =>
      rw [hworkspace, if_pos rfl] at hstate'
      rw [enabledRow_of_accountState workspaceId hstate', htenant', decide_eq_true rfl, Bool.true_and,
        CloudAccountState.switched_enabled hstateEnabled, Bool.true_and]
    | false =>
      rw [hworkspace, if_neg Bool.false_ne_true] at hstate'
      rw [enabledRow_of_accountState workspaceId hstate', htenant', decide_eq_true rfl, hstateEnabled]
      rfl
  · have hsame : r' = r := by
      have hfind := hall.others id hid
      rw [hr, hr'] at hfind
      exact Option.some.inj hfind
    rw [hsame, decide_eq_false hid, Bool.false_and, Bool.not_false, Bool.and_true]

end Disabling

theorem length_filter_withoutLast {α : Type} [DecidableEq α] {n : Nat} (hn : 1 ≤ n) {xs : List α} (hnodup : xs.Nodup)
    (p : α → Bool) : (xs.filter fun x => !(decide (x ∈ withoutLast n xs) && p x)).length ≤ n ↔
      ∀ x ∈ withoutLast n xs, p x = true := by
  have htake : withoutLast n xs = xs.take (xs.length - n) := if_neg (by omega)
  rw [htake]
  have hsplit := List.take_append_drop (xs.length - n) xs
  generalize hfirst : xs.take (xs.length - n) = first at hsplit ⊢
  generalize hlast : xs.drop (xs.length - n) = last at hsplit
  have hfirstLength : first.length = xs.length - n := by
    rw [← hfirst, List.length_take]
    omega
  have hlength : first.length + last.length = xs.length := by rw [← hsplit, List.length_append]
  rw [← hsplit] at hnodup ⊢
  have hdisjoint := (List.nodup_append.1 hnodup).2.2
  have hfirstKept : (first.filter fun x => !(decide (x ∈ first) && p x)) = first.filter fun x => !p x := by
    refine List.filter_congr fun x hx => ?_
    rw [decide_eq_true hx, Bool.true_and]
  have hlastKept : (last.filter fun x => !(decide (x ∈ first) && p x)) = last := by
    refine List.filter_eq_self.2 fun x hx => ?_
    have hx' : x ∉ first := fun hmem => hdisjoint x hmem x hx rfl
    rw [decide_eq_false hx', Bool.false_and, Bool.not_false]
  rw [List.filter_append, hfirstKept, hlastKept, List.length_append]
  have hnone : (first.filter fun x => !p x).length = 0 ↔ ∀ x ∈ first, p x = true := by
    rw [List.length_eq_zero_iff, List.filter_eq_nil_iff]
    simp only [Bool.not_eq_true', Bool.not_eq_false]
  rw [← hnone]
  have hle : (first.filter fun x => !p x).length ≤ first.length := List.length_filter_le _ _
  omega

/-! ## Configuring afterwards -/

/-- `create_aws_account` without a role: the account is new and detected, or only named. -/
def CreatePc.detects : CreatePc → Prop
  | .redeploying .. => False
  | .creating account | .inserting account _ => account.state = .detected
  | _ => True

def AccountCall.configures : AccountCall → Prop
  | .configure _ _ (.creating _ _ _ args pc) => args.roleName = none ∧ pc.detects
  | .configure .. => True
  | _ => False

theorem triple_existingOrNew_detects {args : CreateArgs} (hrole : args.roleName = none) (enabled : Bool) :
    Triple (fun _ => True) (existingOrNew args enabled) (fun pc _ => pc.detects) (fun _ => True) := by
  have hkeeps : Framed fun _ : World => True := fun _ _ _ _ _ _ h => h
  refine Triple.bind (keeps_getByAccountId _ _) fun found => ?_
  cases found with
  | none =>
    refine Triple.bind (keeps_utc hkeeps) fun createdAt => Triple.bind (keeps_uuid4 hkeeps) fun id => ?_
    refine Triple.pure _ fun w _ => ?_
    rw [hrole]
    rfl
  | some existing =>
    refine Triple.bind (keeps_createdAgain (keeps_utc hkeeps) existing) fun created => Triple.pure _ fun w _ => ?_
    unfold updateExisting
    rw [hrole]
    trivial

theorem awaits_outcome {α π : Type} {m : Service α} {raised : Err → π} {next : α → π} {w w' : World} {q : π}
    (h : awaits m raised next w = (q, w')) : (∃ a, q = next a) ∨ ∃ e, q = raised e := by
  unfold awaits at h
  rcases hr : exec m w with ⟨e | a, w₁⟩ <;> rw [hr] at h <;> cases h
  · exact .inr ⟨e, rfl⟩
  · exact .inl ⟨a, rfl⟩

theorem announced_detects (args : CreateArgs) (result : CloudAccount) : (announced args result).detects := by
  unfold announced
  split <;> trivial

theorem createStep_detects {args : CreateArgs} {w w' : World} {pc pc' : CreatePc} (hrole : args.roleName = none)
    (hpc : pc.detects) (h : createStep args w pc = some (pc', w')) : pc'.detects := by
  cases pc with
  | start =>
    rcases awaits_outcome (Option.some.inj h) with ⟨found, rfl⟩ | ⟨e, rfl⟩ <;> [skip; trivial]
    cases found with
    | none => trivial
    | some workspace =>
      dsimp only
      split <;> trivial
  | enabling workspace =>
    rcases awaits_outcome (Option.some.inj h) with ⟨enabled, rfl⟩ | ⟨e, rfl⟩ <;> trivial
  | loading enabled =>
    rcases awaits_cases (triple_existingOrNew_detects hrole enabled) trivial (Option.some.inj h) with
      ⟨pc, rfl, hpc'⟩ | ⟨e, rfl, -⟩
    · exact hpc'
    · trivial
  | naming existing newName newCreatedAt p =>
    obtain ⟨p', -, rfl | ⟨a, rfl⟩ | ⟨e, rfl⟩⟩ := updates_cases h
    · trivial
    · unfold nameChanged
      split <;> trivial
    · trivial
  | redeploying => exact hpc.elim
  | creating account =>
    rcases awaits_outcome (Option.some.inj h) with ⟨nextScan, rfl⟩ | ⟨e, rfl⟩
    · exact hpc
    · trivial
  | inserting account nextScan =>
    rcases awaits_outcome (Option.some.inj h) with ⟨a, rfl⟩ | ⟨e, rfl⟩ <;> trivial
  | refreshing account nextScan =>
    have h := Option.some.inj h
    split at h
    · cases h
      trivial
    · rcases awaits_outcome h with ⟨a, rfl⟩ | ⟨e, rfl⟩
      · exact announced_detects args a
      · trivial
  | publishing e =>
    rcases awaits_outcome (Option.some.inj h) with ⟨a, rfl⟩ | ⟨e, rfl⟩ <;> trivial
  | ended | raised e => cases h

theorem nextAccount_configures (account : CloudAccount) (calledFromEvent : Bool) (access : CloudAccess)
    (externalId : ExternalId) (rest : List (CloudAccountId × CloudAccountName)) :
    (AccountCall.configure account calledFromEvent (nextAccount account access externalId rest)).configures := by
  cases rest with
  | nil => trivial
  | cons x rest => exact ⟨rfl, trivial⟩

theorem checkConfigurable_configures (account : CloudAccount) (calledFromEvent : Bool) :
    (AccountCall.configure account calledFromEvent (checkConfigurable account)).configures := by
  unfold checkConfigurable
  split <;> [trivial; skip]
  split <;> trivial

theorem cannotAssume_configures (account : CloudAccount) (calledFromEvent : Bool) (reason : String) (now : DateTime) :
    (AccountCall.configure account calledFromEvent (cannotAssume account calledFromEvent reason now)).configures := by
  unfold cannotAssume
  dsimp only
  split <;> [trivial; skip]
  split <;> trivial

theorem AccountCall.step_configures {c c' : AccountCall} {aws : AwsAnswers} {w w' : World} (hc : c.configures)
    (h : c.step aws w = some (c', w')) : c'.configures := by
  cases c with
  | configure account calledFromEvent pc =>
    obtain ⟨⟨pc', w₁⟩, hstep, hc'⟩ := Option.map_eq_some_iff.1 h
    cases hc'
    cases pc with
    | start =>
      cases hstep
      exact checkConfigurable_configures account calledFromEvent
    | assuming externalId roleName =>
      simp only [configureStep] at hstep
      split at hstep
      · rcases awaits_outcome (Option.some.inj hstep) with ⟨now, rfl⟩ | ⟨e, rfl⟩
        · exact cannotAssume_configures account calledFromEvent _ now
        · trivial
      · cases hstep
        trivial
    | degrading pc =>
      obtain ⟨⟨pc₁, w₂⟩, -, hpc'⟩ := Option.map_eq_some_iff.1 hstep
      cases pc₁ <;> cases hpc' <;> trivial
    | describing access externalId =>
      simp only [configureStep] at hstep
      split at hstep <;> cases hstep <;> trivial
    | listing access externalId =>
      simp only [configureStep] at hstep
      split at hstep <;> cases hstep
      · trivial
      · exact nextAccount_configures _ _ _ _ _
    | creating access externalId rest args pc =>
      obtain ⟨⟨pc₁, w₂⟩, hcreate, hpc'⟩ := Option.map_eq_some_iff.1 hstep
      have hdetects := createStep_detects hc.1 hc.2 hcreate
      cases pc₁ <;> cases hpc'
      case ended.refl => exact nextAccount_configures _ _ _ _ _
      case raised.refl => trivial
      all_goals exact ⟨hc.1, hdetects⟩
    | aliasing access =>
      simp only [configureStep] at hstep
      split at hstep <;> cases hstep <;> trivial
    | naming access name p =>
      obtain ⟨p', -, rfl | ⟨a, rfl⟩ | ⟨e, rfl⟩⟩ := updates_cases hstep <;> trivial
    | finishing access privileged p =>
      obtain ⟨p', -, rfl | ⟨a, rfl⟩ | ⟨e, rfl⟩⟩ := updates_cases hstep
      · trivial
      · trivial
      · cases e <;> trivial
    | publishing updated =>
      rcases awaits_outcome (Option.some.inj hstep) with ⟨a, rfl⟩ | ⟨e, rfl⟩ <;> trivial
    | ended | raised => cases hstep
  | _ => exact hc.elim

theorem AccountCall.writes_of_configures {c : AccountCall} (hc : c.configures) :
    (∀ u, c.inProgress = some u → u.kind = .named ∨ u.kind = .degraded ∨ u.kind = .configured) ∧
      ∀ a, c.inserts = some a → a.state = .detected := by
  cases c with
  | configure account calledFromEvent pc =>
    cases pc with
    | creating access externalId rest args pc =>
      refine ⟨fun u hu => ?_, fun a ha => ?_⟩
      · cases pc <;> cases hu
        · exact .inl rfl
        · exact hc.2.elim
      · cases pc <;> cases ha
        exact hc.2
    | degrading pc =>
      refine ⟨fun u hu => ?_, fun a ha => (by cases ha)⟩
      cases pc <;> cases hu
      exact .inr (.inl rfl)
    | naming access name p =>
      refine ⟨fun u hu => ?_, fun a ha => (by cases ha)⟩
      cases hu
      exact .inl rfl
    | finishing access privileged p =>
      refine ⟨fun u hu => ?_, fun a ha => (by cases ha)⟩
      cases hu
      exact .inr (.inr rfl)
    | _ => exact ⟨fun u hu => (by cases hu), fun a ha => (by cases ha)⟩
  | _ => exact hc.elim

theorem Step.enabled {k : StepKind} {s s' : CloudAccountState} (h : Step k s s')
    (hk : k = .named ∨ k = .degraded ∨ k = .configured) (hs : s'.enabled = true) : s.enabled = true := by
  cases h with
  | named | notDegraded | degraded | configured => exact hs
  | discovered | undegraded | switchedOff | notUndegraded | enabledConfigured | enabledDegraded | scanConfigured
  | scanDegraded | disabled | deleted => rcases hk with hk | hk | hk <;> cases hk

theorem World.length_enabledIds (w : World) (workspaceId : WorkspaceId) :
    (w.enabledIds workspaceId).length = w.accounts.count (enabledRow workspaceId) := by
  unfold World.enabledIds Table.count
  rw [List.length_map, List.countP_eq_length_filter]

theorem readyCount_le_enabled (w : World) (workspaceId : WorkspaceId) :
    w.readyCount workspaceId ≤ (w.enabledIds workspaceId).length := by
  rw [World.length_enabledIds]
  refine List.countP_mono_left fun r _ hready => ?_
  unfold ready at hready
  unfold enabledRow
  rw [Bool.and_eq_true, Bool.and_eq_true, decide_eq_true_eq, decide_eq_true_eq] at hready
  obtain ⟨⟨htenant, hname⟩, henabled⟩ := hready
  rw [htenant, hname, henabled, decide_eq_true rfl]
  rfl

section Configuring

variable {ι : Type} {workspaceId : WorkspaceId} {limit : Nat}

structure FewEnabled (workspaceId : WorkspaceId) (limit : Nat) (s : AccountCalls ι) : Prop where
  count : s.world.accounts.count (enabledRow workspaceId) ≤ limit
  configures : ∀ i, (s.call i).configures
  fits : ∀ i u, (s.call i).inProgress = some u → u.Fits s.world

theorem count_enabled_commit {u : Updating} {w w' : World} (h : Commits u w w') (hwithin : Within u.kind u.f)
    (hk : u.kind = .named ∨ u.kind = .degraded ∨ u.kind = .configured) :
    w'.accounts.count (enabledRow workspaceId) ≤ w.accounts.count (enabledRow workspaceId) := by
  obtain ⟨row, prepared, nextScan, a, now, updated, t, -, hfind, hmodel, hf, rfl⟩ := h
  have hchange := hwithin now a updated hf
  obtain ⟨hstate, -, htenant, -⟩ := AccountRow.toModel_ok hmodel
  have hkey : (row.written updated t).id = row.id := AccountRow.written_id row updated t
  have hfound : w.accounts.find (row.written updated t).id = some row := by
    rw [hkey, Table.key_of_find hfind]
    exact hfind
  have hreplace := Table.count_replace (enabledRow workspaceId) hfound
  have hle : (enabledRow workspaceId (row.written updated t)).toNat ≤ (enabledRow workspaceId row).toNat := by
    cases hnew : enabledRow workspaceId (row.written updated t) with
    | false => exact Nat.zero_le _
    | true =>
      have henabled : updated.state.enabled = true := by
        unfold enabledRow at hnew
        rw [AccountRow.written_enabled, Bool.and_eq_true, Bool.and_eq_true] at hnew
        exact hnew.2.1
      have htenant' : updated.workspaceId = workspaceId := (enabledRow_tenant hnew).1
      rw [enabledRow_of_accountState workspaceId hstate, ← htenant, ← hchange.workspaceId, htenant', decide_eq_true rfl,
        hchange.step.enabled hk henabled]
      exact Nat.le_refl _
  change (w.accounts.replace _).count _ ≤ _
  omega

theorem count_enabled_insert {w : World} {a : CloudAccount} (hnone : w.accounts.find (AccountRow.ofModel a).id = none)
    (hdetected : a.state = .detected) : (w.insert (.ofModel a) hnone).accounts.count (enabledRow workspaceId) =
      w.accounts.count (enabledRow workspaceId) := by
  have hnew : enabledRow workspaceId (.ofModel a) = false := by
    unfold enabledRow
    rw [AccountRow.ofModel_enabled, hdetected]
    exact Bool.and_false _
  unfold World.insert
  rw [Table.count_insert, hnew]
  rfl

variable [DecidableEq ι]

theorem FewEnabled.step {s s' : AccountCalls ι} {act : CallAct ι} (hs : FewEnabled workspaceId limit s)
    (h : s.step act = some s') : FewEnabled workspaceId limit s' := by
  cases act with
  | other w =>
    cases h
    exact ⟨hs.count, hs.configures, fun i u hu => (hs.fits i u hu).evolves (Evolves.of_accounts rfl)⟩
  | step i aws =>
    obtain ⟨⟨c', w'⟩, hstep, rfl⟩ := Option.map_eq_some_iff.1 h
    obtain ⟨hfits, hevolves, -⟩ := AccountCall.step_rows hstep (hs.fits i)
    obtain ⟨hkinds, hinserts⟩ := AccountCall.writes_of_configures (hs.configures i)
    have hcount : w'.accounts.count (enabledRow workspaceId) ≤ limit := by
      rcases AccountCall.step_moves hstep with ⟨u, p', hu, hupdate, -⟩ | ⟨haccounts, -⟩ | ⟨a, hnone, ha, hw', -⟩
      · rcases (updateStep_fits (hs.fits i u hu) hupdate).1 with haccounts | hcommits
        · rw [haccounts]
          exact hs.count
        · exact (count_enabled_commit hcommits (AccountCall.inProgress_within hu) (hkinds u hu)).trans hs.count
      · rw [haccounts]
        exact hs.count
      · rw [hw', count_enabled_insert hnone (hinserts a ha)]
        exact hs.count
    have hcall : ∀ j, j = i ∧ Function.update s.call i c' j = c' ∨ Function.update s.call i c' j = s.call j := by
      intro j
      by_cases hj : j = i
      · exact .inl ⟨hj, by rw [hj, Function.update_self]⟩
      · exact .inr (Function.update_of_ne hj _ _)
    refine ⟨hcount, fun j => ?_, fun j u hu => ?_⟩
    · dsimp only
      rcases hcall j with ⟨-, hc⟩ | hc <;> rw [hc]
      · exact AccountCall.step_configures (hs.configures i) hstep
      · exact hs.configures j
    · dsimp only at hu ⊢
      rcases hcall j with ⟨-, hc⟩ | hc <;> rw [hc] at hu
      · exact hfits u hu
      · exact (hs.fits j u hu).evolves hevolves

theorem runConfigures_readyCount {w : World} (hcount : (w.enabledIds workspaceId).length ≤ limit)
    {calls : ι → AccountCall}
    (hcalls : ∀ i, ∃ account calledFromEvent, calls i = .configure account calledFromEvent .start)
    {acts : List (CallAct ι)} {s : AccountCalls ι}
    (hrun : run AccountCalls.step ⟨w, calls, fun _ => none⟩ acts = some s) :
    s.world.readyCount workspaceId ≤ limit := by
  have hstart : FewEnabled workspaceId limit ⟨w, calls, fun _ => none⟩ := by
    refine ⟨w.length_enabledIds workspaceId ▸ hcount, fun i => ?_, fun i u hu => ?_⟩
    · obtain ⟨account, calledFromEvent, hi⟩ := hcalls i
      dsimp only
      rw [hi]
      trivial
    · obtain ⟨account, calledFromEvent, hi⟩ := hcalls i
      dsimp only at hu
      rw [hi] at hu
      cases hu
  have hs := run_keeps (fun _ _ _ hs h => hs.step h) hstart hrun
  exact (readyCount_le_enabled s.world workspaceId).trans (s.world.length_enabledIds workspaceId ▸ hs.count)

end Configuring

/-- **Disabling disables** exactly when every account that is to be disabled can be: then no more accounts than are kept
are enabled, and no more than that are configured and enabled however `configure_account` goes on. -/
theorem disableCloudAccounts_disables_iff {ι : Type} [DecidableEq ι] {w w' : World} {workspaceId : WorkspaceId}
    {keepEnabled : Nat} (hu : w.Unique) (hk : 1 ≤ keepEnabled)
    (hstates : w.Stated workspaceId)
    (h : exec (disableCloudAccounts workspaceId keepEnabled) w = (.ok ⟨⟩, w')) :
    ((w'.enabledIds workspaceId).length ≤ keepEnabled ∧
      ∀ (calls : ι → AccountCall) (acts : List (CallAct ι)) (s : AccountCalls ι),
        (∀ i, ∃ account calledFromEvent, calls i = .configure account calledFromEvent .start) →
        run AccountCalls.step ⟨w', calls, fun _ => none⟩ acts = some s → s.world.readyCount workspaceId ≤ keepEnabled) ↔
      ∀ id ∈ withoutLast keepEnabled (w.enabledIds workspaceId), w.switchable workspaceId id = true := by
  have hlength := length_filter_withoutLast hk (w.enabledIds_nodup workspaceId) (w.switchable workspaceId)
  rw [← enabledIds_disabled hu hstates h] at hlength
  rw [← hlength]
  refine ⟨fun hproperty => hproperty.1, fun hcount => ⟨hcount, fun calls acts s hcalls hrun => ?_⟩⟩
  exact runConfigures_readyCount hcount hcalls hrun

/-- A workspace with a configured, a degraded and a discovered account, all enabled. -/
def mixedWorld : World :=
  { freeWorld with
    accounts :=
      ⟨[.ofModel
        (newAccount 11 "222222222222" 1 .aws (.configured (.aws 2 "role") true true) none waitingAccount.createdAt),
        .ofModel (newAccount 12 "333333333333" 1 .aws (.degraded (.aws 2 "role") true true "Cannot assume role") none
          waitingAccount.createdAt), unnamedRow], by decide⟩ }

def mixedDisabled : World := (exec (disableCloudAccounts 1 1) mixedWorld).2

theorem mixedDisabled_returned : exec (disableCloudAccounts 1 1) mixedWorld = (.ok ⟨⟩, mixedDisabled) := by
  have hok : (exec (disableCloudAccounts 1 1) mixedWorld).1 = .ok ⟨⟩ := by decide +kernel
  unfold mixedDisabled
  rw [← hok]

theorem disableCloudAccounts_disables_iff_mixed :
    ((mixedDisabled.enabledIds 1).length ≤ 1 ∧
      ∀ (calls : Fin 1 → AccountCall) (acts : List (CallAct (Fin 1))) (s : AccountCalls (Fin 1)),
        (∀ i, ∃ account calledFromEvent, calls i = .configure account calledFromEvent .start) →
        run AccountCalls.step ⟨mixedDisabled, calls, fun _ => none⟩ acts = some s → s.world.readyCount 1 ≤ 1) ↔
      ∀ id ∈ withoutLast 1 (mixedWorld.enabledIds 1), mixedWorld.switchable 1 id = true :=
  disableCloudAccounts_disables_iff (by unfold World.Unique; decide) (by decide) (by unfold World.Stated; decide)
    mixedDisabled_returned

/-- The workspace has a discovered account, and a configured one that is kept. -/
def discoveredWorld : World :=
  { freeWorld with
    accounts := ⟨[unnamedRow, .ofModel (newAccount 11 "222222222222" 1 .aws (.configured (.aws 2 "role") true true) none
      waitingAccount.createdAt)], by decide⟩ }

def discoveredDisabled : World := (exec (disableCloudAccounts 1 1) discoveredWorld).2

theorem discoveredDisabled_returned : exec (disableCloudAccounts 1 1) discoveredWorld =
    (.ok ⟨⟩, discoveredDisabled) := by
  have hok : (exec (disableCloudAccounts 1 1) discoveredWorld).1 = .ok ⟨⟩ := by decide +kernel
  unfold discoveredDisabled
  rw [← hok]

def configuringCall (_ : Fin 1) : AccountCall := .configure waitingAccount true .start

def discoveredConfigured : AccountCalls (Fin 1) :=
  (run AccountCalls.step ⟨discoveredDisabled, configuringCall, fun _ => none⟩ (List.replicate 9 (.step 0 assumed))).get
    (by decide +kernel)

/-- Both accounts stay enabled, and both are collected once `configure_account` has run. -/
theorem discovered_stays_enabled :
    exec (disableCloudAccounts 1 1) discoveredWorld = (.ok ⟨⟩, discoveredDisabled) ∧
      (discoveredDisabled.enabledIds 1).length = 2 ∧
      run AccountCalls.step ⟨discoveredDisabled, configuringCall, fun _ => none⟩ (List.replicate 9 (.step 0 assumed)) =
        some discoveredConfigured ∧ discoveredConfigured.world.readyCount 1 = 2 :=
  ⟨discoveredDisabled_returned, by decide +kernel, (Option.some_get _).symm, by decide +kernel⟩

end Fix
