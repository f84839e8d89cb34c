import FixBackend.AccountSpecs
import FixBackend.AccountUpdate
/-!
# AccountStandings — what a call leaves of each account

The standing of an account is the state that is read from its row and its count of failed scans.  A call that gets its
updates through leaves the identity of every account as it was (`Alike`), so the standings of the accounts are all that
it changes of them.
-/
namespace Fix

open Calendar Effects

abbrev Standing := Except Err CloudAccountState × Nat

def AccountRow.standing (r : AccountRow) : Standing := (r.accountState, r.failedScanCount)

def World.standing (w : World) (id : FixCloudAccountId) : Option Standing := (w.accounts.find id).map (·.standing)

def AccountRow.identity (r : AccountRow) : FixCloudAccountId × WorkspaceId × CloudAccountId × CloudName :=
  (r.id, r.tenantId, r.accountId, r.cloud)

/-- The same accounts and the same surroundings. -/
structure World.Alike (w w' : World) : Prop where
  accounts : w'.accounts.rows.map AccountRow.identity = w.accounts.rows.map AccountRow.identity
  organizations : w'.organizations = w.organizations
  nextRuns : w'.nextRuns = w.nextRuns
  clock : w'.clock = w.clock
  accountFailedResourceCount : w'.accountFailedResourceCount = w.accountFailedResourceCount

/-- No two rows have the same tenant and account id, as the constraint of the table says. -/
def World.Unique (w : World) : Prop := ∀ r ∈ w.accounts.rows, w.taken r = false

namespace World

variable {w w' w'' : World}

theorem Alike.refl (w : World) : w.Alike w := ⟨rfl, rfl, rfl, rfl, rfl⟩

theorem Alike.trans (h : w.Alike w') (h' : w'.Alike w'') : w.Alike w'' :=
  ⟨h'.accounts.trans h.accounts, h'.organizations.trans h.organizations, h'.nextRuns.trans h.nextRuns,
    h'.clock.trans h.clock, h'.accountFailedResourceCount.trans h.accountFailedResourceCount⟩

theorem taken_eq_of_identity {r r' : AccountRow} (h : w.Alike w') (hr : r'.identity = r.identity) :
    w'.taken r' = w.taken r := by
  have hany : ∀ rows : List AccountRow, (rows.any fun x =>
      decide (x.id ≠ r.id ∧ x.tenantId = r.tenantId ∧ x.accountId = r.accountId)) =
      (rows.map AccountRow.identity).any fun x =>
        decide (x.1 ≠ r.id ∧ x.2.1 = r.tenantId ∧ x.2.2.1 = r.accountId) := by
    intro rows
    rw [List.any_map]
    rfl
  simp only [AccountRow.identity, Prod.mk.injEq] at hr
  obtain ⟨hid, htenant, haccount, -⟩ := hr
  unfold taken
  rw [hid, htenant, haccount, hany, hany, h.accounts]

theorem Unique.of_alike (hu : w.Unique) (h : w.Alike w') : w'.Unique := by
  intro r' hr'
  have hmem : r'.identity ∈ w.accounts.rows.map AccountRow.identity := h.accounts ▸ List.mem_map_of_mem hr'
  obtain ⟨r, hr, hidentity⟩ := List.mem_map.1 hmem
  rw [taken_eq_of_identity h hidentity.symm]
  exact hu r hr

theorem not_refused_of_identity {r r' : AccountRow} (hu : w.Unique) (hmem : r ∈ w.accounts.rows)
    (hidentity : r'.identity = r.identity) (hfits : r'.unfit (some r) = false) : w.refusal (some r) r' = none := by
  have htaken : w.taken r' = false := (taken_eq_of_identity (Alike.refl w) hidentity).trans (hu r hmem)
  have htenant : r'.tenantId = r.tenantId := congrArg (·.2.1) hidentity
  have hkept : w.orphaned (some r) r' = false :=
    decide_eq_false fun h => h.1 (congrArg some htenant.symm)
  unfold refusal
  rw [hfits, htaken, hkept]
  rfl

theorem Alike.of_accounts (haccounts : w'.accounts = w.accounts) (horganizations : w'.organizations = w.organizations)
    (hnextRuns : w'.nextRuns = w.nextRuns) (hclock : w'.clock = w.clock)
    (hcount : w'.accountFailedResourceCount = w.accountFailedResourceCount) : w.Alike w' :=
  ⟨by rw [haccounts], horganizations, hnextRuns, hclock, hcount⟩

theorem Alike.commit {stored row : AccountRow} (hfind : w.accounts.find stored.id = some stored)
    (hidentity : row.identity = stored.identity) : w.Alike (w.commit stored row) := by
  refine ⟨?_, rfl, rfl, rfl, rfl⟩
  have hid : row.id = stored.id := congrArg (·.1) hidentity
  change (w.accounts.rows.map fun x => if x.id = row.id then row else x).map AccountRow.identity = _
  rw [List.map_map]
  refine List.map_congr_left fun x hx => ?_
  rw [Function.comp_apply]
  by_cases hxid : x.id = row.id
  · have hstored : x = stored := by
      have hfindx := (Table.find_eq_some_iff w.accounts x.id x).2 ⟨hx, rfl⟩
      rw [hxid, hid, hfind] at hfindx
      exact (Option.some.inj hfindx).symm
    rw [if_pos hxid, hstored, hidentity]
  · rw [if_neg hxid]

end World

/-! ## An update -/

theorem AccountRow.toModel_written {r : AccountRow} {a : CloudAccount}
    (h : ∀ access, a.state.cloudAccess = some access → access.cloud = a.cloud) (updatedAt : DateTime)
    (nextScan : Option DateTime) : (r.written a updatedAt).toModel nextScan =
      .ok { a with id := r.id, nextScan := nextScan, updatedAt := updatedAt } := by
  have hstate : (r.written a updatedAt).accountState = .ok a.state :=
    accountState_updateStateDependentFields _ a.state h
  unfold toModel
  rw [hstate]
  rfl

theorem AccountRow.toModel_failedScanCount {r : AccountRow} {nextScan : Option DateTime} {a : CloudAccount}
    (h : r.toModel nextScan = .ok a) : a.failedScanCount = r.failedScanCount := by
  unfold toModel at h
  split at h
  · cases h
  · cases h
    rfl

theorem AccountRow.exists_toModel {r : AccountRow} {state : CloudAccountState} (h : r.accountState = .ok state)
    (nextScan : Option DateTime) : ∃ a, r.toModel nextScan = .ok a ∧ a.state = state := by
  unfold toModel
  rw [h]
  exact ⟨_, rfl, rfl⟩

theorem AccountRow.toModel_error {r : AccountRow} {e : Err} (h : r.accountState = .error e)
    (nextScan : Option DateTime) : r.toModel nextScan = .error e := by
  unfold toModel
  rw [h]

theorem AccountRow.toModel_nextScan {r : AccountRow} {nextScan nextScan' : Option DateTime} {a : CloudAccount}
    (h : r.toModel nextScan = .ok a) : r.toModel nextScan' = .ok { a with nextScan := nextScan' } := by
  unfold toModel at *
  cases hstate : r.accountState with
  | error e =>
    rw [hstate] at h
    cases h
  | ok state =>
    rw [hstate] at h
    cases h
    rfl

theorem AccountRow.nextScan_of_toModel {r : AccountRow} {nextScan : Option DateTime} {a : CloudAccount}
    (h : r.toModel nextScan = .ok a) : a.nextScan = nextScan := by
  unfold toModel at h
  split at h
  · cases h
  · cases h
    rfl

theorem World.find_tick (w : World) (id : FixCloudAccountId) : w.tick.accounts.find id = w.accounts.find id := rfl

namespace CloudAccountRepository

variable {id : FixCloudAccountId} {f : DateTime → CloudAccount → Except Err CloudAccount} {w : World}

theorem exec_update_missing (h : w.accounts.find id = none) :
    exec (update id f) w = (.error (.resourceNotFound s!"Cloud account {id} not found"), w) := by
  unfold update updateWith
  rw [exec_bind, exec_bind, exec_get]
  dsimp only
  rw [h]
  rfl

theorem exec_update_unreadable {r : AccountRow} {e : Err} (h : w.accounts.find id = some r)
    (hr : r.toModel none = .error e) : exec (update id f) w = (.error e, w) := by
  unfold update updateWith
  rw [exec_bind, exec_bind, exec_get]
  dsimp only
  rw [h]
  dsimp only
  rw [exec_bind, exec_lift, hr]

theorem exec_update {r : AccountRow} {a : CloudAccount} (h : w.accounts.find id = some r)
    (hr : r.toModel none = .ok a) :
    exec (update id f) w = match f w.now a with
      | .error e => (.error e, w.tick)
      | .ok updated =>
        if a = updated then (.ok updated, w.tick)
        else
          let row := r.written updated w.tick.now
          match w.refusal (some r) row with
          | some e => (.error e, w.tick.tick)
          | none => (row.toModel ((w.nextRuns.find updated.workspaceId).map (·.time)), w.tick.tick.commit r row) := by
  unfold update updateWith
  rw [exec_bind, exec_bind, exec_get]
  dsimp only
  rw [h]
  dsimp only
  rw [exec_bind, exec_lift, hr]
  dsimp only
  rw [exec_bind, exec_utc]
  dsimp only
  rw [exec_bind, exec_lift]
  cases hf : f w.now a with
  | error e => rfl
  | ok updated =>
    simp only [Functor.map, Except.map]
    by_cases hsame : a = updated
    · rw [if_pos hsame, if_pos hsame]
      rfl
    · rw [if_neg hsame, if_neg hsame, exec_bind, exec_getNextScan, World.tick_nextRuns]
      dsimp only
      rw [exec_bind, exec_utc]
      dsimp only
      rw [exec_bind, commitAccount, exec_bind, exec_get]
      dsimp only
      have hrefusal : w.tick.tick.refusal (some r) (r.written updated w.tick.now) =
        w.refusal (some r) (r.written updated w.tick.now) := rfl
      rw [hrefusal]
      cases w.refusal (some r) (r.written updated w.tick.now) with
      | some e => rfl
      | none =>
        dsimp only
        rw [exec_set]
        dsimp only
        rw [exec_bind, exec_lift]
        cases (r.written updated w.tick.now).toModel _ <;> rfl

section Update

variable {r : AccountRow} {a updated : CloudAccount} (hfind : w.accounts.find id = some r)
  (hread : r.toModel none = .ok a)
include hfind hread

theorem exec_update_written (hf : f w.now a = .ok updated) (hne : a ≠ updated)
    (hrefusal : w.refusal (some r) (r.written updated w.tick.now) = none) :
    exec (update id f) w =
      ((r.written updated w.tick.now).toModel ((w.nextRuns.find updated.workspaceId).map (·.time)),
        w.tick.tick.commit r (r.written updated w.tick.now)) := by
  rw [exec_update hfind hread, hf]
  dsimp only
  rw [if_neg hne, hrefusal]

theorem exec_update_refused {e : Err} (hf : f w.now a = .ok updated) (hne : a ≠ updated)
    (hrefusal : w.refusal (some r) (r.written updated w.tick.now) = some e) :
    exec (update id f) w = (.error e, w.tick.tick) := by
  rw [exec_update hfind hread, hf]
  dsimp only
  rw [if_neg hne, hrefusal]

theorem exec_update_unchanged (hf : f w.now a = .ok a) : exec (update id f) w = (.ok a, w.tick) := by
  rw [exec_update hfind hread, hf]
  dsimp only
  rw [if_pos rfl]

end Update

/-- The change of an account that its row can store: its identity stays, its access is one of its cloud, and its texts
fit. -/
structure Storable (r : AccountRow) (a updated : CloudAccount) : Prop where
  id : updated.id = a.id
  workspaceId : updated.workspaceId = a.workspaceId
  accountId : updated.accountId = a.accountId
  cloud : updated.cloud = a.cloud
  access : ∀ access, updated.state.cloudAccess = some access → access.cloud = a.cloud
  fits : ∀ t, (r.written updated t).unfit (some r) = false

namespace Storable

variable {r : AccountRow} {a updated : CloudAccount}

theorem written_identity (hs : Storable r a updated) (hr : r.toModel none = .ok a) (t : DateTime) :
    (r.written updated t).identity = r.identity := by
  obtain ⟨-, -, hworkspace, hcloud, haccount⟩ := AccountRow.toModel_ok hr
  change (r.id, updated.workspaceId, updated.accountId, updated.cloud) = _
  rw [hs.workspaceId, hs.accountId, hs.cloud, hworkspace, haccount, hcloud]
  rfl

theorem not_refused (hs : Storable r a updated) (hu : w.Unique) (hmem : r ∈ w.accounts.rows)
    (hr : r.toModel none = .ok a) (t : DateTime) : w.refusal (some r) (r.written updated t) = none :=
  World.not_refused_of_identity hu hmem (hs.written_identity hr t) (hs.fits t)

end Storable

/-- What an update that gets through leaves. -/
structure Updated (id : FixCloudAccountId) (updated : CloudAccount) (w w' : World) : Prop where
  alike : w.Alike w'
  standing : w'.standing id = some (.ok updated.state, updated.failedScanCount)
  others : ∀ x, x ≠ id → w'.accounts.find x = w.accounts.find x
  published : w'.published = w.published

/-- **An update of a readable account gets through** when its closure returns, as long as no two rows have the same
identity. -/
theorem update_ok {r : AccountRow} {a updated : CloudAccount} (hu : w.Unique) (h : w.accounts.find id = some r)
    (hr : r.toModel none = .ok a) (hf : f w.now a = .ok updated) (hs : Storable r a updated) :
    ∃ nextScan updatedAt w', exec (update id f) w =
      (.ok { updated with nextScan := nextScan, updatedAt := updatedAt }, w') ∧ Updated id updated w w' := by
  obtain ⟨hstate, hid, -⟩ := AccountRow.toModel_ok hr
  have hkey : r.id = id := Table.key_of_find h
  by_cases hsame : a = updated
  · subst hsame
    rw [exec_update_unchanged h hr hf]
    refine ⟨a.nextScan, a.updatedAt, w.tick, rfl, World.Alike.of_accounts rfl rfl rfl rfl rfl, ?_, fun _ _ => rfl, rfl⟩
    unfold World.standing
    rw [World.find_tick, h, AccountRow.toModel_failedScanCount hr]
    exact congrArg some (Prod.ext hstate rfl)
  · have hidentity := hs.written_identity hr w.tick.now
    have hrefusal := hs.not_refused hu (Table.mem_of_find h) hr w.tick.now
    have haccess : ∀ access, updated.state.cloudAccess = some access → access.cloud = updated.cloud := by
      rw [hs.cloud]
      exact hs.access
    have hread := AccountRow.toModel_written haccess w.tick.now ((w.nextRuns.find updated.workspaceId).map (·.time))
      (r := r)
    refine ⟨(w.nextRuns.find updated.workspaceId).map (·.time), w.tick.now,
      w.tick.tick.commit r (r.written updated w.tick.now), ?_, ?_, ?_, fun x hx => ?_, rfl⟩
    · rw [exec_update_written h hr hf hsame hrefusal, hread, ← hid, ← hs.id]
    · have hcommit : w.tick.tick.Alike (w.tick.tick.commit r (r.written updated w.tick.now)) :=
        World.Alike.commit (hkey ▸ h) hidentity
      exact (World.Alike.of_accounts rfl rfl rfl rfl rfl : w.Alike w.tick.tick).trans hcommit
    · have hfound : (w.tick.tick.commit r (r.written updated w.tick.now)).accounts.find id =
          some (r.written updated w.tick.now) := World.find_commit (w := w.tick.tick) h hkey
      have hstate' := (AccountRow.toModel_ok hread).1
      unfold World.standing
      rw [hfound]
      exact congrArg some (Prod.ext hstate' rfl)
    · exact Table.find_replace_of_ne _ (by rw [AccountRow.written_id, hkey]; exact hx)

theorem exec_get_stored {r : AccountRow} (h : w.accounts.find id = some r) :
    exec (get id) w = ((r.toModel ((w.nextRuns.find r.tenantId).map (·.time))).map some, w) := by
  unfold get
  rw [exec_bind, exec_get]
  dsimp only
  rw [h]
  dsimp only
  rw [exec_bind, exec_getNextScan]
  dsimp only
  rw [map_eq_pure_bind, exec_bind, exec_lift]
  cases r.toModel _ <;> rfl

end CloudAccountRepository

/-! ## Degrading and back -/

theorem AccountRow.accountState_cloud {r : AccountRow} {state : CloudAccountState} {access : CloudAccess}
    (h : r.accountState = .ok state) (ha : state.cloudAccess = some access) : access.cloud = r.cloud :=
  access_cloud (accountState_access h ha)

namespace CloudAccountState

def degradedBy (error : String) (s : CloudAccountState) : CloudAccountState :=
  if s.stateName = .degraded then s
  else
    match s.cloudAccess with
    | some access => .degraded access s.enabled s.scan error
    | none => s

def restored : CloudAccountState → CloudAccountState
  | degraded access enabled scan _ => configured access enabled scan
  | s => s

end CloudAccountState

/-- The announcement that the account is degraded. -/
def DomainEvent.degrades (id : FixCloudAccountId) : DomainEvent → Bool
  | .cloudAccountDegraded _ cloudAccountId .. => decide (cloudAccountId = id)
  | _ => false

/-- What a call leaves that changes one account. -/
structure ChangesOne (id : FixCloudAccountId) (standing : Standing) (w w' : World) : Prop where
  alike : w.Alike w'
  standing : w'.standing id = some standing
  others : ∀ x, x ≠ id → w'.accounts.find x = w.accounts.find x

theorem ChangesOne.trans {id : FixCloudAccountId} {standing standing' : Standing} {w w' w'' : World}
    (h : ChangesOne id standing w w') (h' : ChangesOne id standing' w' w'') : ChangesOne id standing' w w'' :=
  ⟨h.alike.trans h'.alike, h'.standing, fun x hx => (h'.others x hx).trans (h.others x hx)⟩

theorem ChangesOne.of_standing {id : FixCloudAccountId} {standing : Standing} {w : World}
    (h : w.standing id = some standing) : ChangesOne id standing w w := ⟨World.Alike.refl w, h, fun _ _ => rfl⟩

theorem ChangesOne.standing_of_ne {id x : FixCloudAccountId} {standing : Standing} {w w' : World}
    (h : ChangesOne id standing w w') (hx : x ≠ id) : w'.standing x = w.standing x :=
  congrArg (Option.map AccountRow.standing) (h.others x hx)

theorem World.standing_eq_some {w : World} {id : FixCloudAccountId} {state : CloudAccountState} {n : Nat}
    (h : w.standing id = some (.ok state, n)) :
    ∃ r, w.accounts.find id = some r ∧ r.accountState = .ok state ∧ r.failedScanCount = n := by
  unfold standing at h
  obtain ⟨r, hr, hstanding⟩ := Option.map_eq_some_iff.1 h
  unfold AccountRow.standing at hstanding
  rw [Prod.mk.injEq] at hstanding
  exact ⟨r, hr, hstanding.1, hstanding.2⟩

section Degrading

variable {w : World} {id : FixCloudAccountId} {state : CloudAccountState} {n : Nat}

/-- **Degrading an account**: unless it is degraded already, its degradation is announced, with or without an access
that lets its state change. -/
theorem degradeAccount_ok (hu : w.Unique) (h : w.standing id = some (.ok state, n)) (error : String)
    (herror : Column.error.Takes error) (reason : DegradationReason) :
    ∃ a w', exec (degradeAccount id error reason) w = (.ok a, w') ∧
      ChangesOne id (.ok (state.degradedBy error), n) w w' ∧
      ∀ x, w'.published.countP (·.degrades x) =
        w.published.countP (·.degrades x) + if x = id ∧ state.stateName ≠ .degraded then 1 else 0 := by
  obtain ⟨r, hfind, hstate, hcount⟩ := World.standing_eq_some h
  obtain ⟨read, hread, hreadState⟩ := AccountRow.exists_toModel hstate ((w.nextRuns.find r.tenantId).map (·.time))
  unfold degradeAccount CloudAccountState.degradedBy
  rw [exec_bind, CloudAccountRepository.exec_get_stored hfind, hread]
  dsimp only [Except.map]
  by_cases hdegraded : state.stateName = .degraded
  · rw [if_pos (hreadState ▸ hdegraded), if_pos hdegraded]
    refine ⟨_, _, rfl, ChangesOne.of_standing h, fun x => ?_⟩
    rw [if_neg (fun hx => hx.2 hdegraded), Nat.add_zero]
  · rw [if_neg (hreadState ▸ hdegraded), if_neg hdegraded]
    obtain ⟨a, ha, hastate⟩ := AccountRow.exists_toModel hstate none
    obtain ⟨-, haid, haworkspace, hacloud, haaccount⟩ := AccountRow.toModel_ok ha
    have hacount : a.failedScanCount = n := (AccountRow.toModel_failedScanCount ha).trans hcount
    -- the closure changes the state alone of what the standing shows
    have hclosure : ∃ updated, setDegraded error w.now a = .ok updated ∧ CloudAccountRepository.Storable r a updated ∧
        updated.failedScanCount = n ∧ updated.state = match state.cloudAccess with
          | some access => .degraded access state.enabled state.scan error
          | none => state := by
      unfold setDegraded
      rw [hastate]
      cases haccess : state.cloudAccess with
      | none =>
        refine ⟨a, rfl, ⟨rfl, rfl, rfl, rfl, fun access hx => ?_, ?_⟩, hacount, hastate⟩
        · rw [hastate, haccess] at hx
          cases hx
        · exact AccountRow.not_unfit_of_state ha rfl (fun _ hx => hx) fun _ he => .inl he
      | some access =>
        refine ⟨_, rfl, ⟨rfl, rfl, rfl, rfl, fun x hx => ?_, ?_⟩, hacount, rfl⟩
        · cases hx
          exact (AccountRow.accountState_cloud hstate haccess).trans hacloud.symm
        · refine AccountRow.not_unfit_of_state ha rfl (fun x hx => ?_) fun e he => .inr ?_
          · rw [hastate, haccess]
            exact hx
          · cases he
            exact herror
    obtain ⟨updated, hf, hstorable, hupdatedCount, hupdatedState⟩ := hclosure
    obtain ⟨nextScan, updatedAt, w', hexec, hupdated⟩ := CloudAccountRepository.update_ok hu hfind ha hf hstorable
    have hid : updated.id = id := hstorable.id.trans (haid.trans (Table.key_of_find hfind))
    rw [exec_bind, hexec]
    dsimp only
    rw [exec_bind, publish, exec_modify]
    refine ⟨_, _, rfl, ⟨?_, ?_, hupdated.others⟩, fun x => ?_⟩
    · exact hupdated.alike.trans (World.Alike.of_accounts rfl rfl rfl rfl rfl)
    · rw [← hupdatedState, ← hupdatedCount]
      exact hupdated.standing
    · dsimp only
      rw [List.countP_append, hupdated.published, List.countP_singleton]
      have hannounced : (DomainEvent.cloudAccountDegraded updated.cloud updated.id updated.workspaceId updated.accountId
          updated.finalName error (some reason)).degrades x = decide (x = id) := by
        unfold DomainEvent.degrades
        rw [hid]
        exact decide_eq_decide.2 eq_comm
      have hown : (x = id ∧ state.stateName ≠ .degraded) ↔ x = id := and_iff_left hdegraded
      simp only [hown]
      refine congrArg _ ?_
      refine (congrArg (fun b : Bool => if b then 1 else 0) hannounced).trans ?_
      simp only [decide_eq_true_eq]

/-- **The way back**: only a degraded state changes. -/
theorem undegradeAccount_ok (hu : w.Unique) (h : w.standing id = some (.ok state, n)) :
    ∃ a w', exec (undegradeAccount id) w = (.ok a, w') ∧ ChangesOne id (.ok state.restored, n) w w' ∧
      w'.published = w.published := by
  obtain ⟨r, hfind, hstate, hcount⟩ := World.standing_eq_some h
  obtain ⟨read, hread, hreadState⟩ := AccountRow.exists_toModel hstate ((w.nextRuns.find r.tenantId).map (·.time))
  unfold undegradeAccount
  rw [exec_bind, CloudAccountRepository.exec_get_stored hfind, hread]
  dsimp only [Except.map]
  by_cases hdegraded : state.stateName = .degraded
  · rw [if_neg (not_not.2 (hreadState ▸ hdegraded))]
    obtain ⟨a, ha, hastate⟩ := AccountRow.exists_toModel hstate none
    obtain ⟨-, -, -, hacloud, -⟩ := AccountRow.toModel_ok ha
    have hacount : a.failedScanCount = n := (AccountRow.toModel_failedScanCount ha).trans hcount
    cases state with
    | degraded access enabled scan error =>
      have hf : setConfigured w.now a =
          .ok { a with state := .configured access enabled scan, stateUpdatedAt := w.now } := by
        unfold setConfigured
        rw [hastate]
        rfl
      have hstorable : CloudAccountRepository.Storable r a
          { a with state := .configured access enabled scan, stateUpdatedAt := w.now } := by
        refine ⟨rfl, rfl, rfl, rfl, fun x hx => ?_, ?_⟩
        · cases hx
          exact (AccountRow.accountState_cloud hstate rfl).trans hacloud.symm
        · exact AccountRow.not_unfit_of_state ha rfl (fun x hx => hastate ▸ hx) nofun
      obtain ⟨nextScan, updatedAt, w', hexec, hupdated⟩ := CloudAccountRepository.update_ok hu hfind ha hf hstorable
      refine ⟨_, w', hexec, ⟨hupdated.alike, ?_, hupdated.others⟩, hupdated.published⟩
      rw [← hacount]
      exact hupdated.standing
    | detected | discovered | configured | deleted => cases hdegraded
  · rw [if_pos (hreadState ▸ hdegraded)]
    refine ⟨_, _, rfl, ?_, rfl⟩
    have hrests : state.restored = state := by
      cases state with
      | degraded => exact absurd rfl hdegraded
      | detected | discovered | configured | deleted => rfl
    rw [hrests]
    exact ChangesOne.of_standing h

end Degrading

end Fix
