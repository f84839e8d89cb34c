import FixBackend.AccountLimit
import FixBackend.AccountStandings
/-!
# AccountPersistence — what is stored of a cloud account and read back

`_update_state_dependent_fields` and `to_model` are each other's inverse on the states, and an `update` stores every
field of the account but its id, the time of the write and the next scan.
-/
namespace Fix

open Calendar Effects

/-! ## The columns of a state -/

/-- The credentials in the columns are the ones of the state. -/
structure AccountRow.OnlyCredentialsOf (r : AccountRow) (state : CloudAccountState) : Prop where
  aws : ∀ externalId, r.awsExternalId = some externalId →
    ∃ roleName, state.cloudAccess = some (.aws externalId roleName)
  role : ∀ roleName, r.awsRoleName = some roleName →
    ∃ externalId, state.cloudAccess = some (.aws externalId roleName)
  gcp : ∀ key, r.gcpServiceAccountKeyId = some key → state.cloudAccess = some (.gcp key)
  azure : ∀ credentials, r.azureCredentialId = some credentials → state.cloudAccess = some (.azure credentials)

/-- **No credential survives** that the written state does not hold. -/
theorem AccountRow.onlyCredentialsOf_updateStateDependentFields (r : AccountRow) (state : CloudAccountState) :
    (r.updateStateDependentFields state).OnlyCredentialsOf state := by
  unfold updateStateDependentFields
  constructor
  · intro externalId h
    dsimp only at h
    split at h
    · rename_i roleName hstate
      cases h
      exact ⟨roleName, hstate⟩
    · cases h
  · intro roleName h
    dsimp only at h
    split at h
    · rename_i externalId _ hstate
      cases h
      exact ⟨externalId, hstate⟩
    · cases h
  · intro key h
    dsimp only at h
    split at h
    · cases h
      assumption
    · cases h
  · intro credentials h
    dsimp only at h
    split at h
    · cases h
      assumption
    · cases h

def CloudAccount.OwnAccess (a : CloudAccount) : Prop :=
  ∀ access, a.state.cloudAccess = some access → access.cloud = a.cloud

namespace CloudAccountRepository

variable {w : World} {id : FixCloudAccountId} {f : DateTime → CloudAccount → Except Err CloudAccount} {r : AccountRow}
  {a updated : CloudAccount}

/-! ## An update and the read after it -/

theorem exec_get_written (hfind : w.accounts.find id = some r) (t : DateTime) :
    exec (get id) (w.tick.tick.commit r (r.written updated t)) =
      (((r.written updated t).toModel ((w.nextRuns.find updated.workspaceId).map (·.time))).map some,
        w.tick.tick.commit r (r.written updated t)) := by
  have hid : r.id = id := Table.key_of_find hfind
  exact exec_get_stored (World.find_commit (w := w.tick.tick) hfind hid)

/-- **What is written of a cloud account is what is read.**  The columns of a state give the state back, whatever they
held before, and no credential of another state.  An update that the database does not refuse is read back in all that
the function made of the account, but for the time of the write and the next scan. -/
theorem written_read_back :
    (∀ (r : AccountRow) (state : CloudAccountState) (nextScan : Option DateTime),
      (∀ access, state.cloudAccess = some access → access.cloud = r.cloud) →
        (∃ a, (r.updateStateDependentFields state).toModel nextScan = .ok a ∧ a.state = state) ∧
          (r.updateStateDependentFields state).OnlyCredentialsOf state) ∧
    ∀ (w : World) (id : FixCloudAccountId) (f : DateTime → CloudAccount → Except Err CloudAccount) (r : AccountRow)
      (a updated : CloudAccount), w.accounts.find id = some r → r.toModel none = .ok a → f w.now a = .ok updated →
        updated.id = a.id → updated.nextScan = a.nextScan → updated.OwnAccess →
          (∃ e, a ≠ updated ∧ w.refusal (some r) (r.written updated w.tick.now) = some e ∧
            exec (update id f) w = (.error e, w.tick.tick)) ∨
          ∃ returned w' stored, exec (update id f) w = (.ok returned, w') ∧ exec (get id) w' = (.ok (some stored), w') ∧
            stored = { updated with nextScan := stored.nextScan, updatedAt := stored.updatedAt } := by
  refine ⟨fun r state nextScan haccess => ?_, fun w id f r a updated hfind hread hf hid hnextScan hown => ?_⟩
  · have hstate := AccountRow.accountState_updateStateDependentFields r state haccess
    exact ⟨AccountRow.exists_toModel hstate nextScan, r.onlyCredentialsOf_updateStateDependentFields state⟩
  · have haid : a.id = r.id := (AccountRow.toModel_ok hread).2.1
    by_cases hsame : a = updated
    · subst hsame
      refine Or.inr ⟨a, w.tick, { a with nextScan := (w.nextRuns.find r.tenantId).map (·.time) },
        exec_update_unchanged hfind hread hf, ?_, rfl⟩
      rw [exec_get_stored (w := w.tick) hfind, AccountRow.toModel_nextScan hread]
      rfl
    · cases hrefusal : w.refusal (some r) (r.written updated w.tick.now) with
      | some e => exact Or.inl ⟨e, hsame, rfl, exec_update_refused hfind hread hf hsame hrefusal⟩
      | none =>
        have hwritten := AccountRow.toModel_written (r := r) hown w.tick.now
          ((w.nextRuns.find updated.workspaceId).map (·.time))
        let stored : CloudAccount := { updated with
          id := r.id, nextScan := (w.nextRuns.find updated.workspaceId).map (·.time), updatedAt := w.tick.now }
        refine Or.inr ⟨stored, w.tick.tick.commit r (r.written updated w.tick.now), stored, ?_, ?_, ?_⟩
        · rw [exec_update_written hfind hread hf hsame hrefusal, hwritten]
        · rw [exec_get_written hfind, hwritten]
          rfl
        · dsimp only [stored]
          rw [← haid, ← hid]

/-- An account that waits to be configured, in a workspace with a planned run. -/
def plannedWorld : World :=
  { freeWorld with
    accounts := ⟨[.ofModel (discoveredAccount 10 "111111111111" true)], discoveredAccount_unique⟩
    nextRuns := ⟨[⟨1, ⟨⟨2024, 1, 3, valid_january3⟩, 0, midnight_inDay⟩⟩], by decide⟩ }

def loseRole (_ : DateTime) (a : CloudAccount) : Except Err CloudAccount :=
  .ok { a with state := .degraded (.aws 2 "role") true false "no access", failedScanCount := 3 }

theorem lostRole_read_back : ∃ returned w' stored, exec (update 10 loseRole) plannedWorld = (.ok returned, w') ∧
    exec (get 10) w' = (.ok (some stored), w') ∧ stored.state = .degraded (.aws 2 "role") true false "no access" := by
  rcases written_read_back.2 plannedWorld 10 loseRole (.ofModel (discoveredAccount 10 "111111111111" true))
    (discoveredAccount 10 "111111111111" true) _ rfl rfl rfl rfl rfl (fun access h => by cases h; rfl) with
    ⟨e, -, hrefusal, -⟩ | ⟨returned, w', stored, hexec, hget, hstored⟩
  · cases hrefusal
  · exact ⟨returned, w', stored, hexec, hget, by rw [hstored]⟩

def LeavesNoPlanned (w : World) (id : FixCloudAccountId) (f : DateTime → CloudAccount → Except Err CloudAccount) :
    Prop :=
  ∀ r a, w.accounts.find id = some r → r.toModel none = .ok a → f w.now a = .ok a →
    w.nextRuns.find r.tenantId = none

/-- **The account that an update returns is the one that is read after it**, exactly when the function changes the
account or its workspace has no planned run: nothing looks the next scan up when there is nothing to write. -/
theorem returned_is_stored_iff (w : World) (id : FixCloudAccountId)
    (f : DateTime → CloudAccount → Except Err CloudAccount) :
    (∀ returned w', exec (update id f) w = (.ok returned, w') → exec (get id) w' = (.ok (some returned), w')) ↔
      LeavesNoPlanned w id f := by
  constructor
  · intro h r a hfind hread hf
    have hget := h a w.tick (exec_update_unchanged hfind hread hf)
    rw [exec_get_stored (w := w.tick) hfind, AccountRow.toModel_nextScan hread] at hget
    have hnext : a.nextScan = none := AccountRow.nextScan_of_toModel hread
    cases hrun : w.nextRuns.find r.tenantId with
    | none => rfl
    | some run =>
      rw [World.tick_nextRuns, hrun] at hget
      have hscan := congrArg CloudAccount.nextScan (Option.some.inj (Except.ok.inj (congrArg Prod.fst hget)))
      rw [hnext] at hscan
      cases hscan
  · intro h returned w' hexec
    cases hfind : w.accounts.find id with
    | none =>
      rw [exec_update_missing hfind] at hexec
      cases hexec
    | some r =>
      cases hread : r.toModel none with
      | error e =>
        rw [exec_update_unreadable hfind hread] at hexec
        cases hexec
      | ok a =>
        cases hf : f w.now a with
        | error e =>
          rw [exec_update hfind hread, hf] at hexec
          cases hexec
        | ok updated =>
          by_cases hsame : a = updated
          · subst hsame
            rw [exec_update_unchanged hfind hread hf] at hexec
            cases hexec
            rw [exec_get_stored (w := w.tick) hfind, World.tick_nextRuns, h r _ hfind hread hf, Option.map_none, hread]
            rfl
          · cases hrefusal : w.refusal (some r) (r.written updated w.tick.now) with
            | some e =>
              rw [exec_update_refused hfind hread hf hsame hrefusal] at hexec
              cases hexec
            | none =>
              rw [exec_update_written hfind hread hf hsame hrefusal, Prod.mk.injEq] at hexec
              obtain ⟨hmodel, rfl⟩ := hexec
              rw [exec_get_written hfind, hmodel]
              rfl

/-- Nothing is written, and the account comes back without the run that its workspace has. -/
theorem unchanged_loses_next_scan : ∃ returned w', exec (update 10 fun _ a => .ok a) plannedWorld = (.ok returned, w') ∧
    exec (get 10) w' ≠ (.ok (some returned), w') := by
  refine ⟨discoveredAccount 10 "111111111111" true, plannedWorld.tick, rfl, fun h => ?_⟩
  have hscan := congrArg CloudAccount.nextScan (Option.some.inj (Except.ok.inj (congrArg Prod.fst h)))
  exact absurd hscan (by decide)

end CloudAccountRepository

end Fix
