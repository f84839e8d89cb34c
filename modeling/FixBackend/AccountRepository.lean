import FixBackend.CloudAccounts
import FixBackend.Effects
import FixBackend.Workspaces
/-!
# AccountRepository — the stored cloud accounts

`fixbackend/cloud_accounts/repository.py` over a `World` of tables, a clock and everything the services send.  Each
reading of the clock is the next one of an arbitrary sequence.  `commits` remembers every committed row with the row it
replaced; no function reads it.
-/
namespace Fix

open Calendar Effects

structure NextTenantRun where
  tenantId : WorkspaceId
  time : DateTime
deriving DecidableEq

/-- What a service sends besides domain events: messages to a pub-sub channel, analytics events and mails. -/
inductive Notice where
  | pubSub (event : DomainEvent)
  | firstWorkspaceCollectFinished (tenantId : WorkspaceId)
  | firstAccountCollectFinished (tenantId : WorkspaceId)
  | workspaceCollectFinished (tenantId : WorkspaceId) (accounts resources : Nat)
  | securityScanFinished (tenantId : WorkspaceId)
  | accountDegraded (cloud : CloudName) (cloudAccountId : CloudAccountId) (tenantId : WorkspaceId)
      (workspaceName : String)
      (accountName : Option String) (cfStackDeleted : Bool)
deriving DecidableEq

/-- A `PhysicalResourceId`: a string that is a UUID, or any other one. -/
inductive PhysicalResourceId where
  | uuid (id : Uuid)
  | text (s : String)
deriving DecidableEq

structure CfResponse where
  responseUrl : String
  success : Bool
  reason : String
  logicalResourceId : String
  physicalResourceId : PhysicalResourceId
  stackId : String
  requestId : String
  roleName : AwsRoleName
deriving DecidableEq

structure World where
  accounts : Table AccountRow.id
  organizations : Organizations
  nextRuns : Table NextTenantRun.tenantId
  clock : Nat → DateTime
  ticks : Nat
  nextUuid : Uuid
  accountFailedResourceCount : Int
  published : List DomainEvent
  notices : List Notice
  cfResponses : List CfResponse
  cfFailures : Nat
  commits : List (AccountRow × AccountRow)

abbrev Service := Call Err World

def utc : Service DateTime := modifyGet fun w => (w.clock w.ticks, { w with ticks := w.ticks + 1 })

def uuid4 : Service Uuid := modifyGet fun w => (w.nextUuid, { w with nextUuid := w.nextUuid + 1 })

def publish (e : DomainEvent) : Service PUnit := modify fun w => { w with published := w.published ++ [e] }

/-- A method of the workspace repository that commits its change. -/
def inOrganizations {α : Type} (f : Organizations → Except Err (α × Organizations)) : Service α := do
  let w ← get
  let (a, orgs) ← lift (f w.organizations)
  set { w with organizations := orgs }
  return a

def getNextScan (workspaceId : WorkspaceId) : Service (Option DateTime) := do
  let w ← get
  return (w.nextRuns.find workspaceId).map (·.time)

/-- Another row has the tenant and the account id of `r`, which the unique constraint of the table excludes. -/
def World.taken (w : World) (r : AccountRow) : Bool :=
  w.accounts.rows.any fun x => decide (x.id ≠ r.id ∧ x.tenantId = r.tenantId ∧ x.accountId = r.accountId)

/-- The row names a tenant that is not there, which the foreign key excludes. -/
def World.orphaned (w : World) (stored : Option AccountRow) (r : AccountRow) : Bool :=
  decide (stored.map (·.tenantId) ≠ some r.tenantId ∧ w.organizations.find r.tenantId = none)

/-- What the database raises for a row that is inserted, or written over a stored one. -/
def World.refusal (w : World) (stored : Option AccountRow) (r : AccountRow) : Option Err :=
  if r.unfit stored then some .dataError
  else if w.taken r || w.orphaned stored r then some .integrityError
  else none

def World.insert (w : World) (r : AccountRow) (h : w.accounts.find r.id = none) : World :=
  { w with accounts := w.accounts.insert r h }

def insertAccount (r : AccountRow) : Service PUnit := do
  let w ← get
  match w.refusal none r with
  | some e => throw e
  | none => if h : w.accounts.find r.id = none then set (w.insert r h) else throw .integrityError

/-- The world after the commit of a changed row. -/
def World.commit (w : World) (stored r : AccountRow) : World :=
  { w with accounts := w.accounts.replace r, commits := w.commits ++ [(stored, r)] }

def commitAccount (stored r : AccountRow) : Service PUnit := do
  let w ← get
  match w.refusal (some stored) r with
  | some e => throw e
  | none => set (w.commit stored r)

namespace CloudAccountRepository

def create (a : CloudAccount) : Service CloudAccount := do
  let nextScan ← getNextScan a.workspaceId
  insertAccount (.ofModel a)
  lift ((AccountRow.ofModel a).toModel nextScan)

def get (id : FixCloudAccountId) : Service (Option CloudAccount) := do
  let w ← MonadState.get
  match w.accounts.find id with
  | none => return none
  | some row =>
    let nextScan ← getNextScan row.tenantId
    some <$> lift (row.toModel nextScan)

def getByAccountId (workspaceId : WorkspaceId) (accountId : CloudAccountId) : Service (Option CloudAccount) := do
  let w ← MonadState.get
  match w.accounts.rows.find? (fun r => decide (r.tenantId = workspaceId ∧ r.accountId = accountId)) with
  | none => return none
  | some row =>
    let nextScan ← getNextScan workspaceId
    some <$> lift (row.toModel nextScan)

def list (ids : List FixCloudAccountId) : Service (List CloudAccount) := do
  let w ← MonadState.get
  lift ((w.accounts.rows.filter (fun r => decide (r.id ∈ ids))).mapM (·.toModel none))

/-- `update` for a function that also hands out a value, as `update_cloud_account_scan_enabled` does through a variable
of the enclosing call. -/
def updateWith {β : Type} (id : FixCloudAccountId) (f : DateTime → CloudAccount → Except Err (CloudAccount × β)) :
    Service (CloudAccount × β) := do
  let w ← MonadState.get
  match w.accounts.find id with
  | none => throw (.resourceNotFound s!"Cloud account {id} not found")
  | some stored =>
    let account ← lift (stored.toModel none)
    let now ← utc
    let (updated, b) ← lift (f now account)
    if account = updated then return (updated, b)
    else
      let nextScan ← getNextScan updated.workspaceId
      let updatedAt ← utc
      let row := stored.written updated updatedAt
      commitAccount stored row
      let result ← lift (row.toModel nextScan)
      return (result, b)

def update (id : FixCloudAccountId) (f : DateTime → CloudAccount → Except Err CloudAccount) : Service CloudAccount := do
  let (account, _) ← updateWith id (fun now a => (·, ()) <$> f now a)
  return account

/-- The condition of `ready_for_collection`; a null state is not equal to any name. -/
def readyForCollection (r : AccountRow) : Bool := decide (r.state = some .configured) && r.enabled

/-- The condition of `non_deleted`; a null state is not unequal to any name either. -/
def nonDeleted (r : AccountRow) : Bool := decide (r.state ≠ none ∧ r.state ≠ some .deleted)

def countByWorkspaceId (workspaceId : WorkspaceId) (ready notDeleted : Bool) : Service Nat := do
  let w ← MonadState.get
  return w.accounts.count fun r =>
    decide (r.tenantId = workspaceId) && (!ready || readyForCollection r) && (!notDeleted || nonDeleted r)

def listAllDiscoveredAccounts : Service (List CloudAccount) := do
  let w ← MonadState.get
  lift ((w.accounts.rows.filter (fun r => decide (r.state = some .discovered))).mapM (·.toModel none))

end CloudAccountRepository

/-! ## What the calls keep -/

/-- An invariant that reads only the accounts, their commits, the workspaces and the clock. -/
def Framed (I : World → Prop) : Prop :=
  ∀ w w' : World, w'.accounts = w.accounts → w'.commits = w.commits → w'.organizations = w.organizations →
    w'.clock = w.clock → I w → I w'

section Keeps

variable {I P : World → Prop}

theorem triple_utc (hP : Framed P) : Triple P utc (fun now w => P w ∧ ∃ n, now = w.clock n) I :=
  Triple.modifyGet _ fun w hw => ⟨hP w _ rfl rfl rfl rfl hw, w.ticks, rfl⟩

theorem keeps_uuid4 (hI : Framed I) : Keeps I uuid4 := Triple.modifyGet _ fun w hw => hI w _ rfl rfl rfl rfl hw

theorem keeps_utc (hI : Framed I) : Keeps I utc :=
  Triple.imp (triple_utc hI) (fun _ h => h) (fun _ _ h => h.1) (fun _ h => h)


theorem keeps_publish (hI : Framed I) (e : DomainEvent) : Keeps I (publish e) :=
  Keeps.modify _ fun w hw => hI w _ rfl rfl rfl rfl hw

theorem triple_of_reads {α : Type} {m : Service α} (hm : ∀ w, (exec m w).2 = w) (hPI : ∀ w, P w → I w) :
    Triple P m (fun _ => P) I := by
  intro w hw
  have h := hm w
  refine ⟨fun a w' hr => ?_, fun e w' hr => ?_⟩ <;> rw [hr] at h <;> subst h
  · exact hw
  · exact hPI _ hw

theorem exec_inOrganizations {α : Type} (f : Organizations → Except Err (α × Organizations)) (w : World) :
    exec (inOrganizations f) w = match f w.organizations with
      | .ok (a, orgs) => (.ok a, { w with organizations := orgs })
      | .error e => (.error e, w) := by
  unfold inOrganizations
  rw [exec_bind, exec_get]
  dsimp only
  rw [exec_bind, exec_lift]
  cases f w.organizations <;> rfl

theorem exec_getNextScan (workspaceId : WorkspaceId) (w : World) :
    exec (getNextScan workspaceId) w = (.ok ((w.nextRuns.find workspaceId).map (·.time)), w) := rfl

namespace CloudAccountRepository

theorem get_reads (id : FixCloudAccountId) (w : World) : (exec (get id) w).2 = w := by
  unfold get
  simp only [exec_bind, exec_get]
  cases w.accounts.find id with
  | none => rfl
  | some row =>
    simp only [exec_bind, exec_getNextScan, map_eq_pure_bind, exec_lift]
    cases row.toModel _ <;> rfl

theorem get_ok {id : FixCloudAccountId} {w w' : World} {a : CloudAccount}
    (h : exec (get id) w = (.ok (some a), w')) :
    w' = w ∧ ∃ row nextScan, w.accounts.find id = some row ∧ row.toModel nextScan = .ok a := by
  have hw := get_reads id w
  rw [h] at hw
  refine ⟨hw, ?_⟩
  unfold get at h
  simp only [exec_bind, exec_get] at h
  cases hfind : w.accounts.find id with
  | none => rw [hfind] at h; cases h
  | some row =>
    rw [hfind] at h
    simp only [exec_bind, exec_getNextScan, map_eq_pure_bind, exec_lift] at h
    cases hmodel : row.toModel ((w.nextRuns.find row.tenantId).map (·.time)) with
    | error e => rw [hmodel] at h; cases h
    | ok a' =>
      rw [hmodel] at h
      cases h
      exact ⟨row, _, rfl, hmodel⟩

theorem getByAccountId_reads (workspaceId : WorkspaceId) (accountId : CloudAccountId) (w : World) :
    (exec (getByAccountId workspaceId accountId) w).2 = w := by
  unfold getByAccountId
  simp only [exec_bind, exec_get]
  split
  · rfl
  · rename_i row _
    simp only [exec_bind, exec_getNextScan, map_eq_pure_bind, exec_lift]
    cases row.toModel _ <;> rfl

theorem list_reads (ids : List FixCloudAccountId) (w : World) : (exec (list ids) w).2 = w := by
  unfold list
  rw [exec_bind, exec_get]
  simp only [exec_lift]

theorem listAllDiscoveredAccounts_reads (w : World) : (exec listAllDiscoveredAccounts w).2 = w := by
  unfold listAllDiscoveredAccounts
  rw [exec_bind, exec_get]
  simp only [exec_lift]

theorem exec_countByWorkspaceId (workspaceId : WorkspaceId) (ready notDeleted : Bool) (w : World) :
    exec (countByWorkspaceId workspaceId ready notDeleted) w = (.ok (w.accounts.count fun r =>
      decide (r.tenantId = workspaceId) && (!ready || readyForCollection r) && (!notDeleted || nonDeleted r)), w) := rfl

/-- **An insert establishes what holds of the world with the new row.** -/
theorem triple_create {a : CloudAccount} (hPI : ∀ w, P w → I w)
    (h : ∀ w (hnone : w.accounts.find (AccountRow.ofModel a).id = none), P w → I (w.insert (.ofModel a) hnone)) :
    Triple P (create a) (fun _ => I) I := by
  apply Triple.of_exec
  intro w hw
  unfold create insertAccount
  simp only [exec_bind, exec_getNextScan, exec_get]
  cases w.refusal none (.ofModel a) with
  | some e => exact hPI w hw
  | none =>
    dsimp only
    by_cases hnone : w.accounts.find (AccountRow.ofModel a).id = none
    · simp only [dif_pos hnone, exec_set, exec_lift]
      have := h w hnone hw
      cases (AccountRow.ofModel a).toModel _ <;> exact this
    · rw [dif_neg hnone]
      exact hPI w hw

/-- **An update establishes what holds of the world with the written row**, for every row it may find and every reading
of the clock. -/
theorem triple_updateWith {β : Type} {id : FixCloudAccountId}
    {f : DateTime → CloudAccount → Except Err (CloudAccount × β)} (hP : Framed P) (hPI : ∀ w, P w → I w)
    (h : ∀ w row account now updated b updatedAt, P w → w.accounts.find id = some row →
      row.toModel none = .ok account → (∃ n, now = w.clock n) → f now account = .ok (updated, b) →
      I (w.commit row (row.written updated updatedAt))) :
    Triple P (updateWith id f) (fun _ => I) I := by
  unfold updateWith
  refine Triple.get_bind fun s hs => ?_
  cases hfind : s.accounts.find id with
  | none => exact Triple.throw _ fun w hw => hPI w (hw ▸ hs)
  | some row =>
    -- the clock ticks on from here, the stored row stays the one that was found
    have hframed : Framed fun w => P w ∧ w.accounts.find id = some row := by
      rintro w w' hacc hcom horg hclock ⟨hw, hrow⟩
      exact ⟨hP w w' hacc hcom horg hclock hw, hacc ▸ hrow⟩
    have hI : ∀ w, (P w ∧ w.accounts.find id = some row) → I w := fun w hw => hPI w hw.1
    refine Triple.imp (P := fun w => P w ∧ w.accounts.find id = some row) ?_
      (by rintro w rfl; exact ⟨hs, hfind⟩) (fun _ _ h => h) (fun _ h => h)
    refine Triple.lift_bind (fun account hmodel => ?_) hI
    refine Triple.bind (Triple.imp (triple_utc hframed) (fun _ h => h) (fun _ _ h => h) hI) fun now => ?_
    have hframed : Framed fun w => (P w ∧ w.accounts.find id = some row) ∧ ∃ n, now = w.clock n := by
      rintro w w' hacc hcom horg hclock ⟨hw, hnow⟩
      exact ⟨hframed w w' hacc hcom horg hclock hw, hclock ▸ hnow⟩
    have hI : ∀ w, ((P w ∧ w.accounts.find id = some row) ∧ ∃ n, now = w.clock n) → I w := fun w hw => hI w hw.1
    refine Triple.lift_bind (fun p hf => ?_) hI
    obtain ⟨updated, b⟩ := p
    dsimp only
    by_cases hsame : account = updated
    · rw [if_pos hsame]
      exact Triple.pure _ hI
    · rw [if_neg hsame]
      refine Triple.bind (triple_of_reads (fun w => rfl) hI) fun nextScan => ?_
      refine Triple.bind (Triple.imp (triple_utc hframed) (fun _ h => h) (fun _ _ h => h.1) (fun _ h => h))
        fun updatedAt => ?_
      refine Triple.bind (R := fun _ => I) ?_ fun _ => Triple.bind (Keeps.lift _) fun result => Keeps.pure _
      refine Triple.get_bind fun w hw => ?_
      split
      · exact Triple.throw _ fun w' hw' => hw' ▸ hI w hw
      · exact Triple.modify (fun _ => _) fun w' _ =>
          h w row account now updated b updatedAt hw.1.1 hw.1.2 hmodel hw.2 hf

theorem triple_update {id : FixCloudAccountId} {f : DateTime → CloudAccount → Except Err CloudAccount}
    (hP : Framed P) (hPI : ∀ w, P w → I w)
    (h : ∀ w row account now updated updatedAt, P w → w.accounts.find id = some row →
      row.toModel none = .ok account → (∃ n, now = w.clock n) → f now account = .ok updated →
      I (w.commit row (row.written updated updatedAt))) :
    Triple P (update id f) (fun _ => I) I := by
  refine Triple.bind (triple_updateWith hP hPI ?_) fun p => Keeps.pure _
  intro w row account now updated b updatedAt hw hfind hmodel hnow hf
  cases hfa : f now account with
  | error e => rw [hfa] at hf; cases hf
  | ok a =>
    rw [hfa] at hf
    cases hf
    exact h w row account now updated updatedAt hw hfind hmodel hnow hfa

end CloudAccountRepository

end Keeps

end Fix
