import FixBackend.Dispatcher
import FixBackend.Registration
import FixBackend.Sessions
/-!
# WorkspaceCreation — the two commits of `create_workspace`

`WorkspaceRepository.create_workspace`, await by await.  One session goes through the repository, the manager of the
graph databases and the role repository, which commits it; the event is published after that.  A call may fail at any
one of its awaits, and what its session has not committed is rolled back then.
-/
namespace Fix

open Calendar Effects Sessions Machine IntFlag

/-! ## The call, await by await -/

structure CreationTables where
  access : AccessStore
  databaseAccess : Table GraphDatabaseAccess.workspaceId

inductive CreationAwait where
  | selectSlug
  | createDatabaseAccess
  | selectRoles
  | updateRoles
  | commitRoles
  | refreshRoles
  | publish
  | commit
  | refresh
  | selectWorkspace
deriving DecidableEq

inductive CreationErr where
  | failed (a : CreationAwait)
  | raised (e : Err)
  | noResultFound
deriving DecidableEq

/-- What a call is given, what it draws, the configuration it reads, and the await that fails. -/
structure CreateCall where
  workspace : NewWorkspace
  ownerId : UserId
  password : String
  availableDbServer : List String
  /-- The SHA-256 digest of an id as a number. -/
  hashedKey : WorkspaceId → Nat
  fails : Option CreationAwait

structure CreationStore where
  tables : CreationTables
  published : List UserEvent

structure OpenCreation where
  transaction : Transaction CreationTables
  published : List UserEvent

abbrev Creating := Call CreationErr OpenCreation

def CreateCall.row (c : CreateCall) (t : CreationTables) : Organization :=
  c.workspace.row (t.access.organizations.rows.any fun o => o.slug == c.workspace.slug) c.ownerId

def CreateCall.database (c : CreateCall) : GraphDatabaseAccess where
  workspaceId := c.workspace.id
  server := c.availableDbServer[c.hashedKey c.workspace.id % c.availableDbServer.length]?.getD ""
  username := toString c.workspace.id
  password := c.password
  database := s!"db-{c.workspace.id}"

def CreationAwait.afterCommit : CreationAwait → Bool
  | .publish | .commit | .refresh | .selectWorkspace => true
  | _ => false

def CreateCall.failsLate (c : CreateCall) : Option CreationAwait := c.fails.filter (·.afterCommit)

namespace WorkspaceCreation

def inTransaction {α : Type} (m : Session CreationErr CreationTables α) : Creating α :=
  embed OpenCreation.transaction (fun s t => { s with transaction := t }) m

/-- An await of the call, which may be the one that fails. -/
def awaiting {α : Type} (c : CreateCall) (a : CreationAwait) (m : Creating α) : Creating α :=
  if c.fails = some a then throw (.failed a) else m

/-- `create_database_access`, up to the row it adds; `_database_for` may raise. -/
def databaseAccessFor (c : CreateCall) : Creating GraphDatabaseAccess :=
  if c.availableDbServer = [] ∨ c.availableDbServer = [""] then
    throw (.raised (.runtimeError "No available_db_server defined in the config"))
  else return c.database

/-- The rows that were added to the session reach the database with its next statement. -/
def flush (row : Organization) (db : GraphDatabaseAccess) : Creating PUnit := do
  let written ← inTransaction (execute fun t =>
    if h : t.access.organizations.find row.id = none ∧ t.databaseAccess.find db.workspaceId = none then
      if t.access.users.find row.ownerId = none then (.error (.raised .integrityError), t)
      else
        (.ok ⟨⟩, { access := { t.access with organizations := t.access.organizations.insert row h.1 },
                   databaseAccess := t.databaseAccess.insert db h.2 })
    else (.error (.raised .integrityError), t))
  lift written

/-- `RoleRepository.add_roles` in the session of the call, with its own commit. -/
def addRoles (c : CreateCall) (row : Organization) (db : GraphDatabaseAccess) : Creating PUnit := do
  let write : Creating PUnit := inTransaction (execute fun t => (⟨⟩, { t with access := { t.access with
    roleAssignments :=
      withRoles t.access.roleAssignments c.ownerId c.workspace.id (mask Role.workspaceOwner) false } }))
  let commitRoles := awaiting c .commitRoles (inTransaction commit)
  flush row db
  let existing ← awaiting c .selectRoles (inTransaction (execute fun t =>
    (t.access.roleAssignments.find (c.ownerId, c.workspace.id), t)))
  if existing.isSome then
    awaiting c .updateRoles write
    commitRoles
    awaiting c .refreshRoles (return ⟨⟩)
  else
    write
    commitRoles

/-- The end of `create_workspace`, when the roles are committed. -/
def announce (c : CreateCall) (row : Organization) : Creating Workspace := do
  awaiting c .publish (modify fun s =>
    { s with published := s.published ++ [.workspaceCreated row.id row.name row.slug c.ownerId] })
  awaiting c .commit (inTransaction commit)
  awaiting c .refresh (return ⟨⟩)
  let found ← awaiting c .selectWorkspace (inTransaction (execute fun t =>
    (getWorkspace t.access.organizations row.id, t)))
  match found with
  | some workspace => return workspace
  | none => throw .noResultFound

def creating (c : CreateCall) : Creating Workspace := do
  let slugExists ← awaiting c .selectSlug (inTransaction (execute fun t =>
    (t.access.organizations.rows.any (fun o => o.slug == c.workspace.slug), t)))
  let row := c.workspace.row slugExists c.ownerId
  let db ← awaiting c .createDatabaseAccess (databaseAccessFor c)
  addRoles c row db
  announce c row

/-- `create_workspace`, from the opening to the closing of its session. -/
def createWorkspace (c : CreateCall) : Call CreationErr CreationStore Workspace :=
  embed (fun s => ⟨⟨s.tables, s.tables⟩, s.published⟩) (fun _ s => ⟨s.transaction.committed, s.published⟩) (creating c)

/-! ## All or nothing -/

structure Absent (t : CreationTables) (workspaceId : WorkspaceId) : Prop where
  organization : t.access.organizations.find workspaceId = none
  roles : ∀ r ∈ t.access.roleAssignments.rows, r.workspaceId ≠ workspaceId
  databaseAccess : t.databaseAccess.find workspaceId = none

instance (t : CreationTables) (workspaceId : WorkspaceId) : Decidable (Absent t workspaceId) :=
  decidable_of_iff (t.access.organizations.find workspaceId = none ∧
    (∀ r ∈ t.access.roleAssignments.rows, r.workspaceId ≠ workspaceId) ∧ t.databaseAccess.find workspaceId = none)
    ⟨fun h => ⟨h.1, h.2.1, h.2.2⟩, fun h => ⟨h.organization, h.roles, h.databaseAccess⟩⟩

theorem Absent.find_roles {t : CreationTables} {workspaceId : WorkspaceId} (h : Absent t workspaceId)
    (userId : UserId) :
    t.access.roleAssignments.find (userId, workspaceId) = none :=
  (Table.find_eq_none_iff _ _).2 fun r hr hkey => h.roles r hr (congrArg Prod.snd hkey)

/-- **All or nothing**: a call that raises leaves no row of its workspace. -/
def AllOrNothing (c : CreateCall) (s : CreationStore) : Prop :=
  ∀ e, (exec (createWorkspace c) s).1 = .error e → Absent (exec (createWorkspace c) s).2.tables c.workspace.id

/-- The call raises before it comes to commit anything. -/
def RaisesBefore (c : CreateCall) (s : CreationStore) : Prop :=
  c.availableDbServer = [] ∨ c.availableDbServer = [""] ∨ s.tables.access.users.find c.ownerId = none

/-- The await that fails, when one does, is not after the commit of `add_roles`. -/
def FailsBeforeCommit (c : CreateCall) (s : CreationStore) : Prop :=
  RaisesBefore c s ∨ c.failsLate = none

/-! ## What a call leaves -/

section Call

variable {c : CreateCall}

theorem exec_awaiting {α : Type} (a : CreationAwait) (m : Creating α) (o : OpenCreation) :
    exec (awaiting c a m) o = if c.fails = some a then (.error (.failed a), o) else exec m o := by
  unfold awaiting
  split <;> rfl

theorem exec_inTransaction_execute {α : Type} (f : CreationTables → α × CreationTables) (o : OpenCreation) :
    exec (inTransaction (execute f)) o =
      (.ok (f o.transaction.working).1,
        { o with transaction := { o.transaction with working := (f o.transaction.working).2 } }) := by
  unfold inTransaction
  rw [exec_embed]
  rfl

theorem exec_inTransaction_commit (o : OpenCreation) :
    exec (inTransaction commit) o =
      (.ok ⟨⟩, { o with transaction := { o.transaction with committed := o.transaction.working } }) := by
  unfold inTransaction
  rw [exec_embed]
  rfl

def flushed (t : CreationTables) (row : Organization) (db : GraphDatabaseAccess)
    (h : t.access.organizations.find row.id = none ∧ t.databaseAccess.find db.workspaceId = none) : CreationTables where
  access := { t.access with organizations := t.access.organizations.insert row h.1 }
  databaseAccess := t.databaseAccess.insert db h.2

def withOwnerRole (c : CreateCall) (t : CreationTables) : CreationTables :=
  { t with access := { t.access with
    roleAssignments := withRoles t.access.roleAssignments c.ownerId c.workspace.id (mask Role.workspaceOwner) false } }

/-- A call that raised and committed nothing. -/
def RaisedUncommitted {α : Type} (o : OpenCreation) (r : Except CreationErr α × OpenCreation) : Prop :=
  (∃ e, r.1 = .error e) ∧ r.2.transaction.committed = o.transaction.committed ∧ r.2.published = o.published

theorem exec_flush {row : Organization} {db : GraphDatabaseAccess} {o : OpenCreation}
    (h : o.transaction.working.access.organizations.find row.id = none ∧
      o.transaction.working.databaseAccess.find db.workspaceId = none) :
    exec (flush row db) o =
      if o.transaction.working.access.users.find row.ownerId = none then (.error (.raised .integrityError), o)
      else (.ok ⟨⟩, { o with transaction :=
        { o.transaction with working := flushed o.transaction.working row db h } }) := by
  unfold flush
  rw [exec_bind, exec_inTransaction_execute]
  dsimp only
  rw [dif_pos h]
  by_cases howner : o.transaction.working.access.users.find row.ownerId = none
  · rw [if_pos howner, if_pos howner]
    rfl
  · rw [if_neg howner, if_neg howner]
    rfl

theorem exec_addRoles {row : Organization} {db : GraphDatabaseAccess} {o : OpenCreation}
    (h : o.transaction.working.access.organizations.find row.id = none ∧
      o.transaction.working.databaseAccess.find db.workspaceId = none)
    (hroles : o.transaction.working.access.roleAssignments.find (c.ownerId, c.workspace.id) = none) :
    if o.transaction.working.access.users.find row.ownerId = none ∨ c.fails = some .selectRoles ∨
        c.fails = some .commitRoles then
      RaisedUncommitted o (exec (addRoles c row db) o)
    else
      exec (addRoles c row db) o = (.ok ⟨⟩, { o with transaction :=
        ⟨withOwnerRole c (flushed o.transaction.working row db h),
          withOwnerRole c (flushed o.transaction.working row db h)⟩ }) := by
  unfold addRoles
  rw [exec_bind, exec_flush h]
  by_cases howner : o.transaction.working.access.users.find row.ownerId = none
  · rw [if_pos howner, if_pos (Or.inl howner)]
    exact ⟨⟨_, rfl⟩, rfl, rfl⟩
  rw [if_neg howner]
  dsimp only
  rw [exec_bind, exec_awaiting]
  by_cases hselect : c.fails = some .selectRoles
  · rw [if_pos hselect, if_pos (Or.inr (Or.inl hselect))]
    exact ⟨⟨_, rfl⟩, rfl, rfl⟩
  rw [if_neg hselect, exec_inTransaction_execute]
  have hnone : (flushed o.transaction.working row db h).access.roleAssignments.find
      (c.ownerId, c.workspace.id) = none :=
    hroles
  dsimp only
  rw [hnone, Option.isSome_none, if_neg Bool.false_ne_true, exec_bind, exec_inTransaction_execute]
  dsimp only
  rw [exec_awaiting]
  by_cases hcommit : c.fails = some .commitRoles
  · rw [if_pos hcommit, if_pos (Or.inr (Or.inr hcommit))]
    exact ⟨⟨_, rfl⟩, rfl, rfl⟩
  · rw [if_neg hcommit, if_neg (not_or.2 ⟨howner, not_or.2 ⟨hselect, hcommit⟩⟩), exec_inTransaction_commit]
    rfl

def created (c : CreateCall) (t : CreationTables) (h : Absent t c.workspace.id) : CreationTables :=
  withOwnerRole c (flushed t (c.row t) c.database ⟨h.organization, h.databaseAccess⟩)

def createdEvent (c : CreateCall) (t : CreationTables) : UserEvent :=
  .workspaceCreated (c.row t).id (c.row t).name (c.row t).slug c.ownerId

/-- The call raises before the commit of `add_roles`, by itself or as it fails. -/
def Uncommitted (c : CreateCall) (s : CreationStore) : Prop :=
  RaisesBefore c s ∨ c.fails = some .selectSlug ∨ c.fails = some .createDatabaseAccess ∨ c.fails = some .selectRoles ∨
    c.fails = some .commitRoles

variable {s : CreationStore}

theorem RaisedUncommitted.bind {α β : Type} {m : Creating α} {o : OpenCreation} (h : RaisedUncommitted o (exec m o))
    (f : α → Creating β) : RaisedUncommitted o (exec (m >>= f) o) := by
  obtain ⟨⟨e, he⟩, hrest⟩ := h
  rw [exec_bind]
  rcases hr : exec m o with ⟨e' | a, o'⟩
  · rw [hr] at hrest
    exact ⟨⟨e', rfl⟩, hrest⟩
  · rw [hr] at he
    cases he

def opened (s : CreationStore) : OpenCreation := ⟨⟨s.tables, s.tables⟩, s.published⟩

theorem exec_creating (hslug : c.fails ≠ some .selectSlug) (hdb : c.fails ≠ some .createDatabaseAccess)
    (hservers : ¬(c.availableDbServer = [] ∨ c.availableDbServer = [""])) :
    exec (creating c) (opened s) =
      exec (addRoles c (c.row s.tables) c.database >>= fun _ => announce c (c.row s.tables)) (opened s) := by
  unfold creating
  rw [exec_bind, exec_awaiting, if_neg hslug, exec_inTransaction_execute]
  dsimp only
  rw [exec_bind, exec_awaiting, if_neg hdb]
  unfold databaseAccessFor
  rw [if_neg hservers]
  rfl

theorem exec_createWorkspace_uncommitted (h : Absent s.tables c.workspace.id) (hc : Uncommitted c s) :
    (∃ e, (exec (createWorkspace c) s).1 = .error e) ∧ (exec (createWorkspace c) s).2 = s := by
  have hraised : RaisedUncommitted (opened s) (exec (creating c) (opened s)) := by
    by_cases hslug : c.fails = some .selectSlug
    · refine RaisedUncommitted.bind ?_ _
      rw [exec_awaiting, if_pos hslug]
      exact ⟨⟨_, rfl⟩, rfl, rfl⟩
    by_cases hdb : c.fails = some .createDatabaseAccess
    · unfold creating
      rw [exec_bind, exec_awaiting, if_neg hslug, exec_inTransaction_execute]
      refine RaisedUncommitted.bind ?_ _
      rw [exec_awaiting, if_pos hdb]
      exact ⟨⟨_, rfl⟩, rfl, rfl⟩
    by_cases hservers : c.availableDbServer = [] ∨ c.availableDbServer = [""]
    · unfold creating
      rw [exec_bind, exec_awaiting, if_neg hslug, exec_inTransaction_execute]
      refine RaisedUncommitted.bind ?_ _
      rw [exec_awaiting, if_neg hdb]
      unfold databaseAccessFor
      rw [if_pos hservers]
      exact ⟨⟨_, rfl⟩, rfl, rfl⟩
    have hfree : (opened s).transaction.working.access.organizations.find (c.row s.tables).id = none ∧
        (opened s).transaction.working.databaseAccess.find c.database.workspaceId = none :=
      ⟨h.organization, h.databaseAccess⟩
    have hroles := exec_addRoles hfree (h.find_roles c.ownerId)
    rw [if_pos] at hroles
    swap
    · unfold Uncommitted RaisesBefore at hc
      tauto
    rw [exec_creating hslug hdb hservers]
    exact hroles.bind _
  unfold createWorkspace
  rw [exec_embed]
  obtain ⟨hvalue, hcommitted, hpublished⟩ := hraised
  refine ⟨hvalue, ?_⟩
  change CreationStore.mk (exec (creating c) (opened s)).2.transaction.committed
      (exec (creating c) (opened s)).2.published = s
  rw [hcommitted, hpublished]
  rfl

/-- What the call returns or raises after the commit. -/
def outcome (c : CreateCall) (row : Organization) : Except CreationErr Workspace :=
  match c.failsLate with
  | some a => .error (.failed a)
  | none => .ok (row.toModel none)

theorem outcome_of_late {a : CreationAwait} (row : Organization) (h : c.fails = some a) (ha : a.afterCommit = true) :
    outcome c row = .error (.failed a) := by
  unfold outcome CreateCall.failsLate
  rw [h, Option.filter_some, if_pos ha]

theorem failsLate_eq_none (hpublish : c.fails ≠ some .publish) (hcommit : c.fails ≠ some .commit)
    (hrefresh : c.fails ≠ some .refresh) (hselect : c.fails ≠ some .selectWorkspace) : c.failsLate = none := by
  unfold CreateCall.failsLate
  rw [Option.filter_eq_none_iff]
  intro a ha hlate
  cases a <;> contradiction

theorem exec_announce {row : Organization} (t : CreationTables) (published : List UserEvent)
    (hrow : t.access.organizations.find row.id = some row) :
    exec (announce c row) ⟨⟨t, t⟩, published⟩ = (outcome c row, ⟨⟨t, t⟩, if c.fails = some .publish then published
      else published ++ [.workspaceCreated row.id row.name row.slug c.ownerId]⟩) := by
  have hfound : getWorkspace t.access.organizations row.id = some (row.toModel none) := by
    unfold getWorkspace
    rw [hrow, Option.map_some]
  unfold announce
  rw [exec_bind, exec_awaiting]
  by_cases hpublish : c.fails = some .publish
  · rw [if_pos hpublish, if_pos hpublish, outcome_of_late row hpublish rfl]
  rw [if_neg hpublish, if_neg hpublish, exec_modify]
  dsimp only
  rw [exec_bind, exec_awaiting]
  by_cases hcommit : c.fails = some .commit
  · rw [if_pos hcommit, outcome_of_late row hcommit rfl]
  rw [if_neg hcommit, exec_inTransaction_commit]
  dsimp only
  rw [exec_bind, exec_awaiting]
  by_cases hrefresh : c.fails = some .refresh
  · rw [if_pos hrefresh, outcome_of_late row hrefresh rfl]
  rw [if_neg hrefresh, exec_pure]
  dsimp only
  rw [exec_bind, exec_awaiting]
  by_cases hselect : c.fails = some .selectWorkspace
  · rw [if_pos hselect, outcome_of_late row hselect rfl]
  rw [if_neg hselect, exec_inTransaction_execute]
  dsimp only
  rw [hfound]
  unfold outcome
  rw [failsLate_eq_none hpublish hcommit hrefresh hselect]
  rfl

def announcedIn (c : CreateCall) (s : CreationStore) : List UserEvent :=
  if c.fails = some .publish then s.published
  else s.published ++ [createdEvent c s.tables]

/-- **A call that comes to the commit leaves its workspace**, whatever it does then. -/
theorem exec_createWorkspace_committed (h : Absent s.tables c.workspace.id) (hc : ¬Uncommitted c s) :
    exec (createWorkspace c) s = (outcome c (c.row s.tables), ⟨created c s.tables h, announcedIn c s⟩) := by
  simp only [Uncommitted, RaisesBefore, not_or] at hc
  obtain ⟨⟨hnil, hempty, howner⟩, hslug, hdb, hselect, hcommit⟩ := hc
  have hfree : (opened s).transaction.working.access.organizations.find (c.row s.tables).id = none ∧
      (opened s).transaction.working.databaseAccess.find c.database.workspaceId = none :=
    ⟨h.organization, h.databaseAccess⟩
  have hroles := exec_addRoles hfree (h.find_roles c.ownerId)
  rw [if_neg] at hroles
  swap
  · exact not_or.2 ⟨howner, not_or.2 ⟨hselect, hcommit⟩⟩
  have hrow : (created c s.tables h).access.organizations.find (c.row s.tables).id = some (c.row s.tables) :=
    Table.find_insert_self _ _ h.organization
  have hran : exec (creating c) (opened s) =
      (outcome c (c.row s.tables), ⟨⟨created c s.tables h, created c s.tables h⟩, announcedIn c s⟩) := by
    rw [exec_creating hslug hdb (not_or.2 ⟨hnil, hempty⟩), exec_bind, hroles]
    exact exec_announce _ _ hrow
  unfold createWorkspace
  rw [exec_embed]
  change ((exec (creating c) (opened s)).1, CreationStore.mk (exec (creating c) (opened s)).2.transaction.committed
    (exec (creating c) (opened s)).2.published) = _
  rw [hran]

/-- **A call that commits** does to the tables what the access model has as one transaction. -/
theorem access_createWorkspace (h : Absent s.tables c.workspace.id) (hc : ¬Uncommitted c s) :
    (exec (createWorkspace c) s).2.tables.access =
      (exec (Fix.createWorkspace c.workspace c.ownerId) s.tables.access).2 := by
  have howner : s.tables.access.users.find c.ownerId ≠ none := fun hnone => hc (Or.inl (Or.inr (Or.inr hnone)))
  rw [exec_createWorkspace_committed h hc]
  unfold Fix.createWorkspace
  rw [exec_bind, exec_get]
  dsimp only
  have hnew : s.tables.access.organizations.find
      (c.workspace.row (s.tables.access.organizations.rows.any fun o => o.slug == c.workspace.slug) c.ownerId).id =
        none :=
    h.organization
  rw [dif_pos hnew, if_neg howner]
  rfl

theorem allOrNothing_iff (h : Absent s.tables c.workspace.id) : AllOrNothing c s ↔ FailsBeforeCommit c s := by
  by_cases hc : Uncommitted c s
  · obtain ⟨-, hstore⟩ := exec_createWorkspace_uncommitted h hc
    have hbefore : FailsBeforeCommit c s := by
      refine hc.imp_right fun hearly => ?_
      unfold CreateCall.failsLate
      rcases hearly with hf | hf | hf | hf <;> rw [hf] <;> rfl
    refine ⟨fun _ => hbefore, fun _ e _ => ?_⟩
    rw [hstore]
    exact h
  · have hran := exec_createWorkspace_committed h hc
    have hstored : (created c s.tables h).access.organizations.find c.workspace.id = some (c.row s.tables) :=
      Table.find_insert_self _ _ h.organization
    have hready : ¬RaisesBefore c s := fun hraises => hc (Or.inl hraises)
    cases hlate : c.failsLate with
    | none =>
      refine ⟨fun _ => Or.inr hlate, fun _ e hraised => ?_⟩
      rw [hran] at hraised
      unfold outcome at hraised
      rw [hlate] at hraised
      cases hraised
    | some a =>
      refine ⟨fun hall => ?_, fun hbefore => ?_⟩
      · have hraised : (exec (createWorkspace c) s).1 = .error (.failed a) := by
          rw [hran]
          unfold outcome
          rw [hlate]
        have habsent := (hall _ hraised).organization
        rw [hran, hstored] at habsent
        cases habsent
      · rcases hbefore with hraises | hnone
        · exact absurd hraises hready
        · rw [hlate] at hnone
          cases hnone

end Call

/-! ## Calls one after another -/

inductive CreationAction where
  | create (c : CreateCall)
  /-- Other calls change the rows of the workspaces there are. -/
  | elsewhere (tables : CreationTables)

/-- The store after a call, whether it returns or raises.  Its id is a new one. -/
def creationStep (s : CreationStore) : CreationAction → Option CreationStore
  | .create c => if Absent s.tables c.workspace.id then some (exec (createWorkspace c) s).2 else none
  | .elsewhere tables =>
    if tables.access.organizations.rows.map (·.id) = s.tables.access.organizations.rows.map (·.id) then
      some { s with tables := tables }
    else none

def Announced (published : List UserEvent) (workspaceId : WorkspaceId) : Prop :=
  ∃ name slug userId, .workspaceCreated workspaceId name slug userId ∈ published

/-- **Every stored workspace was announced.** -/
def EveryAnnounced (s : CreationStore) : Prop :=
  ∀ id ∈ s.tables.access.organizations.rows.map (·.id), Announced s.published id

/-- Every call is all or nothing, and every stored workspace was announced whenever one looks. -/
structure CreationsSafe (s : CreationStore) (actions : List CreationAction) : Prop where
  atomic : ∀ pre c post s', actions = pre ++ .create c :: post → run creationStep s pre = some s' →
    Absent s'.tables c.workspace.id → AllOrNothing c s'
  announced : ∀ pre post s', actions = pre ++ post → run creationStep s pre = some s' → EveryAnnounced s'

/-- A call fails before it commits, if it fails. -/
def CreationGuard (s : CreationStore) : CreationAction → Prop
  | .create c => Absent s.tables c.workspace.id → FailsBeforeCommit c s
  | .elsewhere _ => True

theorem everyAnnounced_step {s s' : CreationStore} {a : CreationAction} (h : EveryAnnounced s)
    (hguard : CreationGuard s a)
    (hstep : creationStep s a = some s') : EveryAnnounced s' := by
  cases a with
  | elsewhere tables =>
    by_cases hkeys : tables.access.organizations.rows.map (·.id) = s.tables.access.organizations.rows.map (·.id)
    · rw [creationStep, if_pos hkeys] at hstep
      cases hstep
      intro id hid
      rw [hkeys] at hid
      exact h id hid
    · rw [creationStep, if_neg hkeys] at hstep
      cases hstep
  | create c =>
    by_cases habsent : Absent s.tables c.workspace.id
    swap
    · rw [creationStep, if_neg habsent] at hstep
      cases hstep
    rw [creationStep, if_pos habsent] at hstep
    cases hstep
    by_cases hc : Uncommitted c s
    · rw [(exec_createWorkspace_uncommitted habsent hc).2]
      exact h
    · have hpublish : c.fails ≠ some .publish := by
        intro hfails
        rcases hguard habsent with hraises | hlate
        · exact hc (Or.inl hraises)
        · unfold CreateCall.failsLate at hlate
          rw [hfails] at hlate
          cases hlate
      rw [exec_createWorkspace_committed habsent hc]
      unfold announcedIn
      rw [if_neg hpublish]
      intro id hid
      change id ∈ (s.tables.access.organizations.rows ++ [c.row s.tables]).map (·.id) at hid
      rw [List.map_append, List.mem_append] at hid
      rcases hid with hold | hnew
      · obtain ⟨name, slug, userId, hmem⟩ := h id hold
        exact ⟨name, slug, userId, List.mem_append_left _ hmem⟩
      · rw [List.mem_singleton.1 hnew]
        exact ⟨_, _, _, List.mem_append_right _ (List.mem_singleton_self _)⟩

theorem along_of_atomic {actions : List CreationAction} : ∀ {s : CreationStore},
    (∀ pre c post s', actions = pre ++ .create c :: post → run creationStep s pre = some s' →
      Absent s'.tables c.workspace.id → AllOrNothing c s') → Along creationStep CreationGuard s actions := by
  induction actions with
  | nil => exact fun _ => trivial
  | cons a actions ih =>
    intro s h
    refine ⟨?_, fun s' hstep => ih fun pre c post s'' heq hrun => ?_⟩
    · cases a with
      | elsewhere tables => trivial
      | create c => exact fun habsent => (allOrNothing_iff habsent).1 (h [] c actions s rfl rfl habsent)
    · exact h (a :: pre) c post s'' (by rw [heq]; rfl) (run_cons.2 ⟨s', hstep, hrun⟩)

/-- **When the creations are safe**: when no call fails after the commit of `add_roles`. -/
theorem creationsSafe_iff {s : CreationStore} (hstart : EveryAnnounced s) (actions : List CreationAction) :
    CreationsSafe s actions ↔ Along creationStep CreationGuard s actions := by
  refine ⟨fun h => along_of_atomic h.atomic, fun halong => ⟨?_, ?_⟩⟩
  · intro pre c post s' heq hrun habsent
    subst heq
    exact (allOrNothing_iff habsent).2 ((along_append halong hrun).2.1 habsent)
  · intro pre post s' heq hrun
    subst heq
    exact run_along (fun _ _ _ hs hguard hstep => everyAnnounced_step hs hguard hstep) hstart
      (along_append halong hrun).1 hrun

/-! ## An event that is not published -/

def secondCall (fails : Option CreationAwait) : CreateCall :=
  ⟨⟨"second", "second", 2, 20, january⟩, 11, "secret", ["server"], fun _ => 0, fails⟩

def acmeCreated : CreationStore := ⟨⟨acmeStore, default⟩, [.workspaceCreated 1 "acme" "acme" 11]⟩

theorem acmeCreated_announced : EveryAnnounced acmeCreated := by
  intro id hid
  have hone : id = 1 := by
    change id ∈ [1] at hid
    exact List.mem_singleton.1 hid
  subst hone
  exact ⟨"acme", "acme", 11, List.mem_singleton_self _⟩

theorem creationsSafe_iff_retried :
    CreationsSafe acmeCreated [.create (secondCall (some .createDatabaseAccess)), .create (secondCall none)] :=
  (creationsSafe_iff acmeCreated_announced _).2
    ⟨fun _ => Or.inr rfl, fun _ _ => ⟨fun _ => Or.inr rfl, fun _ _ => trivial⟩⟩

/-- The publishing fails: the workspace is there, and nobody was told. -/
theorem publishFails_not_safe : ¬CreationsSafe acmeCreated [.create (secondCall (some .publish))] := by
  intro h
  have hall := h.atomic [] (secondCall (some .publish)) [] acmeCreated rfl rfl (by decide)
  have hraised : (exec (createWorkspace (secondCall (some .publish))) acmeCreated).1 = .error (.failed .publish) := by
    decide +kernel
  have habsent := (hall _ hraised).organization
  have hstored : (exec (createWorkspace (secondCall (some .publish))) acmeCreated).2.tables.access.organizations.find
      2 ≠
      none := by decide +kernel
  exact hstored habsent

end WorkspaceCreation

end Fix
