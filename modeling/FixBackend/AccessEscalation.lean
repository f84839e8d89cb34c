import FixBackend.AccessRoles
/-!
# AccessEscalation — what a sequence of requests can make of the roles in a workspace

Invitations, acceptances and role updates are the requests that change roles.  An acceptance adds the role of a pending
invitation to the roles a user has; only who holds `update_roles` or `invite_to` in the workspace does more than that.
-/
namespace Fix

open Calendar IntFlag Effects

/-! ## Requests without the permission -/

/-- No role of the user in the workspace has the permission. -/
def AccessStore.lacks (st : AccessStore) (userId : UserId) (workspaceId : WorkspaceId)
    (p : WorkspacePermission) : Prop :=
  has (permissionsOf (st.rolesIn userId workspaceId)) p = false

theorem authenticatedUser_ok {st st' : AccessStore} {userId : UserId} {user : User}
    (h : exec (authenticatedUser userId) st = (.ok user, st')) : st.getUser userId = some user ∧ st' = st := by
  have hst : st' = st := by
    have := authenticatedUser_reads userId st
    rw [h] at this
    exact this
  refine ⟨?_, hst⟩
  unfold authenticatedUser at h
  rw [exec_bind, exec_get] at h
  dsimp only at h
  split at h
  · cases h
  · rename_i found hfound
    split at h
    · cases h
    · split at h
      · cases h
      · cases h
        exact hfound

theorem has_mask_self (p q : WorkspacePermission) : has (mask p) q = true ↔ q = p := by
  rw [has_mask, decide_eq_true_eq]

/-- **A request is refused when its issuer lacks the permission it requires.** -/
theorem refused {α : Type} {st : AccessStore} {issuer : UserId} {workspaceId : WorkspaceId} {p : WorkspacePermission}
    (now : DateTime) (rest : User → Workspace → Access α) (hlacks : st.lacks issuer workspaceId p) :
    ∃ e, exec (do
      let user ← authenticatedUser issuer
      let workspace ← getUserWorkspace workspaceId user now
      requirePermissions (mask p) user workspaceId
      rest user workspace) st = (.error e, st) := by
  rw [exec_bind]
  have hreads := authenticatedUser_reads issuer st
  rcases huser : exec (authenticatedUser issuer) st with ⟨e | user, st₁⟩
  · rw [huser] at hreads
    exact ⟨e, by rw [show st₁ = st from hreads]⟩
  · obtain ⟨hget, rfl⟩ := authenticatedUser_ok huser
    dsimp only
    rw [exec_bind]
    have hreads := getUserWorkspace_reads workspaceId user now st₁
    rcases hws : exec (getUserWorkspace workspaceId user now) st₁ with ⟨e | workspace, st₂⟩
    · rw [hws] at hreads
      exact ⟨e, by rw [show st₂ = st₁ from hreads]⟩
    · rw [hws] at hreads
      obtain rfl : st₂ = st₁ := hreads
      dsimp only
      rw [exec_bind]
      have hmissing : workspacePermissionChecker (mask p) user workspaceId ≠ .ok () := by
        intro hok
        have := checker_eq_ok_iff.1 hok p ((has_mask_self p p).2 rfl)
        rw [permitted_getUser hget, hlacks] at this
        cases this
      unfold requirePermissions
      rcases hcheck : workspacePermissionChecker (mask p) user workspaceId with e | u
      · exact ⟨.http e, rfl⟩
      · exact absurd hcheck hmissing

theorem updateUserRole_refused {st : AccessStore} {issuer : UserId} {workspaceId : WorkspaceId}
    {update : UserRolesUpdate} {now : DateTime} (hlacks : st.lacks issuer workspaceId .updateRoles) :
    (exec (updateUserRole issuer workspaceId update now) st).2 = st := by
  obtain ⟨e, he⟩ := refused now (fun user _ =>
    if update.userId = user.id then throw (.raised (.notAllowed "You cannot change your own role")) else return ())
    hlacks
  unfold updateUserRole
  rw [exec_bind]
  unfold updateUserRoleGuard
  rw [he]

theorem updateUserRoleGuard_ok {st st' : AccessStore} {issuer : UserId} {workspaceId : WorkspaceId}
    {update : UserRolesUpdate} {now : DateTime}
    (h : exec (updateUserRoleGuard issuer workspaceId update now) st = (.ok (), st')) : issuer ≠ update.userId := by
  unfold updateUserRoleGuard at h
  rw [exec_bind] at h
  rcases huser : exec (authenticatedUser issuer) st with ⟨e | user, st₁⟩ <;> rw [huser] at h
  · cases h
  · obtain ⟨hget, -⟩ := authenticatedUser_ok huser
    dsimp only at h
    rw [exec_bind] at h
    rcases hws : exec (getUserWorkspace workspaceId user now) st₁ with ⟨e | workspace, st₂⟩ <;> rw [hws] at h
    · cases h
    · dsimp only at h
      rw [exec_bind] at h
      rcases hcheck : exec (requirePermissions (mask WorkspacePermission.updateRoles) user workspaceId)
        st₂ with ⟨e | _, st₃⟩ <;>
        rw [hcheck] at h
      · cases h
      · dsimp only at h
        split at h
        · cases h
        · rename_i hother
          rw [userId_of_getUser hget] at hother
          exact fun heq => hother heq.symm

/-! ## A bound on the roles in one workspace -/

/-- A condition on the roles of all users in one workspace that survives a grant of good roles. -/
structure RoleBound (Q : (UserId → Roles) → Prop) (good : Roles → Prop) : Prop where
  join : ∀ f userId role, Q f → good role → Q (Function.update f userId (f userId ||| role))

/-- The condition holds in the workspace, and so would it after any pending invitation. -/
structure Bounded (Q : (UserId → Roles) → Prop) (good : Roles → Prop) (workspaceId : WorkspaceId) (st : AccessStore) :
    Prop where
  roles : Q (st.rolesIn · workspaceId)
  pending : ∀ i ∈ st.invitations.rows, i.workspaceId = workspaceId → good i.role

/-- A request that changes roles: whoever updates roles in the workspace lacks `update_roles` there or names themselves,
unless the condition survives the update, and whoever invites to it lacks `invite_to`, unless every role is good. -/
def requestGuard (Q : (UserId → Roles) → Prop) (good : Roles → Prop) (workspaceId : WorkspaceId) (st : AccessStore) :
    AccessAction → Prop
  | .updateUserRole issuer w update _ => w = workspaceId → st.lacks issuer w .updateRoles ∨ issuer = update.userId ∨
      ∀ f, Q f → Q (Function.update f update.userId update.roleNames)
  | .inviteToOrganization _ issuer w _ _ _ _ => w = workspaceId → st.lacks issuer w .inviteTo ∨ ∀ role, good role
  | .acceptInvitation _ _ => True
  | _ => False

variable {Q : (UserId → Roles) → Prop} {good : Roles → Prop} {workspaceId : WorkspaceId}

theorem rolesIn_join {st st' : AccessStore} {userId : UserId} {role : Roles}
    (h : st'.roleAssignments = withRoles st.roleAssignments userId workspaceId role false) :
    (st'.rolesIn · workspaceId) =
      Function.update (st.rolesIn · workspaceId) userId (st.rolesIn userId workspaceId ||| role) := by
  funext u
  rw [rolesIn_withRoles false h]
  by_cases hu : u = userId
  · subst hu
    simp
  · rw [if_neg fun hk => hu (Prod.mk.inj hk).1, Function.update_of_ne hu]

theorem rolesIn_replace {st st' : AccessStore} {userId : UserId} {roles : Roles}
    (h : st'.roleAssignments = withRoles st.roleAssignments userId workspaceId roles true) :
    (st'.rolesIn · workspaceId) = Function.update (st.rolesIn · workspaceId) userId roles := by
  funext u
  rw [rolesIn_withRoles true h]
  by_cases hu : u = userId
  · subst hu
    simp
  · rw [if_neg fun hk => hu (Prod.mk.inj hk).1, Function.update_of_ne hu]

theorem rolesIn_elsewhere {st st' : AccessStore} {userId : UserId} {w : WorkspaceId} {roles : Roles}
    {replaceExisting : Bool} (h : st'.roleAssignments = withRoles st.roleAssignments userId w roles replaceExisting)
    (hw : w ≠ workspaceId) : (st'.rolesIn · workspaceId) = (st.rolesIn · workspaceId) := by
  funext u
  rw [rolesIn_withRoles replaceExisting h, if_neg fun hk => hw (Prod.mk.inj hk).2.symm]

theorem bounded_addToWorkspace (hQ : RoleBound Q good) {w : WorkspaceId} {userId : UserId} {role : Roles}
    (hrole : w = workspaceId → good role) : Keeps (Bounded Q good workspaceId) (addToWorkspace w userId role) := by
  refine Triple.get_bind fun st hst => ?_
  split
  · exact Triple.throw _ fun _ h => h ▸ hst
  · split
    · exact Triple.pure _ fun _ h => h ▸ hst
    · split
      · exact Triple.throw _ fun _ h => h ▸ hst
      · refine Triple.of_exec fun _ _ => ⟨?_, hst.pending⟩
        by_cases hw : w = workspaceId
        · subst hw
          rw [rolesIn_join rfl]
          exact hQ.join _ _ _ hst.roles (hrole rfl)
        · rw [rolesIn_elsewhere rfl hw]
          exact hst.roles

theorem bounded_deleteInvitation (w : WorkspaceId) (id : InvitationId) :
    Keeps (Bounded Q good workspaceId) (deleteInvitation w id) := by
  refine Triple.get_bind fun st hst => ?_
  split
  · exact Triple.pure _ fun _ h => h ▸ hst
  · split
    · exact Triple.throw _ fun _ h => h ▸ hst
    · exact Triple.of_exec fun _ _ => ⟨hst.roles, fun i hi => hst.pending i (Table.mem_delete.1 hi).1⟩

theorem bounded_acceptInvitation (hQ : RoleBound Q good) (invitationId : InvitationId) (now : DateTime) :
    Keeps (Bounded Q good workspaceId) (acceptInvitation invitationId now) := by
  refine Triple.get_bind fun st hst => ?_
  split
  · exact Triple.pure _ fun _ h => h ▸ hst
  · rename_i invitation hfind
    have hgood := hst.pending invitation (Table.mem_of_find hfind)
    split
    · exact Triple.pure _ fun _ h => h ▸ hst
    · split
      · exact Triple.pure _ fun _ h => h ▸ hst
      · refine Triple.bind (R := fun _ => Bounded Q good workspaceId)
          (Triple.of_exec fun _ _ => ⟨hst.roles, ?_⟩) fun _ =>
          Keeps.bind ?_ fun _ => Keeps.pure _
        · intro i hi hw
          obtain ⟨j, hj, hij⟩ := List.mem_map.1 hi
          split at hij
          · subst hij
            exact hgood hw
          · exact hst.pending i (hij ▸ hj) hw
        · refine Triple.get_bind fun st' hst' => ?_
          refine Triple.imp ?_ (fun _ h => h ▸ hst') (fun _ _ h => h) fun _ h => h
          split
          · exact Keeps.pure _
          · exact Keeps.bind (bounded_addToWorkspace hQ hgood) fun _ => bounded_deleteInvitation _ _

theorem bounded_createInvitation {w : WorkspaceId} {role : Roles} (hrole : w = workspaceId → good role) (email : String)
    (id : InvitationId) : Keeps (Bounded Q good workspaceId) (createInvitation w email role id) := by
  refine Triple.get_bind fun st hst => ?_
  split
  · exact Triple.pure _ fun _ h => h ▸ hst
  · split
    · exact Triple.throw _ fun _ h => h ▸ hst
    · split
      · exact Triple.throw _ fun _ h => h ▸ hst
      · dsimp only
        split
        · refine Triple.bind (R := fun _ => Bounded Q good workspaceId)
            (Triple.of_exec fun _ _ => ⟨hst.roles, ?_⟩) fun _ =>
            Keeps.pure _
          intro i hi hw
          rcases List.mem_append.1 hi with hold | hnew
          · exact hst.pending i hold hw
          · rw [List.mem_singleton.1 hnew] at hw ⊢
            exact hrole hw
        · exact Triple.throw _ fun _ h => h ▸ hst

theorem getUserWorkspace_ok {st st' : AccessStore} {w : WorkspaceId} {user : User} {now : DateTime}
    {workspace : Workspace} (h : exec (getUserWorkspace w user now) st = (.ok workspace, st')) : workspace.id = w := by
  unfold getUserWorkspace at h
  rw [exec_bind, exec_get] at h
  dsimp only at h
  split at h
  · cases h
  · rename_i found hfound
    split at h
    · cases h
    · split at h
      · cases h
      · split at h
        · cases h
        · cases h
          unfold getWorkspace at hfound
          obtain ⟨o, ho, rfl⟩ := Option.map_eq_some_iff.1 hfound
          have hid : o.id = w := Table.key_of_find ho
          exact hid

theorem bounded_inviteToOrganization {w : WorkspaceId} (hgood : w = workspaceId → ∀ role, good role)
    (blocklist : List String) (issuer : UserId) (email : String) (roles : List Role) (now : DateTime)
    (id : InvitationId) :
    Keeps (Bounded Q good workspaceId) (inviteToOrganization blocklist issuer w email roles now id) := by
  refine Keeps.bind (authenticatedUser_reads _).keeps fun user => ?_
  refine Triple.bind (R := fun workspace st => Bounded Q good workspaceId st ∧ workspace.id = w) ?_ fun workspace => ?_
  · refine Triple.imp (Triple.with_exec ((getUserWorkspace_reads w user now).keeps)) (fun _ h => h) ?_ fun _ h => h
    rintro workspace st ⟨hst, st₀, -, hexec⟩
    exact ⟨hst, getUserWorkspace_ok hexec⟩
  · intro st ⟨hst, hid⟩
    subst hid
    refine (Keeps.bind (requirePermissions_reads _ _ _).keeps fun _ => ?_ :
      Keeps (Bounded Q good workspaceId) _) st hst
    dsimp only
    split
    · exact Keeps.throw _
    · refine Triple.get_bind fun st hst => ?_
      refine Triple.imp ?_ (fun _ h => h ▸ hst) (fun _ _ h => h) fun _ h => h
      split
      · exact Keeps.throw _
      · split
        · exact Keeps.throw _
        · split
          · exact Keeps.throw _
          · exact bounded_createInvitation (fun h => hgood h _) _ _

theorem bounded_updateUserRole {issuer : UserId} {w : WorkspaceId} {update : UserRolesUpdate} {now : DateTime}
    (h : w = workspaceId → issuer = update.userId ∨ ∀ f, Q f → Q (Function.update f update.userId update.roleNames)) :
    Keeps (Bounded Q good workspaceId) (updateUserRole issuer w update now) := by
  refine Triple.bind (R := fun _ st => Bounded Q good workspaceId st ∧ issuer ≠ update.userId) ?_ fun _ => ?_
  · refine Triple.imp (Triple.with_exec (updateUserRoleGuard_reads issuer w update now).keeps) (fun _ h => h) ?_
      fun _ h => h
    rintro ⟨⟩ st ⟨hst, st₀, -, hexec⟩
    exact ⟨hst, updateUserRoleGuard_ok hexec⟩
  · intro st ⟨hst, hother⟩
    refine (Triple.get_bind fun st hst => ?_ : Keeps (Bounded Q good workspaceId) _) st hst
    split
    · exact Triple.throw _ fun _ h => h ▸ hst
    · refine Triple.bind (R := fun _ => Bounded Q good workspaceId) (Triple.of_exec fun _ _ => ⟨?_, hst.pending⟩)
        fun _ => Triple.pure _ fun _ h => h
      by_cases hw : w = workspaceId
      · subst hw
        rw [rolesIn_replace rfl]
        exact (h rfl).resolve_left hother _ hst.roles
      · rw [rolesIn_elsewhere rfl hw]
        exact hst.roles

/-- **Each guarded request keeps the bound.** -/
theorem bounded_step (hQ : RoleBound Q good) {st st' : AccessStore} {a : AccessAction}
    (hst : Bounded Q good workspaceId st) (hguard : requestGuard Q good workspaceId st a)
    (hstep : accessStep st a = some st') : Bounded Q good workspaceId st' := by
  cases hstep
  have hunit : ∀ {α : Type} (m : Access α), (exec (m *> return ()) st).2 = (exec m st).2 := by
    intro α m
    rw [seqRight_eq_bind, exec_bind]
    rcases exec m st with ⟨_ | a, st'⟩ <;> rfl
  cases a with
  | createWorkspace n ownerId => exact hguard.elim
  | addToWorkspace w userId role => exact hguard.elim
  | removeFromWorkspace w userId => exact hguard.elim
  | userVerified userId n => exact hguard.elim
  | acceptInvitation invitationId now =>
    exact (Keeps.bind (bounded_acceptInvitation hQ invitationId now) fun _ => Keeps.pure _).after hst
  | updateUserRole issuer w update now =>
    change Bounded Q good workspaceId (exec (updateUserRole issuer w update now *> return ()) st).2
    rw [hunit]
    by_cases hw : w = workspaceId
    · rcases hguard hw with hlacks | hnamed
      · rw [updateUserRole_refused hlacks]
        exact hst
      · exact (bounded_updateUserRole fun _ => hnamed).after hst
    · exact (bounded_updateUserRole fun h => absurd h hw).after hst
  | inviteToOrganization blocklist issuer w email roles now id =>
    change Bounded Q good workspaceId
      (exec (inviteToOrganization blocklist issuer w email roles now id *> return ()) st).2
    rw [hunit]
    by_cases hw : w = workspaceId
    · rcases hguard hw with hlacks | hgood
      · unfold inviteToOrganization
        obtain ⟨e, he⟩ := refused now _ hlacks
        rw [he]
        exact hst
      · exact (bounded_inviteToOrganization (fun _ => hgood) _ _ _ _ _ _).after hst
    · exact (bounded_inviteToOrganization (fun h => absurd h hw) _ _ _ _ _ _).after hst

theorem bounded_run (hQ : RoleBound Q good) {st st' : AccessStore} {actions : List AccessAction}
    (hst : Bounded Q good workspaceId st)
    (hguard : Machine.Along accessStep (requestGuard Q good workspaceId) st actions)
    (hrun : Machine.run accessStep st actions = some st') : Bounded Q good workspaceId st' :=
  Machine.run_along (fun _ _ _ hst hg hstep => bounded_step hQ hst hg hstep) hst hguard hrun

/-! ## Permissions within a set -/

/-- All permissions of the user in the workspace are in `S`. -/
def AccessStore.within (st : AccessStore) (S : WorkspacePermission → Prop) (userId : UserId)
    (workspaceId : WorkspaceId) :
    Prop :=
  ∀ p, has (permissionsOf (st.rolesIn userId workspaceId)) p = true → S p

/-- A request that changes roles, issued by a user whose permissions in the workspace are in `S`. -/
def requestWithin (S : WorkspacePermission → Prop) (workspaceId : WorkspaceId) (st : AccessStore) : AccessAction → Prop
  | .updateUserRole issuer _ _ _ => st.within S issuer workspaceId
  | .inviteToOrganization _ issuer _ _ _ _ _ => st.within S issuer workspaceId
  | .acceptInvitation _ _ => True
  | _ => False

/-- A request that changes roles; an update of the user's own roles in the workspace by another user who may update
roles there keeps the role. -/
def requestSparing (userId : UserId) (role : Role) (workspaceId : WorkspaceId) (st : AccessStore) : AccessAction → Prop
  | .updateUserRole issuer w update _ => w = workspaceId → update.userId = userId → issuer ≠ userId →
      st.lacks issuer w .updateRoles ∨ has update.roleNames role = true
  | .inviteToOrganization _ _ _ _ _ _ _ => True
  | .acceptInvitation _ _ => True
  | _ => False

def HasAdmin (S : WorkspacePermission → Prop) : Prop := ∀ p, has workspaceAdminPermissions p = true → S p

theorem admin_of_role {role : Role} {p : WorkspacePermission} (hp : p = .updateRoles ∨ p = .inviteTo)
    (h : has (rolesToPermissions role) p = true) :
    ∀ q : WorkspacePermission, has workspaceAdminPermissions q = true → has (rolesToPermissions role) q = true := by
  intro q
  revert h
  rcases hp with rfl | rfl <;> cases role <;> cases q <;> decide

theorem lacks_of_within {S : WorkspacePermission → Prop} (hS : ¬ HasAdmin S) {st : AccessStore} {userId : UserId}
    {workspaceId : WorkspaceId} (hwithin : st.within S userId workspaceId) {p : WorkspacePermission}
    (hp : p = .updateRoles ∨ p = .inviteTo) : st.lacks userId workspaceId p := by
  rw [AccessStore.lacks, ← Bool.not_eq_true]
  intro hhas
  obtain ⟨role, hrole, hperm⟩ := has_permissionsOf.1 hhas
  exact hS fun q hq => hwithin q (has_permissionsOf.2 ⟨role, hrole, admin_of_role hp hperm q hq⟩)

theorem owner_cases {p : WorkspacePermission} (h : has workspaceOwnerPermissions p = true) :
    has workspaceAdminPermissions p = true ∨ p = .delete := by
  revert h
  cases p <;> decide

theorem roleBound_within (S : WorkspacePermission → Prop) (st₀ : AccessStore) (workspaceId : WorkspaceId) :
    RoleBound (fun f => ∀ u, st₀.within S u workspaceId → ∀ p, has (permissionsOf (f u)) p = true → S p)
      (fun role => ∀ p, has (permissionsOf role) p = true → S p) := by
  refine ⟨fun f userId role hf hrole u hu p hp => ?_⟩
  by_cases h : u = userId
  · subst h
    rw [Function.update_self] at hp
    rcases has_permissionsOf_or.1 hp with hold | hnew
    · exact hf u hu p hold
    · exact hrole p hnew
  · rw [Function.update_of_ne h] at hp
    exact hf u hu p hp

theorem roleBound_has (userId : UserId) (role : Role) :
    RoleBound (fun f => has (f userId) role = true) (fun _ => True) := by
  refine ⟨fun f u roles hf _ => ?_⟩
  by_cases h : userId = u
  · subst h
    rw [Function.update_self, has_or, hf]
    rfl
  · rw [Function.update_of_ne h]
    exact hf

theorem within_of_hasAdmin {S : WorkspacePermission → Prop} (hS : HasAdmin S) (st : AccessStore) (userId : UserId)
    (workspaceId : WorkspaceId) : st.within (fun p => S p ∨ (p = .delete ∧ HasAdmin S)) userId workspaceId := by
  intro p hp
  obtain ⟨role, -, hperm⟩ := has_permissionsOf.1 hp
  rcases owner_cases (owner_of_role hperm) with hadmin | hdelete
  · exact Or.inl (hS p hadmin)
  · exact Or.inr ⟨hdelete, hS⟩

/-- **Requests of users within `S` raise nobody beyond `S`**, except to `delete` when `S` has all of an admin's
permissions; and a user keeps a role until another user who may update roles names them in an update without it. -/
theorem requests_run (workspaceId : WorkspaceId) (st₀ st : AccessStore) (actions : List AccessAction)
    (hrun : Machine.run accessStep st₀ actions = some st) :
    (∀ S : WorkspacePermission → Prop,
      (∀ i ∈ st₀.invitations.rows, i.workspaceId = workspaceId → ∀ p, has (permissionsOf i.role) p = true → S p) →
      Machine.Along accessStep (requestWithin S workspaceId) st₀ actions →
      ∀ userId, st₀.within S userId workspaceId →
        st.within (fun p => S p ∨ (p = .delete ∧ HasAdmin S)) userId workspaceId) ∧
    ∀ userId (role : Role), Machine.Along accessStep (requestSparing userId role workspaceId) st₀ actions →
      has (st₀.rolesIn userId workspaceId) role = true → has (st.rolesIn userId workspaceId) role = true := by
  constructor
  · intro S hpending hwithin userId huser
    by_cases hS : HasAdmin S
    · exact within_of_hasAdmin hS st userId workspaceId
    · have hguard : Machine.Along accessStep (requestGuard
          (fun f => ∀ u, st₀.within S u workspaceId → ∀ p, has (permissionsOf (f u)) p = true → S p)
          (fun role => ∀ p, has (permissionsOf role) p = true → S p) workspaceId) st₀ actions := by
        refine Machine.along_imp (fun st a ha => ?_) hwithin
        cases a with
        | updateUserRole issuer w update now =>
          rintro rfl
          exact Or.inl (lacks_of_within hS ha (Or.inl rfl))
        | inviteToOrganization blocklist issuer w email roles now id =>
          rintro rfl
          exact Or.inl (lacks_of_within hS ha (Or.inr rfl))
        | acceptInvitation invitationId now => trivial
        | createWorkspace n ownerId => exact ha
        | addToWorkspace w u role => exact ha
        | removeFromWorkspace w u => exact ha
        | userVerified u n => exact ha
      have hbound := bounded_run (roleBound_within S st₀ workspaceId) ⟨fun _ h => h, hpending⟩ hguard hrun
      exact fun p hp => Or.inl (hbound.roles userId huser p hp)
  · intro userId role hsparing hrole
    have hguard : Machine.Along accessStep (requestGuard (fun f => has (f userId) role = true) (fun _ => True)
        workspaceId) st₀ actions := by
      refine Machine.along_imp (fun st a ha => ?_) hsparing
      cases a with
      | updateUserRole issuer w update now =>
        intro hw
        by_cases hself : issuer = update.userId
        · exact Or.inr (Or.inl hself)
        · by_cases hu : update.userId = userId
          · subst hu
            rcases ha hw rfl hself with hlacks | hkept
            · exact Or.inl hlacks
            · exact Or.inr (Or.inr fun f _ => (congrArg (has · role) (Function.update_self ..)).trans hkept)
          · exact Or.inr (Or.inr fun f hf => (congrArg (has · role) (Function.update_of_ne (Ne.symm hu) ..)).trans hf)
      | inviteToOrganization blocklist issuer w email roles now id => exact fun _ => Or.inr fun _ => trivial
      | acceptInvitation invitationId now => trivial
      | createWorkspace n ownerId => exact ha
      | addToWorkspace w u role => exact ha
      | removeFromWorkspace w u => exact ha
      | userVerified u n => exact ha
    exact (bounded_run (roleBound_has userId role) ⟨hrole, fun _ _ _ => trivial⟩ hguard hrun).roles

/-! ## An admin among members -/

/-- Workspace 1 of user 11 with an admin 12 and a member 13. -/
def adminStore : AccessStore where
  users := acmeStore.users
  organizations := ⟨[{ acmeOrganization with members := [11, 12, 13] }], by decide⟩
  roleAssignments := ⟨[⟨11, 1, mask Role.workspaceOwner⟩, ⟨12, 1, mask Role.workspaceAdmin⟩,
    ⟨13, 1, mask Role.workspaceMember⟩], by decide⟩
  invitations := ⟨[⟨41, 1, "new@acme", mask Role.workspaceMember, none⟩], by decide⟩

/-- The admin makes the member an owner and takes all roles from the owner. -/
def adminUpdates : List AccessAction :=
  [.updateUserRole 12 1 ⟨13, false, false, true, false⟩ january,
   .updateUserRole 12 1 ⟨11, false, false, false, false⟩ january]

def adminSet (p : WorkspacePermission) : Prop := has workspaceAdminPermissions p = true

instance : DecidablePred adminSet := fun p => inferInstanceAs (Decidable (has workspaceAdminPermissions p = true))

/-- The admin makes the member an admin, and an invitation is accepted. -/
def grants : List AccessAction :=
  [.updateUserRole 12 1 ⟨13, true, true, false, false⟩ january, .acceptInvitation 41 january]

theorem grants_guarded : Machine.Along accessStep (requestWithin adminSet 1) adminStore grants ∧
    Machine.Along accessStep (requestSparing 11 Role.workspaceOwner 1) adminStore grants := by
  refine ⟨⟨fun p => ?_, fun _ _ => ⟨trivial, fun _ _ => trivial⟩⟩, fun _ hu => absurd hu (by decide), fun _ _ =>
    ⟨trivial, fun _ _ => trivial⟩⟩
  cases p <;> decide

theorem requests_run_grants :
    ∃ st, Machine.run accessStep adminStore grants = some st ∧
      (∀ userId, adminStore.within adminSet userId 1 →
        st.within (fun p => adminSet p ∨ (p = .delete ∧ HasAdmin adminSet)) userId 1) ∧
      has (st.rolesIn 13 1) Role.workspaceAdmin = true ∧ has (st.rolesIn 11 1) Role.workspaceOwner = true := by
  have hpending : ∀ i ∈ adminStore.invitations.rows, i.workspaceId = 1 → ∀ p, has (permissionsOf i.role) p = true →
      adminSet p := by
    intro i hi _ p
    rw [List.mem_singleton.1 hi]
    cases p <;> decide
  obtain ⟨hwithin, hkept⟩ := requests_run 1 adminStore _ grants rfl
  exact ⟨_, rfl, hwithin adminSet hpending grants_guarded.1, by decide +kernel,
    hkept 11 Role.workspaceOwner grants_guarded.2 (by decide)⟩

/-- The issuer of both updates is no owner and within the admin's permissions, the member was within them and obtains
`delete`, and the owner loses the role. -/
theorem adminUpdates_escalate : ∃ st₁ st, Machine.run accessStep adminStore adminUpdates = some st ∧
    Machine.run accessStep adminStore [.updateUserRole 12 1 ⟨13, false, false, true, false⟩ january] = some st₁ ∧
    adminStore.within adminSet 12 1 ∧ st₁.within adminSet 12 1 ∧ adminStore.within adminSet 13 1 ∧
    ¬ st.within adminSet 13 1 ∧
    adminStore.organizations.find 1 = some { acmeOrganization with members := [11, 12, 13] } ∧
    has (adminStore.rolesIn 11 1) Role.workspaceOwner = true ∧ has (st.rolesIn 11 1) Role.workspaceOwner = false := by
  refine ⟨_, _, rfl, rfl, ?_, ?_, ?_, ?_, by decide, by decide, by decide⟩
  · intro p
    cases p <;> decide
  · intro p
    cases p <;> decide
  · intro p
    cases p <;> decide
  · intro h
    exact absurd (h .delete (by decide)) (by decide)

end Fix
