import FixBackend.Access
import FixBackend.Machine
/-!
# AccessRoles — roles imply membership, step by step

A join writes a membership and a role in one transaction; leaving deletes the membership alone, and the role update
asks for no membership.  The invariant holds along every run in which neither of the two parts them.
-/
namespace Fix

open Calendar IntFlag Effects

/-! ## The operations in any order -/

inductive AccessAction where
  | createWorkspace (n : NewWorkspace) (ownerId : UserId)
  | addToWorkspace (workspaceId : WorkspaceId) (userId : UserId) (role : Roles)
  | removeFromWorkspace (workspaceId : WorkspaceId) (userId : UserId)
  | updateUserRole (issuer : UserId) (workspaceId : WorkspaceId) (update : UserRolesUpdate) (now : DateTime)
  | inviteToOrganization (blocklist : List String) (issuer : UserId) (workspaceId : WorkspaceId) (email : String)
      (roles : List Role) (now : DateTime) (id : InvitationId)
  | acceptInvitation (invitationId : InvitationId) (now : DateTime)
  | userVerified (userId : UserId) (n : NewWorkspace)

def userVerified (userId : UserId) (n : NewWorkspace) : Access PUnit := do
  let st ← get
  match st.getUser userId with
  | none => return ()
  | some user => addUserToWorkspace user n

def AccessAction.perform : AccessAction → Access PUnit
  | .createWorkspace n ownerId => Fix.createWorkspace n ownerId *> return ()
  | .addToWorkspace workspaceId userId role => Fix.addToWorkspace workspaceId userId role
  | .removeFromWorkspace workspaceId userId => Fix.removeFromWorkspace workspaceId userId
  | .updateUserRole issuer workspaceId update now => Fix.updateUserRole issuer workspaceId update now *> return ()
  | .inviteToOrganization blocklist issuer workspaceId email roles now id =>
    Fix.inviteToOrganization blocklist issuer workspaceId email roles now id *> return ()
  | .acceptInvitation invitationId now => Fix.acceptInvitation invitationId now *> return ()
  | .userVerified userId n => Fix.userVerified userId n

def accessStep (st : AccessStore) (a : AccessAction) : Option AccessStore := some (exec a.perform st).2

/-! ## Roles and memberships of a store -/

namespace AccessStore

def isUserOf (st : AccessStore) (userId : UserId) (workspaceId : WorkspaceId) : Prop :=
  ∃ o, st.organizations.find workspaceId = some o ∧ (userId = o.ownerId ∨ userId ∈ o.members)

/-- **Roles imply membership.** -/
def RolesImplyMembership (st : AccessStore) : Prop :=
  ∀ userId workspaceId, st.rolesIn userId workspaceId ≠ 0 → st.isUserOf userId workspaceId

end AccessStore

theorem find_withRoles (t : RoleAssignments) (userId : UserId) (workspaceId : WorkspaceId) (roles : Roles)
    (replaceExisting : Bool) (k : UserId × WorkspaceId) :
    (((withRoles t userId workspaceId roles replaceExisting).find k).map (·.roleNames)).getD 0 =
      if k = (userId, workspaceId) then
        if replaceExisting then roles else ((t.find (userId, workspaceId)).map (·.roleNames)).getD 0 ||| roles
      else ((t.find k).map (·.roleNames)).getD 0 := by
  have hput : ∀ r : UserRole, r.key = (userId, workspaceId) →
      (t.put r).find k = if k = (userId, workspaceId) then some r else t.find k := by
    intro r hr
    by_cases hk : k = (userId, workspaceId)
    · rw [if_pos hk, hk, ← hr, Table.find_put_self]
    · rw [if_neg hk, Table.find_put_of_ne t (by rw [hr]; exact hk)]
  unfold withRoles
  cases hfind : t.find (userId, workspaceId) with
  | some existing =>
    dsimp only
    rw [hput _ rfl]
    split <;> rfl
  | none =>
    dsimp only
    rw [hput _ rfl]
    split
    · simp
    · rfl

theorem rolesIn_withRoles {st st' : AccessStore} {userId : UserId} {workspaceId : WorkspaceId} {roles : Roles}
    (replaceExisting : Bool)
    (h : st'.roleAssignments = withRoles st.roleAssignments userId workspaceId roles replaceExisting)
    (u : UserId) (w : WorkspaceId) :
    st'.rolesIn u w = if (u, w) = (userId, workspaceId) then
        if replaceExisting then roles else st.rolesIn userId workspaceId ||| roles
      else st.rolesIn u w := by
  unfold AccessStore.rolesIn
  rw [h]
  exact find_withRoles _ _ _ _ _ _

theorem permitted_getUser {st : AccessStore} {userId : UserId} {user : User} (h : st.getUser userId = some user)
    (workspaceId : WorkspaceId) (p : WorkspacePermission) :
    user.permitted workspaceId p = has (permissionsOf (st.rolesIn userId workspaceId)) p := by
  unfold AccessStore.getUser at h
  obtain ⟨e, he, rfl⟩ := Option.map_eq_some_iff.1 h
  have hid : e.id = userId := Table.key_of_find he
  rw [Bool.eq_iff_iff, permitted_iff]
  unfold AccessStore.rolesIn
  constructor
  · rintro ⟨r, hr, hw, hp⟩
    obtain ⟨hmem, hu⟩ := List.mem_filter.1 hr
    have hfind : st.roleAssignments.find (userId, workspaceId) = some r :=
      (Table.find_eq_some_iff _ _ _).2 ⟨hmem, Prod.ext ((of_decide_eq_true hu).trans hid) hw⟩
    rw [hfind]
    exact hp
  · intro hp
    cases hfind : st.roleAssignments.find (userId, workspaceId) with
    | none =>
      rw [hfind] at hp
      simp at hp
    | some r =>
      rw [hfind] at hp
      obtain ⟨hmem, hkey⟩ := (Table.find_eq_some_iff _ _ _).1 hfind
      exact ⟨r, List.mem_filter.2 ⟨hmem, decide_eq_true ((congrArg Prod.fst hkey).trans hid.symm)⟩,
        congrArg Prod.snd hkey, hp⟩

theorem userId_of_getUser {st : AccessStore} {userId : UserId} {user : User} (h : st.getUser userId = some user) :
    user.id = userId := by
  unfold AccessStore.getUser at h
  obtain ⟨e, he, rfl⟩ := Option.map_eq_some_iff.1 h
  have hid : e.id = userId := Table.key_of_find he
  exact hid

/-! ## What one operation keeps -/

variable {I : AccessStore → Prop}

/-- A call that only reads the state and may raise. -/
def ReadsOnly {α : Type} (m : Access α) : Prop := ∀ st, (exec m st).2 = st

theorem ReadsOnly.keeps {α : Type} {m : Access α} (h : ReadsOnly m) : Keeps I m := by
  refine Triple.of_exec fun st hst => ?_
  have := h st
  rcases hr : exec m st with ⟨_ | a, st'⟩ <;>
  · rw [hr] at this
    subst this
    exact hst

theorem ReadsOnly.bind {α β : Type} {m : Access α} {f : α → Access β} (hm : ReadsOnly m) (hf : ∀ a, ReadsOnly (f a)) :
    ReadsOnly (m >>= f) := by
  intro st
  have := hm st
  rw [exec_bind]
  rcases hr : exec m st with ⟨_ | a, st'⟩
  · rw [hr] at this
    exact this
  · rw [hr] at this
    subst this
    exact hf a st'

theorem authenticatedUser_reads (userId : UserId) : ReadsOnly (authenticatedUser userId) := by
  intro st
  unfold authenticatedUser
  rw [exec_bind, exec_get]
  dsimp only
  split
  · rfl
  · split
    · rfl
    · split <;> rfl

theorem getUserWorkspace_reads (workspaceId : WorkspaceId) (user : User) (now : DateTime) :
    ReadsOnly (getUserWorkspace workspaceId user now) := by
  intro st
  unfold getUserWorkspace
  rw [exec_bind, exec_get]
  dsimp only
  split
  · rfl
  · split
    · rfl
    · split
      · rfl
      · split <;> rfl

theorem requirePermissions_reads (required : WorkspacePermissions) (user : User) (workspaceId : WorkspaceId) :
    ReadsOnly (requirePermissions required user workspaceId) := by
  intro st
  unfold requirePermissions
  split <;> rfl

theorem updateUserRoleGuard_reads (issuer : UserId) (workspaceId : WorkspaceId) (update : UserRolesUpdate)
    (now : DateTime) : ReadsOnly (updateUserRoleGuard issuer workspaceId update now) := by
  refine (authenticatedUser_reads issuer).bind fun user => (getUserWorkspace_reads _ _ _).bind fun _ =>
    (requirePermissions_reads _ _ _).bind fun _ => ?_
  intro st
  split <;> rfl

theorem rolesImplyMembership_of {st st' : AccessStore} (h : st.RolesImplyMembership)
    (hroles : ∀ u w, st'.rolesIn u w ≠ 0 → st.rolesIn u w ≠ 0 ∨ st'.isUserOf u w)
    (husers : ∀ u w, st.isUserOf u w → st'.isUserOf u w) : st'.RolesImplyMembership := by
  intro u w hne
  rcases hroles u w hne with hold | hnew
  · exact husers u w (h u w hold)
  · exact hnew

theorem rolesImplyMembership_withRoles {st st' : AccessStore} {userId : UserId} {workspaceId : WorkspaceId}
    {roles : Roles} (replaceExisting : Bool) (h : st.RolesImplyMembership)
    (hroles : st'.roleAssignments = withRoles st.roleAssignments userId workspaceId roles replaceExisting)
    (husers : ∀ u w, st.isUserOf u w → st'.isUserOf u w)
    (huser : st'.rolesIn userId workspaceId ≠ 0 → st'.isUserOf userId workspaceId) : st'.RolesImplyMembership := by
  refine rolesImplyMembership_of h (fun u w hne => ?_) husers
  by_cases hk : (u, w) = (userId, workspaceId)
  · obtain ⟨rfl, rfl⟩ := Prod.mk.inj hk
    exact Or.inr (huser hne)
  · rw [rolesIn_withRoles replaceExisting hroles, if_neg hk] at hne
    exact Or.inl hne

theorem isUserOf_replace {st st' : AccessStore} {o : Organization} (o' : Organization)
    (hfind : st.organizations.find o'.id = some o)
    (horg : st'.organizations = st.organizations.replace o') (howner : o'.ownerId = o.ownerId)
    (hmembers : ∀ u ∈ o.members, u ∈ o'.members) (u : UserId) (w : WorkspaceId) (h : st.isUserOf u w) :
    st'.isUserOf u w := by
  obtain ⟨x, hx, hu⟩ := h
  unfold AccessStore.isUserOf
  rw [horg]
  by_cases hw : w = o'.id
  · subst hw
    rw [hfind] at hx
    cases hx
    exact ⟨o', Table.find_replace_self hfind, hu.imp (fun h => h.trans howner.symm) (hmembers u)⟩
  · exact ⟨x, (Table.find_replace_of_ne _ hw).trans hx, hu⟩

theorem isUserOf_insert {st st' : AccessStore} {o : Organization} (hnone : st.organizations.find o.id = none)
    (horg : st'.organizations = st.organizations.insert o hnone) (u : UserId) (w : WorkspaceId) (h : st.isUserOf u w) :
    st'.isUserOf u w := by
  obtain ⟨x, hx, hu⟩ := h
  unfold AccessStore.isUserOf
  rw [horg]
  have hw : w ≠ o.id := by
    rintro rfl
    rw [hnone] at hx
    cases hx
  exact ⟨x, (Table.find_insert_of_ne _ _ hnone hw).trans hx, hu⟩

open AccessStore (RolesImplyMembership)

theorem keeps_createWorkspace (n : NewWorkspace) (ownerId : UserId) :
    Keeps RolesImplyMembership (createWorkspace n ownerId) := by
  refine Triple.get_bind fun st hst => ?_
  extract_lets row
  split
  · rename_i hnone
    split
    · exact Triple.throw _ fun _ h => h ▸ hst
    · refine Triple.bind (Triple.of_exec fun _ _ => ?_) fun _ => Triple.pure _ fun _ h => h
      refine rolesImplyMembership_withRoles false hst rfl (isUserOf_insert hnone rfl) fun _ => ?_
      exact ⟨_, Table.find_insert_self _ _ hnone, Or.inl rfl⟩
  · exact Triple.throw _ fun _ h => h ▸ hst

theorem keeps_addToWorkspace (workspaceId : WorkspaceId) (userId : UserId) (role : Roles) :
    Keeps RolesImplyMembership (addToWorkspace workspaceId userId role) := by
  refine Triple.get_bind fun st hst => ?_
  split
  · exact Triple.throw _ fun _ h => h ▸ hst
  · rename_i o hfind
    obtain rfl := Table.key_of_find hfind
    split
    · exact Triple.pure _ fun _ h => h ▸ hst
    · split
      · exact Triple.throw _ fun _ h => h ▸ hst
      · refine Triple.of_exec fun _ _ => ?_
        have hself := Table.find_replace_self (r := { o with members := o.members ++ [userId] }) hfind
        refine rolesImplyMembership_withRoles false hst rfl
          (isUserOf_replace { o with members := o.members ++ [userId] } hfind rfl rfl
            fun u hu => List.mem_append_left _ hu) fun _ => ?_
        exact ⟨_, hself, Or.inr (List.mem_append_right _ (List.mem_singleton_self _))⟩

theorem keeps_setInvitations {st : AccessStore} (hst : st.RolesImplyMembership)
    (invitations : Table WorkspaceInvitation.id) {P : AccessStore → Prop} :
    Triple P (set { st with invitations := invitations } : Access PUnit) (fun _ => RolesImplyMembership)
      RolesImplyMembership :=
  Triple.of_exec fun _ _ => hst

theorem keeps_deleteInvitation (workspaceId : WorkspaceId) (id : InvitationId) :
    Keeps RolesImplyMembership (deleteInvitation workspaceId id) := by
  refine Triple.get_bind fun st hst => ?_
  split
  · exact Triple.pure _ fun _ h => h ▸ hst
  · split
    · exact Triple.throw _ fun _ h => h ▸ hst
    · exact keeps_setInvitations hst _

section Accepting

variable {I : AccessStore → Prop} (hadd : ∀ workspaceId userId role, Keeps I (addToWorkspace workspaceId userId role))
  (hdelete : ∀ workspaceId id, Keeps I (deleteInvitation workspaceId id))
include hadd hdelete

theorem joinInvited_keeps (invitation : WorkspaceInvitation) : Keeps I (joinInvited invitation) := by
  refine Keeps.bind Keeps.get fun st => ?_
  split
  · exact Keeps.pure _
  · exact Keeps.bind (hadd _ _ _) fun _ => hdelete _ _

theorem acceptInvitation_keeps (haccepted : ∀ (st : AccessStore) (invitation : WorkspaceInvitation)
    (acceptedAt : Option DateTime), I st → invitation ∈ st.invitations.rows →
      I { st with invitations := st.invitations.replace { invitation with acceptedAt := acceptedAt } })
    (invitationId : InvitationId) (now : DateTime) : Keeps I (acceptInvitation invitationId now) := by
  refine Triple.get_bind fun st hst => ?_
  split
  · exact Triple.pure _ fun _ h => h ▸ hst
  · rename_i invitation hfind
    split
    · exact Triple.pure _ fun _ h => h ▸ hst
    · split
      · exact Triple.pure _ fun _ h => h ▸ hst
      · refine Triple.bind (Triple.of_exec fun _ _ => ?_) fun _ =>
          Keeps.bind (joinInvited_keeps hadd hdelete invitation) fun _ => Keeps.pure _
        exact haccepted st invitation (some now) hst (Table.mem_of_find hfind)

end Accepting

theorem keeps_acceptInvitation (invitationId : InvitationId) (now : DateTime) :
    Keeps RolesImplyMembership (acceptInvitation invitationId now) :=
  acceptInvitation_keeps keeps_addToWorkspace keeps_deleteInvitation (fun _ _ _ hst _ => hst) invitationId now

theorem keeps_userVerified (userId : UserId) (n : NewWorkspace) :
    Keeps RolesImplyMembership (userVerified userId n) := by
  have hcreate : ∀ user : User, Keeps RolesImplyMembership (createWorkspace n user.id *> return ()) := fun user =>
    Keeps.bind (keeps_createWorkspace n user.id) fun _ => Keeps.pure _
  refine Triple.get_bind fun st hst => ?_
  refine Triple.imp ?_ (fun _ h => h ▸ hst) (fun _ _ h => h) fun _ h => h
  split
  · exact Keeps.pure _
  · refine Triple.get_bind fun st' hst' => ?_
    refine Triple.imp ?_ (fun _ h => h ▸ hst') (fun _ _ h => h) fun _ h => h
    split
    · exact hcreate _
    · split
      · exact hcreate _
      · split
        · exact Keeps.bind (keeps_addToWorkspace _ _ _) fun _ => keeps_deleteInvitation _ _
        · exact Keeps.bind (keeps_createWorkspace _ _) fun _ => keeps_deleteInvitation _ _
    · exact Keeps.throw _

theorem keeps_createInvitation (workspaceId : WorkspaceId) (email : String) (role : Roles) (id : InvitationId) :
    Keeps RolesImplyMembership (createInvitation workspaceId email role id) := by
  refine Triple.get_bind fun st hst => ?_
  split
  · exact Triple.pure _ fun _ h => h ▸ hst
  · split
    · exact Triple.throw _ fun _ h => h ▸ hst
    · split
      · exact Triple.throw _ fun _ h => h ▸ hst
      · dsimp only
        split
        · exact Triple.bind (keeps_setInvitations hst _) fun _ => Keeps.pure _
        · exact Triple.throw _ fun _ h => h ▸ hst

theorem keeps_inviteToOrganization (blocklist : List String) (issuer : UserId) (workspaceId : WorkspaceId)
    (email : String) (roles : List Role) (now : DateTime) (id : InvitationId) :
    Keeps RolesImplyMembership (inviteToOrganization blocklist issuer workspaceId email roles now id) := by
  refine Keeps.bind (authenticatedUser_reads _).keeps fun user => Keeps.bind (getUserWorkspace_reads _ _ _).keeps
    fun workspace => Keeps.bind (requirePermissions_reads _ _ _).keeps fun _ => ?_
  dsimp only
  split
  · exact Keeps.throw _
  · refine Triple.get_bind fun st hst => ?_
    refine Triple.imp ?_ (fun _ h => h ▸ hst) (fun _ _ h => h) fun _ h => h
    split
    · exact Keeps.throw _
    · split
      · exact Keeps.throw _
      · split
        · exact Keeps.throw _
        · exact keeps_createInvitation _ _ _ _

/-! ## The condition of a step -/

/-- Whoever leaves has no role left, and a role update gives roles to users of the workspace only. -/
def accessGuard (st : AccessStore) : AccessAction → Prop
  | .removeFromWorkspace workspaceId userId =>
    ∀ o, st.organizations.find workspaceId = some o → userId ∈ o.members → userId = o.ownerId ∨
      st.rolesIn userId workspaceId = 0
  | .updateUserRole issuer workspaceId update now =>
    (exec (updateUserRoleGuard issuer workspaceId update now) st).1 = .ok () →
      update.roleNames = 0 ∨ st.isUserOf update.userId workspaceId
  | _ => True

theorem removeFromWorkspace_keeps {workspaceId : WorkspaceId} {userId : UserId} {st : AccessStore}
    (hst : st.RolesImplyMembership) (hguard : accessGuard st (.removeFromWorkspace workspaceId userId)) :
    (exec (removeFromWorkspace workspaceId userId) st).2.RolesImplyMembership := by
  unfold removeFromWorkspace
  rw [exec_bind, exec_get]
  dsimp only
  cases hfind : st.organizations.find workspaceId with
  | none => exact hst
  | some o =>
    dsimp only
    split
    · rename_i hmem
      obtain rfl := Table.key_of_find hfind
      rw [exec_set]
      intro u w hne
      have hold : st.isUserOf u w := hst u w hne
      obtain ⟨x, hx, hu⟩ := hold
      by_cases hw : w = o.id
      · subst hw
        rw [hfind] at hx
        cases hx
        refine ⟨_, Table.find_replace_self
          (r := { o with members := o.members.filter (fun m => decide (m ≠ userId)) }) hfind, ?_⟩
        by_cases hself : u = userId
        · -- the one who leaves has a role, so it is the owner
          subst hself
          exact Or.inl ((hguard o hfind hmem).resolve_right hne)
        · exact hu.imp_right fun h => List.mem_filter.2 ⟨h, decide_eq_true hself⟩
      · have hother := Table.find_replace_of_ne st.organizations
          (r := { o with members := o.members.filter (fun m => decide (m ≠ userId)) }) hw
        exact ⟨x, hother.trans hx, hu⟩
    · exact hst

theorem updateUserRole_keeps {issuer : UserId} {workspaceId : WorkspaceId} {update : UserRolesUpdate} {now : DateTime}
    {st : AccessStore} (hst : st.RolesImplyMembership)
    (hguard : accessGuard st (.updateUserRole issuer workspaceId update now)) :
    (exec (updateUserRole issuer workspaceId update now) st).2.RolesImplyMembership := by
  unfold updateUserRole
  rw [exec_bind]
  have hreads := updateUserRoleGuard_reads issuer workspaceId update now st
  rcases hr : exec (updateUserRoleGuard issuer workspaceId update now) st with ⟨_ | u, st'⟩
  · rw [hr] at hreads
    exact hreads ▸ hst
  · rw [hr] at hreads
    dsimp only at hreads ⊢
    subst hreads
    have htarget := hguard (by rw [hr])
    unfold addRoles
    rw [exec_bind, exec_get]
    dsimp only
    split
    · exact hst
    · refine rolesImplyMembership_withRoles true hst rfl (fun _ _ h => h) fun hne => ?_
      rw [rolesIn_withRoles true rfl, if_pos rfl, if_pos rfl] at hne
      exact htarget.resolve_left hne

/-- **Each step under its condition keeps roles within memberships.** -/
theorem accessStep_keeps {st : AccessStore} {a : AccessAction} {st' : AccessStore} (hst : st.RolesImplyMembership)
    (hguard : accessGuard st a) (hstep : accessStep st a = some st') : st'.RolesImplyMembership := by
  cases hstep
  have hunit : ∀ {α : Type} {m : Access α}, Keeps RolesImplyMembership m →
      Keeps RolesImplyMembership (m *> return ()) :=
    fun h => Keeps.bind h fun _ => Keeps.pure _
  cases a with
  | createWorkspace n ownerId => exact (hunit (keeps_createWorkspace n ownerId)).after hst
  | addToWorkspace workspaceId userId role => exact (keeps_addToWorkspace workspaceId userId role).after hst
  | removeFromWorkspace workspaceId userId => exact removeFromWorkspace_keeps hst hguard
  | updateUserRole issuer workspaceId update now =>
    have := updateUserRole_keeps hst hguard
    change (exec (updateUserRole issuer workspaceId update now *> return ()) st).2.RolesImplyMembership
    rw [seqRight_eq_bind, exec_bind]
    rcases hr : exec (updateUserRole issuer workspaceId update now) st with ⟨_ | r, st'⟩ <;>
    · rw [hr] at this
      exact this
  | inviteToOrganization blocklist issuer workspaceId email roles now id =>
    exact (hunit (keeps_inviteToOrganization blocklist issuer workspaceId email roles now id)).after hst
  | acceptInvitation invitationId now => exact (hunit (keeps_acceptInvitation invitationId now)).after hst
  | userVerified userId n => exact (keeps_userVerified userId n).after hst

/-! ## Leaving and joining again -/

theorem validate_of_rolesIn_zero {st : AccessStore} {userId : UserId} {user : User} {workspaceId : WorkspaceId}
    (huser : st.getUser userId = some user) (hzero : st.rolesIn userId workspaceId = 0)
    {required : WorkspacePermissions} {p : WorkspacePermission} (hp : has required p = true) :
    validateWorkspacePermissions user workspaceId required ≠ none := by
  intro hnone
  have := validate_eq_none_iff.1 hnone p hp
  rw [permitted_getUser huser, hzero, permissionsOf_zero, has_zero] at this
  cases this

theorem not_isUserOf_removed {st : AccessStore} {userId : UserId} {workspaceId : WorkspaceId}
    (howner : ∀ o, st.organizations.find workspaceId = some o → userId ≠ o.ownerId) :
    ¬ (exec (removeFromWorkspace workspaceId userId) st).2.isUserOf userId workspaceId := by
  unfold removeFromWorkspace
  rw [exec_bind, exec_get]
  dsimp only
  rintro ⟨x, hx, hu⟩
  cases hfind : st.organizations.find workspaceId with
  | none =>
    rw [hfind] at hx
    dsimp only [exec_pure] at hx
    rw [hfind] at hx
    cases hx
  | some o =>
    rw [hfind] at hx
    dsimp only at hx
    have hne := howner o hfind
    by_cases hmem : userId ∈ o.members
    · rw [if_pos hmem, exec_set] at hx
      obtain rfl := Table.key_of_find hfind
      have hself := Table.find_replace_self
        (r := { o with members := o.members.filter (fun m => decide (m ≠ userId)) }) hfind
      obtain rfl := Option.some.inj (hself.symm.trans hx)
      rcases hu with hu | hu
      · exact hne hu
      · exact absurd rfl (of_decide_eq_true (List.mem_filter.1 hu).2)
    · rw [if_neg hmem, exec_pure] at hx
      obtain rfl := Option.some.inj (hfind.symm.trans hx)
      exact hu.elim hne hmem

theorem rolesIn_addToWorkspace {st st' : AccessStore} {userId : UserId} {workspaceId : WorkspaceId} {role : Roles}
    (hnot : ¬ st.isUserOf userId workspaceId) (hzero : st.rolesIn userId workspaceId = 0)
    (hjoin : exec (addToWorkspace workspaceId userId role) st = (.ok (), st')) :
      st'.rolesIn userId workspaceId = role := by
  unfold addToWorkspace at hjoin
  rw [exec_bind, exec_get] at hjoin
  dsimp only at hjoin
  cases hfind : st.organizations.find workspaceId with
  | none =>
    rw [hfind] at hjoin
    cases hjoin
  | some o =>
    rw [hfind] at hjoin
    dsimp only at hjoin
    rw [if_neg fun hmem => hnot ⟨o, hfind, Or.inr hmem⟩] at hjoin
    split at hjoin
    · cases hjoin
    · cases hjoin
      rw [rolesIn_withRoles false rfl, if_pos rfl, hzero]
      exact Nat.zero_or role

/-- **Roles imply membership** in every state of a run in which whoever leaves has no role left and roles are given to
users of the workspace only; then a removed user who is not the owner has no permission in the workspace, and one who
joins again has exactly the role of the new invitation. -/
theorem rolesImplyMembership_run {st₀ st : AccessStore} {actions : List AccessAction} (h₀ : st₀.RolesImplyMembership)
    (hguard : Machine.Along accessStep accessGuard st₀ actions) (hrun : Machine.run accessStep st₀ actions = some st) :
    st.RolesImplyMembership ∧
    (∀ userId workspaceId, accessGuard st (.removeFromWorkspace workspaceId userId) →
      (∀ o, st.organizations.find workspaceId = some o → userId ≠ o.ownerId) →
      ∀ user required p, (exec (removeFromWorkspace workspaceId userId) st).2.getUser userId = some user →
        has required (p : WorkspacePermission) = true → validateWorkspacePermissions user workspaceId required ≠ none) ∧
    ∀ userId workspaceId role st', ¬ st.isUserOf userId workspaceId →
      exec (addToWorkspace workspaceId userId role) st = (.ok (), st') → st'.rolesIn userId workspaceId = role := by
  have hst : st.RolesImplyMembership :=
    Machine.run_along (fun _ _ _ hst hg hstep => accessStep_keeps hst hg hstep) h₀ hguard hrun
  refine ⟨hst, fun userId workspaceId hg howner user required p huser hp => ?_,
    fun userId workspaceId role st' hnot hjoin => ?_⟩
  · have hafter := removeFromWorkspace_keeps hst hg
    have hzero : (exec (removeFromWorkspace workspaceId userId) st).2.rolesIn userId workspaceId = 0 := by
      by_contra hne
      exact not_isUserOf_removed howner (hafter userId workspaceId hne)
    exact validate_of_rolesIn_zero huser hzero hp
  · have hzero : st.rolesIn userId workspaceId = 0 := by
      by_contra hne
      exact hnot (hst userId workspaceId hne)
    exact rolesIn_addToWorkspace hnot hzero hjoin

/-! ## A member that is removed -/

def january : DateTime := (⟨2024, 1, 1, valid_newYear⟩ : Date).atHour 9

def acmeOrganization : Organization :=
  NewWorkspace.row ⟨"acme", "acme", 1, 10, january⟩ false 11

/-- Workspace 1 of user 11, with users 12 and 13 who have not joined it. -/
theorem acmeOwner_unique : ([(⟨11, 1, mask Role.workspaceOwner⟩ : UserRole)].map UserRole.key).Nodup := by decide

def acmeStore : AccessStore where
  users := ⟨[⟨11, "owner@acme", true, true, none⟩, ⟨12, "admin@acme", true, true, none⟩,
    ⟨13, "member@acme", true, true, none⟩], by decide⟩
  organizations := ⟨[acmeOrganization], by decide⟩
  roleAssignments := ⟨[⟨11, 1, mask Role.workspaceOwner⟩], acmeOwner_unique⟩
  invitations := ⟨[], List.nodup_nil⟩

theorem acmeStore_rolesImplyMembership : acmeStore.RolesImplyMembership := by
  intro userId workspaceId hne
  by_cases hkey : (userId, workspaceId) = (11, 1)
  · obtain ⟨rfl, rfl⟩ := Prod.mk.inj hkey
    exact ⟨acmeOrganization, by decide, Or.inl rfl⟩
  · refine absurd ?_ hne
    have hnone : acmeStore.roleAssignments.find (userId, workspaceId) = none := by
      rw [Table.find_eq_none_iff]
      intro r hr
      rw [List.mem_singleton.1 hr]
      exact fun h => hkey h.symm
    unfold AccessStore.rolesIn
    rw [hnone]
    rfl

def adminJoins : AccessAction := .addToWorkspace 1 12 (mask Role.workspaceAdmin)

/-- The roles of the admin are cleared before the admin is removed, and the user comes back as a member. -/
def memberReturns : List AccessAction :=
  [adminJoins, .updateUserRole 11 1 ⟨12, false, false, false, false⟩ january, .removeFromWorkspace 1 12,
    .addToWorkspace 1 12 (mask Role.workspaceMember)]

theorem memberReturns_guarded : Machine.Along accessStep accessGuard acmeStore memberReturns := by
  refine ⟨trivial, fun st hjoined => ⟨fun _ => Or.inl rfl, fun st' hcleared => ⟨fun o _ _ => Or.inr ?_, fun _ _ =>
    ⟨trivial, fun _ _ => trivial⟩⟩⟩⟩
  obtain rfl := Option.some.inj hjoined
  obtain rfl := Option.some.inj hcleared
  decide

theorem rolesImplyMembership_run_memberReturns :
    ∃ st, Machine.run accessStep acmeStore memberReturns = some st ∧ st.RolesImplyMembership ∧
      st.rolesIn 12 1 = mask Role.workspaceMember :=
  ⟨_, rfl, (rolesImplyMembership_run acmeStore_rolesImplyMembership memberReturns_guarded rfl).1, by decide⟩

/-- The removed admin keeps the role and its permissions, and comes back as an admin when invited as a member. -/
theorem removedAdmin_keepsRole : ∃ st st' user, Machine.run accessStep acmeStore
      [adminJoins, .removeFromWorkspace 1 12] = some st ∧
    st.rolesIn 12 1 ≠ 0 ∧ ¬ st.RolesImplyMembership ∧ st.getUser 12 = some user ∧
    validateWorkspacePermissions user 1 (mask WorkspacePermission.updateRoles) = none ∧
    accessStep st (.addToWorkspace 1 12 (mask Role.workspaceMember)) = some st' ∧
    st'.rolesIn 12 1 = mask Role.workspaceMember ||| mask Role.workspaceAdmin := by
  refine ⟨_, _, _, rfl, by decide, fun h => ?_, rfl, by decide, rfl, by decide⟩
  obtain ⟨o, ho, hu⟩ := h 12 1 (by decide)
  obtain rfl := Option.some.inj (show some { acmeOrganization with members := [11] } = some o from ho)
  revert hu
  decide

end Fix
