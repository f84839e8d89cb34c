import FixBackend.AccessRoles
/-!
# RoleHistories — the roles after any calls, and what they grant

`RoleRepository.add_roles` and `remove_roles` of `fixbackend/permissions/role_repository.py` in any order, next to the
algebra of sets: the sets of roles that the users hold in the workspaces, changed by union, replacement and difference,
and the permissions that are required as a subset of those that the roles grant.
-/
namespace Fix

open IntFlag Effects

def removeRoles (userId : UserId) (workspaceId : WorkspaceId) (roles : Roles) : Access PUnit := do
  let st ← get
  match st.roleAssignments.find (userId, workspaceId) with
  | none => return ()
  | some existing =>
    let newNames := existing.roleNames &&& complement Role roles
    set { st with roleAssignments := st.roleAssignments.put ⟨userId, workspaceId, newNames⟩ }

example : complement Role (mask Role.workspaceMember) =
    mask Role.workspaceAdmin ||| mask Role.workspaceOwner ||| mask Role.workspaceBillingAdmin := by decide +kernel

namespace RoleHistories

inductive RoleCall where
  | addRoles (userId : UserId) (workspaceId : WorkspaceId) (roles : Roles) (replaceExisting : Bool)
  | removeRoles (userId : UserId) (workspaceId : WorkspaceId) (roles : Roles)

namespace RoleCall

def key : RoleCall → UserId × WorkspaceId
  | addRoles userId workspaceId _ _ => (userId, workspaceId)
  | removeRoles userId workspaceId _ => (userId, workspaceId)

def perform : RoleCall → Access PUnit
  | addRoles userId workspaceId roles replaceExisting =>
    Fix.addRoles userId workspaceId roles replaceExisting *> return ()
  | removeRoles userId workspaceId roles => Fix.removeRoles userId workspaceId roles

def returns (st : AccessStore) (c : RoleCall) : Bool := (exec c.perform st).1.isOk

end RoleCall

def performAll (st : AccessStore) (calls : List RoleCall) : AccessStore :=
  calls.foldl (fun st c => (exec c.perform st).2) st

/-- The calls among some that return when their turn comes. -/
def returned : AccessStore → List RoleCall → List RoleCall
  | _, [] => []
  | st, c :: calls =>
    if c.returns st then c :: returned (exec c.perform st).2 calls else returned (exec c.perform st).2 calls

/-! ## Sets of roles -/

abbrev RoleSets := UserId × WorkspaceId → Set Role

def roleSets (st : AccessStore) : RoleSets := fun k => flags Role (st.rolesIn k.1 k.2)

def RoleCall.change (R : RoleSets) : RoleCall → RoleSets
  | .addRoles userId workspaceId roles replaceExisting =>
    Function.update R (userId, workspaceId)
      (if replaceExisting then flags Role roles else R (userId, workspaceId) ∪ flags Role roles)
  | .removeRoles userId workspaceId roles =>
    Function.update R (userId, workspaceId) (R (userId, workspaceId) \ flags Role roles)

def granted (roles : Set Role) : Set WorkspacePermission :=
  ⋃ role ∈ roles, flags WorkspacePermission (rolesToPermissions role)

section Step

variable {st : AccessStore} {userId : UserId} {workspaceId : WorkspaceId} {roles : Roles}

theorem exec_addRoles_refused {replaceExisting : Bool}
    (h : st.users.find userId = none ∧ st.roleAssignments.find (userId, workspaceId) = none) :
    exec (RoleCall.addRoles userId workspaceId roles replaceExisting).perform st =
      (.error (.raised .integrityError), st) := by
  unfold RoleCall.perform Fix.addRoles
  simp only [seqRight_eq_bind, exec_bind, exec_get]
  rw [if_pos h]
  rfl

theorem exec_addRoles {replaceExisting : Bool}
    (h : ¬(st.users.find userId = none ∧ st.roleAssignments.find (userId, workspaceId) = none)) :
    exec (RoleCall.addRoles userId workspaceId roles replaceExisting).perform st =
      (.ok ⟨⟩, { st with
        roleAssignments := withRoles st.roleAssignments userId workspaceId roles replaceExisting }) := by
  unfold RoleCall.perform Fix.addRoles
  simp only [seqRight_eq_bind, exec_bind, exec_get]
  rw [if_neg h]
  rfl

theorem exec_removeRoles_none (h : st.roleAssignments.find (userId, workspaceId) = none) :
    exec (RoleCall.removeRoles userId workspaceId roles).perform st = (.ok ⟨⟩, st) := by
  unfold RoleCall.perform Fix.removeRoles
  rw [exec_bind, exec_get]
  dsimp only
  rw [h]
  rfl

theorem exec_removeRoles {existing : UserRole} (h : st.roleAssignments.find (userId, workspaceId) = some existing) :
    exec (RoleCall.removeRoles userId workspaceId roles).perform st =
      (.ok ⟨⟩, { st with
        roleAssignments := st.roleAssignments.put
          ⟨userId, workspaceId, existing.roleNames &&& complement Role roles⟩ }) := by
  unfold RoleCall.perform Fix.removeRoles
  rw [exec_bind, exec_get]
  dsimp only
  rw [h]
  rfl

theorem withRoles_find_of_ne (t : RoleAssignments) (replaceExisting : Bool) {k : UserId × WorkspaceId}
    (hk : k ≠ (userId, workspaceId)) : (withRoles t userId workspaceId roles replaceExisting).find k = t.find k := by
  unfold withRoles
  cases t.find (userId, workspaceId) with
  | some existing => exact Table.find_put_of_ne t hk
  | none => exact Table.find_put_of_ne t hk

theorem roleSets_withRoles (replaceExisting : Bool) :
    roleSets { st with roleAssignments := withRoles st.roleAssignments userId workspaceId roles replaceExisting } =
      RoleCall.change (roleSets st) (.addRoles userId workspaceId roles replaceExisting) := by
  funext k
  dsimp only [RoleCall.change]
  rw [Function.update_apply]
  unfold roleSets
  rw [rolesIn_withRoles replaceExisting rfl]
  by_cases hk : k = (userId, workspaceId)
  · rw [if_pos hk, if_pos hk]
    cases replaceExisting with
    | true => rfl
    | false => exact flags_or _ _
  · rw [if_neg hk, if_neg hk]

theorem roleSets_of_find {k : UserId × WorkspaceId} {r : Option UserRole} (h : st.roleAssignments.find k = r) :
    roleSets st k = flags Role ((r.map (·.roleNames)).getD 0) := by
  subst h
  rfl

theorem roleSets_put {existing : UserRole} (h : st.roleAssignments.find (userId, workspaceId) = some existing) :
    roleSets { st with
        roleAssignments := st.roleAssignments.put
          ⟨userId, workspaceId, existing.roleNames &&& complement Role roles⟩ } =
      RoleCall.change (roleSets st) (.removeRoles userId workspaceId roles) := by
  funext k
  dsimp only [RoleCall.change]
  rw [Function.update_apply]
  by_cases hk : k = (userId, workspaceId)
  · subst hk
    rw [if_pos rfl, roleSets_of_find h]
    exact (roleSets_of_find (Table.find_put_self _ _)).trans (flags_and_complement _ _)
  · rw [if_neg hk]
    exact roleSets_of_find (Table.find_put_of_ne _ hk)

end Step

/-- **What a call does**: it is refused for a user that is not known and leaves the store, or it returns and changes the
roles of its user in its workspace, as sets. -/
theorem perform_cases (st : AccessStore) (c : RoleCall) :
    (st.users.find c.key.1 = none ∧ exec c.perform st = (.error (.raised .integrityError), st)) ∨
    ∃ t, exec c.perform st = (.ok ⟨⟩, { st with roleAssignments := t }) ∧
      (∀ k, k ≠ c.key → t.find k = st.roleAssignments.find k) ∧
      roleSets { st with roleAssignments := t } = c.change (roleSets st) := by
  cases c with
  | addRoles userId workspaceId roles replaceExisting =>
    by_cases h : st.users.find userId = none ∧ st.roleAssignments.find (userId, workspaceId) = none
    · exact .inl ⟨h.1, exec_addRoles_refused h⟩
    · exact .inr ⟨_, exec_addRoles h, fun k hk => withRoles_find_of_ne _ _ hk, roleSets_withRoles _⟩
  | removeRoles userId workspaceId roles =>
    right
    cases hfind : st.roleAssignments.find (userId, workspaceId) with
    | some existing =>
      exact ⟨_, exec_removeRoles hfind, fun k hk => Table.find_put_of_ne _ hk, roleSets_put hfind⟩
    | none =>
      refine ⟨st.roleAssignments, exec_removeRoles_none hfind, fun _ _ => rfl, ?_⟩
      have hempty : roleSets st (userId, workspaceId) = ∅ := (roleSets_of_find hfind).trans flags_zero
      dsimp only [RoleCall.change]
      rw [hempty, Set.empty_sdiff, ← hempty, Function.update_eq_self]

/-! ## Any calls -/

theorem returned_cons (st : AccessStore) (c : RoleCall) (calls : List RoleCall) : returned st (c :: calls) =
    if c.returns st then c :: returned (exec c.perform st).2 calls else returned (exec c.perform st).2 calls := rfl

theorem users_perform (st : AccessStore) (c : RoleCall) : (exec c.perform st).2.users = st.users := by
  rcases perform_cases st c with ⟨-, hexec⟩ | ⟨t, hexec, -, -⟩ <;> rw [hexec]

/-- **The roles after any calls are those of the calls that return, as unions, replacements and differences.** -/
theorem roleSets_performAll : ∀ (calls : List RoleCall) (st : AccessStore),
    roleSets (performAll st calls) = (returned st calls).foldl RoleCall.change (roleSets st)
  | [], _ => rfl
  | c :: calls, st => by
    have ih := roleSets_performAll calls (exec c.perform st).2
    refine ih.trans ?_
    rw [returned_cons]
    unfold RoleCall.returns
    rcases perform_cases st c with ⟨-, hexec⟩ | ⟨t, hexec, -, hsets⟩
    · rw [hexec]
      rfl
    · rw [hexec]
      exact congrArg (List.foldl RoleCall.change · _) hsets

theorem find_performAll {k : UserId × WorkspaceId} : ∀ (calls : List RoleCall) (st : AccessStore),
    (∀ c ∈ calls, k ≠ c.key) → (performAll st calls).roleAssignments.find k = st.roleAssignments.find k
  | [], _, _ => rfl
  | c :: calls, st, h => by
    have ih := find_performAll calls (exec c.perform st).2 fun c' hc' => h c' (List.mem_cons_of_mem _ hc')
    refine ih.trans ?_
    rcases perform_cases st c with ⟨-, hexec⟩ | ⟨t, hexec, hother, -⟩
    · rw [hexec]
    · rw [hexec]
      exact hother k (h c List.mem_cons_self)

theorem returned_of_known : ∀ (calls : List RoleCall) (st : AccessStore),
    (∀ c ∈ calls, st.users.find c.key.1 ≠ none) → returned st calls = calls
  | [], _, _ => rfl
  | c :: calls, st, h => by
    have ih := returned_of_known calls (exec c.perform st).2 fun c' hc' => by
      rw [users_perform]
      exact h c' (List.mem_cons_of_mem _ hc')
    have hreturns : c.returns st = true := by
      unfold RoleCall.returns
      rcases perform_cases st c with ⟨hunknown, -⟩ | ⟨t, hexec, -, -⟩
      · exact absurd hunknown (h c List.mem_cons_self)
      · rw [hexec]
        rfl
    rw [returned_cons, if_pos hreturns, ih]

/-! ## What the roles grant -/

theorem flags_permissionsOf (roleNames : Roles) :
    flags WorkspacePermission (permissionsOf roleNames) = granted (flags Role roleNames) := by
  ext p
  rw [mem_flags, has_permissionsOf]
  simp [granted, mem_flags]

/-- **The validation is about the roles in the workspace, in whatever order they are listed.** -/
theorem validate_iff_granted {st : AccessStore} {userId : UserId} {user : User} (huser : st.getUser userId = some user)
    {roles : List UserRole} (hperm : roles.Perm user.roles) (workspaceId : WorkspaceId)
    (required : WorkspacePermissions) :
    validateWorkspacePermissions { user with roles := roles } workspaceId required = none ↔
      flags WorkspacePermission required ⊆ granted (roleSets st (userId, workspaceId)) := by
  have hpermitted : ∀ p, User.permitted { user with roles := roles } workspaceId p = user.permitted workspaceId p := by
    intro p
    rw [Bool.eq_iff_iff, permitted_iff, permitted_iff]
    simp only [hperm.mem_iff]
  rw [validate_eq_none_iff]
  unfold roleSets
  rw [← flags_permissionsOf]
  apply forall_congr'
  intro p
  rw [hpermitted, permitted_getUser huser]
  rfl

/-- **Permission evaluation is exact**: after any calls the roles are those of unions, replacements and differences, of
all calls when the users are known, the rows of other users and workspaces are as before, and a validation passes
exactly when the roles in the workspace grant what is required. -/
theorem permissions_exact (st : AccessStore) (calls : List RoleCall) :
    roleSets (performAll st calls) = (returned st calls).foldl RoleCall.change (roleSets st) ∧
    ((∀ c ∈ calls, st.users.find c.key.1 ≠ none) → returned st calls = calls) ∧
    (∀ k, (∀ c ∈ calls, k ≠ c.key) →
      (performAll st calls).roleAssignments.find k = st.roleAssignments.find k) ∧
    ∀ userId user, (performAll st calls).getUser userId = some user → ∀ roles : List UserRole, roles.Perm user.roles →
      ∀ workspaceId required, validateWorkspacePermissions { user with roles := roles } workspaceId required = none ↔
        flags WorkspacePermission required ⊆ granted (roleSets (performAll st calls) (userId, workspaceId)) :=
  ⟨roleSets_performAll calls st, returned_of_known calls st, fun _ h => find_performAll calls st h,
    fun _ _ huser _ hperm => validate_iff_granted huser hperm⟩

end RoleHistories

end Fix
