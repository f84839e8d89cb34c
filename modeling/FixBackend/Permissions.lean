import FixBackend.Flags
import FixBackend.Ids
/-!
# Permissions — the roles of users in workspaces and what they permit

`fixbackend/permissions/models.py`, `fixbackend/permissions/validator.py` and the checker of
`fixbackend/permissions/permission_checker.py`.  A value of `WorkspacePermissions` or `Roles` is an integer mask.
-/
namespace Fix

open Calendar IntFlag

inductive WorkspacePermission where
  | create
  | read
  | update
  | delete
  | inviteTo
  | removeFrom
  | readSettings
  | updateSettings
  | updateCloudAccounts
  | readBilling
  | updateBilling
  | readRoles
  | updateRoles
deriving DecidableEq

inductive Role where
  | workspaceMember
  | workspaceAdmin
  | workspaceOwner
  | workspaceBillingAdmin
deriving DecidableEq

namespace WorkspacePermission

def position : WorkspacePermission → Nat
  | create => 0
  | read => 1
  | update => 2
  | delete => 3
  | inviteTo => 4
  | removeFrom => 5
  | readSettings => 6
  | updateSettings => 7
  | updateCloudAccounts => 8
  | readBilling => 9
  | updateBilling => 10
  | readRoles => 11
  | updateRoles => 12

def name : WorkspacePermission → String
  | create => "create"
  | read => "read"
  | update => "update"
  | delete => "delete"
  | inviteTo => "invite_to"
  | removeFrom => "remove_from"
  | readSettings => "read_settings"
  | updateSettings => "update_settings"
  | updateCloudAccounts => "update_cloud_accounts"
  | readBilling => "read_billing"
  | updateBilling => "update_billing"
  | readRoles => "read_roles"
  | updateRoles => "update_roles"

instance : IntFlag WorkspacePermission where
  bit := position
  bit_injective := by
    intro a b h
    cases a <;> cases b <;> first | rfl | cases h
  all := [create, read, update, delete, inviteTo, removeFrom, readSettings, updateSettings, updateCloudAccounts,
    readBilling, updateBilling, readRoles, updateRoles]
  mem_all := by
    intro f
    cases f <;> decide

end WorkspacePermission

namespace Role

def position : Role → Nat
  | workspaceMember => 0
  | workspaceAdmin => 1
  | workspaceOwner => 2
  | workspaceBillingAdmin => 3

instance : IntFlag Role where
  bit := position
  bit_injective := by
    intro a b h
    cases a <;> cases b <;> first | rfl | cases h
  all := [workspaceMember, workspaceAdmin, workspaceOwner, workspaceBillingAdmin]
  mem_all := by
    intro f
    cases f <;> decide

end Role

abbrev WorkspacePermissions := Nat
abbrev Roles := Nat

open WorkspacePermission in
def allReadPermissions : WorkspacePermissions := mask read ||| mask readSettings ||| mask readRoles

open WorkspacePermission in
def workspaceMemberPermissions : WorkspacePermissions := mask read ||| mask create ||| allReadPermissions

open WorkspacePermission in
def workspaceBillingAdminPermissions : WorkspacePermissions :=
  workspaceMemberPermissions ||| mask readBilling ||| mask updateBilling

open WorkspacePermission in
def workspaceAdminPermissions : WorkspacePermissions :=
  workspaceMemberPermissions ||| workspaceBillingAdminPermissions ||| mask inviteTo ||| mask removeFrom |||
    mask update |||
    mask readSettings ||| mask updateSettings ||| mask updateCloudAccounts ||| mask readRoles ||| mask updateRoles

open WorkspacePermission in
def workspaceOwnerPermissions : WorkspacePermissions := workspaceAdminPermissions ||| mask delete

def rolesToPermissions : Role → WorkspacePermissions
  | .workspaceMember => workspaceMemberPermissions
  | .workspaceAdmin => workspaceAdminPermissions
  | .workspaceOwner => workspaceOwnerPermissions
  | .workspaceBillingAdmin => workspaceBillingAdminPermissions

def allPermissions : WorkspacePermissions :=
  (IntFlag.all : List WorkspacePermission).foldl (fun x p => x ||| mask p) 0

structure UserRole where
  userId : UserId
  workspaceId : WorkspaceId
  roleNames : Roles
deriving DecidableEq

def permissionsOf (roleNames : Roles) : WorkspacePermissions :=
  (members roleNames).foldl (fun x role => x ||| rolesToPermissions role) 0

def UserRole.permissions (r : UserRole) : WorkspacePermissions := permissionsOf r.roleNames

structure User where
  id : UserId
  email : String
  isActive : Bool
  isVerified : Bool
  roles : List UserRole
  authMinTime : Option DateTime
deriving DecidableEq

def User.permitted (user : User) (workspaceId : WorkspaceId) (p : WorkspacePermission) : Bool :=
  user.roles.any (fun r => decide (r.workspaceId = workspaceId) && has r.permissions p)

/-- `validate_workspace_permissions`, the first missing permission in an error text. -/
def validateWorkspacePermissions (user : User) (workspaceId : WorkspaceId) (required : WorkspacePermissions) :
    Option String :=
  ((members required).find? (fun p => !user.permitted workspaceId p)).map (fun p => s!"Missing permission {p.name}")

/-- The detail of an `HTTPException`: a text, or a dictionary of an error and a message. -/
inductive HttpDetail where
  | text (detail : String)
  | fields (error message : String)
deriving DecidableEq

structure HttpException where
  statusCode : Nat
  detail : HttpDetail
deriving DecidableEq

def workspacePermissionChecker (required : WorkspacePermissions) (user : User) (workspaceId : WorkspaceId) :
    Except HttpException PUnit :=
  match validateWorkspacePermissions user workspaceId required with
  | some error => .error ⟨403, .fields "permission" error⟩
  | none => .ok ()

/-! ## What a mask grants -/

theorem has_permissionsOf {roleNames : Roles} {p : WorkspacePermission} :
    has (permissionsOf roleNames) p = true ↔ ∃ role : Role, has roleNames role = true ∧
      has (rolesToPermissions role) p = true := by
  unfold permissionsOf
  rw [has_foldl_or]
  simp only [has_zero, Bool.false_eq_true, false_or, mem_members]

/-- **Granting the union of two sets of roles grants the permissions of either.** -/
theorem has_permissionsOf_or {a b : Roles} {p : WorkspacePermission} :
    has (permissionsOf (a ||| b)) p = true ↔ has (permissionsOf a) p = true ∨ has (permissionsOf b) p = true := by
  simp only [has_permissionsOf, has_or, Bool.or_eq_true]
  constructor
  · rintro ⟨role, h | h, hp⟩
    · exact Or.inl ⟨role, h, hp⟩
    · exact Or.inr ⟨role, h, hp⟩
  · rintro (⟨role, h, hp⟩ | ⟨role, h, hp⟩)
    · exact ⟨role, Or.inl h, hp⟩
    · exact ⟨role, Or.inr h, hp⟩

@[simp] theorem permissionsOf_zero : permissionsOf 0 = 0 := by decide

theorem owner_of_role {role : Role} {p : WorkspacePermission} (h : has (rolesToPermissions role) p = true) :
    has workspaceOwnerPermissions p = true := by
  revert h
  cases role <;> cases p <;> decide

theorem permitted_iff {user : User} {workspaceId : WorkspaceId} {p : WorkspacePermission} :
    user.permitted workspaceId p = true ↔
      ∃ r ∈ user.roles, r.workspaceId = workspaceId ∧ has r.permissions p = true := by
  simp [User.permitted]

/-- **The validation passes exactly when the roles in the workspace grant every required permission.** -/
theorem validate_eq_none_iff {user : User} {workspaceId : WorkspaceId} {required : WorkspacePermissions} :
    validateWorkspacePermissions user workspaceId required = none ↔
      ∀ p : WorkspacePermission, has required p = true → user.permitted workspaceId p = true := by
  unfold validateWorkspacePermissions
  rw [Option.map_eq_none_iff, List.find?_eq_none]
  simp only [mem_members, Bool.not_eq_true', Bool.not_eq_false]

/-- **A failed validation names a permission** that is required and that no role grants. -/
theorem validate_eq_some {user : User} {workspaceId : WorkspaceId} {required : WorkspacePermissions} {error : String}
    (h : validateWorkspacePermissions user workspaceId required = some error) :
    ∃ p : WorkspacePermission, has required p = true ∧ user.permitted workspaceId p = false ∧
      error = s!"Missing permission {p.name}" := by
  unfold validateWorkspacePermissions at h
  obtain ⟨p, hfind, herror⟩ := Option.map_eq_some_iff.1 h
  exact ⟨p, mem_members.1 (List.mem_of_find?_eq_some hfind), by simpa using List.find?_some hfind, herror.symm⟩

theorem checker_eq_ok_iff {user : User} {workspaceId : WorkspaceId} {required : WorkspacePermissions} :
    workspacePermissionChecker required user workspaceId = .ok () ↔
      ∀ p : WorkspacePermission, has required p = true → user.permitted workspaceId p = true := by
  rw [← validate_eq_none_iff]
  unfold workspacePermissionChecker
  cases validateWorkspacePermissions user workspaceId required <;> simp

end Fix
