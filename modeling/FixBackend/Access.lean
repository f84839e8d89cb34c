import FixBackend.Effects
import FixBackend.Permissions
import FixBackend.Workspaces
/-!
# Access — users, memberships, roles and invitations

`fixbackend/permissions/role_repository.py` and `router.py`, the membership part of
`fixbackend/workspaces/repository.py`, the invitation repository and service, the routes that need a workspace and
`UserManager.add_to_workspace`.  A call carries the answers it gets from outside: the ids that are drawn and the time.
-/
namespace Fix

open Calendar IntFlag Effects

/-! ## The tables -/

abbrev InvitationId := Uuid

structure UserEntity where
  id : UserId
  email : String
  isActive : Bool
  isVerified : Bool
  authMinTime : Option DateTime
deriving DecidableEq

/-- The columns of the unique constraint of `user_role_assignment`. -/
def UserRole.key (r : UserRole) : UserId × WorkspaceId := (r.userId, r.workspaceId)

abbrev RoleAssignments := Table UserRole.key

structure WorkspaceInvitation where
  id : InvitationId
  workspaceId : WorkspaceId
  email : String
  role : Roles
  acceptedAt : Option DateTime
deriving DecidableEq

structure AccessStore where
  users : Table UserEntity.id
  organizations : Organizations
  roleAssignments : RoleAssignments
  invitations : Table WorkspaceInvitation.id

inductive AccessErr where
  | http (e : HttpException)
  | raised (e : Err)
  | multipleResultsFound
deriving DecidableEq

abbrev Access := Call AccessErr AccessStore

namespace AccessStore

/-- `User.to_model`, with the roles of the joined rows. -/
def user (st : AccessStore) (e : UserEntity) : User where
  id := e.id
  email := e.email
  isActive := e.isActive
  isVerified := e.isVerified
  roles := st.roleAssignments.rows.filter (fun r => decide (r.userId = e.id))
  authMinTime := e.authMinTime

def getUser (st : AccessStore) (id : UserId) : Option User := (st.users.find id).map st.user

/-- `UserRepository.get_by_email`, which compares in lower case. -/
def getUserByEmail (st : AccessStore) (email : String) : Option User :=
  (st.users.rows.find? (fun e => decide (e.email.toLower = email.toLower))).map st.user

def rolesIn (st : AccessStore) (userId : UserId) (workspaceId : WorkspaceId) : Roles :=
  ((st.roleAssignments.find (userId, workspaceId)).map (·.roleNames)).getD 0

end AccessStore

/-! ## Roles -/

def withRoles (t : RoleAssignments) (userId : UserId) (workspaceId : WorkspaceId) (roles : Roles)
    (replaceExisting : Bool) : RoleAssignments :=
  match t.find (userId, workspaceId) with
  | some existing => t.put ⟨userId, workspaceId, if replaceExisting then roles else existing.roleNames ||| roles⟩
  | none => t.put ⟨userId, workspaceId, roles⟩

/-- `RoleRepository.add_roles`; the foreign key refuses the first roles of an unknown user. -/
def addRoles (userId : UserId) (workspaceId : WorkspaceId) (roles : Roles) (replaceExisting : Bool) :
    Access UserRole := do
  let st ← get
  if st.users.find userId = none ∧ st.roleAssignments.find (userId, workspaceId) = none then
    throw (.raised .integrityError)
  else
    let st' := { st with roleAssignments := withRoles st.roleAssignments userId workspaceId roles replaceExisting }
    set st'
    return ⟨userId, workspaceId, st'.rolesIn userId workspaceId⟩

/-! ## Workspaces -/

def Workspace.trialEndDays (w : Workspace) (now : DateTime) : Option Int :=
  if w.currentProductTier now = .trial then
    some (max (((w.createdAt.toMicros : Int) + 14 * dayMicros - now.toMicros).fdiv dayMicros) 0)
  else none

/-- `Workspace.paid_tier_access`.  No days left are falsy, so the end of the trial is never looked at. -/
def Workspace.paidTierAccess (w : Workspace) (userId : UserId) (now : DateTime) : Bool :=
  if userId = w.ownerId then true
  else if w.paymentOnHoldSince.isSome then false
  else
    match w.trialEndDays now with
    | some trialEnd => if trialEnd ≠ 0 then !(decide (trialEnd = 0) && w.subscriptionId.isNone) else true
    | none => true

structure NewWorkspace where
  name : String
  slug : String
  id : WorkspaceId
  externalId : ExternalId
  now : DateTime

def NewWorkspace.row (n : NewWorkspace) (slugExists : Bool) (ownerId : UserId) : Organization where
  id := n.id
  slug := if slugExists then s!"{n.slug}-{n.id}" else n.slug
  name := n.name
  externalId := n.externalId
  ownerId := ownerId
  members := [ownerId]
  tier := .trial
  subscriptionId := none
  paymentOnHoldSince := none
  createdAt := n.now
  updatedAt := n.now
  highestCurrentCycleTier := none
  currentCycleEndsAt := none
  tierUpdatedAt := some n.now

/-- `WorkspaceRepository.create_workspace`: the commit of `add_roles` is the one of the whole transaction. -/
def createWorkspace (n : NewWorkspace) (ownerId : UserId) : Access Workspace := do
  let st ← get
  let row := n.row (st.organizations.rows.any (fun o => o.slug == n.slug)) ownerId
  if h : st.organizations.find row.id = none then
    if st.users.find ownerId = none then throw (.raised .integrityError)
    else
      set { st with
        organizations := st.organizations.insert row h
        roleAssignments := withRoles st.roleAssignments ownerId n.id (mask Role.workspaceOwner) false }
      return row.toModel none
  else throw (.raised .integrityError)

/-- `WorkspaceRepository.add_to_workspace`; the foreign keys refuse an unknown workspace or user. -/
def addToWorkspace (workspaceId : WorkspaceId) (userId : UserId) (role : Roles) : Access PUnit := do
  let st ← get
  match st.organizations.find workspaceId with
  | none => throw (.raised .integrityError)
  | some o =>
    if userId ∈ o.members then return ()
    else if st.users.find userId = none then throw (.raised .integrityError)
    else
      set { st with
        organizations := st.organizations.replace { o with members := o.members ++ [userId] }
        roleAssignments := withRoles st.roleAssignments userId workspaceId role false }

def removeFromWorkspace (workspaceId : WorkspaceId) (userId : UserId) : Access PUnit := do
  let st ← get
  match st.organizations.find workspaceId with
  | none => return ()
  | some o =>
    if userId ∈ o.members then
      set { st with
        organizations :=
          st.organizations.replace { o with members := o.members.filter (fun m => decide (m ≠ userId)) } }
    else return ()

/-! ## Requests to a workspace -/

def refuse {α : Type} (statusCode : Nat) (detail : String) : Access α := throw (.http ⟨statusCode, .text detail⟩)

def getUserWorkspace (workspaceId : WorkspaceId) (user : User) (now : DateTime) : Access Workspace := do
  let st ← get
  match getWorkspace st.organizations workspaceId with
  | none => refuse 404 "workspace_not_found"
  | some workspace =>
    if user.id ∉ workspace.allUsers then refuse 403 "not_a_workspace_member"
    else if workspace.paymentOnHoldSince.isSome ∧ user.id ≠
      workspace.ownerId then refuse 403 "workspace_payment_on_hold"
    else if !workspace.paidTierAccess user.id now then refuse 403 "trial_ended"
    else return workspace

def requirePermissions (required : WorkspacePermissions) (user : User) (workspaceId : WorkspaceId) : Access PUnit :=
  match workspacePermissionChecker required user workspaceId with
  | .ok _ => return ()
  | .error e => throw (.http e)

def authenticatedUser (userId : UserId) : Access User := do
  let st ← get
  match st.getUser userId with
  | none => refuse 401 "Unauthorized"
  | some user =>
    if !user.isActive then refuse 401 "Unauthorized"
    else if !user.isVerified then refuse 403 "Forbidden"
    else return user

structure UserRolesUpdate where
  userId : UserId
  member : Bool
  admin : Bool
  owner : Bool
  billingAdmin : Bool

def UserRolesUpdate.roleNames (u : UserRolesUpdate) : Roles :=
  (if u.member then mask Role.workspaceMember else 0) ||| (if u.admin then mask Role.workspaceAdmin else 0) |||
    (if u.owner then mask Role.workspaceOwner else 0) |||
      (if u.billingAdmin then mask Role.workspaceBillingAdmin else 0)

def updateUserRoleGuard (issuer : UserId) (workspaceId : WorkspaceId) (update : UserRolesUpdate) (now : DateTime) :
    Access PUnit := do
  let user ← authenticatedUser issuer
  let _ ← getUserWorkspace workspaceId user now
  requirePermissions (mask WorkspacePermission.updateRoles) user workspaceId
  if update.userId = user.id then throw (.raised (.notAllowed "You cannot change your own role"))
  else return ()

/-- `update_user_role`, the route `PUT /{workspace_id}/roles/{user_id}`. -/
def updateUserRole (issuer : UserId) (workspaceId : WorkspaceId) (update : UserRolesUpdate) (now : DateTime) :
    Access UserRole := do
  updateUserRoleGuard issuer workspaceId update now
  addRoles update.userId workspaceId update.roleNames true

/-! ## Invitations -/

def seatsTaken (workspace : Workspace) (now : DateTime) : Bool :=
  match (productTierSettings (workspace.currentProductTier now)).seatsMax with
  | some seatsMax => decide (seatsMax ≠ 0 ∧ seatsMax ≤ workspace.allUsers.length)
  | none => false

def createInvitation (workspaceId : WorkspaceId) (email : String) (role : Roles) (id : InvitationId) :
    Access WorkspaceInvitation := do
  let st ← get
  match st.invitations.rows.find? (fun i => decide (i.workspaceId = workspaceId ∧ i.email = email)) with
  | some existing => return existing
  | none =>
    match getWorkspace st.organizations workspaceId with
    | none => throw (.raised (.resourceNotFound s!"Workspace {workspaceId} does not exist."))
    | some workspace =>
      match (st.getUserByEmail email).filter (fun user => decide (user.id ∈ workspace.allUsers)) with
      | some user => throw (.raised (.wrongState s!"User {user.id} is already a member of workspace {workspaceId}"))
      | none =>
        let invite : WorkspaceInvitation := ⟨id, workspaceId, email, role, none⟩
        if h : st.invitations.find invite.id = none then
          set { st with invitations := st.invitations.insert invite h }
          return invite
        else throw (.raised .integrityError)

def inviteUser (workspaceId : WorkspaceId) (inviteeEmail : String) (role : Roles) (now : DateTime) (id : InvitationId) :
    Access WorkspaceInvitation := do
  let st ← get
  match getWorkspace st.organizations workspaceId with
  | none => throw (.raised (.resourceNotFound s!"Workspace {workspaceId} does not exist."))
  | some workspace =>
    if workspace.paymentOnHoldSince.isSome then throw (.raised (.notAllowed "payment_on_hold"))
    else if seatsTaken workspace now then throw (.raised (.notAllowed "user_limit_reached"))
    else createInvitation workspaceId inviteeEmail role id

/-- The last part of `email.lower().split("@")`. -/
def emailDomain (email : String) : String := (email.toLower.splitOn "@").getLast?.getD ""

/-- `invite_to_organization`, the route `POST /{workspace_id}/invites/`, `blocklist` being the disposable domains. -/
def inviteToOrganization (blocklist : List String) (issuer : UserId) (workspaceId : WorkspaceId) (email : String)
    (roles : List Role) (now : DateTime) (id : InvitationId) : Access WorkspaceInvitation := do
  let user ← authenticatedUser issuer
  let workspace ← getUserWorkspace workspaceId user now
  requirePermissions (mask WorkspacePermission.inviteTo) user workspaceId
  let role := roles.foldl (fun acc r => mask r ||| acc) (mask Role.workspaceMember)
  if emailDomain user.email ∈ blocklist then refuse 400 "Disposable email domains are not allowed"
  else inviteUser workspace.id email role now id

def deleteInvitation (workspaceId : WorkspaceId) (id : InvitationId) : Access PUnit := do
  let st ← get
  match st.invitations.find id with
  | none => return ()
  | some invite =>
    if invite.workspaceId ≠ workspaceId then
      throw (.raised (.notAllowed s!"Invitation {id} does not belong to workspace {workspaceId}"))
    else set { st with invitations := st.invitations.delete id }

inductive InvitationResult where
  | invitationNotFound
  | workspaceNotFound
  | noFreeSeats
  | updated (i : WorkspaceInvitation)

/-- An accepted invitation of an existing user is turned into a membership. -/
def joinInvited (invitation : WorkspaceInvitation) : Access PUnit := do
  let st ← get
  match st.getUserByEmail invitation.email with
  | none => return ()
  | some user =>
    addToWorkspace invitation.workspaceId user.id invitation.role
    deleteInvitation invitation.workspaceId invitation.id

/-- `InvitationService.accept_invitation` for the invitation of a valid state token. -/
def acceptInvitation (invitationId : InvitationId) (now : DateTime) : Access InvitationResult := do
  let st ← get
  match st.invitations.find invitationId with
  | none => return .invitationNotFound
  | some invitation =>
    match getWorkspace st.organizations invitation.workspaceId with
    | none => return .workspaceNotFound
    | some workspace =>
      if workspace.paymentOnHoldSince.isSome || seatsTaken workspace now then return .noFreeSeats
      else
        let updated := { invitation with acceptedAt := some now }
        set { st with invitations := st.invitations.replace updated }
        joinInvited invitation
        return .updated updated

/-- `UserManager.add_to_workspace`: a verified user joins the workspace of an accepted invitation, or gets one. -/
def addUserToWorkspace (user : User) (n : NewWorkspace) : Access PUnit := do
  let st ← get
  match st.invitations.rows.filter (fun i => decide (i.email = user.email)) with
  | [] => createWorkspace n user.id *> return ()
  | [pending] =>
    if pending.acceptedAt.isNone then createWorkspace n user.id *> return ()
    else
      match getWorkspace st.organizations pending.workspaceId with
      | some workspace =>
        addToWorkspace workspace.id user.id pending.role
        deleteInvitation workspace.id pending.id
      | none =>
        let workspace ← createWorkspace n user.id
        deleteInvitation workspace.id pending.id
  | _ => throw .multipleResultsFound

end Fix
