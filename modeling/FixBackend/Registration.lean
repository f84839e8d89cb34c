import FixBackend.Seats
/-!
# Registration — which workspace a new user gets

`fixbackend/auth/user_manager.py`, with the events it and the workspace repository publish.  A user is verified when it
is registered through a provider, else later by the link in an e-mail; then it joins the workspace of its invitation or
gets one of its own.  Invitations of one e-mail are looked up over all workspaces.
-/
namespace Fix

open Calendar Effects IntFlag

inductive UserEvent where
  | userRegistered (userId : UserId) (email : String) (tenantId : WorkspaceId)
  | workspaceCreated (workspaceId : WorkspaceId) (name slug : String) (userId : UserId)
  | userJoinedWorkspace (workspaceId : WorkspaceId) (userId : UserId)
deriving DecidableEq

structure RegistrationStore where
  access : AccessStore
  published : List UserEvent
  /-- Whom `auth_email_sender` has sent the link to. -/
  verifyEmails : List UserId

structure Drawn where
  id : WorkspaceId
  externalId : ExternalId
  now : DateTime

abbrev Registering := Call AccessErr RegistrationStore

namespace UserManager

def inAccess {α : Type} (m : Access α) : Registering α :=
  embed RegistrationStore.access (fun st access => { st with access := access }) m

def publish (e : UserEvent) : Registering PUnit := modify fun st => { st with published := st.published ++ [e] }

/-- `InvitationRepository.get_invitation_by_email`, which ends in `scalar_one_or_none`. -/
def getInvitationByEmail (email : String) : Registering (Option WorkspaceInvitation) := do
  let st ← get
  match st.access.invitations.rows.filter (fun i => decide (i.email = email)) with
  | [] => return none
  | [invite] => return some invite
  | _ => throw .multipleResultsFound

/-- `re.sub("[^a-zA-Z0-9-]", "-", email)`. -/
def orgSlug (email : String) : String := email.map fun c => if c.isAlphanum || c == '-' then c else '-'

def defaultWorkspace (user : User) (drawn : Drawn) : NewWorkspace :=
  ⟨user.email, orgSlug user.email, drawn.id, drawn.externalId, drawn.now⟩

def createDefaultWorkspace (user : User) (drawn : Drawn) : Registering Workspace := do
  let workspace ← inAccess (createWorkspace (defaultWorkspace user drawn) user.id)
  publish (.workspaceCreated workspace.id workspace.name workspace.slug user.id)
  return workspace

/-- `WorkspaceRepository.add_to_workspace`: the event is that of a new member. -/
def addToWorkspace (workspaceId : WorkspaceId) (userId : UserId) (role : Roles) : Registering PUnit := do
  let st ← get
  inAccess (Fix.addToWorkspace workspaceId userId role)
  if (st.access.organizations.find workspaceId).any (fun o => decide (userId ∈ o.members)) then return ()
  else publish (.userJoinedWorkspace workspaceId userId)

def workspaceFor (user : User) (drawn : Drawn) (pending : Option WorkspaceInvitation) : Registering Workspace :=
  match pending.filter (fun invite => invite.acceptedAt.isSome) with
  | none => createDefaultWorkspace user drawn
  | some invite => do
    let st ← get
    match getWorkspace st.access.organizations invite.workspaceId with
    | some workspace =>
      addToWorkspace workspace.id user.id invite.role
      inAccess (deleteInvitation workspace.id invite.id)
      return workspace
    | none =>
      let workspace ← createDefaultWorkspace user drawn
      inAccess (deleteInvitation workspace.id invite.id)
      return workspace

def addUserToWorkspace (user : User) (drawn : Drawn) : Registering PUnit := do
  let pending ← getInvitationByEmail user.email
  let workspace ← workspaceFor user drawn pending
  publish (.userRegistered user.id user.email workspace.id)

def requestVerify (user : User) : Registering PUnit :=
  modify fun st => { st with verifyEmails := st.verifyEmails ++ [user.id] }

def onAfterRegister (user : User) (drawn : Drawn) : Registering PUnit :=
  if user.isVerified then addUserToWorkspace user drawn else requestVerify user

def onAfterVerify (user : User) (drawn : Drawn) : Registering PUnit := addUserToWorkspace user drawn

/-- A user is created, by the route `POST /register` or by a first login through a provider. -/
def register (id : UserId) (email : String) (isVerified : Bool) (drawn : Drawn) : Registering PUnit := do
  let st ← get
  if (st.access.getUserByEmail email).isSome then inAccess (refuse 400 "REGISTER_USER_ALREADY_EXISTS")
  else
    let row : UserEntity := ⟨id, email, true, isVerified, none⟩
    if h : st.access.users.find row.id = none then
      let access := { st.access with users := st.access.users.insert row h }
      set { st with access := access }
      onAfterRegister (access.user row) drawn
    else throw (.raised .integrityError)

/-- A user is verified, by the route `POST /verify`. -/
def verify (id : UserId) (drawn : Drawn) : Registering PUnit := do
  let st ← get
  match st.access.users.find id with
  | none => inAccess (refuse 400 "VERIFY_USER_BAD_TOKEN")
  | some row =>
    if row.isVerified then inAccess (refuse 400 "VERIFY_USER_ALREADY_VERIFIED")
    else
      let verified := { row with isVerified := true }
      let access := { st.access with users := st.access.users.replace verified }
      set { st with access := access }
      onAfterVerify (access.user verified) drawn

/-! ## What a new user is promised -/

def invitationsOf (st : RegistrationStore) (email : String) : List WorkspaceInvitation :=
  st.access.invitations.rows.filter fun i => decide (i.email = email)

def registrations (st : RegistrationStore) : List UserEvent :=
  st.published.filter fun
    | .userRegistered .. => true
    | _ => false

def IsMember (st : RegistrationStore) (userId : UserId) (workspaceId : WorkspaceId) : Prop :=
  ∃ o, st.access.organizations.find workspaceId = some o ∧ userId ∈ o.members

/-- The user joined the workspace of an accepted invitation, with its role. -/
structure Joins (st after : RegistrationStore) (userId : UserId) (email : String) (i : WorkspaceInvitation) : Prop where
  invited : i ∈ invitationsOf st email ∧ i.acceptedAt.isSome
  member : IsMember after userId i.workspaceId
  role : after.access.rolesIn userId i.workspaceId = st.access.rolesIn userId i.workspaceId ||| i.role
  noneCreated : after.access.organizations.rows.map (·.id) = st.access.organizations.rows.map (·.id)
  registered : registrations after = registrations st ++ [.userRegistered userId email i.workspaceId]

/-- The user got one workspace of its own. -/
structure GetsDefault (st after : RegistrationStore) (userId : UserId) (email : String) (o : Organization) : Prop where
  created : ∃ h, after.access.organizations = st.access.organizations.insert o h
  owner : o.ownerId = userId
  member : IsMember after userId o.id
  role : after.access.rolesIn userId o.id = st.access.rolesIn userId o.id ||| mask Role.workspaceOwner
  registered : registrations after = registrations st ++ [.userRegistered userId email o.id]

/-- **The invitations are honoured** by a call that registers or verifies a user. -/
structure Honoured (st : RegistrationStore) (userId : UserId) (email : String)
    (outcome : Except AccessErr PUnit × RegistrationStore) : Prop where
  returns : outcome.1 = .ok ⟨⟩
  joins : (∃ i ∈ invitationsOf st email, i.acceptedAt.isSome) → ∃ i, Joins st outcome.2 userId email i
  creates : (¬∃ i ∈ invitationsOf st email, i.acceptedAt.isSome) → ∃ o, GetsDefault st outcome.2 userId email o

/-- The foreign keys of the invitations and of the members. -/
structure Linked (st : RegistrationStore) : Prop where
  invitations : ∀ i ∈ st.access.invitations.rows, st.access.organizations.find i.workspaceId ≠ none
  members : ∀ o ∈ st.access.organizations.rows, ∀ userId ∈ o.members, st.access.users.find userId ≠ none

/-- One invitation at most, and one that brings a member of the workspace no new role. -/
structure Honourable (st : RegistrationStore) (userId : UserId) (email : String) : Prop where
  single : (invitationsOf st email).length ≤ 1
  granted : ∀ i ∈ invitationsOf st email, i.acceptedAt.isSome → IsMember st userId i.workspaceId →
    st.access.rolesIn userId i.workspaceId ||| i.role = st.access.rolesIn userId i.workspaceId

/-! ## What the calls do -/

section Calls

variable {st : RegistrationStore} {user : User} {drawn : Drawn}

theorem exec_getInvitationByEmail (email : String) (st : RegistrationStore) :
    exec (getInvitationByEmail email) st = match invitationsOf st email with
      | [] => (.ok none, st)
      | [invite] => (.ok (some invite), st)
      | _ => (.error .multipleResultsFound, st) := by
  unfold getInvitationByEmail invitationsOf
  rw [exec_bind, exec_get]
  dsimp only
  split <;> rfl

def withWorkspace (st : RegistrationStore) (o : Organization) (h : st.access.organizations.find o.id = none) :
    RegistrationStore where
  access := { st.access with
    organizations := st.access.organizations.insert o h
    roleAssignments := withRoles st.access.roleAssignments o.ownerId o.id (mask Role.workspaceOwner) false }
  published := st.published ++ [.workspaceCreated o.id o.name o.slug o.ownerId]
  verifyEmails := st.verifyEmails

theorem exec_createDefaultWorkspace (drawn : Drawn) (hstored : st.access.users.find user.id ≠ none)
    (hnew : st.access.organizations.find drawn.id = none) :
    ∃ o h, o.ownerId = user.id ∧ user.id ∈ o.members ∧
      exec (createDefaultWorkspace user drawn) st = (.ok (o.toModel none), withWorkspace st o h) := by
  let o := (defaultWorkspace user drawn).row
    (st.access.organizations.rows.any fun o => o.slug == (defaultWorkspace user drawn).slug) user.id
  have hid : st.access.organizations.find o.id = none := hnew
  refine ⟨o, hid, rfl, List.mem_singleton_self _, ?_⟩
  have hcreated : exec (createWorkspace (defaultWorkspace user drawn) user.id) st.access =
      (.ok (o.toModel none), (withWorkspace st o hid).access) := by
    unfold createWorkspace
    rw [exec_bind, exec_get]
    dsimp only
    rw [dif_pos hid, if_neg hstored]
    rfl
  unfold createDefaultWorkspace inAccess
  rw [exec_bind, exec_embed, hcreated]
  rfl

def withMember (st : RegistrationStore) (o : Organization) (userId : UserId) (role : Roles) : RegistrationStore :=
  if userId ∈ o.members then st
  else
    { st with
      access := { st.access with
        organizations := st.access.organizations.replace (o.joined userId)
        roleAssignments := withRoles st.access.roleAssignments userId o.id role false }
      published := st.published ++ [.userJoinedWorkspace o.id userId] }

theorem exec_addToWorkspace {userId : UserId} (hstored : st.access.users.find userId ≠ none) {o : Organization}
    (hfind : st.access.organizations.find o.id = some o) (role : Roles) :
    exec (addToWorkspace o.id userId role) st = (.ok ⟨⟩, withMember st o userId role) := by
  unfold addToWorkspace inAccess withMember
  rw [exec_bind, exec_get]
  dsimp only
  rw [exec_bind, exec_embed]
  unfold Fix.addToWorkspace
  rw [exec_bind, exec_get]
  dsimp only
  rw [hfind, Option.any_some]
  dsimp only
  by_cases hmember : userId ∈ o.members
  · rw [if_pos hmember, if_pos hmember, decide_eq_true hmember]
    rfl
  · rw [if_neg hmember, if_neg hmember, if_neg hstored, decide_eq_false hmember]
    rfl

def withoutInvitation (st : RegistrationStore) (id : InvitationId) : RegistrationStore :=
  { st with access := { st.access with invitations := st.access.invitations.delete id } }

theorem exec_deleteInvitation {i : WorkspaceInvitation} (hfind : st.access.invitations.find i.id = some i) :
    exec (inAccess (deleteInvitation i.workspaceId i.id)) st = (.ok ⟨⟩, withoutInvitation st i.id) := by
  unfold inAccess deleteInvitation
  rw [exec_embed, exec_bind, exec_get]
  dsimp only
  rw [hfind]
  dsimp only
  rw [if_neg (not_not_intro rfl)]
  rfl

def announced (st : RegistrationStore) (user : User) (workspaceId : WorkspaceId) : RegistrationStore :=
  { st with published := st.published ++ [.userRegistered user.id user.email workspaceId] }

theorem exec_addUserToWorkspace_default (drawn : Drawn) (hstored : st.access.users.find user.id ≠ none)
    (hnew : st.access.organizations.find drawn.id = none) (hsingle : (invitationsOf st user.email).length ≤ 1)
    (hnone : ¬∃ i ∈ invitationsOf st user.email, i.acceptedAt.isSome) :
    ∃ o h, o.ownerId = user.id ∧ user.id ∈ o.members ∧
      exec (addUserToWorkspace user drawn) st = (.ok ⟨⟩, announced (withWorkspace st o h) user o.id) := by
  obtain ⟨o, h, howner, hmember, hcreated⟩ := exec_createDefaultWorkspace drawn hstored hnew
  refine ⟨o, h, howner, hmember, ?_⟩
  have hdefault : ∀ pending : Option WorkspaceInvitation, pending.filter (fun i => i.acceptedAt.isSome) = none →
      workspaceFor user drawn pending = createDefaultWorkspace user drawn := by
    intro pending hpending
    unfold workspaceFor
    rw [hpending]
  unfold addUserToWorkspace
  rw [exec_bind, exec_getInvitationByEmail]
  match hrows : invitationsOf st user.email with
  | [] =>
    dsimp only
    rw [exec_bind, hdefault none rfl, hcreated]
    rfl
  | [i] =>
    have hpending : (some i).filter (fun i => i.acceptedAt.isSome) = none := by
      rw [Option.filter_some, if_neg]
      exact fun haccepted => hnone ⟨i, by rw [hrows]; exact List.mem_singleton_self i, haccepted⟩
    dsimp only
    rw [exec_bind, hdefault (some i) hpending, hcreated]
    rfl
  | i :: j :: rest =>
    rw [hrows] at hsingle
    simp at hsingle

theorem exec_addUserToWorkspace_joins (hstored : st.access.users.find user.id ≠ none) {i : WorkspaceInvitation}
    (hrows : invitationsOf st user.email = [i]) (haccepted : i.acceptedAt.isSome) {o : Organization}
    (hfind : st.access.organizations.find i.workspaceId = some o) :
    exec (addUserToWorkspace user drawn) st =
      (.ok ⟨⟩, announced (withoutInvitation (withMember st o user.id i.role) i.id) user i.workspaceId) := by
  have hid : o.id = i.workspaceId := Table.key_of_find hfind
  have hself : st.access.organizations.find o.id = some o := by
    rw [hid]
    exact hfind
  have hmem : i ∈ st.access.invitations.rows := by
    have : i ∈ invitationsOf st user.email := by
      rw [hrows]
      exact List.mem_singleton_self i
    exact (List.mem_filter.1 this).1
  have hinvitation : (withMember st o user.id i.role).access.invitations.find i.id = some i := by
    have hkept : (withMember st o user.id i.role).access.invitations = st.access.invitations := by
      unfold withMember
      split <;> rfl
    rw [hkept]
    exact (Table.find_eq_some_iff _ _ _).2 ⟨hmem, rfl⟩
  have hjoined : exec (workspaceFor user drawn (some i)) st =
      (.ok (o.toModel none), withoutInvitation (withMember st o user.id i.role) i.id) := by
    unfold workspaceFor
    rw [Option.filter_some, if_pos haccepted]
    dsimp only
    rw [exec_bind, exec_get]
    dsimp only
    unfold getWorkspace
    rw [hfind, Option.map_some]
    dsimp only
    have hmodel : (o.toModel none).id = o.id := rfl
    rw [exec_bind, hmodel, exec_addToWorkspace hstored hself]
    dsimp only
    rw [exec_bind, hid, exec_deleteInvitation hinvitation]
    rfl
  unfold addUserToWorkspace
  rw [exec_bind, exec_getInvitationByEmail, hrows]
  dsimp only
  rw [exec_bind, hjoined]
  dsimp only
  rw [← hid]
  rfl

/-- Several invitations: the lookup raises. -/
theorem exec_addUserToWorkspace_several (hseveral : ¬(invitationsOf st user.email).length ≤ 1) :
    exec (addUserToWorkspace user drawn) st = (.error .multipleResultsFound, st) := by
  unfold addUserToWorkspace
  rw [exec_bind, exec_getInvitationByEmail]
  match hrows : invitationsOf st user.email with
  | [] => simp [hrows] at hseveral
  | [i] => simp [hrows] at hseveral
  | i :: j :: rest => rfl

/-! ## The tables alone -/

/-- The call does to the tables what another one does, which publishes nothing. -/
def Follows {α : Type} (m : Registering α) (k : Access α) : Prop :=
  ∀ st, (exec m st).1 = (exec k st.access).1 ∧ (exec m st).2.access = (exec k st.access).2

theorem Follows.bind {α β : Type} {m : Registering α} {k : Access α} {f : α → Registering β} {g : α → Access β}
    (hm : Follows m k) (hf : ∀ a, Follows (f a) (g a)) : Follows (m >>= f) (k >>= g) := by
  intro st
  obtain ⟨hvalue, hstore⟩ := hm st
  rw [exec_bind, exec_bind]
  rcases hr : exec m st with ⟨e | a, st'⟩ <;> rcases hk : exec k st.access with ⟨e' | a', access⟩ <;>
    rw [hr, hk] at hvalue hstore <;> cases hvalue <;> cases hstore
  · exact ⟨rfl, rfl⟩
  · exact hf a st'

theorem follows_inAccess {α : Type} (m : Access α) : Follows (inAccess m) m := by
  intro st
  unfold inAccess
  rw [exec_embed]
  exact ⟨rfl, rfl⟩

theorem follows_publish (e : UserEvent) : Follows (publish e) (pure ⟨⟩) := fun _ => ⟨rfl, rfl⟩

theorem Follows.publishing {α : Type} {m : Registering α} {k : Access α} {f : α → Registering α} (hm : Follows m k)
    (hf : ∀ a, Follows (f a) (pure a)) : Follows (m >>= f) k := by
  have h := hm.bind hf
  rw [bind_pure] at h
  exact h

theorem follows_createDefaultWorkspace (user : User) (drawn : Drawn) :
    Follows (createDefaultWorkspace user drawn) (createWorkspace (defaultWorkspace user drawn) user.id) :=
  (follows_inAccess _).publishing fun _ _ => ⟨rfl, rfl⟩

theorem follows_addToWorkspace (workspaceId : WorkspaceId) (userId : UserId) (role : Roles) :
    Follows (addToWorkspace workspaceId userId role) (Fix.addToWorkspace workspaceId userId role) := by
  intro st
  refine (follows_inAccess (Fix.addToWorkspace workspaceId userId role)).publishing (fun _ => ?_) st
  split
  · exact fun _ => ⟨rfl, rfl⟩
  · exact follows_publish _

/-- **The events are beside the tables**: what a registration does to the tables is what the access model says. -/
theorem follows_addUserToWorkspace (user : User) (drawn : Drawn) :
    Follows (addUserToWorkspace user drawn) (Fix.addUserToWorkspace user (defaultWorkspace user drawn)) := by
  have hdefault : Follows (createDefaultWorkspace user drawn >>= fun workspace =>
      publish (.userRegistered user.id user.email workspace.id))
      (createWorkspace (defaultWorkspace user drawn) user.id *> pure ⟨⟩) := by
    rw [seqRight_eq_bind]
    exact (follows_createDefaultWorkspace user drawn).bind fun _ => follows_publish _
  intro st
  unfold addUserToWorkspace Fix.addUserToWorkspace
  rw [exec_bind, exec_getInvitationByEmail, exec_bind, exec_get]
  unfold invitationsOf
  dsimp only
  generalize st.access.invitations.rows.filter (fun i => decide (i.email = user.email)) = rows
  match rows with
  | [] => exact hdefault st
  | [pending] =>
    dsimp only
    unfold workspaceFor
    rw [Option.filter_some]
    by_cases haccepted : pending.acceptedAt.isSome = true
    · rw [if_pos haccepted, if_neg (by rw [Option.isNone_eq_false_iff.2 haccepted]; exact Bool.false_ne_true)]
      dsimp only
      rw [bind_assoc, exec_bind, exec_get]
      dsimp only
      have hdelete : ∀ workspace : Workspace, Follows
          ((inAccess (deleteInvitation workspace.id pending.id) >>= fun _ => pure workspace) >>= fun workspace =>
            publish (.userRegistered user.id user.email workspace.id)) (deleteInvitation workspace.id pending.id) := by
        intro workspace
        rw [bind_assoc]
        exact (follows_inAccess _).publishing fun _ => follows_publish _
      cases getWorkspace st.access.organizations pending.workspaceId with
      | some workspace =>
        dsimp only
        rw [bind_assoc]
        exact (follows_addToWorkspace _ _ _).bind (fun _ => hdelete workspace) st
      | none =>
        dsimp only
        rw [bind_assoc]
        exact (follows_createDefaultWorkspace user drawn).bind hdelete st
    · rw [if_neg haccepted, if_pos (Option.isNone_iff_eq_none.2 (Option.not_isSome_iff_eq_none.1 haccepted))]
      exact hdefault st
  | _ :: _ :: _ => exact ⟨rfl, rfl⟩

/-! ## When the invitations are honoured -/

theorem registrations_announced (st : RegistrationStore) (user : User) (workspaceId : WorkspaceId) :
    registrations (announced st user workspaceId) =
      registrations st ++ [.userRegistered user.id user.email workspaceId] := by
  unfold registrations announced
  rw [List.filter_append]
  rfl

theorem registrations_withWorkspace (o : Organization) (h : st.access.organizations.find o.id = none) :
    registrations (withWorkspace st o h) = registrations st := by
  unfold registrations withWorkspace
  rw [List.filter_append]
  exact List.append_nil _

theorem registrations_withMember (o : Organization) (userId : UserId) (role : Roles) :
    registrations (withMember st o userId role) = registrations st := by
  unfold withMember
  split
  · rfl
  · unfold registrations
    rw [List.filter_append]
    exact List.append_nil _

theorem keys_withMember (o : Organization) (userId : UserId) (role : Roles) :
    (withMember st o userId role).access.organizations.rows.map (·.id) =
      st.access.organizations.rows.map (·.id) := by
  unfold withMember
  split
  · rfl
  · exact Table.keys_replace _ _

theorem isMember_withMember {o : Organization} (hfind : st.access.organizations.find o.id = some o) (userId : UserId)
    (role : Roles) : IsMember (withMember st o userId role) userId o.id := by
  unfold withMember
  by_cases hmember : userId ∈ o.members
  · rw [if_pos hmember]
    exact ⟨o, hfind, hmember⟩
  · rw [if_neg hmember]
    exact ⟨o.joined userId, Table.find_replace_self (r := o.joined userId) hfind,
      List.mem_append_right _ (List.mem_singleton_self _)⟩

theorem rolesIn_withMember (o : Organization) (userId : UserId) (role : Roles) :
    (withMember st o userId role).access.rolesIn userId o.id =
      if userId ∈ o.members then st.access.rolesIn userId o.id else st.access.rolesIn userId o.id ||| role := by
  unfold withMember
  by_cases hmember : userId ∈ o.members
  · rw [if_pos hmember, if_pos hmember]
  · rw [if_neg hmember, if_neg hmember]
    exact (rolesIn_withRoles false rfl userId o.id).trans (if_pos rfl)

/-- **When a verified user gets what it is promised.** -/
theorem honoured_addUserToWorkspace_iff (hlinked : Linked st) (hstored : st.access.users.find user.id ≠ none)
    (hnew : st.access.organizations.find drawn.id = none) :
    Honoured st user.id user.email (exec (addUserToWorkspace user drawn) st) ↔ Honourable st user.id user.email := by
  by_cases hsingle : (invitationsOf st user.email).length ≤ 1
  swap
  · rw [exec_addUserToWorkspace_several hsingle]
    exact ⟨fun h => (by cases h.returns), fun h => absurd h.single hsingle⟩
  by_cases haccepted : ∃ i ∈ invitationsOf st user.email, i.acceptedAt.isSome
  swap
  · obtain ⟨o, h, howner, hmember, hran⟩ := exec_addUserToWorkspace_default drawn hstored hnew hsingle haccepted
    rw [hran]
    refine ⟨fun _ => ⟨hsingle, fun i hi hi' => absurd ⟨i, hi, hi'⟩ haccepted⟩,
      fun _ => ⟨rfl, fun h => absurd h haccepted,
      fun _ => ⟨o, ⟨h, rfl⟩, howner, ⟨o, Table.find_insert_self _ _ h, hmember⟩, ?_, ?_⟩⟩⟩
    · have hroles : (withWorkspace st o h).access.rolesIn user.id o.id = _ := rolesIn_withRoles false rfl user.id o.id
      rw [howner, if_pos rfl] at hroles
      exact hroles
    · rw [registrations_announced, registrations_withWorkspace]
  obtain ⟨i, hi, hi'⟩ := haccepted
  have hrows : invitationsOf st user.email = [i] := by
    obtain ⟨x, hx⟩ := List.length_eq_one_iff.1 (Nat.le_antisymm hsingle (List.length_pos_of_mem hi))
    rw [hx] at hi ⊢
    rw [List.mem_singleton.1 hi]
  obtain ⟨o, hfind⟩ := Option.ne_none_iff_exists'.1 (hlinked.invitations i (List.mem_filter.1 hi).1)
  have hid : o.id = i.workspaceId := Table.key_of_find hfind
  have hself : st.access.organizations.find o.id = some o := by
    rw [hid]
    exact hfind
  rw [exec_addUserToWorkspace_joins hstored hrows hi' hfind]
  have hroles : (withMember st o user.id i.role).access.rolesIn user.id o.id = _ := rolesIn_withMember o user.id i.role
  rw [hid] at hroles
  constructor
  · intro h
    refine ⟨hsingle, fun j hj _ hmember => ?_⟩
    obtain ⟨k, hk⟩ := h.joins ⟨i, hi, hi'⟩
    have hki := hk.invited.1
    rw [hrows, List.mem_singleton] at hki hj
    subst hki hj
    obtain ⟨x, hx, hmem⟩ := hmember
    rw [hfind] at hx
    cases hx
    rw [if_pos hmem] at hroles
    exact hk.role.symm.trans hroles
  · intro h
    refine ⟨rfl, fun _ => ⟨i, ⟨hi, hi'⟩, ?_, ?_, keys_withMember o user.id i.role, ?_⟩,
      fun hnone => absurd ⟨i, hi, hi'⟩ hnone⟩
    · rw [← hid]
      exact isMember_withMember hself user.id i.role
    · refine hroles.trans ?_
      by_cases hmem : user.id ∈ o.members
      · rw [if_pos hmem, h.granted i hi hi' ⟨o, hfind, hmem⟩]
      · rw [if_neg hmem]
    · rw [registrations_announced]
      exact congrArg (· ++ _) (registrations_withMember o user.id i.role)

end Calls

/-! ## Registering and verifying -/

section Flows

variable {st : RegistrationStore} {id : UserId} {email : String} {drawn : Drawn}

/-- The e-mail and the drawn ids are new. -/
structure Unregistered (st : RegistrationStore) (id : UserId) (email : String) (drawn : Drawn) : Prop where
  newEmail : st.access.getUserByEmail email = none
  newUser : st.access.users.find id = none
  newWorkspace : st.access.organizations.find drawn.id = none
  linked : Linked st

structure Unverified (st : RegistrationStore) (id : UserId) (email : String) (drawn : Drawn) : Prop where
  stored : ∃ row, st.access.users.find id = some row ∧ row.email = email ∧ row.isVerified = false
  newWorkspace : st.access.organizations.find drawn.id = none
  linked : Linked st

def withUser (st : RegistrationStore) (row : UserEntity) (h : st.access.users.find row.id = none) : RegistrationStore :=
  { st with access := { st.access with users := st.access.users.insert row h } }

theorem exec_register (hst : Unregistered st id email drawn) (isVerified : Bool) :
    exec (register id email isVerified drawn) st =
      exec (onAfterRegister ((withUser st ⟨id, email, true, isVerified, none⟩ hst.newUser).access.user
        ⟨id, email, true, isVerified, none⟩) drawn) (withUser st ⟨id, email, true, isVerified, none⟩ hst.newUser) := by
  unfold register
  rw [exec_bind, exec_get]
  dsimp only
  rw [hst.newEmail, Option.isSome_none, if_neg Bool.false_ne_true, dif_pos hst.newUser, exec_bind, exec_set]
  rfl

theorem exec_register_unverified (hst : Unregistered st id email drawn) :
    exec (register id email false drawn) st = (.ok ⟨⟩,
      { withUser st ⟨id, email, true, false, none⟩ hst.newUser with verifyEmails := st.verifyEmails ++ [id] }) := by
  rw [exec_register hst]
  rfl

theorem honoured_withUsers_iff (users : Table UserEntity.id) {outcome : Except AccessErr PUnit × RegistrationStore} :
    Honoured { st with access := { st.access with users := users } } id email outcome ↔
      Honoured st id email outcome := by
  constructor
  · intro h
    refine ⟨h.returns, fun hi => ?_, fun hi => ?_⟩
    · obtain ⟨i, hj⟩ := h.joins hi
      exact ⟨i, hj.invited, hj.member, hj.role, hj.noneCreated, hj.registered⟩
    · obtain ⟨o, hd⟩ := h.creates hi
      exact ⟨o, hd.created, hd.owner, hd.member, hd.role, hd.registered⟩
  · intro h
    refine ⟨h.returns, fun hi => ?_, fun hi => ?_⟩
    · obtain ⟨i, hj⟩ := h.joins hi
      exact ⟨i, hj.invited, hj.member, hj.role, hj.noneCreated, hj.registered⟩
    · obtain ⟨o, hd⟩ := h.creates hi
      exact ⟨o, hd.created, hd.owner, hd.member, hd.role, hd.registered⟩

theorem honourable_withUsers_iff (users : Table UserEntity.id) :
    Honourable { st with access := { st.access with users := users } } id email ↔ Honourable st id email :=
  ⟨fun h => ⟨h.single, h.granted⟩, fun h => ⟨h.single, h.granted⟩⟩

theorem honoured_register_iff (hst : Unregistered st id email drawn) :
    Honoured st id email (exec (register id email true drawn) st) ↔ (invitationsOf st email).length ≤ 1 := by
  let row : UserEntity := ⟨id, email, true, true, none⟩
  let st' := withUser st row hst.newUser
  have hself : st'.access.users.find id = some row := Table.find_insert_self _ row hst.newUser
  have hstored : st'.access.users.find (st'.access.user row).id ≠ none := by
    change st'.access.users.find id ≠ none
    rw [hself]
    exact Option.some_ne_none row
  have hlinked : Linked st' := by
    refine ⟨hst.linked.invitations, fun o ho userId hmem => ?_⟩
    have hold := hst.linked.members o ho userId hmem
    have hne : userId ≠ row.id := by
      rintro rfl
      exact hold hst.newUser
    exact fun hnone => hold ((Table.find_insert_of_ne _ row hst.newUser hne).symm.trans hnone)
  rw [exec_register hst]
  refine (honoured_withUsers_iff _).symm.trans ((honoured_addUserToWorkspace_iff hlinked hstored hst.newWorkspace).trans
    ((honourable_withUsers_iff _).trans ⟨fun h => h.single, fun hsingle => ⟨hsingle, fun i _ _ hmember => ?_⟩⟩))
  obtain ⟨o, hfind, hmem⟩ := hmember
  exact absurd hst.newUser (hst.linked.members o (Table.mem_of_find hfind) id hmem)

theorem honoured_verify_iff (hst : Unverified st id email drawn) :
    Honoured st id email (exec (verify id drawn) st) ↔ Honourable st id email := by
  obtain ⟨row, hfind, rfl, hunverified⟩ := hst.stored
  have hid : row.id = id := Table.key_of_find hfind
  subst hid
  let verified : UserEntity := { row with isVerified := true }
  let st' : RegistrationStore := { st with access := { st.access with users := st.access.users.replace verified } }
  have hself : st'.access.users.find row.id = some verified := Table.find_replace_self (r := verified) hfind
  have hstored : st'.access.users.find (st'.access.user verified).id ≠ none := by
    change st'.access.users.find row.id ≠ none
    rw [hself]
    exact Option.some_ne_none verified
  have hlinked : Linked st' := by
    refine ⟨hst.linked.invitations, fun o ho userId hmem hnone => ?_⟩
    by_cases hsame : userId = row.id
    · rw [hsame, hself] at hnone
      cases hnone
    · have hne : userId ≠ verified.id := hsame
      exact hst.linked.members o ho userId hmem ((Table.find_replace_of_ne _ hne).symm.trans hnone)
  have hran : exec (verify row.id drawn) st = exec (addUserToWorkspace (st'.access.user verified) drawn) st' := by
    unfold verify
    rw [exec_bind, exec_get]
    dsimp only
    rw [hfind]
    dsimp only
    rw [hunverified, if_neg Bool.false_ne_true, exec_bind, exec_set]
    rfl
  rw [hran]
  exact (honoured_withUsers_iff _).symm.trans
    ((honoured_addUserToWorkspace_iff hlinked hstored hst.newWorkspace).trans (honourable_withUsers_iff _))

/-- **When registration honours the invitations**: with at most one invitation of the e-mail, whether the user is
verified when it is registered or later. -/
theorem registration_honoured_iff (id : UserId) (email : String) (drawn : Drawn) :
    (∀ st, ∀ hst : Unregistered st id email drawn,
      exec (register id email false drawn) st = (.ok ⟨⟩,
        { withUser st ⟨id, email, true, false, none⟩ hst.newUser with verifyEmails := st.verifyEmails ++ [id] })) ∧
    (∀ st, Unregistered st id email drawn →
      (Honoured st id email (exec (register id email true drawn) st) ↔ (invitationsOf st email).length ≤ 1)) ∧
    ∀ st, Unverified st id email drawn →
      (Honoured st id email (exec (verify id drawn) st) ↔ Honourable st id email) :=
  ⟨fun _ hst => exec_register_unverified hst, fun _ hst => honoured_register_iff hst,
    fun _ hst => honoured_verify_iff hst⟩

end Flows

/-! ## Two invitations -/

def secondOrganization : Organization := { acmeOrganization with id := 2, slug := "acme-2" }

def invitedStore (invitations : Table WorkspaceInvitation.id) : RegistrationStore where
  access := { acmeStore with
    organizations := ⟨[acmeOrganization, secondOrganization], by decide⟩
    invitations := invitations }
  published := []
  verifyEmails := []

/-- Workspace 1 has invited the e-mail, and the invitation is accepted. -/
def onceInvited : RegistrationStore :=
  invitedStore ⟨[⟨61, 1, "new@user", mask Role.workspaceAdmin, some january⟩], by decide⟩

def twiceInvited : RegistrationStore :=
  invitedStore ⟨[⟨61, 1, "new@user", mask Role.workspaceAdmin, some january⟩,
    ⟨62, 2, "new@user", mask Role.workspaceMember, none⟩], by decide⟩

def newDrawn : Drawn := ⟨3, 30, january⟩

theorem registration_honoured_iff_once :
    Honoured onceInvited 14 "new@user" (exec (register 14 "new@user" true newDrawn) onceInvited) := by
  have hst : Unregistered onceInvited 14 "new@user" newDrawn :=
    ⟨by decide +kernel, by decide, by decide, ⟨by decide, by decide⟩⟩
  exact ((registration_honoured_iff 14 "new@user" newDrawn).2.1 _ hst).2 (by decide)

/-- With two invitations the registration raises. -/
theorem registration_not_honoured : Unregistered twiceInvited 14 "new@user" newDrawn ∧
    ¬Honoured twiceInvited 14 "new@user" (exec (register 14 "new@user" true newDrawn) twiceInvited) := by
  refine ⟨⟨by decide +kernel, by decide, by decide, ⟨by decide, by decide⟩⟩, fun h => ?_⟩
  have hraised : (exec (register 14 "new@user" true newDrawn) twiceInvited).1 = .error .multipleResultsFound := by
    decide +kernel
  have hreturned := h.returns
  rw [hraised] at hreturned
  cases hreturned

end UserManager

end Fix
