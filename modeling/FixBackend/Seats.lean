import FixBackend.AccessRoles
/-!
# Seats — how many users a workspace gets

`invite_user` and `accept_invitation` refuse when the seats of the tier are taken.  An e-mail without a user accepts its
invitation first and joins when the user is registered and verified, and nobody counts the seats then.
-/
namespace Fix

open Calendar Effects Machine IntFlag

def Organization.seats (o : Organization) : Nat := (o.toModel none).allUsers.length

def seatsUsed (st : AccessStore) (workspaceId : WorkspaceId) : Nat :=
  ((st.organizations.find workspaceId).map (·.seats)).getD 0

/-! ## The calls in any order -/

inductive SeatAction where
  /-- A user is created. -/
  | register (row : UserEntity)
  /-- The user is verified, at registration or later: `UserManager.add_to_workspace`. -/
  | verify (userId : UserId) (n : NewWorkspace)
  | invite (workspaceId : WorkspaceId) (email : String) (role : Roles) (now : DateTime) (id : InvitationId)
  | accept (invitationId : InvitationId) (now : DateTime)
  | remove (workspaceId : WorkspaceId) (userId : UserId)

def seatStep (st : AccessStore) : SeatAction → Option AccessStore
  | .register row =>
    if h : st.users.find row.id = none then some { st with users := st.users.insert row h } else none
  | .verify userId n => some (exec (userVerified userId n) st).2
  | .invite workspaceId email role now id => some (exec (inviteUser workspaceId email role now id) st).2
  | .accept invitationId now => some (exec (acceptInvitation invitationId now) st).2
  | .remove workspaceId userId => some (exec (removeFromWorkspace workspaceId userId) st).2

/-- The verified user joins the workspace of the only invitation of the e-mail, which is accepted. -/
def JoinsInvited (st : AccessStore) (userId : UserId) (workspaceId : WorkspaceId) : Prop :=
  ∃ user pending, st.getUser userId = some user ∧
    st.invitations.rows.filter (fun i => decide (i.email = user.email)) = [pending] ∧ pending.acceptedAt.isSome ∧
    pending.workspaceId = workspaceId

/-- A verified user who joins the workspace, and is no user of it, finds a seat. -/
def SeatFree (workspaceId : WorkspaceId) (seats : Nat) (st : AccessStore) : SeatAction → Prop
  | .verify userId _ => JoinsInvited st userId workspaceId →
    ∀ o, st.organizations.find workspaceId = some o → userId ∉ (o.toModel none).allUsers → o.seats < seats
  | _ => True

/-- **The seats suffice** all along the calls. -/
def SeatsSuffice (workspaceId : WorkspaceId) (seats : Nat) (st : AccessStore) (actions : List SeatAction) : Prop :=
  ∀ pre post s, actions = pre ++ post → run seatStep st pre = some s → seatsUsed s workspaceId ≤ seats

/-! ## Seats of one row -/

def Organization.joined (o : Organization) (userId : UserId) : Organization :=
  { o with members := o.members ++ [userId] }

def Organization.left (o : Organization) (userId : UserId) : Organization :=
  { o with members := o.members.filter fun m => decide (m ≠ userId) }

theorem Organization.seats_eq (o : Organization) : o.seats = (o.ownerId :: o.members).toFinset.card :=
  (List.card_toFinset _).symm

theorem Organization.mem_allUsers {o : Organization} {userId : UserId} :
    userId ∈ (o.toModel none).allUsers ↔ userId ∈ (o.ownerId :: o.members).toFinset := by
  rw [List.mem_toFinset]
  exact List.mem_dedup

theorem Organization.seats_joined (o : Organization) (userId : UserId) :
    (o.joined userId).seats = if userId ∈ (o.toModel none).allUsers then o.seats else o.seats + 1 := by
  have hinsert : ((o.joined userId).ownerId :: (o.joined userId).members).toFinset =
      insert userId (o.ownerId :: o.members).toFinset := by
    ext x
    simp only [Organization.joined, List.mem_toFinset, List.mem_cons, List.mem_append, List.not_mem_nil, or_false,
      Finset.mem_insert]
    tauto
  rw [Organization.seats_eq, Organization.seats_eq, hinsert]
  by_cases hmem : userId ∈ (o.toModel none).allUsers
  · rw [if_pos hmem, Finset.insert_eq_of_mem (Organization.mem_allUsers.1 hmem)]
  · rw [if_neg hmem, Finset.card_insert_of_notMem fun h => hmem (Organization.mem_allUsers.2 h)]

theorem Organization.seats_left_le (o : Organization) (userId : UserId) : (o.left userId).seats ≤ o.seats := by
  rw [Organization.seats_eq, Organization.seats_eq]
  refine Finset.card_le_card fun x hx => ?_
  simp only [Organization.left, List.mem_toFinset, List.mem_cons, List.mem_filter] at hx ⊢
  exact hx.imp_right And.left

theorem seatsMax_ne_zero {tier : ProductTier} {seats : Nat} (h : (productTierSettings tier).seatsMax = some seats) :
    seats ≠ 0 := by
  cases tier <;> cases h <;> decide

theorem seats_lt_of_not_taken {o : Organization} {now : DateTime} {seats : Nat}
    (hmax : (productTierSettings ((o.toModel none).currentProductTier now)).seatsMax = some seats)
    (hfree : seatsTaken (o.toModel none) now = false) : o.seats < seats := by
  unfold seatsTaken at hfree
  rw [hmax] at hfree
  have hnot := of_decide_eq_false hfree
  have hne := seatsMax_ne_zero hmax
  unfold Organization.seats
  omega

/-! ## What the calls do to a row -/

theorem organizations_after_bind {α β : Type} {m : Access α} {f : α → Access β}
    (hf : ∀ a st, (exec (f a) st).2.organizations = st.organizations) (st : AccessStore) :
    (exec (m >>= f) st).2.organizations = (exec m st).2.organizations := by
  rw [exec_bind]
  rcases exec m st with ⟨e | a, st'⟩
  · rfl
  · exact hf a st'

theorem organizations_deleteInvitation (workspaceId : WorkspaceId) (id : InvitationId) (st : AccessStore) :
    (exec (deleteInvitation workspaceId id) st).2.organizations = st.organizations := by
  unfold deleteInvitation
  rw [exec_bind, exec_get]
  dsimp only
  cases st.invitations.find id with
  | none => rfl
  | some invite =>
    dsimp only
    by_cases hother : invite.workspaceId ≠ workspaceId
    · rw [if_pos hother]
      rfl
    · rw [if_neg hother]
      rfl

section Row

variable {st : AccessStore} {workspaceId : WorkspaceId} {o : Organization}

theorem find_addToWorkspace (hfind : st.organizations.find workspaceId = some o) (other : WorkspaceId) (userId : UserId)
    (role : Roles) :
    (exec (addToWorkspace other userId role) st).2.organizations.find workspaceId =
      some (if other = workspaceId ∧ userId ∉ o.members ∧ st.users.find userId ≠ none then o.joined userId else o) := by
  unfold addToWorkspace
  rw [exec_bind, exec_get]
  dsimp only
  cases hother : st.organizations.find other with
  | none =>
    have hne : ¬(other = workspaceId ∧ userId ∉ o.members ∧ st.users.find userId ≠ none) := by
      rintro ⟨rfl, -⟩
      rw [hfind] at hother
      cases hother
    rw [if_neg hne]
    exact hfind
  | some x =>
    dsimp only
    have hkey : x.id = other := Table.key_of_find hother
    by_cases hsame : other = workspaceId
    · subst hsame
      rw [hfind] at hother
      cases hother
      by_cases hmember : userId ∈ o.members
      · rw [if_pos hmember, if_neg fun h => h.2.1 hmember]
        exact hfind
      · rw [if_neg hmember]
        by_cases hunknown : st.users.find userId = none
        · rw [if_pos hunknown, if_neg fun h => h.2.2 hunknown]
          exact hfind
        · rw [if_neg hunknown, if_pos ⟨rfl, hmember, hunknown⟩]
          subst hkey
          exact Table.find_replace_self (r := o.joined userId) hfind
    · have hno : ¬(other = workspaceId ∧ userId ∉ o.members ∧ st.users.find userId ≠ none) := fun h => hsame h.1
      rw [if_neg hno]
      by_cases hmember : userId ∈ x.members
      · rw [if_pos hmember]
        exact hfind
      · rw [if_neg hmember]
        by_cases hunknown : st.users.find userId = none
        · rw [if_pos hunknown]
          exact hfind
        · rw [if_neg hunknown]
          have hne : workspaceId ≠ (x.joined userId).id := fun h => hsame (hkey.symm.trans h.symm)
          exact (Table.find_replace_of_ne st.organizations hne).trans hfind

theorem find_createWorkspace (hfind : st.organizations.find workspaceId = some o) (n : NewWorkspace)
    (ownerId : UserId) :
    (exec (createWorkspace n ownerId) st).2.organizations.find workspaceId = some o := by
  unfold createWorkspace
  rw [exec_bind, exec_get]
  dsimp only
  by_cases hnew : st.organizations.find (n.row (st.organizations.rows.any fun o => o.slug == n.slug) ownerId).id = none
  · rw [dif_pos hnew]
    by_cases hunknown : st.users.find ownerId = none
    · rw [if_pos hunknown]
      exact hfind
    · rw [if_neg hunknown]
      have hne : workspaceId ≠ (n.row (st.organizations.rows.any fun o => o.slug == n.slug) ownerId).id := by
        rintro rfl
        rw [hfind] at hnew
        cases hnew
      exact (Table.find_insert_of_ne _ _ hnew hne).trans hfind
  · rw [dif_neg hnew]
    exact hfind

theorem find_removeFromWorkspace (hfind : st.organizations.find workspaceId = some o) (other : WorkspaceId)
    (userId : UserId) :
    ∃ o', (exec (removeFromWorkspace other userId) st).2.organizations.find workspaceId = some o' ∧
      (o' = o ∨ o' = o.left userId) := by
  unfold removeFromWorkspace
  rw [exec_bind, exec_get]
  dsimp only
  cases hother : st.organizations.find other with
  | none => exact ⟨o, hfind, Or.inl rfl⟩
  | some x =>
    dsimp only
    have hkey : x.id = other := Table.key_of_find hother
    by_cases hmember : userId ∈ x.members
    · rw [if_pos hmember]
      by_cases hsame : other = workspaceId
      · subst hsame
        rw [hfind] at hother
        cases hother
        subst hkey
        exact ⟨_, Table.find_replace_self (r := o.left userId) hfind, Or.inr rfl⟩
      · have hne : workspaceId ≠ (x.left userId).id := fun h => hsame (hkey.symm.trans h.symm)
        exact ⟨o, (Table.find_replace_of_ne st.organizations hne).trans hfind, Or.inl rfl⟩
    · rw [if_neg hmember]
      exact ⟨o, hfind, Or.inl rfl⟩

theorem organizations_inviteUser (other : WorkspaceId) (email : String) (role : Roles) (now : DateTime)
    (id : InvitationId) : (exec (inviteUser other email role now id) st).2.organizations = st.organizations := by
  unfold inviteUser
  rw [exec_bind, exec_get]
  dsimp only
  split
  · rfl
  · split
    · rfl
    · split
      · rfl
      · unfold createInvitation
        rw [exec_bind, exec_get]
        dsimp only
        split
        · rfl
        · split
          · rfl
          · split
            · rfl
            · split <;> rfl

/-- **Accepting an invitation adds at most one user, and only when a seat is free.** -/
theorem find_acceptInvitation (hfind : st.organizations.find workspaceId = some o) (invitationId : InvitationId)
    (now : DateTime) :
    ∃ o', (exec (acceptInvitation invitationId now) st).2.organizations.find workspaceId = some o' ∧
      (o' = o ∨ seatsTaken (o.toModel none) now = false ∧ ∃ userId, o' = o.joined userId) := by
  unfold acceptInvitation
  rw [exec_bind, exec_get]
  dsimp only
  cases hinvitation : st.invitations.find invitationId with
  | none => exact ⟨o, hfind, Or.inl rfl⟩
  | some invitation =>
    dsimp only
    cases hworkspace : getWorkspace st.organizations invitation.workspaceId with
    | none => exact ⟨o, hfind, Or.inl rfl⟩
    | some workspace =>
      dsimp only
      by_cases hseats : (workspace.paymentOnHoldSince.isSome || seatsTaken workspace now) = true
      · rw [if_pos hseats]
        exact ⟨o, hfind, Or.inl rfl⟩
      rw [if_neg hseats, exec_bind, exec_set]
      dsimp only
      rw [organizations_after_bind fun _ _ => rfl]
      unfold joinInvited
      rw [exec_bind, exec_get]
      dsimp only
      cases AccessStore.getUserByEmail
          { st with invitations := st.invitations.replace { invitation with acceptedAt := some now } }
            invitation.email with
      | none => exact ⟨o, hfind, Or.inl rfl⟩
      | some user =>
        dsimp only
        let accepted : AccessStore :=
          { st with invitations := st.invitations.replace { invitation with acceptedAt := some now } }
        have haccepted : accepted.organizations.find workspaceId = some o := hfind
        rw [organizations_after_bind fun _ => organizations_deleteInvitation _ _, find_addToWorkspace haccepted]
        refine ⟨_, rfl, ?_⟩
        by_cases hjoins : invitation.workspaceId = workspaceId ∧ user.id ∉ o.members ∧ st.users.find user.id ≠ none
        · rw [if_pos hjoins]
          refine Or.inr ⟨?_, user.id, rfl⟩
          unfold getWorkspace at hworkspace
          rw [hjoins.1, hfind, Option.map_some] at hworkspace
          cases hworkspace
          rw [Bool.or_eq_true, not_or, Bool.not_eq_true, Bool.not_eq_true] at hseats
          exact hseats.2
        · rw [if_neg hjoins]
          exact Or.inl rfl

theorem find_userVerified_joins (hfind : st.organizations.find workspaceId = some o) {userId : UserId}
    (n : NewWorkspace)
    (hjoins : JoinsInvited st userId workspaceId) :
    (exec (userVerified userId n) st).2.organizations.find workspaceId =
      some (if userId ∈ o.members then o else o.joined userId) := by
  obtain ⟨user, pending, huser, hpending, haccepted, rfl⟩ := hjoins
  have hid := userId_of_getUser huser
  obtain ⟨row, hrow, -⟩ := Option.map_eq_some_iff.1 huser
  have hstored : st.users.find user.id ≠ none := by
    rw [hid, hrow]
    exact Option.some_ne_none row
  have hwaiting : ¬pending.acceptedAt.isNone = true := by
    rw [Option.isNone_iff_eq_none, ← ne_eq, ← Option.isSome_iff_ne_none]
    exact haccepted
  have hworkspace : getWorkspace st.organizations pending.workspaceId = some (o.toModel none) := by
    unfold getWorkspace
    rw [hfind, Option.map_some]
  have hkey : o.id = pending.workspaceId := Table.key_of_find hfind
  have hmodel : (o.toModel none).id = pending.workspaceId := hkey
  unfold userVerified
  rw [exec_bind, exec_get]
  dsimp only
  rw [huser]
  dsimp only
  unfold addUserToWorkspace
  rw [exec_bind, exec_get]
  dsimp only
  rw [hpending]
  dsimp only
  rw [if_neg hwaiting, hworkspace]
  dsimp only
  rw [organizations_after_bind fun _ => organizations_deleteInvitation _ _, find_addToWorkspace hfind, hmodel, hid]
  by_cases hmember : userId ∈ o.members
  · rw [if_pos hmember, if_neg fun h => h.2.1 hmember]
  · have hall : pending.workspaceId = pending.workspaceId ∧ userId ∉ o.members ∧ st.users.find userId ≠ none :=
      ⟨rfl, hmember, by rw [← hid]; exact hstored⟩
    rw [if_neg hmember, if_pos hall]

theorem find_userVerified_elsewhere (hfind : st.organizations.find workspaceId = some o) {userId : UserId}
    (n : NewWorkspace) (hjoins : ¬JoinsInvited st userId workspaceId) :
    (exec (userVerified userId n) st).2.organizations.find workspaceId = some o := by
  have hcreate : ∀ ownerId, (exec (createWorkspace n ownerId *> pure ()) st).2.organizations.find
      workspaceId = some o := by
    intro ownerId
    rw [exec_discard]
    exact find_createWorkspace hfind n ownerId
  unfold userVerified
  rw [exec_bind, exec_get]
  dsimp only
  cases huser : st.getUser userId with
  | none => exact hfind
  | some user =>
    dsimp only
    unfold addUserToWorkspace
    rw [exec_bind, exec_get]
    dsimp only
    split
    · exact hcreate user.id
    · rename_i pending hpending
      by_cases hwaiting : pending.acceptedAt.isNone = true
      · rw [if_pos hwaiting]
        exact hcreate user.id
      rw [if_neg hwaiting]
      cases hworkspace : getWorkspace st.organizations pending.workspaceId with
      | none =>
        dsimp only
        rw [organizations_after_bind fun _ => organizations_deleteInvitation _ _]
        exact find_createWorkspace hfind n user.id
      | some workspace =>
        dsimp only
        rw [organizations_after_bind fun _ => organizations_deleteInvitation _ _, find_addToWorkspace hfind]
        have hother : ¬(workspace.id = workspaceId ∧ user.id ∉ o.members ∧ st.users.find user.id ≠ none) := by
          rintro ⟨hid, -⟩
          unfold getWorkspace at hworkspace
          obtain ⟨x, hx, rfl⟩ := Option.map_eq_some_iff.1 hworkspace
          have hkey : x.id = pending.workspaceId := Table.key_of_find hx
          refine hjoins ⟨user, pending, huser, hpending, ?_, hkey.symm.trans hid⟩
          rw [Option.isSome_iff_ne_none, ne_eq, ← Option.isNone_iff_eq_none]
          exact hwaiting
        rw [if_neg hother]
    · exact hfind

end Row

/-! ## The seats along the calls -/

section Seats

variable {workspaceId : WorkspaceId} {seats : Nat}

theorem seatsUsed_of_find {st : AccessStore} {o : Organization} (h : st.organizations.find workspaceId = some o) :
    seatsUsed st workspaceId = o.seats := by
  unfold seatsUsed
  rw [h, Option.map_some, Option.getD_some]

/-- The workspace is stored, and its tier keeps the limit of its seats. -/
def SeatsLimited (workspaceId : WorkspaceId) (seats : Nat) (st : AccessStore) : Prop :=
  ∃ o, st.organizations.find workspaceId = some o ∧
    ∀ now, (productTierSettings ((o.toModel none).currentProductTier now)).seatsMax = some seats

/-- **What a call does to the seats**: a user joins when a seat is free, or when a registered user's invitation was
accepted before. -/
theorem seatStep_cases {st st' : AccessStore} {a : SeatAction} (h : SeatsLimited workspaceId seats st)
    (hstep : seatStep st a = some st') : SeatsLimited workspaceId seats st' ∧
      (seatsUsed st' workspaceId ≤ seatsUsed st workspaceId ∨
        seatsUsed st' workspaceId = seatsUsed st workspaceId + 1 ∧
          (SeatFree workspaceId seats st a → seatsUsed st workspaceId < seats)) := by
  obtain ⟨o, hfind, hmax⟩ := h
  have hsame : st'.organizations.find workspaceId = some o → SeatsLimited workspaceId seats st' ∧
      (seatsUsed st' workspaceId ≤ seatsUsed st workspaceId ∨
        seatsUsed st' workspaceId = seatsUsed st workspaceId + 1 ∧
          (SeatFree workspaceId seats st a → seatsUsed st workspaceId < seats)) := by
    intro hfind'
    refine ⟨⟨o, hfind', hmax⟩, Or.inl ?_⟩
    rw [seatsUsed_of_find hfind, seatsUsed_of_find hfind']
  have hjoined : ∀ userId, st'.organizations.find workspaceId = some (o.joined userId) →
      (SeatFree workspaceId seats st a → userId ∉ (o.toModel none).allUsers → o.seats < seats) →
      SeatsLimited workspaceId seats st' ∧ (seatsUsed st' workspaceId ≤ seatsUsed st workspaceId ∨
        seatsUsed st' workspaceId = seatsUsed st workspaceId + 1 ∧
          (SeatFree workspaceId seats st a → seatsUsed st workspaceId < seats)) := by
    intro userId hfind' hfree
    refine ⟨⟨o.joined userId, hfind', hmax⟩, ?_⟩
    rw [seatsUsed_of_find hfind, seatsUsed_of_find hfind', Organization.seats_joined]
    by_cases hmem : userId ∈ (o.toModel none).allUsers
    · rw [if_pos hmem]
      exact Or.inl (Nat.le_refl _)
    · rw [if_neg hmem]
      exact Or.inr ⟨rfl, fun h => hfree h hmem⟩
  cases a with
  | register row =>
    by_cases hnew : st.users.find row.id = none
    · rw [seatStep, dif_pos hnew] at hstep
      cases hstep
      exact hsame hfind
    · rw [seatStep, dif_neg hnew] at hstep
      cases hstep
  | verify userId n =>
    cases hstep
    by_cases hjoins : JoinsInvited st userId workspaceId
    · have hafter := find_userVerified_joins hfind n hjoins
      by_cases hmember : userId ∈ o.members
      · rw [if_pos hmember] at hafter
        exact hsame hafter
      · rw [if_neg hmember] at hafter
        exact hjoined userId hafter fun hfree hnot => hfree hjoins o hfind hnot
    · exact hsame (find_userVerified_elsewhere hfind n hjoins)
  | invite other email role now id =>
    cases hstep
    refine hsame ?_
    rw [organizations_inviteUser]
    exact hfind
  | accept invitationId now =>
    cases hstep
    obtain ⟨o', hafter, hcases⟩ := find_acceptInvitation hfind invitationId now
    rcases hcases with rfl | ⟨hfree, userId, rfl⟩
    · exact hsame hafter
    · exact hjoined userId hafter fun _ _ => seats_lt_of_not_taken (hmax now) hfree
  | remove other userId =>
    cases hstep
    obtain ⟨o', hafter, hcases⟩ := find_removeFromWorkspace hfind other userId
    rcases hcases with rfl | rfl
    · exact hsame hafter
    · refine ⟨⟨o.left userId, hafter, hmax⟩, Or.inl ?_⟩
      rw [seatsUsed_of_find hfind, seatsUsed_of_find hafter]
      exact o.seats_left_le userId

theorem seatFree_of_le {st : AccessStore} {a : SeatAction}
    (hle : ∀ st', seatStep st a = some st' → seatsUsed st' workspaceId ≤ seats) : SeatFree workspaceId seats st a := by
  cases a with
  | register row => trivial
  | invite other email role now id => trivial
  | accept invitationId now => trivial
  | remove other userId => trivial
  | verify userId n =>
    intro hjoins o hfind hnot
    have hmember : userId ∉ o.members := by
      intro hmem
      exact hnot (List.mem_dedup.2 (List.mem_cons_of_mem _ hmem))
    have hafter := find_userVerified_joins hfind n hjoins
    rw [if_neg hmember] at hafter
    have hused := hle _ rfl
    rw [seatsUsed_of_find hafter, Organization.seats_joined, if_neg hnot] at hused
    exact hused

/-- **When the seats suffice**: when every verified user who joins the workspace finds a seat. -/
theorem seatsSuffice_iff {st : AccessStore} (hlimited : SeatsLimited workspaceId seats st)
    (hstart : seatsUsed st workspaceId ≤ seats) (actions : List SeatAction) :
    SeatsSuffice workspaceId seats st actions ↔ Along seatStep (SeatFree workspaceId seats) st actions := by
  constructor
  · induction actions generalizing st with
    | nil => exact fun _ => trivial
    | cons a actions ih =>
      intro h
      have hnext : ∀ st', seatStep st a = some st' → seatsUsed st' workspaceId ≤ seats := fun st' hstep =>
        h [a] actions st' rfl (run_one hstep)
      refine ⟨seatFree_of_le hnext, fun st' hstep => ih (seatStep_cases hlimited hstep).1 (hnext st' hstep) ?_⟩
      intro pre post s heq hrun
      exact h (a :: pre) post s (by rw [heq]; rfl) (run_cons.2 ⟨st', hstep, hrun⟩)
  · intro halong pre post s heq hrun
    subst heq
    have hpre := (along_append halong hrun).1
    have hkept : SeatsLimited workspaceId seats s ∧ seatsUsed s workspaceId ≤ seats := by
      refine run_along (I := fun s => SeatsLimited workspaceId seats s ∧ seatsUsed s workspaceId ≤ seats)
        (fun s a s' hs hfree hstep => ?_) ⟨hlimited, hstart⟩ hpre hrun
      obtain ⟨hlimited', hcases⟩ := seatStep_cases hs.1 hstep
      refine ⟨hlimited', ?_⟩
      rcases hcases with hle | ⟨hmore, hseat⟩
      · exact Nat.le_trans hle hs.2
      · rw [hmore]
        exact hseat hfree
    exact hkept.2

end Seats

/-! ## Two invitations and one seat -/

/-- Workspace 1 on the plus tier with 19 of its 20 seats taken. -/
def nineteenUsers : AccessStore where
  users := ⟨(List.range 19).map fun i => ⟨11 + i, s!"user{i}@acme", true, true, none⟩, by decide⟩
  organizations := ⟨[{ acmeOrganization with tier := .plus, members := (List.range 19).map (11 + ·) }], by decide⟩
  roleAssignments := ⟨[⟨11, 1, mask Role.workspaceOwner⟩], acmeOwner_unique⟩
  invitations := ⟨[], List.nodup_nil⟩

/-- An e-mail is invited, accepts and is registered then. -/
def joining (userId : UserId) (email : String) (id : InvitationId) : List SeatAction :=
  [.invite 1 email (mask Role.workspaceMember) january id, .accept id january,
    .register ⟨userId, email, true, true, none⟩, .verify userId ⟨email, email, userId, userId, january⟩]

/-- Two e-mails are invited and accept while a seat is free, and are registered then. -/
def bothAccept : List SeatAction :=
  (joining 41 "first@new" 61).take 2 ++ (joining 42 "second@new" 62).take 2 ++ (joining 41 "first@new" 61).drop 2 ++
    (joining 42 "second@new" 62).drop 2

theorem nineteenUsers_limited : SeatsLimited 1 20 nineteenUsers :=
  ⟨{ acmeOrganization with tier := .plus, members := (List.range 19).map (11 + ·) }, by decide, fun _ => rfl⟩

theorem seatsSuffice_iff_joining : SeatsSuffice 1 20 nineteenUsers (joining 41 "first@new" 61) ↔
    Along seatStep (SeatFree 1 20) nineteenUsers (joining 41 "first@new" 61) :=
  seatsSuffice_iff nineteenUsers_limited (by decide) _

/-- The workspace gets 21 users. -/
theorem bothAccept_not_suffice : ¬SeatsSuffice 1 20 nineteenUsers bothAccept := by
  intro h
  have hran : (run seatStep nineteenUsers bothAccept).map (seatsUsed · 1) = some 21 := by decide +kernel
  obtain ⟨s, hrun, hused⟩ := Option.map_eq_some_iff.1 hran
  have hle := h bothAccept [] s (List.append_nil _).symm hrun
  omega

end Fix
