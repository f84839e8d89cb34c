import FixBackend.ApiTokens
import FixBackend.Machine
/-!
# Invitations — how long and as what an invitation is accepted

An invitation is stored with the time it expires, and every call of `invite_user` mints a token of seven days for it.  A
workspace invites an e-mail again: the stored invitation stays as it is, and the token is a new one.
-/
namespace Fix

open Calendar Effects Machine IntFlag

/-! ## The invitation service -/

/-- The column `expires_at` of the invitations beside the other ones. -/
structure InvitationStore where
  access : AccessStore
  expiresAt : InvitationId → Option DateTime

structure StateToken where
  invitationId : InvitationId
  exp : Nat
deriving DecidableEq

def sevenDays : Nat := 7 * dayMicros

def generateStateToken (invitationId : InvitationId) (now : DateTime) : StateToken :=
  ⟨invitationId, now.toMicros / secondMicros + sevenDays / secondMicros⟩

/-- `decode_jwt` of a token with a valid signature. -/
def decodeState (now : DateTime) (t : StateToken) : Option InvitationId :=
  if t.exp * secondMicros ≤ now.toMicros then none else some t.invitationId

abbrev Invitations := Call AccessErr InvitationStore

namespace InvitationService

def inAccess {α : Type} (m : Access α) : Invitations α :=
  embed InvitationStore.access (fun st access => { st with access := access }) m

/-- `InvitationService.invite_user`, a new row expiring seven days from `now` and the token minted at `minted`. -/
def inviteUser (workspaceId : WorkspaceId) (inviteeEmail : String) (role : Roles) (now : DateTime) (id : InvitationId)
    (minted : DateTime) : Invitations (WorkspaceInvitation × StateToken) := do
  let before ← get
  let invitation ← inAccess (Fix.inviteUser workspaceId inviteeEmail role now id)
  if before.access.invitations.find invitation.id = none then
    modify fun st =>
      { st with expiresAt := Function.update st.expiresAt invitation.id (some (now.addMicros sevenDays)) }
  return (invitation, generateStateToken invitation.id minted)

def acceptInvitation (token : StateToken) (now : DateTime) : Invitations InvitationResult :=
  match decodeState now token with
  | none => throw (.raised (.notAllowed "Invalid state token."))
  | some invitationId => inAccess (Fix.acceptInvitation invitationId now)

def revokeInvitation (workspaceId : WorkspaceId) (invitationId : InvitationId) : Invitations PUnit :=
  inAccess (deleteInvitation workspaceId invitationId)

/-! ## The calls in any order -/

/-- A call of `invite_user` and the invitation it returned. -/
structure InviteCall where
  workspaceId : WorkspaceId
  email : String
  role : Roles
  now : DateTime
  minted : DateTime
  invitationId : InvitationId
deriving DecidableEq

def InviteCall.token (c : InviteCall) : StateToken := generateStateToken c.invitationId c.minted

/-- The store and the calls of `invite_user`, the last one at the end. -/
structure InvitationRun where
  store : InvitationStore
  log : List InviteCall

inductive InvitationAction where
  | invite (workspaceId : WorkspaceId) (email : String) (role : Roles) (now : DateTime) (id : InvitationId)
      (minted : DateTime)
  | revoke (workspaceId : WorkspaceId) (id : InvitationId)
  | accept (token : StateToken) (now : DateTime)
  /-- Other requests change the other tables, and delete invitations. -/
  | elsewhere (access : AccessStore)

/-- One call.  An id is drawn once, and a token is one that was minted. -/
def invitationStep (r : InvitationRun) : InvitationAction → Option InvitationRun
  | .invite workspaceId email role now id minted =>
    if id ∈ r.log.map (·.invitationId) then none
    else
      match exec (inviteUser workspaceId email role now id minted) r.store with
      | (.ok (invitation, _), store) =>
        some ⟨store, r.log ++ [⟨workspaceId, email, role, now, minted, invitation.id⟩]⟩
      | (.error _, store) => some { r with store := store }
  | .revoke workspaceId id => some { r with store := (exec (revokeInvitation workspaceId id) r.store).2 }
  | .accept token now =>
    if token ∈ r.log.map (·.token) then some { r with store := (exec (acceptInvitation token now) r.store).2 } else none
  | .elsewhere access =>
    if ∀ i ∈ access.invitations.rows, i ∈ r.store.access.invitations.rows then
      some { r with store := { r.store with access := access } }
    else none

def InvitationRun.begin (access : AccessStore) : InvitationRun :=
  ⟨⟨{ access with invitations := ⟨[], List.nodup_nil⟩ }, fun _ => none⟩, []⟩

def InvitationRun.created (r : InvitationRun) (id : InvitationId) : Option InviteCall :=
  r.log.find? fun c => decide (c.invitationId = id)

def InvitationRun.lastInvite (r : InvitationRun) (workspaceId : WorkspaceId) (email : String) : Option InviteCall :=
  (r.log.filter fun c => decide (c.workspaceId = workspaceId ∧ c.email = email)).getLast?

/-- **An invitation is accepted as it was created**, and within seven days of a call that returned it. -/
structure AcceptedAsCreated (r : InvitationRun) (token : StateToken) (now : DateTime)
    (i : WorkspaceInvitation) : Prop where
  minted : ∃ call ∈ r.log, call.token = token ∧ call.invitationId = i.id ∧
    now.toMicros < call.minted.toMicros / secondMicros * secondMicros + sevenDays
  created : ∃ first, r.created i.id = some first ∧ i.workspaceId = first.workspaceId ∧ i.email = first.email ∧
    i.role = first.role ∧ r.store.expiresAt i.id = some (first.now.addMicros sevenDays)

/-- An invitation is accepted before it expires, and in the role it was last offered. -/
structure AcceptedInTime (r : InvitationRun) (now : DateTime) (i : WorkspaceInvitation) : Prop where
  unexpired : ∃ expiresAt, r.store.expiresAt i.id = some expiresAt ∧ now < expiresAt
  lastRole : ∃ last, r.lastInvite i.workspaceId i.email = some last ∧ i.role = last.role

/-! ## What the calls do to the invitations -/

/-- The offer of an invitation: all of it but the acceptance. -/
def SameOffer (i j : WorkspaceInvitation) : Prop :=
  i.id = j.id ∧ i.workspaceId = j.workspaceId ∧ i.email = j.email ∧ i.role = j.role

def Offers (rows : List WorkspaceInvitation) (st : AccessStore) : Prop :=
  ∀ i ∈ st.invitations.rows, ∃ j ∈ rows, SameOffer i j

theorem offers_self (st : AccessStore) : Offers st.invitations.rows st := fun i hi => ⟨i, hi, rfl, rfl, rfl, rfl⟩

theorem offers_addToWorkspace {rows : List WorkspaceInvitation} (workspaceId : WorkspaceId) (userId : UserId)
    (role : Roles) : Keeps (Offers rows) (addToWorkspace workspaceId userId role) := by
  refine Triple.get_bind fun st hst => ?_
  refine Triple.imp ?_ (fun _ h => h ▸ hst) (fun _ _ h => h) fun _ h => h
  split
  · exact Keeps.throw _
  · split
    · exact Keeps.pure _
    · split
      · exact Keeps.throw _
      · exact Triple.of_exec fun _ _ => hst

theorem offers_deleteInvitation {rows : List WorkspaceInvitation} (workspaceId : WorkspaceId) (id : InvitationId) :
    Keeps (Offers rows) (deleteInvitation workspaceId id) := by
  refine Triple.get_bind fun st hst => ?_
  refine Triple.imp ?_ (fun _ h => h ▸ hst) (fun _ _ h => h) fun _ h => h
  split
  · exact Keeps.pure _
  · split
    · exact Keeps.throw _
    · exact Triple.of_exec fun _ _ i hi => hst i (Table.mem_delete.1 hi).1

theorem offers_acceptInvitation {rows : List WorkspaceInvitation} (invitationId : InvitationId) (now : DateTime) :
    Keeps (Offers rows) (Fix.acceptInvitation invitationId now) := by
  refine acceptInvitation_keeps offers_addToWorkspace offers_deleteInvitation (fun st invitation _ hst hmem => ?_)
    invitationId now
  intro i hi
  rcases Table.mem_replace hi with hold | rfl
  · exact hst i hold
  · exact hst invitation hmem

theorem acceptInvitation_updated {invitationId : InvitationId} {now : DateTime} {st st' : AccessStore}
    {i : WorkspaceInvitation} (h : exec (Fix.acceptInvitation invitationId now) st = (.ok (.updated i), st')) :
    ∃ invitation ∈ st.invitations.rows, invitation.id = invitationId ∧ SameOffer i invitation := by
  unfold Fix.acceptInvitation at h
  rw [exec_bind, exec_get] at h
  dsimp only at h
  cases hfind : st.invitations.find invitationId with
  | none =>
    rw [hfind] at h
    cases h
  | some invitation =>
    rw [hfind] at h
    dsimp only at h
    refine ⟨invitation, Table.mem_of_find hfind, Table.key_of_find hfind, ?_⟩
    cases hworkspace : getWorkspace st.organizations invitation.workspaceId with
    | none =>
      rw [hworkspace] at h
      cases h
    | some workspace =>
      rw [hworkspace] at h
      dsimp only at h
      by_cases hseats : (workspace.paymentOnHoldSince.isSome || seatsTaken workspace now) = true
      · rw [if_pos hseats] at h
        cases h
      · rw [if_neg hseats, exec_bind, exec_set] at h
        dsimp only at h
        rw [exec_bind] at h
        rcases hjoin : exec (joinInvited invitation)
          { st with invitations := st.invitations.replace { invitation with acceptedAt := some now } } with ⟨e | u,
            st''⟩
        · rw [hjoin] at h
          cases h
        · rw [hjoin] at h
          cases h
          exact ⟨rfl, rfl, rfl, rfl⟩

/-- **What `invite_user` does**: it returns the stored invitation of the workspace and the e-mail, or stores a new
one. -/
theorem inviteUser_cases (workspaceId : WorkspaceId) (email : String) (role : Roles) (now : DateTime)
    (id : InvitationId)
    (st : AccessStore) :
    (∃ e, exec (Fix.inviteUser workspaceId email role now id) st = (.error e, st)) ∨
    (∃ i ∈ st.invitations.rows, i.workspaceId = workspaceId ∧ i.email = email ∧
      exec (Fix.inviteUser workspaceId email role now id) st = (.ok i, st)) ∨
    st.invitations.find id = none ∧ ∃ st', st'.invitations.rows = st.invitations.rows ++
      [⟨id, workspaceId, email, role, none⟩] ∧
      exec (Fix.inviteUser workspaceId email role now id) st = (.ok ⟨id, workspaceId, email, role, none⟩, st') := by
  unfold Fix.inviteUser
  rw [exec_bind, exec_get]
  dsimp only
  cases hworkspace : getWorkspace st.organizations workspaceId with
  | none => exact Or.inl ⟨_, rfl⟩
  | some workspace =>
  dsimp only
  by_cases hhold : workspace.paymentOnHoldSince.isSome = true
  · rw [if_pos hhold]
    exact Or.inl ⟨_, rfl⟩
  rw [if_neg hhold]
  by_cases hseats : seatsTaken workspace now = true
  · rw [if_pos hseats]
    exact Or.inl ⟨_, rfl⟩
  rw [if_neg hseats]
  unfold createInvitation
  rw [exec_bind, exec_get]
  dsimp only
  cases hexisting : st.invitations.rows.find? fun i => decide (i.workspaceId = workspaceId ∧ i.email = email) with
  | some existing =>
    have hfound := List.find?_some hexisting
    rw [decide_eq_true_eq] at hfound
    exact Or.inr (Or.inl ⟨existing, List.mem_of_find?_eq_some hexisting, hfound.1, hfound.2, rfl⟩)
  | none =>
    rw [hworkspace]
    dsimp only
    cases (st.getUserByEmail email).filter fun user => decide (user.id ∈ workspace.allUsers) with
    | some user => exact Or.inl ⟨_, rfl⟩
    | none =>
      dsimp only
      by_cases hnew : st.invitations.find id = none
      · rw [dif_pos hnew]
        exact Or.inr (Or.inr ⟨hnew, _, rfl, rfl⟩)
      · rw [dif_neg hnew]
        exact Or.inl ⟨_, rfl⟩

/-! ## Every sequence of calls -/

def CreatedBy (r : InvitationRun) (i : WorkspaceInvitation) : Prop :=
  ∃ first, r.created i.id = some first ∧ i.workspaceId = first.workspaceId ∧ i.email = first.email ∧
    i.role = first.role ∧ r.store.expiresAt i.id = some (first.now.addMicros sevenDays)

def AllCreated (r : InvitationRun) : Prop := ∀ i ∈ r.store.access.invitations.rows, CreatedBy r i

theorem CreatedBy.of_sameOffer {r : InvitationRun} {i j : WorkspaceInvitation} (h : CreatedBy r j)
    (hij : SameOffer i j) :
    CreatedBy r i := by
  obtain ⟨hid, hworkspace, hemail, hrole⟩ := hij
  unfold CreatedBy
  rw [hid, hworkspace, hemail, hrole]
  exact h

theorem AllCreated.of_offers {r : InvitationRun} (h : AllCreated r) {access : AccessStore}
    (hoffers : Offers r.store.access.invitations.rows access) :
    AllCreated { r with store := { r.store with access := access } } := by
  intro i hi
  obtain ⟨j, hj, hij⟩ := hoffers i hi
  have hcreated : CreatedBy r i := (h j hj).of_sameOffer hij
  exact hcreated

theorem created_snoc_of_some {r : InvitationRun} {id : InvitationId} {first : InviteCall}
    (h : r.created id = some first)
    (store : InvitationStore) (call : InviteCall) : (InvitationRun.mk store (r.log ++ [call])).created id =
      some first := by
  unfold InvitationRun.created at h ⊢
  rw [List.find?_append, h]
  rfl

theorem created_snoc_of_new {r : InvitationRun} {call : InviteCall}
    (hnew : call.invitationId ∉ r.log.map (·.invitationId)) (store : InvitationStore) :
    (InvitationRun.mk store (r.log ++ [call])).created call.invitationId = some call := by
  have hnone : r.log.find? (fun c => decide (c.invitationId = call.invitationId)) = none := by
    rw [List.find?_eq_none]
    intro c hc hsame
    rw [decide_eq_true_eq] at hsame
    exact hnew (List.mem_map.2 ⟨c, hc, hsame⟩)
  unfold InvitationRun.created
  rw [List.find?_append, hnone, Option.none_or]
  exact List.find?_cons_of_pos (decide_eq_true rfl)

theorem exec_inviteUser_old {workspaceId : WorkspaceId} {email : String} {role : Roles} {now minted : DateTime}
    {id : InvitationId} {st : InvitationStore} {i : WorkspaceInvitation} (hi : i ∈ st.access.invitations.rows)
    (h : exec (Fix.inviteUser workspaceId email role now id) st.access = (.ok i, st.access)) :
    exec (inviteUser workspaceId email role now id minted) st = (.ok (i, generateStateToken i.id minted), st) := by
  have hstored : ¬st.access.invitations.find i.id = none := by
    intro hnone
    exact (Table.find_eq_none_iff _ _).1 hnone i hi rfl
  unfold inviteUser inAccess
  rw [exec_bind, exec_get]
  dsimp only
  rw [exec_bind, exec_embed, h]
  dsimp only
  rw [if_neg hstored]
  rfl

theorem exec_inviteUser_new {workspaceId : WorkspaceId} {email : String} {role : Roles} {now minted : DateTime}
    {id : InvitationId} {st : InvitationStore} {i : WorkspaceInvitation} {access : AccessStore}
    (hnew : st.access.invitations.find i.id = none)
    (h : exec (Fix.inviteUser workspaceId email role now id) st.access = (.ok i, access)) :
    exec (inviteUser workspaceId email role now id minted) st = (.ok (i, generateStateToken i.id minted),
      ⟨access, Function.update st.expiresAt i.id (some (now.addMicros sevenDays))⟩) := by
  unfold inviteUser inAccess
  rw [exec_bind, exec_get]
  dsimp only
  rw [exec_bind, exec_embed, h]
  dsimp only
  rw [if_pos hnew]
  rfl

theorem exec_inviteUser_error {workspaceId : WorkspaceId} {email : String} {role : Roles} {now minted : DateTime}
    {id : InvitationId} {st : InvitationStore} {e : AccessErr}
    (h : exec (Fix.inviteUser workspaceId email role now id) st.access = (.error e, st.access)) :
    exec (inviteUser workspaceId email role now id minted) st = (.error e, st) := by
  unfold inviteUser inAccess
  rw [exec_bind, exec_get]
  dsimp only
  rw [exec_bind, exec_embed, h]

/-- Of functions, since a comparison of the applied sides would run `decodeState`. -/
theorem acceptInvitation_eq : acceptInvitation = fun token now =>
    match decodeState now token with
    | none => throw (.raised (.notAllowed "Invalid state token."))
    | some invitationId => inAccess (Fix.acceptInvitation invitationId now) := rfl

/-- A token that cannot be read, or has expired. -/
theorem exec_acceptInvitation_unread {token : StateToken} {now : DateTime} (h : decodeState now token = none)
    (st : InvitationStore) : exec (acceptInvitation token now) st =
      (.error (.raised (.notAllowed "Invalid state token.")), st) := by
  rw [acceptInvitation_eq]
  dsimp only
  rw [h]
  rfl

theorem exec_acceptInvitation_read {token : StateToken} {now : DateTime} {invitationId : InvitationId}
    (h : decodeState now token = some invitationId) (st : InvitationStore) : exec (acceptInvitation token now) st =
      ((exec (Fix.acceptInvitation invitationId now) st.access).1,
        { st with access := (exec (Fix.acceptInvitation invitationId now) st.access).2 }) := by
  rw [acceptInvitation_eq]
  dsimp only
  rw [h]
  dsimp only
  unfold inAccess
  rw [exec_embed]

/-- **One call keeps the invitations as they were created.** -/
theorem AllCreated.step {r r' : InvitationRun} {a : InvitationAction} (h : AllCreated r)
    (hstep : invitationStep r a = some r') : AllCreated r' := by
  cases a with
  | revoke workspaceId id =>
    cases hstep
    unfold revokeInvitation inAccess
    rw [exec_embed]
    exact h.of_offers (Keeps.after (offers_deleteInvitation workspaceId id) (offers_self r.store.access))
  | accept token now =>
    by_cases htoken : token ∈ r.log.map (·.token)
    · rw [invitationStep, if_pos htoken] at hstep
      cases hstep
      cases hdecoded : decodeState now token with
      | none =>
        rw [exec_acceptInvitation_unread hdecoded]
        exact h
      | some invitationId =>
        rw [exec_acceptInvitation_read hdecoded]
        exact h.of_offers (Keeps.after (offers_acceptInvitation invitationId now) (offers_self r.store.access))
    · rw [invitationStep, if_neg htoken] at hstep
      cases hstep
  | elsewhere access =>
    by_cases hrows : ∀ i ∈ access.invitations.rows, i ∈ r.store.access.invitations.rows
    · rw [invitationStep, if_pos hrows] at hstep
      cases hstep
      exact h.of_offers fun i hi => ⟨i, hrows i hi, rfl, rfl, rfl, rfl⟩
    · rw [invitationStep, if_neg hrows] at hstep
      cases hstep
  | invite workspaceId email role now id minted =>
    by_cases hid : id ∈ r.log.map (·.invitationId)
    · rw [invitationStep, if_pos hid] at hstep
      cases hstep
    rw [invitationStep, if_neg hid] at hstep
    rcases inviteUser_cases workspaceId email role now id r.store.access with
      ⟨e, herror⟩ | ⟨i, hi, -, -, hold⟩ | ⟨hnew, access, hrows, hstored⟩
    · rw [exec_inviteUser_error herror] at hstep
      cases hstep
      exact h
    · rw [exec_inviteUser_old hi hold] at hstep
      cases hstep
      intro j hj
      obtain ⟨first, hfirst, hoffer⟩ := h j hj
      exact ⟨first, created_snoc_of_some hfirst _ _, hoffer⟩
    · rw [exec_inviteUser_new hnew hstored] at hstep
      cases hstep
      intro j hj
      dsimp only at hj
      rw [hrows] at hj
      rcases List.mem_append.1 hj with hj | hj
      · obtain ⟨first, hfirst, hworkspace, hemail, hrole, hexpires⟩ := h j hj
        have hne : j.id ≠ id := (Table.find_eq_none_iff _ _).1 hnew j hj
        refine ⟨first, created_snoc_of_some hfirst _ _, hworkspace, hemail, hrole, ?_⟩
        dsimp only
        rw [Function.update_of_ne hne]
        exact hexpires
      · rw [List.mem_singleton] at hj
        subst hj
        refine ⟨_, created_snoc_of_new hid _, rfl, rfl, rfl, ?_⟩
        dsimp only
        rw [Function.update_self]

theorem allCreated_begin (access : AccessStore) : AllCreated (InvitationRun.begin access) := fun i hi => (by cases hi)

/-- **Every invitation is accepted as it was created**, with a token that a call minted for it within seven days. -/
theorem acceptInvitation_asCreated {access : AccessStore} {actions : List InvitationAction} {r : InvitationRun}
    (hrun : run invitationStep (InvitationRun.begin access) actions = some r) {token : StateToken} {now : DateTime}
    (htoken : token ∈ r.log.map (·.token)) {i : WorkspaceInvitation} {st : InvitationStore}
    (haccept : exec (acceptInvitation token now) r.store = (.ok (.updated i), st)) :
      AcceptedAsCreated r token now i := by
  have hcreated : AllCreated r :=
    run_keeps (fun _ _ _ hs hstep => hs.step hstep) (allCreated_begin access) hrun
  obtain ⟨call, hcall, hminted⟩ := List.mem_map.1 htoken
  cases hdecoded : decodeState now token with
  | none =>
    rw [exec_acceptInvitation_unread hdecoded] at haccept
    cases haccept
  | some invitationId =>
    rw [exec_acceptInvitation_read hdecoded] at haccept
    rcases hupdated : exec (Fix.acceptInvitation invitationId now) r.store.access with ⟨result, access'⟩
    rw [hupdated] at haccept
    cases haccept
    obtain ⟨invitation, hmem, hid, hoffer⟩ := acceptInvitation_updated hupdated
    unfold decodeState at hdecoded
    by_cases hexpired : token.exp * secondMicros ≤ now.toMicros
    · rw [if_pos hexpired] at hdecoded
      cases hdecoded
    · rw [if_neg hexpired] at hdecoded
      refine ⟨⟨call, hcall, hminted, ?_, ?_⟩, (hcreated invitation hmem).of_sameOffer hoffer⟩
      · have htokenId : token.invitationId = invitationId := Option.some.inj hdecoded
        rw [hoffer.1, hid, ← htokenId, ← hminted]
        rfl
      · have hexp : token.exp = call.minted.toMicros / secondMicros + sevenDays / secondMicros := by
          rw [← hminted]
          rfl
        have hseven : sevenDays / secondMicros * secondMicros = sevenDays := by decide
        rw [hexp, Nat.add_mul, hseven] at hexpired
        exact Nat.lt_of_not_le hexpired

/-! ## An invitation that is repeated -/

deriving instance DecidableEq for InvitationResult

def januarySixth : DateTime := (⟨2024, 1, 6, by decide⟩ : Date).atHour 9

def januaryTenth : DateTime := (⟨2024, 1, 10, valid_january10⟩ : Date).atHour 9

/-- A member is invited to workspace 1 at the start of January, and as an admin five days later. -/
def invitedTwice : List InvitationAction :=
  [.invite 1 "new@acme" (mask Role.workspaceMember) january 61 january,
    .invite 1 "new@acme" (mask Role.workspaceAdmin) januarySixth 62 januarySixth]

def acceptedTenth : WorkspaceInvitation := ⟨61, 1, "new@acme", mask Role.workspaceMember, some januaryTenth⟩

def secondToken : StateToken := generateStateToken 61 januarySixth

def invitedRun : InvitationRun :=
  (run invitationStep (InvitationRun.begin acmeStore) invitedTwice).get (by decide +kernel)

theorem invitedRun_eq : run invitationStep (InvitationRun.begin acmeStore) invitedTwice = some invitedRun :=
  (Option.some_get _).symm

theorem invitedRun_accept : exec (acceptInvitation secondToken januaryTenth) invitedRun.store =
    (.ok (.updated acceptedTenth), (exec (acceptInvitation secondToken januaryTenth) invitedRun.store).2) := by
  have hok : (exec (acceptInvitation secondToken januaryTenth) invitedRun.store).1 = .ok (.updated acceptedTenth) := by
    decide +kernel
  rw [← hok]

theorem acceptInvitation_asCreated_invitedTwice : AcceptedAsCreated invitedRun secondToken januaryTenth acceptedTenth :=
  acceptInvitation_asCreated invitedRun_eq (by decide +kernel) invitedRun_accept

/-- The second token is accepted two days after the invitation has expired, and the invitation is the member's. -/
theorem invitedTwice_not_inTime : ∃ actions r token now i st,
    run invitationStep (InvitationRun.begin acmeStore) actions = some r ∧ token ∈ r.log.map (·.token) ∧
    exec (acceptInvitation token now) r.store = (.ok (.updated i), st) ∧ ¬AcceptedInTime r now i ∧
    (∃ expiresAt, r.store.expiresAt i.id = some expiresAt ∧ expiresAt < now) ∧
    ∃ last, r.lastInvite i.workspaceId i.email = some last ∧ i.role ≠ last.role := by
  have hexpired : invitedRun.store.expiresAt 61 = some (january.addMicros sevenDays) ∧
    january.addMicros sevenDays < januaryTenth := by decide +kernel
  have hlast : ∃ last, invitedRun.lastInvite 1 "new@acme" = some last ∧ mask Role.workspaceMember ≠ last.role :=
    ⟨⟨1, "new@acme", mask Role.workspaceAdmin, januarySixth, januarySixth, 61⟩, by decide +kernel, by decide⟩
  refine ⟨invitedTwice, invitedRun, secondToken, januaryTenth, acceptedTenth, _, invitedRun_eq, by decide +kernel,
    invitedRun_accept, fun h => ?_, ⟨_, hexpired⟩, hlast⟩
  obtain ⟨last, hfound, hrole⟩ := h.lastRole
  obtain ⟨last', hfound', hother⟩ := hlast
  have hsame : some last = some last' := hfound.symm.trans hfound'
  cases hsame
  exact hother hrole

end InvitationService

end Fix
