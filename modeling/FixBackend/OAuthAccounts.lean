import FixBackend.SubscriptionRepository
/-!
# OAuthAccounts — the OAuth accounts that are linked to the users

`UserRepository.add_oauth_account` of `fixbackend/auth/user_repository.py` and the flows of
`fixbackend/auth/user_manager.py` that link accounts: sign-in and association.  An account is known under its provider
and the id that the provider gave it, and the same id may be in use with several providers.
-/
namespace Fix

namespace OAuthAccounts

/-- A row of `oauth_account`, which has no constraint but the one on its primary key. -/
structure OAuthAccount where
  id : Uuid
  userId : UserId
  oauthName : String
  accessToken : String
  expiresAt : Option Int
  refreshToken : Option String
  accountId : String
  accountEmail : String
  username : Option String
deriving DecidableEq

/-- `oauth_account_dict`, in which the key of an empty username is missing. -/
structure OAuthAccountDict where
  oauthName : String
  accessToken : String
  accountId : String
  accountEmail : String
  expiresAt : Option Int
  refreshToken : Option String
  username : Option String

def OAuthAccount.identity (a : OAuthAccount) : String × String := (a.oauthName, a.accountId)

def OAuthAccountDict.identity (d : OAuthAccountDict) : String × String := (d.oauthName, d.accountId)

/-- `OAuthAccount(**create_dict)`, appended to the accounts of a user. -/
def OAuthAccountDict.create (d : OAuthAccountDict) (newId : Uuid) (user : UserId) : OAuthAccount where
  id := newId
  userId := user
  oauthName := d.oauthName
  accessToken := d.accessToken
  expiresAt := d.expiresAt
  refreshToken := d.refreshToken
  accountId := d.accountId
  accountEmail := d.accountEmail
  username := d.username

def OAuthAccountDict.update (d : OAuthAccountDict) (a : OAuthAccount) : OAuthAccount :=
  { a with
    oauthName := d.oauthName
    accessToken := d.accessToken
    accountId := d.accountId
    accountEmail := d.accountEmail
    expiresAt := d.expiresAt
    refreshToken := d.refreshToken
    username := d.username.or a.username }

structure Store where
  users : List UserId
  accounts : Table OAuthAccount.id

instance : Inhabited Store := ⟨[], default⟩

inductive OAuthError where
  | userAlreadyExists (msg : Option String)
  | raised (e : Err)
deriving DecidableEq

/-! ## Linking an account -/

def withAccountId (t : Table OAuthAccount.id) (accountId : String) : List OAuthAccount :=
  t.rows.filter fun a => decide (a.accountId = accountId)

def replaceAccount (t : Table OAuthAccount.id) (new : OAuthAccount) (existing : Option OAuthAccount) :
    Except OAuthError (Table OAuthAccount.id) :=
  if h : t.find new.id = none then
    match existing with
    | some old => .ok ((t.insert new h).delete old.id)
    | none => .ok (t.insert new h)
  else .error (.raised .integrityError)

def addOauthAccount (user : UserId) (d : OAuthAccountDict) (newId : Uuid) (st : Store) : Except OAuthError Store :=
  if user ∉ st.users then .error (.raised (.valueError s!"User {user} not found"))
  else
    match scalarOneOrNone (withAccountId st.accounts d.accountId) with
    | .error e => .error (.raised e)
    | .ok existing =>
      if existing.any (fun a => decide (a.userId ≠ user)) then
        .error (.userAlreadyExists (some s!"Account {d.accountId} already linked to another user"))
      else
        (replaceAccount st.accounts (d.create newId user) existing).map fun accounts => { st with accounts := accounts }

theorem mem_withAccountId {t : Table OAuthAccount.id} {accountId : String} {a : OAuthAccount} :
    a ∈ withAccountId t accountId ↔ a ∈ t.rows ∧ a.accountId = accountId := by
  simp [withAccountId]

theorem accountId_ne_of_none {t : Table OAuthAccount.id} {accountId : String} (hnone : withAccountId t accountId = [])
    {a : OAuthAccount} (ha : a ∈ t.rows) : a.accountId ≠ accountId := by
  intro hid
  have hfound := mem_withAccountId.2 ⟨ha, hid⟩
  rw [hnone] at hfound
  cases hfound

theorem old_of_one {t : Table OAuthAccount.id} {accountId : String} {old : OAuthAccount}
    (hone : withAccountId t accountId = [old]) : old ∈ t.rows ∧ old.accountId = accountId :=
  mem_withAccountId.1 (hone ▸ List.mem_singleton.2 rfl)

theorem eq_old_of_one {t : Table OAuthAccount.id} {accountId : String} {old a : OAuthAccount}
    (hone : withAccountId t accountId = [old]) (ha : a ∈ t.rows) (hid : a.accountId = accountId) : a = old := by
  have hfound := mem_withAccountId.2 ⟨ha, hid⟩
  rw [hone] at hfound
  exact List.mem_singleton.1 hfound

section Add

variable {user : UserId} {d : OAuthAccountDict} {newId : Uuid} {st : Store}

theorem addOauthAccount_unknown (h : user ∉ st.users) :
    addOauthAccount user d newId st = .error (.raised (.valueError s!"User {user} not found")) := if_pos h

variable (huser : user ∈ st.users) (hnew : st.accounts.find newId = none)
include huser

theorem addOauthAccount_many (hmany : 1 < (withAccountId st.accounts d.accountId).length) :
    addOauthAccount user d newId st = .error (.raised .multipleResultsFound) := by
  unfold addOauthAccount
  rw [if_neg (not_not_intro huser)]
  match hl : withAccountId st.accounts d.accountId with
  | [] => simp [hl] at hmany
  | [_] => simp [hl] at hmany
  | _ :: _ :: _ => rfl

theorem addOauthAccount_another {old : OAuthAccount} (hone : withAccountId st.accounts d.accountId = [old])
    (hold : old.userId ≠ user) : addOauthAccount user d newId st =
      .error (.userAlreadyExists (some s!"Account {d.accountId} already linked to another user")) := by
  unfold addOauthAccount
  rw [if_neg (not_not_intro huser), hone]
  simp [scalarOneOrNone, hold]

include hnew

theorem addOauthAccount_none (hnone : withAccountId st.accounts d.accountId = []) :
    addOauthAccount user d newId st =
      .ok { st with accounts := st.accounts.insert (d.create newId user) hnew } := by
  unfold addOauthAccount
  rw [if_neg (not_not_intro huser), hnone]
  have hreplace : replaceAccount st.accounts (d.create newId user) none =
      .ok (st.accounts.insert (d.create newId user) hnew) := dif_pos hnew
  simp [scalarOneOrNone, hreplace, Except.map]

theorem addOauthAccount_own {old : OAuthAccount} (hone : withAccountId st.accounts d.accountId = [old])
    (hold : old.userId = user) : addOauthAccount user d newId st =
      .ok { st with accounts := (st.accounts.insert (d.create newId user) hnew).delete old.id } := by
  unfold addOauthAccount
  rw [if_neg (not_not_intro huser), hone]
  have hreplace : replaceAccount st.accounts (d.create newId user) (some old) =
      .ok ((st.accounts.insert (d.create newId user) hnew).delete old.id) := dif_pos hnew
  simp [scalarOneOrNone, hold, hreplace, Except.map]

end Add

/-! ## An identity is linked, and only this identity -/

/-- The call is refused exactly when the identity is linked to another user, and does not fail otherwise; when it
succeeds, the entry of the user for the identity is the new one and every other account is as before. -/
structure LinksIdentity (user : UserId) (d : OAuthAccountDict) (newId : Uuid) (st : Store)
    (outcome : Except OAuthError Store) : Prop where
  refused_iff : (∃ msg, outcome = .error (.userAlreadyExists msg)) ↔
    ∃ a ∈ st.accounts.rows, a.identity = d.identity ∧ a.userId ≠ user
  refused_of_error : ∀ e, outcome = .error e → ∃ msg, e = .userAlreadyExists msg
  linked : ∀ st', outcome = .ok st' → st'.users = st.users ∧ ∀ a, a ∈ st'.accounts.rows ↔
    a = d.create newId user ∨ a ∈ st.accounts.rows ∧ ¬(a.userId = user ∧ a.identity = d.identity)

/-- At most one account has the account id, and it is one of the provider. -/
def Unshared (d : OAuthAccountDict) (t : Table OAuthAccount.id) : Prop :=
  (withAccountId t d.accountId).length ≤ 1 ∧ ∀ a ∈ withAccountId t d.accountId, a.oauthName = d.oauthName

instance (d : OAuthAccountDict) (t : Table OAuthAccount.id) : Decidable (Unshared d t) :=
  inferInstanceAs (Decidable (_ ∧ _))

theorem identity_eq_iff {a : OAuthAccount} {d : OAuthAccountDict} :
    a.identity = d.identity ↔ a.oauthName = d.oauthName ∧ a.accountId = d.accountId := Prod.ext_iff

theorem mem_insert_delete {t : Table OAuthAccount.id} {new old a : OAuthAccount} (hnew : t.find new.id = none)
    (hold : old ∈ t.rows) : a ∈ ((t.insert new hnew).delete old.id).rows ↔ a = new ∨ a ∈ t.rows ∧ a ≠ old := by
  have hne : ∀ x ∈ t.rows, x.id ≠ new.id := (t.find_eq_none_iff new.id).1 hnew
  have hrows : a ∈ (t.insert new hnew).rows ↔ a ∈ t.rows ∨ a = new := by simp [Table.insert]
  rw [Table.mem_delete, hrows]
  constructor
  · rintro ⟨h | h, hid⟩
    · exact .inr ⟨h, fun heq => hid (by rw [heq])⟩
    · exact .inl h
  · rintro (rfl | ⟨h, hne'⟩)
    · exact ⟨.inr rfl, (hne old hold).symm⟩
    · exact ⟨.inl h, fun hid => hne' (List.inj_on_of_nodup_map t.unique h hold hid)⟩

section Identity

variable {user : UserId} {d : OAuthAccountDict} {newId : Uuid} {st : Store}

theorem linksIdentity_ok {accounts : Table OAuthAccount.id}
    (hfree : ∀ a ∈ st.accounts.rows, a.identity = d.identity → a.userId = user)
    (hrows : ∀ a, a ∈ accounts.rows ↔
      a = d.create newId user ∨ a ∈ st.accounts.rows ∧ ¬(a.userId = user ∧ a.identity = d.identity)) :
    LinksIdentity user d newId st (.ok { st with accounts := accounts }) := by
  constructor
  · constructor
    · rintro ⟨msg, h⟩
      cases h
    · rintro ⟨a, ha, hid, hother⟩
      exact absurd (hfree a ha hid) hother
  · intro e h
    cases h
  · rintro st' ⟨⟩
    exact ⟨rfl, hrows⟩

variable (huser : user ∈ st.users) (hnew : st.accounts.find newId = none)
include huser hnew

theorem linksIdentity_of_none (hnone : withAccountId st.accounts d.accountId = []) :
    LinksIdentity user d newId st (addOauthAccount user d newId st) := by
  have hunused : ∀ a ∈ st.accounts.rows, a.identity ≠ d.identity := by
    intro a ha hid
    exact accountId_ne_of_none hnone ha (identity_eq_iff.1 hid).2
  rw [addOauthAccount_none huser hnew hnone]
  apply linksIdentity_ok fun a ha hid => absurd hid (hunused a ha)
  intro a
  have hrows : a ∈ (st.accounts.insert (d.create newId user) hnew).rows ↔
      a ∈ st.accounts.rows ∨ a = d.create newId user := by simp [Table.insert]
  rw [hrows]
  constructor
  · rintro (h | h)
    · exact .inr ⟨h, fun hown => hunused a h hown.2⟩
    · exact .inl h
  · rintro (h | ⟨h, -⟩)
    · exact .inr h
    · exact .inl h

theorem linksIdentity_of_own {old : OAuthAccount} (hone : withAccountId st.accounts d.accountId = [old])
    (hold : old.userId = user) (hname : old.oauthName = d.oauthName) :
    LinksIdentity user d newId st (addOauthAccount user d newId st) := by
  have hmem := old_of_one hone
  have honly : ∀ a ∈ st.accounts.rows, a.identity = d.identity → a = old := by
    intro a ha hid
    exact eq_old_of_one hone ha (identity_eq_iff.1 hid).2
  rw [addOauthAccount_own huser hnew hone hold]
  apply linksIdentity_ok fun a ha hid => honly a ha hid ▸ hold
  intro a
  rw [mem_insert_delete hnew hmem.1]
  apply or_congr_right
  apply and_congr_right
  intro ha
  apply not_congr
  constructor
  · rintro rfl
    exact ⟨hold, identity_eq_iff.2 ⟨hname, hmem.2⟩⟩
  · exact fun hown => honly a ha hown.2

omit hnew in
theorem linksIdentity_of_another {old : OAuthAccount} (hone : withAccountId st.accounts d.accountId = [old])
    (hold : old.userId ≠ user) (hname : old.oauthName = d.oauthName) :
    LinksIdentity user d newId st (addOauthAccount user d newId st) := by
  have hmem := old_of_one hone
  rw [addOauthAccount_another huser hone hold]
  constructor
  · exact iff_of_true ⟨_, rfl⟩ ⟨old, hmem.1, identity_eq_iff.2 ⟨hname, hmem.2⟩, hold⟩
  · rintro e ⟨⟩
    exact ⟨_, rfl⟩
  · intro st' h
    cases h

/-- What goes wrong when an account id is in use with another provider: the account of the user is lost, or the one of
another user is a reason to refuse. -/
theorem oauthName_of_linksIdentity {old : OAuthAccount} (hone : withAccountId st.accounts d.accountId = [old])
    (hlinks : LinksIdentity user d newId st (addOauthAccount user d newId st)) : old.oauthName = d.oauthName := by
  have hmem := old_of_one hone
  by_cases hold : old.userId = user
  · rw [addOauthAccount_own huser hnew hone hold] at hlinks
    by_contra hname
    have hkept := ((hlinks.linked _ rfl).2 old).2 (.inr ⟨hmem.1, fun h => hname (identity_eq_iff.1 h.2).1⟩)
    exact (Table.mem_delete.1 hkept).2 rfl
  · rw [addOauthAccount_another huser hone hold] at hlinks
    obtain ⟨a, ha, hid, -⟩ := hlinks.refused_iff.1 ⟨_, rfl⟩
    obtain ⟨hname, hsame⟩ := identity_eq_iff.1 hid
    exact eq_old_of_one hone ha hsame ▸ hname

theorem unshared_of_linksIdentity (hlinks : LinksIdentity user d newId st (addOauthAccount user d newId st)) :
    Unshared d st.accounts := by
  match hl : withAccountId st.accounts d.accountId with
  | [] => simp [Unshared, hl]
  | [old] => simp [Unshared, hl, oauthName_of_linksIdentity huser hnew hl hlinks]
  | _ :: _ :: _ =>
    have hmany : 1 < (withAccountId st.accounts d.accountId).length := by simp [hl]
    obtain ⟨msg, hmsg⟩ := hlinks.refused_of_error _ (addOauthAccount_many huser hmany)
    cases hmsg

theorem linksIdentity_of_unshared (hunshared : Unshared d st.accounts) :
    LinksIdentity user d newId st (addOauthAccount user d newId st) := by
  obtain ⟨hlength, hnames⟩ := hunshared
  match hl : withAccountId st.accounts d.accountId with
  | [] => exact linksIdentity_of_none huser hnew hl
  | [old] =>
    have hname := hnames old (hl ▸ List.mem_singleton.2 rfl)
    by_cases hold : old.userId = user
    · exact linksIdentity_of_own huser hnew hl hold hname
    · exact linksIdentity_of_another huser hl hold hname
  | _ :: _ :: _ =>
    rw [hl] at hlength
    simp at hlength

/-- **Linking an account touches only its identity exactly when no other provider uses the account id** and no second
account has it. -/
theorem addOauthAccount_links_iff :
    LinksIdentity user d newId st (addOauthAccount user d newId st) ↔ Unshared d st.accounts :=
  ⟨unshared_of_linksIdentity huser hnew, linksIdentity_of_unshared huser hnew⟩

end Identity

/-- User 1 has an account of GitHub with the id 42, and user 2 has none. -/
def githubLinked : Store := ⟨[1, 2], ⟨[⟨10, 1, "github", "token", none, none, "42", "a@example.com", none⟩], by decide⟩⟩

def googleAccount (accountId : String) : OAuthAccountDict :=
  ⟨"google", "token", accountId, "b@example.com", none, none, none⟩

/-- User 2 is refused an account of Google with the id 42, which nobody has. -/
theorem addOauthAccount_not_links : ¬LinksIdentity 2 (googleAccount "42") 11 githubLinked
    (addOauthAccount 2 (googleAccount "42") 11 githubLinked) := by
  intro hlinks
  have hshared : ¬Unshared (googleAccount "42") githubLinked.accounts := by decide +kernel
  exact hshared (unshared_of_linksIdentity (by decide) (by decide +kernel) hlinks)

/-- With another id, it is linked. -/
theorem addOauthAccount_links_anotherId : LinksIdentity 2 (googleAccount "43") 11 githubLinked
    (addOauthAccount 2 (googleAccount "43") 11 githubLinked) := by
  have huser : 2 ∈ githubLinked.users := by decide
  have hnew : githubLinked.accounts.find 11 = none := by decide +kernel
  have hunshared : Unshared (googleAccount "43") githubLinked.accounts := by decide +kernel
  exact (addOauthAccount_links_iff huser hnew).2 hunshared

/-! ## The flows -/

def getByOauthAccount (oauth accountId : String) (st : Store) : Except Err (Option UserId) :=
  scalarOneOrNone ((st.accounts.rows.filter fun a =>
    decide (a.userId ∈ st.users ∧ a.oauthName = oauth ∧ a.accountId = accountId)).map (·.userId)).dedup

/-- The store after `update_oauth_account` for the accounts of a user with an identity. -/
def updateOauthAccounts (user : UserId) (d : OAuthAccountDict) (st : Store) : Store :=
  { st with
    accounts := st.accounts.updateWhere
      (fun a => decide (a.userId = user ∧ a.accountId = d.accountId ∧ a.oauthName = d.oauthName)) d.update
      (fun _ => rfl) }

def committed (user : UserId) (st : Store) : Except OAuthError Store → Except OAuthError UserId × Store
  | .ok st' => (.ok user, st')
  | .error e => (.error e, st)

def oauthAssociateCallback (user : UserId) (d : OAuthAccountDict) (newId : Uuid) (st : Store) :
    Except OAuthError UserId × Store := committed user st (addOauthAccount user d newId st)

/-- `oauth_callback`, where `byEmail` is the user that `get_by_email` finds and `newUser` the id of a user that is
created.  The user stays when linking the account fails. -/
def oauthCallback (d : OAuthAccountDict) (associateByEmail : Bool) (byEmail : Option UserId) (newUser : UserId)
    (newId : Uuid) (st : Store) : Except OAuthError UserId × Store :=
  match getByOauthAccount d.oauthName d.accountId st with
  | .error e => (.error (.raised e), st)
  | .ok (some user) => (.ok user, updateOauthAccounts user d st)
  | .ok none =>
    match byEmail with
    | some user =>
      if !associateByEmail then (.error (.userAlreadyExists none), st)
      else committed user st (addOauthAccount user d newId st)
    | none =>
      let created : Store := { st with users := newUser :: st.users }
      committed newUser created (addOauthAccount newUser d newId created)

inductive Flow where
  | signIn (d : OAuthAccountDict) (associateByEmail : Bool) (byEmail : Option UserId) (newUser : UserId) (newId : Uuid)
  | associate (user : UserId) (d : OAuthAccountDict) (newId : Uuid)
  | remove (accountRow : Uuid)
  | deleteUser (user : UserId)

def Flow.apply (st : Store) : Flow → Store
  | .signIn d associateByEmail byEmail newUser newId => (oauthCallback d associateByEmail byEmail newUser newId st).2
  | .associate user d newId => (oauthAssociateCallback user d newId st).2
  | .remove accountRow => { st with accounts := st.accounts.delete accountRow }
  | .deleteUser user =>
    ⟨st.users.filter fun u => decide (u ≠ user), st.accounts.deleteWhere fun a => decide (a.userId = user)⟩

def DistinctIds (t : Table OAuthAccount.id) : Prop := (t.rows.map OAuthAccount.accountId).Nodup

theorem DistinctIds.length_le {t : Table OAuthAccount.id} (h : DistinctIds t) (accountId : String) :
    (withAccountId t accountId).length ≤ 1 := by
  have hcount : (t.rows.map OAuthAccount.accountId).count accountId ≤ 1 := List.nodup_iff_count_le_one.1 h accountId
  have hfilter : withAccountId t accountId = t.rows.filter (fun a => a.accountId == accountId) :=
    List.filter_congr fun a _ => rfl
  rw [List.count, List.countP_map, List.countP_eq_length_filter] at hcount
  rw [hfilter]
  exact hcount

theorem DistinctIds.sublist {t t' : Table OAuthAccount.id} (h : DistinctIds t) (hsub : t'.rows.Sublist t.rows) :
    DistinctIds t' := List.Nodup.sublist (hsub.map _) h

theorem DistinctIds.concat {t t' : Table OAuthAccount.id} {kept : List OAuthAccount} {new : OAuthAccount}
    (h : DistinctIds t) (hrows : t'.rows = kept ++ [new]) (hsub : kept.Sublist t.rows)
    (hnew : ∀ a ∈ kept, a.accountId ≠ new.accountId) : DistinctIds t' := by
  unfold DistinctIds
  rw [hrows, List.map_append, List.nodup_append]
  refine ⟨List.Nodup.sublist (hsub.map _) h, by simp, ?_⟩
  intro x hx y hy
  obtain ⟨a, ha, rfl⟩ := List.mem_map.1 hx
  obtain rfl : y = new.accountId := by simpa using hy
  exact hnew a ha

theorem new_of_addOauthAccount {user : UserId} {d : OAuthAccountDict} {newId : Uuid} {st st' : Store}
    (hadd : addOauthAccount user d newId st = .ok st') : user ∈ st.users ∧ st.accounts.find newId = none := by
  by_cases huser : user ∈ st.users
  · refine ⟨huser, ?_⟩
    by_contra hnew
    have htaken : ∀ existing, replaceAccount st.accounts (d.create newId user) existing =
        .error (.raised .integrityError) := fun _ => dif_neg hnew
    unfold addOauthAccount at hadd
    rw [if_neg (not_not_intro huser)] at hadd
    split at hadd
    · cases hadd
    · rw [htaken] at hadd
      split at hadd <;> cases hadd
  · rw [addOauthAccount_unknown huser] at hadd
    cases hadd

theorem rows_of_addOauthAccount {user : UserId} {d : OAuthAccountDict} {newId : Uuid} {st st' : Store}
    (hadd : addOauthAccount user d newId st = .ok st') :
    ∃ kept, st'.accounts.rows = kept ++ [d.create newId user] ∧ kept.Sublist st.accounts.rows ∧
      ∀ a ∈ kept, a.accountId ≠ d.accountId := by
  obtain ⟨huser, hnew⟩ := new_of_addOauthAccount hadd
  match hl : withAccountId st.accounts d.accountId with
  | [] =>
    rw [addOauthAccount_none huser hnew hl] at hadd
    cases hadd
    exact ⟨st.accounts.rows, rfl, List.Sublist.refl _, fun a ha => accountId_ne_of_none hl ha⟩
  | [old] =>
    by_cases hold : old.userId = user
    · rw [addOauthAccount_own huser hnew hl hold] at hadd
      cases hadd
      have hmem := old_of_one hl
      have hne : newId ≠ old.id := ((st.accounts.find_eq_none_iff newId).1 hnew old hmem.1).symm
      refine ⟨st.accounts.rows.filter (fun r => decide (r.id ≠ old.id)), ?_, List.filter_sublist, fun a ha hid => ?_⟩
      · simp [Table.delete, Table.insert, OAuthAccountDict.create, List.filter_append, hne]
      · obtain ⟨ha, hother⟩ := List.mem_filter.1 ha
        rw [eq_old_of_one hl ha hid] at hother
        simp at hother
    · rw [addOauthAccount_another huser hl hold] at hadd
      cases hadd
  | _ :: _ :: _ =>
    rw [addOauthAccount_many huser (by simp [hl])] at hadd
    cases hadd

theorem DistinctIds.committed {user : UserId} {d : OAuthAccountDict} {newId : Uuid} {st : Store}
    (h : DistinctIds st.accounts) : DistinctIds (committed user st (addOauthAccount user d newId st)).2.accounts := by
  cases hadd : addOauthAccount user d newId st with
  | error e => exact h
  | ok st' =>
    obtain ⟨kept, hrows, hsub, hother⟩ := rows_of_addOauthAccount hadd
    exact h.concat hrows hsub hother

theorem DistinctIds.updateOauthAccounts {user : UserId} {d : OAuthAccountDict} {st : Store}
    (h : DistinctIds st.accounts) : DistinctIds (updateOauthAccounts user d st).accounts := by
  have hids : (OAuthAccounts.updateOauthAccounts user d st).accounts.rows.map OAuthAccount.accountId =
      st.accounts.rows.map OAuthAccount.accountId := by
    apply Table.map_key_map
    intro a
    split
    · rename_i hown
      exact (of_decide_eq_true hown).2.1.symm
    · rfl
  unfold DistinctIds
  rw [hids]
  exact h

theorem DistinctIds.apply {st : Store} (h : DistinctIds st.accounts) (flow : Flow) :
    DistinctIds (flow.apply st).accounts := by
  cases flow with
  | signIn d associateByEmail byEmail newUser newId =>
    unfold Flow.apply oauthCallback
    dsimp only
    split
    · exact h
    · exact h.updateOauthAccounts
    · split
      · split
        · exact h
        · exact h.committed
      · exact DistinctIds.committed h
  | associate user d newId => exact h.committed
  | remove accountRow => exact h.sublist List.filter_sublist
  | deleteUser user => exact h.sublist List.filter_sublist

theorem distinctIds_run {st : Store} (h : DistinctIds st.accounts) : ∀ flows : List Flow,
    DistinctIds (flows.foldl Flow.apply st).accounts
  | [] => h
  | flow :: flows => distinctIds_run (h.apply flow) flows

/-- **Whatever the flows made of an empty store, two accounts never have one account id**: there a link goes wrong
exactly when the account id is in use with another provider. -/
theorem links_iff_of_run {flows : List Flow} {user : UserId} {d : OAuthAccountDict} {newId : Uuid} {st : Store}
    (hrun : st = flows.foldl Flow.apply default) (huser : user ∈ st.users) (hnew : st.accounts.find newId = none) :
    LinksIdentity user d newId st (addOauthAccount user d newId st) ↔
      ∀ a ∈ st.accounts.rows, a.accountId = d.accountId → a.oauthName = d.oauthName := by
  have hempty : DistinctIds (default : Store).accounts := List.nodup_nil
  have hdistinct : DistinctIds st.accounts := hrun ▸ distinctIds_run hempty flows
  have hunshared : Unshared d st.accounts ↔
      ∀ a ∈ st.accounts.rows, a.accountId = d.accountId → a.oauthName = d.oauthName := by
    unfold Unshared
    rw [and_iff_right (hdistinct.length_le d.accountId)]
    simp [mem_withAccountId]
  rw [← hunshared]
  exact ⟨unshared_of_linksIdentity huser hnew, linksIdentity_of_unshared huser hnew⟩

end OAuthAccounts

end Fix
