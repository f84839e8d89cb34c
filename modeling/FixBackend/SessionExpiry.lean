import FixBackend.ApiTokens
import FixBackend.Billing
import FixBackend.Machine
/-!
# SessionExpiry — whether an invalidated session stays invalid

A user keeps the time before which no session token is accepted.  `jwt_expire` writes it, with the time of the client if
there is one, and asks nothing of the time that is stored.
-/
namespace Fix

open Calendar Machine

/-! ## What is written about a user -/

structure LastSeen where
  lastLogin : Option DateTime
  lastActive : Option DateTime

/-- The users with the times of their last login and activity. -/
structure SessionStore where
  access : AccessStore
  lastSeen : UserId → LastSeen

/-- `UserRepository.update_partial`; an argument that is not given leaves its column. -/
def updatePartial (uid : UserId) (lastLogin lastActive authMinTime : Option DateTime) (st : SessionStore) :
    Except AccessErr SessionStore :=
  match st.access.users.find uid with
  | none => .error (.raised (.valueError s!"User {uid} not found"))
  | some row => .ok
    { access := { st.access with
        users := st.access.users.replace { row with authMinTime := authMinTime.or row.authMinTime } }
      lastSeen := Function.update st.lastSeen uid
        ⟨lastLogin.or (st.lastSeen uid).lastLogin, lastActive.or (st.lastSeen uid).lastActive⟩ }

/-! ## The requests -/

inductive SessionRequest where
  | jwtExpire (token : SessionToken) (expireOlderThan : Option DateTime) (now : DateTime)
  | signalActive (token : SessionToken) (now : DateTime)
  /-- A login has succeeded: `on_after_login`. -/
  | login (userId : UserId) (now : DateTime)
  | updatePartial (userId : UserId) (lastLogin lastActive : Option DateTime)

def jwtExpire (token : SessionToken) (expireOlderThan : Option DateTime) (now : DateTime) (st : SessionStore) :
    Except AccessErr SessionStore :=
  match currentUser st.access now token with
  | .error e => .error (.http e)
  | .ok user => updatePartial user.id none none (some (expireOlderThan.getD now)) st

def signalActive (token : SessionToken) (now : DateTime) (st : SessionStore) : Except AccessErr SessionStore :=
  match currentUser st.access now token with
  | .error e => .error (.http e)
  | .ok user => updatePartial user.id none (some now) none st

def SessionRequest.perform : SessionRequest → SessionStore → Except AccessErr SessionStore
  | .jwtExpire token expireOlderThan now => Fix.jwtExpire token expireOlderThan now
  | .signalActive token now => Fix.signalActive token now
  | .login userId now => Fix.updatePartial userId (some now) (some now) none
  | .updatePartial userId lastLogin lastActive => Fix.updatePartial userId lastLogin lastActive none

/-- A request that is refused changes nothing. -/
def sessionStep (st : SessionStore) (r : SessionRequest) : Option SessionStore :=
  match r.perform st with
  | .ok st' => some st'
  | .error _ => some st

/-! ## Tokens that are too old -/

def AccessStore.authMinTime (st : AccessStore) (userId : UserId) : Option DateTime :=
  (st.getUser userId).bind (·.authMinTime)

def SessionToken.IssuedBefore (t : SessionToken) (time : DateTime) : Prop := t.issuedAt * 1000 < time.toMicros

/-- The token was issued before the time of its user. -/
def Invalidated (st : AccessStore) (t : SessionToken) : Prop :=
  ∃ amt, st.authMinTime t.sub = some amt ∧ t.IssuedBefore amt

/-- **An invalidated session stays invalid** along the requests: at no later time is its token read again. -/
def StaysInvalid (st : SessionStore) (requests : List SessionRequest) : Prop :=
  ∀ pre mid post s s', requests = pre ++ mid ++ post → run sessionStep st pre = some s →
    run sessionStep s mid = some s' →
    ∀ t now, Invalidated s.access t → readToken s'.access now t = none

/-- An expiry does not take back the one before: every token that was issued too early stays too early. -/
def KeepsExpiry (st : SessionStore) : SessionRequest → Prop
  | .jwtExpire token expireOlderThan now => ∀ user amt, currentUser st.access now token = .ok user →
    user.authMinTime = some amt → ∀ t : SessionToken, t.IssuedBefore amt → t.IssuedBefore (expireOlderThan.getD now)
  | _ => True

/-- **An expiry that is not earlier** than the one before does not take it back. -/
theorem keepsExpiry_of_le {st : SessionStore} {token : SessionToken} {expireOlderThan : Option DateTime}
    {now : DateTime}
    (h : ∀ user amt, currentUser st.access now token = .ok user → user.authMinTime = some amt →
      amt ≤ expireOlderThan.getD now) : KeepsExpiry st (.jwtExpire token expireOlderThan now) :=
  fun user amt huser hamt _ ht => Nat.lt_of_lt_of_le ht (h user amt huser hamt)

theorem readToken_invalidated {st : AccessStore} {t : SessionToken} (h : Invalidated st t) (now : DateTime) :
    readToken st now t = none := by
  obtain ⟨amt, hamt, hlt⟩ := h
  obtain ⟨user, huser, hmin⟩ := Option.bind_eq_some_iff.1 hamt
  have hold : decide (t.issuedAt * 1000 < amt.toMicros) = true := decide_eq_true hlt
  unfold readToken decodeToken
  by_cases hexp : t.exp.any (fun exp => decide (exp * secondMicros ≤ now.toMicros)) = true
  · rw [if_pos hexp]
  · rw [if_neg hexp]
    dsimp only
    rw [huser]
    dsimp only
    rw [hmin, Option.any_some, if_pos hold]

theorem invalidated_of_readToken {st : AccessStore} {t : SessionToken} {user : User} {now : DateTime}
    (huser : st.getUser t.sub = some user) (hexp : t.exp = none) (h : readToken st now t = none) :
      Invalidated st t := by
  unfold readToken decodeToken at h
  rw [hexp] at h
  simp only [Option.any_none, Bool.false_eq_true, if_false, huser] at h
  cases hmin : user.authMinTime with
  | none =>
    rw [hmin] at h
    simp at h
  | some amt =>
    rw [hmin] at h
    refine ⟨amt, by rw [AccessStore.authMinTime, huser, Option.bind_some, hmin], ?_⟩
    by_contra hnot
    have hnew : ¬decide (t.issuedAt * 1000 < amt.toMicros) = true := by
      rw [decide_eq_true_eq]
      exact hnot
    rw [Option.any_some, if_neg hnew] at h
    cases h

/-! ## One request -/

theorem authMinTime_eq (st : AccessStore) (userId : UserId) :
    st.authMinTime userId = (st.users.find userId).bind (·.authMinTime) := by
  unfold AccessStore.authMinTime AccessStore.getUser
  cases st.users.find userId <;> rfl

theorem updatePartial_authMinTime {uid : UserId} {lastLogin lastActive authMinTime : Option DateTime}
    {st st' : SessionStore} (h : updatePartial uid lastLogin lastActive authMinTime st = .ok st') (userId : UserId) :
    st'.access.authMinTime userId =
      if userId = uid then authMinTime.or (st.access.authMinTime uid) else st.access.authMinTime userId := by
  unfold updatePartial at h
  cases hfind : st.access.users.find uid with
  | none =>
    rw [hfind] at h
    cases h
  | some row =>
    rw [hfind] at h
    cases h
    have hkey : row.id = uid := Table.key_of_find hfind
    let written : UserEntity := { row with authMinTime := authMinTime.or row.authMinTime }
    rw [authMinTime_eq, authMinTime_eq, authMinTime_eq]
    dsimp only
    by_cases hid : userId = uid
    · subst hid
      have hwritten : (st.access.users.replace written).find userId = some written := by
        subst hkey
        exact Table.find_replace_self (r := written) hfind
      rw [if_pos rfl, hwritten, hfind, Option.bind_some, Option.bind_some]
    · rw [if_neg hid]
      have hother : userId ≠ written.id := by
        intro hsame
        exact hid (hsame.trans hkey)
      have hsame : (st.access.users.replace written).find userId = st.access.users.find userId :=
        Table.find_replace_of_ne _ hother
      rw [hsame]

/-- Without a time of its own, `update_partial` leaves every time. -/
theorem updatePartial_keeps {uid : UserId} {lastLogin lastActive : Option DateTime} {st st' : SessionStore}
    (h : updatePartial uid lastLogin lastActive none st = .ok st') (userId : UserId) :
    st'.access.authMinTime userId = st.access.authMinTime userId := by
  rw [updatePartial_authMinTime h]
  by_cases hid : userId = uid
  · subst hid
    rw [if_pos rfl, Option.none_or]
  · rw [if_neg hid]

theorem currentUser_authMinTime {st : AccessStore} {now : DateTime} {token : SessionToken} {user : User}
    (h : currentUser st now token = .ok user) : st.authMinTime user.id = user.authMinTime := by
  have huser := currentUser_ok h
  have hid := userId_of_getUser huser
  rw [← hid] at huser
  rw [AccessStore.authMinTime, huser, Option.bind_some]

/-- **A request keeps a token invalidated**, unless it takes the expiry back. -/
theorem invalidated_step {st st' : SessionStore} {r : SessionRequest} {t : SessionToken} (hr : KeepsExpiry st r)
    (ht : Invalidated st.access t) (hstep : sessionStep st r = some st') : Invalidated st'.access t := by
  unfold sessionStep at hstep
  cases hperform : r.perform st with
  | error e =>
    rw [hperform] at hstep
    cases hstep
    exact ht
  | ok written =>
    rw [hperform] at hstep
    cases hstep
    obtain ⟨amt, hamt, hbefore⟩ := ht
    cases r with
    | jwtExpire token expireOlderThan now =>
      dsimp only [SessionRequest.perform] at hperform
      unfold jwtExpire at hperform
      cases huser : currentUser st.access now token with
      | error e =>
        rw [huser] at hperform
        cases hperform
      | ok user =>
        rw [huser] at hperform
        have hwritten := updatePartial_authMinTime hperform t.sub
        by_cases hid : t.sub = user.id
        · rw [if_pos hid, Option.some_or] at hwritten
          have hmin : user.authMinTime = some amt := by rw [← currentUser_authMinTime huser, ← hid, hamt]
          exact ⟨_, hwritten, hr user amt huser hmin t hbefore⟩
        · rw [if_neg hid] at hwritten
          exact ⟨amt, hwritten.trans hamt, hbefore⟩
    | signalActive token now =>
      dsimp only [SessionRequest.perform] at hperform
      unfold signalActive at hperform
      cases huser : currentUser st.access now token with
      | error e =>
        rw [huser] at hperform
        cases hperform
      | ok user =>
        rw [huser] at hperform
        exact ⟨amt, (updatePartial_keeps hperform _).trans hamt, hbefore⟩
    | login userId now => exact ⟨amt, (updatePartial_keeps hperform _).trans hamt, hbefore⟩
    | updatePartial userId lastLogin lastActive =>
      exact ⟨amt, (updatePartial_keeps hperform _).trans hamt, hbefore⟩

theorem keepsExpiry_of_step {st : SessionStore} {r : SessionRequest}
    (h : ∀ st', sessionStep st r = some st' → ∀ t now, Invalidated st.access t → readToken st'.access now t = none) :
    KeepsExpiry st r := by
  cases r with
  | signalActive token now => trivial
  | login userId now => trivial
  | updatePartial userId lastLogin lastActive => trivial
  | jwtExpire token expireOlderThan now =>
    intro user amt huser hmin t hbefore
    have hfound := currentUser_ok huser
    have hid := userId_of_getUser hfound
    obtain ⟨row, hrow, -⟩ := Option.map_eq_some_iff.1 hfound
    rw [← hid] at hrow
    -- a token of the user that was issued at the same time and does not expire
    let old : SessionToken := { t with sub := user.id, exp := none }
    obtain ⟨st', hperform⟩ : ∃ st', jwtExpire token expireOlderThan now st = .ok st' := by
      unfold jwtExpire updatePartial
      rw [huser]
      dsimp only
      rw [hrow]
      exact ⟨_, rfl⟩
    have hstep : sessionStep st (.jwtExpire token expireOlderThan now) = some st' := by
      unfold sessionStep
      dsimp only [SessionRequest.perform]
      rw [hperform]
    have hold : Invalidated st.access old := ⟨amt, (currentUser_authMinTime huser).trans hmin, hbefore⟩
    have hread := h st' hstep old now hold
    unfold jwtExpire at hperform
    rw [huser] at hperform
    have hwritten := updatePartial_authMinTime hperform user.id
    rw [if_pos rfl, Option.some_or] at hwritten
    obtain ⟨user', huser', -⟩ := Option.bind_eq_some_iff.1 hwritten
    obtain ⟨ts, hts, hlt⟩ := invalidated_of_readToken (t := old) huser' rfl hread
    rw [hwritten] at hts
    cases hts
    exact hlt

/-! ## Every sequence of requests -/

/-- **When invalidated sessions stay invalid**: along the requests none of which takes an expiry back. -/
theorem staysInvalid_iff (st : SessionStore) (requests : List SessionRequest) :
    StaysInvalid st requests ↔ Along sessionStep KeepsExpiry st requests := by
  constructor
  · induction requests generalizing st with
    | nil => exact fun _ => trivial
    | cons r requests ih =>
      intro h
      refine ⟨keepsExpiry_of_step fun st' hstep => ?_, fun st' hstep => ih st' ?_⟩
      · exact h [] [r] requests st st' rfl rfl (run_one hstep)
      · intro pre mid post s s' heq hpre hmid
        exact h (r :: pre) mid post s s' (by rw [heq]; rfl) (run_cons.2 ⟨st', hstep, hpre⟩) hmid
  · intro halong pre mid post s s' heq hpre hmid t now ht
    subst heq
    rw [List.append_assoc] at halong
    obtain ⟨-, hrest⟩ := along_append halong hpre
    obtain ⟨hlater, -⟩ := along_append hrest hmid
    exact readToken_invalidated (run_along (fun _ _ _ hs hr hstep => invalidated_step hr hs hstep) ht hlater hmid) now

/-! ## An expiry that is taken back -/

def januaryUser : SessionStore := ⟨acmeStore, fun _ => ⟨none, none⟩⟩

def januarySession : SessionToken := createToken none january 11 "login" []

/-- The sessions are expired in February; a new session of March expires those before 2024. -/
def expiredTwice : List SessionRequest :=
  [.jwtExpire januarySession none feb, .login 11 mar,
    .jwtExpire (createToken none mar 11 "login" []) (some ((⟨2023, 12, 1, by decide⟩ : Date).atHour 9)) mar]

/-- The session of January is accepted again. -/
theorem expiredTwice_not_staysInvalid : ¬StaysInvalid januaryUser expiredTwice := by
  intro h
  have hran : ∃ s s', run sessionStep januaryUser (expiredTwice.take 1) = some s ∧
      run sessionStep s (expiredTwice.drop 1) = some s' ∧ s.access.authMinTime 11 = some feb ∧
      (readToken s'.access mar januarySession).isSome = true :=
    ⟨_, _, rfl, rfl, by decide +kernel, by decide +kernel⟩
  obtain ⟨s, s', hpre, hmid, hamt, hread⟩ := hran
  have hnone := h (expiredTwice.take 1) (expiredTwice.drop 1) [] s s' rfl hpre hmid januarySession mar
    ⟨feb, hamt, by unfold SessionToken.IssuedBefore; decide⟩
  rw [hnone] at hread
  cases hread

end Fix
