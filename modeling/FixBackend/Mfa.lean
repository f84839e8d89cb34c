import FixBackend.Access
import FixBackend.Machine
import FixBackend.Subscriptions
/-!
# Mfa — the second factor of a login

The second factor is a secret, a flag and recovery codes.  A request loads the user and acts on what it loaded; other
requests may be served in between.  `enable_mfa` asks for a one time password when the user was loaded with a secret,
and for nothing when there was none.
-/
namespace Fix

open Calendar Effects Machine

/-! ## The user's row and recovery codes -/

/-- A secret of `pyotp.random_base32`, which is not empty. -/
abbrev OtpSecret := { s : String // s ≠ "" }

structure MfaUser where
  otpSecret : Option OtpSecret
  isMfaActive : Bool
deriving DecidableEq

/-- A user and the hashes of the user's recovery codes, which are the key of their table. -/
structure MfaStore where
  user : MfaUser
  recoveryCodes : Table (id : String → String)

abbrev Mfa := Call AccessErr MfaStore

/-- What the libraries check: `pyotp` a one time password at a time, within the valid window, and the password helper a
recovery code against a hash.  A one time password has digits. -/
structure OtpChecks where
  verify : OtpSecret → String → DateTime → Bool
  verify_empty : ∀ secret now, verify secret "" now = false
  codeMatches : String → String → Bool

namespace UserRepository

def recreateOtpSecret (otpSecret : OtpSecret) (isMfaActive : Bool) (hashes : List String) : Mfa PUnit :=
  if h : hashes.Nodup then
    set (⟨⟨some otpSecret, isMfaActive⟩, ⟨hashes, by rwa [List.map_id]⟩⟩ : MfaStore)
  else throw (.raised .integrityError)

def deleteRecoveryCode (c : OtpChecks) (code : String) : Mfa Bool := do
  let st ← get
  match st.recoveryCodes.rows.find? (c.codeMatches code) with
  | none => return false
  | some codeHash =>
    set { st with recoveryCodes := st.recoveryCodes.delete codeHash }
    return true

/-- `UserRepository.update` of the columns of the second factor. -/
def update (f : MfaUser → MfaUser) : Mfa PUnit := modify fun st => { st with user := f st.user }

end UserRepository

structure OtpConfig where
  secret : OtpSecret
  recoveryCodes : List String

namespace UserManager

/-- `UserManager.recreate_mfa`, with the secret and the recovery codes that are drawn, and their hashes. -/
def recreateMfa (user : MfaUser) (userSecret : OtpSecret) (recoveryCodes hashes : List String) : Mfa OtpConfig :=
  if user.isMfaActive then throw (.raised (.assertionError "User already has MFA enabled."))
  else do
    UserRepository.recreateOtpSecret userSecret false hashes
    return ⟨userSecret, recoveryCodes⟩

variable (c : OtpChecks)

def enableMfa (user : MfaUser) (otp : String) (now : DateTime) : Mfa Bool :=
  if user.isMfaActive then throw (.raised (.assertionError "User already has MFA enabled."))
  else if user.otpSecret.any fun secret => !c.verify secret otp now then return false
  else do
    UserRepository.update fun u => { u with isMfaActive := true }
    return true

def checkOtp (user : MfaUser) (otp recoveryCode : Option String) (now : DateTime) : Mfa Bool :=
  if !user.isMfaActive then return true
  else
    match user.otpSecret, truthy otp with
    | some secret, some otpDefined => return c.verify secret otpDefined now
    | _, _ =>
      match truthy recoveryCode with
      | some code => UserRepository.deleteRecoveryCode c code
      | none => return false

/-- The last step of `UserManager.disable_mfa`. -/
def clearMfa : Mfa PUnit := UserRepository.update fun _ => ⟨none, false⟩

def disableMfa (user : MfaUser) (otp recoveryCode : Option String) (now : DateTime) : Mfa Bool :=
  if !user.isMfaActive then return true
  else do
    if ← checkOtp c user otp recoveryCode now then
      clearMfa
      return true
    else return false

end UserManager

namespace AuthRouter

/-- The answer to a one time password that is missing or wrong. -/
def otpRequired {α : Type} : Mfa α := throw (.http ⟨428, .text "OTP_NOT_PROVIDED_OR_INVALID"⟩)

def addMfa (user : MfaUser) (userSecret : OtpSecret) (recoveryCodes hashes : List String) : Mfa OtpConfig :=
  if user.isMfaActive then throw (.http ⟨400, .text "MFA already enabled"⟩)
  else UserManager.recreateMfa user userSecret recoveryCodes hashes

variable (c : OtpChecks)

def enableMfa (user : MfaUser) (otp : String) (now : DateTime) : Mfa PUnit :=
  if user.isMfaActive then throw (.http ⟨400, .text "MFA already enabled"⟩)
  else do
    if ← UserManager.enableMfa c user otp now then return ⟨⟩ else otpRequired

def disableMfa (user : MfaUser) (otp recoveryCode : Option String) (now : DateTime) : Mfa PUnit :=
  if user.isMfaActive then do
    if ← UserManager.disableMfa c user otp recoveryCode now then return ⟨⟩ else otpRequired
  else return ⟨⟩

/-- `login` of a user with the right password. -/
def login (user : MfaUser) (otp recoveryCode : Option String) (now : DateTime) : Mfa PUnit :=
  if user.isMfaActive then do
    if ← UserManager.checkOtp c user otp recoveryCode now then return ⟨⟩ else otpRequired
  else return ⟨⟩

end AuthRouter

/-! ## Requests that are served side by side -/

inductive MfaRequest where
  | add (userSecret : OtpSecret) (recoveryCodes hashes : List String)
  | enable (otp : String)
  | disable (otp recoveryCode : Option String)
  | login (otp recoveryCode : Option String)

/-- A request that has loaded the user, or one to disable that has been checked. -/
inductive MfaPending where
  | loaded (request : MfaRequest) (user : MfaUser)
  | checked

/-- The one time password of an enable request, and its time. -/
structure Activation where
  otp : String
  time : DateTime

/-- The store, the requests that are being served and the request that activated the second factor. -/
structure MfaRun where
  store : MfaStore
  pending : List MfaPending
  activation : Option Activation

inductive MfaMove where
  | load (request : MfaRequest)
  /-- The request of this index goes on. -/
  | act (i : Nat) (now : DateTime)

namespace MfaRun

def finish (r : MfaRun) (i : Nat) (store : MfaStore) : MfaRun :=
  { r with store := store, pending := r.pending.eraseIdx i }

/-- A request to enable is over; when it wrote the flag, it is the one that activated the second factor. -/
def enabled (r : MfaRun) (i : Nat) (otp : String) (now : DateTime) (store : MfaStore) : MfaRun :=
  { r.finish i store with
    activation := if !r.store.user.isMfaActive && store.user.isMfaActive then some ⟨otp, now⟩ else r.activation }

end MfaRun

def mfaStep (c : OtpChecks) (r : MfaRun) : MfaMove → Option MfaRun
  | .load request => some { r with pending := r.pending ++ [.loaded request r.store.user] }
  | .act i now => r.pending[i]?.map fun
    | .loaded (.add userSecret recoveryCodes hashes) user =>
      r.finish i (exec (AuthRouter.addMfa user userSecret recoveryCodes hashes) r.store).2
    | .loaded (.enable otp) user => r.enabled i otp now (exec (AuthRouter.enableMfa c user otp now) r.store).2
    | .loaded (.login otp recoveryCode) user =>
      r.finish i (exec (AuthRouter.login c user otp recoveryCode now) r.store).2
    | .loaded (.disable otp recoveryCode) user =>
      if user.isMfaActive then
        match exec (UserManager.checkOtp c user otp recoveryCode now) r.store with
        | (.ok true, store) => { r with store := store, pending := r.pending.set i .checked }
        | (_, store) => r.finish i store
      else r.finish i r.store
    | .checked => r.finish i (exec UserManager.clearMfa r.store).2

/-! ## What the calls write -/

variable {c : OtpChecks}

theorem deleteRecoveryCode_user (code : String) (st : MfaStore) :
    (exec (UserRepository.deleteRecoveryCode c code) st).2.user = st.user := by
  unfold UserRepository.deleteRecoveryCode
  rw [exec_bind, exec_get]
  dsimp only
  cases st.recoveryCodes.rows.find? (c.codeMatches code) <;> rfl

theorem checkOtp_user (user : MfaUser) (otp recoveryCode : Option String) (now : DateTime) (st : MfaStore) :
    (exec (UserManager.checkOtp c user otp recoveryCode now) st).2.user = st.user := by
  unfold UserManager.checkOtp
  split
  · rfl
  · split
    · rfl
    · split
      · exact deleteRecoveryCode_user _ st
      · rfl

theorem login_user (user : MfaUser) (otp recoveryCode : Option String) (now : DateTime) (st : MfaStore) :
    (exec (AuthRouter.login c user otp recoveryCode now) st).2.user = st.user := by
  unfold AuthRouter.login
  by_cases hactive : user.isMfaActive = true
  · rw [if_pos hactive, exec_bind]
    have hkept := checkOtp_user (c := c) user otp recoveryCode now st
    rcases hcheck : exec (UserManager.checkOtp c user otp recoveryCode now) st with ⟨e | _ | _, st'⟩ <;>
      rw [hcheck] at hkept <;> exact hkept
  · rw [if_neg hactive]
    rfl

theorem addMfa_user (user : MfaUser) (userSecret : OtpSecret) (recoveryCodes hashes : List String) (st : MfaStore) :
    (exec (AuthRouter.addMfa user userSecret recoveryCodes hashes) st).2.user = st.user ∨
      (exec (AuthRouter.addMfa user userSecret recoveryCodes hashes) st).2.user.isMfaActive = false := by
  unfold AuthRouter.addMfa UserManager.recreateMfa UserRepository.recreateOtpSecret
  by_cases hactive : user.isMfaActive = true
  · rw [if_pos hactive]
    exact Or.inl rfl
  · rw [if_neg hactive, if_neg hactive]
    by_cases hnodup : hashes.Nodup
    · rw [dif_pos hnodup]
      exact Or.inr rfl
    · rw [dif_neg hnodup]
      exact Or.inl rfl

/-- **What a request to enable writes**: nothing, or the flag, and then the secret it loaded, if any, verified. -/
theorem enableMfa_store (user : MfaUser) (otp : String) (now : DateTime) (st : MfaStore) :
    (exec (AuthRouter.enableMfa c user otp now) st).2 = st ∨
    user.isMfaActive = false ∧ (∀ secret, user.otpSecret = some secret → c.verify secret otp now = true) ∧
      (exec (AuthRouter.enableMfa c user otp now) st).2 = { st with user := { st.user with isMfaActive := true } } := by
  unfold AuthRouter.enableMfa UserManager.enableMfa
  by_cases hactive : user.isMfaActive = true
  · rw [if_pos hactive]
    exact Or.inl rfl
  · rw [if_neg hactive, if_neg hactive]
    by_cases hwrong : (user.otpSecret.any fun secret => !c.verify secret otp now) = true
    · rw [if_pos hwrong]
      exact Or.inl rfl
    · rw [if_neg hwrong]
      refine Or.inr ⟨by simpa using hactive, fun secret hsecret => ?_, rfl⟩
      rw [hsecret, Option.any_some] at hwrong
      simpa using hwrong

/-! ## The second factor is sound -/

/-- The second factor was activated with a one time password for the secret that is stored. -/
def ActivatedWithOtp (c : OtpChecks) (r : MfaRun) : Prop :=
  r.store.user.isMfaActive = true → ∃ secret a, r.store.user.otpSecret = some secret ∧ r.activation = some a ∧
    c.verify secret a.otp a.time = true

/-- **The second factor is sound**: an active one was activated with a one time password for the stored secret, and with
such a password the user logs in and disables it. -/
structure MfaSound (c : OtpChecks) (r : MfaRun) : Prop where
  activated : ActivatedWithOtp c r
  login : r.store.user.isMfaActive = true → ∃ secret, r.store.user.otpSecret = some secret ∧
    ∀ otp now, c.verify secret otp now = true → ∀ recoveryCode,
      exec (AuthRouter.login c r.store.user (some otp) recoveryCode now) r.store = (.ok ⟨⟩, r.store)
  disable : r.store.user.isMfaActive = true → ∃ secret, r.store.user.otpSecret = some secret ∧
    ∀ otp now, c.verify secret otp now = true → ∀ recoveryCode,
      exec (AuthRouter.disableMfa c r.store.user (some otp) recoveryCode now) r.store =
        (.ok ⟨⟩, { r.store with user := ⟨none, false⟩ })

/-- A request to enable that is let through was loaded with the secret that is stored. -/
def EnablesStoredSecret (c : OtpChecks) (r : MfaRun) : MfaMove → Prop
  | .load _ => True
  | .act i now => ∀ otp user, r.pending[i]? = some (.loaded (.enable otp) user) → user.isMfaActive = false →
    r.store.user.isMfaActive = false → (∀ secret, user.otpSecret = some secret → c.verify secret otp now = true) →
    ∃ secret, user.otpSecret = some secret ∧ r.store.user.otpSecret = some secret

theorem checkOtp_verified {user : MfaUser} {secret : OtpSecret} {otp : String} {now : DateTime}
    (hactive : user.isMfaActive = true) (hsecret : user.otpSecret = some secret) (hotp : c.verify secret otp now = true)
    (recoveryCode : Option String) (st : MfaStore) :
    exec (UserManager.checkOtp c user (some otp) recoveryCode now) st = (.ok true, st) := by
  have hdefined : truthy (some otp) = some otp := by
    have hne : otp ≠ "" := by
      intro hempty
      subst hempty
      rw [c.verify_empty] at hotp
      cases hotp
    simp [truthy, hne]
  have hon : ¬(!true) = true := by decide
  unfold UserManager.checkOtp
  rw [hactive, hsecret, hdefined, if_neg hon]
  dsimp only
  rw [hotp]
  rfl

theorem mfaSound_of_activated {r : MfaRun} (h : ActivatedWithOtp c r) : MfaSound c r where
  activated := h
  login := by
    intro hactive
    obtain ⟨secret, -, hsecret, -⟩ := h hactive
    refine ⟨secret, hsecret, fun otp now hotp recoveryCode => ?_⟩
    unfold AuthRouter.login
    rw [if_pos hactive, exec_bind, checkOtp_verified hactive hsecret hotp]
    rfl
  disable := by
    intro hactive
    obtain ⟨secret, -, hsecret, -⟩ := h hactive
    refine ⟨secret, hsecret, fun otp now hotp recoveryCode => ?_⟩
    have hon : ¬(!r.store.user.isMfaActive) = true := by
      rw [hactive]
      decide
    unfold AuthRouter.disableMfa UserManager.disableMfa
    rw [if_pos hactive, if_neg hon, exec_bind, exec_bind, checkOtp_verified hactive hsecret hotp]
    rfl

theorem ActivatedWithOtp.keep {r r' : MfaRun} (h : ActivatedWithOtp c r) (hactivation : r'.activation = r.activation)
    (huser : r'.store.user = r.store.user ∨ r'.store.user.isMfaActive = false) : ActivatedWithOtp c r' := by
  rcases huser with huser | hoff
  · unfold ActivatedWithOtp
    rw [huser, hactivation]
    exact h
  · intro hactive
    rw [hoff] at hactive
    cases hactive

/-- **One move keeps the second factor sound.** -/
theorem ActivatedWithOtp.step {r r' : MfaRun} {m : MfaMove} (h : ActivatedWithOtp c r) (hm : EnablesStoredSecret c r m)
    (hstep : mfaStep c r m = some r') : ActivatedWithOtp c r' := by
  cases m with
  | load request =>
    cases hstep
    exact h.keep rfl (Or.inl rfl)
  | act i now =>
    obtain ⟨call, hcall, hr'⟩ := Option.map_eq_some_iff.1 hstep
    cases call with
    | checked =>
      subst hr'
      exact h.keep rfl (Or.inr rfl)
    | loaded request user =>
      cases request with
      | add userSecret recoveryCodes hashes =>
        subst hr'
        exact h.keep rfl (addMfa_user user userSecret recoveryCodes hashes r.store)
      | login otp recoveryCode =>
        subst hr'
        exact h.keep rfl (Or.inl (login_user user otp recoveryCode now r.store))
      | disable otp recoveryCode =>
        have hkept := checkOtp_user (c := c) user otp recoveryCode now r.store
        dsimp only at hr'
        by_cases hactive : user.isMfaActive = true
        · rw [if_pos hactive] at hr'
          rcases hcheck : exec (UserManager.checkOtp c user otp recoveryCode now) r.store with ⟨e | _ | _, store⟩ <;>
            rw [hcheck] at hr' hkept <;> subst hr' <;> exact h.keep rfl (Or.inl hkept)
        · rw [if_neg hactive] at hr'
          subst hr'
          exact h.keep rfl (Or.inl rfl)
      | enable otp =>
        obtain rfl : r.enabled i otp now (exec (AuthRouter.enableMfa c user otp now) r.store).2 = r' := hr'
        rcases enableMfa_store (c := c) user otp now r.store with hsame | ⟨hoff, hverified, hwritten⟩
        · have hkept : (r.enabled i otp now (exec (AuthRouter.enableMfa c user otp now) r.store).2).activation =
              r.activation := by
            unfold MfaRun.enabled
            rw [hsame]
            cases r.store.user.isMfaActive <;> rfl
          refine h.keep hkept (Or.inl ?_)
          unfold MfaRun.enabled MfaRun.finish
          rw [hsame]
        · unfold ActivatedWithOtp MfaRun.enabled MfaRun.finish
          dsimp only
          rw [hwritten]
          dsimp only
          intro _
          by_cases hactive : r.store.user.isMfaActive = true
          · -- the flag was on, and the request that turned it on is not this one
            rw [hactive]
            exact h hactive
          · rw [Bool.not_eq_true] at hactive
            obtain ⟨secret, hloaded, hstored⟩ := hm otp user hcall hoff hactive hverified
            rw [hactive]
            exact ⟨secret, _, hstored, rfl, hverified secret hloaded⟩

def registered : MfaRun := ⟨⟨⟨none, false⟩, ⟨[], List.nodup_nil⟩⟩, [], none⟩

/-- **The second factor is sound in every state that is reached**, when no request to enable that is let through was
loaded without a secret or with another one than is stored. -/
theorem mfaSound_run {moves : List MfaMove} {r : MfaRun}
    (hmoves : Along (mfaStep c) (EnablesStoredSecret c) registered moves)
    (hrun : run (mfaStep c) registered moves = some r) : MfaSound c r :=
  mfaSound_of_activated
    (run_along (fun _ _ _ h hm hstep => h.step hm hstep) (fun hactive => (by cases hactive)) hmoves hrun)

/-! ## With and without a secret -/

def drawnSecret : OtpSecret := ⟨"GEZDGNBVGY3TQOJQGEZDGNBVGY3TQOJQ", by decide⟩

def periodStarts : DateTime := ⟨⟨2009, 2, 13, by decide⟩, 84690000000, by decide⟩

def periodChecks : OtpChecks where
  verify secret otp now := decide (secret = drawnSecret ∧ otp = "005924" ∧ now = periodStarts)
  verify_empty _ _ := decide_eq_false fun h => absurd h.2.1 (by decide)
  codeMatches _ _ := false

/-- A secret is added, and activated with its one time password. -/
def addedAndEnabled : List MfaMove :=
  [.load (.add drawnSecret [] []), .act 0 periodStarts, .load (.enable "005924"), .act 0 periodStarts]

theorem mfaSound_run_addedAndEnabled : ∃ r, run (mfaStep periodChecks) registered addedAndEnabled = some r ∧
    r.store.user.isMfaActive = true ∧ MfaSound periodChecks r := by
  have hmoves : Along (mfaStep periodChecks) (EnablesStoredSecret periodChecks) registered addedAndEnabled := by
    refine along_cons trivial rfl (along_cons ?_ rfl (along_cons trivial rfl (along_cons ?_ rfl trivial)))
    · intro otp user hcall
      cases hcall
    · intro otp user hcall _ _ _
      cases hcall
      exact ⟨drawnSecret, rfl, rfl⟩
  exact ⟨_, rfl, by decide +kernel, mfaSound_run hmoves rfl⟩

/-- Without a secret any one time password activates the second factor. -/
theorem enabledWithoutSecret_not_sound :
    ¬∀ moves r, run (mfaStep periodChecks) registered moves = some r → MfaSound periodChecks r := by
  intro h
  have hsound := h [.load (.enable "000000"), .act 0 periodStarts] _ rfl
  have hactive : (exec (AuthRouter.enableMfa periodChecks registered.store.user "000000" periodStarts)
    registered.store).2.user = ⟨none, true⟩ := by decide +kernel
  obtain ⟨secret, -, hsecret, -⟩ := hsound.activated (congrArg MfaUser.isMfaActive hactive)
  have hnone := (congrArg MfaUser.otpSecret hactive).symm.trans hsecret
  cases hnone

end Fix
