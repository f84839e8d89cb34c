import FixBackend.AccessRoles
/-!
# ApiTokens — session tokens of API tokens and what they open

`ApiTokenService.login`, `FixJWTStrategy` and the dependency that authenticates a request.  A session token is its
payload; that nobody but the server can make one is the signature's part and not modelled.  The workspace and the
permission mask of an API token go into the payload at login, and the permission checker looks at the user's roles.
-/
namespace Fix

open Calendar IntFlag Effects

/-! ## API tokens -/

structure ApiToken where
  id : Uuid
  name : String
  userId : UserId
  workspaceId : Option WorkspaceId
  permission : Option Int
deriving DecidableEq

structure AuthStore where
  access : AccessStore
  apiTokens : Table ApiToken.id

/-- The payload of a session token; `exp` is in seconds, `issuedAt` in milliseconds. -/
structure SessionToken where
  sub : UserId
  tokenOrigin : String
  permissions : List (WorkspaceId × Int)
  issuedAt : Nat
  exp : Option Nat
deriving DecidableEq

inductive LoginErr where
  | notAllowed (msg : String)
  | valueError
  | assertionError (msg : String)
deriving DecidableEq

def hexDigit (c : Char) : Option Nat :=
  if '0' ≤ c ∧ c ≤ '9' then some (c.toNat - '0'.toNat)
  else if 'a' ≤ c ∧ c ≤ 'f' then some (c.toNat - 'a'.toNat + 10)
  else if 'A' ≤ c ∧ c ≤ 'F' then some (c.toNat - 'A'.toNat + 10)
  else none

/-- The code points of the digits 0 in all scripts of Unicode. -/
def zeros : List Nat :=
  [0x30, 0x660, 0x6f0, 0x7c0, 0x966, 0x9e6, 0xa66, 0xae6, 0xb66, 0xbe6, 0xc66, 0xce6, 0xd66, 0xde6, 0xe50, 0xed0, 0xf20,
    0x1040, 0x1090, 0x17e0, 0x1810, 0x1946, 0x19d0, 0x1a80, 0x1a90, 0x1b50, 0x1bb0, 0x1c40, 0x1c50, 0xa620, 0xa8d0,
    0xa900, 0xa9d0, 0xa9f0, 0xaa50, 0xabf0, 0xff10, 0x104a0, 0x10d30, 0x11066, 0x110f0, 0x11136, 0x111d0, 0x112f0,
    0x11450, 0x114d0, 0x11650, 0x116c0, 0x11730, 0x118e0, 0x11950, 0x11c50, 0x11d50, 0x11da0, 0x11f50, 0x16a60, 0x16ac0,
    0x16b50, 0x1d7ce, 0x1d7d8, 0x1d7e2, 0x1d7ec, 0x1d7f6, 0x1e140, 0x1e2f0, 0x1e4f0, 0x1e950, 0x1fbf0]

/-- The code points that `int` skips around a number. -/
def blanks : List Nat :=
  [9, 10, 11, 12, 13, 32, 0x85, 0xa0, 0x1680, 0x2000, 0x2001, 0x2002, 0x2003, 0x2004, 0x2005, 0x2006, 0x2007, 0x2008,
    0x2009, 0x200a, 0x2028, 0x2029, 0x202f, 0x205f, 0x3000]

def isBlank (c : Char) : Bool := decide (c.toNat ∈ blanks)

def asciiDigit (c : Char) : Char :=
  match zeros.find? fun z => decide (z ≤ c.toNat ∧ c.toNat < z + 10) with
  | some z => Nat.digitChar (c.toNat - z)
  | none => c

/-- The digits of a number to the base 16, with at most one underscore between two of them. -/
def readHexDigits (n : Nat) : List Char → Option Nat
  | [] => some n
  | '_' :: c :: cs => (hexDigit c).bind fun d => readHexDigits (16 * n + d) cs
  | c :: cs => (hexDigit c).bind fun d => readHexDigits (16 * n + d) cs

def stripBlanks (cs : List Char) : List Char := ((cs.dropWhile isBlank).reverse.dropWhile isBlank).reverse

def withoutSign : List Char → List Char
  | '+' :: cs => cs
  | cs => cs

/-- An underscore may follow the prefix. -/
def withoutPrefix : List Char → List Char
  | '0' :: 'x' :: '_' :: cs | '0' :: 'X' :: '_' :: cs | '0' :: 'x' :: cs | '0' :: 'X' :: cs => cs
  | cs => cs

/-- `int(cs, 16)`, for a text without a minus sign. -/
def intOfHex (cs : List Char) : Option Nat :=
  match withoutPrefix (withoutSign ((stripBlanks cs).map asciiDigit)) with
  | [] => none
  | c :: cs => (hexDigit c).bind fun d => readHexDigits d cs

/-- `UUID` of 32 characters: what it would take away of them (hyphens, braces, prefixes) leaves too few. -/
def uuidOfHex (cs : List Char) : Option Uuid := intOfHex cs

/-- `ApiTokenService._get_user_token`, `verified` being the check against the stored hash. -/
def getUserToken (verified : String → ApiToken → Bool) (st : AuthStore) (apiToken : String) :
    Except LoginErr ApiToken :=
  let cs := apiToken.toList
  if cs.length ≠ 68 ∨ cs.take 4 ≠ ['f', 'i', 'x', '_'] then .error (.notAllowed "Invalid token")
  else
    match uuidOfHex ((cs.drop 4).take 32) with
    | none => .error .valueError
    | some tokenId =>
      match st.apiTokens.find tokenId with
      | none => .error (.notAllowed "Invalid token")
      | some row => if verified apiToken row then .ok row else .error (.notAllowed "Invalid token")

/-! ## Session tokens -/

def secondMicros : Nat := 1000000

/-- `FixJWTStrategy.create_token` with the strategy's `lifetime_seconds`. -/
def createToken (lifetimeSeconds : Option Nat) (now : DateTime) (sub : UserId) (tokenOrigin : String)
    (permissions : List (WorkspaceId × Int)) : SessionToken where
  sub := sub
  tokenOrigin := tokenOrigin
  permissions := permissions
  issuedAt := now.toMicros / 1000
  exp := (lifetimeSeconds.filter (· ≠ 0)).map (fun s => now.toMicros / secondMicros + s)

def writeToken (lifetimeSeconds : Option Nat) (now : DateTime) (user : User) : SessionToken :=
  createToken lifetimeSeconds now user.id "login" (user.roles.map (fun r => (r.workspaceId, (r.permissions : Int))))

/-- The mask that `login` applies: `tkn.permission or all_permissions`. -/
def ApiToken.effectivePermission (t : ApiToken) : Int := (t.permission.filter (· ≠ 0)).getD allPermissions

/-- `ApiTokenService.login` after the token has been found. -/
def loginAs (lifetimeSeconds : Option Nat) (st : AccessStore) (now : DateTime) (tkn : ApiToken) :
    Except LoginErr SessionToken :=
  match st.getUser tkn.userId with
  | none => .error (.assertionError "User not found")
  | some user =>
    let roles := user.roles.filter (fun r => tkn.workspaceId.isNone || decide (tkn.workspaceId = some r.workspaceId))
    .ok (createToken lifetimeSeconds now user.id "api_token"
      (roles.map (fun r => (r.workspaceId, Int.land r.permissions tkn.effectivePermission))))

def login (verified : String → ApiToken → Bool) (lifetimeSeconds : Option Nat) (st : AuthStore) (now : DateTime)
    (apiToken : String) : Except LoginErr SessionToken :=
  match getUserToken verified st apiToken with
  | .error e => .error e
  | .ok tkn => loginAs lifetimeSeconds st.access now tkn

/-- `FixJWTStrategy.decode_token` of a token with a valid signature. -/
def decodeToken (now : DateTime) (t : SessionToken) : Option SessionToken :=
  if t.exp.any (fun exp => decide (exp * secondMicros ≤ now.toMicros)) then none else some t

def readToken (st : AccessStore) (now : DateTime) (t : SessionToken) : Option User :=
  match decodeToken now t with
  | none => none
  | some data =>
    match st.getUser data.sub with
    | none => none
    | some user =>
      if user.authMinTime.any (fun amt => decide (data.issuedAt * 1000 < amt.toMicros)) then none else some user

/-- `fastapi_users.current_user(active=True, verified=True)`. -/
def currentUser (st : AccessStore) (now : DateTime) (t : SessionToken) : Except HttpException User :=
  match readToken st now t with
  | none => .error ⟨401, .text "Unauthorized"⟩
  | some user =>
    if !user.isActive then .error ⟨401, .text "Unauthorized"⟩
    else if !user.isVerified then .error ⟨403, .text "Forbidden"⟩
    else .ok user

/-- The session token that `get_current_active_verified_user` issues anew for a request, when the old one expires
within the hour. -/
def refreshedToken (lifetimeSeconds : Option Nat) (isRequest : Bool) (now : DateTime) (t : SessionToken) (user : User) :
    Option SessionToken :=
  if isRequest then
    match decodeToken now t with
    | some data =>
      if data.exp.getD 0 * secondMicros < now.toMicros + 3600 * secondMicros then
        some (writeToken lifetimeSeconds now user)
      else none
    | none => none
  else none

/-- `get_current_active_verified_user`: the user of a request and the refreshed session token. -/
def authenticate (lifetimeSeconds : Option Nat) (isRequest : Bool) (st : AccessStore) (now : DateTime)
    (t : SessionToken) : Except HttpException (User × Option SessionToken) :=
  match currentUser st now t with
  | .error e => .error e
  | .ok user => .ok (user, refreshedToken lifetimeSeconds isRequest now t user)

/-! ## What a session token opens -/

/-- The sessions of an API token: the one of a login and those issued as a refresh of one, at any time and with any
roles. -/
inductive SessionOf (lifetimeSeconds : Option Nat) (tkn : ApiToken) : SessionToken → Prop
  | login {st now s} (h : loginAs lifetimeSeconds st now tkn = .ok s) : SessionOf lifetimeSeconds tkn s
  | refreshed {isRequest st now s user s'} (hs : SessionOf lifetimeSeconds tkn s)
      (h : authenticate lifetimeSeconds isRequest st now s = .ok (user, some s')) : SessionOf lifetimeSeconds tkn s'

def Passes (st : AccessStore) (now : DateTime) (s : SessionToken) (required : WorkspacePermissions)
    (workspaceId : WorkspaceId) : Prop :=
  ∃ user, currentUser st now s = .ok user ∧ workspacePermissionChecker required user workspaceId = .ok ()

structure Restricted (tkn : ApiToken) (st : AccessStore) (required : WorkspacePermissions) (workspaceId : WorkspaceId) :
    Prop where
  workspace : ∀ w, tkn.workspaceId = some w → workspaceId = w
  permission : ∀ mask, tkn.permission = some mask → ∀ p : WorkspacePermission, has required p = true →
    mask.testBit (bit p) = true
  roles : ∀ p : WorkspacePermission, has required p = true →
    has (permissionsOf (st.rolesIn tkn.userId workspaceId)) p = true

/-- **The restrictions of an API token are enforced** on the requests with a session token. -/
def Enforced (tkn : ApiToken) (st : AccessStore) (now : DateTime) (s : SessionToken) : Prop :=
  ∀ required workspaceId, Passes st now s required workspaceId → Restricted tkn st required workspaceId

theorem sub_of_loginAs {lifetimeSeconds : Option Nat} {st : AccessStore} {now : DateTime} {tkn : ApiToken}
    {s : SessionToken} (h : loginAs lifetimeSeconds st now tkn = .ok s) : s.sub = tkn.userId := by
  unfold loginAs at h
  split at h
  · cases h
  · rename_i user huser
    cases h
    exact userId_of_getUser huser

theorem currentUser_ok {st : AccessStore} {now : DateTime} {s : SessionToken} {user : User}
    (h : currentUser st now s = .ok user) : st.getUser s.sub = some user := by
  unfold currentUser at h
  split at h
  · cases h
  · rename_i found hread
    unfold readToken decodeToken at hread
    split at h
    · cases h
    · split at h
      · cases h
      · cases h
        split at hread
        · cases hread
        · rename_i data hdata
          split at hdata
          · cases hdata
          · cases hdata
            split at hread
            · cases hread
            · rename_i user huser
              split at hread
              · cases hread
              · cases hread
                exact huser

/-- **Every session of an API token is one of its user**, whatever became of its other contents. -/
theorem SessionOf.sub_eq {lifetimeSeconds : Option Nat} {tkn : ApiToken} {s : SessionToken}
    (h : SessionOf lifetimeSeconds tkn s) : s.sub = tkn.userId := by
  induction h with
  | login h => exact sub_of_loginAs h
  | refreshed hs h ih =>
    unfold authenticate at h
    split at h
    · cases h
    · rename_i user huser
      have hid := userId_of_getUser (currentUser_ok huser)
      have hrefresh := (Prod.mk.inj (Except.ok.inj h)).2
      unfold refreshedToken at hrefresh
      split at hrefresh
      · split at hrefresh
        · split at hrefresh
          · cases hrefresh
            exact hid.trans ih
          · cases hrefresh
        · cases hrefresh
      · cases hrefresh

/-- **A session passes the checker exactly when it authenticates and the user's roles grant the permissions.** -/
theorem passes_iff {lifetimeSeconds : Option Nat} {tkn : ApiToken} {s : SessionToken}
    (h : SessionOf lifetimeSeconds tkn s)
    (st : AccessStore) (now : DateTime) (required : WorkspacePermissions) (workspaceId : WorkspaceId) :
    Passes st now s required workspaceId ↔ (∃ user, currentUser st now s = .ok user) ∧
      ∀ p : WorkspacePermission, has required p = true →
        has (permissionsOf (st.rolesIn tkn.userId workspaceId)) p = true := by
  have hgranted : ∀ user, currentUser st now s = .ok user →
      (workspacePermissionChecker required user workspaceId = .ok () ↔
        ∀ p : WorkspacePermission, has required p = true →
          has (permissionsOf (st.rolesIn tkn.userId workspaceId)) p = true) := by
    intro user huser
    have hget := currentUser_ok huser
    rw [h.sub_eq] at hget
    rw [checker_eq_ok_iff]
    simp only [permitted_getUser hget]
  constructor
  · rintro ⟨user, huser, hcheck⟩
    exact ⟨⟨user, huser⟩, (hgranted user huser).1 hcheck⟩
  · rintro ⟨⟨user, huser⟩, hroles⟩
    exact ⟨user, huser, (hgranted user huser).2 hroles⟩

/-- **The restrictions of an API token are enforced exactly when they restrict nothing**: a session that does not
authenticate, or a token without a workspace whose mask, if it has one, has all permissions of the user's roles. -/
theorem enforced_iff {lifetimeSeconds : Option Nat} {tkn : ApiToken} {s : SessionToken}
    (h : SessionOf lifetimeSeconds tkn s) (st : AccessStore) (now : DateTime) :
    Enforced tkn st now s ↔ ((∃ user, currentUser st now s = .ok user) →
      tkn.workspaceId = none ∧ ∀ mask, tkn.permission = some mask → ∀ workspaceId (p : WorkspacePermission),
        has (permissionsOf (st.rolesIn tkn.userId workspaceId)) p = true → mask.testBit (bit p) = true) := by
  constructor
  · intro henforced huser
    constructor
    · -- no permission at all is required of the workspace next to the token's
      cases hw : tkn.workspaceId with
      | none => rfl
      | some w =>
        have hpass : Passes st now s 0 (w + 1) := (passes_iff h st now 0 (w + 1)).2 ⟨huser, fun p hp => by simp at hp⟩
        exact absurd ((henforced 0 (w + 1) hpass).workspace w hw) (Nat.succ_ne_self w)
    · intro mask hmask workspaceId p hp
      have hpass : Passes st now s (permissionsOf (st.rolesIn tkn.userId workspaceId)) workspaceId :=
        (passes_iff h st now _ workspaceId).2 ⟨huser, fun _ hq => hq⟩
      exact (henforced _ workspaceId hpass).permission mask hmask p hp
  · intro hnothing required workspaceId hpass
    obtain ⟨huser, hroles⟩ := (passes_iff h st now required workspaceId).1 hpass
    obtain ⟨hworkspace, hmask⟩ := hnothing huser
    refine ⟨fun w hw => ?_, fun mask hm p hp => hmask mask hm workspaceId p (hroles p hp), hroles⟩
    rw [hworkspace] at hw
    cases hw

/-- **The same for checkers that require some permission**: the token's workspace must be the only one in which the
user's roles grant anything, and its mask must have all that they grant. -/
theorem enforced_nonempty_iff {lifetimeSeconds : Option Nat} {tkn : ApiToken} {s : SessionToken}
    (h : SessionOf lifetimeSeconds tkn s) (st : AccessStore) (now : DateTime) :
    (∀ required workspaceId, (∃ p : WorkspacePermission, has required p = true) →
        Passes st now s required workspaceId → Restricted tkn st required workspaceId) ↔
      ((∃ user, currentUser st now s = .ok user) → ∀ workspaceId (p : WorkspacePermission),
        has (permissionsOf (st.rolesIn tkn.userId workspaceId)) p = true →
          (∀ w, tkn.workspaceId = some w → workspaceId = w) ∧
            ∀ mask, tkn.permission = some mask → mask.testBit (bit p) = true) := by
  constructor
  · intro henforced huser workspaceId p hp
    have hpass : Passes st now s (permissionsOf (st.rolesIn tkn.userId workspaceId)) workspaceId :=
      (passes_iff h st now _ workspaceId).2 ⟨huser, fun _ hq => hq⟩
    have hrestricted := henforced _ workspaceId ⟨p, hp⟩ hpass
    exact ⟨hrestricted.workspace, fun mask hm => hrestricted.permission mask hm p hp⟩
  · rintro hwithin required workspaceId ⟨q, hq⟩ hpass
    obtain ⟨huser, hroles⟩ := (passes_iff h st now required workspaceId).1 hpass
    exact ⟨(hwithin huser workspaceId q (hroles q hq)).1,
      fun mask hm p hp => (hwithin huser workspaceId p (hroles p hp)).2 mask hm, hroles⟩

/-! ## A read-only token of one workspace -/

def twoWorkspacesOwned : AccessStore :=
  { acmeStore with
    roleAssignments := ⟨[⟨11, 1, mask Role.workspaceOwner⟩, ⟨11, 2, mask Role.workspaceOwner⟩], by decide⟩ }

/-- An API token of user 11 for workspace 1 with the permission to read. -/
def readerToken : ApiToken := ⟨51, "reader", 11, some 1, some (mask WorkspacePermission.read : Nat)⟩

def readerSession : SessionToken := createToken (some 86400) january 11 "api_token" [(1, 2)]

theorem readerSession_of_readerToken : SessionOf (some 86400) readerToken readerSession :=
  .login (show loginAs (some 86400) twoWorkspacesOwned january readerToken = .ok readerSession by decide)

theorem enforced_iff_readerToken : Enforced readerToken twoWorkspacesOwned january readerSession ↔
    ((∃ user, currentUser twoWorkspacesOwned january readerSession = .ok user) →
      readerToken.workspaceId = none ∧ ∀ mask, readerToken.permission = some mask →
        ∀ workspaceId (p : WorkspacePermission),
          has (permissionsOf (twoWorkspacesOwned.rolesIn readerToken.userId workspaceId)) p = true →
            mask.testBit (bit p) = true) :=
  enforced_iff readerSession_of_readerToken twoWorkspacesOwned january

/-- The session may delete workspace 2. -/
theorem readerToken_not_enforced : ¬ Enforced readerToken twoWorkspacesOwned january readerSession := by
  intro h
  have hpass : Passes twoWorkspacesOwned january readerSession (mask WorkspacePermission.delete) 2 :=
    ⟨twoWorkspacesOwned.user ⟨11, "owner@acme", true, true, none⟩, by decide, by decide⟩
  exact absurd ((h _ 2 hpass).workspace 1 rfl) (by decide)

end Fix
