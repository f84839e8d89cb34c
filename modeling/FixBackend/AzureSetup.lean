import FixBackend.Access
import FixBackend.CloudCredentials
import FixBackend.SigningKeys
import FixBackend.Texts
/-!
# AzureSetup — the redirects that give a workspace its Azure credentials

The route `azure_admin_consent` of `cloud_accounts/router.py` starts a setup for a member of a workspace; the rest goes
through `azure_oauth_callback`, which needs no login and trusts the state token of the redirect.  Credentials are stored
after the second callback, or by a request of a member who may update the accounts.
-/
namespace Fix

open Calendar Effects Machine CloudCredentials IntFlag

variable {PrivateKey PublicKey Signature : Type}

namespace AzureSetup

/-- The entries of a state token besides the audience and the time. -/
abbrev Payload := Dict String (Option String)

def audience : String := "azure_oauth_endpoint"

def uuidString (id : Uuid) : String := String.ofList (Texts.uuidText id)

def adminConsent : String := "admin_consent"

def getManagementCredentials : String := "get_management_credentials"

def started (workspaceId : WorkspaceId) : Payload :=
  Dict.ofList [("workspace_id", some (uuidString workspaceId)), ("step", some adminConsent)]

def consented (payload : Payload) (tenant : Option String) : Payload :=
  (payload.put "step" (some getManagementCredentials)).put "azure_tenant_id" tenant

inductive Outcome where
  | redirectToUi
  | raises (e : Err)
  /-- The redirect to the login, with the payload of a new state token. -/
  | authorizes (payload : Payload)
  | stores (workspaceId : WorkspaceId) (value : AzureValue)

/-- `azure_oauth_callback` with what the state decodes to.  `registration` is `create_user_app_registration`, which
gives the id of an app and its secret or nothing. -/
def azureOauthCallback (decoded : Option (Claims Payload)) (tenant code : Option String)
    (registration : Option (String × String)) : Outcome :=
  match decoded with
  | none => .redirectToUi
  | some claims =>
    match truthy (claims.data.get "workspace_id").join with
    | none => .redirectToUi
    | some wsId =>
      match Texts.readUuid wsId.toList with
      | none => .raises (.valueError "badly formed hexadecimal UUID string")
      | some workspaceId =>
        let step := (claims.data.get "step").join
        -- without a tenant the redirect to the UI is made and not returned
        if step = some adminConsent then .authorizes (consented claims.data tenant)
        else if step = some getManagementCredentials then
          if code.isNone then .redirectToUi
          else
            match (claims.data.get "azure_tenant_id").join, registration with
            | some azureTenantId, some (clientId, clientSecret) =>
              .stores workspaceId ⟨azureTenantId, clientId, clientSecret⟩
            | _, _ => .redirectToUi
        else .redirectToUi

structure State (PrivateKey Signature : Type) where
  access : AccessStore
  credentials : Entities AzureValue (Option Bool)
  keys : CertificateStore.State PrivateKey
  /-- The state tokens of the two routes. -/
  issued : List (Jwt Signature Payload)
  /-- The tokens that were signed for anything else. -/
  signed : List (Jwt Signature Payload)

def init (access : AccessStore) (files : Slot → CertKeyPair PrivateKey) : State PrivateKey Signature :=
  ⟨access, default, CertificateStore.init files, [], []⟩

inductive Action (PrivateKey Signature : Type) where
  /-- `azure_admin_consent` -/
  | setup (p : ProcessId) (userId : UserId) (workspaceId : WorkspaceId)
  /-- `azure_oauth_callback`, with the id of a new row -/
  | callback (p : ProcessId) (state : Option (Jwt Signature Payload)) (tenant code : Option String)
    (registration : Option (String × String)) (uid : Uuid)
  /-- `add_azure_subscription_credentials`, with how `list_subscriptions` ends -/
  | put (userId : UserId) (workspaceId : WorkspaceId) (value : AzureValue) (listed : Bool) (uid : Uuid)
  /-- `_import_subscriptions` stores the status -/
  | imports (keyId : Uuid) (canAccessAccounts : Bool)
  | signs (p : ProcessId) (exp : Option Nat) (data : Payload) (aud : List String)
  | replaces (slot : Slot) (pair : CertKeyPair PrivateKey)
  /-- Users, workspaces and roles change. -/
  | others (access : AccessStore)

/-- `UserWorkspaceDependency` -/
def userWorkspace (userId : UserId) (workspaceId : WorkspaceId) (now : DateTime) : Access Workspace := do
  let user ← authenticatedUser userId
  getUserWorkspace workspaceId user now

/-- The dependencies of `add_azure_subscription_credentials`. -/
def mayUpdateAccounts (userId : UserId) (workspaceId : WorkspaceId) (now : DateTime) : Access Workspace := do
  let user ← authenticatedUser userId
  let workspace ← getUserWorkspace workspaceId user now
  requirePermissions (mask WorkspacePermission.updateCloudAccounts) user workspaceId
  return workspace

def Admits (request : UserId → WorkspaceId → DateTime → Access Workspace) (s : State PrivateKey Signature)
    (now : DateTime)
    (userId : UserId) (workspaceId : WorkspaceId) : Prop :=
  (exec (request userId workspaceId now) s.access).1.toBool = true

instance (request : UserId → WorkspaceId → DateTime → Access Workspace) (s : State PrivateKey Signature)
    (now : DateTime)
    (userId : UserId) (workspaceId : WorkspaceId) : Decidable (Admits request s now userId workspaceId) :=
  instDecidableEqBool _ _

section Steps

variable (rsa : Rs256 PrivateKey PublicKey Signature (SignedPart Payload))

def outcome (s : State PrivateKey Signature) (now : DateTime) (p : ProcessId) (state : Option (Jwt Signature Payload))
    (tenant code : Option String) (registration : Option (String × String)) : Outcome :=
  azureOauthCallback (JwtService.decode rsa s.keys p now.toMicros state [audience]) tenant code registration

/-- `upsert` -/
def store (s : State PrivateKey Signature) (now : DateTime) (workspaceId : WorkspaceId) (value : AzureValue)
    (uid : Uuid) :
    State PrivateKey Signature :=
  { s with
    credentials := (AzureSubscriptionCredentialsRepository.upsert workspaceId value now uid s.credentials).2 }

def issue (s : State PrivateKey Signature) (now : DateTime) (p : ProcessId) (payload : Payload) :
    State PrivateKey Signature :=
  { s with issued := s.issued ++ [JwtService.encode rsa s.keys p now.toMicros none payload [audience]] }

/-- A UUID has 128 bits, and time does not go back. -/
def step (s : State PrivateKey Signature) (a : DateTime × Action PrivateKey Signature) :
    Option (State PrivateKey Signature) :=
  let (now, action) := a
  match action with
  | .setup p userId workspaceId =>
    if Admits userWorkspace s now userId workspaceId then
      if workspaceId < 2 ^ 128 then
        (CertificateStore.step s.keys (now.toMicros, .loads p)).map fun keys =>
          { issue rsa s now p (started workspaceId) with keys := keys }
      else none
    else some s
  | .callback p state tenant code registration uid =>
    (CertificateStore.step s.keys (now.toMicros, .loads p)).map fun keys =>
      match outcome rsa s now p state tenant code registration with
      | .redirectToUi | .raises _ => { s with keys := keys }
      | .authorizes payload => { issue rsa s now p payload with keys := keys }
      | .stores workspaceId value => { store s now workspaceId value uid with keys := keys }
  | .put userId workspaceId value listed uid =>
    if Admits mayUpdateAccounts s now userId workspaceId ∧ listed = true then some (store s now workspaceId value uid)
    else some s
  | .imports keyId canAccessAccounts =>
    some { s with
      credentials := AzureSubscriptionCredentialsRepository.repository.apply s.credentials
        (.updateStatus keyId canAccessAccounts none now) }
  | .signs p exp data aud =>
    if audience ∈ aud then none
    else (CertificateStore.step s.keys (now.toMicros, .loads p)).map fun keys =>
      { s with
        keys := keys
        signed := s.signed ++ [JwtService.encode rsa s.keys p now.toMicros exp data aud] }
  | .replaces slot pair =>
    (CertificateStore.step s.keys (now.toMicros, .replaces slot pair)).map fun keys => { s with keys := keys }
  | .others access => some { s with access := access }

/-- The state tokens of the callbacks are not forged. -/
def Unforged (s : State PrivateKey Signature) : DateTime × Action PrivateKey Signature → Prop
  | (now, .callback p state _ _ _ _) =>
    JwtService.Unforged rsa (s.signed ++ s.issued) s.keys p now.toMicros state
  | _ => True

end Steps

/-! ## What the callback does with a state -/

theorem toList_uuidString (id : Uuid) : (uuidString id).toList = Texts.uuidText id := String.toList_ofList

theorem truthy_uuidString (id : Uuid) : truthy (some (uuidString id)) = some (uuidString id) := by
  have hne : uuidString id ≠ "" := by
    intro h
    have hnil : Texts.uuidText id = [] := by rw [← toList_uuidString, h]; rfl
    unfold Texts.uuidText Texts.hyphenated at hnil
    exact absurd (List.append_eq_nil_iff.1 hnil).2 (List.cons_ne_nil _ _)
  simp [truthy, hne]

section Callback

variable {workspaceId : WorkspaceId} {claims : Claims Payload} {granted : Option String}

theorem get_started_workspaceId (workspaceId : WorkspaceId) :
    (started workspaceId).get "workspace_id" = some (some (uuidString workspaceId)) := by
  unfold started Dict.ofList
  simp only [List.foldl_cons, List.foldl_nil]
  rw [Dict.get_put_of_ne _ _ (by decide), Dict.get_put_self]

theorem get_started_step (workspaceId : WorkspaceId) : (started workspaceId).get "step" = some (some adminConsent) := by
  unfold started Dict.ofList
  simp only [List.foldl_cons, List.foldl_nil]
  rw [Dict.get_put_self]

theorem get_consented_workspaceId (workspaceId : WorkspaceId) (tenant : Option String) :
    (consented (started workspaceId) tenant).get "workspace_id" = some (some (uuidString workspaceId)) := by
  unfold consented
  rw [Dict.get_put_of_ne _ _ (by decide), Dict.get_put_of_ne _ _ (by decide), get_started_workspaceId]

theorem get_consented_step (payload : Payload) (tenant : Option String) :
    (consented payload tenant).get "step" = some (some getManagementCredentials) := by
  unfold consented
  rw [Dict.get_put_of_ne _ _ (by decide), Dict.get_put_self]

theorem get_consented_tenant (payload : Payload) (tenant : Option String) :
    (consented payload tenant).get "azure_tenant_id" = some tenant := Dict.get_put_self _ _ _

/-- The state of a setup that was started: whatever tenant the redirect names, none included, is asked for access. -/
theorem azureOauthCallback_started (hid : workspaceId < 2 ^ 128) (hdata : claims.data = started workspaceId)
    (tenant code : Option String) (registration : Option (String × String)) :
    azureOauthCallback (some claims) tenant code registration =
      .authorizes (consented (started workspaceId) tenant) := by
  unfold azureOauthCallback
  dsimp only
  rw [hdata, get_started_workspaceId, get_started_step, Option.join_some, truthy_uuidString]
  dsimp only
  rw [toList_uuidString, Texts.readUuid_uuidText hid]
  exact if_pos rfl

def registered (workspaceId : WorkspaceId) (granted code : Option String) (registration : Option (String × String)) :
    Outcome :=
  match code, granted, registration with
  | some _, some azureTenantId, some (clientId, clientSecret) =>
    .stores workspaceId ⟨azureTenantId, clientId, clientSecret⟩
  | _, _, _ => .redirectToUi

theorem azureOauthCallback_consented (hid : workspaceId < 2 ^ 128)
    (hdata : claims.data = consented (started workspaceId) granted) (tenant code : Option String)
    (registration : Option (String × String)) :
    azureOauthCallback (some claims) tenant code registration = registered workspaceId granted code registration := by
  have hstep : some getManagementCredentials ≠ some adminConsent := by decide
  unfold azureOauthCallback registered
  dsimp only
  rw [hdata, get_consented_workspaceId, get_consented_step, get_consented_tenant]
  simp only [Option.join_some]
  rw [truthy_uuidString]
  dsimp only
  rw [toList_uuidString, Texts.readUuid_uuidText hid]
  dsimp only
  rw [if_neg hstep, if_pos trivial]
  cases code <;> cases granted <;> cases registration <;> rfl

theorem registered_cases (workspaceId : WorkspaceId) (granted code : Option String)
    (registration : Option (String × String)) :
    registered workspaceId granted code registration = .redirectToUi ∨ ∃ value : AzureValue, code.isSome = true ∧
      granted = some value.azureTenantId ∧ registration = some (value.clientId, value.clientSecret) ∧
        registered workspaceId granted code registration = .stores workspaceId value := by
  unfold registered
  split
  · exact .inr ⟨_, rfl, rfl, rfl, rfl⟩
  · exact .inl rfl

end Callback

/-! ## The credential of a workspace -/

def credential (t : Entities AzureValue (Option Bool)) (workspaceId : WorkspaceId) : Option AzureValue :=
  (t.find workspaceId).map fun e => e.value

theorem credential_upsert (t : Entities AzureValue (Option Bool)) (workspaceId other : WorkspaceId) (value : AzureValue)
    (now : DateTime) (uid : Uuid) :
    credential (AzureSubscriptionCredentialsRepository.upsert workspaceId value now uid t).2 other =
      if other = workspaceId then some value else credential t other := by
  unfold credential AzureSubscriptionCredentialsRepository.upsert
  split_ifs with h
  · subst h
    cases hfind : t.find other with
    | none => rw [find_upsert_new _ hfind, Option.map_some]
    | some existing =>
      rw [find_upsert_old _ hfind, Option.map_some, (touch_fields _ _ _).2.1]
      rfl
  · rw [find_upsert_of_ne _ h]

theorem credential_updateStatus (t : Entities AzureValue (Option Bool)) (keyId : Uuid) (canAccess : Bool)
    (error : Option String) (now : DateTime) (workspaceId : WorkspaceId) :
    credential (AzureSubscriptionCredentialsRepository.repository.apply t (.updateStatus keyId canAccess error now))
      workspaceId = credential t workspaceId := by
  unfold credential
  simp only [Repository.apply, Repository.updateStatus]
  cases hkey : getKey keyId t with
  | none => rfl
  | some x =>
    obtain ⟨-, hfind⟩ := find_of_getKey hkey
    let changed :=
      touch x { x with status := AzureSubscriptionCredentialsRepository.repository.status canAccess error } now
    have htenant : changed.tenantId = x.tenantId := touch_tenantId _ _ _ rfl
    have hvalue : changed.value = x.value := (touch_fields x _ now).2.1
    by_cases hsame : workspaceId = x.tenantId
    · have hreplaced := Table.find_replace_self (r := changed) (htenant ▸ hfind)
      rw [htenant] at hreplaced
      rw [hsame, hfind, Option.map_some, ← hvalue]
      exact congrArg (Option.map fun e => e.value) hreplaced
    · exact congrArg (Option.map fun e => e.value) (Table.find_replace_of_ne t (by rw [htenant]; exact hsame))

/-! ## Where a credential comes from -/

section Provenance

variable (rsa : Rs256 PrivateKey PublicKey Signature (SignedPart Payload))

/-- A member of the workspace is let in to start its setup. -/
def Starts (workspaceId : WorkspaceId) (_ : List (DateTime × Action PrivateKey Signature))
    (s : State PrivateKey Signature) : DateTime × Action PrivateKey Signature → Prop
  | (now, .setup _ userId id) => id = workspaceId ∧ Admits userWorkspace s now userId workspaceId
  | _ => False

/-- The first redirect of a setup that was started names a tenant, or none. -/
def Consents (s₀ : State PrivateKey Signature) (workspaceId : WorkspaceId) (granted : Option String)
    (before : List (DateTime × Action PrivateKey Signature)) (s : State PrivateKey Signature) :
    DateTime × Action PrivateKey Signature → Prop
  | (now, .callback p state tenant code registration _) => tenant = granted ∧
    outcome rsa s now p state tenant code registration = .authorizes (consented (started workspaceId) tenant) ∧
      Happened (step rsa) s₀ before (Starts workspaceId)
  | _ => False

/-- The second redirect after such a first one brings a code, and an app is registered with it. -/
def Registers (s₀ : State PrivateKey Signature) (workspaceId : WorkspaceId) (value : AzureValue)
    (before : List (DateTime × Action PrivateKey Signature)) (s : State PrivateKey Signature) :
    DateTime × Action PrivateKey Signature → Prop
  | (now, .callback p state tenant code registration _) => code.isSome = true ∧
    registration = some (value.clientId, value.clientSecret) ∧
    outcome rsa s now p state tenant code registration = .stores workspaceId value ∧
      Happened (step rsa) s₀ before (Consents rsa s₀ workspaceId (some value.azureTenantId))
  | _ => False

/-- A member who may update the accounts of the workspace uploads the credential, and it lists subscriptions. -/
def Uploads (workspaceId : WorkspaceId) (value : AzureValue) (_ : List (DateTime × Action PrivateKey Signature))
    (s : State PrivateKey Signature) : DateTime × Action PrivateKey Signature → Prop
  | (now, .put userId id uploaded listed _) => id = workspaceId ∧ uploaded = value ∧ listed = true ∧
    Admits mayUpdateAccounts s now userId workspaceId
  | _ => False

/-- The credential was uploaded, or a setup brought it. -/
def Origin (s₀ : State PrivateKey Signature) (actions : List (DateTime × Action PrivateKey Signature))
    (workspaceId : WorkspaceId) (value : AzureValue) : Prop :=
  Happened (step rsa) s₀ actions (Uploads workspaceId value) ∨
    Happened (step rsa) s₀ actions (Registers rsa s₀ workspaceId value)

/-- A state token is the one of a setup that was started, or of its first redirect. -/
def Vouched (s₀ : State PrivateKey Signature) (actions : List (DateTime × Action PrivateKey Signature))
    (payload : Payload) : Prop :=
  ∃ workspaceId, workspaceId < 2 ^ 128 ∧
    ((payload = started workspaceId ∧ Happened (step rsa) s₀ actions (Starts workspaceId)) ∨
      ∃ granted, payload = consented (started workspaceId) granted ∧
        Happened (step rsa) s₀ actions (Consents rsa s₀ workspaceId granted))

structure Inv (s₀ : State PrivateKey Signature) (actions : List (DateTime × Action PrivateKey Signature))
    (s : State PrivateKey Signature) : Prop where
  issued : ∀ token ∈ s.issued, Vouched rsa s₀ actions token.claims.data
  signed : ∀ token ∈ s.signed, audience ∉ token.claims.aud
  stored : ∀ workspaceId value, credential s.credentials workspaceId = some value →
    Origin rsa s₀ actions workspaceId value

end Provenance

section Steps

variable {rsa : Rs256 PrivateKey PublicKey Signature (SignedPart Payload)} {s₀ s s' : State PrivateKey Signature}
  {actions : List (DateTime × Action PrivateKey Signature)}

theorem Vouched.append {payload : Payload} (h : Vouched rsa s₀ actions payload)
    (more : List (DateTime × Action PrivateKey Signature)) : Vouched rsa s₀ (actions ++ more) payload := by
  obtain ⟨workspaceId, hid, ⟨hdata, hstarts⟩ | ⟨granted, hdata, hconsents⟩⟩ := h
  · exact ⟨workspaceId, hid, .inl ⟨hdata, hstarts.append more⟩⟩
  · exact ⟨workspaceId, hid, .inr ⟨granted, hdata, hconsents.append more⟩⟩

theorem Origin.append {workspaceId : WorkspaceId} {value : AzureValue} (h : Origin rsa s₀ actions workspaceId value)
    (more : List (DateTime × Action PrivateKey Signature)) : Origin rsa s₀ (actions ++ more) workspaceId value :=
  h.imp (·.append more) (·.append more)

theorem vouched_of_decode (hs : Inv rsa s₀ actions s) {now : DateTime} {p : ProcessId}
    {state : Option (Jwt Signature Payload)}
    (hunforged : JwtService.Unforged rsa (s.signed ++ s.issued) s.keys p now.toMicros state) {claims : Claims Payload}
    (h : JwtService.decode rsa s.keys p now.toMicros state [audience] = some claims) :
    Vouched rsa s₀ actions claims.data := by
  obtain ⟨token, htoken, -, rfl, a, ha, haud⟩ := JwtService.issued_of_decode hunforged h
  rw [List.mem_singleton.1 ha] at haud
  obtain hsigned | hissued := List.mem_append.1 htoken
  · exact absurd haud (hs.signed token hsigned)
  · exact hs.issued token hissued

variable (rsa) in
/-- **What a callback can come to**: the first redirect of a setup, the second one of it, or nothing. -/
inductive Outcome.From (s₀ : State PrivateKey Signature) (actions : List (DateTime × Action PrivateKey Signature))
    (tenant code : Option String) (registration : Option (String × String)) : Outcome → Prop
  | authorizes {workspaceId : WorkspaceId} (hid : workspaceId < 2 ^ 128)
      (hstarts : Happened (step rsa) s₀ actions (Starts workspaceId)) :
      From s₀ actions tenant code registration (.authorizes (consented (started workspaceId) tenant))
  | stores {workspaceId : WorkspaceId} {value : AzureValue} (hcode : code.isSome = true)
      (hregistration : registration = some (value.clientId, value.clientSecret))
      (hconsents : Happened (step rsa) s₀ actions (Consents rsa s₀ workspaceId (some value.azureTenantId))) :
      From s₀ actions tenant code registration (.stores workspaceId value)
  | redirectToUi : From s₀ actions tenant code registration .redirectToUi

theorem from_outcome (hs : Inv rsa s₀ actions s) {now : DateTime} {p : ProcessId}
    {state : Option (Jwt Signature Payload)}
    (hunforged : JwtService.Unforged rsa (s.signed ++ s.issued) s.keys p now.toMicros state)
    (tenant code : Option String) (registration : Option (String × String)) :
    Outcome.From rsa s₀ actions tenant code registration (outcome rsa s now p state tenant code registration) := by
  unfold outcome
  cases hdecode : JwtService.decode rsa s.keys p now.toMicros state [audience] with
  | none => exact .redirectToUi
  | some claims =>
    obtain ⟨workspaceId, hid, ⟨hdata, hstarts⟩ | ⟨granted, hdata, hconsents⟩⟩ := vouched_of_decode hs hunforged hdecode
    · rw [azureOauthCallback_started hid hdata]
      exact .authorizes hid hstarts
    · rw [azureOauthCallback_consented hid hdata]
      obtain hredirects | ⟨value, hcode, rfl, hregistration, hstores⟩ :=
        registered_cases workspaceId granted code registration
      · rw [hredirects]
        exact .redirectToUi
      · rw [hstores]
        exact .stores hcode hregistration hconsents

/-! ### Steps -/

theorem Inv.keys (hs : Inv rsa s₀ actions s) (keys : CertificateStore.State PrivateKey) :
    Inv rsa s₀ actions { s with keys := keys } := ⟨hs.issued, hs.signed, hs.stored⟩

theorem Inv.append (hs : Inv rsa s₀ actions s) (more : List (DateTime × Action PrivateKey Signature)) :
    Inv rsa s₀ (actions ++ more) s where
  issued token htoken := (hs.issued token htoken).append more
  signed := hs.signed
  stored workspaceId value hvalue := (hs.stored workspaceId value hvalue).append more

theorem Inv.issue (hs : Inv rsa s₀ actions s) (now : DateTime) (p : ProcessId) {payload : Payload}
    (h : Vouched rsa s₀ actions payload) : Inv rsa s₀ actions (issue rsa s now p payload) where
  issued token htoken := by
    obtain hold | hnew := List.mem_append.1 htoken
    · exact hs.issued token hold
    · rw [List.mem_singleton.1 hnew]
      exact h
  signed := hs.signed
  stored := hs.stored

theorem Inv.store (hs : Inv rsa s₀ actions s) (now : DateTime) (uid : Uuid) {workspaceId : WorkspaceId}
    {value : AzureValue}
    (h : Origin rsa s₀ actions workspaceId value) : Inv rsa s₀ actions (store s now workspaceId value uid) where
  issued := hs.issued
  signed := hs.signed
  stored other stored hstored := by
    unfold AzureSetup.store at hstored
    rw [credential_upsert] at hstored
    split_ifs at hstored with heq
    · cases hstored
      rw [heq]
      exact h
    · exact hs.stored other stored hstored

/-- **What a step adds has its origin in the run**: a state token comes from a setup, a credential from a setup or an
upload. -/
theorem inv_step (hrun : run (step rsa) s₀ actions = some s) (hs : Inv rsa s₀ actions s)
    {a : DateTime × Action PrivateKey Signature} (hunforged : Unforged rsa s a) (h : step rsa s a = some s') :
    Inv rsa s₀ (actions ++ [a]) s' := by
  obtain ⟨now, action⟩ := a
  unfold step at h
  cases action with
  | setup p userId workspaceId =>
    dsimp only at h
    split_ifs at h with hadmits hid
    · obtain ⟨keys, -, rfl⟩ := Option.map_eq_some_iff.1 h
      have hstarts : Happened (step rsa) s₀ (actions ++ [(now, .setup p userId workspaceId)]) (Starts workspaceId) :=
        .last hrun ⟨rfl, hadmits⟩
      exact ((hs.append _).issue now p ⟨workspaceId, hid, .inl ⟨rfl, hstarts⟩⟩).keys keys
    · cases h
      exact hs.append _
  | callback p state tenant code registration uid =>
    obtain ⟨keys, -, rfl⟩ := Option.map_eq_some_iff.1 h
    have hfrom := from_outcome hs hunforged tenant code registration
    generalize hout : outcome rsa s now p state tenant code registration = out at hfrom
    cases hfrom with
    | redirectToUi => exact (hs.append _).keys keys
    | @authorizes workspaceId hid hstarts =>
      refine ((hs.append _).issue now p ⟨workspaceId, hid, .inr ⟨tenant, rfl, .last hrun ?_⟩⟩).keys keys
      exact ⟨rfl, hout, hstarts⟩
    | stores hcode hregistration hconsents =>
      refine ((hs.append _).store now uid (.inr (.last hrun ?_))).keys keys
      exact ⟨hcode, hregistration, hout, hconsents⟩
  | put userId workspaceId value listed uid =>
    dsimp only at h
    split_ifs at h with hadmits
    · cases h
      exact (hs.append _).store now uid (.inl (.last hrun ⟨rfl, rfl, hadmits.2, hadmits.1⟩))
    · cases h
      exact hs.append _
  | imports keyId canAccessAccounts =>
    cases h
    have happended := hs.append [(now, (.imports keyId canAccessAccounts : Action PrivateKey Signature))]
    refine ⟨happended.issued, happended.signed, fun workspaceId value hvalue => ?_⟩
    dsimp only at hvalue
    rw [credential_updateStatus] at hvalue
    exact happended.stored workspaceId value hvalue
  | signs p exp data aud =>
    dsimp only at h
    split_ifs at h with haud
    obtain ⟨keys, -, rfl⟩ := Option.map_eq_some_iff.1 h
    have happended := hs.append [(now, (.signs p exp data aud : Action PrivateKey Signature))]
    refine ⟨happended.issued, fun token htoken => ?_, happended.stored⟩
    obtain hold | hnew := List.mem_append.1 htoken
    · exact hs.signed token hold
    · rw [List.mem_singleton.1 hnew]
      exact haud
  | replaces slot pair =>
    obtain ⟨keys, -, rfl⟩ := Option.map_eq_some_iff.1 h
    exact (hs.append _).keys keys
  | others access =>
    cases h
    have happended := hs.append [(now, (.others access : Action PrivateKey Signature))]
    exact ⟨happended.issued, happended.signed, happended.stored⟩

theorem inv_init (access : AccessStore) (files : Slot → CertKeyPair PrivateKey) :
    Inv rsa (init access files) [] (init access files) where
  issued _ h := absurd h List.not_mem_nil
  signed _ h := absurd h List.not_mem_nil
  stored _ _ h := by cases h

/-- **Where the credentials of a workspace come from**, in every run in which nobody forges a signature: a member who
may update the accounts uploaded them, or an app was registered by a callback with the state of an earlier callback
that named the tenant, which had the state of a setup that a member of this very workspace had started before. -/
theorem credential_origin {access : AccessStore} {files : Slot → CertKeyPair PrivateKey}
    (hunforged : Along (step rsa) (Unforged rsa) (init access files) actions)
    (h : run (step rsa) (init access files) actions = some s) {workspaceId : WorkspaceId} {value : AzureValue}
    (hvalue : credential s.credentials workspaceId = some value) :
    Origin rsa (init access files) actions workspaceId value := by
  have hinv : Along (step rsa) (Unforged rsa) (init access files) actions → Inv rsa (init access files) actions s :=
    run_history (P := fun actions s => Along (step rsa) (Unforged rsa) (init access files) actions →
      Inv rsa (init access files) actions s) (fun _ => inv_init access files)
      (fun before a s₁ s₂ hbefore ih hstep hunforged => by
        obtain ⟨hfirst, hlast⟩ := along_append hunforged hbefore
        exact inv_step hbefore (ih hfirst) hlast.1 hstep) h
  exact (hinv hunforged).stored workspaceId value hvalue

/-! ### A setup that is followed to its end -/

def stateToken (rsa : Rs256 PrivateKey PublicKey Signature (SignedPart Payload)) (s : State PrivateKey Signature)
    (now : DateTime) (p : ProcessId) (payload : Payload) : Jwt Signature Payload :=
  JwtService.encode rsa s.keys p now.toMicros none payload [audience]

theorem outcome_of_held {now earlier : DateTime} {p q : ProcessId} {payload : Payload} {s₁ : State PrivateKey Signature}
    (hheld : JwtService.Held rsa s.keys p now.toMicros (stateToken rsa s₁ earlier q payload))
    (tenant code : Option String) (registration : Option (String × String)) :
    outcome rsa s now p (some (stateToken rsa s₁ earlier q payload)) tenant code registration =
      azureOauthCallback (some ⟨[audience], none, payload⟩) tenant code registration := by
  have hdecode := JwtService.decode_of_held hheld rfl (List.cons_ne_nil _ _)
  unfold outcome
  exact congrArg (azureOauthCallback · tenant code registration) hdecode

variable (rsa) in
/-- **A setup needs no login and no haste**: once a member has been let in to start it, whoever follows the redirects,
with whatever between them and however late, while the process that is called holds the key of the state token, gives
the workspace the app that is registered in the tenant that the first redirect named, and changes no other workspace.
-/
theorem setup_completes {now : DateTime} {p : ProcessId} {userId : UserId} {workspaceId : WorkspaceId}
    (hadmits : Admits userWorkspace s now userId workspaceId) (hid : workspaceId < 2 ^ 128)
    (hclock : s.keys.clock ≤ now.toMicros) :
    ∃ s₁, step rsa s (now, .setup p userId workspaceId) = some s₁ ∧
      stateToken rsa s now p (started workspaceId) ∈ s₁.issued ∧
      ∀ between s₂, run (step rsa) s₁ between = some s₂ → ∀ now₂ p₂ tenant code registration uid,
      s₂.keys.clock ≤ now₂.toMicros →
      JwtService.Held rsa s₂.keys p₂ now₂.toMicros (stateToken rsa s now p (started workspaceId)) →
      ∃ s₃, step rsa s₂ (now₂, .callback p₂ (some (stateToken rsa s now p (started workspaceId))) (some tenant) code
          registration uid) = some s₃ ∧
        stateToken rsa s₂ now₂ p₂ (consented (started workspaceId) (some tenant)) ∈ s₃.issued ∧
        ∀ between' s₄, run (step rsa) s₃ between' = some s₄ →
        ∀ now₄ p₄ tenant' code' clientId clientSecret uid', s₄.keys.clock ≤ now₄.toMicros →
        JwtService.Held rsa s₄.keys p₄ now₄.toMicros
          (stateToken rsa s₂ now₂ p₂ (consented (started workspaceId) (some tenant))) →
        ∃ s₅, step rsa s₄ (now₄, .callback p₄
            (some (stateToken rsa s₂ now₂ p₂ (consented (started workspaceId) (some tenant)))) tenant' (some code')
            (some (clientId, clientSecret)) uid') = some s₅ ∧
          ∀ other, credential s₅.credentials other =
            if other = workspaceId then some ⟨tenant, clientId, clientSecret⟩ else credential s₄.credentials other := by
  refine ⟨{ issue rsa s now p (started workspaceId) with keys := s.keys.loaded p now.toMicros }, ?_,
    List.mem_append_right _ (List.mem_singleton_self _), ?_⟩
  · unfold step
    dsimp only
    rw [if_pos hadmits, if_pos hid, CertificateStore.loads_of_le hclock]
    rfl
  intro between s₂ _ now₂ p₂ tenant code registration uid hclock₂ hheld₂
  have hauthorizes := (outcome_of_held hheld₂ (some tenant) code registration).trans
    (azureOauthCallback_started hid rfl (some tenant) code registration)
  refine ⟨{ issue rsa s₂ now₂ p₂ (consented (started workspaceId) (some tenant)) with
    keys := s₂.keys.loaded p₂ now₂.toMicros }, ?_, List.mem_append_right _ (List.mem_singleton_self _), ?_⟩
  · unfold step
    dsimp only
    rw [CertificateStore.loads_of_le hclock₂, hauthorizes]
    rfl
  intro between' s₄ _ now₄ p₄ tenant' code' clientId clientSecret uid' hclock₄ hheld₄
  have hstores : outcome rsa s₄ now₄ p₄
      (some (stateToken rsa s₂ now₂ p₂ (consented (started workspaceId) (some tenant))))
      tenant' (some code') (some (clientId, clientSecret)) = .stores workspaceId ⟨tenant, clientId, clientSecret⟩ := by
    have hregistered : registered workspaceId (some tenant) (some code') (some (clientId, clientSecret)) =
      .stores workspaceId ⟨tenant, clientId, clientSecret⟩ := rfl
    rw [outcome_of_held hheld₄, ← hregistered]
    exact azureOauthCallback_consented hid rfl tenant' (some code') (some (clientId, clientSecret))
  refine ⟨{ store s₄ now₄ workspaceId ⟨tenant, clientId, clientSecret⟩ uid' with
    keys := s₄.keys.loaded p₄ now₄.toMicros }, ?_, fun other => ?_⟩
  · unfold step
    dsimp only
    rw [CertificateStore.loads_of_le hclock₄, hstores]
    rfl
  · exact credential_upsert _ _ _ _ _ _

end Steps

/-! ### User 11 sets up workspace 1 -/

section Acme

open JwtService CertificateStore

instance : DecidableEq Payload := fun a b =>
  decidable_of_iff (a.rows = b.rows) ⟨fun h => by cases a; cases b; cases h; rfl, fun h => by rw [h]⟩

def acme : State Nat (Nat × SignedPart Payload) := init acmeStore twoPairs

def starts : DateTime × Action Nat (Nat × SignedPart Payload) := (january, .setup 0 11 1)

def acmeStarted : State Nat (Nat × SignedPart Payload) :=
  (step (plainRsa Payload) acme starts).get (by decide +kernel)

def startedToken : Jwt (Nat × SignedPart Payload) Payload := stateToken (plainRsa Payload) acme january 0 (started 1)

def consents : DateTime × Action Nat (Nat × SignedPart Payload) :=
  (january, .callback 0 (some startedToken) (some "tenant") none none 40)

def acmeConsented : State Nat (Nat × SignedPart Payload) :=
  (step (plainRsa Payload) acmeStarted consents).get (by decide +kernel)

def consentedToken : Jwt (Nat × SignedPart Payload) Payload :=
  stateToken (plainRsa Payload) acmeStarted january 0 (consented (started 1) (some "tenant"))

def registers : DateTime × Action Nat (Nat × SignedPart Payload) :=
  (january, .callback 1 (some consentedToken) none (some "code") (some ("app", "secret")) 41)

def acmeRegistered : State Nat (Nat × SignedPart Payload) :=
  (step (plainRsa Payload) acmeConsented registers).get (by decide +kernel)

theorem step_starts : step (plainRsa Payload) acme starts = some acmeStarted := (Option.some_get _).symm

theorem step_consents : step (plainRsa Payload) acmeStarted consents = some acmeConsented := (Option.some_get _).symm

theorem step_registers : step (plainRsa Payload) acmeConsented registers = some acmeRegistered :=
  (Option.some_get _).symm

theorem startedToken_mem : startedToken ∈ acmeStarted.issued := by decide +kernel

theorem consentedToken_mem : consentedToken ∈ acmeConsented.issued := by decide +kernel

theorem credential_origin_acme :
    Origin (plainRsa Payload) acme [starts, consents, registers] 1 ⟨"tenant", "app", "secret"⟩ := by
  have hstarts : Unforged (plainRsa Payload) acme starts := trivial
  have hconsents : Unforged (plainRsa Payload) acmeStarted consents := by
    intro token htoken slot _
    cases htoken
    exact List.mem_append_right _ startedToken_mem
  have hregisters : Unforged (plainRsa Payload) acmeConsented registers := by
    intro token htoken slot _
    cases htoken
    exact List.mem_append_right _ consentedToken_mem
  have hunforged : Along (step (plainRsa Payload)) (Unforged (plainRsa Payload)) acme [starts, consents, registers] :=
    along_cons hstarts step_starts (along_cons hconsents step_consents (along_cons hregisters step_registers trivial))
  have hrun : run (step (plainRsa Payload)) acme [starts, consents, registers] = some acmeRegistered :=
    run_cons.2 ⟨acmeStarted, step_starts, run_cons.2 ⟨acmeConsented, step_consents, run_one step_registers⟩⟩
  exact credential_origin hunforged hrun (by decide +kernel)

theorem setup_completes_acme : credential acmeRegistered.credentials 1 = some ⟨"tenant", "app", "secret"⟩ ∧
    ∀ other, other ≠ 1 → credential acmeRegistered.credentials other = credential acmeConsented.credentials other := by
  obtain ⟨s₁, hstarts, -, hstarted⟩ := setup_completes (plainRsa Payload) (s := acme) (p := 0)
    (show Admits userWorkspace acme january 11 1 by decide +kernel) (by decide) (by decide +kernel)
  obtain rfl := Option.some.inj (step_starts.symm.trans hstarts)
  have hheld : Held (plainRsa Payload) acmeStarted.keys 0 january.toMicros startedToken :=
    ⟨.second, by decide +kernel, by decide +kernel⟩
  obtain ⟨s₃, hconsents, -, hconsented⟩ := hstarted [] acmeStarted rfl january 0 "tenant" none none 40
    (by decide +kernel) hheld
  obtain rfl := Option.some.inj (step_consents.symm.trans hconsents)
  have hheld' : Held (plainRsa Payload) acmeConsented.keys 1 january.toMicros consentedToken :=
    ⟨.second, by decide +kernel, by decide +kernel⟩
  obtain ⟨s₅, hregisters, hcredential⟩ := hconsented [] acmeConsented rfl january 1 none "code" "app" "secret" 41
    (by decide +kernel) hheld'
  obtain rfl := Option.some.inj (step_registers.symm.trans hregisters)
  exact ⟨hcredential 1, fun other hother => (hcredential other).trans (if_neg hother)⟩

end Acme

end AzureSetup

end Fix
