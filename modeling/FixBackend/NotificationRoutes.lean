import FixBackend.ApiTokens
import FixBackend.Machine
/-!
# NotificationRoutes — who changes and who reads the notification settings

The router `notification/notification_router.py` over its service and the two repositories.  Slack and Discord are added
by two requests: the first one redirects with a state token, and the callback with this token stores the configuration.
-/
namespace Fix

open Calendar Effects Machine IntFlag

namespace NotificationRouter

/-! ## The settings -/

inductive NotificationProvider where
  | email
  | slack
  | discord
  | pagerduty
  | teams
  | opsgenie
deriving DecidableEq

inductive ReportSeverity where
  | info
  | low
  | medium
  | high
  | critical
deriving DecidableEq

abbrev BenchmarkName := String

structure AlertingSetting where
  severity : ReportSeverity := .critical
  channels : List NotificationProvider := []
deriving DecidableEq

structure WorkspaceAlert where
  workspaceId : WorkspaceId
  alerts : Dict BenchmarkName AlertingSetting

inductive ConfigValue where
  | text (value : String)
  | texts (values : List String)
deriving DecidableEq

def ConfigValue.truthy : ConfigValue → Bool
  | .text value => value != ""
  | .texts values => values != []

abbrev MessagingConfig := List (String × ConfigValue)

structure NotificationProviderConfig where
  workspaceId : WorkspaceId
  provider : NotificationProvider
  name : String
  messagingConfig : MessagingConfig
deriving DecidableEq

def NotificationProviderConfig.key (c : NotificationProviderConfig) : WorkspaceId × NotificationProvider :=
  (c.workspaceId, c.provider)

def NotificationProviderConfig.readableConfig (c : NotificationProviderConfig) : MessagingConfig :=
  match (c.messagingConfig.lookup "email").filter (·.truthy) with
  | some email => [("email", email)]
  | none => []

structure StateToken where
  userId : UserId
  workspaceId : WorkspaceId
  exp : Nat
deriving DecidableEq

structure AlertNotificationSetupUpdated where
  tenantId : WorkspaceId
  userId : UserId
  provider : NotificationProvider
deriving DecidableEq

/-- `issued` has the state tokens that the server made, each with the user who asked for it as the user was then; the
server itself keeps nothing of them. -/
structure NotificationStore where
  access : AccessStore
  providerConfigs : Table NotificationProviderConfig.key
  alerts : Table WorkspaceAlert.workspaceId
  published : List AlertNotificationSetupUpdated
  issued : List (StateToken × User)

/-! ## The service -/

inductive RouteErr where
  | http (e : HttpException)
  | valueError (msg : String)
  | raised
deriving DecidableEq

abbrev Routes := Call RouteErr NotificationStore

/-- What a request gets from outside: whether its event is published, the benchmarks that the inventory answers if the
workspace has a database, and whether a message is sent with a configuration. -/
structure Outside where
  publishes : Bool
  database : Option (Option (List BenchmarkName))
  sends : NotificationProvider → MessagingConfig → Bool

def listNotificationProviderConfigs (workspaceId : WorkspaceId) :
    Routes (List (NotificationProvider × MessagingConfig)) := do
  let s ← get
  return (s.providerConfigs.rows.filter fun c => decide (c.workspaceId = workspaceId)).map fun c =>
    (c.provider, ("name", .text c.name) :: c.readableConfig)

/-- The alerts after the channel is taken out of each of them. -/
def withoutChannel (provider : NotificationProvider) (alerts : Dict BenchmarkName AlertingSetting) :
    Dict BenchmarkName AlertingSetting :=
  Table.updateWhere alerts (fun x => decide (provider ∈ x.2.channels))
    (fun x => (x.1, { x.2 with channels := x.2.channels.erase provider })) (fun _ => rfl)

def setAlertingForWorkspace (alert : WorkspaceAlert) : Routes PUnit :=
  modify fun s => { s with alerts := s.alerts.put alert }

def deleteNotificationProviderConfig (workspaceId : WorkspaceId) (provider : NotificationProvider) : Routes PUnit := do
  let s ← get
  match s.alerts.find workspaceId with
  | some alerting =>
    if alerting.alerts.rows.any fun x => decide (provider ∈ x.2.channels) then
      setAlertingForWorkspace { alerting with alerts := withoutChannel provider alerting.alerts }
  | none => pure ⟨⟩
  modify fun s => { s with providerConfigs := s.providerConfigs.delete (workspaceId, provider) }

def updateMessagingConfigForWorkspace (workspaceId : WorkspaceId) (provider : NotificationProvider) (name : String)
    (config : MessagingConfig) : Routes PUnit :=
  modify fun s => { s with
    providerConfigs := s.providerConfigs.put ⟨workspaceId, provider, String.ofList (name.toList.take 63), config⟩ }

def publishSetupUpdated (outside : Outside) (event : AlertNotificationSetupUpdated) : Routes PUnit :=
  if outside.publishes then modify fun s => { s with published := s.published ++ [event] } else throw .raised

def updateNotificationProviderConfig (outside : Outside) (workspaceId : WorkspaceId) (userId : UserId)
    (provider : NotificationProvider) (name : String) (config : MessagingConfig) : Routes PUnit := do
  publishSetupUpdated outside ⟨workspaceId, userId, provider⟩
  updateMessagingConfigForWorkspace workspaceId provider name config

/-- `NotificationService.update_alerting_for`; the channels are members of the enumeration already. -/
def serviceUpdateAlertingFor (outside : Outside) (alert : WorkspaceAlert) : Routes PUnit :=
  match outside.database with
  | some none => throw .raised
  | some (some benchmarkIds) =>
    match alert.alerts.rows.find? fun x => decide (x.1 ∉ benchmarkIds) with
    | some (benchmark, _) => throw (.valueError s!"Benchmark {benchmark} not found")
    | none => setAlertingForWorkspace alert
  | none => throw (.valueError s!"Workspace {alert.workspaceId} does not have GraphDbAccess?")

def serviceSendTestAlert (outside : Outside) (workspaceId : WorkspaceId) (provider : NotificationProvider) :
    Routes PUnit := do
  let s ← get
  match outside.database, s.providerConfigs.find (workspaceId, provider) with
  | some _, some cfg =>
    -- an empty configuration is falsy, and nothing is sent
    if cfg.messagingConfig = [] ∨ outside.sends provider cfg.messagingConfig then pure ⟨⟩ else throw .raised
  | _, _ => pure ⟨⟩

/-! ## Requests -/

/-- The state that a callback presents: a token under the audience of the states, one under another audience, or no
token.  Only the server signs tokens. -/
inductive StateParam where
  | token (t : StateToken)
  | otherAudience
  | malformed
deriving DecidableEq

structure Confirm where
  code : Option String
  state : Option StateParam
  error : Option String

structure SlackHook where
  accessToken : String
  url : String
  channel : String

/-- What Slack answers: nothing that can be read, or a body, the hook in it if all its entries are there. -/
inductive SlackAnswer where
  | failed
  | body (ok : Bool) (hook : Option SlackHook)

/-- What Discord answers: nothing, a body without a hook, or a hook, with its URL if it is there. -/
inductive DiscordAnswer where
  | raised
  | failed
  | hook (url : Option String)

inductive Route where
  | notifications (workspaceId : WorkspaceId)
  | addSlack (workspaceId : WorkspaceId)
  | addSlackConfirm (query : Confirm) (answer : SlackAnswer)
  | addDiscord (workspaceId : WorkspaceId)
  | addDiscordConfirm (query : Confirm) (answer : DiscordAnswer)
  | addPagerduty (workspaceId : WorkspaceId) (name integrationKey : String)
  | addOpsgenie (workspaceId : WorkspaceId) (name apiKey : String)
  | addTeams (workspaceId : WorkspaceId) (name webhookUrl : String)
  | addEmail (workspaceId : WorkspaceId) (name : String) (email : List String)
  | alertingFor (workspaceId : WorkspaceId)
  | updateAlertingFor (workspaceId : WorkspaceId) (setting : Dict BenchmarkName AlertingSetting)
  | deleteChannel (workspaceId : WorkspaceId) (channel : NotificationProvider)
  | sendTestAlert (workspaceId : WorkspaceId) (channel : NotificationProvider)

structure Request where
  session : Option SessionToken
  now : DateTime
  outside : Outside
  route : Route

inductive Response where
  | redirect (location : String)
  | authorize (url scope : String) (state : StateToken)
  | configs (configs : List (NotificationProvider × MessagingConfig))
  | alerts (alerts : List (BenchmarkName × AlertingSetting))
  | noContent
  | unprocessable (error : String)
  | refused (e : HttpException)
  | internalServerError
deriving DecidableEq

/-! ## The routes -/

def authenticated (access : AccessStore) (r : Request) : Except HttpException User :=
  match r.session with
  | none => .error ⟨401, .text "Unauthorized"⟩
  | some session => currentUser access r.now session

def authenticatedUser (r : Request) : Routes User := do
  let s ← get
  lift ((authenticated s.access r).mapError .http)

def requirePermission (p : WorkspacePermission) (user : User) (workspaceId : WorkspaceId) : Routes PUnit :=
  lift ((workspacePermissionChecker (mask p) user workspaceId).mapError .http)

def notifications (r : Request) (workspaceId : WorkspaceId) : Routes Response := do
  let user ← authenticatedUser r
  requirePermission .readSettings user workspaceId
  return .configs (← listNotificationProviderConfigs workspaceId)

/-- `generate_state_token`, a token for thirty minutes. -/
def generateStateToken (now : DateTime) (user : User) (workspaceId : WorkspaceId) : Routes StateToken := do
  let token : StateToken := ⟨user.id, workspaceId, now.toMicros / secondMicros + 30 * 60⟩
  modify fun s => { s with issued := s.issued ++ [(token, user)] }
  return token

/-- `decode_jwt` with the audience of the states; none for the errors that the callbacks catch. -/
def decodeState (now : DateTime) (state : StateParam) : Routes (Option StateToken) := do
  let s ← get
  match state with
  | .token t =>
    if t ∈ s.issued.map Prod.fst then return if t.exp * secondMicros ≤ now.toMicros then none else some t
    else return none
  | .otherAudience => throw .raised
  | .malformed => return none

def addSlack (r : Request) (workspaceId : WorkspaceId) : Routes Response := do
  let user ← authenticatedUser r
  requirePermission .readSettings user workspaceId
  let state ← generateStateToken r.now user workspaceId
  return .authorize "https://slack.com/oauth/v2/authorize" "incoming-webhook" state

def addDiscord (r : Request) (workspaceId : WorkspaceId) : Routes Response := do
  let user ← authenticatedUser r
  requirePermission .updateSettings user workspaceId
  let state ← generateStateToken r.now user workspaceId
  return .authorize "https://discord.com/api/oauth2/authorize" "webhook.incoming" state

/-- What the two callbacks do: `message` names the provider in the redirects, and `store` goes on with a valid state. -/
def confirmWith (r : Request) (query : Confirm) (message : String) (store : StateToken → Routes Response) :
    Routes Response := do
  let errorRedirect := Response.redirect s!"/workspace-settings?message={message}&outcome=error"
  match query.error, query.state, query.code with
  | none, some state, some _ =>
    match ← decodeState r.now state with
    | none => return errorRedirect
    | some token => store token
  | _, _, _ => return errorRedirect

def addSlackConfirm (r : Request) (query : Confirm) (answer : SlackAnswer) : Routes Response :=
  confirmWith r query "slack_added" fun token => do
    match answer with
    | .body true (some hook) =>
      let config := [("access_token", .text hook.accessToken), ("webhook_url", .text hook.url),
        ("channel", .text hook.channel)]
      updateNotificationProviderConfig r.outside token.workspaceId token.userId .slack hook.channel config
      return .redirect s!"/workspace-settings?message=slack_added&outcome=success#{token.workspaceId}"
    | .body true none => throw .raised
    | .body false _ | .failed =>
      return .redirect s!"/workspace-settings?message=slack_added&outcome=error#{token.workspaceId}"

def addDiscordConfirm (r : Request) (query : Confirm) (answer : DiscordAnswer) : Routes Response :=
  confirmWith r query "discord_added" fun token => do
    match answer with
    | .hook (some url) =>
      updateNotificationProviderConfig r.outside token.workspaceId token.userId .discord "alert"
        [("webhook_url", .text url)]
      return .redirect s!"/workspace-settings?message=discord_added&outcome=success#{token.workspaceId}"
    | .hook none | .raised => throw .raised
    | .failed => return .redirect s!"/workspace-settings?message=discord_added&outcome=error#{token.workspaceId}"

/-- What the routes do that store a configuration at once, `given` telling that its fields are not empty. -/
def addProvider (provider : NotificationProvider) (missing : String) (given : Bool)
    (config : MessagingConfig) (r : Request)
    (workspaceId : WorkspaceId) (name : String) : Routes Response := do
  let user ← authenticatedUser r
  requirePermission .updateSettings user workspaceId
  if name = "" ∨ given = false then throw (.http ⟨400, .text missing⟩)
  else
    updateNotificationProviderConfig r.outside workspaceId user.id provider name config
    return .noContent

def addPagerduty (r : Request) (workspaceId : WorkspaceId) (name integrationKey : String) : Routes Response :=
  addProvider .pagerduty "Missing integration key" (integrationKey != "") [("integration_key", .text integrationKey)] r
    workspaceId name

def addOpsgenie (r : Request) (workspaceId : WorkspaceId) (name apiKey : String) : Routes Response :=
  addProvider .opsgenie "Missing api key" (apiKey != "") [("api_key", .text apiKey)] r workspaceId name

def addTeams (r : Request) (workspaceId : WorkspaceId) (name webhookUrl : String) : Routes Response :=
  addProvider .teams "Missing name or webhook URL" (webhookUrl != "") [("webhook_url", .text webhookUrl)] r
    workspaceId name

def addEmail (r : Request) (workspaceId : WorkspaceId) (name : String) (email : List String) : Routes Response :=
  addProvider .email "Missing name or email address" (email != []) [("email", .texts email)] r workspaceId name

def alertingFor (r : Request) (workspaceId : WorkspaceId) : Routes Response := do
  let _ ← authenticatedUser r
  let s ← get
  return .alerts (((s.alerts.find workspaceId).map (·.alerts.rows)).getD [])

def updateAlertingFor (r : Request) (workspaceId : WorkspaceId) (setting : Dict BenchmarkName AlertingSetting) :
    Routes Response := do
  let user ← authenticatedUser r
  requirePermission .updateSettings user workspaceId
  tryCatch (do serviceUpdateAlertingFor r.outside ⟨workspaceId, setting⟩; return .noContent) fun
    | .valueError msg => return .unprocessable msg
    | e => throw e

def deleteChannel (r : Request) (workspaceId : WorkspaceId) (channel : NotificationProvider) : Routes Response := do
  let user ← authenticatedUser r
  requirePermission .updateSettings user workspaceId
  deleteNotificationProviderConfig workspaceId channel
  return .noContent

def sendTestAlert (r : Request) (workspaceId : WorkspaceId) (channel : NotificationProvider) : Routes Response := do
  let user ← authenticatedUser r
  requirePermission .updateSettings user workspaceId
  serviceSendTestAlert r.outside workspaceId channel
  return .noContent

def handle (r : Request) : Routes Response :=
  match r.route with
  | .notifications workspaceId => notifications r workspaceId
  | .addSlack workspaceId => addSlack r workspaceId
  | .addSlackConfirm query answer => addSlackConfirm r query answer
  | .addDiscord workspaceId => addDiscord r workspaceId
  | .addDiscordConfirm query answer => addDiscordConfirm r query answer
  | .addPagerduty workspaceId name integrationKey => addPagerduty r workspaceId name integrationKey
  | .addOpsgenie workspaceId name apiKey => addOpsgenie r workspaceId name apiKey
  | .addTeams workspaceId name webhookUrl => addTeams r workspaceId name webhookUrl
  | .addEmail workspaceId name email => addEmail r workspaceId name email
  | .alertingFor workspaceId => alertingFor r workspaceId
  | .updateAlertingFor workspaceId setting => updateAlertingFor r workspaceId setting
  | .deleteChannel workspaceId channel => deleteChannel r workspaceId channel
  | .sendTestAlert workspaceId channel => sendTestAlert r workspaceId channel

def responseTo : Except RouteErr Response → Response
  | .ok response => response
  | .error (.http e) => .refused e
  | .error _ => .internalServerError

def respond (r : Request) (s : NotificationStore) : Response := responseTo (exec (handle r) s).1

/-- A request, or a change of the users and their roles. -/
inductive Move where
  | request (r : Request)
  | elsewhere (access : AccessStore)

def step (s : NotificationStore) : Move → Option NotificationStore
  | .request r => some (exec (handle r) s).2
  | .elsewhere access => some { s with access := access }

/-! ## The settings are guarded -/

def NotificationStore.configs (s : NotificationStore) (workspaceId : WorkspaceId) : List NotificationProviderConfig :=
  s.providerConfigs.rows.filter fun c => decide (c.workspaceId = workspaceId)

def NotificationStore.settings (s : NotificationStore) (workspaceId : WorkspaceId) :
    List NotificationProviderConfig × Option WorkspaceAlert :=
  (s.configs workspaceId, s.alerts.find workspaceId)

def Route.query : Route → Option Confirm
  | .addSlackConfirm query _ | .addDiscordConfirm query _ => some query
  | _ => none

/-- The user started the flow of the request: asked for the token that a callback presents, or makes the request. -/
def StartedBy (s : NotificationStore) (r : Request) (user : User) : Prop :=
  match r.route.query with
  | some query => ∃ t, query.state = some (.token t) ∧ (t, user) ∈ s.issued
  | none => authenticated s.access r = .ok user

/-- The settings of a workspace change only through a flow of a user with the permission to update them. -/
def ChangesGuarded (s : NotificationStore) (r : Request) : Prop :=
  ∀ workspaceId, (exec (handle r) s).2.settings workspaceId ≠ s.settings workspaceId →
    ∃ user, StartedBy s r user ∧ user.permitted workspaceId .updateSettings = true

/-- Two stores differ in the settings of one workspace only. -/
structure DifferAt (workspaceId : WorkspaceId) (s s' : NotificationStore) : Prop where
  access : s.access = s'.access
  issued : s.issued = s'.issued
  elsewhere : ∀ other, other ≠ workspaceId → s.settings other = s'.settings other

/-- A response depends on the settings of a workspace only when the user may read them. -/
def RevealsGuarded (s : NotificationStore) (r : Request) : Prop :=
  ∀ workspaceId s', DifferAt workspaceId s s' → respond r s ≠ respond r s' →
    ∃ user, authenticated s.access r = .ok user ∧ user.permitted workspaceId .readSettings = true

def Guarded (s : NotificationStore) : Move → Prop
  | .request r => ChangesGuarded s r ∧ RevealsGuarded s r
  | .elsewhere _ => True

/-- Who asks for the token of Slack, or for the alert settings, may update, or may read, the settings of the
workspace. -/
def Route.AskedBy (user : User) : Route → Prop
  | .addSlack workspaceId =>
    user.permitted workspaceId .readSettings = true → user.permitted workspaceId .updateSettings = true
  | .alertingFor workspaceId => user.permitted workspaceId .readSettings = true
  | _ => True

instance (user : User) (route : Route) : Decidable (route.AskedBy user) := by
  cases route <;> unfold Route.AskedBy <;> infer_instance

def AskedWithPermission (s : NotificationStore) : Move → Prop
  | .request r => ∀ user ∈ (authenticated s.access r).toOption, r.route.AskedBy user
  | .elsewhere _ => True

instance decidableAskedWithPermission (s : NotificationStore) (move : Move) :
    Decidable (AskedWithPermission s move) := by
  cases move <;> unfold AskedWithPermission <;> infer_instance

/-! ## The settings of one workspace -/

section Settings

variable {s s' : NotificationStore} {workspaceId : WorkspaceId}

theorem configs_put (t : Table NotificationProviderConfig.key) {c : NotificationProviderConfig}
    (hc : c.workspaceId ≠ workspaceId) :
    (t.put c).rows.filter (fun x => decide (x.workspaceId = workspaceId)) =
      t.rows.filter fun x => decide (x.workspaceId = workspaceId) := by
  have hnot : decide (c.workspaceId = workspaceId) = false := decide_eq_false hc
  unfold Table.put
  split
  · rw [show (t.insert c _).rows = t.rows ++ [c] from rfl, List.filter_append, List.filter_singleton, hnot,
      Bool.cond_false,
      List.append_nil]
  · show (t.rows.map _).filter _ = _
    induction t.rows with
    | nil => rfl
    | cons x xs ih =>
      rw [List.map_cons, List.filter_cons, List.filter_cons, ih]
      split
      · rename_i hkey
        have hx : x.workspaceId = c.workspaceId := congrArg Prod.fst hkey
        rw [hx, hnot, if_neg Bool.false_ne_true, if_neg Bool.false_ne_true]
      · rfl

theorem configs_delete (t : Table NotificationProviderConfig.key) {k : WorkspaceId × NotificationProvider}
    (hk : k.1 ≠ workspaceId) :
    (t.delete k).rows.filter (fun x => decide (x.workspaceId = workspaceId)) =
      t.rows.filter fun x => decide (x.workspaceId = workspaceId) := by
  show (t.rows.filter _).filter _ = _
  rw [List.filter_filter]
  apply List.filter_congr
  intro x _
  by_cases hx : x.workspaceId = workspaceId
  · have hkey : x.key ≠ k := fun h => hk ((congrArg Prod.fst h).symm.trans hx)
    simp [hx, hkey]
  · simp [hx]

/-! ## What a handler changes and reads -/

/-- A call that changes the settings of some workspaces only, and whose answer depends on those of some only. -/
structure Within (s : NotificationStore) (reads writes : Set WorkspaceId) (m : Routes Response) : Prop where
  frame : ∀ w, w ∉ writes → (exec m s).2.settings w = s.settings w
  same : ∀ s', s.access = s'.access → s.issued = s'.issued → (∀ w ∈ reads, s.settings w = s'.settings w) →
    (exec m s).1 = (exec m s').1

/-- Whatever the answer depends on beside the settings decides it, and nothing is stored. -/
theorem within_of_decided {reads writes : Set WorkspaceId} {m : Routes Response} {x : Except RouteErr Response}
    (h : ∀ s', s.access = s'.access → s.issued = s'.issued → exec m s' = (x, s')) : Within s reads writes m :=
  ⟨fun _ _ => by rw [h s rfl rfl], fun s' ha hi _ => by rw [h s rfl rfl, h s' ha hi]⟩

theorem Within.congr {reads writes : Set WorkspaceId} {m m' : Routes Response} (hm : Within s reads writes m)
    (h : ∀ s', s.access = s'.access → s.issued = s'.issued → exec m' s' = exec m s') : Within s reads writes m' :=
  ⟨fun w hw => by rw [h s rfl rfl, hm.frame w hw],
    fun s' ha hi hr => by rw [h s rfl rfl, h s' ha hi, hm.same s' ha hi hr]⟩

theorem within_updateConfig (outside : Outside) (userId : UserId) (provider : NotificationProvider) (name : String)
    (config : MessagingConfig) (response : Response) :
    Within s ∅ {workspaceId} (do
      updateNotificationProviderConfig outside workspaceId userId provider name config
      return response) := by
  have hexec : ∀ s', exec (do
      updateNotificationProviderConfig outside workspaceId userId provider name config
      return response) s' = if outside.publishes then (.ok response, { s' with
        published := s'.published ++ [⟨workspaceId, userId, provider⟩]
        providerConfigs := s'.providerConfigs.put
          ⟨workspaceId, provider, String.ofList (name.toList.take 63), config⟩ }) else (.error .raised, s') :=
            fun s' => by
    unfold updateNotificationProviderConfig publishSetupUpdated
    by_cases hp : outside.publishes = true
    · simp only [hp, if_true, exec_bind, exec_modify, updateMessagingConfigForWorkspace, exec_pure]
    · simp only [hp, if_false, exec_bind, exec_throw, Bool.false_eq_true]
  refine ⟨fun w hw => ?_, fun s' _ _ _ => ?_⟩
  · rw [hexec]
    split
    · exact congrArg (·, s.alerts.find w) (configs_put s.providerConfigs (Ne.symm hw))
    · rfl
  · rw [hexec, hexec]
    split <;> rfl

theorem within_list :
    Within s {workspaceId} ∅ (do return .configs (← listNotificationProviderConfigs workspaceId)) := by
  refine ⟨fun w _ => rfl, fun s' _ _ hr => ?_⟩
  show (Except.ok (Response.configs (s.configs workspaceId |>.map _)) : Except RouteErr Response) =
    .ok (.configs (s'.configs workspaceId |>.map _))
  rw [show s.configs workspaceId = s'.configs workspaceId from congrArg Prod.fst (hr workspaceId rfl)]

theorem within_alerts : Within s {workspaceId} ∅ (do
    let s ← get
    return .alerts (((s.alerts.find workspaceId).map (·.alerts.rows)).getD [])) := by
  refine ⟨fun w _ => rfl, fun s' _ _ hr => ?_⟩
  have halerts : s.alerts.find workspaceId = s'.alerts.find workspaceId := congrArg Prod.snd (hr workspaceId rfl)
  show (Except.ok (Response.alerts (((s.alerts.find workspaceId).map _).getD [])) : Except RouteErr Response) =
    .ok (.alerts (((s'.alerts.find workspaceId).map _).getD []))
  rw [halerts]

theorem alerts_put_of_ne (alert : WorkspaceAlert) {w : WorkspaceId} (hw : w ≠ alert.workspaceId) :
    ({ s with alerts := s.alerts.put alert } : NotificationStore).settings w = s.settings w :=
  congrArg (s.configs w, ·) (Table.find_put_of_ne s.alerts hw)

theorem within_updateAlertingFor (outside : Outside) (alert : WorkspaceAlert) :
    Within s ∅ {alert.workspaceId} (tryCatch (do serviceUpdateAlertingFor outside alert; return .noContent) fun
      | .valueError msg => return .unprocessable msg
      | e => throw e) := by
  unfold serviceUpdateAlertingFor
  cases outside.database with
  | none => exact within_of_decided fun _ _ _ => rfl
  | some answer =>
    cases answer with
    | none => exact within_of_decided fun _ _ _ => rfl
    | some benchmarkIds =>
      dsimp only
      cases alert.alerts.rows.find? fun x => decide (x.1 ∉ benchmarkIds) with
      | some x => exact within_of_decided fun _ _ _ => rfl
      | none => exact ⟨fun w hw => alerts_put_of_ne alert hw, fun _ _ _ _ => rfl⟩

theorem within_deleteConfig (channel : NotificationProvider) : Within s ∅ {workspaceId} (do
    deleteNotificationProviderConfig workspaceId channel
    return .noContent) := by
  have hexec : ∀ s', ∃ alerts, exec (do
      deleteNotificationProviderConfig workspaceId channel
      return Response.noContent : Routes Response) s' = (.ok .noContent, { s' with
        alerts := alerts
        providerConfigs := s'.providerConfigs.delete (workspaceId, channel) }) ∧
      ∀ w ≠ workspaceId, alerts.find w = s'.alerts.find w := fun s' => by
    unfold deleteNotificationProviderConfig
    rw [exec_bind, exec_bind, exec_get]
    dsimp only
    cases halerting : s'.alerts.find workspaceId with
    | none => exact ⟨s'.alerts, rfl, fun _ _ => rfl⟩
    | some alerting =>
      have hid : alerting.workspaceId = workspaceId := Table.key_of_find halerting
      by_cases hany : (alerting.alerts.rows.any fun x => decide (channel ∈ x.2.channels)) = true
      · simp only [hany, if_true]
        exact ⟨_, rfl, fun w hw => Table.find_put_of_ne s'.alerts (hid ▸ hw)⟩
      · simp only [hany]
        exact ⟨s'.alerts, rfl, fun _ _ => rfl⟩
  refine ⟨fun w hw => ?_, fun s' _ _ _ => ?_⟩
  · obtain ⟨alerts, h, halerts⟩ := hexec s
    rw [h]
    exact Prod.ext (configs_delete s.providerConfigs (Ne.symm hw)) (halerts w hw)
  · obtain ⟨_, h, -⟩ := hexec s
    obtain ⟨_, h', -⟩ := hexec s'
    rw [h, h']

theorem find_of_configs {t t' : Table NotificationProviderConfig.key} {k : WorkspaceId × NotificationProvider}
    (h : t.rows.filter (fun c => decide (c.workspaceId = k.1)) = t'.rows.filter fun c => decide (c.workspaceId = k.1)) :
    t.find k = t'.find k := by
  have hfilter : ∀ t : Table NotificationProviderConfig.key,
      t.find k = (t.rows.filter fun c => decide (c.workspaceId = k.1)).find? fun c => decide (c.key = k) := fun t => by
    unfold Table.find
    rw [List.find?_filter]
    congr 1
    funext c
    by_cases hc : c.key = k
    · have hfst : c.workspaceId = k.1 := congrArg Prod.fst hc
      simp [hc, hfst]
    · simp [hc]
  rw [hfilter, hfilter, h]

theorem within_sendTestAlert (outside : Outside) (channel : NotificationProvider) : Within s {workspaceId} ∅ (do
    serviceSendTestAlert outside workspaceId channel
    return .noContent) := by
  have hrests : ∀ s', (exec (serviceSendTestAlert outside workspaceId channel) s').2 = s' := fun s' => by
    unfold serviceSendTestAlert
    rw [exec_bind, exec_get]
    dsimp only
    split
    · split <;> rfl
    · rfl
  have hafter : ∀ s', exec (do
      serviceSendTestAlert outside workspaceId channel
      return Response.noContent : Routes Response) s' =
      ((exec (serviceSendTestAlert outside workspaceId channel) s').1.map fun _ => .noContent, s') := fun s' => by
    have hrest := hrests s'
    rw [exec_bind]
    generalize exec (serviceSendTestAlert outside workspaceId channel) s' = result at hrest
    obtain ⟨x, s₁⟩ := result
    subst hrest
    cases x <;> rfl
  refine ⟨fun w _ => by rw [hafter], fun s' _ _ hr => ?_⟩
  have hconfigs : s.configs workspaceId = s'.configs workspaceId := congrArg Prod.fst (hr workspaceId rfl)
  have hfind := @find_of_configs s.providerConfigs s'.providerConfigs (workspaceId, channel) hconfigs
  rw [hafter, hafter]
  unfold serviceSendTestAlert
  rw [exec_bind, exec_bind, exec_get, exec_get]
  dsimp only
  rw [hfind]
  split
  · split <;> rfl
  · rfl

end Settings

/-! ## Who is asked -/

theorem exec_authenticatedUser (r : Request) (body : User → Routes Response) (s : NotificationStore) :
    exec (authenticatedUser r >>= body) s = match authenticated s.access r with
      | .error e => (.error (.http e), s)
      | .ok user => exec (body user) s := by
  rw [exec_bind, authenticatedUser, exec_bind, exec_get]
  dsimp only
  rw [exec_lift]
  cases authenticated s.access r <;> rfl

/-- **Either the checker has the answer, or the user has the permission and the handler goes on.** -/
theorem exec_requirePermission {p : WorkspacePermission} {user : User} {workspaceId : WorkspaceId}
    (body : Routes Response) :
    (∃ x, ∀ s, exec (requirePermission p user workspaceId >>= fun _ => body) s = (x, s)) ∨
      user.permitted workspaceId p = true ∧
        ∀ s, exec (requirePermission p user workspaceId >>= fun _ => body) s = exec body s := by
  unfold requirePermission
  cases hchecker : workspacePermissionChecker (mask p) user workspaceId with
  | error e =>
    refine .inl ⟨.error (.http e), fun s => ?_⟩
    rw [exec_bind, exec_lift]
    rfl
  | ok u =>
    refine .inr ⟨checker_eq_ok_iff.1 hchecker p ((has_mask p p).trans (decide_eq_true rfl)), fun s => ?_⟩
    rw [exec_bind, exec_lift]
    rfl

theorem reads_of_updates {user : User} {workspaceId : WorkspaceId}
    (h : user.permitted workspaceId .updateSettings = true) : user.permitted workspaceId .readSettings = true := by
  obtain ⟨role, hrole, hworkspace, hhas⟩ := permitted_iff.1 h
  refine permitted_iff.2 ⟨role, hrole, hworkspace, ?_⟩
  obtain ⟨name, hname, hgrants⟩ := has_permissionsOf.1 hhas
  refine has_permissionsOf.2 ⟨name, hname, ?_⟩
  revert hgrants
  cases name <;> decide

/-- What a request changes it may change, and what its answer depends on its user may read. -/
def Covered (s : NotificationStore) (r : Request) : Prop :=
  ∃ reads writes, Within s reads writes (handle r) ∧
    (∀ w ∈ writes, ∃ user, StartedBy s r user ∧ user.permitted w .updateSettings = true) ∧
    ∀ w ∈ reads, ∃ user, authenticated s.access r = .ok user ∧ user.permitted w .readSettings = true

theorem guarded_of_covered {s : NotificationStore} {r : Request} (h : Covered s r) : Guarded s (.request r) := by
  obtain ⟨reads, writes, hwithin, hwrites, hreads⟩ := h
  refine ⟨fun w hne => ?_, fun w s' hdiffer hne => ?_⟩
  · by_cases hw : w ∈ writes
    · exact hwrites w hw
    · exact absurd (hwithin.frame w hw) hne
  · by_cases hw : w ∈ reads
    · exact hreads w hw
    · refine absurd (congrArg responseTo (hwithin.same s' hdiffer.access hdiffer.issued fun w' hw' => ?_)) hne
      exact hdiffer.elsewhere w' fun h => hw (h ▸ hw')

theorem covered_of_decided {s : NotificationStore} {r : Request} {x : Except RouteErr Response}
    (h : ∀ s', s.access = s'.access → s.issued = s'.issued → exec (handle r) s' = (x, s')) : Covered s r :=
  ⟨∅, ∅, within_of_decided h, fun _ hw => absurd hw (Set.notMem_empty _), fun _ hw => absurd hw (Set.notMem_empty _)⟩

/-- A route without a callback whose handler asks for a permission first. -/
theorem covered_withPermission {s : NotificationStore} {r : Request} {p : WorkspacePermission}
    {workspaceId : WorkspaceId}
    {body : User → Routes Response} {reads writes : Set WorkspaceId} (hquery : r.route.query = none)
    (hhandle : handle r = authenticatedUser r >>= fun user => requirePermission p user workspaceId >>=
      fun _ => body user)
    (hbody : ∀ user, Within s reads writes (body user))
    (hp : p = .updateSettings ∨ p = .readSettings ∧ writes = ∅)
    (hwrites : writes ⊆ {workspaceId}) (hreads : reads ⊆ {workspaceId}) : Covered s r := by
  cases hauth : authenticated s.access r with
  | error e =>
    refine @covered_of_decided s r (.error (.http e)) fun s' haccess _ => ?_
    rw [hhandle, exec_authenticatedUser, ← haccess, hauth]
  | ok user =>
    rcases @exec_requirePermission p user workspaceId (body user) with ⟨x, hx⟩ | ⟨hpermitted, hgoes⟩
    · refine @covered_of_decided s r x fun s' haccess _ => ?_
      rw [hhandle, exec_authenticatedUser, ← haccess, hauth]
      exact hx s'
    · refine ⟨reads, writes, (hbody user).congr fun s' haccess _ => ?_, fun w hw => ?_, fun w hw => ?_⟩
      · rw [hhandle, exec_authenticatedUser, ← haccess, hauth]
        exact hgoes s'
      · cases hwrites hw
        rcases hp with rfl | ⟨-, rfl⟩
        · refine ⟨user, ?_, hpermitted⟩
          unfold StartedBy
          rw [hquery]
          exact hauth
        · exact absurd hw (Set.notMem_empty _)
      · cases hreads hw
        refine ⟨user, hauth, ?_⟩
        rcases hp with rfl | ⟨rfl, -⟩
        · exact reads_of_updates hpermitted
        · exact hpermitted

/-- The users who asked for the state tokens had the permission to update the settings. -/
def IssuedToUpdaters (s : NotificationStore) : Prop :=
  ∀ x ∈ s.issued, x.2.permitted x.1.workspaceId .updateSettings = true

/-- **Either the callback has the answer, or it presents a token of the server and goes on.** -/
theorem exec_confirmWith (r : Request) (query : Confirm) (message : String) (store : StateToken → Routes Response)
    (s : NotificationStore) :
    (∃ x, ∀ s', s.issued = s'.issued → exec (confirmWith r query message store) s' = (x, s')) ∨
      ∃ t, query.state = some (.token t) ∧ t ∈ s.issued.map Prod.fst ∧
        ∀ s', s.issued = s'.issued → exec (confirmWith r query message store) s' = exec (store t) s' := by
  unfold confirmWith
  obtain ⟨code, state, error⟩ := query
  cases error with
  | some e => exact .inl ⟨_, fun _ _ => rfl⟩
  | none =>
    cases state with
    | none => exact .inl ⟨_, fun _ _ => rfl⟩
    | some state =>
      cases code with
      | none => exact .inl ⟨_, fun _ _ => rfl⟩
      | some code =>
        dsimp only
        unfold decodeState
        cases state with
        | otherAudience => exact .inl ⟨_, fun _ _ => rfl⟩
        | malformed => exact .inl ⟨_, fun _ _ => rfl⟩
        | token t =>
          by_cases hmem : t ∈ s.issued.map Prod.fst
          · by_cases hexp : t.exp * secondMicros ≤ r.now.toMicros
            · refine .inl ⟨.ok (.redirect s!"/workspace-settings?message={message}&outcome=error"), fun s' hi => ?_⟩
              rw [exec_bind, exec_bind, exec_get]
              dsimp only
              rw [if_pos (hi ▸ hmem), if_pos hexp]
              rfl
            · refine .inr ⟨t, rfl, hmem, fun s' hi => ?_⟩
              rw [exec_bind, exec_bind, exec_get]
              dsimp only
              rw [if_pos (hi ▸ hmem), if_neg hexp]
              rfl
          · refine .inl ⟨.ok (.redirect s!"/workspace-settings?message={message}&outcome=error"), fun s' hi => ?_⟩
            rw [exec_bind, exec_bind, exec_get]
            dsimp only
            rw [if_neg (hi ▸ hmem)]
            rfl

theorem covered_confirm {s : NotificationStore} {r : Request} {query : Confirm} {message : String}
    {store : StateToken → Routes Response} (hs : IssuedToUpdaters s) (hquery : r.route.query = some query)
    (hhandle : handle r = confirmWith r query message store)
    (hstore : ∀ t : StateToken, Within s ∅ {t.workspaceId} (store t)) : Covered s r := by
  rcases exec_confirmWith r query message store s with ⟨x, hx⟩ | ⟨t, hstate, hissued, hgoes⟩
  · exact covered_of_decided fun s' _ hi => hhandle ▸ hx s' hi
  · refine ⟨∅, {t.workspaceId}, (hstore t).congr fun s' _ hi => hhandle ▸ hgoes s' hi, fun w hw => ?_,
      fun w hw => absurd hw (Set.notMem_empty _)⟩
    cases hw
    obtain ⟨⟨t', user⟩, hmem, rfl⟩ := List.mem_map.1 hissued
    refine ⟨user, ?_, hs _ hmem⟩
    unfold StartedBy
    rw [hquery]
    exact ⟨t', hstate, hmem⟩

theorem within_authorize (r : Request) (user : User) (workspaceId : WorkspaceId) (url scope : String)
    {s : NotificationStore} : Within s ∅ ∅ (do
      let state ← generateStateToken r.now user workspaceId
      return .authorize url scope state) := ⟨fun _ _ => rfl, fun _ _ _ _ => rfl⟩

theorem covered_addProvider {s : NotificationStore} {r : Request} {provider : NotificationProvider} {missing : String}
    {given : Bool} {config : MessagingConfig} {workspaceId : WorkspaceId} {name : String}
    (hquery : r.route.query = none)
    (hhandle : handle r = addProvider provider missing given config r workspaceId name) : Covered s r := by
  have hbody : ∀ user : User, Within s ∅ {workspaceId} (
      if name = "" ∨ given = false then throw (.http ⟨400, .text missing⟩)
      else do
        updateNotificationProviderConfig r.outside workspaceId user.id provider name config
        return .noContent) := fun user => by
    split
    · exact within_of_decided fun _ _ _ => rfl
    · exact within_updateConfig _ _ _ _ _ _
  exact covered_withPermission hquery hhandle hbody (.inl rfl) (Set.Subset.refl _) (Set.empty_subset _)

/-- **Every route guards the settings**, when those two are asked by users with the permission. -/
theorem covered_request {s : NotificationStore} {r : Request} (hs : IssuedToUpdaters s)
    (hasked : AskedWithPermission s (.request r)) : Covered s r := by
  have hquery : ∀ route, r.route = route → route.query = none → r.route.query = none := fun _ h hnone => h ▸ hnone
  cases hroute : r.route with
  | notifications workspaceId =>
    have hhandle : handle r = notifications r workspaceId := by unfold handle; rw [hroute]
    exact covered_withPermission (hquery _ hroute rfl) hhandle (fun _ => within_list) (.inr ⟨rfl, rfl⟩)
      (Set.empty_subset _) (Set.Subset.refl _)
  | addSlack workspaceId =>
    have hhandle : handle r = addSlack r workspaceId := by unfold handle; rw [hroute]
    exact covered_withPermission (hquery _ hroute rfl) hhandle (fun user => within_authorize r user workspaceId _ _)
      (.inr ⟨rfl, rfl⟩) (Set.empty_subset _) (Set.empty_subset _)
  | addDiscord workspaceId =>
    have hhandle : handle r = addDiscord r workspaceId := by unfold handle; rw [hroute]
    exact covered_withPermission (hquery _ hroute rfl) hhandle (fun user => within_authorize r user workspaceId _ _)
      (.inl rfl) (Set.empty_subset _) (Set.empty_subset _)
  | addSlackConfirm query answer =>
    have hhandle : handle r = addSlackConfirm r query answer := by unfold handle; rw [hroute]
    refine covered_confirm hs (hroute ▸ rfl) hhandle fun t => ?_
    cases answer with
    | failed => exact within_of_decided fun _ _ _ => rfl
    | body ok hook =>
      cases ok <;> cases hook
      case true.some => exact within_updateConfig _ _ _ _ _ _
      all_goals exact within_of_decided fun _ _ _ => rfl
  | addDiscordConfirm query answer =>
    have hhandle : handle r = addDiscordConfirm r query answer := by unfold handle; rw [hroute]
    refine covered_confirm hs (hroute ▸ rfl) hhandle fun t => ?_
    cases answer with
    | raised => exact within_of_decided fun _ _ _ => rfl
    | failed => exact within_of_decided fun _ _ _ => rfl
    | hook url =>
      cases url with
      | none => exact within_of_decided fun _ _ _ => rfl
      | some url => exact within_updateConfig _ _ _ _ _ _
  | addPagerduty workspaceId name integrationKey =>
    exact covered_addProvider (hquery _ hroute rfl) (by unfold handle; rw [hroute]; rfl)
  | addOpsgenie workspaceId name apiKey =>
    exact covered_addProvider (hquery _ hroute rfl) (by unfold handle; rw [hroute]; rfl)
  | addTeams workspaceId name webhookUrl =>
    exact covered_addProvider (hquery _ hroute rfl) (by unfold handle; rw [hroute]; rfl)
  | addEmail workspaceId name email =>
    exact covered_addProvider (hquery _ hroute rfl) (by unfold handle; rw [hroute]; rfl)
  | alertingFor workspaceId =>
    have hhandle : handle r = alertingFor r workspaceId := by unfold handle; rw [hroute]
    cases hauth : authenticated s.access r with
    | error e =>
      refine @covered_of_decided s r (.error (.http e)) fun s' haccess _ => ?_
      rw [hhandle, alertingFor, exec_authenticatedUser, ← haccess, hauth]
    | ok user =>
      refine ⟨{workspaceId}, ∅, within_alerts.congr fun s' haccess _ => ?_, fun w hw => absurd hw (Set.notMem_empty _),
        fun w hw => ?_⟩
      · rw [hhandle, alertingFor, exec_authenticatedUser, ← haccess, hauth]
      · cases hw
        have hmay : r.route.AskedBy user := hasked user (by rw [hauth]; rfl)
        rw [hroute] at hmay
        exact ⟨user, hauth, hmay⟩
  | updateAlertingFor workspaceId setting =>
    have hhandle : handle r = updateAlertingFor r workspaceId setting := by unfold handle; rw [hroute]
    exact covered_withPermission (hquery _ hroute rfl) hhandle
      (fun _ => within_updateAlertingFor r.outside ⟨workspaceId, setting⟩) (.inl rfl) (Set.Subset.refl _)
        (Set.empty_subset _)
  | deleteChannel workspaceId channel =>
    have hhandle : handle r = deleteChannel r workspaceId channel := by unfold handle; rw [hroute]
    exact covered_withPermission (hquery _ hroute rfl) hhandle (fun _ => within_deleteConfig channel) (.inl rfl)
      (Set.Subset.refl _) (Set.empty_subset _)
  | sendTestAlert workspaceId channel =>
    have hhandle : handle r = sendTestAlert r workspaceId channel := by unfold handle; rw [hroute]
    exact covered_withPermission (hquery _ hroute rfl) hhandle
      (fun _ => within_sendTestAlert r.outside channel) (.inl rfl)
      (Set.empty_subset _) (Set.Subset.refl _)

/-! ## The state tokens -/

theorem keeps_authenticatedUser {I : NotificationStore → Prop} (r : Request) : Keeps I (authenticatedUser r) :=
  Keeps.bind Keeps.get fun _ => Keeps.lift _

theorem keeps_requirePermission {I : NotificationStore → Prop} (p : WorkspacePermission) (user : User)
    (workspaceId : WorkspaceId) : Keeps I (requirePermission p user workspaceId) := Keeps.lift _

theorem keeps_updateConfig (outside : Outside) (workspaceId : WorkspaceId) (userId : UserId)
    (provider : NotificationProvider) (name : String) (config : MessagingConfig) :
    Keeps IssuedToUpdaters (updateNotificationProviderConfig outside workspaceId userId provider name config) := by
  refine Keeps.bind ?_ fun _ => Keeps.modify _ fun _ hs => hs
  unfold publishSetupUpdated
  split
  · exact Keeps.modify _ fun _ hs => hs
  · exact Keeps.throw _

theorem keeps_withPermission {r : Request} {p : WorkspacePermission} {workspaceId : WorkspaceId}
    {body : User → Routes Response} (hbody : ∀ user, Keeps IssuedToUpdaters (body user)) :
    Keeps IssuedToUpdaters
      (authenticatedUser r >>= fun user => requirePermission p user workspaceId >>= fun _ => body user) :=
  Keeps.bind (keeps_authenticatedUser r) fun user =>
    Keeps.bind (keeps_requirePermission p user workspaceId) fun _ => hbody user

theorem keeps_confirmWith {r : Request} {query : Confirm} {message : String} {store : StateToken → Routes Response}
    (hstore : ∀ t, Keeps IssuedToUpdaters (store t)) : Keeps IssuedToUpdaters (confirmWith r query message store) := by
  unfold confirmWith
  dsimp only
  split
  · refine Keeps.bind ?_ fun decoded => ?_
    · refine Keeps.bind Keeps.get fun s => ?_
      split
      · split <;> exact Keeps.pure _
      · exact Keeps.throw _
      · exact Keeps.pure _
    · cases decoded with
      | none => exact Keeps.pure _
      | some t => exact hstore t
  · exact Keeps.pure _

theorem keeps_addProvider (provider : NotificationProvider) (missing : String) (given : Bool) (config : MessagingConfig)
    (r : Request) (workspaceId : WorkspaceId) (name : String) :
    Keeps IssuedToUpdaters (addProvider provider missing given config r workspaceId name) := by
  refine keeps_withPermission fun user => ?_
  split
  · exact Keeps.throw _
  · exact Keeps.bind (keeps_updateConfig _ _ _ _ _ _) fun _ => Keeps.pure _

theorem issuedToUpdaters_start {s : NotificationStore} (hs : IssuedToUpdaters s) {r : Request} {p : WorkspacePermission}
    {workspaceId : WorkspaceId} (url scope : String) (hp : ∀ user, authenticated s.access r = .ok user →
      user.permitted workspaceId p = true → user.permitted workspaceId .updateSettings = true) :
    IssuedToUpdaters (exec (authenticatedUser r >>= fun user => requirePermission p user workspaceId >>= fun _ => do
      let state ← generateStateToken r.now user workspaceId
      return Response.authorize url scope state) s).2 := by
  rw [exec_authenticatedUser]
  cases hauth : authenticated s.access r with
  | error e => exact hs
  | ok user =>
    dsimp only
    rcases @exec_requirePermission p user workspaceId (do
      let state ← generateStateToken r.now user workspaceId
      return Response.authorize url scope state) with ⟨x, hx⟩ | ⟨hpermitted, hgoes⟩
    · rw [hx]
      exact hs
    · rw [hgoes]
      intro x hx
      rcases List.mem_append.1 hx with hx | hx
      · exact hs x hx
      · cases List.mem_singleton.1 hx
        exact hp user hauth hpermitted

theorem issuedToUpdaters_request {s : NotificationStore} {r : Request} (hs : IssuedToUpdaters s)
    (hasked : AskedWithPermission s (.request r)) : IssuedToUpdaters (exec (handle r) s).2 := by
  unfold handle
  cases hroute : r.route with
  | addSlack workspaceId =>
    refine issuedToUpdaters_start hs _ _ fun user hauth => ?_
    have hmay : r.route.AskedBy user := hasked user (by rw [hauth]; rfl)
    rw [hroute] at hmay
    exact hmay
  | addDiscord workspaceId => exact issuedToUpdaters_start hs _ _ fun _ _ h => h
  | addSlackConfirm query answer =>
    refine Keeps.after (keeps_confirmWith fun t => ?_) hs
    cases answer with
    | failed => exact Keeps.pure _
    | body ok hook =>
      cases ok <;> cases hook
      case true.some => exact Keeps.bind (keeps_updateConfig _ _ _ _ _ _) fun _ => Keeps.pure _
      all_goals first | exact Keeps.pure _ | exact Keeps.throw _
  | addDiscordConfirm query answer =>
    refine Keeps.after (keeps_confirmWith fun t => ?_) hs
    cases answer with
    | raised => exact Keeps.throw _
    | failed => exact Keeps.pure _
    | hook url =>
      cases url with
      | none => exact Keeps.throw _
      | some url => exact Keeps.bind (keeps_updateConfig _ _ _ _ _ _) fun _ => Keeps.pure _
  | notifications workspaceId =>
    exact Keeps.after (keeps_withPermission fun _ =>
      Keeps.bind (Keeps.bind Keeps.get fun _ => Keeps.pure _) fun _ => Keeps.pure _) hs
  | addPagerduty | addOpsgenie | addTeams | addEmail => exact Keeps.after (keeps_addProvider _ _ _ _ _ _ _) hs
  | alertingFor workspaceId =>
    exact Keeps.after (Keeps.bind (keeps_authenticatedUser r) fun _ => Keeps.bind Keeps.get fun _ => Keeps.pure _) hs
  | updateAlertingFor workspaceId setting =>
    refine Keeps.after (keeps_withPermission fun _ => Keeps.tryCatch (Keeps.bind ?_ fun _ => Keeps.pure _)
      fun e => ?_) hs
    · unfold serviceUpdateAlertingFor
      split
      · exact Keeps.throw _
      · split
        · exact Keeps.throw _
        · exact Keeps.modify _ fun _ hs => hs
      · exact Keeps.throw _
    · split
      · exact Keeps.pure _
      · exact Keeps.throw _
  | deleteChannel workspaceId channel =>
    refine Keeps.after (keeps_withPermission fun _ => Keeps.bind (Keeps.bind Keeps.get fun s => ?_) fun _ =>
      Keeps.pure _) hs
    split
    · split
      · exact Keeps.bind (Keeps.modify _ fun _ hs => hs) fun _ => Keeps.modify _ fun _ hs => hs
      · exact Keeps.modify _ fun _ hs => hs
    · exact Keeps.modify _ fun _ hs => hs
  | sendTestAlert workspaceId channel =>
    refine Keeps.after (keeps_withPermission fun _ => Keeps.bind (Keeps.bind Keeps.get fun s => ?_) fun _ =>
      Keeps.pure _) hs
    split
    · split
      · exact Keeps.pure _
      · exact Keeps.throw _
    · exact Keeps.pure _

theorem issuedToUpdaters_step {s s' : NotificationStore} {move : Move} (hs : IssuedToUpdaters s)
    (hmove : AskedWithPermission s move) (h : step s move = some s') : IssuedToUpdaters s' := by
  cases move with
  | request r =>
    cases h
    exact issuedToUpdaters_request hs hmove
  | elsewhere access =>
    cases h
    exact hs

/-! ## Runs -/

theorem guarded_of_asked {s : NotificationStore} {move : Move} (hs : IssuedToUpdaters s)
    (hmove : AskedWithPermission s move) : Guarded s move := by
  cases move with
  | request r => exact guarded_of_covered (covered_request hs hmove)
  | elsewhere access => trivial

/-- **The notification settings are guarded** in every run in which Slack is added, and the alert settings are read,
with the permission that the other routes ask for. -/
theorem guarded_of_askedWithPermission {s : NotificationStore} (hs : s.issued = []) {moves : List Move}
    (hmoves : Along step AskedWithPermission s moves) : Along step Guarded s moves :=
  along_within (fun _ _ _ hs hmove hstep => issuedToUpdaters_step hs hmove hstep) (fun _ _ => guarded_of_asked)
    (fun x hx => by rw [hs] at hx; exact absurd hx List.not_mem_nil) hmoves

/-! ### A workspace with an admin and a member -/

def acmeNotifications : NotificationStore where
  access := { acmeStore with
    roleAssignments := ⟨[⟨12, 1, mask Role.workspaceAdmin⟩, ⟨13, 1, mask Role.workspaceMember⟩], by decide⟩ }
  providerConfigs := default
  alerts := ⟨[⟨1, ⟨[("aws_cis", { channels := [.slack] })], by decide⟩⟩], by decide⟩
  published := []
  issued := []

def requestOf (userId : UserId) (route : Route) : Move :=
  .request ⟨some (createToken none january userId "login" []), january,
    ⟨true, some (some ["aws_cis"]), fun _ _ => true⟩,
    route⟩

/-- Slack answers the callback with the token that the user asked for. -/
def slackConfirmed (userId : UserId) : Move :=
  .request ⟨none, january, ⟨true, none, fun _ _ => true⟩, .addSlackConfirm
    ⟨some "code", some (.token ⟨userId, 1, january.toMicros / secondMicros + 30 * 60⟩), none⟩
    (.body true (some ⟨"secret", "hooks", "#general"⟩))⟩

/-- The admin adds Slack, and the member looks at the alert settings. -/
def addedByAdmin : List Move := [requestOf 12 (.addSlack 1), slackConfirmed 12, requestOf 13 (.alertingFor 1)]

theorem addedByAdmin_guarded : Along step Guarded acmeNotifications addedByAdmin :=
  @guarded_of_askedWithPermission acmeNotifications rfl addedByAdmin (by decide +kernel)

def addedByMember : List Move := [requestOf 13 (.addSlack 1), slackConfirmed 13]

/-- A user without a role in the workspace looks at its alert settings. -/
def readByStranger : List Move := [requestOf 11 (.alertingFor 1)]

def askedByMember : NotificationStore := (run step acmeNotifications [requestOf 13 (.addSlack 1)]).get
    (by decide +kernel)

theorem addedByMember_not_guarded : acmeNotifications.issued = [] ∧
    ¬ Along step Guarded acmeNotifications addedByMember ∧
    ¬ Along step Guarded acmeNotifications readByStranger := by
  refine ⟨rfl, fun h => ?_, fun h => ?_⟩
  · -- the member's token stores a configuration
    have hguarded := ((h.2 askedByMember rfl).1 : Guarded askedByMember (slackConfirmed 13)).1
    have hbefore : askedByMember.configs 1 = [] := by decide +kernel
    have hafter : ((step askedByMember (slackConfirmed 13)).map fun s => s.configs 1) ≠ some [] := by decide +kernel
    obtain ⟨user, ⟨t, -, hissued⟩, hpermitted⟩ := hguarded 1 fun hsame =>
      hafter (congrArg some ((congrArg Prod.fst hsame).trans hbefore))
    have hmember : ∀ x ∈ askedByMember.issued, x.2.permitted 1 .updateSettings = false := by decide +kernel
    exact absurd hpermitted (Bool.eq_false_iff.1 (hmember _ hissued))
  · -- the answer changes with the alert settings
    let other : NotificationStore := { acmeNotifications with alerts := default }
    have hdiffer : DifferAt 1 acmeNotifications other := by
      refine ⟨rfl, rfl, fun w hw => Prod.ext rfl ?_⟩
      show acmeNotifications.alerts.find w = none
      exact (Table.find_eq_none_iff _ _).2 fun alert halert => by
        cases List.mem_singleton.1 halert
        exact Ne.symm hw
    have hanswers : ∀ r, Move.request r = requestOf 11 (.alertingFor 1) →
        respond r acmeNotifications ≠ respond r other := fun r hr => by
      cases hr
      decide +kernel
    obtain ⟨user, hauth, hpermitted⟩ := h.1.2 1 other hdiffer (hanswers _ rfl)
    have hstranger : ∀ user ∈ acmeNotifications.access.getUser 11, user.permitted 1 .readSettings = false := by
      decide +kernel
    have hget : acmeNotifications.access.getUser 11 = some user :=
      @currentUser_ok _ january (createToken none january 11 "login" []) _ hauth
    exact absurd hpermitted (Bool.eq_false_iff.1 (hstranger user hget))

end NotificationRouter

end Fix
