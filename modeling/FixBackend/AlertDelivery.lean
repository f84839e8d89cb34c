import FixBackend.BenchmarkAlerts
import FixBackend.Events
import FixBackend.Machine
/-!
# AlertDelivery — from a collected tenant to the channels of its alerts

`alert_on_changed` and `_send_alert` of `fixbackend/notification/notification_service.py`, next to the requests of
`notification_router.py` that change the settings.  A handler reads the settings once, and then loads an alert for
each benchmark and publishes it once for each channel; the messages are delivered at least once, in any order.  A call
of `_send_alert`, for a message or for a test, reads the configuration of the channel and then hands the alert to its
sender.
-/
namespace Fix

open Calendar Machine Effects IntFlag NotificationRouter BenchmarkAlerts

namespace AlertDelivery

/-! ## The handler of `TenantAccountsCollected` -/

structure AlertOnChannel where
  alert : FailingBenchmarkChecksDetected
  channel : NotificationProvider

structure FailingBenchmarkChecksAlertSend where
  workspaceId : WorkspaceId
  benchmark : BenchmarkName
  severity : String
  failedChecksCountTotal : Nat
  channels : List NotificationProvider
deriving DecidableEq

/-- The attributes of the event that the handler reads. -/
structure Collected where
  tenantId : WorkspaceId
  cloudAccounts : List (FixCloudAccountId × CloudAccountCollectInfo)
deriving DecidableEq

def Collected.taskIds (e : Collected) : List TaskId := e.cloudAccounts.filterMap fun x => x.2.taskId

def Collected.scannedResources (e : Collected) : Nat := (e.cloudAccounts.map fun x => x.2.scannedResources).sum

/-- `min` with a default. -/
def Collected.earliestStartedAt (e : Collected) (now : DateTime) : DateTime :=
  match e.cloudAccounts.map fun x => x.2.startedAt with
  | [] => now
  | t :: ts => ts.foldl (fun a b => if b < a then b else a) t

def nonEmptyAlerts (alert : WorkspaceAlert) : List (BenchmarkName × AlertingSetting) :=
  alert.alerts.rows.filter fun x => decide (x.2.channels ≠ [])

inductive Write where
  | publish (message : AlertOnChannel)
  | announce (event : FailingBenchmarkChecksAlertSend)

def Write.message? : Write → Option AlertOnChannel
  | publish message => some message
  | announce _ => none

/-- A benchmark that a handler has been through: the alert, if there was one. -/
structure Loaded where
  benchmark : BenchmarkName
  setting : AlertingSetting
  alert : Option FailingBenchmarkChecksDetected

/-- A handler with the settings that it has read, those it has not been through and what it has to write; `raised`
when it has ended with an exception. -/
structure Handler where
  event : Collected
  now : DateTime
  alerts : List (BenchmarkName × AlertingSetting)
  todo : List (BenchmarkName × AlertingSetting)
  writes : List Write
  loaded : List Loaded
  raised : Bool

section Handling

variable (databases : WorkspaceId → Bool) (texts : Texts)

def alertsOf (store : NotificationStore) (event : Collected) : List (BenchmarkName × AlertingSetting) :=
  if 0 < event.scannedResources ∧ databases event.tenantId = true then
    ((store.alerts.find event.tenantId).map nonEmptyAlerts).getD []
  else []

def alertOnChanged (store : NotificationStore) (event : Collected) (now : DateTime) : Handler where
  event := event
  now := now
  alerts := alertsOf databases store event
  todo := alertsOf databases store event
  writes := []
  loaded := []
  raised := false

def writesOf (tenantId : WorkspaceId) (l : Loaded) : List Write :=
  match l.alert with
  | none => []
  | some alert =>
    (l.setting.channels.map fun channel => .publish ⟨alert, channel⟩) ++
      [.announce ⟨tenantId, l.benchmark, alert.severity, alert.failedChecksCountTotal, l.setting.channels⟩]

def Handler.load (h : Handler) (client : Client) (benchmark : BenchmarkName) (setting : AlertingSetting) :
    Except LoadError (Option FailingBenchmarkChecksDetected) :=
  loadAlert client texts h.event.tenantId benchmark h.event.taskIds setting.severity
    (h.event.earliestStartedAt h.now) h.now

/-- The next step of a handler, with what it writes; `client` is `none` when the inventory raises. -/
def Handler.works (h : Handler) (client : Option Client) : Option (Handler × Option Write) :=
  match h.writes, h.todo with
  | write :: rest, _ => some ({ h with writes := rest }, some write)
  | [], [] => none
  | [], (benchmark, setting) :: rest =>
    match client.map fun client => h.load texts client benchmark setting with
    | none | some (.error _) => some ({ h with todo := [], raised := true }, none)
    | some (.ok alert) =>
      let l : Loaded := ⟨benchmark, setting, alert⟩
      some ({ h with todo := rest, writes := writesOf h.event.tenantId l, loaded := h.loaded ++ [l] }, none)

/-! ## The service and its streams -/

/-- A call of `_send_alert` that has found a configuration. -/
structure SendAlert where
  message : AlertOnChannel
  config : MessagingConfig

def SendAlert.over (c : SendAlert) : WorkspaceId × NotificationProvider :=
  (c.message.alert.workspaceId, c.message.channel)

/-- The handlers that were started and what they wrote, each with its number, the calls of `_send_alert` that have
found a configuration, and the numbers of those that have handed their alert to the sender. -/
structure Service where
  store : NotificationStore
  handlers : List Handler
  written : List (Nat × Write)
  calls : List SendAlert
  sent : List Nat

def init (store : NotificationStore) : Service := ⟨store, [], [], [], []⟩

def Service.stream (s : Service) : List AlertOnChannel := s.written.filterMap fun x => x.2.message?

inductive Action where
  /-- A request to the routes, or a change of the users. -/
  | settings (move : Move)
  /-- An event is delivered, for the first time or again. -/
  | starts (event : Collected) (now : DateTime)
  | works (i : Nat) (client : Option Client)
  /-- A message of the stream is delivered, for the first time or again. -/
  | delivers (k : Nat)
  /-- A call of `_send_alert` hands its alert to the sender. -/
  | sends (j : Nat)

/-- The start of `_send_alert`: an empty configuration is falsy. -/
def sendAlert (store : NotificationStore) (message : AlertOnChannel) : Option SendAlert :=
  match store.providerConfigs.find (message.alert.workspaceId, message.channel) with
  | none => none
  | some cfg => if cfg.messagingConfig = [] then none else some ⟨message, cfg.messagingConfig⟩

def testAlert (workspaceId : WorkspaceId) : FailingBenchmarkChecksDetected :=
  let uiLink := texts.serviceBaseUrl ++ "/inventory?" ++ urlencode [("q", "all"), ("limit", "50")] ++
    s!"#{texts.uuidStr workspaceId}"
  let resource : VulnerableResource := ⟨"example", "account", some "example", none, none, none, none, uiLink⟩
  { id := texts.md5 ["test", texts.uuidStr workspaceId]
    workspaceId := workspaceId
    benchmark := "Example Benchmark"
    severity := severityName .info
    failedChecksCountTotal := 2
    examples := [⟨"test-1", "Example Check Only For Testing!", severityName .info, 1, [resource]⟩,
      ⟨"test-2", "Please Ignore.", severityName .info, 1, [resource]⟩]
    uiLink := uiLink }

/-- The call of `_send_alert` that a request makes: a test that is let in, in a workspace with a database. -/
def sendTest (store : NotificationStore) (r : Request) : Option SendAlert :=
  match r.route with
  | .sendTestAlert workspaceId channel =>
    match authenticated store.access r with
    | .error _ => none
    | .ok user =>
      match workspacePermissionChecker (mask WorkspacePermission.updateSettings) user workspaceId with
      | .error _ => none
      | .ok _ => r.outside.database.bind fun _ => sendAlert store ⟨testAlert texts workspaceId, channel⟩
  | _ => none

def callOf (s : Service) : Action → Option SendAlert
  | .settings (.request r) => sendTest texts s.store r
  | .delivers k => s.stream[k]?.bind (sendAlert s.store)
  | _ => none

def step (s : Service) : Action → Option Service
  | .settings move => (NotificationRouter.step s.store move).map fun store =>
    { s with store := store, calls := s.calls ++ (callOf texts s (.settings move)).toList }
  | .starts event now => some { s with handlers := s.handlers ++ [alertOnChanged databases s.store event now] }
  | .works i client => do
    let h ← s.handlers[i]?
    let (h', write) ← h.works texts client
    some { s with handlers := s.handlers.set i h', written := s.written ++ write.toList.map fun w => (i, w) }
  | .delivers k =>
    if k < s.stream.length then some { s with calls := s.calls ++ (callOf texts s (.delivers k)).toList } else none
  | .sends j => if j < s.calls.length ∧ j ∉ s.sent then some { s with sent := s.sent ++ [j] } else none

end Handling

/-! ## What a step does -/

variable {databases : WorkspaceId → Bool} {texts : Texts}

theorem works_cases {h h' : Handler} {client : Option Client} {write : Option Write}
    (hworks : h.works texts client = some (h', write)) :
    (∃ w rest, h.writes = w :: rest ∧ h' = { h with writes := rest } ∧ write = some w) ∨
      (h.writes = [] ∧ write = none ∧ ∃ benchmark setting rest, h.todo = (benchmark, setting) :: rest ∧
        (h' = { h with todo := [], raised := true } ∨
          ∃ client alert, h.load texts client benchmark setting = .ok alert ∧ h' = { h with
            todo := rest
            writes := writesOf h.event.tenantId ⟨benchmark, setting, alert⟩
            loaded := h.loaded ++ [⟨benchmark, setting, alert⟩] })) := by
  unfold Handler.works at hworks
  split at hworks
  · rename_i _ _ w rest hwrites
    cases hworks
    exact .inl ⟨w, rest, hwrites, rfl, rfl⟩
  · cases hworks
  · rename_i benchmark setting rest hwrites htodo
    refine .inr ⟨hwrites, ?_⟩
    split at hworks
    · cases hworks
      exact ⟨rfl, benchmark, setting, rest, htodo, .inl rfl⟩
    · cases hworks
      exact ⟨rfl, benchmark, setting, rest, htodo, .inl rfl⟩
    · rename_i alert hload
      cases hworks
      obtain ⟨client, -, hload⟩ := Option.map_eq_some_iff.1 hload
      exact ⟨rfl, benchmark, setting, rest, htodo, .inr ⟨client, alert, hload, rfl⟩⟩

inductive Does (databases : WorkspaceId → Bool) (texts : Texts) (s : Service) : Action → Service → Prop where
  | settings (move : Move) (store : NotificationStore) (h : NotificationRouter.step s.store move = some store) :
      Does databases texts s (.settings move)
        { s with store := store, calls := s.calls ++ (callOf texts s (.settings move)).toList }
  | starts (event : Collected) (now : DateTime) : Does databases texts s (.starts event now)
      { s with handlers := s.handlers ++ [alertOnChanged databases s.store event now] }
  | works (i : Nat) (client : Option Client) (h h' : Handler) (write : Option Write) (hi : s.handlers[i]? = some h)
      (hworks : h.works texts client = some (h', write)) : Does databases texts s (.works i client)
      { s with handlers := s.handlers.set i h', written := s.written ++ write.toList.map fun w => (i, w) }
  | delivers (k : Nat) :
      Does databases texts s (.delivers k) { s with calls := s.calls ++ (callOf texts s (.delivers k)).toList }
  | sends (j : Nat) (hj : j < s.calls.length) (hnew : j ∉ s.sent) :
      Does databases texts s (.sends j) { s with sent := s.sent ++ [j] }

theorem does_of_step {s s' : Service} {a : Action} (h : step databases texts s a = some s') :
    Does databases texts s a s' := by
  cases a with
  | settings move =>
    obtain ⟨store, hstore, rfl⟩ := Option.map_eq_some_iff.1 h
    exact .settings move store hstore
  | starts event now =>
    cases h
    exact .starts event now
  | works i client =>
    obtain ⟨handler, hi, h⟩ := Option.bind_eq_some_iff.1 h
    obtain ⟨⟨h', write⟩, hworks, h⟩ := Option.bind_eq_some_iff.1 h
    cases h
    exact .works i client handler h' write hi hworks
  | delivers k =>
    simp only [step] at h
    split at h <;> cases h
    exact .delivers k
  | sends j =>
    simp only [step] at h
    split at h <;> cases h
    rename_i hj
    exact .sends j hj.1 hj.2

theorem message_sendAlert {store : NotificationStore} {message : AlertOnChannel} {c : SendAlert}
    (h : sendAlert store message = some c) : c.message = message := by
  unfold sendAlert at h
  split at h
  · cases h
  · split at h <;> cases h
    rfl

/-- The service sends the test alert when the channel has a configuration, and raises when that fails. -/
theorem exec_serviceSendTestAlert (texts : Texts) (outside : Outside) (workspaceId : WorkspaceId)
    (channel : NotificationProvider) (store : NotificationStore) :
    exec (serviceSendTestAlert outside workspaceId channel) store =
      match outside.database.bind fun _ => sendAlert store ⟨testAlert texts workspaceId, channel⟩ with
      | some c => if outside.sends channel c.config then (.ok ⟨⟩, store) else (.error .raised, store)
      | none => (.ok ⟨⟩, store) := by
  rw [serviceSendTestAlert, exec_bind, exec_get]
  dsimp only
  cases outside.database with
  | none => rfl
  | some answer =>
    have hworkspace : (testAlert texts workspaceId).workspaceId = workspaceId := rfl
    unfold sendAlert
    dsimp only [Option.bind_some]
    rw [hworkspace]
    cases store.providerConfigs.find (workspaceId, channel) with
    | none => rfl
    | some cfg =>
      dsimp only
      by_cases hempty : cfg.messagingConfig = []
      · rw [if_pos (.inl hempty), if_pos hempty]
        rfl
      · rw [if_neg hempty]
        by_cases hsends : outside.sends channel cfg.messagingConfig = true
        · rw [if_pos (.inr hsends)]
          exact (if_pos hsends).symm
        · rw [if_neg (not_or.2 ⟨hempty, hsends⟩)]
          exact (if_neg hsends).symm

theorem respond_sendTestAlert (texts : Texts) {r : Request} {workspaceId : WorkspaceId} {channel : NotificationProvider}
    (hroute : r.route = .sendTestAlert workspaceId channel) (store : NotificationStore) : respond r store =
      match authenticated store.access r with
      | .error e => .refused e
      | .ok user =>
        match workspacePermissionChecker (mask WorkspacePermission.updateSettings) user workspaceId with
        | .error e => .refused e
        | .ok _ =>
          match r.outside.database.bind fun _ => sendAlert store ⟨testAlert texts workspaceId, channel⟩ with
          | some c => if r.outside.sends channel c.config then .noContent else .internalServerError
          | none => .noContent := by
  have hhandle : handle r = sendTestAlert r workspaceId channel := by
    unfold handle
    rw [hroute]
  unfold respond
  rw [hhandle, sendTestAlert, exec_authenticatedUser]
  cases authenticated store.access r with
  | error e => rfl
  | ok user =>
    dsimp only
    rw [NotificationRouter.requirePermission, exec_bind, exec_lift]
    cases workspacePermissionChecker (mask WorkspacePermission.updateSettings) user workspaceId with
    | error e => rfl
    | ok _ =>
      dsimp only [Except.mapError]
      rw [exec_bind, exec_serviceSendTestAlert texts]
      cases r.outside.database.bind fun _ => sendAlert store ⟨testAlert texts workspaceId, channel⟩ with
      | none => rfl
      | some c =>
        dsimp only
        by_cases hsends : r.outside.sends channel c.config = true
        · rw [if_pos hsends, if_pos hsends]
          rfl
        · rw [if_neg hsends, if_neg hsends]
          rfl

/-- **A request asks the senders for its test alone**: with one its answer is that of the sender, and without one it
is the same whatever the senders do. -/
theorem respond_test (store : NotificationStore) (r : Request) : match sendTest texts store r with
    | some c => respond r store =
        if r.outside.sends c.over.2 c.config then .noContent else .internalServerError
    | none => ∀ sends, respond { r with outside := { r.outside with sends := sends } } store = respond r store := by
  obtain ⟨session, now, ⟨publishes, database, sends⟩, route⟩ := r
  cases route with
  | sendTestAlert workspaceId channel =>
    let r (sends' : NotificationProvider → MessagingConfig → Bool) : Request :=
      ⟨session, now, ⟨publishes, database, sends'⟩, .sendTestAlert workspaceId channel⟩
    have hresponse := fun sends' => respond_sendTestAlert texts (r := r sends') rfl store
    -- the senders decide neither who is let in nor what is read
    have hauth : ∀ sends', authenticated store.access (r sends') = authenticated store.access (r sends) := fun _ => rfl
    change match sendTest texts store (r sends) with
      | some c => respond (r sends) store = if sends c.over.2 c.config then .noContent else .internalServerError
      | none => ∀ sends', respond (r sends') store = respond (r sends) store
    simp only [sendTest, hresponse, r, hauth]
    cases authenticated store.access (r sends) with
    | error e => exact fun _ => rfl
    | ok user =>
      dsimp only
      cases workspacePermissionChecker (mask WorkspacePermission.updateSettings) user workspaceId with
      | error e => exact fun _ => rfl
      | ok _ =>
        dsimp only
        cases hcall : database.bind fun _ => sendAlert store ⟨testAlert texts workspaceId, channel⟩ with
        | none => exact fun _ => rfl
        | some c =>
          obtain ⟨-, -, hsend⟩ := Option.bind_eq_some_iff.1 hcall
          have hchannel : c.over.2 = channel := congrArg AlertOnChannel.channel (message_sendAlert hsend)
          dsimp only
          rw [hchannel]
  | notifications | addSlack | addSlackConfirm | addDiscord | addDiscordConfirm | addPagerduty
      | addOpsgenie | addTeams |
    addEmail | alertingFor | updateAlertingFor | deleteChannel => exact fun _ => rfl

/-! ## One handler -/

def Loaded.key (l : Loaded) : BenchmarkName × AlertingSetting := (l.benchmark, l.setting)

/-- A handler with what it has written so far: for each benchmark that it has been through, in their order, the alert
that was loaded on each channel and then the event. -/
structure Handler.Kept (texts : Texts) (h : Handler) (written : List Write) : Prop where
  writes : written ++ h.writes = h.loaded.flatMap (writesOf h.event.tenantId)
  order : ∃ rest, h.loaded.map Loaded.key ++ rest = h.alerts ∧ (h.raised = false → rest = h.todo)
  ended : h.raised = true → h.writes = [] ∧ h.todo = []
  loaded : ∀ l ∈ h.loaded, ∃ client, h.load texts client l.benchmark l.setting = .ok l.alert

theorem kept_alertOnChanged (store : NotificationStore) (event : Collected) (now : DateTime) :
    (alertOnChanged databases store event now).Kept texts [] where
  writes := rfl
  order := ⟨_, rfl, fun _ => rfl⟩
  ended h := by cases h
  loaded l hl := by cases hl

theorem kept_works {h h' : Handler} {written : List Write} {client : Option Client} {write : Option Write}
    (hkept : h.Kept texts written) (hworks : h.works texts client = some (h', write)) :
    h'.Kept texts (written ++ write.toList) := by
  obtain ⟨w, rest, hwrites, rfl, rfl⟩ | ⟨hwrites, rfl, benchmark, setting, rest, htodo,
      rfl | ⟨client, alert, hload, rfl⟩⟩ :=
    works_cases hworks
  · refine ⟨?_, hkept.order, fun hraised => ?_, hkept.loaded⟩
    · rw [← hkept.writes, hwrites, List.append_assoc]
      rfl
    · rw [(hkept.ended hraised).1] at hwrites
      cases hwrites
  · refine ⟨?_, ?_, fun _ => ⟨hwrites, rfl⟩, hkept.loaded⟩
    · rw [Option.toList_none, List.append_nil]
      exact hkept.writes
    · obtain ⟨remaining, halerts, -⟩ := hkept.order
      exact ⟨remaining, halerts, fun h => by cases h⟩
  · have hrunning : h.raised = false := by
      cases hraised : h.raised with
      | false => rfl
      | true =>
        rw [(hkept.ended hraised).2] at htodo
        cases htodo
    refine ⟨?_, ?_, fun hraised => ?_, fun l hl => ?_⟩
    · have hbefore := hkept.writes
      rw [hwrites, List.append_nil] at hbefore
      dsimp only
      rw [Option.toList_none, List.append_nil, hbefore, List.flatMap_append, List.flatMap_singleton]
    · obtain ⟨remaining, halerts, hremaining⟩ := hkept.order
      refine ⟨rest, ?_, fun _ => rfl⟩
      rw [hremaining hrunning, htodo] at halerts
      rw [← halerts, List.map_append, List.append_assoc]
      rfl
    · rw [hrunning] at hraised
      cases hraised
    · obtain hl | hl := List.mem_append.1 hl
      · exact hkept.loaded l hl
      · rw [List.mem_singleton.1 hl]
        exact ⟨client, hload⟩

theorem event_works {h h' : Handler} {client : Option Client} {write : Option Write}
    (hworks : h.works texts client = some (h', write)) :
    h'.event = h.event ∧ h'.now = h.now ∧ h'.alerts = h.alerts := by
  obtain ⟨w, rest, -, rfl, -⟩ | ⟨-, -, benchmark, setting, rest, -, rfl | ⟨client, alert, -, rfl⟩⟩ :=
    works_cases hworks <;>
    exact ⟨rfl, rfl, rfl⟩

/-! ## The books -/

def Service.writtenBy (s : Service) (i : Nat) : List Write := (s.written.filter fun x => decide (x.1 = i)).map Prod.snd

/-- Where everything comes from that is written and sent, in a run. -/
structure Books (databases : WorkspaceId → Bool) (texts : Texts) (store : NotificationStore) (actions : List Action)
    (s : Service) : Prop where
  /-- A handler goes through the alerts with a channel that were stored for its tenant when its event was delivered. -/
  settings : ∀ i (h : Handler), s.handlers[i]? = some h → ∃ pre post mid,
    actions = pre ++ .starts h.event h.now :: post ∧
    run (step databases texts) (init store) pre = some mid ∧ mid.handlers.length = i ∧
    h.alerts = alertsOf databases mid.store h.event
  handlers : ∀ i (h : Handler), s.handlers[i]? = some h → h.Kept texts (s.writtenBy i)
  /-- Nothing is written by anybody else. -/
  written : ∀ x ∈ s.written, x.1 < s.handlers.length
  /-- A call of `_send_alert` is that of a delivery of a message or of a test, with the configuration that its workspace
  had for the channel. -/
  calls : ∀ j (c : SendAlert), s.calls[j]? = some c → ∃ pre a post mid, actions = pre ++ a :: post ∧
    run (step databases texts) (init store) pre = some mid ∧ mid.calls.length = j ∧ callOf texts mid a = some c
  /-- What is sent is the alert of such a call, each at most once. -/
  sent : s.sent.Nodup ∧ ∀ j ∈ s.sent, j < s.calls.length

theorem writtenBy_append (s : Service) (i j : Nat) (write : Option Write) (handlers : List Handler) :
    Service.writtenBy { s with handlers := handlers, written := s.written ++ write.toList.map fun w => (i, w) } j =
      s.writtenBy j ++ if i = j then write.toList else [] := by
  unfold Service.writtenBy
  dsimp only
  rw [List.filter_append, List.map_append]
  congr 1
  cases write with
  | none => split_ifs <;> rfl
  | some w =>
    rw [Option.toList_some, List.map_singleton, List.filter_singleton]
    split_ifs with hij
    · rw [decide_eq_true hij]
      rfl
    · rw [decide_eq_false hij]
      rfl

theorem getElem?_singleton {α : Type} {a b : α} {i : Nat} (h : [a][i]? = some b) : i = 0 ∧ b = a := by
  cases i with
  | zero => exact ⟨rfl, (Option.some.inj h).symm⟩
  | succ i => cases h

section Step

variable {store : NotificationStore} {actions : List Action} {s : Service}

/-- The handlers of a run are still those of its deliveries when it goes on. -/
theorem Books.settings_append (hs : Books databases texts store actions s) (a : Action) {i : Nat} {h : Handler}
    (hi : s.handlers[i]? = some h) : ∃ pre post mid, actions ++ [a] = pre ++ .starts h.event h.now :: post ∧
      run (step databases texts) (init store) pre = some mid ∧ mid.handlers.length = i ∧
      h.alerts = alertsOf databases mid.store h.event := by
  obtain ⟨pre, post, mid, rfl, hmid⟩ := hs.settings i h hi
  exact ⟨pre, post ++ [a], mid, by rw [List.append_assoc, List.cons_append], hmid⟩

/-- The call that an action starts is the next one. -/
theorem Books.calls_append (hs : Books databases texts store actions s)
    (hrun : run (step databases texts) (init store) actions = some s) (a : Action) {j : Nat} {c : SendAlert}
    (hj : (s.calls ++ (callOf texts s a).toList)[j]? = some c) : ∃ pre b post mid, actions ++ [a] = pre ++ b :: post ∧
      run (step databases texts) (init store) pre = some mid ∧ mid.calls.length = j ∧ callOf texts mid b = some c := by
  rw [List.getElem?_append] at hj
  split_ifs at hj with hlt
  · obtain ⟨pre, b, post, mid, rfl, hmid⟩ := hs.calls j c hj
    exact ⟨pre, b, post ++ [a], mid, by rw [List.append_assoc, List.cons_append], hmid⟩
  · cases hcall : callOf texts s a with
    | none =>
      rw [hcall] at hj
      cases hj
    | some c' =>
      rw [hcall] at hj
      obtain ⟨hindex, rfl⟩ := getElem?_singleton hj
      exact ⟨actions, a, [], s, rfl, hrun, by omega, hcall⟩

theorem Books.writtenBy_next (hs : Books databases texts store actions s) : s.writtenBy s.handlers.length = [] := by
  unfold Service.writtenBy
  rw [List.map_eq_nil_iff, List.filter_eq_nil_iff]
  intro x hx
  rw [decide_eq_true_eq]
  exact (hs.written x hx).ne

/-- A delivery adds a handler, which has not written anything. -/
theorem Books.handlers_starts (hs : Books databases texts store actions s) (event : Collected) (now : DateTime)
    {i : Nat} {h : Handler} (hi : (s.handlers ++ [alertOnChanged databases s.store event now])[i]? = some h) :
    h.Kept texts (s.writtenBy i) := by
  rw [List.getElem?_append] at hi
  split_ifs at hi with hlt
  · exact hs.handlers i h hi
  · obtain ⟨hindex, rfl⟩ := getElem?_singleton hi
    obtain rfl : i = s.handlers.length := by omega
    rw [hs.writtenBy_next]
    exact kept_alertOnChanged s.store event now

/-- What a handler writes is added to what it has written, and the others write nothing. -/
theorem Books.handlers_works (hs : Books databases texts store actions s) {i j : Nat} {client : Option Client}
    {h₀ h' h : Handler} {write : Option Write} (hi : s.handlers[i]? = some h₀)
    (hworks : h₀.works texts client = some (h', write)) (hj : (s.handlers.set i h')[j]? = some h) :
    h.Kept texts (s.writtenBy j ++ if i = j then write.toList else []) := by
  rw [List.getElem?_set] at hj
  split_ifs at hj with hij
  · subst hij
    obtain rfl := Option.some.inj hj
    rw [if_pos rfl]
    exact kept_works (hs.handlers i h₀ hi) hworks
  · rw [if_neg hij, List.append_nil]
    exact hs.handlers j h hj

theorem books_step {a : Action} {s' : Service} (hrun : run (step databases texts) (init store) actions = some s)
    (hs : Books databases texts store actions s) (h : step databases texts s a = some s') :
    Books databases texts store (actions ++ [a]) s' := by
  have hsettings := fun i h (hi : s.handlers[i]? = some h) => hs.settings_append a hi
  have hcalls := fun j c (hj : (s.calls ++ (callOf texts s a).toList)[j]? = some c) => hs.calls_append hrun a hj
  have hsame := fun j c (hj : s.calls[j]? = some c) =>
    hcalls j c ((List.getElem?_append_left (List.getElem?_eq_some_iff.1 hj).1).trans hj)
  have hsent : ∀ more : List SendAlert, s.sent.Nodup ∧ ∀ j ∈ s.sent, j < (s.calls ++ more).length := fun more =>
    ⟨hs.sent.1, fun j hj => Nat.lt_of_lt_of_le (hs.sent.2 j hj) (List.prefix_append _ _).length_le⟩
  cases does_of_step h with
  | settings move store' hstore => exact ⟨hsettings, hs.handlers, hs.written, hcalls, hsent _⟩
  | starts event now =>
    refine ⟨fun i h hi => ?_, fun i h hi => hs.handlers_starts event now hi, fun x hx => ?_, hsame, hs.sent⟩
    · rw [List.getElem?_append] at hi
      split_ifs at hi with hlt
      · exact hsettings i h hi
      · obtain ⟨hindex, rfl⟩ := getElem?_singleton hi
        exact ⟨actions, [], s, rfl, hrun, by omega, rfl⟩
    · exact Nat.lt_of_lt_of_le (hs.written x hx) (by simp)
  | works i client h₀ h' write hi hworks =>
    refine ⟨fun j h hj => ?_, fun j h hj => ?_, fun x hx => ?_, hsame, hs.sent⟩
    · rw [List.getElem?_set] at hj
      split_ifs at hj with hij
      · subst hij
        obtain rfl := Option.some.inj hj
        obtain ⟨hevent, hnow, halerts⟩ := event_works hworks
        rw [hevent, hnow, halerts]
        exact hsettings i h₀ hi
      · exact hsettings j h hj
    · rw [writtenBy_append]
      exact hs.handlers_works hi hworks hj
    · dsimp only at hx ⊢
      rw [List.length_set]
      obtain hx | hx := List.mem_append.1 hx
      · exact hs.written x hx
      · obtain ⟨w, -, rfl⟩ := List.mem_map.1 hx
        exact (List.getElem?_eq_some_iff.1 hi).1
  | delivers k => exact ⟨hsettings, hs.handlers, hs.written, hcalls, hsent _⟩
  | sends j hj hnew =>
    refine ⟨hsettings, hs.handlers, hs.written, hsame, ?_, fun i hi => ?_⟩
    · exact List.nodup_append.2 ⟨hs.sent.1, List.nodup_singleton j, fun i hi i' hi' heq =>
        hnew (List.mem_singleton.1 hi' ▸ heq ▸ hi)⟩
    · obtain hi | hi := List.mem_append.1 hi
      · exact hs.sent.2 i hi
      · rw [List.mem_singleton.1 hi]
        exact hj

end Step

theorem books_init (store : NotificationStore) : Books databases texts store [] (init store) where
  settings _ _ hi := by cases hi
  handlers _ _ hi := by cases hi
  written _ hx := by cases hx
  calls _ _ hj := by cases hj
  sent := ⟨List.nodup_nil, fun _ hj => by cases hj⟩

/-- **The books of the alerts are right in every run.** -/
theorem alertBooks_of_run {store : NotificationStore} {actions : List Action} {s : Service}
    (h : run (step databases texts) (init store) actions = some s) : Books databases texts store actions s :=
  run_history (books_init store) (fun _ _ _ _ hrun hs hstep => books_step hrun hs hstep) h

theorem Handler.Kept.complete {h : Handler} {written : List Write} (hkept : h.Kept texts written)
    (hraised : h.raised = false) (htodo : h.todo = []) (hwrites : h.writes = []) :
    h.loaded.map Loaded.key = h.alerts ∧ written = h.loaded.flatMap (writesOf h.event.tenantId) := by
  obtain ⟨rest, halerts, hrest⟩ := hkept.order
  rw [hrest hraised, htodo, List.append_nil] at halerts
  have hall := hkept.writes
  rw [hwrites, List.append_nil] at hall
  exact ⟨halerts, hall⟩

/-! ## A channel that was deleted -/

def adds : Route → Option (WorkspaceId × NotificationProvider)
  | .addSlackConfirm query _ =>
    match query.state with
    | some (.token t) => some (t.workspaceId, .slack)
    | _ => none
  | .addDiscordConfirm query _ =>
    match query.state with
    | some (.token t) => some (t.workspaceId, .discord)
    | _ => none
  | .addPagerduty workspaceId _ _ => some (workspaceId, .pagerduty)
  | .addOpsgenie workspaceId _ _ => some (workspaceId, .opsgenie)
  | .addTeams workspaceId _ _ => some (workspaceId, .teams)
  | .addEmail workspaceId _ _ => some (workspaceId, .email)
  | _ => none

def Without (k : WorkspaceId × NotificationProvider) (store : NotificationStore) : Prop :=
  store.providerConfigs.find k = none

theorem keeps_updateConfig_of_ne {k : WorkspaceId × NotificationProvider} (outside : Outside)
    (workspaceId : WorkspaceId)
    (userId : UserId) (provider : NotificationProvider) (name : String) (config : MessagingConfig)
    (hk : (workspaceId, provider) ≠ k) :
    Keeps (Without k) (updateNotificationProviderConfig outside workspaceId userId provider name config) := by
  refine Keeps.bind ?_ fun _ => Keeps.modify _ fun store hs => ?_
  · unfold publishSetupUpdated
    split
    · exact Keeps.modify _ fun _ hs => hs
    · exact Keeps.throw _
  · let c : NotificationProviderConfig := ⟨workspaceId, provider, String.ofList (name.toList.take 63), config⟩
    have hkey : k ≠ c.key := Ne.symm hk
    exact (Table.find_put_of_ne store.providerConfigs hkey).trans hs

theorem keeps_addProvider_of_ne {k : WorkspaceId × NotificationProvider} (provider : NotificationProvider)
    (missing : String)
    (given : Bool) (config : MessagingConfig) (r : Request) (workspaceId : WorkspaceId) (name : String)
    (hk : (workspaceId, provider) ≠ k) :
    Keeps (Without k) (addProvider provider missing given config r workspaceId name) := by
  refine Keeps.bind (keeps_authenticatedUser r) fun user => Keeps.bind (keeps_requirePermission _ _ _) fun _ => ?_
  split
  · exact Keeps.throw _
  · exact Keeps.bind (keeps_updateConfig_of_ne _ _ _ _ _ _ hk) fun _ => Keeps.pure _

theorem without_confirm {k : WorkspaceId × NotificationProvider} {s : NotificationStore}
    (hs : Without k s) {r : Request}
    {query : Confirm} {message : String} {store : NotificationRouter.StateToken → Routes Response}
    (hstore : ∀ t, query.state = some (.token t) → Keeps (Without k) (store t)) :
    Without k (exec (confirmWith r query message store) s).2 := by
  obtain ⟨x, hx⟩ | ⟨t, hstate, -, hgoes⟩ := exec_confirmWith r query message store s
  · rw [hx s rfl]
    exact hs
  · rw [hgoes s rfl]
    exact (hstore t hstate).after hs

theorem keeps_authorize {k : WorkspaceId × NotificationProvider} (r : Request) (p : WorkspacePermission)
    (workspaceId : WorkspaceId) (url scope : String) :
    Keeps (Without k) (NotificationRouter.authenticatedUser r >>= fun user =>
      NotificationRouter.requirePermission p user workspaceId >>= fun _ => do
      let state ← NotificationRouter.generateStateToken r.now user workspaceId
      return Response.authorize url scope state) :=
  Keeps.bind (keeps_authenticatedUser r) fun _ => Keeps.bind (keeps_requirePermission _ _ _) fun _ =>
    Keeps.bind (Keeps.bind (Keeps.modify _ fun _ hs => hs) fun _ => Keeps.pure _) fun _ => Keeps.pure _

theorem keeps_serviceUpdateAlertingFor {k : WorkspaceId × NotificationProvider} (outside : Outside)
    (alert : WorkspaceAlert) :
    Keeps (Without k) (serviceUpdateAlertingFor outside alert) := by
  unfold serviceUpdateAlertingFor
  split
  · exact Keeps.throw _
  · split
    · exact Keeps.throw _
    · exact Keeps.modify _ fun _ hs => hs
  · exact Keeps.throw _

theorem keeps_deleteConfig {k : WorkspaceId × NotificationProvider} (workspaceId : WorkspaceId)
    (provider : NotificationProvider) : Keeps (Without k) (deleteNotificationProviderConfig workspaceId provider) := by
  have hdelete : Keeps (Without k) (modify fun s : NotificationStore =>
      { s with providerConfigs := s.providerConfigs.delete (workspaceId, provider) } : Routes PUnit) := by
    refine Keeps.modify _ fun store hs => (Table.find_eq_none_iff _ _).2 fun c hc => ?_
    exact (Table.find_eq_none_iff _ _).1 hs c (Table.mem_delete.1 hc).1
  refine Keeps.bind Keeps.get fun s => ?_
  split
  · split
    · exact Keeps.bind (Keeps.modify _ fun _ hs => hs) fun _ => hdelete
    · exact hdelete
  · exact hdelete

theorem keeps_serviceSendTestAlert {k : WorkspaceId × NotificationProvider} (outside : Outside)
    (workspaceId : WorkspaceId)
    (provider : NotificationProvider) : Keeps (Without k) (serviceSendTestAlert outside workspaceId provider) := by
  refine Keeps.bind Keeps.get fun s => ?_
  split
  · split
    · exact Keeps.pure _
    · exact Keeps.throw _
  · exact Keeps.pure _

/-- **Only the requests that add a channel give it a configuration.** -/
theorem without_request {k : WorkspaceId × NotificationProvider} {s : NotificationStore}
    (hs : Without k s) {r : Request}
    (hadds : adds r.route ≠ some k) : Without k (exec (handle r) s).2 := by
  have hadd : ∀ {workspaceId provider}, adds r.route = some (workspaceId, provider) → (workspaceId, provider) ≠ k := by
    intro workspaceId provider heq hk
    exact hadds (heq.trans (congrArg some hk))
  obtain ⟨session, now, outside, route⟩ := r
  cases route with
  | notifications workspaceId =>
    exact (Keeps.bind (keeps_authenticatedUser _) fun _ => Keeps.bind (keeps_requirePermission _ _ _) fun _ =>
      Keeps.bind (Keeps.bind Keeps.get fun _ => Keeps.pure _) fun _ => Keeps.pure _).after hs
  | addSlack workspaceId => exact (keeps_authorize _ _ _ _ _).after hs
  | addDiscord workspaceId => exact (keeps_authorize _ _ _ _ _).after hs
  | addSlackConfirm query answer =>
    refine without_confirm hs fun t hstate => ?_
    have hk : (t.workspaceId, NotificationProvider.slack) ≠ k := hadd (by simp [adds, hstate])
    split
    · exact Keeps.bind (keeps_updateConfig_of_ne _ _ _ _ _ _ hk) fun _ => Keeps.pure _
    · exact Keeps.throw _
    · exact Keeps.pure _
    · exact Keeps.pure _
  | addDiscordConfirm query answer =>
    refine without_confirm hs fun t hstate => ?_
    have hk : (t.workspaceId, NotificationProvider.discord) ≠ k := hadd (by simp [adds, hstate])
    split
    · exact Keeps.bind (keeps_updateConfig_of_ne _ _ _ _ _ _ hk) fun _ => Keeps.pure _
    · exact Keeps.throw _
    · exact Keeps.throw _
    · exact Keeps.pure _
  | addPagerduty workspaceId name key => exact (keeps_addProvider_of_ne _ _ _ _ _ _ _ (hadd rfl)).after hs
  | addOpsgenie workspaceId name key => exact (keeps_addProvider_of_ne _ _ _ _ _ _ _ (hadd rfl)).after hs
  | addTeams workspaceId name url => exact (keeps_addProvider_of_ne _ _ _ _ _ _ _ (hadd rfl)).after hs
  | addEmail workspaceId name email => exact (keeps_addProvider_of_ne _ _ _ _ _ _ _ (hadd rfl)).after hs
  | alertingFor workspaceId =>
    exact (Keeps.bind (keeps_authenticatedUser _) fun _ => Keeps.bind Keeps.get fun _ => Keeps.pure _).after hs
  | updateAlertingFor workspaceId setting =>
    refine (Keeps.bind (keeps_authenticatedUser _) fun _ =>
      Keeps.bind (keeps_requirePermission _ _ _) fun _ => ?_).after hs
    refine Keeps.tryCatch (Keeps.bind (keeps_serviceUpdateAlertingFor _ _) fun _ => Keeps.pure _) fun e => ?_
    cases e with
    | valueError msg => exact Keeps.pure _
    | http e => exact Keeps.throw _
    | raised => exact Keeps.throw _
  | deleteChannel workspaceId channel =>
    exact (Keeps.bind (keeps_authenticatedUser _) fun _ => Keeps.bind (keeps_requirePermission _ _ _) fun _ =>
      Keeps.bind (keeps_deleteConfig _ _) fun _ => Keeps.pure _).after hs
  | sendTestAlert workspaceId channel =>
    exact (Keeps.bind (keeps_authenticatedUser _) fun _ => Keeps.bind (keeps_requirePermission _ _ _) fun _ =>
      Keeps.bind (keeps_serviceSendTestAlert _ _ _) fun _ => Keeps.pure _).after hs

theorem exec_deleteConfig (workspaceId : WorkspaceId) (provider : NotificationProvider) (s : NotificationStore) :
    ∃ s', exec (deleteNotificationProviderConfig workspaceId provider) s = (.ok ⟨⟩, s') ∧
      s'.providerConfigs = s.providerConfigs.delete (workspaceId, provider) := by
  unfold deleteNotificationProviderConfig
  rw [exec_bind, exec_get]
  dsimp only
  split
  · split
    · exact ⟨_, rfl, rfl⟩
    · exact ⟨_, rfl, rfl⟩
  · exact ⟨_, rfl, rfl⟩

/-- When the deletion is answered, the channel has no configuration. -/
theorem without_of_deleted {workspaceId : WorkspaceId} {channel : NotificationProvider}
    {s : NotificationStore} {r : Request}
    (hroute : r.route = .deleteChannel workspaceId channel) (hanswer : respond r s = .noContent) :
    Without (workspaceId, channel) (exec (handle r) s).2 := by
  have hhandle : handle r = deleteChannel r workspaceId channel := by
    unfold handle
    rw [hroute]
  unfold respond at hanswer
  rw [hhandle] at hanswer ⊢
  unfold deleteChannel at hanswer ⊢
  rw [exec_authenticatedUser] at hanswer ⊢
  cases hauth : authenticated s.access r with
  | error e =>
    rw [hauth] at hanswer
    cases hanswer
  | ok user =>
    rw [hauth] at hanswer
    dsimp only at hanswer ⊢
    unfold NotificationRouter.requirePermission at hanswer ⊢
    rw [exec_bind, exec_lift] at hanswer ⊢
    cases hchecker : workspacePermissionChecker (mask WorkspacePermission.updateSettings) user workspaceId with
    | error e =>
      rw [hchecker] at hanswer
      cases hanswer
    | ok _ =>
      obtain ⟨s', hexec, hdeleted⟩ := exec_deleteConfig workspaceId channel s
      dsimp only [Except.mapError]
      rw [exec_bind, hexec]
      change Table.find s'.providerConfigs (workspaceId, channel) = none
      rw [hdeleted]
      exact (Table.find_eq_none_iff _ _).2 fun c hc => (Table.mem_delete.1 hc).2

/-- The call has read the configuration of the channel. -/
def Service.callsOver (s : Service) (k : WorkspaceId × NotificationProvider) (j : Nat) : Bool :=
  s.calls[j]?.any fun c => decide (c.over = k)

def Service.sentOver (s : Service) (k : WorkspaceId × NotificationProvider) : List Nat := s.sent.filter (s.callsOver k)

def Adds (k : WorkspaceId × NotificationProvider) : Action → Prop
  | .settings (.request r) => adds r.route = some k
  | _ => False

theorem over_sendAlert {store : NotificationStore} {message : AlertOnChannel} {c : SendAlert}
    (h : sendAlert store message = some c) : ¬ Without c.over store := by
  intro hnone
  unfold sendAlert at h
  split at h
  · cases h
  · rename_i cfg hcfg
    split at h <;> cases h
    cases hnone.symm.trans hcfg

theorem over_callOf {s : Service} {a : Action} {c : SendAlert} (h : callOf texts s a = some c) :
    ¬ Without c.over s.store := by
  unfold callOf at h
  split at h
  · unfold sendTest at h
    split at h
    · split at h
      · cases h
      · split at h
        · cases h
        · obtain ⟨-, -, h⟩ := Option.bind_eq_some_iff.1 h
          exact over_sendAlert h
    · cases h
  · obtain ⟨message, -, h⟩ := Option.bind_eq_some_iff.1 h
    exact over_sendAlert h
  · cases h

/-- While the channel has no configuration nobody reads one, and the calls that have read it send at most once. -/
structure Silent (k : WorkspaceId × NotificationProvider) (s s' : Service) : Prop where
  without : Without k s'.store
  calls : ∀ j, s'.callsOver k j = s.callsOver k j
  sent : ∃ later, s'.sent = s.sent ++ later ∧ ∀ j ∈ later, j ∉ s.sent

theorem silent_reads {k : WorkspaceId × NotificationProvider} {s s' : Service} {a : Action} (hs : Silent k s s')
    {store : NotificationStore} (hstore : Without k store) :
    Silent k s { s' with store := store, calls := s'.calls ++ (callOf texts s' a).toList } := by
  refine ⟨hstore, fun j => ?_, hs.sent⟩
  rw [← hs.calls j]
  unfold Service.callsOver
  dsimp only
  rw [List.getElem?_append]
  split_ifs with hlt
  · rfl
  · rw [List.getElem?_eq_none (Nat.le_of_not_lt hlt)]
    cases hcall : callOf texts s' a with
    | none => rfl
    | some c =>
      have hother : c.over ≠ k := fun hover => over_callOf hcall (hover ▸ hs.without)
      cases j - s'.calls.length with
      | zero => exact decide_eq_false hother
      | succ i => rfl

theorem silent_step {k : WorkspaceId × NotificationProvider} {s s' s'' : Service} {a : Action} (hs : Silent k s s')
    (ha : ¬ Adds k a) (h : step databases texts s' a = some s'') : Silent k s s'' := by
  cases does_of_step h with
  | settings move store hstore =>
    refine silent_reads hs ?_
    cases move with
    | request r =>
      cases hstore
      exact without_request hs.without ha
    | elsewhere access =>
      cases hstore
      exact hs.without
  | delivers i => exact silent_reads hs hs.without
  | starts event now => exact ⟨hs.without, hs.calls, hs.sent⟩
  | works i client h₀ h' write hi hworks => exact ⟨hs.without, hs.calls, hs.sent⟩
  | sends j hj hnew =>
    obtain ⟨later, hsent, hlater⟩ := hs.sent
    refine ⟨hs.without, hs.calls, later ++ [j], ?_, fun i hi => ?_⟩
    · rw [← List.append_assoc, ← hsent]
    · obtain hi | hi := List.mem_append.1 hi
      · exact hlater i hi
      · rw [List.mem_singleton.1 hi]
        exact fun hmem => hnew (hsent ▸ List.mem_append_left _ hmem)

theorem Silent.sentOver {k : WorkspaceId × NotificationProvider} {s s' : Service} (hs : Silent k s s') :
    ∃ late, s'.sentOver k = s.sentOver k ++ late ∧ ∀ j ∈ late, s.callsOver k j = true ∧ j ∉ s.sent := by
  obtain ⟨later, hsent, hlater⟩ := hs.sent
  have hcalls : s'.callsOver k = s.callsOver k := funext hs.calls
  refine ⟨later.filter (s.callsOver k), ?_, fun j hj => ?_⟩
  · unfold Service.sentOver
    rw [hcalls, hsent, List.filter_append]
  · obtain ⟨hj, hover⟩ := List.mem_filter.1 hj
    exact ⟨hover, hlater j hj⟩

/-- **No alert over a deleted channel**: once its deletion is answered, only a call that had read the configuration
before sends over it in this workspace, and nobody does when there is none, whatever messages wait and handlers run,
until a request adds it again. -/
theorem silent_after_deletion {workspaceId : WorkspaceId} {channel : NotificationProvider}
    {s s₁ s' : Service} {r : Request}
    {actions : List Action} (hroute : r.route = .deleteChannel workspaceId channel)
    (hanswer : respond r s.store = .noContent) (hdelete : step databases texts s (.settings (.request r)) = some s₁)
    (h : run (step databases texts) s₁ actions = some s') (hactions : ∀ a ∈ actions, ¬ Adds (workspaceId, channel) a) :
    (∃ late, s'.sentOver (workspaceId, channel) = s.sentOver (workspaceId, channel) ++ late ∧
      ∀ j ∈ late, s.callsOver (workspaceId, channel) j = true ∧ j ∉ s.sent) ∧
    ((∀ j, s.callsOver (workspaceId, channel) j = true → j ∈ s.sent) →
      s'.sentOver (workspaceId, channel) = s.sentOver (workspaceId, channel)) := by
  cases hdelete
  have hreads : callOf texts s (.settings (.request r)) = none := by
    change sendTest texts s.store r = none
    unfold sendTest
    rw [hroute]
  have hstart : Silent (workspaceId, channel) s
      { s with
        store := (exec (handle r) s.store).2
        calls := s.calls ++ (callOf texts s (.settings (.request r))).toList } := by
    rw [hreads, Option.toList_none, List.append_nil]
    exact ⟨without_of_deleted hroute hanswer, fun j => rfl, [], (List.append_nil _).symm, fun j hj => (by cases hj)⟩
  have hsilent := run_along (I := Silent (workspaceId, channel) s) (C := fun _ a => ¬ Adds (workspaceId, channel) a)
    (fun _ _ _ hs ha hstep => silent_step hs ha hstep) hstart (along_of_forall hactions _) h
  obtain ⟨late, hlate, hcalls⟩ := hsilent.sentOver
  refine ⟨⟨late, hlate, hcalls⟩, fun hdone => ?_⟩
  have hnone : late = [] := List.eq_nil_iff_forall_not_mem.2 fun j hj => (hcalls j hj).2 (hdone j (hcalls j hj).1)
  rw [hlate, hnone, List.append_nil]

/-! ### One event, one alert on two channels, of which one is configured -/

def acmeAlerting : NotificationStore := { acmeNotifications with
  providerConfigs := ⟨[⟨1, .slack, "alerts", [("webhook_url", .text "hooks")]⟩], by decide⟩
  alerts := ⟨[⟨1, ⟨[("aws_cis_2_0", { severity := .low, channels := [.slack, .email] })], by decide⟩⟩], by decide⟩ }

def acmeCollected : Collected := ⟨1, [(2, ⟨"123456789012", 40, 60, january, some "task", []⟩)]⟩

/-- The event is handled, both messages are delivered, and one of them again. -/
def alerted : List Action :=
  [.starts acmeCollected january, .works 0 (some (inventory twoChecks [("b", "critical"), ("a", "low")])),
    .works 0 none,
    .works 0 none, .works 0 none, .delivers 0, .delivers 1, .sends 0, .delivers 0, .sends 1]

def alertedService : Service := (run (step (fun _ => true) noTexts) (init acmeAlerting) alerted).get (by decide +kernel)

theorem alerted_books : Books (fun _ => true) noTexts acmeAlerting alerted alertedService ∧
    alertedService.stream.map (·.channel) = [.slack, .email] ∧
      alertedService.calls.map (·.message.channel) = [.slack, .slack] ∧ alertedService.sent = [0, 1] :=
  ⟨alertBooks_of_run (Option.some_get _).symm, by decide +kernel, by decide +kernel, by decide +kernel⟩

/-- The admin tries Slack and deletes it while both messages wait. -/
def testsSlack : Request :=
  ⟨some (createToken none january 12 "login" []), january, ⟨true, some none, fun _ _ => true⟩, .sendTestAlert 1 .slack⟩

def deletesSlack : Request :=
  ⟨some (createToken none january 12 "login" []), january, ⟨true, none, fun _ _ => true⟩, .deleteChannel 1 .slack⟩

def waiting : Service :=
  (run (step (fun _ => true) noTexts) (init acmeAlerting)
    (alerted.take 5 ++ [.settings (.request testsSlack), .sends 0])).get
    (by decide +kernel)

def deletedService : Service :=
  (run (step (fun _ => true) noTexts) waiting [.settings (.request deletesSlack)]).get (by decide +kernel)

/-- The messages are delivered, and the test is asked for again. -/
def afterDeletion : List Action := [.delivers 0, .delivers 1, .settings (.request testsSlack)]

def deliveredService : Service :=
  (run (step (fun _ => true) noTexts) deletedService afterDeletion).get (by decide +kernel)

theorem deletesSlack_silent : waiting.stream.map (·.channel) = [.slack, .email] ∧ waiting.sentOver (1, .slack) = [0] ∧
    deliveredService.sentOver (1, .slack) = waiting.sentOver (1, .slack) := by
  refine ⟨by decide +kernel, by decide +kernel, ?_⟩
  have hdelete : step (fun _ => true) noTexts waiting (.settings (.request deletesSlack)) = some deletedService := by
    obtain ⟨s, hs, hnil⟩ := run_cons.1 (Option.some_get (by decide +kernel : (run (step (fun _ => true) noTexts) waiting
      [.settings (.request deletesSlack)]).isSome = true)).symm
    cases hnil
    exact hs
  have hrun : run (step (fun _ => true) noTexts) deletedService afterDeletion = some deliveredService :=
    (Option.some_get _).symm
  refine (silent_after_deletion (r := deletesSlack) rfl (by decide +kernel) hdelete hrun ?_).2 fun j hj => ?_
  · intro a ha
    unfold afterDeletion at ha
    simp only [List.mem_cons, List.not_mem_nil, or_false] at ha
    rcases ha with rfl | rfl | rfl
    · exact fun h => h
    · exact fun h => h
    · exact fun h => (by cases h)
  · have hcalls : waiting.calls.length = 1 := by decide +kernel
    have hsent : waiting.sent = [0] := by decide +kernel
    unfold Service.callsOver at hj
    obtain ⟨c, hc, -⟩ := (Option.any_eq_true _ _).1 hj
    have hlt : j < 1 := hcalls ▸ (List.getElem?_eq_some_iff.1 hc).1
    rw [hsent, Nat.lt_one_iff.1 hlt]
    exact List.mem_singleton_self 0

end AlertDelivery

end Fix
