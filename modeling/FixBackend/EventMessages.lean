import FixBackend.BenchmarkAlerts
import FixBackend.Codecs
import FixBackend.EventHandlers
import FixBackend.Events
import FixBackend.Sqs
import FixBackend.Texts
/-!
# EventMessages — domain events on the wire

`Event.to_json` and `Event.from_json` of `fixbackend/domain_events/events.py` with the hooks of `converter.py`: the
class attributes of each event, how `cattrs` writes them and how it reads them.  The kind is not a part of the
message; it stands beside it and selects the class that reads it.  Documents of other types than the ones that
`to_json` writes are refused, where `cattrs` would call `str` or `int` on them.
-/
namespace Fix

open BenchmarkAlerts Calendar Codecs NotificationRouter Texts

namespace EventMessages

open Sqs (Json)

inductive StructureError where
  | missing (name : String)
  | badType
  | badValue
deriving DecidableEq

/-- Python's `not`. -/
def falsy : Json → Bool
  | .null => true
  | .bool b => !b
  | .number q => decide (q = 0)
  | .string s => decide (s = "")
  | .array elements => elements.isEmpty
  | .object fields => fields.isEmpty

def isNull : Json → Bool
  | .null => true
  | _ => false

def readItems : Json → Except StructureError (List Json)
  | .array elements => .ok elements
  | _ => .error .badType

def readFields : Json → Except StructureError (List (String × Json))
  | .object fields => .ok fields
  | _ => .error .badType

def json : Format StructureError Json where
  null := .null
  isNull := isNull
  isNull_null := rfl
  items := .array
  readItems := readItems
  readItems_items _ := rfl
  object := .object
  fields := readFields
  fields_object _ := rfl

abbrev JsonCodec (α : Type) := Codec StructureError Json α

/-! ## Values -/

def text {α : Type} (write : α → String) (read : String → Option α) (Valid : α → Prop)
    (h : ∀ a, Valid a → read (write a) = some a) : JsonCodec α where
  unstructure a := .string (write a)
  structured
    | .string s =>
      match read s with
      | some a => .ok a
      | none => .error .badValue
    | _ => .error .badType
  Valid := Valid
  reads a ha := by
    dsimp only
    rw [h a ha]

def string : JsonCodec String := text id some (fun _ => True) fun _ _ => rfl

/-- The keys of a dictionary are texts too. -/
def uuidKey : Codec StructureError String Uuid where
  unstructure n := String.ofList (uuidText n)
  structured s :=
    match readUuid s.toList with
    | some n => .ok n
    | none => .error .badValue
  Valid n := n < 2 ^ 128
  reads n hn := by rw [String.toList_ofList, readUuid_uuidText hn]

def uuid : JsonCodec Uuid :=
  text (fun n => String.ofList (uuidText n)) (fun s => readUuid s.toList) (fun n => n < 2 ^ 128) fun n hn => by
    rw [String.toList_ofList, readUuid_uuidText hn]

def datetime : JsonCodec DateTime :=
  text (fun t => String.ofList (isoformat t)) (fun s => fromIsoformat s.toList) (fun t => t.date.year ≤ 9999)
    fun t ht => by
    rw [String.toList_ofList, fromIsoformat_isoformat ht]

def bool : JsonCodec Bool where
  unstructure := .bool
  structured d := .ok !falsy d
  Valid _ := True
  reads b _ := by cases b <;> rfl

/-- `int`, which cuts what is after the point. -/
def int : JsonCodec Int where
  unstructure i := .number i
  structured
    | .number q => .ok (q.num.tdiv q.den)
    | .bool b => .ok (if b then 1 else 0)
    | _ => .error .badType
  Valid _ := True
  reads i _ := by
    dsimp only
    rw [Rat.num_intCast, Rat.den_intCast, Nat.cast_one, Int.tdiv_one]

def nat : JsonCodec Nat where
  unstructure n := int.unstructure n
  structured d := do
    match ← int.structured d with
    | .ofNat n => return n
    | .negSucc _ => throw .badValue
  Valid _ := True
  reads n _ := by
    rw [int.reads n trivial]
    rfl

def named {α : Type} (name : α → String) (all : List α) (hall : ∀ a, a ∈ all) (h : Function.Injective name) :
    JsonCodec α :=
  text name (fun s => all.find? fun a => decide (name a = s)) (fun _ => True) fun a _ => by
    cases hfind : all.find? fun x => decide (name x = name a) with
    | none => exact absurd (List.find?_eq_none.1 hfind a (hall a)) (by simp)
    | some b => exact congrArg some (h (by simpa using List.find?_some hfind))

def optional {α : Type} (c : JsonCodec α) : JsonCodec (Option α) := json.optional c

def list {α : Type} (c : JsonCodec α) : JsonCodec (List α) := json.list c

def dict {α : Type} (c : JsonCodec α) : JsonCodec (List (Uuid × α)) := json.dict uuidKey c

abbrev JsonAttrs (α : Type) := Attrs StructureError Json α

def last {α : Type} (name : String) (c : JsonCodec α) : JsonAttrs α := Attrs.field name (.missing name) c

def attr {α β : Type} (name : String) (c : JsonCodec α) (others : JsonAttrs β) : JsonAttrs (α × β) :=
  (last name c).and others

/-! ### The values of the enumerations -/

def cloudValue : CloudName → String
  | .aws => "aws"
  | .gcp => "gcp"
  | .azure => "azure"

theorem cloudValue_injective : Function.Injective cloudValue := by
  intro a b h
  cases a <;> cases b <;> first | rfl | exact absurd h (by decide)

def cloud : JsonCodec CloudName :=
  named cloudValue [.aws, .gcp, .azure] (fun a => by cases a <;> decide) cloudValue_injective

def productTierValue : ProductTier → String
  | .trial => "Trial"
  | .free => "Free"
  | .plus => "Plus"
  | .business => "Business"
  | .enterprise => "Enterprise"

theorem productTierValue_injective : Function.Injective productTierValue := by
  intro a b h
  cases a <;> cases b <;> first | rfl | exact absurd h (by decide)

def productTier : JsonCodec ProductTier :=
  named productTierValue [.trial, .free, .plus, .business, .enterprise] (fun a => by cases a <;> decide)
    productTierValue_injective

def degradationReasonValue : DegradationReason → String
  | .stackDeleted => "stack_deleted"
  | .other => "other"

theorem degradationReasonValue_injective : Function.Injective degradationReasonValue := by
  intro a b h
  cases a <;> cases b <;> first | rfl | exact absurd h (by decide)

def degradationReason : JsonCodec DegradationReason :=
  named degradationReasonValue [.stackDeleted, .other] (fun a => by cases a <;> decide) degradationReasonValue_injective

def methodValue : SubscriptionKind → String
  | .awsMarketplace => "aws_marketplace"
  | .stripe => "stripe"

theorem methodValue_injective : Function.Injective methodValue := by
  intro a b h
  cases a <;> cases b <;> first | rfl | exact absurd h (by decide)

def method : JsonCodec SubscriptionKind :=
  named methodValue [.awsMarketplace, .stripe] (fun a => by cases a <;> decide) methodValue_injective

theorem severityName_injective : Function.Injective severityName := by
  intro a b h
  cases a <;> cases b <;> first | rfl | exact absurd h (by decide)

def severity : JsonCodec ReportSeverity :=
  named severityName reportSeverityList (fun a => by cases a <;> decide) severityName_injective

def providerValue : NotificationProvider → String
  | .email => "email"
  | .slack => "slack"
  | .discord => "discord"
  | .pagerduty => "pagerduty"
  | .teams => "teams"
  | .opsgenie => "opsgenie"

theorem providerValue_injective : Function.Injective providerValue := by
  intro a b h
  cases a <;> cases b <;> first | rfl | exact absurd h (by decide)

def provider : JsonCodec NotificationProvider :=
  named providerValue [.email, .slack, .discord, .pagerduty, .teams, .opsgenie] (fun a => by cases a <;> decide)
    providerValue_injective

/-! ## The classes of events -/

def accountInfo : JsonAttrs CloudAccountCollectInfo :=
  (attr "account_id" string <| attr "scanned_resources" nat <| attr "duration_seconds" nat <|
    attr "started_at" datetime <| attr "task_id" (optional string) <| last "errors" (list string)).mapped
    (fun (accountId, scanned, duration, started, taskId, errors) =>
      ⟨accountId, scanned, duration, started, taskId, errors⟩)
    (fun i => (i.accountId, i.scannedResources, i.durationSeconds, i.startedAt, i.taskId, i.errors)) fun _ => rfl

theorem accountInfo_nodup : accountInfo.names.Nodup := by decide

def collectInfo : JsonCodec CloudAccountCollectInfo := json.record accountInfo accountInfo_nodup

end EventMessages

open EventMessages Sqs

inductive EventKind where
  | userRegistered
  | userLoggedIn
  | cloudAccountDiscovered
  | cloudAccountConfigured
  | cloudAccountDeleted
  | cloudAccountDegraded
  | cloudAccountNameChanged
  | cloudAccountActiveToggled
  | cloudAccountScanToggled
  | tenantAccountsCollected
  | tenantAccountsCollectFailed
  | workspaceCreated
  | invitationAccepted
  | userJoinedWorkspace
  | productTierChanged
  | subscriptionCreated
  | subscriptionCancelled
  | failingBenchmarkChecksAlertSend
  | billingEntryCreated
  | alertNotificationSetupUpdated
deriving DecidableEq

namespace EventKind

def name : EventKind → String
  | userRegistered => "user_registered"
  | userLoggedIn => "user_logged_in"
  | cloudAccountDiscovered => "cloud_account_discovered"
  | cloudAccountConfigured => "cloud_account_configured"
  | cloudAccountDeleted => "cloud_account_deleted"
  | cloudAccountDegraded => "aws_account_degraded"
  | cloudAccountNameChanged => "cloud_account_name_changed"
  | cloudAccountActiveToggled => "cloud_account_active_toggled"
  | cloudAccountScanToggled => "cloud_account_scan_toggled"
  | tenantAccountsCollected => "tenant_accounts_collected"
  | tenantAccountsCollectFailed => "tenant_accounts_collect_failed"
  | workspaceCreated => "workspace_created"
  | invitationAccepted => "workspace_invitation_accepted"
  | userJoinedWorkspace => "user_joined_workspace"
  | productTierChanged => "product_tier_changed"
  | subscriptionCreated => "subscription_created"
  | subscriptionCancelled => "subscription_cancelled"
  | failingBenchmarkChecksAlertSend => "failing_benchmark_checks_alert_send"
  | billingEntryCreated => "billing_entry_created"
  | alertNotificationSetupUpdated => "alert_notification_setup_updated"

theorem name_injective : Function.Injective name := by
  intro a b h
  cases a <;> cases b <;> first | rfl | exact absurd h (by decide)

/-- The values of the attributes of a class, in the order of `attrs`. -/
@[reducible] def Fields : EventKind → Type
  | userRegistered => UserId × String × WorkspaceId
  | userLoggedIn => UserId × String
  | cloudAccountDiscovered | cloudAccountConfigured => CloudName × FixCloudAccountId × WorkspaceId × CloudAccountId
  | cloudAccountDeleted => CloudName × UserId × FixCloudAccountId × WorkspaceId × CloudAccountId
  | cloudAccountDegraded =>
    CloudName × FixCloudAccountId × WorkspaceId × CloudAccountId × Option String × String × Option DegradationReason
  | cloudAccountNameChanged =>
    FixCloudAccountId × WorkspaceId × CloudName × CloudAccountId × String × Option UserCloudAccountName × Option String
  | cloudAccountActiveToggled => WorkspaceId × FixCloudAccountId × CloudAccountId × Bool
  | cloudAccountScanToggled => WorkspaceId × FixCloudAccountId × CloudAccountId × Bool × Bool
  | tenantAccountsCollected =>
    WorkspaceId × List (FixCloudAccountId × CloudAccountCollectInfo) ×
      List (FixCloudAccountId × CloudAccountCollectInfo) × Option DateTime
  | tenantAccountsCollectFailed =>
    WorkspaceId × List (FixCloudAccountId × CloudAccountCollectInfo) × Option DateTime
  | workspaceCreated => WorkspaceId × String × String × UserId
  | invitationAccepted => WorkspaceId × Option UserId × String
  | userJoinedWorkspace => WorkspaceId × UserId
  | productTierChanged => WorkspaceId × UserId × ProductTier × Bool × Bool × ProductTier
  | subscriptionCreated => Option WorkspaceId × UserId × SubscriptionId × SubscriptionKind
  | subscriptionCancelled => SubscriptionId × SubscriptionKind
  | failingBenchmarkChecksAlertSend => WorkspaceId × BenchmarkName × ReportSeverity × Int × List NotificationProvider
  | billingEntryCreated => WorkspaceId × SubscriptionId × String × Int
  | alertNotificationSetupUpdated => WorkspaceId × UserId × NotificationProvider

def attrs : (kind : EventKind) → JsonAttrs kind.Fields
  | userRegistered => attr "user_id" uuid <| attr "email" string <| last "tenant_id" uuid
  | userLoggedIn => attr "user_id" uuid <| last "email" string
  | cloudAccountDiscovered | cloudAccountConfigured =>
    attr "cloud" cloud <| attr "cloud_account_id" uuid <| attr "tenant_id" uuid <| last "account_id" string
  | cloudAccountDeleted =>
    attr "cloud" cloud <| attr "user_id" uuid <| attr "cloud_account_id" uuid <| attr "tenant_id" uuid <|
      last "account_id" string
  | cloudAccountDegraded =>
    attr "cloud" cloud <| attr "cloud_account_id" uuid <| attr "tenant_id" uuid <| attr "account_id" string <|
      attr "account_name" (optional string) <| attr "error" string <| last "reason" (optional degradationReason)
  | cloudAccountNameChanged =>
    attr "cloud_account_id" uuid <| attr "tenant_id" uuid <| attr "cloud" cloud <| attr "account_id" string <|
      attr "state" string <| attr "name" (optional string) <| last "final_name" (optional string)
  | cloudAccountActiveToggled =>
    attr "tenant_id" uuid <| attr "cloud_account_id" uuid <| attr "account_id" string <| last "enabled" bool
  | cloudAccountScanToggled =>
    attr "tenant_id" uuid <| attr "cloud_account_id" uuid <| attr "account_id" string <| attr "enabled" bool <|
      last "scan" bool
  | tenantAccountsCollected =>
    attr "tenant_id" uuid <| attr "cloud_accounts" (dict collectInfo) <|
      attr "cloud_accounts_failed" (dict collectInfo) <|
      last "next_run" (optional datetime)
  | tenantAccountsCollectFailed =>
    attr "tenant_id" uuid <| attr "cloud_accounts" (dict collectInfo) <| last "next_run" (optional datetime)
  | workspaceCreated =>
    attr "workspace_id" uuid <| attr "name" string <| attr "slug" string <| last "user_id" uuid
  | invitationAccepted =>
    attr "workspace_id" uuid <| attr "user_id" (optional uuid) <| last "user_email" string
  | userJoinedWorkspace => attr "workspace_id" uuid <| last "user_id" uuid
  | productTierChanged =>
    attr "workspace_id" uuid <| attr "user_id" uuid <| attr "product_tier" productTier <| attr "is_paid_tier" bool <|
      attr "is_higher_tier" bool <| last "previous_tier" productTier
  | subscriptionCreated =>
    attr "workspace_id" (optional uuid) <| attr "user_id" uuid <| attr "subscription_id" uuid <| last "method" method
  | subscriptionCancelled => attr "subscription_id" uuid <| last "method" method
  | failingBenchmarkChecksAlertSend =>
    attr "workspace_id" uuid <| attr "benchmark" string <| attr "severity" severity <|
      attr "failed_checks_count_total" int <| last "channels" (list provider)
  | billingEntryCreated =>
    attr "tenant_id" uuid <| attr "subscription_id" uuid <| attr "product_tier" string <| last "usage" int
  | alertNotificationSetupUpdated => attr "tenant_id" uuid <| attr "user_id" uuid <| last "provider" provider

end EventKind

/-- What the factories of `id` and `created_at` give. -/
structure Fresh where
  uuidStr : String
  utc : DateTime

/-- The attributes of `Event` come first. -/
def EventKind.eventAttrs (fresh : Fresh) (kind : EventKind) : JsonAttrs (String × DateTime × kind.Fields) :=
  (Attrs.fieldOr "id" fresh.uuidStr string).and ((Attrs.fieldOr "created_at" fresh.utc datetime).and kind.attrs)

theorem EventKind.eventAttrs_nodup (fresh : Fresh) (kind : EventKind) : (kind.eventAttrs fresh).names.Nodup := by
  change ("id" :: "created_at" :: kind.attrs.names).Nodup
  cases kind <;> decide

/-- A class of events, under the source's `kind`. -/
def EventKind.codec (fresh : Fresh) (kind : EventKind) : JsonCodec (String × DateTime × kind.Fields) :=
  json.record (kind.eventAttrs fresh) (kind.eventAttrs_nodup fresh)

structure Event where
  kind : EventKind
  id : String
  createdAt : DateTime
  fields : kind.Fields

namespace Event

/-- No default is used when the event is written. -/
def toJson (event : Event) : Json :=
  (event.kind.codec ⟨event.id, event.createdAt⟩).unstructure (event.id, event.createdAt, event.fields)

/-- UUIDs have 128 bits, years have four digits, and a dictionary has each key once. -/
def Valid (event : Event) : Prop :=
  (event.kind.codec ⟨event.id, event.createdAt⟩).Valid (event.id, event.createdAt, event.fields)

def structured (fresh : Fresh) (kind : EventKind) (message : Json) : Except StructureError Event := do
  let (id, createdAt, fields) ← (kind.codec fresh).structured message
  return ⟨kind, id, createdAt, fields⟩

theorem structured_toJson (fresh : Fresh) {event : Event} (h : event.Valid) :
    structured fresh event.kind event.toJson = .ok event := by
  unfold structured
  rw [show event.toJson = (event.kind.codec fresh).unstructure (event.id, event.createdAt, event.fields) from rfl,
    (event.kind.codec fresh).reads _ h]
  rfl

theorem structured_object {fresh : Fresh} {kind : EventKind} {o : List (String × Json)} {id : String}
    {createdAt : DateTime} {fields : kind.Fields} (h : (kind.eventAttrs fresh).take o = .ok (id, createdAt, fields)) :
    structured fresh kind (.object o) = .ok ⟨kind, id, createdAt, fields⟩ := by
  unfold structured
  rw [show (kind.codec fresh).structured (.object o) = (kind.eventAttrs fresh).take o from rfl, h]
  rfl

end Event

/-! ### Messages of the version before -/

namespace TenantAccountsCollected

/-- `json[name] = value` -/
def setItem (name : String) (value : Json) : List (String × Json) → List (String × Json)
  | [] => [(name, value)]
  | p :: o => if p.1 = name then (name, value) :: o else p :: setItem name value o

/-- Sets the attribute when it is missing or falsy. -/
def setDefault (name : String) (value : Json) (o : List (String × Json)) : List (String × Json) :=
  match o.lookup name with
  | some d => if falsy d then setItem name value o else o
  | none => setItem name value o

def withErrors (p : String × Json) : Except StructureError (String × Json) := do
  return (p.1, .object (setDefault "errors" (.array []) (← readFields p.2)))

/-- What `from_json` changes before it reads the message. -/
def upgraded (message : Json) : Except StructureError Json := do
  let o := setDefault "cloud_accounts_failed" (.object []) (← readFields message)
  match o.lookup "cloud_accounts" with
  | none => throw (.missing "cloud_accounts")
  | some d => return .object (setItem "cloud_accounts" (.object (← (← readFields d).mapM withErrors)) o)

end TenantAccountsCollected

def EventKind.fromJson (fresh : Fresh) (kind : EventKind) (message : Json) : Except StructureError Event :=
  match kind with
  | .tenantAccountsCollected =>
    do Event.structured fresh .tenantAccountsCollected (← TenantAccountsCollected.upgraded message)
  | kind => Event.structured fresh kind message

/-! ## What is written is read -/

namespace TenantAccountsCollected

theorem setItem_of_lookup {name : String} {value : Json} : ∀ {o : List (String × Json)}, o.lookup name = some value →
    setItem name value o = o
  | [], h => by cases h
  | p :: o, h => by
    unfold setItem
    rw [List.lookup_cons] at h
    split_ifs with hname
    · rw [hname, beq_self_eq_true] at h
      rw [← Option.some.inj h, ← hname]
    · rw [beq_false_of_ne (Ne.symm hname)] at h
      rw [setItem_of_lookup h]

theorem setDefault_of_lookup {name : String} {value d : Json} {o : List (String × Json)} (h : o.lookup name = some d)
    (hd : falsy d = true → d = value) : setDefault name value o = o := by
  unfold setDefault
  rw [h]
  dsimp only
  split_ifs with hfalsy
  · exact setItem_of_lookup (hd hfalsy ▸ h)
  · rfl

theorem withErrors_entry (p : FixCloudAccountId × CloudAccountCollectInfo) :
    withErrors ((Format.entry uuidKey collectInfo).unstructure p) =
      .ok ((Format.entry uuidKey collectInfo).unstructure p) := by
  obtain ⟨id, info⟩ := p
  have hdefault : setDefault "errors" (.array []) (accountInfo.put info) = accountInfo.put info := by
    refine setDefault_of_lookup (d := (list string).unstructure info.errors) rfl fun hfalsy => ?_
    cases herrors : info.errors with
    | nil => rfl
    | cons e errors =>
      rw [herrors] at hfalsy
      cases hfalsy
  change Except.ok (uuidKey.unstructure id, Json.object (setDefault "errors" (.array []) (accountInfo.put info))) = _
  rw [hdefault]
  rfl

theorem mapM_withErrors : ∀ accounts : List (FixCloudAccountId × CloudAccountCollectInfo),
    (accounts.map (Format.entry uuidKey collectInfo).unstructure).mapM withErrors =
      .ok (accounts.map (Format.entry uuidKey collectInfo).unstructure)
  | [] => rfl
  | p :: accounts => by
    rw [List.map_cons, List.mapM_cons, withErrors_entry, mapM_withErrors accounts]
    rfl

theorem upgraded_toJson (id : String) (createdAt : DateTime) (fields : EventKind.tenantAccountsCollected.Fields) :
    upgraded (Event.toJson ⟨.tenantAccountsCollected, id, createdAt, fields⟩) =
      .ok (Event.toJson ⟨.tenantAccountsCollected, id, createdAt, fields⟩) := by
  obtain ⟨tenantId, accounts, failed, nextRun⟩ := fields
  have hjson : Event.toJson ⟨.tenantAccountsCollected, id, createdAt, tenantId, accounts, failed, nextRun⟩ =
      .object [("id", string.unstructure id), ("created_at", datetime.unstructure createdAt),
        ("tenant_id", uuid.unstructure tenantId), ("cloud_accounts", (dict collectInfo).unstructure accounts),
        ("cloud_accounts_failed", (dict collectInfo).unstructure failed),
        ("next_run", (optional datetime).unstructure nextRun)] := rfl
  have hdefault : ∀ o : List (String × Json),
      o.lookup "cloud_accounts_failed" = some ((dict collectInfo).unstructure failed) →
      setDefault "cloud_accounts_failed" (.object []) o = o := by
    intro o ho
    refine setDefault_of_lookup ho fun hfalsy => ?_
    cases failed with
    | nil => rfl
    | cons p failed => cases hfalsy
  rw [hjson]
  unfold upgraded
  dsimp only [readFields, bind, Except.bind]
  rw [hdefault _ rfl]
  change (((accounts.map (Format.entry uuidKey collectInfo).unstructure).mapM withErrors).bind fun l =>
    .ok (Json.object (setItem "cloud_accounts" (.object l) _))) = _
  rw [mapM_withErrors]
  dsimp only [Except.bind]
  rw [setItem_of_lookup rfl]

end TenantAccountsCollected

theorem EventKind.fromJson_of_ne (fresh : Fresh) {kind : EventKind} (h : kind ≠ .tenantAccountsCollected)
    (message : Json) :
    kind.fromJson fresh message = Event.structured fresh kind message := by
  cases kind <;> first | rfl | exact absurd rfl h

/-- **An event is read from its message as the event it was.** -/
theorem EventKind.fromJson_toJson (fresh : Fresh) {event : Event} (h : event.Valid) :
    event.kind.fromJson fresh event.toJson = .ok event := by
  by_cases hkind : event.kind = .tenantAccountsCollected
  · obtain ⟨kind, id, createdAt, fields⟩ := event
    subst hkind
    unfold fromJson
    dsimp only
    rw [TenantAccountsCollected.upgraded_toJson]
    dsimp only [bind, Except.bind]
    exact Event.structured_toJson fresh h
  · rw [fromJson_of_ne fresh hkind]
    exact Event.structured_toJson fresh h

/-! ### Messages of the version before are read -/

namespace TenantAccountsCollected

def withoutName (name : String) : Json → Json
  | .object o => .object (o.filter (·.1 ≠ name))
  | d => d

def mapValues (f : Json → Json) : Json → Json
  | .object o => .object (o.map fun p => (p.1, f p.2))
  | d => d

/-- The message as the version before wrote it: no accounts that failed and no errors of an account. -/
def previous (message : Json) : Json :=
  match withoutName "cloud_accounts_failed" message with
  | .object o =>
    .object (o.map fun p => if p.1 = "cloud_accounts" then (p.1, mapValues (withoutName "errors") p.2) else p)
  | d => d

def cleared (accounts : List (FixCloudAccountId × CloudAccountCollectInfo)) :
    List (FixCloudAccountId × CloudAccountCollectInfo) := accounts.map fun p => (p.1, { p.2 with errors := [] })

theorem mapM_withErrors_previous : ∀ accounts : List (FixCloudAccountId × CloudAccountCollectInfo),
    ((accounts.map (Format.entry uuidKey collectInfo).unstructure).map fun p => (p.1, withoutName "errors" p.2)).mapM
      withErrors = .ok ((cleared accounts).map (Format.entry uuidKey collectInfo).unstructure)
  | [] => rfl
  | p :: accounts => by
    have hentry : withErrors (((Format.entry uuidKey collectInfo).unstructure p).1,
        withoutName "errors" ((Format.entry uuidKey collectInfo).unstructure p).2) =
        .ok ((Format.entry uuidKey collectInfo).unstructure (p.1, { p.2 with errors := [] })) := rfl
    rw [List.map_cons, List.map_cons, List.mapM_cons, hentry, mapM_withErrors_previous accounts]
    rfl

theorem upgraded_previous (id : String) (createdAt : DateTime) (tenantId : WorkspaceId)
    (accounts failed : List (FixCloudAccountId × CloudAccountCollectInfo)) (nextRun : Option DateTime) :
    upgraded (previous (Event.toJson ⟨.tenantAccountsCollected, id, createdAt, tenantId, accounts, failed, nextRun⟩)) =
      .ok (.object [("id", string.unstructure id), ("created_at", datetime.unstructure createdAt),
        ("tenant_id", uuid.unstructure tenantId), ("cloud_accounts", (dict collectInfo).unstructure (cleared accounts)),
        ("next_run", (optional datetime).unstructure nextRun), ("cloud_accounts_failed", .object [])]) := by
  have hprevious : previous
      (Event.toJson ⟨.tenantAccountsCollected, id, createdAt, tenantId, accounts, failed, nextRun⟩) =
      .object [("id", string.unstructure id), ("created_at", datetime.unstructure createdAt),
        ("tenant_id", uuid.unstructure tenantId),
        ("cloud_accounts", .object ((accounts.map (Format.entry uuidKey collectInfo).unstructure).map fun p =>
          (p.1, withoutName "errors" p.2))),
        ("next_run", (optional datetime).unstructure nextRun)] := rfl
  rw [hprevious]
  change ((((accounts.map (Format.entry uuidKey collectInfo).unstructure).map fun p =>
      (p.1, withoutName "errors" p.2)).mapM
    withErrors).bind fun l => .ok (Json.object (setItem "cloud_accounts" (.object l) _))) = _
  rw [mapM_withErrors_previous]
  rfl

theorem valid_cleared {accounts : List (FixCloudAccountId × CloudAccountCollectInfo)}
    (h : (dict collectInfo).Valid accounts) : (dict collectInfo).Valid (cleared accounts) := by
  obtain ⟨hnodup, hentries⟩ := h
  have hkeys : (cleared accounts).map Prod.fst = accounts.map Prod.fst := by
    rw [cleared, List.map_map]
    rfl
  refine ⟨hkeys ▸ hnodup, fun p hp => ?_⟩
  obtain ⟨q, hq, rfl⟩ := List.mem_map.1 hp
  obtain ⟨hkey, haccount, hscanned, hduration, hstarted, htask, -⟩ := hentries q hq
  exact ⟨hkey, haccount, hscanned, hduration, hstarted, htask, fun e he => absurd he (List.not_mem_nil)⟩

/-- **A message of the version before is read as the event in which no account failed and none had errors.** -/
theorem fromJson_previous (fresh : Fresh) {id : String} {createdAt : DateTime} {tenantId : WorkspaceId}
    {accounts failed : List (FixCloudAccountId × CloudAccountCollectInfo)} {nextRun : Option DateTime}
    (h : Event.Valid ⟨.tenantAccountsCollected, id, createdAt, tenantId, accounts, failed, nextRun⟩) :
    EventKind.tenantAccountsCollected.fromJson fresh
      (previous (Event.toJson ⟨.tenantAccountsCollected, id, createdAt, tenantId, accounts, failed, nextRun⟩)) =
      .ok ⟨.tenantAccountsCollected, id, createdAt, tenantId, cleared accounts, [], nextRun⟩ := by
  obtain ⟨hid, hcreated, htenant, haccounts, -, hnext⟩ := h
  unfold EventKind.fromJson
  dsimp only
  rw [upgraded_previous]
  dsimp only [bind, Except.bind]
  -- The names are there, the new ones at the end.
  have hread := (EventKind.tenantAccountsCollected.eventAttrs fresh).take_put
    (id, createdAt, tenantId, cleared accounts, [], nextRun)
    [("id", string.unstructure id), ("created_at", datetime.unstructure createdAt),
      ("tenant_id", uuid.unstructure tenantId), ("cloud_accounts", (dict collectInfo).unstructure (cleared accounts)),
      ("next_run", (optional datetime).unstructure nextRun), ("cloud_accounts_failed", .object [])]
    ⟨hid, hcreated, htenant, valid_cleared haccounts, ⟨List.nodup_nil, fun p hp => absurd hp List.not_mem_nil⟩, hnext⟩
    (List.forall_mem_cons.2 ⟨rfl, List.forall_mem_cons.2 ⟨rfl, List.forall_mem_cons.2 ⟨rfl, List.forall_mem_cons.2 ⟨rfl,
      List.forall_mem_cons.2 ⟨rfl, List.forall_mem_cons.2 ⟨rfl, List.forall_mem_nil _⟩⟩⟩⟩⟩⟩)
  exact Event.structured_object hread

def collected : Event :=
  ⟨.tenantAccountsCollected, "completed", ⟨⟨2024, 1, 1, valid_newYear⟩, 0, midnight_inDay⟩, 1,
    [(2, ⟨"123456789012", 40, 60, ⟨⟨2024, 1, 1, valid_newYear⟩, 0, midnight_inDay⟩, some "task", ["denied"]⟩)], [],
      none⟩

theorem valid_collected : collected.Valid := by
  refine ⟨trivial, (by decide : 2024 ≤ 9999), (by decide : 1 < 2 ^ 128), ⟨List.nodup_singleton _, ?_⟩,
    ⟨List.nodup_nil, fun p hp => absurd hp List.not_mem_nil⟩, fun t ht => by cases ht⟩
  intro p hp
  obtain rfl := List.mem_singleton.1 hp
  refine ⟨(by decide : 2 < 2 ^ 128), trivial, trivial, trivial, (by decide : 2024 ≤ 9999), ?_, fun e _ => trivial⟩
  intro t ht
  cases ht
  exact ⟨trivial, rfl⟩

theorem fromJson_previous_collected :
    EventKind.tenantAccountsCollected.fromJson ⟨"received", collected.createdAt⟩ (previous collected.toJson) =
      .ok ⟨.tenantAccountsCollected, "completed", collected.createdAt, 1,
        [(2, ⟨"123456789012", 40, 60, collected.createdAt, some "task", []⟩)], [], none⟩ :=
  fromJson_previous _ valid_collected

end TenantAccountsCollected

/-! ## From the publisher to the handlers -/

def EventKind.eventCls (fresh : Fresh) (kind : EventKind) : EventClass Json Event StructureError :=
  ⟨kind.name, kind.fromJson fresh⟩

namespace DomainEventSubscriber

section Classes

variable {Json Event Exception Handler Backoff : Type} (defaultBackoff : Backoff)

theorem eventCls_subscribeAll {subscriptions : List (Subscription Json Event Exception Handler Backoff)} {kind : String}
    {handler : HandlerDescriptor Json Event Exception Handler Backoff}
    (h : (subscribeAll defaultBackoff subscriptions).get kind = some handler) :
    ∃ s ∈ subscriptions, s.eventCls.kind = kind ∧ s.eventCls = handler.eventCls := by
  -- Over the subscriptions, for descriptors that were there before too.
  have hfold : ∀ (rest : List (Subscription Json Event Exception Handler Backoff))
      (subscribers : Subscribers Json Event Exception Handler Backoff),
      (∀ k d, subscribers.get k = some d → ∃ s ∈ subscriptions, s.eventCls.kind = k ∧ s.eventCls = d.eventCls) →
      (∀ s ∈ rest, s ∈ subscriptions) → ∀ k d, (rest.foldl (subscribe defaultBackoff) subscribers).get k = some d →
      ∃ s ∈ subscriptions, s.eventCls.kind = k ∧ s.eventCls = d.eventCls := by
    intro rest
    induction rest with
    | nil => exact fun subscribers hinv _ => hinv
    | cons s rest ih =>
      intro subscribers hinv hrest
      rw [List.foldl_cons]
      refine ih _ ?_ fun x hx => hrest x (List.mem_cons_of_mem _ hx)
      intro k d hget
      unfold subscribe at hget
      by_cases hk : k = s.eventCls.kind
      · subst hk
        rw [Dict.get_put_self] at hget
        obtain rfl := Option.some.inj hget
        cases hexisting : subscribers.get s.eventCls.kind with
        | none => exact ⟨s, hrest s List.mem_cons_self, rfl, rfl⟩
        | some existing =>
          obtain ⟨x, hx, hkind, hcls⟩ := hinv _ existing hexisting
          exact ⟨x, hx, hkind, hcls⟩
      · rw [Dict.get_put_of_ne _ _ hk] at hget
        exact hinv k d hget
  exact hfold subscriptions default (fun k d hget => by cases hget) (fun s hs => hs) kind handler h

end Classes

variable {Handler Backoff : Type} (defaultBackoff : Backoff)

def subscription (fresh : Fresh) (s : EventKind × Handler × String × Option Backoff) :
    Subscription Json Event StructureError Handler Backoff := ⟨s.1.eventCls fresh, s.2.1, s.2.2.1, s.2.2.2⟩

def listening (subscriptions : List (EventKind × Handler × String × Option Backoff)) (kind : EventKind) :
    List (Callback Handler Backoff) :=
  (subscriptions.filter (·.1 = kind)).map fun s => ⟨s.2.1, s.2.2.1, s.2.2.2.getD defaultBackoff⟩

theorem subscribedTo_name (fresh : Fresh) (subscriptions : List (EventKind × Handler × String × Option Backoff))
    (kind : EventKind) : subscribedTo defaultBackoff kind.name (subscriptions.map (subscription fresh)) =
      listening defaultBackoff subscriptions kind := by
  have hname : ∀ s : EventKind × Handler × String × Option Backoff,
      decide ((subscription fresh s).eventCls.kind = kind.name) = decide (s.1 = kind) := fun s =>
    decide_eq_decide.2 EventKind.name_injective.eq_iff
  unfold subscribedTo listening
  rw [List.filter_map, List.map_map]
  congr 1
  exact List.filter_congr fun s _ => hname s

/-- **An event that is published is handed, as the event it was, to the callbacks that subscribed to its class and to no
others.** -/
theorem processDomainEvent_toJson (fresh : Fresh) (subscriptions : List (EventKind × Handler × String × Option Backoff))
    {event : Event} (h : event.Valid) :
    processDomainEvent (subscribeAll defaultBackoff (subscriptions.map (subscription fresh))) event.kind.name
      event.toJson =
      .ok (if listening defaultBackoff subscriptions event.kind = [] then none
        else some (TaskGroup.create ((listening defaultBackoff subscriptions event.kind).map (·.call event)))) := by
  have hcallbacks := callbacksOf_subscribeAll defaultBackoff event.kind.name (subscriptions.map (subscription fresh))
  rw [subscribedTo_name] at hcallbacks
  rw [← hcallbacks]
  unfold processDomainEvent callbacksOf
  cases hget : (subscribeAll defaultBackoff (subscriptions.map (subscription fresh))).get event.kind.name with
  | none => rfl
  | some handler =>
    obtain ⟨s, hs, hkind, hcls⟩ := eventCls_subscribeAll defaultBackoff hget
    obtain ⟨⟨kind, handle, name, backoff⟩, hmem, rfl⟩ := List.mem_map.1 hs
    obtain rfl := EventKind.name_injective hkind
    have hne : handler.callbacks ≠ [] := by
      unfold callbacksOf at hcallbacks
      rw [hget] at hcallbacks
      intro hnil
      have hlistening : (⟨handle, name, backoff.getD defaultBackoff⟩ : Callback Handler Backoff) ∈
          listening defaultBackoff subscriptions event.kind :=
        List.mem_map.2 ⟨_, List.mem_filter.2 ⟨hmem, decide_eq_true rfl⟩, rfl⟩
      rw [← hcallbacks] at hlistening
      change _ ∈ handler.callbacks at hlistening
      rw [hnil] at hlistening
      cases hlistening
    have hread : handler.eventCls.fromJson event.toJson = .ok event := by
      rw [← hcls]
      exact EventKind.fromJson_toJson fresh h
    dsimp only
    rw [hread]
    dsimp only [Option.map_some, Option.getD_some]
    rw [if_neg hne]
    rfl

open TenantAccountsCollected in
theorem processDomainEvent_collected :
    processDomainEvent (subscribeAll () ([(.tenantAccountsCollected, "alert", "alerting", none),
      (.userLoggedIn, "track", "analytics", none), (.tenantAccountsCollected, "bill", "billing", none)].map
        (subscription ⟨"received", collected.createdAt⟩))) "tenant_accounts_collected" collected.toJson =
      .ok (some (TaskGroup.create [(⟨"alert", "alerting", ()⟩ : Callback String Unit).call collected,
        (⟨"bill", "billing", ()⟩ : Callback String Unit).call collected])) :=
  processDomainEvent_toJson () ⟨"received", collected.createdAt⟩ _ valid_collected

end DomainEventSubscriber

/-! ## The events of the services -/

def StateName.value : StateName → String
  | detected => "detected"
  | discovered => "discovered"
  | configured => "configured"
  | degraded => "degraded"
  | deleted => "deleted"

theorem StateName.value_injective : Function.Injective StateName.value := by
  intro a b h
  cases a <;> cases b <;> first | rfl | exact absurd h (by decide)

def DomainEvent.event (fresh : Fresh) : DomainEvent → Event
  | cloudAccountDiscovered cloud id tenantId accountId =>
    ⟨.cloudAccountDiscovered, fresh.uuidStr, fresh.utc, cloud, id, tenantId, accountId⟩
  | cloudAccountConfigured cloud id tenantId accountId =>
    ⟨.cloudAccountConfigured, fresh.uuidStr, fresh.utc, cloud, id, tenantId, accountId⟩
  | cloudAccountDeleted cloud userId id tenantId accountId =>
    ⟨.cloudAccountDeleted, fresh.uuidStr, fresh.utc, cloud, userId, id, tenantId, accountId⟩
  | cloudAccountDegraded cloud id tenantId accountId accountName error reason =>
    ⟨.cloudAccountDegraded, fresh.uuidStr, fresh.utc, cloud, id, tenantId, accountId, accountName, error, reason⟩
  | cloudAccountNameChanged id tenantId cloud accountId state name finalName =>
    ⟨.cloudAccountNameChanged, fresh.uuidStr, fresh.utc, id, tenantId, cloud, accountId, state.value, name, finalName⟩
  | cloudAccountActiveToggled tenantId id accountId enabled =>
    ⟨.cloudAccountActiveToggled, fresh.uuidStr, fresh.utc, tenantId, id, accountId, enabled⟩
  | cloudAccountScanToggled tenantId id accountId enabled scan =>
    ⟨.cloudAccountScanToggled, fresh.uuidStr, fresh.utc, tenantId, id, accountId, enabled, scan⟩
  | tenantAccountsCollected tenantId accounts failed nextRun =>
    ⟨.tenantAccountsCollected, fresh.uuidStr, fresh.utc, tenantId, accounts, failed, nextRun⟩
  | tenantAccountsCollectFailed tenantId accounts nextRun =>
    ⟨.tenantAccountsCollectFailed, fresh.uuidStr, fresh.utc, tenantId, accounts, nextRun⟩
  | billingEntryCreated tenantId subscriptionId tier usage =>
    ⟨.billingEntryCreated, fresh.uuidStr, fresh.utc, tenantId, subscriptionId, productTierValue tier, usage⟩
  | productTierChanged workspaceId userId tier paid higher previous =>
    ⟨.productTierChanged, fresh.uuidStr, fresh.utc, workspaceId, userId, tier, paid, higher, previous⟩
  | subscriptionCreated workspaceId userId subscriptionId method =>
    ⟨.subscriptionCreated, fresh.uuidStr, fresh.utc, workspaceId, userId, subscriptionId, method⟩
  | subscriptionCancelled subscriptionId method =>
    ⟨.subscriptionCancelled, fresh.uuidStr, fresh.utc, subscriptionId, method⟩

theorem DomainEvent.event_injective (fresh : Fresh) : Function.Injective (DomainEvent.event fresh) := by
  intro a b h
  have hkind := congrArg Event.kind h
  cases a <;> cases b <;> try cases hkind
  case cloudAccountNameChanged.cloudAccountNameChanged =>
    simp only [event, Event.mk.injEq, heq_eq_eq, Prod.mk.injEq, true_and] at h
    obtain ⟨rfl, rfl, rfl, rfl, hstate, rfl, rfl⟩ := h
    rw [StateName.value_injective hstate]
  case billingEntryCreated.billingEntryCreated =>
    simp only [event, Event.mk.injEq, heq_eq_eq, Prod.mk.injEq, true_and] at h
    obtain ⟨rfl, rfl, htier, rfl⟩ := h
    rw [productTierValue_injective htier]
  all_goals
    cases h
    rfl

/-- **A published message is read as the event of the service that published it**, and as no other. -/
theorem DomainEvent.fromJson_event_iff (fresh received : Fresh) {a b : DomainEvent} (h : (a.event fresh).Valid) :
    (a.event fresh).kind.fromJson received (a.event fresh).toJson = .ok (b.event fresh) ↔ a = b := by
  rw [EventKind.fromJson_toJson received h, Except.ok.injEq]
  exact (DomainEvent.event_injective fresh).eq_iff

end Fix
