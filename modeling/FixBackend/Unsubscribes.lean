import FixBackend.SigningKeys
import FixBackend.StatusUpdates
/-!
# Unsubscribes — the links that turn mails off

A mail that can be turned off carries a link with a token of its address and its kind (`email_sender.py`).  The route
`unsubscribe` of `notification_router.py` needs no login: it turns the kind off for whoever has the address
(`user_notification_repo.py`), and the loops of `scheduled_email.py` read the settings in each of their rounds.
-/
namespace Fix

open Calendar Effects Machine

/-! ## The settings of a user -/

/-- The keyword arguments of `update_notification_settings`. -/
inductive Setting where
  | weeklyReport
  | inactivityReminder
  | tutorial
  | marketing
deriving DecidableEq

namespace Setting

def name : Setting → String
  | weeklyReport => "weekly_report"
  | inactivityReminder => "inactivity_reminder"
  | tutorial => "tutorial"
  | marketing => "marketing"

def ofName (name : String) : Option Setting :=
  [weeklyReport, inactivityReminder, tutorial, marketing].find? fun setting => decide (setting.name = name)

@[simp] theorem ofName_name (setting : Setting) : ofName setting.name = some setting := by cases setting <;> decide

theorem name_of_ofName {name : String} {setting : Setting} (h : ofName name = some setting) : setting.name = name := by
  simpa using List.find?_some h

end Setting

def UserNotificationSettings.isOn (settings : UserNotificationSettings) : Setting → Bool
  | .weeklyReport => settings.weeklyReport
  | .inactivityReminder => settings.inactivityReminder
  | .tutorial => settings.tutorial
  | .marketing => settings.marketing

namespace UserNotificationSettingsRepository

abbrev Keywords := Setting → Option Bool

def getNotificationSettings (tables : MailTables) (userId : UserId) : UserNotificationSettings :=
  (tables.settings.find userId).getD ⟨userId, true, true, true, true⟩

inductive UserIdOrEmail where
  | userId (userId : UserId)
  | email (email : String)

/-- The user that is meant, `scalar_one_or_none` of those with the address. -/
def userIdOf (tables : MailTables) : UserIdOrEmail → Except Err UserId
  | .userId userId => .ok userId
  | .email email =>
    match tables.users.rows.filter fun user => decide (user.email = email) with
    | [] => .error (.valueError "User not found")
    | [user] => .ok user.id
    | _ => .error .multipleResultsFound

def assign (keywords : Keywords) (value : UserNotificationSettings) : UserNotificationSettings where
  userId := value.userId
  weeklyReport := (keywords .weeklyReport).getD value.weeklyReport
  inactivityReminder := (keywords .inactivityReminder).getD value.inactivityReminder
  tutorial := (keywords .tutorial).getD value.tutorial
  marketing := (keywords .marketing).getD value.marketing

def updateNotificationSettings (tables : MailTables) (userIdOrEmail : UserIdOrEmail) (keywords : Keywords) :
    Except Err (UserNotificationSettings × MailTables) := do
  let userId ← userIdOf tables userIdOrEmail
  let value := assign keywords (getNotificationSettings tables userId)
  return (value, { tables with settings := tables.settings.put value })

end UserNotificationSettingsRepository

open UserNotificationSettingsRepository

/-! ## Links and requests -/

/-- The entries of a token besides the audience and the time. -/
abbrev Payload := List (String × String)

variable {PrivateKey PublicKey Signature : Type}

def emailUnsubscribeAudience : String := "fix:unsubscribe"

def EmailSender.listUnsubscribe (rsa : Rs256 PrivateKey PublicKey Signature (SignedPart Payload))
    (keys : CertificateStore.State PrivateKey) (p : ProcessId) (now : Nat) (email : Email) :
    Option (Jwt Signature Payload) :=
  (truthy email.unsubscribe).map fun kind =>
    JwtService.encode rsa keys p now none [("sub", email.recipient), ("kind", kind)] [emailUnsubscribeAudience]

namespace UnsubscribeRouter

inductive Reply where
  /-- "You've successfully unsubscribed from … emails" -/
  | unsubscribed (kind : String)
  | raises (e : Err)
  /-- The `TypeError` of a keyword that `update_notification_settings` does not have. -/
  | unexpectedKeyword (kind : String)
deriving DecidableEq

def turnOff (setting : Setting) : Keywords := fun other => if other = setting then some false else none

def unsubscribe (decoded : Option (Claims Payload)) (tables : MailTables) : Reply × MailTables :=
  match decoded with
  | none => (.raises (.notAllowed "Invalid token"), tables)
  | some claims =>
    match truthy (claims.data.lookup "sub") with
    | none => (.raises (.notAllowed "Invalid token"), tables)
    | some email =>
      match truthy (claims.data.lookup "kind") with
      | none => (.raises (.notAllowed "Invalid token"), tables)
      | some kind =>
        match Setting.ofName kind with
        | none => (.unexpectedKeyword kind, tables)
        | some setting =>
          match updateNotificationSettings tables (.email email) (turnOff setting) with
          | .error e => (.raises e, tables)
          | .ok (_, tables') => (.unsubscribed kind, tables')

end UnsubscribeRouter

open UnsubscribeRouter

/-! ## The application -/

namespace Unsubscribes

structure Sent (Signature : Type) where
  userId : UserId
  email : Email
  link : Option (Jwt Signature Payload)
deriving DecidableEq

structure State (PrivateKey Signature : Type) where
  tables : MailTables
  marks : List ScheduledEmailSentEntity
  outbox : List (Sent Signature)
  keys : CertificateStore.State PrivateKey
  /-- The tokens that were signed for anything else. -/
  signed : List (Jwt Signature Payload)

def init (tables : MailTables) (files : Slot → CertKeyPair PrivateKey) : State PrivateKey Signature :=
  ⟨tables, [], [], CertificateStore.init files, []⟩

inductive Action (PrivateKey Signature : Type) where
  /-- `_send_scheduled_status_update` -/
  | statusUpdate (p : ProcessId) (o : ScheduledEmailSender.Outside)
  /-- `_new_workspaces_without_cloud_account` -/
  | newWorkspaces (p : ProcessId) (sends : Nat → Except Err PUnit)
  /-- `_send_scheduled_emails` -/
  | scheduledEmails (p : ProcessId) (sends : Nat → Except Err PUnit)
  /-- A link is followed, or any other token is sent to the route. -/
  | unsubscribe (p : ProcessId) (token : Option (Jwt Signature Payload))
  /-- `PUT /me/settings/notifications` -/
  | updateSettings (userId : UserId) (keywords : Keywords)
  /-- A token for another audience, such as the one of a login. -/
  | signs (p : ProcessId) (exp : Option Nat) (data : Payload) (audience : List String)
  | replaces (slot : Slot) (pair : CertKeyPair PrivateKey)
  /-- Users and workspaces come, change and go. -/
  | others (tables : MailTables)

section Steps

variable (rsa : Rs256 PrivateKey PublicKey Signature (SignedPart Payload)) (customerSupportUsers : List String)
  (render : Render)

def decoded (s : State PrivateKey Signature) (now : DateTime) (p : ProcessId) (token : Option (Jwt Signature Payload)) :
    Option (Claims Payload) :=
  JwtService.decode rsa s.keys p now.toMicros token [emailUnsubscribeAudience]

/-- The mails are sent, each with its link.  Without a link no key is read. -/
def post (s : State PrivateKey Signature) (now : DateTime) (p : ProcessId) (mails : List (UserId × Email)) :
    Option (State PrivateKey Signature) :=
  let sent : List (Sent Signature) := mails.map fun (userId, email) =>
    ⟨userId, email, EmailSender.listUnsubscribe rsa s.keys p now.toMicros email⟩
  if sent.any fun mail => mail.link.isSome then
    (CertificateStore.step s.keys (now.toMicros, .loads p)).map fun keys =>
      { s with outbox := s.outbox ++ sent, keys := keys }
  else some { s with outbox := s.outbox ++ sent }

def mailing (s : State PrivateKey Signature) (now : DateTime) (sends : Nat → Except Err PUnit) : Mailing :=
  ⟨s.tables, s.marks, [], sends, fun _ => now, 0⟩

def statusMails (s : State PrivateKey Signature) (now : DateTime) (o : ScheduledEmailSender.Outside) :
    ScheduledEmailSender.StatusStore :=
  (ScheduledEmailSender.sendScheduledStatusUpdate customerSupportUsers o now ⟨s.tables, s.marks, []⟩).2

def newWorkspacesMails (s : State PrivateKey Signature) (now : DateTime) (sends : Nat → Except Err PUnit) : Mailing :=
  (exec (ScheduledEmailSender.newWorkspacesWithoutCloudAccount render now) (mailing s now sends)).2

def scheduledMails (s : State PrivateKey Signature) (now : DateTime) (sends : Nat → Except Err PUnit) : Mailing :=
  (exec (ScheduledEmailSender.sendScheduledEmails render) (mailing s now sends)).2

def step (s : State PrivateKey Signature) (a : DateTime × Action PrivateKey Signature) :
    Option (State PrivateKey Signature) :=
  let (now, action) := a
  match action with
  | .statusUpdate p o =>
    let m := statusMails customerSupportUsers s now o
    post rsa { s with marks := m.marks } now p (m.mails.map fun mail => (mail.userId, mail.email))
  | .newWorkspaces p sends =>
    let m := newWorkspacesMails render s now sends
    post rsa { s with marks := m.marks } now p (m.mails.map fun mail => (mail.userId, mail.email))
  | .scheduledEmails p sends =>
    let m := scheduledMails render s now sends
    post rsa { s with marks := m.marks } now p (m.mails.map fun mail => (mail.userId, mail.email))
  | .unsubscribe p token =>
    (CertificateStore.step s.keys (now.toMicros, .loads p)).map fun keys =>
      { s with tables := (unsubscribe (decoded rsa s now p token) s.tables).2, keys := keys }
  | .updateSettings userId keywords =>
    match updateNotificationSettings s.tables (.userId userId) keywords with
    | .error _ => some s
    | .ok (_, tables) => some { s with tables := tables }
  | .signs p exp data audience =>
    if emailUnsubscribeAudience ∈ audience then none
    else (CertificateStore.step s.keys (now.toMicros, .loads p)).map fun keys =>
      { s with
        keys := keys
        signed := s.signed ++ [JwtService.encode rsa s.keys p now.toMicros exp data audience] }
  | .replaces slot pair =>
    (CertificateStore.step s.keys (now.toMicros, .replaces slot pair)).map fun keys => { s with keys := keys }
  | .others tables => some { s with tables := { tables with settings := s.tables.settings } }

end Steps

/-! ## What the settings say -/

def wants (tables : MailTables) (userId : UserId) (setting : Setting) : Bool :=
  (getNotificationSettings tables userId).isOn setting

theorem getNotificationSettings_userId (tables : MailTables) (userId : UserId) :
    (getNotificationSettings tables userId).userId = userId := by
  unfold getNotificationSettings
  cases h : tables.settings.find userId with
  | none => rfl
  | some row => exact Table.key_of_find h

theorem any_settings (tables : MailTables) (userId : UserId) (setting : Setting) :
    (tables.settings.rows.any fun row => decide (row.userId = userId) && !row.isOn setting) =
      !wants tables userId setting := by
  unfold wants getNotificationSettings
  cases h : tables.settings.find userId with
  | none =>
    have hnone := (tables.settings.find_eq_none_iff userId).1 h
    rw [List.any_eq_false.2 fun row hrow => by simp [hnone row hrow]]
    cases setting <;> rfl
  | some row =>
    rw [Option.getD_some, Bool.eq_iff_iff, List.any_eq_true]
    constructor
    · rintro ⟨other, hother, hoff⟩
      obtain ⟨hid, hoff⟩ := Bool.and_eq_true_iff.1 hoff
      have heq : tables.settings.find userId = some other :=
        (tables.settings.find_eq_some_iff userId other).2 ⟨hother, of_decide_eq_true hid⟩
      rw [h] at heq
      cases heq
      exact hoff
    · intro hoff
      exact ⟨row, Table.mem_of_find h, by rw [hoff, Table.key_of_find h]; simp⟩

theorem optedOutOfReport_eq (tables : MailTables) (userId : UserId) :
    ScheduledEmailSender.optedOutOfReport tables userId = !wants tables userId .weeklyReport :=
  any_settings tables userId .weeklyReport

theorem optedOutOfTutorial_eq (tables : MailTables) (userId : UserId) :
    ScheduledEmailSender.optedOutOfTutorial tables userId = !wants tables userId .tutorial :=
  any_settings tables userId .tutorial

@[simp] theorem isOn_assign (keywords : Keywords) (value : UserNotificationSettings) (setting : Setting) :
    (assign keywords value).isOn setting = (keywords setting).getD (value.isOn setting) := by cases setting <;> rfl

/-- **What an update changes**: the settings that were given, of the user that is meant. -/
theorem wants_update {tables tables' : MailTables} {userIdOrEmail : UserIdOrEmail} {keywords : Keywords}
    {value : UserNotificationSettings} {userId : UserId} (hid : userIdOf tables userIdOrEmail = .ok userId)
    (h : updateNotificationSettings tables userIdOrEmail keywords = .ok (value, tables')) (other : UserId)
    (setting : Setting) : wants tables' other setting =
      if other = userId then (keywords setting).getD (wants tables other setting) else wants tables other setting := by
  unfold updateNotificationSettings at h
  rw [hid] at h
  cases h
  have hkey : (assign keywords (getNotificationSettings tables userId)).userId = userId :=
    getNotificationSettings_userId tables userId
  unfold wants
  split_ifs with hother
  · subst hother
    have hfind := tables.settings.find_put_self (assign keywords (getNotificationSettings tables other))
    rw [hkey] at hfind
    rw [← isOn_assign, getNotificationSettings, hfind, Option.getD_some]
  · unfold getNotificationSettings
    dsimp only
    rw [Table.find_put_of_ne _ (by
      rw [← getNotificationSettings, hkey]
      exact hother)]

theorem update_eq_ok {tables : MailTables} {userIdOrEmail : UserIdOrEmail} {userId : UserId}
    (hid : userIdOf tables userIdOrEmail = .ok userId) (keywords : Keywords) :
    ∃ value tables', updateNotificationSettings tables userIdOrEmail keywords = .ok (value, tables') := by
  unfold updateNotificationSettings
  rw [hid]
  exact ⟨_, _, rfl⟩

theorem update_eq_error {tables : MailTables} {userIdOrEmail : UserIdOrEmail} {e : Err}
    (hid : userIdOf tables userIdOrEmail = .error e) (keywords : Keywords) :
    updateNotificationSettings tables userIdOrEmail keywords = .error e := by
  unfold updateNotificationSettings
  rw [hid]
  rfl

theorem mem_of_userIdOf {tables : MailTables} {email : String} {userId : UserId}
    (h : userIdOf tables (.email email) = .ok userId) :
    ∃ user ∈ tables.users.rows, user.id = userId ∧ user.email = email := by
  unfold userIdOf at h
  dsimp only at h
  split at h
  · cases h
  · rename_i user hfilter
    cases h
    have hmem : user ∈ tables.users.rows.filter fun user => decide (user.email = email) := by
      rw [hfilter]
      exact List.mem_singleton_self user
    obtain ⟨huser, hemail⟩ := List.mem_filter.1 hmem
    exact ⟨user, huser, rfl, of_decide_eq_true hemail⟩
  · cases h

theorem userIdOf_email {tables : MailTables} (hemails : (tables.users.rows.map (·.email)).Nodup) {user : MailUser}
    (huser : user ∈ tables.users.rows) : userIdOf tables (.email user.email) = .ok user.id := by
  have hfilter : (tables.users.rows.filter fun other => decide (other.email = user.email)) = [user] := by
    have hsingle : ∀ other ∈ tables.users.rows.filter fun other => decide (other.email = user.email), other = user := by
      intro other hother
      obtain ⟨hmem, hemail⟩ := List.mem_filter.1 hother
      exact List.inj_on_of_nodup_map hemails hmem huser (of_decide_eq_true hemail)
    have hnodup := (List.Nodup.of_map _ hemails).filter fun other => decide (other.email = user.email)
    exact List.perm_singleton.1 ((List.perm_ext_iff_of_nodup hnodup (List.nodup_singleton user)).2 fun other =>
      ⟨fun h => List.mem_singleton.2 (hsingle other h), fun h => by
        rw [List.mem_singleton.1 h]
        exact List.mem_filter.2 ⟨huser, decide_eq_true rfl⟩⟩)
  unfold userIdOf
  dsimp only
  rw [hfilter]

/-! ## What the rounds send -/

/-- A mail of a round: it goes to the address of a user for whom its kind is on. -/
structure Offered (tables : MailTables) (userId : UserId) (email : Email) : Prop where
  addressed : ∃ user ∈ tables.users.rows, user.id = userId ∧ user.email = email.recipient
  isOn : ∀ kind, email.unsubscribe = some kind → ∃ setting, setting.name = kind ∧ wants tables userId setting = true

section Rounds

variable {tables : MailTables} {customerSupportUsers : List String} {render : Render} {now : DateTime}

def AllMails (P : UserId → Email → Prop) (m : Mailing) : Prop := ∀ mail ∈ m.mails, P mail.userId mail.email

variable {P : UserId → Email → Prop}

theorem keeps_sendEmail {mail : Mail} (h : P mail.userId mail.email) :
    Keeps (AllMails P) (ScheduledEmailSender.sendEmail mail) := by
  apply Triple.of_exec
  intro m hm
  unfold ScheduledEmailSender.sendEmail
  rw [exec_bind, exec_get]
  dsimp only
  rw [exec_bind, exec_set]
  dsimp only
  cases m.sends 0 with
  | error e =>
    dsimp only
    rw [exec_throw]
    exact hm
  | ok u =>
    dsimp only
    rw [exec_modify]
    intro other hother
    obtain hold | hnew := List.mem_append.1 hother
    · exact hm other hold
    · rw [List.mem_singleton.1 hnew]
      exact h

theorem keeps_utc : Keeps (AllMails P) ScheduledEmailSender.utc := Triple.modifyGet _ fun _ hm => hm

theorem keeps_takeTurns {time : Sending DateTime} (htime : Keeps (AllMails P) time)
    {turns : List ScheduledEmailSender.Turn} (h : ∀ t ∈ turns, ∀ email, t.email = .ok email → P t.userId email) :
    Keeps (AllMails P) (ScheduledEmailSender.takeTurns time turns) := by
  refine Keeps.bind (Keeps.mapM turns fun t ht => ?_) fun added => Keeps.modify _ fun m hm => hm
  unfold ScheduledEmailSender.takeTurn
  exact Triple.lift_bind (fun email hemail => Keeps.bind (keeps_sendEmail (h t ht email hemail)) fun _ =>
    Keeps.bind htime fun _ => Keeps.pure _) fun _ hm => hm

theorem offered_newWorkspaces {marks : List ScheduledEmailSentEntity} {t : ScheduledEmailSender.Turn} {email : Email}
    (ht : t ∈ ScheduledEmailSender.newWorkspacesTurns render tables marks now) (hemail : t.email = .ok email) :
    Offered tables t.userId email := by
  obtain ⟨user, huser, rfl⟩ := List.mem_map.1 ht
  dsimp only at hemail ⊢
  cases htxt : render "no_cloud_account.txt" none with
  | error e =>
    rw [htxt] at hemail
    cases hemail
  | ok txt =>
    cases hhtml : render "no_cloud_account.html" (some user.id) with
    | error e =>
      rw [htxt, hhtml] at hemail
      cases hemail
    | ok html =>
      rw [htxt, hhtml] at hemail
      cases hemail
      exact ⟨⟨user, (List.mem_filter.1 huser).1, rfl, rfl⟩, fun kind h => by cases h⟩

theorem offered_scheduled {marks : List ScheduledEmailSentEntity} {t : ScheduledEmailSender.Turn} {email : Email}
    (ht : t ∈ ScheduledEmailSender.scheduledTurns render tables marks now) (hemail : t.email = .ok email) :
    Offered tables t.userId email := by
  obtain ⟨⟨user, toSend⟩, hpair, rfl⟩ := List.mem_map.1 ht
  obtain ⟨hmem, hdue⟩ := List.mem_filter.1 hpair
  have hon : wants tables user.id .tutorial = true := by
    have hnot := (Bool.and_eq_true_iff.1 hdue).2
    rw [optedOutOfTutorial_eq, Bool.not_not] at hnot
    exact hnot
  dsimp only at hemail ⊢
  cases hsubject : render s!"{toSend.kind}.subject" none with
  | error e =>
    rw [hsubject] at hemail
    cases hemail
  | ok subject =>
    cases htxt : render s!"{toSend.kind}.txt" none with
    | error e =>
      rw [hsubject, htxt] at hemail
      cases hemail
    | ok txt =>
      cases hhtml : render s!"{toSend.kind}.html" (some user.id) with
      | error e =>
        rw [hsubject, htxt, hhtml] at hemail
        cases hemail
      | ok html =>
        rw [hsubject, htxt, hhtml] at hemail
        cases hemail
        refine ⟨⟨user, (List.mem_product.1 hmem).1, rfl, rfl⟩, fun kind h => ?_⟩
        cases h
        exact ⟨.tutorial, rfl, hon⟩

theorem offered_attempt {kind : ScheduledEmailSender.UpdateKind} {o : ScheduledEmailSender.Outside}
    {marks : List ScheduledEmailSentEntity} {pair : Organization × MailUser} {mail : ScheduledEmailSender.StatusMail}
    (hpair : pair ∈ ScheduledEmailSender.selected customerSupportUsers kind now tables marks)
    (hmail : ScheduledEmailSender.attempt o kind now pair = some mail) : Offered tables mail.userId mail.email := by
  obtain ⟨org, user⟩ := pair
  obtain ⟨⟨-, huser⟩, hwanted, -⟩ := ScheduledEmailSender.mem_selected_iff.1 hpair
  obtain ⟨c, -, rfl⟩ := Option.map_eq_some_iff.1 hmail
  have hon : wants tables user.id .weeklyReport = true := by
    have hnot := (Bool.and_eq_true_iff.1 hwanted).2
    rw [optedOutOfReport_eq, Bool.not_not] at hnot
    exact hnot
  refine ⟨⟨user, huser, rfl, rfl⟩, fun k h => ?_⟩
  cases h
  exact ⟨.weeklyReport, rfl, hon⟩

variable {PrivateKey Signature : Type} {s : State PrivateKey Signature}

theorem offered_statusMails {o : ScheduledEmailSender.Outside} {mail : ScheduledEmailSender.StatusMail}
    (hmail : mail ∈ (statusMails customerSupportUsers s now o).mails) : Offered s.tables mail.userId mail.email := by
  have hkinds : ∀ (kinds : List ScheduledEmailSender.UpdateKind) (store : ScheduledEmailSender.StatusStore),
      store.tables = s.tables → (∀ mail ∈ store.mails, Offered s.tables mail.userId mail.email) →
      ∀ mail ∈ (ScheduledEmailSender.sendKinds customerSupportUsers o now kinds store).mails,
        Offered s.tables mail.userId mail.email := by
    intro kinds
    induction kinds with
    | nil => exact fun _ _ hmails => hmails
    | cons kind kinds ih =>
      intro store htables hmails
      obtain ⟨added, hsend, -⟩ := @ScheduledEmailSender.exec_sendEmails customerSupportUsers o kind now store
      refine ih (ScheduledEmailSender.sendEmails customerSupportUsers o kind now store).2 (by rw [hsend, htables])
        fun other hother => ?_
      rw [hsend] at hother
      obtain hold | hnew := List.mem_append.1 hother
      · exact hmails other hold
      · obtain ⟨pair, hpair, hattempt⟩ := List.mem_filterMap.1 hnew
        rw [htables] at hpair
        exact offered_attempt hpair hattempt
  unfold statusMails ScheduledEmailSender.sendScheduledStatusUpdate at hmail
  rw [ScheduledEmailSender.foldl_snd] at hmail
  exact hkinds _ ⟨s.tables, s.marks, []⟩ rfl (fun _ h => absurd h List.not_mem_nil) mail hmail

theorem allMails_mailing (s : State PrivateKey Signature) (now : DateTime) (sends : Nat → Except Err PUnit) :
    AllMails P (mailing s now sends) := fun _ h => absurd h List.not_mem_nil

theorem offered_newWorkspacesMails {sends : Nat → Except Err PUnit} {mail : Mail}
    (hmail : mail ∈ (newWorkspacesMails render s now sends).mails) : Offered s.tables mail.userId mail.email := by
  unfold newWorkspacesMails ScheduledEmailSender.newWorkspacesWithoutCloudAccount at hmail
  rw [exec_bind, exec_get] at hmail
  dsimp only at hmail
  split at hmail
  · exact absurd hmail List.not_mem_nil
  · exact (keeps_takeTurns (Keeps.pure now) fun t ht email => offered_newWorkspaces ht).after
      (allMails_mailing s now sends)
      mail hmail

theorem offered_scheduledMails {sends : Nat → Except Err PUnit} {mail : Mail}
    (hmail : mail ∈ (scheduledMails render s now sends).mails) : Offered s.tables mail.userId mail.email := by
  have hnow : exec ScheduledEmailSender.utc (mailing s now sends) =
      (.ok now, { mailing s now sends with ticks := 1 }) := rfl
  unfold scheduledMails ScheduledEmailSender.sendScheduledEmails at hmail
  rw [exec_bind, hnow] at hmail
  dsimp only at hmail
  rw [exec_bind, exec_get] at hmail
  dsimp only at hmail
  exact (keeps_takeTurns keeps_utc fun t ht email => offered_scheduled ht).after
    (s := { mailing s now sends with ticks := 1 }) (allMails_mailing s now sends) mail hmail

end Rounds

/-! ## What a step does -/

section Inversion

variable {rsa : Rs256 PrivateKey PublicKey Signature (SignedPart Payload)} {customerSupportUsers : List String}
  {render : Render}

variable (rsa) in
inductive Effect (s : State PrivateKey Signature) (now : DateTime) :
    Action PrivateKey Signature → State PrivateKey Signature → Prop
  | sends {action : Action PrivateKey Signature} {s' : State PrivateKey Signature} (p : ProcessId)
      (mails : List (UserId × Email)) (hoffered : ∀ m ∈ mails, Offered s.tables m.1 m.2)
        (htables : s'.tables = s.tables)
      (hsigned : s'.signed = s.signed) (houtbox : s'.outbox = s.outbox ++ mails.map fun m =>
        ⟨m.1, m.2, EmailSender.listUnsubscribe rsa s.keys p now.toMicros m.2⟩) : Effect s now action s'
  | unsubscribes (p : ProcessId) (token : Option (Jwt Signature Payload)) (keys : CertificateStore.State PrivateKey) :
      Effect s now (.unsubscribe p token)
        { s with tables := (unsubscribe (decoded rsa s now p token) s.tables).2, keys := keys }
  | updates {userId : UserId} {keywords : Keywords} {value : UserNotificationSettings} {tables : MailTables}
      (h : updateNotificationSettings s.tables (.userId userId) keywords = .ok (value, tables)) :
      Effect s now (.updateSettings userId keywords) { s with tables := tables }
  | signs {action : Action PrivateKey Signature} (token : Jwt Signature Payload)
      (haudience : emailUnsubscribeAudience ∉ token.claims.aud) (keys : CertificateStore.State PrivateKey) :
      Effect s now action { s with keys := keys, signed := s.signed ++ [token] }
  | rests {action : Action PrivateKey Signature} {s' : State PrivateKey Signature}
      (hsettings : s'.tables.settings = s.tables.settings) (houtbox : s'.outbox = s.outbox)
      (hsigned : s'.signed = s.signed) : Effect s now action s'

variable {s s' : State PrivateKey Signature} {now : DateTime} {action : Action PrivateKey Signature}

theorem effect_of_post {marks : List ScheduledEmailSentEntity} {p : ProcessId} {mails : List (UserId × Email)}
    (hoffered : ∀ m ∈ mails, Offered s.tables m.1 m.2) (h : post rsa { s with marks := marks } now p mails = some s') :
    Effect rsa s now action s' := by
  unfold post at h
  dsimp only at h
  split at h
  · obtain ⟨keys, -, rfl⟩ := Option.map_eq_some_iff.1 h
    exact .sends p mails hoffered rfl rfl rfl
  · cases h
    exact .sends p mails hoffered rfl rfl rfl

theorem effect_of_step (h : step rsa customerSupportUsers render s (now, action) = some s') :
    Effect rsa s now action s' := by
  cases action with
  | statusUpdate p o =>
    refine effect_of_post (fun m hm => ?_) h
    obtain ⟨mail, hmail, rfl⟩ := List.mem_map.1 hm
    exact offered_statusMails hmail
  | newWorkspaces p sends =>
    refine effect_of_post (fun m hm => ?_) h
    obtain ⟨mail, hmail, rfl⟩ := List.mem_map.1 hm
    exact offered_newWorkspacesMails hmail
  | scheduledEmails p sends =>
    refine effect_of_post (fun m hm => ?_) h
    obtain ⟨mail, hmail, rfl⟩ := List.mem_map.1 hm
    exact offered_scheduledMails hmail
  | unsubscribe p token =>
    obtain ⟨keys, -, rfl⟩ := Option.map_eq_some_iff.1 h
    exact .unsubscribes p token keys
  | updateSettings userId keywords =>
    have hid : userIdOf s.tables (.userId userId) = .ok userId := rfl
    obtain ⟨value, tables, hupdate⟩ := update_eq_ok hid keywords
    unfold step at h
    dsimp only at h
    rw [hupdate] at h
    cases h
    exact .updates hupdate
  | signs p exp data audience =>
    unfold step at h
    dsimp only at h
    split at h
    · cases h
    · rename_i haudience
      obtain ⟨keys, -, rfl⟩ := Option.map_eq_some_iff.1 h
      exact .signs _ haudience keys
  | replaces slot pair =>
    obtain ⟨keys, -, rfl⟩ := Option.map_eq_some_iff.1 h
    exact .rests rfl rfl rfl
  | others tables =>
    cases h
    exact .rests rfl rfl rfl

/-! ### The tokens that are about -/

variable (s) in
/-- The link of each mail names its address and its kind, and no other token is for the route. -/
structure Inv : Prop where
  links : ∀ mail ∈ s.outbox, ∀ token, mail.link = some token → ∃ setting : Setting,
    mail.email.unsubscribe = some setting.name ∧
      token.claims = ⟨[emailUnsubscribeAudience], none, [("sub", mail.email.recipient), ("kind", setting.name)]⟩
  signed : ∀ token ∈ s.signed, emailUnsubscribeAudience ∉ token.claims.aud

theorem inv_init (tables : MailTables) (files : Slot → CertKeyPair PrivateKey) :
    Inv (init tables files : State PrivateKey Signature) :=
  ⟨fun _ h => absurd h List.not_mem_nil, fun _ h => absurd h List.not_mem_nil⟩

theorem truthy_name (setting : Setting) : truthy (some setting.name) = some setting.name := by cases setting <;> decide

theorem link_of_offered {userId : UserId} {email : Email} {tables : MailTables} (h : Offered tables userId email)
    {keys : CertificateStore.State PrivateKey} {p : ProcessId} {token : Jwt Signature Payload}
    (hlink : EmailSender.listUnsubscribe rsa keys p now.toMicros email = some token) : ∃ setting : Setting,
      email.unsubscribe = some setting.name ∧
        token.claims = ⟨[emailUnsubscribeAudience], none, [("sub", email.recipient), ("kind", setting.name)]⟩ := by
  unfold EmailSender.listUnsubscribe at hlink
  obtain ⟨kind, hkind, rfl⟩ := Option.map_eq_some_iff.1 hlink
  have hsome : email.unsubscribe = some kind := (Option.filter_eq_some_iff.1 hkind).1
  obtain ⟨setting, rfl, -⟩ := h.isOn kind hsome
  exact ⟨setting, hsome, rfl⟩

theorem inv_of_effect (hs : Inv s) (h : Effect rsa s now action s') : Inv s' := by
  cases h with
  | sends p mails hoffered htables hsigned houtbox =>
    refine ⟨fun mail hmail token hlink => ?_, fun token htoken => hs.signed token (hsigned ▸ htoken)⟩
    rw [houtbox] at hmail
    obtain hold | hnew := List.mem_append.1 hmail
    · exact hs.links mail hold token hlink
    · obtain ⟨m, hm, rfl⟩ := List.mem_map.1 hnew
      exact link_of_offered (hoffered m hm) hlink
  | unsubscribes p token keys => exact ⟨hs.links, hs.signed⟩
  | updates h => exact ⟨hs.links, hs.signed⟩
  | signs token haudience keys =>
    refine ⟨hs.links, fun other hother => ?_⟩
    obtain hold | hnew := List.mem_append.1 hother
    · exact hs.signed other hold
    · rw [List.mem_singleton.1 hnew]
      exact haudience
  | rests hsettings houtbox hsigned => exact ⟨houtbox ▸ hs.links, hsigned ▸ hs.signed⟩

theorem inv_of_run {actions : List (DateTime × Action PrivateKey Signature)} (hs : Inv s)
    (h : run (step rsa customerSupportUsers render) s actions = some s') : Inv s' :=
  run_keeps (fun _ _ _ hs hstep => inv_of_effect hs (effect_of_step hstep)) hs h

/-! ### What the route does -/

theorem unsubscribe_cases (claims : Option (Claims Payload)) (tables : MailTables) :
    ((unsubscribe claims tables).2 = tables ∧ ∀ kind, (unsubscribe claims tables).1 ≠ .unsubscribed kind) ∨
      ∃ c email userId value tables', ∃ setting : Setting, claims = some c ∧ c.data.lookup "sub" = some email ∧
        c.data.lookup "kind" = some setting.name ∧ userIdOf tables (.email email) = .ok userId ∧
        updateNotificationSettings tables (.email email) (turnOff setting) = .ok (value, tables') ∧
        unsubscribe claims tables = (.unsubscribed setting.name, tables') := by
  unfold unsubscribe
  cases claims with
  | none => exact .inl ⟨rfl, fun _ => Reply.noConfusion⟩
  | some c =>
    dsimp only
    cases hsub : truthy (c.data.lookup "sub") with
    | none => exact .inl ⟨rfl, fun _ => Reply.noConfusion⟩
    | some email =>
      dsimp only
      cases hkind : truthy (c.data.lookup "kind") with
      | none => exact .inl ⟨rfl, fun _ => Reply.noConfusion⟩
      | some kind =>
        dsimp only
        cases hname : Setting.ofName kind with
        | none => exact .inl ⟨rfl, fun _ => Reply.noConfusion⟩
        | some setting =>
          cases Setting.name_of_ofName hname
          dsimp only
          cases hid : userIdOf tables (.email email) with
          | error e =>
            rw [update_eq_error hid]
            exact .inl ⟨rfl, fun _ => Reply.noConfusion⟩
          | ok userId =>
            obtain ⟨value, tables', hupdate⟩ := update_eq_ok hid (turnOff setting)
            rw [hupdate]
            exact .inr ⟨c, email, userId, value, tables', setting, rfl, (Option.filter_eq_some_iff.1 hsub).1,
              (Option.filter_eq_some_iff.1 hkind).1, hid, hupdate, rfl⟩

theorem wants_turnOff {tables tables' : MailTables} {email : String} {setting : Setting}
    {value : UserNotificationSettings} {userId : UserId} (hid : userIdOf tables (.email email) = .ok userId)
    (h : updateNotificationSettings tables (.email email) (turnOff setting) = .ok (value, tables')) (other : UserId)
    (asked : Setting) :
    wants tables' other asked = (wants tables other asked &&
      !(decide (other = userId) && decide (asked = setting))) := by
  rw [wants_update hid h]
  unfold turnOff
  by_cases hother : other = userId <;> by_cases hasked : asked = setting <;> simp [hother, hasked]

end Inversion

/-! ## A setting that is off -/

section Runs

variable {rsa : Rs256 PrivateKey PublicKey Signature (SignedPart Payload)} {customerSupportUsers : List String}
  {render : Render} {s s' : State PrivateKey Signature}

def TurnsOn (userId : UserId) (setting : Setting) : DateTime × Action PrivateKey Signature → Prop
  | (_, .updateSettings id keywords) => id = userId ∧ keywords setting = some true
  | _ => False

def mailsFor (userId : UserId) (setting : Setting) (outbox : List (Sent Signature)) : List (Sent Signature) :=
  outbox.filter fun mail => decide (mail.userId = userId ∧ mail.email.unsubscribe = some setting.name)

theorem name_injective : Function.Injective Setting.name := by
  intro a b h
  have hof := congrArg Setting.ofName h
  rw [Setting.ofName_name, Setting.ofName_name] at hof
  exact Option.some.inj hof

theorem off_step {userId : UserId} {setting : Setting} {a : DateTime × Action PrivateKey Signature}
    (hoff : wants s.tables userId setting = false) (ha : ¬TurnsOn userId setting a)
    (hstep : step rsa customerSupportUsers render s a = some s') : wants s'.tables userId setting = false ∧
      mailsFor userId setting s'.outbox = mailsFor userId setting s.outbox := by
  obtain ⟨now, action⟩ := a
  cases effect_of_step hstep with
  | sends p mails hoffered htables hsigned houtbox =>
    refine ⟨by rw [htables, hoff], ?_⟩
    have hnone : mailsFor userId setting (mails.map fun m =>
        (⟨m.1, m.2, EmailSender.listUnsubscribe rsa s.keys p now.toMicros m.2⟩ : Sent Signature)) = [] := by
      refine List.filter_eq_nil_iff.2 fun mail hmail habout => ?_
      obtain ⟨m, hm, rfl⟩ := List.mem_map.1 hmail
      obtain ⟨hid, hkind⟩ := of_decide_eq_true habout
      obtain ⟨other, hname, hon⟩ := (hoffered m hm).isOn setting.name hkind
      cases name_injective hname
      dsimp only at hid
      rw [hid, hoff] at hon
      cases hon
    unfold mailsFor at hnone ⊢
    rw [houtbox, List.filter_append, hnone, List.append_nil]
  | unsubscribes p token keys =>
    refine ⟨?_, rfl⟩
    obtain ⟨hsame, -⟩ | ⟨c, email, id, value, tables', other, -, -, -, hid, hupdate, heq⟩ :=
      unsubscribe_cases (decoded rsa s now p token) s.tables
    · dsimp only
      rw [hsame, hoff]
    · dsimp only
      rw [heq, wants_turnOff hid hupdate, hoff, Bool.false_and]
  | @updates id keywords value tables h =>
    have hid : userIdOf s.tables (.userId id) = .ok id := rfl
    refine ⟨?_, rfl⟩
    dsimp only
    rw [wants_update hid h, hoff]
    split_ifs with heq
    · cases hk : keywords setting with
      | none => rfl
      | some on =>
        cases on with
        | false => rfl
        | true => exact absurd ⟨heq.symm, hk⟩ ha
    · rfl
  | signs token haudience keys => exact ⟨hoff, rfl⟩
  | rests hsettings houtbox hsigned =>
    refine ⟨?_, by rw [houtbox]⟩
    unfold wants getNotificationSettings at hoff ⊢
    rw [hsettings, hoff]

theorem silent_of_off {userId : UserId} {setting : Setting} {actions : List (DateTime × Action PrivateKey Signature)}
    (hoff : wants s.tables userId setting = false) (hactions : ∀ a ∈ actions, ¬TurnsOn userId setting a)
    (h : run (step rsa customerSupportUsers render) s actions = some s') :
    mailsFor userId setting s'.outbox = mailsFor userId setting s.outbox :=
  (run_along (I := fun s' => wants s'.tables userId setting = false ∧
      mailsFor userId setting s'.outbox = mailsFor userId setting s.outbox)
    (fun _ _ _ hs ha hstep =>
      have hnext := off_step hs.1 ha hstep
      ⟨hnext.1, hnext.2.trans hs.2⟩)
    ⟨hoff, rfl⟩ (along_of_forall hactions s) h).2

/-! ## Links that are followed -/

variable (rsa) in
/-- The tokens of the requests are not forged. -/
def Unforged (s : State PrivateKey Signature) : DateTime × Action PrivateKey Signature → Prop
  | (now, .unsubscribe p token) =>
    JwtService.Unforged rsa (s.signed ++ s.outbox.filterMap (·.link)) s.keys p now.toMicros token
  | _ => True

/-- The user turns the setting off, or someone follows the link of a mail of the kind that was sent to the address
that the user has. -/
def TurnsOff (s : State PrivateKey Signature) (userId : UserId) (setting : Setting) :
    DateTime × Action PrivateKey Signature → Prop
  | (_, .updateSettings id keywords) => id = userId ∧ keywords setting = some false
  | (_, .unsubscribe _ (some token)) => ∃ mail ∈ s.outbox, mail.link = some token ∧
    mail.email.unsubscribe = some setting.name ∧
      ∃ user ∈ s.tables.users.rows, user.id = userId ∧ user.email = mail.email.recipient
  | _ => False

theorem link_of_decoded (hs : Inv s) {now : DateTime} {p : ProcessId} {token : Option (Jwt Signature Payload)}
    (hunforged : Unforged rsa s (now, .unsubscribe p token)) {claims : Claims Payload}
    (h : decoded rsa s now p token = some claims) : ∃ mail ∈ s.outbox, ∃ setting : Setting, mail.link = token ∧
      mail.email.unsubscribe = some setting.name ∧
        claims.data = [("sub", mail.email.recipient), ("kind", setting.name)] := by
  obtain ⟨issued, hissued, rfl, rfl, a, ha, haud⟩ := JwtService.issued_of_decode hunforged h
  rw [List.mem_singleton.1 ha] at haud
  obtain hsigned | hlinks := List.mem_append.1 hissued
  · exact absurd haud (hs.signed issued hsigned)
  · obtain ⟨mail, hmail, hlink⟩ := List.mem_filterMap.1 hlinks
    obtain ⟨setting, hkind, hclaims⟩ := hs.links mail hmail issued hlink
    exact ⟨mail, hmail, setting, hlink, hkind, by rw [hclaims]⟩

theorem turnsOff_of_step (hs : Inv s) {a : DateTime × Action PrivateKey Signature} (hunforged : Unforged rsa s a)
    (hstep : step rsa customerSupportUsers render s a = some s') {userId : UserId} {setting : Setting}
    (hon : wants s.tables userId setting = true) (hoff : wants s'.tables userId setting = false) :
    TurnsOff s userId setting a := by
  obtain ⟨now, action⟩ := a
  cases effect_of_step hstep with
  | sends p mails hoffered htables hsigned houtbox =>
    rw [htables, hon] at hoff
    cases hoff
  | unsubscribes p token keys =>
    dsimp only at hoff
    obtain ⟨hsame, -⟩ | ⟨c, email, id, value, tables', other, hdecoded, hsub, hkind, hid, hupdate, heq⟩ :=
      unsubscribe_cases (decoded rsa s now p token) s.tables
    · rw [hsame, hon] at hoff
      cases hoff
    · rw [heq, wants_turnOff hid hupdate, hon, Bool.true_and, Bool.not_eq_false', Bool.and_eq_true_iff] at hoff
      obtain ⟨mail, hmail, named, hlink, hname, hdata⟩ := link_of_decoded hs hunforged hdecoded
      obtain ⟨user, huser, hid', hemail⟩ := mem_of_userIdOf hid
      rw [hdata] at hsub hkind
      cases hsub
      cases name_injective (Option.some.inj hkind)
      rw [of_decide_eq_true hoff.1, of_decide_eq_true hoff.2]
      cases token with
      | none => cases hdecoded
      | some token => exact ⟨mail, hmail, hlink, hname, user, huser, hid', hemail⟩
  | @updates id keywords value tables h =>
    have hid : userIdOf s.tables (.userId id) = .ok id := rfl
    dsimp only at hoff
    rw [wants_update hid h, hon] at hoff
    split_ifs at hoff with heq
    · refine ⟨heq.symm, ?_⟩
      cases hk : keywords setting with
      | none =>
        rw [hk] at hoff
        cases hoff
      | some on =>
        rw [hk] at hoff
        exact congrArg some hoff
  | signs token haudience keys =>
    rw [hon] at hoff
    cases hoff
  | rests hsettings houtbox hsigned =>
    unfold wants getNotificationSettings at hon hoff
    rw [hsettings, hon] at hoff
    cases hoff

variable (customerSupportUsers render) in
/-- **A setting is turned off by its user or by a link that was sent to the user's address**, in every run in which
nobody forges a signature: no token for anything else, no link to another address and no round does it. -/
theorem off_by_link {tables : MailTables} {files : Slot → CertKeyPair PrivateKey}
    {actions : List (DateTime × Action PrivateKey Signature)}
    (hunforged : Along (step rsa customerSupportUsers render) (Unforged rsa) (init tables files) actions)
    (h : run (step rsa customerSupportUsers render) (init tables files) actions = some s) {userId : UserId}
    {setting : Setting} (hon : wants tables userId setting = true) (hoff : wants s.tables userId setting = false) :
    ∃ before a after mid, actions = before ++ a :: after ∧
      run (step rsa customerSupportUsers render) (init tables files) before = some mid ∧
        TurnsOff mid userId setting a := by
  revert hunforged
  revert hoff
  refine run_history (P := fun actions s => wants s.tables userId setting = false →
      Along (step rsa customerSupportUsers render) (Unforged rsa) (init tables files) actions → ∃ before a after mid,
        actions = before ++ a :: after ∧ run (step rsa customerSupportUsers render)
          (init tables files) before = some mid ∧
          TurnsOff mid userId setting a) ?_ ?_ h
  · intro hoff
    have hnever : true = false := hon.symm.trans hoff
    cases hnever
  · intro before a s₁ s₂ hbefore ih hstep hoff hunforged
    obtain ⟨hfirst, hlast⟩ := along_append hunforged hbefore
    cases hmid : wants s₁.tables userId setting with
    | true => exact ⟨before, a, [], s₁, rfl, hbefore,
        turnsOff_of_step (inv_of_run (inv_init tables files) hbefore) hlast.1 hstep hmid hoff⟩
    | false =>
      obtain ⟨first, b, rest, mid, heq, hrun, hturns⟩ := ih hmid hfirst
      exact ⟨first, b, rest ++ [a], mid, by rw [heq, List.append_assoc, List.cons_append], hrun, hturns⟩

end Runs

/-! ### A user who has had enough of the weekly report -/

section Report

open ScheduledEmailSender JwtService

def sunday : DateTime := (sundayRun []).now

/-- Process 0 sends the user the reports of both workspaces. -/
def reportRound : DateTime × Action Nat (Nat × SignedPart Payload) := (sunday, .statusUpdate 0 (sundayRun []).outside)

def mailed : State Nat (Nat × SignedPart Payload) := init ScheduledEmailSender.twoWorkspaces twoPairs

def reported : State Nat (Nat × SignedPart Payload) :=
  (step (plainRsa Payload) [] templateName mailed reportRound).get (by decide +kernel)

def report : Sent (Nat × SignedPart Payload) := reported.outbox.head (by decide +kernel)

def reportLink : Jwt (Nat × SignedPart Payload) Payload := report.link.get (by decide +kernel)

theorem report_mem : report ∈ reported.outbox := List.head_mem _

theorem link_report : report.link = some reportLink := (Option.some_get _).symm

theorem step_reportRound : step (plainRsa Payload) [] templateName mailed reportRound = some reported :=
  (Option.some_get _).symm

def follows : DateTime × Action Nat (Nat × SignedPart Payload) := (sunday, .unsubscribe 1 (some reportLink))

def unsubscribed : State Nat (Nat × SignedPart Payload) :=
  (step (plainRsa Payload) [] templateName reported follows).get (by decide +kernel)

theorem step_follows : step (plainRsa Payload) [] templateName reported follows = some unsubscribed :=
  (Option.some_get _).symm

theorem unforged_report :
    Along (step (plainRsa Payload) [] templateName) (Unforged (plainRsa Payload)) mailed [reportRound, follows] := by
  have hround : Unforged (plainRsa Payload) mailed reportRound := trivial
  have hfollows : Unforged (plainRsa Payload) reported follows := by
    intro token htoken slot _
    cases htoken
    exact List.mem_append_right _ (List.mem_filterMap.2 ⟨report, report_mem, link_report⟩)
  exact along_cons hround step_reportRound (along_cons hfollows step_follows trivial)

theorem off_by_link_report : ∃ before a after mid, [reportRound, follows] = before ++ a :: after ∧
    run (step (plainRsa Payload) [] templateName) mailed before = some mid ∧
      TurnsOff mid 1 .weeklyReport a :=
  off_by_link [] templateName unforged_report (run_cons.2 ⟨reported, step_reportRound, run_one step_follows⟩)
    (by decide +kernel) (by decide +kernel)

end Report

end Unsubscribes

end Fix
