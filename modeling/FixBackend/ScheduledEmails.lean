import FixBackend.AccountRepository
import FixBackend.Machine
/-!
# ScheduledEmails — mails that are sent once to a user

`fixbackend/notification/email/scheduled_email.py`, the two loops that send one mail of a kind to a user.  A run selects
the users without a mark of the kind, sends the mails one after another and commits the marks of all of them at the end.
A send that raises ends the run, and the marks of the mails that were sent before it are rolled back with it.
-/
namespace Fix

open Calendar Effects Machine

structure MailUser where
  id : UserId
  email : String
  createdAt : DateTime
deriving DecidableEq

structure ScheduledEmailEntity where
  id : Uuid
  kind : String
  after : Int
deriving DecidableEq

structure ScheduledEmailSentEntity where
  userId : UserId
  kind : String
  sentAt : DateTime
deriving DecidableEq

structure UserNotificationSettings where
  userId : UserId
  weeklyReport : Bool
  inactivityReminder : Bool
  tutorial : Bool
  marketing : Bool
deriving DecidableEq

structure MailTables where
  users : Table MailUser.id
  organizations : Organizations
  accounts : Table AccountRow.id
  scheduledEmails : Table ScheduledEmailEntity.id
  settings : Table UserNotificationSettings.userId

structure Email where
  recipient : String
  subject : String
  text : String
  html : Option String
  unsubscribe : Option String
  images : List (String × List UInt8)
deriving DecidableEq

/-- A mail that was sent, with the user and the kind that it was sent for. -/
structure Mail where
  userId : UserId
  kind : String
  email : Email
deriving DecidableEq

def Mail.key (mail : Mail) : UserId × String := (mail.userId, mail.kind)

def ScheduledEmailSentEntity.key (mark : ScheduledEmailSentEntity) : UserId × String := (mark.userId, mark.kind)

/-- The tables, the marks, the mails sent so far and how each of the next sends ends. -/
structure Mailing where
  tables : MailTables
  marks : List ScheduledEmailSentEntity
  mails : List Mail
  sends : Nat → Except Err PUnit
  clock : Nat → DateTime
  ticks : Nat

abbrev Sending := Call Err Mailing

/-- `jinja2` with the name of a template and the user, if it is given one. -/
abbrev Render := String → Option UserId → Except Err String

/-- `str.strip` on the text of a template. -/
def strip (s : String) : String :=
  String.ofList ((s.toList.dropWhile Char.isWhitespace).reverse.dropWhile Char.isWhitespace).reverse

namespace ScheduledEmailSender

def noCloudAccount : String := "no_cloud_account"

def utc : Sending DateTime := modifyGet fun m => (m.clock m.ticks, { m with ticks := m.ticks + 1 })

/-- `email_sender.send_email`, which takes the next of the ends. -/
def sendEmail (mail : Mail) : Sending PUnit := do
  let m ← get
  set { m with sends := fun n => m.sends (n + 1) }
  match m.sends 0 with
  | .ok _ => modify fun m => { m with mails := m.mails ++ [mail] }
  | .error e => throw e

/-- The user has a mark of the kind, so that the outer join finds one. -/
def marked (marks : List ScheduledEmailSentEntity) (userId : UserId) (kind : String) : Bool :=
  marks.any fun mark => decide (mark.key = (userId, kind))

/-- One turn of a loop: the user, the kind and the e-mail, or what rendering it raises. -/
structure Turn where
  userId : UserId
  kind : String
  email : Except Err Email

def Turn.key (t : Turn) : UserId × String := (t.userId, t.kind)

/-- The body of the loops, with the time of the mark. -/
def takeTurn (time : Sending DateTime) (t : Turn) : Sending ScheduledEmailSentEntity := do
  let email ← lift t.email
  sendEmail ⟨t.userId, t.kind, email⟩
  return ⟨t.userId, t.kind, ← time⟩

def takeTurns (time : Sending DateTime) (turns : List Turn) : Sending PUnit := do
  let added ← turns.mapM (takeTurn time)
  modify fun m => { m with marks := m.marks ++ added }

/-- The workspaces without an account that were created between one and two days ago. -/
def workspacesWithoutAccount (tables : MailTables) (now : DateTime) : List WorkspaceId :=
  (tables.organizations.rows.filter fun o =>
    !tables.accounts.rows.any (fun a => decide (a.tenantId = o.id)) &&
      decide (o.createdAt.toMicros + dayMicros < now.toMicros) &&
      decide (now.toMicros < o.createdAt.toMicros + 2 * dayMicros)).map (·.id)

/-- The turns of `_new_workspaces_without_cloud_account`. -/
def newWorkspacesTurns (render : Render) (tables : MailTables) (marks : List ScheduledEmailSentEntity)
    (now : DateTime) :
    List Turn :=
  (tables.users.rows.filter fun user =>
    tables.organizations.rows.any (fun o =>
      decide (o.id ∈ workspacesWithoutAccount tables now) && decide (user.id ∈ o.members)) &&
      !marked marks user.id noCloudAccount).map fun user =>
    { userId := user.id
      kind := noCloudAccount
      email := do
        let txt ← render "no_cloud_account.txt" none
        let html ← render "no_cloud_account.html" (some user.id)
        return ⟨user.email, "Fix: Connect your Cloud Accounts  🔌", txt, some html, none, []⟩ }

def newWorkspacesWithoutCloudAccount (render : Render) (now : DateTime) : Sending PUnit := do
  let m ← get
  if (workspacesWithoutAccount m.tables now).isEmpty then return ()
  else takeTurns (pure now) (newWorkspacesTurns render m.tables m.marks now)

/-- The user signed up so long ago. -/
def due (user : MailUser) (toSend : ScheduledEmailEntity) (now : DateTime) : Bool :=
  decide ((user.createdAt.toMicros : Int) + toSend.after * 1000000 < now.toMicros)

def optedOutOfTutorial (tables : MailTables) (userId : UserId) : Bool :=
  tables.settings.rows.any fun s => decide (s.userId = userId) && !s.tutorial

def scheduledTurns (render : Render) (tables : MailTables) (marks : List ScheduledEmailSentEntity) (now : DateTime) :
    List Turn :=
  ((tables.users.rows ×ˢ tables.scheduledEmails.rows).filter fun (user, toSend) =>
    due user toSend now && !marked marks user.id toSend.kind && !optedOutOfTutorial tables user.id).map
  fun (user, toSend) =>
    { userId := user.id
      kind := toSend.kind
      email := do
        let subject ← render s!"{toSend.kind}.subject" none
        let txt ← render s!"{toSend.kind}.txt" none
        let html ← render s!"{toSend.kind}.html" (some user.id)
        return ⟨user.email, strip subject, txt, some html, some "tutorial", []⟩ }

def sendScheduledEmails (render : Render) : Sending PUnit := do
  let now ← utc
  let m ← get
  takeTurns utc (scheduledTurns render m.tables m.marks now)

/-! ## Runs of the sender -/

inductive SenderMove where
  | newWorkspaces (now : DateTime) (sends : Nat → Except Err PUnit)
  | scheduledEmails (sends : Nat → Except Err PUnit)
  /-- Everything else: the tables change, and a status update leaves marks of its own. -/
  | others (tables : MailTables) (marks : List ScheduledEmailSentEntity) (clock : Nat → DateTime)

def senderStep (render : Render) (m : Mailing) : SenderMove → Option Mailing
  | .newWorkspaces now sends => some (exec (newWorkspacesWithoutCloudAccount render now) { m with sends := sends }).2
  | .scheduledEmails sends => some (exec (sendScheduledEmails render) { m with sends := sends }).2
  | .others tables marks clock => some { m with tables := tables, marks := m.marks ++ marks, clock := clock }

/-- No user was sent two mails of one kind. -/
def AtMostOnce (m : Mailing) : Prop := (m.mails.map Mail.key).Nodup

/-- The mail of the turn is rendered and sent. -/
def Turn.sent (t : Turn) (sends : Nat → Except Err PUnit) : Bool := t.email.toBool && (sends 0).toBool

def allSent : List Turn → (Nat → Except Err PUnit) → Bool
  | [], _ => true
  | t :: turns, sends => t.sent sends && allSent turns fun n => sends (n + 1)

def noneSent : List Turn → (Nat → Except Err PUnit) → Bool
  | [], _ => true
  | t :: _, sends => !t.sent sends

/-- No turn of the run raises after another one has sent its mail. -/
def neverHalfway (turns : List Turn) (sends : Nat → Except Err PUnit) : Bool := noneSent turns sends ||
    allSent turns sends

/-- No run stops halfway, and none selects a user twice for one kind. -/
def NoMarkLost (render : Render) (m : Mailing) : SenderMove → Prop
  | .newWorkspaces now sends => neverHalfway (newWorkspacesTurns render m.tables m.marks now) sends = true
  | .scheduledEmails sends =>
    neverHalfway (scheduledTurns render m.tables m.marks (m.clock m.ticks)) sends = true ∧
      ((scheduledTurns render m.tables m.marks (m.clock m.ticks)).map Turn.key).Nodup
  | .others _ _ _ => True

instance (render : Render) (m : Mailing) : ∀ move, Decidable (NoMarkLost render m move)
  | .newWorkspaces _ _ => instDecidableEqBool _ _
  | .scheduledEmails _ => instDecidableAnd
  | .others _ _ _ => instDecidableTrue

/-! ### What a loop leaves -/

section Loop

variable {time : Sending DateTime}

def Reads (time : Sending DateTime) : Prop :=
  ∀ m, ∃ at_ ticks, exec time m = (.ok at_, { m with ticks := ticks })

theorem reads_pure (now : DateTime) : Reads (pure now) := fun m => ⟨now, m.ticks, rfl⟩

theorem reads_utc : Reads utc := fun m => ⟨m.clock m.ticks, m.ticks + 1, rfl⟩

theorem exec_takeTurn_sent (htime : Reads time) {t : Turn} {m : Mailing} (h : t.sent m.sends = true) :
    ∃ mail mark ticks, mail.key = t.key ∧ mark.key = t.key ∧ exec (takeTurn time t) m =
      (.ok mark, { m with sends := fun n => m.sends (n + 1), mails := m.mails ++ [mail], ticks := ticks }) := by
  unfold Turn.sent at h
  obtain ⟨userId, kind, email⟩ := t
  cases email with
  | error e => cases h
  | ok email =>
    cases hs : m.sends 0 with
    | error e => rw [hs] at h; cases h
    | ok u =>
      obtain ⟨at_, ticks, hat⟩ := htime { m with
        sends := fun n => m.sends (n + 1), mails := m.mails ++ [⟨userId, kind, email⟩] }
      refine ⟨⟨userId, kind, email⟩, ⟨userId, kind, at_⟩, ticks, rfl, rfl, ?_⟩
      unfold takeTurn sendEmail
      simp [exec_bind, hs, hat, -bind_pure_comp]

theorem exec_takeTurn_raises (time : Sending DateTime) {t : Turn} {m : Mailing} (h : t.sent m.sends = false) :
    ∃ e sends, exec (takeTurn time t) m = (.error e, { m with sends := sends }) := by
  unfold Turn.sent at h
  obtain ⟨userId, kind, email⟩ := t
  unfold takeTurn sendEmail
  cases email with
  | error e => exact ⟨e, m.sends, by simp [exec_bind]⟩
  | ok email =>
    cases hs : m.sends 0 with
    | error e => exact ⟨e, fun n => m.sends (n + 1), by simp [exec_bind, hs]⟩
    | ok u => rw [hs] at h; cases h

/-- **A loop in which every mail is sent** adds the mails and hands out their marks. -/
theorem exec_turns_sent (htime : Reads time) : ∀ {turns : List Turn} {m : Mailing}, allSent turns m.sends = true →
    ∃ mails added sends ticks, mails.map Mail.key = turns.map Turn.key ∧ added.map (·.key) = turns.map Turn.key ∧
      exec (turns.mapM (takeTurn time)) m =
        (.ok added, { m with sends := sends, mails := m.mails ++ mails, ticks := ticks })
  | [], m, _ => ⟨[], [], m.sends, m.ticks, rfl, rfl, by simp⟩
  | t :: turns, m, h => by
    unfold allSent at h
    rw [Bool.and_eq_true] at h
    obtain ⟨mail, mark, ticks, hmail, hmark, hturn⟩ := exec_takeTurn_sent htime h.1
    obtain ⟨mails, added, sends, ticks', hmails, hadded, hturns⟩ := @exec_turns_sent htime turns
      { m with sends := fun n => m.sends (n + 1), mails := m.mails ++ [mail], ticks := ticks } h.2
    refine ⟨mail :: mails, mark :: added, sends, ticks', ?_, ?_, ?_⟩
    · rw [List.map_cons, List.map_cons, hmail, hmails]
    · rw [List.map_cons, List.map_cons, hmark, hadded]
    · rw [List.mapM_cons, exec_bind, hturn]
      dsimp only
      rw [exec_bind, hturns]
      simp

/-- **A run that does not stop halfway** sends and marks all of its turns, or none. -/
theorem exec_takeTurns (htime : Reads time) {turns : List Turn} {m : Mailing} (h : neverHalfway turns m.sends = true) :
    ∃ mails added sends ticks, mails.map Mail.key = added.map ScheduledEmailSentEntity.key ∧
      (mails.map Mail.key = turns.map Turn.key ∨ mails = []) ∧
      (exec (takeTurns time turns) m).2 =
        { m with marks := m.marks ++ added, mails := m.mails ++ mails, sends := sends, ticks := ticks } := by
  unfold takeTurns
  rw [exec_bind]
  by_cases hall : allSent turns m.sends = true
  · obtain ⟨mails, added, sends, ticks, hmails, hadded, hturns⟩ := exec_turns_sent htime hall
    rw [hturns]
    exact ⟨mails, added, sends, ticks, hmails.trans hadded.symm, Or.inl hmails, rfl⟩
  · unfold neverHalfway at h
    rw [Bool.or_eq_true, or_iff_left hall] at h
    cases turns with
    | nil => exact absurd rfl hall
    | cons t turns =>
      unfold noneSent at h
      rw [Bool.not_eq_true'] at h
      obtain ⟨e, sends, hturn⟩ := exec_takeTurn_raises time h
      refine ⟨[], [], sends, m.ticks, rfl, Or.inr rfl, ?_⟩
      rw [List.mapM_cons, exec_bind, hturn]
      simp

end Loop

/-! ### The invariant -/

/-- Every mail has its mark. -/
def Marked (m : Mailing) : Prop := ∀ mail ∈ m.mails, marked m.marks mail.userId mail.kind = true

theorem marked_iff {marks : List ScheduledEmailSentEntity} {userId : UserId} {kind : String} :
    marked marks userId kind = true ↔ (userId, kind) ∈ marks.map ScheduledEmailSentEntity.key := by
  unfold marked
  simp [List.any_eq_true, List.mem_map]

theorem marked_append {marks : List ScheduledEmailSentEntity} {userId : UserId} {kind : String}
    (added : List ScheduledEmailSentEntity) (h : marked marks userId kind = true) :
    marked (marks ++ added) userId kind = true := by
  rw [marked_iff] at h ⊢
  rw [List.map_append]
  exact List.mem_append_left _ h

theorem atMostOnce_append {m : Mailing} {mails : List Mail} {added : List ScheduledEmailSentEntity} {turns : List Turn}
    (hm : AtMostOnce m ∧ Marked m) (hadded : mails.map Mail.key = added.map ScheduledEmailSentEntity.key)
    (hturns : mails.map Mail.key = turns.map Turn.key ∨ mails = []) (hnodup : (turns.map Turn.key).Nodup)
    (hnew : ∀ t ∈ turns, marked m.marks t.userId t.kind = false) (sends : Nat → Except Err PUnit) (ticks : Nat) :
    AtMostOnce { m with marks := m.marks ++ added, mails := m.mails ++ mails, sends := sends, ticks := ticks } ∧
      Marked { m with marks := m.marks ++ added, mails := m.mails ++ mails, sends := sends, ticks := ticks } := by
  constructor
  · unfold AtMostOnce
    rw [List.map_append, List.nodup_append']
    refine ⟨hm.1, ?_, ?_⟩
    · rcases hturns with h | rfl
      · exact h ▸ hnodup
      · exact List.nodup_nil
    · intro key hold hadd
      rcases hturns with h | rfl
      · rw [h] at hadd
        obtain ⟨t, ht, rfl⟩ := List.mem_map.1 hadd
        obtain ⟨mail, hmail, hkey⟩ := List.mem_map.1 hold
        have hmark := hm.2 mail hmail
        obtain ⟨huser, hkind⟩ := Prod.mk.inj hkey
        rw [huser, hkind, hnew t ht] at hmark
        cases hmark
      · cases hadd
  · intro mail hmail
    rcases List.mem_append.1 hmail with hold | hadd
    · exact marked_append added (hm.2 mail hold)
    · rw [marked_iff, List.map_append, ← hadded]
      exact List.mem_append_right _ (List.mem_map_of_mem hadd)

theorem nodup_newWorkspacesTurns (render : Render) (tables : MailTables) (marks : List ScheduledEmailSentEntity)
    (now : DateTime) : ((newWorkspacesTurns render tables marks now).map Turn.key).Nodup := by
  unfold newWorkspacesTurns
  rw [List.map_map]
  apply List.Nodup.map_on
  · intro user huser user' huser' hkey
    have hid : user.id = user'.id := (Prod.mk.inj hkey).1
    exact List.inj_on_of_nodup_map tables.users.unique (List.mem_filter.1 huser).1 (List.mem_filter.1 huser').1 hid
  · exact (List.Nodup.of_map _ tables.users.unique).filter _

theorem newWorkspacesTurns_new {render : Render} {tables : MailTables} {marks : List ScheduledEmailSentEntity}
    {now : DateTime} {t : Turn} (h : t ∈ newWorkspacesTurns render tables marks now) :
    marked marks t.userId t.kind = false := by
  obtain ⟨user, huser, rfl⟩ := List.mem_map.1 h
  simpa using (Bool.and_eq_true_iff.1 (List.mem_filter.1 huser).2).2

theorem scheduledTurns_new {render : Render} {tables : MailTables} {marks : List ScheduledEmailSentEntity}
    {now : DateTime} {t : Turn} (h : t ∈ scheduledTurns render tables marks now) :
    marked marks t.userId t.kind = false := by
  obtain ⟨⟨user, toSend⟩, hpair, rfl⟩ := List.mem_map.1 h
  simpa using (Bool.and_eq_true_iff.1 (Bool.and_eq_true_iff.1 (List.mem_filter.1 hpair).2).1).2

theorem senderStep_keeps {render : Render} {m m' : Mailing} {move : SenderMove} (hm : AtMostOnce m ∧ Marked m)
    (hC : NoMarkLost render m move) (hstep : senderStep render m move = some m') : AtMostOnce m' ∧ Marked m' := by
  cases move with
  | newWorkspaces now sends =>
    cases hstep
    unfold newWorkspacesWithoutCloudAccount
    rw [exec_bind, exec_get]
    dsimp only
    by_cases hnone : (workspacesWithoutAccount m.tables now).isEmpty = true
    · rw [if_pos hnone]
      exact hm
    · rw [if_neg hnone]
      obtain ⟨mails, added, sends', ticks, hadded, hturns, hexec⟩ := exec_takeTurns (m := { m with sends := sends })
        (reads_pure now) hC
      rw [hexec]
      exact atMostOnce_append hm hadded hturns (nodup_newWorkspacesTurns render m.tables m.marks now)
        (fun t => newWorkspacesTurns_new) sends' ticks
  | scheduledEmails sends =>
    cases hstep
    obtain ⟨hhalf, hnodup⟩ := hC
    obtain ⟨mails, added, sends', ticks, hadded, hturns, hexec⟩ := exec_takeTurns
      (m := { m with sends := sends, ticks := m.ticks + 1 }) reads_utc hhalf
    have hnow : exec utc { m with sends := sends } =
        (.ok (m.clock m.ticks), { m with sends := sends, ticks := m.ticks + 1 }) := rfl
    unfold sendScheduledEmails
    rw [exec_bind, hnow]
    dsimp only
    rw [exec_bind, exec_get]
    dsimp only
    rw [hexec]
    exact atMostOnce_append hm hadded hturns hnodup (fun t => scheduledTurns_new) sends' ticks
  | others tables marks clock =>
    cases hstep
    exact ⟨hm.1, fun mail hmail => marked_append marks (hm.2 mail hmail)⟩

/-- **Mails are sent at most once** by runs none of which stops after a mail or selects a user twice. -/
theorem atMostOnce_of_noMarkLost (render : Render) {m m' : Mailing} {moves : List SenderMove} (hm : m.mails = [])
    (hC : Along (senderStep render) (NoMarkLost render) m moves) (hrun : run (senderStep render) m moves = some m') :
    AtMostOnce m' := by
  have hstart : AtMostOnce m ∧ Marked m := by
    unfold AtMostOnce Marked
    rw [hm]
    exact ⟨List.nodup_nil, fun mail h => absurd h List.not_mem_nil⟩
  exact (run_along (fun s move s' hs hC hstep => senderStep_keeps hs hC hstep) hstart hC hrun).1

/-! ### Two users and one kind -/

def midnight (day : Nat) (h : 1 ≤ day ∧ day ≤ 28) : DateTime :=
  Date.atHour ⟨2024, 4, day, by decide, by decide, by decide, h.1, Nat.le_trans h.2 (by decide)⟩ 0

theorem first_inMonth : 1 ≤ 1 ∧ 1 ≤ 28 := by decide

def twoUsers : Mailing where
  tables :=
    { users := ⟨[⟨1, "a@x.io", midnight 1 first_inMonth⟩, ⟨2, "b@x.io", midnight 1 first_inMonth⟩], by decide⟩
      organizations := default
      accounts := default
      scheduledEmails := ⟨[⟨1, "day1", 86400⟩], by decide⟩
      settings := default }
  marks := []
  mails := []
  sends := fun _ => .ok ⟨⟩
  clock := fun _ => midnight 5 (by decide)
  ticks := 0

def allSucceed : SenderMove := .scheduledEmails fun _ => .ok ⟨⟩

def raisesAt (n : Nat) : SenderMove :=
  .scheduledEmails fun i => if i = n then .error (.runtimeError "Email address is not verified") else .ok ⟨⟩

def templateName : Render := fun name _ => .ok name

/-- The second send of the first run raises. -/
def stoppedHalfway : Mailing :=
  (run (senderStep templateName) twoUsers [raisesAt 1, allSucceed]).get (by decide +kernel)

/-- The second run sends the mail of the first user again. -/
theorem stoppedHalfway_sends_twice :
    twoUsers.mails = [] ∧ run (senderStep templateName) twoUsers [raisesAt 1, allSucceed] = some stoppedHalfway ∧
      ¬AtMostOnce stoppedHalfway :=
  ⟨rfl, (Option.some_get _).symm, by unfold AtMostOnce; decide +kernel⟩

/-- The first send of the first run raises. -/
def retried : Mailing :=
  (run (senderStep templateName) twoUsers [raisesAt 0, allSucceed, allSucceed]).get (by decide +kernel)

theorem retried_atMostOnce : retried.mails.map Mail.key = [(1, "day1"), (2, "day1")] ∧ AtMostOnce retried :=
  ⟨by decide +kernel, @atMostOnce_of_noMarkLost templateName twoUsers retried [raisesAt 0, allSucceed, allSucceed] rfl
    (by decide +kernel) (Option.some_get _).symm⟩

end ScheduledEmailSender

end Fix
