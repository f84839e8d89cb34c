import FixBackend.ScheduledEmails
/-!
# StatusUpdates — one status update for each user and workspace

`ScheduledEmailSender._send_scheduled_status_update`.  A run selects the pairs of a workspace and a member without a
mark of the kind and the day, and sends each pair a mail about the workspace; what a pair raises is caught in the
loop.  The mark is one for the user, so the first mail that reaches a user ends the mails of that kind for all of the
user's workspaces.
-/
namespace Fix

open Calendar Effects

/-- `date.weekday`, Monday being 0. -/
def weekday (d : Date) : Nat := (d.ordinal + 6) % 7

def hour (t : DateTime) : Nat := t.micros / 3600000000

namespace ScheduledEmailSender

/-- The three calls of the inner `send_emails`. -/
inductive UpdateKind where
  | test
  | week
  | month
deriving DecidableEq

namespace UpdateKind

def name : UpdateKind → String
  | test => "test"
  | week => "week"
  | month => "month"

def due (now : DateTime) : UpdateKind → Bool
  | test => decide (weekday now.date = 4 ∧ 7 ≤ hour now ∧ hour now ≤ 8)
  | week => decide (weekday now.date = 6 ∧ 9 ≤ hour now ∧ hour now ≤ 12)
  | month => decide (weekday now.date = 6 ∧ now.date.day ≤ 7 ∧ 9 ≤ hour now ∧ hour now ≤ 12)

/-- `duration` in days.  Ten days before one of the first seven days of a month is in the month before it. -/
def days (now : DateTime) : UpdateKind → Nat
  | test | week => 7
  | month =>
    if now.date.month = 1 then daysInMonth (now.date.year - 1) 12 else daysInMonth now.date.year (now.date.month - 1)

def emailFilter (customerSupportUsers : List String) (org : Organization) (user : MailUser) : UpdateKind → Bool
  | test => decide (user.email ∈ customerSupportUsers)
  | week => decide (org.tier ≠ .free)
  | month => decide (org.tier = .free)

def twoDigits (n : Nat) : String := if n < 10 then s!"0{n}" else s!"{n}"

/-- `strftime("%y%m%d")`. -/
def yymmdd (d : Date) : String := twoDigits (d.year % 100) ++ twoDigits d.month ++ twoDigits d.day

/-- `unique_id`, valid for the whole day. -/
def uniqueId (kind : UpdateKind) (day : Date) : String := "update-" ++ kind.name ++ "-" ++ yymmdd day

theorem uniqueId_injective (day : Date) : Function.Injective (uniqueId · day) := by
  intro k k' h
  have hchars := congrArg String.toList h
  unfold uniqueId at hchars
  cases k <;> cases k' <;> simp [name] at hchars ⊢

end UpdateKind

def optedOutOfReport (tables : MailTables) (userId : UserId) : Bool :=
  tables.settings.rows.any fun s => decide (s.userId = userId) && !s.weeklyReport

/-- The pair is mailed, whether or not the user has a mark. -/
def wanted (customerSupportUsers : List String) (kind : UpdateKind) (now : DateTime) (tables : MailTables)
    (org : Organization) (user : MailUser) : Bool :=
  decide (user.id ∈ org.members) && kind.emailFilter customerSupportUsers org user &&
    decide (org.createdAt.toMicros + kind.days now * dayMicros < now.toMicros) && !optedOutOfReport tables user.id

/-- `ORDER BY organization.id, user.id`. -/
def byIds (p q : Organization × MailUser) : Prop := p.1.id < q.1.id ∨ (p.1.id = q.1.id ∧ p.2.id ≤ q.2.id)

instance : DecidableRel byIds := fun _ _ => instDecidableOr

def selected (customerSupportUsers : List String) (kind : UpdateKind) (now : DateTime) (tables : MailTables)
    (marks : List ScheduledEmailSentEntity) : List (Organization × MailUser) :=
  ((tables.organizations.rows ×ˢ tables.users.rows).filter fun (org, user) =>
    wanted customerSupportUsers kind now tables org user &&
      !marked marks user.id (kind.uniqueId now.date)).insertionSort byIds

/-- What the function of `create_messages_fn` returns for a user. -/
structure Content where
  subject : String
  html : String
  txt : String
  images : List (String × List UInt8)
deriving DecidableEq

abbrev SendFn := MailUser → Except Err Content

/-- What a run meets in the turn of a user and a workspace: the function that is created from the data of the workspace,
and how the send ends. -/
structure Outside where
  createMessagesFn : UpdateKind → UserId → Workspace → Except Err SendFn
  sendEmail : UpdateKind → UserId → WorkspaceId → Except Err PUnit

structure StatusMail where
  userId : UserId
  workspaceId : WorkspaceId
  kind : String
  email : Email
deriving DecidableEq

def StatusMail.key (mail : StatusMail) : String × WorkspaceId × UserId := (mail.kind, mail.workspaceId, mail.userId)

def statusEmail (user : MailUser) (c : Content) : Email :=
  ⟨user.email, c.subject, c.txt, some c.html, some "weekly_report", c.images⟩

/-- The local variables of `send_emails`, what the session holds, and the mails that were sent. -/
structure SendLoop where
  lastWorkspace : Option Workspace
  sendFn : Option SendFn
  usersAlreadyMarked : List UserId
  added : List ScheduledEmailSentEntity
  mails : List StatusMail
  counter : Nat

abbrev Looping := Call Err SendLoop

/-- The body of the `try`.  No statement assigns `last_workspace`. -/
def sendUpdate (o : Outside) (kind : UpdateKind) (now : DateTime) (org : Organization) (user : MailUser) :
    Looping PUnit := do
  let workspace := org.toModel none
  let l ← get
  if l.lastWorkspace ≠ some workspace then
    let sendFn ← lift (o.createMessagesFn kind user.id workspace)
    modify fun l => { l with sendFn := some sendFn }
  let l ← get
  match l.sendFn with
  | none => throw (.assertionError "Send function not set for workspace")
  | some sendFn =>
    let content ← lift (sendFn user)
    lift (o.sendEmail kind user.id workspace.id)
    modify fun l => { l with
      mails := l.mails ++ [⟨user.id, workspace.id, kind.uniqueId now.date, statusEmail user content⟩] }
    -- one mark for the user, whatever the number of workspaces
    if user.id ∉ l.usersAlreadyMarked then
      modify fun l => { l with
        added := l.added ++ [⟨user.id, kind.uniqueId now.date, now⟩]
        usersAlreadyMarked := user.id :: l.usersAlreadyMarked }
    modify fun l => { l with counter := l.counter + 1 }

/-- A turn of the loop, in which every exception is ignored or logged. -/
def updateTurn (o : Outside) (kind : UpdateKind) (now : DateTime) (pair : Organization × MailUser) : Looping PUnit :=
  tryCatch (sendUpdate o kind now pair.1 pair.2) fun _ => return ()

structure StatusStore where
  tables : MailTables
  marks : List ScheduledEmailSentEntity
  mails : List StatusMail

/-- `send_emails` of the mails of a kind, with the number that it adds to the counter. -/
def sendEmails (customerSupportUsers : List String) (o : Outside) (kind : UpdateKind) (now : DateTime)
    (s : StatusStore) :
    Nat × StatusStore :=
  let pairs := selected customerSupportUsers kind now s.tables s.marks
  let l := (exec (pairs.forM (updateTurn o kind now)) ⟨none, none, [], [], s.mails, 0⟩).2
  (l.counter, { s with marks := s.marks ++ l.added, mails := l.mails })

def sendScheduledStatusUpdate (customerSupportUsers : List String) (o : Outside) (now : DateTime) (s : StatusStore) :
    Nat × StatusStore :=
  ([.test, .week, .month].filter (UpdateKind.due now)).foldl
    (fun (counter, s) kind =>
      let (n, s') := sendEmails customerSupportUsers o kind now s
      (counter + n, s'))
    (0, s)

/-! ## What one run sends -/

section Runs

variable {customerSupportUsers : List String} {o : Outside} {kind : UpdateKind} {now : DateTime}

/-- What a turn sends, unless something raises. -/
def content (o : Outside) (kind : UpdateKind) (org : Organization) (user : MailUser) : Option Content :=
  match o.createMessagesFn kind user.id (org.toModel none), o.sendEmail kind user.id org.id with
  | .ok sendFn, .ok _ => (sendFn user).toOption
  | _, _ => none

def attempt (o : Outside) (kind : UpdateKind) (now : DateTime) (pair : Organization × MailUser) : Option StatusMail :=
  (content o kind pair.1 pair.2).map fun c =>
    ⟨pair.2.id, pair.1.id, kind.uniqueId now.date, statusEmail pair.2 c⟩

def pairKey (kind : UpdateKind) (day : Date) (pair : Organization × MailUser) : String × WorkspaceId × UserId :=
  (kind.uniqueId day, pair.1.id, pair.2.id)

theorem attempt_key {pair : Organization × MailUser} {mail : StatusMail} (h : attempt o kind now pair = some mail) :
    mail.key = pairKey kind now.date pair := by
  obtain ⟨c, -, rfl⟩ := Option.map_eq_some_iff.1 h
  rfl

/-- The session holds one mark for each marked user. -/
def SendLoop.Matches (l : SendLoop) (uniqueId : String) : Prop :=
  ∀ key, key ∈ l.added.map ScheduledEmailSentEntity.key ↔ key.1 ∈ l.usersAlreadyMarked ∧ key.2 = uniqueId

theorem exec_updateTurn {pair : Organization × MailUser} {l : SendLoop} (hlast : l.lastWorkspace = none)
    (hadded : l.Matches (kind.uniqueId now.date)) :
    ∃ l', exec (updateTurn o kind now pair) l = (.ok ⟨⟩, l') ∧ l'.lastWorkspace = none ∧
      l'.Matches (kind.uniqueId now.date) ∧ l'.mails = l.mails ++ (attempt o kind now pair).toList ∧
      ∀ userId, userId ∈ l'.usersAlreadyMarked ↔
        userId ∈ l.usersAlreadyMarked ∨ (pair.2.id = userId ∧ (attempt o kind now pair).isSome = true) := by
  obtain ⟨org, user⟩ := pair
  have hid : (org.toModel none).id = org.id := rfl
  unfold updateTurn sendUpdate attempt content
  rw [exec_tryCatch]
  cases hfn : o.createMessagesFn kind user.id (org.toModel none) with
  | error e => exact ⟨l, by simp [exec_bind, hlast, hfn], hlast, hadded, by simp, by simp⟩
  | ok sendFn =>
    cases hcontent : sendFn user with
    | error e =>
      refine ⟨{ l with sendFn := some sendFn }, by simp [exec_bind, hlast, hfn, hcontent], hlast, hadded, ?_, ?_⟩
      all_goals cases o.sendEmail kind user.id org.id <;> simp [hcontent, Except.toOption]
    | ok c =>
      cases hsend : o.sendEmail kind user.id org.id with
      | error e =>
        exact ⟨{ l with sendFn := some sendFn }, by simp [exec_bind, hlast, hfn, hcontent, hid, hsend],
          hlast, hadded, by simp, by simp⟩
      | ok u =>
        by_cases hmem : user.id ∈ l.usersAlreadyMarked
        · refine ⟨{ l with
              sendFn := some sendFn
              mails := l.mails ++ [⟨user.id, org.id, kind.uniqueId now.date, statusEmail user c⟩]
              counter := l.counter + 1 }, ?_, hlast, hadded, ?_, ?_⟩
          · simp [exec_bind, hlast, hfn, hcontent, hid, hsend, hmem]
          · simp [hcontent, Except.toOption]
          · intro userId
            simp only [hcontent, Except.toOption, Option.map_some, Option.isSome_some, and_true]
            exact ⟨Or.inl, fun h => h.elim id fun h => h ▸ hmem⟩
        · refine ⟨{ l with
              sendFn := some sendFn
              mails := l.mails ++ [⟨user.id, org.id, kind.uniqueId now.date, statusEmail user c⟩]
              added := l.added ++ [⟨user.id, kind.uniqueId now.date, now⟩]
              usersAlreadyMarked := user.id :: l.usersAlreadyMarked
              counter := l.counter + 1 }, ?_, hlast, ?_, ?_, ?_⟩
          · simp [exec_bind, hlast, hfn, hcontent, hid, hsend, hmem]
          · rintro ⟨userId, k⟩
            have hold := hadded (userId, k)
            simp only [List.map_append, List.mem_append, hold, List.map_cons, List.map_nil, List.mem_cons,
              ScheduledEmailSentEntity.key, Prod.mk.injEq]
            tauto
          · simp [hcontent, Except.toOption]
          · intro userId
            simp only [hcontent, Except.toOption, Option.map_some, Option.isSome_some, and_true, List.mem_cons]
            exact ⟨fun h => h.elim (fun h => Or.inr h.symm) Or.inl, fun h => h.elim Or.inr fun h => Or.inl h.symm⟩

theorem exec_updateTurns : ∀ {pairs : List (Organization × MailUser)} {l : SendLoop}, l.lastWorkspace = none →
    l.Matches (kind.uniqueId now.date) →
    ∃ l', exec (pairs.forM (updateTurn o kind now)) l = (.ok ⟨⟩, l') ∧ l'.Matches (kind.uniqueId now.date) ∧
      l'.mails = l.mails ++ pairs.filterMap (attempt o kind now) ∧
      ∀ userId, userId ∈ l'.usersAlreadyMarked ↔ userId ∈ l.usersAlreadyMarked ∨
        ∃ pair ∈ pairs, pair.2.id = userId ∧ (attempt o kind now pair).isSome = true
  | [], l, _, hadded => ⟨l, rfl, hadded, by simp, by simp⟩
  | pair :: pairs, l, hlast, hadded => by
    obtain ⟨l₁, hturn, hlast₁, hadded₁, hmails₁, hmarked₁⟩ := @exec_updateTurn o kind now pair l hlast hadded
    obtain ⟨l', hturns, hadded', hmails', hmarked'⟩ := @exec_updateTurns pairs l₁ hlast₁ hadded₁
    refine ⟨l', ?_, hadded', ?_, fun userId => ?_⟩
    · rw [forM_cons, exec_bind, hturn]
      exact hturns
    · rw [hmails', hmails₁, List.append_assoc, List.filterMap_cons]
      cases attempt o kind now pair <;> rfl
    · rw [hmarked', hmarked₁, List.exists_mem_cons_iff, or_assoc]

theorem mem_selected_iff {tables : MailTables} {marks : List ScheduledEmailSentEntity} {org : Organization}
    {user : MailUser} : (org, user) ∈ selected customerSupportUsers kind now tables marks ↔
      (org ∈ tables.organizations.rows ∧ user ∈ tables.users.rows) ∧
        wanted customerSupportUsers kind now tables org user = true ∧
        marked marks user.id (kind.uniqueId now.date) = false := by
  unfold selected
  rw [List.mem_insertionSort, List.mem_filter, List.mem_product, Bool.and_eq_true, Bool.not_eq_true']

def mailsAbout (kind : UpdateKind) (day : Date) (org : Organization) (user : MailUser) (s : StatusStore) :
    List StatusMail :=
  s.mails.filter fun mail => decide (mail.key = pairKey kind day (org, user))

theorem filter_filterMap_key {α β κ : Type} [DecidableEq κ] {f : α → Option β} {key : β → κ} {k : α → κ}
    (hkey : ∀ a b, f a = some b → key b = k a) (x : κ) : ∀ {l : List α}, (l.map k).Nodup →
      (l.filterMap f).filter (fun b => decide (key b = x)) = ((l.find? fun a => decide (k a = x)).bind f).toList
  | [], _ => rfl
  | a :: l, hnodup => by
    rw [List.map_cons, List.nodup_cons] at hnodup
    have ih := filter_filterMap_key hkey x hnodup.2
    have hhead : ((a :: l).filterMap f).filter (fun b => decide (key b = x)) =
        (f a).toList.filter (fun b => decide (key b = x)) ++ (l.filterMap f).filter fun b => decide (key b = x) := by
      rw [List.filterMap_cons, ← List.filter_append]
      cases f a <;> rfl
    rw [hhead, ih, List.find?_cons]
    by_cases hx : k a = x
    · have hnone : l.find? (fun a => decide (k a = x)) = none := by
        rw [List.find?_eq_none]
        intro b hb hbx
        exact hnodup.1 (List.mem_map.2 ⟨b, hb, (of_decide_eq_true hbx).trans hx.symm⟩)
      rw [hnone, decide_eq_true hx]
      cases hf : f a with
      | none => simp [hf]
      | some b => simp [hf, hkey a b hf, hx]
    · rw [decide_eq_false hx]
      cases hf : f a with
      | none => simp
      | some b => simp [hkey a b hf, hx]

theorem nodup_selected (tables : MailTables) (marks : List ScheduledEmailSentEntity) :
    ((selected customerSupportUsers kind now tables marks).map (pairKey kind now.date)).Nodup := by
  have hproduct : ((tables.organizations.rows ×ˢ tables.users.rows).map (pairKey kind now.date)).Nodup := by
    have horgs := List.Nodup.of_map _ tables.organizations.unique
    have husers := List.Nodup.of_map _ tables.users.unique
    refine (horgs.product husers).map_on fun p hp q hq hpq => ?_
    obtain ⟨hporg, hpuser⟩ := List.mem_product.1 hp
    obtain ⟨hqorg, hquser⟩ := List.mem_product.1 hq
    obtain ⟨horg, huser⟩ := Prod.mk.inj (Prod.mk.inj hpq).2
    exact Prod.ext (List.inj_on_of_nodup_map tables.organizations.unique hporg hqorg horg)
      (List.inj_on_of_nodup_map tables.users.unique hpuser hquser huser)
  unfold selected
  exact (((List.perm_insertionSort byIds _).map _).nodup_iff).2 (hproduct.sublist (List.filter_sublist.map _))

theorem find_selected {tables : MailTables} {marks : List ScheduledEmailSentEntity} {org : Organization}
    {user : MailUser}
    (horg : org ∈ tables.organizations.rows) (huser : user ∈ tables.users.rows) :
    (selected customerSupportUsers kind now tables marks).find?
        (fun p => decide (pairKey kind now.date p = pairKey kind now.date (org, user))) =
      if wanted customerSupportUsers kind now tables org user && !marked marks user.id (kind.uniqueId now.date) then
        some (org, user) else none := by
  have heq : ∀ p ∈ selected customerSupportUsers kind now tables marks,
      pairKey kind now.date p = pairKey kind now.date (org, user) → p = (org, user) := by
    rintro ⟨org', user'⟩ hp hids
    obtain ⟨⟨horg', huser'⟩, -⟩ := mem_selected_iff.1 hp
    obtain ⟨hoid, huid⟩ := Prod.mk.inj (Prod.mk.inj hids).2
    exact Prod.ext (List.inj_on_of_nodup_map tables.organizations.unique horg' horg hoid)
      (List.inj_on_of_nodup_map tables.users.unique huser' huser huid)
  split
  · rename_i h
    rw [Bool.and_eq_true, Bool.not_eq_true'] at h
    have hmem := mem_selected_iff.2 ⟨⟨horg, huser⟩, h⟩
    cases hf : (selected customerSupportUsers kind now tables marks).find?
        fun p => decide (pairKey kind now.date p = pairKey kind now.date (org, user)) with
    | none => exact absurd (decide_eq_true rfl) (List.find?_eq_none.1 hf _ hmem)
    | some p =>
      have hids := List.find?_some hf
      rw [heq p (List.mem_of_find?_eq_some hf) (of_decide_eq_true hids)]
  · rename_i h
    rw [List.find?_eq_none]
    intro p hp hids
    rw [heq p hp (of_decide_eq_true hids)] at hp
    exact h (by rw [Bool.and_eq_true, Bool.not_eq_true']; exact (mem_selected_iff.1 hp).2)

/-- The run sends the user some mail of the kind, if the user has no mark. -/
def reaches (customerSupportUsers : List String) (o : Outside) (kind : UpdateKind) (now : DateTime)
    (tables : MailTables)
    (user : MailUser) : Bool :=
  tables.organizations.rows.any fun org =>
    wanted customerSupportUsers kind now tables org user && (content o kind org user).isSome

/-- What a run sends a user about a workspace, if the user has no mark. -/
def sentAbout (customerSupportUsers : List String) (o : Outside) (kind : UpdateKind) (now : DateTime)
    (tables : MailTables) (org : Organization) (user : MailUser) : List StatusMail :=
  if wanted customerSupportUsers kind now tables org user then (attempt o kind now (org, user)).toList else []

/-- What a run leaves of the mails and the mark of a user. -/
structure Updated (customerSupportUsers : List String) (o : Outside) (kind : UpdateKind) (now : DateTime)
    (user : MailUser)
    (s s' : StatusStore) : Prop where
  tables : s'.tables = s.tables
  marked : marked s'.marks user.id (kind.uniqueId now.date) =
    (marked s.marks user.id (kind.uniqueId now.date) || reaches customerSupportUsers o kind now s.tables user)
  mails : ∀ org ∈ s.tables.organizations.rows, mailsAbout kind now.date org user s' =
    mailsAbout kind now.date org user s ++
      if ScheduledEmailSender.marked s.marks user.id (kind.uniqueId now.date) then []
      else sentAbout customerSupportUsers o kind now s.tables org user

theorem exec_sendEmails (s : StatusStore) : ∃ added, (sendEmails customerSupportUsers o kind now s).2 =
    { s with
      marks := s.marks ++ added
      mails := s.mails ++ (selected customerSupportUsers kind now s.tables s.marks).filterMap (attempt o kind now) } ∧
    ∀ key, key ∈ added.map ScheduledEmailSentEntity.key ↔ key.2 = kind.uniqueId now.date ∧
      ∃ p ∈ selected customerSupportUsers kind now s.tables s.marks, p.2.id = key.1 ∧
        (attempt o kind now p).isSome = true := by
  obtain ⟨l', hexec, hadded, hmails, husers⟩ := @exec_updateTurns o kind now
    (selected customerSupportUsers kind now s.tables s.marks) ⟨none, none, [], [], s.mails, 0⟩ rfl (by
      intro key
      simp)
  refine ⟨l'.added, ?_, fun key => ?_⟩
  · unfold sendEmails
    dsimp only
    rw [hexec, hmails]
  · rw [hadded key, husers key.1, and_comm]
    simp

theorem isSome_attempt (pair : Organization × MailUser) :
    (attempt o kind now pair).isSome = (content o kind pair.1 pair.2).isSome := Option.isSome_map

theorem reaches_iff {tables : MailTables} {marks : List ScheduledEmailSentEntity} {user : MailUser}
    (huser : user ∈ tables.users.rows) (hmark : marked marks user.id (kind.uniqueId now.date) = false) :
    reaches customerSupportUsers o kind now tables user = true ↔
      ∃ p ∈ selected customerSupportUsers kind now tables marks, p.2.id = user.id ∧
        (attempt o kind now p).isSome = true := by
  unfold reaches
  rw [List.any_eq_true]
  constructor
  · rintro ⟨org, horg, hsent⟩
    rw [Bool.and_eq_true] at hsent
    exact ⟨(org, user), mem_selected_iff.2 ⟨⟨horg, huser⟩, hsent.1, hmark⟩, rfl, (isSome_attempt _).trans hsent.2⟩
  · rintro ⟨⟨org, user'⟩, hp, hid, hsent⟩
    obtain ⟨⟨horg, huser'⟩, hwanted, -⟩ := mem_selected_iff.1 hp
    cases List.inj_on_of_nodup_map tables.users.unique huser' huser hid
    exact ⟨org, horg, Bool.and_eq_true_iff.2 ⟨hwanted, (isSome_attempt _).symm.trans hsent⟩⟩

theorem updated_sendEmails {s : StatusStore} {user : MailUser} (huser : user ∈ s.tables.users.rows) :
    Updated customerSupportUsers o kind now user s (sendEmails customerSupportUsers o kind now s).2 := by
  obtain ⟨added, hsend, hadded⟩ := @exec_sendEmails customerSupportUsers o kind now s
  rw [hsend]
  refine ⟨rfl, ?_, fun org horg => ?_⟩
  · rw [Bool.eq_iff_iff, Bool.or_eq_true, marked_iff, marked_iff, List.map_append, List.mem_append, hadded]
    cases hmark : marked s.marks user.id (kind.uniqueId now.date) with
    | true => exact ⟨fun _ => Or.inl (marked_iff.1 hmark), fun _ => Or.inl (marked_iff.1 hmark)⟩
    | false => rw [reaches_iff huser hmark, eq_self, true_and]
  · unfold mailsAbout
    dsimp only
    rw [List.filter_append, filter_filterMap_key (fun p mail => attempt_key) _ (nodup_selected s.tables s.marks),
      find_selected horg huser]
    unfold sentAbout
    cases marked s.marks user.id (kind.uniqueId now.date) <;>
      cases wanted customerSupportUsers kind now s.tables org user <;> rfl

/-- Nothing of the mails and the mark of a user changes. -/
structure Untouched (kind : UpdateKind) (day : Date) (user : MailUser) (s s' : StatusStore) : Prop where
  tables : s'.tables = s.tables
  marked : marked s'.marks user.id (kind.uniqueId day) = marked s.marks user.id (kind.uniqueId day)
  mails : ∀ org, mailsAbout kind day org user s' = mailsAbout kind day org user s

theorem untouched_sendEmails {other : UpdateKind} (hne : other ≠ kind) (s : StatusStore) (user : MailUser) :
    Untouched kind now.date user s (sendEmails customerSupportUsers o other now s).2 := by
  have hid : other.uniqueId now.date ≠ kind.uniqueId now.date := fun h => hne (UpdateKind.uniqueId_injective _ h)
  obtain ⟨added, hsend, hadded⟩ := @exec_sendEmails customerSupportUsers o other now s
  rw [hsend]
  refine ⟨rfl, ?_, fun org => ?_⟩
  · rw [Bool.eq_iff_iff, marked_iff, marked_iff, List.map_append, List.mem_append, hadded]
    exact ⟨fun h => h.elim id fun h => absurd h.1.symm hid, Or.inl⟩
  · unfold mailsAbout
    dsimp only
    rw [List.filter_append, List.append_right_eq_self, List.filter_eq_nil_iff]
    intro mail hmail hkey
    obtain ⟨p, -, hp⟩ := List.mem_filterMap.1 hmail
    have hkeys := (attempt_key hp).symm.trans (of_decide_eq_true hkey)
    exact hid (Prod.mk.inj hkeys).1

theorem Untouched.trans {day : Date} {user : MailUser} {s s' s'' : StatusStore} (h : Untouched kind day user s s')
    (h' : Untouched kind day user s' s'') : Untouched kind day user s s'' :=
  ⟨h'.tables.trans h.tables, h'.marked.trans h.marked, fun org => (h'.mails org).trans (h.mails org)⟩

def sendKinds (customerSupportUsers : List String) (o : Outside) (now : DateTime) (kinds : List UpdateKind)
    (s : StatusStore) : StatusStore :=
  kinds.foldl (fun s kind => (sendEmails customerSupportUsers o kind now s).2) s

theorem foldl_snd (kinds : List UpdateKind) (n : Nat) (s : StatusStore) :
    (kinds.foldl (fun (acc : Nat × StatusStore) kind =>
      (acc.1 + (sendEmails customerSupportUsers o kind now acc.2).1,
        (sendEmails customerSupportUsers o kind now acc.2).2))
      (n, s)).2 = sendKinds customerSupportUsers o now kinds s := by
  induction kinds generalizing n s with
  | nil => rfl
  | cons kind kinds ih => exact ih _ _

theorem untouched_sendKinds : ∀ {kinds : List UpdateKind} (_ : kind ∉ kinds) (s : StatusStore) (user : MailUser),
    Untouched kind now.date user s (sendKinds customerSupportUsers o now kinds s)
  | [], _, _, _ => ⟨rfl, rfl, fun _ => rfl⟩
  | _ :: _, h, s, user =>
    have h := not_or.1 (mt List.mem_cons.2 h)
    (untouched_sendEmails (Ne.symm h.1) s user).trans (untouched_sendKinds h.2 _ user)

theorem updated_sendKinds : ∀ {kinds : List UpdateKind} {s : StatusStore} {user : MailUser},
    kind ∈ kinds → kinds.Nodup →
    user ∈ s.tables.users.rows →
    Updated customerSupportUsers o kind now user s (sendKinds customerSupportUsers o now kinds s)
  | other :: kinds, s, user, hmem, hnodup, huser => by
    rw [List.nodup_cons] at hnodup
    by_cases heq : other = kind
    · subst heq
      have hfirst := @updated_sendEmails customerSupportUsers o other now s user huser
      have hrest := @untouched_sendKinds customerSupportUsers o other now kinds hnodup.1
        (sendEmails customerSupportUsers o other now s).2 user
      exact ⟨hrest.tables.trans hfirst.tables, hrest.marked.trans hfirst.marked,
        fun org horg => (hrest.mails org).trans (hfirst.mails org horg)⟩
    · have hfirst := @untouched_sendEmails customerSupportUsers o kind now other heq s user
      have hrest := @updated_sendKinds kinds (sendEmails customerSupportUsers o other now s).2 user
        ((List.mem_cons.1 hmem).resolve_left (Ne.symm heq)) hnodup.2 (hfirst.tables.symm ▸ huser)
      refine ⟨hrest.tables.trans hfirst.tables, ?_, fun org horg => ?_⟩
      · have h := hrest.marked
        rw [hfirst.marked, hfirst.tables] at h
        exact h
      · have h := hrest.mails org (hfirst.tables.symm ▸ horg)
        rw [hfirst.mails org, hfirst.marked, hfirst.tables] at h
        exact h

/-- **What a run does for a user**: it sends the mails whose turns raise nothing and leaves a mark when it sent one; a
user with a mark gets none. -/
theorem updated_run (hdue : kind.due now = true) {s : StatusStore} {user : MailUser}
    (huser : user ∈ s.tables.users.rows) :
    Updated customerSupportUsers o kind now user s (sendScheduledStatusUpdate customerSupportUsers o now s).2 := by
  have hrun : (sendScheduledStatusUpdate customerSupportUsers o now s).2 =
      sendKinds customerSupportUsers o now ([.test, .week, .month].filter (UpdateKind.due now)) s := foldl_snd _ 0 s
  rw [hrun]
  refine updated_sendKinds (List.mem_filter.2 ⟨?_, hdue⟩) (List.Nodup.filter _ (by decide)) huser
  cases kind <;> simp

/-! ## The runs of one window -/

structure StatusRun where
  now : DateTime
  outside : Outside

def statusRuns (customerSupportUsers : List String) (s : StatusStore) (runs : List StatusRun) : StatusStore :=
  runs.foldl (fun s r => (sendScheduledStatusUpdate customerSupportUsers r.outside r.now s).2) s

/-- The mail is what the function for this workspace made of the user in some run. -/
def BuiltFrom (kind : UpdateKind) (runs : List StatusRun) (org : Organization) (user : MailUser) (mail : StatusMail) :
    Prop :=
  ∃ r ∈ runs, ∃ sendFn c, r.outside.createMessagesFn kind user.id (org.toModel none) = .ok sendFn ∧
    sendFn user = .ok c ∧
    mail.email = statusEmail user c

/-- Each pair that the last run selects, with the marks of the start, has received exactly one mail. -/
def CompleteAndUnique (customerSupportUsers : List String) (kind : UpdateKind) (tables : MailTables)
    (marks : List ScheduledEmailSentEntity) (runs : List StatusRun) (last : StatusRun) : Prop :=
  ∀ org user, (org, user) ∈ selected customerSupportUsers kind last.now tables marks →
    ∃ mail, mailsAbout kind last.now.date org user
      (statusRuns customerSupportUsers ⟨tables, marks, []⟩ (runs ++ [last])) =
      [mail] ∧ BuiltFrom kind (runs ++ [last]) org user mail

/-- The runs are on the day of the last one, at times at which mails of the kind are sent, and in the last run no pair
that it selects raises. -/
structure Window (customerSupportUsers : List String) (kind : UpdateKind) (tables : MailTables)
    (marks : List ScheduledEmailSentEntity) (runs : List StatusRun) (last : StatusRun) : Prop where
  sameDay : ∀ r ∈ runs, r.now.date = last.now.date
  due : ∀ r ∈ runs ++ [last], kind.due r.now = true
  lastSucceeds : ∀ p ∈ selected customerSupportUsers kind last.now tables marks,
    (content last.outside kind p.1 p.2).isSome = true

/-- The first run that reaches a user sends the mails about all of the user's workspaces. -/
def FirstReachesAll (customerSupportUsers : List String) (kind : UpdateKind) (tables : MailTables)
    (marks : List ScheduledEmailSentEntity) (runs : List StatusRun) (last : StatusRun) : Prop :=
  ∀ p ∈ selected customerSupportUsers kind last.now tables marks, ∀ r,
    runs.find? (fun r => reaches customerSupportUsers r.outside kind r.now tables p.2) = some r →
      wanted customerSupportUsers kind r.now tables p.1 p.2 = true ∧ (content r.outside kind p.1 p.2).isSome = true

theorem sentAbout_of_not_reaches {tables : MailTables} {org : Organization} {user : MailUser}
    (horg : org ∈ tables.organizations.rows) (h : reaches customerSupportUsers o kind now tables user = false) :
    sentAbout customerSupportUsers o kind now tables org user = [] := by
  have hnot := List.any_eq_false.1 h org horg
  rw [Bool.and_eq_true, not_and, Bool.not_eq_true, Option.isSome_eq_false_iff, Option.isNone_iff_eq_none] at hnot
  unfold sentAbout
  split
  · rename_i hwanted
    unfold attempt
    rw [hnot hwanted]
    rfl
  · rfl

theorem sentAbout_eq_singleton {tables : MailTables} {org : Organization} {user : MailUser} {mail : StatusMail} :
    sentAbout customerSupportUsers o kind now tables org user = [mail] ↔
      wanted customerSupportUsers kind now tables org user = true ∧ attempt o kind now (org, user) = some mail := by
  unfold sentAbout
  cases wanted customerSupportUsers kind now tables org user <;> cases attempt o kind now (org, user) <;> simp

theorem attempt_built {org : Organization} {user : MailUser} {mail : StatusMail}
    (h : attempt o kind now (org, user) = some mail) :
    ∃ sendFn c, o.createMessagesFn kind user.id (org.toModel none) = .ok sendFn ∧ sendFn user = .ok c ∧
      mail.email = statusEmail user c := by
  obtain ⟨c, hcontent, rfl⟩ := Option.map_eq_some_iff.1 h
  unfold content at hcontent
  dsimp only at hcontent
  cases hfn : o.createMessagesFn kind user.id (org.toModel none) with
  | error e => rw [hfn] at hcontent; cases hcontent
  | ok sendFn =>
    cases hsend : o.sendEmail kind user.id org.id with
    | error e => rw [hfn, hsend] at hcontent; cases hcontent
    | ok u =>
      rw [hfn, hsend] at hcontent
      cases hc : sendFn user with
      | error e => simp [hc, Except.toOption] at hcontent
      | ok c' =>
        simp only [hc, Except.toOption, Option.some.injEq] at hcontent
        exact ⟨sendFn, c', rfl, hc, by rw [hcontent]⟩

theorem marked_runs {day : Date} : ∀ {runs : List StatusRun} {s : StatusStore} {org : Organization} {user : MailUser},
    (∀ r ∈ runs, r.now.date = day ∧ kind.due r.now = true) → org ∈ s.tables.organizations.rows →
    user ∈ s.tables.users.rows → marked s.marks user.id (kind.uniqueId day) = true →
    mailsAbout kind day org user (statusRuns customerSupportUsers s runs) = mailsAbout kind day org user s
  | [], _, _, _, _, _, _, _ => rfl
  | r :: runs, s, org, user, hruns, horg, huser, hmark => by
    obtain ⟨⟨rfl, hdue⟩, hruns⟩ := List.forall_mem_cons.1 hruns
    have hrun := @updated_run customerSupportUsers r.outside kind r.now hdue s user huser
    have hrest :=
      @marked_runs r.now.date runs (sendScheduledStatusUpdate customerSupportUsers r.outside r.now s).2 org user
      hruns (hrun.tables.symm ▸ horg) (hrun.tables.symm ▸ huser) (by rw [hrun.marked, hmark, Bool.true_or])
    have hmails := hrun.mails org horg
    rw [hmark, if_pos rfl, List.append_nil] at hmails
    exact hrest.trans hmails

/-- **A user without a mark gets the mails of the first run that reaches the user**, and no others. -/
theorem unmarked_runs {day : Date} : ∀ {runs : List StatusRun} {s : StatusStore} {org : Organization} {user : MailUser},
    (∀ r ∈ runs, r.now.date = day ∧ kind.due r.now = true) → org ∈ s.tables.organizations.rows →
    user ∈ s.tables.users.rows → marked s.marks user.id (kind.uniqueId day) = false →
    mailsAbout kind day org user (statusRuns customerSupportUsers s runs) = mailsAbout kind day org user s ++
      match runs.find? fun r => reaches customerSupportUsers r.outside kind r.now s.tables user with
      | some r => sentAbout customerSupportUsers r.outside kind r.now s.tables org user
      | none => []
  | [], s, org, user, _, _, _, _ => (List.append_nil _).symm
  | r :: runs, s, org, user, hruns, horg, huser, hmark => by
    obtain ⟨⟨rfl, hdue⟩, hruns⟩ := List.forall_mem_cons.1 hruns
    have hrun := @updated_run customerSupportUsers r.outside kind r.now hdue s user huser
    have hmails := hrun.mails org horg
    have hafter := hrun.marked
    rw [hmark, if_neg Bool.false_ne_true] at hmails
    rw [hmark, Bool.false_or] at hafter
    have horg' := hrun.tables.symm ▸ horg
    have huser' := hrun.tables.symm ▸ huser
    rw [List.find?_cons]
    cases hreach : reaches customerSupportUsers r.outside kind r.now s.tables user with
    | true =>
      rw [hreach] at hafter
      exact (@marked_runs customerSupportUsers kind r.now.date runs _ org user hruns horg' huser' hafter).trans hmails
    | false =>
      rw [hreach] at hafter
      have hrest := @unmarked_runs r.now.date runs _ org user hruns horg' huser' hafter
      have hnone : sentAbout customerSupportUsers r.outside kind r.now s.tables org user = [] :=
        sentAbout_of_not_reaches horg hreach
      rw [hmails, hnone, List.append_nil, hrun.tables] at hrest
      exact hrest

/-- **Status updates are complete and unique exactly when the first run that reaches a user reaches all of the user's
workspaces.** -/
theorem completeAndUnique_iff {tables : MailTables} {marks : List ScheduledEmailSentEntity} {runs : List StatusRun}
    {last : StatusRun} (hwindow : Window customerSupportUsers kind tables marks runs last) :
    CompleteAndUnique customerSupportUsers kind tables marks runs last ↔
      FirstReachesAll customerSupportUsers kind tables marks runs last := by
  have hruns : ∀ r ∈ runs ++ [last], r.now.date = last.now.date ∧ kind.due r.now = true := by
    intro r hr
    refine ⟨?_, hwindow.due r hr⟩
    rcases List.mem_append.1 hr with h | h
    · exact hwindow.sameDay r h
    · rw [List.mem_singleton.1 h]
  -- the last run reaches every user that it selects
  have hfirst : ∀ p ∈ selected customerSupportUsers kind last.now tables marks, ∃ r ∈ runs ++ [last],
      (runs.find? (fun r => reaches customerSupportUsers r.outside kind r.now tables p.2)).getD last = r ∧
      mailsAbout kind last.now.date p.1 p.2 (statusRuns customerSupportUsers ⟨tables, marks, []⟩ (runs ++ [last])) =
        sentAbout customerSupportUsers r.outside kind r.now tables p.1 p.2 := by
    rintro ⟨org, user⟩ hp
    obtain ⟨⟨horg, huser⟩, hwanted, hmark⟩ := mem_selected_iff.1 hp
    have hmails := @unmarked_runs customerSupportUsers kind last.now.date (runs ++ [last])
        ⟨tables, marks, []⟩ org user hruns
      horg huser hmark
    have hreach : reaches customerSupportUsers last.outside kind last.now tables user = true :=
      List.any_eq_true.2 ⟨org, horg, Bool.and_eq_true_iff.2 ⟨hwanted, hwindow.lastSucceeds _ hp⟩⟩
    rw [List.find?_append, List.find?_singleton, hreach, if_pos rfl] at hmails
    cases hf : runs.find? fun r => reaches customerSupportUsers r.outside kind r.now tables user with
    | none =>
      rw [hf] at hmails
      exact ⟨last, List.mem_append_right _ (List.mem_singleton.2 rfl), rfl, hmails⟩
    | some r =>
      rw [hf] at hmails
      exact ⟨r, List.mem_append_left _ (List.mem_of_find?_eq_some hf), rfl, hmails⟩
  constructor
  · intro h p hp r hr
    obtain ⟨mail, hmail, -⟩ := h p.1 p.2 hp
    obtain ⟨r', -, hr', hsent⟩ := hfirst p hp
    rw [hr, Option.getD_some] at hr'
    rw [hmail, ← hr'] at hsent
    obtain ⟨hwanted, hattempt⟩ := sentAbout_eq_singleton.1 hsent.symm
    exact ⟨hwanted, (isSome_attempt _).symm.trans (Option.isSome_of_eq_some hattempt)⟩
  · intro h org user hp
    obtain ⟨r, hmem, hr, hsent⟩ := hfirst _ hp
    have hsends : wanted customerSupportUsers kind r.now tables org user = true ∧
        (content r.outside kind org user).isSome = true := by
      cases hf : runs.find? fun r => reaches customerSupportUsers r.outside kind r.now tables user with
      | none =>
        dsimp only at hr
        rw [hf, Option.getD_none] at hr
        subst hr
        exact ⟨(mem_selected_iff.1 hp).2.1, hwindow.lastSucceeds _ hp⟩
      | some r' =>
        dsimp only at hr
        rw [hf, Option.getD_some] at hr
        subst hr
        exact h _ hp r' hf
    obtain ⟨mail, hmail⟩ := Option.isSome_iff_exists.1 ((isSome_attempt (org, user)).trans hsends.2)
    exact ⟨mail, hsent.trans (sentAbout_eq_singleton.2 ⟨hsends.1, hmail⟩), r, hmem, attempt_built hmail⟩

end Runs

/-! ### A user with two workspaces -/

def workspaceOf (id : WorkspaceId) : Organization :=
  ⟨id, s!"ws{id}", s!"ws{id}", id, 1, [1], .plus, none, none, midnight 1 first_inMonth, midnight 1 first_inMonth, none,
    none, none⟩

def twoWorkspaces : MailTables where
  users := ⟨[⟨1, "a@x.io", midnight 1 first_inMonth⟩], by decide⟩
  organizations := ⟨[workspaceOf 1, workspaceOf 2], by decide⟩
  accounts := default
  scheduledEmails := default
  settings := default

/-- A run on a Sunday at ten in which the messages of some workspaces cannot be created. -/
def sundayRun (unavailable : List WorkspaceId) : StatusRun where
  now := Date.atHour ⟨2024, 4, 28, by decide⟩ 10
  outside :=
    { createMessagesFn := fun _ _ workspace =>
        if workspace.id ∈ unavailable then .error (.runtimeError "GraphDatabaseNotAvailable")
        else .ok fun _ => .ok ⟨s!"Report of {workspace.name}", "", "", []⟩
      sendEmail := fun _ _ _ => .ok ⟨⟩ }

theorem sundayWindow (unavailable : List (List WorkspaceId)) :
    Window [] .week twoWorkspaces [] (unavailable.map sundayRun) (sundayRun []) := by
  refine ⟨fun r hr => ?_, fun r hr => ?_, by decide +kernel⟩
  · obtain ⟨u, -, rfl⟩ := List.mem_map.1 hr
    rfl
  · have hnow : r.now = (sundayRun []).now := by
      rcases List.mem_append.1 hr with h | h
      · obtain ⟨u, -, rfl⟩ := List.mem_map.1 h
        rfl
      · rw [List.mem_singleton.1 h]
    rw [hnow]
    decide +kernel

/-- The first run reaches the user about one workspace, and no later run sends the mail about the other. -/
theorem oneUnavailable_not_complete : Window [] .week twoWorkspaces [] ([[2]].map sundayRun) (sundayRun []) ∧
    ¬CompleteAndUnique [] .week twoWorkspaces [] ([[2]].map sundayRun) (sundayRun []) := by
  refine ⟨sundayWindow [[2]], fun h => ?_⟩
  obtain ⟨mail, hmail, -⟩ := h (workspaceOf 2) ⟨1, "a@x.io", midnight 1 (by decide)⟩ (by decide +kernel)
  have hnone : mailsAbout .week (sundayRun []).now.date (workspaceOf 2) ⟨1, "a@x.io", midnight 1 (by decide)⟩
      (statusRuns [] ⟨twoWorkspaces, [], []⟩ ([[2]].map sundayRun ++ [sundayRun []])) = [] := by decide +kernel
  rw [hnone] at hmail
  cases hmail

theorem allUnavailable_complete :
    CompleteAndUnique [] .week twoWorkspaces [] ([[1, 2]].map sundayRun) (sundayRun []) := by
  refine (completeAndUnique_iff (sundayWindow [[1, 2]])).2 fun p hp r hr => ?_
  have hnone : ∀ p ∈ selected [] .week (sundayRun []).now twoWorkspaces [], (([[1, 2]].map sundayRun).find?
      fun r => reaches [] r.outside .week r.now twoWorkspaces p.2).isNone = true := by decide +kernel
  have h := hnone p hp
  rw [hr] at h
  cases h

end ScheduledEmailSender

end Fix
