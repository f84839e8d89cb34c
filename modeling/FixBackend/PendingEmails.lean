import FixBackend.OneTimeEmails
import FixBackend.ScheduledEmails
/-!
# PendingEmails — the job that sends the scheduled e-mails

`OneTimeEmailService` of `fixbackend/notification/email/one_time_email.py` while it runs.  Every minute a job lists the
e-mails that are due and takes them one after another: it reads the row again, asks whom it goes to, sends to each
address and then commits `sent_at`.  Between two awaits of the job other calls schedule and unschedule e-mails, another
job cleans up, and the process may be restarted.  The run also keeps what has happened: nothing in it decides a move.
-/
namespace Fix

open Calendar Effects Machine

namespace OneTimeEmailService

/-- The users and the workspaces that the repositories read; no two users have one address. -/
structure Directory where
  users : Table MailUser.id
  organizations : Organizations
  addresses : (users.rows.map MailUser.email).Nodup

def Directory.getByIds (d : Directory) (ids : List UserId) : List MailUser :=
  d.users.rows.filter fun user => decide (user.id ∈ ids)

/-- The addresses an e-mail is sent to: the one of its user, those of all users of its workspace. -/
def Directory.recipients (d : Directory) (email : OneTimeEmailEntity) : List String :=
  ((email.userId.bind d.users.find).map MailUser.email).toList ++
    match email.workspaceId.bind (getWorkspace d.organizations) with
    | some workspace => (d.getByIds workspace.allUsers).map MailUser.email
    | none => []

def listPendingEmails (emails : OneTimeEmails) (now : DateTime) : List OneTimeEmailEntity :=
  emails.rows.filter fun email => email.sentAt.isNone && decide (email.scheduledAt ≤ now)

def keptAfterSending : Nat := 30 * dayMicros

def isOld (now : DateTime) (email : OneTimeEmailEntity) : Bool :=
  match email.sentAt with
  | some sentAt => decide (sentAt.addMicros keptAfterSending < now)
  | none => false

def cleanupOldEmailsJob (emails : OneTimeEmails) (now : DateTime) : OneTimeEmails := emails.deleteWhere (isOld now)

/-! ## The job between two awaits -/

/-- Where `_send_pending_email` awaits: the row, the recipients, the send to the first address that is left, or the
commit when none is. -/
inductive Turn where
  | gets
  | asks (entity : OneTimeEmailEntity)
  | sends (entity : OneTimeEmailEntity) (left : List String)

/-- `_send_emails_job`: the e-mail it sends and those after it. -/
structure EmailsJob where
  toSend : OneTimeEmailEntity
  turn : Turn
  pending : List OneTimeEmailEntity

def nextTurn : List OneTimeEmailEntity → Option EmailsJob
  | [] => none
  | toSend :: pending => some ⟨toSend, .gets, pending⟩

/-- A call of `send_email` and whether it raised. -/
structure Try where
  id : OneTimeEmailId
  recipient : String
  message : EmailMessage
  time : DateTime
  delivered : Bool
deriving DecidableEq

def Try.key (t : Try) : OneTimeEmailId × String := (t.id, t.recipient)

/-- The table, the job when it runs, and the history: what was scheduled, removed and cleaned up, the directories that
the job asked, and its calls of `send_email`. -/
structure OneTimeEmailRun where
  emails : OneTimeEmails
  nextUuid : Uuid
  now : DateTime
  directory : Directory
  job : Option EmailsJob
  scheduled : List OneTimeEmailEntity
  unscheduled : List OneTimeEmailId
  cleaned : List (OneTimeEmailEntity × DateTime)
  asked : List (OneTimeEmailId × Directory)
  tries : List Try

def OneTimeEmailRun.tried (s : OneTimeEmailRun) (entity : OneTimeEmailEntity) (recipient : String) (delivered : Bool) :
    OneTimeEmailRun :=
  { s with tries := s.tries ++ [⟨entity.id, recipient, entity.message, s.now, delivered⟩] }

def OneTimeEmailRun.sendPendingEmail (s : OneTimeEmailRun) (job : EmailsJob) (raises : Bool) : OneTimeEmailRun :=
  match job.turn with
  | .gets =>
    -- the row is read before the `try`
    if raises then { s with job := none }
    else match s.emails.find job.toSend.id with
      | none => { s with job := nextTurn job.pending }
      | some entity => { s with job := some { job with turn := .asks entity } }
  | .asks entity =>
    if raises then { s with job := nextTurn job.pending }
    else { s with
      job := some { job with turn := .sends entity (s.directory.recipients job.toSend) }
      asked := s.asked ++ [(job.toSend.id, s.directory)] }
  | .sends entity (recipient :: left) =>
    let s := s.tried entity recipient !raises
    -- only `send_email_to_workspace` goes on with the next address
    if raises && job.toSend.workspaceId.isNone then { s with job := nextTurn job.pending }
    else { s with job := some { job with turn := .sends entity left } }
  | .sends entity [] =>
    match if raises then none else s.emails.find entity.id with
    -- the commit raises, also when the row is not there any more
    | none => { s with job := nextTurn job.pending }
    | some row => { s with
      emails := s.emails.replace { row with sentAt := some s.now }
      job := nextTurn job.pending }

/-- What happens next: time passes, the users or workspaces change, an e-mail is scheduled or unscheduled, the tier of a
workspace changes, the job starts or goes on, the process restarts, the other job cleans up. -/
inductive OneTimeEmailMove where
  | passes (now : DateTime)
  | changes (directory : Directory)
  | schedules (kind : OneTimeEmailKind) (scheduledAt : DateTime) (userId : Option UserId)
    (workspaceId : Option WorkspaceId) (message : EmailMessage)
  | unschedules (userId : Option UserId) (workspaceId : Option WorkspaceId) (kind : OneTimeEmailKind)
  | handles (event : DomainEvent)
  | starts (listed : List OneTimeEmailEntity)
  | resumes (raises : Bool)
  | restarts
  | cleansUp

/-- The rows that `emails` has lost are removed. -/
def OneTimeEmailRun.removes (s : OneTimeEmailRun) (emails : OneTimeEmails) : OneTimeEmailRun :=
  { s with
    emails
    unscheduled := s.unscheduled ++ (s.emails.rows.filter fun email => (emails.find email.id).isNone).map (·.id) }

/-- The table returns the rows that are due in any order. -/
def oneTimeEmailStep (s : OneTimeEmailRun) : OneTimeEmailMove → Option OneTimeEmailRun
  | .passes now => if s.now ≤ now then some { s with now } else none
  | .changes directory => some { s with directory }
  | .schedules kind scheduledAt userId workspaceId message =>
    let emails := (exec (scheduleOneTimeEmail s.nextUuid kind scheduledAt userId workspaceId message) s.emails).2
    some { s with
      emails
      nextUuid := s.nextUuid + 1
      scheduled := s.scheduled ++ (emails.find s.nextUuid).toList }
  | .unschedules userId workspaceId kind =>
    some (s.removes (exec (unscheduleOneTimeEmail userId workspaceId kind) s.emails).2)
  | .handles event => some (s.removes (exec (productTierChangedHandler event) s.emails).2)
  | .starts listed =>
    if s.job.isNone ∧ listed.Perm (listPendingEmails s.emails s.now) then some
      { s with job := nextTurn listed } else none
  | .resumes raises => s.job.map fun job => s.sendPendingEmail job raises
  | .restarts => some { s with job := none }
  | .cleansUp => some { s with
    emails := cleanupOldEmailsJob s.emails s.now
    cleaned := s.cleaned ++ (s.emails.rows.filter (isOld s.now)).map (·, s.now) }

def OneTimeEmailRun.init (now : DateTime) (directory : Directory) : OneTimeEmailRun :=
  ⟨default, 0, now, directory, none, [], [], [], [], []⟩

/-! ## What is to hold -/

/-- The row as it was scheduled. -/
def asScheduled (email : OneTimeEmailEntity) : OneTimeEmailEntity := { email with sentAt := none }

/-- It was sent to the address, or the send to this address of a workspace raised. -/
def HandedTo (s : OneTimeEmailRun) (email : OneTimeEmailEntity) (recipient : String) : Prop :=
  ∃ t ∈ s.tries, t.key = (email.id, recipient) ∧ (t.delivered = true ∨ email.workspaceId.isSome = true)

/-- **The job has asked whom the e-mail goes to and has handed it to all of them.** -/
def Handled (s : OneTimeEmailRun) (email : OneTimeEmailEntity) : Prop :=
  ∃ directory, (email.id, directory) ∈ s.asked ∧ ∀ recipient ∈ directory.recipients email, HandedTo s email recipient

/-- **What becomes of an e-mail**: it waits or is marked in the table, it was unscheduled, or it was cleaned up. -/
inductive Fate (s : OneTimeEmailRun) (email : OneTimeEmailEntity) : Prop
  | stored {row : OneTimeEmailEntity} (hmem : row ∈ s.emails.rows) (h : asScheduled row = email)
  | unscheduled (h : email.id ∈ s.unscheduled)
  | cleaned {row : OneTimeEmailEntity} {time : DateTime} (hmem : (row, time) ∈ s.cleaned) (h : asScheduled row = email)

/-- A call of `send_email` is about a scheduled e-mail that is due, says what it says, and goes to an address of its. -/
def Truthful (s : OneTimeEmailRun) (t : Try) : Prop :=
  ∃ email ∈ s.scheduled, email.id = t.id ∧ email.message = t.message ∧ email.scheduledAt ≤ t.time ∧ t.time ≤ s.now ∧
    ∃ directory, (email.id, directory) ∈ s.asked ∧ t.recipient ∈ directory.recipients email

/-- An e-mail is marked at a time when it was due and all of its recipients were handled. -/
def MarkedAfter (s : OneTimeEmailRun) (row : OneTimeEmailEntity) (sentAt : DateTime) : Prop :=
  row.scheduledAt ≤ sentAt ∧ sentAt ≤ s.now ∧ Handled s row

/-- **The books are right**: no e-mail gets lost, none is marked before it was handed to everyone, none is cleaned up
within thirty days, and nothing is sent that was not scheduled. -/
structure Books (s : OneTimeEmailRun) : Prop where
  distinct : (s.scheduled.map (·.id)).Nodup
  fate : ∀ email ∈ s.scheduled, Fate s email
  stored : ∀ row ∈ s.emails.rows, asScheduled row ∈ s.scheduled
  marked : ∀ row ∈ s.emails.rows, ∀ sentAt, row.sentAt = some sentAt → MarkedAfter s row sentAt
  cleaned : ∀ row time, (row, time) ∈ s.cleaned → asScheduled row ∈ s.scheduled ∧
    ∃ sentAt, row.sentAt = some sentAt ∧ MarkedAfter s row sentAt ∧ sentAt.addMicros keptAfterSending < time
  tries : ∀ t ∈ s.tries, Truthful s t

theorem asScheduled_of_unsent {email : OneTimeEmailEntity} (h : email.sentAt = none) : asScheduled email = email := by
  unfold asScheduled
  rw [← h]

theorem mem_listPendingEmails {emails : OneTimeEmails} {now : DateTime} {email : OneTimeEmailEntity} :
    email ∈ listPendingEmails emails now ↔ email ∈ emails.rows ∧ email.sentAt = none ∧ email.scheduledAt ≤ now := by
  unfold listPendingEmails
  rw [List.mem_filter, Bool.and_eq_true, decide_eq_true_eq, Option.isNone_iff_eq_none]

/-! ## What has happened has happened -/

/-- The history of `s` is a part of that of `s'`. -/
structure Before (s s' : OneTimeEmailRun) : Prop where
  now : s.now ≤ s'.now
  scheduled : s.scheduled ⊆ s'.scheduled
  asked : s.asked ⊆ s'.asked
  tries : s.tries ⊆ s'.tries

variable {s s' : OneTimeEmailRun}

theorem Before.same (hnow : s'.now = s.now) (hscheduled : s'.scheduled = s.scheduled) (hasked : s'.asked = s.asked)
    (htries : s'.tries = s.tries) : Before s s' :=
  ⟨Nat.le_of_eq (congrArg DateTime.toMicros hnow.symm), fun _ hx => hscheduled ▸ hx, fun _ hx => hasked ▸ hx,
    fun _ hx => htries ▸ hx⟩

theorem HandedTo.later {email : OneTimeEmailEntity} {recipient : String} (h : HandedTo s email recipient)
    (hs : Before s s') : HandedTo s' email recipient := by
  obtain ⟨t, ht, hkey⟩ := h
  exact ⟨t, hs.tries ht, hkey⟩

theorem Handled.later {email : OneTimeEmailEntity} (h : Handled s email) (hs : Before s s') : Handled s' email := by
  obtain ⟨directory, hasked, hall⟩ := h
  exact ⟨directory, hs.asked hasked, fun recipient hrecipient => (hall recipient hrecipient).later hs⟩

theorem MarkedAfter.later {row : OneTimeEmailEntity} {sentAt : DateTime} (h : MarkedAfter s row sentAt)
    (hs : Before s s') : MarkedAfter s' row sentAt :=
  ⟨h.1, Nat.le_trans h.2.1 hs.now, h.2.2.later hs⟩

theorem Truthful.later {t : Try} (h : Truthful s t) (hs : Before s s') : Truthful s' t := by
  obtain ⟨email, hmem, hid, hmessage, hdue, htime, directory, hasked, hrecipient⟩ := h
  exact ⟨email, hs.scheduled hmem, hid, hmessage, hdue, Nat.le_trans htime hs.now, directory,
    hs.asked hasked, hrecipient⟩

/-! ## What a call does to the table -/

theorem schedule_cases {emails : OneTimeEmails} {id : OneTimeEmailId} (hid : emails.find id = none)
    (kind : OneTimeEmailKind) (scheduledAt : DateTime) (userId : Option UserId) (workspaceId : Option WorkspaceId)
    (message : EmailMessage) :
    (exec (scheduleOneTimeEmail id kind scheduledAt userId workspaceId message) emails).2 = emails ∨
      ∃ h, (exec (scheduleOneTimeEmail id kind scheduledAt userId workspaceId message) emails).2 =
        emails.insert ⟨id, kind.value, userId, workspaceId, message, scheduledAt, none, h⟩ hid := by
  unfold scheduleOneTimeEmail
  split
  · exact Or.inl rfl
  · split
    · exact Or.inl rfl
    · simp only [exec_bind, exec_get]
      split
      · rename_i h
        exact Or.inr ⟨h.1, rfl⟩
      · exact Or.inl rfl

theorem unschedule_deletes (emails : OneTimeEmails) (userId : Option UserId) (workspaceId : Option WorkspaceId)
    (kind : OneTimeEmailKind) :
    ∃ p, (exec (unscheduleOneTimeEmail userId workspaceId kind) emails).2 = emails.deleteWhere p := by
  unfold unscheduleOneTimeEmail
  split
  · exact ⟨fun _ => false, by simp [Table.deleteWhere]⟩
  · exact ⟨_, rfl⟩

theorem handler_deletes (emails : OneTimeEmails) (event : DomainEvent) :
    ∃ p, (exec (productTierChangedHandler event) emails).2 = emails.deleteWhere p := by
  have hnothing : ∃ p, emails = emails.deleteWhere p := ⟨fun _ => false, by simp [Table.deleteWhere]⟩
  unfold productTierChangedHandler
  split
  · split
    · exact unschedule_deletes _ _ _ _
    · exact hnothing
  · exact hnothing

/-- The run with a new e-mail under the id that was drawn. -/
def OneTimeEmailRun.adds (s : OneTimeEmailRun) (email : OneTimeEmailEntity) (hid : s.emails.find email.id = none) :
    OneTimeEmailRun :=
  { s with
    emails := s.emails.insert email hid
    nextUuid := s.nextUuid + 1
    scheduled := s.scheduled ++ [email] }

/-- What an e-mail says that is scheduled. -/
structure ScheduledAs (kind : OneTimeEmailKind) (scheduledAt : DateTime) (userId : Option UserId)
    (workspaceId : Option WorkspaceId) (message : EmailMessage) (email : OneTimeEmailEntity) : Prop where
  kind : email.kind = kind.value
  scheduledAt : email.scheduledAt = scheduledAt
  userId : email.userId = userId
  workspaceId : email.workspaceId = workspaceId
  message : email.message = message
  sentAt : email.sentAt = none

inductive Resumes (s : OneTimeEmailRun) (job : EmailsJob) : Bool → OneTimeEmailRun → Prop
  | ends (hturn : job.turn = .gets) : Resumes s job true { s with job := none }
  | misses (hturn : job.turn = .gets) (hfind : s.emails.find job.toSend.id = none) :
    Resumes s job false { s with job := nextTurn job.pending }
  | gets {entity : OneTimeEmailEntity} (hturn : job.turn = .gets) (hfind : s.emails.find job.toSend.id = some entity) :
    Resumes s job false { s with job := some { job with turn := .asks entity } }
  | asksInVain {entity : OneTimeEmailEntity} (hturn : job.turn = .asks entity) :
    Resumes s job true { s with job := nextTurn job.pending }
  | asks {entity : OneTimeEmailEntity} (hturn : job.turn = .asks entity) :
    Resumes s job false { s with
      job := some { job with turn := .sends entity (s.directory.recipients job.toSend) }
      asked := s.asked ++ [(job.toSend.id, s.directory)] }
  | failsUser {entity : OneTimeEmailEntity} {recipient : String} {left : List String}
    (hturn : job.turn = .sends entity (recipient :: left)) (huser : job.toSend.workspaceId = none) :
    Resumes s job true { s.tried entity recipient false with job := nextTurn job.pending }
  | sends {entity : OneTimeEmailEntity} {recipient : String} {left : List String} {raises : Bool}
    (hturn : job.turn = .sends entity (recipient :: left))
    (hhanded : (!raises) = true ∨ job.toSend.workspaceId.isSome = true) :
    Resumes s job raises { s.tried entity recipient !raises with job := some { job with turn := .sends entity left } }
  | losesMark {entity : OneTimeEmailEntity} {raises : Bool} (hturn : job.turn = .sends entity [])
    (h : raises = true ∨ s.emails.find entity.id = none) : Resumes s job raises { s with job := nextTurn job.pending }
  | marks {entity row : OneTimeEmailEntity} (hturn : job.turn = .sends entity [])
    (hfind : s.emails.find entity.id = some row) :
    Resumes s job false { s with
      emails := s.emails.replace { row with sentAt := some s.now }
      job := nextTurn job.pending }

theorem resumes_sendPendingEmail (s : OneTimeEmailRun) (job : EmailsJob) (raises : Bool) :
    Resumes s job raises (s.sendPendingEmail job raises) := by
  unfold OneTimeEmailRun.sendPendingEmail
  split
  · rename_i hturn
    cases raises with
    | true => exact .ends hturn
    | false =>
      rw [if_neg Bool.false_ne_true]
      split
      · exact .misses hturn ‹_›
      · exact .gets hturn ‹_›
  · rename_i entity hturn
    cases raises with
    | true => exact .asksInVain hturn
    | false => exact .asks hturn
  · rename_i entity recipient left hturn
    dsimp only
    split
    · rename_i huser
      rw [Bool.and_eq_true, Option.isNone_iff_eq_none] at huser
      obtain ⟨rfl, huser⟩ := huser
      exact .failsUser hturn huser
    · rename_i hgo
      refine .sends hturn ?_
      cases raises with
      | false => exact Or.inl rfl
      | true =>
        rw [Bool.true_and, Bool.not_eq_true, Option.isNone_eq_false_iff] at hgo
        exact Or.inr hgo
  · rename_i entity hturn
    cases raises with
    | true => exact .losesMark hturn (Or.inl rfl)
    | false =>
      rw [if_neg Bool.false_ne_true]
      split
      · exact .losesMark hturn (Or.inr ‹_›)
      · exact .marks hturn ‹_›

theorem passes_iff {now : DateTime} : oneTimeEmailStep s (.passes now) = some s' ↔ s.now ≤ now ∧
    s' = { s with now } := by
  simp only [oneTimeEmailStep, Option.ite_none_right_eq_some, Option.some.injEq, eq_comm (a := s')]

theorem starts_iff {listed : List OneTimeEmailEntity} : oneTimeEmailStep s (.starts listed) = some s' ↔
    (s.job = none ∧ listed.Perm (listPendingEmails s.emails s.now)) ∧ s' = { s with job := nextTurn listed } := by
  simp only [oneTimeEmailStep, Option.ite_none_right_eq_some, Option.some.injEq, Option.isNone_iff_eq_none,
    eq_comm (a := s')]

theorem resumes_cases {raises : Bool} (hstep : oneTimeEmailStep s (.resumes raises) = some s') :
    ∃ job, s.job = some job ∧ Resumes s job raises s' := by
  obtain ⟨job, hjob, rfl⟩ := Option.map_eq_some_iff.1 hstep
  exact ⟨job, hjob, resumes_sendPendingEmail s job raises⟩

theorem schedules_cases (hfresh : s.emails.find s.nextUuid = none) {kind : OneTimeEmailKind} {scheduledAt : DateTime}
    {userId : Option UserId} {workspaceId : Option WorkspaceId} {message : EmailMessage}
    (hstep : oneTimeEmailStep s (.schedules kind scheduledAt userId workspaceId message) = some s') :
    s' = { s with nextUuid := s.nextUuid + 1 } ∨ ∃ email hid, email.id = s.nextUuid ∧
      ScheduledAs kind scheduledAt userId workspaceId message email ∧ s' = s.adds email hid := by
  obtain hsame | ⟨haddressed, hinsert⟩ := schedule_cases hfresh kind scheduledAt userId workspaceId message
  · simp only [oneTimeEmailStep, hsame, hfresh, Option.toList_none, List.append_nil, Option.some.injEq] at hstep
    exact Or.inl hstep.symm
  · refine Or.inr ⟨⟨s.nextUuid, kind.value, userId, workspaceId, message, scheduledAt, none, haddressed⟩, hfresh, rfl,
      ⟨rfl, rfl, rfl, rfl, rfl, rfl⟩, ?_⟩
    have hfind := s.emails.find_insert_self
      ⟨s.nextUuid, kind.value, userId, workspaceId, message, scheduledAt, none, haddressed⟩ hfresh
    dsimp only at hfind
    simp only [oneTimeEmailStep, hinsert, hfind, Option.toList_some, Option.some.injEq] at hstep
    exact hstep.symm

/-! ## The books stay right -/

def Turn.Knows (s : OneTimeEmailRun) (toSend : OneTimeEmailEntity) : Turn → Prop
  | .gets => True
  | .asks entity => asScheduled entity = toSend
  | .sends entity left => asScheduled entity = toSend ∧ ∃ directory, (toSend.id, directory) ∈ s.asked ∧
    left ⊆ directory.recipients toSend ∧
    ∀ recipient ∈ directory.recipients toSend, recipient ∈ left ∨ HandedTo s toSend recipient

structure EmailsJob.Knows (s : OneTimeEmailRun) (job : EmailsJob) : Prop where
  listed : ∀ email ∈ job.toSend :: job.pending, email ∈ s.scheduled ∧ email.scheduledAt ≤ s.now
  turn : job.turn.Knows s job.toSend

structure Ledger (s : OneTimeEmailRun) : Prop extends Books s where
  fresh : ∀ email ∈ s.scheduled, email.id < s.nextUuid
  job : ∀ job ∈ s.job, job.Knows s

theorem EmailsJob.Knows.later {job : EmailsJob} (h : job.Knows s) (hs : Before s s') : job.Knows s' := by
  refine ⟨fun email hemail => ?_, ?_⟩
  · obtain ⟨hmem, hdue⟩ := h.listed email hemail
    exact ⟨hs.scheduled hmem, Nat.le_trans hdue hs.now⟩
  · have hturn := h.turn
    cases hjob : job.turn with
    | gets => trivial
    | asks entity =>
      rw [hjob] at hturn
      exact hturn
    | sends entity left =>
      rw [hjob] at hturn
      obtain ⟨hentity, directory, hasked, hleft, hall⟩ := hturn
      exact ⟨hentity, directory, hs.asked hasked, hleft,
        fun recipient hrecipient => (hall recipient hrecipient).imp_right (·.later hs)⟩

theorem knows_nextTurn {emails : List OneTimeEmailEntity}
    (h : ∀ email ∈ emails, email ∈ s.scheduled ∧ email.scheduledAt ≤ s.now) : ∀ job ∈ nextTurn emails, job.Knows s := by
  intro job hjob
  cases emails with
  | nil => cases hjob
  | cons toSend pending =>
    cases hjob
    exact ⟨h, trivial⟩

theorem EmailsJob.Knows.next {job : EmailsJob} (h : job.Knows s) : ∀ job' ∈ nextTurn job.pending, job'.Knows s :=
  knows_nextTurn fun email hemail => h.listed email (List.mem_cons_of_mem _ hemail)

theorem Ledger.find_fresh (h : Ledger s) : s.emails.find s.nextUuid = none := by
  rw [Table.find_eq_none_iff]
  intro row hrow hid
  exact absurd (h.fresh _ (h.stored row hrow)) (by rw [← hid]; exact Nat.lt_irrefl _)

theorem Ledger.later (h : Ledger s) (hs : Before s s') (hscheduled : s'.scheduled = s.scheduled)
    (hnext : s.nextUuid ≤ s'.nextUuid) (hcleaned : s'.cleaned = s.cleaned)
    (hunscheduled : s'.unscheduled = s.unscheduled)
    (hemails : s'.emails = s.emails) (htries : ∀ t ∈ s'.tries, t ∈ s.tries ∨ Truthful s' t)
    (hjob : ∀ job ∈ s'.job, job.Knows s') : Ledger s' where
  distinct := hscheduled ▸ h.distinct
  fate := by
    intro email hmem
    rw [hscheduled] at hmem
    cases h.fate email hmem with
    | stored hrow heq => exact .stored (hemails ▸ hrow) heq
    | unscheduled hid => exact .unscheduled (hunscheduled ▸ hid)
    | cleaned hrow heq => exact .cleaned (hcleaned ▸ hrow) heq
  stored := by
    rw [hemails, hscheduled]
    exact h.stored
  marked := by
    rw [hemails]
    exact fun row hrow sentAt hsent => (h.marked row hrow sentAt hsent).later hs
  cleaned := by
    rw [hcleaned, hscheduled]
    intro row time hrow
    obtain ⟨hmem, sentAt, hsent, hmarked, hold⟩ := h.cleaned row time hrow
    exact ⟨hmem, sentAt, hsent, hmarked.later hs, hold⟩
  tries := fun t ht => (htries t ht).elim (fun hold => (h.tries t hold).later hs) id
  fresh := by
    rw [hscheduled]
    exact fun email hemail => Nat.lt_of_lt_of_le (h.fresh email hemail) hnext
  job := hjob

theorem Ledger.withJob (h : Ledger s) (job : Option EmailsJob) (hjob : ∀ j ∈ job, j.Knows s) :
    Ledger { s with job } :=
  h.later (.same rfl rfl rfl rfl) rfl (Nat.le_refl _) rfl rfl rfl (fun _ => Or.inl)
    fun j hj => (hjob j hj).later (.same rfl rfl rfl rfl)

theorem Ledger.adds (h : Ledger s) {email : OneTimeEmailEntity} (hid : email.id = s.nextUuid)
    (hsent : email.sentAt = none) (hnew : s.emails.find email.id = none) : Ledger (s.adds email hnew) := by
  have hs : Before s (s.adds email hnew) :=
    ⟨Nat.le_refl _, List.subset_append_left _ _, fun _ => id, fun _ => id⟩
  have hself := asScheduled_of_unsent hsent
  refine ⟨⟨?_, ?_, ?_, ?_, ?_, ?_⟩, ?_, ?_⟩
  · change ((s.scheduled ++ [email]).map (·.id)).Nodup
    rw [List.map_append, List.nodup_append]
    refine ⟨h.distinct, List.nodup_singleton _, fun a ha b hb hab => ?_⟩
    obtain ⟨old, hold, rfl⟩ := List.mem_map.1 ha
    have hlt : b < s.nextUuid := hab ▸ h.fresh old hold
    exact absurd ((List.mem_singleton.1 hb).trans hid) (Nat.ne_of_lt hlt)
  · intro x hx
    obtain hold | hx := List.mem_append.1 hx
    · cases h.fate x hold with
      | stored hrow heq => exact .stored ((Table.mem_insert hnew).2 (Or.inl hrow)) heq
      | unscheduled hid => exact .unscheduled hid
      | cleaned hrow heq => exact .cleaned hrow heq
    · cases List.mem_singleton.1 hx
      exact .stored ((Table.mem_insert hnew).2 (Or.inr rfl)) hself
  · intro row hrow
    obtain hold | rfl := (Table.mem_insert hnew).1 hrow
    · exact hs.scheduled (h.stored row hold)
    · rw [hself]
      exact List.mem_append_right _ (List.mem_singleton.2 rfl)
  · intro row hrow sentAt hmark
    obtain hold | rfl := (Table.mem_insert hnew).1 hrow
    · exact (h.marked row hold sentAt hmark).later hs
    · rw [hsent] at hmark
      cases hmark
  · intro row time hrow
    obtain ⟨hmem, sentAt, hmark, hmarked, hold⟩ := h.cleaned row time hrow
    exact ⟨hs.scheduled hmem, sentAt, hmark, hmarked.later hs, hold⟩
  · exact fun t ht => (h.tries t ht).later hs
  · intro x hx
    obtain hold | hnew := List.mem_append.1 hx
    · exact Nat.lt_succ_of_lt (h.fresh x hold)
    · cases List.mem_singleton.1 hnew
      rw [hid]
      exact Nat.lt_succ_self _
  · exact fun job hjob => (h.job job hjob).later hs

/-- Rows are deleted, and it is noted which. -/
theorem Ledger.deletes (h : Ledger s) (p : OneTimeEmailEntity → Bool) (hs : Before s s')
    (hscheduled : s'.scheduled = s.scheduled) (hnext : s'.nextUuid = s.nextUuid) (htries : s'.tries = s.tries)
    (hjob : s'.job = s.job) (hemails : s'.emails = s.emails.deleteWhere p)
    (hunscheduled : s.unscheduled ⊆ s'.unscheduled)
    (hcleaned : s.cleaned ⊆ s'.cleaned)
    (hgone : ∀ row ∈ s.emails.rows, p row = true → row.id ∈ s'.unscheduled ∨ ∃ time, (row, time) ∈ s'.cleaned)
    (hold : ∀ row time, (row, time) ∈ s'.cleaned → (row, time) ∈ s.cleaned ∨ row ∈ s.emails.rows ∧
      ∃ sentAt, row.sentAt = some sentAt ∧ sentAt.addMicros keptAfterSending < time) : Ledger s' where
  distinct := hscheduled ▸ h.distinct
  fate := by
    intro email hmem
    rw [hscheduled] at hmem
    cases h.fate email hmem with
    | @stored row hrow heq =>
      cases hp : p row with
      | false => exact .stored (hemails ▸ Table.mem_deleteWhere.2 ⟨hrow, hp⟩) heq
      | true =>
        obtain hid | ⟨time, hclean⟩ := hgone row hrow hp
        · exact .unscheduled (heq ▸ hid)
        · exact .cleaned hclean heq
    | unscheduled hid => exact .unscheduled (hunscheduled hid)
    | cleaned hrow heq => exact .cleaned (hcleaned hrow) heq
  stored := by
    rw [hemails, hscheduled]
    exact fun row hrow => h.stored row (Table.mem_deleteWhere.1 hrow).1
  marked := by
    rw [hemails]
    exact fun row hrow sentAt hsent => (h.marked row (Table.mem_deleteWhere.1 hrow).1 sentAt hsent).later hs
  cleaned := by
    intro row time hrow
    rw [hscheduled]
    obtain hbefore | ⟨hmem, sentAt, hsent, hlate⟩ := hold row time hrow
    · obtain ⟨hmem, sentAt, hsent, hmarked, hlate⟩ := h.cleaned row time hbefore
      exact ⟨hmem, sentAt, hsent, hmarked.later hs, hlate⟩
    · exact ⟨h.stored row hmem, sentAt, hsent, (h.marked row hmem sentAt hsent).later hs, hlate⟩
  tries := by
    rw [htries]
    exact fun t ht => (h.tries t ht).later hs
  fresh := by
    rw [hscheduled, hnext]
    exact h.fresh
  job := by
    rw [hjob]
    exact fun job hmem => (h.job job hmem).later hs

theorem Ledger.removes (h : Ledger s) {emails : OneTimeEmails} (hdeletes : ∃ p, emails = s.emails.deleteWhere p) :
    Ledger (s.removes emails) := by
  obtain ⟨p, rfl⟩ := hdeletes
  refine h.deletes p (.same rfl rfl rfl rfl) rfl rfl rfl rfl rfl
    (List.subset_append_left _ _) (fun _ => id) (fun row hrow hp => Or.inl ?_) fun _ _ => Or.inl
  refine List.mem_append_right _ (List.mem_map.2 ⟨row, List.mem_filter.2 ⟨hrow, ?_⟩, rfl⟩)
  rw [Table.find_deleteWhere_none hrow hp]
  rfl

theorem Ledger.cleansUp (h : Ledger s) (hstep : oneTimeEmailStep s .cleansUp = some s') : Ledger s' := by
  cases hstep
  refine h.deletes (isOld s.now) (.same rfl rfl rfl rfl) rfl rfl rfl rfl rfl (fun _ => id)
    (List.subset_append_left _ _) (fun row hrow hp => Or.inr ⟨s.now, ?_⟩) fun row time hrow => ?_
  · exact List.mem_append_right _ (List.mem_map.2 ⟨row, List.mem_filter.2 ⟨hrow, hp⟩, rfl⟩)
  · refine (List.mem_append.1 hrow).imp_right fun hnew => ?_
    obtain ⟨row', hrow', heq⟩ := List.mem_map.1 hnew
    cases heq
    obtain ⟨hmem, hp⟩ := List.mem_filter.1 hrow'
    refine ⟨hmem, ?_⟩
    unfold isOld at hp
    cases hsent : row.sentAt with
    | none =>
      rw [hsent] at hp
      cases hp
    | some sentAt =>
      rw [hsent] at hp
      exact ⟨sentAt, rfl, of_decide_eq_true hp⟩

theorem Ledger.schedules (h : Ledger s) {kind : OneTimeEmailKind} {scheduledAt : DateTime} {userId : Option UserId}
    {workspaceId : Option WorkspaceId} {message : EmailMessage}
    (hstep : oneTimeEmailStep s (.schedules kind scheduledAt userId workspaceId message) = some s') : Ledger s' := by
  obtain rfl | ⟨email, hnew, hid, has, rfl⟩ := schedules_cases h.find_fresh hstep
  · have hs : Before s { s with nextUuid := s.nextUuid + 1 } := .same rfl rfl rfl rfl
    exact h.later hs rfl (Nat.le_succ _) rfl rfl rfl (fun _ => Or.inl) fun job hjob => (h.job job hjob).later hs
  · exact h.adds hid has.sentAt hnew

/-! ### One await of the job -/

theorem Ledger.asScheduled_eq (h : Ledger s) {email row : OneTimeEmailEntity} (hmem : email ∈ s.scheduled)
    (hfind : s.emails.find email.id = some row) : asScheduled row = email :=
  have hid : row.id = email.id := Table.key_of_find hfind
  List.inj_on_of_nodup_map h.distinct (h.stored row (Table.mem_of_find hfind)) hmem hid

theorem Ledger.tries_one (h : Ledger s) {job : EmailsJob} (hjob : job.Knows s) {entity : OneTimeEmailEntity}
    {recipient : String} {left : List String} (hturn : job.turn = .sends entity (recipient :: left))
    (delivered : Bool) :
    Ledger { s.tried entity recipient delivered with job := nextTurn job.pending } ∧
      (delivered = true ∨ job.toSend.workspaceId.isSome = true →
        Ledger { s.tried entity recipient delivered with job := some { job with turn := .sends entity left } }) := by
  have hknows := hjob.turn
  rw [hturn] at hknows
  obtain ⟨hentity, directory, hasked, hleft, hall⟩ := hknows
  obtain ⟨hmem, hdue⟩ := hjob.listed job.toSend List.mem_cons_self
  have hid : job.toSend.id = entity.id := by rw [← hentity]; rfl
  have hs : ∀ job', Before s { s.tried entity recipient delivered with job := job' } := fun _ =>
    ⟨Nat.le_refl _, fun _ => id, fun _ => id, List.subset_append_left _ _⟩
  have htruthful : ∀ job', ∀ t ∈ ({ s.tried entity recipient delivered with job := job' } : OneTimeEmailRun).tries,
      t ∈ s.tries ∨ Truthful { s.tried entity recipient delivered with job := job' } t := by
    intro job' t ht
    refine (List.mem_append.1 ht).imp_right fun hnew => ?_
    cases List.mem_singleton.1 hnew
    exact ⟨job.toSend, hmem, hid, by rw [← hentity]; rfl, hdue, Nat.le_refl _, directory, hasked,
      hleft List.mem_cons_self⟩
  constructor
  · exact h.later (hs _) rfl (Nat.le_refl _) rfl rfl rfl (htruthful _) fun j hj => (hjob.next j hj).later (hs _)
  · intro hhanded
    refine h.later (hs _) rfl (Nat.le_refl _) rfl rfl rfl (htruthful _) fun j hj => ?_
    cases hj
    have hlater := hjob.later (hs (some { job with turn := .sends entity left }))
    refine ⟨hlater.listed, hentity, directory, hasked, fun x hx => hleft (List.mem_cons_of_mem _ hx), fun x hx => ?_⟩
    obtain hin | hdone := hall x hx
    · obtain rfl | hin := List.mem_cons.1 hin
      · exact Or.inr ⟨_, List.mem_append_right _ (List.mem_singleton.2 rfl), by rw [hid]; rfl, hhanded⟩
      · exact Or.inl hin
    · exact Or.inr (hdone.later (hs _))

theorem Ledger.marks (h : Ledger s) {job : EmailsJob} (hjob : job.Knows s) {entity row : OneTimeEmailEntity}
    (hturn : job.turn = .sends entity []) (hfind : s.emails.find entity.id = some row) :
    Ledger { s with
      emails := s.emails.replace { row with sentAt := some s.now }
      job := nextTurn job.pending } := by
  have hknows := hjob.turn
  rw [hturn] at hknows
  obtain ⟨hentity, directory, hasked, -, hall⟩ := hknows
  obtain ⟨hmem, hdue⟩ := hjob.listed job.toSend List.mem_cons_self
  have hid : entity.id = job.toSend.id := by rw [← hentity]; rfl
  have hrow : asScheduled row = job.toSend := h.asScheduled_eq hmem (hid ▸ hfind)
  have hs : Before s { s with
      emails := s.emails.replace { row with sentAt := some s.now }
      job := nextTurn job.pending } := .same rfl rfl rfl rfl
  have hself : ({ row with sentAt := some s.now } : OneTimeEmailEntity) ∈
      (s.emails.replace { row with sentAt := some s.now }).rows := by
    have hfound : s.emails.find ({ row with sentAt := some s.now } : OneTimeEmailEntity).id = some row := by
      rw [← hfind, ← Table.key_of_find hfind]
    exact Table.mem_of_find (Table.find_replace_self hfound)
  refine ⟨⟨h.distinct, ?_, ?_, ?_, ?_, ?_⟩, h.fresh, fun j hj => (hjob.next j hj).later hs⟩
  · intro email hemail
    cases h.fate email hemail with
    | @stored old hold heq =>
      by_cases hsame : old.id = row.id
      · -- the row of this e-mail is the one that is marked
        have : old = row := List.inj_on_of_nodup_map s.emails.unique hold (Table.mem_of_find hfind) hsame
        subst this
        exact .stored hself heq
      · refine .stored (List.mem_map.2 ⟨old, hold, ?_⟩) heq
        rw [if_neg]
        exact hsame
    | unscheduled hid => exact .unscheduled hid
    | cleaned hrow heq => exact .cleaned hrow heq
  · intro x hx
    obtain hold | rfl := Table.mem_replace hx
    · exact h.stored x hold
    · exact h.stored row (Table.mem_of_find hfind)
  · intro x hx sentAt hsent
    obtain hold | rfl := Table.mem_replace hx
    · exact (h.marked x hold sentAt hsent).later hs
    · cases hsent
      have hrecipients : ∀ d : Directory, d.recipients job.toSend = d.recipients row := by
        intro d
        rw [← hrow]
        rfl
      refine ⟨?_, Nat.le_refl _, directory, ?_, fun recipient hrecipient => ?_⟩
      · rw [← hrow] at hdue
        exact hdue
      · rw [← hrow] at hasked
        exact hasked
      · obtain hin | hhanded := hall recipient (by rw [hrecipients]; exact hrecipient)
        · cases hin
        · rw [← hrow] at hhanded
          exact hhanded.later hs
  · intro old time hold
    obtain ⟨hmem, sentAt, hsent, hmarked, hlate⟩ := h.cleaned old time hold
    exact ⟨hmem, sentAt, hsent, hmarked.later hs, hlate⟩
  · exact fun t ht => (h.tries t ht).later hs

theorem Ledger.resumes (h : Ledger s) {job : EmailsJob} (hjob : s.job = some job) {raises : Bool}
    (hresumes : Resumes s job raises s') : Ledger s' := by
  have hknows := h.job job hjob
  have hnext := h.withJob _ hknows.next
  cases hresumes with
  | ends => exact h.withJob none fun j hj => by cases hj
  | misses | asksInVain | losesMark => exact hnext
  | gets hturn hfind =>
    refine h.withJob _ fun j hj => ?_
    cases hj
    exact ⟨hknows.listed, h.asScheduled_eq (hknows.listed _ List.mem_cons_self).1 hfind⟩
  | @asks entity hturn =>
    have hs : Before s { s with
        job := some { job with turn := .sends entity (s.directory.recipients job.toSend) }
        asked := s.asked ++ [(job.toSend.id, s.directory)] } :=
      ⟨Nat.le_refl _, fun _ => id, List.subset_append_left _ _, fun _ => id⟩
    refine h.later hs rfl (Nat.le_refl _) rfl rfl rfl (fun _ => Or.inl) fun j hj => ?_
    cases hj
    have hentity := hknows.turn
    rw [hturn] at hentity
    exact ⟨(hknows.later hs).listed, hentity, s.directory, List.mem_append_right _ (List.mem_singleton.2 rfl),
      fun _ => id, fun recipient => Or.inl⟩
  | failsUser hturn => exact (h.tries_one hknows hturn false).1
  | @sends _ _ _ raises hturn hhanded => exact (h.tries_one hknows hturn !raises).2 hhanded
  | marks hturn hfind => exact h.marks hknows hturn hfind

/-! ### Any move -/

theorem Ledger.step (h : Ledger s) {move : OneTimeEmailMove} (hstep : oneTimeEmailStep s move = some s') :
    Ledger s' := by
  cases move with
  | passes now =>
    obtain ⟨hnow, rfl⟩ := passes_iff.1 hstep
    have hs : Before s { s with now } := ⟨hnow, fun _ => id, fun _ => id, fun _ => id⟩
    exact h.later hs rfl (Nat.le_refl _) rfl rfl rfl (fun _ => Or.inl) fun job hjob => (h.job job hjob).later hs
  | changes directory =>
    cases hstep
    have hs : Before s { s with directory } := .same rfl rfl rfl rfl
    exact h.later hs rfl (Nat.le_refl _) rfl rfl rfl (fun _ => Or.inl) fun job hjob => (h.job job hjob).later hs
  | schedules => exact h.schedules hstep
  | unschedules =>
    cases hstep
    exact h.removes (unschedule_deletes _ _ _ _)
  | handles event =>
    cases hstep
    exact h.removes (handler_deletes _ event)
  | starts listed =>
    obtain ⟨⟨-, hlisted⟩, rfl⟩ := starts_iff.1 hstep
    refine h.withJob _ (knows_nextTurn fun email hemail => ?_)
    obtain ⟨hmem, hdue⟩ := mem_listPendingEmails.1 (hlisted.mem_iff.1 hemail)
    exact ⟨asScheduled_of_unsent hdue.1 ▸ h.stored email hmem, hdue.2⟩
  | resumes raises =>
    obtain ⟨job, hjob, hresumes⟩ := resumes_cases hstep
    exact h.resumes hjob hresumes
  | restarts =>
    cases hstep
    exact h.withJob none fun j hj => by cases hj
  | cleansUp => exact h.cleansUp hstep

theorem ledger_init (now : DateTime) (directory : Directory) : Ledger (.init now directory) where
  distinct := List.nodup_nil
  fate := fun _ h => by cases h
  stored := fun _ h => by cases h
  marked := fun _ h => by cases h
  cleaned := fun _ _ h => by cases h
  tries := fun _ h => by cases h
  fresh := fun _ h => by cases h
  job := fun _ h => by cases h

theorem ledger_run {now : DateTime} {directory : Directory} {moves : List OneTimeEmailMove}
    (hrun : run oneTimeEmailStep (.init now directory) moves = some s) : Ledger s :=
  run_keeps (fun _ _ _ h hstep => h.step hstep) (ledger_init now directory) hrun

/-- **The books are right after any run.** -/
theorem books_of_run {now : DateTime} {directory : Directory} {moves : List OneTimeEmailMove} {s : OneTimeEmailRun}
    (hrun : run oneTimeEmailStep (.init now directory) moves = some s) : Books s :=
  (ledger_run hrun).toBooks

/-! ### A workspace of two users -/

def newYear : DateTime := (⟨2024, 1, 1, valid_newYear⟩ : Date).atHour 9

def january (day : Nat) (h : 1 ≤ 2024 ∧ 1 ≤ 1 ∧ 1 ≤ 12 ∧ 1 ≤ day ∧ day ≤ daysInMonth 2024 1) : DateTime :=
  (⟨2024, 1, day, h⟩ : Date).atHour 9

def twoMembers : Directory where
  users := ⟨[⟨1, "owner@acme.io", newYear⟩, ⟨2, "member@acme.io", newYear⟩], by decide⟩
  organizations := ⟨[⟨1, "acme", "Acme", 1, 1, [2], .trial, none, none, newYear, newYear, none, none, none⟩], by decide⟩
  addresses := by decide

def trialEnds : EmailMessage := ⟨"Your Fix trial ends soon", "", none⟩

def schedulesReminder : OneTimeEmailMove :=
  .schedules .trialEndNotification (january 2 valid_january2) none (some 1) trialEnds

/-- On the third it is sent to both users; the send to the first one raises. -/
def sendsReminder : List OneTimeEmailMove :=
  [schedulesReminder, .passes (january 3 valid_january3),
    .starts (exec (scheduleOneTimeEmail 0 .trialEndNotification (january 2 valid_january2) none (some 1) trialEnds)
      default).2.rows,
    .resumes false, .resumes false, .resumes true, .resumes false, .resumes false]

def reminded : OneTimeEmailRun := (run oneTimeEmailStep (.init newYear twoMembers) sendsReminder).get
    (by decide +kernel)

theorem reminded_books : Books reminded ∧ reminded.emails.rows.length = 1 ∧
    reminded.tries.map (·.delivered) = [false, true] :=
  ⟨@books_of_run newYear twoMembers sendsReminder reminded
    (Option.some_get _).symm, by decide +kernel, by decide +kernel⟩

end OneTimeEmailService

end Fix
