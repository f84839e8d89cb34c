import FixBackend.Effects
import FixBackend.Events
import FixBackend.Table
/-!
# OneTimeEmails — e-mails that are scheduled and unscheduled

`fixbackend/notification/email/one_time_email.py` and the two consumers that remind of the end of a trial.  An e-mail
goes to a user or to a workspace, and the column of the other one is null.  Unscheduling compares both columns, the
one that it is not asked about with null.
-/
namespace Fix

open Calendar Effects

abbrev OneTimeEmailId := Uuid

inductive OneTimeEmailKind where
  | trialEndNotification
deriving DecidableEq

def OneTimeEmailKind.value : OneTimeEmailKind → String
  | .trialEndNotification => "trial_end"

structure EmailMessage where
  subject : String
  text : String
  html : Option String
deriving DecidableEq

/-- A row of the table, which has one of the two recipients. -/
structure OneTimeEmailEntity where
  id : OneTimeEmailId
  kind : String
  userId : Option UserId
  workspaceId : Option WorkspaceId
  message : EmailMessage
  scheduledAt : DateTime
  sentAt : Option DateTime
  addressed : userId.isSome ≠ workspaceId.isSome
deriving DecidableEq

abbrev OneTimeEmails := Table OneTimeEmailEntity.id

abbrev Emailing := Call Err OneTimeEmails

namespace OneTimeEmailService

def scheduleOneTimeEmail (id : OneTimeEmailId) (kind : OneTimeEmailKind) (scheduledAt : DateTime)
    (userId : Option UserId) (workspaceId : Option WorkspaceId) (message : EmailMessage) : Emailing PUnit := do
  if userId.isNone && workspaceId.isNone then throw (.valueError "Either user_id or workspace_id must be provided")
  else if userId.isSome && workspaceId.isSome then
    throw (.valueError "Only one of user_id or workspace_id can be provided")
  else
    let emails ← get
    if h : userId.isSome ≠ workspaceId.isSome ∧ emails.find id = none then
      set (emails.insert ⟨id, kind.value, userId, workspaceId, message, scheduledAt, none, h.1⟩ h.2)
    else throw .integrityError

/-- The comparison of a column with a value in a statement; with `None` it is `IS NULL`. -/
def columnEq {α : Type} [DecidableEq α] (column : Option α) : Option α → Bool
  | none => column.isNone
  | some a => decide (column = some a)

def unscheduleOneTimeEmail (userId : Option UserId) (workspaceId : Option WorkspaceId) (kind : OneTimeEmailKind) :
    Emailing PUnit :=
  if userId.isNone && workspaceId.isNone then throw (.valueError "Either user_id or workspace_id must be provided")
  else modify fun emails => emails.deleteWhere fun email =>
    decide (email.kind = kind.value) && (columnEq email.userId userId || columnEq email.workspaceId workspaceId)

/-! ## The reminders of a trial -/

def trialPeriodDuration : Nat := 14 * dayMicros

structure TrialMessages where
  expiresSoon : Nat → EmailMessage
  expired : EmailMessage

def scheduleTrialEndReminder (messages : TrialMessages) (ids : Nat → OneTimeEmailId) (workspaceId : WorkspaceId)
    (now : DateTime) (kind : OneTimeEmailKind) : Emailing PUnit := do
  [2, 1].forM fun days => scheduleOneTimeEmail (ids days) kind
    (now.addMicros (trialPeriodDuration - days * dayMicros)) none (some workspaceId) (messages.expiresSoon days)
  scheduleOneTimeEmail (ids 0) kind (now.addMicros trialPeriodDuration) none (some workspaceId) messages.expired

/-- `ScheduleTrialEndReminder._workspace_created_handler`. -/
def workspaceCreatedHandler (messages : TrialMessages) (ids : Nat → OneTimeEmailId) (workspaceId : WorkspaceId)
    (now : DateTime) : Emailing PUnit :=
  scheduleTrialEndReminder messages ids workspaceId now .trialEndNotification

def movedFromTrial (previousTier productTier : ProductTier) : Bool := previousTier == .trial && productTier != .trial

/-- `UnscheduleTrialEndReminder._product_tier_changed_handler`. -/
def productTierChangedHandler (event : DomainEvent) : Emailing PUnit :=
  match event with
  | .productTierChanged workspaceId _ productTier _ _ previousTier =>
    if movedFromTrial previousTier productTier then unscheduleOneTimeEmail none (some workspaceId) .trialEndNotification
    else return ()
  | _ => return ()

/-! ## What unscheduling is for -/

inductive Target where
  | user (userId : UserId)
  | workspace (workspaceId : WorkspaceId)
deriving DecidableEq

def Target.userId : Target → Option UserId
  | .user userId => some userId
  | .workspace _ => none

def Target.workspaceId : Target → Option WorkspaceId
  | .user _ => none
  | .workspace workspaceId => some workspaceId

def GoesTo (email : OneTimeEmailEntity) (target : Target) : Prop :=
  email.userId = target.userId ∧ email.workspaceId = target.workspaceId

instance (email : OneTimeEmailEntity) (target : Target) : Decidable (GoesTo email target) := instDecidableAnd

def Target.sameSort : Target → Target → Prop
  | .user _, .user _ => True
  | .workspace _, .workspace _ => True
  | _, _ => False

/-- **Unscheduling removes exactly the e-mails of the kind for the target.** -/
def UnschedulesExactly (target : Target) (kind : OneTimeEmailKind) (emails : OneTimeEmails) : Prop :=
  (exec (unscheduleOneTimeEmail target.userId target.workspaceId kind) emails).1 = .ok ⟨⟩ ∧
    ∀ email, email ∈ (exec (unscheduleOneTimeEmail target.userId target.workspaceId kind) emails).2.rows ↔
      email ∈ emails.rows ∧ ¬(email.kind = kind.value ∧ GoesTo email target)

/-- No e-mail of the kind goes to another target of the same sort. -/
def NoOthers (target : Target) (kind : OneTimeEmailKind) (emails : OneTimeEmails) : Prop :=
  ∀ email ∈ emails.rows, email.kind = kind.value → ∀ other : Target, other.sameSort target → GoesTo email other →
    other = target

/-- The reminders of the other workspaces stay when the tier of a workspace changes. -/
def OthersKeepReminders (workspaceId : WorkspaceId) (event : DomainEvent) (emails : OneTimeEmails) : Prop :=
  ∀ email ∈ emails.rows, email.kind = OneTimeEmailKind.trialEndNotification.value → ∀ other, other ≠ workspaceId →
    GoesTo email (.workspace other) → email ∈ (exec (productTierChangedHandler event) emails).2.rows

/-! ## Which e-mails are removed -/

/-- **An e-mail is scheduled** exactly for one recipient and under a new id. -/
theorem scheduleOneTimeEmail_ok_iff (id : OneTimeEmailId) (kind : OneTimeEmailKind) (scheduledAt : DateTime)
    (userId : Option UserId) (workspaceId : Option WorkspaceId) (message : EmailMessage) (emails : OneTimeEmails) :
    (exec (scheduleOneTimeEmail id kind scheduledAt userId workspaceId message) emails).1 = .ok ⟨⟩ ↔
      userId.isSome ≠ workspaceId.isSome ∧ emails.find id = none := by
  unfold scheduleOneTimeEmail
  cases userId with
  | none =>
    cases workspaceId with
    | none => exact ⟨fun h => (by cases h), fun h => absurd rfl h.1⟩
    | some workspaceId =>
      by_cases hid : emails.find id = none
      · simp [exec_bind, hid]
      · simp [exec_bind, hid]
  | some userId =>
    cases workspaceId with
    | none =>
      by_cases hid : emails.find id = none
      · simp [exec_bind, hid]
      · simp [exec_bind, hid]
    | some workspaceId => exact ⟨fun h => (by cases h), fun h => absurd rfl h.1⟩

theorem columns_iff (email : OneTimeEmailEntity) (target : Target) :
    (columnEq email.userId target.userId || columnEq email.workspaceId target.workspaceId) = true ↔
      ∃ other : Target, other.sameSort target ∧ GoesTo email other := by
  have haddressed := email.addressed
  cases target with
  | user userId =>
    constructor
    · intro h
      cases hu : email.userId with
      | none =>
        cases hw : email.workspaceId with
        | none => simp [hu, hw] at haddressed
        | some w => simp [hu, hw, columnEq, Target.userId, Target.workspaceId] at h
      | some u =>
        refine ⟨.user u, trivial, hu, ?_⟩
        cases hw : email.workspaceId with
        | none => rfl
        | some w => simp [hu, hw] at haddressed
    · rintro ⟨other, hsort, -, hw⟩
      cases other with
      | workspace w => cases hsort
      | user u =>
        rw [hw]
        exact Bool.or_true _
  | workspace workspaceId =>
    constructor
    · intro h
      cases hw : email.workspaceId with
      | none =>
        cases hu : email.userId with
        | none => simp [hu, hw] at haddressed
        | some u => simp [hu, hw, columnEq, Target.userId, Target.workspaceId] at h
      | some w =>
        refine ⟨.workspace w, trivial, ?_, hw⟩
        cases hu : email.userId with
        | none => rfl
        | some u => simp [hu, hw] at haddressed
    · rintro ⟨other, hsort, hu, -⟩
      cases other with
      | user u => cases hsort
      | workspace w =>
        rw [hu]
        exact Bool.true_or _

theorem exec_unschedule (target : Target) (kind : OneTimeEmailKind) (emails : OneTimeEmails) :
    exec (unscheduleOneTimeEmail target.userId target.workspaceId kind) emails =
      (.ok ⟨⟩, emails.deleteWhere fun email => decide (email.kind = kind.value) &&
        (columnEq email.userId target.userId || columnEq email.workspaceId target.workspaceId)) := by
  cases target <;> rfl

/-- **What unscheduling leaves**: it does not tell the target from the others of its sort. -/
theorem mem_unschedule_iff (target : Target) (kind : OneTimeEmailKind) (emails : OneTimeEmails)
    (email : OneTimeEmailEntity) :
    email ∈ (exec (unscheduleOneTimeEmail target.userId target.workspaceId kind) emails).2.rows ↔
      email ∈ emails.rows ∧ ¬(email.kind = kind.value ∧ ∃ other : Target, other.sameSort target ∧
        GoesTo email other) := by
  rw [exec_unschedule, ← columns_iff]
  change email ∈ emails.rows.filter _ ↔ _
  rw [List.mem_filter, Bool.not_eq_true', Bool.and_eq_false_iff, decide_eq_false_iff_not, not_and_or, Bool.not_eq_true]

theorem goesTo_unique {email : OneTimeEmailEntity} {a b : Target} (ha : GoesTo email a)
    (hb : GoesTo email b) : a = b := by
  obtain ⟨hau, haw⟩ := ha
  obtain ⟨hbu, hbw⟩ := hb
  rw [hau] at hbu
  rw [haw] at hbw
  cases a <;> cases b <;> cases hbu <;> cases hbw <;> rfl

theorem unschedulesExactly_iff (target : Target) (kind : OneTimeEmailKind) (emails : OneTimeEmails) :
    UnschedulesExactly target kind emails ↔ NoOthers target kind emails := by
  have hself : target.sameSort target := by cases target <;> trivial
  constructor
  · rintro ⟨-, h⟩ email hmem hkind other hsort hgoes
    by_contra hne
    have hkept := (h email).2 ⟨hmem, fun ⟨_, hgoes'⟩ => hne (goesTo_unique hgoes hgoes')⟩
    exact ((mem_unschedule_iff target kind emails email).1 hkept).2 ⟨hkind, other, hsort, hgoes⟩
  · intro h
    refine ⟨by rw [exec_unschedule], fun email => ?_⟩
    rw [mem_unschedule_iff]
    refine and_congr_right fun hmem =>
      not_congr (and_congr_right fun hkind => ⟨?_, fun hgoes => ⟨target, hself, hgoes⟩⟩)
    rintro ⟨other, hsort, hgoes⟩
    rw [← h email hmem hkind other hsort hgoes]
    exact hgoes

theorem othersKeepReminders_iff (workspaceId : WorkspaceId) (userId : UserId) (productTier : ProductTier)
    (isPaidTier isHigherTier : Bool) (previousTier : ProductTier) (emails : OneTimeEmails) :
    OthersKeepReminders workspaceId
        (.productTierChanged workspaceId userId productTier isPaidTier isHigherTier previousTier) emails ↔
      (movedFromTrial previousTier productTier = true →
        NoOthers (.workspace workspaceId) .trialEndNotification emails) := by
  unfold OthersKeepReminders productTierChangedHandler
  dsimp only
  by_cases hmoved : movedFromTrial previousTier productTier = true
  swap
  · rw [if_neg hmoved]
    exact ⟨fun _ h => absurd h hmoved, fun _ email hmem _ _ _ _ => hmem⟩
  rw [if_pos hmoved]
  have hleft := mem_unschedule_iff (.workspace workspaceId) .trialEndNotification emails
  constructor
  · rintro h - email hmem hkind other hsort hgoes
    cases other with
    | user u => cases hsort
    | workspace w =>
      by_contra hne
      have hkept := h email hmem hkind w (fun heq => hne (congrArg Target.workspace heq)) hgoes
      exact ((hleft email).1 hkept).2 ⟨hkind, .workspace w, trivial, hgoes⟩
  · intro h email hmem hkind other hne hgoes
    have hsame := h hmoved email hmem hkind (.workspace other) trivial hgoes
    cases hsame
    exact absurd rfl hne

/-- **When unscheduling touches only its target**, called for a user or a workspace or on a change of the tier. -/
theorem unscheduling_iff (emails : OneTimeEmails) :
    (∀ target kind, UnschedulesExactly target kind emails ↔ NoOthers target kind emails) ∧
    ∀ workspaceId userId productTier isPaidTier isHigherTier previousTier,
      OthersKeepReminders workspaceId
          (.productTierChanged workspaceId userId productTier isPaidTier isHigherTier previousTier) emails ↔
        (movedFromTrial previousTier productTier = true →
          NoOthers (.workspace workspaceId) .trialEndNotification emails) :=
  ⟨fun target kind => unschedulesExactly_iff target kind emails,
    fun _ _ _ _ _ _ => othersKeepReminders_iff _ _ _ _ _ _ _⟩

/-! ## Two trials -/

def someMessages : TrialMessages :=
  ⟨fun _ => ⟨"Your Fix trial ends soon", "", none⟩, ⟨"Your Fix trial has ended", "", none⟩⟩

def twoTrials : Emailing PUnit := do
  workspaceCreatedHandler someMessages (fun days => 10 + days) 1 ((⟨2024, 1, 1, valid_newYear⟩ : Date).atHour 9)
  workspaceCreatedHandler someMessages (fun days => 20 + days) 2 ((⟨2024, 1, 2, valid_january2⟩ : Date).atHour 9)

/-- Workspace 1 buys a tier, and workspace 2 is not reminded any more. -/
theorem twoTrials_not_exact : ¬UnschedulesExactly (.workspace 1) .trialEndNotification (exec twoTrials default).2 ∧
    ¬OthersKeepReminders 1 (.productTierChanged 1 11 .plus true true .trial) (exec twoTrials default).2 := by
  have hreminder : ∃ email ∈ (exec twoTrials default).2.rows,
      email.kind = OneTimeEmailKind.trialEndNotification.value ∧ GoesTo email (.workspace 2) := by
    decide +kernel
  obtain ⟨email, hmem, hkind, hgoes⟩ := hreminder
  have hothers : ¬NoOthers (.workspace 1) .trialEndNotification (exec twoTrials default).2 := by
    intro h
    cases h email hmem hkind (.workspace 2) trivial hgoes
  rw [unschedulesExactly_iff, othersKeepReminders_iff]
  exact ⟨hothers, fun h => hothers (h rfl)⟩

end OneTimeEmailService

end Fix
