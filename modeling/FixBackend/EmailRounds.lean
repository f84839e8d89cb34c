import FixBackend.PendingEmails
/-!
# EmailRounds — who gets a one-time e-mail, and how often

Three results about the runs of `FixBackend.PendingEmails`.  An e-mail reaches an address once, as long as the mark of
an e-mail that was sent is not lost.  A round of the job that is not disturbed marks every e-mail that is due.  And an
e-mail that is unscheduled is not sent any more, so a workspace that has left its trial is not reminded.
-/
namespace Fix

open Calendar Effects Machine

namespace OneTimeEmailService

/-! ## At most once -/

/-- No call of `send_email` has delivered the e-mail. -/
def Undelivered (tries : List Try) (id : OneTimeEmailId) : Prop := ∀ t ∈ tries, t.delivered = true → t.id ≠ id

instance (tries : List Try) (id : OneTimeEmailId) : Decidable (Undelivered tries id) :=
  inferInstanceAs (Decidable (∀ t ∈ tries, t.delivered = true → t.id ≠ id))

/-- **No address gets an e-mail twice.** -/
def AtMostOnce (tries : List Try) : Prop := ((tries.filter (·.delivered)).map Try.key).Nodup

/-- The e-mail that is being sent, with the addresses that are left. -/
def OneTimeEmailRun.sending (s : OneTimeEmailRun) : Option (OneTimeEmailEntity × List String) :=
  s.job.bind fun job =>
    match job.turn with
    | .sends _ left => some (job.toSend, left)
    | _ => none

/-- The commit of the mark does not raise and the process does not restart after an address got the e-mail. -/
def NoMarkLost (s : OneTimeEmailRun) : OneTimeEmailMove → Prop
  | .resumes raises => raises = true → ∀ x ∈ s.sending, x.2 = [] → Undelivered s.tries x.1.id
  | .restarts => ∀ x ∈ s.sending, Undelivered s.tries x.1.id
  | _ => True

instance (s : OneTimeEmailRun) : (move : OneTimeEmailMove) → Decidable (NoMarkLost s move)
  | .resumes raises =>
    inferInstanceAs (Decidable (raises = true → ∀ x ∈ s.sending, x.2 = [] → Undelivered s.tries x.1.id))
  | .restarts => inferInstanceAs (Decidable (∀ x ∈ s.sending, Undelivered s.tries x.1.id))
  | .passes _ | .changes _ | .schedules .. | .unschedules .. | .handles _ | .starts _ | .cleansUp => isTrue trivial

/-- Nobody gets the e-mail of the turn twice.  Whoever is left did not get it, and a user is the only one. -/
def Turn.Once (tries : List Try) (toSend : OneTimeEmailEntity) : Turn → Prop
  | .gets | .asks _ => Undelivered tries toSend.id
  | .sends _ left => left.Nodup ∧ (∀ t ∈ tries, t.delivered = true → t.id = toSend.id → t.recipient ∉ left) ∧
    (toSend.workspaceId = none → left ≠ [] → left.length = 1 ∧ Undelivered tries toSend.id)

structure EmailsJob.Once (tries : List Try) (job : EmailsJob) : Prop where
  ids : ((job.toSend :: job.pending).map (·.id)).Nodup
  pending : ∀ email ∈ job.pending, Undelivered tries email.id
  turn : job.turn.Once tries job.toSend

/-- **What is not marked was not delivered**, apart from the e-mail that is being sent. -/
structure Once (s : OneTimeEmailRun) : Prop where
  once : AtMostOnce s.tries
  rows : ∀ row ∈ s.emails.rows, row.sentAt = none → Undelivered s.tries row.id ∨ ∃ x ∈ s.sending, x.1.id = row.id
  job : ∀ job ∈ s.job, job.Once s.tries

variable {s s' : OneTimeEmailRun}

theorem nodup_recipients (d : Directory) (email : OneTimeEmailEntity) : (d.recipients email).Nodup := by
  have haddressed := email.addressed
  unfold Directory.recipients
  cases hw : email.workspaceId with
  | none =>
    rw [Option.bind_none]
    dsimp only
    rw [List.append_nil]
    exact Option.toList_nodup _
  | some workspaceId =>
    have hu : email.userId = none := by
      rw [hw] at haddressed
      exact Option.isNone_iff_eq_none.1 (by simpa using haddressed)
    rw [hu, Option.bind_none, Option.map_none, Option.toList_none, List.nil_append]
    split
    · exact d.addresses.sublist (List.filter_sublist.map _)
    · exact List.nodup_nil

theorem recipients_of_user (d : Directory) {email : OneTimeEmailEntity} (h : email.workspaceId = none) :
    (d.recipients email).length ≤ 1 := by
  unfold Directory.recipients
  rw [h, Option.bind_none]
  dsimp only
  rw [List.append_nil, Option.length_toList]
  split <;> omega

theorem undelivered_append {tries : List Try} {t : Try} {id : OneTimeEmailId} :
    Undelivered (tries ++ [t]) id ↔ Undelivered tries id ∧ (t.delivered = true → t.id ≠ id) := by
  unfold Undelivered
  rw [List.forall_mem_append, List.forall_mem_singleton]

theorem atMostOnce_failed {tries : List Try} (h : AtMostOnce tries) {t : Try} (ht : t.delivered = false) :
    AtMostOnce (tries ++ [t]) := by
  unfold AtMostOnce
  rw [List.filter_append, List.filter_singleton, ht]
  exact (List.append_nil _).symm ▸ h

/-- A delivery to an address that has not got the e-mail. -/
theorem atMostOnce_delivered {tries : List Try} (h : AtMostOnce tries) {t : Try}
    (hnew : ∀ t' ∈ tries, t'.delivered = true → t'.key ≠ t.key) : AtMostOnce (tries ++ [t]) := by
  cases ht : t.delivered with
  | false => exact atMostOnce_failed h ht
  | true =>
    unfold AtMostOnce
    rw [List.filter_append, List.filter_singleton, ht, List.map_append, List.nodup_append]
    refine ⟨h, List.nodup_singleton _, fun a ha b hb hab => ?_⟩
    obtain ⟨t', ht', rfl⟩ := List.mem_map.1 ha
    obtain ⟨hmem, hdelivered⟩ := List.mem_filter.1 ht'
    exact hnew t' hmem hdelivered (hab.trans (List.mem_singleton.1 hb))

theorem once_nextTurn {tries : List Try} {emails : List OneTimeEmailEntity} (hids : (emails.map (·.id)).Nodup)
    (h : ∀ email ∈ emails, Undelivered tries email.id) : ∀ job ∈ nextTurn emails, job.Once tries := by
  intro job hjob
  cases emails with
  | nil => cases hjob
  | cons toSend pending =>
    cases hjob
    exact ⟨hids, fun email hemail => h email (List.mem_cons_of_mem _ hemail), h toSend List.mem_cons_self⟩

theorem EmailsJob.Once.next {tries : List Try} {job : EmailsJob} (h : job.Once tries) :
    ∀ job' ∈ nextTurn job.pending, job'.Once tries :=
  once_nextTurn (List.nodup_cons.1 h.ids).2 h.pending

theorem Once.withRows (h : Once s) (htries : s'.tries = s.tries) (hjob : s'.job = s.job)
    (hrows : ∀ row ∈ s'.emails.rows, row.sentAt = none → row ∈ s.emails.rows ∨ Undelivered s.tries row.id) :
      Once s' := by
  have hsending : s'.sending = s.sending := by
    unfold OneTimeEmailRun.sending
    rw [hjob]
  refine ⟨htries ▸ h.once, fun row hrow hsent => ?_, ?_⟩
  · rw [htries, hsending]
    obtain hold | hnew := hrows row hrow hsent
    · exact h.rows row hold hsent
    · exact Or.inl hnew
  · rw [htries, hjob]
    exact h.job

/-- The job takes another turn; what it was sending was not delivered, or is not to be sent any more. -/
theorem Once.leaves (h : Once s) (htries : s'.tries = s.tries) (hrows : ∀ row ∈ s'.emails.rows, row.sentAt = none →
      row ∈ s.emails.rows ∧ ∀ x ∈ s.sending, x.1.id = row.id → Undelivered s.tries row.id)
    (hjob : ∀ job ∈ s'.job, job.Once s.tries) : Once s' := by
  refine ⟨htries ▸ h.once, fun row hrow hsent => Or.inl ?_, htries ▸ hjob⟩
  rw [htries]
  obtain ⟨hold, hsending⟩ := hrows row hrow hsent
  obtain hnone | ⟨x, hx, hid⟩ := h.rows row hold hsent
  · exact hnone
  · exact hsending x hx hid

theorem sending_of_turn {job : EmailsJob} {entity : OneTimeEmailEntity} {left : List String} (hjob : s.job = some job)
    (hturn : job.turn = .sends entity left) : s.sending = some (job.toSend, left) := by
  unfold OneTimeEmailRun.sending
  rw [hjob, Option.bind_some, hturn]

theorem sending_none {job : EmailsJob} (hjob : s.job = some job)
    (hturn : ∀ entity left, job.turn ≠ .sends entity left) :
    s.sending = none := by
  unfold OneTimeEmailRun.sending
  rw [hjob, Option.bind_some]
  split
  · exact absurd ‹_› (hturn _ _)
  · rfl

theorem Once.sends (h : Once s) {job : EmailsJob} (hjob : s.job = some job) {entity : OneTimeEmailEntity}
    {recipient : String} {left : List String} (hturn : job.turn = .sends entity (recipient :: left))
    (hid : entity.id = job.toSend.id) (delivered : Bool) :
    Once { s.tried entity recipient delivered with job := some { job with turn := .sends entity left } } := by
  have honce := h.job job hjob
  have hends := honce.turn
  rw [hturn] at hends
  obtain ⟨hnodup, hleft, huser⟩ := hends
  obtain ⟨hrecipient, hnodup⟩ := List.nodup_cons.1 hnodup
  have hothers : ∀ id, Undelivered s.tries id → id ≠ job.toSend.id →
      Undelivered (s.tried entity recipient delivered).tries id := fun id hnone hne =>
    undelivered_append.2 ⟨hnone, fun _ heq => hne (heq.symm.trans hid)⟩
  refine ⟨?_, fun row hrow hsent => ?_, fun j hj => ?_⟩
  · refine atMostOnce_delivered h.once fun t ht hdelivered hkey => ?_
    obtain ⟨htid, hto⟩ := Prod.mk.inj hkey
    exact hleft t ht hdelivered (htid.trans hid) (hto ▸ List.mem_cons_self)
  · by_cases hsame : row.id = job.toSend.id
    · exact Or.inr ⟨_, rfl, hsame.symm⟩
    · obtain hnone | ⟨x, hx, hxid⟩ := h.rows row hrow hsent
      · exact Or.inl (hothers _ hnone hsame)
      · rw [sending_of_turn hjob hturn] at hx
        cases hx
        exact absurd hxid.symm hsame
  · cases hj
    have hids := (List.nodup_cons.1 honce.ids).1
    refine ⟨honce.ids, fun email hemail => hothers _ (honce.pending email hemail) fun heq => ?_, hnodup, ?_, ?_⟩
    · exact hids (List.mem_map.2 ⟨email, hemail, heq⟩)
    · intro t ht hdelivered htid
      obtain hold | hnew := List.mem_append.1 ht
      · exact fun hmem => hleft t hold hdelivered htid (List.mem_cons_of_mem _ hmem)
      · cases List.mem_singleton.1 hnew
        exact hrecipient
    · intro hnone hne
      have hone := (huser hnone (List.cons_ne_nil _ _)).1
      rw [List.length_cons, Nat.add_eq_right, List.length_eq_zero_iff] at hone
      exact absurd hone hne

theorem Once.fails (h : Once s) {job : EmailsJob} (hjob : s.job = some job) {entity : OneTimeEmailEntity}
    {recipient : String} {left : List String} (hturn : job.turn = .sends entity (recipient :: left))
    (huser : job.toSend.workspaceId = none) :
    Once { s.tried entity recipient false with job := nextTurn job.pending } := by
  have honce := h.job job hjob
  have hends := honce.turn
  rw [hturn] at hends
  have hnone := (hends.2.2 huser (List.cons_ne_nil _ _)).2
  have hsame : ∀ id, Undelivered s.tries id → Undelivered (s.tried entity recipient false).tries id := fun id hid =>
    undelivered_append.2 ⟨hid, fun hdelivered => by cases hdelivered⟩
  refine ⟨?_, fun row hrow hsent => Or.inl ?_, ?_⟩
  · exact atMostOnce_failed h.once rfl
  · obtain hrow | ⟨x, hx, hxid⟩ := h.rows row hrow hsent
    · exact hsame _ hrow
    · rw [sending_of_turn hjob hturn] at hx
      cases hx
      exact hsame _ (hxid ▸ hnone)
  · exact once_nextTurn (List.nodup_cons.1 honce.ids).2 fun email hemail => hsame _ (honce.pending email hemail)

theorem Once.resumes (h : Once s) (hl : Ledger s) {job : EmailsJob} (hjob : s.job = some job) {raises : Bool}
    (hmark : NoMarkLost s (.resumes raises)) (hresumes : Resumes s job raises s') : Once s' := by
  have honce := h.job job hjob
  have hends := honce.turn
  have hknows := (hl.job job hjob).turn
  -- nothing was sent in the turn that ends
  have hidle : (∀ entity left, job.turn ≠ .sends entity left) →
      ∀ row, ∀ x ∈ s.sending, x.1.id = row → Undelivered s.tries row := by
    intro hturn row x hx
    rw [sending_none hjob hturn] at hx
    cases hx
  cases hresumes with
  | ends hturn =>
    exact h.leaves rfl (fun row hrow _ => ⟨hrow, hidle (by simp [hturn]) row.id⟩) fun j hj => by cases hj
  | misses hturn => exact h.leaves rfl (fun row hrow _ => ⟨hrow, hidle (by simp [hturn]) row.id⟩) honce.next
  | asksInVain hturn => exact h.leaves rfl (fun row hrow _ => ⟨hrow, hidle (by simp [hturn]) row.id⟩) honce.next
  | gets hturn =>
    rw [hturn] at hends
    refine h.leaves rfl (fun row hrow _ => ⟨hrow, hidle (by simp [hturn]) row.id⟩) fun j hj => ?_
    cases hj
    exact ⟨honce.ids, honce.pending, hends⟩
  | asks hturn =>
    rw [hturn] at hends
    refine h.leaves rfl (fun row hrow _ => ⟨hrow, hidle (by simp [hturn]) row.id⟩) fun j hj => ?_
    cases hj
    refine ⟨honce.ids, honce.pending, nodup_recipients _ _, fun t ht hdelivered hid => ?_, fun huser hne => ⟨?_, hends⟩⟩
    · exact absurd hid (hends t ht hdelivered)
    · exact Nat.le_antisymm (recipients_of_user _ huser) (List.length_pos_iff.2 hne)
  | failsUser hturn huser => exact h.fails hjob hturn huser
  | sends hturn =>
    rw [hturn] at hknows
    exact h.sends hjob hturn (by rw [← hknows.1]; rfl) _
  | @losesMark entity raises hturn hlost =>
    rw [hturn] at hknows
    refine h.leaves rfl (fun row hrow _ => ⟨hrow, fun x hx hxid => ?_⟩) honce.next
    have hsending := sending_of_turn hjob hturn
    rw [hsending] at hx
    cases hx
    rw [← hxid]
    obtain hraises | hgone := hlost
    · exact hmark hraises _ hsending rfl
    · -- the row is not in the table any more
      have hentity : entity.id = job.toSend.id := by rw [← hknows.1]; rfl
      exact absurd (hxid.symm.trans hentity.symm) ((Table.find_eq_none_iff _ _).1 hgone row hrow)
  | @marks entity row hturn hfind =>
    rw [hturn] at hknows
    have hentity : entity.id = job.toSend.id := by rw [← hknows.1]; rfl
    have hrow : row.id = entity.id := Table.key_of_find hfind
    refine h.leaves rfl (fun x hx hsent => ?_) honce.next
    obtain ⟨old, hold, heq⟩ := List.mem_map.1 hx
    split at heq
    · rw [← heq] at hsent
      cases hsent
    · rename_i hne
      subst heq
      refine ⟨hold, fun y hy hyid => ?_⟩
      rw [sending_of_turn hjob hturn] at hy
      cases hy
      exact absurd (hyid.symm.trans (hentity.symm.trans hrow.symm)) hne

/-- **Every move keeps it that does not lose a mark.** -/
theorem Once.step (h : Once s) (hl : Ledger s) {move : OneTimeEmailMove} (hmark : NoMarkLost s move)
    (hstep : oneTimeEmailStep s move = some s') : Once s' := by
  cases move with
  | passes now =>
    obtain ⟨-, rfl⟩ := passes_iff.1 hstep
    exact h.withRows rfl rfl fun row hrow _ => Or.inl hrow
  | changes directory =>
    cases hstep
    exact h.withRows rfl rfl fun row hrow _ => Or.inl hrow
  | schedules =>
    obtain rfl | ⟨email, hnew, hid, -, rfl⟩ := schedules_cases hl.find_fresh hstep
    · exact h.withRows rfl rfl fun row hrow _ => Or.inl hrow
    · refine h.withRows rfl rfl fun row hrow _ => ((Table.mem_insert hnew).1 hrow).imp_right fun heq => ?_
      intro t ht _ htid
      obtain ⟨old, hold, holdid, -⟩ := hl.tries t ht
      have hlt := hl.fresh old hold
      rw [holdid, htid, heq, hid] at hlt
      exact Nat.lt_irrefl _ hlt
  | unschedules =>
    cases hstep
    obtain ⟨p, hp⟩ := unschedule_deletes s.emails _ _ _
    exact h.withRows rfl rfl fun row hrow _ => Or.inl (Table.mem_deleteWhere.1 (hp ▸ hrow)).1
  | handles event =>
    cases hstep
    obtain ⟨p, hp⟩ := handler_deletes s.emails event
    exact h.withRows rfl rfl fun row hrow _ => Or.inl (Table.mem_deleteWhere.1 (hp ▸ hrow)).1
  | starts listed =>
    obtain ⟨⟨hidle, hlisted⟩, rfl⟩ := starts_iff.1 hstep
    have hnone : s.sending = none := by
      unfold OneTimeEmailRun.sending
      rw [hidle, Option.bind_none]
    refine h.leaves rfl (fun row hrow _ => ⟨hrow, fun x hx => ?_⟩) (once_nextTurn ?_ fun email hemail => ?_)
    · rw [hnone] at hx
      cases hx
    · exact (hlisted.map _).nodup_iff.2 (s.emails.unique.sublist (List.filter_sublist.map _))
    · obtain ⟨hmem, hsent, -⟩ := mem_listPendingEmails.1 (hlisted.mem_iff.1 hemail)
      refine (h.rows email hmem hsent).resolve_right ?_
      rintro ⟨x, hx, -⟩
      rw [hnone] at hx
      cases hx
  | resumes raises =>
    obtain ⟨job, hjob, hresumes⟩ := resumes_cases hstep
    exact h.resumes hl hjob hmark hresumes
  | restarts =>
    cases hstep
    exact h.leaves rfl (fun row hrow _ => ⟨hrow, fun x hx hid => hid ▸ hmark x hx⟩) fun j hj => by cases hj
  | cleansUp =>
    cases hstep
    exact h.withRows rfl rfl fun row hrow _ => Or.inl (Table.mem_deleteWhere.1 hrow).1

/-- **An address gets an e-mail at most once** in every run that does not lose the mark of an e-mail it has sent. -/
theorem eachAddress_atMostOnce {now : DateTime} {directory : Directory} {moves : List OneTimeEmailMove}
    {s : OneTimeEmailRun} (hmarks : Along oneTimeEmailStep NoMarkLost (.init now directory) moves)
    (hrun : run oneTimeEmailStep (.init now directory) moves = some s) : AtMostOnce s.tries := by
  have hinit : Ledger (.init now directory) ∧ Once (.init now directory) :=
    ⟨ledger_init now directory, List.nodup_nil, fun _ h => (by cases h), fun _ h => (by cases h)⟩
  exact (run_along (I := fun s => Ledger s ∧ Once s)
    (fun s move s' h hmark hstep => ⟨h.1.step hstep, h.2.step h.1 hmark hstep⟩) hinit hmarks hrun).2.once

/-- The process restarts before the job starts again. -/
def remindedOnce : OneTimeEmailRun :=
  (run oneTimeEmailStep (.init newYear twoMembers) (sendsReminder ++ [.restarts, .starts []])).get (by decide +kernel)

theorem remindedOnce_atMostOnce : AtMostOnce remindedOnce.tries ∧ remindedOnce.tries.length = 2 := by
  have hmarks : Along oneTimeEmailStep NoMarkLost (.init newYear twoMembers)
      (sendsReminder ++ [.restarts, .starts []]) := by
    decide +kernel
  exact ⟨eachAddress_atMostOnce hmarks (Option.some_get _).symm, by decide +kernel⟩

/-! ## What a move does to the history and to the rows -/

theorem before_resumes {job : EmailsJob} {raises : Bool} (hresumes : Resumes s job raises s') : Before s s' := by
  cases hresumes with
  | asks => exact ⟨Nat.le_refl _, fun _ => id, List.subset_append_left _ _, fun _ => id⟩
  | failsUser | sends => exact ⟨Nat.le_refl _, fun _ => id, fun _ => id, List.subset_append_left _ _⟩
  | _ => exact .same rfl rfl rfl rfl

theorem before_step (hl : Ledger s) {move : OneTimeEmailMove} (hstep : oneTimeEmailStep s move = some s') :
    Before s s' := by
  cases move with
  | passes now =>
    obtain ⟨hnow, rfl⟩ := passes_iff.1 hstep
    exact ⟨hnow, fun _ => id, fun _ => id, fun _ => id⟩
  | schedules =>
    obtain rfl | ⟨email, hnew, -, -, rfl⟩ := schedules_cases hl.find_fresh hstep
    · exact .same rfl rfl rfl rfl
    · exact ⟨Nat.le_refl _, List.subset_append_left _ _, fun _ => id, fun _ => id⟩
  | starts =>
    obtain ⟨-, rfl⟩ := starts_iff.1 hstep
    exact .same rfl rfl rfl rfl
  | resumes raises =>
    obtain ⟨job, -, hresumes⟩ := resumes_cases hstep
    exact before_resumes hresumes
  | changes | unschedules | handles | restarts | cleansUp =>
    cases hstep
    exact .same rfl rfl rfl rfl

/-- A row of the table was there before, perhaps without its mark, or it is new. -/
theorem rows_step (hl : Ledger s) {move : OneTimeEmailMove} (hstep : oneTimeEmailStep s move = some s')
    {row : OneTimeEmailEntity} (hrow : row ∈ s'.emails.rows) :
    row ∈ s.emails.rows ∨ row.id = s.nextUuid ∨ row.sentAt ≠ none ∧ ∃ old ∈ s.emails.rows, old.id = row.id := by
  cases move with
  | passes now =>
    obtain ⟨-, rfl⟩ := passes_iff.1 hstep
    exact Or.inl hrow
  | schedules =>
    obtain rfl | ⟨email, hnew, hid, -, rfl⟩ := schedules_cases hl.find_fresh hstep
    · exact Or.inl hrow
    · exact ((Table.mem_insert hnew).1 hrow).imp_right fun heq => Or.inl ((congrArg (·.id) heq).trans hid)
  | unschedules =>
    cases hstep
    obtain ⟨p, hp⟩ := unschedule_deletes s.emails _ _ _
    exact Or.inl (Table.mem_deleteWhere.1 (hp ▸ hrow)).1
  | handles event =>
    cases hstep
    obtain ⟨p, hp⟩ := handler_deletes s.emails event
    exact Or.inl (Table.mem_deleteWhere.1 (hp ▸ hrow)).1
  | starts =>
    obtain ⟨-, rfl⟩ := starts_iff.1 hstep
    exact Or.inl hrow
  | resumes raises =>
    obtain ⟨job, -, hresumes⟩ := resumes_cases hstep
    cases hresumes with
    | @marks entity old _ hfind =>
      obtain hold | rfl := Table.mem_replace hrow
      · exact Or.inl hold
      · exact Or.inr (Or.inr ⟨Option.some_ne_none _, old, Table.mem_of_find hfind, rfl⟩)
    | _ => exact Or.inl hrow
  | cleansUp =>
    cases hstep
    exact Or.inl (Table.mem_deleteWhere.1 hrow).1
  | changes | restarts =>
    cases hstep
    exact Or.inl hrow

theorem nextUuid_step (hl : Ledger s) {move : OneTimeEmailMove} (hstep : oneTimeEmailStep s move = some s') :
    s.nextUuid ≤ s'.nextUuid := by
  cases move with
  | passes now =>
    obtain ⟨-, rfl⟩ := passes_iff.1 hstep
    exact Nat.le_refl _
  | schedules =>
    obtain rfl | ⟨email, hnew, -, -, rfl⟩ := schedules_cases hl.find_fresh hstep <;> exact Nat.le_succ _
  | starts =>
    obtain ⟨-, rfl⟩ := starts_iff.1 hstep
    exact Nat.le_refl _
  | resumes raises =>
    obtain ⟨job, -, hresumes⟩ := resumes_cases hstep
    cases hresumes <;> exact Nat.le_refl _
  | changes | unschedules | handles | restarts | cleansUp =>
    cases hstep
    exact Nat.le_refl _

/-! ## A round -/

/-- The process does not restart, and of the awaits of the job only a send raises. -/
def Undisturbed (s : OneTimeEmailRun) : OneTimeEmailMove → Prop
  | .resumes raises => raises = true → ∃ x ∈ s.sending, x.2 ≠ []
  | .restarts => False
  | _ => True

instance (s : OneTimeEmailRun) : (move : OneTimeEmailMove) → Decidable (Undisturbed s move)
  | .resumes raises => inferInstanceAs (Decidable (raises = true → ∃ x ∈ s.sending, x.2 ≠ []))
  | .restarts => isFalse id
  | .passes _ | .changes _ | .schedules .. | .unschedules .. | .handles _ | .starts _ | .cleansUp => isTrue trivial

/-- The row is marked or not there any more, or it is for a user and the send raised since then. -/
def Done (since : DateTime) (s : OneTimeEmailRun) (email : OneTimeEmailEntity) : Prop :=
  (∀ row ∈ s.emails.rows, row.id = email.id → row.sentAt ≠ none) ∨
    email.workspaceId = none ∧ ∃ t ∈ s.tries, t.id = email.id ∧ t.delivered = false ∧ since ≤ t.time

/-- Every e-mail of a round is done, or the job still has it. -/
structure Round (since : DateTime) (listed : List OneTimeEmailEntity) (s : OneTimeEmailRun) : Prop where
  now : since ≤ s.now
  ids : ∀ email ∈ listed, email.id < s.nextUuid
  left : ∀ email ∈ listed, Done since s email ∨ ∃ job ∈ s.job, email ∈ job.toSend :: job.pending

section Rounds

variable {since : DateTime} {listed : List OneTimeEmailEntity}

theorem Done.step {email : OneTimeEmailEntity} (h : Done since s email) (hid : email.id < s.nextUuid) (hl : Ledger s)
    {move : OneTimeEmailMove} (hstep : oneTimeEmailStep s move = some s') : Done since s' email := by
  obtain hrows | ⟨huser, t, ht, hfailed⟩ := h
  · left
    intro row hrow hrowid hsent
    obtain hold | hnew | ⟨hmarked, -⟩ := rows_step hl hstep hrow
    · exact hrows row hold hrowid hsent
    · exact absurd (hrowid.symm.trans hnew) (Nat.ne_of_lt hid)
    · exact hmarked hsent
  · exact Or.inr ⟨huser, t, (before_step hl hstep).tries ht, hfailed⟩

theorem mem_nextTurn {emails : List OneTimeEmailEntity} {email : OneTimeEmailEntity} (h : email ∈ emails) :
    ∃ job ∈ nextTurn emails, email ∈ job.toSend :: job.pending := by
  cases emails with
  | nil => cases h
  | cons toSend pending => exact ⟨_, rfl, h⟩

/-- **The turn of an e-mail ends when it is done.** -/
theorem done_of_turn (hl : Ledger s) (hnow : since ≤ s.now) {job : EmailsJob} (hjob : s.job = some job) {raises : Bool}
    (hfree : Undisturbed s (.resumes raises)) (hresumes : Resumes s job raises s') :
    Done since s' job.toSend ∧ s'.job = nextTurn job.pending ∨
      ∃ turn, s'.job = some { job with turn } := by
  have hknows := (hl.job job hjob).turn
  -- only a send raises
  have hsends : raises = true → ∃ entity left, job.turn = .sends entity left ∧ left ≠ [] := by
    intro hraises
    obtain ⟨x, hx, hne⟩ := hfree hraises
    unfold OneTimeEmailRun.sending at hx
    rw [hjob, Option.bind_some] at hx
    split at hx
    · rename_i entity left hturn
      cases hx
      exact ⟨entity, left, hturn, hne⟩
    · cases hx
  cases hresumes with
  | ends hturn | asksInVain hturn =>
    obtain ⟨_, _, hsending, -⟩ := hsends rfl
    rw [hturn] at hsending
    cases hsending
  | misses _ hfind =>
    exact Or.inl ⟨Or.inl fun row hrow hid => absurd hid ((Table.find_eq_none_iff _ _).1 hfind row hrow), rfl⟩
  | gets | asks | sends => exact Or.inr ⟨_, rfl⟩
  | failsUser hturn huser =>
    rw [hturn] at hknows
    refine Or.inl ⟨Or.inr ⟨huser, _, List.mem_append_right _ (List.mem_singleton.2 rfl), ?_, rfl, hnow⟩, rfl⟩
    rw [← hknows.1]
    rfl
  | @losesMark entity raises hturn hlost =>
    rw [hturn] at hknows
    obtain rfl | hgone := hlost
    · obtain ⟨_, _, hsending, hne⟩ := hsends rfl
      rw [hturn] at hsending
      cases hsending
      exact absurd rfl hne
    · have hid : entity.id = job.toSend.id := by rw [← hknows.1]; rfl
      exact Or.inl ⟨Or.inl fun row hrow hrowid =>
        absurd (hrowid.trans hid.symm) ((Table.find_eq_none_iff _ _).1 hgone row hrow), rfl⟩
  | @marks entity row hturn hfind =>
    rw [hturn] at hknows
    have hid : entity.id = job.toSend.id := by rw [← hknows.1]; rfl
    refine Or.inl ⟨Or.inl fun x hx hxid hsent => ?_, rfl⟩
    obtain ⟨old, -, heq⟩ := List.mem_map.1 hx
    split at heq
    · rw [← heq] at hsent
      cases hsent
    · rename_i hne
      subst heq
      exact hne (hxid.trans (hid.symm.trans (Table.key_of_find hfind).symm))

theorem Round.step (h : Round since listed s) (hl : Ledger s) {move : OneTimeEmailMove} (hfree : Undisturbed s move)
    (hstep : oneTimeEmailStep s move = some s') : Round since listed s' := by
  refine ⟨Nat.le_trans h.now (before_step hl hstep).now,
    fun email hemail => Nat.lt_of_lt_of_le (h.ids email hemail) (nextUuid_step hl hstep), fun email hemail => ?_⟩
  obtain hdone | ⟨job, hjob, hmem⟩ := h.left email hemail
  · exact Or.inl (hdone.step (h.ids email hemail) hl hstep)
  · -- the job of the round goes on
    have hsame : s'.job = s.job → Done since s' email ∨ ∃ job ∈ s'.job, email ∈ job.toSend :: job.pending := fun heq =>
      Or.inr ⟨job, heq ▸ hjob, hmem⟩
    cases move with
    | passes now =>
      obtain ⟨-, rfl⟩ := passes_iff.1 hstep
      exact hsame rfl
    | schedules =>
      obtain rfl | ⟨_, _, -, -, rfl⟩ := schedules_cases hl.find_fresh hstep <;> exact hsame rfl
    | starts =>
      obtain ⟨⟨hidle, -⟩, -⟩ := starts_iff.1 hstep
      rw [hidle] at hjob
      cases hjob
    | resumes raises =>
      obtain ⟨job', hjob', hresumes⟩ := resumes_cases hstep
      cases hjob.symm.trans hjob'
      obtain ⟨hdone, hnext⟩ | ⟨turn, hturn⟩ := done_of_turn hl h.now hjob' hfree hresumes
      · obtain rfl | hpending := List.mem_cons.1 hmem
        · exact Or.inl hdone
        · rw [hnext]
          exact Or.inr (mem_nextTurn hpending)
      · rw [hturn]
        exact Or.inr ⟨_, rfl, hmem⟩
    | restarts => exact absurd hfree id
    | changes | unschedules | handles | cleansUp =>
      cases hstep
      exact hsame rfl

end Rounds

/-- **A round leaves no e-mail behind**: what is due when the job starts is marked or gone when the job ends, or it is
for a user and the send raised. -/
theorem done_of_round {now : DateTime} {directory : Directory} {before moves : List OneTimeEmailMove}
    {listed : List OneTimeEmailEntity} {s s₁ s' : OneTimeEmailRun}
    (hbefore : run oneTimeEmailStep (.init now directory) before = some s)
    (hstart : oneTimeEmailStep s (.starts listed) = some s₁) (hfree : Along oneTimeEmailStep Undisturbed s₁ moves)
    (hrun : run oneTimeEmailStep s₁ moves = some s') (hend : s'.job = none) :
    ∀ email ∈ listPendingEmails s.emails s.now, Done s.now s' email := by
  have hl := ledger_run hbefore
  have hl₁ := hl.step hstart
  obtain ⟨⟨-, hlisted⟩, rfl⟩ := starts_iff.1 hstart
  have hround : Round s.now listed { s with job := nextTurn listed } := by
    refine ⟨Nat.le_refl _, fun email hemail => ?_, fun email hemail => Or.inr (mem_nextTurn hemail)⟩
    exact hl.fresh (asScheduled email) (hl.stored email (mem_listPendingEmails.1 (hlisted.mem_iff.1 hemail)).1)
  have hfinal := (run_along (I := fun s' => Ledger s' ∧ Round s.now listed s')
    (fun s move s' h hmove hstep => ⟨h.1.step hstep, h.2.step h.1 hmove hstep⟩) ⟨hl₁, hround⟩ hfree hrun).2
  intro email hemail
  refine (hfinal.left email (hlisted.mem_iff.2 hemail)).resolve_right ?_
  rintro ⟨job, hjob, -⟩
  rw [hend] at hjob
  cases hjob

def reminderDue : OneTimeEmailRun :=
  (run oneTimeEmailStep (.init newYear twoMembers) (sendsReminder.take 2)).get (by decide +kernel)

def reminderListed : OneTimeEmailRun :=
  (oneTimeEmailStep reminderDue (.starts (listPendingEmails reminderDue.emails reminderDue.now))).get
    (by decide +kernel)

def reminderSent : OneTimeEmailRun :=
  (run oneTimeEmailStep reminderListed (sendsReminder.drop 3)).get (by decide +kernel)

theorem reminderSent_done : listPendingEmails reminderDue.emails reminderDue.now ≠ [] ∧
    ∀ email ∈ listPendingEmails reminderDue.emails reminderDue.now, Done reminderDue.now reminderSent email :=
  ⟨by decide +kernel, @done_of_round newYear twoMembers (sendsReminder.take 2) (sendsReminder.drop 3)
    (listPendingEmails reminderDue.emails reminderDue.now) reminderDue reminderListed reminderSent
    (Option.some_get _).symm (Option.some_get _).symm (by decide +kernel) (Option.some_get _).symm
    (Option.isNone_iff_eq_none.1 (by decide +kernel))⟩

/-! ## After unscheduling -/

/-- The e-mail whose row the job has read. -/
def OneTimeEmailRun.inTurn (s : OneTimeEmailRun) : Option OneTimeEmailEntity :=
  s.job.bind fun job =>
    match job.turn with
    | .gets => none
    | _ => some job.toSend

/-- The e-mail has no row any more, and the job does not send it. -/
structure Silent (s : OneTimeEmailRun) (id : OneTimeEmailId) : Prop where
  rows : ∀ row ∈ s.emails.rows, row.id ≠ id
  drawn : id < s.nextUuid
  turn : ∀ email ∈ s.inTurn, email.id ≠ id

theorem inTurn_of_turn {job : EmailsJob} (hjob : s.job = some job) (hturn : job.turn ≠ .gets) :
    s.inTurn = some job.toSend := by
  unfold OneTimeEmailRun.inTurn
  rw [hjob, Option.bind_some]
  split
  · exact absurd ‹_› hturn
  · rfl

theorem inTurn_nextTurn {emails : List OneTimeEmailEntity} (h : s.job = nextTurn emails) : s.inTurn = none := by
  unfold OneTimeEmailRun.inTurn
  rw [h]
  cases emails <;> rfl

theorem Silent.step {id : OneTimeEmailId} (h : Silent s id) (hl : Ledger s) {move : OneTimeEmailMove}
    (hstep : oneTimeEmailStep s move = some s') :
    Silent s' id ∧ ∀ t ∈ s'.tries, t.id = id → t ∈ s.tries := by
  have hrows : ∀ row ∈ s'.emails.rows, row.id ≠ id := by
    intro row hrow hid
    obtain hold | hnew | ⟨-, old, hold, holdid⟩ := rows_step hl hstep hrow
    · exact h.rows row hold hid
    · exact absurd (hid.symm.trans hnew) (Nat.ne_of_lt h.drawn)
    · exact h.rows old hold (holdid.trans hid)
  have hdrawn := Nat.lt_of_lt_of_le h.drawn (nextUuid_step hl hstep)
  -- a move that leaves the turn and the calls of the job alone
  have hsame : s'.inTurn = s.inTurn → s'.tries = s.tries →
      Silent s' id ∧ ∀ t ∈ s'.tries, t.id = id → t ∈ s.tries := fun hturn htries =>
    ⟨⟨hrows, hdrawn, hturn ▸ h.turn⟩, fun t ht _ => htries ▸ ht⟩
  have hidle : s'.inTurn = none → s'.tries = s.tries →
      Silent s' id ∧ ∀ t ∈ s'.tries, t.id = id → t ∈ s.tries := fun hturn htries =>
    ⟨⟨hrows, hdrawn, fun email hemail => by rw [hturn] at hemail; cases hemail⟩, fun t ht _ => htries ▸ ht⟩
  cases move with
  | passes now =>
    obtain ⟨-, rfl⟩ := passes_iff.1 hstep
    exact hsame rfl rfl
  | schedules =>
    obtain rfl | ⟨_, _, -, -, rfl⟩ := schedules_cases hl.find_fresh hstep <;> exact hsame rfl rfl
  | starts listed =>
    obtain ⟨-, rfl⟩ := starts_iff.1 hstep
    exact hidle (inTurn_nextTurn rfl) rfl
  | restarts =>
    cases hstep
    exact hidle rfl rfl
  | changes | unschedules | handles | cleansUp =>
    cases hstep
    exact hsame rfl rfl
  | resumes raises =>
    obtain ⟨job, hjob, hresumes⟩ := resumes_cases hstep
    have hknows := (hl.job job hjob).turn
    -- what is sent is another e-mail
    have htried : ∀ {entity recipient left delivered}, job.turn = .sends entity (recipient :: left) →
        ∀ t ∈ (s.tried entity recipient delivered).tries, t.id = id → t ∈ s.tries := by
      intro entity recipient left delivered hturn t ht hid
      obtain hold | hnew := List.mem_append.1 ht
      · exact hold
      · have hne := h.turn job.toSend (inTurn_of_turn hjob (by simp [hturn]))
        rw [hturn] at hknows
        rw [← hknows.1] at hne
        rw [List.mem_singleton.1 hnew] at hid
        exact absurd hid hne
    cases hresumes with
    | ends => exact hidle rfl rfl
    | misses | asksInVain | losesMark | marks => exact hidle (inTurn_nextTurn rfl) rfl
    | @gets entity hturn hfind =>
      -- the e-mail has no row that could be read
      refine ⟨⟨hrows, hdrawn, fun email hemail => ?_⟩, fun t ht _ => ht⟩
      cases hemail
      exact fun hid => h.rows entity (Table.mem_of_find hfind) ((Table.key_of_find hfind).trans hid)
    | asks hturn =>
      have hne := h.turn job.toSend (inTurn_of_turn hjob (by simp [hturn]))
      refine ⟨⟨hrows, hdrawn, fun email hemail => ?_⟩, fun t ht _ => ht⟩
      cases hemail
      exact hne
    | failsUser hturn =>
      exact ⟨⟨hrows, hdrawn, fun email hemail => by rw [inTurn_nextTurn rfl] at hemail; cases hemail⟩, htried hturn⟩
    | sends hturn =>
      have hne := h.turn job.toSend (inTurn_of_turn hjob (by simp [hturn]))
      refine ⟨⟨hrows, hdrawn, fun email hemail => ?_⟩, htried hturn⟩
      cases hemail
      exact hne

def About (kind : OneTimeEmailKind) (target : Target) (email : OneTimeEmailEntity) : Prop :=
  email.kind = kind.value ∧ GoesTo email target

def SchedulesAbout (kind : OneTimeEmailKind) (target : Target) : OneTimeEmailMove → Prop
  | .schedules kind' _ userId workspaceId _ => kind' = kind ∧ userId = target.userId ∧ workspaceId = target.workspaceId
  | _ => False

instance (kind : OneTimeEmailKind) (target : Target) : (move : OneTimeEmailMove) →
    Decidable (SchedulesAbout kind target move)
  | .schedules .. => instDecidableAnd
  | .passes _ | .changes _ | .unschedules .. | .handles _ | .starts _ | .resumes _ | .restarts | .cleansUp =>
    isFalse id

section Unscheduled

variable {kind : OneTimeEmailKind} {target : Target}

/-- None of the e-mails about it is sent any more. -/
def Quiet (kind : OneTimeEmailKind) (target : Target) (s : OneTimeEmailRun) : Prop :=
  ∀ email ∈ s.scheduled, About kind target email → Silent s email.id

theorem scheduled_step (hl : Ledger s) {move : OneTimeEmailMove} (hmove : ¬SchedulesAbout kind target move)
    (hstep : oneTimeEmailStep s move = some s') {email : OneTimeEmailEntity} (hmem : email ∈ s'.scheduled)
    (habout : About kind target email) : email ∈ s.scheduled := by
  cases move with
  | passes now =>
    obtain ⟨-, rfl⟩ := passes_iff.1 hstep
    exact hmem
  | schedules kind' scheduledAt userId workspaceId message =>
    obtain rfl | ⟨new, hnew, -, has, rfl⟩ := schedules_cases hl.find_fresh hstep
    · exact hmem
    · refine (List.mem_append.1 hmem).resolve_right fun hlast => hmove ?_
      cases List.mem_singleton.1 hlast
      cases kind
      cases kind'
      exact ⟨rfl, has.userId.symm.trans habout.2.1, has.workspaceId.symm.trans habout.2.2⟩
  | starts =>
    obtain ⟨-, rfl⟩ := starts_iff.1 hstep
    exact hmem
  | resumes raises =>
    obtain ⟨job, -, hresumes⟩ := resumes_cases hstep
    cases hresumes <;> exact hmem
  | changes | unschedules | handles | restarts | cleansUp =>
    cases hstep
    exact hmem

theorem Quiet.step (h : Quiet kind target s) (hl : Ledger s) {move : OneTimeEmailMove}
    (hmove : ¬SchedulesAbout kind target move) (hstep : oneTimeEmailStep s move = some s') :
    Quiet kind target s' ∧
      ∀ t ∈ s'.tries, (∃ email ∈ s'.scheduled, email.id = t.id ∧ About kind target email) → t ∈ s.tries := by
  refine ⟨fun email hmem habout => ?_, fun t ht ⟨email, hmem, hid, habout⟩ => ?_⟩
  · exact ((h email (scheduled_step hl hmove hstep hmem habout) habout).step hl hstep).1
  · exact ((h email (scheduled_step hl hmove hstep hmem habout) habout).step hl hstep).2 t ht hid.symm

theorem quiet_of_unschedules (hl : Ledger s) (hturn : ∀ email ∈ s.inTurn, ¬About kind target email)
    (hstep : oneTimeEmailStep s (.unschedules target.userId target.workspaceId kind) = some s') :
    Quiet kind target s' := by
  cases hstep
  intro email hmem habout
  refine ⟨fun row hrow hid => ?_, hl.fresh email hmem, fun toSend hsend hid => ?_⟩
  · obtain ⟨hold, hnot⟩ := (mem_unschedule_iff target kind s.emails row).1 hrow
    have hsame : asScheduled row = email :=
      List.inj_on_of_nodup_map hl.distinct (hl.stored row hold) hmem hid
    have hself : target.sameSort target := by cases target <;> trivial
    rw [← hsame] at habout
    exact hnot ⟨habout.1, target, hself, habout.2⟩
  · have hjob : ∃ job, s.job = some job ∧ job.toSend = toSend := by
      obtain ⟨job, hjob, hread⟩ := Option.bind_eq_some_iff.1 hsend
      refine ⟨job, hjob, ?_⟩
      split at hread
      · cases hread
      · exact Option.some.inj hread
    obtain ⟨job, hjob, rfl⟩ := hjob
    have hsame := List.inj_on_of_nodup_map hl.distinct ((hl.job job hjob).listed _ List.mem_cons_self).1 hmem hid
    exact hturn _ hsend (hsame ▸ habout)

/-- **What is unscheduled is not sent any more**, unless the job is sending it already. -/
theorem silent_of_unschedules (hl : Ledger s) (hturn : ∀ email ∈ s.inTurn, ¬About kind target email)
    {s₁ : OneTimeEmailRun} (hstep : oneTimeEmailStep s (.unschedules target.userId target.workspaceId kind) = some s₁)
    {moves : List OneTimeEmailMove} (hmoves : ∀ move ∈ moves, ¬SchedulesAbout kind target move)
    (hrun : run oneTimeEmailStep s₁ moves = some s') {t : Try} (ht : t ∈ s'.tries) {email : OneTimeEmailEntity}
    (hmem : email ∈ s'.scheduled) (hid : email.id = t.id) (habout : About kind target email) : t ∈ s.tries := by
  have htries : s₁.tries = s.tries := by
    cases hstep
    rfl
  have hkeeps := run_along (I := fun s' => Ledger s' ∧ Quiet kind target s' ∧ ∀ t ∈ s'.tries,
      (∃ email ∈ s'.scheduled, email.id = t.id ∧ About kind target email) → t ∈ s.tries)
    (C := fun _ move => ¬SchedulesAbout kind target move)
    (fun s₂ move s₃ h hmove hstep => by
      obtain ⟨hquiet, hnew⟩ := h.2.1.step h.1 hmove hstep
      refine ⟨h.1.step hstep, hquiet, fun t ht ⟨email, hmem, hid, habout⟩ => ?_⟩
      exact h.2.2 t (hnew t ht ⟨email, hmem, hid, habout⟩)
        ⟨email, scheduled_step h.1 hmove hstep hmem habout, hid, habout⟩)
    ⟨hl.step hstep, quiet_of_unschedules hl hturn hstep, fun t ht _ => htries ▸ ht⟩
    (along_of_forall hmoves s₁) hrun
  exact hkeeps.2.2 t ht ⟨email, hmem, hid, habout⟩

end Unscheduled

/-- **A workspace that has left its trial is not reminded of its end**: no call sends a reminder for it after the change
of its tier was handled, unless the job was sending the reminder at that moment. -/
theorem no_reminder_after_trial {now : DateTime} {directory : Directory} {before after : List OneTimeEmailMove}
    {s s₁ s' : OneTimeEmailRun} {workspaceId : WorkspaceId} {userId : UserId} {productTier previousTier : ProductTier}
    {isPaidTier isHigherTier : Bool} (hbefore : run oneTimeEmailStep (.init now directory) before = some s)
    (hturn : ∀ email ∈ s.inTurn, ¬About .trialEndNotification (.workspace workspaceId) email)
    (hmoved : movedFromTrial previousTier productTier = true)
    (hstep : oneTimeEmailStep s
      (.handles (.productTierChanged workspaceId userId productTier isPaidTier isHigherTier previousTier)) = some s₁)
    (hafter : ∀ move ∈ after, ¬SchedulesAbout .trialEndNotification (.workspace workspaceId) move)
    (hrun : run oneTimeEmailStep s₁ after = some s') :
    ∀ t ∈ s'.tries, ∀ email ∈ s'.scheduled, email.id = t.id →
      About .trialEndNotification (.workspace workspaceId) email → t ∈ s.tries := by
  have hunschedules : oneTimeEmailStep s (.unschedules none (some workspaceId) .trialEndNotification) = some s₁ := by
    rw [← hstep]
    simp only [oneTimeEmailStep, productTierChangedHandler, hmoved, if_true]
  intro t ht email hmem hid habout
  exact silent_of_unschedules (ledger_run hbefore) hturn hunschedules hafter hrun ht hmem hid habout

/-- A second reminder is scheduled for the tenth of January. -/
def remindedTwice : OneTimeEmailRun :=
  (oneTimeEmailStep reminded
    (.schedules .trialEndNotification (january 10 valid_january10) none (some 1) trialEnds)).get (by decide +kernel)

def trialLeft : OneTimeEmailRun :=
  (oneTimeEmailStep remindedTwice (.handles (.productTierChanged 1 1 .plus true true .trial))).get (by decide +kernel)

def februaryCame : OneTimeEmailRun :=
  (run oneTimeEmailStep trialLeft [.passes ((⟨2024, 2, 1, valid_february1⟩ : Date).atHour 9), .starts []]).get
    (by decide +kernel)

theorem trialLeft_no_reminder : remindedTwice.emails.rows.length = 2 ∧ ∀ t ∈ februaryCame.tries,
    ∀ email ∈ februaryCame.scheduled, email.id = t.id → About .trialEndNotification (.workspace 1) email →
      t ∈ remindedTwice.tries := by
  have hrun : run oneTimeEmailStep (.init newYear twoMembers) (sendsReminder ++
      [.schedules .trialEndNotification (january 10 valid_january10) none (some 1) trialEnds]) = some remindedTwice :=
    run_append.2 ⟨reminded, (Option.some_get _).symm, run_one (Option.some_get _).symm⟩
  have hidle : remindedTwice.inTurn = none := by
    unfold OneTimeEmailRun.inTurn
    rw [Option.isNone_iff_eq_none.1 (by decide +kernel : remindedTwice.job.isNone = true), Option.bind_none]
  refine ⟨by decide +kernel, no_reminder_after_trial hrun (fun email hemail => ?_) (by decide) (Option.some_get _).symm
    (by decide +kernel) (Option.some_get _).symm⟩
  rw [hidle] at hemail
  cases hemail

end OneTimeEmailService

end Fix
