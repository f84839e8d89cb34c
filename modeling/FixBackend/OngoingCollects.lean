import FixBackend.DispatcherSteps
/-!
# OngoingCollects — one collect job for each account

`trigger_collect` looks for an entry of its account and tracks its job some awaits later.  What keeps a second job
away is the entry of the first one: it has to be there, unfinished, for as long as the job is out.
-/
namespace Fix

open Calendar Effects Machine

/-- The account that a job collects. -/
def CollectJob.account (job : CollectJob) : WorkspaceId × FixCloudAccountId :=
  (job.request.db.workspaceId, job.request.cloudAccountId)

namespace DispatcherService

variable {ι : Type}

/-- **At most one outstanding job per account**: no two of the jobs that are enqueued and not finished collect the
same. -/
def OneJobEach (s : DispatcherRun ι) : Prop := (s.dispatcher.collectQueue.map CollectJob.account).Nodup

/-- A job may be tracked: the account has no unfinished entry, and no completion will delete the new one. -/
def TracksFree (s : DispatcherRun ι) (t : TriggerCall) : Prop :=
  (∀ p, s.dispatcher.collects.accountCollectState t.account.workspaceId t.account.id = some p → p.isDone = true) ∧
    ∀ i, (s.phase i).completing ≠ some t.account.workspaceId

/-- A result may be stored: the entry of the account, if there is one, was tracked for the job that the message
answers. -/
def StoresOwn (s : DispatcherRun ι) (jobId : JobId) (workspaceId : WorkspaceId)
    (accountId : FixCloudAccountId) : Prop :=
  ∀ p, s.dispatcher.collects.accountCollectState workspaceId accountId = some p → p.attempt = jobId

/-- What the guard of `trigger_collect` is meant to ensure when a call writes. -/
def Phase.KeepsGuard (s : DispatcherRun ι) : Phase → Prop
  | triggers t (.tracks _ _) => TracksFree s t
  | finishes m (.stores workspaceId accountId _) => StoresOwn s m.jobId workspaceId accountId
  | _ => True

def KeepsGuard (s : DispatcherRun ι) : DispatcherMove ι → Prop
  | .resume i _ => (s.phase i).KeepsGuard s
  | _ => True

/-! ## The entries of the jobs -/

/-- A job that is enqueued and not finished, or about to be enqueued. -/
def Outstanding (s : DispatcherRun ι) (job : CollectJob) : Prop :=
  job ∈ s.dispatcher.collectQueue ∨ ∃ i, (s.phase i).enqueuing = some job

/-- The message of the job is in flight or handled. -/
def Answered (s : DispatcherRun ι) (jobId : JobId) : Prop :=
  (∃ job m failed, .collect job m failed ∈ s.inFlight ∧ m.jobId = jobId) ∨ ∃ i, (s.phase i).answering = some jobId

/-- **Each outstanding job has its unfinished entry.** -/
structure Guarded (s : DispatcherRun ι) : Prop where
  ids : (s.dispatcher.collectQueue.map CollectJob.jobId).Nodup
  waiting : ∀ i job, (s.phase i).enqueuing = some job → job.jobId ∉ s.dispatcher.collectQueue.map CollectJob.jobId
  apart : ∀ i j job job', (s.phase i).enqueuing = some job → (s.phase j).enqueuing = some job' →
    job.jobId = job'.jobId → i = j
  unanswered : ∀ job, Outstanding s job → ¬Answered s job.jobId
  fresh : ∀ job, Outstanding s job → job.jobId < s.dispatcher.world.nextUuid
  freshAnswers : ∀ jobId, Answered s jobId → jobId < s.dispatcher.world.nextUuid
  held : ∀ job, Outstanding s job → ∃ p, s.dispatcher.collects.accountCollectState job.account.1
    job.account.2 = some p ∧
    p.attempt = job.jobId ∧ p.isDone = false
  sound : ∀ i, (s.phase i).Sound
  completing : ∀ i workspaceId, (s.phase i).completing = some workspaceId →
    (s.dispatcher.collects.progress workspaceId).allDone = true

theorem Guarded.oneJobEach {s : DispatcherRun ι} (h : Guarded s) : OneJobEach s := by
  unfold OneJobEach
  have hids := h.ids
  rw [List.Nodup, List.pairwise_map] at hids ⊢
  refine hids.imp_of_mem fun {a b} ha hb hne hsame => hne ?_
  obtain ⟨p, hp, hattempt, -⟩ := h.held a (Or.inl ha)
  obtain ⟨q, hq, hattempt', -⟩ := h.held b (Or.inl hb)
  rw [hsame, hq] at hp
  cases hp
  exact hattempt.symm.trans hattempt'

theorem Guarded.quiet {s s' : DispatcherRun ι} (h : Guarded s)
    (hqueue : s'.dispatcher.collectQueue = s.dispatcher.collectQueue)
    (hlater : s.dispatcher.world.nextUuid ≤ s'.dispatcher.world.nextUuid)
    (henqueuing : ∀ i job, (s'.phase i).enqueuing = some job → (s.phase i).enqueuing = some job)
    (hanswered : ∀ jobId, Answered s' jobId → Answered s jobId)
    (hentries : ∀ job, Outstanding s job → s'.dispatcher.collects.accountCollectState job.account.1 job.account.2 =
      s.dispatcher.collects.accountCollectState job.account.1 job.account.2)
    (hsound : ∀ i, (s'.phase i).Sound)
    (hcompleting : ∀ i workspaceId, (s'.phase i).completing = some workspaceId →
      (s'.dispatcher.collects.progress workspaceId).allDone = true) : Guarded s' := by
  have hout : ∀ job, Outstanding s' job → Outstanding s job := by
    rintro job (hjob | ⟨i, hjob⟩)
    · exact Or.inl (hqueue ▸ hjob)
    · exact Or.inr ⟨i, henqueuing i job hjob⟩
  constructor
  · rw [hqueue]
    exact h.ids
  · intro i job hjob
    rw [hqueue]
    exact h.waiting i job (henqueuing i job hjob)
  · intro i j job job' hjob hjob'
    exact h.apart i j job job' (henqueuing i job hjob) (henqueuing j job' hjob')
  · exact fun job hjob hanswer => h.unanswered job (hout job hjob) (hanswered _ hanswer)
  · exact fun job hjob => Nat.lt_of_lt_of_le (h.fresh job (hout job hjob)) hlater
  · exact fun jobId hanswer => Nat.lt_of_lt_of_le (h.freshAnswers jobId (hanswered _ hanswer)) hlater
  · intro job hjob
    rw [hentries job (hout job hjob)]
    exact h.held job (hout job hjob)
  · exact hsound
  · exact hcompleting

/-! ## One move -/

section Move

variable {s : DispatcherRun ι}

theorem Guarded.finishes (h : Guarded s) {job : CollectJob} {m : JobMessage} {failed : Bool}
    (hjob : job ∈ s.dispatcher.collectQueue) (hid : m.jobId = job.jobId) :
    Guarded { s with
      dispatcher := { s.dispatcher with collectQueue := s.dispatcher.collectQueue.erase job }
      inFlight := s.inFlight ++ [.collect job m failed] } := by
  have hids := h.ids
  have hqueue : ∀ job', job' ∈ s.dispatcher.collectQueue.erase job → job' ∈ s.dispatcher.collectQueue := fun job' =>
    List.mem_of_mem_erase
  have hout : ∀ job', job' ∈ s.dispatcher.collectQueue.erase job ∨ (∃ i, (s.phase i).enqueuing = some job') →
      Outstanding s job' := fun job' hjob' => hjob'.imp_left (hqueue job')
  have hother : ∀ job', job' ∈ s.dispatcher.collectQueue.erase job ∨ (∃ i, (s.phase i).enqueuing = some job') →
      job'.jobId ≠ job.jobId := by
    rintro job' (hjob' | ⟨i, hjob'⟩) hsame
    · have hsame' := List.inj_on_of_nodup_map hids (hqueue job' hjob') hjob hsame
      rw [hsame'] at hjob'
      exact (List.Nodup.of_map _ hids).not_mem_erase hjob'
    · exact h.waiting i job' hjob' (hsame ▸ List.mem_map_of_mem hjob)
  constructor
  · exact hids.sublist (List.Sublist.map _ List.erase_sublist)
  · intro i job' hjob' hmem
    obtain ⟨job'', hjob'', hsame⟩ := List.mem_map.1 hmem
    exact h.waiting i job' hjob' (List.mem_map.2 ⟨job'', hqueue job'' hjob'', hsame⟩)
  · exact h.apart
  · rintro job' hjob' (⟨job₁, m₁, failed₁, hx, hm⟩ | hanswer)
    · obtain hold | hnew := List.mem_append.1 hx
      · exact h.unanswered job' (hout job' hjob') (Or.inl ⟨job₁, m₁, failed₁, hold, hm⟩)
      · cases List.mem_singleton.1 hnew
        exact hother job' hjob' (hm.symm.trans hid)
    · exact h.unanswered job' (hout job' hjob') (Or.inr hanswer)
  · exact fun job' hjob' => h.fresh job' (hout job' hjob')
  · rintro jobId (⟨job₁, m₁, failed₁, hx, hm⟩ | hanswer)
    · obtain hold | hnew := List.mem_append.1 hx
      · exact h.freshAnswers jobId (Or.inl ⟨job₁, m₁, failed₁, hold, hm⟩)
      · cases List.mem_singleton.1 hnew
        rw [← hm, hid]
        exact h.fresh job (Or.inl hjob)
    · exact h.freshAnswers jobId (Or.inr hanswer)
  · exact fun job' hjob' => h.held job' (hout job' hjob')
  · exact h.sound
  · exact h.completing

variable [DecidableEq ι]

theorem Guarded.starts (h : Guarded s) {i : ι} {q : Phase} {inFlight : List Finished}
    (henqueuing : q.enqueuing = none) (hsound : q.Sound) (hcompleting : q.completing = none)
    (hanswering : ∀ jobId, q.answering = some jobId → Answered s jobId) (hflight : ∀ x ∈ inFlight, x ∈ s.inFlight) :
    Guarded { s with inFlight := inFlight, phase := Function.update s.phase i q } := by
  refine h.quiet rfl (Nat.le_refl _) ?_ ?_ (fun _ _ => rfl) ?_ ?_
  · refine Function.forall_update_iff s.phase (p := fun j r => ∀ job, r.enqueuing = some job →
      (s.phase j).enqueuing = some job) |>.2 ⟨fun job hjob => ?_, fun j _ job hjob => hjob⟩
    rw [henqueuing] at hjob
    cases hjob
  · rintro jobId (⟨job, m, failed, hx, hm⟩ | ⟨j, hj⟩)
    · exact Or.inl ⟨job, m, failed, hflight _ hx, hm⟩
    · dsimp only at hj
      by_cases hji : j = i
      · rw [hji, Function.update_self] at hj
        exact hanswering jobId hj
      · rw [Function.update_of_ne hji] at hj
        exact Or.inr ⟨j, hj⟩
  · exact (Function.forall_update_iff s.phase (p := fun _ r => r.Sound)).2 ⟨hsound, fun j _ => h.sound j⟩
  · exact (Function.forall_update_iff s.phase (p := fun _ r => ∀ ws, r.completing = some ws →
      (s.dispatcher.collects.progress ws).allDone = true)).2
      ⟨fun ws hq => (by rw [hcompleting] at hq; cases hq), fun j _ => h.completing j⟩

theorem Guarded.delivers (h : Guarded s) {i : ι} {x : Finished} (hx : x ∈ s.inFlight) {inFlight : List Finished}
    (hflight : ∀ y ∈ inFlight, y ∈ s.inFlight) :
    Guarded { s with inFlight := inFlight, phase := Function.update s.phase i (received x.message) } := by
  obtain hq | ⟨job, success, -, hq⟩ | ⟨job, m, failed, error, rfl, hq⟩ | ⟨job, m, failed, c, rfl, hq, -⟩ :=
    received_cases x
  · rw [hq]
    exact h.starts rfl trivial rfl (fun _ hanswer => by cases hanswer) hflight
  · rw [hq]
    exact h.starts rfl trivial rfl (fun _ hanswer => by cases hanswer) hflight
  · rw [hq]
    refine h.starts rfl trivial rfl (fun jobId hanswer => ?_) hflight
    exact Or.inl ⟨job, m, failed, hx, Option.some.inj hanswer⟩
  · rw [hq]
    refine h.starts rfl trivial rfl (fun jobId hanswer => ?_) hflight
    exact Or.inl ⟨job, m, failed, hx, Option.some.inj hanswer⟩

theorem enqueuing_update {i : ι} {q : Phase} (hq : q.enqueuing = none) : ∀ j job,
    (Function.update s.phase i q j).enqueuing = some job → (s.phase j).enqueuing = some job := by
  refine (Function.forall_update_iff s.phase (p := fun j r => ∀ job, r.enqueuing = some job →
    (s.phase j).enqueuing = some job)).2 ⟨fun job hjob => ?_, fun j _ job hjob => hjob⟩
  rw [hq] at hjob
  cases hjob

theorem Guarded.tracks (h : Guarded s) {i : ι} {t : TriggerCall} {info : AccountInformation} {db : GraphDatabaseAccess}
    (hp : s.phase i = .triggers t (.tracks info db)) (hfree : TracksFree s t)
    (hdb : db.workspaceId = t.account.workspaceId) {s' : DispatcherRun ι}
    (hs' : s'.dispatcher = { s.dispatcher with
      world := { s.dispatcher.world with
        nextUuid := s.dispatcher.world.nextUuid + 1, ticks := s.dispatcher.world.ticks + 1 }
      collects := s.dispatcher.collects.track t.account.workspaceId t.account.id info s.dispatcher.world.nextUuid
        (s.dispatcher.world.clock s.dispatcher.world.ticks) })
    (hphase : s'.phase = Function.update s.phase i (.triggers t (.enqueues (drawnJob t info db s.dispatcher))))
    (hanswered : ∀ jobId, Answered s' jobId → Answered s jobId) (hsound : ∀ j, (s'.phase j).Sound)
    (hcompleting : ∀ j workspaceId, (s'.phase j).completing = some workspaceId →
      (s.dispatcher.collects.progress workspaceId).allDone = true) : Guarded s' := by
  have hqueue : s'.dispatcher.collectQueue = s.dispatcher.collectQueue := by rw [hs']
  have hnext : s'.dispatcher.world.nextUuid = s.dispatcher.world.nextUuid + 1 := by rw [hs']
  have hold : ∀ job, Outstanding s job → job.jobId ≠ s.dispatcher.world.nextUuid := fun job hjob =>
    Nat.ne_of_lt (h.fresh job hjob)
  have henqueuing : ∀ j job, (s'.phase j).enqueuing = some job →
      j = i ∧ job = drawnJob t info db s.dispatcher ∨ j ≠ i ∧ (s.phase j).enqueuing = some job := by
    intro j job hjob
    rw [hphase] at hjob
    by_cases hji : j = i
    · rw [hji, Function.update_self] at hjob
      exact Or.inl ⟨hji, (Option.some.inj hjob).symm⟩
    · rw [Function.update_of_ne hji] at hjob
      exact Or.inr ⟨hji, hjob⟩
  have hout : ∀ job, Outstanding s' job → job = drawnJob t info db s.dispatcher ∨ Outstanding s job := by
    rintro job (hjob | ⟨j, hjob⟩)
    · exact Or.inr (Or.inl (hqueue ▸ hjob))
    · exact (henqueuing j job hjob).imp And.right fun hj => Or.inr ⟨j, hj.2⟩
  constructor
  · rw [hqueue]
    exact h.ids
  · intro j job hjob hmem
    rw [hqueue] at hmem
    obtain ⟨-, rfl⟩ | ⟨-, hjob⟩ := henqueuing j job hjob
    · obtain ⟨job', hjob', hsame⟩ := List.mem_map.1 hmem
      exact hold job' (Or.inl hjob') hsame
    · exact h.waiting j job hjob hmem
  · intro j k job job' hjob hjob' hsame
    obtain ⟨rfl, rfl⟩ | ⟨-, hjob⟩ := henqueuing j job hjob
    · obtain ⟨rfl, -⟩ | ⟨-, hjob'⟩ := henqueuing k job' hjob'
      · rfl
      · exact absurd hsame.symm (hold job' (Or.inr ⟨k, hjob'⟩))
    · obtain ⟨rfl, rfl⟩ | ⟨-, hjob'⟩ := henqueuing k job' hjob'
      · exact absurd hsame (hold job (Or.inr ⟨j, hjob⟩))
      · exact h.apart j k job job' hjob hjob' hsame
  · intro job hjob hanswer
    obtain rfl | hjob := hout job hjob
    · exact Nat.lt_irrefl _ (h.freshAnswers _ (hanswered _ hanswer))
    · exact h.unanswered job hjob (hanswered _ hanswer)
  · intro job hjob
    rw [hnext]
    obtain rfl | hjob := hout job hjob
    · exact Nat.lt_succ_self _
    · exact Nat.lt_succ_of_lt (h.fresh job hjob)
  · intro jobId hanswer
    rw [hnext]
    exact Nat.lt_succ_of_lt (h.freshAnswers jobId (hanswered jobId hanswer))
  · intro job hjob
    rw [hs']
    dsimp only
    rw [CollectStore.entry_track]
    obtain rfl | hjob := hout job hjob
    · exact ⟨_, if_pos ⟨hdb, rfl⟩, rfl, rfl⟩
    · obtain ⟨p, hp, hattempt, hopen⟩ := h.held job hjob
      rw [if_neg]
      · exact ⟨p, hp, hattempt, hopen⟩
      · rintro ⟨hws, hA⟩
        rw [hws, hA] at hp
        rw [hfree.1 p hp] at hopen
        cases hopen
  · exact hsound
  · intro j workspaceId hj
    have hdone := hcompleting j workspaceId hj
    have hne : workspaceId ≠ t.account.workspaceId := by
      rintro rfl
      rw [hphase] at hj
      by_cases hji : j = i
      · rw [hji, Function.update_self] at hj
        cases hj
      · rw [Function.update_of_ne hji] at hj
        exact hfree.2 j hj
    rw [hs']
    unfold CollectStore.track
    dsimp only
    rw [Function.update_of_ne hne]
    exact hdone

theorem Guarded.enqueues (h : Guarded s) {i : ι} {t : TriggerCall} {job : CollectJob}
    (hp : s.phase i = .triggers t (.enqueues job)) {s' : DispatcherRun ι}
    (hs' : s'.dispatcher = { s.dispatcher with collectQueue := s.dispatcher.collectQueue ++ [job] })
    (hphase : s'.phase = Function.update s.phase i .idle)
    (hanswered : ∀ jobId, Answered s' jobId → Answered s jobId) (hsound : ∀ j, (s'.phase j).Sound)
    (hcompleting : ∀ j workspaceId, (s'.phase j).completing = some workspaceId →
      (s.dispatcher.collects.progress workspaceId).allDone = true) : Guarded s' := by
  have hqueue : s'.dispatcher.collectQueue = s.dispatcher.collectQueue ++ [job] := by rw [hs']
  have hjob : (s.phase i).enqueuing = some job := by rw [hp]; rfl
  have henqueuing : ∀ j job', (s'.phase j).enqueuing = some job' → j ≠ i ∧ (s.phase j).enqueuing = some job' := by
    intro j job' hjob'
    rw [hphase] at hjob'
    by_cases hji : j = i
    · rw [hji, Function.update_self] at hjob'
      cases hjob'
    · rw [Function.update_of_ne hji] at hjob'
      exact ⟨hji, hjob'⟩
  have hout : ∀ job', Outstanding s' job' → Outstanding s job' := by
    rintro job' (hjob' | ⟨j, hjob'⟩)
    · rw [hqueue] at hjob'
      obtain hold | hnew := List.mem_append.1 hjob'
      · exact Or.inl hold
      · exact Or.inr ⟨i, List.mem_singleton.1 hnew ▸ hjob⟩
    · exact Or.inr ⟨j, (henqueuing j job' hjob').2⟩
  constructor
  · rw [hqueue, List.map_append, List.nodup_append]
    refine ⟨h.ids, List.nodup_singleton _, fun jobId hmem jobId' hmem' hsame => ?_⟩
    rw [List.map_singleton, List.mem_singleton] at hmem'
    exact h.waiting i job hjob (hmem' ▸ hsame ▸ hmem)
  · intro j job' hjob' hmem
    obtain ⟨hji, hjob'⟩ := henqueuing j job' hjob'
    rw [hqueue, List.map_append, List.mem_append, List.map_singleton, List.mem_singleton] at hmem
    obtain hold | hnew := hmem
    · exact h.waiting j job' hjob' hold
    · exact hji (h.apart j i job' job hjob' hjob hnew)
  · intro j k job₁ job₂ h₁ h₂
    exact h.apart j k job₁ job₂ (henqueuing j job₁ h₁).2 (henqueuing k job₂ h₂).2
  · exact fun job' hjob' hanswer => h.unanswered job' (hout job' hjob') (hanswered _ hanswer)
  · intro job' hjob'
    rw [hs']
    exact h.fresh job' (hout job' hjob')
  · intro jobId hanswer
    rw [hs']
    exact h.freshAnswers jobId (hanswered jobId hanswer)
  · intro job' hjob'
    rw [hs']
    exact h.held job' (hout job' hjob')
  · exact hsound
  · intro j workspaceId hj
    rw [hs']
    exact hcompleting j workspaceId hj

theorem Guarded.resumes (h : Guarded s) {i : ι} {raises : Bool} {q : Phase} {e : Dispatcher}
    (hguard : (s.phase i).KeepsGuard s) (hgoes : Goes raises s.dispatcher (s.phase i) q e)
    {reports : List (DomainEvent × CollectState)} :
    Guarded ⟨e, s.inFlight, Function.update s.phase i q, reports⟩ := by
  have hanswered : ∀ jobId, Answered ⟨e, s.inFlight, Function.update s.phase i q, reports⟩ jobId →
      Answered s jobId := by
    rintro jobId (hx | ⟨j, hj⟩)
    · exact Or.inl hx
    · dsimp only at hj
      by_cases hji : j = i
      · rw [hji, Function.update_self] at hj
        obtain hnone | hsame := hgoes.answering
        · rw [hnone] at hj
          cases hj
        · exact Or.inr ⟨i, hsame ▸ hj⟩
      · rw [Function.update_of_ne hji] at hj
        exact Or.inr ⟨j, hj⟩
  have hsound : ∀ j, (Function.update s.phase i q j).Sound :=
    (Function.forall_update_iff s.phase (p := fun _ r => r.Sound)).2 ⟨hgoes.sound, fun j _ => h.sound j⟩
  have hcompleting : ∀ j workspaceId, (Function.update s.phase i q j).completing = some workspaceId →
      (s.dispatcher.collects.progress workspaceId).allDone = true := by
    refine (Function.forall_update_iff s.phase (p := fun _ r => ∀ ws, r.completing = some ws →
      (s.dispatcher.collects.progress ws).allDone = true)).2 ⟨fun ws hq => ?_, fun j _ => h.completing j⟩
    exact (hgoes.completing hq).elim (h.completing i ws) id
  obtain ⟨t, info, db, hp, rfl, rfl⟩ | ⟨t, job, hp, rfl, rfl⟩ | ⟨m, ws, A, x, hp, rfl, rfl⟩ |
    ⟨ws, afterwards, state, event, hp, rfl, rfl⟩ | ⟨hprogress, hqueue, hlater, henqueuing⟩ := hgoes.writes
  · have hfree : TracksFree s t := by
      rw [hp] at hguard
      exact hguard
    have hdb : db.workspaceId = t.account.workspaceId := by
      have := h.sound i
      rw [hp] at this
      exact this
    exact h.tracks hp hfree hdb rfl rfl hanswered hsound hcompleting
  · exact h.enqueues hp rfl rfl hanswered hsound hcompleting
  · have hown : StoresOwn s m.jobId ws A := by
      rw [hp] at hguard
      exact hguard
    have hresult : x.isDone = true := by
      have := h.sound i
      rw [hp] at this
      exact this
    refine h.quiet rfl (Nat.le_refl _) ?_ hanswered (fun job hjob => ?_) hsound fun j workspaceId hj => ?_
    · exact enqueuing_update rfl
    · refine (CollectStore.entry_setProgress _ _).trans (if_neg ?_)
      rintro ⟨hws, hA⟩
      obtain ⟨y, hy, hattempt, -⟩ := h.held job hjob
      rw [hws, hA] at hy
      refine h.unanswered job hjob (Or.inr ⟨i, ?_⟩)
      rw [hp, ← hattempt, hown y hy]
      rfl
    · have hdone := hcompleting j workspaceId hj
      rw [CollectStore.allDone_iff] at hdone ⊢
      intro accountId y hy
      rw [CollectStore.entry_setProgress] at hy
      split at hy
      · cases hy
        exact hresult
      · exact hdone accountId y hy
  · have hdone := h.completing i ws (by rw [hp]; rfl)
    rw [CollectStore.allDone_iff] at hdone
    refine h.quiet rfl (Nat.le_refl _) ?_ hanswered (fun job hjob => ?_) hsound fun j workspaceId hj => ?_
    · exact enqueuing_update rfl
    · refine (CollectStore.entry_deleteProgress _).trans (if_neg fun hws => ?_)
      obtain ⟨y, hy, -, hopen⟩ := h.held job hjob
      rw [hws] at hy
      rw [hdone _ y hy] at hopen
      cases hopen
    · have hdone' := hcompleting j workspaceId hj
      rw [CollectStore.allDone_iff] at hdone' ⊢
      intro accountId y hy
      rw [CollectStore.entry_deleteProgress] at hy
      split at hy
      · cases hy
      · exact hdone' accountId y hy
  · refine h.quiet hqueue hlater (enqueuing_update henqueuing) hanswered (fun job _ => ?_) hsound
      fun j workspaceId hj => ?_
    · unfold CollectStore.accountCollectState
      rw [hprogress]
    · rw [hprogress]
      exact hcompleting j workspaceId hj

theorem Guarded.moves (h : Guarded s) {move : DispatcherMove ι} (hguard : KeepsGuard s move) {s' : DispatcherRun ι}
    (hstep : dispatcherStep s move = some s') : Guarded s' := by
  cases move with
  | trigger i t =>
    obtain ⟨-, rfl⟩ := triggered hstep
    exact h.starts rfl trivial rfl (fun _ hanswer => by cases hanswer) fun _ hx => hx
  | deliver i x again =>
    obtain ⟨-, hx, rfl⟩ := delivered hstep
    refine h.delivers hx fun y hy => ?_
    cases again with
    | true => exact hy
    | false => exact List.mem_of_mem_erase hy
  | resume i raises =>
    obtain ⟨q, e, hgoes, rfl⟩ := resumed hstep
    exact h.resumes hguard hgoes
  | finish job m failed =>
    obtain ⟨hjob, hanswers, rfl⟩ := finished hstep
    exact h.finishes hjob (Answers.jobId hanswers)
  | finishPostCollect job success =>
    obtain ⟨-, rfl⟩ := finishedPostCollect hstep
    refine h.quiet rfl (Nat.le_refl _) (fun _ _ hjob => hjob) (fun jobId hanswer => ?_)
      (fun _ _ => rfl) h.sound h.completing
    obtain ⟨job', m, failed, hx, hm⟩ | hanswer := hanswer
    · obtain hold | hnew := List.mem_append.1 hx
      · exact Or.inl ⟨job', m, failed, hold, hm⟩
      · cases List.mem_singleton.1 hnew
    · exact Or.inr hanswer
  | surroundings x =>
    cases hstep
    exact h.quiet rfl (Nat.le_refl _) (fun _ _ hjob => hjob) (fun _ hanswer => hanswer)
      (fun _ _ => rfl) h.sound h.completing

end Move

/-! ## Every run -/

theorem guarded_begin (d : Dispatcher) : Guarded (DispatcherRun.begin d : DispatcherRun ι) := by
  have hnone : ∀ job, ¬Outstanding (DispatcherRun.begin d : DispatcherRun ι) job := by
    rintro job (hjob | ⟨i, hjob⟩)
    · exact List.not_mem_nil hjob
    · cases hjob
  have hunanswered : ∀ jobId, ¬Answered (DispatcherRun.begin d : DispatcherRun ι) jobId := by
    rintro jobId (⟨job, m, failed, hx, -⟩ | ⟨i, hi⟩)
    · exact List.not_mem_nil hx
    · cases hi
  constructor
  · exact List.nodup_nil
  · intro i job hjob
    cases hjob
  · intro i j job job' hjob
    cases hjob
  · exact fun job hjob => absurd hjob (hnone job)
  · exact fun job hjob => absurd hjob (hnone job)
  · exact fun jobId hanswer => absurd hanswer (hunanswered jobId)
  · exact fun job hjob => absurd hjob (hnone job)
  · exact fun _ => trivial
  · intro i workspaceId hi
    cases hi

/-- **No account ever has two outstanding jobs**, along the runs that keep the guard of `trigger_collect`. -/
theorem oneJobEach_of_guard [DecidableEq ι] (d : Dispatcher) {moves : List (DispatcherMove ι)} {s : DispatcherRun ι}
    (hguard : Along dispatcherStep KeepsGuard (DispatcherRun.begin d) moves)
    (hrun : run dispatcherStep (DispatcherRun.begin d) moves = some s) : OneJobEach s := by
  have hguarded : Guarded s := run_along (fun s move s' hs hmove hstep => hs.moves hmove hstep)
      (guarded_begin d) hguard hrun
  exact hguarded.oneJobEach

/-! ## Two calls for one account -/

section Guard

variable [Fintype ι]

instance (s : DispatcherRun ι) (t : TriggerCall) : Decidable (TracksFree s t) :=
  haveI : Decidable (∀ p, s.dispatcher.collects.accountCollectState t.account.workspaceId t.account.id = some p →
      p.isDone = true) := decidable_of_iff _ (Option.all_eq_true AccountCollectProgress.isDone _)
  instDecidableAnd

instance (s : DispatcherRun ι) (jobId : JobId) (workspaceId : WorkspaceId) (accountId : FixCloudAccountId) :
    Decidable (StoresOwn s jobId workspaceId accountId) :=
  decidable_of_iff (((s.dispatcher.collects.accountCollectState workspaceId accountId).all
    fun p => decide (p.attempt = jobId)) = true) (by
      unfold StoresOwn
      rw [Option.all_eq_true]
      exact forall_congr' fun p => imp_congr_right fun _ => decide_eq_true_iff)

instance (s : DispatcherRun ι) (p : Phase) : Decidable (p.KeepsGuard s) :=
  match p with
  | .triggers t (.tracks _ _) => inferInstanceAs (Decidable (TracksFree s t))
  | .finishes m (.stores workspaceId accountId _) =>
    inferInstanceAs (Decidable (StoresOwn s m.jobId workspaceId accountId))
  | .triggers _ .checks | .triggers _ .loads | .triggers _ (.opens _) | .triggers _ (.enqueues _)
  | .finishes _ (.findsWorkspace _) | .finishes _ (.findsJob _ _) | .finishes _ (.findsEntry _ _ _)
  | .finishes _ (.readsTier _) | .finishes _ (.meters _ _) | .finishes _ (.findsOwnJob _ _)
  | .finishes _ (.findsOwnEntry _ _ _) | .finishes _ (.readsState _ _ _) | .idle | .continues _ | .decides _
  | .opensPostCollect _ _ | .enqueuesPostCollect _ | .postCollects _ _ | .completes _ _ _ => isTrue trivial

instance (s : DispatcherRun ι) (move : DispatcherMove ι) : Decidable (KeepsGuard s move) :=
  match move with
  | .resume i _ => inferInstanceAs (Decidable ((s.phase i).KeepsGuard s))
  | .trigger _ _ | .deliver _ _ _ | .finish _ _ _ | .finishPostCollect _ _ | .surroundings _ => isTrue trivial

end Guard

def awsTrigger (id : FixCloudAccountId) (reason : CollectReason) : TriggerCall :=
  ⟨newAccount id "123456789012" 1 .aws (.configured (.aws 7 "FixRole") true true) none runStart, reason,
    none, none, false⟩

/-- The account is configured while the scheduler runs: both calls look for its entry before one of them is tracked. -/
def bothCheck : List (DispatcherMove Bool) :=
  [.trigger false (awsTrigger 21 .awsAccountConfigured), .trigger true (awsTrigger 21 .regularCollect),
    .resume false false, .resume true false] ++
  List.replicate 4 (.resume false false) ++ List.replicate 4 (.resume true false)

def bothCollect : DispatcherRun Bool :=
  (run dispatcherStep (DispatcherRun.begin twoTracked) bothCheck).get (by decide +kernel)

/-- Both jobs are enqueued. -/
theorem bothCheck_two_jobs : run dispatcherStep (DispatcherRun.begin twoTracked) bothCheck = some bothCollect ∧
    ¬OneJobEach bothCollect := by
  refine ⟨(Option.some_get _).symm, fun h => ?_⟩
  have htwo : bothCollect.dispatcher.collectQueue.map CollectJob.account = [(1, 21), (1, 21)] := by decide +kernel
  unfold OneJobEach at h
  rw [htwo] at h
  exact absurd h (by decide)

/-- The second call looks when the first one is tracked. -/
def oneChecks : List (DispatcherMove Bool) :=
  .trigger false (awsTrigger 21 .awsAccountConfigured) :: List.replicate 5 (.resume false false) ++
    [.trigger true (awsTrigger 21 .regularCollect), .resume true false]

def oneCollects : DispatcherRun Bool :=
  (run dispatcherStep (DispatcherRun.begin twoTracked) oneChecks).get (by decide +kernel)

theorem oneChecks_one_job : OneJobEach oneCollects := by
  have hguard : Along dispatcherStep KeepsGuard (DispatcherRun.begin twoTracked) oneChecks := by decide +kernel
  exact oneJobEach_of_guard twoTracked hguard (Option.some_get _).symm

end DispatcherService

end Fix
