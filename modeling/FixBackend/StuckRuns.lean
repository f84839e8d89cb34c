import FixBackend.CollectReports
import FixBackend.PendingCollects
/-!
# StuckRuns — a run that nothing completes any more

While a workspace has progress, no account of it that has an entry is collected again.  Only the call that completes the
run deletes the progress, so until then a job of the workspace has to be out, or the message of one.
-/
namespace Fix

open Calendar Effects Machine CollectStore

namespace DispatcherService

variable {ι : Type}

/-- **No run is stuck**: when no call is made and a workspace has progress, a job of it is enqueued and not finished, or
the message of one is not processed. -/
def NotStuck (s : DispatcherRun ι) : Prop :=
  (∀ i, (s.phase i).isIdle = true) → ∀ ws, (s.dispatcher.collects.progress ws).rows ≠ [] →
    (∃ job ∈ s.dispatcher.collectQueue, job.request.db.workspaceId = ws) ∨
      (∃ job ∈ s.dispatcher.postCollectQueue, job.db.workspaceId = ws) ∨ ∃ x ∈ s.inFlight, x.workspaceId = ws

def Phase.clearing : Phase → Option WorkspaceId
  | completes workspaceId _ .listsJobs | completes workspaceId _ (.deletesJobs _) => some workspaceId
  | _ => none

/-- A call does not leave the run of a workspace behind: the queue takes the job that is tracked and the one that
follows the collects, a finished run is completed, and nothing is written to a progress that is deleted. -/
def Phase.KeepsRunning (s : DispatcherRun ι) (raises : Bool) : Phase → Prop
  | triggers t (.tracks _ _) => ∀ i, (s.phase i).clearing ≠ some t.account.workspaceId
  | triggers _ (.enqueues _) => raises = false
  | finishes _ (.stores workspaceId _ _) => (s.dispatcher.collects.progress workspaceId).rows ≠ []
  | opensPostCollect workspaceId _ => (s.dispatcher.collects.progress workspaceId).rows ≠ [] →
    (s.dispatcher.databaseAccess.find workspaceId).isSome = true
  | enqueuesPostCollect job => (s.dispatcher.collects.progress job.db.workspaceId).rows ≠ [] → raises = false
  | postCollects workspaceId success => (s.dispatcher.collects.progress workspaceId).rows ≠ [] →
    (s.dispatcher.collects.progress workspaceId).allDone = true → success = true
  | _ => True

def KeepsRunning (s : DispatcherRun ι) : DispatcherMove ι → Prop
  | .resume i raises => (s.phase i).KeepsRunning s raises
  | _ => True

/-! ## What is still to be done -/

/-- What a call is about to do for a run. -/
def Phase.pending : Phase → Option Pending
  | triggers _ (.enqueues job) => some (.result job.jobId)
  | finishes m _ => some (.result m.jobId)
  | continues jobId => some (.decision jobId)
  | decides workspaceId | opensPostCollect workspaceId _ | postCollects workspaceId _ => some (.completion workspaceId)
  | enqueuesPostCollect job => some (.completion job.db.workspaceId)
  | completes workspaceId _ .reads | completes workspaceId _ (.asksNextRun _) | completes workspaceId _ (.publishes _ _)
  | completes workspaceId _ (.deletesProgress _ _) => some (.completion workspaceId)
  | _ => none

def Finished.pending : Finished → Pending
  | collect job _ _ => .result job.jobId
  | postCollect job _ => .completion job.db.workspaceId

/-- A job, a message or a call will do it. -/
inductive Pends (s : DispatcherRun ι) : Pending → Prop
  | queued {job : CollectJob} (h : job ∈ s.dispatcher.collectQueue) : Pends s (.result job.jobId)
  | postQueued {job : PostCollectJob} (h : job ∈ s.dispatcher.postCollectQueue) :
    Pends s (.completion job.db.workspaceId)
  | inFlight {x : Finished} (h : x ∈ s.inFlight) : Pends s x.pending
  | called {i : ι} {x : Pending} (h : (s.phase i).pending = some x) : Pends s x

/-- The progress of the workspace is deleted, and its jobs are not. -/
def Clearing (phase : ι → Phase) (workspaceId : WorkspaceId) : Prop := ∃ i, (phase i).clearing = some workspaceId

/-- What a call has found of its job, and what it will write. -/
def Phase.Knows (c : CollectStore) (next : JobId) : Phase → Prop
  | triggers t (.tracks _ db) => db.workspaceId = t.account.workspaceId
  | triggers _ (.enqueues job) => c.Known next job.request.db.workspaceId job.jobId
  | finishes m (.findsWorkspace _) => ∃ ws, c.Known next ws m.jobId
  | finishes m (.findsJob _ ws) => c.Known next ws m.jobId
  | finishes m (.findsEntry _ ws A) => c.KnownFor next ws A m.jobId
  | finishes m (.readsTier x) | finishes m (.meters x _) | finishes m (.findsOwnJob x _) =>
    c.Known next x.result.tenantId m.jobId
  | finishes m (.findsOwnEntry x _ A) | finishes m (.readsState x _ A) => c.KnownFor next x.result.tenantId A m.jobId
  | finishes m (.stores ws A p) => c.KnownFor next ws A m.jobId ∧ p.cloudAccountId = A ∧ p.isDone = true
  | completes ws _ (.deletesJobs jobIds) =>
    (∀ J, c.jobTenant J = some ws → J ∈ jobIds) ∧ ∀ J ∈ jobIds, c.Known next ws J
  | _ => True

/-- **The keys are tidy, and the jobs, messages and calls know theirs.** -/
structure Tracking (s : DispatcherRun ι) : Prop where
  tidy : s.dispatcher.collects.Tidy s.dispatcher.world.nextUuid (Clearing s.phase)
  queued : ∀ job ∈ s.dispatcher.collectQueue,
    s.dispatcher.collects.Known s.dispatcher.world.nextUuid job.request.db.workspaceId job.jobId
  inFlight : ∀ job m failed, .collect job m failed ∈ s.inFlight → Answers job m failed = true ∧
    s.dispatcher.collects.Known s.dispatcher.world.nextUuid job.request.db.workspaceId job.jobId
  knows : ∀ i, (s.phase i).Knows s.dispatcher.collects s.dispatcher.world.nextUuid

/-- **Nothing is left behind**: whatever a run waits for will be done. -/
structure Live (s : DispatcherRun ι) : Prop extends Tracking s where
  carried : s.dispatcher.collects.Carried (Pends s)

theorem Live.notStuck {s : DispatcherRun ι} (h : Live s) : NotStuck s := by
  intro hidle ws hrows
  obtain ⟨x, hx, hconcerns⟩ := h.carried.carried ws hrows
  cases hx with
  | queued hjob => exact Or.inl ⟨_, hjob, ((h.queued _ hjob).tenant ws hconcerns).symm⟩
  | postQueued hjob => exact Or.inr (Or.inl ⟨_, hjob, hconcerns⟩)
  | @inFlight x hx =>
    refine Or.inr (Or.inr ⟨x, hx, ?_⟩)
    cases x with
    | collect job m failed => exact ((h.inFlight job m failed hx).2.tenant ws hconcerns).symm
    | postCollect => exact hconcerns
  | @called i x hi =>
    have hnone := hidle i
    generalize s.phase i = p at hi hnone
    cases p with
    | idle => cases hi
    | _ => cases hnone

/-! ## What the calls know -/

theorem Phase.clearing_returning (workspaceId : WorkspaceId) (afterwards : Option (List PostCollectAccountInfo)) :
    (returning workspaceId afterwards).clearing = none := by
  cases afterwards <;> rfl

theorem Phase.knows_returning (workspaceId : WorkspaceId) (afterwards : Option (List PostCollectAccountInfo))
    (c : CollectStore) (next : JobId) : (returning workspaceId afterwards).Knows c next := by
  cases afterwards <;> trivial

theorem Phase.Knows.later {c c' : CollectStore} {next next' : JobId} {clearing : WorkspaceId → Prop} {p : Phase}
    (h : p.Knows c next) (hlater : Later clearing c next c' next')
    (hclearing : ∀ ws, p.clearing = some ws → clearing ws) : p.Knows c' next' := by
  cases p with
  | triggers t a =>
    cases a with
    | enqueues => exact Known.later h hlater
    | _ => exact h
  | finishes m a =>
    cases a with
    | findsWorkspace => exact Exists.imp (fun ws hknown => Known.later hknown hlater) h
    | findsJob | readsTier | meters | findsOwnJob => exact Known.later h hlater
    | findsEntry | findsOwnEntry | readsState => exact KnownFor.later h hlater
    | stores => exact ⟨h.1.later hlater, h.2⟩
  | completes ws afterwards a =>
    cases a with
    | deletesJobs jobIds =>
      refine ⟨fun J hJ => ?_, fun J hJ => (h.2 J hJ).later hlater⟩
      obtain hold | ⟨-, hfree⟩ := hlater.tenant J ws hJ
      · exact h.1 J hold
      · exact absurd (hclearing ws rfl) hfree
    | _ => exact h
  | _ => exact h

/-- **What is found at an await is known at the next one.** -/
theorem Goes.known {raises : Bool} {d e : Dispatcher} {p q : Phase} {clearing : WorkspaceId → Prop}
    (h : Goes raises d p q e) (hp : p.Knows d.collects d.world.nextUuid)
    (htidy : d.collects.Tidy d.world.nextUuid clearing) : q.Knows e.collects e.world.nextUuid := by
  cases h with
  | waits | deletesJobs => exact Phase.knows_returning _ _ _ _
  | opens hdb => exact Table.key_of_find hdb
  | @tracks t info db =>
    refine ⟨Nat.lt_succ_self _, fun ws hws => ?_⟩
    dsimp only [drawnJob] at hws ⊢
    rw [jobTenant_track, if_pos rfl] at hws
    exact (Option.some.inj hws).symm.trans hp.symm
  | findsWorkspace hJ => exact htidy.known_of_tenant hJ
  | findsJob hA => exact htidy.knownFor hA
  | findsEntry hentry =>
    rw [← htidy.keyed _ _ _ hentry] at hp
    exact ⟨hp, rfl, rfl⟩
  | readsTier hlater => exact Known.later hp (later_of_jobs clearing rfl rfl hlater)
  | meters => exact hp
  | findsOwnJob hA => exact htidy.knownFor hA
  | findsOwnEntry hentry =>
    rw [← htidy.keyed _ _ _ hentry] at hp
    exact hp
  | @readsState m c resources accountId state hentry => exact ⟨hp, htidy.keyed _ _ state hentry, rfl⟩
  | @listsJobs ws =>
    refine ⟨fun J hJ => ?_, fun J hJ => ?_⟩
    · obtain ⟨A, hA, -⟩ := htidy.tenants J ws hJ
      exact List.mem_map_of_mem ((Dict.get_eq_some_iff _ _ _).1 hA)
    · obtain ⟨⟨J', A⟩, hmem, rfl⟩ := List.mem_map.1 hJ
      exact htidy.listed ws J' A ((Dict.get_eq_some_iff _ _ _).2 hmem)
  | @deletesJob ws afterwards J jobIds =>
    refine ⟨fun J' hJ' => ?_, fun J' hJ' => ?_⟩
    · rw [jobTenant_deleteJobTenant] at hJ'
      split at hJ'
      · cases hJ'
      · rename_i hne
        exact (List.mem_cons.1 (hp.1 J' hJ')).resolve_left hne
    · exact (hp.2 J' (List.mem_cons_of_mem _ hJ')).later (later_deleteJobTenant clearing)
  | _ => trivial

/-! ## What a call does not find -/

section Found

variable {s : DispatcherRun ι} {i : ι} {raises : Bool}

/-- A handler that does not find the entry of its job has no run to go on with. -/
theorem Tracking.entry_of_job (h : Tracking s) {ws ws' : WorkspaceId} {A : FixCloudAccountId} {J : JobId}
    (hknown : s.dispatcher.collects.KnownFor s.dispatcher.world.nextUuid ws A J)
    (hJ : s.dispatcher.collects.jobTenant J = some ws') (hrows : (s.dispatcher.collects.progress ws').rows ≠ []) :
    s.dispatcher.collects.accountCollectState ws A ≠ none := by
  cases hknown.tenant ws' hJ
  exact Option.isSome_iff_ne_none.1 (h.tidy.entry_of_tenant hJ hrows hknown)

theorem Live.not_loses (h : Live s) {m : JobMessage} {a : FinishAwait} (hi : s.phase i = .finishes m a)
    {ws : WorkspaceId} {A : FixCloudAccountId} {p : AccountCollectProgress}
    (hp : s.dispatcher.collects.accountCollectState ws A = some p) (hopen : p.isDone = false)
    (hJ : p.attempt = m.jobId) :
    ¬a.Loses m s.dispatcher.collects := by
  obtain ⟨htenant, haccount, -⟩ := h.carried.unfinished ws A p hp hopen
  rw [hJ] at htenant haccount
  have hknows := h.knows i
  rw [hi] at hknows
  intro hloses
  cases a with
  | findsWorkspace error =>
    rw [hloses] at htenant
    cases htenant
  | findsJob error ws' =>
    cases hknows.tenant ws htenant
    rw [hloses] at haccount
    cases haccount
  | findsOwnJob c resources =>
    have hlost : s.dispatcher.collects.jobAccount c.result.tenantId m.jobId = none := hloses
    rw [← hknows.tenant ws htenant, haccount] at hlost
    cases hlost
  | findsEntry error ws' A' => exact h.entry_of_job hknows htenant (rows_ne_nil_of_entry hp) hloses
  | findsOwnEntry c resources A' => exact h.entry_of_job hknows htenant (rows_ne_nil_of_entry hp) hloses
  | _ => exact hloses

/-- **A call that ends at its await** leaves a run that waits for something else, or none. -/
theorem Live.stops (h : Live s) (hguard : (s.phase i).KeepsRunning s raises)
    (hstops : (s.phase i).Stops raises s.dispatcher) {pending : Pending → Prop}
    (hkeep : ∀ x, Pends s x → (s.phase i).pending ≠ some x → pending x) : s.dispatcher.collects.Carried pending := by
  have hknows := h.knows i
  generalize s.phase i = p at hguard hstops hkeep hknows
  -- the completion of a run that was to be decided or completed by the call
  have hcompletes : ∀ ws, p.pending = some (.completion ws) → ((s.dispatcher.collects.progress ws).rows ≠ [] →
      (s.dispatcher.collects.progress ws).allDone = false) → s.dispatcher.collects.Carried pending := by
    intro ws hp hopen
    refine h.carried.releases hkeep (fun J ws A x hx => ?_) fun y ws' hy hconcerns hrows => Or.inr ?_
    · rw [hp] at hx
      cases hx
    · rw [hp] at hy
      cases hy
      cases hconcerns
      exact hopen hrows
  cases p with
  | triggers t a =>
    cases a with
    | enqueues =>
      rw [hstops] at hguard
      cases hguard
    | tracks => cases hstops
    | _ => exact h.carried.mono fun x hx => hkeep x hx fun hnone => by cases hnone
  | finishes m a =>
    cases a with
    | readsState c resources A =>
      refine h.carried.releases hkeep (fun J ws A' p hx hp hopen hJ => ?_) fun y ws hy hconcerns hrows => ?_
      · cases hx
        obtain ⟨htenant, -, -⟩ := h.carried.unfinished ws A' p hp hopen
        exact absurd hstops (h.entry_of_job hknows (hJ ▸ htenant) (rows_ne_nil_of_entry hp))
      · cases hy
        exact absurd hstops (h.entry_of_job hknows hconcerns hrows)
    | _ => cases hstops
  | continues jobId =>
    refine h.carried.releases hkeep (fun J ws A x hx => by cases hx) fun y ws hy hconcerns _ => ?_
    cases hy
    cases hstops.symm.trans hconcerns
  | decides ws => exact hcompletes ws rfl fun _ => hstops
  | opensPostCollect ws collected =>
    apply hcompletes ws rfl
    intro hrows
    have hfound := hguard hrows
    rw [hstops] at hfound
    cases hfound
  | enqueuesPostCollect job =>
    apply hcompletes _ rfl
    intro hrows
    cases hstops.symm.trans (hguard hrows)
  | postCollects ws success =>
    apply hcompletes ws rfl
    intro hrows
    obtain hopen | hfailed := hstops
    · exact hopen
    · by_contra hdone
      cases hfailed.symm.trans (hguard hrows (Bool.eq_true_of_not_eq_false hdone))
  | _ => cases hstops

end Found

/-! ## One move of a call -/

section Resume

variable [DecidableEq ι] {s : DispatcherRun ι} {i : ι} {raises : Bool} {q : Phase} {e : Dispatcher}

theorem clearing_update_iff {ws : WorkspaceId} : Clearing (Function.update s.phase i q) ws ↔
    q.clearing = some ws ∨ ∃ j, j ≠ i ∧ (s.phase j).clearing = some ws :=
  Function.exists_update_iff s.phase (p := fun _ r => r.clearing = some ws)

theorem clearing_update_same (h : q.clearing = (s.phase i).clearing) :
    Clearing (Function.update s.phase i q) = Clearing s.phase := by
  funext ws
  rw [clearing_update_iff, h, ← clearing_update_iff, Function.update_eq_self]

theorem clearing_update_none (h : (s.phase i).clearing = none) {ws : WorkspaceId} :
    Clearing (Function.update s.phase i q) ws ↔ q.clearing = some ws ∨ Clearing s.phase ws := by
  rw [clearing_update_iff]
  refine or_congr_right ⟨fun ⟨j, _, hj⟩ => ⟨j, hj⟩, fun ⟨j, hj⟩ => ⟨j, fun hji => ?_, hj⟩⟩
  rw [hji, h] at hj
  cases hj

/-- **What a call writes leaves the keys tidy.** -/
theorem Tracking.writes (h : Tracking s) (hguard : (s.phase i).KeepsRunning s raises)
    (hgoes : Goes raises s.dispatcher (s.phase i) q e) :
    Later (Clearing s.phase) s.dispatcher.collects s.dispatcher.world.nextUuid e.collects e.world.nextUuid ∧
      e.collects.Tidy e.world.nextUuid (Clearing (Function.update s.phase i q)) := by
  have hknows := h.knows i
  have hsame : q.clearing = (s.phase i).clearing →
      e.collects.Tidy e.world.nextUuid (Clearing s.phase) → e.collects.Tidy e.world.nextUuid
        (Clearing (Function.update s.phase i q)) := by
    intro hq htidy
    rw [clearing_update_same hq]
    exact htidy
  generalize hp : s.phase i = p at hgoes hguard hknows hsame
  cases hgoes with
  | @tracks t info db =>
    have hfree : ¬Clearing s.phase t.account.workspaceId := fun ⟨j, hj⟩ => hguard j hj
    exact ⟨later_track h.tidy hfree, hsame rfl (h.tidy.track hfree)⟩
  | stores => exact ⟨later_of_jobs _ rfl rfl (Nat.le_refl _), hsame rfl (h.tidy.setProgress hknows.2.1 hguard)⟩
  | @deletesProgress ws =>
    refine ⟨later_of_jobs _ rfl rfl (Nat.le_refl _), h.tidy.deleteProgress fun ws' => ?_⟩
    rw [clearing_update_none (by rw [hp]; rfl), or_comm]
    exact or_congr_right (Option.some_inj.trans eq_comm)
  | deletesJob => exact ⟨later_deleteJobTenant _, hsame rfl h.tidy.deleteJobTenant⟩
  | @deletesJobs ws afterwards =>
    have hnone : ∀ J, s.dispatcher.collects.jobTenant J ≠ some ws := fun J hJ => List.not_mem_nil (hknows.1 J hJ)
    refine ⟨later_deleteJobs _ hnone, h.tidy.deleteJobs hnone (fun ws' hws' => ?_) fun ws' ⟨j, hj⟩ hne => ?_⟩
    · rw [clearing_update_iff, Phase.clearing_returning] at hws'
      obtain hws' | ⟨j, -, hj⟩ := hws'
      · cases hws'
      · exact ⟨j, hj⟩
    · refine clearing_update_iff.2 (Or.inr ⟨j, ?_, hj⟩)
      rintro rfl
      rw [hp] at hj
      exact hne (Option.some.inj hj).symm
  | readsTier hlater => exact ⟨later_of_jobs _ rfl rfl hlater, hsame rfl (h.tidy.later hlater)⟩
  | waits => exact ⟨later_of_jobs _ rfl rfl (Nat.le_refl _), hsame (Phase.clearing_returning _ _) h.tidy⟩
  | stops hstops =>
    refine ⟨later_of_jobs _ rfl rfl (Nat.le_refl _), hsame ?_ h.tidy⟩
    cases p with
    | completes => cases hstops
    | _ => rfl
  | _ => exact ⟨later_of_jobs _ rfl rfl (Nat.le_refl _), hsame rfl h.tidy⟩

theorem Tracking.resumes (h : Tracking s) (hguard : (s.phase i).KeepsRunning s raises)
    (hgoes : Goes raises s.dispatcher (s.phase i) q e) {reports : List (DomainEvent × CollectState)} :
    Tracking ⟨e, s.inFlight, Function.update s.phase i q, reports⟩ := by
  obtain ⟨hlater, htidy⟩ := h.writes hguard hgoes
  refine ⟨htidy, fun job hjob => ?_, fun job m failed hx => ?_, ?_⟩
  · -- a job is enqueued by the call that has tracked it
    obtain hold | ⟨t, hi⟩ : job ∈ s.dispatcher.collectQueue ∨ ∃ t, s.phase i = .triggers t (.enqueues job) := by
      generalize s.phase i = p at hgoes
      cases hgoes with
      | enqueues =>
        obtain hold | hnew := List.mem_append.1 hjob
        · exact Or.inl hold
        · exact Or.inr ⟨_, by rw [List.mem_singleton.1 hnew]⟩
      | _ => exact Or.inl hjob
    · exact (h.queued job hold).later hlater
    · have hknown := h.knows i
      rw [hi] at hknown
      exact Known.later hknown hlater
  · exact (h.inFlight job m failed hx).imp_right fun hknown => hknown.later hlater
  · exact (Function.forall_update_iff s.phase (p := fun _ r => r.Knows e.collects e.world.nextUuid)).2
      ⟨hgoes.known (h.knows i) h.tidy, fun j _ => (h.knows j).later hlater fun ws hj => ⟨j, hj⟩⟩

theorem Pends.stays {inFlight : List Finished} {reports : List (DomainEvent × CollectState)} {j : ι} {x : Pending}
    (hj : (s.phase j).pending = some x) (hother : (s.phase i).pending ≠ some x) :
    Pends ⟨e, inFlight, Function.update s.phase i q, reports⟩ x := by
  have hji : j ≠ i := by
    rintro rfl
    exact hother hj
  apply Pends.called (i := j)
  dsimp only
  rw [Function.update_of_ne hji]
  exact hj

theorem Pends.update (hqueue : ∀ job ∈ s.dispatcher.collectQueue, job ∈ e.collectQueue)
    (hpost : ∀ job ∈ s.dispatcher.postCollectQueue, job ∈ e.postCollectQueue)
    {reports : List (DomainEvent × CollectState)} {x : Pending} (hx : Pends s x)
    (hother : (s.phase i).pending ≠ some x) :
    Pends ⟨e, s.inFlight, Function.update s.phase i q, reports⟩ x := by
  cases hx with
  | queued hjob => exact .queued (hqueue _ hjob)
  | postQueued hjob => exact .postQueued (hpost _ hjob)
  | inFlight hx => exact .inFlight hx
  | called hj => exact .stays hj hother

theorem Pends.next {inFlight : List Finished} {reports : List (DomainEvent × CollectState)} {x : Pending}
    (hx : q.pending = some x) : Pends ⟨e, inFlight, Function.update s.phase i q, reports⟩ x := by
  apply Pends.called (i := i)
  dsimp only
  rw [Function.update_self]
  exact hx

/-- **What the call was about to do is done, or handed on.** -/
theorem Live.hands_on (h : Live s) (hguard : (s.phase i).KeepsRunning s raises)
    (hgoes : Goes raises s.dispatcher (s.phase i) q e) {reports : List (DomainEvent × CollectState)} :
    e.collects.Carried (Pends ⟨e, s.inFlight, Function.update s.phase i q, reports⟩) := by
  have hkeep : (∀ job ∈ s.dispatcher.collectQueue, job ∈ e.collectQueue) →
      (∀ job ∈ s.dispatcher.postCollectQueue, job ∈ e.postCollectQueue) → ∀ x, Pends s x →
        (s.phase i).pending ≠ some x →
      Pends ⟨e, s.inFlight, Function.update s.phase i q, reports⟩ x := fun hqueue hpost _ => Pends.update hqueue hpost
  have hsame : (∀ job ∈ s.dispatcher.collectQueue, job ∈ e.collectQueue) →
      (∀ job ∈ s.dispatcher.postCollectQueue, job ∈ e.postCollectQueue) →
      (∀ x, (s.phase i).pending = some x → q.pending = some x) →
      ∀ x, Pends s x → Pends ⟨e, s.inFlight, Function.update s.phase i q, reports⟩ x := by
    intro hqueue hpost hq x hx
    by_cases hi : (s.phase i).pending = some x
    · exact .next (hq x hi)
    · exact hx.update hqueue hpost hi
  have hknows := h.knows i
  have hloses := fun m a => h.not_loses (i := i) (m := m) (a := a)
  have hcleared := h.tidy.cleared
  have hstopped : ∀ pending : Pending → Prop, (s.phase i).Stops raises s.dispatcher →
      (∀ x, Pends s x → (s.phase i).pending ≠ some x → pending x) → s.dispatcher.collects.Carried pending :=
    fun _ hstops hleft => h.stops hguard hstops hleft
  generalize hp : s.phase i = p at hgoes hguard hknows hkeep hsame hloses hstopped
  cases hgoes with
  | stops hstops => exact hstopped _ hstops (hkeep (fun _ => id) fun _ => id)
  | @tracks t info db =>
    exact h.carried.track h.tidy (hsame (fun _ => id) (fun _ => id) fun x hx => by cases hx) (.next rfl)
  | @enqueues t job hraises =>
    refine h.carried.releases (x := some (.result job.jobId))
      (fun y hy hne => hkeep (fun _ => List.mem_append_left _) (fun _ => id) y hy hne)
      (fun J ws A p hx _ _ _ => ?_) fun y ws hy hconcerns _ => Or.inl ⟨y, ?_, hconcerns⟩
    · cases hx
      exact .queued (List.mem_append_right _ (List.mem_singleton.2 rfl))
    · cases hy
      exact .queued (List.mem_append_right _ (List.mem_singleton.2 rfl))
  | @loses m a hlost =>
    refine h.carried.releases (x := some (.result m.jobId))
      (fun y hy hne => hkeep (fun _ => id) (fun _ => id) y hy hne) (fun J ws A p hx hentry hopen hJ => ?_)
      fun y ws hy hconcerns _ => Or.inl ⟨.decision m.jobId, .next rfl, ?_⟩
    · cases hx
      exact absurd hlost (hloses m a rfl hentry hopen hJ)
    · cases hy
      exact hconcerns
  | @stores m ws A p =>
    exact h.carried.setProgress hknows.2.2 hknows.1 hguard
      (fun y hy hne => hkeep (fun _ => id) (fun _ => id) y hy hne) (.next rfl)
  | @knows jobId ws hJ =>
    refine h.carried.releases (x := some (.decision jobId))
      (fun y hy hne => hkeep (fun _ => id) (fun _ => id) y hy hne) (fun J ws A p hx _ _ _ => by cases hx)
      fun y ws' hy hconcerns _ => Or.inl ⟨.completion ws, .next rfl, ?_⟩
    cases hy
    exact Option.some.inj (hJ.symm.trans hconcerns)
  | @opensPostCollect ws collected db hdb =>
    refine h.carried.mono (hsame (fun _ => id) (fun _ => id) fun x hx => ?_)
    rw [← hx]
    exact congrArg (fun ws => some (Pending.completion ws)) (Table.key_of_find hdb)
  | @enqueuesPostCollect job hraises =>
    refine h.carried.releases (x := some (.completion job.db.workspaceId))
      (fun y hy hne => hkeep (fun _ => id) (fun _ => List.mem_append_left _) y hy hne)
      (fun J ws A p hx _ _ _ => by cases hx) fun y ws hy hconcerns _ => Or.inl ⟨y, ?_, hconcerns⟩
    cases hy
    exact .postQueued (List.mem_append_right _ (List.mem_singleton.2 rfl))
  | @waits ws afterwards hopen =>
    refine h.carried.releases (x := some (.completion ws))
      (fun y hy hne => hkeep (fun _ => id) (fun _ => id) y hy hne) (fun J ws A p hx _ _ _ => by cases hx)
      fun y ws' hy hconcerns _ => Or.inr ?_
    cases hy
    rw [← hconcerns]
    exact hopen
  | @deletesProgress ws =>
    exact h.carried.deleteProgress fun y hy hne => hkeep (fun _ => id) (fun _ => id) y hy hne
  | @deletesJob ws afterwards J jobIds =>
    exact h.carried.deleteJobTenant (hknows.2 J List.mem_cons_self) (hcleared ws ⟨i, by rw [hp]; rfl⟩)
      (hsame (fun _ => id) (fun _ => id) fun x hx => by cases hx)
  | @deletesJobs ws =>
    exact h.carried.deleteJobs (hcleared ws ⟨i, by rw [hp]; rfl⟩)
      (hsame (fun _ => id) (fun _ => id) fun x hx => by cases hx)
  | _ => exact h.carried.mono (hsame (fun _ => id) (fun _ => id) fun x hx => hx)

end Resume

/-! ## Every move -/

theorem Answers.finishing {job : CollectJob} {m : JobMessage} {failed : Bool} (h : Answers job m failed = true) :
    (finishing m failed).isIdle = false := by
  unfold Answers at h
  rw [Bool.and_eq_true, Bool.and_eq_true] at h
  have hended := h.1.2
  unfold finishResult at hended
  unfold DispatcherService.finishing
  cases hfailure : JobMessage.failure m failed with
  | some error => rfl
  | none =>
    rw [hfailure] at hended
    cases htask : m.taskId with
    | none =>
      rw [htask] at hended
      cases hended
    | some taskId =>
      cases hresult : m.result with
      | none =>
        rw [htask, hresult] at hended
        cases hended
      | some r =>
        cases hduration : m.duration with
        | none =>
          rw [htask, hresult, hduration] at hended
          cases hended
        | some duration => rfl

theorem Answers.workspace {job : CollectJob} {m : JobMessage} {failed : Bool} (h : Answers job m failed = true)
    {r : CollectResult} (hr : m.result = some r) : r.tenantId = job.request.db.workspaceId := by
  unfold Answers at h
  rw [Bool.and_eq_true, hr] at h
  exact eq_of_beq h.2

section Moves

variable {s : DispatcherRun ι}

theorem Tracking.received (h : Tracking s) {x : Finished} (hx : x ∈ s.inFlight) :
    (received x.message).pending = some x.pending ∧ (received x.message).clearing = none ∧
      (received x.message).Knows s.dispatcher.collects s.dispatcher.world.nextUuid := by
  obtain hq | ⟨job, success, rfl, hq⟩ | ⟨job, m, failed, error, rfl, hq⟩ | ⟨job, m, failed, c, rfl, hq, hr⟩ :=
    received_cases x
  · cases x with
    | postCollect job success => cases hq
    | collect job m failed =>
      have hidle : (finishing m failed).isIdle = true := by
        cases failed
        all_goals exact (congrArg Phase.isIdle hq).trans rfl
      cases (Answers.finishing (h.inFlight job m failed hx).1).symm.trans hidle
  · rw [hq]
    exact ⟨rfl, rfl, trivial⟩
  · obtain ⟨hanswers, hknown⟩ := h.inFlight job m failed hx
    rw [← Answers.jobId hanswers] at hknown
    rw [hq]
    exact ⟨congrArg (fun J => some (Pending.result J)) (Answers.jobId hanswers), rfl, _, hknown⟩
  · obtain ⟨hanswers, hknown⟩ := h.inFlight job m failed hx
    rw [← Answers.jobId hanswers, ← Answers.workspace hanswers hr] at hknown
    rw [hq]
    exact ⟨congrArg (fun J => some (Pending.result J)) (Answers.jobId hanswers), rfl, hknown⟩

theorem Phase.of_idle {p : Phase} (h : p.isIdle = true) : p.pending = none ∧ p.clearing = none := by
  cases p with
  | idle => exact ⟨rfl, rfl⟩
  | _ => cases h

theorem Pends.mono {s' : DispatcherRun ι} {x : Pending} (hx : Pends s x)
    (hqueue : ∀ job ∈ s.dispatcher.collectQueue, Pends s' (.result job.jobId))
    (hpost : ∀ job ∈ s.dispatcher.postCollectQueue, Pends s' (.completion job.db.workspaceId))
    (hflight : ∀ x ∈ s.inFlight, Pends s' x.pending) (hphase : s'.phase = s.phase) : Pends s' x := by
  cases hx with
  | queued hjob => exact hqueue _ hjob
  | postQueued hjob => exact hpost _ hjob
  | inFlight hx => exact hflight _ hx
  | @called i x hi => exact .called (i := i) (hphase ▸ hi)

variable [DecidableEq ι]

theorem Live.starts (h : Live s) {i : ι} {q : Phase} {inFlight : List Finished} (hidle : (s.phase i).isIdle = true)
    (hclearing : q.clearing = none) (hknows : q.Knows s.dispatcher.collects s.dispatcher.world.nextUuid)
    (hflight : ∀ x ∈ inFlight, x ∈ s.inFlight)
    (hpending : ∀ x ∈ s.inFlight, x ∈ inFlight ∨ q.pending = some x.pending) :
    Live { s with inFlight := inFlight, phase := Function.update s.phase i q } := by
  obtain ⟨hnone, hclear⟩ := Phase.of_idle hidle
  have hsame : Clearing (Function.update s.phase i q) = Clearing s.phase :=
    clearing_update_same (hclearing.trans hclear.symm)
  refine ⟨⟨?_, h.queued, fun job m failed hx => h.inFlight job m failed (hflight _ hx), ?_⟩, ?_⟩
  · rw [hsame]
    exact h.tidy
  · exact (Function.forall_update_iff s.phase
      (p := fun _ r => r.Knows s.dispatcher.collects s.dispatcher.world.nextUuid)).2 ⟨hknows, fun j _ => h.knows j⟩
  · apply h.carried.mono
    intro x hx
    cases hx with
    | queued hjob => exact .queued hjob
    | postQueued hjob => exact .postQueued hjob
    | @inFlight x hx =>
      obtain hleft | hq := hpending x hx
      · exact .inFlight hleft
      · exact .next hq
    | @called j x hj =>
      apply Pends.stays hj
      rw [hnone]
      intro hsome
      cases hsome

theorem Live.moves (h : Live s) {move : DispatcherMove ι} (hguard : KeepsRunning s move) {s' : DispatcherRun ι}
    (hstep : dispatcherStep s move = some s') : Live s' := by
  cases move with
  | trigger i t =>
    obtain ⟨hidle, rfl⟩ := triggered hstep
    exact h.starts hidle rfl trivial (fun _ => id) fun _ => Or.inl
  | deliver i x again =>
    obtain ⟨hidle, hx, rfl⟩ := delivered hstep
    obtain ⟨hpending, hclearing, hknows⟩ := h.received hx
    refine h.starts hidle hclearing hknows (fun y hy => ?_) fun y hy => ?_
    · cases again with
      | true => exact hy
      | false => exact List.mem_of_mem_erase hy
    · cases again with
      | true => exact Or.inl hy
      | false =>
        by_cases hsame : y = x
        · exact Or.inr (hsame ▸ hpending)
        · exact Or.inl ((List.mem_erase_of_ne hsame).2 hy)
  | resume i raises =>
    obtain ⟨q, e, hgoes, rfl⟩ := resumed hstep
    exact ⟨h.resumes hguard hgoes, h.hands_on hguard hgoes⟩
  | finish job m failed =>
    obtain ⟨hjob, hanswers, rfl⟩ := finished hstep
    refine ⟨⟨h.tidy, fun job' hjob' => h.queued job' (List.mem_of_mem_erase hjob'), fun job' m' failed' hx => ?_,
      h.knows⟩,
      h.carried.mono fun y hy => hy.mono (fun job' hjob' => ?_) (fun _ hpost => .postQueued hpost) (fun x hx => ?_) rfl⟩
    · obtain hold | hnew := List.mem_append.1 hx
      · exact h.inFlight job' m' failed' hold
      · cases List.mem_singleton.1 hnew
        exact ⟨hanswers, h.queued job hjob⟩
    · by_cases hsame : job' = job
      · rw [hsame]
        exact .inFlight (x := .collect job m failed) (List.mem_append_right _ (List.mem_singleton.2 rfl))
      · exact .queued ((List.mem_erase_of_ne hsame).2 hjob')
    · exact .inFlight (List.mem_append_left _ hx)
  | finishPostCollect job success =>
    obtain ⟨hjob, rfl⟩ := finishedPostCollect hstep
    refine ⟨⟨h.tidy, h.queued, fun job' m' failed' hx => ?_, h.knows⟩,
      h.carried.mono fun y hy => hy.mono (fun _ hqueued => .queued hqueued) (fun job' hjob' => ?_) (fun x hx => ?_) rfl⟩
    · obtain hold | hnew := List.mem_append.1 hx
      · exact h.inFlight job' m' failed' hold
      · cases List.mem_singleton.1 hnew
    · by_cases hsame : job' = job
      · rw [hsame]
        exact .inFlight (x := .postCollect job success) (List.mem_append_right _ (List.mem_singleton.2 rfl))
      · exact .postQueued ((List.mem_erase_of_ne hsame).2 hjob')
    · exact .inFlight (List.mem_append_left _ hx)
  | surroundings x =>
    cases hstep
    exact ⟨⟨h.tidy, h.queued, h.inFlight, h.knows⟩, h.carried.mono fun y hy =>
      hy.mono (fun _ hqueued => .queued hqueued) (fun _ hpost => .postQueued hpost) (fun _ hx => .inFlight hx) rfl⟩

end Moves

/-! ## Every run -/

theorem live_begin (d : Dispatcher) : Live (DispatcherRun.begin d : DispatcherRun ι) := by
  refine ⟨⟨⟨?_, ?_, ?_, ?_⟩, ?_, ?_, fun _ => trivial⟩, ?_, ?_⟩
  · intro ws J A hA
    cases hA
  · intro ws A p hp
    cases hp
  · intro J ws hJ
    cases hJ
  · rintro ws ⟨i, hi⟩
    cases hi
  · intro job hjob
    cases hjob
  · intro job m failed hx
    cases hx
  · intro ws A p hp
    cases hp
  · exact fun ws hrows => absurd rfl hrows

/-- **No run is ever stuck**, as long as no call leaves the run of a workspace behind. -/
theorem notStuck_of_keepsRunning [DecidableEq ι] (d : Dispatcher) {moves : List (DispatcherMove ι)}
    {s : DispatcherRun ι}
    (hguard : Along dispatcherStep KeepsRunning (DispatcherRun.begin d) moves)
    (hrun : run dispatcherStep (DispatcherRun.begin d) moves = some s) : NotStuck s := by
  have hlive : Live s := run_along (fun s move s' hs hmove hstep => hs.moves hmove hstep) (live_begin d) hguard hrun
  exact hlive.notStuck

/-! ## A post-collect that fails -/

section Guard

variable [Fintype ι]

instance (s : DispatcherRun ι) (raises : Bool) (p : Phase) : Decidable (p.KeepsRunning s raises) :=
  match p with
  | .triggers t (.tracks _ _) => inferInstanceAs (Decidable (∀ i, (s.phase i).clearing ≠ some t.account.workspaceId))
  | .triggers _ (.enqueues _) => inferInstanceAs (Decidable (raises = false))
  | .finishes _ (.stores workspaceId _ _) =>
    inferInstanceAs (Decidable ((s.dispatcher.collects.progress workspaceId).rows ≠ []))
  | .opensPostCollect workspaceId _ =>
    inferInstanceAs (Decidable ((s.dispatcher.collects.progress workspaceId).rows ≠ [] →
      (s.dispatcher.databaseAccess.find workspaceId).isSome = true))
  | .enqueuesPostCollect job =>
    inferInstanceAs (Decidable ((s.dispatcher.collects.progress job.db.workspaceId).rows ≠ [] → raises = false))
  | .postCollects workspaceId success =>
    inferInstanceAs (Decidable ((s.dispatcher.collects.progress workspaceId).rows ≠ [] →
      (s.dispatcher.collects.progress workspaceId).allDone = true → success = true))
  | .triggers _ .checks | .triggers _ .loads | .triggers _ (.opens _)
  | .finishes _ (.findsWorkspace _) | .finishes _ (.findsJob _ _) | .finishes _ (.findsEntry _ _ _)
  | .finishes _ (.readsTier _) | .finishes _ (.meters _ _) | .finishes _ (.findsOwnJob _ _)
  | .finishes _ (.findsOwnEntry _ _ _) | .finishes _ (.readsState _ _ _) | .idle | .continues _ | .decides _
  | .completes _ _ _ => isTrue trivial

instance (s : DispatcherRun ι) (move : DispatcherMove ι) : Decidable (KeepsRunning s move) :=
  match move with
  | .resume i raises => inferInstanceAs (Decidable ((s.phase i).KeepsRunning s raises))
  | .trigger _ _ | .deliver _ _ _ | .finish _ _ _ | .finishPostCollect _ _ | .surroundings _ => isTrue trivial

end Guard

/-- An account is collected, and the job that follows is enqueued. -/
def awaitsPostCollect : List (DispatcherMove Bool) :=
  .trigger false (awsTrigger 21 .regularCollect) :: List.replicate 5 (.resume false false) ++
  [.finish awsJob awsDone false, .deliver false (.collect awsJob awsDone false) false] ++
  List.replicate 10 (.resume false false)

def onePostCollect : PostCollectJob := ⟨oneDatabase, [⟨.aws, "123456789012", "task-100"⟩]⟩

def failsPostCollect : List (DispatcherMove Bool) :=
  awaitsPostCollect ++ [.finishPostCollect onePostCollect false,
    .deliver false (.postCollect onePostCollect false) false, .resume false false]

def stuckRun : DispatcherRun Bool :=
  (run dispatcherStep (DispatcherRun.begin twoTracked) failsPostCollect).get (by decide +kernel)

/-- The entry of the account stays, and nothing is out that could complete its run. -/
theorem failsPostCollect_stuck : run dispatcherStep (DispatcherRun.begin twoTracked) failsPostCollect = some stuckRun ∧
    ¬NotStuck stuckRun := by
  refine ⟨(Option.some_get _).symm, fun h => ?_⟩
  have hidle : ∀ i, (stuckRun.phase i).isIdle = true := by decide +kernel
  have hrows : (stuckRun.dispatcher.collects.progress 1).rows ≠ [] := by decide +kernel
  have hqueue : stuckRun.dispatcher.collectQueue = [] := by decide +kernel
  have hpost : stuckRun.dispatcher.postCollectQueue = [] := by decide +kernel
  have hflight : stuckRun.inFlight = [] := by decide +kernel
  obtain ⟨job, hjob, -⟩ | ⟨job, hjob, -⟩ | ⟨x, hx, -⟩ := h hidle 1 hrows
  · rw [hqueue] at hjob
    cases hjob
  · rw [hpost] at hjob
    cases hjob
  · rw [hflight] at hx
    cases hx

def postCollectingRun : DispatcherRun Bool :=
  (run dispatcherStep (DispatcherRun.begin twoTracked) awaitsPostCollect).get (by decide +kernel)

theorem awaitsPostCollect_notStuck : NotStuck postCollectingRun := by
  have hguard : Along dispatcherStep KeepsRunning (DispatcherRun.begin twoTracked)
      awaitsPostCollect := by decide +kernel
  exact notStuck_of_keepsRunning twoTracked hguard (Option.some_get _).symm

end DispatcherService

end Fix
