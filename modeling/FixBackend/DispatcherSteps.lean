import FixBackend.CollectRuns
import FixBackend.Machine
/-!
# DispatcherSteps — the dispatcher taken apart at its awaits

`trigger_collect` and the handlers of the collect messages, each as the await that it is at with the local variables
that are used later.  The calls go on in any order, so what a call has read may be different when it writes.  A job
that ends is answered with one message, and a message may be delivered again.
-/
namespace Fix

open Calendar Effects Machine

namespace DispatcherService

/-! ## The awaits of a call -/

structure TriggerCall where
  account : CloudAccount
  reason : CollectReason
  deferBy : Option Nat
  retryFailedFor : Option Nat
  collectMicrosoftGraph : Bool

inductive TriggerAwait where
  | checks
  | loads
  | opens (info : AccountInformation)
  | tracks (info : AccountInformation) (db : GraphDatabaseAccess)
  | enqueues (job : CollectJob)

/-- What `handle_success` reads from its message. -/
structure Collected where
  taskId : TaskId
  duration : Nat
  result : CollectResult

/-- Of `handle_error` with `mark_job_as_failed`, and of `handle_success` with `mark_account_as_collected`. -/
inductive FinishAwait where
  | findsWorkspace (error : String)
  | findsJob (error : String) (workspaceId : WorkspaceId)
  | findsEntry (error : String) (workspaceId : WorkspaceId) (accountId : FixCloudAccountId)
  | readsTier (c : Collected)
  | meters (c : Collected) (records : List MeteringRecord)
  | findsOwnJob (c : Collected) (resources : Nat)
  | findsOwnEntry (c : Collected) (resources : Nat) (accountId : FixCloudAccountId)
  | readsState (c : Collected) (resources : Nat) (accountId : FixCloudAccountId)
  | stores (workspaceId : WorkspaceId) (accountId : FixCloudAccountId) (p : AccountCollectProgress)

/-- Of `complete_collect_job` with `delete_tenant_collect_state`. -/
inductive CompleteAwait where
  | reads
  | asksNextRun (state : CollectState)
  | publishes (state : CollectState) (event : DomainEvent)
  | deletesProgress (state : CollectState) (event : Option DomainEvent)
  | listsJobs
  | deletesJobs (jobIds : List JobId)

/-- Where a call is.  `complete_collect_job` is told what its caller posts afterwards. -/
inductive Phase where
  | idle
  | triggers (t : TriggerCall) (a : TriggerAwait)
  | finishes (m : JobMessage) (a : FinishAwait)
  | continues (jobId : JobId)
  | decides (workspaceId : WorkspaceId)
  | opensPostCollect (workspaceId : WorkspaceId) (collected : List PostCollectAccountInfo)
  | enqueuesPostCollect (job : PostCollectJob)
  | postCollects (workspaceId : WorkspaceId) (success : Bool)
  | completes (workspaceId : WorkspaceId) (afterwards : Option (List PostCollectAccountInfo)) (a : CompleteAwait)

/-! ## From one await to the next -/

def tracked (t : TriggerCall) (info : AccountInformation) (db : GraphDatabaseAccess) : Dispatching CollectJob := do
  let jobId ← inWorld uuid4
  let now ← inWorld utc
  trackAccountCollectionProgress t.account.workspaceId t.account.id info jobId now
  return ⟨jobId, db, info, t.deferBy, t.retryFailedFor, t.account.id, t.reason⟩

/-- The tier of the workspace is read, and the metering records are made. -/
def recordsOf (m : JobMessage) (c : Collected) : Service (List MeteringRecord) := do
  let tier ← tierOrFree c.result.tenantId
  c.result.accountInfo.mapM fun (accountId, details) =>
    meteringRecord m c.taskId c.duration c.result tier accountId details

def completionEvent (workspaceId : WorkspaceId) (state : CollectState) (nextRun : Option DateTime) :
    Option DomainEvent :=
  if (collectedSuccess state).isEmpty = false then
    some (.tenantAccountsCollected workspaceId (collectedSuccess state) (collectedFailed state) nextRun)
  else if (collectedFailed state).isEmpty = false then
    some (.tenantAccountsCollectFailed workspaceId (collectedFailed state) nextRun)
  else none

/-- `trigger_collect`; `raises` says that the queue does not take the job. -/
def TriggerAwait.go (t : TriggerCall) (raises : Bool) (d : Dispatcher) : TriggerAwait → Phase × Dispatcher
  | checks =>
    if (d.collects.accountCollectState t.account.workspaceId t.account.id).isSome then (.idle, d)
    else (.triggers t loads, d)
  | loads =>
    match accountInformation t.account t.collectMicrosoftGraph d with
    | some info => (.triggers t (opens info), d)
    | none => (.idle, d)
  | opens info =>
    match d.databaseAccess.find t.account.workspaceId with
    | some db => (.triggers t (tracks info db), d)
    | none => (.idle, d)
  | tracks info db => awaits (tracked t info db) (fun _ => .idle) (fun job => .triggers t (enqueues job)) d
  | enqueues job => if raises then (.idle, d) else awaits (enqueue job) (fun _ => .idle) (fun _ => .idle) d

def FinishAwait.go (m : JobMessage) (d : Dispatcher) : FinishAwait → Phase × Dispatcher
  | findsWorkspace error =>
    match d.collects.jobTenant m.jobId with
    | some workspaceId => (.finishes m (findsJob error workspaceId), d)
    | none => (.continues m.jobId, d)
  | findsJob error workspaceId =>
    match d.collects.jobAccount workspaceId m.jobId with
    | some accountId => (.finishes m (findsEntry error workspaceId accountId), d)
    | none => (.continues m.jobId, d)
  | findsEntry error workspaceId accountId =>
    match d.collects.accountCollectState workspaceId accountId with
    | some state =>
      (.finishes m (stores workspaceId state.cloudAccountId (state.failed error (m.duration.getD 0) m.taskId)), d)
    | none => (.continues m.jobId, d)
  | readsTier c => awaits (inWorld (recordsOf m c)) (fun _ => .idle) (fun records => .finishes m (meters c records)) d
  | meters c records =>
    (.finishes m (findsOwnJob c (records.map (·.nrOfResourcesCollected)).sum),
      { d with metering := d.metering ++ records })
  | findsOwnJob c resources =>
    match d.collects.jobAccount c.result.tenantId m.jobId with
    | some accountId => (.finishes m (findsOwnEntry c resources accountId), d)
    | none => (.continues m.jobId, d)
  | findsOwnEntry c resources accountId =>
    match d.collects.accountCollectState c.result.tenantId accountId with
    | some progress => (.finishes m (readsState c resources progress.cloudAccountId), d)
    | none => (.continues m.jobId, d)
  | readsState c resources accountId =>
    match d.collects.accountCollectState c.result.tenantId accountId with
    | some state =>
      (.finishes m (stores c.result.tenantId accountId (state.done resources c.duration c.taskId c.result.messages)), d)
    | none => (.idle, d)
  | stores workspaceId accountId p =>
    awaits (setProgress workspaceId accountId p) (fun _ => .idle) (fun _ => .continues m.jobId) d

def returning (workspaceId : WorkspaceId) : Option (List PostCollectAccountInfo) → Phase
  | some collected => .opensPostCollect workspaceId collected
  | none => .idle

def CompleteAwait.go (workspaceId : WorkspaceId) (afterwards : Option (List PostCollectAccountInfo)) (d : Dispatcher) :
    CompleteAwait → Phase × Dispatcher
  | reads =>
    if (d.collects.progress workspaceId).allDone = false then (returning workspaceId afterwards, d)
    else (.completes workspaceId afterwards (asksNextRun (d.collects.progress workspaceId)), d)
  | asksNextRun state =>
    awaits (inWorld (getNextScan workspaceId)) (fun _ => .idle) (fun nextRun =>
      match completionEvent workspaceId state nextRun with
      | some event => .completes workspaceId afterwards (publishes state event)
      | none => .completes workspaceId afterwards (deletesProgress state none)) d
  | publishes state event =>
    awaits (inWorld (publish event)) (fun _ => .idle)
      (fun _ => .completes workspaceId afterwards (deletesProgress state (some event))) d
  | deletesProgress _ _ =>
    (.completes workspaceId afterwards listsJobs, { d with collects := d.collects.deleteProgress workspaceId })
  | listsJobs =>
    (.completes workspaceId afterwards (deletesJobs ((d.collects.jobs workspaceId).rows.map Prod.fst)), d)
  | deletesJobs (jobId :: jobIds) =>
    (.completes workspaceId afterwards (deletesJobs jobIds), { d with collects := d.collects.deleteJobTenant jobId })
  | deletesJobs [] => (returning workspaceId afterwards, { d with collects := d.collects.deleteJobs workspaceId })

/-- **A call goes on** from the await it is at to the next one, or to its end. -/
def Phase.go (raises : Bool) (d : Dispatcher) : Phase → Phase × Dispatcher
  | idle => (idle, d)
  | triggers t a => a.go t raises d
  | finishes m a => a.go m d
  | continues jobId =>
    match d.collects.jobTenant jobId with
    | some workspaceId => (decides workspaceId, d)
    | none => (idle, d)
  | decides workspaceId =>
    let state := d.collects.progress workspaceId
    if state.allDone = false then (idle, d)
    else if state.allFailed then (completes workspaceId none .reads, d)
    else
      let collected := postCollectAccounts state
      if collected.isEmpty then (completes workspaceId (some collected) .reads, d)
      else (opensPostCollect workspaceId collected, d)
  | opensPostCollect workspaceId collected =>
    match d.databaseAccess.find workspaceId with
    | some db => (enqueuesPostCollect ⟨db, collected⟩, d)
    | none => (idle, d)
  | enqueuesPostCollect job => (idle, if raises then d else { d with postCollectQueue := d.postCollectQueue ++ [job] })
  | postCollects workspaceId success =>
    if (d.collects.progress workspaceId).allDone = false then (idle, d)
    else if success = false then (idle, d)
    else (completes workspaceId none .reads, d)
  | completes workspaceId afterwards a => a.go workspaceId afterwards d

/-- `collect_job_finished`; a message that lacks what its handler reads raises at once. -/
def finishing (m : JobMessage) (failed : Bool) : Phase :=
  match JobMessage.failure m failed with
  | some error => .finishes m (.findsWorkspace error)
  | none =>
    match m.taskId, m.result, m.duration with
    | some taskId, some r, some duration => .finishes m (.readsTier ⟨taskId, duration, r⟩)
    | _, _, _ => .idle

def received : CollectMessage → Phase
  | .postCollectDone workspaceId success => .postCollects workspaceId success
  | .collectDone m => finishing m false
  | .jobFailed m => finishing m true

/-! ## Calls in any order -/

/-- A job that ended, and what its worker says of it. -/
inductive Finished where
  | collect (job : CollectJob) (m : JobMessage) (failed : Bool)
  | postCollect (job : PostCollectJob) (success : Bool)
deriving DecidableEq

def Finished.message : Finished → CollectMessage
  | collect _ m failed => if failed then .jobFailed m else .collectDone m
  | postCollect job success => .postCollectDone job.db.workspaceId success

def Finished.workspaceId : Finished → WorkspaceId
  | collect job _ _ => job.request.db.workspaceId
  | postCollect job _ => job.db.workspaceId

/-- A worker answers with the id and the workspace of its job, and with what the handler reads. -/
def Answers (job : CollectJob) (m : JobMessage) (failed : Bool) : Bool :=
  m.jobId == job.jobId && (finishResult m failed).isSome &&
    m.result.all fun r => r.tenantId == job.request.db.workspaceId

/-- What the rest of the system changes under the dispatcher. -/
structure Surroundings where
  organizations : Organizations
  nextRuns : Table NextTenantRun.tenantId
  clock : Nat → DateTime
  serviceAccountKeys : GcpServiceAccountKeyId → Option String
  azureCredentials : AzureSubscriptionCredentialsId → Option AzureSubscriptionCredentials
  databaseAccess : Table GraphDatabaseAccess.workspaceId

def Surroundings.around (e : Surroundings) (d : Dispatcher) : Dispatcher :=
  { d with
    world := { d.world with organizations := e.organizations, nextRuns := e.nextRuns, clock := e.clock }
    serviceAccountKeys := e.serviceAccountKeys
    azureCredentials := e.azureCredentials
    databaseAccess := e.databaseAccess }

/-- The dispatcher with its calls.  The queues hold the jobs that are enqueued and not finished, `inFlight` holds the
messages that are not processed, and `reports` remembers the published events with the states that they report. -/
structure DispatcherRun (ι : Type) where
  dispatcher : Dispatcher
  inFlight : List Finished
  phase : ι → Phase
  reports : List (DomainEvent × CollectState)

inductive DispatcherMove (ι : Type) where
  | trigger (i : ι) (t : TriggerCall)
  | deliver (i : ι) (x : Finished) (again : Bool)
  | resume (i : ι) (raises : Bool)
  | finish (job : CollectJob) (m : JobMessage) (failed : Bool)
  | finishPostCollect (job : PostCollectJob) (success : Bool)
  | surroundings (e : Surroundings)

def Phase.reporting : Phase → List (DomainEvent × CollectState)
  | completes _ _ (.publishes state event) => [(event, state)]
  | _ => []

def Phase.isIdle : Phase → Bool
  | idle => true
  | _ => false

variable {ι : Type} [DecidableEq ι]

def dispatcherStep (s : DispatcherRun ι) : DispatcherMove ι → Option (DispatcherRun ι)
  | .trigger i t =>
    if (s.phase i).isIdle then some { s with phase := Function.update s.phase i (.triggers t .checks) } else none
  | .deliver i x again =>
    if (s.phase i).isIdle ∧ x ∈ s.inFlight then
      some { s with
        inFlight := if again then s.inFlight else s.inFlight.erase x
        phase := Function.update s.phase i (received x.message) }
    else none
  | .resume i raises =>
    if (s.phase i).isIdle then none
    else
      let (phase, d) := (s.phase i).go raises s.dispatcher
      some { s with
        dispatcher := d
        phase := Function.update s.phase i phase
        reports := s.reports ++ (s.phase i).reporting }
  | .finish job m failed =>
    if job ∈ s.dispatcher.collectQueue ∧ Answers job m failed then
      some { s with
        dispatcher := { s.dispatcher with collectQueue := s.dispatcher.collectQueue.erase job }
        inFlight := s.inFlight ++ [.collect job m failed] }
    else none
  | .finishPostCollect job success =>
    if job ∈ s.dispatcher.postCollectQueue then
      some { s with
        dispatcher := { s.dispatcher with postCollectQueue := s.dispatcher.postCollectQueue.erase job }
        inFlight := s.inFlight ++ [.postCollect job success] }
    else none
  | .surroundings e => some { s with dispatcher := e.around s.dispatcher }

/-- Nothing is tracked, enqueued or in flight, and no call is made. -/
def DispatcherRun.begin (d : Dispatcher) : DispatcherRun ι where
  dispatcher :=
    { d with
      collects := ⟨fun _ => default, fun _ => default, fun _ => none⟩
      collectQueue := []
      postCollectQueue := [] }
  inFlight := []
  phase := fun _ => .idle
  reports := []

/-! ## A call alone -/

/-- A call that goes on alone ends with the dispatcher `d'`. -/
inductive Ends : Dispatcher → Phase → Dispatcher → Prop
  | idle (d : Dispatcher) : Ends d .idle d
  | step {d d' : Dispatcher} {phase : Phase} (h : Ends (phase.go false d).2 (phase.go false d).1 d') : Ends d phase d'

theorem Ends.next {d e d' : Dispatcher} {p q : Phase} (hgo : p.go false d = (q, e)) (h : Ends e q d') :
    Ends d p d' := by
  refine .step ?_
  rw [hgo]
  exact h

/-- **A call of `trigger_collect` alone does what the function does.** -/
theorem ends_triggerCollect (t : TriggerCall) (d : Dispatcher) : Ends d (.triggers t .checks)
    (exec (triggerCollect t.account t.reason t.deferBy t.retryFailedFor t.collectMicrosoftGraph) d).2 := by
  unfold triggerCollect
  rw [exec_bind, exec_get]
  dsimp only
  by_cases hongoing : (d.collects.accountCollectState t.account.workspaceId t.account.id).isSome = true
  · rw [if_pos hongoing]
    exact .next (if_pos hongoing) (.idle d)
  · rw [if_neg hongoing]
    refine .next (if_neg hongoing) ?_
    cases hinfo : accountInformation t.account t.collectMicrosoftGraph d with
    | none => exact .next (q := .idle) (e := d) (by simp only [Phase.go, TriggerAwait.go, hinfo]) (.idle d)
    | some info =>
      refine .next (q := .triggers t (.opens info)) (e := d) (by simp only [Phase.go, TriggerAwait.go, hinfo]) ?_
      cases hdb : d.databaseAccess.find t.account.workspaceId with
      | none => exact .next (q := .idle) (e := d) (by simp only [Phase.go, TriggerAwait.go, hdb]) (.idle d)
      | some db =>
        refine .next (q := .triggers t (.tracks info db)) (e := d) (by simp only [Phase.go, TriggerAwait.go, hdb]) ?_
        exact .next rfl (.next rfl (.idle _))

theorem ends_triggerPostCollect (workspaceId : WorkspaceId) (collected : List PostCollectAccountInfo) (d : Dispatcher) :
    Ends d (.opensPostCollect workspaceId collected) (exec (triggerPostCollect workspaceId collected) d).2 := by
  unfold triggerPostCollect
  rw [exec_bind, exec_get]
  dsimp only
  cases hdb : d.databaseAccess.find workspaceId with
  | none => exact .next (q := .idle) (e := d) (by simp only [Phase.go, hdb]) (.idle d)
  | some db =>
    refine .next (q := .enqueuesPostCollect ⟨db, collected⟩) (e := d) (by simp only [Phase.go, hdb]) ?_
    exact .next rfl (.idle _)

theorem ends_deletesJobs (workspaceId : WorkspaceId) (afterwards : Option (List PostCollectAccountInfo))
    {d' : Dispatcher} :
    ∀ (jobIds : List JobId) (d : Dispatcher),
      Ends (exec (do
        jobIds.forM fun jobId => modify fun d => { d with collects := d.collects.deleteJobTenant jobId }
        modify fun d => { d with collects := d.collects.deleteJobs workspaceId } : Dispatching PUnit) d).2
        (returning workspaceId afterwards) d' →
      Ends d (.completes workspaceId afterwards (.deletesJobs jobIds)) d'
  | [], _, h => .next rfl h
  | _ :: jobIds, _, h => .next rfl (ends_deletesJobs workspaceId afterwards jobIds _ h)

theorem exec_sendDomainEvent_eq (workspaceId : WorkspaceId) (state : CollectState) (d : Dispatcher) :
    exec (sendDomainEvent workspaceId state) d =
      match completionEvent workspaceId state (nextScan d workspaceId) with
      | some event => exec (inWorld (publish event)) d
      | none => (.ok ⟨⟩, d) := by
  unfold sendDomainEvent completionEvent inWorld getNextScan
  rw [exec_bind, exec_embed, exec_bind, exec_get]
  dsimp only
  rw [exec_pure]
  dsimp only
  by_cases hsuccess : (collectedSuccess state).isEmpty = false
  · rw [if_pos hsuccess, if_pos hsuccess]
    rfl
  · rw [if_neg hsuccess, if_neg hsuccess]
    by_cases hfailed : (collectedFailed state).isEmpty = false
    · rw [if_pos hfailed, if_pos hfailed]
      rfl
    · rw [if_neg hfailed, if_neg hfailed]
      rfl

theorem go_asksNextRun (workspaceId : WorkspaceId) (afterwards : Option (List PostCollectAccountInfo)) (d : Dispatcher)
    (state : CollectState) : (CompleteAwait.asksNextRun state).go workspaceId afterwards d =
      (match completionEvent workspaceId state (nextScan d workspaceId) with
        | some event => .completes workspaceId afterwards (.publishes state event)
        | none => .completes workspaceId afterwards (.deletesProgress state none), d) := rfl

/-- **`complete_collect_job` alone does what the function does**, and hands on to what follows it. -/
theorem ends_completeCollectJob (workspaceId : WorkspaceId) (afterwards : Option (List PostCollectAccountInfo))
    {d d' : Dispatcher}
    (h : Ends (exec (completeCollectJob workspaceId) d).2 (returning workspaceId afterwards) d') :
    Ends d (.completes workspaceId afterwards .reads) d' := by
  unfold completeCollectJob at h
  rw [exec_bind, exec_get] at h
  dsimp only at h
  by_cases hopen : (d.collects.progress workspaceId).allDone = false
  · rw [if_pos hopen] at h
    exact .next (if_pos hopen) h
  · rw [if_neg hopen, exec_bind, exec_sendDomainEvent_eq] at h
    refine .next (if_neg hopen) ?_
    cases hevent : completionEvent workspaceId (d.collects.progress workspaceId) (nextScan d workspaceId) with
    | none =>
      rw [hevent] at h
      refine .next (q := .completes workspaceId afterwards (.deletesProgress (d.collects.progress workspaceId) none))
        (e := d) (by simp only [Phase.go, go_asksNextRun, hevent]) ?_
      exact .next rfl (.next rfl (ends_deletesJobs workspaceId afterwards _ _ h))
    | some event =>
      rw [hevent] at h
      refine .next (q := .completes workspaceId afterwards (.publishes (d.collects.progress workspaceId) event))
        (e := d) (by simp only [Phase.go, go_asksNextRun, hevent]) ?_
      exact .next rfl (.next rfl (.next rfl (ends_deletesJobs workspaceId afterwards _ _ h)))

/-- **`collect_job_finished` alone, when the result is stored**. -/
theorem ends_continueRun (jobId : JobId) (d : Dispatcher) : Ends d (.continues jobId)
    (exec (continueRun jobId) d).2 := by
  unfold continueRun
  rw [exec_bind, exec_get]
  dsimp only
  cases hworkspace : d.collects.jobTenant jobId with
  | none => exact .next (q := .idle) (e := d) (by simp only [Phase.go, hworkspace]) (.idle d)
  | some workspaceId =>
    refine .next (q := .decides workspaceId) (e := d) (by simp only [Phase.go, hworkspace]) ?_
    dsimp only
    by_cases hopen : (d.collects.progress workspaceId).allDone = false
    · rw [if_pos hopen]
      exact .next (if_pos hopen) (.idle d)
    · rw [if_neg hopen]
      by_cases hfailed : (d.collects.progress workspaceId).allFailed = true
      · rw [if_pos hfailed]
        refine .next ((if_neg hopen).trans (if_pos hfailed)) ?_
        exact ends_completeCollectJob workspaceId none (.idle _)
      · have hsome := postCollectAccounts_nonempty (Bool.eq_true_of_not_eq_false hopen) (Bool.eq_false_iff.2 hfailed)
        have hnot : ¬(postCollectAccounts (d.collects.progress workspaceId)).isEmpty = true := fun hempty =>
          hsome (List.isEmpty_iff.1 hempty)
        rw [if_neg hfailed, if_neg hnot]
        refine .next ((if_neg hopen).trans ((if_neg hfailed).trans (if_neg hnot))) ?_
        exact ends_triggerPostCollect workspaceId _ d

theorem ends_handleError (m : JobMessage) (error : String) (d : Dispatcher) :
    Ends d (.finishes m (.findsWorkspace error)) (exec (handleError m error >>= fun _ => continueRun m.jobId) d).2 := by
  unfold handleError markJobAsFailed
  rw [exec_bind, exec_bind, exec_get]
  dsimp only
  cases hworkspace : d.collects.jobTenant m.jobId with
  | none =>
    refine .next (q := .continues m.jobId) (e := d) (by simp only [Phase.go, FinishAwait.go, hworkspace]) ?_
    exact ends_continueRun m.jobId d
  | some workspaceId =>
    refine .next (q := .finishes m (.findsJob error workspaceId)) (e := d)
      (by simp only [Phase.go, FinishAwait.go, hworkspace]) ?_
    unfold accountCollectStateByJobId
    dsimp only
    cases haccount : d.collects.jobAccount workspaceId m.jobId with
    | none =>
      refine .next (q := .continues m.jobId) (e := d) (by simp only [Phase.go, FinishAwait.go, haccount]) ?_
      exact ends_continueRun m.jobId d
    | some accountId =>
      refine .next (q := .finishes m (.findsEntry error workspaceId accountId)) (e := d)
        (by simp only [Phase.go, FinishAwait.go, haccount]) ?_
      rw [Option.bind_some]
      cases hentry : d.collects.accountCollectState workspaceId accountId with
      | none =>
        refine .next (q := .continues m.jobId) (e := d) (by simp only [Phase.go, FinishAwait.go, hentry]) ?_
        exact ends_continueRun m.jobId d
      | some state =>
        refine .next (q := .finishes m (.stores workspaceId state.cloudAccountId
          (state.failed error (m.duration.getD 0) m.taskId))) (e := d)
          (by simp only [Phase.go, FinishAwait.go, hentry]) ?_
        exact .next rfl (ends_continueRun m.jobId _)

theorem exec_recordsOf (m : JobMessage) (c : Collected) (w : World) : ∃ records ticks nextUuid,
    exec (recordsOf m c) w = (.ok records, { w with ticks := ticks, nextUuid := nextUuid }) ∧
      w.nextUuid ≤ nextUuid := by
  obtain ⟨tier, ticks, htier⟩ := exec_tierOrFree c.result.tenantId w
  obtain ⟨records, ticks', nextUuid, hrecords, hlater, -⟩ :=
    exec_records m c.taskId c.duration c.result tier c.result.accountInfo { w with ticks := ticks }
  unfold recordsOf
  rw [exec_bind, htier]
  exact ⟨records, ticks', nextUuid, hrecords, hlater⟩

theorem exec_handleSuccess_eq {m : JobMessage} {c : Collected} (htask : m.taskId = some c.taskId)
    (hresult : m.result = some c.result) (hduration : m.duration = some c.duration) (d : Dispatcher) :
    exec (handleSuccess m) d = exec (do
      let records ← inWorld (recordsOf m c)
      modify fun d => { d with metering := d.metering ++ records }
      let d ← get
      match accountCollectStateByJobId d.collects c.result.tenantId m.jobId with
      | none => return
      | some progress =>
        markAccountAsCollected c.result.tenantId progress.cloudAccountId (records.map (·.nrOfResourcesCollected)).sum
          c.duration c.taskId c.result.messages : Dispatching PUnit) d := by
  obtain ⟨tier, ticks, htier⟩ := exec_tierOrFree c.result.tenantId d.world
  unfold handleSuccess recordsOf inWorld
  rw [htask, hresult, hduration]
  dsimp only
  rw [exec_bind, exec_embed, htier]
  dsimp only
  rewrite [exec_bind, exec_bind, exec_embed, exec_embed, exec_bind, htier]
  rfl

theorem ends_findsOwnJob (m : JobMessage) (c : Collected) (resources : Nat) (d : Dispatcher) :
    Ends d (.finishes m (.findsOwnJob c resources)) (exec ((do
      match accountCollectStateByJobId d.collects c.result.tenantId m.jobId with
      | none => return
      | some progress =>
        markAccountAsCollected c.result.tenantId progress.cloudAccountId resources c.duration c.taskId
          c.result.messages) >>=
      fun _ => continueRun m.jobId : Dispatching PUnit) d).2 := by
  unfold accountCollectStateByJobId
  cases haccount : d.collects.jobAccount c.result.tenantId m.jobId with
  | none =>
    refine .next (q := .continues m.jobId) (e := d) (by simp only [Phase.go, FinishAwait.go, haccount]) ?_
    exact ends_continueRun m.jobId d
  | some accountId =>
    refine .next (q := .finishes m (.findsOwnEntry c resources accountId)) (e := d)
      (by simp only [Phase.go, FinishAwait.go, haccount]) ?_
    rw [Option.bind_some]
    cases hentry : d.collects.accountCollectState c.result.tenantId accountId with
    | none =>
      refine .next (q := .continues m.jobId) (e := d) (by simp only [Phase.go, FinishAwait.go, hentry]) ?_
      exact ends_continueRun m.jobId d
    | some progress =>
      refine .next (q := .finishes m (.readsState c resources progress.cloudAccountId)) (e := d)
        (by simp only [Phase.go, FinishAwait.go, hentry]) ?_
      unfold markAccountAsCollected
      dsimp only
      rw [exec_bind, exec_bind, exec_get]
      dsimp only
      cases hstate : d.collects.accountCollectState c.result.tenantId progress.cloudAccountId with
      | none => exact .next (q := .idle) (e := d) (by simp only [Phase.go, FinishAwait.go, hstate]) (.idle d)
      | some state =>
        refine .next (q := .finishes m (.stores c.result.tenantId progress.cloudAccountId
          (state.done resources c.duration c.taskId c.result.messages))) (e := d)
          (by simp only [Phase.go, FinishAwait.go, hstate]) ?_
        exact .next rfl (ends_continueRun m.jobId _)

theorem ends_handleSuccess {m : JobMessage} {c : Collected} (htask : m.taskId = some c.taskId)
    (hresult : m.result = some c.result) (hduration : m.duration = some c.duration) (d : Dispatcher) :
    Ends d (.finishes m (.readsTier c)) (exec (handleSuccess m >>= fun _ => continueRun m.jobId) d).2 := by
  obtain ⟨records, ticks, nextUuid, hrecords, -⟩ := exec_recordsOf m c d.world
  rw [exec_bind, exec_handleSuccess_eq htask hresult hduration]
  have hread : exec (inWorld (recordsOf m c)) d =
      (.ok records, { d with world := { d.world with ticks := ticks, nextUuid := nextUuid } }) := by
    unfold inWorld
    rw [exec_embed, hrecords]
  rw [exec_bind, hread]
  dsimp only
  rw [exec_bind, exec_modify]
  dsimp only
  rw [exec_bind, exec_get]
  dsimp only
  refine .next (q := .finishes m (.meters c records))
    (e := { d with world := { d.world with ticks := ticks, nextUuid := nextUuid } }) ?_ (.next rfl ?_)
  · simp only [Phase.go, FinishAwait.go, awaits, hread]
  · have hown := ends_findsOwnJob m c (records.map (·.nrOfResourcesCollected)).sum { d with
      world := { d.world with ticks := ticks, nextUuid := nextUuid }
      metering := d.metering ++ records }
    rw [exec_bind] at hown
    exact hown

/-- **The handler of a message alone does what the function does.** -/
theorem ends_received (message : CollectMessage) (d : Dispatcher) :
    Ends d (received message) (exec (processCollectDoneMessage message) d).2 := by
  have hfinishing : ∀ m failed, Ends d (finishing m failed) (exec (collectJobFinished m failed) d).2 := by
    intro m failed
    unfold finishing
    rw [collectJobFinished_eq]
    unfold handle
    cases hfailure : JobMessage.failure m failed with
    | some error => exact ends_handleError m error d
    | none =>
      dsimp only
      cases htask : m.taskId with
      | none =>
        unfold handleSuccess
        rw [htask]
        exact .idle d
      | some taskId =>
        cases hresult : m.result with
        | none =>
          unfold handleSuccess
          rw [htask, hresult]
          exact .idle d
        | some r =>
          cases hduration : m.duration with
          | none =>
            unfold handleSuccess
            rw [htask, hresult, hduration]
            exact .idle d
          | some duration => exact ends_handleSuccess (c := ⟨taskId, duration, r⟩) htask hresult hduration d
  cases message with
  | collectDone m => exact hfinishing m false
  | jobFailed m => exact hfinishing m true
  | postCollectDone workspaceId success =>
    unfold received processCollectDoneMessage processPostCollectDoneMessage
    dsimp only
    rw [exec_bind, exec_get]
    dsimp only
    by_cases hopen : (d.collects.progress workspaceId).allDone = false
    · rw [if_pos hopen]
      exact .next (if_pos hopen) (.idle d)
    · rw [if_neg hopen]
      by_cases hfailed : success = false
      · rw [if_pos hfailed]
        exact .next ((if_neg hopen).trans (if_pos hfailed)) (.idle d)
      · rw [if_neg hfailed]
        refine .next ((if_neg hopen).trans (if_neg hfailed)) ?_
        exact ends_completeCollectJob workspaceId none (.idle _)

theorem step_resume {s : DispatcherRun ι} {i : ι} (raises : Bool) (h : (s.phase i).isIdle = false) :
    dispatcherStep s (.resume i raises) = some
      ⟨((s.phase i).go raises s.dispatcher).2, s.inFlight,
        Function.update s.phase i ((s.phase i).go raises s.dispatcher).1, s.reports ++ (s.phase i).reporting⟩ :=
  if_neg (by rw [h]; exact Bool.false_ne_true)

theorem Ends.run {d d' : Dispatcher} {p : Phase} (h : Ends d p d') : ∀ {s : DispatcherRun ι} {i : ι},
    s.dispatcher = d → s.phase i = p → ∃ n s', run dispatcherStep s (List.replicate n (.resume i false)) = some s' ∧
      s'.dispatcher = d' ∧ s'.phase = Function.update s.phase i .idle ∧ s'.inFlight = s.inFlight := by
  induction h with
  | idle d =>
    intro s i hd hp
    refine ⟨0, s, rfl, hd, ?_, rfl⟩
    rw [← hp, Function.update_eq_self]
  | @step d d' p h ih =>
    intro s i hd hp
    cases hidle : p.isIdle with
    | true =>
      cases p with
      | idle => exact ih hd hp
      | _ => cases hidle
    | false =>
      obtain ⟨n, s', hrun, hd', hphase, hflight⟩ := ih
        (s := ⟨(p.go false d).2, s.inFlight, Function.update s.phase i (p.go false d).1, s.reports ++ p.reporting⟩)
        (i := i) rfl (Function.update_self _ _ _)
      refine ⟨n + 1, s', ?_, hd', ?_, hflight⟩
      · rw [List.replicate_succ]
        refine run_cons.2 ⟨_, ?_, hrun⟩
        rw [step_resume false (hp.symm ▸ hidle), hp, hd]
      · rw [hphase]
        exact Function.update_idem _ _ _

/-! ## What a call does at an await -/

/-- The call ends at its await and writes nothing. -/
def Phase.Stops (raises : Bool) (d : Dispatcher) : Phase → Prop
  | triggers t .checks => (d.collects.accountCollectState t.account.workspaceId t.account.id).isSome = true
  | triggers t .loads => accountInformation t.account t.collectMicrosoftGraph d = none
  | triggers t (.opens _) => d.databaseAccess.find t.account.workspaceId = none
  | triggers _ (.enqueues _) => raises = true
  | finishes _ (.readsState c _ accountId) => d.collects.accountCollectState c.result.tenantId accountId = none
  | continues jobId => d.collects.jobTenant jobId = none
  | decides workspaceId => (d.collects.progress workspaceId).allDone = false
  | opensPostCollect workspaceId _ => d.databaseAccess.find workspaceId = none
  | enqueuesPostCollect _ => raises = true
  | postCollects workspaceId success => (d.collects.progress workspaceId).allDone = false ∨ success = false
  | _ => False

def FinishAwait.Loses (m : JobMessage) (c : CollectStore) : FinishAwait → Prop
  | findsWorkspace _ => c.jobTenant m.jobId = none
  | findsJob _ workspaceId => c.jobAccount workspaceId m.jobId = none
  | findsEntry _ workspaceId accountId => c.accountCollectState workspaceId accountId = none
  | findsOwnJob x _ => c.jobAccount x.result.tenantId m.jobId = none
  | findsOwnEntry x _ accountId => c.accountCollectState x.result.tenantId accountId = none
  | _ => False

def drawnJob (t : TriggerCall) (info : AccountInformation) (db : GraphDatabaseAccess) (d : Dispatcher) : CollectJob :=
  ⟨d.world.nextUuid, db, info, t.deferBy, t.retryFailedFor, t.account.id, t.reason⟩

/-- **From an await to the next**: what was found there, and what is written. -/
inductive Goes (raises : Bool) (d : Dispatcher) : Phase → Phase → Dispatcher → Prop
  | stops {p : Phase} (h : p.Stops raises d) : Goes raises d p .idle d
  | free {t : TriggerCall} (h : d.collects.accountCollectState t.account.workspaceId t.account.id = none) :
    Goes raises d (.triggers t .checks) (.triggers t .loads) d
  | loads {t : TriggerCall} (info : AccountInformation) :
      Goes raises d (.triggers t .loads) (.triggers t (.opens info)) d
  | opens {t : TriggerCall} {info : AccountInformation} {db : GraphDatabaseAccess}
    (h : d.databaseAccess.find t.account.workspaceId = some db) :
    Goes raises d (.triggers t (.opens info)) (.triggers t (.tracks info db)) d
  | tracks {t : TriggerCall} {info : AccountInformation} {db : GraphDatabaseAccess} :
    Goes raises d (.triggers t (.tracks info db)) (.triggers t (.enqueues (drawnJob t info db d)))
      { d with
        world := { d.world with nextUuid := d.world.nextUuid + 1, ticks := d.world.ticks + 1 }
        collects := d.collects.track t.account.workspaceId t.account.id info d.world.nextUuid
          (d.world.clock d.world.ticks) }
  | enqueues {t : TriggerCall} {job : CollectJob} (h : raises = false) :
    Goes raises d (.triggers t (.enqueues job)) .idle { d with collectQueue := d.collectQueue ++ [job] }
  | loses {m : JobMessage} {a : FinishAwait} (h : a.Loses m d.collects) :
    Goes raises d (.finishes m a) (.continues m.jobId) d
  | findsWorkspace {m : JobMessage} {error : String} {workspaceId : WorkspaceId}
    (h : d.collects.jobTenant m.jobId = some workspaceId) :
    Goes raises d (.finishes m (.findsWorkspace error)) (.finishes m (.findsJob error workspaceId)) d
  | findsJob {m : JobMessage} {error : String} {workspaceId : WorkspaceId} {accountId : FixCloudAccountId}
    (h : d.collects.jobAccount workspaceId m.jobId = some accountId) :
    Goes raises d (.finishes m (.findsJob error workspaceId)) (.finishes m (.findsEntry error workspaceId accountId)) d
  | findsEntry {m : JobMessage} {error : String} {workspaceId : WorkspaceId} {accountId : FixCloudAccountId}
    {state : AccountCollectProgress} (h : d.collects.accountCollectState workspaceId accountId = some state) :
    Goes raises d (.finishes m (.findsEntry error workspaceId accountId))
      (.finishes m (.stores workspaceId state.cloudAccountId (state.failed error (m.duration.getD 0) m.taskId))) d
  | readsTier {m : JobMessage} {c : Collected} {records : List MeteringRecord} {ticks : Nat} {nextUuid : Uuid}
    (h : d.world.nextUuid ≤ nextUuid) :
    Goes raises d (.finishes m (.readsTier c)) (.finishes m (.meters c records))
      { d with world := { d.world with ticks := ticks, nextUuid := nextUuid } }
  | meters {m : JobMessage} {c : Collected} {records : List MeteringRecord} :
    Goes raises d (.finishes m (.meters c records))
      (.finishes m (.findsOwnJob c (records.map (·.nrOfResourcesCollected)).sum))
      { d with metering := d.metering ++ records }
  | findsOwnJob {m : JobMessage} {c : Collected} {resources : Nat} {accountId : FixCloudAccountId}
    (h : d.collects.jobAccount c.result.tenantId m.jobId = some accountId) :
    Goes raises d (.finishes m (.findsOwnJob c resources)) (.finishes m (.findsOwnEntry c resources accountId)) d
  | findsOwnEntry {m : JobMessage} {c : Collected} {resources : Nat} {accountId : FixCloudAccountId}
    {progress : AccountCollectProgress}
    (h : d.collects.accountCollectState c.result.tenantId accountId = some progress) :
    Goes raises d (.finishes m (.findsOwnEntry c resources accountId))
      (.finishes m (.readsState c resources progress.cloudAccountId)) d
  | readsState {m : JobMessage} {c : Collected} {resources : Nat} {accountId : FixCloudAccountId}
    {state : AccountCollectProgress} (h : d.collects.accountCollectState c.result.tenantId accountId = some state) :
    Goes raises d (.finishes m (.readsState c resources accountId)) (.finishes m (.stores c.result.tenantId accountId
      (state.done resources c.duration c.taskId c.result.messages))) d
  | stores {m : JobMessage} {workspaceId : WorkspaceId} {accountId : FixCloudAccountId} {p : AccountCollectProgress} :
    Goes raises d (.finishes m (.stores workspaceId accountId p)) (.continues m.jobId)
      { d with collects := d.collects.setProgress workspaceId accountId p }
  | knows {jobId : JobId} {workspaceId : WorkspaceId} (h : d.collects.jobTenant jobId = some workspaceId) :
    Goes raises d (.continues jobId) (.decides workspaceId) d
  | allFailed {workspaceId : WorkspaceId} (hdone : (d.collects.progress workspaceId).allDone = true) :
    Goes raises d (.decides workspaceId) (.completes workspaceId none .reads) d
  | someCollected {workspaceId : WorkspaceId} (hdone : (d.collects.progress workspaceId).allDone = true) :
    Goes raises d (.decides workspaceId)
      (.opensPostCollect workspaceId (postCollectAccounts (d.collects.progress workspaceId))) d
  | opensPostCollect {workspaceId : WorkspaceId} {collected : List PostCollectAccountInfo} {db : GraphDatabaseAccess}
    (h : d.databaseAccess.find workspaceId = some db) :
    Goes raises d (.opensPostCollect workspaceId collected) (.enqueuesPostCollect ⟨db, collected⟩) d
  | enqueuesPostCollect {job : PostCollectJob} (h : raises = false) :
    Goes raises d (.enqueuesPostCollect job) .idle { d with postCollectQueue := d.postCollectQueue ++ [job] }
  | postCollects {workspaceId : WorkspaceId} (hdone : (d.collects.progress workspaceId).allDone = true) :
    Goes raises d (.postCollects workspaceId true) (.completes workspaceId none .reads) d
  | waits {workspaceId : WorkspaceId} {afterwards : Option (List PostCollectAccountInfo)}
    (h : (d.collects.progress workspaceId).allDone = false) :
    Goes raises d (.completes workspaceId afterwards .reads) (returning workspaceId afterwards) d
  | reads {workspaceId : WorkspaceId} {afterwards : Option (List PostCollectAccountInfo)}
    (h : (d.collects.progress workspaceId).allDone = true) :
    Goes raises d (.completes workspaceId afterwards .reads)
      (.completes workspaceId afterwards (.asksNextRun (d.collects.progress workspaceId))) d
  | announces {workspaceId : WorkspaceId} {afterwards : Option (List PostCollectAccountInfo)} {state : CollectState}
    {event : DomainEvent} (h : completionEvent workspaceId state (nextScan d workspaceId) = some event) :
    Goes raises d (.completes workspaceId afterwards (.asksNextRun state))
      (.completes workspaceId afterwards (.publishes state event)) d
  | announcesNothing {workspaceId : WorkspaceId} {afterwards : Option (List PostCollectAccountInfo)}
    {state : CollectState} (h : completionEvent workspaceId state (nextScan d workspaceId) = none) :
    Goes raises d (.completes workspaceId afterwards (.asksNextRun state))
      (.completes workspaceId afterwards (.deletesProgress state none)) d
  | publishes {workspaceId : WorkspaceId} {afterwards : Option (List PostCollectAccountInfo)} {state : CollectState}
    {event : DomainEvent} :
    Goes raises d (.completes workspaceId afterwards (.publishes state event))
      (.completes workspaceId afterwards (.deletesProgress state (some event)))
      { d with world := { d.world with published := d.world.published ++ [event] } }
  | deletesProgress {workspaceId : WorkspaceId} {afterwards : Option (List PostCollectAccountInfo)}
      {state : CollectState}
    {event : Option DomainEvent} :
    Goes raises d (.completes workspaceId afterwards (.deletesProgress state event))
      (.completes workspaceId afterwards .listsJobs) { d with collects := d.collects.deleteProgress workspaceId }
  | listsJobs {workspaceId : WorkspaceId} {afterwards : Option (List PostCollectAccountInfo)} :
    Goes raises d (.completes workspaceId afterwards .listsJobs)
      (.completes workspaceId afterwards (.deletesJobs ((d.collects.jobs workspaceId).rows.map Prod.fst))) d
  | deletesJob {workspaceId : WorkspaceId} {afterwards : Option (List PostCollectAccountInfo)} {jobId : JobId}
    {jobIds : List JobId} :
    Goes raises d (.completes workspaceId afterwards (.deletesJobs (jobId :: jobIds)))
      (.completes workspaceId afterwards (.deletesJobs jobIds))
      { d with collects := d.collects.deleteJobTenant jobId }
  | deletesJobs {workspaceId : WorkspaceId} {afterwards : Option (List PostCollectAccountInfo)} :
    Goes raises d (.completes workspaceId afterwards (.deletesJobs [])) (returning workspaceId afterwards)
      { d with collects := d.collects.deleteJobs workspaceId }

theorem Goes.of_eq {raises : Bool} {d e : Dispatcher} {p q : Phase} {x : Phase × Dispatcher} (hx : x = (q, e))
    (h : Goes raises d p q e) : Goes raises d p x.1 x.2 := by
  rw [hx]
  exact h

theorem TriggerAwait.goes (t : TriggerCall) (raises : Bool) (d : Dispatcher) (a : TriggerAwait) :
    Goes raises d (.triggers t a) (a.go t raises d).1 (a.go t raises d).2 := by
  cases a with
  | checks =>
    by_cases hongoing : (d.collects.accountCollectState t.account.workspaceId t.account.id).isSome = true
    · exact .of_eq (if_pos hongoing) (.stops hongoing)
    · exact .of_eq (if_neg hongoing) (.free (Option.not_isSome_iff_eq_none.1 hongoing))
  | loads =>
    cases hinfo : accountInformation t.account t.collectMicrosoftGraph d with
    | none => exact .of_eq (by simp only [TriggerAwait.go, hinfo]) (.stops hinfo)
    | some info => exact .of_eq (by simp only [TriggerAwait.go, hinfo]) (.loads info)
  | opens info =>
    cases hdb : d.databaseAccess.find t.account.workspaceId with
    | none => exact .of_eq (by simp only [TriggerAwait.go, hdb]) (.stops hdb)
    | some db => exact .of_eq (by simp only [TriggerAwait.go, hdb]) (.opens hdb)
  | tracks info db => exact .tracks
  | enqueues job =>
    cases raises with
    | true => exact .stops rfl
    | false => exact .enqueues rfl

theorem FinishAwait.goes (m : JobMessage) (raises : Bool) (d : Dispatcher) (a : FinishAwait) :
    Goes raises d (.finishes m a) (a.go m d).1 (a.go m d).2 := by
  cases a with
  | findsWorkspace error =>
    cases hworkspace : d.collects.jobTenant m.jobId with
    | none => exact .of_eq (by simp only [FinishAwait.go, hworkspace]) (.loses hworkspace)
    | some workspaceId => exact .of_eq (by simp only [FinishAwait.go, hworkspace]) (.findsWorkspace hworkspace)
  | findsJob error workspaceId =>
    cases haccount : d.collects.jobAccount workspaceId m.jobId with
    | none => exact .of_eq (by simp only [FinishAwait.go, haccount]) (.loses haccount)
    | some accountId => exact .of_eq (by simp only [FinishAwait.go, haccount]) (.findsJob haccount)
  | findsEntry error workspaceId accountId =>
    cases hentry : d.collects.accountCollectState workspaceId accountId with
    | none => exact .of_eq (by simp only [FinishAwait.go, hentry]) (.loses hentry)
    | some state => exact .of_eq (by simp only [FinishAwait.go, hentry]) (.findsEntry hentry)
  | readsTier c =>
    obtain ⟨records, ticks, nextUuid, hexec, hlater⟩ := exec_recordsOf m c d.world
    refine .of_eq (q := .finishes m (.meters c records))
      (e := { d with world := { d.world with ticks := ticks, nextUuid := nextUuid } }) ?_ (.readsTier hlater)
    simp only [FinishAwait.go, awaits, inWorld, exec_embed, hexec]
  | meters c records => exact .meters
  | findsOwnJob c resources =>
    cases haccount : d.collects.jobAccount c.result.tenantId m.jobId with
    | none => exact .of_eq (by simp only [FinishAwait.go, haccount]) (.loses haccount)
    | some accountId => exact .of_eq (by simp only [FinishAwait.go, haccount]) (.findsOwnJob haccount)
  | findsOwnEntry c resources accountId =>
    cases hentry : d.collects.accountCollectState c.result.tenantId accountId with
    | none => exact .of_eq (by simp only [FinishAwait.go, hentry]) (.loses hentry)
    | some progress => exact .of_eq (by simp only [FinishAwait.go, hentry]) (.findsOwnEntry hentry)
  | readsState c resources accountId =>
    cases hentry : d.collects.accountCollectState c.result.tenantId accountId with
    | none => exact .of_eq (by simp only [FinishAwait.go, hentry]) (.stops hentry)
    | some state => exact .of_eq (by simp only [FinishAwait.go, hentry]) (.readsState hentry)
  | stores workspaceId accountId p => exact .stores

theorem CompleteAwait.goes (workspaceId : WorkspaceId) (afterwards : Option (List PostCollectAccountInfo))
    (raises : Bool)
    (d : Dispatcher) (a : CompleteAwait) :
    Goes raises d (.completes workspaceId afterwards a) (a.go workspaceId afterwards d).1
      (a.go workspaceId afterwards d).2 := by
  cases a with
  | reads =>
    by_cases hopen : (d.collects.progress workspaceId).allDone = false
    · exact .of_eq (if_pos hopen) (.waits hopen)
    · exact .of_eq (if_neg hopen) (.reads (Bool.eq_true_of_not_eq_false hopen))
  | asksNextRun state =>
    cases hevent : completionEvent workspaceId state (nextScan d workspaceId) with
    | none => exact .of_eq (by simp only [go_asksNextRun, hevent]) (.announcesNothing hevent)
    | some event => exact .of_eq (by simp only [go_asksNextRun, hevent]) (.announces hevent)
  | publishes state event => exact .publishes
  | deletesProgress state event => exact .deletesProgress
  | listsJobs => exact .listsJobs
  | deletesJobs jobIds =>
    cases jobIds with
    | nil => exact .deletesJobs
    | cons jobId jobIds => exact .deletesJob

theorem Phase.goes (raises : Bool) (d : Dispatcher) (p : Phase) (hcalled : p.isIdle = false) :
    Goes raises d p (p.go raises d).1 (p.go raises d).2 := by
  cases p with
  | idle => cases hcalled
  | triggers t a => exact a.goes t raises d
  | finishes m a => exact a.goes m raises d
  | continues jobId =>
    cases hworkspace : d.collects.jobTenant jobId with
    | none => exact .of_eq (by simp only [Phase.go, hworkspace]) (.stops hworkspace)
    | some workspaceId => exact .of_eq (by simp only [Phase.go, hworkspace]) (.knows hworkspace)
  | decides workspaceId =>
    by_cases hopen : (d.collects.progress workspaceId).allDone = false
    · exact .of_eq (if_pos hopen) (.stops hopen)
    · have hdone := Bool.eq_true_of_not_eq_false hopen
      by_cases hfailed : (d.collects.progress workspaceId).allFailed = true
      · exact .of_eq ((if_neg hopen).trans (if_pos hfailed)) (.allFailed hdone)
      · have hsome := postCollectAccounts_nonempty hdone (Bool.eq_false_iff.2 hfailed)
        have hnot : ¬(postCollectAccounts (d.collects.progress workspaceId)).isEmpty = true := fun hempty =>
          hsome (List.isEmpty_iff.1 hempty)
        exact .of_eq ((if_neg hopen).trans ((if_neg hfailed).trans (if_neg hnot))) (.someCollected hdone)
  | opensPostCollect workspaceId collected =>
    cases hdb : d.databaseAccess.find workspaceId with
    | none => exact .of_eq (by simp only [Phase.go, hdb]) (.stops hdb)
    | some db => exact .of_eq (by simp only [Phase.go, hdb]) (.opensPostCollect hdb)
  | enqueuesPostCollect job =>
    cases raises with
    | true => exact .stops rfl
    | false => exact .enqueuesPostCollect rfl
  | postCollects workspaceId success =>
    by_cases hopen : (d.collects.progress workspaceId).allDone = false
    · exact .of_eq (if_pos hopen) (.stops (Or.inl hopen))
    · by_cases hfailed : success = false
      · exact .of_eq ((if_neg hopen).trans (if_pos hfailed)) (.stops (Or.inr hfailed))
      · rw [Bool.eq_true_of_not_eq_false hfailed]
        exact .of_eq (if_neg hopen) (.postCollects (Bool.eq_true_of_not_eq_false hopen))
  | completes workspaceId afterwards a => exact a.goes workspaceId afterwards raises d

theorem triggered {s s' : DispatcherRun ι} {i : ι} {t : TriggerCall} (h : dispatcherStep s (.trigger i t) = some s') :
    (s.phase i).isIdle = true ∧ s' = { s with phase := Function.update s.phase i (.triggers t .checks) } := by
  obtain ⟨hidle, hs'⟩ := Option.ite_none_right_eq_some.1 h
  exact ⟨hidle, (Option.some.inj hs').symm⟩

theorem delivered {s s' : DispatcherRun ι} {i : ι} {x : Finished} {again : Bool}
    (h : dispatcherStep s (.deliver i x again) = some s') : (s.phase i).isIdle = true ∧ x ∈ s.inFlight ∧ s' = { s with
      inFlight := if again then s.inFlight else s.inFlight.erase x
      phase := Function.update s.phase i (received x.message) } := by
  obtain ⟨⟨hidle, hx⟩, hs'⟩ := Option.ite_none_right_eq_some.1 h
  exact ⟨hidle, hx, (Option.some.inj hs').symm⟩

theorem finished {s s' : DispatcherRun ι} {job : CollectJob} {m : JobMessage} {failed : Bool}
    (h : dispatcherStep s (.finish job m failed) = some s') :
    job ∈ s.dispatcher.collectQueue ∧ Answers job m failed = true ∧ s' = { s with
      dispatcher := { s.dispatcher with collectQueue := s.dispatcher.collectQueue.erase job }
      inFlight := s.inFlight ++ [.collect job m failed] } := by
  obtain ⟨⟨hjob, hanswers⟩, hs'⟩ := Option.ite_none_right_eq_some.1 h
  exact ⟨hjob, hanswers, (Option.some.inj hs').symm⟩

theorem finishedPostCollect {s s' : DispatcherRun ι} {job : PostCollectJob} {success : Bool}
    (h : dispatcherStep s (.finishPostCollect job success) = some s') :
    job ∈ s.dispatcher.postCollectQueue ∧ s' = { s with
      dispatcher := { s.dispatcher with postCollectQueue := s.dispatcher.postCollectQueue.erase job }
      inFlight := s.inFlight ++ [.postCollect job success] } := by
  obtain ⟨hjob, hs'⟩ := Option.ite_none_right_eq_some.1 h
  exact ⟨hjob, (Option.some.inj hs').symm⟩

theorem resumed {s s' : DispatcherRun ι} {i : ι} {raises : Bool}
    (h : dispatcherStep s (.resume i raises) = some s') : ∃ q e, Goes raises s.dispatcher (s.phase i) q e ∧
      s' = ⟨e, s.inFlight, Function.update s.phase i q, s.reports ++ (s.phase i).reporting⟩ := by
  cases hidle : (s.phase i).isIdle with
  | true => cases (if_pos hidle).symm.trans h
  | false =>
    rw [step_resume raises hidle] at h
    cases h
    exact ⟨_, _, (s.phase i).goes raises s.dispatcher hidle, rfl⟩

theorem Answers.jobId {job : CollectJob} {m : JobMessage} {failed : Bool} (h : Answers job m failed = true) :
    m.jobId = job.jobId := by
  unfold Answers at h
  rw [Bool.and_eq_true, Bool.and_eq_true, beq_iff_eq] at h
  exact h.1.1

/-- The handler of a message starts at one of its first awaits, or raises. -/
theorem received_cases (x : Finished) : received x.message = .idle ∨
    (∃ job success, x = .postCollect job success ∧ received x.message = .postCollects job.db.workspaceId success) ∨
    (∃ job m failed error, x = .collect job m failed ∧ received x.message = .finishes m (.findsWorkspace error)) ∨
    ∃ job m failed c, x = .collect job m failed ∧ received x.message = .finishes m (.readsTier c) ∧
      m.result = some c.result := by
  cases x with
  | postCollect job success => exact Or.inr (Or.inl ⟨job, success, rfl, rfl⟩)
  | collect job m failed =>
    have hreceived : received (Finished.collect job m failed).message = finishing m failed := by cases failed <;> rfl
    rw [hreceived]
    unfold finishing
    cases JobMessage.failure m failed with
    | some error => exact Or.inr (Or.inr (Or.inl ⟨job, m, failed, error, rfl, rfl⟩))
    | none =>
      cases htask : m.taskId with
      | none => exact Or.inl rfl
      | some taskId =>
        cases hresult : m.result with
        | none => exact Or.inl rfl
        | some r =>
          cases hduration : m.duration with
          | none => exact Or.inl rfl
          | some duration => exact Or.inr (Or.inr (Or.inr ⟨job, m, failed, ⟨taskId, duration, r⟩, rfl, rfl, hresult⟩))

/-! ## What the phases say of the jobs -/

def Phase.enqueuing : Phase → Option CollectJob
  | triggers _ (.enqueues job) => some job
  | _ => none

/-- The job whose message is handled, until its result is stored. -/
def Phase.answering : Phase → Option JobId
  | finishes m _ => some m.jobId
  | _ => none

def Phase.reading : Phase → Option (WorkspaceId × CollectState)
  | completes workspaceId _ (.asksNextRun state) | completes workspaceId _ (.publishes state _)
  | completes workspaceId _ (.deletesProgress state _) => some (workspaceId, state)
  | _ => none

def Phase.completing (p : Phase) : Option WorkspaceId := p.reading.map Prod.fst

def Phase.Sound : Phase → Prop
  | triggers t (.tracks _ db) => db.workspaceId = t.account.workspaceId
  | finishes _ (.stores _ _ p) => p.isDone = true
  | _ => True

theorem Phase.enqueuing_returning (workspaceId : WorkspaceId) (afterwards : Option (List PostCollectAccountInfo)) :
    (returning workspaceId afterwards).enqueuing = none := by
  cases afterwards <;> rfl

theorem Phase.answering_returning (workspaceId : WorkspaceId) (afterwards : Option (List PostCollectAccountInfo)) :
    (returning workspaceId afterwards).answering = none := by
  cases afterwards <;> rfl

theorem Phase.sound_returning (workspaceId : WorkspaceId) (afterwards : Option (List PostCollectAccountInfo)) :
    (returning workspaceId afterwards).Sound := by
  cases afterwards <;> trivial

theorem Phase.reading_returning (workspaceId : WorkspaceId) (afterwards : Option (List PostCollectAccountInfo)) :
    (returning workspaceId afterwards).reading = none := by
  cases afterwards <;> rfl

theorem Phase.completing_returning (workspaceId : WorkspaceId) (afterwards : Option (List PostCollectAccountInfo)) :
    (returning workspaceId afterwards).completing = none := by
  cases afterwards <;> rfl

section Goes

variable {raises : Bool} {d e : Dispatcher} {p q : Phase}

theorem Goes.answering (h : Goes raises d p q e) : q.answering = none ∨ q.answering = p.answering := by
  cases h with
  | waits | deletesJobs => exact Or.inl (Phase.answering_returning _ _)
  | findsWorkspace | findsJob | findsEntry | readsTier | meters | findsOwnJob | findsOwnEntry | readsState =>
    exact Or.inr rfl
  | _ => exact Or.inl rfl

theorem Goes.sound (h : Goes raises d p q e) : q.Sound := by
  cases h with
  | waits | deletesJobs => exact Phase.sound_returning _ _
  | opens hdb => exact Table.key_of_find hdb
  | findsEntry | readsState => rfl
  | _ => trivial

theorem Goes.completing (h : Goes raises d p q e) {workspaceId : WorkspaceId} (hq : q.completing = some workspaceId) :
    p.completing = some workspaceId ∨ (d.collects.progress workspaceId).allDone = true := by
  cases h with
  | waits | deletesJobs =>
    rw [Phase.completing_returning] at hq
    cases hq
  | reads hdone =>
    cases hq
    exact Or.inr hdone
  | announces | announcesNothing | publishes => exact Or.inl hq
  | _ => cases hq

/-- **What is written at an await**: a job is tracked or enqueued, a result is stored, the progress is deleted, or the
progress and the jobs stay. -/
theorem Goes.writes (h : Goes raises d p q e) :
    (∃ t info db, p = .triggers t (.tracks info db) ∧ q = .triggers t (.enqueues (drawnJob t info db d)) ∧ e = { d with
      world := { d.world with nextUuid := d.world.nextUuid + 1, ticks := d.world.ticks + 1 }
      collects := d.collects.track t.account.workspaceId t.account.id info d.world.nextUuid
        (d.world.clock d.world.ticks) }) ∨
    (∃ t job, p = .triggers t (.enqueues job) ∧ q = .idle ∧ e = { d with collectQueue := d.collectQueue ++ [job] }) ∨
    (∃ m ws A x, p = .finishes m (.stores ws A x) ∧ q = .continues m.jobId ∧
      e = { d with collects := d.collects.setProgress ws A x }) ∨
    (∃ ws afterwards state event, p = .completes ws afterwards (.deletesProgress state event) ∧
      q = .completes ws afterwards .listsJobs ∧ e = { d with collects := d.collects.deleteProgress ws }) ∨
    (e.collects.progress = d.collects.progress ∧ e.collectQueue = d.collectQueue ∧
      d.world.nextUuid ≤ e.world.nextUuid ∧ q.enqueuing = none) := by
  cases h with
  | tracks => exact Or.inl ⟨_, _, _, rfl, rfl, rfl⟩
  | enqueues => exact Or.inr (Or.inl ⟨_, _, rfl, rfl, rfl⟩)
  | stores => exact Or.inr (Or.inr (Or.inl ⟨_, _, _, _, rfl, rfl, rfl⟩))
  | deletesProgress => exact Or.inr (Or.inr (Or.inr (Or.inl ⟨_, _, _, _, rfl, rfl, rfl⟩)))
  | readsTier hlater => exact Or.inr (Or.inr (Or.inr (Or.inr ⟨rfl, rfl, hlater, rfl⟩)))
  | waits | deletesJobs =>
    exact Or.inr (Or.inr (Or.inr (Or.inr ⟨rfl, rfl, Nat.le_refl _, Phase.enqueuing_returning _ _⟩)))
  | _ => exact Or.inr (Or.inr (Or.inr (Or.inr ⟨rfl, rfl, Nat.le_refl _, rfl⟩)))

end Goes

end DispatcherService

end Fix
