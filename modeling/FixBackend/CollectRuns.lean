import FixBackend.Dispatcher
/-!
# CollectRuns — a run of collects, from its first message to its event

The jobs of a run are tracked, and each ends with one message.  The messages come in any order; the last of them decides
whether the run is post-collected or reported as failed, and the message of the post-collect reports what was collected.
-/
namespace Fix

open Calendar Effects

namespace DispatcherService

/-! ## The jobs of a run -/

/-- What the message of a finished job says of its collect, when it has what the handler reads. -/
def finishResult (m : JobMessage) (failed : Bool) : Option CollectionResult :=
  match JobMessage.failure m failed with
  | some error => some (.failure (m.duration.getD 0) m.taskId error)
  | none =>
    match m.taskId, m.result, m.duration with
    | some taskId, some r, some duration =>
      some (.success (r.accountInfo.map fun x => x.2.summary.sum).sum duration taskId r.messages)
    | _, _, _ => none

/-- A tracked job of the workspace and the message that it ends with. -/
structure RunJob (workspaceId : WorkspaceId) where
  accountId : FixCloudAccountId
  info : AccountInformation
  jobId : JobId
  startedAt : DateTime
  message : JobMessage
  failed : Bool
  result : CollectionResult
  answers : message.jobId = jobId
  ended : finishResult message failed = some result
  tenant : ∀ r, message.result = some r → r.tenantId = workspaceId

variable {workspaceId : WorkspaceId}

namespace RunJob

def collectMessage (j : RunJob workspaceId) : CollectMessage :=
  if j.failed then .jobFailed j.message else .collectDone j.message

def entry (j : RunJob workspaceId) (done : List JobId) : AccountCollectProgress where
  cloud := j.info.cloud
  cloudAccountId := j.accountId
  accountId := j.info.accountId
  startedAt := j.startedAt
  collectionDone := if j.jobId ∈ done then some j.result else none
  attempt := j.jobId

def collectInfo (j : RunJob workspaceId) : CloudAccountCollectInfo :=
  match j.result with
  | .success scannedResources durationSeconds taskId resourceErrors =>
    ⟨j.info.accountId, scannedResources, durationSeconds, j.startedAt, some taskId, resourceErrors⟩
  | .failure durationSeconds taskId error => ⟨j.info.accountId, 0, durationSeconds, j.startedAt, taskId, [error]⟩

/-- What the post-collect job is told of the account. -/
def postCollectInfo (j : RunJob workspaceId) : Option PostCollectAccountInfo :=
  match j.result with
  | .success _ _ taskId _ => some ⟨j.info.cloud, j.info.accountId, taskId⟩
  | .failure .. => none

end RunJob

def endedWith (failure : Bool) (jobs : List (RunJob workspaceId)) :
    List (FixCloudAccountId × CloudAccountCollectInfo) :=
  (jobs.filter fun j => decide (j.result.isFailure = failure)).map fun j => (j.accountId, j.collectInfo)

def trackAll (c : CollectStore) (jobs : List (RunJob workspaceId)) : CollectStore :=
  jobs.foldl (fun c j => c.track workspaceId j.accountId j.info j.jobId j.startedAt) c

def processAll (order : List (RunJob workspaceId)) : Dispatching PUnit :=
  order.forM fun j => processCollectDoneMessage j.collectMessage

def Quiet (d d' : Dispatcher) : Prop :=
  d'.postCollectQueue = d.postCollectQueue ∧ d'.world.published = d.world.published

structure Cleared (jobs : List (RunJob workspaceId)) (d : Dispatcher) : Prop where
  progress : d.collects.progress workspaceId = default
  index : d.collects.jobs workspaceId = default
  jobTenant : ∀ j ∈ jobs, d.collects.jobTenant j.jobId = none

/-! ## The redis entries during a run -/

structure Running (jobs : List (RunJob workspaceId)) (done : List JobId) (c : CollectStore) : Prop where
  progress : (c.progress workspaceId).rows = jobs.map fun j => (j.accountId, j.entry done)
  index : (c.jobs workspaceId).rows = jobs.map fun j => (j.jobId, j.accountId)
  jobTenant : ∀ j ∈ jobs, c.jobTenant j.jobId = some workspaceId

theorem entry_nil (j : RunJob workspaceId) : j.entry [] =
    ⟨j.info.cloud, j.accountId, j.info.accountId, j.startedAt, none, j.jobId⟩ := by
  unfold RunJob.entry
  rw [if_neg List.not_mem_nil]

theorem running_trackAll {c : CollectStore} (hprogress : c.progress workspaceId = default)
    (hjobs : c.jobs workspaceId = default) {jobs : List (RunJob workspaceId)}
    (haccounts : (jobs.map RunJob.accountId).Nodup) (hids : (jobs.map RunJob.jobId).Nodup) :
    Running jobs [] (trackAll c jobs) := by
  suffices h : ∀ (rest tracked : List (RunJob workspaceId)) (c : CollectStore),
      ((tracked ++ rest).map RunJob.accountId).Nodup → ((tracked ++ rest).map RunJob.jobId).Nodup →
      Running tracked [] c → Running (tracked ++ rest) [] (trackAll c rest) from
    h jobs [] c haccounts hids ⟨by rw [hprogress]; rfl, by rw [hjobs]; rfl, fun _ hj => absurd hj List.not_mem_nil⟩
  intro rest
  induction rest with
  | nil =>
    intro tracked c _ _ h
    rw [List.append_nil]
    exact h
  | cons j rest ih =>
    intro tracked c haccounts hids h
    have hsplit : tracked ++ j :: rest = (tracked ++ [j]) ++ rest := by
      rw [List.append_assoc]
      rfl
    have hnewAccount : Dict.get (c.progress workspaceId) j.accountId = none := by
      rw [Dict.get_eq_none_iff, h.progress, List.map_map]
      rw [List.map_append, List.nodup_append] at haccounts
      intro hmem
      exact haccounts.2.2 _ hmem _ List.mem_cons_self rfl
    have hnewJob : Dict.get (c.jobs workspaceId) j.jobId = none := by
      rw [Dict.get_eq_none_iff, h.index, List.map_map]
      rw [List.map_append, List.nodup_append] at hids
      intro hmem
      exact hids.2.2 _ hmem _ List.mem_cons_self rfl
    rw [hsplit] at haccounts hids ⊢
    refine ih (tracked ++ [j]) _ haccounts hids ⟨?_, ?_, fun i hi => ?_⟩
    · unfold CollectStore.track
      dsimp only
      rw [Function.update_self, Dict.rows_put_new _ hnewAccount, h.progress, List.map_append,
        List.map_singleton, entry_nil]
    · unfold CollectStore.track
      dsimp only
      rw [Function.update_self, Dict.rows_put_new _ hnewJob, h.index, List.map_append, List.map_singleton]
    · rw [CollectStore.jobTenant_track]
      split
      · rfl
      · rename_i hne
        rcases List.mem_append.1 hi with hold | hnew
        · exact h.jobTenant i hold
        · exact absurd (congrArg RunJob.jobId (List.mem_singleton.1 hnew)) hne

section Message

variable {jobs : List (RunJob workspaceId)} {done : List JobId} {c : CollectStore} {j : RunJob workspaceId}

theorem Running.entry (h : Running jobs done c) (hj : j ∈ jobs) :
    c.accountCollectState workspaceId j.accountId = some (j.entry done) := by
  unfold CollectStore.accountCollectState
  rw [Dict.get_eq_some_iff, h.progress]
  exact List.mem_map.2 ⟨j, hj, rfl⟩

theorem Running.jobAccount (h : Running jobs done c) (hj : j ∈ jobs) :
    c.jobAccount workspaceId j.jobId = some j.accountId := by
  unfold CollectStore.jobAccount
  rw [Dict.get_eq_some_iff, h.index]
  exact List.mem_map.2 ⟨j, hj, rfl⟩

theorem Running.entry_by_job (h : Running jobs done c) (hj : j ∈ jobs) :
    accountCollectStateByJobId c workspaceId j.jobId = some (j.entry done) := by
  unfold accountCollectStateByJobId
  rw [h.jobAccount hj, Option.bind_some, h.entry hj]

/-- **A job ends**: its entry gets its result, and the others stay. -/
theorem Running.ended (h : Running jobs done c) (haccounts : (jobs.map RunJob.accountId).Nodup)
    (hids : (jobs.map RunJob.jobId).Nodup) (hj : j ∈ jobs) :
    Running jobs (j.jobId :: done) (c.setProgress workspaceId j.accountId (j.entry (j.jobId :: done))) := by
  refine ⟨?_, h.index, h.jobTenant⟩
  have hold : Dict.get (c.progress workspaceId) j.accountId ≠ none := by
    have := h.entry hj
    unfold CollectStore.accountCollectState at this
    rw [this]
    exact Option.some_ne_none _
  unfold CollectStore.setProgress
  dsimp only
  rw [Function.update_self, Dict.rows_put_old _ hold, h.progress, List.map_map]
  refine List.map_congr_left fun i hi => ?_
  dsimp only [Function.comp_apply]
  by_cases hsame : i.accountId = j.accountId
  · rw [if_pos hsame, List.inj_on_of_nodup_map haccounts hi hj hsame]
  · have hne : i.jobId ≠ j.jobId := fun heq => hsame
        (congrArg RunJob.accountId (List.inj_on_of_nodup_map hids hi hj heq))
    rw [if_neg hsame]
    unfold RunJob.entry
    simp only [List.mem_cons, hne, false_or]

/-- Nothing was enqueued or published, and what an event is made of stayed. -/
structure Silent (d d' : Dispatcher) : Prop where
  postCollectQueue : d'.postCollectQueue = d.postCollectQueue
  published : d'.world.published = d.world.published
  databaseAccess : d'.databaseAccess = d.databaseAccess
  nextRuns : d'.world.nextRuns = d.world.nextRuns

theorem Silent.refl (d : Dispatcher) : Silent d d := ⟨rfl, rfl, rfl, rfl⟩

theorem Silent.trans {d d' d'' : Dispatcher} (h : Silent d d') (h' : Silent d' d'') : Silent d d'' :=
  ⟨h'.postCollectQueue.trans h.postCollectQueue, h'.published.trans h.published,
    h'.databaseAccess.trans h.databaseAccess, h'.nextRuns.trans h.nextRuns⟩

theorem exec_records (m : JobMessage) (taskId : TaskId) (duration : Nat) (r : CollectResult) (tier : ProductTier) :
    ∀ (accountInfo : List (CloudAccountId × AccountDetails)) (w : World), ∃ records ticks nextUuid,
      exec (accountInfo.mapM fun (x : CloudAccountId × AccountDetails) =>
        meteringRecord m taskId duration r tier x.1 x.2) w =
        (.ok records, { w with ticks := ticks, nextUuid := nextUuid }) ∧ w.nextUuid ≤ nextUuid ∧
      records.map (·.nrOfResourcesCollected) = accountInfo.map (fun x => x.2.summary.sum)
  | [], w => ⟨[], w.ticks, w.nextUuid, rfl, Nat.le_refl _, rfl⟩
  | x :: accountInfo, w => by
    obtain ⟨records, ticks, nextUuid, hexec, hlater, hsum⟩ := exec_records m taskId duration r tier accountInfo
      { w with nextUuid := w.nextUuid + 1, ticks := w.ticks + 1 }
    have hone : ∃ record, exec (meteringRecord m taskId duration r tier x.1 x.2) w =
        (.ok record, { w with nextUuid := w.nextUuid + 1, ticks := w.ticks + 1 }) ∧
        record.nrOfResourcesCollected = x.2.summary.sum := ⟨_, rfl, rfl⟩
    obtain ⟨record, hrecord, hresources⟩ := hone
    refine ⟨record :: records, ticks, nextUuid, ?_, Nat.le_of_succ_le hlater, ?_⟩
    · rw [List.mapM_cons, exec_bind, hrecord]
      dsimp only
      rw [exec_bind, hexec]
      rfl
    · rw [List.map_cons, List.map_cons, hresources, hsum]

theorem exec_tierOrFree (tenantId : WorkspaceId) (w : World) :
    ∃ tier ticks, exec (tierOrFree tenantId) w = (.ok tier, { w with ticks := ticks }) := by
  unfold tierOrFree findWorkspace
  rw [exec_bind, exec_bind, exec_get]
  dsimp only
  rw [exec_pure]
  dsimp only
  cases Fix.getWorkspace w.organizations tenantId with
  | none => exact ⟨_, w.ticks, rfl⟩
  | some workspace => exact ⟨_, w.ticks + 1, rfl⟩

theorem RunJob.entry_ended (j : RunJob workspaceId) (done : List JobId) :
    j.entry (j.jobId :: done) = { j.entry done with collectionDone := some j.result } := by
  unfold RunJob.entry
  rw [if_pos List.mem_cons_self]

/-- The workspace in which the handler of a message looks for the job. -/
def workspaceOf (c : CollectStore) (m : JobMessage) (failed : Bool) : Option WorkspaceId :=
  match JobMessage.failure m failed with
  | some _ => c.jobTenant m.jobId
  | none => m.result.map (·.tenantId)

def entryOf (c : CollectStore) (m : JobMessage) (failed : Bool) : Option (WorkspaceId × AccountCollectProgress) :=
  (workspaceOf c m failed).bind fun workspaceId =>
    (accountCollectStateByJobId c workspaceId m.jobId).map fun p => (workspaceId, p)

def handled (c : CollectStore) (m : JobMessage) (failed : Bool) (result : CollectionResult) : CollectStore :=
  match entryOf c m failed with
  | some (workspaceId, p) => c.setProgress workspaceId p.cloudAccountId { p with collectionDone := some result }
  | none => c

def handle (m : JobMessage) (failed : Bool) : Dispatching PUnit :=
  match JobMessage.failure m failed with
  | some error => handleError m error
  | none => handleSuccess m

theorem collectJobFinished_eq (m : JobMessage) (failed : Bool) :
    collectJobFinished m failed = handle m failed >>= fun _ => continueRun m.jobId := by
  unfold collectJobFinished handle
  cases JobMessage.failure m failed <;> rfl

/-- **What a message of a job does** before the run is continued: it may be metered, and its entry gets the result. -/
theorem exec_handle {d : Dispatcher} {m : JobMessage} {failed : Bool} {result : CollectionResult}
    (hresult : finishResult m failed = some result)
    (hkeyed : ∀ x, entryOf d.collects m failed = some x →
      d.collects.accountCollectState x.1 x.2.cloudAccountId = some x.2) :
    ∃ records ticks nextUuid, exec (handle m failed) d = (.ok ⟨⟩,
        { d with
          world := { d.world with ticks := ticks, nextUuid := nextUuid }
          metering := d.metering ++ records
          collects := handled d.collects m failed result }) ∧
      (records = [] ↔ (JobMessage.failure m failed = none → ∀ r, m.result = some r → r.accountInfo = [])) := by
  unfold finishResult at hresult
  unfold handle handled entryOf workspaceOf
  unfold entryOf workspaceOf at hkeyed
  cases hfailure : JobMessage.failure m failed with
  | some error =>
    rw [hfailure] at hresult hkeyed
    cases hresult
    refine ⟨[], d.world.ticks, d.world.nextUuid, ?_, fun _ h => (by cases h), fun _ => rfl⟩
    dsimp only
    unfold handleError markJobAsFailed
    rw [exec_bind, exec_get, List.append_nil]
    dsimp only
    cases d.collects.jobTenant m.jobId with
    | none => rfl
    | some workspaceId =>
      dsimp only [Option.bind_some]
      cases accountCollectStateByJobId d.collects workspaceId m.jobId <;> rfl
  | none =>
    rw [hfailure] at hresult hkeyed
    unfold handleSuccess
    cases htask : m.taskId with
    | none => rw [htask] at hresult; cases hresult
    | some taskId =>
      cases hr : m.result with
      | none => rw [htask, hr] at hresult; cases hresult
      | some r =>
        cases hduration : m.duration with
        | none => rw [htask, hr, hduration] at hresult; cases hresult
        | some duration =>
          rw [htask, hr, hduration] at hresult
          rw [hr] at hkeyed
          cases hresult
          obtain ⟨tier, ticks, htier⟩ := exec_tierOrFree r.tenantId d.world
          obtain ⟨records, ticks', nextUuid, hrecords, -, hsum⟩ :=
            exec_records m taskId duration r tier r.accountInfo { d.world with ticks := ticks }
          refine ⟨records, ticks', nextUuid, ?_, ?_⟩
          · dsimp only [Option.map_some, Option.bind_some]
            unfold inWorld
            rw [exec_bind, exec_embed, htier]
            dsimp only
            rw [exec_bind, exec_embed]
            dsimp only
            rw [hrecords]
            dsimp only
            rw [exec_bind, exec_modify]
            dsimp only
            rw [exec_bind, exec_get]
            dsimp only
            cases hentry : accountCollectStateByJobId d.collects r.tenantId m.jobId with
            | none => rfl
            | some p =>
              have hfound : d.collects.accountCollectState r.tenantId p.cloudAccountId = some p := by
                refine hkeyed (r.tenantId, p) ?_
                dsimp only [Option.map_some, Option.bind_some]
                rw [hentry]
                rfl
              dsimp only [Option.map_some]
              unfold markAccountAsCollected
              rw [exec_bind, exec_get]
              dsimp only
              rw [hfound, hsum]
              rfl
          · have hlength : records.length = r.accountInfo.length := by
              have := congrArg List.length hsum
              rw [List.length_map, List.length_map] at this
              exact this
            constructor
            · rintro hnil - r' hr'
              cases hr'
              rw [hnil] at hlength
              exact List.length_eq_zero_iff.1 hlength.symm
            · intro h
              rw [h rfl r rfl] at hlength
              exact List.length_eq_zero_iff.1 hlength

end Message

/-! ## The end of a run -/

section End

variable {jobs : List (RunJob workspaceId)} {done : List JobId} {d : Dispatcher}

theorem Running.allDone_iff {c : CollectStore} (h : Running jobs done c) :
    (c.progress workspaceId).allDone = true ↔ ∀ j ∈ jobs, j.jobId ∈ done := by
  unfold CollectState.allDone Dict.allValues
  rw [h.progress, List.all_map, List.all_eq_true]
  refine forall_congr' fun j => imp_congr_right fun _ => ?_
  unfold AccountCollectProgress.isDone RunJob.entry
  by_cases hmem : j.jobId ∈ done <;> simp [hmem]

theorem Running.progress_done {c : CollectStore} (h : Running jobs done c) (hall : ∀ j ∈ jobs, j.jobId ∈ done) :
    (c.progress workspaceId).rows =
      jobs.map fun j => (j.accountId, { j.entry [] with collectionDone := some j.result }) := by
  rw [h.progress]
  refine List.map_congr_left fun j hj => ?_
  unfold RunJob.entry
  rw [if_pos (hall j hj)]

theorem Running.allFailed_iff {c : CollectStore} (h : Running jobs done c) (hall : ∀ j ∈ jobs, j.jobId ∈ done) :
    (c.progress workspaceId).allFailed = true ↔ ∀ j ∈ jobs, j.result.isFailure = true := by
  unfold CollectState.allFailed Dict.allValues
  rw [h.progress_done hall, List.all_map, List.all_eq_true]
  exact Iff.rfl

theorem Running.collectedSuccess_eq {c : CollectStore} (h : Running jobs done c) (hall : ∀ j ∈ jobs, j.jobId ∈ done) :
    collectedSuccess (c.progress workspaceId) = endedWith false jobs := by
  unfold collectedSuccess endedWith
  rw [h.progress_done hall, List.filterMap_map, ← List.filterMap_eq_filter, List.map_filterMap]
  refine List.filterMap_congr fun j _ => ?_
  cases hresult : j.result <;>
    simp [Function.comp_apply, RunJob.collectInfo, RunJob.entry, CollectionResult.isFailure, hresult, Option.guard]

theorem Running.collectedFailed_eq {c : CollectStore} (h : Running jobs done c) (hall : ∀ j ∈ jobs, j.jobId ∈ done) :
    collectedFailed (c.progress workspaceId) = endedWith true jobs := by
  unfold collectedFailed endedWith
  rw [h.progress_done hall, List.filterMap_map, ← List.filterMap_eq_filter, List.map_filterMap]
  refine List.filterMap_congr fun j _ => ?_
  cases hresult : j.result <;>
    simp [Function.comp_apply, RunJob.collectInfo, RunJob.entry, CollectionResult.isFailure, hresult, Option.guard]

theorem Running.postCollectAccounts_eq {c : CollectStore} (h : Running jobs done c)
    (hall : ∀ j ∈ jobs, j.jobId ∈ done) :
    postCollectAccounts (c.progress workspaceId) = jobs.filterMap RunJob.postCollectInfo := by
  unfold postCollectAccounts
  rw [h.progress_done hall, List.filterMap_map]
  refine List.filterMap_congr fun j _ => ?_
  cases hresult : j.result <;> simp [Function.comp_apply, RunJob.postCollectInfo, RunJob.entry, hresult]

theorem postCollectAccounts_nonempty {state : CollectState} (hdone : state.allDone = true)
    (hsome : state.allFailed = false) : postCollectAccounts state ≠ [] := by
  have hended : ∀ x ∈ state.rows, x.2.isDone = true := List.all_eq_true.1 hdone
  have hnotFailure : ∃ x ∈ state.rows, x.2.collectionDone.any (·.isFailure) = false := by
    by_contra hnone
    have hall : state.allFailed = true := List.all_eq_true.2 fun x hx => by
      rw [← Bool.not_eq_false]
      exact fun hx' => hnone ⟨x, hx, hx'⟩
    rw [hsome] at hall
    cases hall
  obtain ⟨⟨key, v⟩, hx, hnot⟩ := hnotFailure
  have hx' := hended _ hx
  unfold AccountCollectProgress.isDone at hx'
  dsimp only at hx' hnot
  cases hresult : v.collectionDone with
  | none => rw [hresult] at hx'; cases hx'
  | some result =>
    cases result with
    | failure durationSeconds taskId error => rw [hresult] at hnot; cases hnot
    | success scannedResources durationSeconds taskId resourceErrors =>
      have hinfo : (⟨v.cloud, v.accountId, taskId⟩ : PostCollectAccountInfo) ∈ postCollectAccounts state := by
        refine List.mem_filterMap.2 ⟨(key, v), hx, ?_⟩
        dsimp only
        rw [hresult]
      exact List.ne_nil_of_mem hinfo

theorem exec_deleteJobTenants : ∀ (ids : List JobId) (d : Dispatcher), ∃ c,
    exec (ids.forM fun jobId =>
      (modify fun d => { d with collects := d.collects.deleteJobTenant jobId } : Dispatching PUnit)) d =
      (.ok ⟨⟩, { d with collects := c }) ∧
    c.progress = d.collects.progress ∧ c.jobs = d.collects.jobs ∧
    ∀ jobId, c.jobTenant jobId = if jobId ∈ ids then none else d.collects.jobTenant jobId
  | [], d => ⟨d.collects, rfl, rfl, rfl, fun _ => (if_neg List.not_mem_nil).symm⟩
  | id :: ids, d => by
    obtain ⟨c, hexec, hprogress, hjobs, htenant⟩ :=
      exec_deleteJobTenants ids { d with collects := d.collects.deleteJobTenant id }
    refine ⟨c, ?_, hprogress, hjobs, fun jobId => ?_⟩
    · rw [forM_cons, exec_bind, exec_modify]
      exact hexec
    · rw [htenant]
      by_cases hmem : jobId ∈ ids
      · rw [if_pos hmem, if_pos (List.mem_cons_of_mem _ hmem)]
      · rw [if_neg hmem]
        refine (CollectStore.jobTenant_deleteJobTenant d.collects).trans ?_
        by_cases hid : jobId = id
        · rw [if_pos hid, if_pos (hid ▸ List.mem_cons_self)]
        · rw [if_neg hid, if_neg (fun h => (List.mem_cons.1 h).elim hid hmem)]

theorem exec_deleteTenantCollectState (h : Running jobs done d.collects) : ∃ c,
    exec (deleteTenantCollectState workspaceId) d = (.ok ⟨⟩, { d with collects := c }) ∧
      Cleared jobs { d with collects := c } := by
  unfold deleteTenantCollectState
  rw [exec_bind, exec_modify]
  dsimp only
  rw [exec_bind, exec_get]
  dsimp only
  obtain ⟨c, hexec, hprogress, hjobs, htenant⟩ := exec_deleteJobTenants
    (((d.collects.deleteProgress workspaceId).jobs workspaceId).rows.map Prod.fst)
    { d with collects := d.collects.deleteProgress workspaceId }
  refine ⟨c.deleteJobs workspaceId, ?_, ?_, ?_, fun j hj => ?_⟩
  · rw [exec_bind, hexec]
    rfl
  · change c.progress workspaceId = default
    rw [hprogress]
    exact Function.update_self _ _ _
  · exact Function.update_self _ _ _
  · refine (htenant j.jobId).trans (if_pos ?_)
    have hindex : ((d.collects.deleteProgress workspaceId).jobs workspaceId).rows =
        jobs.map fun j => (j.jobId, j.accountId) := h.index
    rw [hindex, List.map_map]
    exact List.mem_map.2 ⟨j, hj, rfl⟩

def runEvent (jobs : List (RunJob workspaceId)) (nextRun : Option DateTime) : DomainEvent :=
  if (endedWith false jobs).isEmpty = false then
    .tenantAccountsCollected workspaceId (endedWith false jobs) (endedWith true jobs) nextRun
  else .tenantAccountsCollectFailed workspaceId (endedWith true jobs) nextRun

def nextScan (d : Dispatcher) (workspaceId : WorkspaceId) : Option DateTime :=
  (d.world.nextRuns.find workspaceId).map (·.time)

/-- A run that is reported: one event, no job, and no key left. -/
structure Reported (jobs : List (RunJob workspaceId)) (event : DomainEvent) (d d' : Dispatcher) : Prop where
  published : d'.world.published = d.world.published ++ [event]
  postCollectQueue : d'.postCollectQueue = d.postCollectQueue
  cleared : Cleared jobs d'

theorem endedWith_ne_nil (hjobs : jobs ≠ []) : endedWith false jobs ≠ [] ∨ endedWith true jobs ≠ [] := by
  obtain ⟨j, hj⟩ := List.exists_mem_of_ne_nil jobs hjobs
  unfold endedWith
  cases hresult : j.result.isFailure with
  | false =>
    exact Or.inl (List.ne_nil_of_mem (List.mem_map_of_mem (List.mem_filter.2 ⟨hj, decide_eq_true hresult⟩)))
  | true =>
    exact Or.inr (List.ne_nil_of_mem (List.mem_map_of_mem (List.mem_filter.2 ⟨hj, decide_eq_true hresult⟩)))

theorem exec_completeCollectJob (h : Running jobs done d.collects) (hjobs : jobs ≠ [])
    (hall : ∀ j ∈ jobs, j.jobId ∈ done) :
    ∃ d', exec (completeCollectJob workspaceId) d = (.ok ⟨⟩, d') ∧
      Reported jobs (runEvent jobs (nextScan d workspaceId)) d d' := by
  have hdone := h.allDone_iff.2 hall
  have hsent : exec (sendDomainEvent workspaceId (d.collects.progress workspaceId)) d =
      (.ok ⟨⟩, { d with world := { d.world with
        published := d.world.published ++ [runEvent jobs (nextScan d workspaceId)] } }) := by
    unfold sendDomainEvent inWorld getNextScan
    rw [exec_bind, exec_embed, exec_bind, exec_get]
    dsimp only
    rw [exec_pure]
    dsimp only
    rw [h.collectedSuccess_eq hall, h.collectedFailed_eq hall]
    unfold runEvent
    by_cases hsuccess : (endedWith false jobs).isEmpty = false
    · rw [if_pos hsuccess, if_pos hsuccess, exec_embed]
      rfl
    · have hfailed : (endedWith true jobs).isEmpty = false := by
        rcases endedWith_ne_nil hjobs with hne | hne
        · exact absurd (List.isEmpty_eq_false_iff.2 hne) hsuccess
        · exact List.isEmpty_eq_false_iff.2 hne
      rw [if_neg hsuccess, if_neg hsuccess, if_pos hfailed, exec_embed]
      rfl
  unfold completeCollectJob
  rw [exec_bind, exec_get]
  dsimp only
  rw [hdone, if_neg Bool.false_ne_true.symm, exec_bind, hsent]
  dsimp only
  obtain ⟨c, hexec, hcleared⟩ := exec_deleteTenantCollectState (d := { d with world := { d.world with
    published := d.world.published ++ [runEvent jobs (nextScan d workspaceId)] } }) h
  exact ⟨_, hexec, rfl, rfl, hcleared⟩

theorem exec_continueRun (h : Running jobs done d.collects) {j : RunJob workspaceId} (hj : j ∈ jobs)
    {db : GraphDatabaseAccess} (hdb : d.databaseAccess.find workspaceId = some db) :
    ((∃ i ∈ jobs, i.jobId ∉ done) → exec (continueRun j.jobId) d = (.ok ⟨⟩, d)) ∧
    ((∀ i ∈ jobs, i.jobId ∈ done) → (∃ i ∈ jobs, i.result.isFailure = false) →
      exec (continueRun j.jobId) d = (.ok ⟨⟩,
        { d with postCollectQueue := d.postCollectQueue ++ [⟨db, jobs.filterMap RunJob.postCollectInfo⟩] })) ∧
    ((∀ i ∈ jobs, i.jobId ∈ done) → (∀ i ∈ jobs, i.result.isFailure = true) →
      ∃ d', exec (continueRun j.jobId) d = (.ok ⟨⟩, d') ∧
        Reported jobs (runEvent jobs (nextScan d workspaceId)) d d') := by
  have hrun : exec (continueRun j.jobId) d = exec (if (d.collects.progress workspaceId).allDone = false then return
      else if (d.collects.progress workspaceId).allFailed then completeCollectJob workspaceId
      else do
        if (postCollectAccounts (d.collects.progress workspaceId)).isEmpty then completeCollectJob workspaceId
        triggerPostCollect workspaceId (postCollectAccounts (d.collects.progress workspaceId)) :
          Dispatching PUnit) d := by
    unfold continueRun
    rw [exec_bind, exec_get]
    dsimp only
    rw [h.jobTenant j hj]
  rw [hrun]
  refine ⟨fun hopen => ?_, fun hall hsome => ?_, fun hall hfailed => ?_⟩
  · have hnot : (d.collects.progress workspaceId).allDone = false := by
      rw [← Bool.not_eq_true, h.allDone_iff]
      obtain ⟨i, hi, hopen⟩ := hopen
      exact fun hall => hopen (hall i hi)
    rw [if_pos hnot]
    rfl
  · have hnot : ¬(d.collects.progress workspaceId).allFailed = true := by
      rw [h.allFailed_iff hall]
      obtain ⟨i, hi, hsuccess⟩ := hsome
      intro hfailed
      rw [hfailed i hi] at hsuccess
      cases hsuccess
    have hcollected : (jobs.filterMap RunJob.postCollectInfo).isEmpty = false := by
      rw [List.isEmpty_eq_false_iff, ← h.postCollectAccounts_eq hall]
      exact postCollectAccounts_nonempty (h.allDone_iff.2 hall) (Bool.eq_false_iff.2 hnot)
    rw [h.allDone_iff.2 hall, if_neg Bool.false_ne_true.symm, if_neg hnot, h.postCollectAccounts_eq hall, hcollected,
      if_neg Bool.false_ne_true]
    unfold triggerPostCollect
    dsimp only
    rw [exec_bind, exec_get]
    dsimp only
    rw [hdb]
    rfl
  · rw [h.allDone_iff.2 hall, if_neg Bool.false_ne_true.symm, if_pos ((h.allFailed_iff hall).2 hfailed)]
    have hjobs : jobs ≠ [] := List.ne_nil_of_mem hj
    exact exec_completeCollectJob h hjobs hall

end End

/-! ## The messages in any order -/

section Run

variable {jobs : List (RunJob workspaceId)} {done : List JobId} {d : Dispatcher}

theorem exec_collectMessage (h : Running jobs done d.collects) (haccounts : (jobs.map RunJob.accountId).Nodup)
    (hids : (jobs.map RunJob.jobId).Nodup) {j : RunJob workspaceId} (hj : j ∈ jobs) :
    ∃ d', Running jobs (j.jobId :: done) d'.collects ∧ Silent d d' ∧
      exec (processCollectDoneMessage j.collectMessage) d = exec (continueRun j.jobId) d' := by
  have hmessage : processCollectDoneMessage j.collectMessage = collectJobFinished j.message j.failed := by
    unfold RunJob.collectMessage
    cases j.failed <;> rfl
  have hentry : entryOf d.collects j.message j.failed = some (workspaceId, j.entry done) := by
    have hworkspace : workspaceOf d.collects j.message j.failed = some workspaceId := by
      have hended := j.ended
      unfold finishResult at hended
      unfold workspaceOf
      cases hfailure : JobMessage.failure j.message j.failed with
      | some error => rw [j.answers]; exact h.jobTenant j hj
      | none =>
        rw [hfailure] at hended
        cases hr : j.message.result with
        | none => rw [hr] at hended; cases htask : j.message.taskId <;> rw [htask] at hended <;> cases hended
        | some r => exact congrArg some (j.tenant r hr)
    unfold entryOf
    rw [hworkspace, Option.bind_some, j.answers, h.entry_by_job hj]
    rfl
  obtain ⟨records, ticks, nextUuid, hexec, -⟩ := exec_handle j.ended fun x hx => by
    rw [hentry] at hx
    cases hx
    exact h.entry hj
  have hcollects : handled d.collects j.message j.failed j.result =
      d.collects.setProgress workspaceId j.accountId (j.entry (j.jobId :: done)) := by
    unfold handled
    rw [hentry, j.entry_ended]
    rfl
  rw [hmessage, collectJobFinished_eq, exec_bind, hexec, j.answers, hcollects]
  refine ⟨_, ?_, ?_, rfl⟩
  · exact h.ended haccounts hids hj
  · exact ⟨rfl, rfl, rfl, rfl⟩

/-- **The run waits** as long as one of its jobs is open. -/
theorem exec_processAll_open (haccounts : (jobs.map RunJob.accountId).Nodup) (hids : (jobs.map RunJob.jobId).Nodup)
    {db : GraphDatabaseAccess} : ∀ (pre : List (RunJob workspaceId)) {done : List JobId} {d : Dispatcher},
    Running jobs done d.collects → d.databaseAccess.find workspaceId = some db → (∀ j ∈ pre, j ∈ jobs) →
    (∃ i ∈ jobs, i.jobId ∉ done ∧ ∀ j ∈ pre, j.jobId ≠ i.jobId) →
    ∃ d' done', exec (processAll pre) d = (.ok ⟨⟩, d') ∧ Running jobs done' d'.collects ∧ Silent d d' ∧
      ∀ id, id ∈ done' ↔ id ∈ done ∨ ∃ j ∈ pre, j.jobId = id
  | [], done, d, h, _, _, _ => ⟨d, done, rfl, h, Silent.refl d, fun id => by simp⟩
  | j :: pre, done, d, h, hdb, hsub, hopen => by
    obtain ⟨i, hi, hnot, hlater⟩ := hopen
    obtain ⟨d₁, h₁, hsilent₁, hmessage⟩ := exec_collectMessage h haccounts hids (hsub j List.mem_cons_self)
    have hdb₁ : d₁.databaseAccess.find workspaceId = some db := by
      rw [hsilent₁.databaseAccess]
      exact hdb
    have hopen₁ : i.jobId ∉ j.jobId :: done := by
      rw [List.mem_cons, not_or]
      exact ⟨fun heq => hlater j List.mem_cons_self heq.symm, hnot⟩
    obtain ⟨d', done', hexec, h', hsilent', hdone'⟩ := exec_processAll_open haccounts hids pre h₁ hdb₁
      (fun x hx => hsub x (List.mem_cons_of_mem _ hx)) ⟨i, hi, hopen₁, fun x hx => hlater x (List.mem_cons_of_mem _ hx)⟩
    refine ⟨d', done', ?_, h', hsilent₁.trans hsilent', fun id => ?_⟩
    · have hcons : processAll (j :: pre) = processCollectDoneMessage j.collectMessage >>= fun _ => processAll pre := rfl
      rw [hcons, exec_bind, hmessage, (exec_continueRun h₁ (hsub j List.mem_cons_self) hdb₁).1 ⟨i, hi, hopen₁⟩]
      exact hexec
    · rw [hdone' id, List.mem_cons]
      constructor
      · rintro ((rfl | hold) | ⟨x, hx, hid⟩)
        · exact Or.inr ⟨j, List.mem_cons_self, rfl⟩
        · exact Or.inl hold
        · exact Or.inr ⟨x, List.mem_cons_of_mem _ hx, hid⟩
      · rintro (hold | ⟨x, hx, hid⟩)
        · exact Or.inl (Or.inr hold)
        · rcases List.mem_cons.1 hx with rfl | hx
          · exact Or.inl (Or.inl hid.symm)
          · exact Or.inr ⟨x, hx, hid⟩

/-- The state in which the jobs of a run are tracked and nothing of it is processed. -/
structure RunStarts (jobs : List (RunJob workspaceId)) (d : Dispatcher) (db : GraphDatabaseAccess) : Prop where
  nonempty : jobs ≠ []
  accounts : (jobs.map RunJob.accountId).Nodup
  ids : (jobs.map RunJob.jobId).Nodup
  tracked : ∃ c : CollectStore, c.progress workspaceId = default ∧ c.jobs workspaceId = default ∧
    d.collects = trackAll c jobs
  databaseAccess : d.databaseAccess.find workspaceId = some db

/-- **The protocol of a run**, its messages coming in some order. -/
structure RunProtocol (jobs order : List (RunJob workspaceId)) (d : Dispatcher) (db : GraphDatabaseAccess) : Prop where
  /-- Before the last message nothing is enqueued or published. -/
  waits : ∀ pre post, order = pre ++ post → post ≠ [] →
    (exec (processAll pre) d).1 = .ok ⟨⟩ ∧ Quiet d (exec (processAll pre) d).2
  /-- When no job succeeded, the last message reports all of them. -/
  failed : (∀ j ∈ jobs, j.result.isFailure = true) → (exec (processAll order) d).1 = .ok ⟨⟩ ∧
    Reported jobs (.tenantAccountsCollectFailed workspaceId (jobs.map fun j => (j.accountId, j.collectInfo))
      (nextScan d workspaceId)) d (exec (processAll order) d).2
  /-- When a job succeeded, the last message enqueues the post-collect job of those that did. -/
  enqueued : (∃ j ∈ jobs, j.result.isFailure = false) → (exec (processAll order) d).1 = .ok ⟨⟩ ∧
    (exec (processAll order) d).2.postCollectQueue = d.postCollectQueue ++
      [⟨db, jobs.filterMap RunJob.postCollectInfo⟩] ∧
    (exec (processAll order) d).2.world.published = d.world.published
  /-- The message of that job reports every account as its job ended. -/
  collected : (∃ j ∈ jobs, j.result.isFailure = false) →
    (exec (processCollectDoneMessage (.postCollectDone workspaceId true)) (exec (processAll order) d).2).1 = .ok ⟨⟩ ∧
    Reported jobs (.tenantAccountsCollected workspaceId (endedWith false jobs) (endedWith true jobs)
      (nextScan d workspaceId)) (exec (processAll order) d).2
      (exec (processCollectDoneMessage (.postCollectDone workspaceId true)) (exec (processAll order) d).2).2
  /-- In that report every account occurs once. -/
  once : ((endedWith false jobs ++ endedWith true jobs).map Prod.fst).Perm (jobs.map RunJob.accountId) ∧
    ((endedWith false jobs ++ endedWith true jobs).map Prod.fst).Nodup

theorem runEvent_failed (hfailed : ∀ j ∈ jobs, j.result.isFailure = true) (nextRun : Option DateTime) :
    runEvent jobs nextRun =
      .tenantAccountsCollectFailed workspaceId (jobs.map fun j => (j.accountId, j.collectInfo)) nextRun := by
  have hnone : endedWith false jobs = [] := by
    unfold endedWith
    rw [List.map_eq_nil_iff, List.filter_eq_nil_iff]
    intro j hj
    rw [hfailed j hj]
    decide
  have hall : endedWith true jobs = jobs.map fun j => (j.accountId, j.collectInfo) := by
    unfold endedWith
    rw [List.filter_eq_self.2 fun j hj => decide_eq_true (hfailed j hj)]
  unfold runEvent
  rw [hnone, hall]
  rfl

theorem runEvent_collected (hsome : ∃ j ∈ jobs, j.result.isFailure = false) (nextRun : Option DateTime) :
    runEvent jobs nextRun =
      .tenantAccountsCollected workspaceId (endedWith false jobs) (endedWith true jobs) nextRun := by
  obtain ⟨j, hj, hsuccess⟩ := hsome
  have hne : endedWith false jobs ≠ [] :=
    List.ne_nil_of_mem (List.mem_map_of_mem (List.mem_filter.2 ⟨hj, decide_eq_true hsuccess⟩))
  unfold runEvent
  rw [if_pos (List.isEmpty_eq_false_iff.2 hne)]

theorem endedWith_perm (jobs : List (RunJob workspaceId)) :
    ((endedWith false jobs ++ endedWith true jobs).map Prod.fst).Perm (jobs.map RunJob.accountId) := by
  have hsplit : ((jobs.filter fun j => decide (j.result.isFailure = false)) ++
      jobs.filter fun j => decide (j.result.isFailure = true)).Perm jobs := by
    have h := List.filter_append_perm (fun j : RunJob workspaceId => decide (j.result.isFailure = false)) jobs
    have hnot : (jobs.filter fun j => !decide (j.result.isFailure = false)) =
        jobs.filter fun j => decide (j.result.isFailure = true) :=
      List.filter_congr fun j _ => by cases j.result.isFailure <;> rfl
    rw [hnot] at h
    exact h
  unfold endedWith
  rw [← List.map_append, List.map_map]
  exact hsplit.map _

/-- **Every run ends as its jobs did**, in whichever order their messages come. -/
theorem collectRun_protocol {db : GraphDatabaseAccess} (h : RunStarts jobs d db) {order : List (RunJob workspaceId)}
    (hperm : order.Perm jobs) : RunProtocol jobs order d db := by
  obtain ⟨c, hprogress, hindex, hcollects⟩ := h.tracked
  have hrunning : Running jobs [] d.collects := by
    rw [hcollects]
    exact running_trackAll hprogress hindex h.accounts h.ids
  have hnodup : (order.map RunJob.jobId).Nodup := (hperm.map _).nodup_iff.2 h.ids
  have hwait : ∀ pre post, order = pre ++ post → post ≠ [] →
      ∃ d' done', exec (processAll pre) d = (.ok ⟨⟩, d') ∧ Running jobs done' d'.collects ∧ Silent d d' ∧
        ∀ id, id ∈ done' ↔ id ∈ [] ∨ ∃ j ∈ pre, j.jobId = id := by
    intro pre post heq hpost
    subst heq
    obtain ⟨i, hi⟩ := List.exists_mem_of_ne_nil post hpost
    rw [List.map_append, List.nodup_append] at hnodup
    exact exec_processAll_open h.accounts h.ids pre hrunning h.databaseAccess
      (fun j hj => hperm.subset (List.mem_append_left _ hj)) ⟨i, hperm.subset (List.mem_append_right _ hi),
        List.not_mem_nil, fun j hj => hnodup.2.2 _ (List.mem_map_of_mem hj) _ (List.mem_map_of_mem hi)⟩
  have horder : order ≠ [] := fun hnil => h.nonempty (List.perm_nil.1 (hnil ▸ hperm.symm))
  obtain ⟨pre, last, hlast⟩ : ∃ pre last, order = pre ++ [last] :=
    ⟨_, _, (List.dropLast_append_getLast horder).symm⟩
  obtain ⟨d₁, done₁, hexec₁, hrunning₁, hsilent₁, hdone₁⟩ := hwait pre [last] hlast (List.cons_ne_nil _ _)
  have hmem : last ∈ jobs := hperm.subset (by rw [hlast]; exact List.mem_append_right _ (List.mem_singleton_self _))
  obtain ⟨d₂, hrunning₂, hsilent₂, hmessage⟩ := exec_collectMessage hrunning₁ h.accounts h.ids hmem
  have hsilent := hsilent₁.trans hsilent₂
  have hall : ∀ i ∈ jobs, i.jobId ∈ last.jobId :: done₁ := by
    intro i hi
    have hin := hperm.symm.subset hi
    rw [hlast, List.mem_append, List.mem_singleton] at hin
    rcases hin with hpre | rfl
    · exact List.mem_cons_of_mem _ ((hdone₁ i.jobId).2 (Or.inr ⟨i, hpre, rfl⟩))
    · exact List.mem_cons_self
  have hdb₂ : d₂.databaseAccess.find workspaceId = some db := by
    rw [hsilent.databaseAccess]
    exact h.databaseAccess
  have hscan : nextScan d₂ workspaceId = nextScan d workspaceId := by
    unfold nextScan
    rw [hsilent.nextRuns]
  have hran : exec (processAll order) d = exec (continueRun last.jobId) d₂ := by
    have happend : processAll order = processAll pre >>= fun _ => processCollectDoneMessage last.collectMessage := by
      have hone : processAll [last] = processCollectDoneMessage last.collectMessage := by
        change processCollectDoneMessage last.collectMessage >>= (fun _ => pure PUnit.unit) = _
        exact bind_pure _
      rw [hlast, ← hone]
      exact List.forM_append
    rw [happend, exec_bind, hexec₁]
    exact hmessage
  obtain ⟨-, hsuccess, hfailure⟩ := exec_continueRun hrunning₂ hmem hdb₂
  have hqueue := hsilent.postCollectQueue
  have hpublished := hsilent.published
  refine ⟨fun pre post heq hpost => ?_, fun hfailed => ?_, fun hsome => ?_, fun hsome => ?_, endedWith_perm jobs, ?_⟩
  · obtain ⟨d', done', hexec, -, hquiet, -⟩ := hwait pre post heq hpost
    rw [hexec]
    exact ⟨rfl, hquiet.postCollectQueue, hquiet.published⟩
  · obtain ⟨d₃, hexec, hreported⟩ := hfailure hall hfailed
    rw [hran, hexec]
    rw [runEvent_failed hfailed, hscan] at hreported
    exact ⟨rfl, hreported.published.trans (by rw [hpublished]), hreported.postCollectQueue.trans hqueue,
      hreported.cleared⟩
  · rw [hran, hsuccess hall hsome]
    exact ⟨rfl, by dsimp only; rw [hqueue], hpublished⟩
  · rw [hran, hsuccess hall hsome]
    have hrunning₃ : Running jobs (last.jobId :: done₁) ({ d₂ with postCollectQueue :=
        d₂.postCollectQueue ++ [⟨db, jobs.filterMap RunJob.postCollectInfo⟩] } : Dispatcher).collects := hrunning₂
    obtain ⟨d₃, hexec, hreported⟩ := exec_completeCollectJob hrunning₃ h.nonempty hall
    have hdone := hrunning₃.allDone_iff.2 hall
    have hpost : exec (processCollectDoneMessage (.postCollectDone workspaceId true)) { d₂ with postCollectQueue :=
        d₂.postCollectQueue ++ [⟨db, jobs.filterMap RunJob.postCollectInfo⟩] } = (.ok ⟨⟩, d₃) := by
      unfold processCollectDoneMessage processPostCollectDoneMessage
      dsimp only
      rw [exec_bind, exec_get]
      dsimp only
      rw [hdone, if_neg Bool.false_ne_true.symm, if_neg Bool.false_ne_true.symm]
      exact hexec
    rw [hpost]
    have hscan₃ : nextScan ({ d₂ with postCollectQueue :=
        d₂.postCollectQueue ++ [⟨db, jobs.filterMap RunJob.postCollectInfo⟩] } : Dispatcher) workspaceId =
        nextScan d workspaceId := hscan
    rw [runEvent_collected hsome, hscan₃] at hreported
    exact ⟨rfl, hreported⟩
  · exact (endedWith_perm jobs).nodup_iff.2 h.accounts

end Run

/-! ## Two jobs -/

def runStart : DateTime := (⟨2024, 1, 1, valid_newYear⟩ : Date).atHour 9

def succeedingJob : RunJob 1 where
  accountId := 21
  info := .gcp "project-1" "key"
  jobId := 31
  startedAt := runStart
  message := ⟨31, none, some "task-31", some 60, some ⟨1, [("project-1", ⟨"gcp", none, [1, 2]⟩)], [], runStart⟩⟩
  failed := false
  result := .success 3 60 "task-31" []
  answers := rfl
  ended := by decide
  tenant := by
    rintro r h
    cases h
    rfl

def failingJob : RunJob 1 where
  accountId := 22
  info := .gcp "project-2" "key"
  jobId := 32
  startedAt := runStart
  message := ⟨32, some "timeout", none, none, none⟩
  failed := true
  result := .failure 0 none "timeout"
  answers := rfl
  ended := by decide
  tenant := by
    rintro r h
    cases h

def twoTracked : Dispatcher where
  world :=
    { accounts := ⟨[], List.nodup_nil⟩
      organizations := ⟨[], List.nodup_nil⟩
      nextRuns := ⟨[], List.nodup_nil⟩
      clock := fun _ => runStart
      ticks := 0
      nextUuid := 100
      accountFailedResourceCount := 0
      published := []
      notices := []
      cfResponses := []
      cfFailures := 0
      commits := [] }
  collects := trackAll ⟨fun _ => default, fun _ => default, fun _ => none⟩ [succeedingJob, failingJob]
  serviceAccountKeys := fun _ => none
  azureCredentials := fun _ => none
  databaseAccess := ⟨[⟨1, "server", "fix", "secret", "one"⟩], oneDatabase_unique⟩
  degradedAccountsPingIntervalHours := 24
  collectQueue := []
  postCollectQueue := []
  metering := []

theorem collectRun_protocol_two :
    RunProtocol [succeedingJob, failingJob] [failingJob, succeedingJob] twoTracked
      ⟨1, "server", "fix", "secret", "one"⟩ :=
  collectRun_protocol ⟨List.cons_ne_nil _ _, by decide, by decide, ⟨_, rfl, rfl, rfl⟩, by decide⟩ (List.Perm.swap _ _ _)

end DispatcherService

end Fix
