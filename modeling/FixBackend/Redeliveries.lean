import FixBackend.CollectRuns
import FixBackend.Machine
/-!
# Redeliveries — messages of collects that come again

The stream of the collect events delivers at least once.  A message that comes again is harmless when its handler finds
that there is nothing left to do.  A delivery brings the time and the ids that its handler draws.
-/
namespace Fix

open Calendar Effects Machine

/-- A message, whether it comes again, and what is drawn while it is processed. -/
structure Delivery where
  message : DispatcherService.CollectMessage
  redelivered : Bool
  clock : Nat → DateTime
  nextUuid : Uuid

def Dispatcher.at (d : Dispatcher) (clock : Nat → DateTime) (nextUuid : Uuid) : Dispatcher :=
  { d with world := { d.world with clock := clock, ticks := 0, nextUuid := nextUuid } }

namespace DispatcherService

/-- A delivery, processed to its end or to the error it raises. -/
def deliver (d : Dispatcher) (δ : Delivery) : Dispatcher :=
  (exec (processCollectDoneMessage δ.message) (d.at δ.clock δ.nextUuid)).2

def deliverAll (d : Dispatcher) (deliveries : List Delivery) : Dispatcher := deliveries.foldl deliver d

def firstDeliveries (deliveries : List Delivery) : List Delivery := deliveries.filter fun δ => !δ.redelivered

/-- The metering records, the progress entries and the number of post-collect jobs are the same. -/
structure AsIfOnce (d d' : Dispatcher) : Prop where
  metering : d'.metering = d.metering
  progress : d'.collects.progress = d.collects.progress
  postCollectJobs : d'.postCollectQueue.length = d.postCollectQueue.length

/-- **The redeliveries are harmless** all along the deliveries. -/
def RedeliveriesHarmless (d : Dispatcher) (deliveries : List Delivery) : Prop :=
  ∀ pre post, deliveries = pre ++ post → AsIfOnce (deliverAll d (firstDeliveries pre)) (deliverAll d pre)

/-- The handler adds no metering records: it handles an error, or the result of no account. -/
def MetersNothing (m : JobMessage) (failed : Bool) : Prop :=
  JobMessage.failure m failed = none → ∀ r, m.result = some r → r.accountInfo = []

/-- The run of the job waits for others, or it cannot be post-collected. -/
def RunWaits (d : Dispatcher) (jobId : JobId) : Prop :=
  ∀ workspaceId, d.collects.jobTenant jobId = some workspaceId → (d.collects.progress workspaceId).allDone = false ∨
    (d.collects.progress workspaceId).allFailed = false ∧ d.databaseAccess.find workspaceId = none

structure NothingLeft (d : Dispatcher) (m : JobMessage) (failed : Bool) (result : CollectionResult) : Prop where
  meters : MetersNothing m failed
  recorded : ∀ x, entryOf d.collects m failed = some x → x.2.collectionDone = some result
  waits : RunWaits d m.jobId

/-- The message of a job, when it has what its handler reads. -/
def jobOf (δ : Delivery) : Option (JobMessage × Bool) :=
  match δ.message with
  | .collectDone m => some (m, false)
  | .jobFailed m => some (m, true)
  | .postCollectDone _ _ => none

/-- A message of a job that comes again finds nothing left to do. -/
def HarmlessAgain (d : Dispatcher) (δ : Delivery) : Prop :=
  δ.redelivered = true → ∀ m failed, jobOf δ = some (m, failed) → ∀ result, finishResult m failed = some result →
    NothingLeft d m failed result

/-- What comes again is the message of a job, before the run of its workspace is completed. -/
def BeforeCompletion (d : Dispatcher) (δ : Delivery) : Prop :=
  δ.redelivered = true → ∃ m failed, jobOf δ = some (m, failed) ∧
    ∀ workspaceId, d.collects.jobTenant m.jobId = some workspaceId → d.collects.progress workspaceId ≠ default

/-- Every entry is stored under its account. -/
def Keyed (c : CollectStore) : Prop :=
  ∀ workspaceId accountId p, c.accountCollectState workspaceId accountId = some p → p.cloudAccountId = accountId

/-! ## The state up to the time -/

def SameButTime (d d' : Dispatcher) : Prop := ∀ clock nextUuid, d'.at clock nextUuid = d.at clock nextUuid

theorem SameButTime.asIfOnce {d d' : Dispatcher} (h : SameButTime d d') : AsIfOnce d d' := by
  have heq := h d.world.clock 0
  have hmetering := congrArg Dispatcher.metering heq
  have hcollects := congrArg Dispatcher.collects heq
  have hqueue := congrArg Dispatcher.postCollectQueue heq
  exact ⟨hmetering, congrArg CollectStore.progress hcollects, congrArg List.length hqueue⟩

theorem sameButTime_deliver {d d' : Dispatcher} (h : SameButTime d d') (δ : Delivery) : deliver d' δ = deliver d δ := by
  unfold deliver
  rw [h]

/-! ## A message that finds nothing to do -/

theorem setProgress_self {c : CollectStore} {workspaceId : WorkspaceId} {accountId : FixCloudAccountId}
    {p : AccountCollectProgress} (h : c.accountCollectState workspaceId accountId = some p) :
    c.setProgress workspaceId accountId p = c := by
  unfold CollectStore.setProgress
  unfold CollectStore.accountCollectState at h
  rw [Dict.put_self h, Function.update_eq_self]

/-! ## The run of the message -/

theorem exec_sendDomainEvent (workspaceId : WorkspaceId) (state : CollectState) (d : Dispatcher) :
    ∃ published, exec (sendDomainEvent workspaceId state) d =
      (.ok ⟨⟩, { d with world := { d.world with published := published } }) := by
  unfold sendDomainEvent inWorld getNextScan
  rw [exec_bind, exec_embed, exec_bind, exec_get]
  dsimp only
  rw [exec_pure]
  dsimp only
  split
  · exact ⟨_, by rw [exec_embed]; rfl⟩
  · split
    · exact ⟨_, by rw [exec_embed]; rfl⟩
    · exact ⟨d.world.published, rfl⟩

/-- **What completing a run does**: when all its jobs ended, their entries are removed. -/
theorem exec_completeCollectJob_cases (workspaceId : WorkspaceId) (d : Dispatcher) : ∃ published c,
    exec (completeCollectJob workspaceId) d =
      (.ok ⟨⟩, { d with world := { d.world with published := published }, collects := c }) ∧
    c.progress = if (d.collects.progress workspaceId).allDone = true then
      Function.update d.collects.progress workspaceId default else d.collects.progress := by
  unfold completeCollectJob
  rw [exec_bind, exec_get]
  dsimp only
  by_cases hdone : (d.collects.progress workspaceId).allDone = true
  · obtain ⟨published, hsent⟩ := exec_sendDomainEvent workspaceId (d.collects.progress workspaceId) d
    rw [if_neg (by rw [hdone]; exact Bool.false_ne_true.symm), if_pos hdone, exec_bind, hsent]
    dsimp only
    unfold deleteTenantCollectState
    rw [exec_bind, exec_modify]
    dsimp only
    rw [exec_bind, exec_get]
    dsimp only
    obtain ⟨c, hexec, hprogress, -, -⟩ := exec_deleteJobTenants
      (((d.collects.deleteProgress workspaceId).jobs workspaceId).rows.map Prod.fst)
      { d with world := { d.world with published := published }, collects := d.collects.deleteProgress workspaceId }
    rw [exec_bind, hexec]
    exact ⟨published, c.deleteJobs workspaceId, rfl, hprogress⟩
  · rw [if_pos (Bool.not_eq_true _ ▸ hdone), if_neg hdone]
    exact ⟨d.world.published, d.collects, rfl, rfl⟩

theorem exec_continueRun_waits {d : Dispatcher} {jobId : JobId} (h : RunWaits d jobId) :
    exec (continueRun jobId) d = (.ok ⟨⟩, d) := by
  unfold continueRun
  rw [exec_bind, exec_get]
  dsimp only
  cases hworkspace : d.collects.jobTenant jobId with
  | none => rfl
  | some workspaceId =>
    dsimp only
    by_cases hdone : (d.collects.progress workspaceId).allDone = true
    · obtain hopen | ⟨hsome, hdb⟩ := h workspaceId hworkspace
      · rw [hdone] at hopen
        cases hopen
      · rw [if_neg (by rw [hdone]; exact Bool.false_ne_true.symm), hsome, if_neg Bool.false_ne_true,
          List.isEmpty_eq_false_iff.2 (postCollectAccounts_nonempty hdone hsome), if_neg Bool.false_ne_true]
        unfold triggerPostCollect
        rw [exec_bind, exec_get]
        dsimp only
        rw [hdb]
        rfl
    · rw [if_pos (Bool.not_eq_true _ ▸ hdone)]
      rfl

/-- **A run that does not wait is continued**: one job is enqueued, or the entries of the run are removed. -/
theorem exec_continueRun_goes {d : Dispatcher} {jobId : JobId} (h : ¬RunWaits d jobId) :
    ∃ workspaceId, d.collects.jobTenant jobId = some workspaceId ∧
      ((∃ job, exec (continueRun jobId) d = (.ok ⟨⟩, { d with postCollectQueue := d.postCollectQueue ++ [job] })) ∨
        ∃ published c, exec (continueRun jobId) d =
          (.ok ⟨⟩, { d with world := { d.world with published := published }, collects := c }) ∧
          c.progress = Function.update d.collects.progress workspaceId default) := by
  unfold RunWaits at h
  push Not at h
  obtain ⟨workspaceId, hworkspace, hdone, hdb⟩ := h
  rw [ne_eq, Bool.not_eq_false] at hdone
  refine ⟨workspaceId, hworkspace, ?_⟩
  unfold continueRun
  rw [exec_bind, exec_get]
  dsimp only
  rw [hworkspace]
  dsimp only
  rw [if_neg (by rw [hdone]; exact Bool.false_ne_true.symm)]
  cases hfailed : (d.collects.progress workspaceId).allFailed with
  | true =>
    obtain ⟨published, c, hexec, hprogress⟩ := exec_completeCollectJob_cases workspaceId d
    rw [if_pos hdone] at hprogress
    exact Or.inr ⟨published, c, hexec, hprogress⟩
  | false =>
    obtain ⟨db, hdb⟩ := Option.ne_none_iff_exists'.1 (hdb hfailed)
    rw [if_neg Bool.false_ne_true, List.isEmpty_eq_false_iff.2 (postCollectAccounts_nonempty hdone hfailed),
      if_neg Bool.false_ne_true]
    unfold triggerPostCollect
    rw [exec_bind, exec_get]
    dsimp only
    rw [hdb]
    exact Or.inl ⟨_, rfl⟩

/-! ## The entries and their keys -/

section Keys

variable {c c' : CollectStore} {m : JobMessage} {failed : Bool} {result : CollectionResult}

theorem Keyed.entry (h : Keyed c) {x : WorkspaceId × AccountCollectProgress} (hx : entryOf c m failed = some x) :
    c.accountCollectState x.1 x.2.cloudAccountId = some x.2 := by
  unfold entryOf at hx
  obtain ⟨workspaceId, -, hx⟩ := Option.bind_eq_some_iff.1 hx
  obtain ⟨p, hp, rfl⟩ := Option.map_eq_some_iff.1 hx
  unfold accountCollectStateByJobId at hp
  obtain ⟨accountId, -, hp⟩ := Option.bind_eq_some_iff.1 hp
  dsimp only
  rw [h workspaceId accountId p hp]
  exact hp

theorem Keyed.track (h : Keyed c) (workspaceId : WorkspaceId) (accountId : FixCloudAccountId)
    (info : AccountInformation)
    (jobId : JobId) (now : DateTime) : Keyed (c.track workspaceId accountId info jobId now) := by
  intro ws A p hp
  rw [CollectStore.entry_track] at hp
  split at hp
  · rename_i hsame
    cases hp
    exact hsame.2.symm
  · exact h ws A p hp

theorem Keyed.handled (h : Keyed c) : Keyed (handled c m failed result) := by
  unfold DispatcherService.handled
  cases entryOf c m failed with
  | none => exact h
  | some x =>
    intro ws A p hp
    rw [CollectStore.entry_setProgress] at hp
    split at hp
    · rename_i hsame
      cases hp
      exact hsame.2.symm
    · exact h ws A p hp

theorem Keyed.of_progress (h : Keyed c)
    (hc : ∀ workspaceId, c'.progress workspaceId = c.progress workspaceId ∨ c'.progress workspaceId = default) :
    Keyed c' := by
  intro workspaceId accountId p hp
  unfold CollectStore.accountCollectState at hp
  obtain hsame | hcleared := hc workspaceId
  · rw [hsame] at hp
    exact h workspaceId accountId p hp
  · rw [hcleared] at hp
    cases hp

theorem handled_recorded (h : Keyed c)
    (hrecorded : ∀ x, entryOf c m failed = some x → x.2.collectionDone = some result) :
      handled c m failed result = c := by
  unfold handled
  cases hentry : entryOf c m failed with
  | none => rfl
  | some x =>
    have hsame : { x.2 with collectionDone := some result } = x.2 := by rw [← hrecorded x hentry]
    dsimp only
    rw [hsame, setProgress_self (h.entry hentry)]

theorem recorded_of_handled (h : Keyed c) (hsame : (handled c m failed result).progress = c.progress) :
    ∀ x, entryOf c m failed = some x → x.2.collectionDone = some result := by
  rintro ⟨workspaceId, p⟩ hx
  have hnew : (handled c m failed result).accountCollectState workspaceId p.cloudAccountId =
      some { p with collectionDone := some result } := by
    unfold handled
    rw [hx]
    dsimp only
    rw [CollectStore.entry_setProgress, if_pos ⟨rfl, rfl⟩]
  have hold : c.accountCollectState workspaceId p.cloudAccountId = some p := h.entry hx
  unfold CollectStore.accountCollectState at hnew hold
  rw [hsame, hold] at hnew
  exact congrArg AccountCollectProgress.collectionDone (Option.some.inj hnew)

end Keys

/-! ## One message -/

section Message

variable {d : Dispatcher} {m : JobMessage} {failed : Bool} {result : CollectionResult}

theorem exec_handle_raises (h : finishResult m failed = none) (d : Dispatcher) :
    ∃ e, exec (handle m failed) d = (.error e, d) := by
  unfold finishResult at h
  unfold handle
  cases hfailure : JobMessage.failure m failed with
  | some error => rw [hfailure] at h; cases h
  | none =>
    rw [hfailure] at h
    unfold handleSuccess
    cases htask : m.taskId with
    | none => exact ⟨_, rfl⟩
    | some taskId =>
      cases hr : m.result with
      | none => exact ⟨_, rfl⟩
      | some r =>
        cases hduration : m.duration with
        | none => exact ⟨_, rfl⟩
        | some duration => rw [htask, hr, hduration] at h; cases h

/-- **A message that finds nothing to do takes time and ids.** -/
theorem exec_nothingLeft (hkeyed : Keyed d.collects)
    (h : ∀ result, finishResult m failed = some result → NothingLeft d m failed result) : ∃ ticks nextUuid,
    (exec (collectJobFinished m failed) d).2 =
      { d with world := { d.world with ticks := ticks, nextUuid := nextUuid } } := by
  rw [collectJobFinished_eq, exec_bind]
  cases hresult : finishResult m failed with
  | none =>
    obtain ⟨e, hexec⟩ := exec_handle_raises hresult d
    rw [hexec]
    exact ⟨d.world.ticks, d.world.nextUuid, rfl⟩
  | some result =>
    have hnothing := h result hresult
    obtain ⟨records, ticks, nextUuid, hexec, hrecords⟩ := exec_handle hresult fun x hx => hkeyed.entry hx
    have hwaits : RunWaits { d with world := { d.world with ticks := ticks, nextUuid := nextUuid } } m.jobId :=
      hnothing.waits
    rw [hexec, hrecords.2 hnothing.meters, handled_recorded hkeyed hnothing.recorded, List.append_nil]
    dsimp only
    rw [exec_continueRun_waits hwaits]
    exact ⟨ticks, nextUuid, rfl⟩

/-- **A message that changes none of the three finds nothing to do**, before the run of its workspace is completed. -/
theorem nothingLeft_of_asIfOnce (hkeyed : Keyed d.collects)
    (hbefore : ∀ workspaceId, d.collects.jobTenant m.jobId = some workspaceId →
      d.collects.progress workspaceId ≠ default)
    (h : AsIfOnce d (exec (collectJobFinished m failed) d).2) (hresult : finishResult m failed = some result) :
    NothingLeft d m failed result := by
  obtain ⟨records, ticks, nextUuid, hexec, hrecords⟩ := exec_handle hresult fun x hx => hkeyed.entry hx
  rw [collectJobFinished_eq, exec_bind, hexec] at h
  dsimp only at h
  have htenant : (handled d.collects m failed result).jobTenant = d.collects.jobTenant := by
    unfold handled
    cases entryOf d.collects m failed <;> rfl
  by_cases hwaits : RunWaits { d with
      world := { d.world with ticks := ticks, nextUuid := nextUuid }
      metering := d.metering ++ records
      collects := handled d.collects m failed result } m.jobId
  · rw [exec_continueRun_waits hwaits] at h
    have hrecorded := recorded_of_handled hkeyed h.progress
    rw [handled_recorded hkeyed hrecorded] at hwaits
    exact ⟨hrecords.1 (List.append_right_eq_self.1 h.metering), hrecorded, hwaits⟩
  · obtain ⟨workspaceId, hworkspace, ⟨job, hgoes⟩ | ⟨published, c, hgoes, hcleared⟩⟩ := exec_continueRun_goes hwaits
    · rw [hgoes] at h
      have hlength : (d.postCollectQueue ++ [job]).length = d.postCollectQueue.length := h.postCollectJobs
      rw [List.length_append, List.length_singleton] at hlength
      omega
    · rw [hgoes] at h
      have hsame : c.progress = d.collects.progress := h.progress
      rw [htenant] at hworkspace
      refine absurd ?_ (hbefore workspaceId hworkspace)
      rw [← hsame, hcleared, Function.update_self]

end Message

/-! ## One delivery -/

section Delivery

variable {d d₀ : Dispatcher} {δ : Delivery}

theorem deliver_of_jobOf {m : JobMessage} {failed : Bool} (h : jobOf δ = some (m, failed)) (d : Dispatcher) :
    deliver d δ = (exec (collectJobFinished m failed) (d.at δ.clock δ.nextUuid)).2 := by
  unfold jobOf at h
  unfold deliver
  cases hmessage : δ.message with
  | collectDone m' => rw [hmessage] at h; cases h; rfl
  | jobFailed m' => rw [hmessage] at h; cases h; rfl
  | postCollectDone workspaceId success => rw [hmessage] at h; cases h

/-- **A redelivery is harmless when, and only when, its message finds nothing to do.** -/
theorem harmlessAgain_iff (hkeyed : Keyed d.collects) (hbefore : BeforeCompletion d δ) (hagain : δ.redelivered = true) :
    (HarmlessAgain d δ → SameButTime d (deliver d δ)) ∧ (AsIfOnce d (deliver d δ) → HarmlessAgain d δ) := by
  obtain ⟨m, failed, hjob, hprogress⟩ := hbefore hagain
  rw [deliver_of_jobOf hjob]
  constructor
  · intro h
    have hnothing : ∀ result, finishResult m failed = some result →
        NothingLeft (d.at δ.clock δ.nextUuid) m failed result := fun result hresult => by
      have := h hagain m failed hjob result hresult
      exact ⟨this.meters, this.recorded, this.waits⟩
    obtain ⟨ticks, nextUuid, hexec⟩ := exec_nothingLeft (d := d.at δ.clock δ.nextUuid) hkeyed hnothing
    intro clock nextUuid'
    rw [hexec]
    rfl
  · intro h _ m' failed' hjob' result hresult
    rw [hjob] at hjob'
    cases hjob'
    have hsame : AsIfOnce (d.at δ.clock δ.nextUuid)
        (exec (collectJobFinished m failed) (d.at δ.clock δ.nextUuid)).2 := ⟨h.metering, h.progress, h.postCollectJobs⟩
    have := nothingLeft_of_asIfOnce (d := d.at δ.clock δ.nextUuid) hkeyed hprogress hsame hresult
    exact ⟨this.meters, this.recorded, this.waits⟩

theorem keyed_completeCollectJob (hkeyed : Keyed d.collects) (workspaceId : WorkspaceId) :
    Keyed (exec (completeCollectJob workspaceId) d).2.collects := by
  obtain ⟨published, c, hexec, hprogress⟩ := exec_completeCollectJob_cases workspaceId d
  rw [hexec]
  refine hkeyed.of_progress fun ws => ?_
  dsimp only
  rw [hprogress]
  split
  · by_cases hws : ws = workspaceId
    · exact Or.inr (by rw [hws, Function.update_self])
    · exact Or.inl (Function.update_of_ne hws _ _)
  · exact Or.inl rfl

theorem keyed_continueRun (hkeyed : Keyed d.collects) (jobId : JobId) :
    Keyed (exec (continueRun jobId) d).2.collects := by
  by_cases hwaits : RunWaits d jobId
  · rw [exec_continueRun_waits hwaits]
    exact hkeyed
  · obtain ⟨workspaceId, -, ⟨job, hgoes⟩ | ⟨published, c, hgoes, hcleared⟩⟩ := exec_continueRun_goes hwaits
    · rw [hgoes]
      exact hkeyed
    · rw [hgoes]
      refine hkeyed.of_progress fun ws => ?_
      dsimp only
      rw [hcleared]
      by_cases hws : ws = workspaceId
      · exact Or.inr (by rw [hws, Function.update_self])
      · exact Or.inl (Function.update_of_ne hws _ _)

theorem keyed_collectJobFinished (hkeyed : Keyed d.collects) (m : JobMessage) (failed : Bool) :
    Keyed (exec (collectJobFinished m failed) d).2.collects := by
  rw [collectJobFinished_eq, exec_bind]
  cases hresult : finishResult m failed with
  | none =>
    obtain ⟨e, hexec⟩ := exec_handle_raises hresult d
    rw [hexec]
    exact hkeyed
  | some result =>
    obtain ⟨records, ticks, nextUuid, hexec, -⟩ := exec_handle hresult fun x hx => hkeyed.entry hx
    rw [hexec]
    refine keyed_continueRun ?_ m.jobId
    exact hkeyed.handled

/-- **Every delivery leaves every entry under its account.** -/
theorem keyed_deliver (hkeyed : Keyed d.collects) (δ : Delivery) : Keyed (deliver d δ).collects := by
  unfold deliver
  have hat : Keyed (d.at δ.clock δ.nextUuid).collects := hkeyed
  cases δ.message with
  | collectDone m => exact keyed_collectJobFinished hat m false
  | jobFailed m => exact keyed_collectJobFinished hat m true
  | postCollectDone workspaceId success =>
    unfold processCollectDoneMessage processPostCollectDoneMessage
    dsimp only
    rw [exec_bind, exec_get]
    dsimp only
    split
    · exact hat
    · split
      · exact hat
      · exact keyed_completeCollectJob hat workspaceId

end Delivery

/-! ## The deliveries -/

def deliveryStep (d : Dispatcher) (δ : Delivery) : Option Dispatcher := some (deliver d δ)

theorem along_delivery_cons {C : Dispatcher → Delivery → Prop} {d : Dispatcher} {δ : Delivery} {rest : List Delivery} :
    Along deliveryStep C d (δ :: rest) ↔ C d δ ∧ Along deliveryStep C (deliver d δ) rest := by
  refine ⟨fun h => ⟨h.1, h.2 _ rfl⟩, fun h => ⟨h.1, fun d' hd' => ?_⟩⟩
  cases hd'
  exact h.2

theorem forall_pre_cons {α : Type} {P : List α → Prop} {a : α} {rest : List α} :
    (∀ pre post, a :: rest = pre ++ post → P pre) ↔ P [] ∧ ∀ pre post, rest = pre ++ post → P (a :: pre) := by
  constructor
  · intro h
    exact ⟨h [] _ rfl, fun pre post hrest => h (a :: pre) post (congrArg (List.cons a) hrest)⟩
  · rintro ⟨hnil, hcons⟩ pre post hsplit
    cases pre with
    | nil => exact hnil
    | cons b pre =>
      rw [List.cons_append, List.cons.injEq] at hsplit
      obtain ⟨rfl, hrest⟩ := hsplit
      exact hcons pre post hrest

theorem AsIfOnce.congr {d₀ d d' : Dispatcher} (h : AsIfOnce d₀ d) (h' : AsIfOnce d₀ d') : AsIfOnce d d' :=
  ⟨h'.metering.trans h.metering.symm, h'.progress.trans h.progress.symm,
    h'.postCollectJobs.trans h.postCollectJobs.symm⟩

/-- The run without the redeliveries and the run with them, from states that are the same but for the time. -/
theorem asIfOnce_iff : ∀ (deliveries : List Delivery) (d₀ d : Dispatcher), SameButTime d₀ d → Keyed d.collects →
    Along deliveryStep BeforeCompletion d deliveries →
    ((∀ pre post, deliveries = pre ++ post → AsIfOnce (deliverAll d₀ (firstDeliveries pre)) (deliverAll d pre)) ↔
      Along deliveryStep HarmlessAgain d deliveries)
  | [], d₀, d, hsame, _, _ => by
    refine ⟨fun _ => trivial, fun _ pre post hsplit => ?_⟩
    rw [(List.append_eq_nil_iff.1 hsplit.symm).1]
    exact hsame.asIfOnce
  | δ :: rest, d₀, d, hsame, hkeyed, hscope => by
    obtain ⟨hbefore, hscope⟩ := along_delivery_cons.1 hscope
    rw [forall_pre_cons, along_delivery_cons]
    cases hagain : δ.redelivered with
    | false =>
      have hfirst : ∀ pre, deliverAll d₀ (firstDeliveries (δ :: pre)) = deliverAll (deliver d δ)
          (firstDeliveries pre) := by
        intro pre
        unfold firstDeliveries
        rw [List.filter_cons_of_pos (by rw [hagain]; rfl), sameButTime_deliver hsame δ]
        rfl
      have hrest := asIfOnce_iff rest (deliver d δ) (deliver d δ) (fun _ _ => rfl) (keyed_deliver hkeyed δ) hscope
      constructor
      · rintro ⟨-, hcons⟩
        refine ⟨fun h => (by rw [hagain] at h; cases h), hrest.1 fun pre post hsplit => ?_⟩
        rw [← hfirst]
        exact hcons pre post hsplit
      · rintro ⟨-, halong⟩
        refine ⟨hsame.asIfOnce, fun pre post hsplit => ?_⟩
        rw [hfirst]
        exact hrest.2 halong pre post hsplit
    | true =>
      have hfirst : ∀ pre, firstDeliveries (δ :: pre) = firstDeliveries pre := fun pre =>
        List.filter_cons_of_neg (by rw [hagain]; exact Bool.false_ne_true)
      have hone := harmlessAgain_iff hkeyed hbefore hagain
      have hrest (hharmless : HarmlessAgain d δ) :=
        asIfOnce_iff rest d₀ (deliver d δ)
          (fun clock nextUuid => (hone.1 hharmless clock nextUuid).trans (hsame clock nextUuid))
          (keyed_deliver hkeyed δ) hscope
      constructor
      · rintro ⟨-, hcons⟩
        have hharmless : HarmlessAgain d δ := by
          have hafter := hcons [] rest rfl
          rw [hfirst] at hafter
          exact hone.2 (hsame.asIfOnce.congr hafter)
        refine ⟨hharmless, (hrest hharmless).1 fun pre post hsplit => ?_⟩
        rw [← hfirst]
        exact hcons pre post hsplit
      · rintro ⟨hharmless, halong⟩
        refine ⟨hsame.asIfOnce, fun pre post hsplit => ?_⟩
        rw [hfirst]
        exact (hrest hharmless).2 halong pre post hsplit

/-- **Redeliveries are harmless when each finds nothing left to do, and only then.** -/
theorem redeliveries_harmless_iff {d : Dispatcher} {deliveries : List Delivery} (hkeyed : Keyed d.collects)
    (hscope : Along deliveryStep BeforeCompletion d deliveries) :
    RedeliveriesHarmless d deliveries ↔ Along deliveryStep HarmlessAgain d deliveries :=
  asIfOnce_iff deliveries d d (fun _ _ => rfl) hkeyed hscope

/-! ## The same message twice -/

def firstTime (j : RunJob 1) : Delivery := ⟨j.collectMessage, false, fun _ => runStart, 100⟩

def twice (j : RunJob 1) : List Delivery := [firstTime j, ⟨j.collectMessage, true, fun _ => runStart, 200⟩]

theorem keyed_twoTracked : Keyed twoTracked.collects := by
  have hempty : Keyed ⟨fun _ => default, fun _ => default, fun _ => none⟩ := fun _ _ p hp => by cases hp
  exact (hempty.track 1 21 succeedingJob.info 31 runStart).track 1 22 failingJob.info 32 runStart

theorem twice_beforeCompletion {j : RunJob 1} {m : JobMessage} {failed : Bool}
    (hjob : jobOf (firstTime j) = some (m, failed))
    (htenant : (deliver twoTracked (firstTime j)).collects.jobTenant m.jobId = some 1)
    (hrows : ((deliver twoTracked (firstTime j)).collects.progress 1).rows.length = 2) :
    Along deliveryStep BeforeCompletion twoTracked (twice j) := by
  refine along_delivery_cons.2 ⟨fun h => (by cases h), along_delivery_cons.2 ⟨fun _ => ?_, trivial⟩⟩
  refine ⟨m, failed, hjob, fun workspaceId hworkspace hempty => ?_⟩
  rw [← Option.some.inj (htenant.symm.trans hworkspace)] at hempty
  rw [hempty] at hrows
  cases hrows

/-- The metering records of a result that comes twice are added twice, while the run waits for the other job. -/
theorem done_twice_not_harmless : Keyed twoTracked.collects ∧
    Along deliveryStep BeforeCompletion twoTracked (twice succeedingJob) ∧
    ¬RedeliveriesHarmless twoTracked (twice succeedingJob) := by
  refine ⟨keyed_twoTracked, ?_, fun h => ?_⟩
  · exact twice_beforeCompletion (m := succeedingJob.message) rfl (by decide +kernel)
      (by decide +kernel)
  · have hmetering := congrArg List.length (h (twice succeedingJob) [] (List.append_nil _).symm).metering
    have honce : (deliverAll twoTracked (firstDeliveries (twice succeedingJob))).metering.length =
        1 := by decide +kernel
    have htwice : (deliverAll twoTracked (twice succeedingJob)).metering.length = 2 := by decide +kernel
    rw [honce, htwice] at hmetering
    cases hmetering

theorem failed_twice_harmless : RedeliveriesHarmless twoTracked (twice failingJob) := by
  have htenant : (deliver twoTracked (firstTime failingJob)).collects.jobTenant 32 = some 1 := by decide +kernel
  refine (redeliveries_harmless_iff keyed_twoTracked ?_).2 ?_
  · exact twice_beforeCompletion (m := failingJob.message) rfl htenant (by decide +kernel)
  · refine along_delivery_cons.2 ⟨fun h => (by cases h), along_delivery_cons.2 ⟨?_, trivial⟩⟩
    rintro - m failed hjob result hresult
    cases hjob
    cases hresult
    refine ⟨fun h => (by cases h), fun x hx => ?_, fun workspaceId hworkspace => Or.inl ?_⟩
    · have hentry : entryOf (deliver twoTracked (firstTime failingJob)).collects failingJob.message true =
          some (1, ⟨.gcp, 22, "project-2", runStart, some (.failure 0 none "timeout"), 32⟩) := by decide +kernel
      rw [← Option.some.inj (hentry.symm.trans hx)]
      decide +kernel
    · rw [← Option.some.inj (htenant.symm.trans hworkspace)]
      decide +kernel

end DispatcherService

end Fix
