import FixBackend.TenantIsolation
/-!
# NextRuns — when the next run of a workspace is due

`next_run_for` of `fixbackend/dispatcher/next_run_repository.py` for any interval: the first of the instants
`last_run + k * delta` after now, and one interval after a last run that is still to come.  A pass of the scheduler
moves its workspace there, so that the run is not due again at the instant that made it due.
-/
namespace Fix

open Calendar Effects

/-! ## The next run -/

/-- What `next_run_for` does with the interval of a tier. -/
def nextRunFrom (delta : Nat) (initialTime now : DateTime) : DateTime :=
  let diff := now.sub initialTime
  if 0 < diff then initialTime.addMicros (delta * (diff.toNat / delta + 1)) else initialTime.addMicros delta

theorem nextRunFor_eq (productTier : ProductTier) (lastRun : Option DateTime) (now : DateTime) :
    nextRunFor productTier lastRun now =
      nextRunFrom ((productTierSettings productTier).scanIntervalHours * 3600000000) (lastRun.getD now) now := rfl

theorem scanInterval_pos (productTier : ProductTier) :
    0 < (productTierSettings productTier).scanIntervalHours * 3600000000 := by
  cases productTier <;> decide

section NextRun

variable {delta : Nat} {lastRun now : DateTime}

theorem nextRunFrom_past (h : lastRun < now) : nextRunFrom delta lastRun now =
    lastRun.addMicros (delta * ((now.toMicros - lastRun.toMicros) / delta + 1)) := by
  rw [DateTime.lt_def] at h
  have hdiff : (now.sub lastRun).toNat = now.toMicros - lastRun.toMicros := by
    unfold DateTime.sub
    omega
  unfold nextRunFrom
  dsimp only
  rw [hdiff, if_pos]
  unfold DateTime.sub
  omega

theorem nextRunFrom_future (h : now ≤ lastRun) : nextRunFrom delta lastRun now = lastRun.addMicros delta := by
  rw [DateTime.le_def] at h
  unfold nextRunFrom
  rw [if_neg]
  unfold DateTime.sub
  omega

/-- **The next run is a whole number of intervals after the last one.** -/
theorem exists_nextRunFrom_eq (delta : Nat) (lastRun now : DateTime) :
    ∃ k, 1 ≤ k ∧ nextRunFrom delta lastRun now = lastRun.addMicros (delta * k) := by
  by_cases h : lastRun < now
  · exact ⟨_, Nat.le_add_left 1 _, nextRunFrom_past h⟩
  · refine ⟨1, Nat.le_refl 1, ?_⟩
    rw [Nat.mul_one]
    refine nextRunFrom_future ?_
    rw [DateTime.lt_def] at h
    rw [DateTime.le_def]
    omega

theorem lt_nextRunFrom (hdelta : 0 < delta) (lastRun now : DateTime) : now < nextRunFrom delta lastRun now := by
  by_cases h : lastRun < now
  · have hperiods := Nat.lt_mul_div_succ (now.toMicros - lastRun.toMicros) hdelta
    rw [nextRunFrom_past h, DateTime.lt_def, DateTime.toMicros_addMicros]
    omega
  · rw [DateTime.lt_def] at h
    have hfuture : now ≤ lastRun := by
      rw [DateTime.le_def]
      omega
    rw [nextRunFrom_future hfuture, DateTime.lt_def, DateTime.toMicros_addMicros]
    omega

theorem nextRunFrom_le {k : Nat} (hk : 1 ≤ k) (hafter : now < lastRun.addMicros (delta * k)) :
    nextRunFrom delta lastRun now ≤ lastRun.addMicros (delta * k) := by
  rw [DateTime.lt_def, DateTime.toMicros_addMicros] at hafter
  by_cases h : lastRun < now
  · have hperiods : (now.toMicros - lastRun.toMicros) / delta + 1 ≤ k := by
      rw [DateTime.lt_def] at h
      refine Nat.succ_le_of_lt (Nat.div_lt_of_lt_mul ?_)
      omega
    have hintervals := Nat.mul_le_mul_left delta hperiods
    rw [nextRunFrom_past h, DateTime.le_def, DateTime.toMicros_addMicros, DateTime.toMicros_addMicros]
    omega
  · have hnow : now ≤ lastRun := by
      rw [DateTime.lt_def] at h
      rw [DateTime.le_def]
      omega
    have hinterval := Nat.le_mul_of_pos_right delta hk
    rw [nextRunFrom_future hnow, DateTime.le_def, DateTime.toMicros_addMicros, DateTime.toMicros_addMicros]
    omega

theorem isLeast_nextRunFrom (hdelta : 0 < delta) (lastRun now : DateTime) :
    IsLeast {t | now < t ∧ ∃ k, 1 ≤ k ∧ t = lastRun.addMicros (delta * k)} (nextRunFrom delta lastRun now) := by
  refine ⟨⟨lt_nextRunFrom hdelta lastRun now, exists_nextRunFrom_eq delta lastRun now⟩, ?_⟩
  rintro t ⟨hafter, k, hk, rfl⟩
  exact nextRunFrom_le hk hafter

/-- `next` is the first instant after `now` that is whole intervals after `lastRun`, the first of all when `lastRun` is
still to come. -/
structure IsNextRun (delta : Nat) (lastRun now next : DateTime) : Prop where
  least : lastRun ≤ now → IsLeast {t | now < t ∧ ∃ k, 1 ≤ k ∧ t = lastRun.addMicros (delta * k)} next
  future : now < lastRun → next = lastRun.addMicros delta
  after : now < next
  phase : ∃ k : Nat, 1 ≤ k ∧ next.sub lastRun = delta * k

theorem isNextRun (hdelta : 0 < delta) (lastRun now : DateTime) :
    IsNextRun delta lastRun now (nextRunFrom delta lastRun now) := by
  refine ⟨fun _ => isLeast_nextRunFrom hdelta lastRun now, fun h => ?_, lt_nextRunFrom hdelta lastRun now, ?_⟩
  · rw [DateTime.lt_def] at h
    exact nextRunFrom_future (Nat.le_of_lt h)
  · obtain ⟨k, hk, hnext⟩ := exists_nextRunFrom_eq delta lastRun now
    refine ⟨k, hk, ?_⟩
    unfold DateTime.sub
    rw [hnext, DateTime.toMicros_addMicros, Nat.cast_add, Nat.cast_mul]
    omega

end NextRun

/-! ## The workspaces of a run -/

/-- The clock does not go back behind `now`, and the next runs of `moved` are after it. -/
structure World.MovedOn (now : DateTime) (moved : List WorkspaceId) (w : World) : Prop where
  clock : ∀ n, w.ticks ≤ n → now ≤ w.clock n
  nextRuns : ∀ run ∈ w.nextRuns.rows, run.tenantId ∈ moved → now < run.time

variable {now : DateTime} {moved : List WorkspaceId}

namespace World.MovedOn

theorem of_same {w w' : World} (h : w.MovedOn now moved) (hclock : w'.clock = w.clock) (hticks : w.ticks ≤ w'.ticks)
    (hruns : w'.nextRuns = w.nextRuns) : w'.MovedOn now moved :=
  ⟨fun n hn => hclock ▸ h.clock n (Nat.le_trans hticks hn), hruns ▸ h.nextRuns⟩

theorem mono {w : World} {moved' : List WorkspaceId} (h : w.MovedOn now moved) (hsub : moved' ⊆ moved) :
    w.MovedOn now moved' :=
  ⟨h.clock, fun run hrun hmem => h.nextRuns run hrun (hsub hmem)⟩

theorem utc : Keeps (World.MovedOn now moved) Fix.utc :=
  Triple.modifyGet _ fun _ hw => hw.of_same rfl (Nat.le_succ _) rfl

theorem uuid4 : Keeps (World.MovedOn now moved) Fix.uuid4 :=
  Triple.modifyGet _ fun _ hw => hw.of_same rfl (Nat.le_refl _) rfl

theorem commitAccount (stored r : AccountRow) : Keeps (World.MovedOn now moved) (Fix.commitAccount stored r) := by
  refine Triple.get_bind fun w hw => ?_
  split
  · exact Triple.throw _ fun w' hw' => hw' ▸ hw
  · exact Triple.modify (fun _ => _) fun _ _ => hw.of_same rfl (Nat.le_refl _) rfl

theorem update (id : FixCloudAccountId) (f : DateTime → CloudAccount → Except Err CloudAccount) :
    Keeps (World.MovedOn now moved) (CloudAccountRepository.update id f) := by
  refine Keeps.bind ?_ fun _ => Keeps.pure _
  unfold CloudAccountRepository.updateWith
  refine Keeps.bind Keeps.get fun w => ?_
  split
  · exact Keeps.throw _
  · refine Keeps.bind (Keeps.lift _) fun account => Keeps.bind utc fun at_ => Keeps.bind (Keeps.lift _) fun p => ?_
    dsimp only
    split
    · exact Keeps.pure _
    · exact Keeps.bind (keeps_of_rests fun _ => rfl) fun _ => Keeps.bind utc fun _ =>
        Keeps.bind (commitAccount _ _) fun _ => Keeps.bind (Keeps.lift _) fun _ => Keeps.pure _

theorem getProductTier (workspaceId : WorkspaceId) :
    Keeps (World.MovedOn now moved) (Fix.getProductTier workspaceId) := by
  unfold Fix.getProductTier
  refine Keeps.bind Keeps.get fun w => ?_
  split
  · exact Keeps.throw _
  · exact Keeps.bind utc fun _ => Keeps.pure _

/-- **The last call of a pass** moves its workspace. -/
theorem updateNextRunFor (workspaceId : WorkspaceId) (productTier : ProductTier) (lastRun : Option DateTime) :
    Triple (World.MovedOn now moved) (Fix.updateNextRunFor workspaceId productTier lastRun)
      (fun _ => World.MovedOn now (workspaceId :: moved)) (World.MovedOn now moved) := by
  apply Triple.of_exec
  intro w hw
  refine ⟨fun n hn => hw.clock n (Nat.le_trans (Nat.le_succ _) hn), fun run hrun hmoved => ?_⟩
  obtain ⟨r, hr, rfl⟩ := List.mem_map.1 hrun
  dsimp only at hmoved ⊢
  split at hmoved
  · rename_i htenant
    have hnow := hw.clock w.ticks (Nat.le_refl _)
    have hlater := lt_nextRunFrom (scanInterval_pos productTier) (lastRun.getD (w.clock w.ticks)) (w.clock w.ticks)
    rw [if_pos htenant]
    dsimp only
    rw [nextRunFor_eq]
    rw [DateTime.le_def] at hnow
    rw [DateTime.lt_def] at hlater ⊢
    omega
  · rename_i htenant
    rw [decide_eq_true_eq] at htenant
    rw [if_neg (by rwa [decide_eq_true_eq])]
    exact hw.nextRuns r hr ((List.mem_cons.1 hmoved).resolve_left htenant)

end World.MovedOn

namespace DispatcherService

def OnWorld (I : World → Prop) (d : Dispatcher) : Prop := I d.world

theorem triple_inWorld {α : Type} {I E : World → Prop} {Q : α → World → Prop} {m : Service α} (hm : Triple I m Q E) :
    Triple (OnWorld I) (inWorld m) (fun a => OnWorld (Q a)) (OnWorld E) :=
  Triple.embed fun d hd => Triple.imp hm (by rintro w rfl; exact hd) (fun _ _ h => h) fun _ h => h

theorem movedOn_triggerCollect (account : CloudAccount) (reason : CollectReason) (deferBy retryFailedFor : Option Nat)
    (collectMicrosoftGraph : Bool) : Keeps (OnWorld (World.MovedOn now moved))
      (triggerCollect account reason deferBy retryFailedFor collectMicrosoftGraph) := by
  unfold triggerCollect
  refine Keeps.bind Keeps.get fun d => ?_
  split
  · exact Keeps.pure _
  · split
    · refine Keeps.bind (triple_inWorld World.MovedOn.uuid4) fun jobId => ?_
      refine Keeps.bind (triple_inWorld World.MovedOn.utc) fun at_ => ?_
      exact Keeps.bind (Keeps.modify _ fun _ hd => hd) fun _ => Keeps.modify _ fun _ hd => hd
    · exact Keeps.pure _

theorem movedOn_scheduleAccounts : ∀ (accounts : List CloudAccount) (azureGraphScheduled : Bool),
    Keeps (OnWorld (World.MovedOn now moved)) (accounts.foldlM scheduleAccount azureGraphScheduled)
  | [], _ => Keeps.pure _
  | account :: accounts, azureGraphScheduled => by
    rw [List.foldlM_cons]
    refine Keeps.bind ?_ fun scheduled => movedOn_scheduleAccounts accounts scheduled
    unfold scheduleAccount
    dsimp only
    split <;> exact Keeps.bind (movedOn_triggerCollect _ _ _ _ _) fun _ => Keeps.pure _

/-- **The pass over a workspace** moves the workspace, or raises and moves none. -/
theorem movedOn_scheduleWorkspace (at_ : DateTime) (azureGraphScheduled : Bool) (run : NextTenantRun) :
    Triple (OnWorld (World.MovedOn now moved)) (scheduleWorkspace at_ azureGraphScheduled run)
      (fun _ => OnWorld (World.MovedOn now (run.tenantId :: moved))) (OnWorld (World.MovedOn now moved)) := by
  have hreads : ∀ {α : Type} {m : Service α}, (∀ w, (exec m w).2 = w) →
      Keeps (OnWorld (World.MovedOn now moved)) (inWorld m) := fun hm => triple_inWorld (keeps_of_rests hm)
  have hready : ∀ w, (exec (CloudAccountRepository.listReadyForCollection run.tenantId) w).2 = w := fun w => by
    rw [exec_listReadyForCollection]
  unfold scheduleWorkspace
  refine Triple.bind Keeps.get fun d => Triple.bind (hreads hready) fun healthyAccounts => ?_
  refine Triple.bind (hreads fun w => by rw [exec_listDegradedForPing]) fun degradedAccounts => ?_
  refine Triple.bind (triple_inWorld (World.MovedOn.getProductTier _)) fun productTier => ?_
  refine Triple.bind (movedOn_scheduleAccounts _ _) fun scheduled => ?_
  refine Triple.bind (Keeps.forM _ fun account _ => triple_inWorld
    (Keeps.bind (World.MovedOn.update _ _) fun _ => Keeps.pure _)) fun _ => ?_
  exact Triple.bind (triple_inWorld (World.MovedOn.updateNextRunFor _ _ _)) fun _ => Triple.pure _ fun _ hd => hd

/-- The workspaces whose passes get to their end, when the passes over `due` start in `d`. -/
def processed (now : DateTime) : Bool → List NextTenantRun → Dispatcher → List WorkspaceId
  | _, [], _ => []
  | azureGraphScheduled, run :: due, d =>
    match exec (scheduleWorkspace now azureGraphScheduled run) d with
    | (.ok scheduled, d') => run.tenantId :: processed now scheduled due d'
    | (.error _, _) => []

theorem movedOn_passes (at_ : DateTime) : ∀ (due : List NextTenantRun) (azureGraphScheduled : Bool)
    (moved : List WorkspaceId) (d : Dispatcher), d.world.MovedOn now moved →
    ∃ moved', (exec (due.foldlM (scheduleWorkspace at_) azureGraphScheduled) d).2.world.MovedOn now moved' ∧
      moved ⊆ moved' ∧ processed at_ azureGraphScheduled due d ⊆ moved' ∧
      ((∃ scheduled, (exec (due.foldlM (scheduleWorkspace at_) azureGraphScheduled) d).1 = .ok scheduled) →
        processed at_ azureGraphScheduled due d = due.map NextTenantRun.tenantId)
  | [], azureGraphScheduled, moved, d, hd => ⟨moved, hd, List.Subset.refl _, List.nil_subset _, fun _ => rfl⟩
  | run :: due, azureGraphScheduled, moved, d, hd => by
    obtain ⟨hok, herror⟩ := movedOn_scheduleWorkspace at_ azureGraphScheduled run d hd
    unfold processed
    rw [List.foldlM_cons, exec_bind]
    rcases hpass : exec (scheduleWorkspace at_ azureGraphScheduled run) d with ⟨e | scheduled, d'⟩
    · refine ⟨moved, herror e d' hpass, List.Subset.refl _, List.nil_subset _, ?_⟩
      rintro ⟨_, h⟩
      cases h
    · obtain ⟨moved', hmoved, hsub, hprocessed, hall⟩ :=
        movedOn_passes at_ due scheduled (run.tenantId :: moved) d' (hok scheduled d' hpass)
      obtain ⟨hself, hold⟩ := List.cons_subset.1 hsub
      dsimp only
      exact ⟨moved', hmoved, hold, List.cons_subset.2 ⟨hself, hprocessed⟩, fun h => by rw [hall h, List.map_cons]⟩

end DispatcherService

/-- The workspaces that a run of the scheduler processes. -/
def Dispatcher.processed (d : Dispatcher) : List WorkspaceId :=
  DispatcherService.processed d.world.now false d.world.dueRuns { d with world := d.world.tick }

namespace DispatcherService

/-- **A run of the scheduler**: its workspaces are due after the instant at which it listed them. -/
theorem movedOn_scheduleNextRuns {d : Dispatcher} (hclock : ∀ n, d.world.ticks ≤ n → d.world.now ≤ d.world.clock n) :
    (exec scheduleNextRuns d).2.world.MovedOn d.world.now d.processed ∧
      ((exec scheduleNextRuns d).1 = .ok ⟨⟩ → d.processed = d.world.dueRuns.map NextTenantRun.tenantId) := by
  have hstart : d.world.tick.MovedOn d.world.now [] :=
    ⟨fun n hn => hclock n (Nat.le_trans (Nat.le_succ _) hn), fun _ _ h => absurd h List.not_mem_nil⟩
  obtain ⟨moved, hmoved, -, hprocessed, hall⟩ :=
    movedOn_passes d.world.now d.world.dueRuns false [] { d with world := d.world.tick } hstart
  rw [exec_scheduleNextRuns_eq]
  rcases hpasses : exec (d.world.dueRuns.foldlM (scheduleWorkspace d.world.now) false) { d with world := d.world.tick }
    with ⟨e | scheduled, d₁⟩
  · rw [hpasses] at hmoved
    refine ⟨hmoved.mono hprocessed, ?_⟩
    rintro ⟨⟩
  · rw [hpasses] at hmoved hall
    refine ⟨?_, fun _ => hall ⟨scheduled, rfl⟩⟩
    dsimp only
    cases (d₁.world.failedScanRows d.world.now).mapM (·.toModel none) with
    | error e => exact hmoved.mono hprocessed
    | ok accounts =>
      have hfailed : Keeps (OnWorld (World.MovedOn d.world.now moved))
          (accounts.forM fun a => triggerCollect a .failedAccountScan none none false) :=
        Keeps.forM _ fun _ _ => movedOn_triggerCollect _ _ _ _ _
      exact World.MovedOn.mono (hfailed.after hmoved) hprocessed

/-- **The next run is the first of its phase after now**, whatever the interval, and no workspace that a run of the
scheduler processes is due at the instant of that run, when the clock does not go back behind it. -/
theorem nextRun_after_now {delta : Nat} (hdelta : 0 < delta) (lastRun now : DateTime) {d : Dispatcher}
    (hclock : ∀ n, d.world.ticks ≤ n → d.world.now ≤ d.world.clock n) :
    IsNextRun delta lastRun now (nextRunFrom delta lastRun now) ∧
      (∀ productTier, IsNextRun ((productTierSettings productTier).scanIntervalHours * 3600000000) lastRun now
        (nextRunFor productTier (some lastRun) now)) ∧
      (∀ run ∈ (exec scheduleNextRuns d).2.world.nextRuns.rows, run.tenantId ∈ d.processed →
        ¬run.time < d.world.now) ∧
      ((exec scheduleNextRuns d).1 = .ok ⟨⟩ →
        d.processed = d.world.dueRuns.map NextTenantRun.tenantId) := by
  obtain ⟨hmoved, hall⟩ := movedOn_scheduleNextRuns hclock
  refine ⟨isNextRun hdelta lastRun now, fun productTier => ?_, fun run hrun hprocessed hdue => ?_, hall⟩
  · rw [nextRunFor_eq]
    exact isNextRun (scanInterval_pos productTier) lastRun now
  · have hlater := hmoved.nextRuns run hrun hprocessed
    rw [DateTime.lt_def] at hlater hdue
    omega

theorem nextRun_after_today : (oneDue ownRows).processed = [1] ∧
    IsNextRun 7 yesterday today (nextRunFrom 7 yesterday today) ∧
    ∀ run ∈ (exec scheduleNextRuns (oneDue ownRows)).2.world.nextRuns.rows, run.tenantId = 1 →
      ¬run.time < (oneDue ownRows).world.now := by
  have hprocessed : (oneDue ownRows).processed = [1] := by decide +kernel
  have hnow : ∀ n, (oneDue ownRows).world.clock n = today := fun _ => rfl
  have hclock : ∀ n, (oneDue ownRows).world.ticks ≤ n →
      (oneDue ownRows).world.now ≤ (oneDue ownRows).world.clock n := by
    intro n _
    unfold World.now
    rw [hnow, hnow, DateTime.le_def]
  obtain ⟨hnext, -, hdue, -⟩ := nextRun_after_now (Nat.succ_pos 6) yesterday today hclock
  rw [hprocessed] at hdue
  exact ⟨hprocessed, hnext, fun run hrun htenant => hdue run hrun (List.mem_singleton.2 htenant)⟩

end DispatcherService

end Fix
