import FixBackend.AccountStates
import FixBackend.CollectEvents
import FixBackend.Machine
/-!
# FirstScan — the mail about the first collect of a workspace

`process_domain_event` takes a collect of a workspace to be the first one when none of the accounts in the event has a
last scan.  That is right of a workspace that was never collected; of any other one it depends on an account of the
event having been scanned since it was last deleted.
-/
namespace Fix

open Calendar Effects Machine

/-- An account of the workspace has a last scan, or had one before a change. -/
def World.everCollected (w : World) (workspaceId : WorkspaceId) : Bool :=
  (w.accounts.rows ++ w.commits.map Prod.fst).any fun r =>
    decide (r.tenantId = workspaceId) && r.lastScanStartedAt.isSome

/-- The two notices about the first collect of a workspace: the event for the analytics and the mail. -/
def firstNotices (workspaceId : WorkspaceId) : List Notice :=
  [.firstWorkspaceCollectFinished workspaceId, .securityScanFinished workspaceId]

def historyStep (w : World) (op : Operation) : Option World := some (op.run w)

/-- The operation handles an event about accounts of the workspace that were collected. -/
def Operation.collects (workspaceId : WorkspaceId) : Operation → Bool
  | .tenantAccountsCollected tenantId _ _ _ => decide (tenantId = workspaceId)
  | _ => false

def Operation.returns (op : Operation) (w : World) : Bool := (exec op.call w).1.toBool

/-- The notices of a first collect are sent in this step exactly when it handles a collect of the workspace and no
account of the workspace was ever collected. -/
def FirstExactly (w : World) (op : Operation) : Prop :=
  ∀ workspaceId, ∀ n ∈ firstNotices workspaceId, (op.run w).notices.count n = w.notices.count n +
    if op.collects workspaceId && op.returns w && !w.everCollected workspaceId then 1 else 0

/-- No workspace was told twice of its first collect. -/
def FirstOnce (w : World) : Prop := ∀ workspaceId, ∀ n ∈ firstNotices workspaceId, w.notices.count n ≤ 1

/-- Every collect is told of exactly when it is the first, and no workspace is told twice. -/
def FirstTold (w : World) (ops : List Operation) : Prop :=
  Along historyStep FirstExactly w ops ∧ ∀ w', run historyStep w ops = some w' → FirstOnce w'

/-- The accounts of an event are accounts of its workspace, and in a workspace that was collected before, one of the
collected ones has a last scan. -/
def ShowsScan (w : World) : Operation → Prop
  | .tenantAccountsCollected tenantId accounts failed _ =>
    accounts ++ failed ≠ [] ∧
      (∀ item ∈ accounts ++ failed, (w.accounts.find item.1).all (fun r => decide (r.tenantId = tenantId)) = true) ∧
      (w.everCollected tenantId = true → ∃ item ∈ accounts,
        (w.accounts.find item.1).any (·.lastScanStartedAt.isSome) = true)
  | _ => True

/-! ## What was ever collected -/

theorem AccountRow.toModel_lastScanStartedAt {r : AccountRow} {nextScan : Option DateTime} {a : CloudAccount}
    (h : r.toModel nextScan = .ok a) : a.lastScanStartedAt = r.lastScanStartedAt := by
  unfold toModel at h
  split at h <;> cases h
  rfl

section Collected

variable {w w' : World} {workspaceId : WorkspaceId}

theorem World.everCollected_iff : w.everCollected workspaceId = true ↔
    ∃ r, (r ∈ w.accounts.rows ∨ r ∈ w.commits.map Prod.fst) ∧ r.tenantId = workspaceId ∧
      r.lastScanStartedAt.isSome = true := by
  unfold everCollected
  simp only [List.any_eq_true, List.mem_append, Bool.and_eq_true, decide_eq_true_eq]

theorem World.everCollected_insert {r : AccountRow} (hnone : w.accounts.find r.id = none)
    (h : w.everCollected workspaceId = true) : (w.insert r hnone).everCollected workspaceId = true := by
  rw [World.everCollected_iff] at h ⊢
  obtain ⟨x, hx, hrest⟩ := h
  exact ⟨x, hx.imp_left (List.mem_append_left _), hrest⟩

theorem closed_everCollected (workspaceId : WorkspaceId) :
    Closed (fun w => w.everCollected workspaceId = true) fun _ => True where
  framed := by
    intro w w' hacc hcom _ _ h
    rw [World.everCollected_iff] at h ⊢
    rw [hacc, hcom]
    exact h
  commit := by
    intro w row a updated updatedAt k h hfind _ _ _
    rw [World.everCollected_iff] at h ⊢
    obtain ⟨r, hr, hrest⟩ := h
    refine ⟨r, ?_, hrest⟩
    unfold World.commit
    dsimp only
    rw [List.map_append]
    rcases hr with hr | hr
    · by_cases hid : r.id = row.id
      · have heq : r = row := List.inj_on_of_nodup_map w.accounts.unique hr (Table.mem_of_find hfind) hid
        exact Or.inr (List.mem_append_right _ (heq ▸ List.mem_singleton.2 rfl))
      · refine Or.inl (Table.mem_of_find (k := r.id) ?_)
        rw [Table.find_replace_of_ne _ (by rw [AccountRow.written_id]; exact hid)]
        exact (Table.find_eq_some_iff _ _ _).2 ⟨hr, rfl⟩
    · exact Or.inr (List.mem_append_left _ hr)
  insert w a hnone h _ := World.everCollected_insert hnone h

theorem keeps_everCollected (op : Operation) : Keeps (fun w => w.everCollected workspaceId = true) op.call :=
  (closed_everCollected workspaceId).operation (fun _ _ => trivial)
    (fun _ _ hnone h => World.everCollected_insert hnone h) op fun _ => trivial

theorem everCollected_of_recordScan {threshold : Int} {info : CloudAccountCollectInfo} {nextRun : Option DateTime}
    {failed : Bool} {id : FixCloudAccountId} {a : CloudAccount}
    (howner : ∀ r, w.accounts.find id = some r → r.tenantId = workspaceId)
    (h : exec (CloudAccountRepository.update id (recordScan threshold info nextRun failed)) w = (.ok a, w')) :
    w'.everCollected workspaceId = true := by
  rw [World.everCollected_iff]
  cases hfind : w.accounts.find id with
  | none =>
    rw [CloudAccountRepository.exec_update_missing hfind] at h
    cases h
  | some r =>
    have hr := howner r hfind
    have hid : r.id = id := Table.key_of_find hfind
    cases hmodel : r.toModel none with
    | error e =>
      rw [CloudAccountRepository.exec_update_unreadable hfind hmodel] at h
      cases h
    | ok stored =>
      rw [CloudAccountRepository.exec_update hfind hmodel] at h
      unfold recordScan at h
      dsimp only at h
      have hworkspace : stored.workspaceId = workspaceId := (AccountRow.toModel_ok hmodel).2.2.1.trans hr
      split at h
      · -- the scan was recorded before
        rename_i hsame
        cases h
        refine ⟨r, Or.inl (Table.mem_of_find (t := w.accounts) hfind), hr, ?_⟩
        rw [← AccountRow.toModel_lastScanStartedAt hmodel, hsame]
        rfl
      · split at h
        · cases h
        · have hw := (Prod.mk.inj h).2
          rw [← hw]
          refine ⟨_, Or.inl (Table.mem_of_find (World.find_commit (w := w.tick.tick) hfind hid)), hworkspace, rfl⟩

theorem everCollected_of_processCollected {nextRun : Option DateTime} {failed : Bool}
    {item : FixCloudAccountId × CloudAccountCollectInfo}
    (howner : ∀ r, w.accounts.find item.1 = some r → r.tenantId = workspaceId)
    (h : exec (processCollected nextRun failed item) w = (.ok ⟨⟩, w')) : w'.everCollected workspaceId = true := by
  unfold processCollected at h
  rw [exec_bind] at h
  -- the scan is recorded first, and what follows keeps it
  have hrecord : ∀ a w₁, exec (recordCollected nextRun failed item) w = (.ok a, w₁) →
      w₁.everCollected workspaceId = true := by
    intro a w₁ hrec
    unfold recordCollected at hrec
    rw [exec_bind, exec_get] at hrec
    dsimp only at hrec
    rw [exec_bind] at hrec
    rcases hupdate : exec (CloudAccountRepository.update item.1
        (recordScan w.accountFailedResourceCount item.2 nextRun failed)) w with ⟨e | updated, w₂⟩
    · rw [hupdate] at hrec
      cases hrec
    · rw [hupdate] at hrec
      dsimp only at hrec
      have hcollected := everCollected_of_recordScan howner hupdate
      split at hrec
      · have hdegrade := (closed_everCollected workspaceId).tolerant.degradeAccount trivial updated.id
          "Too many consecutive failed scans" .other
        have hkeeps := (Keeps.bind hdegrade fun _ => Keeps.pure updated).after hcollected
        rw [hrec] at hkeeps
        exact hkeeps
      · cases hrec
        exact hcollected
  rcases hrec : exec (recordCollected nextRun failed item) w with ⟨e | updated, w₁⟩
  · rw [hrec] at h
    cases h
  · rw [hrec] at h
    dsimp only at h
    have hcollected := hrecord updated w₁ hrec
    split at h
    · have hkeeps := (Keeps.bind ((closed_everCollected workspaceId).tolerant.undegradeAccount trivial updated.id)
        fun _ => Keeps.pure PUnit.unit).after hcollected
      rw [h] at hkeeps
      exact hkeeps
    · cases h
      exact hcollected

theorem everCollected_of_forM {nextRun : Option DateTime} {failed : Bool} {items : List CollectEntry}
    (hitems : items ≠ []) (howner : ∀ item ∈ items, ∀ r, w.accounts.find item.1 = some r → r.tenantId = workspaceId)
    (h : exec (items.forM (processCollected nextRun failed)) w = (.ok ⟨⟩, w')) :
      w'.everCollected workspaceId = true := by
  cases items with
  | nil => exact absurd rfl hitems
  | cons item items =>
    rw [forM_cons, exec_bind] at h
    rcases hfirst : exec (processCollected nextRun failed item) w with ⟨e | u, w₁⟩
    · rw [hfirst] at h
      cases h
    · rw [hfirst] at h
      have hcollected := everCollected_of_processCollected (howner item List.mem_cons_self) hfirst
      have hkeeps :=
        (Keeps.forM items fun item _ => (closed_everCollected workspaceId).tolerant.processCollected trivial trivial
        trivial nextRun failed item).after hcollected
      have hrest : exec (items.forM (processCollected nextRun failed)) w₁ = (.ok ⟨⟩, w') := h
      rw [hrest] at hkeeps
      exact hkeeps

end Collected

/-! ## What an operation sends -/

section Sent

variable {w w' : World} {workspaceId : WorkspaceId}

theorem aside_notices (notices : List Notice) : Aside fun w => w.notices = notices :=
  fun _ _ hsame _ _ h => hsame.trans h

/-- **Only a collect event sends notices.** -/
theorem notices_of_not_collects {op : Operation} (h : ∀ workspaceId, op.collects workspaceId = false) (w : World) :
    (op.run w).notices = w.notices := by
  have hI := aside_notices w.notices
  have htolerant := hI.tolerant
  have hkeeps : Keeps (fun w' => w'.notices = w.notices) op.call := by
    cases op with
    | createAwsAccount ws acc role ext name =>
      exact Closed.discarded (htolerant.createAwsAccount trivial (fun _ => trivial) ws acc ext name)
    | createGcpAccount ws acc key name =>
      exact Closed.discarded (htolerant.createConfiguredAccount hI.create ws acc (.gcp key) name)
    | createAzureAccount ws acc credentials name =>
      exact Closed.discarded (htolerant.createConfiguredAccount hI.create ws acc (.azure credentials) name)
    | configureAccount account fromEvent aws =>
      exact Closed.discarded (htolerant.configureAccount trivial trivial trivial account fromEvent aws)
    | configureDiscoveredAccounts aws => exact htolerant.configureDiscoveredAccounts trivial trivial trivial aws
    | cfStackEvent accepts message => 
      exact Closed.discarded (htolerant.processCfStackEvent (fun _ _ _ hw => hw) trivial trivial accepts message
        fun _ _ _ => trivial)
    | tenantAccountsCollected tenantId accounts failed nextRun =>
      have hsame := h tenantId
      unfold Operation.collects at hsame
      exact absurd rfl (of_decide_eq_false hsame)
    | tenantAccountsCollectFailed accounts nextRun =>
      exact Keeps.forM _ fun item _ => htolerant.processCollected trivial trivial trivial nextRun true item
    | updateCloudAccountEnabled ws id enabled =>
      exact Closed.discarded (htolerant.updateCloudAccountEnabled trivial ws id)
    | updateCloudAccountScanEnabled ws id scan =>
      exact Closed.discarded (htolerant.updateCloudAccountScanEnabled trivial ws id scan)
    | disableCloudAccount ws id => exact Closed.discarded (htolerant.disableCloudAccount trivial ws id)
    | deleteCloudAccount user id ws => exact htolerant.deleteCloudAccount trivial user id ws
  exact hkeeps.after (s := w) rfl

theorem mapM_of_list {ids : List FixCloudAccountId} {accounts : List CloudAccount}
    (h : exec (CloudAccountRepository.list ids) w = (.ok accounts, w')) :
    (w.accounts.rows.filter fun r => decide (r.id ∈ ids)).mapM (·.toModel none) = .ok accounts := by
  unfold CloudAccountRepository.list at h
  rw [exec_bind, exec_get] at h
  dsimp only at h
  rw [exec_lift] at h
  exact (Prod.mk.inj h).1

theorem mem_list_iff {ids : List FixCloudAccountId} {accounts : List CloudAccount}
    (h : exec (CloudAccountRepository.list ids) w = (.ok accounts, w')) (a : CloudAccount) :
    a ∈ accounts ↔ ∃ r ∈ w.accounts.rows, r.id ∈ ids ∧ r.toModel none = .ok a := by
  rw [mem_of_mapM_ok (mapM_of_list h)]
  simp only [List.mem_filter, decide_eq_true_eq, and_assoc]

theorem exec_collected (tenantId : WorkspaceId) (accounts failed : List CollectEntry) (nextRun : Option DateTime)
    (w : World) :
    (∃ e w', exec (processTenantAccountsCollected tenantId accounts failed nextRun) w = (.error e, w') ∧
      w'.notices = w.notices) ∨
    ∃ listed w₁, exec (CloudAccountRepository.list (accounts.map Prod.fst)) w = (.ok listed, w) ∧
      exec ((unionDict accounts failed).forM (processCollected nextRun false)) w = (.ok ⟨⟩, w₁) ∧
      w₁.notices = w.notices ∧ exec (processTenantAccountsCollected tenantId accounts failed nextRun) w =
        exec (announceCollected tenantId accounts failed nextRun listed) w₁ := by
  have hreads := CloudAccountRepository.list_reads (accounts.map Prod.fst) w
  have hloop := (Keeps.forM (unionDict accounts failed) fun item _ =>
    (aside_notices w.notices).tolerant.processCollected trivial trivial trivial nextRun false item).after (s := w) rfl
  unfold processTenantAccountsCollected
  rw [exec_bind]
  rcases hlist : exec (CloudAccountRepository.list (accounts.map Prod.fst)) w with ⟨e | listed, w₀⟩
  · rw [hlist] at hreads
    cases hreads
    exact Or.inl ⟨e, w₀, rfl, rfl⟩
  · rw [hlist] at hreads
    cases hreads
    dsimp only
    rw [exec_bind]
    rcases hrun : exec ((unionDict accounts failed).forM (processCollected nextRun false)) w₀ with ⟨e | u, w₁⟩
    · rw [hrun] at hloop
      exact Or.inl ⟨e, w₁, rfl, hloop⟩
    · rw [hrun] at hloop
      exact Or.inr ⟨listed, w₁, rfl, rfl, hloop, rfl⟩

theorem count_announced (tenantId : WorkspaceId) (accounts failed : List CollectEntry) (nextRun : Option DateTime)
    (listed : List CloudAccount) (w : World) {n : Notice} (hn : n ∈ firstNotices workspaceId) :
    (exec (announceCollected tenantId accounts failed nextRun listed) w).2.notices.count n = w.notices.count n +
      if decide (tenantId = workspaceId) && listed.all (·.lastScanStartedAt.isNone) then 1 else 0 := by
  rw [exec_announceCollected_notices]
  unfold firstNotices at hn
  simp only [List.mem_cons, List.not_mem_nil, or_false] at hn
  by_cases htenant : tenantId = workspaceId
  · rw [decide_eq_true htenant, Bool.true_and]
    subst htenant
    rcases hn with rfl | rfl <;> cases listed.all (·.lastScanStartedAt.isNone) <;>
      cases listed.any (·.lastScanStartedAt.isNone) <;> simp
  · rw [decide_eq_false htenant, Bool.false_and]
    rcases hn with rfl | rfl <;> cases listed.all (·.lastScanStartedAt.isNone) <;>
      cases listed.any (·.lastScanStartedAt.isNone) <;> simp [htenant]

theorem listed_iff {tenantId : WorkspaceId} {accounts failed : List CollectEntry} {nextRun : Option DateTime}
    {listed : List CloudAccount} (hshows : ShowsScan w (.tenantAccountsCollected tenantId accounts failed nextRun))
    (hlist : exec (CloudAccountRepository.list (accounts.map Prod.fst)) w = (.ok listed, w)) :
    listed.all (·.lastScanStartedAt.isNone) = !w.everCollected tenantId := by
  obtain ⟨-, howner, hscanned⟩ := hshows
  have hfind : ∀ r ∈ w.accounts.rows, w.accounts.find r.id = some r :=
    fun r hr => (Table.find_eq_some_iff _ _ _).2 ⟨hr, rfl⟩
  cases hever : w.everCollected tenantId with
  | true =>
    obtain ⟨item, hitem, hany⟩ := hscanned hever
    cases hr : w.accounts.find item.1 with
    | none =>
      rw [hr] at hany
      cases hany
    | some r =>
      rw [hr, Option.any_some] at hany
      have hmem : r ∈ w.accounts.rows.filter fun r => decide (r.id ∈ accounts.map Prod.fst) := by
        rw [List.mem_filter, Table.key_of_find hr, decide_eq_true_eq]
        exact ⟨Table.mem_of_find hr, List.mem_map_of_mem hitem⟩
      obtain ⟨a, hmodel⟩ := exists_mapM_ok_iff.1 ⟨listed, mapM_of_list hlist⟩ r hmem
      have ha := (mem_of_mapM_ok (mapM_of_list hlist) a).2 ⟨r, hmem, hmodel⟩
      rw [Bool.not_true, List.all_eq_false]
      refine ⟨a, ha, ?_⟩
      rw [AccountRow.toModel_lastScanStartedAt hmodel, Option.isNone_iff_eq_none, ← ne_eq, ← Option.isSome_iff_ne_none]
      exact hany
  | false =>
    rw [Bool.not_false, List.all_eq_true]
    intro a ha
    obtain ⟨r, hr, hid, hmodel⟩ := (mem_list_iff hlist a).1 ha
    obtain ⟨item, hitem, hkey⟩ := List.mem_map.1 hid
    have htenant := howner item (List.mem_append_left _ hitem)
    rw [hkey, hfind r hr, Option.all_some] at htenant
    rw [AccountRow.toModel_lastScanStartedAt hmodel, Option.isNone_iff_eq_none, ← Option.not_isSome_iff_eq_none]
    intro hscan
    have hcollected := World.everCollected_iff.2 ⟨r, Or.inl hr, of_decide_eq_true htenant, hscan⟩
    rw [hever] at hcollected
    cases hcollected

/-- **One step** tells of the first collect exactly, and then the workspace is a collected one. -/
theorem firstExactly_of_showsScan {op : Operation} (hshows : ShowsScan w op) : FirstExactly w op := by
  intro workspaceId n hn
  by_cases hcollects : ∀ x, op.collects x = false
  · rw [notices_of_not_collects hcollects w, hcollects workspaceId]
    rfl
  · cases op with
    | tenantAccountsCollected tenantId accounts failed nextRun =>
      unfold Operation.run Operation.returns Operation.collects Operation.call
      dsimp only
      rcases exec_collected tenantId accounts failed nextRun w with ⟨e, w', hexec, hsame⟩ |
        ⟨listed, w₁, hlist, -, hsame, hexec⟩
      · rw [hexec, hsame]
        simp [Except.toBool]
      · rw [hexec, count_announced tenantId accounts failed nextRun listed w₁ hn, hsame, listed_iff hshows hlist,
          exec_announceCollected_notices]
        by_cases htenant : tenantId = workspaceId
        · rw [htenant]
          simp [Except.toBool]
        · simp [htenant]
    | _ => exact absurd (fun _ => rfl) hcollects

theorem exists_of_mem_unionDict {left right : List CollectEntry} {item : CollectEntry}
    (h : item ∈ unionDict left right) :
    ∃ item' ∈ left ++ right, item'.1 = item.1 := by
  unfold unionDict at h
  rcases List.mem_append.1 h with h | h
  · obtain ⟨item', hmem, rfl⟩ := List.mem_map.1 h
    exact ⟨item', List.mem_append_left _ hmem, rfl⟩
  · exact ⟨item, List.mem_append_right _ (List.mem_filter.1 h).1, rfl⟩

theorem unionDict_ne_nil {left right : List CollectEntry} (h : left ++ right ≠ []) : unionDict left right ≠ [] := by
  unfold unionDict
  cases left with
  | nil => simpa using h
  | cons item left => simp

theorem everCollected_of_collected {op : Operation} (hshows : ShowsScan w op)
    (hcollects : op.collects workspaceId = true)
    (hreturns : op.returns w = true) : (op.run w).everCollected workspaceId = true := by
  cases op with
  | tenantAccountsCollected tenantId accounts failed nextRun =>
    obtain ⟨hnonempty, howner, -⟩ := hshows
    have htenant : tenantId = workspaceId := of_decide_eq_true hcollects
    subst htenant
    unfold Operation.run Operation.call
    unfold Operation.returns Operation.call at hreturns
    dsimp only at hreturns ⊢
    rcases exec_collected tenantId accounts failed nextRun w with ⟨e, w', hexec, -⟩ | ⟨listed, w₁, -, hloop, -, hexec⟩
    · rw [hexec] at hreturns
      cases hreturns
    · have howned : ∀ item ∈ unionDict accounts failed, ∀ r, w.accounts.find item.1 = some r →
          r.tenantId = tenantId := by
        intro item hitem r hr
        obtain ⟨item', hmem, hkey⟩ := exists_of_mem_unionDict hitem
        have htenant := howner item' hmem
        rw [hkey, hr, Option.all_some] at htenant
        exact of_decide_eq_true htenant
      have hcollected := everCollected_of_forM (unionDict_ne_nil hnonempty) howned hloop
      rw [hexec, exec_announceCollected_notices]
      exact (closed_everCollected tenantId).framed _ _ rfl rfl rfl rfl hcollected
  | _ => cases hcollects

/-- No workspace was told twice, and only collected ones were told. -/
def ToldCollected (w : World) : Prop :=
  ∀ workspaceId, ∀ n ∈ firstNotices workspaceId,
    w.notices.count n ≤ if w.everCollected workspaceId then 1 else 0

theorem toldCollected_step {op : Operation} (hw : ToldCollected w) (hshows : ShowsScan w op) :
    ToldCollected (op.run w) := by
  intro workspaceId n hn
  have hcount := firstExactly_of_showsScan hshows workspaceId n hn
  have htold := hw workspaceId n hn
  rw [hcount]
  cases hever : w.everCollected workspaceId with
  | true =>
    have hstays := (keeps_everCollected op).after hever
    have hafter : (op.run w).everCollected workspaceId = true := hstays
    rw [hever] at htold
    rw [hafter]
    simpa using htold
  | false =>
    rw [hever] at htold
    cases hdone : op.collects workspaceId && op.returns w with
    | true =>
      rw [Bool.and_eq_true] at hdone
      rw [everCollected_of_collected hshows hdone.1 hdone.2]
      simpa using htold
    | false =>
      simp at htold ⊢
      omega

/-- **The first collect of a workspace is told of once**, along every history in which the collect events show the scans
of their workspace. -/
theorem firstTold_of_showsScan {ops : List Operation}
    (hw : ∀ workspaceId, ∀ n ∈ firstNotices workspaceId, n ∉ w.notices)
    (hshows : Along historyStep ShowsScan w ops) : FirstTold w ops := by
  refine ⟨along_imp (fun s op => firstExactly_of_showsScan) hshows, fun w' hrun workspaceId n hn => ?_⟩
  have hstart : ToldCollected w := fun ws n hn => by
    rw [List.count_eq_zero_of_not_mem (hw ws n hn)]
    exact Nat.zero_le _
  have hend := run_along (I := ToldCollected) (fun s op s' hs hC hstep => by
    cases hstep
    exact toldCollected_step hs hC) hstart hshows hrun workspaceId n hn
  split at hend <;> omega

end Sent

/-! ### Two accounts -/

/-- A workspace with two configured accounts that were never collected. -/
def twoConfigured : World :=
  { unnamedWorld with
    accounts := ⟨[.ofModel (newAccount 10 "111111111111" 1 .aws (.configured (.aws 2 "role") true true) none
        ⟨⟨2024, 1, 2, valid_january2⟩, 0, midnight_inDay⟩),
      .ofModel (newAccount 11 "222222222222" 1 .aws (.configured (.aws 2 "role") true true) none
        ⟨⟨2024, 1, 2, valid_january2⟩, 0, midnight_inDay⟩)], by decide⟩ }

def collectedOf (ids : List (FixCloudAccountId × CloudAccountId)) : Operation :=
  .tenantAccountsCollected 1
    (ids.map fun id => (id.1, ⟨id.2, 100, 60, ⟨⟨2024, 1, 3, valid_january3⟩, 0, midnight_inDay⟩, none, []⟩)) [] none

def collectedApart : List Operation := [collectedOf [(10, "111111111111")], collectedOf [(11, "222222222222")]]

/-- The accounts are collected in two runs, and the second one is told of as the first. -/
theorem collectedApart_told_twice : (∀ workspaceId, ∀ n ∈ firstNotices workspaceId, n ∉ twoConfigured.notices) ∧
    ¬FirstTold twoConfigured collectedApart := by
  refine ⟨fun _ _ _ => List.not_mem_nil, fun h => ?_⟩
  have htwice : (runAll collectedApart twoConfigured).notices.count (.securityScanFinished 1) = 2 := by decide +kernel
  have honce := h.2 (runAll collectedApart twoConfigured) rfl 1 (.securityScanFinished 1) (by decide)
  omega

def collectedTogether : List Operation :=
  [collectedOf [(10, "111111111111"), (11, "222222222222")], collectedOf [(10, "111111111111"), (11, "222222222222")]]

theorem collectedTogether_told_once : FirstTold twoConfigured collectedTogether := by
  refine firstTold_of_showsScan (fun _ _ _ => List.not_mem_nil) ?_
  refine along_cons ⟨by decide, by decide +kernel, fun h => ?_⟩
    rfl (along_cons ⟨by decide, by decide +kernel, fun _ => ?_⟩ rfl trivial)
  · have hnever : twoConfigured.everCollected 1 = false := by decide +kernel
    rw [hnever] at h
    cases h
  · exact ⟨_, List.mem_cons_self, by decide +kernel⟩

end Fix
