import FixBackend.Chunks
import FixBackend.Machine
import FixBackend.Marketplace
/-!
# NoUsageReports — the subscriptions that have nothing to charge yet

`report_no_usage_for_active_aws_marketplace_subscriptions` of `billing/billing_job.py`.  A generator fills chunks with
the workspaces of the subscriptions, and a task group reports each chunk that it yields while it goes on; at most
`parallel_requests` calls are under way.
-/
namespace Fix

open Calendar Effects Machine Chunks

namespace BillingJob

/-- A subscription, and the entry without usage for one of its workspaces. -/
abbrev Reported := AwsMarketplaceSubscription × BillingEntry

/-- The generator has `rows` to read, `workspaces` of the last subscription it read, and the current chunk; `tasks` have
a chunk and wait for the semaphore, `calling` have it.  `calls` are the calls of `report_usage`. -/
structure NoUsage where
  payments : Payments
  rows : List (Except Err SubscriptionMethod)
  workspaces : List (AwsMarketplaceSubscription × Workspace)
  chunk : List Reported
  tasks : List (List Reported)
  calling : Nat
  calls : List (String × List Reported)
  raised : Option Err

def notDue (now : DateTime) : SubscriptionFilter :=
  { active := some true, isAwsMarketplaceSubscription := some true, nextChargeTimestampAfter := some now }

def start (now : DateTime) (p : Payments) : NoUsage where
  payments := p
  rows := (p.tables.subscriptions.rows.filter (notDue now).selects).map (·.toModel)
  workspaces := []
  chunk := []
  tasks := []
  calling := 0
  calls := []
  raised := none

/-- The task group is left with an exception, and its tasks are cancelled. -/
def NoUsage.left (s : NoUsage) (e : Err) : NoUsage :=
  { s with rows := [], workspaces := [], chunk := [], tasks := [], calling := 0, raised := some e }

/-- The dummy entry of a workspace. -/
def noUsageEntry (now : DateTime) (subscription : AwsMarketplaceSubscription) (workspace : Workspace) :
    PaymentService BillingEntry := do
  let uid ← inWorld uuid4
  let utcNow ← inWorld utc
  return {
    id := uid
    workspaceId := workspace.id
    subscriptionId := subscription.id
    tier := workspace.currentProductTier utcNow
    nrOfAccountsCharged := 0
    periodStart := now
    periodEnd := now
    reported := false }

/-- What `report_usages` does under the semaphore. -/
def reportUsages (client : MarketplaceClient) (productCode : String) (chunk : List Reported) : PaymentService PUnit :=
  tryCatch (AwsMarketplaceHandler.reportUsage client productCode chunk) fun _ => return

inductive Move where
  | nextSubscription
  | nextWorkspace
  | flush
  | call (task : Nat)
  | answered
deriving DecidableEq

section Steps

variable (client : MarketplaceClient) (now : DateTime) (parallelRequests : Nat)

/-- The generator puts an entry into the chunk, and yields the chunk when it is full. -/
def NoUsage.add (s : NoUsage) (x : Reported) : NoUsage :=
  if 25 ≤ (s.chunk ++ [x]).length then { s with chunk := [], tasks := s.tasks ++ [s.chunk ++ [x]] }
  else { s with chunk := s.chunk ++ [x] }

/-- A task reports its chunk; its product code is the one of the first entry. -/
def NoUsage.report (s : NoUsage) (task : Nat) (chunk : List Reported) : Option NoUsage :=
  match chunk with
  | [] => some (s.left (.assertionError "Chunk size must be between 1 and 25, but got 0"))
  | first :: _ =>
    if chunk.length ≤ 25 then
      if s.calling < parallelRequests then
        some { s with
          payments := (exec (reportUsages client first.1.productCode chunk) s.payments).2
          tasks := s.tasks.eraseIdx task
          calling := s.calling + 1
          calls := s.calls ++ [(first.1.productCode, chunk)] }
      else none
    else some (s.left (.assertionError s!"Chunk size must be between 1 and 25, but got {chunk.length}"))

def step (s : NoUsage) : Move → Option NoUsage
  | .nextSubscription =>
    match s.workspaces, s.rows with
    | [], .ok (.awsMarketplace subscription) :: rest =>
      some { s with
        rows := rest
        workspaces :=
          (listWorkspacesBySubscriptionId s.payments.world.organizations subscription.id).map (subscription, ·) }
    | [], .ok (.stripe _) :: _ => some (s.left (.assertionError "Expected AwsMarketplaceSubscription"))
    | [], .error e :: _ => some (s.left e)
    | _, _ => none
  | .nextWorkspace =>
    match s.workspaces with
    | (subscription, workspace) :: rest =>
      match exec (noUsageEntry now subscription workspace) s.payments with
      | (.ok entry, p) => some ({ s with payments := p, workspaces := rest }.add (subscription, entry))
      | (.error e, p) => some ({ s with payments := p }.left e)
    | [] => none
  | .flush =>
    if s.rows.isEmpty ∧ s.workspaces.isEmpty ∧ s.chunk ≠ [] then
      some { s with chunk := [], tasks := s.tasks ++ [s.chunk] }
    else none
  | .call task => (s.tasks[task]?).bind (s.report client parallelRequests task)
  | .answered => if 0 < s.calling then some { s with calling := s.calling - 1 } else none

end Steps

/-- The task group is left. -/
structure NoUsage.Over (s : NoUsage) : Prop where
  rows : s.rows = []
  workspaces : s.workspaces = []
  chunk : s.chunk = []
  tasks : s.tasks = []
  calling : s.calling = 0

/-! ## What is to be reported -/

def readAs : Except Err SubscriptionMethod → Option AwsMarketplaceSubscription
  | .ok (.awsMarketplace s) => some s
  | _ => none

def pairsOf (orgs : Organizations) (rows : List (Except Err SubscriptionMethod)) :
    List (AwsMarketplaceSubscription × WorkspaceId) :=
  (rows.filterMap readAs).flatMap fun s => (listWorkspacesBySubscriptionId orgs s.id).map fun w => (s, w.id)

/-- The pairs of the subscriptions that are not due, in the order in which they are listed. -/
def pairs (now : DateTime) (p : Payments) : List (AwsMarketplaceSubscription × WorkspaceId) :=
  pairsOf p.world.organizations (start now p).rows

def Reported.pair (x : Reported) : AwsMarketplaceSubscription × WorkspaceId := (x.1, x.2.workspaceId)

/-- Every pair is in one call, a call has between 1 and 25 pairs, and each of them is of the product of the call. -/
structure WellReported (expected : List (AwsMarketplaceSubscription × WorkspaceId))
    (calls : List (String × List Reported)) : Prop where
  once : ((calls.flatMap (·.2)).map Reported.pair).Perm expected
  size : ∀ c ∈ calls, 0 < c.2.length ∧ c.2.length ≤ 25
  addressed : ∀ c ∈ calls, ∀ x ∈ c.2, x.1.productCode = c.1

/-- The rows that are selected are read as subscriptions of AWS Marketplace. -/
def ReadsAws (now : DateTime) (p : Payments) : Prop :=
  ∀ r ∈ (start now p).rows, ∃ subscription, r = .ok (.awsMarketplace subscription)

def OneProduct (expected : List (AwsMarketplaceSubscription × WorkspaceId)) : Prop :=
  ∀ slice ∈ slices 25 expected, ∀ x ∈ slice, ∀ y ∈ slice, x.1.productCode = y.1.productCode

/-! ## A run of the report -/

section Runs

variable {client : MarketplaceClient} {now : DateTime} {parallelRequests : Nat} {orgs : Organizations}

theorem exec_noUsageEntry (subscription : AwsMarketplaceSubscription) (workspace : Workspace) (p : Payments) :
    ∃ entry p', exec (noUsageEntry now subscription workspace) p = (.ok entry, p') ∧
      entry.workspaceId = workspace.id ∧ p'.world.organizations = p.world.organizations := ⟨_, _, rfl, rfl, rfl⟩

/-- **A task makes its call and ends**, whatever the marketplace answers. -/
theorem exec_reportUsages (productCode : String) (chunk : List Reported) (p : Payments) :
    exec (reportUsages client productCode chunk) p = (.ok ⟨⟩, p.sent productCode chunk) := by
  unfold reportUsages
  rw [exec_tryCatch, AwsMarketplaceHandler.exec_reportUsage]
  cases AwsMarketplaceHandler.reportOutcome client productCode chunk <;> rfl

def NoUsage.remaining (orgs : Organizations) (s : NoUsage) : List (AwsMarketplaceSubscription × WorkspaceId) :=
  s.workspaces.map (fun x => (x.1, x.2.id)) ++ pairsOf orgs s.rows

/-- The chunks that were yielded, in this order, and those to come are the slices of the pairs. -/
structure NoUsage.Cuts (orgs : Organizations) (expected : List (AwsMarketplaceSubscription × WorkspaceId))
    (s : NoUsage) :
    Prop where
  organizations : s.payments.world.organizations = orgs
  raised : s.raised = none
  reads : ∀ r ∈ s.rows, ∃ subscription, r = .ok (.awsMarketplace subscription)
  short : s.chunk.length < 25
  yielded : ∃ yielded : List (List Reported), yielded.Perm (s.calls.map (·.2) ++ s.tasks) ∧
    yielded.map (List.map Reported.pair) ++ fill 25 (s.chunk.map Reported.pair) (s.remaining orgs) = slices 25 expected
  called : ∀ c ∈ s.calls, ∃ first ∈ c.2, c.1 = first.1.productCode

variable {expected : List (AwsMarketplaceSubscription × WorkspaceId)} {s s' : NoUsage}

theorem NoUsage.Cuts.slice (hs : s.Cuts orgs expected) {chunk : List Reported}
    (hchunk : chunk ∈ s.calls.map (·.2) ++ s.tasks) : chunk.map Reported.pair ∈ slices 25 expected := by
  obtain ⟨yielded, hperm, hcuts⟩ := hs.yielded
  rw [← hcuts]
  exact List.mem_append_left _ (List.mem_map_of_mem (hperm.mem_iff.2 hchunk))

theorem NoUsage.Cuts.length (hs : s.Cuts orgs expected) {chunk : List Reported}
    (hchunk : chunk ∈ s.calls.map (·.2) ++ s.tasks) : 0 < chunk.length ∧ chunk.length ≤ 25 := by
  have hlength := length_of_mem_slices (by decide) (hs.slice hchunk)
  rw [List.length_map] at hlength
  exact hlength

theorem pairsOf_cons (subscription : AwsMarketplaceSubscription) (rest : List (Except Err SubscriptionMethod)) :
    pairsOf orgs (.ok (.awsMarketplace subscription) :: rest) =
      ((listWorkspacesBySubscriptionId orgs subscription.id).map fun w => (subscription, w.id)) ++
        pairsOf orgs rest := by
  unfold pairsOf
  rw [List.filterMap_cons]
  rfl

theorem cuts_nextSubscription (hs : s.Cuts orgs expected)
    (h : step client now parallelRequests s .nextSubscription = some s') : s'.Cuts orgs expected := by
  unfold step at h
  cases hworkspaces : s.workspaces with
  | cons x rest => rw [hworkspaces] at h; cases h
  | nil =>
    cases hrows : s.rows with
    | nil => rw [hworkspaces, hrows] at h; cases h
    | cons r rest =>
      obtain ⟨subscription, rfl⟩ := hs.reads r (hrows ▸ List.mem_cons_self)
      rw [hworkspaces, hrows] at h
      cases h
      obtain ⟨yielded, hperm, hcuts⟩ := hs.yielded
      refine ⟨hs.organizations, hs.raised, fun r hr => hs.reads r (hrows ▸ List.mem_cons_of_mem _ hr), hs.short,
        ⟨yielded, hperm, ?_⟩, hs.called⟩
      unfold NoUsage.remaining at hcuts ⊢
      rw [hworkspaces, hrows, List.map_nil, List.nil_append, pairsOf_cons] at hcuts
      rw [← hcuts]
      dsimp only
      rw [hs.organizations, List.map_map]
      rfl

theorem cuts_add (hs : s.Cuts orgs expected) {x : Reported} {rest : List (AwsMarketplaceSubscription × Workspace)}
    {workspace : Workspace} (hworkspaces : s.workspaces = (x.1, workspace) :: rest)
    (hx : x.2.workspaceId = workspace.id)
    {p : Payments} (hp : p.world.organizations = s.payments.world.organizations) :
    ({ s with payments := p, workspaces := rest }.add x).Cuts orgs expected := by
  obtain ⟨yielded, hperm, hcuts⟩ := hs.yielded
  have hlength : (s.chunk ++ [x]).length = s.chunk.length + 1 := by rw [List.length_append, List.length_singleton]
  have hpair : (x.1, workspace.id) = Reported.pair x := Prod.ext rfl hx.symm
  have hremaining : s.remaining orgs = Reported.pair x ::
      NoUsage.remaining orgs { s with payments := p, workspaces := rest } := by
    unfold NoUsage.remaining
    rw [hworkspaces, List.map_cons, hpair, List.cons_append]
  rw [hremaining, fill, ← List.map_singleton, ← List.map_append, List.length_map] at hcuts
  unfold NoUsage.add
  dsimp only
  by_cases hfull : 25 ≤ (s.chunk ++ [x]).length
  · rw [if_pos hfull] at hcuts ⊢
    refine ⟨hp.trans hs.organizations, hs.raised, hs.reads, Nat.zero_lt_succ _,
      ⟨yielded ++ [s.chunk ++ [x]], ?_, ?_⟩, hs.called⟩
    · rw [← List.append_assoc]
      exact hperm.append_right _
    · rw [List.map_append, List.append_assoc]
      exact hcuts
  · rw [if_neg hfull] at hcuts ⊢
    exact ⟨hp.trans hs.organizations, hs.raised, hs.reads, Nat.lt_of_not_le hfull, ⟨yielded, hperm, hcuts⟩, hs.called⟩

/-- **What the next workspace does**: the entry of its subscription joins the chunk. -/
theorem add_of_nextWorkspace (h : step client now parallelRequests s .nextWorkspace = some s') :
    ∃ subscription workspace rest entry p, s.workspaces = (subscription, workspace) :: rest ∧
      entry.workspaceId = workspace.id ∧ p.world.organizations = s.payments.world.organizations ∧
      s' = NoUsage.add { s with payments := p, workspaces := rest } (subscription, entry) := by
  unfold step at h
  cases hworkspaces : s.workspaces with
  | nil => rw [hworkspaces] at h; cases h
  | cons x rest =>
    obtain ⟨subscription, workspace⟩ := x
    obtain ⟨entry, p, hentry, hid, hp⟩ := @exec_noUsageEntry now subscription workspace s.payments
    rw [hworkspaces] at h
    dsimp only at h
    rw [hentry] at h
    cases h
    exact ⟨subscription, workspace, rest, entry, p, rfl, hid, hp, rfl⟩

theorem cuts_nextWorkspace (hs : s.Cuts orgs expected)
    (h : step client now parallelRequests s .nextWorkspace = some s') : s'.Cuts orgs expected := by
  obtain ⟨subscription, workspace, rest, entry, p, hworkspaces, hid, hp, rfl⟩ := add_of_nextWorkspace h
  exact cuts_add hs hworkspaces hid hp

theorem cuts_flush (hs : s.Cuts orgs expected) (h : step client now parallelRequests s .flush = some s') :
    s'.Cuts orgs expected := by
  unfold step at h
  dsimp only at h
  split at h
  · rename_i hends
    cases h
    obtain ⟨yielded, hperm, hcuts⟩ := hs.yielded
    have hpos : 0 < (s.chunk.map Reported.pair).length := by
      rw [List.length_map]
      exact List.length_pos_of_ne_nil hends.2.2
    have hnone : s.remaining orgs = [] := by
      unfold NoUsage.remaining
      rw [List.isEmpty_iff.1 hends.1, List.isEmpty_iff.1 hends.2.1]
      rfl
    refine ⟨hs.organizations, hs.raised, hs.reads, Nat.zero_lt_succ _, ⟨yielded ++ [s.chunk], ?_, ?_⟩, hs.called⟩
    · rw [← List.append_assoc]
      exact hperm.append_right _
    · rw [hnone, fill, if_pos hpos] at hcuts
      show (yielded ++ [s.chunk]).map _ ++ fill 25 [] (s.remaining orgs) = _
      rw [hnone, ← hcuts, List.map_append]
      exact List.append_nil _
  · cases h

theorem cuts_call (hs : s.Cuts orgs expected) {task : Nat}
    (h : step client now parallelRequests s (.call task) = some s') : s'.Cuts orgs expected := by
  obtain ⟨chunk, hchunk, hreport⟩ := Option.bind_eq_some_iff.1 h
  obtain ⟨htask, hget⟩ := List.getElem?_eq_some_iff.1 hchunk
  obtain ⟨hpos, hle⟩ := hs.length (List.mem_append_right _ (hget ▸ List.getElem_mem htask))
  unfold NoUsage.report at hreport
  cases chunk with
  | nil => exact absurd hpos (Nat.lt_irrefl 0)
  | cons first others =>
    dsimp only at hreport
    rw [if_pos hle] at hreport
    split at hreport
    · cases hreport
      obtain ⟨yielded, hperm, hcuts⟩ := hs.yielded
      have horgs :
          (exec (reportUsages client first.1.productCode (first :: others)) s.payments).2.world.organizations =
            orgs := by
        rw [exec_reportUsages]
        exact hs.organizations
      refine ⟨horgs, hs.raised, hs.reads, hs.short,
        ⟨yielded, hperm.trans ?_, hcuts⟩, fun c hc => ?_⟩
      · -- the chunk moves from the waiting tasks to the calls
        rw [List.map_append, List.map_singleton, List.append_assoc, List.singleton_append]
        refine List.Perm.append_left _ ?_
        rw [← hget]
        exact (List.getElem_cons_eraseIdx_perm htask).symm
      · rcases List.mem_append.1 hc with hc | hc
        · exact hs.called c hc
        · cases List.mem_singleton.1 hc
          exact ⟨first, List.mem_cons_self, rfl⟩
    · cases hreport

theorem cuts_step {move : Move} (hs : s.Cuts orgs expected) (h : step client now parallelRequests s move = some s') :
    s'.Cuts orgs expected := by
  cases move with
  | nextSubscription => exact cuts_nextSubscription hs h
  | nextWorkspace => exact cuts_nextWorkspace hs h
  | flush => exact cuts_flush hs h
  | call task => exact cuts_call hs h
  | answered =>
    unfold step at h
    dsimp only at h
    split at h
    · cases h
      exact ⟨hs.organizations, hs.raised, hs.reads, hs.short, hs.yielded, hs.called⟩
    · cases h

theorem cuts_start {p : Payments} (hreads : ReadsAws now p) :
    (start now p).Cuts p.world.organizations (pairs now p) := by
  have hcuts : fill 25 [] (pairs now p) = slices 25 (pairs now p) := fill_eq_slices (by decide) _ [] (by decide)
  exact ⟨rfl, rfl, hreads, Nat.zero_lt_succ _, ⟨[], List.Perm.refl _, hcuts⟩, nofun⟩

/-- **When the group is left, the calls have the slices of the pairs.** -/
theorem NoUsage.Cuts.over (hs : s.Cuts orgs expected) (hover : s.Over) : ∃ yielded : List (List Reported),
    yielded.Perm (s.calls.map (·.2)) ∧ yielded.map (List.map Reported.pair) = slices 25 expected := by
  obtain ⟨yielded, hperm, hcuts⟩ := hs.yielded
  have hnone : s.remaining orgs = [] := by
    unfold NoUsage.remaining
    rw [hover.workspaces, hover.rows]
    rfl
  have hempty : fill 25 ([] : List (AwsMarketplaceSubscription × WorkspaceId)) [] = [] := rfl
  rw [hover.chunk, hnone, List.map_nil, hempty, List.append_nil] at hcuts
  rw [hover.tasks, List.append_nil] at hperm
  exact ⟨yielded, hperm, hcuts⟩

theorem wellReported_iff_of_cuts (hs : s.Cuts orgs expected) (hover : s.Over) :
    WellReported expected s.calls ↔ OneProduct expected := by
  obtain ⟨yielded, hperm, hcuts⟩ := hs.over hover
  have hmem : ∀ c ∈ s.calls, c.2 ∈ s.calls.map (·.2) ++ s.tasks := fun c hc =>
    List.mem_append_left _ (List.mem_map_of_mem hc)
  constructor
  · intro h slice hslice x hx y hy
    rw [← hcuts] at hslice
    obtain ⟨chunk, hchunk, rfl⟩ := List.mem_map.1 hslice
    obtain ⟨c, hc, rfl⟩ := List.mem_map.1 (hperm.mem_iff.1 hchunk)
    obtain ⟨x', hx', rfl⟩ := List.mem_map.1 hx
    obtain ⟨y', hy', rfl⟩ := List.mem_map.1 hy
    exact (h.addressed c hc x' hx').trans (h.addressed c hc y' hy').symm
  · intro h
    refine ⟨?_, fun c hc => hs.length (hmem c hc), fun c hc x hx => ?_⟩
    · have hflat : (yielded.flatten).map Reported.pair = expected := by
        rw [List.map_flatten, hcuts, flatten_slices (by decide)]
      rw [← hflat]
      exact (hperm.symm.flatten).map Reported.pair
    · obtain ⟨first, hfirst, hcode⟩ := hs.called c hc
      rw [hcode]
      exact h _ (hs.slice (hmem c hc)) _ (List.mem_map_of_mem hx) _ (List.mem_map_of_mem hfirst)

/-- **The reports are complete, and well addressed exactly when every 25 pairs in a row are of one product.** -/
theorem wellReported_iff {p : Payments} (hreads : ReadsAws now p) {moves : List Move}
    (hrun : run (step client now parallelRequests) (start now p) moves = some s) (hover : s.Over) :
    WellReported (pairs now p) s.calls ↔ OneProduct (pairs now p) :=
  wellReported_iff_of_cuts (run_keeps (fun _ _ _ h hstep => cuts_step h hstep) (cuts_start hreads) hrun) hover

/-- **Each pair is listed once.** -/
theorem nodup_pairs (p : Payments) : (pairs now p).Nodup := by
  have hsubscriptions : ((start now p).rows.filterMap readAs).Pairwise fun s s' => s.id ≠ s'.id := by
    unfold start
    rw [List.filterMap_map]
    refine List.Pairwise.filterMap _ (fun e e' hne s hs s' hs' => ?_)
      ((List.pairwise_map.1 p.tables.subscriptions.unique).filter _)
    have hid : ∀ {e : SubscriptionEntity} {s : AwsMarketplaceSubscription}, readAs e.toModel = some s →
        s.id = e.id := by
      intro e s h
      cases hmodel : e.toModel with
      | error err => rw [hmodel] at h; cases h
      | ok m =>
        rw [hmodel] at h
        cases m with
        | stripe s => cases h
        | awsMarketplace s' =>
          cases h
          exact (SubscriptionEntity.toModel_ok hmodel).1
    rw [hid hs, hid hs']
    exact hne
  unfold pairs pairsOf
  refine List.nodup_flatMap.2 ⟨fun s _ => ?_, hsubscriptions.imp fun {s s'} hne => ?_⟩
  · unfold listWorkspacesBySubscriptionId
    rw [List.map_map]
    have hids : (p.world.organizations.rows.map Organization.id).Nodup := p.world.organizations.unique
    refine List.pairwise_map.2 (((List.pairwise_map.1 hids).filter _).imp fun {o o'} hne hsame => hne ?_)
    exact congrArg Prod.snd hsame
  · intro x hx hx'
    obtain ⟨w, -, rfl⟩ := List.mem_map.1 hx
    obtain ⟨w', -, hsame⟩ := List.mem_map.1 hx'
    exact hne (congrArg (fun x => x.1.id) hsame).symm

/-! ### Every run comes to an end -/

/-- What is left to do, counted so that every move makes it less. -/
def NoUsage.work (s : NoUsage) : Nat :=
  s.rows.length + 5 * (s.remaining s.payments.world.organizations).length + (if s.chunk = [] then 0 else 4) +
    2 * s.tasks.length + s.calling

theorem work_lt_of_add {x : Reported} {p : Payments} {subscription : AwsMarketplaceSubscription} {workspace : Workspace}
    {rest : List (AwsMarketplaceSubscription × Workspace)}
    (hworkspaces : s.workspaces = (subscription, workspace) :: rest)
    (hp : p.world.organizations = s.payments.world.organizations) :
    ({ s with payments := p, workspaces := rest }.add x).work < s.work := by
  unfold NoUsage.add NoUsage.work NoUsage.remaining
  rw [hworkspaces]
  by_cases hchunk : s.chunk = [] <;> split <;> simp [hchunk, hp] <;> omega

theorem work_step {move : Move} (h : step client now parallelRequests s move = some s') : s'.work < s.work := by
  cases move with
  | nextSubscription =>
    unfold step at h
    cases hworkspaces : s.workspaces with
    | cons x rest => rw [hworkspaces] at h; cases h
    | nil =>
      cases hrows : s.rows with
      | nil => rw [hworkspaces, hrows] at h; cases h
      | cons r rest =>
        have hpos : 0 < s.work := by
          unfold NoUsage.work
          rw [hrows, List.length_cons]
          omega
        rw [hworkspaces, hrows] at h
        cases r with
        | error e => cases h; exact hpos
        | ok m =>
          cases m with
          | stripe s => cases h; exact hpos
          | awsMarketplace subscription =>
            cases h
            unfold NoUsage.work NoUsage.remaining
            rw [hworkspaces, hrows, pairsOf_cons]
            simp
  | nextWorkspace =>
    obtain ⟨subscription, workspace, rest, entry, p, hworkspaces, -, hp, rfl⟩ := add_of_nextWorkspace h
    exact work_lt_of_add hworkspaces hp
  | flush =>
    unfold step at h
    dsimp only at h
    split at h
    · rename_i hends
      cases h
      unfold NoUsage.work NoUsage.remaining
      simp only [hends.2.2, if_true, if_false, List.length_append, List.length_singleton]
      omega
    · cases h
  | call task =>
    obtain ⟨chunk, hchunk, hreport⟩ := Option.bind_eq_some_iff.1 h
    obtain ⟨htask, -⟩ := List.getElem?_eq_some_iff.1 hchunk
    have hpos : 0 < s.work := by
      unfold NoUsage.work
      omega
    unfold NoUsage.report at hreport
    split at hreport
    · cases hreport
      exact hpos
    · split at hreport
      · split at hreport
        · cases hreport
          unfold NoUsage.work NoUsage.remaining
          rw [exec_reportUsages]
          simp only [Payments.sent, List.length_eraseIdx_of_lt htask]
          omega
        · cases hreport
      · cases hreport
        exact hpos
  | answered =>
    unfold step at h
    dsimp only at h
    split at h
    · cases h
      unfold NoUsage.work NoUsage.remaining
      dsimp only
      omega
    · cases h

/-- **Until the group is left there is a move.** -/
theorem exists_step (hparallel : 0 < parallelRequests) (s : NoUsage) :
    s.Over ∨ ∃ move s', step client now parallelRequests s move = some s' := by
  have hanswered : 0 < s.calling → ∃ move s', step client now parallelRequests s move = some s' := fun hcalling => by
    refine ⟨.answered, { s with calling := s.calling - 1 }, ?_⟩
    unfold step
    dsimp only
    rw [if_pos hcalling]
  cases hworkspaces : s.workspaces with
  | cons x rest =>
    obtain ⟨entry, p, hentry, -, -⟩ := @exec_noUsageEntry now x.1 x.2 s.payments
    refine .inr ⟨.nextWorkspace, { s with payments := p, workspaces := rest }.add (x.1, entry), ?_⟩
    unfold step
    rw [hworkspaces]
    dsimp only
    rw [hentry]
  | nil =>
    cases hrows : s.rows with
    | cons r rest =>
      refine .inr ⟨.nextSubscription, ?_⟩
      unfold step
      rw [hworkspaces, hrows]
      rcases r with e | (subscription | subscription) <;> exact ⟨_, rfl⟩
    | nil =>
      by_cases hchunk : s.chunk = []
      · cases htasks : s.tasks with
        | nil =>
          rcases Nat.eq_zero_or_pos s.calling with hzero | hpos
          · exact .inl ⟨hrows, hworkspaces, hchunk, htasks, hzero⟩
          · exact .inr (hanswered hpos)
        | cons chunk others =>
          by_cases hroom : s.calling < parallelRequests
          · refine .inr ⟨.call 0, ?_⟩
            unfold step
            rw [htasks]
            show ∃ s', s.report client parallelRequests 0 chunk = some s'
            unfold NoUsage.report
            split
            · exact ⟨_, rfl⟩
            · split
              · exact ⟨_, rfl⟩
              · exact ⟨_, rfl⟩
          · exact .inr (hanswered (by omega))
      · refine .inr ⟨.flush, { s with chunk := [], tasks := s.tasks ++ [s.chunk] }, ?_⟩
        unfold step
        dsimp only
        rw [if_pos ⟨List.isEmpty_iff.2 hrows, List.isEmpty_iff.2 hworkspaces, hchunk⟩]

/-- **The job can end**, from whatever state it is in. -/
theorem exists_over (hparallel : 0 < parallelRequests) (s : NoUsage) :
    ∃ moves s', run (step client now parallelRequests) s moves = some s' ∧ s'.Over := by
  induction hwork : s.work using Nat.strong_induction_on generalizing s with
  | _ n ih =>
    rcases @exists_step client now parallelRequests hparallel s with hover | ⟨move, s', hstep⟩
    · exact ⟨[], s, rfl, hover⟩
    · obtain ⟨moves, s'', hrun, hover⟩ := ih s'.work (hwork ▸ work_step hstep) s' rfl
      exact ⟨move :: moves, s'', run_cons.2 ⟨s', hstep, hrun⟩, hover⟩

end Runs

/-! ### Two subscriptions in February -/

/-- Two subscriptions to one product, of fourteen and thirteen workspaces. -/
def manyWorkspaces : Payments :=
  { marchPayments with
    world := { marchPayments.world with
      organizations := ⟨(List.range 27).map fun i =>
        { plusOrganization (i + 1) with subscriptionId := some (if i < 14 then 20 else 21) }, by decide +kernel⟩ }
    tables := ⟨⟨[plusSubscription, { plusSubscription with id := 21 }], by decide⟩, []⟩ }

theorem readsAws_manyWorkspaces : ReadsAws feb manyWorkspaces := by
  intro r hr
  rcases List.mem_cons.1 hr with rfl | hr
  · exact ⟨_, rfl⟩
  · cases List.mem_singleton.1 hr
    exact ⟨_, rfl⟩

/-- The pairs fill one chunk and start another, and the two tasks run at once. -/
def reportsMany : List Move :=
  .nextSubscription :: List.replicate 14 .nextWorkspace ++ .nextSubscription :: List.replicate 13 .nextWorkspace ++
    [.flush, .call 0, .call 0, .answered, .answered]

def manyReported : NoUsage :=
  (run (step acceptingClient feb 16) (start feb manyWorkspaces) reportsMany).get (by decide +kernel)

theorem manyReported_wellReported : WellReported (pairs feb manyWorkspaces) manyReported.calls ∧
    manyReported.calls.map (·.2.length) = [25, 2] :=
  ⟨(wellReported_iff readsAws_manyWorkspaces (Option.some_get (by decide +kernel)).symm
    ⟨by decide +kernel, by decide +kernel, by decide +kernel, by decide +kernel, by decide +kernel⟩).2
    (by unfold OneProduct; decide +kernel), by decide +kernel⟩

/-- The generator lists two pairs, and the task is run. -/
def reportsTwo : List Move :=
  [.nextSubscription, .nextWorkspace, .nextSubscription, .nextWorkspace, .flush, .call 0, .answered]

def twoProducts : Payments :=
  { marchPayments with
    world := { marchPayments.world with
      organizations := ⟨[plusOrganization 1, { plusOrganization 2 with subscriptionId := some 21 }], by decide⟩ }
    tables :=
      ⟨⟨[plusSubscription, { plusSubscription with id := 21, awsProductCode := some "other" }], by decide⟩, []⟩ }

def twoReported : NoUsage :=
  (run (step acceptingClient feb 16) (start feb twoProducts) reportsTwo).get (by decide +kernel)

theorem twoProducts_not_wellReported : ReadsAws feb twoProducts ∧ twoReported.Over ∧
    run (step acceptingClient feb 16) (start feb twoProducts) reportsTwo = some twoReported ∧
    ¬ WellReported (pairs feb twoProducts) twoReported.calls := by
  have hreads : ReadsAws feb twoProducts := by
    intro r hr
    rcases List.mem_cons.1 hr with rfl | hr
    · exact ⟨_, rfl⟩
    · cases List.mem_singleton.1 hr
      exact ⟨_, rfl⟩
  have hover : twoReported.Over :=
    ⟨by decide +kernel, by decide +kernel, by decide +kernel, by decide +kernel, by decide +kernel⟩
  refine ⟨hreads, hover, (Option.some_get _).symm, fun h => ?_⟩
  have hmixed : ∃ c ∈ twoReported.calls, ∃ x ∈ c.2, x.1.productCode ≠ c.1 := by decide +kernel
  obtain ⟨c, hc, x, hx, hne⟩ := hmixed
  exact hne (h.addressed c hc x hx)

end BillingJob

end Fix
