import FixBackend.Billing
/-!
# AccountUsage — the summaries of a period, account by account

`collect_summary` groups the records of a period by account id and account name, and `create_billing_entry` takes the
number of groups for the number of accounts.  The two agree exactly as long as no account has been renamed.
-/
namespace Fix

open Calendar

theorem filterMap_of_unique {α β : Type} {f : α → Option β} {a : α} : ∀ {l : List α}, l.Nodup → a ∈ l →
    (∀ x ∈ l, x ≠ a → f x = none) → l.filterMap f = (f a).toList
  | [], _, h, _ => by cases h
  | x :: l, hnd, hmem, hnone => by
    rw [List.nodup_cons] at hnd
    have hrest : ∀ y ∈ l, y ≠ a → f y = none := fun y hy => hnone y (List.mem_cons_of_mem _ hy)
    by_cases hxa : x = a
    · subst hxa
      have hnil : l.filterMap f = [] := List.filterMap_eq_nil_iff.2 fun y hy =>
        hrest y hy fun hyx => hnd.1 (hyx ▸ hy)
      rw [List.filterMap_cons, hnil]
      cases f x <;> rfl
    · have ha : a ∈ l := (List.mem_cons.1 hmem).resolve_left (Ne.symm hxa)
      rw [List.filterMap_cons, hnone x List.mem_cons_self hxa]
      exact filterMap_of_unique hnd.2 ha hrest

/-- The records a summary is made from. -/
def countedRecords (metering : List MeteringRecord) (workspaceId : WorkspaceId) (start finish : Option DateTime)
    (minResourcesCollected : Nat) : List MeteringRecord :=
  metering.filter (fun r => r.selected workspaceId start finish minResourcesCollected)

def recordsOf (records : List MeteringRecord) (a : CloudAccountId) : List MeteringRecord :=
  records.filter (fun r => decide (r.accountId = a))

def accountsWith (records : List MeteringRecord) (n : Nat) : List CloudAccountId :=
  (records.map (·.accountId)).dedup.filter (fun a => decide (n ≤ (recordsOf records a).length))

/-- **The summaries count accounts**: one for each account with enough records, with all of them counted and their
highest tier, and none besides. -/
structure CountsAccounts (records : List MeteringRecord) (n : Nat) (summaries : List MeteringSummary) : Prop where
  one : ∀ a ∈ accountsWith records n, ∃ s, summaries.filter (fun s => decide (s.accountId = a)) = [s] ∧
    s.count = (recordsOf records a).length ∧ s.productTier = maxTier ((recordsOf records a).map (·.productTier))
  only : ∀ s ∈ summaries, s.accountId ∈ accountsWith records n
  usage : summaries.length = (accountsWith records n).length

def NamesStay (records : List MeteringRecord) (n : Nat) : Prop :=
  ∀ r ∈ records, ∀ r' ∈ records, r.accountId = r'.accountId → n ≤ (recordsOf records r.accountId).length →
    r.accountName = r'.accountName

/-! ## The groups of `collect_summary` -/

def rowsOf (records : List MeteringRecord) (g : CloudAccountId × Option String) : List MeteringRecord :=
  records.filter (fun r => decide (r.group = g))

def summaryOf (records : List MeteringRecord) (n : Nat) (g : CloudAccountId × Option String) : Option MeteringSummary :=
  let rows := rowsOf records g
  if n ≤ rows.length then some ⟨g.1, g.2, rows.length, maxTier (rows.map (·.productTier))⟩ else none

variable {records : List MeteringRecord} {n : Nat}

theorem mem_recordsOf {a : CloudAccountId} {r : MeteringRecord} :
    r ∈ recordsOf records a ↔ r ∈ records ∧ r.accountId = a := by
  simp [recordsOf]

theorem mem_rowsOf {g : CloudAccountId × Option String} {r : MeteringRecord} :
    r ∈ rowsOf records g ↔ r ∈ records ∧ r.group = g := by
  simp [rowsOf]

theorem mem_accountsWith {a : CloudAccountId} :
    a ∈ accountsWith records n ↔ (∃ r ∈ records, r.accountId = a) ∧ n ≤ (recordsOf records a).length := by
  simp [accountsWith]

theorem nodup_accountsWith : (accountsWith records n).Nodup := (List.nodup_dedup _).filter _

theorem summaryOf_eq_some {g : CloudAccountId × Option String} {s : MeteringSummary} :
    summaryOf records n g = some s ↔ n ≤ (rowsOf records g).length ∧
      s = ⟨g.1, g.2, (rowsOf records g).length, maxTier ((rowsOf records g).map (·.productTier))⟩ := by
  unfold summaryOf
  by_cases h : n ≤ (rowsOf records g).length
  · simp [h, eq_comm]
  · simp [h]

theorem rowsOf_sublist (g : CloudAccountId × Option String) : List.Sublist (rowsOf records g)
    (recordsOf records g.1) := by
  have hrows : rowsOf records g = (recordsOf records g.1).filter (fun r => decide (r.group = g)) := by
    unfold rowsOf recordsOf
    rw [List.filter_filter]
    apply List.filter_congr
    intro r _
    by_cases h : r.group = g
    · have : r.accountId = g.1 := congrArg Prod.fst h
      simp [h, this]
    · simp [h]
  rw [hrows]
  exact List.filter_sublist

/-- The summaries of the groups, of which `collect_summary` is the case of the counted records. -/
def summaries (records : List MeteringRecord) (n : Nat) : List MeteringSummary :=
  (records.map MeteringRecord.group).dedup.filterMap (summaryOf records n)

theorem mem_summaries {s : MeteringSummary} : s ∈ summaries records n ↔
    ∃ r ∈ records, summaryOf records n r.group = some s := by
  simp only [summaries, List.mem_filterMap, List.mem_dedup, List.mem_map]
  constructor
  · rintro ⟨_, ⟨r, hr, rfl⟩, hs⟩
    exact ⟨r, hr, hs⟩
  · rintro ⟨r, hr, hs⟩
    exact ⟨_, ⟨r, hr, rfl⟩, hs⟩

theorem accountId_mem_of_mem_summaries {s : MeteringSummary} (hs : s ∈ summaries records n) :
    s.accountId ∈ accountsWith records n := by
  obtain ⟨r, hr, hsum⟩ := mem_summaries.1 hs
  obtain ⟨hn, rfl⟩ := summaryOf_eq_some.1 hsum
  exact mem_accountsWith.2 ⟨⟨r, hr, rfl⟩, hn.trans (rowsOf_sublist r.group).length_le⟩

theorem filter_summaries (hnames : NamesStay records n) {r : MeteringRecord} (hr : r ∈ records)
    (hn : n ≤ (recordsOf records r.accountId).length) :
    (summaries records n).filter (fun s => decide (s.accountId = r.accountId)) =
      [⟨r.accountId, r.accountName, (recordsOf records r.accountId).length,
        maxTier ((recordsOf records r.accountId).map (·.productTier))⟩] := by
  have hrows : rowsOf records r.group = recordsOf records r.accountId := by
    unfold rowsOf recordsOf
    apply List.filter_congr
    intro x hx
    by_cases h : x.accountId = r.accountId
    · have hname : x.accountName = r.accountName := hnames x hx r hr h (h ▸ hn)
      simp [MeteringRecord.group, h, hname]
    · simp [MeteringRecord.group, h]
  have hsummary : summaryOf records n r.group = some ⟨r.accountId, r.accountName,
      (recordsOf records r.accountId).length, maxTier ((recordsOf records r.accountId).map (·.productTier))⟩ := by
    rw [summaryOf_eq_some, hrows]
    exact ⟨hn, rfl⟩
  have hothers : ∀ g ∈ (records.map MeteringRecord.group).dedup, g ≠ r.group →
      (summaryOf records n g).filter (fun s => decide (s.accountId = r.accountId)) = none := by
    intro g hg hne
    obtain ⟨x, hx, rfl⟩ := List.mem_map.1 (List.mem_dedup.1 hg)
    rw [Option.filter_eq_none_iff]
    intro s hs hid
    obtain ⟨-, rfl⟩ := summaryOf_eq_some.1 hs
    have hacc : x.accountId = r.accountId := of_decide_eq_true hid
    exact hne (Prod.ext hacc (hnames x hx r hr hacc (hacc ▸ hn)))
  unfold summaries
  rw [List.filter_filterMap, filterMap_of_unique (List.nodup_dedup _)
    (List.mem_dedup.2 (List.mem_map_of_mem hr)) hothers, hsummary]
  simp

theorem length_summaries (hone : ∀ a ∈ accountsWith records n,
    ∃ s, (summaries records n).filter (fun s => decide (s.accountId = a)) = [s]) :
    (summaries records n).length = (accountsWith records n).length := by
  have hnodup : ((summaries records n).map (·.accountId)).Nodup := by
    rw [List.nodup_iff_count_le_one]
    intro a
    rw [List.count, List.countP_map, List.countP_eq_length_filter]
    by_cases ha : a ∈ accountsWith records n
    · obtain ⟨s, hs⟩ := hone a ha
      have : (summaries records n).filter ((fun x => x == a) ∘ fun s => s.accountId) = [s] := by
        rw [← hs]
        apply List.filter_congr
        intro x _
        simp [beq_eq_decide]
      rw [this]
      exact Nat.le_refl 1
    · have : (summaries records n).filter ((fun x => x == a) ∘ fun s => s.accountId) = [] := by
        rw [List.filter_eq_nil_iff]
        intro s hs hid
        have hid : s.accountId = a := by simpa using hid
        exact ha (hid ▸ accountId_mem_of_mem_summaries hs)
      rw [this]
      exact Nat.zero_le 1
  have hperm : ((summaries records n).map (·.accountId)).Perm (accountsWith records n) := by
    rw [List.perm_ext_iff_of_nodup hnodup nodup_accountsWith]
    intro a
    constructor
    · intro ha
      obtain ⟨s, hs, rfl⟩ := List.mem_map.1 ha
      exact accountId_mem_of_mem_summaries hs
    · intro ha
      obtain ⟨s, hs⟩ := hone a ha
      obtain ⟨hmem, hid⟩ := List.mem_filter.1 (hs ▸ List.mem_singleton_self s)
      exact List.mem_map.2 ⟨s, hmem, of_decide_eq_true hid⟩
  rw [← hperm.length_eq, List.length_map]

theorem countsAccounts_iff : CountsAccounts records n (summaries records n) ↔ NamesStay records n := by
  constructor
  · intro h r hr r' hr' hacc hn
    -- the one summary of the account counts all its records, so they are all in its group
    obtain ⟨s, hs, hcount, -⟩ := h.one r.accountId (mem_accountsWith.2 ⟨⟨r, hr, rfl⟩, hn⟩)
    obtain ⟨hmem, hid⟩ := List.mem_filter.1 (hs ▸ List.mem_singleton_self s)
    obtain ⟨x, -, hsum⟩ := mem_summaries.1 hmem
    obtain ⟨-, rfl⟩ := summaryOf_eq_some.1 hsum
    have hx : x.accountId = r.accountId := of_decide_eq_true hid
    have hall : rowsOf records x.group = recordsOf records r.accountId := by
      have hsub : (rowsOf records x.group).Sublist (recordsOf records x.group.1) := rowsOf_sublist x.group
      rw [show x.group.1 = r.accountId from hx] at hsub
      exact hsub.eq_of_length hcount
    have hgroup : ∀ y ∈ records, y.accountId = r.accountId → y.accountName = x.accountName := by
      intro y hy hya
      have : y ∈ rowsOf records x.group := hall ▸ mem_recordsOf.2 ⟨hy, hya⟩
      exact congrArg Prod.snd (mem_rowsOf.1 this).2
    rw [hgroup r hr rfl, hgroup r' hr' hacc.symm]
  · intro hnames
    have hone : ∀ a ∈ accountsWith records n, ∃ s,
        (summaries records n).filter (fun s => decide (s.accountId = a)) = [s] ∧
          s.count = (recordsOf records a).length ∧
          s.productTier = maxTier ((recordsOf records a).map (·.productTier)) := by
      intro a ha
      obtain ⟨⟨r, hr, rfl⟩, hn⟩ := mem_accountsWith.1 ha
      exact ⟨_, filter_summaries hnames hr hn, rfl, rfl⟩
    refine ⟨hone, fun s hs => accountId_mem_of_mem_summaries hs, length_summaries fun a ha => ?_⟩
    obtain ⟨s, hs, -⟩ := hone a ha
    exact ⟨s, hs⟩

/-- **`collect_summary` counts accounts exactly when no account with enough records in the window has two names in
them**; the usage of `create_billing_entry` is then the number of such accounts. -/
theorem collectSummary_countsAccounts_iff (metering : List MeteringRecord) (workspaceId : WorkspaceId)
    (start finish : Option DateTime) (minResourcesCollected minNrOfCollects : Nat) :
    CountsAccounts (countedRecords metering workspaceId start finish minResourcesCollected) minNrOfCollects
        (collectSummary metering workspaceId start finish minResourcesCollected minNrOfCollects) ↔
      NamesStay (countedRecords metering workspaceId start finish minResourcesCollected) minNrOfCollects :=
  countsAccounts_iff

/-- **The entry charges the accounts with enough records**, times the factor of the period, as long as no account has
been renamed. -/
theorem createBillingEntry_charges {period : BillingPeriod} {st : BillingStore} {subscription : SubscriptionMethod}
    {now : Option DateTime} {utcNow : DateTime} {uid : BillingId} {entry : BillingEntry} {w : Workspace}
    {rest : List Workspace} (hw : listWorkspacesBySubscriptionId st.organizations subscription.id = w :: rest)
    (hentry : (createBillingEntry period st subscription now utcNow uid).1 = some entry) :
    let billingTime := now.getD utcNow
    let lastCharged := periodStart subscription billingTime
    let records := countedRecords st.metering w.id (some lastCharged) (some billingTime) 100
    NamesStay records 3 →
      entry.nrOfAccountsCharged = max (truncate ((accountsWith records 3).length *
        computeBillingPeriodFactor billingTime lastCharged period.value))
          (productTierSettings entry.tier).accountsIncluded := by
  intro billingTime lastCharged records hnames
  have hlength : (st.summaries w.id lastCharged billingTime).length = (accountsWith records 3).length :=
    ((collectSummary_countsAccounts_iff st.metering w.id (some lastCharged) (some billingTime) 100 3).2 hnames).usage
  rw [← hlength]
  unfold createBillingEntry at hentry
  simp only [hw] at hentry
  split at hentry
  · cases hentry
  · split at hentry
    · cases hentry
    · have := Option.some.inj hentry
      subst this
      rfl

/-- An account of workspace 1 with three collects under each of two names. -/
def renamedCollects : List MeteringRecord :=
  [plusCollect 31 1, plusCollect 32 1, plusCollect 33 1] ++
    [{ plusCollect 34 1 with accountName := some "prod" }, { plusCollect 35 1 with accountName := some "prod" },
      { plusCollect 36 1 with accountName := some "prod" }]

/-- The renamed account is counted twice. -/
theorem renamedCollects_not_countsAccounts :
    ¬ CountsAccounts (countedRecords renamedCollects 1 (some feb) (some mar) 100) 3
      (collectSummary renamedCollects 1 (some feb) (some mar) 100 3) := by
  intro h
  have := h.usage
  revert this
  decide

end Fix
