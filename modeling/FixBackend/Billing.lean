import FixBackend.Events
import FixBackend.Metering
import FixBackend.Subscriptions
import FixBackend.Workspaces
/-!
# Billing — one billing entry of a subscription

`BillingEntryService.create_billing_entry` of `fixbackend/billing/service.py` with `start_of_next_period` of
`fixbackend/utils.py`.  The factor of a month is an exact fraction where the source has a float.
-/
namespace Fix

open Calendar

inductive BillingPeriod where
  | month
  | day
deriving DecidableEq

def startOfNextMonth (currentTime : DateTime) (hour : Fin 24) : DateTime := currentTime.date.nextMonth.atHour hour

def startOfNextDay (currentTime : DateTime) (hour : Fin 24) : DateTime := currentTime.date.nextDay.atHour hour

def startOfNextPeriod (period : BillingPeriod) (currentTime : DateTime) (hour : Fin 24) : DateTime :=
  match period with
  | .month => startOfNextMonth currentTime hour
  | .day => startOfNextDay currentTime hour

theorem lt_startOfNextPeriod (period : BillingPeriod) (t : DateTime) (hour : Fin 24) :
    t < startOfNextPeriod period t hour := by
  cases period with
  | month => exact DateTime.lt_of_month_lt t.date.monthLt_nextMonth
  | day => exact DateTime.lt_of_ordinal_lt t.date.ordinal_lt_nextDay

/-- `timedelta(days=30)` and `timedelta(days=1)` in microseconds. -/
def BillingPeriod.value : BillingPeriod → Int
  | .month => 30 * dayMicros
  | .day => dayMicros

def computeBillingPeriodFactor (billingTime lastCharged : DateTime) (periodValue : Int) : ℚ :=
  let delta : ℚ := billingTime.sub lastCharged
  let periodLowerBound : ℚ := periodValue - periodValue * (1667 / 10000)
  let periodUpperBound : ℚ := periodValue + periodValue * (1667 / 10000)
  if periodLowerBound < delta ∧ delta < periodUpperBound then 1 else delta / periodValue

def truncate (q : ℚ) : Int := q.num.tdiv q.den

/-- What `create_billing_entry` reads and writes. -/
structure BillingStore where
  organizations : Organizations
  subscriptions : Subscriptions
  billing : List BillingEntry
  metering : List MeteringRecord
  published : List DomainEvent

/-- The summaries of a workspace for the period, with at least 100 resources collected and at least 3 collects. -/
def BillingStore.summaries (st : BillingStore) (workspaceId : WorkspaceId) (lastCharged billingTime : DateTime) :
    List MeteringSummary :=
  collectSummary st.metering workspaceId (some lastCharged) (some billingTime) 100 3

def BillingStore.highestTier (st : BillingStore) (workspaceId : WorkspaceId) (lastCharged billingTime : DateTime) :
    ProductTier :=
  maxTier ((st.summaries workspaceId lastCharged billingTime).map (·.productTier))

/-- `BillingEntryService.create_billing_entry`, `utcNow` being what `utc()` and `uid` what `uid()` return.  Both ends of
the loop's body return, so no workspace but the first is looked at. -/
def createBillingEntry (period : BillingPeriod) (st : BillingStore) (subscription : SubscriptionMethod)
    (now : Option DateTime) (utcNow : DateTime) (uid : BillingId) : Option BillingEntry × BillingStore :=
  if !subscription.active then (none, st)
  else
    let billingTime := now.getD utcNow
    let nextCharge := startOfNextPeriod period billingTime 9
    let lastCharged := subscription.lastChargeTimestamp.getD billingTime
    let monthFactor := computeBillingPeriodFactor billingTime lastCharged period.value
    match listWorkspacesBySubscriptionId st.organizations subscription.id with
    | [] => (none, st)
    | workspace :: _ =>
      let productTier := st.highestTier workspace.id lastCharged billingTime
      let accountsIncluded := (productTierSettings productTier).accountsIncluded
      let usage :=
        max (truncate ((st.summaries workspace.id lastCharged billingTime).length * monthFactor)) accountsIncluded
      if !productTier.paid || usage == 0 then
        (none, { st with
          subscriptions := updateChargeTimestamp st.subscriptions subscription.id billingTime nextCharge })
      else
        let (entry, billing, subscriptions) := addBillingEntry st.subscriptions st.billing subscription.id workspace.id
          productTier usage lastCharged billingTime nextCharge uid
        (some entry, { st with
          billing := billing
          subscriptions := subscriptions
          published := st.published ++ [.billingEntryCreated workspace.id subscription.id productTier usage] })

/-! ## One call -/

def periodStart (subscription : SubscriptionMethod) (billingTime : DateTime) : DateTime :=
  subscription.lastChargeTimestamp.getD billingTime

/-- The workspace has a paid highest tier in the period of the call. -/
def BillingStore.paidUsage (st : BillingStore) (subscription : SubscriptionMethod) (billingTime : DateTime)
    (w : Workspace) : Bool :=
  (st.highestTier w.id (periodStart subscription billingTime) billingTime).paid

/-- **Every workspace of the subscription is billed**: one new entry for each with a paid highest tier and none besides,
and the next period neither leaves a gap nor starts after usage of the period that no new entry charges. -/
def BillsEvery (st st' : BillingStore) (subscription : SubscriptionMethod) (billingTime : DateTime) : Prop :=
  let assigned := listWorkspacesBySubscriptionId st.organizations subscription.id
  ∃ new, st'.billing = st.billing ++ new ∧
    (∀ e ∈ new, e.subscriptionId = subscription.id ∧ ∃ w ∈ assigned, e.workspaceId = w.id) ∧
    ∀ w ∈ assigned,
      new.countP (fun e => decide (e.workspaceId = w.id)) = (st.paidUsage subscription billingTime w).toNat ∧
      ∃ nextStart, (st'.subscriptions.find subscription.id).bind (·.lastChargeTimestamp) = some nextStart ∧
        nextStart ≤ billingTime ∧
        ∀ r ∈ st.metering, r.selected w.id (some (periodStart subscription billingTime)) (some billingTime) 0 →
          st.paidUsage subscription billingTime w →
            nextStart ≤ r.timestamp ∨
            ∃ e ∈ new, e.workspaceId = w.id ∧ e.periodStart ≤ r.timestamp ∧ r.timestamp ≤ e.periodEnd

theorem usage_ne_zero {tier : ProductTier} (h : tier.paid = true) (n : Int) :
    (max n (productTierSettings tier).accountsIncluded == 0) = false := by
  have := accountsIncluded_pos h
  simp only [beq_eq_false_iff_ne, ne_eq]
  omega

theorem createBillingEntry_cons (period : BillingPeriod) {st : BillingStore} {subscription : SubscriptionMethod}
    (now : Option DateTime) (utcNow : DateTime) (uid : BillingId) (hactive : subscription.active = true)
    {row : SubscriptionEntity} (hrow : st.subscriptions.find subscription.id = some row)
    {w : Workspace} {rest : List Workspace}
    (hw : listWorkspacesBySubscriptionId st.organizations subscription.id = w :: rest) :
    let st' := (createBillingEntry period st subscription now utcNow uid).2
    (st'.subscriptions.find subscription.id).bind (·.lastChargeTimestamp) = some (now.getD utcNow) ∧
    ∃ new, st'.billing = st.billing ++ new ∧
      if st.paidUsage subscription (now.getD utcNow) w then
        ∃ entry, new = [entry] ∧ entry.subscriptionId = subscription.id ∧ entry.workspaceId = w.id ∧
          entry.periodStart = periodStart subscription (now.getD utcNow) ∧ entry.periodEnd = now.getD utcNow
      else new = [] := by
  unfold createBillingEntry
  simp only [hactive, Bool.not_true, Bool.false_eq_true, if_false, hw]
  by_cases hpaid : st.paidUsage subscription (now.getD utcNow) w = true
  · have htier := hpaid
    unfold BillingStore.paidUsage periodStart at htier
    simp only [htier, Bool.not_true, Bool.false_or, usage_ne_zero htier, Bool.false_eq_true, if_false, addBillingEntry,
      hpaid, if_true]
    rw [find_updateChargeTimestamp hrow]
    exact ⟨Option.bind_some .., _, rfl, _, rfl, rfl, rfl, rfl, rfl⟩
  · have htier := hpaid
    unfold BillingStore.paidUsage periodStart at htier
    simp only [htier, Bool.not_false, Bool.true_or, if_true, hpaid, Bool.false_eq_true, if_false]
    rw [find_updateChargeTimestamp hrow]
    exact ⟨Option.bind_some .., [], (List.append_nil _).symm, rfl⟩

/-- A call of `create_billing_entry` at this time charges nothing: the subscription is inactive or has no workspace, or
its first workspace has no paid usage. -/
def BillingStore.ChargesNothing (st : BillingStore) (subscription : SubscriptionMethod)
    (billingTime : DateTime) : Prop :=
  ∀ w rest, listWorkspacesBySubscriptionId st.organizations subscription.id = w :: rest → subscription.active = true →
    st.paidUsage subscription billingTime w = false

theorem BillingStore.chargesNothing_congr {st st' : BillingStore} (horg : st'.organizations = st.organizations)
    (hmet : st'.metering = st.metering) {s : SubscriptionMethod} {t : DateTime} (h : st.ChargesNothing s t) :
    st'.ChargesNothing s t := by
  intro w rest hw hactive
  rw [horg] at hw
  have := h w rest hw hactive
  unfold BillingStore.paidUsage BillingStore.highestTier BillingStore.summaries at this ⊢
  rw [hmet]
  exact this

/-- **What a call can do**: nothing, when the subscription is inactive or has no workspace; a charge, when the first
workspace has no paid usage; and otherwise a charge and an unreported entry of the first workspace. -/
theorem createBillingEntry_cases (period : BillingPeriod) (st : BillingStore) (subscription : SubscriptionMethod)
    (now : Option DateTime) (utcNow : DateTime) (uid : BillingId) :
    (∀ w rest, listWorkspacesBySubscriptionId st.organizations subscription.id = w :: rest →
        subscription.active = false) ∧ createBillingEntry period st subscription now utcNow uid = (none, st) ∨
    ∃ w rest, subscription.active = true ∧ listWorkspacesBySubscriptionId st.organizations subscription.id = w :: rest ∧
      let charged := updateChargeTimestamp st.subscriptions subscription.id (now.getD utcNow)
        (startOfNextPeriod period (now.getD utcNow) 9)
      if st.paidUsage subscription (now.getD utcNow) w then
        ∃ entry, entry.id = uid ∧ entry.subscriptionId = subscription.id ∧ entry.workspaceId = w.id ∧
          entry.reported = false ∧
          createBillingEntry period st subscription now utcNow uid = (some entry, { st with
            billing := st.billing ++ [entry]
            subscriptions := charged
            published := st.published ++
              [.billingEntryCreated w.id subscription.id entry.tier entry.nrOfAccountsCharged] })
      else createBillingEntry period st subscription now utcNow uid = (none, { st with subscriptions := charged }) := by
  cases hactive : subscription.active with
  | false =>
    refine Or.inl ⟨fun _ _ _ => rfl, ?_⟩
    unfold createBillingEntry
    rw [hactive]
    rfl
  | true =>
    cases hw : listWorkspacesBySubscriptionId st.organizations subscription.id with
    | nil =>
      refine Or.inl ⟨fun _ _ h => (List.cons_ne_nil _ _ h.symm).elim, ?_⟩
      unfold createBillingEntry
      simp only [hactive, Bool.not_true, Bool.false_eq_true, if_false, hw]
    | cons w rest =>
      refine Or.inr ⟨w, rest, rfl, rfl, ?_⟩
      unfold createBillingEntry
      simp only [hactive, Bool.not_true, Bool.false_eq_true, if_false, hw]
      by_cases hpaid : st.paidUsage subscription (now.getD utcNow) w = true
      · have htier := hpaid
        unfold BillingStore.paidUsage periodStart at htier
        simp only [htier, Bool.not_true, Bool.false_or, usage_ne_zero htier, Bool.false_eq_true, if_false,
          addBillingEntry, hpaid, if_true]
        exact ⟨_, rfl, rfl, rfl, rfl, rfl⟩
      · have htier := hpaid
        unfold BillingStore.paidUsage periodStart at htier
        simp only [htier, Bool.not_false, Bool.true_or, if_true, hpaid, Bool.false_eq_true, if_false]

theorem nodup_listWorkspaces (orgs : Organizations) (subscriptionId : SubscriptionId) :
    ((listWorkspacesBySubscriptionId orgs subscriptionId).map (·.id)).Nodup := by
  unfold listWorkspacesBySubscriptionId
  rw [List.map_map]
  exact orgs.unique.sublist (List.filter_sublist.map _)

/-- **A call bills every workspace exactly when no workspace but the first has a paid highest tier in the period.** -/
theorem createBillingEntry_billsEvery_iff (period : BillingPeriod) (st : BillingStore)
    (subscription : SubscriptionMethod)
    (now : Option DateTime) (utcNow : DateTime) (uid : BillingId) (hactive : subscription.active = true)
    (hstored : getSubscription st.subscriptions subscription.id = .ok (some subscription)) :
    BillsEvery st (createBillingEntry period st subscription now utcNow uid).2 subscription (now.getD utcNow) ↔
      ∀ w ∈ (listWorkspacesBySubscriptionId st.organizations subscription.id).tail,
        st.paidUsage subscription (now.getD utcNow) w = false := by
  obtain ⟨row, hrow⟩ : ∃ row, st.subscriptions.find subscription.id = some row := by
    unfold getSubscription at hstored
    cases hfind : st.subscriptions.find subscription.id with
    | none => rw [hfind] at hstored; cases hstored
    | some row => exact ⟨row, rfl⟩
  unfold BillsEvery
  have hnodup := nodup_listWorkspaces st.organizations subscription.id
  cases hw : listWorkspacesBySubscriptionId st.organizations subscription.id with
  | nil =>
    simp only [List.tail_nil, List.not_mem_nil, false_implies, implies_true, iff_true]
    refine ⟨[], ?_, fun e he => absurd he List.not_mem_nil, trivial⟩
    unfold createBillingEntry
    simp only [hactive, Bool.not_true, Bool.false_eq_true, if_false, hw, List.append_nil]
  | cons first rest =>
    rw [hw, List.map_cons, List.nodup_cons] at hnodup
    have hfresh : ∀ w ∈ rest, w.id ≠ first.id := fun w hmem h => hnodup.1 (List.mem_map.2 ⟨w, hmem, h⟩)
    obtain ⟨hcharge, new, hnew, hentries⟩ := createBillingEntry_cons period now utcNow uid hactive hrow hw
    simp only [List.tail_cons, hcharge, hnew]
    constructor
    · rintro ⟨new', hnew', -, hcount⟩ w hmem
      rw [List.append_cancel_left_eq] at hnew'
      subst hnew'
      -- the only entry a call adds is one of the first workspace
      have hzero : new.countP (fun e => decide (e.workspaceId = w.id)) = 0 := by
        split at hentries
        · obtain ⟨entry, rfl, -, hid, -⟩ := hentries
          simp [hid, (hfresh w hmem).symm]
        · rw [hentries]
          rfl
      have := (hcount w (List.mem_cons_of_mem _ hmem)).1
      rw [hzero] at this
      simpa using this.symm
    · intro hrest
      refine ⟨new, rfl, ?_, ?_⟩
      · intro e he
        split at hentries
        · obtain ⟨entry, rfl, hsub, hid, -⟩ := hentries
          rw [List.mem_singleton.1 he]
          exact ⟨hsub, first, List.mem_cons_self, hid⟩
        · rw [hentries] at he
          cases he
      · intro w hmem
        rcases List.mem_cons.1 hmem with rfl | hmem
        · split at hentries
          · rename_i hpaid
            obtain ⟨entry, rfl, -, hid, hstart, hend⟩ := hentries
            refine ⟨by simp [hid, hpaid], _, rfl, DateTime.le_def.2 (Nat.le_refl _), fun r _ hsel _ => Or.inr ?_⟩
            obtain ⟨-, -, hfrom, hto⟩ := (r.selected_iff _ _ _ _).1 hsel
            exact ⟨entry, List.mem_singleton.2 rfl, hid, by rw [hstart]; exact hfrom, by rw [hend]; exact hto⟩
          · rename_i hpaid
            subst hentries
            refine ⟨by simp [hpaid], _, rfl, DateTime.le_def.2 (Nat.le_refl _), fun r _ _ h => absurd h hpaid⟩
        · have hpaid := hrest w hmem
          refine ⟨?_, _, rfl, DateTime.le_def.2 (Nat.le_refl _), fun r _ _ h => ?_⟩
          · rw [hpaid]
            split at hentries
            · obtain ⟨entry, rfl, -, hid, -⟩ := hentries
              simp [hid, (hfresh w hmem).symm]
            · rw [hentries]
              rfl
          · rw [hpaid] at h
            cases h

theorem BillsEvery.exists_entry {st st' : BillingStore} {subscription : SubscriptionMethod} {billingTime : DateTime}
    (h : BillsEvery st st' subscription billingTime) {w : Workspace}
    (hw : w ∈ listWorkspacesBySubscriptionId st.organizations subscription.id)
    (hpaid : st.paidUsage subscription billingTime w = true) : ∃ e ∈ st'.billing, e.workspaceId = w.id := by
  obtain ⟨new, hbilling, -, hcount⟩ := h
  have hone := (hcount w hw).1
  rw [hpaid] at hone
  have hpos : 0 < new.countP (fun e => decide (e.workspaceId = w.id)) := by
    rw [hone]
    exact Nat.one_pos
  obtain ⟨e, he, hid⟩ := List.countP_pos_iff.1 hpos
  exact ⟨e, hbilling ▸ List.mem_append_right _ he, of_decide_eq_true hid⟩

/-! ## Two workspaces of one subscription -/

def feb : DateTime := (⟨2024, 2, 1, valid_february1⟩ : Date).atHour 9

def mar : DateTime := (⟨2024, 3, 1, by decide⟩ : Date).atHour 9

def plusOrganization (id : WorkspaceId) : Organization where
  id := id
  slug := "acme"
  name := "acme"
  externalId := 10
  ownerId := 11
  members := [11]
  tier := .plus
  subscriptionId := some 20
  paymentOnHoldSince := none
  createdAt := feb
  updatedAt := feb
  highestCurrentCycleTier := some .plus
  currentCycleEndsAt := none
  tierUpdatedAt := none

def plusSubscription : SubscriptionEntity where
  id := 20
  userId := some 11
  awsCustomerIdentifier := some "customer"
  awsCustomerAccountId := some "123456789012"
  awsProductCode := some "product"
  stripeCustomerIdentifier := none
  stripeSubscriptionId := none
  stripeWorkspaceId := none
  active := true
  lastChargeTimestamp := some feb
  nextChargeTimestamp := some mar

theorem plusOrganization_unique : ([plusOrganization 1].map Organization.id).Nodup := by decide

theorem plusSubscription_unique : ([plusSubscription].map SubscriptionEntity.id).Nodup := by decide

def plusCollect (id : Uuid) (workspaceId : WorkspaceId) : MeteringRecord where
  id := id
  workspaceId := workspaceId
  cloud := "aws"
  accountId := "123456789012"
  accountName := none
  timestamp := feb.endOfMonth
  jobId := "job"
  taskId := "task"
  nrOfResourcesCollected := 100
  nrOfErrorMessages := 0
  startedAt := feb.endOfMonth
  duration := 18
  productTier := .plus

/-- The workspaces 1 and 2 of subscription 20, each with three collects of one account in February. -/
def twoWorkspaces : BillingStore where
  organizations := ⟨[plusOrganization 1, plusOrganization 2], by decide⟩
  subscriptions := ⟨[plusSubscription], plusSubscription_unique⟩
  billing := []
  metering := [plusCollect 31 1, plusCollect 32 1, plusCollect 33 1, plusCollect 34 2, plusCollect 35 2,
    plusCollect 36 2]
  published := []

def plusMethod : SubscriptionMethod :=
  .awsMarketplace ⟨20, some 11, "customer", "123456789012", "product", true, some feb, some mar⟩

theorem createBillingEntry_billsEvery_iff_twoWorkspaces :
    BillsEvery twoWorkspaces (createBillingEntry .month twoWorkspaces plusMethod (some mar) mar 40).2 plusMethod mar ↔
      ∀ w ∈ (listWorkspacesBySubscriptionId twoWorkspaces.organizations plusMethod.id).tail,
        twoWorkspaces.paidUsage plusMethod mar w = false :=
  createBillingEntry_billsEvery_iff .month twoWorkspaces plusMethod (some mar) mar 40 (by decide) (by decide)

/-- The second workspace has paid usage and gets no entry. -/
theorem twoWorkspaces_not_billsEvery : ¬ BillsEvery twoWorkspaces
    (createBillingEntry .month twoWorkspaces plusMethod (some mar) mar 40).2 plusMethod mar := by
  intro h
  obtain ⟨e, he, hid⟩ := h.exists_entry (w := (plusOrganization 2).toModel none) (by decide) (by decide)
  have hlist : listWorkspacesBySubscriptionId twoWorkspaces.organizations plusMethod.id =
      [(plusOrganization 1).toModel none, (plusOrganization 2).toModel none] := by decide
  have hrow : twoWorkspaces.subscriptions.find plusMethod.id = some plusSubscription := by decide
  obtain ⟨-, new, hnew, hone⟩ := createBillingEntry_cons .month (some mar) mar 40 (by decide) hrow hlist
  rw [if_pos (by decide)] at hone
  obtain ⟨entry, rfl, -, hfirst, -⟩ := hone
  rw [hnew] at he
  rw [List.mem_singleton.1 he, hfirst] at hid
  exact absurd hid (by decide)

end Fix
