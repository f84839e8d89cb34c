import FixBackend.Billing
import FixBackend.Intervals
/-!
# BillingPeriods — the windows of successive billing calls

Each call of `create_billing_entry` for a subscription queries the metering records from the last charge to its own
billing time and moves the last charge there, whichever exit it takes; both ends of the query are inclusive.
-/
namespace Fix

open Calendar

def SubscriptionEntity.charged (e : SubscriptionEntity) (now next : DateTime) : SubscriptionEntity :=
  { e with lastChargeTimestamp := some now, nextChargeTimestamp := some next }

def SubscriptionMethod.charged (now next : DateTime) : SubscriptionMethod → SubscriptionMethod
  | .awsMarketplace s => .awsMarketplace { s with lastChargeTimestamp := some now, nextChargeTimestamp := some next }
  | .stripe s => .stripe { s with lastChargeTimestamp := some now, nextChargeTimestamp := some next }

theorem SubscriptionMethod.charged_fields (now next : DateTime) (s : SubscriptionMethod) :
    (s.charged now next).id = s.id ∧ (s.charged now next).active = s.active ∧
      (s.charged now next).lastChargeTimestamp = some now := by
  cases s <;> exact ⟨rfl, rfl, rfl⟩

theorem SubscriptionEntity.toModel_charged {e : SubscriptionEntity} {s : SubscriptionMethod} (h : e.toModel = .ok s)
    (now next : DateTime) : (e.charged now next).toModel = .ok (s.charged now next) := by
  unfold SubscriptionEntity.toModel at h ⊢
  dsimp only [SubscriptionEntity.charged]
  generalize truthy e.stripeSubscriptionId = stripeId, truthy e.stripeCustomerIdentifier = stripeCustomer,
    truthy e.awsCustomerIdentifier = awsCustomer, truthy e.awsCustomerAccountId = awsAccount,
    truthy e.awsProductCode = awsProduct at h ⊢
  split at h
  · cases h
    rfl
  · split at h
    · cases h
      cases stripeId <;> cases stripeCustomer <;> rfl
    · cases h

/-! ## One call -/

/-- A call with a workspace moves the charge timestamp to its billing time through both of its exits. -/
theorem createBillingEntry_subscriptions (period : BillingPeriod) {st : BillingStore}
    {subscription : SubscriptionMethod}
    (now : Option DateTime) (utcNow : DateTime) (uid : BillingId) (hactive : subscription.active = true)
    {w : Workspace} {rest : List Workspace}
    (hw : listWorkspacesBySubscriptionId st.organizations subscription.id = w :: rest) :
    (createBillingEntry period st subscription now utcNow uid).2.subscriptions =
      updateChargeTimestamp st.subscriptions subscription.id (now.getD utcNow)
        (startOfNextPeriod period (now.getD utcNow) 9) := by
  unfold createBillingEntry
  simp only [hactive, Bool.not_true, Bool.false_eq_true, if_false, hw]
  split <;> rfl

theorem createBillingEntry_frame (period : BillingPeriod) (st : BillingStore) (subscription : SubscriptionMethod)
    (now : Option DateTime) (utcNow : DateTime) (uid : BillingId) :
    (createBillingEntry period st subscription now utcNow uid).2.organizations = st.organizations ∧
      (createBillingEntry period st subscription now utcNow uid).2.metering = st.metering := by
  unfold createBillingEntry
  split
  · exact ⟨rfl, rfl⟩
  · split
    · exact ⟨rfl, rfl⟩
    · dsimp only
      split <;> exact ⟨rfl, rfl⟩

theorem getSubscription_createBillingEntry (period : BillingPeriod) {st : BillingStore}
    {subscription : SubscriptionMethod}
    (now : Option DateTime) (utcNow : DateTime) (uid : BillingId) (hactive : subscription.active = true)
    (hstored : getSubscription st.subscriptions subscription.id = .ok (some subscription))
    {w : Workspace} {rest : List Workspace}
    (hw : listWorkspacesBySubscriptionId st.organizations subscription.id = w :: rest) :
    getSubscription (createBillingEntry period st subscription now utcNow uid).2.subscriptions subscription.id =
      .ok (some (subscription.charged (now.getD utcNow) (startOfNextPeriod period (now.getD utcNow) 9))) := by
  rw [createBillingEntry_subscriptions period now utcNow uid hactive hw]
  unfold getSubscription at hstored ⊢
  cases hfind : st.subscriptions.find subscription.id with
  | none =>
    rw [hfind] at hstored
    cases hstored
  | some row =>
    rw [hfind] at hstored
    rw [find_updateChargeTimestamp hfind]
    have hmodel : row.toModel = .ok subscription := by
      cases hm : row.toModel with
      | error e =>
        simp only [hm] at hstored
        cases hstored
      | ok s =>
        simp only [hm] at hstored
        have := Option.some.inj (Except.ok.inj hstored)
        rw [this]
    have := SubscriptionEntity.toModel_charged hmodel (now.getD utcNow) (startOfNextPeriod period (now.getD utcNow) 9)
    unfold SubscriptionEntity.charged at this
    simp only [this]
    rfl

/-! ## Successive calls -/

/-- One call: its argument `now`, what `utc()` and `uid()` return. -/
structure BillingCall where
  now : Option DateTime
  utcNow : DateTime
  uid : BillingId

def BillingCall.billingTime (c : BillingCall) : DateTime := c.now.getD c.utcNow

def storedSubscription (st : BillingStore) (subscriptionId : SubscriptionId) : Option SubscriptionMethod :=
  match getSubscription st.subscriptions subscriptionId with
  | .ok subscription => subscription
  | .error _ => none

def billStored (period : BillingPeriod) (subscriptionId : SubscriptionId) (st : BillingStore) (c : BillingCall) :
    BillingStore :=
  match storedSubscription st subscriptionId with
  | some subscription => (createBillingEntry period st subscription c.now c.utcNow c.uid).2
  | none => st

/-- The windows `[start, end]` over which successive calls query the metering records. -/
def queriedWindows (period : BillingPeriod) (subscriptionId : SubscriptionId) :
    BillingStore → List BillingCall → List (DateTime × DateTime)
  | _, [] => []
  | st, c :: cs =>
    let later := queriedWindows period subscriptionId (billStored period subscriptionId st c) cs
    match storedSubscription st subscriptionId with
    | some subscription => (periodStart subscription c.billingTime, c.billingTime) :: later
    | none => later

/-- **The windows of successive calls are the consecutive intervals from the first charge on.** -/
theorem queriedWindows_eq (period : BillingPeriod) {subscriptionId : SubscriptionId} (w : Workspace) :
    ∀ (calls : List BillingCall) (st : BillingStore) (subscription : SubscriptionMethod) (start : DateTime),
      subscription.id = subscriptionId → subscription.active = true →
      getSubscription st.subscriptions subscriptionId = .ok (some subscription) →
      listWorkspacesBySubscriptionId st.organizations subscriptionId = [w] →
      (∀ c ∈ calls.head?, periodStart subscription c.billingTime = start) →
      queriedWindows period subscriptionId st calls = Intervals.consecutive start (calls.map (·.billingTime))
  | [], _, _, _, _, _, _, _, _ => rfl
  | c :: cs, st, subscription, start, hid, hactive, hstored, hw, hstart => by
    subst hid
    have hnow : storedSubscription st subscription.id = some subscription := by
      unfold storedSubscription
      rw [hstored]
    have hbill : billStored period subscription.id st c =
        (createBillingEntry period st subscription c.now c.utcNow c.uid).2 := by
      unfold billStored
      rw [hnow]
    obtain ⟨horg, -⟩ := createBillingEntry_frame period st subscription c.now c.utcNow c.uid
    obtain ⟨hid, hactive', hlast⟩ := SubscriptionMethod.charged_fields (c.now.getD c.utcNow)
      (startOfNextPeriod period (c.now.getD c.utcNow) 9) subscription
    have hlater := queriedWindows_eq period w cs (billStored period subscription.id st c) _ c.billingTime hid
        (hactive'.trans hactive)
      (by rw [hbill]; exact getSubscription_createBillingEntry period c.now c.utcNow c.uid hactive hstored hw)
      (by rw [hbill, horg]; exact hw)
      (fun d _ => by rw [periodStart, hlast]; rfl)
    unfold queriedWindows
    simp only [hnow, hlater, List.map_cons, Intervals.consecutive, hstart c (by rfl)]

/-- **The windows partition time** from `start` to `finish`: they cover it, and every record of the workspace at a time
in between is in exactly one of them. -/
structure Partition (metering : List MeteringRecord) (workspaceId : WorkspaceId) (start finish : DateTime)
    (windows : List (DateTime × DateTime)) : Prop where
  cover : ∀ t, start ≤ t → t ≤ finish → ∃ w ∈ windows, w.1 ≤ t ∧ t ≤ w.2
  once : ∀ r ∈ metering, r.workspaceId = workspaceId → start ≤ r.timestamp → r.timestamp ≤ finish →
    windows.countP (fun w => r.selected workspaceId (some w.1) (some w.2) 0) = 1

theorem countP_selected (r : MeteringRecord) (windows : List (DateTime × DateTime)) :
    windows.countP (fun w => r.selected r.workspaceId (some w.1) (some w.2) 0) =
      Intervals.holding DateTime.toMicros r.timestamp.toMicros windows := by
  unfold Intervals.holding
  apply List.countP_congr
  intro w _
  rw [r.selected_iff, decide_eq_true_eq, DateTime.le_def, DateTime.le_def]
  simp

/-- **Successive calls at increasing billing times partition the time since the first charge exactly when no record of
the workspace lies at the billing time of a call that another one follows.** -/
theorem queriedWindows_partition_iff (period : BillingPeriod) (st : BillingStore) (subscription : SubscriptionMethod)
    (w : Workspace) (calls : List BillingCall) (hne : calls ≠ []) (hactive : subscription.active = true)
    (hstored : getSubscription st.subscriptions subscription.id = .ok (some subscription))
    (hw : listWorkspacesBySubscriptionId st.organizations subscription.id = [w])
    (hsorted : calls.Pairwise (fun c d => c.billingTime < d.billingTime)) :
    Partition st.metering w.id (periodStart subscription (calls.head hne).billingTime) (calls.getLast hne).billingTime
        (queriedWindows period subscription.id st calls) ↔
      ∀ r ∈ st.metering, r.workspaceId = w.id →
        periodStart subscription (calls.head hne).billingTime ≤ r.timestamp →
          ∀ c ∈ calls.dropLast, r.timestamp.toMicros ≠ c.billingTime.toMicros := by
  have hwindows := queriedWindows_eq period w calls st subscription
    (periodStart subscription (calls.head hne).billingTime) rfl hactive hstored hw
    (fun c hc => by rw [List.head?_eq_some_head hne, Option.mem_some_iff] at hc; rw [hc])
  have hne' : calls.map (·.billingTime) ≠ [] := by simpa using hne
  have hsorted' : (calls.map (·.billingTime)).Pairwise (fun a b => a.toMicros < b.toMicros) :=
    List.pairwise_map.2 hsorted
  have hlast : (calls.map (·.billingTime)).getLast hne' = (calls.getLast hne).billingTime := List.getLast_map hne'
  have hdrop : (calls.map (·.billingTime)).dropLast.map DateTime.toMicros =
      calls.dropLast.map (fun c => c.billingTime.toMicros) := by
    rw [← List.map_dropLast, List.map_map]
    rfl
  have hholding : ∀ t, periodStart subscription (calls.head hne).billingTime ≤ t →
      t ≤ (calls.getLast hne).billingTime →
      Intervals.holding DateTime.toMicros t.toMicros (queriedWindows period subscription.id st calls) =
        if t.toMicros ∈ calls.dropLast.map (fun c => c.billingTime.toMicros) then 2 else 1 := by
    intro t hfrom hto
    rw [hwindows, Intervals.holding_consecutive DateTime.toMicros hne' hsorted' hfrom
      (by rw [hlast]; exact hto), hdrop]
  constructor
  · intro h r hr hws hfrom c hc heq
    have hlt : c.billingTime < (calls.getLast hne).billingTime := by
      have happ := List.dropLast_append_getLast hne
      rw [← happ, List.pairwise_append] at hsorted
      exact hsorted.2.2 c hc _ (List.mem_singleton_self _)
    have hto : r.timestamp ≤ (calls.getLast hne).billingTime := by
      rw [DateTime.le_def, heq]
      exact Nat.le_of_lt hlt
    have hone := h.once r hr hws hfrom hto
    rw [← hws, countP_selected, hholding _ hfrom hto,
      if_pos (List.mem_map.2 ⟨c, hc, heq.symm⟩)] at hone
    cases hone
  · intro h
    refine ⟨fun t hfrom hto => ?_, fun r hr hws hfrom hto => ?_⟩
    · refine Intervals.exists_of_holding DateTime.toMicros ?_
      rw [hholding t hfrom hto]
      split <;> omega
    · rw [← hws, countP_selected, hholding _ hfrom hto, if_neg]
      intro hmem
      obtain ⟨c, hc, heq⟩ := List.mem_map.1 hmem
      exact h r hr hws hfrom c hc heq.symm

/-! ## A record at the end of a month's window -/

def apr : DateTime := (⟨2024, 4, 1, by decide⟩ : Date).atHour 9

/-- Workspace 1 with a collect at the very time of the call in March. -/
def collectAtCharge : BillingStore :=
  { twoWorkspaces with
    organizations := ⟨[plusOrganization 1], plusOrganization_unique⟩
    metering := [{ plusCollect 31 1 with timestamp := mar }] }

def marchAndApril : List BillingCall := [⟨some mar, mar, 41⟩, ⟨some apr, apr, 42⟩]

theorem queriedWindows_partition_iff_marchAndApril :
    Partition collectAtCharge.metering 1 feb apr
        (queriedWindows .month plusMethod.id collectAtCharge marchAndApril) ↔
      ∀ r ∈ collectAtCharge.metering, r.workspaceId = 1 → feb ≤ r.timestamp →
        ∀ c ∈ marchAndApril.dropLast, r.timestamp.toMicros ≠ c.billingTime.toMicros :=
  queriedWindows_partition_iff .month collectAtCharge plusMethod ((plusOrganization 1).toModel none) marchAndApril
    (List.cons_ne_nil _ _) (by decide) (by decide) (by decide) (by decide)

/-- The collect is in the window that ends in March and in the one that starts there. -/
theorem collectAtCharge_not_partition : ¬ Partition collectAtCharge.metering 1 feb apr
    (queriedWindows .month plusMethod.id collectAtCharge marchAndApril) := by
  intro h
  have hwindows := queriedWindows_eq .month ((plusOrganization 1).toModel none) marchAndApril collectAtCharge plusMethod
    feb rfl (by decide) (by decide) (by decide) (by decide)
  have hone := h.once _ (List.mem_singleton_self _) (by decide) (by decide) (by decide)
  rw [hwindows] at hone
  exact absurd hone (by decide)

end Fix
