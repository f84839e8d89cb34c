import FixBackend.Machine
import FixBackend.Marketplace
/-!
# MarketplaceUsage — usage is reported to the marketplace at most once

Usage is sent by the hourly report of the unreported entries, which marks each entry it has sent, and on a cancellation,
which does not.  Every batch is accepted.
-/
namespace Fix

open Calendar Effects Machine

inductive UsageCall where
  | subscriptionCanceled (customerId : String)
  | handleMessage (message : MarketplaceMessage)
  | createBillingEntry (subscription : SubscriptionMethod) (now : Option DateTime)
  | reportUnreportedUsages (raiseException : Bool)

namespace UsageCall

def step (client : MarketplaceClient) (period : BillingPeriod) (p : Payments) : UsageCall → Option Payments
  | subscriptionCanceled c => some (exec (AwsMarketplaceHandler.subscriptionCanceled client period c) p).2
  | handleMessage m => some (exec (AwsMarketplaceHandler.handleMessage client period m) p).2
  | createBillingEntry s now => some (exec (BillingEntryService.createBillingEntry period s now) p).2
  | reportUnreportedUsages raises => some (exec (AwsMarketplaceHandler.reportUnreportedUsages client raises) p).2

def cancels : UsageCall → Option String
  | subscriptionCanceled c => some c
  | handleMessage m => m.cancels
  | _ => none

end UsageCall

/-- **Usage is metered at most once**: no entry is sent twice, and every entry that was sent is marked as reported, so
no later call selects it. -/
structure MeteredOnce (p : Payments) : Prop where
  once : p.meteredFor.Nodup
  reported : ∀ id ∈ p.meteredFor, ∃ be ∈ p.tables.billing, be.id = id ∧ be.reported = true

/-- The ids of the stored entries differ, and new ones will differ from them. -/
structure FreshIds (p : Payments) : Prop where
  unique : (p.tables.billing.map (·.id)).Nodup
  fresh : ∀ be ∈ p.tables.billing, be.id < p.world.nextUuid

/-- Usage is metered at most once, and stays so when an entry with the next id is stored. -/
def Metered (p : Payments) : Prop := MeteredOnce p ∧ FreshIds p

/-- None of the subscriptions that a cancellation reads is charged at the time it comes to it. -/
def Uncharged (st : BillingStore) (clock : Nat → DateTime) : Nat → List (Except Err SubscriptionMethod) → Prop
  | tick, .ok (.awsMarketplace s) :: rest =>
    st.ChargesNothing (.awsMarketplace s) (clock tick) ∧ Uncharged st clock (tick + 1) rest
  | _, _ => True

/-- A call that cancels finds no usage to charge. -/
def CancelsUncharged (p : Payments) (call : UsageCall) : Prop :=
  ∀ c, call.cancels = some c → Uncharged p.billingStore p.world.clock p.world.ticks (p.subscriptionsOf c)

/-! ## Cancelling -/

theorem Uncharged.congr {st st' : BillingStore} {clock : Nat → DateTime} (horg : st'.organizations = st.organizations)
    (hmet : st'.metering = st.metering) : ∀ {rows : List (Except Err SubscriptionMethod)} {tick : Nat},
      Uncharged st clock tick rows → Uncharged st' clock tick rows
  | [], _, _ => trivial
  | .error _ :: _, _, _ => trivial
  | .ok (.stripe _) :: _, _, _ => trivial
  | .ok (.awsMarketplace _) :: _, _, h => ⟨BillingStore.chargesNothing_congr horg hmet h.1, h.2.congr horg hmet⟩

theorem exec_createBillingEntry_billing (period : BillingPeriod) (s : SubscriptionMethod) (now : Option DateTime)
    (p : Payments) :
    let after := exec (BillingEntryService.createBillingEntry period s now) p
    after.2.meteredFor = p.meteredFor ∧ after.2.world.nextUuid = p.world.nextUuid + 1 ∧
      after.2.world.ticks = p.world.ticks + 1 ∧ after.2.world.clock = p.world.clock ∧
      after.2.world.organizations = p.world.organizations ∧ after.2.metering = p.metering ∧
      (after.1 = .ok none ∧ after.2.tables.billing = p.tables.billing ∨
        ¬ p.billingStore.ChargesNothing s (now.getD (p.world.clock p.world.ticks)) ∧
        ∃ entry, entry.id = p.world.nextUuid ∧ entry.reported = false ∧ after.1 = .ok (some entry) ∧
          after.2.tables.billing = p.tables.billing ++ [entry]) := by
  rw [BillingEntryService.exec_createBillingEntry]
  rcases createBillingEntry_cases period p.billingStore s now (p.world.clock p.world.ticks) p.world.nextUuid with
    ⟨-, hst⟩ | ⟨w, rest, hactive, hw, hst⟩
  · rw [hst]
    exact ⟨rfl, rfl, rfl, rfl, rfl, rfl, Or.inl ⟨rfl, rfl⟩⟩
  · dsimp only at hst
    split at hst
    · rename_i hpaid
      obtain ⟨entry, hid, -, -, hrep, hst⟩ := hst
      rw [hst]
      refine ⟨rfl, rfl, rfl, rfl, rfl, rfl, Or.inr ⟨fun h => ?_, entry, hid, hrep, rfl, rfl⟩⟩
      rw [h w rest hw hactive] at hpaid
      cases hpaid
    · rw [hst]
      exact ⟨rfl, rfl, rfl, rfl, rfl, rfl, Or.inl ⟨rfl, rfl⟩⟩

theorem MeteredOnce.of_billing {p p' : Payments} (h : MeteredOnce p) (hfor : p'.meteredFor = p.meteredFor)
    (hbilling : ∀ be ∈ p.tables.billing, be ∈ p'.tables.billing) : MeteredOnce p' := by
  refine ⟨by rw [hfor]; exact h.once, fun id hid => ?_⟩
  rw [hfor] at hid
  obtain ⟨be, hbe, hid, hrep⟩ := h.reported id hid
  exact ⟨be, hbilling be hbe, hid, hrep⟩

theorem FreshIds.snoc {p p' : Payments} (h : FreshIds p) {entry : BillingEntry} (hid : entry.id = p.world.nextUuid)
    (hnext : p'.world.nextUuid = p.world.nextUuid + 1) (hbilling : p'.tables.billing = p.tables.billing ++ [entry]) :
    FreshIds p' := by
  constructor
  · rw [hbilling, List.map_append, List.nodup_append]
    refine ⟨h.unique, List.nodup_singleton _, ?_⟩
    intro a ha b hb hab
    obtain ⟨be, hbe, rfl⟩ := List.mem_map.1 ha
    rw [List.map_singleton, List.mem_singleton] at hb
    exact Nat.lt_irrefl _ (hid ▸ hb ▸ hab ▸ h.fresh be hbe)
  · intro be hbe
    rw [hbilling] at hbe
    rcases List.mem_append.1 hbe with hbe | hbe
    · rw [hnext]
      exact Nat.lt_succ_of_lt (h.fresh be hbe)
    · rw [List.mem_singleton.1 hbe, hid, hnext]
      exact Nat.lt_succ_self _

theorem FreshIds.of_billing {p p' : Payments} (h : FreshIds p) (hnext : p.world.nextUuid ≤ p'.world.nextUuid)
    (hbilling : p'.tables.billing = p.tables.billing) : FreshIds p' := by
  constructor
  · rw [hbilling]
    exact h.unique
  · intro be hbe
    rw [hbilling] at hbe
    exact Nat.lt_of_lt_of_le (h.fresh be hbe) hnext

theorem metered_createBillingEntry (period : BillingPeriod) (s : SubscriptionMethod) (now : Option DateTime)
    {p : Payments} (hp : Metered p) : Metered (exec (BillingEntryService.createBillingEntry period s now) p).2 := by
  obtain ⟨hp, hids⟩ := hp
  obtain ⟨hfor, hnext, -, -, -, -, ⟨-, hbilling⟩ | ⟨-, entry, hid, -, -, hbilling⟩⟩ :=
    exec_createBillingEntry_billing period s now p
  · exact ⟨hp.of_billing hfor fun be hbe => hbilling ▸ hbe, hids.of_billing (hnext ▸ Nat.le_succ _) hbilling⟩
  · exact ⟨hp.of_billing hfor fun be hbe => hbilling ▸ List.mem_append_left _ hbe, hids.snoc hid hnext hbilling⟩

theorem metered_cancel (client : MarketplaceClient) (period : BillingPeriod) (s : AwsMarketplaceSubscription)
    {p : Payments} (hp : Metered p)
    (hs : p.billingStore.ChargesNothing (.awsMarketplace s) (p.world.clock p.world.ticks)) :
    ∃ p', exec (AwsMarketplaceHandler.cancel client period (.awsMarketplace s)) p = (.ok ⟨⟩, p') ∧ Metered p' ∧
      p'.world.ticks = p.world.ticks + 1 ∧ p'.world.clock = p.world.clock ∧
      p'.world.organizations = p.world.organizations ∧ p'.metering = p.metering := by
  dsimp only [AwsMarketplaceHandler.cancel]
  rw [exec_bind, exec_inWorld]
  dsimp only [publish, exec_modify]
  rw [exec_bind]
  generalize hq : ({ p with world := { p.world with
    published := p.world.published ++ [.subscriptionCancelled s.id .awsMarketplace] } } : Payments) = q
  have hqp : Metered q := hq ▸ ⟨hp.1.of_billing rfl fun _ h => h, hp.2.of_billing (Nat.le_refl _) rfl⟩
  have hnothing : q.billingStore.ChargesNothing (.awsMarketplace s) (q.world.clock q.world.ticks) := by
    subst hq
    exact BillingStore.chargesNothing_congr rfl rfl hs
  have honce := metered_createBillingEntry period (.awsMarketplace s) none hqp
  obtain ⟨-, -, hticks, hclock, horg, hmet, ⟨hok, -⟩ | ⟨hcharges, -⟩⟩ :=
    exec_createBillingEntry_billing period (.awsMarketplace s) none q
  · rcases hr : exec (BillingEntryService.createBillingEntry period (.awsMarketplace s) none) q with ⟨r, p'⟩
    rw [hr] at honce hticks hclock horg hmet hok
    dsimp only at hok
    subst hok hq
    exact ⟨p', rfl, honce, hticks, hclock, horg, hmet⟩
  · exact absurd hnothing hcharges

theorem metered_cancelAll (client : MarketplaceClient) (period : BillingPeriod) :
    ∀ (rows : List (Except Err SubscriptionMethod)) {p : Payments}, Metered p →
      Uncharged p.billingStore p.world.clock p.world.ticks rows →
        Metered (exec (rows.forM fun x => lift x >>= AwsMarketplaceHandler.cancel client period) p).2
  | [], _, hp, _ => hp
  | .error _ :: _, _, hp, _ => hp
  | .ok (.stripe _) :: _, _, hp, _ => hp
  | .ok (.awsMarketplace s) :: rest, p, hp, hun => by
    have hcons : ((.ok (.awsMarketplace s) : Except Err SubscriptionMethod) :: rest).forM
        (fun x => lift x >>= AwsMarketplaceHandler.cancel client period) =
        AwsMarketplaceHandler.cancel client period (.awsMarketplace s) >>= fun _ =>
          rest.forM fun x => lift x >>= AwsMarketplaceHandler.cancel client period := rfl
    obtain ⟨p', hr, honce, hticks, hclock, horg, hmet⟩ := metered_cancel client period s hp hun.1
    rw [hcons, exec_bind, hr]
    refine metered_cancelAll client period rest honce ?_
    rw [hticks, hclock]
    exact Uncharged.congr horg hmet hun.2

theorem metered_subscriptionCanceled (client : MarketplaceClient) (period : BillingPeriod) (c : String) {p : Payments}
    (hp : Metered p) (hun : Uncharged p.billingStore p.world.clock p.world.ticks (p.subscriptionsOf c)) :
    Metered (exec (AwsMarketplaceHandler.subscriptionCanceled client period c) p).2 := by
  unfold AwsMarketplaceHandler.subscriptionCanceled SubscriptionRepository.subscriptions
  rw [exec_bind, exec_inRepository_reading]
  exact metered_cancelAll client period _ hp hun

/-! ## Reporting -/

theorem metered_sent {p : Payments} (hp : Metered p) {entry : BillingEntry} {s : AwsMarketplaceSubscription}
    (hentry : ∃ be ∈ p.tables.billing, be.id = entry.id ∧ be.reported = false) (code : String) :
    Metered { p.sent code [(s, entry)] with
      tables := { p.tables with
        billing := p.tables.billing.map (·.markReported entry.id) } } := by
  obtain ⟨⟨honce, hreported⟩, hunique, hfresh⟩ := hp
  obtain ⟨stored, hstored, hid, hrep⟩ := hentry
  -- the entry was not sent before: what was sent is marked, and the stored entry of this id is not
  have hnew : entry.id ∉ p.meteredFor := by
    intro hmem
    obtain ⟨be, hbe, hid', hrep'⟩ := hreported _ hmem
    rw [List.inj_on_of_nodup_map hunique hbe hstored (hid'.trans hid.symm), hrep] at hrep'
    cases hrep'
  have hfor : (p.sent code [(s, entry)]).meteredFor = p.meteredFor ∨
      (p.sent code [(s, entry)]).meteredFor = p.meteredFor ++ [entry.id] := by
    unfold Payments.sent
    by_cases h : (usageRecord s entry).isSome = true
    · simp [h]
    · simp [h]
  have hmarked : ∀ id, id ∈ p.meteredFor ∨ id = entry.id →
      ∃ be ∈ p.tables.billing.map (·.markReported entry.id), be.id = id ∧ be.reported = true := by
    rintro id (hmem | rfl)
    · obtain ⟨be, hbe, hid', hrep'⟩ := hreported _ hmem
      exact ⟨_, List.mem_map.2 ⟨be, hbe, rfl⟩, by simp [hid'], by simp [hrep']⟩
    · exact ⟨_, List.mem_map.2 ⟨stored, hstored, rfl⟩, by simp [hid], by simp [hid]⟩
  refine ⟨⟨?_, ?_⟩, ?_, ?_⟩
  · rcases hfor with h | h
    · exact h ▸ honce
    · change (p.sent code [(s, entry)]).meteredFor.Nodup
      rw [h, List.nodup_append]
      refine ⟨honce, List.nodup_singleton _, fun a ha b hb hab => hnew ?_⟩
      rw [← List.mem_singleton.1 hb, ← hab]
      exact ha
  · intro id hmem
    refine hmarked id ?_
    rcases hfor with h | h
    · exact Or.inl (h ▸ hmem)
    · change id ∈ (p.sent code [(s, entry)]).meteredFor at hmem
      rw [h] at hmem
      exact (List.mem_append.1 hmem).imp_right List.mem_singleton.1
  · have hsame : (p.tables.billing.map (·.markReported entry.id)).map (·.id) = p.tables.billing.map (·.id) := by
      simp [Function.comp_def]
    rw [hsame]
    exact hunique
  · intro be hbe
    obtain ⟨x, hx, rfl⟩ := List.mem_map.1 hbe
    rw [BillingEntry.markReported_id]
    exact hfresh x hx

theorem metered_send (client : MarketplaceClient)
    (hclient : ∀ code records, client.batchMeterUsage code records = .ok [])
    (raises : Bool) (entry : BillingEntry) (s : SubscriptionMethod) {p : Payments} (hp : Metered p)
    (hentry : ∃ be ∈ p.tables.billing, be.id = entry.id ∧ be.reported = false) :
    Metered (exec (AwsMarketplaceHandler.send client raises entry s) p).2 ∧
      ∀ be ∈ p.tables.billing, be.id ≠ entry.id →
        be ∈ (exec (AwsMarketplaceHandler.send client raises entry s) p).2.tables.billing := by
  cases s with
  | stripe s => cases raises <;> exact ⟨hp, fun be hbe _ => hbe⟩
  | awsMarketplace s =>
    have hexec : exec (AwsMarketplaceHandler.send client raises entry (.awsMarketplace s)) p = (.ok ⟨⟩,
        { p.sent s.productCode [(s, entry)] with
          tables := { p.tables with
            billing := p.tables.billing.map (·.markReported entry.id) } }) := by
      unfold AwsMarketplaceHandler.send
      dsimp only [AwsMarketplaceHandler.reportEntry]
      rw [exec_tryCatch, exec_bind, AwsMarketplaceHandler.exec_reportUsage,
        show AwsMarketplaceHandler.reportOutcome client s.productCode [(s, entry)] = .ok ⟨⟩ by
          unfold AwsMarketplaceHandler.reportOutcome
          rw [hclient]
          rfl]
      dsimp only
      rw [exec_inRepository, SubscriptionRepository.exec_markBillingEntryReported]
      rfl
    rw [hexec]
    exact ⟨metered_sent hp hentry s.productCode, fun be hbe hne =>
      List.mem_map.2 ⟨be, hbe, BillingEntry.markReported_of_ne hne⟩⟩

theorem metered_sendAll (client : MarketplaceClient)
    (hclient : ∀ code records, client.batchMeterUsage code records = .ok []) (raises : Bool) :
    ∀ (rows : List (BillingEntry × SubscriptionEntity)) {p : Payments}, Metered p → (rows.map (·.1.id)).Nodup →
      (∀ x ∈ rows, ∃ be ∈ p.tables.billing, be.id = x.1.id ∧ be.reported = false) →
        Metered (exec ((SubscriptionRepository.joinedModels rows).forM fun x => do
          let (entry, s) ← lift x
          AwsMarketplaceHandler.send client raises entry s) p).2
  | [], _, hp, _, _ => hp
  | (entry, e) :: rest, p, hp, hnodup, hpending => by
    rw [List.map_cons, List.nodup_cons] at hnodup
    cases hmodel : e.toModel with
    | error err =>
      rw [SubscriptionRepository.joinedModels_error hmodel]
      exact hp
    | ok s =>
      obtain ⟨hsent, hothers⟩ := metered_send client hclient raises entry s hp (hpending _ List.mem_cons_self)
      rw [SubscriptionRepository.joinedModels_ok hmodel]
      change Metered (exec (AwsMarketplaceHandler.send client raises entry s >>= fun _ => _) p).2
      rw [exec_bind]
      rcases hr : exec (AwsMarketplaceHandler.send client raises entry s) p with ⟨_ | u, p'⟩
      · rw [hr] at hsent
        exact hsent
      · rw [hr] at hsent hothers
        refine metered_sendAll client hclient raises rest hsent hnodup.2 fun x hx => ?_
        obtain ⟨be, hbe, hid, hrep⟩ := hpending x (List.mem_cons_of_mem _ hx)
        refine ⟨be, hothers be hbe fun h => hnodup.1 ?_, hid, hrep⟩
        rw [← h, hid]
        exact List.mem_map.2 ⟨x, hx, rfl⟩

theorem metered_reportUnreportedUsages (client : MarketplaceClient)
    (hclient : ∀ code records, client.batchMeterUsage code records = .ok []) (raises : Bool) {p : Payments}
    (hp : Metered p) : Metered (exec (AwsMarketplaceHandler.reportUnreportedUsages client raises) p).2 := by
  unfold AwsMarketplaceHandler.reportUnreportedUsages SubscriptionRepository.unreportedAwsBillingEntries
  rw [exec_bind, exec_inRepository_reading]
  refine metered_sendAll client hclient raises _ hp ?_ fun x hx => ?_
  · have hsub := (p.tables.unreported_sublist (·.awsCustomerIdentifier.isSome)).map BillingEntry.id
    rw [List.map_map] at hsub
    exact hp.2.unique.sublist hsub
  · obtain ⟨hbe, hrep, -, -⟩ := SubscriptionTables.mem_unreported.1 hx
    exact ⟨x.1, hbe, rfl, hrep⟩

/-! ## Runs -/

theorem metered_step (client : MarketplaceClient)
    (hclient : ∀ code records, client.batchMeterUsage code records = .ok []) (period : BillingPeriod) {p p' : Payments}
    {call : UsageCall} (hp : Metered p) (hcall : CancelsUncharged p call)
    (hstep : UsageCall.step client period p call = some p') : Metered p' := by
  cases call with
  | subscriptionCanceled c =>
    cases hstep
    exact metered_subscriptionCanceled client period c hp (hcall c rfl)
  | handleMessage m =>
    cases hstep
    cases hm : m.cancels with
    | none =>
      rw [AwsMarketplaceHandler.handleMessage_rests client period hm]
      exact hp
    | some c =>
      rw [AwsMarketplaceHandler.handleMessage_cancels client period hm]
      exact metered_subscriptionCanceled client period c hp (hcall c hm)
  | createBillingEntry s now =>
    cases hstep
    exact metered_createBillingEntry period s now hp
  | reportUnreportedUsages raises =>
    cases hstep
    exact metered_reportUnreportedUsages client hclient raises hp

/-- **In every run whose cancellations find no usage to charge, each entry is sent at most once, and what was sent is
marked as reported.** -/
theorem usageCalls_meteredOnce (client : MarketplaceClient)
    (hclient : ∀ code records, client.batchMeterUsage code records = .ok []) (period : BillingPeriod) (p p' : Payments)
    (calls : List UsageCall) (hids : FreshIds p) (hstart : MeteredOnce p)
    (hcalls : Along (UsageCall.step client period) CancelsUncharged p calls)
    (hrun : run (UsageCall.step client period) p calls = some p') : MeteredOnce p' :=
  (run_along (fun _ _ _ hp hcall hstep => metered_step client hclient period hp hcall hstep)
    (⟨hstart, hids⟩ : Metered p) hcalls hrun).1

theorem marchPayments_freshIds : FreshIds marchPayments := ⟨List.nodup_nil, fun _ h => absurd h List.not_mem_nil⟩

theorem marchPayments_meteredOnce : MeteredOnce marchPayments :=
  ⟨List.nodup_nil, fun _ h => absurd h List.not_mem_nil⟩

/-- The monthly call bills the usage and the hourly report sends it. -/
def marchBill : List UsageCall := [.createBillingEntry plusMethod none, .reportUnreportedUsages false]

theorem usageCalls_meteredOnce_marchBill : ∃ p', run (UsageCall.step acceptingClient .month) marchPayments marchBill =
    some p' ∧ MeteredOnce p' :=
  ⟨_, rfl, usageCalls_meteredOnce acceptingClient (fun _ _ => rfl) .month marchPayments _ marchBill
    marchPayments_freshIds marchPayments_meteredOnce
    ⟨fun _ h => (by cases h), fun _ _ => ⟨fun _ h => (by cases h), fun _ _ => trivial⟩⟩ rfl⟩

/-- A cancellation sends the usage since the last charge, and the next report sends it again. -/
theorem cancellation_metered_twice : ∃ p', run (UsageCall.step acceptingClient .month) marchPayments
    [.handleMessage ⟨some "unsubscribe-pending", some "customer"⟩, .reportUnreportedUsages false] = some p' ∧
      ¬ MeteredOnce p' := by
  refine ⟨_, rfl, fun h => ?_⟩
  have := h.once
  revert this
  decide +kernel

end Fix
