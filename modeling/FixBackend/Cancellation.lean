import FixBackend.AccountPayments
import FixBackend.BillingPeriods
import FixBackend.Machine
import FixBackend.Marketplace
/-!
# Cancellation — the final usage of a cancelled subscription

`subscription_canceled` publishes the cancellation of a subscription before it bills the final usage, and the cloud
account service handles the event in another process.  Both are taken apart at their awaits; who moves next is the
action.  What `utc()` and `uid()` return in the billing call of a subscription is fixed for the whole run.
-/
namespace Fix

open Calendar Effects Machine AwsMarketplaceHandler

/-- What `utc()` and `uid()` return when a subscription is billed. -/
structure Readings where
  time : SubscriptionId → DateTime
  uid : SubscriptionId → BillingId

/-- `subscription_canceled` at one of its awaits, `rest` being the rows it still has to read. -/
inductive CancelPc where
  | start
  | next (rows : List (Except Err SubscriptionMethod))
  | published (s : AwsMarketplaceSubscription) (rest : List (Except Err SubscriptionMethod))
  | listed (s : AwsMarketplaceSubscription) (workspaces : List Workspace) (rest : List (Except Err SubscriptionMethod))
  | summarized (s : AwsMarketplaceSubscription) (workspace : Workspace) (summaries : List MeteringSummary)
      (rest : List (Except Err SubscriptionMethod))
  | entered (s : AwsMarketplaceSubscription) (entry : BillingEntry) (rest : List (Except Err SubscriptionMethod))
  | reporting (s : AwsMarketplaceSubscription) (entry : BillingEntry) (rest : List (Except Err SubscriptionMethod))
  | ended (result : Except Err Unit)
deriving DecidableEq

inductive HandlerPc where
  | start (subscriptionId : SubscriptionId)
  | hold (workspaces : List Workspace)
  | clear (workspace : Workspace) (rest : List Workspace)
  | disable (workspace : Workspace) (rest : List Workspace)
  | ended (result : Except Err Unit)

def handlerStep (w : World) : HandlerPc → Option (HandlerPc × World)
  | .start subscriptionId => some (.hold (listWorkspacesBySubscriptionId w.organizations subscriptionId), w)
  | .hold [] => some (.ended (.ok ⟨⟩), w)
  | .hold (workspace :: rest) =>
    some (awaits (holdPayment workspace.id) (fun e => .ended (.error e)) (fun _ => .clear workspace rest) w)
  | .clear workspace rest =>
    some (awaits (removeSubscription workspace.id) (fun e => .ended (.error e)) (fun _ => .disable workspace rest) w)
  | .disable workspace rest =>
    some (awaits (disableCloudAccounts workspace.id freeAccountLimit) (fun e => .ended (.error e))
      (fun _ => .hold rest) w)
  | .ended _ => none

/-- A cancellation and the handlers of the events it has published. -/
structure Cancelling where
  payments : Payments
  main : CancelPc
  handlers : List HandlerPc

inductive CancelMove where
  | main
  | handler (i : Nat)
deriving DecidableEq

section Machine

variable (client : MarketplaceClient) (period : BillingPeriod) (r : Readings) (customerId : String)

/-- The tables after the usage of the period is known, and where the call goes on. -/
def chargeStep (s : AwsMarketplaceSubscription) (workspace : Workspace) (summaries : List MeteringSummary)
    (rest : List (Except Err SubscriptionMethod)) (t : SubscriptionTables) : CancelPc × SubscriptionTables :=
  let billingTime := r.time s.id
  let lastCharged := s.lastChargeTimestamp.getD billingTime
  let nextCharge := startOfNextPeriod period billingTime 9
  let monthFactor := computeBillingPeriodFactor billingTime lastCharged period.value
  let productTier := maxTier (summaries.map (·.productTier))
  let usage := max (truncate (summaries.length * monthFactor)) (productTierSettings productTier).accountsIncluded
  if !productTier.paid || usage == 0 then
    (.next rest, { t with subscriptions := updateChargeTimestamp t.subscriptions s.id billingTime nextCharge })
  else
    let (entry, billing, subscriptions) := addBillingEntry t.subscriptions t.billing s.id workspace.id productTier usage
      lastCharged billingTime nextCharge (r.uid s.id)
    (.entered s entry rest, ⟨subscriptions, billing⟩)

def mainStep (p : Payments) : CancelPc → Option (CancelPc × Payments)
  | .start => some (.next (p.subscriptionsOf customerId), p)
  | .next [] => some (.ended (.ok ⟨⟩), p)
  | .next (.error e :: _) => some (.ended (.error e), p)
  | .next (.ok (.stripe _) :: _) =>
    some (.ended (.error (.assertionError "Subscription is not from AWS Marketplace")), p)
  | .next (.ok (.awsMarketplace s) :: rest) =>
    some (awaits (inWorld (publish (.subscriptionCancelled s.id .awsMarketplace))) (fun e => .ended (.error e))
      (fun _ => .published s rest) p)
  | .published s rest =>
    if !s.active then some (.next rest, p)
    else some (.listed s (listWorkspacesBySubscriptionId p.world.organizations s.id) rest, p)
  | .listed _ [] rest => some (.next rest, p)
  | .listed s (workspace :: _) rest =>
    some (.summarized s workspace
      (p.billingStore.summaries workspace.id (s.lastChargeTimestamp.getD (r.time s.id)) (r.time s.id)) rest, p)
  | .summarized s workspace summaries rest =>
    let (pc, tables) := chargeStep period r s workspace summaries rest p.tables
    some (pc, { p with tables := tables })
  | .entered s entry rest =>
    some (awaits (inWorld (publish
        (.billingEntryCreated entry.workspaceId entry.subscriptionId entry.tier entry.nrOfAccountsCharged)))
      (fun e => .ended (.error e)) (fun _ => .reporting s entry rest) p)
  | .reporting s entry rest =>
    some (awaits (reportUsage client s.productCode [(s, entry)]) (fun e => .ended (.error e)) (fun _ => .next rest) p)
  | .ended _ => none

def CancelPc.publishes : CancelPc → List HandlerPc
  | .next (.ok (.awsMarketplace s) :: _) => [.start s.id]
  | _ => []

def Cancelling.step (s : Cancelling) : CancelMove → Option Cancelling
  | .main => (mainStep client period r customerId s.payments s.main).map fun (pc, p) =>
    ⟨p, pc, s.handlers ++ s.main.publishes⟩
  | .handler i =>
    match s.handlers[i]? with
    | none => none
    | some h => (handlerStep s.payments.world h).map fun (h', w) =>
      { s with payments := { s.payments with world := w }, handlers := s.handlers.set i h' }

end Machine

def Cancelling.begin (p : Payments) : Cancelling := ⟨p, .start, []⟩

/-! ## The same entries -/

section Same

variable (client : MarketplaceClient) (period : BillingPeriod) (r : Readings) (customerId : String) (p₀ : Payments)

/-- The entry that a billing call for the subscription creates before any event is handled. -/
def entryOf (s : AwsMarketplaceSubscription) : Option BillingEntry :=
  (createBillingEntry period p₀.billingStore (.awsMarketplace s) none (r.time s.id) (r.uid s.id)).1

/-- The first workspace that the call lists is the one it would have listed before any event was handled, or neither of
them has paid usage. -/
def FirstSame (p : Payments) (s : AwsMarketplaceSubscription) : Prop :=
  let before := (listWorkspacesBySubscriptionId p₀.world.organizations s.id).head?
  let now := (listWorkspacesBySubscriptionId p.world.organizations s.id).head?
  before.map (·.id) = now.map (·.id) ∨
    ∀ w, w ∈ before ∨ w ∈ now → p₀.billingStore.paidUsage (.awsMarketplace s) (r.time s.id) w = false

/-- Whenever an active subscription's workspaces are listed, the first one is the same. -/
def ListsSame (s : Cancelling) (m : CancelMove) : Prop :=
  m = .main → ∀ sub rest, s.main = .published sub rest → sub.active = true → FirstSame r p₀ s.payments sub

/-- What a cancellation comes to when every event is handled after it: its result and what it enters and reports. -/
def outcome : List (Except Err SubscriptionMethod) →
    Except Err Unit × List (AwsMarketplaceSubscription × BillingEntry)
  | [] => (.ok ⟨⟩, [])
  | .error e :: _ => (.error e, [])
  | .ok (.stripe _) :: _ => (.error (.assertionError "Subscription is not from AWS Marketplace"), [])
  | .ok (.awsMarketplace s) :: rest =>
    match entryOf period r p₀ s with
    | none => outcome rest
    | some entry =>
      match reportOutcome client s.productCode [(s, entry)] with
      | .error e => (.error e, [(s, entry)])
      | .ok _ => ((outcome rest).1, (s, entry) :: (outcome rest).2)

def batchOf (x : AwsMarketplaceSubscription × BillingEntry) : String × List UsageRecord :=
  (x.1.productCode, [x].filterMap fun (s, e) => usageRecord s e)

structure Charged (p : Payments) (entered reported : List (AwsMarketplaceSubscription × BillingEntry)) : Prop where
  metering : p.metering = p₀.metering
  billing : p.tables.billing = p₀.tables.billing ++ entered.map (·.2)
  metered : p.metered = p₀.metered ++ reported.map batchOf

def Leads (rest : List (Except Err SubscriptionMethod)) (done : List (AwsMarketplaceSubscription × BillingEntry)) :
    Prop :=
  outcome client period r p₀ (p₀.subscriptionsOf customerId) =
    ((outcome client period r p₀ rest).1, done ++ (outcome client period r p₀ rest).2)

/-- The workspace is the one that the billing call charges, or nothing is charged and it has no paid usage. -/
def ChargedFirst (s : AwsMarketplaceSubscription) (w : Workspace) : Prop :=
  (∃ w₀ rest, listWorkspacesBySubscriptionId p₀.world.organizations s.id = w₀ :: rest ∧ w.id = w₀.id) ∨
    entryOf period r p₀ s = none ∧ p₀.billingStore.paidUsage (.awsMarketplace s) (r.time s.id) w = false

def Holds (p : Payments) : CancelPc → Prop
  | .start => Charged p₀ p [] [] ∧ p.tables = p₀.tables
  | .next rest => ∃ done, Charged p₀ p done done ∧ Leads client period r customerId p₀ rest done
  | .published s rest => ∃ done, Charged p₀ p done done ∧
      Leads client period r customerId p₀ (.ok (.awsMarketplace s) :: rest) done
  | .listed s workspaces rest => ∃ done, Charged p₀ p done done ∧
      Leads client period r customerId p₀ (.ok (.awsMarketplace s) :: rest) done ∧ s.active = true ∧
      (workspaces = [] → entryOf period r p₀ s = none) ∧ ∀ w ∈ workspaces.head?, ChargedFirst period r p₀ s w
  | .summarized s workspace summaries rest => ∃ done, Charged p₀ p done done ∧
      Leads client period r customerId p₀ (.ok (.awsMarketplace s) :: rest) done ∧ s.active = true ∧
      ChargedFirst period r p₀ s workspace ∧
      summaries = p₀.billingStore.summaries workspace.id (s.lastChargeTimestamp.getD (r.time s.id)) (r.time s.id)
  | .entered s entry rest | .reporting s entry rest => ∃ done, Charged p₀ p (done ++ [(s, entry)]) done ∧
      Leads client period r customerId p₀ (.ok (.awsMarketplace s) :: rest) done ∧
      entryOf period r p₀ s = some entry
  | .ended result => ∃ entries, Charged p₀ p entries entries ∧
      outcome client period r p₀ (p₀.subscriptionsOf customerId) = (result, entries)

end Same

section Steps

variable {client : MarketplaceClient} {period : BillingPeriod} {r : Readings} {customerId : String} {p₀ : Payments}

theorem Leads.skip {s : AwsMarketplaceSubscription} {rest : List (Except Err SubscriptionMethod)}
    {done : List (AwsMarketplaceSubscription × BillingEntry)}
    (h : Leads client period r customerId p₀ (.ok (.awsMarketplace s) :: rest) done)
    (hs : entryOf period r p₀ s = none) :
    Leads client period r customerId p₀ rest done := by
  unfold Leads at h ⊢
  rw [h, outcome, hs]

theorem Leads.reported {s : AwsMarketplaceSubscription} {entry : BillingEntry} {u : Unit}
    {rest : List (Except Err SubscriptionMethod)} {done : List (AwsMarketplaceSubscription × BillingEntry)}
    (h : Leads client period r customerId p₀ (.ok (.awsMarketplace s) :: rest) done)
    (hs : entryOf period r p₀ s = some entry) (hr : reportOutcome client s.productCode [(s, entry)] = .ok u) :
    Leads client period r customerId p₀ rest (done ++ [(s, entry)]) := by
  unfold Leads at h ⊢
  rw [h, outcome, hs]
  simp only [hr, List.append_assoc, List.singleton_append]

theorem entryOf_of_unpaid {s : AwsMarketplaceSubscription}
    (h : ∀ w ∈ (listWorkspacesBySubscriptionId p₀.world.organizations s.id).head?,
      p₀.billingStore.paidUsage (.awsMarketplace s) (r.time s.id) w = false) : entryOf period r p₀ s = none := by
  unfold entryOf
  rcases createBillingEntry_cases period p₀.billingStore (.awsMarketplace s) none (r.time s.id) (r.uid s.id) with
    ⟨-, hst⟩ | ⟨w, rest, -, hw, hst⟩
  · rw [hst]
  · have hunpaid :=
      h w (by rw [show listWorkspacesBySubscriptionId p₀.world.organizations s.id = w :: rest from hw]; rfl)
    dsimp only [Option.getD_none] at hst
    rw [if_neg (by rw [hunpaid]; exact Bool.false_ne_true)] at hst
    rw [hst]

theorem chargedFirst_of_firstSame (period : BillingPeriod) {p : Payments} {s : AwsMarketplaceSubscription}
    (h : FirstSame r p₀ p s) :
    let now := listWorkspacesBySubscriptionId p.world.organizations s.id
    (now = [] → entryOf period r p₀ s = none) ∧ ∀ w ∈ now.head?, ChargedFirst period r p₀ s w := by
  unfold FirstSame at h
  dsimp only at h ⊢
  rcases h with h | h
  · cases hbefore : listWorkspacesBySubscriptionId p₀.world.organizations s.id with
    | nil =>
      rw [hbefore] at h
      refine ⟨fun _ => entryOf_of_unpaid fun w hw => ?_, fun w hw => ?_⟩
      · rw [hbefore] at hw
        cases hw
      · rw [Option.mem_def.1 hw] at h
        cases h
    | cons w₀ rest =>
      rw [hbefore] at h
      refine ⟨fun hnow => ?_, fun w hw => Or.inl ⟨w₀, rest, hbefore, ?_⟩⟩
      · rw [hnow] at h
        cases h
      · rw [Option.mem_def.1 hw] at h
        exact (Option.some.inj h).symm
  · have hnone : entryOf period r p₀ s = none := entryOf_of_unpaid fun w hw => h w (Or.inl hw)
    exact ⟨fun _ => hnone, fun w hw => Or.inr ⟨hnone, h w (Or.inr hw)⟩⟩

theorem chargeStep_unpaid (period : BillingPeriod) {s : AwsMarketplaceSubscription} {w : Workspace}
    (h : p₀.billingStore.paidUsage (.awsMarketplace s) (r.time s.id) w = false)
    (rest : List (Except Err SubscriptionMethod)) (t : SubscriptionTables) :
    ∃ subscriptions, chargeStep period r s w
      (p₀.billingStore.summaries w.id (s.lastChargeTimestamp.getD (r.time s.id)) (r.time s.id)) rest t =
        (.next rest, { t with subscriptions := subscriptions }) := by
  refine ⟨updateChargeTimestamp t.subscriptions s.id (r.time s.id) (startOfNextPeriod period (r.time s.id) 9), ?_⟩
  have hunpaid : (maxTier ((p₀.billingStore.summaries w.id (s.lastChargeTimestamp.getD (r.time s.id))
    (r.time s.id)).map (·.productTier))).paid = false := h
  unfold chargeStep
  simp only [hunpaid, Bool.not_false, Bool.true_or, if_true]

theorem chargeStep_first (period : BillingPeriod) {s : AwsMarketplaceSubscription} (hactive : s.active = true)
    {w w₀ : Workspace} {ws : List Workspace}
    (hlist : listWorkspacesBySubscriptionId p₀.world.organizations s.id = w₀ :: ws)
    (hid : w.id = w₀.id) (rest : List (Except Err SubscriptionMethod)) (t : SubscriptionTables) :
    ∃ subscriptions, chargeStep period r s w
      (p₀.billingStore.summaries w.id (s.lastChargeTimestamp.getD (r.time s.id)) (r.time s.id)) rest t =
        match entryOf period r p₀ s with
        | none => (.next rest, { t with subscriptions := subscriptions })
        | some entry => (.entered s entry rest, ⟨subscriptions, t.billing ++ [entry]⟩) := by
  have hlist' : listWorkspacesBySubscriptionId p₀.billingStore.organizations
    (SubscriptionMethod.awsMarketplace s).id = w₀ :: ws := hlist
  have hactive' : (SubscriptionMethod.awsMarketplace s).active = true := hactive
  refine ⟨updateChargeTimestamp t.subscriptions s.id (r.time s.id) (startOfNextPeriod period (r.time s.id) 9), ?_⟩
  unfold chargeStep entryOf createBillingEntry
  simp only [hactive', Bool.not_true, Bool.false_eq_true, if_false, hlist', hid, Option.getD_none, addBillingEntry]
  unfold BillingStore.highestTier
  split
  case isTrue hfree =>
    rw [if_pos (by exact hfree)]
  case isFalse hpaid =>
    rw [if_neg (by exact hpaid)]
    rfl

theorem Charged.of_payments {p p' : Payments} {entered reported : List (AwsMarketplaceSubscription × BillingEntry)}
    (h : Charged p₀ p entered reported) (hmet : p'.metering = p.metering) (hbill : p'.tables.billing = p.tables.billing)
    (hmetered : p'.metered = p.metered) : Charged p₀ p' entered reported :=
  ⟨hmet.trans h.metering, hbill.trans h.billing, hmetered.trans h.metered⟩

/-- **Each step of the cancellation keeps what holds at its await**, when the first workspace it lists is the same. -/
theorem mainStep_holds {p p' : Payments} {pc pc' : CancelPc} (h : Holds client period r customerId p₀ p pc)
    (hsame : ∀ sub rest, pc = .published sub rest → sub.active = true → FirstSame r p₀ p sub)
    (hstep : mainStep client period r customerId p pc = some (pc', p')) :
    Holds client period r customerId p₀ p' pc' := by
  cases pc with
  | start =>
    cases hstep
    obtain ⟨hcharged, htables⟩ := h
    refine ⟨[], hcharged, ?_⟩
    unfold Leads Payments.subscriptionsOf
    rw [htables]
    rfl
  | next rows =>
    obtain ⟨done, hcharged, hleads⟩ := h
    cases rows with
    | nil =>
      cases hstep
      refine ⟨done, hcharged, hleads.trans ?_⟩
      rw [outcome, List.append_nil]
    | cons x rest =>
      cases x with
      | error e =>
        cases hstep
        refine ⟨done, hcharged, hleads.trans ?_⟩
        rw [outcome, List.append_nil]
      | ok s =>
        cases s with
        | stripe s =>
          cases hstep
          refine ⟨done, hcharged, hleads.trans ?_⟩
          rw [outcome, List.append_nil]
        | awsMarketplace s =>
          cases hstep
          exact ⟨done, hcharged.of_payments rfl rfl rfl, hleads⟩
  | published s rest =>
    obtain ⟨done, hcharged, hleads⟩ := h
    dsimp only [mainStep] at hstep
    cases hactive : s.active with
    | false =>
      rw [hactive] at hstep
      cases hstep
      refine ⟨done, hcharged, hleads.skip ?_⟩
      unfold entryOf createBillingEntry
      rw [show (SubscriptionMethod.awsMarketplace s).active = false from hactive]
      rfl
    | true =>
      rw [hactive] at hstep
      cases hstep
      obtain ⟨hnil, hhead⟩ := chargedFirst_of_firstSame period (hsame s rest rfl hactive)
      exact ⟨done, hcharged, hleads, hactive, hnil, hhead⟩
  | listed s workspaces rest =>
    obtain ⟨done, hcharged, hleads, hactive, hnil, hhead⟩ := h
    cases workspaces with
    | nil =>
      cases hstep
      exact ⟨done, hcharged, hleads.skip (hnil rfl)⟩
    | cons w ws =>
      cases hstep
      refine ⟨done, hcharged, hleads, hactive, hhead w rfl, ?_⟩
      unfold BillingStore.summaries
      rw [show p.billingStore.metering = p₀.billingStore.metering from hcharged.metering]
  | summarized s w summaries rest =>
    obtain ⟨done, hcharged, hleads, hactive, hfirst, rfl⟩ := h
    dsimp only [mainStep] at hstep
    rcases hfirst with ⟨w₀, ws, hlist, hid⟩ | ⟨hnone, hunpaid⟩
    · obtain ⟨subscriptions, hcharge⟩ := chargeStep_first period hactive hlist hid rest p.tables
      rw [hcharge] at hstep
      cases hentry : entryOf period r p₀ s with
      | none =>
        rw [hentry] at hstep
        cases hstep
        exact ⟨done, hcharged.of_payments rfl rfl rfl, hleads.skip hentry⟩
      | some entry =>
        rw [hentry] at hstep
        cases hstep
        refine ⟨done, ⟨hcharged.metering, ?_, hcharged.metered⟩, hleads, hentry⟩
        rw [List.map_append, ← List.append_assoc, ← hcharged.billing]
        rfl
    · obtain ⟨subscriptions, hcharge⟩ := chargeStep_unpaid period hunpaid rest p.tables
      rw [hcharge] at hstep
      cases hstep
      exact ⟨done, hcharged.of_payments rfl rfl rfl, hleads.skip hnone⟩
  | entered s entry rest =>
    obtain ⟨done, hcharged, hleads, hentry⟩ := h
    cases hstep
    exact ⟨done, hcharged.of_payments rfl rfl rfl, hleads, hentry⟩
  | reporting s entry rest =>
    obtain ⟨done, hcharged, hleads, hentry⟩ := h
    dsimp only [mainStep, awaits] at hstep
    rw [exec_reportUsage] at hstep
    have hreported : Charged p₀ (p.sent s.productCode [(s, entry)]) (done ++ [(s, entry)]) (done ++ [(s, entry)]) := by
      refine ⟨hcharged.metering, hcharged.billing, ?_⟩
      rw [List.map_append, ← List.append_assoc, ← hcharged.metered]
      rfl
    cases hr : reportOutcome client s.productCode [(s, entry)] with
    | error e =>
      rw [hr] at hstep
      cases hstep
      refine ⟨done ++ [(s, entry)], hreported, hleads.trans ?_⟩
      rw [outcome, hentry]
      simp only [hr]
    | ok u =>
      rw [hr] at hstep
      cases hstep
      exact ⟨done ++ [(s, entry)], hreported, hleads.reported hentry hr⟩
  | ended result => cases hstep

theorem Holds.of_world {p : Payments} {pc : CancelPc} (h : Holds client period r customerId p₀ p pc) (w : World) :
    Holds client period r customerId p₀ { p with world := w } pc := by
  have hcharged : ∀ {entered reported}, Charged p₀ p entered reported →
      Charged p₀ { p with world := w } entered reported := fun hc => hc.of_payments rfl rfl rfl
  cases pc with
  | start => exact ⟨hcharged h.1, h.2⟩
  | next | published | listed | summarized | entered | reporting | ended =>
    obtain ⟨done, hdone, h⟩ := h
    exact ⟨done, hcharged hdone, h⟩

theorem cancelling_step_holds (s : Cancelling) (m : CancelMove) (s' : Cancelling)
    (h : Holds client period r customerId p₀ s.payments s.main) (hsame : ListsSame r p₀ s m)
    (hstep : s.step client period r customerId m = some s') :
    Holds client period r customerId p₀ s'.payments s'.main := by
  cases m with
  | main =>
    obtain ⟨⟨pc, p⟩, hmain, rfl⟩ := Option.map_eq_some_iff.1 hstep
    exact mainStep_holds h (hsame rfl) hmain
  | handler i =>
    unfold Cancelling.step at hstep
    dsimp only at hstep
    cases hi : s.handlers[i]? with
    | none =>
      rw [hi] at hstep
      cases hstep
    | some handler =>
      rw [hi] at hstep
      obtain ⟨⟨handler', w⟩, -, rfl⟩ := Option.map_eq_some_iff.1 hstep
      exact h.of_world w

/-! ## The cancellation alone -/

/-- How many steps the cancellation has left at most. -/
def CancelPc.stepsLeft (customerId : String) (p : Payments) : CancelPc → Nat
  | .start => 8 * (p.subscriptionsOf customerId).length + 2
  | .next rows => 8 * rows.length + 1
  | .published _ rest => 8 * rest.length + 8
  | .listed _ _ rest => 8 * rest.length + 7
  | .summarized _ _ _ rest => 8 * rest.length + 6
  | .entered _ _ rest => 8 * rest.length + 5
  | .reporting _ _ rest => 8 * rest.length + 4
  | .ended _ => 0

theorem chargeStep_goesOn (period : BillingPeriod) (r : Readings) (s : AwsMarketplaceSubscription) (w : Workspace)
    (summaries : List MeteringSummary) (rest : List (Except Err SubscriptionMethod)) (t : SubscriptionTables) :
    (chargeStep period r s w summaries rest t).1 = .next rest ∨
      ∃ entry, (chargeStep period r s w summaries rest t).1 = .entered s entry rest := by
  unfold chargeStep
  dsimp only
  split
  · exact Or.inl rfl
  · exact Or.inr ⟨_, rfl⟩

variable (client period r customerId) in
theorem mainStep_alone {p : Payments} {pc : CancelPc} (hpc : ∀ result, pc ≠ .ended result) :
    ∃ pc' p', mainStep client period r customerId p pc = some (pc', p') ∧
      p'.world.organizations = p.world.organizations ∧
      pc'.stepsLeft customerId p' < pc.stepsLeft customerId p := by
  cases pc with
  | start => exact ⟨_, _, rfl, rfl, Nat.lt_succ_self _⟩
  | next rows =>
    cases rows with
    | nil => exact ⟨_, _, rfl, rfl, Nat.succ_pos _⟩
    | cons x rest =>
      cases x with
      | error e => exact ⟨_, _, rfl, rfl, Nat.succ_pos _⟩
      | ok s =>
        cases s with
        | stripe s => exact ⟨_, _, rfl, rfl, Nat.succ_pos _⟩
        | awsMarketplace s =>
          refine ⟨_, _, rfl, rfl, ?_⟩
          simp only [CancelPc.stepsLeft, List.length_cons]
          omega
  | published s rest =>
    cases hactive : s.active with
    | false =>
      refine ⟨.next rest, p, by simp [mainStep, hactive], rfl, ?_⟩
      simp only [CancelPc.stepsLeft]
      omega
    | true =>
      refine ⟨.listed s (listWorkspacesBySubscriptionId p.world.organizations s.id) rest, p,
        by simp [mainStep, hactive], rfl, Nat.lt_succ_self _⟩
  | listed s workspaces rest =>
    cases workspaces with
    | nil =>
      refine ⟨_, _, rfl, rfl, ?_⟩
      simp only [CancelPc.stepsLeft]
      omega
    | cons w ws => exact ⟨_, _, rfl, rfl, Nat.lt_succ_self _⟩
  | summarized s w summaries rest =>
    refine ⟨(chargeStep period r s w summaries rest p.tables).1,
      { p with tables := (chargeStep period r s w summaries rest p.tables).2 }, rfl, rfl, ?_⟩
    rcases chargeStep_goesOn period r s w summaries rest p.tables with hpc | ⟨entry, hpc⟩
    · rw [hpc]
      simp only [CancelPc.stepsLeft]
      omega
    · rw [hpc]
      exact Nat.lt_succ_self _
  | entered s entry rest => exact ⟨_, _, rfl, rfl, Nat.lt_succ_self _⟩
  | reporting s entry rest =>
    dsimp only [mainStep, awaits]
    rw [exec_reportUsage]
    cases reportOutcome client s.productCode [(s, entry)] with
    | error e => exact ⟨_, _, rfl, rfl, Nat.succ_pos _⟩
    | ok u =>
      refine ⟨_, _, rfl, rfl, ?_⟩
      simp only [CancelPc.stepsLeft]
      omega
  | ended result => exact absurd rfl (hpc result)

theorem firstSame_of_organizations {p : Payments} (h : p.world.organizations = p₀.world.organizations)
    (s : AwsMarketplaceSubscription) : FirstSame r p₀ p s := by
  left
  rw [h]

variable (client period r customerId p₀) in
theorem begin_holds : Holds client period r customerId p₀ p₀ .start :=
  ⟨⟨rfl, (List.append_nil _).symm, (List.append_nil _).symm⟩, rfl⟩

/-- **Alone, a cancellation ends**, and what it has entered and reported then is its outcome. -/
theorem cancelling_alone : ∀ {s : Cancelling}, Holds client period r customerId p₀ s.payments s.main →
    s.payments.world.organizations = p₀.world.organizations →
    ∃ n s' result, run (Cancelling.step client period r customerId) s (List.replicate n .main) = some s' ∧
      s'.main = .ended result ∧ Holds client period r customerId p₀ s'.payments (.ended result) := by
  intro s
  induction hn : s.main.stepsLeft customerId s.payments using Nat.strong_induction_on generalizing s with
  | _ n ih =>
    intro h horganizations
    by_cases hended : ∃ result, s.main = .ended result
    · obtain ⟨result, hended⟩ := hended
      rw [hended] at h
      exact ⟨0, s, result, rfl, hended, h⟩
    · obtain ⟨pc, p, hmain, horg, hlt⟩ := mainStep_alone client period r customerId
        (p := s.payments) (fun result hpc => hended ⟨result, hpc⟩)
      have hstep : s.step client period r customerId .main = some ⟨p, pc, s.handlers ++ s.main.publishes⟩ := by
        unfold Cancelling.step
        dsimp only
        rw [hmain]
        rfl
      have hkept := mainStep_holds h (fun sub _ _ _ => firstSame_of_organizations horganizations sub) hmain
      obtain ⟨k, s', result, hrun, hresult, hholds⟩ := ih (pc.stepsLeft customerId p) (hn ▸ hlt)
        (s := ⟨p, pc, s.handlers ++ s.main.publishes⟩) rfl hkept (horg.trans horganizations)
      exact ⟨k + 1, s', result, run_cons.2 ⟨_, hstep, hrun⟩, hresult, hholds⟩

end Steps

/-- **Whatever is handled while a cancellation runs, it enters and reports what it would alone**, when the first
workspace of each active subscription is the same each time it is listed. -/
theorem cancellation_charges_alike (client : MarketplaceClient) (period : BillingPeriod) (r : Readings)
    (customerId : String) (p₀ : Payments) (moves : List CancelMove) (s : Cancelling) (result : Except Err Unit)
    (hsame : Along (Cancelling.step client period r customerId) (ListsSame r p₀) (.begin p₀) moves)
    (hrun : run (Cancelling.step client period r customerId) (.begin p₀) moves = some s)
    (hended : s.main = .ended result) :
    ∃ n alone, run (Cancelling.step client period r customerId) (.begin p₀) (List.replicate n .main) = some alone ∧
      alone.main = .ended result ∧ alone.payments.tables.billing = s.payments.tables.billing ∧
      alone.payments.metered = s.payments.metered := by
  have hholds : Holds client period r customerId p₀ s.payments s.main :=
    run_along (fun s m s' => cancelling_step_holds s m s') (begin_holds client period r customerId p₀) hsame hrun
  rw [hended] at hholds
  obtain ⟨entries, hcharged, houtcome⟩ := hholds
  obtain ⟨n, alone, result', hrun', hended', entries', hcharged', houtcome'⟩ :=
    cancelling_alone (s := .begin p₀) (begin_holds client period r customerId p₀) rfl
  obtain ⟨rfl, rfl⟩ : result = result' ∧ entries = entries' := Prod.mk.inj (houtcome.symm.trans houtcome')
  exact ⟨n, alone, hrun', hended', hcharged'.billing.trans hcharged.billing.symm,
    hcharged'.metered.trans hcharged.metered.symm⟩

instance (r : Readings) (p₀ p : Payments) (s : AwsMarketplaceSubscription) : Decidable (FirstSame r p₀ p s) :=
  let before := (listWorkspacesBySubscriptionId p₀.world.organizations s.id).head?
  let now := (listWorkspacesBySubscriptionId p.world.organizations s.id).head?
  let unpaid (w : Workspace) := p₀.billingStore.paidUsage (.awsMarketplace s) (r.time s.id) w = false
  decidable_of_iff (before.map (·.id) = now.map (·.id) ∨ (∀ w ∈ before, unpaid w) ∧ ∀ w ∈ now, unpaid w)
    (or_congr_right ⟨fun h w hw => hw.elim (h.1 w) (h.2 w), fun h => ⟨fun w hw => h w (Or.inl hw),
      fun w hw => h w (Or.inr hw)⟩⟩)

instance (r : Readings) (p₀ : Payments) (s : Cancelling) (m : CancelMove) : Decidable (ListsSame r p₀ s m) :=
  match h : s.main with
  | .published sub rest =>
    decidable_of_iff (m = .main → sub.active = true → FirstSame r p₀ s.payments sub) (by
      unfold ListsSame
      rw [h]
      exact imp_congr_right fun _ => ⟨fun h sub' rest' hpc => by cases hpc; exact h, fun h => h sub rest rfl⟩)
  | .start | .next _ | .listed _ _ _ | .summarized _ _ _ _ | .entered _ _ _ | .reporting _ _ _ | .ended _ =>
    isTrue fun _ sub rest hpc => nomatch h.symm.trans hpc

/-- The customer's cancellation, billed at the same time whoever moves first. -/
def marchReadings : Readings := ⟨fun _ => mar, fun _ => 50⟩

abbrev marchStep := Cancelling.step acceptingClient .month marchReadings "customer"

/-- The event is handled once the workspaces are listed. -/
def lateMoves : List CancelMove :=
  [.main, .main, .main, .handler 0, .handler 0, .handler 0, .main, .main, .main, .main, .main]

def lateCancelled : Cancelling := (run marchStep (.begin marchPayments) lateMoves).get (by decide +kernel)

theorem cancellation_charges_alike_late :
    ∃ n alone, run marchStep (.begin marchPayments) (List.replicate n .main) = some alone ∧
      alone.main = .ended (.ok ⟨⟩) ∧ alone.payments.tables.billing = lateCancelled.payments.tables.billing ∧
      alone.payments.metered = lateCancelled.payments.metered :=
  cancellation_charges_alike acceptingClient .month marchReadings "customer" marchPayments lateMoves lateCancelled
    (.ok ⟨⟩) (by decide +kernel) (Option.some_get _).symm (by decide +kernel)

/-- The event is handled before. -/
def earlyMoves : List CancelMove := [.main, .main, .handler 0, .handler 0, .handler 0, .main, .main, .main]

def earlyCancelled : Cancelling := (run marchStep (.begin marchPayments) earlyMoves).get (by decide +kernel)

/-- Then the usage since the last charge is not charged. -/
theorem cancellation_loses_usage :
    ∃ n alone, run marchStep (.begin marchPayments) (List.replicate n .main) = some alone ∧
      alone.main = .ended (.ok ⟨⟩) ∧ run marchStep (.begin marchPayments) earlyMoves = some earlyCancelled ∧
      earlyCancelled.main = .ended (.ok ⟨⟩) ∧
      alone.payments.tables.billing ≠ earlyCancelled.payments.tables.billing :=
  ⟨8, (run marchStep (.begin marchPayments) (List.replicate 8 .main)).get (by decide +kernel),
    (Option.some_get _).symm, by decide +kernel, (Option.some_get _).symm, by decide +kernel, by decide +kernel⟩

end Fix
