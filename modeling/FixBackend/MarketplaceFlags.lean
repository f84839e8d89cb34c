import FixBackend.Machine
import FixBackend.Marketplace
/-!
# MarketplaceFlags — the active flag of marketplace subscriptions

A message about a customer marks the customer's subscriptions as active or inactive.  The flag is durable when every
session that is opened after the message finds it on every subscription the message was about.
-/
namespace Fix

open Calendar Effects Sessions Machine

def MarketplaceMessage.flag (m : MarketplaceMessage) : Option (String × Bool) :=
  match m.action, m.customerIdentifier with
  | some "subscribe-success", some c => some (c, true)
  | some "subscribe-fail", some c | some "unsubscribe-success", some c => some (c, false)
  | _, _ => none

inductive RepositoryCall where
  | message (m : MarketplaceMessage)
  | create (subscription : SubscriptionMethod)
  | addBillingEntry (sid : SubscriptionId) (workspaceId : WorkspaceId) (tier : ProductTier) (nrOfAccountsCharged : Int)
      (lastChargeTimestamp now nextChargeTimestamp : DateTime) (uid : BillingId)
  | updateChargeTimestamp (sid : SubscriptionId) (now nextChargeTimestamp : DateTime)
  | deleteSubscriptions (sid : SubscriptionId)
  | deleteAwsMarketplaceSubscriptions (customerIdentifier : String)
  | markBillingEntryReported (bid : BillingId)
  | awsMarketplaceSubscription (userId : UserId) (customerIdentifier : String)
  | getSubscription (subscriptionId : SubscriptionId)
  | subscriptions (f : SubscriptionFilter)
  | unreportedAwsBillingEntries
  | unreportedStripeBillingEntries
  | userHasSubscription (userId : UserId) (subscriptionId : SubscriptionId)

namespace RepositoryCall

def only {α : Type} (m : SubscriptionRepository.Repository α) : PaymentService PUnit := inRepository m *> return

variable (client : MarketplaceClient) (period : BillingPeriod)

def call : RepositoryCall → PaymentService PUnit
  | message m => AwsMarketplaceHandler.handleMessage client period m
  | create s => only (SubscriptionRepository.create s)
  | addBillingEntry sid w tier n last now next uid =>
    only (SubscriptionRepository.addBillingEntry sid w tier n last now next uid)
  | updateChargeTimestamp sid now next => only (SubscriptionRepository.updateChargeTimestamp sid now next)
  | deleteSubscriptions sid => only (SubscriptionRepository.deleteSubscriptions sid)
  | deleteAwsMarketplaceSubscriptions c => only (SubscriptionRepository.deleteAwsMarketplaceSubscriptions c)
  | markBillingEntryReported bid => only (SubscriptionRepository.markBillingEntryReported bid)
  | awsMarketplaceSubscription u c => only (SubscriptionRepository.awsMarketplaceSubscription u c)
  | getSubscription sid => only (SubscriptionRepository.getSubscription sid)
  | subscriptions f => only (SubscriptionRepository.subscriptions f)
  | unreportedAwsBillingEntries => only SubscriptionRepository.unreportedAwsBillingEntries
  | unreportedStripeBillingEntries => only SubscriptionRepository.unreportedStripeBillingEntries
  | userHasSubscription u sid => only (SubscriptionRepository.userHasSubscription u sid)

def step (p : Payments) (c : RepositoryCall) : Option Payments := some (exec (c.call client period) p).2

def creates : RepositoryCall → Option SubscriptionId
  | create s => some s.id
  | _ => none

def marks : RepositoryCall → Option String
  | message m => m.flag.map (·.1)
  | _ => none

end RepositoryCall

/-- **The flag of a message is durable**: whatever calls follow, until the next one that marks the customer, every
subscription of the customer but a new one has the flag, and the message changes no other subscription. -/
structure Durable (client : MarketplaceClient) (period : BillingPeriod) (p : Payments) (m : MarketplaceMessage)
    (customer : String) (active : Bool) : Prop where
  marked : ∀ calls p₁ p₂, RepositoryCall.step client period p (.message m) = some p₁ →
    run (RepositoryCall.step client period) p₁ calls = some p₂ → (∀ c ∈ calls, c.marks ≠ some customer) →
      ∀ r ∈ p₂.tables.subscriptions.rows, r.awsCustomerIdentifier = some customer →
        (∀ c ∈ calls, c.creates ≠ some r.id) → r.active = active
  others : ∀ p₁, RepositoryCall.step client period p (.message m) = some p₁ →
    ∀ r, r.awsCustomerIdentifier ≠ some customer →
      (r ∈ p₁.tables.subscriptions.rows ↔ r ∈ p.tables.subscriptions.rows)

/-! ## What the calls keep -/

def Flagged (customer : String) (active : Bool) (excepted : SubscriptionId → Prop) (t : SubscriptionTables) : Prop :=
  ∀ r ∈ t.subscriptions.rows, r.awsCustomerIdentifier = some customer → ¬ excepted r.id → r.active = active

section Flagged

variable {client : MarketplaceClient} {period : BillingPeriod} {customer : String} {active : Bool}
  {excepted : SubscriptionId → Prop}

theorem flagged_sublist {t t' : SubscriptionTables} (ht : Flagged customer active excepted t)
    (hsub : ∀ r ∈ t'.subscriptions.rows, r ∈ t.subscriptions.rows) : Flagged customer active excepted t' :=
  fun r hr => ht r (hsub r hr)

theorem flagged_updateChargeTimestamp {t t' : SubscriptionTables} {sid : SubscriptionId} {now next : DateTime}
    (ht : Flagged customer active excepted t)
    (hsub : t'.subscriptions = updateChargeTimestamp t.subscriptions sid now next) :
    Flagged customer active excepted t' := by
  intro r hr
  rw [hsub] at hr
  obtain ⟨row, hrow, rfl | rfl⟩ := mem_updateChargeTimestamp hr
  · exact ht r hrow
  · exact ht row hrow

theorem keeps_only {J : SubscriptionTables → Prop} {α : Type} {m : SubscriptionRepository.Repository α}
    (hm : Keeps J m) : Keeps (fun p => J p.tables) (RepositoryCall.only m) :=
  Keeps.bind (keeps_inRepository hm) fun _ => Keeps.pure _

theorem flagged_createBillingEntry (s : SubscriptionMethod) (now : Option DateTime) :
    Keeps (fun p => Flagged customer active excepted p.tables)
      (BillingEntryService.createBillingEntry period s now) := by
  apply Triple.of_exec
  intro p hp
  rw [BillingEntryService.exec_createBillingEntry]
  dsimp only
  rcases createBillingEntry_cases period p.billingStore s now (p.world.clock p.world.ticks) p.world.nextUuid with
    ⟨-, hst⟩ | ⟨w, rest, -, -, hst⟩
  · rw [hst]
    exact hp
  · dsimp only at hst
    split at hst
    · obtain ⟨entry, -, -, -, -, hst⟩ := hst
      rw [hst]
      exact flagged_updateChargeTimestamp hp rfl
    · rw [hst]
      exact flagged_updateChargeTimestamp hp rfl

theorem flagged_subscriptionCanceled (c : String) : Keeps (fun p => Flagged customer active excepted p.tables)
    (AwsMarketplaceHandler.subscriptionCanceled client period c) := by
  unfold AwsMarketplaceHandler.subscriptionCanceled
  refine Keeps.bind (keeps_inRepository (SubscriptionRepository.keeps_reading _)) fun rows =>
    keeps_forEach rows fun s _ => ?_
  cases s with
  | stripe s => exact Keeps.throw _
  | awsMarketplace s =>
    refine Keeps.bind (keeps_tables _) fun _ => Keeps.bind (flagged_createBillingEntry _ _) fun billing => ?_
    cases billing with
    | none => exact Keeps.pure _
    | some billing => exact AwsMarketplaceHandler.keeps_reportUsage _ _ _

theorem flagged_handleMessage (m : MarketplaceMessage) : Keeps (fun p => Flagged customer active excepted p.tables)
    (AwsMarketplaceHandler.handleMessage client period m) := by
  cases hm : m.cancels with
  | some c =>
    rw [AwsMarketplaceHandler.handleMessage_cancels client period hm]
    exact flagged_subscriptionCanceled c
  | none => exact keeps_of_rests (AwsMarketplaceHandler.handleMessage_rests client period hm)

theorem flagged_create (s : SubscriptionMethod) (hs : excepted s.id) :
    Keeps (Flagged customer active excepted) (SubscriptionRepository.create s) := by
  apply Triple.of_exec
  intro t ht
  by_cases h : t.subscriptions.find (SubscriptionEntity.fromModel s).id = none
  · rw [SubscriptionRepository.exec_create_new _ h]
    intro r hr hc hr'
    rcases List.mem_append.1 hr with hr | hr
    · exact ht r hr hc hr'
    · rw [List.mem_singleton.1 hr, SubscriptionEntity.fromModel_id] at hr'
      exact absurd hs hr'
  · rw [SubscriptionRepository.exec_create_old _ h]
    exact ht

theorem flagged_deleteWhere (deleted : SubscriptionEntity → Bool) :
    Keeps (Flagged customer active excepted) (SubscriptionRepository.deleteWhere deleted) := by
  unfold SubscriptionRepository.deleteWhere
  exact keeps_executeAndCommit _ fun t ht => flagged_sublist ht fun r hr => List.mem_of_mem_filter hr

theorem call_flagged (c : RepositoryCall) (hc : ∀ sid, c.creates = some sid → excepted sid) :
    Keeps (fun p => Flagged customer active excepted p.tables) (c.call client period) := by
  cases c with
  | message m => exact flagged_handleMessage m
  | create s => exact keeps_only (flagged_create s (hc _ rfl))
  | addBillingEntry sid w tier n last now next uid =>
    unfold RepositoryCall.call SubscriptionRepository.addBillingEntry
    exact keeps_only (keeps_executeAndCommit _ fun t ht => flagged_updateChargeTimestamp ht rfl)
  | updateChargeTimestamp sid now next =>
    unfold RepositoryCall.call SubscriptionRepository.updateChargeTimestamp
    exact keeps_only (keeps_executeAndCommit _ fun t ht => flagged_updateChargeTimestamp ht rfl)
  | deleteSubscriptions sid => exact keeps_only (flagged_deleteWhere _)
  | deleteAwsMarketplaceSubscriptions c => exact keeps_only (flagged_deleteWhere _)
  | markBillingEntryReported bid =>
    unfold RepositoryCall.call SubscriptionRepository.markBillingEntryReported
    exact keeps_only (keeps_executeAndCommit _ fun t ht => ht)
  | awsMarketplaceSubscription u c => exact keeps_only (SubscriptionRepository.keeps_reading _)
  | getSubscription sid => exact keeps_only (SubscriptionRepository.keeps_reading _)
  | subscriptions f => exact keeps_only (SubscriptionRepository.keeps_reading _)
  | unreportedAwsBillingEntries => exact keeps_only (SubscriptionRepository.keeps_reading _)
  | unreportedStripeBillingEntries => exact keeps_only (SubscriptionRepository.keeps_reading _)
  | userHasSubscription u sid => exact keeps_only (SubscriptionRepository.keeps_reading _)

end Flagged

theorem cancels_of_flag {m : MarketplaceMessage} {x : String × Bool} (hflag : m.flag = some x) : m.cancels = none := by
  unfold MarketplaceMessage.flag at hflag
  unfold MarketplaceMessage.cancels
  split at hflag
  · rename_i ha _
    rw [ha]
    rfl
  · rename_i ha _
    rw [ha]
    rfl
  · rename_i ha _
    rw [ha]
    rfl
  · cases hflag

/-- **The flag of a message is durable exactly when every subscription of the customer has it already.** -/
theorem handleMessage_durable_iff (client : MarketplaceClient) (period : BillingPeriod) (p : Payments)
    (m : MarketplaceMessage) (customer : String) (active : Bool) (hflag : m.flag = some (customer, active)) :
    Durable client period p m customer active ↔
      ∀ r ∈ p.tables.subscriptions.rows, r.awsCustomerIdentifier = some customer → r.active = active := by
  have hstep : RepositoryCall.step client period p (.message m) = some p :=
    congrArg some (AwsMarketplaceHandler.handleMessage_rests client period (cancels_of_flag hflag) p)
  constructor
  · intro h r hr hc
    exact h.marked [] p p hstep rfl (fun _ h => absurd h List.not_mem_nil) r hr hc fun _ h => absurd h List.not_mem_nil
  · intro hall
    refine ⟨fun calls p₁ p₂ h₁ hrun _ r hr hc hnew => ?_, fun p₁ h₁ r _ => ?_⟩
    · rw [hstep] at h₁
      cases h₁
      -- every subscription but those that a later call stores keeps the flag it had before the message
      let excepted (sid : SubscriptionId) : Prop := ∃ c ∈ calls, c.creates = some sid
      have hkept : Flagged customer active excepted p₂.tables := by
        refine run_along (I := fun p => Flagged customer active excepted p.tables)
          (C := fun _ c => ∀ sid, c.creates = some sid → excepted sid) ?_ (fun r hr hc _ => hall r hr hc)
          (along_of_forall (fun c hc sid hsid => ⟨c, hc, hsid⟩) p) hrun
        intro p c p' hp hexc hp'
        cases hp'
        exact (call_flagged c hexc).after hp
      exact hkept r hr hc fun ⟨c, hmem, hsid⟩ => hnew c hmem hsid
    · rw [hstep] at h₁
      cases h₁
      rfl

/-! ## A customer whose cancellation is complete -/

theorem handleMessage_durable_iff_resubscribed :
    Durable acceptingClient .month marchPayments ⟨some "subscribe-success", some "customer"⟩ "customer" true ↔
      ∀ r ∈ marchPayments.tables.subscriptions.rows, r.awsCustomerIdentifier = some "customer" → r.active = true :=
  handleMessage_durable_iff acceptingClient .month marchPayments _ "customer" true rfl

/-- The customer's subscription stays active. -/
theorem unsubscribed_not_durable :
    ¬ Durable acceptingClient .month marchPayments ⟨some "unsubscribe-success", some "customer"⟩ "customer" false := by
  intro h
  have := h.marked [] marchPayments marchPayments rfl rfl (fun _ h => absurd h List.not_mem_nil) plusSubscription
    (List.mem_singleton_self _) rfl fun _ h => absurd h List.not_mem_nil
  cases this

end Fix
