import FixBackend.BillingPeriods
import FixBackend.Machine
import FixBackend.Marketplace
import FixBackend.Stripe
/-!
# UnreportedEntries — billing entries that still have to be reported

An unreported entry is found through the subscription it belongs to.  It is lost when that subscription is deleted.
-/
namespace Fix

open Calendar Effects Sessions Machine SubscriptionRepository

inductive EntryCall where
  | createBillingEntry (subscription : SubscriptionMethod) (now : Option DateTime)
  | reportStripeUsages (raiseException : Bool)
  | reportAwsUsages (raiseException : Bool)
  | handleMessage (message : MarketplaceMessage)
  | handleVerifiedEvent (event : StripeEvent)

section Machine

variable (client : MarketplaceClient) (stripe : StripeClient) (period : BillingPeriod)

def EntryCall.call : EntryCall → PaymentService PUnit
  | createBillingEntry s now => BillingEntryService.createBillingEntry period s now *> return
  | reportStripeUsages raises => StripeServiceImpl.reportUnreportedUsages stripe raises *> return
  | reportAwsUsages raises => AwsMarketplaceHandler.reportUnreportedUsages client raises
  | handleMessage m => AwsMarketplaceHandler.handleMessage client period m
  | handleVerifiedEvent e => StripeServiceImpl.handleVerifiedEvent stripe period e

def EntryCall.step (p : Payments) (c : EntryCall) : Option Payments := some (exec (c.call client stripe period) p).2

end Machine

def SubscriptionTables.Listed (t : SubscriptionTables) (be : BillingEntry) : Prop :=
  ∃ l s, (readOut t (·.awsCustomerIdentifier.isSome) = .ok l ∨ readOut t (·.stripeSubscriptionId.isSome) = .ok l) ∧
    (be, s) ∈ l

/-- Every subscription can be read, and every unreported entry has its subscription. -/
structure SubscriptionTables.Sound (t : SubscriptionTables) : Prop where
  readable : ∀ e ∈ t.subscriptions.rows, ∃ s, e.toModel = .ok s
  owned : ∀ be ∈ t.billing, be.reported = false → ∃ e ∈ t.subscriptions.rows, e.id = be.subscriptionId

def SubscriptionTables.Stored (t : SubscriptionTables) (sid : SubscriptionId) : Prop :=
  ∃ e ∈ t.subscriptions.rows, e.id = sid

/-- A billing call is for a stored subscription or charges nothing, and no subscription with unreported entries is
deleted. -/
def EntryCall.Sparing (p : Payments) : EntryCall → Prop
  | createBillingEntry s now =>
    p.tables.Stored s.id ∨ p.billingStore.ChargesNothing s (now.getD (p.world.clock p.world.ticks))
  | handleVerifiedEvent (.customerSubscriptionDeleted id) =>
    ∀ sid, truthy id = some sid → ∀ e ∈ p.tables.subscriptions.rows, e.stripeSubscriptionId = some sid →
      ∀ be ∈ p.tables.billing, be.subscriptionId = e.id → be.reported = true
  | _ => True

/-! ## Sound tables list every unreported entry -/

theorem SubscriptionEntity.kind_of_toModel {e : SubscriptionEntity} {s : SubscriptionMethod} (h : e.toModel = .ok s) :
    e.awsCustomerIdentifier.isSome = true ∨ e.stripeSubscriptionId.isSome = true := by
  have htruthy : ∀ {o : Option String} {x : String}, truthy o = some x → o.isSome = true := by
    intro o x hx
    cases o with
    | none => cases hx
    | some _ => rfl
  unfold SubscriptionEntity.toModel at h
  split at h
  · rename_i hsub _
    exact Or.inr (htruthy hsub)
  · split at h
    · rename_i haws _ _
      exact Or.inl (htruthy haws)
    · cases h

theorem SubscriptionTables.Sound.listed {t : SubscriptionTables} (ht : t.Sound) {be : BillingEntry}
    (hbe : be ∈ t.billing) (hrep : be.reported = false) : t.Listed be := by
  obtain ⟨e, he, hid⟩ := ht.owned be hbe hrep
  have hfind : t.subscriptionOf be = some e := (t.subscriptions.find_eq_some_iff _ _).2 ⟨he, hid⟩
  have hjoin : ∀ kind : SubscriptionEntity → Bool, kind e = true → ∃ l s, readOut t kind = .ok l ∧ (be, s) ∈ l := by
    intro kind hkind
    obtain ⟨l, hl, hmem⟩ := mapM_joinedModels (t.unreported kind) fun x hx =>
      ht.readable x.2 (Table.mem_of_find (SubscriptionTables.mem_unreported.1 hx).2.2.1)
    obtain ⟨s, hs⟩ := hmem (be, e) (SubscriptionTables.mem_unreported.2 ⟨hbe, hrep, hfind, hkind⟩)
    exact ⟨l, s, hl, hs⟩
  obtain ⟨s, hs⟩ := ht.readable e he
  rcases SubscriptionEntity.kind_of_toModel hs with hkind | hkind
  · obtain ⟨l, s, hl, hmem⟩ := hjoin (·.awsCustomerIdentifier.isSome) hkind
    exact ⟨l, s, Or.inl hl, hmem⟩
  · obtain ⟨l, s, hl, hmem⟩ := hjoin (·.stripeSubscriptionId.isSome) hkind
    exact ⟨l, s, Or.inr hl, hmem⟩

/-! ## What each write keeps -/

/-- The tables are sound, and these entries are still there, unless they were marked as reported. -/
structure Kept (entries : List BillingEntry) (t : SubscriptionTables) : Prop extends t.Sound where
  stays : ∀ be ∈ entries, be ∈ t.billing ∨ be.markReported be.id ∈ t.billing

section Kept

variable {entries : List BillingEntry} {t : SubscriptionTables}

theorem Kept.charge (ht : Kept entries t) (sid : SubscriptionId) (now next : DateTime) :
    Kept entries { t with subscriptions := Fix.updateChargeTimestamp t.subscriptions sid now next } := by
  refine ⟨⟨fun e he => ?_, fun be hbe hrep => ?_⟩, ht.stays⟩
  · obtain ⟨row, hrow, rfl | rfl⟩ := mem_updateChargeTimestamp he
    · exact ht.readable e hrow
    · obtain ⟨s, hs⟩ := ht.readable row hrow
      exact ⟨_, SubscriptionEntity.toModel_charged hs now next⟩
  · obtain ⟨e, he, hid⟩ := ht.owned be hbe hrep
    obtain ⟨e', he', hid'⟩ := exists_mem_updateChargeTimestamp he sid now next
    exact ⟨e', he', hid'.trans hid⟩

theorem Kept.add (ht : Kept entries t) {be : BillingEntry} (hbe : t.Stored be.subscriptionId) :
    Kept entries { t with billing := t.billing ++ [be] } := by
  refine ⟨⟨ht.readable, fun x hx hrep => ?_⟩, fun x hx => ?_⟩
  · rcases List.mem_append.1 hx with hx | hx
    · exact ht.owned x hx hrep
    · rw [List.mem_singleton.1 hx]
      exact hbe
  · exact (ht.stays x hx).imp (List.mem_append_left _) (List.mem_append_left _)

theorem Kept.mark (ht : Kept entries t) (bid : BillingId) :
    Kept entries { t with billing := t.billing.map (·.markReported bid) } := by
  refine ⟨⟨ht.readable, fun x hx hrep => ?_⟩, fun x hx => ?_⟩
  · obtain ⟨be, hbe, rfl⟩ := List.mem_map.1 hx
    rw [BillingEntry.markReported_reported, Bool.or_eq_false_iff, decide_eq_false_iff_not] at hrep
    rw [BillingEntry.markReported_of_ne hrep.2]
    exact ht.owned be hbe hrep.1
  · by_cases h : x.id = bid
    · subst h
      right
      rcases ht.stays x hx with hmem | hmem
      · exact List.mem_map.2 ⟨x, hmem, rfl⟩
      · refine List.mem_map.2 ⟨_, hmem, ?_⟩
        unfold BillingEntry.markReported
        simp
    · rcases ht.stays x hx with hmem | hmem
      · exact Or.inl (List.mem_map.2 ⟨x, hmem, BillingEntry.markReported_of_ne h⟩)
      · exact Or.inr (List.mem_map.2 ⟨_, hmem, BillingEntry.markReported_of_ne (by simpa using h)⟩)

theorem Kept.delete (ht : Kept entries t) {deleted : SubscriptionEntity → Bool}
    (h : ∀ e ∈ t.subscriptions.rows, deleted e = true → ∀ be ∈ t.billing, be.subscriptionId = e.id →
      be.reported = true) :
    Kept entries { t with subscriptions := t.subscriptions.deleteWhere deleted } := by
  refine ⟨⟨fun e he => ht.readable e (List.mem_of_mem_filter he), fun be hbe hrep => ?_⟩, ht.stays⟩
  obtain ⟨e, he, hid⟩ := ht.owned be hbe hrep
  refine ⟨e, List.mem_filter.2 ⟨he, ?_⟩, hid⟩
  cases hdel : deleted e with
  | false => rfl
  | true =>
    rw [h e he hdel be hbe hid.symm] at hrep
    cases hrep

theorem Kept.insert (ht : Kept entries t) {row : SubscriptionEntity} (hrow : ∃ s, row.toModel = .ok s)
    (hnew : t.subscriptions.find row.id = none) :
    Kept entries { t with subscriptions := t.subscriptions.insert row hnew } := by
  refine ⟨⟨fun e he => ?_, fun be hbe hrep => ?_⟩, ht.stays⟩
  · rcases List.mem_append.1 he with he | he
    · exact ht.readable e he
    · rw [List.mem_singleton.1 he]
      exact hrow
  · obtain ⟨e, he, hid⟩ := ht.owned be hbe hrep
    exact ⟨e, List.mem_append_left _ he, hid⟩

end Kept

/-! ## What each call keeps -/

section Calls

variable {client : MarketplaceClient} {stripe : StripeClient} {period : BillingPeriod} {entries : List BillingEntry}

theorem kept_createBillingEntry (period : BillingPeriod) {s : SubscriptionMethod} (now : Option DateTime) {p : Payments}
    (hp : Kept entries p.tables)
    (hs : p.tables.Stored s.id ∨ p.billingStore.ChargesNothing s (now.getD (p.world.clock p.world.ticks))) :
    let p' := (exec (BillingEntryService.createBillingEntry period s now) p).2
    Kept entries p'.tables ∧ ∀ sid, p.tables.Stored sid → p'.tables.Stored sid := by
  rw [BillingEntryService.exec_createBillingEntry]
  have hcharged : ∀ sid t next, p.tables.Stored sid → SubscriptionTables.Stored
      { p.tables with subscriptions := Fix.updateChargeTimestamp p.tables.subscriptions s.id t next } sid := by
    rintro sid t next ⟨e, he, rfl⟩
    exact exists_mem_updateChargeTimestamp he s.id t next
  rcases createBillingEntry_cases period p.billingStore s now (p.world.clock p.world.ticks) p.world.nextUuid with
    ⟨-, hst⟩ | ⟨w, rest, hactive, hw, hst⟩
  · rw [hst]
    exact ⟨hp, fun _ h => h⟩
  · dsimp only at hst
    split at hst
    · rename_i hpaid
      obtain ⟨entry, -, hsub, -, -, hst⟩ := hst
      rw [hst]
      have hstored : p.tables.Stored s.id := by
        refine hs.resolve_right fun hnothing => ?_
        rw [hnothing w rest hw hactive] at hpaid
        cases hpaid
      refine ⟨(hp.charge _ _ _).add (?_ : SubscriptionTables.Stored _ entry.subscriptionId), fun sid hsid =>
        hcharged sid _ _ hsid⟩
      rw [hsub]
      exact hcharged _ _ _ hstored
    · rw [hst]
      exact ⟨hp.charge _ _ _, fun sid hsid => hcharged sid _ _ hsid⟩

theorem kept_markBillingEntryReported (bid : BillingId) :
    Keeps (fun p => Kept entries p.tables) (inRepository (markBillingEntryReported bid)) := by
  apply keeps_inRepository
  unfold SubscriptionRepository.markBillingEntryReported
  exact keeps_executeAndCommit _ fun t ht => ht.mark bid

theorem kept_request {α : Type} (r : StripeRequest) (answer : Except Err α) :
    Triple (fun p => Kept entries p.tables) (StripeServiceImpl.request r answer)
      (fun a p => Kept entries p.tables ∧ answer = .ok a) (fun p => Kept entries p.tables) :=
  Triple.bind (Triple.modify _ fun _ hp => hp) fun _ =>
    Triple.lift _ (fun _ hp _ ha => ⟨hp, ha⟩) fun _ hp => hp

theorem keeps_request {α : Type} (r : StripeRequest) (answer : Except Err α) :
    Keeps (fun p => Kept entries p.tables) (StripeServiceImpl.request r answer) :=
  (kept_request r answer).imp (fun _ h => h) (fun _ _ h => h.1) fun _ h => h

theorem kept_awsSend (raises : Bool) (entry : BillingEntry) (s : SubscriptionMethod) :
    Keeps (fun p => Kept entries p.tables) (AwsMarketplaceHandler.send client raises entry s) := by
  refine Keeps.tryCatch ?_ fun e => ?_
  · cases s with
    | awsMarketplace s =>
      exact Keeps.bind (AwsMarketplaceHandler.keeps_reportUsage _ _ _) fun _ => kept_markBillingEntryReported _
    | stripe s => exact Keeps.throw _
  · split
    · exact Keeps.throw _
    · exact Keeps.pure _

theorem kept_stripeSend (raises : Bool) (entry : BillingEntry) (s : SubscriptionMethod) :
    Keeps (fun p => Kept entries p.tables) (StripeServiceImpl.send stripe raises entry s) := by
  refine Keeps.tryCatch ?_ fun e => ?_
  · cases s with
    | awsMarketplace s => exact Keeps.throw _
    | stripe s => exact Keeps.bind (keeps_request _ _) fun _ => kept_markBillingEntryReported _
  · split
    · exact Keeps.throw _
    · exact Keeps.pure _

theorem kept_subscriptionCanceled (c : String) :
    Keeps (fun p => Kept entries p.tables) (AwsMarketplaceHandler.subscriptionCanceled client period c) := by
  unfold AwsMarketplaceHandler.subscriptionCanceled SubscriptionRepository.subscriptions
  refine keeps_reading_bind fun p rows hp hrows => ?_
  cases hrows
  generalize hrows : (p.tables.subscriptions.rows.filter
    (SubscriptionFilter.selects { awsCustomerIdentifier := some c })).map (·.toModel) = rows
  -- the subscriptions that are read stay stored
  let J (t : SubscriptionTables) : Prop := Kept entries t ∧ ∀ s, .ok s ∈ rows → t.Stored s.id
  have hstart : J p.tables := by
    refine ⟨hp, fun s hs => ?_⟩
    obtain ⟨e, he, hmodel⟩ := List.mem_map.1 (hrows ▸ hs)
    exact ⟨e, List.mem_of_mem_filter he, (SubscriptionEntity.toModel_ok hmodel).1.symm⟩
  have hkeeps : Keeps (fun p => J p.tables)
      (rows.forM fun x => lift x >>= AwsMarketplaceHandler.cancel client period) := by
    refine keeps_forEach rows fun s hs => ?_
    cases s with
    | stripe s => exact Keeps.throw _
    | awsMarketplace s =>
      refine Keeps.bind (keeps_tables _) fun _ => Keeps.bind (Triple.of_exec fun p hp => ?_) fun billing => ?_
      · obtain ⟨hkept, hstays⟩ :=
          kept_createBillingEntry period none hp.1 (Or.inl (hp.2 _ hs))
        exact ⟨hkept, fun s hs => hstays _ (hp.2 s hs)⟩
      · cases billing with
        | none => exact Keeps.pure _
        | some billing => exact AwsMarketplaceHandler.keeps_reportUsage _ _ _
  exact Triple.imp hkeeps (fun p' h => h ▸ hstart) (fun _ _ h => h.1) fun _ h => h.1

theorem kept_stripeSubscriptionCancelled {sid : StripeSubscriptionId} {p : Payments} (hp : Kept entries p.tables)
    (hsid : sid ≠ "")
    (hreported : ∀ e ∈ p.tables.subscriptions.rows, e.stripeSubscriptionId = some sid →
      ∀ be ∈ p.tables.billing, be.subscriptionId = e.id → be.reported = true) :
    Kept entries (exec (StripeServiceImpl.stripeSubscriptionCancelled sid) p).2.tables := by
  unfold StripeServiceImpl.stripeSubscriptionCancelled SubscriptionRepository.subscriptions
  rw [exec_bind, exec_inRepository_reading]
  dsimp only
  generalize hrows : (p.tables.subscriptions.rows.filter
    (SubscriptionFilter.selects { stripeSubscriptionIdentifier := some sid })).map (·.toModel) = rows
  let J (t : SubscriptionTables) : Prop := Kept entries t ∧
    ∀ s, .ok s ∈ rows → ∀ be ∈ t.billing, be.subscriptionId = s.id → be.reported = true
  have hstart : J p.tables := by
    refine ⟨hp, fun s hs => ?_⟩
    obtain ⟨e, he, hmodel⟩ := List.mem_map.1 (hrows ▸ hs)
    obtain ⟨he, hsel⟩ := List.mem_filter.1 he
    rw [(SubscriptionEntity.toModel_ok hmodel).1]
    refine hreported e he ?_
    unfold SubscriptionFilter.selects at hsel
    have : sid = "" ∨ e.stripeSubscriptionId = some sid := by simpa [equalsGiven, truthy] using hsel
    exact this.resolve_left hsid
  have hkeeps : Keeps (fun p => J p.tables) (rows.forM fun x => lift x >>= StripeServiceImpl.deleteSubscription) := by
    refine keeps_forEach rows fun s hs => Keeps.bind (keeps_inRepository ?_) fun _ => keeps_tables _
    unfold SubscriptionRepository.deleteSubscriptions SubscriptionRepository.deleteWhere
    refine keeps_executeAndCommit _ fun t ht => ⟨ht.1.delete fun e _ he be hbe hid => ?_, ht.2⟩
    exact ht.2 s hs be hbe (hid.trans (of_decide_eq_true he))
  exact (hkeeps.after hstart).1

theorem truthy_some {x : String} (h : x ≠ "") : truthy (some x) = some x := by
  unfold truthy
  rw [Option.filter_some, if_pos (by simpa using h)]

theorem truthy_eq_some {o : Option String} {x : String} (h : truthy o = some x) : x ≠ "" := by
  have := (Option.filter_eq_some_iff.1 h).2
  simpa using this

theorem kept_create {s : StripeSubscription} (hcustomer : s.customerIdentifier ≠ "")
    (hid : s.stripeSubscriptionId ≠ "") :
    Keeps (Kept entries) (SubscriptionRepository.create (.stripe s)) := by
  apply Triple.of_exec
  intro t ht
  by_cases h : t.subscriptions.find (SubscriptionEntity.fromModel (.stripe s)).id = none
  · rw [exec_create_new t h]
    refine ht.insert ⟨.stripe s, ?_⟩ h
    unfold SubscriptionEntity.toModel SubscriptionEntity.fromModel
    dsimp only
    rw [truthy_some hid, truthy_some hcustomer]
  · rw [exec_create_old t h]
    exact ht

theorem kept_storeSubscription {cid : StripeCustomerId} (hcid : cid ≠ "") (workspaceId : WorkspaceId)
    {sid : StripeSubscriptionId} (hsid : sid ≠ "") :
    Keeps (fun p => Kept entries p.tables) (StripeServiceImpl.storeSubscription period cid workspaceId sid) := by
  unfold StripeServiceImpl.storeSubscription
  refine Keeps.bind (keeps_tables _) fun id => Keeps.bind (keeps_tables _) fun now =>
    Keeps.bind (keeps_tables _) fun start => Keeps.bind (keeps_inRepository (kept_create hcid hsid)) fun subscription =>
      Keeps.bind (keeps_tables _) fun workspace => Keeps.bind Keeps.get fun p =>
        Keeps.bind (BillingEntryService.keeps_optionForM _ fun tier _ => ?_) fun _ => keeps_tables _
  exact Keeps.bind (BillingEntryService.keeps_updateBilling _ _ _ _) fun _ => Keeps.pure _

theorem kept_createStripeSubscription
    (hstripe : ∀ cid pm sid, stripe.createSubscription cid pm = .ok sid → sid ≠ "") {cid : StripeCustomerId}
    (hcid : cid ≠ "") (paymentIntentId : String) : Keeps (fun p => Kept entries p.tables)
      (StripeServiceImpl.createStripeSubscription stripe period cid paymentIntentId) := by
  unfold StripeServiceImpl.createStripeSubscription
  refine Keeps.bind Keeps.get fun p => Keeps.bind (Keeps.lift _) fun found => ?_
  cases found with
  | none => exact Keeps.throw _
  | some workspaceId =>
    refine Keeps.bind ?_ fun already => ?_
    · unfold StripeServiceImpl.subscribedAlready
      refine Keeps.bind Keeps.get fun p => ?_
      split
      · exact Keeps.pure _
      · refine Keeps.bind (keeps_inRepository (keeps_reading _)) fun existing => ?_
        split <;> exact Keeps.pure _
    · split
      · exact Keeps.pure _
      · refine Keeps.bind (Keeps.lift _) fun pm => Triple.bind (kept_request _ _) fun sid => ?_
        by_cases hsid : sid = ""
        · subst hsid
          exact fun p hp => absurd rfl (hstripe _ _ _ hp.2)
        · exact Triple.imp (kept_storeSubscription hcid workspaceId hsid) (fun _ h => h.1) (fun _ _ h => h) fun _ h => h

theorem keeps_whenTruthy {I : Payments → Prop} {m : String → PaymentService PUnit} (o : Option String)
    (h : ∀ x, truthy o = some x → Keeps I (m x)) : Keeps I (StripeServiceImpl.whenTruthy o m) :=
  BillingEntryService.keeps_optionForM _ fun x hx => h x hx

theorem keeps_updateCustomer (cid : StripeCustomerId) (company countryCode : Option String) :
    Keeps (fun p => Kept entries p.tables) (StripeServiceImpl.updateCustomer stripe cid company countryCode) := by
  unfold StripeServiceImpl.updateCustomer
  dsimp only
  split
  · exact Keeps.pure _
  · exact keeps_request _ _

theorem kept_handleVerifiedEvent
    (hstripe : ∀ cid pm sid, stripe.createSubscription cid pm = .ok sid → sid ≠ "") {event : StripeEvent} {p : Payments}
    (hp : Kept entries p.tables) (hevent : (EntryCall.handleVerifiedEvent event).Sparing p) :
    Kept entries (exec (StripeServiceImpl.handleVerifiedEvent stripe period event) p).2.tables := by
  cases event with
  | checkoutSessionCompleted customer paymentIntent company country =>
    refine Keeps.after (I := fun p : Payments => Kept entries p.tables) (Keeps.bind ?_ fun _ => ?_) hp
    · exact keeps_whenTruthy _ fun cid _ => keeps_whenTruthy _ fun _ _ => keeps_whenTruthy _ fun _ _ =>
        keeps_updateCustomer _ _ _
    · exact keeps_whenTruthy _ fun cid hcid => BillingEntryService.keeps_optionForM _ fun pid _ =>
        kept_createStripeSubscription hstripe (truthy_eq_some hcid) pid
  | paymentIntentSucceeded id customer reason =>
    refine Keeps.after (I := fun p : Payments => Kept entries p.tables) ?_ hp
    dsimp only [StripeServiceImpl.handleVerifiedEvent]
    split
    · exact keeps_whenTruthy _ fun _ _ => keeps_whenTruthy _ fun _ _ => keeps_request _ _
    · exact Keeps.pure _
  | customerUpdated customer previousCountry country =>
    refine Keeps.after (I := fun p : Payments => Kept entries p.tables) ?_ hp
    exact keeps_whenTruthy _ fun _ _ => keeps_whenTruthy _ fun _ _ => keeps_whenTruthy _ fun _ _ =>
      keeps_updateCustomer _ _ _
  | customerSubscriptionDeleted id =>
    have hhandle : StripeServiceImpl.handleVerifiedEvent stripe period (.customerSubscriptionDeleted id) =
        (truthy id).forM StripeServiceImpl.stripeSubscriptionCancelled := rfl
    rw [hhandle]
    cases hid : truthy id with
    | none => exact hp
    | some sid => exact kept_stripeSubscriptionCancelled hp (truthy_eq_some hid) (hevent sid hid)
  | other type => exact hp

/-! ## Runs -/

theorem entryCall_kept (hstripe : ∀ cid pm sid, stripe.createSubscription cid pm = .ok sid → sid ≠ "")
    {call : EntryCall} {p p' : Payments} (hp : Kept entries p.tables) (hcall : call.Sparing p)
    (hstep : call.step client stripe period p = some p') : Kept entries p'.tables := by
  cases hstep
  cases call with
  | createBillingEntry s now =>
    change Kept entries (exec (BillingEntryService.createBillingEntry period s now *> return) p).2.tables
    rw [exec_discard]
    exact (kept_createBillingEntry period now hp hcall).1
  | reportStripeUsages raises =>
    refine Keeps.after (I := fun p : Payments => Kept entries p.tables) (Keeps.bind ?_ fun _ => Keeps.pure _) hp
    exact Keeps.bind (keeps_inRepository (keeps_reading _)) fun rows =>
      Keeps.bind (keeps_forEach rows fun x _ => kept_stripeSend _ _ _) fun _ => Keeps.pure _
  | reportAwsUsages raises =>
    refine Keeps.after (I := fun p : Payments => Kept entries p.tables) ?_ hp
    exact Keeps.bind (keeps_inRepository (keeps_reading _)) fun rows => keeps_forEach rows fun x _ => kept_awsSend _ _ _
  | handleMessage m =>
    change Kept entries (exec (AwsMarketplaceHandler.handleMessage client period m) p).2.tables
    cases hm : m.cancels with
    | none =>
      rw [AwsMarketplaceHandler.handleMessage_rests client period hm]
      exact hp
    | some c =>
      rw [AwsMarketplaceHandler.handleMessage_cancels client period hm]
      exact (kept_subscriptionCanceled c).after hp
  | handleVerifiedEvent event => exact kept_handleVerifiedEvent hstripe hp hcall

end Calls

theorem entryCalls_kept (client : MarketplaceClient) (stripe : StripeClient) (period : BillingPeriod)
    (hstripe : ∀ cid pm sid, stripe.createSubscription cid pm = .ok sid → sid ≠ "") {entries : List BillingEntry}
    {p p' : Payments} {calls : List EntryCall} (hp : Kept entries p.tables)
    (hcalls : Along (EntryCall.step client stripe period) (fun p call => call.Sparing p) p calls)
    (hrun : run (EntryCall.step client stripe period) p calls = some p') : Kept entries p'.tables :=
  run_along (I := fun p => Kept entries p.tables) (fun _ _ _ hp hcall hstep => entryCall_kept hstripe hp hcall hstep) hp
    hcalls hrun

/-- **In every run whose calls spare the unreported entries, each stored entry is in one of the unreported lists until
it is marked as reported.** -/
theorem unreported_entries_listed (client : MarketplaceClient) (stripe : StripeClient) (period : BillingPeriod)
    (hstripe : ∀ cid pm sid, stripe.createSubscription cid pm = .ok sid → sid ≠ "") (p p₁ p₂ : Payments)
    (before after : List EntryCall) (hsound : p.tables.Sound)
    (hcalls : Along (EntryCall.step client stripe period) (fun p call => call.Sparing p) p (before ++ after))
    (hbefore : run (EntryCall.step client stripe period) p before = some p₁)
    (hafter : run (EntryCall.step client stripe period) p₁ after = some p₂) :
    ∀ be ∈ p₁.tables.billing, be.reported = false →
      be ∈ p₂.tables.billing ∧ p₂.tables.Listed be ∨ be.markReported be.id ∈ p₂.tables.billing := by
  intro be hbe hrep
  obtain ⟨hfirst, hthen⟩ := along_append hcalls hbefore
  have h₁ : Kept [] p₁.tables :=
    entryCalls_kept client stripe period hstripe ⟨hsound, fun _ h => absurd h List.not_mem_nil⟩ hfirst hbefore
  have h₂ : Kept p₁.tables.billing p₂.tables :=
    entryCalls_kept client stripe period hstripe ⟨h₁.toSound, fun _ h => Or.inl h⟩ hthen hafter
  exact (h₂.stays be hbe).imp_left fun hmem => ⟨hmem, h₂.toSound.listed hmem hrep⟩

/-! ## A subscription that is deleted with unreported usage -/

def stripeRow : SubscriptionEntity :=
  .fromModel (.stripe ⟨21, some 1, "cus", "sub", true, some feb, some mar⟩)

/-- Workspace 1 with a Stripe subscription and the usage since February. -/
def stripePayments : Payments :=
  { marchPayments with
    world := { marchPayments.world with
      organizations := ⟨[{ plusOrganization 1 with subscriptionId := some 21 }], by decide⟩ }
    tables := ⟨⟨[stripeRow], by decide⟩, []⟩ }

def answeringStripe : StripeClient where
  paymentMethodIdFromIntent _ := .ok "pm"
  createSubscription _ _ := .ok "sub"
  createUsageRecord _ _ _ := .ok ⟨⟩
  refund _ := .ok ⟨⟩
  updateCustomer _ _ _ := .ok ⟨⟩

def stripeBill : List EntryCall :=
  [.createBillingEntry (.stripe ⟨21, some 1, "cus", "sub", true, some feb, some mar⟩) none]

theorem stripePayments_sound : stripePayments.tables.Sound := by
  refine ⟨fun e he => ?_, fun be hbe => absurd hbe List.not_mem_nil⟩
  rw [List.mem_singleton.1 he]
  exact ⟨_, rfl⟩

theorem unreported_entries_listed_stripeBill : ∃ p₁, run (EntryCall.step acceptingClient answeringStripe .month)
    stripePayments stripeBill = some p₁ ∧ ∀ be ∈ p₁.tables.billing, be.reported = false →
      be ∈ p₁.tables.billing ∧ p₁.tables.Listed be ∨ be.markReported be.id ∈ p₁.tables.billing :=
  ⟨_, rfl, unreported_entries_listed acceptingClient answeringStripe .month (fun _ _ _ h => by cases h; decide)
    stripePayments _ _ stripeBill [] stripePayments_sound
    ⟨Or.inl ⟨stripeRow, List.mem_singleton_self _, rfl⟩, fun _ _ => trivial⟩ rfl rfl⟩

def billedStripe : Payments :=
  (exec (BillingEntryService.createBillingEntry .month
    (.stripe ⟨21, some 1, "cus", "sub", true, some feb, some mar⟩) none)
    stripePayments).2

def deletedStripe : Payments :=
  (exec (StripeServiceImpl.handleVerifiedEvent answeringStripe .month (.customerSubscriptionDeleted (some "sub")))
    billedStripe).2

/-- The entry is stored, Stripe deletes the subscription, and no list has the entry any more. -/
theorem deleted_subscription_loses_entry :
    run (EntryCall.step acceptingClient answeringStripe .month) stripePayments stripeBill = some billedStripe ∧
    run (EntryCall.step acceptingClient answeringStripe .month) billedStripe
      [.handleVerifiedEvent (.customerSubscriptionDeleted (some "sub"))] = some deletedStripe ∧
    ∃ be ∈ billedStripe.tables.billing, be.reported = false ∧ ¬ deletedStripe.tables.Listed be ∧
      be.markReported be.id ∉ deletedStripe.tables.billing := by
  have hentry : ∃ be ∈ billedStripe.tables.billing, be.reported = false ∧
      be.markReported be.id ∉ deletedStripe.tables.billing := by decide +kernel
  have haws : readOut deletedStripe.tables (·.awsCustomerIdentifier.isSome) = .ok [] := by decide +kernel
  have hstripe : readOut deletedStripe.tables (·.stripeSubscriptionId.isSome) = .ok [] := by decide +kernel
  obtain ⟨be, hbe, hrep, hmarked⟩ := hentry
  refine ⟨rfl, rfl, be, hbe, hrep, ?_, hmarked⟩
  rintro ⟨l, s, hl, hmem⟩
  rw [haws, hstripe, or_self, Except.ok.injEq] at hl
  subst hl
  cases hmem

end Fix
