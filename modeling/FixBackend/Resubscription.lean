import FixBackend.DomainEvents
import FixBackend.Machine
import FixBackend.Marketplace
/-!
# Resubscription — a customer cancels and subscribes again

The customers of the marketplace subscribe, the marketplace sends its messages, and every event that a call publishes is
handled some time later, in any order.  `Restored` says that a workspace is paid for by a subscription of the customer.
-/
namespace Fix

open Calendar Effects Machine AwsMarketplaceHandler

/-- The payments and the events that are published and not handled yet. -/
structure Resubscribing where
  payments : Payments
  pending : List DomainEvent

inductive CustomerMove where
  | subscribed (user : User) (token : String)
  | message (m : MarketplaceMessage)
  | event (i : Nat)

section Moves

variable (client : MarketplaceClient) (period : BillingPeriod) (aws : FixCloudAccountId → AwsAnswers)

/-- The events that a call publishes wait behind those of `pending`. -/
def Resubscribing.called {α : Type} (s : Resubscribing) (pending : List DomainEvent) (m : PaymentService α) :
    Resubscribing :=
  let p := (exec m s.payments).2
  ⟨p, pending ++ p.world.published.drop s.payments.world.published.length⟩

def Resubscribing.step (s : Resubscribing) : CustomerMove → Option Resubscribing
  | .subscribed user token => some (s.called s.pending (subscribed client period user token))
  | .message m => some (s.called s.pending (handleMessage client period m))
  | .event i => s.pending[i]?.map fun event => s.called (s.pending.eraseIdx i) (inWorld (processDomainEvent aws event))

end Moves

/-- The workspace is attached to an active subscription of the user and customer, and its payment is not on hold. -/
def Payments.Restored (p : Payments) (workspaceId : WorkspaceId) (userId : UserId)
    (customerIdentifier : String) : Prop :=
  ∃ o sid e, p.world.organizations.find workspaceId = some o ∧ o.paymentOnHoldSince = none ∧
    o.subscriptionId = some sid ∧ p.tables.subscriptions.find sid = some e ∧ e.active = true ∧
    e.userId = some userId ∧ e.awsCustomerIdentifier = some customerIdentifier

def SubscriptionTables.Subscribed (t : SubscriptionTables) (userId : UserId) (customerIdentifier : String) : Prop :=
  ∃ e ∈ t.subscriptions.rows, e.awsCustomerIdentifier = some customerIdentifier ∧ e.userId = some userId

/-- The next id is not used by a subscription or a link yet. -/
structure NextIdIsNew (p : Payments) : Prop where
  subscriptions : ∀ e ∈ p.tables.subscriptions.rows, e.id < p.world.nextUuid
  links : ∀ o ∈ p.world.organizations.rows, ∀ x, o.subscriptionId = some x → x < p.world.nextUuid

/-! ## What the calls keep -/

/-- The subscription whose cancellation or creation an event announces. -/
def DomainEvent.subscription : DomainEvent → Option SubscriptionId
  | .subscriptionCancelled x _ | .subscriptionCreated _ _ x _ => some x
  | _ => none

def DomainEvent.ofMove : DomainEvent → Prop
  | .subscriptionCancelled .. | .subscriptionCreated .. | .productTierChanged .. | .billingEntryCreated ..
  | .cloudAccountActiveToggled .. | .cloudAccountDeleted .. => True
  | _ => False

/-- A condition on the workspaces and the next id, and one on each event published after the first `k`. -/
structure Announcing (J : Organizations → Uuid → Prop) (Q : DomainEvent → Prop) (k : Nat) (w : World) : Prop where
  organizations : J w.organizations w.nextUuid
  known : k ≤ w.published.length
  published : ∀ e ∈ w.published.drop k, Q e

structure Meets (J : Organizations → Uuid → Prop) (T : SubscriptionTables → Prop) (Q : DomainEvent → Prop) (k : Nat)
    (p : Payments) : Prop where
  world : Announcing J Q k p.world
  tables : T p.tables

section Keeps

variable {J J' : Organizations → Uuid → Prop} {T : SubscriptionTables → Prop} {Q : DomainEvent → Prop} {k : Nat}
  {α : Type}

theorem mem_drop_append {events : List DomainEvent} {e x : DomainEvent} (hx : x ∈ (events ++ [e]).drop k) :
    x ∈ events.drop k ∨ x = e := by
  rw [List.drop_append] at hx
  rcases List.mem_append.1 hx with hx | hx
  · exact Or.inl hx
  · exact Or.inr (List.mem_singleton.1 (List.mem_of_mem_drop hx))

theorem Announcing.append {w : World} (h : Announcing J Q k w) {e : DomainEvent} (he : Q e) :
    Announcing J Q k { w with published := w.published ++ [e] } := by
  refine ⟨h.organizations, ?_, fun x hx => ?_⟩
  · exact Nat.le_trans h.known (List.length_append ▸ Nat.le_add_right _ _)
  · rcases mem_drop_append hx with hx | rfl
    · exact h.published x hx
    · exact he

theorem Announcing.of_world {w w' : World} (h : Announcing J Q k w) (hJ : J' w'.organizations w'.nextUuid)
    (hpub : w'.published = w.published) : Announcing J' Q k w' :=
  ⟨hJ, hpub ▸ h.known, hpub ▸ h.published⟩

theorem accountsMayChange_announcing (hQ : ∀ e : DomainEvent, e.ofAccount → Q e) :
    AccountsMayChange (Announcing J Q k) where
  quiet w w' horg hpub hnext hw := hw.of_world (by rw [horg, hnext]; exact hw.organizations) hpub
  published w e he hw := hw.append (hQ e he)

theorem meets_inWorld {m : Service α}
    (hm : Triple (Announcing J Q k) m (fun _ => Announcing J' Q k) (Announcing J' Q k)) :
    Triple (Meets J T Q k) (inWorld m) (fun _ => Meets J' T Q k) (Meets J' T Q k) := by
  refine Triple.embed fun p hp => Triple.imp hm ?_ (fun _ w hw => ⟨hw, hp.tables⟩) (fun w hw => ⟨hw, hp.tables⟩)
  rintro w rfl
  exact hp.world

theorem meets_publish {e : DomainEvent} (he : Q e) : Keeps (Meets J T Q k) (inWorld (publish e)) :=
  meets_inWorld (Keeps.modify _ fun _ hw => hw.append he)

theorem meets_utc : Keeps (Meets J T Q k) (inWorld utc) :=
  meets_inWorld (Triple.modifyGet _ fun _ hw => hw.of_world hw.organizations rfl)

theorem meets_inOrganizations {f : Organizations → Except Err (α × Organizations)}
    (hf : ∀ orgs next a orgs', J orgs next → f orgs = .ok (a, orgs') → J orgs' next) :
    Keeps (Meets J T Q k) (inWorld (inOrganizations f)) := by
  refine meets_inWorld (Triple.of_exec fun w hw => ?_)
  rw [exec_inOrganizations]
  cases hr : f w.organizations with
  | error e => exact hw
  | ok x =>
    obtain ⟨a, orgs⟩ := x
    exact hw.of_world (hf _ _ a orgs hw.organizations hr) rfl

/-- The workspaces allow that a row is replaced by one of the same workspace. -/
def Replaceable (J : Organizations → Uuid → Prop) (R : Organization → Organization → Prop) : Prop :=
  ∀ orgs next o o', J orgs next → orgs.find o.id = some o → o'.id = o.id → R o o' → J (orgs.replace o') next

theorem meets_changeOrganization {R : Organization → Organization → Prop} (hJ : Replaceable J R)
    (workspaceId : WorkspaceId)
    {f : Organization → Organization} (hid : ∀ o, (f o).id = o.id) (hf : ∀ o, o.id = workspaceId → R o (f o)) :
    Keeps (Meets J T Q k) (inWorld (inOrganizations fun orgs => changeOrganization orgs workspaceId f)) := by
  refine meets_inOrganizations fun orgs next a orgs' horgs hr => ?_
  unfold changeOrganization at hr
  cases hfind : orgs.find workspaceId with
  | none =>
    rw [hfind] at hr
    cases hr
  | some o =>
    rw [hfind] at hr
    cases hr
    have hkey := Table.key_of_find hfind
    exact hJ orgs next o (f o) horgs (by rw [hkey]; exact hfind) (hid o) (hf o hkey)

/-- A tier change leaves a row under its id, with its subscription and its hold. -/
def LinkKept (o o' : Organization) : Prop :=
  o'.subscriptionId = o.subscriptionId ∧ o'.paymentOnHoldSince = o.paymentOnHoldSince

theorem meets_updateProductTier (hJ : Replaceable J LinkKept) (workspaceId : WorkspaceId) (tier : ProductTier)
    (now : DateTime) :
    Keeps (Meets J T Q k) (inWorld (inOrganizations fun orgs => Fix.updateProductTier orgs workspaceId tier now)) := by
  refine meets_inOrganizations fun orgs next a orgs' horgs hr => ?_
  unfold Fix.updateProductTier at hr
  cases hfind : orgs.find workspaceId with
  | none =>
    rw [hfind] at hr
    cases hr
  | some o =>
    rw [hfind] at hr
    dsimp only at hr
    cases hsel : o.selectTier tier now with
    | error e =>
      rw [hsel] at hr
      cases hr
    | ok o' =>
      rw [hsel] at hr
      cases hr
      obtain ⟨hid, hlink⟩ := Organization.selectTier_keeps hsel
      exact hJ orgs next o o' horgs (by rw [Table.key_of_find hfind]; exact hfind) hid hlink

theorem meets_takePreferredTier {E : Payments → Prop} (hJ : Replaceable J LinkKept)
    (hQ : ∀ w u t paid higher before, Q (.productTierChanged w u t paid higher before)) (workspace : Workspace) :
    Triple (Meets J T Q k) (takePreferredTier workspace) (fun _ => Meets J T Q k) E := by
  refine Triple.get_bind fun p hp => ?_
  refine Triple.imp (P := Meets J T Q k) ?_ (fun p' hp' => hp' ▸ hp) (fun _ _ h => h) (fun _ h => h)
  cases (p.awsTierPreferences.find workspace.id).bind (·.desiredProductTier) with
  | none => exact Triple.pure _ fun _ h => h
  | some tier =>
    refine Triple.tryCatch ?_ fun e => Triple.pure _ fun p (h : Meets J T Q k p) => h
    refine Keeps.bind ?_ fun _ => Keeps.pure _
    unfold BillingEntryService.updateBilling
    refine Keeps.bind meets_utc fun now => Keeps.bind (BillingEntryService.keeps_getPaymentMethods meets_utc _ _)
      fun methods =>
      Keeps.bind (keeps_of_rests fun p => by rw [exec_inWorld]; rfl) fun n => ?_
    refine Keeps.bind (Keeps.lift _) fun _ => Keeps.bind (Keeps.pure _) fun _ =>
      Keeps.bind (Keeps.pure _) fun workspace => ?_
    dsimp only [BillingEntryService.whenGiven]
    unfold BillingEntryService.updateProductTier
    split
    · exact Keeps.pure _
    · exact Keeps.bind meets_utc fun now => Keeps.bind (meets_updateProductTier hJ _ _ _) fun _ =>
        Keeps.bind (meets_publish (hQ _ _ _ _ _ _)) fun _ => Keeps.pure _

theorem meets_processDomainEvent (hQ : ∀ e : DomainEvent, e.ofAccount → Q e) {R : Organization → Organization → Prop}
    (hJ : Replaceable J R) (changes : WorkspaceId → Prop)
    (hhold : ∀ (o : Organization) since, changes o.id → R o { o with paymentOnHoldSince := since })
    (hunlink : ∀ o : Organization, changes o.id → R o { o with subscriptionId := none })
    (aws : FixCloudAccountId → AwsAnswers) {e : DomainEvent} (he : e.ofMove)
    (hx : ∀ x, e.subscription = some x → ∀ orgs next, J orgs next → ∀ o ∈ orgs.rows, o.subscriptionId = some x →
      changes o.id) : Keeps (Announcing J Q k) (processDomainEvent aws e) := by
  have hI : AccountsMayChange (Announcing J Q k) := accountsMayChange_announcing hQ
  have hA : AccountsMayChange.Allows (Announcing J Q k) changes :=
    ⟨fun w o since hw hid hfind => hw.of_world (hJ _ _ o _ hw.organizations hfind rfl (hhold o since hid)) rfl,
      fun w o hw hid hfind => hw.of_world (hJ _ _ o _ hw.organizations hfind rfl (hunlink o hid)) rfl⟩
  cases e with
  | productTierChanged w u tier paid higher before => exact hI.processProductTierChanged w u tier before
  | subscriptionCancelled x method =>
    exact AccountsMayChange.processSubscriptionCancelled hI hA fun w hw => hx x rfl _ _ hw.organizations
  | subscriptionCreated w u x method =>
    exact AccountsMayChange.processSubscriptionCreated hI hA fun w hw => hx x rfl _ _ hw.organizations
  | billingEntryCreated => exact Keeps.pure _
  | cloudAccountActiveToggled => exact Keeps.pure _
  | cloudAccountDeleted => exact hI.notify _
  | _ => exact he.elim

theorem meets_inRepository {T' T'' : SubscriptionTables → Prop} {P : α → Prop} {m : SubscriptionRepository.Repository α}
    (hm : Triple T m (fun a t => P a ∧ T' t) T'') :
    Triple (Meets J T Q k) (inRepository m) (fun a p => P a ∧ Meets J T' Q k p) (Meets J T'' Q k) := by
  refine Triple.embed fun p hp => Triple.imp hm ?_ (fun a t h => ⟨h.1, hp.world, h.2⟩) (fun t h => ⟨hp.world, h⟩)
  rintro t rfl
  exact hp.tables

theorem meets_reportUsage (client : MarketplaceClient) (productCode : String)
    (entries : List (AwsMarketplaceSubscription × BillingEntry)) :
    Keeps (Meets J T Q k) (reportUsage client productCode entries) := by
  unfold reportUsage
  refine Keeps.bind (Keeps.modify _ fun p hp => ⟨hp.world, hp.tables⟩) fun _ =>
    Keeps.bind (Keeps.lift _) fun unprocessed => ?_
  split
  · exact Keeps.throw _
  · exact Keeps.pure _

theorem meets_resume {R : Organization → Organization → Prop} (hJ : Replaceable J R)
    (hhold : ∀ o : Organization, R o { o with paymentOnHoldSince := none }) (existing : SubscriptionMethod) :
    Keeps (Meets J T Q k) (resume existing) := by
  refine Triple.get_bind fun p hp => ?_
  refine Triple.imp (P := Meets J T Q k) ?_ (fun p' hp' => hp' ▸ hp) (fun _ _ h => h) (fun _ h => h)
  exact Keeps.forM _ fun workspace _ =>
    Keeps.bind (meets_changeOrganization hJ workspace.id (fun _ => rfl) fun o _ => hhold o) fun _ => Keeps.pure _

end Keeps

/-! ## The ids of a history -/

/-- Links and subscriptions, and the events about them, are below a bound that the next id is not. -/
def Issued (b : SubscriptionId) (orgs : Organizations) (next : Uuid) : Prop :=
  b ≤ next ∧ ∀ o ∈ orgs.rows, ∀ x, o.subscriptionId = some x → x < b

def Below (b : SubscriptionId) (t : SubscriptionTables) : Prop := ∀ e ∈ t.subscriptions.rows, e.id < b

def Earlier (b : SubscriptionId) (e : DomainEvent) : Prop := e.ofMove ∧ ∀ x, e.subscription = some x → x < b

abbrev MeetsBelow (b : SubscriptionId) (k : Nat) (p : Payments) : Prop := Meets (Issued b) (Below b) (Earlier b) k p

section Issued

variable {b : SubscriptionId} {k : Nat} {client : MarketplaceClient} {period : BillingPeriod}

theorem Earlier.mono {b' : SubscriptionId} {e : DomainEvent} (h : Earlier b e) (hb : b ≤ b') : Earlier b' e :=
  ⟨h.1, fun x hx => Nat.lt_of_lt_of_le (h.2 x hx) hb⟩

theorem earlier_ofAccount (e : DomainEvent) (he : e.ofAccount) : Earlier b e := by
  cases e with
  | cloudAccountActiveToggled => exact ⟨trivial, fun x hx => nomatch hx⟩
  | cloudAccountDeleted => exact ⟨trivial, fun x hx => nomatch hx⟩
  | _ => exact he.elim

theorem issued_replaceable :
    Replaceable (Issued b) fun o o' => ∀ x, o'.subscriptionId = some x → o.subscriptionId = some x ∨ x < b := by
  rintro orgs next o o' ⟨hnext, hlinks⟩ hfind - hR
  refine ⟨hnext, fun r hr x hx => ?_⟩
  rcases Table.mem_replace hr with hr | rfl
  · exact hlinks r hr x hx
  · rcases hR x hx with hx | hx
    · exact hlinks o (Table.mem_of_find hfind) x hx
    · exact hx

theorem issued_linkKept : Replaceable (Issued b) LinkKept := fun orgs next o o' horgs hfind hid hlink =>
  issued_replaceable orgs next o o' horgs hfind hid fun _ hx => Or.inl (hlink.1 ▸ hx)

theorem below_updateChargeTimestamp {t t' : SubscriptionTables} {sid : SubscriptionId} {now next : DateTime}
    (ht : Below b t) (hsub : t'.subscriptions = updateChargeTimestamp t.subscriptions sid now next) : Below b t' := by
  intro e he
  rw [hsub] at he
  obtain ⟨row, hrow, rfl | rfl⟩ := mem_updateChargeTimestamp he
  · exact ht e hrow
  · exact ht row hrow

theorem below_createBillingEntry (s : SubscriptionMethod) (now : Option DateTime) :
    Keeps (MeetsBelow b k) (BillingEntryService.createBillingEntry period s now) := by
  apply Triple.of_exec
  rintro p ⟨hworld, htables⟩
  have hnext : Issued b p.world.organizations (p.world.nextUuid + 1) :=
    ⟨Nat.le_succ_of_le hworld.organizations.1, hworld.organizations.2⟩
  rw [BillingEntryService.exec_createBillingEntry]
  dsimp only
  rcases createBillingEntry_cases period p.billingStore s now (p.world.clock p.world.ticks) p.world.nextUuid with
    ⟨-, hst⟩ | ⟨w, rest, -, -, hst⟩
  · rw [hst]
    exact ⟨hworld.of_world hnext rfl, htables⟩
  · dsimp only at hst
    split at hst
    · obtain ⟨entry, -, -, -, -, hst⟩ := hst
      rw [hst]
      have hevent : Earlier b (.billingEntryCreated w.id s.id entry.tier entry.nrOfAccountsCharged) :=
        ⟨trivial, fun x hx => nomatch hx⟩
      exact ⟨(hworld.append hevent).of_world hnext rfl, below_updateChargeTimestamp htables rfl⟩
    · rw [hst]
      exact ⟨hworld.of_world hnext rfl, below_updateChargeTimestamp htables rfl⟩

theorem below_handleMessage (m : MarketplaceMessage) : Keeps (MeetsBelow b k) (handleMessage client period m) := by
  cases hm : m.cancels with
  | none => exact keeps_of_rests (handleMessage_rests client period hm)
  | some c =>
    rw [handleMessage_cancels client period hm]
    refine keeps_reading_bind fun p rows hp hrows => ?_
    cases hrows
    refine Triple.imp (P := MeetsBelow b k) ?_ (fun p' hp' => hp' ▸ hp) (fun _ _ h => h) (fun _ h => h)
    refine keeps_forEach _ fun s hs => ?_
    obtain ⟨row, hrow, hmodel⟩ := List.mem_map.1 hs
    have hid : s.id < b := by
      rw [(SubscriptionEntity.toModel_ok hmodel).1]
      exact hp.tables row (List.mem_of_mem_filter hrow)
    cases s with
    | stripe s => exact Keeps.throw _
    | awsMarketplace s =>
      have hevent : Earlier b (.subscriptionCancelled s.id .awsMarketplace) := by
        refine ⟨trivial, fun x hx => ?_⟩
        cases hx
        exact hid
      refine Keeps.bind (meets_publish hevent) fun _ => Keeps.bind (below_createBillingEntry _ _) fun billing => ?_
      cases billing with
      | none => exact Keeps.pure _
      | some billing => exact meets_reportUsage _ _ _

theorem Meets.raise {p : Payments} (h : MeetsBelow b k p) {b' : SubscriptionId} (hb : b ≤ b')
    (hnext : b' ≤ p.world.nextUuid) : MeetsBelow b' k p where
  world :=
    { organizations := ⟨hnext, fun o ho x hx => Nat.lt_of_lt_of_le (h.world.organizations.2 o ho x hx) hb⟩
      known := h.world.known
      published := fun e he => (h.world.published e he).mono hb }
  tables e he := Nat.lt_of_lt_of_le (h.tables e he) hb

theorem below_create {s : SubscriptionMethod} (hs : s.id < b) :
    Triple (Below b) (SubscriptionRepository.create s) (fun r t => r = s ∧ Below b t) (Below b) := by
  apply Triple.of_exec
  intro t ht
  by_cases h : t.subscriptions.find (SubscriptionEntity.fromModel s).id = none
  · rw [SubscriptionRepository.exec_create_new _ h]
    refine ⟨rfl, fun e he => ?_⟩
    rcases List.mem_append.1 he with he | he
    · exact ht e he
    · rw [List.mem_singleton.1 he, SubscriptionEntity.fromModel_id]
      exact hs
  · rw [SubscriptionRepository.exec_create_old _ h]
    exact ht

theorem below_assign {x : SubscriptionId} (hx : x < b) (workspace : Option Workspace) :
    Keeps (MeetsBelow b k) (assign x workspace) := by
  cases workspace with
  | none => exact Keeps.pure _
  | some workspace =>
    dsimp only [assign]
    split
    · refine Keeps.bind (meets_changeOrganization issued_replaceable workspace.id (fun _ => rfl) fun o _ y hy => ?_)
        fun _ =>
        Keeps.bind (meets_takePreferredTier issued_linkKept (fun _ _ _ _ _ _ => ⟨trivial, fun x hx => nomatch hx⟩) _)
          fun _ => Keeps.pure _
      cases hy
      exact Or.inr hx
    · exact Keeps.pure _

theorem below_subscribe (user : User) (customer : CustomerData) (workspace : Option Workspace) :
    Triple (MeetsBelow b k) (subscribe period user customer workspace)
      (fun _ p => ∃ b', b ≤ b' ∧ MeetsBelow b' k p) (fun p => ∃ b', b ≤ b' ∧ MeetsBelow b' k p) := by
  have huuid : Triple (MeetsBelow b k) (inWorld uuid4) (fun id p => b ≤ id + 1 ∧ MeetsBelow (id + 1) k p)
      (fun p => ∃ b', b ≤ b' ∧ MeetsBelow b' k p) := by
    apply Triple.of_exec
    intro p hp
    have hb : b ≤ p.world.nextUuid := hp.world.organizations.1
    have hmeets : MeetsBelow b k { p with world := { p.world with nextUuid := p.world.nextUuid + 1 } } :=
      ⟨hp.world.of_world ⟨Nat.le_succ_of_le hb, hp.world.organizations.2⟩ rfl, hp.tables⟩
    exact ⟨Nat.le_succ_of_le hb, hmeets.raise (Nat.le_succ_of_le hb) (Nat.le_refl _)⟩
  refine Triple.bind huuid fun id => ?_
  intro p ⟨hb, hp⟩
  refine Triple.imp (P := MeetsBelow (id + 1) k) ?_ (fun _ h => h) (fun _ _ h => ⟨id + 1, hb, h⟩)
    (fun _ h => ⟨id + 1, hb, h⟩) p hp
  refine Keeps.bind meets_utc fun now => Keeps.bind meets_utc fun periodStart => ?_
  refine Triple.bind (meets_inRepository (below_create (Nat.lt_succ_self id))) fun r => ?_
  intro p ⟨hr, hp⟩
  subst hr
  have hevent : Earlier (id + 1) (.subscriptionCreated (workspace.map (·.id)) user.id id .awsMarketplace) := by
    refine ⟨trivial, fun x hx => ?_⟩
    cases hx
    exact Nat.lt_succ_self id
  exact Keeps.bind (below_assign (Nat.lt_succ_self id) workspace)
    (fun _ => Keeps.bind (meets_publish hevent) fun _ => Keeps.pure _) p hp

variable (client period) in
theorem below_subscribed (user : User) (token : String) :
    Triple (MeetsBelow b k) (subscribed client period user token)
      (fun _ p => ∃ b', b ≤ b' ∧ MeetsBelow b' k p) (fun p => ∃ b', b ≤ b' ∧ MeetsBelow b' k p) := by
  have hsame : ∀ p, MeetsBelow b k p → ∃ b', b ≤ b' ∧ MeetsBelow b' k p := fun p hp => ⟨b, Nat.le_refl b, hp⟩
  refine Triple.lift_bind (fun customer _ => Triple.get_bind fun p hp => ?_) hsame
  refine Triple.imp (P := MeetsBelow b k) ?_ (fun p' hp' => hp' ▸ hp) (fun _ _ h => h) (fun _ h => h)
  have hread : Keeps (MeetsBelow b k)
      (inRepository (SubscriptionRepository.awsMarketplaceSubscription user.id customer.customerIdentifier)) :=
    keeps_of_rests fun p => by rw [SubscriptionRepository.awsMarketplaceSubscription, exec_inRepository_reading]
  refine Triple.bind (Triple.imp hread (fun _ h => h) (fun _ _ h => h) hsame) fun found => ?_
  cases found with
  | some existing =>
    refine Triple.imp (P := MeetsBelow b k) ?_ (fun _ h => h) (fun _ => hsame) hsame
    exact Keeps.bind (meets_resume issued_replaceable (fun o x hx => Or.inl hx) existing) fun _ => Keeps.pure _
  | none => exact below_subscribe user customer _

end Issued

/-! ## Runs -/

/-- The conditions of `Meets`, on the payments and on every event that is not handled yet. -/
structure Resubscribing.Meets (J : Organizations → Uuid → Prop) (T : SubscriptionTables → Prop) (Q : DomainEvent → Prop)
    (s : Resubscribing) : Prop where
  organizations : J s.payments.world.organizations s.payments.world.nextUuid
  tables : T s.payments.tables
  pending : ∀ e ∈ s.pending, Q e

section Runs

variable {J J' : Organizations → Uuid → Prop} {T T' : SubscriptionTables → Prop} {Q Q' : DomainEvent → Prop}
  {client : MarketplaceClient} {period : BillingPeriod} {aws : FixCloudAccountId → AwsAnswers}

theorem Resubscribing.Meets.start {s : Resubscribing} (h : s.Meets J T Q) (Q' : DomainEvent → Prop) :
    Fix.Meets J T Q' s.payments.world.published.length s.payments where
  world :=
    { organizations := h.organizations
      known := Nat.le_refl _
      published := by
        rw [List.drop_length]
        exact fun _ he => absurd he List.not_mem_nil }
  tables := h.tables

theorem Resubscribing.Meets.called {α : Type} {s : Resubscribing} {m : PaymentService α} {pending : List DomainEvent}
    (h : Fix.Meets J' T' Q' s.payments.world.published.length (exec m s.payments).2) (hpend : ∀ e ∈ pending, Q' e) :
    (s.called pending m).Meets J' T' Q' where
  organizations := h.world.organizations
  tables := h.tables
  pending e he := (List.mem_append.1 he).elim (hpend e) (h.world.published e)

/-- The links, subscriptions and events of a history are below some bound. -/
def Resubscribing.Earlier (s : Resubscribing) : Prop := ∃ b, s.Meets (Issued b) (Below b) (Fix.Earlier b)

theorem earlier_step (s : Resubscribing) (m : CustomerMove) (s' : Resubscribing) (h : s.Earlier)
    (hstep : s.step client period aws m = some s') : s'.Earlier := by
  obtain ⟨b, h⟩ := h
  cases m with
  | subscribed user token =>
    cases hstep
    obtain ⟨b', hb, hmeets⟩ :=
      Triple.after (I := fun p => ∃ b', b ≤ b' ∧ MeetsBelow b' s.payments.world.published.length p)
      (below_subscribed client period user token) (h.start (Fix.Earlier b))
    exact ⟨b', Resubscribing.Meets.called hmeets fun e he => (h.pending e he).mono hb⟩
  | message m =>
    cases hstep
    exact ⟨b, Resubscribing.Meets.called ((below_handleMessage m).after (h.start (Fix.Earlier b))) h.pending⟩
  | event i =>
    obtain ⟨e, he, rfl⟩ := Option.map_eq_some_iff.1 hstep
    have hevent := h.pending e (List.mem_of_getElem? he)
    have hkeeps : Keeps (MeetsBelow b s.payments.world.published.length) (inWorld (processDomainEvent aws e)) :=
      meets_inWorld (meets_processDomainEvent earlier_ofAccount issued_replaceable (fun _ => True)
        (fun o since _ x hx => Or.inl hx) (fun o _ x hx => nomatch hx) aws hevent.1 fun _ _ _ _ _ _ _ _ => trivial)
    exact ⟨b, Resubscribing.Meets.called (hkeeps.after (h.start (Fix.Earlier b)))
      fun x hx => h.pending x (List.mem_of_mem_eraseIdx hx)⟩

end Runs

/-! ## A customer with a stored subscription -/

def Detached (workspaceId : WorkspaceId) (orgs : Organizations) (_ : Uuid) : Prop :=
  ∀ o ∈ orgs.rows, o.id = workspaceId → o.subscriptionId = none

section Detached

variable {workspaceId : WorkspaceId} {userId : UserId} {customerIdentifier : String} {k : Nat}
  {client : MarketplaceClient} {period : BillingPeriod} {aws : FixCloudAccountId → AwsAnswers}

theorem detached_replaceable : Replaceable (Detached workspaceId) fun o o' =>
    o'.subscriptionId = o.subscriptionId ∨ o'.subscriptionId = none := by
  intro orgs next o o' horgs hfind hid hR r hr hrid
  rcases Table.mem_replace hr with hr | rfl
  · exact horgs r hr hrid
  · rcases hR with hR | hR
    · rw [hR]
      exact horgs o (Table.mem_of_find hfind) (hid ▸ hrid)
    · exact hR

theorem awsMarketplaceSubscription_subscribed {t : SubscriptionTables} (h : t.Subscribed userId customerIdentifier) :
    exec (SubscriptionRepository.awsMarketplaceSubscription userId customerIdentifier) t ≠ (.ok none, t) := by
  obtain ⟨e, he, hcustomer, huser⟩ := h
  have hmem : e ∈ t.subscriptions.rows.filter fun e =>
      decide (e.awsCustomerIdentifier = some customerIdentifier ∧ e.userId = some userId) :=
    List.mem_filter.2 ⟨he, decide_eq_true ⟨hcustomer, huser⟩⟩
  rw [SubscriptionRepository.awsMarketplaceSubscription, SubscriptionRepository.exec_reading]
  cases hrows : t.subscriptions.rows.filter fun e =>
      decide (e.awsCustomerIdentifier = some customerIdentifier ∧ e.userId = some userId) with
  | nil =>
    rw [hrows] at hmem
    exact absurd hmem List.not_mem_nil
  | cons row rest =>
    cases rest with
    | nil =>
      change ((some <$> row.toModel : Except Err (Option SubscriptionMethod)), t) ≠ (.ok none, t)
      cases row.toModel <;> exact nofun
    | cons row' rest => exact nofun

variable (period) in
theorem detached_subscribed {user : User} {token : String} {customer : CustomerData}
    (htoken : client.resolveCustomer token = .ok customer) :
    Keeps (Meets (Detached workspaceId) (·.Subscribed user.id customer.customerIdentifier) DomainEvent.ofMove k)
      (subscribed client period user token) := by
  refine Triple.lift_bind (fun customer' hcustomer => Triple.get_bind fun p₀ hp₀ => ?_) fun _ h => h
  rw [htoken] at hcustomer
  cases hcustomer
  refine Triple.imp (P := Meets (Detached workspaceId) (·.Subscribed user.id customer.customerIdentifier)
    DomainEvent.ofMove k)
    ?_ (fun p' hp' => hp' ▸ hp₀) (fun _ _ h => h) (fun _ h => h)
  refine keeps_reading_bind fun p found hp hfound => ?_
  refine Triple.imp (P := Meets (Detached workspaceId) (·.Subscribed user.id customer.customerIdentifier)
    DomainEvent.ofMove k)
    ?_ (fun p' hp' => hp' ▸ hp) (fun _ _ h => h) (fun _ h => h)
  cases found with
  | some existing =>
    exact Keeps.bind (meets_resume detached_replaceable (fun o => Or.inl rfl) existing) fun _ => Keeps.pure _
  | none =>
    refine absurd ?_ (awsMarketplaceSubscription_subscribed hp.tables)
    rw [SubscriptionRepository.awsMarketplaceSubscription, SubscriptionRepository.exec_reading, hfound]

theorem ofMove_of_ofAccount (e : DomainEvent) (he : e.ofAccount) : e.ofMove := by
  cases e <;> first | exact trivial | exact he.elim

theorem detached_event {T : SubscriptionTables → Prop} {s s' : Resubscribing} {i : Nat}
    (h : s.Meets (Detached workspaceId) T DomainEvent.ofMove)
    (hstep : s.step client period aws (.event i) = some s') : s'.Meets (Detached workspaceId) T DomainEvent.ofMove := by
  obtain ⟨e, he, rfl⟩ := Option.map_eq_some_iff.1 hstep
  have hkeeps : ∀ k, Keeps (Meets (Detached workspaceId) T DomainEvent.ofMove k) (inWorld (processDomainEvent aws e)) :=
    fun k => meets_inWorld (meets_processDomainEvent ofMove_of_ofAccount detached_replaceable (fun _ => True)
      (fun o since _ => Or.inl rfl) (fun o _ => Or.inr rfl) aws (h.pending e (List.mem_of_getElem? he))
      fun _ _ _ _ _ _ _ _ => trivial)
  exact Resubscribing.Meets.called ((hkeeps _).after (h.start _)) fun x hx => h.pending x (List.mem_of_mem_eraseIdx hx)

end Detached

/-! ## A customer without one -/

def Linked (n : SubscriptionId) (workspaceId : WorkspaceId) (cleared : Bool) (orgs : Organizations) (_ : Uuid) : Prop :=
  (∃ o, orgs.find workspaceId = some o ∧ o.subscriptionId = some n ∧ (cleared = true → o.paymentOnHoldSince = none)) ∧
    ∀ o ∈ orgs.rows, o.subscriptionId = some n → o.id = workspaceId

/-- An event that does not cancel the subscription. -/
def Sparing (n : SubscriptionId) (e : DomainEvent) : Prop := e.ofMove ∧ ∀ method, e ≠ .subscriptionCancelled n method

def Announced (n : SubscriptionId) (events : List DomainEvent) : Prop :=
  ∃ w u method, .subscriptionCreated w u n method ∈ events

section Linked

variable {n : SubscriptionId} {workspaceId : WorkspaceId} {cleared : Bool} {k : Nat} {T : SubscriptionTables → Prop}
  {client : MarketplaceClient} {period : BillingPeriod} {aws : FixCloudAccountId → AwsAnswers}

theorem Linked.weaken {orgs : Organizations} {next : Uuid} (h : Linked n workspaceId true orgs next) :
    Linked n workspaceId cleared orgs next := by
  obtain ⟨⟨o, hfind, hlink, hhold⟩, hone⟩ := h
  exact ⟨⟨o, hfind, hlink, fun _ => hhold rfl⟩, hone⟩

theorem sparing_of_ofAccount (e : DomainEvent) (he : e.ofAccount) : Sparing n e := by
  refine ⟨ofMove_of_ofAccount e he, fun method h => ?_⟩
  subst h
  exact he.elim

theorem linked_replaceable : Replaceable (Linked n workspaceId cleared) fun o o' =>
    o'.subscriptionId = o.subscriptionId ∧
        (o'.paymentOnHoldSince = o.paymentOnHoldSince ∨ o'.paymentOnHoldSince = none) ∨
      o.id ≠ workspaceId ∧ (o'.subscriptionId = o.subscriptionId ∨ o'.subscriptionId = none) := by
  rintro orgs next o o' ⟨⟨o₀, hfind₀, hlink, hhold⟩, hone⟩ hfind hid hR
  constructor
  · by_cases hsame : o.id = workspaceId
    · subst hsame
      rw [hfind] at hfind₀
      cases hfind₀
      have hfind' : orgs.find o'.id = some o := hid ▸ hfind
      refine ⟨o', hid ▸ Table.find_replace_self hfind', ?_⟩
      rcases hR with ⟨hsub, hnot⟩ | ⟨hne, -⟩
      · refine ⟨hsub.trans hlink, fun hc => ?_⟩
        rcases hnot with hnot | hnot
        · exact hnot.trans (hhold hc)
        · exact hnot
      · exact absurd rfl hne
    · refine ⟨o₀, ?_, hlink, hhold⟩
      rw [Table.find_replace_of_ne orgs fun h => hsame (hid ▸ h.symm), hfind₀]
  · intro r hr hrlink
    rcases Table.mem_replace hr with hr | rfl
    · exact hone r hr hrlink
    · have hold : o.subscriptionId = some n := by
        rcases hR with ⟨hsub, -⟩ | ⟨-, hsub | hsub⟩
        · exact hsub ▸ hrlink
        · exact hsub ▸ hrlink
        · rw [hsub] at hrlink
          cases hrlink
      exact hid.trans (hone o (Table.mem_of_find hfind) hold)

theorem linked_event {e : DomainEvent} (he : e.ofMove) (hne : e.subscription ≠ some n) :
    Keeps (Announcing (Linked n workspaceId cleared) (Sparing n) k) (processDomainEvent aws e) := by
  refine meets_processDomainEvent sparing_of_ofAccount linked_replaceable (fun id => id ≠ workspaceId)
    (fun o since hid => Or.inr ⟨hid, Or.inl rfl⟩) (fun o hid => Or.inr ⟨hid, Or.inr rfl⟩) aws he ?_
  rintro x hx orgs next ⟨⟨o₀, hfind₀, hlink, -⟩, -⟩ o ho hox hid
  have hfind : orgs.find workspaceId = some o := (Table.find_eq_some_iff _ _ _).2 ⟨ho, hid⟩
  rw [hfind] at hfind₀
  cases hfind₀
  rw [hox] at hlink
  exact hne (hx.trans hlink)

theorem linked_clear : Triple (Announcing (Linked n workspaceId cleared) (Sparing n) k)
    (inOrganizations fun orgs => updatePaymentOnHold orgs workspaceId none)
    (fun _ => Announcing (Linked n workspaceId true) (Sparing n) k)
    (Announcing (Linked n workspaceId true) (Sparing n) k) := by
  apply Triple.of_exec
  intro w hw
  obtain ⟨⟨o, hfind, hlink, -⟩, hone⟩ := hw.organizations
  have hid := Table.key_of_find hfind
  rw [exec_inOrganizations]
  unfold updatePaymentOnHold changeOrganization
  rw [hfind]
  refine hw.of_world ⟨⟨{ o with paymentOnHoldSince := none }, ?_, hlink, fun _ => rfl⟩, fun r hr hrlink => ?_⟩ rfl
  · subst hid
    exact Table.find_replace_self (r := { o with paymentOnHoldSince := none }) hfind
  · rcases Table.mem_replace hr with hr | rfl
    · exact hone r hr hrlink
    · exact hid

/-- **The event of a subscription takes its workspace off hold.** -/
theorem linked_created : Triple (Announcing (Linked n workspaceId cleared) (Sparing n) k) (processSubscriptionCreated n)
    (fun _ => Announcing (Linked n workspaceId true) (Sparing n) k)
    (Announcing (Linked n workspaceId true) (Sparing n) k) := by
  have hI : AccountsMayChange (Announcing (Linked n workspaceId true) (Sparing n) k) :=
    accountsMayChange_announcing sparing_of_ofAccount
  refine Triple.get_bind fun w hw => ?_
  refine Triple.imp (P := Announcing (Linked n workspaceId cleared) (Sparing n) k) ?_ (fun w' hw' => hw' ▸ hw)
    (fun _ _ h => h) (fun _ h => h)
  have hids : ∀ workspace ∈ listWorkspacesBySubscriptionId w.organizations n, workspace.id = workspaceId := by
    intro workspace hmem
    obtain ⟨o, ho, hox, rfl⟩ := AccountsMayChange.mem_listWorkspacesBySubscriptionId hmem
    exact hw.organizations.2 o ho hox
  cases hlist : listWorkspacesBySubscriptionId w.organizations n with
  | nil =>
    obtain ⟨o, hfind, hlink, -⟩ := hw.organizations.1
    have hmem : o.toModel none ∈ listWorkspacesBySubscriptionId w.organizations n :=
      List.mem_map_of_mem (List.mem_filter.2 ⟨Table.mem_of_find hfind, decide_eq_true hlink⟩)
    rw [hlist] at hmem
    exact absurd hmem List.not_mem_nil
  | cons first rest =>
    rw [hlist] at hids
    have hresume : ∀ {c workspace}, workspace.id = workspaceId →
        Triple (Announcing (Linked n workspaceId c) (Sparing n) k) (resumeWorkspace workspace)
          (fun _ => Announcing (Linked n workspaceId true) (Sparing n) k)
          (Announcing (Linked n workspaceId true) (Sparing n) k) := fun hid =>
      AccountsMayChange.resumeWorkspace hI (hid ▸ linked_clear)
    exact Triple.bind (hresume (hids first List.mem_cons_self)) fun _ =>
      Keeps.forM rest fun workspace hmem => hresume (hids workspace (List.mem_cons_of_mem _ hmem))

def StoredFor (n : SubscriptionId) (userId : UserId) (customerIdentifier : String) (t : SubscriptionTables) : Prop :=
  ∃ e, t.subscriptions.find n = some e ∧ e.active = true ∧ e.userId = some userId ∧
    e.awsCustomerIdentifier = some customerIdentifier

theorem storedFor_create {s : AwsMarketplaceSubscription} {userId : UserId} {t₀ : SubscriptionTables}
    (hnew : t₀.subscriptions.find s.id = none) (hactive : s.active = true) (huser : s.userId = some userId) :
    Triple (fun t => t = t₀) (SubscriptionRepository.create (.awsMarketplace s))
      (fun r t => r = .awsMarketplace s ∧ StoredFor s.id userId s.customerIdentifier t) (fun _ => False) := by
  apply Triple.of_exec
  rintro t rfl
  rw [@SubscriptionRepository.exec_create_new (.awsMarketplace s) t hnew]
  refine ⟨rfl, SubscriptionEntity.fromModel (.awsMarketplace s), ?_, hactive, huser, rfl⟩
  exact Table.find_insert_self t.subscriptions (SubscriptionEntity.fromModel (.awsMarketplace s)) hnew

theorem linked_assign {orgs₀ : Organizations} {o : Organization} (ho : o ∈ orgs₀.rows) (hnone : o.subscriptionId = none)
    (hnew : ∀ r ∈ orgs₀.rows, r.subscriptionId ≠ some n) :
    Triple (Meets (fun orgs _ => orgs = orgs₀) T (Sparing n) k) (assign n (some (o.toModel none)))
      (fun _ => Meets (Linked n o.id false) T (Sparing n) k) (fun _ => False) := by
  have hfind : orgs₀.find o.id = some o := (Table.find_eq_some_iff _ _ _).2 ⟨ho, rfl⟩
  have hlink : Triple (Meets (fun orgs _ => orgs = orgs₀) T (Sparing n) k)
      (inWorld (inOrganizations fun orgs => updateSubscription orgs o.id (some n)))
      (fun _ => Meets (Linked n o.id false) T (Sparing n) k) (fun _ => False) := by
    apply Triple.of_exec
    rintro p ⟨hworld, htables⟩
    obtain rfl : p.world.organizations = orgs₀ := hworld.organizations
    rw [exec_inWorld, exec_inOrganizations]
    unfold updateSubscription changeOrganization
    rw [hfind]
    refine ⟨hworld.of_world ⟨⟨{ o with subscriptionId := some n }, ?_, rfl, fun h => nomatch h⟩,
      fun r hr hrlink => ?_⟩ rfl,
      htables⟩
    · exact Table.find_replace_self (r := { o with subscriptionId := some n }) hfind
    · rcases Table.mem_replace hr with hr | rfl
      · exact absurd hrlink (hnew r hr)
      · rfl
  have hkept : Replaceable (Linked n o.id false) LinkKept := fun orgs next r r' horgs hr hid h =>
    linked_replaceable orgs next r r' horgs hr hid (Or.inl ⟨h.1, Or.inl h.2⟩)
  unfold assign
  dsimp only
  rw [if_pos (show (o.toModel none).subscriptionId = none from hnone)]
  refine Triple.bind hlink fun _ => Triple.bind (meets_takePreferredTier hkept ?_ _) fun _ => Triple.pure _ fun _ h => h
  exact fun _ _ _ _ _ _ => ⟨trivial, nofun⟩

variable (period) in
/-- **A new subscription is stored and linked, and its creation announced.** -/
theorem linked_subscribe {p₀ : Payments} {b : SubscriptionId} (hb : MeetsBelow b p₀.world.published.length p₀)
    {o : Organization} (ho : o ∈ p₀.world.organizations.rows) (hnone : o.subscriptionId = none) (user : User)
    (customer : CustomerData) :
    let n := p₀.world.nextUuid
    let k := p₀.world.published.length
    Triple (fun p => p = p₀) (subscribe period user customer (some (o.toModel none)))
      (fun _ p => Meets (Linked n o.id false) (StoredFor n user.id customer.customerIdentifier) (Sparing n) k p ∧
        Announced n (p.world.published.drop k)) (fun _ => False) := by
  intro n k
  have hbn : b ≤ n := hb.world.organizations.1
  have hnolink : ∀ r ∈ p₀.world.organizations.rows, r.subscriptionId ≠ some n := fun r hr h =>
    Nat.lt_irrefl n (Nat.lt_of_lt_of_le (hb.world.organizations.2 r hr n h) hbn)
  have hnorow : p₀.tables.subscriptions.find n = none :=
    (Table.find_eq_none_iff _ _).2 fun e he h => Nat.lt_irrefl n (Nat.lt_of_lt_of_le (h ▸ hb.tables e he) hbn)
  have huuid : Triple (fun p => p = p₀) (inWorld uuid4)
      (fun id p => id = n ∧ Meets (fun orgs _ => orgs = p₀.world.organizations) (fun t => t = p₀.tables)
        (Sparing n) k p)
      (fun _ => False) := by
    apply Triple.of_exec
    rintro p rfl
    refine ⟨rfl, ⟨rfl, Nat.le_refl _, ?_⟩, rfl⟩
    intro e he
    rw [show (p.world.published.drop k) = [] from List.drop_length] at he
    exact absurd he List.not_mem_nil
  have hutc : ∀ {J : Organizations → Uuid → Prop} {T : SubscriptionTables → Prop} {Q : DomainEvent → Prop},
      Triple (Meets J T Q k) (inWorld utc) (fun _ => Meets J T Q k) (fun _ => False) := by
    intro J T Q
    apply Triple.of_exec
    exact fun p hp => ⟨hp.world.of_world hp.world.organizations rfl, hp.tables⟩
  refine Triple.bind huuid fun id => ?_
  intro p ⟨hid, hp⟩
  subst hid
  refine Triple.bind hutc (fun now => Triple.bind hutc fun periodStart => Triple.bind (Triple.imp (meets_inRepository
    (storedFor_create hnorow rfl rfl)) (fun _ h => h) (fun _ _ h => h) fun _ h => h.tables) fun r => ?_) p hp
  intro p ⟨hr, hp⟩
  subst hr
  refine Triple.bind (linked_assign ho hnone hnolink) (fun assigned => Triple.bind
    (R := fun _ p => Meets (Linked n o.id false) (StoredFor n user.id customer.customerIdentifier) (Sparing n) k p ∧
        Announced n (p.world.published.drop k)) ?_ fun _ => Triple.pure _ fun _ h => h) p hp
  apply Triple.of_exec
  intro p hp
  refine ⟨⟨hp.world.append ⟨trivial, nofun⟩, hp.tables⟩, some o.id, user.id, .awsMarketplace, ?_⟩
  change _ ∈ (p.world.published ++ [_]).drop k
  rw [List.drop_append_of_le_length hp.world.known]
  exact List.mem_append_right _ (List.mem_singleton_self _)

/-- The workspace is linked to the stored subscription, and taken off hold or to be taken off hold. -/
structure Resubscribing.Restoring (n : SubscriptionId) (workspaceId : WorkspaceId) (T : SubscriptionTables → Prop)
    (s : Resubscribing) : Prop where
  linked : s.Meets (Linked n workspaceId false) T (Sparing n)
  cleared : s.Meets (Linked n workspaceId true) T (Sparing n) ∨ Announced n s.pending

theorem restoring_event {s s' : Resubscribing} {i : Nat} (h : s.Restoring n workspaceId T)
    (hstep : s.step client period aws (.event i) = some s') : s'.Restoring n workspaceId T := by
  obtain ⟨e, he, rfl⟩ := Option.map_eq_some_iff.1 hstep
  obtain ⟨hmove, hspare⟩ := h.linked.pending e (List.mem_of_getElem? he)
  have hrest : ∀ x ∈ s.pending.eraseIdx i, Sparing n x := fun x hx => h.linked.pending x (List.mem_of_mem_eraseIdx hx)
  by_cases hcreated : ∃ w u method, e = .subscriptionCreated w u n method
  · obtain ⟨w, u, method, rfl⟩ := hcreated
    have hclears : Fix.Meets (Linked n workspaceId true) T (Sparing n) s.payments.world.published.length
        (exec (inWorld (processDomainEvent aws (.subscriptionCreated w u n method))) s.payments).2 :=
      Triple.after (meets_inWorld linked_created) (h.linked.start (Sparing n))
    have hmeets := Resubscribing.Meets.called hclears hrest
    exact ⟨⟨hmeets.organizations.weaken, hmeets.tables, hmeets.pending⟩, Or.inl hmeets⟩
  · have hne : e.subscription ≠ some n := by
      intro hx
      cases e with
      | subscriptionCancelled x method =>
        cases hx
        exact hspare method rfl
      | subscriptionCreated w u x method =>
        cases hx
        exact hcreated ⟨w, u, method, rfl⟩
      | _ => cases hx
    have hkeeps : ∀ c, Keeps (Fix.Meets (Linked n workspaceId c) T (Sparing n) s.payments.world.published.length)
        (inWorld (processDomainEvent aws e)) := fun c => meets_inWorld (linked_event hmove hne)
    refine ⟨Resubscribing.Meets.called ((hkeeps false).after (h.linked.start _)) hrest, ?_⟩
    rcases h.cleared with hcleared | ⟨w, u, method, hmem⟩
    · exact Or.inl (Resubscribing.Meets.called ((hkeeps true).after (hcleared.start _)) hrest)
    · right
      obtain ⟨j, hj⟩ := List.mem_iff_getElem?.1 hmem
      refine ⟨w, u, method, List.mem_append_left _ (List.mem_eraseIdx_iff_getElem?.2 ⟨j, ?_, hj⟩)⟩
      rintro rfl
      rw [he] at hj
      cases hj
      exact hcreated ⟨w, u, method, rfl⟩

end Linked

def CustomerMove.IsEvent (m : CustomerMove) : Prop := ∃ i, m = .event i

theorem mem_listAssignableWorkspaces {orgs : Organizations} {user : User} {workspace : Workspace}
    (h : workspace ∈ listAssignableWorkspaces orgs user) : ∃ o ∈ orgs.rows, workspace = o.toModel none := by
  obtain ⟨o, ho, rfl⟩ := List.mem_map.1 (List.mem_of_mem_filter h)
  exact ⟨o, List.mem_of_mem_filter ho, rfl⟩

theorem NextIdIsNew.earlier {p : Payments} (h : NextIdIsNew p) : Resubscribing.Earlier ⟨p, []⟩ :=
  ⟨p.world.nextUuid, ⟨Nat.le_refl _, h.links⟩, h.subscriptions, fun _ he => absurd he List.not_mem_nil⟩

theorem run_events {client : MarketplaceClient} {period : BillingPeriod} {aws : FixCloudAccountId → AwsAnswers}
    {I : Resubscribing → Prop}
    (hI : ∀ s i s', I s → s.step client period aws (.event i) = some s' → I s') {events : List CustomerMove}
    {s s' : Resubscribing} (hevents : ∀ m ∈ events, m.IsEvent) (hs : I s)
    (hrun : run (Resubscribing.step client period aws) s events = some s') : I s' := by
  refine run_along (C := fun _ m => m.IsEvent) ?_ hs (along_of_forall hevents s) hrun
  rintro s m s' hs ⟨i, rfl⟩ hstep
  exact hI s i s' hs hstep

theorem exec_subscribed_new {client : MarketplaceClient} {period : BillingPeriod} {user : User} {token : String}
    {customer : CustomerData} {p : Payments} (htoken : client.resolveCustomer token = .ok customer)
    (hnot : ¬ p.tables.Subscribed user.id customer.customerIdentifier) :
    exec (subscribed client period user token) p =
      exec (subscribe period user customer (onlyWorkspace (listAssignableWorkspaces p.world.organizations user)))
        p := by
  have hrows : p.tables.subscriptions.rows.filter (fun e =>
      decide (e.awsCustomerIdentifier = some customer.customerIdentifier ∧ e.userId = some user.id)) = [] :=
    List.filter_eq_nil_iff.2 fun e he h => hnot ⟨e, he, of_decide_eq_true h⟩
  unfold subscribed
  rw [exec_bind, exec_lift, htoken]
  dsimp only
  rw [exec_bind, exec_get]
  dsimp only
  rw [exec_bind, SubscriptionRepository.awsMarketplaceSubscription, exec_inRepository_reading, hrows]
  rfl

/-- **In every history, the subscription of a user who can assign subscriptions in one workspace, which has none,
restores the workspace exactly when no subscription of the user and customer is stored.** -/
theorem subscribed_restores_iff (client : MarketplaceClient) (period : BillingPeriod)
    (aws : FixCloudAccountId → AwsAnswers) (p₀ : Payments) (hnew : NextIdIsNew p₀) (history events : List CustomerMove)
    (s s' : Resubscribing) (user : User) (token : String) (customer : CustomerData) (workspace : Workspace)
    (hhistory : run (Resubscribing.step client period aws) ⟨p₀, []⟩ history = some s)
    (htoken : client.resolveCustomer token = .ok customer)
    (hone : listAssignableWorkspaces s.payments.world.organizations user = [workspace])
    (hnone : workspace.subscriptionId = none)
    (hevents : ∀ m ∈ events, m.IsEvent)
    (hrun : run (Resubscribing.step client period aws) s (.subscribed user token :: events) = some s')
    (hhandled : s'.pending = []) :
    s'.payments.Restored workspace.id user.id customer.customerIdentifier ↔
      ¬ s.payments.tables.Subscribed user.id customer.customerIdentifier := by
  obtain ⟨b, hearlier⟩ : s.Earlier := run_keeps earlier_step hnew.earlier hhistory
  obtain ⟨o, ho, rfl⟩ := mem_listAssignableWorkspaces (hone ▸ List.mem_singleton_self workspace)
  obtain ⟨s₁, hfirst, hrun⟩ := run_cons.1 hrun
  cases hfirst
  constructor
  · -- a stored subscription leaves the workspace without one, and so does every event
    rintro ⟨o', sid, e, hfind, -, hlink, -⟩ hsubscribed
    have hstart : s.Meets (Detached o.id) (·.Subscribed user.id customer.customerIdentifier) DomainEvent.ofMove := by
      refine ⟨fun r hr hid => ?_, hsubscribed, fun e he => (hearlier.pending e he).1⟩
      rw [List.inj_on_of_nodup_map s.payments.world.organizations.unique hr ho hid]
      exact hnone
    have hcalled := Resubscribing.Meets.called
      ((detached_subscribed period htoken).after (hstart.start _)) hstart.pending
    have hend := run_events (fun _ _ _ hs hstep => detached_event hs hstep) hevents hcalled hrun
    rw [hend.organizations o' (Table.mem_of_find hfind) (Table.key_of_find hfind)] at hlink
    cases hlink
  · -- the new subscription is linked, and its event takes the workspace off hold
    intro hnot
    have hsubscribe := Triple.after (I := fun p => Meets (Linked s.payments.world.nextUuid o.id false)
        (StoredFor s.payments.world.nextUuid user.id customer.customerIdentifier) (Sparing s.payments.world.nextUuid)
        s.payments.world.published.length p ∧
        Announced s.payments.world.nextUuid (p.world.published.drop s.payments.world.published.length))
      (Triple.imp (linked_subscribe period (hearlier.start _) ho hnone user customer) (fun _ h => h)
        (fun _ _ h => h) fun _ h => h.elim) (s := s.payments) rfl
    have honly : onlyWorkspace (listAssignableWorkspaces s.payments.world.organizations user) =
        some (o.toModel none) := by
      rw [hone]
      rfl
    rw [← honly, ← exec_subscribed_new htoken hnot] at hsubscribe
    obtain ⟨hmeets, w, u, method, hannounced⟩ := hsubscribe
    have hsparing : ∀ e ∈ s.pending, Sparing s.payments.world.nextUuid e := by
      refine fun e he => ⟨(hearlier.pending e he).1, fun method h => ?_⟩
      have hbelow := (hearlier.pending e he).2 s.payments.world.nextUuid (by rw [h]; rfl)
      exact Nat.lt_irrefl _ (Nat.lt_of_lt_of_le hbelow hearlier.organizations.1)
    have hcalled := Resubscribing.Meets.called hmeets hsparing
    have hend := run_events (fun _ _ _ hs hstep => restoring_event hs hstep) hevents
      ⟨hcalled, Or.inr ⟨w, u, method, List.mem_append_right _ hannounced⟩⟩ hrun
    rcases hend.cleared with hcleared | ⟨w, u, method, hmem⟩
    · obtain ⟨⟨o', hfind, hlink, hhold⟩, -⟩ := hcleared.organizations
      obtain ⟨e, he, hactive, huser, hcustomer⟩ := hcleared.tables
      exact ⟨o', s.payments.world.nextUuid, e, hfind, hhold rfl, hlink, he, hactive, huser, hcustomer⟩
    · rw [hhandled] at hmem
      exact absurd hmem List.not_mem_nil


/-! ## Two owners of one workspace -/

def ownerOf (id : UserId) : User := ⟨id, "", true, true, [⟨id, 1, IntFlag.mask Role.workspaceOwner⟩], none⟩

def sharedPayments : Payments :=
  { marchPayments with
    world := { marchPayments.world with
      organizations := ⟨[{ plusOrganization 1 with members := [11, 12] }], by decide⟩ } }

abbrev sharedStep := Resubscribing.step acceptingClient .month fun _ => ⟨.success, none, [], none⟩

/-- The first owner's subscription is cancelled, and both events of it are handled. -/
def cancelMoves : List CustomerMove := [.message ⟨some "unsubscribe-pending", some "customer"⟩, .event 0, .event 0]

def cancelled : Resubscribing := (run sharedStep ⟨sharedPayments, []⟩ cancelMoves).get (by decide +kernel)

def cancelledWorkspace : Workspace := (getWorkspace cancelled.payments.world.organizations 1).get (by decide +kernel)

def resubscribed (id : UserId) (events : List CustomerMove) (h : (run sharedStep cancelled
    (.subscribed (ownerOf id) "token" :: events)).isSome = true) : Resubscribing :=
  (run sharedStep cancelled (.subscribed (ownerOf id) "token" :: events)).get h

theorem subscribed_restores_iff_shared :
    (resubscribed 12 [.event 0] (by decide +kernel)).payments.Restored cancelledWorkspace.id 12 "customer" ↔
      ¬ cancelled.payments.tables.Subscribed 12 "customer" :=
  subscribed_restores_iff acceptingClient .month (fun _ => ⟨.success, none, [], none⟩) sharedPayments
    ⟨by decide, by decide⟩ cancelMoves [.event 0] cancelled
      (resubscribed 12 [.event 0] (by decide +kernel)) (ownerOf 12)
    "token" ⟨"product", "customer", "123456789012"⟩ cancelledWorkspace (Option.some_get _).symm rfl (by decide +kernel)
    (by decide +kernel) (fun m hm => ⟨0, List.mem_singleton.1 hm⟩) (Option.some_get _).symm (by decide +kernel)

/-- The owner whose subscription is stored gets it back, and the workspace stays without one and on hold. -/
theorem resubscribed_not_restored :
    run sharedStep ⟨sharedPayments, []⟩ cancelMoves = some cancelled ∧
      listAssignableWorkspaces cancelled.payments.world.organizations (ownerOf 11) = [cancelledWorkspace] ∧
      cancelledWorkspace.subscriptionId = none ∧
      run sharedStep cancelled [.subscribed (ownerOf 11) "token"] = some (resubscribed 11 [] (by decide +kernel)) ∧
      (resubscribed 11 [] (by decide +kernel)).pending = [] ∧
      ¬ (resubscribed 11 [] (by decide +kernel)).payments.Restored cancelledWorkspace.id 11 "customer" := by
  refine ⟨(Option.some_get _).symm, by decide +kernel, by decide +kernel,
    (Option.some_get _).symm, by decide +kernel, ?_⟩
  rintro ⟨o, sid, e, hfind, hhold, -⟩
  have honhold : ∀ o ∈ (resubscribed 11 [] (by decide +kernel)).payments.world.organizations.find cancelledWorkspace.id,
      o.paymentOnHoldSince ≠ none := by
    decide +kernel
  exact honhold o hfind hhold

end Fix
