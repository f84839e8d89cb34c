import FixBackend.Cancellation
import FixBackend.DomainEvents
import FixBackend.Stripe
import FixBackend.UnreportedEntries
/-!
# StripeRedelivery — the deletion of a Stripe subscription, delivered until it succeeds

`_stripe_subscription_cancelled` deletes a row and publishes the cancellation, one matching row after another.  Stripe
delivers the event again when the handling has failed, and so does the stream with the published events.  The handling
is taken apart at its awaits, where it may fail.
-/
namespace Fix

open Calendar Effects Machine

namespace StripeRedelivery

/-- The handling of `customer.subscription.deleted` at one of its awaits; it waits for the next delivery at first and
when it has failed. -/
inductive DeliveryPc where
  | waits
  | next (rows : List (Except Err SubscriptionMethod))
  | deleted (s : SubscriptionMethod) (rest : List (Except Err SubscriptionMethod))
  | succeeded
deriving DecidableEq

/-- Each handler is under the subscription whose cancellation it handles. -/
structure Redelivery where
  payments : Payments
  main : DeliveryPc
  handlers : List (SubscriptionId × HandlerPc)

inductive Move where
  | main
  | fails
  | handler (i : Nat)
  | handlerFails (i : Nat)
deriving DecidableEq

def matching (p : Payments) (sid : StripeSubscriptionId) : List SubscriptionEntity :=
  p.tables.subscriptions.rows.filter (SubscriptionFilter.selects { stripeSubscriptionIdentifier := some sid })

def mainStep (sid : StripeSubscriptionId) (p : Payments) : DeliveryPc → Option (DeliveryPc × Payments)
  | .waits => some (.next ((matching p sid).map (·.toModel)), p)
  | .next [] => some (.succeeded, p)
  | .next (.error _ :: _) => some (.waits, p)
  | .next (.ok s :: rest) =>
    some (awaits (inRepository (SubscriptionRepository.deleteSubscriptions s.id)) (fun _ => .waits)
      (fun _ => .deleted s rest) p)
  | .deleted s rest =>
    some (awaits (inWorld (publish (.subscriptionCancelled s.id .stripe))) (fun _ => .waits) (fun _ => .next rest) p)
  | .succeeded => none

def DeliveryPc.publishes : DeliveryPc → List (SubscriptionId × HandlerPc)
  | .deleted s _ => [(s.id, .start s.id)]
  | _ => []

def step (sid : StripeSubscriptionId) (s : Redelivery) : Move → Option Redelivery
  | .main => (mainStep sid s.payments s.main).map fun (pc, p) => ⟨p, pc, s.handlers ++ s.main.publishes⟩
  | .fails =>
    match s.main with
    | .next _ | .deleted _ _ => some { s with main := .waits }
    | .waits | .succeeded => none
  | .handler i =>
    match s.handlers[i]? with
    | none => none
    | some (id, h) => (handlerStep s.payments.world h).map fun (h', w) =>
      { s with payments := { s.payments with world := w }, handlers := s.handlers.set i (id, h') }
  | .handlerFails i =>
    match s.handlers[i]? with
    | none | some (_, .ended (.ok _)) => none
    | some (id, _) => some { s with handlers := s.handlers.set i (id, .start id) }

def begin (p : Payments) : Redelivery := ⟨p, .waits, []⟩

/-- The event is handled, and so are the published ones. -/
def Redelivery.Done (s : Redelivery) : Prop :=
  s.main = .succeeded ∧ ∀ h ∈ s.handlers, h.2 = .ended (.ok ⟨⟩)

instance decidableHandled : ∀ h : HandlerPc, Decidable (h = .ended (.ok ⟨⟩))
  | .ended (.ok _) => .isTrue rfl
  | .ended (.error _) | .start _ | .hold _ | .clear _ _ | .disable _ _ => .isFalse fun h => by cases h

/-- What one undisturbed delivery leads to. -/
structure Outcome (p : Payments) (sid : StripeSubscriptionId) (s : Redelivery) : Prop where
  gone : ∀ e ∈ matching p sid, s.payments.tables.subscriptions.find e.id = none
  published : ∀ e ∈ matching p sid, .subscriptionCancelled e.id .stripe ∈ s.payments.world.published
  detached : ∀ e ∈ matching p sid, ∀ o ∈ p.world.organizations.rows, o.subscriptionId = some e.id →
    ∃ o', s.payments.world.organizations.find o.id = some o' ∧ o'.subscriptionId = none ∧ o'.paymentOnHoldSince.isSome

/-- The handling does not fail between the deletion of a row and the event about it. -/
def FailsElsewhere (s : Redelivery) (move : Move) : Prop :=
  match move, s.main with
  | .fails, .deleted _ _ => False
  | _, _ => True

instance decidableFailsElsewhere (s : Redelivery) (move : Move) : Decidable (FailsElsewhere s move) := by
  unfold FailsElsewhere
  split <;> infer_instance

/-! ## The moves of an undisturbed delivery -/

theorem exec_deleteSubscriptions (id : SubscriptionId) (p : Payments) :
    exec (inRepository (SubscriptionRepository.deleteSubscriptions id)) p =
      (.ok (p.tables.subscriptions.count fun e => decide (e.id = id)),
        { p with tables := { p.tables with
            subscriptions := p.tables.subscriptions.deleteWhere fun e => decide (e.id = id) } }) := by
  rw [exec_inRepository]
  rfl

theorem exec_publish (event : DomainEvent) (p : Payments) :
    exec (inWorld (publish event)) p =
      (.ok ⟨⟩, { p with world := { p.world with published := p.world.published ++ [event] } }) := by
  rw [exec_inWorld]
  rfl

/-- Where the loop of the handling ends. -/
def DeliveryPc.afterLoop : Except Err PUnit → DeliveryPc
  | .ok _ => .succeeded
  | .error _ => .waits

theorem run_rows (sid : StripeSubscriptionId) : ∀ (rows : List (Except Err SubscriptionMethod)) (p : Payments)
    (handlers : List (SubscriptionId × HandlerPc)), ∃ n handlers',
      run (step sid) ⟨p, .next rows, handlers⟩ (List.replicate n .main) =
        some ⟨(exec (rows.forM fun x => lift x >>= StripeServiceImpl.deleteSubscription) p).2,
          .afterLoop (exec (rows.forM fun x => lift x >>= StripeServiceImpl.deleteSubscription) p).1, handlers'⟩
  | [], p, handlers => ⟨1, handlers ++ [], rfl⟩
  | .error e :: rest, p, handlers => by
    refine ⟨1, handlers ++ [], ?_⟩
    rw [forM_cons, exec_bind, exec_bind, exec_lift]
    rfl
  | .ok s :: rest, p, handlers => by
    obtain ⟨n, handlers', hrun⟩ := run_rows sid rest _ _
    refine ⟨n + 2, handlers', ?_⟩
    rw [forM_cons, exec_bind, exec_bind, exec_lift]
    dsimp only
    rw [StripeServiceImpl.deleteSubscription, exec_bind, exec_deleteSubscriptions]
    dsimp only
    rw [exec_publish]
    exact hrun

/-- **The moves of a delivery that nothing disturbs are the handling of the event.** -/
theorem run_main (sid : StripeSubscriptionId) (p : Payments) : ∃ n handlers,
    run (step sid) (begin p) (List.replicate n .main) =
      some ⟨(exec (StripeServiceImpl.stripeSubscriptionCancelled sid) p).2,
        .afterLoop (exec (StripeServiceImpl.stripeSubscriptionCancelled sid) p).1, handlers⟩ := by
  unfold StripeServiceImpl.stripeSubscriptionCancelled
  rw [exec_bind, SubscriptionRepository.subscriptions, exec_inRepository_reading]
  obtain ⟨n, handlers, hrun⟩ := run_rows sid ((matching p sid).map (·.toModel)) p ([] ++ [])
  exact ⟨n + 1, handlers, hrun⟩

/-! ## What the handlers do to the workspaces -/

/-- A workspace keeps its subscription, or is detached and on hold; a hold stays. -/
structure Detaches (o o' : Organization) : Prop where
  subscription : o'.subscriptionId = o.subscriptionId ∨ o'.subscriptionId = none ∧ o'.paymentOnHoldSince.isSome
  onHold : o.paymentOnHoldSince.isSome → o'.paymentOnHoldSince.isSome

theorem Detaches.refl (o : Organization) : Detaches o o := ⟨.inl rfl, id⟩

theorem Detaches.trans {o₁ o₂ o₃ : Organization} (h : Detaches o₁ o₂) (h' : Detaches o₂ o₃) : Detaches o₁ o₃ := by
  refine ⟨?_, h'.onHold ∘ h.onHold⟩
  rcases h'.subscription with hsame | hdetached
  · rcases h.subscription with hsame' | ⟨hnone, hhold⟩
    · exact .inl (hsame.trans hsame')
    · exact .inr ⟨hsame.trans hnone, h'.onHold hhold⟩
  · exact .inr hdetached

/-- No workspace comes or goes, and each one may be detached. -/
structure DetachesAll (orgs orgs' : Organizations) : Prop where
  stays : ∀ id o, orgs.find id = some o → ∃ o', orgs'.find id = some o' ∧ Detaches o o'
  comes : ∀ id o', orgs'.find id = some o' → ∃ o, orgs.find id = some o ∧ Detaches o o'

theorem DetachesAll.refl (orgs : Organizations) : DetachesAll orgs orgs :=
  ⟨fun _ o h => ⟨o, h, .refl o⟩, fun _ o h => ⟨o, h, .refl o⟩⟩

theorem DetachesAll.trans {orgs₁ orgs₂ orgs₃ : Organizations} (h : DetachesAll orgs₁ orgs₂)
    (h' : DetachesAll orgs₂ orgs₃) : DetachesAll orgs₁ orgs₃ := by
  constructor
  · intro id o₁ h₁
    obtain ⟨o₂, h₂, hd⟩ := h.stays id o₁ h₁
    obtain ⟨o₃, h₃, hd'⟩ := h'.stays id o₂ h₂
    exact ⟨o₃, h₃, hd.trans hd'⟩
  · intro id o₃ h₃
    obtain ⟨o₂, h₂, hd'⟩ := h'.comes id o₃ h₃
    obtain ⟨o₁, h₁, hd⟩ := h.comes id o₂ h₂
    exact ⟨o₁, h₁, hd.trans hd'⟩

theorem detachesAll_replace {orgs : Organizations} {o o' : Organization} (hfind : orgs.find o'.id = some o)
    (h : Detaches o o') : DetachesAll orgs (orgs.replace o') := by
  have hother : ∀ id, id ≠ o'.id → (orgs.replace o').find id = orgs.find id := fun id hid => orgs.find_replace_of_ne hid
  have hself : (orgs.replace o').find o'.id = some o' := Table.find_replace_self hfind
  constructor
  · intro id x hx
    by_cases hid : id = o'.id
    · subst hid
      cases hx.symm.trans hfind
      exact ⟨o', hself, h⟩
    · exact ⟨x, (hother id hid).trans hx, .refl x⟩
  · intro id x hx
    by_cases hid : id = o'.id
    · subst hid
      cases hx.symm.trans hself
      exact ⟨o, hfind, h⟩
    · exact ⟨x, (hother id hid).symm.trans hx, .refl x⟩

/-- What a call of a handler may do: the published events stay published. -/
structure Handles (w w' : World) : Prop where
  organizations : DetachesAll w.organizations w'.organizations
  published : ∀ e ∈ w.published, e ∈ w'.published

theorem Handles.refl (w : World) : Handles w w := ⟨.refl _, fun _ h => h⟩

def OnHold (orgs : Organizations) (workspaceId : WorkspaceId) : Prop :=
  ∀ o, orgs.find workspaceId = some o → o.paymentOnHoldSince.isSome

theorem OnHold.detachesAll {orgs orgs' : Organizations} {workspaceId : WorkspaceId} (h : OnHold orgs workspaceId)
    (hd : DetachesAll orgs orgs') : OnHold orgs' workspaceId := by
  intro o' ho'
  obtain ⟨o, ho, hdetaches⟩ := hd.comes workspaceId o' ho'
  exact hdetaches.onHold (h o ho)

theorem handles_change {workspaceId : WorkspaceId} {f : Organization → Organization} (hid : ∀ o, (f o).id = o.id)
    {w w' : World} {x : Except Err Workspace}
    (hf : ∀ o, w.organizations.find workspaceId = some o → Detaches o (f o))
    (hexec : exec (inOrganizations fun orgs => changeOrganization orgs workspaceId f) w = (x, w')) :
    Handles w w' ∧ ∀ a, x = .ok a → ∃ o, w'.organizations.find workspaceId = some (f o) := by
  rw [exec_inOrganizations] at hexec
  unfold changeOrganization at hexec
  cases hfind : w.organizations.find workspaceId with
  | none =>
    simp only [hfind, Prod.mk.injEq] at hexec
    obtain ⟨rfl, rfl⟩ := hexec
    exact ⟨.refl w, fun a ha => by cases ha⟩
  | some o =>
    simp only [hfind, Prod.mk.injEq] at hexec
    obtain ⟨rfl, rfl⟩ := hexec
    have hkey : (f o).id = workspaceId := (hid o).trans (Table.key_of_find hfind)
    have hfind' : w.organizations.find (f o).id = some o := hkey ▸ hfind
    refine ⟨⟨detachesAll_replace hfind' (hf o hfind), fun _ h => h⟩, fun _ _ => ⟨o, ?_⟩⟩
    rw [← hkey]
    exact Table.find_replace_self hfind'

theorem handles_holdPayment {workspaceId : WorkspaceId} {w w' : World} {x : Except Err PUnit}
    (hexec : exec (holdPayment workspaceId) w = (x, w')) :
    Handles w w' ∧ ∀ u, x = .ok u → OnHold w'.organizations workspaceId := by
  unfold holdPayment at hexec
  rw [exec_bind, Fix.utc, exec_modifyGet] at hexec
  dsimp only at hexec
  rw [exec_bind] at hexec
  rcases hchange : exec (inOrganizations fun orgs => updatePaymentOnHold orgs workspaceId (some (w.clock w.ticks)))
    { w with ticks := w.ticks + 1 } with ⟨y, w₁⟩
  obtain ⟨hhandles, hrow⟩ := handles_change (f := fun o => { o with paymentOnHoldSince := some (w.clock w.ticks) })
    (fun _ => rfl) (fun _ _ => ⟨.inl rfl, fun _ => rfl⟩) hchange
  rw [hchange] at hexec
  cases y with
  | error e =>
    cases hexec
    exact ⟨⟨hhandles.organizations, hhandles.published⟩, fun u hu => by cases hu⟩
  | ok a =>
    cases hexec
    refine ⟨⟨hhandles.organizations, hhandles.published⟩, fun u _ o ho => ?_⟩
    obtain ⟨o', ho'⟩ := hrow a rfl
    cases ho.symm.trans ho'
    rfl

theorem handles_removeSubscription {workspaceId : WorkspaceId} {w w' : World} {x : Except Err PUnit}
    (hhold : OnHold w.organizations workspaceId) (hexec : exec (removeSubscription workspaceId) w = (x, w')) :
    Handles w w' ∧ ∀ u, x = .ok u → ∀ o, w'.organizations.find workspaceId = some o → o.subscriptionId = none := by
  unfold removeSubscription at hexec
  rw [exec_bind] at hexec
  rcases hchange : exec (inOrganizations fun orgs => updateSubscription orgs workspaceId none) w with ⟨y, w₁⟩
  obtain ⟨hhandles, hrow⟩ := handles_change (f := fun o => { o with subscriptionId := none }) (fun _ => rfl)
    (fun o ho => ⟨.inr ⟨rfl, hhold o ho⟩, id⟩) hchange
  rw [hchange] at hexec
  cases y with
  | error e =>
    cases hexec
    exact ⟨hhandles, fun u hu => by cases hu⟩
  | ok a =>
    cases hexec
    refine ⟨hhandles, fun u _ o ho => ?_⟩
    obtain ⟨o', ho'⟩ := hrow a rfl
    cases ho.symm.trans ho'
    rfl

theorem handles_disableCloudAccounts (workspaceId : WorkspaceId) (keepEnabled : Nat) (w : World) :
    Handles w (exec (disableCloudAccounts workspaceId keepEnabled) w).2 := by
  have hI : AccountsMayChange fun w' => w'.organizations = w.organizations ∧ ∀ e ∈ w.published, e ∈ w'.published := by
    refine ⟨fun w₁ w₂ horgs hpublished _ h => ⟨horgs.trans h.1, fun e he => hpublished ▸ h.2 e he⟩, fun w₁ e _ h => ?_⟩
    exact ⟨h.1, fun e' he' => List.mem_append_left _ (h.2 e' he')⟩
  have hafter := Keeps.after (hI.disableCloudAccounts workspaceId keepEnabled) ⟨rfl, fun _ h => h⟩
  exact ⟨hafter.1 ▸ DetachesAll.refl _, hafter.2⟩

/-! ## What a handler has still to do -/

def Lists (orgs : Organizations) (subscriptionId : SubscriptionId) (workspaces : List Workspace) : Prop :=
  ∀ id o, orgs.find id = some o → o.subscriptionId = some subscriptionId → ∃ workspace ∈ workspaces, workspace.id = id

theorem Lists.detachesAll {orgs orgs' : Organizations} {subscriptionId : SubscriptionId} {workspaces : List Workspace}
    (h : Lists orgs subscriptionId workspaces) (hd : DetachesAll orgs orgs') :
    Lists orgs' subscriptionId workspaces := by
  intro id o' ho' hsub
  obtain ⟨o, ho, hdetaches⟩ := hd.comes id o' ho'
  refine h id o ho ?_
  rcases hdetaches.subscription with hsame | ⟨hnone, _⟩
  · exact hsame.symm.trans hsub
  · cases hnone.symm.trans hsub

theorem lists_listWorkspacesBySubscriptionId (orgs : Organizations) (subscriptionId : SubscriptionId) :
    Lists orgs subscriptionId (listWorkspacesBySubscriptionId orgs subscriptionId) := by
  intro id o ho hsub
  have hmem : o ∈ orgs.rows.filter fun o => o.subscriptionId = some subscriptionId :=
    List.mem_filter.2 ⟨Table.mem_of_find ho, by simpa using hsub⟩
  have hkey : o.id = id := Table.key_of_find ho
  exact ⟨o.toModel none, List.mem_map_of_mem hmem, hkey⟩

def HandlerOk (orgs : Organizations) (subscriptionId : SubscriptionId) : HandlerPc → Prop
  | .start other => other = subscriptionId
  | .hold rest => Lists orgs subscriptionId rest
  | .clear workspace rest => OnHold orgs workspace.id ∧ Lists orgs subscriptionId (workspace :: rest)
  | .disable _ rest => Lists orgs subscriptionId rest
  | .ended (.ok _) => Lists orgs subscriptionId []
  | .ended (.error _) => True

theorem HandlerOk.detachesAll {orgs orgs' : Organizations} {subscriptionId : SubscriptionId} {pc : HandlerPc}
    (h : HandlerOk orgs subscriptionId pc) (hd : DetachesAll orgs orgs') : HandlerOk orgs' subscriptionId pc := by
  cases pc with
  | start other => exact h
  | hold rest => exact Lists.detachesAll h hd
  | clear workspace rest => exact ⟨h.1.detachesAll hd, h.2.detachesAll hd⟩
  | disable workspace rest => exact Lists.detachesAll h hd
  | ended result =>
    cases result with
    | ok u => exact Lists.detachesAll h hd
    | error e => trivial

/-- **A step of a handler** does its part, whatever has become of the other workspaces. -/
theorem handlerStep_ok {w w' : World} {subscriptionId : SubscriptionId} {pc pc' : HandlerPc}
    (h : HandlerOk w.organizations subscriptionId pc) (hstep : handlerStep w pc = some (pc', w')) :
    Handles w w' ∧ HandlerOk w'.organizations subscriptionId pc' := by
  cases pc with
  | start other =>
    cases hstep
    cases (show other = subscriptionId from h)
    exact ⟨.refl w, lists_listWorkspacesBySubscriptionId _ _⟩
  | hold rest =>
    cases rest with
    | nil =>
      cases hstep
      exact ⟨.refl w, h⟩
    | cons workspace rest =>
      rcases hexec : exec (holdPayment workspace.id) w with ⟨x, w₁⟩
      obtain ⟨hhandles, hhold⟩ := handles_holdPayment hexec
      rw [handlerStep, awaits, hexec] at hstep
      cases x with
      | error e =>
        cases hstep
        exact ⟨hhandles, trivial⟩
      | ok u =>
        cases hstep
        exact ⟨hhandles, hhold u rfl, Lists.detachesAll h hhandles.organizations⟩
  | clear workspace rest =>
    rcases hexec : exec (removeSubscription workspace.id) w with ⟨x, w₁⟩
    obtain ⟨hhandles, hnone⟩ := handles_removeSubscription h.1 hexec
    rw [handlerStep, awaits, hexec] at hstep
    cases x with
    | error e =>
      cases hstep
      exact ⟨hhandles, trivial⟩
    | ok u =>
      cases hstep
      refine ⟨hhandles, fun id o ho hsub => ?_⟩
      obtain ⟨listed, hlisted, rfl⟩ := Lists.detachesAll h.2 hhandles.organizations id o ho hsub
      rcases List.mem_cons.1 hlisted with rfl | hrest
      · cases (hnone u rfl o ho).symm.trans hsub
      · exact ⟨listed, hrest, rfl⟩
  | disable workspace rest =>
    have hhandles := handles_disableCloudAccounts workspace.id freeAccountLimit w
    rcases hexec : exec (disableCloudAccounts workspace.id freeAccountLimit) w with ⟨x, w₁⟩
    rw [handlerStep, awaits, hexec] at hstep
    rw [hexec] at hhandles
    cases x with
    | error e =>
      cases hstep
      exact ⟨hhandles, trivial⟩
    | ok u =>
      cases hstep
      exact ⟨hhandles, Lists.detachesAll h hhandles.organizations⟩
  | ended result => cases hstep

/-! ## What the deliveries keep -/

/-- The rows that are left are still to come. -/
def DeliveryPc.Covers (left : List SubscriptionEntity) : DeliveryPc → Prop
  | .waits => True
  | .next rows | .deleted _ rows => ∀ e ∈ left, e.toModel ∈ rows
  | .succeeded => left = []

structure Told (s : Redelivery) (subscriptionId : SubscriptionId) : Prop where
  published : .subscriptionCancelled subscriptionId .stripe ∈ s.payments.world.published
  handled : ∃ h ∈ s.handlers, h.1 = subscriptionId

/-- A row that matched at first is there, or its event is about to be published, or it is published. -/
def Accounted (s : Redelivery) (e : SubscriptionEntity) : Prop :=
  e ∈ s.payments.tables.subscriptions.rows ∨ (∃ x rest, s.main = .deleted x rest ∧ x.id = e.id) ∨ Told s e.id

structure Progress (p : Payments) (sid : StripeSubscriptionId) (s : Redelivery) : Prop where
  organizations : DetachesAll p.world.organizations s.payments.world.organizations
  rows : ∀ e ∈ s.payments.tables.subscriptions.rows, e ∈ p.tables.subscriptions.rows
  accounted : ∀ e ∈ matching p sid, Accounted s e
  covers : s.main.Covers (matching s.payments sid)
  handlers : ∀ h ∈ s.handlers, HandlerOk s.payments.world.organizations h.1 h.2

section Steps

variable {p : Payments} {sid : StripeSubscriptionId} {s s' : Redelivery}

theorem progress_begin (p : Payments) (sid : StripeSubscriptionId) : Progress p sid (begin p) where
  organizations := .refl _
  rows := fun _ he => he
  accounted := fun _ he => .inl (List.mem_of_mem_filter he)
  covers := trivial
  handlers := fun _ hh => absurd hh List.not_mem_nil

theorem Progress.goes (h : Progress p sid s) (hmain : ∀ x rest, s.main ≠ .deleted x rest) {pc : DeliveryPc}
    (hcovers : pc.Covers (matching s.payments sid)) : Progress p sid { s with main := pc } := by
  refine ⟨h.organizations, h.rows, fun e he => ?_, hcovers, h.handlers⟩
  rcases h.accounted e he with hrow | ⟨x, rest, hdeleted, _⟩ | htold
  · exact .inl hrow
  · exact absurd hdeleted (hmain x rest)
  · exact .inr (.inr ⟨htold.published, htold.handled⟩)

theorem Progress.deletes (h : Progress p sid s) {x : SubscriptionMethod} {rest : List (Except Err SubscriptionMethod)}
    (hmain : s.main = .next (.ok x :: rest)) :
    Progress p sid
      { s with
        main := .deleted x rest
        payments := (exec (inRepository (SubscriptionRepository.deleteSubscriptions x.id)) s.payments).2 } := by
  rw [exec_deleteSubscriptions]
  have hleft : ∀ e, e ∈ (s.payments.tables.subscriptions.deleteWhere fun e => decide (e.id = x.id)).rows ↔
      e ∈ s.payments.tables.subscriptions.rows ∧ e.id ≠ x.id := fun e => by
    unfold Table.deleteWhere
    simp
  constructor
  · exact h.organizations
  · exact fun e he => h.rows e ((hleft e).1 he).1
  · intro e he
    rcases h.accounted e he with hrow | ⟨y, rest', hdeleted, _⟩ | htold
    · by_cases hid : e.id = x.id
      · exact .inr (.inl ⟨x, rest, rfl, hid.symm⟩)
      · exact .inl ((hleft e).2 ⟨hrow, hid⟩)
    · cases hmain.symm.trans hdeleted
    · exact .inr (.inr ⟨htold.published, htold.handled⟩)
  · intro e he
    obtain ⟨hrow, hselects⟩ := List.mem_filter.1 he
    obtain ⟨hrow, hid⟩ := (hleft e).1 hrow
    have hcovers := h.covers
    rw [hmain] at hcovers
    rcases List.mem_cons.1 (hcovers e (List.mem_filter.2 ⟨hrow, hselects⟩)) with hhead | hrest
    · exact absurd (SubscriptionEntity.toModel_ok hhead).1.symm hid
    · exact hrest
  · exact h.handlers

theorem Progress.publishes (h : Progress p sid s) {x : SubscriptionMethod} {rest : List (Except Err SubscriptionMethod)}
    (hmain : s.main = .deleted x rest) :
    Progress p sid
      ⟨(exec (inWorld (publish (.subscriptionCancelled x.id .stripe))) s.payments).2, .next rest,
        s.handlers ++ [(x.id, .start x.id)]⟩ := by
  rw [exec_publish]
  constructor
  · exact h.organizations
  · exact h.rows
  · intro e he
    rcases h.accounted e he with hrow | ⟨y, rest', hdeleted, hid⟩ | ⟨hpublished, handler, hmem, hid⟩
    · exact .inl hrow
    · cases hmain.symm.trans hdeleted
      refine .inr (.inr ⟨?_, _, List.mem_append_right _ (List.mem_singleton_self _), hid⟩)
      rw [← hid]
      exact List.mem_append_right _ (List.mem_singleton_self _)
    · exact .inr (.inr ⟨List.mem_append_left _ hpublished, handler, List.mem_append_left _ hmem, hid⟩)
  · have hcovers := h.covers
    rw [hmain] at hcovers
    exact hcovers
  · intro handler hmem
    rcases List.mem_append.1 hmem with hmem | hmem
    · exact h.handlers handler hmem
    · rw [List.mem_singleton.1 hmem]
      rfl

theorem Progress.handles (h : Progress p sid s) {i : Nat} {id : SubscriptionId} {pc pc' : HandlerPc} {w : World}
    (hi : s.handlers[i]? = some (id, pc)) (hw : Handles s.payments.world w) (hpc : HandlerOk w.organizations id pc') :
    Progress p sid { s with payments := { s.payments with world := w }, handlers := s.handlers.set i (id, pc') } := by
  constructor
  · exact h.organizations.trans hw.organizations
  · exact h.rows
  · intro e he
    rcases h.accounted e he with hrow | hdeleted | ⟨hpublished, handler, hmem, hid⟩
    · exact .inl hrow
    · exact .inr (.inl hdeleted)
    · refine .inr (.inr ⟨hw.published _ hpublished, ?_⟩)
      obtain ⟨hlt, hget⟩ := List.getElem?_eq_some_iff.1 hi
      have hfst : (s.handlers.set i (id, pc')).map Prod.fst = s.handlers.map Prod.fst := by
        have hlt' : i < (s.handlers.map Prod.fst).length := by rwa [List.length_map]
        have hid : id = (s.handlers.map Prod.fst)[i] := by simp [hget]
        rw [List.map_set, hid]
        exact List.set_getElem_self _
      have hmem' : e.id ∈ (s.handlers.set i (id, pc')).map Prod.fst := by
        rw [hfst, ← hid]
        exact List.mem_map_of_mem hmem
      exact List.mem_map.1 hmem'
  · exact h.covers
  · intro handler hmem
    rcases List.mem_or_eq_of_mem_set hmem with hold | rfl
    · exact (h.handlers handler hold).detachesAll hw.organizations
    · exact hpc

theorem Progress.moves (h : Progress p sid s) {pc : DeliveryPc} (hmain : ∀ x rest, s.main ≠ .deleted x rest)
    (hcovers : pc.Covers (matching s.payments sid)) :
    Progress p sid ⟨s.payments, pc, s.handlers ++ s.main.publishes⟩ := by
  have hnone : s.main.publishes = [] := by
    cases hpc : s.main with
    | deleted x rest => exact absurd hpc (hmain x rest)
    | waits | next rows | succeeded => rfl
  rw [hnone, List.append_nil]
  exact h.goes hmain hcovers

theorem progress_main (h : Progress p sid s) (hstep : step sid s .main = some s') : Progress p sid s' := by
  obtain ⟨⟨pc, p'⟩, hmain, rfl⟩ := Option.map_eq_some_iff.1 hstep
  cases hpc : s.main with
  | waits =>
    rw [hpc] at hmain
    cases hmain
    rw [← hpc]
    exact h.moves (fun x rest hdeleted => by cases hpc.symm.trans hdeleted) fun e he => List.mem_map_of_mem he
  | next rows =>
    rw [hpc] at hmain
    rw [← hpc]
    have hnot : ∀ x rest, s.main ≠ .deleted x rest := fun x rest hdeleted => by cases hpc.symm.trans hdeleted
    have hcovers := h.covers
    rw [hpc] at hcovers
    cases rows with
    | nil =>
      cases hmain
      exact h.moves hnot (List.eq_nil_iff_forall_not_mem.2 fun e he => List.not_mem_nil (hcovers e he))
    | cons row rest =>
      cases row with
      | error e =>
        cases hmain
        exact h.moves hnot trivial
      | ok x =>
        have hdeletes := h.deletes hpc
        rw [mainStep, awaits, exec_deleteSubscriptions] at hmain
        cases hmain
        rw [exec_deleteSubscriptions] at hdeletes
        rw [hpc]
        exact (List.append_nil s.handlers).symm ▸ hdeletes
  | deleted x rest =>
    have hpublishes := h.publishes hpc
    rw [hpc, mainStep, awaits, exec_publish] at hmain
    cases hmain
    rw [exec_publish] at hpublishes
    exact hpublishes
  | succeeded =>
    rw [hpc] at hmain
    cases hmain

/-- **Each step keeps the progress**, when the handling fails elsewhere. -/
theorem progress_step (s : Redelivery) (move : Move) (s' : Redelivery) (h : Progress p sid s)
    (hC : FailsElsewhere s move) (hstep : step sid s move = some s') : Progress p sid s' := by
  cases move with
  | main => exact progress_main h hstep
  | fails =>
    cases hpc : s.main with
    | next rows =>
      rw [step, hpc] at hstep
      cases hstep
      exact h.goes (fun x rest hdeleted => by cases hpc.symm.trans hdeleted) trivial
    | deleted x rest =>
      simp only [FailsElsewhere, hpc] at hC
    | waits | succeeded =>
      rw [step, hpc] at hstep
      cases hstep
  | handler i =>
    rw [step] at hstep
    cases hi : s.handlers[i]? with
    | none =>
      rw [hi] at hstep
      cases hstep
    | some handler =>
      obtain ⟨id, pc⟩ := handler
      rw [hi] at hstep
      obtain ⟨⟨pc', w⟩, hhandler, rfl⟩ := Option.map_eq_some_iff.1 hstep
      obtain ⟨hw, hpc⟩ := handlerStep_ok (h.handlers _ (List.mem_of_getElem? hi)) hhandler
      exact h.handles hi hw hpc
  | handlerFails i =>
    rw [step] at hstep
    split at hstep
    · cases hstep
    · cases hstep
    · rename_i id pc _ hi
      cases hstep
      exact h.handles hi (.refl _) rfl

theorem Progress.gone (h : Progress p sid s) (hmain : s.main = .succeeded) {e : SubscriptionEntity}
    (he : e ∈ matching p sid) : e ∉ s.payments.tables.subscriptions.rows := by
  intro hrow
  have hcovers := h.covers
  rw [hmain] at hcovers
  have hmem : e ∈ matching s.payments sid := List.mem_filter.2 ⟨hrow, (List.mem_filter.1 he).2⟩
  rw [show matching s.payments sid = [] from hcovers] at hmem
  cases hmem

theorem Progress.told (h : Progress p sid s) (hmain : s.main = .succeeded) {e : SubscriptionEntity}
    (he : e ∈ matching p sid) : Told s e.id := by
  rcases h.accounted e he with hrow | ⟨x, rest, hdeleted, _⟩ | htold
  · exact absurd hrow (h.gone hmain he)
  · cases hmain.symm.trans hdeleted
  · exact htold

theorem Progress.outcome (h : Progress p sid s) (hdone : s.Done) : Outcome p sid s := by
  obtain ⟨hmain, hended⟩ := hdone
  constructor
  · intro e he
    refine (Table.find_eq_none_iff _ _).2 fun r hr hkey => h.gone hmain he ?_
    have hmem : e ∈ p.tables.subscriptions.rows := List.mem_of_mem_filter he
    have hunique := List.inj_on_of_nodup_map p.tables.subscriptions.unique (h.rows r hr) hmem hkey
    exact hunique ▸ hr
  · exact fun e he => (h.told hmain he).published
  · intro e he o ho hsub
    obtain ⟨handler, hmem, hid⟩ := (h.told hmain he).handled
    have hlists : Lists s.payments.world.organizations e.id [] := by
      have hok := h.handlers handler hmem
      rw [hended handler hmem, hid] at hok
      exact hok
    obtain ⟨o', ho', hdetaches⟩ := h.organizations.stays o.id o ((Table.find_eq_some_iff _ _ _).2 ⟨ho, rfl⟩)
    refine ⟨o', ho', ?_⟩
    rcases hdetaches.subscription with hsame | hdetached
    · obtain ⟨workspace, hnone, _⟩ := hlists o.id o' ho' (hsame.trans hsub)
      cases hnone
    · exact hdetached

end Steps

/-- **A redelivered deletion comes to the outcome of one delivery**: no failure falls between the deletion of a row and
its event. -/
theorem outcome_of_failsElsewhere (p : Payments) (sid : StripeSubscriptionId) (moves : List Move) (s : Redelivery)
    (hC : Along (step sid) FailsElsewhere (begin p) moves) (hrun : run (step sid) (begin p) moves = some s)
    (hdone : s.Done) : Outcome p sid s :=
  (run_along progress_step (progress_begin p sid) hC hrun).outcome hdone

/-- The handler fails once, and so does the handling, after the event. -/
def disturbedMoves : List Move :=
  [.main, .main, .main, .handler 0, .handler 0, .handlerFails 0, .fails, .main, .main, .handler 0, .handler 0,
    .handler 0, .handler 0, .handler 0]

def disturbed : Redelivery := (run (step "sub") (begin stripePayments) disturbedMoves).get (by decide +kernel)

theorem disturbed_done : disturbed.Done := by
  constructor <;> decide +kernel

theorem disturbed_outcome : disturbed.Done ∧ Outcome stripePayments "sub" disturbed :=
  ⟨disturbed_done, outcome_of_failsElsewhere stripePayments "sub" disturbedMoves disturbed (by decide +kernel)
    (Option.some_get _).symm disturbed_done⟩

def lostMoves : List Move := [.main, .main, .fails, .main, .main]

def lost : Redelivery := (run (step "sub") (begin stripePayments) lostMoves).get (by decide +kernel)

/-- The row is deleted, the handling fails, and the next delivery finds no row: the workspace keeps the subscription. -/
theorem deletion_without_event : run (step "sub") (begin stripePayments) lostMoves = some lost ∧ lost.Done ∧
    stripeRow ∈ matching stripePayments "sub" ∧ lost.payments.tables.subscriptions.find stripeRow.id = none ∧
    (∃ o ∈ lost.payments.world.organizations.rows, o.subscriptionId = some stripeRow.id ∧ o.paymentOnHoldSince = none) ∧
    ¬ Outcome stripePayments "sub" lost := by
  refine ⟨(Option.some_get _).symm, ⟨by decide +kernel, by decide +kernel⟩, by decide +kernel, by decide +kernel,
    by decide +kernel, fun h => ?_⟩
  have hpublished : lost.payments.world.published = [] := by decide +kernel
  have hmem := h.published stripeRow (by decide +kernel)
  rw [hpublished] at hmem
  cases hmem

end StripeRedelivery

end Fix
