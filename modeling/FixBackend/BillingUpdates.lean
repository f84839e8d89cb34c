import FixBackend.Marketplace
/-!
# BillingUpdates — the tier and the payment method of a workspace are changed

`update_billing` reads the clock, the payment methods and the number of accounts, checks its arguments, and then writes
the payment method and the tier, one after the other.
-/
namespace Fix

open Calendar Effects

def Payments.ticked (p : Payments) (n : Nat) : Payments :=
  { p with world := { p.world with ticks := p.world.ticks + n } }

namespace BillingEntryService

/-! ## What is read -/

def currentMethod (t : SubscriptionTables) (workspace : Workspace) : Except Err PaymentMethod :=
  match workspace.subscriptionId with
  | none => .ok .noPaymentMethod
  | some subscriptionId =>
    match Fix.getSubscription t.subscriptions subscriptionId with
    | .error e => .error e
    | .ok none => .ok .noPaymentMethod
    | .ok (some subscription) => .ok (if subscription.active then subscription.paymentMethod else .noPaymentMethod)

def listed (t : SubscriptionTables) (f : SubscriptionFilter) : Except Err (List SubscriptionMethod) :=
  ((t.subscriptions.rows.filter f.selects).map (·.toModel)).mapM id

def ofUser (userId : Option UserId) : SubscriptionFilter := { userId := userId, active := some true }

def ofWorkspace (workspace : Workspace) : SubscriptionFilter :=
  { stripeWorkspaceId := some workspace.id, active := some true }

/-- What `getPaymentMethods` returns, `now` and `later` being its readings of the clock. -/
def paymentMethods (t : SubscriptionTables) (workspace : Workspace) (userId : Option UserId) (now later : DateTime) :
    Except Err WorkspacePaymentMethods := do
  let current ← currentMethod t workspace
  let user ← listed t (ofUser userId)
  let own ← listed t (ofWorkspace workspace)
  let without : List PaymentMethod :=
    if workspace.currentProductTier now = .free ∨ workspace.currentProductTier later = .trial then [.noPaymentMethod]
    else []
  return ⟨current, without ++ (user.filter (·.isAws)).map (·.paymentMethod) ++
    (own.filter (!·.isAws)).map (·.paymentMethod)⟩

theorem exec_utc (p : Payments) : exec (inWorld utc) p = (.ok (p.world.clock p.world.ticks), p.ticked 1) := rfl

theorem exec_currentPaymentMethod (workspace : Workspace) (p : Payments) :
    exec (currentPaymentMethod workspace) p = (currentMethod p.tables workspace, p) := by
  unfold currentPaymentMethod currentMethod
  cases workspace.subscriptionId with
  | none => rfl
  | some subscriptionId =>
    dsimp only
    rw [exec_bind, SubscriptionRepository.getSubscription, exec_inRepository_reading]
    rcases Fix.getSubscription p.tables.subscriptions subscriptionId with e | _ | subscription
    · rfl
    · rfl
    · dsimp only
      by_cases hactive : subscription.active = true
      · rw [if_pos hactive, if_pos hactive]
        rfl
      · rw [if_neg hactive, if_neg hactive]
        rfl

theorem exec_allSubscriptions (f : SubscriptionFilter) (p : Payments) :
    exec (allSubscriptions f) p = (listed p.tables f, p) := by
  unfold allSubscriptions
  rw [exec_bind, SubscriptionRepository.subscriptions, exec_inRepository_reading]
  exact exec_lift _ _

theorem exec_getPaymentMethods (workspace : Workspace) (userId : Option UserId) (p : Payments) :
    exec (getPaymentMethods workspace userId) p =
      (paymentMethods p.tables workspace userId (p.world.clock p.world.ticks) (p.world.clock (p.world.ticks + 1)),
        p.ticked 2) := by
  have huser : ({ userId := userId, active := some true } : SubscriptionFilter) = ofUser userId := rfl
  have hown : ({ stripeWorkspaceId := some workspace.id, active := some true } : SubscriptionFilter) =
    ofWorkspace workspace := rfl
  have htables : ((p.ticked 1).ticked 1).tables = p.tables := rfl
  unfold getPaymentMethods paymentMethods
  rw [exec_bind, exec_utc]
  dsimp only
  rw [exec_bind, exec_utc]
  dsimp only
  rw [exec_bind, exec_currentPaymentMethod, htables]
  cases currentMethod p.tables workspace with
  | error e => rfl
  | ok current =>
    dsimp only
    rw [exec_bind, exec_allSubscriptions, htables, huser]
    cases listed p.tables (ofUser userId) with
    | error e => rfl
    | ok user =>
      dsimp only
      rw [exec_bind, exec_allSubscriptions, htables, hown]
      cases listed p.tables (ofWorkspace workspace) <;> rfl

/-! ## What is checked -/

/-- The number of accounts that is compared with the limit of a tier. -/
def numberOfAccounts (p : Payments) (workspace : Workspace) : Nat :=
  p.world.accounts.count fun r => decide (r.tenantId = workspace.id) && CloudAccountRepository.nonDeleted r

def checked (p : Payments) (userId : Option UserId) (workspace : Workspace) (newProductTier : Option ProductTier)
    (newPaymentMethod : Option PaymentMethod) : Except Err WorkspacePaymentMethods := do
  let methods ← paymentMethods p.tables workspace userId (p.world.clock (p.world.ticks + 1))
    (p.world.clock (p.world.ticks + 2))
  newProductTier.forM fun tier => validateProductTier workspace (numberOfAccounts p workspace) tier
  newPaymentMethod.forM fun method => validatePaymentMethod methods method
  return methods

def write (userId : Option UserId) (workspace : Workspace) (currentTier : ProductTier)
    (methods : WorkspacePaymentMethods)
    (newProductTier : Option ProductTier) (newPaymentMethod : Option PaymentMethod) : PaymentService Workspace := do
  let workspace ← whenGiven newPaymentMethod workspace (updatePaymentMethod workspace methods)
  whenGiven newProductTier workspace (updateProductTier userId workspace currentTier)

theorem exec_forM_lift {α : Type} (o : Option α) (f : α → Except Err PUnit) (p : Payments) :
    exec (o.forM fun a => lift (f a) : PaymentService PUnit) p = (o.forM f, p) := by
  cases o with
  | none => rfl
  | some a => exact exec_lift _ _

theorem exec_updateBilling (userId : Option UserId) (workspace : Workspace) (tier : Option ProductTier)
    (method : Option PaymentMethod) (p : Payments) :
    exec (updateBilling userId workspace tier method) p =
      match checked p userId workspace tier method with
      | .error e => (.error e, p.ticked 3)
      | .ok methods => exec (write userId workspace (workspace.currentProductTier (p.world.clock p.world.ticks)) methods
          tier method) (p.ticked 3) := by
  unfold updateBilling checked
  rw [exec_bind, exec_utc]
  dsimp only
  rw [exec_bind, exec_getPaymentMethods]
  have hticked : (p.ticked 1).ticked 2 = p.ticked 3 := rfl
  rw [hticked]
  cases hmethods : paymentMethods p.tables workspace userId (p.world.clock (p.world.ticks + 1))
      (p.world.clock (p.world.ticks + 2)) with
  | error e =>
    have hread : paymentMethods (p.ticked 1).tables workspace userId ((p.ticked 1).world.clock (p.ticked 1).world.ticks)
      ((p.ticked 1).world.clock ((p.ticked 1).world.ticks + 1)) = .error e := hmethods
    rw [hread]
    rfl
  | ok methods =>
    have hread : paymentMethods (p.ticked 1).tables workspace userId ((p.ticked 1).world.clock (p.ticked 1).world.ticks)
      ((p.ticked 1).world.clock ((p.ticked 1).world.ticks + 1)) = .ok methods := hmethods
    rw [hread]
    dsimp only
    have hcount : exec (inWorld (CloudAccountRepository.countByWorkspaceId workspace.id false true)) (p.ticked 3) =
      (.ok (numberOfAccounts p workspace), p.ticked 3) := by
      rw [exec_inWorld, CloudAccountRepository.exec_countByWorkspaceId]
      simp only [numberOfAccounts, Payments.ticked, Bool.not_false, Bool.not_true, Bool.true_or, Bool.false_or,
        Bool.and_true]
    rw [exec_bind, hcount]
    dsimp only
    rw [exec_bind, exec_forM_lift]
    cases tier.forM fun tier => validateProductTier workspace (numberOfAccounts p workspace) tier with
    | error e => rfl
    | ok u =>
      dsimp only
      rw [exec_bind, exec_forM_lift]
      cases hmethod : method.forM fun method => validatePaymentMethod methods method with
      | error e =>
        simp only [bind, Except.bind, hmethod]
      | ok u =>
        simp only [bind, Except.bind, hmethod]
        rfl

/-! ## What is written -/

def subscriptionOf : PaymentMethod → Option SubscriptionId
  | .awsSubscription sid | .stripeSubscription sid => some sid
  | .noPaymentMethod => none

def withOrganization (p : Payments) (o : Organization) : Payments :=
  { p with world := { p.world with organizations := p.world.organizations.replace o } }

theorem exec_updatePaymentMethod_current (workspace : Workspace) (methods : WorkspacePaymentMethods) (p : Payments) :
    exec (updatePaymentMethod workspace methods methods.current) p = (.ok workspace, p) := by
  unfold updatePaymentMethod
  rw [if_pos rfl]
  rfl

theorem exec_updatePaymentMethod_none {workspace : Workspace} {methods : WorkspacePaymentMethods}
    (h : .noPaymentMethod ≠ methods.current) (p : Payments) :
    exec (updatePaymentMethod workspace methods .noPaymentMethod) p =
      (.error (.notAllowed "downgrade_not_allowed"), p) := by
  unfold updatePaymentMethod
  rw [if_neg h]
  rfl

/-- **Another subscription is written to the stored row.** -/
theorem exec_updatePaymentMethod_other {workspace : Workspace} {methods : WorkspacePaymentMethods} {m : PaymentMethod}
    {sid : SubscriptionId} (hm : subscriptionOf m = some sid) (h : m ≠ methods.current) (p : Payments) :
    exec (updatePaymentMethod workspace methods m) p =
      match p.world.organizations.find workspace.id with
      | none => (.error (.resourceNotFound s!"Organization {workspace.id} does not exist."), p)
      | some o => (.ok ({ o with subscriptionId := some sid }.toModel none),
          withOrganization p { o with subscriptionId := some sid }) := by
  have hwrites : updatePaymentMethod workspace methods m =
      inWorld (inOrganizations fun orgs => updateSubscription orgs workspace.id (some sid)) := by
    unfold updatePaymentMethod
    rw [if_neg h]
    cases m <;> cases hm <;> rfl
  rw [hwrites, exec_inWorld, exec_inOrganizations]
  unfold updateSubscription changeOrganization
  cases p.world.organizations.find workspace.id <;> rfl

theorem exec_updateProductTier_same (userId : Option UserId) (workspace : Workspace) (tier : ProductTier)
    (p : Payments) : exec (updateProductTier userId workspace tier tier) p = (.ok workspace, p) := by
  unfold updateProductTier
  rw [if_pos rfl]
  rfl

/-- **Another tier is written to the stored row**, unless it is refused. -/
theorem exec_updateProductTier_other (userId : Option UserId) (workspace : Workspace) {currentTier tier : ProductTier}
    (h : tier ≠ currentTier) (p : Payments) :
    exec (updateProductTier userId workspace currentTier tier) p =
      match Fix.updateProductTier p.world.organizations workspace.id tier (p.world.clock p.world.ticks) with
      | .error e => (.error e, p.ticked 1)
      | .ok (updated, orgs) => (.ok updated,
          { p with world := { p.world with
              organizations := orgs
              ticks := p.world.ticks + 1
              published := p.world.published ++ [.productTierChanged workspace.id (userId.getD workspace.ownerId) tier
                tier.paid (decide (currentTier < tier)) currentTier] } }) := by
  unfold updateProductTier
  rw [if_neg h, exec_bind, exec_utc]
  dsimp only
  rw [exec_bind, exec_inWorld, exec_inOrganizations]
  have horgs : (p.ticked 1).world.organizations = p.world.organizations := rfl
  rw [horgs]
  rcases Fix.updateProductTier p.world.organizations workspace.id tier
    (p.world.clock p.world.ticks) with e | ⟨updated, orgs⟩
  <;> rfl

theorem updateProductTier_linked {orgs : Organizations} {workspaceId : WorkspaceId} {o : Organization}
    (hfind : orgs.find workspaceId = some o) (hlink : o.subscriptionId.isSome) (tier : ProductTier) (now : DateTime) :
    ∃ updated orgs', Fix.updateProductTier orgs workspaceId tier now = .ok (updated, orgs') := by
  obtain ⟨o', hsel, hid, -⟩ := Organization.selectTier_ok hlink tier now
  obtain ⟨orgs', hupdate, -⟩ := updateProductTier_ok hfind hsel hid
  exact ⟨_, orgs', hupdate⟩

theorem find_withOrganization {p : Payments} {workspaceId : WorkspaceId} {o o' : Organization}
    (hfind : p.world.organizations.find workspaceId = some o) (hid : o'.id = o.id) :
    (withOrganization p o').world.organizations.find workspaceId = some o' := by
  have hkey : o'.id = workspaceId := hid.trans (Table.key_of_find hfind)
  subst hkey
  exact Table.find_replace_self hfind

/-- **What writing the payment method does**: nothing for the current one; else it is refused, or the stored row is
linked to the subscription. -/
theorem updatePaymentMethod_cases (workspace : Workspace) (methods : WorkspacePaymentMethods) (m : PaymentMethod)
    (p : Payments) :
    (m = methods.current ∧ exec (updatePaymentMethod workspace methods m) p = (.ok workspace, p)) ∨
    (m ≠ methods.current ∧ ∃ e, exec (updatePaymentMethod workspace methods m) p = (.error e, p)) ∨
    ∃ sid o, m ≠ methods.current ∧ subscriptionOf m = some sid ∧ o.id = workspace.id ∧
      p.world.organizations.find workspace.id = some o ∧
      exec (updatePaymentMethod workspace methods m) p = (.ok ({ o with subscriptionId := some sid }.toModel none),
        withOrganization p { o with subscriptionId := some sid }) := by
  by_cases hcurrent : m = methods.current
  · subst hcurrent
    exact .inl ⟨rfl, exec_updatePaymentMethod_current workspace methods p⟩
  · right
    cases hm : subscriptionOf m with
    | none =>
      have hnone : m = .noPaymentMethod := by cases m <;> first | rfl | cases hm
      subst hnone
      exact .inl ⟨hcurrent, _, exec_updatePaymentMethod_none hcurrent p⟩
    | some sid =>
      have hexec := @exec_updatePaymentMethod_other workspace methods m sid hm hcurrent p
      cases hfind : p.world.organizations.find workspace.id with
      | none =>
        rw [hfind] at hexec
        exact .inl ⟨hcurrent, _, hexec⟩
      | some o =>
        rw [hfind] at hexec
        exact .inr ⟨sid, o, hcurrent, rfl, Table.key_of_find hfind, rfl, hexec⟩

/-- **What writing the tier does**: nothing for the tier in force; else it is refused, or the stored row selects it. -/
theorem updateProductTier_cases (userId : Option UserId) (workspace : Workspace) (currentTier tier : ProductTier)
    (p : Payments) :
    (tier = currentTier ∧ exec (updateProductTier userId workspace currentTier tier) p = (.ok workspace, p)) ∨
    (tier ≠ currentTier ∧ ∃ e, exec (updateProductTier userId workspace currentTier tier) p = (.error e, p.ticked 1)) ∨
    ∃ o o' p', tier ≠ currentTier ∧ p.world.organizations.find workspace.id = some o ∧
      o.selectTier tier (p.world.clock p.world.ticks) = .ok o' ∧ p'.world.organizations.find workspace.id = some o' ∧
      exec (updateProductTier userId workspace currentTier tier) p = (.ok (o'.toModel none), p') := by
  by_cases hsame : tier = currentTier
  · subst hsame
    exact .inl ⟨rfl, exec_updateProductTier_same userId workspace tier p⟩
  · right
    have hexec := exec_updateProductTier_other userId workspace hsame p
    cases hfind : p.world.organizations.find workspace.id with
    | none =>
      simp only [Fix.updateProductTier, hfind] at hexec
      exact .inl ⟨hsame, _, hexec⟩
    | some o =>
      cases hsel : o.selectTier tier (p.world.clock p.world.ticks) with
      | error e =>
        simp only [Fix.updateProductTier, hfind, hsel] at hexec
        exact .inl ⟨hsame, _, hexec⟩
      | ok o' =>
        obtain ⟨orgs, hupdate, hafter, -⟩ := updateProductTier_ok hfind hsel (Organization.selectTier_keeps hsel).1
        rw [hupdate] at hexec
        exact .inr ⟨o, o', _, hsame, rfl, hsel, hafter, hexec⟩

/-- After another payment method is written, the tier is not refused. -/
theorem exec_updateProductTier_linked (userId : Option UserId) {workspace : Workspace} {p : Payments} {o : Organization}
    (hfind : p.world.organizations.find workspace.id = some o) (hlink : o.subscriptionId.isSome)
    (currentTier tier : ProductTier) :
    ∃ updated p', exec (updateProductTier userId workspace currentTier tier) p = (.ok updated, p') := by
  by_cases h : tier = currentTier
  · subst h
    exact ⟨_, _, exec_updateProductTier_same userId workspace tier p⟩
  · obtain ⟨updated, orgs, hupdate⟩ := updateProductTier_linked hfind hlink tier (p.world.clock p.world.ticks)
    rw [exec_updateProductTier_other userId workspace h, hupdate]
    exact ⟨_, _, rfl⟩

theorem updateProductTier_refused {userId : Option UserId} {workspace : Workspace} {currentTier tier : ProductTier}
    {p p' : Payments} {e : Err} (h : exec (updateProductTier userId workspace currentTier tier) p = (.error e, p')) :
    p' = p.ticked 1 := by
  rcases updateProductTier_cases userId workspace currentTier tier p with
    ⟨-, hexec⟩ | ⟨-, e', hexec⟩ | ⟨o, o', q, -, -, -, -, hexec⟩
  · cases hexec.symm.trans h
  · cases hexec.symm.trans h
    rfl
  · cases hexec.symm.trans h

/-- **The writes are done together or not at all.** -/
theorem write_refused {userId : Option UserId} {workspace : Workspace} {currentTier : ProductTier}
    {methods : WorkspacePaymentMethods} {tier : Option ProductTier} {method : Option PaymentMethod} {p p' : Payments}
    {e : Err} (h : exec (write userId workspace currentTier methods tier method) p = (.error e, p')) :
    ∃ n, p' = p.ticked n := by
  have htier : exec (whenGiven tier workspace (updateProductTier userId workspace currentTier)) p = (.error e, p') →
      ∃ n, p' = p.ticked n := by
    intro hrefused
    cases tier with
    | none => cases hrefused
    | some tier => exact ⟨1, updateProductTier_refused hrefused⟩
  unfold write at h
  rw [exec_bind] at h
  cases method with
  | none => exact htier h
  | some m =>
    dsimp only [whenGiven] at h
    rcases updatePaymentMethod_cases workspace methods m p with
      ⟨-, hexec⟩ | ⟨-, e', hexec⟩ | ⟨sid, o, -, -, hid, hfind, hexec⟩
    · rw [hexec] at h
      exact htier h
    · rw [hexec] at h
      cases h
      exact ⟨0, rfl⟩
    · -- the row is linked now, so the tier cannot be refused any more
      rw [hexec] at h
      cases tier with
      | none => cases h
      | some tier =>
        let linked : Organization := { o with subscriptionId := some sid }
        have hlinked : (withOrganization p linked).world.organizations.find (linked.toModel none).id = some linked :=
          find_withOrganization (hid ▸ hfind : p.world.organizations.find o.id = some o) rfl
        obtain ⟨updated, p'', hok⟩ := exec_updateProductTier_linked userId hlinked rfl currentTier tier
        dsimp only [whenGiven] at h
        rw [hok] at h
        cases h

/-- **`update_billing` is all or nothing**: when it raises, only the clock has been read. -/
theorem updateBilling_all_or_nothing {userId : Option UserId} {workspace : Workspace} {tier : Option ProductTier}
    {method : Option PaymentMethod} {p p' : Payments} {e : Err}
    (h : exec (updateBilling userId workspace tier method) p = (.error e, p')) :
    p' = { p with world := { p.world with ticks := p'.world.ticks } } := by
  rw [exec_updateBilling] at h
  cases hchecked : checked p userId workspace tier method with
  | error e' =>
    rw [hchecked] at h
    cases h
    rfl
  | ok methods =>
    rw [hchecked] at h
    obtain ⟨n, rfl⟩ := write_refused h
    rfl

/-- A workspace without a subscription is refused a paid tier. -/
def unlinkedPayments : Payments :=
  { marchPayments with
    world := { marchPayments.world with
      organizations := ⟨[{ plusOrganization 1 with subscriptionId := none }], by decide⟩ } }

theorem updateBilling_all_or_nothing_unlinked :
    (exec (updateBilling (some 11) ({ plusOrganization 1 with subscriptionId := none }.toModel none)
      (some .business) none)
      unlinkedPayments).2 =
    { unlinkedPayments with world := { unlinkedPayments.world with ticks := 4 } } :=
  @updateBilling_all_or_nothing (some 11) ({ plusOrganization 1 with subscriptionId := none }.toModel none)
    (some .business) none unlinkedPayments _ _ rfl

/-! ## The upgrade gate -/

theorem listed_eq (t : SubscriptionTables) (f : SubscriptionFilter) :
    listed t f = (t.subscriptions.rows.filter f.selects).mapM (·.toModel) :=
  List.mapM_map

theorem mem_of_listed {t : SubscriptionTables} {f : SubscriptionFilter} {subscriptions : List SubscriptionMethod}
    (h : listed t f = .ok subscriptions) (s : SubscriptionMethod) :
    s ∈ subscriptions ↔ ∃ e ∈ t.subscriptions.rows, f.selects e = true ∧ e.toModel = .ok s := by
  rw [listed_eq] at h
  rw [mem_of_mapM_ok h]
  simp only [List.mem_filter, and_assoc]

theorem exists_listed_iff {t : SubscriptionTables} {f : SubscriptionFilter} :
    (∃ subscriptions, listed t f = .ok subscriptions) ↔
      ∀ e ∈ t.subscriptions.rows, f.selects e = true → ∃ s, e.toModel = .ok s := by
  rw [listed_eq, exists_mapM_ok_iff]
  simp only [List.mem_filter, and_imp]

theorem ofUser_selects {userId : Option UserId} {e : SubscriptionEntity} :
    (ofUser userId).selects e = true ↔ e.active = true ∧ ∀ u, userId = some u → e.userId = some u := by
  cases userId <;> simp [ofUser, SubscriptionFilter.selects, equalsGiven, truthy, and_comm]

theorem ofWorkspace_selects {workspace : Workspace} {e : SubscriptionEntity} :
    (ofWorkspace workspace).selects e = true ↔ e.active = true ∧ e.stripeWorkspaceId = some workspace.id := by
  simp [ofWorkspace, SubscriptionFilter.selects, equalsGiven, truthy]

/-- The rows that are read for the payment methods of a workspace can be read. -/
structure Readable (t : SubscriptionTables) (userId : Option UserId) (workspace : Workspace) : Prop where
  linked : ∀ sid e, workspace.subscriptionId = some sid → t.subscriptions.find sid = some e → ∃ s, e.toModel = .ok s
  ofUser : ∀ e ∈ t.subscriptions.rows, (ofUser userId).selects e = true → ∃ s, e.toModel = .ok s
  ofWorkspace : ∀ e ∈ t.subscriptions.rows, (ofWorkspace workspace).selects e = true → ∃ s, e.toModel = .ok s

def ActiveSubscription (t : SubscriptionTables) (workspace : Workspace) : Prop :=
  ∃ sid e, workspace.subscriptionId = some sid ∧ t.subscriptions.find sid = some e ∧ e.active = true

theorem currentMethod_linked {t : SubscriptionTables} {workspace : Workspace} {sid : SubscriptionId}
    {e : SubscriptionEntity} (hlink : workspace.subscriptionId = some sid) (hfind : t.subscriptions.find sid = some e) :
    currentMethod t workspace = e.toModel.map fun s => if e.active then s.paymentMethod else .noPaymentMethod := by
  unfold currentMethod Fix.getSubscription
  rw [hlink]
  dsimp only
  rw [hfind]
  dsimp only
  cases hs : e.toModel with
  | error err => rfl
  | ok s =>
    have hactive : s.active = e.active := (SubscriptionEntity.toModel_ok hs).2.1
    rw [← hactive]
    rfl

theorem currentMethod_unlinked {t : SubscriptionTables} {workspace : Workspace}
    (h : ∀ sid, workspace.subscriptionId = some sid → t.subscriptions.find sid = none) :
    currentMethod t workspace = .ok .noPaymentMethod := by
  unfold currentMethod Fix.getSubscription
  cases hlink : workspace.subscriptionId with
  | none => rfl
  | some sid =>
    simp only [h sid hlink]

theorem paymentMethod_ne_none (s : SubscriptionMethod) : s.paymentMethod ≠ .noPaymentMethod := by
  cases s <;> exact PaymentMethod.noConfusion

theorem linked_cases (t : SubscriptionTables) (workspace : Workspace) :
    (∃ sid e, workspace.subscriptionId = some sid ∧ t.subscriptions.find sid = some e) ∨
      ∀ sid, workspace.subscriptionId = some sid → t.subscriptions.find sid = none := by
  cases hlink : workspace.subscriptionId with
  | none => exact Or.inr fun sid h => (by cases h)
  | some sid =>
    cases hfind : t.subscriptions.find sid with
    | none =>
      refine Or.inr fun x hx => ?_
      cases hx
      exact hfind
    | some e => exact Or.inl ⟨sid, e, rfl, hfind⟩

/-- **The current payment method is missing exactly when the workspace has no active subscription.** -/
theorem currentMethod_eq_none_iff {t : SubscriptionTables} {workspace : Workspace} {m : PaymentMethod}
    (h : currentMethod t workspace = .ok m) : m = .noPaymentMethod ↔ ¬ActiveSubscription t workspace := by
  rcases linked_cases t workspace with ⟨sid, e, hlink, hfind⟩ | hnone
  · rw [currentMethod_linked hlink hfind] at h
    cases hs : e.toModel with
    | error err =>
      rw [hs] at h
      cases h
    | ok s =>
    rw [hs] at h
    cases h
    have hactive : ActiveSubscription t workspace ↔ e.active = true := by
      constructor
      · rintro ⟨x, e', hx, he', ha⟩
        rw [hlink] at hx
        cases hx
        rw [hfind] at he'
        cases he'
        exact ha
      · exact fun ha => ⟨sid, e, hlink, hfind, ha⟩
    rw [hactive]
    dsimp only
    by_cases ha : e.active = true
    · rw [if_pos ha]
      exact ⟨fun hnone => absurd hnone (paymentMethod_ne_none s), fun hno => absurd ha hno⟩
    · rw [if_neg ha]
      exact ⟨fun _ => ha, fun _ => rfl⟩
  · rw [currentMethod_unlinked hnone] at h
    cases h
    refine ⟨fun _ => ?_, fun _ => rfl⟩
    rintro ⟨sid, e, hlink, hfind, -⟩
    rw [hnone sid hlink] at hfind
    cases hfind

theorem paymentMethods_reads {t : SubscriptionTables} {workspace : Workspace} {userId : Option UserId}
    {now later : DateTime} {methods : WorkspacePaymentMethods}
    (h : paymentMethods t workspace userId now later = .ok methods) :
    ∃ user own, currentMethod t workspace = .ok methods.current ∧ listed t (ofUser userId) = .ok user ∧
      listed t (ofWorkspace workspace) = .ok own ∧
      methods.available = (if workspace.currentProductTier now = .free ∨ workspace.currentProductTier later = .trial
          then [.noPaymentMethod] else []) ++ (user.filter (·.isAws)).map (·.paymentMethod) ++
        (own.filter (!·.isAws)).map (·.paymentMethod) := by
  unfold paymentMethods at h
  cases hcurrent : currentMethod t workspace with
  | error e =>
    rw [hcurrent] at h
    cases h
  | ok current =>
    cases huser : listed t (ofUser userId) with
    | error e =>
      rw [hcurrent, huser] at h
      cases h
    | ok user =>
      cases hown : listed t (ofWorkspace workspace) with
      | error e =>
        rw [hcurrent, huser, hown] at h
        cases h
      | ok own =>
        rw [hcurrent, huser, hown] at h
        cases h
        exact ⟨user, own, rfl, rfl, rfl, rfl⟩

/-- The payment methods are listed exactly when the rows can be read. -/
theorem exists_paymentMethods_iff {t : SubscriptionTables} {workspace : Workspace} {userId : Option UserId}
    {now later : DateTime} :
    (∃ methods, paymentMethods t workspace userId now later = .ok methods) ↔ Readable t userId workspace := by
  constructor
  · rintro ⟨methods, h⟩
    obtain ⟨user, own, hcurrent, huser, hown, -⟩ := paymentMethods_reads h
    refine ⟨fun sid e hlink hfind => ?_, exists_listed_iff.1 ⟨user, huser⟩, exists_listed_iff.1 ⟨own, hown⟩⟩
    cases hs : e.toModel with
    | ok s => exact ⟨s, rfl⟩
    | error err =>
      rw [currentMethod_linked hlink hfind, hs] at hcurrent
      cases hcurrent
  · intro hread
    have hcurrent : ∃ current, currentMethod t workspace = .ok current := by
      rcases linked_cases t workspace with ⟨sid, e, hlink, hfind⟩ | hnone
      · obtain ⟨s, hs⟩ := hread.linked sid e hlink hfind
        exact ⟨_, by rw [currentMethod_linked hlink hfind, hs]; rfl⟩
      · exact ⟨_, currentMethod_unlinked hnone⟩
    obtain ⟨current, hcurrent⟩ := hcurrent
    obtain ⟨user, huser⟩ := exists_listed_iff.2 hread.ofUser
    obtain ⟨own, hown⟩ := exists_listed_iff.2 hread.ofWorkspace
    unfold paymentMethods
    rw [hcurrent, huser, hown]
    exact ⟨_, rfl⟩

theorem mem_awsMethods {subscriptions : List SubscriptionMethod} {m : PaymentMethod} :
    m ∈ (subscriptions.filter (·.isAws)).map (·.paymentMethod) ↔
      ∃ s, .awsMarketplace s ∈ subscriptions ∧ m = .awsSubscription s.id := by
  rw [List.mem_map]
  constructor
  · rintro ⟨x, hx, rfl⟩
    obtain ⟨hmem, haws⟩ := List.mem_filter.1 hx
    cases x with
    | awsMarketplace s => exact ⟨s, hmem, rfl⟩
    | stripe s => cases haws
  · rintro ⟨s, hs, rfl⟩
    exact ⟨.awsMarketplace s, List.mem_filter.2 ⟨hs, rfl⟩, rfl⟩

theorem mem_stripeMethods {subscriptions : List SubscriptionMethod} {m : PaymentMethod} :
    m ∈ (subscriptions.filter (!·.isAws)).map (·.paymentMethod) ↔
      ∃ s, .stripe s ∈ subscriptions ∧ m = .stripeSubscription s.id := by
  rw [List.mem_map]
  constructor
  · rintro ⟨x, hx, rfl⟩
    obtain ⟨hmem, hstripe⟩ := List.mem_filter.1 hx
    cases x with
    | awsMarketplace s => cases hstripe
    | stripe s => exact ⟨s, hmem, rfl⟩
  · rintro ⟨s, hs, rfl⟩
    exact ⟨.stripe s, List.mem_filter.2 ⟨hs, rfl⟩, rfl⟩

theorem paymentMethods_ok {t : SubscriptionTables} {workspace : Workspace} {userId : Option UserId}
    {now later : DateTime}
    {methods : WorkspacePaymentMethods} (h : paymentMethods t workspace userId now later = .ok methods) :
    currentMethod t workspace = .ok methods.current ∧
    ∀ m, m ∈ methods.available ↔
      (m = .noPaymentMethod ∧
        (workspace.currentProductTier now = .free ∨ workspace.currentProductTier later = .trial)) ∨
      (∃ e ∈ t.subscriptions.rows, ∃ s, (ofUser userId).selects e = true ∧ e.toModel = .ok (.awsMarketplace s) ∧
        m = .awsSubscription s.id) ∨
      ∃ e ∈ t.subscriptions.rows, ∃ s, (ofWorkspace workspace).selects e = true ∧ e.toModel = .ok (.stripe s) ∧
        m = .stripeSubscription s.id := by
  obtain ⟨user, own, hcurrent, huser, hown, havailable⟩ := paymentMethods_reads h
  refine ⟨hcurrent, fun m => ?_⟩
  rw [havailable, List.mem_append, List.mem_append, mem_awsMethods, mem_stripeMethods, or_assoc]
  refine or_congr ?_ (or_congr ?_ ?_)
  · split
    · rename_i hfree
      rw [List.mem_singleton, and_iff_left hfree]
    · rename_i hpaid
      exact ⟨fun h => absurd h List.not_mem_nil, fun h => absurd h.2 hpaid⟩
  · constructor
    · rintro ⟨s, hs, rfl⟩
      obtain ⟨e, he, hsel, hmodel⟩ := (mem_of_listed huser _).1 hs
      exact ⟨e, he, s, hsel, hmodel, rfl⟩
    · rintro ⟨e, he, s, hsel, hmodel, rfl⟩
      exact ⟨s, (mem_of_listed huser _).2 ⟨e, he, hsel, hmodel⟩, rfl⟩
  · constructor
    · rintro ⟨s, hs, rfl⟩
      obtain ⟨e, he, hsel, hmodel⟩ := (mem_of_listed hown _).1 hs
      exact ⟨e, he, s, hsel, hmodel, rfl⟩
    · rintro ⟨e, he, s, hsel, hmodel, rfl⟩
      exact ⟨s, (mem_of_listed hown _).2 ⟨e, he, hsel, hmodel⟩, rfl⟩

def WithinLimits (p : Payments) (workspace : Workspace) (tier : ProductTier) : Prop :=
  (∀ limit, (productTierSettings tier).accountLimit = some limit → limit ≠ 0 → numberOfAccounts p workspace ≤ limit) ∧
    ((productTierSettings tier).seatsIncluded ≠ 0 →
      workspace.allUsers.length ≤ (productTierSettings tier).seatsIncluded)

theorem validateProductTier_iff (p : Payments) (workspace : Workspace) (tier : ProductTier) :
    validateProductTier workspace (numberOfAccounts p workspace) tier = .ok ⟨⟩ ↔ WithinLimits p workspace tier := by
  unfold validateProductTier WithinLimits
  dsimp only
  split
  · rename_i haccounts
    refine ⟨fun h => (by cases h), fun h => ?_⟩
    obtain ⟨limit, hlimit, hexceeded⟩ := (Option.any_eq_true _ _).1 haccounts
    have hwithin := h.1 limit hlimit
    simp only [decide_eq_true_eq] at hexceeded
    omega
  · rename_i haccounts
    split
    · rename_i hseats
      refine ⟨fun h => (by cases h), fun h => ?_⟩
      have hwithin := h.2 hseats.1
      omega
    · rename_i hseats
      refine ⟨fun _ => ⟨fun limit hlimit hne => ?_, fun hne => ?_⟩, fun _ => rfl⟩
      · by_contra hexceeded
        apply haccounts
        rw [Option.any_eq_true]
        exact ⟨limit, hlimit, by rw [decide_eq_true_eq]; omega⟩
      · by_contra hexceeded
        exact hseats ⟨hne, by omega⟩

theorem checked_ok_iff {p : Payments} {userId : Option UserId} {workspace : Workspace} {tier : Option ProductTier}
    {method : Option PaymentMethod} {methods : WorkspacePaymentMethods} :
    checked p userId workspace tier method = .ok methods ↔
      paymentMethods p.tables workspace userId (p.world.clock (p.world.ticks + 1)) (p.world.clock (p.world.ticks + 2)) =
        .ok methods ∧ (∀ t, tier = some t → WithinLimits p workspace t) ∧
      ∀ m, method = some m → m ∈ methods.available := by
  have htier : (tier.forM fun t => validateProductTier workspace (numberOfAccounts p workspace) t) = .ok ⟨⟩ ↔
      ∀ t, tier = some t → WithinLimits p workspace t := by
    cases tier with
    | none => exact ⟨fun _ t ht => (by cases ht), fun _ => rfl⟩
    | some t =>
      refine (validateProductTier_iff p workspace t).trans ⟨fun h x hx => ?_, fun h => h t rfl⟩
      cases hx
      exact h
  have hmethod : ∀ ms : WorkspacePaymentMethods, (method.forM fun m => validatePaymentMethod ms m) = .ok ⟨⟩ ↔
      ∀ m, method = some m → m ∈ ms.available := by
    intro ms
    cases method with
    | none => exact ⟨fun _ m hm => (by cases hm), fun _ => rfl⟩
    | some m =>
      have hvalid : validatePaymentMethod ms m = .ok ⟨⟩ ↔ m ∈ ms.available := by
        unfold validatePaymentMethod
        split
        · rename_i hm
          exact ⟨fun _ => hm, fun _ => rfl⟩
        · rename_i hm
          exact ⟨fun h => (by cases h), fun h => absurd h hm⟩
      refine hvalid.trans ⟨fun h x hx => ?_, fun h => h m rfl⟩
      cases hx
      exact h
  unfold checked
  rw [← htier]
  cases hread : paymentMethods p.tables workspace userId (p.world.clock (p.world.ticks + 1))
      (p.world.clock (p.world.ticks + 2)) with
  | error e => exact ⟨fun h => (by cases h), fun h => (by cases h.1)⟩
  | ok ms =>
    have hms := hmethod ms
    cases ht : tier.forM fun t => validateProductTier workspace (numberOfAccounts p workspace) t with
    | error e =>
      simp only [bind, Except.bind]
      exact ⟨fun h => (by cases h), fun h => (by cases h.2.1)⟩
    | ok u =>
      cases hm : method.forM fun m => validatePaymentMethod ms m with
      | error e =>
        simp only [bind, Except.bind, hm]
        refine ⟨fun h => (by cases h), fun h => ?_⟩
        cases h.1
        rw [hms.2 h.2.2] at hm
        cases hm
      | ok u' =>
        simp only [bind, Except.bind, hm]
        constructor
        · intro h
          cases h
          exact ⟨rfl, trivial, hms.1 hm⟩
        · intro h
          cases h.1
          rfl

/-- The tier that a successful change selects, when it is another one and paid, needs a link of the stored row. -/
theorem updateProductTier_ok_cases {userId : Option UserId} {workspace updated : Workspace}
    {currentTier tier : ProductTier} {p p' : Payments}
    (h : exec (updateProductTier userId workspace currentTier tier) p = (.ok updated, p')) :
    (tier = currentTier ∧ p' = p) ∨ ∃ o o', p.world.organizations.find workspace.id = some o ∧
      (tier.paid = true → o.subscriptionId.isSome) ∧ o'.subscriptionId = o.subscriptionId ∧
      p'.world.organizations.find workspace.id = some o' := by
  rcases updateProductTier_cases userId workspace currentTier tier p with
    ⟨hsame, hexec⟩ | ⟨-, e, hexec⟩ | ⟨o, o', q, -, hfind, hsel, hafter, hexec⟩
  · cases hexec.symm.trans h
    exact Or.inl ⟨hsame, rfl⟩
  · cases hexec.symm.trans h
  · cases hexec.symm.trans h
    refine Or.inr ⟨o, o', hfind, fun hpaid => ?_, (Organization.selectTier_keeps hsel).2.1, hafter⟩
    -- without a link the repository refuses a paid tier
    by_contra hunlinked
    have hnone : o.subscriptionId.isNone = true := by simpa using hunlinked
    unfold Organization.selectTier at hsel
    rw [if_pos (by rw [hnone, hpaid]; rfl)] at hsel
    cases hsel

theorem whenGiven_tier_ok {userId : Option UserId} {workspace updated : Workspace} {currentTier : ProductTier}
    {tier : Option ProductTier} {p p' : Payments}
    (h : exec (whenGiven tier workspace (updateProductTier userId workspace currentTier)) p = (.ok updated, p')) :
    (∀ t, tier = some t → t.paid = true → t = currentTier ∨
      ∃ o, p.world.organizations.find workspace.id = some o ∧ o.subscriptionId.isSome) ∧
    ∀ o, p.world.organizations.find workspace.id = some o →
      ∃ o', p'.world.organizations.find workspace.id = some o' ∧ o'.subscriptionId = o.subscriptionId := by
  cases tier with
  | none =>
    cases h
    exact ⟨fun t ht => (by cases ht), fun o ho => ⟨o, ho, rfl⟩⟩
  | some t =>
    rcases updateProductTier_ok_cases h with ⟨rfl, rfl⟩ | ⟨o, o', ho, hpaid, hlink, ho'⟩
    · exact ⟨fun x hx _ => Or.inl (Option.some.inj hx).symm, fun o ho => ⟨o, ho, rfl⟩⟩
    · refine ⟨fun x hx hxpaid => ?_, fun x hx => ?_⟩
      · cases hx
        exact Or.inr ⟨o, ho, hpaid hxpaid⟩
      · rw [ho] at hx
        cases hx
        exact ⟨o', ho', hlink⟩

/-- **What successful writes leave.**  The row stays linked as it was, or is linked to the new payment method. -/
theorem write_ok_cases {userId : Option UserId} {workspace updated : Workspace} {currentTier : ProductTier}
    {methods : WorkspacePaymentMethods} {tier : Option ProductTier} {method : Option PaymentMethod} {p p' : Payments}
    (h : exec (write userId workspace currentTier methods tier method) p = (.ok updated, p')) :
    ((∀ m, method = some m → m = methods.current) ∧
      (∀ t, tier = some t → t.paid = true → t = currentTier ∨
        ∃ o, p.world.organizations.find workspace.id = some o ∧ o.subscriptionId.isSome) ∧
      ∀ o, p.world.organizations.find workspace.id = some o →
        ∃ o', p'.world.organizations.find workspace.id = some o' ∧ o'.subscriptionId = o.subscriptionId) ∨
    ∃ m sid, method = some m ∧ subscriptionOf m = some sid ∧ m ≠ methods.current ∧
      ∃ o', p'.world.organizations.find workspace.id = some o' ∧ o'.subscriptionId = some sid := by
  unfold write at h
  rw [exec_bind] at h
  cases method with
  | none => exact Or.inl ⟨fun m hm => (by cases hm), whenGiven_tier_ok h⟩
  | some m =>
    dsimp only [whenGiven] at h
    rcases updatePaymentMethod_cases workspace methods m p with
      ⟨rfl, hexec⟩ | ⟨-, e, hexec⟩ | ⟨sid, o, hcurrent, hm, hid, hfind, hexec⟩
    · rw [hexec] at h
      exact Or.inl ⟨fun m hm => (Option.some.inj hm).symm, whenGiven_tier_ok h⟩
    · rw [hexec] at h
      cases h
    · rw [hexec] at h
      let linked : Organization := { o with subscriptionId := some sid }
      have hlinked : (withOrganization p linked).world.organizations.find (linked.toModel none).id = some linked :=
        find_withOrganization (hid ▸ hfind : p.world.organizations.find o.id = some o) rfl
      obtain ⟨o', ho', hlink⟩ := (whenGiven_tier_ok h).2 linked hlinked
      have hkey : (linked.toModel none).id = workspace.id := hid
      rw [hkey] at ho'
      exact Or.inr ⟨m, sid, rfl, hm, hcurrent, o', ho', hlink⟩

def OwnedBy (userId : Option UserId) (workspaceId : WorkspaceId) : SubscriptionMethod → Prop
  | .awsMarketplace s => ∃ user, userId = some user ∧ s.userId = some user
  | .stripe s => s.workspaceId = some workspaceId

/-- **What a successful `update_billing` promises**: a paid tier is paid for, by the current payment method or by a new
one that is available, and a subscription that it attaches is active and belongs to the user or the workspace. -/
structure UpgradeGate (userId : Option UserId) (workspace : Workspace) (tier : Option ProductTier)
    (method : Option PaymentMethod) (p p' : Payments) : Prop where
  paid : ∀ t, tier = some t → t.paid = true → ∃ methods,
    (exec (getPaymentMethods workspace userId) (p.ticked 1)).1 = .ok methods ∧
      (methods.current ≠ .noPaymentMethod ∨
        ∃ m, method = some m ∧ m ≠ .noPaymentMethod ∧ m ∈ methods.available)
  attached : ∀ o o' sid, p.world.organizations.find workspace.id = some o →
    p'.world.organizations.find workspace.id = some o' → o'.subscriptionId = some sid → o.subscriptionId ≠ some sid →
    ∃ s, Fix.getSubscription p.tables.subscriptions sid = .ok (some s) ∧ s.active = true ∧ OwnedBy userId workspace.id s

/-- A paid tier is asked for without a subscription, and nothing else refuses it. -/
structure UpgradesUnpaid (userId : Option UserId) (workspace : Workspace) (tier : Option ProductTier)
    (method : Option PaymentMethod) (p : Payments) : Prop where
  readable : Readable p.tables userId workspace
  unpaid : ¬ActiveSubscription p.tables workspace
  without : method = none ∨ method = some .noPaymentMethod ∧
    (workspace.currentProductTier (p.world.clock (p.world.ticks + 1)) = .free ∨
      workspace.currentProductTier (p.world.clock (p.world.ticks + 2)) = .trial)
  upgrade : ∃ t, tier = some t ∧ t.paid = true ∧ WithinLimits p workspace t ∧
    (t = workspace.currentProductTier (p.world.clock p.world.ticks) ∨
      ∃ o, p.world.organizations.find workspace.id = some o ∧ o.subscriptionId.isSome)

/-- Without a user, an AWS subscription of whomever is attached, and nothing refuses it. -/
structure AttachesForeign (userId : Option UserId) (workspace : Workspace) (tier : Option ProductTier)
    (method : Option PaymentMethod) (p : Payments) : Prop where
  readable : Readable p.tables userId workspace
  noUser : userId = none
  within : ∀ t, tier = some t → WithinLimits p workspace t
  foreign : ∃ e s, e ∈ p.tables.subscriptions.rows ∧ e.active = true ∧ e.toModel = .ok (.awsMarketplace s) ∧
    method = some (.awsSubscription s.id) ∧ workspace.subscriptionId ≠ some s.id ∧
    ∃ o, p.world.organizations.find workspace.id = some o ∧ o.subscriptionId ≠ some s.id

theorem getSubscription_of_mem {subscriptions : Subscriptions} {e : SubscriptionEntity} {s : SubscriptionMethod}
    (he : e ∈ subscriptions.rows) (hs : e.toModel = .ok s) : Fix.getSubscription subscriptions s.id = .ok (some s) := by
  have hid : s.id = e.id := (SubscriptionEntity.toModel_ok hs).1
  have hfind : subscriptions.find s.id = some e := (Table.find_eq_some_iff _ _ _).2 ⟨he, hid.symm⟩
  unfold Fix.getSubscription
  rw [hfind]
  dsimp only
  rw [hs]
  rfl

theorem currentMethod_subscription {t : SubscriptionTables} {workspace : Workspace} {m : PaymentMethod}
    {sid : SubscriptionId} (h : currentMethod t workspace = .ok m) (hm : subscriptionOf m = some sid) :
    workspace.subscriptionId = some sid := by
  rcases linked_cases t workspace with ⟨x, e, hlink, hfind⟩ | hnone
  · rw [currentMethod_linked hlink hfind] at h
    cases hs : e.toModel with
    | error err =>
      rw [hs] at h
      cases h
    | ok s =>
      rw [hs] at h
      cases h
      have hid : s.id = x := (SubscriptionEntity.toModel_ok hs).1.trans (Table.key_of_find hfind)
      by_cases ha : e.active = true
      · simp only [ha, if_true] at hm
        rw [hlink, ← hid, ← hm]
        cases s <;> rfl
      · simp only [ha] at hm
        cases hm
  · rw [currentMethod_unlinked hnone] at h
    cases h
    cases hm

theorem currentMethod_of_active {t : SubscriptionTables} {workspace : Workspace} {e : SubscriptionEntity}
    {s : SubscriptionMethod} (he : e ∈ t.subscriptions.rows) (hs : e.toModel = .ok s) (ha : e.active = true)
    (hlink : workspace.subscriptionId = some s.id) : currentMethod t workspace = .ok s.paymentMethod := by
  have hid : s.id = e.id := (SubscriptionEntity.toModel_ok hs).1
  have hfind : t.subscriptions.find s.id = some e := (Table.find_eq_some_iff _ _ _).2 ⟨he, hid.symm⟩
  rw [currentMethod_linked hlink hfind, hs, ha]
  rfl

theorem getPaymentMethods_ticked (workspace : Workspace) (userId : Option UserId) (p : Payments) :
    (exec (getPaymentMethods workspace userId) (p.ticked 1)).1 = paymentMethods p.tables workspace userId
      (p.world.clock (p.world.ticks + 1)) (p.world.clock (p.world.ticks + 2)) := by
  rw [exec_getPaymentMethods]
  rfl

section Gate

variable {userId : Option UserId} {workspace : Workspace} {tier : Option ProductTier} {method : Option PaymentMethod}
  {p : Payments}

theorem upgradeGate_of_ok {updated : Workspace} {p' : Payments}
    (h : exec (updateBilling userId workspace tier method) p = (.ok updated, p'))
    (hunpaid : ¬UpgradesUnpaid userId workspace tier method p)
    (hforeign : ¬AttachesForeign userId workspace tier method p) : UpgradeGate userId workspace tier method p p' := by
  rw [exec_updateBilling] at h
  cases hchecked : checked p userId workspace tier method with
  | error e =>
    rw [hchecked] at h
    cases h
  | ok methods =>
  rw [hchecked] at h
  have hwritten := write_ok_cases h
  obtain ⟨hmethods, hwithin, havailable⟩ := checked_ok_iff.1 hchecked
  obtain ⟨hcurrent, hlisted⟩ := paymentMethods_ok hmethods
  have hread : Readable p.tables userId workspace := exists_paymentMethods_iff.1 ⟨methods, hmethods⟩
  constructor
  · intro t ht hpaid
    refine ⟨methods, (getPaymentMethods_ticked workspace userId p).trans hmethods, ?_⟩
    by_contra hno
    rw [not_or, not_not] at hno
    obtain ⟨hnone, hnew⟩ := hno
    have hwithout : ∀ m, method = some m → m = .noPaymentMethod := by
      intro m hm
      by_contra hne
      exact hnew ⟨m, hm, hne, havailable m hm⟩
    refine hunpaid ⟨hread, (currentMethod_eq_none_iff hcurrent).1 hnone, ?_, t, ht, hpaid, hwithin t ht, ?_⟩
    · cases hm : method with
      | none => exact Or.inl rfl
      | some m =>
        have hmnone := hwithout m hm
        subst hmnone
        rcases (hlisted _).1 (havailable _ hm) with ⟨-, hfree⟩ | ⟨e, -, s, -, -, hs⟩ | ⟨e, -, s, -, -, hs⟩
        · exact Or.inr ⟨rfl, hfree⟩
        · cases hs
        · cases hs
    · rcases hwritten with ⟨-, htier, -⟩ | ⟨m, sid, hm, hsid, -⟩
      · exact htier t ht hpaid
      · rw [hwithout m hm] at hsid
        cases hsid
  · intro o o' sid ho ho' hlink hother
    rcases hwritten with ⟨-, -, hsame⟩ | ⟨m, x, hm, hx, hne, o'', ho'', hlink'⟩
    · obtain ⟨o'', ho'', hlink'⟩ := hsame o ho
      rw [ho'] at ho''
      cases ho''
      rw [hlink] at hlink'
      exact absurd hlink'.symm hother
    · rw [ho'] at ho''
      cases ho''
      rw [hlink] at hlink'
      cases hlink'
      rcases (hlisted m).1 (havailable m hm) with ⟨rfl, -⟩ | ⟨e, he, s, hsel, hs, rfl⟩ | ⟨e, he, s, hsel, hs, rfl⟩
      · cases hx
      · obtain ⟨ha, huser⟩ := ofUser_selects.1 hsel
        cases hx
        have hactive : s.active = e.active := (SubscriptionEntity.toModel_ok hs).2.1
        refine ⟨.awsMarketplace s, getSubscription_of_mem he hs, hactive.trans ha, ?_⟩
        cases hacting : userId with
        | some user =>
          refine ⟨user, rfl, ?_⟩
          exact (SubscriptionEntity.toModel_owner hs).trans (huser user hacting)
        | none =>
          refine absurd ⟨hread, hacting, hwithin, e, s, he, ha, hs, hm, fun hlinked => ?_, o, ho, hother⟩ hforeign
          rw [currentMethod_of_active he hs ha hlinked] at hcurrent
          exact hne (Except.ok.inj hcurrent)
      · obtain ⟨ha, hown⟩ := ofWorkspace_selects.1 hsel
        cases hx
        have hactive : s.active = e.active := (SubscriptionEntity.toModel_ok hs).2.1
        refine ⟨.stripe s, getSubscription_of_mem he hs, hactive.trans ha, ?_⟩
        exact (SubscriptionEntity.toModel_owner hs).trans hown

theorem updateBilling_unpaid (h : UpgradesUnpaid userId workspace tier method p) :
    ∃ updated p', exec (updateBilling userId workspace tier method) p = (.ok updated, p') := by
  obtain ⟨t, ht, hpaid, hlimits, hselected⟩ := h.upgrade
  obtain ⟨methods, hmethods⟩ := exists_paymentMethods_iff.2 h.readable
  obtain ⟨hcurrent, hlisted⟩ := paymentMethods_ok hmethods
  have hnone : methods.current = .noPaymentMethod := (currentMethod_eq_none_iff hcurrent).2 h.unpaid
  have hchecked : checked p userId workspace tier method = .ok methods := by
    refine checked_ok_iff.2 ⟨hmethods, fun x hx => ?_, fun m hm => ?_⟩
    · rw [ht] at hx
      cases hx
      exact hlimits
    · rcases h.without with hno | ⟨hno, hfree⟩ <;> rw [hno] at hm <;> cases hm
      exact (hlisted _).2 (Or.inl ⟨rfl, hfree⟩)
  rw [exec_updateBilling, hchecked]
  dsimp only
  have hkept : exec (whenGiven method workspace (updatePaymentMethod workspace methods)) (p.ticked 3) =
      (.ok workspace, p.ticked 3) := by
    rcases h.without with hno | ⟨hno, -⟩
    · rw [hno]
      rfl
    · rw [hno, ← hnone]
      exact exec_updatePaymentMethod_current workspace methods _
  unfold write
  rw [exec_bind, hkept, ht]
  dsimp only [whenGiven]
  rcases hselected with hsame | ⟨o, ho, hlink⟩
  · rw [← hsame]
    exact ⟨_, _, exec_updateProductTier_same userId workspace t _⟩
  · exact exec_updateProductTier_linked userId (p := p.ticked 3) ho hlink _ t

theorem updateBilling_foreign (h : AttachesForeign userId workspace tier method p) :
    ∃ updated p' o o' s, exec (updateBilling userId workspace tier method) p = (.ok updated, p') ∧
      p.world.organizations.find workspace.id = some o ∧ p'.world.organizations.find workspace.id = some o' ∧
      o'.subscriptionId = some s.id ∧ o.subscriptionId ≠ some s.id ∧
      Fix.getSubscription p.tables.subscriptions s.id = .ok (some (.awsMarketplace s)) := by
  obtain ⟨e, s, he, ha, hs, hmethod, hunlinked, o, ho, hother⟩ := h.foreign
  obtain ⟨methods, hmethods⟩ := exists_paymentMethods_iff.2 h.readable
  obtain ⟨hcurrent, hlisted⟩ := paymentMethods_ok hmethods
  have hchecked : checked p userId workspace tier method = .ok methods := by
    refine checked_ok_iff.2 ⟨hmethods, h.within, fun m hm => ?_⟩
    rw [hmethod] at hm
    cases hm
    refine (hlisted _).2 (Or.inr (Or.inl ⟨e, he, s, ofUser_selects.2 ⟨ha, fun u hu => ?_⟩, hs, rfl⟩))
    rw [h.noUser] at hu
    cases hu
  have hne : PaymentMethod.awsSubscription s.id ≠ methods.current := by
    intro hsame
    exact hunlinked (currentMethod_subscription hcurrent (by rw [← hsame]; rfl))
  have hid : o.id = workspace.id := Table.key_of_find ho
  let linked : Organization := { o with subscriptionId := some s.id }
  have hlinked : (withOrganization (p.ticked 3) linked).world.organizations.find (linked.toModel none).id =
      some linked := by
    refine find_withOrganization (?_ : (p.ticked 3).world.organizations.find o.id = some o) rfl
    rw [hid]
    exact ho
  have hok : ∃ updated p', exec (updateBilling userId workspace tier method) p = (.ok updated, p') := by
    have hstored : (p.ticked 3).world.organizations.find workspace.id = some o := ho
    rw [exec_updateBilling, hchecked, hmethod]
    dsimp only
    unfold write
    rw [exec_bind]
    dsimp only [whenGiven]
    rw [exec_updatePaymentMethod_other rfl hne, hstored]
    dsimp only
    cases tier with
    | none => exact ⟨_, _, rfl⟩
    | some t => exact exec_updateProductTier_linked userId hlinked rfl _ t
  obtain ⟨updated, p', hok⟩ := hok
  refine ⟨updated, p', o, ?_⟩
  have hwritten := hok
  rw [exec_updateBilling, hchecked] at hwritten
  rcases write_ok_cases hwritten with ⟨hsame, -⟩ | ⟨m, sid, hm, hsid, -, o', ho', hlink⟩
  · exact absurd (hsame _ hmethod) hne
  · rw [hmethod] at hm
    cases hm
    cases hsid
    exact ⟨o', s, hok, ho, ho', hlink, hother, getSubscription_of_mem he hs⟩

/-- **When the upgrade gate holds**: unless a paid tier is asked for without a subscription and nothing else refuses it,
or an AWS subscription is attached for no user. -/
theorem updateBilling_gated_iff (userId : Option UserId) (workspace : Workspace) (tier : Option ProductTier)
    (method : Option PaymentMethod) (p : Payments) :
    (∀ updated p', exec (updateBilling userId workspace tier method) p = (.ok updated, p') →
      UpgradeGate userId workspace tier method p p') ↔
    ¬UpgradesUnpaid userId workspace tier method p ∧ ¬AttachesForeign userId workspace tier method p := by
  constructor
  · intro hgate
    constructor
    · intro hunpaid
      obtain ⟨updated, p', hok⟩ := updateBilling_unpaid hunpaid
      obtain ⟨t, ht, hpaid, -⟩ := hunpaid.upgrade
      obtain ⟨methods, hmethods, hpays⟩ := (hgate updated p' hok).paid t ht hpaid
      rw [getPaymentMethods_ticked] at hmethods
      have hnone := (currentMethod_eq_none_iff (paymentMethods_ok hmethods).1).2 hunpaid.unpaid
      rcases hpays with hcurrent | ⟨m, hm, hne, -⟩
      · exact hcurrent hnone
      · rcases hunpaid.without with hno | ⟨hno, -⟩ <;> rw [hno] at hm <;> cases hm
        exact hne rfl
    · intro hforeign
      obtain ⟨updated, p', o, o', s, hok, ho, ho', hlink, hother, hs⟩ := updateBilling_foreign hforeign
      obtain ⟨x, hx, -, hown⟩ := (hgate updated p' hok).attached o o' s.id ho ho' hlink hother
      rw [hs] at hx
      cases hx
      obtain ⟨user, huser, -⟩ := hown
      rw [hforeign.noUser] at huser
      cases huser
  · rintro ⟨hunpaid, hforeign⟩ updated p' hok
    exact upgradeGate_of_ok hok hunpaid hforeign

end Gate

/-- The workspace is linked to a subscription that is not active any more. -/
def lapsedPayments : Payments :=
  { marchPayments with tables := ⟨⟨[{ plusSubscription with active := false }], by decide⟩, []⟩ }

theorem lapsed_upgrade_not_gated : ¬∀ updated p',
    exec (updateBilling (some 11) ((plusOrganization 1).toModel none) (some .business) none) lapsedPayments =
      (.ok updated, p') →
    UpgradeGate (some 11) ((plusOrganization 1).toModel none) (some .business) none lapsedPayments p' := by
  intro h
  obtain ⟨methods, hmethods, hpays⟩ := (h _ _ rfl).paid .business rfl rfl
  have hnone : methods.current = .noPaymentMethod := by
    cases hmethods
    rfl
  rcases hpays with hcurrent | ⟨m, hm, -⟩
  · exact hcurrent hnone
  · cases hm

end BillingEntryService

end Fix
