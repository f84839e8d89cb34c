import FixBackend.BillingPeriods
import FixBackend.Machine
import FixBackend.SubscriptionRepository
/-!
# BillingProgress — the billing job gets on with every subscription

A call of `create_billing_entry` moves the charge timestamps through both exits of the loop over the workspaces; without
a workspace the loop has no body to run and the timestamps stay.  A workspace that is attached later is then billed for
the time before it was.
-/
namespace Fix

open Calendar Machine

/-! ## What the job does later -/

/-- The store, and the subscriptions that the job has read and not billed yet. -/
structure BillingRun where
  store : BillingStore
  read : List SubscriptionMethod

inductive BillingMove where
  | read (subscriptionId : SubscriptionId)
  | bill (subscription : SubscriptionMethod) (call : BillingCall)
  /-- Workspaces are created, attached to a subscription and taken from it. -/
  | assign (organizations : Organizations)
  | collect (metering : List MeteringRecord)

def billingStep (period : BillingPeriod) (r : BillingRun) : BillingMove → Option BillingRun
  | .read subscriptionId =>
    (storedSubscription r.store subscriptionId).map fun subscription => { r with read := subscription :: r.read }
  | .bill subscription c =>
    if subscription ∈ r.read then
      some { r with store := (createBillingEntry period r.store subscription c.now c.utcNow c.uid).2 }
    else none
  | .assign organizations => some { r with store := { r.store with organizations := organizations } }
  | .collect metering => some { r with store := { r.store with metering := metering } }

/-- A bill is not made before `t`. -/
def BillingMove.NotBefore (t : DateTime) : BillingMove → Prop
  | .bill _ c => t ≤ c.billingTime
  | _ => True

instance (t : DateTime) (m : BillingMove) : Decidable (m.NotBefore t) :=
  match m with
  | .bill _ c => inferInstanceAs (Decidable (t ≤ c.billingTime))
  | .read _ | .assign _ | .collect _ => inferInstanceAs (Decidable True)

/-- What `create_overdue_billing_entries` selects. -/
def overdue (now : DateTime) : SubscriptionFilter := { active := some true, nextChargeTimestampBefore := some now }

/-- **The job is done with the subscription at `t`**: it is charged then and next later, it is not selected any more,
and no later call bills a period that began before. -/
structure Progresses (period : BillingPeriod) (subscriptionId : SubscriptionId) (t : DateTime) (st : BillingStore) :
    Prop where
  charged : ∃ row next, st.subscriptions.find subscriptionId = some row ∧ row.lastChargeTimestamp = some t ∧
    row.nextChargeTimestamp = some next ∧ t < next
  notSelected : ∀ e ∈ st.subscriptions.rows, e.id = subscriptionId → (overdue t).selects e = false
  laterPeriods : ∀ moves r, (∀ m ∈ moves, m.NotBefore t) → run (billingStep period) ⟨st, []⟩ moves = some r →
    ∃ new, r.store.billing = st.billing ++ new ∧ ∀ e ∈ new, e.subscriptionId = subscriptionId → t ≤ e.periodStart

/-! ## One call -/

theorem overdue_selects_of_lt {e : SubscriptionEntity} {t next : DateTime} (hnext : e.nextChargeTimestamp = some next)
    (hlt : t < next) : (overdue t).selects e = false := by
  have hnot : ¬next ≤ t := Nat.not_le.2 hlt
  simp [overdue, SubscriptionFilter.selects, equalsGiven, truthy, hnext, hnot]

theorem find_updateChargeTimestamp_of_ne (subscriptions : Subscriptions) {sid other : SubscriptionId} (h : other ≠ sid)
    (now next : DateTime) : (updateChargeTimestamp subscriptions sid now next).find other =
      subscriptions.find other := by
  unfold updateChargeTimestamp
  cases hfind : subscriptions.find sid with
  | none => rfl
  | some row =>
    have hkey : row.id = sid := Table.key_of_find hfind
    have hne : other ≠ row.id := by
      rw [hkey]
      exact h
    exact Table.find_replace_of_ne subscriptions hne

/-- **What a call writes**: nothing, or a charge at the billing time, and then at most an entry of the period since the
last charge. -/
theorem createBillingEntry_writes (period : BillingPeriod) (st : BillingStore) (subscription : SubscriptionMethod)
    (now : Option DateTime) (utcNow : DateTime) (uid : BillingId) :
    let st' := (createBillingEntry period st subscription now utcNow uid).2
    (st'.subscriptions = st.subscriptions ∨ st'.subscriptions = updateChargeTimestamp st.subscriptions subscription.id
        (now.getD utcNow) (startOfNextPeriod period (now.getD utcNow) 9)) ∧
    (st'.billing = st.billing ∨ ∃ e, st'.billing = st.billing ++ [e] ∧ e.subscriptionId = subscription.id ∧
        e.periodStart = periodStart subscription (now.getD utcNow)) := by
  unfold createBillingEntry
  split
  · exact ⟨Or.inl rfl, Or.inl rfl⟩
  · split
    · exact ⟨Or.inl rfl, Or.inl rfl⟩
    · dsimp only
      split
      · exact ⟨Or.inr rfl, Or.inl rfl⟩
      · exact ⟨Or.inr rfl, Or.inr ⟨_, rfl, rfl, rfl⟩⟩

/-! ## Later calls -/

/-- The subscription, if it is this one, was charged at `t` or later. -/
def ChargedFrom (subscriptionId : SubscriptionId) (t : DateTime) (s : SubscriptionMethod) : Prop :=
  s.id = subscriptionId → ∃ last, s.lastChargeTimestamp = some last ∧ t ≤ last

/-- What holds from a charge at `t` on, `before` being the entries of the time before. -/
structure ChargedSince (subscriptionId : SubscriptionId) (t : DateTime) (before : List BillingEntry) (r : BillingRun) :
    Prop where
  stored : ∃ row last, r.store.subscriptions.find subscriptionId = some row ∧ row.lastChargeTimestamp = some last ∧
    t ≤ last
  read : ∀ s ∈ r.read, ChargedFrom subscriptionId t s
  billed : ∃ new, r.store.billing = before ++ new ∧ ∀ e ∈ new, e.subscriptionId = subscriptionId → t ≤ e.periodStart

theorem storedSubscription_some {st : BillingStore} {sid : SubscriptionId} {s : SubscriptionMethod}
    (h : storedSubscription st sid = some s) : ∃ row, st.subscriptions.find sid = some row ∧ row.toModel = .ok s := by
  unfold storedSubscription getSubscription at h
  cases hfind : st.subscriptions.find sid with
  | none =>
    rw [hfind] at h
    cases h
  | some row =>
    rw [hfind] at h
    cases hmodel : row.toModel with
    | error e =>
      simp only [hmodel] at h
      cases h
    | ok s' =>
      simp only [hmodel] at h
      cases h
      exact ⟨row, rfl, hmodel⟩

/-- **One move of the job keeps the charge.** -/
theorem ChargedSince.step {period : BillingPeriod} {subscriptionId : SubscriptionId} {t : DateTime}
    {before : List BillingEntry} {r r' : BillingRun} {m : BillingMove} (h : ChargedSince subscriptionId t before r)
    (hm : m.NotBefore t) (hstep : billingStep period r m = some r') : ChargedSince subscriptionId t before r' := by
  cases m with
  | read sid =>
    obtain ⟨s, hs, rfl⟩ := Option.map_eq_some_iff.1 hstep
    refine ⟨h.stored, fun x hx => ?_, h.billed⟩
    rcases List.mem_cons.1 hx with rfl | hx
    · intro hid
      obtain ⟨row, hrow, hmodel⟩ := storedSubscription_some hs
      obtain ⟨hkey, -, hlast⟩ := SubscriptionEntity.toModel_ok hmodel
      have hsid : sid = subscriptionId := by rw [← hid, hkey, Table.key_of_find hrow]
      subst hsid
      obtain ⟨stored, last, hstored, hcharge, hle⟩ := h.stored
      rw [hrow] at hstored
      cases hstored
      exact ⟨last, hlast.trans hcharge, hle⟩
    · exact h.read x hx
  | bill s c =>
    by_cases hs : s ∈ r.read
    · rw [billingStep, if_pos hs] at hstep
      cases hstep
      obtain ⟨hsubscriptions, hbilling⟩ := createBillingEntry_writes period r.store s c.now c.utcNow c.uid
      refine ⟨?_, h.read, ?_⟩
      · obtain ⟨row, last, hrow, hlast, hle⟩ := h.stored
        dsimp only
        rcases hsubscriptions with hsame | hcharged
        · rw [hsame]
          exact ⟨row, last, hrow, hlast, hle⟩
        · rw [hcharged]
          by_cases hid : subscriptionId = s.id
          · subst hid
            rw [find_updateChargeTimestamp hrow]
            exact ⟨_, _, rfl, rfl, hm⟩
          · rw [find_updateChargeTimestamp_of_ne _ hid]
            exact ⟨row, last, hrow, hlast, hle⟩
      · obtain ⟨new, hnew, hperiods⟩ := h.billed
        dsimp only
        rcases hbilling with hsame | ⟨e, hadded, hsub, hstart⟩
        · rw [hsame]
          exact ⟨new, hnew, hperiods⟩
        · rw [hadded, hnew, List.append_assoc]
          refine ⟨new ++ [e], rfl, fun x hx hid => ?_⟩
          rcases List.mem_append.1 hx with hx | hx
          · exact hperiods x hx hid
          · -- the new period starts at the last charge that was read
            rw [List.mem_singleton] at hx
            subst hx
            obtain ⟨last, hlast, hle⟩ := h.read s hs (hsub.symm.trans hid)
            rw [hstart, periodStart, hlast]
            exact hle
    · rw [billingStep, if_neg hs] at hstep
      cases hstep
  | assign organizations =>
    cases hstep
    exact ⟨h.stored, h.read, h.billed⟩
  | collect metering =>
    cases hstep
    exact ⟨h.stored, h.read, h.billed⟩

/-- **The charge is kept in every run of the job.** -/
theorem ChargedSince.run {period : BillingPeriod} {subscriptionId : SubscriptionId} {t : DateTime}
    {before : List BillingEntry} {r r' : BillingRun} {moves : List BillingMove}
    (h : ChargedSince subscriptionId t before r) (hmoves : ∀ m ∈ moves, m.NotBefore t)
    (hrun : Machine.run (billingStep period) r moves = some r') : ChargedSince subscriptionId t before r' :=
  run_along (fun _ _ _ hs hm hstep => hs.step hm hstep) h (along_of_forall hmoves r) hrun

theorem progresses_of_charged {period : BillingPeriod} {t next : DateTime} {st : BillingStore}
    {subscriptionId : SubscriptionId} {row : SubscriptionEntity}
    (hrow : st.subscriptions.find subscriptionId = some row) (hlast : row.lastChargeTimestamp = some t)
    (hnext : row.nextChargeTimestamp = some next) (hlt : t < next) : Progresses period subscriptionId t st where
  charged := ⟨row, next, hrow, hlast, hnext, hlt⟩
  notSelected := by
    intro e he hid
    have hfind : st.subscriptions.find subscriptionId = some e := (Table.find_eq_some_iff _ _ _).2 ⟨he, hid⟩
    rw [hrow] at hfind
    cases hfind
    exact overdue_selects_of_lt hnext hlt
  laterPeriods := by
    intro moves r hmoves hrun
    have hstart : ChargedSince subscriptionId t st.billing ⟨st, []⟩ :=
      ⟨⟨row, t, hrow, hlast, Nat.le_refl _⟩, fun s hs => (by cases hs),
        [], (List.append_nil _).symm, fun e he => (by cases he)⟩
    exact (hstart.run hmoves hrun).billed

/-- **When a call makes progress**: when the subscription has a workspace, or is charged at that very time already. -/
theorem createBillingEntry_progresses_iff (period : BillingPeriod) {st : BillingStore}
    {subscription : SubscriptionMethod}
    (now : Option DateTime) (utcNow : DateTime) (uid : BillingId) (hactive : subscription.active = true)
    {row : SubscriptionEntity} (hrow : st.subscriptions.find subscription.id = some row) :
    Progresses period subscription.id (now.getD utcNow) (createBillingEntry period st subscription now utcNow uid).2 ↔
      listWorkspacesBySubscriptionId st.organizations subscription.id ≠ [] ∨
      row.lastChargeTimestamp = some (now.getD utcNow) ∧
        ∃ next, row.nextChargeTimestamp = some next ∧ now.getD utcNow < next := by
  cases hw : listWorkspacesBySubscriptionId st.organizations subscription.id with
  | cons w rest =>
    refine ⟨fun _ => Or.inl (List.cons_ne_nil w rest), fun _ => ?_⟩
    have hcharged := createBillingEntry_subscriptions period now utcNow uid hactive hw
    have hfind := find_updateChargeTimestamp hrow (now.getD utcNow) (startOfNextPeriod period (now.getD utcNow) 9)
    rw [← hcharged] at hfind
    exact progresses_of_charged hfind rfl rfl (lt_startOfNextPeriod period _ 9)
  | nil =>
    have hsame : createBillingEntry period st subscription now utcNow uid = (none, st) := by
      rcases createBillingEntry_cases period st subscription now utcNow uid with ⟨-, h⟩ | ⟨w, rest, -, h, -⟩
      · exact h
      · rw [hw] at h
        cases h
    rw [hsame]
    constructor
    · intro h
      obtain ⟨row', next, hrow', hlast, hnext, hlt⟩ := h.charged
      rw [hrow] at hrow'
      cases hrow'
      exact Or.inr ⟨hlast, next, hnext, hlt⟩
    · rintro (h | ⟨hlast, next, hnext, hlt⟩)
      · exact absurd rfl h
      · exact progresses_of_charged hrow hlast hnext hlt

theorem createBillingEntry_progresses_twoWorkspaces : Progresses .month 20 mar
    (createBillingEntry .month twoWorkspaces plusMethod (some mar) mar 41).2 := by
  have hrow : twoWorkspaces.subscriptions.find plusMethod.id = some plusSubscription := by decide
  have hactive : plusMethod.active = true := rfl
  exact (createBillingEntry_progresses_iff .month (some mar) mar 41 hactive hrow).2 (Or.inl (by decide))

/-! ## A subscription without a workspace -/

def unattached : BillingStore := { twoWorkspaces with organizations := ⟨[], by decide⟩ }

/-- Workspace 1 is attached after the call of March, and billed in April. -/
def attachedInMarch : List BillingMove :=
  [.assign ⟨[plusOrganization 1], plusOrganization_unique⟩, .read 20, .bill plusMethod ⟨some apr, apr, 42⟩]

/-- The entry of April is for the time since February. -/
theorem unattached_not_progresses :
    ¬Progresses .month 20 mar (createBillingEntry .month unattached plusMethod (some mar) mar 41).2 := by
  intro h
  have hran : ∃ r, run (billingStep .month) ⟨(createBillingEntry .month unattached plusMethod (some mar) mar 41).2, []⟩
      attachedInMarch = some r ∧ r.store.billing.map (fun e => (e.subscriptionId, e.periodStart)) = [(20, feb)] := by
    exact ⟨_, rfl, by decide +kernel⟩
  obtain ⟨r, hrun, hbilling⟩ := hran
  obtain ⟨new, hnew, hperiods⟩ := h.laterPeriods attachedInMarch r (by decide) hrun
  have hbefore : (createBillingEntry .month unattached plusMethod (some mar) mar 41).2.billing = [] := by decide
  rw [hbefore, List.nil_append] at hnew
  rw [hnew] at hbilling
  obtain ⟨e, rfl, he⟩ := List.map_eq_singleton_iff.1 hbilling
  rw [Prod.mk.injEq] at he
  have hle := hperiods e (List.mem_singleton_self e) he.1
  rw [he.2] at hle
  revert hle
  decide

end Fix
