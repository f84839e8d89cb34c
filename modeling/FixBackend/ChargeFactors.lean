import FixBackend.Billing
/-!
# ChargeFactors — how the length of a period becomes a charge

`compute_billing_period_factor` over the times at which charges are due, and the usage that `create_billing_entry` makes
of it.  A charge is due at nine o'clock, and the job that makes it may be late.
-/
namespace Fix

open Calendar

/-! ## A regular charge -/

/-- A charge is due at nine o'clock of the first of a month, or of any day. -/
def BillingPeriod.Due : BillingPeriod → DateTime → Prop
  | month, c => ∃ d : Date, d.day = 1 ∧ c = d.atHour 9
  | day, c => ∃ d : Date, c = d.atHour 9

/-- How late a charge may be: three days of a month, or four hours of a day. -/
def BillingPeriod.maxDelay : BillingPeriod → Nat
  | month => 3 * dayMicros
  | day => 4 * 3600000000

def BillingPeriod.Delayed (period : BillingPeriod) (c t : DateTime) : Prop := c ≤ t ∧ t ≤ c.addMicros period.maxDelay

theorem toMicros_atHour (d : Date) : (d.atHour 9).toMicros = dayMicros * d.ordinal + 9 * 3600000000 := rfl

theorem sameMonth_of_delayed {d : Date} (hd : d.day = 1) {t : DateTime}
    (h : BillingPeriod.month.Delayed (d.atHour 9) t) : d.sameMonth t.date := by
  obtain ⟨hfrom, hto⟩ := h
  have hdays := daysInMonth_ge d.year d.month
  refine DateTime.sameMonth_of_lt_endOfMonth hfrom ?_
  have hend : (d.atHour 9).endOfMonth.toMicros =
      dayMicros * (d.ordinal + daysInMonth d.year d.month - 1) + (dayMicros - 1) := by
    simp only [DateTime.toMicros, DateTime.endOfMonth, Date.atHour, Date.ordinal, hd]
    congr 2
    omega
  simp only [DateTime.le_def, DateTime.lt_def, DateTime.toMicros_addMicros, toMicros_atHour, hend,
    BillingPeriod.maxDelay, dayMicros] at hto ⊢
  omega

theorem ordinal_of_delayed {d : Date} {t : DateTime} (h : BillingPeriod.day.Delayed (d.atHour 9) t) :
    t.date.ordinal = d.ordinal := by
  obtain ⟨hfrom, hto⟩ := h
  have hinDay := t.inDay
  have htime : t.toMicros = dayMicros * t.date.ordinal + t.micros := rfl
  simp only [DateTime.le_def, DateTime.toMicros_addMicros, toMicros_atHour, htime, BillingPeriod.maxDelay, dayMicros]
    at hfrom hto hinDay
  omega

/-- The next charge after one of a month is due when all of its days are over. -/
theorem toMicros_startOfNextMonth {d : Date} (hd : d.day = 1) {t : DateTime} (h : d.sameMonth t.date) :
    (startOfNextMonth t 9).toMicros = (d.atHour 9).toMicros + dayMicros * daysInMonth d.year d.month := by
  have hnext := d.ordinal_nextMonth
  unfold startOfNextMonth
  rw [← Date.nextMonth_congr h, toMicros_atHour, toMicros_atHour]
  simp only [dayMicros]
  omega

theorem toMicros_startOfNextDay {d : Date} {t : DateTime} (h : t.date.ordinal = d.ordinal) :
    (startOfNextDay t 9).toMicros = (d.atHour 9).toMicros + dayMicros := by
  unfold startOfNextDay
  rw [toMicros_atHour, toMicros_atHour, Date.ordinal_nextDay, h]
  simp only [dayMicros]
  omega

/-- What lies inside of the tolerance counts as one period. -/
theorem factor_of_within {billingTime lastCharged : DateTime} {periodValue : Int}
    (hlower : 8333 * periodValue < 10000 * billingTime.sub lastCharged)
    (hupper : 10000 * billingTime.sub lastCharged < 11667 * periodValue) :
    computeBillingPeriodFactor billingTime lastCharged periodValue = 1 := by
  have hlower' : (8333 : ℚ) * periodValue < 10000 * (billingTime.sub lastCharged : ℤ) := by exact_mod_cast hlower
  have hupper' : (10000 : ℚ) * (billingTime.sub lastCharged : ℤ) < 11667 * periodValue := by exact_mod_cast hupper
  unfold computeBillingPeriodFactor
  dsimp only
  rw [if_pos]
  constructor <;> linarith

theorem factor_of_delayed {period : BillingPeriod} {c n t₁ t₂ : DateTime} {length : Nat}
    (h₁ : period.Delayed c t₁) (h₂ : period.Delayed n t₂) (hn : n.toMicros = c.toMicros + length)
    (hshort : 8333 * period.value < 10000 * ((length : Int) - period.maxDelay))
    (hlong : 10000 * ((length : Int) + period.maxDelay) < 11667 * period.value) :
    computeBillingPeriodFactor t₂ t₁ period.value = 1 := by
  obtain ⟨hfrom₁, hto₁⟩ := h₁
  obtain ⟨hfrom₂, hto₂⟩ := h₂
  simp only [DateTime.le_def, DateTime.toMicros_addMicros, hn] at hfrom₁ hto₁ hfrom₂ hto₂
  apply factor_of_within
  · simp only [DateTime.sub]
    omega
  · simp only [DateTime.sub]
    omega

/-- **A regular charge counts as one full period**, and the next period starts later. -/
theorem regularCharge_fullPeriod :
    (∀ (period : BillingPeriod) (c t₁ t₂ : DateTime), period.Due c → period.Delayed c t₁ →
      period.Delayed (startOfNextPeriod period t₁ 9) t₂ → computeBillingPeriodFactor t₂ t₁ period.value = 1) ∧
    ∀ (period : BillingPeriod) (t : DateTime), t < startOfNextPeriod period t 9 := by
  refine ⟨fun period c t₁ t₂ hdue h₁ h₂ => ?_, fun period t => lt_startOfNextPeriod period t 9⟩
  cases period with
  | month =>
    obtain ⟨d, hd, rfl⟩ := hdue
    have hnext := toMicros_startOfNextMonth hd (sameMonth_of_delayed hd h₁)
    have hshort := daysInMonth_ge d.year d.month
    have hlong := daysInMonth_le d.year d.month
    apply factor_of_delayed h₁ h₂ hnext
    · simp only [BillingPeriod.value, BillingPeriod.maxDelay, dayMicros]
      omega
    · simp only [BillingPeriod.value, BillingPeriod.maxDelay, dayMicros]
      omega
  | day =>
    obtain ⟨d, rfl⟩ := hdue
    exact factor_of_delayed h₁ h₂ (toMicros_startOfNextDay (ordinal_of_delayed h₁)) (by decide) (by decide)

theorem regularCharge_fullPeriod_february :
    computeBillingPeriodFactor ((mar.date.atHour 9).addMicros dayMicros) ((feb.date.atHour 9).addMicros 5)
      BillingPeriod.month.value = 1 :=
  regularCharge_fullPeriod.1 .month (feb.date.atHour 9) _ _ ⟨feb.date, by decide, rfl⟩
    ⟨by decide +kernel, by decide +kernel⟩ ⟨by decide +kernel, by decide +kernel⟩

/-! ## Longer periods and more accounts -/

theorem le_iff_sub_nonneg {billingTime lastCharged : DateTime} :
    lastCharged ≤ billingTime ↔ 0 ≤ billingTime.sub lastCharged := by
  simp only [DateTime.le_def, DateTime.sub]
  omega

theorem factor_nonneg {billingTime lastCharged : DateTime} {periodValue : Int} (hvalue : 0 < periodValue)
    (h : lastCharged ≤ billingTime) : 0 ≤ computeBillingPeriodFactor billingTime lastCharged periodValue := by
  have hvalue' : (0 : ℚ) < periodValue := by exact_mod_cast hvalue
  have hdelta : (0 : ℚ) ≤ billingTime.sub lastCharged := by exact_mod_cast le_iff_sub_nonneg.1 h
  simp only [computeBillingPeriodFactor]
  split_ifs
  · exact zero_le_one
  · exact div_nonneg hdelta hvalue'.le

theorem factor_mono {billingTime lastCharged billingTime' lastCharged' : DateTime} {periodValue : Int}
    (hvalue : 0 < periodValue) (h : billingTime.sub lastCharged ≤ billingTime'.sub lastCharged') :
    computeBillingPeriodFactor billingTime lastCharged periodValue ≤
      computeBillingPeriodFactor billingTime' lastCharged' periodValue := by
  have hvalue' : (0 : ℚ) < periodValue := by exact_mod_cast hvalue
  have hdelta : (billingTime.sub lastCharged : ℚ) ≤ billingTime'.sub lastCharged' := by exact_mod_cast h
  simp only [computeBillingPeriodFactor]
  split_ifs with hin hin' hin'
  · exact le_refl 1
  · -- The longer period is above the tolerance.
    have habove := le_of_not_gt fun hlt => hin' ⟨hin.1.trans_le hdelta, hlt⟩
    rw [le_div_iff₀ hvalue']
    linarith
  · -- The shorter period is below the tolerance.
    have hbelow := le_of_not_gt fun hlt => hin ⟨hlt, hdelta.trans_lt hin'.2⟩
    rw [div_le_iff₀ hvalue']
    linarith
  · exact div_le_div_of_nonneg_right hdelta hvalue'.le

theorem truncate_of_nonneg {q : ℚ} (h : 0 ≤ q) : truncate q = ⌊q⌋ := by
  rw [Rat.floor_def']
  exact Int.tdiv_eq_ediv_of_nonneg (Rat.num_nonneg.2 h)

theorem truncate_mono {p q : ℚ} (hp : 0 ≤ p) (h : p ≤ q) : truncate p ≤ truncate q := by
  rw [truncate_of_nonneg hp, truncate_of_nonneg (hp.trans h)]
  exact Int.floor_le_floor h

theorem accountsIncluded_mono {tier tier' : ProductTier} (h : tier ≤ tier') :
    (productTierSettings tier).accountsIncluded ≤ (productTierSettings tier').accountsIncluded := by
  revert h
  cases tier <;> cases tier' <;> decide

/-- The accounts with at least 100 resources and 3 collects in the period of an entry. -/
def BillingStore.accountsOf (st : BillingStore) (e : BillingEntry) : Nat :=
  (st.summaries e.workspaceId e.periodStart e.periodEnd).length

def BillingEntry.length (e : BillingEntry) : Int := e.periodEnd.sub e.periodStart

theorem createBillingEntry_usage {period : BillingPeriod} {st : BillingStore} {subscription : SubscriptionMethod}
    {now : Option DateTime} {utcNow : DateTime} {uid : BillingId} {e : BillingEntry}
    (h : (createBillingEntry period st subscription now utcNow uid).1 = some e) :
    e.tier = st.highestTier e.workspaceId e.periodStart e.periodEnd ∧
      e.nrOfAccountsCharged =
        max (truncate (st.accountsOf e * computeBillingPeriodFactor e.periodEnd e.periodStart period.value))
          (productTierSettings e.tier).accountsIncluded := by
  unfold createBillingEntry at h
  dsimp only at h
  split at h
  · cases h
  · split at h
    · cases h
    · split at h
      · cases h
      · obtain rfl := Option.some.inj h
        exact ⟨rfl, rfl⟩

theorem BillingPeriod.value_pos (period : BillingPeriod) : 0 < period.value := by
  cases period <;> decide

/-- **Charges are monotone**: the factor in the length of the period, and what a call charges in the length of the
period, the number of accounts and their highest tier; it is never below the accounts that this tier includes. -/
theorem charges_monotone :
    (∀ (periodValue : Int) (billingTime lastCharged billingTime' lastCharged' : DateTime), 0 < periodValue →
      lastCharged ≤ billingTime → lastCharged' ≤ billingTime' →
      0 ≤ computeBillingPeriodFactor billingTime lastCharged periodValue ∧
      (billingTime.sub lastCharged ≤ billingTime'.sub lastCharged' →
        computeBillingPeriodFactor billingTime lastCharged periodValue ≤
          computeBillingPeriodFactor billingTime' lastCharged' periodValue)) ∧
    (∀ (period : BillingPeriod) (st st' : BillingStore) (subscription subscription' : SubscriptionMethod)
      (now now' : Option DateTime) (utcNow utcNow' : DateTime) (uid uid' : BillingId) (e e' : BillingEntry),
      (createBillingEntry period st subscription now utcNow uid).1 = some e →
      (createBillingEntry period st' subscription' now' utcNow' uid').1 = some e' →
      e.periodStart ≤ e.periodEnd → e.length ≤ e'.length → st.accountsOf e ≤ st'.accountsOf e' → e.tier ≤ e'.tier →
      e.nrOfAccountsCharged ≤ e'.nrOfAccountsCharged) ∧
    ∀ (period : BillingPeriod) (st : BillingStore) (subscription : SubscriptionMethod) (now : Option DateTime)
      (utcNow : DateTime) (uid : BillingId) (e : BillingEntry),
      (createBillingEntry period st subscription now utcNow uid).1 = some e →
      e.tier = st.highestTier e.workspaceId e.periodStart e.periodEnd ∧
        (productTierSettings e.tier).accountsIncluded ≤ e.nrOfAccountsCharged := by
  refine ⟨fun v t l t' l' hvalue h _ => ⟨factor_nonneg hvalue h, factor_mono hvalue⟩, ?_, ?_⟩
  · intro period st st' _ _ _ _ _ _ _ _ e e' he he' hle hlength haccounts htier
    rw [(createBillingEntry_usage he).2, (createBillingEntry_usage he').2]
    have hnonneg := factor_nonneg period.value_pos hle
    have haccounts' : (st.accountsOf e : ℚ) ≤ st'.accountsOf e' := by exact_mod_cast haccounts
    apply max_le_max
    · apply truncate_mono
      · exact mul_nonneg (Nat.cast_nonneg _) hnonneg
      · exact mul_le_mul haccounts' (factor_mono period.value_pos hlength) hnonneg (Nat.cast_nonneg _)
    · exact_mod_cast accountsIncluded_mono htier
  · intro _ _ _ _ _ _ e he
    obtain ⟨htier, husage⟩ := createBillingEntry_usage he
    refine ⟨htier, ?_⟩
    rw [husage]
    exact le_max_right _ _

def marchEntry : BillingEntry :=
  (createBillingEntry .month twoWorkspaces plusMethod (some mar) mar 40).1.get (by decide +kernel)

def lateEntry : BillingEntry :=
  (createBillingEntry .month twoWorkspaces plusMethod (some (mar.addMicros (14 * dayMicros))) mar 40).1.get
    (by decide +kernel)

theorem charges_monotone_march :
    computeBillingPeriodFactor mar feb BillingPeriod.month.value ≤
        computeBillingPeriodFactor (mar.addMicros (14 * dayMicros)) feb BillingPeriod.month.value ∧
      marchEntry.nrOfAccountsCharged ≤ lateEntry.nrOfAccountsCharged ∧
      (productTierSettings marchEntry.tier).accountsIncluded ≤ marchEntry.nrOfAccountsCharged := by
  have hmarch : (createBillingEntry .month twoWorkspaces plusMethod (some mar) mar 40).1 = some marchEntry :=
    (Option.some_get _).symm
  have hlate : (createBillingEntry .month twoWorkspaces plusMethod (some (mar.addMicros (14 * dayMicros))) mar 40).1 =
      some lateEntry := (Option.some_get _).symm
  exact ⟨(charges_monotone.1 BillingPeriod.month.value mar feb _ feb (by decide) (by decide) (by decide)).2 (by decide),
    charges_monotone.2.1 .month _ _ _ _ _ _ _ _ _ _ _ _ hmarch hlate (by decide +kernel) (by decide +kernel)
      (by decide +kernel) (by decide +kernel),
    (charges_monotone.2.2 .month _ _ _ _ _ _ hmarch).2⟩

end Fix
